/-
  PrinterFirmware.Document.Yaml.Node
  ──────────────────────────────────
  **THE NODES OF A YAML DOCUMENT.**

  A stream of tokens holds one document, which is a node: a scalar, a sequence of
  nodes or a mapping of nodes to nodes.  An alias stands for the node of the latest
  anchor with its name, which has to be complete.  A node in turn stands for a
  value: the keys of a mapping have to be scalars, whose text counts whatever it
  would stand for elsewhere.

  Containers may be nested up to `maxDepth` deep, where an alias counts as the node
  it stands for.  How often aliases repeat a node is not bounded.
-/
import PrinterFirmware.Document.Yaml.Lexer

namespace PrinterFirmware.Document.Yaml

/-! ## §1. Nodes. -/

/-- A node. -/
inductive Node where
  | scalar (plain : Bool) (tag : Option Tag) (text : String)
  | sequence (elems : List Node)
  | mapping (entries : List (Node × Node))
  deriving Inhabited, Repr

namespace Node

/-- A missing node stands for nothing. -/
def missing : Node := .scalar true none "~"

/-- An empty node which has an anchor or a tag is a scalar without text. -/
def bare (tag : Option Tag) : Node := .scalar true tag ""

/-- The deepest nesting of containers. -/
def maxDepth : Nat := 128

/-- The text of a scalar. -/
def text? : Node → Option String
  | .scalar _ _ text => some text
  | _ => none

mutual

/-- The value of a node in which containers may be nested `depth` deep. -/
def value? (depth : Nat) : Node → Option Value
  | .scalar plain tag text =>
      match tag with
      | some tag => resolveTagged? tag text
      | none => if plain then resolve? text else some (.string text)
  | .sequence elems =>
      match depth with
      | 0 => none
      | depth + 1 => (values? depth elems).map .list
  | .mapping entries =>
      match depth with
      | 0 => none
      | depth + 1 => (fields? depth entries).map Value.ofFields

/-- The values of nodes. -/
def values? (depth : Nat) : List Node → Option (List Value)
  | [] => some []
  | n :: rest => do
      let v ← value? depth n
      let vs ← values? depth rest
      some (v :: vs)

/-- The fields of a mapping. -/
def fields? (depth : Nat) : List (Node × Node) → Option (List (String × Value))
  | [] => some []
  | (k, n) :: rest => do
      let key ← k.text?
      let v ← value? depth n
      let fs ← fields? depth rest
      some ((key, v) :: fs)

end

end Node

/-! ## §2. Reading state. -/

/-- The tokens which are left, with the anchors before them. -/
structure Reader where
  tokens : List Token
  /-- The anchors, latest first; one whose node is incomplete has no node yet. -/
  anchors : List (String × Option Node)

namespace Reader

/-- The next token. -/
def head (r : Reader) : Token := r.tokens.headD .streamEnd

/-- The state after the next token. -/
def next (r : Reader) : Reader := { r with tokens := r.tokens.tail }

/-- An optional anchor and an optional tag before a node, in either order. -/
def properties (r : Reader) : Option String × Option Tag × Reader :=
  match r.head with
  | .anchor name =>
      let r := r.next
      match r.head with
      | .tag t => (some name, some t, r.next)
      | _ => (some name, none, r)
  | .tag t =>
      let r := r.next
      match r.head with
      | .anchor name => (some name, some t, r.next)
      | _ => (none, some t, r)
  | _ => (none, none, r)

/-- The state in which the node of an anchor has begun. -/
def beginAnchor (r : Reader) (name? : Option String) : Reader :=
  match name? with
  | some name => { r with anchors := (name, none) :: r.anchors }
  | none => r

/-- The state in which the node of an anchor is complete.  `before` is the state
before the node; the anchors inside of it are later than its own. -/
def endAnchor (r : Reader) (name? : Option String) (before : Reader) (n : Node) : Reader :=
  match name? with
  | none => r
  | some name =>
      let inner := r.anchors.take (r.anchors.length - (before.anchors.length + 1))
      { r with anchors := inner ++ (name, some n) :: before.anchors }

/-- The node which an alias stands for. -/
def alias? (r : Reader) (name : String) : Option (Node × Reader) := do
  let n ← (← r.anchors.lookup name)
  some (n, r.next)

/-! ## §3. Nodes from tokens. -/

/-- Whether the value of a mapping, or an element of a sequence without
indentation, is missing before a token. -/
def isMissingBefore : Token → Bool
  | .key | .value | .blockEnd => true
  | _ => false

mutual

/-- A node.  `block` allows block collections, and `indentless` a block sequence
which is no deeper than the mapping around it. -/
def node? (block indentless : Bool) (fuel : Nat) (r : Reader) : Option (Node × Reader) :=
  match fuel with
  | 0 => none
  | fuel + 1 =>
    match r.head with
    | .alias_ name => r.alias? name
    | _ => do
      let (anchor, tag, r) := r.properties
      let before := r
      let (n, r) ← content? block indentless (anchor.isSome || tag.isSome) tag fuel
        (r.beginAnchor anchor)
      some (n, r.endAnchor anchor before n)

/-- What a node consists of after its anchor and its tag. -/
def content? (block indentless hasProperties : Bool) (tag : Option Tag) (fuel : Nat) (r : Reader) :
    Option (Node × Reader) :=
  match fuel with
  | 0 => none
  | fuel + 1 =>
    match r.head with
    | .blockEntry =>
        if indentless then indentless? [] fuel r
        else if hasProperties then some (.bare tag, r)
        else none
    | .scalar plain text => some (.scalar plain tag text, r.next)
    | .flowSequenceStart => flowSequence? true [] fuel r.next
    | .flowMappingStart => flowMapping? true [] fuel r.next
    | .blockSequenceStart =>
        if block then blockSequence? [] fuel r.next
        else if hasProperties then some (.bare tag, r)
        else none
    | .blockMappingStart =>
        if block then blockMapping? [] fuel r.next
        else if hasProperties then some (.bare tag, r)
        else none
    | _ => if hasProperties then some (.bare tag, r) else none

/-- The elements of a block sequence; `done` holds those before, last one
first. -/
def blockSequence? (done : List Node) (fuel : Nat) (r : Reader) : Option (Node × Reader) :=
  match fuel with
  | 0 => none
  | fuel + 1 =>
    match r.head with
    | .blockEnd => some (.sequence done.reverse, r.next)
    | .blockEntry =>
        match r.next.head with
        | .blockEntry | .blockEnd => blockSequence? (.missing :: done) fuel r.next
        | _ => do
            let (n, r) ← node? true false fuel r.next
            blockSequence? (n :: done) fuel r
    | _ => none

/-- The elements of a block sequence without indentation. -/
def indentless? (done : List Node) (fuel : Nat) (r : Reader) : Option (Node × Reader) :=
  match fuel with
  | 0 => none
  | fuel + 1 =>
    match r.head with
    | .blockEntry =>
        if isMissingBefore r.next.head || r.next.head == .blockEntry then
          indentless? (.missing :: done) fuel r.next
        else do
          let (n, r) ← node? true false fuel r.next
          indentless? (n :: done) fuel r
    | _ => some (.sequence done.reverse, r)

/-- The entries of a block mapping. -/
def blockMapping? (done : List (Node × Node)) (fuel : Nat) (r : Reader) :
    Option (Node × Reader) :=
  match fuel with
  | 0 => none
  | fuel + 1 =>
    match r.head with
    | .blockEnd => some (.mapping done.reverse, r.next)
    | .key => do
        let (k, r) ←
          if isMissingBefore r.next.head then some (.missing, r.next)
          else node? true true fuel r.next
        let (v, r) ← blockValue? fuel r
        blockMapping? ((k, v) :: done) fuel r
    | .value => do
        let (v, r) ← blockValue? fuel r
        blockMapping? ((.missing, v) :: done) fuel r
    | _ => none

/-- The value of an entry of a block mapping. -/
def blockValue? (fuel : Nat) (r : Reader) : Option (Node × Reader) :=
  match fuel with
  | 0 => none
  | fuel + 1 =>
    match r.head with
    | .value =>
        if isMissingBefore r.next.head then some (.missing, r.next)
        else node? true true fuel r.next
    | _ => some (.missing, r)

/-- The elements of a flow sequence. -/
def flowSequence? (first : Bool) (done : List Node) (fuel : Nat) (r : Reader) :
    Option (Node × Reader) :=
  match fuel with
  | 0 => none
  | fuel + 1 =>
    match r.head with
    | .flowSequenceEnd => some (.sequence done.reverse, r.next)
    | t =>
      if !first && t != .flowEntry then none
      else
        let r := if first then r else r.next
        match r.head with
        | .flowSequenceEnd => some (.sequence done.reverse, r.next)
        | .key => do
            let (n, r) ← flowPair? fuel r.next
            flowSequence? false (n :: done) fuel r
        | _ => do
            let (n, r) ← node? false false fuel r
            flowSequence? false (n :: done) fuel r

/-- A mapping of one entry which is an element of a flow sequence, after its key
token. -/
def flowPair? (fuel : Nat) (r : Reader) : Option (Node × Reader) :=
  match fuel with
  | 0 => none
  | fuel + 1 => do
    let (k, r) ←
      match r.head with
      | .value | .flowEntry | .flowSequenceEnd => some (.missing, r.next)
      | _ => node? false false fuel r
    let (v, r) ←
      match r.head with
      | .value =>
          match r.next.head with
          | .flowEntry | .flowSequenceEnd => some (.missing, r.next)
          | _ => node? false false fuel r.next
      | _ => some (.missing, r)
    some (.mapping [(k, v)], r)

/-- The entries of a flow mapping. -/
def flowMapping? (first : Bool) (done : List (Node × Node)) (fuel : Nat) (r : Reader) :
    Option (Node × Reader) :=
  match fuel with
  | 0 => none
  | fuel + 1 =>
    match r.head with
    | .flowMappingEnd => some (.mapping done.reverse, r.next)
    | t =>
      if !first && t != .flowEntry then none
      else
        let r := if first then r else r.next
        match r.head with
        | .flowMappingEnd => some (.mapping done.reverse, r.next)
        | .key => do
            let (k, r) ←
              match r.next.head with
              | .value | .flowEntry | .flowMappingEnd => some (.missing, r.next)
              | _ => node? false false fuel r.next
            let (v, r) ← flowValue? fuel r
            flowMapping? false ((k, v) :: done) fuel r
        | .value => do
            let (v, r) ← flowValue? fuel r
            flowMapping? false ((.missing, v) :: done) fuel r
        | _ => do
            let (k, r) ← node? false false fuel r
            flowMapping? false ((k, .missing) :: done) fuel r

/-- The value of an entry of a flow mapping. -/
def flowValue? (fuel : Nat) (r : Reader) : Option (Node × Reader) :=
  match fuel with
  | 0 => none
  | fuel + 1 =>
    match r.head with
    | .value =>
        match r.next.head with
        | .flowEntry | .flowMappingEnd => some (.missing, r.next)
        | _ => node? false false fuel r.next
    | _ => some (.missing, r)

end

/-! ## §4. Documents. -/

/-- The state after directives. -/
def skipDirectives (r : Reader) : Reader :=
  { r with tokens := r.tokens.dropWhile (· == .directive) }

/-- The state after ends of documents. -/
def skipDocumentEnds (r : Reader) : Reader :=
  { r with tokens := r.tokens.dropWhile (· == .documentEnd) }

/-- The bound on the number of calls which read a node: each of them reads a
token, or is one of the three around a token that is read. -/
def fuel (r : Reader) : Nat := 4 * r.tokens.length + 4

/-- The node of the first document. -/
def document? (r : Reader) : Option (Node × Reader) :=
  match r.head with
  | .directive | .documentStart =>
      let r := r.skipDirectives
      if r.head = .documentStart then
        let r := r.next
        match r.head with
        | .directive | .documentStart | .documentEnd | .streamEnd => some (.missing, r)
        | _ => node? true false r.fuel r
      else none
  | .streamEnd => none
  | _ => node? true false r.fuel r

/-- The only document of a stream. -/
def only? (r : Reader) : Option Node := do
  let (n, r) ← r.document?
  let r := r.skipDocumentEnds
  if r.head = .streamEnd then some n else none

end Reader

/-- Reads a whole text as the value of its only document. -/
def read? (text : String) : Option Value := do
  let tokens ← tokens? text
  let n ← (Reader.mk tokens []).only?
  n.value? Node.maxDepth

end PrinterFirmware.Document.Yaml
