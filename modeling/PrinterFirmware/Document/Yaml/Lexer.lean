/-
  PrinterFirmware.Document.Yaml.Lexer
  ───────────────────────────────────
  **CUTTING A YAML TEXT INTO TOKENS.**

  The state of the cutting and its steps.  Each step skips blanks and comments,
  closes the block collections which are deeper than the next token, and then adds
  that token.  A step that begins a scalar or a flow collection remembers that a
  mapping key may have begun there; the colon which makes it a key puts the tokens
  of the key in at the remembered place.
-/
import PrinterFirmware.Document.Yaml.Token

namespace PrinterFirmware.Document.Yaml

/-- A place where a mapping key may have begun. -/
structure KeyStart where
  /-- Whether a key may still follow. -/
  possible : Bool
  /-- Whether a key has to follow. -/
  required : Bool
  /-- The number of tokens before the key. -/
  tokens : Nat
  mark : Mark
  deriving Repr

namespace KeyStart

/-- No key has begun. -/
def none : KeyStart := ⟨false, false, 0, ⟨0, 0, 0⟩⟩

/-- The longest text of a key which has no question mark before it. -/
def maxLength : Nat := 1024

/-- Whether a key which began here is too far back at the mark `m`: keys end on
their line and have a bounded length. -/
def isStale (k : KeyStart) (m : Mark) : Bool :=
  k.possible && (decide (k.mark.line < m.line) || decide (k.mark.index + maxLength < m.index))

end KeyStart

/-- The state of the cutting. -/
structure Lexer where
  source : Source
  tokens : List Token
  /-- The column of the innermost open block collection, `-1` outside of all. -/
  indent : Int
  /-- The columns of the block collections around it. -/
  outerIndents : List Int
  /-- Where a key may have begun, for each open flow collection and outside of
  all, innermost first. -/
  keyStarts : List KeyStart
  flowDepth : Nat
  /-- Whether a key may begin at the next token. -/
  keyAllowed : Bool
  /-- The index right after a quoted scalar, where a colon needs no blank. -/
  adjacentValue : Nat

namespace Lexer

/-- The state before a text. -/
def start (text : String) : Lexer where
  source := ⟨text.toList, ⟨0, 0, 0⟩⟩
  tokens := []
  indent := -1
  outerIndents := []
  keyStarts := [.none]
  flowDepth := 0
  keyAllowed := true
  adjacentValue := 0

def mark (l : Lexer) : Mark := l.source.mark

def inFlow (l : Lexer) : Bool := 0 < l.flowDepth

/-- The state with one more token. -/
def push (l : Lexer) (t : Token) : Lexer := { l with tokens := l.tokens ++ [t] }

/-- The state with one more token, which has been read up to `s`. -/
def pushAt (l : Lexer) (t : Token) (s : Source) : Lexer := { l.push t with source := s }

def allowKey (l : Lexer) (allowed : Bool) : Lexer := { l with keyAllowed := allowed }

/-! ## §1. Blanks and indentation. -/

/-- Skips blanks, line breaks and comments.  A line break outside of brackets
allows a key, and a tab is no blank where a key may begin. -/
def skipBlanks : (fuel : Nat) → Lexer → Lexer
  | 0, l => l
  | fuel + 1, l =>
      let s := l.source
      let c := s.head
      if c == ' ' || (c == '\t' && (l.inFlow || !l.keyAllowed)) then
        skipBlanks fuel { l with source := s.next }
      else if isBreak c then
        let l := { l with source := s.skipBreak }
        skipBlanks fuel (if l.inFlow then l else l.allowKey true)
      else if c == '#' then skipBlanks fuel { l with source := s.skipLine }
      else l

/-- Opens a block collection at a column which is deeper than the innermost
one.  `at?` is the number of tokens before it, if that is not all of them. -/
def openBlock (l : Lexer) (column : Nat) (at? : Option Nat) (t : Token) : Lexer :=
  if l.inFlow || decide ((column : Int) ≤ l.indent) then l
  else
    { l with
      tokens := match at? with
        | some n => l.tokens.insertIdx n t
        | none => l.tokens ++ [t]
      indent := column
      outerIndents := l.indent :: l.outerIndents }

/-- Closes the block collections which are deeper than a column. -/
def closeBlocks (l : Lexer) (column : Int) : Lexer :=
  if l.inFlow then l else go l.outerIndents l
where
  /-- Closes one collection for each of the columns around, as far as needed. -/
  go : List Int → Lexer → Lexer
    | [], l => l
    | outer :: rest, l =>
        if column < l.indent then
          go rest { l.push .blockEnd with indent := outer, outerIndents := rest }
        else l

/-! ## §2. Keys. -/

/-- The innermost place where a key may have begun. -/
def keyStart (l : Lexer) : KeyStart := l.keyStarts.headD .none

def setKeyStart (l : Lexer) (k : KeyStart) : Lexer := { l with keyStarts := k :: l.keyStarts.tail }

/-- Gives up the innermost key, unless it has to follow. -/
def dropKey? (l : Lexer) : Option Lexer :=
  let k := l.keyStart
  if k.possible && k.required then none else some (l.setKeyStart { k with possible := false })

/-- Remembers that a key may begin at the next token. -/
def saveKey? (l : Lexer) : Option Lexer :=
  if l.keyAllowed then do
    let l' ← l.dropKey?
    let required := l.inFlow && l.indent == l.mark.column
    some (l'.setKeyStart ⟨true, required, l.tokens.length, l.mark⟩)
  else some l

/-- Gives up all keys which are too far back, unless one of them has to
follow. -/
def dropStaleKeys? (l : Lexer) : Option Lexer :=
  if l.keyStarts.any (fun k => k.isStale l.mark && k.required) then none
  else
    some { l with
      keyStarts := l.keyStarts.map fun k =>
        if k.isStale l.mark then { k with possible := false } else k }

/-! ## §3. Tokens. -/

/-- A bracket which opens a flow collection. -/
def openFlow? (l : Lexer) (t : Token) : Option Lexer := do
  let l ← l.saveKey?
  if 255 ≤ l.flowDepth then none
  else
    let l := { l with keyStarts := .none :: l.keyStarts, flowDepth := l.flowDepth + 1 }
    some ((l.allowKey true).pushAt t l.source.next)

/-- A bracket which closes a flow collection. -/
def closeFlow? (l : Lexer) (t : Token) : Option Lexer := do
  let l ← l.dropKey?
  let l :=
    if l.inFlow then { l with keyStarts := l.keyStarts.tail, flowDepth := l.flowDepth - 1 } else l
  some ((l.allowKey false).pushAt t l.source.next)

/-- A comma between the elements of a flow collection. -/
def flowEntry? (l : Lexer) : Option Lexer := do
  let l ← l.dropKey?
  some ((l.allowKey true).pushAt .flowEntry l.source.next)

/-- A dash before an element of a block sequence. -/
def blockEntry? (l : Lexer) : Option Lexer :=
  if l.inFlow || !l.keyAllowed then none
  else do
    let l ← (l.openBlock l.mark.column none .blockSequenceStart).dropKey?
    some ((l.allowKey true).pushAt .blockEntry l.source.next)

/-- A question mark before a key. -/
def explicitKey? (l : Lexer) : Option Lexer :=
  if !l.inFlow && !l.keyAllowed then none
  else do
    let l ← (l.openBlock l.mark.column none .blockMappingStart).dropKey?
    some ((l.allowKey !l.inFlow).pushAt .key l.source.next)

/-- A colon before a value. -/
def value? (l : Lexer) : Option Lexer :=
  let k := l.keyStart
  if k.possible then
    let l := { l with tokens := l.tokens.insertIdx k.tokens .key }
    let l := l.openBlock k.mark.column (some k.tokens) .blockMappingStart
    let l := (l.setKeyStart { k with possible := false }).allowKey false
    some (l.pushAt .value l.source.next)
  else if !l.inFlow && !l.keyAllowed then none
  else
    let l := l.openBlock l.mark.column none .blockMappingStart
    some ((l.allowKey !l.inFlow).pushAt .value l.source.next)

/-- A marker between documents. -/
def documentMarker? (l : Lexer) (t : Token) : Option Lexer := do
  let l ← (l.closeBlocks (-1)).dropKey?
  some ((l.allowKey false).pushAt t (l.source.skip 3))

/-- A directive. -/
def directive? (l : Lexer) : Option Lexer := do
  let l ← (l.closeBlocks (-1)).dropKey?
  let s ← takeDirective? l.source
  some ((l.allowKey false).pushAt .directive s)

/-- The end of the text. -/
def streamEnd? (l : Lexer) : Option Lexer := do
  let l ← (l.closeBlocks (-1)).dropKey?
  some ((l.allowKey false).push .streamEnd)

/-- An anchor, an alias or a tag. -/
def property? (l : Lexer) (take? : Source → Option (Token × Source)) : Option Lexer := do
  let l ← l.saveKey?
  let (t, s) ← take? l.source
  some ((l.allowKey false).pushAt t s)

/-- A quoted scalar. -/
def quoted? (l : Lexer) (single : Bool) : Option Lexer := do
  let l ← l.saveKey?
  let (text, s) ← takeQuoted? single l.source.chars.length [] l.source.next
  some { (l.allowKey false).pushAt (.scalar false text) s with adjacentValue := s.mark.index }

/-- The least column of the later lines of a scalar. -/
def innerColumn (l : Lexer) : Nat := (l.indent + 1).toNat

/-- A block scalar. -/
def blockScalar? (l : Lexer) (folded : Bool) : Option Lexer := do
  let l ← l.saveKey?
  let (text, s) ← takeBlock? folded l.innerColumn l.source.next
  some ((l.allowKey true).pushAt (.scalar false text) s)

/-- A plain scalar. -/
def plain? (l : Lexer) : Option Lexer := do
  let l ← l.saveKey?
  let (text, broken, s) ←
    takePlain? l.inFlow l.innerColumn (l.source.chars.length + 1) [] .none l.source
  some ((l.allowKey broken).pushAt (.scalar true text) s)

/-- Whether the next character is a colon which stands before a value. -/
def atValue (l : Lexer) : Bool :=
  let s := l.source
  s.head == ':'
    && (isBlankOrEnd (s.peek 1)
      || (l.inFlow && (isFlowIndicator (s.peek 1) || s.mark.index == l.adjacentValue)))

/-- The token at the next character, which is no blank. -/
def token? (l : Lexer) : Option Lexer :=
  let s := l.source
  let c := s.head
  let blankAfter := isBlankOrEnd (s.peek 1)
  if s.mark.column = 0 ∧ c = '%' then l.directive?
  else if s.atMarker '-' then l.documentMarker? .documentStart
  else if s.atMarker '.' then l.documentMarker? .documentEnd
  else if c = '[' then l.openFlow? .flowSequenceStart
  else if c = '\x7b' then l.openFlow? .flowMappingStart
  else if c = ']' then l.closeFlow? .flowSequenceEnd
  else if c = '\x7d' then l.closeFlow? .flowMappingEnd
  else if c = ',' then l.flowEntry?
  else if c = '-' ∧ blankAfter then l.blockEntry?
  else if c = '?' ∧ blankAfter then l.explicitKey?
  else if l.atValue then l.value?
  else if c = '*' then
    l.property? fun s => (takeAnchorName? s.next).map fun (name, s) => (.alias_ name, s)
  else if c = '&' then
    l.property? fun s => (takeAnchorName? s.next).map fun (name, s) => (.anchor name, s)
  else if c = '!' then l.property? fun s => (takeTag? s).map fun (t, s) => (.tag t, s)
  else if c = '|' ∧ !l.inFlow then l.blockScalar? false
  else if c = '>' ∧ !l.inFlow then l.blockScalar? true
  else if c = '\'' then l.quoted? true
  else if c = '"' then l.quoted? false
  else if c = '%' ∨ c = '@' ∨ c = '\x60' then none
  else l.plain?

/-- Takes steps until the end of the text. -/
def run? (l : Lexer) : (fuel : Nat) → Option (List Token)
  | 0 => none
  | fuel + 1 => do
      let l ← (skipBlanks (l.source.chars.length + 1) l).dropStaleKeys?
      let l := l.closeBlocks l.mark.column
      if l.source.head = '\x00' then (l.streamEnd?).map Lexer.tokens
      else (← l.token?).run? fuel

end Lexer

/-- The tokens of a text.  Every step but the last reads a character. -/
def tokens? (text : String) : Option (List Token) :=
  let l := Lexer.start text
  l.run? (l.source.chars.length + 1)

end PrinterFirmware.Document.Yaml
