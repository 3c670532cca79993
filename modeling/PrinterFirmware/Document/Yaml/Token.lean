/-
  PrinterFirmware.Document.Yaml.Token
  ───────────────────────────────────
  **THE TOKENS OF A YAML TEXT.**

  A text is cut into tokens from left to right.  Besides the characters which are
  left, the cutting depends on where it stands (`Mark`), on the indentation of the
  open block collections, on the number of open flow collections and on the places
  where a mapping key may have begun: that a scalar was a key only shows at the
  colon after it, and the tokens which open a key and its mapping are then put in
  before it.

  The character NUL counts as the end of the text.
-/
import PrinterFirmware.Document.Json
import PrinterFirmware.Document.Yaml.Scalar
import PrinterFirmware.Naming.Word

namespace PrinterFirmware.Document.Yaml

/-! ## §1. Tokens and sources. -/

/-- A token. -/
inductive Token where
  | streamEnd
  | documentStart
  | documentEnd
  | directive
  | blockSequenceStart
  | blockMappingStart
  | blockEnd
  | flowSequenceStart
  | flowSequenceEnd
  | flowMappingStart
  | flowMappingEnd
  | blockEntry
  | flowEntry
  | key
  | value
  | alias_ (name : String)
  | anchor (name : String)
  | tag (t : Tag)
  /-- A scalar; only a plain one is resolved by its text. -/
  | scalar (plain : Bool) (text : String)
  deriving DecidableEq, Repr

/-- A position in a text: the number of characters before it, and its line and
column. -/
structure Mark where
  index : Nat
  line : Nat
  column : Nat
  deriving DecidableEq, Repr

/-- The characters which are left, and where they begin. -/
structure Source where
  chars : List Char
  mark : Mark
  deriving Repr

def isBreak (c : Char) : Bool := c == '\n' || c == '\r'

def isBreakOrEnd (c : Char) : Bool := isBreak c || c == '\x00'

def isBlank (c : Char) : Bool := c == ' ' || c == '\t'

def isBlankOrEnd (c : Char) : Bool := isBlank c || isBreakOrEnd c

/-- The characters of anchors and of tag handles. -/
def isNameChar (c : Char) : Bool := Naming.isWordChar c || c == '-'

/-- The characters which end a plain scalar inside of brackets. -/
def isFlowIndicator (c : Char) : Bool := [',', '[', ']', '\x7b', '\x7d'].contains c

namespace Source

/-- The character `k` places ahead; NUL stands for the end. -/
def peek (s : Source) (k : Nat) : Char := s.chars.getD k '\x00'

/-- The next character. -/
def head (s : Source) : Char := s.peek 0

/-- The source after its next character. -/
def next (s : Source) : Source :=
  match s.chars with
  | [] => s
  | c :: rest =>
      let m := s.mark
      if c = '\n' then ⟨rest, ⟨m.index + 1, m.line + 1, 0⟩⟩
      else ⟨rest, ⟨m.index + 1, m.line, m.column + 1⟩⟩

/-- The source after its next `k` characters. -/
def skip (s : Source) : Nat → Source
  | 0 => s
  | k + 1 => s.next.skip k

/-- The source after a line break, if one comes next. -/
def skipBreak (s : Source) : Source :=
  if s.head = '\r' ∧ s.peek 1 = '\n' then s.skip 2
  else if isBreak s.head then s.next
  else s

/-- The longest run of characters of a class, at most `fuel` of them, and the
source after it. -/
def takeWhile (p : Char → Bool) : (fuel : Nat) → Source → List Char × Source
  | 0, s => ([], s)
  | fuel + 1, s =>
      match s.chars with
      | c :: _ =>
          if p c then
            let (cs, rest) := takeWhile p fuel s.next
            (c :: cs, rest)
          else ([], s)
      | [] => ([], s)

/-- The longest run of characters of a class, and the source after it. -/
def span (s : Source) (p : Char → Bool) : List Char × Source := takeWhile p s.chars.length s

/-- The source after the longest run of characters of a class. -/
def drop (s : Source) (p : Char → Bool) : Source := (s.span p).2

/-- The source after the rest of the line. -/
def skipLine (s : Source) : Source := s.drop (fun c => !isBreakOrEnd c)

/-- Whether three equal characters and a blank stand at the start of a line. -/
def atMarker (s : Source) (c : Char) : Bool :=
  s.mark.column == 0 && s.head == c && s.peek 1 == c && s.peek 2 == c && isBlankOrEnd (s.peek 3)

/-- Whether a line starts which separates documents. -/
def atDocumentMarker (s : Source) : Bool := s.atMarker '-' || s.atMarker '.'

end Source

/-! ## §2. Line folding. -/

/-- The blanks between two runs of characters of a scalar: blanks of a line, or,
once a line has ended, that break and the breaks after it. -/
structure Gap where
  blanks : List Char
  broken : Bool
  firstBreak : List Char
  moreBreaks : List Char

namespace Gap

/-- Nothing between two characters. -/
def none : Gap := ⟨[], false, [], []⟩

/-- A line break which has been escaped: it counts as a line end without any
text. -/
def escaped : Gap := ⟨[], true, [], []⟩

/-- The text a gap is folded to: a single line break becomes a space, and of
several breaks the first one is dropped. -/
def fold (g : Gap) : List Char :=
  if !g.broken then g.blanks
  else if g.firstBreak.isEmpty then g.moreBreaks
  else if g.moreBreaks.isEmpty then [' ']
  else g.moreBreaks

/-- Whether nothing has been read. -/
def isNone (g : Gap) : Bool := !g.broken && g.blanks.isEmpty

/-- The gap with one more blank. -/
def blank (g : Gap) (c : Char) : Gap :=
  if g.broken then g else { g with blanks := g.blanks ++ [c] }

/-- The gap with one more line break. -/
def lineBreak (g : Gap) : Gap :=
  if g.broken then { g with moreBreaks := g.moreBreaks ++ ['\n'] }
  else { g with blanks := [], broken := true, firstBreak := ['\n'] }

/-- Reads blanks and line breaks on top of a gap.  A tab below the column
`tabLimit` of a later line is refused. -/
def take? (tabLimit : Nat) : (fuel : Nat) → Gap → Source → Option (Gap × Source)
  | 0, g, s => some (g, s)
  | fuel + 1, g, s =>
      if isBlank s.head then
        if g.broken && decide (s.mark.column < tabLimit) && s.head == '\t' then Option.none
        else take? tabLimit fuel (g.blank s.head) s.next
      else if isBreak s.head then take? tabLimit fuel g.lineBreak s.skipBreak
      else some (g, s)

end Gap

/-! ## §3. Scalars. -/

/-- The character of a one letter escape of a double quoted scalar. -/
def shortEscape? : Char → Option Char
  | '0' => some '\x00'
  | 'a' => some '\x07'
  | 'b' => some '\x08'
  | 't' | '\t' => some '\t'
  | 'n' => some '\n'
  | 'v' => some '\x0b'
  | 'f' => some '\x0c'
  | 'r' => some '\r'
  | 'e' => some '\x1b'
  | ' ' => some ' '
  | '"' => some '"'
  | '\'' => some '\''
  | '\\' => some '\\'
  | 'N' => some '\u0085'
  | '_' => some '\u00a0'
  | 'L' => some '\u2028'
  | 'P' => some '\u2029'
  | _ => none

/-- The number of hexadecimal digits after the letter of a numeric escape. -/
def escapeLength? : Char → Option Nat
  | 'x' => some 2
  | 'u' => some 4
  | 'U' => some 8
  | _ => none

/-- The character of an escape, at its backslash, and the source after it. -/
def takeEscape? (s : Source) : Option (Char × Source) :=
  match shortEscape? (s.peek 1) with
  | some c => some (c, s.skip 2)
  | none => do
      let k ← escapeLength? (s.peek 1)
      let digits := (s.chars.drop 2).take k
      let n ← if digits.length = k then Json.hexValue? digits else none
      if h : n.isValidChar then some (Char.ofNatAux n h, s.skip (2 + k)) else none

/-- The inside of a quoted scalar, whose opening quote has been read, and the
source after the closing quote.  `done` holds the characters before, last one
first, and `gap` the blanks since. -/
def takeQuoted? (single : Bool) : (fuel : Nat) → (done : List Char) → Source →
    Option (String × Source)
  | 0, _, _ => none
  | fuel + 1, done, s =>
      let c := s.head
      if s.atDocumentMarker || c == '\x00' then none
      else if isBlankOrEnd c then do
        let (gap, s) ← Gap.none.take? 0 fuel s
        takeQuoted? single fuel (gap.fold.reverse ++ done) s
      else if single && c == '\'' then
        if s.peek 1 = '\'' then takeQuoted? single fuel ('\'' :: done) (s.skip 2)
        else some (String.ofList done.reverse, s.next)
      else if !single && c == '"' then some (String.ofList done.reverse, s.next)
      else if !single && c == '\\' then
        if isBreak (s.peek 1) then do
          let (gap, s) ← Gap.escaped.take? 0 fuel s.next.skipBreak
          takeQuoted? single fuel (gap.fold.reverse ++ done) s
        else
          match takeEscape? s with
          | some (e, s) => takeQuoted? single fuel (e :: done) s
          | none => none
      else takeQuoted? single fuel (c :: done) s.next

/-- Whether a plain scalar ends before its next character: at a colon before a
blank, and inside of brackets at a bracket or comma or at a colon before one. -/
def endsPlain (inFlow : Bool) (s : Source) : Bool :=
  if s.head == ':' then isBlankOrEnd (s.peek 1) || (inFlow && isFlowIndicator (s.peek 1))
  else inFlow && isFlowIndicator s.head

/-- A plain scalar and the source after it, with the gap that follows it: whether
a line has ended there.  `indent` is the column which the later lines of the
scalar have to reach. -/
def takePlain? (inFlow : Bool) (indent : Nat) : (fuel : Nat) → (done : List Char) → Gap → Source →
    Option (String × Bool × Source)
  | 0, _, _, _ => none
  | fuel + 1, done, gap, s =>
      let c := s.head
      if (s.atDocumentMarker || c == '#') && (!gap.isNone || done.isEmpty) then
        some (String.ofList done.reverse, gap.broken, s)
      else if isBlank c || isBreak c then
        match gap.take? indent fuel s with
        | none => none
        | some (gap, s) =>
            if !inFlow && decide (s.mark.column < indent) then
              some (String.ofList done.reverse, gap.broken, s)
            else takePlain? inFlow indent fuel done gap s
      else if c == '\x00' || endsPlain inFlow s then
        some (String.ofList done.reverse, gap.broken, s)
      else takePlain? inFlow indent fuel (c :: (gap.fold.reverse ++ done)) .none s.next

/-! ## §4. Block scalars. -/

/-- What becomes of the line breaks at the end of a block scalar. -/
inductive Chomping where
  | strip
  | clip
  | keep
  deriving DecidableEq, Repr

/-- A chomping indicator, and the source after it. -/
def takeChomping (s : Source) : Option Chomping × Source :=
  if s.head = '+' then (some .keep, s.next)
  else if s.head = '-' then (some .strip, s.next)
  else (none, s)

/-- An indentation indicator, zero if there is none, and the source after it.
The digit zero is refused. -/
def takeIndentation? (s : Source) : Option (Nat × Source) :=
  if s.head = '0' then none
  else if Numeral.isDigit s.head then some (Numeral.digitValue s.head, s.next)
  else some (0, s)

/-- The header of a block scalar after its first character: chomping and
indentation, in either order, with blanks and a comment up to the end of the
line. -/
def takeBlockHeader? (s : Source) : Option (Chomping × Nat × Source) := do
  let (chomping, indentation, s) ←
    match takeChomping s with
    | (some chomping, s) => (takeIndentation? s).map fun (i, s) => (chomping, i, s)
    | (none, s) => do
        let (i, s) ← takeIndentation? s
        if i = 0 then some (.clip, i, s)
        else
          let (chomping, s) := takeChomping s
          some (chomping.getD .clip, i, s)
  let s := s.drop isBlank
  let s := if s.head = '#' then s.skipLine else s
  if isBreakOrEnd s.head then some (chomping, indentation, s.skipBreak) else none

/-- Empty lines and the indentation of the line after them: the line breaks, the
deepest column and the source there.  An `indent` of zero is one which is still
to be found out.  Tabs in the indentation are refused. -/
def takeBlockBreaks? (indent : Nat) : (fuel : Nat) → (deepest : Nat) → (breaks : List Char) →
    Source → Option (List Char × Nat × Source)
  | 0, deepest, breaks, s => some (breaks, deepest, s)
  | fuel + 1, deepest, breaks, s =>
      let inside := indent == 0 || decide (s.mark.column < indent)
      let deepest := max deepest s.mark.column
      if inside && s.head == ' ' then takeBlockBreaks? indent fuel deepest breaks s.next
      else if inside && s.head == '\t' then none
      else if isBreak s.head then
        takeBlockBreaks? indent fuel deepest (breaks ++ ['\n']) s.skipBreak
      else some (breaks, deepest, s)

/-- The text of a block scalar as far as it has been read: the characters, last
one first, the break after its last line, the empty lines since and whether the
last line began with a blank. -/
structure BlockText where
  done : List Char
  lastBreak : List Char
  emptyLines : List Char
  blankLine : Bool

namespace BlockText

/-- The text with one more line.  Folding joins two lines which do not begin with
a blank by a space, unless empty lines stand between them. -/
def line (t : BlockText) (folded : Bool) (cs : List Char) : BlockText :=
  let startsBlank := cs.head?.any isBlank
  let joins := folded && !t.lastBreak.isEmpty && !t.blankLine && !startsBlank
  let gap :=
    if joins then (if t.emptyLines.isEmpty then [' '] else []) else t.lastBreak
  ⟨cs.reverse ++ (t.emptyLines.reverse ++ (gap.reverse ++ t.done)), [], [], startsBlank⟩

/-- The whole text, with its last line breaks as the chomping says. -/
def finish (t : BlockText) (chomping : Chomping) : String :=
  String.ofList <| t.done.reverse
    ++ (if chomping = .strip then [] else t.lastBreak)
    ++ (if chomping = .keep then t.emptyLines else [])

end BlockText

/-- The lines of a block scalar which stand at the column `indent`. -/
def takeBlockLines? (folded : Bool) (indent : Nat) : (fuel : Nat) → BlockText → Source →
    Option (BlockText × Source)
  | 0, t, s => some (t, s)
  | fuel + 1, t, s =>
      if s.mark.column ≠ indent ∨ s.head = '\x00' then some (t, s)
      else
        let (cs, s) := s.span (fun c => !isBreakOrEnd c)
        let t := t.line folded cs
        if s.head = '\x00' then some (t, s)
        else do
          let (breaks, _, s) ← takeBlockBreaks? indent fuel 0 [] s.skipBreak
          takeBlockLines? folded indent fuel { t with lastBreak := ['\n'], emptyLines := breaks } s

/-- A block scalar, after its first character, and the source after it.
`minimum` is the least column its lines may have. -/
def takeBlock? (folded : Bool) (minimum : Nat) (s : Source) : Option (String × Source) := do
  let (chomping, indentation, s) ← takeBlockHeader? s
  let given := if indentation = 0 then 0 else minimum - 1 + indentation
  let (breaks, deepest, s) ← takeBlockBreaks? given (s.chars.length + 1) 0 [] s
  let indent := if given = 0 then max (max deepest minimum) 1 else given
  let (t, s) ← takeBlockLines? folded indent (s.chars.length + 1) ⟨[], [], breaks, false⟩ s
  some (t.finish chomping, s)

/-! ## §5. Anchors, tags and directives. -/

/-- The name of an anchor or alias, after its first character. -/
def takeAnchorName? (s : Source) : Option (String × Source) :=
  let (name, s) := s.span isNameChar
  let ends := isBlankOrEnd s.head || ['?', ':', ',', ']', '\x7d', '%', '@', '\x60'].contains s.head
  if name.isEmpty || !ends then none else some (String.ofList name, s)

/-- The characters of a tag besides those of names. -/
def isTagChar (c : Char) : Bool :=
  isNameChar c || ";/?:@&=+$,.!~*'()[]".toList.contains c

/-- The octet written by a percent sign and two hexadecimal digits, and the source
after it. -/
def takeOctet? (s : Source) : Option (Nat × Source) :=
  if s.head = '%' then (Json.hexValue? [s.peek 1, s.peek 2]).map fun n => (n, s.skip 3)
  else none

/-- A character of a tag which is written by octets, and the source after it.  An
octet below 128 is a character by itself; one from 192 to 215 is the high half of
a character's number, whose low half follows and lies from 128 to 191. -/
def takeOctets? (s : Source) : Option (Char × Source) := do
  let (high, s) ← takeOctet? s
  if high < 128 then some (Char.ofNat high, s)
  else if 192 ≤ high ∧ high < 216 then do
    let (low, s) ← takeOctet? s
    if 128 ≤ low ∧ low < 192 then some (Char.ofNat (256 * high + low), s) else none
  else none

/-- The characters of a tag, and the source after them. -/
def takeTagChars? : (fuel : Nat) → Source → Option (List Char × Source)
  | 0, s => some ([], s)
  | fuel + 1, s =>
      if s.head = '%' then do
        let (c, s) ← takeOctets? s
        let (cs, s) ← takeTagChars? fuel s
        some (c :: cs, s)
      else if isTagChar s.head then do
        let (cs, rest) ← takeTagChars? fuel s.next
        some (s.head :: cs, rest)
      else some ([], s)

/-- A tag, and the source after it. -/
def takeTag? (s : Source) : Option (Tag × Source) := do
  let (t, s) ←
    if s.peek 1 = '<' then do
      let (suffix, s) ← takeTagChars? s.chars.length (s.skip 2)
      if suffix.isEmpty ∨ s.head ≠ '>' then none
      else some (Tag.mk "" (String.ofList suffix), s.next)
    else
      let (name, rest) := s.next.span isNameChar
      if rest.head = '!' then do
        let (suffix, s) ← takeTagChars? rest.chars.length rest.next
        if suffix.isEmpty then none
        else some (Tag.mk (String.ofList ('!' :: (name ++ ['!']))) (String.ofList suffix), s)
      else do
        let (more, s) ← takeTagChars? rest.chars.length rest
        let suffix := name ++ more
        if suffix.isEmpty then some (Tag.mk "" "!", s)
        else some (Tag.mk "!" (String.ofList suffix), s)
  if isBlankOrEnd s.head then some (t, s) else none

/-- One to nine digits of a version number. -/
def takeVersionNumber? (s : Source) : Option Source :=
  let (ds, s) := s.span Numeral.isDigit
  if ds.isEmpty ∨ 9 < ds.length then none else some s

/-- The value of a version directive. -/
def takeVersion? (s : Source) : Option Source := do
  let s ← takeVersionNumber? (s.drop isBlank)
  if s.head = '.' then takeVersionNumber? s.next else none

/-- The value of a tag directive: a handle between exclamation marks, or a single
one, and the text it stands for. -/
def takeTagDirective? (s : Source) : Option Source := do
  let s := s.drop isBlank
  if s.head ≠ '!' then none
  else
    let (name, s) := s.next.span isNameChar
    let s ← if s.head = '!' then some s.next else if name.isEmpty then some s else none
    let (cs, s) ← takeTagChars? s.chars.length (s.drop isBlank)
    if cs.isEmpty ∨ !isBlankOrEnd s.head then none else some s

/-- A directive, at its percent sign; what it says has no effect.  Directives of
unknown name are skipped. -/
def takeDirective? (s : Source) : Option Source := do
  let (name, s) := s.next.span isNameChar
  if name.isEmpty ∨ !isBlankOrEnd s.head then none
  else
    let s ←
      if name = "YAML".toList then takeVersion? s
      else if name = "TAG".toList then takeTagDirective? s
      else some s.skipLine
    let s := s.drop isBlank
    let s := if s.head = '#' then s.skipLine else s
    if isBreakOrEnd s.head then some s.skipBreak else none

end PrinterFirmware.Document.Yaml
