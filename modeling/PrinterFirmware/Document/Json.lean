/-
  PrinterFirmware.Document.Json
  ─────────────────────────────
  **READING JSON.**

  A recursive descent over the characters of a text.  Containers may be nested
  up to `maxDepth` deep.  A number without point and power of ten is whole if it
  fits into 64 bits, with or without a sign, except for the negative zero; every
  other number is the nearest double, and one too large for a finite double is
  an error.  Of two members with one name the later one counts.
-/
import PrinterFirmware.Binary64.Literal
import PrinterFirmware.Document.Value

namespace PrinterFirmware.Document.Json

/-- The deepest nesting of containers. -/
def maxDepth : Nat := 127

/-! ## §1. Blanks, numbers and strings. -/

def isBlank (c : Char) : Bool := c == ' ' || c == '\t' || c == '\n' || c == '\r'

def skipBlanks (cs : List Char) : List Char := cs.dropWhile isBlank

/-- The value of a number literal.  `plain` says that it has neither point nor
power of ten. -/
def numberValue? (plain : Bool) (l : Literal) : Option Value :=
  let n : Int := Numeral.value l.whole
  if plain && !l.negative && n < unsignedBound then some (.int n)
  else if plain && l.negative && 0 < n && n ≤ signedBound then some (.int (-n))
  else l.double?.map .number

/-- A number and the text after it.  The whole part has no leading zeros and a
point is followed by a digit. -/
def takeNumber? (cs : List Char) : Option (Value × List Char) := do
  let (negative, cs) := match cs with
    | '-' :: rest => (true, rest)
    | cs => (false, cs)
  let (whole, cs) := Literal.takeDigits cs
  match whole with
  | [] => none
  | '0' :: _ :: _ => none
  | _ =>
    let (places, cs) ← match cs with
      | '.' :: rest =>
          match Literal.takeDigits rest with
          | ([], _) => none
          | (places, rest) => some (places, rest)
      | cs => some ([], cs)
    let (exponent, rest) ← Literal.takeExponent? cs
    let plain := places.isEmpty && cs.length == rest.length
    let v ← numberValue? plain ⟨negative, whole, places, exponent⟩
    return (v, rest)

/-- The value of a hexadecimal digit. -/
def hexDigit? (c : Char) : Option Nat :=
  if Numeral.isDigit c then some (c.toNat - '0'.toNat)
  else if 'a' ≤ c && c ≤ 'f' then some (c.toNat - 'a'.toNat + 10)
  else if 'A' ≤ c && c ≤ 'F' then some (c.toNat - 'A'.toNat + 10)
  else none

/-- The number written by hexadecimal digits. -/
def hexValue? (cs : List Char) : Option Nat :=
  cs.foldlM (fun n c => (hexDigit? c).map (16 * n + ·)) 0

/-- The code unit written by the first four characters of a text. -/
def unit? (cs : List Char) : Option Nat :=
  let digits := cs.take 4
  if digits.length = 4 then hexValue? digits else none

/-- The character of a one letter escape. -/
def shortEscape? : Char → Option Char
  | '"' => some '"'
  | '\\' => some '\\'
  | '/' => some '/'
  | 'b' => some '\x08'
  | 'f' => some '\x0c'
  | 'n' => some '\n'
  | 'r' => some '\r'
  | 't' => some '\t'
  | _ => none

/-- The character of the code unit `n`, which two escapes give if it is the
first half of a surrogate pair, and the text after it. -/
def takeUnit? (n : Nat) (cs : List Char) : Option (Char × List Char) :=
  if 0xDC00 ≤ n ∧ n < 0xE000 then none
  else if 0xD800 ≤ n ∧ n < 0xDC00 then
    match cs with
    | '\\' :: 'u' :: rest => do
        let low ← unit? rest
        if 0xDC00 ≤ low ∧ low < 0xE000 then
          some (Char.ofNat (0x10000 + (n - 0xD800) * 0x400 + (low - 0xDC00)), rest.drop 4)
        else none
    | _ => none
  else some (Char.ofNat n, cs)

/-- The character of an escape, whose backslash has been read, and the text
after it. -/
def takeEscape? : List Char → Option (Char × List Char)
  | 'u' :: rest => do
      let n ← unit? rest
      takeUnit? n (rest.drop 4)
  | c :: rest => (shortEscape? c).map (·, rest)
  | [] => none

/-- The inside of a string, whose opening quote has been read, and the text
after the closing quote.  `done` holds the characters before, last one
first. -/
def takeString? (fuel : Nat) (done : List Char) (cs : List Char) :
    Option (String × List Char) :=
  match fuel, cs with
  | 0, _ => none
  | _, [] => none
  | fuel + 1, c :: rest =>
      if c = '"' then some (String.ofList done.reverse, rest)
      else if c = '\\' then
        match takeEscape? rest with
        | some (e, rest) => takeString? fuel (e :: done) rest
        | none => none
      else if c.toNat < 0x20 then none
      else takeString? fuel (c :: done) rest

/-! ## §2. Values. -/

mutual

/-- A value, after blanks, and the text after it.  `depth` is the number of
containers which may still be opened. -/
def takeValue? (fuel depth : Nat) (cs : List Char) : Option (Value × List Char) :=
  match fuel with
  | 0 => none
  | fuel + 1 =>
    match skipBlanks cs with
    | 'n' :: 'u' :: 'l' :: 'l' :: rest => some (.null, rest)
    | 't' :: 'r' :: 'u' :: 'e' :: rest => some (.bool true, rest)
    | 'f' :: 'a' :: 'l' :: 's' :: 'e' :: rest => some (.bool false, rest)
    | '"' :: rest => (takeString? (rest.length + 1) [] rest).map fun (s, rest) => (.string s, rest)
    | '[' :: rest =>
        match depth with
        | 0 => none
        | depth + 1 =>
            match skipBlanks rest with
            | ']' :: rest => some (.list [], rest)
            | rest => takeElements? fuel depth [] rest
    | '\x7b' :: rest =>
        match depth with
        | 0 => none
        | depth + 1 =>
            match skipBlanks rest with
            | '\x7d' :: rest => some (.object [], rest)
            | rest => takeMembers? fuel depth [] rest
    | cs => takeNumber? cs

/-- The elements of a list up to its closing bracket; `done` holds the elements
before, last one first. -/
def takeElements? (fuel depth : Nat) (done : List Value) (cs : List Char) :
    Option (Value × List Char) :=
  match fuel with
  | 0 => none
  | fuel + 1 =>
    match takeValue? fuel depth cs with
    | none => none
    | some (v, rest) =>
        match skipBlanks rest with
        | ',' :: rest => takeElements? fuel depth (v :: done) rest
        | ']' :: rest => some (.list (v :: done).reverse, rest)
        | _ => none

/-- The members of an object up to its closing brace; `done` holds the members
before, last one first. -/
def takeMembers? (fuel depth : Nat) (done : List (String × Value)) (cs : List Char) :
    Option (Value × List Char) :=
  match fuel with
  | 0 => none
  | fuel + 1 =>
    match skipBlanks cs with
    | '"' :: rest =>
        match takeString? (rest.length + 1) [] rest with
        | none => none
        | some (name, rest) =>
            match skipBlanks rest with
            | ':' :: rest =>
                match takeValue? fuel depth rest with
                | none => none
                | some (v, rest) =>
                    match skipBlanks rest with
                    | ',' :: rest => takeMembers? fuel depth ((name, v) :: done) rest
                    | '\x7d' :: rest => some (Value.ofFields ((name, v) :: done).reverse, rest)
                    | _ => none
            | _ => none
    | _ => none

end

/-- Reads a whole text as one value.  Every call of the descent either reads a
character or is followed by one that does, which bounds their number. -/
def read? (text : String) : Option Value :=
  let cs := text.toList
  match takeValue? (2 * cs.length + 2) maxDepth cs with
  | some (v, rest) => if (skipBlanks rest).isEmpty then some v else none
  | none => none

end PrinterFirmware.Document.Json
