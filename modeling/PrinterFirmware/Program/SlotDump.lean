/-
  PrinterFirmware.Program.SlotDump
  ────────────────────────────────
  **SLOTS AS A YAML MAPPING.**

  The slots of a program can be dumped for inspection as a block mapping of slot
  names to slot texts, one line each.  A text is written as it is unless a reader
  might take it for something else than this string; then it is put in double
  quotes, with escapes for quotes, backslashes and control characters.
-/
import PrinterFirmware.Document.Yaml.Scalar
import PrinterFirmware.Program.SlotMap

namespace PrinterFirmware.SlotDump

open Document

/-! ## §1. Texts which need quotes. -/

/-- Characters which a plain text may not start with. -/
def isLeadingIndicator (c : Char) : Bool :=
  ['&', '*', '?', '|', '-', '<', '>', '=', '!', '%', '@', '.'].contains c

/-- Characters which a plain text may not contain. -/
def isReserved (c : Char) : Bool :=
  [':', '\x7b', '\x7d', '[', ']', ',', '#', '\x60', '"', '\'', '\\', '\t', '\n', '\r'].contains c
    || c.toNat ≤ 0x06
    || (0x0e ≤ c.toNat && c.toNat ≤ 0x1a)
    || (0x1c ≤ c.toNat && c.toNat ≤ 0x1f)

/-- Words which some reader takes for a truth value or for nothing. -/
def reservedWords : List String :=
  ["yes", "Yes", "YES", "no", "No", "NO", "on", "On", "ON", "off", "Off", "OFF",
   "true", "True", "TRUE", "false", "False", "FALSE", "null", "Null", "NULL", "~"]

/-- Whether a text has to be put in quotes. -/
def needsQuotes (s : String) : Bool :=
  let cs := s.toList
  cs.isEmpty || cs.head? == some ' ' || cs.getLast? == some ' '
    || cs.head?.any isLeadingIndicator || ['0', 'x'].isPrefixOf cs
    || cs.any isReserved || reservedWords.contains s || Yaml.readsAsNumber s

/-! ## §2. Quoted texts. -/

/-- A digit of a hexadecimal number. -/
def hexDigit (d : Nat) : Char := if d < 10 then Char.ofNat (48 + d) else Char.ofNat (87 + d)

/-- The escape of a character by its number, which is below 256. -/
def numericEscape (c : Char) : List Char :=
  ['\\', 'u', '0', '0', hexDigit (c.toNat / 16), hexDigit (c.toNat % 16)]

/-- A character inside of double quotes. -/
def escapedChar (c : Char) : List Char :=
  if c = '"' ∨ c = '\\' then ['\\', c]
  else if c = '\x08' then ['\\', 'b']
  else if c = '\t' then ['\\', 't']
  else if c = '\n' then ['\\', 'n']
  else if c = '\x0c' then ['\\', 'f']
  else if c = '\r' then ['\\', 'r']
  else if c.toNat < 0x20 ∨ c.toNat = 0x7f then numericEscape c
  else [c]

/-- A text in double quotes. -/
def quotedChars (cs : List Char) : List Char := '"' :: (cs.flatMap escapedChar ++ ['"'])

/-- A text as a scalar. -/
def scalarChars (s : String) : List Char :=
  if needsQuotes s then quotedChars s.toList else s.toList

/-! ## §3. The dump. -/

/-- The line of a slot. -/
def lineChars (entry : String × String) : List Char :=
  scalarChars entry.1 ++ ':' :: ' ' :: (scalarChars entry.2 ++ ['\n'])

/-- The dump of all slots. -/
def render (m : SlotMap) : String :=
  String.ofList ('-' :: '-' :: '-' :: '\n' :: m.entries.flatMap lineChars)

end PrinterFirmware.SlotDump
