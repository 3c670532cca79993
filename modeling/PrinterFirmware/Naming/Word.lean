/-
  PrinterFirmware.Naming.Word
  ───────────────────────────
  **WORDS.**

  The fixed grammars of the words which are copied from a description into the
  generated program.  All of them admit ASCII characters alone, so that lengths
  in characters and in bytes agree on the words which are accepted.
-/
import PrinterFirmware.Numeral

namespace PrinterFirmware.Naming

/-- The longest word which is copied into a program. -/
def maxWordLength : Nat := 128

/-- `A` to `Z`. -/
def isUpper (c : Char) : Bool := 'A' ≤ c && c ≤ 'Z'

/-- `A` to `Z` and `a` to `z`. -/
def isLetter (c : Char) : Bool := isUpper c || ('a' ≤ c && c ≤ 'z')

/-- A letter, a decimal digit or an underscore. -/
def isWordChar (c : Char) : Bool := isLetter c || Numeral.isDigit c || c == '_'

/-- An identifier: a letter and up to 127 further word characters. -/
def isIdentifier (s : String) : Bool :=
  match s.toList with
  | [] => false
  | c :: rest => isLetter c && decide (rest.length < maxWordLength) && rest.all isWordChar

/-- A word: one to 128 word characters, in any order. -/
def isWord (s : String) : Bool :=
  let cs := s.toList
  !cs.isEmpty && decide (cs.length ≤ maxWordLength) && cs.all isWordChar

/-- A single uppercase letter, which names an axis, a heater or a fan. -/
def letter? (s : String) : Option Char :=
  match s.toList with
  | [c] => if isUpper c then some c else none
  | _ => none

/-- The timeout of an AVR watchdog: `WDTO_` and one to ten digits or uppercase
letters. -/
def isWatchdogTimeout (s : String) : Bool :=
  match "WDTO_".toList.isPrefixOf? s.toList with
  | some rest =>
      !rest.isEmpty && decide (rest.length ≤ 10)
        && rest.all (fun c => Numeral.isDigit c || isUpper c)
  | none => false

end PrinterFirmware.Naming
