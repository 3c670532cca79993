/-
  PrinterFirmware.Nix
  ───────────────────
  **BUILD EXPRESSIONS IN THE NIX LANGUAGE.**

  A generated source can be packaged as an expression of the Nix language
  which builds the firmware.  All texts enter it as quoted strings, in which a
  backslash stands before every backslash, quote and dollar sign; all other
  characters, line breaks too, stand for themselves.
-/
import PrinterFirmware.ImageFormat

namespace PrinterFirmware.Nix

/-- Whether a character has to be escaped in a quoted string. -/
def needsEscape (c : Char) : Bool := c == '\\' || c == '"' || c == '$'

/-- The inside of the quoted string of a text. -/
def escaped : List Char → List Char
  | [] => []
  | c :: rest => if needsEscape c then '\\' :: c :: escaped rest else c :: escaped rest

/-- The quoted string of a text, as characters. -/
def quotedChars (s : String) : List Char := '"' :: (escaped s.toList ++ ['"'])

/-- The quoted string of a text. -/
def quoted (s : String) : String := String.ofList (quotedChars s)

/-- The call of the build function which is found in the directory `nixDir`,
with the board, the image format and the main source of a firmware. -/
def buildExpression (nixDir board : String) (image : ImageFormat) (mainSource : String) : String :=
  "with import (builtins.toPath " ++ quoted nixDir ++ "); aprinterFunc \x7b boardName = "
    ++ quoted board ++ "; buildName = \"aprinter\"; desiredOutputs = ["
    ++ quoted image.display ++ "]; mainText = " ++ quoted mainSource ++ "; \x7d"

end PrinterFirmware.Nix
