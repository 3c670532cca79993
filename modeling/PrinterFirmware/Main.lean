/-
  PrinterFirmware.Main
  ────────────────────
  **THE PROGRAM.**

  Reads the command line, carries it out on the files of the system, reports a
  problem and ends with its exit code.
-/
import PrinterFirmware.CommandLine.Arguments
import PrinterFirmware.CommandLine.Run

namespace PrinterFirmware.CommandLine

/-- Access to the files of the system. -/
def systemFiles : FileAccess IO where
  read path := try some <$> IO.FS.readFile path catch _ => pure none
  write path text := try IO.FS.writeFile path text; pure true catch _ => pure false

/-- What is said about a command line which is not carried out. -/
def usage : String :=
  "usage: printer-firmware --config FILE --output FILE [--cfg-name NAME] [--template FILE] "
    ++ "[--nix --nix-dir DIR] [--emit-slots FILE] [--log-level LEVEL]"

end PrinterFirmware.CommandLine

open PrinterFirmware.CommandLine in
/-- Carries the command line out; the result is the exit code. -/
def main (args : List String) : IO UInt32 := do
  match parse args with
  | .error .helpRequested | .error .versionRequested =>
      IO.println usage
      return 0
  | .error _ =>
      IO.eprintln usage
      return 1
  | .ok options =>
      match ← (run systemFiles options).run with
      | .ok () => return 0
      | .error problem =>
          IO.eprintln problem.message
          return UInt32.ofNat problem.exitCode
