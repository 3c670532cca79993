/-
  PrinterFirmware.CommandLine.Destination
  ───────────────────────────────────────
  **WHERE PATHS LEAD.**

  A path is followed part by part: from the root if it begins with a slash, and
  otherwise from the folder in which a command line is carried out.  A dot, or
  nothing between two slashes, stays in place; two dots lead to the folder around
  the present one, and around the root there is the root itself.  The last part is
  the name of a file, so a path which ends with a slash or with dots names none.

  What stands in the folder of the command line is known, and so are the devices.
  The folders around it and the one of temporary files hold nothing which is known,
  but a file may be written to each of them.  The other standard folders belong to
  the system: a path may pass through them, but neither is there a file in them nor
  can one be put there.  The name of a folder is never the name of a file.
-/

namespace PrinterFirmware.CommandLine

/-! ## §1. Devices. -/

/-- A device. -/
inductive Device where
  | null
  | full
  | zero
  | random
  | urandom
  /-- The terminal.  A command line is carried out without one. -/
  | terminal
  deriving DecidableEq, Repr

namespace Device

/-- All devices. -/
def all : List Device := [null, full, zero, random, urandom, terminal]

/-- The name of a device in the folder of the devices. -/
def name : Device → String
  | null => "null"
  | full => "full"
  | zero => "zero"
  | random => "random"
  | urandom => "urandom"
  | terminal => "tty"

/-- The device of the given name. -/
def ofName? (name : String) : Option Device := all.find? (·.name == name)

/-- What a device holds: nothing is in the null device, the terminal is not there,
and all the others never end. -/
def text? : Device → Option String
  | null => some ""
  | _ => none

/-- Whether a device takes a text; it does not keep it.  The full device has no
room for a single character, and the terminal is not there. -/
def takes : Device → String → Bool
  | full, text => text.isEmpty
  | terminal, _ => false
  | null, _ | zero, _ | random, _ | urandom, _ => true

end Device

/-! ## §2. Places on the way. -/

/-- A folder on the way of a path. -/
inductive Place where
  /-- The folder `n` levels below the root on the way to the one of the command line. -/
  | level (n : Nat)
  /-- The folder of the devices, below the root. -/
  | devices
  /-- The folder of temporary files, below the root. -/
  | temporary
  /-- A folder of the system in another one. -/
  | system (outer : Place)
  deriving DecidableEq, Repr

namespace Place

/-- The root. -/
def root : Place := level 0

/-- The level of the folder of the command line.  A path which leads up this often,
or more often, reaches the root. -/
def homeLevel : Nat := 3

/-- The folder of the command line. -/
def home : Place := level homeLevel

/-- The folder around a place. -/
def around : Place → Place
  | level (n + 1) => level n
  | level 0 | devices | temporary => root
  | system outer => outer

/-- The folders of the system in a place: the standard folders of the root, but for
the devices and the temporary files, and the folders among the devices. -/
def systemFolders : Place → List String
  | level 0 =>
      ["bin", "boot", "etc", "home", "lib", "lib64", "media", "mnt", "opt", "proc", "root",
        "run", "sbin", "srv", "sys", "usr", "var"]
  | devices => ["fd", "mqueue", "pts", "shm"]
  | level (_ + 1) | temporary | system _ => []

/-- The folder of the given name in a place. -/
def enter? (place : Place) (name : String) : Option Place :=
  if place = root ∧ name = "dev" then some devices
  else if place = root ∧ name = "tmp" then some temporary
  else if place.systemFolders.contains name then some (system place)
  else none

end Place

/-! ## §3. Destinations. -/

/-- A file which a path names. -/
inductive Destination where
  /-- The file of the given name in the folder of the command line. -/
  | file (name : String)
  | device (d : Device)
  /-- A file which is not there, in a folder out of sight. -/
  | elsewhere
  deriving DecidableEq, Repr

namespace Destination

/-- The longest path, in bytes. -/
def maxPathSize : Nat := 4095

/-- The longest name of a file, in bytes. -/
def maxNameSize : Nat := 255

/-- Whether a part of a path stays in the folder which it is taken in: a dot, or
nothing between two slashes. -/
def staysInPlace (part : String) : Bool := part == "." || part.isEmpty

/-- Whether a file may have a name. -/
def isFileName (name : String) : Bool :=
  !staysInPlace name && name != ".." && name.utf8ByteSize ≤ maxNameSize

/-- The file of the given name in a place, unless a folder has that name or the place
is one of the system. -/
def inPlace? (place : Place) (name : String) : Option Destination :=
  match place.enter? name, place with
  | some _, _ | none, .system _ => none
  | none, .devices => some ((Device.ofName? name).elim .elsewhere .device)
  | none, .temporary => some .elsewhere
  | none, .level n => some (if n = Place.homeLevel then .file name else .elsewhere)

/-- The file which the parts of a path lead to from a place. -/
def follow? (place : Place) : List String → Option Destination
  | [] => none
  | [name] => if isFileName name then inPlace? place name else none
  | part :: rest =>
      if staysInPlace part then follow? place rest
      else if part = ".." then follow? place.around rest
      else
        match place.enter? part with
        | some inner => follow? inner rest
        | none => none

/-- The file which a path leads to.  A path has no zero byte. -/
def ofPath? (path : String) : Option Destination :=
  if path.utf8ByteSize ≤ maxPathSize && !path.toList.contains '\x00' then
    match path.splitOn "/" with
    | "" :: parts => follow? .root parts
    | parts => follow? .home parts
  else none

end Destination

end PrinterFirmware.CommandLine
