/-
  PrinterFirmware.CommandLine.Arguments
  ─────────────────────────────────────
  **READING A COMMAND LINE.**

  An option is given by its long name after dashes, with its value after an equals
  sign or in the next argument, or by its letter after one dash, with its value
  right behind, after an equals sign or in the next argument.  The next argument is
  no value if it begins with a dash, unless it is a dash alone.  Arguments which
  are neither options nor values are refused.

  Faults of single arguments are found from left to right.  After that come, in this
  order: a missing configuration or output; an option at the very end which has no
  value; an option which another one needs and which is missing; other missing
  values; bad values; repeated options.
-/
import PrinterFirmware.CommandLine.Options

namespace PrinterFirmware.CommandLine

/-- Why a command line is refused, or not carried out. -/
inductive UsageError where
  | missingOption
  | missingValue
  | badValue
  | unknownArgument
  | repeatedOption
  | helpRequested
  | versionRequested
  deriving DecidableEq, Repr

/-! ## §1. Names of options. -/

/-- The options. -/
inductive OptionName where
  | config
  | cfgName
  | output
  | template
  | nix
  | nixDir
  | emitSlots
  | logLevel
  | help
  | version
  deriving DecidableEq, Repr

namespace OptionName

/-- All options. -/
def all : List OptionName :=
  [config, cfgName, output, template, nix, nixDir, emitSlots, logLevel, help, version]

/-- The long name of an option. -/
def long : OptionName → String
  | config => "config"
  | cfgName => "cfg-name"
  | output => "output"
  | template => "template"
  | nix => "nix"
  | nixDir => "nix-dir"
  | emitSlots => "emit-slots"
  | logLevel => "log-level"
  | help => "help"
  | version => "version"

/-- The letter of an option, if it has one. -/
def letter? : OptionName → Option Char
  | config => some 'c'
  | output => some 'o'
  | help => some 'h'
  | version => some 'V'
  | _ => none

/-- Whether an option has a value. -/
def takesValue : OptionName → Bool
  | nix | help | version => false
  | _ => true

/-- The option of the given long name. -/
def ofLong? (name : List Char) : Option OptionName := all.find? (·.long.toList == name)

/-- The option of the given letter. -/
def ofLetter? (c : Char) : Option OptionName := all.find? (·.letter? == some c)

end OptionName

/-! ## §2. Arguments. -/

/-- An option which has been given, with its value as far as it has been read. -/
structure Occurrence where
  name : OptionName
  value : Option String
  deriving DecidableEq, Repr

/-- The options which have been given, latest first, and whether the latest still
waits for its value. -/
structure Reading where
  occurrences : List Occurrence
  waiting : Bool
  deriving DecidableEq, Repr

namespace Reading

/-- The reading after one more option.  Leading equals signs are no part of its
value. -/
def option (r : Reading) (name : OptionName) (value : Option (List Char)) :
    Except UsageError Reading :=
  match name with
  | .help => .error .helpRequested
  | .version => .error .versionRequested
  | _ =>
      if name.takesValue then
        let value := value.map fun cs => String.ofList (cs.dropWhile (· == '='))
        .ok ⟨⟨name, value⟩ :: r.occurrences, value.isNone⟩
      else .ok ⟨⟨name, none⟩ :: r.occurrences, false⟩

/-- The reading after an option by its long name, whose dashes have been read. -/
def longOption (r : Reading) (cs : List Char) : Except UsageError Reading :=
  let (name, rest) := cs.span (· != '=')
  match OptionName.ofLong? name with
  | none => .error .unknownArgument
  | some name => r.option name (if rest.isEmpty then none else some rest.tail)

/-- The reading after an option by its letter, whose dash has been read. -/
def letterOption (r : Reading) : List Char → Except UsageError Reading
  | [] => .ok r
  | c :: rest =>
      match OptionName.ofLetter? c with
      | none => .error .unknownArgument
      | some name => r.option name (if rest.isEmpty then none else some rest)

/-- The reading after a value. -/
def takeValue (r : Reading) (s : String) : Except UsageError Reading :=
  match r.waiting, r.occurrences with
  | true, o :: rest => .ok ⟨{ o with value := some s } :: rest, false⟩
  | _, _ => .error .unknownArgument

/-- The reading after the arguments of a command line.  Two dashes end the
options; nothing may follow them. -/
def arguments (r : Reading) : List String → Except UsageError Reading
  | [] => .ok r
  | arg :: rest => do
      match arg.toList with
      | ['-', '-'] => if rest.isEmpty then .ok r else .error .unknownArgument
      | '-' :: '-' :: cs => (← r.longOption (cs.dropWhile (· == '-'))).arguments rest
      | '-' :: c :: cs => (← r.letterOption (c :: cs)).arguments rest
      | _ => (← r.takeValue arg).arguments rest

end Reading

/-! ## §3. Options. -/

/-- The values of an option, in order. -/
def valuesOf (os : List Occurrence) (name : OptionName) : List String :=
  (os.filter (·.name == name)).filterMap (·.value)

/-- Whether an option has been given. -/
def isGiven (os : List Occurrence) (name : OptionName) : Bool := os.any (·.name == name)

/-- Whether an option has been given without any value. -/
def lacksValue (os : List Occurrence) (name : OptionName) : Bool :=
  name.takesValue && isGiven os name && (valuesOf os name).isEmpty

/-- Whether an option has been given more than once. -/
def isRepeated (os : List Occurrence) (name : OptionName) : Bool :=
  1 < (os.filter (·.name == name)).length

/-- The level at which logging is asked for. -/
def logLevelOf (os : List Occurrence) : Except UsageError (Option LogLevel) :=
  match valuesOf os .logLevel with
  | [] => .ok none
  | names =>
      match names.mapM LogLevel.ofName? with
      | some levels => .ok levels.head?
      | none => .error .badValue

/-- Whether the latest option still waits for its value and has none from before. -/
def Reading.endsWithoutValue (r : Reading) : Bool :=
  match r.occurrences with
  | [] => false
  | o :: _ => r.waiting && lacksValue r.occurrences o.name

/-- What the options of a whole command line ask for. -/
def Reading.options (r : Reading) : Except UsageError Options := do
  let os := r.occurrences.reverse
  if !isGiven os .config || !isGiven os .output then throw .missingOption
  if r.endsWithoutValue then throw .missingValue
  if isGiven os .nix && !isGiven os .nixDir then throw .missingOption
  if OptionName.all.any (lacksValue os) then throw .missingValue
  let logLevel ← logLevelOf os
  if OptionName.all.any (isRepeated os) then throw .repeatedOption
  match valuesOf os .config, valuesOf os .output with
  | input :: _, output :: _ =>
      return { input, output, logLevel
               configuration := (valuesOf os .cfgName).head?
               template := (valuesOf os .template).head?
               nixDir := if isGiven os .nix then (valuesOf os .nixDir).head? else none
               slotDump := (valuesOf os .emitSlots).head? }
  | _, _ => throw .missingValue

/-- Reads a command line, without the name of the program. -/
def parse (args : List String) : Except UsageError Options := do
  let r ← (Reading.mk [] false).arguments args
  r.options

end PrinterFirmware.CommandLine
