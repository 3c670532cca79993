/-
  PrinterFirmware.Failure
  ───────────────────────
  **HOW A WALK OVER A DOCUMENT ENDS EARLY.**

  A program is built by a walk over a document which works on a context: it
  reads fields, changes the context and gives a result.  There are two ways to
  fail.  The document can violate a rule, which is its author's mistake and is
  reported with its place.  Or a step can break a rule of building itself, such
  as declaring one symbol twice, which is a mistake of the library.  Both keep
  what the walk had done to its context.
-/
import PrinterFirmware.Document.Violation

namespace PrinterFirmware

open Document

/-! ## §1. Rules of building. -/

/-- What the parts of a build share, one of each kind. -/
inductive FacilityKind where
  | clock
  | pinNames
  | analogPins
  deriving DecidableEq, Repr

/-- What may only be registered while the document is being read. -/
inductive Registration where
  | objects
  | facility
  | deferredWork
  deriving DecidableEq, Repr

/-- A broken rule of building. -/
inductive Breach where
  /-- A symbol of the program is declared a second time. -/
  | symbolTwice (name : String)
  /-- A slot is filled directly a second time. -/
  | substitutionTwice (slot : String)
  /-- A slot which the program fills itself has been filled directly. -/
  | slotTwice (slot : String)
  | facilityTwice (kind : FacilityKind)
  | facilityMissing (kind : FacilityKind)
  /-- Something is registered after reading has ended. -/
  | closed (registration : Registration)
  /-- A choice lists one tag twice. -/
  | tagTwice (tag : String)
  /-- A choice has two fallbacks. -/
  | fallbackTwice
  deriving DecidableEq, Repr

/-- The name of a kind of facility in messages. -/
def FacilityKind.display : FacilityKind → String
  | .clock => "clock"
  | .pinNames => "pin_patterns"
  | .analogPins => "adc_pins"

/-- The name of a registration in messages. -/
def Registration.display : Registration → String
  | .objects => "register_objects"
  | .facility => "register_singleton"
  | .deferredWork => "add_finalize_action"

/-- The text of a broken rule. -/
def Breach.message : Breach → String
  | .symbolTwice name => "Symbol " ++ name ++ " declared twice"
  | .substitutionTwice slot => "Substitution " ++ slot ++ " set twice"
  | .slotTwice slot => "Slot " ++ slot ++ " filled twice"
  | .facilityTwice kind => "Singleton " ++ kind.display ++ " registered twice"
  | .facilityMissing kind => "Singleton " ++ kind.display ++ " used before it was registered"
  | .closed registration => registration.display ++ " called while Finalizing"
  | .tagTwice tag => "Selection option '" ++ tag ++ "' registered twice"
  | .fallbackTwice => "Selection default set twice"

/-! ## §2. Failures and walks. -/

/-- Why a walk ends early. -/
inductive Failure where
  /-- The document violates a rule. -/
  | document (e : Located)
  /-- A rule of building is broken. -/
  | breach (b : Breach)
  deriving DecidableEq, Repr

/-- A look at a document, which changes nothing. -/
abbrev Reading (α : Type) := Except Located α

/-- A walk over a document on a context of type `σ`.  The context outlives a
failure. -/
abbrev Walk (σ α : Type) := EStateM Failure σ α

instance : MonadLift (Except Located) (Except Failure) where
  monadLift x := x.mapError .document

instance {σ : Type} : MonadLift (Except Failure) (EStateM Failure σ) where
  monadLift
    | .ok a => fun s => .ok a s
    | .error e => fun s => .error e s

instance {σ : Type} : MonadLift (Except Located) (EStateM Failure σ) where
  monadLift
    | .ok a => fun s => .ok a s
    | .error e => fun s => .error (.document e) s

instance {σ : Type} : MonadLift (Except Breach) (EStateM Failure σ) where
  monadLift
    | .ok a => fun s => .ok a s
    | .error b => fun s => .error (.breach b) s

end PrinterFirmware
