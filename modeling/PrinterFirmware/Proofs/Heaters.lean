/-
  PrinterFirmware.Proofs.Heaters
  ──────────────────────────────
  **WHAT HEATERS AND FANS GIVE.**

  Heaters and fans are things of scopes of their own, each with a PWM output.  The
  walks over their lists begin with no letter of the scope in use.
-/
import PrinterFirmware.Machine.Heater
import PrinterFirmware.Proofs.Axes

namespace PrinterFirmware

open Document Naming Build Board Machine

variable {document : Value} {x : Site document} {c : Cursor}

/-! ## §1. Heaters. -/

/-- What the names of the options of the heater `l` begin with. -/
def heaterStem (l : Char) : String := String.singleton l ++ "Heater"

/-- The `i`-th heater, whose letter is `l`. -/
inductive HeaterGives (x : Site document) (c : Cursor) (i : Nat) (l : Char) :
    TypeExpr → Gain → Prop where
  | mk {conversion control observer : Cursor} {interval : Binary64} {setCommand waitCommand : Int}
      {input output : TypeExpr} {thermistorItems pidItems observerItems safetyItems : List Item}
      {inputGain g : Gain} (hconversion : c.enter "conversion" = .ok conversion)
      (hthermistor : OptionsGive conversion (heaterStem l ++ "Temp") thermistorSettings
        thermistorItems)
      (hcontrol : c.enter "control" = .ok control)
      (hinterval : control.number "ControlInterval" = .ok interval)
      (hpid : OptionsGive control (heaterStem l) controlSettings pidItems)
      (hobserver : c.enter "observer" = .ok observer)
      (hobservation : OptionsGive observer (heaterStem l) observerSettings observerItems)
      (hsetCommand : c.int "SetMCommand" = .ok setCommand)
      (hwaitCommand : c.int "WaitMCommand" = .ok waitCommand)
      (hinput : AnalogInputGives x c "ThermistorInput" input inputGain)
      (hsafety : OptionsGive c (heaterStem l) safetySettings safetyItems)
      (houtput : PwmOutputGives x c "pwm_output" (heaterOutputUser i) (heaterStem l) output g) :
      HeaterGives x c i l
        (.inst "PrinterMainHeaterParams"
          ([.char l, .int setCommand, .int waitCommand, input,
              .inst "GenericThermistorService"
                (optionNames (heaterStem l ++ "Temp") thermistorSettings)]
            ++ optionNames (heaterStem l) safetySettings
            ++ [.text (heaterStem l ++ "ControlInterval"),
                .inst "PidControlService" (optionNames (heaterStem l) controlSettings),
                .inst "TemperatureObserverService" (optionNames (heaterStem l) observerSettings),
                output]))
        (.ofItems (.frameworkInclude "printer/thermistor/GenericThermistor.h" :: thermistorItems
            ++ .frameworkInclude "printer/temp_control/PidControl.h" :: pidItems
            ++ .frameworkInclude "printer/TemperatureObserver.h" :: observerItems)
          ++ (inputGain
          ++ (.ofItems (safetyItems ++ [.numberOption (heaterStem l ++ "ControlInterval") interval])
          ++ g)))

/-- The options of a heater in the fields of `c`. -/
theorem declares_heaterOptions (hc : c.In document) (l : Char) (fields : List String) :
    Declares x (thingSymbols .heater l fields) (numberOptions c (heaterStem l) fields)
      fun es g => es = optionNames (heaterStem l) fields
        ∧ ∃ items, OptionsGive c (heaterStem l) fields items ∧ g = .ofItems items :=
  declares_numberOptions hc _ _ fun _ _ => rfl

theorem nodup_heaterFields : heaterFields.Nodup := by decide

/-- **A heater claims its letter.** -/
theorem claims_heater (hx : .clock ∈ x.kinds) (hx' : .pinNames ∈ x.kinds)
    (hx'' : .analogPins ∈ x.kinds) : ClaimsThing x .heater heater (HeaterGives x) := by
  intro c i hc
  unfold heater
  refine Claims.thing hc nodup_heaterFields (fun _ hf => hf) ?_
  intro l
  -- The symbols of a heater in the order in which it declares them.
  have hsymbols : thingSymbols .heater l heaterFields
      = (thermistorSettings.map fun f => .lettered .heater l ("Temp" ++ f))
        ++ (thingSymbols .heater l controlSettings ++ (thingSymbols .heater l observerSettings
        ++ (thingSymbols .heater l safetySettings
        ++ [.lettered .heater l "ControlInterval", .lettered .heater l "PulseInterval"]))) := rfl
  rw [hsymbols]
  apply Declares.read (hc.placed.honest_enter _)
  intro conversion hconversionIn hconversion
  apply Declares.afterPlain rfl rfl
  refine (declares_numberOptions hconversionIn (heaterStem l ++ "Temp")
    (fun f => .lettered .heater l ("Temp" ++ f)) ?_).bind ?_
  · intro f _
    exact String.append_assoc
  intro _ _ hgives
  obtain ⟨rfl, thermistorItems, hthermistor, rfl⟩ := hgives
  apply Declares.read (hc.placed.honest_enter _)
  intro control hcontrolIn hcontrol
  apply Declares.afterPlain rfl rfl
  apply Declares.read (hcontrolIn.placed.honest_number _)
  intro interval _ hinterval
  apply (declares_heaterOptions hcontrolIn l controlSettings).bind
  intro _ _ hgives
  obtain ⟨rfl, pidItems, hpid, rfl⟩ := hgives
  apply Declares.read (hc.placed.honest_enter _)
  intro observer hobserverIn hobserver
  apply Declares.afterPlain rfl rfl
  apply (declares_heaterOptions hobserverIn l observerSettings).bind
  intro _ _ hgives
  obtain ⟨rfl, observerItems, hobservation, rfl⟩ := hgives
  apply Declares.read (hc.placed.honest_int _)
  intro setCommand _ hsetCommand
  apply Declares.read (hc.placed.honest_int _)
  intro waitCommand _ hwaitCommand
  apply (declares_analogInput hx' hx'' hc _).andThen
  intro input inputGain hinput
  apply (declares_heaterOptions hc l safetySettings).bind
  intro _ _ hgives
  obtain ⟨rfl, safetyItems, hsafety, rfl⟩ := hgives
  apply (declares_declareOption interval (t := .lettered .heater l "ControlInterval") rfl).cons
  intro _ _ hgives
  obtain ⟨rfl, rfl⟩ := hgives
  refine (declares_pwmOutput hx hx' hc _ _ (heaterStem l)
    (t := .lettered .heater l "PulseInterval") rfl).map ?_
  intro output g houtput
  simp only [Gain.ofItems_append_assoc, List.cons_append, List.append_assoc]
  have h := HeaterGives.mk hconversion hthermistor hcontrol hinterval hpid hobserver hobservation
    hsetCommand hwaitCommand hinput hsafety houtput
  simp only [List.cons_append, List.nil_append, List.append_assoc] at h
  exact h

/-- The heaters of a configuration. -/
inductive HeatersGive (x : Site document) (config : Cursor) : TypeExpr → Gain → Prop where
  | mk {e : TypeExpr} {g : Gain} {letters : List Char}
      (h : ListedThings (HeaterGives x) config "heaters" 0 maxHeaters [] e g letters) :
      HeatersGive x config e g

theorem occupies_heaters (hx : .clock ∈ x.kinds) (hx' : .pinNames ∈ x.kinds)
    (hx'' : .analogPins ∈ x.kinds) (hc : c.In document) :
    Occupies x (fun t => False ∨ t.scope? = some .heater) (heaters c) (HeatersGive x c) := by
  unfold heaters
  apply (Claims.mapList (claims_heater hx hx' hx'') hc "heaters" 0 maxHeaters).fresh.mono
  intro e g hgives
  obtain ⟨letters, h⟩ := hgives
  exact .mk h

/-! ## §2. Fans. -/

/-- The `i`-th fan, whose letter is `l`. -/
inductive FanGives (x : Site document) (c : Cursor) (i : Nat) (l : Char) :
    TypeExpr → Gain → Prop where
  | mk {setCommand offCommand : Int} {output : TypeExpr} {g : Gain}
      (hsetCommand : c.int "SetMCommand" = .ok setCommand)
      (hoffCommand : c.int "OffMCommand" = .ok offCommand)
      (houtput : PwmOutputGives x c "pwm_output" (fanOutputUser i) (String.singleton l ++ "Fan")
        output g) :
      FanGives x c i l
        (.inst "PrinterMainFanParams"
          [.int setCommand, .int offCommand, .text "FanSpeedMultiply", output]) g

/-- **A fan claims its letter.** -/
theorem claims_fan (hx : .clock ∈ x.kinds) (hx' : .pinNames ∈ x.kinds) :
    ClaimsThing x .fan fan (FanGives x) := by
  intro c i hc
  unfold fan
  refine Claims.thing hc (by decide) (fun _ hf => hf) ?_
  intro l
  apply Declares.read (hc.placed.honest_int _)
  intro setCommand _ hsetCommand
  apply Declares.read (hc.placed.honest_int _)
  intro offCommand _ hoffCommand
  refine (declares_pwmOutput hx hx' hc _ _ (String.singleton l ++ "Fan")
    (t := .lettered .fan l "PulseInterval") rfl).map ?_
  intro output g houtput
  exact .mk hsetCommand hoffCommand houtput

/-- The fans of a configuration. -/
inductive FansGive (x : Site document) (config : Cursor) : TypeExpr → Gain → Prop where
  | mk {e : TypeExpr} {g : Gain} {letters : List Char}
      (h : ListedThings (FanGives x) config "fans" 0 maxFans [] e g letters) :
      FansGive x config e g

theorem occupies_fans (hx : .clock ∈ x.kinds) (hx' : .pinNames ∈ x.kinds) (hc : c.In document) :
    Occupies x (fun t => False ∨ t.scope? = some .fan) (fans c) (FansGive x c) := by
  unfold fans
  apply (Claims.mapList (claims_fan hx hx') hc "fans" 0 maxFans).fresh.mono
  intro e g hgives
  obtain ⟨letters, h⟩ := hgives
  exact .mk h

end PrinterFirmware
