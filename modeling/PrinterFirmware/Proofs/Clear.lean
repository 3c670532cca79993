/-
  PrinterFirmware.Proofs.Clear
  ────────────────────────────
  **A BOARD DOES NOT WRITE SETTINGS OF THE ANALOG INPUTS BY CHANCE.**

  The settings of the analog inputs are declared with the driver which has been chosen, and
  only the resource of this driver is meant to use them; it is written when everything else
  has been read.  So no other expression may have one of them as a leaf.  Most leaves are fixed
  texts, numbers, or texts which have passed a check; the only ones which can be any text at
  all are those which the document itself writes, the names of pins and the modes of inputs.

      Writes            the document has a text as the name of a pin or the mode of an input
      ClearText         the text is a setting only if the document writes it
      TypeExpr.Clear    the leaves of an expression are clear
      Gain.Clear        the pins of a gain are written, and its resources are clear

  The lemmas follow the relations of the walks over a board one by one.
-/
import PrinterFirmware.Proofs.Leaves

namespace PrinterFirmware

open Document Naming Build Board Machine

variable {document : Value} {x : Site document} {c : Cursor}

/-! ## §1. Texts which the document writes. -/

/-- The fields for the names of pins and for the modes of inputs. -/
def writtenKeys : List String :=
  ["LedPin", "DirPin", "StepPin", "EnablePin", "Pin", "SsPin", "OutputPin", "InputMode"]

/-- An object of the document has the text as the name of a pin or the mode of an input. -/
def Document.Value.Writes (document : Value) (s : String) : Prop :=
  ∃ c : Cursor, c.In document ∧ ∃ key ∈ writtenKeys, c.string key = .ok s

theorem Site.PinAt.writes {key name : String} (h : x.PinAt c key name) (hc : c.In document)
    (hkey : key ∈ writtenKeys) : document.Writes name :=
  ⟨c, hc, key, hkey, h.read⟩

/-- An identifier is the text of its field. -/
theorem Document.Cursor.string_of_identifierWhere {key s : String} {valid : String → Bool}
    (h : c.identifierWhere key valid = .ok s) : c.string key = .ok s ∧ valid s = true := by
  obtain ⟨hstring, -, hvalid⟩ := identifierWhere_eq_ok.1 h
  exact ⟨hstring, hvalid⟩

/-- A choice in an object of the document leads to an object of the document. -/
theorem Document.Cursor.Chosen.inside {key tag : String} {node : Cursor}
    (h : c.Chosen key tag node) (hc : c.In document) : node.In document :=
  (hc.placed.honest_enter key).value _ h.entered

/-! ## §2. Clear texts. -/

/-- A text which is a setting of the analog inputs only if the document writes it. -/
def ClearText (document : Value) (s : String) : Prop := s ∈ analogSymbols → document.Writes s

theorem clear_written {s : String} (h : document.Writes s) : ClearText document s := fun _ => h

theorem clear_fixed {s : String} (h : s ∉ analogSymbols) : ClearText document s :=
  fun hs => absurd hs h

/-- No setting passes a check which the text has passed. -/
theorem clear_checked {s : String} {valid : String → Bool} (h : valid s = true)
    (hnone : ∀ t ∈ analogSymbols, valid t = false) : ClearText document s := by
  apply clear_fixed
  intro hmem
  rw [hnone s hmem] at h
  cases h

theorem clear_identifierWhere {key s : String} {valid : String → Bool}
    (h : c.identifierWhere key valid = .ok s) (hnone : ∀ t ∈ analogSymbols, valid t = false) :
    ClearText document s :=
  clear_checked (Cursor.string_of_identifierWhere h).2 hnone

/-- No setting is a key of a table which has the text. -/
theorem clear_listed {α : Type} {table : List (String × α)} {s : String} {v : α}
    (h : table.lookup s = some v)
    (hnone : ∀ t ∈ analogSymbols, (table.lookup t).isSome = false) : ClearText document s := by
  refine clear_checked ?_ hnone
  rw [h]
  rfl

@[simp] theorem clear_context : ClearText document "MyContext" := clear_fixed (by decide)

@[simp] theorem clear_program : ClearText document "Program" := clear_fixed (by decide)

/-- The settings have a second character in common. -/
theorem clear_lettered (l : Char) {s : String} (h : s.toList.head? ≠ some 'd') :
    ClearText document (String.singleton l ++ s) := by
  have hsecond : ∀ t ∈ analogSymbols, t.toList.tail.head? = some 'd' := by decide
  apply clear_fixed
  intro hmem
  have hd := hsecond _ hmem
  simp at hd
  exact h hd

/-- No setting begins with the text `p`. -/
theorem clear_prefixed {p : String} (h : ∀ t ∈ analogSymbols, ¬ p.toList <+: t.toList)
    (s : String) : ClearText document (p ++ s) := by
  apply clear_fixed
  intro hmem
  apply h _ hmem
  rw [String.toList_append]
  exact List.prefix_append _ _

/-- The settings have a capital letter. -/
theorem clear_ofInt (n : Int) : ClearText document (Numeral.ofInt n) := by
  -- neither the digits of a number nor its sign are letters
  have hcapital : ∀ t ∈ analogSymbols, 'A' ∈ t.toList := by decide
  have hdigits : ∀ m, 'A' ∉ Numeral.digits m := by
    intro m hmem
    exact absurd (Numeral.isDigit_digits m _ hmem) (by decide)
  apply clear_fixed
  intro hmem
  have hA := hcapital _ hmem
  unfold Numeral.ofInt at hA
  rw [String.toList_ofList] at hA
  cases n with
  | ofNat n => exact hdigits n hA
  | negSucc n =>
      rcases List.mem_cons.1 hA with hminus | hA
      · exact absurd hminus (by decide)
      · exact hdigits _ hA

theorem clear_intConstant {key s : String} (h : c.intConstant key = .ok s) :
    ClearText document s := by
  obtain ⟨n, -, rfl⟩ := Cursor.intConstant_eq_ok.1 h
  exact clear_ofInt n

theorem clear_boolConstant {key s : String} (h : c.boolConstant key = .ok s) :
    ClearText document s := by
  obtain ⟨b, -, rfl⟩ := Cursor.boolConstant_eq_ok.1 h
  cases b with
  | false => exact clear_fixed (by decide)
  | true => exact clear_fixed (by decide)

namespace TypeExpr

/-- The leaves of an expression are clear. -/
def Clear (document : Value) (e : TypeExpr) : Prop :=
  ∀ s ∈ e.leaves, ClearText document s

/-- The leaves of several expressions are clear. -/
def AllClear (document : Value) (es : List TypeExpr) : Prop :=
  ∀ s ∈ leavesAmong es, ClearText document s

@[simp] theorem clear_text {s : String} :
    (text s).Clear document ↔ ClearText document s := by simp [Clear]

@[simp] theorem clear_int (n : Int) : (int n).Clear document := by simp [Clear]
@[simp] theorem clear_bool (b : Bool) : (bool b).Clear document := by simp [Clear]
@[simp] theorem clear_char (l : Char) : (char l).Clear document := by simp [Clear]

@[simp] theorem clear_inst {name : String} {args : List TypeExpr} :
    (inst name args).Clear document ↔ AllClear document args := Iff.rfl

@[simp] theorem clear_list {es : List TypeExpr} :
    (list es).Clear document ↔ AllClear document es := Iff.rfl

@[simp] theorem allClear_nil : AllClear document [] := by simp [AllClear]

@[simp] theorem allClear_cons {e : TypeExpr} {es : List TypeExpr} :
    AllClear document (e :: es) ↔ e.Clear document ∧ AllClear document es := by
  unfold AllClear Clear
  rw [leavesAmong_cons, List.forall_mem_append]

@[simp] theorem allClear_append {es es' : List TypeExpr} :
    AllClear document (es ++ es') ↔ AllClear document es ∧ AllClear document es' := by
  unfold AllClear
  rw [leavesAmong_append, List.forall_mem_append]

end TypeExpr

open TypeExpr

/-- Names of options are clear if each of them is. -/
theorem allClear_optionNames {stem : String} {fields : List String}
    (h : ∀ f ∈ fields, ClearText document (stem ++ f)) :
    AllClear document (optionNames stem fields) := by
  unfold AllClear
  rw [leavesAmong_optionNames]
  intro s hs
  obtain ⟨f, hf, rfl⟩ := List.mem_map.1 hs
  exact h f hf

/-- Names of options after a letter. -/
theorem allClear_letter (l : Char) {fields : List String}
    (h : ∀ f ∈ fields, f.toList.head? ≠ some 'd') :
    AllClear document (optionNames (String.singleton l) fields) :=
  allClear_optionNames fun f hf => clear_lettered l (h f hf)

/-- Names of options after a letter and a fixed text. -/
theorem allClear_letterStem (l : Char) {stem : String} {fields : List String}
    (h : ∀ f ∈ fields, (stem ++ f).toList.head? ≠ some 'd') :
    AllClear document (optionNames (String.singleton l ++ stem) fields) := by
  apply allClear_optionNames
  intro f hf
  rw [String.append_assoc]
  exact clear_lettered l (h f hf)

/-- Names of options after a fixed text. -/
theorem allClear_fixedStem {stem : String} {fields : List String}
    (h : ∀ f ∈ fields, stem ++ f ∉ analogSymbols) :
    AllClear document (optionNames stem fields) :=
  allClear_optionNames fun f hf => clear_fixed (h f hf)

/-! ## §3. Clear items. -/

/-- The expression of a resource is clear. -/
def Item.Clear (document : Value) : Item → Prop
  | .resource _ _ e _ => e.Clear document
  | _ => True

/-- The document writes the pins of a gain, and the resources among its items are clear. -/
structure Gain.Clear (document : Value) (g : Gain) : Prop where
  pins : ∀ p ∈ g.pins, document.Writes p
  items : ∀ i ∈ g.items, i.Clear document

namespace Gain.Clear

theorem empty : Gain.Clear document ∅ := ⟨by simp, by simp⟩

theorem ofItems {items : List Item} (h : ∀ i ∈ items, i.Clear document) :
    Gain.Clear document (.ofItems items) := ⟨by simp, h⟩

theorem append {g g' : Gain} (h : g.Clear document) (h' : g'.Clear document) :
    (g ++ g').Clear document :=
  ⟨List.forall_mem_append.2 ⟨h.pins, h'.pins⟩, List.forall_mem_append.2 ⟨h.items, h'.items⟩⟩

end Gain.Clear

/-- Items which are no resources are clear. -/
theorem clear_plain {items : List Item} (h : items.filterMap Draft.resource? = []) :
    ∀ i ∈ items, i.Clear document := by
  intro i hi
  have hnone := List.filterMap_eq_nil_iff.1 h i hi
  cases i with
  | resource => cases hnone
  | constant | option | platformInclude | frameworkInclude | code | initCall | fill => trivial

theorem OptionsGive.clear {stem : String} {fields : List String} {items : List Item}
    (h : OptionsGive c stem fields items) : ∀ i ∈ items, i.Clear document := by
  induction h with
  | nil => exact clear_plain rfl
  | cons _ _ ih => exact List.forall_mem_cons.2 ⟨trivial, ih⟩

/-! ## §4. Parts of a board. -/

theorem ClockFamily.clear_avrChannel (u : CompareUnit) :
    ClearText document (avrChannel u) := by
  unfold avrChannel
  rw [String.append_assoc]
  exact clear_prefixed (by decide) _

theorem TimerGives.clear {key user : String} {clearance : Option String} {e : TypeExpr} {g : Gain}
    (h : TimerGives x c key user clearance e g)
    (hclearance : ∀ name ∈ clearance, ClearText document name) :
    e.Clear document ∧ g.Clear document := by
  cases h with
  | @mk node u _ _ =>
      have hextra : AllClear document (clearance.toList.map .text) := by
        cases clearance with
        | none => simp
        | some name => simpa using hclearance name rfl
      refine ⟨?_, by simp, clear_plain rfl⟩
      have hchannel : ClearText document (String.singleton u.channel ++ "") :=
        clear_lettered _ (by decide)
      rw [String.append_empty] at hchannel
      -- the names of a timer begin with a text of the family, or with a letter of its own
      unfold ClockFamily.timerService
      cases x.clock.family with
      | at91Sam3x =>
          simp only [clear_inst, allClear_cons, clear_text]
          exact ⟨clear_prefixed (by decide) _, clear_prefixed (by decide) _, hextra⟩
      | mk20 =>
          simp only [clear_inst, allClear_cons, clear_text]
          exact ⟨clear_prefixed (by decide) _, hchannel, hextra⟩
      | avr =>
          simp only [clear_inst, allClear_cons, clear_text]
          exact ⟨ClockFamily.clear_avrChannel u, hextra⟩

theorem WatchdogGives.clear {key user : String} {e : TypeExpr} {g : Gain}
    (h : WatchdogGives c key user e g) (document : Value) : e.Clear document ∧ g.Clear document := by
  cases h with
  | at91Sam => exact ⟨by simp, .ofItems (clear_plain rfl)⟩
  | mk20 => exact ⟨by simp, .ofItems (clear_plain rfl)⟩
  | avr _ _ hformat =>
      have htimeout : ClearText document _ := clear_checked hformat (by decide)
      exact ⟨by simp [htimeout], .ofItems (clear_plain rfl)⟩

theorem SerialGives.clear {e : TypeExpr} {items : List Item} (h : SerialGives c e items)
    (document : Value) :
    e.Clear document ∧ ∀ i ∈ items, i.Clear document := by
  cases h with
  | @mk baudRate _ _ _ driver _ _ hreceiveSize hsendSize hparts hdriver =>
      have hbaudRate : ClearText document ("UINT32_C(" ++ baudRate ++ ")") := by
        rw [String.append_assoc]
        exact clear_prefixed (by decide) _
      have hreceiveSize : ClearText document _ := clear_intConstant hreceiveSize
      have hsendSize : ClearText document _ := clear_intConstant hsendSize
      have hparts : ClearText document _ := clear_intConstant hparts
      -- the rate stands after a fixed text, the sizes are numbers; the driver is fixed
      have hservice : driver.Clear document ∧ ∀ i ∈ items, i.Clear document := by
        cases hdriver with
        | usb => exact ⟨clear_text.2 (clear_fixed (by decide)), clear_plain rfl⟩
        | at91Sam => exact ⟨clear_text.2 (clear_fixed (by decide)), clear_plain rfl⟩
        | teensy => exact ⟨clear_text.2 (clear_fixed (by decide)), clear_plain rfl⟩
        | avr => exact ⟨by simp, clear_plain rfl⟩
      obtain ⟨hdriver, hitems⟩ := hservice
      exact ⟨by simp [hbaudRate, hreceiveSize, hsendSize, hparts, hdriver], hitems⟩

theorem SpiGives.clear {key user : String} {e : TypeExpr} {g : Gain}
    (h : SpiGives c key user e g) (document : Value) : e.Clear document ∧ g.Clear document := by
  cases h with
  | at91Sam _ hdevice =>
      have hclear : ClearText document _ := clear_listed hdevice.listed (by decide)
      exact ⟨by simp [hclear], .ofItems (clear_plain rfl)⟩
  | avr => exact ⟨by simp, .ofItems (clear_plain rfl)⟩

/-- The pin which selects a card stands in the section of its reader. -/
theorem CardGives.clear {key : String} {e : TypeExpr} {g : Gain} (h : CardGives x c key e g)
    (hc : c.In document) : e.Clear document ∧ g.Clear document := by
  cases h with
  | none => exact ⟨clear_text.2 (clear_fixed (by decide)), .empty⟩
  | @card node reader parser g _ _ hnode hreader hparser _ _ =>
      have hparser : AllClear document parser := by
        cases hparser with
        | text => simpa using clear_fixed (by decide)
        | binary => simpa using clear_fixed (by decide)
      cases hreader with
      | @mk section_ selectPin bus g hsection hpin hbus =>
          obtain ⟨hbus, hg⟩ := hbus.clear document
          have hselect := hpin.writes (hsection.inside (hnode.inside hc)) (by decide)
          refine ⟨?_, .append (.ofItems (clear_plain rfl)) hg⟩
          simp [clear_written hselect, hbus, hparser]

theorem EepromGives.clear {key user : String} {e : TypeExpr} {g : Gain}
    (h : EepromGives c key user e g) (document : Value) : e.Clear document ∧ g.Clear document := by
  cases h with
  | i2c _ hbus =>
      cases hbus with
      | mk _ hdevice =>
          have hclear : ClearText document _ := clear_listed hdevice.listed (by decide)
          have hfreq : ClearText document ("ConfigEeprom" ++ "I2cFreq") :=
            clear_prefixed (by decide) _
          have htimeout : ClearText document "ConfigEepromWriteTimeout" :=
            clear_fixed (by decide)
          refine ⟨?_, .append (.ofItems (clear_plain rfl))
            (.append (.ofItems (clear_plain rfl)) (.ofItems (clear_plain rfl)))⟩
          simp only [clear_inst, allClear_cons, clear_text, clear_int]
          exact ⟨⟨hclear, trivial, hfreq, allClear_nil⟩, trivial, trivial, trivial, htimeout,
            allClear_nil⟩
  | teensy => exact ⟨by simp, .ofItems (clear_plain rfl)⟩
  | avr => exact ⟨by simp, .ofItems (clear_plain rfl)⟩

theorem ManagerGives.clear {key user : String} {e : TypeExpr} {g : Gain}
    (h : ManagerGives c key user e g) (document : Value) : e.Clear document ∧ g.Clear document := by
  cases h with
  | constant => exact ⟨clear_text.2 (clear_fixed (by decide)), .ofItems (clear_plain rfl)⟩
  | runtime _ hstore =>
      cases hstore with
      | none =>
          have hstore : ClearText document "RuntimeConfigManagerNoStoreService" :=
            clear_fixed (by decide)
          exact ⟨by simp [hstore], .append (.ofItems (clear_plain rfl)) .empty⟩
      | eeprom _ hmemory _ _ =>
          obtain ⟨hmemory, hg⟩ := hmemory.clear document
          exact ⟨by simp [hmemory], .append (.ofItems (clear_plain rfl))
            (.append (.ofItems (clear_plain rfl)) hg)⟩

/-! ## §5. Drivers and outputs. -/

theorem PwmSectionGives.clear {items : List Item} (h : PwmSectionGives c items) :
    ∀ i ∈ items, i.Clear document := by
  cases h with
  | present hpwm =>
      cases hpwm with
      | disabled => exact clear_plain rfl
      | at91Sam =>
          simp [Item.Clear]
  | absent => exact clear_plain rfl

theorem AnalogGives.clear {key : String} {a : AnalogDriver} {items : List Item}
    (h : AnalogGives c key a items) : ∀ i ∈ items, i.Clear document := by
  cases h with
  | at91Sam => exact clear_plain rfl
  | mk20 => exact clear_plain rfl
  | avr => exact clear_plain rfl

theorem DriversGive.clear {k : Clock} {d : PinDriver} {a : AnalogDriver} {watchdog : TypeExpr}
    {g : Gain} (h : DriversGive c k d a watchdog g) (document : Value) :
    watchdog.Clear document ∧ g.Clear document := by
  cases h with
  | mk _ _ hwatchdog hanalog hpwm =>
      obtain ⟨hwatchdog, hg⟩ := hwatchdog.clear document
      have hhead : ∀ i ∈ Item.frameworkInclude k.family.header :: d.items, i.Clear document := by
        simp [PinDriver.items, Item.Clear]
      exact ⟨hwatchdog, .append (.ofItems hhead)
        (.append hg (.ofItems (List.forall_mem_append.2 ⟨hanalog.clear, hpwm.clear⟩)))⟩

/-- The settings which a driver mentions. -/
def AnalogDriver.settings : AnalogDriver → List String
  | at91Sam params => "AdcSmoothing" :: params.leaves
  | mk20 => ["AdcADiv"]
  | avr => ["AdcRefSel", "AdcPrescaler"]

/-- A driver writes its pins and its settings. -/
theorem AnalogDriver.mem_leaves {a : AnalogDriver} {pins : List String} {s : String}
    (h : s ∈ (a.expr pins).leaves) : s ∈ ["MyContext", "Program"] ∨ s ∈ pins ∨ s ∈ a.settings := by
  -- the pins stand in a list of their own, one by one
  have hpins : s ∈ leavesAmong (pins.map a.pin) → s ∈ pins ∨ s ∈ a.settings := by
    intro hs
    obtain ⟨e, he, hs⟩ := mem_leavesAmong.1 hs
    obtain ⟨p, hp, rfl⟩ := List.mem_map.1 he
    cases a with
    | at91Sam params =>
        simp only [AnalogDriver.pin, leaves_inst, leavesAmong_cons, leaves_text, leavesAmong_nil,
          List.append_nil, List.cons_append, List.nil_append, List.mem_cons, List.not_mem_nil,
          or_false] at hs
        rcases hs with rfl | rfl
        · exact Or.inl hp
        · exact Or.inr List.mem_cons_self
    | mk20 | avr =>
        rw [AnalogDriver.pin, leaves_text, List.mem_singleton] at hs
        exact Or.inl (hs ▸ hp)
  have hsplit : s = "MyContext" ∨ s = "Program" ∨ s ∈ leavesAmong (pins.map a.pin)
      ∨ s ∈ a.settings := by
    cases a with
    | at91Sam params =>
        simp only [AnalogDriver.expr, leaves_inst, leavesAmong_cons, leaves_text, leaves_list,
          leavesAmong_nil, List.append_nil, List.mem_append, List.mem_singleton] at h
        rcases h with h | h | h | h
        · exact Or.inl h
        · exact Or.inr (Or.inl h)
        · exact Or.inr (Or.inr (Or.inl h))
        · exact Or.inr (Or.inr (Or.inr (List.mem_cons_of_mem _ h)))
    | mk20 => simpa [AnalogDriver.expr, AnalogDriver.settings] using h
    | avr => simpa [AnalogDriver.expr, AnalogDriver.settings] using h
  rcases hsplit with rfl | rfl | h | h
  · exact Or.inl (by simp)
  · exact Or.inl (by simp)
  · exact Or.inr (hpins h)
  · exact Or.inr (Or.inr h)

/-- A driver has declared the settings which it mentions. -/
theorem AnalogGives.settings {key : String} {a : AnalogDriver} {items : List Item}
    (h : AnalogGives c key a items) : a.settings ⊆ items.filterMap Item.constantName? := by
  intro s hs
  cases h with
  | at91Sam =>
      have hsame : ∀ t ∈ ["AdcSmoothing", "AdcFreq", "AdcAvgInterval"],
          t ∈ ["AdcFreq", "AdcAvgInterval", "AdcSmoothing"] := by decide
      exact hsame s hs
  | mk20 => exact hs
  | avr => exact hs

/-- The pin and the mode of a digital input are written in the document. -/
theorem DigitalInputGives.clear {key : String} {es : List TypeExpr}
    (h : DigitalInputGives x c key es) : AllClear document es := by
  cases h with
  | @mk input name mode hinput hname hmode =>
      have hpin := hname.writes hinput.inside (by decide)
      have hmode : document.Writes mode := ⟨input, hinput.inside, "InputMode", by decide,
        (Cursor.string_of_identifierWhere hmode).1⟩
      simp [clear_written hpin, clear_written hmode]

theorem AnalogInputGives.clear {key : String} {e : TypeExpr} {g : Gain}
    (h : AnalogInputGives x c key e g) : e.Clear document ∧ g.Clear document := by
  cases h with
  | mk hinput hname =>
      have hpin := hname.writes hinput.inside (by decide)
      exact ⟨by simp [clear_written hpin], by simpa using hpin, by simp⟩

theorem HardDriverGives.clear {e : TypeExpr} (h : HardDriverGives x c e) (hc : c.In document) :
    e.Clear document := by
  cases h with
  | avr hnode _ houtput =>
      have hpin := houtput.writes (hnode.inside hc) (by decide)
      simp [ClockFamily.clear_avrChannel, clear_written hpin]
  | @at91Sam node _ _ _ _ signal hnode _ _ _ houtput _ =>
      have hpin := houtput.writes (hnode.inside hc) (by decide)
      have hsignal : ClearText document ("'" ++ signal ++ "'") := by
        rw [String.append_assoc]
        exact clear_prefixed (by decide) _
      simp [clear_written hpin, hsignal]

/-- The pin of an output stands in the section of its backend or of the driver. -/
theorem PwmOutputGives.clear {key user username : String} {e : TypeExpr} {g : Gain}
    (h : PwmOutputGives x c key user username e g)
    (hname : ClearText document (username ++ "PulseInterval")) :
    e.Clear document ∧ g.Clear document := by
  cases h with
  | soft houtput h =>
      cases h with
      | mk hnode hpin _ _ htimer =>
          obtain ⟨htimer, hg⟩ := htimer.clear (by simp)
          have hpin := hpin.writes (hnode.inside houtput.inside) (by decide)
          refine ⟨?_, .append (.ofItems (clear_plain rfl)) hg⟩
          simp [clear_written hpin, hname, htimer]
  | hard houtput h =>
      cases h with
      | mk hnode hdriver =>
          have hdriver := hdriver.clear (hnode.inside houtput.inside)
          exact ⟨by simp [hdriver], .ofItems (clear_plain rfl)⟩

end PrinterFirmware
