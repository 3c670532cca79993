/-
  PrinterFirmware.Proofs.AnalogPins
  ─────────────────────────────────
  **EVERY HEATER PUTS THE PIN OF ITS THERMISTOR INTO THE LIST OF THE ANALOG INPUTS.**

  The driver of the analog inputs is written when the whole description has been read, on
  the pins which the heaters have put into use until then.  A heater puts the pin of the
  input to which it refers at the end of the list, whether it is in the list already or
  not.  So the pins stand in the order of the heaters, and two heaters on one pin list it
  twice.

      wrappedPin                how the drivers take a pin
      AnalogGives.onPins        the expression of a driver on given pins
      nodup_pins_iff            no pin is listed twice if no two heaters are on one pin
      compile_analog_pins       the list of pins of a compiled program

  Main results: `compile_analog_pins`, and `warm_pin_listed_twice` for a description with
  two heaters on one thermistor.
-/
import PrinterFirmware.Proofs.AnalogParts
import PrinterFirmware.Proofs.Distinct
import PrinterFirmware.Proofs.Options
import PrinterFirmware.Proofs.TimerUsers

namespace PrinterFirmware

open Document Naming Build Board Machine

variable {document : Value} {x : Site document} {c : Cursor}

/-! ## §1. Pins and their driver. -/

/-- The tag of the driver of the analog inputs of a board. -/
def analogTag (board : Cursor) : Reading String := do
  let analog ← analogSection board
  analog.string Cursor.tagKey

/-- A pin as the driver with the given tag takes it.  One driver smooths what it measures. -/
def wrappedPin (tag pin : String) : TypeExpr :=
  if tag = "At91SamAdc" then .inst "At91SamAdcSmoothPin" [.text pin, .text "AdcSmoothing"]
  else .text pin

theorem wrappedPin_injective (tag : String) : Function.Injective (wrappedPin tag) := by
  intro pin pin' h
  unfold wrappedPin at h
  split at h
  · injection h with _ hargs
    injection hargs with hpin _
    injection hpin
  · injection h

/-- The expression of the driver with the given tag on a list of pins.  What follows the
pins are its settings. -/
def analogExpr (tag : String) (pins : List String) (settings : List TypeExpr) : TypeExpr :=
  .inst tag (.text "MyContext" :: .text "Program" :: .list (pins.map (wrappedPin tag)) :: settings)

/-- A driver wraps its pins as its tag tells. -/
theorem AnalogGives.onPins {key : String} {a : AnalogDriver} {items : List Item}
    (h : AnalogGives c key a items) : ∃ node tag settings, c.enter key = .ok node
      ∧ node.string Cursor.tagKey = .ok tag
      ∧ ∀ pins, a.expr pins = analogExpr tag pins settings := by
  cases h with
  | @at91Sam node _ _ _ startup settling tracking transfer hnode =>
      refine ⟨node, _, [.inst "At91SamAdcParams" [.text "AdcFreq", .int startup, .int settling,
        .int tracking, .int transfer, .inst "At91SamAdcAvgParams" [.text "AdcAvgInterval"]]],
        hnode.entered, hnode.tagged, ?_⟩
      intro pins
      rfl
  | @mk20 node _ hnode =>
      exact ⟨node, _, [.text "AdcADiv"], hnode.entered, hnode.tagged, fun _ => rfl⟩
  | @avr node _ _ hnode =>
      exact ⟨node, _, [.text "AdcRefSel", .text "AdcPrescaler"], hnode.entered, hnode.tagged,
        fun _ => rfl⟩

/-- No pin is listed twice if and only if no two heaters are on one pin. -/
theorem nodup_pins_iff {board : Cursor} {heaters : List Cursor} {pins : List String}
    (h : heaters.map (thermistorPin? board) = pins.map some) (tag : String) :
    (pins.map (wrappedPin tag)).Nodup
      ↔ heaters.Pairwise fun a b => thermistorPin? board a ≠ thermistorPin? board b := by
  rw [List.nodup_map_iff (wrappedPin_injective tag),
    ← List.nodup_map_iff (Option.some_injective String), ← h, List.Nodup, List.pairwise_map]

/-! ## §2. Compiled programs. -/

/-- The resource of the analog inputs. -/
def analogResource (e : TypeExpr) : Draft.Resource := ⟨"MyAdc", e, some "Adc"⟩

theorem exprLine_analogResource (e : TypeExpr) :
    (analogResource e).exprLine = "using MyAdc = " ++ e.render (.indented 0) ++ ";\n" := by
  have husing : "using " ++ "MyAdc" ++ " = " = "using MyAdc = " := by decide
  show "using " ++ "MyAdc" ++ " = " ++ e.render (.indented 0) ++ ";\n" = _
  rw [husing]

/-- The list of pins of a program: it is made of the pins of the heaters, it stands in the
only resource of the analog inputs, and this resource stands in the text of the program. -/
structure PinsListed (board : Cursor) (heaters : List Cursor) (d : Draft) (tag : String)
    (pins : List String) (resourcesText : String) : Prop where
  thermistors : heaters.map (thermistorPin? board) = pins.map some
  resource : ∃ settings, (∀ r, r ∈ d.resources ∧ r.name = "MyAdc"
      ↔ r = analogResource (analogExpr tag pins settings))
    ∧ ∃ before after, resourcesText = before ++ "using MyAdc = "
      ++ (analogExpr tag pins settings).render (.indented 0) ++ ";\n" ++ after

theorem CompileGives.pinsListed {name? : Option String} {c : Compiled}
    (h : CompileGives document name? c) : ∃ config board heaters w tag pins text,
      selectSections (.root document) name? = .ok (config, board)
        ∧ analogTag board = .ok tag
        ∧ config.objects "heaters" 0 maxHeaters = .ok heaters
        ∧ build document name? .empty = .ok c w
        ∧ c.slots.get? "GlobalResourceExprs" = some text
        ∧ PinsListed board heaters w.draft tag pins text := by
  obtain ⟨config, board, heaters, w, a, items, pins, hsections, hheaters, hrun, hslots, -,
    hwired⟩ := h.wired
  obtain ⟨platform, hsection, hanalog⟩ := hwired.driven
  obtain ⟨node, tag, settings, hnode, htag, hexpr⟩ := hanalog.onPins
  -- The finish of the build writes the resource, and no other resource has its name.
  have hresource : analogResource (analogExpr tag pins settings) ∈ w.draft.resources := by
    rw [← hexpr]
    exact Draft.mem_resources.2 ⟨20, hwired.resource⟩
  obtain ⟨before, after, htext⟩ := Draft.exprLine_of_mem hresource
  refine ⟨config, board, heaters, w, tag, pins, _, hsections, ?_, hheaters, hrun,
    hslots ▸ htext, hwired.thermistors, settings, ?_, before, after, ?_⟩
  · unfold analogTag
    rw [hsection, hnode]
    exact htag
  · intro r
    constructor
    · rintro ⟨hr, hname⟩
      exact (rendered_build hrun).1.distinct.resource_eq hr hresource hname
    · rintro rfl
      exact ⟨hresource, rfl⟩
  · rw [exprLine_analogResource]
    simp only [String.append_assoc]

/-- **The pins of the analog inputs are those of the heaters, one for each.**  The only
resource of the analog inputs lists the pin of the input to which the first heater refers,
then the one of the second heater, and so on, each as the driver takes it, and no others.
So no pin is listed twice if and only if no two heaters are on one pin. -/
theorem compile_analog_pins {name? : Option String} {c : Compiled}
    (h : compile document name? = .ok c) :
    ∃ config board heaters w tag pins text,
      selectSections (.root document) name? = .ok (config, board)
        ∧ analogTag board = .ok tag
        ∧ config.objects "heaters" 0 maxHeaters = .ok heaters
        ∧ build document name? .empty = .ok c w
        ∧ c.slots.get? "GlobalResourceExprs" = some text
        ∧ PinsListed board heaters w.draft tag pins text
        ∧ ((pins.map (wrappedPin tag)).Nodup
          ↔ heaters.Pairwise fun a b => thermistorPin? board a ≠ thermistorPin? board b) := by
  obtain ⟨config, board, heaters, w, tag, pins, text, hsections, htag, hheaters, hrun, htext,
    hlisted⟩ := (compile_gives h).pinsListed
  exact ⟨config, board, heaters, w, tag, pins, text, hsections, htag, hheaters, hrun, htext,
    hlisted, nodup_pins_iff hlisted.thermistors tag⟩

namespace Sample

/-- An analog input on a pin. -/
def analogInput (name pin : String) : Value :=
  .object [("Name", .string name), ("Pin", .string pin)]

/-- A heater on an analog input. -/
def heaterOn (name input : String) : Value :=
  changed "Name" (.string name) (changed "ThermistorInput" (.string input) heater)

def pairBoard : Value :=
  changed "analog_inputs" (.list [analogInput "A" "Mk20Pin<Mk20PortB,1>",
    analogInput "Z" "Mk20Pin<Mk20PortC,2>"]) board

def pairConfig : Value :=
  changed "heaters" (.list [heaterOn "B" "Z", heaterOn "C" "A"]) config

/-- A printer with two heaters, the first of which is on the second analog input. -/
def pair : Value :=
  .object [("selected_config", .string "C"), ("configurations", .list [pairConfig]),
    ("boards", .list [pairBoard])]

/-- The configuration with two heaters, at its place. -/
def pairConfigAt : Cursor := ⟨pairConfig, (Path.root.key "configurations").index 0⟩

/-- The board with two analog inputs, at its place. -/
def pairBoardAt : Cursor := ⟨pairBoard, (Path.root.key "boards").index 0⟩

/-- The description with two analog inputs is compiled. -/
theorem pair_compiles : ∃ c, compile pair none = .ok c :=
  compiled_of_isOk (by decide +kernel)

end Sample

/-- The pins of two analog inputs stand in the list in the order of the heaters, which is not
the order of the inputs on the board. -/
theorem pair_analog_pins : ∃ c w settings, compile Sample.pair none = .ok c
    ∧ build Sample.pair none .empty = .ok c w
    ∧ analogResource (analogExpr "Mk20Adc" ["Mk20Pin<Mk20PortC,2>", "Mk20Pin<Mk20PortB,1>"]
      settings) ∈ w.draft.resources := by
  obtain ⟨c, hc⟩ := Sample.pair_compiles
  obtain ⟨config, board, heaters, w, tag, pins, text, hsections, htag, hheaters, hrun, -,
    ⟨hpins, settings, hresource, -⟩, -⟩ := compile_analog_pins hc
  have hselected : selectSections (.root Sample.pair) none
      = .ok (Sample.pairConfigAt, Sample.pairBoardAt) := rfl
  cases hselected.symm.trans hsections
  have hheater : Sample.pairConfigAt.objects "heaters" 0 maxHeaters
      = .ok [⟨Sample.heaterOn "B" "Z", (Sample.pairConfigAt.keyPath "heaters").index 0⟩,
        ⟨Sample.heaterOn "C" "A", (Sample.pairConfigAt.keyPath "heaters").index 1⟩] := rfl
  cases hheater.symm.trans hheaters
  have hdriver : analogTag Sample.pairBoardAt = .ok "Mk20Adc" := rfl
  cases hdriver.symm.trans htag
  have hpin : ["Mk20Pin<Mk20PortC,2>", "Mk20Pin<Mk20PortB,1>"].map some = pins.map some := hpins
  obtain rfl := List.map_injective_iff.2 (Option.some_injective String) hpin
  exact ⟨c, w, settings, hc, hrun, ((hresource _).2 rfl).1⟩

namespace Sample

def warmConfig : Value := changed "heaters" (.list [heater, heaterOn "C" "A"]) config

/-- A printer with two heaters on one thermistor. -/
def warm : Value :=
  .object [("selected_config", .string "C"), ("configurations", .list [warmConfig]),
    ("boards", .list [board])]

/-- The configuration with two heaters, at its place. -/
def warmConfigAt : Cursor := ⟨warmConfig, (Path.root.key "configurations").index 0⟩

/-- The description with two heaters is compiled. -/
theorem warm_compiles : ∃ c, compile warm none = .ok c :=
  compiled_of_isOk (by decide +kernel)

end Sample

/-- **A pin can be listed twice.**  The description with two heaters on one thermistor is
compiled, and its pin stands in the list of the analog inputs two times. -/
theorem warm_pin_listed_twice : ∃ c w r settings, compile Sample.warm none = .ok c
    ∧ build Sample.warm none .empty = .ok c w ∧ r ∈ w.draft.resources ∧ r.name = "MyAdc"
    ∧ r.expr = .inst "Mk20Adc" (.text "MyContext" :: .text "Program"
      :: .list [.text "Mk20Pin<Mk20PortB,1>", .text "Mk20Pin<Mk20PortB,1>"] :: settings) := by
  obtain ⟨c, hc⟩ := Sample.warm_compiles
  obtain ⟨config, board, heaters, w, tag, pins, text, hsections, htag, hheaters, hrun, -,
    ⟨hpins, settings, hresource, -⟩⟩ := (compile_gives hc).pinsListed
  have hselected : selectSections (.root Sample.warm) none
      = .ok (Sample.warmConfigAt, Sample.boardAt) := rfl
  cases hselected.symm.trans hsections
  have hheater : Sample.warmConfigAt.objects "heaters" 0 maxHeaters
      = .ok [⟨Sample.heater, (Sample.warmConfigAt.keyPath "heaters").index 0⟩,
        ⟨Sample.heaterOn "C" "A", (Sample.warmConfigAt.keyPath "heaters").index 1⟩] := rfl
  cases hheater.symm.trans hheaters
  have hdriver : analogTag Sample.boardAt = .ok "Mk20Adc" := rfl
  cases hdriver.symm.trans htag
  have hpin : ["Mk20Pin<Mk20PortB,1>", "Mk20Pin<Mk20PortB,1>"].map some = pins.map some := hpins
  obtain rfl := List.map_injective_iff.2 (Option.some_injective String) hpin
  have hlisted := (hresource _).2 rfl
  exact ⟨c, w, _, settings, hc, hrun, hlisted.1, rfl, rfl⟩

end PrinterFirmware
