/-
  PrinterFirmware.Proofs.Interrupts
  ─────────────────────────────────
  **INTERRUPT TIMERS IN EXPRESSIONS AND IN CODE.**

  An interrupt timer leaves two traces in a program: a service in the expression of the
  printer, at the place of the user of the timer, and a line of code which binds the
  interrupt of the same timer and channel to that user.

      Binds              a service and a line name the same unit, and the line a user
      Item.Bindings      items which bind the interrupts of timers by the given lines,
                         and those of no other
      Carries            a part of the printer and the items contributed with it hold
                         the given timers, and no others

  All lines which bind interrupts have one priority, so in the code of the program they
  stand in the order in which they were contributed.
-/
import PrinterFirmware.Board.Clock
import PrinterFirmware.Proofs.Slots
import PrinterFirmware.Proofs.Source

namespace PrinterFirmware

open Naming

/-! ## §1. Places in an expression. -/

/-- A place in an expression.  Every step names the template in whose arguments it
goes, and the number of the argument. -/
abbrev Place := List (String × Nat)

/-- The expression at a place. -/
def TypeExpr.argument? : TypeExpr → Place → Option TypeExpr
  | e, [] => some e
  | .inst name args, (template, i) :: place =>
      if name = template then args[i]?.bind fun a => a.argument? place else none
  | .text _, _ :: _ => none
  | .int _, _ :: _ => none
  | .bool _, _ :: _ => none
  | .char _, _ :: _ => none

theorem TypeExpr.argument?_inst {name : String} {args : List TypeExpr} {i : Nat} {a : TypeExpr}
    (h : args[i]? = some a) (place : Place) :
    (TypeExpr.inst name args).argument? ((name, i) :: place) = a.argument? place := by
  rw [argument?, if_pos rfl, h]
  rfl

/-! ## §2. Services. -/

/-- The templates of the services of interrupt timers. -/
def timerTemplates : List String :=
  ["At91Sam3xClockInterruptTimerService", "Mk20ClockInterruptTimerService",
   "AvrClockInterruptTimerService"]

namespace TypeExpr

mutual

/-- The services of interrupt timers in an expression, from left to right. -/
def timerServices : TypeExpr → List TypeExpr
  | .text _ => []
  | .int _ => []
  | .bool _ => []
  | .char _ => []
  | .inst name args => if name ∈ timerTemplates then [.inst name args] else servicesAmong args

/-- The services of interrupt timers in several expressions, from left to right. -/
def servicesAmong : List TypeExpr → List TypeExpr
  | [] => []
  | e :: es => timerServices e ++ servicesAmong es

end

theorem servicesAmong_append (es es' : List TypeExpr) :
    servicesAmong (es ++ es') = servicesAmong es ++ servicesAmong es' := by
  induction es with
  | nil => rfl
  | cons e rest ih =>
      show timerServices e ++ servicesAmong (rest ++ es') = _
      rw [ih, ← List.append_assoc]
      rfl

/-- The services in an expression which is not one itself. -/
theorem timerServices_inst {name : String} (h : name ∉ timerTemplates) (args : List TypeExpr) :
    (inst name args).timerServices = servicesAmong args := by
  rw [timerServices, if_neg h]

theorem timerServices_list (es : List TypeExpr) : (list es).timerServices = servicesAmong es :=
  timerServices_inst (by decide) es

end TypeExpr

/-! ## §3. Lines. -/

/-- The macros which bind the interrupt of a timer. -/
def timerMacros : List String :=
  ["AMBRO_AT91SAM3X_CLOCK_INTERRUPT_TIMER_GLOBAL(", "AMBRO_MK20_CLOCK_INTERRUPT_TIMER_GLOBAL(",
   "AMBRO_AVR_CLOCK_INTERRUPT_TIMER_ISRS("]

/-- Whether a line of code binds the interrupt of a timer. -/
def bindsTimer (line : String) : Bool :=
  timerMacros.any fun name => name.toList.isPrefixOf line.toList

/-- The lines of a code which bind the interrupts of timers, in order. -/
def timerLines (code : String) : List String := (Draft.linesOf code).filter bindsTimer

/-- The service of an interrupt timer, and the line which binds the interrupt of the same
timer and channel to `user`. -/
inductive Binds : (service : TypeExpr) → (user line : String) → Prop where
  | at91Sam3x {timer channel : Char} {extra : List TypeExpr} {user : String} :
      Binds
        (.inst "At91Sam3xClockInterruptTimerService"
          (.text ("At91Sam3xClockTC" ++ String.singleton timer)
            :: .text ("At91Sam3xClockComp" ++ String.singleton channel) :: extra))
        user
        ("AMBRO_AT91SAM3X_CLOCK_INTERRUPT_TIMER_GLOBAL(At91Sam3xClockTC" ++ String.singleton timer
          ++ ", At91Sam3xClockComp" ++ String.singleton channel ++ ", " ++ user ++ ", MyContext())")
  | mk20 {timer channel : Char} {extra : List TypeExpr} {user : String} :
      Binds
        (.inst "Mk20ClockInterruptTimerService"
          (.text ("Mk20ClockFTM" ++ String.singleton timer)
            :: .text (String.singleton channel) :: extra))
        user
        ("AMBRO_MK20_CLOCK_INTERRUPT_TIMER_GLOBAL(Mk20ClockFTM" ++ String.singleton timer
          ++ ", " ++ String.singleton channel ++ ", " ++ user ++ ", MyContext())")
  | avr {timer channel : Char} {extra : List TypeExpr} {user : String} :
      Binds
        (.inst "AvrClockInterruptTimerService"
          (.text ("AvrClockTcChannel" ++ String.singleton timer ++ String.singleton channel)
            :: extra))
        user
        ("AMBRO_AVR_CLOCK_INTERRUPT_TIMER_ISRS(" ++ String.singleton timer
          ++ ", " ++ String.singleton channel ++ ", " ++ user ++ ", MyContext())")

/-- **The service and the binding of a unit name the same timer and channel.** -/
theorem ClockFamily.binds (f : ClockFamily) (u : CompareUnit) (clearance : Option String)
    (user : String) : Binds (f.timerService u clearance) user (f.timerBinding u user) := by
  cases f with
  | at91Sam3x => exact .at91Sam3x
  | mk20 => exact .mk20
  | avr => exact .avr

/-- Every service which is bound to a user is the service of an interrupt timer. -/
theorem Binds.timerServices {service : TypeExpr} {user line : String}
    (h : Binds service user line) : service.timerServices = [service] := by
  cases h with
  | at91Sam3x | mk20 | avr =>
      rw [TypeExpr.timerServices]
      exact if_pos (by decide)

/-- Whether two texts differ at a place which both of them have. -/
def differ : List Char → List Char → Bool
  | a :: as, b :: bs => a != b || differ as bs
  | [], _ => false
  | _, [] => false

theorem differ_append {as bs : List Char} (h : differ as bs = true) (cs : List Char) :
    differ as (bs ++ cs) = true := by
  induction as generalizing bs with
  | nil => cases h
  | cons a as ih =>
      cases bs with
      | nil => cases h
      | cons b bs =>
          have h : (a != b || differ as bs) = true := h
          show (a != b || differ as (bs ++ cs)) = true
          rcases Bool.or_eq_true_iff.1 h with hne | hrest
          · rw [hne, Bool.true_or]
          · rw [ih hrest, Bool.or_true]

theorem not_prefix_of_differ {as bs : List Char} (h : differ as bs = true) :
    as.isPrefixOf bs = false := by
  induction as generalizing bs with
  | nil => cases h
  | cons a as ih =>
      cases bs with
      | nil => cases h
      | cons b bs =>
          have h : (a != b || differ as bs) = true := h
          show (a == b && as.isPrefixOf bs) = false
          rcases Bool.or_eq_true_iff.1 h with hne | hrest
          · rw [beq_false_of_ne (bne_iff_ne.1 hne), Bool.false_and]
          · rw [ih hrest, Bool.and_false]

/-- A text which differs from the macros which bind the interrupts of timers, whatever
follows it. -/
def Apart (text : String) : Prop := ∀ name ∈ timerMacros, differ name.toList text.toList = true

namespace Apart

/-- A fixed text is compared with the macros character by character. -/
theorem lit {first second third text : List Char}
    (hmacros : timerMacros = [String.ofList first, String.ofList second, String.ofList third])
    (h : (differ first text && differ second text && differ third text) = true) :
    Apart (String.ofList text) := by
  unfold Apart
  rw [hmacros]
  simp only [List.forall_mem_cons, List.not_mem_nil, false_imp_iff, implies_true, and_true,
    String.toList_ofList]
  rw [Bool.and_eq_true, Bool.and_eq_true] at h
  exact ⟨h.1.1, h.1.2, h.2⟩

theorem append {text : String} (h : Apart text) (more : String) : Apart (text ++ more) := by
  intro name hname
  rw [String.toList_append]
  exact differ_append (h name hname) more.toList

theorem bindsTimer {text : String} (h : Apart text) : bindsTimer text = false := by
  unfold PrinterFirmware.bindsTimer
  rw [List.any_eq_false]
  intro name hname
  rw [not_prefix_of_differ (h name hname)]
  exact Bool.false_ne_true

end Apart

/-- A text which begins with one of the macros, whatever follows it. -/
def Begins (text : String) : Prop := ∃ name ∈ timerMacros, name.toList <+: text.toList

namespace Begins

theorem lit {name text : List Char} (hname : String.ofList name ∈ timerMacros)
    (h : name.isPrefixOf text = true) : Begins (String.ofList text) := by
  refine ⟨_, hname, ?_⟩
  rw [String.toList_ofList, String.toList_ofList]
  exact List.isPrefixOf_iff_prefix.1 h

theorem append {text : String} (h : Begins text) (more : String) : Begins (text ++ more) := by
  obtain ⟨name, hname, hprefix⟩ := h
  refine ⟨name, hname, ?_⟩
  rw [String.toList_append]
  exact hprefix.trans (List.prefix_append text.toList more.toList)

theorem bindsTimer {text : String} (h : Begins text) : bindsTimer text = true := by
  obtain ⟨name, hname, hprefix⟩ := h
  unfold PrinterFirmware.bindsTimer
  rw [List.any_eq_true]
  exact ⟨name, hname, List.isPrefixOf_iff_prefix.2 hprefix⟩

end Begins

/-- The line which binds a service binds the interrupt of a timer. -/
theorem Binds.bindsTimer {service : TypeExpr} {user line : String} (h : Binds service user line) :
    bindsTimer line = true := by
  apply Begins.bindsTimer
  cases h with
  | at91Sam3x =>
      have hhead : Begins "AMBRO_AT91SAM3X_CLOCK_INTERRUPT_TIMER_GLOBAL(At91Sam3xClockTC" :=
        .lit List.mem_cons_self rfl
      exact (((((hhead.append _).append _).append _).append _).append _).append _
  | mk20 =>
      have hhead : Begins "AMBRO_MK20_CLOCK_INTERRUPT_TIMER_GLOBAL(Mk20ClockFTM" :=
        .lit (List.mem_cons_of_mem _ List.mem_cons_self) rfl
      exact (((((hhead.append _).append _).append _).append _).append _).append _
  | avr =>
      have hhead : Begins "AMBRO_AVR_CLOCK_INTERRUPT_TIMER_ISRS(" :=
        .lit (List.mem_cons_of_mem _ (List.mem_cons_of_mem _ List.mem_cons_self)) rfl
      exact (((((hhead.append _).append _).append _).append _).append _).append _

/-! ## §4. Items. -/

namespace Item

/-- The priority of the resource of the printer, above that of all others. -/
def printerPriority : Int := 30

/-- An item which neither binds the interrupt of a timer nor is a resource which comes as
late as the printer. -/
def Quiet : Item → Prop
  | .code _ text => bindsTimer text = false
  | .resource priority _ _ _ => priority < printerPriority
  | _ => True

/-- The items bind the interrupts of timers by `lines`, in this order; all other items
are quiet. -/
inductive Bindings : List Item → (lines : List String) → Prop where
  | nil : Bindings [] []
  | quiet {i : Item} {items : List Item} {lines : List String} (h : i.Quiet)
      (hrest : Bindings items lines) : Bindings (i :: items) lines
  | timer {line : String} {items : List Item} {lines : List String}
      (h : bindsTimer line = true) (hrest : Bindings items lines) :
      Bindings (.interrupt line :: items) (line :: lines)

theorem Bindings.append {items items' : List Item} {lines lines' : List String}
    (h : Bindings items lines) (h' : Bindings items' lines') :
    Bindings (items ++ items') (lines ++ lines') := by
  induction h with
  | nil => exact h'
  | quiet hi _ ih => exact .quiet hi ih
  | timer hline _ ih => exact .timer hline ih

/-- Quiet items before others. -/
theorem Bindings.after {items items' : List Item} {lines : List String}
    (h : Bindings items' lines) (hquiet : Bindings items []) : Bindings (items ++ items') lines :=
  hquiet.append h

/-- Quiet items after others. -/
theorem Bindings.before {items items' : List Item} {lines : List String}
    (h : Bindings items lines) (hquiet : Bindings items' []) :
    Bindings (items ++ items') lines := by
  rw [← List.append_nil lines]
  exact h.append hquiet

/-- Items all of which are quiet. -/
theorem Bindings.ofQuiet {items : List Item} (h : ∀ i ∈ items, i.Quiet) : Bindings items [] := by
  induction items with
  | nil => exact .nil
  | cons i rest ih =>
      exact .quiet (h i List.mem_cons_self) (ih fun j hj => h j (List.mem_cons_of_mem i hj))

/-- A piece of code without its line break, and its priority. -/
def code? : Item → Option (Int × String)
  | .code priority text => some (priority, text)
  | _ => none

/-- The pieces of code among the items which bind the interrupts of timers. -/
def timerCodes (items : List Item) : List (Int × String) :=
  (items.filterMap code?).filter fun a => bindsTimer a.2

theorem timerCodes_append (items items' : List Item) :
    timerCodes (items ++ items') = timerCodes items ++ timerCodes items' := by
  unfold timerCodes
  rw [List.filterMap_append, List.filter_append]

theorem Bindings.timerCodes {items : List Item} {lines : List String} (h : Bindings items lines) :
    timerCodes items = lines.map fun line => (interruptPriority, line) := by
  induction h with
  | nil => rfl
  | @quiet i items lines hi _ ih =>
      have hnone : Item.timerCodes [i] = [] := by
        cases i with
        | code priority text =>
            have hi : bindsTimer text = false := hi
            show List.filter _ [(priority, text)] = []
            rw [List.filter_cons, if_neg (by rw [hi]; exact Bool.false_ne_true)]
            rfl
        | constant | option | platformInclude | frameworkInclude | initCall | resource | fill => rfl
      rw [← List.singleton_append, timerCodes_append, hnone, ih]
      rfl
  | @timer line items lines hline _ ih =>
      have hone : Item.timerCodes [interrupt line] = [(interruptPriority, line)] := by
        show List.filter _ [(interruptPriority, line)] = _
        rw [List.filter_cons, if_pos hline]
        rfl
      rw [← List.singleton_append, timerCodes_append, hone, ih]
      rfl

/-- The resources among items which bind interrupts come before the printer. -/
theorem Bindings.resources {items : List Item} {lines : List String} (h : Bindings items lines) :
    ∀ r ∈ items.filterMap Draft.resource?, r.1 < printerPriority := by
  induction h with
  | nil => exact fun r hr => absurd hr List.not_mem_nil
  | @quiet i items lines hi _ ih =>
      intro r hr
      cases i with
      | resource priority name expr contextName =>
          rcases List.mem_cons.1 hr with rfl | hr
          · exact hi
          · exact ih r hr
      | constant | option | platformInclude | frameworkInclude | code | initCall | fill => exact ih r hr
  | timer _ _ ih => exact ih

end Item

/-! ## §5. The code of a program. -/

namespace Draft

/-- **The lines which bind the interrupts of timers stand in the code of a program in the
order in which they were contributed.** -/
theorem timerLines_code {items : List Item} {bindings : List String}
    (hplain : ∀ a ∈ items.filterMap Item.code?, '\n' ∉ a.2.toList)
    (h : Item.timerCodes items = bindings.map fun line => (Item.interruptPriority, line)) :
    timerLines (lines (byPriority (items.filterMap codeLine?))) = bindings := by
  have hcodes : items.filterMap codeLine?
      = (items.filterMap Item.code?).map fun a => (a.1, a.2 ++ "\n") := by
    rw [List.map_filterMap]
    congr 1
    funext i
    cases i <;> rfl
  have htexts : ∀ t ∈ byPriority (items.filterMap Item.code?), '\n' ∉ t.toList := by
    intro t ht
    obtain ⟨priority, hmem⟩ := mem_byPriority.1 ht
    exact hplain _ hmem
  -- The lines of timers have one priority, and sorting keeps the order of equal priorities.
  have hpriority : ∀ a ∈ items.filterMap Item.code?, bindsTimer a.2 = true →
      a.1 = Item.interruptPriority := by
    intro a ha hbinds
    have hmem : a ∈ Item.timerCodes items := List.mem_filter.2 ⟨ha, hbinds⟩
    rw [h] at hmem
    obtain ⟨line, -, rfl⟩ := List.mem_map.1 hmem
    rfl
  have hempty : bindsTimer "" = false := by decide
  unfold timerLines
  rw [hcodes, byPriority_map (fun text => text ++ "\n"), linesOf_lines htexts,
    List.filter_append, List.filter_cons, hempty, filter_byPriority hpriority]
  show (Item.timerCodes items).map (·.2) ++ [] = bindings
  rw [h, List.append_nil, List.map_map]
  exact List.map_id bindings

end Draft

end PrinterFirmware
