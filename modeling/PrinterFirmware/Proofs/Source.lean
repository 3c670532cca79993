/-
  PrinterFirmware.Proofs.Source
  ─────────────────────────────
  **THE SOURCE OF A PROGRAM STAYS IN ITS PLACE IF EVERY PHRASE OF ITS ITEMS DOES.**

  An expression is tame if its names and texts are phrases, and an item is tame if its
  texts are phrases and its expressions are tame.  Everything else in the text of a
  program, such as brackets, commas, line breaks and indentation, is put there by
  rendering.

      TypeExpr.Tame.chars      a tame expression is source text in every layout
      Draft.sourceText_slots   the slots of a program of tame items hold source text
-/
import PrinterFirmware.Program.Draft
import PrinterFirmware.Proofs.Ascending
import PrinterFirmware.Proofs.Discipline
import PrinterFirmware.Proofs.Text

namespace PrinterFirmware

open Naming

/-! ## §1. Expressions. -/

/-- An expression whose names and texts are phrases. -/
inductive TypeExpr.Tame : TypeExpr → Prop where
  | text {s : String} (h : Phrase s) : TypeExpr.Tame (.text s)
  | int {n : Int} : TypeExpr.Tame (.int n)
  | bool {b : Bool} : TypeExpr.Tame (.bool b)
  | char {ch : Char} (h : isWordChar ch = true) : TypeExpr.Tame (.char ch)
  | node {name : String} {args : List TypeExpr} (hname : Phrase name)
      (hargs : ∀ a ∈ args, TypeExpr.Tame a) : TypeExpr.Tame (.inst name args)

namespace TypeExpr

/-- Expressions all of which are tame. -/
def TameAll (es : List TypeExpr) : Prop := ∀ e ∈ es, e.Tame

theorem TameAll.nil : TameAll [] := fun _ h => absurd h List.not_mem_nil

theorem TameAll.cons {e : TypeExpr} {es : List TypeExpr} (h : e.Tame) (hs : TameAll es) :
    TameAll (e :: es) :=
  List.forall_mem_cons.2 ⟨h, hs⟩

theorem TameAll.append {es es' : List TypeExpr} (h : TameAll es) (h' : TameAll es') :
    TameAll (es ++ es') :=
  List.forall_mem_append.2 ⟨h, h'⟩

theorem Tame.inst {name : String} {args : List TypeExpr} (hname : Phrase name)
    (hargs : TameAll args) : Tame (.inst name args) :=
  .node hname hargs

theorem Tame.list {es : List TypeExpr} (h : TameAll es) : (list es).Tame := .node (.lit rfl) h

end TypeExpr

/-! ## §2. Expressions in a layout. -/

/-- Line breaks and indentation. -/
theorem Layout.newline_blank (level : Nat) : ∀ ch ∈ newline level, ch = '\n' ∨ ch = ' ' := by
  intro ch hch
  rcases List.mem_cons.1 hch with rfl | hmem
  · exact Or.inl rfl
  · obtain ⟨unit, hunit, hin⟩ := List.mem_flatten.1 hmem
    rw [List.eq_of_mem_replicate hunit] at hin
    have hblank : indentUnit = List.replicate 4 ' ' := rfl
    rw [hblank] at hin
    exact Or.inr (List.eq_of_mem_replicate hin)

theorem Layout.written_newline (level : Nat) : Written isSource [] (newline level) [] := by
  refine .quiet ?_ []
  intro ch hch
  rcases newline_blank level ch hch with rfl | rfl
  · decide
  · decide

theorem Layout.written_opening (layout : Layout) : Written isSource [] layout.opening [] := by
  cases layout with
  | flat => exact .nil
  | indented level => exact written_newline _

theorem Layout.written_between (layout : Layout) : Written isSource [] layout.between [] := by
  cases layout with
  | flat => decide
  | indented level =>
      have hcomma : Written isSource [] [','] [] := by decide
      exact hcomma.append (written_newline _)

theorem Layout.written_closing (layout : Layout) : Written isSource [] layout.closing [] := by
  cases layout with
  | flat => exact .nil
  | indented level => exact written_newline _

/-- The arguments after the first one. -/
theorem TypeExpr.written_moreChars {layout : Layout} {args : List TypeExpr}
    (h : ∀ a ∈ args, ∀ layout, Written isSource [] (a.chars layout) []) :
    Written isSource [] (moreChars layout args) [] := by
  induction args with
  | nil => exact layout.written_closing
  | cons a rest ih =>
      have ha := h a List.mem_cons_self layout.deeper
      have hrest := ih fun b hb => h b (List.mem_cons_of_mem a hb)
      exact (layout.written_between.append ha).append hrest

/-- **A tame expression is source text in every layout.** -/
theorem TypeExpr.Tame.chars {e : TypeExpr} (h : e.Tame) :
    ∀ layout, Written isSource [] (e.chars layout) [] := by
  induction h with
  | text hs =>
      intro layout
      exact hs.source
  | int =>
      intro layout
      exact (Numeral.written_signed _ []).source
  | @bool b =>
      intro layout
      cases b <;> exact of_decide_eq_true rfl
  | @char ch hch =>
      intro layout
      have hliteral : charLiteral ch = '\'' :: ([ch] ++ ['\'']) := by
        apply if_neg
        rintro (rfl | rfl) <;> cases hch
      have hquote : Written isSource [] ['\''] [] := by decide
      have hword : Written isSource [] [ch] [] := (written_word (by simpa using hch) []).source
      show Written isSource [] (charLiteral ch) []
      rw [hliteral]
      exact hquote.append (hword.append hquote)
  | @node name args hname hargs ih =>
      intro layout
      show Written isSource [] (name.toList ++ '<' :: (argumentChars layout args ++ ['>'])) []
      have hinner : Written isSource [] (argumentChars layout args) [] := by
        cases args with
        | nil => exact .nil
        | cons a rest =>
            have hrest : Written isSource [] (moreChars layout rest) [] :=
              written_moreChars fun b hb => ih b (List.mem_cons_of_mem a hb)
            exact (layout.written_opening.append (ih a List.mem_cons_self _)).append hrest
      apply hname.source.append
      exact hinner.bracketed (by decide) (by decide) (by decide) (by decide)

theorem TypeExpr.Tame.sourceText {e : TypeExpr} (h : e.Tame) (layout : Layout) :
    SourceText (e.render layout) := by
  unfold SourceText render
  rw [String.toList_ofList]
  exact h.chars layout

/-! ## §3. Items. -/

/-- What a slot is filled with directly. -/
def SlotContent.Tame : SlotContent → Prop
  | .text s => Phrase s
  | .expr e _ => e.Tame

/-- An item whose texts are phrases and whose expressions are tame. -/
def Item.Tame : Item → Prop
  | .constant declarator name value => Phrase declarator ∧ Phrase name ∧ Phrase value
  | .option name dtype value => Phrase name ∧ Phrase dtype ∧ Phrase value
  | .platformInclude path => Phrase path
  | .frameworkInclude path => Phrase path
  | .code _ text => Phrase text
  | .initCall _ text => Phrase text
  | .resource _ name expr contextName =>
      Phrase name ∧ expr.Tame ∧ ∀ inner ∈ contextName, Phrase inner
  | .fill _ content => content.Tame

namespace Item

/-- Items all of which are tame. -/
def TameAll (items : List Item) : Prop := ∀ i ∈ items, i.Tame

theorem TameAll.nil : TameAll [] := fun _ h => absurd h List.not_mem_nil

theorem TameAll.cons {i : Item} {items : List Item} (h : i.Tame) (hs : TameAll items) :
    TameAll (i :: items) :=
  List.forall_mem_cons.2 ⟨h, hs⟩

theorem TameAll.append {items items' : List Item} (h : TameAll items) (h' : TameAll items') :
    TameAll (items ++ items') :=
  List.forall_mem_append.2 ⟨h, h'⟩

theorem tame_frameworkInclude {path : String} (h : Phrase path) : (frameworkInclude path).Tame := h

theorem tame_resource {priority : Int} {name inner : String} {expr : TypeExpr}
    (hname : Phrase name) (hexpr : expr.Tame) (hinner : Phrase inner) :
    (resource priority name expr (some inner)).Tame := by
  refine ⟨hname, hexpr, ?_⟩
  intro s hs
  rw [← Option.mem_some.1 hs]
  exact hinner

theorem tame_interrupt {text : String} (h : Phrase text) : (interrupt text).Tame := h

theorem tame_numberOption {name : String} (h : Phrase name) (v : Binary64) :
    (numberOption name v).Tame :=
  ⟨h, .lit rfl, v.phrase_scientific⟩

theorem tame_boolOption {name : String} (h : Phrase name) (b : Bool) : (boolOption name b).Tame :=
  ⟨h, .lit rfl, by cases b <;> exact .lit rfl⟩

theorem tame_numberConstant {name : String} (h : Phrase name) (v : Binary64) :
    (numberConstant name v).Tame := by
  have hopen : Written isPrinted [] "AMBRO_WRAP_DOUBLE(".toList [')'] := .lit rfl
  exact ⟨.lit rfl, h, (hopen.phrase v.phrase_scientific).andThen (.lit rfl)⟩

theorem tame_typeName {name type : String} (h : Phrase name) (htype : Phrase type) :
    (typeName name type).Tame :=
  ⟨.lit rfl, h, htype⟩

theorem tame_intConstant (type : IntegerType) {name : String} (h : Phrase name) (value : Int) :
    (intConstant type name value).Tame := by
  have hwidth := Numeral.phrase_ofNat type.width
  have hstatic : Phrase "static " := .lit rfl
  have hlower : Phrase (if type.isSigned then "int" else "uint") := by
    split
    · exact .lit rfl
    · exact .lit rfl
  have hupper : Phrase (if type.isSigned then "INT" else "UINT") := by
    split
    · exact .lit rfl
    · exact .lit rfl
  have hopen : Written isPrinted [] "_C(".toList [')'] := .lit rfl
  have hdeclared : Phrase type.declared := (Written.phrase hlower hwidth).phrase (.lit rfl)
  have hliteral : Phrase (type.literal value) :=
    (((Written.phrase hupper hwidth).andThen hopen).phrase (Numeral.phrase_ofInt value)).andThen
      (.lit rfl)
  exact ⟨(Written.phrase hstatic hdeclared).phrase (.lit rfl), h, hliteral⟩

end Item

/-- A gain whose items are tame, whose units have word characters for names and whose
pins are phrases. -/
structure Gain.Tame (g : Gain) : Prop where
  items : Item.TameAll g.items
  units : ∀ u ∈ g.units, isWordChar u.timer = true ∧ isWordChar u.channel = true
  pins : ∀ p ∈ g.pins, Phrase p

namespace Gain

theorem tame_empty : (∅ : Gain).Tame where
  items := .nil
  units := by simp
  pins := by simp

theorem tame_ofItems {items : List Item} (h : Item.TameAll items) : (ofItems items).Tame where
  items := h
  units := by simp
  pins := by simp

theorem Tame.append {g h : Gain} (hg : g.Tame) (hh : h.Tame) : (g ++ h).Tame where
  items := hg.items.append hh.items
  units := List.forall_mem_append.2 ⟨hg.units, hh.units⟩
  pins := List.forall_mem_append.2 ⟨hg.pins, hh.pins⟩

end Gain

/-! ## §4. Slots. -/

namespace Draft

variable {d : Draft}

/-- Lines put together. -/
theorem sourceText_lines {ls : List String} (h : ∀ l ∈ ls, SourceText l) :
    SourceText (lines ls) := by
  unfold lines
  induction ls with
  | nil =>
      rw [String.join_nil]
      decide
  | cons l rest ih =>
      rw [String.join_cons]
      have hl : Written isSource [] l.toList [] := h l List.mem_cons_self
      exact hl.andThen (ih fun l' hl' => h l' (List.mem_cons_of_mem l hl'))

theorem sourceText_constantLine {i : Item} (h : i.Tame) : ∀ l ∈ constantLine? i, SourceText l := by
  intro l hl
  cases i with
  | constant declarator name value =>
      injection hl with hl
      subst hl
      obtain ⟨hdeclarator, hname, hvalue⟩ := h
      have hspace : Phrase " " := .lit rfl
      have hequals : Phrase " = " := .lit rfl
      exact ((((Written.phrase hdeclarator hspace).phrase hname).phrase hequals).phrase
        hvalue).source.andThen (.lit rfl)
  | option | platformInclude | frameworkInclude | code | initCall | resource | fill => cases hl

theorem sourceText_optionLine {i : Item} (h : i.Tame) : ∀ l ∈ optionLine? i, SourceText l := by
  intro l hl
  cases i with
  | option name dtype value =>
      injection hl with hl
      subst hl
      obtain ⟨hname, hdtype, hvalue⟩ := h
      have hhead : Written isPrinted [] "APRINTER_CONFIG_OPTION_".toList [] := .lit rfl
      have hopen : Written isPrinted [] "(".toList [')'] := .lit rfl
      have hcomma : Phrase ", " := .lit rfl
      exact (((((hhead.phrase hdtype).andThen hopen).phrase hname).phrase hcomma).phrase
        hvalue).source.andThen (.lit rfl)
  | constant | platformInclude | frameworkInclude | code | initCall | resource | fill => cases hl

theorem sourceText_platformLine {i : Item} (h : i.Tame) : ∀ l ∈ platformLine? i, SourceText l := by
  intro l hl
  cases i with
  | platformInclude path =>
      injection hl with hl
      subst hl
      have h : Phrase path := h
      have hopen : Written isPrinted [] "#include <".toList ['>'] := .lit rfl
      exact (hopen.phrase h).source.andThen (.lit rfl)
  | constant | option | frameworkInclude | code | initCall | resource | fill => cases hl

theorem sourceText_frameworkLine {path : String} (h : Phrase path) :
    SourceText (frameworkLine path) := by
  have hopen : Written isPrinted [] "#include <aprinter/".toList ['>'] := .lit rfl
  exact (hopen.phrase h).source.andThen (.lit rfl)

theorem sourceText_codeLine {i : Item} (h : i.Tame) : ∀ l ∈ codeLine? i, SourceText l.2 := by
  intro l hl
  cases i with
  | code priority text =>
      injection hl with hl
      subst hl
      have h : Phrase text := h
      exact Written.andThen h.source (.lit rfl)
  | constant | option | platformInclude | frameworkInclude | initCall | resource | fill => cases hl

theorem sourceText_initLine {i : Item} (h : i.Tame) : ∀ l ∈ initLine? i, SourceText l.2 := by
  intro l hl
  cases i with
  | initCall priority text =>
      injection hl with hl
      subst hl
      have h : Phrase text := h
      have hindent : Written isPrinted [] "    ".toList [] := .lit rfl
      exact (hindent.phrase h).source.andThen (.lit rfl)
  | constant | option | platformInclude | frameworkInclude | code | resource | fill => cases hl

theorem sourceText_exprLine {r : Resource} (hname : Phrase r.name) (hexpr : r.expr.Tame) :
    SourceText r.exprLine := by
  have husing : Written isPrinted [] "using ".toList [] := .lit rfl
  have hequals : Phrase " = " := .lit rfl
  have hhead := ((husing.phrase hname).phrase hequals).source
  exact (hhead.andThen (hexpr.sourceText (.indented 0))).andThen (.lit rfl)

theorem sourceText_contextLine {r : Resource} (hname : Phrase r.name)
    (hcontext : ∀ inner ∈ r.contextName, Phrase inner) :
    ∀ l ∈ r.contextLine?, SourceText l := by
  intro l hl
  obtain ⟨inner, hinner, rfl⟩ := Option.map_eq_some_iff.1 hl
  have husing : Written isPrinted [] "    using ".toList [] := .lit rfl
  have hequals : Phrase " = " := .lit rfl
  exact (((husing.phrase (hcontext inner hinner)).phrase hequals).phrase hname).source.andThen
    (.lit rfl)

theorem sourceText_childLine {r : Resource} (hname : Phrase r.name) : SourceText r.childLine := by
  have hindent : Written isPrinted [] "    ".toList [] := .lit rfl
  exact (hindent.phrase hname).source.andThen (.lit rfl)

theorem sourceText_startLine {r : Resource} (hname : Phrase r.name) : SourceText r.initLine := by
  have hindent : Written isPrinted [] "    ".toList [] := .lit rfl
  exact (hindent.phrase hname).source.andThen (.lit rfl)

/-- Ordering things by priority neither adds nor loses any. -/
theorem mem_byPriority {α : Type} {things : List (Int × α)} {a : α} :
    a ∈ byPriority things ↔ ∃ priority, (priority, a) ∈ things := by
  unfold byPriority
  rw [List.mem_map]
  refine ⟨?_, ?_⟩
  · intro hin
    obtain ⟨⟨priority, a⟩, hmem, rfl⟩ := hin
    exact ⟨priority, List.mem_mergeSort.1 hmem⟩
  · intro hin
    obtain ⟨priority, hmem⟩ := hin
    exact ⟨(priority, a), List.mem_mergeSort.2 hmem, rfl⟩

/-- The phrases of the resources of tame items. -/
theorem tame_resources (h : Item.TameAll d.items) :
    ∀ r ∈ d.resources, Phrase r.name ∧ r.expr.Tame ∧ ∀ inner ∈ r.contextName, Phrase inner := by
  intro r hr
  obtain ⟨priority, hmem⟩ := mem_byPriority.1 hr
  obtain ⟨i, hi, heq⟩ := List.mem_filterMap.1 hmem
  have hi := h i hi
  cases i with
  | resource priority name expr contextName =>
      injection heq with heq
      injection heq with _ heq
      subst heq
      exact hi
  | constant | option | platformInclude | frameworkInclude | code | initCall | fill => cases heq

/-- **The slots which a program of tame items fills itself hold source text.** -/
theorem sourceText_ownSlots (h : Item.TameAll d.items) : ∀ e ∈ d.ownSlots, SourceText e.2 := by
  have hresources := tame_resources h
  -- A slot has a line for each item of a kind, in the order of the program or by priority.
  have hfiltered : ∀ {f : Item → Option String}, (∀ i, i.Tame → ∀ l ∈ f i, SourceText l) →
      SourceText (lines (d.items.filterMap f)) := by
    intro f hf
    apply sourceText_lines
    intro l hl
    obtain ⟨i, hi, heq⟩ := List.mem_filterMap.1 hl
    exact hf i (h i hi) l heq
  have hordered : ∀ {f : Item → Option (Int × String)}, (∀ i, i.Tame → ∀ l ∈ f i, SourceText l.2) →
      SourceText (lines (byPriority (d.items.filterMap f))) := by
    intro f hf
    apply sourceText_lines
    intro l hl
    obtain ⟨priority, hmem⟩ := mem_byPriority.1 hl
    obtain ⟨i, hi, heq⟩ := List.mem_filterMap.1 hmem
    exact hf i (h i hi) _ heq
  unfold ownSlots
  simp only [List.forall_mem_cons, List.not_mem_nil, false_imp_iff, implies_true, and_true]
  refine ⟨.lit rfl, ?_, ?_, ?_, ?_, ?_, ?_, ?_, ?_, ?_, ?_⟩
  · exact hfiltered fun i hi => sourceText_constantLine hi
  · exact hfiltered fun i hi => sourceText_optionLine hi
  · exact hfiltered fun i hi => sourceText_platformLine hi
  · apply sourceText_lines
    intro l hl
    obtain ⟨path, hpath, rfl⟩ := List.mem_map.1 hl
    obtain ⟨i, hi, heq⟩ := List.mem_filterMap.1 (Ascending.mem_setOf.1 hpath)
    have hi := h i hi
    cases i with
    | frameworkInclude path =>
        injection heq with heq
        subst heq
        exact sourceText_frameworkLine hi
    | constant | option | platformInclude | code | initCall | resource | fill => cases heq
  · exact hordered fun i hi => sourceText_codeLine hi
  · exact hordered fun i hi => sourceText_initLine hi
  · apply sourceText_lines
    intro l hl
    obtain ⟨r, hr, rfl⟩ := List.mem_map.1 hl
    exact sourceText_exprLine (hresources r hr).1 (hresources r hr).2.1
  · apply sourceText_lines
    intro l hl
    obtain ⟨r, hr, heq⟩ := List.mem_filterMap.1 hl
    exact sourceText_contextLine (hresources r hr).1 (hresources r hr).2.2 l heq
  · apply sourceText_lines
    intro l hl
    obtain ⟨r, hr, rfl⟩ := List.mem_map.1 hl
    exact sourceText_childLine (hresources r hr).1
  · apply sourceText_lines
    intro l hl
    obtain ⟨r, hr, rfl⟩ := List.mem_map.1 hl
    exact sourceText_startLine (hresources r hr).1

/-- The slots which are filled directly hold source text. -/
theorem sourceText_directSlots (h : Item.TameAll d.items) :
    ∀ e ∈ d.directSlots, SourceText e.2 := by
  intro e he
  obtain ⟨i, hi, heq⟩ := List.mem_filterMap.1 he
  have hi := h i hi
  cases i with
  | fill slot content =>
      injection heq with heq
      subst heq
      cases content with
      | text s => exact Written.source hi
      | expr e layout => exact TypeExpr.Tame.sourceText hi layout
  | constant | option | platformInclude | frameworkInclude | code | initCall | resource => cases heq

/-- **The slots of a program of tame items hold source text.** -/
theorem sourceText_slots (h : Item.TameAll d.items) :
    ∀ e ∈ (SlotMap.ofEntries (d.directSlots ++ d.ownSlots)).entries, SourceText e.2 := by
  intro e he
  rcases List.mem_append.1 (Ascending.mem_of_mem_mapOf he) with he | he
  · exact sourceText_directSlots h e he
  · exact sourceText_ownSlots h e he

end Draft

end PrinterFirmware
