/-
  PrinterFirmware.Proofs.Layouts
  ──────────────────────────────
  **LAYOUTS DIFFER IN WHITESPACE ONLY.**

  A layout decides what stands in the gaps of an argument list, and nothing else.
  All gaps are made of spaces and line breaks, but for the commas, which every
  layout has at the same places.  So the text of an expression is the same in all
  layouts once the whitespace has been removed; also the whitespace which belongs to
  its own texts, names and characters goes away on both sides.

      filter_chars     one text in all layouts, whatever else is removed with
                       spaces and line breaks
      toString_inst    the displayed text of an expression

  Main result: `unspaced_render`.
-/
import PrinterFirmware.Proofs.Source

namespace PrinterFirmware

/-! ## §1. Induction over expressions. -/

namespace TypeExpr

mutual

/-- What holds of an instantiation if it holds of its arguments holds of every expression. -/
@[elab_as_elim]
theorem inductionOn {motive : TypeExpr → Prop} (e : TypeExpr) (text : ∀ s, motive (.text s))
    (int : ∀ n, motive (.int n)) (bool : ∀ b, motive (.bool b)) (char : ∀ c, motive (.char c))
    (inst : ∀ name args, (∀ a ∈ args, motive a) → motive (.inst name args)) : motive e :=
  match e with
  | .text s => text s
  | .int n => int n
  | .bool b => bool b
  | .char c => char c
  | .inst name args => inst name args (inductionAmong args text int bool char inst)

theorem inductionAmong {motive : TypeExpr → Prop} (es : List TypeExpr)
    (text : ∀ s, motive (.text s)) (int : ∀ n, motive (.int n))
    (bool : ∀ b, motive (.bool b)) (char : ∀ c, motive (.char c))
    (inst : ∀ name args, (∀ a ∈ args, motive a) → motive (.inst name args)) : ∀ a ∈ es, motive a :=
  match es with
  | [] => fun _ h => absurd h List.not_mem_nil
  | e :: rest => List.forall_mem_cons.2
      ⟨inductionOn e text int bool char inst, inductionAmong rest text int bool char inst⟩

end

end TypeExpr

/-! ## §2. Gaps without their blanks. -/

section Gaps

variable {keep : Char → Bool} (hspace : keep ' ' = false) (hbreak : keep '\n' = false)
include hspace hbreak

theorem Layout.filter_newline (level : Nat) : (newline level).filter keep = [] := by
  rw [List.filter_eq_nil_iff]
  intro ch hch
  rcases newline_blank level ch hch with rfl | rfl
  · simp [hbreak]
  · simp [hspace]

theorem Layout.filter_opening (layout : Layout) : layout.opening.filter keep = [] := by
  cases layout with
  | flat => rfl
  | indented level => exact filter_newline hspace hbreak _

/-- What is left of the gap between two arguments is its comma. -/
theorem Layout.filter_between (layout : Layout) :
    layout.between.filter keep = [','].filter keep := by
  cases layout with
  | flat =>
      have hgap : [' '].filter keep = [] := by simp [hspace]
      show ([','] ++ [' ']).filter keep = _
      rw [List.filter_append, hgap, List.append_nil]
  | indented level =>
      show ([','] ++ newline (level + 1)).filter keep = _
      rw [List.filter_append, filter_newline hspace hbreak, List.append_nil]

theorem Layout.filter_closing (layout : Layout) : layout.closing.filter keep = [] := by
  cases layout with
  | flat => rfl
  | indented level => exact filter_newline hspace hbreak _

/-! ## §3. Expressions without their blanks. -/

namespace TypeExpr

variable {args : List TypeExpr}

theorem filter_moreChars {layout layout' : Layout}
    (h : ∀ a ∈ args, ∀ l l', (a.chars l).filter keep = (a.chars l').filter keep) :
    (moreChars layout args).filter keep = (moreChars layout' args).filter keep := by
  induction args with
  | nil =>
      show layout.closing.filter keep = layout'.closing.filter keep
      rw [Layout.filter_closing hspace hbreak, Layout.filter_closing hspace hbreak]
  | cons a rest ih =>
      have ha := h a List.mem_cons_self layout.deeper layout'.deeper
      have hrest := ih fun b hb => h b (List.mem_cons_of_mem a hb)
      simp only [moreChars, List.filter_append]
      rw [Layout.filter_between hspace hbreak, Layout.filter_between hspace hbreak, ha, hrest]

theorem filter_argumentChars {layout layout' : Layout}
    (h : ∀ a ∈ args, ∀ l l', (a.chars l).filter keep = (a.chars l').filter keep) :
    (argumentChars layout args).filter keep = (argumentChars layout' args).filter keep := by
  cases args with
  | nil => rfl
  | cons a rest =>
      have ha := h a List.mem_cons_self layout.deeper layout'.deeper
      have hrest : (moreChars layout rest).filter keep = (moreChars layout' rest).filter keep :=
        filter_moreChars hspace hbreak fun b hb => h b (List.mem_cons_of_mem a hb)
      simp only [argumentChars, List.filter_append]
      rw [Layout.filter_opening hspace hbreak, Layout.filter_opening hspace hbreak, ha, hrest]

/-- **The text of an expression is the same in all layouts**, but for its spaces and line breaks. -/
theorem filter_chars (e : TypeExpr) :
    ∀ layout layout', (e.chars layout).filter keep = (e.chars layout').filter keep := by
  induction e using inductionOn with
  | text | int | bool | char =>
      intro layout layout'
      rfl
  | inst name args ih =>
      intro layout layout'
      have hinner : (argumentChars layout args).filter keep
          = (argumentChars layout' args).filter keep :=
        filter_argumentChars hspace hbreak ih
      show (name.toList ++ ('<' :: (argumentChars layout args ++ ['>']))).filter keep
        = (name.toList ++ ('<' :: (argumentChars layout' args ++ ['>']))).filter keep
      simp only [List.filter_append, List.filter_cons, hinner]

end TypeExpr

end Gaps

/-! ## §4. Whitespace. -/

/-- The whitespace among all characters: tabs and line breaks, spaces of every width, and the
separators of lines and of paragraphs. -/
def isWhitespace (c : Char) : Bool :=
  let n := c.toNat
  (9 ≤ n && n ≤ 13) || (0x2000 ≤ n && n ≤ 0x200A)
    || [0x20, 0x85, 0xA0, 0x1680, 0x2028, 0x2029, 0x202F, 0x205F, 0x3000].contains n

/-- A text without its whitespace. -/
def unspaced (s : String) : String := String.ofList (s.toList.filter fun c => !isWhitespace c)

namespace TypeExpr

theorem argumentChars_flat (args : List TypeExpr) :
    argumentChars .flat args = [',', ' '].intercalate (args.map (chars .flat)) := by
  cases args with
  | nil => rfl
  | cons a rest =>
      show chars .flat a ++ moreChars .flat rest = _
      induction rest generalizing a with
      | nil => simp [moreChars, Layout.closing]
      | cons b rest ih =>
          rw [List.map_cons, List.map_cons, List.intercalate_cons_cons, ← List.map_cons, ← ih b]
          simp [moreChars, Layout.between, Layout.deeper]

/-- The displayed texts of the arguments stand in brackets, with a comma and a space between
each two of them. -/
theorem toString_inst (name : String) (args : List TypeExpr) :
    toString (inst name args)
      = name ++ "<" ++ String.intercalate ", " (args.map toString) ++ ">" := by
  have hargs : (args.map toString).map String.toList = args.map (chars .flat) := by
    rw [List.map_map]
    exact List.map_congr_left fun a _ => String.toList_ofList
  apply String.toList_injective
  show (String.ofList (name.toList ++ '<' :: (argumentChars .flat args ++ ['>']))).toList = _
  simp only [String.toList_ofList, String.toList_append, String.toList_intercalate, hargs,
    argumentChars_flat, List.append_assoc]
  rfl

/-- **The text of an expression is the same in all layouts, once all whitespace has been
removed**, and it is displayed on one line. -/
theorem unspaced_render (e : TypeExpr) (layout layout' : Layout) :
    unspaced (e.render layout) = unspaced (e.render layout')
      ∧ toString e = e.render .flat := by
  refine ⟨?_, rfl⟩
  unfold unspaced render
  rw [String.toList_ofList, String.toList_ofList, e.filter_chars rfl rfl layout layout']

end TypeExpr

end PrinterFirmware
