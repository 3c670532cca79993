/-
  PrinterFirmware.Proofs.Indentation
  ──────────────────────────────────
  **INDENTATION IS RELATIVE.**

  The level of an indented layout only says how many spaces follow a line break.  So
  a text which is laid out some levels deeper is the same text with more spaces after
  every line break, if all line breaks of the text come from the layout.

  An expression inside another one is laid out at the level of the outer one and its
  depth.  What stands around it does not depend on it.

      indentMore_newline      the line breaks of a layout
      indentMore_chars        expressions
      chars_surround          an expression at some depth of another one

  Main result: `render_indented`.
-/
import PrinterFirmware.Proofs.Text
import PrinterFirmware.TypeExpr

namespace PrinterFirmware

/-! ## §1. More spaces after every line break. -/

/-- A text in which `4 * n` more spaces follow every line break. -/
def indentMore (n : Nat) (cs : List Char) : List Char :=
  cs.flatMap fun ch => if ch = '\n' then '\n' :: List.replicate (4 * n) ' ' else [ch]

theorem indentMore_append (n : Nat) (cs cs' : List Char) :
    indentMore n (cs ++ cs') = indentMore n cs ++ indentMore n cs' :=
  List.flatMap_append

/-- A text on one line stays as it is. -/
theorem indentMore_of_not_mem {cs : List Char} (h : '\n' ∉ cs) (n : Nat) :
    indentMore n cs = cs := by
  induction cs with
  | nil => rfl
  | cons ch rest ih =>
      rw [List.mem_cons, not_or] at h
      have hch : ch ≠ '\n' := fun heq => h.1 heq.symm
      show (if ch = '\n' then _ else [ch]) ++ indentMore n rest = ch :: rest
      rw [if_neg hch, ih h.2]
      rfl

namespace Layout

theorem newline_eq (level : Nat) : newline level = '\n' :: List.replicate (4 * level) ' ' := by
  have hunit : indentUnit = List.replicate 4 ' ' := rfl
  unfold newline
  rw [hunit, List.flatten_replicate_replicate, Nat.mul_comm]

theorem indentMore_newline (n level : Nat) :
    indentMore n (newline level) = newline (level + n) := by
  have hspaces : '\n' ∉ List.replicate (4 * level) ' ' := by simp
  rw [newline_eq, newline_eq]
  show '\n' :: List.replicate (4 * n) ' ' ++ indentMore n (List.replicate (4 * level) ' ') = _
  rw [indentMore_of_not_mem hspaces, List.cons_append, List.replicate_append_replicate,
    Nat.add_comm level n, Nat.mul_add]

theorem indentMore_opening (n level : Nat) :
    indentMore n (indented level).opening = (indented (level + n)).opening := by
  show indentMore n (newline (level + 1)) = newline (level + n + 1)
  rw [indentMore_newline, Nat.add_right_comm]

theorem indentMore_between (n level : Nat) :
    indentMore n (indented level).between = (indented (level + n)).between := by
  show indentMore n ([','] ++ newline (level + 1)) = [','] ++ newline (level + n + 1)
  rw [indentMore_append, indentMore_newline, Nat.add_right_comm]
  rfl

theorem indentMore_closing (n level : Nat) :
    indentMore n (indented level).closing = (indented (level + n)).closing :=
  indentMore_newline n level

end Layout

/-! ## §2. Expressions without line breaks. -/

namespace TypeExpr

/-- No text, name or character of an expression has a line break. -/
inductive Unbroken : TypeExpr → Prop where
  | text {s : String} (h : '\n' ∉ s.toList) : Unbroken (.text s)
  | int (n : Int) : Unbroken (.int n)
  | bool (b : Bool) : Unbroken (.bool b)
  | char {ch : Char} (h : ch ≠ '\n') : Unbroken (.char ch)
  | inst {name : String} {args : List TypeExpr} (hname : '\n' ∉ name.toList)
      (hargs : ∀ a ∈ args, Unbroken a) : Unbroken (.inst name args)

theorem not_mem_signed (n : Int) : '\n' ∉ Numeral.signed n := by
  have hdigits : ∀ m, '\n' ∉ Numeral.digits m := by
    intro m hmem
    cases Numeral.isDigit_digits m '\n' hmem
  cases n with
  | ofNat m => exact hdigits m
  | negSucc m =>
      intro hmem
      rcases List.mem_cons.1 hmem with heq | hmem
      · cases heq
      · exact hdigits _ hmem

theorem not_mem_charLiteral {ch : Char} (h : ch ≠ '\n') : '\n' ∉ charLiteral ch := by
  unfold charLiteral
  split <;> simp [Ne.symm h]

section Arguments

variable {args : List TypeExpr} {n level : Nat}

theorem indentMore_moreChars
    (h : ∀ a ∈ args, ∀ l, indentMore n (a.chars (.indented l)) = a.chars (.indented (l + n))) :
    indentMore n (moreChars (.indented level) args) = moreChars (.indented (level + n)) args := by
  induction args with
  | nil => exact Layout.indentMore_closing n level
  | cons a rest ih =>
      -- An argument is laid out one level deeper than what stands around it.
      have ha := h a List.mem_cons_self (level + 1)
      have hrest := ih fun b hb => h b (List.mem_cons_of_mem a hb)
      rw [Nat.add_right_comm] at ha
      simp only [moreChars, indentMore_append]
      rw [Layout.indentMore_between, hrest]
      exact congrArg (_ ++ · ++ _) ha

theorem indentMore_argumentChars
    (h : ∀ a ∈ args, ∀ l, indentMore n (a.chars (.indented l)) = a.chars (.indented (l + n))) :
    indentMore n (argumentChars (.indented level) args)
      = argumentChars (.indented (level + n)) args := by
  cases args with
  | nil => rfl
  | cons a rest =>
      have ha := h a List.mem_cons_self (level + 1)
      have hrest : indentMore n (moreChars (.indented level) rest) = _ :=
        indentMore_moreChars fun b hb => h b (List.mem_cons_of_mem a hb)
      rw [Nat.add_right_comm] at ha
      simp only [argumentChars, indentMore_append]
      rw [Layout.indentMore_opening, hrest]
      exact congrArg (_ ++ · ++ _) ha

end Arguments

/-- **An expression some levels deeper has as many more spaces after every line break.** -/
theorem Unbroken.indentMore_chars {e : TypeExpr} (h : e.Unbroken) (n : Nat) :
    ∀ level, indentMore n (e.chars (.indented level)) = e.chars (.indented (level + n)) := by
  induction h with
  | text hs =>
      intro level
      exact indentMore_of_not_mem hs n
  | int m =>
      intro level
      exact indentMore_of_not_mem (not_mem_signed m) n
  | bool b =>
      intro level
      cases b <;> rfl
  | char hch =>
      intro level
      exact indentMore_of_not_mem (not_mem_charLiteral hch) n
  | @inst name args hname hargs ih =>
      intro level
      have hinner : indentMore n (argumentChars (.indented level) args)
          = argumentChars (.indented (level + n)) args :=
        indentMore_argumentChars ih
      show indentMore n (name.toList ++ (['<'] ++ (argumentChars (.indented level) args ++ ['>'])))
        = name.toList ++ (['<'] ++ (argumentChars (.indented (level + n)) args ++ ['>']))
      rw [indentMore_append, indentMore_append, indentMore_append, hinner,
        indentMore_of_not_mem hname]
      rfl

/-! ## §3. Expressions inside others. -/

/-- An instantiation one of whose arguments is left open. -/
structure Frame where
  name : String
  before : List TypeExpr
  after : List TypeExpr

/-- The instantiation with `e` for the open argument. -/
def Frame.around (f : Frame) (e : TypeExpr) : TypeExpr := .inst f.name (f.before ++ e :: f.after)

/-- An expression in the innermost one of the given frames, the first of which is the outermost
one. -/
def surround (frames : List Frame) (e : TypeExpr) : TypeExpr := frames.foldr Frame.around e

theorem moreChars_append (layout : Layout) (args rest : List TypeExpr) :
    moreChars layout (args ++ rest)
      = (args.flatMap fun a => layout.between ++ a.chars layout.deeper)
        ++ moreChars layout rest := by
  induction args with
  | nil => rfl
  | cons a more ih =>
      rw [List.cons_append, moreChars, ih, List.flatMap_cons]
      simp only [List.append_assoc]

/-- What stands around the open argument of a frame does not depend on it. -/
theorem Frame.chars_around (f : Frame) (layout : Layout) : ∃ before after, ∀ e,
    (f.around e).chars layout = before ++ e.chars layout.deeper ++ after := by
  have hargs : ∃ before, ∀ e, argumentChars layout (f.before ++ e :: f.after)
      = before ++ e.chars layout.deeper ++ moreChars layout f.after := by
    cases f.before with
    | nil => exact ⟨layout.opening, fun e => rfl⟩
    | cons a more =>
        refine ⟨layout.opening ++ a.chars layout.deeper
          ++ (more.flatMap fun a => layout.between ++ a.chars layout.deeper) ++ layout.between, ?_⟩
        intro e
        rw [List.cons_append, argumentChars, moreChars_append, moreChars]
        simp only [List.append_assoc]
  obtain ⟨before, hbefore⟩ := hargs
  refine ⟨f.name.toList ++ '<' :: before, moreChars layout f.after ++ ['>'], ?_⟩
  intro e
  show f.name.toList ++ '<' :: (argumentChars layout (f.before ++ e :: f.after) ++ ['>']) = _
  rw [hbefore]
  simp only [List.append_assoc, List.cons_append]

/-- What stands around an expression at some depth does not depend on it. -/
theorem chars_surround (frames : List Frame) : ∀ level, ∃ before after, ∀ e,
    (surround frames e).chars (.indented level)
      = before ++ e.chars (.indented (level + frames.length)) ++ after := by
  induction frames with
  | nil =>
      intro level
      exact ⟨[], [], fun e => (List.append_nil _).symm⟩
  | cons f rest ih =>
      intro level
      -- The outermost frame is opened at this level, the others one level deeper.
      obtain ⟨outer, outer', houter⟩ := f.chars_around (.indented level)
      obtain ⟨inner, inner', hinner⟩ := ih (level + 1)
      refine ⟨outer ++ inner, inner' ++ outer', ?_⟩
      intro e
      have hdepth : level + 1 + rest.length = level + (f :: rest).length := by
        rw [List.length_cons, Nat.add_assoc, Nat.add_comm 1]
      show (f.around (surround rest e)).chars (.indented level) = _
      rw [houter]
      show outer ++ (surround rest e).chars (.indented (level + 1)) ++ outer' = _
      rw [hinner, hdepth]
      simp only [List.append_assoc]

/-! ## §4. The law of indentation. -/

/-- The lines of a text after the first one, indented by `n` more levels. -/
def reindented (n : Nat) (s : String) : String := String.ofList (indentMore n s.toList)

/-- **Indentation is relative.**  At a deeper level an expression has the text of the higher one
with four spaces more for each level after every line break, and an expression at some depth of
another one has the text which it has on its own with its depth as many levels more; what stands
around it does not depend on it. -/
theorem render_indented :
    (∀ e : TypeExpr, e.Unbroken → ∀ m n,
        e.render (.indented (m + n)) = reindented n (e.render (.indented m)))
      ∧ ∀ (frames : List Frame) (m : Nat), ∃ before after : String, ∀ e : TypeExpr, e.Unbroken →
        (surround frames e).render (.indented m)
          = before ++ reindented frames.length (e.render (.indented m)) ++ after := by
  have hdeeper : ∀ e : TypeExpr, e.Unbroken → ∀ m n,
      e.render (.indented (m + n)) = reindented n (e.render (.indented m)) := by
    intro e he m n
    unfold reindented render
    rw [String.toList_ofList, he.indentMore_chars]
  refine ⟨hdeeper, ?_⟩
  intro frames m
  obtain ⟨before, after, hchars⟩ := chars_surround frames m
  refine ⟨String.ofList before, String.ofList after, ?_⟩
  intro e he
  rw [← hdeeper e he]
  unfold render
  rw [hchars, String.ofList_append, String.ofList_append]

/-- An expression with a quoted comma, two levels deeper, and behind another argument. -/
theorem pair_indented :
    let pair := TypeExpr.inst "Pair" [.char ',', .inst "Nil" [], .int (-1)]
    pair.Unbroken ∧ pair.render (.indented (1 + 2)) = reindented 2 (pair.render (.indented 1))
      ∧ ∃ before after : String,
        (surround [⟨"A", [], []⟩, ⟨"B", [.bool true], []⟩] pair).render (.indented 0)
          = before ++ reindented 2 (pair.render (.indented 0)) ++ after := by
  intro pair
  have hpair : pair.Unbroken := by
    refine .inst (by decide) fun a ha => ?_
    simp only [List.mem_cons, List.not_mem_nil, or_false] at ha
    obtain rfl | rfl | rfl := ha
    · exact .char (by decide)
    · exact .inst (by decide) fun b hb => nomatch hb
    · exact .int _
  obtain ⟨before, after, hsurround⟩ :=
    render_indented.2 [⟨"A", [], []⟩, ⟨"B", [.bool true], []⟩] 0
  exact ⟨hpair, render_indented.1 pair hpair 1 2, before, after, hsurround pair hpair⟩

example : reindented 1 "A<\n    B<>,\n    1\n>" = "A<\n        B<>,\n        1\n    >" := by decide

end TypeExpr

end PrinterFirmware
