/-
  PrinterFirmware.Proofs.Readable
  ───────────────────────────────
  **AN EXPRESSION IS KNOWN BY ITS TEXT.**

  If the names in an expression are identifiers, then no other such expression has
  the same text in the same layout.  A text is read from the left: what comes first
  is a word, a number or a quoted character, and its first character tells which.
  A word goes on as far as it can, so it is over where a comma, a bracket or a line
  break follows.  Then only an instantiation goes on with a bracket, and in an
  argument list the character after an argument tells whether another one comes.

      Lead.chars_injective      what comes first in a text
      ToldApart                 an expression is known by its text, whatever follows
      WellNamed.toldApart       every expression with proper names is

  Main result: `render_eq_iff`.
-/
import PrinterFirmware.Proofs.DecimalLiteral
import PrinterFirmware.Proofs.Source

namespace PrinterFirmware

open Naming

/-! ## §1. Words which end. -/

/-- No word goes on with this text. -/
def EndsWord (rest : List Char) : Prop := ∀ ch ∈ rest.head?, isWordChar ch = false

theorem endsWord_cons {ch : Char} (h : isWordChar ch = false) (rest : List Char) :
    EndsWord (ch :: rest) := by
  intro d hd
  obtain rfl : ch = d := Option.some.inj hd
  exact h

/-- A run of characters and the text after it are known by the whole text, if the run has to end
there. -/
theorem run_append_inj {p : Char → Bool} {w w' rest rest' : List Char}
    (hw : ∀ ch ∈ w, p ch = true) (hw' : ∀ ch ∈ w', p ch = true)
    (hrest : ∀ ch ∈ rest.head?, p ch = false) (hrest' : ∀ ch ∈ rest'.head?, p ch = false)
    (h : w ++ rest = w' ++ rest') : w = w' ∧ rest = rest' := by
  have htake : ∀ {w rest : List Char}, (∀ ch ∈ w, p ch = true) →
      (∀ ch ∈ rest.head?, p ch = false) → (w ++ rest).takeWhile p = w := by
    intro w rest hw hrest
    have hnone : rest.takeWhile p = [] := by
      cases rest with
      | nil => rfl
      | cons ch cs => exact List.takeWhile_cons_of_neg (by simp [hrest ch rfl])
    rw [List.takeWhile_append_of_pos hw, hnone, List.append_nil]
  have heq : w = w' := by
    rw [← htake hw hrest, h, htake hw' hrest']
  subst heq
  exact ⟨rfl, List.append_cancel_left h⟩

/-- The digits of a number and the text after them are known by the whole text. -/
theorem digits_append_inj {a b : Nat} {rest rest' : List Char} (hrest : EndsWord rest)
    (hrest' : EndsWord rest') (h : Numeral.digits a ++ rest = Numeral.digits b ++ rest') :
    a = b ∧ rest = rest' := by
  have hword : ∀ m, ∀ ch ∈ Numeral.digits m, isWordChar ch = true :=
    fun m ch hch => isDigit.wordChar (Numeral.isDigit_digits m ch hch)
  obtain ⟨heq, hr⟩ := run_append_inj (hword a) (hword b) hrest hrest' h
  exact ⟨Symbol.digits_injective heq, hr⟩

/-! ## §2. What comes first in a text. -/

/-- The sorts of things which the text of an expression can begin with. -/
inductive LeadSort where
  | word
  | number
  | quoted

/-- What begins with a character, if anything does. -/
def LeadSort.ofChar (ch : Char) : Option LeadSort :=
  if isLetter ch then some .word
  else if ch = '\'' then some .quoted
  else if Numeral.isDigit ch ∨ ch = '-' then some .number
  else none

theorem not_letter_of_digit {ch : Char} (h : Numeral.isDigit ch = true) : isLetter ch = false := by
  have hle : ∀ a b : Char, a ≤ b ↔ a.toNat ≤ b.toNat := fun a b => Iff.rfl
  have h9 : '9'.toNat = 57 := rfl
  have hA : 'A'.toNat = 65 := rfl
  have ha : 'a'.toNat = 97 := rfl
  simp only [Numeral.isDigit, Bool.and_eq_true, decide_eq_true_eq, hle] at h
  simp only [isLetter, isUpper, Bool.or_eq_false_iff, Bool.and_eq_false_iff,
    decide_eq_false_iff_not, hle]
  omega

theorem LeadSort.ofChar_digit {ch : Char} (h : Numeral.isDigit ch = true) :
    ofChar ch = some .number := by
  have hquote : ch ≠ '\'' := by
    intro heq
    rw [heq] at h
    cases h
  simp [ofChar, not_letter_of_digit h, hquote, h]

/-- What the text of an expression begins with. -/
inductive Lead where
  | word (cs : List Char)
  | number (n : Int)
  | quoted (ch : Char)

namespace Lead

def sort : Lead → LeadSort
  | word _ => .word
  | number _ => .number
  | quoted _ => .quoted

def chars : Lead → List Char
  | word cs => cs
  | number n => Numeral.signed n
  | quoted ch => TypeExpr.charLiteral ch

/-- Words begin with a letter. -/
def Valid : Lead → Prop
  | word cs => (∃ ch, cs.head? = some ch ∧ isLetter ch = true) ∧ ∀ ch ∈ cs, isWordChar ch = true
  | number _ => True
  | quoted _ => True

theorem head?_charLiteral (ch : Char) : (TypeExpr.charLiteral ch).head? = some '\'' := by
  unfold TypeExpr.charLiteral
  split
  · rfl
  · rfl

/-- The first character tells what comes first. -/
theorem Valid.head? {t : Lead} (h : t.Valid) :
    ∃ ch, t.chars.head? = some ch ∧ LeadSort.ofChar ch = some t.sort := by
  cases t with
  | word cs =>
      obtain ⟨ch, hch, hletter⟩ := h.1
      exact ⟨ch, hch, if_pos hletter⟩
  | number n =>
      cases n with
      | ofNat n =>
          obtain ⟨ch, hch, hdigit⟩ := Numeral.beginsWithDigit_digits n
          exact ⟨ch, hch, LeadSort.ofChar_digit hdigit⟩
      | negSucc n => exact ⟨'-', rfl, rfl⟩
  | quoted ch => exact ⟨'\'', head?_charLiteral ch, rfl⟩

theorem sort_unique {t t' : Lead} {rest rest' : List Char} (ht : t.Valid) (ht' : t'.Valid)
    (h : t.chars ++ rest = t'.chars ++ rest') : t.sort = t'.sort := by
  obtain ⟨ch, hch, hsort⟩ := ht.head?
  obtain ⟨ch', hch', hsort'⟩ := ht'.head?
  have hhead := congrArg List.head? h
  rw [List.head?_append, List.head?_append, hch, hch'] at hhead
  obtain rfl : ch = ch' := Option.some.inj hhead
  exact Option.some.inj (hsort.symm.trans hsort')

/-- A number and the text after it are known by the whole text. -/
theorem signed_append_inj {n n' : Int} {rest rest' : List Char} (hrest : EndsWord rest)
    (hrest' : EndsWord rest') (h : Numeral.signed n ++ rest = Numeral.signed n' ++ rest') :
    n = n' ∧ rest = rest' := by
  -- A minus sign is no digit, so two equal texts have equal signs.
  have hminus : ∀ {a b : Nat} {r r' : List Char},
      Numeral.digits a ++ r ≠ '-' :: Numeral.digits b ++ r' := by
    intro a b r r' heq
    obtain ⟨ch, hch, hdigit⟩ := Numeral.beginsWithDigit_digits a
    have hhead := congrArg List.head? heq
    rw [List.head?_append, hch] at hhead
    obtain rfl : ch = '-' := Option.some.inj hhead
    cases hdigit
  cases n with
  | ofNat a =>
      cases n' with
      | ofNat b =>
          obtain ⟨hab, hr⟩ := digits_append_inj hrest hrest' h
          exact ⟨congrArg Int.ofNat hab, hr⟩
      | negSucc b => exact absurd h hminus
  | negSucc a =>
      cases n' with
      | ofNat b => exact absurd h.symm hminus
      | negSucc b =>
          obtain ⟨hab, hr⟩ := digits_append_inj hrest hrest' (List.tail_eq_of_cons_eq h)
          exact ⟨congrArg Int.negSucc (Nat.succ.inj hab), hr⟩

/-- A quoted character and the text after it are known by the whole text. -/
theorem charLiteral_append_inj {ch ch' : Char} {rest rest' : List Char}
    (h : TypeExpr.charLiteral ch ++ rest = TypeExpr.charLiteral ch' ++ rest') :
    ch = ch' ∧ rest = rest' := by
  unfold TypeExpr.charLiteral at h
  split at h
  · next hescaped =>
      split at h
      · simpa using h
      · next hplain =>
          -- The second character would be a backslash which is not escaped.
          simp only [List.cons_append, List.cons.injEq] at h
          exact absurd (Or.inr h.2.1.symm) hplain
  · next hplain =>
      split at h
      · simp only [List.cons_append, List.cons.injEq] at h
        exact absurd (Or.inr h.2.1) hplain
      · simpa using h

/-- **What comes first in a text and what comes after it are known by the whole text.** -/
theorem chars_append_inj {t t' : Lead} {rest rest' : List Char} (ht : t.Valid) (ht' : t'.Valid)
    (hrest : EndsWord rest) (hrest' : EndsWord rest') (h : t.chars ++ rest = t'.chars ++ rest') :
    t = t' ∧ rest = rest' := by
  have hsort := sort_unique ht ht' h
  cases t with
  | word cs =>
      cases t' with
      | word cs' =>
          obtain ⟨heq, hr⟩ := run_append_inj ht.2 ht'.2 hrest hrest' h
          exact ⟨congrArg word heq, hr⟩
      | number | quoted => cases hsort
  | number n =>
      cases t' with
      | number n' =>
          obtain ⟨heq, hr⟩ := signed_append_inj hrest hrest' h
          exact ⟨congrArg number heq, hr⟩
      | word | quoted => cases hsort
  | quoted ch =>
      cases t' with
      | quoted ch' =>
          obtain ⟨heq, hr⟩ := charLiteral_append_inj h
          exact ⟨congrArg quoted heq, hr⟩
      | word | number => cases hsort

end Lead

/-! ## §3. Expressions which are known by their text. -/

namespace TypeExpr

/-- The names in an expression are identifiers, and so are its texts, but for those of truth
values. -/
inductive WellNamed : TypeExpr → Prop where
  | text {s : String} (h : isIdentifier s = true) (htrue : s ≠ "true") (hfalse : s ≠ "false") :
      WellNamed (.text s)
  | int (n : Int) : WellNamed (.int n)
  | bool (b : Bool) : WellNamed (.bool b)
  | char (ch : Char) : WellNamed (.char ch)
  | node {name : String} {args : List TypeExpr} (hname : isIdentifier name = true)
      (hargs : ∀ a ∈ args, WellNamed a) : WellNamed (.inst name args)

/-- What the text of an expression begins with. -/
def lead : TypeExpr → Lead
  | .text s => .word s.toList
  | .int n => .number n
  | .bool b => .word (boolText b).toList
  | .char ch => .quoted ch
  | .inst name _ => .word name.toList

/-- What comes after the lead of an expression which `rest` follows. -/
def afterLead (layout : Layout) (rest : List Char) : TypeExpr → List Char
  | .inst _ args => '<' :: (argumentChars layout args ++ '>' :: rest)
  | _ => rest

theorem chars_append (layout : Layout) (e : TypeExpr) (rest : List Char) :
    e.chars layout ++ rest = e.lead.chars ++ e.afterLead layout rest := by
  cases e with
  | text | int | bool | char => rfl
  | inst name args => simp [chars, lead, afterLead, Lead.chars]

theorem valid_identifier {s : String} (h : isIdentifier s = true) : (Lead.word s.toList).Valid := by
  unfold isIdentifier at h
  cases hs : s.toList with
  | nil => simp [hs] at h
  | cons ch rest =>
      simp only [hs, Bool.and_eq_true, List.all_eq_true] at h
      have hfirst : isWordChar ch = true := by simp [isWordChar, h.1.1]
      exact ⟨⟨ch, rfl, h.1.1⟩, List.forall_mem_cons.2 ⟨hfirst, h.2⟩⟩

theorem WellNamed.lead {e : TypeExpr} (h : e.WellNamed) : e.lead.Valid := by
  cases h with
  | text hs => exact valid_identifier hs
  | int | char => trivial
  | bool b => cases b <;> exact valid_identifier rfl
  | node hname => exact valid_identifier hname

/-- An expression is over where this text begins: neither a word nor an argument list goes on. -/
def Closes (rest : List Char) : Prop := ∀ ch ∈ rest.head?, isWordChar ch = false ∧ ch ≠ '<'

theorem closes_cons {ch : Char} (hword : isWordChar ch = false) (hbracket : ch ≠ '<')
    (rest : List Char) : Closes (ch :: rest) := by
  intro d hd
  obtain rfl : ch = d := Option.some.inj hd
  exact ⟨hword, hbracket⟩

theorem Closes.endsWord {rest : List Char} (h : Closes rest) : EndsWord rest :=
  fun ch hch => (h ch hch).1

theorem Closes.ne_bracket {rest rest' : List Char} (h : Closes rest) : rest ≠ '<' :: rest' := by
  intro heq
  rw [heq] at h
  exact (h '<' rfl).2 rfl

theorem endsWord_afterLead {layout : Layout} {rest : List Char} (h : Closes rest) (e : TypeExpr) :
    EndsWord (e.afterLead layout rest) := by
  cases e with
  | text | int | bool | char => exact h.endsWord
  | inst name args => exact endsWord_cons (by decide) _

/-- The text of `e` in a layout is that of no other expression, whatever follows. -/
def ToldApart (e : TypeExpr) : Prop :=
  ∀ {layout : Layout} {e' : TypeExpr} {rest rest' : List Char}, e'.WellNamed → Closes rest →
    Closes rest' → e.chars layout ++ rest = e'.chars layout ++ rest' → e = e' ∧ rest = rest'

/-! ## §4. Argument lists. -/

section Arguments

variable {layout : Layout} {args : List TypeExpr}

theorem closes_newline (level : Nat) (rest : List Char) : Closes (Layout.newline level ++ rest) :=
  closes_cons (by decide) (by decide) _

/-- An argument is over before the gap which follows it. -/
theorem closes_moreChars (rest : List Char) : Closes (moreChars layout args ++ '>' :: rest) := by
  cases args with
  | nil =>
      cases layout with
      | flat => exact closes_cons (by decide) (by decide) _
      | indented level => exact closes_newline level _
  | cons a more =>
      cases layout with
      | flat => exact closes_cons (by decide) (by decide) _
      | indented level => exact closes_cons (by decide) (by decide) _

/-- The end of an argument list is no gap between two arguments. -/
theorem closing_ne_between {rest rest' : List Char} :
    layout.closing ++ '>' :: rest ≠ layout.between ++ rest' := by
  cases layout with
  | flat => simp [Layout.closing, Layout.between]
  | indented level => simp [Layout.closing, Layout.between, Layout.newline]

/-- The end of an empty argument list does not begin an argument. -/
theorem empty_ne_opening {a : TypeExpr} {rest rest' : List Char} (ha : a.WellNamed) :
    '>' :: rest ≠ layout.opening ++ (a.chars layout.deeper ++ rest') := by
  cases layout with
  | flat =>
      intro h
      obtain ⟨ch, hch, hsort⟩ := ha.lead.head?
      have hhead := congrArg List.head? h
      rw [chars_append, List.head?_append, List.head?_append, hch] at hhead
      obtain rfl : '>' = ch := Option.some.inj hhead
      cases hsort
  | indented level => simp [Layout.opening, Layout.newline]

theorem moreChars_append_inj (hargs : ∀ a ∈ args, ToldApart a) {args' : List TypeExpr}
    {rest rest' : List Char} (hargs' : ∀ a ∈ args', WellNamed a)
    (h : moreChars layout args ++ '>' :: rest = moreChars layout args' ++ '>' :: rest') :
    args = args' ∧ rest = rest' := by
  induction args generalizing args' with
  | nil =>
      cases args' with
      | nil => exact ⟨rfl, by simpa [moreChars] using h⟩
      | cons b more' =>
          simp only [moreChars, List.append_assoc] at h
          exact absurd h closing_ne_between
  | cons a more ih =>
      cases args' with
      | nil =>
          simp only [moreChars, List.append_assoc] at h
          exact absurd h.symm closing_ne_between
      | cons b more' =>
          simp only [moreChars, List.append_assoc, List.append_cancel_left_eq] at h
          obtain ⟨ha, hmore⟩ := List.forall_mem_cons.1 hargs
          obtain ⟨hb, hmore'⟩ := List.forall_mem_cons.1 hargs'
          obtain ⟨rfl, htail⟩ := ha hb (closes_moreChars rest) (closes_moreChars rest') h
          obtain ⟨rfl, hr⟩ := ih hmore hmore' htail
          exact ⟨rfl, hr⟩

/-- An argument list and the text after it are known by the whole text. -/
theorem argumentChars_append_inj (hargs : ∀ a ∈ args, WellNamed a ∧ ToldApart a)
    {args' : List TypeExpr} {rest rest' : List Char} (hargs' : ∀ a ∈ args', WellNamed a)
    (h : argumentChars layout args ++ '>' :: rest = argumentChars layout args' ++ '>' :: rest') :
    args = args' ∧ rest = rest' := by
  cases args with
  | nil =>
      cases args' with
      | nil => exact ⟨rfl, by simpa [argumentChars] using h⟩
      | cons b more' =>
          simp only [argumentChars, List.append_assoc, List.nil_append] at h
          exact absurd h (empty_ne_opening (hargs' b List.mem_cons_self))
  | cons a more =>
      cases args' with
      | nil =>
          simp only [argumentChars, List.append_assoc, List.nil_append] at h
          exact absurd h.symm (empty_ne_opening (hargs a List.mem_cons_self).1)
      | cons b more' =>
          simp only [argumentChars, List.append_assoc, List.append_cancel_left_eq] at h
          obtain ⟨ha, hmore⟩ := List.forall_mem_cons.1 hargs
          obtain ⟨hb, hmore'⟩ := List.forall_mem_cons.1 hargs'
          obtain ⟨rfl, htail⟩ := ha.2 hb (closes_moreChars rest) (closes_moreChars rest') h
          obtain ⟨rfl, hr⟩ := moreChars_append_inj (fun c hc => (hmore c hc).2) hmore' htail
          exact ⟨rfl, hr⟩

end Arguments

/-! ## §5. Whole expressions. -/

theorem lead_unique {layout : Layout} {e e' : TypeExpr} {rest rest' : List Char} (h : e.WellNamed)
    (h' : e'.WellNamed) (hrest : Closes rest) (hrest' : Closes rest')
    (heq : e.chars layout ++ rest = e'.chars layout ++ rest') :
    e.lead = e'.lead ∧ e.afterLead layout rest = e'.afterLead layout rest' := by
  rw [chars_append, chars_append] at heq
  exact Lead.chars_append_inj h.lead h'.lead (endsWord_afterLead hrest e)
    (endsWord_afterLead hrest' e') heq

theorem word_inj {s s' : String} (h : Lead.word s.toList = .word s'.toList) : s = s' :=
  String.toList_injective (Lead.word.inj h)

theorem ne_boolText {s : String} (htrue : s ≠ "true") (hfalse : s ≠ "false") (b : Bool) :
    s ≠ boolText b := by
  cases b with
  | true => exact htrue
  | false => exact hfalse

theorem boolText_inj {b b' : Bool} (h : boolText b = boolText b') : b = b' := by
  cases b <;> cases b' <;> first | rfl | exact absurd h (by decide)

/-- **An expression with proper names is known by its text, whatever follows.** -/
theorem WellNamed.toldApart {e : TypeExpr} (h : e.WellNamed) : ToldApart e := by
  -- The lead tells the kind of an expression, but for a name alone and a name with arguments:
  -- these are told apart by the bracket which follows.
  induction h with
  | @text s hs htrue hfalse =>
      intro layout e' rest rest' h' hrest hrest' heq
      obtain ⟨hlead, hafter⟩ := lead_unique (.text hs htrue hfalse) h' hrest hrest' heq
      cases h' with
      | text =>
          obtain rfl := word_inj hlead
          exact ⟨rfl, hafter⟩
      | bool b => exact absurd (word_inj hlead) (ne_boolText htrue hfalse b)
      | node => exact absurd hafter hrest.ne_bracket
      | int | char => cases hlead
  | bool b =>
      intro layout e' rest rest' h' hrest hrest' heq
      obtain ⟨hlead, hafter⟩ := lead_unique (.bool b) h' hrest hrest' heq
      cases h' with
      | text hs htrue hfalse => exact absurd (word_inj hlead).symm (ne_boolText htrue hfalse b)
      | bool b' =>
          obtain rfl := boolText_inj (word_inj hlead)
          exact ⟨rfl, hafter⟩
      | node => exact absurd hafter hrest.ne_bracket
      | int | char => cases hlead
  | int n =>
      intro layout e' rest rest' h' hrest hrest' heq
      obtain ⟨hlead, hafter⟩ := lead_unique (.int n) h' hrest hrest' heq
      cases h' with
      | int n' =>
          obtain rfl := Lead.number.inj hlead
          exact ⟨rfl, hafter⟩
      | text | bool | char | node => cases hlead
  | char ch =>
      intro layout e' rest rest' h' hrest hrest' heq
      obtain ⟨hlead, hafter⟩ := lead_unique (.char ch) h' hrest hrest' heq
      cases h' with
      | char ch' =>
          obtain rfl := Lead.quoted.inj hlead
          exact ⟨rfl, hafter⟩
      | text | int | bool | node => cases hlead
  | @node name args hname hargs ih =>
      intro layout e' rest rest' h' hrest hrest' heq
      obtain ⟨hlead, hafter⟩ := lead_unique (.node hname hargs) h' hrest hrest' heq
      cases h' with
      | text | bool => exact absurd hafter.symm hrest'.ne_bracket
      | int | char => cases hlead
      | node hname' hargs' =>
          obtain rfl := word_inj hlead
          obtain ⟨rfl, hr⟩ := argumentChars_append_inj (fun a ha => ⟨hargs a ha, ih a ha⟩) hargs'
            (List.tail_eq_of_cons_eq hafter)
          exact ⟨rfl, hr⟩

/-- **Expressions with proper names have one text in a layout only if they are equal.** -/
theorem render_eq_iff {e e' : TypeExpr} (h : e.WellNamed) (h' : e'.WellNamed) (layout : Layout) :
    e.render layout = e'.render layout ↔ e = e' := by
  constructor
  · intro heq
    have hnil : Closes [] := fun ch hch => by cases hch
    have hchars : e.chars layout ++ [] = e'.chars layout ++ [] := by
      rw [List.append_nil, List.append_nil]
      exact String.ofList_injective heq
    exact (h.toldApart h' hnil hnil hchars).1
  · intro heq
    rw [heq]

/-- An argument list in an argument and one beside it, with quotes and a sign inside. -/
theorem render_nested_beside :
    let nested := TypeExpr.inst "A" [.inst "B" [.char '\'', .int (-1)], .bool true]
    let beside := TypeExpr.inst "A" [.inst "B" [], .char '\'', .int (-1), .bool true]
    nested.WellNamed ∧ beside.WellNamed ∧
      ∀ layout, nested.render layout = beside.render layout ↔ nested = beside := by
  intro nested beside
  have hnested : nested.WellNamed := by
    refine .node rfl fun a ha => ?_
    simp only [List.mem_cons, List.not_mem_nil, or_false] at ha
    obtain rfl | rfl := ha
    · refine .node rfl fun b hb => ?_
      simp only [List.mem_cons, List.not_mem_nil, or_false] at hb
      obtain rfl | rfl := hb
      · exact .char _
      · exact .int _
    · exact .bool _
  have hbeside : beside.WellNamed := by
    refine .node rfl fun a ha => ?_
    simp only [List.mem_cons, List.not_mem_nil, or_false] at ha
    obtain rfl | rfl | rfl | rfl := ha
    · exact .node rfl fun b hb => by cases hb
    · exact .char _
    · exact .int _
    · exact .bool _
  exact ⟨hnested, hbeside, fun layout => render_eq_iff hnested hbeside layout⟩

end TypeExpr

end PrinterFirmware
