/-
  Katapult.Domain.Quoting

  Phrases in a quoted text.

  Quoting leaves a phrase of plain characters where it is, and can only make a
  new one out of an escape: the letter of `\n` begins a phrase that begins with
  it (`infix_quote_iff`).
-/

import Katapult.Domain.Format

namespace Katapult

/-! ## Occurrences in a list -/

section

variable {α : Type} {c : α} {p l l₁ l₂ : List α}

/-- A phrase does not reach over an element that is not in it. -/
theorem infix_append_cons_iff (hc : c ∉ p) : p <:+: l₁ ++ c :: l₂ ↔ p <:+: l₁ ∨ p <:+: l₂ := by
  constructor
  · rw [List.infix_append_iff_ne_nil]
    rintro (hleft | hright | ⟨fst, snd, -, hsnd, rfl, -, hbegins⟩)
    · exact .inl hleft
    · rcases List.infix_cons_iff.mp hright with hbegins | hrest
      · cases p with
        | nil => exact .inl (List.nil_infix)
        | cons a p =>
          exact absurd (List.cons_prefix_cons.mp hbegins).1 fun h => hc (h ▸ List.mem_cons_self)
      · exact .inr hrest
    · -- it would begin its second part with that element
      cases snd with
      | nil => exact absurd rfl hsnd
      | cons a snd =>
        have ha := (List.cons_prefix_cons.mp hbegins).1
        exact absurd (List.mem_append_right fst (ha ▸ List.mem_cons_self)) hc
  · rintro (hleft | hright)
    · exact hleft.trans (List.prefix_append l₁ _).isInfix
    · exact hright.trans (List.suffix_append_of_suffix (List.suffix_cons c l₂)).isInfix

/-- A phrase does not begin with another element. -/
theorem infix_cons_iff_of_ne {a : α} (ha : a ≠ c) : a :: p <:+: c :: l ↔ a :: p <:+: l := by
  rw [List.infix_cons_iff, List.cons_prefix_cons]
  simp [ha]

theorem infix_append_iff_of_not_mem {a : α} (ha : a ∉ l₁) : a :: p <:+: l₁ ++ l ↔ a :: p <:+: l := by
  induction l₁ with
  | nil => rfl
  | cons c l₁ ih =>
    rw [List.cons_append, infix_cons_iff_of_ne (List.ne_of_not_mem_cons ha),
      ih (List.not_mem_of_not_mem_cons ha)]

end

/-! ## Quoting -/

/-- A character that quoting leaves alone. -/
def Verbatim (c : Char) : Prop := quoteChar c = [c]

instance (c : Char) : Decidable (Verbatim c) := inferInstanceAs (Decidable (_ = _))

/-- A character is left alone, or escaped; only the escape of a line break has the letter `n`. -/
theorem quoteChar_cases (c : Char) :
    (c ≠ '\\' ∧ c ≠ '\n' ∧ Verbatim c) ∨ (c = '\n' ∧ quoteChar c = ['\\', 'n']) ∨
      ∃ e, c ≠ '\n' ∧ quoteChar c = '\\' :: e ∧ e ≠ [] ∧ 'n' ∉ e := by
  by_cases hbreak : c = '\n'
  · subst hbreak
    exact .inr (.inl ⟨rfl, rfl⟩)
  let P (cs : List Char) : Prop := (c ≠ '\\' ∧ cs = [c]) ∨ ∃ e, cs = '\\' :: e ∧ e ≠ [] ∧ 'n' ∉ e
  have hescape {e : List Char} (he : e ≠ []) (hn : 'n' ∉ e) : P ('\\' :: e) := .inr ⟨e, rfl, he, hn⟩
  have hcode {form : Char} (hform : 'n' ≠ form) (width : Nat) :
      P ('\\' :: form :: hexDigits width c.toNat) := by
    have hhex : 'n' ∉ hexDigits width c.toNat := notMem_hexDigits (by decide) width c.toNat
    exact hescape (List.cons_ne_nil _ _) (List.not_mem_cons_of_ne_of_not_mem hform hhex)
  have hall : P (quoteChar c) := by
    -- branch by branch: eight short escapes, and three forms of a code point
    unfold quoteChar
    apply iteInduction (motive := P)
    · exact fun _ => hescape (by decide) (by decide)
    intro _
    apply iteInduction (motive := P)
    · exact fun _ => hescape (by decide) (by decide)
    intro hback
    apply iteInduction (motive := P)
    · exact fun hc => absurd hc hbreak
    intro _
    apply iteInduction (motive := P)
    · exact fun _ => hescape (by decide) (by decide)
    intro _
    apply iteInduction (motive := P)
    · exact fun _ => hescape (by decide) (by decide)
    intro _
    apply iteInduction (motive := P)
    · exact fun _ => hescape (by decide) (by decide)
    intro _
    apply iteInduction (motive := P)
    · exact fun _ => hescape (by decide) (by decide)
    intro _
    apply iteInduction (motive := P)
    · exact fun _ => hescape (by decide) (by decide)
    intro _
    apply iteInduction (motive := P)
    · exact fun _ => hescape (by decide) (by decide)
    intro _
    apply iteInduction (motive := P)
    · exact fun _ => hcode (by decide) 2
    intro _
    apply iteInduction (motive := P)
    · exact fun _ => .inl ⟨hback, rfl⟩
    intro _
    apply iteInduction (motive := P)
    · exact fun _ => hcode (by decide) 4
    · exact fun _ => hcode (by decide) 8
  rcases hall with ⟨hback, hc⟩ | ⟨e, hc, he, hn⟩
  · exact .inl ⟨hback, hbreak, hc⟩
  · exact .inr (.inr ⟨e, hbreak, hc, he, hn⟩)

/-- A beginning of plain characters is one before quoting. -/
theorem prefix_quoted_iff {q : List Char} (hq : ∀ c ∈ q, Verbatim c) (cs : List Char) :
    q <+: cs.flatMap quoteChar ↔ q <+: cs := by
  induction q generalizing cs with
  | nil => simp
  | cons a q ih =>
    have ha := hq a List.mem_cons_self
    cases cs with
    | nil => rfl
    | cons c cs =>
      have hrest := ih (fun c hc => hq c (List.mem_cons_of_mem a hc)) cs
      rw [List.flatMap_cons, List.cons_prefix_cons]
      by_cases hc : Verbatim c
      · rw [show quoteChar c = [c] from hc, List.singleton_append, List.cons_prefix_cons, hrest]
      · -- an escape begins with a backslash, which is itself escaped
        have hne : a ≠ c := fun h => hc (h ▸ ha)
        have hback : a ≠ '\\' := by
          rintro rfl
          revert ha
          decide
        have hescaped : ∃ e, quoteChar c = '\\' :: e := by
          rcases quoteChar_cases c with ⟨-, -, hplain⟩ | ⟨-, he⟩ | ⟨e, -, he, -, -⟩
          · exact absurd hplain hc
          · exact ⟨_, he⟩
          · exact ⟨e, he⟩
        obtain ⟨e, he⟩ := hescaped
        rw [he, List.cons_append, List.cons_prefix_cons]
        simp [hne, hback]

section

variable {q : List Char} (hq : ∀ c ∈ q, Verbatim c)

include hq

theorem infix_quoted_iff (cs : List Char) :
    'n' :: q <:+: cs.flatMap quoteChar ↔ 'n' :: q <:+: cs ∨ '\n' :: q <:+: cs := by
  induction cs with
  | nil => simp
  | cons c cs ih =>
    rw [List.flatMap_cons]
    rcases quoteChar_cases c with ⟨hback, hbreak, hc⟩ | ⟨rfl, he⟩ | ⟨e, hbreak, he, hne, hn⟩
    · have hplain : ∀ a ∈ 'n' :: q, Verbatim a := by
        rw [List.forall_mem_cons]
        exact ⟨by decide, hq⟩
      have hbegins := prefix_quoted_iff hplain (c :: cs)
      rw [List.flatMap_cons, show quoteChar c = [c] from hc, List.singleton_append] at hbegins
      rw [show quoteChar c = [c] from hc, List.singleton_append, List.infix_cons_iff, hbegins, ih,
        infix_cons_iff_of_ne hbreak.symm, @List.infix_cons_iff _ ('n' :: q) c cs, or_assoc]
    · have hescape : ('n' :: q <:+: ['\\', 'n'] ++ cs.flatMap quoteChar) ↔
          q <+: cs ∨ 'n' :: q <:+: cs.flatMap quoteChar := by
        rw [List.cons_append, infix_cons_iff_of_ne (by decide), List.singleton_append,
          List.infix_cons_iff, List.cons_prefix_cons, prefix_quoted_iff hq]
        simp
      rw [he, hescape, ih, infix_cons_iff_of_ne (by decide), @List.infix_cons_iff _ ('\n' :: q),
        List.cons_prefix_cons]
      tauto
    · have hletter : c ≠ 'n' := by
        rintro rfl
        -- the letter itself is not escaped
        have hplain : quoteChar 'n' = ['n'] := by decide
        rw [hplain] at he
        exact hne (List.cons.inj he).2.symm
      rw [he, List.cons_append, infix_cons_iff_of_ne (by decide), infix_append_iff_of_not_mem hn, ih,
        infix_cons_iff_of_ne hletter.symm, infix_cons_iff_of_ne hbreak.symm]

/-- A quoted text spells a phrase with `n` as its first letter if the text does,
    or has a line break in the place of the letter. -/
theorem infix_quote_iff (s : String) :
    'n' :: q <:+: (quote s).toList ↔ 'n' :: q <:+: s.toList ∨ '\n' :: q <:+: s.toList := by
  have hmark : '"' ∉ 'n' :: q := by
    rw [List.mem_cons, not_or]
    refine ⟨by decide, fun hmem => ?_⟩
    have hplain := hq _ hmem
    revert hplain
    decide
  rw [quote, String.toList_ofList, infix_append_cons_iff hmark, infix_cons_iff_of_ne (by decide),
    infix_quoted_iff hq]
  simp

end

end Katapult
