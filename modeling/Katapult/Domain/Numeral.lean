/-
  Katapult.Domain.Numeral

  Decimal numerals, and the numbers that `strconv.Atoi` reads (`atoi_eq_some_iff`).
-/

import Katapult.Domain.Format

namespace Katapult

/-- Decimal digits, at least one. -/
def Numeral (cs : List Char) : Prop := cs ≠ [] ∧ ∀ c ∈ cs, c.isDigit = true

instance (cs : List Char) : Decidable (Numeral cs) :=
  decidable_of_iff ((!cs.isEmpty && cs.all Char.isDigit) = true) (by simp [Numeral])

/-- The natural number that a numeral denotes. -/
def decimal (cs : List Char) : ℕ := Nat.ofDigitChars 10 cs 0

/-- What a numeral with or without a sign denotes. -/
inductive Reads : List Char → Int → Prop where
  | plain {ds : List Char} (h : Numeral ds) : Reads ds (decimal ds)
  | plus {ds : List Char} (h : Numeral ds) : Reads ('+' :: ds) (decimal ds)
  | minus {ds : List Char} (h : Numeral ds) : Reads ('-' :: ds) (-decimal ds)

/-- The first character is a sign. -/
def Signed (cs : List Char) : Prop := cs.head? = some '+' ∨ cs.head? = some '-'

/-- The number is one of 64 bits. -/
def FitsInt (n : Int) : Prop := -2 ^ 63 ≤ n ∧ n < 2 ^ 63

instance (n : Int) : Decidable (FitsInt n) := inferInstanceAs (Decidable (_ ∧ _))

theorem FitsInt.natCast_iff {n : ℕ} : FitsInt n ↔ n < 2 ^ 63 := by
  unfold FitsInt
  omega

theorem Numeral.not_signed {cs : List Char} (h : Numeral cs) : ¬ Signed cs := by
  obtain ⟨-, hdigits⟩ := h
  rintro (hsign | hsign)
  · exact absurd (hdigits _ (List.mem_of_head? hsign)) (by decide)
  · exact absurd (hdigits _ (List.mem_of_head? hsign)) (by decide)

theorem Numeral.not_mem {cs : List Char} {c : Char} (h : Numeral cs) (hc : c.isDigit = false) :
    c ∉ cs := by
  intro hmem
  rw [h.2 c hmem] at hc
  cases hc

/-- A number without a sign is a numeral. -/
theorem Reads.plain_of_not_signed {cs : List Char} {n : Int} (h : Reads cs n) (hsign : ¬ Signed cs) :
    Numeral cs ∧ n = decimal cs := by
  cases h with
  | plain h => exact ⟨h, rfl⟩
  | plus h => exact absurd (.inl rfl) hsign
  | minus h => exact absurd (.inr rfl) hsign

theorem Reads.plus_iff {ds : List Char} {n : Int} :
    Reads ('+' :: ds) n ↔ Numeral ds ∧ n = decimal ds := by
  constructor
  · intro h
    cases h with
    | plain h => exact absurd (.inl rfl) h.not_signed
    | plus h => exact ⟨h, rfl⟩
  · rintro ⟨h, rfl⟩
    exact .plus h

theorem Reads.minus_iff {ds : List Char} {n : Int} :
    Reads ('-' :: ds) n ↔ Numeral ds ∧ n = -decimal ds := by
  constructor
  · intro h
    cases h with
    | plain h => exact absurd (.inr rfl) h.not_signed
    | minus h => exact ⟨h, rfl⟩
  · rintro ⟨h, rfl⟩
    exact .minus h

theorem Reads.iff_of_not_signed {cs : List Char} {n : Int} (hsign : ¬ Signed cs) :
    Reads cs n ↔ Numeral cs ∧ n = decimal cs := by
  constructor
  · intro h
    exact h.plain_of_not_signed hsign
  · rintro ⟨h, rfl⟩
    exact .plain h

theorem Reads.not_mem {cs : List Char} {n : Int} {c : Char} (h : Reads cs n) (hc : c.isDigit = false)
    (hplus : c ≠ '+') (hminus : c ≠ '-') : c ∉ cs := by
  cases h with
  | plain h => exact h.not_mem hc
  | plus h => exact List.not_mem_cons_of_ne_of_not_mem hplus (h.not_mem hc)
  | minus h => exact List.not_mem_cons_of_ne_of_not_mem hminus (h.not_mem hc)

/-! ## Atoi -/

/-- The digits are added up as they are read. -/
theorem foldl_digits {ds : List Char} (hdigits : ∀ c ∈ ds, c.isDigit = true) (n : ℕ) :
    ds.foldl (fun (n : Int) c => 10 * n + (c.toNat - 48)) (n : Int) = (Nat.ofDigitChars 10 ds n : ℕ) := by
  induction ds generalizing n with
  | nil => rfl
  | cons c ds ih =>
    -- a digit is not below '0', so the subtraction of naturals is the one of integers
    have hlow : 48 ≤ c.toNat := by
      have hc := hdigits c (List.mem_cons_self ..)
      simp only [Char.isDigit, Bool.and_eq_true, decide_eq_true_eq] at hc
      exact hc.1
    have hvalue : 10 * (n : Int) + ((c.toNat : Int) - 48) = ((10 * n + (c.toNat - '0'.toNat) : ℕ) : Int) := by
      have hzero : '0'.toNat = 48 := rfl
      omega
    rw [List.foldl_cons, hvalue, ih fun c' hc' => hdigits c' (List.mem_cons_of_mem _ hc'),
      Nat.ofDigitChars_cons]

/-- What `Atoi` makes of digits behind a sign, or without one. -/
def atoiDigits (negative : Bool) (ds : List Char) : Option Int :=
  if ds ≠ [] ∧ ds.all Char.isDigit then
    let magnitude : Int := ds.foldl (fun n c => 10 * n + (c.toNat - 48)) 0
    let n := if negative then -magnitude else magnitude
    if -2 ^ 63 ≤ n ∧ n < 2 ^ 63 then some n else none
  else none

theorem atoiDigits_eq_some_iff {negative : Bool} {ds : List Char} {n : Int} :
    atoiDigits negative ds = some n ↔
      Numeral ds ∧ n = (if negative then -(decimal ds : Int) else decimal ds) ∧ FitsInt n := by
  unfold atoiDigits
  by_cases hds : ds ≠ [] ∧ ds.all Char.isDigit
  · have hdigits : ∀ c ∈ ds, c.isDigit = true := List.all_eq_true.mp hds.2
    have hnumeral : Numeral ds := ⟨hds.1, hdigits⟩
    have hmagnitude : ds.foldl (fun (n : Int) c => 10 * n + (c.toNat - 48)) 0 = decimal ds :=
      foldl_digits hdigits 0
    rw [if_pos hds, hmagnitude]
    simp only [Option.ite_none_right_eq_some, Option.some_inj, FitsInt]
    constructor
    · rintro ⟨hfits, rfl⟩
      exact ⟨hnumeral, rfl, hfits⟩
    · rintro ⟨-, rfl, hfits⟩
      exact ⟨hfits, rfl⟩
  · rw [if_neg hds]
    refine ⟨nofun, fun ⟨hnumeral, _⟩ => absurd ⟨hnumeral.1, ?_⟩ hds⟩
    exact List.all_eq_true.mpr hnumeral.2

theorem atoi_of_not_signed {cs : List Char} (h : ¬ Signed cs) : atoi cs = atoiDigits false cs := by
  unfold atoi
  split
  rename_i hmatch
  split at hmatch
  · exact absurd (.inr rfl) h
  · exact absurd (.inl rfl) h
  · cases hmatch
    rfl

/-- `Atoi` reads a numeral, with a sign or without, as long as the number fits. -/
theorem atoi_eq_some_iff {cs : List Char} {n : Int} : atoi cs = some n ↔ Reads cs n ∧ FitsInt n := by
  by_cases hsign : Signed cs
  · -- behind the sign stand digits, and no second sign
    obtain hplus | hminus := hsign
    · obtain ⟨ds, rfl⟩ := List.head?_eq_some_iff.mp hplus
      rw [Reads.plus_iff, and_assoc]
      exact @atoiDigits_eq_some_iff false ds n
    · obtain ⟨ds, rfl⟩ := List.head?_eq_some_iff.mp hminus
      rw [Reads.minus_iff, and_assoc]
      exact @atoiDigits_eq_some_iff true ds n
  · rw [atoi_of_not_signed hsign, Reads.iff_of_not_signed hsign, and_assoc]
    exact atoiDigits_eq_some_iff

end Katapult
