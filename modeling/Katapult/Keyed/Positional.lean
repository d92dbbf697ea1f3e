/-
  Katapult.Keyed.Positional

  Records by name and lists of values by position.

  A statement names its columns in some order and brings its values in the same
  order; a query names columns in some order and is answered in the same order.
  What is read with the list of columns with which it was written is what was
  written (`map_assign`).
-/

import Mathlib.Data.List.Nodup

namespace Keyed

variable {γ ν : Type} [DecidableEq γ]

/-- The record that has these values in these columns, and is `rest` elsewhere. -/
def assign : List γ → List ν → (γ → ν) → γ → ν
  | c :: columns, v :: values, rest => fun c' => if c' = c then v else assign columns values rest c'
  | _, _, rest => rest

variable {columns : List γ} {values : List ν} {rest : γ → ν} {c : γ}

/-- A column that is not named. -/
theorem assign_of_notMem (hc : c ∉ columns) : assign columns values rest c = rest c := by
  induction columns generalizing values with
  | nil => rfl
  | cons c' columns ih =>
    rw [List.mem_cons, not_or] at hc
    cases values with
    | nil => rfl
    | cons v values => exact (if_neg hc.1).trans (ih hc.2)

/-- What a named column has is the value that is brought for it. -/
theorem assign_mem_zip (hc : c ∈ columns) (hlength : columns.length = values.length) :
    (c, assign columns values rest c) ∈ columns.zip values := by
  induction columns generalizing values with
  | nil => cases hc
  | cons c' columns ih =>
    cases values with
    | nil => cases hlength
    | cons v values =>
      rw [List.zip_cons_cons, assign]
      dsimp only
      by_cases heq : c = c'
      · rw [if_pos heq, heq]
        exact List.mem_cons_self
      · rw [if_neg heq]
        have hmem : c ∈ columns := (List.mem_cons.mp hc).resolve_left heq
        exact List.mem_cons_of_mem _ (ih hmem (Nat.succ.inj hlength))

/-- Written and read in one order. -/
theorem map_assign (hcolumns : columns.Nodup) (hlength : columns.length = values.length) :
    columns.map (assign columns values rest) = values := by
  induction columns generalizing values with
  | nil => exact (List.length_eq_zero_iff.mp hlength.symm).symm
  | cons c columns ih =>
    cases values with
    | nil => cases hlength
    | cons v values =>
      obtain ⟨hc, hcolumns⟩ := List.nodup_cons.mp hcolumns
      have htail : columns.map (assign (c :: columns) (v :: values) rest) =
          columns.map (assign columns values rest) := by
        apply List.map_congr_left
        intro c' hc'
        have hne : c' ≠ c := fun heq => hc (heq ▸ hc')
        exact if_neg hne
      rw [List.map_cons, htail, ih hcolumns (Nat.succ.inj hlength)]
      exact congrArg (· :: values) (if_pos rfl)

/-- What holds of a record that has been assigned to. -/
theorem forall_assign_iff {P : γ → ν → Prop} (hcolumns : columns.Nodup)
    (hlength : columns.length = values.length) :
    (∀ c, P c (assign columns values rest c)) ↔
      (∀ p ∈ columns.zip values, P p.1 p.2) ∧ ∀ c, c ∉ columns → P c (rest c) := by
  constructor
  · intro h
    constructor
    · intro p hp
      -- the value of a named column is what is assigned to it
      rw [← @map_assign _ _ _ columns values rest hcolumns hlength, ← List.map_prod_left_eq_zip] at hp
      obtain ⟨c, -, rfl⟩ := List.mem_map.mp hp
      exact h c
    · intro c hc
      rw [← @assign_of_notMem _ _ _ columns values rest c hc]
      exact h c
  · rintro ⟨hnamed, hothers⟩ c
    by_cases hc : c ∈ columns
    · exact hnamed _ (assign_mem_zip hc hlength)
    · rw [assign_of_notMem hc]
      exact hothers c hc

end Keyed
