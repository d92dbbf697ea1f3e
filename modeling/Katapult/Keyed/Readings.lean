/-
  Katapult.Keyed.Readings

  Logs of cumulative readings: an entry says what the meter of a key shows, and
  a later entry of the same key replaces it.  What the meters show together is
  the sum of the last readings.  An accumulator that adds up every entry is at
  that value exactly when the entries that were replaced are zero.
-/

import Mathlib.Algebra.BigOperators.Group.Finset.Piecewise
import Mathlib.Algebra.Order.BigOperators.Group.Finset
import Mathlib.Algebra.Order.BigOperators.Group.List
import Mathlib.Algebra.Order.Ring.Int

namespace Keyed

variable {κ : Type} [DecidableEq κ]

/-- The readings of one key, in their order. -/
def readingsOf (log : List (κ × Int)) (k : κ) : List Int :=
  (log.filter fun entry => entry.1 = k).map Prod.snd

/-- The keys that have been read. -/
def readKeys (log : List (κ × Int)) : Finset κ := (log.map Prod.fst).toFinset

/-- The last reading of a key. -/
def lastReading (log : List (κ × Int)) (k : κ) : Int := (readingsOf log k).getLast?.getD 0

/-- What all meters show together. -/
def sumOfLast (log : List (κ × Int)) : Int := ∑ k ∈ readKeys log, lastReading log k

/-- Every meter shows non-negative values that never fall. -/
def Cumulative (log : List (κ × Int)) : Prop :=
  (∀ entry ∈ log, 0 ≤ entry.2) ∧ ∀ k, (readingsOf log k).Pairwise (· ≤ ·)

theorem mem_readingsOf {log : List (κ × Int)} {k : κ} {v : Int} :
    v ∈ readingsOf log k ↔ (k, v) ∈ log := by
  rw [readingsOf, List.mem_map]
  constructor
  · rintro ⟨⟨k', v'⟩, hentry, rfl⟩
    obtain ⟨hmem, hk⟩ := List.mem_filter.mp hentry
    rwa [← of_decide_eq_true hk]
  · intro hmem
    exact ⟨(k, v), List.mem_filter.mpr ⟨hmem, decide_eq_true rfl⟩, rfl⟩

theorem readingsOf_sublist (log : List (κ × Int)) (k : κ) :
    (readingsOf log k).Sublist (log.map Prod.snd) :=
  List.filter_sublist.map Prod.snd

/-- A key that was not read has no readings. -/
theorem readingsOf_of_notMem {log : List (κ × Int)} {k : κ} (h : k ∉ readKeys log) :
    readingsOf log k = [] := by
  rw [List.eq_nil_iff_forall_not_mem]
  intro v hv
  have hmem := List.mem_map_of_mem (f := Prod.fst) (mem_readingsOf.mp hv)
  exact h (List.mem_toFinset.mpr hmem)

/-- All entries, key by key. -/
theorem sum_eq_sum_readingsOf (log : List (κ × Int)) (S : Finset κ)
    (hS : ∀ entry ∈ log, entry.1 ∈ S) :
    (log.map Prod.snd).sum = ∑ k ∈ S, (readingsOf log k).sum := by
  induction log with
  | nil => simp [readingsOf]
  | cons entry log ih =>
    have hcons : ∀ k, (readingsOf (entry :: log) k).sum =
        (if k = entry.1 then entry.2 else 0) + (readingsOf log k).sum := by
      intro k
      by_cases hk : entry.1 = k
      · simp [readingsOf, hk]
      · simp [readingsOf, hk, Ne.symm hk]
    -- the entry counts for its own key only
    have htail := ih fun entry' hentry' => hS entry' (List.mem_cons_of_mem _ hentry')
    have hmem : entry.1 ∈ S := hS entry List.mem_cons_self
    simp only [hcons, Finset.sum_add_distrib, ← htail, Finset.sum_ite_eq', hmem, if_true]
    rw [List.map_cons, List.sum_cons]

/-- One meter: the sum of all readings is the last one, and the replaced ones on top. -/
theorem sum_eq_dropLast_add_last (readings : List Int) :
    readings.sum = readings.dropLast.sum + readings.getLast?.getD 0 := by
  rcases List.eq_nil_or_concat' readings with rfl | ⟨init, last, rfl⟩
  · rfl
  · rw [List.dropLast_concat, List.getLast?_concat, List.sum_append, List.sum_singleton]
    rfl

theorem sum_eq_zero_iff_of_nonneg {values : List Int} (hnonneg : ∀ v ∈ values, 0 ≤ v) :
    values.sum = 0 ↔ ∀ v ∈ values, v = 0 := by
  constructor
  · intro hsum v hv
    exact List.all_zero_of_le_zero_le_of_sum_eq_zero hnonneg hsum hv
  · exact List.sum_eq_zero

/-- The accumulator is off by the replaced readings. -/
theorem sum_eq_sumOfLast_add (log : List (κ × Int)) :
    (log.map Prod.snd).sum =
      (∑ k ∈ readKeys log, (readingsOf log k).dropLast.sum) + sumOfLast log := by
  have hkeys : ∀ entry ∈ log, entry.1 ∈ readKeys log := fun entry hentry =>
    List.mem_toFinset.mpr (List.mem_map_of_mem hentry)
  rw [sum_eq_sum_readingsOf log (readKeys log) hkeys, sumOfLast, ← Finset.sum_add_distrib]
  exact Finset.sum_congr rfl fun k _ => sum_eq_dropLast_add_last _

/-- The accumulator is right exactly when every replaced reading was zero. -/
theorem sum_eq_sumOfLast_iff {log : List (κ × Int)} (hnonneg : ∀ entry ∈ log, 0 ≤ entry.2) :
    (log.map Prod.snd).sum = sumOfLast log ↔
      ∀ k, ∀ v ∈ (readingsOf log k).dropLast, v = 0 := by
  have hreplaced : ∀ k, ∀ v ∈ (readingsOf log k).dropLast, 0 ≤ v := by
    intro k v hv
    exact hnonneg (k, v) (mem_readingsOf.mp (List.mem_of_mem_dropLast hv))
  have hsums : ∀ k ∈ readKeys log, 0 ≤ (readingsOf log k).dropLast.sum := fun k _ =>
    List.sum_nonneg (hreplaced k)
  -- non-negative sums add up to nothing only if each of them does
  rw [sum_eq_sumOfLast_add, add_eq_right, Finset.sum_eq_zero_iff_of_nonneg hsums]
  constructor
  · intro hzero k
    by_cases hk : k ∈ readKeys log
    · exact (sum_eq_zero_iff_of_nonneg (hreplaced k)).mp (hzero k hk)
    · rw [readingsOf_of_notMem hk]
      exact fun v hv => absurd hv List.not_mem_nil
  · intro hzero k _
    exact (sum_eq_zero_iff_of_nonneg (hreplaced k)).mpr (hzero k)

end Keyed
