/-
  Katapult.Observability.Eta

  The estimate of the remaining time.

  A duration counts nanoseconds in an `int64`, which is some 292 years.  Up to
  there the published text is that of the whole seconds that remain; a transfer
  that would take longer is given the most negative duration.
-/

import Katapult.Observability.Progress
import Mathlib.Tactic.FieldSimp
import Mathlib.Tactic.Linarith
import Mathlib.Tactic.Positivity
import Mathlib.Tactic.NormNum

namespace Katapult

namespace RawProgress

/-- The number of seconds that are left at a speed. -/
def remaining (raw : RawProgress) (speed : ℚ) : ℚ :=
  ((raw.bytesTotal - raw.bytesTransferred : Int) : ℚ) / speed

/-- A report of bytes that move at a speed, within the range of the fields. -/
structure Legal (raw : RawProgress) (speed : ℚ) : Prop where
  transferred : 0 ≤ raw.bytesTransferred
  total : raw.bytesTransferred ≤ raw.bytesTotal
  range : raw.bytesTotal < 2 ^ 63
  reported : raw.speedBytesPerSec = .finite speed
  speed : 0 < speed

/-- Where a duration is computed, it is in range, and the text that is published
    is that of the whole seconds that remain. -/
def EtaInRange (raw : RawProgress) (speed : ℚ) : Prop :=
  0 < raw.bytesTotal → raw.remaining speed * 10 ^ 9 < 2 ^ 63 ∧ 0 ≤ ⌊raw.remaining speed⌋ ∧
    ∀ correlationID, (enrichProgress raw correlationID).estimatedTimeRemaining =
      Duration.string (⌊raw.remaining speed⌋ * second)

section

variable {raw : RawProgress} {speed : ℚ}

theorem remaining_nonneg (h : raw.Legal speed) : 0 ≤ raw.remaining speed := by
  have hbytes : (0 : ℚ) ≤ (raw.bytesTotal - raw.bytesTransferred : Int) :=
    Int.cast_nonneg (Int.sub_nonneg.mpr h.total)
  exact div_nonneg hbytes h.speed.le

/-- Below 292 years, in the terms of the report. -/
theorem remaining_lt_iff (h : raw.Legal speed) :
    raw.remaining speed * 10 ^ 9 < 2 ^ 63 ↔
      ((raw.bytesTotal - raw.bytesTransferred : Int) : ℚ) * 10 ^ 9 < 2 ^ 63 * speed := by
  rw [remaining, div_mul_eq_mul_div, div_lt_iff₀ h.speed]

/-- The difference of the byte counts does not wrap. -/
theorem etaDuration_eq (h : raw.Legal speed) :
    etaDuration raw =
      if raw.remaining speed * 10 ^ 9 < 2 ^ 63 then ⌊raw.remaining speed * 10 ^ 9⌋ else -2 ^ 63 := by
  have hwrap : wrapInt64 (raw.bytesTotal - raw.bytesTransferred) =
      raw.bytesTotal - raw.bytesTransferred := by
    have := h.transferred
    have := h.total
    have := h.range
    simp only [wrapInt64]
    omega
  have hnanos : ((raw.bytesTotal - raw.bytesTransferred : Int) : ℚ) / speed * second =
      raw.remaining speed * 10 ^ 9 := by
    simp only [remaining, second]
    norm_num
  -- the bound is a whole number, so cutting off the fraction does not cross it
  have hfit : ⌊raw.remaining speed * 10 ^ 9⌋ < 2 ^ 63 ↔ raw.remaining speed * 10 ^ 9 < 2 ^ 63 := by
    rw [Int.floor_lt]
    norm_num
  have hnonneg := remaining_nonneg h
  simp only [etaDuration, h.reported, hwrap, hnanos]
  rw [int64OfFloat_of_nonneg (by positivity)]
  simp only [hfit]

/-- Cutting the nanoseconds off leaves the whole seconds. -/
theorem truncate_floor {q : ℚ} (h : 0 ≤ q) :
    Duration.truncate ⌊q * 10 ^ 9⌋ second = ⌊q⌋ * second := by
  have hnonneg : 0 ≤ ⌊q * 10 ^ 9⌋ := Int.floor_nonneg.mpr (by positivity)
  have hseconds : ⌊q * 10 ^ 9⌋ / second = ⌊q⌋ := by
    rw [← Int.floor_div_cast_of_nonneg (by decide)]
    congr 1
    norm_num [second]
  have hparts := Int.ediv_mul_add_emod ⌊q * 10 ^ 9⌋ second
  rw [Duration.truncate, Int.tmod_eq_emod_of_nonneg hnonneg, ← hseconds]
  linarith

theorem etaText_eq (h : raw.Legal speed) (htotal : 0 < raw.bytesTotal) (correlationID : String) :
    (enrichProgress raw correlationID).estimatedTimeRemaining =
      if raw.remaining speed * 10 ^ 9 < 2 ^ 63 then Duration.string (⌊raw.remaining speed⌋ * second)
      else "-2562047h47m16s" := by
  have hpositive : raw.speedBytesPerSec.positive = true := by
    rw [h.reported]
    exact decide_eq_true h.speed
  simp only [enrichProgress, hpositive, htotal, and_self, if_true, etaDuration_eq h]
  split
  · rw [truncate_floor (remaining_nonneg h)]
  · decide +kernel

end

end RawProgress

/-- The estimate is right exactly for the transfers that take less than `2 ^ 63`
    nanoseconds; all others are given the same negative time. -/
theorem etaInRange_iff {raw : RawProgress} {speed : ℚ} (h : raw.Legal speed) :
    (raw.EtaInRange speed ↔ ((raw.bytesTotal - raw.bytesTransferred : Int) : ℚ) * 10 ^ 9 <
      2 ^ 63 * speed) ∧
    (¬ ((raw.bytesTotal - raw.bytesTransferred : Int) : ℚ) * 10 ^ 9 < 2 ^ 63 * speed →
      ∀ correlationID, (enrichProgress raw correlationID).estimatedTimeRemaining =
        "-2562047h47m16s") := by
  rw [← RawProgress.remaining_lt_iff h]
  have hpositive : ¬ raw.remaining speed * 10 ^ 9 < 2 ^ 63 → 0 < raw.bytesTotal := by
    intro hlate
    by_contra htotal
    -- no byte is left of an empty transfer
    have hempty : raw.bytesTotal - raw.bytesTransferred = 0 := by
      have := h.transferred
      have := h.total
      omega
    apply hlate
    rw [RawProgress.remaining, hempty]
    norm_num
  refine ⟨⟨fun hrange => ?_, fun hfit htotal => ⟨hfit, ?_, fun correlationID => ?_⟩⟩,
    fun hlate correlationID => ?_⟩
  · -- a late estimate is shown, so it would have to be in range
    by_contra hlate
    exact hlate (hrange (hpositive hlate)).1
  · exact Int.floor_nonneg.mpr (RawProgress.remaining_nonneg h)
  · rw [RawProgress.etaText_eq h htotal, if_pos hfit]
  · rw [RawProgress.etaText_eq h (hpositive hlate), if_neg hlate]

/-! ## Sample reports -/

/-- A terabyte that has not begun to move, at this speed. -/
def terabyteAt (speed : ℚ) : RawProgress where
  transferID := 7
  bytesTransferred := 0
  bytesTotal := 2 ^ 40
  speedBytesPerSec := .finite speed
  chunksCompleted := 0
  chunksTotal := 0
  status := "running"
  errorMessage := ""

theorem legal_terabyteAt {speed : ℚ} (h : 0 < speed) : (terabyteAt speed).Legal speed :=
  ⟨le_refl 0, Int.le_of_lt (by norm_num [terabyteAt]), by norm_num [terabyteAt], rfl, h⟩

/-- At a gigabyte a second, the estimate is right. -/
theorem etaInRange_gigabyte : (terabyteAt (2 ^ 30)).EtaInRange (2 ^ 30) := by
  apply (etaInRange_iff (legal_terabyteAt (by norm_num))).1.mpr
  norm_num [terabyteAt]

/-- At a byte a second, a terabyte takes some 35000 years. -/
theorem not_etaInRange_stalling :
    ¬ ∀ (raw : RawProgress) (speed : ℚ), raw.Legal speed → raw.EtaInRange speed := by
  intro hall
  have hrange := (hall (terabyteAt 1) 1 (legal_terabyteAt one_pos) (by decide)).1
  norm_num [RawProgress.remaining, terabyteAt] at hrange

end Katapult
