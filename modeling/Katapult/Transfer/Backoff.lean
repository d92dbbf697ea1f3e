/-
  Katapult.Transfer.Backoff

  The delays between the attempts of a transfer.

  Without jitter the delay before attempt `n` is `nominalDelay`: it doubles from
  the base delay on and stops at the limit.  The code's delay stays around it:
  jitter moves it by a fraction of itself, and the conversion to nanoseconds
  drops what is behind the point.
-/

import Katapult.Transfer.Lifecycle
import Mathlib.Analysis.SpecialFunctions.Log.Base

namespace Katapult

open Effect

/-! ## Without jitter -/

section

variable (baseDelay maxDelay : Duration)

/-- The delay after `n` retries: it doubles up to the limit. -/
def nominalDelay (n : Nat) : ℚ := min (baseDelay * 2 ^ n) maxDelay

theorem backoffDelay_eq_nominalDelay (n : Nat) :
    backoffDelay n baseDelay maxDelay = nominalDelay baseDelay maxDelay n := by
  simp only [backoffDelay, nominalDelay, zpow_natCast]
  split
  · rename_i hcapped
    exact (min_eq_right hcapped.le).symm
  · rename_i hfree
    exact (min_eq_left (not_lt.mp hfree)).symm

theorem nominalDelay_eq_pow_iff (n : Nat) :
    nominalDelay baseDelay maxDelay n = baseDelay * 2 ^ n ↔ (baseDelay : ℚ) * 2 ^ n ≤ maxDelay :=
  min_eq_left_iff

variable {baseDelay maxDelay}

theorem nominalDelay_nonneg (hbase : 0 ≤ baseDelay) (hmax : 0 ≤ maxDelay) (n : Nat) :
    0 ≤ nominalDelay baseDelay maxDelay n := by
  have hbase' : (0 : ℚ) ≤ baseDelay := Int.cast_nonneg hbase
  have hmax' : (0 : ℚ) ≤ maxDelay := Int.cast_nonneg hmax
  apply le_min
  · positivity
  · exact hmax'

theorem nominalDelay_mono (hbase : 0 ≤ baseDelay) : Monotone (nominalDelay baseDelay maxDelay) := by
  intro n n' hle
  have hbase' : (0 : ℚ) ≤ baseDelay := Int.cast_nonneg hbase
  apply min_le_min_right
  gcongr
  norm_num

/-- From the binary logarithm of the ratio on, the limit is reached. -/
theorem nominalDelay_eq_max (hbase : 0 < baseDelay) (hmax : 0 ≤ maxDelay) {n : Nat}
    (hn : Real.logb 2 (maxDelay / baseDelay) ≤ n) : nominalDelay baseDelay maxDelay n = maxDelay := by
  apply min_eq_right
  have hbase' : (0 : ℝ) < baseDelay := Int.cast_pos.mpr hbase
  rcases hmax.eq_or_lt with rfl | hmax
  · -- a limit of zero cuts everything off
    have hbase'' : (0 : ℚ) < baseDelay := Int.cast_pos.mpr hbase
    rw [Int.cast_zero]
    positivity
  have hmax' : (0 : ℝ) < maxDelay := Int.cast_pos.mpr hmax
  have hratio : (maxDelay : ℝ) / baseDelay ≤ 2 ^ n := by
    rw [← Real.rpow_natCast]
    exact (Real.logb_le_iff_le_rpow (by norm_num) (by positivity)).mp hn
  have hreal : (maxDelay : ℝ) ≤ baseDelay * 2 ^ n := by
    rw [mul_comm]
    exact (div_le_iff₀ hbase').mp hratio
  exact_mod_cast hreal

end

/-! ## Jitter -/

section

variable {delay maxDelay jitterFactor u : ℚ}

theorem jittered_nonneg : 0 ≤ jittered delay jitterFactor u := by
  simp only [jittered]
  split
  · exact le_rfl
  · rename_i hsum
    exact not_lt.mp hsum

/-- Jitter moves a delay by at most its fraction `jitterFactor`. -/
theorem abs_jittered_sub_le (hdelay : 0 ≤ delay) (hjitter : 0 ≤ jitterFactor) (h0 : 0 ≤ u)
    (h1 : u < 1) : |jittered delay jitterFactor u - delay| ≤ jitterFactor * delay := by
  have hwidth : 0 ≤ jitterFactor * delay := mul_nonneg hjitter hdelay
  have hlow : 0 ≤ jitterFactor * delay * (2 * u) := by positivity
  have hhigh : 0 ≤ jitterFactor * delay * (2 * (1 - u)) := by
    have hrest : 0 ≤ 1 - u := by linarith
    positivity
  rw [abs_le]
  simp only [jittered]
  split
  · rename_i hsum
    -- the sum is below zero, and the delay is put to zero
    constructor
    · nlinarith
    · linarith
  · constructor
    · nlinarith
    · nlinarith

/-- The delay that is returned, in nanoseconds. -/
theorem int64OfFloat_jittered (hdelay : 0 ≤ delay) (hjitter : 0 ≤ jitterFactor)
    (hmax : delay ≤ maxDelay) (hfit : (1 + jitterFactor) * maxDelay < 2 ^ 63) (h0 : 0 ≤ u)
    (h1 : u < 1) :
    0 ≤ int64OfFloat (jittered delay jitterFactor u) ∧
      (int64OfFloat (jittered delay jitterFactor u) : ℚ) ≤ (1 + jitterFactor) * maxDelay ∧
      |(int64OfFloat (jittered delay jitterFactor u) : ℚ) - delay| ≤ jitterFactor * delay + 1 := by
  have hnear := abs_jittered_sub_le hdelay hjitter h0 h1
  have hfloor : (⌊jittered delay jitterFactor u⌋ : ℚ) ≤ jittered delay jitterFactor u := Int.floor_le _
  have hfloor' := Int.lt_floor_add_one (jittered delay jitterFactor u)
  have hwide : jittered delay jitterFactor u ≤ (1 + jitterFactor) * maxDelay := by
    have hscaled : (1 + jitterFactor) * delay ≤ (1 + jitterFactor) * maxDelay := by gcongr
    linarith [(abs_le.mp hnear).2]
  -- the conversion does not overflow
  have hsmall : ⌊jittered delay jitterFactor u⌋ < 2 ^ 63 := by
    have hcast : (⌊jittered delay jitterFactor u⌋ : ℚ) < 2 ^ 63 := by linarith
    exact_mod_cast hcast
  rw [int64OfFloat_of_nonneg jittered_nonneg, if_pos hsmall]
  refine ⟨Int.floor_nonneg.mpr jittered_nonneg, hfloor.trans hwide, ?_⟩
  rw [abs_le] at hnear ⊢
  constructor
  · linarith
  · linarith

end

/-! ## The decision -/

/-- A random number is drawn from the unit interval. -/
def DrawsUnit (env : Env) (_op : Call) (_s : Store) : Prop := 0 ≤ env.rand ∧ env.rand < 1

instance (env : Env) (op : Call) (s : Store) : Decidable (DrawsUnit env op s) :=
  inferInstanceAs (Decidable (_ ∧ _))

/-- What a decision says after `n` retries, out of `retryMax`. -/
structure BacksOff (n : Nat) (retryMax : Int) (baseDelay maxDelay : Duration) (jitterFactor : ℚ)
    (decision : RetryDecision) : Prop where
  action : decision.action = .retry ↔ n < retryMax
  nonneg : n < retryMax → 0 ≤ decision.delay
  le_max : n < retryMax → (decision.delay : ℚ) ≤ (1 + jitterFactor) * maxDelay
  near : n < retryMax → jitterFactor ≤ 1 →
    |(decision.delay : ℚ) - nominalDelay baseDelay maxDelay n| ≤
      jitterFactor * nominalDelay baseDelay maxDelay n + 1

/-- Every decision stays around a delay that doubles up to its limit. -/
theorem backsOff_of_applyRetryBackoff {retryMax : Int} {baseDelay maxDelay : Duration}
    {jitterFactor : ℚ} (hbase : 0 ≤ baseDelay) (hmax : 0 ≤ maxDelay) (hjitter : 0 ≤ jitterFactor)
    (hfit : (1 + jitterFactor) * maxDelay < 2 ^ 63) :
    (∀ (n : Nat) (s : Store) tr decision s', Prog.Exec exec DrawsUnit
      (applyRetryBackoff n retryMax baseDelay maxDelay jitterFactor) s tr decision s' →
        BacksOff n retryMax baseDelay maxDelay jitterFactor decision) ∧
    Monotone (nominalDelay baseDelay maxDelay) ∧
    (∀ n : Nat, nominalDelay baseDelay maxDelay n = baseDelay * 2 ^ n ↔
      (baseDelay : ℚ) * 2 ^ n ≤ maxDelay) ∧
    (0 < baseDelay → ∀ n : Nat, Real.logb 2 (maxDelay / baseDelay) ≤ n →
      nominalDelay baseDelay maxDelay n = maxDelay) := by
  refine ⟨fun n s tr decision s' hrun => ?_, nominalDelay_mono hbase,
    nominalDelay_eq_pow_iff baseDelay maxDelay, fun hpos n hn => nominalDelay_eq_max hpos hmax hn⟩
  have hdecides : Prog.wp exec DrawsUnit (applyRetryBackoff n retryMax baseDelay maxDelay jitterFactor)
      (fun decision _ _ => BacksOff n retryMax baseDelay maxDelay jitterFactor decision) [] s := by
    unfold applyRetryBackoff
    split
    · -- no retry is left, and no delay is promised
      rename_i hspent
      have hleft : ¬ (n : Int) < retryMax := not_lt.mpr hspent
      exact
        { action := iff_of_false (by decide) hleft
          nonneg := fun h => absurd h hleft
          le_max := fun h => absurd h hleft
          near := fun h => absurd h hleft }
    · rename_i hleft
      intro env hdraws
      have hnominal := nominalDelay_nonneg hbase hmax n
      obtain ⟨hnonneg, hle, hnear⟩ := int64OfFloat_jittered hnominal hjitter (min_le_right _ _) hfit
        hdraws.1 hdraws.2
      rw [← backoffDelay_eq_nominalDelay] at hnonneg hle
      exact
        { action := iff_of_true rfl (not_le.mp hleft)
          nonneg := fun _ => hnonneg
          le_max := fun _ => hle
          near := fun _ _ => by
            rw [← backoffDelay_eq_nominalDelay] at hnear ⊢
            exact hnear }
  exact Prog.wp_sound hdecides hrun

/-- The second retry from five seconds on, with three tenths of jitter. -/
theorem backsOff_secondRetry :
    ∃ decision tr s',
      Prog.eval exec DrawsUnit (applyRetryBackoff 1 3 (5 * second) (300 * second) (3 / 10))
        .empty [{ rand := 3 / 4 }] = some (decision, tr, s') ∧ decision.delay = 11500000000 ∧
      BacksOff 1 3 (5 * second) (300 * second) (3 / 10) decision := by
  have hend : (Prog.eval exec DrawsUnit (applyRetryBackoff 1 3 (5 * second) (300 * second) (3 / 10))
      .empty [{ rand := 3 / 4 }]).any fun out => out.1.delay = 11500000000 := by decide +kernel
  obtain ⟨⟨decision, tr, s'⟩, hrun, hdelay⟩ := (Option.any_eq_true _ _).mp hend
  have hall := @backsOff_of_applyRetryBackoff 3 (5 * second) (300 * second) (3 / 10) (by decide)
    (by decide) (by norm_num) (by norm_num [second])
  exact ⟨decision, tr, s', hrun, of_decide_eq_true hdelay,
    hall.1 1 .empty tr decision s' (Prog.exec_of_eval hrun)⟩

end Katapult
