/-
  Katapult.Observability.Metrics

  The Prometheus collectors that the transfer engine reports to, and what a
  history of the engine's calls leaves in them.

  A counter with labels is the list of the series made so far; a sum over some
  of the labels is `CounterVec.total`.  A counter that is to decrease panics.
-/

import Katapult.Channel.Buffered
import Katapult.Transfer.Calls

namespace Katapult

open Channel

/-! ## Counters with labels -/

/-- The series of a counter, each made when its labels are first used. -/
structure CounterVec (Labels : Type) where
  series : List (Labels × Nat)

namespace CounterVec

variable {Labels : Type}

def new : CounterVec Labels := ⟨[]⟩

variable [DecidableEq Labels]

/-- Add one to the series with these labels. -/
def incSeries (labels : Labels) : List (Labels × Nat) → List (Labels × Nat)
  | [] => [(labels, 1)]
  | (labels', n) :: rest =>
    if labels' = labels then (labels', n + 1) :: rest else (labels', n) :: incSeries labels rest

def inc (c : CounterVec Labels) (labels : Labels) : CounterVec Labels :=
  ⟨incSeries labels c.series⟩

omit [DecidableEq Labels] in
/-- The sum of the series whose labels satisfy `p`. -/
def total (p : Labels → Bool) (c : CounterVec Labels) : Nat :=
  ((c.series.filter fun s => p s.1).map Prod.snd).sum

theorem sum_incSeries (p : Labels → Bool) (labels : Labels) (series : List (Labels × Nat)) :
    (((incSeries labels series).filter fun s => p s.1).map Prod.snd).sum =
      ((series.filter fun s => p s.1).map Prod.snd).sum + (p labels).toNat := by
  induction series with
  | nil => cases hp : p labels <;> simp [incSeries, hp]
  | cons s rest ih =>
    obtain ⟨labels', n⟩ := s
    unfold incSeries
    by_cases heq : labels' = labels
    · subst heq
      rw [if_pos rfl]
      cases hp : p labels'
      · simp [hp]
      · simp only [List.filter_cons, hp, if_true, List.map_cons, List.sum_cons, Bool.toNat_true]
        omega
    · rw [if_neg heq]
      cases hp : p labels'
      · simpa [List.filter_cons, hp] using ih
      · simp only [List.filter_cons, hp, if_true, List.map_cons, List.sum_cons, ih]
        omega

theorem total_inc (p : Labels → Bool) (c : CounterVec Labels) (labels : Labels) :
    (c.inc labels).total p = c.total p + (p labels).toNat :=
  sum_incSeries p labels c.series

end CounterVec

/-! ## The collectors -/

/-- The collectors that the engine's calls reach. -/
structure Metrics where
  /-- By status and strategy. -/
  transfersTotal : CounterVec (String × String)
  transfersActive : Int
  /-- Exact below 2^64, as long as each number of bytes that is added is one of a
      `float64`, as all up to 2^53 are. -/
  moverBytesTransferred : Int
  moverSpeedGauge : Float64
  /-- By category. -/
  moverErrorsTotal : CounterVec String

namespace Metrics

def newMetrics : Metrics where
  transfersTotal := .new
  transfersActive := 0
  moverBytesTransferred := 0
  moverSpeedGauge := 0
  moverErrorsTotal := .new

def onTransferStateChange (m : Metrics) (_fromState toState strategy : String) : Metrics :=
  let m := { m with transfersTotal := m.transfersTotal.inc (toState, strategy) }
  if toState = "transferring" then { m with transfersActive := m.transfersActive + 1 }
  else if toState = "completed" ∨ toState = "failed" ∨ toState = "cancelled" then
    { m with transfersActive := m.transfersActive - 1 }
  else m

def onProgressReport (m : Metrics) (bytesTransferred : Int) (speedBytesPerSec : Float64) :
    Attempt Metrics :=
  -- a Prometheus counter panics when it is to decrease
  if bytesTransferred < 0 then .panics
  else .done
    { m with
      moverBytesTransferred := m.moverBytesTransferred + bytesTransferred
      moverSpeedGauge := speedBytesPerSec }

def onTransferError (m : Metrics) (category : String) : Metrics :=
  { m with moverErrorsTotal := m.moverErrorsTotal.inc category }

/-- What a call of the engine does to the collectors. -/
def record (ev : CallEv) (m : Metrics) : Attempt Metrics :=
  match ev.1 with
  | .onTransferStateChange fromState toState strategy =>
    .done (m.onTransferStateChange fromState toState strategy)
  | .onProgressReport bytesTransferred speedBytesPerSec =>
    m.onProgressReport bytesTransferred speedBytesPerSec
  | .onTransferError category => .done (m.onTransferError category)
  | _ => .done m

/-- What a history leaves in the collectors, unless a call has panicked. -/
def after (h : List CallEv) : Attempt Metrics := Attempt.each record h newMetrics

/-- The `katapult_transfers_total` counter of a status, summed over strategies. -/
def totalWith (m : Metrics) (status : String) : Nat :=
  m.transfersTotal.total fun labels => labels.1 = status

end Metrics

end Katapult
