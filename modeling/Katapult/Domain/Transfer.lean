/-
  Katapult.Domain.Transfer

  The transfer record, its audit events, and the lifecycle state machine.
-/

import Katapult.Domain.Format

namespace Katapult

/-- The lifecycle state of a transfer. -/
inductive TransferState where
  | pending | validating | transferring | completed | failed | cancelled
  deriving DecidableEq, Repr

def TransferState.text : TransferState → String
  | .pending => "pending"
  | .validating => "validating"
  | .transferring => "transferring"
  | .completed => "completed"
  | .failed => "failed"
  | .cancelled => "cancelled"

/-- The data transfer method: a string type in the source, and `""` until one
    has been selected. -/
structure TransferStrategy where
  text : String
  deriving DecidableEq, Repr

namespace TransferStrategy

def unset : TransferStrategy := ⟨""⟩
def stream : TransferStrategy := ⟨"stream"⟩
def s3 : TransferStrategy := ⟨"s3"⟩
def direct : TransferStrategy := ⟨"direct"⟩

end TransferStrategy

/-- A volume transfer between two PVCs. -/
structure Transfer where
  id : UUID
  sourceCluster : String
  sourcePVC : String
  destinationCluster : String
  destinationPVC : String
  strategy : TransferStrategy := .unset
  state : TransferState
  allowOverwrite : Bool
  bytesTransferred : Int := 0
  bytesTotal : Int := 0
  chunksCompleted : Int := 0
  chunksTotal : Int := 0
  errorMessage : String := ""
  retryCount : Int := 0
  retryMax : Int
  createdBy : String
  createdAt : Time
  startedAt : Option Time := none
  completedAt : Option Time := none
  deriving DecidableEq, Repr

/-- The types of audit events that the orchestrator records. -/
def recordedTypes : List String :=
  ["created", "validated", "started", "progress", "retried", "completed", "failed", "cancelled"]

/-- The type of an audit event: a string in the source. -/
inductive EventType where
  | created | validated | started | progress | retried | completed | failed | cancelled
  | other (text : String) (notRecorded : text ∉ recordedTypes)
  deriving DecidableEq, Repr

def EventType.text : EventType → String
  | .created => "created"
  | .validated => "validated"
  | .started => "started"
  | .progress => "progress"
  | .retried => "retried"
  | .completed => "completed"
  | .failed => "failed"
  | .cancelled => "cancelled"
  | .other text _ => text

/-- The event types that record the end of a transfer. -/
def EventType.isTerminal : EventType → Bool
  | .completed | .failed | .cancelled => true
  | _ => false

/-- An audit event in the timeline of a transfer. -/
structure TransferEvent where
  id : UUID
  transferID : UUID
  eventType : EventType
  message : String
  metadata : Option (List (String × String))
  createdAt : Time
  deriving DecidableEq, Repr

/-- A filter of transfers; the state is any string. -/
structure TransferFilter where
  state : Option String := none
  cluster : Option String := none
  limit : Int := 0
  offset : Int := 0

/-- The configuration parameters of transfer orchestration that the code reads. -/
structure TransferConfig where
  retryMaxAttempts : Int
  retryBaseDelay : Duration
  retryMaxDelay : Duration
  jitterFactor : ℚ

def defaultTransferConfig : TransferConfig where
  retryMaxAttempts := 3
  retryBaseDelay := 5 * second
  retryMaxDelay := 5 * 60 * second
  jitterFactor := 3 / 10

/-! ## Lifecycle -/

/-- The allowed transitions; a state without an entry is terminal. -/
def validTransferTransitions : TransferState → Option (List TransferState)
  | .pending => some [.validating, .cancelled]
  | .validating => some [.transferring, .failed, .cancelled]
  | .transferring => some [.completed, .failed, .cancelled]
  | _ => none

/-- `target` is listed for `state`. -/
def TransferState.Edge (state target : TransferState) : Prop :=
  ∃ allowed, validTransferTransitions state = some allowed ∧ target ∈ allowed

def TransferState.isTerminal : TransferState → Bool
  | .completed | .failed | .cancelled => true
  | _ => false

def Transfer.transitionTo (t : Transfer) (target : TransferState) : Except Err Transfer :=
  match validTransferTransitions t.state with
  | none => .error ("no transitions defined from state " ++ quote t.state.text ++
      " (terminal state)")
  | some allowed =>
    if target ∈ allowed then .ok { t with state := target }
    else .error ("invalid transition from " ++ quote t.state.text ++ " to " ++
      quote target.text)

def Transfer.isTerminal (t : Transfer) : Bool := t.state.isTerminal

instance (state target : TransferState) : Decidable (state.Edge target) :=
  match h : validTransferTransitions state with
  | none => .isFalse fun ⟨_, hsome, _⟩ => by simp [h] at hsome
  | some allowed =>
    decidable_of_iff (target ∈ allowed) ⟨fun hmem => ⟨allowed, h, hmem⟩, fun ⟨_, hsome, hmem⟩ => by
      rw [h] at hsome
      cases hsome
      exact hmem⟩

theorem Transfer.transitionTo_eq_ok {t t' : Transfer} {target : TransferState} :
    t.transitionTo target = .ok t' ↔ t.state.Edge target ∧ t' = { t with state := target } := by
  unfold Transfer.transitionTo TransferState.Edge
  cases validTransferTransitions t.state with
  | none => simp
  | some allowed =>
    by_cases hmem : target ∈ allowed
    · simp [hmem, eq_comm]
    · simp [hmem]

theorem Transfer.not_edge_of_transitionTo_eq_error {t : Transfer} {target : TransferState} {err : Err}
    (h : t.transitionTo target = .error err) : ¬ t.state.Edge target := by
  intro hedge
  rw [Transfer.transitionTo_eq_ok.mpr ⟨hedge, rfl⟩] at h
  cases h

theorem TransferState.Edge.not_isTerminal {state target : TransferState} (h : state.Edge target) :
    state.isTerminal = false := by
  obtain ⟨allowed, hsome, -⟩ := h
  cases state <;> simp_all [validTransferTransitions, TransferState.isTerminal]

/-- Every state that is not terminal can be cancelled. -/
theorem TransferState.edge_cancelled {state : TransferState} (h : state.isTerminal = false) :
    state.Edge .cancelled := by
  cases state <;> first | decide | simp [TransferState.isTerminal] at h

end Katapult
