/-
  Katapult.Transfer.Policy

  The decisions of the transfer engine: request validation, strategy
  selection, retry with backoff, and resource cleanup.
-/

import Katapult.Transfer.Calls

namespace Katapult

/-! ## Validation -/

structure ValidateRequest where
  transferID : String
  sourceCluster : String
  sourcePVC : String
  destinationCluster : String
  destinationPVC : String
  allowOverwrite : Bool

def pvcNotFound (role pvc cluster : String) : Err :=
  role ++ " PVC " ++ pvc ++ " not found in cluster " ++ cluster ++
    ". Verify the PVC exists and the agent on the owning node is healthy"

/-- Validate a transfer request against the agent registry. -/
def validateTransferRequest (req : ValidateRequest) : Engine (Except Err Unit) := do
  if req.sourceCluster = req.destinationCluster ∧ req.sourcePVC = req.destinationPVC then
    return .error "source and destination PVC cannot be the same"
  match ← Engine.findHealthyPVC req.sourceCluster req.sourcePVC with
  | .error err => return .error ("looking up source PVC: " ++ err)
  | .ok false => return .error (pvcNotFound "source" req.sourcePVC req.sourceCluster)
  | .ok true =>
  match ← Engine.findHealthyPVC req.destinationCluster req.destinationPVC with
  | .error err => return .error ("looking up destination PVC: " ++ err)
  | .ok false => return .error (pvcNotFound "destination" req.destinationPVC req.destinationCluster)
  | .ok true =>
  match ← Engine.isPVCEmpty req.destinationCluster req.destinationPVC with
  | .error err => return .error ("checking destination PVC empty status: " ++ err)
  | .ok empty =>
  if empty = false ∧ req.allowOverwrite = false then
    return .error ("destination PVC " ++ req.destinationPVC ++
      " is not empty. Set allow_overwrite=true to overwrite existing data")
  return .ok ()

/-! ## Strategy selection -/

structure S3Config where
  configured : Bool

def selectStrategy (sourceCluster destCluster : String) (strategyOverride : Option String)
    (s3Config : S3Config) : Except Err TransferStrategy :=
  match strategyOverride with
  | some strategy =>
    let override : TransferStrategy := ⟨strategy⟩
    if override = .stream ∨ override = .s3 ∨ override = .direct then .ok override
    else .error ("invalid strategy: " ++ strategy ++ ". Valid options: stream, s3, direct")
  | none =>
    if sourceCluster = destCluster then .ok .stream
    else if s3Config.configured then .ok .s3
    else .ok .direct

/-- A strategy is one of the three, and an error has a text. -/
theorem selectStrategy_cases (sourceCluster destCluster : String) (strategyOverride : Option String)
    (s3Config : S3Config) :
    (∃ strategy, selectStrategy sourceCluster destCluster strategyOverride s3Config = .ok strategy ∧
      (strategy = .stream ∨ strategy = .s3 ∨ strategy = .direct)) ∨
    ∃ err, selectStrategy sourceCluster destCluster strategyOverride s3Config = .error err ∧
      err ≠ "" := by
  cases strategyOverride with
  | some text =>
    by_cases hvalid : (⟨text⟩ : TransferStrategy) = .stream ∨ (⟨text⟩ : TransferStrategy) = .s3 ∨
        (⟨text⟩ : TransferStrategy) = .direct
    · exact .inl ⟨⟨text⟩, if_pos hvalid, hvalid⟩
    · exact .inr ⟨_, if_neg hvalid, append_ne_empty_of_right (by decide)⟩
  | none =>
    refine .inl ?_
    simp only [selectStrategy]
    split
    · exact ⟨_, rfl, .inl rfl⟩
    split
    · exact ⟨_, rfl, .inr (.inl rfl)⟩
    · exact ⟨_, rfl, .inr (.inr rfl)⟩

/-! ## Retry with backoff -/

inductive RetryAction where
  | retry | exhausted
  deriving DecidableEq, Repr

structure RetryDecision where
  action : RetryAction
  /-- Only meaningful for `retry`. -/
  delay : Duration

/-- The delay before jitter: exponential in the attempts made, and capped. -/
def backoffDelay (retryCount : Int) (baseDelay maxDelay : Duration) : ℚ :=
  let delay : ℚ := baseDelay * (2 : ℚ) ^ retryCount
  if maxDelay < delay then maxDelay else delay

def jittered (delay jitterFactor u : ℚ) : ℚ :=
  let sum := delay + delay * jitterFactor * (2 * u - 1)
  if sum < 0 then 0 else sum

def applyRetryBackoff (retryCount retryMax : Int) (baseDelay maxDelay : Duration)
    (jitterFactor : ℚ) : Engine RetryDecision := do
  if retryMax ≤ retryCount then
    return { action := .exhausted, delay := 0 }
  let u ← Engine.randFloat64
  let delay := jittered (backoffDelay retryCount baseDelay maxDelay) jitterFactor u
  return { action := .retry, delay := int64OfFloat delay }

/-! ## Cleanup -/

section Cleanup

variable [UUIDText]

/-- Best-effort resource cleanup: every step is attempted, and what a step
    answers is only logged. -/
def executeCleanup (transfer : Transfer) : Engine Unit := do
  let transferID := transfer.id.text
  let _ ← Engine.revokeCredentials transferID
  let _ ← Engine.sendCancelCommand transfer.sourceCluster transferID
  let _ ← Engine.sendCancelCommand transfer.destinationCluster transferID
  if transfer.strategy = .s3 then
    let _ ← Engine.deleteTransferObjects transferID
  return ()

end Cleanup

end Katapult
