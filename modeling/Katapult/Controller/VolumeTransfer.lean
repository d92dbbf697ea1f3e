/-
  Katapult.Controller.VolumeTransfer

  The VolumeTransfer custom resource and the reconciler that creates, polls and
  cancels a transfer for it.  The reconciler talks to two stores, the API server
  that holds the object and the engine that holds the transfer, so it is a
  program over both interfaces.
-/

import Katapult.Transfer.Orchestrator

namespace Katapult

open Effect

/-! ## The custom resource -/

structure NamespacedName where
  namespace_ : String
  name : String
  deriving DecidableEq

/-- The source's `fmt.Sprintf("crd/%s/%s", vt.Namespace, vt.Name)`. -/
def NamespacedName.createdBy (key : NamespacedName) : String :=
  "crd/" ++ key.namespace_ ++ "/" ++ key.name

inductive ConditionStatus where
  | true | false | unknown
  deriving DecidableEq, Repr

structure Condition where
  type : String
  status : ConditionStatus
  reason : String
  message : String
  lastTransitionTime : Time
  observedGeneration : Int
  deriving DecidableEq

structure VolumeTransferSpec where
  sourceCluster : String
  sourcePVC : String
  destinationCluster : String
  destinationPVC : String
  strategy : String := ""
  allowOverwrite : Bool := false
  retryMax : Int := 0
  deriving DecidableEq

structure VolumeTransferStatus where
  transferID : String := ""
  phase : String := ""
  bytesTransferred : Int := 0
  bytesTotal : Int := 0
  chunksCompleted : Int := 0
  chunksTotal : Int := 0
  conditions : List Condition := []
  deriving DecidableEq

/-- A VolumeTransfer, with the metadata that the reconciler or the API server
    looks at. -/
structure VolumeTransfer where
  key : NamespacedName
  generation : Int := 1
  resourceVersion : Nat := 1
  finalizers : List String := []
  deletionTimestamp : Option Time := none
  spec : VolumeTransferSpec
  status : VolumeTransferStatus := {}
  deriving DecidableEq

def finalizerName : String := "katapult.io/transfer-cleanup"

def requeueDelay : Duration := 5 * second

namespace VolumeTransfer

def containsFinalizer (vt : VolumeTransfer) (finalizer : String) : Bool :=
  decide (finalizer ∈ vt.finalizers)

def addFinalizer (vt : VolumeTransfer) (finalizer : String) : VolumeTransfer :=
  if vt.containsFinalizer finalizer then vt
  else { vt with finalizers := vt.finalizers ++ [finalizer] }

def removeFinalizer (vt : VolumeTransfer) (finalizer : String) : VolumeTransfer :=
  { vt with finalizers := vt.finalizers.filter (· ≠ finalizer) }

/-- The request for the transfer that the object describes. -/
def createRequest (vt : VolumeTransfer) : CreateTransferRequest where
  sourceCluster := vt.spec.sourceCluster
  sourcePVC := vt.spec.sourcePVC
  destinationCluster := vt.spec.destinationCluster
  destinationPVC := vt.spec.destinationPVC
  strategyOverride := if vt.spec.strategy ≠ "" then some vt.spec.strategy else none
  allowOverwrite := vt.spec.allowOverwrite
  retryMax := if 0 < vt.spec.retryMax then some vt.spec.retryMax else none
  createdBy := vt.key.createdBy

end VolumeTransfer

/-- The conditions after `condType` has been set: the first entry of that type
    is overwritten, and keeps its transition time while the status stays. -/
def withCondition (condType : String) (status : ConditionStatus) (reason message : String)
    (now : Time) (generation : Int) : List Condition → List Condition
  | [] =>
    [{ type := condType, status, reason, message, lastTransitionTime := now,
       observedGeneration := generation }]
  | c :: rest =>
    if c.type = condType then
      { c with
        lastTransitionTime := if c.status ≠ status then now else c.lastTransitionTime
        status, reason, message
        observedGeneration := generation } :: rest
    else c :: withCondition condType status reason message now generation rest

/-! ## The two interfaces -/

/-- The calls of the Kubernetes client.  What `update` answers is the object as
    the server has stored it; the reconciler goes on with that. -/
inductive K8sCall where
  | get (key : NamespacedName)
  | update (vt : VolumeTransfer)
  | statusUpdate (vt : VolumeTransfer)
  deriving DecidableEq

/-- `get` answers `none` for the NotFound error, which the reconciler ignores. -/
def K8sCall.Ans : K8sCall → Type
  | .get _ => Except Err (Option VolumeTransfer)
  | .update _ => Except Err VolumeTransfer
  | .statusUpdate _ => Except Err Unit

/-- What one step of a reconciler can be. -/
abbrev ReconcilerOp : Type := K8sCall ⊕ Call

abbrev ReconcilerOp.Ans : ReconcilerOp → Type := Sum.elim K8sCall.Ans Call.Ans

/-- Code of the reconciler. -/
abbrev Reconciler (α : Type) : Type := Prog ReconcilerOp ReconcilerOp.Ans α

namespace Reconciler

def get (key : NamespacedName) : Reconciler (Except Err (Option VolumeTransfer)) :=
  .perform (Sum.inl (K8sCall.get key))

def update (vt : VolumeTransfer) : Reconciler (Except Err VolumeTransfer) :=
  .perform (Sum.inl (K8sCall.update vt))

def statusUpdate (vt : VolumeTransfer) : Reconciler (Except Err Unit) :=
  .perform (Sum.inl (K8sCall.statusUpdate vt))

end Reconciler

/-! ## Reconcile -/

/-- A `ctrl.Result`. -/
structure ReconcileResult where
  requeueAfter : Duration := 0
  deriving DecidableEq

def setCondition (vt : VolumeTransfer) (condType : String) (status : ConditionStatus)
    (reason message : String) : Reconciler VolumeTransfer := do
  let now ← Engine.timeNow.inr
  return { vt with
    status.conditions :=
      withCondition condType status reason message now vt.generation vt.status.conditions }

variable [UUIDText]

namespace Orchestrator

/-- The branch for an object under deletion. -/
def reconcileDeletion (o : Orchestrator) (vt : VolumeTransfer) :
    Reconciler (Except Err ReconcileResult) := do
  if vt.containsFinalizer finalizerName then
    if vt.status.transferID ≠ "" then
      match UUIDText.parse vt.status.transferID with
      | .error _ => pure ()
      | .ok transferID =>
        -- whatever the error is, it is only logged
        let _ ← (o.cancelTransfer transferID).inr
    match ← Reconciler.update (vt.removeFinalizer finalizerName) with
    | .error err => return .error err
    | .ok _ => return .ok {}
  else
    return .ok {}

/-- The branch for an object that names no transfer yet. -/
def reconcileCreate (o : Orchestrator) (vt : VolumeTransfer) :
    Reconciler (Except Err ReconcileResult) := do
  match ← (o.createTransfer vt.createRequest).inr with
  | .error err =>
    let vt ← setCondition vt "Ready" .false "CreateFailed" err
    let _ ← Reconciler.statusUpdate vt
    return .ok { requeueAfter := requeueDelay }
  | .ok resp =>
    let vt := { vt with
      status.transferID := resp.transferID.text
      status.phase := resp.state.text }
    let vt ← setCondition vt "Ready" .false "InProgress" "Transfer created"
    match ← Reconciler.statusUpdate vt with
    | .error err => return .error err
    | .ok () => return .ok { requeueAfter := requeueDelay }

/-- The Ready condition of an object whose transfer is in `state`. -/
def readyCondition (state : TransferState) : ConditionStatus × String :=
  match state with
  | .completed => (.true, "Completed")
  | .failed => (.false, "Failed")
  | .cancelled => (.false, "Cancelled")
  | _ => (.false, "InProgress")

/-- The branch for an object that names its transfer. -/
def reconcilePoll (vt : VolumeTransfer) : Reconciler (Except Err ReconcileResult) := do
  match UUIDText.parse vt.status.transferID with
  | .error err => return .error ("parsing transfer ID: " ++ err)
  | .ok transferID =>
  match ← (getTransfer transferID).inr with
  | .error _ => return .ok { requeueAfter := requeueDelay }
  | .ok none =>
    let vt ← setCondition vt "Ready" .false "NotFound" "Transfer not found"
    let _ ← Reconciler.statusUpdate vt
    return .ok { requeueAfter := requeueDelay }
  | .ok (some t) =>
  let vt := { vt with
    status.phase := t.state.text
    status.bytesTransferred := t.bytesTransferred
    status.bytesTotal := t.bytesTotal
    status.chunksCompleted := t.chunksCompleted
    status.chunksTotal := t.chunksTotal }
  let ready := readyCondition t.state
  let vt ← setCondition vt "Ready" ready.1 ready.2 ("Transfer " ++ t.state.text)
  match ← Reconciler.statusUpdate vt with
  | .error err => return .error err
  | .ok () =>
  if t.isTerminal then return .ok {}
  return .ok { requeueAfter := requeueDelay }

/-- An object that is not under deletion: add the finalizer if it is missing,
    then create or poll. -/
def reconcileLive (o : Orchestrator) (vt : VolumeTransfer) :
    Reconciler (Except Err ReconcileResult) := do
  let continue_ : VolumeTransfer → Reconciler (Except Err ReconcileResult) := fun vt =>
    if vt.status.transferID = "" then o.reconcileCreate vt else reconcilePoll vt
  if vt.containsFinalizer finalizerName then continue_ vt
  else
    match ← Reconciler.update (vt.addFinalizer finalizerName) with
    | .error err => return .error err
    | .ok vt => continue_ vt

/-- One round of the reconciliation loop. -/
def reconcile (o : Orchestrator) (req : NamespacedName) :
    Reconciler (Except Err ReconcileResult) := do
  match ← Reconciler.get req with
  | .error err => return .error err
  | .ok none => return .ok {}
  | .ok (some vt) =>
  if vt.deletionTimestamp.isSome then o.reconcileDeletion vt
  else o.reconcileLive vt

end Orchestrator

end Katapult
