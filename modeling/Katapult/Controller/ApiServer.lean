/-
  Katapult.Controller.ApiServer

  The API server behind the reconciler's client, as far as the runs on one
  object depend on it.  It is a parameter: any machine that keeps the status
  subresource apart from the rest of the object will do.  What other clients do
  to the object between two calls of the reconciler (edits, a deletion) is part
  of the next call.
-/

import Katapult.Controller.VolumeTransfer
import Katapult.Transfer.Ownership

namespace Katapult

open Effect

/-! ## Times -/

/-- A time as `metav1.Time` is written: in whole seconds. -/
def wholeSeconds (t : Time) : Time := t / second * second

theorem wholeSeconds_wholeSeconds (t : Time) : wholeSeconds (wholeSeconds t) = wholeSeconds t := by
  unfold wholeSeconds
  rw [Int.mul_ediv_cancel _ (by decide)]

def Condition.written (c : Condition) : Condition :=
  { c with lastTransitionTime := wholeSeconds c.lastTransitionTime }

/-- A status as it is sent, stored and read back. -/
def VolumeTransferStatus.written (status : VolumeTransferStatus) : VolumeTransferStatus :=
  { status with conditions := status.conditions.map Condition.written }

/-! ## The server -/

/-- An API server, for one object. -/
structure ApiServer where
  State : Type
  Choice : Type
  exec : Machine K8sCall K8sCall.Ans State Choice
  /-- The stored object; once it is gone it is gone for good. -/
  object : State → Option VolumeTransfer
  /-- An object keeps its name, and its status unless that is what is written. -/
  persists : ∀ c op s vt', object (exec c op s).2 = some vt' → ∃ vt, object s = some vt ∧
    vt'.key = vt.key ∧ ((∀ sent, op ≠ .statusUpdate sent) → vt'.status = vt.status)
  /-- What an update answers has the stored status, not the one that was sent. -/
  update_ok : ∀ c sent s vt', (exec c (.update sent) s).1 = .ok vt' → vt'.key = sent.key ∧
    ∃ vt, object s = some vt ∧ vt'.status = vt.status
  statusUpdate_ok : ∀ c sent s vt', (exec c (.statusUpdate sent) s).1 = .ok () →
    object (exec c (.statusUpdate sent) s).2 = some vt' → vt'.status = sent.status.written
  /-- A status update that fails leaves the stored status alone. -/
  statusUpdate_error : ∀ c sent s err vt vt', (exec c (.statusUpdate sent) s).1 = .error err →
    object s = some vt → object (exec c (.statusUpdate sent) s).2 = some vt' →
    vt'.status = vt.status

/-! ## What has to go right -/

/-- The step strands no transfer of `owner`: the object is read as it is stored,
    the identifier of a transfer in flight gets stored, and no UPDATE of a
    creation fails on a row in flight. -/
def Remembers [UUIDText] (api : ApiServer) (owner : String) (c : api.Choice × Env) :
    ReconcilerOp → api.State × Store → Prop
  | .inl (.get key), s => ∀ vt, (api.exec c.1 (.get key) s.1).1 = .ok (some vt) →
      api.object (api.exec c.1 (.get key) s.1).2 = some vt
  | .inl (.update _), _ => True
  | .inl (.statusUpdate sent), s =>
      ∀ err, (api.exec c.1 (.statusUpdate sent) s.1).1 = .error err →
        ∀ vt, api.object s.1 = some vt → vt.status.transferID ≠ sent.status.transferID →
          ∀ id, s.2.Active owner id → sent.status.transferID ≠ id.text
  | .inr op, s => ∀ id, op.advances = some id → c.2.fail ≠ none → ¬ s.2.Active owner id

/-- While the object is under deletion, no transfer of `owner` in flight is kept
    from being read, or from being made cancelled. -/
def CancelsLand (api : ApiServer) (owner : String) (c : api.Choice × Env) :
    ReconcilerOp → api.State × Store → Prop
  | .inl _, _ => True
  | .inr op, s =>
      (∃ vt, api.object s.1 = some vt ∧ vt.deletionTimestamp.isSome = true) →
        ∀ id, op.cancels = some id → c.2.fail ≠ none → ¬ s.2.Active owner id

/-! ## The reconciler among other requests -/

/-- The reconciliation of one object, queued `n` times, next to any family of
    requests to the same engine. -/
def Orchestrator.reconciling [UUIDText] {ι : Type} (o : Orchestrator) (key : NamespacedName)
    (n : Nat) (others : ι → Request) : Option ι → Reconciler Unit
  | none => (o.reconcile key).times n
  | some i => do
    let _ ← (o.serve (others i)).inr
    return ()

/-- The request creates a transfer in the name of `owner`. -/
def Request.CreatesFor (owner : String) : Request → Prop
  | .createTransfer req => req.createdBy = owner
  | .cancelTransfer _ | .handleProgress _ => False

/-- The object is new: its status names no transfer, and nothing is in flight for it. -/
structure Unserved (api : ApiServer) (key : NamespacedName) (s : api.State × Store) : Prop where
  unnamed : ∀ vt, api.object s.1 = some vt → vt.key = key ∧ vt.status.transferID = ""
  quiet : ∀ id, ¬ s.2.Active key.createdBy id

/-! ## A concrete server -/

/-- What the environment of one call decides: does it fail, and has someone
    asked for the deletion of the object before it. -/
structure K8sEnv where
  fail : Option Err := none
  deletion : Option Time := none

/-- The object as the next call finds it. -/
def K8sEnv.observe (env : K8sEnv) (stored : Option VolumeTransfer) : Option VolumeTransfer :=
  match env.deletion with
  | none => stored
  | some t => stored.map fun vt =>
      { vt with deletionTimestamp := some (vt.deletionTimestamp.getD t) }

/-- A write, refused when it is based on another version of the object. -/
def K8sEnv.write {α : Type} (env : K8sEnv) (stored : Option VolumeTransfer) (sent : VolumeTransfer)
    (apply : VolumeTransfer → α × Option VolumeTransfer) : Except Err α × Option VolumeTransfer :=
  match env.fail with
  | some err => (.error err, env.observe stored)
  | none =>
    match env.observe stored with
    | none => (.error "not found", none)
    | some vt =>
      if sent.key = vt.key ∧ sent.resourceVersion = vt.resourceVersion then
        (.ok (apply vt).1, (apply vt).2)
      else (.error "the object has been modified", some vt)

/-- The object as an update leaves it. -/
def VolumeTransfer.updated (vt sent : VolumeTransfer) : VolumeTransfer :=
  { sent with
    resourceVersion := vt.resourceVersion + 1
    deletionTimestamp := vt.deletionTimestamp
    status := vt.status
    key := vt.key }

/-- The server that stores the object, numbers its versions, and drops an object
    under deletion when its last finalizer goes. -/
def execK8s : Machine K8sCall K8sCall.Ans (Option VolumeTransfer) K8sEnv
  | env, .get _, s =>
    match env.fail with
    | some err => (.error err, env.observe s)
    | none => (.ok (env.observe s), env.observe s)
  | env, .update sent, s => env.write s sent fun vt =>
      (vt.updated sent,
        if vt.deletionTimestamp.isSome ∧ sent.finalizers = [] then none else some (vt.updated sent))
  | env, .statusUpdate sent, s => env.write s sent fun vt =>
      ((), some { vt with resourceVersion := vt.resourceVersion + 1, status := sent.status.written })

theorem K8sEnv.observe_eq_some {env : K8sEnv} {stored : Option VolumeTransfer}
    {vt' : VolumeTransfer} (h : env.observe stored = some vt') :
    ∃ vt, stored = some vt ∧ vt'.key = vt.key ∧ vt'.status = vt.status := by
  unfold observe at h
  split at h
  · exact ⟨vt', h, rfl, rfl⟩
  · obtain ⟨vt, hvt, rfl⟩ := Option.map_eq_some_iff.mp h
    exact ⟨vt, hvt, rfl, rfl⟩

/-- A write is refused, or applied to the object it names. -/
theorem K8sEnv.write_cases {α : Type} (env : K8sEnv) (stored : Option VolumeTransfer)
    (sent : VolumeTransfer) (apply : VolumeTransfer → α × Option VolumeTransfer) :
    (∃ err, env.write stored sent apply = (.error err, env.observe stored)) ∨
    ∃ vt, env.observe stored = some vt ∧ sent.key = vt.key ∧
      env.write stored sent apply = (.ok (apply vt).1, (apply vt).2) := by
  unfold write
  split
  · exact .inl ⟨_, rfl⟩
  split
  · rename_i hnone
    exact .inl ⟨_, by rw [hnone]⟩
  rename_i vt hsome
  split
  · rename_i hsame
    exact .inr ⟨vt, hsome, hsame.1, rfl⟩
  · exact .inl ⟨_, by rw [hsome]⟩

/-- The concrete server is one of those the results are about. -/
def sampleServer : ApiServer where
  State := Option VolumeTransfer
  Choice := K8sEnv
  exec := execK8s
  object stored := stored
  persists := by
    intro env op s vt' h
    cases op with
    | get key =>
      have hstored : env.observe s = some vt' := by
        simp only [execK8s] at h
        split at h <;> exact h
      obtain ⟨vt, hvt, hkey, hstatus⟩ := K8sEnv.observe_eq_some hstored
      exact ⟨vt, hvt, hkey, fun _ => hstatus⟩
    | update sent =>
      simp only [execK8s] at h
      rcases env.write_cases s sent _ with ⟨err, hwrite⟩ | ⟨stored, hstored, -, hwrite⟩
      · rw [hwrite] at h
        obtain ⟨vt, hvt, hkey, hstatus⟩ := K8sEnv.observe_eq_some h
        exact ⟨vt, hvt, hkey, fun _ => hstatus⟩
      · rw [hwrite] at h
        obtain ⟨vt, hvt, hkey, hstatus⟩ := K8sEnv.observe_eq_some hstored
        refine ⟨vt, hvt, ?_⟩
        dsimp only at h
        split at h
        · cases h
        · cases h
          exact ⟨hkey, fun _ => hstatus⟩
    | statusUpdate sent =>
      simp only [execK8s] at h
      rcases env.write_cases s sent _ with ⟨err, hwrite⟩ | ⟨stored, hstored, -, hwrite⟩
      · rw [hwrite] at h
        obtain ⟨vt, hvt, hkey, hstatus⟩ := K8sEnv.observe_eq_some h
        exact ⟨vt, hvt, hkey, fun _ => hstatus⟩
      · rw [hwrite] at h
        obtain ⟨vt, hvt, hkey, -⟩ := K8sEnv.observe_eq_some hstored
        cases h
        exact ⟨vt, hvt, hkey, fun hne => absurd rfl (hne sent)⟩
  update_ok := by
    intro env sent s vt' h
    simp only [execK8s] at h
    rcases env.write_cases s sent _ with ⟨err, hwrite⟩ | ⟨stored, hstored, hkey, hwrite⟩
    · rw [hwrite] at h
      cases h
    · rw [hwrite] at h
      cases h
      obtain ⟨vt, hvt, -, hstatus⟩ := K8sEnv.observe_eq_some hstored
      exact ⟨hkey.symm, vt, hvt, hstatus⟩
  statusUpdate_ok := by
    intro env sent s vt' h h'
    simp only [execK8s] at h h'
    rcases env.write_cases s sent _ with ⟨err, hwrite⟩ | ⟨stored, hstored, -, hwrite⟩
    · rw [hwrite] at h
      cases h
    · rw [hwrite] at h'
      cases h'
      rfl
  statusUpdate_error := by
    intro env sent s err vt vt' h hvt h'
    simp only [execK8s] at h h'
    rcases env.write_cases s sent _ with ⟨err', hwrite⟩ | ⟨stored, hstored, -, hwrite⟩
    · rw [hwrite] at h'
      obtain ⟨vt₁, hvt₁, -, hstatus⟩ := K8sEnv.observe_eq_some h'
      rw [hvt] at hvt₁
      cases hvt₁
      exact hstatus
    · rw [hwrite] at h
      cases h

end Katapult
