/-
  Katapult.Controller.Projection

  The status of an object as a projection of the row of its transfer.

  The reconciler sets one condition in a list of conditions, so what it leaves
  alone, and that a second round changes nothing, are facts about setting an
  entry (`Keyed.upsert`).  A round over an object that names a stored transfer
  reads, projects and writes, and does nothing else (`projection_of_reconcile`).
-/

import Katapult.Controller.Contract
import Katapult.Keyed.Upsert

namespace Katapult

open Effect Effect.Prog Keyed

/-! ## Conditions -/

/-- A condition that is set, from the one of its type that is there. -/
def Condition.setOver (condType : String) (status : ConditionStatus) (reason message : String)
    (now : Time) (generation : Int) (old : Option Condition) : Condition where
  type := condType
  status := status
  reason := reason
  message := message
  lastTransitionTime := (old.filter (·.status = status)).elim now Condition.lastTransitionTime
  observedGeneration := generation

theorem withCondition_eq_upsert (condType : String) (status : ConditionStatus) (reason message : String)
    (now : Time) (generation : Int) (conditions : List Condition) :
    withCondition condType status reason message now generation conditions =
      upsert Condition.type condType
        (Condition.setOver condType status reason message now generation) conditions := by
  induction conditions with
  | nil => rfl
  | cons c rest ih =>
    by_cases htype : c.type = condType
    · rw [upsert_cons_of_eq htype, withCondition, if_pos htype]
      by_cases hstatus : c.status = status
      · simp [Condition.setOver, Option.filter, htype, hstatus]
      · simp [Condition.setOver, Option.filter, htype, hstatus]
    · rw [upsert_cons_of_ne htype, withCondition, if_neg htype, ih]

/-- The Ready condition of a status. -/
def VolumeTransferStatus.ready? (status : VolumeTransferStatus) : Option Condition :=
  status.conditions.find? fun c => c.type = "Ready"

namespace Transfer

variable (t : Transfer) (now : Time) (generation : Int)

/-- The Ready condition of an object with this transfer, from the one that is there. -/
def readyOver : Option Condition → Condition :=
  Condition.setOver "Ready" (Orchestrator.readyCondition t.state).1
    (Orchestrator.readyCondition t.state).2 ("Transfer " ++ t.state.text) now generation

/-- The status of an object with this transfer, from the one that is there. -/
def projectOver (status : VolumeTransferStatus) : VolumeTransferStatus :=
  { status with
    phase := t.state.text
    bytesTransferred := t.bytesTransferred
    bytesTotal := t.bytesTotal
    chunksCompleted := t.chunksCompleted
    chunksTotal := t.chunksTotal
    conditions := upsert Condition.type "Ready" (t.readyOver now generation) status.conditions }

theorem readyOver_type (old : Option Condition) : (t.readyOver now generation old).type = "Ready" := rfl

theorem ready?_projectOver (status : VolumeTransferStatus) :
    (t.projectOver now generation status).ready? = some (t.readyOver now generation status.ready?) :=
  find?_upsert (t.readyOver_type now generation) status.conditions

/-- The Ready condition is written with the time of its transition in whole seconds. -/
theorem written_readyOver (old : Option Condition) : (t.readyOver now generation old).written =
    t.readyOver (wholeSeconds now) generation (old.map Condition.written) := by
  cases old with
  | none => rfl
  | some c =>
    by_cases hstatus : c.status = (Orchestrator.readyCondition t.state).1
    · simp [readyOver, Condition.setOver, Condition.written, Option.filter, hstatus]
    · simp [readyOver, Condition.setOver, Condition.written, Option.filter, hstatus]

/-- So is the status, if nothing else in it is a time of its own. -/
theorem written_projectOver {status : VolumeTransferStatus} (hwritten : status.written = status) :
    (t.projectOver now generation status).written =
      t.projectOver (wholeSeconds now) generation status := by
  have hconditions : status.conditions.map Condition.written = status.conditions :=
    congrArg VolumeTransferStatus.conditions hwritten
  have hset : (upsert Condition.type "Ready" (t.readyOver now generation) status.conditions).map
      Condition.written =
        upsert Condition.type "Ready" (t.readyOver (wholeSeconds now) generation) status.conditions := by
    rw [map_upsert (by intro c; rfl) (t.written_readyOver now generation), hconditions]
  simp only [projectOver, VolumeTransferStatus.written, hset]

/-- Projected again, a row leaves its status alone, whatever the clock shows. -/
theorem projectOver_projectOver (later : Time) (status : VolumeTransferStatus) :
    t.projectOver later generation (t.projectOver now generation status) =
      t.projectOver now generation status := by
  have hset : ∀ old, t.readyOver later generation (some (t.readyOver now generation old)) =
      t.readyOver now generation old := by
    intro old
    simp [readyOver, Condition.setOver, Option.filter]
  unfold projectOver
  rw [upsert_upsert (t.readyOver_type now generation) hset]

end Transfer

/-! ## A status and its transfer -/

/-- The status `status'` shows the transfer `t`, and was `status` before the clock showed `now`. -/
structure Projects (t : Transfer) (now : Time) (status status' : VolumeTransferStatus) : Prop where
  transferID : status'.transferID = status.transferID
  phase : status'.phase = t.state.text
  bytesTransferred : status'.bytesTransferred = t.bytesTransferred
  bytesTotal : status'.bytesTotal = t.bytesTotal
  chunksCompleted : status'.chunksCompleted = t.chunksCompleted
  chunksTotal : status'.chunksTotal = t.chunksTotal
  ready : ∃ c', status'.ready? = some c' ∧ (c'.status = .true ↔ t.state = .completed) ∧
    (c'.status = .true ∨ c'.status = .false) ∧
    (t.state = .completed → c'.reason = "Completed") ∧ (t.state = .failed → c'.reason = "Failed") ∧
    (t.state = .cancelled → c'.reason = "Cancelled") ∧
    (t.isTerminal = false → c'.reason = "InProgress")
  distinct : (status'.conditions.map Condition.type).Nodup
  others : (status'.conditions.filter fun c => c.type ≠ "Ready") =
    status.conditions.filter fun c => c.type ≠ "Ready"
  stampedNew : status.ready? = none → ∀ c', status'.ready? = some c' → c'.lastTransitionTime = now
  stampedOld : ∀ c c', status.ready? = some c → status'.ready? = some c' →
    c'.lastTransitionTime = if c'.status = c.status then c.lastTransitionTime else now
  /-- Unless the clock stands where it stood at the last transition. -/
  restamped : ∀ c c', status.ready? = some c → status'.ready? = some c' → c.lastTransitionTime ≠ now →
    (c'.lastTransitionTime ≠ c.lastTransitionTime ↔ c'.status ≠ c.status)

theorem readyCondition_spec (state : TransferState) :
    ((Orchestrator.readyCondition state).1 = .true ↔ state = .completed) ∧
      ((Orchestrator.readyCondition state).1 = .true ∨ (Orchestrator.readyCondition state).1 = .false) ∧
      (state = .completed → (Orchestrator.readyCondition state).2 = "Completed") ∧
      (state = .failed → (Orchestrator.readyCondition state).2 = "Failed") ∧
      (state = .cancelled → (Orchestrator.readyCondition state).2 = "Cancelled") ∧
      (state.isTerminal = false → (Orchestrator.readyCondition state).2 = "InProgress") := by
  cases state <;> decide

/-- A condition that is there keeps its time with its status. -/
theorem Condition.lastTransitionTime_setOver (condType : String) (status : ConditionStatus)
    (reason message : String) (now : Time) (generation : Int) (c : Condition) :
    (setOver condType status reason message now generation (some c)).lastTransitionTime =
      if status = c.status then c.lastTransitionTime else now := by
  by_cases hstatus : c.status = status
  · simp [setOver, Option.filter, hstatus]
  · simp [setOver, Option.filter, hstatus, Ne.symm hstatus]

theorem projects_projectOver (t : Transfer) (now : Time) (generation : Int)
    {status : VolumeTransferStatus} (hdistinct : (status.conditions.map Condition.type).Nodup) :
    Projects t now status (t.projectOver now generation status) where
  transferID := rfl
  phase := rfl
  bytesTransferred := rfl
  bytesTotal := rfl
  chunksCompleted := rfl
  chunksTotal := rfl
  ready := ⟨_, t.ready?_projectOver now generation status, readyCondition_spec t.state⟩
  distinct := nodup_upsert (t.readyOver_type now generation) hdistinct
  others := filter_upsert (t.readyOver_type now generation) status.conditions
  stampedNew hnone c' hc' := by
    rw [t.ready?_projectOver, hnone] at hc'
    obtain rfl := Option.some.inj hc'
    rfl
  stampedOld c c' hc hc' := by
    rw [t.ready?_projectOver, hc] at hc'
    obtain rfl := Option.some.inj hc'
    exact Condition.lastTransitionTime_setOver ..
  restamped c c' hc hc' hclock := by
    rw [t.ready?_projectOver, hc] at hc'
    obtain rfl := Option.some.inj hc'
    rw [Transfer.readyOver, Condition.lastTransitionTime_setOver]
    show _ ↔ (Orchestrator.readyCondition t.state).1 ≠ c.status
    by_cases hstatus : (Orchestrator.readyCondition t.state).1 = c.status
    · simp [hstatus]
    · -- stamped with `now`, which is another time
      simp [hstatus, Ne.symm hclock]

/-! ## A round -/

/-- Two versions of an object, if nobody but the reconciler has changed it: the server numbers
    changes of the specification, and a deletion is asked for by others. -/
def VolumeTransfer.SameObject (vt vt' : VolumeTransfer) : Prop :=
  vt'.generation = vt.generation ∧ vt'.deletionTimestamp = vt.deletionTimestamp

/-- The call succeeds, and nobody else changes the object around it. -/
def Unhindered (api : ApiServer) (c : api.Choice × Env) : ReconcilerOp → api.State × Store → Prop
  | .inl (.get key), s =>
      (api.exec c.1 (.get key) s.1).1 = .ok (api.object s.1) ∧
        api.object (api.exec c.1 (.get key) s.1).2 = api.object s.1
  | .inl (.update sent), s => ∃ vt vt', api.object s.1 = some vt ∧
      (api.exec c.1 (.update sent) s.1).1 = .ok vt' ∧
        api.object (api.exec c.1 (.update sent) s.1).2 = some vt' ∧
          (sent.spec = vt.spec → vt.SameObject vt')
  | .inl (.statusUpdate sent), s => ∃ vt vt', api.object s.1 = some vt ∧
      (api.exec c.1 (.statusUpdate sent) s.1).1 = .ok () ∧
        api.object (api.exec c.1 (.statusUpdate sent) s.1).2 = some vt' ∧ vt.SameObject vt'
  | .inr _, _ => c.2.fail = none

/-- The calls of a round over an object that names the transfer `id`. -/
def VolumeTransfer.roundCalls (vt : VolumeTransfer) (key : NamespacedName) (id : UUID)
    (sent : VolumeTransfer) : List ReconcilerOp :=
  .inl (.get key) ::
    (if vt.containsFinalizer finalizerName then []
      else [.inl (.update (vt.addFinalizer finalizerName))]) ++
      [.inr (.repo (.getTransferByID id)), .inr .timeNow, .inl (.statusUpdate sent)]

theorem VolumeTransfer.spec_addFinalizer (vt : VolumeTransfer) (finalizer : String) :
    (vt.addFinalizer finalizer).spec = vt.spec := by
  unfold addFinalizer
  split <;> rfl

section Round

variable {api : ApiServer} {h : List (Ev ReconcilerOp ReconcilerOp.Ans)} {s : api.State × Store}
variable {α : Type} {Q : α → List (Ev ReconcilerOp ReconcilerOp.Ans) → api.State × Store → Prop}

theorem wp_get {key : NamespacedName} {f : Except Err (Option VolumeTransfer) → Reconciler α}
    (hf : ∀ s', api.object s'.1 = api.object s.1 → s'.2 = s.2 →
      wp (api.exec.sum exec) (Unhindered api) (f (.ok (api.object s.1))) Q
        (h ++ [⟨.inl (.get key), .ok (api.object s.1)⟩]) s') :
    wp (api.exec.sum exec) (Unhindered api) (Reconciler.get key >>= f) Q h s := by
  apply wp_perform
  rintro c ⟨hanswer, hobject⟩
  simp only [Machine.sum]
  rw [hanswer]
  exact hf _ hobject rfl

theorem wp_update {sent : VolumeTransfer} {f : Except Err VolumeTransfer → Reconciler α}
    (hf : ∀ vt vt' s', api.object s.1 = some vt → api.object s'.1 = some vt' → s'.2 = s.2 →
      vt'.status = vt.status → (sent.spec = vt.spec → vt.SameObject vt') →
      wp (api.exec.sum exec) (Unhindered api) (f (.ok vt')) Q
        (h ++ [⟨.inl (.update sent), .ok vt'⟩]) s') :
    wp (api.exec.sum exec) (Unhindered api) (Reconciler.update sent >>= f) Q h s := by
  apply wp_perform
  rintro c ⟨vt, vt', hvt, hanswer, hobject, hsame⟩
  obtain ⟨-, stored, hstored, hstatus⟩ := api.update_ok c.1 sent s.1 vt' hanswer
  obtain rfl := Option.some.inj (hvt.symm.trans hstored)
  simp only [Machine.sum]
  rw [hanswer]
  exact hf vt vt' _ hvt hobject rfl hstatus hsame

theorem wp_statusUpdate {sent : VolumeTransfer} {f : Except Err Unit → Reconciler α}
    (hf : ∀ vt vt' s', api.object s.1 = some vt → api.object s'.1 = some vt' → s'.2 = s.2 →
      vt'.status = sent.status.written → vt.SameObject vt' →
      wp (api.exec.sum exec) (Unhindered api) (f (.ok ())) Q
        (h ++ [⟨.inl (.statusUpdate sent), .ok ()⟩]) s') :
    wp (api.exec.sum exec) (Unhindered api) (Reconciler.statusUpdate sent >>= f) Q h s := by
  apply wp_perform
  rintro c ⟨vt, vt', hvt, hanswer, hobject, hsame⟩
  have hstatus := api.statusUpdate_ok c.1 sent s.1 vt' hanswer hobject
  simp only [Machine.sum]
  rw [hanswer]
  exact hf vt vt' _ hvt hobject rfl hstatus hsame

theorem wp_setCondition {vt : VolumeTransfer} {condType reason message : String}
    {status : ConditionStatus} {f : VolumeTransfer → Reconciler α}
    (hf : ∀ now, wp (api.exec.sum exec) (Unhindered api)
      (f { vt with
        status.conditions :=
          withCondition condType status reason message now vt.generation vt.status.conditions })
      Q (h ++ [⟨.inr .timeNow, now⟩]) s) :
    wp (api.exec.sum exec) (Unhindered api)
      (setCondition vt condType status reason message >>= f) Q h s := by
  intro clock _
  exact hf clock.2.now

theorem wp_getTransfer {id : UUID} {f : Except Err (Option Transfer) → Reconciler α}
    (hf : wp (api.exec.sum exec) (Unhindered api) (f (.ok (s.2.row id))) Q
      (h ++ [⟨.inr (.repo (.getTransferByID id)), .ok (s.2.row id)⟩]) s) :
    wp (api.exec.sum exec) (Unhindered api) ((Orchestrator.getTransfer id).inr >>= f) Q h s := by
  intro read hread
  have hanswer : read.2.answer (s.2.row id) = .ok (s.2.row id) := Env.answer_of_ok hread _
  simp only [Machine.sum, exec, execRepo, hanswer]
  exact hf

variable [UUIDText] {vt : VolumeTransfer} {t : Transfer} {id : UUID}

/-- Where a round over an object with the transfer `t` ends. -/
structure RoundEnds (api : ApiServer) (t : Transfer) (vt : VolumeTransfer) (now : Time)
    (s s' : api.State × Store) (r : Except Err ReconcileResult) : Prop where
  object : ∃ vt', api.object s'.1 = some vt' ∧
    vt'.status = t.projectOver (wholeSeconds now) vt.generation vt.status ∧ vt.SameObject vt'
  store : s'.2 = s.2
  result : r = .ok { requeueAfter := if t.isTerminal then 0 else requeueDelay }

theorem wp_reconcilePoll (hparse : UUIDText.parse vt.status.transferID = .ok id)
    (hrow : s.2.row id = some t) (hwritten : vt.status.written = vt.status)
    {stored : VolumeTransfer} (hstored : api.object s.1 = some stored) (hsame : vt.SameObject stored) :
    wp (api.exec.sum exec) (Unhindered api) (Orchestrator.reconcilePoll vt)
      (fun r h' s' => ∃ now sent, RoundEnds api t vt now s s' r ∧
        h' = h ++ [⟨.inr (.repo (.getTransferByID id)), .ok (some t)⟩, ⟨.inr .timeNow, now⟩,
          ⟨.inl (.statusUpdate sent), .ok ()⟩]) h s := by
  unfold Orchestrator.reconcilePoll
  rw [hparse]
  apply wp_getTransfer
  rw [hrow]
  apply wp_setCondition
  intro now
  apply wp_statusUpdate
  intro stored' vt' s' hstored' hobject hstore hstatus hsame'
  obtain rfl := Option.some.inj (hstored.symm.trans hstored')
  -- both ends of the program return after the same write of the status
  have hends : ∀ r, r = .ok { requeueAfter := if t.isTerminal then 0 else requeueDelay } →
      RoundEnds api t vt now s s' r := by
    intro r hr
    refine ⟨⟨vt', hobject, ?_, hsame'.1.trans hsame.1, hsame'.2.trans hsame.2⟩, hstore, hr⟩
    rw [hstatus, withCondition_eq_upsert, ← t.written_projectOver now vt.generation hwritten]
    rfl
  by_cases hterminal : t.isTerminal
  · rw [if_pos hterminal] at hends ⊢
    exact ⟨now, _, hends _ rfl, (List.append_assoc ..).trans (List.append_assoc ..)⟩
  · rw [if_neg hterminal] at hends ⊢
    exact ⟨now, _, hends _ rfl, (List.append_assoc ..).trans (List.append_assoc ..)⟩

theorem wp_reconcile (o : Orchestrator) (key : NamespacedName) (hobject : api.object s.1 = some vt)
    (hwritten : vt.status.written = vt.status) (hlive : vt.deletionTimestamp = none)
    (hnamed : vt.status.transferID ≠ "") (hparse : UUIDText.parse vt.status.transferID = .ok id)
    (hrow : s.2.row id = some t) :
    wp (api.exec.sum exec) (Unhindered api) (o.reconcile key)
      (fun r h' s' => ∃ now sent, RoundEnds api t vt now s s' r ∧
        h'.map Sigma.fst = h.map Sigma.fst ++ vt.roundCalls key id sent ∧
        ⟨.inr .timeNow, now⟩ ∈ h') h s := by
  unfold Orchestrator.reconcile
  apply wp_get
  intro s₁ hobject₁ hstore₁
  rw [hobject]
  dsimp only
  rw [if_neg (by simp [hlive])]
  unfold Orchestrator.reconcileLive
  by_cases hfinalizer : vt.containsFinalizer finalizerName
  · -- the round of an object that has been seen before
    rw [if_pos hfinalizer]
    dsimp only
    rw [if_neg hnamed]
    apply wp_mono (wp_reconcilePoll hparse (hstore₁ ▸ hrow) hwritten (hobject₁.trans hobject) ⟨rfl, rfl⟩)
    rintro r _ s' ⟨now, sent, hends, rfl⟩
    refine ⟨now, sent, ⟨hends.object, hends.store.trans hstore₁, hends.result⟩, ?_, by simp⟩
    simp [VolumeTransfer.roundCalls, hfinalizer]
  · rw [if_neg hfinalizer]
    apply wp_update
    -- the server hands back the object with the stored status, and under its generation
    intro vt₁ vt₂ s₂ hobject₂ hobject₃ hstore₂ hstatus hsame
    obtain rfl := Option.some.inj ((hobject₁.trans hobject).symm.trans hobject₂)
    have hsame := hsame (vt.spec_addFinalizer finalizerName)
    dsimp only
    rw [if_neg (by rw [hstatus]; exact hnamed)]
    apply wp_mono
      (wp_reconcilePoll (hstatus ▸ hparse) (hstore₂ ▸ hstore₁ ▸ hrow) (hstatus ▸ hwritten) hobject₃
        ⟨rfl, rfl⟩)
    rintro r _ s' ⟨now, sent, ⟨⟨vt', hvt', hprojected, hsame'⟩, hstore, hresult⟩, rfl⟩
    rw [hsame.1, hstatus] at hprojected
    refine ⟨now, sent, ⟨⟨vt', hvt', hprojected, hsame'.1.trans hsame.1, hsame'.2.trans hsame.2⟩,
      hstore.trans (hstore₂.trans hstore₁), hresult⟩, ?_, by simp⟩
    simp [VolumeTransfer.roundCalls, hfinalizer]

end Round

/-- Of an object that is not under deletion and names a stored transfer, a round in which every
    call succeeds projects the row, is queued again while the transfer is open, and makes no other
    call; the next one leaves the status as it is.  The times of the object are whole seconds, as
    the server has written them. -/
theorem projection_of_reconcile [UUIDText] {api : ApiServer} {o : Orchestrator} {key : NamespacedName}
    {vt : VolumeTransfer} {t : Transfer} {id : UUID} {s s' : api.State × Store}
    {tr : List (Ev ReconcilerOp ReconcilerOp.Ans)} {r : Except Err ReconcileResult}
    (hobject : api.object s.1 = some vt) (hwritten : vt.status.written = vt.status)
    (hlive : vt.deletionTimestamp = none)
    (hdistinct : (vt.status.conditions.map Condition.type).Nodup) (hnamed : vt.status.transferID ≠ "")
    (hparse : UUIDText.parse vt.status.transferID = .ok id) (hrow : s.2.row id = some t)
    (hrun : Exec (api.exec.sum exec) (Unhindered api) (o.reconcile key) s tr r s') :
    ∃ now sent vt' result, tr.map Sigma.fst = vt.roundCalls key id sent ∧ ⟨.inr .timeNow, now⟩ ∈ tr ∧
      api.object s'.1 = some vt' ∧ Projects t (wholeSeconds now) vt.status vt'.status ∧ s'.2 = s.2 ∧
      r = .ok result ∧ (0 < result.requeueAfter ↔ t.isTerminal = false) ∧
      ∀ s₁ tr₁ r₁ s₁', api.object s₁.1 = some vt' → s₁.2.row id = some t →
        Exec (api.exec.sum exec) (Unhindered api) (o.reconcile key) s₁ tr₁ r₁ s₁' →
        ∃ vt₁, api.object s₁'.1 = some vt₁ ∧ vt₁.status = vt'.status := by
  obtain ⟨now, sent, ⟨⟨vt', hobject', hstatus, hsame⟩, hstore, hresult⟩, hcalls, hclock⟩ :=
    wp_sound (wp_reconcile (h := []) o key hobject hwritten hlive hnamed hparse hrow) hrun
  have hprojects := projects_projectOver t (wholeSeconds now) vt.generation hdistinct
  refine ⟨now, sent, vt', _, hcalls, hclock, hobject', hstatus ▸ hprojects, hstore, hresult, ?_, ?_⟩
  · cases hterminal : t.isTerminal
    · decide
    · decide
  · -- the hypotheses hold again, of the object that the first round has left
    intro s₁ tr₁ r₁ s₁' hobject₁ hrow₁ hagain
    have hlive' : vt'.deletionTimestamp = none := hsame.2.trans hlive
    have hid : vt'.status.transferID = vt.status.transferID := by
      rw [hstatus]
      exact hprojects.transferID
    have hwritten' : vt'.status.written = vt'.status := by
      rw [hstatus, t.written_projectOver _ _ hwritten, wholeSeconds_wholeSeconds]
    obtain ⟨later, -, ⟨⟨vt₁, hvt₁, hstatus₁, -⟩, -, -⟩, -, -⟩ :=
      wp_sound (wp_reconcile (h := []) o key hobject₁ hwritten' hlive' (hid ▸ hnamed) (hid ▸ hparse)
        hrow₁) hagain
    refine ⟨vt₁, hvt₁, ?_⟩
    rw [hstatus₁, hsame.1, hstatus, Transfer.projectOver_projectOver]

/-- A transfer that has ended. -/
def endedTransfer : Transfer where
  id := 9
  sourceCluster := "east"
  sourcePVC := "apps/data"
  destinationCluster := "west"
  destinationPVC := "apps/data"
  state := .completed
  allowOverwrite := false
  bytesTransferred := 100
  bytesTotal := 100
  retryMax := 3
  createdBy := sampleVolumeTransfer.key.createdBy
  createdAt := 0

def endedStore : Store where
  transfers := ⟨[endedTransfer], List.nodup_singleton _⟩
  events := .empty
  fk := by simp [Table.empty]

/-- The object of the transfer, still without its finalizer, and not ready for two seconds. -/
def endedVolumeTransfer : VolumeTransfer :=
  { sampleVolumeTransfer with
    status.transferID := @UUID.text canonicalText 9
    status.phase := "transferring"
    status.conditions :=
      [⟨"Paused", .unknown, "", "", second, 1⟩, ⟨"Ready", .false, "InProgress", "", 2 * second, 1⟩] }

/-- A call of the sample server that is based on the stored object succeeds when the connection
    holds, and when nobody has asked for a deletion. -/
def Calm (c : K8sEnv × Env) : ReconcilerOp → Option VolumeTransfer × Store → Prop
  | .inl (.get _), _ => c.1.fail = none ∧ c.1.deletion = none
  | .inl (.update sent), s | .inl (.statusUpdate sent), s => c.1.fail = none ∧ c.1.deletion = none ∧
      s.1.any fun vt => sent.key = vt.key ∧ sent.resourceVersion = vt.resourceVersion ∧
        sent.generation = vt.generation ∧ vt.deletionTimestamp = none
  | .inr _, _ => c.2.fail = none

instance (c : K8sEnv × Env) (op : ReconcilerOp) (s : Option VolumeTransfer × Store) :
    Decidable (Calm c op s) :=
  match op with
  | .inl (.get _) => inferInstanceAs (Decidable (_ ∧ _))
  | .inl (.update _) => inferInstanceAs (Decidable (_ ∧ _))
  | .inl (.statusUpdate _) => inferInstanceAs (Decidable (_ ∧ _))
  | .inr _ => inferInstanceAs (Decidable (_ = _))

theorem unhindered_of_calm (c : K8sEnv × Env) (op : ReconcilerOp) (s : Option VolumeTransfer × Store)
    (h : Calm c op s) : Unhindered sampleServer c op s := by
  obtain ⟨⟨fail, deletion⟩, env⟩ := c
  obtain ⟨stored, store⟩ := s
  cases op with
  | inr op => exact h
  | inl op =>
    cases op with
    | get key =>
      obtain ⟨rfl, rfl⟩ := h
      exact ⟨rfl, rfl⟩
    | update sent =>
      obtain ⟨rfl, rfl, hbased⟩ := h
      obtain ⟨vt, rfl, hbased⟩ := (Option.any_eq_true _ _).mp hbased
      obtain ⟨hkey, hversion, hgeneration, hlive⟩ := of_decide_eq_true hbased
      have hupdate : execK8s {} (.update sent) (some vt) =
          (.ok (vt.updated sent), some (vt.updated sent)) := by
        simp only [execK8s, K8sEnv.write, K8sEnv.observe, hkey, hversion, hlive, and_self, if_true,
          Option.isSome_none, Bool.false_eq_true, false_and, if_false]
        rfl
      refine ⟨vt, vt.updated sent, rfl, ?_, ?_, fun _ => ⟨hgeneration, rfl⟩⟩
      · exact congrArg Prod.fst hupdate
      · exact congrArg Prod.snd hupdate
    | statusUpdate sent =>
      -- the status is stored as it is written, in whole seconds
      obtain ⟨rfl, rfl, hbased⟩ := h
      obtain ⟨vt, rfl, hbased⟩ := (Option.any_eq_true _ _).mp hbased
      obtain ⟨hkey, hversion, -⟩ := of_decide_eq_true hbased
      have hupdate : execK8s {} (.statusUpdate sent) (some vt) =
          (.ok (), some { vt with
            resourceVersion := vt.resourceVersion + 1
            status := sent.status.written }) := by
        simp only [execK8s, K8sEnv.write, K8sEnv.observe, hkey, hversion, and_self, if_true]
        rfl
      exact ⟨vt, _, rfl, congrArg Prod.fst hupdate, congrArg Prod.snd hupdate, rfl, rfl⟩

/-- A round over the object, with the clock at `now`. -/
def endedRound (now : Time) :
    Option (Except Err ReconcileResult × List (Ev ReconcilerOp ReconcilerOp.Ans) ×
      (Option VolumeTransfer × Store)) :=
  eval (execK8s.sum exec) Calm
    (@Orchestrator.reconcile canonicalText plainOrchestrator sampleVolumeTransfer.key)
    (some endedVolumeTransfer, endedStore) (List.replicate 5 ({}, { now }))

theorem projection_endedTransfer :
    ∃ tr r s' now vt', Exec (sampleServer.exec.sum exec) (Unhindered sampleServer)
        (@Orchestrator.reconcile canonicalText plainOrchestrator sampleVolumeTransfer.key)
        (some endedVolumeTransfer, endedStore) tr r s' ∧
      s'.1 = some vt' ∧
      Projects endedTransfer (wholeSeconds now) endedVolumeTransfer.status vt'.status := by
  have heval : (endedRound (7 * second)).isSome := by decide +kernel
  obtain ⟨out, hout⟩ := Option.isSome_iff_exists.mp heval
  have hrun := (exec_of_eval hout).mono unhindered_of_calm
  have hobject : sampleServer.object (some endedVolumeTransfer, endedStore).1 =
      some endedVolumeTransfer := rfl
  have hwritten : endedVolumeTransfer.status.written = endedVolumeTransfer.status := by decide
  have hdistinct : (endedVolumeTransfer.status.conditions.map Condition.type).Nodup := by decide
  have hrow : endedStore.row 9 = some endedTransfer := by decide
  obtain ⟨now, _, vt', _, -, -, hvt', hprojects, -⟩ :=
    @projection_of_reconcile canonicalText sampleServer plainOrchestrator sampleVolumeTransfer.key
      endedVolumeTransfer endedTransfer 9 _ _ _ _ hobject hwritten rfl hdistinct
      (@UUID.text_ne_empty canonicalText 9) (@UUID.parse_text canonicalText 9) hrow hrun
  exact ⟨_, _, _, now, vt', hrun, hvt', hprojects⟩

/-- The object becomes ready half a second after it had become unready: its last
    transition is stored with the same time. -/
theorem not_restamped_withinSecond :
    ¬ ∀ (api : ApiServer) (o : Orchestrator) (key : NamespacedName) (vt vt' : VolumeTransfer)
        (s s' : api.State × Store) (tr : List (Ev ReconcilerOp ReconcilerOp.Ans))
        (r : Except Err ReconcileResult),
      api.object s.1 = some vt → vt.status.written = vt.status → vt.deletionTimestamp = none →
      Exec (api.exec.sum exec) (Unhindered api) (@Orchestrator.reconcile canonicalText o key) s tr r s' →
      api.object s'.1 = some vt' →
      ∀ c c', vt.status.ready? = some c → vt'.status.ready? = some c' →
        (c'.lastTransitionTime ≠ c.lastTransitionTime ↔ c'.status ≠ c.status) := by
  intro hall
  have hend : (endedRound (5 * second / 2)).any fun out => out.2.2.1.any fun vt' =>
      vt'.status.ready?.any fun c' => c'.status = .true ∧ c'.lastTransitionTime = 2 * second := by
    decide +kernel
  obtain ⟨⟨r, tr, s'⟩, hout, hobject⟩ := (Option.any_eq_true _ _).mp hend
  obtain ⟨vt', hvt', hready⟩ := (Option.any_eq_true _ _).mp hobject
  obtain ⟨c', hc', hstamped⟩ := (Option.any_eq_true _ _).mp hready
  obtain ⟨htrue, htime⟩ := of_decide_eq_true hstamped
  have hrun := (exec_of_eval hout).mono unhindered_of_calm
  have hiff := hall sampleServer plainOrchestrator _ endedVolumeTransfer vt'
    (some endedVolumeTransfer, endedStore) s' tr r rfl (by decide) rfl hrun hvt' _ c' rfl hc'
  refine hiff.mpr ?_ htime
  rw [htrue]
  decide

end Katapult
