/-
  Katapult.Controller.Contract

  The two promises of the reconciler over whole runs: an object has at most one
  transfer in flight, and it is let go only when it has none.  Both rest on the
  identifier in the status.  The status is written after the transfer has been
  created, in another store, so a lost status update breaks them; so does an
  error of a cancellation, which is logged and forgotten.
-/

import Katapult.Controller.Reconciliation

namespace Katapult

open Effect

section Contract

variable {κ : Type} [DecidableEq κ]

/-- Over all runs with steps in `ok`, `owner` has at most one transfer in flight. -/
def AtMostOneTransfer (api : ApiServer) (owner : String)
    (ok : κ → api.Choice × Env → ReconcilerOp → api.State × Store → Prop)
    (cfg₀ : Config ReconcilerOp ReconcilerOp.Ans Unit κ (api.State × Store)) : Prop :=
  ∀ {tr cfg}, Run (api.exec.sum exec) ok cfg₀ tr cfg → cfg.state.2.OneActive owner

/-- Over all runs with steps in `ok`: when the reconciler has just removed the
    finalizer of an object under deletion, all transfers of `owner` are final. -/
def FinalizerSound (api : ApiServer) (owner : String) (reconciler : κ)
    (ok : κ → api.Choice × Env → ReconcilerOp → api.State × Store → Prop)
    (cfg₀ : Config ReconcilerOp ReconcilerOp.Ans Unit κ (api.State × Store)) : Prop :=
  ∀ {tr e cfg}, Run (api.exec.sum exec) ok cfg₀ (tr ++ [e]) cfg → e.1 = reconciler →
    ∀ sent, e.2.1 = .inl (.update sent) → sent.deletionTimestamp.isSome = true →
      sent.containsFinalizer finalizerName = false →
      ∀ id t, cfg.state.2.row id = some t → t.createdBy = owner → t.isTerminal = true

end Contract

/-- A new object. -/
def sampleVolumeTransfer : VolumeTransfer where
  key := ⟨"default", "copy"⟩
  spec :=
    { sourceCluster := "east"
      sourcePVC := "apps/data"
      destinationCluster := "west"
      destinationPVC := "apps/data" }

/-- The object in the sample server, and an empty database. -/
def sampleState : Option VolumeTransfer × Store := (some sampleVolumeTransfer, .empty)

theorem unserved_sampleState : Unserved sampleServer sampleVolumeTransfer.key sampleState where
  unnamed vt hvt := by
    obtain rfl : sampleVolumeTransfer = vt := Option.some.inj hvt
    exact ⟨rfl, rfl⟩
  quiet id := by
    rintro ⟨t, hrow, -⟩
    cases hrow

/-- The agent's report that the transfer with identifier 9 has failed. -/
def sampleReport : ProgressReport where
  transferID := 9
  status := "failed"

/-- Two rounds of the reconciler. -/
def reconcileTwice :
    Config ReconcilerOp ReconcilerOp.Ans Unit (Option Unit) (Option VolumeTransfer × Store) where
  procs := @Orchestrator.reconciling canonicalText Unit plainOrchestrator sampleVolumeTransfer.key 2
    fun _ => .handleProgress sampleReport
  state := sampleState

/-- `n` calls of the reconciler in a row that all succeed. -/
def reconcilerMoves (fresh n : Nat) : List (Option Unit × K8sEnv × Env) :=
  (calls fresh n).map fun env => (none, {}, env)

section

variable [UUIDText] {ι : Type} [DecidableEq ι]

/-- The step of the reconciler strands no transfer; the others may do anything. -/
def StepsRemember (api : ApiServer) (owner : String) (i : Option ι) (c : api.Choice × Env)
    (op : ReconcilerOp) (s : api.State × Store) : Prop :=
  i = none → Remembers api owner c op s

/-- The reconciler of one object, queued any number of times, among any requests
    that create nothing in its name: at most one transfer of the object is in
    flight, in every run in which no step strands one. -/
theorem atMostOneTransfer_of_remembered (api : ApiServer) (o : Orchestrator)
    (key : NamespacedName) (n : Nat) (others : ι → Request) (s₀ : api.State × Store)
    (hothers : ∀ i, ¬ (others i).CreatesFor key.createdBy) (hs₀ : Unserved api key s₀) :
    AtMostOneTransfer api key.createdBy (StepsRemember api key.createdBy)
      ⟨o.reconciling key n others, s₀⟩ := by
  intro tr cfg hrun
  induction hrun with
  | init =>
    intro id _ hact
    exact absurd hact (hs₀.quiet id)
  | @step tr cfg i c op k hrun hnext hok ih =>
    have hguarantee := hrun.guarantee (R := systemRely api key.createdBy)
      (G := systemGuarantee api key.createdBy False) systemRely_refl systemRely_trans
      systemRely_of_guarantee
      (rg_reconciling (fun c op s hc => ⟨hc, False.elim⟩) o hothers hs₀) hnext hok
    cases i with
    | none => exact hguarantee.one
    | some i =>
      intro id id' hact hact'
      exact ih id id' (hguarantee.2.2 id hact) (hguarantee.2.2 id' hact')

end

theorem atMostOneTransfer_sample :
    AtMostOneTransfer sampleServer sampleVolumeTransfer.key.createdBy
      (@StepsRemember canonicalText Unit sampleServer sampleVolumeTransfer.key.createdBy)
      ⟨@Orchestrator.reconciling canonicalText Unit plainOrchestrator sampleVolumeTransfer.key 3
        fun _ => .handleProgress sampleReport, sampleState⟩ :=
  @atMostOneTransfer_of_remembered canonicalText Unit _ sampleServer plainOrchestrator
    sampleVolumeTransfer.key 3 (fun _ => .handleProgress sampleReport) sampleState
    (fun _ => id) unserved_sampleState

/-- The round that creates a transfer cannot store its identifier; the next one
    creates another. -/
theorem not_atMostOneTransfer_lostStatus :
    ¬ AtMostOneTransfer sampleServer sampleVolumeTransfer.key.createdBy (fun _ _ _ _ => True)
      reconcileTwice := by
  intro h
  let ok : Option Unit → K8sEnv × Env → ReconcilerOp → Option VolumeTransfer × Store → Prop :=
    fun _ _ _ _ => True
  let lost : Option Unit × K8sEnv × Env := (none, { fail := some "connection lost" }, {})
  let toSecond := reconcilerMoves 7 24 ++ lost :: reconcilerMoves 100 4
  obtain ⟨_, hrun⟩ := Run.after (execK8s.sum exec) ok reconcileTwice toSecond (by decide +kernel)
  have hsame : (9 : UUID) = 101 := h hrun 9 101 (by decide +kernel) (by decide +kernel)
  revert hsame
  decide

section

variable [UUIDText] {ι : Type} [DecidableEq ι]

/-- The step strands no transfer, and is no cancellation for an object under
    deletion that fails. -/
def StepsRelease (api : ApiServer) (owner : String) (i : Option ι) (c : api.Choice × Env)
    (op : ReconcilerOp) (s : api.State × Store) : Prop :=
  i = none → Remembers api owner c op s ∧ CancelsLand api owner c op s

/-- In every run in which also no cancellation of an object under deletion fails,
    the finalizer is removed only when all transfers of the object are final. -/
theorem finalizerSound_of_released (api : ApiServer) (o : Orchestrator) (key : NamespacedName)
    (n : Nat) (others : ι → Request) (s₀ : api.State × Store)
    (hothers : ∀ i, ¬ (others i).CreatesFor key.createdBy) (hs₀ : Unserved api key s₀) :
    FinalizerSound api key.createdBy none (StepsRelease api key.createdBy)
      ⟨o.reconciling key n others, s₀⟩ := by
  intro tr e cfg hrun hi sent hop hdel _ id t hrow hby
  obtain ⟨cfg₁, c, op, k, hbefore, hnext, hok, hev, hend⟩ := hrun.split
  obtain rfl := hend.eq_of_nil
  have hguarantee := hbefore.guarantee (R := systemRely api key.createdBy)
    (G := systemGuarantee api key.createdBy True) systemRely_refl systemRely_trans
    systemRely_of_guarantee
    (rg_reconciling (fun c op s hc => ⟨hc.1, fun _ => hc.2⟩) o hothers hs₀) hnext hok
  rw [hi] at hguarantee
  rw [hev] at hop
  by_contra hopen
  exact hguarantee.released trivial sent hop hdel id ⟨t, hrow, hby, by simpa using hopen⟩

end

theorem finalizerSound_sample :
    FinalizerSound sampleServer sampleVolumeTransfer.key.createdBy none
      (@StepsRelease canonicalText Unit sampleServer sampleVolumeTransfer.key.createdBy)
      ⟨@Orchestrator.reconciling canonicalText Unit plainOrchestrator sampleVolumeTransfer.key 3
        fun _ => .handleProgress sampleReport, sampleState⟩ :=
  @finalizerSound_of_released canonicalText Unit _ sampleServer plainOrchestrator
    sampleVolumeTransfer.key 3 (fun _ => .handleProgress sampleReport) sampleState
    (fun _ => id) unserved_sampleState

/-- The object that an update sends. -/
def ReconcilerOp.sent : ReconcilerOp → VolumeTransfer
  | .inl (.update vt) => vt
  | _ => sampleVolumeTransfer

/-- The transfer of an object under deletion cannot be read, and the finalizer
    goes all the same. -/
theorem not_finalizerSound_lostCancel :
    ¬ FinalizerSound sampleServer sampleVolumeTransfer.key.createdBy none (fun _ _ _ _ => True)
      reconcileTwice := by
  intro h
  let ok : Option Unit → K8sEnv × Env → ReconcilerOp → Option VolumeTransfer × Store → Prop :=
    fun _ _ _ _ => True
  let deleted : List (Option Unit × K8sEnv × Env) :=
    [(none, { deletion := some 5 }, {}), (none, {}, { fail := some "connection lost" }),
      (none, {}, {})]
  have hend : (reconcileTwice.follow (execK8s.sum exec) ok (reconcilerMoves 7 25 ++ deleted)).any
      fun out => out.1.getLast?.any fun e =>
        e.1 = none ∧ e.2.1 = .inl (.update (ReconcilerOp.sent e.2.1)) ∧
        (ReconcilerOp.sent e.2.1).deletionTimestamp.isSome = true ∧
        (ReconcilerOp.sent e.2.1).containsFinalizer finalizerName = false ∧
        out.2.state.2.Active sampleVolumeTransfer.key.createdBy 9 := by decide +kernel
  obtain ⟨⟨tr, cfg⟩, hfollow, hout⟩ := (Option.any_eq_true _ _).mp hend
  obtain ⟨⟨i, op, ans⟩, hlast, hout⟩ := (Option.any_eq_true _ _).mp hout
  obtain ⟨hreconciler, hupdate, hdel, hremoved, hactive⟩ := of_decide_eq_true hout
  have hrun : Run (execK8s.sum exec) ok reconcileTwice tr cfg := .of_follow hfollow
  rw [← List.dropLast_append_getLast? (l := tr) _ hlast] at hrun
  obtain ⟨t, hrow, hby, hopen⟩ := hactive
  have hterm := h hrun hreconciler (ReconcilerOp.sent op) hupdate hdel hremoved 9 t hrow hby
  rw [hterm] at hopen
  cases hopen

end Katapult
