/-
  Katapult.Transfer.Destination

  Two transfers and one destination.  Agents write to PVCs while the engine
  runs, and answer `isPVCEmpty` truthfully.

  The engine keeps no record of the transfers it has admitted to a PVC, so two
  of them can share one.  What the preflight check does give is that each was
  admitted while no byte had been written there.  The proof reads it off the
  history of the `createTransfer` call that started the transfer.
-/

import Katapult.Transfer.Lifecycle

namespace Katapult

open Effect

/-! ## Agents that write -/

/-- The store, and the PVCs that hold data. -/
structure World where
  store : Store
  written : List (String × String)

/-- What the environment of one call chooses, and where agents have written
    since the call before. -/
structure WorldEnv where
  env : Env
  writes : List (String × String) := []

/-- The engine's machine with agents that answer `isPVCEmpty` truthfully. -/
def execWorld : Machine Call Call.Ans World WorldEnv
  | c, .isPVCEmpty clusterID pvcName, w =>
      (c.env.answer (decide ((clusterID, pvcName) ∉ c.writes ++ w.written)),
        { w with written := c.writes ++ w.written })
  | c, op, w =>
      ((exec c.env op w.store).1,
        { store := (exec c.env op w.store).2, written := c.writes ++ w.written })

@[simp] theorem execWorld_store (c : WorldEnv) (op : Call) (w : World) :
    (execWorld c op w).2.store = (exec c.env op w.store).2 := by
  cases op <;> rfl

/-- An agent that reports a PVC empty has not seen a byte on it. -/
theorem notMem_written_of_empty {c : WorldEnv} {clusterID pvcName : String} {w : World}
    (h : (execWorld c (.isPVCEmpty clusterID pvcName) w).1 = .ok true) :
    (clusterID, pvcName) ∉ w.written := by
  intro hmem
  cases hfail : c.env.fail with
  | some err =>
    simp only [execWorld, Env.answer, hfail] at h
    cases h
  | none =>
    simp only [execWorld, Env.answer, hfail] at h
    have hnot := of_decide_eq_true (Except.ok.inj h)
    exact hnot (List.mem_append_right _ hmem)

/-! ## The admission of one transfer -/

/-- The entry of a history that reports an empty destination. -/
def reportedEmpty (t : Transfer) : CallEv :=
  ⟨.isPVCEmpty t.destinationCluster t.destinationPVC, .ok true⟩

/-- The history admits the transfer: it inserted its row, and a row that may not
    be overwritten only goes with an empty destination. -/
def Admits (h : List CallEv) (id : UUID) : Prop :=
  ∃ t : Transfer, ⟨.repo (.createTransfer t), .ok ()⟩ ∈ h ∧ t.id = id ∧
    (t.allowOverwrite = false → reportedEmpty t ∈ h)

/-- The discipline of admission: rows are inserted `pending`, and made
    `transferring` only by the call that admitted them. -/
def AdmitsFirst (h : List CallEv) : Call → Prop
  | .repo (.createTransfer t) => t.state = .pending
  | .repo (.updateTransferState id state) => state = .transferring → Admits h id
  | _ => True

/-- Calls that have nothing to do with an admission. -/
def Call.Aside : Call → Prop
  | .repo (.createTransfer _) => False
  | .repo (.updateTransferState _ state) => state ≠ .transferring
  | _ => True

theorem Call.Aside.admitsFirst {op : Call} (hop : op.Aside) (h : List CallEv) :
    AdmitsFirst h op := by
  cases op with
  | repo call =>
    cases call with
    | createTransfer t => exact absurd hop id
    | updateTransferState id state => exact fun hstate => absurd hstate hop
    | _ => trivial
  | _ => trivial

theorem Call.RecordsEvent.aside {op : Call} {id : UUID} {eventType : EventType}
    (h : op.RecordsEvent id eventType) : op.Aside := by
  cases op with
  | repo call =>
    cases call with
    | createTransferEvent e => trivial
    | _ => cases h
  | _ => trivial

/-- Operations that do not create have no part in admissions. -/
theorem Copy.Permits.aside {m : Copy} {op : Call} (h : m.Permits false op) : op.Aside := by
  cases op with
  | repo call =>
    cases call with
    | createTransfer t => cases h
    | updateTransferState id state =>
      rintro rfl
      rcases h.1 with hfalse | hterm
      · cases hfalse
      · cases hterm
    | _ => trivial
  | _ => trivial

/-- A program that admits first. -/
abbrev AdmissionObeyed {α : Type} (h : List CallEv) (p : Engine α) : Prop :=
  Prog.Obeys history AdmitsFirst (fun _ _ => True) h p

theorem Admits.mono {h h' : List CallEv} {id : UUID} (ha : Admits h id) (hsub : h ⊆ h') :
    Admits h' id := by
  obtain ⟨t, hins, hid, hempty⟩ := ha
  exact ⟨t, hsub hins, hid, fun hallow => hsub (hempty hallow)⟩

theorem AdmissionObeyed.aside {α : Type} {h : List CallEv} {p : Engine α} (hp : p.All Call.Aside) :
    AdmissionObeyed h p :=
  Prog.Obeys.of_forall (hp.mono fun _ hop => hop.admitsFirst)

theorem AdmissionObeyed.skip {α β : Type} {h : List CallEv} {p : Engine β} {f : β → Engine α}
    (hp : p.All Call.Aside) (hf : ∀ b h', h ⊆ h' → AdmissionObeyed h' (f b)) :
    AdmissionObeyed h (p >>= f) :=
  Prog.Obeys.skip_history (hp.mono fun _ hop => hop.admitsFirst) hf

/-- A validated request that may not overwrite has been told that its
    destination is empty. -/
theorem validateTransferRequest_admits (req : ValidateRequest) (h : List CallEv) :
    Prog.Obeys history AdmitsFirst
      (fun valid h' => h ⊆ h' ∧ (valid = .ok () → req.allowOverwrite = false →
        (⟨.isPVCEmpty req.destinationCluster req.destinationPVC, .ok true⟩ : CallEv) ∈ h'))
      h (validateTransferRequest req) := by
  unfold validateTransferRequest
  split
  · exact ⟨List.Subset.refl h, fun hvalid => by cases hvalid⟩
  refine Prog.Obeys.perform trivial fun src => ?_
  rcases src with err | (_ | _)
  · exact ⟨List.subset_append_left h _, fun hvalid => by cases hvalid⟩
  · exact ⟨List.subset_append_left h _, fun hvalid => by cases hvalid⟩
  refine Prog.Obeys.perform trivial fun dest => ?_
  rcases dest with err | (_ | _)
  · exact ⟨by simp [history], fun hvalid => by cases hvalid⟩
  · exact ⟨by simp [history], fun hvalid => by cases hvalid⟩
  refine Prog.Obeys.perform trivial fun empty => ?_
  rcases empty with err | empty
  · exact ⟨by simp [history], fun hvalid => by cases hvalid⟩
  dsimp only
  split
  · exact ⟨by simp [history], fun hvalid => by cases hvalid⟩
  · rename_i hadmit
    refine ⟨by simp [history], fun _ hallow => ?_⟩
    cases empty with
    | false => exact absurd ⟨rfl, hallow⟩ hadmit
    | true => simp [history]

section

theorem aside_failTransfer (id : UUID) (errorMessage eventMessage : String) :
    (failTransfer id errorMessage eventMessage).All Call.Aside :=
  ⟨trivial, fun _ => (all_createEvent _ _ _ _).mono fun _ hop => hop.aside⟩

variable [UUIDText]

theorem aside_commandAgents (req : CreateTransferRequest) (id : UUID) :
    (Orchestrator.commandAgents req id).All Call.Aside := by
  refine ⟨trivial, fun src => ?_⟩
  rcases src with err | _
  · exact (aside_failTransfer _ _ _).bind fun _ => trivial
  refine ⟨trivial, fun dest => ?_⟩
  rcases dest with err | _
  · exact (aside_failTransfer _ _ _).bind fun _ => trivial
  · trivial

theorem admission_startTransfer (o : Orchestrator) (req : CreateTransferRequest)
    (transfer : Transfer) {h : List CallEv} (hadmits : Admits h transfer.id) :
    AdmissionObeyed h (o.startTransfer req transfer) := by
  unfold Orchestrator.startTransfer
  split
  · exact ⟨trivial, fun _ => trivial⟩
  refine Prog.Obeys.perform trivial fun strategy => ?_
  rcases strategy with err | _
  · trivial
  dsimp only
  split
  · trivial
  -- the one write of `transferring`
  refine Prog.Obeys.perform (fun _ => hadmits.mono (List.subset_append_left h _)) fun written => ?_
  rcases written with err | _
  · trivial
  refine AdmissionObeyed.aside ⟨trivial, fun started => ?_⟩
  rcases started with err | _
  · trivial
  exact ((all_createEvent _ _ _ _).mono fun _ hop => hop.aside).bind fun _ =>
    aside_commandAgents req _

theorem admission_admitTransfer (o : Orchestrator) (req : CreateTransferRequest)
    {transfer : Transfer} {h : List CallEv} (hstate : transfer.state = .pending)
    (hdest : transfer.destinationCluster = req.destinationCluster ∧
      transfer.destinationPVC = req.destinationPVC ∧ transfer.allowOverwrite = req.allowOverwrite) :
    AdmissionObeyed h (o.admitTransfer req transfer) := by
  unfold Orchestrator.admitTransfer
  refine Prog.Obeys.perform hstate fun inserted => ?_
  rcases inserted with err | _
  · trivial
  refine AdmissionObeyed.skip ((all_createEvent _ _ _ _).mono fun _ hop => hop.aside) ?_
  intro _ h₁ hsub₁
  have hinserted : ⟨.repo (.createTransfer transfer), .ok ()⟩ ∈ h₁ :=
    hsub₁ (List.mem_append_right h (List.mem_singleton_self _))
  split
  · trivial
  rename_i transfer' hmove
  obtain ⟨-, rfl⟩ := Transfer.transitionTo_eq_ok.mp hmove
  refine Prog.Obeys.perform (fun hstate => by cases hstate) fun written => ?_
  rcases written with err | _
  · trivial
  refine Prog.Obeys.bind ((validateTransferRequest_admits _ _).mono ?_)
  rintro valid h₂ ⟨hsub₂, hempty⟩
  rcases valid with err | _
  · exact AdmissionObeyed.aside ((aside_failTransfer _ _ _).bind fun _ => trivial)
  refine AdmissionObeyed.skip ((all_createEvent _ _ _ _).mono fun _ hop => hop.aside) ?_
  intro _ h₃ hsub₃
  refine admission_startTransfer o req _ ⟨transfer, ?_, rfl, fun hallow => ?_⟩
  · exact hsub₃ (hsub₂ (List.mem_append_left _ hinserted))
  · obtain ⟨hcluster, hpvc, hoverwrite⟩ := hdest
    rw [reportedEmpty, hcluster, hpvc]
    exact hsub₃ (hempty rfl (hoverwrite ▸ hallow))

theorem admission_createTransfer (o : Orchestrator) (req : CreateTransferRequest) :
    AdmissionObeyed [] (o.createTransfer req) :=
  ⟨trivial, fun _ => ⟨trivial, fun _ => admission_admitTransfer o req rfl ⟨rfl, rfl, rfl⟩⟩⟩

theorem admission_serve (o : Orchestrator) (request : Request) :
    AdmissionObeyed [] (o.serve request) := by
  cases hcreates : request.creates with
  | true =>
    cases request with
    | createTransfer req =>
      exact Prog.Obeys.bind ((admission_createTransfer o req).mono fun _ _ _ => trivial)
    | _ => cases hcreates
  | false =>
    have hobeyed := o.obeyed_serve {} request
    rw [hcreates] at hobeyed
    exact AdmissionObeyed.aside (hobeyed.all fun _ _ hperm => hperm.aside)

end

/-! ## Every run -/

section

variable [UUIDText] {ι : Type} [DecidableEq ι]

/-- Any family of requests, with agents that may already have written somewhere. -/
def Orchestrator.requests (o : Orchestrator) (reqs : ι → Request) (written : List (String × String)) :
    Config Call Call.Ans Response ι World where
  procs i := o.serve (reqs i)
  state := { store := .empty, written }

variable {o : Orchestrator} {reqs : ι → Request} {written : List (String × String)}
variable {tr : Trace ι Call Call.Ans} {cfg : Config Call Call.Ans Response ι World}

/-- A row that is `transferring` was made so by a call of the history. -/
theorem written_of_transferring {id : UUID}
    (hrun : Run execWorld (fun _ _ _ _ => True) (o.requests reqs written) tr cfg)
    (hs : cfg.state.store.stateOf id = some .transferring) :
    ∃ i r, (i, ⟨.repo (.updateTransferState id .transferring), r⟩) ∈ tr := by
  induction hrun with
  | init => cases hs
  | @step tr cfg i c op k hrun hnext _ ih =>
    have hpermitted := (hrun.obeys_local i (admission_serve o (reqs i))).2
    rw [hnext] at hpermitted
    simp only [Config.step, execWorld_store] at hs
    rcases stateOf_exec c.env op cfg.state.store id with
      hsame | ⟨state, hw, hafter⟩ | ⟨t, rfl, -, -, hafter⟩
    · rw [hsame] at hs
      obtain ⟨j, r, hmem⟩ := ih hs
      exact ⟨j, r, List.mem_append_left _ hmem⟩
    · rw [hafter] at hs
      obtain ⟨_, -, rfl⟩ := Option.map_eq_some_iff.mp hs
      rcases Call.writtenState_eq_some.mp hw with rfl | ⟨errorMessage, -, hfailed⟩
      · exact ⟨i, _, List.mem_append_right _ (List.mem_singleton_self _)⟩
      · cases hfailed
    · -- an inserted row is pending
      have hpending : t.state = .pending := hpermitted.1
      rw [hafter, hpending] at hs
      cases hs

/-- A row that a call of the history has inserted is still there, unchanged in
    what was fixed then. -/
theorem row_of_inserted {i : ι} {t : Transfer}
    (hrun : Run execWorld (fun _ _ _ _ => True) (o.requests reqs written) tr cfg)
    (hins : (i, ⟨.repo (.createTransfer t), .ok ()⟩) ∈ tr) :
    ∃ t', cfg.state.store.row t.id = some t' ∧ t'.origin = t.origin := by
  induction hrun with
  | init => simp at hins
  | @step tr cfg j c op k hrun hnext _ ih =>
    simp only [Config.step, execWorld_store]
    rcases List.mem_append.mp hins with hold | hnew
    · obtain ⟨t', hrow, horigin⟩ := ih hold
      obtain ⟨t'', hrow', horigin'⟩ := row_exec_of_some hrow c.env op
      exact ⟨t'', hrow', horigin'.trans horigin⟩
    · obtain ⟨-, hev⟩ := Prod.mk.inj (List.mem_singleton.mp hnew)
      obtain ⟨rfl, hanswer⟩ := Sigma.mk.inj hev
      exact ⟨t, row_exec_of_insert (eq_of_heq hanswer).symm, rfl⟩

/-- The call `i` that made the row `transferring` had asked for the destination
    of `t` before, and been told that it is empty, when no byte was there. -/
def AdmittedEmpty (o : Orchestrator) (reqs : ι → Request) (written : List (String × String))
    (tr : Trace ι Call Call.Ans) (t : Transfer) : Prop :=
  ∃ before after i r cfg, tr = before ++ (i, reportedEmpty t) :: after ∧
    Run execWorld (fun _ _ _ _ => True) (o.requests reqs written) before cfg ∧
    (t.destinationCluster, t.destinationPVC) ∉ cfg.state.written ∧
    (i, ⟨.repo (.updateTransferState t.id .transferring), r⟩) ∈ after

/-- In every run of the engine, every transfer that is `transferring` and may
    not overwrite was admitted to an empty destination. -/
theorem admittedEmpty_of_transferring (o : Orchestrator) (reqs : ι → Request)
    (written : List (String × String)) {tr : Trace ι Call Call.Ans}
    {cfg : Config Call Call.Ans Response ι World}
    (hrun : Run execWorld (fun _ _ _ _ => True) (o.requests reqs written) tr cfg)
    {id : UUID} {t : Transfer} (hrow : cfg.state.store.row id = some t)
    (hstate : t.state = .transferring) (hallow : t.allowOverwrite = false) :
    AdmittedEmpty o reqs written tr t := by
  have hid : t.id = id := Keyed.Table.key_of_find? hrow
  subst hid
  obtain ⟨i, r, hwrite⟩ := written_of_transferring hrun (by rw [Store.stateOf, hrow, ← hstate]; rfl)
  obtain ⟨before, after, rfl⟩ := List.append_of_mem hwrite
  -- what the call had in its history when it wrote `transferring`
  have hpermitted := (hrun.obeys_local i (admission_serve o (reqs i))).1
  have hlocal : Trace.local (before ++ (i, ⟨.repo (.updateTransferState t.id .transferring), r⟩) ::
      after) i = Trace.local before i ++ ⟨.repo (.updateTransferState t.id .transferring), r⟩ ::
        Trace.local after i := by
    simp [Trace.local]
  rw [hlocal, permitted_append, foldl_history, List.nil_append] at hpermitted
  obtain ⟨t₀, hins, hid, hempty⟩ := hpermitted.2.1 rfl
  -- the row is the one that was inserted
  have hins' := Trace.mem_local.mp hins
  obtain ⟨t', hrow', horigin⟩ := row_of_inserted hrun (List.mem_append_left _ hins')
  rw [hid, hrow] at hrow'
  obtain rfl := Option.some.inj hrow'
  simp only [Transfer.origin, Prod.mk.injEq] at horigin
  obtain ⟨-, -, hcluster, hpvc, hallow₀, -⟩ := horigin
  have hreported := hempty (hallow₀ ▸ hallow)
  rw [reportedEmpty, ← hcluster, ← hpvc] at hreported
  obtain ⟨first, mid, rfl⟩ := List.append_of_mem (Trace.mem_local.mp hreported)
  rw [List.append_assoc, List.cons_append] at hrun ⊢
  obtain ⟨cfg₁, c, op, k, hfirst, -, -, hev, -⟩ := hrun.split
  obtain ⟨rfl, hanswer⟩ := Sigma.mk.inj hev
  exact ⟨first, _, i, r, cfg₁, rfl, hfirst, notMem_written_of_empty (eq_of_heq hanswer).symm,
    List.mem_append_right _ List.mem_cons_self⟩

end

/-- One request, with data in another place. -/
theorem admittedEmpty_sample :
    ∃ tr t, @AdmittedEmpty canonicalText Unit _ plainOrchestrator
      (fun _ => .createTransfer sampleRequest) [("east", "apps/data")] tr t := by
  let ok : Unit → WorldEnv → Call → World → Prop := fun _ _ _ _ => True
  let cfg₀ := @Orchestrator.requests canonicalText Unit plainOrchestrator
    (fun _ => .createTransfer sampleRequest) [("east", "apps/data")]
  let sched : List (Unit × WorldEnv) := (moves () 1 15).map fun e => (e.1, { env := e.2 })
  obtain ⟨tr, hrun⟩ := Run.after execWorld ok cfg₀ sched (by decide +kernel)
  let s := (cfg₀.after execWorld ok sched).state.store
  let t := (s.row 1).get (by decide +kernel)
  have hrow : s.row 1 = some t := (Option.some_get _).symm
  exact ⟨tr, t, @admittedEmpty_of_transferring canonicalText Unit _ plainOrchestrator _ _ tr _ hrun
    1 t hrow (by decide +kernel) (by decide +kernel)⟩

/-! ## No exclusivity -/

/-- No two transfers that are `transferring` and may not overwrite share a destination. -/
def DestinationExclusive (s : Store) : Prop :=
  ∀ t₁ t₂, s.row t₁.id = some t₁ → s.row t₂.id = some t₂ → t₁.id ≠ t₂.id →
    t₁.state = .transferring → t₂.state = .transferring →
    t₁.allowOverwrite = false → t₂.allowOverwrite = false →
    (t₁.destinationCluster, t₁.destinationPVC) ≠ (t₂.destinationCluster, t₂.destinationPVC)

/-- Both requests name one destination; each inserts its row, asks, and starts,
    before anything is written there. -/
theorem not_destinationExclusive :
    ∃ tr cfg, Run execWorld (fun _ _ _ _ => True)
        (@Orchestrator.requests canonicalText Bool plainOrchestrator
          (fun b => .createTransfer { sampleRequest with sourcePVC := if b then "a" else "b" }) [])
        tr cfg ∧ ¬ DestinationExclusive cfg.state.store := by
  let ok : Bool → WorldEnv → Call → World → Prop := fun _ _ _ _ => True
  let cfg₀ := @Orchestrator.requests canonicalText Bool plainOrchestrator
    (fun b => .createTransfer { sampleRequest with sourcePVC := if b then "a" else "b" }) []
  let sched : List (Bool × WorldEnv) :=
    (moves true 1 15 ++ moves false 101 15).map fun e => (e.1, { env := e.2 })
  obtain ⟨tr, hrun⟩ := Run.after execWorld ok cfg₀ sched (by decide +kernel)
  refine ⟨tr, _, hrun, fun h => ?_⟩
  let s := (cfg₀.after execWorld ok sched).state.store
  let t₁ := (s.row 1).get (by decide +kernel)
  let t₂ := (s.row 101).get (by decide +kernel)
  exact h t₁ t₂ (by decide +kernel) (by decide +kernel) (by decide +kernel) (by decide +kernel)
    (by decide +kernel) (by decide +kernel) (by decide +kernel) (by decide +kernel)

end Katapult
