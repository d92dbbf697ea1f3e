/-
  Katapult.Transfer.Faults

  Repository calls that fail.

  A failed statement is an early return, and what it leaves behind depends on
  where it is.  `createTransfer` repairs its row on some exits and not on
  others; the two operations that end a transfer write the state first and the
  completion time second.  Both are read off the outcomes of one request.
-/

import Katapult.Transfer.Sequential

namespace Katapult

open Effect Channel

theorem Store.stateOf_eq_view (s : Store) (id : UUID) :
    s.stateOf id = (s.view id).map RowView.state := by
  rw [Store.view, Option.map_map]
  rfl

/-! ## Orphans -/

/-- No orphan on error: the record of a failed creation is `failed`. -/
def NoOrphan (id : UUID) (a : Except Err CreateTransferResponse) (s' : Store) : Prop :=
  (∃ err, a = .error err) → s'.stateOf id = some .failed

section

variable [UUIDText]

/-- Every creation that inserts its record, whatever its environment answers:
    there is no orphan exactly when no statement on the record has failed after
    the insertion.  An event that could not be recorded does no harm. -/
theorem noOrphan_iff (o : Orchestrator) (req : CreateTransferRequest) (id : UUID) {s s' : Store}
    {tr : List CallEv} {a : Except Err CreateTransferResponse}
    (hrun : Prog.Exec exec (Healthy true) (o.createTransfer req) s tr a s')
    (hinserted : (tally id tr).inserted = true) :
    NoOrphan id a s' ↔ (tally id tr).faulted = false := by
  obtain ⟨id', hcreated, hothers⟩ := Prog.wp_sound (o.wp_createTransfer req [] s) hrun
  have hid : id = id' := by
    by_contra hne
    have htally : tally id tr = {} := congrArg View.tally (hothers id hne)
    rw [htally] at hinserted
    cases hinserted
  subst hid
  have htr : ([] : List CallEv) ++ tr = tr := rfl
  rw [htr] at hcreated
  rw [NoOrphan, Store.stateOf_eq_view]
  cases hcreated with
  | rejected _ row tally =>
    -- the row was not inserted
    have hnone : (Katapult.tally id tr).inserted = false := congrArg Tally.inserted tally
    rw [hnone] at hinserted
    cases hinserted
  | @stuck err _ v fresh row opened completed inserted faulted =>
    have hrow : s'.view id = some v := row
    have hfaulted : (Katapult.tally id tr).faulted = true := faulted
    rw [hrow, hfaulted]
    refine iff_of_false (fun hfailed => ?_) (by decide)
    have hstate : v.state = .failed := Option.some.inj (hfailed ⟨err, rfl⟩)
    rw [hstate] at opened
    cases opened
  | failed fresh row state completed inserted faulted =>
    have hrow : s'.view id = some _ := row
    rw [hrow]
    exact iff_of_true (fun _ => congrArg some state) faulted
  | started fresh row state completed inserted faulted =>
    exact iff_of_true (fun ⟨err, herr⟩ => by cases herr) faulted

end

/-- The sample request, with the answers of its environment. -/
def createAlone (tape : List Env) : Option (Except Err CreateTransferResponse × List CallEv × Store) :=
  Prog.eval exec (Healthy true) (@Orchestrator.createTransfer canonicalText plainOrchestrator sampleRequest)
    .empty tape

/-- The source agent refuses: the creation returns an error, and the row is `failed`. -/
theorem noOrphan_refusedCreate :
    ∃ a tr s', createAlone (calls 7 19 ++ { fail := some "refused" } :: calls 100 4) = some (a, tr, s') ∧
      s'.stateOf 7 = some .failed ∧
      (NoOrphan 7 a s' ↔ (@tally canonicalText 7 tr).faulted = false) := by
  have hend : (createAlone (calls 7 19 ++ { fail := some "refused" } :: calls 100 4)).any fun out =>
      out.2.2.stateOf 7 = some .failed ∧ (@tally canonicalText 7 out.2.1).inserted = true := by
    decide +kernel
  obtain ⟨⟨a, tr, s'⟩, hrun, hout⟩ := (Option.any_eq_true _ _).mp hend
  obtain ⟨hstate, hinserted⟩ := of_decide_eq_true hout
  exact ⟨a, tr, s', hrun, hstate, @noOrphan_iff canonicalText plainOrchestrator sampleRequest 7 _ _ tr a
    (Prog.exec_of_eval hrun) hinserted⟩

/-- The write of `validating` fails: the creation returns an error at once, and
    leaves the row `pending`. -/
theorem not_noOrphan_unwritten :
    ¬ ∀ (req : CreateTransferRequest) (s s' : Store) (tr : List CallEv)
        (a : Except Err CreateTransferResponse) (id : UUID),
      Prog.Exec exec (Healthy true) (@Orchestrator.createTransfer canonicalText plainOrchestrator req)
        s tr a s' →
      (@tally canonicalText id tr).inserted = true → tr.countP CallEv.failed ≤ 1 →
      NoOrphan id a s' := by
  intro hall
  have hend : (createAlone (calls 7 6 ++ [{ fail := some "connection lost" }])).any fun out =>
      out.2.2.stateOf 7 = some .pending ∧ (@tally canonicalText 7 out.2.1).inserted = true ∧
      out.2.1.countP CallEv.failed ≤ 1 ∧
      out.1 = .error "persisting validating state: connection lost" := by decide +kernel
  obtain ⟨⟨a, tr, s'⟩, hrun, hout⟩ := (Option.any_eq_true _ _).mp hend
  obtain ⟨hpending, hinserted, hone, ha⟩ := of_decide_eq_true hout
  have hfailed := hall sampleRequest .empty s' tr a 7 (Prog.exec_of_eval hrun) hinserted hone ⟨_, ha⟩
  rw [hpending] at hfailed
  cases hfailed

/-! ## State and completion time -/

/-- The stored state is terminal exactly when `completed_at` is set. -/
def Store.Together (s : Store) : Prop :=
  ∀ id t, s.row id = some t → (t.state.isTerminal = true ↔ t.completedAt.isSome = true)

/-- The final state that a request asks for, and for which transfer. -/
def Request.intends : Request → Option (UUID × TransferState)
  | .createTransfer _ => none
  | .cancelTransfer id => some (id, .cancelled)
  | .handleProgress report => (Orchestrator.intendedBy report).map (report.transferID, ·)

/-- What is left of a response without the data it carries. -/
def Response.result : Response → Attempt (Except Err Unit)
  | .created a => .done (a.map fun _ => ())
  | .cancelled a => .done a
  | .handled a => a

/-- What a sequential run keeps of a transfer: only a failed write of
    `completed_at` separates the two columns. -/
structure View.Timed (m : View) : Prop where
  absent : m.row = none → m.tally.uncompleted = false
  ended : ∀ v, m.row = some v → m.tally.uncompleted = true → v.state.isTerminal = true
  timed : ∀ v, m.row = some v → v.completed = (v.state.isTerminal && !m.tally.uncompleted)

theorem View.timed_init : View.Timed ⟨none, {}⟩ := ⟨fun _ => rfl, nofun, nofun⟩

/-- A row that is still open has missed no write of `completed_at`. -/
theorem View.Timed.uncompleted_of_open {m : View} {v : RowView} (h : m.Timed)
    (hv : m.row = some v) (hopen : v.state.isTerminal = false) : m.tally.uncompleted = false := by
  cases hun : m.tally.uncompleted with
  | false => rfl
  | true =>
    rw [h.ended v hv hun] at hopen
    cases hopen

/-- The row is known, and so is whether a write of `completed_at` has failed. -/
theorem View.Timed.of_row {m : View} {v : RowView} {uncompleted : Bool} (hv : m.row = some v)
    (huncompleted : m.tally.uncompleted = uncompleted)
    (hended : uncompleted = true → v.state.isTerminal = true)
    (htimed : v.completed = (v.state.isTerminal && !uncompleted)) : m.Timed := by
  subst huncompleted
  refine ⟨fun habsent => ?_, fun v' hv' hun => ?_, fun v' hv' => ?_⟩
  · rw [hv] at habsent
    cases habsent
  · rw [hv] at hv'
    cases hv'
    exact hended hun
  · rw [hv] at hv'
    cases hv'
    exact htimed

theorem View.Timed.of_same {m m' : View} (h : m.Timed) (hrow : m'.row = m.row)
    (huncompleted : m'.tally.uncompleted = m.tally.uncompleted) : m'.Timed := by
  refine ⟨?_, ?_, ?_⟩
  · rw [hrow, huncompleted]
    exact h.absent
  · rw [hrow, huncompleted]
    exact h.ended
  · rw [hrow, huncompleted]
    exact h.timed

theorem View.Timed.outcome {faulty : Bool} {m m' : View} {intended : Option TransferState}
    {a : Except Err Unit} (h : m.Timed) (houtcome : Outcome faulty intended m a m') : m'.Timed := by
  cases houtcome with
  | kept unmoved missed => exact h.of_same unmoved.row unmoved.uncompleted
  | half before edge final row commands revoked uncompleted fault =>
    have hopen := h.timed _ before
    rw [edge.not_isTerminal] at hopen
    exact .of_row row uncompleted (fun _ => final) (by rw [final]; exact hopen)
  | closed before edge final row commands cleaned uncompleted =>
    have hun := uncompleted.trans (h.uncompleted_of_open before edge.not_isTerminal)
    exact .of_row row hun nofun (by rw [final]; rfl)

theorem View.Timed.created {faulty : Bool} {m m' : View} {a : Except Err CreateTransferResponse}
    (h : m.Timed) (hcreated : Created faulty m a m') : m'.Timed := by
  cases hcreated with
  | rejected _ row tally => exact h.of_same row (congrArg Tally.uncompleted tally)
  | stuck fresh row opened completed inserted faulted revoked uncompleted fault =>
    exact .of_row row (uncompleted.trans (h.absent fresh)) nofun (by rw [opened]; exact completed)
  | failed fresh row state completed inserted faulted revoked uncompleted commands =>
    exact .of_row row (uncompleted.trans (h.absent fresh)) nofun (by rw [state]; exact completed)
  | started fresh row state completed inserted faulted revoked uncompleted refused =>
    exact .of_row row (uncompleted.trans (h.absent fresh)) nofun (by rw [state]; exact completed)

theorem View.Timed.served {faulty : Bool} {o : Orchestrator} {id : UUID} {m m' : View}
    {request : Request} {a : Response} (h : m.Timed) (hserved : Served faulty o id m m' request a) :
    m'.Timed := by
  cases hserved with
  | created req hcreated => exact h.created hcreated
  | cancelled houtcome => exact h.outcome houtcome
  | handled hid hreported =>
    cases hreported with
    | done houtcome funded => exact h.outcome houtcome
    | panics unmoved overdrawn => exact h.of_same unmoved.row unmoved.uncompleted

/-- The request makes the recorder panic. -/
def Request.Overdraws (o : Orchestrator) : Request → Prop
  | .handleProgress report => o.Overdraws report
  | _ => False

/-- How a request ends that asks for a final state. -/
inductive Concluded (faulty : Bool) (o : Orchestrator) (request : Request) (target : TransferState)
    (m : View) : Attempt (Except Err Unit) → View → Prop where
  | done {a : Except Err Unit} {m' : View} (outcome : Outcome faulty (some target) m a m')
      (funded : a = .ok () → ¬ request.Overdraws o) : Concluded faulty o request target m (.done a) m'
  | panics {m' : View} (unmoved : Unmoved m m') (overdrawn : request.Overdraws o) :
      Concluded faulty o request target m .panics m'

/-- A request that asks for a final state ends as an outcome on its transfer. -/
theorem Served.concluded_of_intends {faulty : Bool} {o : Orchestrator} {id id' : UUID} {m m' : View}
    {request : Request} {a : Response} {target : TransferState}
    (h : Served faulty o id' m m' request a) (hintends : request.intends = some (id, target)) :
    id' = id ∧ Concluded faulty o request target m a.result m' := by
  cases h with
  | created req hcreated => cases hintends
  | cancelled houtcome =>
    cases hintends
    exact ⟨rfl, .done houtcome fun _ => not_false⟩
  | handled hid hreported =>
    obtain ⟨target', htarget, hpair⟩ := Option.map_eq_some_iff.mp hintends
    cases hpair
    cases hreported with
    | done houtcome funded =>
      rw [htarget] at houtcome
      exact ⟨hid.symm, .done houtcome funded⟩
    | panics unmoved overdrawn => exact ⟨hid.symm, .panics unmoved overdrawn⟩

/-- What succeeds without failing calls brings the row along an edge. -/
theorem Outcome.edge_of_ok {target : TransferState} {m m' : View}
    (h : Outcome false (some target) m (.ok ()) m') :
    ∃ v, m.row = some v ∧ v.state.Edge target ∧
      m'.row = some { v with state := target, completed := true } := by
  cases h with
  | kept unmoved missed => exact absurd rfl (missed target rfl).1
  | closed before edge final row commands cleaned uncompleted hit =>
    obtain rfl := hit target rfl
    exact ⟨_, before, edge, row⟩

/-- Where the row has an edge, the request succeeds without failing calls. -/
theorem Outcome.ok_of_edge {target : TransferState} {m m' : View} {a : Except Err Unit} {v : RowView}
    (h : Outcome false (some target) m a m') (hv : m.row = some v) (hedge : v.state.Edge target) :
    a = .ok () := by
  cases h with
  | kept unmoved missed => exact absurd hedge ((missed target rfl).2 rfl v hv)
  | half before edge final row commands revoked uncompleted fault => cases fault
  | closed => rfl

/-- An error leaves the row as it was, unless a write of `completed_at` failed. -/
theorem Outcome.row_of_error {faulty : Bool} {intended : Option TransferState} {m m' : View}
    {a : Except Err Unit} (h : Outcome faulty intended m a m') (ha : a ≠ .ok ())
    (hun : m'.tally.uncompleted = false) : m'.row = m.row := by
  cases h with
  | kept unmoved missed => exact unmoved.row
  | half before edge final row commands revoked uncompleted fault =>
    rw [uncompleted] at hun
    cases hun
  | closed => exact absurd rfl ha

namespace Concluded

variable {faulty : Bool} {o : Orchestrator} {request : Request} {target : TransferState} {m m' : View}

theorem of_ok (h : Concluded false o request target m (.done (.ok ())) m') :
    (∃ v, m.row = some v ∧ v.state.Edge target ∧
      m'.row = some { v with state := target, completed := true }) ∧ ¬ request.Overdraws o := by
  cases h with
  | done outcome funded => exact ⟨outcome.edge_of_ok, funded rfl⟩

theorem ok_of_edge {a : Attempt (Except Err Unit)} {v : RowView}
    (h : Concluded false o request target m a m') (hfunded : ¬ request.Overdraws o)
    (hv : m.row = some v) (hedge : v.state.Edge target) : a = .done (.ok ()) := by
  cases h with
  | done outcome funded => rw [outcome.ok_of_edge hv hedge]
  | panics unmoved overdrawn => exact absurd overdrawn hfunded

theorem row_of_not_ok {a : Attempt (Except Err Unit)} (h : Concluded faulty o request target m a m')
    (ha : a ≠ .done (.ok ())) (hun : m'.tally.uncompleted = false) : m'.row = m.row := by
  cases h with
  | done outcome funded => exact outcome.row_of_error (fun hok => ha (by rw [hok])) hun
  | panics unmoved overdrawn => exact unmoved.row

end Concluded

section

variable [UUIDText]

/-- The two columns agree on every row exactly when no write of `completed_at`
    has failed. -/
theorem together_iff {h : List CallEv} {s : Store} (htimed : ∀ id, (viewOf id h s).Timed) :
    s.Together ↔ ∀ id, (tally id h).uncompleted = false := by
  constructor
  · intro htogether id
    cases hun : (tally id h).uncompleted with
    | false => rfl
    | true =>
      -- the write that failed was one on a row that has ended
      cases hrow : s.row id with
      | none =>
        have hnone : (tally id h).uncompleted = false :=
          (htimed id).absent (by rw [viewOf, Store.view, hrow]; rfl)
        rw [hun] at hnone
        cases hnone
      | some t =>
        have hview : (viewOf id h s).row = some t.view := by
          rw [viewOf, Store.view, hrow]
          rfl
        have hterm : t.state.isTerminal = true := (htimed id).ended _ hview hun
        have hcompleted : t.completedAt.isSome = (t.state.isTerminal && !(tally id h).uncompleted) :=
          (htimed id).timed _ hview
        rw [hun, (htogether id t hrow).mp hterm, Bool.not_true, Bool.and_false] at hcompleted
        cases hcompleted
  · intro hun id t ht
    have hview : (viewOf id h s).row = some t.view := by
      rw [viewOf, Store.view, ht]
      rfl
    have hcompleted : t.completedAt.isSome = (t.state.isTerminal && !(tally id h).uncompleted) :=
      (htimed id).timed _ hview
    rw [hcompleted, hun id]
    simp

/-- A run of such a request, from its history on. -/
theorem Orchestrator.concluded_of_exec {faulty : Bool} {o : Orchestrator} {request : Request}
    {a : Response} {id : UUID} {target : TransferState} {h tr : List CallEv} {s s' : Store}
    (hintends : request.intends = some (id, target))
    (hrun : Prog.Exec exec (Healthy faulty) (o.serve request) s tr a s') :
    Concluded faulty o request target (viewOf id h s) a.result (viewOf id (h ++ tr) s') := by
  obtain ⟨id', hserved, -⟩ := Prog.wp_sound (o.wp_serve request h s) hrun
  obtain ⟨rfl, hconcluded⟩ := hserved.concluded_of_intends hintends
  exact hconcluded

/-- If the request failed, and would have ended the transfer had no repository
    call failed, then it can be repeated, and ends the transfer. -/
def Retriable (o : Orchestrator) (request : Request) (a : Response) (s₁ s₂ : Store) : Prop :=
  ∀ id target, request.intends = some (id, target) → a.result ≠ .done (.ok ()) →
    (∃ tr a' s', Prog.Exec exec (Healthy false) (o.serve request) s₁ tr a' s' ∧
      a'.result = .done (.ok ())) →
    ∀ tr a' s', Prog.Exec exec (Healthy false) (o.serve request) s₂ tr a' s' →
      a'.result = .done (.ok ()) ∧ ∃ t, s'.row id = some t ∧ t.state = target ∧ t.completedAt.isSome = true

/-- State and completion time move together over a request that leads from `s₁`
    to `s₂`. -/
structure MoveTogether (o : Orchestrator) (request : Request) (a : Response) (s₁ s₂ : Store) :
    Prop where
  together : s₂.Together
  retriable : Retriable o request a s₁ s₂

/-- A failed request that wrote no state can be repeated. -/
theorem retriable_of_exec {o : Orchestrator} {request : Request} {a : Response}
    {h tr : List CallEv} {s₁ s₂ : Store}
    (hrun : Prog.Exec exec (Healthy true) (o.serve request) s₁ tr a s₂)
    (hun : ∀ id, (tally id (h ++ tr)).uncompleted = false) : Retriable o request a s₁ s₂ := by
  intro id target hintends ha ⟨tr₁, a₁, s', hwould, ha₁⟩ tr₂ a₂ s'' hagain
  have hfirst := Orchestrator.concluded_of_exec (h := h) hintends hrun
  have hwould := Orchestrator.concluded_of_exec (h := h) hintends hwould
  have hagain := Orchestrator.concluded_of_exec (h := h ++ tr) hintends hagain
  rw [ha₁] at hwould
  obtain ⟨⟨v, hv, hedge, -⟩, hfunded⟩ := hwould.of_ok
  -- the failed run has left the row where it was
  have hrow : (viewOf id (h ++ tr) s₂).row = some v :=
    (hfirst.row_of_not_ok ha (hun id)).trans hv
  have ha₂ := hagain.ok_of_edge hfunded hrow hedge
  rw [ha₂] at hagain
  obtain ⟨⟨v', -, -, hrow'⟩, -⟩ := hagain.of_ok
  obtain ⟨t, ht, hview⟩ := Option.map_eq_some_iff.mp hrow'
  refine ⟨ha₂, t, ht, congrArg RowView.state hview, congrArg RowView.completed hview⟩

/-- Every request of every sequential run, whatever fails: state and completion
    time move together exactly when no write of `completed_at` has failed. -/
theorem moveTogether_iff (o : Orchestrator) {h tr : List CallEv} {s₁ s₂ : Store} (request : Request)
    {a : Response} (hreach : Prog.SeqReach exec (Healthy true) o.serve .empty h s₁)
    (hrun : Prog.Exec exec (Healthy true) (o.serve request) s₁ tr a s₂) :
    MoveTogether o request a s₁ s₂ ↔ ∀ id, (tally id (h ++ tr)).uncompleted = false := by
  have htimed : ∀ id, (viewOf id (h ++ tr) s₂).Timed :=
    Orchestrator.invariant_of_served View.timed_init View.Timed.served (hreach.serve request hrun)
  rw [← together_iff htimed]
  constructor
  · exact MoveTogether.together
  · intro htogether
    exact ⟨htogether, retriable_of_exec hrun ((together_iff htimed).mp htogether)⟩

end

/-- A cancellation of the sample transfer, with the answers of its environment. -/
def cancelSample (s : Store) (tape : List Env) : Option (Response × List CallEv × Store) :=
  Prog.eval exec (Healthy true) (@Orchestrator.serve canonicalText plainOrchestrator (.cancelTransfer 7))
    s tape

/-- The sample transfer, as its creation leaves it. -/
def createdSample : Option (List CallEv × Store) :=
  sampleEnd true [(.createTransfer sampleRequest, calls 7 21)]

/-- The write of `cancelled` fails: the row stays, and the cancellation can be repeated. -/
theorem moveTogether_uncancelled :
    ∃ h s₁ a tr s₂, createdSample = some (h, s₁) ∧
      cancelSample s₁ (calls 100 2 ++ [{ fail := some "connection lost" }]) = some (a, tr, s₂) ∧
      (@MoveTogether canonicalText plainOrchestrator (.cancelTransfer 7) a s₁ s₂ ↔
        ∀ id, (@tally canonicalText id (h ++ tr)).uncompleted = false) := by
  have hend : createdSample.any fun out =>
      (cancelSample out.2 (calls 100 2 ++ [{ fail := some "connection lost" }])).isSome := by
    decide +kernel
  obtain ⟨⟨h, s₁⟩, hreach, hcancel⟩ := (Option.any_eq_true _ _).mp hend
  obtain ⟨⟨a, tr, s₂⟩, hrun⟩ := Option.isSome_iff_exists.mp hcancel
  exact ⟨h, s₁, a, tr, s₂, hreach, hrun, @moveTogether_iff canonicalText plainOrchestrator h tr s₁ s₂
    (.cancelTransfer 7) a (reach_sampleEnd hreach) (Prog.exec_of_eval hrun)⟩

/-- The write of `completed_at` fails: the row is `cancelled` without it. -/
theorem not_moveTogether_uncompleted :
    ¬ ∀ (request : Request) (a : Response) (h tr : List CallEv) (s₁ s₂ : Store),
      Prog.SeqReach exec (Healthy true) (@Orchestrator.serve canonicalText plainOrchestrator) .empty
        h s₁ →
      Prog.Exec exec (Healthy true) (@Orchestrator.serve canonicalText plainOrchestrator request)
        s₁ tr a s₂ →
      (h ++ tr).countP CallEv.failed ≤ 1 →
      @MoveTogether canonicalText plainOrchestrator request a s₁ s₂ := by
  intro hall
  have hend : createdSample.any fun out =>
      (cancelSample out.2 (calls 100 3 ++ [{ fail := some "connection lost" }])).any fun out' =>
        (out.1 ++ out'.2.1).countP CallEv.failed ≤ 1 ∧
        (out'.2.2.row 7).any fun t => t.state.isTerminal && !t.completedAt.isSome := by
    decide +kernel
  obtain ⟨⟨h, s₁⟩, hreach, hcancel⟩ := (Option.any_eq_true _ _).mp hend
  obtain ⟨⟨a, tr, s₂⟩, hrun, hout⟩ := (Option.any_eq_true _ _).mp hcancel
  obtain ⟨hone, hrow⟩ := of_decide_eq_true hout
  obtain ⟨t, ht, htorn⟩ := (Option.any_eq_true _ _).mp hrow
  obtain ⟨htogether, -⟩ := hall _ a h tr s₁ s₂ (reach_sampleEnd hreach) (Prog.exec_of_eval hrun) hone
  simp only [Bool.and_eq_true, Bool.not_eq_true'] at htorn
  rw [(htogether 7 t ht).mp htorn.1] at htorn
  cases htorn.2

end Katapult
