/-
  Katapult.Transfer.Gauge

  The collectors of the metrics against the stored transfers, in runs in which
  the repository does not fail.

  A cancellation or a report that ends a transfer meters the state it writes,
  and a creation meters nothing (`Metered`, `Opened`).  So between two requests
  the collectors are off by exactly what the creations have started and refused
  (`Balanced`), and `metricsAgree_iff` follows.
-/

import Katapult.Observability.Metrics
import Katapult.Transfer.Account

namespace Katapult

open Effect Channel

/-! ## What is metered -/

/-- The state that a call reports to the recorder as the new one. -/
def CallEv.metered : CallEv → List String
  | ⟨.onTransferStateChange _ toState _, _⟩ => [toState]
  | _ => []

/-- The reported changes of state, in their order. -/
def metered (h : List CallEv) : List String := h.flatMap CallEv.metered

theorem metered_snoc (h : List CallEv) (ev : CallEv) :
    metered (h ++ [ev]) = metered h ++ ev.metered := by
  rw [metered, List.flatMap_append, List.flatMap_singleton, metered]

namespace Metrics

/-- What a reported state does to the gauge. -/
def activeDelta (toState : String) : Int :=
  if toState = "transferring" then 1
  else if toState = "completed" ∨ toState = "failed" ∨ toState = "cancelled" then -1
  else 0

theorem onTransferStateChange_active (m : Metrics) (fromState toState strategy : String) :
    (m.onTransferStateChange fromState toState strategy).transfersActive =
      m.transfersActive + activeDelta toState := by
  unfold onTransferStateChange activeDelta
  split
  · rfl
  split
  · rfl
  · exact (add_zero _).symm

theorem onTransferStateChange_total (m : Metrics) (fromState toState strategy status : String) :
    (m.onTransferStateChange fromState toState strategy).totalWith status =
      m.totalWith status + (decide (toState = status)).toNat := by
  have htotal : (m.onTransferStateChange fromState toState strategy).transfersTotal =
      m.transfersTotal.inc (toState, strategy) := by
    unfold onTransferStateChange
    split
    · rfl
    split <;> rfl
  rw [totalWith, htotal, CounterVec.total_inc, totalWith]

/-- One more call: the collectors take up what it reports. -/
theorem record_done {m m' : Metrics} {ev : CallEv} (hrec : record ev m = .done m') :
    m'.transfersActive = m.transfersActive + (ev.metered.map activeDelta).sum ∧
    ∀ status, m'.totalWith status = m.totalWith status + ev.metered.count status := by
  obtain ⟨op, r⟩ := ev
  cases op with
  | onTransferStateChange fromState toState strategy =>
    cases hrec
    refine ⟨?_, fun status => ?_⟩
    · rw [onTransferStateChange_active]
      simp [CallEv.metered]
    · rw [onTransferStateChange_total]
      by_cases hstatus : toState = status <;> simp [CallEv.metered, hstatus]
  | onProgressReport bytesTransferred speedBytesPerSec =>
    unfold record onProgressReport at hrec
    dsimp only at hrec
    split at hrec
    · cases hrec
    · cases hrec
      exact ⟨(add_zero _).symm, fun _ => rfl⟩
  | _ =>
    cases hrec
    exact ⟨(add_zero _).symm, fun _ => rfl⟩

/-- The gauge and the counters are functions of the reported changes. -/
theorem after_done {h : List CallEv} {m : Metrics} (hafter : after h = .done m) :
    m.transfersActive = ((metered h).map activeDelta).sum ∧
    ∀ status, m.totalWith status = (metered h).count status := by
  induction h using List.reverseRecOn generalizing m with
  | nil =>
    cases hafter
    exact ⟨rfl, fun _ => rfl⟩
  | append_singleton h ev ih =>
    rw [after, Attempt.each_append] at hafter
    obtain ⟨m₁, hm₁, hlast⟩ := Attempt.bind_eq_done.mp hafter
    obtain ⟨m₂, hrec, hm₂⟩ := Attempt.bind_eq_done.mp hlast
    cases hm₂
    obtain ⟨hactive, htotal⟩ := ih hm₁
    obtain ⟨hactive', htotal'⟩ := record_done hrec
    rw [metered_snoc]
    refine ⟨?_, fun status => ?_⟩
    · rw [hactive', hactive, List.map_append, List.sum_append]
    · rw [htotal', htotal, List.count_append]

end Metrics

/-! ## One transfer, and what is metered -/

/-- The stored state of one transfer, and all that was metered. -/
structure Meter where
  state : Option TransferState
  changes : List String

namespace Meter

/-- What an answered call does to the transfer that it concerns. -/
def follow (m : Meter) : CallEv → Meter
  | ⟨.repo (.createTransfer t), _⟩ => { m with state := some t.state }
  | ⟨.repo (.updateTransferState _ state), _⟩ => { m with state := m.state.map fun _ => state }
  | ⟨.repo (.updateTransferFailed _ _), _⟩ => { m with state := m.state.map fun _ => .failed }
  | ⟨.onTransferStateChange _ toState _, _⟩ => { m with changes := m.changes ++ [toState] }
  | _ => m

/-- The answers of a repository that does not fail. -/
def Allows (m : Meter) : (op : Call) → op.Ans → Prop
  | .repo (.getTransferByID id), r =>
      ∃ row, r = .ok row ∧ row.map Transfer.state = m.state ∧ ∀ t, row = some t → t.id = id
  | .repo (.createTransfer t), r => RepoCall.errs (.createTransfer t) r = false ∧ m.state = none
  | .repo call, r => call.errs r = false
  | _, _ => True

end Meter

/-- The transfer `id` in a store, after a history. -/
def meterOf (id : UUID) (h : List CallEv) (s : Store) : Meter := ⟨s.stateOf id, metered h⟩

section

variable [UUIDText] {id : UUID}

/-- A call does to the transfer that it concerns what the meter follows. -/
theorem meter_exec {op : Call} (hof : op.Of id) {env : Env} {s : Store} (hok : Unfailed env op s)
    (h : List CallEv) :
    (meterOf id h s).Allows op (exec env op s).1 ∧
      meterOf id (h ++ [⟨op, (exec env op s).1⟩]) (exec env op s).2 =
        (meterOf id h s).follow ⟨op, (exec env op s).1⟩ := by
  have hquiet : ∀ call, op = .repo call → CallEv.metered ⟨op, (exec env op s).1⟩ = [] := by
    rintro call rfl
    rfl
  cases op with
  | repo call =>
    have hfail : env.fail = none := hok.repoSucceeds rfl
    -- a statement changes the row as `onRow` says, and meters nothing
    have hrow := row_execRepo env call s id
    rw [if_pos hfail] at hrow
    have hmeter : meterOf id (h ++ [⟨.repo call, (exec env (.repo call) s).1⟩])
        (exec env (.repo call) s).2 = ⟨(call.onRow env id (s.row id)).map Transfer.state, metered h⟩ := by
      rw [meterOf, metered_snoc, hquiet call rfl, List.append_nil, Store.stateOf, exec, hrow]
    rw [hmeter]
    subst hof
    cases call with
    | createTransfer t =>
      have hnew : s.row t.id = none := hok.row_eq_none
      refine ⟨⟨hok, ?_⟩, ?_⟩
      · rw [meterOf, Store.stateOf, RepoCall.transferID, hnew]
        rfl
      · simp [RepoCall.onRow, RepoCall.transferID, Meter.follow, meterOf, hnew]
    | getTransferByID id' =>
      refine ⟨⟨s.row id', ?_, rfl, fun t ht => Keyed.Table.key_of_find? ht⟩, ?_⟩
      · rw [exec, execRepo, Env.answer_of_ok hfail]
      · simp [RepoCall.onRow, RepoCall.transferID, Meter.follow, meterOf, Store.stateOf]
    | createTransferEvent e =>
      refine ⟨hok, ?_⟩
      simp [RepoCall.onRow, RepoCall.transferID, Meter.follow, meterOf, Store.stateOf]
    | _ =>
      refine ⟨hok, ?_⟩
      simp [RepoCall.onRow, RepoCall.transferID, Meter.follow, meterOf, Store.stateOf,
        Function.comp_def]
  | onTransferStateChange fromState toState strategy =>
    refine ⟨trivial, ?_⟩
    rw [meterOf, metered_snoc]
    rfl
  | _ =>
    refine ⟨trivial, ?_⟩
    rw [meterOf, metered_snoc]
    simp only [CallEv.metered, List.append_nil]
    rfl

/-- What is proved of a program on the meter of a transfer holds on the store,
    and the other transfers keep their states. -/
theorem wp_of_meter {α : Type} {p : Engine α} {Q : α → Meter → Prop} {h : List CallEv} {s : Store}
    (hp : Prog.awp Meter.follow (fun _ op => op.Of id) Meter.Allows p Q (meterOf id h s)) :
    Prog.wp exec Unfailed p (fun a h' s' => Q a (meterOf id h' s') ∧
      ∀ id', id' ≠ id → s'.row id' = s.row id') h s := by
  let A : Meter → List CallEv → Store → Prop := fun m h' s' => m = meterOf id h' s' ∧
    ∀ id', id' ≠ id → s'.row id' = s.row id'
  have hstart : A (meterOf id h s) h s := ⟨rfl, fun _ _ => rfl⟩
  refine Prog.wp_mono (Prog.wp_of_awp A ?_ hp hstart) ?_
  · rintro m op h' s' hof ⟨rfl, hothers⟩ env hok
    obtain ⟨hallows, hfollow⟩ := meter_exec hof hok h'
    refine ⟨hallows, hfollow.symm, fun id' hne => ?_⟩
    rw [row_exec_of_ne hof hne]
    exact hothers id' hne
  · rintro a h' s' ⟨m, ⟨rfl, hothers⟩, hQ⟩
    exact ⟨hQ, hothers⟩

/-! ## What the programs meter -/

/-- The call concerns `id` or no transfer, and no meter reacts to it. -/
def Call.Beside (id : UUID) (op : Call) : Prop :=
  op.Of id ∧ ∀ (m : Meter) (r : op.Ans), m.follow ⟨op, r⟩ = m

abbrev Metering {α : Type} (id : UUID) (p : Engine α) (Q : α → Meter → Prop) (m : Meter) : Prop :=
  Prog.awp Meter.follow (fun _ op => op.Of id) Meter.Allows p Q m

theorem Metering.beside {α β : Type} {p : Engine β} {f : β → Engine α} {Q : α → Meter → Prop}
    {m : Meter} (hp : p.All (Call.Beside id)) (hf : ∀ b, Metering id (f b) Q m) :
    Metering id (p >>= f) Q m :=
  Prog.awp_skip (hp.mono fun _ hop => ⟨hop.1, hop.2 m⟩) hf

theorem beside_createEvent (eventType : EventType) (message : String)
    (metadata : Option (List (String × String))) :
    (createEvent id eventType message metadata).All (Call.Beside id) :=
  ⟨⟨trivial, fun _ _ => rfl⟩, fun _ => ⟨⟨trivial, fun _ _ => rfl⟩, fun _ =>
    ⟨⟨rfl, fun _ _ => rfl⟩, fun _ => trivial⟩⟩⟩

theorem beside_validateTransferRequest (req : ValidateRequest) :
    (validateTransferRequest req).All (Call.Beside id) := by
  unfold validateTransferRequest
  split
  · trivial
  refine ⟨⟨trivial, fun _ _ => rfl⟩, fun src => ?_⟩
  rcases src with err | (_ | _)
  · trivial
  · trivial
  refine ⟨⟨trivial, fun _ _ => rfl⟩, fun dest => ?_⟩
  rcases dest with err | (_ | _)
  · trivial
  · trivial
  refine ⟨⟨trivial, fun _ _ => rfl⟩, fun empty => ?_⟩
  rcases empty with err | empty
  · trivial
  · exact .ite trivial trivial

theorem beside_applyRetryBackoff (retryCount retryMax : Int) (baseDelay maxDelay : Duration)
    (jitterFactor : ℚ) :
    (applyRetryBackoff retryCount retryMax baseDelay maxDelay jitterFactor).All (Call.Beside id) :=
  .ite trivial ⟨⟨trivial, fun _ _ => rfl⟩, fun _ => trivial⟩

theorem beside_executeCleanup {t : Transfer} (hid : t.id = id) :
    (executeCleanup t).All (Call.Beside id) := by
  subst hid
  exact ⟨⟨rfl, fun _ _ => rfl⟩, fun _ => ⟨⟨rfl, fun _ _ => rfl⟩, fun _ => ⟨⟨rfl, fun _ _ => rfl⟩,
    fun _ => .ite ⟨⟨rfl, fun _ _ => rfl⟩, fun _ => trivial⟩ trivial⟩⟩⟩

/-- What a cancellation or a report does: nothing that counts, or it ends the
    transfer and meters its final state. -/
inductive Metered (m : Meter) : Meter → Prop where
  | kept : Metered m m
  | ended {state final : TransferState} (before : m.state = some state) (edge : state.Edge final)
      (terminal : final.isTerminal = true) :
      Metered m ⟨some final, m.changes ++ [final.text]⟩

/-- What a creation does: it inserts a transfer that is started or refused, and
    meters nothing. -/
inductive Opened (m : Meter) : Meter → Prop where
  | opened {state : TransferState} (fresh : m.state = none)
      (opens : state = .transferring ∨ state = .failed) : Opened m ⟨some state, m.changes⟩

namespace Orchestrator

variable {o : Orchestrator} {m : Meter} {t : Transfer}

theorem beside_closeTransfer (o : Orchestrator) (transferID : UUID) :
    (o.closeTransfer transferID).All (Call.Beside id) :=
  .ite ⟨⟨trivial, fun _ _ => rfl⟩, fun _ => trivial⟩ trivial

theorem beside_publish (o : Orchestrator) (transferID : UUID) (progress : EnrichedProgress) :
    (o.publish transferID progress).All (Call.Beside id) :=
  .ite ⟨⟨trivial, fun _ _ => rfl⟩, fun _ => trivial⟩ trivial

theorem beside_onProgressReport (o : Orchestrator) (bytes : Int) (speed : Float64) :
    (o.onProgressReport bytes speed).All (Call.Beside id) :=
  .ite ⟨⟨trivial, fun _ _ => rfl⟩, fun _ => trivial⟩ trivial

theorem beside_onTransferError (o : Orchestrator) (category : String) :
    (o.onTransferError category).All (Call.Beside id) :=
  .ite ⟨⟨trivial, fun _ _ => rfl⟩, fun _ => trivial⟩ trivial

/-- With a recorder, a change of state is metered. -/
theorem metering_onTransferStateChange {α : Type} (hmetrics : o.metrics = true)
    {fromState toState strategy : String} {f : Unit → Engine α} {Q : α → Meter → Prop}
    (hf : Metering id (f ()) Q ⟨m.state, m.changes ++ [toState]⟩) :
    Metering id (o.onTransferStateChange fromState toState strategy >>= f) Q m := by
  have hperform : o.onTransferStateChange fromState toState strategy =
      .perform (Call.onTransferStateChange fromState toState strategy) := if_pos hmetrics
  rw [hperform]
  exact Prog.awp_perform trivial fun _ _ => hf

theorem metering_handleCompleted (hmetrics : o.metrics = true) (hid : t.id = id)
    (hstate : m.state = some t.state) :
    Metering id (o.handleCompleted id t) (fun _ m' => Metered m m') m := by
  unfold handleCompleted
  cases hmove : t.transitionTo .completed with
  | error err => exact .kept
  | ok t' =>
    obtain ⟨hedge, rfl⟩ := Transfer.transitionTo_eq_ok.mp hmove
    refine Prog.awp_perform rfl fun written hwritten => ?_
    rcases written with err | _
    · cases hwritten
    refine Prog.awp_perform rfl fun completed hcompleted => ?_
    rcases completed with err | _
    · cases hcompleted
    refine Metering.beside (beside_createEvent _ _ _) fun _ => ?_
    refine Metering.beside (o.beside_closeTransfer id) fun _ => ?_
    refine metering_onTransferStateChange hmetrics ?_
    refine Metering.beside (beside_executeCleanup hid) fun _ => ?_
    show Metered m ⟨m.state.map fun _ => .completed, m.changes ++ ["completed"]⟩
    rw [hstate]
    exact .ended hstate hedge rfl

theorem metering_handleFailed (hmetrics : o.metrics = true) (hid : t.id = id)
    (hstate : m.state = some t.state) (errorMessage : String) :
    Metering id (o.handleFailed id errorMessage t) (fun _ m' => Metered m m') m := by
  unfold handleFailed
  refine Metering.beside (beside_applyRetryBackoff _ _ _ _ _) fun decision => ?_
  split
  · -- a retry is counted, which changes no state
    refine Prog.awp_perform rfl fun counted _ => ?_
    rcases counted with err | _
    · exact .kept
    exact Metering.beside (beside_createEvent _ _ _) fun _ => .kept
  unfold handleExhausted
  cases hmove : t.transitionTo .failed with
  | error err => exact .kept
  | ok t' =>
    obtain ⟨hedge, rfl⟩ := Transfer.transitionTo_eq_ok.mp hmove
    refine Prog.awp_perform rfl fun written hwritten => ?_
    rcases written with err | _
    · cases hwritten
    refine Metering.beside (beside_createEvent _ _ _) fun _ => ?_
    refine Metering.beside (o.beside_closeTransfer id) fun _ => ?_
    refine metering_onTransferStateChange hmetrics ?_
    refine Metering.beside (o.beside_onTransferError _) fun _ => ?_
    refine Metering.beside (beside_executeCleanup hid) fun _ => ?_
    show Metered m ⟨m.state.map fun _ => .failed, m.changes ++ ["failed"]⟩
    rw [hstate]
    exact .ended hstate hedge rfl

theorem metering_cancelTransfer (hmetrics : o.metrics = true) :
    Metering id (o.cancelTransfer id) (fun _ m' => Metered m m') m := by
  unfold cancelTransfer
  refine Prog.awp_perform rfl fun loaded hloaded => ?_
  obtain ⟨row, rfl, hstate, hid⟩ := hloaded
  cases row with
  | none => exact .kept
  | some t =>
    dsimp only
    split
    · exact .kept
    cases hmove : t.transitionTo .cancelled with
    | error err => exact .kept
    | ok t' =>
      obtain ⟨hedge, rfl⟩ := Transfer.transitionTo_eq_ok.mp hmove
      refine Metering.beside ⟨⟨trivial, fun _ _ => rfl⟩, fun _ => trivial⟩ fun now => ?_
      refine Prog.awp_perform rfl fun written hwritten => ?_
      rcases written with err | _
      · cases hwritten
      refine Prog.awp_perform rfl fun completed hcompleted => ?_
      rcases completed with err | _
      · cases hcompleted
      refine Metering.beside (beside_createEvent _ _ _) fun _ => ?_
      refine Metering.beside (o.beside_closeTransfer id) fun _ => ?_
      refine metering_onTransferStateChange hmetrics ?_
      have htext : t.id = id := hid t rfl
      refine Metering.beside ⟨⟨rfl, fun _ _ => rfl⟩, fun _ => trivial⟩ fun _ => ?_
      refine Metering.beside ⟨⟨rfl, fun _ _ => rfl⟩, fun _ => trivial⟩ fun _ => ?_
      refine Metering.beside (beside_executeCleanup htext) fun _ => ?_
      show Metered m ⟨m.state.map fun _ => .cancelled, m.changes ++ ["cancelled"]⟩
      rw [← hstate]
      exact .ended hstate.symm hedge rfl

theorem metering_handleStatus (hmetrics : o.metrics = true) (report : ProgressReport) {t : Transfer}
    (hid : t.id = report.transferID) (hstate : m.state = some t.state) :
    Metering report.transferID (o.handleStatus report t) (fun _ m' => Metered m m') m := by
  unfold handleStatus
  split
  · exact metering_handleCompleted hmetrics hid hstate
  split
  · exact metering_handleFailed hmetrics hid hstate _
  · exact .kept

theorem metering_handleProgress (hmetrics : o.metrics = true) (report : ProgressReport) :
    Metering report.transferID (o.handleProgress report) (fun _ m' => Metered m m') m := by
  unfold handleProgress
  refine Prog.awp_perform rfl fun loaded hloaded => ?_
  obtain ⟨row, rfl, hstate, hid⟩ := hloaded
  cases row with
  | none => exact .kept
  | some t =>
    refine Prog.awp_perform rfl fun updated hupdated => ?_
    rcases updated with err | _
    · cases hupdated
    refine Metering.beside (beside_createEvent _ _ _) fun _ => ?_
    refine Metering.beside (o.beside_publish _ _) fun _ => ?_
    refine Metering.beside (o.beside_onProgressReport _ _) fun reported => ?_
    rcases reported with _ | _ | _
    · exact Prog.awp_bind (Prog.awp_mono
        (metering_handleStatus hmetrics report (hid t rfl) hstate.symm) fun _ _ hmetered => hmetered)
    · exact .kept
    · exact .kept

/-- A failure exit of a creation. -/
theorem metering_failTransfer {α : Type} {errorMessage eventMessage : String}
    {m₁ : Meter} {state : TransferState} {a : α} (hfresh : m.state = none)
    (hm₁ : m₁ = ⟨some state, m.changes⟩) :
    Metering id (do failTransfer id errorMessage eventMessage; return a)
      (fun _ m' => Opened m m') m₁ := by
  subst hm₁
  refine ⟨rfl, fun _ _ => Metering.beside (beside_createEvent _ _ _) fun _ => ?_⟩
  exact .opened hfresh (.inr rfl)

theorem metering_startTransfer (req : CreateTransferRequest) (hid : t.id = id)
    (hstate : t.state = .validating) {m₁ : Meter} (hfresh : m.state = none)
    (hm₁ : m₁ = ⟨some .validating, m.changes⟩) :
    Metering id (o.startTransfer req t) (fun _ m' => Opened m m') m₁ := by
  subst hid hm₁
  unfold startTransfer
  -- the override is refused: the transfer is failed at once
  split
  · exact ⟨rfl, fun _ _ => .opened hfresh (.inr rfl)⟩
  rename_i strategy _
  refine Prog.awp_perform rfl fun persisted hpersisted => ?_
  rcases persisted with err | _
  · cases hpersisted
  have hmove : ({ t with strategy } : Transfer).transitionTo .transferring =
      .ok { t with strategy, state := .transferring } := by
    refine Transfer.transitionTo_eq_ok.mpr ⟨?_, rfl⟩
    show t.state.Edge .transferring
    rw [hstate]
    decide
  simp only [hmove]
  refine Prog.awp_perform rfl fun written hwritten => ?_
  rcases written with err | _
  · cases hwritten
  refine Prog.awp_perform rfl fun started hstarted => ?_
  rcases started with err | _
  · cases hstarted
  refine Metering.beside (beside_createEvent _ _ _) fun _ => ?_
  unfold commandAgents
  -- a command that fails takes the transfer from `transferring` to `failed`, unmetered
  refine Prog.awp_perform rfl fun src _ => ?_
  rcases src with err | _
  · exact metering_failTransfer hfresh rfl
  refine Prog.awp_perform rfl fun dest _ => ?_
  rcases dest with err | _
  · exact metering_failTransfer hfresh rfl
  · exact .opened hfresh (.inl rfl)

theorem metering_admitTransfer (req : CreateTransferRequest) (hid : t.id = id)
    (hstate : t.state = .pending) :
    Metering id (o.admitTransfer req t) (fun _ m' => Opened m m') m := by
  subst hid
  unfold admitTransfer
  refine Prog.awp_perform rfl fun inserted hinserted => ?_
  obtain ⟨hok, hfresh⟩ := hinserted
  rcases inserted with err | _
  · cases hok
  refine Metering.beside (beside_createEvent _ _ _) fun _ => ?_
  have hmove : t.transitionTo .validating = .ok { t with state := .validating } := by
    refine Transfer.transitionTo_eq_ok.mpr ⟨?_, rfl⟩
    rw [hstate]
    decide
  simp only [hmove]
  refine Prog.awp_perform rfl fun written hwritten => ?_
  rcases written with err | _
  · cases hwritten
  refine Metering.beside (beside_validateTransferRequest _) fun valid => ?_
  rcases valid with err | _
  · exact metering_failTransfer hfresh rfl
  refine Metering.beside (beside_createEvent _ _ _) fun _ => ?_
  exact metering_startTransfer (t := { t with state := .validating }) req rfl rfl hfresh rfl

end Orchestrator

/-- What a request does to the one transfer that it is about, and meters. -/
theorem wp_serve_metered {o : Orchestrator} (hmetrics : o.metrics = true) (request : Request)
    (h : List CallEv) (s : Store) :
    Prog.wp exec Unfailed (o.serve request) (fun _ h' s' => ∃ id,
      (if request.creates then Opened (meterOf id h s) (meterOf id h' s')
        else Metered (meterOf id h s) (meterOf id h' s')) ∧
      ∀ id', id' ≠ id → s'.row id' = s.row id') h s := by
  cases request with
  | createTransfer req =>
    refine (Prog.wp_bind _ _).mpr ?_
    refine Prog.wp_perform fun env _ => Prog.wp_perform fun env' _ => ?_
    -- the identifier is drawn before anything is done to the transfer
    have hsame : ∀ r r', meterOf env.uuid (h ++ [⟨.newUUID, r⟩] ++ [⟨.timeNow, r'⟩]) s =
        meterOf env.uuid h s := by
      intro r r'
      rw [meterOf, metered_snoc, metered_snoc, meterOf]
      simp only [CallEv.metered, List.append_nil]
    refine Prog.wp_mono (wp_of_meter (Orchestrator.metering_admitTransfer req rfl rfl)) ?_
    rintro a h' s' ⟨hopened, hothers⟩
    refine ⟨env.uuid, ?_, hothers⟩
    rw [← hsame]
    exact hopened
  | cancelTransfer id =>
    refine (Prog.wp_bind _ _).mpr (Prog.wp_mono (wp_of_meter
      (Orchestrator.metering_cancelTransfer hmetrics)) ?_)
    rintro a h' s' ⟨hmetered, hothers⟩
    exact ⟨id, hmetered, hothers⟩
  | handleProgress report =>
    refine (Prog.wp_bind _ _).mpr (Prog.wp_mono (wp_of_meter
      (Orchestrator.metering_handleProgress hmetrics report)) ?_)
    rintro a h' s' ⟨hmetered, hothers⟩
    exact ⟨report.transferID, hmetered, hothers⟩

end

/-! ## The books -/

/-- The number of stored transfers in a state. -/
def Store.count (s : Store) (state : TransferState) : Nat :=
  s.transfers.rows.countP fun t => t.state = state

/-- Where only one transfer changes, the counts change by that one. -/
theorem Store.count_of_row_eq {s s' : Store} {id : UUID}
    (hothers : ∀ id', id' ≠ id → s'.row id' = s.row id') (state : TransferState) :
    s'.count state + (if s.stateOf id = some state then 1 else 0) =
      s.count state + if s'.stateOf id = some state then 1 else 0 := by
  have hany : ∀ s : Store, (s.row id).any (fun t => t.state = state) = true ↔
      s.stateOf id = some state := by
    intro s
    rw [Store.stateOf]
    cases s.row id <;> simp
  have hcount := Keyed.Table.countP_of_find?_eq hothers fun t => t.state = state
  simp only [← hany]
  exact hcount

/-- Between two requests: the collectors miss the transfers that creations have
    started, and those that they have refused. -/
structure Balanced (started refused : Nat) (h : List CallEv) (s : Store) : Prop where
  settled : ∀ id state, s.stateOf id = some state → state = .transferring ∨ state.isTerminal = true
  final : ∀ status ∈ metered h, ∃ state : TransferState,
    state.isTerminal = true ∧ status = state.text
  active : s.count .transferring + (metered h).length = started
  ended : ∀ state : TransferState, state.isTerminal = true →
    s.count state = (metered h).count state.text + if state = .failed then refused else 0

theorem balanced_empty : Balanced 0 0 [] .empty where
  settled id state hstate := by cases hstate
  final status hstatus := by cases hstatus
  active := rfl
  ended state _ := by
    rw [ite_self]
    rfl

theorem TransferState.text_injective : Function.Injective TransferState.text := by
  intro state state' h
  cases state <;> cases state' <;> first | rfl | exact absurd h (by decide)

namespace Balanced

variable {started refused : Nat} {h h' : List CallEv} {s s' : Store} {id : UUID}

/-- Where one transfer is settled, and the others stay as they are, all are settled. -/
theorem settled_of_others (hb : Balanced started refused h s)
    (hothers : ∀ id', id' ≠ id → s'.row id' = s.row id')
    (hsettled : ∀ state, s'.stateOf id = some state →
      state = .transferring ∨ state.isTerminal = true) :
    ∀ id' state, s'.stateOf id' = some state → state = .transferring ∨ state.isTerminal = true := by
  intro id' state hstate
  by_cases hne : id' = id
  · rw [hne] at hstate
    exact hsettled state hstate
  · refine hb.settled id' state ?_
    rw [Store.stateOf, ← hothers id' hne]
    exact hstate

/-- A cancellation or a report leaves the books as they are, or moves a transfer
    and meters it. -/
theorem of_metered (hb : Balanced started refused h s)
    (hmetered : Metered (meterOf id h s) (meterOf id h' s'))
    (hothers : ∀ id', id' ≠ id → s'.row id' = s.row id') : Balanced started refused h' s' := by
  have hcount := Store.count_of_row_eq hothers
  generalize hm : meterOf id h s = m at hmetered
  generalize hm' : meterOf id h' s' = m' at hmetered
  cases hmetered with
  | kept =>
    have hstate : s'.stateOf id = s.stateOf id := congrArg Meter.state (hm'.trans hm.symm)
    have hchanges : metered h' = metered h := congrArg Meter.changes (hm'.trans hm.symm)
    have hsame : ∀ state, s'.count state = s.count state := by
      intro state
      have hone := hcount state
      rw [hstate] at hone
      omega
    refine ⟨hb.settled_of_others hothers fun state hnow => ?_, ?_, ?_, fun state hstate' => ?_⟩
    · rw [hstate] at hnow
      exact hb.settled id state hnow
    · rw [hchanges]
      exact hb.final
    · rw [hsame, hchanges]
      exact hb.active
    · rw [hsame, hchanges]
      exact hb.ended state hstate'
  | @ended state final before edge terminal =>
    have hbefore : s.stateOf id = some state := (congrArg Meter.state hm).trans before
    have hafter : s'.stateOf id = some final := congrArg Meter.state hm'
    have hold : metered h = m.changes := congrArg Meter.changes hm
    have hchanges : metered h' = metered h ++ [final.text] := by
      rw [hold]
      exact congrArg Meter.changes hm'
    -- a settled transfer that can still move is transferring
    have htransferring : state = .transferring := by
      rcases hb.settled id state hbefore with heq | hterm
      · exact heq
      · rw [edge.not_isTerminal] at hterm
        cases hterm
    -- so one transfer leaves `transferring`, and enters the state that is metered
    have hmoved : ∀ st, s'.count st + (if state = st then 1 else 0) =
        s.count st + if final = st then 1 else 0 := by
      intro st
      have hone := hcount st
      rw [hbefore, hafter] at hone
      simpa only [Option.some_inj] using hone
    refine ⟨hb.settled_of_others hothers fun st hst => ?_, ?_, ?_, fun st hst => ?_⟩
    · rw [hafter, Option.some_inj] at hst
      exact .inr (hst ▸ terminal)
    · rw [hchanges, List.forall_mem_append, List.forall_mem_singleton]
      exact ⟨hb.final, final, terminal, rfl⟩
    · have hone := hmoved .transferring
      have hne : final ≠ .transferring := by
        rintro rfl
        cases terminal
      have hactive := hb.active
      rw [if_pos htransferring, if_neg hne] at hone
      rw [hchanges, List.length_append, List.length_singleton]
      omega
    · have hone := hmoved st
      have hne : state ≠ st := by
        rintro rfl
        rw [htransferring] at hst
        cases hst
      have hended := hb.ended st hst
      have htext : (final.text = st.text) = (final = st) :=
        propext TransferState.text_injective.eq_iff
      rw [if_neg hne] at hone
      rw [hchanges, List.count_append, List.count_singleton]
      simp only [beq_iff_eq, htext]
      omega

/-- A creation starts a transfer, or refuses it, and meters neither. -/
theorem of_opened (hb : Balanced started refused h s)
    (hopened : Opened (meterOf id h s) (meterOf id h' s'))
    (hothers : ∀ id', id' ≠ id → s'.row id' = s.row id') :
    Balanced (started + 1) refused h' s' ∨ Balanced started (refused + 1) h' s' := by
  have hcount := Store.count_of_row_eq hothers
  generalize hm : meterOf id h s = m at hopened
  generalize hm' : meterOf id h' s' = m' at hopened
  cases hopened with
  | @opened state fresh opens =>
    have hbefore : s.stateOf id = none := (congrArg Meter.state hm).trans fresh
    have hafter : s'.stateOf id = some state := congrArg Meter.state hm'
    have hold : metered h = m.changes := congrArg Meter.changes hm
    have hchanges : metered h' = metered h := hold ▸ congrArg Meter.changes hm'
    have hmore : ∀ st, s'.count st = s.count st + if state = st then 1 else 0 := by
      intro st
      have hone := hcount st
      rw [hbefore, hafter] at hone
      simpa only [Option.some_inj, reduceCtorEq, if_false, Nat.add_zero] using hone
    have hsettled := hb.settled_of_others hothers fun st hst => by
      rw [hafter, Option.some_inj] at hst
      subst hst
      rcases opens with rfl | rfl
      · exact .inl rfl
      · exact .inr rfl
    -- it is transferring and the gauge has not moved, or failed and no counter has
    rcases opens with rfl | rfl
    · refine .inl ⟨hsettled, hchanges ▸ hb.final, ?_, fun st hst => ?_⟩
      · have hactive := hb.active
        rw [hmore, if_pos rfl, hchanges]
        omega
      · have hne : TransferState.transferring ≠ st := by
          rintro rfl
          cases hst
        rw [hmore, if_neg hne, hchanges]
        exact hb.ended st hst
    · refine .inr ⟨hsettled, hchanges ▸ hb.final, ?_, fun st hst => ?_⟩
      · rw [hmore, if_neg nofun, hchanges]
        exact hb.active
      · have hended := hb.ended st hst
        rw [hmore, hchanges, hended]
        by_cases hfailed : st = .failed
        · rw [if_pos hfailed, if_pos hfailed, if_pos hfailed.symm]
          omega
        · rw [if_neg hfailed, if_neg hfailed, if_neg (Ne.symm hfailed)]

/-- What the gauge and the counters show. -/
theorem collectors (hb : Balanced started refused h s) {m : Metrics}
    (hafter : Metrics.after h = .done m) :
    m.transfersActive + started = s.count .transferring ∧
    ∀ state : TransferState, state.isTerminal = true →
      m.totalWith state.text + (if state = .failed then refused else 0) = s.count state := by
  obtain ⟨hactive, htotal⟩ := Metrics.after_done hafter
  have hdelta : ∀ changes : List String, (∀ status ∈ changes, ∃ state : TransferState,
      state.isTerminal = true ∧ status = state.text) →
      (changes.map Metrics.activeDelta).sum = -changes.length := by
    intro changes hall
    have hmap : changes.map Metrics.activeDelta = changes.map fun _ => -1 := by
      refine List.map_congr_left fun status hstatus => ?_
      obtain ⟨state, hterm, rfl⟩ := hall status hstatus
      cases state <;> first | rfl | cases hterm
    rw [hmap, List.map_const', List.sum_replicate]
    simp
  refine ⟨?_, fun state hstate => ?_⟩
  · have hbooks := hb.active
    rw [hactive, hdelta _ hb.final]
    omega
  · rw [htotal, hb.ended state hstate]

end Balanced

/-! ## Runs -/

/-- The gauge is the number of transfers that are transferring, and the counter
    of every terminal status the number of transfers in that state. -/
structure Metrics.Agrees (m : Metrics) (s : Store) : Prop where
  active : m.transfersActive = s.count .transferring
  total : ∀ final : TransferState, final.isTerminal = true →
    m.totalWith final.text = s.count final

section

variable [UUIDText] {o : Orchestrator}

/-- What the collectors are off by, in every run. -/
theorem balanced_of_run (hmetrics : o.metrics = true) {steps : List (Request × Store)}
    {h : List CallEv} {s : Store} (hrun : Prog.SeqRun exec Unfailed o.serve .empty steps h s) :
    ∃ started refused, Balanced started refused h s ∧
      started + refused = steps.countP fun step => step.1.creates := by
  refine hrun.invariant (I := fun steps h s => ∃ started refused, Balanced started refused h s ∧
    started + refused = steps.countP fun step => step.1.creates) ⟨0, 0, balanced_empty, rfl⟩ ?_
  rintro request steps h s ⟨started, refused, hb, hsum⟩
  refine Prog.wp_mono (wp_serve_metered hmetrics request h s) ?_
  rintro a h' s' ⟨id, hdone, hothers⟩
  rw [List.countP_append, List.countP_singleton, ← hsum]
  by_cases hcreates : request.creates = true
  · rw [if_pos hcreates] at hdone ⊢
    rcases hb.of_opened hdone hothers with hstarted | hrefused
    · exact ⟨started + 1, refused, hstarted, by omega⟩
    · exact ⟨started, refused + 1, hrefused, by omega⟩
  · rw [if_neg hcreates] at hdone ⊢
    exact ⟨started, refused, hb.of_metered hdone hothers, rfl⟩

/-- Every run in which the repository does not fail, between any two requests:
    the collectors agree with the table exactly when no request was a creation. -/
theorem metricsAgree_iff (hmetrics : o.metrics = true) {steps : List (Request × Store)}
    {h : List CallEv} {s : Store} (hrun : Prog.SeqRun exec Unfailed o.serve .empty steps h s)
    {m : Metrics} (hafter : Metrics.after h = .done m) :
    m.Agrees s ↔ ∀ step ∈ steps, step.1.creates = false := by
  obtain ⟨started, refused, hb, hsum⟩ := balanced_of_run hmetrics hrun
  obtain ⟨hactive, htotal⟩ := hb.collectors hafter
  have hnone : (∀ step ∈ steps, step.1.creates = false) ↔ started + refused = 0 := by
    rw [hsum, List.countP_eq_zero]
    exact forall₂_congr fun step _ => Iff.of_eq (Bool.not_eq_true _).symm
  rw [hnone]
  constructor
  · rintro ⟨hgauge, hcounters⟩
    have hfailed := htotal .failed rfl
    rw [if_pos rfl, hcounters .failed rfl] at hfailed
    rw [hgauge] at hactive
    omega
  · intro hzero
    have hstarted : started = 0 := by omega
    have hrefused : refused = 0 := by omega
    refine ⟨?_, fun final hfinal => ?_⟩
    · rw [← hactive, hstarted]
      exact (add_zero _).symm
    · rw [← htotal final hfinal, hrefused, ite_self]
      rfl

end

/-! ## Sample runs -/

/-- The sample orchestrator, with a recorder. -/
def meteredOrchestrator : Orchestrator := { plainOrchestrator with metrics := true }

/-- Where the sample orchestrator gets to with some requests. -/
def meteredEnd (runs : List (Request × List Env)) : Option (List CallEv × Store) :=
  Prog.evalAll exec Unfailed (@Orchestrator.serve canonicalText meteredOrchestrator) .empty runs

/-- A transfer is created and cancelled: the collectors are wrong, because of its creation. -/
theorem metricsAgree_iff_created :
    ∃ steps h s, Prog.SeqRun exec Unfailed (@Orchestrator.serve canonicalText meteredOrchestrator)
        .empty steps h s ∧
      steps.map Prod.fst = [.createTransfer sampleRequest, .cancelTransfer 7] ∧
      ∃ m, Metrics.after h = .done m ∧ ¬ m.Agrees s := by
  have hend : (meteredEnd [(.createTransfer sampleRequest, calls 7 21), (.cancelTransfer 7, calls 100 13)]).any
      fun out =>
        match Metrics.after out.1 with
        | .done _ => true
        | _ => false := by decide +kernel
  obtain ⟨⟨h, s⟩, hruns, hout⟩ := (Option.any_eq_true _ _).mp hend
  obtain ⟨steps, hsteps, hrun⟩ := Prog.SeqRun.init.of_evalAll hruns
  cases hafter : Metrics.after h with
  | done m =>
    refine ⟨_, _, s, hrun, hsteps, m, hafter, fun hagrees => ?_⟩
    have hnone := (@metricsAgree_iff canonicalText meteredOrchestrator rfl _ _ _ hrun _ hafter).mp hagrees
    obtain ⟨step, hstep, hcreates⟩ := List.mem_map.mp
      (hsteps ▸ List.mem_cons_self : Request.createTransfer sampleRequest ∈ steps.map Prod.fst)
    have hidle := hnone step hstep
    rw [hcreates] at hidle
    cases hidle
  | blocks => rw [hafter] at hout; cases hout
  | panics => rw [hafter] at hout; cases hout

/-- A transfer has been started, and the gauge does not know of it. -/
theorem not_metricsAgree_created :
    ¬ ∀ steps h s, Prog.SeqRun exec Unfailed
        (@Orchestrator.serve canonicalText meteredOrchestrator) .empty steps h s →
      ∀ m, Metrics.after h = .done m → m.Agrees s := by
  intro hall
  have hend : (meteredEnd [(.createTransfer sampleRequest, calls 7 21)]).any fun out =>
      match Metrics.after out.1 with
      | .done m => m.transfersActive = 0 ∧ out.2.count .transferring = 1
      | _ => false := by decide +kernel
  obtain ⟨⟨h, s⟩, hruns, hout⟩ := (Option.any_eq_true _ _).mp hend
  obtain ⟨steps, -, hrun⟩ := Prog.SeqRun.init.of_evalAll hruns
  cases hafter : Metrics.after h with
  | done m =>
    rw [hafter] at hout
    obtain ⟨hactive, hcount⟩ := of_decide_eq_true hout
    have hagrees := (hall _ _ s hrun m hafter).active
    rw [hactive, hcount] at hagrees
    cases hagrees
  | blocks => rw [hafter] at hout; cases hout
  | panics => rw [hafter] at hout; cases hout

end Katapult
