/-
  Katapult.Transfer.Footprint

  Which calls the parts of the engine can make, and what any call does to the
  stored state and to the timeline of one transfer.  Everything said later
  about runs rests on these two step lemmas, `stateOf_exec` and
  `timeline_exec`, and never unfolds the repository again.
-/

import Katapult.Transfer.Orchestrator
import Katapult.Store.TransferRepository

namespace Katapult

open Effect Channel

/-! ## The state column -/

/-- The state that the call, an UPDATE of the row of `id`, writes. -/
def Call.writtenState (id : UUID) : Call → Option TransferState
  | .repo (.updateTransferState id' state) => if id' = id then some state else none
  | .repo (.updateTransferFailed id' _) => if id' = id then some .failed else none
  | _ => none

theorem Call.writtenState_eq_some {id : UUID} {op : Call} {state : TransferState} :
    op.writtenState id = some state ↔
      op = .repo (.updateTransferState id state) ∨
      ∃ errorMessage, op = .repo (.updateTransferFailed id errorMessage) ∧ state = .failed := by
  cases op with
  | repo call =>
    cases call with
    | updateTransferState id' state' =>
      by_cases hid : id' = id <;> simp [Call.writtenState, hid]
    | updateTransferFailed id' errorMessage =>
      by_cases hid : id' = id
      · subst hid
        simp [Call.writtenState, eq_comm]
      · simp [Call.writtenState, hid]
    | _ => simp [Call.writtenState]
  | _ => simp [Call.writtenState]

/-- The call inserts a row for `id`. -/
def Call.inserts (id : UUID) : Call → Prop
  | .repo (.createTransfer t) => t.id = id
  | _ => False

theorem Call.inserts_iff {id : UUID} {op : Call} :
    op.inserts id ↔ ∃ t, op = .repo (.createTransfer t) ∧ t.id = id := by
  cases op with
  | repo call => cases call <;> simp [Call.inserts]
  | _ => simp [Call.inserts]

/-- The call neither inserts the row of `id` nor writes its state. -/
def Call.Inert (id : UUID) (op : Call) : Prop := op.writtenState id = none ∧ ¬ op.inserts id

/-- All that a call can do to a stored state: leave it, overwrite it with the
    state it writes, or be the insertion of the row. -/
theorem stateOf_exec (env : Env) (op : Call) (s : Store) (id : UUID) :
    (exec env op s).2.stateOf id = s.stateOf id ∨
    (∃ state, op.writtenState id = some state ∧
      (exec env op s).2.stateOf id = (s.stateOf id).map fun _ => state) ∨
    ∃ t, op = .repo (.createTransfer t) ∧ t.id = id ∧ s.row id = none ∧
      (exec env op s).2.stateOf id = some t.state := by
  cases op with
  | repo call =>
    have hrow := row_execRepo env call s id
    simp only [exec, Store.stateOf]
    rw [hrow]
    cases hfail : env.fail with
    | some err => simp
    | none =>
      cases call with
      | createTransfer t =>
        by_cases hnew : t.id = id ∧ s.row id = none
        · exact .inr (.inr ⟨t, rfl, hnew.1, hnew.2, by simp [RepoCall.onRow, hnew]⟩)
        · exact .inl (by simp [RepoCall.onRow, hnew])
      | updateTransferState id' state =>
        by_cases hid : id = id'
        · subst hid
          refine .inr (.inl ⟨state, by simp [Call.writtenState], ?_⟩)
          cases s.row id <;> simp [RepoCall.onRow]
        · exact .inl (by simp [RepoCall.onRow, hid])
      | updateTransferFailed id' errorMessage =>
        by_cases hid : id = id'
        · subst hid
          refine .inr (.inl ⟨.failed, by simp [Call.writtenState], ?_⟩)
          cases s.row id <;> simp [RepoCall.onRow]
        · exact .inl (by simp [RepoCall.onRow, hid])
      | getTransferByID id' => exact .inl (by simp [RepoCall.onRow])
      | createTransferEvent e => exact .inl (by simp [RepoCall.onRow])
      | _ =>
        -- the other columns
        refine .inl ?_
        simp only [RepoCall.onRow, if_true]
        split <;> cases s.row id <;> rfl
  | _ => exact .inl rfl

theorem stateOf_exec_of_inert {id : UUID} {op : Call} (h : op.Inert id) (env : Env) (s : Store) :
    (exec env op s).2.stateOf id = s.stateOf id := by
  rcases stateOf_exec env op s id with hsame | ⟨state, hw, -⟩ | ⟨t, rfl, hid, -⟩
  · exact hsame
  · rw [h.1] at hw
    cases hw
  · exact absurd hid h.2

theorem stateOf_exec_of_write {id : UUID} {op : Call} {state : TransferState}
    (h : op.writtenState id = some state) {env : Env} (hfail : env.fail = none) (s : Store) :
    (exec env op s).2.stateOf id = (s.stateOf id).map fun _ => state := by
  cases op with
  | repo call =>
    have hrow := row_execRepo env call s id
    simp only [exec, Store.stateOf]
    rw [hrow, if_pos hfail]
    cases call <;> simp only [Call.writtenState, reduceCtorEq] at h <;>
      split at h <;> simp_all [RepoCall.onRow] <;> rfl
  | _ => cases h

/-- An UPDATE of the state that was answered with success has been made. -/
theorem stateOf_exec_of_written {id : UUID} {state : TransferState} {env : Env} {s : Store}
    (h : (exec env (.repo (.updateTransferState id state)) s).1 = .ok ()) :
    (exec env (.repo (.updateTransferState id state)) s).2.stateOf id =
      (s.stateOf id).map fun _ => state := by
  cases hfail : env.fail with
  | some err =>
    simp only [exec, execRepo, Env.write_of_fail hfail] at h
    cases h
  | none => exact stateOf_exec_of_write (Call.writtenState_eq_some.mpr (.inl rfl)) hfail s

/-- After an insertion of the row of `id` that the database accepts. -/
theorem stateOf_exec_of_insert {t : Transfer} {env : Env} {s : Store}
    (h : (exec env (.repo (.createTransfer t)) s).1 = .ok ()) :
    (exec env (.repo (.createTransfer t)) s).2.stateOf t.id = some t.state := by
  rw [Store.stateOf, row_exec_of_insert h]
  rfl

/-- An insertion never changes the state of a row that is already there. -/
theorem stateOf_exec_insert_of_some {t : Transfer} {id : UUID} {state : TransferState} {env : Env}
    {s : Store} (h : s.stateOf id = some state) :
    (exec env (.repo (.createTransfer t)) s).2.stateOf id = some state := by
  rcases stateOf_exec env (.repo (.createTransfer t)) s id with hsame | ⟨_, hw, -⟩ | ⟨_, -, -, hrow, -⟩
  · exact hsame.trans h
  · cases hw
  · simp [Store.stateOf, hrow] at h

/-! ## The timeline -/

/-- What an answered call has recorded for a transfer. -/
def CallEv.recorded (id : UUID) : CallEv → List TransferEvent
  | ⟨.repo (.createTransferEvent e), .ok _⟩ => if e.transferID = id then [e] else []
  | _ => []

/-- A call appends to a timeline what it records. -/
theorem timeline_exec_eq (env : Env) (op : Call) (s : Store) (id : UUID) :
    (exec env op s).2.timeline id =
      s.timeline id ++ CallEv.recorded id ⟨op, (exec env op s).1⟩ := by
  have hsame : s.timeline id = s.timeline id ++ [] := (List.append_nil _).symm
  -- a statement on the other table
  have hother : ∀ statement : Store → Except Err Store,
      (∀ s', statement s = .ok s' → s'.events = s.events) →
      (env.write s statement).2.timeline id = s.timeline id ++ [] := by
    intro statement hevents
    rw [List.append_nil]
    rcases env.write_cases s statement with ⟨err, hwrite⟩ | ⟨s', hs', hwrite⟩
    · rw [hwrite]
    · rw [hwrite, Store.timeline, hevents s' hs', Store.timeline]
  cases op with
  | repo call =>
    cases call with
    | createTransferEvent e =>
      simp only [exec, execRepo]
      rcases env.write_cases s (Store.insertEvent · e) with ⟨err, hwrite⟩ | ⟨s', hins, hwrite⟩
      · rw [hwrite]
        exact hsame
      · rw [hwrite, Store.timeline_of_insertEvent hins]
        rfl
    | createTransfer t => exact hother _ fun s' hins => (Store.insertTransfer_eq_ok hins).2.1
    | getTransferByID id' => exact hsame
    | _ => exact hother _ fun s' hs' => Store.events_of_updateTransfer hs'
  | _ => exact hsame

theorem CallEv.recorded_cases (id : UUID) (ev : CallEv) :
    ev.recorded id = [] ∨ ∃ e, ev.1 = .repo (.createTransferEvent e) ∧ e.transferID = id ∧
      ev.recorded id = [e] := by
  unfold CallEv.recorded
  split
  · rename_i e _
    split
    · rename_i hid
      exact .inr ⟨e, rfl, hid, rfl⟩
    · exact .inl rfl
  · exact .inl rfl

/-- A call leaves a timeline as it is, or appends the one event it was given. -/
theorem timeline_exec (env : Env) (op : Call) (s : Store) (id : UUID) :
    (exec env op s).2.timeline id = s.timeline id ∨
    ∃ e, op = .repo (.createTransferEvent e) ∧ e.transferID = id ∧
      (exec env op s).2.timeline id = s.timeline id ++ [e] := by
  rw [timeline_exec_eq]
  rcases CallEv.recorded_cases id ⟨op, (exec env op s).1⟩ with hnone | ⟨e, hop, hid, hone⟩
  · rw [hnone]
    exact .inl (List.append_nil _)
  · rw [hone]
    exact .inr ⟨e, hop, hid, rfl⟩

/-! ## The calls of each part -/

/-- The calls that recording an event of type `eventType` makes. -/
def Call.RecordsEvent (transferID : UUID) (eventType : EventType) : Call → Prop
  | .newUUID | .timeNow => True
  | .repo (.createTransferEvent e) => e.transferID = transferID ∧ e.eventType = eventType
  | _ => False

/-- A call that has an agent start a transfer. -/
def Call.startsAgent : Call → Bool
  | .sendTransferCommand .. => true
  | _ => false

/-- Calls that neither reach the repository nor start an agent. -/
def Call.Passive : Call → Prop
  | .repo _ | .sendTransferCommand .. => False
  | _ => True

/-- Calls that reach nothing that belongs to a transfer. -/
def Call.Ambient : Call → Prop
  | .repo _ | .sendTransferCommand .. | .sendCancelCommand .. | .revokeCredentials _
  | .deleteTransferObjects _ => False
  | _ => True

theorem Call.Ambient.passive {op : Call} (h : op.Ambient) : op.Passive := by
  cases op <;> first | exact h | trivial

theorem all_createEvent (transferID : UUID) (eventType : EventType) (message : String)
    (metadata : Option (List (String × String))) :
    (createEvent transferID eventType message metadata).All
      (Call.RecordsEvent transferID eventType) :=
  ⟨trivial, fun _ => ⟨trivial, fun _ => ⟨⟨rfl, rfl⟩, fun _ => trivial⟩⟩⟩

theorem all_validateTransferRequest (req : ValidateRequest) :
    (validateTransferRequest req).All Call.Ambient := by
  unfold validateTransferRequest
  split
  · trivial
  refine ⟨trivial, fun src => ?_⟩
  rcases src with err | (_ | _)
  · trivial
  · trivial
  refine ⟨trivial, fun dest => ?_⟩
  rcases dest with err | (_ | _)
  · trivial
  · trivial
  refine ⟨trivial, fun empty => ?_⟩
  rcases empty with err | empty
  · trivial
  · exact .ite trivial trivial

theorem all_applyRetryBackoff (retryCount retryMax : Int) (baseDelay maxDelay : Duration)
    (jitterFactor : ℚ) :
    (applyRetryBackoff retryCount retryMax baseDelay maxDelay jitterFactor).All
      Call.Ambient := by
  unfold applyRetryBackoff
  split
  · trivial
  · exact ⟨trivial, fun _ => trivial⟩

section

variable [UUIDText]

theorem all_executeCleanup (transfer : Transfer) :
    (executeCleanup transfer).All Call.Passive := by
  exact ⟨trivial, fun _ => ⟨trivial, fun _ => ⟨trivial, fun _ =>
    .ite ⟨trivial, fun _ => trivial⟩ trivial⟩⟩⟩

end

namespace Orchestrator

theorem all_publish (o : Orchestrator) (id : UUID) (progress : EnrichedProgress) :
    (o.publish id progress).All Call.Ambient :=
  .ite ⟨trivial, fun _ => trivial⟩ trivial

theorem all_closeTransfer (o : Orchestrator) (id : UUID) :
    (o.closeTransfer id).All Call.Ambient :=
  .ite ⟨trivial, fun _ => trivial⟩ trivial

theorem all_onTransferStateChange (o : Orchestrator) (fromState toState strategy : String) :
    (o.onTransferStateChange fromState toState strategy).All Call.Ambient :=
  .ite ⟨trivial, fun _ => trivial⟩ trivial

theorem all_onProgressReport (o : Orchestrator) (bytes : Int) (speed : Float64) :
    (o.onProgressReport bytes speed).All Call.Ambient :=
  .ite ⟨trivial, fun _ => trivial⟩ trivial

theorem all_onTransferError (o : Orchestrator) (category : String) :
    (o.onTransferError category).All Call.Ambient :=
  .ite ⟨trivial, fun _ => trivial⟩ trivial

/-- The report makes the recorder panic: its counter takes nothing negative. -/
def Overdraws (o : Orchestrator) (report : ProgressReport) : Prop :=
  o.metrics = true ∧ report.bytesTransferred < 0

instance (o : Orchestrator) (report : ProgressReport) : Decidable (o.Overdraws report) :=
  inferInstanceAs (Decidable (_ ∧ _))

theorem onProgressReport_of_metrics {o : Orchestrator} (hmetrics : o.metrics = true) (bytes : Int)
    (speed : Float64) :
    o.onProgressReport bytes speed = .perform (Call.onProgressReport bytes speed) :=
  if_pos hmetrics

theorem onProgressReport_of_not {o : Orchestrator} (hmetrics : ¬ o.metrics = true) (bytes : Int)
    (speed : Float64) : o.onProgressReport bytes speed = .pure (.done ()) :=
  if_neg hmetrics

/-- The recorder is given the numbers of a report: the one call that can panic. -/
theorem wp_onProgressReport {α : Type} {ok : Env → Call → Store → Prop} (o : Orchestrator)
    (report : ProgressReport) {f : Attempt Unit → Engine α}
    {Q : α → List CallEv → Store → Prop} {h : List CallEv} {s : Store}
    (hdone : ¬ o.Overdraws report → ∀ h', Prog.wp exec ok (f (.done ())) Q h' s)
    (hpanics : o.Overdraws report → ∀ h', Prog.wp exec ok (f .panics) Q h' s) :
    Prog.wp exec ok (o.onProgressReport report.bytesTransferred report.speed >>= f) Q h s := by
  by_cases hmetrics : o.metrics = true
  · rw [onProgressReport_of_metrics hmetrics]
    refine Prog.wp_perform fun env _ => ?_
    by_cases hneg : report.bytesTransferred < 0
    · have hanswer : (exec env (.onProgressReport report.bytesTransferred report.speed) s).1 =
          Attempt.panics := if_pos hneg
      rw [hanswer]
      exact hpanics ⟨hmetrics, hneg⟩ _
    · have hanswer : (exec env (.onProgressReport report.bytesTransferred report.speed) s).1 =
          Attempt.done () := if_neg hneg
      rw [hanswer]
      exact hdone (fun hover => hneg hover.2) _
  · rw [onProgressReport_of_not hmetrics]
    exact hdone (fun hover => hmetrics hover.1) _

end Orchestrator

/-! ## The end of a report -/

/-- Calls that do not store, publish or meter any progress. -/
def Call.Concludes : Call → Prop
  | .repo (.updateTransferProgress ..) | .publish .. | .onProgressReport .. => False
  | _ => True

theorem concludes_createEvent (transferID : UUID) (eventType : EventType) (message : String)
    (metadata : Option (List (String × String))) :
    (createEvent transferID eventType message metadata).All Call.Concludes :=
  ⟨trivial, fun _ => ⟨trivial, fun _ => ⟨trivial, fun _ => trivial⟩⟩⟩

namespace Orchestrator

theorem concludes_closeTransfer (o : Orchestrator) (id : UUID) :
    (o.closeTransfer id).All Call.Concludes := .ite ⟨trivial, fun _ => trivial⟩ trivial

theorem concludes_onTransferStateChange (o : Orchestrator) (fromState toState strategy : String) :
    (o.onTransferStateChange fromState toState strategy).All Call.Concludes :=
  .ite ⟨trivial, fun _ => trivial⟩ trivial

theorem concludes_onTransferError (o : Orchestrator) (category : String) :
    (o.onTransferError category).All Call.Concludes := .ite ⟨trivial, fun _ => trivial⟩ trivial

section

variable [UUIDText] {id : UUID} {t : Transfer}

theorem concludes_executeCleanup (t : Transfer) : (executeCleanup t).All Call.Concludes :=
  ⟨trivial, fun _ => ⟨trivial, fun _ => ⟨trivial, fun _ => .ite ⟨trivial, fun _ => trivial⟩ trivial⟩⟩⟩

theorem concludes_handleCompleted (o : Orchestrator) :
    (o.handleCompleted id t).All Call.Concludes := by
  unfold handleCompleted
  split
  · trivial
  refine ⟨trivial, fun written => ?_⟩
  rcases written with err | _
  · trivial
  refine ⟨trivial, fun completed => ?_⟩
  rcases completed with err | _
  · trivial
  refine (concludes_createEvent _ _ _ _).bind fun _ => (o.concludes_closeTransfer _).bind fun _ => ?_
  refine (o.concludes_onTransferStateChange _ _ _).bind fun _ => ?_
  exact (concludes_executeCleanup _).bind fun _ => trivial

theorem concludes_handleFailed (o : Orchestrator) (errorMessage : String) :
    (o.handleFailed id errorMessage t).All Call.Concludes := by
  have hdecide : (applyRetryBackoff t.retryCount t.retryMax o.config.retryBaseDelay
      o.config.retryMaxDelay o.config.jitterFactor).All Call.Concludes :=
    .ite trivial ⟨trivial, fun _ => trivial⟩
  refine hdecide.bind fun decision => .ite ⟨trivial, fun counted => ?_⟩ ?_
  · rcases counted with err | _
    · trivial
    exact (concludes_createEvent _ _ _ _).bind fun _ => trivial
  · unfold handleExhausted
    split
    · trivial
    refine ⟨trivial, fun written => ?_⟩
    rcases written with err | _
    · trivial
    refine (concludes_createEvent _ _ _ _).bind fun _ => ?_
    refine (o.concludes_closeTransfer _).bind fun _ => ?_
    refine (o.concludes_onTransferStateChange _ _ _).bind fun _ => ?_
    refine (o.concludes_onTransferError _).bind fun _ => ?_
    exact (concludes_executeCleanup _).bind fun _ => trivial

theorem concludes_handleStatus (o : Orchestrator) (report : ProgressReport) :
    (o.handleStatus report t).All Call.Concludes :=
  .ite o.concludes_handleCompleted (.ite (o.concludes_handleFailed _) trivial)

end

end Orchestrator

end Katapult
