/-
  Katapult.Transfer.Ending

  How the calls of the engine bring a transfer to its end.

  A cancellation or a report stores the final state, then `completed_at`, and
  closes the subscribers of the transfer after that; a call that fails on the
  way never closes them.  A creation can fail its transfer, and closes nothing.
-/

import Katapult.Transfer.Ownership

namespace Katapult

open Effect

/-- What a call has done towards the end of a transfer. -/
structure Ending where
  /-- It has read the row. -/
  found : Bool := false
  /-- The final state that it has stored. -/
  stored : Option TransferState := none
  /-- Its `closeTransfer` is still to come. -/
  due : Bool := false

namespace Ending

variable {id : UUID} {m : Ending}

def follow (id : UUID) (m : Ending) : CallEv → Ending
  | ⟨.repo (.getTransferByID id'), .ok (some _)⟩ => if id' = id then { m with found := true } else m
  | ⟨.repo (.updateTransferState id' state), .ok _⟩ =>
      if id' = id then { m with stored := some state, due := true } else m
  | ⟨.repo (.updateTransferFailed id' _), .ok _⟩ =>
      if id' = id then { m with stored := some .failed, due := true } else m
  -- the call returns without closing anything
  | ⟨.repo (.updateTransferCompleted id'), .error _⟩ =>
      if id' = id then { m with due := false } else m
  | ⟨.closeTransfer id', _⟩ => if id' = id then { m with due := false } else m
  | _ => m

/-- Nothing is inserted, no state but a final one in `final` is stored in a row
    that was not read, and the subscribers are closed after that. -/
def Permits (final : TransferState → Prop) (id : UUID) (m : Ending) : Call → Prop
  | .repo (.createTransfer _) => False
  | .repo (.updateTransferState id' state) =>
      id' = id → m.found = true ∧ final state ∧ state.isTerminal = true
  | .repo (.updateTransferFailed id' _) => id' = id → m.found = true ∧ final .failed
  | .closeTransfer id' => id' = id → m.stored ≠ none
  | _ => True

theorem Permits.of_written {final : TransferState → Prop} {op : Call} {state : TransferState}
    (h : m.Permits final id op) (hw : op.writtenState id = some state) :
    m.found = true ∧ final state ∧ state.isTerminal = true := by
  rcases Call.writtenState_eq_some.mp hw with rfl | ⟨errorMessage, rfl, rfl⟩
  · exact h rfl
  · exact ⟨(h rfl).1, (h rfl).2, rfl⟩

/-- A final state is stored, and the subscribers are to be closed. -/
theorem follow_of_written {op : Call} {state : TransferState} (hw : op.writtenState id = some state)
    {env : Env} (hfail : env.fail = none) (s : Store) :
    m.follow id ⟨op, (exec env op s).1⟩ = { m with stored := some state, due := true } := by
  rcases Call.writtenState_eq_some.mp hw with rfl | ⟨errorMessage, rfl, rfl⟩
  · obtain ⟨s', hs', -⟩ := s.updateTransfer_eq_ok id ({ · with state }) fun _ => rfl
    have hanswer : (exec env (.repo (.updateTransferState id state)) s).1 = .ok () :=
      congrArg Prod.fst (Env.write_of_ok hfail (Store.updateTransfer · id _ _) hs')
    rw [hanswer]
    exact if_pos rfl
  · obtain ⟨s', hs', -⟩ := s.updateTransfer_eq_ok id
      (fun t => { t with state := .failed, errorMessage, completedAt := some env.now }) fun _ => rfl
    have hanswer : (exec env (.repo (.updateTransferFailed id errorMessage)) s).1 = .ok () :=
      congrArg Prod.fst (Env.write_of_ok hfail (Store.updateTransfer · id _ _) hs')
    rw [hanswer]
    exact if_pos rfl

/-- What is owed was owed before, or a final state has been written. -/
theorem due_of_follow {ev : CallEv} (h : (m.follow id ev).due = true) :
    m.due = true ∨ ∃ state, ev.1.writtenState id = some state := by
  unfold follow at h
  split at h
  · split at h <;> exact .inl h
  · split at h
    · rename_i state _ hid
      exact .inr ⟨state, by rw [hid]; exact if_pos rfl⟩
    · exact .inl h
  · split at h
    · rename_i hid
      exact .inr ⟨.failed, by rw [hid]; exact if_pos rfl⟩
    · exact .inl h
  · split at h
    · cases h
    · exact .inl h
  · split at h
    · cases h
    · exact .inl h
  · exact .inl h

/-- Nothing is owed any more once the subscribers have been closed, or the write of
    `completed_at` has failed. -/
theorem due_follow {ev : CallEv} (h : m.due = true) :
    (m.follow id ev).due = true ∨ ev.1 = .closeTransfer id ∨
      ∃ err, ev = ⟨.repo (.updateTransferCompleted id), .error err⟩ := by
  unfold follow
  split
  · split <;> exact .inl h
  · split
    · exact .inl rfl
    · exact .inl h
  · split
    · exact .inl rfl
    · exact .inl h
  · split
    · rename_i err hid
      subst hid
      exact .inr (.inr ⟨err, rfl⟩)
    · exact .inl h
  · split
    · rename_i hid
      subst hid
      exact .inr (.inl rfl)
    · exact .inl h
  · exact .inl h

/-- An error of the write of `completed_at` is one of the database. -/
theorem isSome_of_error {env : Env} {s : Store} {err : Err}
    (h : (exec env (.repo (.updateTransferCompleted id)) s).1 = .error err) :
    env.fail.isSome = true := by
  cases hfail : env.fail with
  | some err' => rfl
  | none =>
    obtain ⟨s', hs', -⟩ := s.updateTransfer_eq_ok id
      (fun t => { t with completedAt := some env.now }) fun _ => rfl
    have hanswer : (exec env (.repo (.updateTransferCompleted id)) s).1 = .ok () :=
      congrArg Prod.fst (Env.write_of_ok hfail (Store.updateTransfer · id _ _) hs')
    rw [hanswer] at h
    cases h

/-- A write that fails makes no difference. -/
theorem follow_of_fail {op : Call} {state : TransferState} (hw : op.writtenState id = some state)
    {env : Env} {err : Err} (hfail : env.fail = some err) (s : Store) :
    m.follow id ⟨op, (exec env op s).1⟩ = m := by
  rcases Call.writtenState_eq_some.mp hw with rfl | ⟨errorMessage, rfl, rfl⟩
  · have hanswer : (exec env (.repo (.updateTransferState id state)) s).1 = .error err :=
      congrArg Prod.fst (Env.write_of_fail hfail s _)
    rw [hanswer]
    rfl
  · have hanswer : (exec env (.repo (.updateTransferFailed id errorMessage)) s).1 = .error err :=
      congrArg Prod.fst (Env.write_of_fail hfail s _)
    rw [hanswer]
    rfl

theorem stored_follow {ev : CallEv} (hw : ev.1.writtenState id = none) :
    (m.follow id ev).stored = m.stored := by
  unfold follow
  split
  · split <;> rfl
  · rw [if_neg]
    rintro rfl
    simp [Call.writtenState] at hw
  · rw [if_neg]
    rintro rfl
    simp [Call.writtenState] at hw
  · split <;> rfl
  · split <;> rfl
  · rfl

/-- The row is found by being read. -/
theorem found_of_follow {ev : CallEv} (h : (m.follow id ev).found = true) :
    m.found = true ∨ ∃ t, ev = ⟨.repo (.getTransferByID id), .ok (some t)⟩ := by
  unfold follow at h
  split at h
  · split at h
    · rename_i t hid
      subst hid
      exact .inr ⟨t, rfl⟩
    · exact .inl h
  · split at h <;> exact .inl h
  · split at h <;> exact .inl h
  · split at h <;> exact .inl h
  · split at h <;> exact .inl h
  · exact .inl h

/-- The program ends the transfer `id` with a state in `final`, if at all, and
    owes nothing where it ends. -/
abbrev Obeyed {α : Type} (final : TransferState → Prop) (id : UUID) (m : Ending) (p : Engine α) :
    Prop :=
  Prog.Obeys (follow id) (Permits final id) (fun _ m' => m'.due = false) m p

end Ending

/-- A call after which a transfer is final that was not has written a final state,
    or inserted the row in one. -/
theorem written_of_ended {env : Env} {op : Call} {s : Store} {id : UUID}
    (hbefore : s.terminal id = false) (hafter : (exec env op s).2.terminal id = true) :
    env.fail = none ∧
    ((∃ state, op.writtenState id = some state ∧ state.isTerminal = true) ∨
      ∃ t, op = .repo (.createTransfer t) ∧ t.state.isTerminal = true) := by
  have hfail : env.fail = none := by
    cases hfail : env.fail with
    | none => rfl
    | some err =>
      rw [exec_of_fail hfail, hbefore] at hafter
      cases hafter
  refine ⟨hfail, ?_⟩
  obtain ⟨state, hstate, hterm⟩ := Store.terminal_iff.mp hafter
  rcases stateOf_exec env op s id with hsame | ⟨state', hw, hmap⟩ | ⟨t, hop, -, -, hnew⟩
  -- the state was final before, or was written, or has been inserted
  · rw [Store.terminal, ← hsame, hstate] at hbefore
    rw [Option.any_some, hterm] at hbefore
    cases hbefore
  · rw [hstate] at hmap
    obtain ⟨_, -, hsame⟩ := Option.map_eq_some_iff.mp hmap.symm
    exact .inl ⟨state', hw, by rw [hsame, hterm]⟩
  · rw [hstate, Option.some_inj] at hnew
    exact .inr ⟨t, hop, by rw [← hnew, hterm]⟩

/-- Calls that neither find the row nor end the transfer. -/
def Call.Unending : Call → Prop
  | .repo (.createTransferEvent _) | .repo (.updateTransferProgress ..)
  | .repo (.incrementRetryCount _) => True
  | .repo _ | .closeTransfer _ => False
  | _ => True

theorem Call.Unending.permits {op : Call} (h : op.Unending) (final : TransferState → Prop)
    (id : UUID) (m : Ending) : m.Permits final id op ∧ ∀ r, m.follow id ⟨op, r⟩ = m := by
  cases op with
  | repo call => cases call <;> first | exact h.elim | exact ⟨trivial, fun _ => rfl⟩
  | closeTransfer id' => exact h.elim
  | _ => exact ⟨trivial, fun _ => rfl⟩

theorem Call.RecordsEvent.unending {op : Call} {id : UUID} {eventType : EventType}
    (h : op.RecordsEvent id eventType) : op.Unending := by
  cases op with
  | repo call => cases call <;> first | exact h.elim | trivial
  | _ => first | exact h.elim | trivial

section

variable {final : TransferState → Prop} {id : UUID} {m : Ending} {α β : Type}

theorem Ending.Obeyed.unending {p : Engine β} {f : β → Engine α} (hp : p.All Call.Unending)
    (hf : ∀ b, Ending.Obeyed final id m (f b)) : Ending.Obeyed final id m (p >>= f) :=
  Prog.Obeys.skip (hp.mono fun _ hop => hop.permits final id m) hf

theorem Ending.Obeyed.createEvent {transferID : UUID} {eventType : EventType} {message : String}
    {metadata : Option (List (String × String))} {f : Unit → Engine α}
    (hf : Ending.Obeyed final id m (f ())) :
    Ending.Obeyed final id m (createEvent transferID eventType message metadata >>= f) :=
  Ending.Obeyed.unending
    ((all_createEvent transferID eventType message metadata).mono fun _ hop => hop.unending)
    fun _ => hf

theorem unending_applyRetryBackoff (retryCount retryMax : Int) (baseDelay maxDelay : Duration)
    (jitterFactor : ℚ) :
    (applyRetryBackoff retryCount retryMax baseDelay maxDelay jitterFactor).All Call.Unending :=
  .ite trivial ⟨trivial, fun _ => trivial⟩

theorem unending_executeCleanup [UUIDText] (t : Transfer) : (executeCleanup t).All Call.Unending :=
  ⟨trivial, fun _ => ⟨trivial, fun _ => ⟨trivial, fun _ =>
    .ite ⟨trivial, fun _ => trivial⟩ trivial⟩⟩⟩

namespace Orchestrator

theorem unending_publish (o : Orchestrator) (transferID : UUID) (progress : EnrichedProgress) :
    (o.publish transferID progress).All Call.Unending :=
  .ite ⟨trivial, fun _ => trivial⟩ trivial

theorem unending_onTransferStateChange (o : Orchestrator) (fromState toState strategy : String) :
    (o.onTransferStateChange fromState toState strategy).All Call.Unending :=
  .ite ⟨trivial, fun _ => trivial⟩ trivial

theorem unending_onProgressReport (o : Orchestrator) (bytes : Int) (speed : Float64) :
    (o.onProgressReport bytes speed).All Call.Unending :=
  .ite ⟨trivial, fun _ => trivial⟩ trivial

theorem unending_onTransferError (o : Orchestrator) (category : String) :
    (o.onTransferError category).All Call.Unending :=
  .ite ⟨trivial, fun _ => trivial⟩ trivial

/-! ## Cancellations and reports -/

variable {o : Orchestrator} {transferID : UUID} {t : Transfer}

/-- With a hub, the subscribers are closed, and nothing is owed any more. -/
theorem ending_closeTransfer (hhub : o.progressHub = true) {f : Unit → Engine α}
    (hm : transferID = id → m.stored ≠ none) (hdue : transferID ≠ id → m.due = false)
    (hf : ∀ m' : Ending, m'.due = false → Ending.Obeyed final id m' (f ())) :
    Ending.Obeyed final id m (o.closeTransfer transferID >>= f) := by
  have hperform : o.closeTransfer transferID = .perform (Call.closeTransfer transferID) := if_pos hhub
  rw [hperform]
  refine Prog.Obeys.perform hm fun _ => hf _ ?_
  by_cases hid : transferID = id
  · simp [Ending.follow, hid]
  · simp [Ending.follow, hid, hdue hid]

/-- What a call does once it has stored a final state: it stores `completed_at`,
    records the event and closes the subscribers. -/
theorem ending_complete (hhub : o.progressHub = true) {eventType : EventType} {message : String}
    {metadata : Option (List (String × String))} {rest : Engine (Except Err Unit)}
    (hm : transferID = id → m.stored ≠ none) (hdue : transferID ≠ id → m.due = false)
    (hrest : ∀ m' : Ending, m'.due = false → Ending.Obeyed final id m' rest) :
    Ending.Obeyed final id m (do
      match ← Engine.updateTransferCompleted transferID with
      | .error err => return Except.error ("persisting completed_at: " ++ err)
      | .ok () =>
      createEvent transferID eventType message metadata
      o.closeTransfer transferID
      rest) := by
  refine Prog.Obeys.perform trivial fun completed => ?_
  rcases completed with err | _
  -- the call gives up here, with nothing closed
  · show (if transferID = id then { m with due := false } else m).due = false
    split
    · rfl
    · rename_i hid
      exact hdue hid
  · exact Ending.Obeyed.createEvent (ending_closeTransfer hhub hm hdue hrest)

/-- The whole of it, from the write of the final state on. -/
theorem ending_stored (hhub : o.progressHub = true) {state : TransferState} {eventType : EventType}
    {failure message : String} {metadata : Option (List (String × String))}
    {rest : Engine (Except Err Unit)} (hdue : m.due = false)
    (hfound : transferID = id → m.found = true)
    (hfinal : transferID = id → final state ∧ state.isTerminal = true)
    (hrest : ∀ m' : Ending, m'.due = false → Ending.Obeyed final id m' rest) :
    Ending.Obeyed final id m (do
      match ← Engine.updateTransferState transferID state with
      | .error err => return Except.error (failure ++ err)
      | .ok () =>
      match ← Engine.updateTransferCompleted transferID with
      | .error err => return Except.error ("persisting completed_at: " ++ err)
      | .ok () =>
      createEvent transferID eventType message metadata
      o.closeTransfer transferID
      rest) := by
  refine Prog.Obeys.perform (fun hid => ⟨hfound hid, hfinal hid⟩) fun written => ?_
  rcases written with err | _
  · exact hdue
  · refine ending_complete hhub (fun hid => ?_) (fun hid => ?_) hrest
    · simp [Ending.follow, hid]
    · simp [Ending.follow, hid, hdue]

variable [UUIDText]

/-- The end of a call: nothing that is owed. -/
theorem ending_executeCleanup (hdue : m.due = false) (a : Except Err Unit) :
    Ending.Obeyed final id m (do executeCleanup t; return a) :=
  Ending.Obeyed.unending (unending_executeCleanup t) fun _ => hdue

/-- A cancellation stores `cancelled`. -/
theorem ending_cancelTransfer (hhub : o.progressHub = true) (id transferID : UUID) :
    Ending.Obeyed (fun state => transferID = id ∧ state = .cancelled) id {}
      (o.cancelTransfer transferID) := by
  unfold cancelTransfer
  refine Prog.Obeys.perform trivial fun loaded => ?_
  rcases loaded with err | (_ | transfer)
  · rfl
  · rfl
  have hdue : (Ending.follow id {} ⟨.repo (.getTransferByID transferID), .ok (some transfer)⟩).due =
      false := by
    simp only [Ending.follow]
    split <;> rfl
  dsimp only
  split
  · exact hdue
  split
  · exact hdue
  refine Prog.Obeys.perform trivial fun now => ?_
  refine ending_stored hhub hdue (fun hid => ?_) (fun hid => ⟨⟨hid, rfl⟩, rfl⟩) fun m' hm' => ?_
  · simp [Ending.follow, hid]
  refine Ending.Obeyed.unending (o.unending_onTransferStateChange _ _ _) fun _ => ?_
  exact ⟨trivial, fun _ => ⟨trivial, fun _ => ending_executeCleanup hm' _⟩⟩

/-- A report stores the state that it names. -/
theorem ending_handleCompleted (hhub : o.progressHub = true) (hdue : m.due = false)
    (hfound : transferID = id → m.found = true)
    (hfinal : transferID = id → final .completed) :
    Ending.Obeyed final id m (o.handleCompleted transferID t) := by
  unfold handleCompleted
  split
  · exact hdue
  refine ending_stored hhub hdue hfound (fun hid => ⟨hfinal hid, rfl⟩) fun m' hm' => ?_
  refine Ending.Obeyed.unending (o.unending_onTransferStateChange _ _ _) fun _ => ?_
  exact ending_executeCleanup hm' _

theorem ending_handleFailed (hhub : o.progressHub = true) (hdue : m.due = false)
    (hfound : transferID = id → m.found = true) (hfinal : transferID = id → final .failed)
    (errorMessage : String) :
    Ending.Obeyed final id m (o.handleFailed transferID errorMessage t) := by
  refine Ending.Obeyed.unending (unending_applyRetryBackoff _ _ _ _ _) fun decision => ?_
  split
  · refine Prog.Obeys.perform trivial fun counted => ?_
    rcases counted with err | _
    · exact hdue
    · exact Ending.Obeyed.createEvent hdue
  unfold handleExhausted
  split
  · exact hdue
  -- `completed_at` is stored by the same statement as the state
  refine Prog.Obeys.perform (fun hid => ⟨hfound hid, hfinal hid⟩) fun written => ?_
  rcases written with err | _
  · exact hdue
  refine Ending.Obeyed.createEvent ?_
  refine ending_closeTransfer hhub (fun hid => ?_) (fun hid => ?_) fun m' hm' => ?_
  · simp [Ending.follow, hid]
  · simp [Ending.follow, hid, hdue]
  refine Ending.Obeyed.unending (o.unending_onTransferStateChange _ _ _) fun _ => ?_
  refine Ending.Obeyed.unending (o.unending_onTransferError _) fun _ => ?_
  exact ending_executeCleanup hm' _

theorem ending_handleStatus (hhub : o.progressHub = true) (id : UUID) (report : ProgressReport)
    {transfer : Transfer} {m : Ending} (hm : m.due = false)
    (hfound : report.transferID = id → m.found = true) :
    Ending.Obeyed (fun state => report.transferID = id ∧ state.text = report.status) id m
      (o.handleStatus report transfer) := by
  unfold handleStatus
  split
  · rename_i hstatus
    exact ending_handleCompleted hhub hm hfound fun hid => ⟨hid, hstatus.symm⟩
  split
  · rename_i hstatus
    exact ending_handleFailed hhub hm hfound (fun hid => ⟨hid, hstatus.symm⟩) _
  · exact hm

theorem ending_handleProgress (hhub : o.progressHub = true) (id : UUID) (report : ProgressReport) :
    Ending.Obeyed (fun state => report.transferID = id ∧ state.text = report.status) id {}
      (o.handleProgress report) := by
  unfold handleProgress
  refine Prog.Obeys.perform trivial fun loaded => ?_
  rcases loaded with err | (_ | transfer)
  · rfl
  · rfl
  have hdue : (Ending.follow id {}
      ⟨.repo (.getTransferByID report.transferID), .ok (some transfer)⟩).due = false := by
    simp only [Ending.follow]
    split <;> rfl
  have hfound : report.transferID = id → (Ending.follow id {}
      ⟨.repo (.getTransferByID report.transferID), .ok (some transfer)⟩).found = true := by
    intro hid
    simp [Ending.follow, hid]
  refine Prog.Obeys.perform trivial fun updated => ?_
  rcases updated with err | _
  · exact hdue
  refine Ending.Obeyed.createEvent ?_
  refine Ending.Obeyed.unending (o.unending_publish _ _) fun _ => ?_
  refine Ending.Obeyed.unending (o.unending_onProgressReport _ _) fun reported => ?_
  rcases reported with _ | _ | _
  · exact Prog.Obeys.bind ((ending_handleStatus hhub id report hdue hfound).mono fun _ _ h => h)
  · exact hdue
  · exact hdue

end Orchestrator

end

/-! ## Creations -/

/-- Calls that neither insert nor store a final state, except by failing the transfer. -/
def Call.Opens : Call → Prop
  | .repo (.createTransfer t) => t.state.isTerminal = false
  | .repo (.updateTransferState _ state) => state.isTerminal = false
  | _ => True

theorem Call.Ambient.opens {op : Call} (h : op.Ambient) : op.Opens := by
  cases op with
  | repo call => exact h.elim
  | _ => trivial

theorem Call.RecordsEvent.opens {op : Call} {id : UUID} {eventType : EventType}
    (h : op.RecordsEvent id eventType) : op.Opens := by
  cases op with
  | repo call => cases call <;> first | exact h.elim | trivial
  | _ => trivial

/-- A state that a call of a creation makes final was failed. -/
theorem Call.Opens.failed {op : Call} (h : op.Opens) {id : UUID} {state : TransferState}
    (hw : op.writtenState id = some state) (hterm : state.isTerminal = true) :
    ∃ errorMessage, op = .repo (.updateTransferFailed id errorMessage) := by
  rcases Call.writtenState_eq_some.mp hw with rfl | ⟨errorMessage, rfl, -⟩
  · have hopen : state.isTerminal = false := h
    rw [hopen] at hterm
    cases hterm
  · exact ⟨errorMessage, rfl⟩

theorem opens_createEvent (transferID : UUID) (eventType : EventType) (message : String)
    (metadata : Option (List (String × String))) :
    (createEvent transferID eventType message metadata).All Call.Opens :=
  (all_createEvent transferID eventType message metadata).mono fun _ hop => hop.opens

theorem opens_failTransfer (transferID : UUID) (errorMessage eventMessage : String) :
    (failTransfer transferID errorMessage eventMessage).All Call.Opens :=
  ⟨trivial, fun _ => opens_createEvent _ _ _ _⟩

namespace Orchestrator

variable [UUIDText] (o : Orchestrator) (req : CreateTransferRequest)

theorem opens_commandAgents (transferID : UUID) :
    (commandAgents req transferID).All Call.Opens := by
  refine .perform trivial fun src => ?_
  rcases src with err | _
  · exact (opens_failTransfer _ _ _).bind fun _ => trivial
  refine .perform trivial fun dest => ?_
  rcases dest with err | _
  · exact (opens_failTransfer _ _ _).bind fun _ => trivial
  · trivial

theorem opens_startTransfer (t : Transfer) : (o.startTransfer req t).All Call.Opens := by
  unfold startTransfer
  split
  · exact ⟨trivial, fun _ => trivial⟩
  refine .perform trivial fun strategy => ?_
  rcases strategy with err | _
  · trivial
  dsimp only
  split
  · trivial
  refine .perform rfl fun written => ?_
  rcases written with err | _
  · trivial
  refine .perform trivial fun started => ?_
  rcases started with err | _
  · trivial
  exact (opens_createEvent _ _ _ _).bind fun _ => opens_commandAgents req _

theorem opens_createTransfer : (o.createTransfer req).All Call.Opens := by
  refine .perform trivial fun transferID => .perform trivial fun now => ?_
  unfold admitTransfer
  refine .perform rfl fun inserted => ?_
  rcases inserted with err | _
  · trivial
  refine (opens_createEvent _ _ _ _).bind fun _ => ?_
  split
  · trivial
  refine .perform rfl fun written => ?_
  rcases written with err | _
  · trivial
  refine ((all_validateTransferRequest _).mono fun _ hop => hop.opens).bind fun valid => ?_
  rcases valid with err | _
  · exact (opens_failTransfer _ _ _).bind fun _ => trivial
  exact (opens_createEvent _ _ _ _).bind fun _ => o.opens_startTransfer req _

end Orchestrator

/-! ## What stays stored -/

/-- A final state is not replaced by another one. -/
def Call.KeepsFinal (id : UUID) (env : Env) (op : Call) (s : Store) : Prop :=
  ∀ state ∈ op.writtenState id, env.fail.isSome = false → s.terminal id = true →
    s.stateOf id = some state

instance (id : UUID) (env : Env) (op : Call) (s : Store) : Decidable (op.KeepsFinal id env s) := by
  unfold Call.KeepsFinal
  infer_instance

theorem Call.KeepsFinal.stateOf {id : UUID} {env : Env} {op : Call} {s : Store}
    (h : op.KeepsFinal id env s) {state : TransferState} (hs : s.stateOf id = some state)
    (hterm : state.isTerminal = true) : (exec env op s).2.stateOf id = some state := by
  cases hfail : env.fail with
  | some err =>
    rw [exec_of_fail hfail]
    exact hs
  | none =>
    rcases stateOf_exec env op s id with hsame | ⟨state', hw, hmap⟩ | ⟨t, -, -, hnone, -⟩
    · rw [hsame]
      exact hs
    -- a write of the state: the condition makes it one of the same state
    · have hended : s.terminal id = true := Store.terminal_iff.mpr ⟨state, hs, hterm⟩
      have hkept := h state' hw (by rw [hfail]; rfl) hended
      rw [hmap, hs]
      exact hkept.symm.trans hs
    · rw [Store.stateOf, hnone] at hs
      cases hs

namespace Ending

/-- What the call has found and stored is still so. -/
structure Holds (final : TransferState → Prop) (id : UUID) (m : Ending) (s : Store) : Prop where
  found : m.found = true → s.row id ≠ none
  stored : ∀ state, m.stored = some state →
    s.stateOf id = some state ∧ state.isTerminal = true ∧ final state

variable {final : TransferState → Prop} {id : UUID} {m : Ending} {env : Env} {op : Call} {s : Store}

theorem holds_init (s : Store) : Holds final id {} s := ⟨nofun, nofun⟩

theorem row_exec_ne_none (h : s.row id ≠ none) : (exec env op s).2.row id ≠ none := by
  obtain ⟨t, ht⟩ := Option.ne_none_iff_exists'.mp h
  obtain ⟨t', ht', -⟩ := row_exec_of_some ht env op
  rw [ht']
  exact Option.some_ne_none t'

/-- A step of another call keeps it. -/
theorem Holds.step_of_ne (h : Holds final id m s) (hkeeps : op.KeepsFinal id env s) :
    Holds final id m (exec env op s).2 where
  found hfound := row_exec_ne_none (h.found hfound)
  stored state hstored := by
    obtain ⟨hs, hterm, hfinal⟩ := h.stored state hstored
    exact ⟨hkeeps.stateOf hs hterm, hterm, hfinal⟩

/-- A step of the call itself too. -/
theorem Holds.step_self (h : Holds final id m s) (hperm : m.Permits final id op)
    (hkeeps : op.KeepsFinal id env s) :
    Holds final id (m.follow id ⟨op, (exec env op s).1⟩) (exec env op s).2 where
  found hfound := by
    refine row_exec_ne_none ?_
    rcases found_of_follow hfound with hold | ⟨t, hev⟩
    · exact h.found hold
    · obtain ⟨rfl, hanswer⟩ := Sigma.mk.inj hev
      have hread : env.answer (s.row id) = .ok (some t) := eq_of_heq hanswer
      cases hfail : env.fail with
      | some err =>
        rw [Env.answer_of_fail hfail] at hread
        cases hread
      | none =>
        rw [Env.answer_of_ok hfail] at hread
        rw [Except.ok.inj hread]
        exact Option.some_ne_none t
  stored state hstored := by
    cases hw : op.writtenState id with
    | none =>
      rw [stored_follow hw] at hstored
      exact (h.step_of_ne hkeeps).stored state hstored
    | some state' =>
      cases hfail : env.fail with
      | some err =>
        rw [follow_of_fail hw hfail] at hstored
        exact (h.step_of_ne hkeeps).stored state hstored
      | none =>
        rw [follow_of_written hw hfail] at hstored
        obtain rfl := Option.some.inj hstored
        obtain ⟨hfound, hfinal, hterm⟩ := hperm.of_written hw
        obtain ⟨t, ht⟩ := Option.ne_none_iff_exists'.mp (h.found hfound)
        refine ⟨?_, hterm, hfinal⟩
        rw [stateOf_exec_of_write hw hfail, Store.stateOf, ht]
        rfl

end Ending

end Katapult
