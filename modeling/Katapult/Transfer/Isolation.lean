/-
  Katapult.Transfer.Isolation

  What the operations on other transfers can do to a stored transfer: nothing.
  And what its own operations take away from it: only what an ended transfer no
  longer needs.

  `Grip` is a monitor of the transfer that an operation has taken hold of: the
  one its request names, or the one whose row it has inserted.  Everything else
  that an operation does stays within that grip, and agents are stopped,
  credentials revoked, objects deleted and subscribers closed only once the
  operation has written the end of the transfer.  The family of requests is
  arbitrary: creations that draw an identifier in use are among them.
-/

import Katapult.Transfer.Sequential
import Katapult.Transfer.Ownership

namespace Katapult

open Effect

/-! ## What names a transfer -/

/-- The call reaches something that belongs to the transfer: its row, its
    timeline, its agents, its credentials and objects, or its subscribers. -/
def Call.Names [UUIDText] (id : UUID) : Call → Prop
  | .repo call => call.transferID = id
  | .sendTransferCommand _ transferID | .sendCancelCommand _ transferID
  | .revokeCredentials transferID | .deleteTransferObjects transferID => transferID = id.text
  | .publish id' _ | .closeTransfer id' => id' = id
  | _ => False

/-- The call takes something away from the transfer that a transfer under way needs. -/
def Call.Withdraws [UUIDText] (id : UUID) : Call → Prop
  | .sendCancelCommand _ transferID | .revokeCredentials transferID
  | .deleteTransferObjects transferID => transferID = id.text
  | .closeTransfer id' => id' = id
  | _ => False

/-- The request names the transfer; a creation names none. -/
def Request.Names (id : UUID) : Request → Prop
  | .createTransfer _ => False
  | .cancelTransfer id' => id' = id
  | .handleProgress report => report.transferID = id

/-- The call names no transfer at all. -/
def Call.Nameless : Call → Prop
  | .newUUID | .timeNow | .randFloat64 | .findHealthyPVC .. | .isPVCEmpty ..
  | .onTransferStateChange .. | .onProgressReport .. | .onTransferError _ => True
  | _ => False

/-! ## The grip of an operation -/

/-- The transfer that an operation has taken hold of. -/
structure Grip where
  on : Option UUID
  /-- The operation has written the end of the transfer. -/
  ended : Bool := false
  /-- The operation was given another row than the one it asked for. -/
  astray : Bool := false

namespace Grip

def follow (m : Grip) : CallEv → Grip
  | ⟨.repo (.createTransfer t), .ok _⟩ => { m with on := some t.id, ended := false }
  | ⟨.repo (.getTransferByID id), .ok (some t)⟩ => { m with astray := m.astray || t.id != id }
  | ⟨.repo (.updateTransferState _ state), .ok _⟩ => { m with ended := state.isTerminal }
  | ⟨.repo (.updateTransferFailed _ _), .ok _⟩ => { m with ended := true }
  | _ => m

section

variable [UUIDText]

/-- An operation inserts a row before it holds one, and then stays with it. -/
def Grants (creates : Bool) (m : Grip) : Call → Prop
  | .repo (.createTransfer _) => creates = true ∧ m.on = none
  | .repo (.updateTransferState id state) =>
      m.on = some id ∧ (creates = true ∨ state.isTerminal = true)
  | .repo call => m.on = some call.transferID
  | .sendTransferCommand _ transferID => ∃ id, m.on = some id ∧ transferID = id.text
  | .sendCancelCommand _ transferID | .revokeCredentials transferID
  | .deleteTransferObjects transferID =>
      m.ended = true ∧ ∃ id, m.on = some id ∧ transferID = id.text
  | .closeTransfer id => m.ended = true ∧ m.on = some id
  | .publish id _ => m.on = some id
  | _ => True

def Permits (creates : Bool) (m : Grip) (op : Call) : Prop := m.astray = true ∨ m.Grants creates op

/-- A program stays within the grip from `m` on. -/
abbrev Held {α : Type} (creates : Bool) (m : Grip) (p : Engine α) : Prop :=
  Prog.Obeys follow (Permits creates) (fun _ _ => True) m p

theorem permits_nameless (creates : Bool) (m : Grip) (op : Call) (h : op.Nameless) :
    m.Permits creates op ∧ ∀ r, m.follow ⟨op, r⟩ = m := by
  cases op <;> first | exact h.elim | exact ⟨.inr trivial, fun _ => rfl⟩

theorem permits_recordsEvent {creates : Bool} {m : Grip} {id : UUID} {eventType : EventType}
    (hm : m.on = some id) (op : Call) (h : op.RecordsEvent id eventType) :
    m.Permits creates op ∧ ∀ r, m.follow ⟨op, r⟩ = m := by
  cases op with
  | repo call =>
    cases call with
    | createTransferEvent e => exact ⟨.inr (hm.trans (congrArg some h.1.symm)), fun _ => rfl⟩
    | _ => exact h.elim
  | _ => first | exact h.elim | exact ⟨.inr trivial, fun _ => rfl⟩

section

variable {creates : Bool} {m : Grip} {α β : Type}

theorem Held.perform {op : Call} {f : op.Ans → Engine α} (hop : m.Grants creates op)
    (hf : ∀ r, Held creates (m.follow ⟨op, r⟩) (f r)) :
    Held creates m (Prog.perform op >>= f) :=
  ⟨.inr hop, hf⟩

omit [UUIDText] in
theorem astray_follow (h : m.astray = true) (ev : CallEv) : (m.follow ev).astray = true := by
  unfold follow
  split <;> simp [h]

/-- Nothing is asked of an operation that has gone astray. -/
theorem Held.of_astray (p : Engine α) (h : m.astray = true) : Held creates m p := by
  induction p generalizing m with
  | pure a => trivial
  | call op k ih => exact ⟨.inl h, fun r => ih r (astray_follow h _)⟩

theorem Held.nameless {p : Engine β} {f : β → Engine α} (hp : p.All Call.Nameless)
    (hf : ∀ b, Held creates m (f b)) : Held creates m (p >>= f) :=
  Prog.Obeys.skip (hp.mono (permits_nameless creates m)) hf

theorem Held.createEvent {id : UUID} {eventType : EventType} {message : String}
    {metadata : Option (List (String × String))} {f : Unit → Engine α} (hm : m.on = some id)
    (hf : Held creates m (f ())) :
    Held creates m (Katapult.createEvent id eventType message metadata >>= f) :=
  Prog.Obeys.skip
    ((all_createEvent id eventType message metadata).mono (permits_recordsEvent hm)) fun _ => hf

end

end

end Grip

/-! ## The operations -/

theorem nameless_validateTransferRequest (req : ValidateRequest) :
    (validateTransferRequest req).All Call.Nameless := by
  unfold validateTransferRequest
  split
  · trivial
  refine ⟨trivial, fun src => ?_⟩
  rcases src with err | (_ | _)
  · trivial
  · trivial
  refine ⟨trivial, fun dest => ?_⟩
  rcases dest with err | (_ | _)
  · trivial
  · trivial
  refine ⟨trivial, fun empty => ?_⟩
  rcases empty with err | empty
  · trivial
  · exact .ite trivial trivial

theorem nameless_applyRetryBackoff (retryCount retryMax : Int) (baseDelay maxDelay : Duration)
    (jitterFactor : ℚ) :
    (applyRetryBackoff retryCount retryMax baseDelay maxDelay jitterFactor).All
      Call.Nameless := by
  unfold applyRetryBackoff
  split
  · trivial
  · exact ⟨trivial, fun _ => trivial⟩

namespace Orchestrator

open Grip

theorem nameless_onTransferStateChange (o : Orchestrator) (fromState toState strategy : String) :
    (o.onTransferStateChange fromState toState strategy).All Call.Nameless :=
  .ite ⟨trivial, fun _ => trivial⟩ trivial

theorem nameless_onProgressReport (o : Orchestrator) (bytes : Int) (speed : Float64) :
    (o.onProgressReport bytes speed).All Call.Nameless :=
  .ite ⟨trivial, fun _ => trivial⟩ trivial

theorem nameless_onTransferError (o : Orchestrator) (category : String) :
    (o.onTransferError category).All Call.Nameless :=
  .ite ⟨trivial, fun _ => trivial⟩ trivial

variable [UUIDText] {creates : Bool} {m : Grip} {α : Type}

theorem held_publish (o : Orchestrator) {id : UUID} {progress : EnrichedProgress}
    {f : Unit → Engine α} (hm : m.on = some id) (hf : Held creates m (f ())) :
    Held creates m (o.publish id progress >>= f) := by
  by_cases hhub : o.progressHub = true
  · rw [show o.publish id progress = .perform (Call.publish id progress) from if_pos hhub]
    exact Held.perform hm fun _ => hf
  · rw [show o.publish id progress = .pure () from if_neg hhub]
    exact hf

theorem held_closeTransfer (o : Orchestrator) {id : UUID} {f : Unit → Engine α}
    (hended : m.ended = true) (hm : m.on = some id) (hf : Held creates m (f ())) :
    Held creates m (o.closeTransfer id >>= f) := by
  by_cases hhub : o.progressHub = true
  · rw [show o.closeTransfer id = .perform (Call.closeTransfer id) from if_pos hhub]
    exact Held.perform ⟨hended, hm⟩ fun _ => hf
  · rw [show o.closeTransfer id = .pure () from if_neg hhub]
    exact hf

theorem held_executeCleanup {t : Transfer} {f : Unit → Engine α} (hended : m.ended = true)
    (hm : m.on = some t.id) (hf : Held creates m (f ())) :
    Held creates m (executeCleanup t >>= f) := by
  have hcall : m.ended = true ∧ ∃ id, m.on = some id ∧ t.id.text = id.text := ⟨hended, _, hm, rfl⟩
  refine ⟨.inr hcall, fun _ => ⟨.inr hcall, fun _ => ⟨.inr hcall, fun _ => ?_⟩⟩⟩
  by_cases hs3 : t.strategy = .s3
  · rw [if_pos hs3]
    exact ⟨.inr hcall, fun _ => hf⟩
  · rw [if_neg hs3]
    exact hf

/-! ### CreateTransfer -/

theorem held_failTransfer {id : UUID} (errorMessage eventMessage : String) (a : α)
    (hm : m.on = some id) :
    Held creates m (do failTransfer id errorMessage eventMessage; return a) := by
  refine Held.perform hm fun written => ?_
  cases written <;> exact Held.createEvent hm trivial

theorem held_commandAgents (req : CreateTransferRequest) {id : UUID} (hm : m.on = some id) :
    Held creates m (commandAgents req id) := by
  have hcommand : ∃ id', m.on = some id' ∧ id.text = id'.text := ⟨id, hm, rfl⟩
  refine ⟨.inr hcommand, fun src => ?_⟩
  rcases src with err | _
  · exact held_failTransfer _ _ _ hm
  refine ⟨.inr hcommand, fun dest => ?_⟩
  rcases dest with err | _
  · exact held_failTransfer _ _ _ hm
  · trivial

theorem held_startTransfer (o : Orchestrator) (req : CreateTransferRequest) {t : Transfer}
    (hm : m.on = some t.id) : Held true m (o.startTransfer req t) := by
  unfold startTransfer
  split
  · exact Held.perform hm fun _ => trivial
  refine Held.perform hm fun strategy => ?_
  rcases strategy with err | _
  · trivial
  dsimp only
  split
  · trivial
  refine Held.perform ⟨hm, .inl rfl⟩ fun written => ?_
  rcases written with err | _
  · trivial
  refine Held.perform hm fun started => ?_
  rcases started with err | _
  · trivial
  exact Held.createEvent hm (held_commandAgents req hm)

theorem held_admitTransfer (o : Orchestrator) (req : CreateTransferRequest) {t : Transfer}
    (hm : m.on = none) : Held true m (o.admitTransfer req t) := by
  unfold admitTransfer
  refine Held.perform ⟨rfl, hm⟩ fun inserted => ?_
  rcases inserted with err | _
  · trivial
  -- the row is the operation's own from here on
  refine Held.createEvent rfl ?_
  split
  · trivial
  rename_i transfer hmove
  obtain ⟨-, rfl⟩ := Transfer.transitionTo_eq_ok.mp hmove
  refine Held.perform ⟨rfl, .inl rfl⟩ fun written => ?_
  rcases written with err | _
  · trivial
  refine Held.nameless (nameless_validateTransferRequest _) fun valid => ?_
  rcases valid with err | _
  · exact held_failTransfer _ _ _ rfl
  exact Held.createEvent rfl (held_startTransfer o req rfl)

theorem held_createTransfer (o : Orchestrator) (req : CreateTransferRequest) (hm : m.on = none) :
    Held true m (o.createTransfer req) :=
  Held.nameless ⟨trivial, fun _ => trivial⟩ fun _ =>
    Held.nameless ⟨trivial, fun _ => trivial⟩ fun _ => o.held_admitTransfer req hm

/-! ### CancelTransfer and HandleProgress -/

/-- An operation that loads its transfer goes on with the row it has asked for. -/
theorem held_load {id : UUID} {f : Except Err (Option Transfer) → Engine α} (hm : m.on = some id)
    (herr : ∀ err, Held creates m (f (.error err))) (hnone : Held creates m (f (.ok none)))
    (hsome : ∀ t, t.id = id → Held creates m (f (.ok (some t)))) :
    Held creates m (Engine.getTransferByID id >>= f) := by
  refine Held.perform hm fun loaded => ?_
  rcases loaded with err | (_ | t)
  · exact herr err
  · exact hnone
  by_cases hid : t.id = id
  · have hsame : m.follow ⟨.repo (.getTransferByID id), .ok (some t)⟩ = m := by
      simp [follow, hid]
    rw [hsame]
    exact hsome t hid
  · exact .of_astray _ (by simp [follow, hid])

theorem held_cancelTransfer (o : Orchestrator) {id : UUID} (hm : m.on = some id) :
    Held false m (o.cancelTransfer id) := by
  unfold cancelTransfer
  refine held_load hm (fun _ => trivial) trivial fun t hid => ?_
  dsimp only
  split
  · trivial
  split
  · trivial
  rename_i transfer hmove
  obtain ⟨-, rfl⟩ := Transfer.transitionTo_eq_ok.mp hmove
  refine Held.nameless ⟨trivial, fun _ => trivial⟩ fun now => ?_
  refine Held.perform ⟨hm, .inr rfl⟩ fun written => ?_
  rcases written with err | _
  · trivial
  refine Held.perform hm fun completed => ?_
  rcases completed with err | _
  · trivial
  refine Held.createEvent hm (held_closeTransfer o rfl hm ?_)
  refine Held.nameless (o.nameless_onTransferStateChange _ _ _) fun _ => ?_
  refine Held.perform ⟨rfl, id, hm, rfl⟩ fun _ => Held.perform ⟨rfl, id, hm, rfl⟩ fun _ => ?_
  exact held_executeCleanup rfl (hm.trans (congrArg some hid.symm)) trivial

theorem held_handleCompleted (o : Orchestrator) {id : UUID} {t : Transfer} (hm : m.on = some id)
    (hid : t.id = id) : Held false m (o.handleCompleted id t) := by
  unfold handleCompleted
  split
  · trivial
  rename_i transfer hmove
  obtain ⟨-, rfl⟩ := Transfer.transitionTo_eq_ok.mp hmove
  refine Held.perform ⟨hm, .inr rfl⟩ fun written => ?_
  rcases written with err | _
  · trivial
  refine Held.perform hm fun completed => ?_
  rcases completed with err | _
  · trivial
  refine Held.createEvent hm (held_closeTransfer o rfl hm ?_)
  refine Held.nameless (o.nameless_onTransferStateChange _ _ _) fun _ => ?_
  exact held_executeCleanup rfl (hm.trans (congrArg some hid.symm)) trivial

theorem held_handleExhausted (o : Orchestrator) {id : UUID} {t : Transfer} (errorMessage : String)
    (hm : m.on = some id) (hid : t.id = id) :
    Held false m (o.handleExhausted id errorMessage t) := by
  unfold handleExhausted
  split
  · trivial
  rename_i transfer hmove
  obtain ⟨-, rfl⟩ := Transfer.transitionTo_eq_ok.mp hmove
  refine Held.perform hm fun written => ?_
  rcases written with err | _
  · trivial
  refine Held.createEvent hm (held_closeTransfer o rfl hm ?_)
  refine Held.nameless (o.nameless_onTransferStateChange _ _ _) fun _ => ?_
  refine Held.nameless (o.nameless_onTransferError _) fun _ => ?_
  exact held_executeCleanup rfl (hm.trans (congrArg some hid.symm)) trivial

theorem held_handleFailed (o : Orchestrator) {id : UUID} {t : Transfer} (errorMessage : String)
    (hm : m.on = some id) (hid : t.id = id) :
    Held false m (o.handleFailed id errorMessage t) := by
  refine Held.nameless (nameless_applyRetryBackoff _ _ _ _ _) fun decision => ?_
  split
  · refine Held.perform hm fun counted => ?_
    rcases counted with err | _
    · trivial
    exact Held.createEvent hm trivial
  · exact held_handleExhausted o errorMessage hm hid

theorem held_handleStatus (o : Orchestrator) (report : ProgressReport) {t : Transfer}
    (hm : m.on = some report.transferID) (hid : t.id = report.transferID) :
    Held false m (o.handleStatus report t) := by
  unfold handleStatus
  split
  · exact held_handleCompleted o hm hid
  split
  · exact held_handleFailed o _ hm hid
  · trivial

theorem held_handleProgress (o : Orchestrator) (report : ProgressReport)
    (hm : m.on = some report.transferID) : Held false m (o.handleProgress report) := by
  unfold handleProgress
  refine held_load hm (fun _ => trivial) trivial fun t hid => ?_
  refine Held.perform hm fun updated => ?_
  rcases updated with err | _
  · trivial
  refine Held.createEvent hm (held_publish o hm ?_)
  refine Held.nameless (o.nameless_onProgressReport _ _) fun reported => ?_
  rcases reported with _ | _ | _
  · exact Prog.Obeys.bind ((held_handleStatus o report hm hid).mono fun _ _ _ => trivial)
  · trivial
  · trivial

end Orchestrator

/-- What an operation holds before it has done anything. -/
def Request.grip : Request → Grip
  | .createTransfer _ => { on := none }
  | .cancelTransfer id => { on := some id }
  | .handleProgress report => { on := some report.transferID }

theorem Orchestrator.held_serve [UUIDText] (o : Orchestrator) (request : Request) :
    Grip.Held request.creates request.grip (o.serve request) := by
  cases request with
  | createTransfer req =>
    exact Prog.Obeys.bind ((o.held_createTransfer req rfl).mono fun _ _ _ => trivial)
  | cancelTransfer id =>
    exact Prog.Obeys.bind ((o.held_cancelTransfer rfl).mono fun _ _ _ => trivial)
  | handleProgress report =>
    exact Prog.Obeys.bind ((o.held_handleProgress report rfl).mono fun _ _ _ => trivial)

/-! ## One call -/

section

variable {id : UUID} {op : Call} {s : Store}

/-- What does not name a transfer leaves its row and its timeline alone. -/
theorem exec_of_not_names [UUIDText] (h : ¬ op.Names id) (env : Env) (s : Store) :
    (exec env op s).2.row id = s.row id ∧ (exec env op s).2.timeline id = s.timeline id := by
  constructor
  · cases op with
    | repo call =>
      have hof : Call.Of call.transferID (.repo call) := rfl
      exact row_exec_of_ne hof (Ne.symm h) env s
    | _ => rfl
  · rcases timeline_exec env op s id with hsame | ⟨e, rfl, hid, -⟩
    · exact hsame
    · exact absurd hid h

/-- A row that is asked for is the one that is given. -/
theorem Grip.astray_follow_exec (m : Grip) (env : Env) (op : Call) (s : Store) :
    (m.follow ⟨op, (exec env op s).1⟩).astray = m.astray := by
  cases op with
  | repo call =>
    cases call with
    | getTransferByID id =>
      simp only [exec, execRepo, Env.answer]
      cases hfail : env.fail with
      | some err => rfl
      | none =>
        cases hrow : s.row id with
        | none => rfl
        | some t => simp [follow, Keyed.Table.key_of_find? hrow]
    | createTransfer t => cases hr : (exec env (.repo (.createTransfer t)) s).1 <;> rfl
    | updateTransferState id' state =>
      cases hr : (exec env (.repo (.updateTransferState id' state)) s).1 <;> rfl
    | updateTransferFailed id' errorMessage =>
      cases hr : (exec env (.repo (.updateTransferFailed id' errorMessage)) s).1 <;> rfl
    | _ => rfl
  | _ => rfl

/-- The row of an identifier in use is not inserted again. -/
theorem exec_insert_of_some {t : Transfer} (hrow : s.row t.id ≠ none) (env : Env) :
    ∃ err, (exec env (.repo (.createTransfer t)) s).1 = .error err := by
  simp only [exec, execRepo]
  rcases env.write_cases s (Store.insertTransfer · t) with ⟨err, hwrite⟩ | ⟨s', hins, -⟩
  · exact ⟨err, by rw [hwrite]⟩
  · exact absurd (Store.insertTransfer_eq_ok hins).1 hrow

/-- An operation that has ended a transfer had ended it before, or has just written
    its end. -/
theorem Grip.ended_follow_exec {m : Grip} (env : Env)
    (h : (m.follow ⟨op, (exec env op s).1⟩).ended = true) :
    m.ended = true ∨ ∃ id' state, op.writtenState id' = some state ∧ state.isTerminal = true ∧
      env.fail = none := by
  cases op with
  | repo call =>
    cases call with
    | createTransfer t =>
      revert h
      cases (exec env (.repo (.createTransfer t)) s).1 with
      | error err => exact .inl
      | ok _ => exact nofun
    | getTransferByID id' =>
      revert h
      rcases (exec env (.repo (.getTransferByID id')) s).1 with err | (_ | t) <;> exact .inl
    | updateTransferState id' state =>
      cases hfail : env.fail with
      | none =>
        simp only [exec, execRepo, Env.write, hfail, Store.updateTransfer, follow] at h
        exact .inr ⟨id', state, by simp [Call.writtenState], h, rfl⟩
      | some err =>
        simp only [exec, execRepo, Env.write_of_fail hfail] at h
        exact .inl h
    | updateTransferFailed id' errorMessage =>
      cases hfail : env.fail with
      | none => exact .inr ⟨id', .failed, by simp [Call.writtenState], rfl, rfl⟩
      | some err =>
        simp only [exec, execRepo, Env.write_of_fail hfail] at h
        exact .inl h
    | _ => exact .inl h
  | _ => exact .inl h

/-- The grip changes with an accepted insertion alone, and not to a row that is there. -/
theorem Grip.on_follow_exec {m : Grip} (hrow : s.row id ≠ none) (env : Env)
    (h : (m.follow ⟨op, (exec env op s).1⟩).on = some id) : m.on = some id := by
  cases op with
  | repo call =>
    cases call with
    | createTransfer t =>
      cases hr : (exec env (.repo (.createTransfer t)) s).1 with
      | error err =>
        rw [hr] at h
        exact h
      | ok _ =>
        rw [hr] at h
        have hid : t.id = id := Option.some.inj h
        subst hid
        obtain ⟨err, herr⟩ := exec_insert_of_some hrow env
        rw [hr] at herr
        cases herr
    | getTransferByID id' =>
      revert h
      rcases (exec env (.repo (.getTransferByID id')) s).1 with err | (_ | t) <;> exact fun h => h
    | updateTransferState id' state =>
      revert h
      cases (exec env (.repo (.updateTransferState id' state)) s).1 <;> exact fun h => h
    | updateTransferFailed id' errorMessage =>
      revert h
      cases (exec env (.repo (.updateTransferFailed id' errorMessage)) s).1 <;> exact fun h => h
    | _ => exact h
  | _ => exact h

end

/-! ## Transfers that nobody names -/

section

variable [UUIDText] {id : UUID}

/-- The row and the timeline are as they were, and the operation holds another transfer. -/
structure Untouched (id : UUID) (t : Transfer) (events : List TransferEvent) (m : Grip) (s : Store) :
    Prop where
  row : s.row id = some t
  timeline : s.timeline id = events
  elsewhere : m.on ≠ some id
  straight : m.astray = false

/-- The others leave the row and the timeline as they are. -/
def Leaves (id : UUID) (s s' : Store) : Prop :=
  s'.row id = s.row id ∧ s'.timeline id = s.timeline id

/-- An entry of the history that names the transfer is an attempt to insert its row again. -/
def CallEv.Misses (id : UUID) (ev : CallEv) : Prop :=
  ev.1.Names id → ∃ t err, ev = ⟨.repo (.createTransfer t), .error err⟩

theorem Grip.Grants.insert_of_names {creates : Bool} {m : Grip} {op : Call}
    (h : m.Grants creates op) (helse : m.on ≠ some id) (hnames : op.Names id) :
    ∃ t, op = .repo (.createTransfer t) ∧ t.id = id := by
  have htext : ∀ text : String, text = id.text → ¬ ∃ id', m.on = some id' ∧ text = id'.text := by
    rintro _ rfl ⟨id', hon, htext⟩
    rw [UUID.text_injective htext] at helse
    exact helse hon
  cases op with
  | repo call =>
    cases call with
    | createTransfer t => exact ⟨t, rfl, hnames⟩
    | updateTransferState id' state => exact absurd (hnames ▸ h.1) helse
    | _ => exact absurd (hnames ▸ h) helse
  | sendTransferCommand agentID transferID => exact absurd h (htext _ hnames)
  | sendCancelCommand agentID transferID => exact absurd h.2 (htext _ hnames)
  | revokeCredentials transferID => exact absurd h.2 (htext _ hnames)
  | deleteTransferObjects transferID => exact absurd h.2 (htext _ hnames)
  | publish id' progress => exact absurd (hnames ▸ h) helse
  | closeTransfer id' => exact absurd (hnames ▸ h.2) helse
  | _ => exact hnames.elim

theorem Untouched.step {creates : Bool} {t : Transfer} {events : List TransferEvent} {m : Grip}
    {op : Call} {s : Store} (h : Untouched id t events m s) (hperm : m.Permits creates op)
    (env : Env) :
    (Leaves id s (exec env op s).2 ∧ CallEv.Misses id ⟨op, (exec env op s).1⟩) ∧
      Untouched id t events (m.follow ⟨op, (exec env op s).1⟩) (exec env op s).2 := by
  have hrow : s.row id ≠ none := by
    rw [h.row]
    simp
  have hgrants : m.Grants creates op := by
    rcases hperm with hastray | hgrants
    · rw [h.straight] at hastray
      cases hastray
    · exact hgrants
  -- the row is not touched: an insertion finds it taken
  have hsame : Leaves id s (exec env op s).2 ∧ CallEv.Misses id ⟨op, (exec env op s).1⟩ := by
    by_cases hnames : op.Names id
    · obtain ⟨t', rfl, rfl⟩ := hgrants.insert_of_names h.elsewhere hnames
      obtain ⟨err, herr⟩ := exec_insert_of_some hrow env
      rw [exec_insert_of_error herr]
      exact ⟨⟨rfl, rfl⟩, fun _ => ⟨t', err, by rw [herr]⟩⟩
    · exact ⟨exec_of_not_names hnames env s, fun hn => absurd hn hnames⟩
  refine ⟨hsame, ?_⟩
  exact ⟨hsame.1.1.trans h.row, hsame.1.2.trans h.timeline,
    fun hon => h.elsewhere (Grip.on_follow_exec hrow env hon),
    (m.astray_follow_exec env op s).trans h.straight⟩

omit [UUIDText] in
theorem Request.on_grip {request : Request} (h : ¬ request.Names id) :
    request.grip.on ≠ some id := by
  cases request with
  | createTransfer req => exact nofun
  | cancelTransfer id' => exact fun hon => h (Option.some.inj hon)
  | handleProgress report => exact fun hon => h (Option.some.inj hon)

theorem rg_untouched (o : Orchestrator) {request : Request} (hnames : ¬ request.Names id) {t : Transfer}
    {s : Store} (hrow : s.row id = some t) :
    Prog.rg exec (fun _ _ _ => True) (Leaves id) (fun s ev s' => Leaves id s s' ∧ CallEv.Misses id ev)
      (o.serve request) (fun _ _ => True) s := by
  refine Prog.rg_of_obeys (Untouched id t (s.timeline id)) ?_ ?_ (fun _ _ _ _ _ => trivial)
    (o.held_serve request) ⟨hrow, rfl, Request.on_grip hnames, by cases request <;> rfl⟩
  · rintro m s₁ s₂ h ⟨hrow', htimeline⟩
    exact ⟨hrow'.trans h.row, htimeline.trans h.timeline, h.elsewhere, h.straight⟩
  · exact fun m op hperm s₁ h env _ => h.step hperm env

variable {ι : Type} [DecidableEq ι] {o : Orchestrator} {requests : ι → Request} {s₀ : Store}
variable {tr : Trace ι Call Call.Ans} {cfg : Config Call Call.Ans Response ι Store}

/-- Every interleaving of any requests, with any faults: a stored transfer that no
    cancellation and no report names keeps its row and its timeline, and nothing
    is asked on its behalf, except that a creation which draws its identifier
    again is refused. -/
theorem untouched_of_run {t : Transfer} (hrow : s₀.row id = some t)
    (hnames : ∀ i, ¬ (requests i).Names id)
    (hrun : Run exec (fun _ _ _ _ => True) ⟨fun i => o.serve (requests i), s₀⟩ tr cfg) :
    cfg.state.row id = some t ∧ cfg.state.timeline id = s₀.timeline id ∧
      ∀ e ∈ tr, CallEv.Misses id e.2 := by
  have htrans : ∀ a b c, Leaves id a b → Leaves id b c → Leaves id a c := fun _ _ _ hab hbc =>
    ⟨hbc.1.trans hab.1, hbc.2.trans hab.2⟩
  have hstart : ∀ i, Prog.rg exec (fun _ _ _ => True) (Leaves id)
      (fun s ev s' => Leaves id s s' ∧ CallEv.Misses id ev) (o.serve (requests i))
      (fun _ _ => True) s₀ := fun i => rg_untouched o (hnames i) hrow
  have hsteps : ∀ e ∈ tr, CallEv.Misses id e.2 := by
    intro e he
    obtain ⟨_, _, -, hmisses⟩ := hrun.guarantee_of_mem (R := fun _ => Leaves id)
      (fun _ _ => ⟨rfl, rfl⟩) (fun _ => htrans) (fun _ _ _ _ _ _ h => h.1) hstart he
    exact hmisses
  have hkept : Leaves id s₀ cfg.state :=
    hrun.guarantee_trans (R := fun _ => Leaves id) (fun _ => ⟨rfl, rfl⟩) htrans
      (fun _ _ _ _ h => h.1) (fun _ _ => ⟨rfl, rfl⟩) (fun _ => htrans)
      (fun _ _ _ _ _ _ h => h.1) hstart
  exact ⟨hkept.1.trans hrow, hkept.2, hsteps⟩

end

/-! ## What is taken away -/

section

variable [UUIDText] {id : UUID}

/-- The row is there, an operation that holds it did not insert it, and what it
    has ended is ended. -/
structure Tended (creates : Bool) (id : UUID) (m : Grip) (s : Store) : Prop where
  stored : s.row id ≠ none
  straight : m.astray = false
  elsewhere : creates = true → m.on ≠ some id
  ended : m.on = some id → m.ended = true → s.terminal id = true

/-- The row stays, and its state can only become final. -/
def Retains (id : UUID) (s s' : Store) : Prop := (s.row id ≠ none → s'.row id ≠ none) ∧ Settles id s s'

omit [UUIDText] in
theorem Retains.trans {a b c : Store} (hab : Retains id a b) (hbc : Retains id b c) :
    Retains id a c :=
  ⟨fun h => hbc.1 (hab.1 h), hab.2.trans hbc.2⟩

omit [UUIDText] in
theorem Settles.terminal {s s' : Store} (h : Settles id s s') (hs : s.terminal id = true) :
    s'.terminal id = true := by
  rcases h with hsame | hterm
  · rw [Store.terminal, hsame]
    exact hs
  · exact hterm

theorem Grip.Grants.ended_of_withdraws {creates : Bool} {m : Grip} {op : Call}
    (h : m.Grants creates op) (hwithdraws : op.Withdraws id) : m.ended = true ∧ m.on = some id := by
  have htext : ∀ text : String, text = id.text → (∃ id', m.on = some id' ∧ text = id'.text) →
      m.on = some id := by
    rintro _ rfl ⟨id', hon, htext⟩
    rw [hon, UUID.text_injective htext]
  cases op with
  | sendCancelCommand agentID transferID => exact ⟨h.1, htext _ hwithdraws h.2⟩
  | revokeCredentials transferID => exact ⟨h.1, htext _ hwithdraws h.2⟩
  | deleteTransferObjects transferID => exact ⟨h.1, htext _ hwithdraws h.2⟩
  | closeTransfer id' => exact ⟨h.1, h.2.trans (congrArg some hwithdraws)⟩
  | _ => exact hwithdraws.elim

/-- Whoever holds a row that was there ends it, or leaves its state alone. -/
theorem Tended.settles {creates : Bool} {m : Grip} {op : Call} {s : Store}
    (h : Tended creates id m s) (hgrants : m.Grants creates op) (env : Env) :
    Settles id s (exec env op s).2 := by
  rcases stateOf_exec env op s id with hsame | ⟨state, hw, hafter⟩ | ⟨_, -, -, hfresh, -⟩
  · exact .inl hsame
  · obtain ⟨t, ht⟩ := Option.ne_none_iff_exists'.mp h.stored
    have hterm : state.isTerminal = true := by
      rcases Call.writtenState_eq_some.mp hw with rfl | ⟨errorMessage, rfl, rfl⟩
      · rcases hgrants.2 with hcreates | hterm
        · exact absurd hgrants.1 (h.elsewhere hcreates)
        · exact hterm
      · rfl
    refine .inr (Store.terminal_iff.mpr ⟨state, ?_, hterm⟩)
    rw [hafter, Store.stateOf, ht]
    rfl
  · exact absurd hfresh h.stored

theorem Tended.step {creates : Bool} {m : Grip} {op : Call} {s : Store}
    (h : Tended creates id m s) (hperm : m.Permits creates op) (env : Env) :
    (Retains id s (exec env op s).2 ∧ (op.Withdraws id → s.terminal id = true)) ∧
      Tended creates id (m.follow ⟨op, (exec env op s).1⟩) (exec env op s).2 := by
  have hgrants : m.Grants creates op := by
    rcases hperm with hastray | hgrants
    · rw [h.straight] at hastray
      cases hastray
    · exact hgrants
  have hstored : (exec env op s).2.row id ≠ none := by
    obtain ⟨t, ht⟩ := Option.ne_none_iff_exists'.mp h.stored
    obtain ⟨t', ht', -⟩ := row_exec_of_some ht env op
    rw [ht']
    simp
  have hsettles := h.settles hgrants env
  refine ⟨⟨⟨fun _ => hstored, hsettles⟩, fun hwithdraws => ?_⟩, hstored,
    (m.astray_follow_exec env op s).trans h.straight,
    fun hcreates hon => h.elsewhere hcreates (Grip.on_follow_exec h.stored env hon), ?_⟩
  · obtain ⟨hended, hon⟩ := hgrants.ended_of_withdraws hwithdraws
    exact h.ended hon hended
  · intro hon hended
    have hon' := Grip.on_follow_exec h.stored env hon
    rcases Grip.ended_follow_exec env hended with hold | ⟨id', state, hw, hterm, hfail⟩
    · exact hsettles.terminal (h.ended hon' hold)
    · -- the state was written to the row that the operation holds
      have hid : id' = id := by
        have hheld : m.on = some id' := by
          rcases Call.writtenState_eq_some.mp hw with rfl | ⟨errorMessage, rfl, -⟩
          · exact hgrants.1
          · exact hgrants
        rw [hheld] at hon'
        exact Option.some.inj hon'
      subst hid
      obtain ⟨t, ht⟩ := Option.ne_none_iff_exists'.mp h.stored
      refine Store.terminal_iff.mpr ⟨state, ?_, hterm⟩
      rw [stateOf_exec_of_write hw hfail, Store.stateOf, ht]
      rfl

theorem rg_tended (o : Orchestrator) (request : Request) {s : Store} (hrow : s.row id ≠ none) :
    Prog.rg exec (fun _ _ _ => True) (Retains id)
      (fun s ev s' => Retains id s s' ∧ (ev.1.Withdraws id → s.terminal id = true))
      (o.serve request) (fun _ _ => True) s := by
  refine Prog.rg_of_obeys (Tended request.creates id) ?_ ?_ (fun _ _ _ _ _ => trivial)
    (o.held_serve request) ?_
  · rintro m s₁ s₂ h ⟨hstored, hsettles⟩
    exact ⟨hstored h.stored, h.straight, h.elsewhere,
      fun hon hended => hsettles.terminal (h.ended hon hended)⟩
  · exact fun m op hperm s₁ h env _ => h.step hperm env
  · -- a creation holds nothing yet, and the others have ended nothing
    cases request with
    | createTransfer req => exact ⟨hrow, rfl, fun _ => nofun, nofun⟩
    | cancelTransfer id' => exact ⟨hrow, rfl, nofun, fun _ => nofun⟩
    | handleProgress report => exact ⟨hrow, rfl, nofun, fun _ => nofun⟩

/-- Over all runs from a configuration in which the transfer is stored: its state
    can only become final, a final one gives way to a final one only, and nothing
    is taken away from it before its end. -/
structure Retires {κ : Type} [DecidableEq κ] (cfg₀ : Config Call Call.Ans Response κ Store)
    (id : UUID) : Prop where
  settles : ∀ {tr cfg}, Run exec (fun _ _ _ _ => True) cfg₀ tr cfg →
    Settles id cfg₀.state cfg.state
  final : ∀ {tr cfg tr' cfg'}, Run exec (fun _ _ _ _ => True) cfg₀ tr cfg →
    Run exec (fun _ _ _ _ => True) cfg tr' cfg' → cfg.state.terminal id = true →
    cfg'.state.terminal id = true
  withdraws : ∀ {tr cfg i op k}, Run exec (fun _ _ _ _ => True) cfg₀ tr cfg →
    cfg.procs i = .call op k → op.Withdraws id → cfg.state.terminal id = true

/-- Every interleaving of any requests, with any faults, on a transfer whose row is
    stored: agents are told to stop, credentials revoked, objects deleted and
    subscribers closed only when the transfer has ended, and it stays ended. -/
theorem retires_of_stored {ι : Type} [DecidableEq ι] (o : Orchestrator) (requests : ι → Request)
    {s₀ : Store} (hrow : s₀.row id ≠ none) : Retires ⟨fun i => o.serve (requests i), s₀⟩ id := by
  have hrefl : ∀ s, Retains id s s := fun s => ⟨fun h => h, .inl rfl⟩
  have hstart : ∀ i, Prog.rg exec (fun _ _ _ => True) (Retains id)
      (fun s ev s' => Retains id s s' ∧ (ev.1.Withdraws id → s.terminal id = true))
      (o.serve (requests i)) (fun _ _ => True) s₀ := fun i => rg_tended o (requests i) hrow
  have hsteps := fun {tr cfg} (hrun : Run exec (fun _ _ _ _ => True)
      ⟨fun i => o.serve (requests i), s₀⟩ tr cfg) (env : Env) {i op k}
      (hnext : cfg.procs i = .call op k) =>
    hrun.guarantee (R := fun _ => Retains id) (fun _ => hrefl) (fun _ _ _ _ => Retains.trans)
      (fun _ _ _ _ _ _ h => h.1) hstart hnext (c := env) trivial
  refine ⟨fun hrun => ?_, fun hrun hrun' hterm => ?_, fun hrun hnext hwithdraws => ?_⟩
  · exact (hrun.guarantee_trans (R := fun _ => Retains id) hrefl (fun _ _ _ => Retains.trans)
      (fun _ _ _ _ h => h.1) (fun _ => hrefl) (fun _ _ _ _ => Retains.trans)
      (fun _ _ _ _ _ _ h => h.1) hstart).2
  · induction hrun' with
    | init => exact hterm
    | @step tr' cfg' i env op k hrest hnext hok ih =>
      exact (hsteps (hrun.trans hrest) env hnext).1.2.terminal ih
  · exact (hsteps hrun {} hnext).2 hwithdraws

end

/-! ## Sample runs -/

/-- Where the sample request has stored its transfer. -/
def storedOnce : Option (List CallEv × Store) :=
  sampleEnd false [(.createTransfer sampleRequest, calls 7 21)]

/-- Another creation draws the identifier of the stored transfer. -/
theorem untouched_of_secondInsert :
    ∃ h s t tr cfg, storedOnce = some (h, s) ∧ s.row 7 = some t ∧
      Run exec (fun _ _ _ _ => True)
        ⟨fun _ : Unit => @Orchestrator.serve canonicalText plainOrchestrator
          (.createTransfer sampleRequest), s⟩ tr cfg ∧ tr.length = 3 ∧
      (cfg.state.row 7 = some t ∧ cfg.state.timeline 7 = s.timeline 7 ∧
        ∀ e ∈ tr, @CallEv.Misses canonicalText 7 e.2) := by
  have hend : storedOnce.any fun out => (out.2.row 7).isSome ∧
      ((Config.follow exec (fun _ _ _ _ => True)
        ⟨fun _ : Unit => @Orchestrator.serve canonicalText plainOrchestrator
          (.createTransfer sampleRequest), out.2⟩ (moves () 7 3)).map fun run => run.1.length) =
        some 3 := by decide +kernel
  obtain ⟨⟨h, s⟩, hstored, hfacts⟩ := (Option.any_eq_true _ _).mp hend
  obtain ⟨hrow, hlength⟩ := of_decide_eq_true hfacts
  obtain ⟨t, ht⟩ := Option.isSome_iff_exists.mp hrow
  obtain ⟨run, hrun, hthree⟩ := Option.map_eq_some_iff.mp hlength
  exact ⟨h, s, t, run.1, run.2, hstored, ht, .of_follow hrun, hthree,
    @untouched_of_run canonicalText 7 Unit _ plainOrchestrator (fun _ => .createTransfer sampleRequest)
      s run.1 run.2 t ht (fun _ => id) (.of_follow hrun)⟩

/-- A cancellation and a report next to each other. -/
theorem retires_of_storedOnce :
    ∃ h s, storedOnce = some (h, s) ∧
      @Retires canonicalText Bool _ ⟨fun i => @Orchestrator.serve canonicalText plainOrchestrator
        (if i then .cancelTransfer 7 else .handleProgress { transferID := 7, status := "completed" }),
        s⟩ 7 := by
  have hend : storedOnce.any fun out => out.2.row 7 ≠ none := by decide +kernel
  obtain ⟨⟨h, s⟩, hstored, hrow⟩ := (Option.any_eq_true _ _).mp hend
  exact ⟨h, s, hstored, @retires_of_stored canonicalText 7 Bool _ plainOrchestrator
    (fun i => if i then .cancelTransfer 7 else .handleProgress { transferID := 7, status := "completed" })
    s (of_decide_eq_true hrow)⟩

end Katapult
