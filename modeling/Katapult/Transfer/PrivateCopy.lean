/-
  Katapult.Transfer.PrivateCopy

  How every operation of the engine changes the state column: it checks each
  transition on a private copy of the row, which it inserted or read before,
  and then writes without looking at the row again.  `Copy` is a monitor of
  that copy; the three operations obey it whatever the calls answer.
-/

import Katapult.Effect.Interleaving
import Katapult.Transfer.Footprint

namespace Katapult

open Effect

/-- What an operation holds of the row it works on. -/
structure Copy where
  /-- Whose row it is, and the state the operation takes it to have. -/
  held : Option (UUID × TransferState) := none
  /-- Whose row the operation has made terminal without recording an event yet. -/
  unrecorded : Option UUID := none

namespace Copy

def write (m : Copy) (id : UUID) (state : TransferState) : Copy where
  held := some (id, state)
  unrecorded := if state.isTerminal then some id else m.unrecorded

/-- How the copy changes with what the operation does and is told. -/
def follow (m : Copy) : CallEv → Copy
  | ⟨.repo (.createTransfer t), .ok _⟩ => { m with held := some (t.id, t.state) }
  | ⟨.repo (.getTransferByID id), .ok (some t)⟩ => { m with held := some (id, t.state) }
  | ⟨.repo (.updateTransferState id state), _⟩ => m.write id state
  | ⟨.repo (.updateTransferFailed id _), _⟩ => m.write id .failed
  | ⟨.repo (.createTransferEvent e), _⟩ =>
      if e.eventType.isTerminal then { m with unrecorded := none } else m
  | _ => m

/-- The copy allows a transition to `target`. -/
def CanMove (m : Copy) (id : UUID) (target : TransferState) : Prop :=
  ∃ state, m.held = some (id, state) ∧ state.Edge target

/-- The discipline of the engine.  Only `createTransfer` inserts, commands agents
    and writes a state that is not terminal; a state is written only along an
    edge from the copy, and a terminal event only after a terminal state. -/
def Permits (creates : Bool) (m : Copy) : Call → Prop
  | .repo (.createTransfer _) => creates = true
  | .repo (.updateTransferState id state) =>
      (creates = true ∨ state.isTerminal = true) ∧ m.CanMove id state
  | .repo (.updateTransferFailed id _) => m.CanMove id .failed
  | .repo (.createTransferEvent e) =>
      e.eventType.isTerminal = true → m.unrecorded = some e.transferID
  | .sendTransferCommand .. => creates = true
  | _ => True

/-- A program follows the discipline from copy `m` on. -/
abbrev Obeyed {α : Type} (creates : Bool) (m : Copy) (p : Engine α) : Prop :=
  Prog.Obeys follow (Permits creates) (fun _ _ => True) m p

/-- The copy plays no role in a passive call. -/
theorem permits_passive (creates : Bool) (m : Copy) (op : Call) (h : op.Passive) :
    m.Permits creates op ∧ ∀ r, m.follow ⟨op, r⟩ = m := by
  cases op with
  | repo call => exact absurd h id
  | sendTransferCommand agentID transferID => exact absurd h id
  | _ => exact ⟨trivial, fun _ => rfl⟩

/-- Nor in the recording of an event that ends nothing. -/
theorem permits_recordsEvent (creates : Bool) (m : Copy) {id : UUID} {eventType : EventType}
    (hty : eventType.isTerminal = false) (op : Call) (h : op.RecordsEvent id eventType) :
    m.Permits creates op ∧ ∀ r, m.follow ⟨op, r⟩ = m := by
  cases op with
  | newUUID => exact ⟨trivial, fun _ => rfl⟩
  | timeNow => exact ⟨trivial, fun _ => rfl⟩
  | repo call =>
    cases call with
    | createTransferEvent e =>
      obtain ⟨-, rfl⟩ := h
      refine ⟨fun hterm => ?_, fun r => ?_⟩
      · rw [hty] at hterm
        cases hterm
      · simp [follow, hty]
    | _ => cases h
  | _ => cases h

section

variable {creates : Bool} {m : Copy} {α β : Type}

theorem Obeyed.perform {op : Call} {f : op.Ans → Engine α} (hop : m.Permits creates op)
    (hf : ∀ r, Obeyed creates (m.follow ⟨op, r⟩) (f r)) :
    Obeyed creates m (Prog.perform op >>= f) :=
  Prog.Obeys.perform hop hf

theorem Obeyed.passive {p : Engine β} {f : β → Engine α} (hp : p.All Call.Passive)
    (hf : ∀ b, Obeyed creates m (f b)) : Obeyed creates m (p >>= f) :=
  Prog.Obeys.skip (hp.mono (permits_passive creates m)) hf

theorem Obeyed.ambient {p : Engine β} {f : β → Engine α} (hp : p.All Call.Ambient)
    (hf : ∀ b, Obeyed creates m (f b)) : Obeyed creates m (p >>= f) :=
  Obeyed.passive (hp.mono fun _ h => h.passive) hf

theorem Obeyed.createEvent {id : UUID} {eventType : EventType} {message : String}
    {metadata : Option (List (String × String))} {f : Unit → Engine α}
    (hty : eventType.isTerminal = false) (hf : Obeyed creates m (f ())) :
    Obeyed creates m (createEvent id eventType message metadata >>= f) :=
  Prog.Obeys.skip
    ((all_createEvent id eventType message metadata).mono (permits_recordsEvent creates m hty))
    fun _ => hf

/-- The recording of an end uses up the terminal write before it. -/
theorem Obeyed.createTerminalEvent {id : UUID} {eventType : EventType} {message : String}
    {metadata : Option (List (String × String))} {f : Unit → Engine α}
    (hm : m.unrecorded = some id)
    (hf : ∀ m', Obeyed creates m' (f ())) :
    Obeyed creates m (Katapult.createEvent id eventType message metadata >>= f) :=
  ⟨trivial, fun _ => ⟨trivial, fun _ => ⟨fun _ => hm, fun _ => hf _⟩⟩⟩

/-- A transition that `transitionTo` allows is allowed by the copy. -/
theorem canMove_of_transitionTo {t t' : Transfer} {id : UUID} {target : TransferState}
    (hm : m.held = some (id, t.state)) (h : t.transitionTo target = .ok t') :
    m.CanMove id target :=
  ⟨t.state, hm, (Transfer.transitionTo_eq_ok.mp h).1⟩

end

end Copy

/-! ## The operations -/

open Copy

namespace Orchestrator

/-- The failure exits of `createTransfer`. -/
theorem obeyed_failTransfer {m : Copy} {id : UUID} {state : TransferState} {α : Type}
    (errorMessage eventMessage : String) (a : α) (hm : m.held = some (id, state))
    (hedge : state.Edge .failed) :
    Obeyed true m (do failTransfer id errorMessage eventMessage; return a) :=
  ⟨⟨state, hm, hedge⟩, fun _ => Obeyed.createTerminalEvent rfl fun _ => trivial⟩

variable [UUIDText]

theorem obeyed_executeCleanup {creates : Bool} {m : Copy} {α : Type} (transfer : Transfer)
    (a : α) : Obeyed creates m (do executeCleanup transfer; return a) :=
  Obeyed.passive (all_executeCleanup transfer) fun _ => trivial

theorem obeyed_commandAgents {m : Copy} (req : CreateTransferRequest) {id : UUID}
    (hm : m.held = some (id, .transferring)) : Obeyed true m (commandAgents req id) := by
  refine ⟨rfl, fun src => ?_⟩
  rcases src with err | _
  · exact obeyed_failTransfer _ _ _ hm (by decide)
  refine ⟨rfl, fun dest => ?_⟩
  rcases dest with err | _
  · exact obeyed_failTransfer _ _ _ hm (by decide)
  · trivial

theorem obeyed_startTransfer {m : Copy} (o : Orchestrator) (req : CreateTransferRequest)
    {transfer : Transfer} (hm : m.held = some (transfer.id, transfer.state))
    (hstate : transfer.state = .validating) : Obeyed true m (o.startTransfer req transfer) := by
  rw [hstate] at hm
  unfold startTransfer
  split
  · -- no strategy: the row fails without an event
    exact ⟨⟨_, hm, by decide⟩, fun _ => trivial⟩
  refine ⟨trivial, fun strategy => ?_⟩
  rcases strategy with err | _
  · trivial
  split
  · trivial
  refine ⟨⟨.inl rfl, _, hm, by decide⟩, fun written => ?_⟩
  rcases written with err | _
  · trivial
  refine ⟨trivial, fun started => ?_⟩
  rcases started with err | _
  · trivial
  exact Obeyed.createEvent rfl (obeyed_commandAgents req rfl)

theorem obeyed_admitTransfer {m : Copy} (o : Orchestrator) (req : CreateTransferRequest)
    {transfer : Transfer} (hstate : transfer.state = .pending) :
    Obeyed true m (o.admitTransfer req transfer) := by
  unfold admitTransfer
  refine Obeyed.perform rfl fun inserted => ?_
  rcases inserted with err | _
  · trivial
  refine Obeyed.createEvent rfl ?_
  split
  · trivial
  rename_i transfer' hmove
  obtain ⟨-, rfl⟩ := Transfer.transitionTo_eq_ok.mp hmove
  refine Obeyed.perform ⟨.inl rfl, transfer.state, rfl, by rw [hstate]; decide⟩ fun written => ?_
  rcases written with err | _
  · trivial
  refine Obeyed.ambient (all_validateTransferRequest _) fun valid => ?_
  rcases valid with err | _
  · exact obeyed_failTransfer _ _ _ rfl (by decide)
  exact Obeyed.createEvent rfl (obeyed_startTransfer o req rfl rfl)

theorem obeyed_createTransfer {m : Copy} (o : Orchestrator) (req : CreateTransferRequest) :
    Obeyed true m (o.createTransfer req) :=
  ⟨trivial, fun _ => ⟨trivial, fun _ => obeyed_admitTransfer o req rfl⟩⟩

theorem obeyed_cancelTransfer {m : Copy} (o : Orchestrator) (id : UUID) :
    Obeyed false m (o.cancelTransfer id) := by
  unfold cancelTransfer
  refine Obeyed.perform trivial fun loaded => ?_
  rcases loaded with err | (_ | transfer)
  · trivial
  · trivial
  dsimp only
  split
  · trivial
  split
  · trivial
  rename_i transfer' hmove
  refine ⟨trivial, fun now => ⟨⟨.inr rfl, canMove_of_transitionTo rfl hmove⟩, fun written => ?_⟩⟩
  rcases written with err | _
  · trivial
  refine ⟨trivial, fun completed => ?_⟩
  rcases completed with err | _
  · trivial
  refine Obeyed.createTerminalEvent rfl fun m' => ?_
  refine Obeyed.ambient (o.all_closeTransfer id) fun _ => ?_
  refine Obeyed.ambient (o.all_onTransferStateChange _ _ _) fun _ => ?_
  exact ⟨trivial, fun _ => ⟨trivial, fun _ => obeyed_executeCleanup _ _⟩⟩

theorem obeyed_handleCompleted {m : Copy} (o : Orchestrator) {id : UUID} {transfer : Transfer}
    (hm : m.held = some (id, transfer.state)) :
    Obeyed false m (o.handleCompleted id transfer) := by
  unfold handleCompleted
  split
  · trivial
  rename_i transfer' hmove
  refine ⟨⟨.inr rfl, canMove_of_transitionTo hm hmove⟩, fun written => ?_⟩
  rcases written with err | _
  · trivial
  refine ⟨trivial, fun completed => ?_⟩
  rcases completed with err | _
  · trivial
  refine Obeyed.createTerminalEvent rfl fun m' => ?_
  refine Obeyed.ambient (o.all_closeTransfer id) fun _ => ?_
  refine Obeyed.ambient (o.all_onTransferStateChange _ _ _) fun _ => ?_
  exact obeyed_executeCleanup _ _

theorem obeyed_handleExhausted {m : Copy} (o : Orchestrator) {id : UUID} {transfer : Transfer}
    (errorMessage : String) (hm : m.held = some (id, transfer.state)) :
    Obeyed false m (o.handleExhausted id errorMessage transfer) := by
  unfold handleExhausted
  split
  · trivial
  rename_i transfer' hmove
  refine ⟨canMove_of_transitionTo hm hmove, fun written => ?_⟩
  rcases written with err | _
  · trivial
  refine Obeyed.createTerminalEvent rfl fun m' => ?_
  refine Obeyed.ambient (o.all_closeTransfer id) fun _ => ?_
  refine Obeyed.ambient (o.all_onTransferStateChange _ _ _) fun _ => ?_
  refine Obeyed.ambient (o.all_onTransferError _) fun _ => ?_
  exact obeyed_executeCleanup _ _

theorem obeyed_handleFailed {m : Copy} (o : Orchestrator) {id : UUID} {transfer : Transfer}
    (errorMessage : String) (hm : m.held = some (id, transfer.state)) :
    Obeyed false m (o.handleFailed id errorMessage transfer) := by
  refine Obeyed.ambient (all_applyRetryBackoff _ _ _ _ _) fun decision => ?_
  split
  · refine ⟨trivial, fun counted => ?_⟩
    rcases counted with err | _
    · trivial
    exact Obeyed.createEvent rfl trivial
  · exact obeyed_handleExhausted o errorMessage hm

theorem obeyed_handleStatus {m : Copy} (o : Orchestrator) (report : ProgressReport)
    {transfer : Transfer} (hm : m.held = some (report.transferID, transfer.state)) :
    Obeyed false m (o.handleStatus report transfer) := by
  unfold handleStatus
  split
  · exact obeyed_handleCompleted o hm
  split
  · exact obeyed_handleFailed o _ hm
  · trivial

theorem obeyed_handleProgress {m : Copy} (o : Orchestrator) (report : ProgressReport) :
    Obeyed false m (o.handleProgress report) := by
  unfold handleProgress
  refine Obeyed.perform trivial fun loaded => ?_
  rcases loaded with err | (_ | transfer)
  · trivial
  · trivial
  refine Obeyed.perform trivial fun updated => ?_
  rcases updated with err | _
  · trivial
  refine Obeyed.createEvent rfl ?_
  refine Obeyed.ambient (o.all_publish _ _) fun _ => ?_
  refine Obeyed.ambient (o.all_onProgressReport _ _) fun reported => ?_
  rcases reported with _ | _ | _
  · exact Prog.Obeys.bind ((obeyed_handleStatus o report rfl).mono fun _ _ _ => trivial)
  · trivial
  · trivial

end Orchestrator

end Katapult
