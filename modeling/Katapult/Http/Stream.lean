/-
  Katapult.Http.Stream

  The handlers of progress streams and the calls of the engine, running
  together on the table of transfers and the hub.

  A step is one call of the repository, one operation of the hub or one frame.
  The hub is the one that the engine publishes to and the handlers subscribe
  to; it is empty when the server starts, and the table is not.
-/

import Katapult.Effect.Interleaving
import Katapult.Http.Handlers
import Katapult.Observability.Delivery
import Katapult.Store.TransferRepository

namespace Katapult

open Effect Channel

/-! ## The system -/

/-- The tables, and the hub with all that it has handed out. -/
structure Backend where
  store : Store
  hub : HubWorld

/-- What a `select` finds ready. -/
inductive Ready where
  | channel | keepalive | done
  deriving DecidableEq

/-- What the world around a step of the server decides. -/
structure ServerEnv where
  env : Env := {}
  ready : Ready := .channel

abbrev ServerCall : Type := StreamCall ⊕ Call
abbrev ServerCall.Ans : ServerCall → Type := Sum.elim StreamCall.Ans Call.Ans
abbrev ServerEv : Type := Ev ServerCall ServerCall.Ans

/-- The hub after some operations; none of them blocks or panics (`Refines.after`). -/
def HubWorld.after (ops : List HubOp) (w : HubWorld) : HubWorld :=
  match HubWorld.run ops w with
  | .done w' => w'
  | .blocks | .panics => w

/-- What a call of a handler is to the hub. -/
def StreamCall.hubOps (ready : Ready) : StreamCall → List HubOp
  | .subscribe id => [.subscribe id]
  | .unsubscribe handle => [.unsubscribe handle.sub]
  | .select handle => if ready = .channel then [.receive handle.sub] else []
  | .getTransfer _ | .writeEvent _ | .writeKeepalive => []

/-- What a call of the engine is to the hub. -/
def Call.hubOps : Call → List HubOp
  | .publish id progress => [.publish id progress]
  | .closeTransfer id => [.closeTransfer id]
  | _ => []

def StreamCall.answer (c : ServerEnv) (b : Backend) : (call : StreamCall) → call.Ans
  | .getTransfer id => c.env.answer (b.store.row id)
  | .subscribe id => (b.hub.hub.subscribe id).1
  | .select handle =>
    match c.ready with
    | .keepalive => .keepalive
    | .done => .done
    | .channel =>
      match b.hub.hub.receive handle with
      | .done (some progress, _) => .progress progress
      | .done (none, _) => .closed
      -- the step is not taken
      | .blocks | .panics => .keepalive
  | .unsubscribe _ | .writeEvent _ | .writeKeepalive => ()

/-- The server's machine. -/
def execServer : Machine ServerCall ServerCall.Ans Backend ServerEnv
  | c, .inl call, b => (call.answer c b, { b with hub := b.hub.after (call.hubOps c.ready) })
  | c, .inr call, b =>
    ((exec c.env call b.store).1, ⟨(exec c.env call b.store).2, b.hub.after call.hubOps⟩)

/-- There is something to receive, or the channel is closed. -/
def ProgressHub.ready (h : ProgressHub) (handle : Handle) : Bool :=
  match h.receive handle with
  | .done _ => true
  | .blocks | .panics => false

/-- A `select` takes its channel only when that is ready. -/
def Wakes (c : ServerEnv) : ServerCall → Backend → Prop
  | .inl (.select handle), b => c.ready = .channel → b.hub.hub.ready handle = true
  | _, _ => True

instance (c : ServerEnv) (op : ServerCall) (b : Backend) : Decidable (Wakes c op b) := by
  unfold Wakes
  split <;> infer_instance

/-- What runs on the server: a handler of a stream, or a call of the engine. -/
inductive Activity where
  | stream (rounds : Nat) (r : HttpRequest)
  | call (request : Request)

def Orchestrator.withProgressHub (o : Orchestrator) : Orchestrator := { o with progressHub := true }

section

variable [UUIDText] {ι : Type}

def Activity.prog (o : Orchestrator) :
    Activity → Prog ServerCall ServerCall.Ans (Reply ⊕ Response)
  | .stream rounds r =>
    (handleStreamProgress true rounds r >>= fun reply => return Sum.inl reply).inl
  | .call request =>
    (o.withProgressHub.serve request >>= fun response => return Sum.inr response).inr

abbrev ServerConfig (ι : Type) : Type :=
  Config ServerCall ServerCall.Ans (Reply ⊕ Response) ι Backend

abbrev ServerTrace (ι : Type) : Type := Trace ι ServerCall ServerCall.Ans

/-- Any number of handlers and calls, on a table of transfers. -/
def Orchestrator.serving (o : Orchestrator) (acts : ι → Activity) (s₀ : Store) : ServerConfig ι where
  procs i := (acts i).prog o
  state := ⟨s₀, .start⟩

end

/-! ## Open subscribers -/

/-- Some subscriber for the transfer has a channel that is still open. -/
def HubWorld.OpenFor (w : HubWorld) (id : UUID) : Prop :=
  ∃ handle ∈ w.handles, handle.transferID = id ∧
    ∃ sub ∈ w.hub.heap[handle.sub]?, sub.ch.closed = false

instance (w : HubWorld) (id : UUID) : Decidable (w.OpenFor id) := by
  unfold HubWorld.OpenFor
  infer_instance

/-- Some subscription for the transfer is open. -/
def OpenIn (boxes : List Subscription) (id : UUID) : Prop :=
  ∃ b ∈ boxes, b.transferID = id ∧ b.box.closed = false

namespace Refines

variable {w : HubWorld} {boxes : List Subscription}

/-- Every operation is done. -/
theorem after (hw : Refines w boxes) (ops : List HubOp) :
    Refines (w.after ops) (advanceAll ops boxes) := by
  obtain ⟨w', hrun, hw'⟩ := Attempt.ends_iff.mp (hw.run ops)
  simp only [HubWorld.after, hrun]
  exact hw'

/-- The channel of a subscriber is open as long as its mailbox is. -/
theorem openFor_iff (hw : Refines w boxes) (id : UUID) : w.OpenFor id ↔ OpenIn boxes id := by
  have hchan : ∀ (n : Nat) (b : Subscription), boxes[n]? = some b →
      ∃ sub, w.hub.heap[n]? = some sub ∧ sub.ch.closed = b.box.closed := by
    intro n b hb
    obtain ⟨sub, hsub, -, hshown⟩ := ProgressHub.exists_of_view (hw.views n b hb)
    exact ⟨sub, hsub, congrArg ChannelView.closed hshown⟩
  constructor
  · rintro ⟨handle, hhandle, hid, sub, hsub, hopen⟩
    obtain ⟨n, hn⟩ := List.mem_iff_getElem?.mp hhandle
    obtain ⟨b, hb, rfl⟩ := hw.sub_of_handle hn
    obtain ⟨sub', hsub', hclosed⟩ := hchan n b hb
    have hsame : sub' = sub := Option.some.inj (hsub'.symm.trans hsub)
    exact ⟨b, List.mem_iff_getElem?.mpr ⟨n, hb⟩, hid, by rw [← hclosed, hsame, hopen]⟩
  · rintro ⟨b, hb, hid, hopen⟩
    obtain ⟨n, hn⟩ := List.mem_iff_getElem?.mp hb
    obtain ⟨sub, hsub, hclosed⟩ := hchan n b hn
    have hhandle := hw.handle_of_sub hn
    exact ⟨_, List.mem_iff_getElem?.mpr ⟨n, hhandle⟩, hid, sub, hsub, hclosed.trans hopen⟩

end Refines

/-- A mailbox that is shut stays shut. -/
theorem closed_step {m : ProgressBox} (h : m.closed = true) (mail : Mailbox.Op EnrichedProgress) :
    (m.step mail).closed = true := by
  cases mail with
  | offer progress => exact (Refines.closed_offer m progress).trans h
  | take => exact m.take_closed.trans h
  | shut => rfl

theorem Subscription.closed_follow {b : Subscription} (h : b.box.closed = true) (op : HubOp)
    (r : Ref) : (b.follow op r).box.closed = true := by
  cases htoward : op.toward r b.transferID with
  | none =>
    rw [Subscription.follow_of_none htoward]
    exact h
  | some mail =>
    rw [Subscription.follow_of_some htoward]
    exact closed_step h mail

/-- What is open after an operation was open before it and has not been closed by
    it, or has been opened by it. -/
theorem OpenIn.of_advance {op : HubOp} {boxes : List Subscription} {id : UUID}
    (h : OpenIn (advance op boxes) id) :
    (OpenIn boxes id ∧ op ≠ .closeTransfer id) ∨ op = .subscribe id := by
  obtain ⟨b', hb', hid, hopen⟩ := h
  rcases List.mem_append.mp hb' with hold | hnew
  · obtain ⟨r, hr⟩ := List.mem_iff_getElem?.mp hold
    rw [List.getElem?_mapIdx] at hr
    obtain ⟨b, hb, rfl⟩ := Option.map_eq_some_iff.mp hr
    -- no operation opens a mailbox that was shut
    have hbefore : b.box.closed = false := by
      by_contra hshut
      rw [Bool.not_eq_false] at hshut
      rw [Subscription.closed_follow hshut] at hopen
      cases hopen
    refine .inl ⟨⟨b, List.mem_iff_getElem?.mpr ⟨r, hb⟩, hid, hbefore⟩, ?_⟩
    rintro rfl
    have hid : b.transferID = id := hid
    have htoward : (HubOp.closeTransfer id).toward r b.transferID = some .shut := by
      rw [HubOp.toward_closeTransfer, if_pos hid.symm]
    rw [Subscription.follow_of_some htoward] at hopen
    cases hopen
  · cases op with
    | subscribe id' =>
      rw [List.mem_singleton.mp hnew] at hid
      exact .inr (congrArg HubOp.subscribe hid)
    | _ => cases hnew

/-- A handler opens nothing but by subscribing. -/
theorem OpenIn.of_stream {call : StreamCall} {ready : Ready} {boxes : List Subscription} {id : UUID}
    (h : OpenIn (advanceAll (call.hubOps ready) boxes) id) :
    OpenIn boxes id ∨ call = .subscribe id := by
  cases call with
  | subscribe id' =>
    rcases h.of_advance with ⟨hbefore, -⟩ | hsub
    · exact .inl hbefore
    · exact .inr (by rw [HubOp.subscribe.inj hsub])
  | unsubscribe handle =>
    rcases h.of_advance with ⟨hbefore, -⟩ | hsub
    · exact .inl hbefore
    · cases hsub
  | select handle =>
    by_cases hready : ready = .channel
    · simp only [StreamCall.hubOps, if_pos hready] at h
      rcases h.of_advance with ⟨hbefore, -⟩ | hsub
      · exact .inl hbefore
      · cases hsub
    · simp only [StreamCall.hubOps, if_neg hready] at h
      exact .inl h
  | _ => exact .inl h

/-- The engine opens nothing, and leaves nothing open that it closes. -/
theorem OpenIn.of_call {op : Call} {boxes : List Subscription} {id : UUID}
    (h : OpenIn (advanceAll op.hubOps boxes) id) : OpenIn boxes id ∧ op ≠ .closeTransfer id := by
  cases op with
  | publish id' progress =>
    rcases h.of_advance with ⟨hbefore, -⟩ | hsub
    · exact ⟨hbefore, nofun⟩
    · cases hsub
  | closeTransfer id' =>
    rcases h.of_advance with ⟨hbefore, hne⟩ | hsub
    · exact ⟨hbefore, fun heq => hne (by rw [Call.closeTransfer.inj heq])⟩
    · cases hsub
  | _ => exact ⟨h, nofun⟩

end Katapult
