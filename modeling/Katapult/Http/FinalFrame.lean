/-
  Katapult.Http.FinalFrame

  What the last frame of a stream says.

  The event that announces the end of a transfer is published like any other,
  before the final state is stored and the subscribers are closed.  A mailbox
  that is full drops it, one that is late has missed it, an event without a JSON
  form leaves no frame, and a cancellation publishes nothing.  `announced` says
  from a history what has got to a subscriber, and `Announces` that the close
  follows the announcement for everyone who is listening.
-/

import Katapult.Http.StreamEnd
import Katapult.Http.Viewer

namespace Katapult

open Effect Channel

/-! ## The property -/

/-- The last of the events carries the stored state, which is a final one. -/
def Told (id : UUID) (s : Store) (events : List EnrichedProgress) : Prop :=
  ∃ state, s.stateOf id = some state ∧ state.isTerminal = true ∧
    events.getLast?.map EnrichedProgress.status = some state.text

/-- What has been done by a handler; calls of the engine are not its own. -/
def Viewer.watch (m : Viewer) : ServerEv → Viewer
  | ⟨.inl call, r⟩ => m.follow ⟨call, r⟩
  | ⟨.inr _, _⟩ => m

section

variable {ι : Type} [DecidableEq ι]

/-- What one of them has done with a subscription. -/
def viewer (tr : ServerTrace ι) (i : ι) : Viewer := (tr.local i).foldl Viewer.watch {}

variable [UUIDText]

/-- The transfer that a handler streams. -/
def Activity.target : Activity → Option UUID
  | .stream _ r => (UUIDText.parse (r.pathValue "id")).toOption
  | .call _ => none

/-- The handlers of a transfer that have found their channel closed have written
    its final state last. -/
def FinalFrames (acts : ι → Activity) (id : UUID) (tr : ServerTrace ι) (s : Store) : Prop :=
  ∀ i, (acts i).target = some id → (viewer tr i).ended = true → Told id s (viewer tr i).frames

/-! ## The condition -/

omit [UUIDText]

/-- What an entry of a history is to the hub. -/
def ServerEv.hubOps : ServerEv → List HubOp
  | ⟨.inl (.select handle), .progress _⟩ => [.receive handle.sub]
  | ⟨.inl (.select handle), .closed⟩ => [.receive handle.sub]
  | ⟨.inl call, _⟩ => call.hubOps .keepalive
  | ⟨.inr op, _⟩ => op.hubOps

/-- An event that is published gets to the subscriber: its channel is open, and fewer
    than 16 events wait in it. -/
def HubWorld.reaches (w : HubWorld) (r : Ref) : Bool :=
  (w.hub.view r).any fun v => !v.closed && decide (v.buffer.length < subscriberBufferSize)

/-- What an entry does to an announcement of `status`: an event with a JSON form that
    gets to the subscriber decides. -/
def ServerEv.announce (id : UUID) (status : String) (reaches told : Bool) : ServerEv → Bool
  | ⟨.inr (.publish id' progress), _⟩ =>
    if id' = id && progress.marshals && reaches then progress.status = status else told
  | _ => told

/-- The hub that a history leaves, and whether `status` is then the last that the
    `r`-th subscriber has been announced for the transfer. -/
def announcements (id : UUID) (status : String) (r : Ref) (tr : ServerTrace ι) : HubWorld × Bool :=
  tr.foldl (fun past e =>
    (past.1.after (ServerEv.hubOps e.2), ServerEv.announce id status (past.1.reaches r) past.2 e.2))
    (.start, false)

def announced (id : UUID) (status : String) (r : Ref) (tr : ServerTrace ι) : Bool :=
  (announcements id status r tr).2

/-- The status that a report publishes. -/
def Activity.status? : Activity → Option String
  | .call (.handleProgress report) => some report.status
  | _ => none

/-- A step that closes the subscribers is one of a report, whose status has been
    announced to each of them that is open; and no step replaces a final state. -/
def Announces (acts : ι → Activity) (id : UUID) (tr : ServerTrace ι) (cfg : ServerConfig ι) (i : ι)
    (c : ServerEnv) : ServerCall → Prop
  | .inl _ => True
  | .inr op => op.KeepsFinal id c.env cfg.state.store ∧
    (op = .closeTransfer id → ∀ handle ∈ cfg.state.hub.handles, handle.transferID = id →
      ∀ v ∈ cfg.state.hub.hub.view handle.sub, v.closed = false →
        ∃ status ∈ (acts i).status?, announced id status handle.sub tr = true)

instance (acts : ι → Activity) (id : UUID) (tr : ServerTrace ι) (cfg : ServerConfig ι) (i : ι)
    (c : ServerEnv) (op : ServerCall) : Decidable (Announces acts id tr cfg i c op) := by
  unfold Announces
  split <;> infer_instance

end

/-! ## One subscription -/

/-- The events that a mailbox has kept and that leave a frame. -/
def ProgressBox.framed (m : ProgressBox) : List EnrichedProgress :=
  (m.received ++ m.buffer).filter EnrichedProgress.marshals

/-- An event that the handler takes was kept before. -/
theorem framed_take (m : ProgressBox) : ProgressBox.framed m.take = ProgressBox.framed m := by
  cases hbuffer : m.buffer with
  | nil => rw [m.take_of_nil hbuffer]
  | cons progress rest =>
    obtain ⟨hreceived, hrest⟩ := m.take_of_cons hbuffer
    rw [ProgressBox.framed, ProgressBox.framed, hreceived, hrest, hbuffer, List.append_assoc,
      List.singleton_append]

/-- What a mailbox has kept of an offer. -/
theorem framed_offer {m : ProgressBox} (hopen : m.closed = false) (progress : EnrichedProgress) :
    ProgressBox.framed (m.offer progress) =
      if m.buffer.length < subscriberBufferSize then
        ProgressBox.framed m ++ [progress].filter EnrichedProgress.marshals
      else ProgressBox.framed m := by
  unfold ProgressBox.framed Mailbox.offer
  rw [if_neg (by simp [hopen])]
  simp only [Mailbox.room]
  split
  · rw [← List.append_assoc, List.filter_append]
  · rfl

/-- The mailbox of a subscription, as the handler sees it. -/
structure Followed (id : UUID) (s : Store) (m : Viewer) (b : Subscription) : Prop where
  received : b.box.received = m.taken
  told : b.transferID = id → m.left = false → b.box.closed = true → Told id s (ProgressBox.framed b.box)

/-- A handler has what its mailbox has given it, and is told when it ends. -/
structure Viewing (target : Option UUID) (id : UUID) (s : Store) (boxes : List Subscription)
    (m : Viewer) : Prop where
  followed : ∀ handle, m.handle = some handle → target = some handle.transferID ∧
    ∃ b, boxes[handle.sub]? = some b ∧ b.transferID = handle.transferID ∧ Followed id s m b
  ended : m.ended = true → ∃ handle, m.handle = some handle ∧
    (handle.transferID = id → Told id s m.frames)

section

variable {id : UUID} {s s' : Store} {m : Viewer} {b : Subscription} {boxes : List Subscription}
variable {target : Option UUID}

theorem Told.exec {events : List EnrichedProgress} (h : Told id s events) {env : Env} {op : Call}
    (hkeeps : op.KeepsFinal id env s) : Told id (exec env op s).2 events := by
  obtain ⟨state, hs, hterm, hlast⟩ := h
  exact ⟨state, hkeeps.stateOf hs hterm, hterm, hlast⟩

/-- What a call of the engine brings to a mailbox. -/
theorem Call.mail_cases (op : Call) (r : Ref) (own : UUID) :
    op.hubOps.filterMap (HubOp.toward r own) = [] ∨
      (∃ progress, op = .publish own progress ∧
        op.hubOps.filterMap (HubOp.toward r own) = [.offer progress]) ∨
      op = .closeTransfer own ∧ op.hubOps.filterMap (HubOp.toward r own) = [.shut] := by
  cases op with
  | publish id' progress =>
    by_cases hid : id' = own
    · exact .inr (.inl ⟨progress, by rw [hid], by simp [Call.hubOps, HubOp.toward_publish, hid]⟩)
    · exact .inl (by simp [Call.hubOps, HubOp.toward_publish, hid])
  | closeTransfer id' =>
    by_cases hid : id' = own
    · exact .inr (.inr ⟨by rw [hid], by simp [Call.hubOps, HubOp.toward_closeTransfer, hid]⟩)
    · exact .inl (by simp [Call.hubOps, HubOp.toward_closeTransfer, hid])
  | _ => exact .inl rfl

/-- An event that is offered makes no difference to what has been received, nor to a
    mailbox that is shut. -/
theorem Followed.offer (h : Followed id s m b) (progress : EnrichedProgress) :
    Followed id s m { b with box := b.box.offer progress } := by
  cases hshut : b.box.closed with
  | true =>
    rw [Refines.offer_of_closed hshut]
    exact h
  | false =>
    refine ⟨?_, fun _ _ hclosed => ?_⟩
    · rw [← h.received]
      show (b.box.offer progress).received = _
      unfold Mailbox.offer
      rw [if_neg (by simp [hshut])]
    · have hopen : (b.box.offer progress).closed = false :=
        (Refines.closed_offer b.box progress).trans hshut
      rw [hopen] at hclosed
      cases hclosed

/-- A call of the engine: the mailbox is offered an event, or shut. -/
theorem Followed.step_call (h : Followed id s m b) {op : Call} (r : Ref)
    (hstable : ∀ events, Told id s events → Told id s' events)
    (hclose : op = .closeTransfer id → b.transferID = id → b.box.closed = false →
      Told id s' (ProgressBox.framed b.box)) :
    Followed id s' m
      { b with box := b.box.run (op.hubOps.filterMap (HubOp.toward r b.transferID)) } := by
  have hsame : Followed id s' m b :=
    ⟨h.received, fun hid hleft hshut => hstable _ (h.told hid hleft hshut)⟩
  rcases op.mail_cases r b.transferID with hmail | ⟨progress, -, hmail⟩ | ⟨hop, hmail⟩
  · rw [hmail]
    exact hsame
  · rw [hmail]
    exact hsame.offer progress
  · rw [hmail]
    refine ⟨h.received, fun hown hleft _ => ?_⟩
    have hown : b.transferID = id := hown
    cases hshut : b.box.closed with
    | true => exact hstable _ (h.told hown hleft hshut)
    | false => exact hclose (by rw [hop, hown]) hown hshut

theorem Viewing.step_call (h : Viewing target id s boxes m) {env : Env} {op : Call}
    (hkeeps : op.KeepsFinal id env s)
    (hclose : ∀ b ∈ boxes, op = .closeTransfer id → b.transferID = id → b.box.closed = false →
      Told id (exec env op s).2 (ProgressBox.framed b.box)) :
    Viewing target id (exec env op s).2 (advanceAll op.hubOps boxes) m where
  followed handle hhandle := by
    obtain ⟨htarget, b, hb, hid, hfollowed⟩ := h.followed handle hhandle
    have hmem : b ∈ boxes := List.mem_iff_getElem?.mpr ⟨handle.sub, hb⟩
    exact ⟨htarget, _, getElem?_advanceAll op.hubOps hb, hid,
      hfollowed.step_call handle.sub (fun _ htold => htold.exec hkeeps) (hclose b hmem)⟩
  ended hended := by
    obtain ⟨handle, hhandle, htold⟩ := h.ended hended
    exact ⟨handle, hhandle, fun hid => (htold hid).exec hkeeps⟩

/-! ## One handler -/

/-- The subscription that a call of a handler uses. -/
def StreamCall.uses : StreamCall → Option Handle
  | .unsubscribe handle | .select handle => some handle
  | _ => none

/-- It is the only one that the call is aimed at. -/
theorem StreamCall.mail_eq_nil {call : StreamCall} {r : Ref}
    (h : ∀ handle, call.uses = some handle → handle.sub ≠ r) (ready : Ready) (id : UUID) :
    (call.hubOps ready).filterMap (HubOp.toward r id) = [] := by
  cases call with
  | unsubscribe handle => simp [hubOps, HubOp.toward, h handle rfl]
  | select handle =>
    by_cases hready : ready = .channel
    · simp [hubOps, hready, HubOp.toward, h handle rfl]
    · simp [hubOps, hready]
  | _ => rfl

/-- A handler uses no subscription but its own. -/
theorem Viewer.Permits.handle_of_uses {m : Viewer} {own : UUID} {call : StreamCall} {handle : Handle}
    (h : m.Permits own call) (huses : call.uses = some handle) : m.handle = some handle := by
  cases call with
  | unsubscribe handle' =>
    obtain rfl := Option.some.inj huses
    exact h
  | select handle' =>
    obtain rfl := Option.some.inj huses
    exact h.1
  | _ => cases huses

theorem Viewer.handle_follow {m : Viewer} {call : StreamCall} {r : call.Ans}
    (h : ∀ id', call ≠ .subscribe id') : (m.follow ⟨call, r⟩).handle = m.handle := by
  cases call with
  | subscribe id' => exact absurd rfl (h id')
  | select handle => cases r <;> rfl
  | _ => rfl

/-- Another handler does not get in the way. -/
theorem Viewing.step_other (h : Viewing target id s boxes m) {call : StreamCall} (ready : Ready)
    (hother : ∀ handle handle', m.handle = some handle → call.uses = some handle' →
      handle'.sub ≠ handle.sub) :
    Viewing target id s (advanceAll (call.hubOps ready) boxes) m where
  followed handle hhandle := by
    obtain ⟨htarget, b, hb, hid, hfollowed⟩ := h.followed handle hhandle
    have hget := getElem?_advanceAll (call.hubOps ready) hb
    rw [StreamCall.mail_eq_nil (hother handle · hhandle)] at hget
    exact ⟨htarget, b, hget, hid, hfollowed⟩
  ended := h.ended

/-- What the handler has received and written stays the same. -/
theorem Viewing.of_same (h : Viewing target id s boxes m) {m' : Viewer}
    (hhandle : m'.handle = m.handle) (htaken : m'.taken = m.taken) (hleft : m'.left = m.left)
    (hended : m'.ended = true → m.ended = true ∧ m'.frames = m.frames) :
    Viewing target id s boxes m' where
  followed handle h' := by
    rw [hhandle] at h'
    obtain ⟨htarget, b, hb, hid, hfollowed⟩ := h.followed handle h'
    refine ⟨htarget, b, hb, hid, ?_, ?_⟩
    · rw [htaken]
      exact hfollowed.received
    · rw [hleft]
      exact hfollowed.told
  ended h' := by
    obtain ⟨hbefore, hframes⟩ := hended h'
    rw [hhandle, hframes]
    exact h.ended hbefore

/-- Told by some events is told by more of them, if those come before. -/
theorem Told.cons {events : List EnrichedProgress} (h : Told id s events)
    (first : EnrichedProgress) : Told id s (first :: events) := by
  obtain ⟨state, hs, hterm, hlast⟩ := h
  refine ⟨state, hs, hterm, ?_⟩
  obtain ⟨last, hget, hstatus⟩ := Option.map_eq_some_iff.mp hlast
  rw [List.getLast?_cons, hget]
  exact congrArg some hstatus

/-- The next event goes from the mailbox to the handler. -/
theorem Followed.take (h : Followed id s m b) {progress : EnrichedProgress}
    {rest : List EnrichedProgress} (hbuffer : b.box.buffer = progress :: rest) :
    Followed id s { m with taken := m.taken ++ [progress] } { b with box := b.box.take } := by
  obtain ⟨hreceived, -⟩ := b.box.take_of_cons hbuffer
  refine ⟨hreceived.trans (by rw [h.received]), fun hid hleft hclosed => ?_⟩
  have hclosed : b.box.closed = true := b.box.take_closed.symm.trans hclosed
  show Told id s (ProgressBox.framed b.box.take)
  rw [framed_take]
  exact h.told hid hleft hclosed

/-- What is to be shown of a handler that has a subscription. -/
theorem Viewing.of_handle {handle : Handle} (hhandle : m.handle = some handle)
    (htarget : target = some handle.transferID) (hb : boxes[handle.sub]? = some b)
    (hid : b.transferID = handle.transferID) (hfollowed : Followed id s m b)
    (hended : m.ended = true → handle.transferID = id → Told id s m.frames) :
    Viewing target id s boxes m where
  followed handle' hhandle' := by
    have hsame : handle = handle' := Option.some.inj (hhandle.symm.trans hhandle')
    subst hsame
    exact ⟨htarget, b, hb, hid, hfollowed⟩
  ended hended' := ⟨handle, hhandle, hended hended'⟩

theorem not_ended {P : Prop} (hended : m.ended = false) (h : m.ended = true) : P := by
  rw [hended] at h
  cases h

variable {w : HubWorld} {own : UUID} {c : ServerEnv} {handle : Handle}

/-- The handler reads its channel: it takes the next event out of its mailbox, or
    finds the channel closed. -/
theorem Viewing.step_channel (h : Viewing target id s boxes m) (hw : Refines w boxes)
    (hready : c.ready = .channel) (hperm : m.Permits own (.select handle)) :
    Viewing target id s (advanceAll [.receive handle.sub] boxes)
      (m.follow ⟨.select handle, (StreamCall.select handle).answer c ⟨s, w⟩⟩) := by
  obtain ⟨hhandle, hended, hleft, first, hframes⟩ := hperm
  obtain ⟨htarget, b, hb, hid, hfollowed⟩ := h.followed handle hhandle
  have hget := getElem?_advanceAll [.receive handle.sub] hb
  have hmail : [HubOp.receive handle.sub].filterMap (HubOp.toward handle.sub b.transferID) =
      [.take] := by
    simp [HubOp.toward]
  rw [hmail] at hget
  -- the hub shows the mailbox of the handler
  rcases ProgressHub.receive_cases (hw.views handle.sub b hb) with
    ⟨progress, rest, hub, hbuffer, hreceive, -, -⟩ | ⟨hbuffer, hidle, hreceive⟩
  · have hanswer : (StreamCall.select handle).answer c ⟨s, w⟩ = .progress progress := by
      simp only [StreamCall.answer, hready, hreceive]
      rfl
    rw [hanswer]
    exact .of_handle hhandle htarget hget hid (hfollowed.take hbuffer) (not_ended hended)
  · -- nothing to take: the mailbox stays as it is
    have hget : (advanceAll [.receive handle.sub] boxes)[handle.sub]? = some b := by
      rw [hget]
      show some { b with box := b.box.take } = some b
      rw [hidle]
    cases hclosed : b.box.closed with
    | true =>
      have hanswer : (StreamCall.select handle).answer c ⟨s, w⟩ = .closed := by
        simp only [StreamCall.answer, hready, hreceive, hclosed, if_true]
        rfl
      rw [hanswer]
      refine .of_handle hhandle htarget hget hid ⟨hfollowed.received, hfollowed.told⟩ fun _ hown => ?_
      have htold := hfollowed.told (hid.trans hown) hleft hclosed
      -- drained: all that was kept has been received, and written after the snapshot
      rw [ProgressBox.framed, hbuffer, List.append_nil, hfollowed.received] at htold
      show Told id s m.frames
      rw [hframes]
      exact htold.cons first
    | false =>
      have hanswer : (StreamCall.select handle).answer c ⟨s, w⟩ = .keepalive := by
        simp only [StreamCall.answer, hready, hreceive, hclosed, Bool.false_eq_true, if_false]
        rfl
      rw [hanswer]
      exact .of_handle hhandle htarget hget hid hfollowed (not_ended hended)

/-- Or it is woken up by something else. -/
theorem Viewing.step_select (h : Viewing target id s boxes m) (hw : Refines w boxes)
    (hperm : m.Permits own (.select handle)) :
    Viewing target id s (advanceAll ((StreamCall.select handle).hubOps c.ready) boxes)
      (m.follow ⟨.select handle, (StreamCall.select handle).answer c ⟨s, w⟩⟩) := by
  by_cases hready : c.ready = .channel
  · have hops : (StreamCall.select handle).hubOps c.ready = [.receive handle.sub] := if_pos hready
    rw [hops]
    exact h.step_channel hw hready hperm
  · have hops : (StreamCall.select handle).hubOps c.ready = [] := if_neg hready
    have hsame : m.follow ⟨.select handle, (StreamCall.select handle).answer c ⟨s, w⟩⟩ = m := by
      cases hc : c.ready with
      | channel => exact absurd hc hready
      | keepalive => simp only [StreamCall.answer, hc]; rfl
      | done => simp only [StreamCall.answer, hc]; rfl
    rw [hops, hsame]
    exact h

/-- The handler gets a mailbox of its own. -/
theorem Viewing.step_subscribe (hw : Refines w boxes) (htarget : target = some own)
    (hperm : m.Permits own (.subscribe own)) :
    Viewing target id s (advance (.subscribe own) boxes)
      (m.follow ⟨.subscribe own, (w.hub.subscribe own).1⟩) := by
  obtain ⟨-, -, htaken, hended⟩ := hperm
  have hget : (advance (.subscribe own) boxes)[w.hub.heap.length]? = some ⟨own, .empty⟩ := by
    rw [hw.size, advance_subscribe, List.getElem?_concat_length]
  have hhandle : (m.follow ⟨.subscribe own, (w.hub.subscribe own).1⟩).handle =
      some (w.hub.subscribe own).1 := rfl
  exact .of_handle hhandle htarget hget rfl ⟨htaken.symm, fun _ _ hclosed => nomatch hclosed⟩
    (not_ended hended)

/-- Once it has unsubscribed, nobody tells it anything. -/
theorem Viewing.step_unsubscribe (h : Viewing target id s boxes m)
    (hperm : m.Permits own (.unsubscribe handle)) :
    Viewing target id s (advance (.unsubscribe handle.sub) boxes)
      (m.follow ⟨.unsubscribe handle, ()⟩) := by
  have hhandle : m.handle = some handle := hperm
  obtain ⟨htarget, b, hb, hid, hfollowed⟩ := h.followed handle hhandle
  have hget := getElem?_advanceAll [.unsubscribe handle.sub] hb
  have hmail : [HubOp.unsubscribe handle.sub].filterMap (HubOp.toward handle.sub b.transferID) =
      [.shut] := by
    simp [HubOp.toward]
  rw [hmail] at hget
  refine .of_handle hhandle htarget hget hid ⟨hfollowed.received, fun _ hleft => ?_⟩
    fun hended hown => ?_
  · cases hleft
  obtain ⟨handle', hhandle', htold⟩ := h.ended hended
  have hsame : handle = handle' := Option.some.inj (hhandle.symm.trans hhandle')
  subst hsame
  exact htold hown

/-- A step of the handler itself. -/
theorem Viewing.step_own (h : Viewing target id s boxes m) (hw : Refines w boxes)
    (htarget : target = some own) {call : StreamCall} (hperm : m.Permits own call) :
    Viewing target id s (advanceAll (call.hubOps c.ready) boxes)
      (m.follow ⟨call, call.answer c ⟨s, w⟩⟩) := by
  cases call with
  | getTransfer id' => exact h
  | subscribe id' =>
    obtain rfl : id' = own := hperm.1
    exact .step_subscribe hw htarget hperm
  | unsubscribe handle => exact h.step_unsubscribe hperm
  | select handle => exact h.step_select hw hperm
  | writeEvent progress =>
    exact h.of_same rfl rfl rfl (not_ended hperm)
  | writeKeepalive => exact h

end

/-! ## The announcement -/

/-- The history knows what a step has done to the hub. -/
theorem ServerEv.hubOps_answer {c : ServerEnv} {b : Backend} {call : StreamCall}
    (hwakes : Wakes c (.inl call) b) :
    ServerEv.hubOps ⟨.inl call, call.answer c b⟩ = call.hubOps c.ready := by
  cases call with
  | select handle =>
    cases hready : c.ready with
    | keepalive => simp only [StreamCall.answer, hready]; rfl
    | done => simp only [StreamCall.answer, hready]; rfl
    | channel =>
      have hsome : b.hub.hub.ready handle = true := hwakes hready
      unfold ProgressHub.ready at hsome
      cases hreceive : b.hub.hub.receive handle with
      | done out =>
        obtain ⟨progress | _, hub⟩ := out
        · simp only [StreamCall.answer, hready, hreceive]; rfl
        · simp only [StreamCall.answer, hready, hreceive]; rfl
      | blocks =>
        rw [hreceive] at hsome
        cases hsome
      | panics =>
        rw [hreceive] at hsome
        cases hsome
  | _ => rfl

section

variable {id : UUID} {status : String} {w : HubWorld} {boxes : List Subscription} {r : Ref}

/-- As long as it is open, the last event that the mailbox has kept says so. -/
def Subscription.Announced (id : UUID) (status : String) (sub : Subscription) : Prop :=
  sub.transferID = id → sub.box.closed = false →
    (ProgressBox.framed sub.box).getLast?.map EnrichedProgress.status = some status

theorem Refines.length_of_reaches (hw : Refines w boxes) (h : w.reaches r = true) :
    r < boxes.length := by
  obtain ⟨v, hv, -⟩ := (Option.any_eq_true _ _).mp h
  obtain ⟨sub, hsub, -⟩ := Option.map_eq_some_iff.mp hv
  rw [← hw.size]
  exact (List.getElem?_eq_some_iff.mp hsub).1

theorem Refines.reaches_iff (hw : Refines w boxes) {sub : Subscription} (hsub : boxes[r]? = some sub) :
    w.reaches r = true ↔ sub.box.closed = false ∧ sub.box.buffer.length < subscriberBufferSize := by
  unfold HubWorld.reaches
  rw [hw.views r sub hsub]
  show (!sub.box.closed && decide (sub.box.buffer.length < subscriberBufferSize)) = true ↔ _
  simp

/-- Taking an event and shutting the mailbox announce nothing else. -/
theorem Subscription.Announced.run {sub : Subscription} (h : sub.Announced id status)
    {mail : List (Mailbox.Op EnrichedProgress)} (hmail : mail = [] ∨ mail = [.take] ∨ mail = [.shut]) :
    Subscription.Announced id status { sub with box := sub.box.run mail } := by
  intro hid hopen
  rcases hmail with rfl | rfl | rfl
  · exact h hid hopen
  · have hopen : sub.box.closed = false := sub.box.take_closed.symm.trans hopen
    show (ProgressBox.framed sub.box.take).getLast?.map EnrichedProgress.status = some status
    rw [framed_take]
    exact h hid hopen
  · cases hopen

/-- An event that is published. -/
theorem Subscription.announced_offer (hw : Refines w boxes) {sub : Subscription}
    (hsub : boxes[r]? = some sub) (progress : EnrichedProgress) {told : Bool}
    (h : told = true → sub.Announced id status)
    (hannounce : (if progress.marshals && w.reaches r then decide (progress.status = status)
      else told) = true) :
    Subscription.Announced id status { sub with box := sub.box.run [.offer progress] } := by
  intro hid hopen
  have hbefore : sub.box.closed = false := (Refines.closed_offer sub.box progress).symm.trans hopen
  show (ProgressBox.framed (sub.box.offer progress)).getLast?.map EnrichedProgress.status = some status
  rw [framed_offer hbefore]
  by_cases hroom : sub.box.buffer.length < subscriberBufferSize
  · have hreaches : w.reaches r = true := (hw.reaches_iff hsub).mpr ⟨hbefore, hroom⟩
    rw [if_pos hroom]
    cases hmarshals : progress.marshals with
    | true =>
      rw [hmarshals, hreaches] at hannounce
      have hstatus : progress.status = status := of_decide_eq_true hannounce
      simp [hmarshals, hstatus]
    | false =>
      -- it is kept, but it will be no frame
      rw [hmarshals] at hannounce
      simpa [hmarshals] using h hannounce hid hbefore
  · -- it is dropped, and what was the last stays so
    have hmissed : w.reaches r = false := by
      rw [← Bool.not_eq_true, hw.reaches_iff hsub]
      exact fun hreach => hroom hreach.2
    rw [if_neg hroom]
    rw [hmissed, Bool.and_false] at hannounce
    exact h hannounce hid hbefore

/-- What a call of a handler brings to a mailbox. -/
theorem StreamCall.mail_cases (call : StreamCall) (ready : Ready) (r : Ref) (own : UUID) :
    (call.hubOps ready).filterMap (HubOp.toward r own) = [] ∨
      (call.hubOps ready).filterMap (HubOp.toward r own) = [.take] ∨
      (call.hubOps ready).filterMap (HubOp.toward r own) = [.shut] := by
  cases call with
  | unsubscribe handle =>
    by_cases hsub : handle.sub = r
    · exact .inr (.inr (by simp [hubOps, HubOp.toward, hsub]))
    · exact .inl (by simp [hubOps, HubOp.toward, hsub])
  | select handle =>
    by_cases hready : ready = .channel
    · by_cases hsub : handle.sub = r
      · exact .inr (.inl (by simp [hubOps, HubOp.toward, hready, hsub]))
      · exact .inl (by simp [hubOps, HubOp.toward, hready, hsub])
    · exact .inl (by simp [hubOps, hready])
  | _ => exact .inl rfl

end

section

variable {ι : Type} {id : UUID} {tr : ServerTrace ι} {i : ι} {w : HubWorld} {boxes : List Subscription}

theorem announcements_snoc (id : UUID) (status : String) (r : Ref) (tr : ServerTrace ι) (i : ι)
    (ev : ServerEv) : announcements id status r (tr ++ [(i, ev)]) =
      ((announcements id status r tr).1.after ev.hubOps,
        ev.announce id status ((announcements id status r tr).1.reaches r)
          (announced id status r tr)) :=
  List.foldl_concat ..

/-- The history is that of the hub, and who has been told is told by the mailbox. -/
structure Announcing (id : UUID) (tr : ServerTrace ι) (w : HubWorld) (boxes : List Subscription) :
    Prop where
  hub : ∀ status r, (announcements id status r tr).1 = w
  told : ∀ status r, announced id status r tr = true →
    ∃ sub, boxes[r]? = some sub ∧ sub.Announced id status

/-- A step of a handler. -/
theorem Announcing.step_stream (h : Announcing id tr w boxes) {c : ServerEnv} {s : Store}
    {call : StreamCall} (hwakes : Wakes c (.inl call) ⟨s, w⟩) :
    Announcing id (tr ++ [(i, ⟨.inl call, call.answer c ⟨s, w⟩⟩)]) (w.after (call.hubOps c.ready))
      (advanceAll (call.hubOps c.ready) boxes) where
  hub status r := by
    rw [announcements_snoc, h.hub, ServerEv.hubOps_answer hwakes]
  told status r htold := by
    rw [announced, announcements_snoc] at htold
    obtain ⟨sub, hsub, hannounced⟩ := h.told status r htold
    exact ⟨_, getElem?_advanceAll _ hsub, hannounced.run (call.mail_cases c.ready r sub.transferID)⟩

/-- A step of a call: a publication of the transfer is announced where it gets to. -/
theorem Announcing.step_call (h : Announcing id tr w boxes) (hw : Refines w boxes) {op : Call}
    (answer : op.Ans) :
    Announcing id (tr ++ [(i, ⟨.inr op, answer⟩)]) (w.after op.hubOps) (advanceAll op.hubOps boxes) where
  hub status r := by
    rw [announcements_snoc, h.hub]
    rfl
  told status r htold := by
    rw [announced, announcements_snoc, h.hub] at htold
    by_cases hpublish : ∃ progress, op = .publish id progress
    · obtain ⟨progress, rfl⟩ := hpublish
      have hannounce : (if progress.marshals && w.reaches r then decide (progress.status = status)
          else announced id status r tr) = true := by
        simpa [ServerEv.announce] using htold
      -- the subscription was there before the event
      have hlt : r < boxes.length := by
        cases hreaches : w.reaches r with
        | true => exact hw.length_of_reaches hreaches
        | false =>
          rw [hreaches, Bool.and_false] at hannounce
          obtain ⟨sub, hsub, -⟩ := h.told status r hannounce
          exact (List.getElem?_eq_some_iff.mp hsub).1
      have hsub := List.getElem?_eq_getElem hlt
      refine ⟨_, getElem?_advanceAll _ hsub, fun hid => ?_⟩
      have hid : boxes[r].transferID = id := hid
      have hmail : (Call.publish id progress).hubOps.filterMap (HubOp.toward r boxes[r].transferID) =
          [.offer progress] := by
        simp [Call.hubOps, HubOp.toward_publish, hid]
      rw [hmail]
      refine Subscription.announced_offer hw hsub progress (fun htold' => ?_) hannounce hid
      obtain ⟨sub, hsub', hannounced⟩ := h.told status r htold'
      obtain rfl := Option.some.inj (hsub.symm.trans hsub')
      exact hannounced
    · have hsame : announced id status r tr = true := by
        cases op with
        | publish id' progress =>
          have hid : id' ≠ id := fun hid => hpublish ⟨progress, by rw [hid]⟩
          simpa [ServerEv.announce, hid] using htold
        | _ => exact htold
      obtain ⟨sub, hsub, hannounced⟩ := h.told status r hsame
      refine ⟨_, getElem?_advanceAll _ hsub, fun hid => ?_⟩
      have hid : sub.transferID = id := hid
      refine hannounced.run ?_ hid
      -- an event of the transfer is the only one that could get there
      rcases op.mail_cases r sub.transferID with hmail | ⟨progress, hop, -⟩ | ⟨-, hmail⟩
      · exact .inl hmail
      · exact absurd ⟨progress, hid ▸ hop⟩ hpublish
      · exact .inr (.inr hmail)

end

/-! ## Every run -/

section

variable {ι : Type} [DecidableEq ι] [UUIDText]
variable {acts : ι → Activity} {id : UUID} {tr : ServerTrace ι} {i j : ι}

omit [UUIDText] in
theorem viewer_snoc_self (tr : ServerTrace ι) (i : ι) (ev : ServerEv) :
    viewer (tr ++ [(i, ev)]) i = (viewer tr i).watch ev := by
  simp [viewer, Trace.local]

omit [UUIDText] in
theorem viewer_snoc_of_ne (hne : j ≠ i) (tr : ServerTrace ι) (ev : ServerEv) :
    viewer (tr ++ [(i, ev)]) j = viewer tr j := by
  simp [viewer, Trace.local, Ne.symm hne]

omit [UUIDText] in
theorem viewer_snoc_call (tr : ServerTrace ι) (i j : ι) (op : Call) (r : op.Ans) :
    viewer (tr ++ [(i, ⟨.inr op, r⟩)]) j = viewer tr j := by
  by_cases hji : j = i
  · subst hji
    exact viewer_snoc_self tr j _
  · exact viewer_snoc_of_ne hji tr _

omit [UUIDText] in
theorem ending_snoc_stream (id : UUID) (tr : ServerTrace ι) (i j : ι) (call : StreamCall)
    (r : call.Ans) : ending id (tr ++ [(i, ⟨.inl call, r⟩)]) j = ending id tr j := by
  by_cases hji : j = i
  · subst hji
    exact ending_snoc_self id tr j _
  · exact ending_snoc_of_ne hji id tr _

/-- What holds throughout a run: what the calls have stored is still stored, every
    handler is in step with a mailbox of its own, and is told when it ends. -/
structure Streamed (acts : ι → Activity) (id : UUID) (tr : ServerTrace ι) (b : Backend)
    (boxes : List Subscription) : Prop where
  refines : Refines b.hub boxes
  announcing : Announcing id tr b.hub boxes
  holds : ∀ i, (acts i).closes = true → (ending id tr i).Holds ((acts i).final id) id b.store
  viewing : ∀ i, Viewing (acts i).target id b.store boxes (viewer tr i)
  distinct : ∀ i j handle handle', (viewer tr i).handle = some handle →
    (viewer tr j).handle = some handle' → handle.sub = handle'.sub → i = j

variable {b : Backend} {boxes : List Subscription} {c : ServerEnv} {cfg : ServerConfig ι}

/-- The report that closes the subscribers of a transfer has stored the state that
    its event names. -/
theorem Streamed.told_of_close (h : Streamed acts id tr cfg.state boxes)
    (hperm : (acts i).closes = true → (ending id tr i).Permits ((acts i).final id) id (.closeTransfer id))
    (hannounces : Announces acts id tr cfg i c (.inr (.closeTransfer id))) {sub : Subscription}
    (hsub : sub ∈ boxes) (hid : sub.transferID = id) (hopen : sub.box.closed = false) :
    Told id cfg.state.store (ProgressBox.framed sub.box) := by
  obtain ⟨n, hn⟩ := List.mem_iff_getElem?.mp hsub
  have hhandle := List.mem_iff_getElem?.mpr ⟨n, h.refines.handle_of_sub hn⟩
  obtain ⟨status, hstatus, hannounced⟩ :=
    hannounces.2 rfl _ hhandle hid _ (h.refines.views n sub hn) hopen
  -- the last event that the mailbox has kept says what the report says
  obtain ⟨sub', hn', htold⟩ := h.announcing.told status n hannounced
  obtain rfl := Option.some.inj (hn.symm.trans hn')
  have hlast := htold hid hopen
  cases hact : acts i with
  | stream rounds r =>
    rw [hact] at hstatus
    cases hstatus
  | call request =>
    rw [hact] at hstatus hperm
    cases request with
    | createTransfer req => cases hstatus
    | cancelTransfer id' => cases hstatus
    | handleProgress report =>
      -- a report closes the subscribers only after it has stored the final state
      have hstored : (ending id tr i).stored ≠ none := hperm rfl rfl
      obtain ⟨state, hstate⟩ := Option.ne_none_iff_exists'.mp hstored
      have hholds := h.holds i (by rw [hact]; rfl)
      obtain ⟨hs, hterm, hfinal⟩ := hholds.stored state hstate
      rw [hact] at hfinal
      obtain rfl : report.status = status := Option.some.inj hstatus
      exact ⟨state, hs, hterm, by rw [hlast, hfinal.2]⟩

theorem Streamed.step_call (h : Streamed acts id tr cfg.state boxes) {op : Call}
    (hperm : (acts i).closes = true → (ending id tr i).Permits ((acts i).final id) id op)
    (hannounces : Announces acts id tr cfg i c (.inr op)) :
    Streamed acts id (tr ++ [(i, ⟨.inr op, (exec c.env op cfg.state.store).1⟩)])
      ⟨(exec c.env op cfg.state.store).2, cfg.state.hub.after op.hubOps⟩
      (advanceAll op.hubOps boxes) where
  refines := h.refines.after op.hubOps
  announcing := h.announcing.step_call h.refines _
  holds j hcloses := by
    by_cases hji : j = i
    · subst hji
      rw [ending_snoc_self]
      exact (h.holds j hcloses).step_self (hperm hcloses) hannounces.1
    · rw [ending_snoc_of_ne hji]
      exact (h.holds j hcloses).step_of_ne hannounces.1
  viewing j := by
    rw [viewer_snoc_call]
    refine (h.viewing j).step_call hannounces.1 ?_
    rintro sub hsub rfl hid hopen
    exact h.told_of_close hperm hannounces hsub hid hopen
  distinct j j' handle handle' := by
    rw [viewer_snoc_call, viewer_snoc_call]
    exact h.distinct j j' handle handle'

/-- A subscription was there before, or has just been made. -/
theorem Streamed.handle_of_step (h : Streamed acts id tr b boxes) {call : StreamCall} {handle : Handle}
    (hhandle : (viewer (tr ++ [(i, ⟨.inl call, call.answer c b⟩)]) j).handle = some handle) :
    ((viewer tr j).handle = some handle ∧ handle.sub < boxes.length) ∨
      (j = i ∧ handle.sub = boxes.length) := by
  have hold : (viewer tr j).handle = some handle →
      (viewer tr j).handle = some handle ∧ handle.sub < boxes.length := by
    intro hbefore
    obtain ⟨-, sub, hsub, -⟩ := (h.viewing j).followed handle hbefore
    exact ⟨hbefore, (List.getElem?_eq_some_iff.mp hsub).1⟩
  by_cases hji : j = i
  · subst hji
    rw [viewer_snoc_self] at hhandle
    by_cases hsub : ∃ id', call = .subscribe id'
    · obtain ⟨id', rfl⟩ := hsub
      have hnew : (b.hub.hub.subscribe id').1 = handle := Option.some.inj hhandle
      rw [← hnew]
      exact .inr ⟨rfl, h.refines.size⟩
    · have hsame : ((viewer tr j).watch ⟨.inl call, call.answer c b⟩).handle = (viewer tr j).handle :=
        Viewer.handle_follow fun id' heq => hsub ⟨id', heq⟩
      exact .inl (hold (hsame.symm.trans hhandle))
  · rw [viewer_snoc_of_ne hji] at hhandle
    exact .inl (hold hhandle)

theorem Streamed.step_stream (h : Streamed acts id tr b boxes) {call : StreamCall} {own : UUID}
    (htarget : (acts i).target = some own) (hperm : (viewer tr i).Permits own call)
    (hwakes : Wakes c (.inl call) b) :
    Streamed acts id (tr ++ [(i, ⟨.inl call, call.answer c b⟩)])
      { b with hub := b.hub.after (call.hubOps c.ready) } (advanceAll (call.hubOps c.ready) boxes) where
  refines := h.refines.after _
  announcing := h.announcing.step_stream hwakes
  holds j hcloses := by
    rw [ending_snoc_stream]
    exact h.holds j hcloses
  viewing j := by
    by_cases hji : j = i
    · subst hji
      rw [viewer_snoc_self]
      exact (h.viewing j).step_own h.refines htarget hperm
    · rw [viewer_snoc_of_ne hji]
      refine (h.viewing j).step_other c.ready fun handle handle' hhandle huses hsame => hji ?_
      exact h.distinct j i handle handle' hhandle (hperm.handle_of_uses huses) hsame.symm
  distinct j j' handle handle' hhandle hhandle' hsame := by
    -- a new subscription is none of the old ones
    rcases h.handle_of_step hhandle with ⟨hold, hlt⟩ | ⟨hj, hnew⟩
    · rcases h.handle_of_step hhandle' with ⟨hold', -⟩ | ⟨-, hnew'⟩
      · exact h.distinct j j' handle handle' hold hold' hsame
      · rw [hsame, hnew'] at hlt
        exact absurd hlt (Nat.lt_irrefl _)
    · rcases h.handle_of_step hhandle' with ⟨-, hlt'⟩ | ⟨hj', -⟩
      · rw [← hsame, hnew] at hlt'
        exact absurd hlt' (Nat.lt_irrefl _)
      · exact hj.trans hj'.symm

/-- The discipline of a handler, as a part of the server. -/
def Viewer.PermitsServer (own : UUID) (m : Viewer) : ServerCall → Prop
  | .inl call => m.Permits own call
  | .inr _ => False

variable {o : Orchestrator} {s₀ : Store}

/-- A handler that makes a step streams some transfer, by the discipline. -/
theorem viewer_of_run {ok : ι → ServerEnv → ServerCall → Backend → Prop}
    (hrun : Run execServer ok (o.serving acts s₀) tr cfg) {call : StreamCall}
    {k : call.Ans → Prog ServerCall ServerCall.Ans (Reply ⊕ Response)}
    (hnext : cfg.procs i = .call (.inl call) k) :
    ∃ own, (acts i).target = some own ∧ (viewer tr i).Permits own call := by
  cases hact : acts i with
  | call request =>
    have hallows := (hrun.all fun i => all_prog (acts i)).2 i
    rw [hnext, hact] at hallows
    exact hallows.1.elim
  | stream rounds r =>
    cases hid : UUIDText.parse (r.pathValue "id") with
    | error err =>
      -- such a handler makes no step
      have hnone : (o.serving acts s₀).procs i =
          .pure (Sum.inl (writeErrorJSON 400 "invalid_id" "invalid transfer ID format")) := by
        show (acts i).prog o = _
        rw [hact]
        show (handleStreamProgress true rounds r >>= _).inl = _
        rw [handleStreamProgress_invalid hid]
        rfl
      have hproc : Prog.Obeys Viewer.watch (fun _ _ => False) (fun _ _ => True) {}
          ((o.serving acts s₀).procs i) := by
        rw [hnone]
        trivial
      have hobeys := (hrun.obeys_local i hproc).2
      rw [hnext] at hobeys
      exact hobeys.1.elim
    | ok own =>
      have hproc : Prog.Obeys Viewer.watch (Viewer.PermitsServer own) (fun _ _ => True) {}
          ((o.serving acts s₀).procs i) := by
        show Prog.Obeys _ _ _ _ ((acts i).prog o)
        rw [hact]
        have hhandler := viewer_handleStreamProgress hid rounds
        exact Prog.Obeys.inl (Prog.Obeys.bind (hhandler.mono fun _ _ _ => trivial))
      have hobeys := (hrun.obeys_local i hproc).2
      rw [hnext] at hobeys
      refine ⟨own, ?_, hobeys.1⟩
      show (UUIDText.parse (r.pathValue "id")).toOption = some own
      rw [hid]
      rfl

theorem streamed_of_run
    (hrun : RunUnder execServer (fun _ => Wakes) (Announces acts id) (o.serving acts s₀) tr cfg) :
    ∃ boxes, Streamed acts id tr cfg.state boxes := by
  refine hrun.invariant (I := fun tr cfg => ∃ boxes, Streamed acts id tr cfg.state boxes) ?_ ?_
  · refine ⟨[], refines_start, ⟨fun _ _ => rfl, nofun⟩, fun _ _ => Ending.holds_init _,
      fun i => ⟨nofun, nofun⟩, ?_⟩
    intro i j handle handle' hhandle
    cases hhandle
  · rintro tr cfg i c (call | op) k hpast ⟨boxes, h⟩ hnext hwakes hC
    · obtain ⟨own, htarget, hperm⟩ := viewer_of_run hpast hnext
      exact ⟨_, h.step_stream htarget hperm hwakes⟩
    · refine ⟨_, h.step_call (fun hcloses => ?_) hC⟩
      have hobeys := (ending_of_run id hcloses hpast).2
      rw [hnext] at hobeys
      exact hobeys.1

/-- Any number of handlers and calls, in any order of their steps and with clients of
    any speed: a stream that ends has said how, as long as every close follows its
    announcement. -/
theorem finalFrames_of_announced
    (hrun : RunUnder execServer (fun _ => Wakes) (Announces acts id) (o.serving acts s₀) tr cfg) :
    FinalFrames acts id tr cfg.state.store := by
  obtain ⟨boxes, h⟩ := streamed_of_run hrun
  intro i htarget hended
  obtain ⟨handle, hhandle, htold⟩ := (h.viewing i).ended hended
  obtain ⟨htarget', -⟩ := (h.viewing i).followed handle hhandle
  rw [htarget, Option.some_inj] at htarget'
  exact htold htarget'.symm

end

/-! ## Sample streams -/

/-- The stream is told of the completion, and the frame that tells so is its last. -/
theorem finalFrames_completed :
    ∃ tr cfg, RunUnder execServer (fun _ => Wakes) (Announces completedStream 7) servingCompleted
        tr cfg ∧
      cfg.state.store.stateOf 7 = some .completed ∧ (viewer tr 1).ended = true ∧
      @FinalFrames (Fin 3) _ canonicalText completedStream 7 tr cfg.state.store := by
  let sched : List (Fin 3 × ServerEnv) :=
    serverMoves 0 7 21 ++ serverMoves 1 100 3 ++ serverMoves 2 200 15 ++ serverMoves 1 300 4
  have hend : (Config.followUnder execServer (fun _ => Wakes) (Announces completedStream 7) []
      servingCompleted sched).any fun out =>
      out.2.state.store.stateOf 7 = some .completed ∧ (viewer out.1 1).ended = true := by
    decide +kernel
  obtain ⟨⟨tr, cfg⟩, hfollow, hout⟩ := (Option.any_eq_true _ _).mp hend
  obtain ⟨hstate, hended⟩ := of_decide_eq_true hout
  have hrun := RunUnder.of_followUnder .init hfollow
  exact ⟨tr, cfg, hrun, hstate, hended, @finalFrames_of_announced (Fin 3) _ canonicalText
    completedStream 7 tr cfg plainOrchestrator .empty hrun⟩

/-- The creation of a transfer, a stream of it, and its cancellation. -/
def cancelledStream : Fin 3 → Activity
  | 0 => .call (.createTransfer sampleRequest)
  | 1 => .stream 3 streamRequest
  | 2 => .call (.cancelTransfer 7)

/-- The cancellation closes the stream, which has written that the transfer is under way. -/
theorem not_finalFrames_cancelled :
    ¬ ∀ (acts : Fin 3 → Activity) (s₀ : Store) (id : UUID) (tr : ServerTrace (Fin 3))
        (cfg : ServerConfig (Fin 3)),
      Run execServer (fun _ => Wakes)
        (@Orchestrator.serving canonicalText (Fin 3) plainOrchestrator acts s₀) tr cfg →
      @FinalFrames (Fin 3) _ canonicalText acts id tr cfg.state.store := by
  intro hall
  let cfg₀ := @Orchestrator.serving canonicalText (Fin 3) plainOrchestrator cancelledStream .empty
  let sched : List (Fin 3 × ServerEnv) :=
    serverMoves 0 7 21 ++ serverMoves 1 100 3 ++ serverMoves 2 200 13 ++ serverMoves 1 300 2
  have hend : (cfg₀.follow execServer (fun _ => Wakes) sched).any fun out =>
      out.2.state.store.stateOf 7 = some .cancelled ∧ (viewer out.1 1).ended = true ∧
      (viewer out.1 1).frames.getLast?.map EnrichedProgress.status = some "transferring" := by
    decide +kernel
  obtain ⟨⟨tr, cfg⟩, hfollow, hout⟩ := (Option.any_eq_true _ _).mp hend
  obtain ⟨hstate, hended, hlast⟩ := of_decide_eq_true hout
  have htarget : @Activity.target canonicalText (cancelledStream 1) = some 7 := by decide +kernel
  obtain ⟨state, hs, -, hstatus⟩ :=
    hall cancelledStream .empty 7 tr cfg (Run.of_follow hfollow) 1 htarget hended
  rw [hstate, Option.some_inj] at hs
  rw [hlast, ← hs] at hstatus
  exact absurd hstatus (by decide)

end Katapult
