/-
  Katapult.Observability.Channels

  What is to be seen of one subscriber of the hub, and what one step on its
  channel does to that: a send, a close, a receive reach its mailbox, and the
  other subscribers are left alone.
-/

import Katapult.Channel.Mailbox
import Katapult.Observability.Hub

namespace Katapult

open Channel

/-! ## What is to be seen of one subscriber -/

def ChannelEvent.sub : ChannelEvent → Ref
  | .sent r _ _ | .received r _ | .closed r => r

/-- What has been received from the channel of a subscriber, in order. -/
def receivedBy (r : Ref) (log : List ChannelEvent) : List EnrichedProgress :=
  log.filterMap fun
    | .received r' progress => if r' = r then some progress else none
    | _ => none

/-- What was sent to a subscriber, in order, with the backlog that each event has met. -/
def sendsTo (r : Ref) (log : List ChannelEvent) : List (EnrichedProgress × Nat) :=
  log.filterMap fun
    | .sent r' progress backlog => if r' = r then some (progress, backlog) else none
    | _ => none

/-- How often the channel of a subscriber was closed. -/
def closesOf (r : Ref) (log : List ChannelEvent) : Nat :=
  log.countP fun
    | .closed r' => r' = r
    | _ => false

/-- A subscriber, its channel, and what has happened to it. -/
structure ChannelView where
  /-- The flag of the subscriber. -/
  flag : Bool
  closed : Bool
  buffer : List EnrichedProgress
  received : List EnrichedProgress
  sends : List (EnrichedProgress × Nat)
  closes : Nat

def Subscriber.view (sub : Subscriber) (r : Ref) (log : List ChannelEvent) : ChannelView where
  flag := sub.closed
  closed := sub.ch.closed
  buffer := sub.ch.buffer
  received := receivedBy r log
  sends := sendsTo r log
  closes := closesOf r log

def ProgressHub.view (h : ProgressHub) (r : Ref) : Option ChannelView :=
  h.heap[r]?.map fun sub => sub.view r h.log

/-- A mailbox of progress events. -/
abbrev ProgressBox : Type := Mailbox EnrichedProgress subscriberBufferSize

/-- How a mailbox looks in the hub. -/
def shown (m : ProgressBox) : ChannelView where
  flag := m.closed
  closed := m.closed
  buffer := m.buffer
  received := m.received
  sends := m.offers
  closes := m.closed.toNat

theorem shown_injective {m m' : ProgressBox} (h : shown m = shown m') : m = m' := by
  cases m with
  | mk received buffer closed offers bound backlog kept =>
    cases m' with
    | mk received' buffer' closed' offers' bound' backlog' kept' =>
      obtain rfl : received = received' := congrArg ChannelView.received h
      obtain rfl : buffer = buffer' := congrArg ChannelView.buffer h
      obtain rfl : closed = closed' := congrArg ChannelView.flag h
      obtain rfl : offers = offers' := congrArg ChannelView.sends h
      rfl

theorem Subscriber.view_snoc_of_ne {ev : ChannelEvent} {r : Ref} (h : ev.sub ≠ r) (sub : Subscriber)
    (log : List ChannelEvent) : sub.view r (log ++ [ev]) = sub.view r log := by
  cases ev <;> simp_all [Subscriber.view, receivedBy, sendsTo, closesOf, ChannelEvent.sub]

theorem Subscriber.view_sent (r : Ref) (sub : Subscriber) (log : List ChannelEvent)
    (ch : Chan EnrichedProgress subscriberBufferSize) (progress : EnrichedProgress) (backlog : Nat) :
    ({ sub with ch } : Subscriber).view r (log ++ [.sent r progress backlog]) =
      { sub.view r log with
        closed := ch.closed
        buffer := ch.buffer
        sends := (sub.view r log).sends ++ [(progress, backlog)] } := by
  simp [Subscriber.view, receivedBy, sendsTo, closesOf]

theorem Subscriber.view_received (r : Ref) (sub : Subscriber) (log : List ChannelEvent)
    (ch : Chan EnrichedProgress subscriberBufferSize) (progress : EnrichedProgress) :
    ({ sub with ch } : Subscriber).view r (log ++ [.received r progress]) =
      { sub.view r log with
        closed := ch.closed
        buffer := ch.buffer
        received := (sub.view r log).received ++ [progress] } := by
  simp [Subscriber.view, receivedBy, sendsTo, closesOf]

theorem Subscriber.view_closed (r : Ref) (sub : Subscriber) (log : List ChannelEvent) :
    ({ ch := { sub.ch with closed := true }, closed := true } : Subscriber).view r
        (log ++ [.closed r]) =
      { sub.view r log with
        flag := true
        closed := true
        closes := (sub.view r log).closes + 1 } := by
  simp [Subscriber.view, receivedBy, sendsTo, closesOf]

namespace ProgressHub

variable {h : ProgressHub} {r : Ref}

/-- Nothing has happened to pointers that were not made yet. -/
def Known (h : ProgressHub) : Prop := ∀ ev ∈ h.log, ev.sub < h.heap.length

/-- Only the subscribers `rs` have been touched. -/
structure Kept (rs : List Ref) (h h' : ProgressHub) : Prop where
  subscribers : h'.subscribers = h.subscribers
  size : h'.heap.length = h.heap.length
  others : ∀ r, r ∉ rs → h'.view r = h.view r
  known : h.Known → h'.Known

theorem Kept.refl (h : ProgressHub) : Kept [] h h := ⟨rfl, rfl, fun _ _ => rfl, id⟩

theorem Kept.append {rs rs' : List Ref} {h₁ h₂ h₃ : ProgressHub} (h₁₂ : Kept rs h₁ h₂)
    (h₂₃ : Kept rs' h₂ h₃) : Kept (rs ++ rs') h₁ h₃ where
  subscribers := h₂₃.subscribers.trans h₁₂.subscribers
  size := h₂₃.size.trans h₁₂.size
  others r hr := by
    rw [List.mem_append, not_or] at hr
    rw [h₂₃.others r hr.2, h₁₂.others r hr.1]
  known hk := h₂₃.known (h₁₂.known hk)

theorem kept_store {sub : Subscriber} {ev : ChannelEvent} (hev : ev.sub = r)
    (hr : r < h.heap.length) : Kept [r] h (h.store r sub ev) where
  subscribers := rfl
  size := List.length_set
  others r' hr' := by
    -- another subscriber: neither its entry nor its part of the log changes
    have hne : r ≠ r' := fun heq => hr' (heq ▸ List.mem_singleton_self r)
    simp only [view, store, List.getElem?_set_ne hne]
    congr 1
    funext sub'
    exact Subscriber.view_snoc_of_ne (hev ▸ hne) sub' h.log
  known hk ev' hev' := by
    have hsize : (h.store r sub ev).heap.length = h.heap.length := List.length_set
    rw [hsize]
    rcases List.mem_append.mp hev' with hold | hnew
    · exact hk ev' hold
    · rw [List.mem_singleton.mp hnew, hev]
      exact hr

theorem view_store (hr : r < h.heap.length) (sub : Subscriber) (ev : ChannelEvent) :
    (h.store r sub ev).view r = some (sub.view r (h.log ++ [ev])) := by
  simp only [view, store, List.getElem?_set_self hr, Option.map_some]

/-- The subscriber behind a mailbox. -/
theorem exists_of_view {m : ProgressBox} (hm : h.view r = some (shown m)) :
    ∃ sub, h.heap[r]? = some sub ∧ r < h.heap.length ∧ sub.view r h.log = shown m := by
  obtain ⟨sub, hsub, hview⟩ := Option.map_eq_some_iff.mp hm
  exact ⟨sub, hsub, (List.getElem?_eq_some_iff.mp hsub).1, hview⟩

/-! ## One subscriber -/

/-- A send reaches the mailbox of an open subscriber. -/
theorem sendTo_ends {m : ProgressBox} (hm : h.view r = some (shown m)) (hopen : m.closed = false)
    (progress : EnrichedProgress) :
    (sendTo progress r h).Ends fun h' =>
      Kept [r] h h' ∧ h'.view r = some (shown (m.offer progress)) := by
  obtain ⟨sub, hsub, hr, hview⟩ := exists_of_view hm
  have hchan : sub.ch.closed = false := (congrArg ChannelView.closed hview).trans hopen
  have hbuffer : sub.ch.buffer = m.buffer := congrArg ChannelView.buffer hview
  -- on an open channel the send is done, lossy or not
  obtain ⟨ch, hsent, hch, hchopen⟩ := Attempt.ends_iff.mp (Chan.trySend_of_open hchan progress)
  have hroom : ch.buffer = Mailbox.room m.buffer subscriberBufferSize progress := by
    rw [hch, Chan.offered, Chan.hasRoom, hbuffer, Mailbox.room]
    simp only [decide_eq_true_eq]
  simp only [sendTo, hsub, hsent, Attempt.map_done]
  refine ⟨kept_store rfl hr, ?_⟩
  rw [view_store hr, Subscriber.view_sent, hview, hroom, hchopen, hbuffer]
  unfold Mailbox.offer
  rw [if_neg (by simp [hopen])]
  simp only [shown, hopen]

/-- Closing the channel of an open subscriber shuts its mailbox. -/
theorem closeSubscriber_ends {m : ProgressBox} (hm : h.view r = some (shown m))
    (hopen : m.closed = false) :
    (closeSubscriber r h).Ends fun h' => Kept [r] h h' ∧ h'.view r = some (shown m.shut) := by
  obtain ⟨sub, hsub, hr, hview⟩ := exists_of_view hm
  have hchan : sub.ch.closed = false := (congrArg ChannelView.closed hview).trans hopen
  simp only [closeSubscriber, hsub, Chan.close_of_open hchan, Attempt.map_done]
  refine ⟨kept_store rfl hr, ?_⟩
  rw [view_store hr, Subscriber.view_closed, hview]
  simp only [shown, Mailbox.shut, hopen, Bool.toNat_true, Bool.toNat_false]

theorem closeIfOpen_ends {m : ProgressBox} (hm : h.view r = some (shown m))
    (hopen : m.closed = false) :
    (closeIfOpen r h).Ends fun h' => Kept [r] h h' ∧ h'.view r = some (shown m.shut) := by
  obtain ⟨sub, hsub, hr, hview⟩ := exists_of_view hm
  have hflag : sub.closed = false := (congrArg ChannelView.flag hview).trans hopen
  simp only [closeIfOpen, hsub, hflag, Bool.false_eq_true, if_false]
  exact closeSubscriber_ends hm hopen

/-- A pointer that was not made yet looks like an empty mailbox, once it is made. -/
theorem view_fresh (hk : h.Known) (sub : Subscriber) (hsub : sub.closed = false)
    (hopen : sub.ch.closed = false) (hempty : sub.ch.buffer = []) :
    sub.view h.heap.length h.log = shown .empty := by
  -- the log speaks of pointers that were made, and this one is new
  have hno : ∀ ev ∈ h.log, ev.sub ≠ h.heap.length := fun ev hev => Nat.ne_of_lt (hk ev hev)
  have hreceived : receivedBy h.heap.length h.log = [] := by
    rw [receivedBy, List.filterMap_eq_nil_iff]
    intro ev hev
    have hne := hno ev hev
    cases ev <;> simp_all [ChannelEvent.sub]
  have hsends : sendsTo h.heap.length h.log = [] := by
    rw [sendsTo, List.filterMap_eq_nil_iff]
    intro ev hev
    have hne := hno ev hev
    cases ev <;> simp_all [ChannelEvent.sub]
  have hcloses : closesOf h.heap.length h.log = 0 := by
    rw [closesOf, List.countP_eq_zero]
    intro ev hev
    have hne := hno ev hev
    cases ev <;> simp_all [ChannelEvent.sub]
  simp only [Subscriber.view, hsub, hopen, hempty, hreceived, hsends, hcloses]
  rfl

/-- A receive takes the next event out of the mailbox, or waits, or finds the
    channel closed. -/
theorem receive_cases {m : ProgressBox} {handle : Handle} (hm : h.view handle.sub = some (shown m)) :
    (∃ progress rest h', m.buffer = progress :: rest ∧ h.receive handle = .done (some progress, h') ∧
      Kept [handle.sub] h h' ∧ h'.view handle.sub = some (shown m.take)) ∨
    (m.buffer = [] ∧ m.take = m ∧
      h.receive handle = if m.closed then .done (none, h) else .blocks) := by
  obtain ⟨sub, hsub, hr, hview⟩ := exists_of_view hm
  have hbuffer : sub.ch.buffer = m.buffer := congrArg ChannelView.buffer hview
  have hchan : sub.ch.closed = m.closed := congrArg ChannelView.closed hview
  cases hm : m.buffer with
  | nil =>
    refine .inr ⟨rfl, m.take_of_nil hm, ?_⟩
    simp only [receive, hsub, Chan.receive_of_nil (hbuffer.trans hm), hchan]
    cases m.closed <;> rfl
  | cons progress rest =>
    obtain ⟨⟨value, ch⟩, hreceived, hvalue, hrest, hclosed⟩ :=
      Attempt.ends_iff.mp (Chan.receive_of_cons (hbuffer.trans hm))
    obtain rfl : value = some progress := hvalue
    have hrest : ch.buffer = rest := hrest
    have hclosed : ch.closed = m.closed := hclosed.trans hchan
    obtain ⟨htake, hbuffer'⟩ := m.take_of_cons hm
    simp only [receive, hsub, hreceived, Attempt.map_done]
    refine .inl ⟨progress, rest, _, rfl, rfl, kept_store rfl hr, ?_⟩
    rw [view_store hr, Subscriber.view_received, hview]
    simp only [shown, htake, hbuffer', m.take_closed, m.take_offers, hclosed, hrest]

/-! ## The loops -/

/-- The mailbox of a subscriber, once it has been reached by an operation. -/
def Reached (f : ProgressBox → ProgressBox) (h h' : ProgressHub) (rs : List Ref) : Prop :=
  ∀ r ∈ rs, ∀ m : ProgressBox, h.view r = some (shown m) → h'.view r = some (shown (f m))

/-- A loop over the subscribers of a transfer, all of them open, reaches each of
    them and no other, in whatever order it visits them. -/
theorem ends_each_sub {step : Ref → ProgressHub → Attempt ProgressHub} {f : ProgressBox → ProgressBox}
    (hstep : ∀ {r h} {m : ProgressBox}, h.view r = some (shown m) → m.closed = false →
      (step r h).Ends fun h' => Kept [r] h h' ∧ h'.view r = some (shown (f m)))
    {subs : List Ref} (hnodup : subs.Nodup)
    (hopen : ∀ r ∈ subs, ∃ m : ProgressBox, h.view r = some (shown m) ∧ m.closed = false) :
    (Attempt.each step subs h).Ends fun h' => Kept subs h h' ∧ Reached f h h' subs := by
  have hstart : Kept [] h h ∧ Reached f h h [] := ⟨.refl h, fun _ hr => absurd hr List.not_mem_nil⟩
  have hturn : ∀ (visited : List Ref) (r : Ref) (h₁ : ProgressHub),
      (∃ m : ProgressBox, h.view r = some (shown m) ∧ m.closed = false) → r ∉ visited →
      Kept visited h h₁ ∧ Reached f h h₁ visited →
      (step r h₁).Ends fun h' => Kept (visited ++ [r]) h h' ∧ Reached f h h' (visited ++ [r]) := ?_
  · have hnodup' : ([] ++ subs : List Ref).Nodup := hnodup
    exact Attempt.ends_each hturn hopen hnodup' hstart
  rintro visited r h₁ hr hnew ⟨hkept, hreached⟩
  obtain ⟨m, hm, hm_open⟩ := hr
  have hm₁ : h₁.view r = some (shown m) := by rw [hkept.others r hnew]; exact hm
  refine (hstep hm₁ hm_open).mono fun h₂ ⟨hkept₂, hm₂⟩ => ⟨hkept.append hkept₂, ?_⟩
  -- those visited before keep what they have got, and `r` gets it now
  intro r' hr' m' hm'
  rcases List.mem_append.mp hr' with hold | hlast
  · have hne : r' ∉ [r] := fun h => hnew (List.mem_singleton.mp h ▸ hold)
    rw [hkept₂.others r' hne]
    exact hreached r' hold m' hm'
  · obtain rfl := List.mem_singleton.mp hlast
    rw [hm, Option.some_inj] at hm'
    rw [← shown_injective hm']
    exact hm₂

end ProgressHub

end Katapult
