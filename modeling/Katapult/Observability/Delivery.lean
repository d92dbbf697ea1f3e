/-
  Katapult.Observability.Delivery

  What the refinement says about the hub: no operation panics or blocks, the
  map, the flags and the channels agree, and delivery is what a mailbox delivers.
-/

import Katapult.Observability.Subscriptions

namespace Katapult

open Channel

/-! ## Consistency -/

/-- The map, the flags and the channels of the hub agree. -/
structure HubWorld.Consistent (w : HubWorld) : Prop where
  /-- A subscriber is registered if and only if its flag is false, if and only if
      its channel is open, and then under the transfer it has subscribed to. -/
  registered : ∀ (n : Nat) (handle : Handle), w.handles[n]? = some handle → ∃ sub, w.hub.heap[n]? = some sub ∧
    sub.ch.closed = sub.closed ∧
    ∀ id, n ∈ (w.hub.subscribers id).getD [] ↔ id = handle.transferID ∧ sub.closed = false
  /-- Nothing else is registered. -/
  known : ∀ id (r : Ref), r ∈ (w.hub.subscribers id).getD [] → ∃ handle, w.handles[r]? = some handle
  handles : ∀ (n : Nat) (handle : Handle), w.handles[n]? = some handle → handle.sub = n
  nonempty : ∀ id, w.hub.subscribers id ≠ some []
  closedOnce : ∀ r, closesOf r w.hub.log ≤ 1

namespace Refines

variable {w : HubWorld} {boxes : List Subscription}

/-- The subscription behind a handle. -/
theorem sub_of_handle (hw : Refines w boxes) {n : Nat} {handle : Handle}
    (h : w.handles[n]? = some handle) :
    ∃ b, boxes[n]? = some b ∧ handle = { sub := n, transferID := b.transferID } := by
  rw [hw.handles, List.getElem?_mapIdx] at h
  obtain ⟨b, hb, rfl⟩ := Option.map_eq_some_iff.mp h
  exact ⟨b, hb, rfl⟩

theorem consistent (hw : Refines w boxes) : w.Consistent where
  registered n handle hhandle := by
    obtain ⟨b, hb, rfl⟩ := hw.sub_of_handle hhandle
    obtain ⟨sub, hsub, -, hshown⟩ := ProgressHub.exists_of_view (hw.views n b hb)
    have hflag : sub.closed = b.box.closed := congrArg ChannelView.flag hshown
    have hchan : sub.ch.closed = b.box.closed := congrArg ChannelView.closed hshown
    refine ⟨sub, hsub, hchan.trans hflag.symm, fun id => ?_⟩
    rw [hw.registered, hflag]
    constructor
    · rintro ⟨b', hb', hid, hopen⟩
      rw [hb, Option.some_inj] at hb'
      subst hb'
      exact ⟨hid.symm, hopen⟩
    · rintro ⟨hid, hopen⟩
      exact ⟨b, hb, hid.symm, hopen⟩
  known id r hr := by
    obtain ⟨b, hb, -⟩ := (hw.registered id r).mp hr
    exact ⟨_, hw.handle_of_sub hb⟩
  handles n handle hhandle := by
    obtain ⟨b, -, rfl⟩ := hw.sub_of_handle hhandle
    rfl
  nonempty id h := (hw.sets id [] h).1 rfl
  closedOnce r := by
    rcases Nat.lt_or_ge r boxes.length with hr | hr
    · obtain ⟨sub, -, -, hshown⟩ :=
        ProgressHub.exists_of_view (hw.views r _ (List.getElem?_eq_getElem hr))
      have hcloses : closesOf r w.hub.log = (boxes[r]).box.closed.toNat :=
        congrArg ChannelView.closes hshown
      rw [hcloses]
      exact Bool.toNat_le _
    · -- nothing has happened to a pointer that was not made
      have hnone : closesOf r w.hub.log = 0 := by
        rw [closesOf, List.countP_eq_zero]
        intro ev hev
        have hlt := hw.known ev hev
        rw [hw.size] at hlt
        have hne : ev.sub ≠ r := Nat.ne_of_lt (Nat.lt_of_lt_of_le hlt hr)
        cases ev <;> simp_all [ChannelEvent.sub]
      rw [hnone]
      exact Nat.zero_le 1

end Refines

/-- Whatever the hub's clients do, no operation panics or blocks with the mutex
    held, the hub stays consistent, and the next publication is done as well. -/
theorem hub_consistent (ops : List HubOp) :
    ∃ w, HubWorld.run ops .start = .done w ∧ w.Consistent ∧
      ∀ id progress, ∃ hub, w.hub.publish id progress = .done hub := by
  obtain ⟨w, hrun, hw⟩ := Attempt.ends_iff.mp (refines_start.run ops)
  refine ⟨w, hrun, hw.consistent, fun id progress => ?_⟩
  obtain ⟨w', hstep, -⟩ := Attempt.ends_iff.mp (hw.publish id progress)
  cases hpublish : w.hub.publish id progress with
  | done hub => exact ⟨hub, rfl⟩
  | blocks =>
    simp only [HubWorld.step, hpublish] at hstep
    cases hstep
  | panics =>
    simp only [HubWorld.step, hpublish] at hstep
    cases hstep

/-! ## Delivery -/

def HubOp.subscribes : HubOp → Bool
  | .subscribe _ => true
  | _ => false

/-- The operation closes the `n`-th subscription, one for the transfer `id`. -/
def HubOp.closes (n : Nat) (id : UUID) : HubOp → Bool
  | .unsubscribe n' => n' = n
  | .closeTransfer id' => id' = id
  | .subscribe _ | .publish .. | .receive _ => false

/-- The event that the operation publishes for a transfer. -/
def HubOp.published (id : UUID) : HubOp → Option EnrichedProgress
  | .publish id' progress => if id' = id then some progress else none
  | .subscribe _ | .unsubscribe _ | .closeTransfer _ | .receive _ => none

/-- The events published for the transfer of a subscription before it is closed. -/
def publishedFor (n : Nat) (id : UUID) (ops : List HubOp) : List EnrichedProgress :=
  (ops.takeWhile fun op => !op.closes n id).filterMap (HubOp.published id)

/-- What concerns the subscription that follows the operations `pre`. -/
def ownOps (pre post : List HubOp) (id : UUID) : List (Mailbox.Op EnrichedProgress) :=
  post.filterMap (HubOp.toward (pre.countP HubOp.subscribes) id)

/-- The events aimed at a subscription before it is shut are those published for it. -/
theorem offered_eq_publishedFor (n : Nat) (id : UUID) (ops : List HubOp) :
    ((ops.filterMap (HubOp.toward n id)).takeWhile fun mail => !mail.isShut).filterMap
      Mailbox.Op.value? = publishedFor n id ops := by
  unfold publishedFor
  induction ops with
  | nil => rfl
  | cons op ops ih =>
    cases op with
    | subscribe id' =>
      simpa [HubOp.toward, HubOp.closes, HubOp.published, List.filterMap_cons] using ih
    | unsubscribe n' =>
      by_cases hn : n' = n
      · simp [HubOp.toward, HubOp.closes, hn, Mailbox.Op.isShut]
      · simpa [HubOp.toward, HubOp.closes, HubOp.published, hn, List.filterMap_cons] using ih
    | publish id' progress =>
      by_cases hid : id' = id
      · simpa [HubOp.toward, HubOp.closes, HubOp.published, hid, Mailbox.Op.isShut,
          Mailbox.Op.value?] using ih
      · simpa [HubOp.toward, HubOp.closes, HubOp.published, hid, List.filterMap_cons] using ih
    | closeTransfer id' =>
      by_cases hid : id' = id
      · simp [HubOp.toward, HubOp.closes, hid, Mailbox.Op.isShut]
      · simpa [HubOp.toward, HubOp.closes, HubOp.published, hid, List.filterMap_cons] using ih
    | receive n' =>
      by_cases hn : n' = n
      · simpa [HubOp.toward, HubOp.closes, HubOp.published, hn, Mailbox.Op.isShut,
          Mailbox.Op.value?, List.filterMap_cons] using ih
      · simpa [HubOp.toward, HubOp.closes, HubOp.published, hn, List.filterMap_cons] using ih

/-- What the subscription that follows the operations `pre` gets out of `post`. -/
structure Delivered (pre post : List HubOp) (id : UUID) (v : ChannelView) : Prop where
  /-- Received and still buffered: in order and without duplicates, events that
      were published for its transfer between its start and its close. -/
  inOrder : (v.received ++ v.buffer).Sublist (publishedFor (pre.countP HubOp.subscribes) id post)
  /-- Each of these events was sent to it, ... -/
  sent : v.sends.map Prod.fst = publishedFor (pre.countP HubOp.subscribes) id post
  /-- ... and those that have met fewer than 16 undelivered events are there, ... -/
  kept : v.received ++ v.buffer = (v.sends.filter fun o => o.2 < subscriberBufferSize).map Prod.fst
  /-- ... so that one is missing only if 16 events were undelivered. -/
  missing : ∀ o ∈ v.sends, ¬ o.2 < subscriberBufferSize → o.2 = subscriberBufferSize

theorem getElem?_advance_of_some (op : HubOp) {boxes : List Subscription} {r : Ref} {b : Subscription}
    (hb : boxes[r]? = some b) : (advance op boxes)[r]? = some (b.follow op r) := by
  have hr : r < (boxes.mapIdx (Subscription.follow op)).length := by
    rw [List.length_mapIdx]
    exact (List.getElem?_eq_some_iff.mp hb).1
  rw [advance, List.getElem?_append_left hr, List.getElem?_mapIdx, hb]
  rfl

theorem length_advance (op : HubOp) (boxes : List Subscription) :
    (advance op boxes).length = boxes.length + (if op.subscribes then 1 else 0) := by
  rw [advance, List.length_append, List.length_mapIdx]
  cases op <;> rfl

/-- The subscriptions after a sequence of operations. -/
def advanceAll (ops : List HubOp) (boxes : List Subscription) : List Subscription :=
  ops.foldl (fun boxes op => advance op boxes) boxes

theorem length_advanceAll (ops : List HubOp) (boxes : List Subscription) :
    (advanceAll ops boxes).length = boxes.length + ops.countP HubOp.subscribes := by
  induction ops generalizing boxes with
  | nil => rfl
  | cons op ops ih =>
    show (advanceAll ops (advance op boxes)).length = _
    rw [ih, length_advance, List.countP_cons]
    omega

/-- A mailbox sees the operations aimed at it, and no others. -/
theorem getElem?_advanceAll (ops : List HubOp) {boxes : List Subscription} {r : Ref}
    {b : Subscription} (hb : boxes[r]? = some b) :
    (advanceAll ops boxes)[r]? =
      some { b with box := b.box.run (ops.filterMap (HubOp.toward r b.transferID)) } := by
  induction ops generalizing boxes b with
  | nil => exact hb
  | cons op ops ih =>
    show (advanceAll ops (advance op boxes))[r]? = _
    rw [ih (getElem?_advance_of_some op hb)]
    cases htoward : op.toward r b.transferID with
    | none => rw [Subscription.follow_of_none htoward, List.filterMap_cons_none htoward]
    | some mail =>
      rw [List.filterMap_cons_some htoward]
      simp [Subscription.follow, htoward, Mailbox.run]

/-- The mailbox of a subscription after the operations that follow it. -/
theorem getElem?_subscribed (pre post : List HubOp) (id : UUID) :
    (advanceAll (pre ++ .subscribe id :: post) [])[pre.countP HubOp.subscribes]? =
      some ⟨id, Mailbox.empty.run (ownOps pre post id)⟩ := by
  have hlength : (advanceAll pre []).length = pre.countP HubOp.subscribes := by
    rw [length_advanceAll, List.length_nil, Nat.zero_add]
  have hnew : (advance (.subscribe id) (advanceAll pre []))[pre.countP HubOp.subscribes]? =
      some ⟨id, .empty⟩ := by
    rw [← hlength, advance_subscribe, List.getElem?_concat_length]
  have hsplit : advanceAll (pre ++ .subscribe id :: post) [] =
      advanceAll post (advance (.subscribe id) (advanceAll pre [])) := by
    rw [advanceAll, List.foldl_append]
    rfl
  rw [hsplit, getElem?_advanceAll post hnew]
  rfl

/-- A mailbox that has been run on the operations aimed at it has got what was
    published for its transfer. -/
theorem delivered_box (pre post : List HubOp) (id : UUID) :
    Delivered pre post id (shown (Mailbox.empty.run (ownOps pre post id))) := by
  let m : ProgressBox := Mailbox.empty.run (ownOps pre post id)
  have hoffers : m.offers.map Prod.fst = publishedFor (pre.countP HubOp.subscribes) id post := by
    rw [← offered_eq_publishedFor]
    exact Mailbox.offers_run rfl _
  refine ⟨?_, hoffers, m.kept, fun o ho hfull => m.backlog_of_missing ho hfull⟩
  rw [← hoffers]
  exact m.sublist_offers

/-- Delivery: every subscription gets what was published for its transfer, and
    operations on other subscriptions or transfers make no difference to it. -/
theorem hub_delivery (pre post : List HubOp) (id : UUID) :
    ∃ w v, HubWorld.run (pre ++ .subscribe id :: post) .start = .done w ∧
      w.hub.view (pre.countP HubOp.subscribes) = some v ∧ Delivered pre post id v ∧
      ∀ pre' post', ownOps pre' post' id = ownOps pre post id →
        ∃ w', HubWorld.run (pre' ++ .subscribe id :: post') .start = .done w' ∧
          w'.hub.view (pre'.countP HubOp.subscribes) = some v := by
  -- what a subscription shows is a function of the operations aimed at it
  have hview : ∀ pre post, ∃ w, HubWorld.run (pre ++ .subscribe id :: post) .start = .done w ∧
      w.hub.view (pre.countP HubOp.subscribes) =
        some (shown (Mailbox.empty.run (ownOps pre post id))) := by
    intro pre post
    obtain ⟨w, hrun, hw⟩ := Attempt.ends_iff.mp (refines_start.run (pre ++ .subscribe id :: post))
    exact ⟨w, hrun, hw.views _ _ (getElem?_subscribed pre post id)⟩
  obtain ⟨w, hrun, hw⟩ := hview pre post
  refine ⟨w, _, hrun, hw, delivered_box pre post id, fun pre' post' hown => ?_⟩
  obtain ⟨w', hrun', hw'⟩ := hview pre' post'
  rw [hown] at hw'
  exact ⟨w', hrun', hw'⟩

/-- An event of the transfer 7. -/
def sampleProgress : EnrichedProgress where
  transferID := 7
  bytesTransferred := 512
  bytesTotal := 1024
  speedBytesPerSec := 0
  chunksCompleted := 0
  chunksTotal := 0
  correlationID := ""
  status := "in_progress"
  errorMessage := ""

/-- A subscription for the transfer 7 gets the same with and without a second
    one, for the transfer 8, that is closed meanwhile. -/
theorem hub_delivery_beside_another :
    ∃ w w' v, HubWorld.run [.subscribe 7, .publish 7 sampleProgress, .receive 0] .start = .done w ∧
      HubWorld.run [.subscribe 8, .subscribe 7, .closeTransfer 8, .publish 7 sampleProgress,
        .unsubscribe 0, .receive 1] .start = .done w' ∧
      w.hub.view 0 = some v ∧ w'.hub.view 1 = some v := by
  obtain ⟨w, v, hrun, hview, -, hsame⟩ :=
    hub_delivery [] [.publish 7 sampleProgress, .receive 0] 7
  obtain ⟨w', hrun', hview'⟩ := hsame [.subscribe 8]
    [.closeTransfer 8, .publish 7 sampleProgress, .unsubscribe 0, .receive 1] rfl
  exact ⟨w, w', v, hrun, hrun', hview, hview'⟩

end Katapult
