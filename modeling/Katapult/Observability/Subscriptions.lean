/-
  Katapult.Observability.Subscriptions

  What the hub is for: every subscriber has a mailbox of its own.

  The abstract hub is a list of mailboxes, one for each subscription, and an
  operation concerns those it is aimed at and no others.  The hub refines it:
  map, flag, channel and log of every subscriber show what its mailbox shows.
-/

import Katapult.Observability.Channels
import Mathlib.Data.List.Nodup

namespace Katapult

open Channel

/-! ## The abstract hub -/

/-- A subscription: the transfer it is for, and its mailbox. -/
structure Subscription where
  transferID : UUID
  box : ProgressBox

/-- What an operation is to the mailbox of the `r`-th subscription, if that is
    one for the transfer `id`. -/
def HubOp.toward (r : Ref) (id : UUID) : HubOp → Option (Mailbox.Op EnrichedProgress)
  | .subscribe _ => none
  | .unsubscribe n => if n = r then some .shut else none
  | .publish id' progress => if id' = id then some (.offer progress) else none
  | .closeTransfer id' => if id' = id then some .shut else none
  | .receive n => if n = r then some .take else none

theorem HubOp.toward_publish (r : Ref) (id id' : UUID) (progress : EnrichedProgress) :
    (HubOp.publish id progress).toward r id' = if id = id' then some (.offer progress) else none :=
  rfl

theorem HubOp.toward_closeTransfer (r : Ref) (id id' : UUID) :
    (HubOp.closeTransfer id).toward r id' = if id = id' then some .shut else none :=
  rfl

/-- The subscription that an operation adds. -/
def HubOp.opened : HubOp → List Subscription
  | .subscribe id => [⟨id, .empty⟩]
  | _ => []

/-- The `r`-th subscription after an operation. -/
def Subscription.follow (op : HubOp) (r : Ref) (b : Subscription) : Subscription :=
  { b with box := b.box.run (op.toward r b.transferID).toList }

/-- The subscriptions after an operation. -/
def advance (op : HubOp) (boxes : List Subscription) : List Subscription :=
  boxes.mapIdx (Subscription.follow op) ++ op.opened

/-- The hub shows what the subscriptions are. -/
structure Refines (w : HubWorld) (boxes : List Subscription) : Prop where
  handles : w.handles = boxes.mapIdx fun r b => { sub := r, transferID := b.transferID }
  size : w.hub.heap.length = boxes.length
  views : ∀ r b, boxes[r]? = some b → w.hub.view r = some (shown b.box)
  registered : ∀ id r, r ∈ (w.hub.subscribers id).getD [] ↔
    ∃ b, boxes[r]? = some b ∧ b.transferID = id ∧ b.box.closed = false
  sets : ∀ id subs, w.hub.subscribers id = some subs → subs ≠ [] ∧ subs.Nodup
  known : w.hub.Known

theorem refines_start : Refines .start [] where
  handles := rfl
  size := rfl
  views r b hb := by cases hb
  registered id r := by
    constructor
    · intro hr
      cases hr
    · rintro ⟨b, hb, -⟩
      cases hb
  sets id subs hsubs := by cases hsubs
  known ev hev := by cases hev

/-! ## The hub refines it -/

/-- A mailbox that an operation is not aimed at. -/
theorem Subscription.follow_of_none {op : HubOp} {r : Ref} {b : Subscription}
    (h : op.toward r b.transferID = none) : b.follow op r = b := by
  unfold Subscription.follow
  rw [h]
  rfl

/-- A mailbox that an operation is aimed at. -/
theorem Subscription.follow_of_some {op : HubOp} {r : Ref} {b : Subscription}
    {mail : Mailbox.Op EnrichedProgress} (h : op.toward r b.transferID = some mail) :
    (b.follow op r).box = b.box.step mail := by
  unfold Subscription.follow
  rw [h]
  rfl

theorem advance_subscribe (id : UUID) (boxes : List Subscription) :
    advance (.subscribe id) boxes = boxes ++ [⟨id, .empty⟩] := by
  have hsame : boxes.mapIdx (Subscription.follow (.subscribe id)) = boxes := by
    refine List.ext_getElem? fun r => ?_
    rw [List.getElem?_mapIdx]
    cases boxes[r]? <;> rfl
  rw [advance, hsame]
  rfl

/-- A subscription was there before, or is the one that is added. -/
theorem getElem?_snoc_eq_some {boxes : List Subscription} {b b' : Subscription} {r : Ref} :
    (boxes ++ [b])[r]? = some b' ↔ boxes[r]? = some b' ∨ r = boxes.length ∧ b' = b := by
  rcases Nat.lt_trichotomy r boxes.length with hr | hr | hr
  · rw [List.getElem?_append_left hr]
    exact ⟨.inl, fun h => h.resolve_right fun hlast => Nat.ne_of_lt hr hlast.1⟩
  · subst hr
    simp [eq_comm]
  · have hnone : boxes[r]? = none := List.getElem?_eq_none_iff.mpr (Nat.le_of_lt hr)
    have hnone' : (boxes ++ [b])[r]? = none := by
      rw [List.getElem?_eq_none_iff, List.length_append, List.length_singleton]
      omega
    rw [hnone, hnone']
    exact iff_of_false nofun fun h => h.elim nofun fun hlast => Nat.ne_of_gt hr hlast.1

theorem getElem?_advance {op : HubOp} (hop : op.opened = []) (boxes : List Subscription) (r : Ref) :
    (advance op boxes)[r]? = boxes[r]?.map (Subscription.follow op r) := by
  rw [advance, hop, List.append_nil, List.getElem?_mapIdx]

namespace Refines

variable {w : HubWorld} {boxes : List Subscription}

/-- An operation that reaches the subscribers `rs` and no others. -/
theorem of_reached (hw : Refines w boxes) {op : HubOp} (hop : op.opened = []) {h' : ProgressHub}
    {rs : List Ref} {f : ProgressBox → ProgressBox} (hsize : h'.heap.length = w.hub.heap.length)
    (hknown : h'.Known) (hothers : ∀ r, r ∉ rs → h'.view r = w.hub.view r)
    (hreached : ProgressHub.Reached f w.hub h' rs)
    (htouch : ∀ (r : Ref) (b : Subscription), boxes[r]? = some b →
      (b.follow op r).box = if r ∈ rs then f b.box else b.box)
    (hregistered : ∀ id r, r ∈ (h'.subscribers id).getD [] ↔
      ∃ b, boxes[r]? = some b ∧ b.transferID = id ∧ (b.follow op r).box.closed = false)
    (hsets : ∀ id subs, h'.subscribers id = some subs → subs ≠ [] ∧ subs.Nodup) :
    Refines (w.withHub h') (advance op boxes) where
  handles := by
    show w.handles = _
    rw [hw.handles, advance, hop, List.append_nil, List.mapIdx_mapIdx]
    rfl
  size := by
    show h'.heap.length = _
    rw [hsize, hw.size, advance, hop, List.append_nil, List.length_mapIdx]
  views r b' hb' := by
    rw [getElem?_advance hop] at hb'
    obtain ⟨b, hb, rfl⟩ := Option.map_eq_some_iff.mp hb'
    show h'.view r = _
    rw [htouch r b hb]
    -- the hub and the mailboxes have been touched at the same subscribers
    by_cases hr : r ∈ rs
    · rw [if_pos hr]
      exact hreached r hr _ (hw.views r b hb)
    · rw [if_neg hr, hothers r hr]
      exact hw.views r b hb
  registered id r := by
    show r ∈ (h'.subscribers id).getD [] ↔ _
    rw [hregistered, getElem?_advance hop]
    constructor
    · rintro ⟨b, hb, hid, hopen⟩
      exact ⟨b.follow op r, by rw [hb]; rfl, hid, hopen⟩
    · rintro ⟨b', hb', hid, hopen⟩
      obtain ⟨b, hb, rfl⟩ := Option.map_eq_some_iff.mp hb'
      exact ⟨b, hb, hid, hopen⟩
  sets := hsets
  known := hknown

/-- What is registered for a transfer are its open subscriptions. -/
theorem mem_subs (hw : Refines w boxes) {id : UUID} {subs : List Ref}
    (hsubs : w.hub.subscribers id = some subs) (r : Ref) :
    r ∈ subs ↔ ∃ b, boxes[r]? = some b ∧ b.transferID = id ∧ b.box.closed = false := by
  rw [← hw.registered, hsubs, Option.getD_some]

/-- The subscribers of a transfer are open. -/
theorem open_of_subs (hw : Refines w boxes) {id : UUID} {subs : List Ref}
    (hsubs : w.hub.subscribers id = some subs) :
    ∀ r ∈ subs, ∃ m : ProgressBox, w.hub.view r = some (shown m) ∧ m.closed = false := by
  intro r hr
  obtain ⟨b, hb, -, hopen⟩ := (hw.mem_subs hsubs r).mp hr
  exact ⟨b.box, hw.views r b hb, hopen⟩

theorem closed_offer (m : ProgressBox) (progress : EnrichedProgress) :
    (m.offer progress).closed = m.closed := by
  unfold Mailbox.offer
  split <;> rfl

theorem offer_of_closed {m : ProgressBox} (h : m.closed = true) (progress : EnrichedProgress) :
    m.offer progress = m := by
  unfold Mailbox.offer
  rw [if_pos h]

theorem shut_of_closed {m : ProgressBox} (h : m.closed = true) : m.shut = m := by
  cases m
  cases h
  rfl

/-- Where nothing is registered for a transfer, its subscriptions are shut. -/
theorem closed_of_not_registered (hw : Refines w boxes) {id : UUID} {r : Ref} {b : Subscription}
    (hb : boxes[r]? = some b) (hid : b.transferID = id)
    (hr : r ∉ (w.hub.subscribers id).getD []) : b.box.closed = true := by
  by_contra hopen
  exact hr ((hw.registered id r).mpr ⟨b, hb, hid, by simpa using hopen⟩)

/-- An operation on a transfer is aimed at its open subscriptions; to the others
    it makes no difference. -/
theorem follow_of_transfer (hw : Refines w boxes) {op : HubOp} {id : UUID}
    {mail : Mailbox.Op EnrichedProgress}
    (hop : ∀ r id', op.toward r id' = if id = id' then some mail else none)
    (hclosed : ∀ m : ProgressBox, m.closed = true → m.step mail = m) (r : Ref) (b : Subscription)
    (hb : boxes[r]? = some b) : (b.follow op r).box =
      if r ∈ (w.hub.subscribers id).getD [] then b.box.step mail else b.box := by
  by_cases hid : id = b.transferID
  · have htoward : op.toward r b.transferID = some mail := by rw [hop, if_pos hid]
    rw [Subscription.follow_of_some htoward]
    split
    · rfl
    · rename_i hr
      exact hclosed _ (hw.closed_of_not_registered hb hid.symm hr)
  · have htoward : op.toward r b.transferID = none := by rw [hop, if_neg hid]
    rw [Subscription.follow_of_none htoward, if_neg]
    intro hr
    obtain ⟨b', hb', hid', -⟩ := (hw.registered id r).mp hr
    rw [hb, Option.some_inj] at hb'
    exact hid (hb' ▸ hid'.symm)

/-- An operation on one subscription. -/
theorem follow_of_sub {op : HubOp} {n : Ref} {mail : Mailbox.Op EnrichedProgress}
    (hop : ∀ r id, op.toward r id = if n = r then some mail else none) (r : Ref) (b : Subscription) :
    (b.follow op r).box = if r ∈ [n] then b.box.step mail else b.box := by
  by_cases hr : n = r
  · have htoward : op.toward r b.transferID = some mail := by rw [hop, if_pos hr]
    rw [Subscription.follow_of_some htoward, if_pos (by rw [hr]; exact List.mem_singleton_self r)]
  · have htoward : op.toward r b.transferID = none := by rw [hop, if_neg hr]
    rw [Subscription.follow_of_none htoward, if_neg fun h => hr (List.mem_singleton.mp h).symm]

/-- Where no subscription opens or closes, the map stays as it is. -/
theorem registered_of_closed_eq (hw : Refines w boxes) {op : HubOp}
    (hclosed : ∀ (r : Ref) (b : Subscription), boxes[r]? = some b →
      (b.follow op r).box.closed = b.box.closed) (id : UUID) (r : Ref) : r ∈ (w.hub.subscribers id).getD [] ↔
      ∃ b, boxes[r]? = some b ∧ b.transferID = id ∧ (b.follow op r).box.closed = false := by
  rw [hw.registered]
  constructor
  · rintro ⟨b, hb, hid, hopen⟩
    exact ⟨b, hb, hid, (hclosed r b hb).trans hopen⟩
  · rintro ⟨b, hb, hid, hopen⟩
    exact ⟨b, hb, hid, (hclosed r b hb).symm.trans hopen⟩

/-- A subscriber is registered for its own transfer only. -/
theorem registered_unique (hw : Refines w boxes) {id id' : UUID} {r : Ref}
    (h : r ∈ (w.hub.subscribers id).getD []) (h' : r ∈ (w.hub.subscribers id').getD []) : id = id' := by
  obtain ⟨b, hb, hid, -⟩ := (hw.registered id r).mp h
  obtain ⟨b', hb', hid', -⟩ := (hw.registered id' r).mp h'
  rw [hb, Option.some_inj] at hb'
  rw [← hid, hb', hid']

/-- The subscribers `rs` have been taken out of the map, and are then shut. -/
theorem of_shut (hw : Refines w boxes) {op : HubOp} (hop : op.opened = []) {h' : ProgressHub}
    {rs : List Ref} {map : UUID → Option (List Ref)}
    (hkept : ProgressHub.Kept rs { w.hub with subscribers := map } h')
    (hreached : ProgressHub.Reached Mailbox.shut w.hub h' rs)
    (htouch : ∀ (r : Ref) (b : Subscription), boxes[r]? = some b →
      (b.follow op r).box = if r ∈ rs then b.box.shut else b.box)
    (hmap : ∀ id r, r ∈ (map id).getD [] ↔ r ∉ rs ∧ r ∈ (w.hub.subscribers id).getD [])
    (hsets : ∀ id subs, map id = some subs → subs ≠ [] ∧ subs.Nodup) :
    Refines (w.withHub h') (advance op boxes) := by
  refine hw.of_reached hop hkept.size (hkept.known hw.known) hkept.others hreached htouch
    (fun id r => ?_) (fun id subs hsubs => ?_)
  · rw [hkept.subscribers]
    show r ∈ (map id).getD [] ↔ _
    rw [hmap, hw.registered]
    constructor
    · rintro ⟨hr, b, hb, hid, hopen⟩
      refine ⟨b, hb, hid, ?_⟩
      rw [htouch r b hb, if_neg hr]
      exact hopen
    · rintro ⟨b, hb, hid, hopen⟩
      rw [htouch r b hb] at hopen
      split at hopen
      · cases hopen
      · rename_i hr
        exact ⟨hr, b, hb, hid, hopen⟩
  · rw [hkept.subscribers] at hsubs
    exact hsets id subs hsubs

/-- The hub is not touched, and no mailbox changes. -/
theorem of_same (hw : Refines w boxes) {op : HubOp} (hop : op.opened = [])
    (hsame : ∀ (r : Ref) (b : Subscription), boxes[r]? = some b → (b.follow op r).box = b.box) :
    Refines (w.withHub w.hub) (advance op boxes) := by
  have hnone : ProgressHub.Reached (fun m => m) w.hub w.hub [] :=
    fun _ hr => absurd hr List.not_mem_nil
  refine hw.of_reached hop rfl hw.known (fun _ _ => rfl) hnone (fun r b hb => ?_)
    (hw.registered_of_closed_eq fun r b hb => ?_) hw.sets
  · rw [hsame r b hb, if_neg List.not_mem_nil]
  · rw [hsame r b hb]

theorem publish (hw : Refines w boxes) (id : UUID) (progress : EnrichedProgress) :
    (HubWorld.step (.publish id progress) w).Ends
      fun w' => Refines w' (advance (.publish id progress) boxes) := by
  have hoffer : ∀ m : ProgressBox, m.closed = true → m.step (.offer progress) = m :=
    fun m hm => offer_of_closed hm progress
  have hfollow := hw.follow_of_transfer (fun r id' => HubOp.toward_publish r id id' progress) hoffer
  have hclosed : ∀ (r : Ref) (b : Subscription), boxes[r]? = some b →
      (b.follow (.publish id progress) r).box.closed = b.box.closed := by
    intro r b hb
    rw [hfollow r b hb]
    split
    · exact closed_offer _ _
    · rfl
  show ((w.hub.publish id progress).map w.withHub).Ends _
  unfold ProgressHub.publish
  cases hsubs : w.hub.subscribers id with
  | none =>
    refine hw.of_same rfl fun r b hb => ?_
    rw [hfollow r b hb, hsubs]
    exact if_neg List.not_mem_nil
  | some subs =>
    have hloop := ProgressHub.ends_each_sub (f := fun m => m.offer progress)
      (fun hm hopen => ProgressHub.sendTo_ends hm hopen progress) (hw.sets id subs hsubs).2
      (hw.open_of_subs hsubs)
    obtain ⟨h', hend, hkept, hreached⟩ := Attempt.ends_iff.mp hloop
    simp only [hend, Attempt.map_done]
    -- a publication opens and closes nothing, so the map stays as it is
    refine hw.of_reached rfl hkept.size (hkept.known hw.known) hkept.others hreached
      (fun r b hb => ?_) (fun id' r => ?_) (fun id' subs' hsubs' => ?_)
    · rw [hfollow r b hb, hsubs]
      rfl
    · rw [hkept.subscribers]
      exact hw.registered_of_closed_eq hclosed id' r
    · rw [hkept.subscribers] at hsubs'
      exact hw.sets id' subs' hsubs'

theorem closeTransfer (hw : Refines w boxes) (id : UUID) :
    (HubWorld.step (.closeTransfer id) w).Ends
      fun w' => Refines w' (advance (.closeTransfer id) boxes) := by
  have hshut : ∀ m : ProgressBox, m.closed = true → m.step .shut = m := fun m hm => shut_of_closed hm
  have hfollow := hw.follow_of_transfer (fun r id' => HubOp.toward_closeTransfer r id id') hshut
  show ((w.hub.closeTransfer id).map w.withHub).Ends _
  unfold ProgressHub.closeTransfer
  cases hsubs : w.hub.subscribers id with
  | none =>
    refine hw.of_same rfl fun r b hb => ?_
    rw [hfollow r b hb, hsubs]
    exact if_neg List.not_mem_nil
  | some subs =>
    -- the entry is deleted first; no channel is touched by that
    let h₀ : ProgressHub := { w.hub with subscribers := Function.update w.hub.subscribers id none }
    have hloop := ProgressHub.ends_each_sub (h := h₀) (f := Mailbox.shut)
      (fun hm hopen => ProgressHub.closeIfOpen_ends hm hopen) (hw.sets id subs hsubs).2
      (hw.open_of_subs hsubs)
    obtain ⟨h', hend, hkept, hreached⟩ := Attempt.ends_iff.mp hloop
    simp only [h₀] at hend
    simp only [hend, Attempt.map_done]
    have hbox : ∀ (r : Ref) (b : Subscription), boxes[r]? = some b →
        (b.follow (.closeTransfer id) r).box = if r ∈ subs then b.box.shut else b.box := by
      intro r b hb
      rw [hfollow r b hb, hsubs]
      rfl
    have hget : (w.hub.subscribers id).getD [] = subs := by rw [hsubs, Option.getD_some]
    refine hw.of_shut rfl hkept hreached hbox (fun id' r => ?_) (fun id' subs' hsubs' => ?_)
    · rw [Function.update_apply]
      split
      · rename_i hid
        -- all that was registered for the transfer has been shut
        rw [hid, hget]
        exact iff_of_false List.not_mem_nil fun h => h.1 h.2
      · rename_i hid
        refine ⟨fun hr => ⟨fun hr' => hid ?_, hr⟩, fun h => h.2⟩
        exact hw.registered_unique hr (hget.symm ▸ hr')
    · rw [Function.update_apply] at hsubs'
      split at hsubs'
      · cases hsubs'
      · exact hw.sets id' subs' hsubs'

theorem handle_of_sub (hw : Refines w boxes) {n : Nat} {b : Subscription} (hb : boxes[n]? = some b) :
    w.handles[n]? = some { sub := n, transferID := b.transferID } := by
  rw [hw.handles, List.getElem?_mapIdx, hb]
  rfl

theorem handle_of_missing (hw : Refines w boxes) {n : Nat} (hb : boxes[n]? = none) :
    w.handles[n]? = none := by
  rw [hw.handles, List.getElem?_mapIdx, hb]
  rfl

/-- There is no such subscription. -/
theorem of_missing (hw : Refines w boxes) {op : HubOp} (hopened : op.opened = []) {n : Nat}
    {mail : Mailbox.Op EnrichedProgress}
    (hop : ∀ r id, op.toward r id = if n = r then some mail else none) (hn : boxes[n]? = none) :
    Refines w (advance op boxes) := by
  refine hw.of_same hopened fun r b hb => ?_
  rw [follow_of_sub hop, if_neg]
  intro hr
  rw [List.mem_singleton.mp hr, hn] at hb
  cases hb

/-- The operation makes no difference to its subscription. -/
theorem of_idle (hw : Refines w boxes) {op : HubOp} (hopened : op.opened = []) {n : Nat}
    {mail : Mailbox.Op EnrichedProgress}
    (hop : ∀ r id, op.toward r id = if n = r then some mail else none) {b : Subscription}
    (hb : boxes[n]? = some b) (hidle : b.box.step mail = b.box) : Refines w (advance op boxes) := by
  refine hw.of_same hopened fun r b' hb' => ?_
  rw [follow_of_sub hop]
  split
  · rename_i hr
    rw [List.mem_singleton.mp hr, hb, Option.some_inj] at hb'
    rw [← hb', hidle]
  · rfl

theorem receive (hw : Refines w boxes) (n : Nat) :
    (HubWorld.step (.receive n) w).Ends fun w' => Refines w' (advance (.receive n) boxes) := by
  have htoward : ∀ r id, (HubOp.receive n).toward r id = if n = r then some .take else none :=
    fun _ _ => rfl
  cases hb : boxes[n]? with
  | none =>
    simp only [HubWorld.step, hw.handle_of_missing hb]
    exact hw.of_missing rfl htoward hb
  | some b =>
    simp only [HubWorld.step, hw.handle_of_sub hb]
    have hview : w.hub.view (Handle.mk n b.transferID).sub = some (shown b.box) := hw.views n b hb
    rcases ProgressHub.receive_cases hview with
      ⟨progress, rest, h', -, hreceive, hkept, hview'⟩ | ⟨-, hidle, hreceive⟩
    · simp only [hreceive]
      refine hw.of_reached (f := Mailbox.take) rfl hkept.size (hkept.known hw.known) hkept.others
        (fun r hr m hm => ?_) (fun r b' _ => follow_of_sub htoward r b') (fun id r => ?_)
        (fun id subs hsubs => ?_)
      · obtain rfl := List.mem_singleton.mp hr
        rw [hview, Option.some_inj] at hm
        rw [← shown_injective hm]
        exact hview'
      · rw [hkept.subscribers]
        refine hw.registered_of_closed_eq (fun r b' _ => ?_) id r
        rw [follow_of_sub htoward]
        split
        · exact Mailbox.take_closed _
        · rfl
      · rw [hkept.subscribers] at hsubs
        exact hw.sets id subs hsubs
    · have hsame := hw.of_idle rfl htoward hb hidle
      cases hclosed : b.box.closed <;> simp only [hreceive, hclosed] <;> exact hsame

/-- The new subscriber is registered for its transfer, and nothing else changes. -/
theorem mem_subscribe (hub : ProgressHub) (id id' : UUID) (r : Ref) :
    r ∈ ((hub.subscribe id).2.subscribers id').getD [] ↔
      r ∈ (hub.subscribers id').getD [] ∨ id' = id ∧ r = hub.heap.length := by
  simp only [ProgressHub.subscribe, Function.update_apply]
  split
  · rename_i hid
    rw [Option.getD_some, List.mem_append, List.mem_singleton, hid]
    simp
  · rename_i hid
    simp [hid]

theorem sets_subscribe (hw : Refines w boxes) (id id' : UUID) {subs : List Ref}
    (hsubs : (w.hub.subscribe id).2.subscribers id' = some subs) : subs ≠ [] ∧ subs.Nodup := by
  simp only [ProgressHub.subscribe, Function.update_apply] at hsubs
  split at hsubs
  · cases hsubs
    refine ⟨List.append_ne_nil_of_right_ne_nil _ (List.cons_ne_nil _ _), ?_⟩
    refine List.nodup_append.mpr ⟨?_, List.nodup_singleton _, ?_⟩
    · cases hold : w.hub.subscribers id with
      | none => exact List.nodup_nil
      | some subs => exact (hw.sets id subs hold).2
    · -- a new reference is none of those that are registered
      intro r hr r' hr' heq
      obtain ⟨b, hb, -⟩ := (hw.registered id r).mp hr
      have hlt := (List.getElem?_eq_some_iff.mp hb).1
      rw [heq, List.mem_singleton.mp hr', hw.size] at hlt
      exact Nat.lt_irrefl _ hlt
  · exact hw.sets id' subs hsubs

theorem subscribe (hw : Refines w boxes) (id : UUID) :
    (HubWorld.step (.subscribe id) w).Ends fun w' => Refines w' (advance (.subscribe id) boxes) := by
  have hsize := hw.size
  rw [advance_subscribe]
  refine Attempt.ends_iff.mpr ⟨⟨(w.hub.subscribe id).2, w.handles ++ [(w.hub.subscribe id).1]⟩, rfl,
    ?_, ?_, ?_, ?_, fun id' subs => hw.sets_subscribe id id', ?_⟩
  · simp [ProgressHub.subscribe, hw.handles, List.mapIdx_append, hsize]
  · simp [ProgressHub.subscribe, hsize]
  · intro r b hb
    rcases getElem?_snoc_eq_some.mp hb with hb | ⟨rfl, rfl⟩
    · have hr : r < w.hub.heap.length := by
        rw [hsize]
        exact (List.getElem?_eq_some_iff.mp hb).1
      have hview := hw.views r b hb
      simpa only [ProgressHub.view, ProgressHub.subscribe, List.getElem?_append_left hr] using hview
    · rw [← hsize]
      simp only [ProgressHub.subscribe, ProgressHub.view, List.getElem?_concat_length,
        Option.map_some, Option.some_inj]
      exact ProgressHub.view_fresh hw.known _ rfl rfl rfl
  · intro id' r
    rw [mem_subscribe, hw.registered, hsize]
    constructor
    · rintro (⟨b, hb, hb'⟩ | ⟨hid, hr⟩)
      · exact ⟨b, getElem?_snoc_eq_some.mpr (.inl hb), hb'⟩
      · exact ⟨_, getElem?_snoc_eq_some.mpr (.inr ⟨hr, rfl⟩), hid.symm, rfl⟩
    · rintro ⟨b, hb, hb_id, hopen⟩
      rcases getElem?_snoc_eq_some.mp hb with hb | ⟨hr, rfl⟩
      · exact .inl ⟨b, hb, hb_id, hopen⟩
      · exact .inr ⟨hb_id.symm, hr⟩
  · intro ev hev
    have hbefore := hw.known ev hev
    simp only [ProgressHub.subscribe, List.length_append, List.length_singleton]
    exact Nat.lt_succ_of_lt hbefore

theorem mem_deleteSub {subs : List Ref} (hnodup : subs.Nodup) (n r : Ref) :
    r ∈ (ProgressHub.deleteSub subs n).getD [] ↔ r ≠ n ∧ r ∈ subs := by
  rw [← hnodup.mem_erase_iff, ProgressHub.deleteSub]
  cases herase : subs.erase n with
  | nil => exact Iff.rfl
  | cons r' rest => exact Iff.rfl

theorem deleteSub_eq_some {subs subs' : List Ref} (hnodup : subs.Nodup) {n : Ref}
    (h : ProgressHub.deleteSub subs n = some subs') : subs' ≠ [] ∧ subs'.Nodup := by
  simp only [ProgressHub.deleteSub] at h
  split at h
  · cases h
  · rename_i hlength
    cases h
    refine ⟨fun hnil => hlength ?_, hnodup.erase n⟩
    rw [hnil]
    rfl

theorem unsubscribe (hw : Refines w boxes) (n : Nat) :
    (HubWorld.step (.unsubscribe n) w).Ends
      fun w' => Refines w' (advance (.unsubscribe n) boxes) := by
  have htoward : ∀ r id, (HubOp.unsubscribe n).toward r id = if n = r then some .shut else none :=
    fun _ _ => rfl
  cases hb : boxes[n]? with
  | none =>
    simp only [HubWorld.step, hw.handle_of_missing hb]
    exact hw.of_missing rfl htoward hb
  | some b =>
    simp only [HubWorld.step, hw.handle_of_sub hb]
    have hview := hw.views n b hb
    obtain ⟨sub, hsub, -, hshown⟩ := ProgressHub.exists_of_view hview
    have hflag : sub.closed = b.box.closed := congrArg ChannelView.flag hshown
    simp only [ProgressHub.unsubscribe, hsub, hflag]
    cases hclosed : b.box.closed with
    -- a second call of the closure does nothing
    | true => exact hw.of_idle rfl htoward hb (shut_of_closed hclosed)
    | false =>
      have hmem := (hw.registered b.transferID n).mpr ⟨b, hb, rfl, hclosed⟩
      -- an open subscriber is registered, so there is an entry to delete it from
      cases hsubs : w.hub.subscribers b.transferID with
      | none =>
        rw [hsubs] at hmem
        cases hmem
      | some subs =>
        rw [hsubs, Option.getD_some] at hmem
        have hnodup := (hw.sets _ subs hsubs).2
        let h₀ : ProgressHub :=
          { w.hub with
            subscribers := Function.update w.hub.subscribers b.transferID
              (ProgressHub.deleteSub subs n) }
        obtain ⟨h', hend, hkept, hview'⟩ :=
          Attempt.ends_iff.mp (ProgressHub.closeSubscriber_ends (h := h₀) hview hclosed)
        simp only [h₀] at hend
        simp only [Bool.false_eq_true, if_false, hend, Attempt.map_done]
        refine hw.of_shut rfl hkept (fun r hr m hm => ?_) (fun r b' _ => follow_of_sub htoward r b')
          (fun id' r => ?_) (fun id' subs' hsubs' => ?_)
        · obtain rfl := List.mem_singleton.mp hr
          rw [hview, Option.some_inj] at hm
          rw [← shown_injective hm]
          exact hview'
        · rw [Function.update_apply, List.mem_singleton]
          split
          · rename_i hid
            rw [mem_deleteSub hnodup, hid, hsubs, Option.getD_some]
          · rename_i hid
            refine ⟨fun hr => ⟨?_, hr⟩, fun hr => hr.2⟩
            rintro rfl
            exact hid (hw.registered_unique hr ((hw.registered _ _).mpr ⟨b, hb, rfl, hclosed⟩))
        · rw [Function.update_apply] at hsubs'
          split at hsubs'
          · exact deleteSub_eq_some hnodup hsubs'
          · exact hw.sets id' subs' hsubs'

/-- Every operation is done, and the hub shows the subscriptions after it. -/
theorem step (hw : Refines w boxes) (op : HubOp) :
    (HubWorld.step op w).Ends fun w' => Refines w' (advance op boxes) := by
  cases op with
  | subscribe id => exact hw.subscribe id
  | unsubscribe n => exact hw.unsubscribe n
  | publish id progress => exact hw.publish id progress
  | closeTransfer id => exact hw.closeTransfer id
  | receive n => exact hw.receive n

/-- And so is every sequence of operations. -/
theorem run (hw : Refines w boxes) (ops : List HubOp) :
    (HubWorld.run ops w).Ends fun w' => Refines w' (ops.foldl (fun boxes op => advance op boxes) boxes) := by
  induction ops generalizing w boxes with
  | nil => exact hw
  | cons op ops ih => exact (hw.step op).bind fun w' hw' => ih hw'

end Refines

end Katapult
