/-
  Katapult.Controller.Reconciliation

  How many transfers a VolumeTransfer can have in flight.  The reconciler looks
  at one thing before it creates a transfer, the identifier in the status it has
  just read, and it cancels what that identifier names before it lets the object
  go.  `Track` says what is true when that is good enough: everything in flight
  for the object is the one transfer the status is known to name.  Every part of
  the reconciler keeps it, as long as no step leaves a transfer behind that the
  status does not name (`Remembers`), and for the finalizer, as long as
  cancellations take effect (`CancelsLand`).
-/

import Katapult.Controller.ApiServer

namespace Katapult

open Effect

/-- No two transfers in flight for `owner`. -/
def Store.OneActive (s : Store) (owner : String) : Prop :=
  ∀ id id', s.Active owner id → s.Active owner id' → id = id'

/-- The status of the object is known to name `tid`, and all that is in flight
    for it is `live`. -/
structure Track (api : ApiServer) (key : NamespacedName) (tid : String) (live : Option UUID)
    (s : api.State × Store) : Prop where
  names : ∀ vt, api.object s.1 = some vt → vt.key = key ∧ vt.status.transferID = tid
  covers : ∀ id, s.2.Active key.createdBy id → live = some id

/-- What the reconciler relies on: the others end transfers of the object, and
    do not write its status. -/
def Rely (api : ApiServer) (owner : String) (s s' : api.State × Store) : Prop :=
  s'.1 = s.1 ∧ s.2.Shrinks owner s'.2

/-- What every step of the reconciler guarantees; where cancellations land, an
    object under deletion is updated only when nothing is in flight for it. -/
structure Guarantee (api : ApiServer) (owner : String) (lands : Prop) (s : api.State × Store)
    (ev : Ev ReconcilerOp ReconcilerOp.Ans) (s' : api.State × Store) : Prop where
  kept : s.2.Kept s'.2
  one : s'.2.OneActive owner
  released : lands → ∀ sent, ev.1 = .inl (.update sent) → sent.deletionTimestamp.isSome = true →
    ∀ id, ¬ s'.2.Active owner id

/-- Between two rounds, whatever is in flight is what the status names. -/
def Tracked [UUIDText] (api : ApiServer) (key : NamespacedName) (s : api.State × Store) : Prop :=
  ∃ tid live, Track api key tid live s ∧ ∀ id, live = some id → tid = id.text

section Steps

variable {api : ApiServer} {key : NamespacedName} {tid : String} {live : Option UUID}
variable {s s' : api.State × Store}

theorem Track.oneActive (h : Track api key tid live s) : s.2.OneActive key.createdBy := by
  intro id id' hact hact'
  have hid := h.covers id hact
  have hid' := h.covers id' hact'
  rw [hid] at hid'
  exact Option.some.inj hid'

theorem Track.stable (h : Track api key tid live s) (hR : Rely api key.createdBy s s') :
    Track api key tid live s' := by
  refine ⟨fun vt hvt => ?_, fun id hact => h.covers id (hR.2 id hact)⟩
  rw [hR.1] at hvt
  exact h.names vt hvt

/-- A call of the client that is no status update. -/
theorem Track.k8s (h : Track api key tid live s) (c : api.Choice) (op : K8sCall)
    (hop : ∀ sent, op ≠ .statusUpdate sent) :
    Track api key tid live ((api.exec c op s.1).2, s.2) := by
  refine ⟨fun vt' hvt' => ?_, h.covers⟩
  obtain ⟨vt, hvt, hkey, hstatus⟩ := api.persists c op s.1 vt' hvt'
  obtain ⟨hname, htid⟩ := h.names vt hvt
  exact ⟨hkey.trans hname, by rw [hstatus hop, htid]⟩

/-- A status update that names the same transfer. -/
theorem Track.statusUpdate (h : Track api key tid live s) (c : api.Choice) {sent : VolumeTransfer}
    (hsent : sent.status.transferID = tid) :
    Track api key tid live ((api.exec c (.statusUpdate sent) s.1).2, s.2) := by
  refine ⟨fun vt' hvt' => ?_, h.covers⟩
  obtain ⟨vt, hvt, hkey, -⟩ := api.persists c (.statusUpdate sent) s.1 vt' hvt'
  obtain ⟨hname, htid⟩ := h.names vt hvt
  refine ⟨hkey.trans hname, ?_⟩
  generalize hanswer : (api.exec c (.statusUpdate sent) s.1).1 = r
  rcases r with err | _
  · rw [api.statusUpdate_error c sent s.1 err vt vt' hanswer hvt hvt', htid]
  · rw [api.statusUpdate_ok c sent s.1 vt' hanswer hvt']
    exact hsent

/-- The status update that stores the identifier of a new transfer. -/
theorem Track.statusUpdate_new [UUIDText] {id : UUID} (h : Track api key "" (some id) s)
    {c : api.Choice × Env} {sent : VolumeTransfer} (hsent : sent.status.transferID = id.text)
    (hok : Remembers api key.createdBy c (.inl (.statusUpdate sent)) s) :
    Tracked api key ((api.exec c.1 (.statusUpdate sent) s.1).2, s.2) := by
  have hkeys : ∀ vt', api.object (api.exec c.1 (.statusUpdate sent) s.1).2 = some vt' →
      ∃ vt, api.object s.1 = some vt ∧ vt'.key = key := by
    intro vt' hvt'
    obtain ⟨vt, hvt, hkey, -⟩ := api.persists c.1 (.statusUpdate sent) s.1 vt' hvt'
    exact ⟨vt, hvt, hkey.trans (h.names vt hvt).1⟩
  generalize hanswer : (api.exec c.1 (.statusUpdate sent) s.1).1 = r
  rcases r with err | _
  · cases hobject : api.object s.1 with
    | none =>
      -- the object is gone: there is no status to remember anything
      refine ⟨id.text, some id, ⟨fun vt' hvt' => ?_, h.covers⟩, fun _ hid => by cases hid; rfl⟩
      obtain ⟨vt, hvt, -⟩ := hkeys vt' hvt'
      rw [hobject] at hvt
      cases hvt
    | some vt =>
      -- only an identifier of a transfer that has ended can be lost
      have htid := (h.names vt hobject).2
      have hended := hok err hanswer vt hobject (by
        rw [htid, hsent]
        exact (UUID.text_ne_empty id).symm)
      refine ⟨"", none, ⟨fun vt' hvt' => ?_, fun id' hact => ?_⟩, nofun⟩
      · obtain ⟨_, -, hname⟩ := hkeys vt' hvt'
        rw [api.statusUpdate_error c.1 sent s.1 err vt vt' hanswer hobject hvt']
        exact ⟨hname, htid⟩
      · have hid := h.covers id' hact
        cases hid
        exact absurd hsent (hended id hact)
  · refine ⟨id.text, some id, ⟨fun vt' hvt' => ?_, h.covers⟩, fun _ hid => by cases hid; rfl⟩
    obtain ⟨_, -, hname⟩ := hkeys vt' hvt'
    rw [api.statusUpdate_ok c.1 sent s.1 vt' hanswer hvt']
    exact ⟨hname, hsent⟩

/-- A status that is the text of no identifier names nothing in flight. -/
theorem live_eq_none [UUIDText] {live : Option UUID} {tid : String}
    (hlive : ∀ id, live = some id → tid = id.text) (hnot : ∀ id : UUID, tid ≠ id.text) :
    live = none := by
  cases live with
  | none => rfl
  | some id => exact absurd (hlive id rfl) (hnot id)

theorem Tracked.oneActive [UUIDText] (h : Tracked api key s) : s.2.OneActive key.createdBy := by
  obtain ⟨tid, live, htrack, -⟩ := h
  exact htrack.oneActive

end Steps

/-! ## The parts of the reconciler -/

section Parts

variable {api : ApiServer} {key : NamespacedName} {lands : Prop}
variable {ok : api.Choice × Env → ReconcilerOp → api.State × Store → Prop}
variable {tid : String} {live : Option UUID} {s : api.State × Store} {α : Type}

/-- `Keeps p Q s`: started in `s`, and whatever the others do, every step of `p`
    meets the guarantee, and `Q` holds where `p` ends. -/
abbrev Keeps (api : ApiServer) (key : NamespacedName) (lands : Prop)
    (ok : api.Choice × Env → ReconcilerOp → api.State × Store → Prop) (p : Reconciler α)
    (Q : α → api.State × Store → Prop) (s : api.State × Store) : Prop :=
  Prog.rg (api.exec.sum exec) ok (Rely api key.createdBy) (Guarantee api key.createdBy lands) p Q s

/-- Engine code that obeys a monitor, with an assertion about the store for every
    state of it. -/
theorem keeps_engine {μ : Type} {δ : μ → CallEv → μ} {Φ : μ → Call → Prop} {Ψ : α → μ → Prop}
    {m : μ} {p : Engine α} (B : μ → Store → Prop)
    (hshrinks : ∀ m a b, B m a → a.Shrinks key.createdBy b → B m b)
    (hone : ∀ m a, B m a → a.OneActive key.createdBy)
    (hop : ∀ m op, Φ m op → ∀ s', s'.1 = s.1 → B m s'.2 → ∀ c, ok c (.inr op) s' →
      B (δ m ⟨op, (exec c.2 op s'.2).1⟩) (exec c.2 op s'.2).2)
    (hp : Prog.Obeys δ Φ Ψ m p) (hB : B m s.2) :
    Keeps api key lands ok p.inr (fun a s' => s'.1 = s.1 ∧ ∃ m, Ψ a m ∧ B m s'.2) s := by
  refine Prog.rg_inr_of_obeys (fun m s' => s'.1 = s.1 ∧ B m s'.2) ?_ ?_ ?_ hp ⟨rfl, hB⟩
  · rintro m a b ⟨hsame, hm⟩ hR
    exact ⟨hR.1.trans hsame, hshrinks m a.2 b.2 hm hR.2⟩
  · rintro m op hperm s' ⟨hsame, hm⟩ c hc
    have hm' := hop m op hperm s' hsame hm c hc
    exact ⟨⟨kept_exec c.2 op s'.2, hone _ _ hm', fun _ _ => nofun⟩, hsame, hm'⟩
  · rintro a m s' hend ⟨hsame, hm⟩
    exact ⟨hsame, m, hend, hm⟩

/-- Engine code that only ends transfers. -/
theorem keeps_settling {p : Engine α} (hp : p.All Call.Settling) (h : Track api key tid live s) :
    Keeps api key lands ok p.inr (fun _ => Track api key tid live) s := by
  have hobeys : Prog.Obeys (fun _ _ => ()) (fun _ op => op.Settling) (fun _ _ => True) () p :=
    Prog.Obeys.of_forall (hp.mono fun _ hop _ => hop)
  refine Prog.rg_mono (keeps_engine (fun _ a => ∀ id, a.Active key.createdBy id → live = some id)
    (fun _ a b ha hs id hact => ha id (hs id hact)) ?_ ?_ hobeys h.covers) ?_
  · intro _ a ha id id' hact hact'
    exact Option.some.inj ((ha id hact).symm.trans (ha id' hact'))
  · intro _ op hop s' _ ha c _ id hact
    exact ha id (hop.shrinks _ c.2 s'.2 id hact)
  · rintro _ s' ⟨hsame, _, -, ha⟩
    exact ⟨fun vt hvt => h.names vt (hsame ▸ hvt), ha⟩

theorem keeps_setCondition {vt : VolumeTransfer} {condType reason message : String}
    {status : ConditionStatus} {f : VolumeTransfer → Reconciler α}
    {Q : α → api.State × Store → Prop} (h : Track api key tid live s)
    (hf : ∀ vt' s', vt'.status.transferID = vt.status.transferID → Track api key tid live s' →
      Keeps api key lands ok (f vt') Q s') :
    Keeps api key lands ok (setCondition vt condType status reason message >>= f) Q s := by
  refine Prog.rg_bind ?_
  unfold setCondition
  have hnow : (Engine.timeNow).All Call.Settling :=
    Prog.all_perform.mpr (Call.OffTable.settling trivial)
  refine Prog.rg_bind (Prog.rg_mono (keeps_settling hnow h) ?_)
  intro now s' h'
  exact hf _ s' rfl h'

/-- An update of the object leaves its status alone. -/
theorem keeps_update {sent : VolumeTransfer} {f : Except Err VolumeTransfer → Reconciler α}
    {Q : α → api.State × Store → Prop} (h : Track api key tid live s)
    (hreleased : lands → sent.deletionTimestamp.isSome = true → Track api key tid none s)
    (hf : ∀ r s', (∀ vt', r = .ok vt' → vt'.key = sent.key ∧ vt'.status.transferID = tid) →
      Track api key tid live s' → Keeps api key lands ok (f r) Q s') :
    Keeps api key lands ok (Reconciler.update sent >>= f) Q s := by
  refine Prog.rg_perform (fun s => Track api key tid live s ∧
    (lands → sent.deletionTimestamp.isSome = true → Track api key tid none s)) ?_ ⟨h, hreleased⟩ ?_
  · rintro a b ⟨ha, hnone⟩ hR
    exact ⟨ha.stable hR, fun hl hdel => (hnone hl hdel).stable hR⟩
  rintro s ⟨h, hnone⟩ c -
  have hkind : ∀ sent', K8sCall.update sent ≠ .statusUpdate sent' := by
    intro sent' hsame
    cases hsame
  have h' := h.k8s c.1 (.update sent) hkind
  refine ⟨⟨fun _ t ht => ⟨t, ht, rfl⟩, h'.oneActive, ?_⟩, hf _ _ ?_ h'⟩
  · intro hl sent' hsent hdel id hact
    cases hsent
    exact nomatch (hnone hl hdel).covers id hact
  · intro vt' hvt'
    obtain ⟨hkey, vt, hvt, hstatus⟩ := api.update_ok c.1 sent s.1 vt' hvt'
    exact ⟨hkey, by rw [hstatus, (h.names vt hvt).2]⟩

/-- A status update that goes on naming the same transfer. -/
theorem keeps_statusUpdate {sent : VolumeTransfer} {f : Except Err Unit → Reconciler α}
    {Q : α → api.State × Store → Prop} (h : Track api key tid live s)
    (hsent : sent.status.transferID = tid)
    (hf : ∀ r s', Track api key tid live s' → Keeps api key lands ok (f r) Q s') :
    Keeps api key lands ok (Reconciler.statusUpdate sent >>= f) Q s := by
  refine Prog.rg_perform (Track api key tid live) (fun _ _ => Track.stable) h ?_
  intro s h c _
  have h' := h.statusUpdate c.1 hsent
  exact ⟨⟨fun _ t ht => ⟨t, ht, rfl⟩, h'.oneActive, fun _ _ => nofun⟩, hf _ _ h'⟩

variable [UUIDText]

/-- The last step of the branch for deletion: the finalizer goes. -/
theorem keeps_release {vt : VolumeTransfer} (h : Track api key tid live s)
    (hlive : ∀ id, live = some id → tid = id.text) (hnone : lands → Track api key tid none s) :
    Keeps api key lands ok (do
      match ← Reconciler.update (vt.removeFinalizer finalizerName) with
      | .error err => return Except.error err
      | .ok _ => return .ok ({} : ReconcileResult)) (fun _ => Tracked api key) s := by
  refine keeps_update h (fun hl _ => hnone hl) ?_
  rintro (err | vt') s' - h'
  · exact ⟨tid, live, h', hlive⟩
  · exact ⟨tid, live, h', hlive⟩

theorem keeps_reconcilePoll {vt : VolumeTransfer} (h : Track api key vt.status.transferID live s)
    (hlive : ∀ id, live = some id → vt.status.transferID = id.text) :
    Keeps api key lands ok (Orchestrator.reconcilePoll vt) (fun _ => Tracked api key) s := by
  unfold Orchestrator.reconcilePoll
  split
  · exact ⟨_, live, h, hlive⟩
  rename_i transferID hparse
  have hget : (Orchestrator.getTransfer transferID).All Call.Settling :=
    Prog.all_perform.mpr (Call.settling_getTransferByID transferID)
  refine Prog.rg_bind (Prog.rg_mono (keeps_settling hget h) ?_)
  rintro (err | (_ | t)) s' h'
  · exact ⟨_, live, h', hlive⟩
  · refine keeps_setCondition h' fun vt' s' hstatus h' => ?_
    refine keeps_statusUpdate h' hstatus fun r s' h' => ?_
    exact ⟨_, live, h', hlive⟩
  · refine keeps_setCondition h' fun vt' s' hstatus h' => ?_
    refine keeps_statusUpdate h' hstatus fun r s' h' => ?_
    rcases r with err | _
    · exact ⟨_, live, h', hlive⟩
    · dsimp only
      split
      · exact ⟨_, live, h', hlive⟩
      · exact ⟨_, live, h', hlive⟩

variable (hok : ∀ c op s, ok c op s → Remembers api key.createdBy c op s ∧
  (lands → CancelsLand api key.createdBy c op s))

include hok

/-- A creation that has returned leaves in flight what it answers. -/
theorem keeps_createTransfer (o : Orchestrator) {req : CreateTransferRequest}
    (hreq : req.createdBy = key.createdBy) (h : Track api key tid none s) :
    Keeps api key lands ok (o.createTransfer req).inr (fun result s' =>
      match result with
      | .ok resp => Track api key tid (some resp.transferID) s'
      | .error _ => Track api key tid none s') s := by
  have hobeys := o.creation_createTransfer req
  rw [hreq] at hobeys
  refine Prog.rg_mono (keeps_engine (Creation.Covers key.createdBy)
    (fun _ _ _ => Creation.Covers.of_shrinks) ?_ ?_ hobeys ?_) ?_
  · intro m a ha id id' hact hact'
    exact Creation.live.inj ((ha id hact).symm.trans (ha id' hact'))
  · intro m op hperm s' _ ha c hc
    exact ha.step hperm (hok c (.inr op) s' hc).1
  · exact fun id hact => nomatch h.covers id hact
  · rintro (err | resp) s' ⟨hsame, m, hreturns, ha⟩
    · refine ⟨fun vt hvt => h.names vt (hsame ▸ hvt), fun id hact => ?_⟩
      exact absurd (ha id hact) (hreturns id)
    · refine ⟨fun vt hvt => h.names vt (hsame ▸ hvt), fun id hact => ?_⟩
      have hm : m = .live resp.transferID := hreturns
      have hlive := ha id hact
      rw [hm] at hlive
      exact congrArg some (Creation.live.inj hlive)

/-- A cancellation on behalf of an object under deletion, where cancellations
    land, leaves nothing in flight. -/
theorem keeps_cancelTransfer (o : Orchestrator) {id : UUID} {vt : VolumeTransfer}
    (hobject : api.object s.1 = some vt) (hdel : vt.deletionTimestamp.isSome = true)
    (h : Track api key tid (some id) s) :
    Keeps api key lands ok (o.cancelTransfer id).inr (fun _ s' =>
      Track api key tid (some id) s' ∧ (lands → Track api key tid none s')) s := by
  have hobeys := o.cancellation_cancelTransfer id
  refine Prog.rg_mono (keeps_engine (Cancellation.Covers lands key.createdBy id)
    (fun _ _ _ => Cancellation.Covers.of_shrinks) ?_ ?_ hobeys ?_) ?_
  · intro m a ha id₁ id₂ hact hact'
    exact (ha.1 id₁ hact).trans (ha.1 id₂ hact').symm
  · intro m op hperm s' hsame ha c hc
    refine ha.step hperm fun hl => (hok c (.inr op) s' hc).2 hl ⟨vt, ?_, hdel⟩
    rw [hsame]
    exact hobject
  · exact ⟨fun id' hact => (Option.some.inj (h.covers id' hact)).symm, fun _ => nofun⟩
  · rintro _ s' ⟨hsame, m, hsettled, ha⟩
    have hnames : ∀ vt, api.object s'.1 = some vt → vt.key = key ∧ vt.status.transferID = tid :=
      fun vt hvt => h.names vt (hsame ▸ hvt)
    refine ⟨⟨hnames, fun id' hact => ?_⟩, fun hl => ⟨hnames, fun id' hact => ?_⟩⟩
    · rw [ha.1 id' hact]
    · exact absurd hact (ha.2 hl hsettled id')

theorem keeps_reconcileDeletion (o : Orchestrator) {vt : VolumeTransfer}
    (hobject : api.object s.1 = some vt) (hdel : vt.deletionTimestamp.isSome = true)
    (h : Track api key vt.status.transferID live s)
    (hlive : ∀ id, live = some id → vt.status.transferID = id.text) :
    Keeps api key lands ok (o.reconcileDeletion vt) (fun _ => Tracked api key) s := by
  unfold Orchestrator.reconcileDeletion
  split
  · dsimp only
    split
    · split
      · -- what the status names is always an identifier, so nothing was in flight
        rename_i err hparse
        have hnot : ∀ id : UUID, vt.status.transferID ≠ id.text := by
          intro id hname
          rw [hname, UUID.parse_text] at hparse
          cases hparse
        obtain rfl := live_eq_none hlive hnot
        exact keeps_release h hlive fun _ => h
      · rename_i transferID hparse
        refine Prog.rg_bind ?_
        cases live with
        | none =>
          -- a cancellation, of whatever transfer, starts none
          have hsettling : (o.cancelTransfer transferID).All Call.Settling :=
            Prog.Obeys.all (fun _ _ => Cancellation.Permits.settling)
              (o.cancellation_cancelTransfer transferID)
          refine Prog.rg_mono (keeps_settling hsettling h) fun _ s' h' => ?_
          exact keeps_release h' hlive fun _ => h'
        | some id =>
          have hid : transferID = id := by
            rw [hlive id rfl, UUID.parse_text] at hparse
            exact (Except.ok.inj hparse).symm
          subst hid
          refine Prog.rg_mono (keeps_cancelTransfer hok o hobject hdel h) ?_
          rintro _ s' ⟨h', hnone⟩
          exact keeps_release h' hlive hnone
    · -- the status names no transfer
      rename_i htid
      have hnot : ∀ id : UUID, vt.status.transferID ≠ id.text := by
        intro id hname
        exact UUID.text_ne_empty id (hname.symm.trans (not_ne_iff.mp htid))
      obtain rfl := live_eq_none hlive hnot
      exact keeps_release h hlive fun _ => h
  · exact ⟨_, live, h, hlive⟩

/-- The status update that remembers a new transfer. -/
theorem keeps_statusUpdate_new {id : UUID} {sent : VolumeTransfer}
    {f : Except Err Unit → Reconciler α} {Q : α → api.State × Store → Prop}
    (h : Track api key "" (some id) s) (hsent : sent.status.transferID = id.text)
    (hf : ∀ r s', Tracked api key s' → Keeps api key lands ok (f r) Q s') :
    Keeps api key lands ok (Reconciler.statusUpdate sent >>= f) Q s := by
  refine Prog.rg_perform (Track api key "" (some id)) (fun _ _ => Track.stable) h ?_
  intro s h c hc
  have h' := h.statusUpdate_new hsent (hok c _ s hc).1
  exact ⟨⟨fun _ t ht => ⟨t, ht, rfl⟩, h'.oneActive, fun _ _ => nofun⟩, hf _ _ h'⟩

theorem keeps_reconcileCreate (o : Orchestrator) {vt : VolumeTransfer} (hkey : vt.key = key)
    (htid : vt.status.transferID = "") (h : Track api key "" none s) :
    Keeps api key lands ok (o.reconcileCreate vt) (fun _ => Tracked api key) s := by
  unfold Orchestrator.reconcileCreate
  have hreq : vt.createRequest.createdBy = key.createdBy := by rw [← hkey]; rfl
  refine Prog.rg_bind (Prog.rg_mono (keeps_createTransfer hok o hreq h) ?_)
  rintro (err | resp) s' h'
  · refine keeps_setCondition h' fun vt' s' hstatus h' => ?_
    refine keeps_statusUpdate h' (hstatus.trans htid) fun r s' h' => ?_
    exact ⟨"", none, h', nofun⟩
  · refine keeps_setCondition h' fun vt' s' hstatus h' => ?_
    refine keeps_statusUpdate_new hok h' hstatus fun r s' h' => ?_
    rcases r with err | _
    · exact h'
    · exact h'

theorem keeps_reconcileLive (o : Orchestrator) {vt : VolumeTransfer} (hkey : vt.key = key)
    (hdel : vt.deletionTimestamp.isSome = false) (h : Track api key vt.status.transferID live s)
    (hlive : ∀ id, live = some id → vt.status.transferID = id.text) :
    Keeps api key lands ok (o.reconcileLive vt) (fun _ => Tracked api key) s := by
  have hcontinue : ∀ vt' s', vt'.key = key → vt'.status.transferID = vt.status.transferID →
      Track api key vt.status.transferID live s' →
      Keeps api key lands ok (if vt'.status.transferID = "" then o.reconcileCreate vt'
        else Orchestrator.reconcilePoll vt') (fun _ => Tracked api key) s' := by
    intro vt' s' hkey' hstatus h'
    split
    · rename_i htid
      have hnot : ∀ id : UUID, vt.status.transferID ≠ id.text := by
        intro id hname
        exact UUID.text_ne_empty id (hname.symm.trans (hstatus.symm.trans htid))
      obtain rfl := live_eq_none hlive hnot
      rw [← hstatus, htid] at h'
      exact keeps_reconcileCreate hok o hkey' htid h'
    · rw [← hstatus] at h' hlive
      exact keeps_reconcilePoll h' hlive
  unfold Orchestrator.reconcileLive
  dsimp only
  split
  · exact hcontinue vt s hkey rfl h
  · have hadded : (vt.addFinalizer finalizerName).deletionTimestamp = vt.deletionTimestamp := by
      unfold VolumeTransfer.addFinalizer
      split <;> rfl
    have hname : (vt.addFinalizer finalizerName).key = key := by
      unfold VolumeTransfer.addFinalizer
      split <;> exact hkey
    refine keeps_update h (fun _ hdel' => ?_) ?_
    · rw [hadded, hdel] at hdel'
      cases hdel'
    rintro (err | vt') s' hsent h'
    · exact ⟨_, live, h', hlive⟩
    · obtain ⟨hkey', hstatus⟩ := hsent vt' rfl
      exact hcontinue vt' s' (hkey'.trans hname) hstatus h'

/-- One round keeps track. -/
theorem keeps_reconcile (o : Orchestrator) (h : Tracked api key s) :
    Keeps api key lands ok (o.reconcile key) (fun _ => Tracked api key) s := by
  obtain ⟨tid, live, h, hlive⟩ := h
  unfold Orchestrator.reconcile
  refine Prog.rg_perform (Track api key tid live) (fun _ _ => Track.stable) h ?_
  intro s h c hc
  have hkind : ∀ sent', K8sCall.get key ≠ .statusUpdate sent' := by
    intro sent' hsame
    cases hsame
  have h' := h.k8s c.1 (.get key) hkind
  refine ⟨⟨fun _ t ht => ⟨t, ht, rfl⟩, h'.oneActive, fun _ _ => nofun⟩, ?_⟩
  have hcurrent := (hok c _ s hc).1
  simp only [Machine.sum]
  generalize hanswer : (api.exec c.1 (.get key) s.1).1 = r
  rcases r with err | (_ | vt)
  · exact ⟨tid, live, h', hlive⟩
  · exact ⟨tid, live, h', hlive⟩
  · -- the object is read as it is stored
    have hobject := hcurrent vt hanswer
    obtain ⟨hkey, rfl⟩ := h'.names vt hobject
    dsimp only
    split
    · rename_i hdel
      exact keeps_reconcileDeletion hok o hobject hdel h' hlive
    · rename_i hdel
      exact keeps_reconcileLive hok o hkey (by simpa using hdel) h' hlive

end Parts

/-! ## The whole system -/

section System

variable {ι : Type} {api : ApiServer} {key : NamespacedName} {lands : Prop}
variable {ok : api.Choice × Env → ReconcilerOp → api.State × Store → Prop}
variable {others : ι → Request} {n : Nat} {s₀ : api.State × Store}

def systemRely (api : ApiServer) (owner : String) :
    Option ι → api.State × Store → api.State × Store → Prop
  | none, s, s' => Rely api owner s s'
  | some _, s, s' => s.2.Kept s'.2

def systemGuarantee (api : ApiServer) (owner : String) (lands : Prop) : Option ι →
    api.State × Store → Ev ReconcilerOp ReconcilerOp.Ans → api.State × Store → Prop
  | none, s, ev, s' => Guarantee api owner lands s ev s'
  | some _, s, _, s' => s.2.Kept s'.2 ∧ Rely api owner s s'

theorem systemRely_refl {owner : String} (i : Option ι) (s : api.State × Store) :
    systemRely api owner i s s := by
  cases i with
  | none => exact ⟨rfl, fun _ hact => hact⟩
  | some i => exact fun _ t ht => ⟨t, ht, rfl⟩

theorem systemRely_trans {owner : String} (i : Option ι) (a b c : api.State × Store)
    (hab : systemRely api owner i a b) (hbc : systemRely api owner i b c) :
    systemRely api owner i a c := by
  cases i with
  | none => exact ⟨hbc.1.trans hab.1, fun id hact => hab.2 id (hbc.2 id hact)⟩
  | some i => exact hab.trans hbc

theorem systemRely_of_guarantee {owner : String} (i j : Option ι) (s : api.State × Store)
    (ev : Ev ReconcilerOp ReconcilerOp.Ans) (s' : api.State × Store) (hne : i ≠ j)
    (h : systemGuarantee api owner lands i s ev s') : systemRely api owner j s s' := by
  cases j with
  | none =>
    cases i with
    | none => exact absurd rfl hne
    | some i => exact h.2
  | some j =>
    cases i with
    | none => exact h.kept
    | some i => exact h.1

variable [UUIDText]

/-- A request that creates nothing for the owner only ends its transfers. -/
theorem rg_request (o : Orchestrator) {owner : String} {request : Request}
    (hrequest : ¬ request.CreatesFor owner) (s : api.State × Store) :
    Prog.rg (api.exec.sum exec) (fun _ _ _ => True) (fun s s' => s.2.Kept s'.2)
      (fun s _ s' => s.2.Kept s'.2 ∧ Rely api owner s s') (o.serve request).inr
      (fun _ _ => True) s := by
  by_cases hcreates : request.creates = true
  · cases request with
    | createTransfer req =>
      -- what it creates is another owner's
      have hobeys : Prog.Obeys Creation.follow (Creation.Permits req.createdBy) (fun _ _ => True)
          .unborn (o.serve (.createTransfer req)) :=
        Prog.Obeys.bind ((o.creation_createTransfer req).mono fun _ _ _ => trivial)
      refine Prog.rg_inr_of_obeys (fun m s => m.Holds req.createdBy s.2)
        (fun _ _ _ => Creation.Holds.of_kept) ?_ (fun _ _ _ _ _ => trivial) hobeys nofun
      intro m op hperm s hm c _
      exact ⟨⟨kept_exec c.2 op s.2, rfl, hm.shrinks hrequest hperm⟩, hm.step hperm⟩
    | cancelTransfer id => cases hcreates
    | handleProgress report => cases hcreates
  · -- the others only write final states
    have hobeyed := o.obeyed_serve {} request
    rw [Bool.not_eq_true] at hcreates
    rw [hcreates] at hobeyed
    have hsettling : (o.serve request).All Call.Settling :=
      Prog.Obeys.all (fun _ _ => Copy.Permits.settling) hobeyed
    have hobeys : Prog.Obeys (fun _ _ => ()) (fun _ op => op.Settling) (fun _ _ => True) ()
        (o.serve request) :=
      Prog.Obeys.of_forall (hsettling.mono fun _ hop _ => hop)
    refine Prog.rg_inr_of_obeys (fun _ _ => True) (fun _ _ _ _ _ => trivial) ?_
      (fun _ _ _ _ _ => trivial) hobeys trivial
    intro _ op hop s _ c _
    exact ⟨⟨kept_exec c.2 op s.2, rfl, hop.shrinks owner c.2 s.2⟩, trivial⟩

theorem rg_reconciling (hok : ∀ c op s, ok c op s → Remembers api key.createdBy c op s ∧
    (lands → CancelsLand api key.createdBy c op s)) (o : Orchestrator)
    (hothers : ∀ i, ¬ (others i).CreatesFor key.createdBy) (hs₀ : Unserved api key s₀)
    (i : Option ι) :
    Prog.rg (api.exec.sum exec) (fun c op s => i = none → ok c op s)
      (systemRely api key.createdBy i) (systemGuarantee api key.createdBy lands i)
      (o.reconciling key n others i) (fun _ _ => True) s₀ := by
  cases i with
  | none =>
    have htracked : Tracked api key s₀ :=
      ⟨"", none, ⟨hs₀.unnamed, fun id hact => absurd hact (hs₀.quiet id)⟩, nofun⟩
    refine Prog.rg_mono (Prog.rg_times (Tracked api key) n (fun s hs => ?_) htracked)
      fun _ _ _ => trivial
    exact keeps_reconcile (fun c op s hc => hok c op s (hc rfl)) o hs
  | some i =>
    refine Prog.rg_bind (Prog.rg_mono (Prog.rg_weaken ?_ (rg_request o (hothers i) s₀))
      fun _ _ _ => trivial)
    exact fun _ _ _ _ => trivial

end System

end Katapult
