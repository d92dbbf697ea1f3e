/-
  Katapult.Transfer.Outcome

  How a call of each of the three operations can end, as a relation between
  what its transfer looked like before and after.  Everything about sequential
  runs is read off these outcomes; the programs themselves are walked here and
  nowhere else.
-/

import Katapult.Transfer.View

namespace Katapult

open Effect Channel

/-- Cleanup has been run for a transfer. -/
structure Cleaned (v : RowView) (n : Tally) : Prop where
  revoked : n.revoked = true
  source : v.sourceCluster ∈ n.cancels
  destination : v.destinationCluster ∈ n.cancels
  objects : v.strategy = .s3 → n.deleted = true

/-- Nothing new about transfer commands. -/
structure SameCommands (n n' : Tally) : Prop where
  accepted : n'.accepted = n.accepted
  refused : n'.refused = n.refused

/-- Nothing has happened to the transfer; at most a statement has failed. -/
structure Unmoved (m m' : View) : Prop where
  row : m'.row = m.row
  tally : ∃ b, m'.tally = { m.tally with faulted := b }

theorem Unmoved.refl (m : View) : Unmoved m m := ⟨rfl, _, rfl⟩

theorem Unmoved.commands {m m' : View} (h : Unmoved m m') : SameCommands m.tally m'.tally := by
  obtain ⟨b, htally⟩ := h.tally
  rw [htally]
  exact ⟨rfl, rfl⟩

theorem Unmoved.revoked {m m' : View} (h : Unmoved m m') :
    m'.tally.revoked = m.tally.revoked := by
  obtain ⟨b, htally⟩ := h.tally
  rw [htally]

theorem Unmoved.uncompleted {m m' : View} (h : Unmoved m m') :
    m'.tally.uncompleted = m.tally.uncompleted := by
  obtain ⟨b, htally⟩ := h.tally
  rw [htally]

theorem Unmoved.cleaned {m m' : View} {v : RowView} (h : Unmoved m m')
    (hcleaned : Cleaned v m.tally) : Cleaned v m'.tally := by
  obtain ⟨b, htally⟩ := h.tally
  rw [htally]
  exact ⟨hcleaned.revoked, hcleaned.source, hcleaned.destination, hcleaned.objects⟩

/-- A statement that moves nothing may fail. -/
theorem Unmoved.follow {m m₁ : View} {ev : CallEv} (h : Unmoved m m₁)
    (hrow : (m₁.follow ev).row = m₁.row)
    (htally : ∃ b, (m₁.follow ev).tally = { m₁.tally with faulted := b }) :
    Unmoved m (m₁.follow ev) := by
  obtain ⟨b, htally⟩ := htally
  obtain ⟨b₁, htally₁⟩ := h.tally
  refine ⟨hrow.trans h.row, b, ?_⟩
  rw [htally, htally₁]

/-- How a cancellation or a progress report ends.  `intended` is the state that
    the request asks for; a failed report has none, for it may be retried. -/
inductive Outcome (faulty : Bool) (intended : Option TransferState) (m : View) :
    Except Err Unit → View → Prop where
  /-- The row is left as it was. -/
  | kept {a : Except Err Unit} {m' : View} (unmoved : Unmoved m m')
      (missed : ∀ target, intended = some target → a ≠ .ok () ∧
        (faulty = false → ∀ v, m.row = some v → ¬ v.state.Edge target)) :
      Outcome faulty intended m a m'
  /-- The final state is written, and the write of `completed_at` fails. -/
  | half {err : Err} {m' : View} {v : RowView} {target : TransferState} (before : m.row = some v)
      (edge : v.state.Edge target) (final : target.isTerminal = true)
      (row : m'.row = some { v with state := target })
      (commands : SameCommands m.tally m'.tally) (revoked : m'.tally.revoked = m.tally.revoked)
      (uncompleted : m'.tally.uncompleted = true) (fault : faulty = true) :
      Outcome faulty intended m (.error err) m'
  /-- The transfer is brought to its end. -/
  | closed {m' : View} {v : RowView} {target : TransferState} (before : m.row = some v)
      (edge : v.state.Edge target) (final : target.isTerminal = true)
      (row : m'.row = some { v with state := target, completed := true })
      (commands : SameCommands m.tally m'.tally) (cleaned : Cleaned v m'.tally)
      (uncompleted : m'.tally.uncompleted = m.tally.uncompleted)
      (hit : ∀ state, intended = some state → state = target) :
      Outcome faulty intended m (.ok ()) m'

/-- How a creation ends, on the transfer whose identifier it has drawn. -/
inductive Created (faulty : Bool) (m : View) : Except Err CreateTransferResponse → View → Prop where
  /-- The row is not inserted. -/
  | rejected {err : Err} (m' : View) (row : m'.row = m.row) (tally : m'.tally = m.tally) :
      Created faulty m (.error err) m'
  /-- A statement fails, and the row is left behind open. -/
  | stuck {err : Err} {m' : View} {v : RowView} (fresh : m.row = none) (row : m'.row = some v)
      (opened : v.state.isTerminal = false) (completed : v.completed = false)
      (inserted : m'.tally.inserted = true) (faulted : m'.tally.faulted = true)
      (revoked : m'.tally.revoked = m.tally.revoked)
      (uncompleted : m'.tally.uncompleted = m.tally.uncompleted) (fault : faulty = true) :
      Created faulty m (.error err) m'
  /-- The request is refused, and the row is failed. -/
  | failed {err : Err} {m' : View} {v : RowView} (fresh : m.row = none) (row : m'.row = some v)
      (state : v.state = .failed) (completed : v.completed = true)
      (inserted : m'.tally.inserted = true) (faulted : m'.tally.faulted = m.tally.faulted)
      (revoked : m'.tally.revoked = m.tally.revoked)
      (uncompleted : m'.tally.uncompleted = m.tally.uncompleted)
      (commands : m'.tally.accepted = true → m.tally.accepted = true ∨ m'.tally.refused = true) :
      Created faulty m (.error err) m'
  /-- Both agents have accepted their command. -/
  | started {response : CreateTransferResponse} {m' : View} {v : RowView} (fresh : m.row = none)
      (row : m'.row = some v) (state : v.state = .transferring) (completed : v.completed = false)
      (inserted : m'.tally.inserted = true) (faulted : m'.tally.faulted = m.tally.faulted)
      (revoked : m'.tally.revoked = m.tally.revoked)
      (uncompleted : m'.tally.uncompleted = m.tally.uncompleted)
      (refused : m'.tally.refused = m.tally.refused) : Created faulty m (.ok response) m'

/-! ## Cancellations and progress reports -/

section

variable {faulty : Bool} {id : UUID} {m : View}

/-- A statement failed before anything was written. -/
theorem Outcome.faulted {intended : Option TransferState} {err : Err} {m' : View}
    (hm : Unmoved m m') (hfault : faulty = true) : Outcome faulty intended m (.error err) m' := by
  refine .kept hm fun _ _ => ⟨by simp, fun hfaulty => ?_⟩
  rw [hfault] at hfaulty
  cases hfaulty

/-- The row does not allow the transition. -/
theorem Outcome.rejected {v : RowView} {target : TransferState} {err : Err} {m' : View}
    (hm : Unmoved m m') (hrow : m.row = some v) (hedge : ¬ v.state.Edge target) :
    Outcome faulty (some target) m (.error err) m' := by
  refine .kept hm fun state hstate => ⟨by simp, fun _ v' hv' hedge' => ?_⟩
  rw [hrow] at hv'
  cases hv'
  cases hstate
  exact hedge hedge'

/-- The calls after the row has been ended. -/
theorem Outcome.closed_of_cleaned {intended : Option TransferState} {transfer : Transfer}
    {target : TransferState} {m₁ m' : View} (hrow : m.row = some transfer.view)
    (hedge : transfer.state.Edge target) (hfinal : target.isTerminal = true)
    (hrow₁ : m₁.row = some { transfer.view with state := target, completed := true })
    (hcommands₁ : SameCommands m.tally m₁.tally)
    (huncompleted₁ : m₁.tally.uncompleted = m.tally.uncompleted) (hrow' : m'.row = m₁.row)
    (hcommands : SameCommands m₁.tally m'.tally)
    (huncompleted : m'.tally.uncompleted = m₁.tally.uncompleted)
    (hcleaned : Cleaned transfer.view m'.tally) (hhit : ∀ state, intended = some state → state = target) :
    Outcome faulty intended m (.ok ()) m' :=
  .closed hrow hedge hfinal (hrow'.trans hrow₁)
    ⟨hcommands.accepted.trans hcommands₁.accepted, hcommands.refused.trans hcommands₁.refused⟩
    hcleaned (huncompleted.trans huncompleted₁) hhit

/-- A creation under way: its row is open, and no statement on it has failed. -/
structure Running (m : View) (state : TransferState) (m₁ : View) : Prop where
  fresh : m.row = none
  row : ∃ v, m₁.row = some v ∧ v.state = state ∧ v.completed = false
  inserted : m₁.tally.inserted = true
  faulted : m₁.tally.faulted = m.tally.faulted
  revoked : m₁.tally.revoked = m.tally.revoked
  uncompleted : m₁.tally.uncompleted = m.tally.uncompleted
  commands : m₁.tally.accepted = true → m.tally.accepted = true ∨ m₁.tally.refused = true

/-- A failed statement leaves the row behind. -/
theorem Running.stuck {state : TransferState} {m₁ m' : View} {err : Err} (h : Running m state m₁)
    (hopen : state.isTerminal = false) (hrow : m'.row = m₁.row)
    (htally : m'.tally = { m₁.tally with faulted := m₁.tally.faulted || true })
    (hfault : faulty = true) : Created faulty m (.error err) m' := by
  obtain ⟨v, hv, hstate, hcompleted⟩ := h.row
  refine .stuck h.fresh (hrow.trans hv) (hstate ▸ hopen) hcompleted ?_ ?_ ?_ ?_ hfault
  · rw [htally]; exact h.inserted
  · rw [htally]; exact Bool.or_true _
  · rw [htally]; exact h.revoked
  · rw [htally]; exact h.uncompleted

/-- A statement that succeeds changes the row only. -/
theorem Running.follow {state state' : TransferState} {m₁ : View} {ev : CallEv}
    (h : Running m state m₁)
    (hrow : ∀ v, m₁.row = some v → v.state = state → v.completed = false →
      ∃ v', (m₁.follow ev).row = some v' ∧ v'.state = state' ∧ v'.completed = false)
    (htally : (m₁.follow ev).tally = { m₁.tally with faulted := m₁.tally.faulted || false }) :
    Running m state' (m₁.follow ev) := by
  rw [Bool.or_false] at htally
  obtain ⟨v, hv, hstate, hcompleted⟩ := h.row
  have hsame : (m₁.follow ev).tally = m₁.tally := htally
  refine ⟨h.fresh, hrow v hv hstate hcompleted, ?_, ?_, ?_, ?_, ?_⟩
  · rw [hsame]; exact h.inserted
  · rw [hsame]; exact h.faulted
  · rw [hsame]; exact h.revoked
  · rw [hsame]; exact h.uncompleted
  · rw [hsame]; exact h.commands

/-- The write of `failed` ends the creation, or leaves the row behind. -/
theorem Running.fail {state : TransferState} {m₁ : View} {errorMessage : String} {err : Err}
    {written : Except Err Unit} (h : Running m state m₁) (hopen : state.isTerminal = false)
    (hwritten : RowView.Allows faulty id m₁.row (.repo (.updateTransferFailed id errorMessage)) written) :
    Created faulty m (.error err)
      (m₁.follow ⟨.repo (.updateTransferFailed id errorMessage), written⟩) := by
  obtain ⟨v, hv, hstate, hcompleted⟩ := h.row
  rcases written with err | _
  · exact h.stuck hopen rfl rfl hwritten
  · refine .failed (v := { v with state := .failed, completed := true }) h.fresh ?_ rfl rfl
      h.inserted ?_ h.revoked h.uncompleted h.commands
    · simp [View.follow, RowView.follow, hv]
    · simp [View.follow, Tally.follow, RepoCall.faults, RepoCall.errs, h.faulted]

/-- A command that an agent refuses. -/
theorem Running.refuse {state : TransferState} {m₁ : View} {agentID transferID : String} {err : Err}
    (h : Running m state m₁) :
    Running m state (m₁.follow ⟨.sendTransferCommand agentID transferID, .error err⟩) :=
  ⟨h.fresh, h.row, h.inserted, h.faulted, h.revoked, h.uncompleted, fun _ => .inr rfl⟩

variable [UUIDText]

/-- Cleanup requests everything that belongs to the transfer. -/
theorem Seen.executeCleanup {α : Type} {transfer : Transfer} {f : Unit → Engine α}
    {Q : α → View → Prop} (hid : transfer.id = id)
    (hf : ∀ m', m'.row = m.row → SameCommands m.tally m'.tally →
      m'.tally.uncompleted = m.tally.uncompleted → Cleaned transfer.view m'.tally →
      Seen faulty id (f ()) Q m') :
    Seen faulty id (executeCleanup transfer >>= f) Q m := by
  subst hid
  refine Prog.awp_bind ?_
  unfold Katapult.executeCleanup
  refine Seen.perform rfl fun _ _ => Seen.perform rfl fun _ _ => Seen.perform rfl fun _ _ => ?_
  by_cases hs3 : transfer.strategy = .s3
  · rw [if_pos hs3]
    refine ⟨rfl, fun _ _ => hf _ rfl ⟨rfl, rfl⟩ rfl ⟨rfl, ?_, ?_, fun _ => rfl⟩⟩
    · simp [View.follow, Tally.follow, Transfer.view]
    · simp [View.follow, Tally.follow, Transfer.view]
  · rw [if_neg hs3]
    refine hf _ rfl ⟨rfl, rfl⟩ rfl ⟨rfl, ?_, ?_, fun h => absurd h hs3⟩
    · simp [View.follow, Tally.follow, Transfer.view]
    · simp [View.follow, Tally.follow, Transfer.view]

/-- The two statements that end a transfer: its state, then its completion time. -/
theorem seen_finish {v : RowView} {target : TransferState} {errState errTime : Err → Err}
    {k : Engine (Except Err Unit)} {m₁ : View} (hm : Unmoved m m₁) (hrow : m.row = some v)
    (hedge : v.state.Edge target) (hfinal : target.isTerminal = true)
    (hk : ∀ m₂, m₂.row = some { v with state := target, completed := true } →
      SameCommands m.tally m₂.tally → m₂.tally.uncompleted = m.tally.uncompleted →
      Seen faulty id k (Outcome faulty (some target) m) m₂) :
    Seen faulty id
      (do
        match ← Engine.updateTransferState id target with
        | .error err => return .error (errState err)
        | .ok () =>
        match ← Engine.updateTransferCompleted id with
        | .error err => return .error (errTime err)
        | .ok () => k)
      (Outcome faulty (some target) m) m₁ := by
  have hrow₁ : m₁.row = some v := hm.row.trans hrow
  refine Seen.perform rfl fun written hwritten => ?_
  rcases written with err | _
  · exact .faulted (hm.follow rfl ⟨_, rfl⟩) hwritten
  refine Seen.perform rfl fun completed hcompleted => ?_
  rcases completed with err | _
  · refine .half hrow hedge hfinal ?_ ⟨hm.commands.accepted, hm.commands.refused⟩ hm.revoked rfl
      hcompleted
    simp [View.follow, RowView.follow, hrow₁]
  · refine hk _ ?_ ⟨hm.commands.accepted, hm.commands.refused⟩ hm.uncompleted
    simp [View.follow, RowView.follow, hrow₁]

namespace Orchestrator

theorem seen_cancelTransfer (o : Orchestrator) :
    Seen faulty id (o.cancelTransfer id) (Outcome faulty (some .cancelled) m) m := by
  unfold cancelTransfer
  refine Seen.perform rfl fun loaded hloaded => ?_
  rcases loaded with err | (_ | transfer)
  · exact .faulted ((Unmoved.refl m).follow rfl ⟨_, rfl⟩) hloaded
  · -- there is no such transfer
    refine .kept ((Unmoved.refl m).follow rfl ⟨_, rfl⟩) fun _ _ => ⟨by simp, fun _ v hv => ?_⟩
    rw [← hloaded.1] at hv
    cases hv
  have hrow : m.row = some transfer.view := hloaded.1.symm
  have hid : transfer.id = id := hloaded.2 transfer rfl
  dsimp only
  split
  · -- it has ended, so no edge leads on
    rename_i hterm
    refine .rejected ((Unmoved.refl m).follow rfl ⟨_, rfl⟩) hrow fun hedge => ?_
    have hopen : transfer.state.isTerminal = false := hedge.not_isTerminal
    rw [Transfer.isTerminal, hopen] at hterm
    cases hterm
  split
  · rename_i err hmove
    exact .rejected ((Unmoved.refl m).follow rfl ⟨_, rfl⟩) hrow
      (Transfer.not_edge_of_transitionTo_eq_error hmove)
  rename_i transfer' hmove
  obtain ⟨hedge, rfl⟩ := Transfer.transitionTo_eq_ok.mp hmove
  refine Seen.ambient ⟨trivial, fun _ => trivial⟩ fun now => ?_
  refine seen_finish ((Unmoved.refl m).follow rfl ⟨_, rfl⟩) hrow hedge rfl
    fun m₁ hrow₁ hcommands₁ huncompleted₁ => ?_
  refine Seen.createEvent ?_
  refine Seen.ambient (o.all_closeTransfer id) fun _ => ?_
  refine Seen.ambient (o.all_onTransferStateChange _ _ _) fun _ => ?_
  refine Seen.perform rfl fun _ _ => Seen.perform rfl fun _ _ => ?_
  refine Seen.executeCleanup hid fun m' hrow' hcommands huncompleted hcleaned => ?_
  exact .closed_of_cleaned hrow hedge rfl hrow₁ hcommands₁ huncompleted₁ hrow'
    ⟨hcommands.accepted, hcommands.refused⟩ huncompleted
    ⟨hcleaned.revoked, hcleaned.source, hcleaned.destination, hcleaned.objects⟩ (by simp)

theorem seen_handleCompleted (o : Orchestrator) {transfer : Transfer} {m₀ : View}
    (hm : Unmoved m m₀) (hrow : m.row = some transfer.view) (hid : transfer.id = id) :
    Seen faulty id (o.handleCompleted id transfer) (Outcome faulty (some .completed) m) m₀ := by
  unfold handleCompleted
  split
  · rename_i err hmove
    exact .rejected hm hrow (Transfer.not_edge_of_transitionTo_eq_error hmove)
  rename_i transfer' hmove
  obtain ⟨hedge, rfl⟩ := Transfer.transitionTo_eq_ok.mp hmove
  refine seen_finish hm hrow hedge rfl fun m₁ hrow₁ hcommands₁ huncompleted₁ => ?_
  refine Seen.createEvent ?_
  refine Seen.ambient (o.all_closeTransfer id) fun _ => ?_
  refine Seen.ambient (o.all_onTransferStateChange _ _ _) fun _ => ?_
  refine Seen.executeCleanup hid fun m' hrow' hcommands huncompleted hcleaned => ?_
  exact .closed_of_cleaned hrow hedge rfl hrow₁ hcommands₁ huncompleted₁ hrow' hcommands
    huncompleted ⟨hcleaned.revoked, hcleaned.source, hcleaned.destination, hcleaned.objects⟩
    (by simp)

theorem seen_handleExhausted (o : Orchestrator) {transfer : Transfer} {m₀ : View}
    (errorMessage : String) (hm : Unmoved m m₀) (hrow : m.row = some transfer.view)
    (hid : transfer.id = id) :
    Seen faulty id (o.handleExhausted id errorMessage transfer) (Outcome faulty none m) m₀ := by
  unfold handleExhausted
  split
  · exact .kept hm (by simp)
  rename_i transfer' hmove
  obtain ⟨hedge, rfl⟩ := Transfer.transitionTo_eq_ok.mp hmove
  refine Seen.perform rfl fun written hwritten => ?_
  rcases written with err | _
  · exact .faulted (hm.follow rfl ⟨_, rfl⟩) hwritten
  refine Seen.createEvent ?_
  refine Seen.ambient (o.all_closeTransfer id) fun _ => ?_
  refine Seen.ambient (o.all_onTransferStateChange _ _ _) fun _ => ?_
  refine Seen.ambient (o.all_onTransferError _) fun _ => ?_
  refine Seen.executeCleanup hid fun m' hrow' hcommands huncompleted hcleaned => ?_
  refine .closed hrow hedge rfl ?_ ⟨hcommands.accepted.trans hm.commands.accepted,
    hcommands.refused.trans hm.commands.refused⟩ ?_ (huncompleted.trans hm.uncompleted) (by simp)
  · rw [hrow']
    simp [View.follow, RowView.follow, hm.row, hrow]
  · exact ⟨hcleaned.revoked, hcleaned.source, hcleaned.destination, hcleaned.objects⟩

theorem seen_handleFailed (o : Orchestrator) {transfer : Transfer} {m₀ : View}
    (errorMessage : String) (hm : Unmoved m m₀) (hrow : m.row = some transfer.view)
    (hid : transfer.id = id) :
    Seen faulty id (o.handleFailed id errorMessage transfer) (Outcome faulty none m) m₀ := by
  unfold handleFailed
  refine Seen.ambient (all_applyRetryBackoff _ _ _ _ _) fun decision => ?_
  split
  · refine Seen.perform rfl fun counted hcounted => ?_
    rcases counted with err | _
    · exact .faulted (hm.follow rfl ⟨_, rfl⟩) hcounted
    exact Seen.createEvent (.kept (hm.follow rfl ⟨_, rfl⟩) (by simp))
  · exact seen_handleExhausted o errorMessage hm hrow hid

/-- The state that a report asks for. -/
def intendedBy (report : ProgressReport) : Option TransferState :=
  if report.status = "completed" then some .completed else none

theorem seen_handleStatus (o : Orchestrator) (report : ProgressReport) {transfer : Transfer}
    {m₀ : View} (hm : Unmoved m m₀) (hrow : m.row = some transfer.view)
    (hid : transfer.id = report.transferID) :
    Seen faulty report.transferID (o.handleStatus report transfer)
      (Outcome faulty (intendedBy report) m) m₀ := by
  unfold handleStatus intendedBy
  split
  · exact seen_handleCompleted o hm hrow hid
  split
  · exact seen_handleFailed o _ hm hrow hid
  · exact .kept hm (by simp)

/-- How a report ends: a panic of the recorder leaves the row as it was, and is the
    only way to end for a report that gets that far and overdraws. -/
inductive Reported (faulty : Bool) (o : Orchestrator) (report : ProgressReport) (m : View) :
    Attempt (Except Err Unit) → View → Prop where
  | done {a : Except Err Unit} {m' : View} (outcome : Outcome faulty (intendedBy report) m a m')
      (funded : a = .ok () → ¬ o.Overdraws report) : Reported faulty o report m (.done a) m'
  | panics {m' : View} (unmoved : Unmoved m m') (overdrawn : o.Overdraws report) :
      Reported faulty o report m .panics m'

theorem seen_handleProgress (o : Orchestrator) (report : ProgressReport)
    (hid : report.transferID = id) :
    Seen faulty id (o.handleProgress report) (Reported faulty o report m) m := by
  subst hid
  unfold handleProgress
  refine Seen.perform rfl fun loaded hloaded => ?_
  rcases loaded with err | (_ | transfer)
  · exact .done (.faulted ((Unmoved.refl m).follow rfl ⟨_, rfl⟩) hloaded) nofun
  · refine .done (.kept ((Unmoved.refl m).follow rfl ⟨_, rfl⟩) fun _ _ => ⟨by simp, fun _ v hv => ?_⟩)
      nofun
    rw [← hloaded.1] at hv
    cases hv
  have hrow : m.row = some transfer.view := hloaded.1.symm
  have hid : transfer.id = report.transferID := hloaded.2 transfer rfl
  refine Seen.perform rfl fun updated hupdated => ?_
  rcases updated with err | _
  · exact .done (.faulted (((Unmoved.refl m).follow rfl ⟨_, rfl⟩).follow rfl ⟨_, rfl⟩) hupdated) nofun
  refine Seen.createEvent ?_
  refine Seen.ambient (o.all_publish _ _) fun _ => ?_
  have hm : Unmoved m ((m.follow ⟨.repo (.getTransferByID report.transferID), .ok (some transfer)⟩).follow
      ⟨.repo (.updateTransferProgress report.transferID report.bytesTransferred report.bytesTotal
        report.chunksCompleted report.chunksTotal), .ok ()⟩) :=
    ((Unmoved.refl m).follow rfl ⟨_, rfl⟩).follow rfl ⟨_, rfl⟩
  refine Seen.onProgressReport o report (fun hfunded => ?_) fun hover => .panics hm hover
  exact Prog.awp_bind (Prog.awp_mono (seen_handleStatus o report hm hrow hid)
    fun _ _ houtcome => .done houtcome fun _ => hfunded)

end Orchestrator

/-! ## Creations -/

/-- The failure exits that record an event. -/
theorem seen_failTransfer {state : TransferState} {m₁ : View} {errorMessage eventMessage : String}
    {err : Err} (h : Running m state m₁) (hopen : state.isTerminal = false) :
    Seen faulty id (do failTransfer id errorMessage eventMessage; return .error err)
      (Created faulty m) m₁ :=
  ⟨rfl, fun _ hwritten => Seen.createEvent (h.fail hopen hwritten)⟩

theorem Orchestrator.seen_commandAgents (req : CreateTransferRequest) {m₁ : View}
    (h : Running m .transferring m₁) (hrefused : m₁.tally.refused = m.tally.refused) :
    Seen faulty id (commandAgents req id) (Created faulty m) m₁ := by
  unfold commandAgents
  refine Seen.perform rfl fun src _ => ?_
  rcases src with err | _
  · exact seen_failTransfer h.refuse rfl
  refine Seen.perform rfl fun dest _ => ?_
  rcases dest with err | _
  · -- the source agent has accepted, the destination agent refuses
    refine seen_failTransfer (?_ : Running m .transferring _) rfl
    exact ⟨h.fresh, h.row, h.inserted, h.faulted, h.revoked, h.uncompleted, fun _ => .inr rfl⟩
  · obtain ⟨v, hv, hstate, hcompleted⟩ := h.row
    exact .started h.fresh hv hstate hcompleted h.inserted h.faulted h.revoked h.uncompleted
      hrefused

theorem Orchestrator.seen_startTransfer (o : Orchestrator) (req : CreateTransferRequest)
    {transfer : Transfer} {m₁ : View} (hid : transfer.id = id)
    (hstate : transfer.state = .validating) (h : Running m .validating m₁)
    (hrefused : m₁.tally.refused = m.tally.refused) :
    Seen faulty id (o.startTransfer req transfer) (Created faulty m) m₁ := by
  subst hid
  unfold startTransfer
  split
  · -- no strategy: the row is failed, without an event
    exact ⟨rfl, fun _ hwritten => h.fail rfl hwritten⟩
  rename_i strategy _
  refine Seen.perform rfl fun persisted hpersisted => ?_
  rcases persisted with err | _
  · exact h.stuck rfl rfl rfl hpersisted
  have h₁ : Running m .validating
      (m₁.follow ⟨.repo (.updateTransferStrategy transfer.id strategy), .ok ()⟩) :=
    h.follow (fun v hv hs hc => ⟨{ v with strategy }, by rw [View.row_follow, hv]; rfl, hs, hc⟩) rfl
  dsimp only
  split
  · -- the transition is allowed
    rename_i err hmove
    refine absurd ?_ (Transfer.not_edge_of_transitionTo_eq_error hmove)
    rw [show transfer.state = .validating from hstate]
    decide
  refine Seen.perform rfl fun written hwritten => ?_
  rcases written with err | _
  · exact h₁.stuck rfl rfl rfl hwritten
  have h₂ : Running m .transferring
      (View.follow _ ⟨.repo (.updateTransferState transfer.id .transferring), .ok ()⟩) :=
    h₁.follow (fun v hv _ hc => ⟨{ v with state := .transferring },
      by rw [View.row_follow, hv]; rfl, rfl, hc⟩) rfl
  refine Seen.perform rfl fun started hstarted => ?_
  rcases started with err | _
  · exact h₂.stuck rfl rfl rfl hstarted
  have h₃ : Running m .transferring
      (View.follow _ ⟨.repo (.updateTransferStarted transfer.id), .ok ()⟩) :=
    h₂.follow (fun v hv hs hc => ⟨v, hv, hs, hc⟩) rfl
  exact Seen.createEvent (seen_commandAgents req h₃ hrefused)

theorem Orchestrator.seen_admitTransfer (o : Orchestrator) (req : CreateTransferRequest)
    {transfer : Transfer} (hid : transfer.id = id) (hstate : transfer.state = .pending)
    (hcompleted : transfer.completedAt = none) :
    Seen faulty id (o.admitTransfer req transfer) (Created faulty m) m := by
  subst hid
  unfold admitTransfer
  refine Seen.perform rfl fun inserted hinserted => ?_
  rcases inserted with err | _
  · exact .rejected _ rfl (by simp [View.follow, Tally.follow, RepoCall.faults])
  have h₁ : Running m .pending (m.follow ⟨.repo (.createTransfer transfer), .ok ()⟩) := by
    refine ⟨hinserted, ⟨transfer.view, rfl, hstate, ?_⟩, rfl, rfl, rfl, rfl, .inl⟩
    simp [Transfer.view, hcompleted]
  refine Seen.createEvent ?_
  split
  · rename_i err hmove
    refine absurd ?_ (Transfer.not_edge_of_transitionTo_eq_error hmove)
    rw [hstate]
    decide
  rename_i transfer' hmove
  obtain ⟨-, rfl⟩ := Transfer.transitionTo_eq_ok.mp hmove
  refine Seen.perform rfl fun written hwritten => ?_
  rcases written with err | _
  · exact h₁.stuck rfl rfl rfl hwritten
  have h₂ : Running m .validating
      (View.follow _ ⟨.repo (.updateTransferState transfer.id .validating), .ok ()⟩) :=
    h₁.follow (fun v hv _ hc => ⟨{ v with state := .validating },
      by rw [View.row_follow, hv]; rfl, rfl, hc⟩) rfl
  refine Seen.ambient (all_validateTransferRequest _) fun valid => ?_
  rcases valid with err | _
  · exact seen_failTransfer h₂ rfl
  exact Seen.createEvent (seen_startTransfer o req rfl rfl h₂ rfl)

end

end Katapult
