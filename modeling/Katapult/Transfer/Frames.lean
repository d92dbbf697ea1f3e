/-
  Katapult.Transfer.Frames

  What subscribers are told about the end of a transfer.

  The event that is published copies the status of the agent's report, and goes
  out before the report is decided on.  Where a report leaves its transfer is a
  function of the row it has found (`Transfer.stateAfter`), so the two can be
  compared; `terminalFramesSound_iff` says when they agree.
-/

import Katapult.Transfer.Reports
import Katapult.Transfer.Resends

namespace Katapult

open Effect

/-- Terminal frames are sound: unless a statement on the row fails, an event that
    is published with a terminal status names the state that the transfer is left in,
    where the call returns and where it panics. -/
def TerminalFramesSound [UUIDText] (o : Orchestrator) (report : ProgressReport) (s : Store) : Prop :=
  ∀ tr a s', Prog.Exec exec (Healthy true) (o.handleProgress report) s tr a s' →
    (∀ ev ∈ tr, CallEv.faults ev = false) →
    ∀ ev ∈ tr, ∀ id progress, ev.1 = .publish id progress →
      ∀ final : TransferState, final.isTerminal = true → progress.status = final.text →
        s'.stateOf id = some final

/-- The state that a report leaves its transfer in. -/
def Transfer.stateAfter (o : Orchestrator) (t : Transfer) (report : ProgressReport) : TransferState :=
  if report.status = "completed" then
    if ¬ o.Overdraws report ∧ t.state.Edge .completed then .completed else t.state
  else if report.status = "failed" then
    if ¬ o.Overdraws report ∧ t.retryMax ≤ t.retryCount ∧ t.state.Edge .failed then .failed
    else t.state
  else t.state

section

variable {o : Orchestrator} {t : Transfer} {report : ProgressReport}

theorem Transfer.stateAfter_completed (hstatus : report.status = "completed") :
    t.stateAfter o report =
      if ¬ o.Overdraws report ∧ t.state.Edge .completed then .completed else t.state :=
  if_pos hstatus

theorem Transfer.stateAfter_failed (hstatus : report.status = "failed") :
    t.stateAfter o report =
      if ¬ o.Overdraws report ∧ t.retryMax ≤ t.retryCount ∧ t.state.Edge .failed then .failed
      else t.state := by
  have hother : report.status ≠ "completed" := by
    rw [hstatus]
    decide
  rw [stateAfter, if_neg hother, if_pos hstatus]

theorem Transfer.stateAfter_cancelled (hstatus : report.status = "cancelled") :
    t.stateAfter o report = t.state := by
  have hcompleted : report.status ≠ "completed" := by
    rw [hstatus]
    decide
  have hfailed : report.status ≠ "failed" := by
    rw [hstatus]
    decide
  rw [stateAfter, if_neg hcompleted, if_neg hfailed]

/-- A panic of the recorder leaves the state alone. -/
theorem Transfer.stateAfter_of_overdraws (hover : o.Overdraws report) :
    t.stateAfter o report = t.state := by
  simp [stateAfter, hover]

/-- A terminal status in the report is one that the transfer has, or takes with
    the report. -/
structure Transfer.Bears (o : Orchestrator) (t : Transfer) (report : ProgressReport) : Prop where
  completed : report.status = "completed" →
    t.state = .completed ∨ ¬ o.Overdraws report ∧ t.state.Edge .completed
  failed : report.status = "failed" →
    t.state = .failed ∨ ¬ o.Overdraws report ∧ t.retryMax ≤ t.retryCount ∧ t.state.Edge .failed
  cancelled : report.status = "cancelled" → t.state = .cancelled

theorem ite_eq_iff_or {c : Prop} [Decidable c] {state final : TransferState} :
    (if c then final else state) = final ↔ state = final ∨ c := by
  by_cases hc : c <;> simp [hc]

/-- The transfer bears the report exactly when the state it is left in is the
    status of the report, if that is a terminal one. -/
theorem Transfer.bears_iff :
    t.Bears o report ↔ ∀ final : TransferState, final.isTerminal = true →
      report.status = final.text → t.stateAfter o report = final := by
  constructor
  · rintro ⟨hcompleted, hfailed, hcancelled⟩ final hfinal hstatus
    cases final with
    | completed =>
      rw [stateAfter_completed hstatus, ite_eq_iff_or]
      exact hcompleted hstatus
    | failed =>
      rw [stateAfter_failed hstatus, ite_eq_iff_or]
      exact hfailed hstatus
    | cancelled =>
      rw [stateAfter_cancelled hstatus]
      exact hcancelled hstatus
    | _ => cases hfinal
  · intro hafter
    refine ⟨fun hstatus => ?_, fun hstatus => ?_, fun hstatus => ?_⟩
    · have hend := hafter .completed rfl hstatus
      rwa [stateAfter_completed hstatus, ite_eq_iff_or] at hend
    · have hend := hafter .failed rfl hstatus
      rwa [stateAfter_failed hstatus, ite_eq_iff_or] at hend
    · have hend := hafter .cancelled rfl hstatus
      rwa [stateAfter_cancelled hstatus] at hend

end

/-! ## Where a report leaves its transfer -/

/-- Unless a statement on the row fails, the program leaves the transfer `id` in
    the state `target`. -/
abbrev Lands {α : Type} (id : UUID) (target : TransferState) (p : Engine α) (h : List CallEv)
    (s : Store) : Prop :=
  Prog.wp exec (Healthy true) p (fun _ h' s' => Faulted h' ∨ s'.stateOf id = some target) h s

section

variable {α β : Type} {id : UUID} {target : TransferState} {h : List CallEv} {s : Store}

theorem Faulted.append {h : List CallEv} (hh : Faulted h) (ev : CallEv) : Faulted (h ++ [ev]) := by
  obtain ⟨ev', hev', hfault⟩ := hh
  exact ⟨ev', List.mem_append_left _ hev', hfault⟩

theorem Lands.of_faulted {p : Engine α} (hh : Faulted h) : Lands id target p h s :=
  Prog.wp_mono (Prog.wp_of_invariant (I := fun h' _ => Faulted h') p
    (fun _ _ _ _ _ hfault => hfault.append _) hh) fun _ _ _ hfault => .inl hfault

theorem Call.Passive.inert {op : Call} (hop : op.Passive) (id : UUID) : op.Inert id := by
  cases op with
  | repo call => cases hop
  | _ => exact ⟨rfl, fun h => h⟩

theorem inert_createEvent (transferID : UUID) (eventType : EventType) (message : String)
    (metadata : Option (List (String × String))) (id : UUID) :
    (createEvent transferID eventType message metadata).All (Call.Inert id) := by
  refine (all_createEvent _ _ _ _).mono fun op hop => ?_
  cases op with
  | repo call => cases call <;> first | exact ⟨rfl, fun h => h⟩ | cases hop
  | _ => exact ⟨rfl, fun h => h⟩

/-- In front of a program, a part that leaves the state of the transfer alone. -/
theorem Lands.after {state : TransferState} {p : Engine β} {f : β → Engine α}
    (hp : p.All (Call.Inert id)) (hs : s.stateOf id = some state)
    (hf : ∀ b h' s', s'.stateOf id = some state → Lands id target (f b) h' s') :
    Lands id target (p >>= f) h s := by
  induction p generalizing h s with
  | pure b => exact hf b h s hs
  | call op k ih =>
    intro env _
    refine ih _ (hp.2 _) ?_
    rw [stateOf_exec_of_inert hp.1]
    exact hs

/-- A program that leaves the state of the transfer alone. -/
theorem Lands.of_inert {p : Engine α} (hp : p.All (Call.Inert id))
    (hs : s.stateOf id = some target) : Lands id target p h s := by
  induction p generalizing h s with
  | pure a => exact .inr hs
  | call op k ih =>
    intro env _
    refine ih _ (hp.2 _) ?_
    rw [stateOf_exec_of_inert hp.1]
    exact hs

/-- A statement that writes the state, or fails. -/
theorem Lands.write {call : RepoCall} {state : TransferState} {f : call.Ans → Engine α}
    (hwrite : (Call.repo call).writtenState id = some target) (hs : s.stateOf id = some state)
    (hf : ∀ r h' s', s'.stateOf id = some target → Lands id target (f r) h' s') :
    Lands id target (Prog.perform (Call.repo call) >>= f) h s := by
  refine Prog.wp_perform fun env _ => ?_
  cases hfail : env.fail with
  | some err =>
    -- the statement that fails is in the history, as a fault
    refine Lands.of_faulted ⟨_, List.mem_append_right _ (List.mem_singleton_self _), ?_⟩
    rcases Call.writtenState_eq_some.mp hwrite with hcall | ⟨errorMessage, hcall, -⟩
    · cases hcall
      simp only [exec, execRepo, Env.write_of_fail hfail]
      rfl
    · cases hcall
      simp only [exec, execRepo, Env.write_of_fail hfail]
      rfl
  | none =>
    refine hf _ _ _ ?_
    rw [stateOf_exec_of_write hwrite hfail, hs]
    rfl

end

namespace Orchestrator

variable [UUIDText] {id : UUID} {t : Transfer} {h : List CallEv} {s : Store}

omit [UUIDText] in
theorem inert_closeTransfer (o : Orchestrator) (transferID id : UUID) :
    (o.closeTransfer transferID).All (Call.Inert id) :=
  (o.all_closeTransfer _).mono fun _ hop => hop.passive.inert id

omit [UUIDText] in
theorem inert_onTransferStateChange (o : Orchestrator) (fromState toState strategy : String)
    (id : UUID) : (o.onTransferStateChange fromState toState strategy).All (Call.Inert id) :=
  (o.all_onTransferStateChange _ _ _).mono fun _ hop => hop.passive.inert id

theorem lands_handleCompleted (o : Orchestrator) (hs : s.stateOf id = some t.state) :
    Lands id (if t.state.Edge .completed then .completed else t.state) (o.handleCompleted id t)
      h s := by
  unfold handleCompleted
  cases hmove : t.transitionTo .completed with
  | error err =>
    rw [if_neg (Transfer.not_edge_of_transitionTo_eq_error hmove)]
    exact .inr hs
  | ok t' =>
    rw [if_pos (Transfer.transitionTo_eq_ok.mp hmove).1]
    refine Lands.write (Call.writtenState_eq_some.mpr (.inl rfl)) hs fun written h' s' hs' => ?_
    rcases written with err | _
    · exact .inr hs'
    -- nothing that follows writes the state
    refine Lands.of_inert ⟨⟨rfl, fun h => h⟩, fun completed => ?_⟩ hs'
    rcases completed with err | _
    · trivial
    refine (inert_createEvent _ _ _ _ id).bind fun _ => (o.inert_closeTransfer _ id).bind fun _ => ?_
    refine (o.inert_onTransferStateChange _ _ _ id).bind fun _ => ?_
    exact ((all_executeCleanup _).mono fun _ hop => hop.inert id).bind fun _ => trivial

theorem lands_handleFailed (o : Orchestrator) (errorMessage : String)
    (hs : s.stateOf id = some t.state) :
    Lands id (if t.retryMax ≤ t.retryCount ∧ t.state.Edge .failed then .failed else t.state)
      (o.handleFailed id errorMessage t) h s := by
  unfold handleFailed
  rw [applyRetryBackoff]
  by_cases hspent : t.retryMax ≤ t.retryCount
  · rw [if_pos hspent]
    have hexhausted : ¬ RetryAction.exhausted = RetryAction.retry := by decide
    dsimp only [Prog.pure_eq, Prog.pure_bind_eq]
    -- no retry is left
    rw [if_neg hexhausted]
    unfold handleExhausted
    cases hmove : t.transitionTo .failed with
    | error err =>
      rw [if_neg fun hboth => Transfer.not_edge_of_transitionTo_eq_error hmove hboth.2]
      exact .inr hs
    | ok t' =>
      rw [if_pos ⟨hspent, (Transfer.transitionTo_eq_ok.mp hmove).1⟩]
      refine Lands.write (Call.writtenState_eq_some.mpr (.inr ⟨_, rfl, rfl⟩)) hs
        fun written h' s' hs' => ?_
      rcases written with err | _
      · exact .inr hs'
      refine Lands.of_inert ?_ hs'
      refine (inert_createEvent _ _ _ _ id).bind fun _ => (o.inert_closeTransfer _ id).bind fun _ => ?_
      refine (o.inert_onTransferStateChange _ _ _ id).bind fun _ => ?_
      refine ((o.all_onTransferError _).mono fun _ hop => hop.passive.inert id).bind fun _ => ?_
      exact ((all_executeCleanup _).mono fun _ hop => hop.inert id).bind fun _ => trivial
  · -- the retry is counted, and that is all
    rw [if_neg hspent, if_neg fun hboth => hspent hboth.1]
    refine Lands.of_inert ⟨⟨rfl, fun h => h⟩, fun _ => ⟨⟨rfl, fun h => h⟩, fun counted => ?_⟩⟩ hs
    rcases counted with err | _
    · trivial
    exact (inert_createEvent _ _ _ _ id).bind fun _ => trivial

theorem lands_handleStatus (o : Orchestrator) (report : ProgressReport)
    (hs : s.stateOf report.transferID = some t.state) (hfunded : ¬ o.Overdraws report) :
    Lands report.transferID (t.stateAfter o report) (o.handleStatus report t) h s := by
  simp only [Transfer.stateAfter, hfunded, not_false_eq_true, true_and]
  unfold handleStatus
  split
  · exact o.lands_handleCompleted hs
  split
  · exact o.lands_handleFailed _ hs
  · exact .inr hs

/-- Where a report leaves the transfer that it is about. -/
theorem lands_handleProgress (o : Orchestrator) (report : ProgressReport)
    (ht : s.row report.transferID = some t) :
    Lands report.transferID (t.stateAfter o report) (o.handleProgress report) h s := by
  have hs : s.stateOf report.transferID = some t.state := by
    rw [Store.stateOf, ht]
    rfl
  have hprogress : (Call.repo (.updateTransferProgress report.transferID report.bytesTransferred
      report.bytesTotal report.chunksCompleted report.chunksTotal)).Inert report.transferID :=
    ⟨rfl, fun h => h⟩
  refine Prog.wp_perform fun env _ => ?_
  simp only [exec, execRepo, ht]
  cases hfail : env.fail with
  | some err =>
    rw [Env.answer_of_fail hfail]
    exact .inl (Faulted.snoc rfl)
  | none =>
    rw [Env.answer_of_ok hfail]
    refine Prog.wp_perform fun env' _ => ?_
    have hs₁ := (stateOf_exec_of_inert hprogress env' s).trans hs
    cases hfail' : env'.fail with
    | some err =>
      have hanswer : (exec env' (.repo (.updateTransferProgress report.transferID
          report.bytesTransferred report.bytesTotal report.chunksCompleted report.chunksTotal)) s).1 =
          .error err := by
        rw [exec, execRepo, Env.write_of_fail hfail']
      rw [hanswer]
      exact .inl (Faulted.snoc rfl)
    | none =>
      obtain ⟨s₁, hupdate, -, -⟩ := exec_updateTransferProgress hfail' report s
      rw [hupdate] at hs₁ ⊢
      -- up to the branches nothing touches the state, but the counter may panic
      refine Lands.after (inert_createEvent _ _ _ _ _) hs₁ fun _ h₂ s₂ hs₂ => ?_
      refine Lands.after ((o.all_publish _ _).mono fun _ hop => hop.passive.inert _) hs₂
        fun _ h₃ s₃ hs₃ => ?_
      refine o.wp_onProgressReport report (fun hfunded h₄ => ?_) fun hover h₄ => ?_
      · exact (Prog.wp_bind _ _).mpr (o.lands_handleStatus report hs₃ hfunded)
      · rw [Transfer.stateAfter_of_overdraws hover]
        exact .inr hs₃

end Orchestrator

/-! ## What is published about it -/

/-- The call publishes nothing. -/
def Call.Silent : Call → Prop
  | .publish .. => False
  | _ => True

theorem Call.Concludes.silent {op : Call} (h : op.Concludes) : op.Silent := by
  cases op with
  | publish id progress => cases h
  | _ => trivial

namespace Orchestrator

theorem publish_of_hub (o : Orchestrator) (hhub : o.progressHub = true) (id : UUID)
    (progress : EnrichedProgress) : o.publish id progress = .perform (Call.publish id progress) :=
  if_pos hhub

theorem publish_of_no_hub (o : Orchestrator) (hhub : ¬ o.progressHub = true) (id : UUID)
    (progress : EnrichedProgress) : o.publish id progress = .pure () :=
  if_neg hhub

section

variable [UUIDText] {id : UUID} {t : Transfer}

/-- If the call publishes, there is a hub, and the status is that of the report. -/
def Echoes (o : Orchestrator) (report : ProgressReport) : Call → Prop
  | .publish id progress =>
      o.progressHub = true ∧ id = report.transferID ∧ progress.status = report.status
  | _ => True

omit [UUIDText] in
theorem echoes_of_silent {o : Orchestrator} {report : ProgressReport} {op : Call} (hop : op.Silent) :
    o.Echoes report op := by
  cases op with
  | publish id progress => cases hop
  | _ => trivial

/-- What a report publishes copies its status. -/
theorem echoes_handleProgress (o : Orchestrator) (report : ProgressReport) :
    (o.handleProgress report).All (o.Echoes report) := by
  refine ⟨trivial, fun loaded => ?_⟩
  rcases loaded with err | (_ | transfer)
  · trivial
  · trivial
  refine ⟨trivial, fun updated => ?_⟩
  rcases updated with err | _
  · trivial
  refine ((concludes_createEvent _ _ _ _).mono fun _ h => echoes_of_silent h.silent).bind
    fun _ => ?_
  -- the one publish, of the enriched report
  have hpublish : (o.publish report.transferID
      (enrichProgress (rawProgress report) report.transferID.text)).All (o.Echoes report) := by
    by_cases hhub : o.progressHub = true
    · rw [o.publish_of_hub hhub]
      exact ⟨⟨hhub, rfl, rfl⟩, fun _ => trivial⟩
    · rw [o.publish_of_no_hub hhub]
      trivial
  refine hpublish.bind fun _ => ?_
  have hreport : (o.onProgressReport report.bytesTransferred report.speed).All (o.Echoes report) :=
    .ite ⟨trivial, fun _ => trivial⟩ trivial
  refine hreport.bind fun reported => ?_
  rcases reported with _ | _ | _
  · refine Prog.All.bind ?_ fun _ => trivial
    exact (o.concludes_handleStatus report).mono fun _ h => echoes_of_silent h.silent
  · trivial
  · trivial

end

variable {fresh : UUID}

/-- What is in the history stays there. -/
theorem wp_of_mem {α : Type} {h : List CallEv} {s : Store} {ev : CallEv} (p : Engine α)
    (hmem : ev ∈ h) : Prog.wp exec (Smooth fresh) p (fun _ h' _ => ev ∈ h') h s :=
  Prog.wp_of_invariant (I := fun h' _ => ev ∈ h') p
    (fun _ _ _ _ _ hold => List.mem_append_left _ hold) hmem

variable [UUIDText] {s : Store} {t : Transfer}

/-- A report for a transfer that is not stored is not published. -/
theorem wp_handleProgress_missing (o : Orchestrator) (report : ProgressReport)
    (hnone : s.row report.transferID = none) :
    Prog.wp exec (Healthy true) (o.handleProgress report) (fun _ h' _ =>
      ∀ ev ∈ h', ∀ id progress, ev.1 ≠ .publish id progress) [] s := by
  refine Prog.wp_perform fun env _ => ?_
  simp only [exec, execRepo, hnone]
  cases hfail : env.fail with
  | some err =>
    rw [Env.answer_of_fail hfail]
    show ∀ ev ∈ [_], _
    rw [List.forall_mem_singleton]
    intro id progress hpublish
    cases hpublish
  | none =>
    rw [Env.answer_of_ok hfail]
    show ∀ ev ∈ [_], _
    rw [List.forall_mem_singleton]
    intro id progress hpublish
    cases hpublish

/-- Without a failure, a report for a stored transfer is published. -/
theorem wp_handleProgress_published (o : Orchestrator) (report : ProgressReport)
    (hhub : o.progressHub = true) (ht : s.row report.transferID = some t) :
    Prog.wp exec (Smooth fresh) (o.handleProgress report) (fun _ h' _ =>
      (⟨.publish report.transferID (enrichProgress (rawProgress report) report.transferID.text), ()⟩ :
        CallEv) ∈ h') [] s := by
  refine Prog.wp_perform fun env henv => ?_
  simp only [exec, execRepo, Env.answer_of_ok henv.1, ht]
  refine Prog.wp_perform fun env' henv' => ?_
  obtain ⟨s₁, hupdate, -⟩ := exec_updateTransferProgress henv'.1 report s
  rw [hupdate]
  refine Prog.wp_skip fun _ h₂ s₂ => ?_
  rw [o.publish_of_hub hhub]
  refine Prog.wp_perform fun _ _ => wp_of_mem _ ?_
  exact List.mem_append_right _ (List.mem_singleton_self _)

end Orchestrator

section

variable [UUIDText]

/-- Every store, every report and every environment: terminal frames are sound
    exactly when there is no hub, or the transfer, if there is one, bears the report. -/
theorem terminalFramesSound_iff (o : Orchestrator) (report : ProgressReport) (s : Store) :
    TerminalFramesSound o report s ↔
      (o.progressHub = true → ∀ t, s.row report.transferID = some t → t.Bears o report) := by
  constructor
  · intro hsound hhub t ht
    -- a run without any failure
    obtain ⟨tr, a, s', hrun⟩ := Prog.exists_exec (M := exec) (exists_smooth 0)
      (o.handleProgress report) s
    have hquiet := Prog.wp_sound (Orchestrator.wp_unfaulted _ s) hrun
    have hpublished := Prog.wp_sound (o.wp_handleProgress_published report hhub ht) hrun
    have hrun' := hrun.mono Smooth.healthy
    have hlands : Lands report.transferID (t.stateAfter o report) (o.handleProgress report) [] s :=
      o.lands_handleProgress report ht
    rw [Transfer.bears_iff]
    intro final hfinal hstatus
    have hend := hsound tr a s' hrun' hquiet _ hpublished _ _ rfl final hfinal hstatus
    rcases Prog.wp_sound hlands hrun' with ⟨ev, hev, hfault⟩ | hafter
    · rw [hquiet ev hev] at hfault
      cases hfault
    · rw [hafter] at hend
      exact Option.some.inj hend
  -- any run: what is published copies the report, which the transfer bears
  · intro hbears tr a s' hrun hquiet ev hev id progress hop final hfinal hstatus
    have hechoes := hrun.all (o.echoes_handleProgress report) ev hev
    rw [hop] at hechoes
    obtain ⟨hhub, hid, hsame⟩ := hechoes
    have hsome : s.row report.transferID ≠ none := fun hnone =>
      Prog.wp_sound (o.wp_handleProgress_missing report hnone) hrun ev hev id progress hop
    obtain ⟨t, ht⟩ := Option.ne_none_iff_exists'.mp hsome
    have hlands : Lands report.transferID (t.stateAfter o report) (o.handleProgress report) [] s :=
      o.lands_handleProgress report ht
    rcases Prog.wp_sound hlands hrun with ⟨ev', hev', hfault⟩ | hafter
    · rw [hquiet ev' hev'] at hfault
      cases hfault
    · have hborne := Transfer.bears_iff.mp (hbears hhub t ht) final hfinal (hsame.symm.trans hstatus)
      rw [hid, hafter, hborne]

end

/-! ## A sample report -/

/-- The sample orchestrator, with a hub. -/
def hubOrchestrator : Orchestrator := { plainOrchestrator with progressHub := true }

/-- The transfer goes on, and its subscribers have been told that it has failed. -/
theorem not_terminalFramesSound_retried :
    ¬ ∀ report h s, Prog.SeqReach exec (Healthy false)
        (@Orchestrator.serve canonicalText hubOrchestrator) .empty h s →
      @TerminalFramesSound canonicalText hubOrchestrator report s := by
  intro hall
  have hend : (Prog.evalAll exec (Healthy false) (@Orchestrator.serve canonicalText hubOrchestrator)
      .empty [(.createTransfer sampleRequest, calls 7 21)]).any fun out =>
      (Prog.eval exec (Healthy true) (@Orchestrator.handleProgress canonicalText hubOrchestrator
        failedReport) out.2 (calls 100 11)).any fun out' =>
        (∀ ev ∈ out'.2.1, CallEv.faults ev = false) ∧
        Call.publish 7 (enrichProgress (Orchestrator.rawProgress failedReport) (canonicalString 7)) ∈
          out'.2.1.map (fun ev => ev.1) ∧
        out'.2.2.stateOf 7 = some .transferring := by
    decide +kernel
  obtain ⟨⟨h, s⟩, hruns, hreport⟩ := (Option.any_eq_true _ _).mp hend
  obtain ⟨⟨a, tr, s'⟩, hrun, hout⟩ := (Option.any_eq_true _ _).mp hreport
  obtain ⟨hquiet, hpublished, hstate⟩ := of_decide_eq_true hout
  obtain ⟨ev, hev, hop⟩ := List.mem_map.mp hpublished
  have hreach := Prog.SeqReach.init.of_evalAll hruns
  have hfailed := hall failedReport _ s hreach tr a s' (Prog.exec_of_eval hrun) hquiet ev hev _ _ hop
    .failed rfl rfl
  rw [hstate] at hfailed
  cases hfailed

end Katapult
