/-
  Katapult.Transfer.Reports

  Reports that come late.

  A report is written into the row and into the timeline before the state of
  the transfer is looked at, so a transfer that has ended is not left alone,
  whatever the status of the report; and a report whose transition is then
  refused has left its mark already.  `lateInert_iff` says which transfers and
  reports are safe: those that `Transfer.Awaits` describes.
-/

import Katapult.Transfer.Sequential

namespace Katapult

open Effect

/-- Late and repeated reports are inert: a report changes nothing about a
    transfer that has ended, and nothing when it is answered with an error that
    is not one of the repository. -/
structure LateInert [UUIDText] (o : Orchestrator) (report : ProgressReport) (s : Store) : Prop where
  ended : ∀ t, s.row report.transferID = some t → t.isTerminal = true →
    ∀ tr a s', Prog.Exec exec (Healthy true) (o.handleProgress report) s tr a s' →
      s'.row report.transferID = some t ∧
      s'.timeline report.transferID = s.timeline report.transferID ∧
      ∀ ev ∈ tr, ∀ id progress, ev.1 ≠ .publish id progress
  refused : ∀ tr err s',
    Prog.Exec exec (Healthy true) (o.handleProgress report) s tr (.done (.error err)) s' →
    (∀ ev ∈ tr, CallEv.faults ev = false) →
    s'.row report.transferID = s.row report.transferID ∧
    s'.timeline report.transferID = s.timeline report.transferID

/-- The transfer is under way, and the transition that the report asks for, if the
    recorder does not panic before, is one that its state allows. -/
structure Transfer.Awaits (o : Orchestrator) (t : Transfer) (report : ProgressReport) : Prop where
  opened : t.isTerminal = false
  completed : ¬ o.Overdraws report → report.status = "completed" → t.state.Edge .completed
  failed : ¬ o.Overdraws report → report.status = "failed" → t.retryMax ≤ t.retryCount →
    t.state.Edge .failed

/-! ## What is safe -/

/-- Some statement on a row has failed. -/
def Faulted (h : List CallEv) : Prop := ∃ ev ∈ h, CallEv.faults ev = true

theorem Faulted.snoc {h : List CallEv} {call : RepoCall} {r : call.Ans} (hfault : call.faults r = true) :
    Faulted (history h ⟨.repo call, r⟩) :=
  ⟨_, List.mem_append_right _ (List.mem_singleton_self _), hfault⟩

/-- The program answers with an error only after a failed statement. -/
abbrev ErrsOnFault {α : Type} (h : List CallEv) (p : Engine (Except Err α)) : Prop :=
  Prog.Obeys history (fun _ _ => True) (fun a h' => ∀ err, a = .error err → Faulted h') h p

section

variable {α β : Type} {h : List CallEv}

/-- In front of a program, a part whose answers are not passed on. -/
theorem ErrsOnFault.after {p : Engine β} {f : β → Engine (Except Err α)}
    (hf : ∀ b h', ErrsOnFault h' (f b)) : ErrsOnFault h (p >>= f) :=
  Prog.Obeys.skip_history (Prog.all_of_forall (fun _ _ => trivial) p) fun b h' _ => hf b h'

theorem ErrsOnFault.return {a : α} : ErrsOnFault h (.pure (.ok a)) := nofun

theorem ErrsOnFault.wp {ok : Env → Call → Store → Prop} {p : Engine (Except Err α)} {s : Store}
    (hp : ErrsOnFault h p) :
    Prog.wp exec ok p (fun a h' _ => ∀ err, a = .error err → Faulted h') h s := by
  have hall : Prog.wp exec ok p
      (fun a h' _ => ∀ err, a = .error err → Faulted (h'.foldl history [])) h s := by
    refine Prog.wp_of_obeys (δ := history) (m := []) (Φ := fun _ _ => True)
      (Ψ := fun (a : Except Err α) h' => ∀ err, a = .error err → Faulted h') ?_
    rw [foldl_history, List.nil_append]
    exact hp
  refine Prog.wp_mono hall fun a h' s' herr => ?_
  rwa [foldl_history, List.nil_append] at herr

end

namespace Orchestrator

variable [UUIDText] {h : List CallEv} {id : UUID} {t : Transfer}

theorem errsOnFault_handleCompleted (o : Orchestrator) (hedge : t.state.Edge .completed) :
    ErrsOnFault h (o.handleCompleted id t) := by
  unfold handleCompleted
  split
  · rename_i hmove
    exact absurd hedge (Transfer.not_edge_of_transitionTo_eq_error hmove)
  refine Prog.Obeys.perform trivial fun written => ?_
  rcases written with err | _
  · exact fun _ _ => Faulted.snoc rfl
  refine Prog.Obeys.perform trivial fun completed => ?_
  rcases completed with err | _
  · exact fun _ _ => Faulted.snoc rfl
  refine ErrsOnFault.after fun _ _ => ErrsOnFault.after fun _ _ => ?_
  exact ErrsOnFault.after fun _ _ => ErrsOnFault.after fun _ _ => ErrsOnFault.return

theorem errsOnFault_handleFailed (o : Orchestrator) (errorMessage : String)
    (hedge : t.retryMax ≤ t.retryCount → t.state.Edge .failed) :
    ErrsOnFault h (o.handleFailed id errorMessage t) := by
  unfold handleFailed
  rw [applyRetryBackoff]
  split
  · -- no retry is left
    rename_i hspent
    dsimp only [Prog.pure_eq, Prog.pure_bind_eq]
    rw [if_neg nofun]
    unfold handleExhausted
    split
    · rename_i hmove
      exact absurd (hedge hspent) (Transfer.not_edge_of_transitionTo_eq_error hmove)
    refine Prog.Obeys.perform trivial fun written => ?_
    rcases written with err | _
    · exact fun _ _ => Faulted.snoc rfl
    refine ErrsOnFault.after fun _ _ => ErrsOnFault.after fun _ _ => ErrsOnFault.after fun _ _ => ?_
    exact ErrsOnFault.after fun _ _ => ErrsOnFault.after fun _ _ => ErrsOnFault.return
  · refine Prog.Obeys.perform trivial fun u => Prog.Obeys.perform trivial fun counted => ?_
    rcases counted with err | _
    · exact fun _ _ => Faulted.snoc rfl
    exact ErrsOnFault.after fun _ _ => ErrsOnFault.return

theorem errsOnFault_handleStatus (o : Orchestrator) (report : ProgressReport)
    (hcompleted : report.status = "completed" → t.state.Edge .completed)
    (hfailed : report.status = "failed" → t.retryMax ≤ t.retryCount → t.state.Edge .failed) :
    ErrsOnFault h (o.handleStatus report t) := by
  unfold handleStatus
  split
  · rename_i hstatus
    exact o.errsOnFault_handleCompleted (hcompleted hstatus)
  split
  · rename_i hstatus
    exact o.errsOnFault_handleFailed _ (hfailed hstatus)
  · exact ErrsOnFault.return

/-- A report that its transfer awaits is answered with an error only when the
    repository fails; one for a transfer that is not there does nothing. -/
theorem wp_handleProgress_error (o : Orchestrator) (report : ProgressReport) (s : Store)
    (hawaits : ∀ t, s.row report.transferID = some t → t.Awaits o report) :
    Prog.wp exec (Healthy true) (o.handleProgress report)
      (fun a h' s' => ∀ err, a = .done (.error err) → Faulted h' ∨ s' = s) [] s := by
  refine Prog.wp_perform fun env _ => ?_
  simp only [exec, execRepo]
  cases hfail : env.fail with
  | some err =>
    rw [Env.answer_of_fail hfail]
    exact fun _ _ => .inl (Faulted.snoc rfl)
  | none =>
    rw [Env.answer_of_ok hfail]
    cases hrow : s.row report.transferID with
    | none => exact fun _ _ => .inr rfl
    | some t =>
      obtain ⟨-, hcompleted, hfailed⟩ := hawaits t hrow
      refine Prog.wp_perform fun env' _ => ?_
      generalize exec env' (.repo (.updateTransferProgress ..)) s = out
      rcases out with ⟨err | _, s₁⟩
      · exact fun _ _ => .inl (Faulted.snoc rfl)
      -- from here on, an error is one that a statement has answered
      refine Prog.wp_skip fun _ _ _ => Prog.wp_skip fun _ _ _ => ?_
      refine o.wp_onProgressReport report (fun hfunded h' => ?_) fun _ _ => ?_
      · have herrs := o.errsOnFault_handleStatus report (h := h') (hcompleted hfunded) (hfailed hfunded)
        refine (Prog.wp_bind _ _).mpr (Prog.wp_mono herrs.wp fun a h'' s' herr err ha => ?_)
        cases ha
        exact .inl (herr err rfl)
      · intro err ha
        cases ha

end Orchestrator

/-! ## What is not -/

/-- Nothing fails, and identifiers are drawn to be `fresh`. -/
def Smooth (fresh : UUID) (env : Env) (_ : Call) (_ : Store) : Prop :=
  env.fail = none ∧ env.uuid = fresh

/-- Nothing need fail. -/
theorem exists_smooth (fresh : UUID) (op : Call) (s : Store) : ∃ env, Smooth fresh env op s :=
  ⟨{ uuid := fresh }, rfl, rfl⟩

theorem Smooth.healthy {fresh : UUID} (env : Env) (op : Call) (s : Store)
    (_ : Smooth fresh env op s) : Healthy true env op s := .inl rfl

/-- Without a failure, no statement on a row is refused. -/
theorem faults_exec {env : Env} (hfail : env.fail = none) (op : Call) (s : Store) :
    CallEv.faults ⟨op, (exec env op s).1⟩ = false := by
  cases op with
  | repo call => cases call <;> simp [CallEv.faults, RepoCall.faults, RepoCall.errs, exec, execRepo,
      Env.write, Env.answer, hfail, Store.updateTransfer]
  | _ => rfl

/-- The first statement about a report, if the repository does not fail. -/
theorem exec_updateTransferProgress {env : Env} (hfail : env.fail = none) (report : ProgressReport)
    (s : Store) :
    ∃ s', exec env (.repo (.updateTransferProgress report.transferID report.bytesTransferred
        report.bytesTotal report.chunksCompleted report.chunksTotal)) s = (.ok (), s') ∧
      s'.events = s.events ∧ (s.row report.transferID ≠ none → s'.row report.transferID ≠ none) := by
  obtain ⟨s', hs', hevents, hrow⟩ := s.updateTransfer_eq_ok report.transferID (fun t =>
    { t with
      bytesTransferred := report.bytesTransferred, bytesTotal := report.bytesTotal
      chunksCompleted := report.chunksCompleted, chunksTotal := report.chunksTotal }) fun _ => rfl
  refine ⟨s', Env.write_of_ok hfail (Store.updateTransfer · report.transferID _ _) hs', hevents, ?_⟩
  rw [hrow, if_pos rfl]
  exact fun hsome hnone => hsome (Option.map_eq_none_iff.mp hnone)

/-- The report asks for a transition that the state does not allow. -/
def Transfer.Refuses (t : Transfer) (report : ProgressReport) : Prop :=
  (report.status = "completed" ∧ ¬ t.state.Edge .completed) ∨
    (report.status = "failed" ∧ t.retryMax ≤ t.retryCount ∧ ¬ t.state.Edge .failed)

namespace Orchestrator

variable {s : Store} {t : Transfer} {fresh : UUID}

/-- Without a failure, the history shows none. -/
theorem wp_unfaulted {α : Type} (p : Engine α) (s : Store) :
    Prog.wp exec (Smooth fresh) p (fun _ h' _ => ∀ ev ∈ h', CallEv.faults ev = false) [] s := by
  refine Prog.wp_of_invariant (I := fun h _ => ∀ ev ∈ h, CallEv.faults ev = false) p ?_ (by simp)
  intro env op h s₁ hok hpast
  rw [List.forall_mem_append, List.forall_mem_singleton]
  exact ⟨hpast, faults_exec hok.1 op s₁⟩

/-- What follows the first two statements records the report. -/
theorem wp_recorded {id : UUID} {message : String} {metadata : Option (List (String × String))}
    {α : Type} (f : Unit → Engine α) (h : List CallEv) (hrow : s.row id ≠ none)
    (hfresh : s.events.find? fresh = none) :
    Prog.wp exec (Smooth fresh) (createEvent id .progress message metadata >>= f)
      (fun _ _ s' => (s.timeline id).length < (s'.timeline id).length) h s := by
  intro env₁ h₁ env₂ _ env₃ h₃
  obtain ⟨s', hins⟩ := Store.insertEvent_isOk (e := ⟨env₁.uuid, id, .progress, message, metadata,
    env₂.now⟩) hrow (h₁.2.symm ▸ hfresh)
  have hrecorded := timeline_exec_eq env₃ (.repo (.createTransferEvent
    ⟨env₁.uuid, id, .progress, message, metadata, env₂.now⟩)) s id
  have hanswer : (exec env₃ (.repo (.createTransferEvent
      ⟨env₁.uuid, id, .progress, message, metadata, env₂.now⟩)) s).1 = .ok () := by
    simp only [exec, execRepo, Env.write_of_ok h₃.1 (Store.insertEvent · _) hins]
    rfl
  rw [hanswer] at hrecorded
  refine Prog.wp_of_invariant _ ?_ ?_
  · intro env op h s₁ _ hlong
    rw [timeline_exec_eq, List.length_append]
    omega
  · have hlength := congrArg List.length hrecorded
    rw [List.length_append] at hlength
    refine lt_of_lt_of_eq ?_ hlength.symm
    simp [CallEv.recorded]

variable [UUIDText]

/-- A report for a transfer that is stored leaves its mark. -/
theorem wp_handleProgress_recorded (o : Orchestrator) (report : ProgressReport)
    (hrow : s.row report.transferID = some t) (hfresh : s.events.find? fresh = none) :
    Prog.wp exec (Smooth fresh) (o.handleProgress report) (fun _ _ s' =>
      (s.timeline report.transferID).length < (s'.timeline report.transferID).length) [] s := by
  refine Prog.wp_perform fun env henv => ?_
  simp only [exec, execRepo, Env.answer_of_ok henv.1, hrow]
  refine Prog.wp_perform fun env' henv' => ?_
  obtain ⟨s₁, hupdate, hevents, hstays⟩ := exec_updateTransferProgress henv'.1 report s
  have hsame : s₁.timeline report.transferID = s.timeline report.transferID := by
    rw [Store.timeline, hevents, Store.timeline]
  have hstored : s₁.row report.transferID ≠ none := hstays (by rw [hrow]; exact Option.some_ne_none t)
  rw [hupdate, ← hsame]
  exact wp_recorded _ _ hstored (hevents ▸ hfresh)

/-- If the transfer refuses the report, and the recorder does not panic, the answer is
    an error nevertheless. -/
theorem wp_handleProgress_refused (o : Orchestrator) (report : ProgressReport)
    (hrow : s.row report.transferID = some t) (hrefuses : t.Refuses report)
    (hfunded : ¬ o.Overdraws report) :
    Prog.wp exec (Smooth fresh) (o.handleProgress report)
      (fun a _ _ => ∃ err, a = .done (.error err)) [] s := by
  refine Prog.wp_perform fun env henv => ?_
  simp only [exec, execRepo, Env.answer_of_ok henv.1, hrow]
  refine Prog.wp_perform fun env' henv' => ?_
  obtain ⟨s₁, hupdate, -⟩ := exec_updateTransferProgress henv'.1 report s
  rw [hupdate]
  -- the event, the publication and the metrics come before the transition
  refine Prog.wp_skip fun _ _ _ => Prog.wp_skip fun _ _ _ => ?_
  refine o.wp_onProgressReport report (fun _ h' => ?_) fun hover _ => absurd hover hfunded
  refine (Prog.wp_bind _ _).mpr ?_
  unfold handleStatus
  rcases hrefuses with ⟨hstatus, hedge⟩ | ⟨hstatus, hspent, hedge⟩
  · rw [if_pos hstatus]
    unfold handleCompleted
    split
    · exact ⟨_, rfl⟩
    · rename_i hmove
      exact absurd (Transfer.transitionTo_eq_ok.mp hmove).1 hedge
  · have hother : report.status ≠ "completed" := by
      rw [hstatus]
      decide
    rw [if_neg hother, if_pos hstatus]
    unfold handleFailed
    rw [applyRetryBackoff, if_pos hspent]
    dsimp only [Prog.pure_eq, Prog.pure_bind_eq]
    have hexhausted : ¬ RetryAction.exhausted = RetryAction.retry := by decide
    rw [if_neg hexhausted]
    unfold handleExhausted
    split
    · exact ⟨_, rfl⟩
    · rename_i hmove
      exact absurd (Transfer.transitionTo_eq_ok.mp hmove).1 hedge

end Orchestrator

section

variable [UUIDText]

/-- Every store, every report and every environment: late reports are inert
    exactly when the transfer, if there is one, awaits the report. -/
theorem lateInert_iff (o : Orchestrator) (report : ProgressReport) (s : Store)
    (hroom : ∃ fresh, s.events.find? fresh = none) :
    LateInert o report s ↔ ∀ t, s.row report.transferID = some t → t.Awaits o report := by
  constructor
  · rintro ⟨hended, hrefused⟩ t hrow
    obtain ⟨fresh, hfresh⟩ := hroom
    -- a run without any failure
    obtain ⟨tr, a, s', hrun⟩ := Prog.exists_exec (M := exec) (exists_smooth fresh)
      (o.handleProgress report) s
    have hquiet := Prog.wp_sound (Orchestrator.wp_unfaulted _ s) hrun
    have hlonger := Prog.wp_sound (o.wp_handleProgress_recorded report hrow hfresh) hrun
    have hrun' := hrun.mono Smooth.healthy
    have haccepts : ¬ o.Overdraws report → ¬ t.Refuses report := by
      intro hfunded hrefuses
      obtain ⟨err, rfl⟩ :=
        Prog.wp_sound (o.wp_handleProgress_refused report hrow hrefuses hfunded) hrun
      have hsame := (hrefused tr err s' hrun' hquiet).2
      rw [hsame] at hlonger
      exact absurd hlonger (Nat.lt_irrefl _)
    refine ⟨?_, fun hfunded hstatus => ?_, fun hfunded hstatus hspent => ?_⟩
    · by_contra hterm
      obtain ⟨-, hsame, -⟩ := hended t hrow (by simpa using hterm) tr a s' hrun'
      rw [hsame] at hlonger
      exact absurd hlonger (Nat.lt_irrefl _)
    · by_contra hedge
      exact haccepts hfunded (.inl ⟨hstatus, hedge⟩)
    · by_contra hedge
      exact haccepts hfunded (.inr ⟨hstatus, hspent, hedge⟩)
  · intro hawaits
    refine ⟨fun t hrow hterm => ?_, fun tr err s' hrun hquiet => ?_⟩
    · rw [(hawaits t hrow).opened] at hterm
      cases hterm
    · rcases Prog.wp_sound (o.wp_handleProgress_error report s hawaits) hrun err rfl with hfault | rfl
      · obtain ⟨ev, hev, hfaults⟩ := hfault
        rw [hquiet ev hev] at hfaults
        cases hfaults
      · exact ⟨rfl, rfl⟩

end

/-! ## Sample reports -/

/-- The report that ends a sample transfer. -/
def completedReport : ProgressReport where
  transferID := 7
  bytesTransferred := 1024
  bytesTotal := 1024
  status := "completed"

/-- A transfer under way, when the report arrives for the first time. -/
theorem lateInert_firstReport :
    ∃ h s, sampleEnd false [(.createTransfer sampleRequest, calls 7 21)] = some (h, s) ∧
      @LateInert canonicalText plainOrchestrator completedReport s := by
  have hend : (sampleEnd false [(.createTransfer sampleRequest, calls 7 21)]).any fun out =>
      out.2.stateOf 7 = some .transferring ∧ out.2.events.find? 100 = none := by decide +kernel
  obtain ⟨⟨h, s⟩, hruns, hout⟩ := (Option.any_eq_true _ _).mp hend
  obtain ⟨hstate, hroom⟩ := of_decide_eq_true hout
  refine ⟨h, s, hruns, (@lateInert_iff canonicalText plainOrchestrator completedReport s
    ⟨100, hroom⟩).mpr fun t hrow => ?_⟩
  have hrow : s.row 7 = some t := hrow
  have htransferring : t.state = .transferring := by
    rw [Store.stateOf, hrow] at hstate
    exact Option.some.inj hstate
  refine ⟨?_, fun _ _ => ?_, fun _ hfailed => absurd hfailed (by decide)⟩
  · rw [Transfer.isTerminal, htransferring]
    rfl
  · rw [htransferring]
    decide

/-- The same report once more, after it has completed the transfer. -/
theorem not_lateInert_redelivered :
    ¬ ∀ report h s, Prog.SeqReach exec (Healthy false)
        (@Orchestrator.serve canonicalText plainOrchestrator) .empty h s →
      @LateInert canonicalText plainOrchestrator report s := by
  intro hall
  have hend : (sampleEnd false [(.createTransfer sampleRequest, calls 7 21),
      (.handleProgress completedReport, calls 100 13)]).any fun out =>
      (out.2.row 7).any fun t => t.isTerminal = true ∧
        (Prog.eval exec (Healthy true) (@Orchestrator.handleProgress canonicalText plainOrchestrator
          completedReport) out.2 (calls 200 5)).any fun out' =>
          out'.2.2.timeline 7 ≠ out.2.timeline 7 := by decide +kernel
  obtain ⟨⟨h, s⟩, hruns, hrow⟩ := (Option.any_eq_true _ _).mp hend
  obtain ⟨t, hrow, hout⟩ := (Option.any_eq_true _ _).mp hrow
  obtain ⟨hterm, hagain⟩ := of_decide_eq_true hout
  obtain ⟨⟨a, tr, s'⟩, hrun, hchanged⟩ := (Option.any_eq_true _ _).mp hagain
  have hinert := hall completedReport h s (reach_sampleEnd hruns)
  obtain ⟨-, hsame, -⟩ := @LateInert.ended canonicalText _ _ _ hinert t hrow hterm tr a s'
    (Prog.exec_of_eval hrun)
  exact (of_decide_eq_true hchanged) hsame

end Katapult
