/-
  Katapult.Transfer.Reasons

  The reason of a failure, from the last failed report to the row and the
  timeline.

  A report that ends its transfer leaves one text in both (`brings_failure`), the
  one that is made from the reported error; `reasonKept_iff` says for which
  reports the text still gives the reason.
-/

import Katapult.Transfer.RetryFold
import Katapult.Observability.Reasons

namespace Katapult

open Effect Channel

/-- The row and the event of the failure give the reported reason, with a
    remediation behind it. -/
structure ReasonKept (report : ProgressReport) (s s' : Store) : Prop where
  stored : ∃ t', s'.row report.transferID = some t' ∧ Surfaces report.errorMessage t'.errorMessage
  recorded : ∃ message, s'.messages .failed report.transferID =
    s.messages .failed report.transferID ++ [message] ∧ Surfaces report.errorMessage message

/-- The row has been failed with the text, and one event recorded with it. -/
structure FailedWith (id : UUID) (text : String) (s s' : Store) : Prop where
  stored : ∃ t', s'.row id = some t' ∧ t'.state = .failed ∧ t'.errorMessage = text
  recorded : s'.messages .failed id = s.messages .failed id ++ [text]

section

variable [UUIDText] {s : Store} {t : Transfer} {report : ProgressReport}

/-- A failed report about a transfer that is under way and has no retry left: the
    failure is recorded, or the recorder panics before. -/
theorem Orchestrator.brings_failure (o : Orchestrator) (hrow : s.row report.transferID = some t)
    (hstate : t.state = .transferring) (hspent : t.retryMax ≤ t.retryCount)
    (hstatus : report.status = "failed") :
    Brings s (o.handleProgress report) fun _ s' =>
      (o.Overdraws report → s'.messages .failed report.transferID =
        s.messages .failed report.transferID) ∧
      (¬ o.Overdraws report → FailedWith report.transferID
        (enrichError (some report.errorMessage) {}).string s s') := by
  refine o.brings_report hrow fun s₁ noted t₁ _ hrow₁ htimeline₁ htype₁ =>
    ⟨fun hover => ?_, fun hfunded => ?_⟩
  · refine ⟨fun _ => ?_, fun hfunded => absurd hover hfunded⟩
    rw [Store.messages_append htimeline₁, htype₁, if_neg (by decide), List.append_nil]
  have hother : report.status ≠ "completed" := by
    rw [hstatus]
    decide
  unfold handleStatus
  rw [if_neg hother, if_pos hstatus]
  unfold handleFailed applyRetryBackoff
  rw [if_pos hspent]
  -- the state machine lets a transfer that is under way fail, so the update is not refused
  refine o.brings_handleExhausted hrow₁ (fun hedge => ?_)
    fun _ now e s₂ hrow₂ htimeline₂ htype₂ hmessage =>
      ⟨fun hover => absurd hover hfunded, fun _ => ⟨⟨_, hrow₂, rfl, rfl⟩, ?_⟩⟩
  · rw [hstate] at hedge
    exact absurd (by decide) hedge
  · rw [Store.messages_append htimeline₂, Store.messages_append htimeline₁, if_pos htype₂, hmessage,
      htype₁, if_neg (by decide), List.append_nil]

omit [UUIDText] in
/-- A text that is left gives the reason in both places or in neither. -/
theorem FailedWith.keeps_iff {text : String} {s' : Store}
    (h : FailedWith report.transferID text s s') :
    ReasonKept report s s' ↔ Surfaces report.errorMessage text := by
  obtain ⟨⟨t', hrow, -, htext⟩, hrecorded⟩ := h
  constructor
  · rintro ⟨⟨t'', hrow', hsurfaces⟩, -⟩
    rw [hrow] at hrow'
    cases hrow'
    exact htext ▸ hsurfaces
  · intro hsurfaces
    exact ⟨⟨t', hrow, htext ▸ hsurfaces⟩, _, hrecorded, hsurfaces⟩

/-- Every error text, every store and every run of the handler without a repository
    error: the reason is kept exactly if the recorder does not panic, and the text is
    not recognised, or is a piece of the text that takes its place. -/
theorem reasonKept_iff (o : Orchestrator) {s' : Store} {tr : List CallEv}
    {a : Attempt (Except Err Unit)}
    (hrow : s.row report.transferID = some t) (hstate : t.state = .transferring)
    (hspent : t.retryMax ≤ t.retryCount) (hstatus : report.status = "failed")
    (hrun : Prog.Exec exec Unfailed (o.handleProgress report) s tr a s') :
    ReasonKept report s s' ↔ ¬ o.Overdraws report ∧
      (Unrecognised report.errorMessage ∨ OwnWords report.errorMessage) := by
  obtain ⟨hpanics, hfailed⟩ := Prog.wp_sound (o.brings_failure hrow hstate hspent hstatus []) hrun
  by_cases hover : o.Overdraws report
  · refine iff_of_false ?_ fun hfunded => hfunded.1 hover
    rintro ⟨-, message, hrecorded, -⟩
    have hlength := congrArg List.length (hrecorded.symm.trans (hpanics hover))
    rw [List.length_append, List.length_singleton] at hlength
    omega
  · rw [and_iff_right hover]
    exact (hfailed hover).keeps_iff.trans (surfaces_iff report.errorMessage)

end

/-! ## Sample failures -/

/-- The sample transfer, created without a retry. -/
def noRetryStore : Store :=
  ((undisturbedEnd [(.createTransfer { sampleRequest with retryMax := some 0 }, calls 7 21)]).map
    Prod.snd).getD .empty

/-- A failed report with an error text. -/
def failedWith (errorMessage : String) : ProgressReport := { failedReport with errorMessage }

theorem noRetryStore_row :
    ∃ t, noRetryStore.row 7 = some t ∧ t.state = .transferring ∧ t.retryMax ≤ t.retryCount := by
  have hstore : (noRetryStore.row 7).any fun t =>
      t.state = .transferring ∧ t.retryMax ≤ t.retryCount := by decide +kernel
  obtain ⟨t, ht, hcolumns⟩ := (Option.any_eq_true _ _).mp hstore
  exact ⟨t, ht, of_decide_eq_true hcolumns⟩

/-- A report of it, handled alone. -/
def handled (errorMessage : String) :
    Option (Attempt (Except Err Unit) × List CallEv × Store) :=
  Prog.eval exec Unfailed
    (@Orchestrator.handleProgress canonicalText plainOrchestrator (failedWith errorMessage)) noRetryStore
    (calls 100 12)

theorem reasonKept_iff_exitStatus :
    ∃ a tr s', handled "exit status 2" = some (a, tr, s') ∧
      (ReasonKept (failedWith "exit status 2") noRetryStore s' ↔
        ¬ plainOrchestrator.Overdraws (failedWith "exit status 2") ∧
          (Unrecognised "exit status 2" ∨ OwnWords "exit status 2")) := by
  have hend : (handled "exit status 2").isSome := by decide +kernel
  obtain ⟨⟨a, tr, s'⟩, hrun⟩ := Option.isSome_iff_exists.mp hend
  obtain ⟨t, ht, hstate, hspent⟩ := noRetryStore_row
  exact ⟨a, tr, s', hrun, @reasonKept_iff canonicalText noRetryStore t (failedWith "exit status 2")
    plainOrchestrator s' tr a ht hstate hspent rfl (Prog.exec_of_eval hrun)⟩

/-- The disk of the destination is full: the row says so, but not which file could not
    be written. -/
theorem not_reasonKept_diskFull :
    ¬ ∀ (o : Orchestrator) (report : ProgressReport) (s s' : Store) (t : Transfer) (tr : List CallEv)
        (a : Attempt (Except Err Unit)),
      s.row report.transferID = some t → t.state = .transferring → t.retryMax ≤ t.retryCount →
      report.status = "failed" →
      Prog.Exec exec Unfailed (@Orchestrator.handleProgress canonicalText o report) s tr a s' →
      ReasonKept report s s' := by
  intro hall
  let reason := "write /data/000042.sst: no space left on device"
  have hend : (handled reason).any fun out => (out.2.2.row 7).any fun t =>
      contains t.errorMessage reason = false := by decide +kernel
  obtain ⟨⟨a, tr, s'⟩, hrun, hout⟩ := (Option.any_eq_true _ _).mp hend
  obtain ⟨t', ht', hlost⟩ := (Option.any_eq_true _ _).mp hout
  obtain ⟨t, ht, hstate, hspent⟩ := noRetryStore_row
  have hkept := hall plainOrchestrator (failedWith reason) noRetryStore s' t tr a ht hstate hspent rfl
    (Prog.exec_of_eval hrun)
  -- the stored text would have the reported one in it
  obtain ⟨t'', ht'', hsurfaces⟩ := hkept.stored
  rw [show (failedWith reason).transferID = 7 from rfl, ht'] at ht''
  cases ht''
  have hcontains : contains t'.errorMessage reason = true := contains_of_surfaces hsurfaces
  rw [of_decide_eq_true hlost] at hcontains
  cases hcontains

end Katapult
