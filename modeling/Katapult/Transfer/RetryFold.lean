/-
  Katapult.Transfer.RetryFold

  Failed reports about one transfer, handled one after the other.

  `Handled` says once what a report that is not one of completion does: its
  progress is noted, and a failed one counts a retry while there is one left,
  then ends the transfer, then is refused.  One that overdraws makes the recorder
  panic before it is counted.  What a list of reports comes to, by the ones that
  are counted (`retryFold_of_rounds`), is an induction over its rounds;
  `retryFold_iff` says when that is what its failed reports should come to.
-/

import Katapult.Transfer.Retries

namespace Katapult

open Effect Channel

/-- The messages of the retries that are recorded for a transfer, in their order. -/
def Store.attempts (s : Store) (id : UUID) : List String :=
  ((s.timeline id).filter fun e => e.eventType = .retried).map TransferEvent.message

/-- The messages of the events of one type that are recorded for a transfer, in their order. -/
def Store.messages (s : Store) (eventType : EventType) (id : UUID) : List String :=
  ((s.timeline id).filter fun e => e.eventType = eventType).map TransferEvent.message

/-- One more event. -/
theorem Store.messages_append {s s' : Store} {id : UUID} {e : TransferEvent}
    (h : s'.timeline id = s.timeline id ++ [e]) (eventType : EventType) :
    s'.messages eventType id =
      s.messages eventType id ++ if e.eventType = eventType then [e.message] else [] := by
  rw [messages, h, List.filter_append, List.map_append, messages]
  congr 1
  by_cases htype : e.eventType = eventType
  · simp [htype]
  · simp [htype]

theorem Store.attempts_append {s s' : Store} {id : UUID} {e : TransferEvent}
    (h : s'.timeline id = s.timeline id ++ [e]) :
    s'.attempts id = s.attempts id ++ if e.eventType = .retried then [e.message] else [] :=
  messages_append h .retried

theorem Store.attempts_congr {s s' : Store} {id : UUID} (h : s'.timeline id = s.timeline id) :
    s'.attempts id = s.attempts id := by
  rw [attempts, h, attempts]

/-- The message of the event for a retry. -/
def retryMessage (attempt : Int) : String := "Retrying transfer, attempt " ++ toString attempt

/-- The messages of the first `n` retries. -/
def retryMessages (n : Nat) : List String := (List.range n).map fun k : Nat => retryMessage (k + 1)

theorem retryMessages_succ (n : Nat) :
    retryMessages (n + 1) = retryMessages n ++ [retryMessage (n + 1)] := by
  rw [retryMessages, List.range_succ, List.map_append]
  rfl

/-! ## One report -/

/-- The report says that the transfer has failed. -/
def ProgressReport.fails (report : ProgressReport) : Bool := report.status = "failed"

/-- It does, and the handler gets to the branch for it. -/
def Orchestrator.counts (o : Orchestrator) (report : ProgressReport) : Bool :=
  report.status = "failed" ∧ ¬ o.Overdraws report

/-- What a report that is not one of completion does to its transfer `t`. -/
inductive Handled (o : Orchestrator) (id : UUID) (report : ProgressReport) (t : Transfer) (s : Store) :
    Attempt (Except Err Unit) → Store → Prop where
  | noted {t' : Transfer} {s' : Store} (funded : ¬ o.Overdraws report)
      (uncounted : o.counts report = false) (recounted : t.Recounted t') (row : s'.row id = some t')
      (attempts : s'.attempts id = s.attempts id) : Handled o id report t s (.done (.ok ())) s'
  | panicked {t' : Transfer} {s' : Store} (overdrawn : o.Overdraws report)
      (uncounted : o.counts report = false) (recounted : t.Recounted t') (row : s'.row id = some t')
      (attempts : s'.attempts id = s.attempts id) : Handled o id report t s .panics s'
  | retried {t' : Transfer} {s' : Store} (counted : o.counts report = true)
      (left : t.retryCount < t.retryMax) (recounted : t.Recounted t')
      (row : s'.row id = some { t' with retryCount := t.retryCount + 1 })
      (attempts : s'.attempts id = s.attempts id ++ [retryMessage (t.retryCount + 1)]) :
      Handled o id report t s (.done (.ok ())) s'
  | exhausted {t' : Transfer} {now : Time} {errorMessage : String} {s' : Store}
      (counted : o.counts report = true) (spent : t.retryMax ≤ t.retryCount)
      (edge : t.state.Edge .failed) (recounted : t.Recounted t')
      (row : s'.row id = some { t' with state := .failed, errorMessage, completedAt := some now })
      (attempts : s'.attempts id = s.attempts id) : Handled o id report t s (.done (.ok ())) s'
  | refused {t' : Transfer} {err : Err} {s' : Store} (counted : o.counts report = true)
      (spent : t.retryMax ≤ t.retryCount) (edge : ¬ t.state.Edge .failed)
      (recounted : t.Recounted t') (row : s'.row id = some t')
      (attempts : s'.attempts id = s.attempts id) : Handled o id report t s (.done (.error err)) s'

/-- A report that overdraws panics, and no other. -/
theorem Handled.panics_iff {o : Orchestrator} {id : UUID} {report : ProgressReport} {t : Transfer}
    {s s' : Store} {a : Attempt (Except Err Unit)} (h : Handled o id report t s a s') :
    a = .panics ↔ o.Overdraws report := by
  have hfunded : o.counts report = true → ¬ o.Overdraws report := fun hcounts =>
    (of_decide_eq_true hcounts).2
  cases h with
  | noted funded => exact iff_of_false nofun funded
  | panicked overdrawn => exact iff_of_true rfl overdrawn
  | retried counted => exact iff_of_false nofun (hfunded counted)
  | exhausted counted => exact iff_of_false nofun (hfunded counted)
  | refused counted => exact iff_of_false nofun (hfunded counted)

theorem Call.Passive.not_isRepo {op : Call} (hop : op.Passive) : op.isRepo = false := by
  cases op <;> first | exact hop.elim | rfl

/-- Every run of the program from `s` in which no statement fails ends in `Q`. -/
def Brings {α : Type} (s : Store) (p : Engine α) (Q : α → Store → Prop) : Prop :=
  ∀ h, Prog.wp exec Unfailed p (fun a _ s' => Q a s') h s

section

variable {α β : Type} {s : Store} {Q : α → Store → Prop}

theorem Brings.return {a : α} (h : Q a s) : Brings s (.pure a) Q := fun _ => h

theorem Brings.passive {p : Engine β} {f : β → Engine α} (hp : p.All Call.Passive)
    (hf : ∀ b, Brings s (f b) Q) : Brings s (p >>= f) Q := by
  intro h
  induction p generalizing h with
  | pure b => exact hf b h
  | call op k ih =>
    intro env _
    rw [exec_of_not_isRepo hp.1.not_isRepo]
    exact ih _ (hp.2 _) _

variable [UUIDText]

theorem Brings.statement {call : RepoCall} {f : (Call.repo call).Ans → Engine α}
    (hf : ∀ env s', (∀ id, s'.row id = call.onRow env id (s.row id)) →
      (∀ id, s'.timeline id = s.timeline id ++
        CallEv.recorded id ⟨.repo call, (account call.transferID [] s).answer call⟩) →
      Brings s' (f ((account call.transferID [] s).answer call)) Q) :
    Brings s (Prog.perform (Call.repo call) >>= f) Q := by
  intro h
  refine Prog.wp_perform fun env hok => ?_
  obtain ⟨s', hexec, hrow, htimeline⟩ := hok.execRepo_eq
  rw [hexec]
  exact hf env s' hrow htimeline _

/-- A statement on the other table leaves the events alone. -/
theorem Brings.update {call : RepoCall} {f : (Call.repo call).Ans → Engine α}
    (hcall : ∀ e, call ≠ .createTransferEvent e)
    (hf : ∀ env s', (∀ id, s'.row id = call.onRow env id (s.row id)) →
      (∀ id, s'.timeline id = s.timeline id) →
      Brings s' (f ((account call.transferID [] s).answer call)) Q) :
    Brings s (Prog.perform (Call.repo call) >>= f) Q := by
  refine .statement fun env s' hrow htimeline => hf env s' hrow fun id => ?_
  have hsilent : CallEv.recorded id ⟨.repo call, (account call.transferID [] s).answer call⟩ = [] := by
    rcases CallEv.recorded_cases id ⟨.repo call, (account call.transferID [] s).answer call⟩ with
      hnone | ⟨e, hop, -, -⟩
    · exact hnone
    · cases hop
      exact absurd rfl (hcall e)
  rw [htimeline, hsilent, List.append_nil]

omit [UUIDText] in
theorem Brings.read {id : UUID} {f : Except Err (Option Transfer) → Engine α}
    (hf : Brings s (f (.ok (s.row id))) Q) : Brings s (Engine.getTransferByID id >>= f) Q := by
  intro h
  refine Prog.wp_perform fun env hok => ?_
  simp only [exec, execRepo, Env.answer_of_ok (hok.repoSucceeds rfl)]
  exact hf _

theorem Brings.createEvent {id : UUID} {eventType : EventType} {message : String}
    {metadata : Option (List (String × String))} {f : Unit → Engine α}
    (hf : ∀ s' e, (∀ id', s'.row id' = s.row id') → s'.timeline id = s.timeline id ++ [e] →
      e.eventType = eventType → e.message = message → Brings s' (f ()) Q) :
    Brings s (createEvent id eventType message metadata >>= f) Q := by
  refine .passive (p := Engine.newUUID) ⟨trivial, fun _ => trivial⟩ fun eventID => ?_
  refine .passive (p := Engine.timeNow) ⟨trivial, fun _ => trivial⟩ fun now => ?_
  refine .statement fun env s' hrow htimeline =>
    hf s' ⟨eventID, id, eventType, message, metadata, now⟩ hrow ?_ rfl rfl
  rw [htimeline]
  simp only [CallEv.recorded, Account.answer, if_true]

end

section

variable [UUIDText] {s : Store} {t t' : Transfer} {report : ProgressReport}

/-- The end of a failed report without a retry left: the transfer is failed and the
    failure recorded, both with the text of the error, or the report is refused. -/
theorem Orchestrator.brings_handleExhausted (o : Orchestrator) {id : UUID} {errorMessage : String}
    {Q : Except Err Unit → Store → Prop} (hrow : s.row id = some t')
    (hrefused : ¬ t.state.Edge .failed → ∀ err, Q (.error err) s)
    (hended : t.state.Edge .failed → ∀ now e s',
      s'.row id = some
        { t' with
          state := .failed, errorMessage := (enrichError (some errorMessage) {}).string,
          completedAt := some now } →
      s'.timeline id = s.timeline id ++ [e] → e.eventType = .failed →
      e.message = (enrichError (some errorMessage) {}).string → Q (.ok ()) s') :
    Brings s (o.handleExhausted id errorMessage t) Q := by
  unfold handleExhausted
  split
  · rename_i hmove
    exact .return (hrefused (Transfer.not_edge_of_transitionTo_eq_error hmove) _)
  rename_i transfer hmove
  obtain ⟨hedge, rfl⟩ := Transfer.transitionTo_eq_ok.mp hmove
  refine .update (by simp) fun env s₁ hrow₁ htimeline₁ =>
    .createEvent fun s₂ e hrow₂ htimeline₂ htype hmessage => ?_
  refine .passive ((o.all_closeTransfer _).mono fun _ h => h.passive) fun _ => ?_
  refine .passive ((o.all_onTransferStateChange _ _ _).mono fun _ h => h.passive) fun _ => ?_
  refine .passive ((o.all_onTransferError _).mono fun _ h => h.passive) fun _ => ?_
  refine .passive (all_executeCleanup _) fun _ => .return ?_
  -- nothing after the statement touches the row
  have hlast := hrow₂ id
  rw [hrow₁, RepoCall.onRow, if_pos rfl, hrow] at hlast
  exact hended hedge env.now e s₂ hlast (htimeline₂.trans (by rw [htimeline₁])) htype hmessage

/-- A failed report, once its progress has been noted. -/
theorem Orchestrator.brings_handleFailed (o : Orchestrator) {s' : Store}
    (hcounts : o.counts report = true) (hrecounted : t.Recounted t')
    (hrow : s'.row report.transferID = some t')
    (hattempts : s'.attempts report.transferID = s.attempts report.transferID) :
    Brings s' (o.handleFailed report.transferID report.errorMessage t)
      (fun a => Handled o report.transferID report t s (.done a)) := by
  unfold handleFailed applyRetryBackoff
  by_cases hleft : t.retryCount < t.retryMax
  · rw [if_neg (not_le.mpr hleft)]
    -- the delay is drawn, and only logged
    refine .passive (p := Engine.randFloat64) ⟨trivial, fun _ => trivial⟩ fun u => ?_
    refine .update (by simp) fun env s₁ hrow₁ htimeline₁ =>
      .createEvent fun s₂ e hrow₂ htimeline₂ htype hmessage => ?_
    have hcount : t'.retryCount = t.retryCount := by
      obtain ⟨_, _, _, _, rfl⟩ := hrecounted
      rfl
    refine .return (.retried hcounts hleft hrecounted ?_ ?_)
    · rw [hrow₂, hrow₁, RepoCall.onRow, if_pos rfl, hrow, ← hcount]
      rfl
    · rw [Store.attempts_append htimeline₂, Store.attempts_congr (htimeline₁ _), if_pos htype,
        hmessage, hattempts]
      rfl
  · rw [if_pos (not_lt.mp hleft)]
    have hspent := not_lt.mp hleft
    refine o.brings_handleExhausted hrow (fun hedge err => ?_)
      fun hedge now e s₂ hlast htimeline htype _ => ?_
    · exact .refused hcounts hspent hedge hrecounted hrow hattempts
    · refine .exhausted hcounts hspent hedge hrecounted hlast ?_
      rw [Store.attempts_append htimeline, htype, if_neg (by decide), List.append_nil, hattempts]

/-- What comes first for every report about a transfer that is stored: its progress is
    noted and recorded. -/
theorem Orchestrator.brings_report (o : Orchestrator) {Q : Attempt (Except Err Unit) → Store → Prop}
    (hrow : s.row report.transferID = some t)
    (hrest : ∀ s' e t', t.Recounted t' → s'.row report.transferID = some t' →
      s'.timeline report.transferID = s.timeline report.transferID ++ [e] →
      e.eventType = .progress →
      (o.Overdraws report → Q .panics s') ∧
      (¬ o.Overdraws report → Brings s' (o.handleStatus report t) fun a => Q (.done a))) :
    Brings s (o.handleProgress report) Q := by
  unfold handleProgress
  refine .read ?_
  rw [hrow]
  refine .update (by simp) fun env s₁ hrow₁ htimeline₁ =>
    .createEvent fun s₂ e hrow₂ htimeline₂ htype _ => ?_
  refine .passive ((o.all_publish _ _).mono fun _ h => h.passive) fun _ => ?_
  -- what was read is out of date by the progress that has been noted
  have hnoted := hrow₂ report.transferID
  rw [hrow₁, RepoCall.onRow, if_pos rfl, hrow] at hnoted
  obtain ⟨hpanics, hdone⟩ :=
    hrest s₂ e _ ⟨_, _, _, _, rfl⟩ hnoted (htimeline₂.trans (by rw [htimeline₁])) htype
  intro h
  refine o.wp_onProgressReport report (fun hfunded h' => ?_) fun hover _ => hpanics hover
  exact (Prog.wp_bind _ _).mpr (hdone hfunded h')

/-- Any report but one of completion, about a transfer that is stored. -/
theorem Orchestrator.brings_handleProgress (o : Orchestrator) (hrow : s.row report.transferID = some t)
    (hstatus : report.status ≠ "completed") :
    Brings s (o.handleProgress report) (Handled o report.transferID report t s) := by
  refine o.brings_report hrow fun s' e t' hrecounted hnoted htimeline htype => ?_
  have hattempts : s'.attempts report.transferID = s.attempts report.transferID := by
    rw [Store.attempts_append htimeline, htype, if_neg (by decide), List.append_nil]
  refine ⟨fun hover => ?_, fun hfunded => ?_⟩
  · exact .panicked hover (decide_eq_false fun hcounts => hcounts.2 hover) hrecounted hnoted hattempts
  unfold handleStatus
  rw [if_neg hstatus]
  split
  · rename_i hfailed
    exact o.brings_handleFailed (decide_eq_true ⟨hfailed, hfunded⟩) hrecounted hnoted hattempts
  · rename_i hother
    exact .return (.noted hfunded (decide_eq_false fun hcounts => hother hcounts.1) hrecounted hnoted
      hattempts)

end

/-! ## Any list of reports -/

/-- One report, as it was handled. -/
abbrev ReportRound : Type := Prog.Round ProgressReport (Attempt (Except Err Unit)) Store

/-- The reports of a list that are of one kind. -/
def countReports (p : ProgressReport → Bool) (rounds : List ReportRound) : Nat :=
  rounds.countP fun round => p round.request

theorem countReports_snoc (p : ProgressReport → Bool) (rounds : List ReportRound)
    (round : ReportRound) :
    countReports p (rounds ++ [round]) =
      countReports p rounds + if p round.request = true then 1 else 0 := by
  simp [countReports, List.countP_append, List.countP_singleton]

theorem countReports_le_of_prefix {p : ProgressReport → Bool} {rounds rounds' : List ReportRound}
    (h : rounds <+: rounds') : countReports p rounds ≤ countReports p rounds' :=
  h.sublist.countP_le

/-- The report with which a count goes beyond `n`. -/
theorem exists_of_lt_countReports {p : ProgressReport → Bool} {n : Nat} {rounds : List ReportRound}
    (h : n < countReports p rounds) :
    ∃ earlier round, earlier ++ [round] <+: rounds ∧ p round.request = true ∧
      countReports p earlier = n := by
  induction rounds using List.reverseRecOn with
  | nil => exact absurd h (Nat.not_lt_zero n)
  | append_singleton rounds round ih =>
    by_cases hbefore : n < countReports p rounds
    · obtain ⟨earlier, round', hbegins, hround', hn⟩ := ih hbefore
      exact ⟨earlier, round', hbegins.trans (List.prefix_append _ _), hround', hn⟩
    · rw [countReports_snoc] at h
      split at h
      · rename_i hround
        exact ⟨rounds, round, List.prefix_rfl, hround, by omega⟩
      · omega

/-- What a failed report comes to once the retries are used up: the first one ends the
    transfer, and the others are answered with an error. -/
structure Exhausts (p : ProgressReport → Bool) (id : UUID) (m : Int) (earlier : List ReportRound)
    (round : ReportRound) : Prop where
  first : (countReports p earlier : Int) = max m 0 → round.answer = .done (.ok ()) ∧
    round.before.stateOf id = some .transferring ∧ round.after.stateOf id = some .failed
  later : max m 0 < (countReports p earlier : Int) → (∃ err, round.answer = .done (.error err)) ∧
    ∃ t t', round.before.row id = some t ∧ round.after.row id = some t' ∧ t'.state = t.state ∧
      t'.retryCount = t.retryCount ∧ t'.completedAt = t.completedAt

/-- What a list of reports comes to that are failures if `p` says so, for a transfer
    with the retry limit `m` whose recorded retries were `past`. -/
structure RetryFold (p : ProgressReport → Bool) (id : UUID) (m : Int) (past : List String)
    (rounds : List ReportRound) (s : Store) : Prop where
  /-- The retries are counted up to the limit, and one more failure ends the transfer. -/
  row : ∃ t, s.row id = some t ∧ t.retryMax = m ∧
    t.retryCount = min (countReports p rounds : Int) (max m 0) ∧
    t.state = if max m 0 < (countReports p rounds : Int) then .failed else .transferring
  /-- One event for each of them, numbered from 1. -/
  attempts : s.attempts id = past ++ retryMessages (min (countReports p rounds : Int) (max m 0)).toNat
  exhausts : ∀ earlier round, earlier ++ [round] <+: rounds → p round.request = true →
    Exhausts p id m earlier round

namespace RetryFold

variable {p : ProgressReport → Bool} {o : Orchestrator} {id : UUID} {m : Int} {past : List String}
variable {rounds : List ReportRound} {s : Store}

theorem init {t : Transfer} (hrow : s.row id = some t) (hstate : t.state = .transferring)
    (hcount : t.retryCount = 0) (hmax : t.retryMax = m) : RetryFold p id m (s.attempts id) [] s where
  row := by
    have hbound : ¬ max m 0 < ((countReports p [] : Nat) : Int) := by simp [countReports]
    refine ⟨t, hrow, hmax, ?_, ?_⟩
    · simp [countReports, hcount]
    · rw [hstate, if_neg hbound]
  attempts := by simp [countReports, retryMessages]
  exhausts := by simp

/-- One more report. -/
theorem snoc {report : ProgressReport} {t : Transfer} {a : Attempt (Except Err Unit)} {s' : Store}
    (h : RetryFold o.counts id m past rounds s) (hrow : s.row id = some t)
    (hhandled : Handled o id report t s a s') :
    RetryFold o.counts id m past (rounds ++ [⟨report, s, a, s'⟩]) s' := by
  obtain ⟨t₀, hrow₀, hmax, hcount, hstate⟩ := h.row
  rw [hrow] at hrow₀
  cases hrow₀
  -- only the last round is new
  have hexhausts : (o.counts report = true → Exhausts o.counts id m rounds ⟨report, s, a, s'⟩) →
      ∀ earlier round, earlier ++ [round] <+: rounds ++ [⟨report, s, a, s'⟩] →
        o.counts round.request = true → Exhausts o.counts id m earlier round := by
    intro hlast earlier round hbegins hcounts
    rcases List.prefix_concat_iff.mp hbegins with heq | hold
    · obtain ⟨rfl, hround⟩ := List.append_inj' heq rfl
      cases hround
      exact hlast hcounts
    · exact h.exhausts earlier round hold hcounts
  have hfailures := countReports_snoc o.counts rounds ⟨report, s, a, s'⟩
  -- a report that is not counted only notes its progress
  have huncounted : ∀ t', o.counts report = false → t.Recounted t' → s'.row id = some t' →
      s'.attempts id = s.attempts id → RetryFold o.counts id m past (rounds ++ [⟨report, s, a, s'⟩]) s' := by
    rintro _ hnot ⟨_, _, _, _, rfl⟩ row attempts
    have hnot' : ¬ o.counts report = true := by simp [hnot]
    rw [if_neg hnot', Nat.add_zero] at hfailures
    refine ⟨⟨_, row, hmax, ?_, ?_⟩, ?_, hexhausts fun hcounts => absurd hcounts hnot'⟩
    · rw [hfailures]
      exact hcount
    · rw [hfailures]
      exact hstate
    · rw [hfailures, attempts]
      exact h.attempts
  cases hhandled with
  | noted funded uncounted recounted row attempts => exact huncounted _ uncounted recounted row attempts
  | panicked overdrawn uncounted recounted row attempts =>
    exact huncounted _ uncounted recounted row attempts
  | @retried t' _ counted left recounted row attempts =>
    rw [if_pos counted] at hfailures
    obtain ⟨_, _, _, _, rfl⟩ := recounted
    -- fewer reports than the limit have failed so far
    have hleft : (countReports o.counts rounds : Int) < m := by omega
    have hopen : ¬ max m 0 < ((countReports o.counts rounds + 1 : Nat) : Int) := by omega
    have hbound : (min (countReports o.counts rounds : Int) (max m 0)).toNat =
        countReports o.counts rounds := by omega
    have hbound' : (min ((countReports o.counts rounds + 1 : Nat) : Int) (max m 0)).toNat =
        countReports o.counts rounds + 1 := by omega
    refine ⟨⟨_, row, hmax, ?_, ?_⟩, ?_, hexhausts fun _ => ⟨?_, ?_⟩⟩
    · rw [hfailures]
      show t.retryCount + 1 = _
      omega
    · rw [hfailures, if_neg hopen]
      exact hstate.trans (if_neg (by omega))
    · have hnumber : t.retryCount = (countReports o.counts rounds : Int) := by omega
      rw [hfailures, attempts, h.attempts, hbound, hbound', retryMessages_succ, List.append_assoc,
        hnumber]
    · intro hfirst
      omega
    · intro hlater
      omega
  | @exhausted t' now errorMessage _ counted spent edge recounted row attempts =>
    rw [if_pos counted] at hfailures
    -- an ended transfer cannot be ended again
    have hopen : ¬ max m 0 < (countReports o.counts rounds : Int) := by
      intro hspent
      rw [hstate, if_pos hspent] at edge
      exact absurd edge (by decide)
    rw [if_neg hopen] at hstate
    have hlast : max m 0 < ((countReports o.counts rounds + 1 : Nat) : Int) := by omega
    obtain ⟨_, _, _, _, rfl⟩ := recounted
    refine ⟨⟨_, row, hmax, ?_, ?_⟩, ?_, hexhausts fun _ => ⟨fun _ => ⟨rfl, ?_, ?_⟩, ?_⟩⟩
    · rw [hfailures]
      show t.retryCount = _
      omega
    · rw [hfailures, if_pos hlast]
    · rw [hfailures, attempts, h.attempts]
      congr 3
      omega
    · rw [Store.stateOf, hrow, Option.map_some, hstate]
    · rw [Store.stateOf, row]
      rfl
    · exact fun hlater => absurd hlater hopen
  | @refused t' err _ counted spent edge recounted row attempts =>
    rw [if_pos counted] at hfailures
    -- an open transfer would have been ended
    have hended : max m 0 < (countReports o.counts rounds : Int) := by
      by_contra hopen
      rw [hstate, if_neg hopen] at edge
      exact edge (by decide)
    rw [if_pos hended] at hstate
    have hlast : max m 0 < ((countReports o.counts rounds + 1 : Nat) : Int) := by omega
    obtain ⟨_, _, _, _, rfl⟩ := recounted
    refine ⟨⟨_, row, hmax, ?_, ?_⟩, ?_, hexhausts fun _ => ⟨?_, fun _ => ?_⟩⟩
    · rw [hfailures]
      show t.retryCount = _
      omega
    · rw [hfailures, if_pos hlast]
      exact hstate
    · rw [hfailures, attempts, h.attempts]
      congr 3
      omega
    · intro hfirst
      omega
    · exact ⟨⟨err, rfl⟩, t, _, hrow, row, rfl, rfl, rfl⟩

end RetryFold

/-- Every report of a list panics that overdraws, and no other. -/
def PanicsOverdrawn (o : Orchestrator) (rounds : List ReportRound) : Prop :=
  ∀ round ∈ rounds, round.answer = .panics ↔ o.Overdraws round.request

/-- Any list of reports without one of completion, handled one after the other on a
    transfer that is under way and has no retry behind it, while the repository
    does not fail: what it comes to, by the failed reports that are counted. -/
theorem retryFold_of_rounds [UUIDText] (o : Orchestrator) {id : UUID} {m : Int} {s₀ s : Store}
    {t₀ : Transfer} {rounds : List ReportRound} (hrow : s₀.row id = some t₀)
    (hstate : t₀.state = .transferring) (hcount : t₀.retryCount = 0) (hmax : t₀.retryMax = m)
    (hrounds : Prog.Rounds exec Unfailed o.handleProgress s₀ rounds s)
    (hreports : ∀ round ∈ rounds, round.request.transferID = id ∧ round.request.status ≠ "completed") :
    RetryFold o.counts id m (s₀.attempts id) rounds s ∧ PanicsOverdrawn o rounds := by
  revert hreports
  refine hrounds.invariant (I := fun rounds s => (∀ round ∈ rounds,
    round.request.transferID = id ∧ round.request.status ≠ "completed") →
      RetryFold o.counts id m (s₀.attempts id) rounds s ∧ PanicsOverdrawn o rounds) ?_ ?_
  · exact fun _ => ⟨.init hrow hstate hcount hmax, fun _ hround => absurd hround List.not_mem_nil⟩
  · intro report rounds s hfold
    by_cases hall : (∀ round ∈ rounds, round.request.transferID = id ∧
        round.request.status ≠ "completed") ∧ report.transferID = id ∧ report.status ≠ "completed"
    · obtain ⟨hold, rfl, hstatus⟩ := hall
      obtain ⟨hbefore, hpanics⟩ := hfold hold
      obtain ⟨t, ht, -⟩ := hbefore.row
      refine Prog.wp_mono (o.brings_handleProgress ht hstatus []) fun a _ s' hhandled _ => ?_
      refine ⟨hbefore.snoc ht hhandled, ?_⟩
      rw [PanicsOverdrawn, List.forall_mem_append, List.forall_mem_singleton]
      exact ⟨hpanics, hhandled.panics_iff⟩
    · -- nothing is said about a list with a report of another kind
      refine Prog.wp_mono (Prog.wp_of_invariant (I := fun _ _ => True) _
        (fun _ _ _ _ _ _ => trivial) trivial) ?_
      intro a _ s' _ hreports
      rw [List.forall_mem_append, List.forall_mem_singleton] at hreports
      exact absurd hreports hall

section

variable {o : Orchestrator} {report : ProgressReport} {rounds : List ReportRound} {round : ReportRound}

theorem fails_of_counts (h : o.counts report = true) : report.fails = true :=
  decide_eq_true (of_decide_eq_true h).1

theorem counts_of_fails (h : report.fails = true) (hfunded : ¬ o.Overdraws report) :
    o.counts report = true :=
  decide_eq_true ⟨of_decide_eq_true h, hfunded⟩

theorem countReports_counts_le (o : Orchestrator) (rounds : List ReportRound) :
    countReports o.counts rounds ≤ countReports ProgressReport.fails rounds :=
  List.countP_mono_left fun _ _ => fails_of_counts

/-- A failed report that overdraws is not counted. -/
theorem countReports_counts_lt (hmem : round ∈ rounds) (hround : round.request.fails = true)
    (hover : o.Overdraws round.request) :
    countReports o.counts rounds < countReports ProgressReport.fails rounds := by
  have hnot : o.counts round.request = false := decide_eq_false fun hcounts => hcounts.2 hover
  obtain ⟨earlier, rest, rfl⟩ := List.append_of_mem hmem
  have hearlier := countReports_counts_le o earlier
  have hrest := countReports_counts_le o rest
  simp only [countReports, List.countP_append, List.countP_cons, hnot, hround] at hearlier hrest ⊢
  simp only [Bool.false_eq_true, if_false, if_true]
  omega

end

namespace RetryFold

variable {p q : ProgressReport → Bool} {o : Orchestrator} {id : UUID} {m : Int} {past : List String}
variable {rounds : List ReportRound} {s : Store}

/-- Two kinds that the reports of the list cannot tell apart. -/
theorem congr (h : RetryFold p id m past rounds s)
    (hsame : ∀ round ∈ rounds, p round.request = q round.request) :
    RetryFold q id m past rounds s := by
  have hcounts : ∀ earlier, earlier <+: rounds → countReports p earlier = countReports q earlier := by
    intro earlier hbegins
    refine List.countP_congr fun round hround => ?_
    rw [hsame round (hbegins.subset hround)]
  obtain ⟨hrow, hattempts, hexhausts⟩ := h
  rw [hcounts rounds List.prefix_rfl] at hrow hattempts
  refine ⟨hrow, hattempts, fun earlier round hbegins hround => ?_⟩
  have hmem : round ∈ rounds := hbegins.subset (List.mem_append_right _ (List.mem_singleton_self _))
  have hround' := hexhausts earlier round hbegins ((hsame round hmem).trans hround)
  have hearlier := hcounts earlier ((List.prefix_append _ _).trans hbegins)
  exact ⟨hearlier ▸ hround'.first, hearlier ▸ hround'.later⟩

/-- The failed report that ends the transfer and those behind it do not panic. -/
theorem not_panics (h : RetryFold p id m past rounds s) {earlier : List ReportRound}
    {round : ReportRound} (hbegins : earlier ++ [round] <+: rounds) (hround : p round.request = true)
    (hspent : max m 0 ≤ (countReports p earlier : Int)) : round.answer ≠ .panics := by
  obtain ⟨hfirst, hlater⟩ := h.exhausts earlier round hbegins hround
  rcases hspent.eq_or_lt with heq | hlt
  · rw [(hfirst heq.symm).1]
    nofun
  · obtain ⟨⟨err, herr⟩, -⟩ := hlater hlt
    rw [herr]
    nofun

/-- Where the counted reports come to what the failed ones should, they are the same. -/
theorem not_overdraws (hfails : RetryFold ProgressReport.fails id m past rounds s)
    (hcounts : RetryFold o.counts id m past rounds s) (hpanics : PanicsOverdrawn o rounds)
    {round : ReportRound} (hmem : round ∈ rounds) (hround : round.request.fails = true) :
    ¬ o.Overdraws round.request := by
  intro hover
  have hfewer : countReports o.counts rounds < countReports ProgressReport.fails rounds :=
    countReports_counts_lt hmem hround hover
  -- the two say the same of the row only if the limit was passed by those that are counted
  have hspent : max m 0 < (countReports o.counts rounds : Int) := by
    obtain ⟨t, ht, -, hfailed, hstate⟩ := hfails.row
    obtain ⟨t', ht', -, hcounted, hstate'⟩ := hcounts.row
    obtain rfl : t = t' := Option.some.inj (ht.symm.trans ht')
    by_contra hopen
    have hopen' : ¬ max m 0 < (countReports ProgressReport.fails rounds : Int) := by
      intro hlt
      rw [if_pos hlt] at hstate
      rw [if_neg hopen, hstate] at hstate'
      cases hstate'
    omega
  -- the report that ends the transfer: as many have failed before it as were counted
  have hpassed : (max m 0).toNat < countReports o.counts rounds := by omega
  obtain ⟨earlier, last, hbegins, hlast, hn⟩ := exists_of_lt_countReports hpassed
  have hended : ¬ max m 0 < (countReports ProgressReport.fails earlier : Int) := by
    intro hlater
    obtain ⟨⟨err, herr⟩, -⟩ := (hfails.exhausts earlier last hbegins (fails_of_counts hlast)).later hlater
    have hfirst := (hcounts.exhausts earlier last hbegins hlast).first (by omega)
    rw [hfirst.1] at herr
    cases herr
  have hbefore : round ∉ earlier := by
    intro hin
    have hfewer := countReports_counts_lt hin hround hover
    omega
  -- and the report that panics does not come after it
  obtain ⟨earlier', rest, rfl⟩ := List.append_of_mem hmem
  have hbegins' : earlier' ++ [round] <+: earlier' ++ round :: rest := ⟨rest, by simp⟩
  have hearly : ¬ max m 0 ≤ (countReports ProgressReport.fails earlier' : Int) := fun hlate =>
    hfails.not_panics hbegins' hround hlate ((hpanics round hmem).mpr hover)
  have hround' : round ∈ earlier' ++ [round] := List.mem_append_right _ (List.mem_singleton_self _)
  rcases List.prefix_or_prefix_of_prefix hbegins' ((List.prefix_append _ _).trans hbegins) with hin | hin
  · exact hbefore (hin.subset hround')
  · rcases List.prefix_concat_iff.mp hin with rfl | hin
    · exact hbefore hround'
    · have hfew := countReports_le_of_prefix (p := ProgressReport.fails) hin
      have hle := countReports_counts_le o earlier
      omega

end RetryFold

/-- Any list of reports without one of completion, handled one after the other on a
    transfer that is under way and has no retry behind it, while the repository does
    not fail: it comes to what its failed reports should exactly when none of these
    makes the recorder panic. -/
theorem retryFold_iff [UUIDText] (o : Orchestrator) {id : UUID} {m : Int} {s₀ s : Store}
    {t₀ : Transfer} {rounds : List ReportRound} (hrow : s₀.row id = some t₀)
    (hstate : t₀.state = .transferring) (hcount : t₀.retryCount = 0) (hmax : t₀.retryMax = m)
    (hrounds : Prog.Rounds exec Unfailed o.handleProgress s₀ rounds s)
    (hreports : ∀ round ∈ rounds, round.request.transferID = id ∧ round.request.status ≠ "completed") :
    RetryFold ProgressReport.fails id m (s₀.attempts id) rounds s ↔
      ∀ round ∈ rounds, round.request.fails = true → ¬ o.Overdraws round.request := by
  obtain ⟨hcounts, hpanics⟩ := retryFold_of_rounds o hrow hstate hcount hmax hrounds hreports
  constructor
  · intro hfails round hmem hround
    exact hfails.not_overdraws hcounts hpanics hmem hround
  · intro hfunded
    refine hcounts.congr fun round hmem => ?_
    rw [Bool.eq_iff_iff]
    exact ⟨fails_of_counts, fun hround => counts_of_fails hround (hfunded round hmem hround)⟩

/-! ## Sample reports -/

/-- A report that says nothing about an end. -/
def idleReport : ProgressReport := { failedReport with status := "running" }

/-- For a transfer with one retry: three failed reports, and two others between them. -/
def fiveReports : List (ProgressReport × List Env) :=
  [(idleReport, calls 100 5), (failedReport, calls 200 10), (failedReport, calls 300 12),
    (idleReport, calls 400 5), (failedReport, calls 500 5)]

/-- The rounds of a sample run, and the store at its end. -/
def sampleRounds (runs : List (ProgressReport × List Env)) : Option (List ReportRound × Store) :=
  Prog.evalRounds exec Unfailed (@Orchestrator.handleProgress canonicalText plainOrchestrator)
    oneRetryStore runs

theorem retryFold_iff_fiveReports :
    ∃ rounds s, sampleRounds fiveReports = some (rounds, s) ∧
      countReports ProgressReport.fails rounds = 3 ∧
      (RetryFold ProgressReport.fails 7 1 (oneRetryStore.attempts 7) rounds s ↔
        ∀ round ∈ rounds, round.request.fails = true →
          ¬ plainOrchestrator.Overdraws round.request) := by
  have hend : (sampleRounds fiveReports).any fun out =>
      countReports ProgressReport.fails out.1 = 3 ∧
        ∀ round ∈ out.1, round.request.transferID = 7 ∧ round.request.status ≠ "completed" := by
    decide +kernel
  have hstart : (oneRetryStore.row 7).any fun t => t.state = .transferring := by decide +kernel
  obtain ⟨⟨rounds, s⟩, hruns, hout⟩ := (Option.any_eq_true _ _).mp hend
  obtain ⟨hfailures, hreports⟩ := of_decide_eq_true hout
  obtain ⟨t, ht, hcount, hmax, -⟩ := oneRetryStore_row
  have hstate : t.state = .transferring := by
    rw [ht] at hstart
    exact of_decide_eq_true hstart
  exact ⟨rounds, s, hruns, hfailures, @retryFold_iff canonicalText plainOrchestrator 7 1
    oneRetryStore s t rounds ht hstate hcount hmax
    (Prog.Rounds.init.of_evalRounds hruns) hreports⟩

/-- The sample orchestrator, with a recorder. -/
def recordedOrchestrator : Orchestrator := { plainOrchestrator with metrics := true }

/-- A failed report with a negative number of bytes. -/
def negativeReport : ProgressReport := { failedReport with bytesTransferred := -1 }

/-- The counter panics before the retry is counted. -/
theorem not_retryFold_negative :
    ¬ ∀ (o : Orchestrator) (id : UUID) (m : Int) (s₀ s : Store) (t₀ : Transfer)
        (rounds : List ReportRound),
      s₀.row id = some t₀ → t₀.state = .transferring → t₀.retryCount = 0 → t₀.retryMax = m →
      Prog.Rounds exec Unfailed (@Orchestrator.handleProgress canonicalText o) s₀ rounds s →
      (∀ round ∈ rounds, round.request.transferID = id ∧ round.request.status ≠ "completed") →
      RetryFold ProgressReport.fails id m (s₀.attempts id) rounds s := by
  intro hall
  have hend : (Prog.evalRounds exec Unfailed
      (@Orchestrator.handleProgress canonicalText recordedOrchestrator) oneRetryStore
      [(negativeReport, calls 100 6)]).any fun out => countReports ProgressReport.fails out.1 = 1 ∧
        (∀ round ∈ out.1, round.request.transferID = 7 ∧ round.request.status ≠ "completed") ∧
        (out.2.row 7).any fun t => t.retryCount = 0 := by decide +kernel
  have hstart : (oneRetryStore.row 7).any fun t => t.state = .transferring := by decide +kernel
  obtain ⟨⟨rounds, s⟩, hruns, hout⟩ := (Option.any_eq_true _ _).mp hend
  obtain ⟨hone, hreports, huncounted⟩ := of_decide_eq_true hout
  obtain ⟨t₀, ht₀, hcount, hmax, -⟩ := oneRetryStore_row
  rw [ht₀] at hstart
  obtain ⟨t, ht, -, hretries, -⟩ := (hall recordedOrchestrator 7 1 oneRetryStore s t₀ rounds ht₀
    (of_decide_eq_true hstart) hcount hmax (Prog.Rounds.init.of_evalRounds hruns) hreports).row
  rw [ht, Option.any_some] at huncounted
  rw [of_decide_eq_true huncounted, hone] at hretries
  revert hretries
  decide

end Katapult
