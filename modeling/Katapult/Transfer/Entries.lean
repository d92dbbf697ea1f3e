/-
  Katapult.Transfer.Entries

  What each of the three operations does to the account of its transfer, when
  the repository does not fail.

  A cancellation or a progress report does one of four things (`Entry`), a
  creation one of four others (`Opening`).  The programs are walked here once;
  what holds of every transfer after a sequential run is read off these cases.
-/

import Katapult.Transfer.Account
import Katapult.Transfer.Sequential

namespace Katapult

open Effect

/-! ## The journal of a run -/

/-- The journal goes on, by changes that the lifecycle has. -/
structure Journal.Extends (timed : Bool) (j j' : Journal) : Prop where
  clock : timed = true → j.clock ≤ j'.clock
  changes : ∃ l, j'.changes = j.changes ++ l ∧ ∀ c ∈ l, c.1.Edge c.2

theorem Journal.Extends.refl (timed : Bool) (j : Journal) : j.Extends timed j :=
  ⟨fun _ => le_refl _, [], (List.append_nil _).symm, by simp⟩

theorem Journal.Extends.trans {timed : Bool} {j j' j'' : Journal} (h : j.Extends timed j')
    (h' : j'.Extends timed j'') : j.Extends timed j'' := by
  obtain ⟨l, hl, hedges⟩ := h.changes
  obtain ⟨l', hl', hedges'⟩ := h'.changes
  refine ⟨fun ht => le_trans (h.clock ht) (h'.clock ht), l ++ l', ?_, ?_⟩
  · rw [hl', hl, List.append_assoc]
  · intro c hc
    rcases List.mem_append.mp hc with hold | hnew
    · exact hedges c hold
    · exact hedges' c hnew

/-- The change of a stored state is one that the lifecycle has, or none. -/
def Lawful (state state' : Option TransferState) : Prop :=
  ∀ c ∈ stateChange state state', c.1.Edge c.2

theorem lawful_self (state : Option TransferState) : Lawful state state := by
  simp [Lawful]

theorem lawful_of_none (state : Option TransferState) : Lawful none state := by
  simp [Lawful, stateChange]

theorem lawful_of_edge {state target : TransferState} (h : state.Edge target) :
    Lawful (some state) (some target) := by
  intro c hc
  simp only [stateChange] at hc
  split at hc
  · cases hc
  · rw [List.mem_singleton.mp hc]
    exact h

/-! ## Rules -/

/-- Every run of the program from the account `m` and the journal `j`, which goes
    on from `j₀`, ends in `Q`. -/
def Entered [UUIDText] {α : Type} (timed : Bool) (j₀ : Journal) (p : Engine α)
    (Q : α → Account → Journal → Prop) (m : Account) (j : Journal) : Prop :=
  j₀.Extends timed j → ∀ h, Prog.wp execAccount (SteadyAccount timed) p
    (fun a _ w => j.Extends timed w.2 ∧ Q a w.1 w.2) h (m, j)

section

variable [UUIDText] {α β : Type} {timed : Bool} {Q : α → Account → Journal → Prop} {m : Account}
variable {j₀ j : Journal}

theorem Entered.pure {a : α} (h : Q a m j) : Entered timed j₀ (.pure a) Q m j :=
  fun _ _ => ⟨.refl _ _, h⟩

/-- What the journal shows so far. -/
theorem Entered.past {p : Engine α} (h : j₀.Extends timed j → Entered timed j₀ p Q m j) :
    Entered timed j₀ p Q m j :=
  fun hj => h hj hj

/-- What the journal will show at the end. -/
theorem Entered.future {p : Engine α}
    (h : Entered timed j₀ p (fun a m' j' => j.Extends timed j' → Q a m' j') m j) :
    Entered timed j₀ p Q m j :=
  fun hj hist => Prog.wp_mono (h hj hist) fun _ _ _ hend => ⟨hend.1, hend.2 hend.1⟩

/-- From here on, the journal is compared with the one so far. -/
theorem Entered.rebase {p : Engine α} (h : Entered timed j p Q m j) : Entered timed j₀ p Q m j :=
  fun _ => h (.refl _ _)

/-- One call, of any kind. -/
theorem Entered.perform (op : Call) {f : op.Ans → Engine α}
    (hlawful : ∀ env, (∀ t, op = .repo (.createTransfer t) → m.row = none) →
      Lawful (m.row.map Transfer.state) ((m.perform env op).2.row.map Transfer.state))
    (hf : ∀ env j', (∀ t, op = .repo (.createTransfer t) → m.row = none) → j'.clock = env.now →
      Entered timed j₀ (f (m.perform env op).1) Q (m.perform env op).2 j') :
    Entered timed j₀ (Prog.perform op >>= f) Q m j := by
  rintro hj h env ⟨hnew, hclock⟩
  have hstep : j.Extends timed (execAccount env op (m, j)).2.2 :=
    ⟨hclock, _, rfl, hlawful env hnew⟩
  refine Prog.wp_mono (hf env _ hnew rfl (hj.trans hstep) _) ?_
  rintro a _ w ⟨hw, hQ⟩
  exact ⟨hstep.trans hw, hQ⟩

/-- A statement of the repository. -/
theorem Entered.statement {call : RepoCall} {f : (Call.repo call).Ans → Engine α}
    (hlawful : ∀ now, Lawful (m.row.map Transfer.state) ((m.write now call).row.map Transfer.state))
    (hf : ∀ j', Entered timed j₀ (f (m.answer call)) Q (m.write j'.clock call) j') :
    Entered timed j₀ (Prog.perform (.repo call) >>= f) Q m j := by
  refine .perform _ (fun env _ => hlawful env.now) fun env j' _ hnow => ?_
  rw [show (m.perform env (.repo call)).2 = m.write j'.clock call by rw [hnow]; rfl]
  exact hf j'

/-- The row is failed, with its message. -/
theorem Entered.fail {id : UUID} {t : Transfer} {errorMessage : String}
    {f : Except Err Unit → Engine α} (hrow : m.row = some t) (hedge : t.state.Edge .failed)
    (hf : ∀ j', Entered timed j₀ (f (.ok ())) Q
      { m with row := some { t with state := .failed, errorMessage, completedAt := some j'.clock } } j') :
    Entered timed j₀ (Engine.updateTransferFailed id errorMessage >>= f) Q m j := by
  have hwrite : ∀ now, m.write now (.updateTransferFailed id errorMessage) =
      { m with row := some { t with state := .failed, errorMessage, completedAt := some now } } := by
    intro now
    rw [Account.write, hrow]
    rfl
  refine .statement (fun now => ?_) fun j' => ?_
  · rw [hwrite, hrow]
    exact lawful_of_edge hedge
  · rw [hwrite]
    exact hf j'

/-- The insertion of a row, which is new. -/
theorem Entered.insert {t : Transfer} {f : Except Err Unit → Engine α}
    (hf : ∀ j', m.row = none → Entered timed j₀ (f (.ok ())) Q { m with row := some t } j') :
    Entered timed j₀ (Engine.createTransfer t >>= f) Q m j := by
  refine .perform _ (fun _ hnew => ?_) fun _ j' hnew _ => hf j' (hnew t rfl)
  rw [hnew t rfl]
  exact lawful_of_none _

/-- An agent accepts a command, or refuses it. -/
theorem Entered.command {agentID transferID : String} {f : Except Err Unit → Engine α}
    (hok : ∀ j', Entered timed j₀ (f (.ok ())) Q
      { m with commands := m.commands ++ [(agentID, true)] } j')
    (herr : ∀ err j', Entered timed j₀ (f (.error err)) Q
      { m with commands := m.commands ++ [(agentID, false)] } j') :
    Entered timed j₀ (Engine.sendTransferCommand agentID transferID >>= f) Q m j := by
  refine .perform _ (fun _ _ => lawful_self _) fun env j' _ _ => ?_
  cases hfail : env.fail with
  | none =>
    simp only [Account.perform, Env.answer, hfail]
    exact hok j'
  | some err =>
    simp only [Account.perform, Env.answer, hfail]
    exact herr err j'

/-- The calls that leave no trace on an account. -/
theorem Entered.passive {p : Engine β} {f : β → Engine α} (hp : p.All Call.Passive)
    (hf : ∀ b j', Entered timed j₀ (f b) Q m j') : Entered timed j₀ (p >>= f) Q m j := by
  induction p generalizing j with
  | pure b => exact hf b j
  | call op k ih =>
    have hsame : ∀ env, (m.perform env op).2 = m := by
      intro env
      have hpassive := hp.1
      cases op <;> first | rfl | exact hpassive.elim
    refine .perform _ (fun env _ => ?_) fun env j' _ _ => ?_
    · rw [hsame]
      exact lawful_self _
    · rw [hsame]
      exact ih _ (hp.2 _)

theorem Entered.ambient {p : Engine β} {f : β → Engine α} (hp : p.All Call.Ambient)
    (hf : ∀ b j', Entered timed j₀ (f b) Q m j') : Entered timed j₀ (p >>= f) Q m j :=
  .passive (hp.mono fun _ => Call.Ambient.passive) hf

/-- The end of a program does not matter to the account. -/
theorem Entered.map {p : Engine β} {f : β → α} {P : Account → Journal → Prop}
    (hp : Entered timed j₀ p (fun _ => P) m j) :
    Entered timed j₀ (p >>= fun b => Prog.pure (f b)) (fun _ => P) m j :=
  fun hj h => (Prog.wp_bind _ _).mpr (hp hj h)

/-- The recorder takes the numbers of a report, or panics. -/
theorem Entered.onProgressReport (o : Orchestrator) (report : ProgressReport)
    {f : Channel.Attempt Unit → Engine α}
    (hdone : ¬ o.Overdraws report → ∀ j', Entered timed j₀ (f (.done ())) Q m j')
    (hpanics : o.Overdraws report → ∀ j', Entered timed j₀ (f .panics) Q m j') :
    Entered timed j₀ (o.onProgressReport report.bytesTransferred report.speed >>= f) Q m j := by
  by_cases hmetrics : o.metrics = true
  · rw [Orchestrator.onProgressReport_of_metrics hmetrics]
    refine .perform _ (fun env _ => lawful_self _) fun env j' _ _ => ?_
    by_cases hneg : report.bytesTransferred < 0
    · have hanswer : (m.perform env (.onProgressReport report.bytesTransferred report.speed)).1 =
          Channel.Attempt.panics := if_pos hneg
      rw [hanswer]
      exact hpanics ⟨hmetrics, hneg⟩ j'
    · have hanswer : (m.perform env (.onProgressReport report.bytesTransferred report.speed)).1 =
          Channel.Attempt.done () := if_neg hneg
      rw [hanswer]
      exact hdone (fun hover => hneg hover.2) j'
  · rw [Orchestrator.onProgressReport_of_not hmetrics]
    exact hdone (fun hover => hmetrics hover.1) j

/-- The event is recorded. -/
theorem Entered.createEvent {id : UUID} {eventType : EventType} {message : String}
    {metadata : Option (List (String × String))} {f : Unit → Engine α}
    (hf : ∀ j', Entered timed j₀ (f ()) Q { m with timeline := m.timeline ++ [eventType] } j') :
    Entered timed j₀ (createEvent id eventType message metadata >>= f) Q m j := by
  refine .perform _ (fun _ _ => lawful_self _) fun _ _ _ _ => ?_
  refine .perform _ (fun _ _ => lawful_self _) fun _ _ _ _ => ?_
  exact .perform _ (fun _ _ => lawful_self _) fun _ j' _ _ => hf j'

theorem Entered.bind {p : Engine β} {f : β → Engine α}
    (hp : Entered timed j₀ p (fun b m' j' => Entered timed j₀ (f b) Q m' j') m j) :
    Entered timed j₀ (p >>= f) Q m j := by
  intro hj h
  refine (Prog.wp_bind _ _).mpr (Prog.wp_mono (hp hj h) ?_)
  rintro b h' w ⟨hw, hf⟩
  refine Prog.wp_mono (hf (hj.trans hw) h') ?_
  rintro a _ w' ⟨hw', hQ⟩
  exact ⟨hw.trans hw', hQ⟩

end

/-! ## Cancellations and progress reports -/

/-- The events that a state calls for: one that names it, if it is an end. -/
def TransferState.endings : TransferState → List EventType
  | .completed => [.completed]
  | .failed => [.failed]
  | .cancelled => [.cancelled]
  | _ => []

/-- The same row, up to its progress counters. -/
def Transfer.Recounted (t t' : Transfer) : Prop :=
  ∃ bytesTransferred bytesTotal chunksCompleted chunksTotal,
    t' = { t with bytesTransferred, bytesTotal, chunksCompleted, chunksTotal }

namespace Transfer.Recounted

variable {t t' : Transfer}

theorem refl (t : Transfer) : t.Recounted t := ⟨_, _, _, _, rfl⟩

theorem state_eq (h : t.Recounted t') : t'.state = t.state := by
  obtain ⟨_, _, _, _, rfl⟩ := h
  rfl

theorem errorMessage_eq (h : t.Recounted t') : t'.errorMessage = t.errorMessage := by
  obtain ⟨_, _, _, _, rfl⟩ := h
  rfl

end Transfer.Recounted

/-- The request is a failed report that does not overdraw, and the row has a retry left
    for it. -/
def Request.Grants (o : Orchestrator) (row : Option Transfer) : Request → Prop
  | .handleProgress report => report.status = "failed" ∧ ¬ o.Overdraws report ∧
      ∃ t, row = some t ∧ t.retryCount < t.retryMax
  | _ => False

/-- What a cancellation or a report does to the account `m` of its transfer. -/
inductive Entry (timed : Bool) (o : Orchestrator) (request : Request) (m : Account) (j j' : Journal)
    (m' : Account) : Prop where
  | kept (result : m' = m) (refused : ¬ request.Grants o m.row)
  /-- The progress is noted. -/
  | noted {t t' : Transfer} (before : m.row = some t) (recounted : t.Recounted t')
      (result : m' = { m with row := some t', timeline := m.timeline ++ [.progress] })
      (refused : ¬ request.Grants o m.row)
  /-- A retry is counted, and its event recorded. -/
  | retried {t t' : Transfer} (before : m.row = some t) (recounted : t.Recounted t')
      (result : m' = { m with
        row := some { t' with retryCount := t'.retryCount + 1 }
        timeline := m.timeline ++ [.progress, .retried] })
      (granted : request.Grants o m.row) (left : t.retryCount < t.retryMax)
  /-- The transfer is ended, with its event, and with a message if it has failed. -/
  | ended {t t' : Transfer} {target : TransferState} {now : Time} {errorMessage : String}
      {events : List EventType} (before : m.row = some t) (recounted : t.Recounted t')
      (edge : t.state.Edge target) (final : target.isTerminal = true)
      (message : target = .failed ∧ errorMessage ≠ "" ∨
        target ≠ .failed ∧ errorMessage = t.errorMessage)
      (since : timed = true → j.clock ≤ now ∧ now ≤ j'.clock)
      (quiet : events = [] ∨ events = [.progress])
      (result : m' = { m with
        row := some { t' with state := target, completedAt := some now, errorMessage }
        timeline := m.timeline ++ events ++ target.endings })
      (refused : ¬ request.Grants o m.row)

section

variable [UUIDText] {timed : Bool} {j₀ j : Journal}

namespace Orchestrator

theorem entered_cancelTransfer (o : Orchestrator) (id : UUID) (m : Account) :
    Entered timed j₀ (o.cancelTransfer id)
      (fun _ m' j' => Entry timed o (.cancelTransfer id) m j₀ j' m') m j := by
  obtain ⟨row, timeline, commands⟩ := m
  unfold cancelTransfer
  refine .statement (fun _ => lawful_self _) fun _ => ?_
  rcases row with _ | t
  · exact .pure (.kept rfl nofun)
  dsimp only [Account.answer]
  split
  · exact .pure (.kept rfl nofun)
  split
  · exact .pure (.kept rfl nofun)
  rename_i transfer hmove
  obtain ⟨hedge, rfl⟩ := Transfer.transitionTo_eq_ok.mp hmove
  refine .passive ⟨trivial, fun _ => trivial⟩ fun _ _ => ?_
  -- the state and the time of its end are written by two statements
  refine .statement (fun _ => lawful_of_edge hedge) fun _ => ?_
  refine .statement (fun _ => lawful_self _) fun _ => .past fun hbefore => .future ?_
  refine .createEvent fun _ => ?_
  refine .ambient (o.all_closeTransfer _) fun _ _ => ?_
  refine .ambient (o.all_onTransferStateChange _ _ _) fun _ _ => ?_
  refine .passive ⟨trivial, fun _ => trivial⟩ fun _ _ => ?_
  refine .passive ⟨trivial, fun _ => trivial⟩ fun _ _ => ?_
  refine .passive (all_executeCleanup _) fun _ j' => .pure fun hafter => ?_
  have hmessage : TransferState.cancelled ≠ .failed ∧ t.errorMessage = t.errorMessage :=
    ⟨by decide, rfl⟩
  refine .ended rfl (.refl t) hedge rfl (.inr hmessage)
    (fun ht => ⟨hbefore.clock ht, hafter.clock ht⟩) (.inl rfl) ?_ nofun
  rw [List.append_nil]
  rfl

/-- A report of completion, once its progress has been noted. -/
theorem entered_handleCompleted (o : Orchestrator) {report : ProgressReport} {t t' : Transfer}
    {timeline : List EventType} {commands : List (String × Bool)} (hrecounted : t.Recounted t')
    (hstatus : report.status = "completed") :
    Entered timed j₀ (o.handleCompleted report.transferID t)
      (fun _ m' j' => Entry timed o (.handleProgress report) ⟨some t, timeline, commands⟩ j₀ j' m')
      ⟨some t', timeline ++ [.progress], commands⟩ j := by
  have hrefused : ∀ row, ¬ (Request.handleProgress report).Grants o row := by
    rintro row ⟨hfailed, -⟩
    rw [hstatus] at hfailed
    revert hfailed
    decide
  unfold handleCompleted
  split
  · -- the transition is refused, but the progress has been noted
    exact .pure (.noted rfl hrecounted rfl (hrefused _))
  rename_i transfer hmove
  obtain ⟨hedge, rfl⟩ := Transfer.transitionTo_eq_ok.mp hmove
  have hedge' : t'.state.Edge .completed := by
    rw [hrecounted.state_eq]
    exact hedge
  refine .statement (fun _ => lawful_of_edge hedge') fun _ => ?_
  refine .statement (fun _ => lawful_self _) fun _ => .past fun hbefore => .future ?_
  refine .createEvent fun _ => ?_
  refine .ambient (o.all_closeTransfer _) fun _ _ => ?_
  refine .ambient (o.all_onTransferStateChange _ _ _) fun _ _ => ?_
  refine .passive (all_executeCleanup _) fun _ j' => .pure fun hafter => ?_
  exact .ended rfl hrecounted hedge rfl (.inr ⟨by decide, hrecounted.errorMessage_eq⟩)
    (fun ht => ⟨hbefore.clock ht, hafter.clock ht⟩) (.inr rfl) rfl (hrefused _)

theorem entered_handleExhausted (o : Orchestrator) {report : ProgressReport} {t t' : Transfer}
    {timeline : List EventType} {commands : List (String × Bool)} (hrecounted : t.Recounted t')
    (hspent : ¬ t.retryCount < t.retryMax) :
    Entered timed j₀ (o.handleExhausted report.transferID report.errorMessage t)
      (fun _ m' j' => Entry timed o (.handleProgress report) ⟨some t, timeline, commands⟩ j₀ j' m')
      ⟨some t', timeline ++ [.progress], commands⟩ j := by
  have hrefused : ¬ (Request.handleProgress report).Grants o (some t) := by
    rintro ⟨-, -, t₀, ht₀, hleft⟩
    cases ht₀
    exact hspent hleft
  unfold handleExhausted
  split
  · exact .pure (.noted rfl hrecounted rfl hrefused)
  rename_i transfer hmove
  obtain ⟨hedge, rfl⟩ := Transfer.transitionTo_eq_ok.mp hmove
  have hedge' : t'.state.Edge .failed := by
    rw [hrecounted.state_eq]
    exact hedge
  refine .statement (fun _ => lawful_of_edge hedge') fun _ => .past fun hbefore => .future ?_
  refine .createEvent fun _ => ?_
  refine .ambient (o.all_closeTransfer _) fun _ _ => ?_
  refine .ambient (o.all_onTransferStateChange _ _ _) fun _ _ => ?_
  refine .ambient (o.all_onTransferError _) fun _ _ => ?_
  refine .passive (all_executeCleanup _) fun _ j' => .pure fun hafter => ?_
  exact .ended rfl hrecounted hedge rfl (.inl ⟨rfl, ActionableError.string_ne_empty _⟩)
    (fun ht => ⟨hbefore.clock ht, hafter.clock ht⟩) (.inr rfl) rfl hrefused

theorem entered_handleFailed (o : Orchestrator) {report : ProgressReport} {t t' : Transfer}
    {timeline : List EventType} {commands : List (String × Bool)} (hrecounted : t.Recounted t')
    (hstatus : report.status = "failed") (hfunded : ¬ o.Overdraws report) :
    Entered timed j₀ (o.handleFailed report.transferID report.errorMessage t)
      (fun _ m' j' => Entry timed o (.handleProgress report) ⟨some t, timeline, commands⟩ j₀ j' m')
      ⟨some t', timeline ++ [.progress], commands⟩ j := by
  unfold handleFailed applyRetryBackoff
  by_cases hleft : t.retryCount < t.retryMax
  · rw [if_neg (not_le.mpr hleft)]
    -- the delay is drawn, and only logged
    refine .perform .randFloat64 (fun _ _ => lawful_self _) fun _ _ _ _ => ?_
    show Entered timed j₀ (Engine.incrementRetryCount report.transferID >>= _) _ _ _
    refine .statement (fun _ => lawful_self _) fun _ => ?_
    refine .createEvent fun _ => .pure (.retried rfl hrecounted ?_ ⟨hstatus, hfunded, t, rfl, hleft⟩ hleft)
    exact Account.ext rfl (List.append_assoc timeline [.progress] [.retried]) rfl
  · rw [if_pos (not_lt.mp hleft)]
    exact entered_handleExhausted o hrecounted hleft

theorem entered_handleStatus (o : Orchestrator) {report : ProgressReport} {t t' : Transfer}
    {timeline : List EventType} {commands : List (String × Bool)} (hrecounted : t.Recounted t')
    (hfunded : ¬ o.Overdraws report) :
    Entered timed j₀ (o.handleStatus report t)
      (fun _ m' j' => Entry timed o (.handleProgress report) ⟨some t, timeline, commands⟩ j₀ j' m')
      ⟨some t', timeline ++ [.progress], commands⟩ j := by
  unfold handleStatus
  split
  · rename_i hstatus
    exact o.entered_handleCompleted hrecounted hstatus
  split
  · rename_i hstatus
    exact o.entered_handleFailed hrecounted hstatus hfunded
  · rename_i hstatus
    exact .pure (.noted rfl hrecounted rfl fun hgrants => hstatus hgrants.1)

theorem entered_handleProgress (o : Orchestrator) (report : ProgressReport) (m : Account) :
    Entered timed j₀ (o.handleProgress report)
      (fun _ m' j' => Entry timed o (.handleProgress report) m j₀ j' m') m j := by
  obtain ⟨row, timeline, commands⟩ := m
  unfold handleProgress
  refine .statement (fun _ => lawful_self _) fun _ => ?_
  rcases row with _ | t
  · refine .pure (.kept rfl ?_)
    rintro ⟨-, -, t, ht, -⟩
    cases ht
  have hrecounted : t.Recounted { t with
      bytesTransferred := report.bytesTransferred
      bytesTotal := report.bytesTotal
      chunksCompleted := report.chunksCompleted
      chunksTotal := report.chunksTotal } := ⟨_, _, _, _, rfl⟩
  refine .statement (fun _ => lawful_self _) fun _ => ?_
  refine .createEvent fun _ => ?_
  refine .ambient (o.all_publish _ _) fun _ _ => ?_
  refine .onProgressReport o report (fun hfunded _ => ?_) fun hover _ => ?_
  · exact .map (o.entered_handleStatus hrecounted hfunded)
  · exact .pure (.noted rfl hrecounted rfl fun hgrants => hgrants.2.1 hover)

end Orchestrator

end

/-! ## Creations -/

/-- What a creation does to the account `m` of the transfer whose identifier it
    has drawn; `created`, `started` and `now` are the times it writes. -/
inductive Opening (timed : Bool) (o : Orchestrator) (req : CreateTransferRequest) (id : UUID)
    (m : Account) (j' : Journal) (m' : Account) : Prop where
  /-- The request does not pass validation. -/
  | invalid {created now : Time} {errorMessage : String} (fresh : m.row = none)
      (message : errorMessage ≠ "")
      (times : timed = true → created ≤ now ∧ now ≤ j'.clock)
      (result : m' = { m with
        row := some { o.newTransfer req id created with
          state := .failed, errorMessage, completedAt := some now }
        timeline := m.timeline ++ [.created, .failed] })
  /-- No strategy can be selected: the row is failed, without an event for it. -/
  | unplanned {created now : Time} {errorMessage : String} (fresh : m.row = none)
      (distinct : ¬ (req.sourceCluster = req.destinationCluster ∧ req.sourcePVC = req.destinationPVC))
      (unplanned : selectStrategy req.sourceCluster req.destinationCluster req.strategyOverride
        o.s3Config = .error errorMessage)
      (message : errorMessage ≠ "")
      (times : timed = true → created ≤ now ∧ now ≤ j'.clock)
      (result : m' = { m with
        row := some { o.newTransfer req id created with
          state := .failed, errorMessage, completedAt := some now }
        timeline := m.timeline ++ [.created, .validated] })
  /-- The transfer is started, and an agent refuses its command. -/
  | refused {created started now : Time} {errorMessage : String} {strategy : TransferStrategy}
      {commands : List (String × Bool)} (fresh : m.row = none) (message : errorMessage ≠ "")
      (planned : strategy = .stream ∨ strategy = .s3 ∨ strategy = .direct)
      (times : timed = true → created ≤ started ∧ started ≤ now ∧ now ≤ j'.clock)
      (refused : ∃ c ∈ commands, c.2 = false)
      (result : m' = { m with
        row := some { o.newTransfer req id created with
          strategy, startedAt := some started
          state := .failed, errorMessage, completedAt := some now }
        timeline := m.timeline ++ [.created, .validated, .started, .failed]
        commands := m.commands ++ commands })
  /-- The transfer is started, and both agents accept. -/
  | started {created started : Time} {strategy : TransferStrategy} (fresh : m.row = none)
      (planned : strategy = .stream ∨ strategy = .s3 ∨ strategy = .direct)
      (times : timed = true → created ≤ started ∧ started ≤ j'.clock)
      (result : m' = { m with
        row := some { o.newTransfer req id created with
          strategy, startedAt := some started, state := .transferring }
        timeline := m.timeline ++ [.created, .validated, .started]
        commands := m.commands ++ [(req.sourceCluster, true), (req.destinationCluster, true)] })

section

variable [UUIDText] {timed : Bool} {j₀ j : Journal}

/-- A request is refused with a text; what is accepted has two different ends. -/
theorem Entered.validate {α : Type} {Q : α → Account → Journal → Prop} {m : Account}
    {req : ValidateRequest} {f : Except Err Unit → Engine α}
    (herr : ∀ err j', err ≠ "" → Entered timed j₀ (f (.error err)) Q m j')
    (hok : ¬ (req.sourceCluster = req.destinationCluster ∧ req.sourcePVC = req.destinationPVC) →
      ∀ j', Entered timed j₀ (f (.ok ())) Q m j') :
    Entered timed j₀ (validateTransferRequest req >>= f) Q m j := by
  have hfound : ∀ role pvc cluster, pvcNotFound role pvc cluster ≠ "" := fun _ _ _ =>
    append_ne_empty_of_right (by decide)
  refine .bind ?_
  unfold validateTransferRequest
  split
  · exact .pure (herr _ _ (by decide))
  rename_i hdistinct
  refine .passive ⟨trivial, fun _ => trivial⟩ fun src _ => ?_
  rcases src with err | (_ | _)
  · exact .pure (herr _ _ (append_ne_empty_of_left (by decide)))
  · exact .pure (herr _ _ (hfound _ _ _))
  refine .passive ⟨trivial, fun _ => trivial⟩ fun dest _ => ?_
  rcases dest with err | (_ | _)
  · exact .pure (herr _ _ (append_ne_empty_of_left (by decide)))
  · exact .pure (herr _ _ (hfound _ _ _))
  refine .passive ⟨trivial, fun _ => trivial⟩ fun empty _ => ?_
  rcases empty with err | empty
  · exact .pure (herr _ _ (append_ne_empty_of_left (by decide)))
  dsimp only
  split
  · exact .pure (herr _ _ (append_ne_empty_of_right (by decide)))
  · exact .pure (hok hdistinct _)

namespace Orchestrator

variable {o : Orchestrator} {req : CreateTransferRequest} {id : UUID} {m : Account}

/-- The failure exit after a command that an agent has refused. -/
theorem entered_refused {created started : Time} {strategy : TransferStrategy}
    {commands : List (String × Bool)} {errorMessage eventMessage : String} {err : Err}
    (hfresh : m.row = none) (hmessage : errorMessage ≠ "")
    (hplanned : strategy = .stream ∨ strategy = .s3 ∨ strategy = .direct)
    (htimes : timed = true → created ≤ started ∧ started ≤ j.clock)
    (hrefused : ∃ c ∈ commands, c.2 = false) :
    Entered timed j₀ (do failTransfer id errorMessage eventMessage; return .error err)
      (fun (_ : Except Err CreateTransferResponse) m' j' => Opening timed o req id m j' m')
      { m with
        row := some { o.newTransfer req id created with
          strategy, startedAt := some started, state := .transferring }
        timeline := m.timeline ++ [.created, .validated, .started]
        commands := m.commands ++ commands } j := by
  have hedge : TransferState.Edge .transferring .failed := by decide
  unfold failTransfer
  refine .rebase (.bind (.fail rfl hedge fun j₁ => .past fun hbefore => .future ?_))
  refine .createEvent fun j' => .pure fun hafter => .pure ?_
  have hnow : timed = true → j.clock ≤ j₁.clock ∧ j₁.clock ≤ j'.clock := fun ht =>
    ⟨hbefore.clock ht, hafter.clock ht⟩
  refine .refused hfresh hmessage hplanned
    (fun ht => ⟨(htimes ht).1, le_trans (htimes ht).2 (hnow ht).1, (hnow ht).2⟩) hrefused ?_
  rw [List.append_assoc]
  rfl

theorem entered_commandAgents {created started : Time} {strategy : TransferStrategy}
    {timeline : List EventType} (hfresh : m.row = none)
    (htimeline : timeline = m.timeline ++ [.created, .validated, .started])
    (hplanned : strategy = .stream ∨ strategy = .s3 ∨ strategy = .direct)
    (htimes : timed = true → created ≤ started ∧ started ≤ j.clock) :
    Entered timed j₀ (commandAgents req id)
      (fun _ m' j' => Opening timed o req id m j' m')
      { m with
        row := some { o.newTransfer req id created with
          strategy, startedAt := some started, state := .transferring }
        timeline } j := by
  subst htimeline
  unfold commandAgents
  -- the source is asked first, the destination only if it has accepted
  refine .rebase (.command (fun j₁ => ?_) fun err j₁ => .past fun hj₁ => ?_)
  · refine .command (fun j₂ => .past fun hj₂ => .future ?_) fun err j₂ => .past fun hj₂ => ?_
    · refine .pure fun hend => .started hfresh hplanned
        (fun ht => ⟨(htimes ht).1, le_trans (htimes ht).2 ((hj₂.trans hend).clock ht)⟩) ?_
      rw [List.append_assoc]
      rfl
    · rw [List.append_assoc]
      exact entered_refused hfresh (append_ne_empty_of_left (by decide)) hplanned
        (fun ht => ⟨(htimes ht).1, le_trans (htimes ht).2 (hj₂.clock ht)⟩)
        ⟨(req.destinationCluster, false), by simp, rfl⟩
  · exact entered_refused hfresh (append_ne_empty_of_left (by decide)) hplanned
      (fun ht => ⟨(htimes ht).1, le_trans (htimes ht).2 (hj₁.clock ht)⟩)
      ⟨(req.sourceCluster, false), by simp, rfl⟩

theorem entered_startTransfer {created : Time} {timeline : List EventType} (hfresh : m.row = none)
    (htimeline : timeline = m.timeline ++ [.created, .validated])
    (hdistinct : ¬ (req.sourceCluster = req.destinationCluster ∧ req.sourcePVC = req.destinationPVC))
    (htimes : timed = true → created ≤ j.clock) :
    Entered timed j₀ (o.startTransfer req { o.newTransfer req id created with state := .validating })
      (fun _ m' j' => Opening timed o req id m j' m')
      { m with row := some { o.newTransfer req id created with state := .validating }, timeline }
      j := by
  have hmove : TransferState.Edge .validating .transferring := by decide
  have hedge : TransferState.Edge .validating .failed := by decide
  subst htimeline
  unfold startTransfer
  rcases selectStrategy_cases req.sourceCluster req.destinationCluster req.strategyOverride
      o.s3Config with ⟨strategy, hselect, hplanned⟩ | ⟨err, hselect, hmessage⟩
  · rw [hselect]
    refine .rebase (.statement (fun _ => lawful_self _) fun _ => ?_)
    dsimp only [Account.answer]
    split
    · rename_i err hstuck
      exact absurd hmove (Transfer.not_edge_of_transitionTo_eq_error hstuck)
    refine .statement (fun _ => lawful_of_edge hmove) fun _ => ?_
    refine .statement (fun _ => lawful_self _) fun j₁ => .past fun hj₁ => ?_
    refine .rebase (.createEvent fun j₂ => .past fun hj₂ => ?_)
    exact entered_commandAgents hfresh (List.append_assoc _ [_, _] [_]) hplanned
      fun ht => ⟨le_trans (htimes ht) (hj₁.clock ht), hj₂.clock ht⟩
  · -- this exit returns without an event
    rw [hselect]
    refine .rebase (.fail rfl hedge fun j₁ => .past fun hj₁ => .future ?_)
    exact .pure fun hend => .unplanned hfresh hdistinct hselect hmessage
      (fun ht => ⟨le_trans (htimes ht) (hj₁.clock ht), hend.clock ht⟩) rfl

theorem entered_admitTransfer {created : Time} (htimes : timed = true → created ≤ j.clock) :
    Entered timed j₀ (o.admitTransfer req (o.newTransfer req id created))
      (fun _ m' j' => Opening timed o req id m j' m') m j := by
  have hmove : TransferState.Edge .pending .validating := by decide
  have hedge : TransferState.Edge .validating .failed := by decide
  unfold admitTransfer
  refine .rebase (.insert fun j₁ hfresh => ?_)
  refine .createEvent fun _ => ?_
  split
  · rename_i err hstuck
    exact absurd hmove (Transfer.not_edge_of_transitionTo_eq_error hstuck)
  rename_i transfer hok
  obtain ⟨-, rfl⟩ := Transfer.transitionTo_eq_ok.mp hok
  refine .statement (fun _ => lawful_of_edge hmove) fun _ => ?_
  refine .validate (fun err _ hmessage => ?_) fun hdistinct _ => ?_
  · refine .bind (.fail rfl hedge fun j₂ => .past fun hj₂ => .future ?_)
    refine .createEvent fun _ => .pure fun hend => .pure ?_
    refine .invalid hfresh hmessage
      (fun ht => ⟨le_trans (htimes ht) (hj₂.clock ht), hend.clock ht⟩) ?_
    rw [show ([.created, .failed] : List EventType) = [.created] ++ [.failed] from rfl,
      ← List.append_assoc]
    rfl
  · refine .createEvent fun j₃ => .past fun hj₃ => ?_
    exact entered_startTransfer hfresh (List.append_assoc _ [_] [_]) hdistinct
      fun ht => le_trans (htimes ht) (hj₃.clock ht)

end Orchestrator

end

/-! ## Requests -/

/-- What a request does to the account of the transfer `id` that it concerns. -/
inductive Booked (timed : Bool) (o : Orchestrator) (id : UUID) (m : Account) (j j' : Journal)
    (m' : Account) : Request → Prop where
  | opened (req : CreateTransferRequest) (h : Opening timed o req id m j' m') :
      Booked timed o id m j j' m' (.createTransfer req)
  | cancelled (h : Entry timed o (.cancelTransfer id) m j j' m') :
      Booked timed o id m j j' m' (.cancelTransfer id)
  | handled {report : ProgressReport} (hid : report.transferID = id)
      (h : Entry timed o (.handleProgress report) m j j' m') :
      Booked timed o id m j j' m' (.handleProgress report)

section

variable [UUIDText] {timed : Bool}

/-- What a request does, on any store and after any history. -/
theorem Orchestrator.wp_watch (o : Orchestrator) (request : Request) (h : List CallEv)
    (w : Store × Journal) :
    Prog.wp watch (Steady timed) (o.serve request)
      (fun _ h' w' => w.2.Extends timed w'.2 ∧ ∃ id,
        Booked timed o id (account id h w.1) w.2 w'.2 (account id h' w'.1) request ∧
        ∀ id', id' ≠ id → account id' h' w'.1 = account id' h w.1) h w := by
  cases request with
  | createTransfer req =>
    refine (Prog.wp_bind _ _).mpr ?_
    intro env₁ hok₁ env₂ hok₂
    -- the identifier and the time are drawn before anything is known of the transfer
    let h₂ := h ++ [⟨.newUUID, env₁.uuid⟩] ++ [⟨.timeNow, env₂.now⟩]
    let j₂ : Journal := ⟨env₂.now, w.2.changes ++ [] ++ []⟩
    have hsame : ∀ id, account id h₂ w.1 = account id h w.1 := fun id =>
      (account_snoc_of_none _ w.1 rfl).trans (account_snoc_of_none h w.1 rfl)
    have hdrawn : w.2.Extends timed j₂ :=
      ⟨fun ht => le_trans (hok₁.2 ht) (hok₂.2 ht), [], by simp [j₂], by simp⟩
    have hadmitted : Entered timed j₂ (o.admitTransfer req (o.newTransfer req env₁.uuid env₂.now))
        (fun _ m' j' => Opening timed o req env₁.uuid (account env₁.uuid h₂ w.1) j' m')
        (account env₁.uuid h₂ w.1) j₂ := entered_admitTransfer fun _ => le_refl _
    refine Prog.wp_mono (wp_of_account env₁.uuid h₂ (w.1, j₂)
      (o.seen_admitTransfer req rfl rfl rfl) (hadmitted (.refl _ _) h₂)) ?_
    rintro a h' w' ⟨⟨hextends, hopening⟩, hothers⟩
    rw [hsame] at hopening
    exact ⟨hdrawn.trans hextends, env₁.uuid, .opened req hopening,
      fun id' hne => (hothers id' hne).trans (hsame id')⟩
  | cancelTransfer id =>
    refine (Prog.wp_bind _ _).mpr (Prog.wp_mono (wp_of_account id h w o.seen_cancelTransfer
      (o.entered_cancelTransfer id _ (.refl _ _) h)) ?_)
    rintro a h' w' ⟨⟨hextends, hentry⟩, hothers⟩
    exact ⟨hextends, id, .cancelled hentry, hothers⟩
  | handleProgress report =>
    refine (Prog.wp_bind _ _).mpr (Prog.wp_mono (wp_of_account report.transferID h w
      (o.seen_handleProgress report rfl) (o.entered_handleProgress report _ (.refl _ _) h)) ?_)
    rintro a h' w' ⟨⟨hextends, hentry⟩, hothers⟩
    exact ⟨hextends, _, .handled rfl hentry, hothers⟩

/-- The same without the journal, where the time does not matter. -/
theorem Orchestrator.wp_booked (o : Orchestrator) (request : Request) (h : List CallEv) (s : Store) :
    Prog.wp exec Unfailed (o.serve request)
      (fun _ h' s' => ∃ id j j',
        Booked false o id (account id h s) j j' (account id h' s') request ∧
        ∀ id', id' ≠ id → account id' h' s' = account id' h s) h s := by
  have hwatched : Prog.wp watch (Steady false) (o.serve request) (fun _ h' w' => ∃ id j j',
      Booked false o id (account id h s) j j' (account id h' w'.1) request ∧
      ∀ id', id' ≠ id → account id' h' w'.1 = account id' h s) h (s, ⟨0, []⟩) := by
    refine Prog.wp_mono (o.wp_watch request h (s, ⟨0, []⟩)) ?_
    rintro a h' w' ⟨-, id, hbooked, hothers⟩
    exact ⟨id, _, _, hbooked, hothers⟩
  exact Prog.wp_erase (fun _ _ _ _ => ⟨_, rfl⟩) (fun _ _ _ _ hok => ⟨hok, nofun⟩) hwatched

end

end Katapult
