/-
  Katapult.Transfer.Replay

  The audit timeline as a log: read from its first event on, it tells where the
  transfer stands.

  `Phase` is the automaton of the log, and `Phase.standing` what a reader of the
  log concludes about the row.  The events of one request are appended as a
  whole (`Entry`, `Opening`), so it is enough to follow the automaton through
  these few words.
-/

import Katapult.Transfer.Entries

namespace Katapult

open Effect

/-! ## Reading a timeline -/

/-- Where a transfer stands, as far as its timeline tells. -/
inductive Phase where
  | absent
  | created
  | validated (retries : Nat)
  | running (retries : Nat)
  | ended (state : TransferState) (started : Bool) (retries : Nat)
  deriving DecidableEq

/-- The phase after one more event; `none` if the event cannot come next.  Reports
    may still come in after the end, and are counted as they are before it. -/
def Phase.next : Phase → EventType → Option Phase
  | .absent, .created => some .created
  | .created, .validated => some (.validated 0)
  | .created, .failed => some (.ended .failed false 0)
  | .validated n, .started => some (.running n)
  | .validated n, .progress => some (.validated n)
  | .validated n, .retried => some (.validated (n + 1))
  | .running n, .progress => some (.running n)
  | .running n, .retried => some (.running (n + 1))
  | .running n, .completed => some (.ended .completed true n)
  | .running n, .failed => some (.ended .failed true n)
  | .running n, .cancelled => some (.ended .cancelled true n)
  | .ended state started n, .progress => some (.ended state started n)
  | .ended state started n, .retried => some (.ended state started (n + 1))
  | _, _ => none

/-- The phase after some events. -/
def Phase.follow (phase : Phase) (events : List EventType) : Option Phase :=
  events.foldlM Phase.next phase

/-- The phase that a whole timeline leads to. -/
def replay (timeline : List EventType) : Option Phase := Phase.follow .absent timeline

/-- What a row and its timeline have in common. -/
structure Standing where
  state : TransferState
  started : Bool
  retries : Int
  deriving DecidableEq

def Transfer.standing (t : Transfer) : Standing := ⟨t.state, t.startedAt.isSome, t.retryCount⟩

/-- What the timeline says of the row.  A request that was validated and then not
    started has failed: no strategy could be selected for it. -/
def Phase.standing : Phase → Option Standing
  | .absent => none
  | .created => some ⟨.validating, false, 0⟩
  | .validated n => some ⟨.failed, false, n⟩
  | .running n => some ⟨.transferring, true, n⟩
  | .ended state started n => some ⟨state, started, n⟩

/-- The phase is one that a request may leave behind. -/
def Phase.AtRest : Phase → Prop
  | .created => False
  | .ended state _ _ => state.isTerminal = true
  | _ => True

theorem Phase.follow_append (phase : Phase) (events events' : List EventType) :
    phase.follow (events ++ events') = (phase.follow events).bind (·.follow events') := by
  simp only [follow, List.foldlM_append]
  rfl

/-! ## One request -/

/-- The timeline of the account replays to its row. -/
def Account.Replays (m : Account) : Prop :=
  ∃ phase, replay m.timeline = some phase ∧ phase.AtRest ∧ phase.standing = m.row.map Transfer.standing

namespace Account.Replays

variable {timed : Bool} {o : Orchestrator} {m m' : Account} {j j' : Journal}

theorem init : Account.Replays {} := ⟨.absent, rfl, trivial, rfl⟩

/-- The timeline goes on with some events. -/
theorem append {phase phase' : Phase} {events : List EventType} (h : replay m.timeline = some phase)
    (hnext : phase.follow events = some phase') (hrest : phase'.AtRest)
    (htimeline : m'.timeline = m.timeline ++ events) (hstanding : phase'.standing = m'.row.map Transfer.standing) :
    m'.Replays := by
  refine ⟨phase', ?_, hrest, hstanding⟩
  rw [htimeline, replay, Phase.follow_append, show Phase.follow .absent m.timeline = some phase from h]
  exact hnext

end Account.Replays

/-- A phase at rest takes progress, and the retry that may come with it. -/
theorem Phase.follow_progress {phase : Phase} {standing : Standing} (hrest : phase.AtRest)
    (hstanding : phase.standing = some standing) :
    phase.follow [.progress] = some phase ∧ ∃ phase', phase.follow [.progress, .retried] = some phase' ∧
      phase'.AtRest ∧ phase'.standing = some { standing with retries := standing.retries + 1 } := by
  cases phase with
  | absent => cases hstanding
  | created => exact hrest.elim
  | validated n =>
    cases hstanding
    exact ⟨rfl, .validated (n + 1), rfl, trivial, rfl⟩
  | running n =>
    cases hstanding
    exact ⟨rfl, .running (n + 1), rfl, trivial, rfl⟩
  | ended state started n =>
    cases hstanding
    exact ⟨rfl, .ended state started (n + 1), rfl, hrest, rfl⟩

/-- A phase at rest that tells of an open transfer is the one of a transfer under way,
    and takes every end. -/
theorem Phase.follow_endings {phase : Phase} {standing : Standing} (hrest : phase.AtRest)
    (hstanding : phase.standing = some standing) (hopen : standing.state.isTerminal = false) {target : TransferState}
    (hfinal : target.isTerminal = true) :
    ∃ phase', phase.follow target.endings = some phase' ∧ phase'.AtRest ∧
      phase'.standing = some { standing with state := target } := by
  cases phase with
  | absent => cases hstanding
  | created => exact hrest.elim
  | validated n =>
    cases hstanding
    cases hopen
  | running n =>
    cases hstanding
    cases target with
    | completed => exact ⟨.ended .completed true n, rfl, rfl, rfl⟩
    | failed => exact ⟨.ended .failed true n, rfl, rfl, rfl⟩
    | cancelled => exact ⟨.ended .cancelled true n, rfl, rfl, rfl⟩
    | _ => cases hfinal
  | ended state started n =>
    cases hstanding
    rw [show state.isTerminal = true from hrest] at hopen
    cases hopen

namespace Account.Replays

variable {timed : Bool} {o : Orchestrator} {m m' : Account} {j j' : Journal}

theorem recounted_standing {t t' : Transfer} (h : t.Recounted t') : t'.standing = t.standing := by
  obtain ⟨_, _, _, _, rfl⟩ := h
  rfl

theorem entry {o : Orchestrator} {request : Request} (h : m.Replays) (hentry : Entry timed o request m j j' m') :
    m'.Replays := by
  cases hentry with
  | kept result =>
    rw [result]
    exact h
  | @noted t t' before recounted result =>
    obtain ⟨phase, hreplay, hrest, hstanding⟩ := h
    rw [before] at hstanding
    have hprogress := (Phase.follow_progress hrest hstanding).1
    refine append hreplay hprogress hrest (by rw [result]) ?_
    rw [hstanding, result]
    exact congrArg some (recounted_standing recounted).symm
  | @retried t t' before recounted result =>
    obtain ⟨phase, hreplay, hrest, hstanding⟩ := h
    rw [before] at hstanding
    obtain ⟨-, phase', hnext, hrest', hstanding'⟩ := Phase.follow_progress hrest hstanding
    refine append hreplay hnext hrest' (by rw [result]) ?_
    rw [hstanding', result, ← recounted_standing recounted]
    rfl
  | @ended t t' target now errorMessage events before recounted edge final message since quiet result =>
    obtain ⟨phase, hreplay, hrest, hstanding⟩ := h
    rw [before] at hstanding
    obtain ⟨phase', hnext, hrest', hstanding'⟩ :=
      Phase.follow_endings hrest hstanding edge.not_isTerminal final
    have hevents : phase.follow events = some phase := by
      rcases quiet with rfl | rfl
      · rfl
      · exact (Phase.follow_progress hrest hstanding).1
    have hword : phase.follow (events ++ target.endings) = some phase' := by
      rw [Phase.follow_append, hevents]
      exact hnext
    refine append hreplay hword hrest' (by rw [result, List.append_assoc]) ?_
    rw [hstanding', result, ← recounted_standing recounted]
    rfl

/-- A creation begins the timeline of a transfer that was not there. -/
theorem timeline_of_none (h : m.Replays) (hfresh : m.row = none) :
    replay m.timeline = some .absent := by
  obtain ⟨phase, hreplay, hrest, hstanding⟩ := h
  rw [hfresh] at hstanding
  cases phase with
  | absent => exact hreplay
  | created => exact hrest.elim
  | _ => cases hstanding

theorem opening {req : CreateTransferRequest} {id : UUID} (h : m.Replays)
    (hopening : Opening timed o req id m j' m') : m'.Replays := by
  cases hopening with
  | invalid fresh message times result =>
    have hnext : Phase.follow .absent [.created, .failed] = some (.ended .failed false 0) := rfl
    refine append (h.timeline_of_none fresh) hnext rfl
      (by rw [result]) ?_
    rw [result]
    rfl
  | unplanned fresh distinct unplanned message times result =>
    have hnext : Phase.follow .absent [.created, .validated] = some (.validated 0) := rfl
    refine append (h.timeline_of_none fresh) hnext trivial (by rw [result]) ?_
    rw [result]
    rfl
  | refused fresh message planned times refused result =>
    have hnext : Phase.follow .absent [.created, .validated, .started, .failed] = some (.ended .failed true 0) := rfl
    refine append (h.timeline_of_none fresh) hnext rfl
      (by rw [result]) ?_
    rw [result]
    rfl
  | started fresh planned times result =>
    have hnext : Phase.follow .absent [.created, .validated, .started] = some (.running 0) := rfl
    refine append (h.timeline_of_none fresh) hnext trivial (by rw [result]) ?_
    rw [result]
    rfl

theorem booked {id : UUID} {o : Orchestrator} {request : Request} (h : m.Replays)
    (hbooked : Booked timed o id m j j' m' request) : m'.Replays := by
  cases hbooked with
  | opened req hopening => exact h.opening hopening
  | cancelled hentry => exact h.entry hentry
  | handled hid hentry => exact h.entry hentry

end Account.Replays

/-! ## Runs -/

section

variable [UUIDText]

theorem Orchestrator.replays_serve (o : Orchestrator) (request : Request) {h : List CallEv} {s : Store}
    (hreplays : ∀ id, (account id h s).Replays) :
    Prog.wp exec Unfailed (o.serve request) (fun _ h' s' => ∀ id, (account id h' s').Replays) h s := by
  refine Prog.wp_mono (o.wp_booked request h s) ?_
  rintro a h' s' ⟨id, j, j', hbooked, hothers⟩ id'
  by_cases hid : id' = id
  · subst hid
    exact (hreplays id').booked hbooked
  · rw [hothers id' hid]
    exact hreplays id'

/-- Every sequential run in which no repository call fails: the timeline of every
    transfer is a word of the log, and reading it from the first event on gives
    the state of its row, whether it was started, and its count of retries. -/
theorem replayed_of_run (o : Orchestrator) {h : List CallEv} {s : Store}
    (hreach : Prog.SeqReach exec Unfailed o.serve .empty h s) (id : UUID) :
    ∃ phase, replay ((s.timeline id).map TransferEvent.eventType) = some phase ∧
      phase.standing = (s.row id).map Transfer.standing := by
  have hreplays : ∀ id, (account id h s).Replays :=
    Prog.SeqReach.invariant (I := fun h s => ∀ id, (account id h s).Replays)
      (fun id => by rw [account_empty]; exact .init) (fun request _ _ hall => o.replays_serve request hall) hreach
  obtain ⟨phase, hreplay, -, hstanding⟩ := hreplays id
  exact ⟨phase, hreplay, hstanding⟩

end

/-- A transfer that is reported to have failed, is retried, and then cancelled. -/
def retriedThenCancelled : List (Request × List Env) :=
  [(.createTransfer sampleRequest, calls 7 21),
   (.handleProgress { transferID := 7, status := "failed", errorMessage := "disk full" },
    calls 100 10),
   (.cancelTransfer 7, calls 200 12)]

theorem replayed_of_retriedThenCancelled :
    ∃ h s, Prog.evalAll exec Unfailed (@Orchestrator.serve canonicalText plainOrchestrator) .empty
        retriedThenCancelled = some (h, s) ∧
      (s.row 7).map Transfer.standing = some ⟨.cancelled, true, 1⟩ ∧
      ∃ phase, replay ((s.timeline 7).map TransferEvent.eventType) = some phase ∧
        phase.standing = (s.row 7).map Transfer.standing := by
  have hend : (Prog.evalAll exec Unfailed (@Orchestrator.serve canonicalText plainOrchestrator) .empty
      retriedThenCancelled).any fun out =>
      (out.2.row 7).map Transfer.standing = some ⟨.cancelled, true, 1⟩ := by decide +kernel
  obtain ⟨⟨h, s⟩, hruns, hstanding⟩ := (Option.any_eq_true _ _).mp hend
  exact ⟨h, s, hruns, of_decide_eq_true hstanding,
    @replayed_of_run canonicalText plainOrchestrator h s (Prog.SeqReach.init.of_evalAll hruns) 7⟩

end Katapult
