/-
  Katapult.Transfer.Timeline

  The timeline of a transfer against its row.

  Rows and events are written by separate statements, and nothing but the order
  of the code keeps them in step.  Of all the ways a request can end, one alone
  leaves a row whose end the timeline does not tell: a creation for which no
  strategy can be selected.
-/

import Katapult.Transfer.Entries

namespace Katapult

open Effect

/-- The timeline tells the truth about the row. -/
structure Truthful (timeline : List EventType) (t : Transfer) : Prop where
  /-- One event names the end of the transfer if it has ended, and none if it has not. -/
  ended : timeline.filter EventType.isTerminal = t.state.endings
  started : .started ∈ timeline ↔ t.startedAt.isSome = true
  retried : (timeline.count .retried : Int) = t.retryCount

/-- The retries that the timeline of a transfer records. -/
def Store.retried (s : Store) (id : UUID) : Nat :=
  ((s.timeline id).map TransferEvent.eventType).count .retried

/-! ## Events that come with a state -/

theorem TransferState.endings_of_open {state : TransferState} (h : state.isTerminal = false) :
    state.endings = [] := by
  cases state <;> first | rfl | cases h

theorem TransferState.filter_endings (state : TransferState) :
    state.endings.filter EventType.isTerminal = state.endings := by
  cases state <;> rfl

theorem TransferState.not_mem_endings (state : TransferState) (eventType : EventType)
    (h : eventType.isTerminal = false) : eventType ∉ state.endings := by
  intro hmem
  have hterminal := (List.mem_filter.mp (state.filter_endings.symm ▸ hmem)).2
  rw [h] at hterminal
  cases hterminal

namespace Truthful

variable {timeline events : List EventType} {t t' : Transfer}

theorem recounted (h : Truthful timeline t) (hrecounted : t.Recounted t') : Truthful timeline t' := by
  obtain ⟨_, _, _, _, rfl⟩ := hrecounted
  exact ⟨h.ended, h.started, h.retried⟩

theorem progress (h : Truthful timeline t) : Truthful (timeline ++ [.progress]) t where
  ended := by
    rw [List.filter_append, ← h.ended]
    exact List.append_nil _
  started := by
    rw [List.mem_append, ← h.started]
    simp
  retried := by
    rw [List.count_append, ← h.retried]
    rfl

theorem counted (h : Truthful timeline t) :
    Truthful (timeline ++ [.progress, .retried]) { t with retryCount := t.retryCount + 1 } where
  ended := by
    rw [List.filter_append, ← h.ended]
    exact List.append_nil _
  started := by
    rw [List.mem_append, ← h.started]
    simp
  retried := by
    rw [List.count_append, Nat.cast_add, h.retried]
    rfl

/-- The end of a transfer that was open is recorded once. -/
theorem closed (h : Truthful timeline t) {target : TransferState} {now : Option Time}
    {errorMessage : String} (hopen : t.state.isTerminal = false) :
    Truthful (timeline ++ target.endings)
      { t with state := target, completedAt := now, errorMessage } where
  ended := by
    have hnone := h.ended.trans (TransferState.endings_of_open hopen)
    rw [List.filter_append, hnone, TransferState.filter_endings]
    rfl
  started := by
    have hnot := target.not_mem_endings .started rfl
    rw [List.mem_append, ← h.started]
    simp [hnot]
  retried := by
    have hnot := target.not_mem_endings .retried rfl
    rw [List.count_append, List.count_eq_zero_of_not_mem hnot, Nat.add_zero]
    exact h.retried

end Truthful

/-! ## One request -/

/-- The timeline of an account is truthful, and empty as long as there is no row. -/
structure Account.Truthful (m : Account) : Prop where
  absent : m.row = none → m.timeline = []
  present : ∀ t, m.row = some t → Katapult.Truthful m.timeline t

/-- A strategy can be selected for the request, or it is refused before that. -/
def CreateTransferRequest.Plannable (s3Config : S3Config) (req : CreateTransferRequest) : Prop :=
  (req.sourceCluster = req.destinationCluster ∧ req.sourcePVC = req.destinationPVC) ∨
  ∃ strategy, selectStrategy req.sourceCluster req.destinationCluster req.strategyOverride
    s3Config = .ok strategy

namespace Account.Truthful

variable {timed : Bool} {o : Orchestrator} {m m' : Account} {j j' : Journal}

theorem init : Account.Truthful {} where
  absent _ := rfl
  present t ht := by cases ht

theorem of_some {t : Transfer} (hrow : m.row = some t) (ht : Katapult.Truthful m.timeline t) :
    m.Truthful := by
  refine ⟨fun hnone => ?_, fun t' ht' => ?_⟩
  · rw [hrow] at hnone
    cases hnone
  · rw [hrow] at ht'
    cases ht'
    exact ht

theorem entry {o : Orchestrator} {request : Request} (h : m.Truthful) (hentry : Entry timed o request m j j' m') :
    m'.Truthful := by
  cases hentry with
  | kept result =>
    rw [result]
    exact h
  | noted before recounted result =>
    have ht := ((h.present _ before).recounted recounted).progress
    rw [result]
    exact of_some rfl ht
  | retried before recounted result =>
    have ht := ((h.present _ before).recounted recounted).counted
    rw [result]
    exact of_some rfl ht
  | @ended t t' target now errorMessage events before recounted edge final message since quiet result =>
    have ht := (h.present _ before).recounted recounted
    have hopen : t'.state.isTerminal = false := by
      rw [recounted.state_eq]
      exact edge.not_isTerminal
    have hevents : Katapult.Truthful (m.timeline ++ events) t' := by
      rcases quiet with rfl | rfl
      · rw [List.append_nil]
        exact ht
      · exact ht.progress
    rw [result]
    exact of_some rfl (hevents.closed hopen)

theorem opening {req : CreateTransferRequest} {id : UUID} (h : m.Truthful)
    (hplannable : req.Plannable o.s3Config) (hopening : Opening timed o req id m j' m') :
    m'.Truthful := by
  cases hopening with
  | invalid fresh message times result =>
    have hnot : EventType.started ∉ [EventType.created, .failed] := by decide
    rw [result, h.absent fresh]
    exact of_some rfl ⟨rfl, iff_of_false hnot nofun, rfl⟩
  | unplanned fresh distinct unplanned =>
    -- the request would have been refused, or would have got a strategy
    rcases hplannable with hsame | ⟨strategy, hselect⟩
    · exact absurd hsame distinct
    · rw [hselect] at unplanned
      cases unplanned
  | refused fresh message planned times refused result =>
    have hmem : EventType.started ∈ [EventType.created, .validated, .started, .failed] := by decide
    rw [result, h.absent fresh]
    exact of_some rfl ⟨rfl, iff_of_true hmem rfl, rfl⟩
  | started fresh planned times result =>
    have hmem : EventType.started ∈ [EventType.created, .validated, .started] := by decide
    rw [result, h.absent fresh]
    exact of_some rfl ⟨rfl, iff_of_true hmem rfl, rfl⟩

end Account.Truthful

/-- Every creation is refused early, or finds a strategy. -/
def Request.Plannable (s3Config : S3Config) : Request → Prop
  | .createTransfer req => req.Plannable s3Config
  | _ => True

/-- A request keeps every timeline truthful, on any store and after any history. -/
theorem Orchestrator.truthful_serve [UUIDText] (o : Orchestrator) (request : Request)
    (hplannable : request.Plannable o.s3Config) {h : List CallEv} {s : Store}
    (htruthful : ∀ id, (account id h s).Truthful) :
    Prog.wp exec Unfailed (o.serve request) (fun _ h' s' => ∀ id, (account id h' s').Truthful) h s := by
  refine Prog.wp_mono (o.wp_booked request h s) ?_
  rintro a h' s' ⟨id, j, j', hbooked, hothers⟩ id'
  by_cases hid : id' = id
  · subst hid
    cases hbooked with
    | opened req hopening => exact (htruthful id').opening hplannable hopening
    | cancelled hentry => exact (htruthful id').entry hentry
    | handled _ hentry => exact (htruthful id').entry hentry
  · rw [hothers id' hid]
    exact htruthful id'

end Katapult
