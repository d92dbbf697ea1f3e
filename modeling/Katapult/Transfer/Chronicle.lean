/-
  Katapult.Transfer.Chronicle

  The order of the events of a transfer, and what a reader of its timeline gets.

  The `created_at` of an event is not set by the database: the engine reads its
  clock, and inserts the event with the next call.  In a run of one request
  after the other, with a clock that does not go back, the events are therefore
  in their table in the order of their times, whatever fails in between; and
  `ORDER BY created_at` can only exchange events with the same time.

  Times are those of the column, which keeps whole microseconds: two readings
  within one of them are the same time.
-/

import Katapult.Store.Columns
import Katapult.Transfer.Rows

namespace Katapult

open Effect Paging

/-! ## What is entered with a time -/

/-- The call enters nothing with a time that the engine has read. -/
def Call.Undated : Call → Prop
  | .repo (.createTransfer _) | .repo (.createTransferEvent _) => False
  | _ => True

theorem Call.Passive.undated {op : Call} (h : op.Passive) : op.Undated := by
  cases op <;> first | exact h.elim | trivial

theorem Call.Ambient.undated {op : Call} (h : op.Ambient) : op.Undated := h.passive.undated

/-- The time that the last call has read, if it has read one. -/
def reading : Option Time → CallEv → Option Time
  | _, ⟨.timeNow, now⟩ => some now
  | _, _ => none

/-- What is entered with a time has the time just read. -/
def Call.DatedBy (last : Option Time) : Call → Prop
  | .repo (.createTransfer t) => last = some t.createdAt
  | .repo (.createTransferEvent e) => last = some e.createdAt
  | _ => True

/-- The program enters nothing with another time than the one it has just read. -/
def Dated {α : Type} (p : Engine α) : Prop :=
  ∀ last, Prog.Obeys reading Call.DatedBy (fun _ _ => True) last p

namespace Dated

variable {α β : Type}

theorem pure (a : α) : Dated (.pure a) := fun _ => trivial

theorem perform {op : Call} {f : op.Ans → Engine α} (hop : op.Undated) (hf : ∀ r, Dated (f r)) :
    Dated (Prog.perform op >>= f) := by
  intro last
  refine ⟨?_, fun r => hf r _⟩
  cases op with
  | repo call => cases call <;> first | exact hop.elim | trivial
  | _ => trivial

theorem undated {p : Engine β} {f : β → Engine α} (hp : p.All Call.Undated)
    (hf : ∀ b, Dated (f b)) : Dated (p >>= f) := by
  induction p with
  | pure b => exact hf b
  | call op k ih => exact perform hp.1 fun r => ih r (hp.2 r)

theorem ambient {p : Engine β} {f : β → Engine α} (hp : p.All Call.Ambient)
    (hf : ∀ b, Dated (f b)) : Dated (p >>= f) :=
  undated (hp.mono fun _ => Call.Ambient.undated) hf

theorem createEvent {id : UUID} {eventType : EventType} {message : String}
    {metadata : Option (List (String × String))} {f : Unit → Engine α} (hf : Dated (f ())) :
    Dated (Katapult.createEvent id eventType message metadata >>= f) :=
  fun _ => ⟨trivial, fun _ => ⟨trivial, fun _ => ⟨rfl, fun _ => hf _⟩⟩⟩

theorem ite {c : Prop} [Decidable c] {p q : Engine α} (hp : Dated p) (hq : Dated q) :
    Dated (if c then p else q) := by
  by_cases hc : c
  · rw [if_pos hc]
    exact hp
  · rw [if_neg hc]
    exact hq

end Dated

/-! ## The operations -/

namespace Orchestrator

variable {id : UUID} {t : Transfer}

theorem dated_failTransfer {α : Type} (errorMessage eventMessage : String) (a : α) :
    Dated (do failTransfer id errorMessage eventMessage; return a) := by
  refine Dated.perform trivial fun written => ?_
  cases written <;> exact .createEvent (.pure a)

variable [UUIDText]

theorem dated_commandAgents (req : CreateTransferRequest) : Dated (commandAgents req id) := by
  unfold commandAgents
  refine .perform trivial fun src => ?_
  rcases src with err | _
  · exact dated_failTransfer _ _ _
  refine .perform trivial fun dest => ?_
  rcases dest with err | _
  · exact dated_failTransfer _ _ _
  · exact .pure _

theorem dated_startTransfer (o : Orchestrator) (req : CreateTransferRequest) :
    Dated (o.startTransfer req t) := by
  unfold startTransfer
  split
  · exact .perform trivial fun _ => .pure _
  refine .perform trivial fun strategy => ?_
  rcases strategy with err | _
  · exact .pure _
  dsimp only
  split
  · exact .pure _
  refine .perform trivial fun written => ?_
  rcases written with err | _
  · exact .pure _
  refine .perform trivial fun started => ?_
  rcases started with err | _
  · exact .pure _
  exact .createEvent (dated_commandAgents req)

/-- The row is inserted with the time just read. -/
theorem dated_createTransfer (o : Orchestrator) (req : CreateTransferRequest) :
    Dated (o.createTransfer req) := by
  refine fun _ => ⟨trivial, fun id => ⟨trivial, fun now => ⟨rfl, fun inserted => ?_⟩⟩⟩
  rcases inserted with err | _
  · trivial
  refine Dated.createEvent ?_ none
  split
  · exact .pure _
  refine .perform trivial fun written => ?_
  rcases written with err | _
  · exact .pure _
  refine .ambient (all_validateTransferRequest _) fun valid => ?_
  rcases valid with err | _
  · exact dated_failTransfer _ _ _
  · exact .createEvent (dated_startTransfer o req)

theorem dated_cancelTransfer (o : Orchestrator) : Dated (o.cancelTransfer id) := by
  unfold cancelTransfer
  refine .perform trivial fun loaded => ?_
  rcases loaded with err | (_ | t)
  · exact .pure _
  · exact .pure _
  dsimp only
  split
  · exact .pure _
  split
  · exact .pure _
  refine .perform trivial fun now => .perform trivial fun written => ?_
  rcases written with err | _
  · exact .pure _
  refine .perform trivial fun completed => ?_
  rcases completed with err | _
  · exact .pure _
  refine .createEvent (.ambient (o.all_closeTransfer _) fun _ => ?_)
  refine .ambient (o.all_onTransferStateChange _ _ _) fun _ => ?_
  refine .perform trivial fun _ => .perform trivial fun _ => ?_
  exact .undated ((all_executeCleanup _).mono fun _ => Call.Passive.undated) fun _ => .pure _

theorem dated_handleCompleted (o : Orchestrator) : Dated (o.handleCompleted id t) := by
  unfold handleCompleted
  split
  · exact .pure _
  refine .perform trivial fun written => ?_
  rcases written with err | _
  · exact .pure _
  refine .perform trivial fun completed => ?_
  rcases completed with err | _
  · exact .pure _
  refine .createEvent (.ambient (o.all_closeTransfer _) fun _ => ?_)
  refine .ambient (o.all_onTransferStateChange _ _ _) fun _ => ?_
  exact .undated ((all_executeCleanup _).mono fun _ => Call.Passive.undated) fun _ => .pure _

theorem dated_handleFailed (o : Orchestrator) (errorMessage : String) :
    Dated (o.handleFailed id errorMessage t) := by
  refine .ambient (all_applyRetryBackoff _ _ _ _ _) fun decision => ?_
  split
  · refine .perform trivial fun counted => ?_
    rcases counted with err | _
    · exact .pure _
    · exact .createEvent (.pure _)
  unfold handleExhausted
  split
  · exact .pure _
  refine .perform trivial fun written => ?_
  rcases written with err | _
  · exact .pure _
  refine .createEvent (.ambient (o.all_closeTransfer _) fun _ => ?_)
  refine .ambient (o.all_onTransferStateChange _ _ _) fun _ => ?_
  refine .ambient (o.all_onTransferError _) fun _ => ?_
  exact .undated ((all_executeCleanup _).mono fun _ => Call.Passive.undated) fun _ => .pure _

theorem dated_handleStatus (o : Orchestrator) (report : ProgressReport) (t : Transfer) :
    Dated (o.handleStatus report t) := by
  unfold handleStatus
  split
  · exact o.dated_handleCompleted
  split
  · exact o.dated_handleFailed _
  · exact .pure _

theorem dated_handleProgress (o : Orchestrator) (report : ProgressReport) :
    Dated (o.handleProgress report) := by
  unfold handleProgress
  refine .perform trivial fun loaded => ?_
  rcases loaded with err | (_ | t)
  · exact .pure _
  · exact .pure _
  refine .perform trivial fun updated => ?_
  rcases updated with err | _
  · exact .pure _
  refine .createEvent (.ambient (o.all_publish _ _) fun _ => ?_)
  refine .ambient (o.all_onProgressReport _ _) fun reported => ?_
  rcases reported with _ | _ | _
  · exact fun last => Prog.Obeys.bind ((o.dated_handleStatus report t last).mono fun _ _ _ => trivial)
  · exact .pure _
  · exact .pure _

theorem dated_serve (o : Orchestrator) (request : Request) : Dated (o.serve request) := by
  intro last
  cases request with
  | createTransfer req =>
    exact Prog.Obeys.bind ((o.dated_createTransfer req last).mono fun _ _ _ => trivial)
  | cancelTransfer id => exact Prog.Obeys.bind ((o.dated_cancelTransfer last).mono fun _ _ _ => trivial)
  | handleProgress report =>
    exact Prog.Obeys.bind ((o.dated_handleProgress report last).mono fun _ _ _ => trivial)

end Orchestrator

/-! ## One call -/

/-- The clock does not go back; everything may fail. -/
def Ticking (env : Env) (_ : Call) (w : Store × Journal) : Prop := w.2.clock ≤ env.now

instance (env : Env) (op : Call) (w : Store × Journal) : Decidable (Ticking env op w) :=
  inferInstanceAs (Decidable (_ ≤ _))

/-- Everything that is stored with a time is stored with `now` at the latest. -/
structure Store.Until (s : Store) (now : Time) : Prop where
  events : ∀ e ∈ s.events.rows, e.createdAt ≤ now
  rows : ∀ id t, s.row id = some t → t.createdAt ≤ now

/-- The events stand in the order of their times, each after its transfer. -/
structure Store.InOrder (s : Store) : Prop where
  sorted : s.events.rows.Pairwise oldestFirst
  since : ∀ e ∈ s.events.rows, ∀ t, s.row e.transferID = some t → t.createdAt ≤ e.createdAt

theorem Store.Until.mono {s : Store} {now now' : Time} (h : s.Until now) (hle : now ≤ now') :
    s.Until now' :=
  ⟨fun e he => (h.events e he).trans hle, fun id t ht => (h.rows id t ht).trans hle⟩

/-- What a call does to the time of a row: nothing, or it inserts the row. -/
theorem createdAt_exec {env : Env} {op : Call} {s : Store} {id : UUID} {t' : Transfer}
    (h : (exec env op s).2.row id = some t') :
    (∃ t, s.row id = some t ∧ t'.createdAt = t.createdAt) ∨
      s.row id = none ∧ op = .repo (.createTransfer t') ∧ t'.id = id := by
  cases op with
  | repo call =>
    have hrow : (execRepo env call s).2.row id = some t' := h
    rw [row_execRepo] at hrow
    by_cases hfail : env.fail = none
    · rw [if_pos hfail] at hrow
      cases call with
      | createTransfer t =>
        simp only [RepoCall.onRow] at hrow
        split at hrow
        · rename_i hnew
          cases hrow
          exact .inr ⟨hnew.2, rfl, hnew.1⟩
        · exact .inl ⟨t', hrow, rfl⟩
      | getTransferByID id' => exact .inl ⟨t', hrow, rfl⟩
      | createTransferEvent e => exact .inl ⟨t', hrow, rfl⟩
      | _ =>
        simp only [RepoCall.onRow] at hrow
        split at hrow
        · obtain ⟨t, ht, rfl⟩ := Option.map_eq_some_iff.mp hrow
          exact .inl ⟨t, ht, rfl⟩
        · exact .inl ⟨t', hrow, rfl⟩
    · rw [if_neg hfail] at hrow
      exact .inl ⟨t', hrow, rfl⟩
  | _ => exact .inl ⟨t', h, rfl⟩

/-- The tables are in order up to the clock, and up to the time just read. -/
structure Kempt (last : Option Time) (w : Store × Journal) : Prop where
  order : w.1.InOrder
  clock : w.1.Until w.2.clock
  read : ∀ now, last = some now → now ≤ w.2.clock ∧ w.1.Until now

namespace Kempt

variable {last : Option Time} {op : Call} {w : Store × Journal}

/-- What a call stores, it stores with a time that has passed. -/
theorem until_exec (h : Kempt last w) (hdated : op.DatedBy last) (env : Env) :
    (exec env op w.1).2.Until w.2.clock := by
  refine ⟨fun e he => ?_, fun id t ht => ?_⟩
  · rcases events_exec env op w.1 with hsame | ⟨e', rfl, happ⟩
    · rw [hsame] at he
      exact h.clock.events e he
    · rw [happ] at he
      rcases List.mem_append.mp he with hold | hnew
      · exact h.clock.events e hold
      · rw [List.mem_singleton.mp hnew]
        exact (h.read _ hdated).1
  · rcases createdAt_exec ht with ⟨t', ht', htime⟩ | ⟨-, rfl, -⟩
    · rw [htime]
      exact h.clock.rows id t' ht'
    · exact (h.read _ hdated).1

/-- The call leaves the tables in order. -/
theorem inOrder_exec (h : Kempt last w) (hdated : op.DatedBy last) (env : Env) :
    (exec env op w.1).2.InOrder := by
  -- an event that was there has its row, so the row is not a new one
  have hold : ∀ e ∈ w.1.events.rows, ∀ t, (exec env op w.1).2.row e.transferID = some t →
      t.createdAt ≤ e.createdAt := by
    intro e he t ht
    rcases createdAt_exec ht with ⟨t', ht', htime⟩ | ⟨hnone, -, -⟩
    · rw [htime]
      exact h.order.since e he t' ht'
    · exact absurd hnone (w.1.fk e he)
  rcases events_exec env op w.1 with hsame | ⟨e, rfl, happ⟩
  · refine ⟨?_, ?_⟩
    · rw [hsame]
      exact h.order.sorted
    · rw [hsame]
      exact hold
  · obtain ⟨-, huntil⟩ := h.read _ hdated
    refine ⟨?_, ?_⟩
    · rw [happ, List.pairwise_append]
      refine ⟨h.order.sorted, List.pairwise_singleton _ _, fun e' he' e'' he'' => ?_⟩
      rw [List.mem_singleton.mp he'']
      exact huntil.events e' he'
    · rw [happ]
      intro e' he' t ht
      rcases List.mem_append.mp he' with hbefore | hnew
      · exact hold e' hbefore t ht
      · rw [List.mem_singleton.mp hnew] at ht ⊢
        rcases createdAt_exec ht with ⟨t', ht', htime⟩ | ⟨-, hins, -⟩
        · rw [htime]
          exact huntil.rows _ t' ht'
        · cases hins

theorem step {env : Env} (h : Kempt last w) (hdated : op.DatedBy last) (htick : Ticking env op w) :
    Kempt (reading last ⟨op, (watch env op w).1⟩) (watch env op w).2 := by
  have huntil : (exec env op w.1).2.Until env.now := (h.until_exec hdated env).mono htick
  refine ⟨h.inOrder_exec hdated env, huntil, fun now hnow => ?_⟩
  cases op with
  | timeNow =>
    cases hnow
    exact ⟨le_refl _, huntil⟩
  | _ => cases hnow

/-- What was read is not needed any more. -/
theorem forget (h : Kempt last w) : Kempt none w := ⟨h.order, h.clock, nofun⟩

end Kempt

/-! ## Runs -/

section

variable [UUIDText]

theorem Orchestrator.kempt_serve (o : Orchestrator) (request : Request) (h : List CallEv)
    {w : Store × Journal} (hw : Kempt none w) :
    Prog.wp watch Ticking (o.serve request) (fun _ _ w' => Kempt none w') h w := by
  refine Prog.wp_mono (Prog.wp_of_obeys_of Kempt ?_ (o.dated_serve request none) hw) ?_
  · exact fun _ _ hdated _ hkempt _ htick => hkempt.step hdated htick
  · rintro a h' w' ⟨last, hlast, -⟩
    exact hlast.forget

omit [UUIDText] in
/-- A sorted timeline without ties is what any `ORDER BY created_at` returns. -/
theorem Store.getTransferEvents_of_sorted (order : Arrangement oldestFirst) {s : Store} {id : UUID}
    (hsorted : (s.timeline id).Pairwise oldestFirst)
    (hties : ((s.timeline id).map TransferEvent.createdAt).Nodup) :
    s.getTransferEvents order id = s.timeline id := by
  refine (order.perm _).eq_of_pairwise ?_ (order.sorted _) hsorted
  intro e e' he he' hle hle'
  have hmem : e ∈ s.timeline id := (order.perm _).mem_iff.mp he
  exact List.inj_on_of_nodup_map hties hmem he' (le_antisymm hle hle')

/-- Every sequential run with a clock that does not go back, whatever fails: the
    timeline of a transfer is in the order of `created_at`, with nothing before
    the transfer itself; and a reader gets it as it was written, unless two of
    its events have the same time, to the microsecond. -/
theorem chronicle_of_run (o : Orchestrator) {start : Time} {h : List CallEv} {w : Store × Journal}
    (hreach : Prog.SeqReach watch Ticking o.serve (.empty, ⟨start, []⟩) h w) (id : UUID) :
    (w.1.timeline id).Pairwise oldestFirst ∧
    (∀ t, w.1.row id = some t → ∀ e ∈ w.1.timeline id, t.createdAt ≤ e.createdAt) ∧
    (((w.1.timeline id).map TransferEvent.createdAt).Nodup →
      ∀ order : Arrangement oldestFirst, w.1.getTransferEvents order id = w.1.timeline id) := by
  have hnone : ∀ id, Store.empty.row id = none := fun _ => rfl
  have hempty : Store.Until .empty start := by
    refine ⟨fun e he => absurd he List.not_mem_nil, fun id t ht => ?_⟩
    rw [hnone] at ht
    cases ht
  have hstart : Kempt none (.empty, ⟨start, []⟩) :=
    ⟨⟨.nil, fun e he => absurd he List.not_mem_nil⟩, hempty, nofun⟩
  have hkempt : Kempt none w := Prog.SeqReach.invariant (I := fun _ w => Kempt none w) hstart
    (fun request h w hw => o.kempt_serve request h hw) hreach
  have hsorted : (w.1.timeline id).Pairwise oldestFirst := hkempt.order.sorted.filter _
  refine ⟨hsorted, fun t ht e he => ?_, fun hties order =>
    Store.getTransferEvents_of_sorted order hsorted hties⟩
  obtain ⟨hmem, hid⟩ := List.mem_filter.mp he
  rw [decide_eq_true_eq] at hid
  exact hkempt.order.since e hmem t (by rw [hid]; exact ht)

end

/-! ## A sample run -/

/-- Calls at the times from `start` on, nothing fails. -/
def callsAt (start : Time) (fresh n : Nat) : List Env :=
  (List.range n).map fun (k : Nat) => { now := start + k, uuid := BitVec.ofNat 128 (fresh + k) }

theorem chronicle_of_createThenCancel :
    ∃ h w, Prog.evalAll watch Ticking (@Orchestrator.serve canonicalText plainOrchestrator)
        (.empty, ⟨0, []⟩) [(.createTransfer sampleRequest, callsAt 0 7 21),
          (.cancelTransfer 7, callsAt 50 100 12)] = some (h, w) ∧
      (w.1.timeline 7).length = 4 ∧
      ((w.1.timeline 7).Pairwise oldestFirst ∧
      (∀ t, w.1.row 7 = some t → ∀ e ∈ w.1.timeline 7, t.createdAt ≤ e.createdAt) ∧
      (((w.1.timeline 7).map TransferEvent.createdAt).Nodup →
        ∀ order : Arrangement oldestFirst, w.1.getTransferEvents order 7 = w.1.timeline 7)) := by
  have hend : (Prog.evalAll watch Ticking (@Orchestrator.serve canonicalText plainOrchestrator)
      (.empty, ⟨0, []⟩) [(.createTransfer sampleRequest, callsAt 0 7 21),
        (.cancelTransfer 7, callsAt 50 100 12)]).any fun out =>
      (out.2.1.timeline 7).length = 4 := by decide +kernel
  obtain ⟨⟨h, w⟩, hruns, hlength⟩ := (Option.any_eq_true _ _).mp hend
  exact ⟨h, w, hruns, of_decide_eq_true hlength,
    @chronicle_of_run canonicalText plainOrchestrator 0 h w (Prog.SeqReach.init.of_evalAll hruns) 7⟩

end Katapult
