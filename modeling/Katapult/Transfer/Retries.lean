/-
  Katapult.Transfer.Retries

  The retry budget of one transfer, under any number of reports at once.

  A failed report decides on a copy of the counter that it read earlier, and
  then raises the stored one without looking.  The column itself never lies: it
  is what it was, plus one for every retry counted since.  So the budget holds
  exactly when no call's copy has become so stale that the retries left in it
  were counted by others in the meantime (`Unspent`).
-/

import Katapult.Transfer.Resends

namespace Katapult

open Effect Channel

/-! ## One call -/

/-- A retry of the transfer has been counted. -/
def CallEv.counts (id : UUID) : CallEv → Bool
  | ⟨.repo (.incrementRetryCount id'), .ok _⟩ => id' = id
  | _ => false

/-- The recording of a retry of the transfer, successful or not. -/
def CallEv.retries (id : UUID) : CallEv → Bool
  | ⟨.repo (.createTransferEvent e), _⟩ => e.transferID = id && e.eventType = .retried
  | _ => false

/-- A call raises the counter exactly if it counts a retry, and never moves the bound. -/
theorem retryCount_exec {s : Store} {id : UUID} {t : Transfer} (h : s.row id = some t) (env : Env)
    (op : Call) :
    ∃ t', (exec env op s).2.row id = some t' ∧ t'.retryMax = t.retryMax ∧
      t'.retryCount = t.retryCount + (CallEv.counts id ⟨op, (exec env op s).1⟩).toNat := by
  cases op with
  | repo call =>
    have hrow : (exec env (.repo call) s).2.row id = _ := row_execRepo env call s id
    rw [h] at hrow
    cases hfail : env.fail with
    | some err =>
      rw [hfail, if_neg nofun] at hrow
      refine ⟨t, hrow, rfl, ?_⟩
      cases call <;> simp [exec, execRepo, Env.write_of_fail hfail, CallEv.counts]
    | none =>
      rw [if_pos hfail] at hrow
      cases call with
      | incrementRetryCount id' =>
        by_cases hid : id = id'
        · subst hid
          refine ⟨{ t with retryCount := t.retryCount + 1 }, ?_, rfl, ?_⟩
          · simpa [RepoCall.onRow] using hrow
          · simp [exec, execRepo, Env.write, hfail, Store.updateTransfer, CallEv.counts]
        · refine ⟨t, ?_, rfl, ?_⟩
          · simpa [RepoCall.onRow, hid] using hrow
          · simp [exec, execRepo, Env.write, hfail, Store.updateTransfer, CallEv.counts, Ne.symm hid]
      | createTransfer t' => exact ⟨t, by simpa [RepoCall.onRow] using hrow, rfl, by simp [CallEv.counts]⟩
      | getTransferByID id' => exact ⟨t, hrow, rfl, by simp [CallEv.counts]⟩
      | createTransferEvent e => exact ⟨t, hrow, rfl, by simp [CallEv.counts]⟩
      | _ =>
        -- the other columns
        simp only [RepoCall.onRow] at hrow
        split at hrow
        · exact ⟨_, hrow, rfl, by simp [CallEv.counts]⟩
        · exact ⟨t, hrow, rfl, by simp [CallEv.counts]⟩
  | _ => exact ⟨t, h, rfl, by simp [CallEv.counts]⟩

/-- The timeline gains a retry only from a call that records one. -/
theorem retried_exec_le (env : Env) (op : Call) (s : Store) (id : UUID) :
    (exec env op s).2.retried id ≤ s.retried id + (CallEv.retries id ⟨op, (exec env op s).1⟩).toNat := by
  rcases timeline_exec env op s id with hsame | ⟨e, rfl, hid, happ⟩
  · rw [Store.retried, hsame, Store.retried]
    exact Nat.le_add_right _ _
  · rw [Store.retried, happ, List.map_append, List.count_append, Store.retried]
    refine Nat.add_le_add_left ?_ _
    by_cases hretried : e.eventType = .retried
    · simp [CallEv.retries, hid, hretried]
    · simp [CallEv.retries, hretried]

/-! ## One report -/

/-- What a report's handler knows of the budget. -/
structure Grant where
  /-- The row that was read. -/
  read : Option (UUID × Transfer) := none
  /-- The transfer whose retry was counted, and not recorded yet. -/
  owed : Option UUID := none

namespace Grant

def follow (m : Grant) : CallEv → Grant
  | ⟨.repo (.getTransferByID id), .ok (some t)⟩ => { m with read := some (id, t) }
  | ⟨.repo (.incrementRetryCount id), .ok _⟩ => { m with owed := some id }
  | ⟨.repo (.createTransferEvent e), _⟩ =>
      if e.eventType = .retried then { m with owed := none } else m
  | _ => m

/-- A retry is counted when the row that was read has one left, and recorded
    once, after it was counted. -/
def Permits (m : Grant) : Call → Prop
  | .repo (.incrementRetryCount id) =>
      m.owed = none ∧ ∃ t, m.read = some (id, t) ∧ t.retryCount < t.retryMax
  | .repo (.createTransferEvent e) => e.eventType = .retried → m.owed = some e.transferID
  | _ => True

abbrev Obeyed {α : Type} (m : Grant) (p : Engine α) : Prop :=
  Prog.Obeys follow Permits (fun _ _ => True) m p

end Grant

/-- Calls that have nothing to do with the budget. -/
def Call.Unretried : Call → Prop
  | .repo (.getTransferByID _) | .repo (.incrementRetryCount _) => False
  | .repo (.createTransferEvent e) => e.eventType ≠ .retried
  | _ => True

theorem Call.Passive.unretried {op : Call} (h : op.Passive) : op.Unretried := by
  cases op <;> first | exact h.elim | trivial

theorem Call.RecordsEvent.unretried {op : Call} {id : UUID} {eventType : EventType}
    (hty : eventType ≠ .retried) (h : op.RecordsEvent id eventType) : op.Unretried := by
  cases op with
  | newUUID => trivial
  | timeNow => trivial
  | repo call =>
    cases call with
    | createTransferEvent e => exact fun hretried => hty (h.2.symm.trans hretried)
    | _ => cases h
  | _ => cases h

namespace Grant

variable {m : Grant} {α β : Type}

theorem permits_unretried (m : Grant) {op : Call} (h : op.Unretried) :
    m.Permits op ∧ ∀ r, m.follow ⟨op, r⟩ = m := by
  cases op with
  | repo call =>
    cases call with
    | getTransferByID id => exact h.elim
    | incrementRetryCount id => exact h.elim
    | createTransferEvent e => exact ⟨fun hretried => absurd hretried h, fun _ => if_neg h⟩
    | _ => exact ⟨trivial, fun _ => rfl⟩
  | _ => exact ⟨trivial, fun _ => rfl⟩

theorem Obeyed.unretried {p : Engine β} {f : β → Engine α} (hp : p.All Call.Unretried)
    (hf : ∀ b, Obeyed m (f b)) : Obeyed m (p >>= f) :=
  Prog.Obeys.skip (hp.mono fun _ => m.permits_unretried) hf

theorem Obeyed.ambient {p : Engine β} {f : β → Engine α} (hp : p.All Call.Ambient)
    (hf : ∀ b, Obeyed m (f b)) : Obeyed m (p >>= f) :=
  .unretried (hp.mono fun _ h => h.passive.unretried) hf

theorem Obeyed.passive {p : Engine β} {f : β → Engine α} (hp : p.All Call.Passive)
    (hf : ∀ b, Obeyed m (f b)) : Obeyed m (p >>= f) :=
  .unretried (hp.mono fun _ h => h.unretried) hf

theorem Obeyed.createEvent {id : UUID} {eventType : EventType} {message : String}
    {metadata : Option (List (String × String))} {f : Unit → Engine α}
    (hty : eventType ≠ .retried) (hf : Obeyed m (f ())) :
    Obeyed m (createEvent id eventType message metadata >>= f) :=
  .unretried ((all_createEvent id eventType message metadata).mono fun _ h => h.unretried hty)
    fun _ => hf

/-! ### What the history of a handler shows -/

/-- A retry of `id` that was counted and not recorded. -/
def due (m : Grant) (id : UUID) : Nat := (decide (m.owed = some id)).toNat

theorem due_follow {ev : CallEv} (id : UUID) (hperm : m.Permits ev.1) :
    (ev.retries id).toNat + (m.follow ev).due id ≤ m.due id + (ev.counts id).toNat := by
  obtain ⟨op, r⟩ := ev
  cases op with
  | repo call =>
    cases call with
    | incrementRetryCount id' =>
      have hnone : m.owed = none := hperm.1
      rcases r with err | _
      · simp [CallEv.retries, follow]
      · simp [CallEv.retries, CallEv.counts, follow, due, hnone]
    | createTransferEvent e =>
      by_cases hretried : e.eventType = .retried
      · -- the event is of the transfer whose retry was counted
        have howed : m.owed = some e.transferID := hperm hretried
        simp [CallEv.retries, CallEv.counts, follow, due, hretried, howed]
      · simp [CallEv.retries, follow, hretried]
    | getTransferByID id' =>
      rcases r with err | (_ | t) <;> exact le_of_eq (Nat.zero_add _)
    | _ => simp [CallEv.retries, follow]
  | _ => simp [CallEv.retries, follow]

/-- A handler records no retry that it has not counted. -/
theorem countP_retries_le {evs : List CallEv} (id : UUID) (hperm : Permitted follow Permits m evs) :
    evs.countP (CallEv.retries id) + (evs.foldl follow m).due id ≤
      m.due id + evs.countP (CallEv.counts id) := by
  induction evs generalizing m with
  | nil => simp
  | cons ev evs ih =>
    have hhead := due_follow id hperm.1
    have htail := ih hperm.2
    have hsplit : ∀ p : CallEv → Bool, (ev :: evs).countP p = (p ev).toNat + evs.countP p := by
      intro p
      cases hp : p ev <;> simp [hp, Nat.add_comm]
    rw [hsplit, hsplit, List.foldl_cons]
    omega

/-- A row that the handler holds was read by it. -/
theorem mem_of_read {evs : List CallEv} {id : UUID} {t : Transfer}
    (h : (evs.foldl follow m).read = some (id, t)) :
    m.read = some (id, t) ∨
      (⟨.repo (.getTransferByID id), .ok (some t)⟩ : CallEv) ∈ evs := by
  induction evs generalizing m with
  | nil => exact .inl h
  | cons ev evs ih =>
    rcases ih h with hread | hmem
    · have hhead : m.read = some (id, t) ∨
          ev = (⟨.repo (.getTransferByID id), .ok (some t)⟩ : CallEv) := by
        unfold follow at hread
        split at hread
        · cases hread
          exact .inr rfl
        · exact .inl hread
        · split at hread
          · exact .inl hread
          · exact .inl hread
        · exact .inl hread
      rcases hhead with hold | rfl
      · exact .inl hold
      · exact .inr (List.mem_cons_self ..)
    · exact .inr (List.mem_cons_of_mem _ hmem)

end Grant

namespace Orchestrator

variable [UUIDText] {m : Grant} {id : UUID} {transfer : Transfer}

theorem granted_handleCompleted (o : Orchestrator) :
    Grant.Obeyed m (o.handleCompleted id transfer) := by
  unfold handleCompleted
  split
  · trivial
  refine Prog.Obeys.perform trivial fun written => ?_
  rcases written with err | _
  · trivial
  refine Prog.Obeys.perform trivial fun completed => ?_
  rcases completed with err | _
  · trivial
  refine Grant.Obeyed.createEvent (by decide) ?_
  refine Grant.Obeyed.ambient (o.all_closeTransfer _) fun _ => ?_
  refine Grant.Obeyed.ambient (o.all_onTransferStateChange _ _ _) fun _ => ?_
  exact Grant.Obeyed.passive (all_executeCleanup _) fun _ => trivial

theorem granted_handleExhausted (o : Orchestrator) (errorMessage : String) :
    Grant.Obeyed m (o.handleExhausted id errorMessage transfer) := by
  unfold handleExhausted
  split
  · trivial
  refine Prog.Obeys.perform trivial fun written => ?_
  rcases written with err | _
  · trivial
  refine Grant.Obeyed.createEvent (by decide) ?_
  refine Grant.Obeyed.ambient (o.all_closeTransfer _) fun _ => ?_
  refine Grant.Obeyed.ambient (o.all_onTransferStateChange _ _ _) fun _ => ?_
  refine Grant.Obeyed.ambient (o.all_onTransferError _) fun _ => ?_
  exact Grant.Obeyed.passive (all_executeCleanup _) fun _ => trivial

theorem granted_handleFailed (o : Orchestrator) (errorMessage : String)
    (hread : m.read = some (id, transfer)) (howed : m.owed = none) :
    Grant.Obeyed m (o.handleFailed id errorMessage transfer) := by
  unfold handleFailed applyRetryBackoff
  by_cases hleft : transfer.retryCount < transfer.retryMax
  · rw [if_neg (not_le.mpr hleft)]
    refine ⟨trivial, fun _ => ⟨⟨howed, transfer, hread, hleft⟩, fun counted => ?_⟩⟩
    rcases counted with err | _
    · trivial
    exact ⟨trivial, fun _ => ⟨trivial, fun _ => ⟨fun _ => rfl, fun _ => trivial⟩⟩⟩
  · rw [if_pos (not_lt.mp hleft)]
    exact o.granted_handleExhausted errorMessage

theorem granted_handleStatus (o : Orchestrator) (report : ProgressReport) {transfer : Transfer}
    {m : Grant} (hread : m.read = some (report.transferID, transfer)) (howed : m.owed = none) :
    Grant.Obeyed m (o.handleStatus report transfer) := by
  unfold handleStatus
  split
  · exact o.granted_handleCompleted
  split
  · exact o.granted_handleFailed _ hread howed
  · trivial

theorem granted_handleProgress (o : Orchestrator) (report : ProgressReport) :
    Grant.Obeyed {} (o.handleProgress report) := by
  unfold handleProgress
  refine Prog.Obeys.perform trivial fun loaded => ?_
  rcases loaded with err | (_ | transfer)
  · trivial
  · trivial
  refine Prog.Obeys.perform trivial fun updated => ?_
  rcases updated with err | _
  · trivial
  refine Grant.Obeyed.createEvent (by decide) ?_
  refine Grant.Obeyed.ambient (o.all_publish _ _) fun _ => ?_
  refine Grant.Obeyed.ambient (o.all_onProgressReport _ _) fun reported => ?_
  rcases reported with _ | _ | _
  · exact Prog.Obeys.bind ((o.granted_handleStatus report rfl rfl).mono fun _ _ _ => trivial)
  · trivial
  · trivial

end Orchestrator

/-! ## Interleavings -/

/-- The retries of a transfer that a history counts. -/
def counted {ι : Type} (id : UUID) (tr : Trace ι Call Call.Ans) : Nat :=
  tr.countP fun e => CallEv.counts id e.2

/-- The retry budget of a transfer is kept, by the counter and by the timeline. -/
def WithinBudget (id : UUID) (s : Store) : Prop :=
  ∀ t, s.row id = some t →
    t.retryCount ≤ max t.retryMax 0 ∧ (s.retried id : Int) ≤ max t.retryMax 0

/-- Whenever others have counted retries between a call's read of the row and its
    own increment, they were fewer than that row had left. -/
def Unspent {ι : Type} (id : UUID) (tr : Trace ι Call Call.Ans) : Prop :=
  ∀ i t past between rest,
    tr = past ++ (i, (⟨.repo (.getTransferByID id), .ok (some t)⟩ : CallEv)) :: between ++
      (i, (⟨.repo (.incrementRetryCount id), .ok ()⟩ : CallEv)) :: rest →
    counted id between ≠ 0 → t.retryCount + counted id between < t.retryMax

section

variable {α ι : Type} {id : UUID} {t₀ : Transfer}

theorem counted_append (tr tr' : Trace ι Call Call.Ans) :
    counted id (tr ++ tr') = counted id tr + counted id tr' :=
  List.countP_append

theorem counted_cons (e : ι × CallEv) (tr : Trace ι Call Call.Ans) :
    counted id (e :: tr) = (CallEv.counts id e.2).toNat + counted id tr := by
  cases h : CallEv.counts id e.2 <;> simp [counted, h, Nat.add_comm]

/-- What is counted around a read and the increment after it. -/
theorem counted_window (id : UUID) (i : ι) (t : Transfer) (past between rest : Trace ι Call Call.Ans) :
    counted id (past ++ (i, (⟨.repo (.getTransferByID id), .ok (some t)⟩ : CallEv)) :: between ++
      (i, (⟨.repo (.incrementRetryCount id), .ok ()⟩ : CallEv)) :: rest) =
    counted id past + counted id between + 1 + counted id rest := by
  have hread : CallEv.counts id ⟨.repo (.getTransferByID id), .ok (some t)⟩ = false := rfl
  have hcount : CallEv.counts id ⟨.repo (.incrementRetryCount id), .ok ()⟩ = true := by
    simp [CallEv.counts]
  rw [counted_append, counted_append, counted_cons, counted_cons, hread, hcount, Bool.toNat_false,
    Bool.toNat_true]
  omega

theorem Unspent.of_append {tr tr' : Trace ι Call Call.Ans} (h : Unspent id (tr ++ tr')) :
    Unspent id tr := by
  rintro i t past between rest rfl
  refine h i t past between (rest ++ tr') ?_
  simp [List.append_assoc]

/-- An entry that counts a retry is an increment that was made. -/
theorem CallEv.eq_of_counts {ev : CallEv} (h : ev.counts id = true) :
    ev = (⟨.repo (.incrementRetryCount id), .ok ()⟩ : CallEv) := by
  unfold CallEv.counts at h
  split at h
  · rw [of_decide_eq_true h]
  · cases h

variable [DecidableEq ι] {cfg₀ cfg : Config Call Call.Ans α ι Store}
variable {tr : Trace ι Call Call.Ans} {ok : ι → Env → Call → Store → Prop}

/-- The counter is what it was, plus one for every retry counted since. -/
theorem retryCount_of_run (hrun : Run exec ok cfg₀ tr cfg) (h₀ : cfg₀.state.row id = some t₀) :
    ∃ t, cfg.state.row id = some t ∧ t.retryMax = t₀.retryMax ∧
      t.retryCount = t₀.retryCount + counted id tr := by
  induction hrun with
  | init => exact ⟨t₀, h₀, rfl, (Int.add_zero _).symm⟩
  | @step tr cfg i env op k _ _ _ ih =>
    obtain ⟨t, ht, hmax, hcount⟩ := ih
    obtain ⟨t', ht', hmax', hcount'⟩ := retryCount_exec ht env op
    refine ⟨t', ht', hmax'.trans hmax, ?_⟩
    rw [hcount', hcount, counted_append, counted_cons]
    have hnil : counted id ([] : Trace ι Call Call.Ans) = 0 := rfl
    rw [hnil]
    push_cast
    omega

/-- What a call reads of the counter is what the history before it says. -/
theorem retryCount_of_read {i : ι} {t : Transfer} {past rest : Trace ι Call Call.Ans}
    (hrun : Run exec ok cfg₀
      (past ++ (i, (⟨.repo (.getTransferByID id), .ok (some t)⟩ : CallEv)) :: rest) cfg)
    (h₀ : cfg₀.state.row id = some t₀) :
    t.retryMax = t₀.retryMax ∧ t.retryCount = t₀.retryCount + counted id past := by
  obtain ⟨cfg₁, env, op, k, hpast, -, -, hentry, -⟩ := hrun.split
  obtain ⟨t₁, ht₁, hmax, hcount⟩ := retryCount_of_run hpast h₀
  have hop : Call.repo (.getTransferByID id) = op := congrArg Sigma.fst hentry
  subst hop
  have hanswer : Except.ok (some t) = env.answer (cfg₁.state.row id) :=
    eq_of_heq (Sigma.mk.inj hentry).2
  cases hfail : env.fail with
  | some err =>
    rw [Env.answer_of_fail hfail] at hanswer
    cases hanswer
  | none =>
    rw [Env.answer_of_ok hfail, ht₁] at hanswer
    cases hanswer
    exact ⟨hmax, hcount⟩

/-- The timeline gains at most what the calls have tried to record. -/
theorem retried_of_run (hrun : Run exec ok cfg₀ tr cfg) :
    cfg.state.retried id ≤ cfg₀.state.retried id + tr.countP fun e => CallEv.retries id e.2 := by
  induction hrun with
  | init => exact Nat.le_refl _
  | @step tr cfg i env op k _ _ _ ih =>
    have hstep := retried_exec_le env op cfg.state id
    rw [List.countP_append, List.countP_singleton]
    simp only [Config.step]
    cases hretries : CallEv.retries id ⟨op, (exec env op cfg.state).1⟩ <;>
      simp only [hretries, Bool.toNat_false, Bool.toNat_true, if_true, Bool.false_eq_true,
        if_false] at hstep ⊢ <;>
      omega

end

section

variable [UUIDText] {ι : Type} [DecidableEq ι] {o : Orchestrator} {reports : ι → ProgressReport}
variable {id : UUID} {s₀ : Store} {t₀ : Transfer} {tr : Trace ι Call Call.Ans}
variable {cfg : Config Call Call.Ans (Attempt (Except Err Unit)) ι Store}
variable {ok : ι → Env → Call → Store → Prop}

/-- No more retries are recorded than were counted. -/
theorem retried_le_counted (id : UUID)
    (hrun : Run exec ok ⟨fun i => o.handleProgress (reports i), s₀⟩ tr cfg) :
    cfg.state.retried id ≤ s₀.retried id + counted id tr := by
  refine le_trans (retried_of_run hrun) (Nat.add_le_add_left (Trace.countP_le fun i => ?_) _)
  have hperm := (hrun.obeys_local i (o.granted_handleProgress (reports i))).1
  have hlocal := Grant.countP_retries_le id hperm
  have hempty : ({} : Grant).due id = 0 := rfl
  omega

/-- A call counts a retry only if the row that it has read had one left. -/
theorem read_of_counted {i : ι} {past rest : Trace ι Call Call.Ans}
    (hrun : Run exec ok ⟨fun i => o.handleProgress (reports i), s₀⟩
      (past ++ (i, (⟨.repo (.incrementRetryCount id), .ok ()⟩ : CallEv)) :: rest) cfg) :
    ∃ t before between,
      past = before ++ (i, (⟨.repo (.getTransferByID id), .ok (some t)⟩ : CallEv)) :: between ∧
      t.retryCount < t.retryMax := by
  have hperm := (hrun.obeys_local i (o.granted_handleProgress (reports i))).1
  rw [Trace.local_middle, permitted_append] at hperm
  obtain ⟨-, t, hread, hleft⟩ := hperm.2.1
  rcases Grant.mem_of_read hread with hnone | hmem
  · cases hnone
  · obtain ⟨before, between, hsplit⟩ := List.append_of_mem (Trace.mem_local.mp hmem)
    exact ⟨t, before, between, hsplit, hleft⟩

/-- As long as no copy is overspent, the budget covers what was counted. -/
theorem counted_le_of_unspent (h₀ : s₀.row id = some t₀) (hbudget : t₀.retryCount ≤ max t₀.retryMax 0)
    (hrun : Run exec ok ⟨fun i => o.handleProgress (reports i), s₀⟩ tr cfg)
    (hunspent : Unspent id tr) : t₀.retryCount + counted id tr ≤ max t₀.retryMax 0 := by
  induction hrun with
  | init =>
    have hnil : counted id ([] : Trace ι Call Call.Ans) = 0 := rfl
    rw [hnil]
    simpa using hbudget
  | @step tr cfg i env op k hrun hnext hok ih =>
    have hbefore := ih hunspent.of_append
    cases hcounts : CallEv.counts id ⟨op, (exec env op cfg.state).1⟩ with
    | false =>
      rw [counted_append, counted_cons, hcounts]
      simpa [counted] using hbefore
    | true =>
      have hfull := Run.step hrun hnext hok
      rw [CallEv.eq_of_counts hcounts] at hfull hunspent ⊢
      -- the step counts a retry: it has read a row that had one left
      obtain ⟨t, past, between, hsplit, hleft⟩ := read_of_counted hfull
      subst hsplit
      have hfresh : t.retryCount + counted id between < t.retryMax := by
        by_cases hraced : counted id between = 0
        · -- nobody else has counted one since, and the backoff has let this one through
          rw [hraced]
          simpa using hleft
        · exact hunspent i t past between [] rfl hraced
      obtain ⟨hmax, hcount⟩ := retryCount_of_read hrun h₀
      rw [hcount, hmax] at hfresh
      have hnil : counted id ([] : Trace ι Call Call.Ans) = 0 := rfl
      have hwindow := counted_window id i t past between []
      rw [hwindow, hnil]
      refine le_trans ?_ (le_max_left _ _)
      push_cast
      omega

/-- Within the budget, no copy can have been overspent. -/
theorem unspent_of_counted_le (h₀ : s₀.row id = some t₀) (hcounter : 0 ≤ t₀.retryCount)
    (hrun : Run exec ok ⟨fun i => o.handleProgress (reports i), s₀⟩ tr cfg)
    (hcounted : t₀.retryCount + counted id tr ≤ max t₀.retryMax 0) : Unspent id tr := by
  rintro i t past between rest rfl -
  rw [counted_window] at hcounted
  obtain ⟨hmax, hcount⟩ : t.retryMax = t₀.retryMax ∧ t.retryCount = t₀.retryCount + counted id past := by
    rw [List.append_assoc] at hrun
    exact retryCount_of_read hrun h₀
  -- the call has read a row with a retry left, so the bound is a positive one
  obtain ⟨t', past', between', hsplit, hleft⟩ := read_of_counted hrun
  obtain ⟨hmax', hcount'⟩ : t'.retryMax = t₀.retryMax ∧ t'.retryCount = t₀.retryCount + counted id past' := by
    rw [hsplit, List.append_assoc] at hrun
    exact retryCount_of_read hrun h₀
  have hpositive : 0 < t₀.retryMax := by omega
  rw [max_eq_left hpositive.le] at hcounted
  push_cast at hcounted
  omega

/-- Any number of reports, in any order of their calls and with any answers, on
    a transfer that is within its budget: the budget is kept exactly if no call
    counts a retry that others have used up since it read the row.  Where nobody
    has counted any, the call itself has seen to it. -/
theorem withinBudget_iff (h₀ : s₀.row id = some t₀) (hcounter : 0 ≤ t₀.retryCount)
    (hbudget : t₀.retryCount ≤ max t₀.retryMax 0) (hretried : s₀.retried id ≤ t₀.retryCount)
    (hrun : Run exec ok ⟨fun i => o.handleProgress (reports i), s₀⟩ tr cfg) :
    WithinBudget id cfg.state ↔ Unspent id tr := by
  obtain ⟨t, ht, hmax, hcount⟩ := retryCount_of_run hrun h₀
  constructor
  · intro hwithin
    have hbound := (hwithin t ht).1
    rw [hmax, hcount] at hbound
    exact unspent_of_counted_le h₀ hcounter hrun hbound
  · intro hunspent t' ht'
    rw [ht] at ht'
    cases ht'
    have hbound := counted_le_of_unspent h₀ hbudget hrun hunspent
    have hrecorded := retried_le_counted id hrun
    rw [hmax, hcount]
    exact ⟨hbound, by omega⟩

end

/-! ## Sample runs -/

/-- The sample transfer, created with one retry. -/
def oneRetryStore : Store :=
  ((undisturbedEnd [(.createTransfer { sampleRequest with retryMax := some 1 }, calls 7 21)]).map
    Prod.snd).getD .empty

/-- The failed report of both agents. -/
def twoReports : Config Call Call.Ans (Attempt (Except Err Unit)) Bool Store where
  procs := fun _ => @Orchestrator.handleProgress canonicalText plainOrchestrator failedReport
  state := oneRetryStore

/-- The sample transfer has a retry left, and none was recorded. -/
theorem oneRetryStore_row :
    ∃ t, oneRetryStore.row 7 = some t ∧ t.retryCount = 0 ∧ t.retryMax = 1 ∧
      oneRetryStore.retried 7 = 0 := by
  have hstore : (oneRetryStore.row 7).any (fun t => t.retryCount = 0 ∧ t.retryMax = 1) ∧
      oneRetryStore.retried 7 = 0 := by decide +kernel
  obtain ⟨t, ht, hcolumns⟩ := (Option.any_eq_true _ _).mp hstore.1
  obtain ⟨hcount, hmax⟩ := of_decide_eq_true hcolumns
  exact ⟨t, ht, hcount, hmax, hstore.2⟩

/-- One report uses the retry up, and the other one, after it, ends the transfer. -/
theorem withinBudget_iff_oneAfterTheOther :
    ∃ tr cfg, Run exec (fun _ env op _ => env.RepoSucceeds op) twoReports tr cfg ∧
      (cfg.state.row 7).any (fun t => t.retryCount = 1 ∧ t.state = .failed) ∧
      (WithinBudget 7 cfg.state ↔ Unspent 7 tr) := by
  let ok : Bool → Env → Call → Store → Prop := fun _ env op _ => env.RepoSucceeds op
  obtain ⟨tr, hrun⟩ := Run.after exec ok twoReports (moves false 100 10 ++ moves true 200 12)
    (by decide +kernel)
  obtain ⟨t, ht, hcount, hmax, hretried⟩ := oneRetryStore_row
  exact ⟨tr, _, hrun, by decide +kernel, @withinBudget_iff canonicalText Bool _ plainOrchestrator
    (fun _ => failedReport) 7 oneRetryStore t tr _ ok ht (by rw [hcount])
    (by rw [hcount]; exact le_max_right _ _) (by rw [hcount, hretried]; rfl) hrun⟩

/-- Both agents report the failure, and both handlers read the row before either
    counts its retry. -/
theorem not_withinBudget_twoReports :
    ¬ ∀ (s₀ : Store) (t₀ : Transfer), s₀.row 7 = some t₀ → 0 ≤ t₀.retryCount →
      t₀.retryCount ≤ max t₀.retryMax 0 → (s₀.retried 7 : Int) ≤ t₀.retryCount →
      ∀ (reports : Bool → ProgressReport) (tr : Trace Bool Call Call.Ans)
        (cfg : Config Call Call.Ans (Attempt (Except Err Unit)) Bool Store),
      Run exec (fun _ env op _ => env.RepoSucceeds op)
        ⟨fun i => @Orchestrator.handleProgress canonicalText plainOrchestrator (reports i), s₀⟩
        tr cfg → WithinBudget 7 cfg.state := by
  intro hall
  let ok : Bool → Env → Call → Store → Prop := fun _ env op _ => env.RepoSucceeds op
  let sched := moves false 100 1 ++ moves true 200 1 ++ moves false 300 9 ++ moves true 400 9
  obtain ⟨tr, hrun⟩ := Run.after exec ok twoReports sched (by decide +kernel)
  obtain ⟨t₀, ht₀, hcount, hmax, hretried⟩ := oneRetryStore_row
  have hwithin := hall oneRetryStore t₀ ht₀ (by rw [hcount]) (by rw [hcount]; exact le_max_right _ _)
    (by rw [hcount, hretried]; rfl) (fun _ => failedReport) tr _ hrun
  have hend : ((twoReports.after exec ok sched).state.row 7).any fun t =>
      t.retryCount = 2 ∧ t.retryMax = 1 := by decide +kernel
  obtain ⟨t, ht, hcolumns⟩ := (Option.any_eq_true _ _).mp hend
  obtain ⟨hcount', hmax'⟩ := of_decide_eq_true hcolumns
  have hbound := (hwithin t ht).1
  rw [hcount', hmax'] at hbound
  exact absurd hbound (by decide)

end Katapult
