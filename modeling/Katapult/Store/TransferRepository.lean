/-
  Katapult.Store.TransferRepository

  The PostgreSQL repository of transfers, statement by statement, and with it
  the machine the engine's programs run on.  A call that fails changes nothing.
  The repository checks no state transition: an UPDATE overwrites whatever the
  row holds, and one that matches no row succeeds.
-/

import Katapult.Transfer.Calls
import Katapult.Keyed.Table
import Katapult.Store.Environment

namespace Katapult

open Effect Keyed

/-- The tables `transfers` and `transfer_events`; every event refers to a transfer. -/
structure Store where
  transfers : Table UUID Transfer Transfer.id
  events : Table UUID TransferEvent TransferEvent.id
  fk : ∀ e ∈ events.rows, transfers.find? e.transferID ≠ none

namespace Store

def empty : Store := ⟨.empty, .empty, by simp [Table.empty]⟩

/-- The row of a transfer. -/
def row (s : Store) (id : UUID) : Option Transfer := s.transfers.find? id

/-- The stored state of a transfer. -/
def stateOf (s : Store) (id : UUID) : Option TransferState := (s.row id).map Transfer.state

/-- The events of a transfer, in insertion order. -/
def timeline (s : Store) (id : UUID) : List TransferEvent :=
  s.events.rows.filter fun e => e.transferID = id

/-- `INSERT INTO transfers`. -/
def insertTransfer (s : Store) (t : Transfer) : Except Err Store :=
  match h : s.transfers.insert? t with
  | some transfers => .ok
    { s with
      transfers
      fk := fun e he => by
        rw [Table.find?_insert? h]
        split
        · simp
        · exact s.fk e he }
  | none => .error "duplicate key value violates unique constraint \"transfers_pkey\""

/-- `UPDATE transfers SET .. WHERE id = $1`. -/
def updateTransfer (s : Store) (id : UUID) (set : Transfer → Transfer)
    (hset : ∀ t, (set t).id = t.id := by intro t; rfl) : Except Err Store :=
  .ok { s with
    transfers := s.transfers.modify id set hset
    fk := fun e he => by
      rw [Table.find?_modify]
      split
      · simpa using s.fk e he
      · exact s.fk e he }

/-- `INSERT INTO transfer_events`, with its foreign key. -/
def insertEvent (s : Store) (e : TransferEvent) : Except Err Store :=
  if hrow : s.transfers.find? e.transferID = none then
    .error "insert or update on table \"transfer_events\" violates foreign key constraint"
  else
    match h : s.events.insert? e with
    | some events => .ok
      { s with
        events
        fk := fun e' he' => by
          rw [(Table.insert?_eq_some h).2, List.mem_append, List.mem_singleton] at he'
          rcases he' with hold | rfl
          · exact s.fk e' hold
          · exact hrow }
    | none => .error "duplicate key value violates unique constraint \"transfer_events_pkey\""

theorem timeline_of_row_none {s : Store} {id : UUID} (h : s.row id = none) :
    s.timeline id = [] := by
  rw [timeline, List.filter_eq_nil_iff]
  intro e he heq
  have hid : e.transferID = id := by simpa using heq
  exact s.fk e he (hid ▸ h)

theorem updateTransfer_eq_ok (s : Store) (id : UUID) (set : Transfer → Transfer)
    (hset : ∀ t, (set t).id = t.id) :
    ∃ s', s.updateTransfer id set hset = .ok s' ∧ s'.events = s.events ∧
      ∀ id', s'.row id' = if id' = id then (s.row id').map set else s.row id' :=
  ⟨_, rfl, rfl, fun id' => Table.find?_modify s.transfers id set hset id'⟩

theorem events_of_updateTransfer {s s' : Store} {id : UUID} {set : Transfer → Transfer}
    {hset : ∀ t, (set t).id = t.id} (h : s.updateTransfer id set hset = .ok s') :
    s'.events = s.events := by
  cases h
  rfl

theorem insertTransfer_eq_ok {s s' : Store} {t : Transfer} (h : s.insertTransfer t = .ok s') :
    s.row t.id = none ∧ s'.events = s.events ∧
      ∀ id, s'.row id = if t.id = id then some t else s.row id := by
  unfold insertTransfer at h
  split at h
  · rename_i transfers hins
    cases h
    exact ⟨(Table.insert?_eq_some hins).1, rfl, Table.find?_insert? hins⟩
  · cases h

theorem insertTransfer_eq_error {s : Store} {t : Transfer} {err : Err}
    (h : s.insertTransfer t = .error err) : s.row t.id ≠ none := by
  unfold insertTransfer at h
  split at h
  · cases h
  · rename_i hins
    intro hnone
    obtain ⟨t', ht'⟩ := Table.insert?_isSome hnone
    rw [hins] at ht'
    cases ht'

theorem insertEvent_eq_ok {s s' : Store} {e : TransferEvent} (h : s.insertEvent e = .ok s') :
    s'.transfers = s.transfers ∧ s'.events.rows = s.events.rows ++ [e] := by
  unfold insertEvent at h
  split at h
  · cases h
  · split at h
    · rename_i hins
      cases h
      exact ⟨rfl, (Table.insert?_eq_some hins).2⟩
    · cases h

/-- It is appended to the timeline of its transfer. -/
theorem timeline_of_insertEvent {s s' : Store} {e : TransferEvent} (h : s.insertEvent e = .ok s')
    (id : UUID) : s'.timeline id = s.timeline id ++ if e.transferID = id then [e] else [] := by
  rw [timeline, (insertEvent_eq_ok h).2, List.filter_append, timeline]
  congr 1
  by_cases hid : e.transferID = id
  · rw [if_pos hid]
    exact List.filter_cons_of_pos (decide_eq_true hid)
  · rw [if_neg hid]
    exact List.filter_cons_of_neg (by simpa using hid)

theorem row_of_insertEvent {s s' : Store} {e : TransferEvent} (h : s.insertEvent e = .ok s') :
    s.row e.transferID ≠ none := by
  unfold insertEvent at h
  split at h
  · cases h
  · assumption

theorem fresh_of_insertEvent {s s' : Store} {e : TransferEvent} (h : s.insertEvent e = .ok s') :
    s.events.find? e.id = none := by
  unfold insertEvent at h
  split at h
  · cases h
  · split at h
    · rename_i hins
      exact (Table.insert?_eq_some hins).1
    · cases h

theorem insertEvent_isOk {s : Store} {e : TransferEvent} (hrow : s.row e.transferID ≠ none)
    (hfresh : s.events.find? e.id = none) : ∃ s', s.insertEvent e = .ok s' := by
  obtain ⟨events, hevents⟩ := Table.insert?_isSome hfresh
  have hstored : ¬ s.transfers.find? e.transferID = none := hrow
  unfold insertEvent
  rw [dif_neg hstored]
  split
  · exact ⟨_, rfl⟩
  · rename_i hnone
    rw [hevents] at hnone
    cases hnone

end Store

/-- The repository. -/
def execRepo (env : Env) : (call : RepoCall) → Store → call.Ans × Store
  | .createTransfer t, s => env.write s (·.insertTransfer t)
  | .getTransferByID id, s => (env.answer (s.row id), s)
  | .updateTransferState id state, s =>
      env.write s (·.updateTransfer id fun t => { t with state })
  | .updateTransferStrategy id strategy, s =>
      env.write s (·.updateTransfer id fun t => { t with strategy })
  | .updateTransferProgress id bytesTransferred bytesTotal chunksCompleted chunksTotal, s =>
      env.write s (·.updateTransfer id fun t =>
        { t with bytesTransferred, bytesTotal, chunksCompleted, chunksTotal })
  | .updateTransferStarted id, s =>
      env.write s (·.updateTransfer id fun t => { t with startedAt := some env.now })
  | .updateTransferCompleted id, s =>
      env.write s (·.updateTransfer id fun t => { t with completedAt := some env.now })
  | .updateTransferFailed id errorMessage, s =>
      env.write s (·.updateTransfer id fun t =>
        { t with state := .failed, errorMessage, completedAt := some env.now })
  | .incrementRetryCount id, s =>
      env.write s (·.updateTransfer id fun t => { t with retryCount := t.retryCount + 1 })
  | .createTransferEvent e, s => env.write s (·.insertEvent e)

/-- The engine's machine: the repository keeps the store, every other interface
    answers as the environment chooses. -/
def exec : Machine Call Call.Ans Store Env
  | env, .newUUID, s => (env.uuid, s)
  | env, .timeNow, s => (env.now, s)
  | env, .randFloat64, s => (env.rand, s)
  | env, .repo call, s => execRepo env call s
  | env, .findHealthyPVC _ _, s => (env.answer env.flag, s)
  | env, .isPVCEmpty _ _, s => (env.answer env.flag, s)
  | env, .sendTransferCommand _ _, s => (env.answer (), s)
  | env, .sendCancelCommand _ _, s => (env.answer (), s)
  | env, .revokeCredentials _, s => (env.answer (), s)
  | env, .deleteTransferObjects _, s => (env.answer (), s)
  | _, .publish _ _, s => ((), s)
  | _, .closeTransfer _, s => ((), s)
  | _, .onTransferStateChange _ _ _, s => ((), s)
  -- a Prometheus counter panics when it is to decrease
  | _, .onProgressReport bytesTransferred _, s =>
      (if bytesTransferred < 0 then .panics else .done (), s)
  | _, .onTransferError _, s => ((), s)

/-! ## What one call does to one row -/

/-- The row of `id` after a call, from the row before it. -/
def RepoCall.onRow (env : Env) (id : UUID) (r : Option Transfer) : RepoCall → Option Transfer
  | .createTransfer t => if t.id = id ∧ r = none then some t else r
  | .updateTransferState id' state => if id = id' then r.map ({ · with state }) else r
  | .updateTransferStrategy id' strategy => if id = id' then r.map ({ · with strategy }) else r
  | .updateTransferProgress id' bytesTransferred bytesTotal chunksCompleted chunksTotal =>
      if id = id' then
        r.map ({ · with bytesTransferred, bytesTotal, chunksCompleted, chunksTotal })
      else r
  | .updateTransferStarted id' => if id = id' then r.map ({ · with startedAt := some env.now }) else r
  | .updateTransferCompleted id' =>
      if id = id' then r.map ({ · with completedAt := some env.now }) else r
  | .updateTransferFailed id' errorMessage =>
      if id = id' then
        r.map ({ · with state := .failed, errorMessage, completedAt := some env.now })
      else r
  | .incrementRetryCount id' =>
      if id = id' then r.map (fun t => { t with retryCount := t.retryCount + 1 }) else r
  | .getTransferByID _ | .createTransferEvent _ => r

theorem Env.write_updateTransfer (env : Env) (s : Store) (id : UUID) (set : Transfer → Transfer)
    (hset : ∀ t, (set t).id = t.id) (id' : UUID) :
    (env.write s (·.updateTransfer id set hset)).2.row id' =
      if env.fail = none then if id' = id then (s.row id').map set else s.row id'
      else s.row id' := by
  cases hfail : env.fail with
  | some err => simp [Env.write_of_fail hfail]
  | none =>
    obtain ⟨s', hs', -, hrow⟩ := s.updateTransfer_eq_ok id set hset
    rw [Env.write_of_ok hfail (Store.updateTransfer · id set hset) hs', hrow, if_pos rfl]

theorem Env.write_insertTransfer (env : Env) (s : Store) (t : Transfer) (id : UUID) :
    (env.write s (·.insertTransfer t)).2.row id =
      if env.fail = none then if t.id = id ∧ s.row id = none then some t else s.row id
      else s.row id := by
  cases hfail : env.fail with
  | some err => simp [Env.write_of_fail hfail]
  | none =>
    cases hins : s.insertTransfer t with
    | ok s' =>
      obtain ⟨hfresh, -, hrow⟩ := Store.insertTransfer_eq_ok hins
      rw [Env.write_of_ok hfail (Store.insertTransfer · t) hins, hrow]
      by_cases hid : t.id = id
      · subst hid
        simp [hfresh]
      · simp [hid]
    | error err =>
      have htaken := Store.insertTransfer_eq_error hins
      rw [Env.write_of_refused hfail (Store.insertTransfer · t) hins]
      by_cases hid : t.id = id
      · subst hid
        simp [htaken]
      · simp [hid]

theorem Env.write_insertEvent_row (env : Env) (s : Store) (e : TransferEvent) (id : UUID) :
    (env.write s (·.insertEvent e)).2.row id = s.row id := by
  cases hfail : env.fail with
  | some err => rw [Env.write_of_fail hfail]
  | none =>
    cases hins : s.insertEvent e with
    | error err => rw [Env.write_of_refused hfail (Store.insertEvent · e) hins]
    | ok s' =>
      rw [Env.write_of_ok hfail (Store.insertEvent · e) hins, Store.row, (Store.insertEvent_eq_ok hins).1, Store.row]

/-- What any call does to any row. -/
theorem row_execRepo (env : Env) (call : RepoCall) (s : Store) (id : UUID) :
    (execRepo env call s).2.row id =
      if env.fail = none then call.onRow env id (s.row id) else s.row id := by
  cases call with
  | createTransfer t => exact env.write_insertTransfer s t id
  | getTransferByID id' => simp [execRepo, RepoCall.onRow]
  | createTransferEvent e =>
    rw [execRepo, env.write_insertEvent_row]
    simp [RepoCall.onRow]
  | _ => exact env.write_updateTransfer s _ _ _ id

/-- What is fixed when a row is inserted. -/
def Transfer.origin (t : Transfer) : String × String × String × String × Bool × String :=
  (t.sourceCluster, t.sourcePVC, t.destinationCluster, t.destinationPVC, t.allowOverwrite,
    t.createdBy)

theorem row_execRepo_of_some {s : Store} {id : UUID} {t : Transfer} (h : s.row id = some t)
    (env : Env) (call : RepoCall) :
    ∃ t', (execRepo env call s).2.row id = some t' ∧ t'.origin = t.origin := by
  rw [row_execRepo, h]
  cases hfail : env.fail with
  | some err => exact ⟨t, rfl, rfl⟩
  | none =>
    rw [if_pos rfl]
    cases call with
    | createTransfer t' => exact ⟨t, by simp [RepoCall.onRow], rfl⟩
    | getTransferByID id' => exact ⟨t, rfl, rfl⟩
    | createTransferEvent e => exact ⟨t, rfl, rfl⟩
    | _ =>
      simp only [RepoCall.onRow]
      split
      · exact ⟨_, rfl, rfl⟩
      · exact ⟨t, rfl, rfl⟩

/-- A row stays, and keeps what was fixed when it was inserted. -/
theorem row_exec_of_some {s : Store} {id : UUID} {t : Transfer} (h : s.row id = some t)
    (env : Env) (op : Call) :
    ∃ t', (exec env op s).2.row id = some t' ∧ t'.origin = t.origin := by
  cases op with
  | repo call => exact row_execRepo_of_some h env call
  | _ => exact ⟨t, h, rfl⟩

/-- What a call does to the table of events: nothing, or it inserts the event it was given. -/
theorem events_exec (env : Env) (op : Call) (s : Store) :
    (exec env op s).2.events.rows = s.events.rows ∨
    ∃ e, op = .repo (.createTransferEvent e) ∧
      (exec env op s).2.events.rows = s.events.rows ++ [e] := by
  have hother : ∀ statement : Store → Except Err Store,
      (∀ s', statement s = .ok s' → s'.events = s.events) →
      (env.write s statement).2.events.rows = s.events.rows := by
    intro statement hevents
    rcases env.write_cases s statement with ⟨err, hwrite⟩ | ⟨s', hs', hwrite⟩
    · rw [hwrite]
    · rw [hwrite, hevents s' hs']
  cases op with
  | repo call =>
    cases call with
    | createTransferEvent e =>
      simp only [exec, execRepo]
      rcases env.write_cases s (Store.insertEvent · e) with ⟨err, hwrite⟩ | ⟨s', hins, hwrite⟩
      · rw [hwrite]
        exact .inl rfl
      · rw [hwrite]
        exact .inr ⟨e, rfl, (Store.insertEvent_eq_ok hins).2⟩
    | createTransfer t => exact .inl (hother _ fun s' hins => (Store.insertTransfer_eq_ok hins).2.1)
    | getTransferByID id' => exact .inl rfl
    | _ => exact .inl (hother _ fun s' hs' => Store.events_of_updateTransfer hs')
  | _ => exact .inl rfl

/-- An accepted insertion. -/
theorem row_exec_of_insert {s : Store} {t : Transfer} {env : Env}
    (h : (exec env (.repo (.createTransfer t)) s).1 = .ok ()) :
    (exec env (.repo (.createTransfer t)) s).2.row t.id = some t := by
  simp only [exec, execRepo] at h ⊢
  rcases env.write_cases s (Store.insertTransfer · t) with ⟨err, hwrite⟩ | ⟨s', hins, hwrite⟩
  · rw [hwrite] at h
    cases h
  · rw [hwrite, (Store.insertTransfer_eq_ok hins).2.2, if_pos rfl]

end Katapult
