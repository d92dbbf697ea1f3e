/-
  Katapult.Testutil.Refinement

  The in-memory repository of transfers against the real one.

  Both are given the same calls, from an empty store on, and read the same clock.
  What one call must meet for the two to agree on it (`Met`) is found call by
  call (`alike_iff`); a sequence of calls then finds them alike exactly when
  every call meets it (`allAlike_iff`).
-/

import Katapult.Store.Records
import Katapult.Testutil.MemRepos

namespace Katapult

open Keyed Paging

/-! ## The real repository -/

/-- How ties fall in the lists of the two repositories. -/
structure TieChoice where
  inMemory : Arrangement RawTransfer.newestFirst
  transfers : Arrangement newestFirst
  events : Arrangement oldestFirst

def violatesCheck : Err := "violates check constraint \"transfers_state_check\""

namespace Store

/-- `CreateTransfer`: the constraint takes the six states and no others. -/
def createRaw (now : Time) (t : RawTransfer) (s : Store) : Except Err Unit × Store :=
  match TransferState.ofText t.state with
  | .ok state => execColumns now (.createTransfer (t.withState state)) s
  | .error _ => (.error violatesCheck, s)

/-- `UpdateTransferState`: the constraint is checked of the row that is changed. -/
def updateRaw (now : Time) (id : UUID) (state : String) (s : Store) : Except Err Unit × Store :=
  match TransferState.ofText state with
  | .ok state => execColumns now (.updateTransferState id state) s
  | .error _ => refuseUnless (storableText state && (s.row id).isNone) s (.ok (), s)

/-- The methods; `now` is what `time.Now` returns. -/
def perform (now : Time) (choice : TieChoice) (s : Store) :
    (call : TransferRepositoryCall) → call.Ans × Store
  | .createTransfer t => s.createRaw now t
  | .getTransferByID id => (.ok ((s.row id).map Transfer.raw), s)
  | .updateTransferState id state => s.updateRaw now id state
  | .updateTransferStrategy id strategy => execColumns now (.updateTransferStrategy id strategy) s
  | .updateTransferProgress id bytesTransferred bytesTotal chunksCompleted chunksTotal =>
      execColumns now
        (.updateTransferProgress id bytesTransferred bytesTotal chunksCompleted chunksTotal) s
  | .updateTransferStarted id => execColumns now (.updateTransferStarted id) s
  | .updateTransferCompleted id => execColumns now (.updateTransferCompleted id) s
  | .updateTransferFailed id errorMessage => execColumns now (.updateTransferFailed id errorMessage) s
  | .incrementRetryCount id => execColumns now (.incrementRetryCount id) s
  | .createTransferEvent e => execColumns now (.createTransferEvent e) s
  | .getTransferEvents transferID => (.ok (s.getTransferEvents choice.events transferID), s)
  | .listTransfers filter =>
      ((s.listColumns choice.transfers filter).map fun page => (page.1.map Transfer.raw, page.2), s)

end Store

/-! ## Agreement -/

/-- A transfer with its times in whole microseconds. -/
def RawTransfer.truncated (t : RawTransfer) : RawTransfer :=
  { t with
    createdAt := truncatedTime t.createdAt
    startedAt := t.startedAt.map truncatedTime
    completedAt := t.completedAt.map truncatedTime }

/-- An event with its time in whole microseconds. -/
def TransferEvent.inMicroseconds (e : TransferEvent) : TransferEvent :=
  { e with createdAt := truncatedTime e.createdAt }

/-- Both have failed, or both have the same result. -/
def SameResult {α : Type} (a b : Except Err α) : Prop := a.toOption = b.toOption

@[simp] theorem sameResult_ok {α : Type} {a b : α} :
    SameResult (.ok a : Except Err α) (.ok b) ↔ a = b := Option.some_inj

@[simp] theorem sameResult_error {α : Type} (err err' : Err) :
    SameResult (.error err : Except Err α) (.error err') := rfl

@[simp] theorem not_sameResult_ok_error {α : Type} (a : α) (err : Err) :
    ¬ SameResult (.ok a) (.error err) := nofun

@[simp] theorem not_sameResult_error_ok {α : Type} (a : α) (err : Err) :
    ¬ SameResult (.error err) (.ok a) := nofun

/-- The answer of the in-memory repository is that of the real one, up to the
    truncation of times. -/
def TransferRepositoryCall.SameAnswer : (call : TransferRepositoryCall) → call.Ans → call.Ans → Prop
  | .getTransferByID _, a, b => SameResult (a.map (Option.map RawTransfer.truncated)) b
  | .getTransferEvents _, a, b => SameResult (a.map (List.map TransferEvent.inMicroseconds)) b
  | .listTransfers _, a, b =>
      SameResult (a.map fun page => (page.1.map RawTransfer.truncated, page.2)) b
  | .createTransfer _, a, b | .updateTransferState .., a, b | .updateTransferStrategy .., a, b
  | .updateTransferProgress .., a, b | .updateTransferStarted _, a, b
  | .updateTransferCompleted _, a, b | .updateTransferFailed .., a, b | .incrementRetryCount _, a, b
  | .createTransferEvent _, a, b => SameResult a b

/-- The two hold the same transfers, and the same events in the same order. -/
structure Agree (m : MemTransferRepo) (s : Store) : Prop where
  rows : ∀ id, (m.transfers.find? id).map RawTransfer.truncated = (s.row id).map Transfer.raw
  events : ∀ id, (m.events id).map TransferEvent.inMicroseconds = s.timeline id

/-- What a call must meet, for the two to find the same result and to go on agreeing:
    the constraints of the tables, the ranges of the columns, and queries whose
    answer does not depend on the choice of the server. -/
def Met (s : Store) : TransferRepositoryCall → Prop
  | .createTransfer t =>
      s.row t.id = none ∧ ∃ state, state.text = t.state ∧ (t.withState state).storable = true
  | .getTransferByID _ => True
  | .updateTransferState id state =>
      (s.row id ≠ none → ∃ known : TransferState, known.text = state) ∧
        (s.row id = none → storableText state = false)
  | .updateTransferStrategy id strategy => s.row id ≠ none ↔ storableText strategy.text = true
  | .updateTransferProgress id _ _ chunksCompleted chunksTotal =>
      s.row id ≠ none ↔ (storableInt chunksCompleted && storableInt chunksTotal) = true
  | .updateTransferStarted id | .updateTransferCompleted id => s.row id ≠ none
  | .updateTransferFailed id errorMessage => s.row id ≠ none ↔ storableText errorMessage = true
  | .incrementRetryCount id => ∃ t, s.row id = some t ∧ storableInt (t.retryCount + 1) = true
  | .createTransferEvent e =>
      s.row e.transferID ≠ none ∧ s.events.find? e.id = none ∧ e.storable = true ∧
        e.metadata.isSome = true
  | .getTransferEvents transferID =>
      (s.timeline transferID).Pairwise fun a b => a.createdAt < b.createdAt
  | .listTransfers filter => filter.storable = true ∧ Within (s.matching filter) filter.offset ∧
      ¬ Unsettled newestFirst (s.matching filter) (queryLimit filter.limit) (queryOffset filter.offset)

/-! ## Raw transfers -/

theorem Transfer.raw_injective : Function.Injective Transfer.raw := by
  intro t t' h
  have hstate : t.state.text = t'.state.text := congrArg RawTransfer.state h
  have hsame : t.state = t'.state := by
    have hok := congrArg TransferState.ofText hstate
    rw [ofText_text, ofText_text] at hok
    exact Except.ok.inj hok
  calc t = t.raw.withState t.state := rfl
    _ = t'.raw.withState t'.state := by rw [h, hsame]
    _ = t' := rfl

/-- The row that a raw transfer is stored in, if its state is one of the six. -/
def RawTransfer.stored (t : RawTransfer) : Transfer :=
  t.truncated.withState ((TransferState.ofText t.state).toOption.getD .pending)

theorem RawTransfer.id_stored (t : RawTransfer) : t.stored.id = t.id := rfl

theorem RawTransfer.stored_of_truncated {r : RawTransfer} {t : Transfer} (h : r.truncated = t.raw) :
    r.stored = t := by
  have hstate : r.state = t.state.text := congrArg RawTransfer.state h
  rw [stored, h, hstate, ofText_text]
  rfl

section

variable {m : MemTransferRepo} {s : Store}

/-- A row of the one is a row of the other. -/
theorem Agree.find?_of_row (hagree : Agree m s) {id : UUID} {t : Transfer} (h : s.row id = some t) :
    ∃ r, m.transfers.find? id = some r ∧ r.truncated = t.raw := by
  have hrows := hagree.rows id
  rw [h, Option.map_some] at hrows
  exact Option.map_eq_some_iff.mp hrows

theorem Agree.find?_eq_none (hagree : Agree m s) {id : UUID} (h : s.row id = none) :
    m.transfers.find? id = none := by
  have hrows := hagree.rows id
  rwa [h, Option.map_none, Option.map_eq_none_iff] at hrows

theorem Agree.init [UUIDText] : Agree MemTransferRepo.newMemTransferRepo .empty :=
  ⟨fun _ => rfl, fun _ => rfl⟩

/-- What is stored under another identifier is not touched. -/
theorem Agree.of_put (hagree : Agree m s) {s' : Store} {r : RawTransfer} {t : Transfer}
    (hrow : ∀ id, s'.row id = if r.id = id then some t else s.row id) (hevents : s'.events = s.events)
    (h : r.truncated = t.raw) : Agree { m with transfers := m.transfers.put r } s' where
  rows id := by
    rw [Table.find?_put, hrow]
    split
    · rw [Option.map_some, h, Option.map_some]
    · exact hagree.rows id
  events id := by
    rw [Store.timeline, hevents]
    exact hagree.events id

end

/-! ## One call -/

section

variable [UUIDText] {m : MemTransferRepo} {s : Store}

/-- A method that changes a transfer, and the statement for it: `change` is what
    both do to the fields. -/
theorem alike_update_iff (hagree : Agree m s) (now : Time) (id : UUID)
    {set : RawTransfer → RawTransfer} {set' : Transfer → Transfer} (change : RawTransfer → RawTransfer)
    (hset : ∀ t, (set t).id = t.id) (hset' : ∀ t, (set' t).id = t.id)
    (hmem : ∀ r, (set r).truncated = change r.truncated) (hrow : ∀ t, (set' t).raw = change t.raw)
    (storable : Bool) :
    SameResult (m.update id set).1
        (refuseUnless storable s ((columnEnv now).write s (·.updateTransfer id set' hset'))).1 ∧
      Agree (m.update id set).2
        (refuseUnless storable s ((columnEnv now).write s (·.updateTransfer id set' hset'))).2 ↔
    (s.row id ≠ none ↔ storable = true) := by
  obtain ⟨s', hs', hevents, hrows⟩ := s.updateTransfer_eq_ok id set' hset'
  have hwrite : (columnEnv now).write s (·.updateTransfer id set' hset') = (.ok (), s') :=
    Env.write_of_ok rfl (Store.updateTransfer · id set' hset') hs'
  rw [hwrite]
  cases hstored : s.row id with
  | none =>
    -- the method fails, and the statement too if it is refused before it looks for the row
    rw [MemTransferRepo.update_of_none (hagree.find?_eq_none hstored)]
    cases storable with
    | false =>
      rw [refuseUnless_false]
      exact iff_of_true ⟨sameResult_error _ _, hagree⟩ (by simp)
    | true => simp
  | some t =>
    obtain ⟨r, hfind, hr⟩ := hagree.find?_of_row hstored
    have hid : (set r).id = id := (hset r).trans (Table.find?_eq_some.mp hfind).2
    rw [MemTransferRepo.update_of_some hfind]
    cases storable with
    | false => simp
    | true =>
      have hafter : Agree { m with transfers := m.transfers.put (set r) } s' := by
        refine hagree.of_put (t := set' t) (fun id' => ?_) hevents ?_
        · rw [hrows, hid]
          by_cases hsame : id = id'
          · rw [if_pos hsame, if_pos hsame.symm, ← hsame, hstored, Option.map_some]
          · rw [if_neg hsame, if_neg (Ne.symm hsame)]
        · rw [hmem, hr, hrow]
      simpa using hafter

theorem alike_updateTransferState_iff (hagree : Agree m s) (now : Time) (id : UUID) (state : String) :
    SameResult (m.update id fun t => { t with state }).1 (s.updateRaw now id state).1 ∧
      Agree (m.update id fun t => { t with state }).2 (s.updateRaw now id state).2 ↔
    Met s (.updateTransferState id state) := by
  cases hof : TransferState.ofText state with
  | ok known =>
    obtain rfl : known.text = state := text_of_ofText hof
    have hrun : s.updateRaw now id known.text = execColumns now (.updateTransferState id known) s := by
      unfold Store.updateRaw
      rw [hof]
    have hstorable : storableText known.text = true := by cases known <;> decide
    rw [hrun]
    refine (alike_update_iff hagree now id (fun t => { t with state := known.text })
      (by intro t; rfl) _ (by intro r; rfl) (by intro t; rfl) true).trans ?_
    simp [Met, hstorable]
  | error err =>
    -- the constraint refuses the text if there is a row, and the method takes it
    have hrun : s.updateRaw now id state =
        refuseUnless (storableText state && (s.row id).isNone) s (.ok (), s) := by
      unfold Store.updateRaw
      rw [hof]
    have hunknown : ¬ ∃ known : TransferState, known.text = state := by
      rintro ⟨known, rfl⟩
      rw [ofText_text] at hof
      cases hof
    rw [hrun]
    cases hstored : s.row id with
    | none =>
      rw [MemTransferRepo.update_of_none (hagree.find?_eq_none hstored)]
      cases hstorable : storableText state with
      | false => simp [Met, hstored, hstorable, hagree]
      | true => simp [Met, hstored, hstorable]
    | some t =>
      obtain ⟨r, hfind, -⟩ := hagree.find?_of_row hstored
      rw [MemTransferRepo.update_of_some hfind]
      simp [Met, hstored, hunknown]

omit [UUIDText] in
theorem alike_createTransfer_iff (hagree : Agree m s) (now : Time) (t : RawTransfer) :
    SameResult (.ok ()) (s.createRaw now t).1 ∧
      Agree { m with transfers := m.transfers.put t } (s.createRaw now t).2 ↔
    Met s (.createTransfer t) := by
  cases hof : TransferState.ofText t.state with
  | error err =>
    have hrun : s.createRaw now t = (.error violatesCheck, s) := by
      unfold Store.createRaw
      rw [hof]
    rw [hrun]
    refine iff_of_false (fun halike => not_sameResult_ok_error () _ halike.1) ?_
    rintro ⟨-, known, hknown, -⟩
    rw [← hknown, ofText_text] at hof
    cases hof
  | ok state =>
    have hstate : state.text = t.state := text_of_ofText hof
    have hrun : s.createRaw now t = refuseUnless (t.withState state).storable s
        ((columnEnv now).write s (·.insertTransfer (t.withState state).truncated)) := by
      unfold Store.createRaw
      rw [hof]
      rfl
    have hmet : Met s (.createTransfer t) ↔ s.row t.id = none ∧ (t.withState state).storable = true :=
      and_congr_right fun _ => ⟨fun ⟨_, _, h⟩ => h, fun h => ⟨state, hstate, h⟩⟩
    rw [hrun, hmet]
    cases hstorable : (t.withState state).storable with
    | false => simp
    | true =>
      cases hins : s.insertTransfer (t.withState state).truncated with
      | error err =>
        -- the table refuses a second row of one id, which the map replaces
        have hwrite : (columnEnv now).write s (·.insertTransfer (t.withState state).truncated) =
            (.error err, s) := Env.write_of_refused rfl (Store.insertTransfer · _) hins
        have htaken : s.row (t.withState state).truncated.id ≠ none := Store.insertTransfer_eq_error hins
        have htaken' : s.row t.id ≠ none := htaken
        rw [hwrite]
        simp [htaken']
      | ok s' =>
        obtain ⟨hfresh, hevents, hrow⟩ := Store.insertTransfer_eq_ok hins
        have hwrite : (columnEnv now).write s (·.insertTransfer (t.withState state).truncated) =
            (.ok (), s') := Env.write_of_ok rfl (Store.insertTransfer · _) hins
        have hnew : s.row t.id = none := hfresh
        have hraw : t.truncated = (t.withState state).truncated.raw := by
          cases t
          cases hstate
          rfl
        have hafter : Agree { m with transfers := m.transfers.put t } s' :=
          hagree.of_put hrow hevents hraw
        rw [hwrite]
        simpa [hnew] using hafter

omit [UUIDText] in
/-- The column holds the event as it is, but for a nil map. -/
theorem truncated_eq_inMicroseconds_iff (e : TransferEvent) :
    e.truncated = e.inMicroseconds ↔ e.metadata.isSome = true := by
  obtain ⟨id, transferID, eventType, message, metadata, createdAt⟩ := e
  cases metadata with
  | none => simp [TransferEvent.truncated, TransferEvent.inMicroseconds]
  | some entries => simp [TransferEvent.truncated, TransferEvent.inMicroseconds]

omit [UUIDText] in
/-- An event at the end of its list in memory, and in the table: the two go on
    agreeing if they hold the same event. -/
theorem agree_append_iff (hagree : Agree m s) {s' : Store} {e stored : TransferEvent}
    (htransfers : s'.transfers = s.transfers)
    (htimeline : ∀ id, s'.timeline id = s.timeline id ++ if e.transferID = id then [stored] else []) :
    Agree { m with events := Function.update m.events e.transferID (m.events e.transferID ++ [e]) } s' ↔
      stored = e.inMicroseconds := by
  constructor
  · intro hafter
    have hid : (Function.update m.events e.transferID (m.events e.transferID ++ [e])
        e.transferID).map TransferEvent.inMicroseconds = s'.timeline e.transferID :=
      hafter.events e.transferID
    rw [Function.update_self, htimeline, if_pos rfl, List.map_append, hagree.events] at hid
    exact (List.singleton_inj.mp (List.append_cancel_left hid)).symm
  · intro hsame
    refine ⟨fun id => ?_, fun id => ?_⟩
    · rw [hagree.rows id, Store.row, Store.row, htransfers]
    · show (Function.update m.events e.transferID (m.events e.transferID ++ [e]) id).map
        TransferEvent.inMicroseconds = _
      rw [htimeline, hsame]
      -- no other transfer has a new event
      by_cases hid : e.transferID = id
      · subst hid
        rw [Function.update_self, if_pos rfl, List.map_append, hagree.events]
        rfl
      · rw [Function.update_of_ne (Ne.symm hid), if_neg hid, List.append_nil, hagree.events]

omit [UUIDText] in
theorem alike_createTransferEvent_iff (hagree : Agree m s) (now : Time) (e : TransferEvent) :
    SameResult (.ok ()) (execColumns now (.createTransferEvent e) s).1 ∧
      Agree { m with events := Function.update m.events e.transferID (m.events e.transferID ++ [e]) }
        (execColumns now (.createTransferEvent e) s).2 ↔
    Met s (.createTransferEvent e) := by
  show SameResult (.ok ()) (refuseUnless e.storable s
      ((columnEnv now).write s (·.insertEvent e.truncated))).1 ∧
    Agree { m with events := Function.update m.events e.transferID (m.events e.transferID ++ [e]) }
      (refuseUnless e.storable s ((columnEnv now).write s (·.insertEvent e.truncated))).2 ↔
    s.row e.transferID ≠ none ∧ s.events.find? e.id = none ∧ e.storable = true ∧
      e.metadata.isSome = true
  cases hstorable : e.storable with
  | false => simp
  | true =>
    cases hins : s.insertEvent e.truncated with
    | error err =>
      have hwrite : (columnEnv now).write s (·.insertEvent e.truncated) = (.error err, s) :=
        Env.write_of_refused rfl (Store.insertEvent · e.truncated) hins
      rw [hwrite]
      refine iff_of_false (fun halike => not_sameResult_ok_error () err halike.1) ?_
      rintro ⟨hrow, hfresh, -⟩
      obtain ⟨s', hs'⟩ := @Store.insertEvent_isOk s e.truncated hrow hfresh
      rw [hins] at hs'
      cases hs'
    | ok s' =>
      have hwrite : (columnEnv now).write s (·.insertEvent e.truncated) = (.ok (), s') :=
        Env.write_of_ok rfl (Store.insertEvent · e.truncated) hins
      have hrow' : s.row e.truncated.transferID ≠ none := Store.row_of_insertEvent hins
      have hfresh' : s.events.find? e.truncated.id = none := Store.fresh_of_insertEvent hins
      have hrow : s.row e.transferID ≠ none := hrow'
      have hfresh : s.events.find? e.id = none := hfresh'
      -- what is left of the condition is that the map is not nil
      have htimeline : ∀ id, s'.timeline id =
          s.timeline id ++ if e.transferID = id then [e.truncated] else [] :=
        Store.timeline_of_insertEvent hins
      have hafter := (agree_append_iff hagree (Store.insertEvent_eq_ok hins).1 htimeline).trans
        (truncated_eq_inMicroseconds_iff e)
      rw [hwrite]
      simpa [hrow, hfresh] using hafter

/-! ### The queries -/

omit [UUIDText] in
/-- The events come in the order of their insertion, whatever the choice, exactly
    if they were inserted in the strict order of their times. -/
theorem alike_getTransferEvents_iff (hagree : Agree m s) (transferID : UUID) :
    (∀ order : Arrangement oldestFirst,
      (m.events transferID).map TransferEvent.inMicroseconds = s.getTransferEvents order transferID) ↔
    Met s (.getTransferEvents transferID) := by
  have hnodup : (s.timeline transferID).Nodup := (s.events.nodup.of_map _).filter _
  have hiff := arrange_eq_iff preordering_oldestFirst hnodup
  have hstrict : ∀ a b : TransferEvent, ¬ oldestFirst b a ↔ a.createdAt < b.createdAt :=
    fun a b => not_le
  simp only [hstrict] at hiff
  rw [Met, ← hiff]
  refine forall_congr' fun order => ?_
  rw [hagree.events, Store.getTransferEvents, eq_comm]

omit [UUIDText] in
theorem truncatedTime_mono {t t' : Time} (h : t ≤ t') : truncatedTime t ≤ truncatedTime t' := by
  have hdiv : t / 1000 ≤ t' / 1000 := Int.ediv_le_ediv (by decide) h
  exact Int.mul_le_mul_of_nonneg_right hdiv (by decide)

omit [UUIDText] in
/-- Two that agree find the same transfers. -/
theorem Agree.matching (hagree : Agree m s) (filter : TransferFilter) :
    ((m.matching filter).map RawTransfer.stored).Perm (s.matching filter) ∧
      ∀ r ∈ m.matching filter, r.stored.raw = r.truncated := by
  -- a row of the in-memory table is one of the real table
  have hstored : ∀ r ∈ m.transfers.rows, ∃ t, s.row r.id = some t ∧ r.truncated = t.raw := by
    intro r hr
    have hrows := hagree.rows r.id
    rw [Table.find?_of_mem hr, Option.map_some] at hrows
    obtain ⟨t, ht, hraw⟩ := Option.map_eq_some_iff.mp hrows.symm
    exact ⟨t, ht, hraw.symm⟩
  let rows : Table UUID Transfer Transfer.id := m.transfers.map RawTransfer.stored RawTransfer.id_stored
  have hfind : ∀ id, rows.find? id = s.transfers.find? id := by
    intro id
    rw [show rows.find? id = (m.transfers.find? id).map RawTransfer.stored from Table.find?_map _ _]
    cases hrow : s.row id with
    | none =>
      rw [hagree.find?_eq_none hrow]
      exact hrow.symm
    | some t =>
      obtain ⟨r, hr, hraw⟩ := hagree.find?_of_row hrow
      rw [hr, Option.map_some, RawTransfer.stored_of_truncated hraw]
      exact hrow.symm
  have hperm : (m.transfers.rows.map RawTransfer.stored).Perm s.transfers.rows :=
    Table.perm_of_find?_eq hfind
  refine ⟨?_, fun r hr => ?_⟩
  · have hadmits : m.transfers.rows.filter filter.admitsRaw =
        m.transfers.rows.filter (filter.admits ∘ RawTransfer.stored) := by
      refine List.filter_congr fun r hr => ?_
      obtain ⟨t, -, hraw⟩ := hstored r hr
      have hstate : r.state = t.state.text := congrArg RawTransfer.state hraw
      show filter.admitsRaw r = filter.admits r.stored
      unfold TransferFilter.admitsRaw TransferFilter.admits
      rw [hstate, show r.stored.state = t.state by rw [RawTransfer.stored_of_truncated hraw]]
      rfl
    rw [MemTransferRepo.matching, hadmits, ← List.filter_map]
    exact hperm.filter _
  · obtain ⟨t, -, hraw⟩ := hstored r (List.mem_of_mem_filter hr)
    rw [RawTransfer.stored_of_truncated hraw, hraw]

omit [UUIDText] in
/-- The page in memory is a page of the rows that are stored. -/
theorem truncated_listTransfers {filter : TransferFilter}
    (hraw : ∀ r ∈ m.matching filter, r.stored.raw = r.truncated)
    (order : Arrangement RawTransfer.newestFirst) :
    (m.listTransfers order filter).1.map RawTransfer.truncated =
      (window (queryLimit filter.limit) (queryOffset filter.offset)
        ((order.arrange (m.matching filter)).map RawTransfer.stored)).map Transfer.raw := by
  have hwindow : (m.listTransfers order filter).1 =
      window (queryLimit filter.limit) (queryOffset filter.offset)
        (order.arrange (m.matching filter)) := sliceWindow_eq _ _ _
  rw [hwindow, window, window, ← List.map_drop, ← List.map_take, List.map_map]
  refine List.map_congr_left fun r hr => ?_
  have hmem : r ∈ m.matching filter :=
    (order.perm _).mem_iff.mp (List.mem_of_mem_drop (List.mem_of_mem_take hr))
  exact (hraw r hmem).symm

omit [UUIDText] in
/-- The page of the one is that of the other, whatever the choice, exactly if no ties
    reach into it, and the total if it is not past the last row. -/
theorem alike_listTransfers_iff (hagree : Agree m s) (order : Arrangement RawTransfer.newestFirst)
    (filter : TransferFilter) :
    (∀ order' : Arrangement newestFirst,
      SameResult (.ok ((m.listTransfers order filter).1.map RawTransfer.truncated,
          (m.listTransfers order filter).2))
        ((s.listColumns order' filter).map fun page => (page.1.map Transfer.raw, page.2))) ↔
    Met s (.listTransfers filter) := by
  obtain ⟨hmatching, hraw⟩ := hagree.matching filter
  let l := (order.arrange (m.matching filter)).map RawTransfer.stored
  have hperm : l.Perm (s.matching filter) := ((order.perm _).map _).trans hmatching
  have hsorted : l.Pairwise newestFirst :=
    (order.sorted _).map _ fun a b hab => truncatedTime_mono hab
  have hnodup : (s.matching filter).Nodup := (s.transfers.nodup.of_map _).filter _
  have hpage := truncated_listTransfers hraw order
  have htotal : (m.listTransfers order filter).2 = (s.matching filter).length :=
    (List.length_map ..).symm.trans hperm.length_eq
  have hsettled := window_arrange_iff preordering_newestFirst hnodup hperm hsorted
    (queryLimit_pos filter.limit) (queryOffset filter.offset)
  cases hstorable : filter.storable with
  | false =>
    refine iff_of_false (fun hall => ?_) fun hmet => ?_
    · have hone := hall (.stable preordering_newestFirst)
      rw [Store.listColumns, hstorable] at hone
      exact not_sameResult_ok_error _ _ hone
    · rw [hmet.1] at hstorable
      cases hstorable
  | true =>
    -- for each choice of the server: the same window, and the same total
    have hone : ∀ order' : Arrangement newestFirst,
        SameResult (.ok ((m.listTransfers order filter).1.map RawTransfer.truncated,
            (m.listTransfers order filter).2))
          ((s.listColumns order' filter).map fun page => (page.1.map Transfer.raw, page.2)) ↔
        window (queryLimit filter.limit) (queryOffset filter.offset) l =
          window (queryLimit filter.limit) (queryOffset filter.offset)
            (order'.arrange (s.matching filter)) ∧
        Within (s.matching filter) filter.offset := by
      intro order'
      have hlist : (s.listTransfers order' filter).1 =
          window (queryLimit filter.limit) (queryOffset filter.offset)
            (order'.arrange (s.matching filter)) := by
        rw [Store.listTransfers, countedPage_eq]
      rw [Store.listColumns, if_pos hstorable, hpage, htotal, ← listTransfers_total_iff order' s filter,
        ← hlist]
      show SameResult (.ok _) (.ok _) ↔ _
      rw [sameResult_ok, Prod.ext_iff]
      exact and_congr (Transfer.raw_injective.list_map).eq_iff eq_comm
    have hstable : Nonempty (Arrangement newestFirst) := ⟨.stable preordering_newestFirst⟩
    rw [forall_congr' hone, forall_and, forall_const, hsettled, Met, hstorable]
    exact ⟨fun h => ⟨rfl, h.2, h.1⟩, fun h => ⟨h.2.2, h.2.1⟩⟩

instance : DecidableRel RawTransfer.newestFirst := fun a b =>
  inferInstanceAs (Decidable (b.createdAt ≤ a.createdAt))

omit [UUIDText] in
theorem preordering_rawNewestFirst : Preordering RawTransfer.newestFirst where
  total a b := le_total b.createdAt a.createdAt
  trans _ _ _ hab hbc := le_trans hbc hab

/-- There is a way for ties to fall: they stay in the order they are in. -/
instance : Nonempty TieChoice :=
  ⟨⟨.stable preordering_rawNewestFirst, .stable preordering_newestFirst,
    .stable preordering_oldestFirst⟩⟩

/-! ### Every method -/

/-- The answers to a call are the same, and what is held after it is. -/
def Alike (now : Time) (choice : TieChoice) (m : MemTransferRepo) (s : Store)
    (call : TransferRepositoryCall) : Prop :=
  call.SameAnswer (m.perform now choice.inMemory call).1 (s.perform now choice call).1 ∧
    Agree (m.perform now choice.inMemory call).2 (s.perform now choice call).2

/-- One call: the two find the same result, however ties fall, and go on agreeing,
    exactly if the call meets what it must. -/
theorem alike_iff (hagree : Agree m s) (now : Time) (call : TransferRepositoryCall) :
    (∀ choice, Alike now choice m s call) ↔ Met s call := by
  -- only the two lists depend on how ties fall
  have choice : TieChoice := Classical.arbitrary TieChoice
  cases call with
  | getTransferEvents transferID =>
    rw [← alike_getTransferEvents_iff hagree]
    constructor
    · intro halike order
      exact sameResult_ok.mp (halike { choice with events := order }).1
    · intro hsame choice
      exact ⟨sameResult_ok.mpr (hsame choice.events), hagree⟩
  | listTransfers filter =>
    rw [← alike_listTransfers_iff hagree choice.inMemory filter]
    constructor
    · intro halike order
      exact (halike { choice with transfers := order }).1
    · intro hsame choice'
      have hmet := (alike_listTransfers_iff hagree choice.inMemory filter).mp hsame
      exact ⟨(alike_listTransfers_iff hagree choice'.inMemory filter).mpr hmet choice'.transfers, hagree⟩
  | getTransferByID id =>
    refine iff_of_true (fun _ => ⟨?_, hagree⟩) trivial
    show SameResult (.ok ((m.transfers.find? id).map RawTransfer.truncated)) (.ok _)
    rw [sameResult_ok, hagree.rows]
  | createTransfer t => exact forall_const TieChoice |>.trans (alike_createTransfer_iff hagree now t)
  | createTransferEvent e =>
    exact forall_const TieChoice |>.trans (alike_createTransferEvent_iff hagree now e)
  | updateTransferState id state =>
    exact forall_const TieChoice |>.trans (alike_updateTransferState_iff hagree now id state)
  | updateTransferStrategy id strategy =>
    exact forall_const TieChoice |>.trans
      (alike_update_iff hagree now id (fun t => { t with strategy }) (by intro t; rfl) _
        (by intro r; rfl) (by intro t; rfl) _)
  | updateTransferProgress id bytesTransferred bytesTotal chunksCompleted chunksTotal =>
    exact forall_const TieChoice |>.trans
      (alike_update_iff hagree now id
        (fun t => { t with bytesTransferred, bytesTotal, chunksCompleted, chunksTotal })
        (by intro t; rfl) _ (by intro r; rfl) (by intro t; rfl) _)
  | updateTransferStarted id =>
    refine (forall_const TieChoice |>.trans
      (alike_update_iff hagree now id
        (fun t => { t with startedAt := some (truncatedTime now) }) (by intro t; rfl) _
        (by intro r; rfl) (by intro t; rfl) true)).trans ?_
    simp [Met]
  | updateTransferCompleted id =>
    refine (forall_const TieChoice |>.trans
      (alike_update_iff hagree now id
        (fun t => { t with completedAt := some (truncatedTime now) }) (by intro t; rfl) _
        (by intro r; rfl) (by intro t; rfl) true)).trans ?_
    simp [Met]
  | updateTransferFailed id errorMessage =>
    exact forall_const TieChoice |>.trans
      (alike_update_iff hagree now id
        (fun t =>
          { t with
            state := TransferState.failed.text, errorMessage
            completedAt := some (truncatedTime now) })
        (by intro t; rfl) _ (by intro r; rfl) (by intro t; rfl) _)
  | incrementRetryCount id =>
    have hmet : Met s (.incrementRetryCount id) ↔ (s.row id ≠ none ↔
        ((s.row id).all fun t => storableInt (t.retryCount + 1)) = true) := by
      cases hrow : s.row id with
      | none => simp [Met, hrow]
      | some t => simp [Met, hrow]
    rw [hmet]
    exact forall_const TieChoice |>.trans
      (alike_update_iff hagree now id (fun t => { t with retryCount := t.retryCount + 1 })
        (by intro t; rfl) _ (by intro r; rfl) (by intro t; rfl) _)

end

/-! ## Sequences of calls -/

/-- A call, and what the clock shows then. -/
abbrev TimedCall := Time × TransferRepositoryCall

/-- A sequence of calls, from two stores on: after each call the answers have been
    the same, and what is held is. -/
def AllAlike [UUIDText] : List TimedCall → MemTransferRepo → Store → Prop
  | [], m, s => Agree m s
  | (now, call) :: steps, m, s => ∀ choice : TieChoice, Alike now choice m s call ∧
      AllAlike steps (m.perform now choice.inMemory call).2 (s.perform now choice call).2

/-- Every call of a sequence meets what it must. -/
def AllMet : List TimedCall → Store → Prop
  | [], _ => True
  | (now, call) :: steps, s => Met s call ∧ ∀ choice, AllMet steps (s.perform now choice call).2

theorem allAlike_iff_of_agree [UUIDText] (steps : List TimedCall) {m : MemTransferRepo} {s : Store}
    (hagree : Agree m s) : AllAlike steps m s ↔ AllMet steps s := by
  induction steps generalizing m s with
  | nil => exact iff_of_true hagree trivial
  | cons step steps ih =>
    obtain ⟨now, call⟩ := step
    have hone := alike_iff hagree now call
    constructor
    · intro halike
      refine ⟨hone.mp fun choice => (halike choice).1, fun choice => ?_⟩
      obtain ⟨hsame, hrest⟩ := halike choice
      exact (ih hsame.2).mp hrest
    · rintro ⟨hmet, hsteps⟩ choice
      have hsame := hone.mpr hmet choice
      exact ⟨hsame, (ih hsame.2).mpr (hsteps choice)⟩

end Katapult
