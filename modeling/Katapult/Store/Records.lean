/-
  Katapult.Store.Records

  The columns refine the records.

  The engine runs on a table of records; `TransferTable` keeps rows of columns.
  A statement answers and does the same on both (`refines_exec`), so every run of
  statements leaves the same records (`refines_run`), and each of the two readers
  answers what its query answers on the records (`getTransferByID_records`,
  `listTransfers_records`).

  A state is one of the six that the `CHECK` of its column admits; any other text
  is refused and changes nothing.
-/

import Katapult.Store.RowCodec

namespace Katapult

open Keyed Paging

/-! ## Values that the columns refuse -/

theorem holds_iff_of_ne_null {c : TransferColumn} {v : SqlValue} (hnull : v ≠ .null) :
    c.holds v = true ↔ c.type.holds v = true ∧ c.checks v = true := by
  rw [TransferColumn.holds, if_neg hnull, Bool.and_eq_true]

theorem storableText_of_holds {c : TransferColumn} {s : String} (htype : c.type = .text)
    (hholds : c.holds (.text s) = true) : storableText s = true := by
  have hstorable := ((holds_iff_of_ne_null SqlValue.noConfusion).mp hholds).1
  rwa [htype] at hstorable

theorem storableText_of_nullableString {c : TransferColumn} {s : String} (htype : c.type = .text)
    (hholds : c.holds (nullableString s).truncated = true) : storableText s = true := by
  by_cases hempty : s = ""
  · rw [hempty]
    decide
  · rw [nullableString, if_neg hempty] at hholds
    exact storableText_of_holds htype hholds

theorem of_isSome_iff {value : TransferColumn → SqlValue} :
    (TransferRow.of value).isSome = true ↔ ∀ c : TransferColumn, c.holds (value c) = true := by
  unfold TransferRow.of
  split
  · rename_i hholds
    exact iff_of_true rfl hholds
  · rename_i hholds
    exact iff_of_false Bool.false_ne_true hholds

/-- A row is built exactly of the records in the range of the columns. -/
theorem of_insertParams_isSome_iff (t : Transfer) (now : Time) :
    (TransferRow.of (assign insertColumns ((insertParams t).map SqlValue.truncated)
      (TransferColumn.default now))).isSome = true ↔ t.inRange = true := by
  constructor
  · intro hrow
    have hnodup : insertColumns.Nodup := by decide
    have hassigned := (@forall_assign_iff _ _ _ insertColumns _ _
      (fun c v => TransferColumn.holds c v = true) hnodup rfl).mp (of_isSome_iff.mp hrow)
    have hholds := hassigned.1
    simp only [insertColumns, insertParams, List.map, List.zip_cons_cons, List.zip_nil_left,
      List.forall_mem_cons, SqlValue.truncated_uuid, SqlValue.truncated_text,
      SqlValue.truncated_boolean, SqlValue.truncated_integer, SqlValue.truncated_timestamp] at hholds
    obtain ⟨-, hsourceCluster, hsourcePVC, hdestinationCluster, hdestinationPVC, hstrategy, -, -,
      hbytesTransferred, hbytesTotal, hchunksCompleted, hchunksTotal, herror, hretryCount,
      hretryMax, hby, -⟩ := hholds
    have hinteger {c : TransferColumn} {n : Int} (hholds : c.holds (.integer n) = true) :
        c.type.holds (.integer n) = true :=
      ((holds_iff_of_ne_null SqlValue.noConfusion).mp hholds).1
    simp only [Transfer.inRange, Transfer.storable, Bool.and_eq_true]
    exact ⟨⟨⟨⟨⟨⟨⟨⟨⟨⟨⟨⟨storableText_of_holds rfl hsourceCluster, storableText_of_holds rfl hsourcePVC⟩,
      storableText_of_holds rfl hdestinationCluster⟩, storableText_of_holds rfl hdestinationPVC⟩,
      storableText_of_nullableString rfl hstrategy⟩, storableText_of_nullableString rfl herror⟩,
      storableText_of_nullableString rfl hby⟩, hinteger hchunksCompleted⟩, hinteger hchunksTotal⟩,
      hinteger hretryCount⟩, hinteger hretryMax⟩, hinteger hbytesTransferred⟩, hinteger hbytesTotal⟩
  · intro ht
    obtain ⟨row, hrow, -⟩ := exists_row ht now
    rw [hrow]
    rfl

/-- A row takes the values exactly if their columns hold them. -/
theorem set?_isSome_iff (row : TransferRow) {columns : List TransferColumn} {values : List SqlValue}
    (hcolumns : columns.Nodup) (hlength : columns.length = values.length) :
    (row.set? columns values).isSome = true ↔
      ∀ p ∈ columns.zip values, p.1.holds p.2.truncated = true := by
  have hlength' : columns.length = (values.map SqlValue.truncated).length := by
    rw [List.length_map, hlength]
  rw [TransferRow.set?, of_isSome_iff,
    @forall_assign_iff _ _ _ columns _ _ (fun c v => TransferColumn.holds c v = true) hcolumns hlength',
    List.zip_map_right,
    List.forall_mem_map]
  -- a column that is not set keeps a value that it holds
  exact and_iff_left fun c _ => row.holds c

/-! ## Statements -/

/-- The records in the rows. -/
def TransferTable.records (table : TransferTable) : Table UUID Transfer Transfer.id :=
  table.map TransferRow.transfer fun _ => rfl

/-- A statement has answered the same on rows and on records, and left the same records. -/
structure SameEffect (r : Except Err Unit × TransferTable) (r' : Except Err Unit × Store) : Prop where
  answer : r.1 = r'.1
  records : r.2.records = r'.2.transfers

theorem Store.insertTransfer_of_insert? {s : Store} {t : Transfer}
    {transfers : Table UUID Transfer Transfer.id}
    (h : s.transfers.insert? t = some transfers) :
    ∃ s', s.insertTransfer t = .ok s' ∧ s'.transfers = transfers := by
  unfold insertTransfer
  split
  · rename_i transfers' hins
    exact ⟨_, rfl, Option.some.inj (hins.symm.trans h)⟩
  · rename_i hins
    rw [h] at hins
    cases hins

theorem Store.insertTransfer_of_insert?_none {s : Store} {t : Transfer}
    (h : s.transfers.insert? t = none) :
    s.insertTransfer t =
      .error "duplicate key value violates unique constraint \"transfers_pkey\"" := by
  unfold insertTransfer
  split
  · rename_i transfers hins
    rw [h] at hins
    cases hins
  · rfl

/-- What a row is read as whose columns have been set. -/
theorem transfer_of_set? {row row' : TransferRow} {columns : List TransferColumn}
    {values : List SqlValue}
    (h : row.set? columns values = some row') {t : Transfer}
    (ht : ∀ holds, TransferRow.transfer
      ⟨assign columns (values.map SqlValue.truncated) row.value, holds⟩ = t) :
    row'.transfer = t := by
  have hvalue := TransferRow.value_of_of h
  obtain ⟨value, holds⟩ := row'
  cases hvalue
  exact ht holds

section

variable {table : TransferTable} {s : Store}

theorem find?_records (id : UUID) :
    table.records.find? id = (table.find? id).map TransferRow.transfer :=
  Table.find?_map table id

theorem row_eq (hs : table.records = s.transfers) (id : UUID) :
    s.row id = (table.find? id).map TransferRow.transfer := by
  rw [Store.row, ← hs, find?_records]

theorem sameEffect_updateRow (hs : table.records = s.transfers) (now : Time) (id : UUID)
    (columns : List TransferColumn) (values : TransferRow → List SqlValue) (set : Transfer → Transfer)
    (storable : Bool) (hid : TransferColumn.id ∉ columns)
    (hset : ∀ t, (set t).id = t.id) (hnone : table.find? id = none → storable = true)
    (hstorable : ∀ row, table.find? id = some row → (row.set? columns (values row)).isSome = storable)
    (hsame : ∀ row row' : TransferRow, row.set? columns (values row) = some row' →
      row'.transfer = set row.transfer) :
    SameEffect (table.updateRow id columns values hid)
      (refuseUnless storable s ((columnEnv now).write s (·.updateTransfer id set hset))) := by
  unfold TransferTable.updateRow
  cases hfind : table.find? id with
  | none =>
    -- no row on either side
    rw [hnone hfind]
    have hmissing : s.transfers.find? id = none := by
      rw [← Store.row, row_eq hs, hfind]
      rfl
    exact ⟨rfl, hs.trans (Table.modify_of_none hset hmissing).symm⟩
  | some row =>
    dsimp only
    rw [hstorable row hfind]
    cases storable with
    | false => exact ⟨rfl, hs⟩
    | true =>
      obtain ⟨row', hrow'⟩ := Option.isSome_iff_exists.mp (hstorable row hfind)
      have hmodify : TransferTable.records (table.modify id (fun row => row.set columns (values row))
          fun row => row.id_set _ hid) = table.records.modify id set hset := by
        apply Table.map_modify
        intro r hr
        rw [Option.some.inj (hr.symm.trans hfind), TransferRow.set, hrow']
        exact hsame row row' hrow'
      rw [hs] at hmodify
      exact ⟨rfl, hmodify⟩

theorem sameEffect_update (hs : table.records = s.transfers) (now : Time) (id : UUID)
    (columns : List TransferColumn) (params : List SqlValue) (set : Transfer → Transfer)
    (storable : Bool) (hid : TransferColumn.id ∉ columns) (hcolumns : columns.Nodup)
    (hlength : columns.length = params.length) (hset : ∀ t, (set t).id = t.id)
    (hparams : ∀ p ∈ columns.zip params, p.2.truncated ≠ .null ∧ p.1.checks p.2.truncated = true)
    (hstorable : (∀ p ∈ columns.zip params, p.1.type.holds p.2.truncated = true) ↔ storable = true)
    (hsame : ∀ row row' : TransferRow, row.set? columns params = some row' →
      row'.transfer = set row.transfer) :
    SameEffect (table.update id columns params hid)
      (refuseUnless storable s ((columnEnv now).write s (·.updateTransfer id set hset))) := by
  unfold TransferTable.update
  by_cases htypes : ∀ p ∈ columns.zip params, p.1.type.holds p.2.truncated = true
  · -- the parameters pass, and then no row refuses them
    rw [if_pos (List.all_eq_true.mpr htypes)]
    have htaken : ∀ row : TransferRow, (row.set? columns params).isSome = true := by
      intro row
      rw [set?_isSome_iff row hcolumns hlength]
      intro p hp
      obtain ⟨hnull, hchecks⟩ := hparams p hp
      exact holds_of_type hnull (htypes p hp) hchecks
    have htrue := hstorable.mp htypes
    exact sameEffect_updateRow hs now id columns _ set storable hid hset (fun _ => htrue)
      (fun row _ => (htaken row).trans htrue.symm) hsame
  · rw [if_neg (fun hall => htypes (List.all_eq_true.mp hall))]
    have hfalse : storable = false := by
      rw [← Bool.not_eq_true, ← hstorable]
      exact htypes
    rw [hfalse]
    exact ⟨rfl, hs⟩

theorem sameEffect_createTransfer (hs : table.records = s.transfers) (now : Time) {t : Transfer}
    (hbytes : storableBigint t.bytesTransferred = true ∧ storableBigint t.bytesTotal = true) :
    SameEffect (table.exec now (.createTransfer t)) (execColumns now (.createTransfer t) s) := by
  have hrange : t.inRange = t.storable := by
    rw [Transfer.inRange, hbytes.1, hbytes.2, Bool.and_true, Bool.and_true]
  show SameEffect (table.insert now insertColumns (insertParams t))
    (refuseUnless t.storable s ((columnEnv now).write s (·.insertTransfer t.truncated)))
  unfold TransferTable.insert
  cases hstorable : t.storable with
  | false =>
    have hnone : TransferRow.of (assign insertColumns ((insertParams t).map SqlValue.truncated)
        (TransferColumn.default now)) = none := by
      rw [← Option.not_isSome_iff_eq_none, of_insertParams_isSome_iff, hrange, hstorable]
      exact Bool.false_ne_true
    rw [hnone]
    exact ⟨rfl, hs⟩
  | true =>
    -- the key is free on both sides, or taken on both
    obtain ⟨row, hrow, htransfer⟩ := exists_row (hrange.trans hstorable) now
    have hinsert : s.transfers.insert? t.truncated =
        (table.insert? row).map fun table' => TransferTable.records table' := by
      rw [← hs, ← htransfer]
      exact Table.insert?_map table row
    rw [hrow, refuseUnless_true]
    cases htable : table.insert? row with
    | none =>
      rw [htable] at hinsert
      have hrefused := Store.insertTransfer_of_insert?_none hinsert
      rw [Env.write_of_refused rfl (Store.insertTransfer · t.truncated) hrefused]
      dsimp only
      rw [htable]
      exact ⟨rfl, hs⟩
    | some table' =>
      rw [htable] at hinsert
      obtain ⟨s', hs', htransfers⟩ := Store.insertTransfer_of_insert? hinsert
      rw [Env.write_of_ok rfl (Store.insertTransfer · t.truncated) hs']
      dsimp only
      rw [htable]
      exact ⟨rfl, htransfers.symm⟩

theorem records_createTransferEvent (hs : table.records = s.transfers) (now : Time)
    (e : TransferEvent) :
    table.records = (execColumns now (.createTransferEvent e) s).2.transfers := by
  show table.records =
    (refuseUnless e.storable s ((columnEnv now).write s (·.insertEvent e.truncated))).2.transfers
  cases e.storable with
  | false => exact hs
  | true =>
    rw [refuseUnless_true]
    rcases (columnEnv now).write_cases s (Store.insertEvent · e.truncated) with
      ⟨err, hwrite⟩ | ⟨s', hins, hwrite⟩
    · rw [hwrite]
      exact hs
    · rw [hwrite]
      exact hs.trans (Store.insertEvent_eq_ok hins).1.symm

end

/-! ## Runs -/

/-- The byte counts of a call are of type `int64`. -/
def RepoCall.fitsInt64 : RepoCall → Bool
  | .createTransfer t => storableBigint t.bytesTransferred && storableBigint t.bytesTotal
  | .updateTransferProgress _ bytesTransferred bytesTotal _ _ =>
      storableBigint bytesTransferred && storableBigint bytesTotal
  | _ => true

/-- What a call does on both sides.  Events are in a table of their own, and
    `getTransferByID_records` is about the query. -/
def RepoCall.Refines : (call : RepoCall) → Except Err Unit × TransferTable → call.Ans × Store → Prop
  | .getTransferByID _, r, r' => r.2.records = r'.2.transfers
  | .createTransferEvent _, r, r' => r.2.records = r'.2.transfers
  | .createTransfer _, r, r' | .updateTransferState .., r, r' | .updateTransferStrategy .., r, r'
  | .updateTransferProgress .., r, r' | .updateTransferStarted _, r, r'
  | .updateTransferCompleted _, r, r' | .updateTransferFailed .., r, r'
  | .incrementRetryCount _, r, r' => SameEffect r r'

variable {table : TransferTable} {s : Store}

/-- One call. -/
theorem refines_exec (hs : table.records = s.transfers) (now : Time) {call : RepoCall}
    (hcall : call.fitsInt64 = true) :
    call.Refines (table.exec now call) (execColumns now call s) := by
  have hnow : TransferColumn.createdAt.type.holds (.timestamp (truncatedTime now)) = true :=
    decide_eq_true (truncatedTime_truncatedTime now)
  cases call with
  | createTransfer t => exact sameEffect_createTransfer hs now (Bool.and_eq_true_iff.mp hcall)
  | getTransferByID id => exact hs
  | createTransferEvent e => exact records_createTransferEvent hs now e
  | updateTransferState id state =>
    apply sameEffect_update hs now id [.state] [.text state.text] ({ · with state }) true
      (by decide) (by decide) rfl (fun _ => rfl)
    · exact List.forall_mem_singleton.mpr ⟨SqlValue.noConfusion, (checks_state state).2⟩
    · exact iff_of_true (List.forall_mem_singleton.mpr (checks_state state).1) rfl
    · intro row row' hrow
      exact transfer_of_set? hrow fun _ => by cases state <;> rfl
  | updateTransferStrategy id strategy =>
    apply sameEffect_update hs now id [.strategy] [.text strategy.text] ({ · with strategy })
      (storableText strategy.text) (by decide) (by decide) rfl (fun _ => rfl)
    · exact List.forall_mem_singleton.mpr ⟨SqlValue.noConfusion, rfl⟩
    · exact List.forall_mem_singleton
    · intro row row' hrow
      exact transfer_of_set? hrow fun _ => rfl
  | updateTransferProgress id bytesTransferred bytesTotal chunksCompleted chunksTotal =>
    obtain ⟨hbytesTransferred, hbytesTotal⟩ := Bool.and_eq_true_iff.mp hcall
    apply sameEffect_update hs now id [.bytesTransferred, .bytesTotal, .chunksCompleted, .chunksTotal]
      [.integer bytesTransferred, .integer bytesTotal, .integer chunksCompleted, .integer chunksTotal]
      ({ · with bytesTransferred, bytesTotal, chunksCompleted, chunksTotal })
      (storableInt chunksCompleted && storableInt chunksTotal) (by decide) (by decide) rfl
      (fun _ => rfl)
    · simp only [List.zip_cons_cons, List.zip_nil_left, List.forall_mem_cons]
      exact ⟨⟨SqlValue.noConfusion, rfl⟩, ⟨SqlValue.noConfusion, rfl⟩, ⟨SqlValue.noConfusion, rfl⟩,
        ⟨SqlValue.noConfusion, rfl⟩, List.forall_mem_nil _⟩
    · simp only [List.zip_cons_cons, List.zip_nil_left, List.forall_mem_cons, Bool.and_eq_true]
      constructor
      · rintro ⟨-, -, hchunksCompleted, hchunksTotal, -⟩
        exact ⟨hchunksCompleted, hchunksTotal⟩
      · rintro ⟨hchunksCompleted, hchunksTotal⟩
        exact ⟨hbytesTransferred, hbytesTotal, hchunksCompleted, hchunksTotal, List.forall_mem_nil _⟩
    · intro row row' hrow
      exact transfer_of_set? hrow fun _ => rfl
  | updateTransferStarted id =>
    apply sameEffect_update hs now id [.startedAt] [.timestamp now]
      ({ · with startedAt := some (truncatedTime now) }) true (by decide) (by decide) rfl
      (fun _ => rfl)
    · exact List.forall_mem_singleton.mpr ⟨SqlValue.noConfusion, rfl⟩
    · exact iff_of_true (List.forall_mem_singleton.mpr hnow) rfl
    · intro row row' hrow
      exact transfer_of_set? hrow fun _ => rfl
  | updateTransferCompleted id =>
    apply sameEffect_update hs now id [.completedAt] [.timestamp now]
      ({ · with completedAt := some (truncatedTime now) }) true (by decide) (by decide) rfl
      (fun _ => rfl)
    · exact List.forall_mem_singleton.mpr ⟨SqlValue.noConfusion, rfl⟩
    · exact iff_of_true (List.forall_mem_singleton.mpr hnow) rfl
    · intro row row' hrow
      exact transfer_of_set? hrow fun _ => rfl
  | updateTransferFailed id errorMessage =>
    apply sameEffect_update hs now id [.state, .errorMessage, .completedAt]
      [.text "failed", .text errorMessage, .timestamp now]
      ({ · with state := .failed, errorMessage, completedAt := some (truncatedTime now) })
      (storableText errorMessage) (by decide) (by decide) rfl (fun _ => rfl)
    · simp only [List.zip_cons_cons, List.zip_nil_left, List.forall_mem_cons]
      exact ⟨⟨SqlValue.noConfusion, rfl⟩, ⟨SqlValue.noConfusion, rfl⟩, ⟨SqlValue.noConfusion, rfl⟩,
        List.forall_mem_nil _⟩
    · simp only [List.zip_cons_cons, List.zip_nil_left, List.forall_mem_cons]
      constructor
      · rintro ⟨-, hmessage, -⟩
        exact hmessage
      · intro hmessage
        exact ⟨(checks_state .failed).1, hmessage, hnow, List.forall_mem_nil _⟩
    · intro row row' hrow
      exact transfer_of_set? hrow fun _ => rfl
  | incrementRetryCount id =>
    apply sameEffect_updateRow hs now id [.retryCount]
      (fun row => [.integer ((row.value .retryCount).asInt + 1)])
      (fun t => { t with retryCount := t.retryCount + 1 })
      ((s.row id).all fun t => storableInt (t.retryCount + 1)) (by decide) (fun _ => rfl)
    · intro hnone
      rw [row_eq hs, hnone]
      rfl
    · -- the sum is checked on the row that is there
      intro row hrow
      rw [row_eq hs, hrow, Bool.eq_iff_iff, set?_isSome_iff row (by decide) rfl]
      exact List.forall_mem_singleton.trans
        ((holds_iff_of_ne_null SqlValue.noConfusion).trans (and_iff_left rfl))
    · intro row row' hrow
      exact transfer_of_set? hrow fun _ => rfl

theorem RepoCall.Refines.records {call : RepoCall} {r : Except Err Unit × TransferTable}
    {r' : call.Ans × Store} (h : call.Refines r r') : r.2.records = r'.2.transfers := by
  cases call with
  | getTransferByID id => exact h
  | createTransferEvent e => exact h
  | _ => exact SameEffect.records h

/-- The store after these calls, each with what the clock showed. -/
def Store.runColumns : Store → List (Time × RepoCall) → Store
  | s, [] => s
  | s, (now, call) :: calls => runColumns (execColumns now call s).2 calls

/-- A run. -/
theorem refines_run (hs : table.records = s.transfers) {calls : List (Time × RepoCall)}
    (hcalls : ∀ c ∈ calls, c.2.fitsInt64 = true) :
    TransferTable.records (table.run calls) = (s.runColumns calls).transfers := by
  induction calls generalizing table s with
  | nil => exact hs
  | cons c calls ih =>
    obtain ⟨now, call⟩ := c
    obtain ⟨hcall, hrest⟩ := List.forall_mem_cons.mp hcalls
    exact ih (refines_exec hs now hcall).records hrest

/-! ## Queries -/

theorem getTransferByID_records (hs : table.records = s.transfers) (now : Time) (id : UUID) :
    table.getTransferByID id = (execColumns now (.getTransferByID id) s).1 := by
  rw [TransferTable.getTransferByID_eq, ← row_eq hs]
  rfl

theorem text_of_ofText {text : String} {state : TransferState}
    (h : TransferState.ofText text = .ok state) :
    state.text = text := by
  unfold TransferState.ofText at h
  split at h <;> cases h <;> rfl

theorem TransferRow.value_text {row : TransferRow} {c : TransferColumn} (htype : c.type = .text)
    (hnull : c.nullable = false) : row.value c = .text (row.value c).asString := by
  have hshape := row.shape hnull
  rw [htype] at hshape
  obtain ⟨s, hvalue⟩ := hshape
  rw [hvalue]
  rfl

/-- The `WHERE` clause on a row, and on the record in it. -/
theorem admits_transfer (filter : TransferFilter) (row : TransferRow) :
    filter.admits row.transfer = filter.admitsRow row := by
  have hstate : row.value .state = .text row.transfer.state.text := by
    rw [text_of_ofText row.ofText_state]
    exact row.value_text rfl rfl
  have hsource : row.value .sourceCluster = .text row.transfer.sourceCluster := row.value_text rfl rfl
  have hdestination : row.value .destinationCluster = .text row.transfer.destinationCluster :=
    row.value_text rfl rfl
  simp only [TransferFilter.admits, TransferFilter.admitsRow, hstate, hsource, hdestination,
    SqlValue.text.injEq]

theorem matching_eq (hs : table.records = s.transfers) (filter : TransferFilter) :
    s.matching filter = (table.rows.filter filter.admitsRow).map TransferRow.transfer := by
  have hrows : s.transfers.rows = table.rows.map TransferRow.transfer := by
    rw [← hs]
    rfl
  have hadmits : filter.admits ∘ TransferRow.transfer = filter.admitsRow :=
    funext (admits_transfer filter)
  rw [Store.matching, hrows, List.filter_map, hadmits]

/-- However the server arranges the rows, it has arranged the records. -/
theorem listTransfers_records (hs : table.records = s.transfers) (order : Arrangement newestRowFirst)
    (filter : TransferFilter) :
    ∃ order' : Arrangement newestFirst,
      table.listTransfers order filter = (s.listColumns order' filter).map (Prod.map id Int.ofNat) := by
  have hnewest : ∀ a b : TransferRow, newestRowFirst a b → newestFirst a.transfer b.transfer :=
    fun _ _ h => h
  obtain ⟨order', horder'⟩ :=
    order.exists_map preordering_newestFirst hnewest (table.rows.filter filter.admitsRow)
  use order'
  by_cases hfilter : filter.storable = true
  · have hpage : (table.pageRows order filter).map (Prod.map TransferRow.transfer id) =
        window (queryLimit filter.limit) (queryOffset filter.offset)
          (countOver (order'.arrange (s.matching filter))) := by
      rw [matching_eq hs, horder']
      exact window_countOver_map _ _ _ _
    rw [TransferTable.listTransfers_eq hfilter, Store.listColumns, if_pos hfilter, Store.listTransfers,
      countedPage, ← hpage]
    rfl
  · rw [TransferTable.listTransfers, Store.listColumns, if_neg hfilter, if_neg hfilter]
    rfl

/-! ## Both levels -/

/-- A table of rows behaves as the store of its records: statements answer the same
    and leave it so, and both readers answer what their queries answer. -/
structure BehavesAs (table : TransferTable) (s : Store) : Prop where
  records : table.records = s.transfers
  statement : ∀ now call, RepoCall.fitsInt64 call = true →
    call.Refines (table.exec now call) (execColumns now call s)
  lookup : ∀ now id, table.getTransferByID id = (execColumns now (.getTransferByID id) s).1
  list : ∀ (order : Arrangement newestRowFirst) filter, ∃ order' : Arrangement newestFirst,
    table.listTransfers order filter = (s.listColumns order' filter).map (Prod.map id Int.ofNat)

/-- After any statements, with any numbers, texts and times, and any of the six states, on a
    table and its records. -/
theorem behavesAs_of_run (hs : table.records = s.transfers) {calls : List (Time × RepoCall)}
    (hcalls : ∀ c ∈ calls, c.2.fitsInt64 = true) : BehavesAs (table.run calls) (s.runColumns calls) where
  records := refines_run hs hcalls
  statement now _ hcall := refines_exec (refines_run hs hcalls) now hcall
  lookup := getTransferByID_records (refines_run hs hcalls)
  list order filter := listTransfers_records (refines_run hs hcalls) order filter

/-- A transfer is created, is reported on, and is tried again. -/
def startedAndRetried : List (Time × RepoCall) :=
  [(0, .createTransfer startedTransfer), (1500, .updateTransferProgress 7 10 20 1 2),
   (4000, .incrementRetryCount 7)]

theorem behavesAs_startedAndRetried :
    BehavesAs (TransferTable.run Table.empty startedAndRetried)
      (Store.empty.runColumns startedAndRetried) ∧
    ((Store.empty.runColumns startedAndRetried).row 7).map Transfer.retryCount = some 1 := by
  have hrecords : TransferTable.records Table.empty = Store.empty.transfers := rfl
  exact ⟨behavesAs_of_run hrecords (by decide), by decide +kernel⟩

end Katapult
