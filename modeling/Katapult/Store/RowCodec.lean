/-
  Katapult.Store.RowCodec

  The table of transfers, column by column.

  `CreateTransfer` brings nineteen values by position, and two queries are
  scanned by position, each with a list of its own.  A row that the constraints
  allow is read alike by both (`scanTransfer_row`, `scanListed_row`), and a row
  that has been inserted as what it was made of, up to the precision of its
  timestamps (`codec_of_createTransfer`).
-/

import Katapult.Keyed.Positional
import Katapult.Store.Columns

namespace Katapult

open Keyed Paging

/-! ## Values and columns -/

/-- A value of a column, or of a parameter. -/
inductive SqlValue where
  | null
  | uuid (id : UUID)
  | text (s : String)
  | boolean (b : Bool)
  | integer (n : Int)
  | timestamp (t : Time)
  deriving DecidableEq

inductive ColumnType where
  | uuid | text | boolean | bigint | int | timestamptz
  deriving DecidableEq

/-- The columns of `transfers`. -/
inductive TransferColumn where
  | id | sourceCluster | sourcePVC | destinationCluster | destinationPVC | strategy | state
  | allowOverwrite | bytesTransferred | bytesTotal | chunksCompleted | chunksTotal | errorMessage
  | retryCount | retryMax | createdBy | createdAt | startedAt | completedAt
  deriving DecidableEq

/-- A number that a `BIGINT` column can hold. -/
def storableBigint (n : Int) : Bool := -2 ^ 63 ≤ n ∧ n < 2 ^ 63

/-- A column of this type can hold the value, as it is. -/
def ColumnType.holds : ColumnType → SqlValue → Bool
  | .uuid, .uuid _ => true
  | .text, .text s => storableText s
  | .boolean, .boolean _ => true
  | .bigint, .integer n => storableBigint n
  | .int, .integer n => storableInt n
  | .timestamptz, .timestamp t => truncatedTime t = t
  | _, _ => false

/-- The values of a type. -/
def ColumnType.Shape : ColumnType → SqlValue → Prop
  | .uuid, v => ∃ id, v = .uuid id
  | .text, v => ∃ s, v = .text s
  | .boolean, v => ∃ b, v = .boolean b
  | .bigint, v | .int, v => ∃ n, v = .integer n
  | .timestamptz, v => ∃ t, v = .timestamp t

theorem ColumnType.shape_of_holds {type : ColumnType} {v : SqlValue} (h : type.holds v = true) :
    type.Shape v := by
  cases type <;> cases v <;> first | exact ⟨_, rfl⟩ | cases h

/-- A parameter, as a column will hold it. -/
def SqlValue.truncated : SqlValue → SqlValue
  | .timestamp t => .timestamp (truncatedTime t)
  | v => v

namespace SqlValue

@[simp] theorem truncated_uuid (id : UUID) : (uuid id).truncated = uuid id := rfl

@[simp] theorem truncated_text (s : String) : (text s).truncated = text s := rfl

@[simp] theorem truncated_boolean (b : Bool) : (boolean b).truncated = boolean b := rfl

@[simp] theorem truncated_integer (n : Int) : (integer n).truncated = integer n := rfl

@[simp] theorem truncated_timestamp (t : Time) :
    (timestamp t).truncated = timestamp (truncatedTime t) := rfl

end SqlValue

namespace TransferColumn

def type : TransferColumn → ColumnType
  | .id => .uuid
  | .sourceCluster | .sourcePVC | .destinationCluster | .destinationPVC | .strategy | .state
  | .errorMessage | .createdBy => .text
  | .allowOverwrite => .boolean
  | .bytesTransferred | .bytesTotal => .bigint
  | .chunksCompleted | .chunksTotal | .retryCount | .retryMax => .int
  | .createdAt | .startedAt | .completedAt => .timestamptz

/-- The columns that are not `NOT NULL`. -/
def nullable : TransferColumn → Bool
  | .strategy | .errorMessage | .createdBy | .startedAt | .completedAt => true
  | _ => false

/-- The `CHECK` constraint on `state`. -/
def checks : TransferColumn → SqlValue → Bool
  | .state, .text s =>
      s ∈ ["pending", "validating", "transferring", "completed", "failed", "cancelled"]
  | _, _ => true

def holds (c : TransferColumn) (v : SqlValue) : Bool :=
  if v = .null then c.nullable else c.type.holds v && c.checks v

/-- What a column holds that an `INSERT` does not name. -/
def default (now : Time) : TransferColumn → SqlValue
  | .state => .text "pending"
  | .allowOverwrite => .boolean false
  | .bytesTransferred | .bytesTotal | .chunksCompleted | .chunksTotal | .retryCount => .integer 0
  | .retryMax => .integer 3
  | .createdAt => .timestamp now
  | _ => .null

def all : List TransferColumn :=
  [.id, .sourceCluster, .sourcePVC, .destinationCluster, .destinationPVC, .strategy, .state,
    .allowOverwrite, .bytesTransferred, .bytesTotal, .chunksCompleted, .chunksTotal, .errorMessage,
    .retryCount, .retryMax, .createdBy, .createdAt, .startedAt, .completedAt]

theorem mem_all (c : TransferColumn) : c ∈ all := by
  cases c <;> decide

instance (p : TransferColumn → Prop) [DecidablePred p] : Decidable (∀ c, p c) :=
  decidable_of_iff (∀ c ∈ all, p c) ⟨fun h c => h c c.mem_all, fun h c _ => h c⟩

end TransferColumn

/-! ## Rows -/

/-- A row that the constraints of the table allow. -/
structure TransferRow where
  value : TransferColumn → SqlValue
  holds : ∀ c : TransferColumn, c.holds (value c) = true

/-- What a value is scanned to where it has this type; `NULL` gives the zero value. -/
def SqlValue.asUUID : SqlValue → UUID
  | .uuid id => id
  | _ => 0

def SqlValue.asString : SqlValue → String
  | .text s => s
  | _ => ""

def SqlValue.asBool : SqlValue → Bool
  | .boolean b => b
  | _ => false

def SqlValue.asInt : SqlValue → Int
  | .integer n => n
  | _ => 0

def SqlValue.asTime : SqlValue → Time
  | .timestamp t => t
  | _ => 0

def SqlValue.asTime? : SqlValue → Option Time
  | .timestamp t => some t
  | _ => none

/-- The primary key. -/
def TransferRow.id (row : TransferRow) : UUID := (row.value .id).asUUID

/-- The table; its columns and their constraints are those of the rows. -/
abbrev TransferTable : Type := Table UUID TransferRow TransferRow.id

/-- Build a row, unless a constraint is violated. -/
def TransferRow.of (value : TransferColumn → SqlValue) : Option TransferRow :=
  if holds : ∀ c : TransferColumn, c.holds (value c) = true then some ⟨value, holds⟩ else none

/-- The row after `SET columns = values`, if the columns hold the values. -/
def TransferRow.set? (row : TransferRow) (columns : List TransferColumn) (values : List SqlValue) :
    Option TransferRow :=
  TransferRow.of (assign columns (values.map SqlValue.truncated) row.value)

def TransferRow.set (row : TransferRow) (columns : List TransferColumn) (values : List SqlValue) :
    TransferRow :=
  (row.set? columns values).getD row

theorem TransferRow.value_of_of {value : TransferColumn → SqlValue} {row : TransferRow}
    (h : TransferRow.of value = some row) : row.value = value := by
  unfold of at h
  split at h
  · cases h
    rfl
  · cases h

theorem TransferRow.id_set (row : TransferRow) {columns : List TransferColumn} (values : List SqlValue)
    (hid : TransferColumn.id ∉ columns) : (row.set columns values).id = row.id := by
  unfold set
  cases hrow : row.set? columns values with
  | none => rfl
  | some row' =>
    rw [set?] at hrow
    rw [Option.getD_some, id, value_of_of hrow, assign_of_notMem hid]
    rfl

/-! ## Statements -/

/-- A pointer to a string, unless it is empty. -/
def nullableString (s : String) : SqlValue := if s = "" then .null else .text s

/-- A pointer to a time. -/
def nullableTime (t : Option Time) : SqlValue := t.elim .null .timestamp

/-- The columns that `CreateTransfer` names. -/
def insertColumns : List TransferColumn :=
  [.id, .sourceCluster, .sourcePVC, .destinationCluster, .destinationPVC,
    .strategy, .state, .allowOverwrite, .bytesTransferred, .bytesTotal,
    .chunksCompleted, .chunksTotal, .errorMessage, .retryCount, .retryMax,
    .createdBy, .createdAt, .startedAt, .completedAt]

/-- The parameters `$1` to `$19` of `CreateTransfer`. -/
def insertParams (transfer : Transfer) : List SqlValue :=
  [.uuid transfer.id, .text transfer.sourceCluster, .text transfer.sourcePVC,
    .text transfer.destinationCluster, .text transfer.destinationPVC,
    nullableString transfer.strategy.text, .text transfer.state.text,
    .boolean transfer.allowOverwrite, .integer transfer.bytesTransferred, .integer transfer.bytesTotal,
    .integer transfer.chunksCompleted, .integer transfer.chunksTotal,
    nullableString transfer.errorMessage,
    .integer transfer.retryCount, .integer transfer.retryMax, nullableString transfer.createdBy,
    .timestamp transfer.createdAt, nullableTime transfer.startedAt, nullableTime transfer.completedAt]

/-- The error of a statement with a value that its column does not hold. -/
def outOfRange : Err := "value out of the range of its column"

namespace TransferTable

/-- `INSERT INTO transfers (columns) VALUES (params)`. -/
def insert (table : TransferTable) (now : Time) (columns : List TransferColumn)
    (params : List SqlValue) : Except Err Unit × TransferTable :=
  match TransferRow.of
      (assign columns (params.map SqlValue.truncated) (TransferColumn.default now)) with
  | none => (.error outOfRange, table)
  | some row =>
    match table.insert? row with
    | none => (.error "duplicate key value violates unique constraint \"transfers_pkey\"", table)
    | some table => (.ok (), table)

/-- `UPDATE transfers SET columns = values WHERE id = $1`, with values that may depend on the row. -/
def updateRow (table : TransferTable) (id : UUID) (columns : List TransferColumn)
    (values : TransferRow → List SqlValue) (hid : TransferColumn.id ∉ columns := by decide) :
    Except Err Unit × TransferTable :=
  match table.find? id with
  | none => (.ok (), table)
  | some row =>
    -- the statement fails as a whole
    if (row.set? columns (values row)).isSome then
      (.ok (), table.modify id (fun row => row.set columns (values row)) fun row => row.id_set _ hid)
    else (.error outOfRange, table)

/-- The same with parameters, which are refused even if there is no row for them. -/
def update (table : TransferTable) (id : UUID) (columns : List TransferColumn) (params : List SqlValue)
    (hid : TransferColumn.id ∉ columns := by decide) : Except Err Unit × TransferTable :=
  if (columns.zip params).all fun (c, v) => c.type.holds v.truncated then
    table.updateRow id columns (fun _ => params) hid
  else (.error outOfRange, table)

/-- The statements of the repository on this table; `now` is what the clock shows. -/
def exec (now : Time) (table : TransferTable) : RepoCall → Except Err Unit × TransferTable
  | .createTransfer transfer => table.insert now insertColumns (insertParams transfer)
  | .updateTransferState id state => table.update id [.state] [.text state.text]
  | .updateTransferStrategy id strategy => table.update id [.strategy] [.text strategy.text]
  | .updateTransferProgress id bytesTransferred bytesTotal chunksCompleted chunksTotal =>
      table.update id [.bytesTransferred, .bytesTotal, .chunksCompleted, .chunksTotal]
        [.integer bytesTransferred, .integer bytesTotal, .integer chunksCompleted, .integer chunksTotal]
  | .updateTransferStarted id => table.update id [.startedAt] [.timestamp now]
  | .updateTransferCompleted id => table.update id [.completedAt] [.timestamp now]
  | .updateTransferFailed id errorMessage =>
      table.update id [.state, .errorMessage, .completedAt]
        [.text "failed", .text errorMessage, .timestamp now]
  | .incrementRetryCount id =>
      table.updateRow id [.retryCount] fun row => [.integer ((row.value .retryCount).asInt + 1)]
  | .getTransferByID _ | .createTransferEvent _ => (.ok (), table)

/-- The table after these calls, each with what the clock showed. -/
def run : TransferTable → List (Time × RepoCall) → TransferTable
  | table, [] => table
  | table, (now, call) :: calls => run (table.exec now call).2 calls

end TransferTable

/-! ## Readers -/

/-- Scanning a value into a variable: `NULL` goes into a pointer only. -/
def cannotScan : Err := "cannot scan into the destination"

namespace SqlValue

def scanUUID : SqlValue → Except Err UUID
  | .uuid id => .ok id
  | _ => .error cannotScan

def scanString : SqlValue → Except Err String
  | .text s => .ok s
  | _ => .error cannotScan

def scanNullString : SqlValue → Except Err (Option String)
  | .null => .ok none
  | .text s => .ok (some s)
  | _ => .error cannotScan

def scanBool : SqlValue → Except Err Bool
  | .boolean b => .ok b
  | _ => .error cannotScan

def scanInt : SqlValue → Except Err Int
  | .integer n => .ok n
  | _ => .error cannotScan

def scanTime : SqlValue → Except Err Time
  | .timestamp t => .ok t
  | _ => .error cannotScan

def scanNullTime : SqlValue → Except Err (Option Time)
  | .null => .ok none
  | .timestamp t => .ok (some t)
  | _ => .error cannotScan

@[simp] theorem scanUUID_uuid (id : UUID) : (uuid id).scanUUID = .ok id := rfl

@[simp] theorem scanString_text (s : String) : (text s).scanString = .ok s := rfl

@[simp] theorem scanNullString_text (s : String) : (text s).scanNullString = .ok (some s) := rfl

@[simp] theorem scanBool_boolean (b : Bool) : (boolean b).scanBool = .ok b := rfl

@[simp] theorem scanInt_integer (n : Int) : (integer n).scanInt = .ok n := rfl

@[simp] theorem scanTime_timestamp (t : Time) : (timestamp t).scanTime = .ok t := rfl

end SqlValue

/-- A text as a state.  The constraint lets no other text into the table. -/
def TransferState.ofText : String → Except Err TransferState
  | "pending" => .ok .pending
  | "validating" => .ok .validating
  | "transferring" => .ok .transferring
  | "completed" => .ok .completed
  | "failed" => .ok .failed
  | "cancelled" => .ok .cancelled
  | s => .error ("no state " ++ quote s)

/-- The columns that `GetTransferByID` selects. -/
def getColumns : List TransferColumn :=
  [.id, .sourceCluster, .sourcePVC, .destinationCluster, .destinationPVC,
    .strategy, .state, .allowOverwrite, .bytesTransferred, .bytesTotal,
    .chunksCompleted, .chunksTotal, .errorMessage, .retryCount, .retryMax,
    .createdBy, .createdAt, .startedAt, .completedAt]

/-- The variables of `scanTransfer`, in the order of its `Scan`. -/
def scanTransfer : List SqlValue → Except Err Transfer
  | [id, sourceCluster, sourcePVC, destinationCluster, destinationPVC, strategy, state,
      allowOverwrite, bytesTransferred, bytesTotal, chunksCompleted, chunksTotal, errorMessage,
      retryCount, retryMax, createdBy, createdAt, startedAt, completedAt] => do
    let id ← id.scanUUID
    let sourceCluster ← sourceCluster.scanString
    let sourcePVC ← sourcePVC.scanString
    let destinationCluster ← destinationCluster.scanString
    let destinationPVC ← destinationPVC.scanString
    let strategy ← strategy.scanNullString
    let state ← state.scanNullString
    let allowOverwrite ← allowOverwrite.scanBool
    let bytesTransferred ← bytesTransferred.scanInt
    let bytesTotal ← bytesTotal.scanInt
    let chunksCompleted ← chunksCompleted.scanInt
    let chunksTotal ← chunksTotal.scanInt
    let errorMessage ← errorMessage.scanNullString
    let retryCount ← retryCount.scanInt
    let retryMax ← retryMax.scanInt
    let createdBy ← createdBy.scanNullString
    let createdAt ← createdAt.scanTime
    let startedAt ← startedAt.scanNullTime
    let completedAt ← completedAt.scanNullTime
    let state ← TransferState.ofText (state.getD "")
    return {
      id, sourceCluster, sourcePVC, destinationCluster, destinationPVC
      strategy := ⟨strategy.getD ""⟩
      state, allowOverwrite, bytesTransferred, bytesTotal, chunksCompleted, chunksTotal
      errorMessage := errorMessage.getD ""
      retryCount, retryMax
      createdBy := createdBy.getD ""
      createdAt, startedAt, completedAt }
  | _ => .error "number of destinations differs from the number of columns"

/-- The columns that `ListTransfers` selects before `COUNT(*) OVER()`. -/
def listColumns : List TransferColumn :=
  [.id, .sourceCluster, .sourcePVC, .destinationCluster, .destinationPVC,
    .strategy, .state, .allowOverwrite, .bytesTransferred, .bytesTotal,
    .chunksCompleted, .chunksTotal, .errorMessage, .retryCount, .retryMax,
    .createdBy, .createdAt, .startedAt, .completedAt]

/-- The variables of the loop in `ListTransfers`, in the order of its `Scan`. -/
def scanListed : List SqlValue → Except Err (Transfer × Int)
  | [id, sourceCluster, sourcePVC, destinationCluster, destinationPVC, strategy, state,
      allowOverwrite, bytesTransferred, bytesTotal, chunksCompleted, chunksTotal, errorMessage,
      retryCount, retryMax, createdBy, createdAt, startedAt, completedAt, totalCount] => do
    let id ← id.scanUUID
    let sourceCluster ← sourceCluster.scanString
    let sourcePVC ← sourcePVC.scanString
    let destinationCluster ← destinationCluster.scanString
    let destinationPVC ← destinationPVC.scanString
    let strategy ← strategy.scanNullString
    let state ← state.scanNullString
    let allowOverwrite ← allowOverwrite.scanBool
    let bytesTransferred ← bytesTransferred.scanInt
    let bytesTotal ← bytesTotal.scanInt
    let chunksCompleted ← chunksCompleted.scanInt
    let chunksTotal ← chunksTotal.scanInt
    let errorMessage ← errorMessage.scanNullString
    let retryCount ← retryCount.scanInt
    let retryMax ← retryMax.scanInt
    let createdBy ← createdBy.scanNullString
    let createdAt ← createdAt.scanTime
    let startedAt ← startedAt.scanNullTime
    let completedAt ← completedAt.scanNullTime
    let totalCount ← totalCount.scanInt
    let state ← TransferState.ofText (state.getD "")
    return (
      { id, sourceCluster, sourcePVC, destinationCluster, destinationPVC
        strategy := ⟨strategy.getD ""⟩
        state, allowOverwrite, bytesTransferred, bytesTotal, chunksCompleted, chunksTotal
        errorMessage := errorMessage.getD ""
        retryCount, retryMax
        createdBy := createdBy.getD ""
        createdAt, startedAt, completedAt },
      totalCount)
  | _ => .error "number of destinations differs from the number of columns"

/-- `ORDER BY created_at DESC`. -/
def newestRowFirst (a b : TransferRow) : Prop :=
  (b.value .createdAt).asTime ≤ (a.value .createdAt).asTime

/-- The `WHERE` clause of a transfer filter. -/
def TransferFilter.admitsRow (filter : TransferFilter) (row : TransferRow) : Bool :=
  (filter.state.all fun state => row.value .state = .text state) &&
    filter.cluster.all fun cluster =>
      row.value .sourceCluster = .text cluster || row.value .destinationCluster = .text cluster

namespace TransferTable

/-- A transfer, or none without an error if the query has no row. -/
def getTransferByID (table : TransferTable) (id : UUID) : Except Err (Option Transfer) :=
  match table.find? id with
  | none => .ok none
  | some row => (scanTransfer (getColumns.map row.value)).map some

/-- The rows of a page, each with the count of all rows. -/
def pageRows (order : Arrangement newestRowFirst) (table : TransferTable) (filter : TransferFilter) :
    List (TransferRow × Nat) :=
  window (queryLimit filter.limit) (queryOffset filter.offset)
    (countOver (order.arrange (table.rows.filter filter.admitsRow)))

/-- The loop over the rows of a page. -/
def scanRows (transfers : List Transfer) (totalCount : Int) :
    List (TransferRow × Nat) → Except Err (List Transfer × Int)
  | [] => .ok (transfers, totalCount)
  | (row, count) :: rest => do
    let (t, totalCount) ← scanListed (listColumns.map row.value ++ [.integer count])
    scanRows (transfers ++ [t]) totalCount rest

/-- A page of transfers, and the total count. -/
def listTransfers (order : Arrangement newestRowFirst) (table : TransferTable)
    (filter : TransferFilter) : Except Err (List Transfer × Int) :=
  if filter.storable then scanRows [] 0 (table.pageRows order filter)
  else .error "invalid byte sequence for encoding \"UTF8\": 0x00"

end TransferTable

/-! ## Rows as records -/

namespace TransferRow

variable (row : TransferRow) (c : TransferColumn)

/-- The record in a row. -/
def transfer : Transfer where
  id := row.id
  sourceCluster := (row.value .sourceCluster).asString
  sourcePVC := (row.value .sourcePVC).asString
  destinationCluster := (row.value .destinationCluster).asString
  destinationPVC := (row.value .destinationPVC).asString
  strategy := ⟨(row.value .strategy).asString⟩
  state := (TransferState.ofText (row.value .state).asString).toOption.getD .pending
  allowOverwrite := (row.value .allowOverwrite).asBool
  bytesTransferred := (row.value .bytesTransferred).asInt
  bytesTotal := (row.value .bytesTotal).asInt
  chunksCompleted := (row.value .chunksCompleted).asInt
  chunksTotal := (row.value .chunksTotal).asInt
  errorMessage := (row.value .errorMessage).asString
  retryCount := (row.value .retryCount).asInt
  retryMax := (row.value .retryMax).asInt
  createdBy := (row.value .createdBy).asString
  createdAt := (row.value .createdAt).asTime
  startedAt := (row.value .startedAt).asTime?
  completedAt := (row.value .completedAt).asTime?

variable {row c}

/-- A column that is `NOT NULL` has a value of its type. -/
theorem holds_type (hnull : c.nullable = false) : c.type.holds (row.value c) = true := by
  have hholds := row.holds c
  unfold TransferColumn.holds at hholds
  split at hholds
  · rw [hnull] at hholds
    cases hholds
  · exact (Bool.and_eq_true_iff.mp hholds).1

theorem shape (hnull : c.nullable = false) : c.type.Shape (row.value c) :=
  ColumnType.shape_of_holds (row.holds_type hnull)

/-- The others have one, or none. -/
theorem null_or_shape : row.value c = .null ∨ c.type.Shape (row.value c) := by
  have hholds := row.holds c
  unfold TransferColumn.holds at hholds
  split at hholds
  · exact .inl ‹_›
  · exact .inr (ColumnType.shape_of_holds (Bool.and_eq_true_iff.mp hholds).1)

theorem scanUUID_value (htype : c.type = .uuid) (hnull : c.nullable = false) :
    (row.value c).scanUUID = .ok (row.value c).asUUID := by
  have hshape := row.shape hnull
  rw [htype] at hshape
  obtain ⟨id, hvalue⟩ := hshape
  rw [hvalue]
  rfl

theorem scanString_value (htype : c.type = .text) (hnull : c.nullable = false) :
    (row.value c).scanString = .ok (row.value c).asString := by
  have hshape := row.shape hnull
  rw [htype] at hshape
  obtain ⟨s, hvalue⟩ := hshape
  rw [hvalue]
  rfl

theorem scanNullString_value (htype : c.type = .text) :
    ∃ s, (row.value c).scanNullString = .ok s ∧ s.getD "" = (row.value c).asString := by
  rcases row.null_or_shape (c := c) with hvalue | hshape
  · rw [hvalue]
    exact ⟨none, rfl, rfl⟩
  · rw [htype] at hshape
    obtain ⟨s, hvalue⟩ := hshape
    rw [hvalue]
    exact ⟨some s, rfl, rfl⟩

theorem scanBool_value (htype : c.type = .boolean) (hnull : c.nullable = false) :
    (row.value c).scanBool = .ok (row.value c).asBool := by
  have hshape := row.shape hnull
  rw [htype] at hshape
  obtain ⟨b, hvalue⟩ := hshape
  rw [hvalue]
  rfl

theorem scanInt_value (htype : c.type = .bigint ∨ c.type = .int) (hnull : c.nullable = false) :
    (row.value c).scanInt = .ok (row.value c).asInt := by
  have hshape := row.shape hnull
  have hinteger : ∃ n, row.value c = .integer n := by
    rcases htype with htype | htype <;> rw [htype] at hshape <;> exact hshape
  obtain ⟨n, hvalue⟩ := hinteger
  rw [hvalue]
  rfl

theorem scanTime_value (htype : c.type = .timestamptz) (hnull : c.nullable = false) :
    (row.value c).scanTime = .ok (row.value c).asTime := by
  have hshape := row.shape hnull
  rw [htype] at hshape
  obtain ⟨t, hvalue⟩ := hshape
  rw [hvalue]
  rfl

theorem scanNullTime_value (htype : c.type = .timestamptz) :
    (row.value c).scanNullTime = .ok (row.value c).asTime? := by
  rcases row.null_or_shape (c := c) with hvalue | hshape
  · rw [hvalue]
    rfl
  · rw [htype] at hshape
    obtain ⟨t, hvalue⟩ := hshape
    rw [hvalue]
    rfl

/-- The constraint on the state lets in the texts of states only. -/
theorem ofText_state : TransferState.ofText (row.value .state).asString = .ok row.transfer.state := by
  have hholds := row.holds .state
  obtain ⟨s, hvalue⟩ := row.shape (c := .state) rfl
  simp only [TransferColumn.holds, hvalue, TransferColumn.checks, reduceCtorEq, if_false,
    Bool.and_eq_true, decide_eq_true_eq, List.mem_cons, List.not_mem_nil, or_false] at hholds
  -- one of the six texts
  obtain ⟨-, rfl | rfl | rfl | rfl | rfl | rfl⟩ := hholds <;>
    simp only [transfer, hvalue, SqlValue.asString, TransferState.ofText, Except.toOption,
      Option.getD_some]

/-- What `GetTransferByID` scans off a row. -/
theorem scanTransfer_row : scanTransfer (getColumns.map row.value) = .ok row.transfer := by
  obtain ⟨strategy, hstrategy, hstrategy'⟩ := @scanNullString_value row .strategy rfl
  obtain ⟨state, hstate, hstate'⟩ := @scanNullString_value row .state rfl
  obtain ⟨errorMessage, herror, herror'⟩ := @scanNullString_value row .errorMessage rfl
  obtain ⟨createdBy, hby, hby'⟩ := @scanNullString_value row .createdBy rfl
  simp only [getColumns, List.map, scanTransfer, bind, Except.bind, hstrategy, hstate, herror, hby,
    @scanUUID_value row .id rfl rfl, @scanString_value row .sourceCluster rfl rfl,
    @scanString_value row .sourcePVC rfl rfl, @scanString_value row .destinationCluster rfl rfl,
    @scanString_value row .destinationPVC rfl rfl, @scanBool_value row .allowOverwrite rfl rfl,
    @scanInt_value row .bytesTransferred (.inl rfl) rfl, @scanInt_value row .bytesTotal (.inl rfl) rfl,
    @scanInt_value row .chunksCompleted (.inr rfl) rfl, @scanInt_value row .chunksTotal (.inr rfl) rfl,
    @scanInt_value row .retryCount (.inr rfl) rfl, @scanInt_value row .retryMax (.inr rfl) rfl,
    @scanTime_value row .createdAt rfl rfl, @scanNullTime_value row .startedAt rfl,
    @scanNullTime_value row .completedAt rfl, hstrategy', hstate', herror', hby', ofText_state]
  rfl

end TransferRow

/-- The two lists of variables stand in one order. -/
theorem scanListed_eq (value : TransferColumn → SqlValue) (count : Int) :
    scanListed (listColumns.map value ++ [.integer count]) =
      (fun t => (t, count)) <$> scanTransfer (getColumns.map value) := by
  simp only [listColumns, getColumns, List.map, List.cons_append, List.nil_append, scanListed,
    scanTransfer, map_bind]
  rfl

/-- What `ListTransfers` scans off a row. -/
theorem scanListed_row (row : TransferRow) (count : Int) :
    scanListed (listColumns.map row.value ++ [.integer count]) = .ok (row.transfer, count) := by
  rw [scanListed_eq, TransferRow.scanTransfer_row]
  rfl

/-! ## Records as rows -/

/-- The fields are in the range of their columns. -/
def Transfer.inRange (t : Transfer) : Bool :=
  t.storable && storableBigint t.bytesTransferred && storableBigint t.bytesTotal

theorem ofText_text (state : TransferState) : TransferState.ofText state.text = .ok state := by
  cases state <;> rfl

theorem scanNullString_nullableString (s : String) :
    ∃ s', (nullableString s).truncated.scanNullString = .ok s' ∧ s'.getD "" = s := by
  unfold nullableString
  by_cases hs : s = ""
  · exact ⟨none, by rw [if_pos hs]; rfl, hs.symm⟩
  · exact ⟨some s, by rw [if_neg hs]; rfl, rfl⟩

theorem scanNullTime_nullableTime (t : Option Time) :
    (nullableTime t).truncated.scanNullTime = .ok (t.map truncatedTime) := by
  cases t <;> rfl

/-- The parameters, scanned as they have been brought. -/
theorem scanTransfer_insertParams (t : Transfer) :
    scanTransfer ((insertParams t).map SqlValue.truncated) = .ok t.truncated := by
  obtain ⟨strategy, hstrategy, hstrategy'⟩ := scanNullString_nullableString t.strategy.text
  obtain ⟨errorMessage, herror, herror'⟩ := scanNullString_nullableString t.errorMessage
  obtain ⟨createdBy, hby, hby'⟩ := scanNullString_nullableString t.createdBy
  simp only [insertParams, List.map, scanTransfer, bind, Except.bind, hstrategy, herror, hby,
    scanNullTime_nullableTime, hstrategy', herror', hby', SqlValue.truncated_uuid,
    SqlValue.truncated_text, SqlValue.truncated_boolean, SqlValue.truncated_integer,
    SqlValue.truncated_timestamp, SqlValue.scanUUID_uuid, SqlValue.scanString_text,
    SqlValue.scanNullString_text, SqlValue.scanBool_boolean, SqlValue.scanInt_integer,
    SqlValue.scanTime_timestamp, Option.getD_some, ofText_text]
  rfl

theorem holds_of_type {c : TransferColumn} {v : SqlValue} (hnull : v ≠ .null)
    (htype : c.type.holds v = true) (hchecks : c.checks v = true) : c.holds v = true := by
  rw [TransferColumn.holds, if_neg hnull, htype, hchecks]
  rfl

theorem holds_nullableString {c : TransferColumn} {s : String} (hnull : c.nullable = true)
    (htype : c.type = .text) (hchecks : c.checks (.text s) = true) (hs : storableText s = true) :
    c.holds (nullableString s).truncated = true := by
  unfold nullableString
  by_cases hempty : s = ""
  · rw [if_pos hempty]
    exact hnull
  · rw [if_neg hempty]
    simp [TransferColumn.holds, SqlValue.truncated, htype, ColumnType.holds, hs, hchecks]

theorem truncatedTime_truncatedTime (t : Time) : truncatedTime (truncatedTime t) = truncatedTime t := by
  unfold truncatedTime
  rw [Int.mul_ediv_cancel _ (by decide)]

theorem holds_nullableTime {c : TransferColumn} (hnull : c.nullable = true)
    (htype : c.type = .timestamptz)
    (hchecks : ∀ t, c.checks (.timestamp t) = true) (t : Option Time) :
    c.holds (nullableTime t).truncated = true := by
  cases t with
  | none => exact hnull
  | some t =>
    simp [nullableTime, TransferColumn.holds, SqlValue.truncated, htype, ColumnType.holds, hchecks,
      truncatedTime_truncatedTime]

theorem checks_state (state : TransferState) :
    storableText state.text = true ∧ TransferColumn.checks .state (.text state.text) = true := by
  cases state <;> decide

/-- The columns hold the parameters. -/
theorem holds_insertParams {t : Transfer} (ht : t.inRange = true) :
    ∀ p ∈ insertColumns.zip ((insertParams t).map SqlValue.truncated), p.1.holds p.2 = true := by
  simp only [Transfer.inRange, Transfer.storable, Bool.and_eq_true] at ht
  obtain ⟨⟨⟨⟨⟨⟨⟨⟨⟨⟨⟨⟨hsourceCluster, hsourcePVC⟩, hdestinationCluster⟩, hdestinationPVC⟩,
    hstrategy⟩, herror⟩, hby⟩, hchunksCompleted⟩, hchunksTotal⟩, hretryCount⟩, hretryMax⟩,
    hbytesTransferred⟩, hbytesTotal⟩ := ht
  have hstrategy := holds_nullableString (c := .strategy) rfl rfl rfl hstrategy
  have herror := holds_nullableString (c := .errorMessage) rfl rfl rfl herror
  have hby := holds_nullableString (c := .createdBy) rfl rfl rfl hby
  have hstarted := holds_nullableTime (c := .startedAt) rfl rfl (fun _ => rfl) t.startedAt
  have hcompleted := holds_nullableTime (c := .completedAt) rfl rfl (fun _ => rfl) t.completedAt
  have hstate := checks_state t.state
  have htext {c : TransferColumn} {s : String} (htype : c.type.holds (.text s) = true)
      (hchecks : c.checks (.text s) = true) : c.holds (.text s) = true :=
    holds_of_type SqlValue.noConfusion htype hchecks
  have hinteger {c : TransferColumn} {n : Int} (htype : c.type.holds (.integer n) = true)
      (hchecks : c.checks (.integer n) = true) : c.holds (.integer n) = true :=
    holds_of_type SqlValue.noConfusion htype hchecks
  have hcreated : TransferColumn.holds .createdAt (.timestamp (truncatedTime t.createdAt)) = true :=
    holds_of_type SqlValue.noConfusion (decide_eq_true (truncatedTime_truncatedTime _)) rfl
  simp only [insertColumns, insertParams, List.map, List.zip_cons_cons, List.zip_nil_left,
    List.forall_mem_cons, SqlValue.truncated_uuid, SqlValue.truncated_text, SqlValue.truncated_boolean,
    SqlValue.truncated_integer, SqlValue.truncated_timestamp]
  exact ⟨rfl, htext hsourceCluster rfl, htext hsourcePVC rfl, htext hdestinationCluster rfl,
    htext hdestinationPVC rfl, hstrategy, htext hstate.1 hstate.2, rfl, hinteger hbytesTransferred rfl,
    hinteger hbytesTotal rfl, hinteger hchunksCompleted rfl, hinteger hchunksTotal rfl, herror,
    hinteger hretryCount rfl, hinteger hretryMax rfl, hby, hcreated, hstarted, hcompleted,
    List.forall_mem_nil _⟩

/-- The row of a record. -/
theorem exists_row {t : Transfer} (ht : t.inRange = true) (now : Time) :
    ∃ row, TransferRow.of (assign insertColumns ((insertParams t).map SqlValue.truncated)
        (TransferColumn.default now)) = some row ∧ row.transfer = t.truncated := by
  have hlength : insertColumns.length = ((insertParams t).map SqlValue.truncated).length := rfl
  -- no column is left to its default
  have hall : ∀ c, c ∈ insertColumns := TransferColumn.mem_all
  have hholds : ∀ c : TransferColumn, c.holds (assign insertColumns
      ((insertParams t).map SqlValue.truncated) (TransferColumn.default now) c) = true := fun c =>
    holds_insertParams ht _ (assign_mem_zip (hall c) hlength)
  refine ⟨⟨_, hholds⟩, dif_pos hholds, ?_⟩
  have hscan : scanTransfer (getColumns.map _) = .ok (TransferRow.mk _ hholds).transfer :=
    TransferRow.scanTransfer_row
  -- the columns are read in the order in which they have been written
  have hcolumns : getColumns = insertColumns := rfl
  rw [hcolumns, map_assign (by decide) hlength, scanTransfer_insertParams] at hscan
  exact (Except.ok.inj hscan).symm

/-! ## What the readers return -/

theorem TransferRow.value_id (row : TransferRow) : row.value .id = .uuid row.id := by
  obtain ⟨id, hvalue⟩ := row.shape (c := .id) rfl
  rw [TransferRow.id, hvalue]
  rfl

namespace TransferTable

variable {table : TransferTable} {order : Arrangement newestRowFirst} {filter : TransferFilter}

theorem getTransferByID_eq (table : TransferTable) (id : UUID) :
    table.getTransferByID id = .ok ((table.find? id).map TransferRow.transfer) := by
  unfold getTransferByID
  cases table.find? id with
  | none => rfl
  | some row =>
    dsimp only
    rw [TransferRow.scanTransfer_row]
    rfl

/-- The loop over the rows scans the counted records in them. -/
theorem scanRows_eq (rows : List (TransferRow × Nat)) (acc : List Transfer × Nat) :
    scanRows acc.1 acc.2 rows =
      .ok ((scanAll (rows.map fun r => (r.1.transfer, r.2)) acc).map id Int.ofNat) := by
  induction rows generalizing acc with
  | nil => rfl
  | cons r rows ih =>
    obtain ⟨row, count⟩ := r
    rw [scanRows, scanListed_row, List.map_cons, scanAll, ← ih]
    rfl

theorem listTransfers_eq (hfilter : filter.storable = true) :
    table.listTransfers order filter = .ok ((scanAll ((table.pageRows order filter).map fun r =>
      (r.1.transfer, r.2)) ([], 0)).map id Int.ofNat) := by
  rw [listTransfers, if_pos hfilter, ← scanRows_eq]
  rfl

/-- A page is the records in its rows. -/
theorem eq_of_listTransfers {page : List Transfer × Int}
    (hpage : table.listTransfers order filter = .ok page) :
    page.1 = (table.pageRows order filter).map fun r => r.1.transfer := by
  by_cases hfilter : filter.storable
  · rw [listTransfers_eq hfilter] at hpage
    rw [← Except.ok.inj hpage, Prod.map_fst, id, fst_scanAll, List.nil_append, List.map_map]
    rfl
  · rw [listTransfers, if_neg hfilter] at hpage
    cases hpage

theorem mem_of_pageRows {r : TransferRow × Nat} (hr : r ∈ table.pageRows order filter) :
    r.1 ∈ table.rows := by
  have hcounted := List.mem_of_mem_drop (List.mem_of_mem_take hr)
  obtain ⟨row, hrow, rfl⟩ := List.mem_map.mp hcounted
  exact List.mem_of_mem_filter ((order.perm _).mem_iff.mp hrow)

/-- The readers agree on every table. -/
theorem getTransferByID_of_listTransfers {page : List Transfer × Int}
    (hpage : table.listTransfers order filter = .ok page) {t : Transfer} (ht : t ∈ page.1) :
    table.getTransferByID t.id = .ok (some t) := by
  rw [eq_of_listTransfers hpage] at ht
  obtain ⟨r, hr, rfl⟩ := List.mem_map.mp ht
  have hfind : table.find? r.1.id = some r.1 := Table.find?_of_mem (mem_of_pageRows hr)
  rw [getTransferByID_eq, show r.1.transfer.id = r.1.id from rfl, hfind]
  rfl

theorem getTransferByID_eq_none (table : TransferTable) (id : UUID) :
    table.getTransferByID id = .ok none ↔ ∀ row ∈ table.rows, row.value .id ≠ .uuid id := by
  rw [getTransferByID_eq, Except.ok.injEq, Option.map_eq_none_iff, Table.find?_eq_none, List.mem_map,
    not_exists]
  apply forall_congr'
  intro row
  rw [not_and, TransferRow.value_id, ne_eq, SqlValue.uuid.injEq]

end TransferTable

/-- A record in the range of its columns, whose identifier is new, is stored and read back by both
    readers; they agree after any further statements, and `GetTransferByID` finds what there is. -/
theorem codec_of_createTransfer {table : TransferTable} {t : Transfer} (now : Time)
    (ht : t.inRange = true) (hnew : ∀ row ∈ table.rows, row.value .id ≠ .uuid t.id) :
    ∃ table', table.exec now (.createTransfer t) = (.ok (), table') ∧
      table'.getTransferByID t.id = .ok (some t.truncated) ∧
      (∀ order filter page, table'.listTransfers order filter = .ok page →
        (∀ r ∈ table'.pageRows order filter, r.1.id = t.id → t.truncated ∈ page.1) ∧
          ∀ t' ∈ page.1, t'.id = t.id → t' = t.truncated) ∧
      (∀ calls order filter page, (table'.run calls).listTransfers order filter = .ok page →
        ∀ t' ∈ page.1, (table'.run calls).getTransferByID t'.id = .ok (some t')) ∧
      ∀ calls id, (table'.run calls).getTransferByID id = .ok none ↔
        ∀ row ∈ (table'.run calls).rows, row.value .id ≠ .uuid id := by
  obtain ⟨row, hrow, htransfer⟩ := exists_row ht now
  have hid : row.id = t.id := congrArg Transfer.id htransfer
  have hfresh : table.find? row.id = none := by
    rw [Table.find?_eq_none]
    intro hmem
    obtain ⟨row', hrow', hsame⟩ := List.mem_map.mp hmem
    exact hnew row' hrow' (by rw [TransferRow.value_id, hsame, hid])
  obtain ⟨table', htable'⟩ := Table.insert?_isSome hfresh
  have hread : TransferTable.getTransferByID table' t.id = .ok (some t.truncated) := by
    rw [TransferTable.getTransferByID_eq, Table.find?_insert? htable', if_pos hid, Option.map_some,
      htransfer]
  refine ⟨table', ?_, hread, ?_, ?_, ?_⟩
  · rw [TransferTable.exec, TransferTable.insert, hrow]
    -- no row has the key, so the row is added
    dsimp only
    rw [htable']
  · intro order filter page hpage
    -- what is listed under the identifier is what the other reader returns
    have hsame : ∀ t' ∈ page.1, t'.id = t.id → t' = t.truncated := by
      intro t' ht' hid'
      have hread' := TransferTable.getTransferByID_of_listTransfers hpage ht'
      rw [hid', hread] at hread'
      exact (Option.some.inj (Except.ok.inj hread')).symm
    refine ⟨fun r hr hid' => ?_, hsame⟩
    have hmem : r.1.transfer ∈ page.1 := by
      rw [TransferTable.eq_of_listTransfers hpage]
      exact List.mem_map_of_mem hr
    exact hsame _ hmem hid' ▸ hmem
  · intro calls order filter page hpage t' ht'
    exact TransferTable.getTransferByID_of_listTransfers hpage ht'
  · intro calls id
    exact TransferTable.getTransferByID_eq_none _ id

/-- A transfer with an error and without a strategy, started between two microseconds. -/
def startedTransfer : Transfer :=
  { createdTransfer 7 1500 with
    errorMessage := "disk full"
    startedAt := some 2999 }

theorem codec_startedTransfer :
    ∃ table', TransferTable.exec 0 Table.empty (.createTransfer startedTransfer) = (.ok (), table') ∧
      TransferTable.getTransferByID table' 7 = .ok (some startedTransfer.truncated) ∧
        startedTransfer.truncated.startedAt = some 2000 := by
  have hinRange : startedTransfer.inRange = true := by decide
  have hnew : ∀ row ∈ (Table.empty : TransferTable).rows, row.value .id ≠ .uuid startedTransfer.id :=
    List.forall_mem_nil _
  obtain ⟨table', hexec, hread, -⟩ := codec_of_createTransfer 0 hinRange hnew
  exact ⟨table', hexec, hread, by decide⟩

end Katapult
