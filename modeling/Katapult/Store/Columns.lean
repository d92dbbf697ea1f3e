/-
  Katapult.Store.Columns

  The PostgreSQL repository of transfers with the types of its columns.

  A timestamp is stored in whole microseconds, a count must fit into four bytes,
  a text has no NUL.  A call with a value that its column cannot hold is refused;
  the others are those of `execRepo`, on the values that the columns hold.
-/

import Katapult.Store.Listing

namespace Katapult

open Keyed Paging

/-- A timestamp, as a `TIMESTAMPTZ` column holds it. -/
def truncatedTime (t : Time) : Time := t / 1000 * 1000

/-- A text that a `TEXT` or `JSONB` column can hold. -/
def storableText (s : String) : Bool := Char.ofNat 0 ∉ s.toList

/-- A number that an `INT` column can hold. -/
def storableInt (n : Int) : Bool := -2 ^ 31 ≤ n ∧ n < 2 ^ 31

namespace Transfer

def storable (t : Transfer) : Bool :=
  storableText t.sourceCluster && storableText t.sourcePVC && storableText t.destinationCluster &&
    storableText t.destinationPVC && storableText t.strategy.text && storableText t.errorMessage &&
    storableText t.createdBy && storableInt t.chunksCompleted && storableInt t.chunksTotal &&
    storableInt t.retryCount && storableInt t.retryMax

/-- The record, as its row holds it. -/
def truncated (t : Transfer) : Transfer :=
  { t with
    createdAt := truncatedTime t.createdAt
    startedAt := t.startedAt.map truncatedTime
    completedAt := t.completedAt.map truncatedTime }

end Transfer

namespace TransferEvent

def storable (e : TransferEvent) : Bool :=
  storableText e.eventType.text && storableText e.message &&
    (e.metadata.getD []).all fun entry => storableText entry.1 && storableText entry.2

/-- The event, as it is read back: a nil map is stored as `{}`. -/
def truncated (e : TransferEvent) : TransferEvent :=
  { e with metadata := some (e.metadata.getD []), createdAt := truncatedTime e.createdAt }

end TransferEvent

def TransferFilter.storable (filter : TransferFilter) : Bool :=
  (filter.state.all storableText) && filter.cluster.all storableText

/-- A statement with these arguments, if the columns can hold them. -/
def refuseUnless (storable : Bool) (s : Store) (run : Except Err Unit × Store) :
    Except Err Unit × Store :=
  if storable then run else (.error "value out of the range of its column", s)

@[simp] theorem refuseUnless_true (s : Store) (run : Except Err Unit × Store) :
    refuseUnless true s run = run := rfl

@[simp] theorem refuseUnless_false (s : Store) (run : Except Err Unit × Store) :
    refuseUnless false s run = (.error "value out of the range of its column", s) := rfl

/-- The environment of a call that does not fail. -/
def columnEnv (now : Time) : Env := { now := truncatedTime now }

/-- The calls of the engine, when the database is up; `now` is what `time.Now` returns. -/
def execColumns (now : Time) : (call : RepoCall) → Store → call.Ans × Store
  | .createTransfer t, s =>
      refuseUnless t.storable s (execRepo (columnEnv now) (.createTransfer t.truncated) s)
  | .getTransferByID id, s => execRepo (columnEnv now) (.getTransferByID id) s
  | .updateTransferState id state, s => execRepo (columnEnv now) (.updateTransferState id state) s
  | .updateTransferStrategy id strategy, s =>
      refuseUnless (storableText strategy.text) s
        (execRepo (columnEnv now) (.updateTransferStrategy id strategy) s)
  | .updateTransferProgress id bytesTransferred bytesTotal chunksCompleted chunksTotal, s =>
      refuseUnless (storableInt chunksCompleted && storableInt chunksTotal) s
        (execRepo (columnEnv now)
          (.updateTransferProgress id bytesTransferred bytesTotal chunksCompleted chunksTotal) s)
  | .updateTransferStarted id, s => execRepo (columnEnv now) (.updateTransferStarted id) s
  | .updateTransferCompleted id, s => execRepo (columnEnv now) (.updateTransferCompleted id) s
  | .updateTransferFailed id errorMessage, s =>
      refuseUnless (storableText errorMessage) s
        (execRepo (columnEnv now) (.updateTransferFailed id errorMessage) s)
  | .incrementRetryCount id, s =>
      -- the sum is computed for the row that is there
      refuseUnless ((s.row id).all fun t => storableInt (t.retryCount + 1)) s
        (execRepo (columnEnv now) (.incrementRetryCount id) s)
  | .createTransferEvent e, s =>
      refuseUnless e.storable s (execRepo (columnEnv now) (.createTransferEvent e.truncated) s)

/-- `ORDER BY created_at ASC`. -/
def oldestFirst (a b : TransferEvent) : Prop := a.createdAt ≤ b.createdAt

instance : DecidableRel oldestFirst := fun a b =>
  inferInstanceAs (Decidable (a.createdAt ≤ b.createdAt))

theorem preordering_oldestFirst : Preordering oldestFirst where
  total a b := le_total a.createdAt b.createdAt
  trans _ _ _ := le_trans

/-- The events of a transfer. -/
def Store.getTransferEvents (order : Arrangement oldestFirst) (s : Store) (transferID : UUID) :
    List TransferEvent :=
  order.arrange (s.timeline transferID)

/-- A list query with these arguments. -/
def Store.listColumns (order : Arrangement newestFirst) (s : Store) (filter : TransferFilter) :
    Except Err (List Transfer × Nat) :=
  if filter.storable then .ok (s.listTransfers order filter)
  else .error "invalid byte sequence for encoding \"UTF8\": 0x00"

end Katapult
