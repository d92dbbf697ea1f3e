/-
  Katapult.Testutil.MemRepos

  The in-memory repositories of the unit tests.

  A Go map yields its values in any order, and `sort.Slice` is not stable: a
  list query of these repositories has an arrangement of its ties as well.
-/

import Katapult.Store.Listing

namespace Katapult

open Keyed Paging

/-- A transfer, with a state that nothing has checked: a string in the source. -/
structure RawTransfer where
  id : UUID
  sourceCluster : String
  sourcePVC : String
  destinationCluster : String
  destinationPVC : String
  strategy : TransferStrategy
  state : String
  allowOverwrite : Bool
  bytesTransferred : Int
  bytesTotal : Int
  chunksCompleted : Int
  chunksTotal : Int
  errorMessage : String
  retryCount : Int
  retryMax : Int
  createdBy : String
  createdAt : Time
  startedAt : Option Time
  completedAt : Option Time

def Transfer.raw (t : Transfer) : RawTransfer where
  id := t.id
  sourceCluster := t.sourceCluster
  sourcePVC := t.sourcePVC
  destinationCluster := t.destinationCluster
  destinationPVC := t.destinationPVC
  strategy := t.strategy
  state := t.state.text
  allowOverwrite := t.allowOverwrite
  bytesTransferred := t.bytesTransferred
  bytesTotal := t.bytesTotal
  chunksCompleted := t.chunksCompleted
  chunksTotal := t.chunksTotal
  errorMessage := t.errorMessage
  retryCount := t.retryCount
  retryMax := t.retryMax
  createdBy := t.createdBy
  createdAt := t.createdAt
  startedAt := t.startedAt
  completedAt := t.completedAt

namespace RawTransfer

/-- The same transfer in one of the six states. -/
def withState (t : RawTransfer) (state : TransferState) : Transfer where
  id := t.id
  sourceCluster := t.sourceCluster
  sourcePVC := t.sourcePVC
  destinationCluster := t.destinationCluster
  destinationPVC := t.destinationPVC
  strategy := t.strategy
  state := state
  allowOverwrite := t.allowOverwrite
  bytesTransferred := t.bytesTransferred
  bytesTotal := t.bytesTotal
  chunksCompleted := t.chunksCompleted
  chunksTotal := t.chunksTotal
  errorMessage := t.errorMessage
  retryCount := t.retryCount
  retryMax := t.retryMax
  createdBy := t.createdBy
  createdAt := t.createdAt
  startedAt := t.startedAt
  completedAt := t.completedAt

/-- `CreatedAt` descending. -/
def newestFirst (a b : RawTransfer) : Prop := b.createdAt ≤ a.createdAt

end RawTransfer

def TransferFilter.admitsRaw (filter : TransferFilter) (t : RawTransfer) : Bool :=
  (filter.state.all fun state => t.state = state) &&
    filter.cluster.all fun cluster => t.sourceCluster = cluster || t.destinationCluster = cluster

/-- The methods of the interface `TransferRepository`. -/
inductive TransferRepositoryCall where
  | createTransfer (transfer : RawTransfer)
  | getTransferByID (id : UUID)
  | updateTransferState (id : UUID) (state : String)
  | updateTransferStrategy (id : UUID) (strategy : TransferStrategy)
  | updateTransferProgress (id : UUID) (bytesTransferred bytesTotal : Int)
      (chunksCompleted chunksTotal : Int)
  | updateTransferStarted (id : UUID)
  | updateTransferCompleted (id : UUID)
  | updateTransferFailed (id : UUID) (errorMessage : String)
  | incrementRetryCount (id : UUID)
  | createTransferEvent (event : TransferEvent)
  | getTransferEvents (transferID : UUID)
  | listTransfers (filter : TransferFilter)

def TransferRepositoryCall.Ans : TransferRepositoryCall → Type
  | .getTransferByID _ => Except Err (Option RawTransfer)
  | .getTransferEvents _ => Except Err (List TransferEvent)
  | .listTransfers _ => Except Err (List RawTransfer × Nat)
  | _ => Except Err Unit

/-- The in-memory repository of transfers: `Transfers`, and `Events` by transfer.
    What it stores and returns are values: callers do not write to the maps and
    the times that an event or a transfer points to. -/
structure MemTransferRepo where
  transfers : Table UUID RawTransfer RawTransfer.id
  events : UUID → List TransferEvent

/-- The part of a sorted slice that both list methods return. -/
def sliceWindow {ρ : Type} (limit offset : Int) (all : List ρ) : List ρ :=
  let rest :=
    if 0 < offset ∧ offset < all.length then all.drop offset.toNat
    else if all.length ≤ offset then []
    else all
  let limit := if limit ≤ 0 then 50 else limit
  if limit < rest.length then rest.take limit.toNat else rest

/-- It is the window that the queries ask for. -/
theorem sliceWindow_eq {ρ : Type} (limit offset : Int) (all : List ρ) :
    sliceWindow limit offset all = window (queryLimit limit) (queryOffset offset) all := by
  have hrest : (if 0 < offset ∧ offset < all.length then all.drop offset.toNat
      else if all.length ≤ offset then [] else all) = all.drop (queryOffset offset) := by
    rw [queryOffset_eq]
    split
    · rfl
    split
    · rw [List.drop_eq_nil_of_le (by omega)]
    · have hzero : offset.toNat = 0 := by omega
      rw [hzero, List.drop_zero]
  unfold sliceWindow
  dsimp only
  rw [hrest, window, queryLimit]
  generalize hlimit : (if limit ≤ 0 then 50 else limit) = n
  have hpos : 0 < n := by
    rw [← hlimit]
    split <;> omega
  by_cases hmore : n < (all.drop (queryOffset offset)).length
  · rw [if_pos hmore]
  · rw [if_neg hmore, List.take_of_length_le (by omega)]

namespace MemTransferRepo

variable [UUIDText]

def newMemTransferRepo : MemTransferRepo := ⟨.empty, fun _ => []⟩

/-- A method that changes a stored transfer. -/
def update (m : MemTransferRepo) (id : UUID) (set : RawTransfer → RawTransfer) :
    Except Err Unit × MemTransferRepo :=
  match m.transfers.find? id with
  | none => (.error ("transfer " ++ id.text ++ " not found"), m)
  | some t => (.ok (), { m with transfers := m.transfers.put (set t) })

theorem update_of_none {m : MemTransferRepo} {id : UUID} (h : m.transfers.find? id = none)
    (set : RawTransfer → RawTransfer) :
    m.update id set = (.error ("transfer " ++ id.text ++ " not found"), m) := by
  rw [update]
  split
  · rfl
  · rename_i t ht
    rw [h] at ht
    cases ht

theorem update_of_some {m : MemTransferRepo} {id : UUID} {t : RawTransfer}
    (h : m.transfers.find? id = some t) (set : RawTransfer → RawTransfer) :
    m.update id set = (.ok (), { m with transfers := m.transfers.put (set t) }) := by
  rw [update]
  split
  · rename_i hnone
    rw [h] at hnone
    cases hnone
  · rename_i t' ht'
    rw [h] at ht'
    cases ht'
    rfl

omit [UUIDText] in
/-- The stored transfers that match a filter. -/
def matching (m : MemTransferRepo) (filter : TransferFilter) : List RawTransfer :=
  m.transfers.rows.filter filter.admitsRaw

omit [UUIDText] in
def listTransfers (order : Arrangement RawTransfer.newestFirst) (m : MemTransferRepo)
    (filter : TransferFilter) : List RawTransfer × Nat :=
  let all := order.arrange (m.matching filter)
  (sliceWindow filter.limit filter.offset all, all.length)

/-- The methods; `now` is what `time.Now` returns. -/
def perform (now : Time) (order : Arrangement RawTransfer.newestFirst) (m : MemTransferRepo) :
    (call : TransferRepositoryCall) → call.Ans × MemTransferRepo
  | .createTransfer t => (.ok (), { m with transfers := m.transfers.put t })
  | .getTransferByID id => (.ok (m.transfers.find? id), m)
  | .updateTransferState id state => m.update id fun t => { t with state }
  | .updateTransferStrategy id strategy => m.update id fun t => { t with strategy }
  | .updateTransferProgress id bytesTransferred bytesTotal chunksCompleted chunksTotal =>
      m.update id fun t => { t with bytesTransferred, bytesTotal, chunksCompleted, chunksTotal }
  | .updateTransferStarted id => m.update id fun t => { t with startedAt := some now }
  | .updateTransferCompleted id => m.update id fun t => { t with completedAt := some now }
  | .updateTransferFailed id errorMessage =>
      m.update id fun t =>
        { t with state := TransferState.failed.text, errorMessage, completedAt := some now }
  | .incrementRetryCount id => m.update id fun t => { t with retryCount := t.retryCount + 1 }
  | .createTransferEvent e =>
      (.ok (), { m with events := Function.update m.events e.transferID (m.events e.transferID ++ [e]) })
  | .getTransferEvents transferID => (.ok (m.events transferID), m)
  | .listTransfers filter => (.ok (m.listTransfers order filter), m)

end MemTransferRepo

/-- The agents of the in-memory registry. -/
structure MemRepo where
  agents : Table UUID Agent fun a => a.id

namespace MemRepo

/-- The stored agents that match a filter. -/
def matching (m : MemRepo) (filter : AgentFilter) : List Agent :=
  m.agents.rows.filter fun a => filter.admits a.toAgentRow

/-- Cluster first, then node, as Go compares strings. -/
def byPlaceOf (a b : Agent) : Prop := byPlace .codePoints a.toAgentRow b.toAgentRow

def listAgents (order : Arrangement byPlaceOf) (m : MemRepo) (filter : AgentFilter) :
    List Agent × Nat :=
  let all := order.arrange (m.matching filter)
  (sliceWindow filter.limit filter.offset all, all.length)

end MemRepo

end Katapult
