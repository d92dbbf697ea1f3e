/-
  Katapult.Store.AgentStatements

  The two transactions of the agent repository that replace an inventory, as the
  sequences of statements that they are, on a database that interleaves the
  statements of several transactions.

  A `DELETE` takes more than one step: it begins, and then comes to its rows one
  by one.  `Database.Blocked` says which steps have to wait for another
  transaction.  A foreign key check needs no more than the lock on the agent that
  either transaction has by then, so nothing waits for one.
-/

import Katapult.Mvcc.Versions
import Katapult.Registry.Place

namespace Katapult

open Effect Mvcc

/-- The tables `agents` and `agent_pvcs`, and the transactions on them. -/
structure Database (τ : Type) where
  status : τ → TxStatus
  agents : List (Cell τ AgentRow)
  pvcs : List (Version τ PVCRow)

variable {τ : Type}

/-- A registry, before any of the transactions. -/
def Database.ofRegistry (τ : Type) (reg : Registry) : Database τ where
  status _ := .active
  agents := reg.agents.rows.map fun r => ⟨some r, none⟩
  pvcs := reg.pvcs.rows.map fun p => ⟨p, none, none⟩

/-- The stored inventory of an agent. -/
def Database.inventory (db : Database τ) (agentID : UUID) : List PVCInfo :=
  ((stored db.status db.pvcs).filter (·.agentID = agentID)).map PVCRow.pvc

/-! ## Statements -/

inductive Statement where
  | begin
  /-- `DELETE FROM agent_pvcs WHERE agent_id = (SELECT id FROM agents WHERE ..)` begins. -/
  | deleteAt (place : String × String)
  /-- `DELETE FROM agent_pvcs WHERE agent_id = $1` begins. -/
  | deleteOf (agentID : UUID)
  /-- A `DELETE` comes to one of its rows. -/
  | deleteRow (n : Nat)
  /-- `INSERT INTO agents .. ON CONFLICT (cluster_id, node_name) DO UPDATE`. -/
  | upsertAgent (row : AgentRow)
  /-- `UPDATE agents SET healthy = TRUE, .. WHERE id = $1`. -/
  | updateAgent (now : Time) (agentID : UUID)
  /-- `INSERT INTO agent_pvcs`. -/
  | insertPVC (p : PVCRow)
  | commit
  | rollback
  deriving DecidableEq

/-- A statement of a transaction. -/
structure SqlCall (τ : Type) where
  tx : τ
  statement : Statement
  deriving DecidableEq

def Statement.Ans : Statement → Type
  | .deleteAt _ | .deleteOf _ => Except Err (List Nat)
  | .begin | .deleteRow _ | .upsertAgent _ | .updateAgent .. | .insertPVC _ | .commit =>
      Except Err Unit
  | .rollback => Unit

def SqlCall.Ans (c : SqlCall τ) : Type := c.statement.Ans

/-- Code of the repository. -/
abbrev Sql (τ α : Type) : Type := Prog (SqlCall τ) SqlCall.Ans α

abbrev SqlEv (τ : Type) : Type := Ev (SqlCall τ) SqlCall.Ans

namespace Database

variable [DecidableEq τ]

/-- The agents that a transaction finds. -/
def agentsSeen (db : Database τ) (tx : τ) : List AgentRow := db.agents.filterMap (Cell.seenBy tx)

/-- The rows that a `DELETE` finds when it begins. -/
def findPVCs (db : Database τ) (tx : τ) (agentID : UUID) : List Nat :=
  scan (sees db.status tx) (·.agentID = agentID) db.pvcs

def findPVCsAt (db : Database τ) (tx : τ) (place : String × String) : List Nat :=
  match (db.agentsSeen tx).find? (·.place = place) with
  | none => []
  | some r => db.findPVCs tx r.id

/-- A row in the same place keeps its `registered_at`, and takes the rest. -/
def upsertAgent (tx : τ) (r : AgentRow) (db : Database τ) : Except Err (Database τ) :=
  -- the identifier belongs to an agent in another place
  if (db.agentsSeen tx).any fun other => other.place ≠ r.place ∧ other.id = r.id then
    .error "duplicate key value violates unique constraint \"agents_pkey\""
  else
    match (db.agentsSeen tx).find? (·.place = r.place) with
    | none => .ok { db with agents := db.agents ++ [⟨none, some (tx, r)⟩] }
    | some old =>
      -- a new identifier, while volumes refer to the old one
      if old.id ≠ r.id ∧ db.findPVCs tx old.id ≠ [] then
        .error "update or delete on table \"agents\" violates foreign key constraint"
      else .ok { db with agents := db.agents.map (Cell.write tx (·.place = r.place) r.overwrite) }

def updateAgent (tx : τ) (now : Time) (agentID : UUID) (db : Database τ) : Database τ :=
  { db with agents := db.agents.map (Cell.write tx (·.id = agentID) (AgentRow.setHealthy now)) }

/-- Insert a row, unless its agent is missing or its key is taken. -/
def insertPVC (tx : τ) (p : PVCRow) (db : Database τ) : Except Err (Database τ) :=
  if (db.agentsSeen tx).all fun r => r.id ≠ p.agentID then
    .error "insert or update on table \"agent_pvcs\" violates foreign key constraint"
  else if db.pvcs.any fun v => v.row.key = p.key && v.visible (sees db.status tx) then
    .error "duplicate key value violates unique constraint \"agent_pvcs_pkey\""
  else .ok { db with pvcs := Mvcc.insert tx p db.pvcs }

/-- A transaction ends. -/
def commit (tx : τ) (db : Database τ) : Database τ :=
  { db with
    status := Function.update db.status tx .committed
    agents := db.agents.map (Cell.commit tx) }

def abort (tx : τ) (db : Database τ) : Database τ :=
  { db with
    status := Function.update db.status tx .aborted
    agents := db.agents.map (Cell.rollback tx) }

/-- The step waits for another transaction. -/
def Blocked (db : Database τ) (tx : τ) : Statement → Bool
  | .deleteRow n => db.pvcs[n]?.any fun v => v.xmax.any (busy db.status tx)
  | .upsertAgent r => db.agents.any fun c =>
      c.heldFrom tx && c.mentions fun other => other.place = r.place ∨ other.id = r.id
  | .updateAgent _ agentID => db.agents.any fun c => c.heldFrom tx && c.row.any (·.id = agentID)
  | .insertPVC p => db.pvcs.any fun v => v.row.key = p.key && v.undecided db.status tx
  | .begin | .deleteAt _ | .deleteOf _ | .commit | .rollback => false

end Database

/-- The database, with an environment that can fail any statement, and a deadlock
    that it ends by failing one of them. -/
def execSql [DecidableEq τ] : Machine (SqlCall τ) SqlCall.Ans (Database τ) Env
  | env, ⟨_, .begin⟩, db => (env.answer (), db)
  | env, ⟨tx, .deleteAt place⟩, db => (env.answer (db.findPVCsAt tx place), db)
  | env, ⟨tx, .deleteOf agentID⟩, db => (env.answer (db.findPVCs tx agentID), db)
  | env, ⟨tx, .deleteRow n⟩, db =>
      env.write db fun db => .ok { db with pvcs := remove db.status tx n db.pvcs }
  | env, ⟨tx, .upsertAgent r⟩, db => env.write db (Database.upsertAgent tx r)
  | env, ⟨tx, .updateAgent now agentID⟩, db =>
      env.write db fun db => .ok (db.updateAgent tx now agentID)
  | env, ⟨tx, .insertPVC p⟩, db => env.write db (Database.insertPVC tx p)
  | env, ⟨tx, .commit⟩, db =>
      match env.fail with
      | some err => (.error err, db.abort tx)
      | none => (.ok (), db.commit tx)
  -- after a commit there is nothing to roll back
  | _, ⟨tx, .rollback⟩, db => ((), if db.status tx = .active then db.abort tx else db)

/-- A statement goes on once it does not have to wait, or fails while it waits. -/
def Granted [DecidableEq τ] (env : Env) (c : SqlCall τ) (db : Database τ) : Prop :=
  env.fail.isSome = true ∨ db.Blocked c.tx c.statement = false

instance [DecidableEq τ] (env : Env) (c : SqlCall τ) (db : Database τ) : Decidable (Granted env c db) :=
  inferInstanceAs (Decidable (_ ∨ _))

section

variable [DecidableEq τ] {db db' : Database τ} {tx : τ} {env : Env}

theorem Database.insertPVC_eq_ok {p : PVCRow} (h : db.insertPVC tx p = .ok db') :
    db' = { db with pvcs := Mvcc.insert tx p db.pvcs } := by
  unfold Database.insertPVC at h
  split at h
  · cases h
  split at h
  · cases h
  · exact (Except.ok.inj h).symm

theorem Database.status_upsertAgent {r : AgentRow} (h : db.upsertAgent tx r = .ok db') :
    db'.status = db.status := by
  unfold Database.upsertAgent at h
  split at h
  · cases h
  split at h
  · rw [← Except.ok.inj h]
  · split at h
    · cases h
    · rw [← Except.ok.inj h]

theorem execSql_commit_of_ok (hfail : env.fail = none) :
    execSql env ⟨tx, .commit⟩ db = (.ok (), db.commit tx) := by
  simp only [execSql, hfail]

theorem execSql_commit_of_fail {err : Err} (hfail : env.fail = some err) :
    execSql env ⟨tx, .commit⟩ db = (.error err, db.abort tx) := by
  simp only [execSql, hfail]

end

namespace Sql

def begin_ (tx : τ) : Sql τ (Except Err Unit) := .perform (⟨tx, .begin⟩ : SqlCall τ)
def deleteAt (tx : τ) (place : String × String) : Sql τ (Except Err (List Nat)) :=
  .perform (⟨tx, .deleteAt place⟩ : SqlCall τ)
def deleteOf (tx : τ) (agentID : UUID) : Sql τ (Except Err (List Nat)) :=
  .perform (⟨tx, .deleteOf agentID⟩ : SqlCall τ)
def deleteRow (tx : τ) (n : Nat) : Sql τ (Except Err Unit) :=
  .perform (⟨tx, .deleteRow n⟩ : SqlCall τ)
def upsertAgent (tx : τ) (row : AgentRow) : Sql τ (Except Err Unit) :=
  .perform (⟨tx, .upsertAgent row⟩ : SqlCall τ)
def updateAgent (tx : τ) (now : Time) (agentID : UUID) : Sql τ (Except Err Unit) :=
  .perform (⟨tx, .updateAgent now agentID⟩ : SqlCall τ)
def insertPVC (tx : τ) (p : PVCRow) : Sql τ (Except Err Unit) :=
  .perform (⟨tx, .insertPVC p⟩ : SqlCall τ)
def commit (tx : τ) : Sql τ (Except Err Unit) := .perform (⟨tx, .commit⟩ : SqlCall τ)
def rollback (tx : τ) : Sql τ Unit := .perform (⟨tx, .rollback⟩ : SqlCall τ)

/-- A `DELETE`, from its first row on. -/
def deleteRows (tx : τ) : List Nat → Sql τ (Except Err Unit)
  | [] => return .ok ()
  | n :: ns => do
    match ← deleteRow tx n with
    | .error err => return .error err
    | .ok () => deleteRows tx ns

/-- The loop that inserts an inventory. -/
def insertPVCs (tx : τ) (agentID : UUID) (now : Time) : List PVCInfo → Sql τ (Except Err Unit)
  | [] => return .ok ()
  | pvc :: pvcs => do
    match ← insertPVC tx { agentID, pvc, updatedAt := now } with
    | .error err => return .error err
    | .ok () => insertPVCs tx agentID now pvcs

end Sql

/-! ## Transactions -/

namespace AgentRepository

open Sql

/-- Insert the inventory, and commit. -/
def storePVCs (tx : τ) (agentID : UUID) (now : Time) (pvcs : List PVCInfo) :
    Sql τ (Except Err Unit) := do
  match ← insertPVCs tx agentID now pvcs with
  | .error err => return .error err
  | .ok () => commit tx

/-- A transaction, with the rollback that is deferred. -/
def inTransaction (tx : τ) (body : Sql τ (Except Err Unit)) : Sql τ (Except Err Unit) := do
  match ← begin_ tx with
  | .error err => return .error err
  | .ok () =>
  -- `defer tx.Rollback`
  let result ← body
  rollback tx
  return result

/-- Create or update an agent, and replace its inventory. -/
def upsertAgent (tx : τ) (now : Time) (agent : Agent) : Sql τ (Except Err Unit) :=
  inTransaction tx do
    match ← deleteAt tx agent.place with
    | .error err => return .error err
    | .ok ns =>
    match ← deleteRows tx ns with
    | .error err => return .error err
    | .ok () =>
    match ← Sql.upsertAgent tx agent.toAgentRow with
    | .error err => return .error err
    | .ok () => storePVCs tx agent.id now agent.pvcs

/-- Mark an agent healthy, and replace its inventory. -/
def updateHeartbeat (tx : τ) (now : Time) (agentID : UUID) (pvcs : List PVCInfo) :
    Sql τ (Except Err Unit) :=
  inTransaction tx do
    match ← updateAgent tx now agentID with
    | .error err => return .error err
    | .ok () =>
    match ← deleteOf tx agentID with
    | .error err => return .error err
    | .ok ns =>
    match ← deleteRows tx ns with
    | .error err => return .error err
    | .ok () => storePVCs tx agentID now pvcs

end AgentRepository

end Katapult
