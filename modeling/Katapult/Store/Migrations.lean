/-
  Katapult.Store.Migrations

  The agent tables before the lifecycle state was a column, and the migrations
  that bring them to what the repository works on: 003 adds the state and derives
  it from the flag, 004 adds the namespace.
-/

import Katapult.Store.AgentRepository

namespace Katapult

open Keyed

/-- The columns of `agents` after migration 001. -/
structure LegacyRow where
  id : UUID
  clusterID : String
  nodeName : String
  healthy : Bool
  lastHeartbeat : Time
  tools : ToolVersions
  registeredAt : Time
  deriving DecidableEq

/-- The unique key `(cluster_id, node_name)`. -/
def LegacyRow.place (r : LegacyRow) : String × String := (r.clusterID, r.nodeName)

/-- The tables after migrations 001 and 002. -/
structure LegacyRegistry where
  agents : Table (String × String) LegacyRow LegacyRow.place
  pvcs : Table (UUID × String) PVCRow PVCRow.key
  ids : (agents.rows.map LegacyRow.id).Nodup
  fk : ∀ p ∈ pvcs.rows, p.agentID ∈ agents.rows.map LegacyRow.id

/-- The added columns, at their defaults. -/
def LegacyRow.widen (r : LegacyRow) : AgentRow where
  id := r.id
  clusterID := r.clusterID
  nodeName := r.nodeName
  state := .healthy
  healthy := r.healthy
  lastHeartbeat := r.lastHeartbeat
  tools := r.tools
  registeredAt := r.registeredAt
  jwtNamespace := ""

theorem LegacyRow.widen_place (r : LegacyRow) : r.widen.place = r.place := rfl

/-- `UPDATE agents SET state = 'unhealthy'`, on one row. -/
def AgentRow.setState (r : AgentRow) : AgentRow := { r with state := .unhealthy }

theorem AgentRow.setState_id (r : AgentRow) : r.setState.id = r.id := rfl

theorem AgentRow.setState_place (r : AgentRow) : r.setState.place = r.place := rfl

namespace LegacyRegistry

/-- `ALTER TABLE agents ADD COLUMN ..`, of both migrations. -/
def addColumns (reg : LegacyRegistry) : Registry where
  agents := reg.agents.map LegacyRow.widen LegacyRow.widen_place
  pvcs := reg.pvcs
  ids := by
    show ((reg.agents.rows.map LegacyRow.widen).map AgentRow.id).Nodup
    rw [List.map_map]
    exact reg.ids
  fk p hp := by
    show p.agentID ∈ (reg.agents.rows.map LegacyRow.widen).map AgentRow.id
    rw [List.map_map]
    exact reg.fk p hp

/-- The migrated tables: rows that are not healthy get another state. -/
def migrate (reg : LegacyRegistry) : Registry :=
  reg.addColumns.updateAgents (fun r => r.healthy = false) AgentRow.setState
    AgentRow.setState_id AgentRow.setState_place

end LegacyRegistry

end Katapult
