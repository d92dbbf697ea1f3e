/-
  Katapult.Store.AgentRepository

  The PostgreSQL repository of agents, statement by statement.  A transaction
  is a sequence of statements that stops at the first error and then leaves
  nothing behind.  The repository checks no state transition.
-/

import Katapult.Domain.Agent
import Katapult.Keyed.Table
import Katapult.Store.Environment

namespace Katapult

open Keyed

/-- A row of `agent_pvcs`. -/
structure PVCRow where
  agentID : UUID
  pvc : PVCInfo
  updatedAt : Time
  deriving DecidableEq

/-- The unique key `(cluster_id, node_name)`. -/
def AgentRow.place (r : AgentRow) : String × String := (r.clusterID, r.nodeName)

/-- The primary key of `agent_pvcs`. -/
def PVCRow.key (p : PVCRow) : UUID × String := (p.agentID, p.pvc.pvcName)

namespace AgentRow

/-- What a heartbeat sets. -/
def setHealthy (now : Time) (r : AgentRow) : AgentRow :=
  { r with healthy := true, state := .healthy, lastHeartbeat := now }

def setUnhealthy (r : AgentRow) : AgentRow := { r with healthy := false, state := .unhealthy }

def setDisconnected (r : AgentRow) : AgentRow := { r with state := .disconnected }

@[simp] theorem setHealthy_id (now : Time) (r : AgentRow) : (r.setHealthy now).id = r.id := rfl

@[simp] theorem setHealthy_place (now : Time) (r : AgentRow) :
    (r.setHealthy now).place = r.place := rfl

@[simp] theorem setUnhealthy_id (r : AgentRow) : r.setUnhealthy.id = r.id := rfl

@[simp] theorem setUnhealthy_place (r : AgentRow) : r.setUnhealthy.place = r.place := rfl

@[simp] theorem setDisconnected_id (r : AgentRow) : r.setDisconnected.id = r.id := rfl

@[simp] theorem setDisconnected_place (r : AgentRow) : r.setDisconnected.place = r.place := rfl

end AgentRow

abbrev AgentTable : Type := Table (String × String) AgentRow AgentRow.place

def AgentTable.ids (t : AgentTable) : List UUID := t.rows.map AgentRow.id

/-- The tables `agents` and `agent_pvcs`: identifiers are unique, and every
    inventory row refers to an agent. -/
structure Registry where
  agents : AgentTable
  pvcs : Table (UUID × String) PVCRow PVCRow.key
  ids : agents.ids.Nodup
  fk : ∀ p ∈ pvcs.rows, p.agentID ∈ agents.ids

namespace Registry

def empty : Registry := ⟨.empty, .empty, List.nodup_nil, by simp [Table.empty]⟩

/-- The row of an agent. -/
def row (reg : Registry) (id : UUID) : Option AgentRow := reg.agents.rows.find? (·.id = id)

/-- The inventory of an agent. -/
def inventory (reg : Registry) (id : UUID) : List PVCRow :=
  reg.pvcs.rows.filter (·.agentID = id)

/-- An agent with its inventory. -/
def withPVCs (reg : Registry) (r : AgentRow) : Agent :=
  { toAgentRow := r, pvcs := (reg.inventory r.id).map PVCRow.pvc }

/-! ## Statements -/

/-- Store another content of `agents`, if the constraints allow it. -/
def withAgents (reg : Registry) (agents : AgentTable) : Except Err Registry :=
  if ids : agents.ids.Nodup then
    if fk : ∀ p ∈ reg.pvcs.rows, p.agentID ∈ agents.ids then .ok ⟨agents, reg.pvcs, ids, fk⟩
    else .error "update or delete on table \"agents\" violates foreign key constraint"
  else .error "duplicate key value violates unique constraint \"agents_pkey\""

/-- `INSERT INTO agents .. ON CONFLICT (cluster_id, node_name) DO UPDATE`: a row
    in the same place keeps its `registered_at` and takes the rest. -/
def upsertRow (reg : Registry) (r : AgentRow) : Except Err Registry :=
  match reg.agents.insert? r with
  | some agents => reg.withAgents agents
  | none => reg.withAgents (reg.agents.modify r.place
      (fun old => { old with
        id := r.id, healthy := r.healthy, state := r.state, lastHeartbeat := r.lastHeartbeat
        tools := r.tools, jwtNamespace := r.jwtNamespace })
      fun _ => rfl)

theorem ids_update (t : AgentTable) (cond : AgentRow → Bool) (set : AgentRow → AgentRow)
    (hid : ∀ r, (set r).id = r.id) (hplace : ∀ r, (set r).place = r.place) :
    AgentTable.ids (t.update cond set hplace) = t.ids := by
  rw [AgentTable.ids, AgentTable.ids, Table.update, List.map_map]
  refine List.map_congr_left fun r _ => ?_
  simp only [Function.comp_apply]
  split
  · exact hid r
  · rfl

/-- `UPDATE agents SET .. WHERE ..`, of columns that no constraint is about. -/
def updateAgents (reg : Registry) (cond : AgentRow → Bool) (set : AgentRow → AgentRow)
    (hid : ∀ r, (set r).id = r.id) (hplace : ∀ r, (set r).place = r.place) : Registry where
  agents := reg.agents.update cond set hplace
  pvcs := reg.pvcs
  ids := (ids_update reg.agents cond set hid hplace).symm ▸ reg.ids
  fk := (ids_update reg.agents cond set hid hplace).symm ▸ reg.fk

/-- `DELETE FROM agent_pvcs WHERE ..`. -/
def deletePVCs (reg : Registry) (cond : PVCRow → Bool) : Registry :=
  { reg with
    pvcs := reg.pvcs.filter fun p => !cond p
    fk := fun p hp => reg.fk p (List.mem_of_mem_filter hp) }

/-- `INSERT INTO agent_pvcs`, with its foreign key. -/
def insertPVC (reg : Registry) (p : PVCRow) : Except Err Registry :=
  if hid : p.agentID ∈ reg.agents.ids then
    match h : reg.pvcs.insert? p with
    | some pvcs => .ok
      { reg with
        pvcs
        fk := fun p' hp' => by
          rw [(Table.insert?_eq_some h).2, List.mem_append, List.mem_singleton] at hp'
          rcases hp' with hold | rfl
          · exact reg.fk p' hold
          · exact hid }
    | none => .error "duplicate key value violates unique constraint \"agent_pvcs_pkey\""
  else .error "insert or update on table \"agent_pvcs\" violates foreign key constraint"

/-- The loop that inserts an inventory. -/
def insertPVCs (agentID : UUID) (now : Time) : List PVCInfo → Registry → Except Err Registry
  | [], reg => .ok reg
  | pvc :: pvcs, reg =>
    match reg.insertPVC { agentID, pvc, updatedAt := now } with
    | .error err => .error err
    | .ok reg => insertPVCs agentID now pvcs reg

/-! ## Transactions -/

/-- Create or update an agent, and replace its inventory. -/
def upsertAgent (now : Time) (agent : Agent) (reg : Registry) : Except Err Registry :=
  let old := (reg.agents.find? agent.place).map AgentRow.id
  match (reg.deletePVCs fun p => old = some p.agentID).upsertRow agent.toAgentRow with
  | .error err => .error err
  | .ok reg => reg.insertPVCs agent.id now agent.pvcs

/-- The statements of a heartbeat before the inventory is inserted. -/
def resetAgent (now : Time) (agentID : UUID) (reg : Registry) : Registry :=
  (reg.updateAgents (·.id = agentID) (·.setHealthy now) (AgentRow.setHealthy_id now)
    (AgentRow.setHealthy_place now)).deletePVCs (·.agentID = agentID)

/-- Mark an agent healthy, and replace its inventory. -/
def updateHeartbeat (now : Time) (agentID : UUID) (pvcs : List PVCInfo) (reg : Registry) :
    Except Err Registry :=
  (reg.resetAgent now agentID).insertPVCs agentID now pvcs

/-- The rows that `markUnhealthy` changes.  Both times are whole microseconds, those of
    the column and of the parameter of a statement. -/
def stale (state : AgentState) (cutoff : Time) (r : AgentRow) : Bool :=
  r.state = state ∧ r.lastHeartbeat < cutoff

def markUnhealthy (cutoff : Time) (reg : Registry) : Registry :=
  reg.updateAgents (stale .healthy cutoff) AgentRow.setUnhealthy AgentRow.setUnhealthy_id
    AgentRow.setUnhealthy_place

def markDisconnected (cutoff : Time) (reg : Registry) : Registry :=
  reg.updateAgents (stale .unhealthy cutoff) AgentRow.setDisconnected AgentRow.setDisconnected_id
    AgentRow.setDisconnected_place

/-! ## What the statements do -/

theorem row_eq_some {reg : Registry} {id : UUID} {r : AgentRow} (h : reg.row id = some r) :
    r ∈ reg.agents.rows ∧ r.id = id :=
  ⟨List.mem_of_find?_eq_some h, by simpa using List.find?_some h⟩

theorem mem_ids_of_row {reg : Registry} {id : UUID} {r : AgentRow} (h : reg.row id = some r) :
    id ∈ reg.agents.ids := by
  obtain ⟨hmem, rfl⟩ := row_eq_some h
  exact List.mem_map_of_mem hmem

theorem row_updateAgents (reg : Registry) (cond : AgentRow → Bool) (set : AgentRow → AgentRow)
    (hid : ∀ r, (set r).id = r.id) (hplace : ∀ r, (set r).place = r.place) (id : UUID) :
    (reg.updateAgents cond set hid hplace).row id =
      (reg.row id).map fun r => if cond r then set r else r := by
  have hkeep : ∀ r, decide ((if cond r then set r else r).id = id) = decide (r.id = id) := by
    intro r
    split
    · rw [hid r]
    · rfl
  simp only [row, updateAgents, Table.update, List.find?_map, Function.comp_def, hkeep]

/-- An inserted row was not there, and is the only change. -/
theorem insertPVC_eq_ok {reg reg' : Registry} {p : PVCRow} (h : reg.insertPVC p = .ok reg') :
    reg.pvcs.find? p.key = none ∧ reg'.agents = reg.agents ∧
      ∀ k, reg'.pvcs.find? k = if p.key = k then some p else reg.pvcs.find? k := by
  unfold insertPVC at h
  split at h
  · split at h
    · rename_i hins
      cases h
      exact ⟨(Table.insert?_eq_some hins).1, rfl, Table.find?_insert? hins⟩
    · cases h
  · cases h

theorem insertPVC_isOk {reg : Registry} {p : PVCRow} (hid : p.agentID ∈ reg.agents.ids)
    (hfresh : reg.pvcs.find? p.key = none) : ∃ reg', reg.insertPVC p = .ok reg' := by
  obtain ⟨pvcs, hpvcs⟩ := Table.insert?_isSome hfresh
  unfold insertPVC
  rw [dif_pos hid]
  split
  · exact ⟨_, rfl⟩
  · rename_i hnone
    rw [hpvcs] at hnone
    cases hnone

/-- The loop ends without error exactly on inventories of distinct new names. -/
theorem insertPVCs_isOk_iff {agentID : UUID} {now : Time} {pvcs : List PVCInfo} {reg : Registry}
    (hid : agentID ∈ reg.agents.ids) :
    (∃ reg', reg.insertPVCs agentID now pvcs = .ok reg') ↔
      (pvcs.map PVCInfo.pvcName).Nodup ∧
      ∀ pvc ∈ pvcs, reg.pvcs.find? (agentID, pvc.pvcName) = none := by
  induction pvcs generalizing reg with
  | nil => simp [insertPVCs]
  | cons pvc pvcs ih =>
    cases hins : reg.insertPVC { agentID, pvc, updatedAt := now } with
    | error err =>
      refine iff_of_false (by simp [insertPVCs, hins]) ?_
      rintro ⟨-, hfresh⟩
      obtain ⟨reg', hreg'⟩ := insertPVC_isOk (p := ⟨agentID, pvc, now⟩) hid
        (hfresh pvc List.mem_cons_self)
      rw [hins] at hreg'
      cases hreg'
    | ok reg₁ =>
      obtain ⟨hfresh, hagents, hfind⟩ := insertPVC_eq_ok hins
      -- a name is still free when it was before, and is not the one just taken
      have hfree : ∀ p : PVCInfo, reg₁.pvcs.find? (agentID, p.pvcName) = none ↔
          p.pvcName ≠ pvc.pvcName ∧ reg.pvcs.find? (agentID, p.pvcName) = none := by
        intro p
        rw [hfind]
        by_cases hname : p.pvcName = pvc.pvcName
        · simp [PVCRow.key, hname]
        · simp [PVCRow.key, hname, Ne.symm hname]
      have hrest : (∃ reg', reg₁.insertPVCs agentID now pvcs = .ok reg') ↔ _ := ih (hagents ▸ hid)
      simp only [insertPVCs, hins, hrest, hfree, List.map_cons, List.nodup_cons, List.mem_map,
        List.forall_mem_cons]
      constructor
      · rintro ⟨hnodup, hall⟩
        refine ⟨⟨?_, hnodup⟩, hfresh, fun p hp => (hall p hp).2⟩
        rintro ⟨p, hp, hname⟩
        exact (hall p hp).1 hname
      · rintro ⟨⟨hnew, hnodup⟩, -, hall⟩
        exact ⟨hnodup, fun p hp => ⟨fun hname => hnew ⟨p, hp, hname⟩, hall p hp⟩⟩

theorem agents_insertPVCs {agentID : UUID} {now : Time} {pvcs : List PVCInfo} {reg reg' : Registry}
    (h : reg.insertPVCs agentID now pvcs = .ok reg') : reg'.agents = reg.agents := by
  induction pvcs generalizing reg with
  | nil =>
    cases h
    rfl
  | cons pvc pvcs ih =>
    unfold insertPVCs at h
    split at h
    · cases h
    · rename_i reg₁ hins
      rw [ih h, (insertPVC_eq_ok hins).2.1]

theorem row_resetAgent {now : Time} {agentID : UUID} {reg : Registry} {r : AgentRow}
    (hrow : reg.row agentID = some r) :
    (reg.resetAgent now agentID).row agentID = some (r.setHealthy now) := by
  have hid := (row_eq_some hrow).2
  have hset := row_updateAgents reg (·.id = agentID) (·.setHealthy now)
    (AgentRow.setHealthy_id now) (AgentRow.setHealthy_place now) agentID
  rw [hrow, Option.map_some, if_pos (by simpa using hid)] at hset
  exact hset

theorem find?_resetAgent (now : Time) (agentID : UUID) (reg : Registry) (name : String) :
    (reg.resetAgent now agentID).pvcs.find? (agentID, name) = none := by
  rw [Table.find?_eq_none]
  intro hmem
  obtain ⟨p, hp, hkey⟩ := List.mem_map.mp hmem
  have hother : p.agentID ≠ agentID := by simpa using (List.mem_filter.mp hp).2
  exact hother (congrArg Prod.fst hkey)

/-- A heartbeat transaction on a stored agent commits exactly on distinct names. -/
theorem updateHeartbeat_isOk_iff (now : Time) {agentID : UUID} (pvcs : List PVCInfo)
    {reg : Registry} {r : AgentRow} (hrow : reg.row agentID = some r) :
    (∃ reg', reg.updateHeartbeat now agentID pvcs = .ok reg') ↔
      (pvcs.map PVCInfo.pvcName).Nodup := by
  have hid := mem_ids_of_row (@row_resetAgent now _ _ _ hrow)
  exact (insertPVCs_isOk_iff hid).trans
    (and_iff_left fun pvc _ => find?_resetAgent now agentID reg pvc.pvcName)

/-! ### Inventories -/

theorem rows_insertPVC {reg reg' : Registry} {p : PVCRow} (h : reg.insertPVC p = .ok reg') :
    reg'.pvcs.rows = reg.pvcs.rows ++ [p] := by
  unfold insertPVC at h
  split at h
  · split at h
    · rename_i hins
      cases h
      exact (Table.insert?_eq_some hins).2
    · cases h
  · cases h

/-- The loop adds the volumes of one agent, in order. -/
theorem inventory_insertPVCs {agentID : UUID} {now : Time} {pvcs : List PVCInfo} {reg reg' : Registry}
    (h : reg.insertPVCs agentID now pvcs = .ok reg') (id : UUID) :
    reg'.inventory id = reg.inventory id ++
      if agentID = id then pvcs.map fun pvc => ⟨agentID, pvc, now⟩ else [] := by
  induction pvcs generalizing reg with
  | nil =>
    cases h
    simp
  | cons pvc pvcs ih =>
    unfold insertPVCs at h
    split at h
    · cases h
    · rename_i reg₁ hins
      rw [ih h, inventory, rows_insertPVC hins, List.filter_append, List.append_assoc]
      by_cases hid : agentID = id
      · simp [inventory, hid]
      · simp [inventory, hid]

theorem inventory_resetAgent (now : Time) (agentID : UUID) (reg : Registry) (id : UUID) :
    (reg.resetAgent now agentID).inventory id = if agentID = id then [] else reg.inventory id := by
  show (reg.pvcs.rows.filter fun p => !decide (p.agentID = agentID)).filter _ = _
  rw [List.filter_filter]
  split
  · rename_i hid
    rw [List.filter_eq_nil_iff]
    simp [hid]
  · rename_i hid
    refine List.filter_congr fun p _ => ?_
    by_cases hp : p.agentID = id
    · simp [hp, Ne.symm hid]
    · simp [hp]

theorem agents_updateHeartbeat {now : Time} {agentID : UUID} {pvcs : List PVCInfo}
    {reg reg' : Registry} (h : reg.updateHeartbeat now agentID pvcs = .ok reg') :
    reg'.agents.rows = reg.agents.rows.map fun r =>
      if r.id = agentID then r.setHealthy now else r := by
  rw [agents_insertPVCs h]
  show List.map (fun r : AgentRow => if decide (r.id = agentID) = true then r.setHealthy now else r) _ = _
  simp only [decide_eq_true_eq]

/-- A heartbeat replaces the inventory of its agent. -/
theorem inventory_updateHeartbeat {now : Time} {agentID : UUID} {pvcs : List PVCInfo}
    {reg reg' : Registry} (h : reg.updateHeartbeat now agentID pvcs = .ok reg') (id : UUID) :
    reg'.inventory id =
      if agentID = id then pvcs.map fun pvc => ⟨agentID, pvc, now⟩ else reg.inventory id := by
  rw [inventory_insertPVCs h, inventory_resetAgent]
  split <;> simp

theorem row_updateHeartbeat {now : Time} {agentID : UUID} {pvcs : List PVCInfo}
    {reg reg' : Registry} {r : AgentRow} (hrow : reg.row agentID = some r)
    (h : reg.updateHeartbeat now agentID pvcs = .ok reg') :
    reg'.row agentID = some (r.setHealthy now) := by
  rw [row, agents_insertPVCs h]
  exact row_resetAgent hrow

end Registry

end Katapult
