/-
  Katapult.Registry.Place

  The registry seen from one place, a pair of cluster and node: what each call
  does to the row stored there, and what a registration or a heartbeat has
  learned about that row by the time it writes.

  Every decision of the registry is taken on a row that was read before, and the
  writes that follow do not look again.  `ServiceCall.Permits` is the part of the
  decision that is still true then: the answer of the read.
-/

import Katapult.Registry.Service
import Katapult.Effect.Interleaving

namespace Katapult

open Effect

/-! ## Rows -/

/-- What the conflict clause of the upsert makes of a row in the same place. -/
def AgentRow.overwrite (new old : AgentRow) : AgentRow :=
  { old with
    id := new.id, healthy := new.healthy, state := new.state, lastHeartbeat := new.lastHeartbeat
    tools := new.tools, jwtNamespace := new.jwtNamespace }

@[simp] theorem AgentRow.overwrite_state (new old : AgentRow) :
    (new.overwrite old).state = new.state := rfl

namespace Registry

/-- The row that is stored in a place. -/
def rowAt (reg : Registry) (place : String × String) : Option AgentRow := reg.agents.find? place

theorem rowAt_eq_some {reg : Registry} {place : String × String} {r : AgentRow}
    (h : reg.rowAt place = some r) : r ∈ reg.agents.rows ∧ r.place = place :=
  Keyed.Table.find?_eq_some.mp h

/-- A row found by its place is the one found by its identifier. -/
theorem row_of_rowAt {reg : Registry} {place : String × String} {r : AgentRow}
    (h : reg.rowAt place = some r) : reg.row r.id = some r := by
  obtain ⟨hmem, -⟩ := rowAt_eq_some h
  have hsome : (reg.row r.id).isSome := by
    rw [row, List.find?_isSome]
    exact ⟨r, hmem, by simp⟩
  obtain ⟨r', hr'⟩ := Option.isSome_iff_exists.mp hsome
  obtain ⟨hmem', hid⟩ := row_eq_some hr'
  rw [hr', List.inj_on_of_nodup_map reg.ids hmem' hmem hid]

theorem withAgents_eq_ok {reg reg' : Registry} {agents : AgentTable}
    (h : reg.withAgents agents = .ok reg') : reg'.agents = agents := by
  unfold withAgents at h
  split at h
  · split at h
    · cases h
      rfl
    · cases h
  · cases h

theorem rowAt_upsertRow {reg reg' : Registry} {r : AgentRow} (h : reg.upsertRow r = .ok reg')
    (place : String × String) :
    reg'.rowAt place =
      if r.place = place then some ((reg.rowAt place).elim r r.overwrite) else reg.rowAt place := by
  unfold upsertRow at h
  split at h
  · rename_i agents hins
    rw [rowAt, withAgents_eq_ok h, Keyed.Table.find?_insert? hins]
    split
    · rename_i hplace
      rw [rowAt, ← hplace, (Keyed.Table.insert?_eq_some hins).1, Option.elim_none]
    · rfl
  · rename_i hins
    rw [rowAt, withAgents_eq_ok h]
    refine (Keyed.Table.find?_modify reg.agents r.place r.overwrite (fun _ => rfl) place).trans ?_
    by_cases hplace : r.place = place
    · rw [if_pos hplace.symm, if_pos hplace]
      -- the insertion was refused, so the place is taken
      cases hrow : reg.rowAt place with
      | none =>
        obtain ⟨agents, hagents⟩ := Keyed.Table.insert?_isSome (hplace ▸ hrow)
        rw [hins] at hagents
        cases hagents
      | some old =>
        rw [rowAt] at hrow
        rw [hrow, Option.map_some, Option.elim_some]
    · rw [if_neg (Ne.symm hplace), if_neg hplace, rowAt]

theorem rowAt_upsertAgent {now : Time} {agent : Agent} {reg reg' : Registry}
    (h : reg.upsertAgent now agent = .ok reg') (place : String × String) :
    reg'.rowAt place =
      if agent.place = place then
        some ((reg.rowAt place).elim agent.toAgentRow agent.overwrite)
      else reg.rowAt place := by
  simp only [upsertAgent] at h
  split at h
  · cases h
  · rename_i reg₁ hupsert
    rw [rowAt, agents_insertPVCs h]
    exact rowAt_upsertRow hupsert place

theorem rowAt_updateAgents (reg : Registry) (cond : AgentRow → Bool) (set : AgentRow → AgentRow)
    (hid : ∀ r, (set r).id = r.id) (hplace : ∀ r, (set r).place = r.place)
    (place : String × String) :
    (reg.updateAgents cond set hid hplace).rowAt place =
      (reg.rowAt place).map fun r => if cond r then set r else r :=
  Keyed.Table.find?_update reg.agents cond set hplace place

theorem rowAt_updateHeartbeat {now : Time} {agentID : UUID} {pvcs : List PVCInfo}
    {reg reg' : Registry} (h : reg.updateHeartbeat now agentID pvcs = .ok reg')
    (place : String × String) :
    reg'.rowAt place =
      (reg.rowAt place).map fun r => if r.id = agentID then r.setHealthy now else r := by
  have hset := reg.rowAt_updateAgents (·.id = agentID) (·.setHealthy now)
    (AgentRow.setHealthy_id now) (AgentRow.setHealthy_place now) place
  simp only [decide_eq_true_eq] at hset
  rw [rowAt, agents_insertPVCs h]
  exact hset

end Registry

/-! ## What a call does to the row of a place -/

/-- The row of a place after an answered call, from the row before it. -/
def RegistryCall.onPlace (now : Time) (place : String × String) (row : Option AgentRow) :
    (op : RegistryCall) → op.Ans → Option AgentRow
  | .upsertAgent agent, .ok _ =>
      if agent.place = place then some (row.elim agent.toAgentRow agent.overwrite) else row
  | .updateHeartbeat agentID _, .ok _ =>
      row.map fun r => if r.id = agentID then r.setHealthy now else r
  | .markUnhealthy cutoff, .ok _ =>
      row.map fun r => if Registry.stale .healthy cutoff r then r.setUnhealthy else r
  | .markDisconnected cutoff, .ok _ =>
      row.map fun r => if Registry.stale .unhealthy cutoff r then r.setDisconnected else r
  | _, _ => row

theorem Registry.rowAt_exec (env : Env) (op : RegistryCall) (reg : Registry)
    (place : String × String) :
    (execRegistry env op reg).2.rowAt place =
      op.onPlace env.now place (reg.rowAt place) (execRegistry env op reg).1 := by
  cases op with
  | upsertAgent agent =>
    rcases env.write_cases reg (Registry.upsertAgent env.now agent) with
      ⟨err, hwrite⟩ | ⟨reg', hupsert, hwrite⟩
    · simp only [execRegistry, hwrite, RegistryCall.onPlace]
    · simp only [execRegistry, hwrite, RegistryCall.onPlace]
      exact Registry.rowAt_upsertAgent hupsert place
  | updateHeartbeat agentID pvcs =>
    rcases env.write_cases reg (Registry.updateHeartbeat env.now agentID pvcs) with
      ⟨err, hwrite⟩ | ⟨reg', hupdate, hwrite⟩
    · simp only [execRegistry, hwrite, RegistryCall.onPlace]
    · simp only [execRegistry, hwrite, RegistryCall.onPlace]
      exact Registry.rowAt_updateHeartbeat hupdate place
  | markUnhealthy cutoff =>
    cases hfail : env.fail with
    | some err => simp only [execRegistry, Env.count, hfail, RegistryCall.onPlace]
    | none =>
      simp only [execRegistry, Env.count, hfail, RegistryCall.onPlace]
      exact reg.rowAt_updateAgents _ _ _ _ place
  | markDisconnected cutoff =>
    cases hfail : env.fail with
    | some err => simp only [execRegistry, Env.count, hfail, RegistryCall.onPlace]
    | none =>
      simp only [execRegistry, Env.count, hfail, RegistryCall.onPlace]
      exact reg.rowAt_updateAgents _ _ _ _ place
  | _ => rfl

/-- What a call stores in a place on behalf of a registration. -/
def RegistryEv.assigns (place : String × String) : RegistryEv → Option AgentRow
  | ⟨.upsertAgent agent, .ok _⟩ => if agent.place = place then some agent.toAgentRow else none
  | _ => none

theorem RegistryEv.assigns_eq_some {place : String × String} {ev : RegistryEv} {r : AgentRow}
    (h : ev.assigns place = some r) :
    ∃ agent : Agent, ev = ⟨.upsertAgent agent, .ok ()⟩ ∧ agent.place = place ∧
      agent.toAgentRow = r := by
  unfold RegistryEv.assigns at h
  split at h
  · rename_i agent _
    split at h
    · rename_i hplace
      exact ⟨agent, rfl, hplace, Option.some.inj h⟩
    · cases h
  · cases h

theorem RegistryEv.assigns_upsertAgent (agent : Agent) :
    RegistryEv.assigns agent.place ⟨.upsertAgent agent, .ok ()⟩ = some agent.toAgentRow :=
  if_pos rfl

/-! ## Columns that only registrations write -/

/-- A registration in an occupied place takes over the identifier, and a
    namespace if there is one. -/
def AgentRow.Succeeds (old new : AgentRow) : Prop :=
  new.id = old.id ∧ (old.jwtNamespace = "" ∨ old.jwtNamespace = new.jwtNamespace)

/-- The column `f` is written by registrations alone, and one that has read a
    `binding` value writes the same again. -/
structure Column {β : Type} (f : AgentRow → β) (binding : β → Prop) : Prop where
  setHealthy : ∀ now r, f (AgentRow.setHealthy now r) = f r
  setUnhealthy : ∀ r, f (AgentRow.setUnhealthy r) = f r
  setDisconnected : ∀ r, f (AgentRow.setDisconnected r) = f r
  overwrite : ∀ new old, f (AgentRow.overwrite new old) = f new
  rewrites : ∀ old new, AgentRow.Succeeds old new → binding (f old) → f new = f old

theorem column_id : Column AgentRow.id fun _ => True where
  setHealthy _ _ := rfl
  setUnhealthy _ := rfl
  setDisconnected _ := rfl
  overwrite _ _ := rfl
  rewrites _ _ h _ := h.1

theorem column_jwtNamespace : Column AgentRow.jwtNamespace (· ≠ "") where
  setHealthy _ _ := rfl
  setUnhealthy _ := rfl
  setDisconnected _ := rfl
  overwrite _ _ := rfl
  rewrites _ _ h hne := (h.2.resolve_left hne).symm

theorem Column.map_onPlace {β : Type} {f : AgentRow → β} {binding : β → Prop}
    (hf : Column f binding) (now : Time) (place : String × String) (row : Option AgentRow)
    (op : RegistryCall) (a : op.Ans) :
    (op.onPlace now place row a).map f =
      (((RegistryEv.assigns place ⟨op, a⟩).map f).or (row.map f)) := by
  have hkeep : ∀ (cond : AgentRow → Prop) [DecidablePred cond] (set : AgentRow → AgentRow),
      (∀ r, f (set r) = f r) →
      (row.map fun r => if cond r then set r else r).map f = row.map f := by
    intro cond _ set hset
    cases row with
    | none => rfl
    | some r =>
      by_cases hcond : cond r
      · simp [hcond, hset]
      · simp [hcond]
  cases op with
  | upsertAgent agent =>
    rcases a with err | _
    · rfl
    by_cases hplace : agent.place = place
    · cases row with
      | none => simp [RegistryCall.onPlace, RegistryEv.assigns, hplace]
      | some old => simp [RegistryCall.onPlace, RegistryEv.assigns, hplace, hf.overwrite]
    · simp [RegistryCall.onPlace, RegistryEv.assigns, hplace]
  | updateHeartbeat agentID pvcs =>
    rcases a with err | _
    · rfl
    · exact hkeep (·.id = agentID) (AgentRow.setHealthy now) (hf.setHealthy now)
  | markUnhealthy cutoff =>
    rcases a with err | _
    · rfl
    · exact hkeep (fun r => Registry.stale .healthy cutoff r) _ hf.setUnhealthy
  | markDisconnected cutoff =>
    rcases a with err | _
    · rfl
    · exact hkeep (fun r => Registry.stale .unhealthy cutoff r) _ hf.setDisconnected
  | _ => rfl

/-! ## The calls of the registry -/

/-- A call that reaches the registry. -/
inductive ServiceCall where
  | registerAgent (clusterID nodeName : String) (tools : ToolVersions) (pvcs : List PVCInfo)
      (jwtNamespace : String)
  | heartbeat (agentID : UUID) (pvcs : List PVCInfo)
  | evaluate (evaluator : HealthEvaluator)

inductive ServiceResponse where
  | registered (result : Except Err UUID)
  | acknowledged (result : Except Err Unit)
  | evaluated (unhealthy disconnected : Nat) (err : Option Err)
  deriving DecidableEq

def ServiceCall.serve [UUIDText] : ServiceCall → Registrar ServiceResponse
  | .registerAgent clusterID nodeName tools pvcs jwtNamespace => do
    return .registered (← Service.registerAgent clusterID nodeName tools pvcs jwtNamespace)
  | .heartbeat agentID pvcs => do return .acknowledged (← Service.heartbeat agentID pvcs)
  | .evaluate evaluator => do
    let (unhealthy, disconnected, err) ← evaluator.evaluate
    return .evaluated unhealthy disconnected err

/-- The place that a call registers. -/
def ServiceCall.place : ServiceCall → Option (String × String)
  | .registerAgent clusterID nodeName .. => some (clusterID, nodeName)
  | .heartbeat .. | .evaluate _ => none

/-- What a call may write, after the history `h` of its own calls: a
    registration has read the row of its place, and a heartbeat has found its
    agent not disconnected. -/
def ServiceCall.Permits (call : ServiceCall) (h : List RegistryEv) : RegistryCall → Prop
  | .upsertAgent agent => call.place = some agent.place ∧ agent.state = .healthy ∧
      ∃ existing, ⟨.getAgentByClusterAndNode agent.clusterID agent.nodeName, .ok existing⟩ ∈ h ∧
        ∀ old ∈ existing, old.toAgentRow.Succeeds agent.toAgentRow
  | .updateHeartbeat agentID _ =>
      ∃ agent, ⟨.getAgentByID agentID, .ok (some agent)⟩ ∈ h ∧ agent.state ≠ .disconnected
  | _ => True

/-- What a call has done when it returns: a successful registration has stored
    its identifier. -/
def ServiceCall.Done (call : ServiceCall) (a : ServiceResponse) (h : List RegistryEv) : Prop :=
  ∀ id, a = .registered (.ok id) →
    ∃ agent : Agent, ⟨.upsertAgent agent, .ok ()⟩ ∈ h ∧ call.place = some agent.place ∧ agent.id = id

/-- The identity of a registration fits the row that it has read. -/
theorem Service.obeyed_assignID {call : ServiceCall} {h : List RegistryEv} (existing : Option Agent)
    (jwtNamespace : String) :
    Prog.Obeys history call.Permits
      (fun a h' => h ⊆ h' ∧ ∀ agentID registeredAt, a = .ok (agentID, registeredAt) →
        ∀ old ∈ existing, agentID = old.id ∧
          (old.jwtNamespace = "" ∨ old.jwtNamespace = jwtNamespace))
      h (Service.assignID existing jwtNamespace) := by
  unfold Service.assignID
  cases existing with
  | none =>
    refine ⟨trivial, fun agentID => ⟨trivial, fun registeredAt => ⟨?_, fun _ _ _ => nofun⟩⟩⟩
    exact List.Subset.trans (List.subset_append_left h _) (List.subset_append_left _ _)
  | some old =>
    dsimp only
    split
    · exact ⟨List.Subset.refl h, fun _ _ ha => by cases ha⟩
    · rename_i hsame
      refine ⟨List.Subset.refl h, fun agentID registeredAt ha old' hold => ?_⟩
      cases ha
      cases hold
      refine ⟨rfl, ?_⟩
      by_contra hother
      rw [not_or] at hother
      exact hsame hother

theorem HealthEvaluator.obeyed_evaluate (evaluator : HealthEvaluator) :
    Prog.Obeys history (ServiceCall.evaluate evaluator).Permits (fun _ _ => True) []
      evaluator.evaluate := by
  unfold HealthEvaluator.evaluate
  refine Prog.Obeys.perform trivial fun now => Prog.Obeys.perform trivial fun unhealthy => ?_
  rcases unhealthy with err | n
  · trivial
  refine Prog.Obeys.perform trivial fun disconnected => ?_
  rcases disconnected with err | n'
  · trivial
  · trivial

theorem Service.obeyed_registerAgent (clusterID nodeName : String) (tools : ToolVersions)
    (pvcs : List PVCInfo) (jwtNamespace : String) :
    let call : ServiceCall := .registerAgent clusterID nodeName tools pvcs jwtNamespace
    Prog.Obeys history call.Permits (fun a h => call.Done (.registered a) h) []
      (Service.registerAgent clusterID nodeName tools pvcs jwtNamespace) := by
  intro call
  have hfailed : ∀ err h, call.Done (.registered (.error err)) h := by
    intro err h id hid
    cases hid
  unfold Service.registerAgent
  split
  · exact hfailed _ _
  refine Prog.Obeys.perform trivial fun read => ?_
  rcases read with err | existing
  · exact hfailed _ _
  refine Prog.Obeys.bind (Prog.Obeys.mono (Service.obeyed_assignID existing jwtNamespace) ?_)
  rintro a h ⟨hsub, hassigned⟩
  rcases a with err | ⟨agentID, registeredAt⟩
  · exact hfailed _ _
  refine Prog.Obeys.perform trivial fun now => ?_
  have hread : (⟨.getAgentByClusterAndNode clusterID nodeName, .ok existing⟩ : RegistryEv) ∈ h :=
    hsub (List.mem_append_right _ List.mem_cons_self)
  dsimp only
  split
  · exact hfailed _ _
  rename_i agent hmove
  -- the record is written as it was built, with the state that the check has set
  obtain rfl := Except.ok.inj hmove
  refine Prog.Obeys.perform ⟨rfl, rfl, existing, List.mem_append_left _ hread,
    hassigned agentID registeredAt rfl⟩ fun stored => ?_
  rcases stored with err | _
  · exact hfailed _ _
  · intro id hid
    cases hid
    exact ⟨_, List.mem_append_right _ List.mem_cons_self, rfl, rfl⟩

section

variable [UUIDText]

theorem Service.obeyed_heartbeat (agentID : UUID) (pvcs : List PVCInfo) :
    Prog.Obeys history (ServiceCall.heartbeat agentID pvcs).Permits (fun _ _ => True) []
      (Service.heartbeat agentID pvcs) := by
  unfold Service.heartbeat
  refine Prog.Obeys.perform trivial fun read => ?_
  rcases read with err | (_ | agent)
  · trivial
  · trivial
  dsimp only
  split
  · trivial
  rename_i hstate
  split
  · trivial
  refine Prog.Obeys.perform ⟨agent, List.mem_append_right _ List.mem_cons_self, hstate⟩ fun a => ?_
  rcases a with err | _
  · trivial
  · trivial

/-- Every call of the registry keeps to what it is permitted. -/
theorem ServiceCall.obeyed_serve (call : ServiceCall) :
    Prog.Obeys history call.Permits call.Done [] call.serve := by
  cases call with
  | registerAgent clusterID nodeName tools pvcs jwtNamespace =>
    exact Prog.Obeys.bind (Service.obeyed_registerAgent clusterID nodeName tools pvcs jwtNamespace)
  | heartbeat agentID pvcs =>
    refine Prog.Obeys.bind ((Service.obeyed_heartbeat agentID pvcs).mono fun a h _ => ?_)
    intro id hid
    cases hid
  | evaluate evaluator =>
    refine Prog.Obeys.bind (evaluator.obeyed_evaluate.mono fun a h _ => ?_)
    intro id hid
    cases hid

end

end Katapult
