/-
  Katapult.Registry.Sound

  What the registry's tables satisfy in every state of every interleaving.

  Keys, references and names are constraints of the tables, which no statement
  can violate.  The flag `healthy` and the column `state` are two encodings of one
  fact, which every call writes in its own way: `coherent_onPlace` says what each
  makes of a row.
-/

import Katapult.Registry.Place
import Katapult.Registry.Concurrent
import Katapult.Store.Migrations

namespace Katapult

open Effect

/-- The flag says whether the state is healthy. -/
def AgentRow.Coherent (r : AgentRow) : Prop := r.healthy = true ↔ r.state = .healthy

instance (r : AgentRow) : Decidable r.Coherent := inferInstanceAs (Decidable (_ ↔ _))

/-- The invariant of the store. -/
structure Registry.Sound (reg : Registry) : Prop where
  coherent : ∀ r ∈ reg.agents.rows, r.healthy = true ↔ r.state = .healthy
  places : reg.agents.rows.Pairwise fun r r' => (r.clusterID, r.nodeName) ≠ (r'.clusterID, r'.nodeName)
  references : ∀ p ∈ reg.pvcs.rows, ∃ r ∈ reg.agents.rows, r.id = p.agentID
  names : ∀ id, ((reg.inventory id).map fun p => p.pvc.pvcName).Nodup

namespace Registry

/-- The names in one inventory are distinct, since the keys are. -/
theorem nodup_inventory (reg : Registry) (id : UUID) :
    ((reg.inventory id).map fun p => p.pvc.pvcName).Nodup := by
  have hkeys : ((reg.inventory id).map PVCRow.key).Nodup :=
    reg.pvcs.nodup.sublist (List.filter_sublist.map PVCRow.key)
  -- within one inventory a key is a name
  have hpair : (reg.inventory id).map PVCRow.key =
      ((reg.inventory id).map fun p => p.pvc.pvcName).map fun name => (id, name) := by
    rw [List.map_map]
    refine List.map_congr_left fun p hp => ?_
    have hid : p.agentID = id := by simpa using (List.mem_filter.mp hp).2
    rw [PVCRow.key, hid]
    rfl
  rw [hpair] at hkeys
  exact hkeys.of_map _

/-- The constraints of the tables leave the flag to be shown. -/
theorem sound_of_coherent {reg : Registry} (h : ∀ place, ∀ r ∈ reg.rowAt place, r.Coherent) :
    reg.Sound where
  coherent r hr := h r.place r (Keyed.Table.find?_of_mem hr)
  places := List.pairwise_map.mp reg.agents.nodup
  references p hp := by
    obtain ⟨r, hr, hid⟩ := List.mem_map.mp (reg.fk p hp)
    exact ⟨r, hr, hid⟩
  names := reg.nodup_inventory

end Registry

/-! ## What a call makes of a row -/

/-- An upsert brings a row whose flag and state agree. -/
def RegistryCall.WritesCoherent : RegistryCall → Prop
  | .upsertAgent agent => agent.Coherent
  | _ => True

/-- Where the condition holds, the row that is set is coherent. -/
theorem coherent_map {row : Option AgentRow} (h : ∀ r ∈ row, r.Coherent) {cond : AgentRow → Prop}
    [DecidablePred cond] {set : AgentRow → AgentRow}
    (hset : ∀ r, r.Coherent → cond r → (set r).Coherent) :
    ∀ r' ∈ row.map fun r => if cond r then set r else r, r'.Coherent := by
  intro r' hr'
  obtain ⟨r, hr, rfl⟩ := Option.mem_map.mp hr'
  by_cases hcond : cond r
  · rw [if_pos hcond]
    exact hset r (h r hr) hcond
  · rw [if_neg hcond]
    exact h r hr

theorem coherent_onPlace {op : RegistryCall} (hop : op.WritesCoherent) (now : Time)
    (place : String × String) {row : Option AgentRow} (h : ∀ r ∈ row, r.Coherent) (a : op.Ans) :
    ∀ r ∈ op.onPlace now place row a, r.Coherent := by
  cases op with
  | upsertAgent agent =>
    rcases a with err | _
    · exact h
    intro r hr
    by_cases hplace : agent.place = place
    · simp only [RegistryCall.onPlace, if_pos hplace, Option.mem_def, Option.some_inj] at hr
      rw [← hr]
      -- the flag and the state are both overwritten
      cases row with
      | none => exact hop
      | some old => exact hop
    · simp only [RegistryCall.onPlace, if_neg hplace] at hr
      exact h r hr
  | updateHeartbeat agentID pvcs =>
    rcases a with err | _
    · exact h
    · exact coherent_map h fun r _ _ => by simp [AgentRow.Coherent, AgentRow.setHealthy]
  | markUnhealthy cutoff =>
    rcases a with err | n
    · exact h
    · exact coherent_map h fun r _ _ => by simp [AgentRow.Coherent, AgentRow.setUnhealthy]
  | markDisconnected cutoff =>
    rcases a with err | n
    · exact h
    · -- the flag is left alone: an unhealthy row has it down already
      refine coherent_map h fun r hr hstale => ?_
      have hunhealthy : r.state = .unhealthy := by
        simp only [Registry.stale, decide_eq_true_eq] at hstale
        exact hstale.1
      have hflag : r.healthy ≠ true := fun hup => by
        have hhealthy := hr.mp hup
        rw [hunhealthy] at hhealthy
        cases hhealthy
      refine iff_of_false hflag fun hhealthy => ?_
      cases hhealthy
  | _ => exact h

/-- The registration time of a row is not written again. -/
theorem registeredAt_onPlace (op : RegistryCall) (now : Time) (place : String × String)
    {row : Option AgentRow} {registeredAt : Time} (h : row.map AgentRow.registeredAt = some registeredAt)
    (a : op.Ans) : (op.onPlace now place row a).map AgentRow.registeredAt = some registeredAt := by
  obtain ⟨r, rfl, rfl⟩ := Option.map_eq_some_iff.mp h
  have hkeep : ∀ (cond : Prop) [Decidable cond] (r' : AgentRow), r'.registeredAt = r.registeredAt →
      some (if cond then r' else r).registeredAt = some r.registeredAt := by
    intro cond _ r' hsame
    by_cases hcond : cond
    · rw [if_pos hcond, hsame]
    · rw [if_neg hcond]
  cases op with
  | upsertAgent agent =>
    rcases a with err | _
    · rfl
    -- `ON CONFLICT` leaves `registered_at` out
    by_cases hplace : agent.place = place
    · simp only [RegistryCall.onPlace, if_pos hplace, Option.elim_some, Option.map_some]
      rfl
    · simp only [RegistryCall.onPlace, if_neg hplace, Option.map_some]
  | updateHeartbeat agentID pvcs =>
    rcases a with err | _
    · rfl
    · exact hkeep (r.id = agentID) (r.setHealthy now) rfl
  | markUnhealthy cutoff =>
    rcases a with err | n
    · rfl
    · exact hkeep (Registry.stale .healthy cutoff r) r.setUnhealthy rfl
  | markDisconnected cutoff =>
    rcases a with err | n
    · rfl
    · exact hkeep (Registry.stale .unhealthy cutoff r) r.setDisconnected rfl
  | _ => rfl

/-! ## What the calls of the registry write -/

/-- The transition of the record sets the flag and the state together. -/
theorem Agent.coherent_of_transitionTo {agent agent' : Agent} {target : AgentState}
    (h : agent.transitionTo target = .ok agent') : agent'.Coherent := by
  unfold Agent.transitionTo at h
  split at h
  · cases h
    exact decide_eq_true_iff
  · cases h

theorem Service.writesCoherent_registerAgent (clusterID nodeName : String) (tools : ToolVersions)
    (pvcs : List PVCInfo) (jwtNamespace : String) :
    (Service.registerAgent clusterID nodeName tools pvcs jwtNamespace).All
      RegistryCall.WritesCoherent := by
  unfold Service.registerAgent
  split
  · trivial
  refine Prog.All.perform trivial fun read => ?_
  rcases read with err | existing
  · trivial
  have hassign : (Service.assignID existing jwtNamespace).All RegistryCall.WritesCoherent := by
    unfold Service.assignID
    cases existing with
    | none => exact ⟨trivial, fun agentID => ⟨trivial, fun registeredAt => trivial⟩⟩
    | some old =>
      dsimp only
      split
      · trivial
      · trivial
  refine Prog.All.bind hassign fun assigned => ?_
  rcases assigned with err | ⟨agentID, registeredAt⟩
  · trivial
  refine Prog.All.perform trivial fun now => ?_
  dsimp only
  split
  · trivial
  rename_i agent hmove
  refine Prog.All.perform (Agent.coherent_of_transitionTo hmove) fun stored => ?_
  rcases stored with err | _
  · trivial
  · trivial

section

variable [UUIDText]

theorem Service.writesCoherent_heartbeat (agentID : UUID) (pvcs : List PVCInfo) :
    (Service.heartbeat agentID pvcs).All RegistryCall.WritesCoherent := by
  unfold Service.heartbeat
  refine Prog.All.perform trivial fun read => ?_
  rcases read with err | (_ | agent)
  · trivial
  · trivial
  dsimp only
  split
  · trivial
  split
  · trivial
  refine Prog.All.perform trivial fun written => ?_
  rcases written with err | _
  · trivial
  · trivial

omit [UUIDText] in
theorem HealthEvaluator.writesCoherent_evaluate (evaluator : HealthEvaluator) :
    evaluator.evaluate.All RegistryCall.WritesCoherent := by
  refine Prog.All.perform trivial fun now => Prog.All.perform trivial fun unhealthy => ?_
  rcases unhealthy with err | n
  · trivial
  refine Prog.All.perform trivial fun disconnected => ?_
  rcases disconnected with err | n'
  · trivial
  · trivial

/-- What a call of the registry upserts is coherent. -/
theorem ServiceCall.writesCoherent_serve (call : ServiceCall) :
    call.serve.All RegistryCall.WritesCoherent := by
  cases call with
  | registerAgent clusterID nodeName tools pvcs jwtNamespace =>
    exact Prog.All.bind (Service.writesCoherent_registerAgent _ _ _ _ _) fun _ => trivial
  | heartbeat agentID pvcs =>
    exact Prog.All.bind (Service.writesCoherent_heartbeat agentID pvcs) fun _ => trivial
  | evaluate evaluator => exact Prog.All.bind evaluator.writesCoherent_evaluate fun _ => trivial

end

/-! ## The invariant over runs -/

/-- The stores that the registry starts from: without agents, or migrated. -/
def Registry.Initial (reg : Registry) : Prop :=
  reg = .empty ∨ ∃ legacy : LegacyRegistry, reg = legacy.migrate

/-- The migration derives the state from the flag. -/
theorem LegacyRegistry.coherent_migrate (legacy : LegacyRegistry) (place : String × String) :
    ∀ r ∈ legacy.migrate.rowAt place, r.Coherent := by
  intro r hr
  have hset := legacy.addColumns.rowAt_updateAgents (fun r => r.healthy = false) AgentRow.setState
    AgentRow.setState_id AgentRow.setState_place place
  rw [LegacyRegistry.migrate, hset] at hr
  obtain ⟨wide, hwide, rfl⟩ := Option.mem_map.mp hr
  obtain ⟨old, -, rfl⟩ := List.mem_map.mp (Registry.rowAt_eq_some hwide).1
  cases hhealthy : old.healthy with
  | true => simp [AgentRow.Coherent, LegacyRow.widen, hhealthy]
  | false => simp [AgentRow.Coherent, LegacyRow.widen, AgentRow.setState, hhealthy]

theorem Registry.Initial.coherent {reg : Registry} (h : reg.Initial) (place : String × String) :
    ∀ r ∈ reg.rowAt place, r.Coherent := by
  rcases h with rfl | ⟨legacy, rfl⟩
  · intro r hr
    cases hr
  · exact legacy.coherent_migrate place

section

variable {ι : Type} [DecidableEq ι] {ok : ι → Env → RegistryCall → Registry → Prop}
variable {cfg cfg' : RegistryConfig ι} {tr tr' : RegistryTrace ι}

/-- Rows stay coherent while only coherent rows are upserted. -/
theorem coherent_run (hrun : Run execRegistry ok cfg tr cfg')
    (hwrites : ∀ e ∈ tr, RegistryCall.WritesCoherent e.2.1)
    (h : ∀ place, ∀ r ∈ cfg.state.rowAt place, r.Coherent) :
    ∀ place, ∀ r ∈ cfg'.state.rowAt place, r.Coherent := by
  induction hrun with
  | init => exact h
  | @step tr cfg' i env op k _ _ _ ih =>
    have hop : op.WritesCoherent := hwrites _ (List.mem_append_right _ List.mem_cons_self)
    have hbefore := ih fun e he => hwrites e (List.mem_append_left _ he)
    intro place
    show ∀ r ∈ (execRegistry env op cfg'.state).2.rowAt place, r.Coherent
    rw [Registry.rowAt_exec]
    exact coherent_onPlace hop env.now place (hbefore place) _

/-- A registration time stays in every run. -/
theorem registeredAt_run (hrun : Run execRegistry ok cfg tr cfg') {place : String × String}
    {registeredAt : Time}
    (h : (cfg.state.rowAt place).map AgentRow.registeredAt = some registeredAt) :
    (cfg'.state.rowAt place).map AgentRow.registeredAt = some registeredAt := by
  induction hrun with
  | init => exact h
  | @step tr cfg' i env op k _ _ _ ih =>
    show ((execRegistry env op cfg'.state).2.rowAt place).map AgentRow.registeredAt = _
    rw [Registry.rowAt_exec]
    exact registeredAt_onPlace op env.now place ih _

/-- Any calls, in any order, failing or not: the store satisfies its invariant in
    every state that is reached, and from there on a registration time stays. -/
theorem registry_sound [UUIDText] {calls : ι → ServiceCall} {reg : Registry} (hinitial : reg.Initial)
    (hrun : Run execRegistry (fun _ => anyEnv) (concurrently calls reg) tr cfg) :
    cfg.state.Sound ∧
    ∀ tr' cfg' place registeredAt, Run execRegistry (fun _ => anyEnv) cfg tr' cfg' →
      (cfg.state.rowAt place).map AgentRow.registeredAt = some registeredAt →
      (cfg'.state.rowAt place).map AgentRow.registeredAt = some registeredAt := by
  have hwrites : ∀ e ∈ tr, RegistryCall.WritesCoherent e.2.1 :=
    (hrun.all fun i => (calls i).writesCoherent_serve).1
  have hcoherent := coherent_run hrun hwrites hinitial.coherent
  exact ⟨Registry.sound_of_coherent hcoherent,
    fun tr' cfg' place registeredAt hrun' hbefore => registeredAt_run hrun' hbefore⟩

end

/-- An agent from before the migrations, which is not healthy. -/
def legacySample : LegacyRegistry where
  agents := ⟨[⟨7, "east", "node-1", false, 3, sampleTools, 1⟩], by decide⟩
  pvcs := .empty
  ids := by decide
  fk := by simp [Keyed.Table.empty]

/-- The agent is disconnected, and then registers again. -/
theorem registry_sound_migrated :
    ∃ tr cfg, Run execRegistry (fun _ => anyEnv)
        (@concurrently (Fin 5) canonicalText agentLife legacySample.migrate) tr cfg ∧
      cfg.state.Sound ∧ (cfg.state.rowAt ("east", "node-1")).map AgentRow.state = some .healthy ∧
      (cfg.state.rowAt ("east", "node-1")).map AgentRow.registeredAt = some 1 := by
  let ok : Fin 5 → Env → RegistryCall → Registry → Prop := fun _ => anyEnv
  let cfg₀ := @concurrently (Fin 5) canonicalText agentLife legacySample.migrate
  obtain ⟨tr, hrun⟩ := Run.after execRegistry ok cfg₀
    (steps 1 0 (400 * second) 3 ++ steps 0 7 (401 * second) 3) (by decide +kernel)
  refine ⟨tr, _, hrun, ?_, by decide +kernel, by decide +kernel⟩
  exact (@registry_sound (Fin 5) _ _ _ canonicalText _ _ (.inr ⟨legacySample, rfl⟩) hrun).1

end Katapult
