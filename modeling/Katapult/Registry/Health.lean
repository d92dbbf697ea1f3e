/-
  Katapult.Registry.Health

  What one cycle of the health evaluation makes of the agents.

  The two statements of the cycle come one after the other, so a row can cross
  both edges in one cycle.  `aged_cases` says what they make of a row; everything
  else, up to the numbers that are returned and to a second cycle that finds
  nothing to do (`evaluatedAt_of_evaluate`), is read off it.

  The age of a heartbeat is what the database makes of it: the times that it
  compares are whole microseconds.
-/

import Katapult.Registry.Sound

namespace Katapult

open Effect Effect.Prog Keyed

namespace Registry

variable {reg : Registry}

theorem row_of_mem {r : AgentRow} (hr : r ∈ reg.agents.rows) : reg.row r.id = some r := by
  have hsome : (reg.row r.id).isSome := by
    rw [row, List.find?_isSome]
    exact ⟨r, hr, by simp⟩
  obtain ⟨r', hr'⟩ := Option.isSome_iff_exists.mp hsome
  obtain ⟨hmem, hid⟩ := row_eq_some hr'
  rw [hr', List.inj_on_of_nodup_map reg.ids hmem hr hid]

/-- A statement whose condition no row meets. -/
theorem updateAgents_eq_self {cond : AgentRow → Bool} {set : AgentRow → AgentRow}
    {hid : ∀ r, (set r).id = r.id} {hplace : ∀ r, (set r).place = r.place}
    (h : ∀ r ∈ reg.agents.rows, cond r = false) : reg.updateAgents cond set hid hplace = reg := by
  have hrows : (reg.agents.rows.map fun r => if cond r then set r else r) = reg.agents.rows := by
    apply Eq.trans _ (List.map_id reg.agents.rows)
    apply List.map_congr_left
    intro r hr
    rw [h r hr]
    rfl
  have hagents : reg.agents.update cond set hplace = reg.agents := by
    unfold Table.update
    congr
  unfold updateAgents
  congr

/-- The number of agents whose states before and after are related by `crossed`. -/
def crossings (reg reg' : Registry) (crossed : AgentState → AgentState → Bool) : Nat :=
  reg.agents.rows.countP fun r => (reg'.row r.id).any fun r' => crossed r.state r'.state

end Registry

/-- An agent leaves the state healthy. -/
def leavesHealthy (s s' : AgentState) : Bool := s = .healthy && s' ≠ .healthy

/-- An agent becomes disconnected. -/
def becomesDisconnected (s s' : AgentState) : Bool := s ≠ .disconnected && s' = .disconnected

/-- The repository does not fail, and the clock shows `now`. -/
def ServesAt (now : Time) (env : Env) (_op : RegistryCall) (_reg : Registry) : Prop :=
  env.fail = none ∧ env.now = now

namespace HealthEvaluator

variable (h : HealthEvaluator) (now : Time)

/-! ## One row -/

/-- What the first statement makes of a row. -/
def marked (r : AgentRow) : AgentRow :=
  if Registry.stale .healthy (now - h.unhealthyTimeout) r then r.setUnhealthy else r

/-- What both statements make of a row. -/
def aged (r : AgentRow) : AgentRow :=
  if Registry.stale .unhealthy (now - h.disconnectedTimeout) (h.marked now r) then
    (h.marked now r).setDisconnected
  else h.marked now r

theorem stale_iff {state : AgentState} {cutoff : Time} {r : AgentRow} :
    Registry.stale state cutoff r = true ↔ r.state = state ∧ r.lastHeartbeat < cutoff := by
  simp [Registry.stale]

/-- A row stays, or crosses one of the edges, or both. -/
theorem aged_cases (r : AgentRow) :
    (h.aged now r = r ∧ (r.state = .healthy → now - h.unhealthyTimeout ≤ r.lastHeartbeat) ∧
        (r.state = .unhealthy → now - h.disconnectedTimeout ≤ r.lastHeartbeat)) ∨
      (h.aged now r = r.setUnhealthy ∧ r.state = .healthy ∧
        r.lastHeartbeat < now - h.unhealthyTimeout ∧ now - h.disconnectedTimeout ≤ r.lastHeartbeat) ∨
      (h.aged now r = r.setUnhealthy.setDisconnected ∧ r.state = .healthy ∧
        r.lastHeartbeat < now - h.unhealthyTimeout ∧ r.lastHeartbeat < now - h.disconnectedTimeout) ∨
      (h.aged now r = r.setDisconnected ∧ r.state = .unhealthy ∧
        r.lastHeartbeat < now - h.disconnectedTimeout) := by
  unfold aged marked
  by_cases hfirst : Registry.stale .healthy (now - h.unhealthyTimeout) r
  · obtain ⟨hstate, hlate⟩ := stale_iff.mp hfirst
    rw [if_pos hfirst]
    -- the second statement sees what the first one has written
    by_cases hsecond : Registry.stale .unhealthy (now - h.disconnectedTimeout) r.setUnhealthy
    · rw [if_pos hsecond]
      exact .inr (.inr (.inl ⟨rfl, hstate, hlate, (stale_iff.mp hsecond).2⟩))
    · rw [if_neg hsecond]
      have hearly : ¬ r.lastHeartbeat < now - h.disconnectedTimeout := fun hlt =>
        hsecond (stale_iff.mpr ⟨rfl, hlt⟩)
      exact .inr (.inl ⟨rfl, hstate, hlate, not_lt.mp hearly⟩)
  · rw [if_neg hfirst]
    by_cases hsecond : Registry.stale .unhealthy (now - h.disconnectedTimeout) r
    · rw [if_pos hsecond]
      exact .inr (.inr (.inr ⟨rfl, stale_iff.mp hsecond⟩))
    · rw [if_neg hsecond]
      rw [stale_iff] at hfirst hsecond
      exact .inl ⟨rfl, fun hstate => not_lt.mp fun hlt => hfirst ⟨hstate, hlt⟩,
        fun hstate => not_lt.mp fun hlt => hsecond ⟨hstate, hlt⟩⟩

/-- Identity, heartbeat and tools stay. -/
theorem aged_eq (r : AgentRow) :
    h.aged now r = { r with state := (h.aged now r).state, healthy := (h.aged now r).healthy } := by
  obtain ⟨hr, -⟩ | ⟨hr, -⟩ | ⟨hr, -⟩ | ⟨hr, -⟩ := h.aged_cases now r <;> rw [hr] <;> rfl

theorem aged_id (r : AgentRow) : (h.aged now r).id = r.id := by
  rw [aged_eq]

theorem aged_lastHeartbeat (r : AgentRow) : (h.aged now r).lastHeartbeat = r.lastHeartbeat := by
  rw [aged_eq]

theorem aged_coherent {r : AgentRow} (hr : r.Coherent) : (h.aged now r).Coherent := by
  unfold AgentRow.Coherent at hr ⊢
  obtain ⟨haged, -⟩ | ⟨haged, -⟩ | ⟨haged, -⟩ | ⟨haged, hstate, -⟩ := h.aged_cases now r <;> rw [haged]
  · exact hr
  · simp [AgentRow.setUnhealthy]
  · simp [AgentRow.setUnhealthy, AgentRow.setDisconnected]
  · have hflag : r.healthy = false := by simpa [hstate] using hr
    simp [AgentRow.setDisconnected, hflag]

/-- What is left healthy has been heard of. -/
theorem aged_fresh {r : AgentRow} (hstate : (h.aged now r).state = .healthy) :
    now - h.unhealthyTimeout ≤ r.lastHeartbeat := by
  obtain ⟨haged, hfresh, -⟩ | ⟨haged, -⟩ | ⟨haged, -⟩ | ⟨haged, -⟩ := h.aged_cases now r <;>
    rw [haged] at hstate
  · exact hfresh hstate
  all_goals cases hstate

theorem aged_known {r : AgentRow} (hstate : (h.aged now r).state = .unhealthy) :
    now - h.disconnectedTimeout ≤ r.lastHeartbeat := by
  obtain ⟨haged, -, hknown⟩ | ⟨-, -, -, hknown⟩ | ⟨haged, -⟩ | ⟨haged, -⟩ := h.aged_cases now r
  · exact hknown (haged ▸ hstate)
  · exact hknown
  all_goals
    rw [haged] at hstate
    cases hstate

/-- The first statement meets the rows that leave the state healthy. -/
theorem leavesHealthy_aged (r : AgentRow) :
    leavesHealthy r.state (h.aged now r).state =
      Registry.stale .healthy (now - h.unhealthyTimeout) r := by
  rw [Bool.eq_iff_iff, stale_iff, leavesHealthy, Bool.and_eq_true, decide_eq_true_eq, decide_eq_true_eq]
  obtain ⟨haged, hfresh, -⟩ | ⟨haged, hstate, hlate, -⟩ | ⟨haged, hstate, hlate, -⟩ |
      ⟨haged, hstate, -⟩ := h.aged_cases now r <;> rw [haged]
  · constructor
    · exact fun hleaves => absurd hleaves.1 hleaves.2
    · exact fun hstale => absurd hstale.2 (not_lt.mpr (hfresh hstale.1))
  all_goals simp [hstate, AgentRow.setUnhealthy, AgentRow.setDisconnected]
  all_goals exact hlate

/-- The second statement meets the rows that become disconnected. -/
theorem becomesDisconnected_aged (r : AgentRow) :
    becomesDisconnected r.state (h.aged now r).state =
      Registry.stale .unhealthy (now - h.disconnectedTimeout) (h.marked now r) := by
  unfold aged
  by_cases hstale : Registry.stale .unhealthy (now - h.disconnectedTimeout) (h.marked now r)
  · rw [if_pos hstale, hstale]
    have hstate : r.state ≠ .disconnected := by
      intro hstate
      have hmarked := (stale_iff.mp hstale).1
      simp [marked, Registry.stale, hstate] at hmarked
    simp [becomesDisconnected, AgentRow.setDisconnected, hstate]
  · -- the first statement alone disconnects nobody
    rw [if_neg hstale, Bool.eq_false_of_not_eq_true hstale]
    unfold marked
    split
    · simp [becomesDisconnected, AgentRow.setUnhealthy]
    · simp [becomesDisconnected]

/-! ## All rows -/

/-- Both statements, on all rows. -/
def after (reg : Registry) : Registry :=
  (reg.markUnhealthy (now - h.unhealthyTimeout)).markDisconnected (now - h.disconnectedTimeout)

variable {h now} {reg : Registry}

theorem rows_markUnhealthy :
    (reg.markUnhealthy (now - h.unhealthyTimeout)).agents.rows = reg.agents.rows.map (h.marked now) :=
  rfl

theorem rows_after : (h.after now reg).agents.rows = reg.agents.rows.map (h.aged now) := by
  show List.map _ (List.map _ reg.agents.rows) = _
  rw [List.map_map]
  rfl

theorem ids_after : (h.after now reg).agents.ids = reg.agents.ids := by
  rw [AgentTable.ids, rows_after, List.map_map]
  apply List.map_congr_left
  intro r _
  exact h.aged_id now r

theorem row_after {r : AgentRow} (hr : r ∈ reg.agents.rows) :
    (h.after now reg).row r.id = some (h.aged now r) := by
  have hmem : h.aged now r ∈ (h.after now reg).agents.rows := by
    rw [rows_after]
    exact List.mem_map_of_mem hr
  have hrow := Registry.row_of_mem hmem
  rw [aged_id] at hrow
  exact hrow

/-- How many rows cross an edge, counted row by row. -/
theorem crossings_after (crossed : AgentState → AgentState → Bool) :
    reg.crossings (h.after now reg) crossed =
      reg.agents.rows.countP fun r => crossed r.state (h.aged now r).state := by
  apply List.countP_congr
  intro r hr
  rw [row_after hr, Option.any_some]

/-- What is left after a cycle is for no statement of a second one. -/
theorem not_stale_after {r' : AgentRow} (hr' : r' ∈ (h.after now reg).agents.rows) :
    Registry.stale .healthy (now - h.unhealthyTimeout) r' = false ∧
      Registry.stale .unhealthy (now - h.disconnectedTimeout) r' = false := by
  rw [rows_after] at hr'
  obtain ⟨r, -, rfl⟩ := List.mem_map.mp hr'
  constructor
  · rw [Bool.eq_false_iff, ne_eq, stale_iff, aged_lastHeartbeat]
    exact fun hstale => absurd hstale.2 (not_lt.mpr (h.aged_fresh now hstale.1))
  · rw [Bool.eq_false_iff, ne_eq, stale_iff, aged_lastHeartbeat]
    exact fun hstale => absurd hstale.2 (not_lt.mpr (h.aged_known now hstale.1))

theorem after_after : h.after now (h.after now reg) = h.after now reg := by
  have hfirst : (h.after now reg).markUnhealthy (now - h.unhealthyTimeout) = h.after now reg :=
    Registry.updateAgents_eq_self fun r' hr' => (not_stale_after hr').1
  show Registry.markDisconnected _ ((h.after now reg).markUnhealthy _) = _
  rw [hfirst]
  exact Registry.updateAgents_eq_self fun r' hr' => (not_stale_after hr').2

/-! ## One cycle -/

variable (h now reg) in
/-- What a cycle returns. -/
def counts : Nat × Nat :=
  (reg.agents.rows.countP (Registry.stale .healthy (now - h.unhealthyTimeout)),
    (reg.markUnhealthy (now - h.unhealthyTimeout)).agents.rows.countP
      (Registry.stale .unhealthy (now - h.disconnectedTimeout)))

theorem wp_evaluate {evs : List RegistryEv} :
    wp execRegistry (ServesAt now) h.evaluate
      (fun out _ reg' => out = ((h.counts now reg).1, (h.counts now reg).2, none) ∧
        reg' = h.after now reg) evs reg := by
  -- one reading of the clock serves both statements
  intro clock hclock
  obtain ⟨-, rfl⟩ := hclock
  intro first hfirst
  simp only [execRegistry, Env.count, hfirst.1]
  intro second hsecond
  simp only [execRegistry, Env.count, hsecond.1]
  exact ⟨rfl, rfl⟩

theorem counts_eq :
    h.counts now reg =
      (reg.crossings (h.after now reg) leavesHealthy,
        reg.crossings (h.after now reg) becomesDisconnected) := by
  rw [counts, crossings_after, crossings_after, rows_markUnhealthy, List.countP_map]
  simp only [leavesHealthy_aged, becomesDisconnected_aged]
  rfl

theorem counts_after : h.counts now (h.after now reg) = (0, 0) := by
  have hfirst : (h.after now reg).markUnhealthy (now - h.unhealthyTimeout) = h.after now reg :=
    Registry.updateAgents_eq_self fun r' hr' => (not_stale_after hr').1
  rw [counts, hfirst, Prod.mk.injEq, List.countP_eq_zero, List.countP_eq_zero]
  constructor
  · exact fun r' hr' => Bool.eq_false_iff.mp (not_stale_after hr').1
  · exact fun r' hr' => Bool.eq_false_iff.mp (not_stale_after hr').2

end HealthEvaluator

/-- What a cycle at `now` that returns these numbers has made of the agents. -/
structure EvaluatedAt (h : HealthEvaluator) (now : Time) (reg reg' : Registry)
    (unhealthy disconnected : Nat) : Prop where
  freshHealthy : ∀ r' ∈ reg'.agents.rows, r'.healthy = true ∨ r'.state = .healthy →
    now - h.unhealthyTimeout ≤ r'.lastHeartbeat
  freshUnhealthy : ∀ r' ∈ reg'.agents.rows, r'.state = .unhealthy →
    now - h.disconnectedTimeout ≤ r'.lastHeartbeat
  leftHealthy : unhealthy = reg.crossings reg' leavesHealthy
  becameDisconnected : disconnected = reg.crossings reg' becomesDisconnected
  kept : ∀ r ∈ reg.agents.rows,
    (r.state = .healthy ∧ now - h.unhealthyTimeout ≤ r.lastHeartbeat) ∨ r.state = .disconnected ∨
      r.state = .registering → reg'.row r.id = some r
  /-- Only the state and its flag change. -/
  frame : ∀ r ∈ reg.agents.rows, ∃ r', reg'.row r.id = some r' ∧
    r' = { r with state := r'.state, healthy := r'.healthy }
  ids : reg'.agents.ids = reg.agents.ids
  pvcs : reg'.pvcs = reg.pvcs
  bothLate : ∀ r ∈ reg.agents.rows, ∀ r' ∈ reg'.row r.id, r.state = .healthy →
    r'.state = .disconnected →
      r.lastHeartbeat < now - h.unhealthyTimeout ∧ r.lastHeartbeat < now - h.disconnectedTimeout

theorem evaluatedAt_after {h : HealthEvaluator} {now : Time} {reg : Registry}
    (hcoherent : ∀ r ∈ reg.agents.rows, r.Coherent) :
    EvaluatedAt h now reg (h.after now reg) (h.counts now reg).1 (h.counts now reg).2 where
  freshHealthy r' hr' hhealthy := by
    rw [HealthEvaluator.rows_after] at hr'
    obtain ⟨r, hr, rfl⟩ := List.mem_map.mp hr'
    -- the flag says the same as the state, before and after
    have hstate : (h.aged now r).state = .healthy :=
      hhealthy.elim (h.aged_coherent now (hcoherent r hr)).mp id
    rw [HealthEvaluator.aged_lastHeartbeat]
    exact h.aged_fresh now hstate
  freshUnhealthy r' hr' hstate := by
    rw [HealthEvaluator.rows_after] at hr'
    obtain ⟨r, -, rfl⟩ := List.mem_map.mp hr'
    rw [HealthEvaluator.aged_lastHeartbeat]
    exact h.aged_known now hstate
  leftHealthy := congrArg Prod.fst HealthEvaluator.counts_eq
  becameDisconnected := congrArg Prod.snd HealthEvaluator.counts_eq
  kept r hr hkept := by
    rw [HealthEvaluator.row_after hr]
    obtain ⟨haged, -⟩ | ⟨-, hstate, hlate, -⟩ | ⟨-, hstate, hlate, -⟩ | ⟨-, hstate, -⟩ :=
      h.aged_cases now r
    · exact congrArg some haged
    all_goals
      simp only [hstate, true_and, reduceCtorEq, false_and, or_false] at hkept
    · exact absurd hlate (not_lt.mpr hkept)
    · exact absurd hlate (not_lt.mpr hkept)
  frame r hr := ⟨h.aged now r, HealthEvaluator.row_after hr, h.aged_eq now r⟩
  ids := HealthEvaluator.ids_after
  pvcs := rfl
  bothLate r hr r' hr' hstate hstate' := by
    rw [HealthEvaluator.row_after hr] at hr'
    obtain rfl := Option.some.inj hr'
    -- only one case leads from healthy to disconnected
    obtain ⟨haged, -⟩ | ⟨haged, -⟩ | ⟨-, -, hlate⟩ | ⟨-, hstate'', -⟩ := h.aged_cases now r
    · rw [haged, hstate] at hstate'
      cases hstate'
    · rw [haged] at hstate'
      cases hstate'
    · exact hlate
    · rw [hstate] at hstate''
      cases hstate''

/-- A cycle at `now` without an error of the repository evaluates the agents, whatever the two
    timeouts are; a second one finds nothing to do. -/
theorem evaluatedAt_of_evaluate {h : HealthEvaluator} {now : Time} {reg reg' : Registry}
    {tr : List RegistryEv} {out : Nat × Nat × Option Err}
    (hcoherent : ∀ r ∈ reg.agents.rows, r.Coherent)
    (hrun : Exec execRegistry (ServesAt now) h.evaluate reg tr out reg') :
    (∃ unhealthy disconnected, out = (unhealthy, disconnected, none) ∧
        EvaluatedAt h now reg reg' unhealthy disconnected) ∧
      ∀ again out' reg'', Exec execRegistry (ServesAt now) h.evaluate reg' again out' reg'' →
        out' = (0, 0, none) ∧ reg'' = reg' := by
  obtain ⟨rfl, rfl⟩ := wp_sound (@HealthEvaluator.wp_evaluate _ _ _ []) hrun
  refine ⟨⟨_, _, rfl, evaluatedAt_after hcoherent⟩, fun again out' reg'' hagain => ?_⟩
  obtain ⟨rfl, rfl⟩ := wp_sound (@HealthEvaluator.wp_evaluate _ _ _ []) hagain
  rw [HealthEvaluator.counts_after]
  exact ⟨rfl, HealthEvaluator.after_after⟩

/-- An agent of the fleet, last heard of after so many seconds. -/
def fleetAgent (id : Nat) (nodeName : String) (state : AgentState) (seconds : Int) : AgentRow where
  id := id
  clusterID := "east"
  nodeName := nodeName
  state := state
  healthy := state = .healthy
  lastHeartbeat := seconds * second
  tools := {}
  registeredAt := 0
  jwtNamespace := ""

/-- Two agents stand exactly at a cutoff of 90 seconds, or of five minutes, before the second 1000. -/
def sampleFleet : Registry where
  agents :=
    { rows :=
        [fleetAgent 1 "node-1" .healthy 910, fleetAgent 2 "node-2" .healthy 700,
          fleetAgent 3 "node-3" .healthy 699, fleetAgent 4 "node-4" .unhealthy 100,
          fleetAgent 5 "node-5" .registering 100]
      nodup := by decide }
  pvcs := .empty
  ids := by decide
  fk := by simp [Table.empty]

/-- Two agents leave the state healthy, and one of these and another one become disconnected. -/
theorem evaluatedAt_sampleFleet :
    ∃ tr reg', Exec execRegistry (ServesAt (1000 * second))
        (HealthEvaluator.evaluate ⟨90 * second, 300 * second⟩) sampleFleet tr (2, 2, none) reg' ∧
      EvaluatedAt ⟨90 * second, 300 * second⟩ (1000 * second) sampleFleet reg' 2 2 := by
  have hserves : ∀ op s, ∃ env, ServesAt (1000 * second) env op s := fun _ _ =>
    ⟨{ now := 1000 * second }, rfl, rfl⟩
  obtain ⟨tr, out, reg', hrun⟩ := exists_exec hserves
    (HealthEvaluator.evaluate ⟨90 * second, 300 * second⟩) sampleFleet
  have hcoherent : ∀ r ∈ sampleFleet.agents.rows, r.Coherent := by decide
  obtain ⟨hout, -⟩ := wp_sound (@HealthEvaluator.wp_evaluate _ _ _ []) hrun
  have hcounts : (HealthEvaluator.counts ⟨90 * second, 300 * second⟩ (1000 * second) sampleFleet) =
      (2, 2) := by decide
  rw [hcounts] at hout
  obtain ⟨⟨unhealthy, disconnected, hout', hevaluated⟩, -⟩ := evaluatedAt_of_evaluate hcoherent hrun
  obtain ⟨rfl, rfl⟩ : unhealthy = 2 ∧ disconnected = 2 := by
    rw [hout] at hout'
    cases hout'
    exact ⟨rfl, rfl⟩
  exact ⟨tr, reg', hout ▸ hrun, hevaluated⟩

end Katapult
