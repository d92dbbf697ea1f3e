/-
  Katapult.Registry.Detector

  The health evaluation as a failure detector: evaluation loops beside any number
  of registrations and heartbeats, interleaved call by call.

  What an agent is stored as depends on what has happened since it was last heard
  of, and on nothing before.  It is unhealthy once an evaluation has read a time
  that is more than one timeout after its last heartbeat, and disconnected once
  another statement has done the same with the other timeout (`detected_of_run`).
  Nothing but a registration or a heartbeat makes it healthy again.
-/

import Katapult.Registry.Concurrent

namespace Katapult

open Effect

/-! ## The loop -/

/-- `RunLoop`, up to a number of ticks; an evaluation that fails is only logged. -/
def HealthEvaluator.runLoop (h : HealthEvaluator) : Nat → Registrar Unit
  | 0 => return ()
  | ticks + 1 => do
    let _ ← h.evaluate
    h.runLoop ticks

/-- What runs on the registry. -/
inductive Duty where
  | serve (call : ServiceCall)
  | runLoop (evaluator : HealthEvaluator) (ticks : Nat)

namespace Duty

def run [UUIDText] : Duty → Registrar Unit
  | .serve call => do
    let _ ← call.serve
    return ()
  | .runLoop evaluator ticks => evaluator.runLoop ticks

def evaluator : Duty → Option HealthEvaluator
  | .serve (.evaluate evaluator) | .runLoop evaluator _ => some evaluator
  | .serve (.registerAgent ..) | .serve (.heartbeat ..) => none

/-- What it may write, after the history `h` of its own calls: healthy agents, and
    marks by a cutoff that it has computed from its own reading of the clock. -/
def Permits (duty : Duty) (h : List RegistryEv) : RegistryCall → Prop
  | .upsertAgent agent => agent.state = .healthy
  | .markUnhealthy cutoff => ∃ evaluator ∈ duty.evaluator, ∃ now, ⟨.timeNow, now⟩ ∈ h ∧
      cutoff = now - evaluator.unhealthyTimeout
  | .markDisconnected cutoff => ∃ evaluator ∈ duty.evaluator, ∃ now, ⟨.timeNow, now⟩ ∈ h ∧
      cutoff = now - evaluator.disconnectedTimeout
  | _ => True

end Duty

/-- A call of a registration or a heartbeat. -/
def RegistryCall.Hears : RegistryCall → Prop
  | .upsertAgent agent => agent.state = .healthy
  | .markUnhealthy _ | .markDisconnected _ => False
  | _ => True

theorem Agent.healthy_of_transitionTo {agent agent' : Agent} {target : AgentState}
    (h : agent.transitionTo target = .ok agent') : agent'.state = target := by
  unfold Agent.transitionTo at h
  split at h
  · cases h
    rfl
  · cases h

theorem Service.hears_registerAgent (clusterID nodeName : String) (tools : ToolVersions)
    (pvcs : List PVCInfo) (jwtNamespace : String) :
    (Service.registerAgent clusterID nodeName tools pvcs jwtNamespace).All RegistryCall.Hears := by
  unfold Service.registerAgent
  split
  · trivial
  refine Prog.All.perform trivial fun read => ?_
  rcases read with err | existing
  · trivial
  have hassign : (Service.assignID existing jwtNamespace).All RegistryCall.Hears := by
    unfold Service.assignID
    cases existing with
    | none => exact ⟨trivial, fun agentID => ⟨trivial, fun registeredAt => trivial⟩⟩
    | some old =>
      dsimp only
      split
      · trivial
      · trivial
  refine Prog.All.bind hassign fun assigned => ?_
  rcases assigned with err | ⟨agentID, registeredAt⟩
  · trivial
  refine Prog.All.perform trivial fun now => ?_
  dsimp only
  split
  · trivial
  rename_i agent hmove
  refine Prog.All.perform (Agent.healthy_of_transitionTo hmove) fun stored => ?_
  rcases stored with err | _
  · trivial
  · trivial

section

variable [UUIDText]

theorem Service.hears_heartbeat (agentID : UUID) (pvcs : List PVCInfo) :
    (Service.heartbeat agentID pvcs).All RegistryCall.Hears := by
  unfold Service.heartbeat
  refine Prog.All.perform trivial fun read => ?_
  rcases read with err | (_ | agent)
  · trivial
  · trivial
  dsimp only
  split
  · trivial
  split
  · trivial
  refine Prog.All.perform trivial fun written => ?_
  rcases written with err | _
  · trivial
  · trivial

omit [UUIDText] in
theorem Duty.permits_of_hears {duty : Duty} {op : RegistryCall} (hop : op.Hears)
    (h : List RegistryEv) : duty.Permits h op := by
  cases op with
  | upsertAgent agent => exact hop
  | markUnhealthy cutoff => exact hop.elim
  | markDisconnected cutoff => exact hop.elim
  | newUUID | timeNow | getAgentByID | getAgentByClusterAndNode | updateHeartbeat => trivial

omit [UUIDText] in
/-- Each evaluation reads the clock before it marks. -/
theorem Duty.obeyed_evaluate {duty : Duty} {evaluator : HealthEvaluator}
    (hevaluator : evaluator ∈ duty.evaluator) (h : List RegistryEv) :
    Prog.Obeys history duty.Permits (fun _ _ => True) h evaluator.evaluate := by
  refine Prog.Obeys.perform trivial fun now => ?_
  have hnow : (⟨.timeNow, now⟩ : RegistryEv) ∈ history h ⟨.timeNow, now⟩ :=
    List.mem_append_right _ (List.mem_singleton_self _)
  refine Prog.Obeys.perform ⟨evaluator, hevaluator, now, hnow, rfl⟩ fun unhealthy => ?_
  rcases unhealthy with err | n
  · trivial
  refine Prog.Obeys.perform ⟨evaluator, hevaluator, now, List.mem_append_left _ hnow, rfl⟩
    fun disconnected => ?_
  rcases disconnected with err | n'
  · trivial
  · trivial

omit [UUIDText] in
theorem Duty.obeyed_runLoop {duty : Duty} {evaluator : HealthEvaluator}
    (hevaluator : evaluator ∈ duty.evaluator) (ticks : Nat) (h : List RegistryEv) :
    Prog.Obeys history duty.Permits (fun _ _ => True) h (evaluator.runLoop ticks) := by
  induction ticks generalizing h with
  | zero => trivial
  | succ ticks ih => exact Prog.Obeys.bind ((Duty.obeyed_evaluate hevaluator h).mono fun _ h' _ => ih h')

theorem Duty.obeyed_run (duty : Duty) :
    Prog.Obeys history duty.Permits (fun _ _ => True) [] duty.run := by
  cases duty with
  | serve call =>
    cases call with
    | registerAgent clusterID nodeName tools pvcs jwtNamespace =>
      refine Prog.Obeys.of_forall (Prog.All.bind (Prog.All.bind
        ((Service.hears_registerAgent _ _ _ _ _).mono fun op hop => ?_) fun _ => trivial) fun _ => trivial)
      exact Duty.permits_of_hears hop
    | heartbeat agentID pvcs =>
      refine Prog.Obeys.of_forall (Prog.All.bind (Prog.All.bind
        ((Service.hears_heartbeat _ _).mono fun op hop => ?_) fun _ => trivial) fun _ => trivial)
      exact Duty.permits_of_hears hop
    | evaluate evaluator =>
      refine Prog.Obeys.bind (Prog.Obeys.bind ((Duty.obeyed_evaluate rfl []).mono fun _ _ _ => ?_))
      trivial
  | runLoop evaluator ticks => exact Duty.obeyed_runLoop rfl ticks []

end

/-! ## From one heartbeat to the next -/

/-- The agent of a place is heard of. -/
def RegistryEv.refreshes (place : String × String) (id : UUID) : RegistryEv → Bool
  | ⟨.upsertAgent agent, .ok _⟩ => agent.place = place
  | ⟨.updateHeartbeat agentID _, .ok _⟩ => agentID = id
  | _ => false

/-- What an evaluation marks agents as. -/
inductive Mark where
  | unhealthy | disconnected

def Mark.timeout (evaluator : HealthEvaluator) : Mark → Duration
  | .unhealthy => evaluator.unhealthyTimeout
  | .disconnected => evaluator.disconnectedTimeout

/-- The cutoff by which a statement has marked agents. -/
def RegistryEv.cutoff : Mark → RegistryEv → Option Time
  | .unhealthy, ⟨.markUnhealthy cutoff, .ok _⟩ => some cutoff
  | .disconnected, ⟨.markDisconnected cutoff, .ok _⟩ => some cutoff
  | _, _ => none

/-- It is later than `stamp`. -/
def RegistryEv.marks (mark : Mark) (stamp : Time) (ev : RegistryEv) : Bool :=
  (RegistryEv.cutoff mark ev).any fun cutoff => stamp < cutoff

/-- The cutoff of a mark is one timeout before a reading of the clock. -/
theorem Duty.reading_of_permits {duty : Duty} {h : List RegistryEv} {ev : RegistryEv} {mark : Mark}
    {cutoff : Time} (hpermits : duty.Permits h ev.1) (hcutoff : RegistryEv.cutoff mark ev = some cutoff) :
    ∃ evaluator ∈ duty.evaluator, ∃ now, ⟨.timeNow, now⟩ ∈ h ∧ cutoff = now - mark.timeout evaluator := by
  unfold RegistryEv.cutoff at hcutoff
  split at hcutoff
  · cases hcutoff
    exact hpermits
  · cases hcutoff
    exact hpermits
  · cases hcutoff

/-- The state after an entry that does not refresh it. -/
def AgentState.age (stamp : Time) (s : AgentState) (ev : RegistryEv) : AgentState :=
  if s = .healthy ∧ ev.marks .unhealthy stamp = true then .unhealthy
  else if s = .unhealthy ∧ ev.marks .disconnected stamp = true then .disconnected
  else s

section

variable {stamp : Time} {start : AgentState} {evs : List RegistryEv}

theorem AgentState.age_eq_healthy {s : AgentState} {ev : RegistryEv} :
    s.age stamp ev = .healthy ↔ s = .healthy ∧ ev.marks .unhealthy stamp = false := by
  unfold AgentState.age
  cases s <;> cases ev.marks .unhealthy stamp <;> cases ev.marks .disconnected stamp <;> decide

theorem AgentState.age_eq_registering {s : AgentState} {ev : RegistryEv} :
    s.age stamp ev = .registering ↔ s = .registering := by
  unfold AgentState.age
  cases s <;> cases ev.marks .unhealthy stamp <;> cases ev.marks .disconnected stamp <;> decide

theorem AgentState.age_eq_disconnected {s : AgentState} {ev : RegistryEv} :
    s.age stamp ev = .disconnected ↔
      s = .disconnected ∨ s = .unhealthy ∧ ev.marks .disconnected stamp = true := by
  unfold AgentState.age
  cases s <;> cases ev.marks .unhealthy stamp <;> cases ev.marks .disconnected stamp <;> decide

theorem foldl_age_healthy : evs.foldl (AgentState.age stamp) start = .healthy ↔
    start = .healthy ∧ ∀ ev ∈ evs, ev.marks .unhealthy stamp = false := by
  induction evs using List.reverseRecOn with
  | nil => simp
  | append_singleton evs ev ih =>
    rw [List.foldl_append, List.foldl_cons, List.foldl_nil, AgentState.age_eq_healthy, ih,
      List.forall_mem_append, List.forall_mem_singleton, and_assoc]

theorem foldl_age_registering :
    evs.foldl (AgentState.age stamp) start = .registering ↔ start = .registering := by
  induction evs using List.reverseRecOn with
  | nil => rfl
  | append_singleton evs ev ih =>
    rw [List.foldl_append, List.foldl_cons, List.foldl_nil, AgentState.age_eq_registering, ih]

theorem foldl_age_of_disconnected :
    evs.foldl (AgentState.age stamp) .disconnected = .disconnected := by
  induction evs using List.reverseRecOn with
  | nil => rfl
  | append_singleton evs ev ih =>
    rw [List.foldl_append, List.foldl_cons, List.foldl_nil, AgentState.age_eq_disconnected]
    exact .inl ih

/-- What is not healthy any more has been marked. -/
theorem foldl_age_marked :
    (evs.foldl (AgentState.age stamp) start = .unhealthy ∨
      evs.foldl (AgentState.age stamp) start = .disconnected) ↔
      start = .disconnected ∨ start = .unhealthy ∨
        start = .healthy ∧ ∃ ev ∈ evs, ev.marks .unhealthy stamp = true := by
  have hhealthy : evs.foldl (AgentState.age stamp) start = .healthy ↔ _ := foldl_age_healthy
  have hregistering : evs.foldl (AgentState.age stamp) start = .registering ↔ _ :=
    foldl_age_registering
  have hexists : (∃ ev ∈ evs, ev.marks .unhealthy stamp = true) ↔
      ¬ ∀ ev ∈ evs, ev.marks .unhealthy stamp = false := by
    simp
  rw [hexists]
  generalize evs.foldl (AgentState.age stamp) start = s at hhealthy hregistering ⊢
  cases s <;> cases start <;> simp_all

/-- It takes two statements, one after the other. -/
theorem foldl_age_disconnected : evs.foldl (AgentState.age stamp) start = .disconnected ↔
    start = .disconnected ∨ ∃ before ev after, evs = before ++ ev :: after ∧
      ev.marks .disconnected stamp = true ∧
      (start = .unhealthy ∨ start = .healthy ∧ ∃ ev' ∈ before, ev'.marks .unhealthy stamp = true) := by
  induction evs using List.reverseRecOn with
  | nil => simp
  | append_singleton evs ev ih =>
    rw [List.foldl_append, List.foldl_cons, List.foldl_nil, AgentState.age_eq_disconnected]
    constructor
    · rintro (hold | ⟨hun, hev⟩)
      · refine (ih.mp hold).imp_right ?_
        rintro ⟨before, ev', after, rfl, h⟩
        exact ⟨before, ev', after ++ [ev], by simp, h⟩
      · rcases foldl_age_marked.mp (.inl hun) with hstart | hstart
        · exact .inl hstart
        · exact .inr ⟨evs, ev, [], rfl, hev, hstart⟩
    · rintro (rfl | ⟨before, ev', after, hsplit, hev', hstart⟩)
      · exact .inl foldl_age_of_disconnected
      rcases List.eq_nil_or_concat after with rfl | ⟨after, last, rfl⟩
      · obtain ⟨rfl, hlast⟩ := List.append_inj' hsplit rfl
        obtain rfl : ev = ev' := List.singleton_inj.mp hlast
        rcases foldl_age_marked.mpr (.inr hstart) with hun | hold
        · exact .inr ⟨hun, hev'⟩
        · exact .inl hold
      · rw [List.concat_eq_append, ← List.cons_append, ← List.append_assoc] at hsplit
        obtain ⟨rfl, -⟩ := List.append_inj' hsplit rfl
        exact .inl (ih.mpr (.inr ⟨before, ev', after, rfl, hev', hstart⟩))

end

/-- What a call makes of the row of a place: it is heard of, or it ages. -/
theorem RegistryCall.onPlace_cases {now : Time} {place : String × String} {row : Option AgentRow}
    {op : RegistryCall} {a : op.Ans} {r' : AgentRow} (hafter : op.onPlace now place row a = some r')
    (hhealthy : ∀ agent, op = .upsertAgent agent → agent.state = .healthy) :
    (RegistryEv.refreshes place r'.id ⟨op, a⟩ = true ∧ r'.state = .healthy) ∨
      RegistryEv.refreshes place r'.id ⟨op, a⟩ = false ∧ ∃ r, row = some r ∧ r.id = r'.id ∧
        r.lastHeartbeat = r'.lastHeartbeat ∧ r'.state = r.state.age r.lastHeartbeat ⟨op, a⟩ := by
  have hsame : ∀ ev : RegistryEv, ev.marks .unhealthy r'.lastHeartbeat = false →
      ev.marks .disconnected r'.lastHeartbeat = false → r'.state = r'.state.age r'.lastHeartbeat ev := by
    intro ev hunhealthy hdisconnected
    simp [AgentState.age, hunhealthy, hdisconnected]
  cases op with
  | newUUID | timeNow => exact .inr ⟨rfl, r', hafter, rfl, rfl, hsame _ rfl rfl⟩
  | getAgentByID id | getAgentByClusterAndNode clusterID nodeName =>
    exact .inr ⟨rfl, r', hafter, rfl, rfl, hsame _ rfl rfl⟩
  | upsertAgent agent =>
    rcases a with err | _
    · exact .inr ⟨rfl, r', hafter, rfl, rfl, hsame _ rfl rfl⟩
    by_cases hplace : agent.place = place
    · refine .inl ⟨decide_eq_true hplace, ?_⟩
      rw [RegistryCall.onPlace, if_pos hplace] at hafter
      rw [← hhealthy agent rfl, ← Option.some.inj hafter]
      cases row with
      | none => rfl
      | some old => rfl
    · rw [RegistryCall.onPlace, if_neg hplace] at hafter
      exact .inr ⟨decide_eq_false hplace, r', hafter, rfl, rfl, hsame _ rfl rfl⟩
  | updateHeartbeat agentID pvcs =>
    rcases a with err | _
    · exact .inr ⟨rfl, r', hafter, rfl, rfl, hsame _ rfl rfl⟩
    obtain ⟨r, rfl, hset⟩ := Option.map_eq_some_iff.mp hafter
    by_cases hid : r.id = agentID
    · rw [if_pos hid] at hset
      rw [← hset]
      exact .inl ⟨decide_eq_true hid.symm, rfl⟩
    · rw [if_neg hid] at hset
      rw [← hset]
      exact .inr ⟨decide_eq_false (Ne.symm hid), r, rfl, rfl, rfl, hset ▸ hsame _ rfl rfl⟩
  | markUnhealthy cutoff =>
    rcases a with err | n
    · exact .inr ⟨rfl, r', hafter, rfl, rfl, hsame _ rfl rfl⟩
    obtain ⟨r, rfl, hset⟩ := Option.map_eq_some_iff.mp hafter
    refine .inr ⟨rfl, r, rfl, ?_⟩
    rw [← hset]
    by_cases hstale : Registry.stale .healthy cutoff r = true
    · obtain ⟨hstate, hlate⟩ := of_decide_eq_true hstale
      rw [if_pos hstale]
      exact ⟨rfl, rfl, (if_pos ⟨hstate, decide_eq_true hlate⟩).symm⟩
    · rw [if_neg hstale]
      refine ⟨rfl, rfl, ((if_neg fun h => hstale ?_).trans (if_neg fun h => ?_)).symm⟩
      · exact decide_eq_true ⟨h.1, of_decide_eq_true h.2⟩
      · cases h.2
  | markDisconnected cutoff =>
    rcases a with err | n
    · exact .inr ⟨rfl, r', hafter, rfl, rfl, hsame _ rfl rfl⟩
    obtain ⟨r, rfl, hset⟩ := Option.map_eq_some_iff.mp hafter
    refine .inr ⟨rfl, r, rfl, ?_⟩
    rw [← hset]
    by_cases hstale : Registry.stale .unhealthy cutoff r = true
    · obtain ⟨hstate, hlate⟩ := of_decide_eq_true hstale
      rw [if_pos hstale]
      refine ⟨rfl, rfl, ((if_neg fun h => ?_).trans (if_pos ⟨hstate, decide_eq_true hlate⟩)).symm⟩
      cases h.2
    · rw [if_neg hstale]
      refine ⟨rfl, rfl, ((if_neg fun h => ?_).trans (if_neg fun h => hstale ?_)).symm⟩
      · cases h.2
      · exact decide_eq_true ⟨h.1, of_decide_eq_true h.2⟩

/-! ## Runs -/

section

variable {ι : Type} [DecidableEq ι] [UUIDText]

/-- Any duties, on one registry. -/
def onDuty (duties : ι → Duty) (reg : Registry) :
    Config RegistryCall RegistryCall.Ans Unit ι Registry where
  procs i := (duties i).run
  state := reg

variable {duties : ι → Duty} {reg : Registry} {tr : RegistryTrace ι}
variable {ok : ι → Env → RegistryCall → Registry → Prop}
variable {cfg : Config RegistryCall RegistryCall.Ans Unit ι Registry}

/-- The agent of a place, which is `r` by now, was last heard of at the end of `past`
    and left there in the state `start`; or it has been there from the beginning. -/
def LastHeard (reg : Registry) (place : String × String) (past : RegistryTrace ι) (start : AgentState)
    (r : AgentRow) : Prop :=
  (∃ before e, past = before ++ [e] ∧ RegistryEv.refreshes place r.id e.2 = true ∧ start = .healthy) ∨
    past = [] ∧ ∃ r₀, reg.rowAt place = some r₀ ∧ r₀.id = r.id ∧ r₀.lastHeartbeat = r.lastHeartbeat ∧
      r₀.state = start

/-- A statement `e` of an evaluation that has read a time more than its timeout after `stamp`. -/
def Overdue (duties : ι → Duty) (tr : RegistryTrace ι) (mark : Mark) (stamp : Time)
    (e : ι × RegistryEv) : Prop :=
  ∃ evaluator ∈ (duties e.1).evaluator, ∃ now, (e.1, ⟨.timeNow, now⟩) ∈ tr ∧
    RegistryEv.cutoff mark e.2 = some (now - mark.timeout evaluator) ∧
    stamp + mark.timeout evaluator < now

/-- What an agent is stored as, after `since` from the state `start`. -/
structure DetectedSince (duties : ι → Duty) (tr since : RegistryTrace ι) (start : AgentState)
    (r : AgentRow) : Prop where
  registering : r.state = .registering ↔ start = .registering
  healthy : r.state = .healthy ↔
    start = .healthy ∧ ∀ e ∈ since, ¬ Overdue duties tr .unhealthy r.lastHeartbeat e
  disconnected : r.state = .disconnected ↔ start = .disconnected ∨
    ∃ before e after, since = before ++ e :: after ∧
      Overdue duties tr .disconnected r.lastHeartbeat e ∧
      (start = .unhealthy ∨
        start = .healthy ∧ ∃ e' ∈ before, Overdue duties tr .unhealthy r.lastHeartbeat e')

/-- An agent is stored as what the evaluations since it was last heard of make of it. -/
def Detected (duties : ι → Duty) (reg : Registry) (tr : RegistryTrace ι) (place : String × String)
    (r : AgentRow) : Prop :=
  ∃ past since start, tr = past ++ since ∧ LastHeard reg place past start r ∧
    (∀ e ∈ since, RegistryEv.refreshes place r.id e.2 = false) ∧ DetectedSince duties tr since start r

omit [DecidableEq ι] [UUIDText] in
theorem LastHeard.congr {place : String × String} {past : RegistryTrace ι} {start : AgentState}
    {r r' : AgentRow} (hid : r.id = r'.id) (hstamp : r.lastHeartbeat = r'.lastHeartbeat)
    (h : LastHeard reg place past start r) : LastHeard reg place past start r' := by
  unfold LastHeard at h ⊢
  rwa [← hid, ← hstamp]

/-- What has been permitted to a duty, it has done after reading the clock. -/
theorem permits_of_mem (hrun : Run execRegistry ok (onDuty duties reg) tr cfg) {i : ι} {ev : RegistryEv}
    (he : (i, ev) ∈ tr) : ∃ h, (duties i).Permits h ev.1 ∧ ∀ ev' ∈ h, (i, ev') ∈ tr := by
  obtain ⟨before, after, hsplit⟩ := List.append_of_mem (Trace.mem_local.mpr he)
  have hpermitted := (hrun.obeys_local i (duties i).obeyed_run).1
  rw [hsplit, permitted_append, foldl_history] at hpermitted
  refine ⟨[] ++ before, hpermitted.2.1, fun ev' hev' => Trace.mem_local.mp ?_⟩
  rw [hsplit]
  exact List.mem_append_left _ hev'

/-- The age of a row, in every run. -/
theorem aged_of_run (hrun : Run execRegistry ok (onDuty duties reg) tr cfg) {place : String × String}
    {r : AgentRow} (hrow : cfg.state.rowAt place = some r) :
    ∃ past since start, tr = past ++ since ∧ LastHeard reg place past start r ∧
      (∀ e ∈ since, RegistryEv.refreshes place r.id e.2 = false) ∧
      r.state = (since.map Prod.snd).foldl (AgentState.age r.lastHeartbeat) start := by
  induction hrun generalizing r with
  | init =>
    exact ⟨[], [], r.state, rfl, .inr ⟨rfl, r, hrow, rfl, rfl, rfl⟩, List.forall_mem_nil _, rfl⟩
  | @step tr cfg i env op next hpast hnext hok ih =>
    have hafter : op.onPlace env.now place (cfg.state.rowAt place) (execRegistry env op cfg.state).1 =
        some r := (Registry.rowAt_exec env op cfg.state place).symm.trans hrow
    have hobeys := (hpast.obeys_local i (duties i).obeyed_run).2
    rw [hnext] at hobeys
    have hhealthy : ∀ agent, op = .upsertAgent agent → agent.state = .healthy := by
      rintro agent rfl
      exact hobeys.1
    rcases RegistryCall.onPlace_cases hafter hhealthy with
      ⟨hheard, hstate⟩ | ⟨hquiet, r₁, hrow₁, hid, hstamp, hstate⟩
    · exact ⟨_, [], .healthy, (List.append_nil _).symm, .inl ⟨tr, _, rfl, hheard, rfl⟩,
        List.forall_mem_nil _, hstate⟩
    · obtain ⟨past, since, start, rfl, hlast, hsilent, hage⟩ := ih hrow₁
      refine ⟨past, since ++ [_], start, List.append_assoc .., hlast.congr hid hstamp, ?_, ?_⟩
      · rw [List.forall_mem_append, List.forall_mem_singleton, ← hid]
        exact ⟨hsilent, hid ▸ hquiet⟩
      · rw [hstate, hage, List.map_append, List.foldl_append, ← hstamp]
        rfl

theorem overdue_iff (hrun : Run execRegistry ok (onDuty duties reg) tr cfg) {mark : Mark} {stamp : Time}
    {e : ι × RegistryEv} (he : e ∈ tr) :
    Overdue duties tr mark stamp e ↔ RegistryEv.marks mark stamp e.2 = true := by
  obtain ⟨i, ev⟩ := e
  constructor
  · rintro ⟨evaluator, -, now, -, hcutoff, hlate⟩
    rw [RegistryEv.marks, hcutoff]
    exact decide_eq_true (lt_sub_iff_add_lt.mpr hlate)
  · intro hmarks
    obtain ⟨cutoff, hcutoff, hlate⟩ := (Option.any_eq_true _ _).mp hmarks
    obtain ⟨h, hpermits, hmem⟩ := permits_of_mem hrun he
    obtain ⟨evaluator, hevaluator, now, hnow, rfl⟩ := Duty.reading_of_permits hpermits hcutoff
    exact ⟨evaluator, hevaluator, now, hmem _ hnow, hcutoff, lt_sub_iff_add_lt.mp (of_decide_eq_true hlate)⟩

/-- Every run, with any failures and any clock. -/
theorem detected_of_run (hrun : Run execRegistry ok (onDuty duties reg) tr cfg)
    {place : String × String} {r : AgentRow} (hrow : cfg.state.rowAt place = some r) :
    Detected duties reg tr place r := by
  obtain ⟨past, since, start, rfl, hlast, hsilent, hage⟩ := aged_of_run hrun hrow
  have hin : ∀ e ∈ since, e ∈ past ++ since := fun e he => List.mem_append_right past he
  have hoverdue : ∀ mark, ∀ e ∈ since, (Overdue duties (past ++ since) mark r.lastHeartbeat e ↔
      RegistryEv.marks mark r.lastHeartbeat e.2 = true) := fun mark e he => overdue_iff hrun (hin e he)
  refine ⟨past, since, start, rfl, hlast, hsilent, ?_, ?_, ?_⟩
  · rw [hage, foldl_age_registering]
  · rw [hage, foldl_age_healthy, List.forall_mem_map]
    refine and_congr_right fun _ => forall₂_congr fun e he => ?_
    rw [hoverdue .unhealthy e he, Bool.not_eq_true]
  · rw [hage, foldl_age_disconnected]
    refine or_congr_right ?_
    constructor
    · rintro ⟨before, ev, after, hsplit, hev, hstart⟩
      obtain ⟨before, rest, rfl, rfl, hrest⟩ := List.map_eq_append_iff.mp hsplit
      obtain ⟨e, after, rfl, rfl, rfl⟩ := List.map_eq_cons_iff.mp hrest
      refine ⟨before, e, after, rfl, (hoverdue .disconnected e (by simp)).mpr hev, ?_⟩
      refine hstart.imp_right (And.imp_right ?_)
      rintro ⟨ev', hev', hmarks⟩
      obtain ⟨e', he', rfl⟩ := List.mem_map.mp hev'
      exact ⟨e', he', (hoverdue .unhealthy e' (List.mem_append_left _ he')).mpr hmarks⟩
    · rintro ⟨before, e, after, rfl, he, hstart⟩
      refine ⟨before.map Prod.snd, e.2, after.map Prod.snd, by simp,
        (hoverdue .disconnected e (by simp)).mp he, hstart.imp_right (And.imp_right ?_)⟩
      rintro ⟨e', he', hmarks⟩
      exact ⟨e'.2, List.mem_map_of_mem he',
        (hoverdue .unhealthy e' (List.mem_append_left _ he')).mp hmarks⟩

end

/-- A registration beside an evaluation loop. -/
def watchedAgent : Bool → Duty
  | false => .serve (.registerAgent "east" "node-1" sampleTools [] "katapult")
  | true => .runLoop sampleEvaluator 3

/-- The agent is marked after 100 seconds, and disconnected after 400. -/
theorem detected_watchedAgent :
    ∃ tr cfg r, Run execRegistry (fun _ => anyEnv) (@onDuty Bool canonicalText watchedAgent .empty) tr cfg ∧
      cfg.state.rowAt ("east", "node-1") = some r ∧ r.state = .disconnected ∧
      @Detected Bool watchedAgent .empty tr ("east", "node-1") r := by
  let ok : Bool → Env → RegistryCall → Registry → Prop := fun _ => anyEnv
  have hend : ((@onDuty Bool canonicalText watchedAgent .empty).follow execRegistry ok
      (steps false 7 0 5 ++ steps true 0 (100 * second) 3 ++ steps true 0 (400 * second) 3)).any
      fun out => (out.2.state.rowAt ("east", "node-1")).any fun r => r.state = .disconnected := by
    decide +kernel
  obtain ⟨⟨tr, cfg⟩, hfollow, hrow⟩ := (Option.any_eq_true _ _).mp hend
  obtain ⟨r, hrow, hstate⟩ := (Option.any_eq_true _ _).mp hrow
  have hrun := Run.of_follow hfollow
  exact ⟨tr, cfg, r, hrun, hrow, of_decide_eq_true hstate,
    @detected_of_run Bool _ canonicalText _ _ _ _ _ hrun _ _ hrow⟩

end Katapult
