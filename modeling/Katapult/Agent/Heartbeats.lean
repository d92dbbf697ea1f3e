/-
  Katapult.Agent.Heartbeats

  An agent and a control plane that authenticates every call, together with the
  evaluation of heartbeat times.

  The client attaches its token to the registration and to nothing else, so the
  interceptor answers every heartbeat itself, and with a code that does not make
  the client register again.  The row of the agent therefore ages from its
  registration on, whatever the agent does: `not_marked_iff` says when it is
  noticed, in every run and at any times.  `Punctual` is the ideal schedule, in
  which nothing but this can be the reason.
-/

import Katapult.Agent.Reregistration
import Katapult.Registry.Concurrent

namespace Katapult

open Effect

/-! ## The two parties -/

/-- What an agent process is started with. -/
structure AgentNode where
  clusterID : String
  nodeName : String
  jwtToken : String
  tools : ToolVersions
  pvcs : List PVCInfo

namespace AgentNode

variable [UUIDText] {KeyFunc : Type} (parseWithClaims : KeyFunc → String → Except Err Claims)
variable (v : JWTValidator KeyFunc)

/-- `Register` of the control plane, through its interceptor: what the client
    has attached is the incoming metadata. -/
def callRegister (md : MD) (req : RegisterRequest) :
    Client.Node (Except Status RegisterResponse) :=
  Prog.inr (unaryAuthInterceptor parseWithClaims v { incoming := some md } fun ctx =>
    AgentServer.register ctx req)

/-- `Heartbeat` of the control plane, through its interceptor. -/
def callHeartbeat (md : MD) (req : HeartbeatRequest) : Client.Node (Except Status Unit) :=
  Prog.inr (authenticatedHeartbeat parseWithClaims v { incoming := some md } req)

/-- The registration that the heartbeat loop falls back on: the token is read
    again, and the PVCs are discovered again. -/
def regFunc (node : AgentNode) : Client.Node (Except ClientError String) := do
  match ← Client.readToken with
  | .error err => return .error { text := "re-reading JWT token: " ++ err }
  | .ok token =>
  let discovered ← Client.discover
  Client.register (callRegister parseWithClaims v) node.clusterID node.nodeName token node.tools
    (discovered.toOption.getD [])

/-- Register, then send heartbeats. -/
def run (node : AgentNode) (rounds : Nat) : Client.Node Unit := do
  match ← Client.register (callRegister parseWithClaims v) node.clusterID node.nodeName
      node.jwtToken node.tools node.pvcs with
  | .error _ => return ()
  | .ok agentID =>
  Client.runHeartbeatLoop (callHeartbeat parseWithClaims v)
    (some (node.regFunc parseWithClaims v)) rounds agentID

end AgentNode

/-- The time, and when the agent's ticker last fired. -/
structure Clock where
  now : Time
  lastTick : Time
  deriving DecidableEq

/-- What an agent's node decides, apart from what every environment does. -/
structure NodeChoice where
  pvcs : List PVCInfo := []
  token : String := ""

def NodeCall.answer (choice : NodeChoice) (env : Env) : (op : Client.NodeCall) → op.Ans
  | .tick => env.flag
  | .discover => env.answer choice.pvcs
  | .readToken => env.answer choice.token
  | .sleep _ => env.flag

abbrev AgentOp : Type := Client.NodeCall ⊕ RegistryCall

abbrev AgentOp.Ans : AgentOp → Type := Sum.elim Client.NodeCall.Ans RegistryCall.Ans

/-- The registry under a clock: every call happens at the time that the
    environment chooses for it. -/
def execAgent : Machine AgentOp AgentOp.Ans (Clock × Registry) (NodeChoice × Env)
  | c, .inl op, s =>
      (NodeCall.answer c.1 c.2 op,
        ⟨c.2.now, if op = .tick then c.2.now else s.1.lastTick⟩, s.2)
  | c, .inr op, s =>
      let out := execRegistry c.2 op s.2
      (out.1, ⟨c.2.now, s.1.lastTick⟩, out.2)

/-- One agent (`none`), and evaluations by one evaluator. -/
def agentAndEvaluations [UUIDText] {KeyFunc ι : Type}
    (parseWithClaims : KeyFunc → String → Except Err Claims) (v : JWTValidator KeyFunc)
    (node : AgentNode) (rounds : Nat) (evaluator : HealthEvaluator) (start : Time) (reg : Registry) :
    Config AgentOp AgentOp.Ans Unit (Option ι) (Clock × Registry) where
  procs
    | none => node.run parseWithClaims v rounds
    | some _ => do
      let _ ← evaluator.evaluate.inr
      return ()
  state := (⟨start, start⟩, reg)

/-- The ideal schedule of an agent with a heartbeat interval: nothing fails, the
    token stays the same, time does not go back and does not pass a tick that is
    due, and what the agent does at a tick takes no time. -/
def Punctual {ι : Type} (node : AgentNode) (interval : Duration) (i : Option ι)
    (c : NodeChoice × Env) (op : AgentOp) (s : Clock × Registry) : Prop :=
  c.1.token = node.jwtToken ∧ c.2.fail = none ∧ c.2.flag = true ∧
    s.1.now ≤ c.2.now ∧ c.2.now ≤ s.1.lastTick + interval ∧
    (i = none → c.2.now = if op = .inl .tick then s.1.lastTick + interval else s.1.lastTick)

/-- The agent of a place is stored as unhealthy or disconnected. -/
def Registry.Marked (reg : Registry) (place : String × String) : Prop :=
  ∃ r, reg.rowAt place = some r ∧ (r.state = .unhealthy ∨ r.state = .disconnected)

/-! ## What the agent does -/

abbrev AgentEv : Type := Ev AgentOp AgentOp.Ans

/-- The agent that the call has stored. -/
def AgentEv.registration : AgentEv → Option Agent
  | ⟨.inr (.upsertAgent agent), .ok _⟩ => some agent
  | _ => none

theorem AgentEv.eq_of_registration {ev : AgentEv} {agent : Agent} (h : ev.registration = some agent) :
    ev = ⟨.inr (.upsertAgent agent), .ok ()⟩ := by
  unfold AgentEv.registration at h
  split at h
  · cases h
    rfl
  · cases h

/-- Whether an agent has been stored. -/
def registered (m : Bool) (ev : AgentEv) : Bool := m || ev.registration.isSome

/-- The agent registers once, as healthy, and writes nothing else. -/
def RegistersOnce (m : Bool) : AgentOp → Prop
  | .inr (.upsertAgent agent) => m = false ∧ agent.state = .healthy
  | .inr (.updateHeartbeat ..) | .inr (.markUnhealthy _) | .inr (.markDisconnected _) => False
  | _ => True

theorem Service.once_registerAgent (clusterID nodeName : String) (tools : ToolVersions)
    (pvcs : List PVCInfo) (jwtNamespace : String) :
    Prog.Obeys (fun m ev => registered m ⟨.inr ev.1, ev.2⟩) (fun m op => RegistersOnce m (.inr op))
      (fun _ _ => True) false
      (Service.registerAgent clusterID nodeName tools pvcs jwtNamespace) := by
  unfold Service.registerAgent
  split
  · trivial
  refine Prog.Obeys.perform trivial fun read => ?_
  rcases read with err | existing
  · trivial
  -- the identifier is chosen before anything is stored
  have hquiet : (Service.assignID existing jwtNamespace).All fun op =>
      RegistersOnce false (.inr op) ∧ ∀ r, registered false ⟨.inr op, r⟩ = false := by
    unfold Service.assignID
    cases existing with
    | none => exact ⟨⟨trivial, fun _ => rfl⟩, fun _ => ⟨⟨trivial, fun _ => rfl⟩, fun _ => trivial⟩⟩
    | some old => exact .ite trivial trivial
  refine Prog.Obeys.skip hquiet fun assigned => ?_
  rcases assigned with err | ⟨agentID, registeredAt⟩
  · trivial
  refine Prog.Obeys.perform trivial fun now => ?_
  dsimp only
  split
  · trivial
  rename_i agent hmove
  obtain rfl := Except.ok.inj hmove
  refine Prog.Obeys.perform ⟨rfl, rfl⟩ fun stored => ?_
  rcases stored with err | _
  · trivial
  · trivial

section

variable [UUIDText]

theorem AgentServer.once_register (ctx : Context) (req : RegisterRequest) :
    Prog.Obeys (fun m ev => registered m ⟨.inr ev.1, ev.2⟩) (fun m op => RegistersOnce m (.inr op))
      (fun _ _ => True) false (AgentServer.register ctx req) := by
  unfold AgentServer.register
  split
  · trivial
  split
  · trivial
  refine Prog.Obeys.bind ((Service.once_registerAgent _ _ _ _ _).mono fun a m _ => ?_)
  rcases a with err | agentID
  · dsimp only
    split
    · trivial
    · trivial
  · trivial

variable {KeyFunc : Type} (parseWithClaims : KeyFunc → String → Except Err Claims)
variable (v : JWTValidator KeyFunc)

/-- Every heartbeat of the client is answered by the interceptor, for want of a
    token, and the answer does not make the client register again. -/
theorem AgentNode.sendHeartbeat_rejected (agentID : String) (pvcs : List PVCInfo) :
    ∃ err, Client.sendHeartbeat (AgentNode.callHeartbeat parseWithClaims v) agentID pvcs =
        .pure (.error err) ∧
      isReregistrationNeeded err = false := by
  by_cases hne : agentID = ""
  · refine ⟨{ text := "agent not registered" }, ?_, by decide +kernel⟩
    rw [Client.sendHeartbeat, if_pos hne]
    rfl
  · refine ⟨.wrap "heartbeat failed: " ⟨.unauthenticated, "missing authorization header"⟩, ?_,
      by decide +kernel⟩
    rw [Client.sendHeartbeat, if_neg hne]
    rfl

/-- So the loop makes no call of the registry at all. -/
theorem AgentNode.all_runHeartbeatLoop (regFunc : Option (Client.Node (Except ClientError String)))
    (rounds : Nat) (agentID : String) :
    (Client.runHeartbeatLoop (AgentNode.callHeartbeat parseWithClaims v) regFunc rounds
      agentID).All fun op => ∃ call, op = .inl call := by
  induction rounds generalizing agentID with
  | zero => trivial
  | succ rounds ih =>
    unfold Client.runHeartbeatLoop
    refine Prog.All.bind (p := Client.tick) ⟨⟨_, rfl⟩, fun _ => trivial⟩ fun fired => ?_
    refine Prog.All.ite ?_ trivial
    refine Prog.All.bind (p := Client.discover) ⟨⟨_, rfl⟩, fun _ => trivial⟩ fun discovered => ?_
    obtain ⟨err, hsend, hkeeps⟩ := AgentNode.sendHeartbeat_rejected parseWithClaims v agentID
      (discovered.toOption.getD [])
    dsimp only
    rw [hsend, Prog.pure_bind_eq]
    cases regFunc with
    | none => exact ih agentID
    | some regFunc =>
      dsimp only
      rw [hkeeps, if_neg Bool.false_ne_true]
      exact ih agentID

theorem AgentNode.once_run (node : AgentNode) (rounds : Nat) :
    Prog.Obeys registered RegistersOnce (fun _ _ => True) false
      (node.run parseWithClaims v rounds) := by
  have hregister : ∀ md req, Prog.Obeys registered RegistersOnce (fun _ _ => True) false
      (AgentNode.callRegister parseWithClaims v md req) := by
    intro md req
    refine Prog.Obeys.inr ?_
    unfold unaryAuthInterceptor
    split
    · trivial
    · exact AgentServer.once_register _ req
  refine Prog.Obeys.bind (Prog.Obeys.bind ((hregister _ _).mono fun a m _ => ?_))
  rcases a with status | response
  · trivial
  · refine Prog.Obeys.of_forall ((AgentNode.all_runHeartbeatLoop parseWithClaims v _ rounds _).mono ?_)
    rintro op ⟨call, rfl⟩ m
    trivial

end

/-- What an evaluation may do: mark agents, by a cutoff that it has computed from
    its own reading of the clock. -/
def HealthEvaluator.Permits (evaluator : HealthEvaluator) (h : List AgentEv) : AgentOp → Prop
  | .inr (.upsertAgent _) | .inr (.updateHeartbeat ..) => False
  | .inr (.markUnhealthy cutoff) =>
      ∃ now, ⟨.inr .timeNow, now⟩ ∈ h ∧ cutoff = now - evaluator.unhealthyTimeout
  | _ => True

theorem HealthEvaluator.permitted_evaluate (evaluator : HealthEvaluator) :
    Prog.Obeys history evaluator.Permits (fun _ _ => True) []
      (do let _ ← evaluator.evaluate.inr; return () : Client.Node Unit) := by
  refine Prog.Obeys.bind (Prog.Obeys.inr ?_)
  refine Prog.Obeys.perform trivial fun now => ?_
  refine Prog.Obeys.perform ⟨now, List.mem_singleton_self _, rfl⟩ fun unhealthy => ?_
  rcases unhealthy with err | n
  · trivial
  refine Prog.Obeys.perform trivial fun disconnected => ?_
  rcases disconnected with err | n'
  · trivial
  · trivial

/-! ## What happens to the row -/

/-- The call gives a row another heartbeat time. -/
def AgentOp.Refreshes : AgentOp → Prop
  | .inr (.upsertAgent _) | .inr (.updateHeartbeat ..) => True
  | _ => False

/-- The cutoff by which the call has marked agents as unhealthy. -/
def AgentEv.cutoff : AgentEv → Option Time
  | ⟨.inr (.markUnhealthy cutoff), .ok _⟩ => some cutoff
  | _ => none

theorem AgentEv.cutoff_eq_some {ev : AgentEv} {cutoff : Time} :
    ev.cutoff = some cutoff ↔ ∃ n, ev = ⟨.inr (.markUnhealthy cutoff), .ok n⟩ := by
  constructor
  · intro h
    unfold AgentEv.cutoff at h
    split at h
    · cases h
      exact ⟨_, rfl⟩
    · cases h
  · rintro ⟨n, rfl⟩
    rfl

/-- The row of an agent whose last heartbeat is `stamp`: it is not `registering`
    any more, and it is healthy exactly if `fresh`. -/
structure AgentRow.Aged (stamp : Time) (fresh : Prop) (r : AgentRow) : Prop where
  lastHeartbeat : r.lastHeartbeat = stamp
  past : r.state ≠ .registering
  healthy : r.state = .healthy ↔ fresh

/-- A call that refreshes nothing leaves the time of the last heartbeat, and takes
    the row away from health by a later cutoff only. -/
theorem rowAt_execAgent_of_quiet {c : NodeChoice × Env} {op : AgentOp} {s : Clock × Registry}
    {place : String × String} {r : AgentRow} {stamp : Time} {fresh : Prop}
    (hquiet : ¬ op.Refreshes) (hrow : s.2.rowAt place = some r) (haged : r.Aged stamp fresh) :
    ∃ r', (execAgent c op s).2.2.rowAt place = some r' ∧
      r'.Aged stamp (fresh ∧
        ∀ cutoff ∈ AgentEv.cutoff ⟨op, (execAgent c op s).1⟩, cutoff ≤ stamp) := by
  obtain ⟨hstamp, hpast, hhealthy⟩ := haged
  have hsame : r.Aged stamp (fresh ∧ ∀ cutoff ∈ (none : Option Time), cutoff ≤ stamp) :=
    ⟨hstamp, hpast, by simpa using hhealthy⟩
  rcases op with call | call
  · exact ⟨r, hrow, hsame⟩
  have hafter : (execAgent c (.inr call) s).2.2.rowAt place = _ :=
    Registry.rowAt_exec c.2 call s.2 place
  have hanswer : (execAgent c (.inr call) s).1 = (execRegistry c.2 call s.2).1 := rfl
  rw [hafter, hanswer, hrow]
  generalize (execRegistry c.2 call s.2).1 = a
  cases call with
  | upsertAgent agent => exact absurd trivial hquiet
  | updateHeartbeat agentID pvcs => exact absurd trivial hquiet
  | markUnhealthy cutoff =>
    rcases a with err | n
    · exact ⟨r, rfl, hsame⟩
    have hcutoff : (∀ later ∈ AgentEv.cutoff ⟨.inr (.markUnhealthy cutoff), .ok n⟩, later ≤ stamp) ↔
        ¬ stamp < cutoff := by
      simp [AgentEv.cutoff]
    rw [hcutoff]
    simp only [RegistryCall.onPlace, Option.map_some, Registry.stale, hstamp, decide_eq_true_eq]
    split
    · rename_i hstale
      refine ⟨_, rfl, hstamp, fun hhealthy => ?_, iff_of_false (fun hhealthy => ?_) fun h => h.2 hstale.2⟩
      · cases hhealthy
      · cases hhealthy
    · rename_i hkept
      refine ⟨r, rfl, hstamp, hpast, ?_⟩
      rw [← hhealthy]
      constructor
      · intro h
        exact ⟨h, fun hlate => hkept ⟨h, hlate⟩⟩
      · exact And.left
  | markDisconnected cutoff =>
    rcases a with err | n
    · exact ⟨r, rfl, hsame⟩
    simp only [RegistryCall.onPlace, Option.map_some]
    split
    · rename_i hstale
      -- only a row that is unhealthy already is marked as disconnected
      have hun : r.state = .unhealthy := (of_decide_eq_true hstale).1
      refine ⟨_, rfl, hstamp, fun hhealthy => ?_, iff_of_false (fun hhealthy => ?_) fun h => ?_⟩
      · cases hhealthy
      · cases hhealthy
      · rw [hhealthy.mpr h.1] at hun
        cases hun
    · exact ⟨r, rfl, hsame⟩
  | _ => exact ⟨r, rfl, hsame⟩

section

variable {ι : Type} [DecidableEq ι] {ok : Option ι → NodeChoice × Env → AgentOp → Clock × Registry → Prop}
variable {cfg₁ cfg : Config AgentOp AgentOp.Ans Unit (Option ι) (Clock × Registry)}
variable {since : Trace (Option ι) AgentOp AgentOp.Ans}

/-- The same over any steps: the row stays healthy as long as no cutoff is later
    than its last heartbeat. -/
theorem rowAt_run_of_quiet {place : String × String} {r : AgentRow} {stamp : Time}
    (hrun : Run execAgent ok cfg₁ since cfg) (hquiet : ∀ e ∈ since, ¬ e.2.1.Refreshes)
    (hrow : cfg₁.state.2.rowAt place = some r) (haged : r.Aged stamp True) :
    ∃ r', cfg.state.2.rowAt place = some r' ∧
      r'.Aged stamp (∀ e ∈ since, ∀ cutoff ∈ AgentEv.cutoff e.2, cutoff ≤ stamp) := by
  induction hrun with
  | init => exact ⟨r, hrow, by simpa using haged⟩
  | step _ _ _ ih =>
    simp only [List.forall_mem_append, List.forall_mem_singleton] at hquiet ⊢
    obtain ⟨r₁, hrow₁, haged₁⟩ := ih hquiet.1
    exact rowAt_execAgent_of_quiet hquiet.2 hrow₁ haged₁

/-! ## Every run of the two -/

variable [UUIDText] {KeyFunc : Type} {parseWithClaims : KeyFunc → String → Except Err Claims}
variable {v : JWTValidator KeyFunc} {node : AgentNode} {rounds : Nat} {evaluator : HealthEvaluator}
variable {start : Time} {reg : Registry} {past : Trace (Option ι) AgentOp AgentOp.Ans} {agent : Agent}

/-- Since its registration, nothing refreshes the row of the agent. -/
theorem quiet_since_registration
    (hrun : Run execAgent ok (agentAndEvaluations parseWithClaims v node rounds evaluator start reg)
      (past ++ (none, ⟨.inr (.upsertAgent agent), .ok ()⟩) :: since) cfg) :
    agent.state = .healthy ∧ ∀ e ∈ since, ¬ e.2.1.Refreshes := by
  obtain ⟨hpermitted, -⟩ := hrun.obeys_local none (AgentNode.once_run parseWithClaims v node rounds)
  rw [Trace.local_middle, permitted_append] at hpermitted
  obtain ⟨-, ⟨-, hhealthy⟩, hrest⟩ := hpermitted
  refine ⟨hhealthy, ?_⟩
  rintro ⟨i, ev⟩ he
  cases i with
  | none =>
    -- a second registration is not permitted
    refine hrest.forall_mem (J := (· = true)) (P := fun op => ¬ op.Refreshes)
      (Bool.or_true _) ?_ ?_ ev
      (Trace.mem_local.mpr he)
    · rintro m ev rfl
      exact Bool.true_or _
    · rintro m op rfl hop hrefreshes
      unfold AgentOp.Refreshes at hrefreshes
      split at hrefreshes
      · cases hop.1
      · exact hop
      · exact hrefreshes
  | some i =>
    have hlocal := (hrun.obeys_local (some i) evaluator.permitted_evaluate).1
    refine hlocal.forall_mem (J := fun _ => True) (P := fun op => ¬ op.Refreshes) trivial
      (fun _ _ _ => trivial) ?_ ev ?_
    · intro h op _ hop hrefreshes
      unfold AgentOp.Refreshes at hrefreshes
      split at hrefreshes
      · exact hop
      · exact hop
      · exact hrefreshes
    · exact Trace.mem_local.mpr (List.mem_append_right _ (List.mem_cons_of_mem _ he))

/-- A cutoff in the history was computed from a reading of the clock. -/
theorem clock_of_cutoff {tr : Trace (Option ι) AgentOp AgentOp.Ans} {e : Option ι × AgentEv}
    {cutoff : Time}
    (hrun : Run execAgent ok (agentAndEvaluations parseWithClaims v node rounds evaluator start reg)
      tr cfg) (he : e ∈ tr) (hcutoff : e.2.cutoff = some cutoff) :
    ∃ i now n, e = (some i, ⟨.inr (.markUnhealthy cutoff), .ok n⟩) ∧
      (some i, ⟨.inr .timeNow, now⟩) ∈ tr ∧ cutoff = now - evaluator.unhealthyTimeout := by
  obtain ⟨i, ev⟩ := e
  obtain ⟨n, rfl⟩ := AgentEv.cutoff_eq_some.mp hcutoff
  obtain ⟨before, after, hsplit⟩ := List.append_of_mem (Trace.mem_local.mpr he)
  cases i with
  | none =>
    obtain ⟨hpermitted, -⟩ := hrun.obeys_local none (AgentNode.once_run parseWithClaims v node rounds)
    rw [hsplit, permitted_append] at hpermitted
    exact hpermitted.2.1.elim
  | some i =>
    obtain ⟨hpermitted, -⟩ := hrun.obeys_local (some i) evaluator.permitted_evaluate
    rw [hsplit, permitted_append, foldl_history] at hpermitted
    obtain ⟨now, hnow, hcutoff⟩ := hpermitted.2.1
    refine ⟨i, now, n, rfl, Trace.mem_local.mp ?_, hcutoff⟩
    rw [hsplit]
    exact List.mem_append_left _ hnow

/-- Every run of an agent with any evaluations, at any times and with any
    failures, from its registration on: the agent is not marked exactly as long
    as every evaluation takes place within one timeout from the registration. -/
theorem not_marked_iff
    (hrun : Run execAgent ok (agentAndEvaluations parseWithClaims v node rounds evaluator start reg)
      (past ++ (none, ⟨.inr (.upsertAgent agent), .ok ()⟩) :: since) cfg) :
    ¬ cfg.state.2.Marked agent.place ↔
      ∀ i now n, (some i, ⟨.inr .timeNow, now⟩) ∈ past ++ since →
        (some i, ⟨.inr (.markUnhealthy (now - evaluator.unhealthyTimeout)), .ok n⟩) ∈ since →
        now ≤ agent.lastHeartbeat + evaluator.unhealthyTimeout := by
  obtain ⟨hhealthy, hquiet⟩ := quiet_since_registration hrun
  obtain ⟨cfg₁, c, op, k, -, -, -, hstored, hrest⟩ := hrun.split
  obtain ⟨rfl, hanswer⟩ := Sigma.mk.inj hstored
  -- the registration has stored a healthy row
  have hrow₁ : ((cfg₁.step execAgent none c _ k).state.2.rowAt agent.place) =
      some ((cfg₁.state.2.rowAt agent.place).elim agent.toAgentRow agent.overwrite) := by
    have hok : (execRegistry c.2 (.upsertAgent agent) cfg₁.state.2).1 = .ok () :=
      (eq_of_heq hanswer).symm
    have hafter := Registry.rowAt_exec c.2 (.upsertAgent agent) cfg₁.state.2 agent.place
    rw [hok] at hafter
    exact hafter.trans (if_pos rfl)
  have haged : ((cfg₁.state.2.rowAt agent.place).elim agent.toAgentRow agent.overwrite).Aged
      agent.lastHeartbeat True := by
    cases cfg₁.state.2.rowAt agent.place with
    | none => exact ⟨rfl, by rw [Option.elim_none, hhealthy]; nofun, iff_of_true hhealthy trivial⟩
    | some old => exact ⟨rfl, by rw [Option.elim_some, AgentRow.overwrite_state, hhealthy]; nofun,
        iff_of_true hhealthy trivial⟩
  obtain ⟨r, hrow, haged⟩ := rowAt_run_of_quiet hrest hquiet hrow₁ haged
  have hmarked : ¬ cfg.state.2.Marked agent.place ↔ r.state = .healthy := by
    constructor
    · intro hnot
      cases hstate : r.state with
      | registering => exact absurd hstate haged.past
      | healthy => rfl
      | unhealthy => exact absurd ⟨r, hrow, .inl hstate⟩ hnot
      | disconnected => exact absurd ⟨r, hrow, .inr hstate⟩ hnot
    · rintro hstate ⟨r', hrow', hmark⟩
      rw [hrow] at hrow'
      cases hrow'
      rw [hstate] at hmark
      simp at hmark
  rw [hmarked, haged.healthy]
  constructor
  · intro hall i now n _ hmark
    exact sub_le_iff_le_add.mp (hall _ hmark _ rfl)
  · intro hall e he cutoff hcutoff
    obtain ⟨i, now, n, rfl, hnow, rfl⟩ := clock_of_cutoff hrun
      (List.mem_append_right _ (List.mem_cons_of_mem _ he)) hcutoff
    have hnow : (some i, ⟨.inr .timeNow, now⟩) ∈ past ++ since := by
      simpa using hnow
    exact sub_le_iff_le_add.mpr (hall i now n hnow he)

end

/-! ## Sample runs -/

instance {ι : Type} [DecidableEq ι] (node : AgentNode) (interval : Duration) (i : Option ι)
    (c : NodeChoice × Env) (op : AgentOp) (s : Clock × Registry) :
    Decidable (Punctual node interval i c op s) :=
  inferInstanceAs (Decidable (_ ∧ _))

def sampleNode : AgentNode := ⟨"east", "node-1", "agent-token", sampleTools, []⟩

/-- `n` steps of one party at one time. -/
def atTime (i : Option Unit) (now : Time) (n : Nat) : List (Option Unit × NodeChoice × Env) :=
  List.replicate n (i, { token := "agent-token" }, { uuid := 7, now })

/-- The agent registers, and sends a heartbeat every 30 seconds. -/
def heartbeatEvery30 : List (Option Unit × NodeChoice × Env) :=
  atTime none 0 5 ++ atTime none (30 * second) 2 ++ atTime none (60 * second) 2 ++
    atTime none (90 * second) 2

/-- Where the sample agent, punctual, is led by a schedule; agents are evaluated
    with a timeout of 90 seconds. -/
def sampleHeartbeats (sched : List (Option Unit × NodeChoice × Env)) :
    Option (Trace (Option Unit) AgentOp AgentOp.Ans ×
      Config AgentOp AgentOp.Ans Unit (Option Unit) (Clock × Registry)) :=
  (@agentAndEvaluations canonicalText Unit Unit sampleParse sampleValidator sampleNode 4
    sampleEvaluator 0 .empty).follow execAgent (Punctual sampleNode (30 * second)) sched

/-- An evaluation after 60 seconds finds nothing. -/
theorem not_marked_early :
    ∃ tr cfg past agent since, sampleHeartbeats (atTime none 0 5 ++ atTime none (30 * second) 2 ++
        atTime (some ()) (60 * second) 3) = some (tr, cfg) ∧
      tr = past ++ (none, ⟨.inr (.upsertAgent agent), .ok ()⟩) :: since ∧
      (¬ cfg.state.2.Marked agent.place ↔
        ∀ i now n, (some i, ⟨.inr .timeNow, now⟩) ∈ past ++ since →
          (some i, ⟨.inr (.markUnhealthy (now - sampleEvaluator.unhealthyTimeout)), .ok n⟩) ∈ since →
          now ≤ agent.lastHeartbeat + sampleEvaluator.unhealthyTimeout) := by
  have hend : (sampleHeartbeats (atTime none 0 5 ++ atTime none (30 * second) 2 ++
      atTime (some ()) (60 * second) 3)).any fun out =>
      out.1.any fun e => e.1 = none ∧ (AgentEv.registration e.2).isSome := by decide +kernel
  obtain ⟨⟨tr, cfg⟩, hfollow, hstored⟩ := (Option.any_eq_true _ _).mp hend
  obtain ⟨⟨i, ev⟩, he, hstored⟩ := List.any_eq_true.mp hstored
  obtain ⟨hnone, hstored⟩ := of_decide_eq_true hstored
  obtain ⟨agent, hagent⟩ := Option.isSome_iff_exists.mp hstored
  obtain ⟨past, since, rfl⟩ := List.append_of_mem he
  obtain rfl : i = none := hnone
  obtain rfl := AgentEv.eq_of_registration hagent
  exact ⟨_, cfg, past, agent, since, hfollow, rfl,
    @not_marked_iff Unit _ _ _ _ canonicalText _ _ _ _ _ _ _ _ _ _ (Run.of_follow hfollow)⟩

/-- An evaluation 95 seconds after the registration marks the agent, whose third
    heartbeat is then five seconds old. -/
theorem not_not_marked_punctual :
    ¬ ∀ (node : AgentNode) rounds evaluator start interval past agent since cfg,
      (∃ claims, sampleValidator.validateToken sampleParse node.jwtToken = .ok claims) →
      interval < evaluator.unhealthyTimeout →
      Run execAgent (Punctual node interval)
        (@agentAndEvaluations canonicalText Unit Unit sampleParse sampleValidator node rounds evaluator
          start .empty)
        (past ++ (none, ⟨.inr (.upsertAgent agent), .ok ()⟩) :: since) cfg →
      ¬ cfg.state.2.Marked agent.place := by
  intro hall
  have hend : (sampleHeartbeats (heartbeatEvery30 ++ atTime (some ()) (95 * second) 3)).any fun out =>
      out.1.any fun e => e.1 = none ∧ (AgentEv.registration e.2).any fun agent =>
        (out.2.state.2.rowAt agent.place).any (·.state = .unhealthy) := by decide +kernel
  obtain ⟨⟨tr, cfg⟩, hfollow, hstored⟩ := (Option.any_eq_true _ _).mp hend
  obtain ⟨⟨i, ev⟩, he, hstored⟩ := List.any_eq_true.mp hstored
  obtain ⟨hnone, hstored⟩ := of_decide_eq_true hstored
  obtain ⟨agent, hagent, hmarked⟩ := (Option.any_eq_true _ _).mp hstored
  obtain ⟨r, hrow, hstate⟩ := (Option.any_eq_true _ _).mp hmarked
  obtain ⟨past, since, rfl⟩ := List.append_of_mem he
  obtain rfl : i = none := hnone
  obtain rfl := AgentEv.eq_of_registration hagent
  have haccepted : ∃ claims, sampleValidator.validateToken sampleParse sampleNode.jwtToken =
      .ok claims := ⟨_, rfl⟩
  exact hall sampleNode 4 sampleEvaluator 0 (30 * second) past agent since cfg haccepted (by decide)
    (Run.of_follow hfollow) ⟨r, hrow, .inl (of_decide_eq_true hstate)⟩

end Katapult
