/-
  Katapult.Grpc.Server

  The gRPC methods of the agent service that concern the registry, behind the
  interceptor, and what binds a heartbeat to the identity of its sender: the
  handler compares the namespace of the token with the registered one, on the
  branch where the token has Kubernetes claims.
-/

import Katapult.Grpc.Auth
import Katapult.Registry.Service

namespace Katapult

open Effect

structure RegisterRequest where
  clusterId : String
  nodeName : String
  tools : Option ToolVersions
  pvcs : List PVCInfo

structure RegisterResponse where
  agentId : String
  deriving DecidableEq

structure HeartbeatRequest where
  agentId : String
  pvcs : List PVCInfo

namespace AgentServer

variable [UUIDText]

/-- Handle agent registration. -/
def register (ctx : Context) (req : RegisterRequest) :
    Registrar (Except Status RegisterResponse) := do
  if req.clusterId = "" then
    return .error ⟨.invalidArgument, "cluster_id is required"⟩
  if req.nodeName = "" then
    return .error ⟨.invalidArgument, "node_name is required"⟩
  let jwtNamespace :=
    (((claimsFromContext ctx).bind Claims.kubernetes).map KubernetesClaims.namespace_).getD ""
  match ← Service.registerAgent req.clusterId req.nodeName (req.tools.getD {}) req.pvcs
      jwtNamespace with
  | .error err =>
    if contains err "namespace mismatch" then
      return .error ⟨.permissionDenied, "registration failed: " ++ err⟩
    return .error ⟨.internal, "registration failed: " ++ err⟩
  | .ok agentID => return .ok ⟨agentID.text⟩

/-- The comparison of the token's namespace with the registered one; nothing is
    compared without Kubernetes claims. -/
def verifyNamespace (ctx : Context) (agentID : UUID) : Registrar (Except Status Unit) := do
  match (claimsFromContext ctx).bind Claims.kubernetes with
  | none => return .ok ()
  | some kubernetes =>
  match ← Service.getAgent agentID with
  | .error err => return .error ⟨.internal, "looking up agent: " ++ err⟩
  | .ok none => return .error ⟨.notFound, "agent " ++ agentID.text ++ " not found"⟩
  | .ok (some agent) =>
  if agent.jwtNamespace ≠ "" ∧ kubernetes.namespace_ ≠ agent.jwtNamespace then
    return .error ⟨.permissionDenied, "JWT namespace mismatch for agent " ++ agentID.text⟩
  return .ok ()

/-- Handle agent heartbeats. -/
def heartbeat (ctx : Context) (req : HeartbeatRequest) : Registrar (Except Status Unit) := do
  match UUIDText.parse req.agentId with
  | .error err => return .error ⟨.invalidArgument, "invalid agent_id: " ++ err⟩
  | .ok agentID =>
  match ← verifyNamespace ctx agentID with
  | .error status => return .error status
  | .ok () =>
  match ← Service.heartbeat agentID req.pvcs with
  | .error err =>
    if contains err "must re-register" then
      return .error ⟨.failedPrecondition, "heartbeat failed: " ++ err⟩
    return .error ⟨.internal, "heartbeat failed: " ++ err⟩
  | .ok () => return .ok ()

end AgentServer

/-! ## What a heartbeat does -/

section

variable [UUIDText]

/-- A heartbeat that reaches the service changes nothing, or it is the
    transaction on an agent that is not disconnected. -/
theorem Service.wp_heartbeat (agentID : UUID) (pvcs : List PVCInfo) (h : List RegistryEv) (reg : Registry) :
    Prog.wp execRegistry anyEnv (Service.heartbeat agentID pvcs)
      (fun _ _ reg' => reg' = reg ∨ ∃ r now, reg.row agentID = some r ∧ r.state ≠ .disconnected ∧
        reg.updateHeartbeat now agentID pvcs = .ok reg') h reg := by
  refine Prog.wp_perform fun env _ => ?_
  simp only [execRegistry]
  cases hfail : env.fail with
  | some err =>
    rw [Env.answer_of_fail hfail]
    exact .inl rfl
  | none =>
    rw [Env.answer_of_ok hfail]
    cases hrow : reg.row agentID with
    | none => exact .inl rfl
    | some r =>
      dsimp only [Option.map_some]
      split
      · exact .inl rfl
      rename_i hstate
      split
      · exact .inl rfl
      refine Prog.wp_perform fun env' _ => ?_
      simp only [execRegistry]
      rcases env'.write_cases reg (Registry.updateHeartbeat env'.now agentID pvcs) with
        ⟨err, hwrite⟩ | ⟨reg', hupdate, hwrite⟩
      · rw [hwrite]
        exact .inl rfl
      · rw [hwrite]
        exact .inr ⟨r, env'.now, rfl, hstate, hupdate⟩

/-- An agent that is not disconnected can be set healthy by any heartbeat with
    an inventory of distinct names. -/
theorem Service.may_heartbeat {agentID : UUID} {pvcs : List PVCInfo} {reg : Registry}
    {r : AgentRow} (hrow : reg.row agentID = some r) (hstate : r.state ≠ .disconnected)
    (hnodup : (pvcs.map PVCInfo.pvcName).Nodup) (now : Time) :
    Prog.May execRegistry anyEnv (Service.heartbeat agentID pvcs)
      (fun a reg' => a = .ok () ∧ reg'.row agentID = some (r.setHealthy now)) reg := by
  obtain ⟨reg', hupdate⟩ := (Registry.updateHeartbeat_isOk_iff now pvcs hrow).mpr hnodup
  have hset : reg'.row agentID = some (r.setHealthy now) := Registry.row_updateHeartbeat hrow hupdate
  refine Prog.may_perform { now } trivial ?_
  simp only [execRegistry, Env.answer, hrow, Option.map_some]
  have hopen : (reg.withPVCs r).state ≠ .disconnected := hstate
  rw [if_neg hopen]
  split
  · rename_i err hrefused
    exact absurd hrefused (Agent.recovery_ne_error _ err)
  · refine Prog.may_perform { now } trivial ?_
    simp only [execRegistry, Env.write, hupdate]
    exact Prog.may_pure ⟨rfl, hset⟩

/-- The namespace check changes nothing, and passes without Kubernetes claims or
    with those of the registered namespace. -/
theorem AgentServer.wp_verifyNamespace {ctx : Context} {claims : Claims} {agentID : UUID}
    {reg : Registry} {r : AgentRow} (hclaims : claimsFromContext ctx = some claims)
    (hrow : reg.row agentID = some r) (hns : r.jwtNamespace ≠ "") (h : List RegistryEv) :
    Prog.wp execRegistry anyEnv (AgentServer.verifyNamespace ctx agentID)
      (fun a _ reg' => reg' = reg ∧ (a = .ok () → claims.kubernetes = none ∨
        ∃ k, claims.kubernetes = some k ∧ k.namespace_ = r.jwtNamespace)) h reg := by
  unfold AgentServer.verifyNamespace
  rw [hclaims, Option.bind_some]
  cases hk : claims.kubernetes with
  | none => exact ⟨rfl, fun _ => .inl rfl⟩
  | some k =>
    refine Prog.wp_perform fun env _ => ?_
    simp only [execRegistry]
    cases hfail : env.fail with
    | some err =>
      rw [Env.answer_of_fail hfail]
      exact ⟨rfl, nofun⟩
    | none =>
      rw [Env.answer_of_ok hfail, hrow]
      dsimp only [Option.map_some]
      split
      · exact ⟨rfl, nofun⟩
      · rename_i hsame
        refine ⟨rfl, fun _ => .inr ⟨k, rfl, ?_⟩⟩
        by_contra hne
        exact hsame ⟨hns, hne⟩

/-- What a heartbeat request can have done: nothing, or the transaction on its
    agent, with a token that is not of another namespace. -/
def HeartbeatDone (claims : Claims) (req : HeartbeatRequest) (r : AgentRow) (reg reg' : Registry) :
    Prop :=
  reg' = reg ∨
    ((claims.kubernetes = none ∨ ∃ k, claims.kubernetes = some k ∧ k.namespace_ = r.jwtNamespace) ∧
      r.state ≠ .disconnected ∧ ∃ now, reg.updateHeartbeat now r.id req.pvcs = .ok reg')

theorem AgentServer.wp_heartbeat (ctx : Context) {req : HeartbeatRequest} {claims : Claims}
    {reg : Registry} {r : AgentRow} (hclaims : claimsFromContext ctx = some claims)
    (hid : UUIDText.parse req.agentId = .ok r.id) (hrow : reg.row r.id = some r)
    (hns : r.jwtNamespace ≠ "") (h : List RegistryEv) :
    Prog.wp execRegistry anyEnv (AgentServer.heartbeat ctx req)
      (fun _ _ reg' => HeartbeatDone claims req r reg reg') h reg := by
  unfold AgentServer.heartbeat
  rw [hid]
  refine (Prog.wp_bind _ _).mpr
    (Prog.wp_mono (AgentServer.wp_verifyNamespace hclaims hrow hns h) ?_)
  rintro a h₁ reg₁ ⟨rfl, hverified⟩
  rcases a with status | _
  · exact .inl rfl
  refine (Prog.wp_bind _ _).mpr (Prog.wp_mono (Service.wp_heartbeat r.id req.pvcs h₁ reg₁) ?_)
  intro a h₂ reg₂ hserved
  have hdone : HeartbeatDone claims req r reg₁ reg₂ := by
    rcases hserved with hsame | ⟨r', now, hrow', hstate, hupdate⟩
    · exact .inl hsame
    · rw [hrow] at hrow'
      cases hrow'
      exact .inr ⟨hverified rfl, hstate, now, hupdate⟩
  rcases a with err | _
  · dsimp only
    split
    · exact hdone
    · exact hdone
  · exact hdone

/-- Without Kubernetes claims, a heartbeat can set any agent healthy. -/
theorem AgentServer.may_heartbeat (ctx : Context) {req : HeartbeatRequest} {claims : Claims}
    {reg : Registry} {r : AgentRow} (hclaims : claimsFromContext ctx = some claims)
    (hnone : claims.kubernetes = none) (hid : UUIDText.parse req.agentId = .ok r.id)
    (hrow : reg.row r.id = some r) (hstate : r.state ≠ .disconnected)
    (hnodup : (req.pvcs.map PVCInfo.pvcName).Nodup) (now : Time) :
    Prog.May execRegistry anyEnv (AgentServer.heartbeat ctx req)
      (fun a reg' => a = .ok () ∧ reg'.row r.id = some (r.setHealthy now)) reg := by
  have hskip : AgentServer.verifyNamespace ctx r.id = .pure (.ok ()) := by
    rw [AgentServer.verifyNamespace, hclaims, Option.bind_some, hnone]
    rfl
  unfold AgentServer.heartbeat
  rw [hid]
  dsimp only
  rw [hskip]
  refine Prog.may_bind (Prog.may_pure (Prog.may_bind ?_))
  obtain ⟨tr, a, reg', hrun, rfl, hset⟩ := Service.may_heartbeat hrow hstate hnodup now
  exact ⟨tr, _, reg', hrun, Prog.may_pure ⟨rfl, hset⟩⟩

section

variable {KeyFunc : Type} (parseWithClaims : KeyFunc → String → Except Err Claims)

/-- A heartbeat request, through the interceptor. -/
def authenticatedHeartbeat (v : JWTValidator KeyFunc) (ctx : Context) (req : HeartbeatRequest) :
    Registrar (Except Status Unit) :=
  unaryAuthInterceptor parseWithClaims v ctx fun ctx => AgentServer.heartbeat ctx req

/-- Identity binding on heartbeats: every run that changes the row or the
    inventory of the agent was asked for by a token of its namespace. -/
def IdentityBound (v : JWTValidator KeyFunc) (ctx : Context) (req : HeartbeatRequest) (reg : Registry)
    (r : AgentRow) : Prop :=
  ∀ tr a reg', Prog.Exec execRegistry anyEnv (authenticatedHeartbeat parseWithClaims v ctx req)
      reg tr a reg' →
    reg'.row r.id ≠ reg.row r.id ∨ reg'.inventory r.id ≠ reg.inventory r.id →
    ∃ claims k, authenticate parseWithClaims v ctx = .ok claims ∧ claims.kubernetes = some k ∧
      k.namespace_ = r.jwtNamespace

variable {parseWithClaims}

/-- Every registry and every authenticated heartbeat for an agent that was
    registered with a namespace: the agent is bound to that namespace exactly
    when the token has Kubernetes claims, or nothing could be changed anyway. -/
theorem identityBound_iff (v : JWTValidator KeyFunc) (ctx : Context) (req : HeartbeatRequest)
    (reg : Registry) (r : AgentRow) {claims : Claims}
    (hauth : authenticate parseWithClaims v ctx = .ok claims)
    (hid : UUIDText.parse req.agentId = .ok r.id) (hrow : reg.row r.id = some r)
    (hns : r.jwtNamespace ≠ "") :
    IdentityBound parseWithClaims v ctx req reg r ↔
      claims.kubernetes ≠ none ∨ r.state = .disconnected ∨
      ¬ (req.pvcs.map PVCInfo.pvcName).Nodup := by
  have hprog : authenticatedHeartbeat parseWithClaims v ctx req =
      AgentServer.heartbeat { ctx with claims := some claims } req := by
    rw [authenticatedHeartbeat, unaryAuthInterceptor, hauth]
  constructor
  · intro hbound
    by_contra hcond
    simp only [not_or, not_not] at hcond
    obtain ⟨hnone, hstate, hnodup⟩ := hcond
    -- a heartbeat at another time than the last one
    obtain ⟨tr, a, reg', hrun, -, hrow'⟩ := AgentServer.may_heartbeat
      { ctx with claims := some claims } rfl hnone hid hrow hstate hnodup
      (r.lastHeartbeat + 1)
    rw [← hprog] at hrun
    have hchanged : reg'.row r.id ≠ reg.row r.id := by
      rw [hrow', hrow]
      intro hsame
      have htime : (r.lastHeartbeat : Int) + 1 = r.lastHeartbeat :=
        congrArg AgentRow.lastHeartbeat (Option.some.inj hsame)
      exact Int.ne_of_gt (Int.lt_succ _) htime
    obtain ⟨claims', k, hauth', hk, -⟩ := hbound tr a reg' hrun (.inl hchanged)
    rw [hauth] at hauth'
    cases hauth'
    rw [hnone] at hk
    cases hk
  · intro hcond tr a reg' hrun hchanged
    rw [hprog] at hrun
    have hheartbeat := AgentServer.wp_heartbeat { ctx with claims := some claims } rfl hid hrow hns []
    rcases Prog.wp_sound hheartbeat hrun with rfl | ⟨hverified, hstate, now, hupdate⟩
    · simp at hchanged
    have hnodup := (Registry.updateHeartbeat_isOk_iff now _ hrow).mp ⟨reg', hupdate⟩
    rcases hcond with hsome | hdisconnected | hrepeat
    · rcases hverified with hnone | ⟨k, hk, hsame⟩
      · exact absurd hnone hsome
      · exact ⟨claims, k, hauth, hk, hsame⟩
    · exact absurd hdisconnected hstate
    · exact absurd hnodup hrepeat

end

end

/-! ## Sample registry -/

/-- What reaches the registry. -/
inductive RegistryRequest where
  | register (ctx : Context) (req : RegisterRequest)
  | heartbeat (ctx : Context) (req : HeartbeatRequest)
  | evaluate (evaluator : HealthEvaluator)

/-- The registry behind the interceptor. -/
def serveRegistry [UUIDText] {KeyFunc : Type} (parseWithClaims : KeyFunc → String → Except Err Claims)
    (v : JWTValidator KeyFunc) : RegistryRequest → Registrar Unit
  | .register ctx req => do
    let _ ← unaryAuthInterceptor parseWithClaims v ctx fun ctx => AgentServer.register ctx req
    return ()
  | .heartbeat ctx req => do
    let _ ← authenticatedHeartbeat parseWithClaims v ctx req
    return ()
  | .evaluate evaluator => do
    let _ ← evaluator.evaluate
    return ()

def sampleContext (token : String) : Context where
  incoming := some [("authorization", ["Bearer " ++ token])]

/-- One registration, with the token of an agent in the namespace `katapult`. -/
def registeredSample : Option (List RegistryEv × Registry) :=
  Prog.evalAll execRegistry anyEnv (@serveRegistry canonicalText Unit sampleParse sampleValidator)
    .empty
    [(.register (sampleContext "agent-token") ⟨"east", "node-1", some ⟨"1.35", "1.5", "5.6"⟩, []⟩,
      calls 6 5)]

def heartbeatSample : HeartbeatRequest := ⟨canonicalString 7, []⟩

theorem reach_registeredSample {h : List RegistryEv} {reg : Registry}
    (hend : registeredSample = some (h, reg)) :
    Prog.SeqReach execRegistry anyEnv (@serveRegistry canonicalText Unit sampleParse sampleValidator)
      .empty h reg :=
  Prog.SeqReach.init.of_evalAll hend

/-- The registered agent, with its own token. -/
theorem identityBound_agentToken :
    ∃ h reg r, registeredSample = some (h, reg) ∧ reg.row 7 = some r ∧
      @IdentityBound canonicalText Unit sampleParse sampleValidator (sampleContext "agent-token")
        heartbeatSample reg r := by
  have hend : registeredSample.any fun out =>
      (out.2.row 7).any fun r => r.id = 7 ∧ r.jwtNamespace = "katapult" := by decide +kernel
  obtain ⟨⟨h, reg⟩, hreach, hrow⟩ := (Option.any_eq_true _ _).mp hend
  obtain ⟨r, hrow, hr⟩ := (Option.any_eq_true _ _).mp hrow
  obtain ⟨hid, hns⟩ := of_decide_eq_true hr
  have hparse : canonicalText.parse heartbeatSample.agentId = .ok r.id := by
    rw [hid]
    decide +kernel
  refine ⟨h, reg, r, hreach, hrow, ?_⟩
  refine (@identityBound_iff canonicalText Unit sampleParse sampleValidator
    (sampleContext "agent-token") heartbeatSample reg r
    ⟨some ⟨"katapult", some ⟨"katapult-agent", "uid-1"⟩⟩⟩ (by decide +kernel) hparse (hid ▸ hrow)
    (by rw [hns]; decide)).mpr (.inl nofun)

/-- A heartbeat for it with a token without Kubernetes claims changes its row. -/
theorem not_identityBound_plainToken :
    ¬ ∀ h reg ctx req r claims, Prog.SeqReach execRegistry anyEnv
        (@serveRegistry canonicalText Unit sampleParse sampleValidator) .empty h reg →
      authenticate sampleParse sampleValidator ctx = .ok claims →
      canonicalText.parse req.agentId = .ok r.id → reg.row r.id = some r → r.jwtNamespace ≠ "" →
      @IdentityBound canonicalText Unit sampleParse sampleValidator ctx req reg r := by
  intro hall
  have hend : registeredSample.any fun out => (out.2.row 7).any fun r =>
      r.id = 7 ∧ r.jwtNamespace = "katapult" ∧
      (Prog.eval execRegistry anyEnv (@authenticatedHeartbeat canonicalText Unit sampleParse
        sampleValidator (sampleContext "plain-token") heartbeatSample) out.2
        [{ now := 60 }, { now := 60 }]).any fun out' => out'.2.2.row 7 ≠ some r := by decide +kernel
  obtain ⟨⟨h, reg⟩, hreach, hrow⟩ := (Option.any_eq_true _ _).mp hend
  obtain ⟨r, hrow, hr⟩ := (Option.any_eq_true _ _).mp hrow
  obtain ⟨hid, hns, hrun⟩ := of_decide_eq_true hr
  obtain ⟨⟨a, tr, reg'⟩, hrun, hchanged⟩ := (Option.any_eq_true _ _).mp hrun
  have hparse : canonicalText.parse heartbeatSample.agentId = .ok r.id := by
    rw [hid]
    decide +kernel
  have hauth : authenticate sampleParse sampleValidator (sampleContext "plain-token") = .ok ⟨none⟩ := by
    decide +kernel
  have hbound := hall h reg (sampleContext "plain-token") heartbeatSample r ⟨none⟩
    (reach_registeredSample hreach) hauth hparse (hid ▸ hrow) (by rw [hns]; decide)
  have hdiff : reg'.row r.id ≠ reg.row r.id := by
    rw [hid, hrow]
    exact of_decide_eq_true hchanged
  obtain ⟨claims, k, hauth', hk, -⟩ := hbound tr a reg' (Prog.exec_of_eval hrun) (.inl hdiff)
  rw [hauth] at hauth'
  cases hauth'
  cases hk

end Katapult
