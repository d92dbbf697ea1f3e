/-
  Katapult.Registry.Service

  The agent registry: registration, heartbeats and health evaluation, as
  programs over the agent repository, and the machine they run on.  Every call
  of the repository is one transaction.
-/

import Katapult.Store.AgentRepository
import Katapult.Effect.Prog

namespace Katapult

open Effect

/-! ## The interface -/

/-- The calls of `AgentRepository` that the registry makes, with the clock and
    the source of identifiers. -/
inductive RegistryCall where
  | newUUID
  | timeNow
  | upsertAgent (agent : Agent)
  | getAgentByID (id : UUID)
  | getAgentByClusterAndNode (clusterID nodeName : String)
  | updateHeartbeat (agentID : UUID) (pvcs : List PVCInfo)
  | markUnhealthy (cutoff : Time)
  | markDisconnected (cutoff : Time)
  deriving DecidableEq

def RegistryCall.Ans : RegistryCall → Type
  | .newUUID => UUID
  | .timeNow => Time
  | .upsertAgent _ | .updateHeartbeat .. => Except Err Unit
  | .getAgentByID _ | .getAgentByClusterAndNode .. => Except Err (Option Agent)
  | .markUnhealthy _ | .markDisconnected _ => Except Err Nat

/-- Code of the agent registry. -/
abbrev Registrar (α : Type) : Type := Prog RegistryCall RegistryCall.Ans α

/-- One entry of the registry's history. -/
abbrev RegistryEv : Type := Ev RegistryCall RegistryCall.Ans

/-- A statement on many rows, answered by their number. -/
def Env.count (env : Env) (reg : Registry) (statement : Registry → Registry)
    (affected : AgentRow → Bool) : Except Err Nat × Registry :=
  match env.fail with
  | some err => (.error err, reg)
  | none => (.ok (reg.agents.rows.countP affected), statement reg)

/-- The registry's machine. -/
def execRegistry : Machine RegistryCall RegistryCall.Ans Registry Env
  | env, .newUUID, reg => (env.uuid, reg)
  | env, .timeNow, reg => (env.now, reg)
  | env, .upsertAgent agent, reg => env.write reg (Registry.upsertAgent env.now agent)
  | env, .getAgentByID id, reg => (env.answer ((reg.row id).map reg.withPVCs), reg)
  | env, .getAgentByClusterAndNode clusterID nodeName, reg =>
      (env.answer ((reg.agents.find? (clusterID, nodeName)).map reg.withPVCs), reg)
  | env, .updateHeartbeat agentID pvcs, reg =>
      env.write reg (Registry.updateHeartbeat env.now agentID pvcs)
  | env, .markUnhealthy cutoff, reg =>
      env.count reg (Registry.markUnhealthy cutoff) (Registry.stale .healthy cutoff)
  | env, .markDisconnected cutoff, reg =>
      env.count reg (Registry.markDisconnected cutoff) (Registry.stale .unhealthy cutoff)

/-- Any environment. -/
def anyEnv (_ : Env) (_ : RegistryCall) (_ : Registry) : Prop := True

instance (env : Env) (op : RegistryCall) (reg : Registry) : Decidable (anyEnv env op reg) :=
  .isTrue trivial

namespace Registrar

def newUUID : Registrar UUID := .perform RegistryCall.newUUID
def timeNow : Registrar Time := .perform RegistryCall.timeNow
def upsertAgent (agent : Agent) : Registrar (Except Err Unit) :=
  .perform (RegistryCall.upsertAgent agent)
def getAgentByID (id : UUID) : Registrar (Except Err (Option Agent)) :=
  .perform (RegistryCall.getAgentByID id)
def getAgentByClusterAndNode (clusterID nodeName : String) : Registrar (Except Err (Option Agent)) :=
  .perform (RegistryCall.getAgentByClusterAndNode clusterID nodeName)
def updateHeartbeat (agentID : UUID) (pvcs : List PVCInfo) : Registrar (Except Err Unit) :=
  .perform (RegistryCall.updateHeartbeat agentID pvcs)
def markUnhealthy (cutoff : Time) : Registrar (Except Err Nat) :=
  .perform (RegistryCall.markUnhealthy cutoff)
def markDisconnected (cutoff : Time) : Registrar (Except Err Nat) :=
  .perform (RegistryCall.markDisconnected cutoff)

end Registrar

/-! ## Tool versions -/

def minTarMajor : Int := 1
def minTarMinor : Int := 28

/-- `strings.SplitN(s, sep, n)` for a separator of one character: at most `n`
    parts, the last one unsplit. -/
def splitN (sep : Char) : Nat → List Char → List (List Char)
  | 0, _ => []
  | 1, cs => [cs]
  | n + 2, cs =>
    match cs.dropWhile (· ≠ sep) with
    | [] => [cs]
    | _ :: rest => cs.takeWhile (· ≠ sep) :: splitN sep (n + 1) rest

/-- The tar version must be at least 1.28. -/
def validateTarVersion (version : String) : Except Err Unit :=
  match splitN '.' 3 version.toList with
  | majorText :: minorText :: _ =>
    match atoi majorText with
    | none => .error ("invalid major version " ++ quote (String.ofList majorText))
    | some major =>
    match atoi minorText with
    | none => .error ("invalid minor version " ++ quote (String.ofList minorText))
    | some minor =>
    if major < minTarMajor ∨ (major = minTarMajor ∧ minor < minTarMinor) then
      .error ("version " ++ version ++ " is below minimum " ++ toString minTarMajor ++ "." ++
        toString minTarMinor)
    else .ok ()
  | _ => .error ("invalid version format " ++ quote version)

/-- A version passes if its first two parts are read as numbers, and they are not too low. -/
theorem validateTarVersion_parts {version : String} :
    validateTarVersion version = .ok () ↔ ∃ majorText minorText rest major minor,
      splitN '.' 3 version.toList = majorText :: minorText :: rest ∧
      atoi majorText = some major ∧ atoi minorText = some minor ∧
      ¬ (major < minTarMajor ∨ (major = minTarMajor ∧ minor < minTarMinor)) := by
  constructor
  · intro h
    unfold validateTarVersion at h
    split at h
    · rename_i majorText minorText rest hparts
      split at h
      · cases h
      rename_i major hmajor
      split at h
      · cases h
      rename_i minor hminor
      split at h
      · cases h
      · rename_i hhigh
        exact ⟨majorText, minorText, rest, major, minor, hparts, hmajor, hminor, hhigh⟩
    · cases h
  · rintro ⟨majorText, minorText, rest, major, minor, hparts, hmajor, hminor, hhigh⟩
    rw [validateTarVersion, hparts]
    dsimp only
    rw [hmajor, hminor]
    dsimp only
    rw [if_neg hhigh]

/-- What is wrong with each tool, in the order of the report. -/
def toolErrors (tools : ToolVersions) : List Err :=
  (if tools.tar = "" then ["tar: not present"]
    else match validateTarVersion tools.tar with
      | .error err => ["tar: " ++ err]
      | .ok () => []) ++
  (if tools.zstd = "" then ["zstd: not present"] else []) ++
  (if tools.stunnel = "" then ["stunnel: not present"] else [])

def validateTools (tools : ToolVersions) : Except Err Unit :=
  match toolErrors tools with
  | [] => .ok ()
  | errs => .error ("tool verification failed: " ++ String.intercalate "; " errs)

/-! ## The service -/

/-- An unhealthy agent may recover. -/
theorem Agent.recovery_ne_error (agent : Agent) (err : Err) :
    (if agent.state = .unhealthy then agent.transitionTo .healthy else .ok agent) ≠ .error err := by
  split
  · rename_i hunhealthy
    simp [Agent.transitionTo, hunhealthy, validTransitions]
  · intro h
    cases h

namespace Service

variable [UUIDText]

/-- The identity under which an agent is registered: that of an existing agent
    in the same place, or a new one. -/
def assignID (existing : Option Agent) (jwtNamespace : String) :
    Registrar (Except Err (UUID × Time)) := do
  match existing with
  | some existing =>
    if existing.jwtNamespace ≠ "" ∧ existing.jwtNamespace ≠ jwtNamespace then
      return .error ("registration rejected: JWT namespace mismatch (expected " ++
        quote existing.jwtNamespace ++ ", got " ++ quote jwtNamespace ++ ")")
    return .ok (existing.id, existing.registeredAt)
  | none =>
    let agentID ← Registrar.newUUID
    let registeredAt ← Registrar.timeNow
    return .ok (agentID, registeredAt)

/-- Validate and register an agent, and return its identifier. -/
def registerAgent (clusterID nodeName : String) (tools : ToolVersions) (pvcs : List PVCInfo)
    (jwtNamespace : String) : Registrar (Except Err UUID) := do
  match validateTools tools with
  | .error err => return .error ("registration rejected: " ++ err)
  | .ok () =>
  match ← Registrar.getAgentByClusterAndNode clusterID nodeName with
  | .error err => return .error ("checking existing agent: " ++ err)
  | .ok existing =>
  match ← assignID existing jwtNamespace with
  | .error err => return .error err
  | .ok (agentID, registeredAt) =>
  let now ← Registrar.timeNow
  let agent : Agent :=
    { id := agentID, clusterID, nodeName, state := .registering, healthy := false
      lastHeartbeat := now, tools, registeredAt, pvcs, jwtNamespace }
  match agent.transitionTo .healthy with
  | .error err => return .error ("state transition failed: " ++ err)
  | .ok agent =>
  match ← Registrar.upsertAgent agent with
  | .error err => return .error ("persisting agent: " ++ err)
  | .ok () => return .ok agentID

def getAgent (agentID : UUID) : Registrar (Except Err (Option Agent)) :=
  Registrar.getAgentByID agentID

/-- Process a heartbeat: health and inventory. -/
def heartbeat (agentID : UUID) (pvcs : List PVCInfo) : Registrar (Except Err Unit) := do
  match ← Registrar.getAgentByID agentID with
  | .error err => return .error ("looking up agent: " ++ err)
  | .ok none => return .error ("agent " ++ agentID.text ++ " not found")
  | .ok (some agent) =>
  if agent.state = .disconnected then
    return .error ("agent " ++ agentID.text ++ " is disconnected: must re-register")
  -- the transition is checked on the copy; the write below sets the state by itself
  let recovered := if agent.state = .unhealthy then agent.transitionTo .healthy else .ok agent
  match recovered with
  | .error err => return .error ("recovery transition failed: " ++ err)
  | .ok _ =>
  match ← Registrar.updateHeartbeat agentID pvcs with
  | .error err => return .error ("updating heartbeat: " ++ err)
  | .ok () => return .ok ()

end Service

/-- The periodic check of heartbeat times. -/
structure HealthEvaluator where
  unhealthyTimeout : Duration
  disconnectedTimeout : Duration

/-- One evaluation cycle: the numbers of agents marked, and an error. -/
def HealthEvaluator.evaluate (h : HealthEvaluator) : Registrar (Nat × Nat × Option Err) := do
  let now ← Registrar.timeNow
  match ← Registrar.markUnhealthy (now - h.unhealthyTimeout) with
  | .error err => return (0, 0, some err)
  | .ok unhealthy =>
  match ← Registrar.markDisconnected (now - h.disconnectedTimeout) with
  | .error err => return (unhealthy, 0, some err)
  | .ok disconnected => return (unhealthy, disconnected, none)

end Katapult
