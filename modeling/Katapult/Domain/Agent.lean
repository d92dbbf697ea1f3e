/-
  Katapult.Domain.Agent

  The agent record, its inventory, and the agent lifecycle.
-/

import Katapult.Domain.Format

namespace Katapult

/-- The lifecycle state of an agent. -/
inductive AgentState where
  | registering | healthy | unhealthy | disconnected
  deriving DecidableEq, Repr

def AgentState.text : AgentState → String
  | .registering => "registering"
  | .healthy => "healthy"
  | .unhealthy => "unhealthy"
  | .disconnected => "disconnected"

/-- The versions of the tools on an agent's node; `""` when a tool is missing. -/
structure ToolVersions where
  tar : String := ""
  zstd : String := ""
  stunnel : String := ""
  deriving DecidableEq, Repr

/-- A discovered PVC. -/
structure PVCInfo where
  pvcName : String
  sizeBytes : Int
  storageClass : String
  nodeAffinity : String
  deriving DecidableEq, Repr

/-- The columns of `agents`. -/
structure AgentRow where
  id : UUID
  clusterID : String
  nodeName : String
  state : AgentState
  healthy : Bool
  lastHeartbeat : Time
  tools : ToolVersions
  registeredAt : Time
  /-- The namespace of the token at registration, `""` without one. -/
  jwtNamespace : String
  deriving DecidableEq, Repr

/-- A registered agent: its row, and its PVC inventory. -/
structure Agent extends AgentRow where
  pvcs : List PVCInfo
  deriving DecidableEq, Repr

/-- A filter of agents; the state is any string. -/
structure AgentFilter where
  clusterID : Option String := none
  state : Option String := none
  limit : Int := 0
  offset : Int := 0

/-! ## Lifecycle -/

/-- The allowed transitions; every state has an entry. -/
def validTransitions : AgentState → List AgentState
  | .registering => [.healthy, .disconnected]
  | .healthy => [.unhealthy, .registering]
  | .unhealthy => [.healthy, .disconnected]
  | .disconnected => [.registering]

def Agent.transitionTo (a : Agent) (target : AgentState) : Except Err Agent :=
  if target ∈ validTransitions a.state then
    .ok { a with state := target, healthy := target = .healthy }
  else
    .error ("invalid transition from " ++ quote a.state.text ++ " to " ++ quote target.text)

end Katapult
