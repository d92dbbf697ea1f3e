/-
  Katapult.Agent.Client

  The agent's client of the control plane: registration, heartbeats, and how a
  failed heartbeat is found to need another registration.

  An error of the client is its text and the status error that it wraps.
  `status.FromError` looks through the wrapping, so the code is what the server
  has answered, and the text ends with the server's message.
-/

import Katapult.Grpc.Server

namespace Katapult

open Effect

/-! ## Errors of the client -/

/-- The source's `codes.Code.String`. -/
def Code.text : Code → String
  | .invalidArgument => "InvalidArgument"
  | .notFound => "NotFound"
  | .permissionDenied => "PermissionDenied"
  | .unauthenticated => "Unauthenticated"
  | .failedPrecondition => "FailedPrecondition"
  | .internal => "Internal"
  | .unimplemented => "Unimplemented"

/-- The text of a status error. -/
def Status.text (s : Status) : String := "rpc error: code = " ++ s.code.text ++ " desc = " ++ s.message

/-- An error: its text, and the status error that it wraps. -/
structure ClientError where
  text : String
  wrapped : Option Status := none
  deriving DecidableEq

/-- `fmt.Errorf` with the verb `%w`, of a status error. -/
def ClientError.wrap (context : String) (s : Status) : ClientError where
  text := context ++ s.text
  wrapped := some s

/-- The code of a wrapped status error, or the text, tells that the agent must
    register again. -/
def isReregistrationNeeded (err : ClientError) : Bool :=
  err.wrapped.map Status.code = some .failedPrecondition || contains err.text "must re-register"

/-! ## Calls of the control plane -/

namespace Client

section

variable {Op : Type} {Ans : Op → Type}

/-- Register, and return the identifier that the control plane has assigned. -/
def register (rpc : MD → RegisterRequest → Prog Op Ans (Except Status RegisterResponse))
    (clusterID nodeName jwtToken : String) (tools : ToolVersions) (pvcs : List PVCInfo) :
    Prog Op Ans (Except ClientError String) := do
  match ← rpc [("authorization", ["Bearer " ++ jwtToken])] ⟨clusterID, nodeName, some tools, pvcs⟩ with
  | .error status => return .error (.wrap "registration failed: " status)
  | .ok resp => return .ok resp.agentId

/-- Send a heartbeat; unlike `register`, it adds nothing to the metadata. -/
def sendHeartbeat (rpc : MD → HeartbeatRequest → Prog Op Ans (Except Status Unit))
    (agentID : String) (pvcs : List PVCInfo) : Prog Op Ans (Except ClientError Unit) := do
  if agentID = "" then
    return .error { text := "agent not registered" }
  match ← rpc [] ⟨agentID, pvcs⟩ with
  | .error status => return .error (.wrap "heartbeat failed: " status)
  | .ok () => return .ok ()

end

/-! ## The heartbeat loop -/

/-- What the agent process asks of its node. -/
inductive NodeCall where
  /-- Wait for the next tick; `false` when the context is cancelled. -/
  | tick
  | discover
  | readToken
  /-- Wait; `false` when the context is cancelled. -/
  | sleep (delay : Duration)
  deriving DecidableEq

def NodeCall.Ans : NodeCall → Type
  | .tick | .sleep _ => Bool
  | .discover => Except Err (List PVCInfo)
  | .readToken => Except Err String

/-- Code of the agent process, next to a control plane that runs on the calls of
    the registry. -/
abbrev Node (α : Type) : Type :=
  Prog (NodeCall ⊕ RegistryCall) (Sum.elim NodeCall.Ans RegistryCall.Ans) α

def tick : Node Bool := .perform (Sum.inl NodeCall.tick)
def discover : Node (Except Err (List PVCInfo)) := .perform (Sum.inl NodeCall.discover)
def readToken : Node (Except Err String) := .perform (Sum.inl NodeCall.readToken)
def sleep (delay : Duration) : Node Bool := .perform (Sum.inl (NodeCall.sleep delay))

/-- The attempts that remain of `maxRetries`, with exponential backoff. -/
def retryFrom (regFunc : Node (Except ClientError String)) (maxRetries : Nat)
    (baseDelay : Duration) : Nat → Option ClientError → Node (Except ClientError String)
  | 0, lastErr =>
    return .error
      { text := "re-registration exhausted " ++ toString maxRetries ++ " retries: " ++
          (lastErr.map ClientError.text).getD "%!w(<nil>)"
        wrapped := lastErr.bind ClientError.wrapped }
  | remaining + 1, _ => do
    match ← regFunc with
    | .ok agentID => return .ok agentID
    | .error err =>
    let attempt := maxRetries - (remaining + 1)
    if ← sleep (baseDelay * 2 ^ attempt) then
      retryFrom regFunc maxRetries baseDelay remaining (some err)
    else
      return .error { text := "context canceled" }

/-- Register again; `regFunc` returns the identifier that the client then has. -/
def retryReregister (regFunc : Node (Except ClientError String)) (maxRetries : Nat)
    (baseDelay : Duration) : Node (Except ClientError String) :=
  retryFrom regFunc maxRetries baseDelay maxRetries none

/-- The loop, for at most `rounds` ticks; `agentID` is the client's field. -/
def runHeartbeatLoop (rpc : MD → HeartbeatRequest → Node (Except Status Unit))
    (regFunc : Option (Node (Except ClientError String))) : Nat → String → Node Unit
  | 0, _ => return ()
  | rounds + 1, agentID => do
    if ← tick then
      let discovered ← discover
      -- after a failed discovery the heartbeat carries no PVCs
      let pvcs := discovered.toOption.getD []
      match ← sendHeartbeat rpc agentID pvcs, regFunc with
      | .error err, some regFunc =>
        if isReregistrationNeeded err then
          let registered ← retryReregister regFunc 10 (2 * second)
          runHeartbeatLoop rpc (some regFunc) rounds (registered.toOption.getD agentID)
        else
          runHeartbeatLoop rpc (some regFunc) rounds agentID
      | _, regFunc => runHeartbeatLoop rpc regFunc rounds agentID
    else
      return ()

end Client

end Katapult
