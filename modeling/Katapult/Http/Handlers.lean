/-
  Katapult.Http.Handlers

  The handlers of the REST API, as programs over the services they call: the
  transfer service, the registry service, and the progress hub with the response
  stream of the client.

  The stream loop has no end of its own.  It is cut off after a number of rounds,
  which everything that is said about it holds for.
-/

import Katapult.Http.Auth
import Katapult.Observability.Hub
import Katapult.Transfer.Orchestrator

namespace Katapult

open Effect

/-! ## Services -/

/-- The methods of `TransferService` and `RegistryService`. -/
inductive ApiCall where
  | createTransfer (req : CreateTransferRequest)
  | cancelTransfer (transferID : UUID)
  | getTransfer (id : UUID)
  | listTransfers (filter : TransferFilter)
  | getTransferEvents (transferID : UUID)
  | getAgent (agentID : UUID)
  | listAgents (filter : AgentFilter)
  | listClusters

def ApiCall.Ans : ApiCall → Type
  | .createTransfer _ => Except Err CreateTransferResponse
  | .cancelTransfer _ => Except Err Unit
  | .getTransfer _ => Except Err (Option Transfer)
  | .listTransfers _ => Except Err (List Transfer × Int)
  | .getTransferEvents _ => Except Err (List TransferEvent)
  | .getAgent _ => Except Err (Option Agent)
  | .listAgents _ => Except Err (List Agent × Int)
  | .listClusters => Except Err (List String)

/-- The answer of a service that fails. -/
def ApiCall.failed (err : Err) : (call : ApiCall) → call.Ans
  | .createTransfer _ | .cancelTransfer _ | .getTransfer _ | .listTransfers _
  | .getTransferEvents _ | .getAgent _ | .listAgents _ | .listClusters => .error err

/-- What a round of the stream loop is woken up by. -/
inductive StreamEvent where
  | progress (progress : EnrichedProgress)
  | closed
  | keepalive
  /-- The client has gone. -/
  | done
  deriving DecidableEq

/-- What the stream handler asks for: the transfer, the hub's methods, its next
    event, and the writing of a frame. -/
inductive StreamCall where
  | getTransfer (id : UUID)
  | subscribe (transferID : UUID)
  | unsubscribe (handle : Handle)
  | select (handle : Handle)
  /-- A call of `writeSSEEvent`, which writes nothing when `json.Marshal` fails. -/
  | writeEvent (progress : EnrichedProgress)
  | writeKeepalive
  deriving DecidableEq

def StreamCall.Ans : StreamCall → Type
  | .getTransfer _ => Except Err (Option Transfer)
  | .subscribe _ => Handle
  | .select _ => StreamEvent
  | .unsubscribe _ | .writeEvent _ | .writeKeepalive => Unit

abbrev HttpCall : Type := StreamCall ⊕ ApiCall
abbrev HttpCall.Ans : HttpCall → Type := Sum.elim StreamCall.Ans ApiCall.Ans

/-- Code of a handler. -/
abbrev Api (α : Type) : Type := Prog ApiCall ApiCall.Ans α
/-- Code of the stream handler. -/
abbrev Stream (α : Type) : Type := Prog StreamCall StreamCall.Ans α

namespace Api

def createTransfer (req : CreateTransferRequest) : Api (Except Err CreateTransferResponse) :=
  .perform (ApiCall.createTransfer req)
def cancelTransfer (id : UUID) : Api (Except Err Unit) := .perform (ApiCall.cancelTransfer id)
def getTransfer (id : UUID) : Api (Except Err (Option Transfer)) :=
  .perform (ApiCall.getTransfer id)
def listTransfers (filter : TransferFilter) : Api (Except Err (List Transfer × Int)) :=
  .perform (ApiCall.listTransfers filter)
def getTransferEvents (id : UUID) : Api (Except Err (List TransferEvent)) :=
  .perform (ApiCall.getTransferEvents id)
def getAgent (id : UUID) : Api (Except Err (Option Agent)) := .perform (ApiCall.getAgent id)
def listAgents (filter : AgentFilter) : Api (Except Err (List Agent × Int)) :=
  .perform (ApiCall.listAgents filter)
def listClusters : Api (Except Err (List String)) := .perform ApiCall.listClusters

end Api

namespace Stream

def getTransfer (id : UUID) : Stream (Except Err (Option Transfer)) :=
  .perform (StreamCall.getTransfer id)
def subscribe (id : UUID) : Stream Handle := .perform (StreamCall.subscribe id)
def unsubscribe (handle : Handle) : Stream Unit := .perform (StreamCall.unsubscribe handle)
def select (handle : Handle) : Stream StreamEvent := .perform (StreamCall.select handle)
def writeEvent (progress : EnrichedProgress) : Stream Unit :=
  .perform (StreamCall.writeEvent progress)
def writeKeepalive : Stream Unit := .perform StreamCall.writeKeepalive

end Stream

/-! ## Validation of the input -/

/-- The fields of the input that must not be empty. -/
def CreateTransferInput.required (req : CreateTransferInput) : List (String × FieldError) :=
  [(req.sourceCluster, ⟨"source_cluster", "source cluster is required"⟩),
   (req.sourcePVC, ⟨"source_pvc", "source PVC is required"⟩),
   (req.destinationCluster, ⟨"destination_cluster", "destination cluster is required"⟩),
   (req.destinationPVC, ⟨"destination_pvc", "destination PVC is required"⟩)]

/-- The errors of the input, in the order in which they are found. -/
def validateCreateTransferInput (req : CreateTransferInput) : List FieldError :=
  let missing := (req.required.filter fun field => field.1 = "").map Prod.snd
  let same :=
    if req.sourceCluster ≠ "" ∧ req.destinationCluster ≠ "" ∧ req.sourcePVC ≠ "" ∧
        req.destinationPVC ≠ "" ∧ req.sourceCluster = req.destinationCluster ∧
        req.sourcePVC = req.destinationPVC then
      [⟨"destination_pvc", "source and destination must differ"⟩]
    else []
  let strategy :=
    match req.strategy with
    | none => []
    | some strategy =>
      if strategy = "stream" ∨ strategy = "s3" ∨ strategy = "direct" then []
      else [⟨"strategy", "invalid strategy; must be one of: stream, s3, direct"⟩]
  let retry :=
    match req.retryMax with
    | none => []
    | some retryMax => if retryMax < 1 then [⟨"retry_max", "maxAttempts must be >= 1"⟩] else []
  missing ++ same ++ strategy ++ retry

/-! ## Query parameters -/

/-- A parameter that is there. -/
def HttpRequest.parameter (r : HttpRequest) (key : String) : Option String :=
  if r.queryValue key ≠ "" then some (r.queryValue key) else none

/-- The limit that the query asks for, `0` when it asks for none. -/
def HttpRequest.limit (r : HttpRequest) : Int :=
  (((r.parameter "limit").bind fun text => atoi text.toList).filter fun n => 0 < n).getD 0

def HttpRequest.offset (r : HttpRequest) : Int :=
  (((r.parameter "offset").bind fun text => atoi text.toList).filter fun n => 0 ≤ n).getD 0

/-- The page that a list is answered with. -/
def paginationMeta (total limit offset : Int) : PaginationMeta where
  total := total
  limit := if limit ≤ 0 then 50 else limit
  offset := offset

/-! ## Handlers -/

section

variable [UUIDText]

/-- The body of a valid request, as the orchestrator takes it. -/
def CreateTransferInput.createReq (input : CreateTransferInput) (createdBy : String) :
    CreateTransferRequest where
  sourceCluster := input.sourceCluster
  sourcePVC := input.sourcePVC
  destinationCluster := input.destinationCluster
  destinationPVC := input.destinationPVC
  strategyOverride := input.strategy
  allowOverwrite := input.allowOverwrite
  retryMax := input.retryMax
  createdBy := createdBy

def handleCreateTransfer (r : HttpRequest) : Api Reply :=
  match r.body with
  | none => return writeErrorJSON 400 "invalid_request" "invalid JSON body"
  | some input =>
  match validateCreateTransferInput input with
  | err :: errs => return ⟨400, .validationErrors (err :: errs)⟩
  | [] => do
  let createdBy := (r.user.map UserInfo.subject).getD ""
  match ← Api.createTransfer (input.createReq createdBy) with
  | .error err => return writeErrorJSON 500 "create_failed" err
  | .ok resp =>
  return ⟨201, .created resp.transferID resp.state (input.sourceCluster, input.sourcePVC)
    (input.destinationCluster, input.destinationPVC)⟩

def handleListTransfers (r : HttpRequest) : Api Reply := do
  let filter : TransferFilter :=
    { state := r.parameter "status", cluster := r.parameter "cluster"
      limit := r.limit, offset := r.offset }
  match ← Api.listTransfers filter with
  | .error err => return writeErrorJSON 500 "list_failed" err
  | .ok (transfers, total) =>
  return ⟨200, .transfers transfers (paginationMeta total filter.limit filter.offset)⟩

def handleGetTransfer (r : HttpRequest) : Api Reply :=
  match UUIDText.parse (r.pathValue "id") with
  | .error _ => return writeErrorJSON 400 "invalid_id" "invalid transfer ID format"
  | .ok id => do
  match ← Api.getTransfer id with
  | .error err => return writeErrorJSON 500 "get_failed" err
  | .ok none => return writeErrorJSON 404 "not_found" "transfer not found"
  | .ok (some t) => return ⟨200, .transfer t⟩

def handleCancelTransfer (r : HttpRequest) : Api Reply :=
  match UUIDText.parse (r.pathValue "id") with
  | .error _ => return writeErrorJSON 400 "invalid_id" "invalid transfer ID format"
  | .ok id => do
  match ← Api.cancelTransfer id with
  | .error err =>
    -- the errors of the orchestrator are told apart by their texts
    if contains err "not found" then return writeErrorJSON 404 "not_found" "transfer not found"
    else if contains err "terminal state" then return writeErrorJSON 409 "conflict" err
    else return writeErrorJSON 500 "cancel_failed" err
  | .ok () => return ⟨200, .cancelled id .cancelled⟩

def handleGetTransferEvents (r : HttpRequest) : Api Reply :=
  match UUIDText.parse (r.pathValue "id") with
  | .error _ => return writeErrorJSON 400 "invalid_id" "invalid transfer ID format"
  | .ok id => do
  match ← Api.getTransfer id with
  | .error err => return writeErrorJSON 500 "get_failed" err
  | .ok none => return writeErrorJSON 404 "not_found" "transfer not found"
  | .ok (some _) =>
  match ← Api.getTransferEvents id with
  | .error err => return writeErrorJSON 500 "get_events_failed" err
  | .ok events => return ⟨200, .events events⟩

omit [UUIDText] in
def handleListAgents (r : HttpRequest) : Api Reply := do
  let filter : AgentFilter :=
    { clusterID := r.parameter "cluster", state := r.parameter "state"
      limit := r.limit, offset := r.offset }
  match ← Api.listAgents filter with
  | .error err => return writeErrorJSON 500 "list_failed" err
  | .ok (agents, total) =>
  return ⟨200, .agents agents (paginationMeta total filter.limit filter.offset)⟩

/-- What the two handlers of one agent share. -/
def withAgent (r : HttpRequest) (body : Agent → Body) : Api Reply :=
  match UUIDText.parse (r.pathValue "id") with
  | .error _ => return writeErrorJSON 400 "invalid_id" "invalid agent ID format"
  | .ok id => do
  match ← Api.getAgent id with
  | .error err => return writeErrorJSON 500 "get_failed" err
  | .ok none => return writeErrorJSON 404 "not_found" "agent not found"
  | .ok (some agent) => return ⟨200, body agent⟩

def handleGetAgent (r : HttpRequest) : Api Reply := withAgent r .agent

def handleGetAgentPVCs (r : HttpRequest) : Api Reply := withAgent r fun agent => .pvcs agent.pvcs

omit [UUIDText] in
def handleListClusters (_ : HttpRequest) : Api Reply := do
  match ← Api.listClusters with
  | .error err => return writeErrorJSON 500 "list_failed" err
  | .ok clusters => return ⟨200, .clusters clusters⟩

/-! ## The stream of progress -/

/-- The stored state of a transfer, as an event. -/
def snapshot (transfer : Transfer) : EnrichedProgress where
  transferID := transfer.id
  bytesTransferred := transfer.bytesTransferred
  bytesTotal := transfer.bytesTotal
  percentComplete :=
    if 0 < transfer.bytesTotal then (transfer.bytesTransferred : ℚ) / transfer.bytesTotal * 100 else 0
  speedBytesPerSec := 0
  chunksCompleted := transfer.chunksCompleted
  chunksTotal := transfer.chunksTotal
  correlationID := transfer.id.text
  status := transfer.state.text
  errorMessage := ""

omit [UUIDText] in
/-- The loop of a stream; it answers `false` where it is cut off. -/
def streamLoop (handle : Handle) : Nat → Stream Bool
  | 0 => return false
  | rounds + 1 => do
    match ← Stream.select handle with
    | .progress progress =>
      Stream.writeEvent progress
      streamLoop handle rounds
    | .closed => return true
    | .keepalive =>
      Stream.writeKeepalive
      streamLoop handle rounds
    | .done => return true

/-- From the first frame of a stream to its end. -/
def streamTransfer (rounds : Nat) (transfer : Transfer) (handle : Handle) : Stream Reply := do
  Stream.writeEvent (snapshot transfer)
  if ← streamLoop handle rounds then
    Stream.unsubscribe handle
    return ⟨200, .eventStream⟩
  else return ⟨200, .eventStream⟩

def handleStreamProgress (progressHub : Bool) (rounds : Nat) (r : HttpRequest) : Stream Reply :=
  match UUIDText.parse (r.pathValue "id") with
  | .error _ => return writeErrorJSON 400 "invalid_id" "invalid transfer ID format"
  | .ok id => do
  match ← Stream.getTransfer id with
  | .error err => return writeErrorJSON 500 "get_failed" err
  | .ok none => return writeErrorJSON 404 "not_found" "transfer not found"
  | .ok (some transfer) =>
  -- one frame, and no subscription
  if transfer.isTerminal then
    Stream.writeEvent (snapshot transfer)
    return ⟨200, .eventStream⟩
  if progressHub = false then
    return writeErrorJSON 503 "unavailable" "progress streaming not available"
  let handle ← Stream.subscribe id
  -- the deferred `unsub` runs on every exit from here on
  if r.flusher = false then
    Stream.unsubscribe handle
    return writeErrorJSON 500 "sse_unsupported" "streaming not supported"
  streamTransfer rounds transfer handle

end

end Katapult
