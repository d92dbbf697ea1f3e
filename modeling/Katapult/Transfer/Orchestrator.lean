/-
  Katapult.Transfer.Orchestrator

  The three operations that move a transfer through its lifecycle, as programs
  over the engine's interfaces: `createTransfer`, `cancelTransfer` and
  `handleProgress`.  Log lines are left out; every other call is here, in the
  order the source makes it.
-/

import Katapult.Transfer.Policy
import Katapult.Observability.Errors

namespace Katapult

open Channel

structure CreateTransferRequest where
  sourceCluster : String
  sourcePVC : String
  destinationCluster : String
  destinationPVC : String
  strategyOverride : Option String := none
  allowOverwrite : Bool := false
  retryMax : Option Int := none
  createdBy : String := ""

structure CreateTransferResponse where
  transferID : UUID
  state : TransferState
  deriving DecidableEq

/-- Progress data reported by an agent; `status` is any string the agent sent. -/
structure ProgressReport where
  transferID : UUID
  bytesTransferred : Int := 0
  bytesTotal : Int := 0
  speed : Float64 := 0
  chunksCompleted : Int := 0
  chunksTotal : Int := 0
  status : String
  errorMessage : String := ""

/-- The orchestrator's configuration; the hub and the metrics recorder are
    optional dependencies. -/
structure Orchestrator where
  s3Config : S3Config
  config : TransferConfig
  progressHub : Bool
  metrics : Bool

variable [UUIDText]

/-- Record an audit event; a repository error is only logged. -/
def createEvent (transferID : UUID) (eventType : EventType) (message : String)
    (metadata : Option (List (String × String))) : Engine Unit := do
  let id ← Engine.newUUID
  let now ← Engine.timeNow
  let _ ← Engine.createTransferEvent
    { id, transferID, eventType, message, metadata, createdAt := now }
  return ()

/-- A failure exit of `createTransfer` that records an event. -/
def failTransfer (transferID : UUID) (errorMessage eventMessage : String) : Engine Unit := do
  -- the in-memory copy is not read again, and the error of the write is discarded
  let _ ← Engine.updateTransferFailed transferID errorMessage
  createEvent transferID .failed eventMessage none

namespace Orchestrator

def publish (o : Orchestrator) (id : UUID) (progress : EnrichedProgress) : Engine Unit :=
  if o.progressHub then .perform (Call.publish id progress) else return ()

def closeTransfer (o : Orchestrator) (id : UUID) : Engine Unit :=
  if o.progressHub then .perform (Call.closeTransfer id) else return ()

def onTransferStateChange (o : Orchestrator) (fromState toState strategy : String) : Engine Unit :=
  if o.metrics then .perform (Call.onTransferStateChange fromState toState strategy) else return ()

def onProgressReport (o : Orchestrator) (bytes : Int) (speed : Float64) : Engine (Attempt Unit) :=
  if o.metrics then .perform (Call.onProgressReport bytes speed) else return .done ()

def onTransferError (o : Orchestrator) (category : String) : Engine Unit :=
  if o.metrics then .perform (Call.onTransferError category) else return ()

/-! ## CreateTransfer -/

/-- The record `createTransfer` inserts. -/
def newTransfer (o : Orchestrator) (req : CreateTransferRequest) (id : UUID) (now : Time) :
    Transfer where
  id := id
  sourceCluster := req.sourceCluster
  sourcePVC := req.sourcePVC
  destinationCluster := req.destinationCluster
  destinationPVC := req.destinationPVC
  state := .pending
  allowOverwrite := req.allowOverwrite
  retryMax := req.retryMax.getD o.config.retryMaxAttempts
  createdBy := req.createdBy
  createdAt := now

/-- The command phase: the source agent first, then the destination agent. -/
def commandAgents (req : CreateTransferRequest) (transferID : UUID) :
    Engine (Except Err CreateTransferResponse) := do
  match ← Engine.sendTransferCommand req.sourceCluster transferID.text with
  | .error err =>
    failTransfer transferID ("source agent command failed: " ++ err)
      ("Source agent command failed: " ++ err)
    return .error ("sending command to source agent: " ++ err)
  | .ok () =>
  match ← Engine.sendTransferCommand req.destinationCluster transferID.text with
  | .error err =>
    failTransfer transferID ("destination agent command failed: " ++ err)
      ("Destination agent command failed: " ++ err)
    return .error ("sending command to destination agent: " ++ err)
  | .ok () =>
  return .ok { transferID, state := .transferring }

/-- From an accepted request to a started transfer. -/
def startTransfer (o : Orchestrator) (req : CreateTransferRequest) (transfer : Transfer) :
    Engine (Except Err CreateTransferResponse) := do
  let transferID := transfer.id
  match selectStrategy req.sourceCluster req.destinationCluster req.strategyOverride o.s3Config with
  | .error err =>
    -- unlike the other failure exits, this one records no event
    let _ ← Engine.updateTransferFailed transferID err
    return .error ("strategy selection: " ++ err)
  | .ok strategy =>
  let transfer := { transfer with strategy }
  match ← Engine.updateTransferStrategy transferID strategy with
  | .error err => return .error ("persisting strategy: " ++ err)
  | .ok () =>
  match transfer.transitionTo .transferring with
  | .error err => return .error ("transition to transferring: " ++ err)
  | .ok _ =>
  match ← Engine.updateTransferState transferID .transferring with
  | .error err => return .error ("persisting transferring state: " ++ err)
  | .ok () =>
  match ← Engine.updateTransferStarted transferID with
  | .error err => return .error ("persisting started_at: " ++ err)
  | .ok () =>
  createEvent transferID .started
    ("Data transfer started with " ++ strategy.text ++ " strategy") none
  commandAgents req transferID

/-- From a new record to an accepted request: insert it, validate, start. -/
def admitTransfer (o : Orchestrator) (req : CreateTransferRequest) (transfer : Transfer) :
    Engine (Except Err CreateTransferResponse) := do
  let transferID := transfer.id
  match ← Engine.createTransfer transfer with
  | .error err => return .error ("creating transfer record: " ++ err)
  | .ok () =>
  createEvent transferID .created "Transfer created" none
  match transfer.transitionTo .validating with
  | .error err => return .error ("transition to validating: " ++ err)
  | .ok transfer =>
  match ← Engine.updateTransferState transferID .validating with
  | .error err => return .error ("persisting validating state: " ++ err)
  | .ok () =>
  let valid ← validateTransferRequest
    { transferID := transferID.text
      sourceCluster := req.sourceCluster
      sourcePVC := req.sourcePVC
      destinationCluster := req.destinationCluster
      destinationPVC := req.destinationPVC
      allowOverwrite := req.allowOverwrite }
  match valid with
  | .error err =>
    failTransfer transferID err ("Validation failed: " ++ err)
    return .error ("validation failed: " ++ err)
  | .ok () =>
  createEvent transferID .validated "Transfer request validated successfully" none
  o.startTransfer req transfer

/-- Create a new transfer. -/
def createTransfer (o : Orchestrator) (req : CreateTransferRequest) :
    Engine (Except Err CreateTransferResponse) := do
  let transferID ← Engine.newUUID
  let now ← Engine.timeNow
  o.admitTransfer req (o.newTransfer req transferID now)

/-! ## CancelTransfer -/

/-- Cancel an active transfer. -/
def cancelTransfer (o : Orchestrator) (transferID : UUID) : Engine (Except Err Unit) := do
  match ← Engine.getTransferByID transferID with
  | .error err => return .error ("loading transfer: " ++ err)
  | .ok none => return .error ("transfer " ++ transferID.text ++ " not found")
  | .ok (some transfer) =>
  if transfer.isTerminal then
    return .error ("transfer already in terminal state: " ++ transfer.state.text)
  match transfer.transitionTo .cancelled with
  | .error err => return .error ("transition to cancelled: " ++ err)
  | .ok transfer =>
  let now ← Engine.timeNow
  let transfer := { transfer with completedAt := some now }
  match ← Engine.updateTransferState transferID .cancelled with
  | .error err => return .error ("persisting cancelled state: " ++ err)
  | .ok () =>
  match ← Engine.updateTransferCompleted transferID with
  | .error err => return .error ("persisting completed_at: " ++ err)
  | .ok () =>
  createEvent transferID .cancelled "Transfer cancelled by operator" none
  o.closeTransfer transferID
  o.onTransferStateChange "transferring" "cancelled" transfer.strategy.text
  let _ ← Engine.sendCancelCommand transfer.sourceCluster transferID.text
  let _ ← Engine.sendCancelCommand transfer.destinationCluster transferID.text
  executeCleanup transfer
  return .ok ()

/-! ## HandleProgress -/

/-- The branch for a report with status `completed`. -/
def handleCompleted (o : Orchestrator) (transferID : UUID) (transfer : Transfer) :
    Engine (Except Err Unit) := do
  match transfer.transitionTo .completed with
  | .error err => return .error ("transition to completed: " ++ err)
  | .ok transfer =>
  match ← Engine.updateTransferState transferID .completed with
  | .error err => return .error ("persisting completed state: " ++ err)
  | .ok () =>
  match ← Engine.updateTransferCompleted transferID with
  | .error err => return .error ("persisting completed_at: " ++ err)
  | .ok () =>
  createEvent transferID .completed "Transfer completed successfully" none
  o.closeTransfer transferID
  o.onTransferStateChange "transferring" "completed" transfer.strategy.text
  executeCleanup transfer
  return .ok ()

/-- The end of the branch for a report with status `failed`, once no retry is left. -/
def handleExhausted (o : Orchestrator) (transferID : UUID) (errorMessage : String)
    (transfer : Transfer) : Engine (Except Err Unit) := do
  match transfer.transitionTo .failed with
  | .error err => return .error ("transition to failed: " ++ err)
  | .ok transfer =>
  let actionable := enrichError (some errorMessage) {}
  let errMsg := actionable.string
  match ← Engine.updateTransferFailed transferID errMsg with
  | .error err => return .error ("persisting failed state: " ++ err)
  | .ok () =>
  createEvent transferID .failed errMsg none
  o.closeTransfer transferID
  o.onTransferStateChange "transferring" "failed" transfer.strategy.text
  o.onTransferError actionable.category.text
  executeCleanup transfer
  return .ok ()

/-- The branch for a report with status `failed`. -/
def handleFailed (o : Orchestrator) (transferID : UUID) (errorMessage : String)
    (transfer : Transfer) : Engine (Except Err Unit) := do
  let decision ← applyRetryBackoff transfer.retryCount transfer.retryMax
    o.config.retryBaseDelay o.config.retryMaxDelay o.config.jitterFactor
  if decision.action = .retry then
    match ← Engine.incrementRetryCount transferID with
    | .error err => return .error ("incrementing retry count: " ++ err)
    | .ok () =>
    createEvent transferID .retried
      ("Retrying transfer, attempt " ++ toString (transfer.retryCount + 1)) none
    -- the command is not sent again: the delay is only logged
    return .ok ()
  else
    o.handleExhausted transferID errorMessage transfer

def progressMetadata (report : ProgressReport) : List (String × String) :=
  [("bytes_transferred", toString report.bytesTransferred),
   ("bytes_total", toString report.bytesTotal),
   ("speed", report.speed.format 2),
   ("chunks_completed", toString report.chunksCompleted),
   ("chunks_total", toString report.chunksTotal)]

def rawProgress (report : ProgressReport) : RawProgress where
  transferID := report.transferID
  bytesTransferred := report.bytesTransferred
  bytesTotal := report.bytesTotal
  speedBytesPerSec := report.speed
  chunksCompleted := report.chunksCompleted
  chunksTotal := report.chunksTotal
  status := report.status
  errorMessage := report.errorMessage

/-- The branches for the status of a report. -/
def handleStatus (o : Orchestrator) (report : ProgressReport) (transfer : Transfer) :
    Engine (Except Err Unit) :=
  if report.status = "completed" then
    o.handleCompleted report.transferID transfer
  else if report.status = "failed" then
    o.handleFailed report.transferID report.errorMessage transfer
  else
    return .ok ()

/-- Process a progress report from an agent.  A panic of the recorder ends the call
    where it is; nothing recovers from it. -/
def handleProgress (o : Orchestrator) (report : ProgressReport) :
    Engine (Attempt (Except Err Unit)) := do
  match ← Engine.getTransferByID report.transferID with
  | .error err => return .done (.error ("loading transfer: " ++ err))
  | .ok none => return .done (.error ("transfer " ++ report.transferID.text ++ " not found"))
  | .ok (some transfer) =>
  match ← Engine.updateTransferProgress report.transferID report.bytesTransferred
      report.bytesTotal report.chunksCompleted report.chunksTotal with
  | .error err => return .done (.error ("updating progress: " ++ err))
  | .ok () =>
  createEvent report.transferID .progress "Progress update" (some (progressMetadata report))
  o.publish report.transferID (enrichProgress (rawProgress report) report.transferID.text)
  match ← o.onProgressReport report.bytesTransferred report.speed with
  | .panics => return .panics
  | .blocks => return .blocks
  | .done () => return .done (← o.handleStatus report transfer)

/-- Retrieve a transfer by identifier. -/
def getTransfer (id : UUID) : Engine (Except Err (Option Transfer)) := Engine.getTransferByID id

end Orchestrator

/-! ## Requests -/

/-- A call of one of the three operations. -/
inductive Request where
  | createTransfer (req : CreateTransferRequest)
  | cancelTransfer (transferID : UUID)
  | handleProgress (report : ProgressReport)

inductive Response where
  | created (result : Except Err CreateTransferResponse)
  | cancelled (result : Except Err Unit)
  | handled (result : Attempt (Except Err Unit))
  deriving DecidableEq

def Orchestrator.serve (o : Orchestrator) : Request → Engine Response
  | .createTransfer req => do return .created (← o.createTransfer req)
  | .cancelTransfer id => do return .cancelled (← o.cancelTransfer id)
  | .handleProgress report => do return .handled (← o.handleProgress report)

end Katapult
