/-
  Katapult.Transfer.Calls

  The interfaces the transfer engine is written against, as operations of
  effect programs: the repository, the PVC finder, the agent commander, the
  credential manager, the S3 client, the progress hub, the metrics recorder,
  and the three sources of values the code does not choose itself.
-/

import Katapult.Channel.Buffered
import Katapult.Domain.Transfer
import Katapult.Observability.Progress
import Katapult.Effect.Prog

namespace Katapult

open Channel Effect

/-- The calls of `TransferRepository` that the engine makes. -/
inductive RepoCall where
  | createTransfer (transfer : Transfer)
  | getTransferByID (id : UUID)
  | updateTransferState (id : UUID) (state : TransferState)
  | updateTransferStrategy (id : UUID) (strategy : TransferStrategy)
  | updateTransferProgress (id : UUID) (bytesTransferred bytesTotal : Int)
      (chunksCompleted chunksTotal : Int)
  | updateTransferStarted (id : UUID)
  | updateTransferCompleted (id : UUID)
  | updateTransferFailed (id : UUID) (errorMessage : String)
  | incrementRetryCount (id : UUID)
  | createTransferEvent (event : TransferEvent)
  deriving DecidableEq

def RepoCall.Ans : RepoCall → Type
  | .getTransferByID _ => Except Err (Option Transfer)
  | _ => Except Err Unit

/-- Everything the transfer engine asks of its environment. -/
inductive Call where
  | newUUID
  | timeNow
  | randFloat64
  | repo (call : RepoCall)
  | findHealthyPVC (clusterID pvcName : String)
  | isPVCEmpty (clusterID pvcName : String)
  | sendTransferCommand (agentID transferID : String)
  | sendCancelCommand (agentID transferID : String)
  | revokeCredentials (transferID : String)
  | deleteTransferObjects (transferID : String)
  | publish (transferID : UUID) (progress : EnrichedProgress)
  | closeTransfer (transferID : UUID)
  | onTransferStateChange (fromState toState strategy : String)
  | onProgressReport (bytesTransferred : Int) (speedBytesPerSec : Float64)
  | onTransferError (category : String)
  deriving DecidableEq

def Call.Ans : Call → Type
  | .newUUID => UUID
  | .timeNow => Time
  | .randFloat64 => ℚ
  | .repo call => call.Ans
  | .findHealthyPVC .. | .isPVCEmpty .. => Except Err Bool
  | .sendTransferCommand .. | .sendCancelCommand .. | .revokeCredentials .. |
    .deleteTransferObjects .. => Except Err Unit
  | .publish .. | .closeTransfer .. | .onTransferStateChange .. | .onTransferError .. => Unit
  -- the counter of the recorder can panic
  | .onProgressReport .. => Attempt Unit

/-- Code of the transfer engine. -/
abbrev Engine (α : Type) : Type := Prog Call Call.Ans α

/-- One entry of the engine's history. -/
abbrev CallEv : Type := Ev Call Call.Ans

namespace Engine

def newUUID : Engine UUID := .perform Call.newUUID
def timeNow : Engine Time := .perform Call.timeNow
def randFloat64 : Engine ℚ := .perform Call.randFloat64

def createTransfer (t : Transfer) : Engine (Except Err Unit) :=
  .perform (Call.repo (.createTransfer t))
def getTransferByID (id : UUID) : Engine (Except Err (Option Transfer)) :=
  .perform (Call.repo (.getTransferByID id))
def updateTransferState (id : UUID) (state : TransferState) : Engine (Except Err Unit) :=
  .perform (Call.repo (.updateTransferState id state))
def updateTransferStrategy (id : UUID) (strategy : TransferStrategy) : Engine (Except Err Unit) :=
  .perform (Call.repo (.updateTransferStrategy id strategy))
def updateTransferProgress (id : UUID) (bytesTransferred bytesTotal : Int)
    (chunksCompleted chunksTotal : Int) : Engine (Except Err Unit) :=
  .perform (Call.repo
    (.updateTransferProgress id bytesTransferred bytesTotal chunksCompleted chunksTotal))
def updateTransferStarted (id : UUID) : Engine (Except Err Unit) :=
  .perform (Call.repo (.updateTransferStarted id))
def updateTransferCompleted (id : UUID) : Engine (Except Err Unit) :=
  .perform (Call.repo (.updateTransferCompleted id))
def updateTransferFailed (id : UUID) (errorMessage : String) : Engine (Except Err Unit) :=
  .perform (Call.repo (.updateTransferFailed id errorMessage))
def incrementRetryCount (id : UUID) : Engine (Except Err Unit) :=
  .perform (Call.repo (.incrementRetryCount id))
def createTransferEvent (event : TransferEvent) : Engine (Except Err Unit) :=
  .perform (Call.repo (.createTransferEvent event))

def findHealthyPVC (clusterID pvcName : String) : Engine (Except Err Bool) :=
  .perform (Call.findHealthyPVC clusterID pvcName)
def isPVCEmpty (clusterID pvcName : String) : Engine (Except Err Bool) :=
  .perform (Call.isPVCEmpty clusterID pvcName)
def sendTransferCommand (agentID transferID : String) : Engine (Except Err Unit) :=
  .perform (Call.sendTransferCommand agentID transferID)
def sendCancelCommand (agentID transferID : String) : Engine (Except Err Unit) :=
  .perform (Call.sendCancelCommand agentID transferID)
def revokeCredentials (transferID : String) : Engine (Except Err Unit) :=
  .perform (Call.revokeCredentials transferID)
def deleteTransferObjects (transferID : String) : Engine (Except Err Unit) :=
  .perform (Call.deleteTransferObjects transferID)

end Engine

end Katapult
