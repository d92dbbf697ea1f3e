/-
  Katapult.Grpc.Transfers

  The gRPC methods that create and cancel transfers, and what the timelines of a
  run tell in which creations come in through the first.

  That method checks that four fields are there and passes everything else on;
  the strategy override is any string, and is looked at only after the row has
  been validated.
-/

import Katapult.Grpc.Auth
import Katapult.Transfer.Timeline

namespace Katapult

open Effect Channel

namespace Pb

structure CreateTransferRequest where
  sourceCluster : String := ""
  sourcePvc : String := ""
  destinationCluster : String := ""
  destinationPvc : String := ""
  strategyOverride : Option String := none
  allowOverwrite : Bool := false
  retryMax : Option Int32 := none
  createdBy : String := ""

structure CreateTransferResponse where
  transferId : String
  state : String
  deriving DecidableEq

structure CancelTransferResponse where
  transferId : String
  state : String
  deriving DecidableEq

/-- A progress report, as an agent sends it; the counts of chunks have four bytes. -/
structure ReportProgressRequest where
  transferId : String := ""
  bytesTransferred : Int := 0
  bytesTotal : Int := 0
  speed : Float64 := 0
  chunksCompleted : Int32 := 0
  chunksTotal : Int32 := 0
  status : String := ""
  errorMessage : String := ""

/-- The required fields, in the order in which they are checked. -/
def CreateTransferRequest.required (req : CreateTransferRequest) : List (String × String) :=
  [("source_cluster", req.sourceCluster), ("source_pvc", req.sourcePvc),
   ("destination_cluster", req.destinationCluster), ("destination_pvc", req.destinationPvc)]

/-- The first required field that is empty. -/
def CreateTransferRequest.missing (req : CreateTransferRequest) : Option String :=
  (req.required.find? fun field => field.2 = "").map Prod.fst

/-- The request as the orchestrator takes it. -/
def CreateTransferRequest.createReq (req : CreateTransferRequest) : Katapult.CreateTransferRequest where
  sourceCluster := req.sourceCluster
  sourcePVC := req.sourcePvc
  destinationCluster := req.destinationCluster
  destinationPVC := req.destinationPvc
  strategyOverride := req.strategyOverride
  allowOverwrite := req.allowOverwrite
  retryMax := req.retryMax.map Int32.toInt
  createdBy := req.createdBy

end Pb

section

variable [UUIDText]

/-- Handle transfer creation requests from operators. -/
def AgentServer.createTransfer (orchestrator : Option Orchestrator) (req : Pb.CreateTransferRequest) :
    Engine (Except Status Pb.CreateTransferResponse) := do
  match orchestrator with
  | none => return .error ⟨.unimplemented, "transfer engine not configured"⟩
  | some o =>
  match req.missing with
  | some field => return .error ⟨.invalidArgument, field ++ " is required"⟩
  | none =>
  match ← o.createTransfer req.createReq with
  | .error err =>
    if contains err "validation failed" then
      return .error ⟨.invalidArgument, err⟩
    return .error ⟨.internal, "creating transfer: " ++ err⟩
  | .ok resp => return .ok { transferId := resp.transferID.text, state := resp.state.text }

/-- Handle transfer cancellation requests from operators. -/
def AgentServer.cancelTransfer (orchestrator : Option Orchestrator) (transferId : String) :
    Engine (Except Status Pb.CancelTransferResponse) := do
  match orchestrator with
  | none => return .error ⟨.unimplemented, "transfer engine not configured"⟩
  | some o =>
  match UUIDText.parse transferId with
  | .error err => return .error ⟨.invalidArgument, "invalid transfer_id: " ++ err⟩
  | .ok transferID =>
  match ← o.cancelTransfer transferID with
  | .error err =>
    if contains err "terminal state" then
      return .error ⟨.failedPrecondition, err⟩
    if contains err "not found" then
      return .error ⟨.notFound, err⟩
    return .error ⟨.internal, "cancelling transfer: " ++ err⟩
  | .ok () =>
    return .ok { transferId := transferID.text, state := TransferState.cancelled.text }

/-- Handle progress reports from agents. -/
def AgentServer.reportProgress (orchestrator : Option Orchestrator) (req : Pb.ReportProgressRequest) :
    Engine (Attempt (Except Status Unit)) := do
  match orchestrator with
  | none => return .done (.error ⟨.unimplemented, "transfer engine not configured"⟩)
  | some o =>
  match UUIDText.parse req.transferId with
  | .error err => return .done (.error ⟨.invalidArgument, "invalid transfer_id: " ++ err⟩)
  | .ok transferID =>
  match ← o.handleProgress
      { transferID, bytesTransferred := req.bytesTransferred, bytesTotal := req.bytesTotal
        speed := req.speed, chunksCompleted := req.chunksCompleted.toInt
        chunksTotal := req.chunksTotal.toInt, status := req.status
        errorMessage := req.errorMessage } with
  | .panics => return .panics
  | .blocks => return .blocks
  | .done (.error err) =>
    if contains err "not found" then
      return .done (.error ⟨.notFound, err⟩)
    return .done (.error ⟨.internal, "reporting progress: " ++ err⟩)
  | .done (.ok ()) => return .done (.ok ())

end

/-- A creation through the front end, or a call of one of the other two operations. -/
inductive FrontRequest where
  | createTransfer (req : Pb.CreateTransferRequest)
  | cancelTransfer (transferID : UUID)
  | handleProgress (report : ProgressReport)

def Orchestrator.serveFront [UUIDText] (o : Orchestrator) : FrontRequest → Engine Unit
  | .createTransfer req => do let _ ← AgentServer.createTransfer (some o) req
  | .cancelTransfer id => do let _ ← o.cancelTransfer id
  | .handleProgress report => do let _ ← o.handleProgress report

/-- A creation is refused for an empty field or for one PVC at both ends, or its
    strategy override is none that the selection would reject. -/
def FrontRequest.Plannable (s3Config : S3Config) : FrontRequest → Prop
  | .createTransfer req => req.missing ≠ none ∨ req.createReq.Plannable s3Config
  | _ => True

section

variable [UUIDText]

theorem Orchestrator.truthful_serveFront (o : Orchestrator) {request : FrontRequest}
    (hplannable : request.Plannable o.s3Config) {h : List CallEv} {s : Store}
    (htruthful : ∀ id, (account id h s).Truthful) :
    Prog.wp exec Unfailed (o.serveFront request)
      (fun _ h' s' => ∀ id, (account id h' s').Truthful) h s := by
  cases request with
  | createTransfer req =>
    refine (Prog.wp_bind _ _).mpr ?_
    simp only [AgentServer.createTransfer]
    cases hmissing : req.missing with
    | some field => exact htruthful
    | none =>
      have hplan : req.createReq.Plannable o.s3Config := by
        rcases hplannable with hne | hplan
        · exact absurd hmissing hne
        · exact hplan
      have hcreate := (Prog.wp_bind _ _).mp
        (o.truthful_serve (.createTransfer req.createReq) hplan htruthful)
      refine (Prog.wp_bind _ _).mpr (Prog.wp_mono hcreate ?_)
      rintro (err | resp) h' s' hall
      · -- the text of the error only chooses the status code
        dsimp only
        split
        · exact hall
        · exact hall
      · exact hall
  | cancelTransfer id =>
    have hcancel := (Prog.wp_bind _ _).mp
      (o.truthful_serve (.cancelTransfer id) trivial htruthful)
    exact (Prog.wp_bind _ _).mpr (Prog.wp_mono hcancel fun _ _ _ hall => hall)
  | handleProgress report =>
    have hhandle := (Prog.wp_bind _ _).mp
      (o.truthful_serve (.handleProgress report) trivial htruthful)
    exact (Prog.wp_bind _ _).mpr (Prog.wp_mono hhandle fun _ _ _ hall => hall)

/-- Between any two requests of every sequential run in which no statement fails
    and every creation is plannable, every timeline tells the truth about its row. -/
theorem truthful_of_run (o : Orchestrator) {steps : List (FrontRequest × Store)} {h : List CallEv}
    {s : Store} (hrun : Prog.SeqRun exec Unfailed o.serveFront .empty steps h s)
    (hplannable : ∀ step ∈ steps, step.1.Plannable o.s3Config) (id : UUID) (t : Transfer)
    (ht : s.row id = some t) : Truthful ((s.timeline id).map TransferEvent.eventType) t := by
  have hall : ∀ id, (account id h s).Truthful := by
    refine Prog.SeqRun.invariant_of (C := fun step => step.1.Plannable o.s3Config)
      (I := fun h s => ∀ id, (account id h s).Truthful) (fun id => ?_) ?_ hrun hplannable
    · rw [account_empty]
      exact .init
    · exact fun request h s hplan htruthful => o.truthful_serveFront hplan htruthful
  exact (hall id).present t ht

end

/-! ## Sample runs -/

/-- A request between two clusters, with a strategy override. -/
def overridden (strategy : String) : Pb.CreateTransferRequest where
  sourceCluster := "east"
  sourcePvc := "apps/data"
  destinationCluster := "west"
  destinationPvc := "apps/data"
  strategyOverride := some strategy

/-- The history and the store at the end of a sample run. -/
def frontEnd (runs : List (FrontRequest × List Env)) : Option (List CallEv × Store) :=
  Prog.evalAll exec Unfailed (@Orchestrator.serveFront canonicalText plainOrchestrator) .empty runs

/-- A creation with the override `direct`, then a cancellation of what it has inserted. -/
def directThenCancel : List (FrontRequest × List Env) :=
  [(.createTransfer (overridden "direct"), calls 7 21), (.cancelTransfer 7, calls 100 12)]

theorem plannable_directThenCancel :
    ∀ run ∈ directThenCancel, run.1.Plannable plainOrchestrator.s3Config := by
  simp only [directThenCancel, List.forall_mem_cons]
  exact ⟨.inr (.inr ⟨_, rfl⟩), trivial, fun _ hstep => absurd hstep List.not_mem_nil⟩

theorem truthful_directThenCancel :
    ∃ h s t, frontEnd directThenCancel = some (h, s) ∧ s.row 7 = some t ∧ t.state = .cancelled ∧
      Truthful ((s.timeline 7).map TransferEvent.eventType) t := by
  have hend : (frontEnd directThenCancel).any fun out => out.2.stateOf 7 = some .cancelled := by
    decide +kernel
  obtain ⟨⟨h, s⟩, hruns, hstate⟩ := (Option.any_eq_true _ _).mp hend
  obtain ⟨t, ht, hcancelled⟩ := Option.map_eq_some_iff.mp (of_decide_eq_true hstate)
  obtain ⟨steps, hsteps, hrun⟩ := Prog.SeqRun.init.of_evalAll hruns
  have hplannable : ∀ step ∈ steps, step.1.Plannable plainOrchestrator.s3Config := by
    intro step hstep
    have hmem : step.1 ∈ directThenCancel.map Prod.fst := hsteps ▸ List.mem_map_of_mem hstep
    obtain ⟨run, hrun, heq⟩ := List.mem_map.mp hmem
    exact heq ▸ plannable_directThenCancel run hrun
  exact ⟨h, s, t, hruns, ht, hcancelled,
    @truthful_of_run canonicalText plainOrchestrator steps h s hrun hplannable 7 t ht⟩

/-- A creation with the override `fast`: it passes validation, no strategy can be
    selected, and the row is failed without an event that says so. -/
theorem not_truthful_unknownStrategy :
    ¬ ∀ (steps : List (FrontRequest × Store)) (h : List CallEv) (s : Store),
      Prog.SeqRun exec Unfailed (@Orchestrator.serveFront canonicalText plainOrchestrator) .empty
        steps h s →
      ∀ id t, s.row id = some t → Truthful ((s.timeline id).map TransferEvent.eventType) t := by
  intro hall
  have hend : (frontEnd [(.createTransfer (overridden "fast"), calls 7 14)]).any fun out =>
      out.2.stateOf 7 = some .failed ∧
      (out.2.timeline 7).map TransferEvent.eventType = [.created, .validated] := by decide +kernel
  obtain ⟨⟨h, s⟩, hruns, hout⟩ := (Option.any_eq_true _ _).mp hend
  obtain ⟨hstate, htimeline⟩ := of_decide_eq_true hout
  obtain ⟨t, ht, hfailed⟩ := Option.map_eq_some_iff.mp hstate
  obtain ⟨steps, -, hrun⟩ := Prog.SeqRun.init.of_evalAll hruns
  have hended := (hall steps h s hrun 7 t ht).ended
  rw [htimeline, hfailed] at hended
  cases hended

end Katapult
