/-
  Katapult.Cmd.ControlPlane

  The control plane as its `main` puts it together.

  The REST API gets an orchestrator whose agents, credentials, objects and PVC
  lookups are the no-op adapters; the gRPC server gets none.  Linked with the
  adapters, a creation passes its validation and is started, and neither it nor a
  cancellation makes a call that would move anything (`Call.Idle`).
-/

import Katapult.Grpc.Transfers
import Katapult.Http.Server
import Katapult.Http.Stream

namespace Katapult

open Effect

/-! ## The adapters -/

/-- The no-op adapters; every other interface is used as it is. -/
def noop : (call : Call) → Engine call.Ans
  -- PVCs are assumed to exist and to be empty
  | .findHealthyPVC _ _ => .pure (.ok true)
  | .isPVCEmpty _ _ => .pure (.ok true)
  | .sendTransferCommand _ _ => .pure (.ok ())
  | .sendCancelCommand _ _ => .pure (.ok ())
  | .revokeCredentials _ => .pure (.ok ())
  | .deleteTransferObjects _ => .pure (.ok ())
  | call => .perform call

/-! ## The servers -/

/-- The two servers: the REST API with its orchestrator, and the gRPC server with
    the one it may have been given. -/
structure ControlPlane where
  http : HttpServer
  tokens : StaticTokenValidator
  orchestrator : Orchestrator
  agentOrchestrator : Option Orchestrator

/-- The servers that `run` starts, with the entries of the API tokens file and the
    directory of the web UI. -/
def ControlPlane.run (apiTokens : Option (List TokenFileEntry)) (webStaticDir : String) :
    ControlPlane where
  http := { progressHub := true, metricsHandler := true, staticDir := webStaticDir }
  tokens := loadTokenValidator apiTokens
  orchestrator :=
    { s3Config := ⟨false⟩, config := defaultTransferConfig, progressHub := true, metrics := true }
  agentOrchestrator := none

/-- What the servers ask for: list queries and the registry, on the left, and what
    streams and orchestrators ask for. -/
abbrev PlaneCall : Type := ApiCall ⊕ ServerCall
abbrev PlaneCall.Ans : PlaneCall → Type := Sum.elim ApiCall.Ans ServerCall.Ans

/-- Code of the control plane. -/
abbrev Plane (α : Type) : Type := Prog PlaneCall PlaneCall.Ans α

/-- What the world around a step decides; lists and the registry are outside. -/
structure PlaneEnv where
  server : ServerEnv := {}
  answer : (call : ApiCall) → call.Ans := ApiCall.failed "unavailable"

def execPlane : Machine PlaneCall PlaneCall.Ans Backend PlaneEnv
  | c, .inl call, b => (c.answer call, b)
  | c, .inr op, b => execServer c.server op b

/-- A request at one of the two ports, behind the interceptor. -/
inductive Inbound where
  | http (rounds : Nat) (r : HttpRequest)
  | createTransfer (req : Pb.CreateTransferRequest)
  | cancelTransfer (transferId : String)
  | reportProgress (req : Pb.ReportProgressRequest)

/-- A reply of the REST API, or the status that a gRPC method ends with. -/
inductive Outbound where
  | http (reply : Reply)
  | grpc (refused : Option Status)
  /-- A handler panics, and the server goes down with it. -/
  | down

/-- A request to the gRPC server. -/
def Inbound.isGrpc : Inbound → Bool
  | .http .. => false
  | .createTransfer _ | .cancelTransfer _ | .reportProgress _ => true

def Outbound.ofGrpc {α : Type} : Except Status α → Outbound
  | .error status => .grpc (some status)
  | .ok _ => .grpc none

def Outbound.ofAttempt {α : Type} : Channel.Attempt (Except Status α) → Outbound
  | .done result => .ofGrpc result
  | _ => .down

/-- How the gRPC server answers without an orchestrator. -/
def Outbound.unserved : Outbound := .grpc (some ⟨.unimplemented, "transfer engine not configured"⟩)

/-- A program of the engine, linked with its adapters. -/
def Engine.linked {α : Type} (p : Engine α) : Plane α := ((p.through noop).inr : Prog ServerCall ServerCall.Ans α).inr

namespace ControlPlane

variable [UUIDText]

/-- The services behind the REST API. -/
def service (plane : ControlPlane) : (call : HttpCall) → Plane (HttpCall.Ans call)
  | .inl call => .perform (Sum.inr (Sum.inl call) : PlaneCall)
  | .inr (.createTransfer req) => (plane.orchestrator.createTransfer req).linked
  | .inr (.cancelTransfer id) => (plane.orchestrator.cancelTransfer id).linked
  | .inr (.getTransfer id) => (Orchestrator.getTransfer id).linked
  | .inr call => .perform (Sum.inl call : PlaneCall)

/-- A request of gRPC is one that the interceptor with the JWT validator has let through. -/
def serve (plane : ControlPlane) : Inbound → Plane Outbound
  | .http rounds r => do
    return .http (← (plane.http.handle rounds plane.tokens r).through plane.service)
  | .createTransfer req => do
    return .ofGrpc (← (AgentServer.createTransfer plane.agentOrchestrator req).linked)
  | .cancelTransfer transferId => do
    return .ofGrpc (← (AgentServer.cancelTransfer plane.agentOrchestrator transferId).linked)
  | .reportProgress req => do
    return .ofAttempt (← (AgentServer.reportProgress plane.agentOrchestrator req).linked)

end ControlPlane

/-! ## Nothing moves -/

/-- Nothing has been moved: no byte and no chunk, no retry, and no end but a
    cancellation. -/
structure Transfer.Idle (t : Transfer) : Prop where
  state : t.state ≠ .completed ∧ t.state ≠ .failed
  bytes : t.bytesTransferred = 0 ∧ t.bytesTotal = 0
  chunks : t.chunksCompleted = 0 ∧ t.chunksTotal = 0
  retries : t.retryCount = 0
  message : t.errorMessage = ""

/-- An event of a transfer on which nothing has been moved. -/
def EventType.Idle (eventType : EventType) : Prop :=
  eventType = .created ∨ eventType = .validated ∨ eventType = .started ∨ eventType = .cancelled

structure Store.Idle (s : Store) : Prop where
  rows : ∀ id t, s.row id = some t → t.Idle
  events : ∀ e ∈ s.events.rows, e.eventType.Idle

/-- Calls of the engine that move nothing, and tell nobody. -/
def Call.Idle : Call → Prop
  | .repo (.createTransfer t) => t.Idle
  | .repo (.updateTransferState _ state) => state ≠ .completed ∧ state ≠ .failed
  | .repo (.createTransferEvent e) => e.eventType.Idle
  | .repo (.updateTransferProgress ..) | .repo (.updateTransferFailed ..)
  | .repo (.incrementRetryCount _) | .publish .. => False
  | _ => True

/-- A row that such a call has changed. -/
theorem RepoCall.idle_onRow {call : RepoCall} (hcall : (Call.repo call).Idle) {r : Option Transfer}
    (hr : ∀ t ∈ r, t.Idle) (env : Env) (id : UUID) : ∀ t ∈ call.onRow env id r, t.Idle := by
  have hset : ∀ (id' : UUID) (set : Transfer → Transfer), (∀ t, t.Idle → (set t).Idle) →
      ∀ t ∈ (if id = id' then r.map set else r), t.Idle := by
    intro id' set hidle
    split
    · intro t ht
      obtain ⟨t', ht', rfl⟩ := Option.map_eq_some_iff.mp ht
      exact hidle t' (hr t' ht')
    · exact hr
  cases call with
  | createTransfer t =>
    simp only [RepoCall.onRow]
    split
    · rintro _ ⟨⟩
      exact hcall
    · exact hr
  | getTransferByID id' => exact hr
  | createTransferEvent e => exact hr
  | updateTransferState id' state => exact hset id' _ fun t ht => { ht with state := hcall }
  | updateTransferStrategy id' strategy => exact hset id' _ fun t ht => { ht with }
  | updateTransferStarted id' => exact hset id' _ fun t ht => { ht with }
  | updateTransferCompleted id' => exact hset id' _ fun t ht => { ht with }
  | updateTransferProgress id' bytesTransferred bytesTotal chunksCompleted chunksTotal =>
    exact hcall.elim
  | updateTransferFailed id' errorMessage => exact hcall.elim
  | incrementRetryCount id' => exact hcall.elim

/-- One call. -/
theorem Store.Idle.exec {s : Store} (hs : s.Idle) {op : Call} (hop : op.Idle) (env : Env) :
    (exec env op s).2.Idle := by
  refine ⟨fun id t ht => ?_, fun e he => ?_⟩
  · cases op with
    | repo call =>
      have hrow : (execRepo env call s).2.row id = some t := ht
      rw [row_execRepo] at hrow
      split at hrow
      · exact RepoCall.idle_onRow hop (hs.rows id) env id t hrow
      · exact hs.rows id t hrow
    | _ => exact hs.rows id t ht
  · rcases events_exec env op s with hsame | ⟨e', rfl, happ⟩
    · rw [hsame] at he
      exact hs.events e he
    · rw [happ] at he
      rcases List.mem_append.mp he with hold | hnew
      · exact hs.events e hold
      · rw [List.mem_singleton.mp hnew]
        exact hop

/-! ## What the orchestrator does without reports -/

/-- A call that no adapter takes over. -/
theorem idle_perform {α : Type} {op : Call} {f : op.Ans → Engine α} (hnoop : noop op = .perform op)
    (hop : op.Idle) (hf : ∀ r, ((f r).through noop).All Call.Idle) :
    ((Prog.perform op >>= f).through noop).All Call.Idle := by
  refine Prog.All.through_bind ?_ hf
  show (noop op >>= fun r => Prog.pure r).All Call.Idle
  rw [hnoop]
  exact ⟨hop, fun _ => trivial⟩

theorem idle_createEvent (transferID : UUID) {eventType : EventType} (message : String)
    (metadata : Option (List (String × String))) (hevent : eventType.Idle) :
    ((createEvent transferID eventType message metadata).through noop).All Call.Idle :=
  idle_perform rfl trivial fun _ => idle_perform rfl trivial fun _ =>
    idle_perform rfl hevent fun _ => trivial

/-- With the adapters, a request between two different PVCs is valid. -/
theorem through_validateTransferRequest {req : ValidateRequest}
    (hdiffer : ¬ (req.sourceCluster = req.destinationCluster ∧ req.sourcePVC = req.destinationPVC)) :
    (validateTransferRequest req).through noop = .pure (.ok ()) := by
  unfold validateTransferRequest
  rw [if_neg hdiffer]
  rfl

/-- A creation that the REST handler lets through. -/
def CreateTransferRequest.Accepted (req : CreateTransferRequest) : Prop :=
  ¬ (req.sourceCluster = req.destinationCluster ∧ req.sourcePVC = req.destinationPVC) ∧
    ∀ text ∈ req.strategyOverride, text = "stream" ∨ text = "s3" ∨ text = "direct"

/-- With such a strategy, one is selected. -/
theorem CreateTransferRequest.Accepted.selectStrategy {req : CreateTransferRequest}
    (hreq : req.Accepted) (s3Config : S3Config) :
    ∃ strategy, selectStrategy req.sourceCluster req.destinationCluster req.strategyOverride s3Config =
      .ok strategy := by
  rcases Katapult.selectStrategy_cases req.sourceCluster req.destinationCluster req.strategyOverride s3Config with
    ⟨strategy, hstrategy, -⟩ | ⟨err, herr, -⟩
  · exact ⟨strategy, hstrategy⟩
  · cases hoverride : req.strategyOverride with
    | none =>
      simp only [hoverride, Katapult.selectStrategy] at herr
      split at herr
      · cases herr
      split at herr
      · cases herr
      · cases herr
    | some text =>
      have htext := hreq.2 text hoverride
      have hvalid : (⟨text⟩ : TransferStrategy) = .stream ∨ (⟨text⟩ : TransferStrategy) = .s3 ∨
          (⟨text⟩ : TransferStrategy) = .direct := by
        rcases htext with rfl | rfl | rfl
        · exact .inl rfl
        · exact .inr (.inl rfl)
        · exact .inr (.inr rfl)
      exact ⟨_, if_pos hvalid⟩

section

variable [UUIDText]

/-- The adapters do the rest of a cancellation. -/
theorem through_executeCleanup (transfer : Transfer) :
    (executeCleanup transfer).through noop = .pure () := by
  unfold executeCleanup
  show ((if transfer.strategy = .s3 then _ else _ : Engine Unit)).through noop = _
  split
  · rfl
  · rfl

theorem idle_startTransfer (o : Orchestrator) {req : CreateTransferRequest} (hreq : req.Accepted)
    (transfer : Transfer) : ((o.startTransfer req transfer).through noop).All Call.Idle := by
  obtain ⟨strategy, hstrategy⟩ := hreq.selectStrategy o.s3Config
  unfold Orchestrator.startTransfer
  rw [hstrategy]
  refine idle_perform rfl trivial fun written => ?_
  rcases written with err | _
  · trivial
  dsimp only
  cases ({ transfer with strategy } : Transfer).transitionTo .transferring with
  | error err => trivial
  | ok started =>
    refine idle_perform rfl ⟨nofun, nofun⟩ fun written => ?_
    rcases written with err | _
    · trivial
    refine idle_perform rfl trivial fun written => ?_
    rcases written with err | _
    · trivial
    exact (idle_createEvent _ _ _ (.inr (.inr (.inl rfl)))).through_bind fun _ => trivial

theorem idle_admitTransfer (o : Orchestrator) {req : CreateTransferRequest} (hreq : req.Accepted)
    {transfer : Transfer} (htransfer : transfer.Idle) :
    ((o.admitTransfer req transfer).through noop).All Call.Idle := by
  unfold Orchestrator.admitTransfer
  refine idle_perform rfl htransfer fun inserted => ?_
  rcases inserted with err | _
  · trivial
  refine (idle_createEvent _ _ _ (.inl rfl)).through_bind fun _ => ?_
  cases transfer.transitionTo .validating with
  | error err => trivial
  | ok validating =>
    refine idle_perform rfl ⟨nofun, nofun⟩ fun written => ?_
    rcases written with err | _
    · trivial
    dsimp only
    -- the adapters find both PVCs, and the destination empty
    rw [Prog.through_bind, through_validateTransferRequest hreq.1]
    exact (idle_createEvent _ _ _ (.inr (.inl rfl))).through_bind fun _ => idle_startTransfer o hreq _

theorem idle_createTransfer (o : Orchestrator) {req : CreateTransferRequest} (hreq : req.Accepted) :
    ((o.createTransfer req).through noop).All Call.Idle :=
  idle_perform rfl trivial fun _ => idle_perform rfl trivial fun _ => idle_admitTransfer o hreq
    ⟨⟨nofun, nofun⟩, ⟨rfl, rfl⟩, ⟨rfl, rfl⟩, rfl, rfl⟩

omit [UUIDText] in
theorem idle_closeTransfer (o : Orchestrator) (transferID : UUID) :
    ((o.closeTransfer transferID).through noop).All Call.Idle := by
  have hcalls : (o.closeTransfer transferID).All fun op => (noop op).All Call.Idle :=
    Prog.All.ite ⟨⟨trivial, fun _ => trivial⟩, fun _ => trivial⟩ trivial
  exact hcalls.through fun _ hop => hop

omit [UUIDText] in
theorem idle_onTransferStateChange (o : Orchestrator) (fromState toState strategy : String) :
    ((o.onTransferStateChange fromState toState strategy).through noop).All Call.Idle := by
  have hcalls : (o.onTransferStateChange fromState toState strategy).All fun op => (noop op).All Call.Idle :=
    Prog.All.ite ⟨⟨trivial, fun _ => trivial⟩, fun _ => trivial⟩ trivial
  exact hcalls.through fun _ hop => hop

theorem idle_cancelTransfer (o : Orchestrator) (transferID : UUID) :
    ((o.cancelTransfer transferID).through noop).All Call.Idle := by
  unfold Orchestrator.cancelTransfer
  refine idle_perform rfl trivial fun read => ?_
  rcases read with err | (_ | transfer)
  · trivial
  · trivial
  dsimp only
  split
  · trivial
  cases transfer.transitionTo .cancelled with
  | error err => trivial
  | ok cancelled =>
    refine idle_perform rfl trivial fun now => idle_perform rfl ⟨nofun, nofun⟩ fun written => ?_
    rcases written with err | _
    · trivial
    refine idle_perform rfl trivial fun written => ?_
    rcases written with err | _
    · trivial
    refine (idle_createEvent _ _ _ (.inr (.inr (.inr rfl)))).through_bind fun _ => ?_
    refine (idle_closeTransfer o _).through_bind fun _ => ?_
    refine (idle_onTransferStateChange o _ _ _).through_bind fun _ => ?_
    -- the agents are told, and the cleanup is done, by the adapters
    show ((executeCleanup { cancelled with completedAt := some now } >>= fun _ =>
      (.pure (.ok ()) : Engine (Except Err Unit))).through noop).All Call.Idle
    rw [Prog.through_bind, through_executeCleanup]
    trivial

end

end Katapult
