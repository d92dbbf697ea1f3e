/-
  Katapult.Http.FrontEnds

  The two front ends for a creation request: the REST handler and the gRPC method.

  Both require the four names.  The REST handler also objects to equal endpoints,
  an unknown strategy and a retry limit below one, which the gRPC method leaves to
  the orchestrator; and it reports every error of the orchestrator as its own,
  where the gRPC method tells a refusal by its text (`sameFrontEnds_iff`).
-/

import Katapult.Grpc.Transfers
import Katapult.Http.Handlers

namespace Katapult

open Effect

/-! ## Requests -/

/-- A creation request, as either front end can be sent it. -/
structure CreationRequest where
  sourceCluster : String
  sourcePVC : String
  destinationCluster : String
  destinationPVC : String
  strategy : Option String := none
  allowOverwrite : Bool := false
  retryMax : Option Int32 := none

namespace CreationRequest

/-- The JSON body. -/
def input (q : CreationRequest) : CreateTransferInput where
  sourceCluster := q.sourceCluster
  sourcePVC := q.sourcePVC
  destinationCluster := q.destinationCluster
  destinationPVC := q.destinationPVC
  strategy := q.strategy
  allowOverwrite := q.allowOverwrite
  retryMax := q.retryMax.map Int32.toInt

/-- The gRPC message. -/
def message (q : CreationRequest) (createdBy : String) : Pb.CreateTransferRequest where
  sourceCluster := q.sourceCluster
  sourcePvc := q.sourcePVC
  destinationCluster := q.destinationCluster
  destinationPvc := q.destinationPVC
  strategyOverride := q.strategy
  allowOverwrite := q.allowOverwrite
  retryMax := q.retryMax
  createdBy := createdBy

/-- The orchestrator's request. -/
def createReq (q : CreationRequest) (createdBy : String) : CreateTransferRequest where
  sourceCluster := q.sourceCluster
  sourcePVC := q.sourcePVC
  destinationCluster := q.destinationCluster
  destinationPVC := q.destinationPVC
  strategyOverride := q.strategy
  allowOverwrite := q.allowOverwrite
  retryMax := q.retryMax.map Int32.toInt
  createdBy := createdBy

/-- A name is missing. -/
def Unnamed (q : CreationRequest) : Prop :=
  q.sourceCluster = "" ∨ q.sourcePVC = "" ∨ q.destinationCluster = "" ∨ q.destinationPVC = ""

/-- What the REST handler objects to besides. -/
def Objectionable (q : CreationRequest) : Prop :=
  (q.sourceCluster = q.destinationCluster ∧ q.sourcePVC = q.destinationPVC) ∨
    (∃ strategy, q.strategy = some strategy ∧
      ¬ (strategy = "stream" ∨ strategy = "s3" ∨ strategy = "direct")) ∨
    ∃ retryMax, q.retryMax = some retryMax ∧ retryMax.toInt < 1

theorem missing_eq_none_iff (q : CreationRequest) (createdBy : String) :
    (q.message createdBy).missing = none ↔ ¬ q.Unnamed := by
  simp [Pb.CreateTransferRequest.missing, Pb.CreateTransferRequest.required, message, Unnamed]

theorem validate_eq_nil_iff (q : CreationRequest) :
    validateCreateTransferInput q.input = [] ↔ ¬ q.Unnamed ∧ ¬ q.Objectionable := by
  have hmissing : ((q.input.required.filter fun field => field.1 = "").map Prod.snd = []) ↔
      ¬ q.Unnamed := by
    simp [CreateTransferInput.required, input, Unnamed, List.filter_eq_nil_iff]
  simp only [validateCreateTransferInput, List.append_eq_nil_iff, hmissing, and_assoc]
  refine and_congr_right fun hnamed => ?_
  simp only [Unnamed, not_or] at hnamed
  obtain ⟨hsc, hsp, hdc, hdp⟩ := hnamed
  simp only [input, Objectionable, not_or]
  refine and_congr ?_ (and_congr ?_ ?_)
  · simp [hsc, hsp, hdc, hdp]
  · cases hstrategy : q.strategy with
    | none => simp
    | some strategy => simp
  · cases hretry : q.retryMax with
    | none => simp
    | some retryMax => simp

end CreationRequest

/-! ## The front ends -/

section

variable [UUIDText] (o : Orchestrator)

/-- The transfer service; `others` are the methods that do not create. -/
def Orchestrator.transferService (others : (call : ApiCall) → Engine call.Ans) :
    (call : ApiCall) → Engine call.Ans
  | .createTransfer req => o.createTransfer req
  | call => others call

namespace CreationRequest

/-- The request, sent to the REST handler; `r` is what comes with the body. -/
def rest (q : CreationRequest) (others : (call : ApiCall) → Engine call.Ans) (r : HttpRequest) :
    Engine Reply :=
  (handleCreateTransfer { r with body := some q.input }).through (o.transferService others)

/-- The request, sent to the gRPC method. -/
def grpc (q : CreationRequest) (createdBy : String) :
    Engine (Except Status Pb.CreateTransferResponse) :=
  AgentServer.createTransfer (some o) (q.message createdBy)

end CreationRequest

end

/-- How the two report a request that is not valid. -/
def Reply.Invalid (reply : Reply) : Prop := reply.status = 400

def InvalidArgument {α : Type} (answer : Except Status α) : Prop :=
  ∃ message, answer = .error ⟨.invalidArgument, message⟩

/-- An error that is the client's. -/
def Reply.ClientError (reply : Reply) : Prop := 400 ≤ reply.status ∧ reply.status < 500

def ClientStatus {α : Type} (answer : Except Status α) : Prop :=
  ∃ status, answer = .error status ∧ status.code ≠ .internal ∧ status.code ≠ .unimplemented

/-- A complete run, whatever its environment answers. -/
abbrev RunsTo {α : Type} (p : Engine α) (s : Store) (h : List CallEv) (a : α) (s' : Store) : Prop :=
  Prog.Exec exec (fun _ _ _ => True) p s h a s'

/-- Every run ends with such an answer, and no record has been inserted. -/
def RejectsAsInvalid {α : Type} (invalid : α → Prop) (p : Engine α) : Prop :=
  ∀ s h a s', RunsTo p s h a s' → invalid a ∧ ∀ ev ∈ h, ∀ t, ev.1 ≠ .repo (.createTransfer t)

/-- The call of the orchestrator, and what is made of its answer. -/
def Delegates [UUIDText] (o : Orchestrator) (req : CreateTransferRequest) {α : Type} (p : Engine α) :
    Prop :=
  ∃ report, p = o.createTransfer req >>= report

/-- The orchestrator's validation of a request. -/
def CreationRequest.validation [UUIDText] (q : CreationRequest) (transferID : UUID) : ValidateRequest where
  transferID := transferID.text
  sourceCluster := q.sourceCluster
  sourcePVC := q.sourcePVC
  destinationCluster := q.destinationCluster
  destinationPVC := q.destinationPVC
  allowOverwrite := q.allowOverwrite

/-- The stored state has become `validating`. -/
def CallEv.Validating (ev : CallEv) : Prop :=
  ∃ id, ev = ⟨.repo (.updateTransferState id .validating), .ok ()⟩

/-- In this history the orchestrator has come to the validation, and that has ended
    with an error. -/
def ValidationRefused [UUIDText] (q : CreationRequest) (h : List CallEv) : Prop :=
  ∃ id before during after err, h = before ++
      ⟨.repo (.updateTransferState id .validating), .ok ()⟩ :: (during ++ after) ∧
    Prog.Residual (validateTransferRequest (q.validation id)) during (.pure (.error err))

/-- Whatever refuses it, a request refused by the validation is the client's error. -/
def ReportsRefusals [UUIDText] (q : CreationRequest) {α : Type} (clientError : α → Prop)
    (p : Engine α) : Prop :=
  ∀ s h a s', RunsTo p s h a s' → ValidationRefused q h → clientError a

section

variable [UUIDText] (o : Orchestrator)

/-! ## One creation -/

/-- Calls that do not begin a validation. -/
def Call.Unvalidating : Call → Prop
  | .repo (.updateTransferState _ state) => state ≠ .validating
  | _ => True

omit [UUIDText] in
theorem Call.Unvalidating.event {ev : CallEv} (h : ev.1.Unvalidating) : ¬ ev.Validating := by
  rintro ⟨id, rfl⟩
  exact h rfl

omit [UUIDText] in
theorem unvalidating_createEvent (transferID : UUID) (eventType : EventType) (message : String)
    (metadata : Option (List (String × String))) :
    (createEvent transferID eventType message metadata).All Call.Unvalidating :=
  ⟨trivial, fun _ => ⟨trivial, fun _ => ⟨trivial, fun _ => trivial⟩⟩⟩

omit [UUIDText] in
theorem unvalidating_failTransfer (transferID : UUID) (errorMessage eventMessage : String) :
    (failTransfer transferID errorMessage eventMessage).All Call.Unvalidating :=
  ⟨trivial, fun _ => unvalidating_createEvent _ _ _ _⟩

theorem unvalidating_commandAgents (req : CreateTransferRequest) (transferID : UUID) :
    (Orchestrator.commandAgents req transferID).All Call.Unvalidating := by
  refine ⟨trivial, fun source => ?_⟩
  rcases source with err | _
  · exact (unvalidating_failTransfer _ _ _).bind fun _ => trivial
  refine ⟨trivial, fun destination => ?_⟩
  rcases destination with err | _
  · exact (unvalidating_failTransfer _ _ _).bind fun _ => trivial
  · trivial

theorem unvalidating_startTransfer (req : CreateTransferRequest) (transfer : Transfer) :
    (o.startTransfer req transfer).All Call.Unvalidating := by
  unfold Orchestrator.startTransfer
  split
  · exact ⟨trivial, fun _ => trivial⟩
  refine ⟨trivial, fun strategy => ?_⟩
  rcases strategy with err | _
  · trivial
  dsimp only
  split
  · trivial
  refine ⟨nofun, fun written => ?_⟩
  rcases written with err | _
  · trivial
  refine ⟨trivial, fun started => ?_⟩
  rcases started with err | _
  · trivial
  exact (unvalidating_createEvent _ _ _ _).bind fun _ => unvalidating_commandAgents req _

omit [UUIDText] in
theorem unvalidating_validateTransferRequest (req : ValidateRequest) :
    (validateTransferRequest req).All Call.Unvalidating := by
  refine (all_validateTransferRequest req).mono fun op hop => ?_
  cases op with
  | repo call => exact absurd hop id
  | _ => trivial

omit [UUIDText] in
/-- A history in which one event is of a kind is cut there in one way. -/
theorem eq_of_append_cons {α : Type} {P : α → Prop} {before before' after after' : List α} {e e' : α}
    (h : before ++ e :: after = before' ++ e' :: after') (he : P e)
    (hbefore' : ∀ x ∈ before', ¬ P x) (hafter' : ∀ x ∈ after', ¬ P x) :
    before = before' ∧ e = e' ∧ after = after' := by
  rcases List.append_eq_append_iff.mp h with ⟨between, rfl, htail⟩ | ⟨between, rfl, htail⟩
  · cases between with
    | nil =>
      obtain ⟨rfl, rfl⟩ := List.cons_eq_cons.mp htail
      exact ⟨(List.append_nil _).symm, rfl, rfl⟩
    | cons x between =>
      obtain ⟨rfl, -⟩ := List.cons_eq_cons.mp htail
      exact absurd he (hbefore' e (by simp))
  · cases between with
    | nil =>
      obtain ⟨rfl, rfl⟩ := List.cons_eq_cons.mp htail
      exact ⟨List.append_nil _, rfl, rfl⟩
    | cons x between =>
      obtain ⟨-, rfl⟩ := List.cons_eq_cons.mp htail
      exact absurd he (hafter' e (by simp))

/-- A creation comes to no validation, or to one, and reports what it finds. -/
theorem validation_of_run {q : CreationRequest} {createdBy : String} {s s' : Store} {h : List CallEv}
    {a : Except Err CreateTransferResponse}
    (hrun : RunsTo (o.createTransfer (q.createReq createdBy)) s h a s') :
    (∀ ev ∈ h, ¬ CallEv.Validating ev) ∨
    ∃ id before during after valid, h = before ++
        ⟨.repo (.updateTransferState id .validating), .ok ()⟩ :: (during ++ after) ∧
      (∀ ev ∈ before, ¬ CallEv.Validating ev) ∧ (∀ ev ∈ during ++ after, ¬ CallEv.Validating ev) ∧
      Prog.Residual (validateTransferRequest (q.validation id)) during (.pure valid) ∧
      ∀ err, valid = .error err → a = .error ("validation failed: " ++ err) := by
  have hclear : ∀ {α : Type} {p : Engine α} {s₁ s₂ : Store} {h' : List CallEv} {b : α},
      p.All Call.Unvalidating → RunsTo p s₁ h' b s₂ → ∀ ev ∈ h', ¬ CallEv.Validating ev :=
    fun hall hp ev hev => Call.Unvalidating.event (Prog.Exec.all hall hp ev hev)
  -- the record, and its first event
  obtain ⟨h₁, _, id, s₁, rfl, hid, hafterID⟩ := hrun.of_bind
  obtain ⟨h₂, _, now, s₂, rfl, hnow, hafterNow⟩ := hafterID.of_bind
  obtain ⟨h₃, _, inserted, s₃, rfl, hins, hafterInsert⟩ := hafterNow.of_bind
  have hclear₁ := hclear (p := Engine.newUUID) ⟨trivial, fun _ => trivial⟩ hid
  have hclear₂ := hclear (p := Engine.timeNow) ⟨trivial, fun _ => trivial⟩ hnow
  have hclear₃ := hclear (p := Engine.createTransfer _) ⟨trivial, fun _ => trivial⟩ hins
  have hopened : ∀ {tail : List CallEv}, (∀ ev ∈ tail, ¬ CallEv.Validating ev) →
      ∀ ev ∈ h₁ ++ (h₂ ++ (h₃ ++ tail)), ¬ CallEv.Validating ev := by
    intro tail htail
    simp only [List.forall_mem_append]
    exact ⟨hclear₁, hclear₂, hclear₃, htail⟩
  rcases inserted with err | _
  · cases hafterInsert
    exact .inl (hopened (by simp))
  obtain ⟨h₄, _, _, s₄, rfl, hcreated, hafterEvent⟩ := hafterInsert.of_bind
  have hclear₄ := hclear (unvalidating_createEvent _ _ _ _) hcreated
  -- a new record may become `validating`
  obtain ⟨h₅, _, written, s₅, rfl, hwritten, hafterWrite⟩ :=
    Prog.Exec.of_bind (p := Engine.updateTransferState id .validating) hafterEvent
  obtain rfl : h₅ = [⟨.repo (.updateTransferState id .validating), written⟩] := hwritten.of_perform
  rcases written with err | _
  · cases hafterWrite
    refine .inl (hopened (List.forall_mem_append.mpr ⟨hclear₄, fun ev hev => ?_⟩))
    rw [List.append_nil, List.mem_singleton] at hev
    rintro ⟨id', rfl⟩
    cases hev
  -- the validation, and what follows it
  obtain ⟨during, after, valid, s₆, rfl, hvalid, hafterValid⟩ := hafterWrite.of_bind
  have hclearDuring := hclear (unvalidating_validateTransferRequest _) hvalid
  refine .inr ⟨id, h₁ ++ (h₂ ++ (h₃ ++ h₄)), during, after, valid, by simp, hopened hclear₄, ?_,
    hvalid.residual, ?_⟩
  · rw [List.forall_mem_append]
    refine ⟨hclearDuring, ?_⟩
    rcases valid with err | _
    · exact hclear (Prog.All.bind (unvalidating_failTransfer _ _ _) fun _ => Prog.all_pure _)
        hafterValid
    · exact hclear ((unvalidating_createEvent _ _ _ _).bind fun _ =>
        unvalidating_startTransfer o _ _) hafterValid
  · rintro err rfl
    obtain ⟨h₆, _, _, s₇, rfl, -, hend⟩ := hafterValid.of_bind
    cases hend
    rfl

/-- A refused creation ends with the error of the validation. -/
theorem refused_of_run {q : CreationRequest} {createdBy : String} {s s' : Store} {h : List CallEv}
    {a : Except Err CreateTransferResponse}
    (hrun : RunsTo (o.createTransfer (q.createReq createdBy)) s h a s') (hrefused : ValidationRefused q h) :
    ∃ err, a = .error ("validation failed: " ++ err) := by
  obtain ⟨id', before', during', after', err, hcut, hresidual⟩ := hrefused
  have hevent : CallEv.Validating ⟨.repo (.updateTransferState id' .validating), .ok ()⟩ := ⟨id', rfl⟩
  rcases validation_of_run o hrun with
    hnone | ⟨id, before, during, after, valid, hsplit, hbefore, hrest, hvalid, hreport⟩
  · exact absurd hevent (hnone _ (by rw [hcut]; simp))
  · obtain ⟨-, hsame, htail⟩ := eq_of_append_cons (hcut.symm.trans hsplit) hevent hbefore hrest
    have hid : id' = id := by cases hsame; rfl
    subst hid
    -- both validations have had the same answers
    obtain ⟨-, hend⟩ := hresidual.pure_unique hvalid (htail ▸ List.prefix_append during' after')
      (List.prefix_append during after)
    exact ⟨err, hreport err hend.symm⟩

/-- Any creation that does not stay in one place can be refused: there is no such
    source. -/
theorem exists_refused_run (q : CreationRequest) (createdBy : String)
    (hends : ¬ (q.sourceCluster = q.destinationCluster ∧ q.sourcePVC = q.destinationPVC)) :
    ∃ h a s', RunsTo (o.createTransfer (q.createReq createdBy)) .empty h a s' ∧
      ValidationRefused q h := by
  have hany : ∀ {α : Type} (p : Engine α) (s : Store), ∃ h a s', RunsTo p s h a s' :=
    Prog.exists_exec fun _ _ => ⟨({} : Env), trivial⟩
  have hvalidate : ∀ s, RunsTo (validateTransferRequest (q.validation 0)) s
      [⟨.findHealthyPVC q.sourceCluster q.sourcePVC, .ok false⟩]
      (.error (pvcNotFound "source" q.sourcePVC q.sourceCluster)) s := by
    intro s
    unfold validateTransferRequest
    have hends' : ¬ ((q.validation 0).sourceCluster = (q.validation 0).destinationCluster ∧
      (q.validation 0).sourcePVC = (q.validation 0).destinationPVC) := hends
    rw [if_neg hends']
    exact .call (c := ({ flag := false } : Env)) trivial (.pure _ _)
  let transfer := o.newTransfer (q.createReq createdBy) 0 0
  let s₁ : Store := (exec ({} : Env) (.repo (.createTransfer transfer)) .empty).2
  obtain ⟨h₁, _, s₂, hcreated⟩ := hany (createEvent 0 .created "Transfer created" none) s₁
  let s₃ : Store := (exec ({} : Env) (.repo (.updateTransferState 0 .validating)) s₂).2
  let err := pvcNotFound "source" q.sourcePVC q.sourceCluster
  let report : Engine (Except Err CreateTransferResponse) := do
    failTransfer 0 err ("Validation failed: " ++ err)
    return .error ("validation failed: " ++ err)
  obtain ⟨h₂, a, s₄, hreport⟩ := hany report s₃
  have hins : RunsTo (Engine.createTransfer transfer) .empty
      [⟨.repo (.createTransfer transfer), .ok ()⟩] (.ok ()) s₁ := Prog.Exec.perform ({} : Env) trivial
  have hwritten : RunsTo (Engine.updateTransferState 0 .validating) s₂
      [⟨.repo (.updateTransferState 0 .validating), .ok ()⟩] (.ok ()) s₃ :=
    Prog.Exec.perform ({} : Env) trivial
  have hadmit : RunsTo (o.admitTransfer (q.createReq createdBy) transfer) .empty _ a s₄ :=
    Prog.Exec.bind hins (Prog.Exec.bind hcreated
      (Prog.Exec.bind hwritten (Prog.Exec.bind (hvalidate s₃) hreport)))
  have hcreate : RunsTo (o.createTransfer (q.createReq createdBy)) .empty _ a s₄ :=
    Prog.Exec.bind (Prog.Exec.perform ({} : Env) trivial)
      (Prog.Exec.bind (Prog.Exec.perform ({} : Env) trivial) hadmit)
  refine ⟨_, a, s₄, hcreate, 0,
    [⟨.newUUID, (0 : UUID)⟩, ⟨.timeNow, (0 : Time)⟩, ⟨.repo (.createTransfer transfer), .ok ()⟩] ++ h₁,
    _, h₂, err, ?_, (hvalidate .empty).residual⟩
  rw [List.append_assoc]
  rfl

/-! ## What the front ends make of it -/

/-- The reply to a creation. -/
def CreationRequest.restReply (q : CreationRequest) : Except Err CreateTransferResponse → Reply
  | .error err => writeErrorJSON 500 "create_failed" err
  | .ok resp => ⟨201, .created resp.transferID resp.state (q.sourceCluster, q.sourcePVC)
      (q.destinationCluster, q.destinationPVC)⟩

/-- The status of a creation. -/
def grpcStatus : Except Err CreateTransferResponse → Except Status Pb.CreateTransferResponse
  | .error err =>
    if contains err "validation failed" then .error ⟨.invalidArgument, err⟩
    else .error ⟨.internal, "creating transfer: " ++ err⟩
  | .ok resp => .ok { transferId := resp.transferID.text, state := resp.state.text }

variable (q : CreationRequest) (others : (call : ApiCall) → Engine call.Ans) (r : HttpRequest)
variable (createdBy : String)

/-- The REST handler answers an invalid request by itself, and hands on the others. -/
theorem rest_cases :
    (q.Unnamed ∨ q.Objectionable) ∧ (∃ errs, q.rest o others r = .pure ⟨400, .validationErrors errs⟩) ∨
    (¬ q.Unnamed ∧ ¬ q.Objectionable) ∧ q.rest o others r =
      o.createTransfer (q.createReq ((r.user.map UserInfo.subject).getD "")) >>= fun answer =>
        .pure (q.restReply answer) := by
  cases hvalidate : validateCreateTransferInput q.input with
  | nil =>
    refine .inr ⟨q.validate_eq_nil_iff.mp hvalidate, ?_⟩
    unfold CreationRequest.rest handleCreateTransfer
    dsimp only
    rw [hvalidate]
    show (o.createTransfer _ >>= fun answer => _) = _
    congr 1
    funext answer
    rcases answer with err | resp
    · rfl
    · rfl
  | cons err errs =>
    have hrest : q.rest o others r = .pure ⟨400, .validationErrors (err :: errs)⟩ := by
      unfold CreationRequest.rest handleCreateTransfer
      dsimp only
      rw [hvalidate]
      rfl
    have hinvalid : ¬ (¬ q.Unnamed ∧ ¬ q.Objectionable) := by
      rw [← q.validate_eq_nil_iff, hvalidate]
      exact List.cons_ne_nil _ _
    rw [not_and_or, not_not, not_not] at hinvalid
    exact .inl ⟨hinvalid, _, hrest⟩

/-- The gRPC method answers a request without a name by itself. -/
theorem grpc_cases :
    q.Unnamed ∧ (∃ message, q.grpc o createdBy = .pure (.error ⟨.invalidArgument, message⟩)) ∨
    ¬ q.Unnamed ∧ q.grpc o createdBy =
      o.createTransfer (q.createReq createdBy) >>= fun answer => .pure (grpcStatus answer) := by
  cases hmissing : (q.message createdBy).missing with
  | none =>
    refine .inr ⟨(q.missing_eq_none_iff createdBy).mp hmissing, ?_⟩
    unfold CreationRequest.grpc AgentServer.createTransfer
    dsimp only
    rw [hmissing]
    show (o.createTransfer _ >>= fun answer => _) = _
    congr 1
    funext answer
    rcases answer with err | resp
    · simp only [grpcStatus]
      split
      · rfl
      · rfl
    · rfl
  | some field =>
    have hunnamed : ¬ ¬ q.Unnamed := by
      rw [← q.missing_eq_none_iff createdBy, hmissing]
      exact Option.some_ne_none _
    refine .inl ⟨not_not.mp hunnamed, field ++ " is required", ?_⟩
    unfold CreationRequest.grpc AgentServer.createTransfer
    dsimp only
    rw [hmissing]
    rfl

omit [UUIDText] in
theorem rejects_of_pure {α : Type} {invalid : α → Prop} {p : Engine α} {a : α} (hp : p = .pure a)
    (ha : invalid a) : RejectsAsInvalid invalid p := by
  intro s h b s' hrun
  rw [hp] at hrun
  cases hrun
  exact ⟨ha, fun ev hev => absurd hev List.not_mem_nil⟩

/-- A request that is handed on is inserted. -/
theorem not_rejects_of_delegates {α : Type} {invalid : α → Prop} {req : CreateTransferRequest}
    {p : Engine α} (hp : Delegates o req p) : ¬ RejectsAsInvalid invalid p := by
  obtain ⟨report, rfl⟩ := hp
  intro hrejects
  have hany : ∃ h a s', RunsTo (o.createTransfer req >>= report) .empty h a s' :=
    Prog.exists_exec (fun _ _ => ⟨({} : Env), trivial⟩) _ _
  obtain ⟨h, a, s', hrun⟩ := hany
  obtain ⟨-, hfree⟩ := hrejects _ _ _ _ hrun
  obtain ⟨h₁, h₂, answer, s₁, rfl, hcreate, -⟩ := hrun.of_bind
  obtain ⟨g₁, _, id, _, rfl, -, hafterID⟩ := hcreate.of_bind
  obtain ⟨g₂, _, now, _, rfl, -, hafterNow⟩ := hafterID.of_bind
  obtain ⟨g₃, _, inserted, _, rfl, hins, -⟩ := hafterNow.of_bind
  obtain rfl : g₃ = [⟨.repo (.createTransfer (o.newTransfer req id now)), inserted⟩] := hins.of_perform
  exact hfree ⟨.repo (.createTransfer (o.newTransfer req id now)), inserted⟩ (by simp) _ rfl

theorem reports_of_pure {α : Type} {clientError : α → Prop} {p : Engine α} {a : α} (hp : p = .pure a) :
    ReportsRefusals q clientError p := by
  rintro s h b s' hrun ⟨id, before, during, after, err, hcut, -⟩
  rw [hp] at hrun
  cases hrun
  simp at hcut

/-- Of a run through the orchestrator, that of the orchestrator is all. -/
theorem run_of_bind_pure {α : Type} {answer : Except Err CreateTransferResponse → α}
    {subject : String} {s s' : Store} {h : List CallEv} {b : α}
    (hrun : RunsTo (o.createTransfer (q.createReq subject) >>= fun a => .pure (answer a)) s h b s') :
    ∃ a, b = answer a ∧ RunsTo (o.createTransfer (q.createReq subject)) s h a s' := by
  obtain ⟨h₁, h₂, a, s₁, rfl, hcreate, hend⟩ := hrun.of_bind
  cases hend
  rw [List.append_nil]
  exact ⟨a, rfl, hcreate⟩

/-! ## The two together -/

/-- The front ends accept the same requests: they reject the same ones, hand on the
    others alike, and report those that the validation refuses as the client's errors. -/
structure SameFrontEnds : Prop where
  rejects : RejectsAsInvalid Reply.Invalid (q.rest o others r) ↔
    RejectsAsInvalid InvalidArgument (q.grpc o createdBy)
  delegates : ¬ RejectsAsInvalid Reply.Invalid (q.rest o others r) →
    ¬ RejectsAsInvalid InvalidArgument (q.grpc o createdBy) →
    ∃ subject, Delegates o (q.createReq subject) (q.rest o others r) ∧
      Delegates o (q.createReq createdBy) (q.grpc o createdBy)
  reports : ReportsRefusals q Reply.ClientError (q.rest o others r) ∧
    ReportsRefusals q ClientStatus (q.grpc o createdBy)

theorem rest_rejects_iff :
    RejectsAsInvalid Reply.Invalid (q.rest o others r) ↔ q.Unnamed ∨ q.Objectionable := by
  rcases rest_cases o q others r with ⟨hinvalid, errs, hrest⟩ | ⟨⟨hnamed, hfine⟩, hrest⟩
  · exact iff_of_true (rejects_of_pure hrest rfl) hinvalid
  · exact iff_of_false (not_rejects_of_delegates o ⟨_, hrest⟩) (not_or.mpr ⟨hnamed, hfine⟩)

theorem grpc_rejects_iff : RejectsAsInvalid InvalidArgument (q.grpc o createdBy) ↔ q.Unnamed := by
  rcases grpc_cases o q createdBy with ⟨hunnamed, message, hgrpc⟩ | ⟨hnamed, hgrpc⟩
  · exact iff_of_true (rejects_of_pure hgrpc ⟨message, rfl⟩) hunnamed
  · exact iff_of_false (not_rejects_of_delegates o ⟨_, hgrpc⟩) hnamed

theorem delegates_alike (hrest : ¬ RejectsAsInvalid Reply.Invalid (q.rest o others r))
    (hgrpc : ¬ RejectsAsInvalid InvalidArgument (q.grpc o createdBy)) :
    ∃ subject, Delegates o (q.createReq subject) (q.rest o others r) ∧
      Delegates o (q.createReq createdBy) (q.grpc o createdBy) := by
  rw [rest_rejects_iff] at hrest
  rw [grpc_rejects_iff] at hgrpc
  rcases rest_cases o q others r with ⟨hinvalid, -⟩ | ⟨-, hrest'⟩
  · exact absurd hinvalid hrest
  rcases grpc_cases o q createdBy with ⟨hunnamed, -⟩ | ⟨-, hgrpc'⟩
  · exact absurd hunnamed hgrpc
  · exact ⟨_, ⟨_, hrest'⟩, ⟨_, hgrpc'⟩⟩

/-- The REST handler reports every error of the orchestrator as its own. -/
theorem rest_reports_iff :
    ReportsRefusals q Reply.ClientError (q.rest o others r) ↔ q.Unnamed ∨ q.Objectionable := by
  rcases rest_cases o q others r with ⟨hinvalid, errs, hrest⟩ | ⟨⟨hnamed, hfine⟩, hrest⟩
  · exact iff_of_true (reports_of_pure q hrest) hinvalid
  · refine iff_of_false (fun hreports => ?_) (not_or.mpr ⟨hnamed, hfine⟩)
    obtain ⟨h, a, s', hrun, hrefused⟩ := exists_refused_run o q
      ((r.user.map UserInfo.subject).getD "") fun hends => hfine (.inl hends)
    obtain ⟨err, rfl⟩ := refused_of_run o hrun hrefused
    have hreply : RunsTo (q.rest o others r) .empty (h ++ [])
        (q.restReply (.error ("validation failed: " ++ err))) s' := by
      rw [hrest]
      exact Prog.Exec.bind hrun (.pure _ s')
    rw [List.append_nil] at hreply
    have hclient : (500 : Nat) < 500 := (hreports _ _ _ _ hreply hrefused).2
    exact absurd hclient (by decide)

/-- The gRPC method finds them by their text. -/
theorem grpc_reports : ReportsRefusals q ClientStatus (q.grpc o createdBy) := by
  rcases grpc_cases o q createdBy with ⟨-, message, hgrpc⟩ | ⟨-, hgrpc⟩
  · exact reports_of_pure q hgrpc
  · intro s h b s' hrun hrefused
    rw [hgrpc] at hrun
    obtain ⟨a, rfl, hcreate⟩ := run_of_bind_pure o q hrun
    obtain ⟨err, rfl⟩ := refused_of_run o hcreate hrefused
    have htext : contains ("validation failed: " ++ err) "validation failed" = true := by
      rw [contains, String.toList_append, decide_eq_true_eq]
      exact ((List.prefix_append "validation failed".toList ": ".toList).trans
        (List.prefix_append _ err.toList)).isInfix
    have hcode : Code.invalidArgument ≠ .internal ∧ Code.invalidArgument ≠ .unimplemented := by decide
    refine ⟨⟨.invalidArgument, "validation failed: " ++ err⟩, ?_, hcode⟩
    simp only [grpcStatus]
    rw [if_pos htext]

theorem rejects_alike_iff :
    (RejectsAsInvalid Reply.Invalid (q.rest o others r) ↔
      RejectsAsInvalid InvalidArgument (q.grpc o createdBy)) ↔ q.Unnamed ∨ ¬ q.Objectionable := by
  rw [rest_rejects_iff, grpc_rejects_iff, or_iff_left_iff_imp, imp_iff_not_or, or_comm]

/-- REST reports as its own failure what it hands on and the orchestrator refuses. -/
theorem SameFrontEnds.unnamed (h : SameFrontEnds o q others r createdBy) : q.Unnamed := by
  rcases (rejects_alike_iff o q others r createdBy).mp h.rejects with hunnamed | hfine
  · exact hunnamed
  · exact ((rest_reports_iff o q others r).mp h.reports.1).resolve_right hfine

/-- Every request: the front ends agree on it exactly if it lacks a name.  They
    reject alike what lacks one and what is not objectionable, always hand on alike,
    and report alike what REST does not hand on. -/
theorem sameFrontEnds_iff :
    (SameFrontEnds o q others r createdBy ↔ q.Unnamed) ∧
    ((RejectsAsInvalid Reply.Invalid (q.rest o others r) ↔
        RejectsAsInvalid InvalidArgument (q.grpc o createdBy)) ↔ q.Unnamed ∨ ¬ q.Objectionable) ∧
    (ReportsRefusals q Reply.ClientError (q.rest o others r) ↔ q.Unnamed ∨ q.Objectionable) ∧
    ReportsRefusals q ClientStatus (q.grpc o createdBy) := by
  have hrejects := rejects_alike_iff o q others r createdBy
  have hreports := rest_reports_iff o q others r
  refine ⟨⟨SameFrontEnds.unnamed o q others r createdBy, fun hunnamed => ?_⟩, hrejects, hreports,
    grpc_reports o q createdBy⟩
  exact ⟨hrejects.mpr (.inl hunnamed), delegates_alike o q others r createdBy,
    hreports.mpr (.inl hunnamed), grpc_reports o q createdBy⟩

end

/-- From a PVC to itself. -/
def samePlace : CreationRequest where
  sourceCluster := "east"
  sourcePVC := "apps/data"
  destinationCluster := "east"
  destinationPVC := "apps/data"

/-- The REST handler rejects it, and the gRPC method inserts it. -/
theorem not_sameFrontEnds_samePlace :
    ¬ ∀ (o : Orchestrator) (q : CreationRequest) (others : (call : ApiCall) → Engine call.Ans)
      (r : HttpRequest) (createdBy : String), @SameFrontEnds canonicalText o q others r createdBy := by
  intro hall
  have hsame := hall plainOrchestrator samePlace (fun call => .pure (call.failed ""))
    { target := ⟨"POST", [], true⟩ } ""
  have hunnamed : samePlace.Unnamed := @SameFrontEnds.unnamed canonicalText _ _ _ _ _ hsame
  revert hunnamed
  unfold CreationRequest.Unnamed
  decide

end Katapult
