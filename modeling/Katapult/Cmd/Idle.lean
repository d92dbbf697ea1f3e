/-
  Katapult.Cmd.Idle

  What the control plane can do to a transfer.

  No report ever comes in.  So in every interleaving of requests at both ports a
  transfer is under way or cancelled with nothing moved, and a progress stream
  shows its first frame and no other (`idle_of_run`).
-/

import Katapult.Cmd.ControlPlane

namespace Katapult

open Effect Channel

/-! ## What the REST API asks for -/

/-- A creation among the calls of a handler is one that it has let through. -/
def HttpCall.Accepted : HttpCall → Prop
  | .inr (.createTransfer req) => req.Accepted
  | _ => True

/-- What the handler has not objected to. -/
theorem accepted_of_validate {input : CreateTransferInput} (hvalid : validateCreateTransferInput input = [])
    (createdBy : String) : (input.createReq createdBy).Accepted := by
  simp only [validateCreateTransferInput, List.append_eq_nil_iff] at hvalid
  obtain ⟨⟨⟨hmissing, hsame⟩, hstrategy⟩, -⟩ := hvalid
  have hnames : ∀ field ∈ input.required, field.1 ≠ "" := by
    simpa [List.filter_eq_nil_iff] using hmissing
  simp only [CreateTransferInput.required, List.forall_mem_cons] at hnames
  obtain ⟨hsourceCluster, hsourcePVC, hdestinationCluster, hdestinationPVC, -⟩ := hnames
  refine ⟨fun ⟨hclusters, hpvcs⟩ => ?_, fun text htext => ?_⟩
  · rw [if_pos ⟨hsourceCluster, hdestinationCluster, hsourcePVC, hdestinationPVC, hclusters, hpvcs⟩]
      at hsame
    cases hsame
  · have hoverride : input.strategy = some text := htext
    rw [hoverride] at hstrategy
    by_contra hnot
    simp only [if_neg hnot] at hstrategy
    cases hstrategy

theorem accepted_handleCreateTransfer (r : HttpRequest) :
    (handleCreateTransfer r).lift.All HttpCall.Accepted := by
  unfold handleCreateTransfer
  cases r.body with
  | none => trivial
  | some input =>
    dsimp only
    cases hvalid : validateCreateTransferInput input with
    | cons err errs => trivial
    | nil =>
      refine ⟨accepted_of_validate hvalid _, fun answer => ?_⟩
      rcases answer with err | resp
      · trivial
      · trivial

/-- A handler that needs no operator creates nothing. -/
theorem accepted_of_needing {p : Prog HttpCall HttpCall.Ans Reply} (hp : Needing roleViewer p) :
    p.All HttpCall.Accepted := by
  refine hp.mono fun call hcall => ?_
  rcases call with call | call
  · trivial
  cases call with
  | createTransfer req =>
    have hrole : roleOperator = roleViewer := hcall
    exact absurd hrole (by decide)
  | _ => trivial

section

variable [UUIDText]

theorem accepted_handleCancelTransfer (r : HttpRequest) :
    (handleCancelTransfer r).lift.All HttpCall.Accepted := by
  refine Prog.all_inr ?_
  unfold handleCancelTransfer
  cases UUIDText.parse (r.pathValue "id") with
  | error err => trivial
  | ok id =>
    refine Prog.All.perform trivial fun answer => ?_
    rcases answer with err | _
    · dsimp only
      split
      · trivial
      split
      · trivial
      · trivial
    · trivial

theorem accepted_apiRoutes (s : HttpServer) (rounds : Nat) {route : ApiRoute}
    (hroute : route ∈ s.apiRoutes rounds) (r : HttpRequest) :
    (route.handler r).All HttpCall.Accepted := by
  have hneeds := needing_apiRoutes s rounds hroute r
  simp only [HttpServer.apiRoutes, List.mem_cons, List.not_mem_nil, or_false] at hroute
  rcases hroute with rfl | rfl | rfl | rfl | rfl | rfl | rfl | rfl | rfl | rfl
  · exact accepted_handleCreateTransfer r
  · exact accepted_of_needing hneeds
  · exact accepted_of_needing hneeds
  · exact accepted_handleCancelTransfer r
  · exact accepted_of_needing hneeds
  · exact accepted_of_needing hneeds
  · exact accepted_of_needing hneeds
  · exact accepted_of_needing hneeds
  · exact accepted_of_needing hneeds
  · exact accepted_of_needing hneeds

/-- A request is answered at once, or by the handler of a route of the API. -/
theorem HttpServer.handle_cases (s : HttpServer) (rounds : Nat) (v : StaticTokenValidator)
    (r : HttpRequest) :
    (∃ reply, s.handle rounds v r = .pure reply) ∨
      ∃ route ∈ s.apiRoutes rounds, ∃ r', s.handle rounds v r = route.handler r' := by
  unfold HttpServer.handle
  cases hdispatch : Routing.dispatch (s.routes rounds v) r.target with
  | redirect => exact .inl ⟨_, rfl⟩
  | methodNotAllowed => exact .inl ⟨_, rfl⟩
  | notFound => exact .inl ⟨_, rfl⟩
  | found pattern handler =>
    rcases HttpServer.mem_routes_iff.mp (Routing.mem_of_dispatch hdispatch) with
      ⟨route, hroute, hguarded⟩ | hopen
    · cases hguarded
      rcases guarded_cases v route.role route.handler
          { r with pathValues := route.pattern.path.values r.target.path } with
        ⟨user, -, -, hnext⟩ | ⟨reply, hrefused, -⟩ | ⟨reply, hrefused, -⟩
      · exact .inr ⟨route, hroute, _, hnext⟩
      · exact .inl ⟨reply, hrefused⟩
      · exact .inl ⟨reply, hrefused⟩
    · exact .inl (HttpServer.open_pure hopen _)

theorem accepted_handle (s : HttpServer) (rounds : Nat) (v : StaticTokenValidator) (r : HttpRequest) :
    (s.handle rounds v r).All HttpCall.Accepted := by
  rcases s.handle_cases rounds v r with ⟨reply, hreply⟩ | ⟨route, hroute, r', hhandler⟩
  · rw [hreply]
    trivial
  · rw [hhandler]
    exact accepted_apiRoutes s rounds hroute r'

end

/-! ## Frames of a stream -/

/-- The call writes a frame with data. -/
def StreamCall.isFrame : StreamCall → Bool
  | .writeEvent _ => true
  | _ => false

def HttpCall.isFrame : HttpCall → Bool := Sum.elim StreamCall.isFrame fun _ => false

def PlaneCall.isFrame : PlaneCall → Bool :=
  Sum.elim (fun _ => false) (Sum.elim StreamCall.isFrame fun _ => false)

/-- The channel has no event. -/
def StreamCall.Silent : (call : StreamCall) → call.Ans → Prop
  | .select _, event => ∀ progress, event ≠ .progress progress
  | _, _ => True

def HttpCall.Silent : (call : HttpCall) → HttpCall.Ans call → Prop
  | .inl call, answer => call.Silent answer
  | .inr _, _ => True

def PlaneCall.Silent : (call : PlaneCall) → PlaneCall.Ans call → Prop
  | .inr (.inl call), answer => call.Silent answer
  | .inl _, _ | .inr (.inr _), _ => True

/-- The number of frames. -/
def framesAfter {Op : Type} {Ans : Op → Type} (isFrame : Op → Bool) (n : Nat) (ev : Ev Op Ans) : Nat :=
  if isFrame ev.1 then n + 1 else n

/-- No frame is written after the first one. -/
def FirstFrame {Op : Type} (isFrame : Op → Bool) (n : Nat) (op : Op) : Prop :=
  isFrame op = true → n = 0

/-- What has been written under this rule. -/
theorem countP_frames_le {Op : Type} {Ans : Op → Type} {isFrame : Op → Bool} {h : List (Ev Op Ans)}
    {n : Nat} (hpermitted : Permitted (framesAfter isFrame) (FirstFrame isFrame) n h) (hn : n ≤ 1) :
    n + h.countP (fun ev => isFrame ev.1) ≤ 1 := by
  induction h generalizing n with
  | nil => simpa using hn
  | cons ev h ih =>
    obtain ⟨hfirst, hrest⟩ := hpermitted
    rw [framesAfter] at hrest
    rw [List.countP_cons]
    by_cases hframe : isFrame ev.1 = true
    · rw [if_pos hframe, hfirst hframe] at hrest
      have hcount := ih hrest (le_refl 1)
      rw [if_pos hframe, hfirst hframe]
      omega
    · rw [if_neg hframe] at hrest ⊢
      exact ih hrest hn

section

variable {Q : Reply → Nat → Prop} {n : Nat}

/-- The loop writes nothing but comments while its channel has no event. -/
theorem awp_streamLoop (handle : Handle) (rounds : Nat) :
    Prog.awp (framesAfter StreamCall.isFrame) (FirstFrame StreamCall.isFrame) (fun _ => StreamCall.Silent)
      (streamLoop handle rounds) (fun _ _ => True) n := by
  induction rounds with
  | zero => trivial
  | succ rounds ih =>
    refine Prog.awp_perform nofun fun event hsilent => ?_
    cases event with
    | progress progress => exact absurd rfl (hsilent progress)
    | closed => trivial
    | keepalive => exact Prog.awp_perform nofun fun _ _ => ih
    | done => trivial

/-- A stream writes its first frame, and no other while its channel has no event. -/
theorem awp_handleStreamProgress [UUIDText] (progressHub : Bool) (rounds : Nat) (r : HttpRequest) :
    Prog.awp (framesAfter StreamCall.isFrame) (FirstFrame StreamCall.isFrame) (fun _ => StreamCall.Silent)
      (handleStreamProgress progressHub rounds r) (fun _ _ => True) 0 := by
  unfold handleStreamProgress
  cases UUIDText.parse (r.pathValue "id") with
  | error err => trivial
  | ok id =>
    refine Prog.awp_perform nofun fun read _ => ?_
    rcases read with err | (_ | transfer)
    · trivial
    · trivial
    dsimp only
    split
    · exact Prog.awp_perform (fun _ => rfl) fun _ _ => trivial
    split
    · trivial
    refine Prog.awp_perform nofun fun handle _ => ?_
    split
    · exact Prog.awp_perform nofun fun _ _ => trivial
    refine Prog.awp_perform (fun _ => rfl) fun _ _ => Prog.awp_bind ?_
    refine Prog.awp_mono (awp_streamLoop handle rounds) fun ended n _ => ?_
    split
    · exact Prog.awp_perform nofun fun _ _ => trivial
    · trivial

/-- A handler that is not the one of streams writes no frame. -/
theorem awp_lift {α : Type} (p : Api α) :
    Prog.awp (framesAfter HttpCall.isFrame) (FirstFrame HttpCall.isFrame) (fun _ => HttpCall.Silent)
      p.lift (fun _ _ => True) 0 :=
  Prog.awp_mono (Prog.awp_of_all (Prog.all_inr (Prog.all_of_forall (fun _ => ⟨nofun, fun _ => rfl⟩) p)))
    fun _ _ _ => trivial

theorem awp_apiRoutes [UUIDText] (s : HttpServer) (rounds : Nat) {route : ApiRoute}
    (hroute : route ∈ s.apiRoutes rounds) (r : HttpRequest) :
    Prog.awp (framesAfter HttpCall.isFrame) (FirstFrame HttpCall.isFrame) (fun _ => HttpCall.Silent)
      (route.handler r) (fun _ _ => True) 0 := by
  simp only [HttpServer.apiRoutes, List.mem_cons, List.not_mem_nil, or_false] at hroute
  rcases hroute with rfl | rfl | rfl | rfl | rfl | rfl | rfl | rfl | rfl | rfl
  · exact awp_lift (handleCreateTransfer r)
  · exact awp_lift (handleListTransfers r)
  · exact awp_lift (handleGetTransfer r)
  · exact awp_lift (handleCancelTransfer r)
  · exact awp_lift (handleGetTransferEvents r)
  · exact awp_lift (handleListAgents r)
  · exact awp_lift (handleGetAgent r)
  · exact awp_lift (handleGetAgentPVCs r)
  · exact awp_lift (handleListClusters r)
  · exact Prog.awp_inl (awp_handleStreamProgress s.progressHub rounds r)

theorem awp_handle [UUIDText] (s : HttpServer) (rounds : Nat) (v : StaticTokenValidator)
    (r : HttpRequest) :
    Prog.awp (framesAfter HttpCall.isFrame) (FirstFrame HttpCall.isFrame) (fun _ => HttpCall.Silent)
      (s.handle rounds v r) (fun _ _ => True) 0 := by
  rcases s.handle_cases rounds v r with ⟨reply, hreply⟩ | ⟨route, hroute, r', hhandler⟩
  · rw [hreply]
    trivial
  · rw [hhandler]
    exact awp_apiRoutes s rounds hroute r'

end

/-! ## The whole control plane -/

/-- Calls of the control plane that move nothing. -/
def PlaneCall.Idle : PlaneCall → Prop
  | .inr (.inr op) => op.Idle
  | _ => True

theorem idle_linked {α : Type} {p : Engine α} (hp : (p.through noop).All Call.Idle) :
    p.linked.All PlaneCall.Idle :=
  Prog.all_inr (Prog.all_inr hp)

theorem awp_linked {α : Type} (p : Engine α) (n : Nat) :
    Prog.awp (framesAfter PlaneCall.isFrame) (FirstFrame PlaneCall.isFrame) (fun _ => PlaneCall.Silent)
      p.linked (fun _ n' => n' = n) n :=
  Prog.awp_of_all (Prog.all_inr (Prog.all_inr
    (Prog.all_of_forall (fun _ => ⟨nofun, fun _ => rfl⟩) (p.through noop))))

namespace ControlPlane

section

variable [UUIDText] (plane : ControlPlane)

theorem idle_service (call : HttpCall) (hcall : call.Accepted) :
    (plane.service call).All PlaneCall.Idle := by
  rcases call with call | call
  · exact ⟨trivial, fun _ => trivial⟩
  cases call with
  | createTransfer req => exact idle_linked (idle_createTransfer _ hcall)
  | cancelTransfer id => exact idle_linked (idle_cancelTransfer _ id)
  | getTransfer id => exact idle_linked ⟨trivial, fun _ => trivial⟩
  | _ => exact ⟨trivial, fun _ => trivial⟩

/-- A service writes what the handler writes. -/
theorem awp_service (n : Nat) (call : HttpCall) (hfirst : FirstFrame HttpCall.isFrame n call) :
    Prog.awp (framesAfter PlaneCall.isFrame) (FirstFrame PlaneCall.isFrame) (fun _ => PlaneCall.Silent)
      (plane.service call)
      (fun r n' => call.Silent r ∧ n' = framesAfter HttpCall.isFrame n (⟨call, r⟩ : Ev HttpCall HttpCall.Ans))
      n := by
  rcases call with call | call
  · exact ⟨hfirst, fun r hr => ⟨hr, rfl⟩⟩
  cases call with
  | createTransfer req => exact Prog.awp_mono (awp_linked _ n) fun r n' hn => ⟨trivial, hn⟩
  | cancelTransfer id => exact Prog.awp_mono (awp_linked _ n) fun r n' hn => ⟨trivial, hn⟩
  | getTransfer id => exact Prog.awp_mono (awp_linked _ n) fun r n' hn => ⟨trivial, hn⟩
  | _ => exact ⟨nofun, fun r _ => ⟨trivial, rfl⟩⟩

variable {plane}

theorem serve_of_isGrpc (hgrpc : plane.agentOrchestrator = none) {q : Inbound} (hq : q.isGrpc = true) :
    plane.serve q = .pure .unserved := by
  cases q with
  | http rounds r => cases hq
  | createTransfer req =>
    unfold serve
    rw [hgrpc]
    rfl
  | cancelTransfer transferId =>
    unfold serve
    rw [hgrpc]
    rfl
  | reportProgress req =>
    unfold serve
    rw [hgrpc]
    rfl

theorem idle_serve (hgrpc : plane.agentOrchestrator = none) (q : Inbound) :
    (plane.serve q).All PlaneCall.Idle := by
  cases q with
  | http rounds r =>
    exact ((accepted_handle plane.http rounds plane.tokens r).through plane.idle_service).bind
      fun _ => trivial
  | _ =>
    rw [serve_of_isGrpc hgrpc rfl]
    trivial

/-- Whatever is asked for, one frame is the most that is written. -/
theorem awp_serve (hgrpc : plane.agentOrchestrator = none) (q : Inbound) :
    Prog.awp (framesAfter PlaneCall.isFrame) (FirstFrame PlaneCall.isFrame) (fun _ => PlaneCall.Silent)
      (plane.serve q) (fun _ _ => True) 0 := by
  cases q with
  | http rounds r =>
    have hhandled := Prog.awp_through plane.awp_service (awp_handle plane.http rounds plane.tokens r)
    exact Prog.awp_bind (Prog.awp_mono hhandled fun _ _ _ => trivial)
  | _ =>
    rw [serve_of_isGrpc hgrpc rfl]
    trivial

end

end ControlPlane

/-! ## A hub to which nothing is published -/

/-- No mailbox has an event. -/
def BoxesEmpty (boxes : List Subscription) : Prop := ∀ b ∈ boxes, b.box.buffer = []

/-- The operation publishes something. -/
def HubOp.publishes : HubOp → Bool
  | .publish .. => true
  | .subscribe _ | .unsubscribe _ | .closeTransfer _ | .receive _ => false

/-- Only a publication offers something. -/
theorem HubOp.publishes_of_toward {op : HubOp} {r : Ref} {id : UUID} {progress : EnrichedProgress}
    (h : op.toward r id = some (.offer progress)) : op.publishes = true := by
  cases op with
  | publish id' progress' => rfl
  | subscribe id' => cases h
  | unsubscribe n =>
    simp only [HubOp.toward] at h
    split at h
    · cases h
    · cases h
  | closeTransfer id' =>
    simp only [HubOp.toward] at h
    split at h
    · cases h
    · cases h
  | receive n =>
    simp only [HubOp.toward] at h
    split at h
    · cases h
    · cases h

theorem quiet_advance {boxes : List Subscription} (h : BoxesEmpty boxes) {op : HubOp}
    (hop : op.publishes = false) : BoxesEmpty (advance op boxes) := by
  intro b hb
  rcases List.mem_append.mp hb with hold | hnew
  · obtain ⟨r, hr, rfl⟩ := List.mem_mapIdx.mp hold
    have hbuffer := h boxes[r] (List.getElem_mem hr)
    cases htoward : op.toward r boxes[r].transferID with
    | none =>
      rw [Subscription.follow_of_none htoward]
      exact hbuffer
    | some mail =>
      rw [Subscription.follow_of_some htoward]
      cases mail with
      | offer progress =>
        rw [HubOp.publishes_of_toward htoward] at hop
        cases hop
      | take =>
        show boxes[r].box.take.buffer = []
        rw [Mailbox.take_of_nil _ hbuffer]
        exact hbuffer
      | shut => exact hbuffer
  · cases op with
    | subscribe id =>
      rw [List.mem_singleton.mp hnew]
      rfl
    | _ => cases hnew

theorem quiet_advanceAll {boxes : List Subscription} (h : BoxesEmpty boxes) {ops : List HubOp}
    (hops : ∀ op ∈ ops, op.publishes = false) : BoxesEmpty (advanceAll ops boxes) := by
  induction ops generalizing boxes with
  | nil => exact h
  | cons op ops ih =>
    obtain ⟨hop, hrest⟩ := List.forall_mem_cons.mp hops
    exact ih (quiet_advance h hop) hrest

/-- On a hub like this, a stream is told nothing. -/
theorem silent_of_quiet {b : Backend} {boxes : List Subscription} (hrefines : Refines b.hub boxes)
    (hquiet : BoxesEmpty boxes) (c : ServerEnv) (call : StreamCall) : call.Silent (call.answer c b) := by
  cases call with
  | select handle =>
    intro progress hprogress
    simp only [StreamCall.answer] at hprogress
    cases hready : c.ready with
    | keepalive =>
      rw [hready] at hprogress
      cases hprogress
    | done =>
      rw [hready] at hprogress
      cases hprogress
    | channel =>
      rw [hready] at hprogress
      dsimp only at hprogress
      cases hbox : boxes[handle.sub]? with
      | none =>
        have hnone : b.hub.hub.heap[handle.sub]? = none := by
          rw [List.getElem?_eq_none_iff] at hbox ⊢
          rw [hrefines.size]
          exact hbox
        simp only [ProgressHub.receive, hnone] at hprogress
        cases hprogress
      | some box =>
        rcases ProgressHub.receive_cases (hrefines.views handle.sub box hbox) with
          ⟨_, _, _, hbuffer, -⟩ | ⟨-, -, hreceive⟩
        · rw [hquiet box (List.mem_of_getElem? hbox)] at hbuffer
          cases hbuffer
        · rw [hreceive] at hprogress
          cases hclosed : box.box.closed with
          | true =>
            rw [hclosed] at hprogress
            cases hprogress
          | false =>
            rw [hclosed] at hprogress
            cases hprogress
  | _ => trivial

/-! ## Every run -/

/-- Nothing has been moved, and nobody will be told anything. -/
structure Backend.Idle (b : Backend) : Prop where
  store : b.store.Idle
  hub : ∃ boxes, Refines b.hub boxes ∧ BoxesEmpty boxes

/-- A call of a stream publishes nothing. -/
theorem StreamCall.publishes_hubOps (call : StreamCall) (ready : Ready) :
    ∀ op ∈ call.hubOps ready, op.publishes = false := by
  intro op hop
  cases call with
  | select handle =>
    simp only [StreamCall.hubOps] at hop
    split at hop
    · rw [List.mem_singleton.mp hop]
      rfl
    · cases hop
  | subscribe id =>
    rw [List.mem_singleton.mp hop]
    rfl
  | unsubscribe handle =>
    rw [List.mem_singleton.mp hop]
    rfl
  | _ => cases hop

theorem Call.Idle.publishes_hubOps {call : Call} (hcall : call.Idle) :
    ∀ op ∈ call.hubOps, op.publishes = false := by
  intro op hop
  cases call with
  | publish id progress => exact hcall.elim
  | closeTransfer id =>
    rw [List.mem_singleton.mp hop]
    rfl
  | _ => cases hop

/-- One step. -/
theorem Backend.Idle.exec {b : Backend} (hb : b.Idle) {op : PlaneCall} (hop : op.Idle) (c : PlaneEnv) :
    (execPlane c op b).2.Idle ∧ op.Silent (execPlane c op b).1 := by
  obtain ⟨boxes, hrefines, hquiet⟩ := hb.hub
  rcases op with call | call | call
  · exact ⟨hb, True.intro⟩
  · have hboxes := quiet_advanceAll hquiet (call.publishes_hubOps c.server.ready)
    exact ⟨⟨hb.store, _, hrefines.after _, hboxes⟩, silent_of_quiet hrefines hquiet c.server call⟩
  · have hboxes := quiet_advanceAll hquiet (Call.Idle.publishes_hubOps hop)
    exact ⟨⟨hb.store.exec hop c.server.env, _, hrefines.after _, hboxes⟩, True.intro⟩

section

variable [UUIDText] {ι : Type} [DecidableEq ι]

/-- After a run of the control plane: nothing has been moved, every request to the
    gRPC server has been turned away, and every stream has at most one frame. -/
structure ControlPlane.Idled (inbound : ι → Inbound) (tr : Trace ι PlaneCall PlaneCall.Ans)
    (cfg : Config PlaneCall PlaneCall.Ans Outbound ι Backend) : Prop where
  store : cfg.state.store.Idle
  turnedAway : ∀ i, (inbound i).isGrpc = true → cfg.procs i = .pure .unserved
  frames : ∀ i, (tr.local i).countP (fun ev => ev.1.isFrame) ≤ 1

/-- Every interleaving of requests at the two ports of the control plane, with any
    faults of the database, from any table on which nothing has been moved. -/
theorem idle_of_run (apiTokens : Option (List TokenFileEntry)) (webStaticDir : String)
    {inbound : ι → Inbound} {s₀ : Store} (hs₀ : s₀.Idle) {tr : Trace ι PlaneCall PlaneCall.Ans}
    {cfg : Config PlaneCall PlaneCall.Ans Outbound ι Backend}
    (hrun : Run execPlane (fun _ _ _ _ => True)
      ⟨fun i => (ControlPlane.run apiTokens webStaticDir).serve (inbound i), ⟨s₀, .start⟩⟩ tr cfg) :
    ControlPlane.Idled inbound tr cfg := by
  have hcalls : ∀ i, ((ControlPlane.run apiTokens webStaticDir).serve (inbound i)).All PlaneCall.Idle :=
    fun i => ControlPlane.idle_serve rfl (inbound i)
  -- what a step keeps, and what it answers
  have hsteps : cfg.state.Idle ∧ (∀ i, (cfg.procs i).All PlaneCall.Idle) ∧
      ∀ e ∈ tr, PlaneCall.Silent e.2.1 e.2.2 := by
    refine hrun.invariant (I := fun tr cfg => cfg.state.Idle ∧ (∀ i, (cfg.procs i).All PlaneCall.Idle) ∧
      ∀ e ∈ tr, PlaneCall.Silent e.2.1 e.2.2)
      ⟨⟨hs₀, [], refines_start, fun b hb => absurd hb List.not_mem_nil⟩, hcalls, by simp⟩ ?_
    rintro tr cfg i c op k ⟨hidle, hprocs, hsilent⟩ hnext -
    have hmove := hprocs i
    rw [hnext] at hmove
    obtain ⟨hop, hrest⟩ := hmove
    obtain ⟨hidle', hanswer⟩ := hidle.exec hop c
    refine ⟨hidle', fun j => ?_, fun e he => ?_⟩
    · by_cases hji : j = i
      · subst hji
        simpa [Config.step] using hrest _
      · simpa [Config.step, Function.update_of_ne hji] using hprocs j
    · rcases List.mem_append.mp he with hold | hnew
      · exact hsilent e hold
      · rw [List.mem_singleton.mp hnew]
        exact hanswer
  obtain ⟨hidle, -, hsilent⟩ := hsteps
  refine ⟨hidle.store, fun i hgrpc => ?_, fun i => ?_⟩
  · have hresidual : Prog.Residual ((ControlPlane.run apiTokens webStaticDir).serve (inbound i)) _
        (cfg.procs i) := hrun.residual_local i
    rw [ControlPlane.serve_of_isGrpc rfl hgrpc] at hresidual
    exact (Prog.Residual.nil _).of_pure hresidual
  · obtain ⟨hpermitted, -⟩ := hrun.awp_local i (ControlPlane.awp_serve rfl (inbound i))
      fun ev hev _ => hsilent (i, ev) (Trace.mem_local.mp hev)
    have hcount := countP_frames_le hpermitted (Nat.zero_le 1)
    rwa [Nat.zero_add] at hcount

end

/-! ## Sample run -/

/-- An operator asks for a transfer, and an agent reports that it is done. -/
def creationAndReport (creation : Bool) : Inbound :=
  if creation then
    .http 0
      { target := ⟨"POST", ["api", "v1alpha1", "transfers"], true⟩
        authorization := ["Bearer s"]
        body := some
          { sourceCluster := "east", sourcePVC := "apps/data"
            destinationCluster := "west", destinationPVC := "apps/data" } }
  else .reportProgress { transferId := canonicalString 7, status := "completed" }

/-- The control plane at that moment. -/
def createdAndReported : Option (Trace Bool PlaneCall PlaneCall.Ans ×
    Config PlaneCall PlaneCall.Ans Outbound Bool Backend) :=
  Config.follow execPlane (fun _ _ _ _ => True)
    ⟨fun i => @ControlPlane.serve canonicalText (ControlPlane.run (some [⟨"s", "ui", "operator"⟩]) "")
      (creationAndReport i), ⟨.empty, .start⟩⟩
    ((calls 7 16).map fun env => (true, { server := { env } }))

/-- It is under way for good. -/
theorem idle_of_creation :
    ∃ tr cfg, createdAndReported = some (tr, cfg) ∧
      cfg.state.store.stateOf 7 = some .transferring ∧
      ControlPlane.Idled creationAndReport tr cfg := by
  have hend : createdAndReported.any fun out =>
      out.2.state.store.stateOf 7 = some .transferring := by decide +kernel
  obtain ⟨⟨tr, cfg⟩, hrun, hstate⟩ := (Option.any_eq_true _ _).mp hend
  have hempty : Store.empty.Idle := by
    refine ⟨fun id t ht => ?_, fun e he => absurd he List.not_mem_nil⟩
    have hnone : Store.empty.row id = none := rfl
    rw [hnone] at ht
    cases ht
  exact ⟨tr, cfg, hrun, of_decide_eq_true hstate,
    @idle_of_run canonicalText Bool _ (some [⟨"s", "ui", "operator"⟩]) "" creationAndReport .empty hempty tr
      cfg (.of_follow hrun)⟩

end Katapult
