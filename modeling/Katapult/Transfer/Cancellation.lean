/-
  Katapult.Transfer.Cancellation

  What a cancellation that has returned `nil` means for the `createTransfer` it
  runs next to.  The creator never reads its row again, so the cancellation
  holds it back only when it comes after everything that starts data moving:
  the write of `transferring` and the two agent commands.

  `Pace` says from the creator's own calls and their answers how far it has
  come, and `paced_createTransfer` what it does not do any more from there on.
-/

import Katapult.Transfer.Lifecycle

namespace Katapult

open Effect

/-! ## How far a creation has come -/

/-- The call makes a row `transferring`. -/
def Call.storesTransferring : Call → Bool
  | .repo (.createTransfer t) => t.state = .transferring
  | .repo (.updateTransferState _ state) => state = .transferring
  | _ => false

/-- Without such a call a row does not become `transferring`. -/
theorem stateOf_exec_ne_transferring {op : Call} (hop : op.storesTransferring = false) (env : Env)
    {s : Store} {id : UUID} (hs : s.stateOf id ≠ some .transferring) :
    (exec env op s).2.stateOf id ≠ some .transferring := by
  rcases stateOf_exec env op s id with hsame | ⟨state, hw, hafter⟩ | ⟨t, rfl, hid, -, hafter⟩
  · rw [hsame]
    exact hs
  · rw [hafter]
    intro htransferring
    obtain ⟨_, -, rfl⟩ := Option.map_eq_some_iff.mp htransferring
    rcases Call.writtenState_eq_some.mp hw with rfl | ⟨errorMessage, -, hstate⟩
    · cases hop
    · cases hstate
  · rw [hafter]
    intro htransferring
    exact of_decide_eq_false hop (Option.some.inj htransferring)

/-- The request is refused whatever is found: its ends are one volume, or its
    override names no strategy. -/
def CreateTransferRequest.hopeless (req : CreateTransferRequest) (s3Config : S3Config) : Bool :=
  (req.sourceCluster = req.destinationCluster && req.sourcePVC = req.destinationPVC) ||
    !(selectStrategy req.sourceCluster req.destinationCluster req.strategyOverride s3Config).isOk

/-- With this answer a creation goes no further: a statement has failed (that of
    an event is only logged), the finder does not let the request pass, or an
    agent has refused its command. -/
def CallEv.turnsBack (allowOverwrite : Bool) : CallEv → Bool
  | ⟨.repo (.createTransfer _), .error _⟩ => true
  | ⟨.repo (.updateTransferState ..), .error _⟩ => true
  | ⟨.repo (.updateTransferStrategy ..), .error _⟩ => true
  | ⟨.repo (.updateTransferStarted _), .error _⟩ => true
  | ⟨.findHealthyPVC .., .error _⟩ => true
  | ⟨.findHealthyPVC .., .ok found⟩ => !found
  | ⟨.isPVCEmpty .., .error _⟩ => true
  | ⟨.isPVCEmpty .., .ok empty⟩ => !empty && !allowOverwrite
  | ⟨.sendTransferCommand .., .error _⟩ => true
  | _ => false

/-- How far a creation has come, by the calls it has made and their answers. -/
structure Pace where
  turnedBack : Bool := false
  /-- It has written `transferring`. -/
  started : Bool := false
  /-- The transfer commands that have been answered. -/
  commands : Nat := 0

namespace Pace

def follow (req : CreateTransferRequest) (m : Pace) (ev : CallEv) : Pace where
  turnedBack := m.turnedBack || CallEv.turnsBack req.allowOverwrite ev
  started := m.started || ev.1.storesTransferring
  commands := m.commands + ev.1.startsAgent.toNat

section

variable (o : Orchestrator) (req : CreateTransferRequest)

/-- The creation has been turned back, or both of its commands are answered. -/
def Over (m : Pace) : Prop :=
  req.hopeless o.s3Config = true ∨ m.turnedBack = true ∨ 2 ≤ m.commands

instance (m : Pace) : Decidable (m.Over o req) := by
  unfold Over
  infer_instance

/-- A creation writes `transferring` once, and when it is over it neither does
    so nor commands an agent. -/
structure Permits (m : Pace) (op : Call) : Prop where
  commands : op.startsAgent = true → ¬ m.Over o req
  stores : op.storesTransferring = true → ¬ m.Over o req ∧ m.started = false

/-- A program that keeps to this, from `m` on. -/
abbrev Obeyed {α : Type} (m : Pace) (p : Engine α) : Prop :=
  Prog.Obeys (follow req) (Permits o req) (fun _ _ => True) m p

variable {o req}

theorem Over.follow {m : Pace} (h : m.Over o req) (ev : CallEv) : (m.follow req ev).Over o req := by
  rcases h with hhopeless | hback | hcommands
  · exact .inl hhopeless
  · exact .inr (.inl (by simp [Pace.follow, hback]))
  · exact .inr (.inr (Nat.le_add_right_of_le hcommands))

theorem started_follow {m : Pace} (h : m.started = true) (ev : CallEv) :
    (m.follow req ev).started = true := by
  simp [follow, h]

theorem permits_aside (m : Pace) {op : Call} (hcommand : op.startsAgent = false)
    (hstores : op.storesTransferring = false) : m.Permits o req op := by
  constructor
  · rw [hcommand]
    exact nofun
  · rw [hstores]
    exact nofun

/-- The recording of an event does not count. -/
theorem permits_recordsEvent (m : Pace) {id : UUID} {eventType : EventType} (op : Call)
    (h : op.RecordsEvent id eventType) :
    m.Permits o req op ∧ ∀ r, m.follow req ⟨op, r⟩ = m := by
  have hnothing : ∀ ev : CallEv, CallEv.turnsBack req.allowOverwrite ev = false →
      ev.1.storesTransferring = false → ev.1.startsAgent = false → m.follow req ev = m := by
    intro ev hback hstores hcommand
    simp [follow, hback, hstores, hcommand]
  cases op with
  | newUUID => exact ⟨permits_aside m rfl rfl, fun r => hnothing _ rfl rfl rfl⟩
  | timeNow => exact ⟨permits_aside m rfl rfl, fun r => hnothing _ rfl rfl rfl⟩
  | repo call =>
    cases call with
    | createTransferEvent e => exact ⟨permits_aside m rfl rfl, fun r => hnothing _ rfl rfl rfl⟩
    | _ => cases h
  | _ => cases h

theorem Obeyed.createEvent {m : Pace} {α : Type} {id : UUID} {eventType : EventType}
    {message : String} {metadata : Option (List (String × String))} {f : Unit → Engine α}
    (hf : Obeyed o req m (f ())) :
    Obeyed o req m (createEvent id eventType message metadata >>= f) :=
  Prog.Obeys.skip ((all_createEvent id eventType message metadata).mono (permits_recordsEvent m))
    fun _ => hf

/-- The failure exits. -/
theorem paced_failTransfer (m : Pace) {α : Type} (id : UUID) (errorMessage eventMessage : String)
    (a : α) : Obeyed o req m (do failTransfer id errorMessage eventMessage; return a) :=
  ⟨permits_aside m rfl rfl, fun _ => Obeyed.createEvent trivial⟩

end

end Pace

/-! ### The parts of a creation -/

section

variable [UUIDText] {o : Orchestrator} {req : CreateTransferRequest}

open Pace

theorem Orchestrator.paced_commandAgents (id : UUID) (hreq : req.hopeless o.s3Config = false) :
    Obeyed o req { started := true } (commandAgents req id) := by
  -- with fewer than two commands answered, the creation is not over
  have hgoing : ∀ n < 2, ¬ Over o req { started := true, commands := n } := by
    intro n hn
    simp only [Over, hreq, Bool.false_eq_true, false_or]
    omega
  have hcommand : ∀ n < 2, ∀ agentID, Permits o req { started := true, commands := n }
      (.sendTransferCommand agentID id.text) :=
    fun n hn agentID => ⟨fun _ => hgoing n hn, nofun⟩
  refine ⟨hcommand 0 (by omega) _, fun src => ?_⟩
  rcases src with err | _
  · exact paced_failTransfer _ _ _ _ _
  refine ⟨hcommand 1 (by omega) _, fun dest => ?_⟩
  rcases dest with err | _
  · exact paced_failTransfer _ _ _ _ _
  · trivial

theorem Orchestrator.paced_startTransfer (transfer : Transfer)
    (hends : ¬ (req.sourceCluster = req.destinationCluster ∧ req.sourcePVC = req.destinationPVC)) :
    Obeyed o req {} (o.startTransfer req transfer) := by
  unfold startTransfer
  split
  · exact ⟨permits_aside _ rfl rfl, fun _ => trivial⟩
  rename_i strategy hstrategy
  have hreq : req.hopeless o.s3Config = false := by
    simpa [CreateTransferRequest.hopeless, hstrategy, Except.isOk, Except.toBool] using hends
  refine ⟨permits_aside _ rfl rfl, fun persisted => ?_⟩
  rcases persisted with err | _
  · trivial
  split
  · trivial
  -- the one write of `transferring`
  have hgoing : ¬ Over o req {} := by simp [Over, hreq]
  refine ⟨⟨nofun, fun _ => ⟨hgoing, rfl⟩⟩, fun written => ?_⟩
  rcases written with err | _
  · trivial
  refine ⟨permits_aside _ rfl rfl, fun started => ?_⟩
  rcases started with err | _
  · trivial
  exact Obeyed.createEvent (paced_commandAgents transfer.id hreq)

omit [UUIDText] in
/-- The finder's questions: a request that is valid has not been turned back. -/
theorem paced_validateTransferRequest (transferID : String) :
    Prog.Obeys (Pace.follow req) (Permits o req)
      (fun valid m => valid = .ok () → m = {} ∧
        ¬ (req.sourceCluster = req.destinationCluster ∧ req.sourcePVC = req.destinationPVC)) {}
      (validateTransferRequest
        { transferID
          sourceCluster := req.sourceCluster
          sourcePVC := req.sourcePVC
          destinationCluster := req.destinationCluster
          destinationPVC := req.destinationPVC
          allowOverwrite := req.allowOverwrite }) := by
  unfold validateTransferRequest
  -- every way out but the last is an error
  split
  · exact nofun
  rename_i hends
  refine ⟨permits_aside _ rfl rfl, fun src => ?_⟩
  rcases src with err | (_ | _)
  · exact nofun
  · exact nofun
  refine ⟨permits_aside _ rfl rfl, fun dest => ?_⟩
  rcases dest with err | (_ | _)
  · exact nofun
  · exact nofun
  refine Prog.Obeys.perform (permits_aside _ rfl rfl) fun empty => ?_
  rcases empty with err | empty
  · exact nofun
  dsimp only
  split
  · exact nofun
  · rename_i hfree
    refine fun _ => ⟨?_, hends⟩
    cases empty <;> cases hallow : req.allowOverwrite <;>
      simp_all [Pace.follow, CallEv.turnsBack, Call.storesTransferring, Call.startsAgent]

theorem Orchestrator.paced_createTransfer (o : Orchestrator) (req : CreateTransferRequest) :
    Obeyed o req {} (o.createTransfer req) := by
  unfold createTransfer admitTransfer
  refine Prog.Obeys.perform (permits_aside _ rfl rfl) fun id => ?_
  refine Prog.Obeys.perform (permits_aside _ rfl rfl) fun now => ?_
  refine Prog.Obeys.perform (permits_aside _ rfl rfl) fun inserted => ?_
  rcases inserted with err | _
  · trivial
  refine Obeyed.createEvent ?_
  split
  · trivial
  refine Prog.Obeys.perform (permits_aside _ rfl rfl) fun written => ?_
  rcases written with err | _
  · trivial
  refine Prog.Obeys.bind ((paced_validateTransferRequest _).mono fun valid m hvalid => ?_)
  rcases valid with err | _
  · exact paced_failTransfer _ _ _ _ _
  obtain ⟨rfl, hends⟩ := hvalid rfl
  exact Obeyed.createEvent (paced_startTransfer _ hends)

end

/-! ## The cancellation -/

/-- The UPDATE that makes a cancellation take effect. -/
abbrev writeCancelled (id : UUID) : Call := .repo (.updateTransferState id .cancelled)

section

variable [UUIDText] (o : Orchestrator) (id : UUID)

/-- A cancellation returns `nil` only after its UPDATE has succeeded. -/
theorem Orchestrator.cancelTransfer_written :
    Prog.Obeys history (fun _ _ => True)
      (fun a (h : List CallEv) => a = .ok () → ⟨writeCancelled id, .ok ()⟩ ∈ h) []
      (o.cancelTransfer id) := by
  unfold Orchestrator.cancelTransfer
  refine Prog.Obeys.perform trivial fun loaded => ?_
  rcases loaded with err | (_ | transfer)
  · exact nofun
  · exact nofun
  dsimp only
  split
  · exact nofun
  split
  · exact nofun
  refine Prog.Obeys.perform trivial fun now => Prog.Obeys.perform trivial fun written => ?_
  rcases written with err | _
  · exact nofun
  refine (Prog.Obeys.of_mem _ ?_).mono fun _ _ hmem _ => hmem
  simp [history]

end

/-- Nothing but `createTransfer` makes a row `transferring`. -/
theorem Copy.Permits.storesTransferring {m : Copy} {op : Call} (h : m.Permits false op) :
    op.storesTransferring = false := by
  cases op with
  | repo call =>
    cases call with
    | createTransfer t => cases h
    | updateTransferState id state =>
      rcases h.1 with hfalse | hterm
      · cases hfalse
      · refine decide_eq_false ?_
        rintro rfl
        cases hterm
    | _ => rfl
  | _ => rfl

/-! ## Cancellation next to creation -/

section

variable (o : Orchestrator) (req : CreateTransferRequest) (id : UUID)

/-- How far the creation has come in a history. -/
def creationPace (req : CreateTransferRequest) (tr : Trace (Option Unit) Call Call.Ans) : Pace :=
  (Trace.local tr none).foldl (Pace.follow req) {}

/-- The cancellation comes late: when its UPDATE is made, the creation has written
    `transferring` already or is over; and at the end of the history it is over. -/
def CancelsLate (tr : Trace (Option Unit) Call Call.Ans) : Prop :=
  (∀ n < tr.length, (tr[n]?.any fun e => e.1 = some () ∧ e.2.1 = writeCancelled id) = true →
    (creationPace req (tr.take n)).started = true ∨ (creationPace req (tr.take n)).Over o req) ∧
  (creationPace req tr).Over o req

instance (tr : Trace (Option Unit) Call Call.Ans) : Decidable (CancelsLate o req id tr) := by
  unfold CancelsLate
  infer_instance

end

section

variable {o : Orchestrator} {req : CreateTransferRequest} {id : UUID} {tr : Trace (Option Unit) Call Call.Ans}
variable {cfg cfg' : Config Call Call.Ans Response (Option Unit) Store}

/-- When nobody is left to write it, the row stays off `transferring`. -/
theorem ne_transferring_of_run (hall : ∀ i, (cfg.procs i).All (·.storesTransferring = false))
    (hs : cfg.state.stateOf id ≠ some .transferring)
    (hrun : Run exec (fun _ _ _ _ => True) cfg tr cfg') :
    cfg'.state.stateOf id ≠ some .transferring := by
  induction hrun with
  | init => exact hs
  | @step tr cfg i env op k hrun hnext _ ih =>
    have hmove := (hrun.all hall).2 i
    rw [hnext] at hmove
    exact stateOf_exec_ne_transferring hmove.1 env ih

/-- A creation that has written `transferring`, or is over, does not write it any more. -/
theorem Pace.Obeyed.all_stores {m : Pace} {p : Engine Response} (hp : Pace.Obeyed o req m p)
    (hm : m.started = true ∨ m.Over o req) : p.All (·.storesTransferring = false) := by
  refine Prog.Obeys.all_from (J := fun m => m.started = true ∨ m.Over o req) hm ?_ ?_ hp
  · rintro m ev (hstarted | hover)
    · exact .inl (Pace.started_follow hstarted ev)
    · exact .inr (hover.follow ev)
  · rintro m op hm hperm
    by_contra hstores
    obtain ⟨hgoing, hnot⟩ := hperm.stores (Bool.of_not_eq_false hstores)
    rcases hm with hstarted | hover
    · rw [hnot] at hstarted
      cases hstarted
    · exact hgoing hover

/-- A creation that is over commands no agent. -/
theorem Pace.Obeyed.all_commands {m : Pace} {p : Engine Response} (hp : Pace.Obeyed o req m p)
    (hm : m.Over o req) : p.All (·.startsAgent = false) := by
  refine Prog.Obeys.all_from (J := fun m => m.Over o req) hm (fun m ev h => h.follow ev) ?_ hp
  intro m op hover hperm
  by_contra hcommand
  exact hperm.commands (Bool.of_not_eq_false hcommand) hover

end

section

variable [UUIDText] (o : Orchestrator) (req : CreateTransferRequest) (id : UUID)

/-- A `createTransfer` next to one cancellation. -/
def Orchestrator.createAndCancel (s₀ : Store) : Config Call Call.Ans Response (Option Unit) Store where
  procs := o.concurrently req fun _ => .cancelTransfer id
  state := s₀

/-- Once the cancellation has returned `nil`, in a run whose history meets
    `cond`, no agent is commanded and the row is never `transferring`. -/
def CancelIsFinal (cond : Trace (Option Unit) Call Call.Ans → Prop)
    (cfg₀ : Config Call Call.Ans Response (Option Unit) Store) : Prop :=
  ∀ {tr cfg tr' cfg'}, Run exec (fun _ _ _ _ => True) cfg₀ tr cfg → cond tr →
    cfg.procs (some ()) = .pure (.cancelled (.ok ())) →
    Run exec (fun _ _ _ _ => True) cfg tr' cfg' →
    (∀ e ∈ tr', ∀ agentID, e.2.1 ≠ .sendTransferCommand agentID id.text) ∧
    cfg'.state.stateOf id ≠ some .transferring

variable {o req id} {s₀ : Store} {tr : Trace (Option Unit) Call Call.Ans}
variable {cfg cfg' : Config Call Call.Ans Response (Option Unit) Store}

/-- The creation, at any point of a run. -/
theorem paced_of_run (hrun : Run exec (fun _ _ _ _ => True) (o.createAndCancel req id s₀) tr cfg) :
    Pace.Obeyed o req (creationPace req tr) (cfg.procs none) := by
  have hproc : Pace.Obeyed o req {} (o.serve (.createTransfer req)) :=
    Prog.Obeys.bind ((o.paced_createTransfer req).mono fun _ _ _ => trivial)
  exact (hrun.obeys_local none hproc).2

/-- A cancellation that comes late is final. -/
theorem cancelIsFinal_of_late (o : Orchestrator) (req : CreateTransferRequest) (id : UUID)
    (s₀ : Store) :
    CancelIsFinal id (CancelsLate o req id) (o.createAndCancel req id s₀) := by
  rintro tr cfg tr' cfg' hrun ⟨hlate, hover⟩ hret hrun'
  constructor
  · -- the creation is over and the cancellation has returned: nobody commands an agent
    have hall : ∀ i, (cfg.procs i).All (·.startsAgent = false) := by
      intro i
      cases i with
      | none => exact (paced_of_run hrun).all_commands hover
      | some _ =>
        rw [hret]
        trivial
    intro e he agentID hsend
    have hnone := (hrun'.all hall).1 e he
    rw [hsend] at hnone
    cases hnone
  -- the history shows the UPDATE that cancelled the row
  have hwritten : (⟨writeCancelled id, .ok ()⟩ : CallEv) ∈ tr.local (some ()) := by
    have hproc : Prog.Obeys history (fun _ _ => True)
        (fun a (h : List CallEv) => a = .cancelled (.ok ()) → ⟨writeCancelled id, .ok ()⟩ ∈ h) []
        (o.serve (.cancelTransfer id)) :=
      Prog.Obeys.bind ((o.cancelTransfer_written id).mono fun a h hmem hok => hmem (by simpa using hok))
    have hdone := (hrun.obeys_local (some ()) hproc).2
    rw [hret, foldl_history] at hdone
    exact hdone rfl
  obtain ⟨before, after, rfl⟩ := List.append_of_mem (Trace.mem_local.mp hwritten)
  obtain ⟨cfg₁, env, op, k, hbefore, hnext, -, hev, hafter⟩ := hrun.split
  obtain ⟨rfl, hanswer⟩ := Sigma.mk.inj hev
  -- from that step on, nobody writes `transferring`
  have hcreator : (cfg₁.procs none).All (·.storesTransferring = false) := by
    have htime := hlate before.length (by simp) (by simp)
    rw [List.take_left] at htime
    exact (paced_of_run hbefore).all_stores htime
  have hcanceller : (cfg₁.procs (some ())).All (·.storesTransferring = false) :=
    Prog.Obeys.all (fun _ _ hperm => hperm.storesTransferring)
      (hbefore.obeys_local (some ()) (o.obeyed_serve {} (.cancelTransfer id))).2
  have hall : ∀ i, ((cfg₁.step exec (some ()) env _ k).procs i).All
      (·.storesTransferring = false) := by
    intro i
    cases i with
    | none => exact hcreator
    | some _ =>
      rw [hnext] at hcanceller
      exact hcanceller.2 _
  have hne : (cfg₁.step exec (some ()) env _ k).state.stateOf id ≠ some .transferring := by
    simp only [Config.step]
    rw [stateOf_exec_of_written (eq_of_heq hanswer).symm]
    intro htransferring
    obtain ⟨_, -, hstate⟩ := Option.map_eq_some_iff.mp htransferring
    cases hstate
  exact ne_transferring_of_run hall hne (hafter.trans hrun')

end

/-- The creation has written `transferring` when the cancellation writes its
    state, and sends both commands before the cancellation returns. -/
theorem cancelIsFinal_between :
    ∃ tr cfg, Run exec (fun _ _ _ _ => True)
        (@Orchestrator.createAndCancel canonicalText plainOrchestrator sampleRequest 7 .empty) tr cfg ∧
      CancelsLate plainOrchestrator sampleRequest 7 tr ∧
      cfg.procs (some ()) = .pure (.cancelled (.ok ())) ∧
      cfg.state.stateOf 7 ≠ some .transferring := by
  let ok : Option Unit → Env → Call → Store → Prop := fun _ _ _ _ => True
  let cfg₀ := @Orchestrator.createAndCancel canonicalText plainOrchestrator sampleRequest 7 .empty
  let sched := moves none 7 15 ++ moves (some ()) 100 4 ++ moves none 200 6 ++ moves (some ()) 300 8
  have hend : (cfg₀.follow exec ok sched).any fun out =>
      CancelsLate plainOrchestrator sampleRequest 7 out.1 ∧
      (out.2.procs (some ())).result? = some (.cancelled (.ok ())) := by decide +kernel
  obtain ⟨⟨tr, cfg⟩, hfollow, hout⟩ := (Option.any_eq_true _ _).mp hend
  obtain ⟨hlate, hresult⟩ := of_decide_eq_true hout
  have hrun : Run exec ok cfg₀ tr cfg := .of_follow hfollow
  have hnil := Prog.eq_pure_of_result? hresult
  exact ⟨tr, cfg, hrun, hlate, hnil, (@cancelIsFinal_of_late canonicalText plainOrchestrator
    sampleRequest 7 .empty _ _ _ _ hrun hlate hnil .init).2⟩

/-- The creator inserts its row, the cancellation runs to its end and returns
    `nil`, and the creator goes on to persist `transferring`. -/
theorem not_cancelIsFinal_cancelledCreate :
    ¬ @CancelIsFinal canonicalText 7 (fun _ => True)
      (@Orchestrator.createAndCancel canonicalText plainOrchestrator sampleRequest 7 .empty) := by
  intro h
  let ok : Option Unit → Env → Call → Store → Prop := fun _ _ _ _ => True
  let toReturn := moves none 7 6 ++ moves (some ()) 100 12
  let cfg₀ := @Orchestrator.createAndCancel canonicalText plainOrchestrator sampleRequest 7 .empty
  obtain ⟨_, hrun⟩ := Run.after exec ok cfg₀ toReturn (by decide +kernel)
  obtain ⟨_, hrun'⟩ := Run.after exec ok (cfg₀.after exec ok toReturn) (moves none 200 9)
    (by decide +kernel)
  refine (h hrun trivial rfl hrun').2 ?_
  decide +kernel

end Katapult
