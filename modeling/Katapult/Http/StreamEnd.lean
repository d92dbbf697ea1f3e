/-
  Katapult.Http.StreamEnd

  Whether progress streams end.

  A final state is stored first and the subscribers are closed after that, once.
  Until then the call that has stored it owes the close (`Owes`), and whatever
  subscribes is still reached.  Who subscribes later, or finds the transfer
  ended by a call that closes nothing, waits for ever: `Abandons` says which
  steps do that, and where no step does, every open subscriber is owed a close.
-/

import Katapult.Http.Stream
import Katapult.Transfer.Ending
import Katapult.Transfer.Reports

namespace Katapult

open Effect Channel

/-! ## What is owed -/

/-- The call closes the subscribers of a transfer that it brings to its end. -/
def Activity.closes : Activity → Bool
  | .call (.cancelTransfer _) | .call (.handleProgress _) => true
  | .call (.createTransfer _) | .stream .. => false

/-- The final states that a call can store for a transfer. -/
def Activity.final (id : UUID) : Activity → TransferState → Prop
  | .call (.cancelTransfer id'), state => id' = id ∧ state = .cancelled
  | .call (.handleProgress report), state => report.transferID = id ∧ state.text = report.status
  | .call (.createTransfer _), _ | .stream .., _ => False

/-- What has been done towards the end of a transfer; handlers do nothing. -/
def Ending.watch (id : UUID) (m : Ending) : ServerEv → Ending
  | ⟨.inl _, _⟩ => m
  | ⟨.inr op, r⟩ => m.follow id ⟨op, r⟩

section

variable {ι : Type} [DecidableEq ι]

/-- What one of them has done towards the end of a transfer. -/
def ending (id : UUID) (tr : ServerTrace ι) (i : ι) : Ending :=
  (tr.local i).foldl (Ending.watch id) {}

/-- The call has stored a final state, and has still to close the subscribers. -/
def Owes (acts : ι → Activity) (id : UUID) (tr : ServerTrace ι) (i : ι) : Prop :=
  (acts i).closes = true ∧ (ending id tr i).due = true

instance (acts : ι → Activity) (id : UUID) (tr : ServerTrace ι) (i : ι) :
    Decidable (Owes acts id tr i) := by
  unfold Owes
  infer_instance

/-- The step leaves a subscriber behind: it subscribes to a transfer that has ended,
    fails one in the name of its creation, or gives up before the close. -/
def Abandons (id : UUID) (a : Activity) (c : ServerEnv) (b : Backend) : ServerCall → Prop
  | .inl (.subscribe id') => id' = id ∧ b.store.terminal id = true
  | .inr (.repo (.updateTransferFailed id' _)) =>
      id' = id ∧ a.closes = false ∧ c.env.fail.isSome = false ∧ b.hub.OpenFor id
  | .inr (.repo (.updateTransferCompleted id')) =>
      id' = id ∧ c.env.fail.isSome = true ∧ b.store.terminal id = true ∧ b.hub.OpenFor id
  | _ => False

instance (id : UUID) (a : Activity) (c : ServerEnv) (b : Backend) (op : ServerCall) :
    Decidable (Abandons id a c b op) := by
  unfold Abandons
  split <;> infer_instance

/-- A step that leaves a subscriber behind is taken only while another call still
    owes the close. -/
def Attended (acts : ι → Activity) (id : UUID) (tr : ServerTrace ι) (cfg : ServerConfig ι) (i : ι)
    (c : ServerEnv) (op : ServerCall) : Prop :=
  Abandons id (acts i) c cfg.state op → ∃ e ∈ tr, e.1 ≠ i ∧ Owes acts id tr e.1

instance (acts : ι → Activity) (id : UUID) (tr : ServerTrace ι) (cfg : ServerConfig ι) (i : ι)
    (c : ServerEnv) (op : ServerCall) : Decidable (Attended acts id tr cfg i c op) := by
  unfold Attended
  infer_instance

/-! ## The property -/

/-- The call is one on the transfer; a creation makes the transfer whose identifier
    it has drawn first. -/
def Activity.Concerns (id : UUID) (h : List ServerEv) : Activity → Prop
  | .call (.createTransfer _) =>
    match h.head? with
    | some ⟨.inr .newUUID, transferID⟩ => (transferID : UUID) = id
    | _ => False
  | .call (.cancelTransfer id') => id' = id
  | .call (.handleProgress report) => report.transferID = id
  | .stream .. => False

/-- A call on the transfer has begun and not returned. -/
def InFlight (acts : ι → Activity) (id : UUID) (tr : ServerTrace ι) (cfg : ServerConfig ι) (i : ι) :
    Prop :=
  (acts i).Concerns id (tr.local i) ∧ tr.local i ≠ [] ∧ (cfg.procs i).result? = none

/-- While no call on a transfer is in flight and its stored state is final, no
    subscriber for it is open.  (A handler that has not checked the state yet has
    no subscriber.) -/
def StreamsEnd (acts : ι → Activity) (id : UUID) (tr : ServerTrace ι) (cfg : ServerConfig ι) : Prop :=
  (∀ i, ¬ InFlight acts id tr cfg i) → cfg.state.store.terminal id = true →
    ¬ cfg.state.hub.OpenFor id

variable {acts : ι → Activity} {id : UUID} {tr : ServerTrace ι} {cfg : ServerConfig ι} {i j : ι}

/-! ## One step -/

theorem ending_snoc_self (id : UUID) (tr : ServerTrace ι) (i : ι) (ev : ServerEv) :
    ending id (tr ++ [(i, ev)]) i = (ending id tr i).watch id ev := by
  simp [ending, Trace.local]

theorem ending_snoc_of_ne (hne : j ≠ i) (id : UUID) (tr : ServerTrace ι) (ev : ServerEv) :
    ending id (tr ++ [(i, ev)]) j = ending id tr j := by
  simp [ending, Trace.local, Ne.symm hne]

/-- What a call has owed before the step of another, it owes after it. -/
theorem Owes.snoc_of_ne (h : Owes acts id tr j) (hne : j ≠ i) (ev : ServerEv) :
    Owes acts id (tr ++ [(i, ev)]) j := by
  refine ⟨h.1, ?_⟩
  rw [ending_snoc_of_ne hne]
  exact h.2

theorem Owes.snoc_self {ev : ServerEv} (hcloses : (acts i).closes = true)
    (hdue : ((ending id tr i).watch id ev).due = true) : Owes acts id (tr ++ [(i, ev)]) i := by
  refine ⟨hcloses, ?_⟩
  rw [ending_snoc_self]
  exact hdue

/-- A step that leaves a subscriber behind leaves it to another call. -/
theorem Attended.owes {c : ServerEnv} {op : ServerCall} (h : Attended acts id tr cfg i c op)
    (habandons : Abandons id (acts i) c cfg.state op) (ev : ServerEv) :
    ∃ j, Owes acts id (tr ++ [(i, ev)]) j := by
  obtain ⟨e, -, hne, howes⟩ := h habandons
  exact ⟨e.1, howes.snoc_of_ne hne ev⟩

/-- Every subscriber that is open for a transfer in a final state is owed a close. -/
def Covered (acts : ι → Activity) (id : UUID) (tr : ServerTrace ι) (b : Backend) : Prop :=
  ∃ boxes, Refines b.hub boxes ∧
    (b.store.terminal id = true → OpenIn boxes id → ∃ j, Owes acts id tr j)

/-- A step of a handler: only a subscription matters. -/
theorem Covered.step_stream {c : ServerEnv} {call : StreamCall} (h : Covered acts id tr cfg.state)
    (hC : Attended acts id tr cfg i c (.inl call)) :
    Covered acts id (tr ++ [(i, ⟨.inl call, call.answer c cfg.state⟩)])
      { cfg.state with hub := cfg.state.hub.after (call.hubOps c.ready) } := by
  obtain ⟨boxes, hw, howed⟩ := h
  refine ⟨advanceAll (call.hubOps c.ready) boxes, hw.after _, fun hterm hopen => ?_⟩
  have hterm : cfg.state.store.terminal id = true := hterm
  -- the subscriber was open before, or this is its subscription
  rcases hopen.of_stream with hbefore | rfl
  · obtain ⟨j, hj⟩ := howed hterm hbefore
    by_cases hji : j = i
    · subst hji
      exact ⟨j, .snoc_self hj.1 hj.2⟩
    · exact ⟨j, hj.snoc_of_ne hji _⟩
  · exact hC.owes ⟨rfl, hterm⟩ _

/-- A step of a call on a transfer that has ended before: only the close of the
    subscribers and a failure to store `completed_at` matter. -/
theorem Owes.step_call {c : ServerEnv} {op : Call} (hj : Owes acts id tr j)
    (hC : Attended acts id tr cfg i c (.inr op)) (hterm : cfg.state.store.terminal id = true)
    (hopen : cfg.state.hub.OpenFor id) (hclose : op ≠ .closeTransfer id) :
    ∃ j, Owes acts id (tr ++ [(i, ⟨.inr op, (exec c.env op cfg.state.store).1⟩)]) j := by
  by_cases hji : j = i
  · subst hji
    have hkept : ∀ ev : CallEv, ev.1 = op → ((ending id tr j).follow id ev).due = true ∨
        ∃ err, ev = ⟨.repo (.updateTransferCompleted id), .error err⟩ := by
      rintro ev rfl
      rcases Ending.due_follow hj.2 with hdue | hsub | herr
      · exact .inl hdue
      · exact absurd hsub hclose
      · exact .inr herr
    -- still owed, or given up by a call that could not store `completed_at`
    rcases hkept ⟨op, (exec c.env op cfg.state.store).1⟩ rfl with hdue | ⟨err, hev⟩
    · exact ⟨j, .snoc_self hj.1 hdue⟩
    · obtain ⟨rfl, hanswer⟩ := Sigma.mk.inj hev
      have hfail := Ending.isSome_of_error (eq_of_heq hanswer)
      exact hC.owes ⟨rfl, hfail, hterm, hopen⟩ _
  · exact ⟨j, hj.snoc_of_ne hji _⟩

/-- What the others are restricted to: a handler calls nothing of the engine, and a
    creation stores no final state but by failing the transfer. -/
def Activity.Allows : Activity → ServerCall → Prop
  | .stream .., .inl _ => True
  | .stream .., .inr _ => False
  | .call _, .inl _ => False
  | .call (.createTransfer _), .inr op => op.Opens
  | .call _, .inr _ => True

/-- What a call that closes is permitted, as a part of the server. -/
def Ending.PermitsServer (final : TransferState → Prop) (id : UUID) (m : Ending) : ServerCall → Prop
  | .inl _ => True
  | .inr op => m.Permits final id op

/-- A step that ends a transfer is one of a call that then owes the close, or a
    creation fails the transfer. -/
theorem Attended.owes_of_ended {c : ServerEnv} {op : Call}
    (hC : Attended acts id tr cfg i c (.inr op)) (hallows : (acts i).Allows (.inr op))
    (hperm : (acts i).closes = true →
      (ending id tr i).PermitsServer ((acts i).final id) id (.inr op))
    (hbefore : cfg.state.store.terminal id = false)
    (hafter : (exec c.env op cfg.state.store).2.terminal id = true)
    (hopen : cfg.state.hub.OpenFor id) :
    ∃ j, Owes acts id (tr ++ [(i, ⟨.inr op, (exec c.env op cfg.state.store).1⟩)]) j := by
  obtain ⟨hfail, hended⟩ := written_of_ended hbefore hafter
  by_cases hcloses : (acts i).closes = true
  · have hperm : (ending id tr i).Permits ((acts i).final id) id op := hperm hcloses
    rcases hended with ⟨state, hw, -⟩ | ⟨t, rfl, -⟩
    · refine ⟨i, .snoc_self hcloses ?_⟩
      show ((ending id tr i).follow id ⟨op, _⟩).due = true
      rw [Ending.follow_of_written hw hfail]
    · exact hperm.elim
  · have hopens : op.Opens := by
      cases hact : acts i with
      | stream rounds r =>
        rw [hact] at hallows
        exact hallows.elim
      | call request =>
        rw [hact] at hallows hcloses
        cases request with
        | createTransfer req => exact hallows
        | cancelTransfer id' => exact absurd rfl hcloses
        | handleProgress report => exact absurd rfl hcloses
    rcases hended with ⟨state, hw, hterm⟩ | ⟨t, rfl, hterm⟩
    · obtain ⟨errorMessage, rfl⟩ := hopens.failed hw hterm
      exact hC.owes ⟨rfl, by simpa using hcloses, by rw [hfail]; rfl, hopen⟩ _
    · have hpending : t.state.isTerminal = false := hopens
      rw [hpending] at hterm
      cases hterm

/-- A step of a call. -/
theorem Covered.step_call {c : ServerEnv} {op : Call} (h : Covered acts id tr cfg.state)
    (hC : Attended acts id tr cfg i c (.inr op)) (hallows : (acts i).Allows (.inr op))
    (hperm : (acts i).closes = true →
      (ending id tr i).PermitsServer ((acts i).final id) id (.inr op)) :
    Covered acts id (tr ++ [(i, ⟨.inr op, (exec c.env op cfg.state.store).1⟩)])
      ⟨(exec c.env op cfg.state.store).2, cfg.state.hub.after op.hubOps⟩ := by
  obtain ⟨boxes, hw, howed⟩ := h
  refine ⟨advanceAll op.hubOps boxes, hw.after _, fun hterm hopen => ?_⟩
  obtain ⟨hbefore, hclose⟩ := hopen.of_call
  have hopen := (hw.openFor_iff id).mpr hbefore
  -- the transfer had ended before the step, or ends with it
  cases hended : cfg.state.store.terminal id with
  | true =>
    obtain ⟨j, hj⟩ := howed hended hbefore
    exact hj.step_call hC hended hopen hclose
  | false => exact hC.owes_of_ended hallows hperm hended hterm hopen

/-- A call owes a close only for a transfer that it can end. -/
theorem final_of_due {final : TransferState → Prop} {evs : List ServerEv} {m : Ending}
    (hperm : Permitted (Ending.watch id) (Ending.PermitsServer final id) m evs)
    (hm : m.due = true → ∃ state, final state)
    (hdue : (evs.foldl (Ending.watch id) m).due = true) : ∃ state, final state := by
  induction evs generalizing m with
  | nil => exact hm hdue
  | cons ev evs ih =>
    refine ih hperm.2 (fun hdue' => ?_) hdue
    obtain ⟨op | op, r⟩ := ev
    · exact hm hdue'
    · rcases Ending.due_of_follow hdue' with hold | ⟨state, hw⟩
      · exact hm hold
      · exact ⟨state, (Ending.Permits.of_written hperm.1 hw).2.1⟩

theorem Activity.concerns_of_final {a : Activity} {state : TransferState} (h : a.final id state)
    (evs : List ServerEv) : a.Concerns id evs := by
  cases a with
  | stream rounds r => exact h.elim
  | call request =>
    cases request with
    | createTransfer req => exact h.elim
    | cancelTransfer id' => exact h.1
    | handleProgress report => exact h.1

/-! ## Every run -/

variable [UUIDText] {o : Orchestrator} {s₀ : Store}

theorem ending_prog {a : Activity} (hcloses : a.closes = true) (id : UUID) :
    Prog.Obeys (Ending.watch id) (Ending.PermitsServer (a.final id) id) (fun _ m => m.due = false)
      {} (a.prog o) := by
  have hhub : o.withProgressHub.progressHub = true := rfl
  cases a with
  | stream rounds r => cases hcloses
  | call request =>
    refine Prog.Obeys.inr ?_
    cases request with
    | createTransfer req => cases hcloses
    | cancelTransfer id' =>
      exact .bind (.bind ((Orchestrator.ending_cancelTransfer hhub id id').mono fun _ _ h => h))
    | handleProgress report =>
      exact .bind (.bind ((Orchestrator.ending_handleProgress hhub id report).mono fun _ _ h => h))

theorem all_prog (a : Activity) : (a.prog o).All a.Allows := by
  cases a with
  | stream rounds r => exact Prog.all_inl (Prog.all_of_forall (fun _ => trivial) _)
  | call request =>
    refine Prog.all_inr ?_
    cases request with
    | createTransfer req =>
      have hcreate := o.withProgressHub.opens_createTransfer req
      exact (hcreate.bind fun a => Prog.all_pure (Response.created a)).bind fun _ => trivial
    | cancelTransfer id' => exact Prog.all_of_forall (fun _ => trivial) _
    | handleProgress report => exact Prog.all_of_forall (fun _ => trivial) _

/-- What is said of a call that closes, in a run: it has done what it is permitted,
    goes on to do that, and owes nothing once it has returned. -/
theorem ending_of_run (id : UUID) {ok : ι → ServerEnv → ServerCall → Backend → Prop}
    (hcloses : (acts i).closes = true) (hrun : Run execServer ok (o.serving acts s₀) tr cfg) :
    Permitted (Ending.watch id) (Ending.PermitsServer ((acts i).final id) id) {} (tr.local i) ∧
    Prog.Obeys (Ending.watch id) (Ending.PermitsServer ((acts i).final id) id)
      (fun _ m => m.due = false) (ending id tr i) (cfg.procs i) :=
  hrun.obeys_local i (ending_prog hcloses id)

/-- A call that owes a close is in flight. -/
theorem inFlight_of_owes {ok : ι → ServerEnv → ServerCall → Backend → Prop}
    (hrun : Run execServer ok (o.serving acts s₀) tr cfg) (howes : Owes acts id tr i) :
    InFlight acts id tr cfg i := by
  -- it has begun, since it owes something, and has not returned, since it still does
  obtain ⟨hcloses, hdue⟩ := howes
  obtain ⟨hpast, hrest⟩ := ending_of_run id hcloses hrun
  obtain ⟨state, hfinal⟩ := final_of_due hpast nofun hdue
  refine ⟨Activity.concerns_of_final hfinal _, fun hnil => ?_, ?_⟩
  · rw [ending, hnil] at hdue
    cases hdue
  · cases hproc : cfg.procs i with
    | call op k => rfl
    | pure a =>
      rw [hproc] at hrest
      have hnone : (ending id tr i).due = false := hrest
      rw [hnone] at hdue
      cases hdue

/-- Where every step is attended to, every subscriber is covered. -/
theorem covered_of_run {ok : ι → ServerEnv → ServerCall → Backend → Prop}
    (hrun : RunUnder execServer ok (Attended acts id) (o.serving acts s₀) tr cfg) :
    Covered acts id tr cfg.state := by
  have hinit : Covered acts id [] (o.serving acts s₀).state := by
    refine ⟨[], refines_start, fun _ hopen => ?_⟩
    obtain ⟨b, hb, -⟩ := hopen
    cases hb
  refine hrun.invariant (I := fun tr cfg => Covered acts id tr cfg.state) hinit ?_
  rintro tr cfg i c (call | op) k hpast h hnext - hC
  · exact h.step_stream hC
  · have hallows := (hpast.all fun i => all_prog (acts i)).2 i
    rw [hnext] at hallows
    refine h.step_call hC hallows.1 fun hcloses => ?_
    have hobeys := (ending_of_run id hcloses hpast).2
    rw [hnext] at hobeys
    exact hobeys.1

/-- Any number of handlers and calls, in any order of their steps: the streams of a
    transfer end, as long as no step leaves a subscriber behind that no other call
    still closes. -/
theorem streamsEnd_of_attended
    (hrun : RunUnder execServer (fun _ => Wakes) (Attended acts id) (o.serving acts s₀) tr cfg) :
    StreamsEnd acts id tr cfg := by
  intro hidle hterm hopen
  obtain ⟨boxes, hw, howed⟩ := covered_of_run hrun
  obtain ⟨j, hj⟩ := howed hterm ((hw.openFor_iff id).mp hopen)
  exact hidle j (inFlight_of_owes hrun.run hj)

end

/-! ## A sample stream -/

/-- `n` steps of one of them in a row, nothing fails, and channels come first. -/
def serverMoves {κ : Type} (i : κ) (fresh n : Nat) : List (κ × ServerEnv) :=
  (moves i fresh n).map fun step => (step.1, { env := step.2 })

/-- A request for the stream of the transfer 7. -/
def streamRequest : HttpRequest where
  target := ⟨"GET", ["api", "v1alpha1", "transfers", canonicalString 7, "progress"], true⟩
  pathValues := [("id", canonicalString 7)]

/-- The creation of a transfer, a stream of it, and the report that completes it. -/
def completedStream : Fin 3 → Activity
  | 0 => .call (.createTransfer sampleRequest)
  | 1 => .stream 3 streamRequest
  | 2 => .call (.handleProgress completedReport)

def servingCompleted : ServerConfig (Fin 3) :=
  @Orchestrator.serving canonicalText (Fin 3) plainOrchestrator completedStream .empty

/-- The stream subscribes before the report comes, is told of it, and ends. -/
theorem streamsEnd_subscribed :
    ∃ tr cfg, RunUnder execServer (fun _ => Wakes) (Attended completedStream 7) servingCompleted
        tr cfg ∧
      cfg.state.store.stateOf 7 = some .completed ∧ cfg.state.hub.handles.length = 1 ∧
      (cfg.procs 1).result?.isSome = true ∧ StreamsEnd completedStream 7 tr cfg := by
  let sched : List (Fin 3 × ServerEnv) :=
    serverMoves 0 7 21 ++ serverMoves 1 100 3 ++ serverMoves 2 200 15 ++ serverMoves 1 300 4
  have hend : (Config.followUnder execServer (fun _ => Wakes) (Attended completedStream 7) []
      servingCompleted sched).any fun out =>
      out.2.state.store.stateOf 7 = some .completed ∧ out.2.state.hub.handles.length = 1 ∧
      (out.2.procs 1).result?.isSome = true := by decide +kernel
  obtain ⟨⟨tr, cfg⟩, hfollow, hout⟩ := (Option.any_eq_true _ _).mp hend
  obtain ⟨hstate, hhandles, hended⟩ := of_decide_eq_true hout
  have hrun := RunUnder.of_followUnder .init hfollow
  exact ⟨tr, cfg, hrun, hstate, hhandles, hended, @streamsEnd_of_attended (Fin 3) _ completedStream 7 tr cfg
    canonicalText plainOrchestrator .empty hrun⟩

/-- The stream has read the row, the report completes the transfer and closes its
    subscribers, and then the stream subscribes. -/
theorem not_streamsEnd_late :
    ¬ ∀ (acts : Fin 3 → Activity) (s₀ : Store) (id : UUID) (tr : ServerTrace (Fin 3))
        (cfg : ServerConfig (Fin 3)),
      Run execServer (fun _ => Wakes)
        (@Orchestrator.serving canonicalText (Fin 3) plainOrchestrator acts s₀) tr cfg →
      StreamsEnd acts id tr cfg := by
  intro hall
  let sched : List (Fin 3 × ServerEnv) :=
    serverMoves 0 7 21 ++ serverMoves 1 100 1 ++ serverMoves 2 200 15 ++ serverMoves 1 300 2
  have hend : (servingCompleted.follow execServer (fun _ => Wakes) sched).any fun out =>
      (out.2.procs 0).result?.isSome = true ∧ (out.2.procs 2).result?.isSome = true ∧
      out.2.state.store.terminal 7 = true ∧ out.2.state.hub.OpenFor 7 := by decide +kernel
  obtain ⟨⟨tr, cfg⟩, hfollow, hout⟩ := (Option.any_eq_true _ _).mp hend
  obtain ⟨hcreated, hreported, hterm, hopen⟩ := of_decide_eq_true hout
  refine hall completedStream .empty 7 tr cfg (.of_follow hfollow) (fun i hflight => ?_) hterm hopen
  obtain ⟨hconcerns, -, hnone⟩ := hflight
  match i with
  | 0 =>
    rw [hnone] at hcreated
    cases hcreated
  | 1 => exact hconcerns
  | 2 =>
    rw [hnone] at hreported
    cases hreported

end Katapult
