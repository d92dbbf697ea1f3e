/-
  Katapult.Transfer.Resends

  A retry that is recorded against the commands that were sent.

  A failed report with a retry left raises the counter and records an event;
  the delay that has been computed is logged, and the command is not sent
  again.  So both agents have been sent what the timeline says exactly when no
  retry was granted.
-/

import Katapult.Transfer.Timeline

namespace Katapult

open Effect

/-- A call of the commander. -/
def Call.isCommand : Call → Bool
  | .sendTransferCommand .. | .sendCancelCommand .. => true
  | _ => false

/-- Neither the repository nor an agent fails. -/
def Undisturbed (env : Env) (op : Call) (s : Store) : Prop :=
  Unfailed env op s ∧ (op.isCommand = true → env.fail = none)

/-- The transfer that a request names. -/
def Request.target : Request → Option UUID
  | .createTransfer _ => none
  | .cancelTransfer id => some id
  | .handleProgress report => some report.transferID

/-- The request grants a retry to the transfer `id`, if it finds the store `s`. -/
def Request.GrantsTo (o : Orchestrator) (id : UUID) (s : Store) (request : Request) : Prop :=
  request.target = some id ∧ request.Grants o (s.row id)

section

variable [UUIDText]

/-- The transfer commands that were sent for a transfer to a cluster. -/
def commandsTo (id : UUID) (cluster : String) (h : List CallEv) : Nat :=
  h.countP fun ev => ev.1 = .sendTransferCommand cluster id.text

/-- Every recorded retry was performed, or the transfer has been cancelled: each
    cluster was sent one command for each of its roles, and one more for each retry. -/
def Performed (id : UUID) (h : List CallEv) (s : Store) (t : Transfer) : Prop :=
  t.state = .cancelled ∨ ∀ cluster ∈ [t.sourceCluster, t.destinationCluster],
    commandsTo id cluster h =
      (1 + s.retried id) * [t.sourceCluster, t.destinationCluster].count cluster

theorem commandsTo_eq (id : UUID) (cluster : String) (h : List CallEv) (s : Store) :
    commandsTo id cluster h = (account id h s).commands.countP fun c => c.1 = cluster := by
  have hentry : ∀ ev : CallEv, decide (ev.1 = .sendTransferCommand cluster id.text) =
      ((commandOf id ev).map fun c => decide (c.1 = cluster)).getD false := by
    rintro ⟨op, r⟩
    cases op with
    | sendTransferCommand agentID transferID =>
      by_cases hid : transferID = id.text
      · rcases r with err | _ <;> simp [commandOf, hid]
      · rcases r with err | _ <;> simp [commandOf, hid]
    | _ => simp [commandOf]
  rw [account, List.countP_filterMap]
  exact List.countP_congr fun ev _ => by rw [hentry]

end

/-! ## Commands -/

/-- A transfer that was started has been commanded once, or an agent has refused. -/
structure Account.Commanded (m : Account) : Prop where
  absent : m.row = none → m.commands = []
  unstarted : ∀ t, m.row = some t → t.startedAt = none → m.commands = []
  started : ∀ t, m.row = some t → t.startedAt.isSome = true →
    m.commands = [(t.sourceCluster, true), (t.destinationCluster, true)] ∨
    ∃ c ∈ m.commands, c.2 = false

section

variable {timed : Bool} {o : Orchestrator} {id : UUID} {request : Request} {m m' : Account}
variable {j j' : Journal}

/-- A cancellation or a report sends no command, and leaves alone what commands depend on. -/
theorem Entry.commands (h : Entry timed o request m j j' m') :
    m'.commands = m.commands ∧ (m'.row = none → m.row = none) ∧
    ∀ t', m'.row = some t' → ∃ t, m.row = some t ∧ t'.startedAt = t.startedAt ∧
      t'.sourceCluster = t.sourceCluster ∧ t'.destinationCluster = t.destinationCluster := by
  cases h with
  | kept result =>
    rw [result]
    exact ⟨rfl, id, fun t ht => ⟨t, ht, rfl, rfl, rfl⟩⟩
  | noted before recounted result =>
    obtain ⟨_, _, _, _, rfl⟩ := recounted
    rw [result]
    refine ⟨rfl, nofun, ?_⟩
    rintro t' ⟨⟩
    exact ⟨_, before, rfl, rfl, rfl⟩
  | retried before recounted result =>
    obtain ⟨_, _, _, _, rfl⟩ := recounted
    rw [result]
    refine ⟨rfl, nofun, ?_⟩
    rintro t' ⟨⟩
    exact ⟨_, before, rfl, rfl, rfl⟩
  | ended before recounted edge final message since quiet result =>
    obtain ⟨_, _, _, _, rfl⟩ := recounted
    rw [result]
    refine ⟨rfl, nofun, ?_⟩
    rintro t' ⟨⟩
    exact ⟨_, before, rfl, rfl, rfl⟩

namespace Account.Commanded

theorem init : Account.Commanded {} where
  absent _ := rfl
  unstarted t ht := by cases ht
  started t ht := by cases ht

theorem of_entry (h : m.Commanded) (hentry : Entry timed o request m j j' m') : m'.Commanded := by
  obtain ⟨hcommands, hnone, hsome⟩ := hentry.commands
  refine ⟨fun habsent => ?_, fun t' ht' hstarted => ?_, fun t' ht' hstarted => ?_⟩
  · rw [hcommands]
    exact h.absent (hnone habsent)
  · obtain ⟨t, ht, hsame, -, -⟩ := hsome t' ht'
    rw [hcommands]
    exact h.unstarted t ht (hsame.symm.trans hstarted)
  · obtain ⟨t, ht, hsame, hsource, hdestination⟩ := hsome t' ht'
    rw [hcommands, hsource, hdestination]
    exact h.started t ht (hsame ▸ hstarted)

theorem of_unstarted {t : Transfer} (hrow : m.row = some t) (hstarted : t.startedAt = none)
    (hcommands : m.commands = []) : m.Commanded := by
  refine ⟨fun _ => hcommands, fun _ _ _ => hcommands, fun t' ht' hstarted' => ?_⟩
  rw [hrow] at ht'
  cases ht'
  rw [hstarted] at hstarted'
  cases hstarted'

theorem of_started {t : Transfer} (hrow : m.row = some t) (hstarted : t.startedAt.isSome = true)
    (hcommands : m.commands = [(t.sourceCluster, true), (t.destinationCluster, true)] ∨
      ∃ c ∈ m.commands, c.2 = false) : m.Commanded := by
  refine ⟨fun hnone => ?_, fun t' ht' hnot => ?_, fun t' ht' _ => ?_⟩
  · rw [hrow] at hnone
    cases hnone
  · rw [hrow] at ht'
    cases ht'
    rw [hnot] at hstarted
    cases hstarted
  · rw [hrow] at ht'
    cases ht'
    exact hcommands

theorem of_opening {req : CreateTransferRequest} (h : m.Commanded)
    (hopening : Opening timed o req id m j' m') : m'.Commanded := by
  cases hopening with
  | invalid fresh message times result =>
    rw [result]
    exact of_unstarted rfl rfl (h.absent fresh)
  | unplanned fresh distinct unplanned message times result =>
    rw [result]
    exact of_unstarted rfl rfl (h.absent fresh)
  | refused fresh message planned times refused result =>
    obtain ⟨c, hc, hrefused⟩ := refused
    rw [result]
    exact of_started rfl rfl (.inr ⟨c, List.mem_append_right _ hc, hrefused⟩)
  | started fresh planned times result =>
    rw [result, h.absent fresh]
    exact of_started rfl rfl (.inl rfl)

theorem of_booked (h : m.Commanded) (hbooked : Booked timed o id m j j' m' request) :
    m'.Commanded := by
  cases hbooked with
  | opened req hopening => exact h.of_opening hopening
  | cancelled hentry => exact h.of_entry hentry
  | handled _ hentry => exact h.of_entry hentry

end Account.Commanded

/-! ## Retries -/

/-- A retried event is recorded exactly for a retry that is granted. -/
theorem Entry.retried_eq_zero (h : Entry timed o request m j j' m') :
    m'.timeline.count .retried = 0 ↔
      m.timeline.count .retried = 0 ∧ ¬ request.Grants o m.row := by
  cases h with
  | kept result refused =>
    rw [result]
    exact (and_iff_left refused).symm
  | noted before recounted result refused =>
    rw [result, List.count_append]
    exact (and_iff_left refused).symm
  | retried before recounted result granted =>
    rw [result, List.count_append]
    refine iff_of_false ?_ fun hnone => hnone.2 granted
    exact Nat.ne_of_gt (Nat.lt_add_left _ Nat.one_pos)
  | @ended t t' target now errorMessage events before recounted edge final message since quiet result
      refused =>
    have hevents : events.count .retried = 0 := by
      rcases quiet with rfl | rfl <;> rfl
    have hending : target.endings.count .retried = 0 :=
      List.count_eq_zero_of_not_mem (target.not_mem_endings .retried rfl)
    rw [result, List.count_append, List.count_append, hevents, hending]
    exact (and_iff_left refused).symm

theorem Opening.retried_eq_zero {req : CreateTransferRequest} (h : Opening timed o req id m j' m') :
    m'.timeline.count .retried = m.timeline.count .retried := by
  cases h with
  | invalid fresh message times result => rw [result, List.count_append]; rfl
  | unplanned fresh distinct unplanned message times result => rw [result, List.count_append]; rfl
  | refused fresh message planned times refused result => rw [result, List.count_append]; rfl
  | started fresh planned times result => rw [result, List.count_append]; rfl

end

/-! ## Runs -/

section

variable [UUIDText]

/-- All commands so far were accepted. -/
def AllAccepted (h : List CallEv) : Prop :=
  ∀ id, ∀ c ∈ h.filterMap (commandOf id), c.2 = true

theorem AllAccepted.exec {env : Env} {op : Call} {s : Store} {h : List CallEv} (hall : AllAccepted h)
    (hok : Undisturbed env op s) : AllAccepted (h ++ [⟨op, (exec env op s).1⟩]) := by
  intro id c hc
  rw [List.filterMap_append] at hc
  rcases List.mem_append.mp hc with hold | hnew
  · exact hall id c hold
  · cases op with
    | sendTransferCommand agentID transferID =>
      have hfail : env.fail = none := hok.2 rfl
      simp only [Katapult.exec, Env.answer, hfail, commandOf, List.filterMap_cons,
        List.filterMap_nil] at hnew
      split at hnew
      · cases hnew
      · rename_i hcommand
        split at hcommand
        · cases hcommand
          rw [List.mem_singleton.mp hnew]
        · cases hcommand
    | _ => cases hnew

/-- What is known of every transfer between two requests. -/
structure Ledger (o : Orchestrator) (steps : List (Request × Store)) (h : List CallEv) (s : Store) : Prop where
  commanded : ∀ id, (account id h s).Commanded
  retried : ∀ id, s.retried id = 0 ↔ ∀ step ∈ steps, ¬ step.1.GrantsTo o id step.2
  accepted : AllAccepted h

theorem Ledger.retried_serve {o : Orchestrator} {steps : List (Request × Store)} {h h' : List CallEv}
    {s s' : Store} (hledger : Ledger o steps h s) {request : Request} {id₀ : UUID} {j j' : Journal}
    (hbooked : Booked false o id₀ (account id₀ h s) j j' (account id₀ h' s') request)
    (hothers : ∀ id, id ≠ id₀ → account id h' s' = account id h s) (id : UUID) :
    s'.retried id = 0 ↔ ∀ step ∈ steps ++ [(request, s)], ¬ step.1.GrantsTo o id step.2 := by
  have hstep : s'.retried id = 0 ↔ s.retried id = 0 ∧ ¬ request.GrantsTo o id s := by
    by_cases hid : id = id₀
    · subst hid
      cases hbooked with
      | opened req hopening =>
        -- a creation names no transfer, and records no retry
        have hcount : s'.retried id = s.retried id := hopening.retried_eq_zero
        rw [hcount]
        exact (and_iff_left fun hgrants => nomatch hgrants.1).symm
      | cancelled hentry =>
        refine hentry.retried_eq_zero.trans (and_congr_right fun _ => not_congr ?_)
        exact (and_iff_right rfl).symm
      | handled hreport hentry =>
        refine hentry.retried_eq_zero.trans (and_congr_right fun _ => not_congr ?_)
        exact (and_iff_right (congrArg some hreport)).symm
    · have hcount : s'.retried id = s.retried id :=
        congrArg (fun m : Account => m.timeline.count EventType.retried) (hothers id hid)
      have htarget : request.target ≠ some id := by
        cases hbooked with
        | opened req hopening => exact nofun
        | cancelled hentry => exact fun hsame => hid (Option.some.inj hsame).symm
        | handled hreport hentry =>
          exact fun hsame => hid ((Option.some.inj hsame).symm.trans hreport)
      rw [hcount]
      exact (and_iff_left fun hgrants => htarget hgrants.1).symm
  rw [hstep, hledger.retried id]
  simp [or_imp, forall_and]

theorem Orchestrator.ledger_serve (o : Orchestrator) (request : Request)
    {steps : List (Request × Store)} {h : List CallEv} {s : Store} (hledger : Ledger o steps h s) :
    Prog.wp exec Undisturbed (o.serve request)
      (fun _ h' s' => Ledger o (steps ++ [(request, s)]) h' s') h s := by
  have hbooked : Prog.wp exec Undisturbed (o.serve request) _ h s :=
    Prog.wp_anti (o.wp_booked request h s) fun _ _ _ hok => hok.1
  have haccepted : Prog.wp exec Undisturbed (o.serve request) (fun _ h' _ => AllAccepted h') h s :=
    Prog.wp_of_invariant (I := fun h _ => AllAccepted h) _
      (fun _ _ _ _ hok hall => hall.exec hok) hledger.accepted
  refine Prog.wp_mono (Prog.wp_and hbooked haccepted) ?_
  rintro a h' s' ⟨⟨id₀, j, j', hbooked, hothers⟩, hall⟩
  refine ⟨fun id => ?_, hledger.retried_serve hbooked hothers, hall⟩
  by_cases hid : id = id₀
  · subst hid
    exact (hledger.commanded id).of_booked hbooked
  · rw [hothers id hid]
    exact hledger.commanded id

theorem Ledger.of_run (o : Orchestrator) {steps : List (Request × Store)} {h : List CallEv}
    {s : Store} (hrun : Prog.SeqRun exec Undisturbed o.serve .empty steps h s) : Ledger o steps h s := by
  refine Prog.SeqRun.invariant (I := Ledger o) ⟨fun id => ?_, fun id => ?_, ?_⟩ ?_ hrun
  · rw [account_empty]
    exact .init
  · exact iff_of_true rfl (by simp)
  · intro id c hc
    cases hc
  · exact fun request steps h s hledger => o.ledger_serve request hledger

/-- A transfer that was started has been commanded once, if no agent has refused. -/
theorem Ledger.commands_of_started {o : Orchestrator} {steps : List (Request × Store)} {h : List CallEv} {s : Store}
    (hledger : Ledger o steps h s) {id : UUID} {t : Transfer} (ht : s.row id = some t)
    (hstarted : t.startedAt.isSome = true) (cluster : String) :
    commandsTo id cluster h = [t.sourceCluster, t.destinationCluster].count cluster := by
  have hcommands : (account id h s).commands =
      [(t.sourceCluster, true), (t.destinationCluster, true)] := by
    rcases (hledger.commanded id).started t ht hstarted with hboth | ⟨c, hc, hrefused⟩
    · exact hboth
    · rw [hledger.accepted id c hc] at hrefused
      cases hrefused
  rw [commandsTo_eq id cluster h s, hcommands]
  simp [List.count_eq_countP, List.countP_cons]

/-- Between any two requests of every sequential run in which neither the
    repository nor an agent fails, and for every transfer: what was recorded was
    performed exactly when the transfer is cancelled, or was started and no
    request has granted it a retry. -/
theorem performed_iff (o : Orchestrator) {steps : List (Request × Store)} {h : List CallEv} {s : Store}
    (hrun : Prog.SeqRun exec Undisturbed o.serve .empty steps h s) {id : UUID} {t : Transfer}
    (ht : s.row id = some t) :
    Performed id h s t ↔ t.state = .cancelled ∨
      t.startedAt.isSome = true ∧ ∀ step ∈ steps, ¬ step.1.GrantsTo o id step.2 := by
  have hledger := Ledger.of_run o hrun
  refine or_congr_right ?_
  rw [← hledger.retried id]
  constructor
  · intro hperformed
    have hsource := hperformed t.sourceCluster (List.mem_cons_self ..)
    have hrole : 0 < [t.sourceCluster, t.destinationCluster].count t.sourceCluster :=
      List.count_pos_iff.mpr (List.mem_cons_self ..)
    cases hstarted : t.startedAt with
    | none =>
      -- nothing was sent, although a role calls for a command
      have hcommands := (hledger.commanded id).unstarted t ht hstarted
      rw [commandsTo_eq id _ h s, hcommands, List.countP_nil] at hsource
      have hdue := Nat.mul_pos (Nat.lt_add_right (s.retried id) Nat.one_pos) hrole
      rw [← hsource] at hdue
      exact absurd hdue (Nat.lt_irrefl 0)
    | some started =>
      have hsent := hledger.commands_of_started ht (hstarted ▸ rfl) t.sourceCluster
      rw [hsent] at hsource
      have hone : 1 = 1 + s.retried id :=
        Nat.eq_of_mul_eq_mul_right hrole ((Nat.one_mul _).trans hsource)
      exact ⟨rfl, by omega⟩
  · rintro ⟨hstarted, hnone⟩ cluster -
    rw [hledger.commands_of_started ht hstarted cluster, hnone, Nat.add_zero, Nat.one_mul]

end

/-! ## Sample runs -/

instance (env : Env) (op : Call) (s : Store) : Decidable (Undisturbed env op s) :=
  inferInstanceAs (Decidable (_ ∧ _))

/-- The history and the store at the end of a sample run. -/
def undisturbedEnd (runs : List (Request × List Env)) : Option (List CallEv × Store) :=
  Prog.evalAll exec Undisturbed (@Orchestrator.serve canonicalText plainOrchestrator) .empty runs

/-- A failed report on the transfer that the sample creation inserts. -/
def failedReport : ProgressReport where
  transferID := 7
  status := "failed"
  errorMessage := "connection reset"

/-- A creation, then a failed report with three retries left. -/
def createThenFail : List (Request × List Env) :=
  [(.createTransfer sampleRequest, calls 7 21), (.handleProgress failedReport, calls 100 10)]

theorem performed_iff_sampleRequest :
    ∃ (steps : List (Request × Store)) (h : List CallEv) (s : Store) (t : Transfer),
      Prog.SeqRun exec Undisturbed (@Orchestrator.serve canonicalText plainOrchestrator) .empty
        steps h s ∧
      s.row 7 = some t ∧ t.state = .transferring ∧ @commandsTo canonicalText 7 "west" h = 1 ∧
      (@Performed canonicalText 7 h s t ↔ t.state = .cancelled ∨
        t.startedAt.isSome = true ∧ ∀ step ∈ steps, ¬ step.1.GrantsTo plainOrchestrator 7 step.2) := by
  have hend : (undisturbedEnd [(.createTransfer sampleRequest, calls 7 21)]).any fun out =>
      out.2.stateOf 7 = some .transferring ∧ @commandsTo canonicalText 7 "west" out.1 = 1 := by
    decide +kernel
  obtain ⟨⟨h, s⟩, hruns, hout⟩ := (Option.any_eq_true _ _).mp hend
  obtain ⟨hstate, hcommands⟩ := of_decide_eq_true hout
  obtain ⟨t, ht, htransferring⟩ := Option.map_eq_some_iff.mp hstate
  obtain ⟨steps, -, hrun⟩ := Prog.SeqRun.init.of_evalAll hruns
  exact ⟨steps, h, s, t, hrun, ht, htransferring, hcommands,
    @performed_iff canonicalText plainOrchestrator steps h s hrun 7 t ht⟩

/-- The failed report is granted a retry, which is counted and recorded; no
    command is sent, neither then nor later. -/
theorem not_performed_createThenFail :
    ¬ ∀ (steps : List (Request × Store)) (h : List CallEv) (s : Store),
      Prog.SeqRun exec Undisturbed (@Orchestrator.serve canonicalText plainOrchestrator) .empty
        steps h s →
      ∀ id t, s.row id = some t → @Performed canonicalText id h s t := by
  intro hall
  have hend : (undisturbedEnd createThenFail).any fun out =>
      (out.2.row 7).any (fun t => t.state = .transferring ∧ t.sourceCluster = "east" ∧
        t.destinationCluster = "west" ∧ t.retryCount = 1) ∧
      out.2.retried 7 = 1 ∧ @commandsTo canonicalText 7 "east" out.1 = 1 := by decide +kernel
  obtain ⟨⟨h, s⟩, hruns, hout⟩ := (Option.any_eq_true _ _).mp hend
  obtain ⟨hrow, hretried, hcommands⟩ := of_decide_eq_true hout
  obtain ⟨t, ht, hcolumns⟩ := (Option.any_eq_true _ _).mp hrow
  obtain ⟨hstate, hsource, hdestination, -⟩ := of_decide_eq_true hcolumns
  obtain ⟨steps, -, hrun⟩ := Prog.SeqRun.init.of_evalAll hruns
  rcases hall steps h s hrun 7 t ht with hcancelled | hperformed
  · rw [hstate] at hcancelled
    cases hcancelled
  · have heast := hperformed "east" (by simp [hsource])
    rw [hcommands, hretried, hsource, hdestination] at heast
    revert heast
    decide

end Katapult
