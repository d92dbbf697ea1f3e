/-
  Katapult.Transfer.BestEffort

  Best-effort steps cannot influence the transfer.

  Cancel commands, the revocation of credentials, the deletion of staged
  objects and the audit events may fail at will: the engine ignores what they
  answer, and they leave the transfers table alone.  So two runs of a request
  that differ in these failures only make the same calls, and show the same
  effects on the transfer.
-/

import Katapult.Effect.TwoRuns
import Katapult.Transfer.Faults
import Katapult.Transfer.Resends

namespace Katapult

open Effect

/-! ## Ignored answers -/

/-- A step whose failure is only logged. -/
def Call.bestEffort : Call → Bool
  | .sendCancelCommand .. | .revokeCredentials _ | .deleteTransferObjects _
  | .repo (.createTransferEvent _) => true
  | _ => false

/-- What a program must do to be independent of its best-effort steps. -/
abbrev Careless {α : Type} (p : Engine α) : Prop := p.Ignores fun op => op.bestEffort = true

theorem careless_of_ambient {α : Type} {p : Engine α} (hp : p.All Call.Ambient) : Careless p := by
  refine Prog.ignores_of_all (hp.mono fun op hop => ?_)
  cases op <;> first | exact hop.elim | exact Bool.false_ne_true

/-- A statement on the transfers table, and what follows on each answer. -/
theorem careless_statement {α : Type} {op : Call} {f : op.Ans → Engine α}
    (hop : op.bestEffort = false) (hf : ∀ r, Careless (f r)) :
    Careless (Prog.perform op >>= f) :=
  Prog.ignores_perform (by rw [hop]; exact Bool.false_ne_true) hf

theorem careless_createEvent (transferID : UUID) (eventType : EventType) (message : String)
    (metadata : Option (List (String × String))) :
    Careless (createEvent transferID eventType message metadata) := by
  refine Prog.ignores_perform Bool.false_ne_true fun id => ?_
  refine Prog.ignores_perform Bool.false_ne_true fun now => ?_
  exact Prog.ignores_skip trivial

theorem careless_failTransfer (transferID : UUID) (errorMessage eventMessage : String) :
    Careless (failTransfer transferID errorMessage eventMessage) :=
  Prog.ignores_perform Bool.false_ne_true fun _ => careless_createEvent _ _ _ _

theorem Orchestrator.careless_publish (o : Orchestrator) (id : UUID) (progress : EnrichedProgress) :
    Careless (o.publish id progress) := careless_of_ambient (o.all_publish id progress)

theorem Orchestrator.careless_closeTransfer (o : Orchestrator) (id : UUID) : Careless (o.closeTransfer id) :=
  careless_of_ambient (o.all_closeTransfer id)

theorem Orchestrator.careless_onTransferStateChange (o : Orchestrator) (fromState toState strategy : String) :
    Careless (o.onTransferStateChange fromState toState strategy) :=
  careless_of_ambient (o.all_onTransferStateChange fromState toState strategy)

section

variable [UUIDText]

theorem careless_executeCleanup (transfer : Transfer) : Careless (executeCleanup transfer) := by
  refine Prog.ignores_skip (Prog.ignores_skip (Prog.ignores_skip ?_))
  exact .ite (Prog.ignores_skip trivial) trivial

namespace Orchestrator

variable (o : Orchestrator)

theorem careless_commandAgents (req : CreateTransferRequest) (id : UUID) :
    Careless (commandAgents req id) := by
  unfold commandAgents
  refine careless_statement rfl fun src => ?_
  rcases src with err | _
  · exact (careless_failTransfer _ _ _).bind fun _ => trivial
  refine careless_statement rfl fun dest => ?_
  rcases dest with err | _
  · exact (careless_failTransfer _ _ _).bind fun _ => trivial
  · trivial

theorem careless_startTransfer (req : CreateTransferRequest) (transfer : Transfer) :
    Careless (o.startTransfer req transfer) := by
  unfold startTransfer
  split
  -- the strategy is refused: the transfer is failed, and nothing is recorded
  · exact careless_statement rfl fun _ => trivial
  refine careless_statement rfl fun persisted => ?_
  rcases persisted with err | _
  · trivial
  dsimp only
  split
  · trivial
  refine careless_statement rfl fun written => ?_
  rcases written with err | _
  · trivial
  refine careless_statement rfl fun started => ?_
  rcases started with err | _
  · trivial
  exact (careless_createEvent _ _ _ _).bind fun _ => careless_commandAgents _ _

theorem careless_createTransfer (req : CreateTransferRequest) : Careless (o.createTransfer req) := by
  unfold createTransfer
  refine careless_statement rfl fun id => careless_statement rfl fun now => ?_
  unfold admitTransfer
  refine careless_statement rfl fun inserted => ?_
  rcases inserted with err | _
  · trivial
  refine (careless_createEvent _ _ _ _).bind fun _ => ?_
  split
  · trivial
  refine careless_statement rfl fun validating => ?_
  rcases validating with err | _
  · trivial
  refine (careless_of_ambient (all_validateTransferRequest _)).bind fun valid => ?_
  rcases valid with err | _
  · exact (careless_failTransfer _ _ _).bind fun _ => trivial
  exact (careless_createEvent _ _ _ _).bind fun _ => o.careless_startTransfer _ _

theorem careless_cancelTransfer (id : UUID) : Careless (o.cancelTransfer id) := by
  unfold cancelTransfer
  refine careless_statement rfl fun loaded => ?_
  rcases loaded with err | (_ | transfer)
  · trivial
  · trivial
  dsimp only
  split
  · trivial
  split
  · trivial
  refine careless_statement rfl fun now => careless_statement rfl fun written => ?_
  rcases written with err | _
  · trivial
  refine careless_statement rfl fun completed => ?_
  rcases completed with err | _
  · trivial
  refine (careless_createEvent _ _ _ _).bind fun _ => (o.careless_closeTransfer _).bind fun _ => ?_
  refine (o.careless_onTransferStateChange _ _ _).bind fun _ => ?_
  -- two cancel commands before those of the cleanup
  exact Prog.ignores_skip (Prog.ignores_skip ((careless_executeCleanup _).bind fun _ => trivial))

theorem careless_handleCompleted (id : UUID) (transfer : Transfer) :
    Careless (o.handleCompleted id transfer) := by
  unfold handleCompleted
  split
  · trivial
  refine careless_statement rfl fun written => ?_
  rcases written with err | _
  · trivial
  refine careless_statement rfl fun completed => ?_
  rcases completed with err | _
  · trivial
  refine (careless_createEvent _ _ _ _).bind fun _ => (o.careless_closeTransfer _).bind fun _ => ?_
  refine (o.careless_onTransferStateChange _ _ _).bind fun _ => ?_
  exact (careless_executeCleanup _).bind fun _ => trivial

theorem careless_handleFailed (id : UUID) (errorMessage : String) (transfer : Transfer) :
    Careless (o.handleFailed id errorMessage transfer) := by
  unfold handleFailed
  refine (careless_of_ambient (all_applyRetryBackoff _ _ _ _ _)).bind fun decision => .ite ?_ ?_
  · refine careless_statement rfl fun counted => ?_
    rcases counted with err | _
    · trivial
    exact (careless_createEvent _ _ _ _).bind fun _ => trivial
  unfold handleExhausted
  split
  · trivial
  refine careless_statement rfl fun written => ?_
  rcases written with err | _
  · trivial
  refine (careless_createEvent _ _ _ _).bind fun _ => (o.careless_closeTransfer _).bind fun _ => ?_
  refine (o.careless_onTransferStateChange _ _ _).bind fun _ => ?_
  refine (careless_of_ambient (o.all_onTransferError _)).bind fun _ => ?_
  exact (careless_executeCleanup _).bind fun _ => trivial

theorem careless_handleStatus (report : ProgressReport) (transfer : Transfer) :
    Careless (o.handleStatus report transfer) :=
  .ite (o.careless_handleCompleted _ _) (.ite (o.careless_handleFailed _ _ _) trivial)

theorem careless_handleProgress (report : ProgressReport) : Careless (o.handleProgress report) := by
  unfold handleProgress
  refine careless_statement rfl fun loaded => ?_
  rcases loaded with err | (_ | transfer)
  · trivial
  · trivial
  refine careless_statement rfl fun updated => ?_
  rcases updated with err | _
  · trivial
  refine (careless_createEvent _ _ _ _).bind fun _ => (o.careless_publish _ _).bind fun _ => ?_
  refine (careless_of_ambient (o.all_onProgressReport _ _)).bind fun reported => ?_
  rcases reported with _ | _ | _
  · exact (o.careless_handleStatus report transfer).bind fun _ => trivial
  · trivial
  · trivial

/-- Every request goes on in the same way whatever its best-effort steps answer. -/
theorem careless_serve (request : Request) : Careless (o.serve request) := by
  cases request with
  | createTransfer req => exact (o.careless_createTransfer req).bind fun _ => trivial
  | cancelTransfer id => exact (o.careless_cancelTransfer id).bind fun _ => trivial
  | handleProgress report => exact (o.careless_handleProgress report).bind fun _ => trivial

end Orchestrator

end

/-! ## What the calls see of the store -/

/-- A statement that reads the transfers table only, and changes nothing else of it. -/
theorem Env.write_of_transfers (env : Env) {s s' : Store} {statement : Store → Except Err Store}
    (h : (statement s).map Store.transfers = (statement s').map Store.transfers)
    (hs : s.transfers = s'.transfers) :
    (env.write s statement).1 = (env.write s' statement).1 ∧
      (env.write s statement).2.transfers = (env.write s' statement).2.transfers := by
  cases hfail : env.fail with
  | some err =>
    rw [Env.write_of_fail hfail, Env.write_of_fail hfail]
    exact ⟨rfl, hs⟩
  | none =>
    cases hst : statement s with
    | error err =>
      cases hst' : statement s' with
      | error err' =>
        rw [hst, hst'] at h
        rw [Env.write_of_refused hfail _ hst, Env.write_of_refused hfail _ hst']
        exact ⟨congrArg Except.error (Except.error.inj h), hs⟩
      -- the statement is refused in both stores, or in neither
      | ok s₁' =>
        simp [hst, hst', Except.map] at h
    | ok s₁ =>
      cases hst' : statement s' with
      | error err' =>
        simp [hst, hst', Except.map] at h
      | ok s₁' =>
        rw [hst, hst'] at h
        rw [Env.write_of_ok hfail _ hst, Env.write_of_ok hfail _ hst']
        exact ⟨rfl, Except.ok.inj h⟩

theorem Store.insertTransfer_congr {s s' : Store} (hs : s.transfers = s'.transfers) (t : Transfer) :
    (s.insertTransfer t).map Store.transfers = (s'.insertTransfer t).map Store.transfers := by
  have hinserts : ∀ s : Store, (s.insertTransfer t).map Store.transfers =
      match s.transfers.insert? t with
      | some transfers => .ok transfers
      | none => .error "duplicate key value violates unique constraint \"transfers_pkey\"" := by
    intro s
    unfold Store.insertTransfer
    split
    · rename_i hins
      simp only [Except.map, hins]
    · rename_i hins
      simp only [Except.map, hins]
  rw [hinserts, hinserts, hs]

theorem Store.updateTransfer_congr {s s' : Store} (hs : s.transfers = s'.transfers) (id : UUID)
    (set : Transfer → Transfer) (hset : ∀ t, (set t).id = t.id) :
    (s.updateTransfer id set hset).map Store.transfers =
      (s'.updateTransfer id set hset).map Store.transfers := by
  show Except.ok (s.transfers.modify id set hset) = Except.ok (s'.transfers.modify id set hset)
  rw [hs]

theorem transfers_exec_of_bestEffort (env : Env) (op : Call) (s : Store)
    (hop : op.bestEffort = true) : (exec env op s).2.transfers = s.transfers := by
  cases op with
  | repo call =>
    cases call with
    | createTransferEvent e =>
      rcases env.write_cases s (Store.insertEvent · e) with ⟨err, hwrite⟩ | ⟨s', hins, hwrite⟩
      · rw [exec, execRepo, hwrite]
      · rw [exec, execRepo, hwrite, (Store.insertEvent_eq_ok hins).1]
    | _ => cases hop
  | _ => rfl

/-- Best-effort steps have no effect on the transfers table, and the other calls
    depend on nothing else. -/
theorem blind_exec : Prog.Blind exec (fun op => op.bestEffort = true) Store.transfers where
  ignored env op s hop := transfers_exec_of_bestEffort env op s hop
  seen env op s s' hop hs := by
    cases op with
    | repo call =>
      cases call with
      | createTransfer t => exact env.write_of_transfers (Store.insertTransfer_congr hs t) hs
      | getTransferByID id =>
        refine ⟨?_, hs⟩
        show env.answer (s.transfers.find? id) = env.answer (s'.transfers.find? id)
        rw [hs]
      | createTransferEvent e => exact absurd rfl hop
      | _ => exact env.write_of_transfers (Store.updateTransfer_congr hs _ _ _) hs
    | _ => exact ⟨rfl, hs⟩

/-! ## Cleanup is the last thing a call does -/

section

variable [UUIDText]

/-- The steps of cleanup. -/
def Transfer.cleanupSteps (t : Transfer) : List Call :=
  [.revokeCredentials t.id.text, .sendCancelCommand t.sourceCluster t.id.text,
    .sendCancelCommand t.destinationCluster t.id.text] ++
  if t.strategy = .s3 then [.deleteTransferObjects t.id.text] else []

def Call.revokes : Call → Bool
  | .revokeCredentials _ => true
  | _ => false

def Unrevoked (h : List CallEv) : Prop := ∀ ev ∈ h, ev.1.revokes = false

/-- Cleanup has not begun, or it is what was done last. -/
def CleansLast (t : Transfer) (h : List CallEv) : Prop :=
  Unrevoked h ∨ t.cleanupSteps <:+ h.map fun ev => ev.1

/-- Where no credentials have been revoked yet, the program cleans up last, if at all. -/
def Tidy (t : Transfer) {α : Type} (p : Engine α) : Prop :=
  ∀ h s, Unrevoked h → Prog.wp exec (Healthy true) p (fun _ h' _ => CleansLast t h') h s

variable {α β : Type} {t : Transfer}

omit [UUIDText] in
theorem unrevoked_nil : Unrevoked [] := fun _ hev => absurd hev List.not_mem_nil

omit [UUIDText] in
theorem Unrevoked.snoc {h : List CallEv} {op : Call} (hh : Unrevoked h) (hop : op.revokes = false)
    (r : op.Ans) : Unrevoked (h ++ [⟨op, r⟩]) := by
  intro ev hev
  rcases List.mem_append.mp hev with hold | hnew
  · exact hh ev hold
  · rw [List.mem_singleton.mp hnew]
    exact hop

theorem tidy_pure (a : α) : Tidy t (.pure a) := fun _ _ hh => .inl hh

theorem tidy_perform {op : Call} {f : op.Ans → Engine α} (hop : op.revokes = false)
    (hf : ∀ r, Tidy t (f r)) : Tidy t (Prog.perform op >>= f) :=
  fun _ _ hh => Prog.wp_perform fun _ _ => hf _ _ _ (hh.snoc hop _)

/-- A part that revokes nothing. -/
theorem tidy_skip {p : Engine β} {f : β → Engine α} (hp : p.All fun op => op.revokes = false)
    (hf : ∀ b, Tidy t (f b)) : Tidy t (p >>= f) := by
  induction p with
  | pure b => exact hf b
  | call op k ih => exact fun h s hh _ _ => ih _ (hp.2 _) _ _ (hh.snoc hp.1 _)

theorem tidy_ambient {p : Engine β} {f : β → Engine α} (hp : p.All Call.Ambient)
    (hf : ∀ b, Tidy t (f b)) : Tidy t (p >>= f) := by
  refine tidy_skip (hp.mono fun op hop => ?_) hf
  cases op <;> first | exact hop.elim | rfl

theorem tidy_createEvent {transferID : UUID} {eventType : EventType} {message : String}
    {metadata : Option (List (String × String))} {f : Unit → Engine α} (hf : ∀ b, Tidy t (f b)) :
    Tidy t (createEvent transferID eventType message metadata >>= f) :=
  tidy_skip ⟨rfl, fun _ => ⟨rfl, fun _ => ⟨rfl, fun _ => trivial⟩⟩⟩ hf

/-- All steps of cleanup are attempted, in their order, whatever they answer. -/
theorem tidy_executeCleanup {t' : Transfer} (ht : t'.cleanupSteps = t.cleanupSteps) (a : α) :
    Tidy t (executeCleanup t' >>= fun _ => .pure a) := by
  intro h s _
  unfold executeCleanup
  -- whatever the steps answer, nothing comes after the last of them
  intro env₁ _ env₂ _ env₃ _
  simp only [Prog.pure_eq]
  split
  · rename_i hs3
    intro env₄ _
    refine .inr ⟨h.map fun ev => ev.1, ?_⟩
    rw [← ht, Transfer.cleanupSteps, if_pos hs3]
    simp
  · rename_i hs3
    refine .inr ⟨h.map fun ev => ev.1, ?_⟩
    rw [← ht, Transfer.cleanupSteps, if_neg hs3]
    simp

theorem Transfer.cleanupSteps_of_transitionTo {t t' : Transfer} {target : TransferState}
    (h : t.transitionTo target = .ok t') : t'.cleanupSteps = t.cleanupSteps := by
  obtain ⟨-, rfl⟩ := Transfer.transitionTo_eq_ok.mp h
  rfl

namespace Orchestrator

variable (o : Orchestrator)

theorem tidy_handleCompleted (id : UUID) : Tidy t (o.handleCompleted id t) := by
  unfold handleCompleted
  split
  · exact tidy_pure _
  rename_i t' hmove
  refine tidy_perform rfl fun written => ?_
  rcases written with err | _
  · exact tidy_pure _
  refine tidy_perform rfl fun completed => ?_
  rcases completed with err | _
  · exact tidy_pure _
  refine tidy_createEvent fun _ => tidy_ambient (o.all_closeTransfer _) fun _ => ?_
  refine tidy_ambient (o.all_onTransferStateChange _ _ _) fun _ => ?_
  exact tidy_executeCleanup (Transfer.cleanupSteps_of_transitionTo hmove) _

theorem tidy_handleFailed (id : UUID) (errorMessage : String) :
    Tidy t (o.handleFailed id errorMessage t) := by
  unfold handleFailed
  refine tidy_ambient (all_applyRetryBackoff _ _ _ _ _) fun decision => ?_
  split
  · refine tidy_perform rfl fun counted => ?_
    rcases counted with err | _
    · exact tidy_pure _
    exact tidy_createEvent fun _ => tidy_pure _
  unfold handleExhausted
  split
  · exact tidy_pure _
  rename_i t' hmove
  refine tidy_perform rfl fun written => ?_
  rcases written with err | _
  · exact tidy_pure _
  refine tidy_createEvent fun _ => tidy_ambient (o.all_closeTransfer _) fun _ => ?_
  refine tidy_ambient (o.all_onTransferStateChange _ _ _) fun _ => ?_
  refine tidy_ambient (o.all_onTransferError _) fun _ => ?_
  exact tidy_executeCleanup (Transfer.cleanupSteps_of_transitionTo hmove) _

theorem tidy_handleStatus (report : ProgressReport) : Tidy t (o.handleStatus report t) := by
  unfold handleStatus
  split
  · exact o.tidy_handleCompleted _
  split
  · exact o.tidy_handleFailed _ _
  · exact tidy_pure _

/-- A cancellation that has found its transfer. -/
theorem wp_cancelTransfer_cleansLast (id : UUID) {s : Store} (ht : s.row id = some t) :
    Prog.wp exec (Healthy true) (o.cancelTransfer id) (fun _ h' _ => CleansLast t h') [] s := by
  refine Prog.wp_perform fun env _ => ?_
  simp only [exec, execRepo, ht]
  have hread : ∀ r, Unrevoked ([] ++ [⟨.repo (.getTransferByID id), r⟩] : List CallEv) := fun r =>
    unrevoked_nil.snoc rfl r
  cases hfail : env.fail with
  | some err =>
    rw [Env.answer_of_fail hfail]
    exact .inl (hread _)
  | none =>
    rw [Env.answer_of_ok hfail]
    -- the row that was read is `t`, and nothing has been revoked so far
    refine (?_ : Tidy t _) _ _ (hread _)
    dsimp only
    split
    · exact tidy_pure _
    split
    · exact tidy_pure _
    rename_i t' hmove
    refine tidy_perform rfl fun now => tidy_perform rfl fun written => ?_
    rcases written with err | _
    · exact tidy_pure _
    refine tidy_perform rfl fun completed => ?_
    rcases completed with err | _
    · exact tidy_pure _
    refine tidy_createEvent fun _ => tidy_ambient (o.all_closeTransfer _) fun _ => ?_
    refine tidy_ambient (o.all_onTransferStateChange _ _ _) fun _ => ?_
    refine tidy_perform rfl fun _ => tidy_perform rfl fun _ => ?_
    exact tidy_executeCleanup (Transfer.cleanupSteps_of_transitionTo hmove) _

/-- A report whose transfer is stored. -/
theorem wp_handleProgress_cleansLast (report : ProgressReport) {s : Store}
    (ht : s.row report.transferID = some t) :
    Prog.wp exec (Healthy true) (o.handleProgress report) (fun _ h' _ => CleansLast t h') [] s := by
  refine Prog.wp_perform fun env _ => ?_
  simp only [exec, execRepo, ht]
  have hread : ∀ r, Unrevoked
      ([] ++ [⟨.repo (.getTransferByID report.transferID), r⟩] : List CallEv) := fun r =>
    unrevoked_nil.snoc rfl r
  cases hfail : env.fail with
  | some err =>
    rw [Env.answer_of_fail hfail]
    exact .inl (hread _)
  | none =>
    rw [Env.answer_of_ok hfail]
    refine (?_ : Tidy t _) _ _ (hread _)
    refine tidy_perform rfl fun updated => ?_
    rcases updated with err | _
    · exact tidy_pure _
    refine tidy_createEvent fun _ => tidy_ambient (o.all_publish _ _) fun _ => ?_
    refine tidy_ambient (o.all_onProgressReport _ _) fun reported => ?_
    rcases reported with _ | _ | _
    · exact fun h s hh => (Prog.wp_bind _ _).mpr (o.tidy_handleStatus report h s hh)
    · exact tidy_pure _
    · exact tidy_pure _

/-- What a request does to the transfer it names, it ends with cleanup, if at all. -/
theorem wp_serve_cleansLast (request : Request) (hid : request.target = some t.id) {s : Store}
    (ht : s.row t.id = some t) :
    Prog.wp exec (Healthy true) (o.serve request) (fun _ h' _ => CleansLast t h') [] s := by
  cases request with
  | createTransfer req => cases hid
  | cancelTransfer id =>
    obtain rfl : id = t.id := Option.some.inj hid
    refine (Prog.wp_bind _ _).mpr ?_
    exact o.wp_cancelTransfer_cleansLast _ ht
  | handleProgress report =>
    obtain hid : report.transferID = t.id := Option.some.inj hid
    rw [← hid] at ht
    refine (Prog.wp_bind _ _).mpr ?_
    exact o.wp_handleProgress_cleansLast _ ht

end Orchestrator

omit [UUIDText] in
/-- A request that names a transfer ends as an outcome on it. -/
theorem Served.outcome_of_target {faulty : Bool} {o : Orchestrator} {id id' : UUID} {m m' : View}
    {request : Request} {a : Response} {result : Except Err Unit}
    (h : Served faulty o id' m m' request a) (hid : request.target = some id)
    (ha : a.result = .done result) :
    id' = id ∧ ∃ intended, Outcome faulty intended m result m' := by
  cases h with
  | created req hcreated => cases hid
  | cancelled houtcome =>
    cases ha
    exact ⟨Option.some.inj hid, _, houtcome⟩
  | handled hreport hreported =>
    cases hreported with
    | done houtcome funded =>
      cases ha
      exact ⟨hreport.symm.trans (Option.some.inj hid), _, houtcome⟩
    | panics unmoved overdrawn => cases ha

/-- A history without revocations shows none. -/
theorem Unrevoked.tally {h : List CallEv} (hh : Unrevoked h) (id : UUID) :
    (Katapult.tally id h).revoked = false := by
  induction h using List.reverseRecOn with
  | nil => rfl
  | append_singleton h ev ih =>
    have hbefore := ih fun ev' hev' => hh ev' (List.mem_append_left _ hev')
    have hlast := hh ev (List.mem_append_right _ (List.mem_singleton_self ev))
    rw [tally_snoc]
    split
    · obtain ⟨op, r⟩ := ev
      cases op with
      | revokeCredentials transferID => cases hlast
      | sendTransferCommand agentID transferID => cases r <;> exact hbefore
      | repo call => cases call <;> cases r <;> exact hbefore
      | _ => exact hbefore
    · exact hbefore

/-! ## Two runs of a request -/

/-- A statement that updates the transfers table. -/
def Call.updatesTransfers : Call → Bool
  | .repo (.getTransferByID _) | .repo (.createTransferEvent _) => false
  | .repo _ => true
  | _ => false

/-- A call of the progress hub. -/
def Call.isHub : Call → Bool
  | .publish .. | .closeTransfer _ => true
  | _ => false

/-- A call of the metrics recorder. -/
def Call.isMetric : Call → Bool
  | .onTransferStateChange .. | .onProgressReport .. | .onTransferError _ => true
  | _ => false

/-- What the `n`-th call meets: `env`, but a best-effort step fails as `fails` says. -/
def withFailures (env : Nat → Env) (fails : Nat → Option Err) (n : Nat) (op : Call) : Env :=
  if op.bestEffort then { env n with fail := fails n } else env n

/-- The run of a request whose best-effort steps fail as `fails` says. -/
def Orchestrator.record (o : Orchestrator) (request : Request) (s : Store) (env : Nat → Env)
    (fails : Nat → Option Err) : Recording Call Call.Ans Response Store :=
  (o.serve request).replay exec (withFailures env fails) 0 s

/-- Two runs have the same effects on the transfer: the same updates, each
    leaving the same table, the same calls of the hub and of the recorder, and the
    same answer; and they attempt the same steps. -/
structure SameEffects (x y : Recording Call Call.Ans Response Store) : Prop where
  updates : x.select Call.updatesTransfers Store.transfers =
    y.select Call.updatesTransfers Store.transfers
  hub : x.select Call.isHub Store.transfers = y.select Call.isHub Store.transfers
  metrics : x.select Call.isMetric Store.transfers = y.select Call.isMetric Store.transfers
  answer : x.result = y.result
  attempts : x.ops = y.ops

/-- The run has brought the transfer `t` to its end. -/
structure BroughtToEnd (t : Transfer) (x : Recording Call Call.Ans Response Store) : Prop where
  opened : t.state.isTerminal = false
  ended : x.final.terminal t.id = true
  succeeded : x.result.result = .done (.ok ())

variable (o : Orchestrator) (request : Request) (s : Store) (env : Nat → Env)

theorem Orchestrator.alike_record (a b : Nat → Option Err) :
    Prog.Alike (fun op => op.bestEffort = true) Store.transfers (o.record request s env a)
      (o.record request s env b) := by
  refine Prog.Ignores.replay blind_exec (fun n op hop => ?_) (o.careless_serve request) 0 rfl
  rw [withFailures, withFailures, if_neg hop, if_neg hop]

/-- A request that brings its transfer to its end attempts every step of cleanup. -/
theorem Orchestrator.cleanup_record (fails : Nat → Option Err) (hid : request.target = some t.id)
    (ht : s.row t.id = some t) (hend : BroughtToEnd t (o.record request s env fails)) :
    t.cleanupSteps <:+ (o.record request s env fails).ops := by
  let x := o.record request s env fails
  have hrun : Prog.Exec exec (Healthy true) (o.serve request) s x.history x.result x.final :=
    Prog.exec_replay (fun _ _ _ => .inl rfl) _ 0 s
  have hops : x.history.map (fun ev => ev.1) = x.ops := List.map_map
  rcases Prog.wp_sound (o.wp_serve_cleansLast request hid ht) hrun with hnone | hlast
  · -- without revocation the row would still be open
    obtain ⟨id, hserved, -⟩ := Prog.wp_sound (o.wp_serve request [] s) hrun
    obtain ⟨rfl, intended, houtcome⟩ := hserved.outcome_of_target hid hend.succeeded
    have hrevoked : (tally t.id ([] ++ x.history)).revoked = false := Unrevoked.tally hnone t.id
    cases houtcome with
    | kept unmoved missed =>
      have hrow : x.final.view t.id = s.view t.id := unmoved.row
      have hended : (x.final.stateOf t.id).any TransferState.isTerminal = true := hend.ended
      rw [Store.stateOf_eq_view, hrow, ← Store.stateOf_eq_view, Store.stateOf, ht] at hended
      have hopened : t.state.isTerminal = true := hended
      rw [hend.opened] at hopened
      cases hopened
    | closed before edge final row commands cleaned uncompleted hit =>
      have hcleaned : (tally t.id ([] ++ x.history)).revoked = true := cleaned.revoked
      rw [hrevoked] at hcleaned
      cases hcleaned
  · rw [List.nil_append, hops] at hlast
    exact hlast

/-- Best-effort steps cannot influence the transfer: however they fail in two
    runs of a request, the effects are the same, and where the request brings its
    transfer to its end, both attempt every step of cleanup. -/
theorem bestEffort_inert (a b : Nat → Option Err) :
    SameEffects (o.record request s env a) (o.record request s env b) ∧
      ∀ t, request.target = some t.id → s.row t.id = some t →
        BroughtToEnd t (o.record request s env a) →
        t.cleanupSteps <:+ (o.record request s env a).ops ∧
          t.cleanupSteps <:+ (o.record request s env b).ops := by
  have halike := o.alike_record request s env a b
  have hseen : ∀ P : Call → Bool, (∀ op, P op = true → op.bestEffort = false) →
      ∀ op, P op = true → ¬ op.bestEffort = true := by
    intro P hP op hop
    rw [hP op hop]
    exact Bool.false_ne_true
  constructor
  · refine ⟨halike.select_eq (hseen _ fun op hop => ?_), halike.select_eq (hseen _ fun op hop => ?_),
      halike.select_eq (hseen _ fun op hop => ?_), halike.result, halike.ops_eq⟩
    · cases op with
      | repo call => cases call <;> first | rfl | cases hop
      | _ => cases hop
    · cases op <;> first | rfl | cases hop
    · cases op <;> first | rfl | cases hop
  · intro t hid ht hend
    have hcleaned := o.cleanup_record request s env a hid ht hend
    rw [← halike.ops_eq]
    exact ⟨hcleaned, hcleaned⟩

end

/-! ## Sample runs -/

/-- Every step succeeds, and identifiers are drawn from 100 on. -/
def sampleSchedule (n : Nat) : Env := { uuid := BitVec.ofNat 128 (100 + n) }

/-- A request on the store that the creation of the sample transfer has left. -/
def recordSample (request : Request) (s : Store) (fails : Nat → Option Err) :
    Recording Call Call.Ans Response Store :=
  @Orchestrator.record canonicalText plainOrchestrator request s sampleSchedule fails

/-- The cancellation of the sample transfer cleans up also when every
    best-effort step fails. -/
theorem bestEffort_inert_cancelSample :
    ∃ h s t, createdSample = some (h, s) ∧ s.row 7 = some t ∧
      @Transfer.cleanupSteps canonicalText t <:+
        (recordSample (.cancelTransfer 7) s fun _ => some "connection lost").ops := by
  have hend : createdSample.any fun out => (out.2.row 7).any fun t =>
      let x := recordSample (.cancelTransfer 7) out.2 fun _ => none
      t.id = 7 ∧ t.state.isTerminal = false ∧ x.final.terminal t.id = true ∧
        x.result.result = .done (.ok ()) := by
    decide +kernel
  obtain ⟨⟨h, s⟩, hcreated, hrow⟩ := (Option.any_eq_true _ _).mp hend
  obtain ⟨t, ht, hout⟩ := (Option.any_eq_true _ _).mp hrow
  obtain ⟨hid, hopened, hended, hsucceeded⟩ := of_decide_eq_true hout
  have hboth := (@bestEffort_inert canonicalText plainOrchestrator (.cancelTransfer 7) s sampleSchedule
    (fun _ => none) fun _ => some "connection lost").2 t (by rw [hid]; rfl) (by rw [hid]; exact ht)
    ⟨hopened, hended, hsucceeded⟩
  exact ⟨h, s, t, hcreated, ht, hboth.2⟩

/-- A report of a transfer under way. -/
def runningReport : ProgressReport where
  transferID := 7
  bytesTransferred := 512
  bytesTotal := 1024
  status := "in_progress"

/-- Not every call attempts cleanup: a report of a transfer under way does not. -/
theorem not_cleanup_runningReport :
    ¬ ∀ (request : Request) (s : Store) (fails : Nat → Option Err) (t : Transfer),
      request.target = some t.id → s.row t.id = some t →
      ∀ op ∈ @Transfer.cleanupSteps canonicalText t, op ∈ (recordSample request s fails).ops := by
  intro hall
  have hend : createdSample.any fun out => (out.2.row 7).any fun t =>
      t.id = 7 ∧ Call.revokeCredentials (canonicalString 7) ∉
        (recordSample (.handleProgress runningReport) out.2 fun _ => none).ops := by
    decide +kernel
  obtain ⟨⟨h, s⟩, -, hrow⟩ := (Option.any_eq_true _ _).mp hend
  obtain ⟨t, ht, hout⟩ := (Option.any_eq_true _ _).mp hrow
  obtain ⟨hid, hunrevoked⟩ := of_decide_eq_true hout
  refine hunrevoked (hall (.handleProgress runningReport) s (fun _ => none) t (by rw [hid]; rfl)
    (by rw [hid]; exact ht) _ ?_)
  unfold Transfer.cleanupSteps
  rw [hid]
  exact List.mem_cons_self

end Katapult
