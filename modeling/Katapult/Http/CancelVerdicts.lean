/-
  Katapult.Http.CancelVerdicts

  What the two front ends answer to a cancellation.

  Both look for phrases in the text of the error, in opposite orders.
  `CancelOutcome` says once how a cancellation ends and with which text; the
  answers tell how exactly as long as the errors of the database spell none of
  the phrases, and the audit event is recorded (`cancelVerdicts_iff`).
-/

import Katapult.Grpc.Transfers
import Katapult.Http.Handlers

namespace Katapult

open Effect

/-! ## Phrases behind a literal -/

/-- A literal in front of a text neither spells a phrase nor begins one. -/
theorem contains_behind {cs sub : List Char} (hin : ¬ sub <:+: cs)
    (hends : ∀ k < sub.length, 0 < k → ¬ sub.take k <:+ cs) (text : String) :
    contains (String.ofList cs ++ text) (String.ofList sub) = contains text (String.ofList sub) := by
  rw [contains_append_left]
  · have hfree : contains (String.ofList cs) (String.ofList sub) = false := by
      rw [contains, String.toList_ofList, String.toList_ofList]
      exact decide_eq_false hin
    rw [hfree, Bool.false_or]
  · rw [String.toList_ofList, String.toList_ofList]
    exact hends

/-- The texts that the front ends look for. -/
def Unmistakable (text : String) : Prop :=
  contains text "not found" = false ∧ contains text "terminal state" = false

instance (text : String) : Decidable (Unmistakable text) := inferInstanceAs (Decidable (_ ∧ _))

/-- The steps of a cancellation that can fail with an error of the database. -/
def cancelSteps : List String :=
  ["loading transfer: ", "persisting cancelled state: ", "persisting completed_at: "]

/-- A step in front of a text makes no difference to what the front ends find. -/
theorem contains_step {step : String} (hstep : step ∈ cancelSteps) (text : String) :
    contains (step ++ text) "not found" = contains text "not found" ∧
      contains (step ++ text) "terminal state" = contains text "terminal state" := by
  simp only [cancelSteps, List.mem_cons, List.not_mem_nil, or_false] at hstep
  rcases hstep with rfl | rfl | rfl
  · exact ⟨contains_behind (by decide) (by decide) text, contains_behind (by decide) (by decide) text⟩
  · exact ⟨contains_behind (by decide) (by decide) text, contains_behind (by decide) (by decide) text⟩
  · exact ⟨contains_behind (by decide) (by decide) text, contains_behind (by decide) (by decide) text⟩

/-- Identifiers are written in hexadecimal digits and hyphens. -/
def HexadecimalText [UUIDText] : Prop :=
  ∀ id : UUID, ∀ c ∈ id.text.toList, c = '-' ∨ ∃ n < 16, hexDigit n = c

/-- An absent transfer is named as such, and as nothing else. -/
theorem HexadecimalText.absent [UUIDText] (hids : HexadecimalText) (id : UUID) :
    contains ("transfer " ++ id.text ++ " not found") "not found" = true ∧
      contains ("transfer " ++ id.text ++ " not found") "terminal state" = false := by
  constructor
  · rw [contains, decide_eq_true_eq, String.toList_append]
    have hphrase : "not found".toList <:+: " not found".toList := by decide
    exact hphrase.trans (List.suffix_append _ _).isInfix
  · -- the other phrase has a letter that is no hexadecimal digit
    have hletter : 't' ∉ id.text.toList := by
      intro hmem
      rcases hids id 't' hmem with hhyphen | ⟨n, hn, hdigit⟩
      · cases hhyphen
      · revert n
        decide
    have htext : contains id.text "terminal state" = false := by
      rw [contains, decide_eq_false_iff_not]
      intro hphrase
      exact hletter (hphrase.subset (by decide))
    rw [String.append_assoc, contains_behind (by decide) (by decide), contains_append_right (by decide),
      htext]
    decide

/-- A transfer that has ended is named as such, and as nothing else. -/
theorem contains_ended (state : TransferState) :
    contains ("transfer already in terminal state: " ++ state.text) "not found" = false ∧
      contains ("transfer already in terminal state: " ++ state.text) "terminal state" = true := by
  constructor
  · have hstate : contains state.text "not found" = false := by
      cases state <;> decide
    rw [contains_behind (by decide) (by decide), hstate]
  · have hphrase : "terminal state".toList <:+: "transfer already in terminal state: ".toList := by
      decide
    rw [contains, decide_eq_true_eq, String.toList_append]
    exact hphrase.trans (List.prefix_append _ _).isInfix

/-! ## How a cancellation ends -/

/-- The text of an error of the repository. -/
def RepoCall.error? : (call : RepoCall) → call.Ans → Option Err
  | .createTransfer _, .error err => some err
  | .getTransferByID _, .error err => some err
  | .updateTransferState .., .error err => some err
  | .updateTransferStrategy .., .error err => some err
  | .updateTransferProgress .., .error err => some err
  | .updateTransferStarted _, .error err => some err
  | .updateTransferCompleted _, .error err => some err
  | .updateTransferFailed .., .error err => some err
  | .incrementRetryCount _, .error err => some err
  | .createTransferEvent _, .error err => some err
  | _, _ => none

/-- The text of the error of a statement on the row. -/
def CallEv.fault? : CallEv → Option Err
  | ⟨.repo (.createTransferEvent _), _⟩ => none
  | ⟨.repo call, r⟩ => call.error? r
  | _ => none

/-- The insertion of an audit event has failed. -/
def CallEv.unrecorded : CallEv → Bool
  | ⟨.repo (.createTransferEvent e), r⟩ => RepoCall.errs (.createTransferEvent e) r
  | _ => false

/-- What the front ends can tell from: no insertion of an audit event fails, and the
    error of no other statement spells a phrase. -/
def CallEv.Telling (ev : CallEv) : Prop := ev.unrecorded = false ∧ ∀ err ∈ ev.fault?, Unmistakable err

instance (ev : CallEv) : Decidable ev.Telling := inferInstanceAs (Decidable (_ ∧ ∀ _ ∈ ev.fault?, _))

theorem CallEv.failed_eq (ev : CallEv) : ev.failed = (ev.fault?.isSome || ev.unrecorded) := by
  obtain ⟨op, r⟩ := ev
  cases op with
  | repo call => cases call <;> cases r <;> rfl
  | _ => rfl

/-- The errors of the statements on the row. -/
def rowFaults (h : List CallEv) : List Err := h.filterMap CallEv.fault?

theorem rowFaults_snoc (h : List CallEv) (ev : CallEv) :
    rowFaults (h ++ [ev]) = rowFaults h ++ ev.fault?.toList := by
  cases hev : ev.fault? <;> simp [rowFaults, hev]

theorem any_failed (h : List CallEv) :
    h.any CallEv.failed = (!(rowFaults h).isEmpty || h.any CallEv.unrecorded) := by
  induction h with
  | nil => rfl
  | cons ev h ih =>
    rw [List.any_cons, ih, ev.failed_eq]
    cases hev : ev.fault? with
    | none => simp [rowFaults, hev, Bool.or_left_comm]
    | some err => simp [rowFaults, hev]

theorem all_telling (h : List CallEv) : (∀ ev ∈ h, ev.Telling) ↔
    h.any CallEv.unrecorded = false ∧ ∀ err ∈ rowFaults h, Unmistakable err := by
  simp only [CallEv.Telling, rowFaults, List.mem_filterMap, List.any_eq_false, Option.mem_def,
    Bool.not_eq_true, forall_and]
  refine and_congr_right fun _ => ⟨?_, ?_⟩
  · rintro hall err ⟨ev, hev, herr⟩
    exact hall ev hev err herr
  · intro hall ev hev err herr
    exact hall err ⟨ev, hev, herr⟩

/-- How a cancellation ends: what has failed, the answer, and the store. -/
inductive CancelOutcome [UUIDText] (id : UUID) (s : Store) (h : List CallEv) :
    Except Err Unit → Store → Prop where
  | failed {step err : String} {s' : Store} (atStep : step ∈ cancelSteps) (fault : rowFaults h = [err])
      (recorded : h.any CallEv.unrecorded = false) : CancelOutcome id s h (.error (step ++ err)) s'
  | absent (row : s.row id = none) (clean : rowFaults h = [])
      (recorded : h.any CallEv.unrecorded = false) :
      CancelOutcome id s h (.error ("transfer " ++ id.text ++ " not found")) s
  | ended {t : Transfer} (row : s.row id = some t) (ended : t.state.isTerminal = true)
      (clean : rowFaults h = []) (recorded : h.any CallEv.unrecorded = false) :
      CancelOutcome id s h (.error ("transfer already in terminal state: " ++ t.state.text)) s
  | cancelled {t : Transfer} {s' : Store} (row : s.row id = some t)
      (active : t.state.isTerminal = false) (clean : rowFaults h = [])
      (after : s'.stateOf id = some .cancelled) : CancelOutcome id s h (.ok ()) s'

/-- Calls that cannot fail on a row, nor change one. -/
def Call.Harmless : Call → Prop
  | .repo (.createTransferEvent _) => True
  | .repo _ => False
  | _ => True

theorem Call.Harmless.fault?_eq_none {op : Call} (hop : op.Harmless) (r : op.Ans) :
    CallEv.fault? ⟨op, r⟩ = none := by
  cases op with
  | repo call =>
    cases call with
    | createTransferEvent e => rfl
    | _ => exact hop.elim
  | _ => rfl

theorem Call.Harmless.inert {op : Call} (hop : op.Harmless) (id : UUID) : op.Inert id := by
  cases op with
  | repo call =>
    cases call with
    | createTransferEvent e => exact ⟨rfl, fun h => h⟩
    | _ => exact hop.elim
  | _ => exact ⟨rfl, fun h => h⟩

theorem Call.Passive.harmless {op : Call} (hop : op.Passive) : op.Harmless := by
  cases op <;> first | exact hop.elim | trivial

theorem Call.RecordsEvent.harmless {id : UUID} {eventType : EventType} {op : Call}
    (hop : op.RecordsEvent id eventType) : op.Harmless := by
  cases op with
  | repo call =>
    cases call with
    | createTransferEvent e => trivial
    | _ => exact hop.elim
  | _ => trivial

theorem wp_of_harmless {α : Type} {p : Engine α} (hp : p.All Call.Harmless) (id : UUID)
    (h : List CallEv) (s : Store) :
    Prog.wp exec (Healthy true) p
      (fun _ h' s' => rowFaults h' = rowFaults h ∧ s'.stateOf id = s.stateOf id) h s := by
  induction p generalizing h s with
  | pure a => exact ⟨rfl, rfl⟩
  | call op k ih =>
    refine fun env _ => Prog.wp_mono (ih _ (hp.2 _) _ _) ?_
    rintro a h' s' ⟨hfaults, hstate⟩
    rw [rowFaults_snoc, hp.1.fault?_eq_none, Option.toList_none, List.append_nil] at hfaults
    rw [stateOf_exec_of_inert (hp.1.inert id)] at hstate
    exact ⟨hfaults, hstate⟩

/-- A step that has failed, after others that have not. -/
theorem CancelOutcome.of_fault [UUIDText] {id : UUID} {s s' : Store} {ev : CallEv} {h : List CallEv}
    {step err : String} (hfault : ev.fault? = some err) (hrecorded : ev.unrecorded = false)
    (hstep : step ∈ cancelSteps) (hclean : rowFaults h = []) (hpast : h.any CallEv.unrecorded = false) :
    CancelOutcome id s (h ++ [ev]) (.error (step ++ err)) s' := by
  refine .failed hstep ?_ ?_
  · rw [rowFaults_snoc, hclean, hfault]
    rfl
  · simp [hpast, hrecorded]

/-- A part that fails on no row, and changes none. -/
theorem wp_harmless {α β : Type} {p : Engine β} {f : β → Engine α} {Q : α → List CallEv → Store → Prop}
    {id : UUID} {state : TransferState} {h : List CallEv} {s : Store} (hp : p.All Call.Harmless)
    (hclean : rowFaults h = []) (hstate : s.stateOf id = some state)
    (hf : ∀ b h' s', rowFaults h' = [] → s'.stateOf id = some state →
      Prog.wp exec (Healthy true) (f b) Q h' s') :
    Prog.wp exec (Healthy true) (p >>= f) Q h s := by
  refine (Prog.wp_bind _ _).mpr (Prog.wp_mono (wp_of_harmless hp id h s) ?_)
  rintro b h' s' ⟨hfaults, hstate'⟩
  exact hf b h' s' (hfaults.trans hclean) (hstate'.trans hstate)

theorem exec_cancelled {env : Env} {id : UUID} {s : Store} {t : Transfer} (hfail : env.fail = none)
    (hrow : s.row id = some t) :
    ∃ s', exec env (.repo (.updateTransferState id .cancelled)) s = ((.ok () : Except Err Unit), s') ∧
      s'.stateOf id = some .cancelled := by
  have hanswer : (exec env (.repo (.updateTransferState id .cancelled)) s).1 =
      (.ok () : Except Err Unit) := by
    simp only [exec, execRepo, Env.write, hfail, Store.updateTransfer]
    rfl
  refine ⟨_, Prod.ext hanswer rfl, ?_⟩
  rw [stateOf_exec_of_written hanswer, Store.stateOf, hrow]
  rfl

theorem exec_completed {env : Env} {id : UUID} {s : Store} {state : TransferState}
    (hfail : env.fail = none) (hstate : s.stateOf id = some state) :
    ∃ s', exec env (.repo (.updateTransferCompleted id)) s = ((.ok () : Except Err Unit), s') ∧
      s'.stateOf id = some state := by
  have hanswer : (exec env (.repo (.updateTransferCompleted id)) s).1 = (.ok () : Except Err Unit) := by
    simp only [exec, execRepo, Env.write, hfail, Store.updateTransfer]
    rfl
  have hinert : (Call.repo (.updateTransferCompleted id)).Inert id := ⟨rfl, fun h => h⟩
  exact ⟨_, Prod.ext hanswer rfl, (stateOf_exec_of_inert hinert env s).trans hstate⟩

theorem Orchestrator.wp_cancelTransfer [UUIDText] (o : Orchestrator) (id : UUID) (s : Store) :
    Prog.wp exec (Healthy true) (o.cancelTransfer id)
      (fun a h' s' => CancelOutcome id s h' a s') [] s := by
  unfold Orchestrator.cancelTransfer
  -- the transfer is loaded
  refine Prog.wp_perform fun env _ => ?_
  cases hfail : env.fail with
  | some err =>
    simp only [exec, execRepo, Env.answer_of_fail hfail]
    exact .of_fault rfl rfl (by simp [cancelSteps]) rfl rfl
  | none =>
  simp only [exec, execRepo, Env.answer_of_ok hfail]
  cases hrow : s.row id with
  | none => exact .absent hrow rfl rfl
  | some t =>
  dsimp only
  split
  · rename_i hended
    exact .ended hrow hended rfl rfl
  rename_i hopen
  have hactive : t.state.isTerminal = false := Bool.of_not_eq_true hopen
  split
  · rename_i err hmove
    exact absurd (TransferState.edge_cancelled hactive)
      (Transfer.not_edge_of_transitionTo_eq_error hmove)
  rename_i transfer hmove
  refine Prog.wp_perform fun env' _ => ?_
  rw [show exec env' .timeNow s = (env'.now, s) from rfl]
  -- its state is written
  refine Prog.wp_perform fun env₁ _ => ?_
  cases hfail₁ : env₁.fail with
  | some err =>
    simp only [exec, execRepo, Env.write_of_fail hfail₁]
    exact .of_fault rfl rfl (by simp [cancelSteps]) rfl rfl
  | none =>
  obtain ⟨s₁, hwritten, hcancelled⟩ := exec_cancelled hfail₁ hrow
  rw [hwritten]
  -- its end is written
  refine Prog.wp_perform fun env₂ _ => ?_
  cases hfail₂ : env₂.fail with
  | some err =>
    simp only [exec, execRepo, Env.write_of_fail hfail₂]
    exact .of_fault rfl rfl (by simp [cancelSteps]) rfl rfl
  | none =>
  obtain ⟨s₂, hcompleted, hkept⟩ := exec_completed hfail₂ hcancelled
  rw [hcompleted]
  -- the row is written, and the rest is best effort
  refine wp_harmless ((all_createEvent _ _ _ _).mono fun _ h => h.harmless) rfl hkept ?_
  intro _ h₃ s₃ hclean₃ hstate₃
  refine wp_harmless ((o.all_closeTransfer _).mono fun _ h => h.passive.harmless) hclean₃ hstate₃ ?_
  intro _ h₄ s₄ hclean₄ hstate₄
  refine wp_harmless ((o.all_onTransferStateChange _ _ _).mono fun _ h => h.passive.harmless) hclean₄
    hstate₄ ?_
  intro _ h₅ s₅ hclean₅ hstate₅
  have hsends : ∀ agentID, (Engine.sendCancelCommand agentID id.text).All Call.Harmless :=
    fun _ => ⟨trivial, fun _ => trivial⟩
  refine wp_harmless (hsends _) hclean₅ hstate₅ fun _ h₆ s₆ hclean₆ hstate₆ => ?_
  refine wp_harmless (hsends _) hclean₆ hstate₆ fun _ h₇ s₇ hclean₇ hstate₇ => ?_
  refine wp_harmless ((all_executeCleanup _).mono fun _ h => h.harmless) hclean₇ hstate₇ ?_
  intro _ h₈ s₈ hclean₈ hstate₈
  exact .cancelled hrow hactive hclean₈ hstate₈

/-! ## The verdicts -/

/-- Which answer of a front end belongs to which end of a cancellation, where `fault` says
    whether a call counts as failed. -/
structure CancelVerdicts (fault : Bool) (id : UUID) (s s' : Store)
    (notFound conflict ok internal : Prop) : Prop where
  absent : notFound ↔ s.row id = none ∧ fault = false
  ended : conflict ↔ (∃ t, s.row id = some t ∧ t.state.isTerminal = true) ∧ fault = false
  cancelled : ok ↔ (∃ t, s.row id = some t ∧ t.state.isTerminal = false) ∧
    s'.stateOf id = some .cancelled ∧ fault = false
  failed : internal ↔ fault = true

/-- The answers of the REST handler. -/
def Reply.Verdicts (reply : Reply) (fault : Bool) (id : UUID) (s s' : Store) : Prop :=
  CancelVerdicts fault id s s' (reply.status = 404) (reply.status = 409) (reply.status = 200)
    (reply.status = 500)

/-- The answer is an error with this code. -/
def HasCode {α : Type} (answer : Except Status α) (code : Code) : Prop :=
  ∃ message, answer = .error ⟨code, message⟩

/-- The answers of the gRPC method. -/
def StatusVerdicts {α : Type} (answer : Except Status α) (fault : Bool) (id : UUID)
    (s s' : Store) : Prop :=
  CancelVerdicts fault id s s' (HasCode answer .notFound) (HasCode answer .failedPrecondition)
    (∃ response, answer = .ok response) (HasCode answer .internal)

section

variable [UUIDText] (o : Orchestrator)

/-- The transfer service; `others` are the methods that do not cancel. -/
def Orchestrator.cancelService (others : (call : ApiCall) → Engine call.Ans) :
    (call : ApiCall) → Engine call.Ans
  | .cancelTransfer id => o.cancelTransfer id
  | call => others call

/-- `DELETE /transfers/{id}`, with the orchestrator behind it. -/
def Orchestrator.deleteTransfer (others : (call : ApiCall) → Engine call.Ans) (r : HttpRequest) :
    Engine Reply :=
  (handleCancelTransfer r).through (o.cancelService others)

/-- What the REST handler makes of the answer. -/
def cancelReply (id : UUID) : Except Err Unit → Reply
  | .error err =>
    if contains err "not found" then writeErrorJSON 404 "not_found" "transfer not found"
    else if contains err "terminal state" then writeErrorJSON 409 "conflict" err
    else writeErrorJSON 500 "cancel_failed" err
  | .ok () => ⟨200, .cancelled id .cancelled⟩

/-- What the gRPC method makes of it. -/
def cancelStatus (id : UUID) : Except Err Unit → Except Status Pb.CancelTransferResponse
  | .error err =>
    if contains err "terminal state" then .error ⟨.failedPrecondition, err⟩
    else if contains err "not found" then .error ⟨.notFound, err⟩
    else .error ⟨.internal, "cancelling transfer: " ++ err⟩
  | .ok () => .ok { transferId := id.text, state := TransferState.cancelled.text }

variable {o} {id : UUID} {s : Store}

theorem handleCancelTransfer_eq {r : HttpRequest} (hid : UUIDText.parse (r.pathValue "id") = .ok id) :
    handleCancelTransfer r = Api.cancelTransfer id >>= fun a => .pure (cancelReply id a) := by
  unfold handleCancelTransfer
  rw [hid]
  refine congrArg (Api.cancelTransfer id >>= ·) (funext fun a => ?_)
  rcases a with err | _
  · simp only [cancelReply]
    split_ifs
    · rfl
    · rfl
    · rfl
  · rfl

theorem cancelTransfer_eq {transferId : String} (hid : UUIDText.parse transferId = .ok id) :
    AgentServer.cancelTransfer (some o) transferId =
      o.cancelTransfer id >>= fun a => .pure (cancelStatus id a) := by
  unfold AgentServer.cancelTransfer
  dsimp only
  rw [hid]
  refine congrArg (o.cancelTransfer id >>= ·) (funext fun a => ?_)
  rcases a with err | _
  · simp only [cancelStatus]
    split_ifs
    · rfl
    · rfl
    · rfl
  · rfl

theorem wp_deleteTransfer {others : (call : ApiCall) → Engine call.Ans} {r : HttpRequest}
    (hid : UUIDText.parse (r.pathValue "id") = .ok id) :
    Prog.wp exec (Healthy true) (o.deleteTransfer others r)
      (fun reply h' s' => ∃ a, CancelOutcome id s h' a s' ∧ reply = cancelReply id a) [] s := by
  unfold Orchestrator.deleteTransfer
  rw [handleCancelTransfer_eq hid]
  refine (Prog.wp_bind _ _).mpr (Prog.wp_mono (o.wp_cancelTransfer id s) ?_)
  exact fun a h' s' houtcome => ⟨a, houtcome, rfl⟩

theorem wp_cancelTransfer {transferId : String} (hid : UUIDText.parse transferId = .ok id) :
    Prog.wp exec (Healthy true) (AgentServer.cancelTransfer (some o) transferId)
      (fun answer h' s' => ∃ a, CancelOutcome id s h' a s' ∧ answer = cancelStatus id a) [] s := by
  rw [cancelTransfer_eq hid]
  refine (Prog.wp_bind _ _).mpr (Prog.wp_mono (o.wp_cancelTransfer id s) ?_)
  exact fun a h' s' houtcome => ⟨a, houtcome, rfl⟩

/-- A failure counts as one exactly if its text spells none of the phrases. -/
theorem verdicts_failed_iff {step : String} (hstep : step ∈ cancelSteps) (err : String) (s' : Store) :
    ((cancelReply id (.error (step ++ err))).Verdicts true id s s' ↔ Unmistakable err) ∧
      (StatusVerdicts (cancelStatus id (.error (step ++ err))) true id s s' ↔ Unmistakable err) := by
  -- what the step has put in front spells no phrase
  obtain ⟨hfound, hterminal⟩ := contains_step hstep err
  unfold Unmistakable
  constructor
  · constructor
    · intro h
      have hinternal : (cancelReply id (.error (step ++ err))).status = 500 := h.failed.mpr rfl
      simp only [cancelReply, hfound, hterminal] at hinternal
      split_ifs at hinternal with h₁ h₂
      · cases hinternal
      · cases hinternal
      · exact ⟨Bool.of_not_eq_true h₁, Bool.of_not_eq_true h₂⟩
    · rintro ⟨h₁, h₂⟩
      simp only [cancelReply, hfound, hterminal, h₁, h₂, Bool.false_eq_true, if_false, writeErrorJSON]
      exact ⟨by simp, by simp, by simp, by simp⟩
  · constructor
    · intro h
      have hinternal : HasCode (cancelStatus id (.error (step ++ err))) .internal := h.failed.mpr rfl
      obtain ⟨message, hcode⟩ := hinternal
      simp only [cancelStatus, hfound, hterminal] at hcode
      split_ifs at hcode with h₁ h₂
      · cases hcode
      · cases hcode
      · exact ⟨Bool.of_not_eq_true h₂, Bool.of_not_eq_true h₁⟩
    · rintro ⟨h₁, h₂⟩
      simp only [cancelStatus, hfound, hterminal, h₁, h₂, Bool.false_eq_true, if_false]
      exact ⟨by simp [HasCode], by simp [HasCode], by simp, by simp [HasCode]⟩

/-- How each end of a cancellation is reported. -/
theorem CancelOutcome.verdicts (hids : HexadecimalText) {h : List CallEv} {a : Except Err Unit}
    {s' : Store} (houtcome : CancelOutcome id s h a s') :
    ((cancelReply id a).Verdicts (h.any CallEv.failed) id s s' ↔ ∀ ev ∈ h, ev.Telling) ∧
      (StatusVerdicts (cancelStatus id a) (h.any CallEv.failed) id s s' ↔ ∀ ev ∈ h, ev.Telling) := by
  rw [any_failed, all_telling]
  cases houtcome with
  | @failed step err _ atStep fault recorded =>
    have htelling : (h.any CallEv.unrecorded = false ∧ ∀ e ∈ rowFaults h, Unmistakable e) ↔
        Unmistakable err := by simp [recorded, fault]
    rw [htelling, fault]
    exact verdicts_failed_iff atStep err s'
  | absent row clean recorded =>
    obtain ⟨hfound, hterminal⟩ := hids.absent id
    rw [clean, recorded]
    simp only [cancelReply, cancelStatus, hfound, hterminal, Bool.false_eq_true, if_true, if_false,
      writeErrorJSON]
    refine ⟨iff_of_true ⟨?_, ?_, ?_, ?_⟩ (by simp), iff_of_true ⟨?_, ?_, ?_, ?_⟩ (by simp)⟩
    all_goals simp [row, HasCode]
  | @ended t row ended clean recorded =>
    obtain ⟨hfound, hterminal⟩ := contains_ended t.state
    rw [clean, recorded]
    simp only [cancelReply, cancelStatus, hfound, hterminal, Bool.false_eq_true, if_true, if_false,
      writeErrorJSON]
    refine ⟨iff_of_true ⟨?_, ?_, ?_, ?_⟩ (by simp), iff_of_true ⟨?_, ?_, ?_, ?_⟩ (by simp)⟩
    all_goals simp [row, ended, HasCode]
  | @cancelled t _ row active clean after =>
    rw [clean]
    simp only [cancelReply, cancelStatus]
    -- a success is one of a call that has failed if the audit event is not recorded
    cases hrecorded : h.any CallEv.unrecorded with
    | true =>
      refine ⟨iff_of_false (fun hverdicts => ?_) (by simp), iff_of_false (fun hverdicts => ?_) (by simp)⟩
      · cases hverdicts.failed.mpr rfl
      · obtain ⟨message, hcode⟩ := hverdicts.failed.mpr rfl
        cases hcode
    | false =>
      refine ⟨iff_of_true ⟨?_, ?_, ?_, ?_⟩ (by simp), iff_of_true ⟨?_, ?_, ?_, ?_⟩ (by simp)⟩
      all_goals simp [row, active, after, HasCode]

end

/-- Both front ends answer a cancellation by the way it ends, and in the same cases,
    exactly if the error of no statement on the row spells a phrase, and the insertion
    of the audit event does not fail. -/
theorem cancelVerdicts_iff [UUIDText] (hids : HexadecimalText) (o : Orchestrator) (id : UUID)
    (s : Store) :
    (∀ others r, UUIDText.parse (r.pathValue "id") = .ok id → ∀ tr reply s',
      Prog.Exec exec (Healthy true) (o.deleteTransfer others r) s tr reply s' →
        (reply.Verdicts (tr.any CallEv.failed) id s s' ↔ ∀ ev ∈ tr, CallEv.Telling ev)) ∧
    ∀ transferId, UUIDText.parse transferId = .ok id → ∀ tr answer s',
      Prog.Exec exec (Healthy true) (AgentServer.cancelTransfer (some o) transferId) s tr answer s' →
        (StatusVerdicts answer (tr.any CallEv.failed) id s s' ↔ ∀ ev ∈ tr, CallEv.Telling ev) := by
  constructor
  · intro others r hid tr reply s' hrun
    obtain ⟨a, houtcome, rfl⟩ := Prog.wp_sound (wp_deleteTransfer hid) hrun
    exact (houtcome.verdicts hids).1
  · intro transferId hid tr answer s' hrun
    obtain ⟨a, houtcome, rfl⟩ := Prog.wp_sound (wp_cancelTransfer hid) hrun
    exact (houtcome.verdicts hids).2

/-! ## Sample cancellations -/

theorem hexadecimalText_canonical : @HexadecimalText canonicalText := by
  intro id c hc
  by_contra hother
  rw [not_or, not_exists] at hother
  refine notMem_canonicalString hother.1 (fun n hn hdigit => ?_) id hc
  exact hother.2 n ⟨hn, hdigit⟩

/-- One transfer that has not begun. -/
def waitingStore : Store :=
  match Store.empty.insertTransfer (plainOrchestrator.newTransfer sampleRequest 7 0) with
  | .ok s => s
  | .error _ => .empty

def deleteSeven : HttpRequest where
  target := ⟨"DELETE", [], true⟩
  pathValues := [("id", canonicalString 7)]

/-- The deletion of the transfer, with the answers of its environment. -/
def deleted (tape : List Env) : Option (Reply × List CallEv × Store) :=
  Prog.eval exec (Healthy true) (@Orchestrator.deleteTransfer canonicalText plainOrchestrator
    (fun call => .pure (call.failed "")) deleteSeven) waitingStore tape

/-- The write of the state fails: an internal error, although the transfer is neither absent nor ended. -/
theorem cancelVerdicts_unwritten :
    ∃ tr reply s', deleted (calls 100 2 ++ [{ fail := some "connection lost" }]) =
        some (reply, tr, s') ∧
      reply.status = 500 ∧ reply.Verdicts (tr.any CallEv.failed) 7 waitingStore s' := by
  have hend : (deleted (calls 100 2 ++ [{ fail := some "connection lost" }])).any fun out =>
      out.1.status = 500 ∧ ∀ ev ∈ out.2.1, CallEv.Telling ev := by decide +kernel
  obtain ⟨⟨reply, tr, s'⟩, hrun, hout⟩ := (Option.any_eq_true _ _).mp hend
  obtain ⟨hstatus, htelling⟩ := of_decide_eq_true hout
  refine ⟨tr, reply, s', hrun, hstatus, ?_⟩
  have hverdicts := @cancelVerdicts_iff canonicalText hexadecimalText_canonical plainOrchestrator 7
    waitingStore
  exact (hverdicts.1 _ deleteSeven (by decide +kernel) tr reply s' (Prog.exec_of_eval hrun)).mpr htelling

/-- The stored transfer cannot be loaded, since the host of the database is not found:
    it is answered that the transfer is not. -/
theorem not_cancelVerdicts_hostNotFound :
    ¬ ∀ (o : Orchestrator) (id : UUID) (s : Store) (others : (call : ApiCall) → Engine call.Ans)
        (r : HttpRequest) (tr : List CallEv) (reply : Reply) (s' : Store),
      canonicalText.parse (r.pathValue "id") = .ok id →
      Prog.Exec exec (Healthy true)
        (@Orchestrator.deleteTransfer canonicalText o others r) s tr reply s' →
      reply.Verdicts (tr.any CallEv.failed) id s s' := by
  intro hall
  have hend : (deleted [{ fail := some "host not found" }]).any fun out => out.1.status = 404 := by
    decide +kernel
  obtain ⟨⟨reply, tr, s'⟩, hrun, hout⟩ := (Option.any_eq_true _ _).mp hend
  have hstatus : reply.status = 404 := of_decide_eq_true hout
  have hverdicts := hall plainOrchestrator 7 waitingStore _ deleteSeven tr reply s' (by decide +kernel)
    (Prog.exec_of_eval hrun)
  have hnone : waitingStore.row 7 = none := (hverdicts.absent.mp hstatus).1
  revert hnone
  decide +kernel

end Katapult
