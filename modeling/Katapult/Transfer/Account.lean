/-
  Katapult.Transfer.Account

  A second abstraction of the store, for runs in which the repository does not
  fail: the account of one transfer is its whole row, the types of its events,
  and what has been asked for it.

  `execAccount` is the machine of one account.  It never refuses a statement,
  and it needs no table: `account_exec` says that the store does the same on
  the transfer that a call concerns, and `wp_of_account` that what is proved of
  a program on an account holds of its runs on the store, and of no other
  transfer anything changes.  The journal next to it is the clock, and every
  change of a stored state.
-/

import Katapult.Transfer.View

namespace Katapult

open Effect

/-! ## Accounts -/

/-- What is known of one transfer. -/
@[ext] structure Account where
  row : Option Transfer := none
  /-- The types of its events. -/
  timeline : List EventType := []
  /-- The clusters whose agents were sent a transfer command, and whether they
      have accepted it. -/
  commands : List (String × Bool) := []

namespace Account

/-- A statement about the transfer. -/
def write (now : Time) : RepoCall → Account → Account
  | .createTransfer t, m => { m with row := some t }
  | .getTransferByID _, m => m
  | .updateTransferState _ state, m => { m with row := m.row.map ({ · with state }) }
  | .updateTransferStrategy _ strategy, m => { m with row := m.row.map ({ · with strategy }) }
  | .updateTransferProgress _ bytesTransferred bytesTotal chunksCompleted chunksTotal, m =>
      { m with
        row := m.row.map ({ · with bytesTransferred, bytesTotal, chunksCompleted, chunksTotal }) }
  | .updateTransferStarted _, m => { m with row := m.row.map ({ · with startedAt := some now }) }
  | .updateTransferCompleted _, m => { m with row := m.row.map ({ · with completedAt := some now }) }
  | .updateTransferFailed _ errorMessage, m =>
      { m with row := m.row.map ({ · with state := .failed, errorMessage, completedAt := some now }) }
  | .incrementRetryCount _, m =>
      { m with row := m.row.map fun t => { t with retryCount := t.retryCount + 1 } }
  | .createTransferEvent e, m => { m with timeline := m.timeline ++ [e.eventType] }

/-- The answer to a statement. -/
def answer (m : Account) : (call : RepoCall) → call.Ans
  | .getTransferByID _ => .ok m.row
  | .createTransfer _ => .ok ()
  | .updateTransferState .. => .ok ()
  | .updateTransferStrategy .. => .ok ()
  | .updateTransferProgress .. => .ok ()
  | .updateTransferStarted _ => .ok ()
  | .updateTransferCompleted _ => .ok ()
  | .updateTransferFailed .. => .ok ()
  | .incrementRetryCount _ => .ok ()
  | .createTransferEvent _ => .ok ()

/-- A call of the engine. -/
def perform (env : Env) : (op : Call) → Account → op.Ans × Account
  | .newUUID, m => (env.uuid, m)
  | .timeNow, m => (env.now, m)
  | .randFloat64, m => (env.rand, m)
  | .repo call, m => (m.answer call, m.write env.now call)
  | .findHealthyPVC .., m => (env.answer env.flag, m)
  | .isPVCEmpty .., m => (env.answer env.flag, m)
  | .sendTransferCommand agentID _, m =>
      (env.answer (), { m with commands := m.commands ++ [(agentID, env.fail.isNone)] })
  | .sendCancelCommand .., m => (env.answer (), m)
  | .revokeCredentials _, m => (env.answer (), m)
  | .deleteTransferObjects _, m => (env.answer (), m)
  | .publish .., m => ((), m)
  | .closeTransfer _, m => ((), m)
  | .onTransferStateChange .., m => ((), m)
  | .onProgressReport bytesTransferred _, m =>
      (if bytesTransferred < 0 then .panics else .done (), m)
  | .onTransferError _, m => ((), m)

end Account

/-- The repository does not fail, and refuses nothing. -/
def Unfailed (env : Env) (op : Call) (s : Store) : Prop :=
  CallEv.failed ⟨op, (exec env op s).1⟩ = false

instance (env : Env) (op : Call) (s : Store) : Decidable (Unfailed env op s) :=
  inferInstanceAs (Decidable (_ = false))

theorem Unfailed.repoSucceeds {env : Env} {op : Call} {s : Store} (h : Unfailed env op s) :
    env.RepoSucceeds op := by
  intro hrepo
  cases op with
  | repo call =>
    cases hfail : env.fail with
    | none => rfl
    | some err =>
      cases call <;> simp [Unfailed, CallEv.failed, RepoCall.errs, exec, execRepo, Env.write,
        Env.answer, hfail] at h
  | _ => cases hrepo

/-- An insertion that is accepted is one of a new row. -/
theorem Unfailed.row_eq_none {env : Env} {t : Transfer} {s : Store}
    (hok : Unfailed env (.repo (.createTransfer t)) s) : s.row t.id = none := by
  have hfail : env.fail = none := hok.repoSucceeds rfl
  cases hins : s.insertTransfer t with
  | ok s' => exact (Store.insertTransfer_eq_ok hins).1
  | error err =>
    simp only [Unfailed, exec, execRepo,
      Env.write_of_refused hfail (Store.insertTransfer · t) hins] at hok
    cases hok

/-! ## Accounts of a store -/

section

variable [UUIDText]

/-- The transfer commands that a history shows for a transfer. -/
def commandOf (id : UUID) : CallEv → Option (String × Bool)
  | ⟨.sendTransferCommand agentID transferID, .ok _⟩ =>
      if transferID = id.text then some (agentID, true) else none
  | ⟨.sendTransferCommand agentID transferID, .error _⟩ =>
      if transferID = id.text then some (agentID, false) else none
  | _ => none

/-- The account of a transfer, from the store and the history that led to it. -/
def account (id : UUID) (h : List CallEv) (s : Store) : Account where
  row := s.row id
  timeline := (s.timeline id).map TransferEvent.eventType
  commands := h.filterMap (commandOf id)

theorem account_empty (id : UUID) : account id [] .empty = {} := rfl

/-- An entry that is not a command for the transfer leaves only its mark on the tables. -/
theorem account_snoc_of_none {id : UUID} {ev : CallEv} (h : List CallEv) (s : Store)
    (hev : commandOf id ev = none) : account id (h ++ [ev]) s = account id h s := by
  simp [account, hev, List.filterMap_append]

theorem answer_execRepo {id : UUID} {call : RepoCall} (hof : call.transferID = id) {env : Env}
    {s : Store} (hok : Unfailed env (.repo call) s) (h : List CallEv) :
    (exec env (.repo call) s).1 = (account id h s).answer call := by
  have hfail : env.fail = none := hok.repoSucceeds rfl
  have hunit : ∀ r : Except Err Unit, (∀ err, r ≠ .error err) → r = .ok () := by
    intro r hr
    rcases r with err | _
    · exact absurd rfl (hr err)
    · rfl
  cases call with
  | getTransferByID id' =>
    subst hof
    simp only [exec, execRepo, Env.answer, hfail]
    rfl
  | _ =>
    refine hunit _ fun err herr => ?_
    rw [Unfailed, herr] at hok
    cases hok

/-- An accepted statement does to the account what `write` says. -/
theorem account_execRepo {id : UUID} {call : RepoCall} (hof : call.transferID = id) {env : Env}
    {s : Store} (hok : Unfailed env (.repo call) s) (h : List CallEv) :
    account id (h ++ [⟨.repo call, (exec env (.repo call) s).1⟩]) (exec env (.repo call) s).2 =
      (account id h s).write env.now call := by
  have hfail : env.fail = none := hok.repoSucceeds rfl
  have hrow : (exec env (.repo call) s).2.row id = _ := row_execRepo env call s id
  rw [if_pos hfail] at hrow
  have htimeline := timeline_exec_eq env (.repo call) s id
  rw [answer_execRepo hof hok h] at htimeline
  rw [account_snoc_of_none _ _ rfl]
  simp only [account, hrow, htimeline]
  subst hof
  cases call with
  | createTransfer t =>
    have hnew : s.row t.id = none := hok.row_eq_none
    simp [RepoCall.onRow, RepoCall.transferID, Account.write, CallEv.recorded, hnew]
  | createTransferEvent e =>
    simp [RepoCall.onRow, RepoCall.transferID, Account.write, Account.answer, CallEv.recorded]
  | _ => simp [RepoCall.onRow, RepoCall.transferID, Account.write, CallEv.recorded]

/-- On the transfer that it concerns, a call does to the store what it does to
    the account. -/
theorem account_exec {id : UUID} {op : Call} (hof : op.Of id) {env : Env} {s : Store}
    (hok : Unfailed env op s) (h : List CallEv) :
    (account id h s).perform env op =
      ((exec env op s).1, account id (h ++ [⟨op, (exec env op s).1⟩]) (exec env op s).2) := by
  cases op with
  | repo call =>
    rw [account_execRepo hof hok h, answer_execRepo hof hok h]
    rfl
  | sendTransferCommand agentID transferID =>
    have hid : transferID = id.text := hof
    subst hid
    cases hfail : env.fail with
    | none =>
      simp [Account.perform, exec, Env.answer, hfail, account, commandOf, List.filterMap_append]
    | some err =>
      simp [Account.perform, exec, Env.answer, hfail, account, commandOf, List.filterMap_append]
  | _ =>
    refine Prod.ext rfl ?_
    exact (account_snoc_of_none h s rfl).symm

/-- A statement that does not fail: its answer, and what it does to rows and timelines. -/
theorem Unfailed.execRepo_eq {env : Env} {call : RepoCall} {s : Store}
    (hok : Unfailed env (.repo call) s) :
    ∃ s', exec env (.repo call) s = ((account call.transferID [] s).answer call, s') ∧
      (∀ id, s'.row id = call.onRow env id (s.row id)) ∧
      ∀ id, s'.timeline id = s.timeline id ++
        CallEv.recorded id ⟨.repo call, (account call.transferID [] s).answer call⟩ := by
  have hanswer := answer_execRepo rfl hok []
  refine ⟨(exec env (.repo call) s).2, Prod.ext hanswer rfl, fun id => ?_, fun id => ?_⟩
  · have hrow : (exec env (.repo call) s).2.row id = _ := row_execRepo env call s id
    rw [hrow, if_pos (hok.repoSucceeds rfl)]
  · rw [timeline_exec_eq, hanswer]

/-- The accounts of the other transfers stay as they are. -/
theorem account_exec_of_ne {id id' : UUID} {op : Call} (hof : op.Of id) (hne : id' ≠ id) (env : Env)
    (s : Store) (h : List CallEv) :
    account id' (h ++ [⟨op, (exec env op s).1⟩]) (exec env op s).2 = account id' h s := by
  have hrow := row_exec_of_ne hof hne env s
  have htimeline := timeline_exec_eq env op s id'
  generalize (exec env op s).1 = r at htimeline ⊢
  have hsilent : CallEv.recorded id' ⟨op, r⟩ = [] := by
    rcases CallEv.recorded_cases id' ⟨op, r⟩ with hnone | ⟨e, rfl, hid, -⟩
    · exact hnone
    · exact absurd (hid.symm.trans hof) hne
  have hcommand : commandOf id' ⟨op, r⟩ = none := by
    cases op with
    | sendTransferCommand agentID transferID =>
      have hid : transferID ≠ id'.text := by
        intro hsame
        exact hne (UUID.text_injective (hsame.symm.trans hof))
      rcases r with err | _
      · exact if_neg hid
      · exact if_neg hid
    | _ => rfl
  rw [hsilent, List.append_nil] at htimeline
  rw [account_snoc_of_none _ _ hcommand]
  simp only [account, hrow, htimeline]

end

/-! ## The journal -/

/-- What a run shows of all transfers together. -/
structure Journal where
  /-- The time of the last call. -/
  clock : Time
  /-- The changes of stored states, in their order. -/
  changes : List (TransferState × TransferState) := []

/-- The change from one stored state to another. -/
def stateChange : Option TransferState → Option TransferState → List (TransferState × TransferState)
  | some state, some state' => if state = state' then [] else [(state, state')]
  | _, _ => []

@[simp] theorem stateChange_self (state : Option TransferState) : stateChange state state = [] := by
  cases state with
  | none => rfl
  | some state => exact if_pos rfl

/-- The change of a stored state that a call has made. -/
def Call.change (s s' : Store) : Call → List (TransferState × TransferState)
  | .repo call => stateChange (s.stateOf call.transferID) (s'.stateOf call.transferID)
  | _ => []

/-- The engine's machine, with a journal. -/
def watch : Machine Call Call.Ans (Store × Journal) Env
  | env, op, w =>
    let out := exec env op w.1
    (out.1, out.2, { clock := env.now, changes := w.2.changes ++ op.change w.1 out.2 })

/-- The machine of one account, with a journal. -/
def execAccount : Machine Call Call.Ans (Account × Journal) Env
  | env, op, w =>
    let out := w.1.perform env op
    (out.1, out.2,
      { clock := env.now
        changes := w.2.changes ++
          stateChange (w.1.row.map Transfer.state) (out.2.row.map Transfer.state) })

/-- The repository does not fail, and, if it is `timed`, the clock does not go back. -/
def Steady (timed : Bool) (env : Env) (op : Call) (w : Store × Journal) : Prop :=
  Unfailed env op w.1 ∧ (timed = true → w.2.clock ≤ env.now)

/-- The same, on an account: a row that is inserted is new. -/
def SteadyAccount (timed : Bool) (env : Env) (op : Call) (w : Account × Journal) : Prop :=
  (∀ t, op = .repo (.createTransfer t) → w.1.row = none) ∧ (timed = true → w.2.clock ≤ env.now)

section

variable [UUIDText] {α : Type} {timed : Bool}

/-- What is proved of a program on the account of a transfer holds on the store,
    and the accounts of all others stay as they are. -/
theorem wp_of_account (id : UUID) (h : List CallEv) (w : Store × Journal) {p : Engine α}
    {Q₀ : α → View → Prop} {Q : α → Account × Journal → Prop}
    (hseen : Seen false id p Q₀ (viewOf id h w.1))
    (hp : Prog.wp execAccount (SteadyAccount timed) p (fun a _ w' => Q a w') h
      (account id h w.1, w.2)) :
    Prog.wp watch (Steady timed) p (fun a h' w' => Q a (account id h' w'.1, w'.2) ∧
      ∀ id', id' ≠ id → account id' h' w'.1 = account id' h w.1) h w := by
  -- the view says which transfer a call is about, the account what the call does to it
  let A : View → List CallEv → Store × Journal → Prop := fun m h' w' => m = viewOf id h' w'.1 ∧
    ∀ id', id' ≠ id → account id' h' w'.1 = account id' h w.1
  have hstart : A (viewOf id h w.1) h w := ⟨rfl, fun _ _ => rfl⟩
  refine Prog.wp_mono (Prog.wp_of_part A (fun h' w' => (account id h' w'.1, w'.2)) ?_ ?_ hseen
    hstart hp) ?_
  · rintro m op h' w' hof ⟨rfl, hothers⟩ env hok
    have hsucceeds : false = true ∨ env.RepoSucceeds op := .inr hok.1.repoSucceeds
    obtain ⟨hallows, hrow⟩ := view_exec hof hsucceeds w'.1
    refine ⟨hallows, ?_, fun id' hne => ?_⟩
    · simp only [View.follow, viewOf, watch, tally_snoc_self hof, hrow]
    · exact (account_exec_of_ne hof hne env w'.1 h').trans (hothers id' hne)
  · rintro m op h' w' hof - env hok
    refine ⟨⟨?_, hok.2⟩, ?_⟩
    · rintro t rfl
      have hid : t.id = id := hof
      subst hid
      exact hok.1.row_eq_none
    · have hstep := account_exec hof hok.1 h'
      have hchange : op.change w'.1 (exec env op w'.1).2 =
          stateChange ((account id h' w'.1).row.map Transfer.state)
            ((account id (h' ++ [⟨op, (exec env op w'.1).1⟩]) (exec env op w'.1).2).row.map
              Transfer.state) := by
        cases op with
        | repo call =>
          have hid : call.transferID = id := hof
          subst hid
          rfl
        | _ => exact (stateChange_self _).symm
      simp only [execAccount, watch, hstep, hchange]
  · rintro a h' w' ⟨hQ, m', -, hothers⟩
    exact ⟨hQ, hothers⟩

end

end Katapult
