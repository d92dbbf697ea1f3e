/-
  Katapult.Transfer.View

  One call of the engine, alone, seen from the transfer it works on.

  Every call of the engine concerns a single transfer.  What it can do to that
  transfer is a small abstract machine: `RowView` is what is kept of the row,
  `Tally` what a history shows about agents, cleanup and failed statements.
  `wp_of_view` connects it to the repository: what is proved of a program on the
  abstract machine holds of its runs on the store, and every other transfer is
  left alone.
-/

import Katapult.Transfer.Lifecycle

namespace Katapult

open Effect

/-! ## Which transfer a call concerns -/

def RepoCall.transferID : RepoCall → UUID
  | .createTransfer t => t.id
  | .getTransferByID id | .updateTransferState id _ | .updateTransferStrategy id _
  | .updateTransferProgress id _ _ _ _ | .updateTransferStarted id | .updateTransferCompleted id
  | .updateTransferFailed id _ | .incrementRetryCount id => id
  | .createTransferEvent e => e.transferID

/-- As far as rows, agents, credentials and objects go, the call concerns the
    transfer `id` or none. -/
def Call.Of [UUIDText] (id : UUID) : Call → Prop
  | .repo call => call.transferID = id
  | .sendTransferCommand _ transferID | .sendCancelCommand _ transferID
  | .revokeCredentials transferID | .deleteTransferObjects transferID => transferID = id.text
  | _ => True

/-! ## The abstract row -/

/-- What is kept of a row: what decides transitions and cleanup. -/
structure RowView where
  state : TransferState
  strategy : TransferStrategy
  sourceCluster : String
  destinationCluster : String
  /-- `completed_at` is set. -/
  completed : Bool

def Transfer.view (t : Transfer) : RowView where
  state := t.state
  strategy := t.strategy
  sourceCluster := t.sourceCluster
  destinationCluster := t.destinationCluster
  completed := t.completedAt.isSome

def Store.view (s : Store) (id : UUID) : Option RowView := (s.row id).map Transfer.view

/-- What an answered call has done to the row it concerns. -/
def RowView.follow (row : Option RowView) : CallEv → Option RowView
  | ⟨.repo (.createTransfer t), .ok _⟩ => some t.view
  | ⟨.repo (.updateTransferState _ state), .ok _⟩ => row.map ({ · with state })
  | ⟨.repo (.updateTransferStrategy _ strategy), .ok _⟩ => row.map ({ · with strategy })
  | ⟨.repo (.updateTransferCompleted _), .ok _⟩ => row.map ({ · with completed := true })
  | ⟨.repo (.updateTransferFailed _ _), .ok _⟩ =>
      row.map ({ · with state := .failed, completed := true })
  | _ => row

/-- The answers that a row and the health of the repository allow. -/
def RowView.Allows (faulty : Bool) (id : UUID) (row : Option RowView) : (op : Call) → op.Ans → Prop
  | .repo (.createTransfer _), .ok _ => row = none
  | .repo (.createTransfer _), .error _ => faulty = true ∨ row ≠ none
  | .repo (.getTransferByID _), .ok t => t.map Transfer.view = row ∧ ∀ t' ∈ t, t'.id = id
  | .repo (.getTransferByID _), .error _ => faulty = true
  | .repo (.updateTransferState ..), .error _ => faulty = true
  | .repo (.updateTransferStrategy ..), .error _ => faulty = true
  | .repo (.updateTransferProgress ..), .error _ => faulty = true
  | .repo (.updateTransferStarted _), .error _ => faulty = true
  | .repo (.updateTransferCompleted _), .error _ => faulty = true
  | .repo (.updateTransferFailed ..), .error _ => faulty = true
  | .repo (.incrementRetryCount _), .error _ => faulty = true
  | .onProgressReport bytesTransferred _, r => r = if bytesTransferred < 0 then .panics else .done ()
  | _, _ => True

/-! ## The tally of a history -/

/-- What a history shows about one transfer. -/
structure Tally where
  /-- An agent has accepted a transfer command. -/
  accepted : Bool := false
  /-- An agent has refused a transfer command. -/
  refused : Bool := false
  /-- The revocation of its credentials has been requested. -/
  revoked : Bool := false
  /-- The clusters that were sent a cancel command. -/
  cancels : List String := []
  /-- The deletion of its S3 objects has been requested. -/
  deleted : Bool := false
  /-- Its row has been inserted. -/
  inserted : Bool := false
  /-- A write of `completed_at` alone has failed. -/
  uncompleted : Bool := false
  /-- A statement on its row, other than the insertion, has failed. -/
  faulted : Bool := false
  deriving DecidableEq

/-- The repository answers with an error. -/
def RepoCall.errs : (call : RepoCall) → call.Ans → Bool
  | .createTransfer _, .error _ => true
  | .getTransferByID _, .error _ => true
  | .updateTransferState .., .error _ => true
  | .updateTransferStrategy .., .error _ => true
  | .updateTransferProgress .., .error _ => true
  | .updateTransferStarted _, .error _ => true
  | .updateTransferCompleted _, .error _ => true
  | .updateTransferFailed .., .error _ => true
  | .incrementRetryCount _, .error _ => true
  | .createTransferEvent _, .error _ => true
  | _, _ => false

/-- A failed statement on the row of a transfer, other than its insertion. -/
def RepoCall.faults : (call : RepoCall) → call.Ans → Bool
  | .createTransfer _, _ | .createTransferEvent _, _ => false
  | call, r => call.errs r

/-- A repository call that was answered with an error. -/
def CallEv.failed : CallEv → Bool
  | ⟨.repo call, r⟩ => call.errs r
  | _ => false

/-- A failed statement on a row, other than its insertion. -/
def CallEv.faults : CallEv → Bool
  | ⟨.repo call, r⟩ => call.faults r
  | _ => false

/-- One more entry, on the transfer the tally is about. -/
def Tally.follow (n : Tally) : CallEv → Tally
  | ⟨.sendTransferCommand .., .ok _⟩ => { n with accepted := true }
  | ⟨.sendTransferCommand .., .error _⟩ => { n with refused := true }
  | ⟨.revokeCredentials _, _⟩ => { n with revoked := true }
  | ⟨.sendCancelCommand agentID _, _⟩ => { n with cancels := n.cancels ++ [agentID] }
  | ⟨.deleteTransferObjects _, _⟩ => { n with deleted := true }
  | ⟨.repo (.createTransfer _), .ok _⟩ => { n with inserted := true }
  | ⟨.repo (.updateTransferCompleted _), .error _⟩ =>
      { n with uncompleted := true, faulted := true }
  | ⟨.repo call, r⟩ => { n with faulted := n.faulted || call.faults r }
  | _ => n

/-- The state of the abstract machine. -/
structure View where
  row : Option RowView
  tally : Tally

def View.follow (m : View) (ev : CallEv) : View where
  row := RowView.follow m.row ev
  tally := m.tally.follow ev

theorem View.row_follow (m : View) (ev : CallEv) :
    (m.follow ev).row = RowView.follow m.row ev := rfl

section

variable [UUIDText]

instance (id : UUID) : DecidablePred (Call.Of id)
  | .newUUID | .timeNow | .randFloat64 | .findHealthyPVC .. | .isPVCEmpty .. | .publish ..
  | .closeTransfer _ | .onTransferStateChange .. | .onProgressReport .. | .onTransferError _ =>
      .isTrue trivial
  | .repo call => inferInstanceAs (Decidable (call.transferID = id))
  | .sendTransferCommand _ transferID | .sendCancelCommand _ transferID
  | .revokeCredentials transferID | .deleteTransferObjects transferID =>
      inferInstanceAs (Decidable (transferID = id.text))

/-- The tally of a transfer after a history. -/
def tally (id : UUID) (h : List CallEv) : Tally :=
  h.foldl (fun n ev => if ev.1.Of id then n.follow ev else n) {}

theorem tally_snoc (id : UUID) (h : List CallEv) (ev : CallEv) :
    tally id (h ++ [ev]) = if ev.1.Of id then (tally id h).follow ev else tally id h := by
  simp [tally]

/-- A call that concerns two transfers concerns none. -/
theorem Tally.follow_of_two {id id' : UUID} {op : Call} (hof : op.Of id) (hof' : op.Of id')
    (hne : id' ≠ id) (n : Tally) (r : op.Ans) : n.follow ⟨op, r⟩ = n := by
  have htext : ∀ text : String, text = id.text → text = id'.text → False := by
    intro text h h'
    exact hne (UUID.text_injective (h'.symm.trans h))
  cases op with
  | repo call => exact absurd (hof'.symm.trans hof) hne
  | sendTransferCommand agentID transferID => exact (htext _ hof hof').elim
  | sendCancelCommand agentID transferID => exact (htext _ hof hof').elim
  | revokeCredentials transferID => exact (htext _ hof hof').elim
  | deleteTransferObjects transferID => exact (htext _ hof hof').elim
  | _ => rfl

/-- An entry about one transfer leaves the tallies of the others alone. -/
theorem tally_snoc_of_ne {id id' : UUID} {op : Call} (hof : op.Of id) (hne : id' ≠ id)
    (r : op.Ans) (h : List CallEv) : tally id' (h ++ [⟨op, r⟩]) = tally id' h := by
  rw [tally_snoc]
  split
  · rename_i hof'
    exact Tally.follow_of_two hof hof' hne _ _
  · rfl

theorem tally_snoc_self {id : UUID} {op : Call} (hof : op.Of id) (r : op.Ans) (h : List CallEv) :
    tally id (h ++ [⟨op, r⟩]) = (tally id h).follow ⟨op, r⟩ := by
  rw [tally_snoc, if_pos hof]

/-! ## The abstraction -/

/-- A call leaves the rows of the other transfers alone. -/
theorem row_exec_of_ne {id id' : UUID} {op : Call} (hof : op.Of id) (hne : id' ≠ id) (env : Env)
    (s : Store) : (exec env op s).2.row id' = s.row id' := by
  cases op with
  | repo call =>
    have hrow := row_execRepo env call s id'
    have hother : call.onRow env id' (s.row id') = s.row id' := by
      have htarget : call.transferID ≠ id' := fun h => hne (h.symm.trans hof)
      cases call <;> simp_all [RepoCall.onRow, RepoCall.transferID, eq_comm]
    rw [hother, ite_self] at hrow
    exact hrow
  | _ => rfl

/-- On the row it concerns, a call does what the abstract machine allows. -/
theorem view_exec {faulty : Bool} {id : UUID} {op : Call} (hof : op.Of id) {env : Env}
    (hok : faulty = true ∨ env.RepoSucceeds op) (s : Store) :
    RowView.Allows faulty id (s.view id) op (exec env op s).1 ∧
    (exec env op s).2.view id = RowView.follow (s.view id) ⟨op, (exec env op s).1⟩ := by
  cases op with
  | repo call =>
    have hid : call.transferID = id := hof
    cases hfail : env.fail with
    | some err =>
      have hfaulty : faulty = true := by
        rcases hok with h | h
        · exact h
        · rw [h rfl] at hfail
          cases hfail
      cases call <;>
        simp [exec, execRepo, Env.write, Env.answer, hfail, RowView.Allows, RowView.follow, hfaulty]
    | none =>
      have hrow := row_execRepo env call s id
      rw [if_pos hfail] at hrow
      cases call with
      | createTransfer t =>
        have hid : t.id = id := hof
        subst hid
        cases hins : s.insertTransfer t with
        | error err =>
          have htaken := Store.insertTransfer_eq_error hins
          simp only [exec, execRepo, Env.write_of_refused hfail (Store.insertTransfer · t) hins]
          exact ⟨.inr (by simpa [Store.view] using htaken), rfl⟩
        | ok s' =>
          obtain ⟨hfresh, -, hrow'⟩ := Store.insertTransfer_eq_ok hins
          simp only [exec, execRepo, Env.write_of_ok hfail (Store.insertTransfer · t) hins]
          refine ⟨by simp [RowView.Allows, Store.view, hfresh], ?_⟩
          simp [Store.view, hrow', RowView.follow]
      | getTransferByID id' =>
        have hid : id' = id := hof
        subst hid
        simp only [exec, execRepo, Env.answer, hfail]
        exact ⟨⟨rfl, fun t ht => Keyed.Table.key_of_find? ht⟩, rfl⟩
      | createTransferEvent e =>
        refine ⟨trivial, ?_⟩
        simp only [exec, Store.view, hrow]
        rfl
      | _ =>
        subst hid
        simp only [RepoCall.onRow, RepoCall.transferID] at hrow
        simp only [exec, Store.view, RepoCall.transferID, hrow]
        simp only [execRepo, Env.write, hfail, Store.updateTransfer, RowView.Allows, RowView.follow]
        cases s.row _ <;> simp [Transfer.view]
  | onProgressReport bytesTransferred speed => exact ⟨rfl, rfl⟩
  | _ => exact ⟨trivial, rfl⟩

/-- What a store and the history that led to it show of one transfer. -/
def viewOf (id : UUID) (h : List CallEv) (s : Store) : View := ⟨s.view id, tally id h⟩

/-- `Seen faulty id p Q m`: on the abstract machine, started in `m`, the program
    concerns only `id` and ends in `Q`; without `faulty`, no statement fails. -/
def Seen {α : Type} (faulty : Bool) (id : UUID) (p : Engine α) (Q : α → View → Prop) (m : View) :
    Prop :=
  Prog.awp View.follow (fun _ op => op.Of id) (fun m => RowView.Allows faulty id m.row) p Q m

/-- The steps that a repository without faults, or with, allows. -/
def Healthy (faulty : Bool) (env : Env) (op : Call) (_ : Store) : Prop :=
  faulty = true ∨ env.RepoSucceeds op

/-- What is proved on the abstract machine holds on the store, and the other
    transfers are left alone. -/
theorem wp_of_view {α : Type} {faulty : Bool} {id : UUID} {p : Engine α} {Q : α → View → Prop}
    {h : List CallEv} {s : Store} (hp : Seen faulty id p Q (viewOf id h s)) :
    Prog.wp exec (Healthy faulty) p (fun a h' s' => Q a (viewOf id h' s') ∧
      ∀ id', id' ≠ id → s'.row id' = s.row id' ∧ tally id' h' = tally id' h) h s := by
  let A : View → List CallEv → Store → Prop := fun m h' s' => m = viewOf id h' s' ∧
    ∀ id', id' ≠ id → s'.row id' = s.row id' ∧ tally id' h' = tally id' h
  have hstart : A (viewOf id h s) h s := ⟨rfl, fun _ _ => ⟨rfl, rfl⟩⟩
  refine Prog.wp_mono (Prog.wp_of_awp A ?_ hp hstart) ?_
  · rintro m op h' s' hof ⟨rfl, hothers⟩ env hok
    obtain ⟨hallows, hrow⟩ := view_exec hof hok s'
    refine ⟨hallows, ?_, fun id' hne => ?_⟩
    · simp only [View.follow, viewOf, tally_snoc_self hof, hrow]
    · obtain ⟨hrow', htally⟩ := hothers id' hne
      rw [row_exec_of_ne hof hne, tally_snoc_of_ne hof hne]
      exact ⟨hrow', htally⟩
  · rintro a h' s' ⟨m, ⟨rfl, hothers⟩, hQ⟩
    exact ⟨hQ, hothers⟩

/-! ## Rules -/

section

variable {α β : Type} {faulty : Bool} {id : UUID} {Q : α → View → Prop} {m : View}

theorem Seen.perform {op : Call} {f : op.Ans → Engine α} (hop : op.Of id)
    (hf : ∀ r, RowView.Allows faulty id m.row op r → Seen faulty id (f r) Q (m.follow ⟨op, r⟩)) :
    Seen faulty id (Prog.perform op >>= f) Q m :=
  Prog.awp_perform hop hf

theorem Seen.ambient {p : Engine β} {f : β → Engine α} (hp : p.All Call.Ambient)
    (hf : ∀ b, Seen faulty id (f b) Q m) : Seen faulty id (p >>= f) Q m := by
  refine Prog.awp_skip (hp.mono fun op hop => ?_) hf
  cases op with
  | newUUID => exact ⟨trivial, fun _ => rfl⟩
  | timeNow => exact ⟨trivial, fun _ => rfl⟩
  | randFloat64 => exact ⟨trivial, fun _ => rfl⟩
  | findHealthyPVC clusterID pvcName => exact ⟨trivial, fun _ => rfl⟩
  | isPVCEmpty clusterID pvcName => exact ⟨trivial, fun _ => rfl⟩
  | publish id' progress => exact ⟨trivial, fun _ => rfl⟩
  | closeTransfer id' => exact ⟨trivial, fun _ => rfl⟩
  | onTransferStateChange a b c => exact ⟨trivial, fun _ => rfl⟩
  | onProgressReport a b => exact ⟨trivial, fun _ => rfl⟩
  | onTransferError a => exact ⟨trivial, fun _ => rfl⟩
  | _ => exact hop.elim

/-- The recorder takes the numbers of a report, or panics. -/
theorem Seen.onProgressReport (o : Orchestrator) (report : ProgressReport)
    {f : Channel.Attempt Unit → Engine α}
    (hdone : ¬ o.Overdraws report → Seen faulty id (f (.done ())) Q m)
    (hpanics : o.Overdraws report → Seen faulty id (f .panics) Q m) :
    Seen faulty id (o.onProgressReport report.bytesTransferred report.speed >>= f) Q m := by
  by_cases hmetrics : o.metrics = true
  · rw [Orchestrator.onProgressReport_of_metrics hmetrics]
    refine Seen.perform trivial fun r hr => ?_
    by_cases hneg : report.bytesTransferred < 0
    · obtain rfl : r = Channel.Attempt.panics := hr.trans (if_pos hneg)
      exact hpanics ⟨hmetrics, hneg⟩
    · obtain rfl : r = Channel.Attempt.done () := hr.trans (if_neg hneg)
      exact hdone fun hover => hneg hover.2
  · rw [Orchestrator.onProgressReport_of_not hmetrics]
    exact hdone fun hover => hmetrics hover.1

/-- Events leave no trace on the abstract machine, recorded or not. -/
theorem Seen.createEvent {eventType : EventType} {message : String}
    {metadata : Option (List (String × String))} {f : Unit → Engine α}
    (hf : Seen faulty id (f ()) Q m) :
    Seen faulty id (createEvent id eventType message metadata >>= f) Q m := by
  refine Prog.awp_skip ((all_createEvent id eventType message metadata).mono fun op hop => ?_)
    fun _ => hf
  cases op with
  | newUUID => exact ⟨trivial, fun _ => rfl⟩
  | timeNow => exact ⟨trivial, fun _ => rfl⟩
  | repo call =>
    cases call with
    | createTransferEvent e =>
      refine ⟨hop.1, fun r => ?_⟩
      simp [View.follow, RowView.follow, Tally.follow, RepoCall.faults]
    | _ => exact hop.elim
  | _ => exact hop.elim

end

end

end Katapult
