/-
  Katapult.Transfer.Lifecycle

  One `createTransfer` next to any family of cancellations and progress
  reports, interleaved call by call.

  The repository guards no transition, so what keeps the state column on the
  edges of the state machine can only be the private copies of the operations
  (`Transfer.PrivateCopy`) and how far they can lag behind the row.  Two
  estimates carry the proof: the row of the creator can only have been ended by
  the others, and the row an other operation has read can only have moved along
  edges since.  Both are good for a state write unless the row is final by then.

  That it is not, the operations see to themselves as long as they keep abreast
  (`Abreast`): if no other one has ended the transfer since the writer last
  looked at the row, the writer's copy says so when the row is final, and with
  that copy it writes nothing (`inTouch_of_run`, `InTouch.timely`).
-/

import Katapult.Transfer.PrivateCopy
import Mathlib.Logic.Relation

namespace Katapult

open Effect Relation

/-! ## The system -/

/-- The request inserts a new transfer. -/
def Request.creates : Request → Bool
  | .createTransfer _ => true
  | .cancelTransfer _ | .handleProgress _ => false

/-- One `createTransfer`, and a family of other requests. -/
def Orchestrator.concurrently [UUIDText] {ι : Type} (o : Orchestrator)
    (req : CreateTransferRequest) (others : ι → Request) : Option ι → Engine Response
  | none => o.serve (.createTransfer req)
  | some i => o.serve (others i)

theorem Orchestrator.obeyed_serve [UUIDText] (m : Copy) (o : Orchestrator) (request : Request) :
    Copy.Obeyed request.creates m (o.serve request) := by
  cases request with
  | createTransfer req =>
    exact Prog.Obeys.bind ((obeyed_createTransfer o req).mono fun _ _ _ => trivial)
  | cancelTransfer id =>
    exact Prog.Obeys.bind ((obeyed_cancelTransfer o id).mono fun _ _ _ => trivial)
  | handleProgress report =>
    exact Prog.Obeys.bind ((obeyed_handleProgress o report).mono fun _ _ _ => trivial)

/-- A call of the repository. -/
def Call.isRepo : Call → Bool
  | .repo _ => true
  | _ => false

/-- What does not go to the repository leaves the store alone. -/
theorem exec_of_not_isRepo {op : Call} (hop : op.isRepo = false) (env : Env) (s : Store) :
    (exec env op s).2 = s := by
  cases op with
  | repo call => cases hop
  | _ => rfl

theorem Orchestrator.obeyed_concurrently [UUIDText] {ι : Type} (m : Copy) (o : Orchestrator)
    (req : CreateTransferRequest) (others : ι → Request) (i : Option ι) :
    ∃ creates, Copy.Obeyed creates m (o.concurrently req others i) := by
  cases i with
  | none => exact ⟨_, o.obeyed_serve m (.createTransfer req)⟩
  | some i => exact ⟨_, o.obeyed_serve m (others i)⟩

/-- The environment fails no repository call; everything else may fail. -/
def Env.RepoSucceeds (env : Env) (op : Call) : Prop := op.isRepo = true → env.fail = none

instance (env : Env) (op : Call) : Decidable (env.RepoSucceeds op) :=
  inferInstanceAs (Decidable (_ → _))

theorem Env.RepoSucceeds.of_writtenState {env : Env} {op : Call} {id : UUID}
    {target : TransferState} (hok : env.RepoSucceeds op) (hw : op.writtenState id = some target) :
    env.fail = none := by
  rcases Call.writtenState_eq_some.mp hw with rfl | ⟨errorMessage, rfl, -⟩
  · exact hok rfl
  · exact hok rfl

/-- The stored state is one of the three final ones. -/
def Store.terminal (s : Store) (id : UUID) : Bool := (s.stateOf id).any TransferState.isTerminal

/-- The call writes the state of a row that is final already: another operation
    has ended the transfer since this one last looked at it. -/
def Call.OverwritesTerminal (id : UUID) (op : Call) (s : Store) : Prop :=
  op.writtenState id ≠ none ∧ s.terminal id = true

/-! ## What one call does to a row -/

/-- Nothing happens to the stored state, or it is moved along an edge; and a
    written state is really stored. -/
structure Moves (id : UUID) (s : Store) (ev : CallEv) (s' : Store) : Prop where
  along : ∀ state, s.stateOf id = some state →
    s'.stateOf id = some state ∨ ∃ state', s'.stateOf id = some state' ∧ state.Edge state'
  landed : ∀ target, ev.1.writtenState id = some target → s'.stateOf id = some target

/-- Nothing happens to the stored state, or it becomes final. -/
def Settles (id : UUID) (s s' : Store) : Prop :=
  s'.stateOf id = s.stateOf id ∨ s'.terminal id = true

/-- The stored state is still there, some edges further. -/
def Forward (id : UUID) (s s' : Store) : Prop :=
  ∀ state, s.stateOf id = some state →
    ∃ state', s'.stateOf id = some state' ∧ ReflTransGen TransferState.Edge state state'

theorem Store.terminal_iff {s : Store} {id : UUID} :
    s.terminal id = true ↔ ∃ state, s.stateOf id = some state ∧ state.isTerminal = true := by
  rw [Store.terminal, Option.any_eq_true]

theorem Settles.trans {id : UUID} {a b c : Store} (hab : Settles id a b) (hbc : Settles id b c) :
    Settles id a c := by
  rcases hbc with hsame | hterm
  · rcases hab with hsame' | hterm'
    · exact .inl (hsame.trans hsame')
    · refine .inr ?_
      rw [Store.terminal, hsame]
      exact hterm'
  · exact .inr hterm

theorem Forward.trans {id : UUID} {a b c : Store} (hab : Forward id a b) (hbc : Forward id b c) :
    Forward id a c := by
  intro state ha
  obtain ⟨state₁, hb, hreach⟩ := hab state ha
  obtain ⟨state₂, hc, hreach'⟩ := hbc state₁ hb
  exact ⟨state₂, hc, hreach.trans hreach'⟩

theorem Moves.forward {id : UUID} {s s' : Store} {ev : CallEv} (h : Moves id s ev s') :
    Forward id s s' := by
  intro state hs
  rcases h.along state hs with hsame | ⟨state', hs', hedge⟩
  · exact ⟨state, hsame, .refl⟩
  · exact ⟨state', hs', .single hedge⟩

/-- A final state stays. -/
theorem Moves.stateOf_of_isTerminal {id : UUID} {s s' : Store} {ev : CallEv} {state : TransferState}
    (h : Moves id s ev s') (hs : s.stateOf id = some state) (hterm : state.isTerminal = true) :
    s'.stateOf id = some state := by
  rcases h.along state hs with hsame | ⟨state', -, hedge⟩
  · exact hsame
  · rw [hedge.not_isTerminal] at hterm
    cases hterm

theorem Moves.terminal {id : UUID} {s s' : Store} {ev : CallEv} (h : Moves id s ev s')
    (hs : s.terminal id = true) : s'.terminal id = true := by
  obtain ⟨state, hstate, hterm⟩ := Store.terminal_iff.mp hs
  exact Store.terminal_iff.mpr ⟨state, h.stateOf_of_isTerminal hstate hterm, hterm⟩

/-! ## Estimates -/

/-- `Estimate creates K`: when an operation takes the state to be `state` and
    the row holds some `state'` with `K state state'`, the transitions its copy
    allows are transitions of the row, unless the row is final. -/
structure Estimate (creates : Bool) (K : TransferState → TransferState → Prop) : Prop where
  refl : ∀ state, K state state
  edge : ∀ state state' target, K state state' → state'.isTerminal = false →
    state.Edge target → (creates = true ∨ target.isTerminal = true) → state'.Edge target

/-- Nobody else moves the row of the creator, except to its end. -/
def Kept (state state' : TransferState) : Prop := state' = state ∨ state'.isTerminal = true

theorem estimate_kept : Estimate true Kept where
  refl _ := .inl rfl
  edge := by
    rintro state state' target (rfl | hterm) hopen hedge -
    · exact hedge
    · rw [hopen] at hterm
      cases hterm

/-- Where a final state is allowed, it is allowed until the row is final. -/
theorem TransferState.Edge.of_reach {state state' target : TransferState}
    (hreach : ReflTransGen TransferState.Edge state state') (hopen : state'.isTerminal = false)
    (hedge : state.Edge target) (hterm : target.isTerminal = true) : state'.Edge target := by
  induction hreach using ReflTransGen.head_induction_on with
  | refl => exact hedge
  | head hstep hrest ih =>
    rename_i a b
    refine ih ?_
    have hb : b.isTerminal = false := by
      rcases ReflTransGen.cases_head hrest with rfl | ⟨_, hnext, -⟩
      · exact hopen
      · exact hnext.not_isTerminal
    revert hstep hedge hterm hb
    cases a <;> cases b <;> cases target <;> decide

theorem estimate_reach : Estimate false (ReflTransGen TransferState.Edge) where
  refl _ := .refl
  edge := by
    rintro state state' target hreach hopen hedge (hfalse | hterm)
    · cases hfalse
    · exact hedge.of_reach hreach hopen hterm

/-- The row is what the copy says, up to the estimate. -/
def Tracks (K : TransferState → TransferState → Prop) (id : UUID) (m : Copy) (s : Store) : Prop :=
  ∀ state, m.held = some (id, state) → ∃ state', s.stateOf id = some state' ∧ K state state'

theorem tracks_empty {K : TransferState → TransferState → Prop} {id : UUID} {s : Store} :
    Tracks K id {} s := by
  intro state hheld
  cases hheld

theorem Tracks.kept_of_settles {id : UUID} {m : Copy} {s s' : Store} (h : Tracks Kept id m s)
    (hs : Settles id s s') : Tracks Kept id m s' := by
  intro state hheld
  rcases hs with hsame | hterm
  · rw [hsame]
    exact h state hheld
  · obtain ⟨state', hs', hterm'⟩ := Store.terminal_iff.mp hterm
    exact ⟨state', hs', .inr hterm'⟩

theorem Tracks.reach_of_forward {id : UUID} {m : Copy} {s s' : Store}
    (h : Tracks (ReflTransGen TransferState.Edge) id m s) (hs : Forward id s s') :
    Tracks (ReflTransGen TransferState.Edge) id m s' := by
  intro state hheld
  obtain ⟨state₁, hs₁, hreach⟩ := h state hheld
  obtain ⟨state₂, hs₂, hreach'⟩ := hs state₁ hs₁
  exact ⟨state₂, hs₂, hreach.trans hreach'⟩

/-! ## One permitted call -/

theorem Copy.Permits.canMove {creates : Bool} {m : Copy} {op : Call} {id : UUID}
    {target : TransferState} (h : m.Permits creates op) (hw : op.writtenState id = some target) :
    (creates = true ∨ target.isTerminal = true) ∧ m.CanMove id target := by
  rcases Call.writtenState_eq_some.mp hw with rfl | ⟨errorMessage, rfl, rfl⟩
  · exact h
  · exact ⟨.inr rfl, h⟩

/-- After a write, the copy holds what was written. -/
theorem Copy.held_follow_of_write {m : Copy} {op : Call} {id : UUID} {target : TransferState}
    (hw : op.writtenState id = some target) (r : op.Ans) :
    (m.follow ⟨op, r⟩).held = some (id, target) := by
  rcases Call.writtenState_eq_some.mp hw with rfl | ⟨errorMessage, rfl, rfl⟩
  · rfl
  · rfl

/-- A call that leaves the row alone leaves the copy alone, or copies the row. -/
theorem Copy.held_follow_of_inert {m : Copy} {op : Call} {id : UUID} (hi : op.Inert id)
    (env : Env) (s : Store) {state : TransferState}
    (h : (m.follow ⟨op, (exec env op s).1⟩).held = some (id, state)) :
    m.held = some (id, state) ∨ s.stateOf id = some state := by
  obtain ⟨hw, hins⟩ := hi
  cases op with
  | repo call =>
    cases call with
    | createTransfer t =>
      cases hr : (exec env (.repo (.createTransfer t)) s).1 with
      | error err =>
        rw [hr] at h
        exact .inl h
      | ok _ =>
        rw [hr] at h
        have hid : (t.id, t.state) = (id, state) := Option.some.inj h
        exact absurd (congrArg Prod.fst hid) hins
    | getTransferByID id' =>
      cases hfail : env.fail with
      | some err =>
        simp only [exec, execRepo, Env.answer, hfail] at h
        exact .inl h
      | none =>
        -- a copy is made of a row that is found
        simp only [exec, execRepo, Env.answer, hfail] at h
        cases hrow : s.row id' with
        | none =>
          rw [hrow] at h
          exact .inl h
        | some t =>
          rw [hrow] at h
          have hid : (id', t.state) = (id, state) := Option.some.inj h
          cases hid
          exact .inr (by rw [Store.stateOf, hrow]; rfl)
    | updateTransferState id' written =>
      have hid : (id', written) = (id, state) := Option.some.inj h
      cases hid
      simp [Call.writtenState] at hw
    | updateTransferFailed id' errorMessage =>
      have hid : (id', TransferState.failed) = (id, state) := Option.some.inj h
      cases hid
      simp [Call.writtenState] at hw
    | createTransferEvent e =>
      refine .inl ?_
      rw [← h]
      simp only [Copy.follow]
      split <;> rfl
    | _ => exact .inl h
  | _ => exact .inl h

/-- A permitted call moves the row along an edge, and the copy keeps tracking it. -/
theorem Tracks.step {creates : Bool} {K : TransferState → TransferState → Prop} {id : UUID}
    {m : Copy} {op : Call} {env : Env} {s : Store} (hK : Estimate creates K)
    (hperm : m.Permits creates op) (hm : Tracks K id m s) (hok : env.RepoSucceeds op)
    (hfree : ¬ op.OverwritesTerminal id s) :
    Moves id s ⟨op, (exec env op s).1⟩ (exec env op s).2 ∧
      Tracks K id (m.follow ⟨op, (exec env op s).1⟩) (exec env op s).2 := by
  cases hw : op.writtenState id with
  | some target =>
    -- a write: the row holds some `state'` that the copy estimates
    obtain ⟨hallowed, state, hheld, hedge⟩ := hperm.canMove hw
    obtain ⟨state', hs, hrel⟩ := hm state hheld
    have hopen : state'.isTerminal = false := by
      by_contra hterm
      refine hfree ⟨by simp [hw], ?_⟩
      exact Store.terminal_iff.mpr ⟨state', hs, by simpa using hterm⟩
    have hedge' := hK.edge state state' target hrel hopen hedge hallowed
    have hafter : (exec env op s).2.stateOf id = some target := by
      rw [stateOf_exec_of_write hw (hok.of_writtenState hw), hs]
      rfl
    refine ⟨⟨fun st hst => ?_, fun t ht => ?_⟩, fun st hst => ?_⟩
    · rw [hs] at hst
      cases hst
      exact .inr ⟨target, hafter, hedge'⟩
    · rw [hw] at ht
      cases ht
      exact hafter
    · rw [Copy.held_follow_of_write hw] at hst
      cases hst
      exact ⟨target, hafter, hK.refl target⟩
  | none =>
    have hlanded : ∀ target, op.writtenState id = some target →
        (exec env op s).2.stateOf id = some target := by
      intro target ht
      rw [hw] at ht
      cases ht
    by_cases hins : op.inserts id
    · -- an insertion leaves an existing row as it is, and copies a new one
      obtain ⟨t, rfl, rfl⟩ := Call.inserts_iff.mp hins
      have hkeep : ∀ st, s.stateOf t.id = some st →
          (exec env (.repo (.createTransfer t)) s).2.stateOf t.id = some st :=
        fun st hst => stateOf_exec_insert_of_some hst
      refine ⟨⟨fun st hst => .inl (hkeep st hst), hlanded⟩, fun st hst => ?_⟩
      cases hr : (exec env (.repo (.createTransfer t)) s).1 with
      | ok _ =>
        rw [hr] at hst
        cases hst
        exact ⟨t.state, stateOf_exec_of_insert hr, hK.refl t.state⟩
      | error err =>
        rw [hr] at hst
        obtain ⟨state', hs, hrel⟩ := hm st hst
        exact ⟨state', hkeep state' hs, hrel⟩
    · -- any other call leaves the row as it is
      have hsame := stateOf_exec_of_inert ⟨hw, hins⟩ env s
      refine ⟨⟨fun st hst => .inl (hsame.trans hst), hlanded⟩, fun st hst => ?_⟩
      rw [hsame]
      rcases Copy.held_follow_of_inert ⟨hw, hins⟩ env s hst with hold | hread
      · exact hm st hold
      · exact ⟨st, hread, hK.refl st⟩

/-- An operation that inserts nothing can only settle the row. -/
theorem Moves.settles {m : Copy} {op : Call} {id : UUID} {env : Env} {s : Store}
    (hperm : m.Permits false op)
    (h : Moves id s ⟨op, (exec env op s).1⟩ (exec env op s).2) :
    Settles id s (exec env op s).2 := by
  cases hw : op.writtenState id with
  | some target =>
    obtain ⟨hallowed, -⟩ := hperm.canMove hw
    refine .inr (Store.terminal_iff.mpr ⟨target, h.landed target hw, ?_⟩)
    rcases hallowed with hfalse | hterm
    · cases hfalse
    · exact hterm
  | none =>
    refine .inl (stateOf_exec_of_inert ⟨hw, ?_⟩ env s)
    intro hins
    obtain ⟨t, rfl, -⟩ := Call.inserts_iff.mp hins
    cases hperm

/-! ## Every interleaving -/

/-- The call succeeds at the repository, and it does not come too late: it
    writes no state to a row that is final. -/
def Timely (id : UUID) (env : Env) (op : Call) (s : Store) : Prop :=
  env.RepoSucceeds op ∧ ¬ op.OverwritesTerminal id s

section

variable {ι : Type} {id : UUID}

/-- What an operation needs of the steps of the others. -/
def lifecycleRely (id : UUID) : Option ι → Store → Store → Prop
  | none => Settles id
  | some _ => Forward id

/-- What an operation promises of its own steps. -/
def lifecycleGuarantee (id : UUID) : Option ι → Store → CallEv → Store → Prop
  | none, s, ev, s' => Moves id s ev s'
  | some _, s, ev, s' => Moves id s ev s' ∧ Settles id s s'

theorem lifecycleRely_refl (i : Option ι) (s : Store) : lifecycleRely id i s s := by
  cases i with
  | none => exact .inl rfl
  | some i => exact fun state hs => ⟨state, hs, .refl⟩

theorem lifecycleRely_trans (i : Option ι) (a b c : Store) (hab : lifecycleRely id i a b)
    (hbc : lifecycleRely id i b c) : lifecycleRely id i a c := by
  cases i with
  | none => exact Settles.trans hab hbc
  | some i => exact Forward.trans hab hbc

theorem lifecycleRely_of_guarantee (i j : Option ι) (s : Store) (ev : CallEv) (s' : Store)
    (hij : i ≠ j) (h : lifecycleGuarantee id i s ev s') : lifecycleRely id j s s' := by
  cases j with
  | none =>
    cases i with
    | none => exact absurd rfl hij
    | some i => exact h.2
  | some j =>
    cases i with
    | none => exact h.forward
    | some i => exact h.1.forward

variable [UUIDText] (o : Orchestrator) (req : CreateTransferRequest) {others : ι → Request}

theorem rg_concurrently (hothers : ∀ i, (others i).creates = false) (i : Option ι) (s : Store) :
    Prog.rg exec (Timely id) (lifecycleRely id i) (lifecycleGuarantee id i)
      (o.concurrently req others i) (fun _ _ => True) s := by
  cases i with
  | none =>
    have hobeyed : Copy.Obeyed true {} (o.concurrently req others none) :=
      o.obeyed_serve {} (.createTransfer req)
    refine Prog.rg_of_obeys (Tracks Kept id) (fun m s s' => Tracks.kept_of_settles) ?_
      (fun _ _ _ _ _ => trivial) hobeyed tracks_empty
    intro m op hperm s hm env hok
    exact hm.step estimate_kept hperm hok.1 hok.2
  | some i =>
    have hobeyed : Copy.Obeyed false {} (o.concurrently req others (some i)) := by
      rw [← hothers i]
      exact o.obeyed_serve {} (others i)
    refine Prog.rg_of_obeys (Tracks (ReflTransGen TransferState.Edge) id)
      (fun m s s' => Tracks.reach_of_forward) ?_ (fun _ _ _ _ _ => trivial) hobeyed tracks_empty
    intro m op hperm s hm env hok
    obtain ⟨hmoves, htracks⟩ := hm.step estimate_reach hperm hok.1 hok.2
    exact ⟨⟨hmoves, hmoves.settles hperm⟩, htracks⟩

variable {o req} [DecidableEq ι] {s₀ : Store} {tr : Trace (Option ι) Call Call.Ans}
variable {cfg : Config Call Call.Ans Response (Option ι) Store}

/-- Every call of every interleaving moves the row along an edge. -/
theorem moves_of_run (hothers : ∀ i, (others i).creates = false)
    (hrun : Run exec (fun _ => Timely id) ⟨o.concurrently req others, s₀⟩ tr cfg)
    {i : Option ι} {env : Env} {op : Call} {k : op.Ans → Engine Response}
    (hnext : cfg.procs i = .call op k) (hok : Timely id env op cfg.state) :
    Moves id cfg.state ⟨op, (exec env op cfg.state).1⟩ (exec env op cfg.state).2 := by
  have hguarantee := hrun.guarantee lifecycleRely_refl lifecycleRely_trans
    lifecycleRely_of_guarantee (fun j => rg_concurrently o req hothers j s₀) hnext hok
  cases i with
  | none => exact hguarantee
  | some i => exact hguarantee.1

end

/-! ## The timeline -/

/-- The call records the end of the transfer. -/
def Call.recordsEnd (id : UUID) : Call → Bool
  | .repo (.createTransferEvent e) => e.transferID = id && e.eventType.isTerminal
  | _ => false

theorem Call.recordsEnd_of_writtenState {id : UUID} {op : Call} {target : TransferState}
    (hw : op.writtenState id = some target) : op.recordsEnd id = false := by
  rcases Call.writtenState_eq_some.mp hw with rfl | ⟨errorMessage, rfl, -⟩
  · rfl
  · rfl

/-- Ends written but not recorded: what an operation may still add to the timeline. -/
def endWeight (id : UUID) (op : Call) : Int :=
  ((op.writtenState id).any TransferState.isTerminal).toNat - (op.recordsEnd id).toNat

/-- The events that record the end of a transfer. -/
def Store.ends (s : Store) (id : UUID) : Nat :=
  (s.timeline id).countP fun e => e.eventType.isTerminal

theorem ends_exec_le (env : Env) (op : Call) (s : Store) (id : UUID) :
    (exec env op s).2.ends id ≤ s.ends id + (op.recordsEnd id).toNat := by
  rcases timeline_exec env op s id with hsame | ⟨e, rfl, hid, happ⟩
  · rw [Store.ends, hsame, Store.ends]
    omega
  · rw [Store.ends, happ, List.countP_append, Store.ends]
    cases hterm : e.eventType.isTerminal <;> simp [Call.recordsEnd, hid, hterm]

/-- An end is recorded by a call, or the call writes a final state to an open row. -/
theorem Moves.ends_le {env : Env} {op : Call} {s : Store} {id : UUID}
    (h : Moves id s ⟨op, (exec env op s).1⟩ (exec env op s).2)
    (hfree : ¬ op.OverwritesTerminal id s) :
    (exec env op s).2.ends id + endWeight id op + (s.terminal id).toNat ≤
      s.ends id + ((exec env op s).2.terminal id).toNat := by
  have hends := ends_exec_le env op s id
  cases hw : op.writtenState id with
  | none =>
    have hweight : endWeight id op = -(op.recordsEnd id).toNat := by simp [endWeight, hw]
    have hmono : (s.terminal id).toNat ≤ ((exec env op s).2.terminal id).toNat :=
      Bool.toNat_le_toNat h.terminal
    omega
  | some target =>
    -- one call does not write a state and an event; and the row was still open
    have hevent : op.recordsEnd id = false := Call.recordsEnd_of_writtenState hw
    have hopen : s.terminal id = false := by
      by_contra hterm
      exact hfree ⟨by simp [hw], by simpa using hterm⟩
    have hlanded : (exec env op s).2.terminal id = target.isTerminal := by
      rw [Store.terminal, h.landed target hw]
      rfl
    have hweight : endWeight id op = target.isTerminal.toNat := by simp [endWeight, hw, hevent]
    rw [hevent, Bool.toNat_false] at hends
    rw [hopen, hlanded, hweight, Bool.toNat_false]
    omega

/-- What the copy says the operation still owes to the timeline. -/
def Copy.owed (m : Copy) (id : UUID) : Nat := (decide (m.unrecorded = some id)).toNat

theorem Copy.owed_follow_le {creates : Bool} {m : Copy} {ev : CallEv} (id : UUID)
    (hperm : m.Permits creates ev.1) : ((m.follow ev).owed id : Int) ≤ m.owed id + endWeight id ev.1 := by
  obtain ⟨op, r⟩ := ev
  cases op with
  | repo call =>
    cases call with
    | updateTransferState id' state =>
      by_cases hid : id' = id <;> cases hterm : state.isTerminal <;>
        simp_all [Copy.follow, Copy.write, Copy.owed, endWeight, Call.writtenState,
          Call.recordsEnd]
    | updateTransferFailed id' errorMessage =>
      by_cases hid : id' = id <;>
        simp_all [Copy.follow, Copy.write, Copy.owed, endWeight, Call.writtenState,
          Call.recordsEnd, TransferState.isTerminal]
    | createTransferEvent e =>
      -- the event was permitted because its write was still unrecorded
      cases hterm : e.eventType.isTerminal with
      | false => simp [Copy.follow, Copy.owed, endWeight, Call.writtenState, Call.recordsEnd, hterm]
      | true =>
        have hwritten : m.unrecorded = some e.transferID := hperm hterm
        simp [Copy.follow, Copy.owed, endWeight, Call.writtenState, Call.recordsEnd, hterm,
          hwritten]
    | createTransfer t =>
      have hweight : endWeight id (.repo (.createTransfer t)) = 0 := rfl
      rw [hweight, Int.add_zero]
      cases r <;> exact le_refl _
    | getTransferByID id' =>
      have hweight : endWeight id (.repo (.getTransferByID id')) = 0 := rfl
      rw [hweight, Int.add_zero]
      rcases r with err | (_ | t) <;> exact le_refl _
    | _ => simp [Copy.follow, endWeight, Call.writtenState, Call.recordsEnd]
  | _ => simp [Copy.follow, endWeight, Call.writtenState, Call.recordsEnd]

/-- No operation records an end that it did not write. -/
theorem Copy.weigh_nonneg {creates : Bool} {m : Copy} {evs : List CallEv} (id : UUID)
    (hperm : Permitted Copy.follow (Copy.Permits creates) m evs) :
    ((evs.foldl Copy.follow m).owed id : Int) ≤ m.owed id + weigh (endWeight id) evs := by
  induction evs generalizing m with
  | nil => simp [weigh]
  | cons ev evs ih =>
    have hhead := Copy.owed_follow_le id hperm.1
    have htail := ih hperm.2
    have hsum : weigh (endWeight id) (ev :: evs) = endWeight id ev.1 + weigh (endWeight id) evs := by
      simp [weigh]
    rw [List.foldl_cons, hsum]
    omega

section

variable [UUIDText] {ι : Type} [DecidableEq ι] {o : Orchestrator} {req : CreateTransferRequest}
variable {others : ι → Request} {id : UUID} {s₀ : Store} {tr : Trace (Option ι) Call Call.Ans}
variable {cfg : Config Call Call.Ans Response (Option ι) Store}

/-- The ends in the timeline and the ends still to be recorded never add up to
    more than one, and to nothing while the row is open. -/
theorem ends_add_weigh_le (hothers : ∀ i, (others i).creates = false) (hrow : s₀.row id = none)
    (hrun : Run exec (fun _ => Timely id) ⟨o.concurrently req others, s₀⟩ tr cfg) :
    cfg.state.ends id + tr.weigh (endWeight id) ≤ (cfg.state.terminal id).toNat := by
  induction hrun with
  | init =>
    have hends : s₀.ends id = 0 := by rw [Store.ends, Store.timeline_of_row_none hrow]; rfl
    have hweigh : Trace.weigh (endWeight id) ([] : Trace (Option ι) Call Call.Ans) = 0 := rfl
    rw [hends, hweigh]
    omega
  | step hrun hnext hok ih =>
    have hstep := (moves_of_run hothers hrun hnext hok).ends_le hok.2
    rw [Trace.weigh_append]
    simp only [Config.step]
    omega

theorem ends_le_one (hothers : ∀ i, (others i).creates = false) (hrow : s₀.row id = none)
    (hrun : Run exec (fun _ => Timely id) ⟨o.concurrently req others, s₀⟩ tr cfg) :
    cfg.state.ends id ≤ 1 := by
  have hbound := ends_add_weigh_le hothers hrow hrun
  have hweigh : 0 ≤ tr.weigh (endWeight id) := by
    refine Trace.weigh_nonneg fun i => ?_
    obtain ⟨creates, hobeyed⟩ := o.obeyed_concurrently {} req others i
    have howed := Copy.weigh_nonneg id (hrun.obeys_local i hobeyed).1
    have hempty : ({} : Copy).owed id = 0 := rfl
    omega
  have hone := (cfg.state.terminal id).toNat_le
  omega

end

/-! ## Keeping abreast of the others -/

/-- The call ends the transfer: it writes a final state. -/
def Call.endsRow (id : UUID) (op : Call) : Bool := (op.writtenState id).any TransferState.isTerminal

/-- The operation learns the state of the row: it has inserted it, read it, or
    written its state. -/
def CallEv.looksAt (id : UUID) : CallEv → Bool
  | ⟨.repo (.createTransfer t), .ok _⟩ => t.id = id
  | ⟨.repo (.getTransferByID id'), .ok (some _)⟩ => id' = id
  | ⟨op, _⟩ => (op.writtenState id).isSome

/-- Another operation has ended the transfer since `i` last looked at its row. -/
def overtaken {κ : Type} [DecidableEq κ] (id : UUID) (i : κ) (tr : Trace κ Call Call.Ans) : Bool :=
  tr.foldl (fun late e =>
    if e.1 = i then late && !CallEv.looksAt id e.2 else late || e.2.1.endsRow id) false

/-- No operation writes the state when another one has ended the transfer since
    it last looked at the row. -/
def Abreast {κ : Type} [DecidableEq κ] (id : UUID) (tr : Trace κ Call Call.Ans)
    (_ : Config Call Call.Ans Response κ Store) (i : κ) (_ : Env) (op : Call) : Prop :=
  op.writtenState id ≠ none → overtaken id i tr = false

instance {κ : Type} [DecidableEq κ] (id : UUID) (tr : Trace κ Call Call.Ans)
    (cfg : Config Call Call.Ans Response κ Store) (i : κ) (env : Env) (op : Call) :
    Decidable (Abreast id tr cfg i env op) :=
  inferInstanceAs (Decidable (_ → _))

/-- A copy of the row that is final only if the copy says so, or the operation
    is too late. -/
def UnlessLate (late : Bool) (state state' : TransferState) : Prop :=
  late = false → state'.isTerminal = true → state.isTerminal = true

/-- After a look at the row, the copy holds its state. -/
theorem Copy.held_follow_of_looksAt {m : Copy} {op : Call} {env : Env} {s : Store} {id : UUID}
    (hlook : CallEv.looksAt id ⟨op, (exec env op s).1⟩ = true) (hok : env.RepoSucceeds op)
    (hrow : op.writtenState id ≠ none → ∃ state, s.stateOf id = some state) :
    ∃ state, (m.follow ⟨op, (exec env op s).1⟩).held = some (id, state) ∧
      (exec env op s).2.stateOf id = some state := by
  cases hw : op.writtenState id with
  | some target =>
    obtain ⟨state, hs⟩ := hrow (by simp [hw])
    refine ⟨target, Copy.held_follow_of_write hw _, ?_⟩
    rw [stateOf_exec_of_write hw (hok.of_writtenState hw), hs]
    rfl
  | none =>
    cases op with
    | repo call =>
      cases call with
      | createTransfer t =>
        cases hr : (exec env (.repo (.createTransfer t)) s).1 with
        | error err =>
          rw [hr] at hlook
          cases hlook
        | ok _ =>
          rw [hr] at hlook
          obtain rfl : t.id = id := of_decide_eq_true hlook
          exact ⟨t.state, rfl, stateOf_exec_of_insert hr⟩
      | getTransferByID id' =>
        -- a look is a load that has found the row
        have hfail : env.fail = none := hok rfl
        simp only [exec, execRepo, Env.answer, hfail] at hlook ⊢
        cases ht : s.row id' with
        | none =>
          rw [ht] at hlook
          cases hlook
        | some t =>
          rw [ht] at hlook
          obtain rfl : id' = id := of_decide_eq_true hlook
          exact ⟨t.state, rfl, by rw [Store.stateOf, ht]; rfl⟩
      | _ =>
        simp only [CallEv.looksAt, hw] at hlook
        cases hlook
    | _ => cases hlook

/-- Without a look at the row, the copy holds what it held. -/
theorem Copy.held_follow_of_not_looksAt {m : Copy} {ev : CallEv} {id : UUID} {state : TransferState}
    (hlook : CallEv.looksAt id ev = false) (h : (m.follow ev).held = some (id, state)) :
    m.held = some (id, state) := by
  obtain ⟨op, r⟩ := ev
  cases op with
  | repo call =>
    cases call with
    | createTransfer t =>
      rcases r with err | _
      · exact h
      · obtain ⟨rfl, -⟩ := Prod.mk.inj (Option.some.inj h)
        simp [CallEv.looksAt] at hlook
    | getTransferByID id' =>
      rcases r with err | (_ | t)
      · exact h
      · exact h
      · obtain ⟨rfl, -⟩ := Prod.mk.inj (Option.some.inj h)
        simp [CallEv.looksAt] at hlook
    | updateTransferState id' written =>
      obtain ⟨rfl, -⟩ := Prod.mk.inj (Option.some.inj h)
      simp [CallEv.looksAt, Call.writtenState] at hlook
    | updateTransferFailed id' errorMessage =>
      obtain ⟨rfl, -⟩ := Prod.mk.inj (Option.some.inj h)
      simp [CallEv.looksAt, Call.writtenState] at hlook
    | createTransferEvent e =>
      -- an event is noted beside the copy
      rw [← h]
      simp only [Copy.follow]
      split <;> rfl
    | _ => exact h
  | _ => exact h

/-- Nor does the row change that is there. -/
theorem stateOf_exec_of_not_looksAt {op : Call} {env : Env} {s : Store} {id : UUID}
    {state : TransferState} (hlook : CallEv.looksAt id ⟨op, (exec env op s).1⟩ = false)
    (hs : s.stateOf id = some state) : (exec env op s).2.stateOf id = some state := by
  rcases stateOf_exec env op s id with hsame | ⟨target, hw, -⟩ | ⟨t, rfl, -, -, -⟩
  · exact hsame.trans hs
  · rcases Call.writtenState_eq_some.mp hw with rfl | ⟨errorMessage, rfl, -⟩ <;>
      simp [CallEv.looksAt, Call.writtenState] at hlook
  · exact stateOf_exec_insert_of_some hs

/-- A call of the operation itself. -/
theorem Tracks.own {creates : Bool} {late : Bool} {id : UUID} {m : Copy} {op : Call} {env : Env}
    {s : Store} (hm : Tracks (UnlessLate late) id m s) (hperm : m.Permits creates op)
    (hok : env.RepoSucceeds op) :
    Tracks (UnlessLate (late && !CallEv.looksAt id ⟨op, (exec env op s).1⟩)) id
      (m.follow ⟨op, (exec env op s).1⟩) (exec env op s).2 := by
  intro state hheld
  cases hlook : CallEv.looksAt id ⟨op, (exec env op s).1⟩ with
  | true =>
    -- a write finds the row that the copy was made of
    have hrow : op.writtenState id ≠ none → ∃ state, s.stateOf id = some state := by
      intro hw
      obtain ⟨target, hw⟩ := Option.ne_none_iff_exists'.mp hw
      obtain ⟨-, held, hcopy, -⟩ := hperm.canMove hw
      obtain ⟨stored, hs, -⟩ := hm held hcopy
      exact ⟨stored, hs⟩
    obtain ⟨stored, hheld', hs⟩ := Copy.held_follow_of_looksAt (m := m) hlook hok hrow
    rw [hheld'] at hheld
    cases hheld
    exact ⟨state, hs, fun _ hterm => hterm⟩
  | false =>
    obtain ⟨stored, hs, hlate⟩ := hm state (Copy.held_follow_of_not_looksAt hlook hheld)
    refine ⟨stored, stateOf_exec_of_not_looksAt hlook hs, ?_⟩
    rw [Bool.not_false, Bool.and_true]
    exact hlate

/-- A call of another operation. -/
theorem Tracks.other {late : Bool} {id : UUID} {m : Copy} {s : Store}
    (hm : Tracks (UnlessLate late) id m s) (env : Env) (op : Call) :
    Tracks (UnlessLate (late || op.endsRow id)) id m (exec env op s).2 := by
  intro state hheld
  obtain ⟨stored, hs, hlate⟩ := hm state hheld
  have hstill : UnlessLate (late || op.endsRow id) state stored :=
    fun h => hlate (Bool.or_eq_false_iff.mp h).1
  rcases stateOf_exec env op s id with hsame | ⟨target, hw, hafter⟩ | ⟨t, rfl, rfl, -, -⟩
  · exact ⟨stored, hsame.trans hs, hstill⟩
  · -- a state write: too late only if what it has written is final
    refine ⟨target, by rw [hafter, hs]; rfl, fun h hterm => ?_⟩
    have hends := (Bool.or_eq_false_iff.mp h).2
    rw [Call.endsRow, hw, Option.any_some, hterm] at hends
    cases hends
  · exact ⟨stored, stateOf_exec_insert_of_some hs, hstill⟩

section

variable {κ : Type} [DecidableEq κ] {id : UUID} {tr : Trace κ Call Call.Ans}
variable {cfg₀ cfg : Config Call Call.Ans Response κ Store}

theorem overtaken_append (i j : κ) (ev : CallEv) :
    overtaken id i (tr ++ [(j, ev)]) =
      if j = i then overtaken id i tr && !ev.looksAt id else overtaken id i tr || ev.1.endsRow id := by
  rw [overtaken, List.foldl_append]
  rfl

/-- The copies of all operations, as far as they have kept abreast. -/
def InTouch (id : UUID) (tr : Trace κ Call Call.Ans) (s : Store) : Prop :=
  ∀ i, Tracks (UnlessLate (overtaken id i tr)) id ((Trace.local tr i).foldl Copy.follow {}) s

/-- Operations that follow the discipline are in touch in every interleaving of
    succeeding calls. -/
theorem inTouch_of_run (hobeyed : ∀ i, ∃ creates, Copy.Obeyed creates {} (cfg₀.procs i))
    (hrun : Run exec (fun _ env op _ => env.RepoSucceeds op) cfg₀ tr cfg) :
    InTouch id tr cfg.state := by
  induction hrun with
  | init => exact fun i => tracks_empty
  | @step tr cfg j env op k hpast hnext hok ih =>
    intro i
    rw [overtaken_append, Trace.local_append, List.foldl_append]
    by_cases hji : j = i
    · subst hji
      obtain ⟨creates, hproc⟩ := hobeyed j
      have hmove := (hpast.obeys_local j hproc).2
      rw [hnext] at hmove
      simpa [Trace.local, Config.step] using (ih j).own hmove.1 hok
    · simpa [Trace.local, Config.step, hji] using (ih i).other env op

/-- An operation in touch that keeps abreast writes no state to a final row: its
    copy would be final too, and a final state has no transition. -/
theorem InTouch.timely {i : κ} {env : Env} {op : Call} {creates : Bool}
    (h : InTouch id tr cfg.state)
    (hperm : ((Trace.local tr i).foldl Copy.follow {}).Permits creates op)
    (hok : env.RepoSucceeds op) (habreast : Abreast id tr cfg i env op) :
    Timely id env op cfg.state := by
  refine ⟨hok, ?_⟩
  rintro ⟨hw, hterm⟩
  obtain ⟨target, htarget⟩ := Option.ne_none_iff_exists'.mp hw
  obtain ⟨-, state, hheld, hedge⟩ := hperm.canMove htarget
  obtain ⟨stored, hs, hlate⟩ := h i state hheld
  obtain ⟨stored', hs', hfinal⟩ := Store.terminal_iff.mp hterm
  rw [hs] at hs'
  cases hs'
  have hcopy := hlate (habreast hw) hfinal
  rw [hedge.not_isTerminal] at hcopy
  cases hcopy

/-- The next step of operations that keep abreast. -/
theorem timely_of_abreast (hobeyed : ∀ i, ∃ creates, Copy.Obeyed creates {} (cfg₀.procs i))
    (hrun : Run exec (fun _ env op _ => env.RepoSucceeds op) cfg₀ tr cfg) {i : κ} {env : Env}
    {op : Call} {k : op.Ans → Engine Response} (hnext : cfg.procs i = .call op k)
    (hok : env.RepoSucceeds op) (habreast : Abreast id tr cfg i env op) :
    Timely id env op cfg.state := by
  obtain ⟨creates, hproc⟩ := hobeyed i
  have hmove := (hrun.obeys_local i hproc).2
  rw [hnext] at hmove
  exact (inTouch_of_run hobeyed hrun).timely hmove.1 hok habreast

/-- A run of operations that keep abreast. -/
abbrev AbreastRun (id : UUID) (cfg₀ : Config Call Call.Ans Response κ Store)
    (tr : Trace κ Call Call.Ans) (cfg : Config Call Call.Ans Response κ Store) : Prop :=
  RunUnder exec (fun _ env op _ => env.RepoSucceeds op) (Abreast id) cfg₀ tr cfg

theorem run_timely_of_abreast (hobeyed : ∀ i, ∃ creates, Copy.Obeyed creates {} (cfg₀.procs i))
    (hrun : AbreastRun id cfg₀ tr cfg) : Run exec (fun _ => Timely id) cfg₀ tr cfg := by
  induction hrun with
  | init => exact .init
  | step hpast hnext hok habreast ih =>
    exact .step ih hnext (timely_of_abreast hobeyed hpast.run hnext hok habreast)

end

/-! ## The lifecycle contract -/

/-- Over all runs of succeeding repository calls whose steps meet `C`: the stored
    state of `id` changes along edges only, a final one never again, and the
    timeline shows one end at most. -/
structure LifecycleRespected {κ : Type} [DecidableEq κ]
    (C : Trace κ Call Call.Ans → Config Call Call.Ans Response κ Store → κ → Env → Call → Prop)
    (cfg₀ : Config Call Call.Ans Response κ Store) (id : UUID) : Prop where
  edges : ∀ {tr cfg i env op k state},
    RunUnder exec (fun _ env op _ => env.RepoSucceeds op) C cfg₀ tr cfg →
    cfg.procs i = .call op k → env.RepoSucceeds op → C tr cfg i env op →
    cfg.state.stateOf id = some state →
    (exec env op cfg.state).2.stateOf id = some state ∨
    ∃ state', (exec env op cfg.state).2.stateOf id = some state' ∧ state.Edge state'
  absorbing : ∀ {tr cfg later cfg' state},
    RunUnder exec (fun _ env op _ => env.RepoSucceeds op) C cfg₀ tr cfg →
    RunUnder exec (fun _ env op _ => env.RepoSucceeds op) (fun past => C (tr ++ past)) cfg later cfg' →
    cfg.state.stateOf id = some state → state.isTerminal = true →
    cfg'.state.stateOf id = some state
  single : ∀ {tr cfg}, RunUnder exec (fun _ env op _ => env.RepoSucceeds op) C cfg₀ tr cfg →
    cfg.state.ends id ≤ 1

section

variable [UUIDText] {ι : Type} [DecidableEq ι]

/-- One `createTransfer` with any family of cancellations and progress reports,
    in any order of their calls: the lifecycle is respected as long as nobody
    ends the transfer between another one's last look at the row and its state
    write. -/
theorem lifecycleRespected_of_abreast (o : Orchestrator) (req : CreateTransferRequest)
    (others : ι → Request) (id : UUID) (s₀ : Store)
    (hothers : ∀ i, (others i).creates = false) (hrow : s₀.row id = none) :
    LifecycleRespected (Abreast id) ⟨o.concurrently req others, s₀⟩ id := by
  have hobeyed := o.obeyed_concurrently {} req others
  constructor
  case edges =>
    intro tr cfg i env op k state hrun hnext hok habreast hs
    have htimely := timely_of_abreast hobeyed hrun.run hnext hok habreast
    exact (moves_of_run hothers (run_timely_of_abreast hobeyed hrun) hnext htimely).along _ hs
  case absorbing =>
    intro tr cfg later cfg' state hrun hlater hs hterm
    induction hlater with
    | init => exact hs
    | step hrest hnext hok habreast ih =>
      have hpast := hrun.trans hrest
      have htimely := timely_of_abreast hobeyed hpast.run hnext hok habreast
      have hmoves := moves_of_run hothers (run_timely_of_abreast hobeyed hpast) hnext htimely
      exact hmoves.stateOf_of_isTerminal ih hterm
  case single =>
    intro tr cfg hrun
    exact ends_le_one hothers hrow (run_timely_of_abreast hobeyed hrun)

end

/-- The default configuration, with no optional dependency. -/
def plainOrchestrator : Orchestrator where
  s3Config := { configured := false }
  config := defaultTransferConfig
  progressHub := false
  metrics := false

/-- A request between two clusters. -/
def sampleRequest : CreateTransferRequest where
  sourceCluster := "east"
  sourcePVC := "apps/data"
  destinationCluster := "west"
  destinationPVC := "apps/data"

/-- `n` calls of one program in a row, nothing fails, and identifiers are drawn
    from `fresh` on. -/
def moves {κ : Type} (i : κ) (fresh n : Nat) : List (κ × Env) :=
  (List.range n).map fun k => (i, { uuid := BitVec.ofNat 128 (fresh + k) })

/-- The sample request next to a cancellation of the transfer it may insert. -/
def cancelledCreate : Config Call Call.Ans Response (Option Unit) Store where
  procs := @Orchestrator.concurrently canonicalText Unit plainOrchestrator sampleRequest
    fun _ => .cancelTransfer 7
  state := .empty

/-- The creator starts the transfer, and then the cancellation reads the row and
    ends it: both keep abreast, and the contract is not about an empty run. -/
theorem lifecycleRespected_cancelledCreate :
    LifecycleRespected (Abreast 7) cancelledCreate 7 ∧
    ∃ tr cfg, AbreastRun 7 cancelledCreate tr cfg ∧
      cfg.state.stateOf 7 = some .cancelled ∧ cfg.state.ends 7 = 1 := by
  refine ⟨@lifecycleRespected_of_abreast canonicalText Unit _ plainOrchestrator sampleRequest
    (fun _ => .cancelTransfer 7) 7 .empty (fun _ => rfl) rfl, ?_⟩
  let ok : Option Unit → Env → Call → Store → Prop := fun _ env op _ => env.RepoSucceeds op
  have hend : (Config.followUnder exec ok (Abreast 7) [] cancelledCreate
      (moves none 7 21 ++ moves (some ()) 100 12)).any fun out =>
      out.2.state.stateOf 7 = some .cancelled ∧ out.2.state.ends 7 = 1 := by decide +kernel
  obtain ⟨⟨tr, cfg⟩, hfollow, hout⟩ := (Option.any_eq_true _ _).mp hend
  exact ⟨tr, cfg, .of_followUnder .init hfollow, of_decide_eq_true hout⟩

/-- Without that condition it is not: the creator inserts the row (six calls),
    a cancellation reads it and writes `cancelled` (three), and the creator
    goes on to write `validating`. -/
theorem not_lifecycleRespected_cancelledCreate :
    ¬ LifecycleRespected (fun _ _ _ _ _ => True) cancelledCreate 7 := by
  intro h
  let ok : Option Unit → Env → Call → Store → Prop := fun _ env op _ => env.RepoSucceeds op
  let toCancelled := moves none 7 6 ++ moves (some ()) 100 3
  obtain ⟨_, hrun⟩ := Run.after exec ok cancelledCreate toCancelled (by decide +kernel)
  obtain ⟨_, hrun'⟩ := Run.after exec ok (cancelledCreate.after exec ok toCancelled)
    (moves none 200 1) (by decide +kernel)
  have hsame : _ = some TransferState.cancelled :=
    h.absorbing hrun.unconditional hrun'.unconditional (by decide +kernel) rfl
  revert hsame
  decide +kernel

end Katapult
