/-
  Katapult.Transfer.Ownership

  The transfers that one creator has in flight: the rows with its `created_by`
  that are not final.  Only a creation by that creator adds to them, and only
  while it is under way; everything else can just end them.  Two monitors follow
  a creation and a cancellation closely enough to say, from what the calls
  answered, what the operation has left in flight when it returns.
-/

import Katapult.Transfer.PrivateCopy
import Katapult.Transfer.Lifecycle

namespace Katapult

open Effect

/-- The transfer was created by `owner` and is not final. -/
def Store.Active (s : Store) (owner : String) (id : UUID) : Prop :=
  ∃ t, s.row id = some t ∧ t.createdBy = owner ∧ t.isTerminal = false

instance (s : Store) (owner : String) (id : UUID) : Decidable (s.Active owner id) :=
  decidable_of_iff ((s.row id).any fun t => t.createdBy = owner ∧ t.isTerminal = false) (by
    simp [Store.Active, Option.any_eq_true])

/-- Rows stay, each with its creator. -/
def Store.Kept (s s' : Store) : Prop :=
  ∀ id t, s.row id = some t → ∃ t', s'.row id = some t' ∧ t'.createdBy = t.createdBy

/-- The creator's transfers in flight are among those it had. -/
def Store.Shrinks (owner : String) (s s' : Store) : Prop :=
  ∀ id, s'.Active owner id → s.Active owner id

theorem Store.Kept.trans {a b c : Store} (hab : a.Kept b) (hbc : b.Kept c) : a.Kept c := by
  intro id t ha
  obtain ⟨t₁, hb, hby⟩ := hab id t ha
  obtain ⟨t₂, hc, hby'⟩ := hbc id t₁ hb
  exact ⟨t₂, hc, hby'.trans hby⟩

theorem kept_exec (env : Env) (op : Call) (s : Store) : s.Kept (exec env op s).2 := by
  intro id t hrow
  obtain ⟨t', hrow', horigin⟩ := row_exec_of_some hrow env op
  refine ⟨t', hrow', ?_⟩
  simp only [Transfer.origin, Prod.mk.injEq] at horigin
  exact horigin.2.2.2.2.2

theorem Store.Active.stateOf {s : Store} {owner : String} {id : UUID} (h : s.Active owner id) :
    ∃ state, s.stateOf id = some state ∧ state.isTerminal = false := by
  obtain ⟨t, hrow, -, hopen⟩ := h
  exact ⟨t.state, by rw [Store.stateOf, hrow]; rfl, hopen⟩

/-- Where a transfer in flight after a call comes from: it was in flight before,
    the call inserted it, or the call wrote a state to it that is not final. -/
theorem Store.Active.of_exec {env : Env} {op : Call} {s : Store} {owner : String} {id : UUID}
    (h : (exec env op s).2.Active owner id) :
    s.Active owner id ∨
    (∃ t, op = .repo (.createTransfer t) ∧ t.id = id ∧ t.createdBy = owner) ∨
    ∃ state t, op.writtenState id = some state ∧ state.isTerminal = false ∧
      s.row id = some t ∧ t.createdBy = owner := by
  obtain ⟨t', hrow', hby', hopen'⟩ := h
  have hstate' : (exec env op s).2.stateOf id = some t'.state := by
    rw [Store.stateOf, hrow']
    rfl
  cases hrow : s.row id with
  | none =>
    -- only an insertion makes a row
    have hnone : s.stateOf id = none := by rw [Store.stateOf, hrow]; rfl
    rcases stateOf_exec env op s id with hsame | ⟨state, -, hafter⟩ | ⟨t, rfl, hid, -, -⟩
    · rw [hsame, hnone] at hstate'
      cases hstate'
    · rw [hafter, hnone] at hstate'
      cases hstate'
    · refine .inr (.inl ⟨t, rfl, hid, ?_⟩)
      have hinsert := row_execRepo env (.createTransfer t) s id
      simp only [exec] at hrow'
      rw [hrow', hrow] at hinsert
      cases hfail : env.fail with
      | some err => simp [hfail] at hinsert
      | none =>
        simp only [hfail, if_true, RepoCall.onRow, hid, and_self, Option.some.injEq] at hinsert
        rw [← hinsert]
        exact hby'
  | some t =>
    obtain ⟨t'', hrow'', hby''⟩ := kept_exec env op s id t hrow
    rw [hrow'] at hrow''
    cases hrow''
    have hstate : s.stateOf id = some t.state := by rw [Store.stateOf, hrow]; rfl
    have hby : t.createdBy = owner := hby''.symm.trans hby'
    rcases stateOf_exec env op s id with hsame | ⟨state, hw, hafter⟩ | ⟨_, -, -, hfresh, -⟩
    · rw [hsame, hstate] at hstate'
      refine .inl ⟨t, hrow, hby, ?_⟩
      rw [Transfer.isTerminal, Option.some.inj hstate']
      exact hopen'
    · rw [hafter, hstate] at hstate'
      have hwritten : state = t'.state := Option.some.inj hstate'
      refine .inr (.inr ⟨state, t, hw, ?_, rfl, hby⟩)
      rw [hwritten]
      exact hopen'
    · rw [hrow] at hfresh
      cases hfresh

/-- A call that fails has changed nothing. -/
theorem exec_of_fail {env : Env} {err : Err} (h : env.fail = some err) {op : Call} {s : Store} :
    (exec env op s).2 = s := by
  cases op with
  | repo call => cases call <;> first | rfl | exact congrArg Prod.snd (Env.write_of_fail h s _)
  | _ => rfl

/-- Nor has an insertion that was answered with an error. -/
theorem exec_insert_of_error {env : Env} {t : Transfer} {s : Store} {err : Err}
    (h : (exec env (.repo (.createTransfer t)) s).1 = .error err) :
    (exec env (.repo (.createTransfer t)) s).2 = s := by
  simp only [exec, execRepo] at h ⊢
  rcases env.write_cases s (Store.insertTransfer · t) with ⟨err', hwrite⟩ | ⟨s', -, hwrite⟩
  · rw [hwrite]
  · rw [hwrite] at h
    cases h

/-! ## What only ends transfers -/

/-- The call inserts nothing and writes final states only. -/
def Call.Settling (op : Call) : Prop :=
  (∀ t, op ≠ .repo (.createTransfer t)) ∧
  ∀ id state, op.writtenState id = some state → state.isTerminal = true

theorem Call.Settling.shrinks {op : Call} (h : op.Settling) (owner : String) (env : Env)
    (s : Store) : s.Shrinks owner (exec env op s).2 := by
  intro id hact
  rcases hact.of_exec with hold | ⟨t, rfl, -⟩ | ⟨state, t, hw, hopen, -⟩
  · exact hold
  · exact absurd rfl (h.1 t)
  · rw [h.2 id state hw] at hopen
    cases hopen

/-- Outside creations the engine only ends transfers. -/
theorem Copy.Permits.settling {m : Copy} {op : Call} (h : m.Permits false op) : op.Settling := by
  constructor
  · rintro t rfl
    cases h
  · intro id state hw
    obtain ⟨hallowed, -⟩ := h.canMove hw
    rcases hallowed with hfalse | hterm
    · cases hfalse
    · exact hterm

/-! ## Creation -/

/-- Calls that leave the `transfers` table alone. -/
def Call.OffTable : Call → Prop
  | .repo (.createTransferEvent _) => True
  | .repo _ => False
  | _ => True

theorem Call.Ambient.offTable {op : Call} (h : op.Ambient) : op.OffTable := by
  cases op <;> first | exact h.elim | trivial

theorem Call.RecordsEvent.offTable {op : Call} {id : UUID} {eventType : EventType}
    (h : op.RecordsEvent id eventType) : op.OffTable := by
  cases op with
  | repo call => cases call <;> first | exact h.elim | trivial
  | _ => trivial

theorem Call.OffTable.settling {op : Call} (h : op.OffTable) : op.Settling := by
  constructor
  · rintro t rfl
    exact h
  · intro id state hw
    rcases Call.writtenState_eq_some.mp hw with rfl | ⟨errorMessage, rfl, -⟩
    · exact h.elim
    · exact h.elim

theorem Call.settling_getTransferByID (id : UUID) :
    Call.Settling (.repo (.getTransferByID id)) := by
  constructor
  · intro t h
    cases h
  · intro id' state hw
    cases hw

/-- The row that the call, an UPDATE on the way of a creation, takes further or
    fails. -/
def Call.advances : Call → Option UUID
  | .repo (.updateTransferState id state) => if state.isTerminal then none else some id
  | .repo (.updateTransferStrategy id _) => some id
  | .repo (.updateTransferStarted id) => some id
  | .repo (.updateTransferFailed id _) => some id
  | _ => none

/-- What a creation has in flight: nothing yet, the row it inserted, or nothing
    any more. -/
inductive Creation where
  | unborn
  | live (id : UUID)
  | ended

namespace Creation

/-- An UPDATE that is answered with an error ends the creation too: the caller
    is told that there is no transfer. -/
def follow : Creation → CallEv → Creation
  | .unborn, ⟨.repo (.createTransfer t), .ok _⟩ => .live t.id
  | .live _, ⟨.repo (.updateTransferFailed _ _), _⟩ => .ended
  | .live _, ⟨.repo (.updateTransferState _ _), .error _⟩ => .ended
  | .live _, ⟨.repo (.updateTransferStrategy _ _), .error _⟩ => .ended
  | .live _, ⟨.repo (.updateTransferStarted _), .error _⟩ => .ended
  | m, _ => m

/-- One insertion, in the name of `owner`, and UPDATEs of the row it made. -/
def Permits (owner : String) : Creation → Call → Prop
  | .unborn, .repo (.createTransfer t) => t.createdBy = owner
  | .live id, .repo (.updateTransferState id' state) => id' = id ∧ state.isTerminal = false
  | .live id, .repo (.updateTransferStrategy id' _) => id' = id
  | .live id, .repo (.updateTransferStarted id') => id' = id
  | .live id, .repo (.updateTransferFailed id' _) => id' = id
  | _, op => op.OffTable

/-- The answer of the creation names what it has left in flight. -/
def Returns : Except Err CreateTransferResponse → Creation → Prop
  | .ok resp, m => m = .live resp.transferID
  | .error _, m => ∀ id, m ≠ .live id

/-- The program makes one creation in the name of `owner`. -/
abbrev Obeyed (owner : String) (m : Creation) (p : Engine (Except Err CreateTransferResponse)) :
    Prop :=
  Prog.Obeys follow (Permits owner) Returns m p

theorem permits_offTable (owner : String) (m : Creation) {op : Call} (h : op.OffTable) :
    m.Permits owner op ∧ ∀ r, m.follow ⟨op, r⟩ = m := by
  cases op with
  | repo call =>
    cases call with
    | createTransferEvent e => cases m <;> exact ⟨trivial, fun _ => rfl⟩
    | _ => exact h.elim
  | _ => cases m <;> exact ⟨trivial, fun _ => rfl⟩

section

variable {owner : String} {m : Creation} {α : Type}

theorem Obeyed.ambient {p : Engine α} {f : α → Engine (Except Err CreateTransferResponse)}
    (hp : p.All Call.Ambient) (hf : ∀ a, Obeyed owner m (f a)) : Obeyed owner m (p >>= f) :=
  Prog.Obeys.skip (hp.mono fun _ hop => permits_offTable owner m hop.offTable) hf

theorem Obeyed.createEvent {id : UUID} {eventType : EventType} {message : String}
    {metadata : Option (List (String × String))}
    {f : Unit → Engine (Except Err CreateTransferResponse)} (hf : Obeyed owner m (f ())) :
    Obeyed owner m (createEvent id eventType message metadata >>= f) :=
  Prog.Obeys.skip ((all_createEvent id eventType message metadata).mono fun _ hop =>
    permits_offTable owner m hop.offTable) fun _ => hf

end

end Creation

namespace Orchestrator

open Creation

theorem creation_failTransfer {owner : String} {id : UUID} (errorMessage eventMessage : String)
    (err : Err) :
    Creation.Obeyed owner (.live id)
      (do failTransfer id errorMessage eventMessage; return .error err) :=
  ⟨rfl, fun _ => Obeyed.createEvent nofun⟩

variable [UUIDText] (o : Orchestrator) (req : CreateTransferRequest)

theorem creation_commandAgents (owner : String) (id : UUID) :
    Creation.Obeyed owner (.live id) (commandAgents req id) := by
  refine ⟨trivial, fun src => ?_⟩
  rcases src with err | _
  · exact creation_failTransfer _ _ _
  refine ⟨trivial, fun dest => ?_⟩
  rcases dest with err | _
  · exact creation_failTransfer _ _ _
  · rfl

theorem creation_startTransfer (owner : String) (transfer : Transfer)
    (hstate : transfer.state = .validating) :
    Creation.Obeyed owner (.live transfer.id) (o.startTransfer req transfer) := by
  unfold startTransfer
  split
  · exact ⟨rfl, fun _ => nofun⟩
  refine ⟨rfl, fun strategy => ?_⟩
  rcases strategy with err | _
  · exact nofun
  split
  · -- a validating transfer can move on
    rename_i hmove
    have hedge := Transfer.not_edge_of_transitionTo_eq_error hmove
    rw [hstate] at hedge
    exact absurd (by decide) hedge
  refine ⟨⟨rfl, rfl⟩, fun written => ?_⟩
  rcases written with err | _
  · exact nofun
  refine ⟨rfl, fun started => ?_⟩
  rcases started with err | _
  · exact nofun
  exact Obeyed.createEvent (creation_commandAgents req owner transfer.id)

theorem creation_admitTransfer (transfer : Transfer) (hstate : transfer.state = .pending) :
    Creation.Obeyed transfer.createdBy .unborn (o.admitTransfer req transfer) := by
  unfold admitTransfer
  refine Prog.Obeys.perform rfl fun inserted => ?_
  rcases inserted with err | _
  · exact nofun
  refine Obeyed.createEvent ?_
  split
  · -- so can a pending one
    rename_i hmove
    have hedge := Transfer.not_edge_of_transitionTo_eq_error hmove
    rw [hstate] at hedge
    exact absurd (by decide) hedge
  rename_i transfer' hmove
  obtain ⟨-, rfl⟩ := Transfer.transitionTo_eq_ok.mp hmove
  refine Prog.Obeys.perform ⟨rfl, rfl⟩ fun written => ?_
  rcases written with err | _
  · exact nofun
  refine Obeyed.ambient (all_validateTransferRequest _) fun valid => ?_
  rcases valid with err | _
  · exact creation_failTransfer _ _ _
  exact Obeyed.createEvent (creation_startTransfer o req transfer.createdBy
    { transfer with state := .validating } rfl)

theorem creation_createTransfer :
    Creation.Obeyed req.createdBy .unborn (o.createTransfer req) :=
  ⟨trivial, fun id => ⟨trivial, fun now => creation_admitTransfer o req
    (o.newTransfer req id now) rfl⟩⟩

end Orchestrator

namespace Creation

/-- All that `owner` has in flight is what its creation has. -/
def Covers (owner : String) (m : Creation) (s : Store) : Prop :=
  ∀ id, s.Active owner id → m = .live id

theorem Covers.of_shrinks {owner : String} {m : Creation} {s s' : Store} (h : m.Covers owner s)
    (hs : s.Shrinks owner s') : m.Covers owner s' :=
  fun id hact => h id (hs id hact)

/-- The row the creation works on is its own. -/
def Holds (owner : String) (m : Creation) (s : Store) : Prop :=
  ∀ id, m = .live id → ∃ t, s.row id = some t ∧ t.createdBy = owner

theorem Holds.of_kept {owner : String} {m : Creation} {s s' : Store} (h : m.Holds owner s)
    (hs : s.Kept s') : m.Holds owner s' := by
  intro id hm
  obtain ⟨t, hrow, hby⟩ := h id hm
  obtain ⟨t', hrow', hby'⟩ := hs id t hrow
  exact ⟨t', hrow', hby'.trans hby⟩

section

variable {owner : String} {m : Creation} {op : Call} {s : Store} {env : Env}

/-- A live creation stays with its row, or ends. -/
theorem follow_live (id : UUID) (ev : CallEv) :
    (live id).follow ev = .live id ∨ (live id).follow ev = .ended := by
  unfold follow
  split <;> simp_all

theorem Holds.step (h : m.Holds owner s) (hperm : m.Permits owner op) :
    (m.follow ⟨op, (exec env op s).1⟩).Holds owner (exec env op s).2 := by
  intro id hlive
  cases m with
  | unborn =>
    cases op with
    | repo call =>
      cases call with
      | createTransfer t =>
        -- an accepted insertion
        generalize hanswer : (exec env (.repo (.createTransfer t)) s).1 = r at hlive
        rcases r with err | _
        · cases hlive
        · cases hlive
          exact ⟨t, row_exec_of_insert hanswer, hperm⟩
      | _ => cases hlive
    | _ => cases hlive
  | live id' =>
    rcases follow_live id' ⟨op, (exec env op s).1⟩ with hsame | hended
    · rw [hsame] at hlive
      exact h.of_kept (kept_exec env op s) id hlive
    · rw [hended] at hlive
      cases hlive
  | ended => cases hlive

/-- A call that succeeds takes a live creation no further, unless it fails the row. -/
theorem follow_live_of_ok (hfail : env.fail = none) {id : UUID}
    (hop : ∀ id' errorMessage, op ≠ .repo (.updateTransferFailed id' errorMessage)) :
    (live id).follow ⟨op, (exec env op s).1⟩ = .live id := by
  cases op with
  | repo call =>
    cases call with
    | updateTransferFailed id' errorMessage => exact absurd rfl (hop id' errorMessage)
    | _ => simp [exec, execRepo, Env.write, hfail, Store.updateTransfer, follow]
  | _ => rfl

/-- A call that fails takes it no further, unless it is an UPDATE of its row. -/
theorem follow_live_of_advances {id : UUID} (hperm : (live id).Permits owner op)
    (hop : op.advances ≠ some id) (r : op.Ans) : (live id).follow ⟨op, r⟩ = .live id := by
  cases op with
  | repo call =>
    cases call with
    | updateTransferState id' state =>
      obtain ⟨rfl, hopen⟩ := hperm
      simp [Call.advances, hopen] at hop
    | updateTransferStrategy id' strategy => exact absurd (congrArg some hperm) hop
    | updateTransferStarted id' => exact absurd (congrArg some hperm) hop
    | updateTransferFailed id' errorMessage => exact absurd (congrArg some hperm) hop
    | createTransferEvent e => rfl
    | _ => exact hperm.elim
  | _ => rfl

/-- A creation stays in charge of all that its owner has in flight, when no
    UPDATE of its row fails while the row is in flight. -/
theorem Covers.step (h : m.Covers owner s) (hperm : m.Permits owner op)
    (hland : ∀ id, op.advances = some id → env.fail ≠ none → ¬ s.Active owner id) :
    (m.follow ⟨op, (exec env op s).1⟩).Covers owner (exec env op s).2 := by
  intro id hact
  cases hfail : env.fail with
  | some err =>
    -- nothing has changed
    rw [exec_of_fail hfail] at hact
    have hm := h id hact
    subst hm
    refine follow_live_of_advances hperm (fun hadv => ?_) _
    exact hland id hadv (by simp [hfail]) hact
  | none =>
    rcases hact.of_exec with hold | ⟨t, rfl, rfl, -⟩ | ⟨state, t, hw, hopen, -, -⟩
    · have hm := h id hold
      subst hm
      refine follow_live_of_ok hfail ?_
      -- a failed row is not in flight any more
      rintro id' errorMessage rfl
      obtain rfl : id' = id := hperm
      obtain ⟨state, hstate, hopen⟩ := hact.stateOf
      rw [stateOf_exec_of_write (Call.writtenState_eq_some.mpr (.inr ⟨_, rfl, rfl⟩)) hfail] at hstate
      obtain ⟨_, -, rfl⟩ := Option.map_eq_some_iff.mp hstate
      cases hopen
    · cases m with
      | unborn =>
        generalize hanswer : (exec env (.repo (.createTransfer t)) s).1 = r
        rcases r with err | _
        · -- a refused insertion
          rw [exec_insert_of_error hanswer] at hact
          cases h t.id hact
        · rfl
      | _ => exact hperm.elim
    · rcases Call.writtenState_eq_some.mp hw with rfl | ⟨errorMessage, rfl, rfl⟩
      · cases m with
        | live id' =>
          obtain ⟨rfl, -⟩ := hperm
          exact follow_live_of_ok hfail nofun
        | _ => exact hperm.elim
      · cases hopen

/-- A creation in another name leaves the owner's transfers alone. -/
theorem Holds.shrinks {other : String} (hne : other ≠ owner) (h : m.Holds other s)
    (hperm : m.Permits other op) : s.Shrinks owner (exec env op s).2 := by
  intro id hact
  rcases hact.of_exec with hold | ⟨t, rfl, rfl, hby⟩ | ⟨state, t, hw, hopen, hrow, hby⟩
  · exact hold
  · cases m with
    | unborn => exact absurd (hperm.symm.trans hby) hne
    | _ => exact hperm.elim
  · rcases Call.writtenState_eq_some.mp hw with rfl | ⟨errorMessage, rfl, rfl⟩
    · cases m with
      | live id' =>
        obtain ⟨rfl, -⟩ := hperm
        obtain ⟨t', hrow', hby'⟩ := h _ rfl
        rw [hrow] at hrow'
        cases hrow'
        exact absurd (hby'.symm.trans hby) hne
      | _ => exact hperm.elim
    · cases hopen

end

end Creation

/-! ## Cancellation -/

/-- The transfer that the call, one of the two a cancellation depends on, is about. -/
def Call.cancels : Call → Option UUID
  | .repo (.getTransferByID id) => some id
  | .repo (.updateTransferState id .cancelled) => some id
  | _ => none

namespace Cancellation

/-- Whether the cancellation has nothing left to do: the transfer is gone or
    final, or its end has been written.  An error ends the cancellation too. -/
def follow : Bool → CallEv → Bool
  | _, ⟨.repo (.getTransferByID _), .ok (some t)⟩ => t.isTerminal
  | _, ⟨.repo (.getTransferByID _), _⟩ => true
  | _, ⟨.repo (.updateTransferState _ _), _⟩ => true
  | settled, _ => settled

def Permits (id : UUID) (_ : Bool) : Call → Prop
  | .repo (.createTransfer _) => False
  | .repo (.getTransferByID id') => id' = id
  | .repo (.updateTransferState id' state) => id' = id ∧ state = .cancelled
  | .repo (.updateTransferFailed _ _) => False
  | _ => True

/-- The program cancels `id`, and is done when it returns. -/
abbrev Obeyed (id : UUID) (settled : Bool) (p : Engine (Except Err Unit)) : Prop :=
  Prog.Obeys follow (Permits id) (fun _ settled => settled = true) settled p

theorem permits_passive (id : UUID) (settled : Bool) {op : Call} (h : op.Passive) :
    Permits id settled op ∧ ∀ r, follow settled ⟨op, r⟩ = settled := by
  cases op with
  | repo call => exact h.elim
  | _ => exact ⟨trivial, fun _ => rfl⟩

theorem permits_recordsEvent (id : UUID) (settled : Bool) {id' : UUID} {eventType : EventType}
    {op : Call} (h : op.RecordsEvent id' eventType) :
    Permits id settled op ∧ ∀ r, follow settled ⟨op, r⟩ = settled := by
  cases op with
  | repo call => cases call <;> first | exact h.elim | exact ⟨trivial, fun _ => rfl⟩
  | _ => exact ⟨trivial, fun _ => rfl⟩

theorem Obeyed.passive {id : UUID} {settled : Bool} {α : Type} {p : Engine α}
    {f : α → Engine (Except Err Unit)} (hp : p.All Call.Passive)
    (hf : ∀ a, Obeyed id settled (f a)) : Obeyed id settled (p >>= f) :=
  Prog.Obeys.skip (hp.mono fun _ => permits_passive id settled) hf

theorem Obeyed.createEvent {id : UUID} {settled : Bool} {id' : UUID} {eventType : EventType}
    {message : String} {metadata : Option (List (String × String))}
    {f : Unit → Engine (Except Err Unit)} (hf : Obeyed id settled (f ())) :
    Obeyed id settled (createEvent id' eventType message metadata >>= f) :=
  Prog.Obeys.skip ((all_createEvent id' eventType message metadata).mono fun _ =>
    permits_recordsEvent id settled) fun _ => hf

end Cancellation

theorem cancellation_executeCleanup [UUIDText] (id : UUID) (transfer : Transfer)
    (a : Except Err Unit) :
    Cancellation.Obeyed id true (do executeCleanup transfer; return a) :=
  Cancellation.Obeyed.passive (all_executeCleanup transfer) fun _ => rfl

open Cancellation in
theorem Orchestrator.cancellation_cancelTransfer [UUIDText] (o : Orchestrator) (id : UUID) :
    Cancellation.Obeyed id false (o.cancelTransfer id) := by
  unfold Orchestrator.cancelTransfer
  refine Prog.Obeys.perform rfl fun loaded => ?_
  rcases loaded with err | (_ | transfer)
  · rfl
  · rfl
  dsimp only
  split
  · -- final already
    assumption
  rename_i hopen
  split
  · -- a transfer that is not final can be cancelled
    rename_i hmove
    have hedge := TransferState.edge_cancelled (Bool.not_eq_true _ ▸ hopen)
    exact absurd hedge (Transfer.not_edge_of_transitionTo_eq_error hmove)
  refine ⟨trivial, fun now => ⟨⟨rfl, rfl⟩, fun written => ?_⟩⟩
  rcases written with err | _
  · rfl
  refine ⟨trivial, fun completed => ?_⟩
  rcases completed with err | _
  · rfl
  refine Cancellation.Obeyed.createEvent ?_
  refine Obeyed.passive ((o.all_closeTransfer id).mono fun _ h => h.passive) fun _ => ?_
  refine Obeyed.passive ((o.all_onTransferStateChange _ _ _).mono fun _ h => h.passive) fun _ => ?_
  exact ⟨trivial, fun _ => ⟨trivial, fun _ => cancellation_executeCleanup id _ _⟩⟩

namespace Cancellation

theorem Permits.settling {id : UUID} {settled : Bool} {op : Call} (h : Permits id settled op) :
    op.Settling := by
  constructor
  · rintro t rfl
    exact h
  · intro id' state hw
    rcases Call.writtenState_eq_some.mp hw with rfl | ⟨errorMessage, rfl, -⟩
    · rw [h.2]
      rfl
    · exact h.elim

/-- All that `owner` has in flight is `id`, and where cancellations are known to
    land, not even that once this one has settled. -/
def Covers (lands : Prop) (owner : String) (id : UUID) (settled : Bool) (s : Store) : Prop :=
  (∀ id', s.Active owner id' → id' = id) ∧
  (lands → settled = true → ∀ id', ¬ s.Active owner id')

theorem Covers.of_shrinks {lands : Prop} {owner : String} {id : UUID} {settled : Bool}
    {s s' : Store} (h : Covers lands owner id settled s) (hs : s.Shrinks owner s') :
    Covers lands owner id settled s' :=
  ⟨fun id' hact => h.1 id' (hs id' hact), fun hl hsettled id' hact => h.2 hl hsettled id' (hs id' hact)⟩

theorem Covers.step {lands : Prop} {owner : String} {id : UUID} {settled : Bool} {op : Call}
    {s : Store} {env : Env} (h : Covers lands owner id settled s) (hperm : Permits id settled op)
    (hland : lands → ∀ id', op.cancels = some id' → env.fail ≠ none → ¬ s.Active owner id') :
    Covers lands owner id (follow settled ⟨op, (exec env op s).1⟩) (exec env op s).2 := by
  have hshrinks := hperm.settling.shrinks owner env s
  refine ⟨(h.of_shrinks hshrinks).1, fun hl hsettled id' hact => ?_⟩
  have hold := hshrinks id' hact
  obtain rfl := h.1 id' hold
  have hnone : op.cancels = some id' → env.fail = none := fun hop => by
    by_contra hfail
    exact hland hl id' hop hfail hold
  cases op with
  | repo call =>
    cases call with
    | getTransferByID id =>
      -- the row was read, and found final
      obtain rfl : id = id' := hperm
      obtain ⟨t, hrow, -, hopen⟩ := hold
      have hanswer : (exec env (.repo (.getTransferByID id)) s).1 = .ok (some t) := by
        rw [← hrow]
        exact Env.answer_of_ok (hnone rfl) _
      rw [hanswer] at hsettled
      rw [show t.isTerminal = true from hsettled] at hopen
      cases hopen
    | updateTransferState id state =>
      obtain ⟨rfl, rfl⟩ := hperm
      obtain ⟨state, hstate, hopen⟩ := hact.stateOf
      rw [stateOf_exec_of_write (Call.writtenState_eq_some.mpr (.inl rfl)) (hnone rfl)] at hstate
      obtain ⟨_, -, rfl⟩ := Option.map_eq_some_iff.mp hstate
      cases hopen
    | createTransfer t => exact hperm
    | updateTransferFailed id errorMessage => exact hperm
    | _ => exact h.2 hl hsettled id' hold
  | _ => exact h.2 hl hsettled id' hold

end Cancellation

end Katapult
