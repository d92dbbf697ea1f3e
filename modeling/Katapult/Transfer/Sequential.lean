/-
  Katapult.Transfer.Sequential

  Requests served one after the other.

  `wp_serve` is all that is said here about the programs: a request is an
  `Outcome` or a `Created` on one transfer, and nothing on the others.  What
  holds of every transfer between two requests is then an invariant of these
  outcomes.  The first one is about resource cleanup.
-/

import Katapult.Transfer.Outcome

namespace Katapult

open Effect Channel

/-- How a request ends on the transfer `id` that it concerns. -/
inductive Served (faulty : Bool) (o : Orchestrator) (id : UUID) (m m' : View) :
    Request → Response → Prop where
  | created (req : CreateTransferRequest) {a : Except Err CreateTransferResponse}
      (h : Created faulty m a m') : Served faulty o id m m' (.createTransfer req) (.created a)
  | cancelled {a : Except Err Unit} (h : Outcome faulty (some .cancelled) m a m') :
      Served faulty o id m m' (.cancelTransfer id) (.cancelled a)
  | handled {report : ProgressReport} {a : Attempt (Except Err Unit)} (hid : report.transferID = id)
      (h : Orchestrator.Reported faulty o report m a m') :
      Served faulty o id m m' (.handleProgress report) (.handled a)

section

variable [UUIDText] {faulty : Bool}

/-- The clock and the source of identifiers leave every transfer alone. -/
theorem viewOf_exec_ambient (op : Call) (hop : op.Ambient) (env : Env) (id : UUID)
    (h : List CallEv) (s : Store) :
    viewOf id (h ++ [⟨op, (exec env op s).1⟩]) (exec env op s).2 = viewOf id h s := by
  have htally : tally id (h ++ [⟨op, (exec env op s).1⟩]) = tally id h := by
    rw [tally_snoc]
    cases op <;> first | exact hop.elim | rfl
  cases op <;> first | exact hop.elim | exact congrArg (View.mk _) htally

/-- The rest of the system is not concerned. -/
def Others (id : UUID) (h : List CallEv) (s : Store) (h' : List CallEv) (s' : Store) : Prop :=
  ∀ id', id' ≠ id → viewOf id' h' s' = viewOf id' h s

theorem wp_of_seen {α : Type} {id : UUID} {p : Engine α} {Q : α → View → Prop}
    {h : List CallEv} {s : Store} (hp : Seen faulty id p Q (viewOf id h s)) :
    Prog.wp exec (Healthy faulty) p
      (fun a h' s' => Q a (viewOf id h' s') ∧ Others id h s h' s') h s := by
  refine Prog.wp_mono (wp_of_view hp) fun a h' s' ⟨hQ, hothers⟩ => ⟨hQ, fun id' hne => ?_⟩
  obtain ⟨hrow, htally⟩ := hothers id' hne
  rw [viewOf, viewOf, Store.view, hrow, htally]
  rfl

theorem Orchestrator.wp_createTransfer (o : Orchestrator) (req : CreateTransferRequest)
    (h : List CallEv) (s : Store) :
    Prog.wp exec (Healthy faulty) (o.createTransfer req)
      (fun a h' s' => ∃ id, Created faulty (viewOf id h s) a (viewOf id h' s') ∧
        Others id h s h' s') h s := by
  intro env₁ _ env₂ _
  have hsame : ∀ id, viewOf id _ _ = viewOf id h s := fun id =>
    (viewOf_exec_ambient .timeNow trivial env₂ id _ _).trans
      (viewOf_exec_ambient .newUUID trivial env₁ id h s)
  have hseen : ∀ m, Seen faulty env₁.uuid
      (o.admitTransfer req (o.newTransfer req env₁.uuid env₂.now)) (Created faulty m) m :=
    fun m => o.seen_admitTransfer req rfl rfl rfl
  refine Prog.wp_mono (wp_of_seen (hseen _)) ?_
  intro a h' s' ⟨hcreated, hothers⟩
  refine ⟨env₁.uuid, ?_, fun id' hne => (hothers id' hne).trans (hsame id')⟩
  rw [← hsame]
  exact hcreated

/-- What a request does, on any store and after any history. -/
theorem Orchestrator.wp_serve (o : Orchestrator) (request : Request) (h : List CallEv) (s : Store) :
    Prog.wp exec (Healthy faulty) (o.serve request)
      (fun a h' s' => ∃ id, Served faulty o id (viewOf id h s) (viewOf id h' s') request a ∧
        Others id h s h' s') h s := by
  cases request with
  | createTransfer req =>
    refine (Prog.wp_bind _ _).mpr (Prog.wp_mono (o.wp_createTransfer req h s) ?_)
    rintro a h' s' ⟨id, hcreated, hothers⟩
    exact ⟨id, .created req hcreated, hothers⟩
  | cancelTransfer id =>
    have hseen : Seen faulty id (o.cancelTransfer id) _ (viewOf id h s) := o.seen_cancelTransfer
    refine (Prog.wp_bind _ _).mpr (Prog.wp_mono (wp_of_seen hseen) ?_)
    rintro a h' s' ⟨houtcome, hothers⟩
    exact ⟨id, .cancelled houtcome, hothers⟩
  | handleProgress report =>
    refine (Prog.wp_bind _ _).mpr (Prog.wp_mono (wp_of_seen (o.seen_handleProgress report rfl)) ?_)
    rintro a h' s' ⟨hreported, hothers⟩
    exact ⟨_, .handled rfl hreported, hothers⟩

/-- A fact about single transfers that every request keeps holds of every
    transfer between any two requests. -/
theorem Orchestrator.invariant_of_served {o : Orchestrator} {P : View → Prop}
    (hinit : P ⟨none, {}⟩)
    (hserved : ∀ {id m m' request a}, P m → Served faulty o id m m' request a → P m')
    {h : List CallEv} {s : Store}
    (hreach : Prog.SeqReach exec (Healthy faulty) o.serve .empty h s) (id : UUID) :
    P (viewOf id h s) := by
  have hstart : ∀ id, P (viewOf id [] Store.empty) := fun _ => hinit
  refine Prog.SeqReach.invariant (I := fun h s => ∀ id, P (viewOf id h s)) hstart ?_ hreach id
  intro request h s hinv
  refine Prog.wp_mono (o.wp_serve request h s) ?_
  rintro a h' s' ⟨id, hserves, hothers⟩ id'
  by_cases hid : id' = id
  · rw [hid]
    exact hserved (hinv id) hserves
  · rw [hothers id' hid]
    exact hinv id'

/-! ## Resource cleanup -/

/-- Cleanup on every terminal state: what ended with an agent at work has been
    cleaned up. -/
def CleanedUp (h : List CallEv) (s : Store) : Prop :=
  ∀ id v, s.view id = some v → v.state.isTerminal = true → (tally id h).accepted = true →
    Cleaned v (tally id h)

/-- An agent has accepted its command for the transfer, and an agent has
    refused its own. -/
def HalfCommanded (h : List CallEv) (id : UUID) : Prop :=
  (tally id h).accepted = true ∧ (tally id h).refused = true

end

/-- What a sequential run without repository faults keeps of a transfer: an
    agent refuses only a transfer that is ended for it, without cleanup. -/
structure View.Attended (m : View) : Prop where
  absent : m.row = none →
    m.tally.accepted = false ∧ m.tally.refused = false ∧ m.tally.revoked = false
  opened : ∀ v, m.row = some v → v.state.isTerminal = false →
    m.tally.refused = false ∧ m.tally.revoked = false
  cleaned : ∀ v, m.row = some v → v.state.isTerminal = true → m.tally.accepted = true →
    m.tally.refused = false → Cleaned v m.tally
  halved : m.tally.accepted = true → m.tally.refused = true → m.tally.revoked = false

theorem View.Attended.of_unmoved {m m' : View} (h : m.Attended) (hm : Unmoved m m') :
    m'.Attended := by
  have haccepted := hm.commands.accepted
  have hrefused := hm.commands.refused
  have hrevoked := hm.revoked
  refine ⟨fun habsent => ?_, fun v hv hopen => ?_, fun v hv hterm hacc hre => ?_, fun hacc hre => ?_⟩
  · rw [haccepted, hrefused, hrevoked]
    exact h.absent (hm.row.symm.trans habsent)
  · rw [hrefused, hrevoked]
    exact h.opened v (hm.row.symm.trans hv) hopen
  · exact hm.cleaned (h.cleaned v (hm.row.symm.trans hv) hterm (haccepted.symm.trans hacc)
      (hrefused.symm.trans hre))
  · rw [hrevoked]
    exact h.halved (haccepted.symm.trans hacc) (hrefused.symm.trans hre)

theorem View.Attended.outcome {m m' : View} {intended : Option TransferState} {a : Except Err Unit}
    (h : m.Attended) (houtcome : Outcome false intended m a m') : m'.Attended := by
  cases houtcome with
  | kept unmoved missed => exact h.of_unmoved unmoved
  | half before edge final row commands revoked uncompleted fault => cases fault
  | closed before edge final row commands cleaned =>
    -- the row was open, so no agent has refused
    obtain ⟨hrefused, -⟩ := h.opened _ before edge.not_isTerminal
    have hrefused' : m'.tally.refused = false := commands.refused.trans hrefused
    refine ⟨fun habsent => ?_, fun v hv hopen => ?_, fun v hv _ _ _ => ?_, fun _ hre => ?_⟩
    · rw [row] at habsent
      cases habsent
    · rw [row] at hv
      cases hv
      rw [final] at hopen
      cases hopen
    · rw [row] at hv
      cases hv
      exact ⟨cleaned.revoked, cleaned.source, cleaned.destination, cleaned.objects⟩
    · rw [hrefused'] at hre
      cases hre

theorem View.Attended.created {m m' : View} {a : Except Err CreateTransferResponse}
    (h : m.Attended) (hcreated : Created false m a m') : m'.Attended := by
  cases hcreated with
  | rejected _ row tally => exact h.of_unmoved ⟨row, _, tally⟩
  | stuck _ _ _ _ _ _ _ _ fault => cases fault
  | failed fresh row state completed inserted faulted revoked uncompleted commands =>
    obtain ⟨haccepted, -, hrevoked⟩ := h.absent fresh
    -- an accepted command was followed by a refused one
    have hsplit : m'.tally.accepted = true → m'.tally.refused = true := by
      intro hacc
      rcases commands hacc with hold | hre
      · rw [haccepted] at hold
        cases hold
      · exact hre
    refine ⟨fun habsent => ?_, fun v' hv' hopen => ?_, fun v' hv' hterm hacc hre => ?_,
      fun _ _ => revoked.trans hrevoked⟩
    · rw [row] at habsent
      cases habsent
    · rw [row] at hv'
      cases hv'
      rw [state] at hopen
      cases hopen
    · rw [hsplit hacc] at hre
      cases hre
  | started fresh row state completed inserted faulted revoked uncompleted refused =>
    obtain ⟨-, hrefused, hrevoked⟩ := h.absent fresh
    refine ⟨fun habsent => ?_, fun v' hv' _ => ⟨refused.trans hrefused, revoked.trans hrevoked⟩,
      fun v' hv' hterm => ?_, fun _ _ => revoked.trans hrevoked⟩
    · rw [row] at habsent
      cases habsent
    · rw [row] at hv'
      cases hv'
      rw [state] at hterm
      cases hterm

theorem View.Attended.served {o : Orchestrator} {id : UUID} {m m' : View} {request : Request}
    {a : Response} (h : m.Attended) (hserved : Served false o id m m' request a) : m'.Attended := by
  cases hserved with
  | created req hcreated => exact h.created hcreated
  | cancelled houtcome => exact h.outcome houtcome
  | handled hid hreported =>
    cases hreported with
    | done houtcome funded => exact h.outcome houtcome
    | panics unmoved overdrawn => exact h.of_unmoved unmoved

theorem View.attended_init : View.Attended ⟨none, {}⟩ :=
  ⟨fun _ => ⟨rfl, rfl, rfl⟩, nofun, nofun, nofun⟩

/-- A refused command after an accepted one ends the transfer. -/
theorem View.Attended.terminal_of_halved {m : View} (h : m.Attended)
    (haccepted : m.tally.accepted = true) (hrefused : m.tally.refused = true) :
    ∃ v, m.row = some v ∧ v.state.isTerminal = true := by
  cases hrow : m.row with
  | none =>
    have hnone := (h.absent hrow).1
    rw [haccepted] at hnone
    cases hnone
  | some v =>
    refine ⟨v, rfl, ?_⟩
    cases hterm : v.state.isTerminal with
    | true => rfl
    | false =>
      have hnone := (h.opened v hrow hterm).1
      rw [hrefused] at hnone
      cases hnone

section

variable [UUIDText]

/-- Every sequential run with a healthy repository, any answers of the finder
    and of the agents: everything that ended has been cleaned up exactly when
    no agent has refused a transfer that another one had accepted. -/
theorem cleanedUp_iff (o : Orchestrator) {h : List CallEv} {s : Store}
    (hreach : Prog.SeqReach exec (Healthy false) o.serve .empty h s) :
    CleanedUp h s ↔ ∀ id, ¬ HalfCommanded h id := by
  have hattended : ∀ id, (viewOf id h s).Attended :=
    Orchestrator.invariant_of_served View.attended_init View.Attended.served hreach
  constructor
  · rintro hclean id ⟨haccepted, hrefused⟩
    obtain ⟨v, hv, hterm⟩ := (hattended id).terminal_of_halved haccepted hrefused
    have hrevoked := (hclean id v hv hterm haccepted).revoked
    rw [show (tally id h).revoked = false from (hattended id).halved haccepted hrefused] at hrevoked
    cases hrevoked
  · intro hwhole id v hv hterm haccepted
    have hrefused : (tally id h).refused = false := by
      by_contra hre
      exact hwhole id ⟨haccepted, by simpa using hre⟩
    exact (hattended id).cleaned v hv hterm haccepted hrefused

end

/-! ## Sample runs -/

instance (faulty : Bool) (env : Env) (op : Call) (s : Store) :
    Decidable (Healthy faulty env op s) :=
  inferInstanceAs (Decidable (_ ∨ _))

/-- A creation, then a cancellation of what it has inserted. -/
def createThenCancel : List (Request × List Env) :=
  [(.createTransfer sampleRequest, calls 7 21), (.cancelTransfer 7, calls 100 12)]

/-- A creation whose first agent accepts and whose second one refuses. -/
def createHalf : List (Request × List Env) :=
  [(.createTransfer sampleRequest, calls 7 20 ++ { fail := some "refused" } :: calls 100 4)]

/-- The history and the store at the end of a sample run. -/
def sampleEnd (faulty : Bool) (runs : List (Request × List Env)) : Option (List CallEv × Store) :=
  Prog.evalAll exec (Healthy faulty) (@Orchestrator.serve canonicalText plainOrchestrator) .empty runs

theorem reach_sampleEnd {faulty : Bool} {runs : List (Request × List Env)} {h : List CallEv}
    {s : Store} (hruns : sampleEnd faulty runs = some (h, s)) :
    Prog.SeqReach exec (Healthy faulty) (@Orchestrator.serve canonicalText plainOrchestrator) .empty
      h s :=
  Prog.SeqReach.init.of_evalAll hruns

theorem cleanedUp_iff_createThenCancel :
    ∃ h s, sampleEnd false createThenCancel = some (h, s) ∧ s.stateOf 7 = some .cancelled ∧
      (@CleanedUp canonicalText h s ↔ ∀ id, ¬ @HalfCommanded canonicalText h id) := by
  have hend : (sampleEnd false createThenCancel).any fun out =>
      out.2.stateOf 7 = some .cancelled := by decide +kernel
  obtain ⟨⟨h, s⟩, hruns, hstate⟩ := (Option.any_eq_true _ _).mp hend
  exact ⟨h, s, hruns, of_decide_eq_true hstate,
    @cleanedUp_iff canonicalText plainOrchestrator h s (reach_sampleEnd hruns)⟩

/-- The source agent accepts, the destination agent refuses: the transfer is
    failed, and nothing is revoked. -/
theorem not_cleanedUp_createHalf :
    ¬ ∀ h s, Prog.SeqReach exec (Healthy false)
        (@Orchestrator.serve canonicalText plainOrchestrator) .empty h s →
      @CleanedUp canonicalText h s := by
  intro hclean
  have hend : (sampleEnd false createHalf).any fun out =>
      out.2.stateOf 7 = some .failed ∧ (@tally canonicalText 7 out.1).accepted = true ∧
      (@tally canonicalText 7 out.1).revoked = false := by decide +kernel
  obtain ⟨⟨h, s⟩, hruns, hfailed⟩ := (Option.any_eq_true _ _).mp hend
  obtain ⟨hstate, haccepted, hrevoked⟩ := of_decide_eq_true hfailed
  obtain ⟨t, ht, hfailed⟩ := Option.map_eq_some_iff.mp hstate
  have hview : s.view 7 = some t.view := by rw [Store.view, ht]; rfl
  have hterm : t.view.state.isTerminal = true := by
    rw [show t.view.state = .failed from hfailed]
    rfl
  have hcleaned := hclean h s (reach_sampleEnd hruns) 7 _ hview hterm haccepted
  rw [hcleaned.revoked] at hrevoked
  cases hrevoked

end Katapult
