/-
  Katapult.Store.SerialHeartbeats

  Any number of heartbeats, interleaved statement by statement, have the effect of
  the transactions one after another.

  A heartbeat locks the agent with its first write, and only then deletes: no other
  heartbeat of the agent is under way from there on, so the `DELETE` finds what the
  last one to commit has inserted.  `Orderly` is the database between two
  statements; `oneByOne_of_run` replays the commits on the registry that the rest of
  this development takes for a machine of single steps.
-/

import Katapult.Store.Inventory

namespace Katapult

open Effect Mvcc

/-! ## The transactions -/

/-- What one heartbeat is to store. -/
structure Beat where
  now : Time
  agentID : UUID
  pvcs : List PVCInfo

/-- The rows of its inventory. -/
def Beat.rows (beat : Beat) : List PVCRow :=
  beat.pvcs.map fun pvc => ⟨beat.agentID, pvc, beat.now⟩

variable {τ : Type}

/-- Heartbeats, each one a transaction of its own, on a registry. -/
def beatingOn (beats : τ → Beat) (reg : Registry) :
    Config (SqlCall τ) SqlCall.Ans (Except Err Unit) τ (Database τ) where
  procs tx := AgentRepository.updateHeartbeat tx (beats tx).now (beats tx).agentID (beats tx).pvcs
  state := .ofRegistry τ reg

/-- The transaction that commits. -/
def committer : τ × SqlEv τ → Option τ
  | (tx, ⟨⟨_, .commit⟩, .ok _⟩) => some tx
  | _ => none

theorem committer_eq {e : τ × SqlEv τ} {tx : τ} (h : committer e = some tx) : tx = e.1 := by
  unfold committer at h
  split at h
  · cases h
    rfl
  · cases h

/-- The transactions that have committed, in order. -/
def commits (tr : Trace τ (SqlCall τ) SqlCall.Ans) : List τ := tr.filterMap committer

/-- The heartbeats of these transactions, one after another. -/
def Registry.beatAll (beats : τ → Beat) : List τ → Registry → Except Err Registry
  | [], reg => .ok reg
  | tx :: txs, reg =>
    match reg.updateHeartbeat (beats tx).now (beats tx).agentID (beats tx).pvcs with
    | .error err => .error err
    | .ok reg => Registry.beatAll beats txs reg

theorem Registry.beatAll_snoc {beats : τ → Beat} {txs : List τ} {tx : τ} {reg reg' reg'' : Registry}
    (h : Registry.beatAll beats txs reg = .ok reg')
    (hlast : reg'.updateHeartbeat (beats tx).now (beats tx).agentID (beats tx).pvcs = .ok reg'') :
    Registry.beatAll beats (txs ++ [tx]) reg = .ok reg'' := by
  induction txs generalizing reg with
  | nil =>
    cases h
    simp only [List.nil_append, Registry.beatAll, hlast]
  | cons tx' txs ih =>
    simp only [List.cons_append, Registry.beatAll] at h ⊢
    split at h
    · cases h
    · exact ih h

/-- The agent belongs to this transaction. -/
def Database.Holds (db : Database τ) (tx : τ) (agentID : UUID) : Prop :=
  ∃ c ∈ db.agents, ∃ r r', c.row = some r ∧ r.id = agentID ∧ c.draft = some (tx, r')

/-- What is stored for good in the database is this registry. -/
structure Database.Stores (db : Database τ) (reg : Registry) : Prop where
  agents : db.agents.map Cell.row = reg.agents.rows.map some
  inventory : ∀ id, (stored db.status db.pvcs).filter (·.agentID = id) = reg.inventory id

/-! ## Phases of a transaction -/

/-- How far a heartbeat has come. -/
inductive BeatPhase where
  | ready
  /-- It has written the agent. -/
  | locked
  /-- Its `DELETE` has still to come to the rows `todo`; it has inserted the volumes `done`. -/
  | replacing (todo : List Nat) (done : List PVCInfo)
  /-- A statement has failed. -/
  | failing
  | over

namespace BeatPhase

/-- The transaction needs its lock. -/
def works : BeatPhase → Bool
  | .locked | .replacing .. => true
  | _ => false

/-- No more than the rollback is left to do. -/
def stopped : BeatPhase → Bool
  | .failing | .over => true
  | _ => false

/-- A statement of the transaction, and its answer. -/
def follow (m : BeatPhase) : SqlEv τ → BeatPhase
  | ⟨⟨_, .begin⟩, .ok _⟩ => m
  | ⟨⟨_, .begin⟩, .error _⟩ => .over
  | ⟨⟨_, .updateAgent ..⟩, .ok _⟩ => .locked
  | ⟨⟨_, .deleteOf _⟩, .ok ns⟩ => .replacing ns []
  | ⟨⟨_, .deleteRow _⟩, .ok _⟩ =>
    match m with
    | .replacing todo done => .replacing todo.tail done
    | m => m
  | ⟨⟨_, .insertPVC p⟩, .ok _⟩ =>
    match m with
    | .replacing todo done => .replacing todo (done ++ [p.pvc])
    | m => m
  | ⟨⟨_, .commit⟩, _⟩ => .over
  | ⟨⟨_, .rollback⟩, _⟩ => .over
  | _ => .failing

end BeatPhase

/-- What the heartbeat may do next. -/
def Beat.Permits (beat : Beat) (tx : τ) (m : BeatPhase) (c : SqlCall τ) : Prop :=
  c.tx = tx ∧
  match c.statement with
  | .begin => m = .ready
  | .updateAgent now agentID => m = .ready ∧ now = beat.now ∧ agentID = beat.agentID
  | .deleteOf agentID => m = .locked ∧ agentID = beat.agentID
  | .deleteRow n => ∃ todo, m = .replacing (n :: todo) []
  | .insertPVC p => ∃ done rest, m = .replacing [] done ∧ beat.pvcs = done ++ p.pvc :: rest ∧
      p = ⟨beat.agentID, p.pvc, beat.now⟩
  | .commit => m = .replacing [] beat.pvcs
  | .rollback => m.stopped = true
  | .deleteAt _ | .upsertAgent _ => False

/-- Where a part of a heartbeat ends: in `m`, unless a statement has failed. -/
def BeatPhase.Ends (m : BeatPhase) : Except Err Unit → BeatPhase → Prop
  | .ok _, m' => m' = m
  | .error _, m' => m' = .failing

section

variable {beat : Beat} {tx : τ}

theorem obeys_deleteRows (todo : List Nat) :
    Prog.Obeys BeatPhase.follow (beat.Permits tx) (BeatPhase.Ends (.replacing [] [])) (.replacing todo [])
      (Sql.deleteRows tx todo) := by
  induction todo with
  | nil => rfl
  | cons n todo ih =>
    refine Prog.Obeys.perform ⟨rfl, todo, rfl⟩ fun deleted => ?_
    rcases deleted with err | _
    · rfl
    · exact ih

theorem obeys_insertPVCs (done rest : List PVCInfo) (hpvcs : beat.pvcs = done ++ rest) :
    Prog.Obeys BeatPhase.follow (beat.Permits tx) (BeatPhase.Ends (.replacing [] beat.pvcs))
      (.replacing [] done) (Sql.insertPVCs tx beat.agentID beat.now rest) := by
  induction rest generalizing done with
  | nil =>
    show BeatPhase.replacing [] done = .replacing [] beat.pvcs
    rw [hpvcs, List.append_nil]
  | cons pvc rest ih =>
    refine Prog.Obeys.perform ⟨rfl, done, rest, rfl, hpvcs, rfl⟩ fun stored => ?_
    rcases stored with err | _
    · rfl
    · exact ih (done ++ [pvc]) (by rw [hpvcs, List.append_assoc, List.singleton_append])

/-- A heartbeat goes through its phases. -/
theorem obeys_updateHeartbeat (beat : Beat) (tx : τ) :
    Prog.Obeys BeatPhase.follow (beat.Permits tx) (fun _ m => m = .over) .ready
      (AgentRepository.updateHeartbeat tx beat.now beat.agentID beat.pvcs) := by
  refine Prog.Obeys.perform ⟨rfl, rfl⟩ fun begun => ?_
  rcases begun with err | _
  · rfl
  -- the deferred rollback comes after a failure or a commit
  refine Prog.Obeys.bind (Prog.Obeys.mono ?_ fun result m (hm : m.stopped = true) =>
    ⟨⟨rfl, hm⟩, fun _ => rfl⟩)
  refine Prog.Obeys.perform ⟨rfl, rfl, rfl, rfl⟩ fun written => ?_
  rcases written with err | _
  · rfl
  refine Prog.Obeys.perform ⟨rfl, rfl, rfl⟩ fun found => ?_
  rcases found with err | todo
  · rfl
  refine Prog.Obeys.bind ((obeys_deleteRows todo).mono fun deleted m hm => ?_)
  rcases deleted with err | _
  · exact hm ▸ rfl
  obtain rfl : m = .replacing [] [] := hm
  refine Prog.Obeys.bind ((obeys_insertPVCs [] beat.pvcs rfl).mono fun inserted m hm => ?_)
  rcases inserted with err | _
  · exact hm ▸ rfl
  obtain rfl : m = .replacing [] beat.pvcs := hm
  exact ⟨⟨rfl, rfl⟩, fun _ => rfl⟩

end

/-! ## The database between two statements -/

variable [DecidableEq τ]

/-- The rows that a transaction has deleted and inserted, with `todo` still to come to. -/
structure Replacing (beat : Beat) (tx : τ) (todo : List Nat) (done : List PVCInfo) (db : Database τ) :
    Prop where
  /-- Nothing that is stored of the agent is left out. -/
  finds : ∀ n v, db.pvcs[n]? = some v → v.row.agentID = beat.agentID →
    v.visible (isCommitted db.status) = true → n ∈ todo ∨ v.xmax = some tx
  todo : ∀ n ∈ todo, ∃ v, db.pvcs[n]? = some v ∧ v.row.agentID = beat.agentID
  kept : ∀ v ∈ db.pvcs, v.xmin = some tx → v.xmax = none
  inserted : insertedBy tx db.pvcs = done.map fun pvc => ⟨beat.agentID, pvc, beat.now⟩
  names : (done.map PVCInfo.pvcName).Nodup

/-- What a transaction has done to the database when it has come as far as `m`. -/
structure Progressed (beat : Beat) (tx : τ) (m : BeatPhase) (db : Database τ) : Prop where
  draft : ∀ c ∈ db.agents, ∀ r', c.draft = some (tx, r') →
    (∃ r, c.row = some r ∧ r.id = beat.agentID ∧ r' = r.setHealthy beat.now) ∧
      db.status tx = .active ∧ m ≠ .ready ∧ m ≠ .over
  locked : m.works = true → ∀ c ∈ db.agents, ∀ r, c.row = some r → r.id = beat.agentID →
    ∃ r', c.draft = some (tx, r')
  status : db.status tx = .active ∨ m = .over
  touched : ∀ v ∈ db.pvcs, v.xmin = some tx ∨ v.xmax = some tx →
    v.row.agentID = beat.agentID ∧ m ≠ .locked ∧
      (db.status tx = .active → db.Holds tx beat.agentID)
  replacing : ∀ todo done, m = .replacing todo done → Replacing beat tx todo done db

/-- The database when the heartbeats have come as far as `m`, and `reg` is stored for good. -/
structure Orderly (beats : τ → Beat) (m : τ → BeatPhase) (reg : Registry) (db : Database τ) : Prop where
  stores : db.Stores reg
  known : ∀ v ∈ db.pvcs, v.row.agentID ∈ reg.agents.ids
  each : ∀ tx, Progressed (beats tx) tx (m tx) db

/-! ### One transaction -/

namespace Progressed

variable {beat : Beat} {tx : τ} {m : BeatPhase} {db : Database τ}

theorem not_ready_of_holds (h : Progressed beat tx m db) {agentID : UUID}
    (hholds : db.Holds tx agentID) : m ≠ .ready ∧ m ≠ .over ∧ db.status tx = .active := by
  obtain ⟨c, hc, r, r', -, -, hdraft⟩ := hholds
  obtain ⟨-, hactive, hready, hover⟩ := h.draft c hc r' hdraft
  exact ⟨hready, hover, hactive⟩

/-- Before its `DELETE`, a transaction has come near no row. -/
theorem untouched (h : Progressed beat tx m db) (hm : m = .ready ∨ m = .locked)
    {v : Version τ PVCRow} (hv : v ∈ db.pvcs) : v.xmin ≠ some tx ∧ v.xmax ≠ some tx := by
  have hnone : ¬ (v.xmin = some tx ∨ v.xmax = some tx) := by
    intro htouched
    obtain ⟨-, hlocked, hholds⟩ := h.touched v hv htouched
    have hactive : db.status tx = .active := h.status.resolve_right (by
      rcases hm with rfl | rfl <;> nofun)
    exact hm.elim (h.not_ready_of_holds (hholds hactive)).1 hlocked
  exact not_or.mp hnone

/-- A statement fails. -/
theorem fail (h : Progressed beat tx m db) (hm : m ≠ .over) : Progressed beat tx .failing db where
  draft c hc r' hdraft := by
    obtain ⟨hrow, hactive, -⟩ := h.draft c hc r' hdraft
    exact ⟨hrow, hactive, nofun, nofun⟩
  locked := nofun
  status := .inl (h.status.resolve_right hm)
  touched v hv htouched := by
    obtain ⟨hid, -, hholds⟩ := h.touched v hv htouched
    exact ⟨hid, nofun, hholds⟩
  replacing := nofun

/-- The transaction does not begin. -/
theorem over_of_ready (h : Progressed beat tx .ready db) : Progressed beat tx .over db where
  draft c hc r' hdraft := absurd rfl (h.draft c hc r' hdraft).2.2.1
  locked := nofun
  status := .inr rfl
  touched v hv htouched := by
    obtain ⟨hid, -, hholds⟩ := h.touched v hv htouched
    exact ⟨hid, nofun, hholds⟩
  replacing := nofun

end Progressed

namespace Orderly

variable {beats : τ → Beat} {m : τ → BeatPhase} {reg reg' : Registry} {db db' : Database τ} {tx : τ}

/-- One transaction goes on, and the others are where they were. -/
theorem update {x : BeatPhase} (h : Orderly beats m reg db) (hstores : db'.Stores reg')
    (hknown : ∀ v ∈ db'.pvcs, v.row.agentID ∈ reg'.agents.ids) (hmine : Progressed (beats tx) tx x db')
    (hothers : ∀ tx', tx' ≠ tx → Progressed (beats tx') tx' (m tx') db →
      Progressed (beats tx') tx' (m tx') db') :
    Orderly beats (Function.update m tx x) reg' db' where
  stores := hstores
  known := hknown
  each tx' := by
    by_cases htx : tx' = tx
    · subst htx
      rw [Function.update_self]
      exact hmine
    · rw [Function.update_of_ne htx]
      exact hothers tx' htx (h.each tx')

/-- It goes on, and nothing changes in the database. -/
theorem update_phase {x : BeatPhase} (h : Orderly beats m reg db) (hmine : Progressed (beats tx) tx x db) :
    Orderly beats (Function.update m tx x) reg db :=
  h.update h.stores h.known hmine fun _ _ hother => hother

/-! ### The agents -/

omit [DecidableEq τ] in
theorem row_of_mem {c : Cell τ AgentRow} (hstores : db.Stores reg) (hc : c ∈ db.agents) :
    ∃ r ∈ reg.agents.rows, c.row = some r := by
  have hrow : c.row ∈ reg.agents.rows.map some := hstores.agents ▸ List.mem_map_of_mem hc
  obtain ⟨r, hr, hsome⟩ := List.mem_map.mp hrow
  exact ⟨r, hr, hsome.symm⟩

/-- The identifier of an agent tells its cell. -/
theorem cell_eq (h : Orderly beats m reg db) {c c' : Cell τ AgentRow} (hc : c ∈ db.agents)
    (hc' : c' ∈ db.agents) {r r' : AgentRow} (hr : c.row = some r) (hr' : c'.row = some r')
    (hid : r.id = r'.id) : c = c' := by
  have hids : (db.agents.map fun c => c.row.map AgentRow.id).Nodup := by
    have hmap : (db.agents.map fun c => c.row.map AgentRow.id) = reg.agents.ids.map some := by
      rw [← Function.comp_def (Option.map AgentRow.id), ← List.map_map, h.stores.agents,
        AgentTable.ids, List.map_map, List.map_map]
      rfl
    rw [hmap]
    exact reg.ids.map (Option.some_injective _)
  refine List.inj_on_of_nodup_map hids hc hc' ?_
  rw [hr, hr', Option.map_some, Option.map_some, hid]

/-- An agent belongs to one transaction at a time. -/
theorem holds_unique (h : Orderly beats m reg db) {tx' : τ} {agentID : UUID}
    (hmine : db.Holds tx agentID) (hother : db.Holds tx' agentID) : tx = tx' := by
  obtain ⟨c, hc, r, d, hrow, hid, hdraft⟩ := hmine
  obtain ⟨c', hc', r', d', hrow', hid', hdraft'⟩ := hother
  obtain rfl := h.cell_eq hc hc' hrow hrow' (hid.trans hid'.symm)
  rw [hdraft] at hdraft'
  cases hdraft'
  rfl

/-- A transaction at work holds its agent, if there is one. -/
theorem holds_of_works (h : Orderly beats m reg db) (hworks : (m tx).works = true)
    (hknown : (beats tx).agentID ∈ reg.agents.ids) : db.Holds tx (beats tx).agentID := by
  obtain ⟨r, hr, hid⟩ := List.mem_map.mp hknown
  have hrow : some r ∈ db.agents.map Cell.row := h.stores.agents ▸ List.mem_map_of_mem hr
  obtain ⟨c, hc, hsome⟩ := List.mem_map.mp hrow
  obtain ⟨r', hdraft⟩ := (h.each tx).locked hworks c hc r hsome hid
  exact ⟨c, hc, r, r', hsome, hid, hdraft⟩

/-- While it is at work, nobody else who is under way has come near the rows of its agent. -/
theorem eq_of_touched (h : Orderly beats m reg db) (hworks : (m tx).works = true)
    {v : Version τ PVCRow} (hv : v ∈ db.pvcs) (hid : v.row.agentID = (beats tx).agentID) {tx' : τ}
    (htouched : v.xmin = some tx' ∨ v.xmax = some tx') (hactive : db.status tx' = .active) :
    tx' = tx := by
  obtain ⟨hid', -, hholds⟩ := (h.each tx').touched v hv htouched
  have hother := hholds hactive
  rw [← hid', hid] at hother
  exact h.holds_unique hother (h.holds_of_works hworks (hid ▸ h.known v hv))

/-- Two transactions at work have different agents, where there are rows. -/
theorem agentID_ne (h : Orderly beats m reg db) {tx' : τ} (hne : tx' ≠ tx)
    (hworks : (m tx).works = true) (hworks' : (m tx').works = true)
    (hknown : (beats tx).agentID ∈ reg.agents.ids) : (beats tx').agentID ≠ (beats tx).agentID := by
  intro hsame
  have hother := h.holds_of_works hworks' (hsame ▸ hknown)
  rw [hsame] at hother
  exact hne (h.holds_unique hother (h.holds_of_works hworks hknown))

/-! ### Steps -/

/-- The first statement finds the agent free, and locks it. -/
theorem lock (h : Orderly beats m reg db) (hm : m tx = .ready)
    (hwait : db.Blocked tx (.updateAgent (beats tx).now (beats tx).agentID) = false) :
    Orderly beats (Function.update m tx .locked) reg
      (db.updateAgent tx (beats tx).now (beats tx).agentID) := by
  have hmine := hm ▸ h.each tx
  have hnot : ∀ c ∈ db.agents, ∀ r, c.draft ≠ some (tx, r) :=
    fun c hc r hdraft => (hmine.draft c hc r hdraft).2.2.1 rfl
  -- what becomes of a cell
  have hcell : ∀ c ∈ db.agents, ∃ r, c.row = some r ∧
      (r.id = (beats tx).agentID ∧ c.draft = none ∧
        c.write tx (·.id = (beats tx).agentID) (AgentRow.setHealthy (beats tx).now) =
          { c with draft := some (tx, r.setHealthy (beats tx).now) } ∨
      r.id ≠ (beats tx).agentID ∧
        c.write tx (·.id = (beats tx).agentID) (AgentRow.setHealthy (beats tx).now) = c) := by
    intro c hc
    obtain ⟨r, -, hrow⟩ := row_of_mem h.stores hc
    refine ⟨r, hrow, ?_⟩
    rw [Cell.write_of_ne _ (hnot c hc) hrow]
    by_cases hid : r.id = (beats tx).agentID
    · refine .inl ⟨hid, ?_, if_pos (decide_eq_true hid)⟩
      rw [Database.Blocked, List.any_eq_false] at hwait
      have hfree := hwait c hc
      rw [hrow, Option.any_some, decide_eq_true hid, Bool.and_true, Cell.heldFrom] at hfree
      cases hdraft : c.draft with
      | none => rfl
      | some d =>
        rw [hdraft, Option.any_some, decide_eq_true_eq, not_not] at hfree
        exact absurd (show c.draft = some (tx, d.2) by rw [hdraft, ← hfree]) (hnot c hc d.2)
    · exact .inr ⟨hid, if_neg (by simpa using hid)⟩
  refine h.update ⟨?_, h.stores.inventory⟩ h.known ?_ fun tx' htx hother => ?_
  · rw [← h.stores.agents, Database.updateAgent, List.map_map]
    exact List.map_congr_left fun c _ => Cell.row_write _ _ _ c
  · refine ⟨fun c' hc' r' hdraft => ?_, fun _ c' hc' r' hrow' hid => ?_, hmine.status.imp_right (by simp),
      fun v hv htouched => ?_, by simp⟩
    · obtain ⟨c, hc, rfl⟩ := List.mem_map.mp hc'
      obtain ⟨r, hrow, ⟨hid, -, hwrite⟩ | ⟨-, hwrite⟩⟩ := hcell c hc
      · rw [hwrite] at hdraft ⊢
        cases hdraft
        exact ⟨⟨r, hrow, hid, rfl⟩, hmine.status.resolve_right (by simp), by simp, by simp⟩
      · rw [hwrite] at hdraft
        exact absurd hdraft (hnot c hc r')
    · obtain ⟨c, hc, rfl⟩ := List.mem_map.mp hc'
      obtain ⟨r, hrow, ⟨-, -, hwrite⟩ | ⟨hne, -⟩⟩ := hcell c hc
      · rw [hwrite]
        exact ⟨_, rfl⟩
      · rw [Cell.row_write, hrow] at hrow'
        cases hrow'
        exact absurd hid hne
    · obtain ⟨hmin, hmax⟩ := hmine.untouched (.inl rfl) hv
      exact absurd htouched (not_or.mpr ⟨hmin, hmax⟩)
  · -- the agents of the others stay theirs
    have hkeep : ∀ c ∈ db.agents, ∀ r', c.draft = some (tx', r') →
        c.write tx (·.id = (beats tx).agentID) (AgentRow.setHealthy (beats tx).now) = c := by
      intro c hc r' hdraft
      obtain ⟨r, -, ⟨-, hnone, -⟩ | ⟨-, hwrite⟩⟩ := hcell c hc
      · rw [hnone] at hdraft
        cases hdraft
      · exact hwrite
    refine ⟨fun c' hc' r' hdraft => ?_, fun hworks c' hc' r' hrow' hid => ?_, hother.status,
      fun v hv htouched => ?_, fun todo done hreplacing => ?_⟩
    · obtain ⟨c, hc, rfl⟩ := List.mem_map.mp hc'
      obtain ⟨r, hrow, ⟨-, -, hwrite⟩ | ⟨-, hwrite⟩⟩ := hcell c hc
      · rw [hwrite] at hdraft
        cases hdraft
        exact absurd rfl htx
      · rw [hwrite] at hdraft ⊢
        exact hother.draft c hc r' hdraft
    · obtain ⟨c, hc, rfl⟩ := List.mem_map.mp hc'
      rw [Cell.row_write] at hrow'
      obtain ⟨d, hdraft⟩ := hother.locked hworks c hc r' hrow' hid
      exact ⟨d, by rw [hkeep c hc d hdraft, hdraft]⟩
    · obtain ⟨hid, hlocked, hholds⟩ := hother.touched v hv htouched
      refine ⟨hid, hlocked, fun hactive => ?_⟩
      obtain ⟨c, hc, r, d, hrow, hrid, hdraft⟩ := hholds hactive
      exact ⟨c, List.mem_map.mpr ⟨c, hc, hkeep c hc d hdraft⟩, r, d, hrow, hrid, hdraft⟩
    · obtain ⟨hfinds, htodo, hkept, hinserted, hnames⟩ := hother.replacing todo done hreplacing
      exact ⟨hfinds, htodo, hkept, hinserted, hnames⟩

/-- The `DELETE` finds all that is stored of the agent. -/
theorem find (h : Orderly beats m reg db) (hm : m tx = .locked) :
    Orderly beats (Function.update m tx (.replacing (db.findPVCs tx (beats tx).agentID) [])) reg db := by
  have hmine := hm ▸ h.each tx
  have hnone : ∀ v ∈ db.pvcs, v.xmin ≠ some tx ∧ v.xmax ≠ some tx :=
    fun v hv => hmine.untouched (.inr rfl) hv
  have hsees : ∀ t, t ≠ tx → sees db.status tx t = isCommitted db.status t := by
    intro t ht
    rw [sees, decide_eq_false ht, Bool.false_or, isCommitted]
  refine h.update_phase ⟨fun c hc r' hdraft => ?_, fun _ => hmine.locked rfl, hmine.status.imp_right (by simp),
    fun v hv htouched => absurd htouched (not_or.mpr (hnone v hv)), fun todo done hreplacing => ?_⟩
  · obtain ⟨hrow, hactive, -⟩ := hmine.draft c hc r' hdraft
    exact ⟨hrow, hactive, by simp, by simp⟩
  · cases hreplacing
    refine ⟨fun n v hv hid hvisible => .inl (mem_scan.mpr ⟨v, hv, ?_, decide_eq_true hid⟩),
      fun n hn => ?_, fun v hv hmin => absurd hmin (hnone v hv).1, ?_, List.nodup_nil⟩
    · obtain ⟨hmin, hmax⟩ := hnone v (List.mem_of_getElem? hv)
      rw [← hvisible, Version.visible, Version.visible]
      congr 1
      · cases hxmin : v.xmin with
        | none => rfl
        | some t => exact hsees t fun ht => hmin (ht ▸ hxmin)
      · cases hxmax : v.xmax with
        | none => rfl
        | some t => exact congrArg Bool.not (hsees t fun ht => hmax (ht ▸ hxmax))
    · obtain ⟨v, hv, -, hid⟩ := mem_scan.mp hn
      exact ⟨v, hv, of_decide_eq_true hid⟩
    · rw [List.map_nil, insertedBy, List.map_eq_nil_iff, List.filter_eq_nil_iff]
      exact fun v hv hmin => (hnone v hv).1 (of_decide_eq_true hmin)

/-- The `DELETE` comes to one of its rows. -/
theorem deleteRow (h : Orderly beats m reg db) {n : Nat} {todo : List Nat}
    (hm : m tx = .replacing (n :: todo) []) :
    Orderly beats (Function.update m tx (.replacing todo [])) reg
      { db with pvcs := remove db.status tx n db.pvcs } := by
  have hmine := hm ▸ h.each tx
  have hworks : (m tx).works = true := by rw [hm]; rfl
  obtain ⟨hfinds, htodo, -, hinserted, -⟩ := hmine.replacing _ _ rfl
  have hactive : db.status tx = .active := hmine.status.resolve_right (by simp)
  have hnotCommitted : db.status tx ≠ .committed := by simp [hactive]
  have hfresh : ∀ v ∈ db.pvcs, v.xmin ≠ some tx := by
    intro v hv hmin
    have hmem : v.row ∈ insertedBy tx db.pvcs := mem_insertedBy.mpr ⟨v, hv, hmin, rfl⟩
    rw [hinserted] at hmem
    cases hmem
  obtain ⟨v₀, hv₀, hid₀⟩ := htodo n List.mem_cons_self
  have hknown : (beats tx).agentID ∈ reg.agents.ids := hid₀ ▸ h.known v₀ (List.mem_of_getElem? hv₀)
  -- a row afterwards was there before
  have hold : ∀ v' ∈ remove db.status tx n db.pvcs, ∃ (k : Nat) (v : Version τ PVCRow),
      db.pvcs[k]? = some v ∧ v'.row = v.row ∧ v'.xmin = v.xmin ∧
      (v'.xmax = v.xmax ∨ v'.xmax = some tx ∧ v'.row.agentID = (beats tx).agentID) := by
    intro v' hv'
    obtain ⟨k, hk⟩ := List.mem_iff_getElem?.mp hv'
    obtain ⟨v, hv, hrow, hmin, ⟨-, hmax⟩ | ⟨rfl, ⟨hmax, -⟩ | ⟨hmax, -⟩⟩⟩ := remove_cases hk
    · exact ⟨k, v, hv, hrow, hmin, .inl hmax⟩
    · rw [hv₀] at hv
      cases hv
      exact ⟨n, v₀, hv₀, hrow, hmin, .inr ⟨hmax, hrow ▸ hid₀⟩⟩
    · exact ⟨n, v, hv, hrow, hmin, .inl hmax⟩
  have hthere : ∀ (k : Nat) id, (∃ v : Version τ PVCRow, db.pvcs[k]? = some v ∧ v.row.agentID = id) →
      ∃ v' : Version τ PVCRow, (remove db.status tx n db.pvcs)[k]? = some v' ∧ v'.row.agentID = id := by
    rintro k id ⟨v, hv, hid⟩
    rw [getElem?_remove, hv, Option.map_some]
    split
    · exact ⟨_, rfl, by rwa [Version.remove_row]⟩
    · exact ⟨v, rfl, hid⟩
  refine h.update ⟨h.stores.agents, fun id => ?_⟩ (fun v' hv' => ?_) ?_ fun tx' htx hother => ?_
  · rw [stored_remove hnotCommitted]
    exact h.stores.inventory id
  · obtain ⟨k, v, hv, hrow, -⟩ := hold v' hv'
    exact hrow ▸ h.known v (List.mem_of_getElem? hv)
  · refine ⟨fun c hc r' hdraft => ?_, fun _ => hmine.locked rfl, .inl hactive,
      fun v' hv' htouched => ⟨?_, by simp, fun _ => h.holds_of_works hworks hknown⟩,
      fun todo' done hreplacing => ?_⟩
    · obtain ⟨hrow, -⟩ := hmine.draft c hc r' hdraft
      exact ⟨hrow, hactive, by simp, by simp⟩
    · obtain ⟨k, v, hv, hrow, hmin, hmax | ⟨-, hid⟩⟩ := hold v' hv'
      · rw [hmin, hmax] at htouched
        exact hrow ▸ (hmine.touched v (List.mem_of_getElem? hv) htouched).1
      · exact hid
    · cases hreplacing
      refine ⟨fun k v' hk hid hvisible => ?_, fun k hk => hthere k _ (htodo k (List.mem_cons_of_mem _ hk)),
        fun v' hv' hmin => ?_, by rw [insertedBy_remove, hinserted], List.nodup_nil⟩
      · obtain ⟨v, hv, hrow, hmin, ⟨hne, hmax⟩ | ⟨-, ⟨hmax, -⟩ | ⟨hmax, t, ht, hcommitted⟩⟩⟩ :=
          remove_cases hk
        · rw [Version.visible, hmin, hmax] at hvisible
          rcases hfinds k v hv (hrow ▸ hid) hvisible with hmem | hgone
          · exact .inl ((List.mem_cons.mp hmem).resolve_left (Ne.symm hne))
          · exact .inr (hmax.trans hgone)
        · exact .inr hmax
        · rw [Version.visible, hmax, ht, Option.any_some, isCommitted, decide_eq_true hcommitted,
            Bool.not_true, Bool.and_false] at hvisible
          cases hvisible
      · obtain ⟨k, v, hv, -, hmin', -⟩ := hold v' hv'
        exact absurd (hmin' ▸ hmin) (hfresh v (List.mem_of_getElem? hv))
  · refine ⟨hother.draft, hother.locked, hother.status, fun v' hv' htouched => ?_,
      fun todo' done hreplacing => ?_⟩
    · obtain ⟨k, v, hv, hrow, hmin, hmax | ⟨hmax, -⟩⟩ := hold v' hv'
      · rw [hmin, hmax] at htouched
        exact hrow ▸ hother.touched v (List.mem_of_getElem? hv) htouched
      · rw [hmin, hmax] at htouched
        rcases htouched with hmin' | hmine'
        · exact hrow ▸ hother.touched v (List.mem_of_getElem? hv) (.inl hmin')
        · cases hmine'
          exact absurd rfl htx
    · obtain ⟨hfinds', htodo', hkept', hinserted', hnames'⟩ := hother.replacing _ _ hreplacing
      have hne : (beats tx').agentID ≠ (beats tx).agentID :=
        h.agentID_ne htx hworks (by rw [hreplacing]; rfl) hknown
      -- the row is none of theirs
      have hapart : ∀ (k : Nat) (v' : Version τ PVCRow), (remove db.status tx n db.pvcs)[k]? = some v' →
          v'.row.agentID = (beats tx').agentID → db.pvcs[k]? = some v' := by
        intro k v' hk hid
        rw [getElem?_remove] at hk
        split at hk
        · rename_i hnk
          subst hnk
          rw [hv₀, Option.map_some, Option.some_inj] at hk
          rw [← hk, Version.remove_row, hid₀] at hid
          exact absurd hid.symm hne
        · exact hk
      refine ⟨fun k v' hk hid => hfinds' k v' (hapart k v' hk hid) hid, fun k hk => hthere k _ (htodo' k hk),
        fun v' hv' hmin => ?_, by rw [insertedBy_remove, hinserted'], hnames'⟩
      obtain ⟨k, hk⟩ := List.mem_iff_getElem?.mp hv'
      obtain ⟨k', v, hv, hrow, hmin', -⟩ := hold v' hv'
      have hid := (hother.touched v (List.mem_of_getElem? hv) (.inl (hmin' ▸ hmin))).1
      exact hkept' v' (List.mem_of_getElem? (hapart k v' hk (hrow ▸ hid))) hmin

end Orderly

/-- An inserted row has an agent, and a new key. -/
theorem Database.insertPVC_isOk {db db' : Database τ} {tx : τ} {p : PVCRow}
    (h : db.insertPVC tx p = .ok db') :
    (∃ c ∈ db.agents, ∃ r, c.seenBy tx = some r ∧ r.id = p.agentID) ∧
      ∀ v ∈ db.pvcs, v.row.key = p.key → v.visible (sees db.status tx) = false := by
  unfold Database.insertPVC at h
  split at h
  · cases h
  rename_i hagent
  split at h
  · cases h
  rename_i hkey
  constructor
  · rw [List.all_eq_true, not_forall] at hagent
    obtain ⟨r, hr⟩ := hagent
    rw [Classical.not_imp, decide_eq_true_eq, not_not] at hr
    obtain ⟨c, hc, hseen⟩ := List.mem_filterMap.mp hr.1
    exact ⟨c, hc, r, hseen, hr.2⟩
  · intro v hv hsame
    rw [List.any_eq_true, not_exists] at hkey
    have hnot := hkey v
    rw [Bool.and_eq_true, decide_eq_true_eq, not_and, not_and, Bool.not_eq_true] at hnot
    exact hnot hv hsame

namespace Orderly

variable {beats : τ → Beat} {m : τ → BeatPhase} {reg reg' : Registry} {db db' : Database τ} {tx : τ}

/-- A volume is inserted. -/
theorem insertPVC (h : Orderly beats m reg db) {done : List PVCInfo} {p : PVCRow}
    (hm : m tx = .replacing [] done) (hp : p = ⟨(beats tx).agentID, p.pvc, (beats tx).now⟩)
    (hok : db.insertPVC tx p = .ok db') :
    Orderly beats (Function.update m tx (.replacing [] (done ++ [p.pvc]))) reg db' := by
  have hmine := hm ▸ h.each tx
  have hworks : (m tx).works = true := by rw [hm]; rfl
  obtain ⟨hfinds, -, hkept, hinserted, hnames⟩ := hmine.replacing _ _ rfl
  have hactive : db.status tx = .active := hmine.status.resolve_right (by simp)
  have hnotCommitted : db.status tx ≠ .committed := by simp [hactive]
  obtain ⟨⟨c, hc, r, hseen, hrid⟩, hkey⟩ := Database.insertPVC_isOk hok
  have hpid : p.agentID = (beats tx).agentID := by rw [hp]
  have hknown : p.agentID ∈ reg.agents.ids := by
    obtain ⟨r₀, hr₀, hrow⟩ := row_of_mem h.stores hc
    have hid : r.id = r₀.id := by
      rcases Cell.contains_of_seenBy hseen with hsame | ⟨t, hdraft⟩
      · rw [hrow, Option.some_inj] at hsame
        rw [hsame]
      · obtain ⟨⟨r₁, hrow₁, -, rfl⟩, -⟩ := (h.each t).draft c hc r hdraft
        rw [hrow, Option.some_inj] at hrow₁
        rw [hrow₁]
        rfl
    rw [← hrid, hid]
    exact List.mem_map_of_mem hr₀
  rw [Database.insertPVC_eq_ok hok]
  have hcases : ∀ v ∈ Mvcc.insert tx p db.pvcs, v ∈ db.pvcs ∨ v = ⟨p, some tx, none⟩ :=
    fun v hv => (List.mem_append.mp hv).imp_right List.mem_singleton.mp
  -- what is not committed is not found
  have hhidden : (⟨p, some tx, none⟩ : Version τ PVCRow).visible (isCommitted db.status) = false := by
    simp [Version.visible, isCommitted, hactive]
  have hthere : ∀ (k : Nat) id, (∃ v : Version τ PVCRow, db.pvcs[k]? = some v ∧ v.row.agentID = id) →
      ∃ v : Version τ PVCRow, (Mvcc.insert tx p db.pvcs)[k]? = some v ∧ v.row.agentID = id := by
    rintro k id ⟨v, hv, hid⟩
    exact ⟨v, by rw [Mvcc.insert, List.getElem?_append_left (List.getElem?_eq_some_iff.mp hv).1, hv], hid⟩
  refine h.update ⟨h.stores.agents, fun id => ?_⟩ (fun v hv => ?_) ?_ fun tx' htx hother => ?_
  · rw [stored_insert hnotCommitted]
    exact h.stores.inventory id
  · rcases hcases v hv with hold | rfl
    · exact h.known v hold
    · exact hknown
  · refine ⟨fun c hc r' hdraft => ?_, fun _ => hmine.locked rfl, .inl hactive,
      fun v hv htouched => ⟨?_, by simp, fun _ => h.holds_of_works hworks (hpid ▸ hknown)⟩,
      fun todo' done' hreplacing => ?_⟩
    · obtain ⟨hrow, -⟩ := hmine.draft c hc r' hdraft
      exact ⟨hrow, hactive, by simp, by simp⟩
    · rcases hcases v hv with hold | rfl
      · exact (hmine.touched v hold htouched).1
      · exact hpid
    · cases hreplacing
      refine ⟨fun n v hv hid hvisible => ?_, by simp, fun v hv hmin => ?_, ?_, ?_⟩
      · rcases getElem?_insert hv with hold | ⟨-, rfl⟩
        · exact hfinds n v hold hid hvisible
        · rw [hhidden] at hvisible
          cases hvisible
      · rcases hcases v hv with hold | rfl
        · exact hkept v hold hmin
        · rfl
      · rw [insertedBy_insert, if_pos rfl, hinserted, List.map_append, List.map_singleton, ← hp]
      · rw [List.map_append, List.map_singleton, List.nodup_append]
        refine ⟨hnames, List.nodup_singleton _, ?_⟩
        rintro name hname _ hlast rfl
        obtain ⟨pvc, hpvc, rfl⟩ := List.mem_map.mp hname
        -- a volume of this name would have been in the way
        have hrow : (⟨(beats tx).agentID, pvc, (beats tx).now⟩ : PVCRow) ∈ insertedBy tx db.pvcs := by
          rw [hinserted]
          exact List.mem_map_of_mem hpvc
        obtain ⟨v, hv, hmin, hvrow⟩ := mem_insertedBy.mp hrow
        have hsame : v.row.key = p.key := by
          rw [hvrow, PVCRow.key, PVCRow.key, hpid, List.mem_singleton.mp hlast]
        have hfound := hkey v hv hsame
        rw [Version.visible, hmin, hkept v hv hmin] at hfound
        simp [sees] at hfound
  · refine ⟨hother.draft, hother.locked, hother.status, fun v hv htouched => ?_,
      fun todo' done' hreplacing => ?_⟩
    · rcases hcases v hv with hold | rfl
      · exact hother.touched v hold htouched
      · rcases htouched with hmin | hmax
        · cases hmin
          exact absurd rfl htx
        · cases hmax
    · obtain ⟨hfinds', htodo', hkept', hinserted', hnames'⟩ := hother.replacing _ _ hreplacing
      refine ⟨fun n v hv hid hvisible => ?_, fun k hk => hthere k _ (htodo' k hk), fun v hv hmin => ?_,
        ?_, hnames'⟩
      · rcases getElem?_insert hv with hold | ⟨-, rfl⟩
        · exact hfinds' n v hold hid hvisible
        · rw [hhidden] at hvisible
          cases hvisible
      · rcases hcases v hv with hold | rfl
        · exact hkept' v hold hmin
        · rfl
      · rw [insertedBy_insert, if_neg (Ne.symm htx), List.append_nil, hinserted']

end Orderly

/-! ### Ends of transactions -/

/-- What the end of `tx` makes of the cells. -/
structure Releases (tx : τ) (f : Cell τ AgentRow → Cell τ AgentRow) (db : Database τ) : Prop where
  cell : ∀ c ∈ db.agents, (f c).draft = none ∧ (∃ r, c.draft = some (tx, r)) ∨
    f c = c ∧ ∀ r, c.draft ≠ some (tx, r)
  ids : ∀ c ∈ db.agents, (f c).row.map AgentRow.id = c.row.map AgentRow.id

/-- The database after the end of `tx`. -/
def Database.ended (db : Database τ) (tx : τ) (s : TxStatus) (f : Cell τ AgentRow → Cell τ AgentRow) :
    Database τ where
  status := Function.update db.status tx s
  agents := db.agents.map f
  pvcs := db.pvcs

namespace Progressed

variable {beat : Beat} {tx tx' : τ} {m : BeatPhase} {db : Database τ} {s : TxStatus}
variable {f : Cell τ AgentRow → Cell τ AgentRow}

/-- The one that ends has no agent any more. -/
theorem ended (h : Progressed beat tx m db) (hf : Releases tx f db) (hs : s ≠ .active) :
    Progressed beat tx .over (db.ended tx s f) where
  draft c' hc' r' hdraft := by
    obtain ⟨c, hc, rfl⟩ := List.mem_map.mp hc'
    rcases hf.cell c hc with ⟨hnone, -⟩ | ⟨hsame, hnot⟩
    · rw [hnone] at hdraft
      cases hdraft
    · rw [hsame] at hdraft
      exact absurd hdraft (hnot r')
  locked := nofun
  status := .inr rfl
  touched v hv htouched := by
    have hstatus : (db.ended tx s f).status tx = s := Function.update_self ..
    exact ⟨(h.touched v hv htouched).1, nofun, fun hactive => absurd (hstatus.symm.trans hactive) hs⟩
  replacing := nofun

/-- The agents of the others stay theirs. -/
theorem other_ended (h : Progressed beat tx' m db) (hf : Releases tx f db) (htx : tx' ≠ tx)
    (hvisible : m.works = true → ∀ v ∈ db.pvcs, v.row.agentID = beat.agentID →
      v.visible (isCommitted (Function.update db.status tx s)) = v.visible (isCommitted db.status)) :
    Progressed beat tx' m (db.ended tx s f) := by
  have hkeep : ∀ c ∈ db.agents, ∀ r', c.draft = some (tx', r') → f c = c := by
    intro c hc r' hdraft
    rcases hf.cell c hc with ⟨-, r, hmine⟩ | ⟨hsame, -⟩
    · rw [hdraft] at hmine
      cases hmine
      exact absurd rfl htx
    · exact hsame
  have hstatus : (db.ended tx s f).status tx' = db.status tx' := Function.update_of_ne htx _ _
  refine ⟨fun c' hc' r' hdraft => ?_, fun hworks c' hc' r' hrow' hid => ?_, hstatus ▸ h.status,
    fun v hv htouched => ?_, fun todo done hreplacing => ?_⟩
  · obtain ⟨c, hc, rfl⟩ := List.mem_map.mp hc'
    rw [hstatus]
    rcases hf.cell c hc with ⟨hnone, -⟩ | ⟨hsame, -⟩
    · rw [hnone] at hdraft
      cases hdraft
    · rw [hsame] at hdraft ⊢
      exact h.draft c hc r' hdraft
  · obtain ⟨c, hc, rfl⟩ := List.mem_map.mp hc'
    have hids := hf.ids c hc
    rw [hrow', Option.map_some, eq_comm, Option.map_eq_some_iff] at hids
    obtain ⟨r, hrow, hrid⟩ := hids
    obtain ⟨d, hdraft⟩ := h.locked hworks c hc r hrow (hrid.trans hid)
    exact ⟨d, by rw [hkeep c hc d hdraft, hdraft]⟩
  · obtain ⟨hid, hlocked, hholds⟩ := h.touched v hv htouched
    refine ⟨hid, hlocked, fun hactive => ?_⟩
    obtain ⟨c, hc, r, d, hrow, hrid, hdraft⟩ := hholds (hstatus ▸ hactive)
    exact ⟨c, List.mem_map.mpr ⟨c, hc, hkeep c hc d hdraft⟩, r, d, hrow, hrid, hdraft⟩
  · obtain ⟨hfinds, htodo, hkept, hinserted, hnames⟩ := h.replacing _ _ hreplacing
    refine ⟨fun n v hv hid hnow => hfinds n v hv hid ?_, htodo, hkept, hinserted, hnames⟩
    rwa [Database.ended, hvisible (by rw [hreplacing]; rfl) v (List.mem_of_getElem? hv) hid] at hnow

end Progressed

namespace Orderly

variable {beats : τ → Beat} {m : τ → BeatPhase} {reg reg' : Registry} {db db' : Database τ} {tx : τ}

/-- The registry takes the heartbeat that is about to commit. -/
theorem updateHeartbeat_isOk (h : Orderly beats m reg db) (hm : m tx = .replacing [] (beats tx).pvcs) :
    ∃ reg', reg.updateHeartbeat (beats tx).now (beats tx).agentID (beats tx).pvcs = .ok reg' := by
  obtain ⟨-, -, -, hinserted, hnames⟩ := (h.each tx).replacing _ _ hm
  by_cases hknown : (beats tx).agentID ∈ reg.agents.ids
  · obtain ⟨r, hr, hid⟩ := List.mem_map.mp hknown
    have hsome : (reg.row (beats tx).agentID).isSome = true := by
      rw [Registry.row, List.find?_isSome]
      exact ⟨r, hr, decide_eq_true hid⟩
    obtain ⟨r', hr'⟩ := Option.isSome_iff_exists.mp hsome
    exact (Registry.updateHeartbeat_isOk_iff _ _ hr').mpr hnames
  · -- of an agent that is not there, no volume has been inserted
    have hempty : (beats tx).pvcs = [] := by
      by_contra hsome
      obtain ⟨pvc, hpvc⟩ := List.exists_mem_of_ne_nil _ hsome
      have hrow : (⟨(beats tx).agentID, pvc, (beats tx).now⟩ : PVCRow) ∈ insertedBy tx db.pvcs := by
        rw [hinserted]
        exact List.mem_map_of_mem hpvc
      obtain ⟨v, hv, -, hvrow⟩ := mem_insertedBy.mp hrow
      have hid := h.known v hv
      rw [hvrow] at hid
      exact hknown hid
    rw [hempty]
    exact ⟨_, rfl⟩

/-- The agent and the inventory of the heartbeat are stored for good. -/
theorem commit (h : Orderly beats m reg db) (hm : m tx = .replacing [] (beats tx).pvcs)
    (hreg' : reg.updateHeartbeat (beats tx).now (beats tx).agentID (beats tx).pvcs = .ok reg') :
    Orderly beats (Function.update m tx .over) reg' (db.commit tx) := by
  have hmine := hm ▸ h.each tx
  have hworks : (m tx).works = true := by rw [hm]; rfl
  obtain ⟨hfinds, -, hkept, hinserted, -⟩ := hmine.replacing _ _ rfl
  have hrows := Registry.agents_updateHeartbeat hreg'
  have hids : reg'.agents.ids = reg.agents.ids := by
    rw [AgentTable.ids, hrows, List.map_map, AgentTable.ids]
    refine List.map_congr_left fun r _ => ?_
    rw [Function.comp_apply]
    split <;> rfl
  -- what becomes of a cell
  have hcell : ∀ c ∈ db.agents, (c.commit tx).row =
      c.row.map fun r => if r.id = (beats tx).agentID then r.setHealthy (beats tx).now else r := by
    intro c hc
    obtain ⟨r, -, hrow⟩ := row_of_mem h.stores hc
    rw [hrow, Option.map_some]
    rcases Cell.commit_cases tx c with ⟨r', hdraft, hcommit, -⟩ | ⟨hnot, hcommit, -⟩
    · obtain ⟨⟨r₀, hrow₀, hid, rfl⟩, -⟩ := hmine.draft c hc r' hdraft
      rw [hrow, Option.some_inj] at hrow₀
      subst hrow₀
      rw [hcommit, if_pos hid]
    · rw [hcommit, hrow, if_neg]
      intro hid
      obtain ⟨d, hdraft⟩ := hmine.locked rfl c hc r hrow hid
      exact hnot d hdraft
  have hreleases : Releases tx (Cell.commit tx) db := by
    refine ⟨fun c _ => ?_, fun c hc => ?_⟩
    · rcases Cell.commit_cases tx c with ⟨r, hdraft, hcommit, -⟩ | ⟨hnot, hcommit, -⟩
      · exact .inl ⟨by rw [hcommit], r, hdraft⟩
      · exact .inr ⟨hcommit, hnot⟩
    · rw [hcell c hc, Option.map_map]
      refine congrArg (fun f => c.row.map f) (funext fun r => ?_)
      rw [Function.comp_apply]
      split <;> rfl
  refine h.update ⟨?_, fun id => ?_⟩ (fun v hv => hids ▸ h.known v hv) ?_ fun tx' htx hother => ?_
  · rw [hrows, Database.commit, List.map_map, List.map_map]
    calc db.agents.map (Cell.row ∘ Cell.commit tx)
        = (db.agents.map Cell.row).map (Option.map fun r =>
            if r.id = (beats tx).agentID then r.setHealthy (beats tx).now else r) := by
          rw [List.map_map]
          exact List.map_congr_left hcell
      _ = _ := by
          rw [h.stores.agents, List.map_map]
          rfl
  · rw [Registry.inventory_updateHeartbeat hreg', Database.commit]
    split
    · rename_i hid
      subst hid
      rw [filter_stored_commit_of_replaced (fun v hv hvid hvisible => ?_) fun v hv hmin => ?_, hinserted]
      · obtain ⟨n, hn⟩ := List.mem_iff_getElem?.mp hv
        exact (hfinds n v hn (of_decide_eq_true hvid) hvisible).resolve_left List.not_mem_nil
      · exact ⟨decide_eq_true (hmine.touched v hv (.inl hmin)).1, hkept v hv hmin⟩
    · rename_i hid
      rw [filter_stored_commit_of_untouched, h.stores.inventory]
      intro v hv hvid
      refine not_or.mp fun htouched => hid ?_
      rw [← (hmine.touched v hv htouched).1, of_decide_eq_true hvid]
  · exact hmine.ended hreleases (by simp)
  · refine hother.other_ended hreleases htx fun hworks' v hv hid => ?_
    -- the rows of a heartbeat that goes on are not those of the one that commits
    have huntouched : ¬ (v.xmin = some tx ∨ v.xmax = some tx) := by
      intro htouched
      have hsame := (hmine.touched v hv htouched).1
      refine h.agentID_ne htx hworks hworks' (hsame ▸ h.known v hv) ?_
      rw [← hid, hsame]
    exact visible_update (not_or.mp huntouched).1 (not_or.mp huntouched).2 _

/-- A transaction is rolled back. -/
theorem abort (h : Orderly beats m reg db) (hactive : db.status tx = .active) :
    Orderly beats (Function.update m tx .over) reg (db.abort tx) := by
  have hnotCommitted : db.status tx ≠ .committed := by simp [hactive]
  have hreleases : Releases tx (Cell.rollback tx) db := by
    refine ⟨fun c _ => ?_, fun c _ => by rw [Cell.row_rollback]⟩
    rcases Cell.commit_cases tx c with ⟨r, hdraft, -, hrollback⟩ | ⟨hnot, -, hrollback⟩
    · exact .inl ⟨by rw [hrollback], r, hdraft⟩
    · exact .inr ⟨hrollback, hnot⟩
  refine h.update ⟨?_, fun id => ?_⟩ h.known ((h.each tx).ended hreleases (by simp)) fun tx' htx hother =>
    hother.other_ended hreleases htx fun _ v _ _ => by rw [isCommitted_abort hnotCommitted]
  · rw [← h.stores.agents, Database.abort, List.map_map]
    exact List.map_congr_left fun c _ => Cell.row_rollback tx c
  · rw [Database.abort, stored_abort hnotCommitted]
    exact h.stores.inventory id

end Orderly

/-! ## Runs -/

section

variable {beats : τ → Beat} {m : τ → BeatPhase} {reg : Registry} {db : Database τ} {tx : τ}
variable {tr : Trace τ (SqlCall τ) SqlCall.Ans}

/-- The registry after the commits of a run is stored. -/
def InTurn (beats : τ → Beat) (reg : Registry) (tr : Trace τ (SqlCall τ) SqlCall.Ans) (m : τ → BeatPhase)
    (db : Database τ) : Prop :=
  ∃ reg', Registry.beatAll beats (commits tr) reg = .ok reg' ∧ Orderly beats m reg' db

/-- A step that is no commit. -/
theorem InTurn.of_orderly {reg' : Registry} {e : τ × SqlEv τ} {m' : τ → BeatPhase} {db' : Database τ}
    (hreg' : Registry.beatAll beats (commits tr) reg = .ok reg') (he : committer e = none)
    (h : Orderly beats m' reg' db') : InTurn beats reg (tr ++ [e]) m' db' := by
  refine ⟨reg', ?_, h⟩
  rw [commits, List.filterMap_append, List.filterMap_cons, he, List.filterMap_nil, List.append_nil]
  exact hreg'

/-- A statement that fails inside a transaction. -/
theorem execSql_of_fail {env : Env} {err : Err} (hfail : env.fail = some err) {statement : Statement}
    (hbegin : statement ≠ .begin) (hcommit : statement ≠ .commit) (hrollback : statement ≠ .rollback) :
    (execSql env ⟨tx, statement⟩ db).2 = db ∧
      (∀ m : BeatPhase, m.follow ⟨⟨tx, statement⟩, (execSql env ⟨tx, statement⟩ db).1⟩ = .failing) ∧
      committer (tx, ⟨⟨tx, statement⟩, (execSql env ⟨tx, statement⟩ db).1⟩) = none := by
  cases statement with
  | begin => exact absurd rfl hbegin
  | commit => exact absurd rfl hcommit
  | rollback => exact absurd rfl hrollback
  | deleteAt | deleteOf =>
    simp only [execSql, Env.answer_of_fail hfail, BeatPhase.follow, committer, implies_true, and_self]
  | deleteRow | upsertAgent | updateAgent | insertPVC =>
    simp only [execSql, Env.write_of_fail hfail, BeatPhase.follow, committer, implies_true, and_self]

/-- Every statement of a heartbeat keeps the database orderly. -/
theorem InTurn.exec (h : InTurn beats reg tr m db) {c : SqlCall τ} {env : Env}
    (hp : (beats tx).Permits tx (m tx) c) (hgrant : Granted env c db) :
    InTurn beats reg (tr ++ [(tx, ⟨c, (execSql env c db).1⟩)])
      (Function.update m tx ((m tx).follow ⟨c, (execSql env c db).1⟩)) (execSql env c db).2 := by
  obtain ⟨reg', hreg', h⟩ := h
  obtain ⟨tx', statement⟩ := c
  have htx : tx' = tx := hp.1
  subst htx
  have hp := hp.2
  -- a statement inside the transaction fails
  have hfailing : ∀ err, env.fail = some err → statement ≠ .begin → statement ≠ .commit →
      statement ≠ .rollback → m tx' ≠ .over →
      InTurn beats reg (tr ++ [(tx', ⟨⟨tx', statement⟩, (execSql env ⟨tx', statement⟩ db).1⟩)])
        (Function.update m tx' ((m tx').follow ⟨⟨tx', statement⟩, (execSql env ⟨tx', statement⟩ db).1⟩))
        (execSql env ⟨tx', statement⟩ db).2 := by
    intro err hfail hbegin hcommit hrollback hm
    obtain ⟨hsame, hfollow, hnone⟩ := @execSql_of_fail τ _ db tx' env err hfail statement hbegin hcommit
      hrollback
    rw [hsame, hfollow]
    exact .of_orderly hreg' hnone (h.update_phase ((h.each tx').fail hm))
  cases statement with
  | deleteAt place => exact hp.elim
  | upsertAgent r => exact hp.elim
  | begin =>
    have hm : m tx' = .ready := hp
    cases hfail : env.fail with
    | some err =>
      have hdone : execSql env ⟨tx', .begin⟩ db = (.error err, db) := by
        simp only [execSql, Env.answer_of_fail hfail]
      rw [hdone]
      exact .of_orderly hreg' rfl (h.update_phase (hm ▸ h.each tx').over_of_ready)
    | none =>
      have hdone : execSql env ⟨tx', .begin⟩ db = (.ok (), db) := by
        simp only [execSql, Env.answer_of_ok hfail]
      rw [hdone]
      exact .of_orderly hreg' rfl (h.update_phase (h.each tx'))
  | updateAgent now agentID =>
    obtain ⟨hm, rfl, rfl⟩ := hp
    cases hfail : env.fail with
    | some err => exact hfailing err hfail (by simp) (by simp) (by simp) (by simp [hm])
    | none =>
      have hdone : execSql env ⟨tx', .updateAgent (beats tx').now (beats tx').agentID⟩ db =
          (.ok (), db.updateAgent tx' (beats tx').now (beats tx').agentID) :=
        Env.write_of_ok hfail
          (fun db : Database τ => .ok (db.updateAgent tx' (beats tx').now (beats tx').agentID)) rfl
      rw [hdone]
      exact .of_orderly hreg' rfl (h.lock hm (hgrant.resolve_left (by simp [hfail])))
  | deleteOf agentID =>
    obtain ⟨hm, rfl⟩ := hp
    cases hfail : env.fail with
    | some err => exact hfailing err hfail (by simp) (by simp) (by simp) (by simp [hm])
    | none =>
      have hdone : execSql env ⟨tx', .deleteOf (beats tx').agentID⟩ db =
          (.ok (db.findPVCs tx' (beats tx').agentID), db) := by
        simp only [execSql, Env.answer_of_ok hfail]
      rw [hdone]
      exact .of_orderly hreg' rfl (h.find hm)
  | deleteRow n =>
    obtain ⟨todo, hm⟩ := hp
    cases hfail : env.fail with
    | some err => exact hfailing err hfail (by simp) (by simp) (by simp) (by simp [hm])
    | none =>
      have hdone : execSql env ⟨tx', .deleteRow n⟩ db =
          (.ok (), { db with pvcs := remove db.status tx' n db.pvcs }) :=
        Env.write_of_ok hfail
          (fun db : Database τ => .ok { db with pvcs := remove db.status tx' n db.pvcs }) rfl
      rw [hdone, hm]
      exact .of_orderly hreg' rfl (h.deleteRow hm)
  | insertPVC p =>
    obtain ⟨done, rest, hm, -, hp⟩ := hp
    rcases Env.write_cases env db (Database.insertPVC tx' p) with ⟨err, hwrite⟩ | ⟨db', hok, hwrite⟩
    · have hdone : execSql env ⟨tx', .insertPVC p⟩ db = (.error err, db) := hwrite
      rw [hdone]
      exact .of_orderly hreg' rfl (h.update_phase ((h.each tx').fail (by simp [hm])))
    · have hdone : execSql env ⟨tx', .insertPVC p⟩ db = (.ok (), db') := hwrite
      rw [hdone, hm]
      exact .of_orderly hreg' rfl (h.insertPVC hm hp hok)
  | commit =>
    have hm : m tx' = .replacing [] (beats tx').pvcs := hp
    cases hfail : env.fail with
    | some err =>
      rw [execSql_commit_of_fail hfail]
      have hactive : db.status tx' = .active :=
        (h.each tx').status.resolve_right (by simp [hm])
      exact .of_orderly hreg' rfl (h.abort hactive)
    | none =>
      rw [execSql_commit_of_ok hfail]
      obtain ⟨reg'', hreg''⟩ := h.updateHeartbeat_isOk hm
      refine ⟨reg'', ?_, h.commit hm hreg''⟩
      have hcommits : commits (tr ++ [(tx', (⟨⟨tx', .commit⟩, .ok ()⟩ : SqlEv τ))]) = commits tr ++ [tx'] :=
        List.filterMap_append
      rw [hcommits]
      exact Registry.beatAll_snoc hreg' hreg''
  | rollback =>
    by_cases hactive : db.status tx' = .active
    · have hdone : execSql env ⟨tx', .rollback⟩ db = ((), db.abort tx') :=
        congrArg (Prod.mk ()) (if_pos hactive)
      rw [hdone]
      exact .of_orderly hreg' rfl (h.abort hactive)
    · have hdone : execSql env ⟨tx', .rollback⟩ db = ((), db) :=
        congrArg (Prod.mk ()) (if_neg hactive)
      have hover : m tx' = .over := (h.each tx').status.resolve_left hactive
      rw [hdone]
      exact .of_orderly hreg' rfl (h.update_phase (hover ▸ h.each tx'))

/-- The statements of the heartbeats wait for an agent only, and the transaction that
    has it goes on. -/
theorem Orderly.goes_on (h : Orderly beats m reg db) {procs : τ → Sql τ (Except Err Unit)}
    (hobeys : ∀ tx, Prog.Obeys BeatPhase.follow ((beats tx).Permits tx) (fun _ m => m = .over) (m tx)
      (procs tx))
    {c : SqlCall τ} (hnext : (procs tx).next? = some c) :
    ∃ tx' c', (procs tx').next? = some c' ∧ db.Blocked c'.tx c'.statement = false := by
  -- what a transaction may do next, and when it waits
  have hpermits : ∀ tx c, (procs tx).next? = some c → (beats tx).Permits tx (m tx) c := by
    intro tx c hnext
    obtain ⟨k, hk⟩ := Prog.eq_call_of_next? hnext
    have hmove := hobeys tx
    rw [hk] at hmove
    exact hmove.1
  have hwaits : ∀ tx c, (beats tx).Permits tx (m tx) c → db.Blocked c.tx c.statement = true →
      m tx = .ready ∧ ∃ a ∈ db.agents, a.heldFrom tx = true := by
    rintro tx ⟨tx', statement⟩ ⟨rfl, hp⟩ hblocked
    -- nobody else who is under way has come near a row of an agent at work
    have hrows : (m tx').works = true → ∀ v ∈ db.pvcs, v.row.agentID = (beats tx').agentID → ∀ t,
        v.xmin = some t ∨ v.xmax = some t → busy db.status tx' t = false := by
      intro hworks v hv hid t htouched
      rw [Bool.eq_false_iff, busy, ne_eq, Bool.and_eq_true, decide_eq_true_eq, decide_eq_true_eq]
      exact fun hbusy => hbusy.1 (h.eq_of_touched hworks hv hid htouched hbusy.2)
    cases statement with
    | updateAgent now agentID =>
      obtain ⟨a, ha, hheld⟩ := List.any_eq_true.mp hblocked
      exact ⟨hp.1, a, ha, (Bool.and_eq_true_iff.mp hheld).1⟩
    | deleteRow n =>
      obtain ⟨todo, hm⟩ := hp
      obtain ⟨-, htodo, -⟩ := (h.each tx').replacing _ _ hm
      obtain ⟨v, hv, hid⟩ := htodo n List.mem_cons_self
      have hblocked : (db.pvcs[n]?.any fun v => v.xmax.any (busy db.status tx')) = true := hblocked
      rw [hv, Option.any_some, Option.any_eq_true] at hblocked
      obtain ⟨t, ht, hbusy⟩ := hblocked
      rw [hrows (by rw [hm]; rfl) v (List.mem_of_getElem? hv) hid t (.inr ht)] at hbusy
      cases hbusy
    | insertPVC p =>
      obtain ⟨done, rest, hm, -, hp⟩ := hp
      obtain ⟨v, hv, hundecided⟩ := List.any_eq_true.mp hblocked
      rw [Bool.and_eq_true, decide_eq_true_eq] at hundecided
      obtain ⟨hkey, hundecided⟩ := hundecided
      have hid : v.row.agentID = (beats tx').agentID := by
        have hfst := congrArg Prod.fst hkey
        rw [hp] at hfst
        exact hfst
      have hfree := hrows (by rw [hm]; rfl) v hv hid
      rw [Version.undecided, Bool.or_eq_true, Bool.and_eq_true, Option.any_eq_true,
        Option.any_eq_true] at hundecided
      rcases hundecided with ⟨t, ht, hbusy⟩ | ⟨-, t, ht, hbusy⟩
      · rw [hfree t (.inl ht)] at hbusy
        cases hbusy
      · rw [hfree t (.inr ht)] at hbusy
        cases hbusy
    | begin | deleteAt _ | deleteOf _ | upsertAgent _ | commit | rollback =>
      first | cases hblocked | exact hp.elim
  by_cases hblocked : db.Blocked c.tx c.statement = true
  · obtain ⟨-, a, ha, hheld⟩ := hwaits tx c (hpermits tx c hnext) hblocked
    obtain ⟨⟨t, r'⟩, hdraft, -⟩ := (Option.any_eq_true _ _).mp hheld
    obtain ⟨-, -, hready, hover⟩ := (h.each t).draft a ha r' hdraft
    -- the one that has the agent is not at its end, and not at its first statement
    cases hproc : procs t with
    | pure out =>
      have hend := hobeys t
      rw [hproc] at hend
      exact absurd hend hover
    | call c' k =>
      have hnext' : (procs t).next? = some c' := by rw [hproc]; rfl
      refine ⟨t, c', hnext', Bool.eq_false_iff.mpr fun hblocked' => ?_⟩
      exact hready (hwaits t c' (hpermits t c' hnext') hblocked').1
  · exact ⟨tx, c, hnext, Bool.eq_false_of_not_eq_true hblocked⟩

end

/-! ### Answers -/

/-- How often a transaction has committed. -/
def commitsAfter (tx : τ) (n : Nat) (ev : SqlEv τ) : Nat := n + (committer (tx, ev)).toList.length

theorem count_commits (tr : Trace τ (SqlCall τ) SqlCall.Ans) (tx : τ) :
    (commits tr).count tx = (tr.local tx).foldl (commitsAfter tx) 0 := by
  induction tr using List.reverseRecOn with
  | nil => rfl
  | append_singleton tr e ih =>
    obtain ⟨tx', ev⟩ := e
    have hcommits : commits (tr ++ [(tx', ev)]) = commits tr ++ (committer (tx', ev)).toList := by
      rw [commits, List.filterMap_append, commits]
      cases hev : committer (tx', ev) <;> simp [hev]
    rw [hcommits, List.count_append, ih, Trace.local_append, List.foldl_append]
    by_cases htx : tx' = tx
    · subst htx
      cases hev : committer (tx', ev) with
      | none => simp [Trace.local, commitsAfter, hev]
      | some t => simp [Trace.local, commitsAfter, hev, committer_eq hev]
    · cases hev : committer (tx', ev) with
      | none => simp [Trace.local, htx]
      | some t => simp [Trace.local, htx, committer_eq hev]

omit [DecidableEq τ] in
/-- A heartbeat commits once if it is answered without an error, and else it does not. -/
theorem obeys_commitsAfter (beat : Beat) (tx : τ) :
    Prog.Obeys (commitsAfter tx) (fun _ _ => True) (fun out n => n = if out.isOk then 1 else 0) 0
      (AgentRepository.updateHeartbeat tx beat.now beat.agentID beat.pvcs) := by
  have hrows : ∀ todo, (Sql.deleteRows tx todo).All fun c =>
      True ∧ ∀ answer, commitsAfter tx 0 ⟨c, answer⟩ = 0 := by
    intro todo
    induction todo with
    | nil => trivial
    | cons n todo ih =>
      refine Prog.All.perform ⟨trivial, fun _ => rfl⟩ fun deleted => ?_
      rcases deleted with err | _
      · trivial
      · exact ih
  have hpvcs : ∀ pvcs, (Sql.insertPVCs tx beat.agentID beat.now pvcs).All fun c =>
      True ∧ ∀ answer, commitsAfter tx 0 ⟨c, answer⟩ = 0 := by
    intro pvcs
    induction pvcs with
    | nil => trivial
    | cons pvc pvcs ih =>
      refine Prog.All.perform ⟨trivial, fun _ => rfl⟩ fun inserted => ?_
      rcases inserted with err | _
      · trivial
      · exact ih
  refine Prog.Obeys.perform trivial fun begun => ?_
  rcases begun with err | _
  · rfl
  refine Prog.Obeys.bind (Prog.Obeys.mono ?_ fun out n (hn : n = if out.isOk then 1 else 0) =>
    ⟨trivial, fun _ => hn⟩)
  refine Prog.Obeys.perform trivial fun written => ?_
  rcases written with err | _
  · rfl
  refine Prog.Obeys.perform trivial fun found => ?_
  rcases found with err | todo
  · rfl
  refine Prog.Obeys.skip (hrows todo) fun deleted => ?_
  rcases deleted with err | _
  · rfl
  refine Prog.Obeys.skip (hpvcs beat.pvcs) fun inserted => ?_
  rcases inserted with err | _
  · rfl
  refine ⟨trivial, fun done => ?_⟩
  rcases done with err | _
  · rfl
  · rfl

/-! ### The whole run -/

theorem orderly_start (beats : τ → Beat) (reg : Registry) :
    Orderly beats (fun _ => .ready) reg (.ofRegistry τ reg) := by
  refine ⟨⟨?_, fun id => ?_⟩, fun v hv => ?_, fun tx => ⟨fun c hc r' hdraft => ?_, nofun, .inl rfl,
    fun v hv htouched => ?_, nofun⟩⟩
  · rw [Database.ofRegistry, List.map_map]
    rfl
  · have hstored : stored (fun _ => .active) (reg.pvcs.rows.map fun p =>
        (⟨p, none, none⟩ : Version τ PVCRow)) = reg.pvcs.rows := by
      rw [stored, List.filter_map, List.map_map]
      exact (List.map_id _).trans (List.filter_eq_self.mpr fun _ _ => rfl)
    rw [Database.ofRegistry, hstored]
    rfl
  · obtain ⟨p, hp, rfl⟩ := List.mem_map.mp hv
    exact reg.fk p hp
  · obtain ⟨r, -, rfl⟩ := List.mem_map.mp hc
    cases hdraft
  · obtain ⟨p, -, rfl⟩ := List.mem_map.mp hv
    rcases htouched with hmin | hmax
    · cases hmin
    · cases hmax

/-- What a run of heartbeats amounts to. -/
structure OneByOne (beats : τ → Beat) (reg : Registry) (tr : Trace τ (SqlCall τ) SqlCall.Ans)
    (cfg : Config (SqlCall τ) SqlCall.Ans (Except Err Unit) τ (Database τ)) : Prop where
  /-- The heartbeats that have committed can be taken for single steps, in this order. -/
  stored : ∃ reg', Registry.beatAll beats (commits tr) reg = .ok reg' ∧ cfg.state.Stores reg'
  /-- They are the ones that have been answered without an error. -/
  answered : ∀ tx out, cfg.procs tx = .pure out → (commits tr).count tx = if out.isOk then 1 else 0
  /-- There is no deadlock. -/
  goesOn : ∀ tx c, (cfg.procs tx).next? = some c →
    ∃ tx' c', (cfg.procs tx').next? = some c' ∧ cfg.state.Blocked c'.tx c'.statement = false

/-- Any heartbeats, of any agents, whose statements interleave in any order, and any of
    which may fail. -/
theorem oneByOne_of_run {beats : τ → Beat} {reg : Registry}
    {tr : Trace τ (SqlCall τ) SqlCall.Ans}
    {cfg : Config (SqlCall τ) SqlCall.Ans (Except Err Unit) τ (Database τ)}
    (hrun : Run execSql (fun _ => Granted) (beatingOn beats reg) tr cfg) :
    OneByOne beats reg tr cfg := by
  obtain ⟨m, ⟨reg', hreg', horderly⟩, hobeys⟩ := hrun.monitored (J := InTurn beats reg)
    (fun tx => obeys_updateHeartbeat (beats tx) tx) ⟨reg, rfl, orderly_start beats reg⟩
    fun _ _ _ _ _ _ h hp hgrant => h.exec hp hgrant
  refine ⟨⟨reg', hreg', horderly.stores⟩, fun tx out hout => ?_, fun tx c hnext =>
    horderly.goes_on hobeys hnext⟩
  obtain ⟨-, hend⟩ := hrun.obeys_local tx (obeys_commitsAfter (beats tx) tx)
  rw [hout] at hend
  rw [count_commits]
  exact hend

/-! ## Sample run -/

/-- Two heartbeats of one agent. -/
def twoBeats (first : Bool) : Beat := ⟨5, 7, [samplePVC (if first then "data" else "logs")]⟩

/-- The second one waits for the first, and stores its inventory after it. -/
theorem oneByOne_of_twoBeats :
    ∃ tr cfg, commits tr = [true, false] ∧ cfg.state.inventory 7 = [samplePVC "logs"] ∧
      OneByOne twoBeats (sampleRegistry [samplePVC "old"] (by decide)) tr cfg := by
  let order : List (Bool × Env) :=
    [(true, 2), (false, 1), (true, 5), (false, 6)].flatMap fun turn => List.replicate turn.2 (turn.1, {})
  have hend : ((beatingOn twoBeats (sampleRegistry [samplePVC "old"] (by decide))).follow execSql
      (fun _ => Granted) order).any fun out => commits out.1 = [true, false] ∧
        out.2.state.inventory 7 = [samplePVC "logs"] := by decide +kernel
  obtain ⟨⟨tr, cfg⟩, hfollow, hstep⟩ := (Option.any_eq_true _ _).mp hend
  obtain ⟨hcommits, hinventory⟩ := of_decide_eq_true hstep
  exact ⟨tr, cfg, hcommits, hinventory, oneByOne_of_run (Run.of_follow hfollow)⟩

end Katapult
