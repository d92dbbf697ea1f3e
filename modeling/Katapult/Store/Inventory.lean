/-
  Katapult.Store.Inventory

  One transaction that re-registers an agent and one that stores its heartbeat,
  interleaved statement by statement.

  Both replace the inventory.  The heartbeat locks the agent before it deletes,
  and the registration deletes before it locks: so the heartbeat can commit in
  between (`Overtaken`), and what it has inserted is then neither seen by the
  `DELETE` that has begun nor locked away from the inserts that follow.

  A `Script` is what one transaction has done; `Coordinated` says what the
  database is like when two transactions have got that far.
-/

import Katapult.Store.AgentStatements

namespace Katapult

open Effect Mvcc

/-! ## The two transactions -/

inductive Party where
  | upsert | heartbeat
  deriving DecidableEq

def Party.other : Party → Party
  | .upsert => .heartbeat
  | .heartbeat => .upsert

/-- The re-registration of an agent, and a heartbeat of it. -/
def replacing (now now' : Time) (agent : Agent) (pvcs : List PVCInfo) :
    Party → Sql Party (Except Err Unit)
  | .upsert => AgentRepository.upsertAgent .upsert now agent
  | .heartbeat => AgentRepository.updateHeartbeat .heartbeat now' agent.id pvcs

abbrev SqlTrace : Type := Trace Party (SqlCall Party) SqlCall.Ans

abbrev SqlConfig : Type :=
  Config (SqlCall Party) SqlCall.Ans (Except Err Unit) Party (Database Party)

/-- Both transactions, on a registry. -/
def replacingOn (now now' : Time) (agent : Agent) (pvcs : List PVCInfo) (reg : Registry) : SqlConfig where
  procs := replacing now now' agent pvcs
  state := .ofRegistry Party reg

/-! ## What one transaction has done -/

/-- The `DELETE` of a transaction has begun. -/
def SqlEv.finds : SqlEv Party → Bool
  | ⟨⟨_, .deleteAt _⟩, .ok _⟩ => true
  | ⟨⟨_, .deleteOf _⟩, .ok _⟩ => true
  | _ => false

/-- A transaction has written the agent, which it then has a lock on. -/
def SqlEv.locks : SqlEv Party → Bool
  | ⟨⟨_, .upsertAgent _⟩, .ok _⟩ => true
  | ⟨⟨_, .updateAgent ..⟩, .ok _⟩ => true
  | _ => false

def SqlEv.commits : SqlEv Party → Bool
  | ⟨⟨_, .commit⟩, .ok _⟩ => true
  | _ => false

/-- A statement has failed. -/
def SqlEv.fails : SqlEv Party → Bool
  | ⟨⟨_, .begin⟩, .error _⟩ => true
  | ⟨⟨_, .deleteAt _⟩, .error _⟩ => true
  | ⟨⟨_, .deleteOf _⟩, .error _⟩ => true
  | ⟨⟨_, .deleteRow _⟩, .error _⟩ => true
  | ⟨⟨_, .upsertAgent _⟩, .error _⟩ => true
  | ⟨⟨_, .updateAgent ..⟩, .error _⟩ => true
  | ⟨⟨_, .insertPVC _⟩, .error _⟩ => true
  | ⟨⟨_, .commit⟩, .error _⟩ => true
  | _ => false

/-- What a transaction has done so far. -/
structure Script where
  failed : Bool := false
  /-- Its `DELETE` has begun, and has still to come to the rows `todo`. -/
  scanned : Bool := false
  todo : List Nat := []
  locked : Bool := false
  inserted : List PVCInfo := []
  committed : Bool := false

namespace Script

def todoAfter (m : Script) : SqlEv Party → List Nat
  | ⟨⟨_, .deleteAt _⟩, .ok ns⟩ => ns
  | ⟨⟨_, .deleteOf _⟩, .ok ns⟩ => ns
  | ⟨⟨_, .deleteRow _⟩, .ok _⟩ => m.todo.tail
  | _ => m.todo

def insertedAfter (m : Script) : SqlEv Party → List PVCInfo
  | ⟨⟨_, .insertPVC p⟩, .ok _⟩ => m.inserted ++ [p.pvc]
  | _ => m.inserted

def follow (m : Script) (ev : SqlEv Party) : Script where
  failed := m.failed || SqlEv.fails ev
  scanned := m.scanned || SqlEv.finds ev
  todo := m.todoAfter ev
  locked := m.locked || SqlEv.locks ev
  inserted := m.insertedAfter ev
  committed := m.committed || SqlEv.commits ev

section

variable (m : Script) (tx : Party)

/-- A step that does not fail. -/
theorem follow_eq {ev : SqlEv Party} {scanned locked committed : Bool} (hfails : SqlEv.fails ev = false)
    (hscanned : (m.scanned || SqlEv.finds ev) = scanned) (hlocked : (m.locked || SqlEv.locks ev) = locked)
    (hcommitted : (m.committed || SqlEv.commits ev) = committed) :
    m.follow ev =
      { m with
        scanned := scanned, todo := m.todoAfter ev, locked := locked, inserted := m.insertedAfter ev,
        committed := committed } := by
  rw [follow, hfails, hscanned, hlocked, hcommitted, Bool.or_false]

theorem follow_begin : m.follow ⟨⟨tx, .begin⟩, .ok ()⟩ = m :=
  m.follow_eq rfl (Bool.or_false _) (Bool.or_false _) (Bool.or_false _)

theorem follow_deleteAt (place : String × String) (ns : List Nat) :
    m.follow ⟨⟨tx, .deleteAt place⟩, .ok ns⟩ = { m with scanned := true, todo := ns } :=
  m.follow_eq rfl (Bool.or_true _) (Bool.or_false _) (Bool.or_false _)

theorem follow_deleteOf (agentID : UUID) (ns : List Nat) :
    m.follow ⟨⟨tx, .deleteOf agentID⟩, .ok ns⟩ = { m with scanned := true, todo := ns } :=
  m.follow_eq rfl (Bool.or_true _) (Bool.or_false _) (Bool.or_false _)

theorem follow_deleteRow (n : Nat) :
    m.follow ⟨⟨tx, .deleteRow n⟩, .ok ()⟩ = { m with todo := m.todo.tail } :=
  m.follow_eq rfl (Bool.or_false _) (Bool.or_false _) (Bool.or_false _)

theorem follow_upsertAgent (r : AgentRow) :
    m.follow ⟨⟨tx, .upsertAgent r⟩, .ok ()⟩ = { m with locked := true } :=
  m.follow_eq rfl (Bool.or_false _) (Bool.or_true _) (Bool.or_false _)

theorem follow_updateAgent (now : Time) (agentID : UUID) :
    m.follow ⟨⟨tx, .updateAgent now agentID⟩, .ok ()⟩ = { m with locked := true } :=
  m.follow_eq rfl (Bool.or_false _) (Bool.or_true _) (Bool.or_false _)

theorem follow_insertPVC (p : PVCRow) :
    m.follow ⟨⟨tx, .insertPVC p⟩, .ok ()⟩ = { m with inserted := m.inserted ++ [p.pvc] } :=
  m.follow_eq rfl (Bool.or_false _) (Bool.or_false _) (Bool.or_false _)

theorem follow_commit : m.follow ⟨⟨tx, .commit⟩, .ok ()⟩ = { m with committed := true } :=
  m.follow_eq rfl (Bool.or_false _) (Bool.or_false _) (Bool.or_true _)

theorem follow_rollback : m.follow ⟨⟨tx, .rollback⟩, ()⟩ = m :=
  m.follow_eq rfl (Bool.or_false _) (Bool.or_false _) (Bool.or_false _)

end

/-- The transaction is under way. -/
def Open (m : Script) : Prop := m.failed = false ∧ m.committed = false

/-- It has a lock on the agent. -/
def Holds (m : Script) : Prop := m.locked = true ∧ m.committed = false

/-- It has locked the agent and deleted what it has found. -/
def Cleared (m : Script) : Prop := m.scanned = true ∧ m.locked = true ∧ m.todo = []

/-- What is under way has not been committed. -/
theorem Open.elim_committed {m m' : Script} {P : Prop} (h : m.Open)
    (hsame : m'.committed = m.committed) (hcommitted : m'.committed = true) : P := by
  rw [hsame, h.2] at hcommitted
  cases hcommitted

end Script

/-- What one of the transactions is to do. -/
structure Job where
  tx : Party
  agentID : UUID
  place : String × String
  pvcs : List PVCInfo
  /-- It locks the agent before it deletes. -/
  lockFirst : Bool

/-- What a transaction may do next. -/
def Job.Permits (job : Job) (m : Script) (c : SqlCall Party) : Prop :=
  c.tx = job.tx ∧
  match c.statement with
  | .begin => m.Open
  | .deleteAt place => m.Open ∧ m.scanned = false ∧ m.locked = job.lockFirst ∧ m.inserted = [] ∧
      place = job.place
  | .deleteOf agentID => m.Open ∧ m.scanned = false ∧ m.locked = job.lockFirst ∧ m.inserted = [] ∧
      agentID = job.agentID
  | .deleteRow n => m.Open ∧ m.scanned = true ∧ n ∈ m.todo.head?
  | .upsertAgent r => m.Open ∧ m.locked = false ∧ m.scanned = !job.lockFirst ∧
      r.id = job.agentID ∧ r.place = job.place
  | .updateAgent _ agentID => m.Open ∧ m.locked = false ∧ m.scanned = !job.lockFirst ∧
      agentID = job.agentID
  | .insertPVC p => m.Open ∧ m.Cleared ∧ p.agentID = job.agentID
  | .commit => m.Open ∧ m.Cleared ∧ m.inserted = job.pvcs
  | .rollback => m.failed = true ∨ m.committed = true

/-! ## The transactions keep to their scripts -/

/-- What a part of a transaction leaves behind: `Q`, unless a statement has failed. -/
def Script.After (Q : Script → Prop) : Except Err Unit → Script → Prop
  | .ok _, m => Q m
  | .error _, m => m.failed = true

section

variable {j : Job} {m : Script}

theorem obeyed_deleteRows {ns : List Nat} (hopen : m.Open) (hscanned : m.scanned = true)
    (htodo : m.todo = ns) :
    Prog.Obeys Script.follow j.Permits
      (Script.After fun m' => m' = { m with todo := [] }) m (Sql.deleteRows j.tx ns) := by
  induction ns generalizing m with
  | nil =>
    show m = { m with todo := [] }
    rw [← htodo]
  | cons n ns ih =>
    refine Prog.Obeys.perform ⟨rfl, hopen, hscanned, by rw [htodo]; rfl⟩ fun deleted => ?_
    rcases deleted with err | _
    · exact Bool.or_true _
    have hnext : m.follow ⟨⟨j.tx, .deleteRow n⟩, .ok ()⟩ = { m with todo := ns } := by
      rw [m.follow_deleteRow, htodo, List.tail_cons]
    rw [hnext]
    exact ih (m := { m with todo := ns }) hopen hscanned rfl

theorem obeyed_insertPVCs {agentID : UUID} {now : Time} {pvcs : List PVCInfo} (hopen : m.Open)
    (hcleared : m.Cleared) (hid : agentID = j.agentID) :
    Prog.Obeys Script.follow j.Permits
      (Script.After fun m' => m' = { m with inserted := m.inserted ++ pvcs }) m
      (Sql.insertPVCs j.tx agentID now pvcs) := by
  induction pvcs generalizing m with
  | nil =>
    show m = { m with inserted := m.inserted ++ [] }
    rw [List.append_nil]
  | cons pvc pvcs ih =>
    refine Prog.Obeys.perform ⟨rfl, hopen, hcleared, hid⟩ fun stored => ?_
    rcases stored with err | _
    · exact Bool.or_true _
    rw [m.follow_insertPVC]
    refine (ih (m := { m with inserted := m.inserted ++ [pvc] }) hopen hcleared).mono fun a m' hm' => ?_
    rcases a with err | _
    · exact hm'
    · rw [show m' = _ from hm', List.append_assoc]
      rfl

theorem obeyed_storePVCs {agentID : UUID} {now : Time} (hopen : m.Open) (hcleared : m.Cleared)
    (hid : agentID = j.agentID) (hinserted : m.inserted = []) :
    Prog.Obeys Script.follow j.Permits (Script.After fun m' => m'.committed = true) m
      (AgentRepository.storePVCs j.tx agentID now j.pvcs) := by
  refine Prog.Obeys.bind ((obeyed_insertPVCs hopen hcleared hid).mono fun a m' hm' => ?_)
  rcases a with err | _
  · exact hm'
  obtain rfl : m' = { m with inserted := m.inserted ++ j.pvcs } := hm'
  refine ⟨⟨rfl, hopen, hcleared, by rw [hinserted]; rfl⟩, fun done => ?_⟩
  rcases done with err | _
  · exact Bool.or_true _
  · exact Bool.or_true _

/-- The deferred rollback comes after a failure or a commit. -/
theorem obeyed_inTransaction {body : Sql Party (Except Err Unit)}
    (hbody : Prog.Obeys Script.follow j.Permits (Script.After fun m' => m'.committed = true) {} body) :
    Prog.Obeys Script.follow j.Permits (fun _ _ => True) {}
      (AgentRepository.inTransaction j.tx body) := by
  refine Prog.Obeys.perform ⟨rfl, rfl, rfl⟩ fun begun => ?_
  rcases begun with err | _
  · trivial
  refine Prog.Obeys.bind (hbody.mono fun a m' hm' => ?_)
  have hended : m'.failed = true ∨ m'.committed = true := by
    rcases a with err | _
    · exact .inl hm'
    · exact .inr hm'
  exact ⟨⟨rfl, hended⟩, fun _ => trivial⟩

end

/-- What each transaction is to do. -/
def jobs (agent : Agent) (pvcs : List PVCInfo) : Party → Job
  | .upsert => ⟨.upsert, agent.id, agent.place, agent.pvcs, false⟩
  | .heartbeat => ⟨.heartbeat, agent.id, agent.place, pvcs, true⟩

theorem obeyed_replacing (now now' : Time) (agent : Agent) (pvcs : List PVCInfo) (i : Party) :
    Prog.Obeys Script.follow (jobs agent pvcs i).Permits (fun _ _ => True) {}
      (replacing now now' agent pvcs i) := by
  cases i with
  | upsert =>
    refine obeyed_inTransaction (j := jobs agent pvcs .upsert) ?_
    refine Prog.Obeys.perform ⟨rfl, ⟨rfl, rfl⟩, rfl, rfl, rfl, rfl⟩ fun found => ?_
    rcases found with err | ns
    · rfl
    refine Prog.Obeys.bind
      ((obeyed_deleteRows (j := jobs agent pvcs .upsert) ⟨rfl, rfl⟩ rfl rfl).mono fun a m' hm' => ?_)
    rcases a with err | _
    · exact hm'
    obtain rfl := hm'
    refine Prog.Obeys.perform ⟨rfl, ⟨rfl, rfl⟩, rfl, rfl, rfl, rfl⟩ fun written => ?_
    rcases written with err | _
    · rfl
    exact obeyed_storePVCs (j := jobs agent pvcs .upsert) ⟨rfl, rfl⟩ ⟨rfl, rfl, rfl⟩ rfl rfl
  | heartbeat =>
    refine obeyed_inTransaction (j := jobs agent pvcs .heartbeat) ?_
    refine Prog.Obeys.perform ⟨rfl, ⟨rfl, rfl⟩, rfl, rfl, rfl⟩ fun written => ?_
    rcases written with err | _
    · rfl
    refine Prog.Obeys.perform ⟨rfl, ⟨rfl, rfl⟩, rfl, rfl, rfl, rfl⟩ fun found => ?_
    rcases found with err | ns
    · rfl
    refine Prog.Obeys.bind
      ((obeyed_deleteRows (j := jobs agent pvcs .heartbeat) ⟨rfl, rfl⟩ rfl rfl).mono
        fun a m' hm' => ?_)
    rcases a with err | _
    · exact hm'
    obtain rfl := hm'
    exact obeyed_storePVCs (j := jobs agent pvcs .heartbeat) ⟨rfl, rfl⟩ ⟨rfl, rfl, rfl⟩ rfl rfl

/-! ## The database under the two transactions -/

theorem Party.eq_or_other (i k : Party) : k = i ∨ k = i.other := by
  cases i <;> cases k <;> decide

theorem Party.other_ne (i : Party) : i.other ≠ i := by
  cases i <;> decide

theorem Party.other_other (i : Party) : i.other.other = i := by
  cases i <;> rfl

/-- The `DELETE` of `i` has this row to delete: it was there when the `DELETE` began,
    at which time the other had committed or not (`seen`). -/
def Target (agentID : UUID) (i : Party) (seen : Bool) (v : Version Party PVCRow) : Prop :=
  v.row.agentID = agentID ∧ (v.xmin = none ∨ v.xmin = some i.other ∧ seen = true)

/-- The rows of the table, with the transactions that have inserted them. -/
def Database.origins (db : Database Party) : List (Option Party × PVCRow) :=
  db.pvcs.map fun v => (v.xmin, v.row)

theorem Database.mem_origins {db : Database Party} {v : Version Party PVCRow} (hv : v ∈ db.pvcs) :
    (v.xmin, v.row) ∈ db.origins :=
  List.mem_map_of_mem hv

/-- The agent with this identifier is in this place, in cell `k`; and all rows
    that have been inserted are of its inventory. -/
structure Hosts (agentID : UUID) (place : String × String) (k : Nat) (db : Database Party) : Prop where
  keys : ∀ c ∈ db.agents, ∀ r, c.Contains r → (r.place = place ↔ r.id = agentID)
  cell : ∃ c, db.agents[k]? = some c ∧ (∃ r, c.row = some r ∧ r.place = place) ∧
    ∀ t r, c.draft = some (t, r) → r.place = place
  own : ∀ o ∈ db.origins, o.1 ≠ none → o.2.agentID = agentID

/-- The database as transaction `i` has left it, which has done `x`; the other one
    has ended or not, and had ended or not (`seen`) when the `DELETE` of `i` began. -/
structure Side (agentID : UUID) (k : Nat) (i : Party) (x : Script) (ended seen : Bool)
    (db : Database Party) : Prop where
  status : db.status i = if x.committed = true then .committed else .active
  held : x.Holds → ∃ c, db.agents[k]? = some c ∧ c.draft.map Prod.fst = some i
  inserted : (db.origins.filter fun o => o.1 = some i).map (fun o => o.2.pvc) = x.inserted
  todo : ∀ n ∈ x.todo, ∃ v, db.pvcs[n]? = some v ∧ Target agentID i seen v
  deleted : ∀ v ∈ db.pvcs, v.xmax = some i → x.scanned = true ∧ Target agentID i seen v
  gone : ∀ n v, x.scanned = true → db.pvcs[n]? = some v → Target agentID i seen v →
    n ∈ x.todo ∨ v.xmax = some i ∨ v.xmax = some i.other ∧ ended = true
  seen_ended : seen = true → x.scanned = true ∧ ended = true
  cleared : x.committed = true → x.Cleared

/-- Both transactions, when they have done `m`. -/
structure Coordinated (agentID : UUID) (place : String × String) (k : Nat) (m : Party → Script)
    (seen : Party → Bool) (db : Database Party) : Prop where
  hosts : Hosts agentID place k db
  side : ∀ i, Side agentID k i (m i) (m i.other).committed (seen i) db
  seen_once : ∀ i, seen i = true → seen i.other = false
  /-- The registration deletes before it locks, and the heartbeat locks first. -/
  deletesFirst : (m .upsert).locked = true → (m .upsert).scanned = true
  locksFirst : (m .heartbeat).scanned = true → (m .heartbeat).locked = true
  /-- A heartbeat that deletes after the registration has committed sees its rows. -/
  late : (m .upsert).committed = true → (m .heartbeat).scanned = true →
    (m .heartbeat).committed = false → seen .heartbeat = true

/-! ### One side -/

namespace Side

variable {agentID : UUID} {place : String × String} {k : Nat} {i : Party} {x : Script}
variable {ended seen : Bool} {db : Database Party}

theorem xmin_ne (h : Side agentID k i x ended seen db) (hinserted : x.inserted = [])
    {v : Version Party PVCRow} (hv : v ∈ db.pvcs) : v.xmin ≠ some i := by
  intro hmin
  have hempty := h.inserted
  rw [hinserted, List.map_eq_nil_iff, List.filter_eq_nil_iff] at hempty
  exact hempty _ (Database.mem_origins hv) (decide_eq_true hmin)

/-- The `DELETE` of `i` begins: it sees what the other has done if that one has ended. -/
theorem find (h : Side agentID k i x ended seen db) (hscanned : x.scanned = false)
    (hinserted : x.inserted = []) (hended : db.status i.other = .committed ↔ ended = true)
    (hopen : x.Open) :
    Side agentID k i { x with scanned := true, todo := db.findPVCs i agentID } ended ended db := by
  have hsees : sees db.status i i.other = true ↔ ended = true := by
    rw [← hended]
    simp [sees, i.other_ne]
  have hvisible : ∀ n v, db.pvcs[n]? = some v → Target agentID i ended v →
      v.xmax.any (sees db.status i) = false → n ∈ db.findPVCs i agentID := by
    intro n v hv htarget hmax
    refine mem_scan.mpr ⟨v, hv, ?_, decide_eq_true htarget.1⟩
    rw [Version.visible, hmax, Bool.not_false, Bool.and_true]
    rcases htarget.2 with hmin | ⟨hmin, hyes⟩
    · rw [hmin, Option.all_none]
    · rw [hmin, Option.all_some]
      exact hsees.mpr hyes
  refine ⟨h.status, h.held, h.inserted, ?_, ?_, ?_, fun hyes => ⟨rfl, hyes⟩, ?_⟩
  · intro n hn
    obtain ⟨v, hv, hvis, hid⟩ := mem_scan.mp (show n ∈ db.findPVCs i agentID from hn)
    refine ⟨v, hv, of_decide_eq_true hid, ?_⟩
    rw [Version.visible, Bool.and_eq_true] at hvis
    cases hmin : v.xmin with
    | none => exact .inl rfl
    | some t =>
      rw [hmin, Option.all_some] at hvis
      rcases i.eq_or_other t with rfl | rfl
      · exact absurd hmin (h.xmin_ne hinserted (List.mem_of_getElem? hv))
      · exact .inr ⟨rfl, hsees.mp hvis.1⟩
  · intro v hv hmax
    have hdone := (h.deleted v hv hmax).1
    rw [hscanned] at hdone
    cases hdone
  · -- a row that is not found has been deleted by one that has committed
    intro n v _ hv htarget
    cases hmax : v.xmax with
    | none => exact .inl (hvisible n v hv htarget (by rw [hmax]; rfl))
    | some t =>
      rcases i.eq_or_other t with rfl | rfl
      · exact .inr (.inl rfl)
      · by_cases hyes : ended = true
        · exact .inr (.inr ⟨rfl, hyes⟩)
        · refine .inl (hvisible n v hv htarget ?_)
          rw [hmax, Option.any_some, ← Bool.not_eq_true, hsees]
          exact hyes
  · exact hopen.elim_committed rfl

/-- The database after a `DELETE` has come to a row. -/
theorem origins_remove (i : Party) (n : Nat) (db : Database Party) :
    Database.origins { db with pvcs := remove db.status i n db.pvcs } = db.origins :=
  map_remove _ (fun _ _ => rfl) db.status i n db.pvcs

/-- A row that is still to be deleted stays where it is. -/
theorem target_remove {t : Party} {n' : Nat}
    (h : ∃ v, db.pvcs[n']? = some v ∧ Target agentID i seen v) (n : Nat) :
    ∃ v, (remove db.status t n db.pvcs)[n']? = some v ∧ Target agentID i seen v := by
  obtain ⟨v, hv, htarget⟩ := h
  have hv' : (remove db.status t n db.pvcs)[n']? =
      some (if n = n' then v.remove db.status t else v) := by
    rw [getElem?_remove, hv]
    split <;> rfl
  refine ⟨_, hv', ?_⟩
  split
  · rw [Target, Version.remove_row, Version.remove_xmin]
    exact htarget
  · exact htarget

/-- The `DELETE` of `i` comes to its next row. -/
theorem deleteRow (h : Side agentID k i x ended seen db) (hopen : x.Open) {n : Nat}
    (hn : n ∈ x.todo.head?) (hscanned : x.scanned = true)
    (hended : db.status i.other = .committed ↔ ended = true) :
    Side agentID k i { x with todo := x.todo.tail } ended seen
      { db with pvcs := remove db.status i n db.pvcs } := by
  obtain ⟨rest, htodo⟩ : ∃ rest, x.todo = n :: rest := by
    cases hx : x.todo with
    | nil =>
      rw [hx] at hn
      cases hn
    | cons n' rest =>
      rw [hx] at hn
      exact ⟨rest, by rw [Option.some.inj hn]⟩
  have htail : x.todo.tail = rest := by rw [htodo, List.tail_cons]
  refine ⟨h.status, h.held, ?_, ?_, ?_, ?_, h.seen_ended, ?_⟩
  · rw [origins_remove]
    exact h.inserted
  · exact fun n' hn' => target_remove (h.todo n' (List.mem_of_mem_tail hn')) n
  · intro v' hv' hmax
    obtain ⟨n', hn'⟩ := List.mem_iff_getElem?.mp hv'
    obtain ⟨v, hv, hrow, hmin, hcases⟩ := remove_cases hn'
    rw [Target, hrow, hmin]
    rcases hcases with ⟨-, hsame⟩ | ⟨rfl, -⟩
    · exact h.deleted v (List.mem_of_getElem? hv) (hsame ▸ hmax)
    · obtain ⟨v₀, hv₀, htarget⟩ := h.todo n (by rw [htodo]; exact List.mem_cons_self)
      rw [hv, Option.some.injEq] at hv₀
      rw [hv₀]
      exact ⟨hscanned, htarget⟩
  · intro n' v' hdone hv' htarget
    obtain ⟨v, hv, hrow, hmin, hcases⟩ := remove_cases hv'
    rw [Target, hrow, hmin] at htarget
    rcases hcases with ⟨hne, hsame⟩ | ⟨rfl, ⟨hmax, -⟩ | ⟨hsame, t, hmax, hcommitted⟩⟩
    · rw [hsame]
      refine (h.gone n' v hdone hv htarget).imp_left fun hmem => ?_
      rw [htodo] at hmem
      rw [htail]
      exact (List.mem_cons.mp hmem).resolve_left (Ne.symm hne)
    · exact .inr (.inl hmax)
    · -- deleted before, by one that has committed
      rcases i.eq_or_other t with rfl | rfl
      · rw [h.status, hopen.2] at hcommitted
        cases hcommitted
      · exact .inr (.inr ⟨hsame.trans hmax, hended.mp hcommitted⟩)
  · exact hopen.elim_committed rfl

/-- The `DELETE` of the other comes to a row. -/
theorem deleteRow_other (h : Side agentID k i x ended seen db) {n : Nat}
    (hwait : db.Blocked i.other (.deleteRow n) = false) :
    Side agentID k i x ended seen { db with pvcs := remove db.status i.other n db.pvcs } := by
  refine ⟨h.status, h.held, ?_, ?_, ?_, ?_, h.seen_ended, h.cleared⟩
  · rw [origins_remove]
    exact h.inserted
  · exact fun n' hn' => target_remove (h.todo n' hn') n
  · intro v' hv' hmax
    obtain ⟨n', hn'⟩ := List.mem_iff_getElem?.mp hv'
    obtain ⟨v, hv, hrow, hmin, hcases⟩ := remove_cases hn'
    rw [Target, hrow, hmin]
    have hsame : v.xmax = some i := by
      rcases hcases with ⟨-, hsame⟩ | ⟨-, ⟨hother, -⟩ | ⟨hsame, -⟩⟩
      · exact hsame ▸ hmax
      · rw [hmax, Option.some_inj] at hother
        exact absurd hother.symm i.other_ne
      · exact hsame ▸ hmax
    exact h.deleted v (List.mem_of_getElem? hv) hsame
  · intro n' v' hdone hv' htarget
    obtain ⟨v, hv, hrow, hmin, hcases⟩ := remove_cases hv'
    rw [Target, hrow, hmin] at htarget
    rcases hcases with ⟨-, hsame⟩ | ⟨rfl, ⟨hmax, hlive⟩ | ⟨hsame, -⟩⟩
    · rw [hsame]
      exact h.gone n' v hdone hv htarget
    · rcases h.gone n v hdone hv htarget with hmem | hmine | ⟨-, hyes⟩
      · exact .inl hmem
      · -- the other waits for a transaction that has deleted the row
        refine absurd hwait ?_
        have hactive : db.status i = .active := by
          have hnot := hlive i hmine
          rw [h.status] at hnot ⊢
          by_cases hcommitted : x.committed = true
          · exact absurd (if_pos hcommitted) hnot
          · exact if_neg hcommitted
        simp [Database.Blocked, hv, hmine, busy, hactive, i.other_ne.symm]
      · exact .inr (.inr ⟨hmax, hyes⟩)
    · rw [hsame]
      exact h.gone n v hdone hv htarget

/-- The other side of a write to the agent. -/
theorem lock_other (h : Side agentID k i x ended seen db) (hfree : ¬ x.Holds)
    (agents : List (Cell Party AgentRow)) : Side agentID k i x ended seen { db with agents } :=
  ⟨h.status, fun hx => absurd hx hfree, h.inserted, h.todo, h.deleted, h.gone, h.seen_ended, h.cleared⟩

/-- An insert leaves the other rows where they are, and deletes none. -/
theorem todo_insert (h : Side agentID k i x ended seen db) (t : Party) (p : PVCRow) {n : Nat}
    (hn : n ∈ x.todo) : ∃ v, (Mvcc.insert t p db.pvcs)[n]? = some v ∧ Target agentID i seen v := by
  obtain ⟨v, hv, htarget⟩ := h.todo n hn
  have hlt : n < db.pvcs.length := (List.getElem?_eq_some_iff.mp hv).1
  exact ⟨v, (List.getElem?_append_left hlt).trans hv, htarget⟩

theorem deleted_insert (h : Side agentID k i x ended seen db) {t : Party} {p : PVCRow}
    {v : Version Party PVCRow} (hv : v ∈ Mvcc.insert t p db.pvcs) (hmax : v.xmax = some i) :
    x.scanned = true ∧ Target agentID i seen v := by
  rcases List.mem_append.mp hv with hold | hnew
  · exact h.deleted v hold hmax
  · rw [List.mem_singleton.mp hnew] at hmax
    cases hmax

/-- `i` inserts a row of the inventory. -/
theorem insertPVC (h : Side agentID k i x ended seen db) (hopen : x.Open) (p : PVCRow) :
    Side agentID k i { x with inserted := x.inserted ++ [p.pvc] } ended seen
      { db with pvcs := Mvcc.insert i p db.pvcs } := by
  refine ⟨h.status, h.held, ?_, ?_, ?_, ?_, h.seen_ended, ?_⟩
  · show ((List.map _ (db.pvcs ++ [_])).filter _).map _ = _
    rw [List.map_append, List.filter_append, List.map_append]
    refine congrArg₂ (· ++ ·) h.inserted ?_
    simp
  · exact fun n hn => h.todo_insert _ p hn
  · exact fun v hv hmax => h.deleted_insert hv hmax
  -- its own rows are none that its `DELETE` has found
  · intro n v hdone hv htarget
    rcases getElem?_insert hv with hold | ⟨-, rfl⟩
    · exact h.gone n v hdone hold htarget
    · rcases htarget.2 with hmin | ⟨hmin, -⟩
      · cases hmin
      · exact absurd (Option.some.inj hmin).symm i.other_ne
  · exact hopen.elim_committed rfl

/-- The other inserts a row, which this one does not see. -/
theorem insertPVC_other (h : Side agentID k i x ended seen db) (hseen : seen = false) (p : PVCRow) :
    Side agentID k i x ended seen { db with pvcs := Mvcc.insert i.other p db.pvcs } := by
  refine ⟨h.status, h.held, ?_, ?_, ?_, ?_, h.seen_ended, h.cleared⟩
  · show ((List.map _ (db.pvcs ++ [_])).filter _).map _ = _
    rw [List.map_append, List.filter_append, List.map_append]
    refine (congrArg₂ (· ++ ·) h.inserted ?_).trans (List.append_nil _)
    simp [i.other_ne]
  · exact fun n hn => h.todo_insert _ p hn
  · exact fun v hv hmax => h.deleted_insert hv hmax
  -- the `DELETE` has begun before the other committed, and does not see the row
  · intro n v hdone hv htarget
    rcases getElem?_insert hv with hold | ⟨-, rfl⟩
    · exact h.gone n v hdone hold htarget
    · rcases htarget.2 with hmin | ⟨-, hyes⟩
      · cases hmin
      · rw [hseen] at hyes
        cases hyes

theorem commit (h : Side agentID k i x ended seen db) (hcleared : x.Cleared) :
    Side agentID k i { x with committed := true } ended seen (db.commit i) := by
  refine ⟨?_, ?_, h.inserted, h.todo, h.deleted, h.gone, h.seen_ended, fun _ => hcleared⟩
  · exact Function.update_self ..
  · rintro ⟨-, hopen⟩
    cases hopen

theorem commit_other (h : Side agentID k i x ended seen db) (hfree : ¬ x.Holds) :
    Side agentID k i x true seen (db.commit i.other) := by
  refine ⟨?_, fun hx => absurd hx hfree, h.inserted, h.todo, h.deleted, ?_, ?_, h.cleared⟩
  · rw [← h.status]
    exact Function.update_of_ne i.other_ne.symm _ _
  · intro n v hdone hv htarget
    exact (h.gone n v hdone hv htarget).imp_right (Or.imp_right (And.imp_right fun _ => rfl))
  · exact fun hyes => ⟨(h.seen_ended hyes).1, rfl⟩

end Side

/-! ### The agent -/

namespace Hosts

variable {agentID : UUID} {place : String × String} {k : Nat} {i : Party} {db : Database Party}

/-- Nobody but `i` has the agent. -/
def Free (place : String × String) (i : Party) (db : Database Party) : Prop :=
  ∀ c ∈ db.agents, ∀ r, c.row = some r → r.place = place → c.heldFrom i = false

/-- A write to the agent of this place. -/
structure Writes (agentID : UUID) (place : String × String) (cond : AgentRow → Bool)
    (set : AgentRow → AgentRow) : Prop where
  finds : ∀ r, r.place = place → r.id = agentID → cond r = true
  keepsPlace : ∀ r, (set r).place = r.place
  keepsKeys : ∀ r, cond r = true → (r.place = place ↔ r.id = agentID) →
    (r.place = place ↔ (set r).id = agentID)

theorem write (h : Hosts agentID place k db) {cond : AgentRow → Bool} {set : AgentRow → AgentRow}
    (hset : Writes agentID place cond set) (i : Party) :
    Hosts agentID place k { db with agents := db.agents.map (Cell.write i cond set) } := by
  refine ⟨?_, ?_, h.own⟩
  · intro c' hc' r hr
    obtain ⟨c, hc, rfl⟩ := List.mem_map.mp hc'
    rcases Cell.contains_write hr with hold | ⟨old, hold, hcond, rfl⟩
    · exact h.keys c hc r hold
    · rw [hset.keepsPlace]
      exact hset.keepsKeys old hcond (h.keys c hc old hold)
  · obtain ⟨c, hc, ⟨r, hrow, hr⟩, hdraft⟩ := h.cell
    refine ⟨c.write i cond set, by rw [List.getElem?_map, hc]; rfl,
      ⟨r, by rw [Cell.row_write, hrow], hr⟩, fun t r' hnew => ?_⟩
    rcases Cell.draft_write i cond set c with hsame | ⟨old, hold, -, hwritten⟩
    · exact hdraft t r' (hsame ▸ hnew)
    · rw [hwritten] at hnew
      cases hnew
      rw [hset.keepsPlace]
      rcases hold with hrow' | ⟨t', hdraft'⟩
      · rw [hrow, Option.some_inj] at hrow'
        exact hrow' ▸ hr
      · exact hdraft t' old hdraft'

/-- Every transaction finds the agent. -/
theorem seenBy_cell (h : Hosts agentID place k db) (i : Party) :
    ∃ c r, db.agents[k]? = some c ∧ c.seenBy i = some r ∧ r.place = place ∧ r.id = agentID := by
  obtain ⟨c, hc, ⟨r, hrow, hr⟩, hdraft⟩ := h.cell
  obtain ⟨r', hseen⟩ := Cell.seenBy_isSome i hrow
  have hcontains := Cell.contains_of_seenBy hseen
  have hplace : r'.place = place := by
    rcases hcontains with hrow' | ⟨t, hdraft'⟩
    · rw [hrow, Option.some_inj] at hrow'
      exact hrow' ▸ hr
    · exact hdraft t r' hdraft'
  exact ⟨c, r', hc, hseen, hplace, (h.keys c (List.mem_of_getElem? hc) r' hcontains).mp hplace⟩

/-- Afterwards the agent belongs to the one who has written. -/
theorem held_write (h : Hosts agentID place k db) {cond : AgentRow → Bool}
    {set : AgentRow → AgentRow} (hset : Writes agentID place cond set) (i : Party) :
    ∃ c, (db.agents.map (Cell.write i cond set))[k]? = some c ∧ c.draft.map Prod.fst = some i := by
  obtain ⟨c, r, hc, hseen, hplace, hid⟩ := h.seenBy_cell i
  refine ⟨c.write i cond set, by rw [List.getElem?_map, hc]; rfl, ?_⟩
  rw [Cell.write_of_seenBy hseen (hset.finds r hplace hid)]
  rfl

/-- Any agent that is found in the place is this one. -/
theorem find?_agentsSeen (h : Hosts agentID place k db) (i : Party) :
    ∃ r, (db.agentsSeen i).find? (·.place = place) = some r ∧ r.place = place ∧ r.id = agentID := by
  obtain ⟨c, r, hc, hseen, hplace, -⟩ := h.seenBy_cell i
  have hsome : ((db.agentsSeen i).find? (·.place = place)).isSome = true := by
    rw [List.find?_isSome]
    exact ⟨r, List.mem_filterMap.mpr ⟨c, List.mem_of_getElem? hc, hseen⟩, decide_eq_true hplace⟩
  obtain ⟨r', hr'⟩ := Option.isSome_iff_exists.mp hsome
  have hplace' : r'.place = place := by simpa using List.find?_some hr'
  obtain ⟨c', hc', hseen'⟩ := List.mem_filterMap.mp (List.mem_of_find?_eq_some hr')
  exact ⟨r', hr', hplace', (h.keys c' hc' r' (Cell.contains_of_seenBy hseen')).mp hplace'⟩

theorem findPVCsAt_eq (h : Hosts agentID place k db) (i : Party) :
    db.findPVCsAt i place = db.findPVCs i agentID := by
  obtain ⟨r, hr, -, hid⟩ := h.find?_agentsSeen i
  rw [Database.findPVCsAt, hr]
  exact congrArg (db.findPVCs i) hid

/-- What the upsert does to the agent that is there. -/
theorem upsertAgent_eq (h : Hosts agentID place k db) {r : AgentRow} (hplace : r.place = place)
    {db' : Database Party} (hok : db.upsertAgent i r = .ok db') :
    db' = { db with agents := db.agents.map (Cell.write i (·.place = r.place) r.overwrite) } := by
  obtain ⟨old, hold, -, -⟩ := h.find?_agentsSeen i
  unfold Database.upsertAgent at hok
  split at hok
  · cases hok
  · rw [hplace, hold] at hok
    dsimp only at hok
    split at hok
    · cases hok
    · rw [hplace]
      exact (Except.ok.inj hok).symm

theorem writes_upsertAgent {r : AgentRow} (hplace : r.place = place) (hid : r.id = agentID) :
    Writes agentID place (fun old => old.place = r.place) r.overwrite where
  finds _ hold _ := decide_eq_true (hold.trans hplace.symm)
  keepsPlace _ := rfl
  keepsKeys _ hold _ := iff_of_true ((of_decide_eq_true hold).trans hplace) hid

theorem writes_updateAgent (now : Time) :
    Writes agentID place (fun r => r.id = agentID) (AgentRow.setHealthy now) where
  finds _ _ hid := decide_eq_true hid
  keepsPlace _ := rfl
  keepsKeys _ _ h := h

theorem free_of_upsertAgent {r : AgentRow} (hplace : r.place = place)
    (hwait : db.Blocked i (.upsertAgent r) = false) : Free place i db := by
  intro c hc row hrow hr
  rw [Database.Blocked, List.any_eq_false] at hwait
  have hfree := hwait c hc
  rw [Bool.and_eq_true, not_and, Bool.not_eq_true] at hfree
  by_contra hheld
  rw [Bool.not_eq_false] at hheld
  rw [Cell.mentions_of_row hrow (decide_eq_true (.inl (hr.trans hplace.symm)))] at hfree
  cases hfree hheld

theorem free_of_updateAgent (h : Hosts agentID place k db) {now : Time}
    (hwait : db.Blocked i (.updateAgent now agentID) = false) : Free place i db := by
  intro c hc row hrow hr
  rw [Database.Blocked, List.any_eq_false] at hwait
  have hfree := hwait c hc
  rw [Bool.and_eq_true, not_and, Bool.not_eq_true] at hfree
  by_contra hheld
  rw [Bool.not_eq_false] at hheld
  have hid := (h.keys c hc row (.inl hrow)).mp hr
  rw [hrow, Option.any_some, decide_eq_true hid] at hfree
  cases hfree hheld

theorem insertPVC (h : Hosts agentID place k db) {p : PVCRow} (hp : p.agentID = agentID) :
    Hosts agentID place k { db with pvcs := Mvcc.insert i p db.pvcs } := by
  refine ⟨h.keys, h.cell, fun o ho hne => ?_⟩
  obtain ⟨v, hv, rfl⟩ := List.mem_map.mp ho
  rcases List.mem_append.mp hv with hold | hnew
  · exact h.own _ (Database.mem_origins hold) hne
  · rw [List.mem_singleton.mp hnew]
    exact hp

theorem commit (h : Hosts agentID place k db) (i : Party) : Hosts agentID place k (db.commit i) := by
  refine ⟨?_, ?_, h.own⟩
  · intro c' hc' r hr
    obtain ⟨c, hc, rfl⟩ := List.mem_map.mp hc'
    exact h.keys c hc r (Cell.contains_commit hr)
  · obtain ⟨c, hc, ⟨r, hrow, hr⟩, hdraft⟩ := h.cell
    have hc' : (db.agents.map (Cell.commit i))[k]? = some (c.commit i) := by
      rw [List.getElem?_map, hc]
      rfl
    refine ⟨c.commit i, hc', ?_⟩
    unfold Cell.commit
    split
    · rename_i t r' hdraft'
      split
      · refine ⟨⟨r', rfl, hdraft t r' hdraft'⟩, fun _ _ hnone => ?_⟩
        cases hnone
      · exact ⟨⟨r, hrow, hr⟩, hdraft⟩
    · exact ⟨⟨r, hrow, hr⟩, hdraft⟩

end Hosts

/-! ### Both sides -/

namespace Coordinated

variable {agentID : UUID} {place : String × String} {k : Nat} {m : Party → Script}
variable {seen : Party → Bool} {db : Database Party} {i : Party}

/-- The side of the other transaction. -/
theorem other (h : Coordinated agentID place k m seen db) (i : Party) :
    Side agentID k i.other (m i.other) (m i).committed (seen i.other) db := by
  have hside := h.side i.other
  rw [i.other_other] at hside
  exact hside

/-- The agent belongs to one transaction at a time. -/
theorem not_holds (h : Coordinated agentID place k m seen db) (hi : (m i).Holds) :
    ¬ (m i.other).Holds := by
  intro hother
  obtain ⟨c, hc, hheld⟩ := (h.side i).held hi
  obtain ⟨c', hc', hheld'⟩ := (h.side i.other).held hother
  rw [hc, Option.some_inj] at hc'
  rw [← hc', hheld, Option.some_inj] at hheld'
  exact i.other_ne hheld'.symm

/-- What the other one has inserted is not seen before this one commits. -/
theorem seen_other (h : Coordinated agentID place k m seen db) (hopen : (m i).Open) :
    seen i.other = false := by
  rw [← Bool.not_eq_true]
  intro hseen
  have hcommitted := ((h.side i.other).seen_ended hseen).2
  rw [i.other_other, hopen.2] at hcommitted
  cases hcommitted

theorem status_iff (h : Coordinated agentID place k m seen db) (i : Party) :
    db.status i = .committed ↔ (m i).committed = true := by
  rw [(h.side i).status]
  by_cases hcommitted : (m i).committed = true
  · simp [hcommitted]
  · simp [hcommitted]

/-- One transaction goes on. -/
theorem step (h : Coordinated agentID place k m seen db) {x' : Script} {seen' : Bool}
    {db' : Database Party} (hhosts : Hosts agentID place k db')
    (hown : Side agentID k i x' (m i.other).committed seen' db')
    (hother : Side agentID k i.other (m i.other) x'.committed (seen i.other) db')
    (honce : seen' = true → seen i.other = false)
    (hdeletes : i = .upsert → x'.locked = true → x'.scanned = true)
    (hlocks : i = .heartbeat → x'.scanned = true → x'.locked = true)
    (hupsert : i = .upsert → x'.committed = true → (m .heartbeat).scanned = true →
      (m .heartbeat).committed = false → seen .heartbeat = true)
    (hheartbeat : i = .heartbeat → (m .upsert).committed = true → x'.scanned = true →
      x'.committed = false → seen' = true) :
    Coordinated agentID place k (Function.update m i x') (Function.update seen i seen') db' := by
  have hm := Function.update_of_ne i.other_ne x' m
  have hs := Function.update_of_ne i.other_ne seen' seen
  refine ⟨hhosts, ?_, ?_, ?_, ?_, ?_⟩
  · intro j
    rcases i.eq_or_other j with rfl | rfl
    · rw [Function.update_self, Function.update_self, hm]
      exact hown
    · rw [hm, hs, i.other_other, Function.update_self]
      exact hother
  · intro j hj
    rcases i.eq_or_other j with rfl | rfl
    · rw [Function.update_self] at hj
      rw [hs]
      exact honce hj
    · rw [hs] at hj
      rw [i.other_other, Function.update_self, ← Bool.not_eq_true]
      intro hseen
      rw [honce hseen] at hj
      cases hj
  -- what is said of the order of the statements concerns one of the two
  · cases i with
    | upsert =>
      rw [Function.update_self]
      exact hdeletes rfl
    | heartbeat =>
      rw [show Function.update m .heartbeat x' .upsert = m .upsert from hm]
      exact h.deletesFirst
  · cases i with
    | upsert =>
      rw [show Function.update m .upsert x' .heartbeat = m .heartbeat from hm]
      exact h.locksFirst
    | heartbeat =>
      rw [Function.update_self]
      exact hlocks rfl
  · cases i with
    | upsert =>
      rw [show Function.update m .upsert x' .heartbeat = m .heartbeat from hm,
        show Function.update seen .upsert seen' .heartbeat = seen .heartbeat from hs,
        Function.update_self]
      exact hupsert rfl
    | heartbeat =>
      rw [show Function.update m .heartbeat x' .upsert = m .upsert from hm, Function.update_self,
        Function.update_self]
      exact hheartbeat rfl

/-- A step that begins no `DELETE` and does not commit. -/
theorem step_inside (h : Coordinated agentID place k m seen db) {x' : Script} {db' : Database Party}
    (hhosts : Hosts agentID place k db')
    (hown : Side agentID k i x' (m i.other).committed (seen i) db')
    (hother : Side agentID k i.other (m i.other) (m i).committed (seen i.other) db')
    (hscanned : x'.scanned = (m i).scanned) (hcommitted : x'.committed = (m i).committed)
    (hlocked : (m i).locked = true → x'.locked = true)
    (hdeletes : i = .upsert → x'.locked = true → x'.scanned = true) :
    Coordinated agentID place k (Function.update m i x') seen db' := by
  rw [← Function.update_eq_self i seen]
  refine h.step hhosts hown (hcommitted ▸ hother) (h.seen_once i) hdeletes ?_ ?_ ?_
  · rintro rfl hyes
    exact hlocked (h.locksFirst (hscanned ▸ hyes))
  · rintro rfl hyes
    exact h.late (hcommitted ▸ hyes)
  · rintro rfl hyes hfound hnot
    exact h.late hyes (hscanned ▸ hfound) (hcommitted ▸ hnot)

/-- The `DELETE` of a transaction begins. -/
theorem find (h : Coordinated agentID place k m seen db) (hopen : (m i).Open)
    (hscanned : (m i).scanned = false) (hinserted : (m i).inserted = [])
    (hlocked : i = .heartbeat → (m i).locked = true) :
    Coordinated agentID place k
      (Function.update m i { m i with scanned := true, todo := db.findPVCs i agentID })
      (Function.update seen i (m i.other).committed) db := by
  refine h.step h.hosts ((h.side i).find hscanned hinserted (h.status_iff i.other) hopen) ?_
    (fun _ => h.seen_other hopen) (fun _ _ => rfl) (fun hi _ => hlocked hi) ?_ ?_
  · exact h.other i
  · exact fun _ => hopen.elim_committed rfl
  · rintro rfl hcommitted - -
    exact hcommitted

/-- The `DELETE` of a transaction comes to a row, which nobody else is deleting. -/
theorem deleteRow (h : Coordinated agentID place k m seen db) (hopen : (m i).Open) {n : Nat}
    (hn : n ∈ (m i).todo.head?) (hscanned : (m i).scanned = true)
    (hwait : db.Blocked i (.deleteRow n) = false) :
    Coordinated agentID place k (Function.update m i { m i with todo := (m i).todo.tail }) seen
      { db with pvcs := remove db.status i n db.pvcs } := by
  have hother := (h.other i).deleteRow_other (n := n) (by rw [i.other_other]; exact hwait)
  rw [i.other_other] at hother
  refine h.step_inside ⟨h.hosts.keys, h.hosts.cell, ?_⟩
    ((h.side i).deleteRow hopen hn hscanned (h.status_iff i.other)) hother rfl rfl id fun _ _ => hscanned
  rw [Side.origins_remove]
  exact h.hosts.own

/-- A transaction writes the agent, which belongs to nobody else. -/
theorem lock (h : Coordinated agentID place k m seen db) (hopen : (m i).Open)
    (hscanned : i = .upsert → (m i).scanned = true) {cond : AgentRow → Bool}
    {set : AgentRow → AgentRow} (hset : Hosts.Writes agentID place cond set)
    (hfree : Hosts.Free place i db) :
    Coordinated agentID place k (Function.update m i { m i with locked := true }) seen
      { db with agents := db.agents.map (Cell.write i cond set) } := by
  have hnot : ¬ (m i.other).Holds := by
    intro hother
    obtain ⟨c, hc, hheld⟩ := (h.side i.other).held hother
    obtain ⟨c', hc', ⟨r, hrow, hr⟩, -⟩ := h.hosts.cell
    rw [hc, Option.some_inj] at hc'
    subst hc'
    have hmine := hfree c (List.mem_of_getElem? hc) r hrow hr
    obtain ⟨⟨t, r'⟩, hdraft, rfl⟩ := Option.map_eq_some_iff.mp hheld
    simp [Cell.heldFrom, hdraft, i.other_ne] at hmine
  have hown := h.side i
  refine h.step_inside (h.hosts.write hset i) ⟨hown.status, fun _ => h.hosts.held_write hset i,
    hown.inserted, hown.todo, hown.deleted, hown.gone, hown.seen_ended, ?_⟩
    ((h.other i).lock_other hnot _) rfl rfl (fun _ => rfl) fun hi _ => hscanned hi
  exact hopen.elim_committed rfl

/-- A transaction inserts a row. -/
theorem insertPVC (h : Coordinated agentID place k m seen db) (hopen : (m i).Open)
    (hcleared : (m i).Cleared) {p : PVCRow} (hp : p.agentID = agentID) :
    Coordinated agentID place k
      (Function.update m i { m i with inserted := (m i).inserted ++ [p.pvc] }) seen
      { db with pvcs := Mvcc.insert i p db.pvcs } := by
  have hother := (h.other i).insertPVC_other (h.seen_other hopen) p
  rw [i.other_other] at hother
  exact h.step_inside (h.hosts.insertPVC hp) ((h.side i).insertPVC hopen p) hother rfl rfl id
    fun _ _ => hcleared.1

/-- A transaction commits. -/
theorem commit (h : Coordinated agentID place k m seen db) (hopen : (m i).Open)
    (hcleared : (m i).Cleared) :
    Coordinated agentID place k (Function.update m i { m i with committed := true }) seen
      (db.commit i) := by
  have hnot := h.not_holds (i := i) ⟨hcleared.2.1, hopen.2⟩
  have hother := (h.other i).commit_other hnot
  rw [i.other_other] at hother
  rw [← Function.update_eq_self i seen]
  refine h.step (h.hosts.commit i) ((h.side i).commit hcleared) hother (h.seen_once i)
    (fun _ _ => hcleared.1) (fun _ _ => hcleared.2.1) ?_ fun _ _ _ hcommitted => by cases hcommitted
  -- a heartbeat that has deleted something holds the agent
  rintro rfl - hscanned hcommitted
  exact absurd ⟨h.locksFirst hscanned, hcommitted⟩ hnot

end Coordinated

/-! ### Runs -/

/-- What the `DELETE` of each transaction has seen of the other. -/
def seenAfter (m : Party → Script) (seen : Party → Bool) (i : Party) (ev : SqlEv Party) : Party → Bool :=
  if SqlEv.finds ev = true then Function.update seen i (m i.other).committed else seen

section

variable {agent : Agent} {pvcs : List PVCInfo} {k : Nat} {m : Party → Script} {seen : Party → Bool}
variable {db : Database Party} {i : Party}

theorem jobs_tx (i : Party) : (jobs agent pvcs i).tx = i := by
  cases i <;> rfl

theorem jobs_agentID (i : Party) : (jobs agent pvcs i).agentID = agent.id := by
  cases i <;> rfl

theorem jobs_place (i : Party) : (jobs agent pvcs i).place = agent.place := by
  cases i <;> rfl

theorem jobs_lockFirst (i : Party) : (jobs agent pvcs i).lockFirst = true ↔ i = .heartbeat := by
  cases i <;> simp [jobs]

/-- A statement that the environment fails. -/
theorem fails_of_fail {env : Env} {err : Err} (hfail : env.fail = some err) {c : SqlCall Party}
    (hc : c.statement ≠ .rollback) (db : Database Party) :
    SqlEv.fails ⟨c, (execSql env c db).1⟩ = true := by
  obtain ⟨tx, statement⟩ := c
  cases statement with
  | rollback => exact absurd rfl hc
  | commit => simp only [execSql, hfail, SqlEv.fails]
  | begin | deleteAt | deleteOf => simp only [execSql, Env.answer_of_fail hfail, SqlEv.fails]
  | deleteRow | upsertAgent | updateAgent | insertPVC =>
    simp only [execSql, Env.write_of_fail hfail, SqlEv.fails]

/-- A step of either transaction that does not fail. -/
theorem Coordinated.exec (h : Coordinated agent.id agent.place k m seen db) {c : SqlCall Party}
    {env : Env} (hp : (jobs agent pvcs i).Permits (m i) c) (hgrant : Granted env c db)
    (hfailed : (m i).failed = false) (hok : SqlEv.fails ⟨c, (execSql env c db).1⟩ = false) :
    Coordinated agent.id agent.place k
      (Function.update m i ((m i).follow ⟨c, (execSql env c db).1⟩))
      (seenAfter m seen i ⟨c, (execSql env c db).1⟩) (execSql env c db).2 := by
  obtain ⟨tx, statement⟩ := c
  obtain ⟨htx, hp⟩ := hp
  obtain rfl : tx = i := htx.trans (jobs_tx i)
  by_cases hrollback : statement = .rollback
  · -- nothing is rolled back after a commit
    subst hrollback
    have hcommitted : (m tx).committed = true :=
      hp.resolve_left (by rw [hfailed]; nofun)
    have hdone : execSql env ⟨tx, .rollback⟩ db = ((), db) := by
      have hstatus : db.status tx ≠ .active := by
        rw [(h.status_iff tx).mpr hcommitted]
        nofun
      exact congrArg (Prod.mk ()) (if_neg hstatus)
    rw [hdone, Script.follow_rollback, Function.update_eq_self]
    exact h
  cases hfail : env.fail with
  | some err =>
    rw [fails_of_fail hfail hrollback db] at hok
    cases hok
  | none =>
  have hwait : db.Blocked tx statement = false :=
    hgrant.resolve_left (by rw [hfail]; nofun)
  cases statement with
  | rollback => exact absurd rfl hrollback
  | begin =>
    have hdone : execSql env ⟨tx, .begin⟩ db = (.ok (), db) := by
      simp only [execSql, Env.answer_of_ok hfail]
    rw [hdone, Script.follow_begin, Function.update_eq_self]
    exact h
  | deleteAt place =>
    obtain ⟨hopen, hscanned, hlocked, hinserted, hplace⟩ := hp
    rw [jobs_place] at hplace
    have hdone : execSql env ⟨tx, .deleteAt place⟩ db = (.ok (db.findPVCs tx agent.id), db) := by
      simp only [execSql, Env.answer_of_ok hfail, hplace, h.hosts.findPVCsAt_eq]
    rw [hdone, Script.follow_deleteAt]
    exact h.find hopen hscanned hinserted fun hi => hlocked.trans ((jobs_lockFirst tx).mpr hi)
  | deleteOf agentID =>
    obtain ⟨hopen, hscanned, hlocked, hinserted, hid⟩ := hp
    rw [jobs_agentID] at hid
    have hdone : execSql env ⟨tx, .deleteOf agentID⟩ db = (.ok (db.findPVCs tx agent.id), db) := by
      simp only [execSql, Env.answer_of_ok hfail, hid]
    rw [hdone, Script.follow_deleteOf]
    exact h.find hopen hscanned hinserted fun hi => hlocked.trans ((jobs_lockFirst tx).mpr hi)
  | deleteRow n =>
    obtain ⟨hopen, hscanned, hn⟩ := hp
    have hdone : execSql env ⟨tx, .deleteRow n⟩ db =
        (.ok (), { db with pvcs := remove db.status tx n db.pvcs }) :=
      Env.write_of_ok hfail
        (fun db : Database Party => .ok { db with pvcs := remove db.status tx n db.pvcs }) rfl
    rw [hdone, Script.follow_deleteRow]
    exact h.deleteRow hopen hn hscanned hwait
  | upsertAgent r =>
    obtain ⟨hopen, -, hscanned, hid, hplace⟩ := hp
    rw [jobs_agentID] at hid
    rw [jobs_place] at hplace
    have hfind : tx = .upsert → (m tx).scanned = true := by
      rintro rfl
      exact hscanned
    cases hstored : db.upsertAgent tx r with
    | error err =>
      have hdone : execSql env ⟨tx, .upsertAgent r⟩ db = (.error err, db) :=
        Env.write_of_refused hfail _ hstored
      rw [hdone] at hok
      cases hok
    | ok db' =>
      have hdone : execSql env ⟨tx, .upsertAgent r⟩ db = (.ok (), db') :=
        Env.write_of_ok hfail _ hstored
      rw [hdone, Script.follow_upsertAgent, h.hosts.upsertAgent_eq hplace hstored]
      exact h.lock hopen hfind (Hosts.writes_upsertAgent hplace hid) (Hosts.free_of_upsertAgent hplace hwait)
  | updateAgent now agentID =>
    obtain ⟨hopen, -, hscanned, hid⟩ := hp
    rw [jobs_agentID] at hid
    subst hid
    have hfind : tx = .upsert → (m tx).scanned = true := by
      rintro rfl
      exact hscanned
    have hdone : execSql env ⟨tx, .updateAgent now agent.id⟩ db =
        (.ok (), db.updateAgent tx now agent.id) :=
      Env.write_of_ok hfail (fun db : Database Party => .ok (db.updateAgent tx now agent.id)) rfl
    rw [hdone, Script.follow_updateAgent]
    exact h.lock hopen hfind (Hosts.writes_updateAgent now) (h.hosts.free_of_updateAgent hwait)
  | insertPVC p =>
    obtain ⟨hopen, hcleared, hid⟩ := hp
    rw [jobs_agentID] at hid
    cases hstored : db.insertPVC tx p with
    | error err =>
      have hdone : execSql env ⟨tx, .insertPVC p⟩ db = (.error err, db) :=
        Env.write_of_refused hfail _ hstored
      rw [hdone] at hok
      cases hok
    | ok db' =>
      have hdone : execSql env ⟨tx, .insertPVC p⟩ db = (.ok (), db') :=
        Env.write_of_ok hfail _ hstored
      rw [hdone, Script.follow_insertPVC, Database.insertPVC_eq_ok hstored]
      exact h.insertPVC hopen hcleared hid
  | commit =>
    obtain ⟨hopen, hcleared, -⟩ := hp
    rw [execSql_commit_of_ok hfail, Script.follow_commit]
    exact h.commit hopen hcleared

/-- A status that says committed was there, or is that of a transaction that commits now. -/
theorem status_execSql {env : Env} {c : SqlCall Party} {j : Party}
    (h : (execSql env c db).2.status j = .committed) :
    db.status j = .committed ∨ j = c.tx ∧ SqlEv.commits ⟨c, (execSql env c db).1⟩ = true := by
  have hwrite : ∀ statement : Database Party → Except Err (Database Party),
      (∀ db', statement db = .ok db' → db'.status = db.status) →
      (env.write db statement).2.status = db.status := by
    intro statement hkeeps
    rcases env.write_cases db statement with ⟨err, hfails⟩ | ⟨db', hstored, hdone⟩
    · rw [hfails]
    · rw [hdone]
      exact hkeeps db' hstored
  have habort : ∀ tx, (db.abort tx).status j = .committed → db.status j = .committed := by
    intro tx hj
    by_cases htx : j = tx
    · subst htx
      have haborted : (db.abort j).status j = .aborted := Function.update_self ..
      rw [haborted] at hj
      cases hj
    · exact (Function.update_of_ne htx _ _).symm.trans hj
  obtain ⟨tx, statement⟩ := c
  cases statement with
  | begin | deleteAt | deleteOf => exact .inl h
  | deleteRow n =>
    rw [show (execSql env ⟨tx, .deleteRow n⟩ db).2.status = db.status from
      hwrite _ fun db' hdb' => by cases hdb'; rfl] at h
    exact .inl h
  | updateAgent now agentID =>
    rw [show (execSql env ⟨tx, .updateAgent now agentID⟩ db).2.status = db.status from
      hwrite _ fun db' hdb' => by cases hdb'; rfl] at h
    exact .inl h
  | upsertAgent r =>
    rw [show (execSql env ⟨tx, .upsertAgent r⟩ db).2.status = db.status from
      hwrite _ fun db' hdb' => Database.status_upsertAgent hdb'] at h
    exact .inl h
  | insertPVC p =>
    rw [show (execSql env ⟨tx, .insertPVC p⟩ db).2.status = db.status from
      hwrite _ fun db' hdb' => by rw [Database.insertPVC_eq_ok hdb']] at h
    exact .inl h
  | commit =>
    cases hfail : env.fail with
    | some err =>
      rw [execSql_commit_of_fail hfail] at h
      exact .inl (habort tx h)
    | none =>
      rw [execSql_commit_of_ok hfail] at h ⊢
      by_cases htx : j = tx
      · exact .inr ⟨htx, rfl⟩
      · exact .inl ((Function.update_of_ne htx _ _).symm.trans h)
  | rollback =>
    refine .inl ?_
    by_cases hactive : db.status tx = .active
    · rw [show execSql env ⟨tx, .rollback⟩ db = ((), db.abort tx) from
        congrArg (Prod.mk ()) (if_pos hactive)] at h
      exact habort tx h
    · rw [show execSql env ⟨tx, .rollback⟩ db = ((), db) from
        congrArg (Prod.mk ()) (if_neg hactive)] at h
      exact h

end

/-- What the transactions have done in a history. -/
def scripts (tr : SqlTrace) (i : Party) : Script := (tr.local i).foldl Script.follow {}

theorem scripts_snoc (tr : SqlTrace) (i : Party) (ev : SqlEv Party) :
    scripts (tr ++ [(i, ev)]) = Function.update (scripts tr) i ((scripts tr i).follow ev) := by
  funext j
  unfold scripts
  rw [Trace.local_append, List.foldl_append]
  by_cases hji : j = i
  · subst hji
    rw [Function.update_self]
    simp [Trace.local]
  · rw [Function.update_of_ne hji]
    simp [Trace.local, Ne.symm hji]

/-- The heartbeat commits while the `DELETE` of the registration has begun, and its
    `INSERT` into the agents has not been made. -/
def Overtaken (tr : SqlTrace) : Prop :=
  ∃ past ev rest, tr = past ++ (.heartbeat, ev) :: rest ∧ SqlEv.commits ev = true ∧
    (Trace.local past .upsert).any SqlEv.finds = true ∧
    (Trace.local past .upsert).any SqlEv.locks = false

/-- A flag that every step may set, after a history. -/
theorem Script.foldl_flag {f : Script → Bool} {p : SqlEv Party → Bool}
    (hf : ∀ m ev, f (m.follow ev) = (f m || p ev)) (evs : List (SqlEv Party)) (m : Script) :
    f (evs.foldl Script.follow m) = (f m || evs.any p) := by
  induction evs generalizing m with
  | nil => exact (Bool.or_false _).symm
  | cons ev evs ih => rw [List.foldl_cons, ih, hf, List.any_cons, Bool.or_assoc]

theorem scripts_scanned (tr : SqlTrace) (i : Party) :
    (scripts tr i).scanned = (tr.local i).any SqlEv.finds :=
  (Script.foldl_flag (fun _ _ => rfl) _ _).trans (Bool.false_or _)

theorem scripts_locked (tr : SqlTrace) (i : Party) :
    (scripts tr i).locked = (tr.local i).any SqlEv.locks :=
  (Script.foldl_flag (fun _ _ => rfl) _ _).trans (Bool.false_or _)

theorem overtaken_snoc (tr : SqlTrace) (i : Party) (ev : SqlEv Party) :
    Overtaken (tr ++ [(i, ev)]) ↔ Overtaken tr ∨ i = .heartbeat ∧ SqlEv.commits ev = true ∧
      (scripts tr .upsert).scanned = true ∧ (scripts tr .upsert).locked = false := by
  rw [scripts_scanned, scripts_locked]
  constructor
  · rintro ⟨past, ev', rest, htr, hcommits, hfinds, hlocks⟩
    rcases List.eq_nil_or_concat' rest with rfl | ⟨rest, last, rfl⟩
    · obtain ⟨rfl, hlast⟩ := List.append_inj' htr rfl
      cases hlast
      exact .inr ⟨rfl, hcommits, hfinds, hlocks⟩
    · rw [← List.cons_append, ← List.append_assoc] at htr
      obtain ⟨rfl, -⟩ := List.append_inj' htr rfl
      exact .inl ⟨past, ev', rest, rfl, hcommits, hfinds, hlocks⟩
  · rintro (⟨past, ev', rest, rfl, hrest⟩ | ⟨rfl, hcommits, hfinds, hlocks⟩)
    · exact ⟨past, ev', rest ++ [(i, ev)], by simp, hrest⟩
    · exact ⟨tr, ev, [], rfl, hcommits, hfinds, hlocks⟩

/-- The heartbeat commits too early just if its work is then seen by nobody. -/
theorem Coordinated.unseen_iff {agentID : UUID} {place : String × String} {k : Nat}
    {m : Party → Script} {seen : Party → Bool} {db : Database Party}
    (h : Coordinated agentID place k m seen db) (hopen : (m .heartbeat).Open)
    (hcleared : (m .heartbeat).Cleared) :
    (m .upsert).locked = false ↔ seen .upsert = false ∧ seen .heartbeat = false := by
  have hunseen : seen .upsert = false := h.seen_other (i := .heartbeat) hopen
  rw [and_iff_right hunseen]
  constructor
  · intro hunlocked
    rw [← Bool.not_eq_true]
    intro hseen
    have hcommitted : (m .upsert).committed = true := ((h.side .heartbeat).seen_ended hseen).2
    rw [((h.side .upsert).cleared hcommitted).2.1] at hunlocked
    cases hunlocked
  · intro hseen
    rw [← Bool.not_eq_true]
    intro hlocked
    cases hcommitted : (m .upsert).committed with
    | true =>
      rw [h.late hcommitted hcleared.1 hopen.2] at hseen
      cases hseen
    | false =>
      exact h.not_holds (i := .upsert) ⟨hlocked, hcommitted⟩ ⟨hcleared.2.1, hopen.2⟩

/-- What a permitted `DELETE` or commit says about the script before it. -/
theorem Job.Permits.of_finds {job : Job} {m : Script} {ev : SqlEv Party} (hp : job.Permits m ev.1)
    (hfinds : SqlEv.finds ev = true) : m.Open ∧ m.scanned = false ∧ SqlEv.commits ev = false := by
  obtain ⟨⟨tx, statement⟩, a⟩ := ev
  cases statement with
  | deleteAt | deleteOf => exact ⟨hp.2.1, hp.2.2.1, rfl⟩
  | begin | deleteRow | upsertAgent | updateAgent | insertPVC | commit | rollback => cases hfinds

theorem Job.Permits.of_commits {job : Job} {m : Script} {ev : SqlEv Party} (hp : job.Permits m ev.1)
    (hcommits : SqlEv.commits ev = true) : m.Open ∧ m.Cleared ∧ SqlEv.finds ev = false := by
  obtain ⟨⟨tx, statement⟩, a⟩ := ev
  cases statement with
  | commit => exact ⟨hp.2.1, hp.2.2.1, rfl⟩
  | begin | deleteAt | deleteOf | deleteRow | upsertAgent | updateAgent | insertPVC | rollback =>
    cases hcommits

/-- How a step changes who has overtaken whom. -/
theorem Coordinated.overtaken_step {agentID : UUID} {place : String × String} {k : Nat}
    {m : Party → Script} {seen : Party → Bool} {db : Database Party}
    (h : Coordinated agentID place k m seen db) {job : Job} {i : Party} {ev : SqlEv Party}
    (hp : job.Permits (m i) ev.1) :
    let m' := Function.update m i ((m i).follow ev)
    let seen' := seenAfter m seen i ev
    ((m .heartbeat).committed = true ∧ (m .upsert).scanned = true ∧ seen .upsert = false ∧
        seen .heartbeat = false ∨
      i = .heartbeat ∧ SqlEv.commits ev = true ∧ (m .upsert).scanned = true ∧
        (m .upsert).locked = false) ↔
    (m' .heartbeat).committed = true ∧ (m' .upsert).scanned = true ∧ seen' .upsert = false ∧
      seen' .heartbeat = false := by
  intro m' seen'
  have hother : m' i.other = m i.other := Function.update_of_ne i.other_ne _ m
  have hself : m' i = (m i).follow ev := Function.update_self ..
  -- only the beginning of a `DELETE` and a commit make a difference
  cases hfinds : SqlEv.finds ev with
  | true =>
    obtain ⟨hopen, hscanned, hcommits⟩ := hp.of_finds hfinds
    have hseen' : seen' i = (m i.other).committed := by
      show seenAfter m seen i ev i = _
      rw [seenAfter, if_pos hfinds, Function.update_self]
    cases i with
    | upsert =>
      have hheartbeat : m' .heartbeat = m .heartbeat := hother
      have hsees : seen' .upsert = (m .heartbeat).committed := hseen'
      rw [hscanned, hheartbeat, hsees]
      refine iff_of_false (by simp) ?_
      rintro ⟨hyes, -, hno, -⟩
      rw [hyes] at hno
      cases hno
    | heartbeat =>
      have hcommitted : (m' .heartbeat).committed = false := by
        rw [hself]
        exact Bool.or_eq_false_iff.mpr ⟨hopen.2, hcommits⟩
      rw [hopen.2, hcommits, hcommitted]
      simp
  | false =>
    have hseen' : seen' = seen := if_neg (by rw [hfinds]; nofun)
    rw [hseen']
    cases hcommits : SqlEv.commits ev with
    | false =>
      have hcommitted : (m' .heartbeat).committed = (m .heartbeat).committed := by
        cases i with
        | upsert => exact congrArg Script.committed hother
        | heartbeat =>
          rw [hself]
          exact (congrArg _ hcommits).trans (Bool.or_false _)
      have hscanned : (m' .upsert).scanned = (m .upsert).scanned := by
        cases i with
        | upsert =>
          rw [hself]
          exact (congrArg _ hfinds).trans (Bool.or_false _)
        | heartbeat => exact congrArg Script.scanned hother
      rw [hcommitted, hscanned]
      simp
    | true =>
      obtain ⟨hopen, hcleared, -⟩ := hp.of_commits hcommits
      cases i with
      | upsert =>
        have hheartbeat : m' .heartbeat = m .heartbeat := hother
        have hscanned : (m' .upsert).scanned = (m .upsert).scanned := by
          rw [hself]
          exact (congrArg _ hfinds).trans (Bool.or_false _)
        rw [hheartbeat, hscanned]
        simp
      | heartbeat =>
        have hupsert : m' .upsert = m .upsert := hother
        have hcommitted : (m' .heartbeat).committed = true := by
          rw [hself]
          exact (congrArg _ hcommits).trans (Bool.or_true _)
        rw [hcommitted, hupsert, hopen.2, h.unseen_iff hopen hcleared]
        simp

section

variable {now now' : Time} {agent : Agent} {pvcs : List PVCInfo} {reg : Registry} {tr : SqlTrace}
variable {cfg : SqlConfig}

/-- What the next statement of a transaction may be. -/
theorem permits_next
    (hrun : Run execSql (fun _ => Granted) (replacingOn now now' agent pvcs reg) tr cfg) {i : Party}
    {c : SqlCall Party} {next : c.Ans → Sql Party (Except Err Unit)} (hnext : cfg.procs i = .call c next) :
    (jobs agent pvcs i).Permits (scripts tr i) c := by
  have hobeys := (hrun.obeys_local i (obeyed_replacing now now' agent pvcs i)).2
  rw [hnext] at hobeys
  exact hobeys.1

/-- A transaction whose status says so has committed all of its inventory. -/
theorem committed_of_status
    (hrun : Run execSql (fun _ => Granted) (replacingOn now now' agent pvcs reg) tr cfg) (j : Party)
    (hj : cfg.state.status j = .committed) :
    (scripts tr j).committed = true ∧ (scripts tr j).failed = false ∧
      (scripts tr j).inserted = (jobs agent pvcs j).pvcs := by
  induction hrun with
  | init => cases hj
  | @step tr cfg i env c next hrun hnext hok ih =>
    have hp := permits_next hrun hnext
    rw [scripts_snoc]
    rcases status_execSql hj with hbefore | ⟨rfl, hcommits⟩
    · obtain ⟨hcommitted, hrest⟩ := ih hbefore
      by_cases hji : j = i
      · subst hji
        -- after the commit, the transaction only rolls back
        obtain ⟨tx, statement⟩ := c
        have hnot : ¬ (scripts tr j).Open := fun hopen => by
          rw [hopen.2] at hcommitted
          cases hcommitted
        cases statement with
        | rollback =>
          have hsame : (scripts tr j).follow ⟨⟨tx, .rollback⟩, (execSql env ⟨tx, .rollback⟩ cfg.state).1⟩ =
              scripts tr j := Script.follow_rollback _ tx
          rw [Function.update_self, hsame]
          exact ⟨hcommitted, hrest⟩
        | begin => exact absurd hp.2 hnot
        | deleteAt | deleteOf | deleteRow | upsertAgent | updateAgent | insertPVC | commit =>
          exact absurd hp.2.1 hnot
      · rw [Function.update_of_ne hji]
        exact ⟨hcommitted, hrest⟩
    · obtain rfl : c.tx = i := hp.1.trans (jobs_tx i)
      obtain ⟨tx, statement⟩ := c
      cases statement with
      | commit =>
        obtain ⟨hopen, -, hinserted⟩ := hp.2
        cases hfail : env.fail with
        | some err =>
          rw [execSql_commit_of_fail hfail] at hcommits
          cases hcommits
        | none =>
          rw [execSql_commit_of_ok hfail, Function.update_self, Script.follow_commit]
          exact ⟨rfl, hopen.1, hinserted⟩
      | begin | deleteAt | deleteOf | deleteRow | upsertAgent | updateAgent | insertPVC | rollback =>
        cases hcommits

/-- The registry that the transactions start on. -/
theorem coordinated_start {r : AgentRow} {k : Nat} (hrow : reg.agents.rows[k]? = some r)
    (hid : r.id = agent.id) (hplace : r.place = agent.place) :
    Coordinated agent.id agent.place k (fun _ => {}) (fun _ => false) (.ofRegistry Party reg) := by
  have hmem := List.mem_of_getElem? hrow
  have horigin : ∀ o ∈ (Database.ofRegistry Party reg).origins, o.1 = none := by
    intro o ho
    obtain ⟨v, hv, rfl⟩ := List.mem_map.mp ho
    obtain ⟨p, -, rfl⟩ := List.mem_map.mp hv
    rfl
  refine ⟨⟨?_, ?_, fun o ho hne => absurd (horigin o ho) hne⟩, fun i => ?_, nofun, nofun, nofun, nofun⟩
  · intro c hc r' hr'
    obtain ⟨old, hold, rfl⟩ := List.mem_map.mp hc
    obtain rfl : old = r' := by
      rcases hr' with hsame | ⟨t, hnone⟩
      · exact Option.some.inj hsame
      · cases hnone
    -- places and identifiers are keys
    rw [← hid, ← hplace]
    constructor
    · intro hsame
      rw [List.inj_on_of_nodup_map reg.agents.nodup hold hmem hsame]
    · intro hsame
      rw [List.inj_on_of_nodup_map reg.ids hold hmem hsame]
  · refine ⟨⟨some r, none⟩, ?_, ⟨r, rfl, hplace⟩, fun _ _ hnone => ?_⟩
    · show (reg.agents.rows.map _)[k]? = _
      rw [List.getElem?_map, hrow]
      rfl
    · cases hnone
  · refine ⟨rfl, fun h => absurd h.1 nofun, ?_, fun n hn => (List.not_mem_nil hn).elim, ?_, nofun, nofun, nofun⟩
    · rw [List.map_eq_nil_iff, List.filter_eq_nil_iff]
      intro o ho
      rw [horigin o ho]
      nofun
    · intro v hv hmax
      obtain ⟨p, -, rfl⟩ := List.mem_map.mp hv
      cases hmax

/-- The database is coordinated as long as nothing fails. -/
theorem coordinated_run {r : AgentRow} {k : Nat} (hrow : reg.agents.rows[k]? = some r)
    (hid : r.id = agent.id) (hplace : r.place = agent.place)
    (hrun : Run execSql (fun _ => Granted) (replacingOn now now' agent pvcs reg) tr cfg)
    (hfine : ∀ i, (scripts tr i).failed = false) :
    ∃ seen, Coordinated agent.id agent.place k (scripts tr) seen cfg.state ∧
      (Overtaken tr ↔ (scripts tr .heartbeat).committed = true ∧ (scripts tr .upsert).scanned = true ∧
        seen .upsert = false ∧ seen .heartbeat = false) := by
  induction hrun with
  | init =>
    refine ⟨fun _ => false, coordinated_start hrow hid hplace, ?_⟩
    refine iff_of_false ?_ (by rintro ⟨hcommitted, -⟩; cases hcommitted)
    rintro ⟨past, ev, rest, hnil, -⟩
    cases past <;> cases hnil
  | @step tr cfg i env c next hrun hnext hok ih =>
    have hp := permits_next hrun hnext
    rw [scripts_snoc] at hfine
    have hstep := hfine i
    rw [Function.update_self] at hstep
    obtain ⟨hfailed, hfails⟩ := Bool.or_eq_false_iff.mp hstep
    have hbefore : ∀ j, (scripts tr j).failed = false := by
      intro j
      by_cases hji : j = i
      · rw [hji]
        exact hfailed
      · rw [← hfine j, Function.update_of_ne hji]
    obtain ⟨seen, hcoord, hover⟩ := ih hbefore
    refine ⟨_, scripts_snoc .. ▸ hcoord.exec hp hok hfailed hfails, ?_⟩
    rw [overtaken_snoc, hover, scripts_snoc]
    exact hcoord.overtaken_step hp

/-- Of the inventory that is there in the end, every row was inserted by one of the
    transactions, and the other one did not see it. -/
theorem Coordinated.stored_iff {agentID : UUID} {place : String × String} {k : Nat}
    {m : Party → Script} {seen : Party → Bool} {db : Database Party}
    (h : Coordinated agentID place k m seen db) (hall : ∀ i, (m i).committed = true)
    {v : Version Party PVCRow} (hv : v ∈ db.pvcs) :
    (v.visible (fun tx => db.status tx = .committed) = true ∧ v.row.agentID = agentID) ↔
      ∃ i, v.xmin = some i ∧ seen i.other = false := by
  obtain ⟨n, hn⟩ := List.mem_iff_getElem?.mp hv
  have hstatus : ∀ tx, decide (db.status tx = .committed) = true :=
    fun tx => decide_eq_true ((h.status_iff tx).mpr (hall tx))
  have hvisible : v.visible (fun tx => db.status tx = .committed) = true ↔ v.xmax = none := by
    simp only [Version.visible, hstatus]
    cases v.xmin <;> cases v.xmax <;> simp
  -- what a `DELETE` had to delete is deleted
  have hgone : ∀ i, Target agentID i (seen i) v → v.xmax ≠ none := by
    intro i htarget hnone
    have hcleared := (h.side i).cleared (hall i)
    rcases (h.side i).gone n v hcleared.1 hn htarget with hmem | hmax | ⟨hmax, -⟩
    · rw [hcleared.2.2] at hmem
      cases hmem
    · rw [hnone] at hmax
      cases hmax
    · rw [hnone] at hmax
      cases hmax
  rw [hvisible]
  constructor
  · rintro ⟨hnone, hid⟩
    cases hmin : v.xmin with
    | none => exact absurd hnone (hgone .upsert ⟨hid, .inl hmin⟩)
    | some i =>
      refine ⟨i, rfl, ?_⟩
      rw [← Bool.not_eq_true]
      intro hseen
      exact hgone i.other ⟨hid, .inr ⟨by rw [i.other_other, hmin], hseen⟩⟩ hnone
  · rintro ⟨i, hmin, hunseen⟩
    refine ⟨?_, h.hosts.own _ (Database.mem_origins hv) (by rw [hmin]; nofun)⟩
    cases hmax : v.xmax with
    | none => rfl
    | some j =>
      obtain ⟨-, -, hnone | ⟨hother, hseen⟩⟩ := (h.side j).deleted v hv hmax
      · rw [hmin] at hnone
        cases hnone
      · rw [hmin, Option.some_inj] at hother
        rw [hother, j.other_other, hseen] at hunseen
        cases hunseen

/-- Of two kinds that exclude each other, the elements of either kind. -/
theorem perm_filter_or {α : Type} {l : List α} {p q : α → Bool}
    (h : ∀ a, p a = true → q a = false) :
    (l.filter fun a => p a || q a).Perm (l.filter p ++ l.filter q) := by
  have hsplit := (List.filter_append_perm p (l.filter fun a => p a || q a)).symm
  rw [List.filter_filter, List.filter_filter] at hsplit
  refine hsplit.trans (List.Perm.of_eq (congrArg₂ _ ?_ ?_))
  · refine List.filter_congr fun a _ => ?_
    cases p a <;> simp
  · refine List.filter_congr fun a _ => ?_
    cases hp : p a with
    | true => rw [h a hp]; rfl
    | false => simp

/-- The inventory, by the transactions that have inserted it. -/
theorem Coordinated.inventory_eq {agentID : UUID} {place : String × String} {k : Nat}
    {m : Party → Script} {seen : Party → Bool} {db : Database Party}
    (h : Coordinated agentID place k m seen db) (hall : ∀ i, (m i).committed = true) :
    db.inventory agentID = (db.origins.filter fun o =>
      o.1 = some .upsert && !seen .heartbeat || o.1 = some .heartbeat && !seen .upsert).map
        (fun o => o.2.pvc) := by
  unfold Database.inventory stored Database.origins
  rw [List.filter_map, List.filter_map, List.filter_filter, List.map_map, List.map_map]
  refine congrArg (List.map _) (List.filter_congr fun v hv => ?_)
  have hiff := h.stored_iff hall hv
  rw [Bool.eq_iff_iff]
  simp only [Function.comp_apply, Bool.and_eq_true, Bool.or_eq_true, decide_eq_true_eq,
    Bool.not_eq_true']
  rw [and_comm, hiff]
  constructor
  · rintro ⟨i, hmin, hunseen⟩
    cases i with
    | upsert => exact .inl ⟨hmin, hunseen⟩
    | heartbeat => exact .inr ⟨hmin, hunseen⟩
  · rintro (⟨hmin, hunseen⟩ | ⟨hmin, hunseen⟩)
    · exact ⟨.upsert, hmin, hunseen⟩
    · exact ⟨.heartbeat, hmin, hunseen⟩

/-- When both have committed, the inventory is that of one of them just if the heartbeat
    has not overtaken the registration, or one of the inventories is empty. -/
theorem inventoryReplaced_iff {r : AgentRow} (hrow : reg.row agent.id = some r)
    (hplace : r.place = agent.place)
    (hrun : Run execSql (fun _ => Granted) (replacingOn now now' agent pvcs reg) tr cfg)
    (hcommitted : ∀ i, cfg.state.status i = .committed) :
    ((cfg.state.inventory agent.id).Perm agent.pvcs ∨ (cfg.state.inventory agent.id).Perm pvcs) ↔
      ¬ Overtaken tr ∨ agent.pvcs = [] ∨ pvcs = [] := by
  have hdone := fun i => committed_of_status hrun i (hcommitted i)
  obtain ⟨hmem, hid⟩ := Registry.row_eq_some hrow
  obtain ⟨k, hk⟩ := List.mem_iff_getElem?.mp hmem
  obtain ⟨seen, hcoord, hover⟩ := coordinated_run hk hid hplace hrun fun i => (hdone i).2.1
  have hall := fun i => (hdone i).1
  rw [hcoord.inventory_eq hall]
  -- what each has inserted is all of its inventory
  have hupsert : _ = agent.pvcs := ((hcoord.side .upsert).inserted).trans (hdone .upsert).2.2
  have hheartbeat : _ = pvcs := ((hcoord.side .heartbeat).inserted).trans (hdone .heartbeat).2.2
  have hscanned : (scripts tr .upsert).scanned = true := ((hcoord.side .upsert).cleared (hall _)).1
  rw [hover, and_iff_right (hall .heartbeat), and_iff_right hscanned]
  generalize cfg.state.origins = rows at hupsert hheartbeat ⊢
  -- the one that has seen the other has deleted its rows
  cases hseen : seen .upsert with
  | true =>
    have hother : seen .heartbeat = false := hcoord.seen_once .upsert hseen
    refine iff_of_true (.inl (List.Perm.of_eq ?_)) (.inl nofun)
    rw [hother, ← hupsert]
    simp
  | false =>
    cases hother : seen .heartbeat with
    | true =>
      refine iff_of_true (.inr (List.Perm.of_eq ?_)) (.inl (by simp))
      rw [← hheartbeat]
      simp
    | false =>
      simp only [Bool.not_false, Bool.and_true, and_self, not_true_eq_false, false_or]
      -- nobody has deleted what the other has inserted
      have hdisjoint : ∀ o : Option Party × PVCRow,
          decide (o.1 = some Party.upsert) = true → decide (o.1 = some Party.heartbeat) = false := by
        intro o ho
        rw [of_decide_eq_true ho]
        rfl
      have hboth := (perm_filter_or (l := rows) hdisjoint).map fun o => o.2.pvc
      rw [List.map_append, hupsert, hheartbeat] at hboth
      constructor
      · rintro (hperm | hperm)
        · have hlength := (hperm.symm.trans hboth).length_eq
          rw [List.length_append] at hlength
          exact .inr (List.eq_nil_of_length_eq_zero (by omega))
        · have hlength := (hperm.symm.trans hboth).length_eq
          rw [List.length_append] at hlength
          exact .inl (List.eq_nil_of_length_eq_zero (by omega))
      · rintro (hnil | hnil)
        · rw [hnil, List.nil_append] at hboth
          exact .inr hboth
        · rw [hnil, List.append_nil] at hboth
          exact .inl hboth

end

/-! ## Sample runs -/

def sampleRow : AgentRow :=
  ⟨7, "east", "node-1", .healthy, true, 3, { tar := "1.35", zstd := "1.5", stunnel := "5.6" }, 1, ""⟩

/-- One agent, with an inventory. -/
def sampleRegistry (pvcs : List PVCInfo) (h : ((pvcs.map fun pvc => (⟨7, pvc, 2⟩ : PVCRow)).map
    PVCRow.key).Nodup) : Registry where
  agents := ⟨[sampleRow], by decide⟩
  pvcs := ⟨pvcs.map fun pvc => ⟨7, pvc, 2⟩, h⟩
  ids := by decide
  fk p hp := by
    obtain ⟨pvc, -, rfl⟩ := List.mem_map.mp hp
    exact List.mem_singleton.mpr rfl

def samplePVC (name : String) : PVCInfo := ⟨name, 1, "standard", "node-1"⟩

/-- The agent registers again, with one volume. -/
def sampleAgain : Agent := { sampleRow with pvcs := [samplePVC "data"] }

/-- Statements of the two transactions, in an order. -/
def inOrder (order : List (Party × Nat)) : List (Party × Env) :=
  order.flatMap fun turn => List.replicate turn.2 (turn.1, {})

/-- The registration begins to delete before the heartbeat commits, and waits for it
    with the old row: it deletes nothing, and both inventories are stored. -/
theorem not_inventoryReplaced_overtaken :
    ¬ ∀ now now' (agent : Agent) pvcs (reg : Registry) r tr cfg, reg.row agent.id = some r →
      r.place = agent.place → (agent.pvcs.map PVCInfo.pvcName).Nodup →
      (pvcs.map PVCInfo.pvcName).Nodup →
      Run execSql (fun _ => Granted) (replacingOn now now' agent pvcs reg) tr cfg →
      (∀ i, cfg.state.status i = .committed) →
      (cfg.state.inventory agent.id).Perm agent.pvcs ∨ (cfg.state.inventory agent.id).Perm pvcs := by
  intro hall
  let reg := sampleRegistry [samplePVC "old"] (by decide)
  let order := inOrder [(.heartbeat, 4), (.upsert, 2), (.heartbeat, 2), (.upsert, 4)]
  have hend : ((replacingOn 5 5 sampleAgain [samplePVC "logs"] reg).follow execSql (fun _ => Granted)
      order).any fun out => out.2.state.status .upsert = .committed ∧
        out.2.state.status .heartbeat = .committed ∧
        (out.2.state.inventory 7).length = 2 := by decide +kernel
  obtain ⟨⟨tr, cfg⟩, hfollow, hstep⟩ := (Option.any_eq_true _ _).mp hend
  obtain ⟨hupsert, hheartbeat, hlength⟩ := of_decide_eq_true hstep
  have hstored := hall 5 5 sampleAgain [samplePVC "logs"] reg sampleRow tr cfg (by decide) rfl (by decide)
    (by decide) (Run.of_follow hfollow) fun i => by cases i <;> assumption
  rcases hstored with hperm | hperm
  · have hone := hperm.length_eq
    rw [show sampleAgain.id = 7 from rfl, hlength] at hone
    revert hone
    decide
  · have hone := hperm.length_eq
    rw [show sampleAgain.id = 7 from rfl, hlength] at hone
    revert hone
    decide

/-- The registration begins while the heartbeat is under way, which commits before the
    `DELETE` of the registration: the inventory is that of the registration. -/
theorem inventoryReplaced_iff_waiting :
    ∃ tr cfg, Run execSql (fun _ => Granted)
        (replacingOn 5 5 sampleAgain [samplePVC "logs"] (sampleRegistry [samplePVC "old"] (by decide))) tr
          cfg ∧
      (∀ i, cfg.state.status i = .committed) ∧ (cfg.state.inventory 7).Perm [samplePVC "data"] ∧
      ¬ Overtaken tr := by
  let order := inOrder [(.heartbeat, 4), (.upsert, 1), (.heartbeat, 2), (.upsert, 5)]
  have hend : ((replacingOn 5 5 sampleAgain [samplePVC "logs"]
      (sampleRegistry [samplePVC "old"] (by decide))).follow execSql (fun _ => Granted) order).any
      fun out => out.2.state.status .upsert = .committed ∧ out.2.state.status .heartbeat = .committed ∧
        out.2.state.inventory 7 = [samplePVC "data"] := by decide +kernel
  obtain ⟨⟨tr, cfg⟩, hfollow, hstep⟩ := (Option.any_eq_true _ _).mp hend
  obtain ⟨hupsert, hheartbeat, hinventory⟩ := of_decide_eq_true hstep
  have hcommitted : ∀ i, cfg.state.status i = .committed := fun i => by cases i <;> assumption
  have hrun := Run.of_follow hfollow
  have hdata : (cfg.state.inventory 7).Perm [samplePVC "data"] := .of_eq hinventory
  rcases (inventoryReplaced_iff (r := sampleRow) (by decide) rfl hrun hcommitted).mp (.inl hdata) with
    hnot | hnil | hnil
  · exact ⟨tr, cfg, hrun, hcommitted, hdata, hnot⟩
  · cases hnil
  · cases hnil

end Katapult
