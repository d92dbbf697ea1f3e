/-
  Katapult.Store.Deadlock

  The registration of an agent deletes its volumes before it writes the agent, a
  heartbeat writes the agent first.  So each of the two can be waiting for what the
  other one has, and the server has to fail one of them, exactly if the agent has
  volumes that are stored (`deadlock_iff`).
-/

import Katapult.Store.Inventory

namespace Katapult

open Effect Mvcc

/-- Both transactions wait. -/
def Deadlocked (cfg : SqlConfig) : Prop :=
  ∀ i, ∃ c, (cfg.procs i).next? = some c ∧ cfg.state.Blocked c.tx c.statement = true

/-! ## What has been touched -/

section

variable {db db' : Database Party} {tx : Party}

/-- A step of `tx` leaves the rows that were there, and writes to agents only if it `locks` them. -/
structure Touches (tx : Party) (locks : Bool) (db db' : Database Party) : Prop where
  rows : ∀ o ∈ db'.origins, o ∈ db.origins ∨ o.1 = some tx
  drafts : ∀ c' ∈ db'.agents, ∀ i r', c'.draft = some (i, r') →
    (∃ c ∈ db.agents, ∃ r, c.draft = some (i, r)) ∨ i = tx ∧ locks = true

theorem Touches.refl (tx : Party) (locks : Bool) (db : Database Party) : Touches tx locks db db :=
  ⟨fun _ ho => .inl ho, fun c hc _ r hdraft => .inl ⟨c, hc, r, hdraft⟩⟩

/-- A transaction ends, with these cells. -/
theorem Touches.of_cells {f : Cell Party AgentRow → Cell Party AgentRow} {locks : Bool}
    {status : Party → TxStatus}
    (hf : ∀ c i r', (f c).draft = some (i, r') → (∃ r, c.draft = some (i, r)) ∨ i = tx ∧ locks = true) :
    Touches tx locks db { db with status := status, agents := db.agents.map f } := by
  refine ⟨fun o ho => .inl ho, fun c' hc' i r' hdraft => ?_⟩
  obtain ⟨c, hc, rfl⟩ := List.mem_map.mp hc'
  exact (hf c i r' hdraft).imp_left fun hold => ⟨c, hc, hold⟩

theorem Touches.write (cond : AgentRow → Bool) (set : AgentRow → AgentRow) :
    Touches tx true db { db with agents := db.agents.map (Cell.write tx cond set) } := by
  refine .of_cells fun c i r' hdraft => ?_
  rcases Cell.draft_write tx cond set c with hsame | ⟨r, -, -, hnew⟩
  · exact .inl ⟨r', hsame ▸ hdraft⟩
  · rw [hnew] at hdraft
    cases hdraft
    exact .inr ⟨rfl, rfl⟩

theorem Touches.upsertAgent {r : AgentRow} (hok : db.upsertAgent tx r = .ok db') :
    Touches tx true db db' := by
  unfold Database.upsertAgent at hok
  split at hok
  · cases hok
  split at hok
  · cases hok
    refine ⟨fun o ho => .inl ho, fun c' hc' i r' hdraft => ?_⟩
    rcases List.mem_append.mp hc' with hold | hnew
    · exact .inl ⟨c', hold, r', hdraft⟩
    · rw [List.mem_singleton.mp hnew] at hdraft
      cases hdraft
      exact .inr ⟨rfl, rfl⟩
  · split at hok
    · cases hok
    · cases hok
      exact .write _ _

theorem Touches.commit : Touches tx false db (db.commit tx) := by
  refine .of_cells fun c i r' hdraft => ?_
  rcases Cell.commit_cases tx c with ⟨r, -, hcommit, -⟩ | ⟨-, hcommit, -⟩
  · rw [hcommit] at hdraft
    cases hdraft
  · exact .inl ⟨r', hcommit ▸ hdraft⟩

theorem Touches.abort : Touches tx false db (db.abort tx) := by
  refine .of_cells fun c i r' hdraft => ?_
  rcases Cell.commit_cases tx c with ⟨r, -, -, hrollback⟩ | ⟨-, -, hrollback⟩
  · rw [hrollback] at hdraft
    cases hdraft
  · exact .inl ⟨r', hrollback ▸ hdraft⟩

/-- Every step of a transaction. -/
theorem touches_execSql (env : Env) (c : SqlCall Party) (db : Database Party) :
    Touches c.tx (SqlEv.locks ⟨c, (execSql env c db).1⟩) db (execSql env c db).2 := by
  obtain ⟨tx, statement⟩ := c
  -- a statement that has failed, or has its effect
  have hwrite : ∀ (run : Database Party → Except Err (Database Party)) (locks : Except Err Unit → Bool),
      (∀ db', run db = .ok db' → Touches tx (locks (.ok ())) db db') →
      Touches tx (locks (env.write db run).1) db (env.write db run).2 := by
    intro run locks hrun
    rcases env.write_cases db run with ⟨err, hfails⟩ | ⟨db', hok, hdone⟩
    · rw [hfails]
      exact .refl tx _ db
    · rw [hdone]
      exact hrun db' hok
  cases statement with
  | begin | deleteAt | deleteOf => exact .refl tx _ db
  | deleteRow n =>
    refine hwrite (fun db => .ok { db with pvcs := remove db.status tx n db.pvcs })
      (fun answer => SqlEv.locks ⟨⟨tx, .deleteRow n⟩, answer⟩) fun db' hok => ?_
    cases hok
    refine ⟨fun o ho => .inl ?_, fun c hc i r hdraft => .inl ⟨c, hc, r, hdraft⟩⟩
    rwa [← Side.origins_remove tx n db]
  | upsertAgent r =>
    exact hwrite _ (fun answer => SqlEv.locks ⟨⟨tx, .upsertAgent r⟩, answer⟩) fun db' hok =>
      .upsertAgent hok
  | updateAgent now agentID =>
    refine hwrite (fun db => .ok (db.updateAgent tx now agentID))
      (fun answer => SqlEv.locks ⟨⟨tx, .updateAgent now agentID⟩, answer⟩) fun db' hok => ?_
    cases hok
    exact .write _ _
  | insertPVC p =>
    refine hwrite _ (fun answer => SqlEv.locks ⟨⟨tx, .insertPVC p⟩, answer⟩) fun db' hok => ?_
    rw [Database.insertPVC_eq_ok hok]
    refine ⟨fun o ho => ?_, fun c hc i r hdraft => .inl ⟨c, hc, r, hdraft⟩⟩
    obtain ⟨v, hv, rfl⟩ := List.mem_map.mp ho
    rcases List.mem_append.mp hv with hold | hnew
    · exact .inl (Database.mem_origins hold)
    · rw [List.mem_singleton.mp hnew]
      exact .inr rfl
  | commit =>
    cases hfail : env.fail with
    | some err =>
      rw [execSql_commit_of_fail hfail]
      exact .abort
    | none =>
      rw [execSql_commit_of_ok hfail]
      exact .commit
  | rollback =>
    by_cases hactive : db.status tx = .active
    · rw [show execSql env ⟨tx, .rollback⟩ db = ((), db.abort tx) from
        congrArg (Prod.mk ()) (if_pos hactive)]
      exact .abort
    · rw [show execSql env ⟨tx, .rollback⟩ db = ((), db) from
        congrArg (Prod.mk ()) (if_neg hactive)]
      exact .refl tx _ db

end

/-! ## Without volumes -/

section

variable {now now' : Time} {agent : Agent} {pvcs : List PVCInfo} {reg : Registry}
variable {tr : SqlTrace} {cfg : SqlConfig}

/-- What the transactions have written to, when they have done `m`. -/
structure Confined (reg : Registry) (m : Party → Script) (db : Database Party) : Prop where
  rows : ∀ o ∈ db.origins, o.1 = none → o.2 ∈ reg.pvcs.rows
  drafts : ∀ c ∈ db.agents, ∀ i r, c.draft = some (i, r) → (m i).locked = true
  inserts : ∀ i, (m i).inserted ≠ [] → (m i).locked = true

theorem confined_run
    (hrun : Run execSql (fun _ => Granted) (replacingOn now now' agent pvcs reg) tr cfg) :
    Confined reg (scripts tr) cfg.state := by
  induction hrun with
  | init =>
    refine ⟨fun o ho _ => ?_, fun c hc i r hdraft => ?_, fun i hsome => absurd rfl hsome⟩
    · obtain ⟨v, hv, rfl⟩ := List.mem_map.mp ho
      obtain ⟨p, hp, rfl⟩ := List.mem_map.mp hv
      exact hp
    · obtain ⟨r', -, rfl⟩ := List.mem_map.mp hc
      cases hdraft
  | @step tr cfg i env c next hrun hnext hok ih =>
    have hp := permits_next hrun hnext
    have htx : c.tx = i := hp.1.trans (jobs_tx i)
    have htouches := touches_execSql env c cfg.state
    rw [htx] at htouches
    generalize hev : (⟨c, (execSql env c cfg.state).1⟩ : SqlEv Party) = ev at htouches
    -- a lock that is held stays held
    have hkeep : ∀ j, (scripts tr j).locked = true → (scripts (tr ++ [(i, ev)]) j).locked = true := by
      intro j hlocked
      rw [scripts_locked] at hlocked ⊢
      rw [Trace.local_append, List.any_append, hlocked, Bool.true_or]
    have hself : scripts (tr ++ [(i, ev)]) i = (scripts tr i).follow ev := by
      rw [scripts_snoc, Function.update_self]
    show Confined reg (scripts (tr ++ [(i, ev)])) (execSql env c cfg.state).2
    refine ⟨fun o ho hnone => ?_, fun c' hc' j r' hdraft => ?_, fun j hsome => ?_⟩
    · rcases htouches.rows o ho with hold | hnew
      · exact ih.rows o hold hnone
      · rw [hnone] at hnew
        cases hnew
    · rcases htouches.drafts c' hc' j r' hdraft with ⟨a, ha, r, hold⟩ | ⟨rfl, hlocks⟩
      · exact hkeep j (ih.drafts a ha j r hold)
      · rw [hself]
        show ((scripts tr j).locked || SqlEv.locks ev) = true
        rw [hlocks, Bool.or_true]
    · by_cases hji : j = i
      · subst hji
        rw [hself] at hsome
        obtain ⟨tx, statement⟩ := c
        cases statement with
        | insertPVC p => exact hkeep j hp.2.2.1.2.1
        | begin | deleteAt | deleteOf | deleteRow | upsertAgent | updateAgent | commit | rollback =>
          subst hev
          exact hkeep j (ih.inserts j hsome)
      · rw [scripts_snoc, Function.update_of_ne hji] at hsome
        exact hkeep j (ih.inserts j hsome)

/-- A transaction that waits is under way. -/
theorem Job.Permits.open_of_blocked {job : Job} {m : Script} {c : SqlCall Party} {db : Database Party}
    (hp : job.Permits m c) (hblocked : db.Blocked c.tx c.statement = true) : m.Open := by
  obtain ⟨tx, statement⟩ := c
  cases statement with
  | begin | rollback => cases hblocked
  | deleteAt | deleteOf | deleteRow | upsertAgent | updateAgent | insertPVC | commit => exact hp.2.1

/-- Where the agent has no volumes, a transaction can only wait for the agent. -/
theorem locked_other_of_blocked {agentID : UUID} {place : String × String} {k : Nat}
    {m : Party → Script} {seen : Party → Bool} {db : Database Party} {i : Party} {c : SqlCall Party}
    (h : Coordinated agentID place k m seen db) (hconfined : Confined reg m db)
    (hempty : ∀ p ∈ reg.pvcs.rows, p.agentID ≠ agentID) (hopen : ∀ i, (m i).Open) {job : Job}
    (htx : job.tx = i) (hp : job.Permits (m i) c) (hblocked : db.Blocked c.tx c.statement = true) :
    (m i).locked = false ∧ (m i.other).locked = true := by
  obtain ⟨tx, statement⟩ := c
  obtain rfl : tx = i := hp.1.trans htx
  have hp := hp.2
  have hunseen : ∀ j, seen j = false := by
    intro j
    by_contra hseen
    have hended := ((h.side j).seen_ended (Bool.eq_true_of_not_eq_false hseen)).2
    rw [(hopen j.other).2] at hended
    cases hended
  -- no row is there that a `DELETE` could find
  have htarget : ∀ j, ∀ v ∈ db.pvcs, ¬ Target agentID j (seen j) v := by
    rintro j v hv ⟨hid, hmin | ⟨-, hseen⟩⟩
    · exact hempty _ (hconfined.rows _ (Database.mem_origins hv) hmin) hid
    · rw [hunseen] at hseen
      cases hseen
  have hdraft : ∀ c ∈ db.agents, c.heldFrom tx = true → (m tx.other).locked = true := by
    intro c hc hheld
    obtain ⟨⟨t, r⟩, hdraft, hne⟩ := (Option.any_eq_true _ _).mp hheld
    obtain rfl : t = tx.other := (tx.eq_or_other t).resolve_left (of_decide_eq_true hne)
    exact hconfined.drafts c hc _ r hdraft
  cases statement with
  | begin | deleteAt | deleteOf | commit | rollback => cases hblocked
  | upsertAgent r =>
    obtain ⟨c, hc, hheld⟩ := List.any_eq_true.mp hblocked
    exact ⟨hp.2.1, hdraft c hc (Bool.and_eq_true_iff.mp hheld).1⟩
  | updateAgent now agentID =>
    obtain ⟨c, hc, hheld⟩ := List.any_eq_true.mp hblocked
    exact ⟨hp.2.1, hdraft c hc (Bool.and_eq_true_iff.mp hheld).1⟩
  | deleteRow n =>
    obtain ⟨v, hv, hfound⟩ := (h.side tx).todo n (List.mem_of_mem_head? hp.2.2)
    exact absurd ⟨hfound.1, hfound.2⟩ (htarget tx v (List.mem_of_getElem? hv))
  | insertPVC p =>
    -- a row of the other one is in the way, which then has the agent as well
    obtain ⟨v, hv, hundecided⟩ := List.any_eq_true.mp hblocked
    rw [Bool.and_eq_true, Version.undecided, Bool.or_eq_true, Bool.and_eq_true, Option.any_eq_true,
      Option.any_eq_true] at hundecided
    have hother : ∀ t, busy db.status tx t = true → t = tx.other := fun t hbusy =>
      (tx.eq_or_other t).resolve_left (of_decide_eq_true (Bool.and_eq_true_iff.mp hbusy).1)
    have hlocked : (m tx.other).locked = true := by
      rcases hundecided.2 with ⟨t, hmin, hbusy⟩ | ⟨-, t, hmax, hbusy⟩
      · obtain rfl := hother t hbusy
        exact hconfined.inserts _ fun hnone => (h.side _).xmin_ne hnone hv hmin
      · obtain rfl := hother t hbusy
        exact absurd ((h.side _).deleted v hv hmax).2 (htarget _ v hv)
    exact absurd ⟨hlocked, (hopen _).2⟩ (h.not_holds ⟨hp.2.1.2.1, (hopen tx).2⟩)

/-- So they cannot both wait. -/
theorem not_deadlocked_of_empty {r : AgentRow} (hrow : reg.row agent.id = some r)
    (hplace : r.place = agent.place) (hempty : reg.inventory agent.id = [])
    (hrun : Run execSql (fun _ => Granted) (replacingOn now now' agent pvcs reg) tr cfg) :
    ¬ Deadlocked cfg := by
  intro hdead
  have hwaits : ∀ i, ∃ c, (jobs agent pvcs i).Permits (scripts tr i) c ∧
      cfg.state.Blocked c.tx c.statement = true := by
    intro i
    obtain ⟨c, hnext, hblocked⟩ := hdead i
    obtain ⟨next, hcall⟩ := Prog.eq_call_of_next? hnext
    exact ⟨c, permits_next hrun hcall, hblocked⟩
  have hopen : ∀ i, (scripts tr i).Open := by
    intro i
    obtain ⟨c, hp, hblocked⟩ := hwaits i
    exact hp.open_of_blocked hblocked
  obtain ⟨hmem, hid⟩ := Registry.row_eq_some hrow
  obtain ⟨k, hk⟩ := List.mem_iff_getElem?.mp hmem
  obtain ⟨seen, hcoord, -⟩ := coordinated_run hk hid hplace hrun fun i => (hopen i).1
  have hnone : ∀ p ∈ reg.pvcs.rows, p.agentID ≠ agent.id := by
    intro p hp hpid
    have hin : p ∈ reg.inventory agent.id := List.mem_filter.mpr ⟨hp, decide_eq_true hpid⟩
    rw [hempty] at hin
    cases hin
  have hone : ∀ i, (scripts tr i).locked = false ∧ (scripts tr i.other).locked = true := by
    intro i
    obtain ⟨c, hp, hblocked⟩ := hwaits i
    exact locked_other_of_blocked hcoord (confined_run hrun) hnone hopen (jobs_tx i) hp hblocked
  have hupsert := (hone .heartbeat).2
  rw [show Party.heartbeat.other = .upsert from rfl, (hone .upsert).1] at hupsert
  cases hupsert

end

/-! ## With volumes -/

section

variable {now now' : Time} {agent : Agent} {pvcs : List PVCInfo} {reg : Registry}

/-- Before the transactions, a `DELETE` finds the volumes of the agent. -/
theorem mem_findPVCs_ofRegistry (tx : Party) (agentID : UUID) {k : Nat} {p : PVCRow}
    (hp : reg.pvcs.rows[k]? = some p) :
    k ∈ (Database.ofRegistry Party reg).findPVCs tx agentID ↔ p.agentID = agentID := by
  have hv : (Database.ofRegistry Party reg).pvcs[k]? = some ⟨p, none, none⟩ := by
    show (reg.pvcs.rows.map _)[k]? = _
    rw [List.getElem?_map, hp, Option.map_some]
  rw [Database.findPVCs, mem_scan, hv]
  simp [Version.visible]

theorem findPVCsAt_ofRegistry {tx : Party} {r : AgentRow} (hrow : reg.row agent.id = some r)
    (hplace : r.place = agent.place) :
    (Database.ofRegistry Party reg).findPVCsAt tx agent.place =
      (Database.ofRegistry Party reg).findPVCs tx agent.id := by
  obtain ⟨hmem, hid⟩ := Registry.row_eq_some hrow
  have hagents : (Database.ofRegistry Party reg).agentsSeen tx = reg.agents.rows := by
    show (reg.agents.rows.map _).filterMap _ = _
    rw [List.filterMap_map]
    exact List.filterMap_some
  have hat : reg.agents.rows.find? (·.place = agent.place) = some r := by
    rw [← hplace]
    exact Keyed.Table.find?_of_mem hmem
  rw [Database.findPVCsAt, hagents, hat, ← hid]

/-- A transaction deletes its rows, where no other one has deleted any. -/
theorem exec_deleteRows (ns : List Nat) {db : Database Party} {tx : Party}
    (hmine : ∀ v ∈ db.pvcs, v.xmax = none ∨ v.xmax = some tx) (hactive : db.status tx = .active) :
    ∃ evs rows,
      Prog.Exec execSql Granted (Sql.deleteRows tx ns) db evs (.ok ()) { db with pvcs := rows } ∧
      ∀ k, rows[k]? = db.pvcs[k]?.map fun v => if k ∈ ns then { v with xmax := some tx } else v := by
  induction ns generalizing db with
  | nil => exact ⟨[], db.pvcs, .pure _ _, fun k => by simp⟩
  | cons n ns ih =>
    have hremove : ∀ v ∈ db.pvcs, v.remove db.status tx = { v with xmax := some tx } := by
      intro v hv
      refine if_neg ?_
      rcases hmine v hv with hnone | hsome
      · simp [hnone]
      · simp [hsome, hactive]
    have hwait : db.Blocked tx (.deleteRow n) = false := by
      rw [Database.Blocked, Option.any_eq_false_iff_get]
      intro hn
      rcases hmine _ (List.mem_of_getElem? (Option.some_get hn).symm) with hnone | hsome
      · rw [hnone, Option.any_none]
      · rw [hsome, Option.any_some, busy]
        simp
    obtain ⟨evs, rows, hexec, hrows⟩ :=
      @ih { db with pvcs := remove db.status tx n db.pvcs } (fun v' hv' => by
        obtain ⟨k, hk⟩ := List.mem_iff_getElem?.mp hv'
        obtain ⟨v, hv, -, -, hcases⟩ := remove_cases hk
        have hv := hmine v (List.mem_of_getElem? hv)
        rcases hcases with ⟨-, hsame⟩ | ⟨-, ⟨hnew, -⟩ | ⟨hsame, -⟩⟩
        · rwa [hsame]
        · exact .inr hnew
        · rwa [hsame]) hactive
    refine ⟨_, rows, .call (c := ({} : Env)) (.inr hwait) hexec, fun k => ?_⟩
    rw [hrows k, getElem?_remove]
    cases hk : db.pvcs[k]? with
    | none => simp
    | some v =>
      have hv := hremove v (List.mem_of_getElem? hk)
      by_cases hkn : n = k
      · simp [hkn, hv]
      · simp [hkn, Ne.symm hkn]

/-- The registration, up to where it writes the agent. -/
theorem run_toUpsertAgent (now now' : Time) (pvcs : List PVCInfo) {r : AgentRow}
    (hrow : reg.row agent.id = some r) (hplace : r.place = agent.place) :
    ∃ tr cfg, Run execSql (fun _ => Granted) (replacingOn now now' agent pvcs reg) tr cfg ∧
      (cfg.procs .upsert).next? = some ⟨.upsert, .upsertAgent agent.toAgentRow⟩ ∧
      cfg.procs .heartbeat = replacing now now' agent pvcs .heartbeat ∧
      ∃ rows, cfg.state = { Database.ofRegistry Party reg with pvcs := rows } ∧
        ∀ k : Nat, rows[k]? = reg.pvcs.rows[k]?.map fun p =>
          (⟨p, none, if p.agentID = agent.id then some .upsert else none⟩ : Version Party PVCRow) := by
  have hfree : ∀ v ∈ (Database.ofRegistry Party reg).pvcs, v.xmax = none ∨ v.xmax = some .upsert := by
    intro v hv
    obtain ⟨p, -, rfl⟩ := List.mem_map.mp hv
    exact .inl rfl
  have hstart : Run execSql (fun _ => Granted) (replacingOn now now' agent pvcs reg) [] _ := .init
  have hbegin := Run.step hstart (i := Party.upsert) (c := {}) rfl (.inr rfl)
  have hfind := Run.step hbegin (i := Party.upsert) (c := {}) rfl (.inr rfl)
  obtain ⟨evs, rows, hexec, hrows⟩ :=
    exec_deleteRows ((Database.ofRegistry Party reg).findPVCsAt .upsert agent.place) hfree rfl
  obtain ⟨tr, hrest⟩ := Run.then_exec hfind (i := Party.upsert) hexec (by
    show (Sql.deleteRows _ _ >>= _) >>= _ = _
    exact Prog.bind_assoc ..)
  refine ⟨tr, _, hrest, rfl, rfl, rows, rfl, fun k => ?_⟩
  have hat : (Database.ofRegistry Party reg).findPVCsAt .upsert agent.place = _ :=
    findPVCsAt_ofRegistry hrow hplace
  rw [hrows k, hat]
  show (reg.pvcs.rows.map _)[k]?.map _ = _
  rw [List.getElem?_map, Option.map_map]
  cases hp : reg.pvcs.rows[k]? with
  | none => rfl
  | some p =>
    have hfound := mem_findPVCs_ofRegistry Party.upsert agent.id hp
    by_cases hown : p.agentID = agent.id
    · simp [hfound, hown]
    · simp [hfound, hown]

/-- And the heartbeat, up to where it deletes a row. -/
theorem run_toDeleteRow {tr : SqlTrace} {cfg : SqlConfig}
    (hrun : Run execSql (fun _ => Granted) (replacingOn now now' agent pvcs reg) tr cfg)
    (hheartbeat : cfg.procs .heartbeat = replacing now now' agent pvcs .heartbeat)
    (hfree : cfg.state.Blocked .heartbeat (.updateAgent now' agent.id) = false)
    {n : Nat} {ns : List Nat} (hfind : cfg.state.findPVCs .heartbeat agent.id = n :: ns) :
    ∃ tr' cfg', Run execSql (fun _ => Granted) (replacingOn now now' agent pvcs reg) tr' cfg' ∧
      cfg'.procs .upsert = cfg.procs .upsert ∧
      (cfg'.procs .heartbeat).next? = some ⟨.heartbeat, .deleteRow n⟩ ∧
      cfg'.state = cfg.state.updateAgent .heartbeat now' agent.id := by
  have hbegin := Run.step hrun (i := Party.heartbeat) (c := {}) hheartbeat (.inr rfl)
  have hwrite := Run.step hbegin (i := Party.heartbeat) (c := {}) rfl (.inr hfree)
  have hscan := Run.step hwrite (i := Party.heartbeat) (c := {}) rfl (.inr rfl)
  refine ⟨_, _, hscan, rfl, ?_, rfl⟩
  show ((Sql.deleteRows Party.heartbeat (cfg.state.findPVCs .heartbeat agent.id) >>= _) >>= _).next? = _
  rw [hfind]
  rfl

/-- Then each of the two waits for the other. -/
theorem deadlocked_of_stored {r : AgentRow} (hrow : reg.row agent.id = some r)
    (hplace : r.place = agent.place) (hsome : reg.inventory agent.id ≠ []) :
    ∃ tr cfg, Run execSql (fun _ => Granted) (replacingOn now now' agent pvcs reg) tr cfg ∧
      Deadlocked cfg := by
  obtain ⟨tr, cfg, hrun, hupsert, hheartbeat, rows, hstate, hrows⟩ :=
    run_toUpsertAgent now now' pvcs hrow hplace
  obtain ⟨hmem, hid⟩ := Registry.row_eq_some hrow
  have hcell : (⟨some r, none⟩ : Cell Party AgentRow) ∈ cfg.state.agents := by
    rw [hstate]
    exact List.mem_map_of_mem hmem
  -- the heartbeat still finds what the registration has deleted
  obtain ⟨p, hp⟩ := List.exists_mem_of_ne_nil _ hsome
  obtain ⟨hp, hown⟩ := List.mem_filter.mp hp
  obtain ⟨k, hk⟩ := List.mem_iff_getElem?.mp hp
  have hfinds : k ∈ cfg.state.findPVCs .heartbeat agent.id := by
    have hat : cfg.state.pvcs[k]? = some ⟨p, none, some .upsert⟩ := by
      rw [hstate, hrows k, hk, Option.map_some, if_pos (of_decide_eq_true hown)]
    refine mem_scan.mpr ⟨_, hat, ?_, hown⟩
    rw [hstate]
    rfl
  have hfree : cfg.state.Blocked .heartbeat (.updateAgent now' agent.id) = false := by
    rw [hstate, Database.Blocked, List.any_eq_false]
    intro c hc
    obtain ⟨r', -, rfl⟩ := List.mem_map.mp hc
    exact Bool.false_ne_true
  cases hns : cfg.state.findPVCs .heartbeat agent.id with
  | nil =>
    rw [hns] at hfinds
    cases hfinds
  | cons n ns =>
    obtain ⟨tr', cfg', hrun', hsame, hnext, hend⟩ := run_toDeleteRow hrun hheartbeat hfree hns
    have hn : n ∈ cfg.state.findPVCs .heartbeat agent.id := by
      rw [hns]
      exact List.mem_cons_self
    obtain ⟨v, hv, -, hid'⟩ := mem_scan.mp hn
    refine ⟨tr', cfg', hrun', fun i => ?_⟩
    cases i with
    | upsert =>
      refine ⟨_, hsame ▸ hupsert, ?_⟩
      rw [hend]
      refine List.any_eq_true.mpr ⟨_, List.mem_map_of_mem hcell, ?_⟩
      have hdraft : (Cell.write Party.heartbeat (·.id = agent.id) (AgentRow.setHealthy now')
          ⟨some r, none⟩).draft = some (.heartbeat, r.setHealthy now') :=
        Cell.write_of_seenBy rfl (decide_eq_true hid)
      simp [Cell.heldFrom, Cell.mentions, hdraft, Cell.row_write, hplace]
    | heartbeat =>
      refine ⟨_, hnext, ?_⟩
      rw [hend]
      show cfg.state.pvcs[n]?.any _ = true
      have hv' := hv
      rw [hstate] at hv'
      obtain ⟨p', hp', rfl⟩ := Option.map_eq_some_iff.mp ((hrows n).symm.trans hv')
      rw [hv, if_pos (of_decide_eq_true hid'), hstate]
      rfl

/-- The two transactions can run into a deadlock exactly if the agent has volumes stored. -/
theorem deadlock_iff {r : AgentRow} (hrow : reg.row agent.id = some r) (hplace : r.place = agent.place) :
    (∃ tr cfg, Run execSql (fun _ => Granted) (replacingOn now now' agent pvcs reg) tr cfg ∧
      Deadlocked cfg) ↔ reg.inventory agent.id ≠ [] := by
  constructor
  · rintro ⟨tr, cfg, hrun, hdead⟩ hempty
    exact not_deadlocked_of_empty hrow hplace hempty hrun hdead
  · exact deadlocked_of_stored hrow hplace

/-- An agent with one volume. -/
theorem deadlock_sampleRegistry :
    ∃ tr cfg, Run execSql (fun _ => Granted)
        (replacingOn 5 5 sampleAgain [] (sampleRegistry [samplePVC "old"] (by decide))) tr cfg ∧
      Deadlocked cfg :=
  (deadlock_iff (r := sampleRow) (by decide) rfl).mpr (by decide)

end

end Katapult
