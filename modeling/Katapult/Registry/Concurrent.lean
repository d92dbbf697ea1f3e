/-
  Katapult.Registry.Concurrent

  Registrations, heartbeats and evaluations, interleaved call by call.

  A registration decides on a row that it read before, and its upsert then
  overwrites whatever the place holds.  So what can go wrong is another
  registration in the gap between the two: `Unraced` says that nothing harmful
  was stored there.  The identifier and the namespace of a place are then fixed
  once they are there, by one argument about columns.

  A heartbeat decides on a row that it read before, too.  What can go wrong
  there is an evaluation in the gap (`Uninterrupted`).
-/

import Katapult.Registry.Place

namespace Katapult

open Effect

abbrev RegistryTrace (ι : Type) : Type := Trace ι RegistryCall RegistryCall.Ans

abbrev RegistryConfig (ι : Type) : Type :=
  Config RegistryCall RegistryCall.Ans ServiceResponse ι Registry

variable {ι : Type}

/-- A family of calls that are all under way, on one registry. -/
def concurrently [UUIDText] (calls : ι → ServiceCall) (reg : Registry) : RegistryConfig ι where
  procs i := (calls i).serve
  state := reg

/-- Between the read of a registration and its own write, no registration
    stores anything `harmful` in the place. -/
def Unraced (harmful : AgentRow → AgentRow → Prop) (tr : RegistryTrace ι) : Prop :=
  ∀ past i existing between (agent : Agent) rest,
    tr = past ++ (i, ⟨.getAgentByClusterAndNode agent.clusterID agent.nodeName, .ok existing⟩) ::
      (between ++ (i, ⟨.upsertAgent agent, .ok ()⟩) :: rest) →
    ∀ e ∈ between, ∀ other ∈ RegistryEv.assigns agent.place e.2, ¬ harmful agent.toAgentRow other

theorem Unraced.mono {harmful harmful' : AgentRow → AgentRow → Prop} {tr : RegistryTrace ι}
    (h : Unraced harmful tr) (hsub : ∀ own other, harmful' own other → harmful own other) :
    Unraced harmful' tr :=
  fun past i existing between agent rest htr e he other hother hharm =>
    h past i existing between agent rest htr e he other hother (hsub _ _ hharm)

theorem Unraced.of_append {harmful : AgentRow → AgentRow → Prop} {tr tr' : RegistryTrace ι}
    (h : Unraced harmful (tr ++ tr')) : Unraced harmful tr := by
  rintro past i existing between agent rest rfl
  refine h past i existing between agent (rest ++ tr') ?_
  simp

/-- The entry stores a registration. -/
def storesAgent {ι : Type} (e : ι × RegistryEv) : Bool :=
  match e.2 with
  | ⟨.upsertAgent _, .ok _⟩ => true
  | _ => false

/-- A registration that is stored before the write of another one makes two. -/
theorem two_le_countP_storesAgent {between rest : RegistryTrace ι} {e : ι × RegistryEv} {i : ι}
    {agent : Agent} {place : String × String} {other : AgentRow} (he : e ∈ between)
    (hother : other ∈ RegistryEv.assigns place e.2) :
    2 ≤ (between ++ (i, ⟨.upsertAgent agent, .ok ()⟩) :: rest).countP storesAgent := by
  obtain ⟨agent', hev, -, -⟩ := RegistryEv.assigns_eq_some hother
  obtain ⟨before, after, rfl⟩ := List.append_of_mem he
  have hstores : storesAgent e = true := by
    rw [storesAgent, hev]
  have hown : storesAgent ((i, ⟨.upsertAgent agent, .ok ()⟩) : ι × RegistryEv) = true := rfl
  simp only [List.countP_append, List.countP_cons, hstores, hown, if_true]
  omega

/-- Two registrations, one after the other, do not race. -/
theorem unraced_append {harmful : AgentRow → AgentRow → Prop} {tr tr' : RegistryTrace ι} {i j : ι}
    (hij : i ≠ j) (hfst : ∀ e ∈ tr, e.1 = i) (hsnd : ∀ e ∈ tr', e.1 = j)
    (h : tr.countP storesAgent ≤ 1) (h' : tr'.countP storesAgent ≤ 1) :
    Unraced harmful (tr ++ tr') := by
  intro past l existing between agent rest htr e he other hother
  have htwo : ∀ rest : RegistryTrace ι,
      2 ≤ (between ++ (l, ⟨.upsertAgent agent, .ok ()⟩) :: rest).countP storesAgent :=
    fun rest => two_le_countP_storesAgent he hother
  -- the read is in the second part, or it is the first one's
  rcases List.append_eq_append_iff.mp htr with ⟨c, rfl, hc⟩ | ⟨c, rfl, hc⟩
  · specialize htwo rest
    rw [hc] at h'
    simp only [List.countP_append, List.countP_cons] at h' htwo
    omega
  rcases c with _ | ⟨e', c⟩
  · specialize htwo rest
    rw [List.nil_append] at hc
    rw [← hc] at h'
    simp only [List.countP_append, List.countP_cons] at h' htwo
    omega
  obtain ⟨rfl, hrest⟩ := List.cons.inj hc
  have hl : l = i := hfst (l, _) (List.mem_append_right _ List.mem_cons_self)
  -- and so is its write
  have hwrite : (l, ⟨.upsertAgent agent, .ok ()⟩) ∉ tr' := fun hmem => hij (hl.symm.trans (hsnd _ hmem))
  rcases List.append_eq_append_iff.mp hrest with ⟨d, rfl, hd⟩ | ⟨d, rfl, hd⟩
  · rcases d with _ | ⟨e', d⟩
    · rw [List.nil_append] at hd
      exact absurd (hd ▸ List.mem_cons_self) hwrite
    · obtain ⟨rfl, rfl⟩ := List.cons.inj hd
      specialize htwo d
      simp only [List.countP_append, List.countP_cons] at h htwo
      omega
  · exact absurd (hd ▸ List.mem_append_right _ List.mem_cons_self) hwrite

/-! ## Columns over runs -/

section Columns

variable [DecidableEq ι] {ok : ι → Env → RegistryCall → Registry → Prop}
variable {β : Type} {f : AgentRow → β} {binding : β → Prop}

/-- After any steps, a column holds what it held, or what a registration has stored. -/
theorem column_eq_or_assigned (hf : Column f binding) {cfg₀ cfg : RegistryConfig ι}
    {tr : RegistryTrace ι} (place : String × String) (hrun : Run execRegistry ok cfg₀ tr cfg) :
    (cfg.state.rowAt place).map f = (cfg₀.state.rowAt place).map f ∨
      ∃ e ∈ tr, ∃ r ∈ RegistryEv.assigns place e.2, (cfg.state.rowAt place).map f = some (f r) := by
  induction hrun with
  | init => exact .inl rfl
  | @step tr cfg i env op k _ _ _ ih =>
    simp only [Config.step, Registry.rowAt_exec, hf.map_onPlace]
    cases hassigns : RegistryEv.assigns place ⟨op, (execRegistry env op cfg.state).1⟩ with
    | some r => exact .inr ⟨_, List.mem_append_right _ List.mem_cons_self, r, hassigns, rfl⟩
    | none =>
      rw [Option.map_none, Option.none_or]
      rcases ih with hsame | ⟨e, he, r, hr, hcolumn⟩
      · exact .inl hsame
      · exact .inr ⟨e, List.mem_append_left _ he, r, hr, hcolumn⟩

/-- Since a read of the place, a column holds what was read, or what a
    registration has stored since. -/
theorem column_since_read (hf : Column f binding) {cfg₀ cfg : RegistryConfig ι}
    {past between : RegistryTrace ι} {i : ι} {clusterID nodeName : String} {existing : Option Agent}
    (hrun : Run execRegistry ok cfg₀
      (past ++ (i, ⟨.getAgentByClusterAndNode clusterID nodeName, .ok existing⟩) :: between) cfg) :
    (cfg.state.rowAt (clusterID, nodeName)).map f = existing.map (f ·.toAgentRow) ∨
      ∃ e ∈ between, ∃ r ∈ RegistryEv.assigns (clusterID, nodeName) e.2,
        (cfg.state.rowAt (clusterID, nodeName)).map f = some (f r) := by
  obtain ⟨cfg₁, env, op, k, -, -, -, hread, hrest⟩ := hrun.split
  obtain ⟨rfl, hanswer⟩ := Sigma.mk.inj hread
  have hfound : existing.map (f ·.toAgentRow) =
      (cfg₁.state.rowAt (clusterID, nodeName)).map f := by
    have hanswer : (.ok existing : Except Err (Option Agent)) =
        env.answer ((cfg₁.state.rowAt (clusterID, nodeName)).map cfg₁.state.withPVCs) :=
      eq_of_heq hanswer
    cases hfail : env.fail with
    | some err =>
      rw [Env.answer_of_fail hfail] at hanswer
      cases hanswer
    | none =>
      rw [Env.answer_of_ok hfail] at hanswer
      rw [Except.ok.inj hanswer, Option.map_map]
      rfl
  -- the read itself leaves the registry alone
  have hsince := column_eq_or_assigned hf (clusterID, nodeName) hrest
  rw [hfound]
  exact hsince

variable [UUIDText] {calls : ι → ServiceCall} {reg : Registry} {cfg cfg' : RegistryConfig ι}
variable {tr tr' : RegistryTrace ι}

/-- What an unraced registration writes over a binding value is the same value. -/
theorem rewrites_of_unraced (hf : Column f binding) {i : ι} {agent : Agent}
    {k : RegistryCall.Ans (.upsertAgent agent) → Registrar ServiceResponse} {old : AgentRow}
    (hrun : Run execRegistry ok (concurrently calls reg) tr cfg)
    (hnext : cfg.procs i = .call (.upsertAgent agent) k)
    (hunraced : Unraced (fun own other => binding (f other) ∧ f other ≠ f own)
      (tr ++ [(i, ⟨.upsertAgent agent, .ok ()⟩)]))
    (hrow : cfg.state.rowAt agent.place = some old) (hbinding : binding (f old)) :
    f agent.toAgentRow = f old := by
  obtain ⟨-, hobeys⟩ := hrun.obeys_local i (calls i).obeyed_serve
  rw [hnext, foldl_history] at hobeys
  obtain ⟨-, -, existing, hmem, hsucceeds⟩ := hobeys.1
  -- the read is in the history, and the rest of it is the gap
  obtain ⟨past, between, rfl⟩ := List.append_of_mem (Trace.mem_local.mp hmem)
  have hcolumn := column_since_read hf hrun
  have hold : (cfg.state.rowAt (agent.clusterID, agent.nodeName)).map f = some (f old) := by
    rw [show (agent.clusterID, agent.nodeName) = agent.place from rfl, hrow]
    rfl
  rw [hold] at hcolumn
  rcases hcolumn with hread | ⟨e, he, r, hr, hstored⟩
  · -- nothing has changed since
    obtain ⟨found, hfound, hsame⟩ := Option.map_eq_some_iff.mp hread.symm
    rw [← hsame] at hbinding ⊢
    exact hf.rewrites _ _ (hsucceeds found hfound) hbinding
  · have hharmless := hunraced past i existing between agent [] (by simp) e he r hr
    have hsame : f old = f r := Option.some.inj hstored
    by_contra hne
    exact hharmless ⟨hsame ▸ hbinding, fun heq => hne (heq ▸ hsame.symm)⟩

/-- In an unraced run, a binding value stays. -/
theorem column_stays (hf : Column f binding) {place : String × String} {b : β}
    (hrun : Run execRegistry ok (concurrently calls reg) tr cfg)
    (hrun' : Run execRegistry ok cfg tr' cfg')
    (hunraced : Unraced (fun own other => binding (f other) ∧ f other ≠ f own) (tr ++ tr'))
    (hcolumn : (cfg.state.rowAt place).map f = some b) (hbinding : binding b) :
    (cfg'.state.rowAt place).map f = some b := by
  induction hrun' with
  | init => exact hcolumn
  | @step tr' cfg' i env op k hrest hnext hok ih =>
    have hpast : Unraced (fun own other => binding (f other) ∧ f other ≠ f own) (tr ++ tr') := by
      rw [← List.append_assoc] at hunraced
      exact hunraced.of_append
    have hstays := ih hpast
    simp only [Config.step, Registry.rowAt_exec, hf.map_onPlace]
    cases hassigns : RegistryEv.assigns place ⟨op, (execRegistry env op cfg'.state).1⟩ with
    | none => rw [Option.map_none, Option.none_or, hstays]
    | some r =>
      obtain ⟨agent, hev, rfl, rfl⟩ := RegistryEv.assigns_eq_some hassigns
      obtain ⟨rfl, -⟩ := Sigma.mk.inj hev
      obtain ⟨old, hold, rfl⟩ := Option.map_eq_some_iff.mp hstays
      rw [hev, ← List.append_assoc] at hunraced
      have hsame := rewrites_of_unraced hf (hrun.trans hrest) hnext hunraced hold hbinding
      rw [Option.map_some, Option.some_or, hsame]

end Columns

/-! ## The namespace of a place -/

/-- Immutable namespace binding, in every run of which the given holds: a
    namespace, once there is one, never changes. -/
def NamespaceBound [DecidableEq ι] [UUIDText] (given : RegistryTrace ι → Prop)
    (calls : ι → ServiceCall) (reg : Registry) : Prop :=
  ∀ tr tr' cfg cfg' place ns,
    Run execRegistry (fun _ => anyEnv) (concurrently calls reg) tr cfg →
    Run execRegistry (fun _ => anyEnv) cfg tr' cfg' → given (tr ++ tr') →
    (cfg.state.rowAt place).map AgentRow.jwtNamespace = some ns → ns ≠ "" →
    (cfg'.state.rowAt place).map AgentRow.jwtNamespace = some ns

/-- Another registration gives the place a namespace that is not this one's. -/
def OtherNamespace (own other : AgentRow) : Prop :=
  other.jwtNamespace ≠ "" ∧ other.jwtNamespace ≠ own.jwtNamespace

/-- Any calls on any registry: namespaces are bound in every run in which no
    registration stores another namespace between the read and the write of one. -/
theorem namespaceBound_of_unraced [DecidableEq ι] [UUIDText] (calls : ι → ServiceCall)
    (reg : Registry) : NamespaceBound (Unraced OtherNamespace) calls reg :=
  fun _ _ _ _ _ _ hrun hrun' hunraced hns hne =>
    column_stays column_jwtNamespace hrun hrun' hunraced hns hne

/-! ## The identifier of a place -/

/-- Stable agent identity, in one state: all registrations of a place that have
    returned an identifier have returned the same, and it is the one stored. -/
structure StableIdentity (calls : ι → ServiceCall) (cfg : RegistryConfig ι) : Prop where
  same : ∀ i j place id id', (calls i).place = some place → (calls j).place = some place →
    cfg.procs i = .pure (.registered (.ok id)) → cfg.procs j = .pure (.registered (.ok id')) →
    id = id'
  stored : ∀ i place id, (calls i).place = some place →
    cfg.procs i = .pure (.registered (.ok id)) →
    (cfg.state.rowAt place).map AgentRow.id = some id

/-- Another registration gives the place an identifier that is not this one's. -/
def OtherIdentity (own other : AgentRow) : Prop := other.id ≠ own.id

/-- Any calls on any registry: identities are stable in every state of every run
    in which no registration stores another identifier between the read and the
    write of one. -/
theorem stableIdentity_of_unraced [DecidableEq ι] [UUIDText] {calls : ι → ServiceCall}
    {reg : Registry} {tr : RegistryTrace ι} {cfg : RegistryConfig ι}
    (hrun : Run execRegistry (fun _ => anyEnv) (concurrently calls reg) tr cfg)
    (hunraced : Unraced OtherIdentity tr) : StableIdentity calls cfg := by
  have hstored : ∀ i place id, (calls i).place = some place →
      cfg.procs i = .pure (.registered (.ok id)) →
      (cfg.state.rowAt place).map AgentRow.id = some id := by
    intro i place id hplace hreturned
    obtain ⟨-, hdone⟩ := hrun.obeys_local i (calls i).obeyed_serve
    rw [hreturned, foldl_history] at hdone
    obtain ⟨agent, hmem, hplace', rfl⟩ := hdone id rfl
    obtain rfl : place = agent.place := Option.some.inj (hplace.symm.trans hplace')
    -- cut the run where the identifier was stored
    obtain ⟨tr₁, tr₂, rfl⟩ := List.append_of_mem (Trace.mem_local.mp hmem)
    obtain ⟨cfg₁, env, op, k, hrun₁, hnext, -, hwrite, hrest⟩ := hrun.split
    obtain ⟨rfl, hanswer⟩ := Sigma.mk.inj hwrite
    have hok : (execRegistry env (.upsertAgent agent) cfg₁.state).1 = .ok () :=
      (eq_of_heq hanswer).symm
    have hset : ((cfg₁.step execRegistry i env (.upsertAgent agent) k).state.rowAt agent.place).map
        AgentRow.id = some agent.id := by
      show ((execRegistry env (.upsertAgent agent) cfg₁.state).2.rowAt agent.place).map _ = _
      rw [Registry.rowAt_exec, column_id.map_onPlace, hok, RegistryEv.assigns_upsertAgent,
        Option.map_some, Option.some_or]
    refine column_stays column_id (Run.step hrun₁ hnext trivial) hrest ?_ hset trivial
    rw [hok, List.append_assoc]
    exact hunraced.mono fun own other h => h.2
  refine ⟨fun i j place id id' hi hj hid hid' => ?_, hstored⟩
  have hsame := (hstored i place id hi hid).symm.trans (hstored j place id' hj hid')
  exact Option.some.inj hsame

/-! ## The way out of disconnection -/

/-- The row of the place is disconnected before, and not after. -/
def LeavesDisconnected (place : String × String) (reg reg' : Registry) : Prop :=
  (reg.rowAt place).map AgentRow.state = some .disconnected ∧
    (reg'.rowAt place).map AgentRow.state ≠ some .disconnected

instance (place : String × String) (reg reg' : Registry) :
    Decidable (LeavesDisconnected place reg reg') :=
  inferInstanceAs (Decidable (_ ∧ _))

/-- A heartbeat is not written while its agent is stored as disconnected. -/
def HeartbeatTimely (_ : Env) : RegistryCall → Registry → Prop
  | .updateHeartbeat agentID _, reg => ∀ r, reg.row agentID = some r → r.state ≠ .disconnected
  | _, _ => True

/-- One call: only a registration or an untimely heartbeat takes a row out of
    disconnection. -/
theorem upsert_of_leavesDisconnected {env : Env} {op : RegistryCall} {reg : Registry}
    {place : String × String} (htimely : HeartbeatTimely env op reg)
    (hleaves : LeavesDisconnected place reg (execRegistry env op reg).2) :
    ∃ agent : Agent, op = .upsertAgent agent ∧ agent.place = place := by
  obtain ⟨hbefore, hafter⟩ := hleaves
  obtain ⟨r, hrow, hdisc⟩ := Option.map_eq_some_iff.mp hbefore
  have hstays : op.onPlace env.now place (some r) (execRegistry env op reg).1 ≠ some r := by
    intro hsame
    rw [Registry.rowAt_exec, hrow, hsame, Option.map_some, hdisc] at hafter
    exact hafter rfl
  generalize (execRegistry env op reg).1 = a at hstays
  cases op with
  | upsertAgent agent =>
    by_cases hplace : agent.place = place
    · exact ⟨agent, rfl, hplace⟩
    · rcases a with err | _
      · exact absurd rfl hstays
      · exact absurd (if_neg hplace) hstays
  | updateHeartbeat agentID pvcs =>
    rcases a with err | _
    · exact absurd rfl hstays
    by_cases hid : r.id = agentID
    · -- the statement that looks at no state
      subst hid
      exact absurd hdisc (htimely r (Registry.row_of_rowAt hrow))
    · exact absurd (by simp [RegistryCall.onPlace, hid]) hstays
  | markUnhealthy cutoff =>
    -- neither evaluation changes a row that is disconnected
    rcases a with err | n
    · exact absurd rfl hstays
    · exact absurd (by simp [RegistryCall.onPlace, Registry.stale, hdisc]) hstays
  | markDisconnected cutoff =>
    rcases a with err | n
    · exact absurd rfl hstays
    · exact absurd (by simp [RegistryCall.onPlace, Registry.stale, hdisc]) hstays
  | _ => exact absurd rfl hstays

/-- Apart from a call that disconnects agents, nothing leaves an agent stored as
    disconnected that was not. -/
theorem state_exec_ne_disconnected {env : Env} {op : RegistryCall} {reg : Registry} {id : UUID}
    (hbefore : ∀ r, reg.row id = some r → r.state ≠ .disconnected)
    (hupsert : ∀ agent, op = .upsertAgent agent → agent.state = .healthy)
    (hmark : ∀ cutoff n, (⟨op, (execRegistry env op reg).1⟩ : RegistryEv) ≠
      ⟨.markDisconnected cutoff, .ok n⟩) :
    ∀ r, (execRegistry env op reg).2.row id = some r → r.state ≠ .disconnected := by
  intro r' hrow'
  obtain ⟨hmem, hid⟩ := Registry.row_eq_some hrow'
  have hat : (execRegistry env op reg).2.rowAt r'.place = some r' := Keyed.Table.find?_of_mem hmem
  rw [Registry.rowAt_exec] at hat
  generalize (execRegistry env op reg).1 = a at hat hmark
  -- the agent has not moved: what stood in the place before is its row, or no row of it
  have hold : ∀ r, reg.rowAt r'.place = some r → r.id = id → r.state ≠ .disconnected := by
    intro r hrow hr
    exact hbefore r (hr ▸ Registry.row_of_rowAt hrow)
  cases op with
  | upsertAgent agent =>
    rcases a with err | _
    · exact hold r' hat hid
    by_cases hplace : agent.place = r'.place
    · rw [RegistryCall.onPlace, if_pos hplace] at hat
      have hstate : r'.state = .healthy := by
        rw [← hupsert agent rfl, ← Option.some.inj hat]
        cases reg.rowAt r'.place with
        | none => rfl
        | some old => rfl
      rw [hstate]
      decide
    · rw [RegistryCall.onPlace, if_neg hplace] at hat
      exact hold r' hat hid
  | updateHeartbeat agentID pvcs =>
    rcases a with err | _
    · exact hold r' hat hid
    obtain ⟨r, hrow, hset⟩ := Option.map_eq_some_iff.mp hat
    by_cases hr : r.id = agentID
    · rw [if_pos hr] at hset
      rw [← hset]
      intro hdisconnected
      cases hdisconnected
    · rw [if_neg hr] at hset
      exact hset ▸ hold r hrow (hset ▸ hid)
  | markUnhealthy cutoff =>
    rcases a with err | n
    · exact hold r' hat hid
    obtain ⟨r, hrow, hset⟩ := Option.map_eq_some_iff.mp hat
    split at hset
    · rw [← hset]
      intro hdisconnected
      cases hdisconnected
    · exact hset ▸ hold r hrow (hset ▸ hid)
  | markDisconnected cutoff =>
    rcases a with err | n
    · exact hold r' hat hid
    · exact absurd rfl (hmark cutoff n)
  | _ => exact hold r' hat hid

/-- The same over the steps of any calls. -/
theorem state_run_ne_disconnected [DecidableEq ι] {ok : ι → Env → RegistryCall → Registry → Prop}
    {id : UUID} {tr : RegistryTrace ι} {cfg cfg' : RegistryConfig ι}
    (hrun : Run execRegistry ok cfg tr cfg')
    (hbefore : ∀ r, cfg.state.row id = some r → r.state ≠ .disconnected)
    (hupsert : ∀ e ∈ tr, ∀ agent, e.2.1 = .upsertAgent agent → agent.state = .healthy)
    (hmark : ∀ e ∈ tr, ∀ cutoff n, e.2 ≠ ⟨.markDisconnected cutoff, .ok n⟩) :
    ∀ r, cfg'.state.row id = some r → r.state ≠ .disconnected := by
  induction hrun with
  | init => exact hbefore
  | step _ _ _ ih =>
    have hpast := ih (fun e he => hupsert e (List.mem_append_left _ he))
      fun e he => hmark e (List.mem_append_left _ he)
    exact state_exec_ne_disconnected hpast
      (hupsert _ (List.mem_append_right _ List.mem_cons_self))
      (hmark _ (List.mem_append_right _ List.mem_cons_self))

/-- No evaluation has marked agents as disconnected between the read of a
    heartbeat and its write, which is the next call. -/
def Uninterrupted (tr : RegistryTrace ι) (i : ι) : RegistryCall → Prop
  | .updateHeartbeat agentID _ => ∀ past agent between,
      tr = past ++ (i, ⟨.getAgentByID agentID, .ok (some agent)⟩) :: between →
      ∀ e ∈ between, ∀ cutoff n, e.2 ≠ ⟨.markDisconnected cutoff, .ok n⟩
  | _ => True

/-- A heartbeat that has not been interrupted is timely: the agent was not
    disconnected when it was read. -/
theorem heartbeatTimely_of_uninterrupted [DecidableEq ι] [UUIDText] {calls : ι → ServiceCall}
    {reg : Registry} {tr : RegistryTrace ι} {cfg : RegistryConfig ι} {i : ι} {agentID : UUID}
    {pvcs : List PVCInfo}
    {k : RegistryCall.Ans (.updateHeartbeat agentID pvcs) → Registrar ServiceResponse}
    (hrun : Run execRegistry (fun _ => anyEnv) (concurrently calls reg) tr cfg)
    (hnext : cfg.procs i = .call (.updateHeartbeat agentID pvcs) k)
    (hgap : Uninterrupted tr i (.updateHeartbeat agentID pvcs)) (env : Env) :
    HeartbeatTimely env (.updateHeartbeat agentID pvcs) cfg.state := by
  obtain ⟨-, hobeys⟩ := hrun.obeys_local i (calls i).obeyed_serve
  rw [hnext, foldl_history] at hobeys
  obtain ⟨agent, hmem, hstate⟩ := hobeys.1
  obtain ⟨past, between, rfl⟩ := List.append_of_mem (Trace.mem_local.mp hmem)
  have hupsert : ∀ e ∈ between, ∀ agent, e.2.1 = .upsertAgent agent → agent.state = .healthy := by
    have hall : ∀ j, ((concurrently calls reg).procs j).All
        fun op => ∀ agent, op = .upsertAgent agent → agent.state = .healthy :=
      fun j => Prog.Obeys.all (fun h op hop agent hagent => (hagent ▸ hop).2.1)
        (calls j).obeyed_serve
    intro e he
    exact (hrun.all hall).1 e (List.mem_append_right _ (List.mem_cons_of_mem _ he))
  obtain ⟨cfg₁, env₁, op, k₁, -, -, -, hread, hrest⟩ := hrun.split
  obtain ⟨rfl, hanswer⟩ := Sigma.mk.inj hread
  -- where the agent was read, it was not disconnected
  have hbefore : ∀ r, cfg₁.state.row agentID = some r → r.state ≠ .disconnected := by
    have hanswer : (.ok (some agent) : Except Err (Option Agent)) =
        env₁.answer ((cfg₁.state.row agentID).map cfg₁.state.withPVCs) := eq_of_heq hanswer
    cases hfail : env₁.fail with
    | some err =>
      rw [Env.answer_of_fail hfail] at hanswer
      cases hanswer
    | none =>
      rw [Env.answer_of_ok hfail] at hanswer
      intro r hrow
      rw [hrow] at hanswer
      rw [Option.some.inj (Except.ok.inj hanswer)] at hstate
      exact hstate
  exact state_run_ne_disconnected hrest hbefore hupsert (hgap past agent between rfl)

/-- Any calls on any registry: in every run, a step that no evaluation has come
    in between of takes a row out of disconnection only if it is the write of a
    registration of its place. -/
theorem registers_of_leavesDisconnected [DecidableEq ι] [UUIDText] {calls : ι → ServiceCall}
    {reg : Registry} {tr : RegistryTrace ι} {cfg : RegistryConfig ι} {i : ι} {env : Env}
    {op : RegistryCall} {k : op.Ans → Registrar ServiceResponse} {place : String × String}
    (hrun : Run execRegistry (fun _ => anyEnv) (concurrently calls reg) tr cfg)
    (hnext : cfg.procs i = .call op k) (hgap : Uninterrupted tr i op)
    (hleaves : LeavesDisconnected place cfg.state (cfg.step execRegistry i env op k).state) :
    (calls i).place = some place ∧ ∃ agent, op = .upsertAgent agent := by
  have htimely : HeartbeatTimely env op cfg.state := by
    cases op with
    | updateHeartbeat agentID pvcs => exact heartbeatTimely_of_uninterrupted hrun hnext hgap env
    | _ => trivial
  obtain ⟨agent, rfl, rfl⟩ := upsert_of_leavesDisconnected htimely hleaves
  obtain ⟨-, hobeys⟩ := hrun.obeys_local i (calls i).obeyed_serve
  rw [hnext] at hobeys
  exact ⟨hobeys.1.1, agent, rfl⟩

/-! ## Sample runs -/

def sampleTools : ToolVersions := ⟨"1.35", "1.5", "5.6"⟩

/-- Two registrations of one node, with tokens of different namespaces. -/
def tworegistrations : Bool → ServiceCall
  | false => .registerAgent "east" "node-1" sampleTools [] "katapult"
  | true => .registerAgent "east" "node-1" sampleTools [] "staging"

/-- `n` steps of one call, the identifier drawn being `fresh`. -/
def steps {ι : Type} (i : ι) (fresh : UUID) (now : Time) (n : Nat) : List (ι × Env) :=
  List.replicate n (i, { uuid := fresh, now })

/-- Both registrations read the empty place, then both write. -/
theorem not_namespaceBound_race :
    ¬ ∀ calls : Bool → ServiceCall,
      @NamespaceBound Bool _ canonicalText (fun _ => True) calls .empty := by
  intro hbound
  let ok : Bool → Env → RegistryCall → Registry → Prop := fun _ => anyEnv
  let cfg₀ := @concurrently Bool canonicalText tworegistrations .empty
  let toFirst := steps false 7 0 1 ++ steps true 8 0 1 ++ steps false 7 0 4
  obtain ⟨_, hrun⟩ := Run.after execRegistry ok cfg₀ toFirst (by decide +kernel)
  obtain ⟨_, hrun'⟩ := Run.after execRegistry ok (cfg₀.after execRegistry ok toFirst)
    (steps true 8 0 4) (by decide +kernel)
  have hns := hbound tworegistrations _ _ _ _ ("east", "node-1") "katapult" hrun hrun' trivial
    (by decide +kernel) (by decide)
  revert hns
  decide +kernel

/-- The same run: both registrations return, with different identifiers. -/
theorem not_stableIdentity_race :
    ¬ ∀ (calls : Bool → ServiceCall) tr cfg,
      Run execRegistry (fun _ => anyEnv) (@concurrently Bool canonicalText calls .empty) tr cfg →
      StableIdentity calls cfg := by
  intro hstable
  let ok : Bool → Env → RegistryCall → Registry → Prop := fun _ => anyEnv
  let cfg₀ := @concurrently Bool canonicalText tworegistrations .empty
  let race := steps false 7 0 1 ++ steps true 8 0 1 ++ steps false 7 0 4 ++ steps true 8 0 4
  obtain ⟨_, hrun⟩ := Run.after execRegistry ok cfg₀ race (by decide +kernel)
  have hfirst : (cfg₀.after execRegistry ok race).procs false = .pure (.registered (.ok 7)) :=
    Prog.eq_pure_of_result? (by decide +kernel)
  have hsecond : (cfg₀.after execRegistry ok race).procs true = .pure (.registered (.ok 8)) :=
    Prog.eq_pure_of_result? (by decide +kernel)
  have hsame := (hstable _ _ _ hrun).same false true ("east", "node-1") 7 8 rfl rfl hfirst hsecond
  exact absurd hsame (by decide)

/-- A node registers twice, with tokens of one namespace. -/
def registeredAgain : Bool → ServiceCall :=
  fun _ => .registerAgent "east" "node-1" sampleTools [] "katapult"

/-- One after the other, both registrations return and keep the namespace. -/
theorem namespaceBound_registeredAgain :
    ∃ tr tr' cfg cfg',
      Run execRegistry (fun _ => anyEnv) (@concurrently Bool canonicalText registeredAgain .empty)
        tr cfg ∧
      Run execRegistry (fun _ => anyEnv) cfg tr' cfg' ∧
      cfg.procs false = .pure (.registered (.ok 7)) ∧
      cfg'.procs true = .pure (.registered (.ok 7)) ∧
      (cfg'.state.rowAt ("east", "node-1")).map AgentRow.jwtNamespace = some "katapult" := by
  let ok : Bool → Env → RegistryCall → Registry → Prop := fun _ => anyEnv
  let fst := ((@concurrently Bool canonicalText registeredAgain .empty).follow execRegistry ok
    (steps false 7 0 5)).get (by decide +kernel)
  let snd := (fst.2.follow execRegistry ok (steps true 8 0 3)).get (by decide +kernel)
  have hrun : Run execRegistry ok _ fst.1 fst.2 := .of_follow (Option.some_get _).symm
  have hrun' : Run execRegistry ok fst.2 snd.1 snd.2 := .of_follow (Option.some_get _).symm
  have hunraced : Unraced OtherNamespace (fst.1 ++ snd.1) :=
    unraced_append (i := false) (j := true) (by decide) (by decide +kernel) (by decide +kernel)
      (by decide +kernel) (by decide +kernel)
  exact ⟨_, _, _, _, hrun, hrun', Prog.eq_pure_of_result? (by decide +kernel),
    Prog.eq_pure_of_result? (by decide +kernel),
    @namespaceBound_of_unraced Bool _ canonicalText registeredAgain .empty _ _ _ _ _ _ hrun hrun'
      hunraced (by decide +kernel) (by decide)⟩

/-- The same two registrations return one identifier. -/
theorem stableIdentity_registeredAgain :
    ∃ tr cfg, Run execRegistry (fun _ => anyEnv)
        (@concurrently Bool canonicalText registeredAgain .empty) tr cfg ∧
      cfg.procs false = .pure (.registered (.ok 7)) ∧
      cfg.procs true = .pure (.registered (.ok 7)) ∧ StableIdentity registeredAgain cfg := by
  let ok : Bool → Env → RegistryCall → Registry → Prop := fun _ => anyEnv
  let fst := ((@concurrently Bool canonicalText registeredAgain .empty).follow execRegistry ok
    (steps false 7 0 5)).get (by decide +kernel)
  let snd := (fst.2.follow execRegistry ok (steps true 8 0 3)).get (by decide +kernel)
  have hfst : Run execRegistry ok _ fst.1 fst.2 := .of_follow (Option.some_get _).symm
  have hsnd : Run execRegistry ok fst.2 snd.1 snd.2 := .of_follow (Option.some_get _).symm
  have hunraced : Unraced OtherIdentity (fst.1 ++ snd.1) :=
    unraced_append (i := false) (j := true) (by decide) (by decide +kernel) (by decide +kernel)
      (by decide +kernel) (by decide +kernel)
  exact ⟨_, _, hfst.trans hsnd, Prog.eq_pure_of_result? (by decide +kernel),
    Prog.eq_pure_of_result? (by decide +kernel),
    @stableIdentity_of_unraced Bool _ canonicalText _ _ _ _ (hfst.trans hsnd) hunraced⟩

def sampleEvaluator : HealthEvaluator := ⟨90 * second, 5 * 60 * second⟩

/-- A registration, two evaluations, a heartbeat, and another registration. -/
def agentLife : Fin 5 → ServiceCall
  | 0 | 4 => .registerAgent "east" "node-1" sampleTools [] "katapult"
  | 1 | 2 => .evaluate sampleEvaluator
  | 3 => .heartbeat 7 []

/-- Registered, silent for 100 seconds when a heartbeat reads the agent, and for
    400 when it is marked disconnected. -/
def disconnectedAgent : List (Fin 5 × Env) :=
  steps 0 7 0 5 ++ steps 1 0 (100 * second) 3 ++ steps 3 0 (100 * second) 1 ++
    steps 2 0 (400 * second) 3

/-- The write of a heartbeat. -/
def RegistryCall.isHeartbeat : RegistryCall → Bool
  | .updateHeartbeat .. => true
  | _ => false

/-- The agent registers again. -/
theorem registers_of_leavesDisconnected_again :
    ∃ tr cfg op k, Run execRegistry (fun _ => anyEnv)
        (@concurrently (Fin 5) canonicalText agentLife .empty) tr cfg ∧ cfg.procs 4 = .call op k ∧
      LeavesDisconnected ("east", "node-1") cfg.state
        (cfg.step execRegistry 4 { now := 401 * second } op k).state ∧
      (agentLife 4).place = some ("east", "node-1") ∧ ∃ agent, op = .upsertAgent agent := by
  let ok : Fin 5 → Env → RegistryCall → Registry → Prop := fun _ => anyEnv
  have hend : ((@concurrently (Fin 5) canonicalText agentLife .empty).follow execRegistry ok
      (disconnectedAgent ++ steps 4 9 (401 * second) 2)).any fun out =>
      (out.2.procs 4).next?.any fun op => op.isHeartbeat = false ∧
        LeavesDisconnected ("east", "node-1") out.2.state
          (execRegistry { now := 401 * second } op out.2.state).2 := by decide +kernel
  obtain ⟨⟨tr, cfg⟩, hfollow, hstep⟩ := (Option.any_eq_true _ _).mp hend
  obtain ⟨op, hop, hstep⟩ := (Option.any_eq_true _ _).mp hstep
  obtain ⟨hother, hleaves⟩ := of_decide_eq_true hstep
  obtain ⟨k, hnext⟩ := Prog.eq_call_of_next? hop
  have hrun := Run.of_follow hfollow
  have hgap : Uninterrupted tr 4 op := by
    cases op with
    | updateHeartbeat agentID pvcs => cases hother
    | _ => trivial
  exact ⟨tr, cfg, op, k, hrun, hnext, hleaves,
    @registers_of_leavesDisconnected (Fin 5) _ canonicalText _ _ _ _ _ _ _ _ _ hrun hnext hgap
      hleaves⟩

/-- The heartbeat is written after the agent has been marked disconnected. -/
theorem not_registers_of_leavesDisconnected_late :
    ¬ ∀ (calls : Fin 5 → ServiceCall) tr cfg i env op k place,
      Run execRegistry (fun _ => anyEnv) (@concurrently (Fin 5) canonicalText calls .empty) tr cfg →
      cfg.procs i = .call op k →
      LeavesDisconnected place cfg.state (cfg.step execRegistry i env op k).state →
      (calls i).place = some place ∧ ∃ agent, op = .upsertAgent agent := by
  intro hall
  let ok : Fin 5 → Env → RegistryCall → Registry → Prop := fun _ => anyEnv
  let cfg₀ := @concurrently (Fin 5) canonicalText agentLife .empty
  obtain ⟨_, hrun⟩ := Run.after execRegistry ok cfg₀ disconnectedAgent (by decide +kernel)
  have hnext? : ((cfg₀.after execRegistry ok disconnectedAgent).procs 3).next? =
      some (.updateHeartbeat 7 []) := by decide +kernel
  obtain ⟨k, hnext⟩ := Prog.eq_call_of_next? hnext?
  have hleaves : LeavesDisconnected ("east", "node-1")
      (cfg₀.after execRegistry ok disconnectedAgent).state
      (execRegistry {} (.updateHeartbeat 7 [])
        (cfg₀.after execRegistry ok disconnectedAgent).state).2 := by
    unfold LeavesDisconnected
    decide +kernel
  obtain ⟨-, agent, hop⟩ := hall agentLife _ _ 3 {} _ k _ hrun hnext hleaves
  cases hop

end Katapult
