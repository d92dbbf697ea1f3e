/-
  Katapult.Agent.Reregistration

  A rejected heartbeat, from the registry to the client.

  `Registry.rejection` says why the server rejects a heartbeat; two of the
  reasons go away only with another registration.  What the client makes of the
  answer depends on a status code and on a phrase in the text, and only one of
  the two reasons comes with either.
-/

import Katapult.Agent.Client

namespace Katapult

open Effect

/-! ## Why a heartbeat is rejected -/

/-- The check of the server that a heartbeat fails. -/
inductive Rejection where
  | malformedID | notInRegistry | namespaceMismatch | disconnected | repeatedPVC
  deriving DecidableEq, Repr

/-- Only another registration of the agent can help. -/
def Rejection.needsRegistration : Rejection → Bool
  | .notInRegistry | .disconnected => true
  | .malformedID | .namespaceMismatch | .repeatedPVC => false

/-- The token has Kubernetes claims of another namespace than the registered one. -/
def AgentRow.foreignTo (r : AgentRow) (ctx : Context) : Bool :=
  ((claimsFromContext ctx).bind Claims.kubernetes).any fun kubernetes =>
    r.jwtNamespace ≠ "" ∧ kubernetes.namespace_ ≠ r.jwtNamespace

/-- The check of the registry that fails, if one does. -/
def Registry.serviceRejection (reg : Registry) (agentID : UUID) (pvcs : List PVCInfo) :
    Option Rejection :=
  match reg.row agentID with
  | none => some .notInRegistry
  | some r =>
    if r.state = .disconnected then some .disconnected
    else if (pvcs.map PVCInfo.pvcName).Nodup then none
    else some .repeatedPVC

/-- The first check of the server that fails, if one does. -/
def Registry.rejection [UUIDText] (reg : Registry) (ctx : Context) (req : HeartbeatRequest) :
    Option Rejection :=
  match UUIDText.parse req.agentId with
  | .error _ => some .malformedID
  | .ok agentID =>
    if (reg.row agentID).any fun r => r.foreignTo ctx then some .namespaceMismatch
    else reg.serviceRejection agentID req.pvcs

/-- No call of the repository fails. -/
def unfailing (env : Env) (_ : RegistryCall) (_ : Registry) : Prop := env.fail = none

instance (env : Env) (op : RegistryCall) (reg : Registry) : Decidable (unfailing env op reg) :=
  inferInstanceAs (Decidable (_ = _))

/-- Rejections that only a registration can cure, and no others, are taken for
    such by the client: for a heartbeat with the identifier `agentID` that the
    handler serves with the context `ctx`. -/
def RegistersWhenNeeded [UUIDText] (reg : Registry) (ctx : Context) (agentID : String)
    (pvcs : List PVCInfo) : Prop :=
  ∀ tr err reg', Prog.Exec execRegistry unfailing
      (Client.sendHeartbeat (fun _ => AgentServer.heartbeat ctx) agentID pvcs)
      reg tr (.error err) reg' →
    (isReregistrationNeeded err = true ↔
      agentID ≠ "" ∧ (reg.rejection ctx ⟨agentID, pvcs⟩).any Rejection.needsRegistration)

/-! ## The phrase in the text -/

/-- The phrase does not occur. -/
def Plain (s : String) : Prop := contains s "must re-register" = false

/-- No end of `s` begins the phrase. -/
def PlainEnd (s : String) : Prop :=
  ∀ k < "must re-register".toList.length, 0 < k → ¬ "must re-register".toList.take k <:+ s.toList

/-- No beginning of `s` ends the phrase. -/
def PlainStart (s : String) : Prop :=
  ∀ k < "must re-register".toList.length, 0 < k → ¬ "must re-register".toList.drop k <+: s.toList

instance (s : String) : Decidable (Plain s) := inferInstanceAs (Decidable (_ = _))

instance (s : String) : Decidable (PlainEnd s) := inferInstanceAs (Decidable (∀ _, _))

instance (s : String) : Decidable (PlainStart s) := inferInstanceAs (Decidable (∀ _, _))

/-- The characters of the phrase; the kernel takes long to decode a literal. -/
def phraseChars : List Char :=
  ['m', 'u', 's', 't', ' ', 'r', 'e', '-', 'r', 'e', 'g', 'i', 's', 't', 'e', 'r']

theorem phrase_toList : "must re-register".toList = phraseChars := String.toList_ofList

theorem plain_literal {cs : List Char} (h : ¬ phraseChars <:+: cs) : Plain (String.ofList cs) := by
  rw [Plain, contains, phrase_toList, String.toList_ofList]
  exact decide_eq_false h

theorem contains_literal {cs : List Char} (h : phraseChars <:+: cs) :
    contains (String.ofList cs) "must re-register" = true := by
  rw [contains, phrase_toList, String.toList_ofList]
  exact decide_eq_true h

theorem plain_literals {cs cs' : List Char} (h : ¬ phraseChars <:+: cs ++ cs') :
    Plain (String.ofList cs ++ String.ofList cs') := by
  rw [← String.ofList_append]
  exact plain_literal h

theorem plainEnd_literal {cs : List Char}
    (h : ∀ k < phraseChars.length, 0 < k → ¬ phraseChars.take k <:+ cs) :
    PlainEnd (String.ofList cs) := by
  rw [PlainEnd, phrase_toList, String.toList_ofList]
  exact h

theorem plainStart_literal {cs : List Char}
    (h : ∀ k < phraseChars.length, 0 < k → ¬ phraseChars.drop k <+: cs) :
    PlainStart (String.ofList cs) := by
  rw [PlainStart, phrase_toList, String.toList_ofList]
  exact h

theorem Plain.append_left {a b : String} (ha : Plain a) (hend : PlainEnd a) (hb : Plain b) :
    Plain (a ++ b) := by
  rw [Plain, contains_append_left hend, ha, hb]
  rfl

theorem Plain.append_right {a b : String} (ha : Plain a) (hb : Plain b) (hstart : PlainStart b) :
    Plain (a ++ b) := by
  rw [Plain, contains_append_right hstart, ha, hb]
  rfl

/-- What a status error puts in front of its message. -/
def Code.context (code : Code) : String := "rpc error: code = " ++ code.text ++ " desc = "

theorem plain_between {cs text cs' : List Char} (hplain : ¬ phraseChars <:+: cs ++ text ++ cs')
    (hend : ∀ k < phraseChars.length, 0 < k → ¬ phraseChars.take k <:+ cs ++ text ++ cs') :
    Plain (String.ofList cs ++ String.ofList text ++ String.ofList cs') ∧
      PlainEnd (String.ofList cs ++ String.ofList text ++ String.ofList cs') := by
  rw [← String.ofList_append, ← String.ofList_append]
  exact ⟨plain_literal hplain, plainEnd_literal hend⟩

theorem Code.plain_context (code : Code) : Plain code.context ∧ PlainEnd code.context := by
  cases code
  all_goals exact plain_between (by decide) (by decide)

theorem contains_statusText (s : Status) :
    contains s.text "must re-register" = contains s.message "must re-register" := by
  obtain ⟨hplain, hend⟩ := s.code.plain_context
  have hsplit : contains s.text "must re-register" =
      (contains s.code.context "must re-register" || contains s.message "must re-register") :=
    contains_append_left hend
  rw [hsplit, hplain, Bool.false_or]

/-- The client and the server put the same words in front of a failure. -/
theorem plain_heartbeatFailed : Plain "heartbeat failed: " ∧ PlainEnd "heartbeat failed: " :=
  ⟨plain_literal (by decide), plainEnd_literal (by decide)⟩

/-- What the client makes of a status is decided by its code and its message. -/
theorem isReregistrationNeeded_wrap (s : Status) :
    isReregistrationNeeded (.wrap "heartbeat failed: " s) =
      (s.code = .failedPrecondition || contains s.message "must re-register") := by
  have hsplit : contains ("heartbeat failed: " ++ s.text) "must re-register" =
      (contains "heartbeat failed: " "must re-register" || contains s.text "must re-register") :=
    contains_append_left plain_heartbeatFailed.2
  rw [plain_heartbeatFailed.1, Bool.false_or, contains_statusText] at hsplit
  simp only [isReregistrationNeeded, ClientError.wrap, hsplit, Option.map_some, Option.some.injEq]

/-! ## Answers -/

/-- How the registry answers a heartbeat, by the check that fails. -/
inductive ServiceAnswer : Option Rejection → Except Err Unit → Prop where
  | accepted : ServiceAnswer none (.ok ())
  | plain {why : Rejection} {err : Err} (hwhy : why ≠ .disconnected) (hplain : Plain err) :
      ServiceAnswer (some why) (.error err)
  | disconnected {err : Err} (hphrase : contains err "must re-register" = true) :
      ServiceAnswer (some .disconnected) (.error err)

/-- How the server does. -/
inductive ServerAnswer : Option Rejection → Except Status Unit → Prop where
  | accepted : ServerAnswer none (.ok ())
  | plain {why : Rejection} {status : Status} (hwhy : why ≠ .disconnected)
      (hcode : status.code ≠ .failedPrecondition) (hplain : Plain status.message) :
      ServerAnswer (some why) (.error status)
  | disconnected {status : Status} (hcode : status.code = .failedPrecondition) :
      ServerAnswer (some .disconnected) (.error status)

theorem ServerAnswer.ok_iff {why : Option Rejection} {a : Except Status Unit}
    (h : ServerAnswer why a) : a = .ok () ↔ why = none := by
  cases h with
  | accepted => exact iff_of_true rfl rfl
  | plain _ _ _ => exact iff_of_false nofun nofun
  | disconnected _ => exact iff_of_false nofun nofun

/-- The client finds that it must register exactly when the agent is disconnected. -/
theorem ServerAnswer.isReregistrationNeeded_iff {why : Option Rejection} {status : Status}
    (h : ServerAnswer why (.error status)) :
    isReregistrationNeeded (.wrap "heartbeat failed: " status) = true ↔
      why = some .disconnected := by
  rw [isReregistrationNeeded_wrap]
  cases h with
  | plain hwhy hcode hplain =>
    rw [show contains status.message "must re-register" = false from hplain]
    simp [hwhy, hcode]
  | disconnected hcode => simp [hcode]

/-- Identifiers, and the errors of parsing one, do not contain the phrase: the
    text form is hexadecimal digits and hyphens. -/
structure PlainIdentifiers [UUIDText] : Prop where
  text : ∀ id : UUID, Plain id.text
  parse : ∀ s err, UUIDText.parse s = .error err → Plain err

theorem Registry.updateHeartbeat_plain {now : Time} {agentID : UUID} {pvcs : List PVCInfo}
    {reg : Registry} {err : Err} (h : reg.updateHeartbeat now agentID pvcs = .error err) :
    Plain ("updating heartbeat: " ++ err) := by
  have hinsert : ∀ (pvcs : List PVCInfo) (reg : Registry),
      reg.insertPVCs agentID now pvcs = .error err → Plain ("updating heartbeat: " ++ err) := by
    intro pvcs
    induction pvcs with
    | nil =>
      intro reg h
      cases h
    | cons pvc pvcs ih =>
      intro reg h
      unfold insertPVCs at h
      split at h
      · rename_i err' hins
        cases h
        unfold insertPVC at hins
        split at hins
        · split at hins
          · cases hins
          · cases hins
            exact plain_literals (by decide +kernel)
        · cases hins
          exact plain_literals (by decide +kernel)
      · exact ih _ h
  exact hinsert pvcs _ h

section

variable [UUIDText]

theorem PlainIdentifiers.notFound (h : PlainIdentifiers) (id : UUID) :
    Plain ("agent " ++ id.text ++ " not found") :=
  ((plain_literal (by decide)).append_left (plainEnd_literal (by decide)) (h.text id)).append_right
    (plain_literal (by decide)) (plainStart_literal (by decide))

theorem Service.wp_heartbeat_answer (hids : PlainIdentifiers) (agentID : UUID) (pvcs : List PVCInfo)
    (h : List RegistryEv) (reg : Registry) :
    Prog.wp execRegistry unfailing (Service.heartbeat agentID pvcs)
      (fun a _ _ => ServiceAnswer (reg.serviceRejection agentID pvcs) a) h reg := by
  refine Prog.wp_perform fun env henv => ?_
  simp only [execRegistry, Env.answer_of_ok henv, Registry.serviceRejection]
  cases hrow : reg.row agentID with
  | none => exact .plain (by decide) (hids.notFound agentID)
  | some r =>
    dsimp only [Option.map_some]
    by_cases hstate : r.state = .disconnected
    · have hcopy : (reg.withPVCs r).state = .disconnected := hstate
      rw [if_pos hcopy, if_pos hstate]
      refine .disconnected ?_
      rw [contains_append_right (plainStart_literal (by decide)), Bool.or_eq_true]
      exact .inr (contains_literal (by decide))
    · have hcopy : (reg.withPVCs r).state ≠ .disconnected := hstate
      rw [if_neg hcopy, if_neg hstate]
      split
      · rename_i err hrefused
        exact absurd hrefused (Agent.recovery_ne_error _ err)
      refine Prog.wp_perform fun env' henv' => ?_
      have hnames := Registry.updateHeartbeat_isOk_iff env'.now pvcs hrow
      simp only [execRegistry]
      -- the transaction is refused only for an inventory that repeats a name
      cases hupdate : reg.updateHeartbeat env'.now agentID pvcs with
      | ok reg' =>
        rw [Env.write_of_ok henv' (Registry.updateHeartbeat env'.now agentID pvcs) hupdate,
          if_pos (hnames.mp ⟨reg', hupdate⟩)]
        exact .accepted
      | error err =>
        rw [Env.write_of_refused henv' (Registry.updateHeartbeat env'.now agentID pvcs) hupdate,
          if_neg fun hnodup => ?_]
        · exact .plain (by decide) (Registry.updateHeartbeat_plain hupdate)
        · obtain ⟨reg', hok⟩ := hnames.mpr hnodup
          rw [hupdate] at hok
          cases hok

/-- The handler changes nothing while it compares namespaces, and refuses an
    agent that is not there or of another namespace. -/
theorem AgentServer.wp_verifyNamespace_answer (hids : PlainIdentifiers) (ctx : Context)
    (agentID : UUID) (h : List RegistryEv) (reg : Registry) :
    Prog.wp execRegistry unfailing (AgentServer.verifyNamespace ctx agentID)
      (fun a _ reg' => reg' = reg ∧
        ((a = .ok () ∧ (reg.row agentID).any (·.foreignTo ctx) = false) ∨
          ∃ status, a = .error status ∧ status.code ≠ .failedPrecondition ∧ Plain status.message ∧
            ((reg.row agentID = none) ∨ (reg.row agentID).any (·.foreignTo ctx) = true))) h reg := by
  unfold AgentServer.verifyNamespace
  cases hclaims : (claimsFromContext ctx).bind Claims.kubernetes with
  | none =>
    -- without Kubernetes claims the registry is not asked
    refine ⟨rfl, .inl ⟨rfl, ?_⟩⟩
    have hhome : ∀ r : AgentRow, r.foreignTo ctx = false := by
      intro r
      rw [AgentRow.foreignTo, hclaims, Option.any_none]
    simp [hhome]
  | some kubernetes =>
    have hforeign : ∀ r : AgentRow, r.foreignTo ctx =
        decide (r.jwtNamespace ≠ "" ∧ kubernetes.namespace_ ≠ r.jwtNamespace) := by
      intro r
      rw [AgentRow.foreignTo, hclaims, Option.any_some]
    refine Prog.wp_perform fun env henv => ?_
    simp only [execRegistry, Env.answer_of_ok henv]
    cases hrow : reg.row agentID with
    | none =>
      have hcode : Code.notFound ≠ .failedPrecondition := by decide
      exact ⟨rfl, .inr ⟨_, rfl, hcode, hids.notFound agentID, .inl rfl⟩⟩
    | some r =>
      dsimp only [Option.map_some]
      split
      · rename_i hmismatch
        have hcode : Code.permissionDenied ≠ .failedPrecondition := by decide
        refine ⟨rfl, .inr ⟨_, rfl, hcode, ?_, .inr ?_⟩⟩
        · exact (plain_literal (by decide)).append_left (plainEnd_literal (by decide))
            (hids.text agentID)
        · rw [Option.any_some, hforeign]
          exact decide_eq_true hmismatch
      · rename_i hmatch
        refine ⟨rfl, .inl ⟨rfl, ?_⟩⟩
        rw [Option.any_some, hforeign]
        exact decide_eq_false hmatch

theorem AgentServer.wp_heartbeat_answer (hids : PlainIdentifiers) (ctx : Context)
    (req : HeartbeatRequest) (h : List RegistryEv) (reg : Registry) :
    Prog.wp execRegistry unfailing (AgentServer.heartbeat ctx req)
      (fun a _ _ => ServerAnswer (reg.rejection ctx req) a) h reg := by
  unfold AgentServer.heartbeat Registry.rejection
  cases hparse : UUIDText.parse req.agentId with
  | error err =>
    refine .plain nofun nofun ?_
    exact (plain_literal (by decide)).append_left (plainEnd_literal (by decide)) (hids.parse _ _ hparse)
  | ok agentID =>
    dsimp only
    refine (Prog.wp_bind _ _).mpr
      (Prog.wp_mono (AgentServer.wp_verifyNamespace_answer hids ctx agentID h reg) ?_)
    rintro a h₁ reg₁ ⟨rfl, ⟨rfl, hhome⟩ | ⟨status, rfl, hcode, hplain, hwhy⟩⟩
    · -- the service decides, and its text chooses the status code
      rw [hhome, if_neg Bool.false_ne_true]
      refine (Prog.wp_bind _ _).mpr
        (Prog.wp_mono (Service.wp_heartbeat_answer hids agentID req.pvcs h₁ reg₁) ?_)
      intro a h₂ reg₂ hanswer
      generalize reg₁.serviceRejection agentID req.pvcs = why at hanswer
      cases hanswer with
      | accepted => exact .accepted
      | plain hwhy hplain =>
        dsimp only
        rw [if_neg (by rw [hplain]; exact Bool.false_ne_true)]
        refine .plain hwhy nofun ?_
        exact plain_heartbeatFailed.1.append_left plain_heartbeatFailed.2 hplain
      | disconnected hphrase =>
        dsimp only
        rw [if_pos hphrase]
        exact .disconnected rfl
    · rcases hwhy with hnone | hforeign
      · rw [hnone, Option.any_none, if_neg Bool.false_ne_true, Registry.serviceRejection, hnone]
        exact .plain nofun hcode hplain
      · rw [if_pos hforeign]
        exact .plain nofun hcode hplain

/-- How `SendHeartbeat` ends, by the check of the server that fails. -/
theorem Client.wp_sendHeartbeat (hids : PlainIdentifiers) (ctx : Context) {agentID : String}
    (pvcs : List PVCInfo) (hne : agentID ≠ "") (reg : Registry) :
    Prog.wp execRegistry unfailing
      (Client.sendHeartbeat (fun _ => AgentServer.heartbeat ctx) agentID pvcs)
      (fun a _ _ => (a = .ok () ↔ reg.rejection ctx ⟨agentID, pvcs⟩ = none) ∧
        ∀ err, a = .error err → (isReregistrationNeeded err = true ↔
          reg.rejection ctx ⟨agentID, pvcs⟩ = some .disconnected)) [] reg := by
  unfold Client.sendHeartbeat
  rw [if_neg hne]
  refine (Prog.wp_bind _ _).mpr
    (Prog.wp_mono (AgentServer.wp_heartbeat_answer hids ctx ⟨agentID, pvcs⟩ [] reg) ?_)
  intro a h reg' hanswer
  rcases a with status | _
  · refine ⟨iff_of_false nofun fun hnone => ?_, fun err herr => ?_⟩
    · have hok := hanswer.ok_iff.mpr hnone
      cases hok
    · cases herr
      exact hanswer.isReregistrationNeeded_iff
  · exact ⟨iff_of_true rfl (hanswer.ok_iff.mp rfl), nofun⟩

theorem Registry.rejection_eq_notInRegistry {reg : Registry} {ctx : Context}
    {req : HeartbeatRequest} :
    reg.rejection ctx req = some .notInRegistry ↔
      ∃ id, UUIDText.parse req.agentId = .ok id ∧ reg.row id = none := by
  unfold Registry.rejection Registry.serviceRejection
  cases hparse : UUIDText.parse req.agentId with
  | error err => exact iff_of_false nofun (by simp)
  | ok agentID =>
    dsimp only
    cases hrow : reg.row agentID with
    | none => simp [hrow]
    | some r =>
      refine iff_of_false ?_ (by simp [hrow])
      rw [Option.any_some]
      split
      · nofun
      dsimp only
      split
      · nofun
      split
      · nofun
      · nofun

/-- Every registry and every heartbeat, with or without Kubernetes claims, no
    call of the repository failing: the client registers again exactly when it
    must, unless its identifier is one that the registry does not have. -/
theorem registersWhenNeeded_iff (hids : PlainIdentifiers) (reg : Registry) (ctx : Context)
    (agentID : String) (pvcs : List PVCInfo) :
    RegistersWhenNeeded reg ctx agentID pvcs ↔
      (agentID ≠ "" → ∀ id, UUIDText.parse agentID = .ok id → reg.row id ≠ none) := by
  by_cases hne : agentID = ""
  · -- the client sends nothing, and its own error is not taken for a rejection
    refine iff_of_true ?_ fun h => absurd hne h
    intro tr err reg' hrun
    unfold Client.sendHeartbeat at hrun
    rw [if_pos hne] at hrun
    cases hrun
    refine iff_of_false ?_ fun h => h.1 hne
    decide +kernel
  constructor
  · intro hregisters _ id hparse hnone
    have hwhy : reg.rejection ctx ⟨agentID, pvcs⟩ = some .notInRegistry :=
      Registry.rejection_eq_notInRegistry.mpr ⟨id, hparse, hnone⟩
    -- the one run that there is ends in an error that the client does not take for a rejection
    obtain ⟨tr, a, reg', hrun, hok, herr⟩ := Prog.may_of_wp (fun _ _ => ⟨{}, rfl⟩)
      (Client.wp_sendHeartbeat hids ctx pvcs hne reg)
    rcases a with err | _
    · have hneeded := (hregisters tr err reg' hrun).mpr ⟨hne, by rw [hwhy]; rfl⟩
      have hdisconnected := (herr err rfl).mp hneeded
      rw [hwhy] at hdisconnected
      cases hdisconnected
    · have hnone := hok.mp rfl
      rw [hwhy] at hnone
      cases hnone
  · intro hknown tr err reg' hrun
    obtain ⟨-, herr⟩ := Prog.wp_sound (Client.wp_sendHeartbeat hids ctx pvcs hne reg) hrun
    rw [herr err rfl]
    have hwhy : reg.rejection ctx ⟨agentID, pvcs⟩ ≠ some .notInRegistry := by
      intro h
      obtain ⟨id, hparse, hnone⟩ := Registry.rejection_eq_notInRegistry.mp h
      exact hknown hne id hparse hnone
    generalize reg.rejection ctx ⟨agentID, pvcs⟩ = why at hwhy
    constructor
    · rintro rfl
      exact ⟨hne, rfl⟩
    · rintro ⟨-, hneeds⟩
      cases why with
      | none => cases hneeds
      | some why =>
        cases why with
        | disconnected => rfl
        | notInRegistry => exact absurd rfl hwhy
        | _ => cases hneeds

end

/-! ## Sample heartbeats -/

theorem plainIdentifiers_canonical : @PlainIdentifiers canonicalText := by
  refine @PlainIdentifiers.mk canonicalText (fun id => ?_) fun s err h => ?_
  · refine decide_eq_false fun hinfix => ?_
    rw [phrase_toList] at hinfix
    have hm : 'm' ∈ (canonicalString id).toList := hinfix.subset (by decide)
    exact notMem_canonicalString (by decide) (by decide) id hm
  · let id : UUID := BitVec.ofNat 128 (ofHexDigits (s.toList.filter (· ≠ '-')))
    have hparse : (if canonicalString id = s then .ok id else .error "invalid UUID format" :
        Except Err UUID) = .error err := h
    split at hparse
    · cases hparse
    · cases hparse
      exact plain_literal (by decide)

/-- A request that has not passed the interceptor. -/
def bareContext : Context := { incoming := some [] }

def lostAgent : Agent where
  id := 7
  clusterID := "east"
  nodeName := "node-1"
  state := .disconnected
  healthy := false
  lastHeartbeat := 0
  tools := ⟨"1.35", "1.5", "5.6"⟩
  registeredAt := 0
  jwtNamespace := "katapult"
  pvcs := []

/-- A heartbeat of a disconnected agent. -/
theorem registersWhenNeeded_disconnected :
    ∃ reg, (Registry.empty.upsertAgent 0 lostAgent).toOption = some reg ∧
      @RegistersWhenNeeded canonicalText reg bareContext (canonicalString 7) [] := by
  have hreg : (Registry.empty.upsertAgent 0 lostAgent).toOption.any
      fun reg => (reg.row 7).isSome := by decide +kernel
  obtain ⟨reg, hstored, hrow⟩ := (Option.any_eq_true _ _).mp hreg
  refine ⟨reg, hstored, (@registersWhenNeeded_iff canonicalText plainIdentifiers_canonical reg
    bareContext (canonicalString 7) []).mpr fun _ id hparse => ?_⟩
  have hid : canonicalText.parse (canonicalString 7) = .ok 7 := canonicalText.parse_toText 7
  rw [hid] at hparse
  cases hparse
  exact Option.isSome_iff_ne_none.mp hrow

/-- A registry that has been emptied: the heartbeat of an agent it does not know
    is answered with `Internal`, and the client does not register again. -/
theorem not_registersWhenNeeded_emptied :
    ¬ ∀ reg ctx agentID pvcs, @RegistersWhenNeeded canonicalText reg ctx agentID pvcs := by
  intro hall
  let status : Status :=
    ⟨.internal, "heartbeat failed: agent " ++ canonicalString 7 ++ " not found"⟩
  let err : ClientError := .wrap "heartbeat failed: " status
  have hend : (Prog.eval execRegistry unfailing (@Client.sendHeartbeat _ _
      (fun _ => @AgentServer.heartbeat canonicalText bareContext) (canonicalString 7) [])
      Registry.empty [{}]).any fun out => out.1 = .error err := by decide +kernel
  have hplain : Plain status.message :=
    ((plain_literal (by decide)).append_left (plainEnd_literal (by decide))
      (@PlainIdentifiers.text canonicalText plainIdentifiers_canonical 7)).append_right (plain_literal (by decide))
      (plainStart_literal (by decide))
  have hkeeps : isReregistrationNeeded err = false := by
    rw [isReregistrationNeeded_wrap, show contains status.message "must re-register" = false from hplain]
    rfl
  obtain ⟨⟨a, tr, reg'⟩, hrun, ha⟩ := (Option.any_eq_true _ _).mp hend
  have ha : a = .error err := of_decide_eq_true ha
  have hneeded := (hall .empty bareContext (canonicalString 7) [] tr err reg'
    (ha ▸ Prog.exec_of_eval hrun)).mpr ⟨by decide +kernel, by decide +kernel⟩
  rw [hkeeps] at hneeded
  cases hneeded

end Katapult
