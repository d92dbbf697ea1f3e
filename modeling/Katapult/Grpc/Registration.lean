/-
  Katapult.Grpc.Registration

  What a registration is answered, and why.

  The handler tells the reasons of a rejection apart by a phrase in the text of
  the error, and the text of a rejected tool shows what the client sent.
  `MisleadingTar` says for which versions that text has the phrase; for all
  others the answer follows the reason (`registersByVerdict_iff`).
-/

import Katapult.Domain.Quoting
import Katapult.Grpc.Server

namespace Katapult

open Effect

/-! ## The verdicts -/

/-- A call of the repository that was answered with an error. -/
def RegistryEv.failed : RegistryEv → Bool
  | ⟨.upsertAgent _, .error _⟩ | ⟨.updateHeartbeat .., .error _⟩ => true
  | ⟨.getAgentByID _, .error _⟩ | ⟨.getAgentByClusterAndNode .., .error _⟩ => true
  | ⟨.markUnhealthy _, .error _⟩ | ⟨.markDisconnected _, .error _⟩ => true
  | _ => false

/-- The repository does not fail, and refuses nothing. -/
def Answered (env : Env) (op : RegistryCall) (reg : Registry) : Prop :=
  RegistryEv.failed ⟨op, (execRegistry env op reg).1⟩ = false

instance (env : Env) (op : RegistryCall) (reg : Registry) : Decidable (Answered env op reg) :=
  inferInstanceAs (Decidable (_ = false))

/-- The namespace of the caller's token. -/
def Context.jwtNamespace (ctx : Context) : String :=
  (((claimsFromContext ctx).bind Claims.kubernetes).map KubernetesClaims.namespace_).getD ""

/-- The agent stored in this place belongs to another namespace. -/
def Registry.Foreign (reg : Registry) (place : String × String) (jwtNamespace : String) : Prop :=
  ∃ r, reg.agents.find? place = some r ∧ r.jwtNamespace ≠ "" ∧ r.jwtNamespace ≠ jwtNamespace

namespace RegisterRequest

/-- The versions that a request carries. -/
def toolVersions (req : RegisterRequest) : ToolVersions := req.tools.getD {}

/-- The agent stored in the place of the request belongs to another namespace. -/
def Conflicts (req : RegisterRequest) (ctx : Context) (reg : Registry) : Prop :=
  reg.Foreign (req.clusterId, req.nodeName) ctx.jwtNamespace

/-- The answer follows the tools and the namespaces, and nothing else. -/
structure Judged (req : RegisterRequest) (ctx : Context) (reg : Registry)
    (a : Except Status RegisterResponse) : Prop where
  permissionDenied : (∃ message, a = .error ⟨.permissionDenied, message⟩) ↔
    validateTools req.toolVersions = .ok () ∧ req.Conflicts ctx reg
  success : (∃ response, a = .ok response) ↔
    validateTools req.toolVersions = .ok () ∧ ¬ req.Conflicts ctx reg
  /-- Tools that are rejected are rejected as such. -/
  internal : (∃ message, a = .error ⟨.internal, message⟩) ↔
    validateTools req.toolVersions ≠ .ok ()

end RegisterRequest

/-- Every run without a repository error ends in the verdict that is due. -/
def RegistersByVerdict [UUIDText] (ctx : Context) (req : RegisterRequest) (reg : Registry) : Prop :=
  ∀ tr a reg', Prog.Exec execRegistry Answered (AgentServer.register ctx req) reg tr a reg' →
    req.Judged ctx reg a

/-! ## The phrase in the text -/

/-- The characters of the phrase behind its first one. -/
def mismatchRest : List Char :=
  ['a', 'm', 'e', 's', 'p', 'a', 'c', 'e', ' ', 'm', 'i', 's', 'm', 'a', 't', 'c', 'h']

/-- The phrase occurs. -/
def Mismatch (cs : List Char) : Prop := 'n' :: mismatchRest <:+: cs

/-- The phrase occurs once the text is quoted. -/
def QuotedMismatch (cs : List Char) : Prop := Mismatch cs ∨ '\n' :: mismatchRest <:+: cs

instance (cs : List Char) : Decidable (Mismatch cs) := inferInstanceAs (Decidable (_ <:+: _))

instance (cs : List Char) : Decidable (QuotedMismatch cs) := inferInstanceAs (Decidable (_ ∨ _))

/-- What the rejection of a tar version shows of it. -/
inductive Shown where
  | quoted (part : List Char)
  | whole (version : List Char)
  | nothing

/-- The phrase occurs in what is shown. -/
def Shown.Misleads : Shown → Prop
  | .quoted part => QuotedMismatch part
  | .whole version => Mismatch version
  | .nothing => False

instance : (shown : Shown) → Decidable shown.Misleads
  | .quoted _ => inferInstanceAs (Decidable (QuotedMismatch _))
  | .whole _ => inferInstanceAs (Decidable (Mismatch _))
  | .nothing => inferInstanceAs (Decidable False)

/-- A version that is no version, the first part that is no number, or a version that is too low. -/
def shownTar (version : String) : Shown :=
  match splitN '.' 3 version.toList with
  | major :: minor :: _ =>
    match atoi major, atoi minor with
    | none, _ => .quoted major
    | some _, none => .quoted minor
    | some majorNumber, some minorNumber =>
      if majorNumber < minTarMajor ∨ (majorNumber = minTarMajor ∧ minorNumber < minTarMinor) then
        .whole version.toList
      else .nothing
  | _ => .quoted version.toList

/-- What the rejection of a tar version shows of it spells the phrase. -/
def MisleadingTar (version : String) : Prop := (shownTar version).Misleads

instance (version : String) : Decidable (MisleadingTar version) :=
  inferInstanceAs (Decidable (Shown.Misleads _))

theorem namespaceMismatch_toList : "namespace mismatch".toList = 'n' :: mismatchRest :=
  String.toList_ofList

theorem contains_namespaceMismatch (s : String) :
    contains s "namespace mismatch" = true ↔ Mismatch s.toList := by
  rw [contains, namespaceMismatch_toList, decide_eq_true_eq]
  rfl

/-- No character of the phrase is escaped. -/
theorem verbatim_mismatchRest : ∀ c ∈ mismatchRest, Verbatim c := by
  have hall : mismatchRest.all (fun c => quoteChar c == [c]) = true := by decide
  intro c hc
  exact eq_of_beq (List.all_eq_true.mp hall c hc)

/-- A literal without the phrase, before a quoted text. -/
theorem mismatch_literal_quote {cs : List Char} (hcs : ¬ Mismatch cs) (text : String) :
    Mismatch (String.ofList cs ++ quote text).toList ↔ QuotedMismatch text.toList := by
  have hquote : Mismatch (quote text).toList ↔ QuotedMismatch text.toList :=
    infix_quote_iff verbatim_mismatchRest text
  rw [quote, String.toList_ofList] at hquote
  rw [← hquote, String.toList_append, String.toList_ofList, quote, String.toList_ofList,
    List.cons_append, Mismatch, infix_append_cons_iff (by decide), Mismatch,
    infix_cons_iff_of_ne (by decide)]
  exact or_iff_right hcs

/-- The text about a version that is too low. -/
theorem mismatch_belowMinimum (version : String) :
    Mismatch ("version " ++ version ++ " is below minimum " ++ toString minTarMajor ++ "." ++
      toString minTarMinor).toList ↔ Mismatch version.toList := by
  have hminimum : " is below minimum " ++ (toString minTarMajor ++ ("." ++ toString minTarMinor)) =
      " is below minimum 1.28" := by decide
  -- no beginning of the text behind the version ends the phrase
  have hbehind : contains (version ++ " is below minimum 1.28") "namespace mismatch" =
      contains version "namespace mismatch" := by
    rw [contains_append_right]
    · have hplain : contains " is below minimum 1.28" "namespace mismatch" = false := by
        rw [contains, namespaceMismatch_toList]
        decide
      rw [hplain, Bool.or_false]
    · rw [namespaceMismatch_toList]
      decide
  have hbefore : "version ".toList = ['v', 'e', 'r', 's', 'i', 'o'] ++ ['n', ' '] :=
    String.toList_ofList
  rw [← contains_namespaceMismatch version, ← hbehind, contains_namespaceMismatch]
  simp only [String.append_assoc, hminimum]
  rw [String.toList_append, hbefore, List.append_assoc, Mismatch,
    infix_append_iff_of_not_mem (by decide),
    List.cons_append, List.infix_cons_iff, List.cons_prefix_cons, List.singleton_append,
    infix_cons_iff_of_ne (by decide)]
  simp [Mismatch, mismatchRest]

/-- What is wrong with a tar version has the phrase exactly if it is misleading. -/
theorem mismatch_tarError {version : String} {err : Err} (h : validateTarVersion version = .error err) :
    Mismatch err.toList ↔ MisleadingTar version := by
  unfold validateTarVersion at h
  split at h
  · rename_i major minor rest hparts
    rw [MisleadingTar, shownTar, hparts]
    dsimp only
    split at h
    · rename_i hmajor
      cases h
      rw [hmajor, mismatch_literal_quote (by decide), String.toList_ofList]
      rfl
    rename_i majorNumber hmajor
    split at h
    · rename_i hminor
      cases h
      rw [hmajor, hminor, mismatch_literal_quote (by decide), String.toList_ofList]
      rfl
    rename_i minorNumber hminor
    split at h
    · rename_i hlow
      cases h
      rw [hmajor, hminor, mismatch_belowMinimum]
      dsimp only
      rw [if_pos hlow]
      rfl
    · cases h
  · rename_i hparts
    cases h
    rw [MisleadingTar, shownTar]
    split
    · rename_i major minor rest hparts'
      exact absurd hparts' (hparts major minor rest)
    · exact mismatch_literal_quote (by decide) version

theorem mismatch_intercalate (errs : List Err) :
    Mismatch (String.intercalate "; " errs).toList ↔ ∃ err ∈ errs, Mismatch err.toList := by
  induction errs with
  | nil =>
    have hempty : ¬ Mismatch [] := by decide
    simp [hempty]
  | cons err errs ih =>
    cases errs with
    | nil => simp [String.intercalate_singleton]
    | cons err' errs =>
      have hseparator : "; ".toList = [';', ' '] := String.toList_ofList
      rw [String.intercalate_cons_cons, List.exists_mem_cons_iff, ← ih, String.toList_append,
        String.toList_append, hseparator, List.append_assoc, List.cons_append, List.singleton_append,
        Mismatch, infix_append_cons_iff (by decide), infix_cons_iff_of_ne (by decide)]
      rfl

/-- A literal without the phrase, closed by a character that is not in it. -/
theorem mismatch_literal {cs : List Char} {c : Char} (hc : c ∉ 'n' :: mismatchRest)
    (hcs : ¬ Mismatch cs) (text : String) :
    Mismatch (String.ofList (cs ++ [c, ' ']) ++ text).toList ↔ Mismatch text.toList := by
  rw [String.toList_append, String.toList_ofList, List.append_assoc, Mismatch, List.cons_append,
    infix_append_cons_iff hc, List.singleton_append, infix_cons_iff_of_ne (by decide)]
  exact or_iff_right hcs

/-- A version that passes shows nothing. -/
theorem not_misleadingTar_of_valid {version : String} (h : validateTarVersion version = .ok ()) :
    ¬ MisleadingTar version := by
  obtain ⟨major, minor, rest, majorNumber, minorNumber, hparts, hmajor, hminor, hhigh⟩ :=
    validateTarVersion_parts.mp h
  rw [MisleadingTar, shownTar, hparts]
  dsimp only
  rw [hmajor, hminor]
  dsimp only
  rw [if_neg hhigh]
  exact not_false

/-- What is wrong with the tools has the phrase exactly if the tar version is misleading. -/
theorem mismatch_toolErrors (tools : ToolVersions) :
    (∃ err ∈ toolErrors tools, Mismatch err.toList) ↔ MisleadingTar tools.tar := by
  have hzstd : ¬ ∃ err ∈ (if tools.zstd = "" then ["zstd: not present"] else []),
      Mismatch err.toList := by
    have hplain : ¬ Mismatch "zstd: not present".toList := by decide
    split
    · simpa using hplain
    · simp
  have hstunnel : ¬ ∃ err ∈ (if tools.stunnel = "" then ["stunnel: not present"] else []),
      Mismatch err.toList := by
    have hplain : ¬ Mismatch "stunnel: not present".toList := by decide
    split
    · simpa using hplain
    · simp
  simp only [toolErrors, List.mem_append, or_and_right, exists_or, hzstd, hstunnel, or_false]
  split
  · -- a missing version shows nothing that could mislead
    rename_i habsent
    have hplain : ¬ Mismatch "tar: not present".toList := by decide
    have hempty : ¬ MisleadingTar "" := show ¬ QuotedMismatch [] by decide
    rw [habsent]
    simpa [hempty] using hplain
  split
  · rename_i err hinvalid
    have htext : Mismatch ("tar: " ++ err).toList ↔ Mismatch err.toList :=
      @mismatch_literal ['t', 'a', 'r'] ':' (by decide) (by decide) err
    simp only [List.mem_singleton, exists_eq_left]
    exact htext.trans (mismatch_tarError hinvalid)
  · rename_i hvalid
    simpa using not_misleadingTar_of_valid hvalid

/-- So has the text of the rejection. -/
theorem mismatch_rejection {tools : ToolVersions} {err : Err} (h : validateTools tools = .error err) :
    Mismatch ("registration rejected: " ++ err).toList ↔ MisleadingTar tools.tar := by
  unfold validateTools at h
  split at h
  · cases h
  cases h
  -- two literals before the list of what is wrong
  have hrejected := @mismatch_literal "registration rejected".toList ':' (by decide) (by decide)
  have hfailed := @mismatch_literal "tool verification failed".toList ':' (by decide) (by decide)
  rw [← mismatch_toolErrors, ← mismatch_intercalate]
  exact (hrejected _).trans (hfailed _)

/-! ## The answer -/

/-- How a registration in this place is served when the repository does not fail. -/
inductive RegistrationOutcome (tools : ToolVersions) (foreign : Prop) : Except Err UUID → Prop where
  | rejected {err : Err} (invalid : validateTools tools = .error err) :
      RegistrationOutcome tools foreign (.error ("registration rejected: " ++ err))
  | mismatch {err : Err} (valid : validateTools tools = .ok ()) (holds : foreign)
      (phrase : Mismatch err.toList) : RegistrationOutcome tools foreign (.error err)
  | registered {id : UUID} (valid : validateTools tools = .ok ()) (free : ¬ foreign) :
      RegistrationOutcome tools foreign (.ok id)

/-- A namespace mismatch is named as such, whatever the namespaces are. -/
theorem mismatch_jwtNamespace (text : String) :
    Mismatch ("registration rejected: JWT namespace mismatch (expected " ++ text).toList := by
  have hphrase : Mismatch "registration rejected: JWT namespace mismatch (expected ".toList := by decide
  rw [String.toList_append]
  exact hphrase.trans (List.prefix_append _ _).isInfix

theorem Answered.stored {env : Env} {agent : Agent} {reg : Registry}
    (h : Answered env (.upsertAgent agent) reg) :
    (execRegistry env (.upsertAgent agent) reg).1 = .ok () := by
  unfold Answered at h
  rcases hanswer : (execRegistry env (.upsertAgent agent) reg).1 with err | _
  · rw [hanswer] at h
    cases h
  · rfl

/-- An identity is given exactly to agents of the caller's own namespace. -/
theorem Service.wp_assignID (place : String × String) (jwtNamespace : String) (h : List RegistryEv)
    (reg : Registry) :
    Prog.wp execRegistry Answered
      (Service.assignID ((reg.agents.find? place).map reg.withPVCs) jwtNamespace)
      (fun a _ reg' => reg' = reg ∧
        ((reg.Foreign place jwtNamespace ∧ ∃ err, a = .error err ∧ Mismatch err.toList) ∨
          ¬ reg.Foreign place jwtNamespace ∧ ∃ agentID registeredAt, a = .ok (agentID, registeredAt)))
      h reg := by
  unfold Service.assignID
  cases hfind : reg.agents.find? place with
  | none =>
    have hfree : ¬ reg.Foreign place jwtNamespace := by
      rintro ⟨r, hr, -⟩
      rw [hfind] at hr
      cases hr
    exact fun _ _ _ _ => ⟨rfl, .inr ⟨hfree, _, _, rfl⟩⟩
  | some r =>
    dsimp only [Option.map_some]
    split
    · rename_i hforeign
      refine ⟨rfl, .inl ⟨⟨r, hfind, hforeign⟩, _, rfl, ?_⟩⟩
      simp only [String.append_assoc]
      exact mismatch_jwtNamespace _
    · rename_i hown
      refine ⟨rfl, .inr ⟨?_, _, _, rfl⟩⟩
      rintro ⟨r', hr', hforeign⟩
      rw [hfind] at hr'
      cases hr'
      exact hown hforeign

theorem Service.wp_registerAgent (clusterID nodeName : String) (tools : ToolVersions)
    (pvcs : List PVCInfo) (jwtNamespace : String) (h : List RegistryEv) (reg : Registry) :
    Prog.wp execRegistry Answered (Service.registerAgent clusterID nodeName tools pvcs jwtNamespace)
      (fun a _ _ =>
        RegistrationOutcome tools (reg.Foreign (clusterID, nodeName) jwtNamespace) a) h reg := by
  unfold Service.registerAgent
  split
  · rename_i err hinvalid
    exact .rejected hinvalid
  rename_i hvalid
  -- the lookup of the place
  refine Prog.wp_perform fun env hok => ?_
  have hfail : env.fail = none := by
    cases hfail : env.fail with
    | none => rfl
    | some err => simp [Answered, RegistryEv.failed, execRegistry, Env.answer, hfail] at hok
  simp only [execRegistry, Env.answer_of_ok hfail]
  refine (Prog.wp_bind _ _).mpr (Prog.wp_mono (Service.wp_assignID _ jwtNamespace _ reg) ?_)
  rintro a h₁ reg₁ ⟨rfl, ⟨hforeign, err, rfl, hphrase⟩ | ⟨hfree, agentID, registeredAt, rfl⟩⟩
  · exact .mismatch hvalid hforeign hphrase
  refine Prog.wp_perform fun env₁ _ => Prog.wp_perform fun env₂ hok₂ => ?_
  rw [hok₂.stored]
  exact .registered hvalid hfree

section

variable [UUIDText]

/-- What the handler makes of the service's answer. -/
def AgentServer.verdict : Except Err UUID → Except Status RegisterResponse
  | .error err => .error ⟨if contains err "namespace mismatch" then .permissionDenied else .internal,
      "registration failed: " ++ err⟩
  | .ok agentID => .ok ⟨agentID.text⟩

theorem AgentServer.wp_register (ctx : Context) {req : RegisterRequest} (hcluster : req.clusterId ≠ "")
    (hnode : req.nodeName ≠ "") (reg : Registry) :
    Prog.wp execRegistry Answered (AgentServer.register ctx req)
      (fun a _ _ => ∃ served, RegistrationOutcome req.toolVersions (req.Conflicts ctx reg) served ∧
        a = AgentServer.verdict served) [] reg := by
  unfold AgentServer.register
  rw [if_neg hcluster, if_neg hnode]
  refine (Prog.wp_bind _ _).mpr (Prog.wp_mono (Service.wp_registerAgent _ _ _ _ _ [] reg) ?_)
  intro served h reg' hserved
  rcases served with err | agentID
  · dsimp only
    split
    · rename_i hphrase
      exact ⟨_, hserved, by rw [AgentServer.verdict, if_pos hphrase]⟩
    · rename_i hplain
      exact ⟨_, hserved, by rw [AgentServer.verdict, if_neg hplain]⟩
  · exact ⟨_, hserved, rfl⟩

/-- The verdict that is due, unless the tar version misleads the handler. -/
theorem RegistrationOutcome.judged {ctx : Context} {req : RegisterRequest} {reg : Registry}
    {served : Except Err UUID} (hserved : RegistrationOutcome req.toolVersions (req.Conflicts ctx reg) served)
    (hplain : ¬ MisleadingTar req.toolVersions.tar) :
    req.Judged ctx reg (AgentServer.verdict served) := by
  cases hserved with
  | @rejected err invalid =>
    have htext : ¬ contains ("registration rejected: " ++ err) "namespace mismatch" = true := by
      rw [contains_namespaceMismatch, mismatch_rejection invalid]
      exact hplain
    have hinvalid : validateTools req.toolVersions ≠ .ok () := by
      rw [invalid]
      simp
    rw [AgentServer.verdict, if_neg htext]
    exact ⟨by simp [hinvalid], by simp [hinvalid], by simp [hinvalid]⟩
  | @mismatch err valid holds phrase =>
    rw [AgentServer.verdict, if_pos ((contains_namespaceMismatch err).mpr phrase)]
    exact ⟨by simp [valid, holds], by simp [valid, holds], by simp [valid]⟩
  | registered valid free =>
    exact ⟨by simp [AgentServer.verdict, valid, free], by simp [AgentServer.verdict, valid, free],
      by simp [AgentServer.verdict, valid]⟩

/-- Tools with a misleading version are rejected for the namespace of their agent. -/
theorem AgentServer.exec_register_misleading (ctx : Context) {req : RegisterRequest}
    (hcluster : req.clusterId ≠ "") (hnode : req.nodeName ≠ "")
    (htar : MisleadingTar req.toolVersions.tar) (reg : Registry) :
    validateTools req.toolVersions ≠ .ok () ∧ ∃ message, Prog.Exec execRegistry Answered
      (AgentServer.register ctx req) reg [] (.error ⟨.permissionDenied, message⟩) reg := by
  obtain ⟨err, hmem, -⟩ := (mismatch_toolErrors req.toolVersions).mpr htar
  have hinvalid : ∃ err, validateTools req.toolVersions = .error err := by
    unfold validateTools
    split
    · rename_i hnone
      rw [hnone] at hmem
      cases hmem
    · exact ⟨_, rfl⟩
  obtain ⟨err, hinvalid⟩ := hinvalid
  have hphrase : contains ("registration rejected: " ++ err) "namespace mismatch" = true := by
    rw [contains_namespaceMismatch, mismatch_rejection hinvalid]
    exact htar
  refine ⟨by rw [hinvalid]; simp, "registration failed: " ++ ("registration rejected: " ++ err), ?_⟩
  have hprogram : AgentServer.register ctx req = .pure (.error ⟨.permissionDenied,
      "registration failed: " ++ ("registration rejected: " ++ err)⟩) := by
    unfold AgentServer.register Service.registerAgent
    have htools : validateTools (req.tools.getD {}) = .error err := hinvalid
    rw [if_neg hcluster, if_neg hnode, htools]
    exact if_pos hphrase
  rw [hprogram]
  exact .pure _ _

/-- A registration is answered by what is wrong with it, exactly for the tar
    versions whose rejection does not spell the phrase. -/
theorem registersByVerdict_iff (ctx : Context) {req : RegisterRequest} (reg : Registry)
    (hcluster : req.clusterId ≠ "") (hnode : req.nodeName ≠ "") :
    RegistersByVerdict ctx req reg ↔ ¬ MisleadingTar req.toolVersions.tar := by
  constructor
  · intro hjudged htar
    obtain ⟨hinvalid, message, hrun⟩ :=
      AgentServer.exec_register_misleading ctx hcluster hnode htar reg
    exact hinvalid ((hjudged _ _ _ hrun).permissionDenied.mp ⟨message, rfl⟩).1
  · intro hplain tr a reg' hrun
    obtain ⟨served, hserved, rfl⟩ :=
      Prog.wp_sound (AgentServer.wp_register ctx hcluster hnode reg) hrun
    exact hserved.judged hplain

end

/-! ## Sample requests -/

/-- A registration of an agent with these tools. -/
def sampleRegistration (tar : String) : RegisterRequest :=
  ⟨"east", "node-1", some ⟨tar, "1.5", "5.6"⟩, []⟩

theorem registersByVerdict_tar135 :
    @RegistersByVerdict canonicalText (sampleContext "agent-token")
      (sampleRegistration "1.35") .empty := by
  have hiff := @registersByVerdict_iff canonicalText (sampleContext "agent-token")
    (sampleRegistration "1.35") .empty (by decide) (by decide)
  exact hiff.mpr (by decide +kernel)

/-- A version that spells the phrase is rejected, and said to be of another namespace. -/
theorem not_registersByVerdict_phrase :
    ¬ ∀ (ctx : Context) (req : RegisterRequest) (reg : Registry), req.clusterId ≠ "" →
      req.nodeName ≠ "" → @RegistersByVerdict canonicalText ctx req reg := by
  intro hall
  have hjudged := hall (sampleContext "agent-token") (sampleRegistration "namespace mismatch") .empty
    (by decide) (by decide)
  obtain ⟨hinvalid, message, hrun⟩ := @AgentServer.exec_register_misleading canonicalText
    (sampleContext "agent-token") (sampleRegistration "namespace mismatch") (by decide) (by decide)
    (by decide +kernel) .empty
  exact hinvalid ((hjudged _ _ _ hrun).permissionDenied.mp ⟨message, rfl⟩).1

end Katapult
