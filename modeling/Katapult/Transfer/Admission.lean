/-
  Katapult.Transfer.Admission

  When a creation commands an agent, and what is stored at that moment.

  Of its history only the calls of the finder and of the commander matter.
  `Refused` and `Accepted` list what they can have been, one case for each exit
  of the program, and every command is checked against the store it is sent in.
  `admission_of_createTransfer` compares the lists with what the finder has to
  say (`PVCFinder`), whether it is asked or not.
-/

import Katapult.Transfer.Account
import Katapult.Transfer.Lifecycle

namespace Katapult

open Effect

/-! ## What is asked of the cluster -/

/-- A call of the finder or of the commander that a creation makes. -/
def Call.consults : Call → Bool
  | .findHealthyPVC .. | .isPVCEmpty .. | .sendTransferCommand .. => true
  | _ => false

/-- What a history shows of these calls. -/
def consultations (h : List CallEv) : List CallEv := h.filter fun ev => ev.1.consults

/-- The commands that a history shows. -/
def startings (h : List CallEv) : List CallEv := h.filter fun ev => ev.1.startsAgent

theorem consultations_snoc (h : List CallEv) (ev : CallEv) :
    consultations (h ++ [ev]) = consultations h ++ if ev.1.consults then [ev] else [] := by
  rw [consultations, List.filter_append, consultations]
  congr 1
  cases hev : ev.1.consults <;> simp [hev]

theorem startings_consultations (h : List CallEv) : startings (consultations h) = startings h := by
  rw [startings, consultations, List.filter_filter]
  refine List.filter_congr fun ev _ => ?_
  obtain ⟨op, r⟩ := ev
  cases op <;> rfl

/-- What the finder says of every volume.  A creation puts no question twice, so
    that its answers may just as well be fixed beforehand. -/
structure PVCFinder where
  findHealthyPVC (clusterID pvcName : String) : Except Err Bool
  isPVCEmpty (clusterID pvcName : String) : Except Err Bool

/-- An answer of the finder is what it says. -/
def PVCFinder.Answers (finder : PVCFinder) : CallEv → Prop
  | ⟨.findHealthyPVC clusterID pvcName, found⟩ => found = finder.findHealthyPVC clusterID pvcName
  | ⟨.isPVCEmpty clusterID pvcName, empty⟩ => empty = finder.isPVCEmpty clusterID pvcName
  | _ => True

/-- The repository does not fail, and the finder is the given one. -/
def Consulted (finder : PVCFinder) (env : Env) (op : Call) (s : Store) : Prop :=
  Unfailed env op s ∧ finder.Answers ⟨op, (exec env op s).1⟩

namespace CreateTransferRequest

/-- An override, if there is one, names a strategy. -/
def StrategyKnown (req : CreateTransferRequest) : Prop :=
  ∀ text, req.strategyOverride = some text → text ∈ ["stream", "s3", "direct"]

/-- The conditions on a request, and on what the finder says of its volumes, under
    which agents are commanded. -/
structure Admissible (req : CreateTransferRequest) (finder : PVCFinder) : Prop where
  distinct : (req.sourceCluster, req.sourcePVC) ≠ (req.destinationCluster, req.destinationPVC)
  source : finder.findHealthyPVC req.sourceCluster req.sourcePVC = .ok true
  destination : finder.findHealthyPVC req.destinationCluster req.destinationPVC = .ok true
  empty : ∃ empty, finder.isPVCEmpty req.destinationCluster req.destinationPVC = .ok empty ∧
    (empty = true ∨ req.allowOverwrite = true)
  strategy : req.StrategyKnown

/-- The strategy of the override, or the one that the clusters call for. -/
def plannedStrategy (req : CreateTransferRequest) (s3Config : S3Config) : TransferStrategy :=
  match req.strategyOverride with
  | some text => ⟨text⟩
  | none =>
    if req.sourceCluster = req.destinationCluster then .stream
    else if s3Config.configured then .s3
    else .direct

/-- The selection takes the planned strategy exactly if the override allows it. -/
theorem selectStrategy_cases (req : CreateTransferRequest) (s3Config : S3Config) :
    (req.StrategyKnown ∧ selectStrategy req.sourceCluster req.destinationCluster
      req.strategyOverride s3Config = .ok (req.plannedStrategy s3Config)) ∨
    (¬ req.StrategyKnown ∧ ∃ err, selectStrategy req.sourceCluster req.destinationCluster
      req.strategyOverride s3Config = .error err) := by
  unfold StrategyKnown plannedStrategy
  cases req.strategyOverride with
  | none =>
    refine .inl ⟨by simp, ?_⟩
    show (if _ then _ else _) = _
    -- the same case distinction on both sides
    by_cases hsame : req.sourceCluster = req.destinationCluster
    · rw [if_pos hsame, if_pos hsame]
    · rw [if_neg hsame, if_neg hsame]
      by_cases hs3 : s3Config.configured = true
      · rw [if_pos hs3, if_pos hs3]
      · rw [if_neg hs3, if_neg hs3]
  | some text =>
    have hnames : (∀ text', some text = some text' → text' ∈ ["stream", "s3", "direct"]) ↔
        ((⟨text⟩ : TransferStrategy) = .stream ∨ (⟨text⟩ : TransferStrategy) = .s3 ∨
          (⟨text⟩ : TransferStrategy) = .direct) := by
      simp [TransferStrategy.stream, TransferStrategy.s3, TransferStrategy.direct]
    rw [hnames]
    by_cases hvalid : (⟨text⟩ : TransferStrategy) = .stream ∨ (⟨text⟩ : TransferStrategy) = .s3 ∨
        (⟨text⟩ : TransferStrategy) = .direct
    · exact .inl ⟨hvalid, if_pos hvalid⟩
    · exact .inr ⟨hvalid, _, if_neg hvalid⟩

end CreateTransferRequest

/-! ## One creation -/

section

variable [UUIDText] (o : Orchestrator) (req : CreateTransferRequest)

/-- The row of the transfer with this text is under way, as planned. -/
def Underway (transferID : String) (s : Store) : Prop :=
  ∃ id t, transferID = id.text ∧ s.row id = some t ∧ t.state = .transferring ∧
    t.startedAt.isSome = true ∧ t.strategy = req.plannedStrategy o.s3Config

/-- A command is the first, to the source, for a transfer that is under way; or
    the second, to the destination, after the source has accepted the first. -/
def CommandsInOrder (h : List CallEv) (op : Call) (s : Store) : Prop :=
  ∀ agentID transferID, op = .sendTransferCommand agentID transferID →
    (startings h = [] ∧ agentID = req.sourceCluster ∧ Underway o req transferID s) ∨
    (startings h = [⟨.sendTransferCommand req.sourceCluster transferID, .ok ()⟩] ∧
      agentID = req.destinationCluster)

/-- Every run of the program from `s`, after the consultations `c`, sends its
    commands in order and ends in `Q`. -/
def Consulting {α : Type} (c : List CallEv) (s : Store) (p : Engine α)
    (Q : α → List CallEv → Store → Prop) : Prop :=
  ∀ h, consultations h = c → Prog.checked exec Unfailed (CommandsInOrder o req) p
    (fun a h' s' => Q a (consultations h') s') h s

namespace Consulting

variable {o req} {α β : Type} {c : List CallEv} {s : Store} {Q : α → List CallEv → Store → Prop}

theorem done {a : α} (h : Q a c s) : Consulting o req c s (.pure a) Q := by
  intro h' hc
  rw [← hc] at h
  exact h

theorem bind {p : Engine β} {f : β → Engine α}
    (hp : Consulting o req c s p fun b c' s' => Consulting o req c' s' (f b) Q) :
    Consulting o req c s (p >>= f) Q := by
  intro h hc
  apply Prog.checked_bind
  exact Prog.checked_mono (hp h hc) fun b h' s' hf => hf h' rfl

theorem mono {p : Engine α} {Q' : α → List CallEv → Store → Prop} (hp : Consulting o req c s p Q)
    (hQ : ∀ a c' s', Q a c' s' → Q' a c' s') : Consulting o req c s p Q' := by
  intro h hc
  exact Prog.checked_mono (hp h hc) fun a h' s' => hQ a _ s'

theorem ask {op : Call} {f : op.Ans → Engine α} (hop : op.isRepo = false)
    (hconsults : op.consults = true)
    (horder : ∀ h, consultations h = c → CommandsInOrder o req h op s)
    (hf : ∀ r, Consulting o req (c ++ [⟨op, r⟩]) s (f r) Q) :
    Consulting o req c s (Prog.perform op >>= f) Q := by
  intro h hc
  refine Prog.checked_perform (horder h hc) fun env _ => ?_
  rw [exec_of_not_isRepo hop]
  refine hf _ _ ?_
  rw [consultations_snoc, hc]
  simp only [hconsults, if_true]

/-- A call that asks neither the finder nor the commander. -/
theorem aside (op : Call) {f : op.Ans → Engine α} (hop : op.isRepo = false)
    (hconsults : op.consults = false) (hf : ∀ r, Consulting o req c s (f r) Q) :
    Consulting o req c s (Prog.perform op >>= f) Q := by
  intro h hc
  refine Prog.checked_perform (fun agentID transferID hcommand => ?_) fun env _ => ?_
  · subst hcommand
    cases hconsults
  · rw [exec_of_not_isRepo hop]
    refine hf _ _ ?_
    rw [consultations_snoc, hc]
    simp only [hconsults, Bool.false_eq_true, if_false, List.append_nil]

theorem statement {call : RepoCall} {f : (Call.repo call).Ans → Engine α}
    (hf : ∀ env s', (∀ id, s'.row id = call.onRow env id (s.row id)) →
      Consulting o req c s' (f ((account call.transferID [] s).answer call)) Q) :
    Consulting o req c s (Prog.perform (Call.repo call) >>= f) Q := by
  intro h hc
  refine Prog.checked_perform (fun _ _ hop => by cases hop) fun env hok => ?_
  obtain ⟨s', hexec, hrow, -⟩ := hok.execRepo_eq
  rw [hexec]
  exact hf env s' hrow _ (by rw [consultations_snoc, hc]; exact List.append_nil c)

/-- An insertion that is accepted is one of a new row. -/
theorem insert {t : Transfer} {f : Except Err Unit → Engine α}
    (hf : ∀ s', s'.row t.id = some t → Consulting o req c s' (f (.ok ())) Q) :
    Consulting o req c s (Engine.createTransfer t >>= f) Q := by
  intro h hc
  refine Prog.checked_perform (fun _ _ hop => by cases hop) fun env hok => ?_
  obtain ⟨s', hexec, hrow, -⟩ := hok.execRepo_eq
  rw [hexec]
  refine hf s' ?_ _ (by rw [consultations_snoc, hc]; exact List.append_nil c)
  rw [hrow, RepoCall.onRow, if_pos ⟨rfl, hok.row_eq_none⟩]

theorem createEvent {id : UUID} {eventType : EventType} {message : String}
    {metadata : Option (List (String × String))} {f : Unit → Engine α}
    (hf : ∀ s', (∀ id', s'.row id' = s.row id') → Consulting o req c s' (f ()) Q) :
    Consulting o req c s (createEvent id eventType message metadata >>= f) Q :=
  aside .newUUID rfl rfl fun _ => aside .timeNow rfl rfl fun _ =>
    statement fun _ s' hrow => hf s' hrow

theorem failTransfer {id : UUID} {errorMessage eventMessage : String} {f : Unit → Engine α}
    (hf : ∀ s', Consulting o req c s' (f ()) Q) :
    Consulting o req c s (failTransfer id errorMessage eventMessage >>= f) Q :=
  statement fun _ _ _ => createEvent fun s' _ => hf s'

end Consulting

/-! ## The parts of a creation -/

/-- What a request that is refused has consulted. -/
inductive Refused : List CallEv → Prop where
  | same (same : (req.sourceCluster, req.sourcePVC) = (req.destinationCluster, req.destinationPVC)) :
      Refused []
  | source {found : Except Err Bool} (absent : found ≠ .ok true) :
      Refused [⟨.findHealthyPVC req.sourceCluster req.sourcePVC, found⟩]
  | destination {found : Except Err Bool} (absent : found ≠ .ok true) :
      Refused [⟨.findHealthyPVC req.sourceCluster req.sourcePVC, .ok true⟩,
        ⟨.findHealthyPVC req.destinationCluster req.destinationPVC, found⟩]
  | occupied {empty : Except Err Bool}
      (occupied : ∀ e, empty = .ok e → e = false ∧ req.allowOverwrite = false) :
      Refused [⟨.findHealthyPVC req.sourceCluster req.sourcePVC, .ok true⟩,
        ⟨.findHealthyPVC req.destinationCluster req.destinationPVC, .ok true⟩,
        ⟨.isPVCEmpty req.destinationCluster req.destinationPVC, empty⟩]

/-- What a request that is accepted has consulted. -/
inductive Accepted : List CallEv → Prop where
  | intro {empty : Bool}
      (distinct : (req.sourceCluster, req.sourcePVC) ≠ (req.destinationCluster, req.destinationPVC))
      (free : empty = true ∨ req.allowOverwrite = true) :
      Accepted [⟨.findHealthyPVC req.sourceCluster req.sourcePVC, .ok true⟩,
        ⟨.findHealthyPVC req.destinationCluster req.destinationPVC, .ok true⟩,
        ⟨.isPVCEmpty req.destinationCluster req.destinationPVC, .ok empty⟩]

/-- Commands follow the consultations `c` exactly if the override allows a strategy. -/
def Commanded (c c' : List CallEv) : Prop :=
  ∃ commands, c' = c ++ commands ∧ (∀ ev ∈ commands, ev.1.startsAgent = true) ∧
    (commands ≠ [] ↔ req.StrategyKnown)

variable {o req}

theorem consulting_validateTransferRequest (id : UUID) (s : Store) :
    Consulting o req [] s
      (validateTransferRequest
        { transferID := id.text
          sourceCluster := req.sourceCluster
          sourcePVC := req.sourcePVC
          destinationCluster := req.destinationCluster
          destinationPVC := req.destinationPVC
          allowOverwrite := req.allowOverwrite })
      (fun valid c s' => s' = s ∧ ((∃ err, valid = .error err ∧ Refused req c) ∨
        (valid = .ok () ∧ Accepted req c))) := by
  unfold validateTransferRequest
  -- none of the three questions is a command
  have hquestion : ∀ {op : Call}, op.startsAgent = false → ∀ h, CommandsInOrder o req h op s := by
    intro op hop h agentID transferID hcommand
    subst hcommand
    cases hop
  split
  · rename_i hsame
    exact .done ⟨rfl, .inl ⟨_, rfl, .same (Prod.ext hsame.1 hsame.2)⟩⟩
  rename_i hdistinct
  refine .ask rfl rfl (fun h _ => hquestion rfl h) fun src => ?_
  rcases src with err | (_ | _)
  · exact .done ⟨rfl, .inl ⟨_, rfl, .source (by simp)⟩⟩
  · exact .done ⟨rfl, .inl ⟨_, rfl, .source (by simp)⟩⟩
  refine .ask rfl rfl (fun h _ => hquestion rfl h) fun dest => ?_
  rcases dest with err | (_ | _)
  · exact .done ⟨rfl, .inl ⟨_, rfl, .destination (by simp)⟩⟩
  · exact .done ⟨rfl, .inl ⟨_, rfl, .destination (by simp)⟩⟩
  refine .ask rfl rfl (fun h _ => hquestion rfl h) fun empty => ?_
  rcases empty with err | empty
  · exact .done ⟨rfl, .inl ⟨_, rfl, .occupied (by simp)⟩⟩
  dsimp only
  split
  · rename_i hoccupied
    apply Consulting.done
    refine ⟨rfl, .inl ⟨_, rfl, .occupied fun e he => ?_⟩⟩
    cases he
    exact hoccupied
  · rename_i hfree
    apply Consulting.done
    refine ⟨rfl, .inr ⟨rfl, .intro (fun hsame => hdistinct ?_) ?_⟩⟩
    · exact ⟨congrArg Prod.fst hsame, congrArg Prod.snd hsame⟩
    · cases empty with
      | true => exact .inl rfl
      | false => exact .inr (Bool.of_not_eq_false fun hallow => hfree ⟨rfl, hallow⟩)

theorem consulting_commandAgents {transferID : UUID} {c : List CallEv} {s : Store}
    (hfirst : startings c = []) (hunderway : Underway o req transferID.text s)
    (hknown : req.StrategyKnown) :
    Consulting o req c s (Orchestrator.commandAgents req transferID)
      (fun _ c' _ => Commanded req c c') := by
  have hcommanded : ∀ ev : CallEv, ∀ evs, (∀ ev' ∈ ev :: evs, ev'.1.startsAgent = true) →
      Commanded req c (c ++ ev :: evs) := fun ev evs hstarts =>
    ⟨ev :: evs, rfl, hstarts, ⟨fun _ => hknown, fun _ => List.cons_ne_nil _ _⟩⟩
  unfold Orchestrator.commandAgents
  -- the first command, to the source
  refine .ask rfl rfl (fun h hc agentID transferID' hcommand => ?_) fun src => ?_
  · cases hcommand
    exact .inl ⟨by rw [← startings_consultations, hc, hfirst], rfl, hunderway⟩
  rcases src with err | _
  · exact .failTransfer fun s' => .done (hcommanded _ [] (by simp [Call.startsAgent]))
  -- the source has accepted; the second command is to the destination
  refine .ask rfl rfl (fun h hc agentID transferID' hcommand => ?_) fun dest => ?_
  · cases hcommand
    right
    rw [← startings_consultations, hc, startings, List.filter_append, ← startings, hfirst]
    exact ⟨rfl, rfl⟩
  have hboth : ∀ s' : Store, Commanded req c
      (c ++ [⟨.sendTransferCommand req.sourceCluster transferID.text, .ok ()⟩] ++
        [⟨.sendTransferCommand req.destinationCluster transferID.text, dest⟩]) := fun s' => by
    rw [List.append_assoc]
    exact hcommanded _ _ (by simp [Call.startsAgent])
  rcases dest with err | _
  · exact .failTransfer fun s' => .done (hboth s')
  · exact .done (hboth s)

theorem consulting_startTransfer {transfer t : Transfer} {c : List CallEv} {s : Store}
    (hstate : transfer.state = .validating) (hrow : s.row transfer.id = some t)
    (hfirst : startings c = []) :
    Consulting o req c s (o.startTransfer req transfer) (fun _ c' _ => Commanded req c c') := by
  unfold Orchestrator.startTransfer
  rcases req.selectStrategy_cases o.s3Config with ⟨hknown, hplanned⟩ | ⟨hunknown, err, hinvalid⟩
  · rw [hplanned]
    refine .statement fun env₁ s₁ hrow₁ => ?_
    dsimp only [Account.answer]
    split
    · -- the transition that the program checks for is an edge
      rename_i hmove
      refine absurd ?_ (Transfer.not_edge_of_transitionTo_eq_error hmove)
      rw [show (_ : Transfer).state = .validating from hstate]
      decide
    refine .statement fun env₂ s₂ hrow₂ => ?_
    refine .statement fun env₃ s₃ hrow₃ => ?_
    refine .createEvent fun s₄ hrow₄ => ?_
    -- strategy, state and start of the row, from the three statements
    have hunder := hrow₄ transfer.id
    rw [hrow₃, hrow₂, hrow₁, hrow] at hunder
    simp only [RepoCall.onRow, if_true] at hunder
    exact consulting_commandAgents hfirst ⟨transfer.id, _, rfl, hunder, rfl, rfl, rfl⟩ hknown
  · rw [hinvalid]
    refine .statement fun env s' _ => .done ?_
    exact ⟨[], (List.append_nil c).symm, by simp, by simp [hunknown]⟩

variable (o req) in
theorem consulting_createTransfer (s : Store) :
    Consulting o req [] s (o.createTransfer req)
      (fun _ c _ => Refused req c ∨ ∃ c', Accepted req c' ∧ Commanded req c' c) := by
  unfold Orchestrator.createTransfer Orchestrator.admitTransfer
  refine .aside .newUUID rfl rfl fun id => .aside .timeNow rfl rfl fun now => ?_
  refine .insert fun s₁ hrow₁ => .createEvent fun s₂ hrow₂ => ?_
  split
  · rename_i hmove
    refine absurd ?_ (Transfer.not_edge_of_transitionTo_eq_error hmove)
    show TransferState.Edge .pending .validating
    decide
  rename_i transfer hmove
  obtain ⟨-, rfl⟩ := Transfer.transitionTo_eq_ok.mp hmove
  refine .statement fun env₃ s₃ hrow₃ => ?_
  refine .bind ((consulting_validateTransferRequest _ s₃).mono ?_)
  rintro valid c s' ⟨rfl, ⟨err, rfl, hrefused⟩ | ⟨rfl, haccepted⟩⟩
  · exact .failTransfer fun s₄ => .done (.inl hrefused)
  refine .createEvent fun s₄ hrow₄ => ?_
  -- the inserted row, in its second state
  have hrow := hrow₄ (o.newTransfer req id now).id
  rw [hrow₃, hrow₂, hrow₁, RepoCall.onRow, if_pos rfl] at hrow
  have hfirst : startings c = [] := by
    obtain ⟨-, -⟩ := haccepted
    rfl
  refine Consulting.mono (consulting_startTransfer ?_ hrow hfirst) ?_
  · rfl
  · exact fun _ _ _ hcommanded => .inr ⟨c, haccepted, hcommanded⟩

/-! ## Reading the conditions off -/

end

section

variable {req : CreateTransferRequest} {finder : PVCFinder} {c : List CallEv}

theorem startings_of_accepted (haccepted : Accepted req c) : startings c = [] := by
  obtain ⟨-, -⟩ := haccepted
  rfl

/-- A request that is refused is one that the finder does not let pass, and no
    agent is commanded. -/
theorem not_admissible_of_refused (hrefused : Refused req c)
    (hanswers : ∀ ev ∈ c, finder.Answers ev) : ¬ req.Admissible finder ∧ startings c = [] := by
  refine ⟨fun h => ?_, by cases hrefused <;> rfl⟩
  cases hrefused with
  | same same => exact h.distinct same
  | @source found absent =>
    have hfound : found = finder.findHealthyPVC req.sourceCluster req.sourcePVC :=
      hanswers _ List.mem_cons_self
    exact absent (hfound.trans h.source)
  | @destination found absent =>
    have hfound : found = finder.findHealthyPVC req.destinationCluster req.destinationPVC :=
      hanswers _ (List.mem_cons_of_mem _ List.mem_cons_self)
    exact absent (hfound.trans h.destination)
  | @occupied empty occupied =>
    have hempty : empty = finder.isPVCEmpty req.destinationCluster req.destinationPVC :=
      hanswers _ (List.mem_cons_of_mem _ (List.mem_cons_of_mem _ List.mem_cons_self))
    obtain ⟨e, hsaid, hfree⟩ := h.empty
    obtain ⟨rfl, hforbidden⟩ := occupied e (hempty.trans hsaid)
    simp [hforbidden] at hfree

/-- A request that is accepted is admissible exactly if the override allows a strategy. -/
theorem admissible_iff_of_accepted (haccepted : Accepted req c)
    (hanswers : ∀ ev ∈ c, finder.Answers ev) : req.Admissible finder ↔ req.StrategyKnown := by
  constructor
  · exact fun h => h.strategy
  · intro hknown
    obtain @⟨empty, hdistinct, hfree⟩ := haccepted
    have hsource : .ok true = finder.findHealthyPVC req.sourceCluster req.sourcePVC :=
      hanswers _ List.mem_cons_self
    have hdestination : .ok true = finder.findHealthyPVC req.destinationCluster req.destinationPVC :=
      hanswers _ (List.mem_cons_of_mem _ List.mem_cons_self)
    have hempty : .ok empty = finder.isPVCEmpty req.destinationCluster req.destinationPVC :=
      hanswers _ (List.mem_cons_of_mem _ (List.mem_cons_of_mem _ List.mem_cons_self))
    exact
      { distinct := hdistinct
        source := hsource.symm
        destination := hdestination.symm
        empty := ⟨empty, hempty.symm, hfree⟩
        strategy := hknown }

/-- An agent is commanded exactly if the request is admissible. -/
theorem startings_iff_admissible {h : List CallEv} (hanswers : ∀ ev ∈ h, finder.Answers ev)
    (hc : Refused req (consultations h) ∨ ∃ c, Accepted req c ∧ Commanded req c (consultations h)) :
    startings h ≠ [] ↔ req.Admissible finder := by
  have hanswers : ∀ ev ∈ consultations h, finder.Answers ev :=
    fun ev hev => hanswers ev (List.mem_of_mem_filter hev)
  rw [← startings_consultations]
  rcases hc with hrefused | ⟨c, haccepted, commands, hcommands, hstarts, hplanned⟩
  · obtain ⟨hinadmissible, hsilent⟩ := not_admissible_of_refused hrefused hanswers
    exact iff_of_false (not_not_intro hsilent) hinadmissible
  · rw [hcommands] at hanswers ⊢
    rw [admissible_iff_of_accepted haccepted fun ev hev => hanswers ev (List.mem_append_left _ hev),
      ← hplanned, startings, List.filter_append, ← startings, startings_of_accepted haccepted,
      List.nil_append, List.filter_eq_self.mpr hstarts]

end

/-- Whatever the finder says: a creation commands an agent exactly if the request
    is admissible; the first command is for a transfer that is under way as
    planned, and the destination is commanded only after the source has accepted
    its command. -/
theorem admission_of_createTransfer [UUIDText] (o : Orchestrator) (req : CreateTransferRequest)
    (s : Store) :
    (∀ finder tr a s', Prog.Exec exec (Consulted finder) (o.createTransfer req) s tr a s' →
      ((∃ ev ∈ tr, ev.1.startsAgent = true) ↔ req.Admissible finder)) ∧
    ∀ past agentID transferID k s', Prog.Reaches exec Unfailed (o.createTransfer req) s past
        (.call (.sendTransferCommand agentID transferID) k) s' →
      (startings past = [] ∧ agentID = req.sourceCluster ∧ Underway o req transferID s') ∨
      (startings past = [⟨.sendTransferCommand req.sourceCluster transferID, .ok ()⟩] ∧
        agentID = req.destinationCluster) := by
  have hchecked := consulting_createTransfer o req s [] rfl
  constructor
  · intro finder tr a s' hrun
    have hanswers : ∀ ev ∈ tr, finder.Answers ev := hrun.forall_mem fun _ _ _ hok => hok.2
    have hc := Prog.wp_sound (Prog.wp_of_checked hchecked) (hrun.mono fun _ _ _ hok => hok.1)
    rw [List.nil_append] at hc
    rw [← startings_iff_admissible hanswers hc, startings]
    simp
  · intro past agentID transferID k s' hreach
    exact (Prog.checked_of_reaches hchecked hreach).1 agentID transferID rfl

/-! ## Sample runs -/

instance (finder : PVCFinder) (ev : CallEv) : Decidable (finder.Answers ev) := by
  unfold PVCFinder.Answers
  split
  · exact (inferInstance : DecidableEq (Except Err Bool)) _ _
  · exact (inferInstance : DecidableEq (Except Err Bool)) _ _
  · exact .isTrue trivial

instance (finder : PVCFinder) (env : Env) (op : Call) (s : Store) :
    Decidable (Consulted finder env op s) :=
  inferInstanceAs (Decidable (_ ∧ _))

/-- Every volume is there, and the answer to whether it is empty is the given one. -/
def findsAll (empty : Bool) : PVCFinder where
  findHealthyPVC _ _ := .ok true
  isPVCEmpty _ _ := .ok empty

/-- The sample request with an empty destination, and with one that is not: it is
    admissible, as an agent is commanded, and it is not, as none is. -/
theorem admission_sampleRequest :
    (∃ a tr s', Prog.eval exec (Consulted (findsAll true))
        (@Orchestrator.createTransfer canonicalText plainOrchestrator sampleRequest) .empty
        (calls 7 21) = some (a, tr, s') ∧
      (∃ ev ∈ tr, ev.1.startsAgent = true) ∧ sampleRequest.Admissible (findsAll true)) ∧
    ∃ a tr s', Prog.eval exec (Consulted (findsAll false))
        (@Orchestrator.createTransfer canonicalText plainOrchestrator sampleRequest) .empty
        (calls 7 9 ++ [{ flag := false }] ++ calls 20 4) = some (a, tr, s') ∧
      (¬ ∃ ev ∈ tr, ev.1.startsAgent = true) ∧ ¬ sampleRequest.Admissible (findsAll false) := by
  have hempty : (Prog.eval exec (Consulted (findsAll true)) (@Orchestrator.createTransfer canonicalText
      plainOrchestrator sampleRequest) .empty (calls 7 21)).any fun out =>
      out.2.1.any fun ev => ev.1.startsAgent := by decide +kernel
  have hoccupied : (Prog.eval exec (Consulted (findsAll false)) (@Orchestrator.createTransfer
      canonicalText plainOrchestrator sampleRequest) .empty
      (calls 7 9 ++ [{ flag := false }] ++ calls 20 4)).any fun out =>
      (out.2.1.any fun ev => ev.1.startsAgent) = false := by decide +kernel
  obtain ⟨⟨a, tr, s'⟩, hrun, hstarts⟩ := (Option.any_eq_true _ _).mp hempty
  obtain ⟨⟨a', tr', s''⟩, hrun', hsilent⟩ := (Option.any_eq_true _ _).mp hoccupied
  have hcommanded := List.any_eq_true.mp hstarts
  have hsilent : ¬ ∃ ev ∈ tr', ev.1.startsAgent = true := by
    rw [← List.any_eq_true, of_decide_eq_true hsilent]
    exact nofun
  refine ⟨⟨a, tr, s', hrun, hcommanded, ?_⟩, a', tr', s'', hrun', hsilent, fun hadmissible => ?_⟩
  · exact ((@admission_of_createTransfer canonicalText plainOrchestrator sampleRequest .empty).1
      (findsAll true) tr a s' (Prog.exec_of_eval hrun)).mp hcommanded
  · exact hsilent (((@admission_of_createTransfer canonicalText plainOrchestrator sampleRequest
      .empty).1 (findsAll false) tr' a' s'' (Prog.exec_of_eval hrun')).mpr hadmissible)

end Katapult
