/-
  Katapult.Transfer.Rows

  What holds of every stored transfer between two requests, when requests are
  served one after the other, no statement fails and the clock does not go back.

  The columns of a row are written one by one, by nine different statements;
  `Sound` says how they hang together whenever a request has ended.  The proof
  looks only at the ways a request can end (`Entry`, `Opening`).
-/

import Katapult.Transfer.Entries

namespace Katapult

open Effect

/-- The columns of a row agree with each other. -/
structure Transfer.Sound (t : Transfer) : Prop where
  state : t.state = .transferring ∨ t.state = .completed ∨ t.state = .failed ∨ t.state = .cancelled
  started : t.state = .transferring ∨ t.state = .completed ∨ t.state = .cancelled →
    t.startedAt.isSome = true ∧
    (t.strategy = .stream ∨ t.strategy = .s3 ∨ t.strategy = .direct)
  completed : t.state.isTerminal = true ↔ t.completedAt.isSome = true
  message : t.state = .failed ↔ t.errorMessage ≠ ""
  retries : t.retryCount ≤ max t.retryMax 0
  created_le_started : ∀ started, t.startedAt = some started → t.createdAt ≤ started
  created_le_completed : ∀ completed, t.completedAt = some completed → t.createdAt ≤ completed
  started_le_completed : ∀ started completed, t.startedAt = some started →
    t.completedAt = some completed → started ≤ completed

/-- The row is sound, and was created and started at `clock` at the latest. -/
structure Transfer.SoundAt (clock : Time) (t : Transfer) : Prop extends t.Sound where
  created_le : t.createdAt ≤ clock
  started_le : ∀ started, t.startedAt = some started → started ≤ clock

namespace Transfer

variable {t t' : Transfer} {clock clock' : Time}

theorem SoundAt.mono (h : t.SoundAt clock) (hclock : clock ≤ clock') : t.SoundAt clock' :=
  { h.toSound with
    created_le := le_trans h.created_le hclock
    started_le := fun started hs => le_trans (h.started_le started hs) hclock }

/-- The progress counters do not matter. -/
theorem SoundAt.recounted (h : t.SoundAt clock) (hrecounted : t.Recounted t') : t'.SoundAt clock := by
  obtain ⟨_, _, _, _, rfl⟩ := hrecounted
  exact ⟨⟨h.state, h.started, h.completed, h.message, h.retries, h.created_le_started,
    h.created_le_completed, h.started_le_completed⟩, h.created_le, h.started_le⟩

/-- A retry that was left may be counted. -/
theorem SoundAt.retried (h : t.SoundAt clock) (hleft : t.retryCount < t.retryMax) :
    SoundAt clock { t with retryCount := t.retryCount + 1 } := by
  have hretries : t.retryCount + 1 ≤ max t.retryMax 0 :=
    le_trans (Int.add_one_le_of_lt hleft) (le_max_left _ _)
  exact ⟨⟨h.state, h.started, h.completed, h.message, hretries, h.created_le_started,
    h.created_le_completed, h.started_le_completed⟩, h.created_le, h.started_le⟩

/-- A transfer that is not at its end is under way. -/
theorem SoundAt.transferring (h : t.SoundAt clock) (hopen : t.state.isTerminal = false) :
    t.state = .transferring := by
  rcases h.state with hs | hs | hs | hs
  · exact hs
  all_goals
    rw [hs] at hopen
    cases hopen

/-- A transfer under way may be ended, with a message exactly if it has failed. -/
theorem SoundAt.ended (h : t.SoundAt clock) {target : TransferState} {now : Time}
    {errorMessage : String} (hopen : t.state.isTerminal = false) (hfinal : target.isTerminal = true)
    (hmessage : target = .failed ∧ errorMessage ≠ "" ∨
      target ≠ .failed ∧ errorMessage = t.errorMessage)
    (hnow : clock ≤ now) :
    SoundAt clock { t with state := target, completedAt := some now, errorMessage } := by
  have hunder := h.transferring hopen
  have hstarted := h.started (.inl hunder)
  have hempty : t.errorMessage = "" := by
    by_contra hne
    have hfailed := h.message.mpr hne
    rw [hunder] at hfailed
    cases hfailed
  have hstate : target = .transferring ∨ target = .completed ∨ target = .failed ∨
      target = .cancelled := by
    cases target <;> simp [TransferState.isTerminal] at hfinal ⊢
  have htext : target = .failed ↔ errorMessage ≠ "" := by
    rcases hmessage with ⟨hfailed, hne⟩ | ⟨hother, hsame⟩
    · exact iff_of_true hfailed hne
    · exact iff_of_false hother (fun hne => hne (hsame.trans hempty))
  refine ⟨⟨hstate, fun _ => hstarted, iff_of_true hfinal rfl, htext, h.retries,
    h.created_le_started, ?_, ?_⟩, h.created_le, h.started_le⟩
  · rintro completed ⟨⟩
    exact le_trans h.created_le hnow
  · rintro started completed hs ⟨⟩
    exact le_trans (h.started_le started hs) hnow

end Transfer

/-! ## One request -/

/-- The row, if it is there, is sound. -/
def Account.Sound (clock : Time) (m : Account) : Prop := ∀ t, m.row = some t → t.SoundAt clock

namespace Account.Sound

variable {m m' : Account} {j j' : Journal}

theorem mono {clock clock' : Time} (h : m.Sound clock) (hclock : clock ≤ clock') :
    m.Sound clock' :=
  fun t ht => (h t ht).mono hclock

theorem of_some {clock : Time} {t : Transfer} (hrow : m.row = some t) (ht : t.SoundAt clock) :
    m.Sound clock := by
  intro t' ht'
  rw [hrow] at ht'
  cases ht'
  exact ht

theorem entry {o : Orchestrator} {request : Request} (h : m.Sound j.clock) (hclock : j.clock ≤ j'.clock)
    (hentry : Entry true o request m j j' m') : m'.Sound j'.clock := by
  cases hentry with
  | kept result =>
    rw [result]
    exact h.mono hclock
  | noted before recounted result =>
    have ht := (h _ before).recounted recounted
    exact of_some (congrArg Account.row result) (ht.mono hclock)
  | @retried t t' before recounted result granted left =>
    have ht := (h _ before).recounted recounted
    have hleft : t'.retryCount < t'.retryMax := by
      obtain ⟨_, _, _, _, rfl⟩ := recounted
      exact left
    exact of_some (congrArg Account.row result) ((ht.retried hleft).mono hclock)
  | @ended t t' target now errorMessage events before recounted edge final message since _ result =>
    have ht := (h _ before).recounted recounted
    have hopen : t'.state.isTerminal = false := by
      rw [recounted.state_eq]
      exact edge.not_isTerminal
    have hmessage : target = .failed ∧ errorMessage ≠ "" ∨
        target ≠ .failed ∧ errorMessage = t'.errorMessage := by
      rw [recounted.errorMessage_eq]
      exact message
    have hended := ht.ended hopen final hmessage (since rfl).1
    exact of_some (congrArg Account.row result) (hended.mono hclock)

/-- The row that a creation leaves when it fails, started or not. -/
theorem soundAt_failed (o : Orchestrator) (req : CreateTransferRequest) (id : UUID)
    {clock created now : Time} {errorMessage : String} (strategy : TransferStrategy)
    (startedAt : Option Time) (hmessage : errorMessage ≠ "") (hnow : created ≤ now ∧ now ≤ clock)
    (hstarted : ∀ started, startedAt = some started → created ≤ started ∧ started ≤ now) :
    Transfer.SoundAt clock { o.newTransfer req id created with
      strategy, startedAt, state := .failed, errorMessage, completedAt := some now } := by
  refine ⟨⟨.inr (.inr (.inl rfl)), ?_, iff_of_true rfl rfl, iff_of_true rfl hmessage,
    le_max_right _ _, fun started hs => (hstarted started hs).1, ?_, ?_⟩,
    le_trans hnow.1 hnow.2, fun started hs => le_trans (hstarted started hs).2 hnow.2⟩
  · rintro (hs | hs | hs) <;> cases hs
  · rintro completed ⟨⟩
    exact hnow.1
  · rintro started completed hs ⟨⟩
    exact (hstarted started hs).2

theorem opening {o : Orchestrator} {req : CreateTransferRequest} {id : UUID}
    (hopening : Opening true o req id m j' m') : m'.Sound j'.clock := by
  cases hopening with
  | invalid fresh message times result =>
    exact of_some (congrArg Account.row result)
      (soundAt_failed o req id .unset none message (times rfl) nofun)
  | unplanned fresh distinct unplanned message times result =>
    exact of_some (congrArg Account.row result)
      (soundAt_failed o req id .unset none message (times rfl) nofun)
  | refused fresh message planned times refused result =>
    obtain ⟨hcreated, hstarted, hnow⟩ := times rfl
    refine of_some (congrArg Account.row result)
      (soundAt_failed o req id _ (some _) message ⟨le_trans hcreated hstarted, hnow⟩ ?_)
    rintro _ ⟨⟩
    exact ⟨hcreated, hstarted⟩
  | started fresh planned times result =>
    obtain ⟨hcreated, hstarted⟩ := times rfl
    have hopen : ¬ TransferState.transferring.isTerminal = true := by decide
    refine of_some (congrArg Account.row result) ⟨⟨.inl rfl, fun _ => ⟨rfl, planned⟩,
      iff_of_false hopen nofun, iff_of_false nofun fun hne => hne rfl, le_max_right _ _, ?_,
      nofun, nofun⟩, le_trans hcreated hstarted, ?_⟩
    · rintro _ ⟨⟩
      exact hcreated
    · rintro _ ⟨⟩
      exact hstarted

theorem booked {o : Orchestrator} {id : UUID} {request : Request} (h : m.Sound j.clock)
    (hclock : j.clock ≤ j'.clock) (hbooked : Booked true o id m j j' m' request) :
    m'.Sound j'.clock := by
  cases hbooked with
  | opened req hopening => exact opening hopening
  | cancelled hentry => exact h.entry hclock hentry
  | handled hid hentry => exact h.entry hclock hentry

end Account.Sound

/-! ## Runs -/

section

variable [UUIDText]

/-- Every row is sound at the clock, and the lifecycle has every change so far. -/
def SoundStore (w : Store × Journal) : Prop :=
  (∀ id t, w.1.row id = some t → t.SoundAt w.2.clock) ∧ ∀ c ∈ w.2.changes, c.1.Edge c.2

theorem Orchestrator.soundStore_serve (o : Orchestrator) (request : Request) (h : List CallEv)
    {w : Store × Journal} (hw : SoundStore w) :
    Prog.wp watch (Steady true) (o.serve request) (fun _ _ w' => SoundStore w') h w := by
  refine Prog.wp_mono (o.wp_watch request h w) ?_
  rintro a h' w' ⟨hextends, id, hbooked, hothers⟩
  have hclock : w.2.clock ≤ w'.2.clock := hextends.clock rfl
  have hsound : ∀ id, (account id h w.1).Sound w.2.clock := hw.1
  refine ⟨fun id' t ht => ?_, ?_⟩
  · by_cases hid : id' = id
    · subst hid
      exact (hsound id').booked hclock hbooked t ht
    · have hrow : w.1.row id' = some t := (congrArg Account.row (hothers id' hid)).symm.trans ht
      exact (hw.1 id' t hrow).mono hclock
  · obtain ⟨l, hl, hedges⟩ := hextends.changes
    rw [hl]
    intro c hc
    rcases List.mem_append.mp hc with hold | hnew
    · exact hw.2 c hold
    · exact hedges c hnew

/-- Between any two requests of every sequential run in which no statement fails
    and the clock does not go back, every stored row is sound, and every change
    of a stored state has been an edge of the lifecycle. -/
theorem sound_of_run (o : Orchestrator) {start : Time} {h : List CallEv} {w : Store × Journal}
    (hreach : Prog.SeqReach watch (Steady true) o.serve (.empty, ⟨start, []⟩) h w) :
    (∀ id t, w.1.row id = some t → t.Sound) ∧ ∀ c ∈ w.2.changes, c.1.Edge c.2 := by
  have hnone : ∀ id, Store.empty.row id = none := fun _ => rfl
  have hstart : SoundStore (.empty, ⟨start, []⟩) := by
    refine ⟨fun id t ht => ?_, nofun⟩
    rw [hnone] at ht
    cases ht
  have hsound : SoundStore w := Prog.SeqReach.invariant (I := fun _ w => SoundStore w) hstart
    (fun request h w hw => o.soundStore_serve request h hw) hreach
  exact ⟨fun id t ht => (hsound.1 id t ht).toSound, hsound.2⟩

end

/-! ## A sample run -/

instance (timed : Bool) (env : Env) (op : Call) (w : Store × Journal) :
    Decidable (Steady timed env op w) :=
  inferInstanceAs (Decidable (CallEv.failed _ = false ∧ (timed = true → w.2.clock ≤ env.now)))

/-- The history, the store and the journal at the end of a sample run. -/
def watchedEnd (runs : List (Request × List Env)) : Option (List CallEv × Store × Journal) :=
  Prog.evalAll watch (Steady true) (@Orchestrator.serve canonicalText plainOrchestrator)
    (.empty, ⟨0, []⟩) runs

theorem sound_of_createThenCancel :
    ∃ h w, watchedEnd createThenCancel = some (h, w) ∧ w.1.stateOf 7 = some .cancelled ∧
      w.2.changes = [(.pending, .validating), (.validating, .transferring),
        (.transferring, .cancelled)] ∧
      ((∀ id t, w.1.row id = some t → t.Sound) ∧ ∀ c ∈ w.2.changes, c.1.Edge c.2) := by
  have hend : (watchedEnd createThenCancel).any fun out =>
      out.2.1.stateOf 7 = some .cancelled ∧ out.2.2.changes = [(.pending, .validating),
        (.validating, .transferring), (.transferring, .cancelled)] := by decide +kernel
  obtain ⟨⟨h, w⟩, hruns, hout⟩ := (Option.any_eq_true _ _).mp hend
  obtain ⟨hstate, hchanges⟩ := of_decide_eq_true hout
  have hreach := Prog.SeqReach.init.of_evalAll hruns
  exact ⟨h, w, hruns, hstate, hchanges, @sound_of_run canonicalText plainOrchestrator 0 h w hreach⟩

end Katapult
