/-
  Katapult.Transfer.BytesMoved

  The counter of moved bytes, under any number of progress reports at once.

  A report carries the bytes of its transfer so far, and the handler adds that
  number to the counter as it is.  Whatever the interleaving, the counter has
  been given exactly the numbers that were stored (`added_perm_stored`).  So it
  is the sum of all reports, where the transfers have moved the sum of the last
  ones (`bytesMoved_iff`).
-/

import Katapult.Keyed.Readings
import Katapult.Transfer.Gauge
import Katapult.Transfer.Retries

namespace Katapult

open Effect Channel Keyed

/-! ## What is stored, and what is added -/

/-- The byte count of a progress update that the repository has taken. -/
def CallEv.storedBytes : CallEv → Option (UUID × Int)
  | ⟨.repo (.updateTransferProgress id bytesTransferred _ _ _), .ok _⟩ => some (id, bytesTransferred)
  | _ => none

/-- The byte count that is handed to the recorder. -/
def CallEv.addedBytes : CallEv → Option Int
  | ⟨.onProgressReport bytesTransferred _, _⟩ => some bytesTransferred
  | _ => none

/-- The reports that were stored, each with its transfer. -/
def storedBytes (h : List CallEv) : List (UUID × Int) := h.filterMap CallEv.storedBytes

/-- The arguments of `Counter.Add`. -/
def addedBytes (h : List CallEv) : List Int := h.filterMap CallEv.addedBytes

namespace Metrics

theorem record_bytes {m : Metrics} {ev : CallEv} (hnonneg : ∀ b ∈ ev.addedBytes, 0 ≤ b) :
    ∃ m', record ev m = .done m' ∧
      m'.moverBytesTransferred = m.moverBytesTransferred + (ev.addedBytes.toList).sum := by
  obtain ⟨op, r⟩ := ev
  cases op with
  | onProgressReport bytesTransferred speedBytesPerSec =>
    have hle : ¬ bytesTransferred < 0 := by
      have hbytes := hnonneg bytesTransferred rfl
      omega
    refine ⟨_, if_neg hle, ?_⟩
    simp [CallEv.addedBytes]
  | onTransferStateChange fromState toState strategy =>
    refine ⟨_, rfl, ?_⟩
    show (m.onTransferStateChange fromState toState strategy).moverBytesTransferred = _ + 0
    unfold onTransferStateChange
    split
    · exact (add_zero _).symm
    split <;> exact (add_zero _).symm
  | onTransferError category => exact ⟨_, rfl, (add_zero _).symm⟩
  | _ => exact ⟨_, rfl, (add_zero _).symm⟩

/-- Where nothing negative is added, the counter is the sum of what is. -/
theorem after_bytes {h : List CallEv} (hnonneg : ∀ b ∈ addedBytes h, 0 ≤ b) :
    ∃ m, after h = .done m ∧ m.moverBytesTransferred = (addedBytes h).sum := by
  induction h using List.reverseRecOn with
  | nil => exact ⟨newMetrics, rfl, rfl⟩
  | append_singleton h ev ih =>
    have hsplit : addedBytes (h ++ [ev]) = addedBytes h ++ ev.addedBytes.toList := by
      rw [addedBytes, List.filterMap_append, addedBytes]
      cases hev : ev.addedBytes <;> simp [hev]
    rw [hsplit, List.forall_mem_append] at hnonneg
    obtain ⟨m, hm, hsum⟩ := ih hnonneg.1
    obtain ⟨m', hm', hsum'⟩ := record_bytes (m := m) fun b hb =>
      hnonneg.2 b (Option.mem_toList.mpr hb)
    refine ⟨m', ?_, ?_⟩
    · rw [after, Attempt.each_append]
      rw [after] at hm
      rw [hm, Attempt.bind_done, Attempt.each, hm', Attempt.bind_done, Attempt.each]
    · rw [hsum', hsum, hsplit, List.sum_append]

end Metrics

/-! ## One report -/

/-- Calls that neither store nor add a byte count. -/
def Call.Unmoving : Call → Prop
  | .repo (.updateTransferProgress ..) | .onProgressReport .. => False
  | _ => True

theorem Call.Concludes.unmoving {op : Call} (h : op.Concludes) : op.Unmoving := by
  cases op with
  | repo call => cases call <;> first | exact h.elim | trivial
  | publish id progress => trivial
  | onProgressReport bytes speed => cases h
  | _ => trivial

/-- What one handler has stored, and what it has added. -/
structure Moved where
  stored : List Int := []
  added : List Int := []

namespace Moved

def follow (m : Moved) (ev : CallEv) : Moved where
  stored := m.stored ++ (ev.storedBytes.map Prod.snd).toList
  added := m.added ++ ev.addedBytes.toList

theorem foldl_follow (m : Moved) (h : List CallEv) :
    h.foldl follow m =
      ⟨m.stored ++ (storedBytes h).map Prod.snd, m.added ++ addedBytes h⟩ := by
  induction h generalizing m with
  | nil => simp [storedBytes, addedBytes]
  | cons ev h ih =>
    rw [List.foldl_cons, ih, follow]
    cases hstored : ev.storedBytes <;> cases hadded : ev.addedBytes <;>
      simp [storedBytes, addedBytes, hstored, hadded]

/-- A handler that ends has added what it has stored. -/
abbrev Obeyed {α : Type} (m : Moved) (p : Engine α) : Prop :=
  Prog.Obeys follow (fun _ _ => True) (fun _ m' => m'.stored = m'.added) m p

theorem follow_unmoving (m : Moved) {op : Call} (h : op.Unmoving) :
    True ∧ ∀ r, m.follow ⟨op, r⟩ = m := by
  refine ⟨trivial, fun r => ?_⟩
  have hnothing : CallEv.storedBytes ⟨op, r⟩ = none ∧ CallEv.addedBytes ⟨op, r⟩ = none := by
    cases op with
    | repo call =>
      cases call with
      | updateTransferProgress id bytes total chunks chunksTotal => cases h
      | _ => exact ⟨rfl, rfl⟩
    | onProgressReport bytes speed => cases h
    | _ => exact ⟨rfl, rfl⟩
  rw [follow, hnothing.1, hnothing.2]
  show Moved.mk (m.stored ++ []) (m.added ++ []) = m
  rw [List.append_nil, List.append_nil]

theorem Obeyed.unmoving {α β : Type} {m : Moved} {p : Engine β} {f : β → Engine α}
    (hp : p.All Call.Unmoving) (hf : ∀ b, Obeyed m (f b)) : Obeyed m (p >>= f) :=
  Prog.Obeys.skip (hp.mono fun _ => m.follow_unmoving) hf

/-- The end of a handler that has added what it has stored. -/
theorem Obeyed.of_unmoving {α : Type} {m : Moved} {p : Engine α} (hp : p.All Call.Unmoving)
    (hm : m.stored = m.added) : Obeyed m p := by
  refine (Prog.Obeys.of_all (hp.mono fun _ => m.follow_unmoving)).mono ?_
  rintro _ m' rfl
  exact hm

end Moved

section

variable [UUIDText] {o : Orchestrator}

/-- A report that is stored is added, and no other. -/
theorem Orchestrator.moved_handleProgress (hmetrics : o.metrics = true) (report : ProgressReport) :
    Moved.Obeyed {} (o.handleProgress report) := by
  refine Prog.Obeys.perform trivial fun loaded => ?_
  rcases loaded with err | (_ | transfer)
  · exact rfl
  · exact rfl
  refine Prog.Obeys.perform trivial fun updated => ?_
  rcases updated with err | _
  · exact rfl
  -- stored, and not added yet
  refine Moved.Obeyed.unmoving ((concludes_createEvent _ _ _ _).mono fun _ h => h.unmoving) fun _ => ?_
  have hpublish : ∀ progress, (o.publish report.transferID progress).All Call.Unmoving :=
    fun _ => .ite ⟨trivial, fun _ => trivial⟩ trivial
  refine Moved.Obeyed.unmoving (hpublish _) fun _ => ?_
  rw [onProgressReport_of_metrics hmetrics]
  refine Prog.Obeys.perform trivial fun reported => ?_
  -- from here on neither list changes
  refine Moved.Obeyed.of_unmoving ?_ rfl
  refine Prog.All.mono (P := Call.Concludes) ?_ fun _ h => h.unmoving
  rcases reported with _ | _ | _
  · exact (o.concludes_handleStatus report).bind fun _ => trivial
  · trivial
  · trivial

/-! ## Any number of reports -/

variable {ι : Type} [DecidableEq ι]

/-- The handlers of a family of reports, on a store. -/
def Orchestrator.handling (o : Orchestrator) (reports : ι → ProgressReport) (s : Store) :
    Config Call Call.Ans (Attempt (Except Err Unit)) ι Store where
  procs i := o.handleProgress (reports i)
  state := s

/-- No handler is in the middle of its report. -/
def Quiet (tr : Trace ι Call Call.Ans) (cfg : Config Call Call.Ans (Attempt (Except Err Unit)) ι Store) :
    Prop :=
  ∀ i, tr.local i = [] ∨ (cfg.procs i).result?.isSome = true

variable {ok : ι → Env → Call → Store → Prop} {reports : ι → ProgressReport} {s : Store}
variable {tr : Trace ι Call Call.Ans} {cfg : Config Call Call.Ans (Attempt (Except Err Unit)) ι Store}

/-- Between two reports, the counter was given exactly what was stored. -/
theorem added_perm_stored (hmetrics : o.metrics = true)
    (hrun : Run exec ok (o.handling reports s) tr cfg) (hquiet : Quiet tr cfg) :
    (addedBytes (tr.map Prod.snd)).Perm ((storedBytes (tr.map Prod.snd)).map Prod.snd) := by
  have hlocal : ∀ i, (tr.local i).filterMap CallEv.addedBytes =
      (tr.local i).filterMap fun ev => (CallEv.storedBytes ev).map Prod.snd := by
    intro i
    rcases hquiet i with hidle | hended
    · rw [hidle]
      rfl
    · obtain ⟨r, hr⟩ := Option.isSome_iff_exists.mp hended
      have hobeys := (hrun.obeys_local i (o.moved_handleProgress hmetrics (reports i))).2
      rw [Prog.eq_pure_of_result? hr, Moved.foldl_follow] at hobeys
      have heq : [] ++ (storedBytes (tr.local i)).map Prod.snd = [] ++ addedBytes (tr.local i) := hobeys
      rw [List.nil_append, List.nil_append, storedBytes, List.map_filterMap] at heq
      exact heq.symm
  have hperm := Trace.filterMap_perm hlocal
  rw [addedBytes, storedBytes, List.map_filterMap]
  exact hperm

/-- The recorder's law: nothing negative is added, and if the reports of every
    transfer are cumulative, the counter is the sum of the last ones. -/
structure BytesMoved (h : List CallEv) : Prop where
  nonneg : ∀ b ∈ addedBytes h, 0 ≤ b
  total : Cumulative (storedBytes h) →
    ∃ m, Metrics.after h = .done m ∧ m.moverBytesTransferred = sumOfLast (storedBytes h)

/-- Every run, between two reports: the law holds exactly when no stored report
    is negative and, if they are cumulative, all but the last of each transfer
    are zero. -/
theorem bytesMoved_iff (hmetrics : o.metrics = true)
    (hrun : Run exec ok (o.handling reports s) tr cfg) (hquiet : Quiet tr cfg) :
    BytesMoved (tr.map Prod.snd) ↔
      (∀ report ∈ storedBytes (tr.map Prod.snd), 0 ≤ report.2) ∧
        (Cumulative (storedBytes (tr.map Prod.snd)) →
          ∀ id, ∀ b ∈ (readingsOf (storedBytes (tr.map Prod.snd)) id).dropLast, b = 0) := by
  -- between two reports, the counter has been given what is stored
  have hperm := added_perm_stored hmetrics hrun hquiet
  have hnonneg : (∀ b ∈ addedBytes (tr.map Prod.snd), 0 ≤ b) ↔
      ∀ report ∈ storedBytes (tr.map Prod.snd), 0 ≤ report.2 := by
    constructor
    · intro hall report hreport
      exact hall report.2 (hperm.mem_iff.mpr (List.mem_map_of_mem hreport))
    · intro hall b hb
      obtain ⟨report, hreport, rfl⟩ := List.mem_map.mp (hperm.mem_iff.mp hb)
      exact hall report hreport
  have htotal : (∀ report ∈ storedBytes (tr.map Prod.snd), 0 ≤ report.2) →
      ((∃ m, Metrics.after (tr.map Prod.snd) = .done m ∧
          m.moverBytesTransferred = sumOfLast (storedBytes (tr.map Prod.snd))) ↔
        ∀ id, ∀ b ∈ (readingsOf (storedBytes (tr.map Prod.snd)) id).dropLast, b = 0) := by
    intro hall
    obtain ⟨m, hm, hsum⟩ := Metrics.after_bytes (hnonneg.mpr hall)
    rw [← sum_eq_sumOfLast_iff hall, ← hperm.sum_eq, ← hsum]
    constructor
    · rintro ⟨m', hm', hlast⟩
      rw [hm] at hm'
      cases hm'
      exact hlast
    · exact fun hlast => ⟨m, hm, hlast⟩
  constructor
  · rintro ⟨hadded, hcount⟩
    have hall := hnonneg.mp hadded
    exact ⟨hall, fun hcumulative => (htotal hall).mp (hcount hcumulative)⟩
  · rintro ⟨hall, hzero⟩
    exact ⟨hnonneg.mpr hall, fun hcumulative => (htotal hall).mpr (hzero hcumulative)⟩

end

/-! ## Sample runs -/

/-- A report that the transfer has moved so many bytes. -/
def movedReport (bytesTransferred : Int) : ProgressReport where
  transferID := 7
  bytesTransferred := bytesTransferred
  bytesTotal := 1000
  status := "transferring"

/-- The sample transfer, and two reports for it. -/
def twoCounts (fst snd : Int) : Config Call Call.Ans (Attempt (Except Err Unit)) Bool Store :=
  @Orchestrator.handling canonicalText Bool meteredOrchestrator
    (fun later => movedReport (if later then snd else fst)) oneRetryStore

/-- One after the other. -/
def oneThenTheOther : List (Bool × Env) := moves false 100 6 ++ moves true 200 6

/-- A report of nothing, and one of 250 bytes. -/
theorem bytesMoved_iff_once :
    ∃ tr cfg, Run exec (fun _ _ _ _ => True) (twoCounts 0 250) tr cfg ∧ Quiet tr cfg ∧
      storedBytes (tr.map Prod.snd) = [(7, 0), (7, 250)] ∧
      (BytesMoved (tr.map Prod.snd) ↔
        (∀ report ∈ storedBytes (tr.map Prod.snd), 0 ≤ report.2) ∧
          (Cumulative (storedBytes (tr.map Prod.snd)) →
            ∀ id, ∀ b ∈ (readingsOf (storedBytes (tr.map Prod.snd)) id).dropLast, b = 0)) := by
  let ok : Bool → Env → Call → Store → Prop := fun _ _ _ _ => True
  have hend : ((twoCounts 0 250).follow exec ok oneThenTheOther).any fun out =>
      decide (storedBytes (out.1.map Prod.snd) = [(7, 0), (7, 250)]) &&
        (out.2.procs false).result?.isSome && (out.2.procs true).result?.isSome := by
    decide +kernel
  obtain ⟨⟨tr, cfg⟩, hfollow, hout⟩ := (Option.any_eq_true _ _).mp hend
  rw [Bool.and_eq_true, Bool.and_eq_true] at hout
  obtain ⟨⟨hstored, hfst⟩, hsnd⟩ := hout
  have hrun : Run exec ok (twoCounts 0 250) tr cfg := .of_follow hfollow
  have hquiet : Quiet tr cfg := by
    intro i
    cases i with
    | false => exact .inr hfst
    | true => exact .inr hsnd
  exact ⟨tr, cfg, hrun, hquiet, of_decide_eq_true hstored,
    @bytesMoved_iff canonicalText meteredOrchestrator Bool _ ok _ _ _ _ rfl hrun hquiet⟩

/-- The transfer has moved 100 bytes, and then 250: the counter shows 350. -/
theorem not_bytesMoved_twice :
    ¬ ∀ (reports : Bool → ProgressReport) (s : Store) (tr : Trace Bool Call Call.Ans)
        (cfg : Config Call Call.Ans (Attempt (Except Err Unit)) Bool Store),
      Run exec (fun _ _ _ _ => True)
        (@Orchestrator.handling canonicalText Bool meteredOrchestrator reports s) tr cfg →
      Quiet tr cfg → BytesMoved (tr.map Prod.snd) := by
  intro hall
  let ok : Bool → Env → Call → Store → Prop := fun _ _ _ _ => True
  have hend : ((twoCounts 100 250).follow exec ok oneThenTheOther).any fun out =>
      decide (storedBytes (out.1.map Prod.snd) = [(7, 100), (7, 250)]) &&
        decide (addedBytes (out.1.map Prod.snd) = [100, 250]) &&
        (out.2.procs false).result?.isSome && (out.2.procs true).result?.isSome := by
    decide +kernel
  obtain ⟨⟨tr, cfg⟩, hfollow, hout⟩ := (Option.any_eq_true _ _).mp hend
  simp only [Bool.and_eq_true, decide_eq_true_eq] at hout
  obtain ⟨⟨⟨hstored, hadded⟩, hfst⟩, hsnd⟩ := hout
  have hquiet : Quiet tr cfg := by
    intro i
    cases i with
    | false => exact .inr hfst
    | true => exact .inr hsnd
  have hlaw := hall _ _ tr cfg (.of_follow hfollow) hquiet
  obtain ⟨m, hm, hbytes⟩ := Metrics.after_bytes hlaw.nonneg
  have hcumulative : Cumulative (storedBytes (tr.map Prod.snd)) := by
    rw [hstored]
    refine ⟨by decide, fun id => ?_⟩
    exact List.Pairwise.sublist (readingsOf_sublist _ id) (by decide)
  obtain ⟨m', hm', hlast⟩ := hlaw.total hcumulative
  rw [hm] at hm'
  cases hm'
  rw [hbytes, hadded, hstored] at hlast
  revert hlast
  decide

end Katapult
