/-
  Katapult.Effect.Interleaving

  Concurrent semantics of effect programs: a family of programs over one shared
  state, scheduled one operation at a time in any order.

  Two proof methods.  `Prog.rg` is a rely/guarantee logic: assertions about the
  shared state that survive the steps of the others, giving for every step of
  every interleaving the guarantee of the program that took it
  (`Run.guarantee`).  `Prog.Obeys` checks the text of one program against a
  monitor of what it has asked and been told, whatever the others do
  (`Run.obeys_local`); `Prog.rg_of_obeys` turns the second into the first, and
  `Prog.rg_inr_of_obeys` does so for a program that is part of a larger system.
-/

import Katapult.Effect.Prog
import Mathlib.Algebra.BigOperators.Group.Finset.Piecewise
import Mathlib.Algebra.Order.BigOperators.Group.Finset
import Mathlib.Algebra.GroupWithZero.Nat
import Mathlib.Algebra.Ring.Int.Defs

namespace Effect

variable {Op : Type} {Ans : Op → Type} {α β σ χ ι : Type}

/-- The programs still to run, and the state they share. -/
structure Config (Op : Type) (Ans : Op → Type) (α ι σ : Type) where
  procs : ι → Prog Op Ans α
  state : σ

/-- A history in which every entry names the program that made it. -/
abbrev Trace (ι Op : Type) (Ans : Op → Type) : Type := List (ι × Ev Op Ans)

/-- The part of a history that program `i` made. -/
def Trace.local [DecidableEq ι] (tr : Trace ι Op Ans) (i : ι) : List (Ev Op Ans) :=
  tr.filterMap fun e => if e.1 = i then some e.2 else none

section Runs

variable [DecidableEq ι]

/-- Program `i` performs its next operation under choice `c`. -/
def Config.step (M : Machine Op Ans σ χ) (cfg : Config Op Ans α ι σ) (i : ι) (c : χ)
    (op : Op) (k : Ans op → Prog Op Ans α) : Config Op Ans α ι σ where
  procs := Function.update cfg.procs i (k (M c op cfg.state).1)
  state := (M c op cfg.state).2

/-- `Run M ok cfg₀ tr cfg`: some schedule leads from `cfg₀` to `cfg` with history
    `tr`, every step satisfying `ok`. -/
inductive Run (M : Machine Op Ans σ χ) (ok : ι → χ → Op → σ → Prop)
    (cfg₀ : Config Op Ans α ι σ) : Trace ι Op Ans → Config Op Ans α ι σ → Prop where
  | init : Run M ok cfg₀ [] cfg₀
  | step {tr : Trace ι Op Ans} {cfg : Config Op Ans α ι σ} {i : ι} {c : χ} {op : Op}
      {k : Ans op → Prog Op Ans α} (hrun : Run M ok cfg₀ tr cfg)
      (hnext : cfg.procs i = .call op k) (hok : ok i c op cfg.state) :
      Run M ok cfg₀ (tr ++ [(i, ⟨op, (M c op cfg.state).1⟩)]) (cfg.step M i c op k)

variable {M : Machine Op Ans σ χ} {ok ok' : ι → χ → Op → σ → Prop}
variable {cfg₀ cfg cfg' : Config Op Ans α ι σ} {tr tr' : Trace ι Op Ans}

theorem Run.trans (hfst : Run M ok cfg₀ tr cfg) (hsnd : Run M ok cfg tr' cfg') :
    Run M ok cfg₀ (tr ++ tr') cfg' := by
  induction hsnd with
  | init => simpa using hfst
  | step _ hnext hok ih =>
    rw [← List.append_assoc]
    exact .step ih hnext hok

/-- Without a step nothing happens. -/
theorem Run.eq_of_nil (hrun : Run M ok cfg₀ [] cfg) : cfg = cfg₀ := by
  generalize hnil : ([] : Trace ι Op Ans) = tr at hrun
  cases hrun with
  | init => rfl
  | step _ _ _ => simp at hnil

/-- A run proves what its steps preserve. -/
theorem Run.invariant {I : Trace ι Op Ans → Config Op Ans α ι σ → Prop}
    (hinit : I [] cfg₀)
    (hstep : ∀ tr cfg i c op k, I tr cfg → cfg.procs i = .call op k → ok i c op cfg.state →
      I (tr ++ [(i, ⟨op, (M c op cfg.state).1⟩)]) (cfg.step M i c op k))
    (hrun : Run M ok cfg₀ tr cfg) : I tr cfg := by
  induction hrun with
  | init => exact hinit
  | step _ hnext hok ih => exact hstep _ _ _ _ _ _ ih hnext hok

/-- A run can be cut at any entry of its history: the run before it, the step
    that made it, and the run after it. -/
theorem Run.split {e : ι × Ev Op Ans} (hrun : Run M ok cfg₀ (tr ++ e :: tr') cfg) :
    ∃ cfg₁ c op k, Run M ok cfg₀ tr cfg₁ ∧ cfg₁.procs e.1 = .call op k ∧
      ok e.1 c op cfg₁.state ∧ e.2 = ⟨op, (M c op cfg₁.state).1⟩ ∧
      Run M ok (cfg₁.step M e.1 c op k) tr' cfg := by
  generalize hall : tr ++ e :: tr' = all at hrun
  induction hrun generalizing tr' with
  | init => simp at hall
  | @step past cfg i c op k hrun hnext hok ih =>
    rcases List.eq_nil_or_concat' tr' with rfl | ⟨rest, last, rfl⟩
    · -- the entry is the last one
      obtain ⟨rfl, hlast⟩ := List.append_inj' hall rfl
      obtain rfl := List.singleton_inj.mp hlast
      exact ⟨cfg, c, op, k, hrun, hnext, hok, rfl, .init⟩
    · rw [← List.cons_append, ← List.append_assoc] at hall
      obtain ⟨hinit, hlast⟩ := List.append_inj' hall rfl
      obtain rfl := List.singleton_inj.mp hlast
      obtain ⟨cfg₁, c₁, op₁, k₁, hpast, hnext₁, hok₁, he, hrest⟩ := ih hinit
      exact ⟨cfg₁, c₁, op₁, k₁, hpast, hnext₁, hok₁, he, .step hrest hnext hok⟩

/-- What no program can do, no run does. -/
theorem Run.all {P : ι → Op → Prop} (hall : ∀ i, (cfg₀.procs i).All (P i))
    (hrun : Run M ok cfg₀ tr cfg) :
    (∀ e ∈ tr, P e.1 e.2.1) ∧ ∀ i, (cfg.procs i).All (P i) := by
  induction hrun with
  | init => exact ⟨by simp, hall⟩
  | @step tr cfg i c op k _ hnext _ ih =>
    obtain ⟨hpast, hrest⟩ := ih
    have hmove := hrest i
    rw [hnext] at hmove
    constructor
    · intro e he
      rcases List.mem_append.mp he with hold | hnew
      · exact hpast e hold
      · obtain rfl := List.mem_singleton.mp hnew
        exact hmove.1
    · intro j
      by_cases hji : j = i
      · subst hji
        simpa [Config.step] using hmove.2 _
      · simpa [Config.step, Function.update_of_ne hji] using hrest j

/-! ### Runs under a condition -/

/-- A run each of whose steps was taken under the condition `C`, on the history and
    the configuration that it has found. -/
inductive RunUnder (M : Machine Op Ans σ χ) (ok : ι → χ → Op → σ → Prop)
    (C : Trace ι Op Ans → Config Op Ans α ι σ → ι → χ → Op → Prop)
    (cfg₀ : Config Op Ans α ι σ) : Trace ι Op Ans → Config Op Ans α ι σ → Prop where
  | init : RunUnder M ok C cfg₀ [] cfg₀
  | step {tr : Trace ι Op Ans} {cfg : Config Op Ans α ι σ} {i : ι} {c : χ} {op : Op}
      {k : Ans op → Prog Op Ans α} (hrun : RunUnder M ok C cfg₀ tr cfg)
      (hnext : cfg.procs i = .call op k) (hok : ok i c op cfg.state) (hC : C tr cfg i c op) :
      RunUnder M ok C cfg₀ (tr ++ [(i, ⟨op, (M c op cfg.state).1⟩)]) (cfg.step M i c op k)

variable {C : Trace ι Op Ans → Config Op Ans α ι σ → ι → χ → Op → Prop}

theorem RunUnder.run (hrun : RunUnder M ok C cfg₀ tr cfg) : Run M ok cfg₀ tr cfg := by
  induction hrun with
  | init => exact .init
  | step _ hnext hok _ ih => exact .step ih hnext hok

/-- Every run is one under no condition. -/
theorem Run.unconditional (hrun : Run M ok cfg₀ tr cfg) :
    RunUnder M ok (fun _ _ _ _ _ => True) cfg₀ tr cfg := by
  induction hrun with
  | init => exact .init
  | step _ hnext hok ih => exact .step ih hnext hok trivial

/-- A run goes on from its history. -/
theorem RunUnder.trans (hfst : RunUnder M ok C cfg₀ tr cfg)
    (hsnd : RunUnder M ok (fun past => C (tr ++ past)) cfg tr' cfg') :
    RunUnder M ok C cfg₀ (tr ++ tr') cfg' := by
  induction hsnd with
  | init => simpa using hfst
  | step _ hnext hok hC ih =>
    rw [← List.append_assoc]
    exact .step ih hnext hok hC

/-- Under the condition, a run proves what its steps preserve. -/
theorem RunUnder.invariant {I : Trace ι Op Ans → Config Op Ans α ι σ → Prop}
    (hinit : I [] cfg₀)
    (hstep : ∀ tr cfg i c op k, Run M ok cfg₀ tr cfg → I tr cfg → cfg.procs i = .call op k →
      ok i c op cfg.state → C tr cfg i c op →
      I (tr ++ [(i, ⟨op, (M c op cfg.state).1⟩)]) (cfg.step M i c op k))
    (hrun : RunUnder M ok C cfg₀ tr cfg) : I tr cfg := by
  induction hrun with
  | init => exact hinit
  | step hpast hnext hok hC ih => exact hstep _ _ _ _ _ _ hpast.run ih hnext hok hC

/-- One program goes on alone, up to the end of its first part. -/
theorem Run.then_exec {p : Prog Op Ans β} {f : β → Prog Op Ans α} {i : ι} {evs : List (Ev Op Ans)}
    {b : β} {s' : σ} (hrun : Run M ok cfg₀ tr cfg) (hexec : Prog.Exec M (ok i) p cfg.state evs b s')
    (hproc : cfg.procs i = p >>= f) :
    ∃ tr', Run M ok cfg₀ tr' ⟨Function.update cfg.procs i (f b), s'⟩ := by
  generalize hs : cfg.state = s at hexec
  induction hexec generalizing tr cfg with
  | pure b s =>
    rw [show f b = cfg.procs i from hproc.symm, Function.update_eq_self, ← hs]
    exact ⟨tr, hrun⟩
  | @call op k s c evs a s' hok _ ih =>
    subst hs
    have hnext : cfg.procs i = .call op fun r => k r >>= f := hproc
    obtain ⟨tr', hrest⟩ := ih (hrun.step hnext hok) (Function.update_self ..) rfl
    rw [Config.step, Function.update_idem] at hrest
    exact ⟨tr', hrest⟩

/-! ### Executable schedules -/

/-- Follow a schedule: who moves next, and what the environment chooses. -/
def Config.follow (M : Machine Op Ans σ χ) (ok : ι → χ → Op → σ → Prop)
    [∀ i c op s, Decidable (ok i c op s)] :
    Config Op Ans α ι σ → List (ι × χ) → Option (Trace ι Op Ans × Config Op Ans α ι σ)
  | cfg, [] => some ([], cfg)
  | cfg, (i, c) :: rest =>
    match cfg.procs i with
    | .pure _ => none
    | .call op k =>
      if ok i c op cfg.state then
        ((cfg.step M i c op k).follow M ok rest).map
          fun out => ((i, ⟨op, (M c op cfg.state).1⟩) :: out.1, out.2)
      else none

theorem Run.of_follow [∀ i c op s, Decidable (ok i c op s)] {sched : List (ι × χ)}
    {out : Trace ι Op Ans × Config Op Ans α ι σ}
    (h : cfg₀.follow M ok sched = some out) : Run M ok cfg₀ out.1 out.2 := by
  induction sched generalizing cfg₀ out with
  | nil =>
    cases h
    exact .init
  | cons e rest ih =>
    obtain ⟨i, c⟩ := e
    simp only [Config.follow] at h
    split at h
    · cases h
    · rename_i op k hnext
      split at h
      · rename_i hok
        obtain ⟨out', hrest, rfl⟩ := Option.map_eq_some_iff.mp h
        exact (Run.step .init hnext hok).trans (ih hrest)
      · cases h

/-- Go on from a history along a schedule, as long as the condition is met. -/
def Config.followUnder (M : Machine Op Ans σ χ) (ok : ι → χ → Op → σ → Prop)
    (C : Trace ι Op Ans → Config Op Ans α ι σ → ι → χ → Op → Prop)
    [∀ i c op s, Decidable (ok i c op s)] [∀ tr cfg i c op, Decidable (C tr cfg i c op)] :
    Trace ι Op Ans → Config Op Ans α ι σ → List (ι × χ) →
    Option (Trace ι Op Ans × Config Op Ans α ι σ)
  | tr, cfg, [] => some (tr, cfg)
  | tr, cfg, (i, c) :: rest =>
    match cfg.procs i with
    | .pure _ => none
    | .call op k =>
      if ok i c op cfg.state ∧ C tr cfg i c op then
        followUnder M ok C (tr ++ [(i, ⟨op, (M c op cfg.state).1⟩)]) (cfg.step M i c op k) rest
      else none

theorem RunUnder.of_followUnder [∀ i c op s, Decidable (ok i c op s)]
    [∀ tr cfg i c op, Decidable (C tr cfg i c op)] {sched : List (ι × χ)}
    {out : Trace ι Op Ans × Config Op Ans α ι σ} (hrun : RunUnder M ok C cfg₀ tr cfg)
    (h : Config.followUnder M ok C tr cfg sched = some out) :
    RunUnder M ok C cfg₀ out.1 out.2 := by
  induction sched generalizing tr cfg with
  | nil =>
    cases h
    exact hrun
  | cons e rest ih =>
    obtain ⟨i, c⟩ := e
    simp only [Config.followUnder] at h
    split at h
    · cases h
    · rename_i op k hnext
      split at h
      · rename_i hmet
        exact ih (hrun.step hnext hmet.1 hmet.2) h
      · cases h

/-- Where a schedule leads, if it can be followed to its end. -/
def Config.after (M : Machine Op Ans σ χ) (ok : ι → χ → Op → σ → Prop)
    [∀ i c op s, Decidable (ok i c op s)] (cfg : Config Op Ans α ι σ) (sched : List (ι × χ)) :
    Config Op Ans α ι σ :=
  (cfg.follow M ok sched).elim cfg Prod.snd

theorem Run.after (M : Machine Op Ans σ χ) (ok : ι → χ → Op → σ → Prop)
    [∀ i c op s, Decidable (ok i c op s)] (cfg : Config Op Ans α ι σ) (sched : List (ι × χ))
    (h : (cfg.follow M ok sched).isSome) : ∃ tr, Run M ok cfg tr (cfg.after M ok sched) := by
  obtain ⟨out, hout⟩ := Option.isSome_iff_exists.mp h
  refine ⟨out.1, ?_⟩
  rw [Config.after, hout]
  exact .of_follow hout

end Runs

/-! ## Rely/guarantee -/

/-- `rg M ok R G p Q s`: from `s` on, whatever steps in `R` the others take in
    between, every step of `p` is in `G`, and `Q` holds where `p` ends. -/
def Prog.rg (M : Machine Op Ans σ χ) (ok : χ → Op → σ → Prop) (R : σ → σ → Prop)
    (G : σ → Ev Op Ans → σ → Prop) : Prog Op Ans α → (α → σ → Prop) → σ → Prop
  | .pure a, Q, s => Q a s
  | .call op k, Q, s => ∀ s', R s s' → ∀ c, ok c op s' →
      G s' ⟨op, (M c op s').1⟩ (M c op s').2 ∧
      Prog.rg M ok R G (k (M c op s').1) Q (M c op s').2

section RelyGuarantee

variable {M : Machine Op Ans σ χ} {ok : χ → Op → σ → Prop} {R : σ → σ → Prop}
variable {G : σ → Ev Op Ans → σ → Prop} {s s' : σ}

/-- Steps of the others do not disturb a proved program. -/
theorem Prog.rg_stable {p : Prog Op Ans α} (htrans : ∀ a b c, R a b → R b c → R a c)
    (hp : Prog.rg M ok R G p (fun _ _ => True) s) (hR : R s s') :
    Prog.rg M ok R G p (fun _ _ => True) s' := by
  cases p with
  | pure a => trivial
  | call op k => exact fun s'' hR' => hp s'' (htrans _ _ _ hR hR')

/-- One operation, from an assertion that the others leave alone. -/
theorem Prog.rg_perform {Q : α → σ → Prop} {op : Op} {f : Ans op → Prog Op Ans α} (P : σ → Prop)
    (hstable : ∀ s s', P s → R s s' → P s') (hP : P s)
    (hop : ∀ s, P s → ∀ c, ok c op s → G s ⟨op, (M c op s).1⟩ (M c op s).2 ∧
      Prog.rg M ok R G (f (M c op s).1) Q (M c op s).2) :
    Prog.rg M ok R G (Prog.perform op >>= f) Q s :=
  fun s' hR c hc => hop s' (hstable s s' hP hR) c hc

theorem Prog.rg_bind {Q : α → σ → Prop} {p : Prog Op Ans β} {f : β → Prog Op Ans α}
    (hp : Prog.rg M ok R G p (fun b s' => Prog.rg M ok R G (f b) Q s') s) :
    Prog.rg M ok R G (p >>= f) Q s := by
  induction p generalizing s with
  | pure b => exact hp
  | call op k ih =>
    intro s' hR c hc
    obtain ⟨hG, hrest⟩ := hp s' hR c hc
    exact ⟨hG, ih _ hrest⟩

theorem Prog.rg_mono {Q Q' : α → σ → Prop} {p : Prog Op Ans α} (hp : Prog.rg M ok R G p Q s)
    (hQ : ∀ a s, Q a s → Q' a s) : Prog.rg M ok R G p Q' s := by
  induction p generalizing s with
  | pure a => exact hQ a s hp
  | call op k ih =>
    intro s' hR c hc
    obtain ⟨hG, hrest⟩ := hp s' hR c hc
    exact ⟨hG, ih _ hrest⟩

/-- What holds without a condition on the steps holds under one. -/
theorem Prog.rg_weaken {ok' : χ → Op → σ → Prop} {Q : α → σ → Prop} {p : Prog Op Ans α}
    (hok : ∀ c op s, ok' c op s → ok c op s) (hp : Prog.rg M ok R G p Q s) :
    Prog.rg M ok' R G p Q s := by
  induction p generalizing s with
  | pure a => exact hp
  | call op k ih =>
    intro s' hR c hc
    obtain ⟨hG, hrest⟩ := hp s' hR c (hok c op s' hc)
    exact ⟨hG, ih _ hrest⟩

/-- An assertion that one round keeps holds through any number of rounds. -/
theorem Prog.rg_times {p : Prog Op Ans β} (I : σ → Prop) (n : Nat)
    (hround : ∀ s, I s → Prog.rg M ok R G p (fun _ s' => I s') s) (hI : I s) :
    Prog.rg M ok R G (p.times n) (fun _ s' => I s') s := by
  induction n generalizing s with
  | zero => exact hI
  | succ n ih => exact Prog.rg_bind (Prog.rg_mono (hround s hI) fun _ _ => ih)

end RelyGuarantee

section RunRules

variable [DecidableEq ι] {M : Machine Op Ans σ χ} {ok : ι → χ → Op → σ → Prop}
variable {cfg₀ cfg : Config Op Ans α ι σ} {tr : Trace ι Op Ans}

variable {R : ι → σ → σ → Prop} {G : ι → σ → Ev Op Ans → σ → Prop}

/-- Programs that meet their guarantees under their relies keep doing so in
    every interleaving, when each guarantee is something the others rely on. -/
theorem Run.rg_procs (hrefl : ∀ i s, R i s s) (htrans : ∀ i a b c, R i a b → R i b c → R i a c)
    (hGR : ∀ i j s ev s', i ≠ j → G i s ev s' → R j s s')
    (hprocs : ∀ i, Prog.rg M (ok i) (R i) (G i) (cfg₀.procs i) (fun _ _ => True) cfg₀.state)
    (hrun : Run M ok cfg₀ tr cfg) (j : ι) :
    Prog.rg M (ok j) (R j) (G j) (cfg.procs j) (fun _ _ => True) cfg.state := by
  revert j
  refine hrun.invariant (I := fun _ cfg => ∀ j, Prog.rg M (ok j) (R j) (G j) (cfg.procs j)
    (fun _ _ => True) cfg.state) hprocs ?_
  intro tr cfg i c op k hall hnext hok j
  have hmove := hall i
  rw [hnext] at hmove
  obtain ⟨hG, hrest⟩ := hmove cfg.state (hrefl i _) c hok
  by_cases hji : j = i
  · subst hji
    simpa [Config.step] using hrest
  · simp only [Config.step, Function.update_of_ne hji]
    exact Prog.rg_stable (htrans j) (hall j) (hGR i j _ _ _ (Ne.symm hji) hG)

/-- Then every step of every interleaving is in the guarantee of its program. -/
theorem Run.guarantee (hrefl : ∀ i s, R i s s) (htrans : ∀ i a b c, R i a b → R i b c → R i a c)
    (hGR : ∀ i j s ev s', i ≠ j → G i s ev s' → R j s s')
    (hprocs : ∀ i, Prog.rg M (ok i) (R i) (G i) (cfg₀.procs i) (fun _ _ => True) cfg₀.state)
    (hrun : Run M ok cfg₀ tr cfg) {i : ι} {c : χ} {op : Op} {k : Ans op → Prog Op Ans α}
    (hnext : cfg.procs i = .call op k) (hok : ok i c op cfg.state) :
    G i cfg.state ⟨op, (M c op cfg.state).1⟩ (M c op cfg.state).2 := by
  have hmove := hrun.rg_procs hrefl htrans hGR hprocs i
  rw [hnext] at hmove
  exact (hmove cfg.state (hrefl i _) c hok).1

/-- Every entry of the history is such a step. -/
theorem Run.guarantee_of_mem (hrefl : ∀ i s, R i s s)
    (htrans : ∀ i a b c, R i a b → R i b c → R i a c)
    (hGR : ∀ i j s ev s', i ≠ j → G i s ev s' → R j s s')
    (hprocs : ∀ i, Prog.rg M (ok i) (R i) (G i) (cfg₀.procs i) (fun _ _ => True) cfg₀.state)
    (hrun : Run M ok cfg₀ tr cfg) {e : ι × Ev Op Ans} (he : e ∈ tr) :
    ∃ s s', G e.1 s e.2 s' := by
  obtain ⟨past, rest, rfl⟩ := List.append_of_mem he
  obtain ⟨cfg₁, c, op, k, hpast, hnext, hok, hev, -⟩ := hrun.split
  rw [hev]
  exact ⟨_, _, hpast.guarantee hrefl htrans hGR hprocs hnext hok⟩

/-- What every such step keeps, the whole run keeps. -/
theorem Run.guarantee_trans {T : σ → σ → Prop} (hTrefl : ∀ s, T s s)
    (hTtrans : ∀ a b c, T a b → T b c → T a c) (hGT : ∀ i s ev s', G i s ev s' → T s s')
    (hrefl : ∀ i s, R i s s) (htrans : ∀ i a b c, R i a b → R i b c → R i a c)
    (hGR : ∀ i j s ev s', i ≠ j → G i s ev s' → R j s s')
    (hprocs : ∀ i, Prog.rg M (ok i) (R i) (G i) (cfg₀.procs i) (fun _ _ => True) cfg₀.state)
    (hrun : Run M ok cfg₀ tr cfg) : T cfg₀.state cfg.state := by
  induction hrun with
  | init => exact hTrefl _
  | step hpast hnext hok ih =>
    exact hTtrans _ _ _ ih (hGT _ _ _ _ (hpast.guarantee hrefl htrans hGR hprocs hnext hok))

end RunRules

/-! ## Monitors -/

section Monitors

variable {μ : Type}

/-- `Obeys δ Φ Ψ m p`: a monitor in state `m` that follows the operations of `p`
    and their answers by `δ` permits (`Φ`) every one of them, and is in `Ψ`
    where `p` ends. -/
def Prog.Obeys (δ : μ → Ev Op Ans → μ) (Φ : μ → Op → Prop) (Ψ : α → μ → Prop) :
    μ → Prog Op Ans α → Prop
  | m, .pure a => Ψ a m
  | m, .call op k => Φ m op ∧ ∀ r, Prog.Obeys δ Φ Ψ (δ m ⟨op, r⟩) (k r)

/-- Every entry of a history was permitted when it was made. -/
def Permitted (δ : μ → Ev Op Ans → μ) (Φ : μ → Op → Prop) : μ → List (Ev Op Ans) → Prop
  | _, [] => True
  | m, ev :: evs => Φ m ev.1 ∧ Permitted δ Φ (δ m ev) evs

variable {δ : μ → Ev Op Ans → μ} {Φ : μ → Op → Prop} {Ψ Ψ' : α → μ → Prop} {m : μ}

theorem Prog.Obeys.perform {op : Op} {f : Ans op → Prog Op Ans α} (hop : Φ m op)
    (hf : ∀ r, Prog.Obeys δ Φ Ψ (δ m ⟨op, r⟩) (f r)) :
    Prog.Obeys δ Φ Ψ m (Prog.perform op >>= f) :=
  ⟨hop, hf⟩

theorem Prog.Obeys.bind {p : Prog Op Ans β} {f : β → Prog Op Ans α}
    (hp : Prog.Obeys δ Φ (fun b m' => Prog.Obeys δ Φ Ψ m' (f b)) m p) :
    Prog.Obeys δ Φ Ψ m (p >>= f) := by
  induction p generalizing m with
  | pure b => exact hp
  | call op k ih => exact ⟨hp.1, fun r => ih r (hp.2 r)⟩

theorem Prog.Obeys.mono {p : Prog Op Ans α} (hp : Prog.Obeys δ Φ Ψ m p)
    (hΨ : ∀ a m, Ψ a m → Ψ' a m) : Prog.Obeys δ Φ Ψ' m p := by
  induction p generalizing m with
  | pure a => exact hΨ _ _ hp
  | call op k ih => exact ⟨hp.1, fun r => ih r (hp.2 r)⟩

/-- A program the monitor permits and does not react to leaves it where it is. -/
theorem Prog.Obeys.of_all {p : Prog Op Ans α}
    (hall : p.All fun op => Φ m op ∧ ∀ r, δ m ⟨op, r⟩ = m) :
    Prog.Obeys δ Φ (fun _ m' => m' = m) m p := by
  induction p with
  | pure a => rfl
  | call op k ih =>
    refine ⟨hall.1.1, fun r => ?_⟩
    rw [hall.1.2 r]
    exact ih r (hall.2 r)

/-- Such a program, in front of another. -/
theorem Prog.Obeys.skip {p : Prog Op Ans β} {f : β → Prog Op Ans α}
    (hall : p.All fun op => Φ m op ∧ ∀ r, δ m ⟨op, r⟩ = m)
    (hf : ∀ b, Prog.Obeys δ Φ Ψ m (f b)) : Prog.Obeys δ Φ Ψ m (p >>= f) := by
  refine Prog.Obeys.bind ((Prog.Obeys.of_all hall).mono ?_)
  rintro b m' rfl
  exact hf b

/-- What a monitor says of a program holds of its runs on any machine. -/
theorem Prog.wp_of_obeys {ok : χ → Op → σ → Prop} {M : Machine Op Ans σ χ} {p : Prog Op Ans α}
    {h : List (Ev Op Ans)} {s : σ} (hp : Prog.Obeys δ Φ Ψ (h.foldl δ m) p) :
    Prog.wp M ok p (fun a h' _ => Ψ a (h'.foldl δ m)) h s := by
  induction p generalizing h s with
  | pure a => exact hp
  | call op k ih =>
    intro c _
    refine ih _ ?_
    rw [List.foldl_append]
    exact hp.2 _

/-- A permitted program keeps, in a run of its own, the assertion that belongs to the
    state of the monitor, when every permitted operation does. -/
theorem Prog.wp_of_obeys_of {ok : χ → Op → σ → Prop} {M : Machine Op Ans σ χ} {p : Prog Op Ans α}
    {h : List (Ev Op Ans)} {s : σ} (A : μ → σ → Prop)
    (hop : ∀ m op, Φ m op → ∀ s, A m s → ∀ c, ok c op s →
      A (δ m ⟨op, (M c op s).1⟩) (M c op s).2)
    (hp : Prog.Obeys δ Φ Ψ m p) (hA : A m s) :
    Prog.wp M ok p (fun a _ s' => ∃ m', A m' s' ∧ Ψ a m') h s := by
  induction p generalizing m h s with
  | pure a => exact ⟨m, hA, hp⟩
  | call op k ih => exact fun c hc => ih _ (hp.2 _) (hop m op hp.1 s hA c hc)

/-- A monitor of a larger interface watches a program of one part of it. -/
theorem Prog.Obeys.inr {Op' : Type} {Ans' : Op' → Type}
    {δ : μ → Ev (Op' ⊕ Op) (Sum.elim Ans' Ans) → μ} {Φ : μ → Op' ⊕ Op → Prop} {p : Prog Op Ans α}
    (hp : Prog.Obeys (fun m ev => δ m ⟨.inr ev.1, ev.2⟩) (fun m op => Φ m (.inr op)) Ψ m p) :
    Prog.Obeys δ Φ Ψ m p.inr := by
  induction p generalizing m with
  | pure a => exact hp
  | call op k ih => exact ⟨hp.1, fun r => ih r (hp.2 r)⟩

/-- The same for the other part. -/
theorem Prog.Obeys.inl {Op' : Type} {Ans' : Op' → Type}
    {δ : μ → Ev (Op ⊕ Op') (Sum.elim Ans Ans') → μ} {Φ : μ → Op ⊕ Op' → Prop} {p : Prog Op Ans α}
    (hp : Prog.Obeys (fun m ev => δ m ⟨.inl ev.1, ev.2⟩) (fun m op => Φ m (.inl op)) Ψ m p) :
    Prog.Obeys δ Φ Ψ m p.inl := by
  induction p generalizing m with
  | pure a => exact hp
  | call op k ih => exact ⟨hp.1, fun r => ih r (hp.2 r)⟩

theorem permitted_append {evs evs' : List (Ev Op Ans)} :
    Permitted δ Φ m (evs ++ evs') ↔
      Permitted δ Φ m evs ∧ Permitted δ Φ (evs.foldl δ m) evs' := by
  induction evs generalizing m with
  | nil => simp [Permitted]
  | cons ev evs ih => simp [Permitted, ih, and_assoc]

/-- What a monitor permits from the states in `J` on, where it stays, the history
    consists of. -/
theorem Permitted.forall_mem {J : μ → Prop} {P : Op → Prop} {evs : List (Ev Op Ans)}
    (h : Permitted δ Φ m evs) (hm : J m) (hJ : ∀ m ev, J m → J (δ m ev))
    (hP : ∀ m op, J m → Φ m op → P op) : ∀ ev ∈ evs, P ev.1 := by
  induction evs generalizing m with
  | nil => simp
  | cons ev evs ih =>
    rw [List.forall_mem_cons]
    exact ⟨hP m ev.1 hm h.1, ih h.2 (hJ m ev hm)⟩

variable [DecidableEq ι] {M : Machine Op Ans σ χ} {ok : ι → χ → Op → σ → Prop}
variable {cfg₀ cfg : Config Op Ans α ι σ} {tr : Trace ι Op Ans}

theorem Trace.local_append (tr tr' : Trace ι Op Ans) (i : ι) :
    Trace.local (tr ++ tr') i = Trace.local tr i ++ Trace.local tr' i :=
  List.filterMap_append

theorem Trace.mem_local {tr : Trace ι Op Ans} {i : ι} {ev : Ev Op Ans} :
    ev ∈ tr.local i ↔ (i, ev) ∈ tr := by
  rw [Trace.local, List.mem_filterMap]
  constructor
  · rintro ⟨⟨j, ev'⟩, he, hif⟩
    by_cases hji : j = i
    · subst hji
      rw [if_pos rfl, Option.some_inj] at hif
      rwa [← hif]
    · rw [if_neg hji] at hif
      cases hif
  · intro he
    exact ⟨_, he, if_pos rfl⟩

/-- An entry of program `i`, in the middle of its part of the history. -/
theorem Trace.local_middle (tr tr' : Trace ι Op Ans) (i : ι) (ev : Ev Op Ans) :
    Trace.local (tr ++ (i, ev) :: tr') i = Trace.local tr i ++ ev :: Trace.local tr' i := by
  rw [Trace.local_append, ← List.singleton_append, Trace.local_append]
  simp [Trace.local]

/-- In every interleaving, a monitor of one program follows that program's own
    history: it permitted all of it, and goes on to permit the rest. -/
theorem Run.obeys_local (i : ι) (hproc : Prog.Obeys δ Φ Ψ m (cfg₀.procs i))
    (hrun : Run M ok cfg₀ tr cfg) :
    Permitted δ Φ m (tr.local i) ∧
      Prog.Obeys δ Φ Ψ ((tr.local i).foldl δ m) (cfg.procs i) := by
  refine hrun.invariant
    (I := fun tr cfg => Permitted δ Φ m (Trace.local tr i) ∧
      Prog.Obeys δ Φ Ψ ((Trace.local tr i).foldl δ m) (cfg.procs i))
    ⟨trivial, hproc⟩ ?_
  rintro tr cfg j c op k ⟨hpast, hrest⟩ hnext -
  rw [Trace.local_append, List.foldl_append, permitted_append]
  by_cases hji : j = i
  · subst hji
    rw [hnext] at hrest
    simpa [Trace.local, Config.step, Permitted] using ⟨⟨hpast, hrest.1⟩, hrest.2 _⟩
  · simpa [Trace.local, Config.step, hji, Function.update_of_ne (Ne.symm hji), Permitted]
      using ⟨hpast, hrest⟩

/-- Monitors that follow all programs at once: what belongs to their states is kept when
    every operation that a monitor permits keeps it. -/
theorem Run.monitored {Φ : ι → μ → Op → Prop} {Ψ : ι → α → μ → Prop} {m₀ : ι → μ}
    {J : Trace ι Op Ans → (ι → μ) → σ → Prop}
    (hprocs : ∀ i, Prog.Obeys δ (Φ i) (Ψ i) (m₀ i) (cfg₀.procs i)) (hinit : J [] m₀ cfg₀.state)
    (hstep : ∀ tr m s i c op, J tr m s → Φ i (m i) op → ok i c op s →
      J (tr ++ [(i, ⟨op, (M c op s).1⟩)]) (Function.update m i (δ (m i) ⟨op, (M c op s).1⟩)) (M c op s).2)
    (hrun : Run M ok cfg₀ tr cfg) :
    ∃ m, J tr m cfg.state ∧ ∀ i, Prog.Obeys δ (Φ i) (Ψ i) (m i) (cfg.procs i) := by
  refine hrun.invariant (I := fun tr cfg => ∃ m, J tr m cfg.state ∧
    ∀ i, Prog.Obeys δ (Φ i) (Ψ i) (m i) (cfg.procs i)) ⟨m₀, hinit, hprocs⟩ ?_
  rintro tr cfg i c op k ⟨m, hJ, hobeys⟩ hnext hok
  have hmove := hobeys i
  rw [hnext] at hmove
  refine ⟨_, hstep tr m cfg.state i c op hJ hmove.1 hok, fun j => ?_⟩
  by_cases hji : j = i
  · subst hji
    simpa [Config.step] using hmove.2 _
  · simpa [Config.step, Function.update_of_ne hji] using hobeys j

/-- In every interleaving whose answers are ones that its abstract run expects, that
    run follows a program: it permitted what has been done, and goes on from there. -/
theorem Run.awp_local {ρ : μ → (op : Op) → Ans op → Prop} {Q : α → μ → Prop} (i : ι)
    (hproc : Prog.awp δ Φ ρ (cfg₀.procs i) Q m) (hrun : Run M ok cfg₀ tr cfg)
    (hans : ∀ ev ∈ tr.local i, ∀ m, ρ m ev.1 ev.2) :
    Permitted δ Φ m (tr.local i) ∧ Prog.awp δ Φ ρ (cfg.procs i) Q ((tr.local i).foldl δ m) := by
  induction hrun with
  | init => exact ⟨trivial, hproc⟩
  | @step tr cfg j c op k _ hnext _ ih =>
    rw [Trace.local_append] at hans ⊢
    obtain ⟨hpast, hrest⟩ := ih fun ev hev => hans ev (List.mem_append_left _ hev)
    rw [List.foldl_append, permitted_append]
    by_cases hji : j = i
    · subst hji
      rw [hnext] at hrest
      have hanswer := hans ⟨op, (M c op cfg.state).1⟩ (List.mem_append_right _ (by simp [Trace.local]))
      simpa [Trace.local, Config.step, Permitted] using ⟨⟨hpast, hrest.1⟩, hrest.2 _ (hanswer _)⟩
    · simpa [Trace.local, Config.step, hji, Function.update_of_ne (Ne.symm hji), Permitted]
        using ⟨hpast, hrest⟩

/-- The monitor that remembers everything. -/
def history (h : List (Ev Op Ans)) (ev : Ev Op Ans) : List (Ev Op Ans) := h ++ [ev]

theorem foldl_history (h evs : List (Ev Op Ans)) : evs.foldl history h = h ++ evs := by
  induction evs generalizing h with
  | nil => simp
  | cons ev evs ih => simp [ih, history]

/-- A program whose operations are permitted in every state of the monitor. -/
theorem Prog.Obeys.of_forall {p : Prog Op Ans α} (hall : p.All fun op => ∀ m, Φ m op) :
    Prog.Obeys δ Φ (fun _ _ => True) m p := by
  induction p generalizing m with
  | pure a => trivial
  | call op k ih => exact ⟨hall.1 m, fun r => ih r (hall.2 r)⟩

/-- In front of another, such a program lets the history only grow. -/
theorem Prog.Obeys.skip_history {Φ : List (Ev Op Ans) → Op → Prop}
    {Ψ : α → List (Ev Op Ans) → Prop} {h : List (Ev Op Ans)} {p : Prog Op Ans β}
    {f : β → Prog Op Ans α} (hall : p.All fun op => ∀ h, Φ h op)
    (hf : ∀ b h', h ⊆ h' → Prog.Obeys history Φ Ψ h' (f b)) :
    Prog.Obeys history Φ Ψ h (p >>= f) := by
  induction p generalizing h with
  | pure b => exact hf b h (List.Subset.refl h)
  | call op k ih =>
    refine ⟨hall.1 h, fun r => ih r (hall.2 r) fun b h' hsub => hf b h' ?_⟩
    exact List.Subset.trans (List.subset_append_left h _) hsub

/-- What is in the history stays there, whatever the program does. -/
theorem Prog.Obeys.of_mem {ev : Ev Op Ans} {h : List (Ev Op Ans)} (p : Prog Op Ans α)
    (hmem : ev ∈ h) : Prog.Obeys history (fun _ _ => True) (fun _ h' => ev ∈ h') h p := by
  induction p generalizing h with
  | pure a => exact hmem
  | call op k ih => exact ⟨trivial, fun r => ih r (List.mem_append_left _ hmem)⟩

/-- What the monitor does not permit from the states in `J` on, where it stays, the
    program cannot do. -/
theorem Prog.Obeys.all_from {J : μ → Prop} {P : Op → Prop} {p : Prog Op Ans α} (hm : J m)
    (hJ : ∀ m ev, J m → J (δ m ev)) (hP : ∀ m op, J m → Φ m op → P op)
    (hp : Prog.Obeys δ Φ Ψ m p) : p.All P := by
  induction p generalizing m with
  | pure a => trivial
  | call op k ih => exact ⟨hP m op hm hp.1, fun r => ih r (hJ m _ hm) (hp.2 r)⟩

/-- What the monitor never permits, the program cannot do. -/
theorem Prog.Obeys.all {P : Op → Prop} {p : Prog Op Ans α} (hP : ∀ m op, Φ m op → P op)
    (hp : Prog.Obeys δ Φ Ψ m p) : p.All P :=
  hp.all_from (J := fun _ => True) trivial (fun _ _ _ => trivial) fun m op _ => hP m op

/-- What is left of a program is determined by its own part of the history. -/
theorem Run.residual_local (i : ι) (hrun : Run M ok cfg₀ tr cfg) :
    Prog.Residual (cfg₀.procs i) (tr.local i) (cfg.procs i) := by
  induction hrun with
  | init => exact .nil _
  | @step tr cfg j c op k _ hnext _ ih =>
    rw [Trace.local_append]
    by_cases hji : j = i
    · subst hji
      rw [hnext] at ih
      simpa [Trace.local, Config.step] using ih.snoc _
    · simpa [Trace.local, Config.step, hji, Function.update_of_ne (Ne.symm hji)] using ih

/-- A permitted program meets its guarantee, when every permitted operation does
    and keeps the assertion that belongs to the state of the monitor. -/
theorem Prog.rg_of_obeys {ok : χ → Op → σ → Prop} {R : σ → σ → Prop}
    {G : σ → Ev Op Ans → σ → Prop} {Q : α → σ → Prop} {p : Prog Op Ans α} {s : σ}
    (A : μ → σ → Prop) (hstable : ∀ m s s', A m s → R s s' → A m s')
    (hop : ∀ m op, Φ m op → ∀ s, A m s → ∀ c, ok c op s →
      G s ⟨op, (M c op s).1⟩ (M c op s).2 ∧ A (δ m ⟨op, (M c op s).1⟩) (M c op s).2)
    (hend : ∀ a m s, Ψ a m → A m s → Q a s) (hp : Prog.Obeys δ Φ Ψ m p) (hA : A m s) :
    Prog.rg M ok R G p Q s := by
  induction p generalizing m s with
  | pure a => exact hend a m s hp hA
  | call op k ih =>
    intro s' hR c hc
    obtain ⟨hG, hA'⟩ := hop m op hp.1 s' (hstable m s s' hA hR) c hc
    exact ⟨hG, ih _ (hp.2 _) hA'⟩

/-- The same for a program over one of two interfaces, in a system with both. -/
theorem Prog.rg_inr_of_obeys {Op' : Type} {Ans' : Op' → Type} {σ' χ' : Type}
    {M' : Machine Op' Ans' σ' χ'} {ok : χ' × χ → Op' ⊕ Op → σ' × σ → Prop}
    {R : σ' × σ → σ' × σ → Prop}
    {G : σ' × σ → Ev (Op' ⊕ Op) (Sum.elim Ans' Ans) → σ' × σ → Prop}
    {Q : α → σ' × σ → Prop} {p : Prog Op Ans α} {s : σ' × σ} (A : μ → σ' × σ → Prop)
    (hstable : ∀ m s s', A m s → R s s' → A m s')
    (hop : ∀ m op, Φ m op → ∀ s, A m s → ∀ c, ok c (.inr op) s →
      G s ⟨.inr op, (M c.2 op s.2).1⟩ (s.1, (M c.2 op s.2).2) ∧
      A (δ m ⟨op, (M c.2 op s.2).1⟩) (s.1, (M c.2 op s.2).2))
    (hend : ∀ a m s, Ψ a m → A m s → Q a s) (hp : Prog.Obeys δ Φ Ψ m p) (hA : A m s) :
    Prog.rg (M'.sum M) ok R G p.inr Q s := by
  induction p generalizing m s with
  | pure a => exact hend a m s hp hA
  | call op k ih =>
    intro s' hR c hc
    obtain ⟨hG, hA'⟩ := hop m op hp.1 s' (hstable m s s' hA hR) c hc
    exact ⟨hG, ih _ (hp.2 _) hA'⟩

end Monitors

/-! ## Weights -/

section Weights

/-- The total weight of a history. -/
def weigh (w : Op → Int) (evs : List (Ev Op Ans)) : Int := (evs.map fun ev => w ev.1).sum

/-- The total weight of an interleaved history. -/
def Trace.weigh (w : Op → Int) (tr : Trace ι Op Ans) : Int := (tr.map fun e => w e.2.1).sum

theorem Trace.weigh_append (w : Op → Int) (tr : Trace ι Op Ans) (i : ι) (ev : Ev Op Ans) :
    Trace.weigh w (tr ++ [(i, ev)]) = Trace.weigh w tr + w ev.1 := by
  simp [Trace.weigh]

variable [DecidableEq ι]

/-- A sum over the entries of a history, program by program. -/
theorem Trace.sum_eq_sum_local {N : Type} [AddCommMonoid N] (f : Ev Op Ans → N)
    (tr : Trace ι Op Ans) (S : Finset ι) (hS : ∀ e ∈ tr, e.1 ∈ S) :
    (tr.map fun e => f e.2).sum = ∑ i ∈ S, ((tr.local i).map f).sum := by
  induction tr with
  | nil => simp [Trace.local]
  | cons e tr ih =>
    -- the entry counts for its own program only
    have hlocal : ∀ i, ((Trace.local (e :: tr) i).map f).sum =
        (if i = e.1 then f e.2 else 0) + ((Trace.local tr i).map f).sum := by
      intro i
      by_cases hi : e.1 = i
      · simp [Trace.local, hi]
      · simp [Trace.local, hi, Ne.symm hi]
    have htail := ih fun e' he' => hS e' (List.mem_cons_of_mem _ he')
    have hmem : e.1 ∈ S := hS e List.mem_cons_self
    simp only [hlocal, Finset.sum_add_distrib, ← htail, Finset.sum_ite_eq', hmem, if_true]
    rw [List.map_cons, List.sum_cons]

/-- The programs that have made an entry. -/
def Trace.movers (tr : Trace ι Op Ans) : Finset ι := (tr.map Prod.fst).toFinset

theorem Trace.mem_movers {tr : Trace ι Op Ans} {e : ι × Ev Op Ans} (he : e ∈ tr) :
    e.1 ∈ tr.movers :=
  List.mem_toFinset.mpr (List.mem_map_of_mem he)

theorem Trace.weigh_eq_sum_local (w : Op → Int) (tr : Trace ι Op Ans) (S : Finset ι)
    (hS : ∀ e ∈ tr, e.1 ∈ S) : Trace.weigh w tr = ∑ i ∈ S, Effect.weigh w (tr.local i) :=
  tr.sum_eq_sum_local (fun ev => w ev.1) S hS

/-- What no program overdraws, no interleaving overdraws. -/
theorem Trace.weigh_nonneg {w : Op → Int} {tr : Trace ι Op Ans}
    (hlocal : ∀ i, 0 ≤ Effect.weigh w (tr.local i)) : 0 ≤ Trace.weigh w tr := by
  rw [Trace.weigh_eq_sum_local w tr tr.movers fun _ => Trace.mem_movers]
  exact Finset.sum_nonneg fun i _ => hlocal i

omit [DecidableEq ι] in
/-- A count is a sum of ones. -/
theorem countP_eq_sum {γ : Type} (p : γ → Bool) (l : List γ) :
    l.countP p = (l.map fun x => (p x).toNat).sum := by
  induction l with
  | nil => rfl
  | cons x l ih =>
    rw [List.countP_cons, ih, List.map_cons, List.sum_cons, Nat.add_comm]
    cases p x <;> rfl

/-- The entries of a kind, program by program. -/
theorem Trace.countP_eq_sum_local (p : Ev Op Ans → Bool) (tr : Trace ι Op Ans) (S : Finset ι)
    (hS : ∀ e ∈ tr, e.1 ∈ S) : (tr.countP fun e => p e.2) = ∑ i ∈ S, (tr.local i).countP p := by
  simp only [countP_eq_sum]
  exact tr.sum_eq_sum_local (fun ev => (p ev).toNat) S hS

/-- What every program has made of one kind and of another the same of, in the same order,
    an interleaving has the same of. -/
theorem Trace.filterMap_perm {γ : Type} {f g : Ev Op Ans → Option γ} {tr : Trace ι Op Ans}
    (hlocal : ∀ i, (tr.local i).filterMap f = (tr.local i).filterMap g) :
    ((tr.map Prod.snd).filterMap f).Perm ((tr.map Prod.snd).filterMap g) := by
  -- as multisets, both are the sum over the programs
  have hsum : ∀ (f : Ev Op Ans → Option γ) (l : List (Ev Op Ans)),
      ((l.filterMap f : List γ) : Multiset γ) = (l.map fun ev => ((f ev).toList : Multiset γ)).sum := by
    intro f l
    induction l with
    | nil => rfl
    | cons ev l ih =>
      rw [List.map_cons, List.sum_cons, ← ih, Multiset.coe_add]
      cases hf : f ev <;> simp [hf]
  have hall : ∀ f : Ev Op Ans → Option γ, (((tr.map Prod.snd).filterMap f : List γ) : Multiset γ) =
      ∑ i ∈ tr.movers, (((tr.local i).filterMap f : List γ) : Multiset γ) := by
    intro f
    rw [hsum, List.map_map]
    simp only [hsum]
    exact tr.sum_eq_sum_local (fun ev => ((f ev).toList : Multiset γ)) _ fun _ => Trace.mem_movers
  rw [← Multiset.coe_eq_coe, hall, hall]
  exact Finset.sum_congr rfl fun i _ => by rw [hlocal]

/-- When every program makes at most as many entries of one kind as of another,
    so does every interleaving. -/
theorem Trace.countP_le {p q : Ev Op Ans → Bool} {tr : Trace ι Op Ans}
    (hlocal : ∀ i, (tr.local i).countP p ≤ (tr.local i).countP q) :
    (tr.countP fun e => p e.2) ≤ tr.countP fun e => q e.2 := by
  have hS : ∀ e ∈ tr, e.1 ∈ tr.movers := fun _ => Trace.mem_movers
  rw [Trace.countP_eq_sum_local p tr _ hS, Trace.countP_eq_sum_local q tr _ hS]
  exact Finset.sum_le_sum fun i _ => hlocal i

end Weights

end Effect
