/-
  Katapult.Effect.TwoRuns

  One program, run twice.

  A run along a schedule is determined: `replay` gives its history, with the
  state after every operation.  A program that does not look at the answers of
  some operations (`Ignores`) takes the same course whatever these operations
  answer, and two of its runs differ in those answers only, as far as the part
  `π` of the state goes that these operations leave alone.
-/

import Katapult.Effect.Prog

namespace Effect

variable {Op : Type} {Ans : Op → Type} {α β σ χ τ : Type}

/-- A run: every operation with its answer and the state after it, what the
    program returned, and the state it ended in. -/
structure Recording (Op : Type) (Ans : Op → Type) (α σ : Type) where
  steps : List (Ev Op Ans × σ)
  result : α
  final : σ

namespace Recording

/-- The operations, in their order. -/
def ops (x : Recording Op Ans α σ) : List Op := x.steps.map fun step => step.1.1

/-- The history of the run. -/
def history (x : Recording Op Ans α σ) : List (Ev Op Ans) := x.steps.map Prod.fst

/-- The operations that `P` selects, with their answers and the part `π` of the
    state after each. -/
def select (P : Op → Bool) (π : σ → τ) (x : Recording Op Ans α σ) : List (Ev Op Ans × τ) :=
  x.steps.filterMap fun step => if P step.1.1 then some (step.1, π step.2) else none

end Recording

namespace Prog

/-- The run in which the `n`-th operation meets the choice of the schedule. -/
def replay (M : Machine Op Ans σ χ) (choose : Nat → Op → χ) :
    Prog Op Ans α → Nat → σ → Recording Op Ans α σ
  | .pure a, _, s => ⟨[], a, s⟩
  | .call op k, n, s =>
      let out := M (choose n op) op s
      let rest := replay M choose (k out.1) (n + 1) out.2
      { rest with steps := (⟨op, out.1⟩, out.2) :: rest.steps }

/-- A replayed run is a run. -/
theorem exec_replay {M : Machine Op Ans σ χ} {ok : χ → Op → σ → Prop} {choose : Nat → Op → χ}
    (hok : ∀ n op s, ok (choose n op) op s) (p : Prog Op Ans α) (n : Nat) (s : σ) :
    Exec M ok p s (p.replay M choose n s).history (p.replay M choose n s).result
      (p.replay M choose n s).final := by
  induction p generalizing n s with
  | pure a => exact .pure a s
  | call op k ih => exact .call (hok n op s) (ih _ (n + 1) _)

/-! ## Programs that ignore answers -/

/-- Whatever an operation of `L` answers, the program goes on in the same way. -/
def Ignores (L : Op → Prop) : Prog Op Ans α → Prop
  | .pure _ => True
  | .call op k => (L op → ∀ r r', k r = k r') ∧ ∀ r, Ignores L (k r)

section Ignores

variable {L : Op → Prop}

theorem ignores_of_all {p : Prog Op Ans α} (hp : p.All fun op => ¬ L op) : p.Ignores L := by
  induction p with
  | pure a => trivial
  | call op k ih => exact ⟨fun hop => absurd hop hp.1, fun r => ih r (hp.2 r)⟩

theorem Ignores.bind {p : Prog Op Ans β} {f : β → Prog Op Ans α} (hp : p.Ignores L)
    (hf : ∀ b, (f b).Ignores L) : (p >>= f).Ignores L := by
  induction p with
  | pure b => exact hf b
  | call op k ih =>
    refine ⟨fun hop r r' => ?_, fun r => ih r (hp.2 r)⟩
    show k r >>= f = k r' >>= f
    rw [hp.1 hop r r']

theorem Ignores.ite {c : Prop} [Decidable c] {p q : Prog Op Ans α} (hp : p.Ignores L)
    (hq : q.Ignores L) : (if c then p else q).Ignores L := by
  by_cases hc : c
  · rw [if_pos hc]
    exact hp
  · rw [if_neg hc]
    exact hq

/-- An operation whose answer decides what is next. -/
theorem ignores_perform {op : Op} {f : Ans op → Prog Op Ans α} (hop : ¬ L op)
    (hf : ∀ r, (f r).Ignores L) : (perform op >>= f).Ignores L :=
  ⟨fun h => absurd h hop, hf⟩

/-- An operation whose answer is thrown away. -/
theorem ignores_skip {op : Op} {p : Prog Op Ans α} (hp : p.Ignores L) :
    (perform op >>= fun _ => p).Ignores L :=
  ⟨fun _ _ _ => rfl, fun _ => hp⟩

end Ignores

/-! ## Two runs -/

/-- On the part `π` of the state, the operations of `L` have no effect, and the
    effect and the answer of every other operation depend on that part only. -/
structure Blind (M : Machine Op Ans σ χ) (L : Op → Prop) (π : σ → τ) : Prop where
  ignored : ∀ c op s, L op → π (M c op s).2 = π s
  seen : ∀ c op s s', ¬ L op → π s = π s' →
    (M c op s).1 = (M c op s').1 ∧ π (M c op s).2 = π (M c op s').2

/-- The same operation, with the same answer unless it is one of `L`. -/
def SameStep (L : Op → Prop) (π : σ → τ) (x y : Ev Op Ans × σ) : Prop :=
  x.1.1 = y.1.1 ∧ (¬ L x.1.1 → x.1 = y.1) ∧ π x.2 = π y.2

/-- Two runs that differ in the answers of `L` only. -/
structure Alike (L : Op → Prop) (π : σ → τ) (x y : Recording Op Ans α σ) : Prop where
  steps : List.Forall₂ (SameStep L π) x.steps y.steps
  result : x.result = y.result
  final : π x.final = π y.final

/-- Two runs of a program that ignores the answers of `L`, under schedules that
    differ on `L` only. -/
theorem Ignores.replay {M : Machine Op Ans σ χ} {L : Op → Prop} {π : σ → τ} (hM : Blind M L π)
    {choose choose' : Nat → Op → χ} (hsame : ∀ n op, ¬ L op → choose n op = choose' n op)
    {p : Prog Op Ans α} (hp : p.Ignores L) (n : Nat) {s s' : σ} (hs : π s = π s') :
    Alike L π (p.replay M choose n s) (p.replay M choose' n s') := by
  induction p generalizing n s s' with
  | pure a => exact ⟨.nil, rfl, hs⟩
  | call op k ih =>
    -- the answers may differ, but then the rest of the program does not
    have hnext : k (M (choose' n op) op s').1 = k (M (choose n op) op s).1 ∧
        SameStep L π (⟨op, (M (choose n op) op s).1⟩, (M (choose n op) op s).2)
          (⟨op, (M (choose' n op) op s').1⟩, (M (choose' n op) op s').2) := by
      by_cases hop : L op
      · refine ⟨hp.1 hop _ _, rfl, fun h => absurd hop h, ?_⟩
        show π (M (choose n op) op s).2 = π (M (choose' n op) op s').2
        rw [hM.ignored _ op s hop, hM.ignored _ op s' hop, hs]
      · obtain ⟨hanswer, hπ⟩ := hM.seen (choose n op) op s s' hop hs
        rw [hsame n op hop] at hanswer hπ ⊢
        rw [hanswer]
        exact ⟨rfl, rfl, fun _ => rfl, hπ⟩
    obtain ⟨hcourse, hstep⟩ := hnext
    have hrest := ih _ (hp.2 (M (choose n op) op s).1) (n + 1) hstep.2.2
    simp only [Prog.replay]
    rw [hcourse]
    exact ⟨.cons hstep hrest.steps, hrest.result, hrest.final⟩

section Alike

variable {L : Op → Prop} {π : σ → τ} {x y : Recording Op Ans α σ}

/-- What two runs show alike step by step, they show alike. -/
theorem Alike.map_eq {γ : Type} (h : Alike L π x y) {f : Ev Op Ans × σ → γ}
    (hf : ∀ a b, SameStep L π a b → f a = f b) : x.steps.map f = y.steps.map f := by
  -- only the lists of steps matter from here on
  have hsteps := h.steps
  generalize x.steps = xs at hsteps ⊢
  generalize y.steps = ys at hsteps ⊢
  induction hsteps with
  | nil => rfl
  | cons hstep _ ih => rw [List.map_cons, List.map_cons, hf _ _ hstep, ih]

/-- The two runs perform the same operations. -/
theorem Alike.ops_eq (h : Alike L π x y) : x.ops = y.ops := h.map_eq fun _ _ hstep => hstep.1

/-- What a selection outside `L` shows is the same. -/
theorem Alike.select_eq (h : Alike L π x y) {P : Op → Bool} (hP : ∀ op, P op = true → ¬ L op) :
    x.select P π = y.select P π := by
  let shown : Ev Op Ans × σ → Option (Ev Op Ans × τ) := fun step =>
    if P step.1.1 then some (step.1, π step.2) else none
  have hsame : ∀ a b, SameStep L π a b → shown a = shown b := by
    intro a b ⟨hop, hev, hπ⟩
    by_cases ha : P a.1.1 = true
    · have hb : P b.1.1 = true := hop ▸ ha
      simp only [shown, if_pos ha, if_pos hb, hev (hP _ ha), hπ]
    · have hb : ¬ P b.1.1 = true := hop ▸ ha
      simp only [shown, if_neg ha, if_neg hb]
  -- a selection is a map to options, of which the empty ones are dropped
  have hreduced := congrArg (List.filterMap id) (h.map_eq hsame)
  rw [List.filterMap_map, List.filterMap_map] at hreduced
  exact hreduced

end Alike

end Prog

end Effect
