/-
  Katapult.Effect.Prog

  Effect programs: sequential code that reaches its environment only through
  named operations.  `Prog Op Ans α` is the tree of operations a piece of code
  performs, branching on every answer; a `Machine` says what one operation does
  to a shared state for each choice of the environment (`χ`: does the call
  fail, what does the clock read, ...).

  One program text carries several semantics.  This file gives the sequential
  ones: `Exec` (a complete run with its history), `wp` (the pre-condition
  transformer the proofs use) and `eval` (an executable run along a tape of
  environment choices).  `Effect.Interleaving` adds the concurrent one.
-/

import Mathlib.Logic.Function.Basic
import Mathlib.Data.List.Basic

namespace Effect

/-- A program over the operations `Op`, whose answers have the types `Ans`. -/
inductive Prog (Op : Type) (Ans : Op → Type) (α : Type) : Type where
  | pure (a : α) : Prog Op Ans α
  | call (op : Op) (k : Ans op → Prog Op Ans α) : Prog Op Ans α

/-- What was asked and what was answered, in one entry of a history. -/
abbrev Ev (Op : Type) (Ans : Op → Type) : Type := (op : Op) × Ans op

/-- One operation, executed atomically under one environment choice. -/
abbrev Machine (Op : Type) (Ans : Op → Type) (σ χ : Type) : Type :=
  χ → (op : Op) → σ → Ans op × σ

variable {Op : Type} {Ans : Op → Type} {α β γ σ χ ρ : Type}

namespace Prog

/-! ## The monad -/

def bind : Prog Op Ans α → (α → Prog Op Ans β) → Prog Op Ans β
  | .pure a, f => f a
  | .call op k, f => .call op fun r => bind (k r) f

/-- The program that performs one operation and returns its answer. -/
def perform (op : Op) : Prog Op Ans (Ans op) := .call op .pure

instance : Monad (Prog Op Ans) where
  pure := .pure
  bind := bind

@[simp] theorem pure_eq (a : α) : (Pure.pure a : Prog Op Ans α) = .pure a := rfl

@[simp] theorem pure_bind_eq (a : α) (f : α → Prog Op Ans β) :
    (Prog.pure a : Prog Op Ans α) >>= f = f a := rfl

@[simp] theorem call_bind_eq (op : Op) (k : Ans op → Prog Op Ans α) (f : α → Prog Op Ans β) :
    (Prog.call op k : Prog Op Ans α) >>= f = .call op fun r => k r >>= f := rfl

/-- Run the program `n` times, each result thrown away. -/
def times (p : Prog Op Ans α) : Nat → Prog Op Ans Unit
  | 0 => .pure ()
  | n + 1 => p >>= fun _ => p.times n

/-- What the program returns, if it has ended. -/
def result? : Prog Op Ans α → Option α
  | .pure a => some a
  | .call _ _ => none

theorem eq_pure_of_result? {p : Prog Op Ans α} {a : α} (h : p.result? = some a) : p = .pure a := by
  cases p with
  | pure b =>
    cases h
    rfl
  | call op k => cases h

/-- The operation the program performs next, if it has not ended. -/
def next? : Prog Op Ans α → Option Op
  | .pure _ => none
  | .call op _ => some op

theorem eq_call_of_next? {p : Prog Op Ans α} {op : Op} (h : p.next? = some op) :
    ∃ k, p = .call op k := by
  cases p with
  | pure b => cases h
  | call op' k =>
    cases h
    exact ⟨k, rfl⟩

/-- Every operation the program can ever perform satisfies `P`. -/
def All (P : Op → Prop) : Prog Op Ans α → Prop
  | .pure _ => True
  | .call op k => P op ∧ ∀ r, All P (k r)

@[simp] theorem all_pure {P : Op → Prop} (a : α) : (Prog.pure a : Prog Op Ans α).All P := trivial

@[simp] theorem all_call {P : Op → Prop} {op : Op} {k : Ans op → Prog Op Ans α} :
    (Prog.call op k).All P ↔ P op ∧ ∀ r, (k r).All P := Iff.rfl

@[simp] theorem all_perform {P : Op → Prop} {op : Op} :
    (perform op : Prog Op Ans (Ans op)).All P ↔ P op := by
  simp [perform]

theorem All.bind {P : Op → Prop} {p : Prog Op Ans α} {f : α → Prog Op Ans β} (hp : p.All P)
    (hf : ∀ a, (f a).All P) : (p >>= f).All P := by
  induction p with
  | pure a => exact hf a
  | call op k ih => exact ⟨hp.1, fun r => ih r (hp.2 r)⟩

theorem All.perform {P : Op → Prop} {op : Op} {f : Ans op → Prog Op Ans α} (hop : P op)
    (hf : ∀ r, (f r).All P) : (Prog.perform op >>= f).All P :=
  ⟨hop, hf⟩

theorem All.ite {P : Op → Prop} {c : Prop} [Decidable c] {p q : Prog Op Ans α} (hp : p.All P)
    (hq : q.All P) : (if c then p else q).All P := by
  by_cases hc : c
  · rw [if_pos hc]
    exact hp
  · rw [if_neg hc]
    exact hq

theorem All.mono {P P' : Op → Prop} {p : Prog Op Ans α} (hp : p.All P) (hP : ∀ op, P op → P' op) :
    p.All P' := by
  induction p with
  | pure a => trivial
  | call op k ih => exact ⟨hP _ hp.1, fun r => ih r (hp.2 r)⟩

theorem all_of_forall {P : Op → Prop} (hP : ∀ op, P op) (p : Prog Op Ans α) : p.All P := by
  induction p with
  | pure a => trivial
  | call op k ih => exact ⟨hP op, ih⟩

/-- `Residual p evs q`: after the history `evs`, what is left of `p` is `q`. -/
inductive Residual : Prog Op Ans α → List (Ev Op Ans) → Prog Op Ans α → Prop where
  | nil (p : Prog Op Ans α) : Residual p [] p
  | cons {op : Op} {k : Ans op → Prog Op Ans α} {r : Ans op} {evs : List (Ev Op Ans)}
      {q : Prog Op Ans α} (h : Residual (k r) evs q) : Residual (.call op k) (⟨op, r⟩ :: evs) q

theorem Residual.snoc {p : Prog Op Ans α} {evs : List (Ev Op Ans)} {op : Op}
    {k : Ans op → Prog Op Ans α} (h : Residual p evs (.call op k)) (r : Ans op) :
    Residual p (evs ++ [⟨op, r⟩]) (k r) := by
  generalize hq : Prog.call op k = q at h
  induction h with
  | nil p =>
    subst hq
    exact .cons (.nil _)
  | cons _ ih => exact .cons (ih hq)

/-- What a program comes to is decided by the answers it gets: of two ends that one
    history goes through, the first is the other. -/
theorem Residual.pure_unique {p : Prog Op Ans α} {evs evs' tr : List (Ev Op Ans)} {a b : α}
    (h : Residual p evs (.pure a)) (h' : Residual p evs' (.pure b)) (hpre : evs <+: tr)
    (hpre' : evs' <+: tr) : evs = evs' ∧ a = b := by
  generalize hend : Prog.pure a = e at h
  induction h generalizing evs' tr with
  | nil p =>
    subst hend
    cases h'
    exact ⟨rfl, rfl⟩
  | @cons op k r evs q _ ih =>
    cases h' with
    | @cons _ _ r' evs' _ hrest =>
      obtain ⟨tail, rfl⟩ := hpre
      obtain ⟨tail', htail⟩ := hpre'
      simp only [List.cons_append, List.cons.injEq, Sigma.mk.injEq, heq_eq_eq, true_and] at htail
      obtain ⟨rfl, htail⟩ := htail
      obtain ⟨rfl, hab⟩ := ih hrest (List.prefix_append evs tail) ⟨tail', htail⟩ hend
      exact ⟨rfl, hab⟩

/-- A program that has ended makes no further history. -/
theorem Residual.of_pure {p q : Prog Op Ans α} {evs evs' : List (Ev Op Ans)} {a : α}
    (h : Residual p evs (.pure a)) (h' : Residual p (evs ++ evs') q) : q = .pure a := by
  generalize hend : Prog.pure a = e at h
  induction h with
  | nil p =>
    subst hend
    cases h'
    rfl
  | cons _ ih =>
    cases h' with
    | cons hrest => exact ih hrest hend

/-! ## Complete runs and their pre-conditions -/

/-- `Exec M ok p s tr a s'`: started in `s`, program `p` can run to its end
    with history `tr`, result `a` and final state `s'`, when every environment
    choice it meets satisfies `ok`. -/
inductive Exec (M : Machine Op Ans σ χ) (ok : χ → Op → σ → Prop) :
    Prog Op Ans α → σ → List (Ev Op Ans) → α → σ → Prop where
  | pure (a : α) (s : σ) : Exec M ok (.pure a) s [] a s
  | call {op : Op} {k : Ans op → Prog Op Ans α} {s : σ} {c : χ} {tr : List (Ev Op Ans)}
      {a : α} {s' : σ} (hok : ok c op s)
      (hrest : Exec M ok (k (M c op s).1) (M c op s).2 tr a s') :
      Exec M ok (.call op k) s (⟨op, (M c op s).1⟩ :: tr) a s'

theorem Exec.bind {M : Machine Op Ans σ χ} {ok : χ → Op → σ → Prop} {p : Prog Op Ans β}
    {f : β → Prog Op Ans α} {s s' s'' : σ} {tr tr' : List (Ev Op Ans)} {b : β} {a : α}
    (hp : Exec M ok p s tr b s') (hf : Exec M ok (f b) s' tr' a s'') :
    Exec M ok (p >>= f) s (tr ++ tr') a s'' := by
  induction hp with
  | pure b s => exact hf
  | call hok _ ih => exact .call hok (ih hf)

/-- A run of two programs one after the other. -/
theorem Exec.of_bind {M : Machine Op Ans σ χ} {ok : χ → Op → σ → Prop} {p : Prog Op Ans β}
    {f : β → Prog Op Ans α} {s s'' : σ} {tr : List (Ev Op Ans)} {a : α}
    (h : Exec M ok (p >>= f) s tr a s'') :
    ∃ tr₁ tr₂ b s', tr = tr₁ ++ tr₂ ∧ Exec M ok p s tr₁ b s' ∧ Exec M ok (f b) s' tr₂ a s'' := by
  induction p generalizing s tr with
  | pure b => exact ⟨[], tr, b, s, rfl, .pure b s, h⟩
  | call op k ih =>
    cases h with
    | call hok hrest =>
      obtain ⟨tr₁, tr₂, b, s', rfl, hp, hf⟩ := ih _ hrest
      exact ⟨_, tr₂, b, s', rfl, .call hok hp, hf⟩

theorem Exec.perform {M : Machine Op Ans σ χ} {ok : χ → Op → σ → Prop} {op : Op} {s : σ} (c : χ)
    (hok : ok c op s) : Exec M ok (Prog.perform op) s [⟨op, (M c op s).1⟩] (M c op s).1 (M c op s).2 :=
  .call hok (.pure _ _)

theorem Exec.of_perform {M : Machine Op Ans σ χ} {ok : χ → Op → σ → Prop} {op : Op} {s s' : σ}
    {tr : List (Ev Op Ans)} {r : Ans op} (h : Exec M ok (Prog.perform op) s tr r s') :
    tr = [⟨op, r⟩] := by
  cases h with
  | call hok hrest =>
    cases hrest
    rfl

/-- The history of a run leads to the end of the program. -/
theorem Exec.residual {M : Machine Op Ans σ χ} {ok : χ → Op → σ → Prop} {p : Prog Op Ans α}
    {s s' : σ} {tr : List (Ev Op Ans)} {a : α} (h : Exec M ok p s tr a s') :
    Residual p tr (.pure a) := by
  induction h with
  | pure a s => exact .nil _
  | call _ _ ih => exact .cons ih

theorem Exec.mono {M : Machine Op Ans σ χ} {ok ok' : χ → Op → σ → Prop} {p : Prog Op Ans α}
    {s s' : σ} {tr : List (Ev Op Ans)} {a : α} (hp : Exec M ok p s tr a s')
    (hok : ∀ c op s, ok c op s → ok' c op s) : Exec M ok' p s tr a s' := by
  induction hp with
  | pure a s => exact .pure a s
  | call hstep _ ih => exact .call (hok _ _ _ hstep) ih

/-- What the program can never do is not in the history of a run. -/
theorem Exec.all {M : Machine Op Ans σ χ} {ok : χ → Op → σ → Prop} {P : Op → Prop}
    {p : Prog Op Ans α} {s s' : σ} {tr : List (Ev Op Ans)} {a : α} (hall : p.All P)
    (hp : Exec M ok p s tr a s') : ∀ ev ∈ tr, P ev.1 := by
  induction hp with
  | pure a s => exact fun ev hev => absurd hev List.not_mem_nil
  | call _ _ ih =>
    rw [List.forall_mem_cons]
    exact ⟨hall.1, ih (hall.2 _)⟩

/-- What the condition ensures of every entry holds of the history of a run. -/
theorem Exec.forall_mem {M : Machine Op Ans σ χ} {ok : χ → Op → σ → Prop} {P : Ev Op Ans → Prop}
    {p : Prog Op Ans α} {s s' : σ} {tr : List (Ev Op Ans)} {a : α}
    (hP : ∀ c op s, ok c op s → P ⟨op, (M c op s).1⟩) (hp : Exec M ok p s tr a s') :
    ∀ ev ∈ tr, P ev := by
  induction hp with
  | pure a s => exact fun ev hev => absurd hev List.not_mem_nil
  | call hstep _ ih =>
    rw [List.forall_mem_cons]
    exact ⟨hP _ _ _ hstep, ih⟩

/-- Where every operation can be performed, there is a run. -/
theorem exists_exec {M : Machine Op Ans σ χ} {ok : χ → Op → σ → Prop}
    (hex : ∀ op s, ∃ c, ok c op s) (p : Prog Op Ans α) (s : σ) :
    ∃ tr a s', Exec M ok p s tr a s' := by
  induction p generalizing s with
  | pure a => exact ⟨[], a, s, .pure a s⟩
  | call op k ih =>
    obtain ⟨c, hc⟩ := hex op s
    obtain ⟨tr, a, s', hrest⟩ := ih (M c op s).1 (M c op s).2
    exact ⟨_, a, s', .call hc hrest⟩

/-- Every run of the program from `s`, with history `h` behind it, ends in `Q`. -/
def wp (M : Machine Op Ans σ χ) (ok : χ → Op → σ → Prop) :
    Prog Op Ans α → (α → List (Ev Op Ans) → σ → Prop) → List (Ev Op Ans) → σ → Prop
  | .pure a, Q, h, s => Q a h s
  | .call op k, Q, h, s => ∀ c, ok c op s →
      wp M ok (k (M c op s).1) Q (h ++ [⟨op, (M c op s).1⟩]) (M c op s).2

section WP

variable {M : Machine Op Ans σ χ} {ok : χ → Op → σ → Prop}
variable {Q Q' : α → List (Ev Op Ans) → σ → Prop} {h tr : List (Ev Op Ans)} {s s' : σ}

@[simp] theorem wp_pure (a : α) : wp M ok (.pure a) Q h s ↔ Q a h s := Iff.rfl

theorem wp_call (op : Op) (k : Ans op → Prog Op Ans α) :
    wp M ok (.call op k) Q h s ↔ ∀ c, ok c op s →
      wp M ok (k (M c op s).1) Q (h ++ [⟨op, (M c op s).1⟩]) (M c op s).2 := Iff.rfl

theorem wp_perform {op : Op} {f : Ans op → Prog Op Ans α}
    (hf : ∀ c, ok c op s →
      wp M ok (f (M c op s).1) Q (h ++ [⟨op, (M c op s).1⟩]) (M c op s).2) :
    wp M ok (perform op >>= f) Q h s := hf

theorem wp_bind (p : Prog Op Ans β) (f : β → Prog Op Ans α) :
    wp M ok (p >>= f) Q h s ↔ wp M ok p (fun b h' s' => wp M ok (f b) Q h' s') h s := by
  induction p generalizing h s with
  | pure b => rfl
  | call op k ih =>
    simp only [call_bind_eq, wp_call]
    exact forall₂_congr fun c _ => ih _

theorem wp_mono {p : Prog Op Ans α} (hp : wp M ok p Q h s)
    (hQ : ∀ a h' s', Q a h' s' → Q' a h' s') : wp M ok p Q' h s := by
  induction p generalizing h s with
  | pure a => exact hQ _ _ _ hp
  | call op k ih => exact fun c hc => ih _ (hp c hc)

theorem wp_and {p : Prog Op Ans α} (hp : wp M ok p Q h s) (hp' : wp M ok p Q' h s) :
    wp M ok p (fun a h' s' => Q a h' s' ∧ Q' a h' s') h s := by
  induction p generalizing h s with
  | pure a => exact ⟨hp, hp'⟩
  | call op k ih => exact fun c hc => ih _ (hp c hc) (hp' c hc)

/-- Fewer steps are permitted. -/
theorem wp_anti {ok' : χ → Op → σ → Prop} {p : Prog Op Ans α} (hp : wp M ok p Q h s)
    (hok : ∀ c op s, ok' c op s → ok c op s) : wp M ok' p Q h s := by
  induction p generalizing h s with
  | pure a => exact hp
  | call op k ih => exact fun c hc => ih _ (hp c (hok c op s hc))

/-- What every step keeps, every program keeps. -/
theorem wp_of_invariant {I : List (Ev Op Ans) → σ → Prop} (p : Prog Op Ans α)
    (hstep : ∀ c op h s, ok c op s → I h s → I (h ++ [⟨op, (M c op s).1⟩]) (M c op s).2)
    (hI : I h s) : wp M ok p (fun _ h' s' => I h' s') h s := by
  induction p generalizing h s with
  | pure a => exact hI
  | call op k ih => exact fun c hc => ih _ (hstep c op h s hc hI)

/-- A part that makes no difference for what follows. -/
theorem wp_skip {p : Prog Op Ans β} {f : β → Prog Op Ans α}
    (hf : ∀ b h s, wp M ok (f b) Q h s) : wp M ok (p >>= f) Q h s := by
  induction p generalizing h s with
  | pure b => exact hf b h s
  | call op k ih => exact fun c _ => ih _

/-- A pre-condition proved with `wp` holds of the end of every run. -/
theorem wp_sound {p : Prog Op Ans α} {a : α} (hp : wp M ok p Q h s)
    (hrun : Exec M ok p s tr a s') : Q a (h ++ tr) s' := by
  induction hrun generalizing h with
  | pure a s => simpa using hp
  | call hok _ ih => simpa using ih (hp _ hok)

end WP

/-! ## On the way -/

/-- `Reaches M ok p s tr q s'`: a run of `p` from `s` can have come, with the
    history `tr`, to the state `s'`, in which `q` is left of it. -/
inductive Reaches (M : Machine Op Ans σ χ) (ok : χ → Op → σ → Prop) :
    Prog Op Ans α → σ → List (Ev Op Ans) → Prog Op Ans α → σ → Prop where
  | refl (p : Prog Op Ans α) (s : σ) : Reaches M ok p s [] p s
  | step {op : Op} {k : Ans op → Prog Op Ans α} {s : σ} {c : χ} {tr : List (Ev Op Ans)}
      {q : Prog Op Ans α} {s' : σ} (hok : ok c op s)
      (hrest : Reaches M ok (k (M c op s).1) (M c op s).2 tr q s') :
      Reaches M ok (.call op k) s (⟨op, (M c op s).1⟩ :: tr) q s'

/-- Every run of the program from `s`, with history `h` behind it, ends in `Q`,
    and every operation that it performs on the way meets `Φ`. -/
def checked (M : Machine Op Ans σ χ) (ok : χ → Op → σ → Prop) (Φ : List (Ev Op Ans) → Op → σ → Prop) :
    Prog Op Ans α → (α → List (Ev Op Ans) → σ → Prop) → List (Ev Op Ans) → σ → Prop
  | .pure a, Q, h, s => Q a h s
  | .call op k, Q, h, s => Φ h op s ∧ ∀ c, ok c op s →
      checked M ok Φ (k (M c op s).1) Q (h ++ [⟨op, (M c op s).1⟩]) (M c op s).2

section Checked

variable {M : Machine Op Ans σ χ} {ok : χ → Op → σ → Prop} {Φ : List (Ev Op Ans) → Op → σ → Prop}
variable {Q : α → List (Ev Op Ans) → σ → Prop} {h tr : List (Ev Op Ans)} {s s' : σ}

theorem checked_perform {op : Op} {f : Ans op → Prog Op Ans α} (hop : Φ h op s)
    (hf : ∀ c, ok c op s →
      checked M ok Φ (f (M c op s).1) Q (h ++ [⟨op, (M c op s).1⟩]) (M c op s).2) :
    checked M ok Φ (perform op >>= f) Q h s :=
  ⟨hop, hf⟩

theorem checked_bind {p : Prog Op Ans β} {f : β → Prog Op Ans α}
    (hp : checked M ok Φ p (fun b h' s' => checked M ok Φ (f b) Q h' s') h s) :
    checked M ok Φ (p >>= f) Q h s := by
  induction p generalizing h s with
  | pure b => exact hp
  | call op k ih => exact ⟨hp.1, fun c hc => ih _ (hp.2 c hc)⟩

theorem checked_mono {Q' : α → List (Ev Op Ans) → σ → Prop} {p : Prog Op Ans α}
    (hp : checked M ok Φ p Q h s) (hQ : ∀ a h' s', Q a h' s' → Q' a h' s') : checked M ok Φ p Q' h s := by
  induction p generalizing h s with
  | pure a => exact hQ a h s hp
  | call op k ih => exact ⟨hp.1, fun c hc => ih _ (hp.2 c hc)⟩

theorem wp_of_checked {p : Prog Op Ans α} (hp : checked M ok Φ p Q h s) : wp M ok p Q h s := by
  induction p generalizing h s with
  | pure a => exact hp
  | call op k ih => exact fun c hc => ih _ (hp.2 c hc)

theorem checked_of_reaches {p q : Prog Op Ans α} (hp : checked M ok Φ p Q h s)
    (hreach : Reaches M ok p s tr q s') : checked M ok Φ q Q (h ++ tr) s' := by
  induction hreach generalizing h with
  | refl p s => simpa using hp
  | step hok _ ih => simpa using ih (hp.2 _ hok)

end Checked

/-! ## Possible runs -/

/-- Some run of the program from `s` ends in `Q`. -/
def May (M : Machine Op Ans σ χ) (ok : χ → Op → σ → Prop) (p : Prog Op Ans α) (Q : α → σ → Prop)
    (s : σ) : Prop :=
  ∃ tr a s', Exec M ok p s tr a s' ∧ Q a s'

section May

variable {M : Machine Op Ans σ χ} {ok : χ → Op → σ → Prop} {Q : α → σ → Prop} {s : σ}

theorem may_pure {a : α} (h : Q a s) : May M ok (.pure a) Q s := ⟨[], a, s, .pure a s, h⟩

theorem may_perform {op : Op} {f : Ans op → Prog Op Ans α} (c : χ) (hok : ok c op s)
    (hf : May M ok (f (M c op s).1) Q (M c op s).2) : May M ok (perform op >>= f) Q s := by
  obtain ⟨tr, a, s', hrun, hQ⟩ := hf
  exact ⟨_, a, s', .call hok hrun, hQ⟩

theorem may_bind {p : Prog Op Ans β} {f : β → Prog Op Ans α}
    (hp : May M ok p (fun b s' => May M ok (f b) Q s') s) : May M ok (p >>= f) Q s := by
  obtain ⟨tr, b, s', hrun, tr', a, s'', hrun', hQ⟩ := hp
  exact ⟨_, a, s'', hrun.bind hrun', hQ⟩

/-- Where every operation can be performed, there is a run, and it ends as all do. -/
theorem may_of_wp {p : Prog Op Ans α} {h : List (Ev Op Ans)} (hex : ∀ op s, ∃ c, ok c op s)
    (hp : wp M ok p (fun a _ s' => Q a s') h s) : May M ok p Q s := by
  obtain ⟨tr, a, s', hrun⟩ := exists_exec (M := M) hex p s
  exact ⟨tr, a, s', hrun, wp_sound hp hrun⟩

end May

/-! ## Abstract machines -/

/-- The pre-condition transformer of an abstract machine: every operation must
    be permitted (`Φ`), an answer can be any that the abstract state allows
    (`ρ`), and `δ` follows the operations and their answers. -/
def awp {μ : Type} (δ : μ → Ev Op Ans → μ) (Φ : μ → Op → Prop) (ρ : μ → (op : Op) → Ans op → Prop) :
    Prog Op Ans α → (α → μ → Prop) → μ → Prop
  | .pure a, Q, m => Q a m
  | .call op k, Q, m => Φ m op ∧ ∀ r, ρ m op r → awp δ Φ ρ (k r) Q (δ m ⟨op, r⟩)

section AWP

variable {μ : Type} {δ : μ → Ev Op Ans → μ} {Φ : μ → Op → Prop}
variable {ρ : μ → (op : Op) → Ans op → Prop} {m : μ}

theorem awp_perform {Q : α → μ → Prop} {op : Op} {f : Ans op → Prog Op Ans α} (hop : Φ m op)
    (hf : ∀ r, ρ m op r → awp δ Φ ρ (f r) Q (δ m ⟨op, r⟩)) :
    awp δ Φ ρ (perform op >>= f) Q m :=
  ⟨hop, hf⟩

theorem awp_bind {Q : α → μ → Prop} {p : Prog Op Ans β} {f : β → Prog Op Ans α}
    (hp : awp δ Φ ρ p (fun b m' => awp δ Φ ρ (f b) Q m') m) : awp δ Φ ρ (p >>= f) Q m := by
  induction p generalizing m with
  | pure b => exact hp
  | call op k ih => exact ⟨hp.1, fun r hr => ih r (hp.2 r hr)⟩

theorem awp_mono {Q Q' : α → μ → Prop} {p : Prog Op Ans α} (hp : awp δ Φ ρ p Q m)
    (hQ : ∀ a m', Q a m' → Q' a m') : awp δ Φ ρ p Q' m := by
  induction p generalizing m with
  | pure a => exact hQ a m hp
  | call op k ih => exact ⟨hp.1, fun r hr => ih r (hp.2 r hr)⟩

/-- A program that the abstract state does not react to. -/
theorem awp_of_all {p : Prog Op Ans α} (hall : p.All fun op => Φ m op ∧ ∀ r, δ m ⟨op, r⟩ = m) :
    awp δ Φ ρ p (fun _ m' => m' = m) m := by
  induction p with
  | pure a => rfl
  | call op k ih =>
    refine ⟨hall.1.1, fun r _ => ?_⟩
    rw [hall.1.2 r]
    exact ih r (hall.2 r)

/-- Such a program in front of another. -/
theorem awp_skip {Q : α → μ → Prop} {p : Prog Op Ans β} {f : β → Prog Op Ans α}
    (hall : p.All fun op => Φ m op ∧ ∀ r, δ m ⟨op, r⟩ = m)
    (hf : ∀ b, awp δ Φ ρ (f b) Q m) : awp δ Φ ρ (p >>= f) Q m := by
  refine awp_bind (awp_mono (awp_of_all hall) ?_)
  rintro b m' rfl
  exact hf b

/-- When every permitted step of the machine is a step of the abstract machine,
    what holds of the abstract program holds of the program. -/
theorem wp_of_awp {M : Machine Op Ans σ χ} {ok : χ → Op → σ → Prop}
    (A : μ → List (Ev Op Ans) → σ → Prop)
    (hsim : ∀ m op h s, Φ m op → A m h s → ∀ c, ok c op s → ρ m op (M c op s).1 ∧
      A (δ m ⟨op, (M c op s).1⟩) (h ++ [⟨op, (M c op s).1⟩]) (M c op s).2)
    {Q : α → μ → Prop} {p : Prog Op Ans α} {h : List (Ev Op Ans)} {s : σ}
    (hp : awp δ Φ ρ p Q m) (hA : A m h s) :
    wp M ok p (fun a h' s' => ∃ m', A m' h' s' ∧ Q a m') h s := by
  induction p generalizing m h s with
  | pure a => exact ⟨m, hA, hp⟩
  | call op k ih =>
    intro c hc
    obtain ⟨hr, hA'⟩ := hsim m op h s hp.1 hA c hc
    exact ih _ (hp.2 _ hr) hA'

end AWP

/-! ## Machines that follow one another -/

section Follow

variable {σ' γ : Type} {M : Machine Op Ans σ χ} {M' : Machine Op Ans σ' χ}
variable {ok : χ → Op → σ → Prop} {ok' : χ → Op → σ' → Prop} {h : List (Ev Op Ans)} {s : σ}

/-- What is proved on a machine that keeps a part (`π`) of the state holds on the
    whole machine, as long as the program stays within that part (`Φ`). -/
theorem wp_of_part {μ : Type} {δ : μ → Ev Op Ans → μ} {Φ : μ → Op → Prop}
    {ρ : μ → (op : Op) → Ans op → Prop} (A : μ → List (Ev Op Ans) → σ → Prop)
    (π : List (Ev Op Ans) → σ → σ')
    (hsim : ∀ m op h s, Φ m op → A m h s → ∀ c, ok c op s → ρ m op (M c op s).1 ∧
      A (δ m ⟨op, (M c op s).1⟩) (h ++ [⟨op, (M c op s).1⟩]) (M c op s).2)
    (hpart : ∀ m op h s, Φ m op → A m h s → ∀ c, ok c op s → ok' c op (π h s) ∧
      M' c op (π h s) = ((M c op s).1, π (h ++ [⟨op, (M c op s).1⟩]) (M c op s).2))
    {Q : α → μ → Prop} {Q' : α → σ' → Prop} {p : Prog Op Ans α} {m : μ}
    (hp : awp δ Φ ρ p Q m) (hA : A m h s) (hp' : wp M' ok' p (fun a _ s' => Q' a s') h (π h s)) :
    wp M ok p (fun a h' s' => Q' a (π h' s') ∧ ∃ m', A m' h' s') h s := by
  induction p generalizing m h s with
  | pure a => exact ⟨hp', m, hA⟩
  | call op k ih =>
    intro c hc
    obtain ⟨hr, hA'⟩ := hsim m op h s hp.1 hA c hc
    obtain ⟨hc', hstep⟩ := hpart m op h s hp.1 hA c hc
    have hrest := hp' c hc'
    rw [hstep] at hrest
    exact ih _ (hp.2 _ hr) hA' hrest

/-- What is proved on a machine with more state holds without it. -/
theorem wp_erase {M' : Machine Op Ans (σ × γ) χ} {ok' : χ → Op → σ × γ → Prop}
    (hM : ∀ c op s g, ∃ g', M' c op (s, g) = ((M c op s).1, (M c op s).2, g'))
    (hok : ∀ c op s g, ok c op s → ok' c op (s, g)) {Q : α → List (Ev Op Ans) → σ → Prop}
    {p : Prog Op Ans α} {g : γ} (hp : wp M' ok' p (fun a h' w => Q a h' w.1) h (s, g)) :
    wp M ok p Q h s := by
  induction p generalizing h s g with
  | pure a => exact hp
  | call op k ih =>
    intro c hc
    obtain ⟨g', hstep⟩ := hM c op s g
    have hrest := hp c (hok c op s g hc)
    rw [hstep] at hrest
    exact ih _ hrest

end Follow

/-! ## Executable runs -/

/-- Run along a tape of environment choices, which must be used up exactly. -/
def eval (M : Machine Op Ans σ χ) (ok : χ → Op → σ → Prop)
    [∀ c op s, Decidable (ok c op s)] :
    Prog Op Ans α → σ → List χ → Option (α × List (Ev Op Ans) × σ)
  | .pure a, s, [] => some (a, [], s)
  | .pure _, _, _ :: _ => none
  | .call _ _, _, [] => none
  | .call op k, s, c :: cs =>
      if ok c op s then
        (eval M ok (k (M c op s).1) (M c op s).2 cs).map
          fun out => (out.1, ⟨op, (M c op s).1⟩ :: out.2.1, out.2.2)
      else none

theorem exec_of_eval {M : Machine Op Ans σ χ} {ok : χ → Op → σ → Prop}
    [∀ c op s, Decidable (ok c op s)] {p : Prog Op Ans α} {s : σ} {tape : List χ}
    {out : α × List (Ev Op Ans) × σ} (h : eval M ok p s tape = some out) :
    Exec M ok p s out.2.1 out.1 out.2.2 := by
  induction p generalizing s tape out with
  | pure a =>
    cases tape with
    | nil =>
      cases h
      exact .pure a s
    | cons c cs => cases h
  | call op k ih =>
    cases tape with
    | nil => cases h
    | cons c cs =>
      simp only [eval] at h
      split at h
      · rename_i hok
        obtain ⟨rest, hrest, rfl⟩ := Option.map_eq_some_iff.mp h
        exact .call hok (ih _ hrest)
      · cases h

/-! ## Runs of many calls, one after the other -/

/-- The histories and states reached by serving requests one after the other. -/
inductive SeqReach (M : Machine Op Ans σ χ) (ok : χ → Op → σ → Prop)
    (serve : ρ → Prog Op Ans α) (s₀ : σ) : List (Ev Op Ans) → σ → Prop where
  | init : SeqReach M ok serve s₀ [] s₀
  | serve {h tr : List (Ev Op Ans)} {s s' : σ} {a : α} (q : ρ)
      (hreach : SeqReach M ok serve s₀ h s) (hrun : Exec M ok (serve q) s tr a s') :
      SeqReach M ok serve s₀ (h ++ tr) s'

/-- An assertion that holds at the start and that every request keeps holds
    between any two requests of every sequential run. -/
theorem SeqReach.invariant {M : Machine Op Ans σ χ} {ok : χ → Op → σ → Prop}
    {serve : ρ → Prog Op Ans α} {s₀ : σ} {I : List (Ev Op Ans) → σ → Prop}
    (hinit : I [] s₀)
    (hserve : ∀ q h s, I h s → wp M ok (serve q) (fun _ h' s' => I h' s') h s)
    {h : List (Ev Op Ans)} {s : σ} (hreach : SeqReach M ok serve s₀ h s) : I h s := by
  induction hreach with
  | init => exact hinit
  | serve q _ hrun ih => exact wp_sound (hserve q _ _ ih) hrun

/-- The same runs, with the requests in their order and the state that each one found. -/
inductive SeqRun (M : Machine Op Ans σ χ) (ok : χ → Op → σ → Prop)
    (serve : ρ → Prog Op Ans α) (s₀ : σ) : List (ρ × σ) → List (Ev Op Ans) → σ → Prop where
  | init : SeqRun M ok serve s₀ [] [] s₀
  | serve {steps : List (ρ × σ)} {h tr : List (Ev Op Ans)} {s s' : σ} {a : α} (q : ρ)
      (hsteps : SeqRun M ok serve s₀ steps h s) (hrun : Exec M ok (serve q) s tr a s') :
      SeqRun M ok serve s₀ (steps ++ [(q, s)]) (h ++ tr) s'

theorem SeqRun.invariant {M : Machine Op Ans σ χ} {ok : χ → Op → σ → Prop}
    {serve : ρ → Prog Op Ans α} {s₀ : σ} {I : List (ρ × σ) → List (Ev Op Ans) → σ → Prop}
    (hinit : I [] [] s₀)
    (hserve : ∀ q steps h s, I steps h s →
      wp M ok (serve q) (fun _ h' s' => I (steps ++ [(q, s)]) h' s') h s)
    {steps : List (ρ × σ)} {h : List (Ev Op Ans)} {s : σ}
    (hrun : SeqRun M ok serve s₀ steps h s) : I steps h s := by
  induction hrun with
  | init => exact hinit
  | serve q _ hrun ih =>
    exact wp_sound (Q := fun _ h' s' => I _ h' s') (hserve q _ _ _ ih) hrun

/-- In a run whose requests all meet a condition, what such a request keeps holds. -/
theorem SeqRun.invariant_of {M : Machine Op Ans σ χ} {ok : χ → Op → σ → Prop}
    {serve : ρ → Prog Op Ans α} {s₀ : σ} {C : ρ × σ → Prop} {I : List (Ev Op Ans) → σ → Prop}
    (hinit : I [] s₀)
    (hserve : ∀ q h s, C (q, s) → I h s → wp M ok (serve q) (fun _ h' s' => I h' s') h s)
    {steps : List (ρ × σ)} {h : List (Ev Op Ans)} {s : σ}
    (hrun : SeqRun M ok serve s₀ steps h s) (hsteps : ∀ step ∈ steps, C step) : I h s := by
  induction hrun with
  | init => exact hinit
  | serve q _ hrun ih =>
    have hbefore := ih fun step hstep => hsteps step (List.mem_append_left _ hstep)
    have hlast := hsteps _ (List.mem_append_right _ (List.mem_singleton_self _))
    exact wp_sound (hserve q _ _ hlast hbefore) hrun

/-- One request of a sequential run: the state that it found, what it was
    answered, and the state that it left. -/
structure Round (ρ α σ : Type) where
  request : ρ
  before : σ
  answer : α
  after : σ

/-- The same runs, round by round. -/
inductive Rounds (M : Machine Op Ans σ χ) (ok : χ → Op → σ → Prop)
    (serve : ρ → Prog Op Ans α) (s₀ : σ) : List (Round ρ α σ) → σ → Prop where
  | init : Rounds M ok serve s₀ [] s₀
  | serve {rounds : List (Round ρ α σ)} {tr : List (Ev Op Ans)} {s s' : σ} {a : α} (q : ρ)
      (hrounds : Rounds M ok serve s₀ rounds s) (hrun : Exec M ok (serve q) s tr a s') :
      Rounds M ok serve s₀ (rounds ++ [⟨q, s, a, s'⟩]) s'

theorem Rounds.invariant {M : Machine Op Ans σ χ} {ok : χ → Op → σ → Prop}
    {serve : ρ → Prog Op Ans α} {s₀ : σ} {I : List (Round ρ α σ) → σ → Prop} (hinit : I [] s₀)
    (hserve : ∀ q rounds s, I rounds s →
      wp M ok (serve q) (fun a _ s' => I (rounds ++ [⟨q, s, a, s'⟩]) s') [] s)
    {rounds : List (Round ρ α σ)} {s : σ} (hrounds : Rounds M ok serve s₀ rounds s) : I rounds s := by
  induction hrounds with
  | init => exact hinit
  | serve q _ hrun ih => exact wp_sound (hserve q _ _ ih) hrun

/-- Serve requests one after the other, each along its own tape. -/
def evalAll (M : Machine Op Ans σ χ) (ok : χ → Op → σ → Prop)
    [∀ c op s, Decidable (ok c op s)] (serve : ρ → Prog Op Ans α) :
    σ → List (ρ × List χ) → Option (List (Ev Op Ans) × σ)
  | s, [] => some ([], s)
  | s, (q, tape) :: rest =>
      (eval M ok (serve q) s tape).bind fun out =>
        (evalAll M ok serve out.2.2 rest).map fun end_ => (out.2.1 ++ end_.1, end_.2)

theorem SeqReach.of_evalAll {M : Machine Op Ans σ χ} {ok : χ → Op → σ → Prop}
    [∀ c op s, Decidable (ok c op s)] {serve : ρ → Prog Op Ans α} {s₀ s s' : σ}
    {h tr : List (Ev Op Ans)} {runs : List (ρ × List χ)} (hreach : SeqReach M ok serve s₀ h s)
    (heval : evalAll M ok serve s runs = some (tr, s')) :
    SeqReach M ok serve s₀ (h ++ tr) s' := by
  induction runs generalizing h s tr with
  | nil =>
    cases heval
    simpa using hreach
  | cons run runs ih =>
    obtain ⟨out, hout, hrest⟩ := Option.bind_eq_some_iff.mp heval
    obtain ⟨end_, hend, hpair⟩ := Option.map_eq_some_iff.mp hrest
    cases hpair
    rw [← List.append_assoc]
    exact ih (hreach.serve run.1 (exec_of_eval hout)) hend

theorem SeqRun.of_evalAll {M : Machine Op Ans σ χ} {ok : χ → Op → σ → Prop}
    [∀ c op s, Decidable (ok c op s)] {serve : ρ → Prog Op Ans α} {s₀ s s' : σ}
    {steps : List (ρ × σ)} {h tr : List (Ev Op Ans)} {runs : List (ρ × List χ)}
    (hrun : SeqRun M ok serve s₀ steps h s) (heval : evalAll M ok serve s runs = some (tr, s')) :
    ∃ steps', steps'.map Prod.fst = runs.map Prod.fst ∧
      SeqRun M ok serve s₀ (steps ++ steps') (h ++ tr) s' := by
  induction runs generalizing steps h s tr with
  | nil =>
    cases heval
    exact ⟨[], rfl, by simpa using hrun⟩
  | cons run runs ih =>
    obtain ⟨out, hout, hrest⟩ := Option.bind_eq_some_iff.mp heval
    obtain ⟨end_, hend, hpair⟩ := Option.map_eq_some_iff.mp hrest
    cases hpair
    obtain ⟨steps', hsteps', hrun'⟩ := ih (hrun.serve run.1 (exec_of_eval hout)) hend
    rw [List.append_assoc, List.append_assoc] at hrun'
    exact ⟨(run.1, s) :: steps', by rw [List.map_cons, hsteps']; rfl, hrun'⟩

/-- The rounds of such a run. -/
def evalRounds (M : Machine Op Ans σ χ) (ok : χ → Op → σ → Prop)
    [∀ c op s, Decidable (ok c op s)] (serve : ρ → Prog Op Ans α) :
    σ → List (ρ × List χ) → Option (List (Round ρ α σ) × σ)
  | s, [] => some ([], s)
  | s, (q, tape) :: rest =>
      (eval M ok (serve q) s tape).bind fun out =>
        (evalRounds M ok serve out.2.2 rest).map fun end_ =>
          (⟨q, s, out.1, out.2.2⟩ :: end_.1, end_.2)

theorem Rounds.of_evalRounds {M : Machine Op Ans σ χ} {ok : χ → Op → σ → Prop}
    [∀ c op s, Decidable (ok c op s)] {serve : ρ → Prog Op Ans α} {s₀ s s' : σ}
    {rounds rounds' : List (Round ρ α σ)} {runs : List (ρ × List χ)}
    (hrounds : Rounds M ok serve s₀ rounds s)
    (heval : evalRounds M ok serve s runs = some (rounds', s')) :
    Rounds M ok serve s₀ (rounds ++ rounds') s' := by
  induction runs generalizing rounds s rounds' with
  | nil =>
    cases heval
    rwa [List.append_nil]
  | cons run runs ih =>
    obtain ⟨out, hout, hrest⟩ := Option.bind_eq_some_iff.mp heval
    obtain ⟨end_, hend, hpair⟩ := Option.map_eq_some_iff.mp hrest
    cases hpair
    have hlater := ih (hrounds.serve run.1 (exec_of_eval hout)) hend
    rwa [List.append_assoc] at hlater

/-! ## Programs over other interfaces -/

/-- Run a program over an interface that is implemented by programs. -/
def through {Op' : Type} {Ans' : Op' → Type} (impl : (op : Op) → Prog Op' Ans' (Ans op)) :
    Prog Op Ans α → Prog Op' Ans' α
  | .pure a => .pure a
  | .call op k => impl op >>= fun r => through impl (k r)

/-- Run a program that uses the right interface in a system that has both. -/
def inr {Op' : Type} {Ans' : Op' → Type} :
    Prog Op Ans α → Prog (Op' ⊕ Op) (Sum.elim Ans' Ans) α
  | .pure a => .pure a
  | .call op k => .call (.inr op) fun r => inr (k r)

/-- Run a program that uses the left interface in a system that has both. -/
def inl {Op' : Type} {Ans' : Op' → Type} :
    Prog Op Ans α → Prog (Op ⊕ Op') (Sum.elim Ans Ans') α
  | .pure a => .pure a
  | .call op k => .call (.inl op) fun r => inl (k r)

theorem bind_assoc (p : Prog Op Ans α) (f : α → Prog Op Ans β) (g : β → Prog Op Ans γ) :
    (p >>= f) >>= g = p >>= fun a => f a >>= g := by
  induction p with
  | pure a => rfl
  | call op k ih => exact congrArg (call op) (funext ih)

section Through

variable {Op' : Type} {Ans' : Op' → Type} {impl : (op : Op) → Prog Op' Ans' (Ans op)}

theorem through_bind (p : Prog Op Ans α) (f : α → Prog Op Ans β) :
    (p >>= f).through impl = p.through impl >>= fun a => (f a).through impl := by
  induction p with
  | pure a => rfl
  | call op k ih =>
    calc (impl op >>= fun r => (k r >>= f).through impl)
        = impl op >>= fun r => (k r).through impl >>= fun a => (f a).through impl :=
          congrArg (impl op >>= ·) (funext ih)
      _ = (impl op >>= fun r => (k r).through impl) >>= fun a => (f a).through impl :=
          (bind_assoc _ _ _).symm

/-- A program that makes only calls in `P` makes, through an interface that answers
    these with calls in `P'`, only calls in `P'`. -/
theorem All.through {P : Op → Prop} {P' : Op' → Prop} {p : Prog Op Ans α}
    (himpl : ∀ op, P op → (impl op).All P') (hp : p.All P) : (p.through impl).All P' := by
  induction p with
  | pure a => trivial
  | call op k ih => exact (himpl op hp.1).bind fun r => ih r (hp.2 r)

theorem All.through_bind {P' : Op' → Prop} {p : Prog Op Ans α} {f : α → Prog Op Ans β}
    (hp : (p.through impl).All P') (hf : ∀ a, ((f a).through impl).All P') :
    ((p >>= f).through impl).All P' := by
  rw [Prog.through_bind]
  exact hp.bind hf

/-- An abstract run of a program is one of the program behind an interface, each of
    whose calls moves the abstract state as the call that it stands for. -/
theorem awp_through {μ : Type} {δ : μ → Ev Op Ans → μ} {Φ : μ → Op → Prop}
    {ρ : μ → (op : Op) → Ans op → Prop} {δ' : μ → Ev Op' Ans' → μ} {Φ' : μ → Op' → Prop}
    {ρ' : μ → (op : Op') → Ans' op → Prop} {Q : α → μ → Prop} {p : Prog Op Ans α} {m : μ}
    (himpl : ∀ m op, Φ m op →
      awp δ' Φ' ρ' (impl op) (fun r m' => ρ m op r ∧ m' = δ m ⟨op, r⟩) m)
    (hp : awp δ Φ ρ p Q m) : awp δ' Φ' ρ' (p.through impl) Q m := by
  induction p generalizing m with
  | pure a => exact hp
  | call op k ih =>
    refine awp_bind (awp_mono (himpl m op hp.1) ?_)
    rintro r m' ⟨hr, rfl⟩
    exact ih r (hp.2 r hr)

end Through

theorem awp_inl {μ : Type} {Op' : Type} {Ans' : Op' → Type}
    {δ : μ → Ev (Op ⊕ Op') (Sum.elim Ans Ans') → μ} {Φ : μ → Op ⊕ Op' → Prop}
    {ρ : μ → (op : Op ⊕ Op') → Sum.elim Ans Ans' op → Prop} {Q : α → μ → Prop} {p : Prog Op Ans α}
    {m : μ} (hp : awp (fun m ev => δ m ⟨.inl ev.1, ev.2⟩) (fun m op => Φ m (.inl op))
      (fun m op r => ρ m (.inl op) r) p Q m) : awp δ Φ ρ p.inl Q m := by
  induction p generalizing m with
  | pure a => exact hp
  | call op k ih => exact ⟨hp.1, fun r hr => ih r (hp.2 r hr)⟩

theorem all_inr {Op' : Type} {Ans' : Op' → Type} {P : Op' ⊕ Op → Prop} {p : Prog Op Ans α}
    (hp : p.All fun op => P (.inr op)) :
    (inr p : Prog (Op' ⊕ Op) (Sum.elim Ans' Ans) α).All P := by
  induction p with
  | pure a => trivial
  | call op k ih => exact ⟨hp.1, fun r => ih r (hp.2 r)⟩

theorem all_inl {Op' : Type} {Ans' : Op' → Type} {P : Op ⊕ Op' → Prop} {p : Prog Op Ans α}
    (hp : p.All fun op => P (.inl op)) :
    (inl p : Prog (Op ⊕ Op') (Sum.elim Ans Ans') α).All P := by
  induction p with
  | pure a => trivial
  | call op k ih => exact ⟨hp.1, fun r => ih r (hp.2 r)⟩

end Prog

/-- Two machines side by side, each with its own state and choices. -/
def Machine.sum {Op' : Type} {Ans' : Op' → Type} {σ' χ' : Type}
    (M' : Machine Op' Ans' σ' χ') (M : Machine Op Ans σ χ) :
    Machine (Op' ⊕ Op) (Sum.elim Ans' Ans) (σ' × σ) (χ' × χ)
  | c, .inl op, s => ((M' c.1 op s.1).1, (M' c.1 op s.1).2, s.2)
  | c, .inr op, s => ((M c.2 op s.2).1, s.1, (M c.2 op s.2).2)

end Effect
