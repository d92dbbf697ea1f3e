/-
  Katapult.Store.Environment

  What the world around one call decides, and how a database call takes it: a
  call that fails changes nothing.
-/

import Katapult.Domain.Basic

namespace Katapult

/-- What the environment of one call chooses: the clock, whether the call
    fails, and the values that come from outside. -/
structure Env where
  now : Time := 0
  fail : Option Err := none
  uuid : UUID := 0
  rand : ℚ := 0
  flag : Bool := true

namespace Env

variable {σ : Type}

/-- A statement that changes the tables, or fails without effect. -/
def write (env : Env) (s : σ) (statement : σ → Except Err σ) : Except Err Unit × σ :=
  match env.fail with
  | some err => (.error err, s)
  | none =>
    match statement s with
    | .error err => (.error err, s)
    | .ok s' => (.ok (), s')

/-- A query whose answer is `a` unless it fails. -/
def answer {α : Type} (env : Env) (a : α) : Except Err α :=
  match env.fail with
  | some err => .error err
  | none => .ok a

theorem write_of_fail {env : Env} {err : Err} (h : env.fail = some err) (s : σ)
    (statement : σ → Except Err σ) : env.write s statement = (.error err, s) := by
  simp only [write, h]

theorem write_of_ok {env : Env} (h : env.fail = none) {s s' : σ}
    (statement : σ → Except Err σ) (hs : statement s = .ok s') :
    env.write s statement = (.ok (), s') := by
  simp only [write, h, hs]

theorem write_of_refused {env : Env} (h : env.fail = none) {s : σ} {err : Err}
    (statement : σ → Except Err σ) (hs : statement s = .error err) :
    env.write s statement = (.error err, s) := by
  simp only [write, h, hs]

/-- A statement has no effect and fails, or has its effect. -/
theorem write_cases (env : Env) (s : σ) (statement : σ → Except Err σ) :
    (∃ err, env.write s statement = (.error err, s)) ∨
      ∃ s', statement s = .ok s' ∧ env.write s statement = (.ok (), s') := by
  cases hfail : env.fail with
  | some err => exact .inl ⟨err, write_of_fail hfail s statement⟩
  | none =>
    cases hs : statement s with
    | error err => exact .inl ⟨err, write_of_refused hfail statement hs⟩
    | ok s' => exact .inr ⟨s', rfl, write_of_ok hfail statement hs⟩

theorem answer_of_fail {α : Type} {env : Env} {err : Err} (h : env.fail = some err) (a : α) :
    env.answer a = .error err := by
  simp only [answer, h]

theorem answer_of_ok {α : Type} {env : Env} (h : env.fail = none) (a : α) :
    env.answer a = .ok a := by
  simp only [answer, h]

end Env

/-- `n` calls in a row, nothing fails, and identifiers are drawn from `fresh` on. -/
def calls (fresh n : Nat) : List Env :=
  (List.range n).map fun k => { uuid := BitVec.ofNat 128 (fresh + k) }

end Katapult
