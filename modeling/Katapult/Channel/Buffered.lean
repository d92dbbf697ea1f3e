/-
  Katapult.Channel.Buffered

  Buffered channels, as a goroutine meets them.

  A step of a goroutine is done, or it blocks, or it panics.  A send blocks on a
  full buffer and panics on a closed channel; closing a closed channel panics;
  what was sent before the close can still be received.  A send in a `select`
  with a default case (`trySend`) takes the default where it would block.
-/

import Mathlib.Data.List.Basic

namespace Channel

/-- How a step of a goroutine ends. -/
inductive Attempt (α : Type) where
  | done (a : α)
  | blocks
  | panics
  deriving DecidableEq, Repr

namespace Attempt

variable {α β : Type}

def bind : Attempt α → (α → Attempt β) → Attempt β
  | .done a, f => f a
  | .blocks, _ => .blocks
  | .panics, _ => .panics

def map (f : α → β) : Attempt α → Attempt β
  | .done a => .done (f a)
  | .blocks => .blocks
  | .panics => .panics

@[simp] theorem bind_done (a : α) (f : α → Attempt β) : (Attempt.done a).bind f = f a := rfl

@[simp] theorem map_done (f : α → β) (a : α) : (Attempt.done a).map f = .done (f a) := rfl

/-- The step is done, with a result in `P`. -/
def Ends (P : α → Prop) : Attempt α → Prop
  | .done a => P a
  | .blocks => False
  | .panics => False

theorem ends_iff {P : α → Prop} {x : Attempt α} : x.Ends P ↔ ∃ a, x = .done a ∧ P a := by
  cases x with
  | done a => exact ⟨fun h => ⟨a, rfl, h⟩, fun ⟨_, ha, h⟩ => by cases ha; exact h⟩
  | blocks => exact ⟨False.elim, fun ⟨_, ha, _⟩ => by cases ha⟩
  | panics => exact ⟨False.elim, fun ⟨_, ha, _⟩ => by cases ha⟩

theorem bind_eq_done {x : Attempt α} {f : α → Attempt β} {b : β} :
    x.bind f = .done b ↔ ∃ a, x = .done a ∧ f a = .done b := by
  cases x with
  | done a => simp
  | blocks => simp [bind]
  | panics => simp [bind]

theorem Ends.bind {P : α → Prop} {Q : β → Prop} {x : Attempt α} {f : α → Attempt β}
    (hx : x.Ends P) (hf : ∀ a, P a → (f a).Ends Q) : (x.bind f).Ends Q := by
  cases x with
  | done a => exact hf a hx
  | blocks => exact hx.elim
  | panics => exact hx.elim

theorem Ends.mono {P Q : α → Prop} {x : Attempt α} (hx : x.Ends P) (hPQ : ∀ a, P a → Q a) :
    x.Ends Q := by
  cases x with
  | done a => exact hPQ a hx
  | blocks => exact hx.elim
  | panics => exact hx.elim

/-- Steps one after the other, over a list. -/
def each (f : β → α → Attempt α) : List β → α → Attempt α
  | [], a => .done a
  | b :: bs, a => (f b a).bind (each f bs)

theorem each_append (f : β → α → Attempt α) (bs bs' : List β) (a : α) :
    each f (bs ++ bs') a = (each f bs a).bind (each f bs') := by
  induction bs generalizing a with
  | nil => rfl
  | cons b bs ih =>
    show (f b a).bind (each f (bs ++ bs')) = ((f b a).bind (each f bs)).bind (each f bs')
    cases f b a with
    | done a' => exact ih a'
    | blocks => rfl
    | panics => rfl

/-- The rule of a loop over a list without repetition: what is known once the
    elements `visited` have been visited. -/
theorem ends_each {f : β → α → Attempt α} {S : β → Prop} {I : List β → α → Prop}
    (hstep : ∀ visited b a, S b → b ∉ visited → I visited a → (f b a).Ends (I (visited ++ [b])))
    {visited bs : List β} {a : α} (hbs : ∀ b ∈ bs, S b) (hnodup : (visited ++ bs).Nodup)
    (hI : I visited a) : (each f bs a).Ends (I (visited ++ bs)) := by
  induction bs generalizing visited a with
  | nil =>
    rw [List.append_nil]
    exact hI
  | cons b bs ih =>
    have hnew : b ∉ visited := fun hmem =>
      (List.nodup_append.mp hnodup).2.2 b hmem b List.mem_cons_self rfl
    have hrest : ∀ b' ∈ bs, S b' := fun b' hb' => hbs b' (List.mem_cons_of_mem b hb')
    -- `b` counts as visited for the rest of the loop
    have hsplit : visited ++ b :: bs = (visited ++ [b]) ++ bs := by simp
    rw [hsplit] at hnodup ⊢
    have hfirst := hstep visited b a (hbs b List.mem_cons_self) hnew hI
    exact hfirst.bind fun a' ha' => ih hrest hnodup ha'

end Attempt

/-- A channel that holds at most `cap` undelivered values. -/
structure Chan (α : Type) (cap : Nat) where
  buffer : List α
  closed : Bool
  bound : buffer.length ≤ cap

namespace Chan

variable {α : Type} {cap : Nat}

def make : Chan α cap := ⟨[], false, Nat.zero_le cap⟩

/-- There is room for one more value. -/
def hasRoom (c : Chan α cap) : Bool := c.buffer.length < cap

def send (c : Chan α cap) (x : α) : Attempt (Chan α cap) :=
  if c.closed then .panics
  else if h : c.buffer.length < cap then
    .done ⟨c.buffer ++ [x], c.closed, by rw [List.length_append, List.length_singleton]; omega⟩
  else .blocks

/-- `select { case c <- x: default: }` -/
def trySend (c : Chan α cap) (x : α) : Attempt (Chan α cap) :=
  match c.send x with
  -- the default case; a panic is none
  | .blocks => .done c
  | sent => sent

def close (c : Chan α cap) : Attempt (Chan α cap) :=
  if c.closed then .panics else .done { c with closed := true }

/-- The next value, or `none` once a closed channel has been drained. -/
def receive (c : Chan α cap) : Attempt (Option α × Chan α cap) :=
  match h : c.buffer with
  -- also on a closed channel
  | x :: rest => .done (some x, ⟨rest, c.closed, by
      have hbound := c.bound
      rw [h, List.length_cons] at hbound
      omega⟩)
  | [] => if c.closed then .done (none, c) else .blocks

/-- What the buffer holds after a lossy send. -/
def offered (c : Chan α cap) (x : α) : List α :=
  if c.hasRoom then c.buffer ++ [x] else c.buffer

/-- A lossy send on an open channel never blocks, and drops the value if there is no room. -/
theorem trySend_of_open {c : Chan α cap} (h : c.closed = false) (x : α) :
    (c.trySend x).Ends fun c' => c'.buffer = c.offered x ∧ c'.closed = false := by
  unfold trySend send offered hasRoom
  rw [h]
  by_cases hroom : c.buffer.length < cap
  · simp [hroom, Attempt.Ends]
  · simp [hroom, Attempt.Ends, h]

theorem close_of_open {c : Chan α cap} (h : c.closed = false) :
    c.close = .done { c with closed := true } := by
  rw [close, h]
  rfl

theorem receive_of_cons {c : Chan α cap} {x : α} {rest : List α} (h : c.buffer = x :: rest) :
    (c.receive).Ends fun r => r.1 = some x ∧ r.2.buffer = rest ∧ r.2.closed = c.closed := by
  unfold receive
  split
  · rename_i y rest' hbuffer
    rw [h] at hbuffer
    cases hbuffer
    exact ⟨rfl, rfl, rfl⟩
  · rename_i hbuffer
    rw [h] at hbuffer
    cases hbuffer

theorem receive_of_nil {c : Chan α cap} (h : c.buffer = []) :
    c.receive = if c.closed then .done (none, c) else .blocks := by
  unfold receive
  split
  · rename_i y rest' hbuffer
    rw [h] at hbuffer
    cases hbuffer
  · rfl

end Chan

end Channel
