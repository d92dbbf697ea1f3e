/-
  Katapult.Channel.Mailbox

  What one consumer of a lossy bounded channel gets.

  A mailbox is offered values, which it keeps as long as it has room for them
  and is not shut; the consumer takes them in their order.  It remembers every
  offer together with the backlog it met, and carries the proof that what was
  taken and what is still there are exactly the offers that found room.
-/

import Katapult.Channel.Buffered

namespace Channel

structure Mailbox (α : Type) (cap : Nat) where
  received : List α
  buffer : List α
  closed : Bool
  /-- The values offered while it was open, each with the number of values that
      were undelivered at that moment. -/
  offers : List (α × Nat)
  bound : buffer.length ≤ cap
  backlog : ∀ o ∈ offers, o.2 ≤ cap
  kept : received ++ buffer = (offers.filter fun o => o.2 < cap).map Prod.fst

namespace Mailbox

variable {α : Type} {cap : Nat}

def empty : Mailbox α cap where
  received := []
  buffer := []
  closed := false
  offers := []
  bound := Nat.zero_le cap
  backlog := fun _ ho => absurd ho List.not_mem_nil
  kept := rfl

/-- What the buffer holds after an offer. -/
def room (buffer : List α) (cap : Nat) (x : α) : List α :=
  if buffer.length < cap then buffer ++ [x] else buffer

theorem length_room_le {buffer : List α} (h : buffer.length ≤ cap) (x : α) :
    (room buffer cap x).length ≤ cap := by
  unfold room
  split
  · rw [List.length_append, List.length_singleton]
    omega
  · exact h

/-- One more value is offered; a mailbox that is shut takes no notice. -/
def offer (m : Mailbox α cap) (x : α) : Mailbox α cap :=
  if m.closed then m
  else
    { m with
      buffer := room m.buffer cap x
      offers := m.offers ++ [(x, m.buffer.length)]
      bound := length_room_le m.bound x
      backlog := fun o ho => by
        rcases List.mem_append.mp ho with hold | hnew
        · exact m.backlog o hold
        · rw [List.mem_singleton.mp hnew]
          exact m.bound
      kept := by
        rw [List.filter_append, List.map_append, ← m.kept]
        unfold room
        by_cases hroom : m.buffer.length < cap
        · simp [hroom]
        · simp [hroom] }

/-- The consumer takes the next value, if there is one. -/
def take (m : Mailbox α cap) : Mailbox α cap :=
  match h : m.buffer with
  | [] => m
  | x :: rest =>
    { m with
      received := m.received ++ [x]
      buffer := rest
      bound := by
        have hbound := m.bound
        rw [h, List.length_cons] at hbound
        omega
      kept := by rw [← m.kept, h, List.append_assoc, List.singleton_append] }

def shut (m : Mailbox α cap) : Mailbox α cap := { m with closed := true }

/-! ## What happens to a mailbox -/

inductive Op (α : Type) where
  | offer (x : α)
  | take
  | shut

/-- The value of an offer. -/
def Op.value? : Op α → Option α
  | .offer x => some x
  | _ => none

def Op.isShut : Op α → Bool
  | .shut => true
  | _ => false

def step (m : Mailbox α cap) : Op α → Mailbox α cap
  | .offer x => m.offer x
  | .take => m.take
  | .shut => m.shut

def run (m : Mailbox α cap) (ops : List (Op α)) : Mailbox α cap := ops.foldl step m

/-- What was taken and what is still there are some of the offers, in their order. -/
theorem sublist_offers (m : Mailbox α cap) : (m.received ++ m.buffer).Sublist (m.offers.map Prod.fst) := by
  rw [m.kept]
  exact List.filter_sublist.map Prod.fst

/-- An offer that is missing has met a full mailbox. -/
theorem backlog_of_missing (m : Mailbox α cap) {o : α × Nat} (ho : o ∈ m.offers) (hfull : ¬ o.2 < cap) :
    o.2 = cap := by
  have hbound := m.backlog o ho
  omega

theorem take_of_nil (m : Mailbox α cap) (h : m.buffer = []) : m.take = m := by
  unfold take
  split
  · rfl
  · rename_i x rest hbuffer
    rw [h] at hbuffer
    cases hbuffer

theorem take_of_cons (m : Mailbox α cap) {x : α} {rest : List α} (h : m.buffer = x :: rest) :
    m.take.received = m.received ++ [x] ∧ m.take.buffer = rest := by
  unfold take
  split
  · rename_i hbuffer
    rw [h] at hbuffer
    cases hbuffer
  · rename_i y rest' hbuffer
    rw [h] at hbuffer
    cases hbuffer
    exact ⟨rfl, rfl⟩

theorem take_offers (m : Mailbox α cap) : m.take.offers = m.offers := by
  unfold take
  split <;> rfl

theorem take_closed (m : Mailbox α cap) : m.take.closed = m.closed := by
  unfold take
  split <;> rfl

/-- A mailbox that is shut is offered nothing any more. -/
theorem offers_of_closed {m : Mailbox α cap} (h : m.closed = true) (ops : List (Op α)) :
    (m.run ops).offers = m.offers := by
  induction ops generalizing m with
  | nil => rfl
  | cons op ops ih =>
    show ((m.step op).run ops).offers = m.offers
    cases op with
    | offer x =>
      have hstep : m.step (.offer x) = m := by rw [step, offer, if_pos h]
      rw [hstep]
      exact ih h
    | take =>
      have hclosed : (m.step .take).closed = true := by rw [step, take_closed, h]
      rw [ih hclosed, step, take_offers]
    | shut => exact ih rfl

/-- What a mailbox has been offered is what was offered before it was shut. -/
theorem offers_run {m : Mailbox α cap} (h : m.closed = false) (ops : List (Op α)) :
    (m.run ops).offers.map Prod.fst = m.offers.map Prod.fst ++
      (ops.takeWhile fun op => !op.isShut).filterMap Op.value? := by
  induction ops generalizing m with
  | nil => simp [run]
  | cons op ops ih =>
    show ((m.step op).run ops).offers.map Prod.fst = _
    cases op with
    | offer x =>
      have hclosed : (m.step (.offer x)).closed = false := by rw [step, offer, if_neg (by simp [h])]; exact h
      rw [ih hclosed, step, offer, if_neg (by simp [h])]
      simp [Op.isShut, Op.value?]
    | take =>
      have hclosed : (m.step .take).closed = false := by rw [step, take_closed, h]
      rw [ih hclosed, step, take_offers]
      rfl
    | shut =>
      have hclosed : (m.step .shut).closed = true := rfl
      rw [offers_of_closed hclosed]
      simp [Op.isShut, step, shut]

end Mailbox

end Channel
