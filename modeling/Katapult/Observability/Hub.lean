/-
  Katapult.Observability.Hub

  The in-memory pub/sub hub of progress events.

  A `*subscriber` is an index into the subscribers made so far.  Every operation
  holds the mutex from its first to its last step, so it is one step here; how
  it ends (`Attempt`) says whether it blocks with the mutex held, or panics.
-/

import Katapult.Channel.Buffered
import Katapult.Observability.Progress
import Mathlib.Logic.Function.Basic

namespace Katapult

open Channel

def subscriberBufferSize : Nat := 16

structure Subscriber where
  ch : Chan EnrichedProgress subscriberBufferSize
  closed : Bool

/-- A `*subscriber`. -/
abbrev Ref : Type := Nat

/-- What happens to a channel. -/
inductive ChannelEvent where
  /-- A non-blocking send, with the number of events that were undelivered then. -/
  | sent (sub : Ref) (progress : EnrichedProgress) (backlog : Nat)
  | received (sub : Ref) (progress : EnrichedProgress)
  /-- A call of `close`. -/
  | closed (sub : Ref)

/-- The hub; the inner sets are lists without repetition.  The source ranges over them
    in any order, which makes no difference (`ends_each_sub`). -/
structure ProgressHub where
  /-- All subscribers made so far, registered or not. -/
  heap : List Subscriber
  subscribers : UUID → Option (List Ref)
  /-- Not in the source: what has happened to the channels, in order. -/
  log : List ChannelEvent

/-- What an unsubscribe closure has captured. -/
structure Handle where
  sub : Ref
  transferID : UUID
  deriving DecidableEq

namespace ProgressHub

def new : ProgressHub where
  heap := []
  subscribers := fun _ => none
  log := []

/-- Replace what a pointer points to. -/
def store (h : ProgressHub) (r : Ref) (sub : Subscriber) (ev : ChannelEvent) : ProgressHub :=
  { h with heap := h.heap.set r sub, log := h.log ++ [ev] }

def subscribe (h : ProgressHub) (transferID : UUID) : Handle × ProgressHub :=
  let sub := h.heap.length
  let subs := (h.subscribers transferID).getD []
  ({ sub, transferID },
    { h with
      heap := h.heap ++ [{ ch := Chan.make, closed := false }]
      subscribers := Function.update h.subscribers transferID (some (subs ++ [sub])) })

/-- `close(sub.ch)`, after `sub.closed = true`. -/
def closeSubscriber (r : Ref) (h : ProgressHub) : Attempt ProgressHub :=
  -- a pointer is never dangling; the first case is not reached
  match h.heap[r]? with
  | none => .done h
  | some sub => sub.ch.close.map fun ch => h.store r { ch, closed := true } (.closed r)

/-- The entry of a transfer once a subscriber has been deleted from it. -/
def deleteSub (subs : List Ref) (r : Ref) : Option (List Ref) :=
  let subs := subs.erase r
  if subs.length = 0 then none else some subs

/-- The closure that `subscribe` returns. -/
def unsubscribe (h : ProgressHub) (handle : Handle) : Attempt ProgressHub :=
  match h.heap[handle.sub]? with
  | none => .done h
  | some sub =>
    -- closed before, by an earlier call or by `closeTransfer`
    if sub.closed then .done h
    else
      let h :=
        match h.subscribers handle.transferID with
        | some subs =>
          { h with
            subscribers := Function.update h.subscribers handle.transferID
              (deleteSub subs handle.sub) }
        | none => h
      h.closeSubscriber handle.sub

/-- One turn of the loop of `publish`. -/
def sendTo (progress : EnrichedProgress) (r : Ref) (h : ProgressHub) : Attempt ProgressHub :=
  match h.heap[r]? with
  | none => .done h
  | some sub => (sub.ch.trySend progress).map fun ch =>
      h.store r { sub with ch } (.sent r progress sub.ch.buffer.length)

def publish (h : ProgressHub) (transferID : UUID) (progress : EnrichedProgress) :
    Attempt ProgressHub :=
  match h.subscribers transferID with
  | none => .done h
  | some subs => Attempt.each (sendTo progress) subs h

/-- One turn of the loop of `closeTransfer`. -/
def closeIfOpen (r : Ref) (h : ProgressHub) : Attempt ProgressHub :=
  match h.heap[r]? with
  | none => .done h
  | some sub => if sub.closed then .done h else h.closeSubscriber r

def closeTransfer (h : ProgressHub) (transferID : UUID) : Attempt ProgressHub :=
  match h.subscribers transferID with
  | none => .done h
  | some subs =>
    -- the entry goes first, the channels are closed after that
    let h := { h with subscribers := Function.update h.subscribers transferID none }
    Attempt.each closeIfOpen subs h

/-- A receive from the channel that `subscribe` has returned. -/
def receive (h : ProgressHub) (handle : Handle) : Attempt (Option EnrichedProgress × ProgressHub) :=
  match h.heap[handle.sub]? with
  | none => .blocks
  | some sub => sub.ch.receive.map fun (value, ch) =>
      match value with
      | some progress => (value, h.store handle.sub { sub with ch } (.received handle.sub progress))
      | none => (value, h)

end ProgressHub

/-! ## Sequences of operations -/

/-- An operation of the hub's clients; `n` stands for the `n`-th subscription. -/
inductive HubOp where
  | subscribe (transferID : UUID)
  | unsubscribe (n : Nat)
  | publish (transferID : UUID) (progress : EnrichedProgress)
  | closeTransfer (transferID : UUID)
  | receive (n : Nat)

/-- The hub and what it has returned from `subscribe`, in order. -/
structure HubWorld where
  hub : ProgressHub
  handles : List Handle

namespace HubWorld

def start : HubWorld := ⟨.new, []⟩

def withHub (w : HubWorld) (hub : ProgressHub) : HubWorld := { w with hub }

def step : HubOp → HubWorld → Attempt HubWorld
  | .subscribe transferID, w =>
    let (handle, hub) := w.hub.subscribe transferID
    .done { hub, handles := w.handles ++ [handle] }
  | .unsubscribe n, w =>
    match w.handles[n]? with
    | none => .done w
    | some handle => (w.hub.unsubscribe handle).map w.withHub
  | .publish transferID progress, w => (w.hub.publish transferID progress).map w.withHub
  | .closeTransfer transferID, w => (w.hub.closeTransfer transferID).map w.withHub
  | .receive n, w =>
    match w.handles[n]? with
    | none => .done w
    | some handle =>
      match w.hub.receive handle with
      | .done (_, hub) => .done (w.withHub hub)
      -- there is nothing to receive yet: the receiver waits, outside the mutex
      | .blocks => .done w
      | .panics => .panics

def run (ops : List HubOp) (w : HubWorld) : Attempt HubWorld := Attempt.each step ops w

end HubWorld

end Katapult
