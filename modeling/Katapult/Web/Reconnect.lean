/-
  Katapult.Web.Reconnect

  How the browser connects again.

  `streamProgress` waits and connects again whenever a stream ends, and
  `useTransferProgress` does when it throws; each of the two has a delay of its
  own, which grows until an event comes in.  Neither looks at the events, so that
  a page connects for ever to a transfer that is finished, and delays double only
  as long as the connections end in the same way (`pageRun_iff`).
-/

import Katapult.Web.RoundTrip
import Mathlib.Data.List.Chain

namespace Katapult

/-- The source's `INITIAL_BACKOFF_MS`, in both files. -/
def initialBackoffMs : Nat := 1000
/-- The source's `MAX_BACKOFF_MS`, in both files. -/
def maxBackoffMs : Nat := 30000

/-- The delay after this one. -/
def nextBackoff (backoff : Nat) : Nat := min (backoff * 2) maxBackoffMs

/-! ## The page -/

/-- What the hook and its generator wait for. -/
inductive PagePhase where
  /-- The `fetch`. -/
  | connecting
  /-- The next chunk. -/
  | reading (buffer : JsString)
  /-- The timer of the generator, after the end of a stream. -/
  | reconnecting
  /-- The timer of the hook, after an error. -/
  | retrying
  /-- Nothing: `connect` has returned. -/
  | stopped
  deriving DecidableEq

structure Page where
  phase : PagePhase
  /-- The generator's. -/
  backoff : Nat
  /-- The hook's. -/
  hookBackoff : Nat
  /-- The page has been left. -/
  aborted : Bool
  deriving DecidableEq

/-- A page that has just been opened. -/
def Page.opened : Page := ⟨.connecting, initialBackoffMs, initialBackoffMs, false⟩

/-- What happens to a page. -/
inductive PageInput where
  /-- The `fetch` is answered: with a body to read, or else it throws. -/
  | fetched (ok : Bool)
  | chunk (text : JsString)
  | done
  | readError
  | timer
  | abort

/-- What is seen of a page. -/
inductive PageOutput (V : Type) where
  | connect
  | progress (event : V)
  /-- The stream has ended. -/
  | ended
  | delay (ms : Nat)
  deriving DecidableEq

section

variable {V : Type} (parseJSON : JsString → Option V) (truthy : V → Bool)

/-- The `catch` of the hook. -/
def Page.fail (p : Page) : List (PageOutput V) × Page :=
  if p.aborted then ([], { p with phase := .stopped })
  else ([.delay p.hookBackoff], { p with phase := .retrying })

/-- One step; `none` when a page does not wait for this. -/
def Page.step (p : Page) : PageInput → Option (List (PageOutput V) × Page)
  | .fetched ok =>
    if p.phase = .connecting then
      some (if ok then ([], { p with phase := .reading [] }) else p.fail)
    else none
  | .chunk text =>
    match p.phase with
    | .reading buffer =>
      let out := readChunk parseJSON truthy ([], buffer) text
      -- the hook asks for the signal when an event comes in, and not before
      if out.1.isEmpty then some ([], { p with phase := .reading out.2 })
      else if p.aborted then some ([], { p with phase := .stopped })
      else some (out.1.map .progress,
        { p with phase := .reading out.2, backoff := initialBackoffMs, hookBackoff := initialBackoffMs })
    | _ => none
  | .done =>
    match p.phase with
    | .reading _ => some ([.ended, .delay p.backoff], { p with phase := .reconnecting })
    | _ => none
  | .readError =>
    match p.phase with
    | .reading _ => some p.fail
    | _ => none
  | .timer =>
    match p.phase with
    | .reconnecting =>
      -- the generator does not ask whether the page has been left
      some ([.connect], { p with phase := .connecting, backoff := nextBackoff p.backoff })
    | .retrying =>
      -- another call of the generator, with a delay of its own
      if p.aborted then some ([], { p with phase := .stopped })
      else some ([.connect],
        { p with phase := .connecting, backoff := initialBackoffMs, hookBackoff := nextBackoff p.hookBackoff })
    | _ => none
  | .abort =>
    match p.phase with
    | .retrying => some ([], { p with phase := .stopped, aborted := true })
    | _ => some ([], { p with aborted := true })

/-- What is seen of a page from here on, and where it stands then. -/
def Page.run (p : Page) : List PageInput → Option (List (PageOutput V) × Page)
  | [] => some ([], p)
  | input :: inputs =>
    match p.step parseJSON truthy input with
    | none => none
    | some (outputs, p') => (p'.run inputs).map fun out => (outputs ++ out.1, out.2)

theorem Page.run_append {p p' : Page} {inputs : List PageInput} {outputs : List (PageOutput V)}
    (h : p.run parseJSON truthy inputs = some (outputs, p')) (inputs' : List PageInput) :
    p.run parseJSON truthy (inputs ++ inputs') =
      (p'.run parseJSON truthy inputs').map fun out => (outputs ++ out.1, out.2) := by
  induction inputs generalizing p outputs with
  | nil =>
    cases h
    exact Option.map_id'.symm
  | cons input inputs ih =>
    rw [List.cons_append, Page.run]
    rw [Page.run] at h
    cases hstep : p.step parseJSON truthy input with
    | none =>
      rw [hstep] at h
      cases h
    | some out =>
      rw [hstep] at h
      obtain ⟨rest, hrest, heq⟩ := Option.map_eq_some_iff.mp h
      cases heq
      dsimp only
      rw [ih hrest, Option.map_map]
      congr 1
      funext out'
      simp

/-! ## Connections -/

/-- A connection: it is refused, or read to its end, or until reading fails. -/
inductive Session where
  | refused
  | answered (chunks : List JsString) (closed : Bool)

namespace Session

def inputs : Session → List PageInput
  | .refused => [.fetched false, .timer]
  | .answered chunks closed =>
      .fetched true :: chunks.map .chunk ++ [if closed then .done else .readError, .timer]

def closed : Session → Bool
  | .refused => false
  | .answered _ closed => closed

/-- The events of a connection: those of the frames of its text. -/
def events : Session → List V
  | .refused => []
  | .answered chunks _ => frameEvents parseJSON truthy (sseFrames.frames chunks.flatten).1

end Session

/-- The two delays, the generator's and the hook's, when a connection has ended. -/
def Session.delays (backoffs : Nat × Nat) (s : Session) : Nat × Nat :=
  if (s.events parseJSON truthy).isEmpty then backoffs else (initialBackoffMs, initialBackoffMs)

/-- What is seen of a connection, up to the next one. -/
def Session.outputs (backoffs : Nat × Nat) (s : Session) : List (PageOutput V) :=
  (s.events parseJSON truthy).map .progress ++
    if s.closed then [.ended, .delay (s.delays parseJSON truthy backoffs).1, .connect]
    else [.delay (s.delays parseJSON truthy backoffs).2, .connect]

/-- The two delays at the next connection. -/
def Session.next (backoffs : Nat × Nat) (s : Session) : Nat × Nat :=
  let delays := s.delays parseJSON truthy backoffs
  if s.closed then (nextBackoff delays.1, delays.2) else (initialBackoffMs, nextBackoff delays.2)

/-- What is seen of a page while it goes through these connections. -/
def trace : Nat × Nat → List Session → List (PageOutput V)
  | _, [] => []
  | backoffs, s :: sessions =>
    s.outputs parseJSON truthy backoffs ++ trace (s.next parseJSON truthy backoffs) sessions

/-- Reading adds to the events that have been found. -/
theorem foldl_readChunk (chunks : List JsString) (events : List V) (buffer : JsString) :
    chunks.foldl (readChunk parseJSON truthy) (events, buffer) =
      (events ++ (chunks.foldl (readChunk parseJSON truthy) ([], buffer)).1,
        (chunks.foldl (readChunk parseJSON truthy) ([], buffer)).2) := by
  induction chunks generalizing events buffer with
  | nil => simp
  | cons chunk chunks ih =>
    rw [List.foldl_cons, List.foldl_cons, readChunk_eq, readChunk_eq, ih, List.nil_append, ih (frameEvents _ _ _)]
    simp

/-- The chunks of a connection. -/
theorem Page.run_chunks (chunks : List JsString) (buffer : JsString) (backoffs : Nat × Nat) :
    (⟨.reading buffer, backoffs.1, backoffs.2, false⟩ : Page).run parseJSON truthy (chunks.map .chunk) =
      let out := chunks.foldl (readChunk parseJSON truthy) ([], buffer)
      let delays := if out.1.isEmpty then backoffs else (initialBackoffMs, initialBackoffMs)
      some (out.1.map .progress, ⟨.reading out.2, delays.1, delays.2, false⟩) := by
  induction chunks generalizing buffer backoffs with
  | nil => rfl
  | cons chunk chunks ih =>
    rw [List.map_cons, Page.run, List.foldl_cons]
    generalize hread : readChunk parseJSON truthy ([], buffer) chunk = out
    obtain ⟨events, buffer'⟩ := out
    rw [foldl_readChunk]
    -- a chunk that completes an event sets both delays back
    cases events with
    | nil =>
      have hstep : Page.step parseJSON truthy ⟨.reading buffer, backoffs.1, backoffs.2, false⟩ (.chunk chunk) =
          some ([], ⟨.reading buffer', backoffs.1, backoffs.2, false⟩) := by
        simp [Page.step, hread]
      rw [hstep]
      dsimp only
      rw [ih]
      simp
    | cons event events =>
      have hstep : Page.step parseJSON truthy ⟨.reading buffer, backoffs.1, backoffs.2, false⟩ (.chunk chunk) =
          some ((event :: events).map .progress,
            ⟨.reading buffer', initialBackoffMs, initialBackoffMs, false⟩) := by
        simp [Page.step, hread]
      rw [hstep]
      dsimp only
      rw [ih buffer' (initialBackoffMs, initialBackoffMs)]
      simp

/-- The end of a connection, and the timer after it. -/
theorem Page.run_end (buffer : JsString) (delays : Nat × Nat) (closed : Bool) :
    (⟨.reading buffer, delays.1, delays.2, false⟩ : Page).run parseJSON truthy
        [if closed then .done else .readError, .timer] =
      if closed then
        some ([.ended, .delay delays.1, .connect], ⟨.connecting, nextBackoff delays.1, delays.2, false⟩)
      else some ([.delay delays.2, .connect], ⟨.connecting, initialBackoffMs, nextBackoff delays.2, false⟩) := by
  cases closed with
  | false => rfl
  | true => rfl

/-- One connection, and the timer after it. -/
theorem Page.run_session (s : Session) (backoffs : Nat × Nat) :
    (⟨.connecting, backoffs.1, backoffs.2, false⟩ : Page).run parseJSON truthy s.inputs =
      some (s.outputs parseJSON truthy backoffs,
        ⟨.connecting, (s.next parseJSON truthy backoffs).1, (s.next parseJSON truthy backoffs).2, false⟩) := by
  cases s with
  | refused => rfl
  | answered chunks closed =>
    have hchunks := Page.run_chunks parseJSON truthy chunks [] backoffs
    rw [← readStream, readStream_eq] at hchunks
    have hopened : Page.step parseJSON truthy ⟨.connecting, backoffs.1, backoffs.2, false⟩ (.fetched true) =
        some (([] : List (PageOutput V)), ⟨.reading [], backoffs.1, backoffs.2, false⟩) := rfl
    have hrun := Page.run_append parseJSON truthy hchunks [if closed then .done else .readError, .timer]
    rw [Page.run_end] at hrun
    rw [Session.inputs, List.cons_append, Page.run, hopened]
    dsimp only
    rw [hrun]
    cases closed with
    | false => rfl
    | true => rfl

/-- A page goes through any connections, one after the other. -/
theorem Page.run_sessions (sessions : List Session) (backoffs : Nat × Nat) :
    ∃ p', (⟨.connecting, backoffs.1, backoffs.2, false⟩ : Page).run parseJSON truthy
        (sessions.flatMap Session.inputs) =
      some (trace parseJSON truthy backoffs sessions, p') := by
  induction sessions generalizing backoffs with
  | nil => exact ⟨_, rfl⟩
  | cons s sessions ih =>
    obtain ⟨p', hp'⟩ := ih (s.next parseJSON truthy backoffs)
    refine ⟨p', ?_⟩
    rw [List.flatMap_cons, Page.run_append parseJSON truthy (Page.run_session parseJSON truthy s backoffs),
      hp']
    rfl

/-! ## What is seen -/

/-- Once an event has told that the transfer is finished, and a stream has ended, no
    connection is opened; `seen` is whether such an event has come before. -/
def StopsWhenFinished (finished : V → Bool) : Bool → List (PageOutput V) → Prop
  | _, [] => True
  | seen, .progress event :: rest => StopsWhenFinished finished (seen || finished event) rest
  | seen, .ended :: rest => (seen = true → .connect ∉ rest) ∧ StopsWhenFinished finished seen rest
  | seen, .connect :: rest | seen, .delay _ :: rest => StopsWhenFinished finished seen rest

/-- From one event to the next, the delays double up to their limit. -/
def Doubling : Nat → List (PageOutput V) → Prop
  | _, [] => True
  | expected, .delay ms :: rest => ms = expected ∧ Doubling (nextBackoff expected) rest
  | _, .progress _ :: rest => Doubling initialBackoffMs rest
  | expected, .connect :: rest | expected, .ended :: rest => Doubling expected rest

/-- The delays that are seen. -/
def PageOutput.delay? : PageOutput V → Option Nat
  | .delay ms => some ms
  | _ => none

/-- As long as no event comes in, they are the first one times the powers of two. -/
theorem doubling_iff_delays (outputs : List (PageOutput V)) (n : Nat)
    (hsilent : ∀ event, .progress event ∉ outputs) :
    Doubling (min (initialBackoffMs * 2 ^ n) maxBackoffMs) outputs ↔
      ∀ i ms, (outputs.filterMap PageOutput.delay?)[i]? = some ms →
        ms = min (initialBackoffMs * 2 ^ (n + i)) maxBackoffMs := by
  induction outputs generalizing n with
  | nil => simp [Doubling]
  | cons output outputs ih =>
    have hrest : ∀ event, .progress event ∉ outputs := fun event hmem =>
      hsilent event (List.mem_cons_of_mem _ hmem)
    cases output with
    | progress event => exact absurd List.mem_cons_self (hsilent event)
    | connect => exact ih n hrest
    | ended => exact ih n hrest
    | delay ms =>
      have hnext : nextBackoff (min (initialBackoffMs * 2 ^ n) maxBackoffMs) =
          min (initialBackoffMs * 2 ^ (n + 1)) maxBackoffMs := by
        rw [nextBackoff, pow_succ, ← Nat.mul_assoc]
        omega
      have hdelays : (PageOutput.delay ms :: outputs).filterMap PageOutput.delay? =
          ms :: outputs.filterMap PageOutput.delay? := rfl
      rw [Doubling, hnext, ih (n + 1) hrest, hdelays]
      constructor
      · rintro ⟨hms, hlater⟩ i ms' hget
        cases i with
        | zero =>
          cases hget
          exact hms
        | succ i =>
          rw [List.getElem?_cons_succ] at hget
          rw [hlater i ms' hget, Nat.add_assoc, Nat.add_comm 1 i]
      · intro hall
        refine ⟨hall 0 ms rfl, fun i ms' hget => ?_⟩
        rw [hall (i + 1) ms' hget, Nat.add_assoc, Nat.add_comm 1 i]

/-- The server ends no connection once an event, of this connection or of one before
    it, has told that the transfer is finished. -/
def ClosesUnfinished (finished : V → Bool) : Bool → List Session → Prop
  | _, [] => True
  | seen, s :: sessions =>
    (s.closed = true → (seen || (s.events parseJSON truthy).any finished) = false) ∧
      ClosesUnfinished finished (seen || (s.events parseJSON truthy).any finished) sessions

/-- A connection without an event ends like the one before it. -/
def EndsAlike (s s' : Session) : Prop := s'.events parseJSON truthy = [] → s'.closed = s.closed

theorem stopsWhenFinished_progress (finished : V → Bool) (events : List V) (seen : Bool)
    (rest : List (PageOutput V)) :
    StopsWhenFinished finished seen (events.map .progress ++ rest) ↔
      StopsWhenFinished finished (seen || events.any finished) rest := by
  induction events generalizing seen with
  | nil => simp
  | cons event events ih =>
    rw [List.map_cons, List.cons_append, StopsWhenFinished, ih, List.any_cons, Bool.or_assoc]

theorem stopsWhenFinished_trace (finished : V → Bool) (seen : Bool) (backoffs : Nat × Nat)
    (sessions : List Session) :
    StopsWhenFinished finished seen (trace parseJSON truthy backoffs sessions) ↔
      ClosesUnfinished parseJSON truthy finished seen sessions := by
  induction sessions generalizing seen backoffs with
  | nil => exact Iff.rfl
  | cons s sessions ih =>
    rw [trace, ClosesUnfinished, Session.outputs, List.append_assoc, stopsWhenFinished_progress,
      ← ih _ (s.next parseJSON truthy backoffs)]
    cases hclosed : s.closed with
    | false =>
      simp [StopsWhenFinished]
    | true =>
      -- the page always connects again
      simp [StopsWhenFinished]

theorem doubling_progress (events : List V) (expected : Nat) (rest : List (PageOutput V)) :
    Doubling expected (events.map .progress ++ rest) ↔
      Doubling (if events.isEmpty then expected else initialBackoffMs) rest := by
  induction events generalizing expected with
  | nil => exact Iff.rfl
  | cons event events ih =>
    rw [List.map_cons, List.cons_append, Doubling, ih]
    simp

/-- The two delays when the next one should be this one. -/
def Session.waiting (s : Session) (delay : Nat) : Nat × Nat :=
  if s.closed then (delay, initialBackoffMs) else (initialBackoffMs, delay)

/-- A connection that starts with the first delays. -/
theorem doubling_reset {s : Session} {backoffs : Nat × Nat} {expected : Nat}
    (hdelays : s.delays parseJSON truthy backoffs = (initialBackoffMs, initialBackoffMs))
    (hexpected : (s.events parseJSON truthy).isEmpty = true → expected = initialBackoffMs)
    (rest : List (PageOutput V)) :
    s.next parseJSON truthy backoffs = s.waiting (nextBackoff initialBackoffMs) ∧
      (Doubling expected (s.outputs parseJSON truthy backoffs ++ rest) ↔
        Doubling (nextBackoff initialBackoffMs) rest) := by
  have hstart : (if (s.events parseJSON truthy).isEmpty then expected else initialBackoffMs) =
      initialBackoffMs := by
    split
    · rename_i hempty
      exact hexpected hempty
    · rfl
  rw [Session.next, Session.outputs, List.append_assoc, doubling_progress, hstart, hdelays,
    Session.waiting]
  cases s.closed with
  | false => simp [Doubling]
  | true => simp [Doubling]

/-- From a connection on, after which the delay grows. -/
theorem doubling_trace (s : Session) (sessions : List Session) {expected : Nat}
    (hgrown : initialBackoffMs < expected) :
    Doubling expected (trace parseJSON truthy (s.waiting expected) sessions) ↔
      (s :: sessions).IsChain (EndsAlike parseJSON truthy) := by
  have hinitial : initialBackoffMs < nextBackoff initialBackoffMs := by decide
  induction sessions generalizing s expected with
  | nil => exact iff_of_true trivial (List.isChain_singleton s)
  | cons s' sessions ih =>
    rw [List.isChain_cons_cons, trace]
    cases hevents : s'.events parseJSON truthy with
    | cons event events =>
      have hdelays : s'.delays parseJSON truthy (s.waiting expected) =
          (initialBackoffMs, initialBackoffMs) := by
        rw [Session.delays, hevents]
        rfl
      have hends : EndsAlike parseJSON truthy s s' := by
        intro hnil
        rw [hnil] at hevents
        cases hevents
      have hexpected : (s'.events parseJSON truthy).isEmpty = true → expected = initialBackoffMs := by
        rw [hevents]
        intro hempty
        cases hempty
      -- an event sets everything back, so this connection may end in any way
      obtain ⟨hnext, hdoubling⟩ := doubling_reset parseJSON truthy hdelays hexpected
        (trace parseJSON truthy (s'.next parseJSON truthy (s.waiting expected)) sessions)
      rw [hdoubling, hnext]
      exact (ih s' hinitial).trans (and_iff_right hends).symm
    | nil =>
      have hdelays : s'.delays parseJSON truthy (s.waiting expected) = s.waiting expected := by
        rw [Session.delays, hevents]
        rfl
      have hends : EndsAlike parseJSON truthy s s' ↔ s'.closed = s.closed :=
        forall_prop_of_true hevents
      have hlater : initialBackoffMs < nextBackoff expected := by
        unfold nextBackoff maxBackoffMs
        unfold initialBackoffMs at hgrown ⊢
        omega
      have hne : initialBackoffMs ≠ expected := Nat.ne_of_lt hgrown
      rw [hends, Session.outputs, Session.next, hevents, hdelays]
      refine Iff.trans ?_ (and_congr_right' (ih s' hlater))
      -- the delay that has grown is the other one's if the ends differ
      cases hclosed : s.closed with
      | false =>
        cases hclosed' : s'.closed with
        | false => simp [Doubling, Session.waiting, hclosed, hclosed']
        | true => simp [Doubling, Session.waiting, hclosed, hne]
      | true =>
        cases hclosed' : s'.closed with
        | false => simp [Doubling, Session.waiting, hclosed, hne]
        | true => simp [Doubling, Session.waiting, hclosed, hclosed']

theorem doubling_trace_opened (sessions : List Session) :
    Doubling initialBackoffMs
        (trace parseJSON truthy (initialBackoffMs, initialBackoffMs) sessions) ↔
      sessions.IsChain (EndsAlike parseJSON truthy) := by
  cases sessions with
  | nil => exact iff_of_true trivial List.isChain_nil
  | cons s sessions =>
    have hdelays : s.delays parseJSON truthy (initialBackoffMs, initialBackoffMs) =
        (initialBackoffMs, initialBackoffMs) := ite_self _
    obtain ⟨hnext, hdoubling⟩ := doubling_reset parseJSON truthy hdelays (fun _ => rfl)
      (trace parseJSON truthy (s.next parseJSON truthy (initialBackoffMs, initialBackoffMs)) sessions)
    rw [trace, hdoubling, hnext]
    exact doubling_trace parseJSON truthy s sessions (by decide)

end

/-! ## A finished transfer -/

/-- What an event says of a transfer that is finished. -/
def finishedStatuses : List String := ["completed", "failed", "cancelled"]

section

variable [UUIDText] (marshal : EnrichedProgress → Option String)

/-- A connection that the stream handler answers for this transfer, and ends. -/
def Session.Served (transfer : Transfer) (s : Session) : Prop :=
  ∃ (progressHub : Bool) (rounds : Nat) (r : HttpRequest) (id : UUID)
    (evs : List (Effect.Ev StreamCall StreamCall.Ans)) (body : Body) (chunks : List JsString),
    Effect.Prog.Residual (handleStreamProgress progressHub rounds r)
      (⟨.getTransfer id, .ok (some transfer)⟩ :: evs) (.pure ⟨200, body⟩) ∧
    chunks.flatten = utf16 (responseText marshal (evs.map Sigma.fst)) ∧ s = .answered chunks true

/-- For a finished transfer the handler writes its snapshot, and nothing else. -/
theorem handleStreamProgress_terminal {progressHub : Bool} {rounds : Nat} {r : HttpRequest} {id : UUID}
    {transfer : Transfer} {evs : List (Effect.Ev StreamCall StreamCall.Ans)} {reply : Reply}
    (hterminal : transfer.isTerminal = true)
    (h : Effect.Prog.Residual (handleStreamProgress progressHub rounds r)
      (⟨.getTransfer id, .ok (some transfer)⟩ :: evs) (.pure reply)) :
    evs.map Sigma.fst = [.writeEvent (snapshot transfer)] := by
  unfold handleStreamProgress at h
  cases hparse : UUIDText.parse (r.pathValue "id") with
  | error err =>
    rw [hparse] at h
    cases h
  | ok id' =>
    rw [hparse] at h
    cases h with
    | cons hfound =>
      change Effect.Prog.Residual (if transfer.isTerminal = true then
        .call (StreamCall.writeEvent (snapshot transfer)) fun _ => .pure (⟨200, .eventStream⟩ : Reply)
        else _) _ _ at hfound
      rw [if_pos hterminal] at hfound
      cases hfound with
      | cons hwritten =>
        cases hwritten
        rfl

/-- Every such answer is possible. -/
theorem Session.served {transfer : Transfer} {chunks : List JsString}
    (hterminal : transfer.isTerminal = true)
    (hdecoded : chunks.flatten = utf16 (responseText marshal [.writeEvent (snapshot transfer)])) :
    Session.Served marshal transfer (.answered chunks true) := by
  let r : HttpRequest := { target := ⟨"GET", [], true⟩, pathValues := [("id", transfer.id.text)] }
  have hparse : UUIDText.parse (r.pathValue "id") = .ok transfer.id := UUID.parse_text transfer.id
  refine ⟨true, 0, r, transfer.id, [⟨.writeEvent (snapshot transfer), ()⟩], .eventStream, chunks, ?_,
    hdecoded, rfl⟩
  unfold handleStreamProgress
  rw [hparse]
  refine .cons ?_
  change Effect.Prog.Residual (if transfer.isTerminal = true then
    .call (StreamCall.writeEvent (snapshot transfer)) fun _ => .pure (⟨200, .eventStream⟩ : Reply)
    else _) _ _
  rw [if_pos hterminal]
  exact .cons (.nil _)

theorem snapshot_status_mem {transfer : Transfer} (hterminal : transfer.isTerminal = true) :
    (snapshot transfer).status ∈ finishedStatuses := by
  change transfer.state.text ∈ finishedStatuses
  change transfer.state.isTerminal = true at hterminal
  cases hstate : transfer.state with
  | completed => decide
  | failed => decide
  | cancelled => decide
  | _ =>
    rw [hstate] at hterminal
    cases hterminal

variable {V : Type} (parseJSON : JsString → Option V) (truthy : V → Bool) (view : EnrichedProgress → V)

/-- What the browser finds in such a connection. -/
theorem Session.Served.events_eq {transfer : Transfer} {s : Session} (h : s.Served marshal transfer)
    (hterminal : transfer.isTerminal = true)
    (hjson : Inverted marshal parseJSON truthy view (snapshot transfer)) :
    s.closed = true ∧ s.events parseJSON truthy = [view (snapshot transfer)] := by
  obtain ⟨progressHub, rounds, r, id, evs, body, chunks, hhandler, hdecoded, rfl⟩ := h
  -- the stream has one frame, and the browser finds it in any chunks
  rw [handleStreamProgress_terminal hterminal hhandler] at hdecoded
  have hinverted : ∀ progress, .writeEvent progress ∈ [StreamCall.writeEvent (snapshot transfer)] →
      Inverted marshal parseJSON truthy view progress := by
    intro progress hmem
    cases List.mem_singleton.mp hmem
    exact hjson
  have hread := readStream_of_inverted marshal parseJSON truthy view hinverted hdecoded
  rw [readStream_eq] at hread
  exact ⟨rfl, congrArg Prod.fst hread⟩

/-- The page does not stop, and no delay grows. -/
theorem not_closesUnfinished_served {finished : V → Bool} {sessions : List Session} {transfer : Transfer}
    (hserved : ∀ s ∈ sessions, s.Served marshal transfer) (hterminal : transfer.isTerminal = true)
    (hjson : Inverted marshal parseJSON truthy view (snapshot transfer))
    (hfinished : ∀ progress, progress.status ∈ finishedStatuses → finished (view progress) = true) :
    (ClosesUnfinished parseJSON truthy finished false sessions ↔ sessions = []) ∧
      sessions.IsChain (EndsAlike parseJSON truthy) := by
  refine ⟨?_, ?_⟩
  · cases sessions with
    | nil => exact iff_of_true trivial rfl
    | cons s sessions =>
      obtain ⟨hclosed, hevents⟩ :=
        (hserved s List.mem_cons_self).events_eq marshal parseJSON truthy view hterminal hjson
      have hstatus := hfinished (snapshot transfer) (snapshot_status_mem hterminal)
      refine iff_of_false (fun hall => ?_) (List.cons_ne_nil _ _)
      have hnone := hall.1 hclosed
      rw [hevents, List.any_cons, hstatus] at hnone
      cases hnone
  · refine List.Pairwise.isChain (List.pairwise_of_forall_mem_list fun s _ s' hmem hnil => ?_)
    have hevents := ((hserved s' hmem).events_eq marshal parseJSON truthy view hterminal hjson).2
    rw [hnil] at hevents
    cases hevents

/-- Whatever connections a page goes through: it stops if and only if the server ends
    none of them once the transfer is known to be finished, and its delays double if and
    only if connections without an event end alike.  For a transfer that is finished, the
    handler always ends them. -/
theorem pageRun_iff (finished : V → Bool) (sessions : List Session) :
    ∃ outputs p',
      Page.opened.run parseJSON truthy (sessions.flatMap Session.inputs) = some (outputs, p') ∧
      (StopsWhenFinished finished false outputs ↔
        ClosesUnfinished parseJSON truthy finished false sessions) ∧
      (Doubling initialBackoffMs outputs ↔ sessions.IsChain (EndsAlike parseJSON truthy)) ∧
      ∀ transfer : Transfer, transfer.isTerminal = true →
        Inverted marshal parseJSON truthy view (snapshot transfer) →
        (∀ progress, progress.status ∈ finishedStatuses → finished (view progress) = true) →
        (∀ s ∈ sessions, s.Served marshal transfer) →
        (StopsWhenFinished finished false outputs ↔ sessions = []) ∧
          Doubling initialBackoffMs outputs := by
  obtain ⟨p', hrun⟩ := Page.run_sessions parseJSON truthy sessions (initialBackoffMs, initialBackoffMs)
  have hstops := stopsWhenFinished_trace parseJSON truthy finished false
    (initialBackoffMs, initialBackoffMs) sessions
  have hdoubling := doubling_trace_opened parseJSON truthy sessions
  refine ⟨_, p', hrun, hstops, hdoubling, fun transfer hterminal hjson hfinished hserved => ?_⟩
  obtain ⟨hcloses, halike⟩ :=
    not_closesUnfinished_served marshal parseJSON truthy view hserved hterminal hjson hfinished
  exact ⟨hstops.trans hcloses, hdoubling.mpr halike⟩

end

/-- A transfer that is completed. -/
def completedTransfer : Transfer where
  id := 7
  sourceCluster := "west"
  sourcePVC := "apps/data"
  destinationCluster := "east"
  destinationPVC := "apps/data"
  state := .completed
  allowOverwrite := false
  bytesTransferred := 2
  bytesTotal := 2
  retryMax := 3
  createdBy := "ops"
  createdAt := 0

/-- Its snapshot. -/
def completedProgress : EnrichedProgress := @snapshot canonicalText completedTransfer

/-- The members of the object that `json.Marshal` writes for it. -/
def completedMembers : String :=
  "\"transfer_id\":\"00000000-0000-0000-0000-000000000007\",\"bytes_transferred\":2," ++
  "\"bytes_total\":2,\"percent_complete\":100,\"speed_bytes_sec\":0,\"formatted_speed\":\"\"," ++
  "\"estimated_time_remaining\":\"\",\"chunks_completed\":0,\"chunks_total\":0," ++
  "\"correlation_id\":\"00000000-0000-0000-0000-000000000007\",\"status\":\"completed\""

theorem completedMembers_line : '\n' ∉ completedMembers.toList :=
  not_mem_toList_append (not_mem_toList_append (not_mem_toList_append (not_mem_literal (by decide))
    (not_mem_literal (by decide))) (not_mem_literal (by decide))) (not_mem_literal (by decide))

def completedMarshal (p : EnrichedProgress) : Option String :=
  if p = completedProgress then some ("\x7b" ++ completedMembers ++ "\x7d") else none

def completedParse (text : JsString) : Option EnrichedProgress :=
  if text = utf16 ("\x7b" ++ completedMembers ++ "\x7d") then some completedProgress else none

/-- The connection for it. -/
def completedSession : Session :=
  .answered [utf16 (responseText completedMarshal [.writeEvent completedProgress])] true

def isFinished (p : EnrichedProgress) : Bool := decide (p.status ∈ finishedStatuses)

theorem inverted_completed :
    Inverted completedMarshal completedParse (fun _ => true) id completedProgress :=
  ⟨completedMembers, completedMembers_line, if_pos rfl, if_pos rfl, rfl⟩

theorem completedSession_served :
    @Session.Served canonicalText completedMarshal completedTransfer completedSession :=
  @Session.served canonicalText completedMarshal completedTransfer _ rfl List.flatten_singleton

/-- Two connections to it. -/
theorem pageRun_iff_completed :
    ∃ outputs p',
      Page.opened.run completedParse (fun _ => true)
        ([completedSession, completedSession].flatMap Session.inputs) = some (outputs, p') ∧
      ¬ StopsWhenFinished isFinished false outputs ∧ Doubling initialBackoffMs outputs := by
  obtain ⟨outputs, p', hrun, -, -, hfinished⟩ := @pageRun_iff canonicalText completedMarshal
    EnrichedProgress completedParse (fun _ => true) id isFinished [completedSession, completedSession]
  have hserved : ∀ s ∈ [completedSession, completedSession],
      @Session.Served canonicalText completedMarshal completedTransfer s := by
    intro s hmem
    rcases List.mem_pair.mp hmem with rfl | rfl
    · exact completedSession_served
    · exact completedSession_served
  obtain ⟨hstops, hdoubling⟩ := hfinished completedTransfer rfl inverted_completed
    (fun progress hmem => decide_eq_true hmem) hserved
  exact ⟨outputs, p', hrun, fun hstop => List.cons_ne_nil _ _ (hstops.mp hstop), hdoubling⟩

/-- A page connects to it again; and if a stream ends without an event after a connection
    was refused, the second delay is as short as the first. -/
theorem not_stopsWhenFinished_completed :
    completedTransfer.isTerminal = true ∧
      @Session.Served canonicalText completedMarshal completedTransfer completedSession ∧
      (∃ outputs p',
        Page.opened.run completedParse (fun _ => true) completedSession.inputs = some (outputs, p') ∧
        ¬ StopsWhenFinished isFinished false outputs) ∧
      ∃ outputs p',
        Page.opened.run completedParse (fun _ => true)
          ([.refused, .answered [] true].flatMap Session.inputs) = some (outputs, p') ∧
        ¬ Doubling initialBackoffMs outputs := by
  have hrun := Page.run_session completedParse (fun _ => true) completedSession
    (initialBackoffMs, initialBackoffMs)
  have hevents : completedSession.events completedParse (fun _ => true) = [completedProgress] :=
    (@Session.Served.events_eq canonicalText _ _ _ _ id _ _ completedSession_served rfl
      inverted_completed).2
  refine ⟨rfl, completedSession_served, ⟨_, _, hrun, ?_⟩, ⟨_, _, rfl, ?_⟩⟩
  · rw [Session.outputs, hevents]
    intro hstop
    exact hstop.1 rfl (List.mem_cons_of_mem _ List.mem_cons_self)
  · intro hdoubling
    exact absurd hdoubling.2.1 (by decide)

end Katapult
