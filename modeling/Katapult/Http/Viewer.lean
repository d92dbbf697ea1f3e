/-
  Katapult.Http.Viewer

  What the handler of a stream does with its subscription: it subscribes once,
  writes the snapshot and then every event that it is handed, in their order,
  and reads its channel only until that has been closed.  An event that
  `json.Marshal` has no form for leaves no frame.
-/

import Katapult.Effect.Interleaving
import Katapult.Http.Handlers

namespace Katapult

open Effect

/-- What a handler has done. -/
structure Viewer where
  handle : Option Handle := none
  /-- The frames of progress that have come of what it has written. -/
  frames : List EnrichedProgress := []
  /-- The events that it has received. -/
  taken : List EnrichedProgress := []
  /-- It has found its channel closed. -/
  ended : Bool := false
  /-- It has unsubscribed. -/
  left : Bool := false

namespace Viewer

def follow (m : Viewer) : Ev StreamCall StreamCall.Ans → Viewer
  | ⟨.subscribe _, handle⟩ => { m with handle := some handle }
  | ⟨.unsubscribe _, _⟩ => { m with left := true }
  | ⟨.select _, .progress progress⟩ => { m with taken := m.taken ++ [progress] }
  | ⟨.select _, .closed⟩ => { m with ended := true }
  | ⟨.writeEvent progress, _⟩ =>
      { m with frames := m.frames ++ [progress].filter EnrichedProgress.marshals }
  | _ => m

/-- The discipline of a handler for the transfer `id`: when it reads its channel, it
    has written the snapshot and all that it has received. -/
def Permits (id : UUID) (m : Viewer) : StreamCall → Prop
  | .subscribe id' => id' = id ∧ m.handle = none ∧ m.taken = [] ∧ m.ended = false
  | .unsubscribe handle => m.handle = some handle
  | .select handle => m.handle = some handle ∧ m.ended = false ∧ m.left = false ∧
      ∃ first, m.frames = first :: m.taken.filter EnrichedProgress.marshals
  | .writeEvent _ => m.ended = false
  | .getTransfer _ | .writeKeepalive => True

/-- A program follows the discipline. -/
abbrev Obeyed {α : Type} (id : UUID) (m : Viewer) (p : Stream α) : Prop :=
  Prog.Obeys follow (Permits id) (fun _ _ => True) m p

/-- The handler has a subscription, and has written all that it has received. -/
structure Reading (handle : Handle) (m : Viewer) : Prop where
  handle : m.handle = some handle
  ended : m.ended = false
  left : m.left = false
  frames : ∃ first, m.frames = first :: m.taken.filter EnrichedProgress.marshals

theorem Reading.progress {handle : Handle} {m : Viewer} (h : Reading handle m)
    (progress : EnrichedProgress) :
    Reading handle
      { m with
        frames := m.frames ++ [progress].filter EnrichedProgress.marshals
        taken := m.taken ++ [progress] } where
  handle := h.handle
  ended := h.ended
  left := h.left
  frames := by
    obtain ⟨first, hframes⟩ := h.frames
    exact ⟨first, by rw [hframes, List.filter_append, List.cons_append]⟩

end Viewer

open Viewer

/-- The loop, and what comes after it. -/
theorem viewer_streamLoop {α : Type} {id : UUID} {handle : Handle} {f : Bool → Stream α}
    (hf : ∀ ended m, m.handle = some handle → Viewer.Obeyed id m (f ended)) (rounds : Nat) {m : Viewer}
    (hm : Reading handle m) : Viewer.Obeyed id m (streamLoop handle rounds >>= f) := by
  induction rounds generalizing m with
  | zero => exact hf false m hm.handle
  | succ rounds ih =>
    refine ⟨⟨hm.handle, hm.ended, hm.left, hm.frames⟩, fun ev => ?_⟩
    -- an event is written before the channel is read again
    rcases ev with progress | _ | _ | _
    · exact ⟨hm.ended, fun _ => ih (hm.progress progress)⟩
    · exact hf true _ hm.handle
    · exact ⟨trivial, fun _ => ih hm⟩
    · exact hf true _ hm.handle

variable [UUIDText]

theorem viewer_streamTransfer {id : UUID} {handle : Handle} {m : Viewer} (rounds : Nat)
    (transfer : Transfer) (hhandle : m.handle = some handle) (hended : m.ended = false)
    (hleft : m.left = false) (hframes : m.frames = []) (htaken : m.taken = []) :
    Viewer.Obeyed id m (streamTransfer rounds transfer handle) := by
  refine Prog.Obeys.perform hended fun _ => ?_
  have hreading : Reading handle { m with frames := m.frames ++ [snapshot transfer] } :=
    ⟨hhandle, hended, hleft, snapshot transfer, by rw [hframes, htaken]; rfl⟩
  -- from here on the frames are the snapshot and what has been received and has a form
  refine viewer_streamLoop (fun ended m' hm' => ?_) rounds hreading
  cases ended with
  | true => exact ⟨hm', fun _ => trivial⟩
  | false => trivial

/-- A request with a valid identifier is handled by the discipline. -/
theorem viewer_handleStreamProgress {id : UUID} {r : HttpRequest}
    (hid : UUIDText.parse (r.pathValue "id") = .ok id) (rounds : Nat) :
    Viewer.Obeyed id {} (handleStreamProgress true rounds r) := by
  unfold handleStreamProgress
  rw [hid]
  refine Prog.Obeys.perform trivial fun loaded => ?_
  rcases loaded with err | (_ | transfer)
  · trivial
  · trivial
  dsimp only
  split
  · exact ⟨rfl, fun _ => trivial⟩
  refine Prog.Obeys.perform ⟨rfl, rfl, rfl, rfl⟩ fun handle => ?_
  split
  · exact ⟨rfl, fun _ => trivial⟩
  · exact viewer_streamTransfer rounds transfer rfl rfl rfl rfl rfl

/-- A request without one does nothing. -/
theorem handleStreamProgress_invalid {r : HttpRequest} {err : Err}
    (hid : UUIDText.parse (r.pathValue "id") = .error err) (rounds : Nat) :
    handleStreamProgress true rounds r =
      .pure (writeErrorJSON 400 "invalid_id" "invalid transfer ID format") := by
  unfold handleStreamProgress
  rw [hid]
  rfl

end Katapult
