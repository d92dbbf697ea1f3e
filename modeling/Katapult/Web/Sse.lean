/-
  Katapult.Web.Sse

  The event stream, as the browser reads it.

  The generator `parseSseFrames` goes through the frames of the buffer, and the
  loop that runs it keeps the rest.  Both together are a reader of frames that
  end with an empty line (`readChunk_eq`), so that the events do not depend on how
  the stream is cut into chunks (`readStream_flatten`).
-/

import Katapult.Web.Text

namespace Katapult

open Framing

/-- What ends a frame. -/
def emptyLine : JsString := [lf, lf]

/-- What the generator yields. -/
structure SseResult (V : Type) where
  rest : JsString
  event : Option V

/-- What a line says of the fields `event` and `data`. -/
def takeField (fields : JsString × JsString) (line : JsString) : JsString × JsString :=
  if utf16 "event:" <+: line then (trim (line.drop (utf16 "event:").length), fields.2)
  else if utf16 "data:" <+: line then (fields.1, trim (line.drop (utf16 "data:").length))
  else fields

/-- The fields of a frame; of two lines for one field the later one counts. -/
def frameFields (frame : JsString) : JsString × JsString :=
  (frame.splitOn lf).foldl takeField ([], [])

section

variable {V : Type} (parseJSON : JsString → Option V) (truthy : V → Bool)

/-- The event of a frame, if it has one; `parseJSON` is `none` where it throws. -/
def frameEvent (frame : JsString) : Option V :=
  let fields := frameFields frame
  if fields.1 = utf16 "progress" ∧ fields.2 ≠ [] then parseJSON fields.2 else none

/-- The loop of the generator. -/
def frameLoop (remaining : JsString) : List (SseResult V) :=
  match _h : indexOf emptyLine remaining with
  | none => [⟨remaining, none⟩]
  | some idx =>
    let frame := remaining.take idx
    let remaining := remaining.drop (idx + 2)
    ⟨remaining, frameEvent parseJSON frame⟩ :: frameLoop remaining
termination_by remaining.length
decreasing_by
  have hlen := length_of_indexOf _h
  simp only [emptyLine, List.length_cons, List.length_nil, List.length_drop] at hlen ⊢
  omega

/-- Everything the generator yields for a buffer. -/
def parseSseFrames (buffer : JsString) : List (SseResult V) :=
  if indexOf emptyLine buffer = none then [⟨buffer, none⟩] else frameLoop parseJSON buffer

/-- The body of the loop over the results: the events so far, and the buffer. -/
def takeResult (state : List V × JsString) (result : SseResult V) : List V × JsString :=
  (state.1 ++ (result.event.filter truthy).toList, result.rest)

/-- One chunk of the stream. -/
def readChunk (state : List V × JsString) (chunk : JsString) : List V × JsString :=
  (parseSseFrames parseJSON (state.2 ++ chunk)).foldl (takeResult truthy) (state.1, state.2 ++ chunk)

/-- A connection, from its first chunk on: the events that `streamProgress` yields,
    and the buffer. -/
def readStream (chunks : List JsString) : List V × JsString :=
  chunks.foldl (readChunk parseJSON truthy) ([], [])

/-! ## Frames -/

/-- Frames end with an empty line. -/
def sseFrames : Cutter UInt16 := terminated emptyLine (List.cons_ne_nil _ _)

/-- The events of some frames. -/
def frameEvents (frames : List JsString) : List V :=
  frames.flatMap fun frame => ((frameEvent parseJSON frame).filter truthy).toList

theorem frameLoop_of_none {remaining : JsString} (h : indexOf emptyLine remaining = none) :
    frameLoop parseJSON remaining = [⟨remaining, none⟩] := by
  rw [frameLoop]
  split
  · rfl
  · rename_i hfound
    rw [h] at hfound
    cases hfound

theorem frameLoop_of_some {remaining : JsString} {idx : Nat}
    (h : indexOf emptyLine remaining = some idx) :
    frameLoop parseJSON remaining =
      ⟨remaining.drop (idx + 2), frameEvent parseJSON (remaining.take idx)⟩ ::
        frameLoop parseJSON (remaining.drop (idx + 2)) := by
  rw [frameLoop]
  split
  · rename_i hnone
    rw [h] at hnone
    cases hnone
  · rename_i hfound
    rw [h] at hfound
    cases hfound
    rfl

/-- The loop goes through the frames. -/
theorem foldl_frameLoop (text : JsString) (state : List V × JsString) :
    (frameLoop parseJSON text).foldl (takeResult truthy) state =
      (state.1 ++ frameEvents parseJSON truthy (sseFrames.frames text).1,
        (sseFrames.frames text).2) := by
  -- the loop cuts where the frames do, and its last result is the unfinished part
  induction text using sseFrames.frames_induction generalizing state with
  | hnone text hcut =>
    have hindex : indexOf emptyLine text = none := Option.map_eq_none_iff.mp hcut
    rw [frameLoop_of_none parseJSON hindex, Cutter.frames_of_none hcut]
    rfl
  | hsome text frame rest hcut ih =>
    obtain ⟨idx, hindex, hparts⟩ := Option.map_eq_some_iff.mp hcut
    cases hparts
    rw [frameLoop_of_some parseJSON hindex, List.foldl_cons, Cutter.frames_of_some hcut, frameEvents,
      List.flatMap_cons, ← List.append_assoc]
    exact ih _

theorem readChunk_eq (state : List V × JsString) (chunk : JsString) :
    readChunk parseJSON truthy state chunk =
      (state.1 ++ frameEvents parseJSON truthy (sseFrames.frames (state.2 ++ chunk)).1,
        (sseFrames.frames (state.2 ++ chunk)).2) := by
  unfold readChunk parseSseFrames
  split
  · -- the early exit of the generator yields what its loop would
    rename_i hindex
    rw [← frameLoop_of_none parseJSON hindex]
    exact foldl_frameLoop parseJSON truthy _ _
  · exact foldl_frameLoop parseJSON truthy _ _

/-- A connection yields the events of the frames of its text. -/
theorem readStream_eq (chunks : List JsString) :
    readStream parseJSON truthy chunks =
      (frameEvents parseJSON truthy (sseFrames.frames chunks.flatten).1,
        (sseFrames.frames chunks.flatten).2) := by
  have hfeed : chunks.foldl sseFrames.feed ([], []) = sseFrames.feed ([], []) chunks.flatten :=
    Cutter.foldl_feed Cutter.cut_nil chunks
  -- reading is feeding, seen through the events of the frames
  let found (state : List JsString × JsString) : List V × JsString :=
    (frameEvents parseJSON truthy state.1, state.2)
  have hstep : ∀ state chunk, readChunk parseJSON truthy (found state) chunk =
      found (sseFrames.feed state chunk) := by
    intro state chunk
    simp only [found]
    rw [readChunk_eq, Cutter.feed, frameEvents, frameEvents, frameEvents, List.flatMap_append]
  have hread : chunks.foldl (readChunk parseJSON truthy) (found ([], [])) =
      found (chunks.foldl sseFrames.feed ([], [])) := List.foldl_hom found hstep
  rw [hfeed] at hread
  exact hread

/-- The events of a stream, and what is left in the buffer, do not depend on how
    it is cut into chunks. -/
theorem readStream_flatten (chunks : List JsString) :
    readStream parseJSON truthy chunks = readStream parseJSON truthy [chunks.flatten] := by
  rw [readStream_eq, readStream_eq, List.flatten_singleton]

end

end Katapult
