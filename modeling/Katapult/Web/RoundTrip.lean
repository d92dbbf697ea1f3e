/-
  Katapult.Web.RoundTrip

  From the server's stream of progress to the browser's.

  A response is what the writing calls of the stream handler write, one after the
  other: each of them writes one frame of one or two lines.  The browser finds
  these frames again, and in them the values that were written, whatever their
  texts contain (`readStream_responseText`).
-/

import Katapult.Http.Handlers
import Katapult.Web.Sse

namespace Katapult

open Framing

/-! ## What the server writes -/

section

variable (marshal : EnrichedProgress → Option String)

/-- An event; `marshal` is `none` where `json.Marshal` fails. -/
def writeSSEEvent (eventType : String) (data : EnrichedProgress) : String :=
  match marshal data with
  | none => ""
  | some payload => "event: " ++ eventType ++ "\ndata: " ++ payload ++ "\n\n"

/-- What a call of the stream handler writes. -/
def StreamCall.written : StreamCall → String
  | .writeEvent progress => writeSSEEvent marshal "progress" progress
  | .writeKeepalive => ": keepalive\n\n"
  | _ => ""

/-- The body of the response that these calls write. -/
def responseText : List StreamCall → String
  | [] => ""
  | call :: calls => call.written marshal ++ responseText calls

end

/-- The value that a call writes. -/
def StreamCall.progress? : StreamCall → Option EnrichedProgress
  | .writeEvent progress => some progress
  | _ => none

/-! ## Values -/

/-- A number that a finite `float64` is. -/
def FiniteDouble (q : ℚ) : Prop :=
  ∃ m e : Int, |m| < 2 ^ 53 ∧ -1074 ≤ e ∧ e ≤ 971 ∧ q = m * 2 ^ e

/-- Every number of the value is one of the browser's. -/
structure EnrichedProgress.Exact (p : EnrichedProgress) : Prop where
  bytesTransferred : |p.bytesTransferred| < 2 ^ 53
  bytesTotal : |p.bytesTotal| < 2 ^ 53
  chunksCompleted : |p.chunksCompleted| < 2 ^ 53
  chunksTotal : |p.chunksTotal| < 2 ^ 53
  percentComplete : FiniteDouble p.percentComplete
  speedBytesPerSec : ∃ speed, p.speedBytesPerSec = .finite speed ∧ FiniteDouble speed

section

variable {V : Type} (marshal : EnrichedProgress → Option String) (parseJSON : JsString → Option V)
variable (truthy : V → Bool) (view : EnrichedProgress → V)

/-- What `json.Marshal` writes is a JSON object on one line, and `JSON.parse` makes
    of it the object that has the fields of the value. -/
def Inverted (p : EnrichedProgress) : Prop :=
  ∃ members : String, '\n' ∉ members.toList ∧ marshal p = some ("\x7b" ++ members ++ "\x7d") ∧
    parseJSON (utf16 ("\x7b" ++ members ++ "\x7d")) = some (view p) ∧ truthy (view p) = true

/-! ## Frames -/

/-- The frame that a call writes. -/
def StreamCall.frame? : StreamCall → Option JsString
  | .writeEvent progress => (marshal progress).map fun payload =>
      [lf].intercalate [utf16 "event: progress", utf16 ("data: " ++ payload)]
  | .writeKeepalive => some ([lf].intercalate [utf16 ": keepalive"])
  | _ => none

theorem utf16_written (call : StreamCall) :
    utf16 (call.written marshal) = ((call.frame? marshal).map (· ++ emptyLine)).getD [] := by
  have hempty : utf16 "\n\n" = emptyLine := by decide
  cases call with
  | writeEvent progress =>
    simp only [StreamCall.written, writeSSEEvent, StreamCall.frame?]
    cases marshal progress with
    | none => rfl
    | some payload =>
      have hhead : utf16 ("event: " ++ "progress" ++ "\ndata: ") =
          utf16 "event: progress" ++ [lf] ++ utf16 "data: " := by decide
      have hlines : [lf].intercalate [utf16 "event: progress", utf16 ("data: " ++ payload)] =
          utf16 "event: progress" ++ [lf] ++ (utf16 "data: " ++ utf16 payload) := by
        rw [List.intercalate_cons_cons, List.intercalate_singleton, utf16_append]
      rw [Option.map_some, Option.map_some, Option.getD_some, hlines, utf16_append, utf16_append,
        hhead, hempty, List.append_assoc _ (utf16 "data: ")]
  | writeKeepalive =>
    show utf16 ": keepalive\n\n" = [lf].intercalate [utf16 ": keepalive"] ++ emptyLine
    decide
  | _ => rfl

theorem utf16_responseText (calls : List StreamCall) :
    utf16 (responseText marshal calls) =
      ((calls.filterMap (StreamCall.frame? marshal)).map (· ++ emptyLine)).flatten := by
  induction calls with
  | nil => rfl
  | cons call calls ih =>
    rw [responseText, utf16_append, ih, utf16_written, List.filterMap_cons]
    cases call.frame? marshal with
    | none => rfl
    | some frame => rfl

/-- The frame of a call ends where the call has ended it. -/
theorem ends_frame {call : StreamCall} {frame : JsString} (hframe : call.frame? marshal = some frame)
    (hline : ∀ progress payload, call = .writeEvent progress → marshal progress = some payload →
      '\n' ∉ payload.toList) :
    sseFrames.Ends frame (frame ++ emptyLine) := by
  cases call with
  | writeEvent progress =>
    obtain ⟨payload, hpayload, rfl⟩ := Option.map_eq_some_iff.mp hframe
    -- two lines; the second is not empty, whatever the payload is
    refine ends_of_lines (List.cons_ne_nil _ _) fun line hmem => ?_
    rcases List.mem_pair.mp hmem with rfl | rfl
    · decide
    · have hnil : utf16 "data: " ≠ [] := by decide
      refine ⟨?_, ?_⟩
      · rw [utf16_append, List.mem_append, not_or]
        exact ⟨by decide, lf_not_mem_utf16 (hline progress payload rfl hpayload)⟩
      · rw [utf16_append]
        exact List.append_ne_nil_of_left_ne_nil hnil _
  | writeKeepalive =>
    cases hframe
    refine ends_of_lines (List.cons_ne_nil _ _) fun line hmem => ?_
    rw [List.mem_singleton.mp hmem]
    decide
  | _ => cases hframe

/-! ## Events -/

/-- The fields of the frame of an event are what follows the names of the lines. -/
theorem frameFields_progress {members : String} (hline : '\n' ∉ members.toList) :
    frameFields ([lf].intercalate
        [utf16 "event: progress", utf16 ("data: " ++ ("\x7b" ++ members ++ "\x7d"))]) =
      (utf16 "progress", utf16 ("\x7b" ++ members ++ "\x7d")) := by
  have hobject : utf16 ("\x7b" ++ members ++ "\x7d") = 0x7B :: (utf16 members ++ [0x7D]) := by
    rw [utf16_append, utf16_append]
    rfl
  have hdata : utf16 ("data: " ++ ("\x7b" ++ members ++ "\x7d")) =
      utf16 "data:" ++ 0x20 :: utf16 ("\x7b" ++ members ++ "\x7d") := by
    have hspace : utf16 "data: " = utf16 "data:" ++ [0x20] := by decide
    rw [utf16_append, hspace, List.append_assoc]
    rfl
  have hlf : ∀ line ∈ [utf16 "event: progress", utf16 ("data: " ++ ("\x7b" ++ members ++ "\x7d"))],
      lf ∉ line := by
    intro line hmem
    rcases List.mem_pair.mp hmem with rfl | rfl
    · decide
    · refine lf_not_mem_utf16 ?_
      simp only [String.toList_append, List.mem_append, not_or]
      exact ⟨by decide, ⟨by decide, hline⟩, by decide⟩
  have hevent : takeField ([], []) (utf16 "event: progress") = (utf16 "progress", []) := by decide
  -- the line of the data is not taken for one of an event
  have hother : ¬ utf16 "event:" <+: utf16 "data:" ++ 0x20 :: utf16 ("\x7b" ++ members ++ "\x7d") := by
    have hfirst : utf16 "event:" = 0x65 :: utf16 "vent:" := by decide
    have hfirst' : utf16 "data:" = 0x64 :: utf16 "ata:" := by decide
    rw [hfirst, hfirst', List.cons_append, List.cons_prefix_cons]
    exact fun hboth => absurd hboth.1 (by decide)
  rw [frameFields, List.splitOn_intercalate lf hlf (List.cons_ne_nil _ _), List.foldl_cons, hevent,
    List.foldl_cons, List.foldl_nil, hdata, takeField, if_neg hother, if_pos (List.prefix_append _ _),
    List.drop_left, trim_cons_of_space (by decide), hobject, trim_enclosed (by decide) (by decide)]

/-- The event of a frame is the value that was written. -/
theorem frameEvents_frame {call : StreamCall} {frame : JsString}
    (hframe : call.frame? marshal = some frame)
    (hinverted : ∀ progress, call = .writeEvent progress → Inverted marshal parseJSON truthy view progress) :
    frameEvents parseJSON truthy [frame] = (call.progress?.map view).toList := by
  cases call with
  | writeEvent progress =>
    obtain ⟨members, hline, hmarshal, hparse, htruthy⟩ := hinverted progress rfl
    rw [StreamCall.frame?, hmarshal] at hframe
    cases hframe
    have hne : utf16 ("\x7b" ++ members ++ "\x7d") ≠ [] := by
      rw [utf16_append, utf16_append]
      exact List.append_ne_nil_of_right_ne_nil _ (by decide)
    have hevent : frameEvent parseJSON ([lf].intercalate
        [utf16 "event: progress", utf16 ("data: " ++ ("\x7b" ++ members ++ "\x7d"))]) = some (view progress) := by
      simp only [frameEvent, frameFields_progress hline]
      rw [if_pos ⟨trivial, hne⟩, hparse]
    rw [frameEvents, List.flatMap_singleton, hevent, Option.filter_some, if_pos htruthy]
    rfl
  | writeKeepalive =>
    cases hframe
    have hfields : frameFields ([lf].intercalate [utf16 ": keepalive"]) = ([], []) := by decide
    have hnone : frameEvent parseJSON ([lf].intercalate [utf16 ": keepalive"]) = none := by
      simp only [frameEvent, hfields]
      rfl
    rw [frameEvents, List.flatMap_singleton, hnone]
    rfl
  | _ => cases hframe

theorem frameEvents_calls {calls : List StreamCall}
    (hinverted : ∀ progress, .writeEvent progress ∈ calls →
      Inverted marshal parseJSON truthy view progress) :
    frameEvents parseJSON truthy (calls.filterMap (StreamCall.frame? marshal)) =
      (calls.filterMap StreamCall.progress?).map view := by
  induction calls with
  | nil => rfl
  | cons call calls ih =>
    have hcalls := ih fun progress hmem => hinverted progress (List.mem_cons_of_mem _ hmem)
    cases hframe : call.frame? marshal with
    | none =>
      -- a value is always written: `json.Marshal` does not fail on these
      have hsilent : call.progress? = none := by
        cases call with
        | writeEvent progress =>
          obtain ⟨members, -, hmarshal, -⟩ := hinverted progress List.mem_cons_self
          rw [StreamCall.frame?, hmarshal] at hframe
          cases hframe
        | _ => rfl
      rw [List.filterMap_cons_none hframe, List.filterMap_cons_none hsilent, hcalls]
    | some frame =>
      have hevent := frameEvents_frame marshal parseJSON truthy view hframe fun progress heq =>
        hinverted progress (heq ▸ List.mem_cons_self)
      rw [List.filterMap_cons_some hframe, ← List.singleton_append, frameEvents, List.flatMap_append]
      change frameEvents parseJSON truthy [frame] ++ frameEvents parseJSON truthy _ = _
      rw [hevent, hcalls, List.filterMap_cons]
      cases call.progress? with
      | none => rfl
      | some progress => rfl

theorem readStream_of_inverted {calls : List StreamCall} {chunks : List JsString}
    (hinverted : ∀ progress, .writeEvent progress ∈ calls →
      Inverted marshal parseJSON truthy view progress)
    (hdecoded : chunks.flatten = utf16 (responseText marshal calls)) :
    readStream parseJSON truthy chunks = ((calls.filterMap StreamCall.progress?).map view, []) := by
  have hframes : sseFrames.frames (utf16 (responseText marshal calls)) =
      (calls.filterMap (StreamCall.frame? marshal), []) := by
    rw [utf16_responseText]
    refine Cutter.frames_flatten fun frame hmem => ?_
    obtain ⟨call, hcall, hframe⟩ := List.mem_filterMap.mp hmem
    refine ends_frame marshal hframe fun progress payload heq hpayload => ?_
    obtain ⟨members, hline, hmarshal, -⟩ := hinverted progress (heq ▸ hcall)
    rw [hmarshal, Option.some_inj] at hpayload
    rw [← hpayload]
    simp only [String.toList_append, List.mem_append, not_or]
    exact ⟨⟨by decide, hline⟩, by decide⟩
  rw [readStream_eq, hdecoded, hframes, frameEvents_calls marshal parseJSON truthy view hinverted]

/-- What the handler writes, cut into chunks in any way: the browser yields the
    values that were written, in their order, and keeps nothing. -/
theorem readStream_responseText (calls : List StreamCall) (chunks : List JsString)
    (hexact : ∀ progress, .writeEvent progress ∈ calls → progress.Exact)
    (hjson : ∀ progress, .writeEvent progress ∈ calls → progress.Exact →
      Inverted marshal parseJSON truthy view progress)
    (hdecoded : chunks.flatten = utf16 (responseText marshal calls)) :
    readStream parseJSON truthy chunks = ((calls.filterMap StreamCall.progress?).map view, []) :=
  readStream_of_inverted marshal parseJSON truthy view
    (fun progress hmem => hjson progress hmem (hexact progress hmem)) hdecoded

end

/-- An event with a text that looks like the end of a frame. -/
def framedProgress : EnrichedProgress where
  transferID := 7
  bytesTransferred := 1
  bytesTotal := 2
  percentComplete := 50
  speedBytesPerSec := 0
  chunksCompleted := 0
  chunksTotal := 0
  correlationID := "7"
  status := "failed"
  errorMessage := "\n\ndata: x"

/-- The members of the object that `json.Marshal` writes for it. -/
def framedMembers : String :=
  "\"transfer_id\":\"00000000-0000-0000-0000-000000000007\",\"bytes_transferred\":1," ++
  "\"bytes_total\":2,\"percent_complete\":50,\"speed_bytes_sec\":0,\"formatted_speed\":\"\"," ++
  "\"estimated_time_remaining\":\"\",\"chunks_completed\":0,\"chunks_total\":0," ++
  "\"correlation_id\":\"7\",\"status\":\"failed\",\"error_message\":\"\\n\\ndata: x\""

theorem framedMembers_line : '\n' ∉ framedMembers.toList :=
  not_mem_toList_append (not_mem_toList_append (not_mem_toList_append (not_mem_literal (by decide))
    (not_mem_literal (by decide))) (not_mem_literal (by decide))) (not_mem_literal (by decide))

def framedMarshal (p : EnrichedProgress) : Option String :=
  if p = framedProgress then some ("\x7b" ++ framedMembers ++ "\x7d") else none

def framedParse (text : JsString) : Option EnrichedProgress :=
  if text = utf16 ("\x7b" ++ framedMembers ++ "\x7d") then some framedProgress else none

theorem framedProgress_exact : framedProgress.Exact where
  bytesTransferred := by decide
  bytesTotal := by decide
  chunksCompleted := by decide
  chunksTotal := by decide
  percentComplete := ⟨50, 0, by decide, by decide, by decide, by simp [framedProgress]⟩
  speedBytesPerSec := ⟨0, rfl, 0, 0, by decide, by decide, by decide, by simp⟩

/-- It is written, and a comment after it. -/
theorem readStream_responseText_framed :
    framedProgress.Exact ∧ Inverted framedMarshal framedParse (fun _ => true) id framedProgress ∧
      readStream framedParse (fun _ => true)
          [utf16 (responseText framedMarshal [.writeEvent framedProgress, .writeKeepalive])] =
        ([framedProgress], []) := by
  have hinverted : Inverted framedMarshal framedParse (fun _ => true) id framedProgress :=
    ⟨framedMembers, framedMembers_line, if_pos rfl, if_pos rfl, rfl⟩
  have honly : ∀ progress, StreamCall.writeEvent progress ∈ [.writeEvent framedProgress, .writeKeepalive] →
      progress = framedProgress := by
    intro progress hmem
    rcases List.mem_pair.mp hmem with heq | heq
    · cases heq
      rfl
    · cases heq
  refine ⟨framedProgress_exact, hinverted, ?_⟩
  exact readStream_responseText framedMarshal framedParse (fun _ => true) id
    [.writeEvent framedProgress, .writeKeepalive] _
    (fun progress hmem => honly progress hmem ▸ framedProgress_exact)
    (fun progress hmem _ => honly progress hmem ▸ hinverted) List.flatten_singleton

end Katapult
