/-
  Katapult.Framing.Cutter

  Cutting a stream into frames as it arrives.

  A `Cutter` takes the first frame off a text, or finds none.  Two things are
  asked of it: what it leaves is shorter, and what follows in the text makes no
  difference to a frame that is there.  Then a reader that keeps the unfinished
  part of its text finds the same frames however the text has been cut into
  chunks (`foldl_feed`).  Frames that end with a separator are cut off like this
  (`terminated`).
-/

import Mathlib.Data.List.Basic

namespace Framing

variable {α : Type}

/-- The first frame of a text, and what follows it. -/
structure Cutter (α : Type) where
  cut : List α → Option (List α × List α)
  shrinks : ∀ {text frame rest}, cut text = some (frame, rest) → rest.length < text.length
  stable : ∀ {text frame rest} (more : List α), cut text = some (frame, rest) →
    cut (text ++ more) = some (frame, rest ++ more)

namespace Cutter

variable (c : Cutter α)

/-- The frames of a text, and the unfinished part. -/
def frames (text : List α) : List (List α) × List α :=
  match _h : c.cut text with
  | none => ([], text)
  | some (frame, rest) => (frame :: (frames rest).1, (frames rest).2)
termination_by text.length
decreasing_by all_goals exact c.shrinks _h

variable {c}

theorem cut_nil : c.cut [] = none := by
  cases hcut : c.cut [] with
  | none => rfl
  | some out => exact absurd (c.shrinks hcut) (Nat.not_lt_zero _)

theorem frames_of_none {text : List α} (h : c.cut text = none) : c.frames text = ([], text) := by
  rw [frames]
  split
  · rfl
  · rename_i hcut
    rw [h] at hcut
    cases hcut

theorem frames_of_some {text frame rest : List α} (h : c.cut text = some (frame, rest)) :
    c.frames text = (frame :: (c.frames rest).1, (c.frames rest).2) := by
  rw [frames]
  split
  · rename_i hcut
    rw [h] at hcut
    cases hcut
  · rename_i hcut
    rw [h] at hcut
    cases hcut
    rfl

/-- What holds of a text without a frame, and of a text if it holds of what its
    first frame leaves, holds of every text. -/
theorem frames_induction {P : List α → Prop} (hnone : ∀ text, c.cut text = none → P text)
    (hsome : ∀ text frame rest, c.cut text = some (frame, rest) → P rest → P text) (text : List α) :
    P text := by
  induction hlen : text.length using Nat.strongRecOn generalizing text with
  | ind n ih =>
    subst hlen
    cases hcut : c.cut text with
    | none => exact hnone text hcut
    | some out => exact hsome text out.1 out.2 hcut (ih _ (c.shrinks hcut) _ rfl)

/-- The unfinished part has no frame. -/
theorem cut_unfinished (text : List α) : c.cut (c.frames text).2 = none := by
  induction text using c.frames_induction with
  | hnone text hcut =>
    rw [frames_of_none hcut]
    exact hcut
  | hsome text frame rest hcut ih =>
    rw [frames_of_some hcut]
    exact ih

/-- The frames of a text stay what they are when more arrives. -/
theorem frames_append (text more : List α) :
    c.frames (text ++ more) =
      ((c.frames text).1 ++ (c.frames ((c.frames text).2 ++ more)).1,
        (c.frames ((c.frames text).2 ++ more)).2) := by
  induction text using c.frames_induction with
  | hnone text hcut =>
    rw [frames_of_none hcut]
    rfl
  | hsome text frame rest hcut ih =>
    rw [frames_of_some (c.stable more hcut), frames_of_some hcut, ih]
    rfl

/-! ## Readers -/

variable (c) in
/-- A reader has found some frames, and keeps the unfinished part; one more chunk. -/
def feed (state : List (List α) × List α) (chunk : List α) : List (List α) × List α :=
  (state.1 ++ (c.frames (state.2 ++ chunk)).1, (c.frames (state.2 ++ chunk)).2)

theorem feed_append (state : List (List α) × List α) (chunk chunk' : List α) :
    c.feed (c.feed state chunk) chunk' = c.feed state (chunk ++ chunk') := by
  simp only [feed]
  rw [← List.append_assoc state.2, frames_append (state.2 ++ chunk), List.append_assoc]

theorem feed_nil {state : List (List α) × List α} (h : c.cut state.2 = none) :
    c.feed state [] = state := by
  rw [feed, List.append_nil, frames_of_none h, List.append_nil]

/-- However a text is cut into chunks. -/
theorem foldl_feed {state : List (List α) × List α} (h : c.cut state.2 = none)
    (chunks : List (List α)) : chunks.foldl c.feed state = c.feed state chunks.flatten := by
  induction chunks generalizing state with
  | nil => exact (feed_nil h).symm
  | cons chunk chunks ih =>
    -- what a chunk leaves over is unfinished again
    have hkept : c.cut (c.feed state chunk).2 = none := cut_unfinished _
    rw [List.foldl_cons, ih hkept, List.flatten_cons, feed_append]

/-! ## Texts that consist of frames -/

/-- The text is this frame and no more. -/
def Ends (c : Cutter α) (frame text : List α) : Prop := c.cut text = some (frame, [])

/-- A text that is written frame by frame has these and no others, and nothing is left. -/
theorem frames_flatten {frames : List (List α)} {write : List α → List α}
    (h : ∀ frame ∈ frames, c.Ends frame (write frame)) :
    c.frames (frames.map write).flatten = (frames, []) := by
  induction frames with
  | nil => exact frames_of_none cut_nil
  | cons frame frames ih =>
    rw [List.forall_mem_cons] at h
    rw [List.map_cons, List.flatten_cons, frames_of_some (c.stable _ h.1), List.nil_append, ih h.2]

end Cutter

/-! ## Separators -/

section

variable [DecidableEq α]

/-- Where a text first contains another one. -/
def indexOf (sep : List α) : List α → Option Nat
  | [] => if sep = [] then some 0 else none
  | a :: text => if sep <+: a :: text then some 0 else (indexOf sep text).map (· + 1)

theorem indexOf_cons_of_begins {sep text : List α} {a : α} (h : sep <+: a :: text) :
    indexOf sep (a :: text) = some 0 := if_pos h

theorem indexOf_cons_of_not_begins {sep text : List α} {a : α} (h : ¬ sep <+: a :: text) :
    indexOf sep (a :: text) = (indexOf sep text).map (· + 1) := if_neg h

/-- It is there. -/
theorem length_of_indexOf {sep text : List α} {i : Nat} (h : indexOf sep text = some i) :
    i + sep.length ≤ text.length := by
  induction text generalizing i with
  | nil =>
    rw [indexOf] at h
    split at h
    · rename_i hsep
      cases h
      simp [hsep]
    · cases h
  | cons a text ih =>
    by_cases hbegins : sep <+: a :: text
    · rw [indexOf_cons_of_begins hbegins] at h
      cases h
      rw [Nat.zero_add]
      exact hbegins.length_le
    · rw [indexOf_cons_of_not_begins hbegins] at h
      obtain ⟨j, hj, rfl⟩ := Option.map_eq_some_iff.mp h
      have hle := ih hj
      rw [List.length_cons]
      omega

/-- A text that goes on contains it at the same place. -/
theorem indexOf_append {sep text : List α} {i : Nat} (h : indexOf sep text = some i)
    (more : List α) : indexOf sep (text ++ more) = some i := by
  induction text generalizing i with
  | nil =>
    rw [indexOf] at h
    split at h
    · rename_i hsep
      cases h
      rw [hsep]
      cases more with
      | nil => rfl
      | cons a more => exact indexOf_cons_of_begins List.nil_prefix
    · cases h
  | cons a text ih =>
    by_cases hbegins : sep <+: a :: text
    · rw [indexOf_cons_of_begins hbegins] at h
      rw [← h]
      exact indexOf_cons_of_begins (hbegins.trans (List.prefix_append _ more))
    · rw [indexOf_cons_of_not_begins hbegins] at h
      obtain ⟨j, hj, rfl⟩ := Option.map_eq_some_iff.mp h
      -- the first occurrence lies within the text, so none begins before it
      have hbegins' : ¬ sep <+: a :: (text ++ more) := by
        intro hlong
        have hlen := length_of_indexOf hj
        have hfits : sep.length ≤ (a :: text).length := by
          rw [List.length_cons]
          omega
        exact hbegins (List.prefix_of_prefix_length_le hlong (List.prefix_append (a :: text) more) hfits)
      rw [List.cons_append, indexOf_cons_of_not_begins hbegins', ih hj]
      rfl

/-- Frames that end with a separator. -/
def terminated (sep : List α) (hsep : sep ≠ []) : Cutter α where
  cut text := (indexOf sep text).map fun i => (text.take i, text.drop (i + sep.length))
  shrinks := by
    intro text frame rest h
    obtain ⟨i, hi, hcut⟩ := Option.map_eq_some_iff.mp h
    have hlen := length_of_indexOf hi
    have hpos := List.length_pos_iff.mpr hsep
    cases hcut
    rw [List.length_drop]
    omega
  stable := by
    intro text frame rest more h
    obtain ⟨i, hi, hcut⟩ := Option.map_eq_some_iff.mp h
    have hlen := length_of_indexOf hi
    cases hcut
    rw [indexOf_append hi more, Option.map_some, List.take_append_of_le_length (by omega),
      List.drop_append_of_le_length hlen]

/-! ## Frames of lines -/

theorem indexOf_line {x : α} {line : List α} (h : x ∉ line) (rest : List α) :
    indexOf [x, x] (line ++ rest) = (indexOf [x, x] rest).map (· + line.length) := by
  induction line with
  | nil => exact Option.map_id'.symm
  | cons a line ih =>
    rw [List.mem_cons, not_or] at h
    -- no separator begins inside of the line
    have hbegins : ¬ [x, x] <+: a :: (line ++ rest) := by
      rw [List.cons_prefix_cons]
      exact fun hboth => h.1 hboth.1
    rw [List.cons_append, indexOf_cons_of_not_begins hbegins, ih h.2, Option.map_map]
    rfl

/-- Lines that are not empty, separated by `x`, end at a doubled `x`. -/
theorem indexOf_lines {x : α} {lines : List (List α)} (hsome : lines ≠ [])
    (h : ∀ line ∈ lines, x ∉ line ∧ line ≠ []) :
    indexOf [x, x] ([x].intercalate lines ++ [x, x]) = some ([x].intercalate lines).length := by
  induction lines with
  | nil => exact absurd rfl hsome
  | cons line lines ih =>
    rw [List.forall_mem_cons] at h
    obtain ⟨⟨hline, -⟩, hlines⟩ := h
    cases lines with
    | nil =>
      rw [List.intercalate_singleton, indexOf_line hline, indexOf_cons_of_begins (List.prefix_refl _),
        Option.map_some, Nat.zero_add]
    | cons next lines =>
      -- after one `x` the next line does not begin with another
      obtain ⟨hnext, hne⟩ := hlines next List.mem_cons_self
      obtain ⟨b, tail, hb, hbx⟩ : ∃ b tail, [x].intercalate (next :: lines) = b :: tail ∧ x ≠ b := by
        obtain ⟨b, next', rfl⟩ := List.exists_cons_of_ne_nil hne
        have hbx : x ≠ b := fun heq => hnext (heq ▸ List.mem_cons_self)
        cases lines with
        | nil => exact ⟨b, next', List.intercalate_singleton, hbx⟩
        | cons next'' lines => exact ⟨b, _, List.intercalate_cons_cons, hbx⟩
      have hbegins : ¬ [x, x] <+: x :: ([x].intercalate (next :: lines) ++ [x, x]) := by
        rw [hb, List.cons_append, List.cons_prefix_cons, List.cons_prefix_cons]
        exact fun hboth => hbx hboth.2.1
      have hrest := ih (List.cons_ne_nil _ _) hlines
      rw [List.intercalate_cons_cons, List.append_assoc, List.append_assoc, indexOf_line hline,
        List.singleton_append, indexOf_cons_of_not_begins hbegins, hrest, Option.map_some,
        Option.map_some]
      simp only [List.length_append, List.length_singleton, Option.some_inj]
      omega

/-- Such lines are a frame for the doubled separator. -/
theorem ends_of_lines {x : α} {lines : List (List α)} (hsome : lines ≠ [])
    (h : ∀ line ∈ lines, x ∉ line ∧ line ≠ []) :
    (terminated [x, x] (List.cons_ne_nil _ _)).Ends ([x].intercalate lines)
      ([x].intercalate lines ++ [x, x]) := by
  have hindex := indexOf_lines hsome h
  show (indexOf [x, x] _).map _ = _
  rw [hindex, Option.map_some, List.take_left, List.drop_eq_nil_of_le (by simp)]

end

end Framing
