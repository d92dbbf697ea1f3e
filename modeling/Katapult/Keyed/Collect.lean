/-
  Katapult.Keyed.Collect

  Collecting from a list through windows.

  Each window shows a part of the list; the windows are gone through one after
  the other, and what an element gives is collected.  Where no two elements have
  one key, an element is collected as often as windows show it
  (`countP_collect`), so nothing is collected twice when the windows do not
  overlap, or what they show twice gives nothing.
-/

import Mathlib.Data.List.Count
import Mathlib.Data.List.Nodup

namespace Keyed

variable {ω α β κ : Type} [DecidableEq κ]
variable {shows : ω → α → Bool} {f : α → Option β} {l : List α} {ws : List ω}
variable {key : α → κ} {name : β → κ} {x : α}

/-- What the elements of `l` give, window by window. -/
def collect (shows : ω → α → Bool) (f : α → Option β) (l : List α) (ws : List ω) : List β :=
  ws.flatMap fun w => (l.filter (shows w)).filterMap f

theorem mem_collect {b : β} :
    b ∈ collect shows f l ws ↔ ∃ a ∈ l, f a = some b ∧ ∃ w ∈ ws, shows w a := by
  simp only [collect, List.mem_flatMap, List.mem_filterMap, List.mem_filter]
  constructor
  · rintro ⟨w, hw, a, ⟨ha, hshows⟩, hfa⟩
    exact ⟨a, ha, hfa, w, hw, hshows⟩
  · rintro ⟨a, ha, hfa, w, hw, hshows⟩
    exact ⟨w, hw, a, ⟨ha, hshows⟩, hfa⟩

/-- A condition that holds of one element only. -/
theorem countP_eq_of_unique {p : α → Bool} (hl : l.Nodup) (hx : x ∈ l) (hp : ∀ a ∈ l, p a → a = x) :
    l.countP p = if p x then 1 else 0 := by
  classical
  by_cases hpx : p x
  · rw [if_pos hpx, ← List.count_eq_one_of_mem hl hx]
    apply List.countP_congr
    intro a ha
    rw [beq_iff_eq]
    exact ⟨hp a ha, fun h => h ▸ hpx⟩
  · rw [if_neg hpx, List.countP_eq_zero]
    intro a ha hpa
    exact hpx (hp a ha hpa ▸ hpa)

variable (hnodup : (l.map key).Nodup) (hname : ∀ a b, f a = some b → name b = key a) (hx : x ∈ l)

include hnodup hname hx

/-- One window shows an element once, or not at all. -/
theorem countP_window (shown : α → Bool) :
    ((l.filter shown).filterMap f).countP (fun b => name b = key x) =
      if shown x && (f x).isSome then 1 else 0 := by
  rw [List.countP_filterMap, List.countP_filter]
  -- the keys are distinct, so one element at most gives an entry with this name
  rw [countP_eq_of_unique (List.Nodup.of_map key hnodup) hx]
  · congr 1
    cases hfx : f x with
    | none => simp
    | some b => simp [hname x b hfx]
  · intro a ha hpa
    rw [Bool.and_eq_true] at hpa
    cases hfa : f a with
    | none => simp [hfa] at hpa
    | some b =>
      have hkey : key a = key x := by simpa [hfa, hname a b hfa] using hpa.1
      exact List.inj_on_of_nodup_map hnodup ha hx hkey

/-- An element is collected as often as it is shown. -/
theorem countP_collect :
    (collect shows f l ws).countP (fun b => name b = key x) =
      if (f x).isSome then ws.countP fun w => shows w x else 0 := by
  induction ws with
  | nil => simp [collect]
  | cons w ws ih =>
    have hcons : collect shows f l (w :: ws) =
        (l.filter (shows w)).filterMap f ++ collect shows f l ws :=
      List.flatMap_cons
    rw [hcons, List.countP_append, ih, countP_window hnodup hname hx]
    cases (f x).isSome <;> simp [List.countP_cons, Nat.add_comm]

end Keyed
