/-
  Katapult.Keyed.Upsert

  Setting the entry of a key in a list of entries: the first entry with the key
  is replaced, or a new one is added at the end.  What is set may depend on the
  entry that is there.
-/

import Mathlib.Data.List.Nodup

namespace Keyed

variable {α κ : Type} [DecidableEq κ]

/-- Set the entry of `k` to `f` of the entry that is there. -/
def upsert (key : α → κ) (k : κ) (f : Option α → α) : List α → List α
  | [] => [f none]
  | a :: l => if key a = k then f (some a) :: l else a :: upsert key k f l

section

variable {key : α → κ} {k : κ} {f g : Option α → α} {l : List α} {a : α}

theorem upsert_cons_of_eq (h : key a = k) : upsert key k f (a :: l) = f (some a) :: l := if_pos h

theorem upsert_cons_of_ne (h : key a ≠ k) : upsert key k f (a :: l) = a :: upsert key k f l := if_neg h

/-- What is done to every entry can be done to what is set. -/
theorem map_upsert {φ : α → α} (hkey : ∀ a, key (φ a) = key a)
    (hset : ∀ old, φ (f old) = g (old.map φ)) (l : List α) :
    (upsert key k f l).map φ = upsert key k g (l.map φ) := by
  induction l with
  | nil => exact congrArg (fun a => [a]) (hset none)
  | cons a l ih =>
    rw [List.map_cons]
    by_cases h : key a = k
    · rw [upsert_cons_of_eq h, upsert_cons_of_eq ((hkey a).trans h), List.map_cons, hset]
      rfl
    · rw [upsert_cons_of_ne h, upsert_cons_of_ne (fun h' => h ((hkey a).symm.trans h')), List.map_cons, ih]

variable (hf : ∀ old, key (f old) = k)

include hf

/-- The entry of the key is the one that was set. -/
theorem find?_upsert (l : List α) :
    (upsert key k f l).find? (fun a => key a = k) = some (f (l.find? fun a => key a = k)) := by
  induction l with
  | nil => exact List.find?_cons_of_pos (by simpa using hf none)
  | cons a l ih =>
    by_cases h : key a = k
    · rw [upsert_cons_of_eq h, List.find?_cons_of_pos (by simpa using hf _),
        List.find?_cons_of_pos (by simpa using h)]
    · rw [upsert_cons_of_ne h, List.find?_cons_of_neg (by simpa using h), ih,
        List.find?_cons_of_neg (by simpa using h)]

/-- The entries of the other keys stay, in their order. -/
theorem filter_upsert (l : List α) :
    (upsert key k f l).filter (fun a => key a ≠ k) = l.filter fun a => key a ≠ k := by
  induction l with
  | nil => exact List.filter_cons_of_neg (by simpa using hf none)
  | cons a l ih =>
    by_cases h : key a = k
    · rw [upsert_cons_of_eq h, List.filter_cons_of_neg (by simpa using hf _),
        List.filter_cons_of_neg (by simpa using h)]
    · rw [upsert_cons_of_ne h, List.filter_cons_of_pos (by simpa using h), ih,
        List.filter_cons_of_pos (by simpa using h)]

/-- The keys stay, and one is added if it was not there. -/
theorem keys_upsert (l : List α) :
    (upsert key k f l).map key = if k ∈ l.map key then l.map key else l.map key ++ [k] := by
  induction l with
  | nil => simp [upsert, hf]
  | cons a l ih =>
    by_cases h : key a = k
    · simp [upsert_cons_of_eq h, hf, h]
    · rw [upsert_cons_of_ne h, List.map_cons, ih, List.map_cons]
      by_cases hmem : k ∈ l.map key
      · rw [if_pos hmem, if_pos (List.mem_cons_of_mem _ hmem)]
      · have hnot : k ∉ key a :: l.map key := List.not_mem_cons_of_ne_of_not_mem (Ne.symm h) hmem
        rw [if_neg hmem, if_neg hnot, List.cons_append]

theorem nodup_upsert (hl : (l.map key).Nodup) : ((upsert key k f l).map key).Nodup := by
  rw [keys_upsert hf]
  by_cases hmem : k ∈ l.map key
  · rw [if_pos hmem]
    exact hl
  · rw [if_neg hmem]
    exact List.nodup_append.mpr ⟨hl, List.nodup_singleton k, by
      rintro k' hk' _ hk rfl
      exact hmem (List.mem_singleton.mp hk ▸ hk')⟩

/-- To set what is there already changes nothing. -/
theorem upsert_upsert (hfg : ∀ old, g (some (f old)) = f old) (l : List α) :
    upsert key k g (upsert key k f l) = upsert key k f l := by
  induction l with
  | nil =>
    -- the first time the entry was added
    exact (upsert_cons_of_eq (hf none)).trans (by rw [hfg]; rfl)
  | cons a l ih =>
    by_cases h : key a = k
    · rw [upsert_cons_of_eq h, upsert_cons_of_eq (hf _), hfg]
    · rw [upsert_cons_of_ne h, upsert_cons_of_ne h, ih]

end

end Keyed
