/-
  Katapult.Regexp.Leftmost

  Regular expressions that are searched for, leftmost match first.

  An expression has a language (`Matches`) and a search (`find?`), which takes
  the leftmost place with a match, and of the matches there the one that a greedy
  reader comes to first.  What is found is in the language
  (`matches_of_find?`); what a greedy reader takes whole is found
  (`find?_of_first`).

  The fragment has no alternatives, and repeats single characters only.
-/

import Mathlib.Data.List.Basic

/-- Regular expressions over the characters `α`. -/
inductive Regexp (α : Type) where
  | one (p : α → Bool)
  | many (p : α → Bool)
  | seq (a b : Regexp α)
  | opt (a : Regexp α)

namespace Regexp

variable {α : Type}

/-- The language of an expression. -/
inductive Matches : Regexp α → List α → Prop where
  | one {p : α → Bool} {c : α} (h : p c = true) : Matches (.one p) [c]
  | many {p : α → Bool} {cs : List α} (hne : cs ≠ []) (h : ∀ c ∈ cs, p c = true) : Matches (.many p) cs
  | seq {a b : Regexp α} {xs ys : List α} (ha : Matches a xs) (hb : Matches b ys) :
      Matches (.seq a b) (xs ++ ys)
  | skip {a : Regexp α} : Matches (.opt a) []
  | take {a : Regexp α} {xs : List α} (h : Matches a xs) : Matches (.opt a) xs

section Matches

variable {a b : Regexp α} {p : α → Bool} {cs : List α}

@[simp] theorem matches_one_iff : Matches (.one p) cs ↔ ∃ c, p c = true ∧ cs = [c] := by
  constructor
  · intro h
    cases h with
    | one h => exact ⟨_, h, rfl⟩
  · rintro ⟨c, h, rfl⟩
    exact .one h

@[simp] theorem matches_many_iff : Matches (.many p) cs ↔ cs ≠ [] ∧ ∀ c ∈ cs, p c = true := by
  constructor
  · intro h
    cases h with
    | many hne h => exact ⟨hne, h⟩
  · rintro ⟨hne, h⟩
    exact .many hne h

@[simp] theorem matches_seq_iff :
    Matches (.seq a b) cs ↔ ∃ xs ys, Matches a xs ∧ Matches b ys ∧ cs = xs ++ ys := by
  constructor
  · intro h
    cases h with
    | seq ha hb => exact ⟨_, _, ha, hb, rfl⟩
  · rintro ⟨xs, ys, ha, hb, rfl⟩
    exact .seq ha hb

@[simp] theorem matches_opt_iff : Matches (.opt a) cs ↔ cs = [] ∨ Matches a cs := by
  constructor
  · intro h
    cases h with
    | skip => exact .inl rfl
    | take h => exact .inr h
  · rintro (rfl | h)
    · exact .skip
    · exact .take h

end Matches

/-! ## The search -/

/-- The beginnings of a text that are made of one class, the longest one first,
    each with what follows it. -/
def runs (p : α → Bool) : List α → List (List α × List α)
  | [] => []
  | c :: cs => if p c then (runs p cs).map (fun e => (c :: e.1, e.2)) ++ [([c], cs)] else []

/-- The matches that a text begins with, in the order in which a greedy reader
    comes to them, each with what follows it. -/
def ends : Regexp α → List α → List (List α × List α)
  | .one _, [] => []
  | .one p, c :: cs => if p c then [([c], cs)] else []
  | .many p, cs => runs p cs
  | .seq a b, cs => (ends a cs).flatMap fun e => (ends b e.2).map fun e' => (e.1 ++ e'.1, e'.2)
  | .opt a, cs => ends a cs ++ [([], cs)]

section Ends

variable {a b : Regexp α} {p : α → Bool} {c : α} {cs : List α}

theorem runs_cons :
    runs p (c :: cs) =
      if p c then (runs p cs).map (fun e => (c :: e.1, e.2)) ++ [([c], cs)] else [] := rfl

theorem ends_one_cons : ends (.one p) (c :: cs) = if p c then [([c], cs)] else [] := rfl

theorem ends_many : ends (.many p) cs = runs p cs := by cases cs <;> rfl

theorem ends_seq :
    ends (.seq a b) cs =
      (ends a cs).flatMap fun e => (ends b e.2).map fun e' => (e.1 ++ e'.1, e'.2) := by
  cases cs <;> rfl

theorem ends_opt : ends (.opt a) cs = ends a cs ++ [([], cs)] := by cases cs <;> rfl

end Ends

/-- The match at the beginning of a text, if there is one. -/
def first (r : Regexp α) (cs : List α) : Option (List α × List α) := (r.ends cs).head?

/-- The leftmost match in a text. -/
def find? (r : Regexp α) : List α → Option (List α)
  -- the end of a text is a place too: an expression may match nothing there
  | [] => (r.first []).map Prod.fst
  | c :: cs => ((r.first (c :: cs)).map Prod.fst).or (find? r cs)

/-! ## What is found -/

theorem mem_runs {p : α → Bool} {cs m rest : List α} (h : (m, rest) ∈ runs p cs) :
    m ≠ [] ∧ ∀ c ∈ m, p c = true := by
  induction cs generalizing m with
  | nil => cases h
  | cons c cs ih =>
    rw [runs_cons] at h
    split at h
    · rename_i hc
      rcases List.mem_append.mp h with hlonger | hlast
      · obtain ⟨⟨m', rest'⟩, hmem, heq⟩ := List.mem_map.mp hlonger
        cases heq
        exact ⟨List.cons_ne_nil _ _, List.forall_mem_cons.mpr ⟨hc, (ih hmem).2⟩⟩
      · cases List.mem_singleton.mp hlast
        exact ⟨List.cons_ne_nil _ _, by simpa using hc⟩
    · cases h

theorem matches_of_mem_ends {r : Regexp α} {cs m rest : List α} (h : (m, rest) ∈ r.ends cs) :
    Matches r m := by
  induction r generalizing cs m rest with
  | one p =>
    cases cs with
    | nil => cases h
    | cons c cs =>
      rw [ends_one_cons] at h
      split at h
      · rename_i hc
        cases List.mem_singleton.mp h
        exact .one hc
      · cases h
  | many p =>
    rw [ends_many] at h
    obtain ⟨hne, hall⟩ := mem_runs h
    exact .many hne hall
  | seq a b iha ihb =>
    rw [ends_seq] at h
    obtain ⟨⟨m₁, rest₁⟩, ha, htail⟩ := List.mem_flatMap.mp h
    obtain ⟨⟨m₂, rest₂⟩, hb, heq⟩ := List.mem_map.mp htail
    cases heq
    exact .seq (iha ha) (ihb hb)
  | opt a iha =>
    rw [ends_opt] at h
    rcases List.mem_append.mp h with ha | hnone
    · exact .take (iha ha)
    · cases List.mem_singleton.mp hnone
      exact .skip

theorem matches_of_first {r : Regexp α} {cs : List α} {e : List α × List α}
    (h : r.first cs = some e) : Matches r e.1 :=
  matches_of_mem_ends (List.mem_of_head? h)

/-- What a search finds is in the language. -/
theorem matches_of_find? {r : Regexp α} {cs m : List α} (h : r.find? cs = some m) : Matches r m := by
  induction cs with
  | nil =>
    obtain ⟨e, he, rfl⟩ := Option.map_eq_some_iff.mp h
    exact matches_of_first he
  | cons c cs ih =>
    rw [find?, Option.or_eq_some_iff] at h
    rcases h with hhere | ⟨-, hlater⟩
    · obtain ⟨e, he, rfl⟩ := Option.map_eq_some_iff.mp hhere
      exact matches_of_first he
    · exact ih hlater

/-! ## What a greedy reader comes to first -/

section First

variable {a b : Regexp α} {p : α → Bool} {cs m m' rest rest' : List α}

theorem first_one {c : α} (hc : p c = true) : first (.one p) (c :: cs) = some ([c], cs) := by
  rw [first, ends_one_cons, if_pos hc]
  rfl

/-- As much as there is. -/
theorem first_many (hne : cs ≠ []) (hall : ∀ c ∈ cs, p c = true)
    (hrest : ∀ c, rest.head? = some c → p c = false) :
    first (.many p) (cs ++ rest) = some (cs, rest) := by
  rw [first, ends_many]
  induction cs with
  | nil => exact absurd rfl hne
  | cons c cs ih =>
    obtain ⟨hc, hcs⟩ := List.forall_mem_cons.mp hall
    rw [List.cons_append, runs_cons, if_pos hc, List.head?_append, List.head?_map]
    -- the runs that go on past `c` come first, and there are some unless `c` is the last of its class
    by_cases hlast : cs = []
    · subst hlast
      have hnone : runs p rest = [] := by
        cases rest with
        | nil => rfl
        | cons c' rest => rw [runs_cons, if_neg (by simp [hrest c' rfl])]
      simp [hnone]
    · rw [ih hlast hcs]
      rfl

theorem first_seq (ha : first a cs = some (m, rest)) (hb : first b rest = some (m', rest')) :
    first (.seq a b) cs = some (m ++ m', rest') := by
  obtain ⟨more, hends⟩ := List.head?_eq_some_iff.mp ha
  obtain ⟨more', hends'⟩ := List.head?_eq_some_iff.mp hb
  rw [first, ends_seq, hends, List.flatMap_cons]
  dsimp only
  rw [hends']
  rfl

theorem first_opt_take (ha : first a cs = some (m, rest)) : first (.opt a) cs = some (m, rest) := by
  rw [first] at ha
  rw [first, ends_opt, List.head?_append, ha]
  rfl

theorem first_opt_skip (ha : first a cs = none) : first (.opt a) cs = some ([], cs) := by
  rw [first] at ha
  rw [first, ends_opt, List.head?_append, ha]
  rfl

end First

theorem find?_of_first {r : Regexp α} {cs : List α} (h : r.first cs = some (cs, [])) :
    r.find? cs = some cs := by
  cases cs with
  | nil => rw [find?, h]; rfl
  | cons c cs => rw [find?, h]; rfl

end Regexp
