/-
  Katapult.Paging.Walk

  Walking through a list page by page, until an empty page.

  Every page is a query of its own, with its own arrangement of the ties.  The
  walk lists every row once, and in order, for all arrangements exactly when no
  boundary between two pages separates tied rows (`walk_listed_iff`).
-/

import Katapult.Paging.Windows
import Mathlib.Data.List.Count
import Mathlib.Data.List.Nodup
import Mathlib.Data.List.Perm.Basic

namespace Paging

variable {ρ : Type}

/-! ## The loop -/

/-- Ask for page `k`, and go on until a page is empty. -/
def walk (page : Nat → List ρ) : Nat → Nat → Option (List ρ)
  | 0, _ => none
  | fuel + 1, k =>
    match page k with
    | [] => some []
    | r :: rest => (walk page fuel (k + 1)).map fun out => (r :: rest) ++ out

/-- The loop ends, with these rows. -/
def Walks (page : Nat → List ρ) (out : List ρ) : Prop := ∃ fuel, walk page fuel 0 = some out

/-- The loop ends at the first empty page, and has the rows of all pages before it. -/
theorem walk_eq {page : Nat → List ρ} {k m : Nat} (hpages : ∀ j, j < m → page (k + j) ≠ [])
    (hend : page (k + m) = []) :
    walk page (m + 1) k = some ((List.range m).flatMap fun j => page (k + j)) := by
  induction m generalizing k with
  | zero =>
    rw [Nat.add_zero] at hend
    simp [walk, hend]
  | succ m ih =>
    have hfirst : page k ≠ [] := by simpa using hpages 0 (Nat.succ_pos m)
    have hrest := @ih (k + 1)
      (fun j hj => by
        rw [Nat.add_assoc, Nat.add_comm 1 j]
        exact hpages (j + 1) (Nat.succ_lt_succ hj))
      (by rw [Nat.add_assoc, Nat.add_comm 1 m]; exact hend)
    have hsplit : (List.range (m + 1)).flatMap (fun j => page (k + j)) =
        page k ++ (List.range m).flatMap fun j => page (k + 1 + j) := by
      rw [List.range_succ_eq_map, List.flatMap_cons, List.flatMap_map, Nat.add_zero]
      refine congrArg _ (List.flatMap_congr fun j _ => ?_)
      rw [Nat.succ_eq_add_one, Nat.add_assoc, Nat.add_comm 1 j]
    rw [walk, hrest, hsplit]
    cases hpage : page k with
    | nil => exact absurd hpage hfirst
    | cons r rest => rfl

/-- The loop over pages of which the first `m` have a row. -/
theorem walks_of_nil_iff {page : Nat → List ρ} {m : Nat} (hpages : ∀ k, page k = [] ↔ m ≤ k) :
    Walks page ((List.range m).flatMap page) := by
  refine ⟨m + 1, ?_⟩
  have hwalk := @walk_eq ρ page 0 m (fun j hj hnil => ?_) ?_
  · simpa only [Nat.zero_add] using hwalk
  · rw [Nat.zero_add, hpages] at hnil
    omega
  · rw [Nat.zero_add, hpages]

theorem walk_succ {page : Nat → List ρ} {fuel k : Nat} {out : List ρ}
    (h : walk page fuel k = some out) : walk page (fuel + 1) k = some out := by
  induction fuel generalizing k out with
  | zero => cases h
  | succ fuel ih =>
    rw [walk] at h ⊢
    cases hpage : page k with
    | nil =>
      rw [hpage] at h
      exact h
    | cons r rest =>
      rw [hpage] at h
      obtain ⟨out', hout', rfl⟩ := Option.map_eq_some_iff.mp h
      show (walk page (fuel + 1) (k + 1)).map _ = _
      rw [ih hout', Option.map_some]

theorem walk_add {page : Nat → List ρ} {fuel k : Nat} {out : List ρ} (h : walk page fuel k = some out)
    (more : Nat) : walk page (fuel + more) k = some out := by
  induction more with
  | zero => exact h
  | succ more ih => exact walk_succ ih

/-- More fuel does not lead to another end. -/
theorem Walks.unique {page : Nat → List ρ} {out out' : List ρ} (h : Walks page out)
    (h' : Walks page out') : out = out' := by
  obtain ⟨fuel, hout⟩ := h
  obtain ⟨fuel', hout'⟩ := h'
  have hsame := walk_add hout fuel'
  rw [Nat.add_comm, walk_add hout' fuel] at hsame
  exact (Option.some.inj hsame).symm

/-! ## Walking through a table -/

section

variable {le : ρ → ρ → Prop}

/-- Page `k` of the rows, as the query for it has arranged them. -/
def pageOf (orders : Nat → Arrangement le) (rows : List ρ) (L k : Nat) : List ρ :=
  window L (k * L) ((orders k).arrange rows)

/-- Every row once, and in order. -/
structure Listed (le : ρ → ρ → Prop) (rows out : List ρ) : Prop where
  perm : out.Perm rows
  sorted : out.Pairwise le

/-- The number of pages that have a row. -/
def pageCount (n L : Nat) : Nat := (n + (L - 1)) / L

theorem lt_pageCount_iff {L : Nat} (hL : 0 < L) (n k : Nat) : k < pageCount n L ↔ k * L < n := by
  rw [pageCount, Nat.lt_iff_add_one_le, Nat.le_div_iff_mul_le hL, Nat.succ_mul]
  omega

variable {orders : Nat → Arrangement le} {rows : List ρ} {L : Nat}

theorem pageOf_eq_nil_iff (hL : 0 < L) (k : Nat) :
    pageOf orders rows L k = [] ↔ pageCount rows.length L ≤ k := by
  rw [pageOf, window_eq_nil_iff hL, ((orders k).perm rows).length_eq, ← Nat.not_lt, ← Nat.not_lt,
    lt_pageCount_iff hL]

/-- The walk always ends, whatever the arrangements. -/
theorem walks_pages (orders : Nat → Arrangement le) (rows : List ρ) (hL : 0 < L) :
    Walks (pageOf orders rows L)
      ((List.range (pageCount rows.length L)).flatMap (pageOf orders rows L)) :=
  walks_of_nil_iff fun k => pageOf_eq_nil_iff hL k

/-- A walk that lists everything once shows no row on two pages. -/
theorem not_mem_later_page (hnodup : rows.Nodup) (hL : 0 < L)
    (hlisted : Listed le rows ((List.range (pageCount rows.length L)).flatMap (pageOf orders rows L)))
    {r : ρ} {j k : Nat} (hjk : j < k) (hj : r ∈ pageOf orders rows L j) :
    r ∉ pageOf orders rows L k := by
  intro hk
  have hpages : k < pageCount rows.length L := by
    by_contra hnot
    rw [(pageOf_eq_nil_iff hL k).mpr (by omega)] at hk
    cases hk
  have hall := hlisted.perm.nodup_iff.mpr hnodup
  rw [List.nodup_flatMap] at hall
  have hdisjoint := hall.2
  rw [List.pairwise_iff_getElem] at hdisjoint
  have hapart := hdisjoint j k (by rw [List.length_range]; omega) (by rw [List.length_range]; omega) hjk
  simp only [List.getElem_range] at hapart
  exact hapart hj hk

/-! ### Without separated ties -/

theorem filter_append_perm {p q : ρ → Bool} (hdisjoint : ∀ r, p r = true → q r = false)
    (rows : List ρ) : (rows.filter p ++ rows.filter q).Perm (rows.filter fun r => p r || q r) := by
  induction rows with
  | nil => exact .nil
  | cons r rows ih =>
    cases hp : p r with
    | true =>
      simp only [List.filter_cons, hp, hdisjoint r hp, Bool.true_or, if_true, if_false,
        Bool.false_eq_true, List.cons_append]
      exact ih.cons r
    | false =>
      cases hq : q r with
      | true =>
        simp only [List.filter_cons, hp, hq, Bool.or_true, if_true, if_false, Bool.false_eq_true]
        exact List.perm_middle.trans (ih.cons r)
      | false => simpa only [List.filter_cons, hp, hq, Bool.or_self, Bool.false_eq_true, if_false] using ih

/-- Rows that are told apart by a number, number by number. -/
theorem flatMap_filter_perm (f : ρ → Nat) (rows : List ρ) (m : Nat) :
    ((List.range m).flatMap fun k => rows.filter fun r => f r = k).Perm
      (rows.filter fun r => f r < m) := by
  induction m with
  | zero => simp
  | succ m ih =>
    rw [List.range_succ, List.flatMap_append, List.flatMap_singleton]
    refine (ih.append_right _).trans ((filter_append_perm ?_ rows).trans ?_)
    · intro r hr
      have hlt : f r < m := of_decide_eq_true hr
      exact decide_eq_false (by omega)
    · refine List.Perm.of_eq (List.filter_congr fun r _ => ?_)
      have hor : (f r < m ∨ f r = m) ↔ f r < m + 1 := by omega
      rw [← Bool.decide_or, decide_eq_decide]
      exact hor

variable [DecidableRel le]

theorem pageOf_eq_filter (hle : Preordering le) (hL : 0 < L)
    (hfree : ∀ k, ¬ Straddled le rows (k * L)) (k : Nat) :
    pageOf orders rows L k =
      ((orders k).arrange rows).filter fun r => before le rows r / L = k := by
  have hperm := (orders k).perm rows
  rw [pageOf, window_eq_filter hle ((orders k).sorted rows) hL
    (fun j hj => hfree j ((straddled_perm hperm _).mp hj)) k]
  simp only [before_perm hperm]

/-- The pages are parts of the table that do not depend on the arrangements. -/
theorem listed_of_not_straddled (hle : Preordering le) (hL : 0 < L)
    (hfree : ∀ k, ¬ Straddled le rows (k * L)) (orders : Nat → Arrangement le) :
    Listed le rows ((List.range (pageCount rows.length L)).flatMap (pageOf orders rows L)) := by
  constructor
  · have hpages : ((List.range (pageCount rows.length L)).flatMap (pageOf orders rows L)).Perm
        ((List.range (pageCount rows.length L)).flatMap fun k =>
          rows.filter fun r => before le rows r / L = k) := by
      refine List.Perm.flatMap_left _ fun k _ => ?_
      rw [pageOf_eq_filter hle hL hfree]
      exact ((orders k).perm rows).filter _
    refine hpages.trans ((flatMap_filter_perm _ rows _).trans (List.Perm.of_eq ?_))
    -- every row has a page
    rw [List.filter_eq_self]
    intro r hr
    have hlt : before le rows r < rows.length := by
      refine List.countP_lt_length_iff.mpr ⟨r, hr, ?_⟩
      exact decide_eq_false fun hnot => hnot (hle.refl r)
    refine decide_eq_true ((lt_pageCount_iff hL _ _).mpr ?_)
    exact lt_of_le_of_lt (Nat.div_mul_le_self _ _) hlt
  · rw [List.pairwise_flatMap]
    constructor
    · intro k _
      exact ((orders k).sorted rows).sublist ((List.take_sublist _ _).trans (List.drop_sublist _ _))
    · refine List.pairwise_lt_range.imp fun {j k} hjk r hr r' hr' => ?_
      rw [pageOf_eq_filter hle hL hfree, List.mem_filter, decide_eq_true_eq] at hr hr'
      by_contra hnot
      have hback : before le rows r' ≤ before le rows r := before_le hle hnot
      have hpages : before le rows r' / L ≤ before le rows r / L := Nat.div_le_div_right hback
      omega

/-! ### With separated ties -/

omit [DecidableRel le] in
theorem getElem_mem_window {l : List ρ} {i k : Nat} (hi : i < l.length) (hlow : k * L ≤ i)
    (hhigh : i < k * L + L) : l[i] ∈ window L (k * L) l := by
  rw [window, List.mem_take_iff_getElem]
  refine ⟨i - k * L, ?_, ?_⟩
  · rw [List.length_drop]
    omega
  · rw [List.getElem_drop]
    congr 1
    omega

/-- Two queries that arrange a separated pair differently show one of the rows twice. -/
theorem not_listed_of_straddled (hle : Preordering le) (hnodup : rows.Nodup) (hL : 0 < L) {k : Nat}
    (hstraddled : Straddled le rows (k * L)) :
    ∃ orders : Nat → Arrangement le, ¬ Listed le rows
      ((List.range (pageCount rows.length L)).flatMap (pageOf orders rows L)) := by
  let base : Arrangement le := .stable hle
  let l := base.arrange rows
  have hperm : l.Perm rows := base.perm rows
  have hsorted : l.Pairwise le := base.sorted rows
  obtain ⟨r, -, hlow, hhigh⟩ := hstraddled
  rw [← before_perm hperm] at hlow
  rw [← upTo_perm hperm] at hhigh
  -- the rows on the two sides of the boundary
  obtain ⟨b, hb⟩ : ∃ b, k * L = b + 1 := ⟨k * L - 1, by omega⟩
  have hlen : b + 1 < l.length := by
    have hle' : upTo le l r ≤ l.length := List.countP_le_length
    omega
  have htie : le l[b + 1] l[b] := tied_of_class hle hsorted r hlen (by omega) (by omega)
  obtain ⟨swapped, hswappedPerm, hswapped, hswappedLen, hmoved⟩ := exists_swap hperm hsorted hlen htie
  -- only the query for page `k` has them the other way round
  let orders : Nat → Arrangement le := fun j =>
    if j = k then base.replace rows swapped hswappedPerm hswapped else base
  refine ⟨orders, fun hlisted => ?_⟩
  obtain ⟨k', rfl⟩ : ∃ k', k = k' + 1 := by
    cases k with
    | zero => omega
    | succ k' => exact ⟨k', rfl⟩
  rw [Nat.succ_mul] at hb
  have hfst : l[b] ∈ pageOf orders rows L k' := by
    have horder : (orders k').arrange rows = l := by
      show (if k' = k' + 1 then _ else base).arrange rows = l
      rw [if_neg (by omega)]
    rw [pageOf, horder]
    exact getElem_mem_window (by omega) (by omega) (by omega)
  have hsnd : l[b] ∈ pageOf orders rows L (k' + 1) := by
    have horder : (orders (k' + 1)).arrange rows = swapped := by
      show (if k' + 1 = k' + 1 then _ else base).arrange rows = swapped
      rw [if_pos rfl]
      exact if_pos rfl
    rw [pageOf, horder, ← hmoved]
    refine getElem_mem_window hswappedLen ?_ ?_ <;> rw [Nat.succ_mul] <;> omega
  exact not_mem_later_page hnodup hL hlisted (Nat.lt_succ_self k') hfst hsnd

/-- **Walking through a table.**  The walk lists the table, whatever each query
    makes of the ties, exactly when no boundary between two pages separates tied
    rows. -/
theorem walk_listed_iff (hle : Preordering le) (hnodup : rows.Nodup) (hL : 0 < L) :
    (∀ orders : Nat → Arrangement le, ∃ out, Walks (pageOf orders rows L) out ∧ Listed le rows out) ↔
      ∀ k, ¬ Straddled le rows (k * L) := by
  constructor
  · intro hall k hstraddled
    obtain ⟨orders, hnot⟩ := not_listed_of_straddled hle hnodup hL hstraddled
    obtain ⟨out, hwalks, hlisted⟩ := hall orders
    rw [hwalks.unique (walks_pages orders rows hL)] at hlisted
    exact hnot hlisted
  · intro hfree orders
    exact ⟨_, walks_pages orders rows hL, listed_of_not_straddled hle hL hfree orders⟩

/-- Where no two rows tie, nothing can be separated. -/
theorem not_straddled_of_antisymm (hnodup : rows.Nodup)
    (hanti : ∀ a ∈ rows, ∀ b ∈ rows, le a b → le b a → a = b) (b : Nat) : ¬ Straddled le rows b := by
  classical
  rintro ⟨r, hr, hlow, hhigh⟩
  have hsplit : upTo le rows r ≤ before le rows r + rows.count r := by
    rw [upTo, before, List.count, List.countP_eq_length_filter, List.countP_eq_length_filter,
      List.countP_eq_length_filter, ← List.length_append]
    refine List.Subperm.length_le (List.subperm_of_subset (hnodup.filter _) fun r' hr' => ?_)
    obtain ⟨hmem, hle'⟩ := List.mem_filter.mp hr'
    rw [List.mem_append, List.mem_filter, List.mem_filter]
    by_cases hback : le r r'
    · exact .inr ⟨hmem, beq_iff_eq.mpr (hanti r' hmem r hr (of_decide_eq_true hle') hback)⟩
    · exact .inl ⟨hmem, decide_eq_true hback⟩
  have hone : rows.count r ≤ 1 := List.nodup_iff_count_le_one.mp hnodup r
  omega

end

end Paging
