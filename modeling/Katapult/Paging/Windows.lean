/-
  Katapult.Paging.Windows

  Queries for one page of an ordered list of rows.

  `ORDER BY` leaves open how rows with equal keys are arranged, so every query
  has an `Arrangement` of its own.  What no arrangement can change is which
  rows come before the class of a row (`before`) and where that class ends
  (`upTo`).  A boundary between two pages is harmless when it falls into no
  class (`Straddled`): then the page of a row is determined by `before` alone
  (`window_eq_filter`).
-/

import Mathlib.Data.List.Basic
import Mathlib.Data.List.Sort
import Mathlib.Data.Nat.Basic

namespace Paging

variable {ρ : Type}

/-! ## Queries -/

/-- Any two rows compare; different rows may tie. -/
structure Preordering (le : ρ → ρ → Prop) : Prop where
  total : ∀ a b, le a b ∨ le b a
  trans : ∀ a b c, le a b → le b c → le a c

theorem Preordering.refl {le : ρ → ρ → Prop} (hle : Preordering le) (a : ρ) : le a a :=
  (hle.total a a).elim id id

/-- A way to answer `ORDER BY`: sorted, and tied rows in any order. -/
structure Arrangement (le : ρ → ρ → Prop) where
  arrange : List ρ → List ρ
  perm : ∀ rows, (arrange rows).Perm rows
  sorted : ∀ rows, (arrange rows).Pairwise le

/-- Ties in the order of the table. -/
def Arrangement.stable {le : ρ → ρ → Prop} [DecidableRel le] (hle : Preordering le) :
    Arrangement le where
  arrange rows := rows.mergeSort fun a b => le a b
  perm rows := List.mergeSort_perm rows _
  sorted rows := by
    have hsorted := @List.pairwise_mergeSort ρ (fun a b => decide (le a b))
      (fun a b c hab hbc => by simpa using hle.trans a b c (by simpa using hab) (by simpa using hbc))
      (fun a b => by simpa using hle.total a b) rows
    exact hsorted.imp of_decide_eq_true

/-- No `ORDER BY`. -/
def unordered (_ _ : ρ) : Prop := True

/-- The order of the table. -/
def Arrangement.unchanged : Arrangement (@unordered ρ) where
  arrange rows := rows
  perm rows := List.Perm.refl rows
  sorted _ := List.pairwise_of_forall fun _ _ => trivial

/-- `LIMIT` and `OFFSET`. -/
def window (limit offset : Nat) (rows : List ρ) : List ρ := (rows.drop offset).take limit

/-- `COUNT(*) OVER()`: every row carries the number of all rows. -/
def countOver (rows : List ρ) : List (ρ × Nat) := rows.map fun r => (r, rows.length)

/-- A client that scans the rows: it keeps the count of the last one it has seen. -/
def scanAll : List (ρ × Nat) → List ρ × Nat → List ρ × Nat
  | [], acc => acc
  | (r, count) :: rest, acc => scanAll rest (acc.1 ++ [r], count)

/-- A page, and the count that a client scans off it. -/
def countedPage (limit offset : Nat) (rows : List ρ) : List ρ × Nat :=
  scanAll (window limit offset (countOver rows)) ([], 0)

theorem length_window (limit offset : Nat) (rows : List ρ) :
    (window limit offset rows).length = min limit (rows.length - offset) := by
  rw [window, List.length_take, List.length_drop]

theorem window_eq_nil_iff {limit : Nat} (hlimit : 0 < limit) (offset : Nat) (rows : List ρ) :
    window limit offset rows = [] ↔ rows.length ≤ offset := by
  rw [← List.length_eq_zero_iff, length_window]
  omega

theorem scanAll_map (rows : List ρ) (count : Nat) (acc : List ρ × Nat) :
    scanAll (rows.map fun r => (r, count)) acc =
      (acc.1 ++ rows, if rows = [] then acc.2 else count) := by
  induction rows generalizing acc with
  | nil => simp [scanAll]
  | cons r rows ih =>
    rw [List.map_cons, scanAll, ih, List.append_assoc]
    by_cases hrest : rows = [] <;> simp [hrest]

/-- Changing the rows of a page, or of the table. -/
theorem window_countOver_map {ρ' : Type} (f : ρ → ρ') (limit offset : Nat) (rows : List ρ) :
    (window limit offset (countOver rows)).map (Prod.map f id) =
      window limit offset (countOver (rows.map f)) := by
  rw [window, window, List.map_take, List.map_drop, countOver, countOver, List.map_map, List.map_map,
    List.length_map]
  rfl

theorem fst_scanAll (rows : List (ρ × Nat)) (acc : List ρ × Nat) :
    (scanAll rows acc).1 = acc.1 ++ rows.map Prod.fst := by
  induction rows generalizing acc with
  | nil => exact (List.append_nil acc.1).symm
  | cons r rows ih => rw [scanAll, ih, List.map_cons, List.append_assoc, List.singleton_append]

/-- The count is that of all rows, if there is a row to read it off. -/
theorem countedPage_eq (limit offset : Nat) (rows : List ρ) :
    countedPage limit offset rows =
      (window limit offset rows, if window limit offset rows = [] then 0 else rows.length) := by
  have hmap : window limit offset (countOver rows) =
      (window limit offset rows).map fun r => (r, rows.length) := by
    rw [window, countOver, ← List.map_drop, ← List.map_take, window]
  rw [countedPage, hmap, scanAll_map, List.nil_append]

/-- So it is right exactly if the page has a row, or there is none at all. -/
theorem count_eq_length_iff {limit : Nat} (hlimit : 0 < limit) (offset : Nat) (rows : List ρ) :
    (countedPage limit offset rows).2 = rows.length ↔ rows = [] ∨ offset < rows.length := by
  have hempty := window_eq_nil_iff hlimit offset rows
  rw [countedPage_eq]
  show (if window limit offset rows = [] then 0 else rows.length) = rows.length ↔ _
  have hnone : rows = [] ↔ rows.length = 0 := List.length_eq_zero_iff.symm
  rw [hnone]
  split
  · rename_i hnil
    have hpast := hempty.mp hnil
    omega
  · rename_i hsome
    have hinside : ¬ rows.length ≤ offset := fun hpast => hsome (hempty.mpr hpast)
    omega

theorem count_arrange_iff {le : ρ → ρ → Prop} (order : Arrangement le) {limit : Nat}
    (hlimit : 0 < limit) (offset : Nat) (rows : List ρ) :
    (countedPage limit offset (order.arrange rows)).2 = rows.length ↔
      rows = [] ∨ offset < rows.length := by
  have hlen := (order.perm rows).length_eq
  have hnil : order.arrange rows = [] ↔ rows = [] := by
    rw [← List.length_eq_zero_iff, hlen, List.length_eq_zero_iff]
  rw [← hlen, count_eq_length_iff hlimit, hnil]

/-! ## Other arrangements -/

section

variable {le : ρ → ρ → Prop}

/-- Neighbours that tie can change places. -/
theorem pairwise_swap {front back : List ρ} {a b : ρ} (h : (front ++ a :: b :: back).Pairwise le)
    (hba : le b a) : (front ++ b :: a :: back).Pairwise le := by
  rw [List.pairwise_append, List.pairwise_cons, List.pairwise_cons] at h ⊢
  obtain ⟨hfront, ⟨ha, hb, hback⟩, hcross⟩ := h
  refine ⟨hfront, ⟨?_, fun r hr => ha r (List.mem_cons_of_mem _ hr), hback⟩, fun r hr r' hr' => ?_⟩
  · exact List.forall_mem_cons.mpr ⟨hba, hb⟩
  · refine hcross r hr r' ?_
    simp only [List.mem_cons] at hr' ⊢
    rcases hr' with h | h | h
    · exact .inr (.inl h)
    · exact .inl h
    · exact .inr (.inr h)

/-- Two neighbours of an arranged table that tie, the other way round. -/
theorem exists_swap {l rows : List ρ} (hperm : l.Perm rows) (hsorted : l.Pairwise le) {b : Nat}
    (hb : b + 1 < l.length) (htie : le l[b + 1] l[b]) :
    ∃ out : List ρ, out.Perm rows ∧ out.Pairwise le ∧ ∃ h : b + 1 < out.length, out[b + 1] = l[b] := by
  have hcut : l.take b ++ l[b] :: l[b + 1] :: l.drop (b + 2) = l := by
    rw [List.getElem_cons_drop hb, List.getElem_cons_drop (by omega), List.take_append_drop]
  have hperm' : (l.take b ++ l[b + 1] :: l[b] :: l.drop (b + 2)).Perm rows := by
    refine List.Perm.trans (List.Perm.append_left _ (List.Perm.swap _ _ _)) ?_
    rw [hcut]
    exact hperm
  have hlen : (l.take b ++ l[b + 1] :: l[b] :: l.drop (b + 2)).length = l.length :=
    hperm'.length_eq.trans hperm.length_eq.symm
  refine ⟨_, hperm', pairwise_swap (by rw [hcut]; exact hsorted) htie, by omega, ?_⟩
  have htake : (l.take b).length = b := by
    rw [List.length_take]
    omega
  rw [List.getElem_append_right (by omega)]
  simp [htake]

open Classical in
/-- Answer one table in a way of its own. -/
noncomputable def Arrangement.replace (base : Arrangement le) (rows out : List ρ)
    (hperm : out.Perm rows) (hsorted : out.Pairwise le) : Arrangement le where
  arrange rows' := if rows' = rows then out else base.arrange rows'
  perm rows' := by
    split
    · rename_i heq
      exact heq ▸ hperm
    · exact base.perm rows'
  sorted rows' := by
    split
    · exact hsorted
    · exact base.sorted rows'

/-- Rows that are looked at through `f` can be arranged as they are. -/
theorem Arrangement.exists_map {ρ' : Type} {le' : ρ' → ρ' → Prop} [DecidableRel le']
    (hle' : Preordering le') (order : Arrangement le) {f : ρ → ρ'}
    (hf : ∀ a b, le a b → le' (f a) (f b)) (rows : List ρ) :
    ∃ order' : Arrangement le', order'.arrange (rows.map f) = (order.arrange rows).map f := by
  have hperm : ((order.arrange rows).map f).Perm (rows.map f) := (order.perm rows).map f
  have hsorted : ((order.arrange rows).map f).Pairwise le' := (order.sorted rows).map f hf
  exact ⟨(Arrangement.stable hle').replace _ _ hperm hsorted, if_pos rfl⟩

/-- Every arrangement leaves a table as it is exactly if its rows are strictly sorted. -/
theorem arrange_eq_iff (hle : Preordering le) [DecidableRel le] {rows : List ρ} (hnodup : rows.Nodup) :
    (∀ order : Arrangement le, order.arrange rows = rows) ↔ rows.Pairwise fun a b => ¬ le b a := by
  constructor
  · intro hall
    let base : Arrangement le := .stable hle
    have hsorted : rows.Pairwise le := by
      have hbase := base.sorted rows
      rwa [hall base] at hbase
    rw [List.pairwise_iff_getElem] at hsorted ⊢
    intro i j hi hj hij hback
    -- the row after the first one ties with it as well
    have htie : le rows[i + 1] rows[i] := by
      by_cases hnext : i + 1 = j
      · subst hnext
        exact hback
      · exact hle.trans _ _ _ (hsorted (i + 1) j (by omega) hj (by omega)) hback
    obtain ⟨out, hperm, hout, hlen, hmoved⟩ :=
      exists_swap (List.Perm.refl rows) (List.pairwise_iff_getElem.mpr hsorted) (by omega) htie
    have hsame : out = rows := by
      have hreplaced := hall (base.replace rows out hperm hout)
      exact (if_pos rfl).symm.trans hreplaced
    subst hsame
    have hindex := (hnodup.getElem_inj_iff).mp hmoved
    omega
  · intro hstrict order
    have hsorted : rows.Pairwise le := hstrict.imp fun {a b} hnot => (hle.total a b).resolve_right hnot
    refine (order.perm rows).eq_of_pairwise (fun a b ha hb hab hba => ?_) (order.sorted rows) hsorted
    -- of two rows that tie, neither could stand first
    obtain ⟨i, hi, rfl⟩ := List.mem_iff_getElem.mp ((order.perm rows).mem_iff.mp ha)
    obtain ⟨j, hj, rfl⟩ := List.mem_iff_getElem.mp hb
    rw [List.pairwise_iff_getElem] at hstrict
    rcases Nat.lt_trichotomy i j with hlt | rfl | hlt
    · exact absurd hba (hstrict i j hi hj hlt)
    · rfl
    · exact absurd hab (hstrict j i hj hi hlt)

end

/-! ## Classes of ties -/

section

variable (le : ρ → ρ → Prop) [DecidableRel le]

/-- The rows that come before `r` in every arrangement. -/
def before (rows : List ρ) (r : ρ) : Nat := rows.countP fun r' => ¬ le r r'

/-- The rows that come before `r`, or tie with it. -/
def upTo (rows : List ρ) (r : ρ) : Nat := rows.countP fun r' => le r' r

/-- There are tied rows that position `b` separates. -/
def Straddled (rows : List ρ) (b : Nat) : Prop := ∃ r ∈ rows, before le rows r < b ∧ b < upTo le rows r

instance (rows : List ρ) (b : Nat) : Decidable (Straddled le rows b) :=
  inferInstanceAs (Decidable (∃ r ∈ rows, before le rows r < b ∧ b < upTo le rows r))

end

section

variable {le : ρ → ρ → Prop} [DecidableRel le]
variable {rows l : List ρ}

theorem before_perm (hperm : l.Perm rows) (r : ρ) : before le l r = before le rows r :=
  hperm.countP_eq _

theorem upTo_perm (hperm : l.Perm rows) (r : ρ) : upTo le l r = upTo le rows r :=
  hperm.countP_eq _

theorem straddled_perm (hperm : l.Perm rows) (b : Nat) :
    Straddled le l b ↔ Straddled le rows b := by
  simp only [Straddled, before_perm hperm, upTo_perm hperm, hperm.mem_iff]

/-- In a list where `p` never begins to hold, the rows up to its count satisfy it. -/
theorem lt_countP_iff {p : ρ → Bool} (hclosed : l.Pairwise fun a b => p b = true → p a = true)
    {i : Nat} (hi : i < l.length) : i < l.countP p ↔ p l[i] = true := by
  induction l generalizing i with
  | nil => cases hi
  | cons a l ih =>
    rw [List.pairwise_cons] at hclosed
    obtain ⟨hfirst, hrest⟩ := hclosed
    cases hpa : p a with
    | true =>
      rw [List.countP_cons_of_pos hpa]
      cases i with
      | zero => simp [hpa]
      | succ i =>
        rw [Nat.succ_lt_succ_iff, ih hrest (by simpa using hi)]
        rfl
    | false =>
      -- it cannot begin to hold further on
      have hnone : ∀ b ∈ a :: l, p b = false := by
        rw [List.forall_mem_cons]
        refine ⟨hpa, fun b hb => ?_⟩
        cases hpb : p b with
        | false => rfl
        | true => exact (hfirst b hb hpb).symm.trans hpa
      have hzero : (a :: l).countP p = 0 :=
        List.countP_eq_zero.mpr fun b hb => by rw [hnone b hb]; exact Bool.false_ne_true
      rw [hzero, hnone _ (List.getElem_mem hi)]
      simp

/-- The rows before a class, and the rows up to its end, are initial parts. -/
theorem lt_before_iff (hle : Preordering le) (hsorted : l.Pairwise le) (r : ρ) {i : Nat}
    (hi : i < l.length) : i < before le l r ↔ ¬ le r l[i] := by
  rw [before, lt_countP_iff (hsorted.imp fun {a b} hab hb => ?_) hi, decide_eq_true_eq]
  have hb' : ¬ le r b := of_decide_eq_true hb
  exact decide_eq_true fun hra => hb' (hle.trans r a b hra hab)

theorem lt_upTo_iff (hle : Preordering le) (hsorted : l.Pairwise le) (r : ρ) {i : Nat}
    (hi : i < l.length) : i < upTo le l r ↔ le l[i] r := by
  rw [upTo, lt_countP_iff (hsorted.imp fun {a b} hab hb => ?_) hi, decide_eq_true_eq]
  exact decide_eq_true (hle.trans a b r hab (of_decide_eq_true hb))

/-- Two neighbours in a class tie. -/
theorem tied_of_class (hle : Preordering le) (hsorted : l.Pairwise le) (r : ρ) {b : Nat}
    (hb : b + 1 < l.length) (hlow : before le l r ≤ b) (hhigh : b + 1 < upTo le l r) :
    le l[b + 1] l[b] := by
  have hafter : le r l[b] := by
    by_contra hnot
    have hlt := (lt_before_iff hle hsorted r (by omega : b < l.length)).mpr hnot
    omega
  exact hle.trans _ _ _ ((lt_upTo_iff hle hsorted r hb).mp hhigh) hafter

/-- A row that does not come after another is preceded by no more. -/
theorem before_le (hle : Preordering le) {r r' : ρ} (h : ¬ le r r') :
    before le rows r' ≤ before le rows r := by
  have hback : le r' r := (hle.total r' r).resolve_right h
  refine List.countP_mono_left fun x _ hx => ?_
  have hx' : ¬ le r' x := of_decide_eq_true hx
  exact decide_eq_true fun hrx => hx' (hle.trans r' r x hback hrx)

/-! ### A window that the ties do not reach -/

/-- The places of a class of two rows or more are not all outside of the window. -/
def Unsettled (le : ρ → ρ → Prop) [DecidableRel le] (rows : List ρ) (limit offset : Nat) : Prop :=
  ∃ r ∈ rows, before le rows r + 1 < upTo le rows r ∧
    before le rows r < offset + limit ∧ offset < upTo le rows r

omit [DecidableRel le] in
theorem window_eq_iff {l' : List ρ} (limit offset : Nat) :
    window limit offset l = window limit offset l' ↔
      ∀ k, offset ≤ k → k < offset + limit → l[k]? = l'[k]? := by
  have hget : ∀ (rows : List ρ) (i : Nat), (window limit offset rows)[i]? =
      if i < limit then rows[offset + i]? else none := by
    intro rows i
    rw [window, List.getElem?_take, List.getElem?_drop]
  constructor
  · intro hsame k hlow hhigh
    have hk := congrArg (·[k - offset]?) hsame
    simp only [hget, if_pos (show k - offset < limit by omega)] at hk
    rwa [show offset + (k - offset) = k by omega] at hk
  · intro hsame
    refine List.ext_getElem? fun i => ?_
    rw [hget, hget]
    split
    · exact hsame _ (by omega) (by omega)
    · rfl

/-- A row that ties with no other has the same place in every arrangement. -/
theorem getElem?_eq_of_alone (hle : Preordering le) {l' : List ρ} (hperm : l.Perm l')
    (hsorted : l.Pairwise le) (hsorted' : l'.Pairwise le) {k : Nat} (hk : k < l.length)
    (halone : upTo le l l[k] ≤ before le l l[k] + 1) : l[k]? = l'[k]? := by
  have hlow : before le l l[k] ≤ k := Nat.le_of_not_lt fun hlt =>
    (lt_before_iff hle hsorted l[k] hk).mp hlt (hle.refl _)
  have hhigh : k < upTo le l l[k] := (lt_upTo_iff hle hsorted l[k] hk).mpr (hle.refl _)
  obtain ⟨j, hj, hsame⟩ := List.mem_iff_getElem.mp (hperm.mem_iff.mp (List.getElem_mem hk))
  -- the class has one place, and the row stands in it there as well
  have hlow' : ¬ j < before le l' l[k] := fun hlt =>
    (lt_before_iff hle hsorted' l[k] hj).mp hlt (by rw [hsame]; exact hle.refl _)
  have hhigh' : j < upTo le l' l[k] :=
    (lt_upTo_iff hle hsorted' l[k] hj).mpr (by rw [hsame]; exact hle.refl _)
  rw [← before_perm hperm] at hlow'
  rw [← upTo_perm hperm] at hhigh'
  obtain rfl : j = k := by omega
  rw [List.getElem?_eq_getElem hk, List.getElem?_eq_getElem hj, hsame]

/-- A class of which something is in the window can be arranged in another way there. -/
theorem exists_other_window (hle : Preordering le) (hnodup : rows.Nodup) (hperm : l.Perm rows)
    (hsorted : l.Pairwise le) {limit offset : Nat} (hlimit : 0 < limit)
    (hunsettled : Unsettled le rows limit offset) :
    ∃ out : List ρ, out.Perm rows ∧ out.Pairwise le ∧ window limit offset out ≠ window limit offset l := by
  obtain ⟨r, -, hmany, hbegin, hend⟩ := hunsettled
  rw [← before_perm hperm] at hmany hbegin
  rw [← upTo_perm hperm] at hmany hend
  have hlen : upTo le l r ≤ l.length := List.countP_le_length
  -- `b` and `b + 1` are in the class, and one of them in the window
  obtain ⟨b, k, hb, hb', hk, hlow, hhigh⟩ : ∃ b k, before le l r ≤ b ∧ b + 1 < upTo le l r ∧
      (k = b ∨ k = b + 1) ∧ offset ≤ k ∧ k < offset + limit := by
    by_cases hlast : max (before le l r) offset + 1 < upTo le l r
    · exact ⟨max (before le l r) offset, max (before le l r) offset, by omega, hlast, .inl rfl,
        by omega, by omega⟩
    · exact ⟨upTo le l r - 2, upTo le l r - 1, by omega, by omega, .inr (by omega), by omega, by omega⟩
  have htie := tied_of_class hle hsorted r (by omega) hb hb'
  obtain ⟨out, hperm', hout, houtLen, hmoved⟩ := exists_swap hperm hsorted (by omega) htie
  refine ⟨out, hperm', hout, fun hsame => ?_⟩
  have hk' := (window_eq_iff limit offset).mp hsame k hlow hhigh
  have hlen' : out.length = l.length := hperm'.length_eq.trans hperm.length_eq.symm
  rw [List.getElem?_eq_getElem (by omega), List.getElem?_eq_getElem (by omega), Option.some_inj] at hk'
  rcases hk with rfl | rfl
  · have hindex := (hperm'.nodup_iff.mpr hnodup).getElem_inj_iff.mp (hmoved.trans hk'.symm)
    omega
  · have hindex := (hperm.nodup_iff.mpr hnodup).getElem_inj_iff.mp (hmoved.symm.trans hk')
    omega

/-- The window is the same whatever the arrangement exactly if no class of ties
    reaches into it. -/
theorem window_arrange_iff (hle : Preordering le) (hnodup : rows.Nodup) (hperm : l.Perm rows)
    (hsorted : l.Pairwise le) {limit : Nat} (hlimit : 0 < limit) (offset : Nat) :
    (∀ order : Arrangement le, window limit offset l = window limit offset (order.arrange rows)) ↔
      ¬ Unsettled le rows limit offset := by
  constructor
  · intro hall hunsettled
    obtain ⟨out, hout, hsorted', hother⟩ :=
      exists_other_window hle hnodup hperm hsorted hlimit hunsettled
    let order := (Arrangement.stable hle).replace rows out hout hsorted'
    have harranged : order.arrange rows = out := if_pos rfl
    have hreplaced := hall order
    rw [harranged] at hreplaced
    exact hother hreplaced.symm
  · intro hsettled order
    have hsame : l.Perm (order.arrange rows) := hperm.trans (order.perm rows).symm
    refine (window_eq_iff limit offset).mpr fun k hlow hhigh => ?_
    by_cases hk : k < l.length
    · refine getElem?_eq_of_alone hle hsame hsorted (order.sorted rows) hk ?_
      -- a class of several would reach into the window at `k`
      by_contra hmany
      have hbegin : before le l l[k] ≤ k := Nat.le_of_not_lt fun hlt =>
        (lt_before_iff hle hsorted l[k] hk).mp hlt (hle.refl _)
      have hend : k < upTo le l l[k] := (lt_upTo_iff hle hsorted l[k] hk).mpr (hle.refl _)
      refine hsettled ⟨l[k], hperm.mem_iff.mp (List.getElem_mem hk), ?_⟩
      rw [← before_perm hperm, ← upTo_perm hperm]
      omega
    · have hk' : (order.arrange rows).length ≤ k := by
        rw [← hsame.length_eq]
        omega
      rw [List.getElem?_eq_none_iff.mpr hk', List.getElem?_eq_none_iff.mpr (by omega)]

/-! ### Pages that the ties do not cross -/

/-- Pages whose boundaries fall into no class: the page of a row is that of its class. -/
theorem div_before (hle : Preordering le) (hsorted : l.Pairwise le) {L : Nat} (hL : 0 < L)
    (hfree : ∀ k, ¬ Straddled le l (k * L)) {i : Nat} (hi : i < l.length) :
    before le l l[i] / L = i / L := by
  -- a row stands after what comes before its class, and inside of the class
  have hlow : before le l l[i] ≤ i := Nat.le_of_not_lt fun hlt =>
    (lt_before_iff hle hsorted l[i] hi).mp hlt (hle.refl _)
  have hhigh : i < upTo le l l[i] := (lt_upTo_iff hle hsorted l[i] hi).mpr (hle.refl _)
  have hstart : i / L * L ≤ i := Nat.div_mul_le_self i L
  -- the page of `i` starts at a boundary that the class of the row does not contain
  have hclass : i / L * L ≤ before le l l[i] := by
    by_contra hlt
    refine hfree (i / L) ⟨l[i], List.getElem_mem hi, ?_, ?_⟩ <;> omega
  apply Nat.le_antisymm
  · exact Nat.div_le_div_right hlow
  · exact (Nat.le_div_iff_mul_le hL).mpr hclass

/-- The rows at the positions of one page, if a function of the rows tells the page. -/
theorem window_eq_filter_of_page {L : Nat} (hL : 0 < L) {f : ρ → Nat}
    (hf : ∀ i (hi : i < l.length), f l[i] = i / L) (k : Nat) :
    window L (k * L) l = l.filter fun r => f r = k := by
  -- of the rows in front of the page and behind it, the filter keeps none
  have hcut : l.take (k * L) ++ (window L (k * L) l ++ l.drop (k * L + L)) = l := by
    rw [window, ← List.drop_drop, List.take_append_drop, List.take_append_drop]
  have hfst : (l.take (k * L)).filter (fun r => decide (f r = k)) = [] := by
    rw [List.filter_eq_nil_iff]
    intro r hr
    obtain ⟨i, hi, rfl⟩ := List.mem_take_iff_getElem.mp hr
    have hpage : i / L < k := (Nat.div_lt_iff_lt_mul hL).mpr (by omega)
    rw [hf i (by omega)]
    simpa using hpage.ne
  have hmid : (window L (k * L) l).filter (fun r => decide (f r = k)) = window L (k * L) l := by
    rw [List.filter_eq_self]
    intro r hr
    obtain ⟨i, hi, rfl⟩ := List.mem_take_iff_getElem.mp hr
    rw [List.length_drop] at hi
    rw [List.getElem_drop, hf (k * L + i) (by omega)]
    have hpage : (k * L + i) / L = k := by
      rw [Nat.mul_comm, Nat.mul_add_div hL, Nat.div_eq_of_lt (by omega), Nat.add_zero]
    exact decide_eq_true hpage
  have hlast : (l.drop (k * L + L)).filter (fun r => decide (f r = k)) = [] := by
    rw [List.filter_eq_nil_iff]
    intro r hr
    obtain ⟨i, hi, rfl⟩ := List.mem_iff_getElem.mp hr
    rw [List.length_drop] at hi
    rw [List.getElem_drop, hf (k * L + L + i) (by omega)]
    have hpage : k + 1 ≤ (k * L + L + i) / L := by
      rw [Nat.le_div_iff_mul_le hL, Nat.succ_mul]
      omega
    simp only [decide_eq_true_eq]
    omega
  have hfilter := congrArg (List.filter fun r => decide (f r = k)) hcut
  rw [List.filter_append, List.filter_append, hfst, hmid, hlast, List.append_nil,
    List.nil_append] at hfilter
  exact hfilter

/-- A page, as the rows of its classes. -/
theorem window_eq_filter (hle : Preordering le) (hsorted : l.Pairwise le) {L : Nat} (hL : 0 < L)
    (hfree : ∀ k, ¬ Straddled le l (k * L)) (k : Nat) :
    window L (k * L) l = l.filter fun r => before le l r / L = k :=
  window_eq_filter_of_page hL (fun _ hi => div_before hle hsorted hL hfree hi) k

/-! ## The first page -/

/-- Some arrangement puts a row first in its class. -/
theorem exists_first (hle : Preordering le) {r : ρ} (hr : r ∈ rows) :
    ∃ order : Arrangement le, (order.arrange rows)[before le rows r]? = some r := by
  let base : Arrangement le := .stable hle
  let l := base.arrange rows
  let front := l.filter fun x => decide (¬ le r x)
  let back := l.filter fun x => !decide (¬ le r x)
  -- `r` goes in front of its class, behind everything that is strictly before it
  have hmem : r ∈ back :=
    List.mem_filter.mpr ⟨(base.perm rows).mem_iff.mpr hr, by simpa using hle.refl r⟩
  obtain ⟨fst, snd, hsplit⟩ := List.append_of_mem hmem
  have hrest : (fst ++ snd).Sublist back := by
    rw [hsplit]
    exact (List.sublist_cons_self r snd).append_left fst
  have hback : ∀ x ∈ fst ++ snd, le r x := fun x hx => by
    simpa using List.of_mem_filter (hrest.subset hx)
  have hperm : (front ++ r :: (fst ++ snd)).Perm rows := by
    have hmiddle : (r :: (fst ++ snd)).Perm back := by
      rw [hsplit]
      exact List.perm_middle.symm
    exact ((hmiddle.append_left front).trans (List.filter_append_perm _ l)).trans (base.perm rows)
  have hsorted : (front ++ r :: (fst ++ snd)).Pairwise le := by
    have hl : l.Pairwise le := base.sorted rows
    rw [List.pairwise_append, List.pairwise_cons]
    refine ⟨hl.sublist List.filter_sublist, ⟨hback, ?_⟩, fun x hx y hy => ?_⟩
    · exact hl.sublist (hrest.trans List.filter_sublist)
    · have hxr : le x r := (hle.total x r).resolve_right (by simpa using List.of_mem_filter hx)
      rcases List.mem_cons.mp hy with rfl | hy
      · exact hxr
      · exact hle.trans _ _ _ hxr (hback y hy)
  have hfront : before le rows r = front.length := by
    rw [← before_perm (base.perm rows), before, List.countP_eq_length_filter]
  refine ⟨base.replace rows _ hperm hsorted, ?_⟩
  have harrange : (base.replace rows _ hperm hsorted).arrange rows = front ++ r :: (fst ++ snd) :=
    if_pos rfl
  rw [harrange, hfront, List.getElem?_append_right (Nat.le_refl _), Nat.sub_self]
  rfl

/-- What every first page shows holds of all rows but those that enough others come before. -/
theorem forall_firstPage_iff (hle : Preordering le) (L : Nat) (rows : List ρ) (P : ρ → Prop) :
    (∀ order : Arrangement le, ∀ r ∈ window L 0 (order.arrange rows), P r) ↔
      ∀ r ∈ rows, ¬ P r → L ≤ before le rows r := by
  constructor
  · intro hall r hr hnot
    by_contra hlt
    obtain ⟨order, hfirst⟩ := exists_first hle hr
    obtain ⟨hlen, hfirst⟩ := List.getElem?_eq_some_iff.mp hfirst
    refine hnot (hall order r ?_)
    rw [window, List.drop_zero, List.mem_take_iff_getElem]
    exact ⟨before le rows r, by omega, hfirst⟩
  · intro hrows order r hr
    rw [window, List.drop_zero, List.mem_take_iff_getElem] at hr
    obtain ⟨i, hi, rfl⟩ := hr
    by_contra hnot
    have hi : i < (order.arrange rows).length := by omega
    have hmem := (order.perm rows).mem_iff.mp (List.getElem_mem hi)
    have hlow := hrows _ hmem hnot
    -- what stands there is not before its own class
    have hhigh : before le rows (order.arrange rows)[i] ≤ i := by
      rw [← before_perm (order.perm rows)]
      exact Nat.le_of_not_lt fun hlt =>
        (lt_before_iff hle (order.sorted rows) _ (by omega)).mp hlt (hle.refl _)
    omega

end

end Paging
