/-
  Katapult.Keyed.Table

  Tables with a primary key: a list of rows in insertion order, no two with the
  same key.  The key constraint is a field, so a table that violates it cannot
  be built: `insert?` refuses a duplicate, and `modify` only takes updates that
  leave the key alone, as does `update`, the same for all rows that satisfy a
  condition.
-/

import Mathlib.Data.List.Nodup

namespace Keyed

/-- Rows of type `ρ` with primary key `key`. -/
structure Table (κ ρ : Type) (key : ρ → κ) where
  rows : List ρ
  nodup : (rows.map key).Nodup

namespace Table

variable {κ ρ : Type} {key : ρ → κ}

/-- The table without rows. -/
def empty : Table κ ρ key := ⟨[], List.nodup_nil⟩

theorem eq_of_rows {t t' : Table κ ρ key} (h : t.rows = t'.rows) : t = t' := by
  cases t
  cases t'
  cases h
  rfl

variable [DecidableEq κ]

/-- The row with key `k`. -/
def find? (t : Table κ ρ key) (k : κ) : Option ρ :=
  t.rows.find? fun r => key r = k

/-- Add a row at the end, unless its key is taken. -/
def insert? (t : Table κ ρ key) (r : ρ) : Option (Table κ ρ key) :=
  if h : key r ∉ t.rows.map key then
    some ⟨t.rows ++ [r], by
      rw [List.map_append]
      exact List.nodup_append.mpr ⟨t.nodup, by simp, by
        intro a ha b hb hab
        simp only [List.map_cons, List.map_nil, List.mem_singleton] at hb
        exact h (hb ▸ hab ▸ ha)⟩⟩
  else none

/-- Apply `f` to the rows that satisfy `cond`. -/
def update (t : Table κ ρ key) (cond : ρ → Bool) (f : ρ → ρ) (hf : ∀ r, key (f r) = key r) :
    Table κ ρ key where
  rows := t.rows.map fun r => if cond r then f r else r
  nodup := by
    have hkeys : (t.rows.map fun r => if cond r then f r else r).map key = t.rows.map key := by
      rw [List.map_map]
      refine List.map_congr_left fun r _ => ?_
      simp only [Function.comp_apply]
      split
      · exact hf r
      · rfl
    exact hkeys ▸ t.nodup

/-- Apply `f` to the row with key `k`, if there is one. -/
def modify (t : Table κ ρ key) (k : κ) (f : ρ → ρ) (hf : ∀ r, key (f r) = key r) :
    Table κ ρ key :=
  t.update (fun r => key r = k) f hf

/-- Store a row under its key, in the place of one that is there. -/
def put (t : Table κ ρ key) (r : ρ) : Table κ ρ key where
  rows := (t.rows.filter fun r' => key r' ≠ key r) ++ [r]
  nodup := by
    rw [List.map_append, List.nodup_append]
    refine ⟨t.nodup.sublist (List.filter_sublist.map key), List.nodup_singleton _, ?_⟩
    rintro k hk _ hr rfl
    obtain ⟨r', hr', rfl⟩ := List.mem_map.mp hk
    have hne : key r' ≠ key r := by simpa using (List.mem_filter.mp hr').2
    exact hne (List.mem_singleton.mp hr)

/-- Change the rows to another type, and leave the keys alone. -/
def map {ρ' : Type} {key' : ρ' → κ} (t : Table κ ρ key) (f : ρ → ρ') (hf : ∀ r, key' (f r) = key r) :
    Table κ ρ' key' where
  rows := t.rows.map f
  nodup := by
    rw [List.map_map, show key' ∘ f = key from funext hf]
    exact t.nodup

/-- Keep the rows that satisfy `cond`. -/
def filter (t : Table κ ρ key) (cond : ρ → Bool) : Table κ ρ key :=
  ⟨t.rows.filter cond, t.nodup.sublist (List.filter_sublist.map key)⟩

theorem find?_eq_some {t : Table κ ρ key} {k : κ} {r : ρ} :
    t.find? k = some r ↔ r ∈ t.rows ∧ key r = k := by
  constructor
  · intro h
    exact ⟨List.mem_of_find?_eq_some h, by simpa using List.find?_some h⟩
  · rintro ⟨hmem, rfl⟩
    have hsome : (t.find? (key r)).isSome := by
      rw [find?, List.find?_isSome]
      exact ⟨r, hmem, by simp⟩
    obtain ⟨r', hr'⟩ := Option.isSome_iff_exists.mp hsome
    have hkey : key r' = key r := by simpa using List.find?_some hr'
    rw [hr', List.inj_on_of_nodup_map t.nodup (List.mem_of_find?_eq_some hr') hmem hkey]

theorem key_of_find? {t : Table κ ρ key} {k : κ} {r : ρ} (h : t.find? k = some r) : key r = k :=
  (find?_eq_some.mp h).2

theorem find?_of_mem {t : Table κ ρ key} {r : ρ} (h : r ∈ t.rows) : t.find? (key r) = some r :=
  find?_eq_some.mpr ⟨h, rfl⟩

theorem find?_eq_none {t : Table κ ρ key} {k : κ} :
    t.find? k = none ↔ k ∉ t.rows.map key := by
  simp [find?, List.find?_eq_none]

/-! ### Insertion -/

theorem insert?_eq_some {t t' : Table κ ρ key} {r : ρ} (h : t.insert? r = some t') :
    t.find? (key r) = none ∧ t'.rows = t.rows ++ [r] := by
  unfold insert? at h
  split at h
  · rename_i hfresh
    cases h
    exact ⟨find?_eq_none.mpr hfresh, rfl⟩
  · cases h

theorem insert?_isSome {t : Table κ ρ key} {r : ρ} (h : t.find? (key r) = none) :
    ∃ t', t.insert? r = some t' := by
  unfold insert?
  rw [dif_pos (find?_eq_none.mp h)]
  exact ⟨_, rfl⟩

theorem find?_insert? {t t' : Table κ ρ key} {r : ρ} (h : t.insert? r = some t') (k : κ) :
    t'.find? k = if key r = k then some r else t.find? k := by
  obtain ⟨hfresh, hrows⟩ := insert?_eq_some h
  split
  · rename_i hk
    exact find?_eq_some.mpr ⟨by simp [hrows], hk⟩
  · rename_i hk
    simp only [find?, hrows, List.find?_append, List.find?_singleton, decide_eq_true_eq, hk,
      if_false, Option.or_none]

theorem find?_put (t : Table κ ρ key) (r : ρ) (k : κ) :
    (t.put r).find? k = if key r = k then some r else t.find? k := by
  split
  · rename_i hk
    exact find?_eq_some.mpr ⟨List.mem_append_right _ (List.mem_singleton_self r), hk⟩
  · rename_i hk
    -- the rows with another key are still there
    have hsame : ∀ r', key r' = k → (r' ∈ (t.put r).rows ↔ r' ∈ t.rows) := by
      rintro r' rfl
      rw [put, List.mem_append, List.mem_filter, List.mem_singleton]
      constructor
      · rintro (⟨hmem, -⟩ | rfl)
        · exact hmem
        · exact absurd rfl hk
      · exact fun hmem => .inl ⟨hmem, by simpa using Ne.symm hk⟩
    ext r'
    rw [find?_eq_some, find?_eq_some]
    exact and_congr_left (hsame r')

/-! ### Update -/

theorem find?_update (t : Table κ ρ key) (cond : ρ → Bool) (f : ρ → ρ) (hf : ∀ r, key (f r) = key r)
    (k : κ) : (t.update cond f hf).find? k = (t.find? k).map fun r => if cond r then f r else r := by
  have hkey : ∀ r, decide (key (if cond r then f r else r) = k) = decide (key r = k) := by
    intro r
    split
    · rw [hf r]
    · rfl
  simp only [find?, update, List.find?_map, Function.comp_def, hkey]

theorem find?_modify (t : Table κ ρ key) (k : κ) (f : ρ → ρ) (hf : ∀ r, key (f r) = key r)
    (k' : κ) :
    (t.modify k f hf).find? k' = if k' = k then (t.find? k').map f else t.find? k' := by
  rw [modify, find?_update]
  cases hfind : t.find? k' with
  | none => simp
  | some r =>
    have hr := key_of_find? hfind
    by_cases hk : k' = k
    · simp [hr, hk]
    · simp [hr, hk]

theorem modify_of_none {t : Table κ ρ key} {k : κ} {f : ρ → ρ} (hf : ∀ r, key (f r) = key r)
    (h : t.find? k = none) : t.modify k f hf = t := by
  have hother : ∀ r ∈ t.rows, (if decide (key r = k) then f r else r) = r := by
    intro r hr
    have hk : key r ≠ k := fun hk => find?_eq_none.mp h (List.mem_map.mpr ⟨r, hr, hk⟩)
    simp [hk]
  apply eq_of_rows
  exact (List.map_congr_left hother).trans (List.map_id' t.rows)

/-! ### Rows of another type -/

section

variable {ρ' : Type} {key' : ρ' → κ} {f : ρ → ρ'} {hf : ∀ r, key' (f r) = key r}

theorem find?_map (t : Table κ ρ key) (k : κ) : (t.map f hf).find? k = (t.find? k).map f := by
  simp only [find?, map, List.find?_map, Function.comp_def, hf]

/-- Inserting before or after the change. -/
theorem insert?_map (t : Table κ ρ key) (r : ρ) :
    (t.map f hf).insert? (f r) = (t.insert? r).map fun t' => t'.map f hf := by
  cases hins : t.insert? r with
  | none =>
    have htaken : ¬ t.find? (key r) = none := by
      intro hnone
      obtain ⟨t', ht'⟩ := insert?_isSome hnone
      rw [hins] at ht'
      cases ht'
    have htaken' : ¬ (t.map f hf).find? (key' (f r)) = none := by
      rwa [find?_map, hf, Option.map_eq_none_iff]
    cases hins' : (t.map f hf).insert? (f r) with
    | none => rfl
    | some t' => exact absurd (insert?_eq_some hins').1 htaken'
  | some t' =>
    obtain ⟨hfresh, hrows⟩ := insert?_eq_some hins
    have hfresh' : (t.map f hf).find? (key' (f r)) = none := by
      rw [find?_map, hf, hfresh]
      rfl
    obtain ⟨t'', ht''⟩ := insert?_isSome hfresh'
    have hsame : t'' = t'.map f hf := by
      apply eq_of_rows
      have hmap : (t'.map f hf).rows = t'.rows.map f := rfl
      rw [(insert?_eq_some ht'').2, hmap, hrows, List.map_append]
      rfl
    rw [ht'', hsame]
    rfl

/-- Updating before or after the change, if the two updates do the same to the row with the key. -/
theorem map_modify {t : Table κ ρ key} {k : κ} {g : ρ → ρ} {g' : ρ' → ρ'} (hg : ∀ r, key (g r) = key r)
    (hg' : ∀ r, key' (g' r) = key' r) (hsame : ∀ r, t.find? k = some r → f (g r) = g' (f r)) :
    (t.modify k g hg).map f hf = (t.map f hf).modify k g' hg' := by
  apply eq_of_rows
  simp only [map, modify, update, List.map_map]
  apply List.map_congr_left
  intro r hr
  simp only [Function.comp_apply, hf, decide_eq_true_eq]
  split
  · rename_i hk
    exact hsame r (find?_eq_some.mpr ⟨hr, hk⟩)
  · rfl

end

/-! ### Counting -/

/-- The rows with one key, counted. -/
theorem countP_filter_key (t : Table κ ρ key) (p : ρ → Bool) (k : κ) :
    (t.rows.filter fun r => key r = k).countP p = if (t.find? k).any p then 1 else 0 := by
  cases hfind : t.find? k with
  | none =>
    have hempty : (t.rows.filter fun r => key r = k) = [] := by
      rw [List.filter_eq_nil_iff]
      intro r hr hkey
      exact find?_eq_none.mp hfind (List.mem_map.mpr ⟨r, hr, by simpa using hkey⟩)
    rw [hempty]
    rfl
  | some r =>
    obtain ⟨hr, hkey⟩ := find?_eq_some.mp hfind
    have hone : (t.rows.filter fun r => key r = k) = [r] := by
      have hnodup : (t.rows.filter fun r => key r = k).Nodup := (t.nodup.of_map key).filter _
      have hall : ∀ r' ∈ t.rows.filter fun r => key r = k, r' = r := by
        intro r' hr'
        obtain ⟨hmem, hkey'⟩ := List.mem_filter.mp hr'
        have hkey' : key r' = k := by simpa using hkey'
        exact List.inj_on_of_nodup_map t.nodup hmem hr (hkey'.trans hkey.symm)
      have hmem : r ∈ t.rows.filter fun r => key r = k :=
        List.mem_filter.mpr ⟨hr, by simpa using hkey⟩
      exact List.perm_singleton.mp ((List.perm_ext_iff_of_nodup hnodup (List.nodup_singleton r)).mpr
        fun r' =>
          ⟨fun h => List.mem_singleton.mpr (hall r' h), fun h => List.mem_singleton.mp h ▸ hmem⟩)
    rw [hone, List.countP_singleton]
    rfl

/-- Two tables with the same row under every key have the same rows. -/
theorem perm_of_find?_eq {t t' : Table κ ρ key} (h : ∀ k, t'.find? k = t.find? k) :
    t'.rows.Perm t.rows := by
  refine (List.perm_ext_iff_of_nodup (t'.nodup.of_map key) (t.nodup.of_map key)).mpr fun r => ?_
  constructor
  · intro hr
    exact (find?_eq_some.mp (h (key r) ▸ find?_of_mem hr)).1
  · intro hr
    exact (find?_eq_some.mp ((h (key r)).symm ▸ find?_of_mem hr)).1

/-- Two tables that differ at one key only: the counts differ by what is there. -/
theorem countP_of_find?_eq {t t' : Table κ ρ key} {k : κ}
    (hothers : ∀ k', k' ≠ k → t'.find? k' = t.find? k') (p : ρ → Bool) :
    t'.rows.countP p + (if (t.find? k).any p then 1 else 0) =
      t.rows.countP p + if (t'.find? k).any p then 1 else 0 := by
  have hsplit : ∀ t : Table κ ρ key, t.rows.countP p =
      (t.rows.filter fun r => key r = k).countP p + (t.rows.filter fun r => ¬ key r = k).countP p := by
    intro t
    have := List.countP_eq_countP_filter_add t.rows p (fun r => key r = k)
    simpa using this
  -- the rows with other keys are the same
  have hfind : ∀ k', (t'.filter fun r => ¬ key r = k).find? k' =
    (t.filter fun r => ¬ key r = k).find? k' := by
    intro k'
    ext r
    rw [find?_eq_some, find?_eq_some]
    simp only [filter, List.mem_filter, decide_eq_true_eq]
    constructor
    · rintro ⟨⟨hr, hne⟩, rfl⟩
      exact ⟨⟨(find?_eq_some.mp (hothers (key r) hne ▸ find?_of_mem hr)).1, hne⟩, rfl⟩
    · rintro ⟨⟨hr, hne⟩, rfl⟩
      exact ⟨⟨(find?_eq_some.mp ((hothers (key r) hne).symm ▸ find?_of_mem hr)).1, hne⟩, rfl⟩
  have hrest : (t'.rows.filter fun r => ¬ key r = k).Perm (t.rows.filter fun r => ¬ key r = k) :=
    perm_of_find?_eq hfind
  rw [hsplit t, hsplit t', countP_filter_key, countP_filter_key, hrest.countP_eq]
  omega

end Table

end Keyed
