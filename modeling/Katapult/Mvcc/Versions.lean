/-
  Katapult.Mvcc.Versions

  Rows under READ COMMITTED, for any number of transactions.

  A table that rows are inserted into and deleted from keeps every version of a
  row, with the transaction that has inserted it and the one that has deleted it.
  A statement that deletes finds the versions that count when it begins (`scan`),
  and then comes to them one by one (`remove`).  It waits for a transaction that
  has deleted a version and is still under way; but it does not see what that
  transaction has inserted, also when it goes on after the other has committed.

  A row that is only updated is a `Cell`: it belongs to one transaction at a time,
  from its first write until that transaction ends.
-/

import Mathlib.Data.List.Basic

namespace Mvcc

inductive TxStatus where
  | active | committed | aborted
  deriving DecidableEq

variable {τ ρ : Type}

/-- The transactions whose work a statement of `me` sees: committed ones, and its own. -/
def sees [DecidableEq τ] (status : τ → TxStatus) (me t : τ) : Bool := t = me || status t = .committed

/-- The transactions that `me` may have to wait for. -/
def busy [DecidableEq τ] (status : τ → TxStatus) (me t : τ) : Bool := t ≠ me && status t = .active

/-! ## Versions -/

structure Version (τ ρ : Type) where
  row : ρ
  /-- The transaction that has inserted the row; `none` if it was there before. -/
  xmin : Option τ
  /-- The transaction that has deleted the row. -/
  xmax : Option τ
  deriving DecidableEq

namespace Version

/-- The row is there, for one who sees the work of these transactions. -/
def visible (seen : τ → Bool) (v : Version τ ρ) : Bool := v.xmin.all seen && !v.xmax.any seen

theorem visible_eq (seen : τ → Bool) (v : Version τ ρ) :
    v.visible seen = (v.xmin.all seen && !v.xmax.any seen) :=
  rfl

/-- Whether the row is there is still up to another transaction. -/
def undecided [DecidableEq τ] (status : τ → TxStatus) (me : τ) (v : Version τ ρ) : Bool :=
  v.xmin.any (busy status me) || (v.xmin.all (sees status me) && v.xmax.any (busy status me))

/-- Delete the row, unless the one who has deleted it before has committed. -/
def remove (status : τ → TxStatus) (me : τ) (v : Version τ ρ) : Version τ ρ :=
  -- after a rollback of the other, the row is there again and is deleted now
  if v.xmax.any (status · = .committed) then v else { v with xmax := some me }

@[simp] theorem remove_row (status : τ → TxStatus) (me : τ) (v : Version τ ρ) :
    (v.remove status me).row = v.row := by
  unfold remove
  split <;> rfl

@[simp] theorem remove_xmin (status : τ → TxStatus) (me : τ) (v : Version τ ρ) :
    (v.remove status me).xmin = v.xmin := by
  unfold remove
  split <;> rfl

/-- Afterwards the row is deleted, by this transaction or by a committed one. -/
theorem remove_xmax (status : τ → TxStatus) (me : τ) (v : Version τ ρ) :
    (v.remove status me).xmax = some me ∧ (∀ t, v.xmax = some t → status t ≠ .committed) ∨
      (v.remove status me).xmax = v.xmax ∧ ∃ t, v.xmax = some t ∧ status t = .committed := by
  unfold remove
  split
  · rename_i hgone
    obtain ⟨t, ht, hcommitted⟩ := (Option.any_eq_true _ _).mp hgone
    exact .inr ⟨rfl, t, ht, of_decide_eq_true hcommitted⟩
  · rename_i hgone
    refine .inl ⟨rfl, fun t ht hcommitted => hgone ?_⟩
    rw [ht, Option.any_some]
    exact decide_eq_true hcommitted

end Version

/-- The numbers of the rows that a statement finds when it begins. -/
def scan (seen : τ → Bool) (cond : ρ → Bool) (t : List (Version τ ρ)) : List Nat :=
  (List.range t.length).filter fun n => t[n]?.any fun v => v.visible seen && cond v.row

theorem mem_scan {seen : τ → Bool} {cond : ρ → Bool} {t : List (Version τ ρ)} {n : Nat} :
    n ∈ scan seen cond t ↔ ∃ v, t[n]? = some v ∧ v.visible seen = true ∧ cond v.row = true := by
  rw [scan, List.mem_filter, List.mem_range, Option.any_eq_true]
  constructor
  · rintro ⟨-, v, hv, hfound⟩
    exact ⟨v, hv, by simpa using hfound⟩
  · rintro ⟨v, hv, hfound⟩
    exact ⟨(List.getElem?_eq_some_iff.mp hv).1, v, hv, by simpa using hfound⟩

/-- Delete the row of a number. -/
def remove (status : τ → TxStatus) (me : τ) (n : Nat) (t : List (Version τ ρ)) : List (Version τ ρ) :=
  t.modify n (Version.remove status me)

theorem getElem?_remove (status : τ → TxStatus) (me : τ) (n : Nat) (t : List (Version τ ρ)) (k : Nat) :
    (remove status me n t)[k]? = if n = k then t[k]?.map (Version.remove status me) else t[k]? := by
  rw [remove, List.getElem?_modify]
  split
  · rfl
  · exact Option.map_id'

/-- A version afterwards is one from before, and the number `n` has been deleted. -/
theorem remove_cases {status : τ → TxStatus} {me : τ} {n k : Nat} {t : List (Version τ ρ)}
    {v' : Version τ ρ} (h : (remove status me n t)[k]? = some v') :
    ∃ v, t[k]? = some v ∧ v'.row = v.row ∧ v'.xmin = v.xmin ∧
      (n ≠ k ∧ v'.xmax = v.xmax ∨ n = k ∧
        (v'.xmax = some me ∧ (∀ tx, v.xmax = some tx → status tx ≠ .committed) ∨
          v'.xmax = v.xmax ∧ ∃ tx, v.xmax = some tx ∧ status tx = .committed)) := by
  rw [getElem?_remove] at h
  by_cases hk : n = k
  · rw [if_pos hk] at h
    obtain ⟨v, hv, rfl⟩ := Option.map_eq_some_iff.mp h
    exact ⟨v, hv, v.remove_row status me, v.remove_xmin status me, .inr ⟨hk, v.remove_xmax status me⟩⟩
  · rw [if_neg hk] at h
    exact ⟨v', h, rfl, rfl, .inl ⟨hk, rfl⟩⟩

/-- What a deletion leaves alone. -/
theorem map_remove_of {α : Type} {f : Version τ ρ → α} {status : τ → TxStatus} {me : τ}
    (hf : ∀ v : Version τ ρ, f (v.remove status me) = f v) (n : Nat) (t : List (Version τ ρ)) :
    (remove status me n t).map f = t.map f := by
  refine List.ext_getElem? fun k => ?_
  rw [List.getElem?_map, List.getElem?_map, getElem?_remove]
  split
  · rw [Option.map_map]
    exact congrArg (fun g => t[k]?.map g) (funext hf)
  · rfl

theorem map_remove {α : Type} (f : Version τ ρ → α) (hf : ∀ v xmax, f { v with xmax } = f v)
    (status : τ → TxStatus) (me : τ) (n : Nat) (t : List (Version τ ρ)) :
    (remove status me n t).map f = t.map f := by
  refine map_remove_of (fun v => ?_) n t
  rw [Version.remove]
  split
  · rfl
  · exact hf v _

/-- Insert a row. -/
def insert (me : τ) (row : ρ) (t : List (Version τ ρ)) : List (Version τ ρ) :=
  t ++ [⟨row, some me, none⟩]

theorem getElem?_insert {me : τ} {row : ρ} {t : List (Version τ ρ)} {n : Nat} {v : Version τ ρ}
    (h : (insert me row t)[n]? = some v) :
    t[n]? = some v ∨ n = t.length ∧ v = ⟨row, some me, none⟩ := by
  rw [insert, List.getElem?_append] at h
  split at h
  · exact .inl h
  · rw [List.getElem?_singleton] at h
    split at h
    · exact .inr ⟨by omega, (Option.some.inj h).symm⟩
    · cases h

/-- The rows that are stored for good. -/
def stored (status : τ → TxStatus) (t : List (Version τ ρ)) : List ρ :=
  (t.filter (Version.visible fun tx => status tx = .committed)).map Version.row

/-! ### What is stored -/

/-- The transactions whose work is stored for good. -/
def isCommitted (status : τ → TxStatus) (tx : τ) : Bool := status tx = .committed

/-- The stored rows that satisfy `cond`. -/
theorem filter_stored (status : τ → TxStatus) (cond : ρ → Bool) (t : List (Version τ ρ)) :
    (stored status t).filter cond =
      (t.filter fun v => v.visible (isCommitted status) && cond v.row).map Version.row := by
  rw [stored, List.filter_map, List.filter_filter]
  refine congrArg (List.map _) (List.filter_congr fun v _ => ?_)
  rw [Function.comp_apply, Bool.and_comm]
  rfl

/-- It goes by what each version is, and whether it counts. -/
theorem stored_congr {status status' : τ → TxStatus} {t t' : List (Version τ ρ)}
    (h : (t.map fun v => (v.visible (isCommitted status), v.row)) =
      t'.map fun v => (v.visible (isCommitted status'), v.row)) :
    stored status t = stored status' t' := by
  have heq : ∀ (status : τ → TxStatus) (t : List (Version τ ρ)), stored status t =
      ((t.map fun v => (v.visible (isCommitted status), v.row)).filter Prod.fst).map Prod.snd := by
    intro status t
    rw [List.filter_map, List.map_map]
    rfl
  rw [heq, heq, h]

section

variable {status : τ → TxStatus} {me : τ}

/-- What a transaction deletes is stored until it commits. -/
theorem stored_remove (hme : status me ≠ .committed) (n : Nat) (t : List (Version τ ρ)) :
    stored status (remove status me n t) = stored status t := by
  refine stored_congr (map_remove_of (fun v => Prod.ext ?_ (v.remove_row status me)) n t)
  rcases v.remove_xmax status me with ⟨hmine, hothers⟩ | ⟨hsame, -⟩
  · have hold : v.xmax.any (isCommitted status) = false := by
      rw [Option.any_eq_false_iff_get]
      intro hsome
      exact decide_eq_false (hothers _ (Option.some_get hsome).symm)
    simp only [Version.visible_eq, Version.remove_xmin, hmine, hold, Option.any_some, isCommitted,
      decide_eq_false hme]
  · simp only [Version.visible_eq, Version.remove_xmin, hsame]

/-- What it inserts is not stored until then. -/
theorem stored_insert (hme : status me ≠ .committed) (row : ρ) (t : List (Version τ ρ)) :
    stored status (insert me row t) = stored status t := by
  rw [stored, insert, List.filter_append, stored]
  simp [Version.visible_eq, hme]

variable [DecidableEq τ]

theorem isCommitted_abort (hme : status me ≠ .committed) :
    isCommitted (Function.update status me .aborted) = isCommitted status := by
  funext tx
  by_cases htx : tx = me
  · subst htx
    simp [isCommitted, hme]
  · rw [isCommitted, isCommitted, Function.update_of_ne htx]

/-- A transaction that gives up changes nothing. -/
theorem stored_abort (hme : status me ≠ .committed) (t : List (Version τ ρ)) :
    stored (Function.update status me .aborted) t = stored status t :=
  stored_congr (by rw [isCommitted_abort hme])

/-- Whether a row counts is not up to a transaction that has not come near it. -/
theorem visible_update {v : Version τ ρ} (hmin : v.xmin ≠ some me) (hmax : v.xmax ≠ some me)
    (s : TxStatus) :
    v.visible (isCommitted (Function.update status me s)) = v.visible (isCommitted status) := by
  have hsame : ∀ tx : Option τ, tx ≠ some me → ∀ t ∈ tx,
      isCommitted (Function.update status me s) t = isCommitted status t := by
    rintro _ hne t rfl
    rw [isCommitted, isCommitted, Function.update_of_ne fun ht => hne (congrArg some ht)]
  have hins := hsame v.xmin hmin
  have hdel := hsame v.xmax hmax
  rw [Version.visible_eq, Version.visible_eq]
  cases hxmin : v.xmin <;> cases hxmax : v.xmax <;> simp_all

/-- A transaction commits: rows that it has not come near are as they were. -/
theorem filter_stored_commit_of_untouched {cond : ρ → Bool} {t : List (Version τ ρ)}
    (h : ∀ v ∈ t, cond v.row = true → v.xmin ≠ some me ∧ v.xmax ≠ some me) :
    (stored (Function.update status me .committed) t).filter cond = (stored status t).filter cond := by
  rw [filter_stored, filter_stored]
  refine congrArg (List.map _) (List.filter_congr fun v hv => ?_)
  cases hcond : cond v.row with
  | false => rw [Bool.and_false, Bool.and_false]
  | true =>
    obtain ⟨hmin, hmax⟩ := h v hv hcond
    rw [visible_update hmin hmax]

/-- The rows that a transaction has inserted. -/
def insertedBy (me : τ) (t : List (Version τ ρ)) : List ρ :=
  (t.filter fun v => v.xmin = some me).map Version.row

theorem mem_insertedBy {t : List (Version τ ρ)} {r : ρ} :
    r ∈ insertedBy me t ↔ ∃ v ∈ t, v.xmin = some me ∧ v.row = r := by
  simp only [insertedBy, List.mem_map, List.mem_filter, decide_eq_true_eq, and_assoc]

theorem insertedBy_remove (tx me : τ) (n : Nat) (t : List (Version τ ρ)) :
    insertedBy tx (remove status me n t) = insertedBy tx t := by
  have heq : ∀ t : List (Version τ ρ), insertedBy tx t =
      ((t.map fun v => (v.xmin, v.row)).filter fun o => o.1 = some tx).map Prod.snd := by
    intro t
    rw [List.filter_map, List.map_map]
    rfl
  rw [heq, heq, map_remove (fun v => (v.xmin, v.row)) (fun _ _ => rfl)]

theorem insertedBy_insert (tx me : τ) (row : ρ) (t : List (Version τ ρ)) :
    insertedBy tx (insert me row t) = insertedBy tx t ++ if me = tx then [row] else [] := by
  rw [insertedBy, insert, List.filter_append, List.map_append, insertedBy]
  congr 1
  by_cases htx : me = tx <;> simp [htx]

/-- Where it has deleted all that was stored, what it has inserted is left. -/
theorem filter_stored_commit_of_replaced {cond : ρ → Bool} {t : List (Version τ ρ)}
    (hcleared : ∀ v ∈ t, cond v.row = true → v.visible (isCommitted status) = true →
      v.xmax = some me)
    (hown : ∀ v ∈ t, v.xmin = some me → cond v.row = true ∧ v.xmax = none) :
    (stored (Function.update status me .committed) t).filter cond = insertedBy me t := by
  have hme : isCommitted (Function.update status me .committed) me = true := by simp [isCommitted]
  rw [filter_stored]
  refine congrArg (List.map _) (List.filter_congr fun v hv => ?_)
  rw [Bool.eq_iff_iff, Bool.and_eq_true, decide_eq_true_eq]
  constructor
  · rintro ⟨hvisible, hcond⟩
    by_contra hmin
    have hmax : v.xmax ≠ some me := by
      intro hmax
      rw [Version.visible_eq, hmax, Option.any_some, hme, Bool.not_true, Bool.and_false] at hvisible
      cases hvisible
    -- it was stored before, so that it has been deleted since
    rw [visible_update hmin hmax] at hvisible
    exact hmax (hcleared v hv hcond hvisible)
  · intro hmin
    obtain ⟨hcond, hmax⟩ := hown v hv hmin
    refine ⟨?_, hcond⟩
    rw [Version.visible_eq, hmin, hmax, Option.all_some, hme]
    rfl

end

/-! ## Cells -/

section

variable [DecidableEq τ]

structure Cell (τ ρ : Type) where
  /-- The committed content; `none` for a row that is not committed yet. -/
  row : Option ρ
  /-- The transaction that the row belongs to, and what it has written. -/
  draft : Option (τ × ρ)

namespace Cell

/-- What a statement of `me` finds. -/
def seenBy (me : τ) (c : Cell τ ρ) : Option ρ :=
  match c.draft with
  | some (t, r) => if t = me then some r else c.row
  | none => c.row

/-- The row belongs to another transaction. -/
def heldFrom (me : τ) (c : Cell τ ρ) : Bool := c.draft.any fun d => d.1 ≠ me

/-- Some content of the row, committed or not, satisfies `cond`. -/
def mentions (cond : ρ → Bool) (c : Cell τ ρ) : Bool := c.row.any cond || c.draft.any fun d => cond d.2

/-- Write to the row, if what `me` finds satisfies `cond`. -/
def write (me : τ) (cond : ρ → Bool) (set : ρ → ρ) (c : Cell τ ρ) : Cell τ ρ :=
  match c.seenBy me with
  | some r => if cond r then { c with draft := some (me, set r) } else c
  | none => c

/-- A transaction commits what it has written. -/
def commit (me : τ) (c : Cell τ ρ) : Cell τ ρ :=
  match c.draft with
  | some (t, r) => if t = me then ⟨some r, none⟩ else c
  | none => c

/-- A transaction gives up what it has written. -/
def rollback (me : τ) (c : Cell τ ρ) : Cell τ ρ :=
  match c.draft with
  | some (t, _) => if t = me then { c with draft := none } else c
  | none => c

/-- The row has this content, committed or not. -/
def Contains (c : Cell τ ρ) (r : ρ) : Prop := c.row = some r ∨ ∃ t, c.draft = some (t, r)

variable {me : τ} {c : Cell τ ρ} {r : ρ}

theorem contains_of_seenBy (h : c.seenBy me = some r) : c.Contains r := by
  unfold seenBy at h
  split at h
  · rename_i t r' hdraft
    split at h
    · exact .inr ⟨t, by rw [hdraft, Option.some.inj h]⟩
    · exact .inl h
  · exact .inl h

/-- A committed row is found. -/
theorem seenBy_isSome (me : τ) (hrow : c.row = some r) : ∃ r', c.seenBy me = some r' := by
  unfold seenBy
  split
  · rename_i t r' _
    by_cases ht : t = me
    · exact ⟨r', if_pos ht⟩
    · exact ⟨r, (if_neg ht).trans hrow⟩
  · exact ⟨r, hrow⟩

omit [DecidableEq τ] in
theorem mentions_of_row {cond : ρ → Bool} (hrow : c.row = some r) (hcond : cond r = true) :
    c.mentions cond = true := by
  rw [mentions, hrow, Option.any_some, hcond, Bool.true_or]

theorem row_write (me : τ) (cond : ρ → Bool) (set : ρ → ρ) (c : Cell τ ρ) :
    (c.write me cond set).row = c.row := by
  unfold write
  split
  · split <;> rfl
  · rfl

/-- A write makes a draft, or none. -/
theorem draft_write (me : τ) (cond : ρ → Bool) (set : ρ → ρ) (c : Cell τ ρ) :
    (c.write me cond set).draft = c.draft ∨
      ∃ r, c.Contains r ∧ cond r = true ∧ (c.write me cond set).draft = some (me, set r) := by
  unfold write
  split
  · rename_i r hseen
    split
    · rename_i hcond
      exact .inr ⟨r, contains_of_seenBy hseen, hcond, rfl⟩
    · exact .inl rfl
  · exact .inl rfl

theorem write_of_seenBy {cond : ρ → Bool} {set : ρ → ρ} (hseen : c.seenBy me = some r)
    (hcond : cond r = true) : (c.write me cond set).draft = some (me, set r) := by
  rw [write, hseen]
  simp only [hcond, if_true]

theorem contains_write {cond : ρ → Bool} {set : ρ → ρ} (h : (c.write me cond set).Contains r) :
    c.Contains r ∨ ∃ old, c.Contains old ∧ cond old = true ∧ r = set old := by
  rcases h with hrow | ⟨t, hdraft⟩
  · rw [row_write] at hrow
    exact .inl (.inl hrow)
  · rcases draft_write me cond set c with hsame | ⟨old, hold, hcond, hnew⟩
    · exact .inl (.inr ⟨t, hsame ▸ hdraft⟩)
    · rw [hnew] at hdraft
      cases hdraft
      exact .inr ⟨old, hold, hcond, rfl⟩

/-- Who has not written to a row finds what is committed. -/
theorem seenBy_of_ne (h : ∀ r, c.draft ≠ some (me, r)) : c.seenBy me = c.row := by
  unfold seenBy
  split
  · rename_i t r hdraft
    refine if_neg fun ht => h r ?_
    rw [hdraft, ht]
  · rfl

theorem write_of_ne {cond : ρ → Bool} (set : ρ → ρ) (h : ∀ r, c.draft ≠ some (me, r))
    (hrow : c.row = some r) :
    c.write me cond set = if cond r then { c with draft := some (me, set r) } else c := by
  rw [write, seenBy_of_ne h, hrow]

/-- A transaction ends for the rows that it has written to. -/
theorem commit_cases (me : τ) (c : Cell τ ρ) :
    (∃ r, c.draft = some (me, r) ∧ c.commit me = ⟨some r, none⟩ ∧
      c.rollback me = { c with draft := none }) ∨
    (∀ r, c.draft ≠ some (me, r)) ∧ c.commit me = c ∧ c.rollback me = c := by
  unfold commit rollback
  split
  · rename_i t r hdraft
    by_cases ht : t = me
    · subst ht
      exact .inl ⟨r, hdraft, if_pos rfl, if_pos rfl⟩
    · refine .inr ⟨fun r' hr' => ?_, if_neg ht, if_neg ht⟩
      rw [hdraft] at hr'
      cases hr'
      exact ht rfl
  · rename_i hdraft
    refine .inr ⟨fun r hr => ?_, rfl, rfl⟩
    rw [hdraft] at hr
    cases hr

theorem row_rollback (me : τ) (c : Cell τ ρ) : (c.rollback me).row = c.row := by
  rcases commit_cases me c with ⟨r, -, -, hrollback⟩ | ⟨-, -, hrollback⟩ <;> rw [hrollback]

theorem contains_commit (h : (c.commit me).Contains r) : c.Contains r := by
  unfold commit at h
  split at h
  · rename_i t r' hdraft
    split at h
    · rcases h with hrow | ⟨t', hnone⟩
      · cases hrow
        exact .inr ⟨t, hdraft⟩
      · cases hnone
    · exact h
  · exact h

end Cell

end

end Mvcc
