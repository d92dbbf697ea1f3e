/-
  Katapult.Registry.Versions

  The gate for tar versions.

  `validateTarVersion_eq_ok_iff` says which texts pass: two numbers within 64
  bits, of which either may have a sign, and whatever stands behind a second dot.
  `versionGate_iff` says where that is what the gate is meant for.  On the
  versions that an agent can extract there are no signs, and only the length of a
  number makes a difference (`validateTools_of_verifyTools`).
-/

import Katapult.Agent.Tools
import Katapult.Registry.Service
import Mathlib.Data.List.Lex

namespace Katapult

/-! ## Parts between dots -/

/-- Two parts with a dot between them; what follows a second dot does not count. -/
inductive Dotted (major minor : List Char) : List Char → Prop where
  | two : Dotted major minor (major ++ '.' :: minor)
  | more (rest : List Char) : Dotted major minor (major ++ '.' :: (minor ++ '.' :: rest))

section SplitN

variable {sep : Char} {part rest cs : List Char} {n : Nat}

theorem splitN_of_not_mem (h : sep ∉ cs) : splitN sep (n + 1) cs = [cs] := by
  cases n with
  | zero => rfl
  | succ n =>
    have hcs : ∀ c ∈ cs, decide (c ≠ sep) = true :=
      fun c hc => decide_eq_true fun heq => h (heq ▸ hc)
    have hdrop : cs.dropWhile (· ≠ sep) = [] := by
      simpa using @List.dropWhile_append_of_pos _ (fun c => decide (c ≠ sep)) cs [] hcs
    rw [splitN, hdrop]

theorem splitN_append_cons (h : sep ∉ part) :
    splitN sep (n + 2) (part ++ sep :: rest) = part :: splitN sep (n + 1) rest := by
  have hpart : ∀ c ∈ part, decide (c ≠ sep) = true :=
    fun c hc => decide_eq_true fun heq => h (heq ▸ hc)
  have hdrop : (part ++ sep :: rest).dropWhile (· ≠ sep) = sep :: rest := by
    rw [List.dropWhile_append_of_pos hpart, List.dropWhile_cons_of_neg (by simp)]
  have htake : (part ++ sep :: rest).takeWhile (· ≠ sep) = part := by
    rw [List.takeWhile_append_of_pos hpart, List.takeWhile_cons_of_neg (by simp), List.append_nil]
  rw [splitN, hdrop, htake]

end SplitN

section Dotted

variable {major minor major' minor' cs : List Char}

theorem Dotted.splitN (h : Dotted major minor cs) (hmajor : '.' ∉ major) (hminor : '.' ∉ minor) :
    ∃ rest, splitN '.' 3 cs = major :: minor :: rest := by
  cases h with
  | two => exact ⟨[], by rw [splitN_append_cons hmajor, splitN_of_not_mem hminor]⟩
  | more rest =>
    exact ⟨[rest], by rw [splitN_append_cons hmajor, splitN_append_cons hminor]; rfl⟩

theorem dotted_of_splitN {rest : List (List Char)} (h : splitN '.' 3 cs = major :: minor :: rest) :
    Dotted major minor cs := by
  by_cases hdot : '.' ∈ cs
  · obtain ⟨major', tail, rfl, hmajor⟩ := List.eq_append_cons_of_mem hdot
    rw [splitN_append_cons hmajor] at h
    by_cases hsecond : '.' ∈ tail
    · obtain ⟨minor', last, rfl, hminor⟩ := List.eq_append_cons_of_mem hsecond
      rw [splitN_append_cons hminor] at h
      cases h
      exact .more last
    · rw [splitN_of_not_mem hsecond] at h
      cases h
      exact .two
  · rw [splitN_of_not_mem hdot] at h
    cases h

/-- There is only one way to cut a text at its dots. -/
theorem Dotted.unique (h : Dotted major minor cs) (h' : Dotted major' minor' cs)
    (hmajor : '.' ∉ major) (hminor : '.' ∉ minor) (hmajor' : '.' ∉ major') (hminor' : '.' ∉ minor') :
    major' = major ∧ minor' = minor := by
  obtain ⟨rest, hsplit⟩ := h.splitN hmajor hminor
  obtain ⟨rest', hsplit'⟩ := h'.splitN hmajor' hminor'
  rw [hsplit] at hsplit'
  cases hsplit'
  exact ⟨rfl, rfl⟩

end Dotted

/-! ## What passes -/

/-- At least 1.28. -/
def HighEnough (major minor : Int) : Prop := 1 < major ∨ major = 1 ∧ 28 ≤ minor

instance (major minor : Int) : Decidable (HighEnough major minor) :=
  inferInstanceAs (Decidable (_ ∨ _))

/-- The test of the source is the other way round. -/
theorem highEnough_iff {major minor : Int} :
    HighEnough major minor ↔
      ¬ (major < minTarMajor ∨ (major = minTarMajor ∧ minor < minTarMinor)) := by
  unfold HighEnough
  simp only [minTarMajor, minTarMinor]
  omega

/-- The text begins with two numbers, signs allowed, of which `P` holds. -/
def BeginsWith (v : String) (P : List Char → List Char → Int → Int → Prop) : Prop :=
  ∃ major minor M N, Dotted major minor v.toList ∧ Reads major M ∧ Reads minor N ∧ P major minor M N

theorem Numeral.no_dot {cs : List Char} (h : Numeral cs) : '.' ∉ cs := h.not_mem rfl

theorem Reads.no_dot {cs : List Char} {n : Int} (h : Reads cs n) : '.' ∉ cs :=
  h.not_mem rfl (by decide) (by decide)

theorem validateTarVersion_eq_ok_iff {v : String} :
    validateTarVersion v = .ok () ↔ BeginsWith v fun _ _ M N =>
      FitsInt M ∧ FitsInt N ∧ HighEnough M N := by
  rw [validateTarVersion_parts]
  constructor
  · rintro ⟨major, minor, rest, M, N, hsplit, hmajor, hminor, hhigh⟩
    obtain ⟨hreads, hfits⟩ := atoi_eq_some_iff.mp hmajor
    obtain ⟨hreads', hfits'⟩ := atoi_eq_some_iff.mp hminor
    refine ⟨major, minor, M, N, dotted_of_splitN hsplit, hreads, hreads', hfits, hfits', ?_⟩
    exact highEnough_iff.mpr hhigh
  · rintro ⟨major, minor, M, N, hdotted, hreads, hreads', hfits, hfits', hhigh⟩
    obtain ⟨rest, hsplit⟩ := hdotted.splitN hreads.no_dot hreads'.no_dot
    exact ⟨major, minor, rest, M, N, hsplit, atoi_eq_some_iff.mpr ⟨hreads, hfits⟩,
      atoi_eq_some_iff.mpr ⟨hreads', hfits'⟩, highEnough_iff.mp hhigh⟩

/-- Without signs, only the size of the numbers counts. -/
theorem validateTarVersion_of_numerals {v : String} {major minor : List Char}
    (hdotted : Dotted major minor v.toList) (hmajor : Numeral major) (hminor : Numeral minor) :
    validateTarVersion v = .ok () ↔ decimal major < 2 ^ 63 ∧ decimal minor < 2 ^ 63 ∧
      (1 < decimal major ∨ decimal major = 1 ∧ 28 ≤ decimal minor) := by
  rw [validateTarVersion_eq_ok_iff]
  constructor
  · rintro ⟨major', minor', M, N, hdotted', hreads, hreads', hfits, hfits', hhigh⟩
    obtain ⟨rfl, rfl⟩ := hdotted.unique hdotted' hmajor.no_dot hminor.no_dot hreads.no_dot
      hreads'.no_dot
    obtain ⟨-, rfl⟩ := hreads.plain_of_not_signed hmajor.not_signed
    obtain ⟨-, rfl⟩ := hreads'.plain_of_not_signed hminor.not_signed
    refine ⟨FitsInt.natCast_iff.mp hfits, FitsInt.natCast_iff.mp hfits', ?_⟩
    unfold HighEnough at hhigh
    omega
  · rintro ⟨hfits, hfits', hhigh⟩
    refine ⟨major, minor, _, _, hdotted, .plain hmajor, .plain hminor,
      FitsInt.natCast_iff.mpr hfits, FitsInt.natCast_iff.mpr hfits', ?_⟩
    unfold HighEnough
    omega

/-! ## What is meant to pass -/

/-- Two numerals of a version that is at least 1.28, and anything behind a second dot. -/
def Intended (v : String) : Prop :=
  ∃ major minor, Dotted major minor v.toList ∧ Numeral major ∧ Numeral minor ∧
    (1 < decimal major ∨ decimal major = 1 ∧ 28 ≤ decimal minor)

/-- The numbers of a version, in their order. -/
def versionNumbers (v : String) : List ℕ := (v.toList.splitOn '.').map decimal

/-- The gate takes what it is meant to take; of the versions that an agent can
    extract, these are the ones from 1.28 on. -/
structure VersionGate (v : String) : Prop where
  accepts : validateTarVersion v = .ok () ↔ Intended v
  extracted : (∃ tar, getTarVersion tar = .ok v) →
    (validateTarVersion v = .ok () ↔ [1, 28] ≤ versionNumbers v)

/-- A version with a sign that is high enough, as signed numbers of 64 bits go. -/
def SignedVersion (v : String) : Prop :=
  BeginsWith v fun major minor M N =>
    (Signed major ∨ Signed minor) ∧ FitsInt M ∧ FitsInt N ∧ HighEnough M N

/-- A version from 1 on with a number that takes more than 64 bits. -/
def LongVersion (v : String) : Prop :=
  ∃ major minor, Dotted major minor v.toList ∧ Numeral major ∧ Numeral minor ∧
    1 ≤ decimal major ∧ (2 ^ 63 ≤ decimal major ∨ 2 ^ 63 ≤ decimal minor)

theorem Numeral.ne_dot {cs : List Char} (h : Numeral cs) : ∀ c ∈ cs, (c == '.') = false :=
  fun _ hc => beq_false_of_ne fun heq => h.no_dot (heq ▸ hc)

theorem splitOn_numeral {cs rest : List Char} (h : Numeral cs) :
    (cs ++ '.' :: rest).splitOn '.' = cs :: rest.splitOn '.' := by
  rw [List.splitOn_eq_splitOnP, List.splitOn_eq_splitOnP]
  exact List.splitOnP_append_cons_of_forall_mem h.ne_dot '.' rfl rest

theorem splitOn_numeral_end {cs : List Char} (h : Numeral cs) : cs.splitOn '.' = [cs] := by
  rw [List.splitOn_eq_splitOnP]
  exact List.splitOnP_eq_singleton h.ne_dot

/-- The parts of a version that an agent can extract. -/
theorem numbers_of_matches {v : String} (h : tarVersionRe.Matches v.toList) :
    ∃ major minor rest, Dotted major minor v.toList ∧ Numeral major ∧ Numeral minor ∧
      versionNumbers v = decimal major :: decimal minor :: rest := by
  obtain ⟨major, minor, hmajor, hminor, hv | ⟨patch, hpatch, hv⟩⟩ := matches_tarVersionRe_iff.mp h
  · refine ⟨major, minor, [], hv ▸ .two, hmajor, hminor, ?_⟩
    rw [versionNumbers, hv, splitOn_numeral hmajor, splitOn_numeral_end hminor]
    rfl
  · refine ⟨major, minor, [decimal patch], hv ▸ .more patch, hmajor, hminor, ?_⟩
    rw [versionNumbers, hv, splitOn_numeral hmajor, splitOn_numeral hminor,
      splitOn_numeral_end hpatch]
    rfl

/-- In the order of versions, only the first two numbers are compared with 1.28. -/
theorem le_versionNumbers_iff {m n : ℕ} {rest : List ℕ} :
    [1, 28] ≤ m :: n :: rest ↔ 1 < m ∨ m = 1 ∧ 28 ≤ n := by
  -- nothing is before the empty list, so a third number is never looked at
  have hrest : ¬ List.Lex (· < ·) rest [] := nofun
  rw [← not_lt]
  show ¬ List.Lex (· < ·) (m :: n :: rest) [1, 28] ↔ _
  simp only [List.cons_lex_cons_iff, hrest, and_false, or_false]
  omega

/-- A version that an agent can extract is meant to pass if it is at least 1.28. -/
theorem intended_iff_of_matches {v : String} (h : tarVersionRe.Matches v.toList) :
    Intended v ↔ [1, 28] ≤ versionNumbers v := by
  obtain ⟨major, minor, rest, hdotted, hmajor, hminor, hnumbers⟩ := numbers_of_matches h
  rw [hnumbers, le_versionNumbers_iff]
  constructor
  · rintro ⟨major', minor', hdotted', hmajor', hminor', hhigh⟩
    obtain ⟨rfl, rfl⟩ := hdotted.unique hdotted' hmajor.no_dot hminor.no_dot hmajor'.no_dot
      hminor'.no_dot
    exact hhigh
  · intro hhigh
    exact ⟨major, minor, hdotted, hmajor, hminor, hhigh⟩

/-! ## The gate -/

theorem not_intended_of_signed {v : String} (h : SignedVersion v) : ¬ Intended v := by
  obtain ⟨major, minor, M, N, hdotted, hreads, hreads', hsigned, -⟩ := h
  rintro ⟨major', minor', hdotted', hmajor', hminor', -⟩
  obtain ⟨rfl, rfl⟩ := hdotted.unique hdotted' hreads.no_dot hreads'.no_dot hmajor'.no_dot
    hminor'.no_dot
  rcases hsigned with hsign | hsign
  · exact hmajor'.not_signed hsign
  · exact hminor'.not_signed hsign

theorem intended_of_long {v : String} (h : LongVersion v) : Intended v := by
  obtain ⟨major, minor, hdotted, hmajor, hminor, hone, hlong⟩ := h
  exact ⟨major, minor, hdotted, hmajor, hminor, by omega⟩

/-- A number that is too long is read as no number. -/
theorem rejects_of_long {v : String} (h : LongVersion v) : validateTarVersion v ≠ .ok () := by
  obtain ⟨major, minor, hdotted, hmajor, hminor, -, hlong⟩ := h
  rw [Ne, validateTarVersion_of_numerals hdotted hmajor hminor]
  omega

/-- The gate and its purpose part on two kinds of text only. -/
theorem accepts_iff_intended_iff {v : String} :
    (validateTarVersion v = .ok () ↔ Intended v) ↔ ¬ (SignedVersion v ∨ LongVersion v) := by
  constructor
  · rintro haccepts (hsigned | hlong)
    · obtain ⟨major, minor, M, N, hdotted, hreads, hreads', -, hpasses⟩ := id hsigned
      have hok := validateTarVersion_eq_ok_iff.mpr
        ⟨major, minor, M, N, hdotted, hreads, hreads', hpasses⟩
      exact not_intended_of_signed hsigned (haccepts.mp hok)
    · exact rejects_of_long hlong (haccepts.mpr (intended_of_long hlong))
  · intro hneither
    rw [not_or] at hneither
    obtain ⟨hsigned, hlong⟩ := hneither
    constructor
    · intro hok
      obtain ⟨major, minor, M, N, hdotted, hreads, hreads', hpasses⟩ :=
        validateTarVersion_eq_ok_iff.mp hok
      -- what passes without a sign passes on its numerals
      by_cases hsign : Signed major ∨ Signed minor
      · exact absurd ⟨major, minor, M, N, hdotted, hreads, hreads', hsign, hpasses⟩ hsigned
      · rw [not_or] at hsign
        obtain ⟨hmajor, -⟩ := hreads.plain_of_not_signed hsign.1
        obtain ⟨hminor, -⟩ := hreads'.plain_of_not_signed hsign.2
        have hhigh := ((validateTarVersion_of_numerals hdotted hmajor hminor).mp hok).2.2
        exact ⟨major, minor, hdotted, hmajor, hminor, hhigh⟩
    · rintro ⟨major, minor, hdotted, hmajor, hminor, hhigh⟩
      -- what is meant to pass is refused for the length of a number only
      have hshort : decimal major < 2 ^ 63 ∧ decimal minor < 2 ^ 63 := by
        by_contra hbeyond
        exact hlong ⟨major, minor, hdotted, hmajor, hminor, by omega, by omega⟩
      exact (validateTarVersion_of_numerals hdotted hmajor hminor).mpr ⟨hshort.1, hshort.2, hhigh⟩

/-- Every text: the gate does what it is meant to do exactly if the text is neither a
    version with a sign that is high enough, nor one from 1 on with a number of
    more than 64 bits. -/
theorem versionGate_iff (v : String) : VersionGate v ↔ ¬ (SignedVersion v ∨ LongVersion v) := by
  rw [← accepts_iff_intended_iff]
  refine ⟨VersionGate.accepts, fun haccepts => ⟨haccepts, fun hextracted => ?_⟩⟩
  rw [haccepts]
  exact intended_iff_of_matches (extractable_iff.mp hextracted)

/-- A version with a sign passes; one with a long number, which an agent can extract,
    does not. -/
theorem not_versionGate_samples :
    ¬ VersionGate "2.-5" ∧ ¬ VersionGate "1.9223372036854775808" := by
  have hsigned : SignedVersion "2.-5" := by
    refine ⟨['2'], ['-', '5'], 2, -5, ?_, .plain (by decide), .minus (by decide), .inr (.inr rfl),
      by decide⟩
    rw [String.toList_ofList]
    exact .two
  have hlong : LongVersion "1.9223372036854775808" := by
    refine ⟨['1'], "9223372036854775808".toList, ?_, by decide, ?_, by decide, ?_⟩
    · rw [String.toList_ofList, String.toList_ofList]
      exact .two
    · rw [String.toList_ofList]
      decide
    · rw [String.toList_ofList]
      decide
  exact ⟨fun h => accepts_iff_intended_iff.mp h.accepts (.inl hsigned),
    fun h => accepts_iff_intended_iff.mp h.accepts (.inr hlong)⟩

/-! ## From the node to the registry -/

/-- The tools of an agent that has found them all pass the registry exactly if its
    tar is at least 1.28, and its first two numbers are of 64 bits. -/
theorem validateTools_of_verifyTools {tar zstd stunnel : CommandResult} {tools : ToolVersions}
    (h : verifyTools tar zstd stunnel = (tools, none)) :
    validateTools tools = .ok () ↔ [1, 28] ≤ versionNumbers tools.tar ∧
      ∀ n ∈ (versionNumbers tools.tar).take 2, n < 2 ^ 63 := by
  obtain ⟨htar, hzstd, hstunnel⟩ := verifyTools_eq_none h
  have hmatches := extractable_iff.mp ⟨tar, htar⟩
  have hgate : validateTools tools = .ok () ↔ validateTarVersion tools.tar = .ok () := by
    -- of the other two tools, the registry asks only that there is a version
    have hzstd' := ne_empty_of_matches (getToolVersion_eq_ok hzstd)
    have hstunnel' := ne_empty_of_matches (getToolVersion_eq_ok hstunnel)
    rw [validateTools, toolErrors, if_neg (ne_empty_of_matches hmatches), if_neg hzstd',
      if_neg hstunnel', List.append_nil, List.append_nil]
    cases validateTarVersion tools.tar with
    | error err => exact ⟨nofun, nofun⟩
    | ok u => exact ⟨fun _ => rfl, fun _ => rfl⟩
  obtain ⟨major, minor, rest, hdotted, hmajor, hminor, hnumbers⟩ := numbers_of_matches hmatches
  rw [hgate, validateTarVersion_of_numerals hdotted hmajor hminor, hnumbers, le_versionNumbers_iff,
    List.take_succ_cons, List.take_succ_cons, List.take_zero, List.forall_mem_cons,
    List.forall_mem_singleton]
  constructor
  · rintro ⟨hfits, hfits', hhigh⟩
    exact ⟨hhigh, hfits, hfits'⟩
  · rintro ⟨hhigh, hfits, hfits'⟩
    exact ⟨hfits, hfits', hhigh⟩

end Katapult
