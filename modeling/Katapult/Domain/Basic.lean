/-
  Katapult.Domain.Basic

  What every package shares: identifiers, instants, and errors.

  Identifiers come from a third-party package.  The code relies on two things
  about its text form: parsing the text of an identifier gives it back, and the
  text is never empty.  `UUIDText` states just that; `canonicalText` is the
  36-character form, for concrete runs.
-/

import Mathlib.Data.List.Basic
import Mathlib.Data.Rat.Defs
import Mathlib.Algebra.Ring.Nat

namespace Katapult

/-- The 128 bits of an identifier. -/
abbrev UUID := BitVec 128

/-- An error, by its text. -/
abbrev Err := String

/-- An instant, in nanoseconds since some epoch. -/
abbrev Time := Int

/-- A `time.Duration`, in nanoseconds. -/
abbrev Duration := Int

/-- The text form of identifiers. -/
class UUIDText where
  toText : UUID → String
  parse : String → Except Err UUID
  parse_toText : ∀ id, parse (toText id) = .ok id
  toText_ne_empty : ∀ id, toText id ≠ ""

section Text

variable [UUIDText]

/-- The source's `id.String()`. -/
def UUID.text (id : UUID) : String := UUIDText.toText id

theorem UUID.parse_text (id : UUID) : UUIDText.parse (UUID.text id) = .ok id :=
  UUIDText.parse_toText id

theorem UUID.text_ne_empty (id : UUID) : UUID.text id ≠ "" :=
  UUIDText.toText_ne_empty id

theorem UUID.text_injective {a b : UUID} (h : UUID.text a = UUID.text b) : a = b := by
  have hab := congrArg (UUIDText.parse) h
  rw [UUID.parse_text, UUID.parse_text] at hab
  exact Except.ok.inj hab

@[simp] theorem UUID.text_inj {a b : UUID} : UUID.text a = UUID.text b ↔ a = b :=
  ⟨UUID.text_injective, fun h => h ▸ rfl⟩

end Text

/-! ## The canonical text form -/

def hexDigit (n : Nat) : Char := if n < 10 then Char.ofNat (48 + n) else Char.ofNat (87 + n)

def hexValue (c : Char) : Nat := if c.toNat < 87 then c.toNat - 48 else c.toNat - 87

/-- The last `width` hexadecimal digits of `n`, most significant first. -/
def hexDigits : Nat → Nat → List Char
  | 0, _ => []
  | width + 1, n => hexDigits width (n / 16) ++ [hexDigit (n % 16)]

def ofHexDigits (ds : List Char) : Nat := ds.foldl (fun n c => 16 * n + hexValue c) 0

/-- Hyphens after digits 8, 12, 16 and 20. -/
def hyphenate (ds : List Char) : List Char :=
  ds.take 8 ++ '-' :: (ds.drop 8).take 4 ++ '-' :: (ds.drop 12).take 4 ++
    '-' :: (ds.drop 16).take 4 ++ '-' :: ds.drop 20

def canonicalString (id : UUID) : String := String.ofList (hyphenate (hexDigits 32 id.toNat))

theorem hexValue_hexDigit {n : Nat} (h : n < 16) : hexValue (hexDigit n) = n := by
  revert n
  decide

theorem hexDigit_ne_hyphen {n : Nat} (h : n < 16) : hexDigit n ≠ '-' := by
  revert n
  decide

theorem notMem_hexDigits {c : Char} (h : ∀ n < 16, hexDigit n ≠ c) (width n : Nat) :
    c ∉ hexDigits width n := by
  induction width generalizing n with
  | zero => simp [hexDigits]
  | succ width ih =>
    have hlast := h _ (Nat.mod_lt n (by decide : 0 < 16))
    simp [hexDigits, ih, hlast.symm]

theorem hyphen_notMem_hexDigits (width n : Nat) : '-' ∉ hexDigits width n :=
  notMem_hexDigits (fun _ => hexDigit_ne_hyphen) width n

/-- The text of an identifier consists of hexadecimal digits and hyphens. -/
theorem notMem_canonicalString {c : Char} (hc : c ≠ '-') (h : ∀ n < 16, hexDigit n ≠ c) (id : UUID) :
    c ∉ (canonicalString id).toList := by
  have hdigits := notMem_hexDigits h 32 id.toNat
  have hpart : ∀ a b, c ∉ ((hexDigits 32 id.toNat).drop a).take b :=
    fun a b hmem => hdigits (List.mem_of_mem_drop (List.mem_of_mem_take hmem))
  have hfirst : c ∉ (hexDigits 32 id.toNat).take 8 := fun hmem => hdigits (List.mem_of_mem_take hmem)
  have hlast : c ∉ (hexDigits 32 id.toNat).drop 20 := fun hmem => hdigits (List.mem_of_mem_drop hmem)
  rw [canonicalString, String.toList_ofList, hyphenate]
  simp only [List.mem_append, List.mem_cons, hfirst, hlast, hpart, hc, or_self, not_false_eq_true]

theorem ofHexDigits_hexDigits (width n : Nat) (h : n < 16 ^ width) :
    ofHexDigits (hexDigits width n) = n := by
  induction width generalizing n with
  | zero =>
    have hn : n = 0 := by omega
    simp [hexDigits, ofHexDigits, hn]
  | succ width ih =>
    have hdiv : n / 16 < 16 ^ width := by
      rw [Nat.div_lt_iff_lt_mul (by decide)]
      omega
    have hrec := ih (n / 16) hdiv
    have hlast := hexValue_hexDigit (Nat.mod_lt n (by decide : 0 < 16))
    simp only [ofHexDigits, hexDigits, List.foldl_append, List.foldl_cons, List.foldl_nil] at *
    rw [hrec, hlast]
    omega

theorem filter_hyphenate {ds : List Char} (h : '-' ∉ ds) :
    (hyphenate ds).filter (· ≠ '-') = ds := by
  have hkeep : ∀ l : List Char, l ⊆ ds → l.filter (· ≠ '-') = l := by
    intro l hl
    refine List.filter_eq_self.mpr fun c hc => ?_
    have hne : c ≠ '-' := fun he => h (he ▸ hl hc)
    simpa using hne
  have htake : ∀ a b, ((ds.drop a).take b).filter (· ≠ '-') = (ds.drop a).take b :=
    fun a b => hkeep _ fun _ hc => List.mem_of_mem_drop (List.mem_of_mem_take hc)
  have hfirst := hkeep (ds.take 8) fun _ hc => List.mem_of_mem_take hc
  have hlast := hkeep (ds.drop 20) fun _ hc => List.mem_of_mem_drop hc
  have hjoin : ds.take 8 ++ ((ds.drop 8).take 4 ++ ((ds.drop 12).take 4 ++
      ((ds.drop 16).take 4 ++ ds.drop 20))) = ds := by
    have hstep : ∀ a b, (ds.drop a).take b ++ ds.drop (a + b) = ds.drop a := fun a b => by
      rw [← List.drop_drop, List.take_append_drop]
    rw [hstep 16 4, hstep 12 4, hstep 8 4, List.take_append_drop]
  simp only [hyphenate, List.filter_append, List.append_assoc, List.cons_append,
    List.filter_cons, hfirst, hlast, htake]
  simpa using hjoin

/-- The 36-character form; text that is not in it is rejected. -/
@[reducible] def canonicalText : UUIDText where
  toText := canonicalString
  parse s :=
    let id : UUID := BitVec.ofNat 128 (ofHexDigits (s.toList.filter (· ≠ '-')))
    if canonicalString id = s then .ok id else .error "invalid UUID format"
  parse_toText id := by
    have hid : BitVec.ofNat 128 (ofHexDigits
        ((canonicalString id).toList.filter (· ≠ '-'))) = id := by
      rw [canonicalString, String.toList_ofList,
        filter_hyphenate (hyphen_notMem_hexDigits 32 id.toNat),
        ofHexDigits_hexDigits 32 id.toNat id.isLt, BitVec.ofNat_toNat, BitVec.setWidth_eq]
    simp only [hid, if_true]
  toText_ne_empty id h := by
    have hnil := congrArg String.toList h
    simp [canonicalString, hyphenate] at hnil

example : canonicalString 0x2a = "00000000-0000-0000-0000-00000000002a" := by decide

end Katapult
