/-
  Katapult.Web.Text

  Strings of the browser: sequences of UTF-16 code units, and the methods that
  the client calls on them.
-/

import Katapult.Framing.Cutter
import Mathlib.Data.List.DropRight

namespace Katapult

/-- A string, as its code units. -/
abbrev JsString := List UInt16

/-- The characters of a literal; the kernel takes long to decode one. -/
theorem not_mem_literal {c : Char} {cs : List Char} (h : c ∉ cs) : c ∉ (String.ofList cs).toList := by
  rw [String.toList_ofList]
  exact h

theorem not_mem_toList_append {c : Char} {s s' : String} (h : c ∉ s.toList) (h' : c ∉ s'.toList) :
    c ∉ (s ++ s').toList := by
  rw [String.toList_append, List.mem_append, not_or]
  exact ⟨h, h'⟩

/-- A line feed. -/
def lf : UInt16 := 10

/-- The code units of a character. -/
def utf16Char (c : Char) : JsString :=
  if c.toNat < 0x10000 then [UInt16.ofNat c.toNat]
  else [UInt16.ofNat (0xD800 + (c.toNat - 0x10000) / 0x400),
    UInt16.ofNat (0xDC00 + (c.toNat - 0x10000) % 0x400)]

/-- A text, as the browser holds it. -/
def utf16 (s : String) : JsString := s.toList.flatMap utf16Char

theorem utf16_append (s s' : String) : utf16 (s ++ s') = utf16 s ++ utf16 s' := by
  rw [utf16, String.toList_append, List.flatMap_append]
  rfl

/-- No character but the line feed has its code unit. -/
theorem eq_newline_of_lf {c : Char} (h : lf ∈ utf16Char c) : c = '\n' := by
  have hlt : c.toNat < 0x110000 := by
    rcases c.valid with hlow | ⟨-, hhigh⟩
    · exact lt_trans hlow (by decide)
    · exact hhigh
  -- a code unit that is written as a number below its range is that number
  have hunit : ∀ n, n < 0x10000 → lf = UInt16.ofNat n → n = 10 := by
    intro n hn hlf
    have hnat := congrArg UInt16.toNat hlf
    rw [UInt16.toNat_ofNat', Nat.mod_eq_of_lt hn] at hnat
    exact hnat.symm
  unfold utf16Char at h
  split at h
  · rename_i hsmall
    have hten := hunit _ hsmall (List.mem_singleton.mp h)
    exact Char.ext (UInt32.toNat_inj.mp hten)
  · -- the two halves of a pair lie above
    rename_i hlarge
    rcases List.mem_pair.mp h with hhigh | hlow
    · have := hunit _ (by omega) hhigh
      omega
    · have := hunit _ (by omega) hlow
      omega

theorem lf_not_mem_utf16 {s : String} (h : '\n' ∉ s.toList) : lf ∉ utf16 s := by
  intro hmem
  obtain ⟨c, hc, hlf⟩ := List.mem_flatMap.mp hmem
  rw [eq_newline_of_lf hlf] at hc
  exact h hc

/-- What `trim` takes off. -/
def isSpace (u : UInt16) : Bool :=
  decide (u ∈ [0x09, lf, 0x0B, 0x0C, 0x0D, 0x20, 0xA0, 0x1680, 0x2028, 0x2029, 0x202F, 0x205F, 0x3000,
    0xFEFF]) || decide (0x2000 ≤ u ∧ u ≤ 0x200A)

/-- The source's `s.trim()`. -/
def trim (s : JsString) : JsString := (s.dropWhile isSpace).rdropWhile isSpace

theorem trim_cons_of_space {u : UInt16} (h : isSpace u = true) (s : JsString) :
    trim (u :: s) = trim s := by
  rw [trim, List.dropWhile_cons_of_pos h]
  rfl

/-- Nothing is taken off a text that begins and ends with something else. -/
theorem trim_enclosed {u v : UInt16} (hu : isSpace u = false) (hv : isSpace v = false) (s : JsString) :
    trim (u :: (s ++ [v])) = u :: (s ++ [v]) := by
  have hu' : ¬ isSpace u = true := by
    rw [hu]
    decide
  have hv' : ¬ isSpace v = true := by
    rw [hv]
    decide
  rw [trim, List.dropWhile_cons_of_neg hu', ← List.cons_append, List.rdropWhile_concat_neg _ _ _ hv']

end Katapult
