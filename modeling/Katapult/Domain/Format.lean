/-
  Katapult.Domain.Format

  The string functions and format verbs of the standard library that the code
  uses.  Floating-point values are exact rationals throughout the development; the
  ones that come from a client may also be infinite, or no number (`Float64`).
-/

import Katapult.Domain.Printable
import Mathlib.Data.List.Infix
import Mathlib.Algebra.Order.Floor.Defs
import Mathlib.Data.Rat.Floor

namespace Katapult

/-- `strings.Contains`. -/
def contains (s sub : String) : Bool := decide (sub.toList <:+: s.toList)

theorem append_ne_empty_of_left {a b : String} (h : a ≠ "") : a ++ b ≠ "" :=
  fun hab => h (String.append_eq_empty_iff.mp hab).1

theorem append_ne_empty_of_right {a b : String} (h : b ≠ "") : a ++ b ≠ "" :=
  fun hab => h (String.append_eq_empty_iff.mp hab).2

/-- An occurrence in a concatenation is in one part, or begins in the first and
    goes on in the second. -/
theorem contains_append {a b sub : String}
    (h : ∀ k < sub.toList.length, 0 < k →
      ¬ (sub.toList.take k <:+ a.toList ∧ sub.toList.drop k <+: b.toList)) :
    contains (a ++ b) sub = (contains a sub || contains b sub) := by
  simp only [contains, String.toList_append, ← Bool.decide_or, decide_eq_decide]
  rw [List.infix_append_iff_ne_nil]
  constructor
  · rintro (ha | hb | ⟨fst, snd, hfst, hsnd, hsub, hsuffix, hbegins⟩)
    · exact .inl ha
    · exact .inr hb
    · have hfst' := List.length_pos_iff.mpr hfst
      have hsnd' := List.length_pos_iff.mpr hsnd
      have hcut := h fst.length (by rw [hsub, List.length_append]; omega) hfst'
      rw [hsub, List.take_left, List.drop_left] at hcut
      exact absurd ⟨hsuffix, hbegins⟩ hcut
  · rintro (ha | hb)
    · exact .inl ha
    · exact .inr (.inl hb)

/-- When no end of the first part begins `sub`. -/
theorem contains_append_left {a b sub : String}
    (h : ∀ k < sub.toList.length, 0 < k → ¬ sub.toList.take k <:+ a.toList) :
    contains (a ++ b) sub = (contains a sub || contains b sub) :=
  contains_append fun k hk hpos hboth => h k hk hpos hboth.1

/-- When no beginning of the second part ends `sub`. -/
theorem contains_append_right {a b sub : String}
    (h : ∀ k < sub.toList.length, 0 < k → ¬ sub.toList.drop k <+: b.toList) :
    contains (a ++ b) sub = (contains a sub || contains b sub) :=
  contains_append fun k hk hpos hboth => h k hk hpos hboth.2

/-- `strconv.Atoi`: an optional sign and decimal digits, within 64 bits. -/
def atoi (cs : List Char) : Option Int :=
  let (negative, digits) :=
    match cs with
    | '-' :: ds => (true, ds)
    | '+' :: ds => (false, ds)
    | ds => (false, ds)
  if digits ≠ [] ∧ digits.all Char.isDigit then
    let magnitude : Int := digits.foldl (fun n c => 10 * n + (c.toNat - 48)) 0
    let n := if negative then -magnitude else magnitude
    if -2 ^ 63 ≤ n ∧ n < 2 ^ 63 then some n else none
  else none

/-- Lower case of one character.  Besides `A`-`Z`, two characters outside ASCII
    have a lower case inside it; no other non-ASCII character can take part in
    a match with an ASCII pattern, and these are left as they are. -/
def lowerChar (c : Char) : Char :=
  if c = Char.ofNat 0x130 then 'i'
  else if c = Char.ofNat 0x212A then 'k'
  else c.toLower

/-- `strings.ToLower`, as far as ASCII patterns can see. -/
def toLower (s : String) : String := s.map lowerChar

def quoteChar (c : Char) : List Char :=
  if c = '"' then ['\\', '"']
  else if c = '\\' then ['\\', '\\']
  else if c = '\n' then ['\\', 'n']
  else if c = '\t' then ['\\', 't']
  else if c = '\r' then ['\\', 'r']
  else if c.toNat = 7 then ['\\', 'a']
  else if c.toNat = 8 then ['\\', 'b']
  else if c.toNat = 11 then ['\\', 'v']
  else if c.toNat = 12 then ['\\', 'f']
  else if c.toNat < 32 ∨ c.toNat = 127 then '\\' :: 'x' :: hexDigits 2 c.toNat
  else if c.toNat < 128 ∨ isPrint c = true then [c]
  else if c.toNat < 0x10000 then '\\' :: 'u' :: hexDigits 4 c.toNat
  else '\\' :: 'U' :: hexDigits 8 c.toNat

/-- `strconv.Quote`, the verb `%q` on strings. -/
def quote (s : String) : String :=
  String.ofList ('"' :: s.toList.flatMap quoteChar ++ ['"'])

/-- Nearest integer of a non-negative rational, ties to even. -/
def roundHalfEven (q : ℚ) : Nat :=
  let n := ⌊q⌋.toNat
  let rest := q - n
  if rest < 1 / 2 then n
  else if 1 / 2 < rest then n + 1
  else if n % 2 = 0 then n else n + 1

/-- The verb `%.nf`. -/
def formatFixed (digits : Nat) (q : ℚ) : String :=
  let scaled := roundHalfEven (|q| * 10 ^ digits)
  let whole := toString (scaled / 10 ^ digits)
  let frac := (Nat.toDigits 10 (scaled % 10 ^ digits)).leftpad digits '0'
  let sign := if q < 0 then "-" else ""
  if digits = 0 then sign ++ whole else sign ++ whole ++ "." ++ String.ofList frac

/-- A `float64` that has been received: exact, infinite, or not a number. -/
inductive Float64 where
  | finite (q : ℚ)
  | infinite (negative : Bool)
  | nan
  deriving DecidableEq

namespace Float64

instance : Zero Float64 := ⟨.finite 0⟩

instance (n : Nat) : OfNat Float64 n := ⟨.finite n⟩

def isFinite : Float64 → Bool
  | .finite _ => true
  | .infinite _ | .nan => false

/-- The comparison `q <= x`, which is false of what is not a number. -/
def atLeast (q : ℚ) : Float64 → Bool
  | .finite x => decide (q ≤ x)
  | .infinite negative => !negative
  | .nan => false

/-- The comparison `x > 0`. -/
def positive : Float64 → Bool
  | .finite x => decide (0 < x)
  | .infinite negative => !negative
  | .nan => false

/-- Division by a positive number. -/
def divided (x : Float64) (q : ℚ) : Float64 :=
  match x with
  | .finite x => .finite (x / q)
  | .infinite negative => .infinite negative
  | .nan => .nan

/-- The verb `%.nf`. -/
def format (digits : Nat) : Float64 → String
  | .finite q => formatFixed digits q
  | .infinite negative => if negative then "-Inf" else "+Inf"
  | .nan => "NaN"

end Float64

/-! ## Machine integers and durations -/

/-- The value of an `int64` computed as `n`. -/
def wrapInt64 (n : Int) : Int := (n + 2 ^ 63) % 2 ^ 64 - 2 ^ 63

/-- Conversion of a float to `int64`: towards zero, and the most negative value
    where the result does not fit (what amd64 computes). -/
def int64OfFloat (q : ℚ) : Int :=
  let t := q.num.tdiv q.den
  if -2 ^ 63 ≤ t ∧ t < 2 ^ 63 then t else -2 ^ 63

theorem int64OfFloat_of_nonneg {q : ℚ} (h : 0 ≤ q) :
    int64OfFloat q = if ⌊q⌋ < 2 ^ 63 then ⌊q⌋ else -2 ^ 63 := by
  have hfloor : q.num.tdiv q.den = ⌊q⌋ := by
    rw [Rat.floor_def', Int.tdiv_eq_ediv_of_nonneg (Rat.num_nonneg.mpr h)]
  have hnonneg : 0 ≤ ⌊q⌋ := Int.floor_nonneg.mpr h
  have hlow : -2 ^ 63 ≤ ⌊q⌋ := by omega
  simp only [int64OfFloat, hfloor, hlow, true_and]

def second : Duration := 1000000000

/-- `d.Truncate(m)`, towards zero. -/
def Duration.truncate (d m : Duration) : Duration := d - d.tmod m

/-- `d.String()` for a whole number of seconds. -/
def Duration.string (d : Duration) : String :=
  let secs := d.natAbs / second.natAbs
  let sign := if d < 0 then "-" else ""
  let h := secs / 3600
  let m := secs / 60 % 60
  let s := secs % 60
  if 0 < h then sign ++ toString h ++ "h" ++ toString m ++ "m" ++ toString s ++ "s"
  else if 0 < m then sign ++ toString m ++ "m" ++ toString s ++ "s"
  else sign ++ toString s ++ "s"

end Katapult
