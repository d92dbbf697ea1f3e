/-
  Katapult.Urlencoded.Query

  Percent-escapes, and the queries of URLs.

  An `Escaping` says which bytes are written as they are; the sign that begins an
  escape is not one of them.  Then what has been escaped is read back
  (`unescape_escape`), whoever has escaped it.  A query is a list of pairs with
  their separators between them; if the separators are escaped too, the pairs are
  read back (`parseQuery_encode`).
-/

import Mathlib.Data.List.TakeWhile
import Mathlib.Tactic.IntervalCases

namespace Urlencoded

/-- A string of bytes. -/
abbrev Bytes : Type := List UInt8

/-! ## Escapes -/

/-- The digit of a number below 16. -/
def hexDigit (n : Nat) : UInt8 := UInt8.ofNat (if n < 10 then 48 + n else 55 + n)

/-- The number of a digit, in upper or lower case. -/
def unhex (b : UInt8) : Option Nat :=
  if 48 ≤ b.toNat ∧ b.toNat ≤ 57 then some (b.toNat - 48)
  else if 97 ≤ b.toNat ∧ b.toNat ≤ 102 then some (b.toNat - 87)
  else if 65 ≤ b.toNat ∧ b.toNat ≤ 70 then some (b.toNat - 55)
  else none

/-- Which bytes are written as they are, and whether a blank is written as `+`. -/
structure Escaping where
  safe : UInt8 → Bool
  plus : Bool
  percent : safe '%'.toUInt8 = false
  plusSign : plus = true → safe '+'.toUInt8 = false

/-- One byte, written out. -/
def Escaping.byte (e : Escaping) (b : UInt8) : Bytes :=
  if e.safe b then [b]
  else if e.plus ∧ b = ' '.toUInt8 then ['+'.toUInt8]
  else ['%'.toUInt8, hexDigit (b.toNat / 16), hexDigit (b.toNat % 16)]

def Escaping.escape (e : Escaping) (bs : Bytes) : Bytes := bs.flatMap e.byte

/-- Read escapes; `none` where two digits do not follow the sign. -/
def unescape (plus : Bool) : Bytes → Option Bytes
  | [] => some []
  | b :: rest =>
    if b = '%'.toUInt8 then
      match rest with
      | hi :: lo :: rest => do
        let high ← unhex hi
        let low ← unhex lo
        let bs ← unescape plus rest
        return UInt8.ofNat (16 * high + low) :: bs
      | _ => none
    else do
      let bs ← unescape plus rest
      return (if plus ∧ b = '+'.toUInt8 then ' '.toUInt8 else b) :: bs

theorem unhex_hexDigit {n : Nat} (h : n < 16) : unhex (hexDigit n) = some n := by
  interval_cases n <;> rfl

@[simp] theorem unescape_nil (plus : Bool) : unescape plus [] = some [] := rfl

theorem unescape_cons {plus : Bool} {b : UInt8} (hb : b ≠ '%'.toUInt8) (rest : Bytes) :
    unescape plus (b :: rest) =
      (unescape plus rest).map ((if plus ∧ b = '+'.toUInt8 then ' '.toUInt8 else b) :: ·) := by
  rw [unescape.eq_def]
  dsimp only
  rw [if_neg hb]
  cases unescape plus rest <;> rfl

theorem unescape_percent (plus : Bool) (b : UInt8) (rest : Bytes) :
    unescape plus ('%'.toUInt8 :: hexDigit (b.toNat / 16) :: hexDigit (b.toNat % 16) :: rest) =
      (unescape plus rest).map (b :: ·) := by
  have hlt := b.toNat_lt
  have hvalue : UInt8.ofNat (16 * (b.toNat / 16) + b.toNat % 16) = b := by
    rw [Nat.div_add_mod, UInt8.ofNat_toNat]
  rw [unescape, if_pos rfl]
  simp only [unhex_hexDigit (show b.toNat / 16 < 16 by omega),
    unhex_hexDigit (show b.toNat % 16 < 16 by omega), Option.bind_eq_bind, Option.bind_some, hvalue]
  cases unescape plus rest <;> rfl

namespace Escaping

variable {e : Escaping}

theorem unescape_byte (b : UInt8) (rest : Bytes) :
    unescape e.plus (e.byte b ++ rest) = (unescape e.plus rest).map (b :: ·) := by
  unfold byte
  split
  · rename_i hsafe
    have hpercent : b ≠ '%'.toUInt8 := by
      rintro rfl
      rw [e.percent] at hsafe
      cases hsafe
    have hplus : ¬ (e.plus = true ∧ b = '+'.toUInt8) := by
      rintro ⟨hplus, rfl⟩
      rw [e.plusSign hplus] at hsafe
      cases hsafe
    rw [List.singleton_append, unescape_cons hpercent, if_neg hplus]
  · split
    · rename_i hblank
      rw [List.singleton_append, unescape_cons (by decide), if_pos ⟨hblank.1, rfl⟩, hblank.2]
    · exact unescape_percent e.plus b rest

theorem unescape_escape_append (bs rest : Bytes) :
    unescape e.plus (e.escape bs ++ rest) = (unescape e.plus rest).map (bs ++ ·) := by
  induction bs with
  | nil => exact Option.map_id'.symm
  | cons b bs ih =>
    rw [escape, List.flatMap_cons, List.append_assoc, unescape_byte, ← escape, ih, Option.map_map]
    rfl

/-- What has been escaped is read back. -/
theorem unescape_escape (bs : Bytes) : unescape e.plus (e.escape bs) = some bs := by
  have hroundTrip := unescape_escape_append (e := e) bs []
  rwa [List.append_nil, unescape_nil, Option.map_some, List.append_nil] at hroundTrip

theorem escape_injective : Function.Injective e.escape := by
  intro bs bs' h
  have hread := unescape_escape (e := e) bs
  rw [h, unescape_escape, Option.some_inj] at hread
  exact hread.symm

/-- Bytes that are safe stay. -/
theorem escape_of_safe {bs : Bytes} (h : ∀ b ∈ bs, e.safe b = true) : e.escape bs = bs := by
  induction bs with
  | nil => rfl
  | cons b bs ih =>
    rw [List.forall_mem_cons] at h
    rw [escape, List.flatMap_cons, ← escape, ih h.2, byte, if_pos h.1, List.singleton_append]

/-- What stands in an escaped string is a byte of it that is safe, or a part of an
    escape. -/
theorem mem_escape {bs : Bytes} {b : UInt8} (h : b ∈ e.escape bs) :
    (b ∈ bs ∧ e.safe b = true) ∨ b = '%'.toUInt8 ∨ b = '+'.toUInt8 ∨ unhex b ≠ none := by
  obtain ⟨b', hb', hb⟩ := List.mem_flatMap.mp h
  have hlt := b'.toNat_lt
  unfold byte at hb
  split at hb
  · rename_i hsafe
    rw [List.mem_singleton.mp hb]
    exact .inl ⟨hb', hsafe⟩
  · split at hb
    · exact .inr (.inr (.inl (List.mem_singleton.mp hb)))
    · simp only [List.mem_cons, List.not_mem_nil, or_false] at hb
      rcases hb with rfl | rfl | rfl
      · exact .inr (.inl rfl)
      · rw [unhex_hexDigit (by omega)]
        exact .inr (.inr (.inr (Option.some_ne_none _)))
      · rw [unhex_hexDigit (by omega)]
        exact .inr (.inr (.inr (Option.some_ne_none _)))

end Escaping

/-- A byte that is no part of an escape. -/
def Inert (b : UInt8) : Prop := b ≠ '%'.toUInt8 ∧ b ≠ '+'.toUInt8 ∧ unhex b = none

instance (b : UInt8) : Decidable (Inert b) := inferInstanceAs (Decidable (_ ∧ _))

namespace Escaping

variable {e : Escaping} {b : UInt8} {bs : Bytes}

theorem mem_escape_of_inert (hb : Inert b) (h : b ∈ e.escape bs) : b ∈ bs ∧ e.safe b = true := by
  rcases mem_escape h with h | h | h | h
  · exact h
  · exact absurd h hb.1
  · exact absurd h hb.2.1
  · exact absurd hb.2.2 h

theorem not_mem_escape_of_unsafe (hb : Inert b) (hsafe : e.safe b = false) : b ∉ e.escape bs := by
  intro hmem
  have hsafe' := (mem_escape_of_inert hb hmem).2
  rw [hsafe] at hsafe'
  cases hsafe'

end Escaping

/-! ## The escapings of URLs -/

def alphanumeric (b : UInt8) : Bool :=
  decide (48 ≤ b.toNat ∧ b.toNat ≤ 57 ∨ 65 ≤ b.toNat ∧ b.toNat ≤ 90 ∨ 97 ≤ b.toNat ∧ b.toNat ≤ 122)

/-- The byte is one of these characters. -/
def among (chars : List Char) (b : UInt8) : Bool := chars.any fun c => c.toUInt8 = b

/-- Of a path; the slash, like some others, is left as it is. -/
def pathEscaping : Escaping where
  safe b := alphanumeric b || among "-_.~$&+,/:;=@".toList b
  plus := false
  percent := by decide
  plusSign := by simp

/-! ## Queries -/

/-- An escaping under which the signs of a query stand for nothing else. -/
structure QueryEscaping extends Escaping where
  blank : plus = true
  ampersand : safe '&'.toUInt8 = false
  equals : safe '='.toUInt8 = false
  semicolon : safe ';'.toUInt8 = false

/-- `url.QueryEscape`. -/
def queryEscape : QueryEscaping where
  safe b := alphanumeric b || among "-_.~".toList b
  plus := true
  percent := by decide
  plusSign := by decide
  blank := rfl
  ampersand := by decide
  equals := by decide
  semicolon := by decide

/-- `URLSearchParams` of a browser. -/
def searchParams : QueryEscaping where
  safe b := alphanumeric b || among "*-._".toList b
  plus := true
  percent := by decide
  plusSign := by decide
  blank := rfl
  ampersand := by decide
  equals := by decide
  semicolon := by decide

namespace QueryEscaping

variable (e : QueryEscaping)

def pair (p : Bytes × Bytes) : Bytes := e.escape p.1 ++ '='.toUInt8 :: e.escape p.2

def encode (pairs : List (Bytes × Bytes)) : Bytes :=
  ['&'.toUInt8].intercalate (pairs.map e.pair)

end QueryEscaping

/-- What stands before the first `c`, and what after it. -/
def cut (c : UInt8) (bs : Bytes) : Bytes × Bytes :=
  (bs.takeWhile (· ≠ c), (bs.dropWhile (· ≠ c)).tail)

/-- One setting of a query; `none` for one that is skipped. -/
def parsePair (setting : Bytes) : Option (Bytes × Bytes) :=
  if ';'.toUInt8 ∈ setting ∨ setting = [] then none
  else do
    let (key, value) := cut '='.toUInt8 setting
    return (← unescape true key, ← unescape true value)

def parseQuery (query : Bytes) : List (Bytes × Bytes) :=
  (query.splitOn '&'.toUInt8).filterMap parsePair

theorem cut_append {c : UInt8} {bs : Bytes} (h : c ∉ bs) (rest : Bytes) :
    cut c (bs ++ c :: rest) = (bs, rest) := by
  have hall : ∀ b ∈ bs, decide (b ≠ c) = true := fun b hb => decide_eq_true fun heq => h (heq ▸ hb)
  rw [cut, List.takeWhile_append_of_pos hall, List.dropWhile_append_of_pos hall]
  simp

/-- What is cut behind a part without the sign. -/
theorem cut_append_left {c : UInt8} {front : Bytes} (h : c ∉ front) (bs : Bytes) :
    cut c (front ++ bs) = (front ++ (cut c bs).1, (cut c bs).2) := by
  have hall : ∀ b ∈ front, decide (b ≠ c) = true := fun b hb => decide_eq_true fun heq => h (heq ▸ hb)
  rw [cut, List.takeWhile_append_of_pos hall, List.dropWhile_append_of_pos hall]
  rfl

theorem cut_of_not_mem {c : UInt8} {bs : Bytes} (h : c ∉ bs) : cut c bs = (bs, []) := by
  have hall : ∀ b ∈ bs, decide (b ≠ c) = true := fun b hb => decide_eq_true fun heq => h (heq ▸ hb)
  rw [cut, List.takeWhile_eq_self_iff.mpr hall, List.dropWhile_eq_nil_iff.mpr hall, List.tail_nil]

namespace QueryEscaping

variable (e : QueryEscaping)

theorem read_component (bs : Bytes) : unescape true (e.escape bs) = some bs := by
  rw [← e.blank]
  exact Escaping.unescape_escape bs

theorem not_mem_pair {c : UInt8} (hc : Inert c) (hsafe : e.safe c = false) (hequals : c ≠ '='.toUInt8)
    (p : Bytes × Bytes) : c ∉ e.pair p := by
  rw [pair, List.mem_append, List.mem_cons, not_or, not_or]
  exact ⟨Escaping.not_mem_escape_of_unsafe hc hsafe, hequals, Escaping.not_mem_escape_of_unsafe hc hsafe⟩

theorem parsePair_pair (p : Bytes × Bytes) : parsePair (e.pair p) = some p := by
  have hkept : ¬ (';'.toUInt8 ∈ e.pair p ∨ e.pair p = []) := by
    rw [not_or]
    exact ⟨e.not_mem_pair (by decide) e.semicolon (by decide) p, by simp [pair]⟩
  have hcut : cut '='.toUInt8 (e.pair p) = (e.escape p.1, e.escape p.2) :=
    cut_append (Escaping.not_mem_escape_of_unsafe (by decide) e.equals) _
  rw [parsePair, if_neg hkept, hcut]
  simp only [e.read_component]
  rfl

/-- A query has the pairs that have been written. -/
theorem parseQuery_encode (pairs : List (Bytes × Bytes)) : parseQuery (e.encode pairs) = pairs := by
  cases pairs with
  | nil => rfl
  | cons p pairs =>
    have hsplit : (e.encode (p :: pairs)).splitOn '&'.toUInt8 = (p :: pairs).map e.pair := by
      refine List.splitOn_intercalate _ (fun setting hsetting => ?_) (by simp)
      obtain ⟨p', -, rfl⟩ := List.mem_map.mp hsetting
      exact e.not_mem_pair (by decide) e.ampersand (by decide) p'
    have hread : parsePair ∘ e.pair = some := funext e.parsePair_pair
    rw [parseQuery, hsplit, List.filterMap_map, hread, List.filterMap_some]

end QueryEscaping

/-! ## Texts -/

/-- The bytes of a text, in UTF-8. -/
def bytes (s : String) : Bytes := s.toByteArray.data.toList

/-- The text of these bytes; `none` if they are no text in UTF-8. -/
def text (bs : Bytes) : Option String := String.fromUTF8? ⟨bs.toArray⟩

theorem text_bytes (s : String) : text (bytes s) = some s := dif_pos s.isValidUTF8

theorem bytes_append (s t : String) : bytes (s ++ t) = bytes s ++ bytes t := by
  simp [bytes, String.toByteArray_append]

/-- The query of these parameters. -/
def QueryEscaping.write (e : QueryEscaping) (params : List (String × String)) : Bytes :=
  e.encode (params.map fun p => (bytes p.1, bytes p.2))

/-- The parameters of a query, as far as they are texts. -/
def readQuery (query : Bytes) : List (String × String) :=
  (parseQuery query).filterMap fun p =>
    (text p.1).bind fun key => (text p.2).map fun value => (key, value)

/-- The parameters are read as they have been written. -/
theorem readQuery_write (e : QueryEscaping) (params : List (String × String)) :
    readQuery (e.write params) = params := by
  rw [readQuery, QueryEscaping.write, e.parseQuery_encode, List.filterMap_map]
  simp only [Function.comp_def, text_bytes, Option.bind_some, Option.map_some]
  exact List.filterMap_some

end Urlencoded
