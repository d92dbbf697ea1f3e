/-
  Katapult.Urlencoded.Url

  Paths and queries of URLs, from a client that puts them together to the server
  that takes them apart.

  A parsed path is kept unescaped, with the way it has been written where that is
  not the default (`Url.escapedPath`).  What a client sends of a URL is parsed
  again by the server, which comes to the same segments and the same query
  (`receive_requestURI`); a path without any of the signs that mean something in a
  URL arrives as it is (`arrives`), also behind a scheme and the name of a host
  (`parseAddress_append`).
-/

import Katapult.Urlencoded.Query
import Mathlib.Data.List.Basic

namespace Urlencoded

/-! ## Separators -/

/-- A segment has no separator, and is a part of the whole. -/
theorem mem_splitOn {c : UInt8} {bs seg : Bytes} (h : seg ∈ bs.splitOn c) : c ∉ seg ∧ seg ⊆ bs := by
  induction bs generalizing seg with
  | nil =>
    rw [List.splitOn_nil, List.mem_singleton] at h
    rw [h]
    exact ⟨List.not_mem_nil, List.Subset.refl _⟩
  | cons b bs ih =>
    rw [List.splitOn_cons_eq_if_modifyHead] at h
    split at h
    · rcases List.mem_cons.mp h with rfl | h
      · exact ⟨List.not_mem_nil, List.nil_subset _⟩
      · exact ⟨(ih h).1, List.Subset.trans (ih h).2 (List.subset_cons_self b bs)⟩
    · rename_i hne
      obtain ⟨first, rest, hsplit⟩ := List.exists_cons_of_ne_nil (List.splitOn_ne_nil c bs)
      rw [hsplit] at h ih
      rcases List.mem_cons.mp h with rfl | h
      · obtain ⟨hfirst, hsubset⟩ := ih List.mem_cons_self
        rw [List.mem_cons, not_or]
        exact ⟨⟨fun heq => hne (by rw [heq, beq_self_eq_true]), hfirst⟩, List.cons_subset_cons b hsubset⟩
      · obtain ⟨hseg, hsubset⟩ := ih (List.mem_cons_of_mem _ h)
        exact ⟨hseg, List.Subset.trans hsubset (List.subset_cons_self b bs)⟩

/-- Escapes do not change where a safe separator stands. -/
theorem Escaping.splitOn_escape (e : Escaping) {c : UInt8} (hc : Inert c) (hsafe : e.safe c = true)
    (bs : Bytes) : (e.escape bs).splitOn c = (bs.splitOn c).map e.escape := by
  have hbyte : e.byte c = [c] := if_pos hsafe
  -- splitting undoes joining, and joined segments are escaped one by one
  have hjoin : ∀ segs : List Bytes, e.escape ([c].intercalate segs) = [c].intercalate (segs.map e.escape) := by
    intro segs
    induction segs with
    | nil => rfl
    | cons seg segs ih =>
      cases segs with
      | nil => rw [List.map_singleton, List.intercalate_singleton, List.intercalate_singleton]
      | cons seg' segs =>
        rw [List.map_cons, List.map_cons] at *
        rw [List.intercalate_cons_cons, List.intercalate_cons_cons, ← ih]
        simp [Escaping.escape, hbyte]
  have hsplit : (e.escape ([c].intercalate (bs.splitOn c))).splitOn c = (bs.splitOn c).map e.escape := by
    rw [hjoin]
    refine List.splitOn_intercalate c (fun seg hseg => ?_) (by simp)
    obtain ⟨seg', hseg', rfl⟩ := List.mem_map.mp hseg
    exact fun hmem => (mem_splitOn hseg').1 (Escaping.mem_escape_of_inert hc hmem).1
  rwa [List.intercalate_splitOn] at hsplit

/-! ## URLs -/

/-- Characters that no URL has. -/
def control (b : UInt8) : Bool := decide (b.toNat < 32 ∨ b.toNat = 127)

/-- A URL from its path on. -/
structure Url where
  path : Bytes
  /-- The path as it has been written, unless that is the default. -/
  rawPath : Bytes
  /-- The URL ends with a `?`, and has no query. -/
  forceQuery : Bool
  rawQuery : Bytes

/-- The path, whether there is a `?` with nothing behind it, and the query. -/
def splitQuery (text : Bytes) : Bytes × Bool × Bytes :=
  if text.getLast? = some '?'.toUInt8 ∧ text.count '?'.toUInt8 = 1 then (text.dropLast, true, [])
  else ((cut '?'.toUInt8 text).1, false, (cut '?'.toUInt8 text).2)

/-- `url.ParseRequestURI`. -/
def parse (text : Bytes) : Option Url :=
  if text.any control then none
  else
    let (rest, forceQuery, rawQuery) := splitQuery text
    if rest.head? = some '/'.toUInt8 then
      (unescape false rest).map fun path =>
        ⟨path, if pathEscaping.escape path = rest then [] else rest, forceQuery, rawQuery⟩
    else none

/-- `url.Parse`, which allows a fragment. -/
def parseReference (text : Bytes) : Option Url :=
  let (rest, fragment) := cut '#'.toUInt8 text
  (parse rest).filter fun _ => (unescape false fragment).isSome

/-- A URL with a scheme and a host. -/
structure Address where
  /-- In lower case. -/
  scheme : Bytes
  /-- The host, with a user or a port. -/
  authority : Bytes
  url : Url

/-- What a connection is made to. -/
def Address.origin (a : Address) : Bytes := a.scheme ++ ':'.toUInt8 :: (bytes "//" ++ a.authority)

def lower (b : UInt8) : UInt8 := if 65 ≤ b.toNat ∧ b.toNat ≤ 90 then b + 32 else b

/-- `url.Parse`, for what a request can be sent to: the scheme is one of the web, and
    there is a host, which is not looked into before a connection to it is made. -/
def parseAddress (text : Bytes) : Option Address :=
  let (rest, fragment) := cut '#'.toUInt8 text
  if rest.any control ∨ unescape false fragment = none then none
  else
    let (scheme, rest) := cut ':'.toUInt8 rest
    let (rest, forceQuery, rawQuery) := splitQuery rest
    -- the path goes from the first slash behind the two
    let authority := (rest.drop 2).takeWhile (· ≠ '/'.toUInt8)
    let rawPath := (rest.drop 2).dropWhile (· ≠ '/'.toUInt8)
    if scheme.map lower ∈ [bytes "http", bytes "https"] ∧ rest.take 2 = bytes "//" ∧ authority ≠ [] then
      (unescape false rawPath).map fun path =>
        ⟨scheme.map lower, authority,
          ⟨path, if pathEscaping.escape path = rawPath then [] else rawPath, forceQuery, rawQuery⟩⟩
    else none

/-- What a server makes of a request line, which a blank would cut. -/
def receive (uri : Bytes) : Option Url := if ' '.toUInt8 ∈ uri then none else parse uri

/-- The byte may stand in a path, by itself or in an escape. -/
def allowed (b : UInt8) : Bool := among "!$&'()*+,;=:@[]%".toList b || pathEscaping.safe b

def validEncoded (path : Bytes) : Bool := path.all allowed

/-- What stands behind the path. -/
def queryText (forceQuery : Bool) (rawQuery : Bytes) : Bytes :=
  if forceQuery ∨ rawQuery ≠ [] then '?'.toUInt8 :: rawQuery else []

theorem not_mem_append_queryText {c : UInt8} {path rawQuery : Bytes} (forceQuery : Bool)
    (hc : c ≠ '?'.toUInt8) (hpath : c ∉ path) (hquery : c ∉ rawQuery) :
    c ∉ path ++ queryText forceQuery rawQuery := by
  rw [List.mem_append, not_or, queryText]
  refine ⟨hpath, ?_⟩
  split
  · rw [List.mem_cons, not_or]
    exact ⟨hc, hquery⟩
  · exact List.not_mem_nil

namespace Url

/-- `EscapedPath`. -/
def escapedPath (u : Url) : Bytes :=
  if u.rawPath ≠ [] ∧ validEncoded u.rawPath ∧ unescape false u.rawPath = some u.path then u.rawPath
  else if u.path = ['*'.toUInt8] then ['%'.toUInt8, '2'.toUInt8, 'A'.toUInt8]
  else pathEscaping.escape u.path

/-- `RequestURI`: what is sent to the server. -/
def requestURI (u : Url) : Bytes :=
  (if u.escapedPath = [] then ['/'.toUInt8] else u.escapedPath) ++ queryText u.forceQuery u.rawQuery

/-- The segments of the path, as they are written. -/
def segments (u : Url) : List Bytes := u.escapedPath.tail.splitOn '/'.toUInt8

/-- The segments, as a multiplexer compares them. -/
def names (u : Url) : List Bytes := u.segments.map fun seg => (unescape false seg).getD seg

end Url

/-- A path that is its own clean form: without dots, and no segment but the last is empty. -/
def clean (segments : List Bytes) : Bool :=
  segments.all (fun seg => seg ≠ ['.'.toUInt8] ∧ seg ≠ ['.'.toUInt8, '.'.toUInt8]) &&
    segments.dropLast.all fun seg => seg ≠ []

/-! ## What is sent -/

theorem forall_byte {P : UInt8 → Prop} (h : ∀ n < 256, P (UInt8.ofNat n)) (b : UInt8) : P b := by
  have hb := h b.toNat b.toNat_lt
  rwa [UInt8.ofNat_toNat] at hb

/-- What may stand in a path is no sign that ends it. -/
theorem not_control_of_allowed (b : UInt8) :
    allowed b = true → control b = false ∧ b ≠ '?'.toUInt8 ∧ b ≠ ' '.toUInt8 :=
  forall_byte (P := fun b => allowed b = true → control b = false ∧ b ≠ '?'.toUInt8 ∧ b ≠ ' '.toUInt8)
    (by decide +kernel) b

theorem not_control_of_unhex (b : UInt8) : unhex b ≠ none → control b = false :=
  forall_byte (P := fun b => unhex b ≠ none → control b = false) (by decide +kernel) b

theorem not_control_escape {bs : Bytes} : ∀ b ∈ pathEscaping.escape bs, control b = false := by
  intro b hb
  rcases Escaping.mem_escape hb with ⟨-, hsafe⟩ | rfl | rfl | hhex
  · exact (not_control_of_allowed b (by rw [allowed, hsafe, Bool.or_true])).1
  · rfl
  · rfl
  · exact not_control_of_unhex b hhex

/-- What holds of a URL that has been parsed. -/
structure Url.Parsed (u : Url) : Prop where
  rooted : u.path.head? = some '/'.toUInt8
  written : u.rawPath = [] ∨ u.rawPath.head? = some '/'.toUInt8
  printable : ∀ b ∈ u.rawQuery, control b = false
  forced : u.forceQuery = true → u.rawQuery = []

/-- What holds of the path that is sent of it. -/
structure Url.Escaped (path escaped : Bytes) : Prop where
  rooted : escaped.head? = some '/'.toUInt8
  printable : ∀ b ∈ escaped, control b = false
  unmarked : '?'.toUInt8 ∉ escaped
  read : unescape false escaped = some path

namespace Url.Parsed

variable {u : Url}

theorem path_ne_star (hu : u.Parsed) : u.path ≠ ['*'.toUInt8] := by
  intro h
  have hrooted := hu.rooted
  rw [h] at hrooted
  revert hrooted
  decide

/-- The path is sent as it has been written, or with the default escapes. -/
theorem escapedPath_cases (hu : u.Parsed) :
    (u.escapedPath = u.rawPath ∧ u.rawPath ≠ [] ∧ validEncoded u.rawPath = true ∧
      unescape false u.rawPath = some u.path) ∨
    u.escapedPath = pathEscaping.escape u.path := by
  unfold Url.escapedPath
  by_cases hraw : u.rawPath ≠ [] ∧ validEncoded u.rawPath = true ∧ unescape false u.rawPath = some u.path
  · rw [if_pos hraw]
    exact .inl ⟨rfl, hraw⟩
  · rw [if_neg hraw, if_neg hu.path_ne_star]
    exact .inr rfl

theorem escaped (hu : u.Parsed) : Url.Escaped u.path u.escapedPath := by
  rcases hu.escapedPath_cases with ⟨heq, hsome, hvalid, hread⟩ | heq
  · have hallowed := List.all_eq_true.mp hvalid
    rw [heq]
    exact {
      rooted := hu.written.resolve_left hsome
      printable := fun b hb => (not_control_of_allowed b (hallowed b hb)).1
      unmarked := fun hmem => (not_control_of_allowed _ (hallowed _ hmem)).2.1 rfl
      read := hread }
  · obtain ⟨rest, hpath⟩ := List.head?_eq_some_iff.mp hu.rooted
    rw [heq]
    exact {
      rooted := by rw [hpath]; rfl
      printable := not_control_escape
      unmarked := Escaping.not_mem_escape_of_unsafe (by decide) (by decide)
      read := Escaping.unescape_escape (e := pathEscaping) u.path }

theorem not_blank (hu : u.Parsed) : ' '.toUInt8 ∉ u.escapedPath := by
  rcases hu.escapedPath_cases with ⟨heq, -, hvalid, -⟩ | heq
  · rw [heq]
    exact fun hmem => (not_control_of_allowed _ (List.all_eq_true.mp hvalid _ hmem)).2.2 rfl
  · rw [heq]
    exact Escaping.not_mem_escape_of_unsafe (by decide) (by decide)

/-- A path that is parsed as it is sent is sent as it is parsed. -/
theorem escapedPath_resent (hu : u.Parsed) (forceQuery : Bool) (rawQuery : Bytes) :
    Url.escapedPath ⟨u.path, if pathEscaping.escape u.path = u.escapedPath then [] else u.escapedPath,
      forceQuery, rawQuery⟩ = u.escapedPath := by
  by_cases hdefault : pathEscaping.escape u.path = u.escapedPath
  · rw [if_pos hdefault, Url.escapedPath, if_neg fun hraw => hraw.1 rfl, if_neg hu.path_ne_star, hdefault]
  · rcases hu.escapedPath_cases with ⟨heq, hraw⟩ | heq
    · rw [if_neg hdefault, Url.escapedPath]
      dsimp only
      rw [heq, if_pos hraw]
    · exact absurd heq.symm hdefault

end Url.Parsed

theorem splitQuery_append {path rawQuery : Bytes} {forceQuery : Bool} (hpath : '?'.toUInt8 ∉ path)
    (hforced : forceQuery = true → rawQuery = []) :
    splitQuery (path ++ queryText forceQuery rawQuery) = (path, forceQuery, rawQuery) := by
  have hcount : path.count '?'.toUInt8 = 0 := List.count_eq_zero.mpr hpath
  cases forceQuery with
  | true =>
    obtain rfl : rawQuery = [] := hforced rfl
    rw [queryText, if_pos (.inl rfl), splitQuery, if_pos, List.dropLast_concat]
    exact ⟨List.getLast?_concat, by rw [List.count_append, hcount]; rfl⟩
  | false =>
    by_cases hquery : rawQuery = []
    · have hlast : ¬ (path.getLast? = some '?'.toUInt8 ∧ path.count '?'.toUInt8 = 1) :=
        fun h => hpath (List.mem_of_getLast? h.1)
      rw [hquery, queryText, if_neg (by simp), List.append_nil, splitQuery, if_neg hlast,
        cut_of_not_mem hpath]
    · -- a `?` at the end of a query is not the only one
      have hlast : ¬ ((path ++ '?'.toUInt8 :: rawQuery).getLast? = some '?'.toUInt8 ∧
          (path ++ '?'.toUInt8 :: rawQuery).count '?'.toUInt8 = 1) := by
        rintro ⟨hend, hone⟩
        obtain ⟨first, rest, rfl⟩ := List.exists_cons_of_ne_nil hquery
        rw [List.getLast?_append_of_ne_nil _ (List.cons_ne_nil _ _), List.getLast?_cons_cons] at hend
        have hmem : '?'.toUInt8 ∈ first :: rest := List.mem_of_getLast? hend
        rw [List.count_append, hcount, List.count_cons_self] at hone
        have hpos := List.count_pos_iff.mpr hmem
        omega
      rw [queryText, if_pos (.inr hquery), splitQuery, if_neg hlast, cut_append hpath]

/-- A path and a query are taken apart again. -/
theorem parse_append {path escaped rawQuery : Bytes} {forceQuery : Bool}
    (hpath : Url.Escaped path escaped) (hprintable : ∀ b ∈ rawQuery, control b = false)
    (hforced : forceQuery = true → rawQuery = []) :
    parse (escaped ++ queryText forceQuery rawQuery) =
      some ⟨path, if pathEscaping.escape path = escaped then [] else escaped, forceQuery, rawQuery⟩ := by
  have hquery : ∀ b ∈ queryText forceQuery rawQuery, control b = false := by
    unfold queryText
    split
    · exact List.forall_mem_cons.mpr ⟨rfl, hprintable⟩
    · exact List.forall_mem_nil _
  have hcontrol : (escaped ++ queryText forceQuery rawQuery).any control = false := by
    rw [List.any_eq_false]
    intro b hb
    rw [Bool.not_eq_true]
    exact (List.mem_append.mp hb).elim (hpath.printable b) (hquery b)
  rw [parse, if_neg (by rw [hcontrol]; exact Bool.false_ne_true), splitQuery_append hpath.unmarked hforced]
  dsimp only
  rw [if_pos hpath.rooted, hpath.read, Option.map_some]

theorem splitQuery_append_left {front : Bytes} (hfront : '?'.toUInt8 ∉ front) {text : Bytes}
    (hne : text ≠ []) :
    splitQuery (front ++ text) = (front ++ (splitQuery text).1, (splitQuery text).2) := by
  have hcount : (front ++ text).count '?'.toUInt8 = text.count '?'.toUInt8 := by
    rw [List.count_append, List.count_eq_zero.mpr hfront, zero_add]
  rw [splitQuery, splitQuery, List.getLast?_append_of_ne_nil _ hne, hcount,
    List.dropLast_append_of_ne_nil hne, cut_append_left hfront]
  split <;> rfl

theorem splitQuery_parts (text : Bytes) :
    ((splitQuery text).2.1 = true → (splitQuery text).2.2 = []) ∧
      ∀ b ∈ (splitQuery text).2.2, b ∈ text := by
  unfold splitQuery
  split
  · exact ⟨fun _ => rfl, List.forall_mem_nil _⟩
  · refine ⟨fun h => absurd h Bool.false_ne_true, fun b hb => ?_⟩
    exact List.dropWhile_subset _ (List.mem_of_mem_tail hb)

theorem unescape_rooted {rest path : Bytes} (hrooted : rest.head? = some '/'.toUInt8)
    (hread : unescape false rest = some path) : path.head? = some '/'.toUInt8 := by
  obtain ⟨tail, rfl⟩ := List.head?_eq_some_iff.mp hrooted
  rw [unescape_cons (by decide)] at hread
  obtain ⟨path', -, rfl⟩ := Option.map_eq_some_iff.mp hread
  rfl

/-- What is read of a text that is accepted. -/
theorem parse_eq_some {text : Bytes} {u : Url} (h : parse text = some u) :
    text.any control = false ∧ (splitQuery text).1.head? = some '/'.toUInt8 ∧
      ∃ path, unescape false (splitQuery text).1 = some path ∧
        u = ⟨path, if pathEscaping.escape path = (splitQuery text).1 then [] else (splitQuery text).1,
          (splitQuery text).2.1, (splitQuery text).2.2⟩ := by
  unfold parse at h
  split at h
  · cases h
  rename_i hcontrol
  dsimp only at h
  split at h
  · rename_i hrooted
    obtain ⟨path, hread, rfl⟩ := Option.map_eq_some_iff.mp h
    exact ⟨Bool.eq_false_iff.mpr hcontrol, hrooted, path, hread, rfl⟩
  · cases h

/-- What is accepted is a URL that begins with a slash, and has no control characters. -/
theorem parse_parsed {text : Bytes} {u : Url} (h : parse text = some u) : u.Parsed := by
  obtain ⟨hcontrol, hrooted, path, hread, rfl⟩ := parse_eq_some h
  obtain ⟨hforced, hmem⟩ := splitQuery_parts text
  rw [List.any_eq_false] at hcontrol
  exact {
    rooted := unescape_rooted hrooted hread
    written := by
      dsimp only
      split
      · exact .inl rfl
      · exact .inr hrooted
    printable := fun b hb => Bool.not_eq_true _ ▸ hcontrol b (hmem b hb)
    forced := hforced }

/-- The server comes to the path and the query that the client has sent. -/
theorem receive_requestURI {text : Bytes} {u : Url} (h : parse text = some u)
    (hblank : ' '.toUInt8 ∉ u.rawQuery) :
    ∃ received, receive u.requestURI = some received ∧ received.path = u.path ∧
      received.escapedPath = u.escapedPath ∧ received.rawQuery = u.rawQuery := by
  have hu := parse_parsed h
  have hescaped := hu.escaped
  have hne : u.escapedPath ≠ [] := by
    intro hnil
    have hrooted := hescaped.rooted
    rw [hnil] at hrooted
    cases hrooted
  have hline : ' '.toUInt8 ∉ u.escapedPath ++ queryText u.forceQuery u.rawQuery :=
    not_mem_append_queryText _ (by decide) hu.not_blank hblank
  rw [Url.requestURI, if_neg hne, receive, if_neg hline]
  exact ⟨_, parse_append hescaped hu.printable hu.forced, rfl, hu.escapedPath_resent _ _, rfl⟩

/-- A byte that a query is sent with. -/
def Sendable (b : UInt8) : Prop := control b = false ∧ b ≠ '#'.toUInt8 ∧ b ≠ ' '.toUInt8

instance (b : UInt8) : Decidable (Sendable b) := inferInstanceAs (Decidable (_ ∧ _))

theorem sendable_of_unhex (b : UInt8) : unhex b ≠ none → Sendable b :=
  forall_byte (P := fun b => unhex b ≠ none → Sendable b) (by decide +kernel) b

theorem mem_intercalate {b c : UInt8} {segs : List Bytes} (h : b ∈ [c].intercalate segs) :
    b = c ∨ ∃ seg ∈ segs, b ∈ seg := by
  induction segs with
  | nil => cases h
  | cons seg segs ih =>
    cases segs with
    | nil =>
      rw [List.intercalate_singleton] at h
      exact .inr ⟨seg, List.mem_singleton_self seg, h⟩
    | cons seg' segs =>
      rw [List.intercalate_cons_cons, List.mem_append, List.mem_append, List.mem_singleton] at h
      rcases h with (h | h) | h
      · exact .inr ⟨seg, List.mem_cons_self, h⟩
      · exact .inl h
      · exact (ih h).imp_right fun ⟨seg'', hseg, hb⟩ => ⟨seg'', List.mem_cons_of_mem _ hseg, hb⟩

/-- A query can be sent, if what its escaping leaves as it is can be. -/
theorem QueryEscaping.sendable_encode (e : QueryEscaping) (hsafe : ∀ b, e.safe b = true → Sendable b)
    (pairs : List (Bytes × Bytes)) : ∀ b ∈ e.encode pairs, Sendable b := by
  have hcomponent : ∀ bs, ∀ b ∈ e.escape bs, Sendable b := by
    intro bs b hb
    rcases Escaping.mem_escape hb with ⟨-, h⟩ | rfl | rfl | h
    · exact hsafe b h
    · decide
    · decide
    · exact sendable_of_unhex b h
  intro b hb
  rcases mem_intercalate hb with rfl | ⟨seg, hseg, hb⟩
  · decide
  · obtain ⟨p, -, rfl⟩ := List.mem_map.mp hseg
    rw [QueryEscaping.pair, List.mem_append, List.mem_cons] at hb
    rcases hb with hb | rfl | hb
    · exact hcomponent _ b hb
    · decide
    · exact hcomponent _ b hb

theorem sendable_queryEscape (b : UInt8) : queryEscape.safe b = true → Sendable b :=
  forall_byte (P := fun b => queryEscape.safe b = true → Sendable b) (by decide +kernel) b

theorem sendable_searchParams (b : UInt8) : searchParams.safe b = true → Sendable b :=
  forall_byte (P := fun b => searchParams.safe b = true → Sendable b) (by decide +kernel) b

/-! ## Plain paths -/

/-- A byte that means nothing in a URL, but for the slash. -/
def Ordinary (b : UInt8) : Prop :=
  control b = false ∧ b ≠ '%'.toUInt8 ∧ b ≠ '?'.toUInt8 ∧ b ≠ '#'.toUInt8

instance (b : UInt8) : Decidable (Ordinary b) := inferInstanceAs (Decidable (_ ∧ _))

theorem unescape_of_not_mem {bs : Bytes} (h : '%'.toUInt8 ∉ bs) : unescape false bs = some bs := by
  induction bs with
  | nil => rfl
  | cons b bs ih =>
    rw [List.mem_cons, not_or] at h
    rw [unescape_cons fun heq => h.1 heq.symm, ih h.2, Option.map_some, if_neg (by simp)]

theorem clean_escape (segs : List Bytes) : clean (segs.map pathEscaping.escape) = clean segs := by
  have hdot : ∀ seg dots : Bytes, pathEscaping.escape dots = dots →
      (decide (pathEscaping.escape seg ≠ dots) = decide (seg ≠ dots)) := by
    intro seg dots hdots
    rw [decide_eq_decide, ← hdots, Escaping.escape_injective.ne_iff, hdots]
  have hone := fun seg => hdot seg ['.'.toUInt8] (by decide)
  have htwo := fun seg => hdot seg ['.'.toUInt8, '.'.toUInt8] (by decide)
  have hnone := fun seg => hdot seg [] rfl
  simp only [clean, List.all_map, Function.comp_def, ← List.map_dropLast, Bool.decide_and, hone, htwo, hnone]

/-- The segments of a path that has been written without escapes. -/
theorem Url.Parsed.names_of_plain {u : Url} (hu : u.Parsed) (hplain : '%'.toUInt8 ∉ u.path)
    (hwritten : u.rawPath = [] ∨ u.rawPath = u.path) :
    u.names = u.path.tail.splitOn '/'.toUInt8 ∧
      clean u.segments = clean (u.path.tail.splitOn '/'.toUInt8) := by
  rcases hu.escapedPath_cases with ⟨heq, hsome, -⟩ | heq
  · -- every segment is written as it is
    rw [Url.names, Url.segments, heq, hwritten.resolve_left hsome]
    refine ⟨?_, rfl⟩
    have hsame : ∀ seg ∈ u.path.tail.splitOn '/'.toUInt8, (unescape false seg).getD seg = seg := by
      intro seg hseg
      have hmem : '%'.toUInt8 ∉ seg := fun h => hplain (List.mem_of_mem_tail ((mem_splitOn hseg).2 h))
      rw [unescape_of_not_mem hmem, Option.getD_some]
    rw [List.map_congr_left hsame, List.map_id']
  · -- every segment is escaped, and unescaped again before it is compared
    obtain ⟨rest, hpath⟩ := List.head?_eq_some_iff.mp hu.rooted
    have hsegments : u.segments = (u.path.tail.splitOn '/'.toUInt8).map pathEscaping.escape := by
      rw [Url.segments, heq, hpath, List.tail_cons]
      exact pathEscaping.splitOn_escape (by decide) (by decide) rest
    rw [Url.names, hsegments, clean_escape, List.map_map]
    refine ⟨?_, rfl⟩
    have hread : ∀ seg, ((fun seg => (unescape false seg).getD seg) ∘ pathEscaping.escape) seg = seg := by
      intro seg
      exact congrArg (Option.getD · _) (Escaping.unescape_escape (e := pathEscaping) seg)
    rw [List.map_congr_left fun seg _ => hread seg, List.map_id']

theorem parseReference_of_not_mem {text : Bytes} (h : '#'.toUInt8 ∉ text) :
    parseReference text = parse text := by
  have hfragment : (fun _ : Url => (unescape false []).isSome) = fun _ => true := by
    rw [unescape_nil, Option.isSome_some]
  rw [parseReference, cut_of_not_mem h]
  dsimp only
  rw [hfragment]
  cases parse text <;> rfl

theorem parse_plain {path query : Bytes} (hrooted : path.head? = some '/'.toUInt8)
    (hplain : ∀ b ∈ path, Ordinary b) (hquery : ∀ b ∈ query, Sendable b) :
    parse (path ++ queryText false query) =
        some ⟨path, if pathEscaping.escape path = path then [] else path, false, query⟩ ∧
      parseReference (path ++ queryText false query) = parse (path ++ queryText false query) := by
  have hpath : Url.Escaped path path :=
    { rooted := hrooted
      printable := fun b hb => (hplain b hb).1
      unmarked := fun h => (hplain _ h).2.2.1 rfl
      read := unescape_of_not_mem fun h => (hplain _ h).2.1 rfl }
  have hmark : '#'.toUInt8 ∉ path ++ queryText false query :=
    not_mem_append_queryText _ (by decide) (fun h => (hplain _ h).2.2.2 rfl) fun h => (hquery _ h).2.1 rfl
  exact ⟨@parse_append path path query false hpath (fun b hb => (hquery b hb).1)
    fun h => absurd h Bool.false_ne_true, parseReference_of_not_mem hmark⟩

/-- A plain path arrives as it is, and the query behind it. -/
theorem arrives {path query : Bytes} (hrooted : path.head? = some '/'.toUInt8)
    (hplain : ∀ b ∈ path, Ordinary b) (hquery : ∀ b ∈ query, Sendable b) :
    ∃ sent received, parseReference (path ++ queryText false query) = some sent ∧
      receive sent.requestURI = some received ∧ received.names = path.tail.splitOn '/'.toUInt8 ∧
      clean received.segments = clean (path.tail.splitOn '/'.toUInt8) ∧ received.rawQuery = query := by
  obtain ⟨hparse, hreference⟩ := parse_plain hrooted hplain hquery
  obtain ⟨received, hreceived, hsame, hescaped, hrawQuery⟩ :=
    receive_requestURI hparse fun h => (hquery _ h).2.2 rfl
  obtain ⟨hnames, hclean⟩ := (parse_parsed hparse).names_of_plain (fun h => (hplain _ h).2.1 rfl) (by
    dsimp only
    split
    · exact .inl rfl
    · exact .inr rfl)
  refine ⟨_, received, hreference.trans hparse, hreceived, ?_, ?_, hrawQuery⟩
  · rw [← hnames, Url.names, Url.segments, hescaped]
    rfl
  · rw [← hclean, Url.segments, hescaped]
    rfl

/-- A path that is written with safe bytes is sent as it is written. -/
theorem requestURI_of_safe {path query : Bytes} {u : Url} (hrooted : path.head? = some '/'.toUInt8)
    (hplain : ∀ b ∈ path, Ordinary b) (hsafe : ∀ b ∈ path, pathEscaping.safe b = true)
    (hquery : ∀ b ∈ query, Sendable b) (h : parseReference (path ++ queryText false query) = some u) :
    u.requestURI = path ++ queryText false query := by
  have hescape : pathEscaping.escape path = path := Escaping.escape_of_safe hsafe
  obtain ⟨hparse, hreference⟩ := parse_plain hrooted hplain hquery
  rw [← hreference, h, Option.some_inj, if_pos hescape] at hparse
  subst hparse
  have hne : path ≠ [] := by
    rintro rfl
    cases hrooted
  have hstar : path ≠ ['*'.toUInt8] := by
    rintro rfl
    revert hrooted
    decide
  have hescaped : Url.escapedPath ⟨path, [], false, query⟩ = path := by
    rw [Url.escapedPath, if_neg fun h => h.1 rfl, if_neg hstar, hescape]
  rw [Url.requestURI, hescaped, if_neg hne]

/-! ## Addresses -/

def digit (b : UInt8) : Bool := decide (48 ≤ b.toNat ∧ b.toNat ≤ 57)

/-- A byte that the name of a host has. -/
def hostByte (b : UInt8) : Bool := alphanumeric b || among "-.".toList b

/-- A scheme of the web and the name of a host, with a port or none. -/
structure Origin where
  scheme : Bytes
  host : Bytes
  port : Option Bytes
  web : scheme ∈ [bytes "http", bytes "https"]
  named : host ≠ [] ∧ host.all hostByte = true
  numbered : ∀ digits ∈ port, digits ≠ [] ∧ digits.all digit = true

namespace Origin

variable (o : Origin)

def authority : Bytes := o.host ++ (o.port.map (':'.toUInt8 :: ·)).getD []

def text : Bytes := o.scheme ++ ':'.toUInt8 :: (bytes "//" ++ o.authority)

theorem ordinary_authority : ∀ b ∈ o.authority, Ordinary b ∧ b ≠ '/'.toUInt8 := by
  have hbyte : ∀ b : UInt8, hostByte b = true ∨ digit b = true → Ordinary b ∧ b ≠ '/'.toUInt8 :=
    forall_byte (P := fun b => hostByte b = true ∨ digit b = true → Ordinary b ∧ b ≠ '/'.toUInt8)
      (by decide +kernel)
  intro b hb
  rcases List.mem_append.mp hb with hb | hb
  · exact hbyte b (.inl (List.all_eq_true.mp o.named.2 b hb))
  · cases hport : o.port with
    | none =>
      rw [hport] at hb
      cases hb
    | some digits =>
      rw [hport] at hb
      rcases List.mem_cons.mp hb with rfl | hb
      · decide
      · exact hbyte b (.inr (List.all_eq_true.mp (o.numbered digits hport).2 b hb))

theorem authority_ne_nil : o.authority ≠ [] :=
  List.append_ne_nil_of_left_ne_nil o.named.1 _

/-- The scheme is letters, in lower case. -/
theorem scheme_plain :
    o.scheme.map lower = o.scheme ∧ ':'.toUInt8 ∉ o.scheme ∧ ∀ b ∈ o.scheme, Ordinary b := by
  have hletters : ∀ bs : Bytes, bs.all alphanumeric = true → ':'.toUInt8 ∉ bs ∧ ∀ b ∈ bs, Ordinary b := by
    have hbyte : ∀ b : UInt8, alphanumeric b = true → b ≠ ':'.toUInt8 ∧ Ordinary b :=
      forall_byte (P := fun b => alphanumeric b = true → b ≠ ':'.toUInt8 ∧ Ordinary b) (by decide +kernel)
    intro bs hbs
    rw [List.all_eq_true] at hbs
    exact ⟨fun hmem => (hbyte _ (hbs _ hmem)).1 rfl, fun b hb => (hbyte b (hbs b hb)).2⟩
  rcases List.mem_pair.mp o.web with h | h <;> rw [h]
  · exact ⟨rfl, hletters _ (by decide)⟩
  · exact ⟨rfl, hletters _ (by decide)⟩

theorem ordinary_text : ∀ b ∈ o.text, Ordinary b := by
  intro b hb
  rcases List.mem_append.mp hb with hb | hb
  · exact o.scheme_plain.2.2 b hb
  rcases List.mem_cons.mp hb with rfl | hb
  · decide
  rcases List.mem_append.mp hb with hb | hb
  · obtain rfl | rfl := List.mem_pair.mp hb <;> decide
  · exact (o.ordinary_authority b hb).1

end Origin

/-- Behind the name of a host, a reference is read as it is without it. -/
theorem parseAddress_append (o : Origin) {reference : Bytes} {u : Url}
    (h : parseReference reference = some u) :
    parseAddress (o.text ++ reference) = some ⟨o.scheme, o.authority, u⟩ := by
  obtain ⟨rest, fragment, hcut⟩ : ∃ rest fragment, cut '#'.toUInt8 reference = (rest, fragment) :=
    ⟨_, _, rfl⟩
  rw [parseReference, hcut] at h
  obtain ⟨hparse, hfragment⟩ := Option.filter_eq_some_iff.mp h
  obtain ⟨hcontrol, hrooted, path, hread, rfl⟩ := parse_eq_some hparse
  have hunmarked : ∀ c : UInt8, c = '#'.toUInt8 ∨ c = '?'.toUInt8 → c ∉ o.text := by
    rintro c (rfl | rfl) hmem
    · exact (o.ordinary_text _ hmem).2.2.2 rfl
    · exact (o.ordinary_text _ hmem).2.2.1 rfl
  obtain ⟨tail, hslash⟩ := List.head?_eq_some_iff.mp hrooted
  have hne : rest ≠ [] := by
    rintro rfl
    cases hslash
  -- neither the fragment nor the characters refuse what is in front
  have hkept : ¬ ((o.text ++ rest).any control = true ∨ unescape false fragment = none) := by
    rw [not_or, List.any_append, hcontrol, Bool.or_false, Bool.not_eq_true, List.any_eq_false]
    exact ⟨fun b hb => Bool.not_eq_true _ ▸ (o.ordinary_text b hb).1, fun hnone => by
      rw [hnone] at hfragment
      cases hfragment⟩
  have hscheme : cut ':'.toUInt8 (o.text ++ rest) = (o.scheme, bytes "//" ++ o.authority ++ rest) := by
    rw [Origin.text, List.append_assoc, List.cons_append]
    exact cut_append o.scheme_plain.2.1 _
  have hquery : splitQuery (bytes "//" ++ o.authority ++ rest) =
      (bytes "//" ++ o.authority ++ (splitQuery rest).1, (splitQuery rest).2) :=
    splitQuery_append_left (fun hmem => hunmarked _ (.inr rfl)
      (List.mem_append_right _ (List.mem_cons_of_mem _ hmem))) hne
  have hall : ∀ b ∈ o.authority, decide (b ≠ '/'.toUInt8) = true := fun b hb =>
    decide_eq_true (o.ordinary_authority b hb).2
  have hdrop : (bytes "//" ++ o.authority ++ (splitQuery rest).1).drop 2 =
      o.authority ++ '/'.toUInt8 :: tail := by
    rw [hslash, List.append_assoc]
    rfl
  have htake : (bytes "//" ++ o.authority ++ (splitQuery rest).1).take 2 = bytes "//" := rfl
  have hauthority : (o.authority ++ '/'.toUInt8 :: tail).takeWhile (· ≠ '/'.toUInt8) = o.authority := by
    rw [List.takeWhile_append_of_pos hall]
    simp
  have hpath : (o.authority ++ '/'.toUInt8 :: tail).dropWhile (· ≠ '/'.toUInt8) = '/'.toUInt8 :: tail := by
    rw [List.dropWhile_append_of_pos hall]
    simp
  rw [parseAddress, cut_append_left (hunmarked _ (.inl rfl)), hcut]
  dsimp only
  rw [if_neg hkept, hscheme]
  dsimp only
  rw [hquery]
  dsimp only
  rw [hdrop, htake, hauthority, hpath, o.scheme_plain.1, if_pos ⟨o.web, rfl, o.authority_ne_nil⟩,
    ← hslash, hread]
  rfl

end Urlencoded
