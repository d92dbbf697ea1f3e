/-
  Katapult.Http.Wire

  Requests of the REST API as they are sent: an address, an `Authorization`
  header, and a body.

  What the handlers read of a request is what the server makes of these
  (`WireRequest.received`).  A request for plain segments, with the parameters of
  a query, arrives with both (`WireRequest.received_of_plain`).
-/

import Katapult.Http.Server
import Katapult.Urlencoded.Url
import Mathlib.Data.List.DropRight

namespace Katapult

open Effect Routing Urlencoded

/-! ## Headers -/

/-- A character that no header may have. -/
def headerControl (c : Char) : Bool := decide (c.toNat < 32 ∧ c ≠ '\t' ∨ c.toNat = 127)

/-- A blank, which is not kept at the end of a header. -/
def headerBlank (c : Char) : Bool := decide (c = ' ' ∨ c = '\t')

/-- The value of a header, as it arrives; `none` if it cannot be sent. -/
def headerValue (value : String) : Option String :=
  if value.toList.any headerControl then none
  else some (String.ofList (value.toList.rdropWhile headerBlank))

/-- A token that arrives as it is. -/
def SendableToken (token : String) : Prop :=
  token.toList.any headerControl = false ∧ ∀ c ∈ token.toList.getLast?, headerBlank c = false

theorem headerValue_bearer {token : String} (h : SendableToken token) (hne : token ≠ "") :
    headerValue ("Bearer " ++ token) = some ("Bearer " ++ token) := by
  have hscheme : "Bearer ".toList.any headerControl = false := by decide
  have hsent : ("Bearer " ++ token).toList.any headerControl = false := by
    rw [String.toList_append, List.any_append, hscheme, h.1, Bool.or_false]
  -- the last character is the token's, so the blank of the scheme is not cut
  have hkept : ("Bearer " ++ token).toList.rdropWhile headerBlank = ("Bearer " ++ token).toList := by
    rw [List.rdropWhile_eq_self_iff]
    intro hchars
    have hlast : ("Bearer " ++ token).toList.getLast hchars ∈ token.toList.getLast? := by
      have htoken : token.toList ≠ [] := by simpa using hne
      rw [Option.mem_def, ← List.getLast?_eq_some_getLast hchars, String.toList_append,
        List.getLast?_append_of_ne_nil _ htoken]
    rw [h.2 _ hlast]
    exact Bool.false_ne_true
  rw [headerValue, hsent, if_neg Bool.false_ne_true, hkept, String.ofList_toList]

/-! ## Requests -/

structure WireRequest where
  /-- The scheme and the host that it is sent to; nothing for those of a page. -/
  server : Bytes
  method : String
  /-- The path and the query. -/
  uri : Bytes
  /-- The value of the `Authorization` header, if there is one. -/
  authorization : Option String
  body : Option CreateTransferInput := none

/-- The request as the handlers are given it; `none` if the server cannot make
    sense of it, or its path is not a text. -/
def WireRequest.received (w : WireRequest) : Option HttpRequest := do
  let url ← receive w.uri
  let path ← url.names.mapM text
  return {
    target := ⟨w.method, path, clean url.segments⟩
    authorization := w.authorization.toList
    query := readQuery url.rawQuery
    body := w.body }

/-- A segment of a path that arrives as it is. -/
structure PlainSegment (s : String) : Prop where
  plain : ∀ b ∈ bytes s, Ordinary b ∧ b ≠ '/'.toUInt8
  dots : s ≠ "." ∧ s ≠ ".."
  some : s ≠ ""

theorem PlainSegment.of_all {s : String}
    (hplain : (bytes s).all (fun b => decide (Ordinary b ∧ b ≠ '/'.toUInt8)) = true)
    (hdots : s ≠ "." ∧ s ≠ "..") (hsome : s ≠ "") : PlainSegment s :=
  ⟨fun b hb => of_decide_eq_true (List.all_eq_true.mp hplain b hb), hdots, hsome⟩

/-- The path of these segments. -/
def slashed (segments : List String) : Bytes := segments.flatMap fun s => '/'.toUInt8 :: bytes s

theorem forall_mem_slashed {p : UInt8 → Prop} {segments : List String} (hslash : p '/'.toUInt8)
    (h : ∀ s ∈ segments, ∀ b ∈ bytes s, p b) : ∀ b ∈ slashed segments, p b := by
  intro b hb
  obtain ⟨s, hs, hb⟩ := List.mem_flatMap.mp hb
  rcases List.mem_cons.mp hb with rfl | hb
  · exact hslash
  · exact h s hs b hb

theorem bytes_injective : Function.Injective bytes := by
  intro s t h
  have htext := text_bytes s
  rw [h, text_bytes, Option.some_inj] at htext
  exact htext.symm

theorem mapM_text (segments : List String) : (segments.map bytes).mapM text = some segments := by
  induction segments with
  | nil => rfl
  | cons s segments ih =>
    rw [List.map_cons, List.mapM_cons, ih, text_bytes]
    rfl

theorem slashed_eq {segments : List String} (h : segments ≠ []) :
    slashed segments = '/'.toUInt8 :: ['/'.toUInt8].intercalate (segments.map bytes) := by
  induction segments with
  | nil => exact absurd rfl h
  | cons s segments ih =>
    cases segments with
    | nil => simp [slashed]
    | cons s' segments =>
      rw [slashed, List.flatMap_cons, ← slashed, ih (by simp)]
      simp only [List.map_cons, List.intercalate_cons_cons, List.cons_append, List.append_assoc,
        List.nil_append]

theorem clean_of_plain {segments : List String} (h : ∀ s ∈ segments, PlainSegment s) :
    clean (segments.map bytes) = true := by
  have hne : ∀ (s t : String), s ≠ t → bytes s ≠ bytes t := fun s t hst => bytes_injective.ne hst
  rw [clean, Bool.and_eq_true, List.all_eq_true, List.all_eq_true]
  constructor
  · intro seg hseg
    obtain ⟨s, hs, rfl⟩ := List.mem_map.mp hseg
    obtain ⟨hone, htwo⟩ := (h s hs).dots
    exact decide_eq_true ⟨hne s "." hone, hne s ".." htwo⟩
  · intro seg hseg
    obtain ⟨s, hs, rfl⟩ := List.mem_map.mp (List.dropLast_subset _ hseg)
    exact decide_eq_true (hne s "" (h s hs).some)

/-- Plain segments and a query arrive as they are. -/
theorem WireRequest.received_of_plain {segments : List String} (hplain : ∀ s ∈ segments, PlainSegment s)
    (hne : segments ≠ []) (e : QueryEscaping) (hsafe : ∀ b, e.safe b = true → Sendable b)
    (query : List (String × String)) (server : Bytes) (method : String) (authorization : Option String)
    (body : Option CreateTransferInput) :
    ∃ url, parseReference (slashed segments ++ queryText false (e.write query)) = some url ∧
      (WireRequest.mk server method url.requestURI authorization body).received =
        some { target := ⟨method, segments, true⟩, authorization := authorization.toList
               query := query, body := body } := by
  have hslashed := slashed_eq hne
  have hbytes : ∀ b ∈ slashed segments, Ordinary b :=
    forall_mem_slashed (by decide) fun s hs b hb => ((hplain s hs).plain b hb).1
  -- no segment has a slash of its own
  have hsplit : (slashed segments).tail.splitOn '/'.toUInt8 = segments.map bytes := by
    rw [hslashed, List.tail_cons]
    refine List.splitOn_intercalate _ (fun seg hseg hslash => ?_) (by simpa using hne)
    obtain ⟨s, hs, rfl⟩ := List.mem_map.mp hseg
    exact ((hplain s hs).plain _ hslash).2 rfl
  obtain ⟨sent, url, hparse, hreceive, hnames, hclean, hquery⟩ :=
    arrives (by rw [hslashed, List.head?_cons]) hbytes (e.sendable_encode hsafe _)
  refine ⟨sent, hparse, ?_⟩
  rw [hsplit] at hnames hclean
  rw [received, hreceive, Option.bind_eq_bind, Option.bind_some, hnames, mapM_text, hclean,
    clean_of_plain hplain, hquery, ← QueryEscaping.write, readQuery_write]
  rfl

/-- Segments of safe bytes need no other form. -/
theorem WireRequest.received_of_safe {segments : List String} (hplain : ∀ s ∈ segments, PlainSegment s)
    (hsafe : ∀ s ∈ segments, ∀ b ∈ bytes s, pathEscaping.safe b = true) (hne : segments ≠ [])
    (e : QueryEscaping) (hquery : ∀ b, e.safe b = true → Sendable b) (query : List (String × String))
    (server : Bytes) (method : String) (authorization : Option String)
    (body : Option CreateTransferInput) :
    (WireRequest.mk server method (slashed segments ++ queryText false (e.write query)) authorization
        body).received =
      some { target := ⟨method, segments, true⟩, authorization := authorization.toList
             query := query, body := body } := by
  obtain ⟨url, hparse, hreceived⟩ :=
    received_of_plain hplain hne e hquery query server method authorization body
  have hbytes : ∀ b ∈ slashed segments, Ordinary b :=
    forall_mem_slashed (by decide) fun s hs b hb => ((hplain s hs).plain b hb).1
  have hkept : ∀ b ∈ slashed segments, pathEscaping.safe b = true :=
    forall_mem_slashed (by decide) hsafe
  have huri := requestURI_of_safe (by rw [slashed_eq hne, List.head?_cons]) hbytes hkept
    (e.sendable_encode hquery _) hparse
  rwa [huri] at hreceived

/-! ## The server -/

/-- The server, as it is sent a request. -/
def HttpServer.serveWire [UUIDText] (s : HttpServer) (rounds : Nat) (v : StaticTokenValidator)
    (w : WireRequest) : Prog HttpCall HttpCall.Ans (Except Err Reply) :=
  match w.received with
  | none => .pure (.ok ⟨400, .text "400 Bad Request"⟩)
  | some r => s.handle rounds v r >>= fun reply => .pure (.ok reply)

end Katapult
