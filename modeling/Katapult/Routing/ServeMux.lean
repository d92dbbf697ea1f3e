/-
  Katapult.Routing.ServeMux

  A request multiplexer with patterns of a method and a path, by the documented
  rules of net/http: a wildcard stands for one segment that is not empty, `GET`
  also takes `HEAD`, and of the patterns that match a request the most specific
  one takes precedence.  The one pattern that ends in a slash is `/`, which
  matches every path.

  Patterns that overlap without one of them covering the other are refused when
  they are registered (`Compatible`); so among the patterns that match a request
  one is covered by all others (`dispatch_of_matches`).
-/

import Mathlib.Data.List.Basic

namespace Routing

/-! ## Patterns -/

inductive Segment where
  | literal (text : String)
  | wildcard (name : String)
  deriving DecidableEq

inductive PathPattern where
  | exact (segments : List Segment)
  /-- The pattern `/`. -/
  | all
  deriving DecidableEq

structure Pattern where
  /-- Without a method, the pattern matches every method. -/
  method : Option String
  path : PathPattern
  deriving DecidableEq

/-- What a request is dispatched by: its method, and the segments of its path,
    unescaped; an empty last segment is a trailing slash. -/
structure Target where
  method : String
  path : List String
  /-- The path is its own clean form. -/
  canonical : Bool
  deriving DecidableEq

namespace Segment

def matches_ : Segment → String → Bool
  | .literal text, s => text = s
  | .wildcard _, s => s ≠ ""

/-- Whatever matches `p` matches the segment. -/
def covers : Segment → Segment → Bool
  | .literal text, .literal text' => text = text'
  | .literal _, .wildcard _ => false
  | .wildcard _, .literal text => text ≠ ""
  | .wildcard _, .wildcard _ => true

/-- Nothing matches both. -/
def apart : Segment → Segment → Bool
  | .literal text, .literal text' => text ≠ text'
  | _, _ => false

/-- The value of a wildcard. -/
def value (p : Segment) (s : String) : Option (String × String) :=
  match p with
  | .literal _ => none
  | .wildcard name => some (name, s)

theorem covers_refl (p : Segment) : p.covers p = true := by
  cases p with
  | literal text => simp [covers]
  | wildcard name => rfl

theorem covers_trans {p q r : Segment} (hpq : p.covers q = true) (hqr : q.covers r = true) :
    p.covers r = true := by
  cases p <;> cases q <;> cases r <;> simp_all [covers]

theorem not_matches_of_apart {p q : Segment} {s : String} (h : p.apart q = true)
    (hp : p.matches_ s = true) : q.matches_ s = false := by
  cases p with
  | wildcard name => cases h
  | literal text =>
    cases q with
    | wildcard name => cases h
    | literal text' =>
      have hne : text ≠ text' := of_decide_eq_true h
      have heq : text = s := of_decide_eq_true hp
      exact decide_eq_false fun heq' => hne (heq.trans heq'.symm)

end Segment

namespace PathPattern

def matchSegments : List Segment → List String → Bool
  | [], [] => true
  | p :: ps, s :: ss => p.matches_ s && matchSegments ps ss
  | _, _ => false

def matches_ : PathPattern → List String → Bool
  | .exact ps, path => matchSegments ps path
  | .all, _ => true

def coverSegments : List Segment → List Segment → Bool
  | [], [] => true
  | p :: ps, q :: qs => p.covers q && coverSegments ps qs
  | _, _ => false

def covers : PathPattern → PathPattern → Bool
  | .all, _ => true
  | .exact ps, .exact qs => coverSegments ps qs
  | .exact _, .all => false

def apartSegments : List Segment → List Segment → Bool
  | [], [] => false
  | p :: ps, q :: qs => p.apart q || apartSegments ps qs
  | _, _ => true

def apart : PathPattern → PathPattern → Bool
  | .exact ps, .exact qs => apartSegments ps qs
  | _, _ => false

/-- The values of the wildcards. -/
def values : PathPattern → List String → List (String × String)
  | .exact ps, path => (ps.zip path).filterMap fun (p, s) => p.value s
  | .all, _ => []

theorem covers_refl (p : PathPattern) : p.covers p = true := by
  cases p with
  | all => rfl
  | exact ps =>
    show coverSegments ps ps = true
    induction ps with
    | nil => rfl
    | cons p ps ih => simp [coverSegments, Segment.covers_refl, ih]

theorem coverSegments_trans {ps qs rs : List Segment} (hpq : coverSegments ps qs = true)
    (hqr : coverSegments qs rs = true) : coverSegments ps rs = true := by
  induction ps generalizing qs rs with
  | nil =>
    cases qs with
    | nil => exact hqr
    | cons q qs => cases hpq
  | cons p ps ih =>
    cases qs with
    | nil => cases hpq
    | cons q qs =>
      cases rs with
      | nil => cases hqr
      | cons r rs =>
        simp only [coverSegments, Bool.and_eq_true] at hpq hqr ⊢
        exact ⟨Segment.covers_trans hpq.1 hqr.1, ih hpq.2 hqr.2⟩

theorem covers_trans {p q r : PathPattern} (hpq : p.covers q = true) (hqr : q.covers r = true) :
    p.covers r = true := by
  cases p with
  | all => rfl
  | exact ps =>
    cases q with
    | all => cases hpq
    | exact qs =>
      cases r with
      | all => cases hqr
      | exact rs => exact coverSegments_trans hpq hqr

theorem not_matchSegments_of_apart {ps qs : List Segment} {path : List String}
    (h : apartSegments ps qs = true) (hp : matchSegments ps path = true) :
    matchSegments qs path = false := by
  induction ps generalizing qs path with
  | nil =>
    cases path with
    | nil =>
      cases qs with
      | nil => cases h
      | cons q qs => rfl
    | cons s path => cases hp
  | cons p ps ih =>
    cases path with
    | nil => cases hp
    | cons s path =>
      cases qs with
      | nil => rfl
      | cons q qs =>
        simp only [matchSegments, Bool.and_eq_true] at hp
        simp only [apartSegments, Bool.or_eq_true] at h
        rcases h with happart | hrest
        · simp [matchSegments, Segment.not_matches_of_apart happart hp.1]
        · simp [matchSegments, ih hrest hp.2]

theorem not_matches_of_apart {p q : PathPattern} {path : List String} (h : p.apart q = true)
    (hp : p.matches_ path = true) : q.matches_ path = false := by
  cases p with
  | all => cases h
  | exact ps =>
    cases q with
    | all => cases h
    | exact qs => exact not_matchSegments_of_apart h hp

end PathPattern

/-! ## Methods -/

/-- A pattern with method `m` takes requests with method `m'`. -/
def takesMethod (m m' : String) : Bool := m = m' || (m = "GET" && m' = "HEAD")

theorem takesMethod_iff {m m' : String} :
    takesMethod m m' = true ↔ m = m' ∨ m = "GET" ∧ m' = "HEAD" := by
  simp [takesMethod]

theorem takesMethod_trans {m m' m'' : String} (h : takesMethod m m' = true)
    (h' : takesMethod m' m'' = true) : takesMethod m m'' = true := by
  rw [takesMethod_iff] at *
  rcases h with rfl | ⟨rfl, rfl⟩
  · exact h'
  · rcases h' with rfl | ⟨hget, -⟩
    · exact .inr ⟨rfl, rfl⟩
    · exact absurd hget (by decide)

/-- A request with a method that both patterns take makes one method take the other. -/
theorem takesMethod_or {m m' x : String} (h : takesMethod m x = true) (h' : takesMethod m' x = true) :
    takesMethod m m' = true ∨ takesMethod m' m = true := by
  simp only [takesMethod_iff] at *
  rcases h with rfl | ⟨rfl, rfl⟩
  · exact .inr h'
  · rcases h' with rfl | ⟨rfl, -⟩
    · exact .inl (.inr ⟨rfl, rfl⟩)
    · exact .inl (.inl rfl)

namespace Pattern

def matchesMethod (p : Pattern) (method : String) : Bool :=
  match p.method with
  | none => true
  | some m => takesMethod m method

def matches_ (p : Pattern) (x : Target) : Bool := p.matchesMethod x.method && p.path.matches_ x.path

def coversMethod (p q : Pattern) : Bool :=
  match p.method, q.method with
  | none, _ => true
  | some _, none => false
  | some m, some m' => takesMethod m m'

/-- Whatever matches `q` matches `p`. -/
def covers (p q : Pattern) : Bool := p.coversMethod q && p.path.covers q.path

def apartMethod (p q : Pattern) : Bool :=
  match p.method, q.method with
  | some m, some m' => !takesMethod m m' && !takesMethod m' m
  | _, _ => false

/-- Nothing matches both. -/
def apart (p q : Pattern) : Bool := p.apartMethod q || p.path.apart q.path

/-- Two patterns that can be registered together. -/
def Compatible (p q : Pattern) : Prop := p.apart q = true ∨ p.covers q = true ∨ q.covers p = true

instance (p q : Pattern) : Decidable (p.Compatible q) := inferInstanceAs (Decidable (_ ∨ _ ∨ _))

theorem covers_refl (p : Pattern) : p.covers p = true := by
  have hmethod : p.coversMethod p = true := by
    unfold coversMethod
    cases p.method with
    | none => rfl
    | some m => exact takesMethod_iff.mpr (.inl rfl)
  rw [covers, hmethod, p.path.covers_refl]
  rfl

theorem coversMethod_trans {p q r : Pattern} (hpq : p.coversMethod q = true)
    (hqr : q.coversMethod r = true) : p.coversMethod r = true := by
  unfold coversMethod at *
  cases hp : p.method with
  | none => rfl
  | some m =>
    rw [hp] at hpq
    cases hq : q.method with
    | none => rw [hq] at hpq; cases hpq
    | some m' =>
      rw [hq] at hpq hqr
      cases hr : r.method with
      | none => rw [hr] at hqr; cases hqr
      | some m'' =>
        rw [hr] at hqr
        exact takesMethod_trans hpq hqr

theorem covers_trans {p q r : Pattern} (hpq : p.covers q = true) (hqr : q.covers r = true) :
    p.covers r = true := by
  simp only [covers, Bool.and_eq_true] at hpq hqr ⊢
  exact ⟨coversMethod_trans hpq.1 hqr.1, PathPattern.covers_trans hpq.2 hqr.2⟩

theorem not_matchesMethod_of_apart {p q : Pattern} {method : String} (h : p.apartMethod q = true)
    (hp : p.matchesMethod method = true) : q.matchesMethod method = false := by
  unfold apartMethod at h
  unfold matchesMethod at *
  cases hm : p.method with
  | none => rw [hm] at h; cases h
  | some m =>
    rw [hm] at h hp
    cases hm' : q.method with
    | none => rw [hm'] at h; cases h
    | some m' =>
      rw [hm'] at h
      simp only [Bool.and_eq_true, Bool.not_eq_true'] at h
      by_contra htakes
      rcases takesMethod_or hp (by simpa using htakes) with hor | hor
      · rw [h.1] at hor
        cases hor
      · rw [h.2] at hor
        cases hor

theorem not_matches_of_apart {p q : Pattern} {x : Target} (h : p.apart q = true)
    (hp : p.matches_ x = true) : q.matches_ x = false := by
  simp only [matches_, Bool.and_eq_true] at hp
  simp only [apart, Bool.or_eq_true] at h
  rcases h with hmethod | hpath
  · rw [matches_, not_matchesMethod_of_apart hmethod hp.1, Bool.false_and]
  · rw [matches_, PathPattern.not_matches_of_apart hpath hp.2, Bool.and_false]

end Pattern

/-! ## Dispatch -/

/-- What the multiplexer decides about a request. -/
inductive Dispatch (ρ : Type) where
  /-- The path is not clean: the client is sent to the clean one. -/
  | redirect
  | found (pattern : Pattern) (route : ρ)
  /-- Only the method of the request does not match. -/
  | methodNotAllowed
  | notFound

variable {ρ : Type}

/-- The routes whose pattern matches. -/
def candidates (routes : List (Pattern × ρ)) (x : Target) : List (Pattern × ρ) :=
  routes.filter fun r => r.1.matches_ x

/-- The most specific of some routes. -/
def mostSpecific (rs : List (Pattern × ρ)) : Option (Pattern × ρ) :=
  rs.find? fun r => rs.all fun r' => r'.1.covers r.1

def dispatch (routes : List (Pattern × ρ)) (x : Target) : Dispatch ρ :=
  if x.canonical = false then .redirect
  else
    match mostSpecific (candidates routes x) with
    | some (pattern, route) => .found pattern route
    | none =>
      -- some route has the path, with another method
      if routes.any fun r => r.1.path.matches_ x.path then .methodNotAllowed else .notFound

/-- Among patterns of which always one covers the other, one is covered by all. -/
theorem exists_covered {rs : List (Pattern × ρ)} (hne : rs ≠ [])
    (htotal : rs.Pairwise fun r r' => r.1.covers r'.1 = true ∨ r'.1.covers r.1 = true) :
    ∃ r ∈ rs, ∀ r' ∈ rs, r'.1.covers r.1 = true := by
  induction rs with
  | nil => exact absurd rfl hne
  | cons a rest ih =>
    obtain ⟨ha, hrest⟩ := List.pairwise_cons.mp htotal
    by_cases hnil : rest = []
    · subst hnil
      refine ⟨a, List.mem_cons_self, fun r' hr' => ?_⟩
      rw [List.mem_singleton.mp hr']
      exact a.1.covers_refl
    · obtain ⟨c, hc, hleast⟩ := ih hnil hrest
      -- `a` against the most specific of the rest
      rcases ha c hc with hac | hca
      · refine ⟨c, List.mem_cons_of_mem a hc, fun r' hr' => ?_⟩
        rcases List.mem_cons.mp hr' with rfl | hr'
        · exact hac
        · exact hleast r' hr'
      · refine ⟨a, List.mem_cons_self, fun r' hr' => ?_⟩
        rcases List.mem_cons.mp hr' with rfl | hr'
        · exact r'.1.covers_refl
        · exact Pattern.covers_trans (hleast r' hr') hca

/-- A request that matches a route is dispatched to it, or to one that is more specific. -/
theorem dispatch_of_matches {routes : List (Pattern × ρ)} {x : Target} {r : Pattern × ρ}
    (hcompatible : routes.Pairwise fun r r' => r.1.Compatible r'.1) (hcanonical : x.canonical = true)
    (hr : r ∈ routes) (hx : r.1.matches_ x = true) :
    ∃ r' ∈ routes, dispatch routes x = .found r'.1 r'.2 ∧ r'.1.matches_ x = true ∧
      r.1.covers r'.1 = true := by
  have hmem : r ∈ candidates routes x := List.mem_filter.mpr ⟨hr, hx⟩
  have htotal : (candidates routes x).Pairwise fun r r' =>
      r.1.covers r'.1 = true ∨ r'.1.covers r.1 = true := by
    refine (List.pairwise_filter.mpr (hcompatible.imp fun {r r'} hcomp hm hm' => ?_))
    -- two patterns that match one request are not apart
    rcases hcomp with happart | hcovers
    · rw [Pattern.not_matches_of_apart happart hm] at hm'
      cases hm'
    · exact hcovers
  obtain ⟨c, hc, hleast⟩ := exists_covered (List.ne_nil_of_mem hmem) htotal
  have hsome : (mostSpecific (candidates routes x)).isSome = true := by
    rw [mostSpecific, List.find?_isSome]
    exact ⟨c, hc, List.all_eq_true.mpr hleast⟩
  obtain ⟨⟨pattern, route⟩, hfound⟩ := Option.isSome_iff_exists.mp hsome
  have hcand := List.mem_filter.mp (List.mem_of_find?_eq_some hfound)
  have hcovered : r.1.covers pattern = true := by
    rw [mostSpecific, List.find?_eq_some_iff_append] at hfound
    exact List.all_eq_true.mp hfound.1 r hmem
  refine ⟨(pattern, route), hcand.1, ?_, hcand.2, hcovered⟩
  have hnot : ¬ x.canonical = false := by
    rw [hcanonical]
    nofun
  rw [dispatch, if_neg hnot, hfound]

/-- A request is dispatched to a registered route only. -/
theorem mem_of_dispatch {routes : List (Pattern × ρ)} {x : Target} {pattern : Pattern} {route : ρ}
    (h : dispatch routes x = .found pattern route) : (pattern, route) ∈ routes := by
  unfold dispatch at h
  split at h
  · cases h
  split at h
  · rename_i hfound
    cases h
    exact (List.mem_filter.mp (List.mem_of_find?_eq_some hfound)).1
  · split at h <;> cases h

end Routing
