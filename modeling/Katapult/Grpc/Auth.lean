/-
  Katapult.Grpc.Auth

  Token authentication of agents.  Parsing and verifying a token is the work of
  a third-party package: `parseWithClaims` stands for it, given a key function
  and a token.  It succeeds on well-signed unexpired tokens, and a member that
  the token's claims do not have is absent from what it returns.
-/

import Katapult.Domain.Format
import Katapult.Effect.Prog

namespace Katapult

open Effect

/-! ## Status errors -/

/-- The status codes that the server answers with. -/
inductive Code where
  | invalidArgument | notFound | permissionDenied | unauthenticated | failedPrecondition
  | internal | unimplemented
  deriving DecidableEq, Repr

structure Status where
  code : Code
  message : String
  deriving DecidableEq, Repr

/-! ## Claims -/

structure ServiceAccountID where
  name : String
  uid : String
  deriving DecidableEq, Repr

structure KubernetesClaims where
  namespace_ : String
  serviceAccount : Option ServiceAccountID
  deriving DecidableEq, Repr

/-- The claims of a token that the code reads. -/
structure Claims where
  kubernetes : Option KubernetesClaims
  deriving DecidableEq, Repr

/-- The ServiceAccount that the claims name. -/
def Claims.serviceAccount (c : Claims) : Option ServiceAccountID :=
  c.kubernetes.bind KubernetesClaims.serviceAccount

/-! ## The validator -/

structure JWTValidator (KeyFunc : Type) where
  expectedServiceAccount : String
  keyFunc : KeyFunc

section

variable {KeyFunc : Type} (parseWithClaims : KeyFunc → String → Except Err Claims)

/-- Parse and validate a token. -/
def JWTValidator.validateToken (v : JWTValidator KeyFunc) (tokenStr : String) : Except Err Claims :=
  match parseWithClaims v.keyFunc tokenStr with
  | .error err => .error ("invalid agent identity token: " ++ err)
  | .ok claims =>
    if v.expectedServiceAccount = "" then .ok claims
    else
      match claims.serviceAccount with
      | some sa =>
        if sa.name ≠ v.expectedServiceAccount then
          .error ("unauthorized ServiceAccount: expected " ++ quote v.expectedServiceAccount ++
            ", got " ++ quote sa.name)
        else .ok claims
      -- claims that name no ServiceAccount are not compared with anything
      | none => .ok claims

/-! ## The interceptor -/

/-- Request metadata: the values of each lower-case key. -/
abbrev MD : Type := List (String × List String)

/-- What the server reads of a request context. -/
structure Context where
  /-- The incoming metadata. -/
  incoming : Option MD
  /-- The value that the interceptor has put under its key. -/
  claims : Option Claims := none
  deriving DecidableEq

def claimsFromContext (ctx : Context) : Option Claims := ctx.claims

/-- `strings.CutPrefix`. -/
def cutPrefix (s pre : String) : Option String :=
  if pre.toList.isPrefixOf s.toList then some (String.ofList (s.toList.drop pre.length)) else none

def extractToken (ctx : Context) : Except Err String :=
  match ctx.incoming with
  | none => .error "missing metadata"
  | some md =>
    match (md.lookup "authorization").getD [] with
    | [] => .error "missing authorization header"
    | token :: _ => .ok ((cutPrefix token "Bearer ").getD token)

/-- The claims that the interceptor hands on. -/
def authenticate (v : JWTValidator KeyFunc) (ctx : Context) : Except Err Claims :=
  match extractToken ctx with
  | .error err => .error err
  | .ok token => v.validateToken parseWithClaims token

/-- Run the handler with the verified claims in its context. -/
def unaryAuthInterceptor {Op : Type} {Ans : Op → Type} {α : Type} (v : JWTValidator KeyFunc)
    (ctx : Context) (handler : Context → Prog Op Ans (Except Status α)) :
    Prog Op Ans (Except Status α) :=
  match authenticate parseWithClaims v ctx with
  | .error err => .pure (.error ⟨.unauthenticated, err⟩)
  | .ok claims => handler { ctx with claims := some claims }

/-! ## Expected accounts -/

/-- A token is accepted only if its verified claims name the expected account. -/
def AcceptsOnlyExpected (v : JWTValidator KeyFunc) (tokenStr : String) : Prop :=
  ∀ accepted, v.validateToken parseWithClaims tokenStr = .ok accepted →
    ∃ claims sa, parseWithClaims v.keyFunc tokenStr = .ok claims ∧ claims.serviceAccount = some sa ∧
      sa.name = v.expectedServiceAccount

variable {parseWithClaims}

/-- What the validator accepts: verified claims, unless they name another account. -/
theorem JWTValidator.validateToken_eq_ok {v : JWTValidator KeyFunc} {tokenStr : String}
    {claims : Claims} (hexpected : v.expectedServiceAccount ≠ "") :
    v.validateToken parseWithClaims tokenStr = .ok claims ↔
      parseWithClaims v.keyFunc tokenStr = .ok claims ∧
      ∀ sa, claims.serviceAccount = some sa → sa.name = v.expectedServiceAccount := by
  unfold JWTValidator.validateToken
  cases hparse : parseWithClaims v.keyFunc tokenStr with
  | error err => simp
  | ok verified =>
    dsimp only
    rw [if_neg hexpected]
    cases hsa : verified.serviceAccount with
    | none =>
      -- the comparison is left out
      constructor
      · intro h
        cases h
        exact ⟨rfl, by simp [hsa]⟩
      · rintro ⟨h, -⟩
        exact h
    | some sa =>
      dsimp only
      split
      · rename_i hne
        refine iff_of_false nofun ?_
        rintro ⟨h, hall⟩
        cases h
        exact hne (hall sa hsa)
      · rename_i heq
        constructor
        · intro h
          cases h
          refine ⟨rfl, fun sa' hsa' => ?_⟩
          rw [hsa] at hsa'
          cases hsa'
          simpa using heq
        · rintro ⟨h, -⟩
          exact h

/-- Every token: only the expected account is accepted exactly when the token
    is not verified, or its claims name an account at all. -/
theorem acceptsOnlyExpected_iff (v : JWTValidator KeyFunc) (tokenStr : String)
    (hexpected : v.expectedServiceAccount ≠ "") :
    AcceptsOnlyExpected parseWithClaims v tokenStr ↔
      ∀ claims, parseWithClaims v.keyFunc tokenStr = .ok claims → claims.serviceAccount ≠ none := by
  constructor
  · intro honly claims hparse hnone
    -- claims without an account are accepted
    have haccepted := (JWTValidator.validateToken_eq_ok hexpected).mpr
      ⟨hparse, by simp [hnone]⟩
    obtain ⟨claims', sa, hparse', hsa, -⟩ := honly claims haccepted
    rw [hparse] at hparse'
    cases hparse'
    rw [hnone] at hsa
    cases hsa
  · intro hnamed accepted haccepted
    obtain ⟨hparse, hall⟩ := (JWTValidator.validateToken_eq_ok hexpected).mp haccepted
    obtain ⟨sa, hsa⟩ := Option.ne_none_iff_exists'.mp (hnamed accepted hparse)
    exact ⟨accepted, sa, hparse, hsa, hall sa hsa⟩

end

/-! ## Sample tokens -/

/-- Two tokens are well signed: one of an agent, one without Kubernetes claims. -/
def sampleParse : Unit → String → Except Err Claims
  | (), "agent-token" => .ok ⟨some ⟨"katapult", some ⟨"katapult-agent", "uid-1"⟩⟩⟩
  | (), "plain-token" => .ok ⟨none⟩
  | (), _ => .error "token is malformed"

def sampleValidator : JWTValidator Unit := ⟨"katapult-agent", ()⟩

theorem acceptsOnlyExpected_agentToken :
    AcceptsOnlyExpected sampleParse sampleValidator "agent-token" := by
  refine (acceptsOnlyExpected_iff sampleValidator "agent-token" (by decide)).mpr ?_
  intro claims hparse
  cases hparse
  decide

/-- A well-signed token without Kubernetes claims is accepted. -/
theorem not_acceptsOnlyExpected_plainToken :
    ¬ AcceptsOnlyExpected sampleParse sampleValidator "plain-token" := by
  intro honly
  obtain ⟨claims, sa, hparse, hsa, -⟩ := honly ⟨none⟩ (by decide)
  cases hparse
  cases hsa

end Katapult
