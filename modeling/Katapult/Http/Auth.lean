/-
  Katapult.Http.Auth

  Requests and replies of the REST API, its token table, and the middleware that
  authenticates a request and checks its role.
-/

import Katapult.Domain.Agent
import Katapult.Domain.Transfer
import Katapult.Grpc.Auth
import Katapult.Routing.ServeMux

namespace Katapult

open Effect

/-- An authorization role: a string type in the source. -/
structure Role where
  text : String
  deriving DecidableEq

/-- Full read-write access. -/
def roleOperator : Role := ⟨"operator"⟩
/-- Read-only access. -/
def roleViewer : Role := ⟨"viewer"⟩

structure UserInfo where
  subject : String
  role : Role
  deriving DecidableEq

/-! ## Requests and replies -/

/-- The JSON body of `POST /transfers`. -/
structure CreateTransferInput where
  sourceCluster : String := ""
  sourcePVC : String := ""
  destinationCluster : String := ""
  destinationPVC : String := ""
  strategy : Option String := none
  allowOverwrite : Bool := false
  retryMax : Option Int := none

/-- A request, as the handlers read it. -/
structure HttpRequest where
  target : Routing.Target
  /-- The values of the `Authorization` header. -/
  authorization : List String := []
  /-- The parameters of the query, decoded. -/
  query : List (String × String) := []
  /-- What the JSON decoder makes of the body, if it accepts it. -/
  body : Option CreateTransferInput := none
  /-- The response writer can be flushed. -/
  flusher : Bool := true
  /-- The wildcards of the matched pattern. -/
  pathValues : List (String × String) := []
  /-- The value that the middleware has put into the context. -/
  user : Option UserInfo := none

def HttpRequest.pathValue (r : HttpRequest) (name : String) : String :=
  (r.pathValues.lookup name).getD ""

/-- `Header.Get("Authorization")`. -/
def HttpRequest.header (r : HttpRequest) : String := r.authorization.head?.getD ""

/-- `URL.Query().Get(key)`. -/
def HttpRequest.queryValue (r : HttpRequest) (key : String) : String := (r.query.lookup key).getD ""

structure FieldError where
  field : String
  message : String
  deriving DecidableEq

structure PaginationMeta where
  total : Int
  limit : Int
  offset : Int
  deriving DecidableEq

/-- What a reply carries. -/
inductive Body where
  | apiError (code message : String)
  | validationErrors (errors : List FieldError)
  | created (id : UUID) (state : TransferState) (source destination : String × String)
  | cancelled (id : UUID) (state : TransferState)
  | transfer (transfer : Transfer)
  | transfers (items : List Transfer) (pagination : PaginationMeta)
  | events (events : List TransferEvent)
  | agent (agent : Agent)
  | agents (items : List Agent) (pagination : PaginationMeta)
  | pvcs (pvcs : List PVCInfo)
  | clusters (clusters : List String)
  /-- The events of a stream have been written before. -/
  | eventStream
  | text (text : String)
  /-- What the handler of the metrics or of the static files writes. -/
  | foreign

structure Reply where
  status : Nat
  body : Body

def writeErrorJSON (status : Nat) (code message : String) : Reply := ⟨status, .apiError code message⟩

/-! ## Tokens -/

/-- The tokens that are known: a map. -/
structure StaticTokenValidator where
  tokens : String → Option UserInfo

def StaticTokenValidator.validateToken (v : StaticTokenValidator) (token : String) :
    Except Err UserInfo :=
  match v.tokens token with
  | none => .error "invalid token"
  | some user => .ok user

/-- An entry of the API tokens file. -/
structure TokenFileEntry where
  token : String
  subject : String
  role : String

def TokenFileEntry.user (e : TokenFileEntry) : UserInfo := ⟨e.subject, ⟨e.role⟩⟩

def addToken (tokens : String → Option UserInfo) (e : TokenFileEntry) : String → Option UserInfo :=
  Function.update tokens e.token (some e.user)

/-- The validator of the API tokens file; `none` when there is no file, or it
    cannot be read or parsed.  Of two entries for a token, the later one counts. -/
def loadTokenValidator (file : Option (List TokenFileEntry)) : StaticTokenValidator where
  tokens := (file.getD []).foldl addToken fun _ => none

/-- What a token is mapped to is what some entry of the file says. -/
theorem loadTokenValidator_eq_some {file : Option (List TokenFileEntry)} {token : String}
    {user : UserInfo} (h : (loadTokenValidator file).tokens token = some user) :
    ∃ entries, file = some entries ∧ ∃ e ∈ entries, e.token = token ∧ e.user = user := by
  have hfold : ∀ (entries : List TokenFileEntry) (tokens : String → Option UserInfo),
      entries.foldl addToken tokens token = some user →
      tokens token = some user ∨ ∃ e ∈ entries, e.token = token ∧ e.user = user := by
    intro entries
    induction entries with
    | nil => exact fun _ h => .inl h
    | cons e rest ih =>
      intro tokens h
      rcases ih _ h with hfirst | ⟨e', he', hrest⟩
      · unfold addToken at hfirst
        by_cases htoken : token = e.token
        · rw [htoken, Function.update_self, Option.some_inj] at hfirst
          exact .inr ⟨e, List.mem_cons_self, htoken.symm, hfirst⟩
        · rw [Function.update_of_ne htoken] at hfirst
          exact .inl hfirst
      · exact .inr ⟨e', List.mem_cons_of_mem e he', hrest⟩
  cases file with
  | none => cases h
  | some entries =>
    rcases hfold entries _ h with hnone | hsome
    · cases hnone
    · exact ⟨entries, rfl, hsome⟩

/-! ## The middleware -/

section

variable {Op : Type} {Ans : Op → Type}

/-- An `http.Handler`. -/
abbrev Handler (Op : Type) (Ans : Op → Type) : Type := HttpRequest → Prog Op Ans Reply

/-- The bearer token of the `Authorization` header. -/
def extractBearerToken (r : HttpRequest) : Option String :=
  let header := r.header
  if header = "" then none
  else
    match cutPrefix header "Bearer " with
    | none => none
    -- `Bearer ` and nothing after it
    | some token => if token = "" then none else some token

def authMiddleware (validator : StaticTokenValidator) (next : Handler Op Ans) : Handler Op Ans :=
  fun r =>
    match extractBearerToken r with
    | none =>
      .pure (writeErrorJSON 401 "unauthorized" "missing or malformed Authorization header")
    | some token =>
      match validator.validateToken token with
      | .error _ => .pure (writeErrorJSON 401 "unauthorized" "invalid bearer token")
      | .ok user => next { r with user := some user }

/-- An operator has every role. -/
def hasRole (actual required : Role) : Bool :=
  if actual = roleOperator then true else actual = required

def requireRole (role : Role) (next : Handler Op Ans) : Handler Op Ans :=
  fun r =>
    match r.user with
    -- not reached behind `authMiddleware`
    | none => .pure (writeErrorJSON 401 "unauthorized" "authentication required")
    | some user =>
      if hasRole user.role role = false then
        .pure (writeErrorJSON 403 "forbidden" ("role " ++ quote role.text ++ " required"))
      else next r

end

/-! ## Who is let through -/

/-- The header is `Bearer ` followed by a token that is not empty, and known. -/
def Authenticated (v : StaticTokenValidator) (r : HttpRequest) (user : UserInfo) : Prop :=
  ∃ token, token ≠ "" ∧ r.header = "Bearer " ++ token ∧ v.tokens token = some user

/-- The header names a user who has the role, or is an operator. -/
def Authorized (v : StaticTokenValidator) (r : HttpRequest) (role : Role) : Prop :=
  ∃ user, Authenticated v r user ∧ (user.role = roleOperator ∨ user.role = role)

theorem cutPrefix_eq_some {s pre rest : String} : cutPrefix s pre = some rest ↔ s = pre ++ rest := by
  unfold cutPrefix
  rw [Option.ite_none_right_eq_some, Option.some_inj, List.isPrefixOf_iff_prefix,
    ← String.length_toList]
  constructor
  · rintro ⟨⟨tail, htail⟩, rfl⟩
    refine String.toList_injective ?_
    rw [← htail, List.drop_left, String.toList_append, String.toList_ofList]
  · rintro rfl
    rw [String.toList_append]
    refine ⟨List.prefix_append _ _, ?_⟩
    rw [List.drop_left, String.ofList_toList]

theorem extractBearerToken_eq_some {r : HttpRequest} {token : String} :
    extractBearerToken r = some token ↔ token ≠ "" ∧ r.header = "Bearer " ++ token := by
  unfold extractBearerToken
  dsimp only
  by_cases hempty : r.header = ""
  · rw [if_pos hempty, hempty]
    refine iff_of_false nofun fun h => ?_
    exact append_ne_empty_of_left (by decide) h.2.symm
  rw [if_neg hempty]
  cases hcut : cutPrefix r.header "Bearer " with
  | none =>
    refine iff_of_false nofun fun h => ?_
    rw [cutPrefix_eq_some.mpr h.2] at hcut
    cases hcut
  | some rest =>
    have hheader := cutPrefix_eq_some.mp hcut
    dsimp only
    constructor
    · intro h
      split at h
      · cases h
      · rename_i hne
        cases h
        exact ⟨hne, hheader⟩
    · rintro ⟨hne, heq⟩
      rw [cutPrefix_eq_some.mpr heq, Option.some_inj] at hcut
      rw [← hcut, if_neg hne]

theorem hasRole_iff {actual required : Role} :
    hasRole actual required = true ↔ actual = roleOperator ∨ actual = required := by
  unfold hasRole
  by_cases hop : actual = roleOperator <;> simp [hop]

/-- An authenticated user is what some entry of the tokens file says. -/
theorem authenticated_of_file {file : Option (List TokenFileEntry)} {r : HttpRequest} {user : UserInfo}
    (h : Authenticated (loadTokenValidator file) r user) :
    ∃ entries, file = some entries ∧ ∃ e ∈ entries, r.header = "Bearer " ++ e.token ∧ e.user = user := by
  obtain ⟨token, -, hheader, hknown⟩ := h
  obtain ⟨entries, hfile, e, he, htoken, huser⟩ := loadTokenValidator_eq_some hknown
  exact ⟨entries, hfile, e, he, by rw [htoken, hheader], huser⟩

section

variable {Op : Type} {Ans : Op → Type}

/-- The header names one user at most. -/
theorem Authenticated.unique {v : StaticTokenValidator} {r : HttpRequest} {user user' : UserInfo}
    (h : Authenticated v r user) (h' : Authenticated v r user') : user = user' := by
  obtain ⟨token, hne, hheader, hknown⟩ := h
  obtain ⟨token', hne', hheader', hknown'⟩ := h'
  have htoken := extractBearerToken_eq_some.mpr ⟨hne, hheader⟩
  rw [extractBearerToken_eq_some.mpr ⟨hne', hheader'⟩, Option.some_inj] at htoken
  rw [htoken, hknown, Option.some_inj] at hknown'
  exact hknown'

/-- The handler runs for the user that the header names; without one the request is
    refused with 401. -/
theorem authMiddleware_cases (v : StaticTokenValidator) (next : Handler Op Ans) (r : HttpRequest) :
    (∃ user, Authenticated v r user ∧ authMiddleware v next r = next { r with user := some user }) ∨
    (∃ reply, authMiddleware v next r = .pure reply ∧ reply.status = 401 ∧
      ∀ user, ¬ Authenticated v r user) := by
  cases htoken : extractBearerToken r with
  | none =>
    refine .inr ⟨_, by rw [authMiddleware, htoken], rfl, ?_⟩
    rintro user ⟨token, hne, hheader, -⟩
    rw [extractBearerToken_eq_some.mpr ⟨hne, hheader⟩] at htoken
    cases htoken
  | some token =>
    obtain ⟨hne, hheader⟩ := extractBearerToken_eq_some.mp htoken
    cases hknown : v.tokens token with
    | none =>
      have hunknown : v.validateToken token = .error "invalid token" := by
        rw [StaticTokenValidator.validateToken, hknown]
      have hrefused : authMiddleware v next r =
          .pure (writeErrorJSON 401 "unauthorized" "invalid bearer token") := by
        rw [authMiddleware, htoken]
        simp only [hunknown]
      refine .inr ⟨_, hrefused, rfl, ?_⟩
      rintro user ⟨token', hne', hheader', hknown'⟩
      rw [extractBearerToken_eq_some.mpr ⟨hne', hheader'⟩, Option.some_inj] at htoken
      rw [htoken, hknown] at hknown'
      cases hknown'
    | some user =>
      have hvalid : v.validateToken token = .ok user := by
        rw [StaticTokenValidator.validateToken, hknown]
      refine .inl ⟨user, ⟨token, hne, hheader, hknown⟩, ?_⟩
      rw [authMiddleware, htoken]
      simp only [hvalid]

/-- A guarded handler runs for the authorized user, or the request is refused
    without any call: with 403 if it names a user, and with 401 otherwise. -/
theorem guarded_cases (v : StaticTokenValidator) (role : Role) (next : Handler Op Ans)
    (r : HttpRequest) :
    (∃ user, Authenticated v r user ∧ (user.role = roleOperator ∨ user.role = role) ∧
      authMiddleware v (requireRole role next) r = next { r with user := some user }) ∨
    (∃ reply, authMiddleware v (requireRole role next) r = .pure reply ∧ ¬ Authorized v r role ∧
      reply.status = 403 ∧ ∃ user, Authenticated v r user) ∨
    (∃ reply, authMiddleware v (requireRole role next) r = .pure reply ∧ reply.status = 401 ∧
      ∀ user, ¬ Authenticated v r user) := by
  rcases authMiddleware_cases v (requireRole role next) r with ⟨user, huser, hguard⟩ | hrefused
  · rw [hguard, requireRole]
    by_cases hrole : hasRole user.role role = true
    · refine .inl ⟨user, huser, hasRole_iff.mp hrole, if_neg ?_⟩
      rw [hrole]
      nofun
    · rw [Bool.not_eq_true] at hrole
      refine .inr (.inl ⟨_, if_pos hrole, ?_, rfl, user, huser⟩)
      rintro ⟨user', huser', hhas⟩
      rw [← huser.unique huser', ← hasRole_iff, hrole] at hhas
      cases hhas
  · exact .inr (.inr hrefused)

end

end Katapult
