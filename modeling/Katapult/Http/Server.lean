/-
  Katapult.Http.Server

  The routes of the REST API, and who gets through to the services behind them.

  Every route under `/api/v1alpha1` is one entry of `apiRoutes`: its pattern, the
  role that it requires, and its handler.  A handler makes only calls that need the
  role of its route (`needing_apiRoutes`), and the multiplexer sends a request that
  matches one of these routes to it and to no other (`handle_of_matches`).
-/

import Katapult.Http.Handlers
import Mathlib.Data.List.Nodup

namespace Katapult

open Effect Routing

/-- The optional parts of the server. -/
structure HttpServer where
  progressHub : Bool
  metricsHandler : Bool
  staticDir : String

/-- A program of one service, in a system with both. -/
def Api.lift {α : Type} (p : Api α) : Prog HttpCall HttpCall.Ans α := p.inr

def Stream.lift {α : Type} (p : Stream α) : Prog HttpCall HttpCall.Ans α := p.inl

/-- A route of the API, before the middleware is put around its handler. -/
structure ApiRoute where
  pattern : Pattern
  role : Role
  handler : Handler HttpCall HttpCall.Ans

/-- The pattern of a method and a path under `/api/v1alpha1`. -/
def apiPattern (method : String) (segments : List Segment) : Pattern where
  method := some method
  path := .exact (.literal "api" :: .literal "v1alpha1" :: segments)

namespace HttpServer

variable [UUIDText]

/-- The routes with a role. -/
def apiRoutes (s : HttpServer) (rounds : Nat) : List ApiRoute :=
  [⟨apiPattern "POST" [.literal "transfers"], roleOperator, fun r => (handleCreateTransfer r).lift⟩,
   ⟨apiPattern "GET" [.literal "transfers"], roleViewer, fun r => (handleListTransfers r).lift⟩,
   ⟨apiPattern "GET" [.literal "transfers", .wildcard "id"], roleViewer,
    fun r => (handleGetTransfer r).lift⟩,
   ⟨apiPattern "DELETE" [.literal "transfers", .wildcard "id"], roleOperator,
    fun r => (handleCancelTransfer r).lift⟩,
   ⟨apiPattern "GET" [.literal "transfers", .wildcard "id", .literal "events"], roleViewer,
    fun r => (handleGetTransferEvents r).lift⟩,
   ⟨apiPattern "GET" [.literal "agents"], roleViewer, fun r => (handleListAgents r).lift⟩,
   ⟨apiPattern "GET" [.literal "agents", .wildcard "id"], roleViewer,
    fun r => (handleGetAgent r).lift⟩,
   ⟨apiPattern "GET" [.literal "agents", .wildcard "id", .literal "pvcs"], roleViewer,
    fun r => (handleGetAgentPVCs r).lift⟩,
   ⟨apiPattern "GET" [.literal "clusters"], roleViewer, fun r => (handleListClusters r).lift⟩,
   ⟨apiPattern "GET" [.literal "transfers", .wildcard "id", .literal "progress"], roleViewer,
    fun r => (handleStreamProgress s.progressHub rounds r).lift⟩]

omit [UUIDText] in
/-- The routes without authentication. -/
def openRoutes (s : HttpServer) : List (Pattern × Handler HttpCall HttpCall.Ans) :=
  [(⟨some "GET", .exact [.literal "healthz"]⟩, fun _ => .pure ⟨200, .text "ok"⟩)] ++
  (if s.metricsHandler then
    [(⟨some "GET", .exact [.literal "metrics"]⟩, fun _ => .pure ⟨200, .foreign⟩)] else []) ++
  (if s.staticDir ≠ "" then [(⟨none, .all⟩, fun _ => .pure ⟨200, .foreign⟩)] else [])

/-- All routes, with the middleware. -/
def routes (s : HttpServer) (rounds : Nat) (v : StaticTokenValidator) :
    List (Pattern × Handler HttpCall HttpCall.Ans) :=
  (s.apiRoutes rounds).map
    (fun route => (route.pattern, authMiddleware v (requireRole route.role route.handler))) ++
  s.openRoutes

/-- The handler of the server. -/
def handle (s : HttpServer) (rounds : Nat) (v : StaticTokenValidator) : Handler HttpCall HttpCall.Ans :=
  fun r =>
    match dispatch (s.routes rounds v) r.target with
    | .redirect => .pure ⟨301, .foreign⟩
    | .found pattern handler =>
      handler { r with pathValues := pattern.path.values r.target.path }
    | .methodNotAllowed => .pure ⟨405, .text "Method Not Allowed"⟩
    | .notFound => .pure ⟨404, .text "404 page not found"⟩

end HttpServer

/-! ## What a call needs -/

/-- The role that a call of a service needs.  The hub and the response stream are
    used by a request for the progress of a transfer, which is a read. -/
def HttpCall.needs : HttpCall → Role
  | .inr (.createTransfer _) | .inr (.cancelTransfer _) => roleOperator
  | _ => roleViewer

/-- Every call of the program needs this role. -/
def Needing (role : Role) {α : Type} (p : Prog HttpCall HttpCall.Ans α) : Prop :=
  p.All fun op => op.needs = role

section

variable [UUIDText] {α β : Type} {role : Role}

omit [UUIDText] in
theorem needing_pure (a : α) : Needing role (.pure a) := trivial

omit [UUIDText] in
theorem needing_api {call : ApiCall} {k : ApiCall.Ans call → Api α}
    (hcall : HttpCall.needs (.inr call) = role) (hk : ∀ r, Needing role (k r).lift) :
    Needing role (Api.lift (Prog.perform call >>= k)) :=
  ⟨hcall, hk⟩

omit [UUIDText] in
theorem needing_createTransfer (r : HttpRequest) :
    Needing roleOperator (handleCreateTransfer r).lift := by
  unfold handleCreateTransfer
  cases r.body with
  | none => exact needing_pure _
  | some input =>
    dsimp only
    cases validateCreateTransferInput input with
    | cons err errs => exact needing_pure _
    | nil =>
      refine needing_api rfl fun answer => ?_
      cases answer <;> exact needing_pure _

omit [UUIDText] in
theorem needing_listTransfers (r : HttpRequest) : Needing roleViewer (handleListTransfers r).lift := by
  refine needing_api rfl fun answer => ?_
  cases answer <;> exact needing_pure _

theorem needing_getTransfer (r : HttpRequest) : Needing roleViewer (handleGetTransfer r).lift := by
  unfold handleGetTransfer
  cases UUIDText.parse (r.pathValue "id") with
  | error err => exact needing_pure _
  | ok id =>
    refine needing_api rfl fun answer => ?_
    rcases answer with err | (_ | t) <;> exact needing_pure _

theorem needing_cancelTransfer (r : HttpRequest) :
    Needing roleOperator (handleCancelTransfer r).lift := by
  unfold handleCancelTransfer
  cases UUIDText.parse (r.pathValue "id") with
  | error err => exact needing_pure _
  | ok id =>
    refine needing_api rfl fun answer => ?_
    cases answer with
    | ok done => exact needing_pure _
    | error err =>
      dsimp only
      split
      · exact needing_pure _
      · split <;> exact needing_pure _

theorem needing_getTransferEvents (r : HttpRequest) :
    Needing roleViewer (handleGetTransferEvents r).lift := by
  unfold handleGetTransferEvents
  cases UUIDText.parse (r.pathValue "id") with
  | error err => exact needing_pure _
  | ok id =>
    refine needing_api rfl fun answer => ?_
    rcases answer with err | (_ | t)
    · exact needing_pure _
    · exact needing_pure _
    · refine needing_api rfl fun events => ?_
      cases events <;> exact needing_pure _

omit [UUIDText] in
theorem needing_listAgents (r : HttpRequest) : Needing roleViewer (handleListAgents r).lift := by
  refine needing_api rfl fun answer => ?_
  cases answer <;> exact needing_pure _

theorem needing_withAgent (r : HttpRequest) (body : Agent → Body) :
    Needing roleViewer (withAgent r body).lift := by
  unfold withAgent
  cases UUIDText.parse (r.pathValue "id") with
  | error err => exact needing_pure _
  | ok id =>
    refine needing_api rfl fun answer => ?_
    rcases answer with err | (_ | agent) <;> exact needing_pure _

omit [UUIDText] in
theorem needing_listClusters (r : HttpRequest) : Needing roleViewer (handleListClusters r).lift := by
  refine needing_api rfl fun answer => ?_
  cases answer <;> exact needing_pure _

omit [UUIDText] in
theorem needing_stream (p : Stream α) : Needing roleViewer p.lift :=
  Prog.all_inl (Prog.all_of_forall (fun _ => rfl) p)

/-- A handler makes only calls that need the role of its route. -/
theorem needing_apiRoutes (s : HttpServer) (rounds : Nat) {route : ApiRoute}
    (hroute : route ∈ s.apiRoutes rounds) (r : HttpRequest) : Needing route.role (route.handler r) := by
  simp only [HttpServer.apiRoutes, List.mem_cons, List.not_mem_nil, or_false] at hroute
  rcases hroute with rfl | rfl | rfl | rfl | rfl | rfl | rfl | rfl | rfl | rfl
  · exact needing_createTransfer r
  · exact needing_listTransfers r
  · exact needing_getTransfer r
  · exact needing_cancelTransfer r
  · exact needing_getTransferEvents r
  · exact needing_listAgents r
  · exact needing_withAgent r _
  · exact needing_withAgent r _
  · exact needing_listClusters r
  · exact needing_stream _

end

/-! ## Dispatch -/

/-- The patterns of the routes with a role. -/
def apiPatterns : List Pattern :=
  [apiPattern "POST" [.literal "transfers"], apiPattern "GET" [.literal "transfers"],
   apiPattern "GET" [.literal "transfers", .wildcard "id"],
   apiPattern "DELETE" [.literal "transfers", .wildcard "id"],
   apiPattern "GET" [.literal "transfers", .wildcard "id", .literal "events"],
   apiPattern "GET" [.literal "agents"], apiPattern "GET" [.literal "agents", .wildcard "id"],
   apiPattern "GET" [.literal "agents", .wildcard "id", .literal "pvcs"],
   apiPattern "GET" [.literal "clusters"],
   apiPattern "GET" [.literal "transfers", .wildcard "id", .literal "progress"]]

/-- The patterns of the open routes, with or without the optional two. -/
def openPatterns (metrics static : Bool) : List Pattern :=
  [⟨some "GET", .exact [.literal "healthz"]⟩] ++
  (if metrics then [⟨some "GET", .exact [.literal "metrics"]⟩] else []) ++
  (if static then [⟨none, .all⟩] else [])

theorem compatible_patterns (metrics static : Bool) :
    (apiPatterns ++ openPatterns metrics static).Pairwise Pattern.Compatible := by
  cases metrics <;> cases static <;> decide +kernel

/-- No pattern is covered by one of the API but itself. -/
theorem eq_of_apiPattern_covers {metrics static : Bool} :
    ∀ p ∈ apiPatterns, ∀ q ∈ apiPatterns ++ openPatterns metrics static, p.covers q = true → p = q := by
  cases metrics <;> cases static <;> decide +kernel

theorem nodup_patterns (metrics static : Bool) :
    (apiPatterns ++ openPatterns metrics static).Nodup := by
  cases metrics <;> cases static <;> decide +kernel

namespace HttpServer

variable [UUIDText] {s : HttpServer} {rounds : Nat} {v : StaticTokenValidator} {r : HttpRequest}

/-- A route of the API behind the middleware. -/
def guarded (v : StaticTokenValidator) (route : ApiRoute) : Pattern × Handler HttpCall HttpCall.Ans :=
  (route.pattern, authMiddleware v (requireRole route.role route.handler))

theorem map_fst_routes (s : HttpServer) (rounds : Nat) (v : StaticTokenValidator) :
    (s.routes rounds v).map Prod.fst = apiPatterns ++ openPatterns s.metricsHandler (s.staticDir ≠ "") := by
  unfold routes openRoutes
  cases s.metricsHandler <;> by_cases hstatic : s.staticDir = "" <;> simp [hstatic, apiRoutes] <;> rfl

theorem compatible_routes :
    (s.routes rounds v).Pairwise fun route route' => route.1.Compatible route'.1 := by
  have hpatterns := compatible_patterns s.metricsHandler (s.staticDir ≠ "")
  rw [← map_fst_routes s rounds v, List.pairwise_map] at hpatterns
  exact hpatterns

theorem mem_routes_iff {entry : Pattern × Handler HttpCall HttpCall.Ans} :
    entry ∈ s.routes rounds v ↔
      (∃ route ∈ s.apiRoutes rounds, guarded v route = entry) ∨ entry ∈ s.openRoutes := by
  rw [routes, List.mem_append, List.mem_map]
  exact Iff.rfl

/-- No route is covered by one of the API but itself. -/
theorem eq_of_route_covers {route : ApiRoute} (hroute : route ∈ s.apiRoutes rounds)
    {entry : Pattern × Handler HttpCall HttpCall.Ans} (hentry : entry ∈ s.routes rounds v)
    (hcovers : route.pattern.covers entry.1 = true) : guarded v route = entry := by
  have hguarded : guarded v route ∈ s.routes rounds v := mem_routes_iff.mpr (.inl ⟨route, hroute, rfl⟩)
  -- of patterns, and so of entries: no two entries have the same pattern
  have hpattern : route.pattern ∈ apiPatterns := List.mem_map_of_mem (f := ApiRoute.pattern) hroute
  have hmem : entry.1 ∈ (s.routes rounds v).map Prod.fst := List.mem_map_of_mem hentry
  rw [map_fst_routes] at hmem
  have heq : (guarded v route).1 = entry.1 := eq_of_apiPattern_covers _ hpattern _ hmem hcovers
  have hnodup := nodup_patterns s.metricsHandler (s.staticDir ≠ "")
  rw [← map_fst_routes s rounds v] at hnodup
  exact List.inj_on_of_nodup_map hnodup hguarded hentry heq

/-- A request that matches a route of the API is dispatched to it. -/
theorem handle_of_matches {route : ApiRoute} (hroute : route ∈ s.apiRoutes rounds)
    (hcanonical : r.target.canonical = true) (hmatches : route.pattern.matches_ r.target = true) :
    s.handle rounds v r = (guarded v route).2
      { r with pathValues := route.pattern.path.values r.target.path } := by
  have hguarded : guarded v route ∈ s.routes rounds v := mem_routes_iff.mpr (.inl ⟨route, hroute, rfl⟩)
  obtain ⟨entry, hentry, hdispatch, -, hcovers⟩ :=
    dispatch_of_matches compatible_routes hcanonical hguarded hmatches
  rw [← eq_of_route_covers hroute hentry hcovers] at hdispatch
  rw [handle, hdispatch]
  rfl

/-- The calls of a guarded route are made for an authorized user. -/
theorem authorized_guarded {route : ApiRoute} (hroute : route ∈ s.apiRoutes rounds) (r : HttpRequest) :
    ((guarded v route).2 r).All fun op => Authorized v r op.needs := by
  rcases guarded_cases v route.role route.handler r with
    ⟨user, huser, hrole, hnext⟩ | ⟨reply, hrefused, -⟩ | ⟨reply, hrefused, -⟩
  · show (authMiddleware v (requireRole route.role route.handler) r).All _
    rw [hnext]
    refine (needing_apiRoutes s rounds hroute _).mono fun op hop => ?_
    rw [hop]
    exact ⟨user, huser, hrole⟩
  · show (authMiddleware v (requireRole route.role route.handler) r).All _
    rw [hrefused]
    trivial
  · show (authMiddleware v (requireRole route.role route.handler) r).All _
    rw [hrefused]
    trivial

omit [UUIDText] in
/-- An open route answers without any call. -/
theorem open_pure {entry : Pattern × Handler HttpCall HttpCall.Ans} (hentry : entry ∈ s.openRoutes)
    (r : HttpRequest) : ∃ reply, entry.2 r = .pure reply := by
  simp only [openRoutes, List.mem_append, List.mem_singleton] at hentry
  rcases hentry with (rfl | hmetrics) | hstatic
  · exact ⟨_, rfl⟩
  · split at hmetrics
    · rw [List.mem_singleton.mp hmetrics]
      exact ⟨_, rfl⟩
    · cases hmetrics
  · split at hstatic
    · rw [List.mem_singleton.mp hstatic]
      exact ⟨_, rfl⟩
    · cases hstatic

end HttpServer

/-! ## Authorization -/

section

variable [UUIDText]

/-- Every call that a request leads to is made for a user that its header names
    and whose role is enough for the call; and a request to a route of the API
    without such a user is answered with 401 or 403, and leads to no call. -/
theorem http_authorization (s : HttpServer) (rounds : Nat) (v : StaticTokenValidator)
    (r : HttpRequest) :
    ((s.handle rounds v r).All fun op => Authorized v r op.needs) ∧
    ∀ route ∈ s.apiRoutes rounds, r.target.canonical = true →
      route.pattern.matches_ r.target = true → ¬ Authorized v r route.role →
        ∃ reply, s.handle rounds v r = .pure reply ∧
          ((∀ user, ¬ Authenticated v r user) ∧ reply.status = 401 ∨
            (∃ user, Authenticated v r user) ∧ reply.status = 403) := by
  constructor
  · unfold HttpServer.handle
    cases hdispatch : dispatch (s.routes rounds v) r.target with
    | redirect => trivial
    | methodNotAllowed => trivial
    | notFound => trivial
    | found pattern handler =>
      rcases HttpServer.mem_routes_iff.mp (mem_of_dispatch hdispatch) with
        ⟨route, hroute, hguarded⟩ | hopen
      · have hcalls := HttpServer.authorized_guarded (v := v) hroute
          { r with pathValues := pattern.path.values r.target.path }
        rw [hguarded] at hcalls
        exact hcalls
      · obtain ⟨reply, hreply⟩ :=
          HttpServer.open_pure hopen { r with pathValues := pattern.path.values r.target.path }
        dsimp only at hreply ⊢
        rw [hreply]
        trivial
  · intro route hroute hcanonical hmatches hnot
    rw [HttpServer.handle_of_matches hroute hcanonical hmatches]
    rcases guarded_cases v route.role route.handler
        { r with pathValues := route.pattern.path.values r.target.path } with
      ⟨user, huser, hrole, -⟩ | ⟨reply, hrefused, -, hstatus, user, huser⟩ |
      ⟨reply, hrefused, hstatus, hnone⟩
    -- the middleware lets through, refuses a known user, or knows none
    · exact absurd ⟨user, huser, hrole⟩ hnot
    · exact ⟨reply, hrefused, .inr ⟨⟨user, huser⟩, hstatus⟩⟩
    · exact ⟨reply, hrefused, .inl ⟨hnone, hstatus⟩⟩

end

/-- A viewer who asks for a transfer to be created. -/
def viewerRequest : HttpRequest where
  target := ⟨"POST", ["api", "v1alpha1", "transfers"], true⟩
  authorization := ["Bearer read-me"]

theorem http_authorization_viewer :
    ∃ reply, (@HttpServer.handle canonicalText ⟨true, true, "web"⟩ 0
        (loadTokenValidator (some [⟨"read-me", "ui", "viewer"⟩])) viewerRequest) = .pure reply ∧
      reply.status = 403 := by
  obtain ⟨-, hrefused⟩ := @http_authorization canonicalText ⟨true, true, "web"⟩ 0
    (loadTokenValidator (some [⟨"read-me", "ui", "viewer"⟩])) viewerRequest
  have hviewer : ∀ user,
      Authenticated (loadTokenValidator (some [⟨"read-me", "ui", "viewer"⟩])) viewerRequest user →
      user = ⟨"ui", roleViewer⟩ := by
    intro user huser
    obtain ⟨entries, hentries, e, he, -, rfl⟩ := authenticated_of_file huser
    cases hentries
    rw [List.mem_singleton.mp he]
    rfl
  obtain ⟨reply, hreply, ⟨hnone, -⟩ | ⟨-, hstatus⟩⟩ := hrefused _ List.mem_cons_self rfl
    (by decide +kernel) (by
      rintro ⟨user, huser, hrole⟩
      rw [hviewer user huser] at hrole
      revert hrole
      decide)
  · exact absurd ⟨"read-me", by decide, by decide, rfl⟩ (hnone ⟨"ui", roleViewer⟩)
  · exact ⟨reply, hreply, hstatus⟩

end Katapult
