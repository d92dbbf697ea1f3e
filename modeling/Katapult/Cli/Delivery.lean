/-
  Katapult.Cli.Delivery

  The command-line client and the server, put together.

  A command that is given the address of a server, without a path of its own, makes
  one call of a service, the one that its flags describe, or none: none without a
  token whose user has the role for it, and none for a request that the server
  refuses as invalid.  It ends well exactly if the service has done
  what was asked and the format is known (`cli_delivers`).
-/

import Katapult.Cli.Client
import Katapult.Domain.Numeral
import Katapult.Http.Totals

namespace Katapult

open Effect Routing Urlencoded

/-! ## What a command stands for -/

/-- A service has done what it was asked for, or found it. -/
def ApiCall.Positive : (call : ApiCall) → call.Ans → Prop
  | .createTransfer _, answer => ∃ resp, answer = .ok resp
  | .cancelTransfer _, answer => answer = .ok ()
  | .getTransfer _, answer => ∃ t, answer = .ok (some t)
  | .listTransfers _, answer => ∃ page, answer = .ok page
  | .getTransferEvents _, answer => ∃ events, answer = .ok events
  | .getAgent _, answer => ∃ agent, answer = .ok (some agent)
  | .listAgents _, answer => ∃ page, answer = .ok page
  | .listClusters, answer => ∃ clusters, answer = .ok clusters

/-- A filter that is not empty. -/
def given (value : String) : Option String := if value ≠ "" then some value else none

namespace CliCommand

/-- The role that the command needs. -/
def role : CliCommand → Role
  | .transferCreate _ | .transferCancel _ => roleOperator
  | .transferList _ | .transferGet _ | .agentList _ | .agentGet _ => roleViewer

/-- An identifier in the path arrives as it is. -/
def Plain : CliCommand → Prop
  | .transferGet id | .transferCancel id | .agentGet id => PlainSegment id
  | .transferCreate _ | .transferList _ | .agentList _ => True

/-- What the command asks the services for, on behalf of this user; `none` if the
    request is not valid. -/
def asks [UUIDText] (subject : String) : CliCommand → Option ApiCall
  | .transferCreate flags =>
    if validateCreateTransferInput flags.input = [] then
      some (.createTransfer (flags.input.createReq subject))
    else none
  | .transferList flags =>
    some (.listTransfers
      { state := given flags.status, cluster := given flags.cluster, limit := max 0 flags.limit.toInt })
  | .transferGet id => (UUIDText.parse id).toOption.map .getTransfer
  | .transferCancel id => (UUIDText.parse id).toOption.map .cancelTransfer
  | .agentList flags =>
    some (.listAgents { clusterID := given flags.cluster, state := given flags.state })
  | .agentGet id => (UUIDText.parse id).toOption.map .getAgent

def method : CliCommand → String
  | .transferCreate _ => "POST"
  | .transferCancel _ => "DELETE"
  | .transferList _ | .transferGet _ | .agentList _ | .agentGet _ => "GET"

def segments : CliCommand → List String
  | .transferCreate _ | .transferList _ => ["api", "v1alpha1", "transfers"]
  | .transferGet id | .transferCancel id => ["api", "v1alpha1", "transfers", id]
  | .agentList _ => ["api", "v1alpha1", "agents"]
  | .agentGet id => ["api", "v1alpha1", "agents", id]

def params : CliCommand → List (String × String)
  | .transferList flags => flags.params
  | .agentList flags => flags.params
  | .transferCreate _ | .transferGet _ | .transferCancel _ | .agentGet _ => []

def body : CliCommand → Option CreateTransferInput
  | .transferCreate flags => some flags.input
  | _ => none

/-- The request of a command, as the server should get it. -/
def request (token : String) (cmd : CliCommand) : HttpRequest where
  target := ⟨cmd.method, cmd.segments, true⟩
  authorization := if token = "" then [] else ["Bearer " ++ token]
  query := cmd.params
  body := cmd.body

/-- The call of the client that the command makes. -/
def send : CliCommand → APIClient → Cli (Except CliError Reply)
  | .transferCreate flags, client => client.createTransfer flags.input
  | .transferList flags, client => client.listTransfers (queryEscape.write flags.params)
  | .transferGet id, client => client.getTransfer id
  | .transferCancel id, client => client.cancelTransfer id
  | .agentList flags, client => client.listAgents (queryEscape.write flags.params)
  | .agentGet id, client => client.getAgent id

theorem run_eq (env : CliEnv) (cmd : CliCommand) : cmd.run env = runE env cmd.send := by
  cases cmd <;> rfl

end CliCommand

/-! ## From the command to the server -/

/-- How a command ends, once the server has replied. -/
def CliEnv.report (env : CliEnv) (reply : Reply) : Except CliError Unit :=
  if 400 ≤ reply.status then .error (.api reply.status reply.body)
  else formatOutput env.outputFlag reply.body

section

variable {server token : String}

theorem APIClient.authorization_of_sendable (h : SendableToken token) :
    (APIClient.mk server token).authorization =
      .ok (if token = "" then none else some ("Bearer " ++ token)) := by
  unfold APIClient.authorization
  by_cases hempty : token = ""
  · simp only [hempty, if_true]
  · simp only [hempty, if_false, headerValue_bearer h hempty]

/-- The address of a server is a scheme of the web and the name of a host, with a port
    or none: no path, which would stand in front of that of the API. -/
def PlainServer (server : String) : Prop := ∃ origin : Origin, bytes server = origin.text

/-- The request that a client makes of plain segments and a query arrives as it is. -/
theorem APIClient.do_of_plain (hserver : PlainServer server) (htoken : SendableToken token) {segments : List String}
    (hplain : ∀ s ∈ segments, PlainSegment s) (hne : segments ≠ []) (query : List (String × String))
    (method : String) (body : Option CreateTransferInput) :
    ∃ w : WireRequest, w.received = some
        { target := ⟨method, segments, true⟩
          authorization := if token = "" then [] else ["Bearer " ++ token]
          query := query, body := body } ∧
      (APIClient.mk server token).do_ method
          (slashed segments ++ queryText false (queryEscape.write query)) body =
        Prog.call w fun answer => .pure (answer.mapError .sending) := by
  obtain ⟨origin, horigin⟩ := hserver
  obtain ⟨url, hparse, hreceived⟩ :=
    WireRequest.received_of_plain hplain hne queryEscape sendable_queryEscape query origin.text method
      (if token = "" then none else some ("Bearer " ++ token)) body
  refine ⟨_, hreceived.trans ?_, ?_⟩
  · split <;> rfl
  · rw [APIClient.do_, horigin, parseAddress_append origin hparse]
    simp only [APIClient.authorization_of_sendable htoken]
    refine congrArg (Prog.call _) (funext fun answer => ?_)
    cases answer <;> rfl

theorem runE_of_send {env : CliEnv} {send : APIClient → Cli (Except CliError Reply)} {w : WireRequest}
    (henv : resolveServerAndToken env = .ok (server, token))
    (hsend : send ⟨server, token⟩ = Prog.call w fun answer => .pure (answer.mapError .sending)) :
    runE env send = Prog.call w fun answer => .pure (answer.mapError .sending >>= env.report) := by
  rw [runE, henv]
  simp only [hsend]
  refine congrArg (Prog.call _) (funext fun answer => ?_)
  cases answer with
  | error err => rfl
  | ok reply =>
    show (if 400 ≤ reply.status then Prog.pure _ else Prog.pure _) = Prog.pure (env.report reply)
    rw [CliEnv.report]
    split <;> rfl

theorem plain_api : PlainSegment "api" := .of_all (by decide) (by decide) (by decide)
theorem plain_v1alpha1 : PlainSegment "v1alpha1" := .of_all (by decide) (by decide) (by decide)
theorem plain_transfers : PlainSegment "transfers" := .of_all (by decide) (by decide) (by decide)
theorem plain_agents : PlainSegment "agents" := .of_all (by decide) (by decide) (by decide)

theorem plain_list {resource : String} (h : PlainSegment resource) :
    ∀ s ∈ ["api", "v1alpha1", resource], PlainSegment s := by
  simp only [List.forall_mem_cons]
  exact ⟨plain_api, plain_v1alpha1, h, List.forall_mem_nil _⟩

theorem plain_item {resource id : String} (h : PlainSegment resource) (hid : PlainSegment id) :
    ∀ s ∈ ["api", "v1alpha1", resource, id], PlainSegment s := by
  simp only [List.forall_mem_cons]
  exact ⟨plain_api, plain_v1alpha1, h, hid, List.forall_mem_nil _⟩

namespace CliCommand

/-- The address that a command puts together. -/
theorem send_eq (cmd : CliCommand) (client : APIClient) :
    cmd.send client =
      client.do_ cmd.method (slashed cmd.segments ++ queryText false (queryEscape.write cmd.params))
        cmd.body := by
  have hnone : queryText false (queryEscape.write []) = [] := rfl
  have hitem : ∀ start resource id : String, bytes start = slashed ["api", "v1alpha1", resource] ++
      ['/'.toUInt8] → bytes (start ++ id) = slashed ["api", "v1alpha1", resource, id] ++
      queryText false (queryEscape.write []) := by
    intro start resource id hstart
    rw [hnone, bytes_append, hstart]
    simp [slashed]
  cases cmd with
  | transferCreate flags => rfl
  | transferList flags => rfl
  | transferGet id => exact congrArg (client.do_ "GET" · none) (hitem _ "transfers" id rfl)
  | transferCancel id => exact congrArg (client.do_ "DELETE" · none) (hitem _ "transfers" id rfl)
  | agentList flags => rfl
  | agentGet id => exact congrArg (client.do_ "GET" · none) (hitem _ "agents" id rfl)

theorem plain_segments {cmd : CliCommand} (h : cmd.Plain) : ∀ s ∈ cmd.segments, PlainSegment s := by
  cases cmd with
  | transferCreate flags => exact plain_list plain_transfers
  | transferList flags => exact plain_list plain_transfers
  | transferGet id => exact plain_item plain_transfers h
  | transferCancel id => exact plain_item plain_transfers h
  | agentList flags => exact plain_list plain_agents
  | agentGet id => exact plain_item plain_agents h

/-- A plain command sends its request, and waits for the reply. -/
theorem sends {env : CliEnv} {cmd : CliCommand} (hplain : cmd.Plain)
    (henv : resolveServerAndToken env = .ok (server, token)) (hserver : PlainServer server)
    (htoken : SendableToken token) :
    ∃ w : WireRequest, w.received = some (cmd.request token) ∧
      cmd.run env = Prog.call w fun answer => .pure (answer.mapError .sending >>= env.report) := by
  have hne : cmd.segments ≠ [] := by cases cmd <;> simp [segments]
  obtain ⟨w, hreceived, hsend⟩ := @APIClient.do_of_plain server token hserver htoken cmd.segments
    (plain_segments hplain) hne cmd.params cmd.method cmd.body
  rw [← send_eq] at hsend
  exact ⟨w, hreceived, by rw [run_eq, runE_of_send henv hsend]⟩

end CliCommand

end

/-! ## From the server to the services -/

section

variable [UUIDText]

/-- The reply tells whether the service has done what it was asked for. -/
def Tells {call : ApiCall} (answer : call.Ans) (reply : Reply) : Prop :=
  (call.Positive answer ∧ reply.status < 400 ∧ reply.body.isJSON = true) ∨
    (¬ call.Positive answer ∧ 400 ≤ reply.status)

/-- The program makes this call and replies according to its answer; without a call
    it replies that the request is not valid. -/
def Carries (asked : Option ApiCall) (p : Prog HttpCall HttpCall.Ans Reply) : Prop :=
  match asked with
  | none => ∃ reply, p = .pure reply ∧ reply.status = 400
  | some call => ∃ k, p = Prog.call (.inr call) k ∧ ∀ answer, ∃ reply, k answer = .pure reply ∧
      @Tells call answer reply

omit [UUIDText] in
theorem Tells.positive {call : ApiCall} {answer : call.Ans} {reply : Reply} (status : Nat)
    (h : call.Positive answer) (hstatus : reply.status = status) (hlow : status < 400)
    (hjson : reply.body.isJSON = true) : Tells answer reply :=
  .inl ⟨h, by rwa [hstatus], hjson⟩

omit [UUIDText] in
theorem Tells.refused {call : ApiCall} {answer : call.Ans} {reply : Reply} (status : Nat)
    (h : ¬ call.Positive answer) (hstatus : reply.status = status) (hhigh : 400 ≤ status) :
    Tells answer reply :=
  .inr ⟨h, by rwa [hstatus]⟩

omit [UUIDText] in
theorem carries_createTransfer {r : HttpRequest} {input : CreateTransferInput} {user : UserInfo}
    (hbody : r.body = some input) (huser : r.user = some user) :
    Carries (if validateCreateTransferInput input = [] then
      some (.createTransfer (input.createReq user.subject)) else none) (handleCreateTransfer r).lift := by
  unfold handleCreateTransfer
  rw [hbody, huser]
  dsimp only
  cases hvalid : validateCreateTransferInput input with
  | cons err errs => exact ⟨_, rfl, rfl⟩
  | nil =>
    rw [if_pos rfl]
    refine ⟨_, rfl, fun answer => ?_⟩
    cases answer with
    | error err => exact ⟨_, rfl, .refused 500 (by rintro ⟨resp, ⟨⟩⟩) rfl (by decide)⟩
    | ok resp => exact ⟨_, rfl, .positive 201 ⟨resp, rfl⟩ rfl (by decide) rfl⟩

omit [UUIDText] in
theorem carries_listTransfers {r : HttpRequest} {filter : TransferFilter} (hfilter : r.transferFilter = filter) :
    Carries (some (.listTransfers filter)) (handleListTransfers r).lift := by
  subst hfilter
  refine ⟨_, rfl, fun answer => ?_⟩
  cases answer with
  | error err => exact ⟨_, rfl, .refused 500 (by rintro ⟨page, ⟨⟩⟩) rfl (by decide)⟩
  | ok page => exact ⟨_, rfl, .positive 200 ⟨page, rfl⟩ rfl (by decide) rfl⟩

theorem carries_getTransfer {r : HttpRequest} {id : String} (hid : r.pathValue "id" = id) :
    Carries ((UUIDText.parse id).toOption.map .getTransfer) (handleGetTransfer r).lift := by
  unfold handleGetTransfer
  rw [hid]
  cases UUIDText.parse id with
  | error err => exact ⟨_, rfl, rfl⟩
  | ok id =>
    refine ⟨_, rfl, fun answer => ?_⟩
    rcases answer with err | (_ | t)
    · exact ⟨_, rfl, .refused 500 (by rintro ⟨t, ⟨⟩⟩) rfl (by decide)⟩
    · exact ⟨_, rfl, .refused 404 (by rintro ⟨t, ⟨⟩⟩) rfl (by decide)⟩
    · exact ⟨_, rfl, .positive 200 ⟨t, rfl⟩ rfl (by decide) rfl⟩

theorem carries_cancelTransfer {r : HttpRequest} {id : String} (hid : r.pathValue "id" = id) :
    Carries ((UUIDText.parse id).toOption.map .cancelTransfer)
      (handleCancelTransfer r).lift := by
  unfold handleCancelTransfer
  rw [hid]
  cases UUIDText.parse id with
  | error err => exact ⟨_, rfl, rfl⟩
  | ok id =>
    refine ⟨_, rfl, fun answer => ?_⟩
    rcases answer with err | _
    · have hrefused : ¬ (ApiCall.cancelTransfer id).Positive (.error err) := by
        intro h
        cases h
      by_cases hmissing : contains err "not found" = true
      · exact ⟨_, congrArg Prog.inr (if_pos hmissing), .refused 404 hrefused rfl (by decide)⟩
      by_cases hterminal : contains err "terminal state" = true
      · exact ⟨_, congrArg Prog.inr ((if_neg hmissing).trans (if_pos hterminal)),
          .refused 409 hrefused rfl (by decide)⟩
      · exact ⟨_, congrArg Prog.inr ((if_neg hmissing).trans (if_neg hterminal)),
          .refused 500 hrefused rfl (by decide)⟩
    · exact ⟨_, rfl, .positive 200 rfl rfl (by decide) rfl⟩

omit [UUIDText] in
theorem carries_listAgents {r : HttpRequest} {filter : AgentFilter} (hfilter : r.agentFilter = filter) :
    Carries (some (.listAgents filter)) (handleListAgents r).lift := by
  subst hfilter
  refine ⟨_, rfl, fun answer => ?_⟩
  cases answer with
  | error err => exact ⟨_, rfl, .refused 500 (by rintro ⟨page, ⟨⟩⟩) rfl (by decide)⟩
  | ok page => exact ⟨_, rfl, .positive 200 ⟨page, rfl⟩ rfl (by decide) rfl⟩

theorem carries_getAgent {r : HttpRequest} {id : String} (hid : r.pathValue "id" = id) :
    Carries ((UUIDText.parse id).toOption.map .getAgent) (handleGetAgent r).lift := by
  unfold handleGetAgent withAgent
  rw [hid]
  cases UUIDText.parse id with
  | error err => exact ⟨_, rfl, rfl⟩
  | ok id =>
    refine ⟨_, rfl, fun answer => ?_⟩
    rcases answer with err | (_ | agent)
    · exact ⟨_, rfl, .refused 500 (by rintro ⟨agent, ⟨⟩⟩) rfl (by decide)⟩
    · exact ⟨_, rfl, .refused 404 (by rintro ⟨agent, ⟨⟩⟩) rfl (by decide)⟩
    · exact ⟨_, rfl, .positive 200 ⟨agent, rfl⟩ rfl (by decide) rfl⟩

end

/-! ## Parameters -/

theorem numeral_toDigits (k : ℕ) : Numeral (Nat.toDigits 10 k) :=
  ⟨Nat.toDigits_ne_nil, fun c hc => Nat.isDigit_of_mem_toDigits (by decide) (by decide) hc⟩

theorem decimal_toDigits (k : ℕ) : decimal (Nat.toDigits 10 k) = k := Nat.ofDigitChars_ten_toDigits

theorem atoi_toString {n : Int} (hfits : FitsInt n) : atoi (toString n).toList = some n := by
  rw [atoi_eq_some_iff]
  refine ⟨?_, hfits⟩
  rw [Int.toString_eq_repr]
  cases n with
  | ofNat k =>
    have hreads := Reads.plain (numeral_toDigits k)
    rw [decimal_toDigits] at hreads
    have htext : (Int.ofNat k).repr.toList = Nat.toDigits 10 k := Nat.toList_repr
    rw [htext]
    exact hreads
  | negSucc k =>
    have hreads := Reads.minus (numeral_toDigits (k + 1))
    rw [decimal_toDigits] at hreads
    have htext : (Int.negSucc k).repr.toList = '-' :: Nat.toDigits 10 (k + 1) := by
      show ("-" ++ Nat.repr (k + 1)).toList = _
      rw [String.toList_append, Nat.toList_repr]
      rfl
    rw [htext]
    exact hreads

theorem fitsInt_toInt (n : Int64) : FitsInt n.toInt := ⟨n.le_toInt, n.toInt_lt⟩

/-- A limit is read as it has been written. -/
theorem limit_of_parameter {r : HttpRequest} {n : Int} (hfits : FitsInt n)
    (h : r.parameter "limit" = some (toString n)) : r.limit = max 0 n := by
  rw [HttpRequest.limit, h, Option.bind_some, atoi_toString hfits, Option.filter_some]
  split
  · rename_i hlimit
    exact (max_eq_right (of_decide_eq_true hlimit).le).symm
  · rename_i hlimit
    exact (max_eq_left (Int.not_lt.mp fun h => hlimit (decide_eq_true h))).symm

theorem toString_ne_empty {n : Int} (hfits : FitsInt n) : toString n ≠ "" := by
  intro hempty
  have hread := atoi_toString hfits
  rw [hempty] at hread
  cases hread

/-- A limit that is not positive need not be written. -/
theorem limit_of_query {r : HttpRequest} {limit : Int64}
    (h : r.query.lookup "limit" = if 0 < limit.toInt then some (toString limit.toInt) else none) :
    r.limit = max 0 limit.toInt := by
  by_cases hlimit : 0 < limit.toInt
  · rw [if_pos hlimit] at h
    refine limit_of_parameter (fitsInt_toInt limit) ?_
    rw [HttpRequest.parameter, HttpRequest.queryValue, h, Option.getD_some,
      if_pos (toString_ne_empty (fitsInt_toInt limit))]
  · rw [if_neg hlimit] at h
    have hparameter : r.parameter "limit" = none := by
      rw [HttpRequest.parameter, HttpRequest.queryValue, h, Option.getD_none, if_neg (by simp)]
    rw [HttpRequest.limit, hparameter]
    exact (max_eq_left (Int.not_lt.mp hlimit)).symm

theorem parameter_eq {r : HttpRequest} {key value : String} (h : (r.query.lookup key).getD "" = value) :
    r.parameter key = given value := by
  rw [HttpRequest.parameter, HttpRequest.queryValue, h, given]

theorem offset_of_query {r : HttpRequest} (h : r.query.lookup "offset" = none) : r.offset = 0 := by
  rw [HttpRequest.offset, @parameter_eq r "offset" "" (by rw [h]; rfl)]
  rfl

theorem transferFilter_of_params {r : HttpRequest} {flags : TransferListFlags}
    (h : r.query = flags.params) :
    r.transferFilter =
      { state := given flags.status, cluster := given flags.cluster, limit := max 0 flags.limit.toInt } := by
  have hlookup : (r.query.lookup "status").getD "" = flags.status ∧
      (r.query.lookup "cluster").getD "" = flags.cluster ∧
      r.query.lookup "limit" =
        (if 0 < flags.limit.toInt then some (toString flags.limit.toInt) else none) ∧
      r.query.lookup "offset" = none := by
    rw [h]
    unfold TransferListFlags.params setParam
    by_cases hcluster : flags.cluster = "" <;> by_cases hstatus : flags.status = "" <;>
      by_cases hlimit : 0 < flags.limit.toInt <;> simp [hcluster, hstatus, hlimit, List.lookup_cons]
  obtain ⟨hstatus, hcluster, hlimit, hoffset⟩ := hlookup
  rw [HttpRequest.transferFilter, parameter_eq hstatus, parameter_eq hcluster, limit_of_query hlimit,
    offset_of_query hoffset]

theorem agentFilter_of_params {r : HttpRequest} {flags : AgentListFlags} (h : r.query = flags.params) :
    r.agentFilter = { clusterID := given flags.cluster, state := given flags.state } := by
  have hlookup : (r.query.lookup "state").getD "" = flags.state ∧
      (r.query.lookup "cluster").getD "" = flags.cluster ∧
      r.query.lookup "limit" = (if 0 < (0 : Int64).toInt then some (toString (0 : Int64).toInt) else none) ∧
      r.query.lookup "offset" = none := by
    rw [h]
    unfold AgentListFlags.params setParam
    by_cases hcluster : flags.cluster = "" <;> by_cases hstate : flags.state = "" <;>
      simp [hcluster, hstate, List.lookup_cons]
  obtain ⟨hstate, hcluster, hlimit, hoffset⟩ := hlookup
  rw [HttpRequest.agentFilter, parameter_eq hstate, parameter_eq hcluster, limit_of_query hlimit,
    offset_of_query hoffset]
  rfl

/-! ## Commands and services -/

/-- The token is one of a user who has the role, or is an operator. -/
def Entitled (v : StaticTokenValidator) (token : String) (role : Role) (user : UserInfo) : Prop :=
  token ≠ "" ∧ v.tokens token = some user ∧ (user.role = roleOperator ∨ user.role = role)

section

variable {v : StaticTokenValidator} {token : String} {cmd : CliCommand}

theorem authenticated_request_iff (cmd : CliCommand) {user : UserInfo} :
    Authenticated v (cmd.request token) user ↔ token ≠ "" ∧ v.tokens token = some user := by
  unfold Authenticated HttpRequest.header CliCommand.request
  dsimp only
  constructor
  · rintro ⟨token', hne', hheader, hknown⟩
    split at hheader
    · exact absurd hheader.symm (append_ne_empty_of_left (by decide))
    · rename_i hne
      obtain rfl : token = token' := by simpa using hheader
      exact ⟨hne, hknown⟩
  · rintro ⟨hne, hknown⟩
    exact ⟨token, hne, by rw [if_neg hne]; rfl, hknown⟩

variable [UUIDText] {s : HttpServer} {rounds : Nat}

/-- A request that matches a route of its role, whose handler makes the call. -/
theorem handle_of_route {route : ApiRoute} (hroute : route ∈ s.apiRoutes rounds)
    (hrole : route.role = cmd.role) (hmatches : route.pattern.matches_ (cmd.request token).target = true)
    (hcarries : ∀ user, Carries (cmd.asks user.subject) (route.handler
      { cmd.request token with
        pathValues := route.pattern.path.values cmd.segments, user := some user })) :
    (∃ user, Entitled v token cmd.role user ∧
      Carries (cmd.asks user.subject) (s.handle rounds v (cmd.request token))) ∨
    ((∀ user, ¬ Entitled v token cmd.role user) ∧ ∃ reply,
      s.handle rounds v (cmd.request token) = .pure reply ∧ (reply.status = 401 ∨ reply.status = 403)) := by
  rw [HttpServer.handle_of_matches hroute rfl hmatches]
  rcases guarded_cases v route.role route.handler
      { cmd.request token with pathValues := route.pattern.path.values cmd.segments } with
    ⟨user, huser, hhas, hnext⟩ | ⟨reply, hrefused, hnot, hstatus, -⟩ | ⟨reply, hrefused, hstatus, hnone⟩
  · obtain ⟨hne, hknown⟩ := (authenticated_request_iff cmd).mp huser
    exact .inl ⟨user, ⟨hne, hknown, hrole ▸ hhas⟩,
      (congrArg (Carries (cmd.asks user.subject)) hnext).mpr (hcarries user)⟩
  · refine .inr ⟨?_, reply, hrefused, .inr hstatus⟩
    rintro user ⟨hne, hknown, hhas⟩
    exact hnot ⟨user, (authenticated_request_iff cmd).mpr ⟨hne, hknown⟩, hrole ▸ hhas⟩
  · refine .inr ⟨?_, reply, hrefused, .inl hstatus⟩
    rintro user ⟨hne, hknown, -⟩
    exact hnone user ((authenticated_request_iff cmd).mpr ⟨hne, hknown⟩)

omit [UUIDText] in
theorem matches_list (method resource : String) :
    (apiPattern method [.literal resource]).matches_ ⟨method, ["api", "v1alpha1", resource], true⟩ = true := by
  simp [apiPattern, Pattern.matches_, PathPattern.matches_, PathPattern.matchSegments, Segment.matches_,
    Pattern.matchesMethod, takesMethod]

omit [UUIDText] in
theorem matches_item (method resource : String) {id : String} (h : id ≠ "") :
    (apiPattern method [.literal resource, .wildcard "id"]).matches_
      ⟨method, ["api", "v1alpha1", resource, id], true⟩ = true := by
  simp [apiPattern, Pattern.matches_, PathPattern.matches_, PathPattern.matchSegments, Segment.matches_, h,
    Pattern.matchesMethod, takesMethod]

/-- The server lets the command through to its handler, or refuses it. -/
theorem handle_request (hplain : cmd.Plain) :
    (∃ user, Entitled v token cmd.role user ∧
      Carries (cmd.asks user.subject) (s.handle rounds v (cmd.request token))) ∨
    ((∀ user, ¬ Entitled v token cmd.role user) ∧ ∃ reply,
      s.handle rounds v (cmd.request token) = .pure reply ∧ (reply.status = 401 ∨ reply.status = 403)) := by
  have hroutes : ∀ n route, (s.apiRoutes rounds)[n]? = some route → route ∈ s.apiRoutes rounds :=
    fun n route h => List.mem_of_getElem? h
  cases cmd with
  | transferCreate flags =>
    exact handle_of_route (hroutes 0 _ rfl) rfl (matches_list _ "transfers") fun user =>
      carries_createTransfer rfl rfl
  | transferList flags =>
    exact handle_of_route (hroutes 1 _ rfl) rfl (matches_list _ "transfers") fun user =>
      carries_listTransfers (transferFilter_of_params rfl)
  | transferGet id =>
    exact handle_of_route (hroutes 2 _ rfl) rfl (matches_item _ "transfers" hplain.some) fun user =>
      carries_getTransfer rfl
  | transferCancel id =>
    exact handle_of_route (hroutes 3 _ rfl) rfl (matches_item _ "transfers" hplain.some) fun user =>
      carries_cancelTransfer rfl
  | agentList flags =>
    exact handle_of_route (hroutes 5 _ rfl) rfl (matches_list _ "agents") fun user =>
      carries_listAgents (agentFilter_of_params rfl)
  | agentGet id =>
    exact handle_of_route (hroutes 6 _ rfl) rfl (matches_item _ "agents" hplain.some) fun user =>
      carries_getAgent rfl

/-- The format is one that a reply is printed in. -/
def KnownFormat (format : String) : Prop := format = "json" ∨ format = "yaml" ∨ format = "table"

/-- The program makes this call, and no other; it ends well exactly if the service
    has done what it was asked for, and the format is known.  Without a call it
    fails with the status of an invalid request. -/
def Delivers (format : String) (asked : Option ApiCall)
    (p : Prog HttpCall HttpCall.Ans (Except CliError Unit)) : Prop :=
  match asked with
  | none => ∃ data, p = .pure (.error (.api 400 data))
  | some call => ∃ exit : call.Ans → Except CliError Unit,
      p = Prog.call (.inr call) (fun answer => .pure (exit answer)) ∧
      ∀ answer, exit answer = .ok () ↔ call.Positive answer ∧ KnownFormat format

omit [UUIDText] in
theorem report_of_tells {env : CliEnv} {call : ApiCall} {answer : call.Ans} {reply : Reply}
    (h : Tells answer reply) :
    env.report reply = .ok () ↔ call.Positive answer ∧ KnownFormat env.outputFlag := by
  unfold CliEnv.report
  rcases h with ⟨hpositive, hlow, hjson⟩ | ⟨hnot, hhigh⟩
  · rw [if_neg (by omega), formatOutput, if_pos hjson]
    split
    · rename_i hformat
      exact iff_of_true rfl ⟨hpositive, hformat⟩
    · rename_i hformat
      exact iff_of_false (by simp) fun h => hformat h.2
  · rw [if_pos hhigh]
    exact iff_of_false (by simp) fun h => hnot h.1

omit [UUIDText] in
/-- What a command makes of what the server carries out. -/
theorem delivers_of_carries {env : CliEnv} {asked : Option ApiCall}
    {p : Prog HttpCall HttpCall.Ans Reply} (h : Carries asked p) :
    Delivers env.outputFlag asked (p >>= fun reply => .pure (env.report reply)) := by
  cases asked with
  | none =>
    obtain ⟨reply, rfl, hstatus⟩ := h
    refine ⟨reply.body, congrArg Prog.pure ?_⟩
    rw [CliEnv.report, if_pos (by omega), hstatus]
  | some call =>
    obtain ⟨k, rfl, htells⟩ := h
    choose reply hreply hanswer using htells
    refine ⟨fun answer => env.report (reply answer), ?_, fun answer => report_of_tells (hanswer answer)⟩
    refine congrArg (Prog.call _) (funext fun answer => ?_)
    rw [hreply]
    rfl

end

/-- An operator's command line. -/
def operatorEnv : CliEnv where
  serverFlag := "https://katapult:8443"
  tokenFlag := "write-me"

theorem sendable_operatorEnv : SendableToken operatorEnv.tokenFlag := by
  refine ⟨by decide, fun c hc => ?_⟩
  obtain rfl : 'e' = c := Option.some.inj hc
  decide

theorem plain_operatorEnv : PlainServer operatorEnv.serverFlag :=
  ⟨{ scheme := bytes "https", host := bytes "katapult", port := some (bytes "8443")
     web := by decide, named := by decide
     numbered := by
      rintro digits ⟨⟩
      decide }, by decide⟩

end Katapult
