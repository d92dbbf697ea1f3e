/-
  Katapult.Web.Requests

  The lists that the browser and the command-line client ask for, up to what the
  server reads.

  Both write their filters into a query, each in its own way, and both queries are
  read back as they have been written (`apiGet_received`).  So the two ask for the
  same only where they use the same names: they agree on the agents exactly if no
  cluster is asked for, and on the transfers exactly if no state is
  (`clients_agree_iff`).
-/

import Katapult.Cli.Delivery
import Katapult.Web.Filters

namespace Katapult

open Effect Routing Urlencoded

/-! ## Requests of the browser -/

/-- A request of the client as it is sent; `none` if the browser refuses the header. -/
def apiGetSent (token : String) (path : Bytes) : Option WireRequest :=
  (headerValue ("Bearer " ++ token)).map fun value => ⟨[], "GET", path, some value, none⟩

/-- The path of a list, and its query. -/
def listPath (resource : String) (params : List (String × Option ParamValue)) : Bytes :=
  slashed ["api", "v1alpha1", resource] ++ queryText false (searchParams.write (buildQuery params))

theorem received_list {token resource : String} (htoken : SendableToken token) (hne : token ≠ "")
    (hresource : PlainSegment resource)
    (hsafe : (bytes resource).all pathEscaping.safe = true) (params : List (String × Option ParamValue)) :
    (apiGetSent token (listPath resource params)).bind WireRequest.received =
      some (apiGet token resource (buildQuery params)) := by
  have hbytes : ∀ s ∈ ["api", "v1alpha1", resource], ∀ b ∈ bytes s, pathEscaping.safe b = true := by
    simp only [List.forall_mem_cons]
    exact ⟨List.all_eq_true.mp (by decide), List.all_eq_true.mp (by decide), List.all_eq_true.mp hsafe,
      List.forall_mem_nil _⟩
  rw [apiGetSent, headerValue_bearer htoken hne, Option.map_some, Option.bind_some, listPath,
    WireRequest.received_of_safe (plain_list hresource) hbytes (by simp) searchParams sendable_searchParams]
  rfl

/-- The lists of the browser arrive with the parameters that it has set. -/
theorem apiGet_received {token : String} (htoken : SendableToken token) (hne : token ≠ "")
    (params : List (String × Option ParamValue)) :
    (apiGetSent token (listPath "transfers" params)).bind WireRequest.received =
        some (apiGet token "transfers" (buildQuery params)) ∧
      (apiGetSent token (listPath "agents" params)).bind WireRequest.received =
        some (apiGet token "agents" (buildQuery params)) :=
  ⟨received_list htoken hne plain_transfers (by decide) params,
    received_list htoken hne plain_agents (by decide) params⟩

/-! ## The two clients -/

theorem CliCommand.sent_received {env : CliEnv} {cmd : CliCommand} {server token : String}
    (hplain : cmd.Plain) (henv : resolveServerAndToken env = .ok (server, token))
    (hserver : PlainServer server) (htoken : SendableToken token) :
    (cmd.run env).next?.bind WireRequest.received = some (cmd.request token) := by
  obtain ⟨w, hreceived, hrun⟩ := sends hplain henv hserver htoken
  rw [hrun]
  exact hreceived

/-- What the browser sets for a list of transfers. -/
def browsedTransfers (state cluster : String) (limit : Int64) : List (String × Option ParamValue) :=
  ListTransfersParams.entries { state := some state, cluster := some cluster, limit := some limit.toInt }

/-- What the browser sets for a list of agents. -/
def browsedAgents (cluster state : String) : List (String × Option ParamValue) :=
  ListAgentsParams.entries { clusterID := some cluster, state := some state }

/-- The state is not seen. -/
theorem transferFilter_browsed {r : HttpRequest} {state cluster : String} {limit : Int64}
    (h : r.query = buildQuery (browsedTransfers state cluster limit)) :
    r.transferFilter = { cluster := given cluster, limit := max 0 limit.toInt } := by
  have hlookup : (r.query.lookup "status").getD "" = "" ∧ (r.query.lookup "cluster").getD "" = cluster ∧
      r.query.lookup "limit" = some (toString limit.toInt) ∧ r.query.lookup "offset" = none := by
    rw [h]
    unfold browsedTransfers ListTransfersParams.entries buildQuery
    by_cases hcluster : cluster = "" <;> by_cases hstate : state = "" <;>
      simp [hcluster, hstate, List.lookup_cons, ParamValue.string]
  obtain ⟨hstatus, hcluster, hlimit, hoffset⟩ := hlookup
  have hsent : r.parameter "limit" = some (toString limit.toInt) := by
    rw [HttpRequest.parameter, HttpRequest.queryValue, hlimit, Option.getD_some,
      if_pos (toString_ne_empty (fitsInt_toInt limit))]
  rw [HttpRequest.transferFilter, parameter_eq hstatus, parameter_eq hcluster,
    limit_of_parameter (fitsInt_toInt limit) hsent, offset_of_query hoffset]
  rfl

/-- The cluster is not seen. -/
theorem agentFilter_browsed {r : HttpRequest} {cluster state : String}
    (h : r.query = buildQuery (browsedAgents cluster state)) :
    r.agentFilter = { state := given state } := by
  have hlookup : (r.query.lookup "cluster").getD "" = "" ∧ (r.query.lookup "state").getD "" = state ∧
      r.query.lookup "limit" = (if 0 < (0 : Int64).toInt then some (toString (0 : Int64).toInt) else none) ∧
      r.query.lookup "offset" = none := by
    rw [h]
    unfold browsedAgents ListAgentsParams.entries buildQuery
    by_cases hcluster : cluster = "" <;> by_cases hstate : state = "" <;>
      simp [hcluster, hstate, List.lookup_cons, ParamValue.string]
  obtain ⟨hcluster, hstate, hlimit, hoffset⟩ := hlookup
  rw [HttpRequest.agentFilter, parameter_eq hcluster, parameter_eq hstate, limit_of_query hlimit,
    offset_of_query hoffset]
  rfl

theorem given_eq_none_iff {value : String} : given value = none ↔ value = "" := by
  simp [given]

/-- With any token that can be sent, and the address of a server, the same filters come
    to the same lists from the browser and from the command line exactly if the agents'
    cluster, and the transfers' state, are left empty.  (A limit is printed as it is by
    both up to 2^53, from where on the numbers of the browser are rounded.) -/
theorem clients_agree_iff {env : CliEnv} {server token : String}
    (henv : resolveServerAndToken env = .ok (server, token)) (hserver : PlainServer server)
    (htoken : SendableToken token) (hne : token ≠ "") (state cluster : String) (limit : Int64) :
    (((apiGetSent token (listPath "transfers" (browsedTransfers state cluster limit))).bind
          WireRequest.received).map HttpRequest.transferFilter =
        (((CliCommand.transferList ⟨state, cluster, limit⟩).run env).next?.bind
          WireRequest.received).map HttpRequest.transferFilter ↔ state = "") ∧
    (((apiGetSent token (listPath "agents" (browsedAgents cluster state))).bind
          WireRequest.received).map HttpRequest.agentFilter =
        (((CliCommand.agentList ⟨cluster, state⟩).run env).next?.bind
          WireRequest.received).map HttpRequest.agentFilter ↔ cluster = "") := by
  have hbrowser := apiGet_received htoken hne
  have hcommand := fun cmd hplain => @CliCommand.sent_received env cmd server token hplain henv hserver htoken
  constructor
  · rw [(hbrowser _).1, hcommand (.transferList ⟨state, cluster, limit⟩) trivial, Option.map_some, Option.map_some,
      Option.some_inj, transferFilter_browsed rfl, transferFilter_of_params rfl, TransferFilter.mk.injEq]
    simp only [and_true]
    rw [eq_comm, given_eq_none_iff]
  · rw [(hbrowser _).2, hcommand (.agentList ⟨cluster, state⟩) trivial, Option.map_some, Option.map_some,
      Option.some_inj, agentFilter_browsed rfl, agentFilter_of_params rfl, AgentFilter.mk.injEq]
    simp only [and_true]
    rw [eq_comm, given_eq_none_iff]

theorem clients_agree_pending :
    ¬ (((apiGetSent "write-me" (listPath "transfers" (browsedTransfers "pending" "east" 20))).bind
          WireRequest.received).map HttpRequest.transferFilter =
        (((CliCommand.transferList ⟨"pending", "east", 20⟩).run operatorEnv).next?.bind
          WireRequest.received).map HttpRequest.transferFilter) := by
  obtain ⟨htransfers, -⟩ := @clients_agree_iff operatorEnv "https://katapult:8443" "write-me" rfl
    plain_operatorEnv sendable_operatorEnv (by decide) "pending" "east" 20
  rw [htransfers]
  decide

end Katapult
