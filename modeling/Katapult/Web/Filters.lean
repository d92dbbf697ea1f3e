/-
  Katapult.Web.Filters

  The lists of the browser, and the filters it asks for.

  The client names a cluster `cluster_id` and a state `state`, where the handlers
  read `cluster` and `status`, so that these filters are not seen: what comes back
  is the first page of everything.  A list without rows is a nil slice on the
  server, and `null` in the response (`filtersAgree_iff`).
-/

import Katapult.Http.Totals

namespace Katapult

open Effect Keyed Paging

/-! ## Requests -/

/-- The value of a parameter that is not `undefined`. -/
inductive ParamValue where
  | text (s : String)
  | number (n : Int)
  deriving DecidableEq

/-- The source's `String(v)`. -/
def ParamValue.string : ParamValue → String
  | .text s => s
  | .number n => toString n

/-- The entries of a query, without those that are undefined or empty. -/
def buildQuery (params : List (String × Option ParamValue)) : List (String × String) :=
  params.filterMap fun entry =>
    (entry.2.filter fun value => value ≠ .text "").map fun value => (entry.1, value.string)

structure ListAgentsParams where
  clusterID : Option String := none
  state : Option String := none
  limit : Option Int := none
  offset : Option Int := none

def ListAgentsParams.entries (params : ListAgentsParams) : List (String × Option ParamValue) :=
  [("cluster_id", params.clusterID.map .text), ("state", params.state.map .text),
   ("limit", params.limit.map .number), ("offset", params.offset.map .number)]

structure ListTransfersParams where
  state : Option String := none
  cluster : Option String := none
  limit : Option Int := none
  offset : Option Int := none

def ListTransfersParams.entries (params : ListTransfersParams) : List (String × Option ParamValue) :=
  [("state", params.state.map .text), ("cluster", params.cluster.map .text),
   ("limit", params.limit.map .number), ("offset", params.offset.map .number)]

/-- A request of the client; what it puts into the query is what the server reads. -/
def apiGet (token : String) (resource : String) (query : List (String × String)) : HttpRequest where
  target := ⟨"GET", ["api", "v1alpha1", resource], true⟩
  authorization := ["Bearer " ++ token]
  query := query

/-! ## Responses -/

/-- A slice that begins as nil, in JSON: an array, or `null` if nothing has been appended. -/
def jsonItems {ρ : Type} (rows : List ρ) : Option (List ρ) := if rows = [] then none else some rows

/-- The `items` of a response, if they are an array. -/
def Reply.agentItems : Reply → Option (List Agent)
  | ⟨200, .agents items _⟩ => jsonItems items
  | _ => none

def Reply.transferItems : Reply → Option (List Transfer)
  | ⟨200, .transfers items _⟩ => jsonItems items
  | _ => none

section

variable (services : (call : ApiCall) → call.Ans) (token : String)

/-- The client's `listAgents`. -/
def webListAgents (params : ListAgentsParams) : Option (List Agent) :=
  (Api.reply services (handleListAgents (apiGet token "agents" (buildQuery params.entries)))).agentItems

/-- The client's `listTransfers`. -/
def webListTransfers (params : ListTransfersParams) : Option (List Transfer) :=
  (Api.reply services
    (handleListTransfers (apiGet token "transfers" (buildQuery params.entries)))).transferItems

end

/-- The filters mean on the server what they mean in the browser: whatever the
    database makes of ties, the items are an array, and all of them are asked for. -/
structure FiltersAgree (c : Collation) (s : Store) (reg : Registry)
    (others : (call : ApiCall) → call.Ans) (token cluster state : String) : Prop where
  agents : ∀ (order : Arrangement newestFirst) (placeOrder : Arrangement (byPlace c))
    (pvcOrder : UUID → Arrangement (@unordered PVCRow)), ∃ items,
      webListAgents (listingServices order placeOrder pvcOrder s reg others) token
        { clusterID := some cluster } = some items ∧ ∀ a ∈ items, a.clusterID = cluster
  byState : ∀ (order : Arrangement newestFirst) (placeOrder : Arrangement (byPlace c))
    (pvcOrder : UUID → Arrangement (@unordered PVCRow)), ∃ items,
      webListTransfers (listingServices order placeOrder pvcOrder s reg others) token
        { state := some state } = some items ∧ ∀ t ∈ items, t.state.text = state
  byCluster : ∀ (order : Arrangement newestFirst) (placeOrder : Arrangement (byPlace c))
    (pvcOrder : UUID → Arrangement (@unordered PVCRow)), ∃ items,
      webListTransfers (listingServices order placeOrder pvcOrder s reg others) token
        { cluster := some cluster } = some items ∧
        ∀ t ∈ items, t.sourceCluster = cluster ∨ t.destinationCluster = cluster

/-! ## What the server reads -/

section

variable (token : String)

/-- The handler of the agents knows no `cluster_id`. -/
theorem agentFilter_clusterID (cluster : String) :
    (apiGet token "agents" (buildQuery
      (ListAgentsParams.entries { clusterID := some cluster }))).agentFilter = {} := by
  by_cases hempty : cluster = ""
  · -- an empty value is not sent at all
    subst hempty
    rfl
  · have hquery : buildQuery (ListAgentsParams.entries { clusterID := some cluster }) =
        [("cluster_id", cluster)] := by
      simp [buildQuery, ListAgentsParams.entries, hempty, ParamValue.string]
    rw [hquery]
    rfl

/-- The handler of the transfers knows no `state`. -/
theorem transferFilter_state (state : String) :
    (apiGet token "transfers" (buildQuery
      (ListTransfersParams.entries { state := some state }))).transferFilter = {} := by
  by_cases hempty : state = ""
  · subst hempty
    rfl
  · have hquery : buildQuery (ListTransfersParams.entries { state := some state }) =
        [("state", state)] := by
      simp [buildQuery, ListTransfersParams.entries, hempty, ParamValue.string]
    rw [hquery]
    rfl

/-- It reads `cluster`, which the client leaves out if it is empty. -/
theorem transferFilter_cluster (cluster : String) :
    (apiGet token "transfers" (buildQuery
      (ListTransfersParams.entries { cluster := some cluster }))).transferFilter =
      { cluster := if cluster = "" then none else some cluster } := by
  by_cases hempty : cluster = ""
  · subst hempty
    rfl
  · have hquery : buildQuery (ListTransfersParams.entries { cluster := some cluster }) =
        [("cluster", cluster)] := by
      simp [buildQuery, ListTransfersParams.entries, hempty, ParamValue.string]
    have hparameter : HttpRequest.parameter (apiGet token "transfers" [("cluster", cluster)]) "cluster" =
        some cluster := if_pos hempty
    rw [hquery, if_neg hempty, HttpRequest.transferFilter, hparameter]
    rfl

end

/-! ## First pages -/

theorem jsonItems_map {ρ τ : Type} (f : ρ → τ) (rows : List ρ) :
    jsonItems (rows.map f) = (jsonItems rows).map (List.map f) := by
  cases rows with
  | nil => rfl
  | cons r rows => rfl

/-- There are rows, and fifty others come before each row without `P`. -/
def InFront {ρ : Type} (le : ρ → ρ → Prop) [DecidableRel le] (rows : List ρ) (P : ρ → Prop) : Prop :=
  rows ≠ [] ∧ ∀ r ∈ rows, ¬ P r → 50 ≤ before le rows r

/-- Then the first page is an array of rows with `P`, however the table is arranged. -/
theorem firstPage_items_iff {ρ : Type} {le : ρ → ρ → Prop} [DecidableRel le] (hle : Preordering le)
    (rows : List ρ) (P : ρ → Prop) :
    (∀ order : Arrangement le, ∃ items,
        jsonItems (window 50 0 (order.arrange rows)) = some items ∧ ∀ r ∈ items, P r) ↔
      InFront le rows P := by
  have hnil : ∀ order : Arrangement le, window 50 0 (order.arrange rows) = [] ↔ rows = [] := by
    intro order
    rw [window_eq_nil_iff (by decide), (order.perm rows).length_eq, Nat.le_zero, List.length_eq_zero_iff]
  rw [InFront, ← forall_firstPage_iff hle]
  constructor
  · intro hall
    refine ⟨fun hempty => ?_, fun order => ?_⟩
    · obtain ⟨items, hitems, -⟩ := hall (.stable hle)
      rw [jsonItems, if_pos ((hnil _).mpr hempty)] at hitems
      cases hitems
    · obtain ⟨items, hitems, hP⟩ := hall order
      rw [jsonItems] at hitems
      split at hitems
      · cases hitems
      · cases hitems
        exact hP
  · rintro ⟨hsome, hP⟩ order
    exact ⟨_, if_neg fun hempty => hsome ((hnil order).mp hempty), hP order⟩

/-- A table whose rows all have `P`. -/
theorem inFront_of_forall {ρ : Type} {le : ρ → ρ → Prop} [DecidableRel le] {rows : List ρ}
    {P : ρ → Prop} (hall : ∀ r ∈ rows, P r) : InFront le rows P ↔ rows ≠ [] :=
  and_iff_left fun r hr hnot => absurd (hall r hr) hnot

/-! ## The lists -/

/-- The transfer starts or ends in this cluster. -/
def Transfer.Touches (cluster : String) (t : Transfer) : Prop :=
  t.sourceCluster = cluster ∨ t.destinationCluster = cluster

section

variable (c : Collation) (s : Store) (reg : Registry) (others : (call : ApiCall) → call.Ans)
variable (token : String)

theorem matching_all : s.matching {} = s.transfers.rows := List.filter_eq_self.mpr fun _ _ => rfl

theorem webListAgents_clusterID (order : Arrangement newestFirst) (placeOrder : Arrangement (byPlace c))
    (pvcOrder : UUID → Arrangement (@unordered PVCRow)) (cluster : String) :
    webListAgents (listingServices order placeOrder pvcOrder s reg others) token
        { clusterID := some cluster } =
      (jsonItems (window 50 0 (placeOrder.arrange reg.agents.rows))).map
        (List.map fun r => { toAgentRow := r, pvcs := reg.getPVCs (pvcOrder r.id) r.id }) := by
  have hall : reg.matching {} = reg.agents.rows := List.filter_eq_self.mpr fun _ _ => rfl
  rw [webListAgents, reply_listAgents, agentFilter_clusterID, Registry.listAgents, countedPage_eq, hall]
  exact jsonItems_map _ _

theorem webListTransfers_eq (order : Arrangement newestFirst) (placeOrder : Arrangement (byPlace c))
    (pvcOrder : UUID → Arrangement (@unordered PVCRow)) (params : ListTransfersParams) :
    webListTransfers (listingServices order placeOrder pvcOrder s reg others) token params =
      jsonItems (s.listTransfers order
        (apiGet token "transfers" (buildQuery params.entries)).transferFilter).1 := by
  rw [webListTransfers, reply_listTransfers]
  rfl

theorem agents_iff (cluster : String) :
    (∀ (order : Arrangement newestFirst) (placeOrder : Arrangement (byPlace c))
      (pvcOrder : UUID → Arrangement (@unordered PVCRow)), ∃ items,
        webListAgents (listingServices order placeOrder pvcOrder s reg others) token
          { clusterID := some cluster } = some items ∧ ∀ a ∈ items, a.clusterID = cluster) ↔
      InFront (byPlace c) reg.agents.rows fun r => r.clusterID = cluster := by
  rw [← firstPage_items_iff (preordering_byPlace c)]
  constructor
  · intro hall placeOrder
    obtain ⟨items, hitems, hcluster⟩ := hall (.stable preordering_newestFirst) placeOrder fun _ => .unchanged
    rw [webListAgents_clusterID] at hitems
    obtain ⟨rows, hrows, rfl⟩ := Option.map_eq_some_iff.mp hitems
    exact ⟨rows, hrows, fun r hr => hcluster _ (List.mem_map_of_mem hr)⟩
  · intro hall order placeOrder pvcOrder
    obtain ⟨rows, hrows, hcluster⟩ := hall placeOrder
    rw [webListAgents_clusterID, hrows]
    refine ⟨_, rfl, fun a ha => ?_⟩
    obtain ⟨r, hr, rfl⟩ := List.mem_map.mp ha
    exact hcluster r hr

/-- A list of the transfers that match some filter. -/
theorem transfers_iff (params : ListTransfersParams) (filter : TransferFilter)
    (hfilter : (apiGet token "transfers" (buildQuery params.entries)).transferFilter = filter)
    (hpage : queryLimit filter.limit = 50 ∧ queryOffset filter.offset = 0) (P : Transfer → Prop) :
    (∀ (order : Arrangement newestFirst) (placeOrder : Arrangement (byPlace c))
      (pvcOrder : UUID → Arrangement (@unordered PVCRow)), ∃ items,
        webListTransfers (listingServices order placeOrder pvcOrder s reg others) token params =
          some items ∧ ∀ t ∈ items, P t) ↔
      InFront newestFirst (s.matching filter) P := by
  rw [← firstPage_items_iff preordering_newestFirst]
  have hpages : ∀ order : Arrangement newestFirst,
      (s.listTransfers order filter).1 = window 50 0 (order.arrange (s.matching filter)) := by
    intro order
    rw [Store.listTransfers, countedPage_eq, hpage.1, hpage.2]
  simp only [webListTransfers_eq, hfilter, hpages]
  exact ⟨fun hall order => hall order (.stable (preordering_byPlace c)) fun _ => .unchanged,
    fun hall order _ _ => hall order⟩

/-- The browser gets what it asks for exactly if it would get it without asking,
    but for a cluster of transfers; and then there must be something to get. -/
theorem filtersAgree_iff (cluster state : String) :
    FiltersAgree c s reg others token cluster state ↔
      InFront (byPlace c) reg.agents.rows (fun r => r.clusterID = cluster) ∧
      InFront newestFirst s.transfers.rows (fun t => t.state.text = state) ∧
      if cluster = "" then InFront newestFirst s.transfers.rows (Transfer.Touches cluster)
      else ∃ t ∈ s.transfers.rows, t.Touches cluster := by
  have hagents := agents_iff c s reg others token cluster
  have hstate := transfers_iff c s reg others token { state := some state } {}
    (transferFilter_state token state) ⟨rfl, rfl⟩ fun t => t.state.text = state
  have hcluster := transfers_iff c s reg others token { cluster := some cluster } _
    (transferFilter_cluster token cluster) ⟨rfl, rfl⟩ (Transfer.Touches cluster)
  rw [matching_all] at hstate
  -- the server filters by a cluster that is sent, and then only emptiness is in question
  have hmatching : InFront newestFirst
        (s.matching { cluster := if cluster = "" then none else some cluster }) (Transfer.Touches cluster) ↔
      if cluster = "" then InFront newestFirst s.transfers.rows (Transfer.Touches cluster)
      else ∃ t ∈ s.transfers.rows, t.Touches cluster := by
    by_cases hempty : cluster = ""
    · rw [if_pos hempty, if_pos hempty, matching_all]
    · have hadmits : ∀ t : Transfer,
          TransferFilter.admits { cluster := some cluster } t = true ↔ t.Touches cluster := by
        intro t
        simp [TransferFilter.admits, Transfer.Touches]
      rw [if_neg hempty, if_neg hempty, Store.matching,
        inFront_of_forall fun t ht => (hadmits t).mp (List.of_mem_filter ht), Ne, List.filter_eq_nil_iff]
      simp only [hadmits, not_forall, not_not, exists_prop]
  rw [hmatching] at hcluster
  constructor
  · rintro ⟨h₁, h₂, h₃⟩
    exact ⟨hagents.mp h₁, hstate.mp h₂, hcluster.mp h₃⟩
  · rintro ⟨h₁, h₂, h₃⟩
    exact ⟨hagents.mpr h₁, hstate.mpr h₂, hcluster.mpr h₃⟩

end

/-- The agents of two clusters, and the filter asks for one. -/
theorem not_filtersAgree_threeAgents :
    ¬ ∀ (c : Collation) (s : Store) (reg : Registry) (others : (call : ApiCall) → call.Ans)
      (token cluster state : String), FiltersAgree c s reg others token cluster state := by
  intro hall
  obtain ⟨hlisted, -, -⟩ :=
    hall .codePoints (twoTransfers 0 1000) threeAgents (ApiCall.failed "") "" "west" "pending"
  obtain ⟨-, hfront⟩ := (agents_iff .codePoints _ _ (ApiCall.failed "") "" "west").mp hlisted
  have hmany := hfront (agentAt 2 "east" "node-2") (by decide) (by decide)
  revert hmany
  decide

end Katapult
