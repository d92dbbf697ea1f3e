/-
  Katapult.Store.Listing

  The list queries of the PostgreSQL repositories, and walks through their pages.

  Transfers are ordered by `created_at` alone, agents by a unique key.  So a walk
  through the agents lists them all (`listAgents_walk`), and a walk through the
  transfers does so exactly when no page ends between two transfers that were
  created at the same time (`listTransfers_walk_iff`).
-/

import Katapult.Paging.Walk
import Katapult.Store.AgentRepository
import Katapult.Store.TransferRepository
import Mathlib.Data.String.Basic

namespace Katapult

open Keyed Paging

/-! ## Orders -/

/-- `ORDER BY created_at DESC`. -/
def newestFirst (a b : Transfer) : Prop := b.createdAt ≤ a.createdAt

instance : DecidableRel newestFirst := fun a b =>
  inferInstanceAs (Decidable (b.createdAt ≤ a.createdAt))

theorem preordering_newestFirst : Preordering newestFirst where
  total a b := le_total b.createdAt a.createdAt
  trans _ _ _ hab hbc := le_trans hbc hab

/-- The collation of a text column. -/
structure Collation where
  le : String → String → Prop
  dec : DecidableRel le
  total : ∀ a b, le a b ∨ le b a
  trans : ∀ a b c, le a b → le b c → le a c
  antisymm : ∀ a b, le a b → le b a → a = b

attribute [instance] Collation.dec

/-- By code points. -/
def Collation.codePoints : Collation where
  le a b := a ≤ b
  dec _ _ := inferInstance
  total := le_total
  trans _ _ _ := le_trans
  antisymm _ _ := le_antisymm

/-- `ORDER BY cluster_id, node_name`. -/
def byPlace (c : Collation) (a b : AgentRow) : Prop :=
  if a.clusterID = b.clusterID then c.le a.nodeName b.nodeName else c.le a.clusterID b.clusterID

instance (c : Collation) : DecidableRel (byPlace c) := fun a b =>
  inferInstanceAs (Decidable (if a.clusterID = b.clusterID then c.le a.nodeName b.nodeName
    else c.le a.clusterID b.clusterID))

theorem preordering_byPlace (c : Collation) : Preordering (byPlace c) where
  total a b := by
    unfold byPlace
    by_cases hcluster : a.clusterID = b.clusterID
    · rw [if_pos hcluster, if_pos hcluster.symm]
      exact c.total _ _
    · rw [if_neg hcluster, if_neg (Ne.symm hcluster)]
      exact c.total _ _
  trans r₁ r₂ r₃ h₁₂ h₂₃ := by
    unfold byPlace at *
    by_cases hfst : r₁.clusterID = r₂.clusterID
    · rw [if_pos hfst] at h₁₂
      rw [hfst]
      by_cases hsnd : r₂.clusterID = r₃.clusterID
      · rw [if_pos hsnd] at h₂₃ ⊢
        exact c.trans _ _ _ h₁₂ h₂₃
      · rwa [if_neg hsnd] at h₂₃ ⊢
    · rw [if_neg hfst] at h₁₂
      by_cases hsnd : r₂.clusterID = r₃.clusterID
      · rw [← hsnd, if_neg hfst]
        exact h₁₂
      · rw [if_neg hsnd] at h₂₃
        have hle := c.trans _ _ _ h₁₂ h₂₃
        -- the outer clusters are equal only if all three are
        have hne : r₁.clusterID ≠ r₃.clusterID := by
          intro heq
          rw [← heq] at h₂₃
          exact hfst (c.antisymm _ _ h₁₂ h₂₃)
        rw [if_neg hne]
        exact hle

/-- Agents in one place are equal in this order, and only those. -/
theorem place_eq_of_byPlace {c : Collation} {a b : AgentRow} (hab : byPlace c a b)
    (hba : byPlace c b a) : a.place = b.place := by
  unfold byPlace at hab hba
  by_cases hcluster : a.clusterID = b.clusterID
  · rw [if_pos hcluster] at hab
    rw [if_pos hcluster.symm] at hba
    exact Prod.ext hcluster (c.antisymm _ _ hab hba)
  · rw [if_neg hcluster] at hab
    rw [if_neg (Ne.symm hcluster)] at hba
    exact absurd (c.antisymm _ _ hab hba) hcluster

/-! ## Queries -/

/-- The `LIMIT` of both queries. -/
def queryLimit (limit : Int) : Nat := (if limit ≤ 0 then 50 else limit).toNat

/-- The `OFFSET` of both queries, which is left out unless it is positive. -/
def queryOffset (offset : Int) : Nat := if 0 < offset then offset.toNat else 0

theorem queryLimit_pos (limit : Int) : 0 < queryLimit limit := by
  unfold queryLimit
  split <;> omega

theorem queryOffset_eq (offset : Int) : queryOffset offset = offset.toNat := by
  unfold queryOffset
  split <;> omega

/-- The `WHERE` clause of a transfer filter. -/
def TransferFilter.admits (filter : TransferFilter) (t : Transfer) : Bool :=
  (filter.state.all fun state => t.state.text = state) &&
    filter.cluster.all fun cluster => t.sourceCluster = cluster || t.destinationCluster = cluster

/-- The transfers that match a filter. -/
def Store.matching (s : Store) (filter : TransferFilter) : List Transfer :=
  s.transfers.rows.filter filter.admits

/-- A page of transfers, and the total count. -/
def Store.listTransfers (order : Arrangement newestFirst) (s : Store) (filter : TransferFilter) :
    List Transfer × Nat :=
  countedPage (queryLimit filter.limit) (queryOffset filter.offset) (order.arrange (s.matching filter))

/-- The `WHERE` clause of an agent filter. -/
def AgentFilter.admits (filter : AgentFilter) (r : AgentRow) : Bool :=
  (filter.clusterID.all fun clusterID => r.clusterID = clusterID) &&
    filter.state.all fun state => r.state.text = state

namespace Registry

/-- The agents that match a filter. -/
def matching (reg : Registry) (filter : AgentFilter) : List AgentRow :=
  reg.agents.rows.filter filter.admits

/-- The inventory of an agent, in the order in which the query has found it. -/
def getPVCs (order : Arrangement (@unordered PVCRow)) (reg : Registry) (agentID : UUID) :
    List PVCInfo :=
  (order.arrange (reg.inventory agentID)).map PVCRow.pvc

/-- A page of agents with their inventories, and the total count. -/
def listAgents {c : Collation} (order : Arrangement (byPlace c))
    (pvcOrder : UUID → Arrangement (@unordered PVCRow)) (reg : Registry) (filter : AgentFilter) :
    List Agent × Nat :=
  let page := countedPage (queryLimit filter.limit) (queryOffset filter.offset)
    (order.arrange (reg.matching filter))
  (page.1.map fun r => { toAgentRow := r, pvcs := reg.getPVCs (pvcOrder r.id) r.id }, page.2)

end Registry

/-! ## Totals -/

/-- A page at this offset has a row, or there is nothing to list. -/
def Within {ρ : Type} (matching : List ρ) (offset : Int) : Prop :=
  matching = [] ∨ offset < matching.length

theorem past_queryOffset_iff {ρ : Type} (offset : Int) (rows : List ρ) :
    rows = [] ∨ queryOffset offset < rows.length ↔ Within rows offset := by
  rw [queryOffset_eq, Within]
  refine or_congr_right' fun hsome => ?_
  have hpos : 0 < rows.length := List.length_pos_iff.mpr hsome
  omega

/-- The count of a page of transfers is that of the matching rows, unless the
    page is past the last of them. -/
theorem listTransfers_total_iff (order : Arrangement newestFirst) (s : Store) (filter : TransferFilter) :
    (s.listTransfers order filter).2 = (s.matching filter).length ↔
      Within (s.matching filter) filter.offset :=
  (count_arrange_iff order (queryLimit_pos _) _ _).trans (past_queryOffset_iff _ _)

/-- The same for agents. -/
theorem listAgents_total_iff {c : Collation} (order : Arrangement (byPlace c))
    (pvcOrder : UUID → Arrangement (@unordered PVCRow)) (reg : Registry) (filter : AgentFilter) :
    (reg.listAgents order pvcOrder filter).2 = (reg.matching filter).length ↔
      Within (reg.matching filter) filter.offset :=
  (count_arrange_iff order (queryLimit_pos _) _ _).trans (past_queryOffset_iff _ _)

/-! ## Walks -/

/-- The offsets `0`, `L`, `2L`, .. of a walk. -/
theorem queryOffset_mul {L : Int} (hL : 1 ≤ L) (k : Nat) : queryOffset (k * L) = k * L.toNat := by
  obtain ⟨n, rfl⟩ := Int.eq_ofNat_of_zero_le (by omega : 0 ≤ L)
  rw [queryOffset_eq, Int.toNat_natCast, ← Int.natCast_mul, Int.toNat_natCast]

theorem queryLimit_of_pos {L : Int} (hL : 1 ≤ L) : queryLimit L = L.toNat := by
  rw [queryLimit, if_neg (by omega)]

section

variable (s : Store) (state cluster : Option String)

/-- The filter of page `k` of a walk. -/
def TransferFilter.page (L : Int) (k : Nat) : TransferFilter := { state, cluster, limit := L, offset := k * L }

/-- A page of the walk, under any arrangement. -/
theorem listTransfers_page {L : Int} (hL : 1 ≤ L) (orders : Nat → Arrangement newestFirst) (k : Nat) :
    (s.listTransfers (orders k) (.page state cluster L k)).1 =
      pageOf orders (s.matching { state, cluster }) L.toNat k := by
  rw [Store.listTransfers, countedPage_eq, TransferFilter.page, queryLimit_of_pos hL,
    queryOffset_mul hL]
  rfl

/-- A walk through the transfers that match a filter, which do not change: it
    yields each of them once, newest first, whatever each query makes of equal
    timestamps, exactly when no page ends between two with the same one. -/
theorem listTransfers_walk_iff {L : Int} (hL : 1 ≤ L) :
    (∀ orders : Nat → Arrangement newestFirst, ∃ out,
        Walks (fun k => (s.listTransfers (orders k) (.page state cluster L k)).1) out ∧
          Listed newestFirst (s.matching { state, cluster }) out) ↔
      ∀ k, ¬ Straddled newestFirst (s.matching { state, cluster }) (k * L.toNat) := by
  have hnodup : (s.matching { state, cluster }).Nodup := (s.transfers.nodup.of_map _).filter _
  simp only [listTransfers_page s state cluster hL]
  exact walk_listed_iff preordering_newestFirst hnodup (by omega)

end

section

variable {c : Collation} {reg : Registry} {clusterID state : Option String}

/-- The filter of page `k` of a walk. -/
def AgentFilter.page (clusterID state : Option String) (L : Int) (k : Nat) : AgentFilter :=
  { clusterID, state, limit := L, offset := k * L }

/-- What a walk through the agents yields. -/
structure AgentsListed (c : Collation) (reg : Registry) (filter : AgentFilter) (out : List Agent) :
    Prop where
  once : (out.map Agent.toAgentRow).Perm (reg.matching filter)
  sorted : (out.map Agent.toAgentRow).Pairwise (byPlace c)
  inventories : ∀ a ∈ out, a.pvcs.Perm ((reg.inventory a.id).map PVCRow.pvc)

/-- The agents of a registry are told apart by their places. -/
theorem not_straddled_byPlace (c : Collation) (reg : Registry) (filter : AgentFilter) (b : Nat) :
    ¬ Straddled (byPlace c) (reg.matching filter) b := by
  refine not_straddled_of_antisymm ((reg.agents.nodup.of_map _).filter _) (fun r hr r' hr' h h' => ?_) b
  exact List.inj_on_of_nodup_map reg.agents.nodup (List.mem_of_mem_filter hr)
    (List.mem_of_mem_filter hr') (place_eq_of_byPlace h h')

/-- A walk through the agents that match a filter, which do not change: it yields
    each of them once, in the order of their places, with its inventory; and a
    limit that is not positive is the same as 50. -/
theorem listAgents_walk {L : Int} (hL : 1 ≤ L) (orders : Nat → Arrangement (byPlace c))
    (pvcOrders : Nat → UUID → Arrangement (@unordered PVCRow)) :
    (∃ out, Walks (fun k => (reg.listAgents (orders k) (pvcOrders k) (.page clusterID state L k)).1) out ∧
        AgentsListed c reg { clusterID, state } out) ∧
      ∀ (k : Nat) (filter : AgentFilter), filter.limit ≤ 0 →
        reg.listAgents (orders k) (pvcOrders k) filter =
          reg.listAgents (orders k) (pvcOrders k) { filter with limit := 50 } := by
  constructor
  · have hL' : 0 < L.toNat := by omega
    let rows := reg.matching { clusterID, state }
    have hpage : ∀ k, (reg.listAgents (orders k) (pvcOrders k) (.page clusterID state L k)).1 =
        (pageOf orders rows L.toNat k).map fun r =>
          { toAgentRow := r, pvcs := reg.getPVCs (pvcOrders k r.id) r.id } := by
      intro k
      rw [Registry.listAgents, countedPage_eq, AgentFilter.page, queryLimit_of_pos hL,
        queryOffset_mul hL]
      rfl
    have hwalks := @walks_of_nil_iff Agent
      (fun k => (reg.listAgents (orders k) (pvcOrders k) (.page clusterID state L k)).1)
      (pageCount rows.length L.toNat)
      fun k => by rw [hpage, List.map_eq_nil_iff, pageOf_eq_nil_iff hL']
    refine ⟨_, hwalks, ?_⟩
    -- without the inventories, these are the pages of the rows
    have hrows : ((List.range (pageCount rows.length L.toNat)).flatMap fun k =>
          (reg.listAgents (orders k) (pvcOrders k) (.page clusterID state L k)).1).map Agent.toAgentRow =
        (List.range (pageCount rows.length L.toNat)).flatMap (pageOf orders rows L.toNat) := by
      rw [List.map_flatMap]
      refine List.flatMap_congr fun k _ => ?_
      rw [hpage, List.map_map]
      exact List.map_id _
    have hlisted := listed_of_not_straddled (preordering_byPlace c) hL'
      (fun k => not_straddled_byPlace c reg { clusterID, state } (k * L.toNat)) orders
    refine ⟨?_, ?_, fun a ha => ?_⟩
    · rw [hrows]
      exact hlisted.perm
    · rw [hrows]
      exact hlisted.sorted
    · obtain ⟨k, -, hmem⟩ := List.mem_flatMap.mp ha
      rw [hpage] at hmem
      obtain ⟨r, -, rfl⟩ := List.mem_map.mp hmem
      exact ((pvcOrders k r.id).perm _).map _
  · intro k filter hlimit
    have hsame : queryLimit filter.limit = queryLimit 50 := by
      rw [queryLimit, if_pos hlimit]
      rfl
    show (_, _) = (_, _)
    simp only [hsame]
    rfl

end

/-! ## Sample tables -/

/-- A transfer that was created at this time. -/
def createdTransfer (id : UUID) (createdAt : Time) : Transfer where
  id := id
  sourceCluster := "east"
  sourcePVC := "apps/data"
  destinationCluster := "west"
  destinationPVC := "apps/data"
  state := .pending
  allowOverwrite := false
  retryMax := 3
  createdBy := ""
  createdAt := createdAt

/-- Two transfers, and when they were created. -/
def twoTransfers (fst snd : Time) : Store where
  transfers := ⟨[createdTransfer 1 fst, createdTransfer 2 snd], by
    show [(1 : UUID), 2].Nodup
    decide⟩
  events := .empty
  fk := by simp [Table.empty]

/-- One microsecond apart, and a page for each. -/
theorem listTransfers_walk_iff_apart :
    (1 : Int) ≤ 1 ∧ ((∀ orders : Nat → Arrangement newestFirst, ∃ out,
        Walks (fun k => ((twoTransfers 0 1000).listTransfers (orders k) (.page none none 1 k)).1) out ∧
          Listed newestFirst ((twoTransfers 0 1000).matching {}) out) ↔
      ∀ k, ¬ Straddled newestFirst ((twoTransfers 0 1000).matching {}) (k * (1 : Int).toNat)) :=
  ⟨by decide, listTransfers_walk_iff (twoTransfers 0 1000) none none (by decide)⟩

/-- At the same time: some answers to the two queries show one transfer twice. -/
theorem not_listTransfers_walk_tied :
    ¬ ∀ (s : Store) (state cluster : Option String) (L : Int), 1 ≤ L →
      ∀ orders : Nat → Arrangement newestFirst, ∃ out,
        Walks (fun k => (s.listTransfers (orders k) (.page state cluster L k)).1) out ∧
          Listed newestFirst (s.matching { state, cluster }) out := by
  intro hall
  have hnodup : ((twoTransfers 0 0).matching {}).Nodup :=
    ((twoTransfers 0 0).transfers.nodup.of_map _).filter _
  have hwalks : ∀ orders : Nat → Arrangement newestFirst, ∃ out,
      Walks (pageOf orders ((twoTransfers 0 0).matching {}) 1) out ∧
        Listed newestFirst ((twoTransfers 0 0).matching {}) out := by
    intro orders
    obtain ⟨out, hout, hlisted⟩ := hall (twoTransfers 0 0) none none 1 (by decide) orders
    simp only [listTransfers_page (twoTransfers 0 0) none none (by decide : (1 : Int) ≤ 1) orders] at hout
    exact ⟨out, hout, hlisted⟩
  have hfree := (walk_listed_iff preordering_newestFirst hnodup (by decide)).mp hwalks
  exact hfree 1 (by decide)

/-- An agent in this place. -/
def agentAt (id : UUID) (clusterID nodeName : String) : AgentRow where
  id := id
  clusterID := clusterID
  nodeName := nodeName
  state := .healthy
  healthy := true
  lastHeartbeat := 0
  tools := {}
  registeredAt := 0
  jwtNamespace := ""

/-- Three agents of two clusters, two of them with volumes. -/
def threeAgents : Registry where
  agents := ⟨[agentAt 1 "west" "node-1", agentAt 2 "east" "node-2", agentAt 3 "east" "node-1"], by
    show [("west", "node-1"), ("east", "node-2"), ("east", "node-1")].Nodup
    decide⟩
  pvcs := ⟨[⟨1, ⟨"data", 1, "standard", "node-1"⟩, 0⟩, ⟨3, ⟨"data", 2, "standard", "node-1"⟩, 0⟩,
      ⟨3, ⟨"logs", 1, "standard", "node-1"⟩, 0⟩], by
    show [((1 : UUID), "data"), (3, "data"), (3, "logs")].Nodup
    decide⟩
  ids := by
    show [(1 : UUID), 2, 3].Nodup
    decide
  fk := by
    intro p hp
    simp only [List.mem_cons, List.not_mem_nil, or_false] at hp
    obtain rfl | rfl | rfl := hp <;> decide

/-- Two at a time. -/
theorem listAgents_walk_three :
    (1 : Int) ≤ 2 ∧ (∃ out, Walks (fun k => (threeAgents.listAgents
          (Arrangement.stable (preordering_byPlace .codePoints)) (fun _ => .unchanged)
          (.page none none 2 k)).1) out ∧
        AgentsListed .codePoints threeAgents {} out) :=
  ⟨by decide, (listAgents_walk (L := 2) (by decide) (fun _ => .stable (preordering_byPlace .codePoints))
    fun _ _ => .unchanged).1⟩

end Katapult
