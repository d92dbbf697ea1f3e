/-
  Katapult.Http.Totals

  The total that a list reply carries.

  The PostgreSQL repositories read it off the rows of the page, so a page without
  rows has the total 0.  The handlers report what they are given, and the
  in-memory repositories count for themselves (`totals_iff`).
-/

import Katapult.Http.Handlers
import Katapult.Testutil.MemRepos

namespace Katapult

open Effect Paging

/-- Run a handler against services with these answers. -/
def Api.reply {α : Type} (services : (call : ApiCall) → call.Ans) : Api α → α
  | .pure a => a
  | .call op k => Api.reply services (k (services op))

/-- What the services answer when the repositories are these, and succeed;
    `others` are the answers to the other calls. -/
def listingServices {c : Collation} (order : Arrangement newestFirst)
    (placeOrder : Arrangement (byPlace c)) (pvcOrder : UUID → Arrangement (@unordered PVCRow))
    (s : Store) (reg : Registry) (others : (call : ApiCall) → call.Ans) : (call : ApiCall) → call.Ans
  | .listTransfers filter =>
      let page := s.listTransfers order filter
      .ok (page.1, page.2)
  | .listAgents filter =>
      let page := reg.listAgents placeOrder pvcOrder filter
      .ok (page.1, page.2)
  | call => others call

namespace HttpRequest

/-- The filter that the transfer list handler makes of the query. -/
def transferFilter (r : HttpRequest) : TransferFilter :=
  { state := r.parameter "status", cluster := r.parameter "cluster"
    limit := r.limit, offset := r.offset }

/-- The filter that the agent list handler makes of the query. -/
def agentFilter (r : HttpRequest) : AgentFilter :=
  { clusterID := r.parameter "cluster", state := r.parameter "state"
    limit := r.limit, offset := r.offset }

end HttpRequest

/-- The `pagination.total` of a reply. -/
def Reply.total : Reply → Option Int
  | ⟨_, .transfers _ pagination⟩ => some pagination.total
  | ⟨_, .agents _ pagination⟩ => some pagination.total
  | _ => none

section

variable {c : Collation} (order : Arrangement newestFirst) (placeOrder : Arrangement (byPlace c))
variable (pvcOrder : UUID → Arrangement (@unordered PVCRow)) (s : Store) (reg : Registry)
variable (others : (call : ApiCall) → call.Ans)

theorem reply_listTransfers (r : HttpRequest) :
    (Api.reply (listingServices order placeOrder pvcOrder s reg others) (handleListTransfers r)) =
      ⟨200, .transfers (s.listTransfers order r.transferFilter).1
        (paginationMeta (s.listTransfers order r.transferFilter).2 r.limit r.offset)⟩ := rfl

theorem reply_listAgents (r : HttpRequest) :
    (Api.reply (listingServices order placeOrder pvcOrder s reg others) (handleListAgents r)) =
      ⟨200, .agents (reg.listAgents placeOrder pvcOrder r.agentFilter).1
        (paginationMeta (reg.listAgents placeOrder pvcOrder r.agentFilter).2 r.limit r.offset)⟩ := rfl

end

/-- Every list, under any filter, limit and offset: the total is the number of the
    matching rows exactly if the offset is not past them, and so is the total of the
    reply; of an in-memory repository it always is. -/
theorem totals_iff {c : Collation} (order : Arrangement newestFirst)
    (placeOrder : Arrangement (byPlace c)) (pvcOrder : UUID → Arrangement (@unordered PVCRow))
    (s : Store) (reg : Registry) (others : (call : ApiCall) → call.Ans) :
    (∀ filter : TransferFilter, (s.listTransfers order filter).2 = (s.matching filter).length ↔
      Within (s.matching filter) filter.offset) ∧
    (∀ filter : AgentFilter,
      (reg.listAgents placeOrder pvcOrder filter).2 = (reg.matching filter).length ↔
        Within (reg.matching filter) filter.offset) ∧
    (∀ r : HttpRequest, (Api.reply (listingServices order placeOrder pvcOrder s reg others)
      (handleListTransfers r)).total = some ((s.matching r.transferFilter).length : Int) ↔
        Within (s.matching r.transferFilter) r.offset) ∧
    (∀ r : HttpRequest, (Api.reply (listingServices order placeOrder pvcOrder s reg others)
      (handleListAgents r)).total = some ((reg.matching r.agentFilter).length : Int) ↔
        Within (reg.matching r.agentFilter) r.offset) ∧
    (∀ (order : Arrangement RawTransfer.newestFirst) (m : MemTransferRepo) (filter : TransferFilter),
      (m.listTransfers order filter).2 = (m.matching filter).length) ∧
    ∀ (order : Arrangement MemRepo.byPlaceOf) (m : MemRepo) (filter : AgentFilter),
      (m.listAgents order filter).2 = (m.matching filter).length := by
  have hcast : ∀ n k : Nat, (some (n : Int) = some (k : Int)) ↔ n = k := by
    intro n k
    rw [Option.some_inj, Int.natCast_inj]
  refine ⟨fun filter => ?_, fun filter => ?_, fun r => ?_, fun r => ?_, fun order m filter => ?_,
    fun order m filter => ?_⟩
  · exact listTransfers_total_iff order s filter
  · exact listAgents_total_iff placeOrder pvcOrder reg filter
  · rw [reply_listTransfers]
    exact (hcast _ _).trans (listTransfers_total_iff order s r.transferFilter)
  · rw [reply_listAgents]
    exact (hcast _ _).trans (listAgents_total_iff placeOrder pvcOrder reg r.agentFilter)
  -- the in-memory repositories count before they cut the page
  · exact (order.perm _).length_eq
  · exact (order.perm _).length_eq

/-- Two transfers are stored, and a page past them counts none. -/
theorem not_totals_pastEnd :
    ¬ ∀ (order : Arrangement newestFirst) (s : Store) (filter : TransferFilter),
      (s.listTransfers order filter).2 = (s.matching filter).length := by
  intro hall
  have htotal := hall (.stable preordering_newestFirst) (twoTransfers 0 1000) { offset := 2 }
  rw [listTransfers_total_iff, Within] at htotal
  revert htotal
  decide

end Katapult
