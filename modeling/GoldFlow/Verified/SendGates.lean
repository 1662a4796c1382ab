import GoldFlow.Deployment
import GoldFlow.Verified.Submission

/-! # Nothing is sent before every gate -/

namespace GoldFlow

open Effect TradeExecutor

section Derived

variable {executor : TradeExecutor} {command : ExecutionCommand} {history : List PortEvent}
  {request : OrderRequest} {clearance : Clearance}

variable (granted : clearance.Granted executor command history request)
include granted

theorem Clearance.Granted.built_values :
    request.symbol = clearance.sized.spec.name ∧ request.direction = clearance.direction ∧
      request.volume = clearance.sized.sizing.volume ∧ request.stopLoss = clearance.stopLoss ∧
      request.requestedPrice = some clearance.sized.price := by
  obtain ⟨_, symbol, direction, _, volume, stopLoss, _, _, requestedPrice, _⟩ :=
    OrderRequest.make_eq_ok granted.built
  exact ⟨symbol, direction, volume, stopLoss, requestedPrice⟩

end Derived

section Record

variable {α : Type} {kind : StoreKind} {program residual : Py α} {state final : World}
  {history : List PortEvent} {key : String}

variable (steps : Steps world state program history final residual) {fill : Fill}
include steps

theorem Steps.entry_persists {entry : StoreEntry} (present : state.entries kind key = some entry) :
    ∃ status, final.entries kind key = some { entry with status } := by
  induction steps generalizing entry with
  | refl => exact ⟨entry.status, present⟩
  | call step _ ih =>
    obtain same | ⟨status, _, _, moved⟩ := (world_refines_ledger kind step).entry_persists present
    · exact ih same
    · obtain ⟨last, stored⟩ := ih moved
      exact ⟨last, stored⟩

end Record

/-- `execute` is about to place `request`. -/
def Sends (op : Op) (request : OrderRequest) : Prop :=
  op = .broker (.placeMarketOrder request) ∨ op = .broker (.placePendingOrder request)

end GoldFlow
