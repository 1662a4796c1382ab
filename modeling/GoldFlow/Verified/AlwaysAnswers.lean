import GoldFlow.Effect.Interrupts
import GoldFlow.Verified.Orphans

/-! # Which executions answer -/

namespace GoldFlow

open Effect TradeExecutor SqlAlchemyIdempotencyStore

/-! ## Dependable stores and the calls that may time out -/

/-- The calls whose `TimeoutError` the executor handles: the sends and the close. -/
def BrokerOp.mayTimeOut : BrokerOp → Bool
  | .placeMarketOrder _ | .placePendingOrder _ | .closePosition _ _ => true
  | _ => false

def slow : PortEvent → Bool
  | ⟨.broker op, .error (.timeout _)⟩ => !op.mayTimeOut
  | _ => false

variable {op : BrokerOp}

namespace Demo

end Demo

section Reads

variable {α β : Type} {state : World} {wanted : α → Prop} {concluded : β → Prop} {catches : PyError → Bool}

end Reads

/-! ## The assessment -/

section Assessment

variable {executor : TradeExecutor} {command : ExecutionCommand} {state : World}

end Assessment

/-! ## The record of the call -/

variable {state : World}

/-- Since `start`, the call has changed its own record only, to `status`. -/
structure Recorded (kind : StoreKind) (start : World) (key : String) (status : IdempotencyStatus)
    (state : World) : Prop where
  readable : RowsReadable state
  entries : ∃ data, state.entries kind =
    Function.update (start.entries kind) key (some { data, status })

section Record

variable {kind : StoreKind} {start state after : World} {key : String} {event : PortEvent}
  {current status : IdempotencyStatus}

theorem Recorded.present (recorded : Recorded kind start key current state) :
    ∃ data, state.entries kind key = some { data, status := current } := by
  obtain ⟨data, entries⟩ := recorded.entries
  exact ⟨data, by simp [entries]⟩

end Record

section Submission

variable {executor : TradeExecutor} {start state : World} {key : String}
  {current status : IdempotencyStatus} {β : Type} {recover : PyError → β}

theorem Recorded.record (recorded : Recorded .inMemory start key current state) :
    ∃ record, state.records key = some record ∧ record.status = current := by
  obtain ⟨data, present⟩ := recorded.present
  obtain ⟨record, found, entry⟩ := Option.map_eq_some_iff.mp present
  exact ⟨record, found, congrArg Ledger.Entry.status entry⟩

theorem Recorded.attempt (recorded : Recorded .sqlAlchemy start key current state) :
    ∃ attempt, state.attempts key = some attempt ∧ attempt.status = current := by
  obtain ⟨data, present⟩ := recorded.present
  obtain ⟨attempt, found, entry⟩ := Option.map_eq_some_iff.mp present
  exact ⟨attempt, found, congrArg Ledger.Entry.status entry⟩

variable {approved : Approved} (transitions : List StateTransition)

section

variable (recorded : Recorded executor.kind start approved.request.idempotencyKey .submitted state)
include recorded

end

end Submission

namespace Demo

end Demo

open Demo

end GoldFlow
