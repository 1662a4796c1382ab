import GoldFlow.Persistence.RecoveryLedger
import GoldFlow.Persistence.Signals

/-! # The writers of one account -/

namespace GoldFlow

/-- The recovery ledger and the journal of one broker account. -/
structure DurableBooks where
  ledger : SQLAlchemyRecoveryLedger
  persistence : WorkerPersistence
  sameAccount : persistence.brokerAccountId = ledger.brokerAccountId

/-- A transaction on the tables of positions, trades and orders. -/
inductive JournalWrite where
  | saveSignal (signal : TradeSignal) (confidenceScore : Int) (mode : TradingMode)
  | resolveOrderId (request : OrderRequest)
  | upsertPosition (record : LedgerPosition)
  | upsertOrder (record : LedgerOrder)
  | recordExecution (signal : TradeSignal) (outcome : ExecutionOutcome) (environment : String) (now : Instant)
  | recordPositionAction (plan : ManagedPosition) (action : PositionAction) (eventType : TradeEventType)
      (state : Option TradeState) (position : Option BrokerPosition) (now : Instant) (suffix : String)
  | markClosed (id : Nat)
  | setVolume (id : Nat) (volume : Decimal) (remains : 0 < volume)

namespace DurableBooks

variable (books : DurableBooks)

def write : JournalWrite → Database → Except PyError Database
  | .saveSignal signal confidenceScore mode, database =>
    .ok (WorkerPersistence.saveSignal signal confidenceScore mode database).2
  | .resolveOrderId request, database => (books.persistence.resolveOrderId request database).map Prod.snd
  | .upsertPosition record, database => books.ledger.upsertPosition record database
  | .upsertOrder record, database => books.ledger.upsertOrder record database
  | .recordExecution signal outcome environment now, database =>
    books.persistence.recordExecution signal outcome environment now database
  | .recordPositionAction plan action eventType state position now suffix, database =>
    books.persistence.recordPositionAction plan action eventType state position now suffix database
  | .markClosed id, database => PositionRepository.markClosed id database
  | .setVolume id volume _, database => PositionRepository.setVolume id volume database

/-- A transaction commits, at any time. -/
def Writes (before : Database) (write : JournalWrite) (after : Database) : Prop :=
  ∃ now, books.write write { before with now } = .ok after

end DurableBooks

end GoldFlow
