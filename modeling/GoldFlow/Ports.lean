import GoldFlow.Control.Runtime
import GoldFlow.Effect.Semantics
import GoldFlow.Execution.Idempotency
import GoldFlow.Persistence.Tables
import GoldFlow.Recovery.Models

/-! # Ports -/

namespace GoldFlow

open Effect

/-- `averageTrueRange` is the 14-period ATR of the last closed M5 candles, if there are enough. -/
inductive BrokerOp where
  | healthCheck
  | getAccount
  | getSymbols
  | resolveSymbol (canonicalSymbol : String)
  | getTick (symbol : String)
  | getPositions (symbol : Option String)
  | getOrders (symbol : Option String)
  | isMarketOpen (symbol : String)
  | averageTrueRange (symbol : String)
  | calculateMargin (request : OrderRequest) (price : Decimal)
  | calculateProfit (symbol : String) (direction : Direction) (volume openPrice closePrice : Decimal)
  | validateOrder (request : OrderRequest)
  | placeMarketOrder (request : OrderRequest)
  | placePendingOrder (request : OrderRequest)
  | modifyPosition (ticket : String) (stopLoss : Decimal) (takeProfit : Option Decimal)
  | closePosition (ticket : String) (volume : Option Decimal)
  | cancelOrder (ticket : String)

abbrev BrokerOp.Value : BrokerOp → Type
  | .healthCheck => BrokerHealth
  | .getAccount => AccountSnapshot
  | .getSymbols => List SymbolSpecification
  | .resolveSymbol _ => SymbolSpecification
  | .getTick _ => Tick
  | .getPositions _ => List BrokerPosition
  | .getOrders _ => List BrokerOrder
  | .isMarketOpen _ => Bool
  | .averageTrueRange _ => Option Decimal
  | .calculateMargin _ _ => Decimal
  | .calculateProfit _ _ _ _ _ => Decimal
  | .validateOrder _ => OrderCheckResult
  | .placeMarketOrder _ => ExecutionReport
  | .placePendingOrder _ => ExecutionReport
  | .modifyPosition _ _ _ => Bool
  | .closePosition _ _ => ExecutionReport
  | .cancelOrder _ => Bool

/-- The critical sections of `InMemoryIdempotencyStore`. -/
inductive RecordOp where
  | claim (request : OrderRequest) (now : Instant)
  | get (key : String)
  | update (key : String) (status : IdempotencyStatus) (now : Instant)
      (report : Option ExecutionReport) (reason : String)

abbrev RecordOp.Value : RecordOp → Type
  | .claim _ _ => ExecutionRecord × Bool
  | .get _ => Option ExecutionRecord
  | .update _ _ _ _ _ => ExecutionRecord

/-- The statements of `SqlAlchemyIdempotencyStore` on `execution_attempts`. -/
inductive AttemptOp where
  | select (key : String)
  | resolveOrderId (request : OrderRequest)
  | insertClaim (orderId : String) (request : OrderRequest) (now : Instant)
  | update (key : String) (status : IdempotencyStatus) (now : Instant)
      (report : Option ExecutionReport) (reason : String)

abbrev AttemptOp.Value : AttemptOp → Type
  | .select _ => Option ExecutionAttempt
  | .resolveOrderId _ => String
  | .insertClaim _ _ _ => Unit
  | .update _ _ _ _ _ => ExecutionAttempt

inductive CircuitOp where
  | load (accountId : String)
  | save (state : CircuitState) (expectedVersion : Nat)

abbrev CircuitOp.Value : CircuitOp → Type
  | .load _ => Option CircuitState
  | .save _ _ => CircuitState

/-- The `runtime_controls` row of `config_versions`, each operation one transaction. -/
inductive ConfigOp where
  | activeConfig
  | activateConfig (payload : RuntimePayload)

abbrev ConfigOp.Value : ConfigOp → Type
  | .activeConfig => Option RuntimePayload
  | .activateConfig _ => Unit

/-- The critical sections of the API process's `RuntimeControls`. -/
inductive ControlOp where
  | snapshot
  | durableState
  | setMode (mode : TradingMode) (now : Instant)
  | setKillSwitch (enabled : Bool) (reason : String) (now : Instant)
  | resetDrawdownProtection (now : Instant)

abbrev ControlOp.Value (_ : ControlOp) : Type := ControlSnapshot

/-- What the jobs ask of `WorkerPersistence` and Redis, and the positions endpoint of its session. -/
inductive JournalOp where
  | drainExecutionHints
  | expireSignals (now : Instant)
  | riskLimits
  | riskUsage (now : Instant)
  | executionCandidates (mode : TradingMode) (now : Instant)
  | demoPerformance (strategyVersion : String)
  | recordExecution (signal : TradeSignal) (outcome : ExecutionOutcome) (now : Instant)
  | demoValidationEvidence
  | unknownKeys
  | signalById (signalId : UUID)
  | recordReconciliation (report : ReconciliationReport) (now : Instant)
  | openPositionPlans
  | managementValues
  | recordPositionAction (plan : ManagedPosition) (action : PositionAction) (eventType : TradeEventType)
      (state : Option TradeState) (position : Option BrokerPosition) (now : Instant) (suffix : String)
  | position (id : Nat)
  | markClosed (id : Nat)
  | setVolume (id : Nat) (volume : Decimal)
  | audit (action : String)
  | publish (event : String)

abbrev JournalOp.Value : JournalOp → Type
  | .drainExecutionHints => Unit
  | .expireSignals _ => Nat
  | .riskLimits => RiskLimits
  | .riskUsage _ => RiskUsage
  | .executionCandidates _ _ => List TradeSignal
  | .demoPerformance _ => Option DemoPerformance
  | .recordExecution _ _ _ => Unit
  | .demoValidationEvidence => Bool
  | .unknownKeys => List String
  | .signalById _ => Option TradeSignal
  | .recordReconciliation _ _ => Unit
  | .openPositionPlans => List ManagedPosition
  | .managementValues => ManagementValues
  | .recordPositionAction _ _ _ _ _ _ _ => Unit
  | .position _ => Option PositionRow
  | .markClosed _ => Unit
  | .setVolume _ _ => Unit
  | .audit _ => Unit
  | .publish _ => Unit

/-- The methods of a `RecoveryLedger`. -/
inductive LedgerOp where
  | positions
  | orders
  | upsertPosition (record : LedgerPosition)
  | upsertOrder (record : LedgerOrder)

abbrev LedgerOp.Value : LedgerOp → Type
  | .positions => List LedgerPosition
  | .orders => List LedgerOrder
  | .upsertPosition _ => Unit
  | .upsertOrder _ => Unit

inductive Op where
  | broker (op : BrokerOp)
  | records (op : RecordOp)
  | attempts (op : AttemptOp)
  | circuit (op : CircuitOp)
  | config (op : ConfigOp)
  | controls (op : ControlOp)
  | journal (op : JournalOp)
  | ledger (op : LedgerOp)
  | clock
  | sleep (seconds : Decimal)

abbrev Op.Value : Op → Type
  | .broker op => op.Value
  | .records op => op.Value
  | .attempts op => op.Value
  | .circuit op => op.Value
  | .config op => op.Value
  | .controls op => op.Value
  | .journal op => op.Value
  | .ledger op => op.Value
  | .clock => Instant
  | .sleep _ => Unit

abbrev Port : Signature := { Op := Op, Value := Op.Value }

/-- Application code that returns an `α` or raises. -/
abbrev Py (α : Type) := Program Port PyError α

/-- Code with early returns: `throw` is `return` from the enclosing function. -/
abbrev PyReturning (ω α : Type) := ExceptT ω (Program Port PyError) α

abbrev PortEvent := Event Port PyError

def askBroker (op : BrokerOp) : Py op.Value := Program.perform (S := Port) (.broker op)
def askRecords (op : RecordOp) : Py op.Value := Program.perform (S := Port) (.records op)
def askAttempts (op : AttemptOp) : Py op.Value := Program.perform (S := Port) (.attempts op)
def askCircuit (op : CircuitOp) : Py op.Value := Program.perform (S := Port) (.circuit op)
def askConfig (op : ConfigOp) : Py op.Value := Program.perform (S := Port) (.config op)
def askControls (op : ControlOp) : Py op.Value := Program.perform (S := Port) (.controls op)
def askJournal (op : JournalOp) : Py op.Value := Program.perform (S := Port) (.journal op)
def askLedger (op : LedgerOp) : Py op.Value := Program.perform (S := Port) (.ledger op)
def clock : Py Instant := Program.perform (S := Port) .clock
def sleep (seconds : Decimal) : Py Unit := Program.perform (S := Port) (.sleep seconds)

end GoldFlow
