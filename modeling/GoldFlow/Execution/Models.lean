import GoldFlow.Domain.StateMachine
import GoldFlow.Risk.Models

/-! # Execution commands, outcomes and records -/

namespace GoldFlow

inductive ExecutionStatus where
  | signalOnly | blocked | checkRejected | unknown | filled | pending | rejected
  | protectionFailed
  deriving DecidableEq, Repr

structure ExecutionCommand where
  signal : TradeSignal
  mode : TradingMode
  environment : TradingEnvironment
  orderType : OrderType := .market
  requestedPrice : Option Decimal := none
  maximumSlippage : Decimal := 30 / 100
  approved : Bool := false
  liveTradingEnabled : Bool := false
  configuredLiveConfirmation : Option String := none
  requiredLiveConfirmation : Option String := none
  demoPerformance : Option DemoPerformance := none
  sessionAllowed : Bool := false
  riskUsage : RiskUsage

structure ExecutionOutcome where
  status : ExecutionStatus
  reasons : List String := []
  request : Option OrderRequest := none
  report : Option ExecutionReport := none
  risk : Option RiskDecision := none
  transitions : List StateTransition := []
  requiresReconciliation : Bool := false

/-- What an idempotency store keeps under a key. -/
structure ExecutionRecord where
  idempotencyKey : String
  request : OrderRequest
  status : IdempotencyStatus
  report : Option ExecutionReport := none
  reason : String := ""
  version : Nat := 1
  createdAt : Instant
  updatedAt : Instant

end GoldFlow
