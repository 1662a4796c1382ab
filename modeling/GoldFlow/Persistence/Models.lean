import GoldFlow.Domain.Models

/-! # Records of the position journal -/

namespace GoldFlow

/-- The kinds of `trade_events`. -/
inductive TradeEventType where
  | executionTransition | tp1Hit | breakEven | trailingStop | closed | stoppedOut
  deriving DecidableEq, Repr

def TradeEventType.name : TradeEventType → String
  | .executionTransition => "EXECUTION_TRANSITION"
  | .tp1Hit => "TP1_HIT"
  | .breakEven => "BREAK_EVEN"
  | .trailingStop => "TRAILING_STOP"
  | .closed => "CLOSED"
  | .stoppedOut => "STOPPED_OUT"

/-- An open position as the journal hands it to the position manager. -/
structure ManagedPosition where
  positionId : Nat
  tradeId : Nat
  ticket : String
  direction : Direction
  state : TradeState
  initialVolume : Decimal
  currentVolume : Decimal
  openPrice : Decimal
  stopLoss : Decimal
  takeProfits : List Decimal
  slippage : Decimal
  seenEvents : List TradeEventType
  deriving DecidableEq

/-- What the position manager has done. -/
structure PositionAction where
  applied : Bool
  reason : String
  position : Option BrokerPosition := none
  report : Option ExecutionReport := none

/-- The management part of the risk configuration, with its defaults filled in. -/
structure ManagementValues where
  partialEnabled : Bool
  partialFraction : Decimal
  breakEvenEnabled : Bool
  breakEvenTrigger : Decimal
  trailingEnabled : Bool
  trailingMultiple : Decimal
  deriving DecidableEq

end GoldFlow
