import GoldFlow.Market.Candles

/-! # The records of a backtest

Prices, volumes and money are exact rationals.
-/

namespace GoldFlow

structure BacktestConfig where
  initialBalance : Decimal := 10000
  riskFraction : Decimal := 1 / 100
  valuePerPriceUnitPerLot : Decimal := 100
  commissionPerLotPerSide : Decimal := 0
  fixedSpread : Decimal := 0
  slippage : Decimal := 0
  minimumVolume : Decimal := 1 / 1000
  maximumVolume : Decimal := 100
  volumeStep : Decimal := 1 / 1000
  historyWindowBars : Nat := 250
  closeOpenPositionAtEnd : Bool := true
  initialBalance_pos : 0 < initialBalance := by norm_num
  riskFraction_range : 0 < riskFraction ∧ riskFraction ≤ 1 := by norm_num
  value_pos : 0 < valuePerPriceUnitPerLot := by norm_num
  volume_limits : 0 < minimumVolume ∧ minimumVolume ≤ maximumVolume ∧ 0 < volumeStep := by norm_num
  window_pos : 0 < historyWindowBars := by norm_num
  costs_nonneg : 0 ≤ commissionPerLotPerSide ∧ 0 ≤ fixedSpread ∧ 0 ≤ slippage := by norm_num

inductive ExitReason where
  | stopLoss | takeProfit | strategyExit | endOfData
  deriving DecidableEq, Repr

structure BacktestTrade where
  signalId : UUID
  direction : Direction
  signalTime : Instant
  openedAt : Instant
  closedAt : Instant
  requestedEntry : Decimal
  entryPrice : Decimal
  exitPrice : Decimal
  stopLoss : Decimal
  takeProfit : Decimal
  volume : Decimal
  plannedRisk : Decimal
  grossPnl : Decimal
  costs : Decimal
  netPnl : Decimal
  rMultiple : Decimal
  exitReason : ExitReason
  deriving DecidableEq

structure EquityPoint where
  timestamp : Instant
  equity : Decimal
  deriving DecidableEq

structure BacktestResult where
  strategyId : String
  strategyVersion : String
  startedAt : Instant
  endedAt : Instant
  initialBalance : Decimal
  finalBalance : Decimal
  trades : List BacktestTrade
  equityCurve : List EquityPoint
  signalsGenerated : Nat
  signalsExpired : Nat
  deriving DecidableEq

end GoldFlow
