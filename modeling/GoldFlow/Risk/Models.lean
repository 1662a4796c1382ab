import GoldFlow.Domain.Models

/-! # Risk configuration and decision records -/

namespace GoldFlow

structure RiskLimits where
  riskPerTrade : Decimal := 1 / 100
  maximumDailyLoss : Decimal := 3 / 100
  maximumWeeklyLoss : Decimal := 7 / 100
  maximumAccountDrawdown : Decimal := 10 / 100
  maximumOpenPositions : Nat := 1
  maximumGoldPositions : Nat := 1
  minimumRiskReward : Decimal := 18 / 10
  maximumSpread : Decimal := 50 / 100
  maximumTickAge : Duration := seconds 30
  fractions : ∀ value ∈ [riskPerTrade, maximumDailyLoss, maximumWeeklyLoss, maximumAccountDrawdown],
    0 < value ∧ value ≤ 1
  positions_pos : 0 < maximumOpenPositions ∧ 0 < maximumGoldPositions
  riskReward_pos : 0 < minimumRiskReward
  spread_nonneg : 0 ≤ maximumSpread
  tickAge_pos : 0 < maximumTickAge

/-- Loss amounts are positive cash usage, never signed P&L values. -/
structure RiskUsage where
  dailyRealizedLoss : Decimal := 0
  weeklyRealizedLoss : Decimal := 0
  openRisk : Decimal := 0
  peakEquity : Option Decimal := none
  daily_nonneg : 0 ≤ dailyRealizedLoss
  weekly_nonneg : 0 ≤ weeklyRealizedLoss
  open_nonneg : 0 ≤ openRisk
  peak_pos : ∀ peak, peakEquity = some peak → 0 < peak

/-- `RiskUsage(...)`: the constructor with the checks of `__post_init__`. -/
def RiskUsage.make (dailyRealizedLoss weeklyRealizedLoss openRisk : Decimal)
    (peakEquity : Option Decimal) : Except PyError RiskUsage :=
  if amounts : 0 ≤ dailyRealizedLoss ∧ 0 ≤ weeklyRealizedLoss ∧ 0 ≤ openRisk then
    if peak : ∀ peak, peakEquity = some peak → 0 < peak then
      .ok {
        dailyRealizedLoss, weeklyRealizedLoss, openRisk, peakEquity
        daily_nonneg := amounts.1
        weekly_nonneg := amounts.2.1
        open_nonneg := amounts.2.2
        peak_pos := peak }
    else .error (.value "peak equity must be positive")
  else .error (.value "risk usage amounts cannot be negative")

def accountDrawdown (peak equity : Decimal) : Decimal := max 0 ((peak - equity) / peak)

structure PositionSizingResult where
  volume : Decimal
  cashRisk : Decimal
  riskFraction : Decimal
  allowedCashRisk : Decimal
  lossAtOneLot : Decimal
  deriving DecidableEq, Repr

structure PreTradeSnapshot where
  now : Instant
  account : AccountSnapshot
  symbol : SymbolSpecification
  tick : Tick
  health : BrokerHealth
  marketOpen : Bool
  sessionAllowed : Bool
  equivalentSymbols : List String
  positions : List BrokerPosition
  orders : List BrokerOrder
  usage : RiskUsage
  requiredMargin : Decimal
  killSwitch : Bool
  circuitLocked : Bool

structure RiskDecision where
  accepted : Bool
  reasons : List String
  riskAmount : Decimal
  riskFraction : Decimal
  riskReward : Option Decimal
  requiredMargin : Decimal
  deriving DecidableEq, Repr

structure DemoPerformance where
  strategyVersion : String
  totalTrades : Nat
  maximumDrawdown : Decimal
  profitFactor : Decimal
  version_nonblank : isBlank strategyVersion = false
  drawdown_fraction : 0 ≤ maximumDrawdown ∧ maximumDrawdown ≤ 1
  factor_nonneg : 0 ≤ profitFactor

/-- `day` and `weekStart` are days since 1970-01-01. -/
structure CircuitState where
  accountId : String
  day : Int
  weekStart : Int
  dailyLocked : Bool := false
  weeklyLocked : Bool := false
  accountLocked : Bool := false
  killSwitch : Bool := false
  manualReenableRequired : Bool := false
  reason : String := ""
  version : Nat := 0
  updatedAt : Instant
  deriving DecidableEq, Repr

def CircuitState.blocksNewTrades (state : CircuitState) : Bool :=
  state.dailyLocked || state.weeklyLocked || state.accountLocked || state.killSwitch ||
    state.manualReenableRequired

end GoldFlow
