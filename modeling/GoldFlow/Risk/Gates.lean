import GoldFlow.Risk.Permission
import Mathlib.Algebra.Order.AbsoluteValue.Basic
import Mathlib.Algebra.Order.Group.Abs
import Mathlib.Tactic.Linarith

/-! # The fail-closed pre-trade pipeline -/

namespace GoldFlow

/-- `value or fallback`: `None` and zero select the fallback. -/
def decimalOr (value : Option Decimal) (fallback : Decimal) : Decimal :=
  match value with
  | some value => if value = 0 then fallback else value
  | none => fallback

/-- The side of the quote a direction trades at. -/
def Tick.quote (tick : Tick) : Direction → Decimal
  | .long => tick.ask
  | .short => tick.bid

namespace RiskGateValidator

/-- The price the gates judge the request at. -/
def price (request : OrderRequest) (snapshot : PreTradeSnapshot) : Decimal :=
  decimalOr request.requestedPrice (snapshot.tick.quote request.direction)

def stopDistance (request : OrderRequest) (snapshot : PreTradeSnapshot) : Decimal :=
  |price request snapshot - request.stopLoss|

/-- Smallest reward over the stop distance; `None` when the stop is at the price. -/
def riskReward (request : OrderRequest) (snapshot : PreTradeSnapshot) : Option Decimal :=
  let distance := stopDistance request snapshot
  if 0 < distance then
    (request.takeProfits.map fun target => |target - price request snapshot|).min?.map (· / distance)
  else none

/-- Symbols whose positions and orders count as exposure to the traded one. -/
def exposureSymbols (snapshot : PreTradeSnapshot) : List String :=
  snapshot.symbol.name :: snapshot.equivalentSymbols

/-- `TICK_FROM_FUTURE`, or else `STALE_TICK`. -/
def tickAgeReasons (limits : RiskLimits) (age : Duration) : List String :=
  if age < -seconds 1 then ["TICK_FROM_FUTURE"]
  else reasonIf (limits.maximumTickAge < age) "STALE_TICK"

def marketReasons (limits : RiskLimits) (request : OrderRequest) (snapshot : PreTradeSnapshot) :
    List String :=
  reasonIf snapshot.killSwitch "KILL_SWITCH_ACTIVE" ++
  reasonIf snapshot.circuitLocked "CIRCUIT_BREAKER_LOCKED" ++
  reasonIf (!snapshot.health.healthy || !snapshot.health.connected) "BROKER_UNHEALTHY" ++
  reasonIf (!snapshot.health.tradingAllowed) "BROKER_TRADING_DISABLED" ++
  reasonIf (!snapshot.marketOpen) "MARKET_CLOSED" ++
  reasonIf (!snapshot.sessionAllowed) "TRADING_SESSION_NOT_ALLOWED" ++
  reasonIf (!snapshot.symbol.tradeEnabled) "SYMBOL_TRADING_DISABLED" ++
  reasonIf (snapshot.tick.symbol != snapshot.symbol.name || request.symbol != snapshot.symbol.name)
    "SYMBOL_MISMATCH" ++
  tickAgeReasons limits (snapshot.now - snapshot.tick.timestamp) ++
  reasonIf (limits.maximumSpread < snapshot.tick.spread) "TRADE_SKIPPED_HIGH_SPREAD"

def entryReasons (request : OrderRequest) (snapshot : PreTradeSnapshot) : List String :=
  let price := price request snapshot
  reasonIf (request.expiresAt.any (snapshot.now ≥ ·)) "SIGNAL_EXPIRED" ++
  reasonIf (request.entryMin.any (price < ·)) "PRICE_OUTSIDE_ENTRY_ZONE" ++
  reasonIf (request.entryMax.any (price > ·)) "PRICE_OUTSIDE_ENTRY_ZONE" ++
  reasonIf (request.maximumSlippage < 0) "INVALID_SLIPPAGE_TOLERANCE"

def protectionReasons (limits : RiskLimits) (request : OrderRequest)
    (snapshot : PreTradeSnapshot) : List String :=
  let price := price request snapshot
  let distance := stopDistance request snapshot
  reasonIf (distance ≤ 0 || distance < snapshot.symbol.point * snapshot.symbol.stopsLevelPoints)
    "INVALID_STOP_DISTANCE" ++
  (match request.direction with
    | .long =>
      reasonIf (request.stopLoss ≥ price) "LONG_STOP_NOT_BELOW_ENTRY" ++
      reasonIf (request.takeProfits.any (· ≤ price)) "LONG_TAKE_PROFIT_NOT_ABOVE_ENTRY"
    | .short =>
      reasonIf (request.stopLoss ≤ price) "SHORT_STOP_NOT_ABOVE_ENTRY" ++
      reasonIf (request.takeProfits.any (· ≥ price)) "SHORT_TAKE_PROFIT_NOT_BELOW_ENTRY") ++
  reasonIf ((riskReward request snapshot).any (· < limits.minimumRiskReward))
    "RISK_REWARD_BELOW_MINIMUM"

def exposureReasons (limits : RiskLimits) (request : OrderRequest) (sizing : PositionSizingResult)
    (snapshot : PreTradeSnapshot) : List String :=
  let account := snapshot.account
  let symbols := exposureSymbols snapshot
  reasonIf (account.equity ≤ 0 || account.freeMargin ≤ 0) "ACCOUNT_EQUITY_OR_MARGIN_INVALID" ++
  reasonIf (snapshot.requiredMargin ≤ 0 || account.freeMargin < snapshot.requiredMargin)
    "INSUFFICIENT_OR_INVALID_MARGIN" ++
  reasonIf (request.volume != sizing.volume) "ORDER_VOLUME_DIFFERS_FROM_RISK_SIZE" ++
  reasonIf (sizing.allowedCashRisk < sizing.cashRisk) "TRADE_RISK_EXCEEDS_LIMIT" ++
  reasonIf (limits.maximumOpenPositions ≤ snapshot.positions.length)
    "MAXIMUM_OPEN_POSITIONS_REACHED" ++
  reasonIf (limits.maximumGoldPositions ≤ snapshot.positions.countP (·.symbol ∈ symbols))
    "MAXIMUM_GOLD_POSITIONS_REACHED" ++
  reasonIf (snapshot.positions.any (·.symbol ∈ symbols)) "DUPLICATE_POSITION" ++
  reasonIf (snapshot.orders.any fun order =>
      order.symbol ∈ symbols || order.idempotencyKey == request.idempotencyKey)
    "DUPLICATE_PENDING_ORDER"

def lossReasons (limits : RiskLimits) (sizing : PositionSizingResult)
    (snapshot : PreTradeSnapshot) : List String :=
  let equity := snapshot.account.equity
  let usage := snapshot.usage
  reasonIf (equity * limits.maximumDailyLoss ≤
    usage.dailyRealizedLoss + usage.openRisk + sizing.cashRisk) "DAILY_LOSS_LIMIT_REACHED" ++
  reasonIf (equity * limits.maximumWeeklyLoss ≤
    usage.weeklyRealizedLoss + usage.openRisk + sizing.cashRisk) "WEEKLY_LOSS_LIMIT_REACHED" ++
  reasonIf (usage.peakEquity.any fun peak => limits.maximumAccountDrawdown ≤ accountDrawdown peak equity)
    "ACCOUNT_DRAWDOWN_LIMIT_REACHED"

def validate (limits : RiskLimits) (request : OrderRequest) (sizing : PositionSizingResult)
    (snapshot : PreTradeSnapshot) : RiskDecision :=
  let reasons := uniqueReasons
    (marketReasons limits request snapshot ++ entryReasons request snapshot ++
      protectionReasons limits request snapshot ++ exposureReasons limits request sizing snapshot ++
      lossReasons limits sizing snapshot)
  { accepted := reasons.isEmpty
    reasons
    riskAmount := sizing.cashRisk
    riskFraction := sizing.riskFraction
    riskReward := riskReward request snapshot
    requiredMargin := snapshot.requiredMargin }

end RiskGateValidator

open RiskGateValidator

/-! ## What an accepted decision means -/

def ProtectedSides (direction : Direction) (price stopLoss : Decimal) (takeProfits : List Decimal) :
    Prop :=
  match direction with
  | .long => stopLoss < price ∧ ∀ target ∈ takeProfits, price < target
  | .short => price < stopLoss ∧ ∀ target ∈ takeProfits, target < price

structure GatesPassed (limits : RiskLimits) (request : OrderRequest)
    (sizing : PositionSizingResult) (snapshot : PreTradeSnapshot) : Prop where
  unlocked : snapshot.killSwitch = false ∧ snapshot.circuitLocked = false
  health : snapshot.health.healthy = true ∧ snapshot.health.connected = true ∧
    snapshot.health.tradingAllowed = true
  market : snapshot.marketOpen = true ∧ snapshot.sessionAllowed = true ∧
    snapshot.symbol.tradeEnabled = true
  symbol : snapshot.tick.symbol = snapshot.symbol.name ∧ request.symbol = snapshot.symbol.name
  fresh : -seconds 1 ≤ snapshot.now - snapshot.tick.timestamp ∧
    snapshot.now - snapshot.tick.timestamp ≤ limits.maximumTickAge
  spread : snapshot.tick.spread ≤ limits.maximumSpread
  unexpired : ∀ expiry, request.expiresAt = some expiry → snapshot.now < expiry
  aboveZone : ∀ low, request.entryMin = some low → low ≤ price request snapshot
  belowZone : ∀ high, request.entryMax = some high → price request snapshot ≤ high
  slippage : 0 ≤ request.maximumSlippage
  stopDistance : 0 < stopDistance request snapshot ∧
    snapshot.symbol.point * snapshot.symbol.stopsLevelPoints ≤ stopDistance request snapshot
  sides : ProtectedSides request.direction (price request snapshot) request.stopLoss
    request.takeProfits
  riskReward : ∀ target ∈ request.takeProfits,
    limits.minimumRiskReward ≤
      |target - price request snapshot| / RiskGateValidator.stopDistance request snapshot
  funded : 0 < snapshot.account.equity ∧ 0 < snapshot.account.freeMargin
  margin : 0 < snapshot.requiredMargin ∧ snapshot.requiredMargin ≤ snapshot.account.freeMargin
  volume : request.volume = sizing.volume
  cashRisk : sizing.cashRisk ≤ sizing.allowedCashRisk
  openPositions : snapshot.positions.length < limits.maximumOpenPositions
  noPosition : ∀ position ∈ snapshot.positions, position.symbol ∉ exposureSymbols snapshot
  noOrder : ∀ order ∈ snapshot.orders, order.symbol ∉ exposureSymbols snapshot ∧
    order.idempotencyKey ≠ request.idempotencyKey
  dailyLoss : snapshot.usage.dailyRealizedLoss + snapshot.usage.openRisk + sizing.cashRisk <
    snapshot.account.equity * limits.maximumDailyLoss
  weeklyLoss : snapshot.usage.weeklyRealizedLoss + snapshot.usage.openRisk + sizing.cashRisk <
    snapshot.account.equity * limits.maximumWeeklyLoss
  drawdown : ∀ peak, snapshot.usage.peakEquity = some peak →
    accountDrawdown peak snapshot.account.equity < limits.maximumAccountDrawdown

variable {limits : RiskLimits}

theorem tickAgeReasons_eq_nil {age : Duration} :
    tickAgeReasons limits age = [] ↔ -seconds 1 ≤ age ∧ age ≤ limits.maximumTickAge := by
  unfold tickAgeReasons
  split
  next early => simp [not_le.mpr early]
  next late => simp [not_lt.mp late]

variable {request : OrderRequest} {snapshot : PreTradeSnapshot}

theorem riskReward_of_not_below (positive : 0 < RiskGateValidator.stopDistance request snapshot)
    (enough : (RiskGateValidator.riskReward request snapshot).any (· < limits.minimumRiskReward) = false) :
    ∀ target ∈ request.takeProfits,
      limits.minimumRiskReward ≤
        |target - price request snapshot| / RiskGateValidator.stopDistance request snapshot := by
  intro target member
  simp only [RiskGateValidator.riskReward, if_pos positive] at enough
  cases smallest : (request.takeProfits.map fun target => |target - price request snapshot|).min? with
  | none =>
    rw [List.min?_eq_none_iff, List.map_eq_nil_iff] at smallest
    exact absurd smallest request.takeProfits_nonempty
  | some reward =>
    simp only [smallest, Option.map_some, Option.any_some, decide_eq_false_iff_not, not_lt] at enough
    have least : reward ≤ |target - price request snapshot| :=
      (List.min?_eq_some_iff.mp smallest).2 _ (List.mem_map_of_mem member)
    exact enough.trans (div_le_div_of_nonneg_right least positive.le)

theorem gatesPassed_of_accepted {sizing : PositionSizingResult}
    (accepted : (validate limits request sizing snapshot).accepted = true) :
    GatesPassed limits request sizing snapshot := by
  simp only [validate, List.isEmpty_iff, uniqueReasons_eq_nil, List.append_eq_nil_iff] at accepted
  obtain ⟨⟨⟨⟨market, entry⟩, protection⟩, exposure⟩, loss⟩ := accepted
  simp only [marketReasons, List.append_eq_nil_iff, reasonIf_eq_nil, tickAgeReasons_eq_nil,
    Bool.or_eq_false_iff, Bool.not_eq_eq_eq_not, bne_eq_false_iff_eq,
    decide_eq_false_iff_not, not_lt] at market
  obtain ⟨⟨⟨⟨⟨⟨⟨⟨⟨killSwitch, circuit⟩, connected⟩, trading⟩, opened⟩, session⟩, enabled⟩, names⟩,
    fresh⟩, spread⟩ := market
  simp only [entryReasons, List.append_eq_nil_iff, reasonIf_eq_nil, Option.any_eq_false,
    decide_eq_false_iff_not, not_lt, not_le] at entry
  obtain ⟨⟨⟨unexpired, above⟩, below⟩, slippage⟩ := entry
  simp only [protectionReasons, List.append_eq_nil_iff, reasonIf_eq_nil, Bool.or_eq_false_iff,
    decide_eq_false_iff_not, not_lt, not_le] at protection
  obtain ⟨⟨distance, sides⟩, reward⟩ := protection
  simp only [exposureReasons, List.append_eq_nil_iff, reasonIf_eq_nil, Bool.or_eq_false_iff,
    decide_eq_false_iff_not, not_lt, not_le, bne_eq_false_iff_eq, List.any_eq_false,
    decide_eq_true_eq, beq_iff_eq, Bool.or_eq_true, not_or] at exposure
  obtain ⟨⟨⟨⟨⟨⟨⟨funded, margin⟩, volume⟩, cash⟩, openCount⟩, _⟩, positions⟩, orders⟩ := exposure
  simp only [lossReasons, List.append_eq_nil_iff, reasonIf_eq_nil, decide_eq_false_iff_not, not_le,
    Option.any_eq_false] at loss
  obtain ⟨⟨daily, weekly⟩, drawdown⟩ := loss
  have protectedSides : ProtectedSides request.direction (price request snapshot) request.stopLoss
      request.takeProfits := by
    cases direction : request.direction with
    | long =>
      simp only [direction, List.append_eq_nil_iff, reasonIf_eq_nil,
        decide_eq_false_iff_not, not_le, List.any_eq_false, decide_eq_true_eq] at sides
      exact sides
    | short =>
      simp only [direction, List.append_eq_nil_iff, reasonIf_eq_nil,
        decide_eq_false_iff_not, not_le, List.any_eq_false, decide_eq_true_eq] at sides
      exact sides
  exact {
    unlocked := ⟨killSwitch, circuit⟩
    health := ⟨connected.1, connected.2, trading⟩
    market := ⟨opened, session, enabled⟩
    symbol := names
    fresh := fresh
    spread := spread
    unexpired := unexpired
    aboveZone := above
    belowZone := below
    slippage := slippage
    stopDistance := distance
    sides := protectedSides
    riskReward := riskReward_of_not_below distance.1 reward
    funded := funded
    margin := margin
    volume := volume
    cashRisk := cash
    openPositions := openCount
    noPosition := positions
    noOrder := orders
    dailyLoss := daily
    weeklyLoss := weekly
    drawdown := drawdown }

end GoldFlow
