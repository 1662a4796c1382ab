import GoldFlow.Market.Structure
import GoldFlow.Strategies.Indicators
import Mathlib.Tactic.NormNum

/-! # The gold strategy -/

namespace GoldFlow

open Indicators MarketStructure

structure GoldStrategyConfig where
  emaFastPeriod : Nat := 20
  emaSlowPeriod : Nat := 50
  emaLongPeriod : Nat := 200
  requireEmaLongAlignment : Bool := false
  emaSlopeLookback : Nat := 3
  rsiPeriod : Nat := 14
  atrPeriod : Nat := 14
  structureLeftSpan : Nat := 2
  structureRightSpan : Nat := 2
  pullbackAtrTolerance : Decimal := 125 / 100
  rejectionWickRatio : Decimal := 15 / 10
  breakoutLookback : Nat := 5
  maximumSpread : Option Decimal := none
  spreadAveragePeriod : Nat := 20
  minimumAtrFraction : Decimal := 1 / 10000
  maximumAtrFraction : Decimal := 2 / 100
  longRsiMinimum : Decimal := 40
  longRsiMaximum : Decimal := 75
  shortRsiMinimum : Decimal := 25
  shortRsiMaximum : Decimal := 60
  confidenceThreshold : Int := 75
  minimumRiskReward : Decimal := 18 / 10
  preferredRiskReward : Decimal := 2
  entryZoneAtrFraction : Decimal := 15 / 100
  stopAtrMultiple : Decimal := 125 / 100
  stopBufferAtrFraction : Decimal := 1 / 10
  signalExpiryBars : Nat := 3
  weights : ConfidenceWeights := {}
  useClosedCandlesOnly : Bool := true
  periods_pos : ∀ period ∈ [emaFastPeriod, emaSlowPeriod, emaLongPeriod, emaSlopeLookback, rsiPeriod, atrPeriod,
    structureLeftSpan, structureRightSpan, breakoutLookback, spreadAveragePeriod, signalExpiryBars],
    0 < period := by decide
  periods_ordered : emaFastPeriod < emaSlowPeriod ∧ emaSlowPeriod < emaLongPeriod := by decide
  threshold_range : 0 ≤ confidenceThreshold ∧ confidenceThreshold ≤ 100 := by decide
  riskReward_ordered : 0 < minimumRiskReward ∧ minimumRiskReward ≤ preferredRiskReward := by norm_num
  distances_pos : ∀ value ∈ [pullbackAtrTolerance, rejectionWickRatio, minimumAtrFraction, maximumAtrFraction,
    entryZoneAtrFraction, stopAtrMultiple], 0 < value := by norm_num
  fractions_ordered : minimumAtrFraction < maximumAtrFraction := by norm_num
  spread_pos : ∀ spread, maximumSpread = some spread → 0 < spread := by simp

/-- What confirms an entry. -/
inductive Confirmation where
  | bullishEngulfing | bearishEngulfing | bullishRejection | bearishRejection | localHighBreak | localSupportBreak
  | higherLow | lowerHigh
  deriving DecidableEq, Repr

/-! ## What the rationale of a signal shows -/

structure TrendContext where
  close : Decimal
  emaFast : Decimal
  emaSlow : Decimal
  emaSlowSlope : Decimal
  emaLong : Option Decimal
  structureBias : MarketBias
  higherHigh : Bool
  higherLow : Bool
  lowerHigh : Bool
  lowerLow : Bool
  support : Option Decimal
  resistance : Option Decimal
  deriving DecidableEq, Repr

structure PullbackContext where
  close : Decimal
  emaFast : Decimal
  emaSlow : Decimal
  atr : Decimal
  touchedEmaZone : Bool
  latestStructureBreak : Option MarketBias
  deriving DecidableEq, Repr

structure ConfirmationContext where
  longConfirmations : List Confirmation
  shortConfirmations : List Confirmation
  structureBias : MarketBias
  deriving DecidableEq, Repr

structure QualityContext where
  atr : Decimal
  atrFraction : Decimal
  rsi : Decimal
  spread : Decimal
  averageSpread : Option Decimal
  deriving DecidableEq, Repr

structure EvaluationContext where
  h1 : TrendContext
  m15 : PullbackContext
  m5 : ConfirmationContext
  quality : QualityContext
  deriving DecidableEq, Repr

/-- The rationale; without an evaluation while the indicators warm up. -/
structure Rationale where
  reason : Option String := none
  evaluation : Option (EvaluationContext × ConfidenceBreakdown × ConfidenceBreakdown) := none
  selectedDirection : Option Direction := none
  entryConfirmations : List Confirmation := []
  deriving DecidableEq, Repr

/-- The `TradeSignal` of an evaluation, with its score and its rationale. -/
structure EvaluatedSignal where
  signal : TradeSignal
  confidenceScore : Int
  rationale : Rationale

/-- `_DirectionEvaluation` -/
structure DirectionEvaluation where
  direction : Direction
  h1Trend : Bool
  m15Pullback : Bool
  m5Confirmation : Bool
  spreadQuality : Decimal
  confidence : ConfidenceBreakdown
  confirmationNames : List Confirmation

structure GoldTrendPullbackStrategy where
  config : GoldStrategyConfig := {}
  strategyVersion : String := "1.0.0"
  uuid5 : String → UUID
  isoformat : Instant → String

namespace GoldTrendPullbackStrategy

/-- `_required_float` -/
def requiredFloat (value : Option Decimal) (name : String) : Except PyError Decimal :=
  match value with
  | some value => .ok value
  | none => .error (.value (name ++ " is unavailable during indicator warm-up"))

/-- `_required_float(values[-1], name)` -/
def latestOf (values : List (Option Decimal)) (name : String) : Except PyError Decimal := do
  let value ← fromEnd values 0
  requiredFloat value name

def bullishEngulfing (previous current : Candle) : Bool :=
  previous.close < previous.open && current.open < current.close && current.open ≤ previous.close &&
    previous.open ≤ current.close

def bearishEngulfing (previous current : Candle) : Bool :=
  previous.open < previous.close && current.close < current.open && previous.close ≤ current.open &&
    current.close ≤ previous.open

/-- `_rejection` -/
def rejection (candle : Candle) (direction : Direction) (ratio : Decimal) : Bool :=
  let body := max |candle.close - candle.open| ((candle.high - candle.low) * (5 / 100))
  let lowerWick := min candle.open candle.close - candle.low
  let upperWick := candle.high - max candle.open candle.close
  match direction with
  | .long => candle.open < candle.close && body * ratio ≤ lowerWick
  | .short => candle.close < candle.open && body * ratio ≤ upperWick

/-- `Decimal(str(round(value, 8)))` -/
def decimal (value : Decimal) : Decimal := Data.roundHalfEven (value * 10 ^ 8) / 10 ^ 8

/-- `float(flag)` -/
def strength (flag : Bool) : Decimal := if flag then 1 else 0

variable (strategy : GoldTrendPullbackStrategy)

/-! ## The series -/

def required : List Timeframe := [.h1, .m15, .m5]

/-- `_prepare` -/
def prepare (candles : Timeframe → Option (List Candle)) (asOf : Option Instant) :
    Except PyError (PerTimeframe (List Candle)) := do
  let missing := required.filter fun timeframe => (candles timeframe).isNone
  if missing ≠ [] then
    throw (.value ("missing required timeframes: " ++ ", ".intercalate (missing.map (·.value))))
  let closed := fun timeframe =>
    closedCandles ((candles timeframe).getD []) asOf strategy.config.useClosedCandlesOnly
  let h1 ← closed .h1
  let m15 ← closed .m15
  let m5 ← closed .m5
  pure ⟨h1, m15, m5⟩

/-- `_has_history` -/
def hasHistory (series : PerTimeframe (List Candle)) : Bool :=
  let config := strategy.config
  let h1Required := max (max (config.emaSlowPeriod + config.emaSlopeLookback)
    (if config.requireEmaLongAlignment then config.emaLongPeriod else 0))
    ((config.structureLeftSpan + config.structureRightSpan + 1) * 3)
  let m15Required := max config.emaSlowPeriod (config.atrPeriod + 1)
  let m5Required := max (max (config.atrPeriod + 1) (config.rsiPeriod + 1))
    (max (config.breakoutLookback + 2) config.spreadAveragePeriod)
  h1Required ≤ series.h1.length && m15Required ≤ series.m15.length && m5Required ≤ series.m5.length

def structureOf (candles : List Candle) : Except PyError StructureAnalysis :=
  analyzeStructure candles strategy.config.structureLeftSpan strategy.config.structureRightSpan

def atrOf (candles : List Candle) : Except PyError (List (Option Decimal)) :=
  atr (candles.map (·.high)) (candles.map (·.low)) (candles.map (·.close)) strategy.config.atrPeriod

/-! ## The factors -/

structure TrendFlags where
  longEma : Bool
  shortEma : Bool
  bullishStructure : Bool
  bearishStructure : Bool
  context : TrendContext
  deriving DecidableEq

/-- `_trend_flags` -/
def trendFlags (h1 : List Candle) : Except PyError TrendFlags := do
  let closes := h1.map (·.close)
  let fast ← ema closes strategy.config.emaFastPeriod
  let slow ← ema closes strategy.config.emaSlowPeriod
  let latestFast ← latestOf fast "H1 fast EMA"
  let latestSlow ← latestOf slow "H1 slow EMA"
  let earlier ← fromEnd slow strategy.config.emaSlopeLookback
  let earlierSlow ← requiredFloat earlier "H1 prior slow EMA"
  let longValue ← if strategy.config.requireEmaLongAlignment then do
      let long ← ema closes strategy.config.emaLongPeriod
      some <$> latestOf long "H1 long EMA"
    else pure none
  let structure_ ← strategy.structureOf h1
  let latestClose ← fromEnd closes 0
  let recentBreak := structure_.breaks.getLast?
  pure
    { longEma := latestFast < latestClose && latestSlow < latestFast && earlierSlow < latestSlow &&
        longValue.all (· < latestClose)
      shortEma := latestClose < latestFast && latestFast < latestSlow && latestSlow < earlierSlow &&
        longValue.all (latestClose < ·)
      bullishStructure := structure_.bullishStructure || recentBreak.any (·.direction = .bullish)
      bearishStructure := structure_.bearishStructure || recentBreak.any (·.direction = .bearish)
      context :=
        { close := latestClose
          emaFast := latestFast
          emaSlow := latestSlow
          emaSlowSlope := latestSlow - earlierSlow
          emaLong := longValue
          structureBias := structure_.bias
          higherHigh := structure_.higherHigh
          higherLow := structure_.higherLow
          lowerHigh := structure_.lowerHigh
          lowerLow := structure_.lowerLow
          support := structure_.support
          resistance := structure_.resistance } }

structure PullbackFlags where
  long : Bool
  short : Bool
  context : PullbackContext
  deriving DecidableEq

/-- `_pullback_flags` -/
def pullbackFlags (m15 : List Candle) : Except PyError PullbackFlags := do
  let closes := m15.map (·.close)
  let fast ← ema closes strategy.config.emaFastPeriod
  let fastValue ← latestOf fast "M15 fast EMA"
  let slow ← ema closes strategy.config.emaSlowPeriod
  let slowValue ← latestOf slow "M15 slow EMA"
  let ranges ← strategy.atrOf m15
  let atrValue ← latestOf ranges "M15 ATR"
  let latest ← fromEnd m15 0
  let tolerance := atrValue * strategy.config.pullbackAtrTolerance
  let touchedZone : Bool := latest.low ≤ fastValue + tolerance && fastValue - tolerance ≤ latest.high
  let structure_ ← strategy.structureOf m15
  let recentBreak := structure_.breaks.getLast?
  pure
    { long := touchedZone && slowValue ≤ latest.close && !recentBreak.any (·.direction = .bearish)
      short := touchedZone && latest.close ≤ slowValue && !recentBreak.any (·.direction = .bullish)
      context :=
        { close := latest.close
          emaFast := fastValue
          emaSlow := slowValue
          atr := atrValue
          touchedEmaZone := touchedZone
          latestStructureBreak := recentBreak.map (·.direction) } }

/-- The confirmations whose condition holds. -/
def confirmed (checks : List (Bool × Confirmation)) : List Confirmation :=
  (checks.filter (·.1)).map (·.2)

/-- `_confirmation_flags` -/
def confirmationFlags (m5 : List Candle) : Except PyError ConfirmationContext := do
  let previous ← fromEnd m5 1
  let latest ← fromEnd m5 0
  let earlier := lastOf strategy.config.breakoutLookback m5.dropLast
  let structure_ ← strategy.structureOf m5
  let ratio := strategy.config.rejectionWickRatio
  pure
    { longConfirmations := confirmed
        [(bullishEngulfing previous latest, .bullishEngulfing),
          (rejection latest .long ratio, .bullishRejection),
          ((earlier.map (·.high)).max?.any (· < latest.close), .localHighBreak),
          (structure_.higherLow, .higherLow)]
      shortConfirmations := confirmed
        [(bearishEngulfing previous latest, .bearishEngulfing),
          (rejection latest .short ratio, .bearishRejection),
          ((earlier.map (·.low)).min?.any (latest.close < ·), .localSupportBreak),
          (structure_.lowerHigh, .lowerHigh)]
      structureBias := structure_.bias }

structure Quality where
  spreadScore : Decimal
  volatilityScore : Decimal
  longRsi : Decimal
  shortRsi : Decimal
  context : QualityContext
  deriving DecidableEq

/-- `_quality` -/
def quality (m5 : List Candle) : Except PyError Quality := do
  let config := strategy.config
  let ranges ← strategy.atrOf m5
  let atrValue ← latestOf ranges "M5 ATR"
  let strengths ← rsi (m5.map (·.close)) config.rsiPeriod
  let rsiValue ← latestOf strengths "M5 RSI"
  let averages ← averageSpread (m5.map (·.spread)) config.spreadAveragePeriod
  let average ← fromEnd averages 0
  let latest ← fromEnd m5 0
  let spreadScore ← spreadQuality latest.spread average config.maximumSpread
  let atrFraction := if 0 < latest.close then atrValue / latest.close else 0
  pure
    { spreadScore
      volatilityScore := strength (config.minimumAtrFraction ≤ atrFraction && atrFraction ≤ config.maximumAtrFraction)
      longRsi := strength (config.longRsiMinimum ≤ rsiValue && rsiValue ≤ config.longRsiMaximum)
      shortRsi := strength (config.shortRsiMinimum ≤ rsiValue && rsiValue ≤ config.shortRsiMaximum)
      context :=
        { atr := atrValue, atrFraction, rsi := rsiValue, spread := latest.spread, averageSpread := average } }

/-- `build` -/
def buildEvaluation (direction : Direction) (trend pullback : Bool) (confirmations : List Confirmation)
    (structureAligned : Bool) (quality : Quality) (rsiQuality : Decimal) : Except PyError DirectionEvaluation := do
  let factors ← ConfidenceFactors.make
    { h1Trend := strength trend
      m15Pullback := strength pullback
      m5Confirmation := strength (!confirmations.isEmpty)
      structureAlignment := strength structureAligned
      spreadQuality := quality.spreadScore
      volatilityQuality := quality.volatilityScore * rsiQuality }
  pure
    { direction
      h1Trend := trend
      m15Pullback := pullback
      m5Confirmation := !confirmations.isEmpty
      spreadQuality := quality.spreadScore
      confidence := scoreConfidence factors strategy.config.weights
      confirmationNames := confirmations }

/-- `_evaluate_directions` -/
def evaluateDirections (series : PerTimeframe (List Candle)) :
    Except PyError (DirectionEvaluation × DirectionEvaluation × EvaluationContext) := do
  let trend ← strategy.trendFlags series.h1
  let pullback ← strategy.pullbackFlags series.m15
  let confirmations ← strategy.confirmationFlags series.m5
  let quality ← strategy.quality series.m5
  let long ← strategy.buildEvaluation .long (trend.longEma && trend.bullishStructure) pullback.long
    confirmations.longConfirmations trend.bullishStructure quality quality.longRsi
  let short ← strategy.buildEvaluation .short (trend.shortEma && trend.bearishStructure) pullback.short
    confirmations.shortConfirmations trend.bearishStructure quality quality.shortRsi
  pure (long, short, ⟨trend.context, pullback.context, confirmations, quality.context⟩)

/-! ## Signals -/

def strategyId : String := "gold_h1_m15_m5"

def actionText : SignalAction → String
  | .long => "LONG"
  | .short => "SHORT"
  | .wait => "WAIT"
  | .exit => "EXIT"

/-- `_signal_id` -/
def signalId (symbol : String) (action : SignalAction) (createdAt : Instant) : UUID :=
  strategy.uuid5 (":".intercalate
    [strategyId, strategy.strategyVersion, symbol, actionText action, strategy.isoformat createdAt])

/-- `_wait_or_exit` -/
def waitOrExit (series : PerTimeframe (List Candle)) (action : SignalAction) (confidence : Int)
    (rationale : Rationale) :
    Except PyError EvaluatedSignal := do
  let latest ← fromEnd series.m5 0
  let createdAt := candleCloseTime latest
  let signal ← TradeSignal.make latest.symbol "XAUUSD" action strategyId strategy.strategyVersion confidence
    none none none [] none .active createdAt none (strategy.signalId latest.symbol action createdAt)
  pure { signal, confidenceScore := confidence, rationale }

/-- Stop, targets and action of an entry. -/
structure EntryPlan where
  action : SignalAction
  stop : Decimal
  firstTarget : Decimal
  secondTarget : Decimal

/-- An extreme of a non-empty sequence. -/
def extremeOf (extreme : Option Decimal) (name : String) : Except PyError Decimal :=
  match extreme with
  | some value => .ok value
  | none => .error (.value (name ++ "() iterable argument is empty"))

def entryPlan (direction : Direction) (recent : List Candle) (entryMin entryMax atrValue : Decimal) :
    Except PyError EntryPlan := do
  let config := strategy.config
  let reference := (entryMin + entryMax) / 2
  let buffer := atrValue * config.stopBufferAtrFraction
  match direction with
  | .long => do
    let lowest ← extremeOf (recent.map (·.low)).min? "min"
    let stop := min (lowest - buffer) (entryMin - atrValue * config.stopAtrMultiple)
    let riskDistance := reference - stop
    pure ⟨.long, stop, reference + riskDistance * config.minimumRiskReward,
      reference + riskDistance * config.preferredRiskReward⟩
  | .short => do
    let highest ← extremeOf (recent.map (·.high)).max? "max"
    let stop := max (highest + buffer) (entryMax + atrValue * config.stopAtrMultiple)
    let riskDistance := stop - reference
    pure ⟨.short, stop, reference - riskDistance * config.minimumRiskReward,
      reference - riskDistance * config.preferredRiskReward⟩

/-- `created_at + timedelta(seconds=Timeframe.M5.seconds * self.config.signal_expiry_bars)` -/
def expiryAfter (createdAt : Instant) : Except PyError Instant :=
  let expiry := createdAt + Timeframe.m5.seconds * strategy.config.signalExpiryBars * 1000000
  if expiry ≤ datetimeMax then .ok expiry else .error (.other "OverflowError" "date value out of range")

/-- `_trade_signal` -/
def tradeSignal (series : PerTimeframe (List Candle)) (evaluation : DirectionEvaluation) (rationale : Rationale) :
    Except PyError EvaluatedSignal := do
  let config := strategy.config
  let latest ← fromEnd series.m5 0
  let ranges ← strategy.atrOf series.m5
  let atrValue ← latestOf ranges "M5 ATR"
  let halfZone := atrValue * config.entryZoneAtrFraction
  let entryMin := latest.close - halfZone
  let entryMax := latest.close + halfZone
  let recent := lastOf (max (config.breakoutLookback * 2) config.atrPeriod) series.m5
  let plan ← strategy.entryPlan evaluation.direction recent entryMin entryMax atrValue
  let createdAt := candleCloseTime latest
  let expiry ← strategy.expiryAfter createdAt
  let targets := if plan.secondTarget ≠ plan.firstTarget then [plan.firstTarget, plan.secondTarget]
    else [plan.firstTarget]
  let signal ← TradeSignal.make latest.symbol "XAUUSD" plan.action strategyId strategy.strategyVersion
    evaluation.confidence.score (some (decimal entryMin)) (some (decimal entryMax)) (some (decimal plan.stop))
    (targets.map decimal) (some (decimal config.minimumRiskReward)) .active createdAt (some expiry)
    (strategy.signalId latest.symbol plan.action createdAt)
  pure { signal, confidenceScore := evaluation.confidence.score, rationale }

/-! ## Evaluation -/

/-- The better direction; the long one if they score alike. -/
def selected (long short : DirectionEvaluation) : DirectionEvaluation :=
  if short.confidence.score ≤ long.confidence.score then long else short

/-- The decision on the two evaluations. -/
def decide (series : PerTimeframe (List Candle)) (openDirection : Option Direction) (long short : DirectionEvaluation)
    (rationale : Rationale) : Except PyError EvaluatedSignal :=
  if openDirection = some .long ∧ short.h1Trend = true then
    strategy.waitOrExit series .exit short.confidence.score { rationale with reason := some "H1_BEARISH_REVERSAL" }
  else if openDirection = some .short ∧ long.h1Trend = true then
    strategy.waitOrExit series .exit long.confidence.score { rationale with reason := some "H1_BULLISH_REVERSAL" }
  else if openDirection.isSome then
    strategy.waitOrExit series .wait (max long.confidence.score short.confidence.score)
      { rationale with reason := some "POSITION_ALREADY_OPEN" }
  else
    let selected := selected long short
    let allRequired := selected.h1Trend && selected.m15Pullback && selected.m5Confirmation
    let spreadAllowed : Bool := 0 < selected.spreadQuality
    if allRequired && spreadAllowed && strategy.config.confidenceThreshold ≤ selected.confidence.score then
      strategy.tradeSignal series selected
        { rationale with
          selectedDirection := some selected.direction
          entryConfirmations := selected.confirmationNames }
    else
      strategy.waitOrExit series .wait selected.confidence.score
        { rationale with
          reason := some (if spreadAllowed then "CONDITIONS_NOT_MET" else "TRADE_SKIPPED_HIGH_SPREAD") }

/-- The evaluation of the selected series. -/
def evaluateSeries (series : PerTimeframe (List Candle)) (openDirection : Option Direction) :
    Except PyError EvaluatedSignal :=
  if series.values.any (·.isEmpty) then
    .error (.value "each strategy timeframe needs at least one closed candle")
  else if !strategy.hasHistory series then
    strategy.waitOrExit series .wait 0 { reason := some "INDICATOR_WARMUP" }
  else do
    let (long, short, context) ← strategy.evaluateDirections series
    strategy.decide series openDirection long short
      { evaluation := some (context, long.confidence, short.confidence) }

def evaluate (candles : Timeframe → Option (List Candle)) (asOf : Option Instant) (openDirection : Option Direction) :
    Except PyError EvaluatedSignal := do
  let series ← strategy.prepare candles asOf
  strategy.evaluateSeries series openDirection

end GoldTrendPullbackStrategy

end GoldFlow
