import GoldFlow.Verified.ClosedBars
import GoldFlow.Verified.IndicatorValues
import GoldFlow.Verified.StructureScan
import Mathlib.Algebra.Order.Group.MinMax

/-! # The strategy answers -/

namespace GoldFlow

open Data Indicators MarketStructure

/-! ## Scores -/

theorem component_zero (weight : Nat) : roundHalfEven (0 * weight) = 0 := by
  simp [roundHalfEven]

theorem component_one (weight : Nat) : roundHalfEven (1 * weight) = weight := by
  rw [one_mul]
  exact_mod_cast roundHalfEven_intCast weight

theorem component_range {factor : Decimal} (range : 0 ≤ factor ∧ factor ≤ 1) (weight : Nat) :
    0 ≤ roundHalfEven (factor * weight) ∧ roundHalfEven (factor * weight) ≤ weight := by
  have least := roundHalfEven_mono (mul_le_mul_of_nonneg_right range.1 (Nat.cast_nonneg weight))
  have most := roundHalfEven_mono (mul_le_mul_of_nonneg_right range.2 (Nat.cast_nonneg weight))
  rw [component_zero] at least
  rw [component_one] at most
  exact ⟨least, most⟩

structure Scored (factors : PerFactor Decimal) (weights : PerFactor Nat) (score : Int) : Prop where
  range : 0 ≤ score ∧ score ≤ 100
  trendless : factors.h1Trend = 0 → score + weights.h1Trend ≤ 100
  trending : factors.h1Trend = 1 → factors.m15Pullback = 1 → factors.m5Confirmation = 1 →
    factors.structureAlignment = 1 →
    (weights.h1Trend + weights.m15Pullback + weights.m5Confirmation + weights.structureAlignment : Int) ≤ score

theorem scored (factors : ConfidenceFactors) (weights : ConfidenceWeights) :
    Scored factors.factors weights.weights (scoreConfidence factors weights).score := by
  obtain ⟨⟨trend, pullback, confirmation, alignment, spread, volatility⟩, range⟩ := factors
  obtain ⟨⟨trendWeight, pullbackWeight, confirmationWeight, alignmentWeight, spreadWeight, volatilityWeight⟩,
    total⟩ := weights
  simp only [PerFactor.values, List.forall_mem_cons] at range
  obtain ⟨trendRange, pullbackRange, confirmationRange, alignmentRange, spreadRange, volatilityRange, _⟩ := range
  have trendPart := component_range trendRange trendWeight
  have pullbackPart := component_range pullbackRange pullbackWeight
  have confirmationPart := component_range confirmationRange confirmationWeight
  have alignmentPart := component_range alignmentRange alignmentWeight
  have spreadPart := component_range spreadRange spreadWeight
  have volatilityPart := component_range volatilityRange volatilityWeight
  simp only [PerFactor.values, List.sum_cons] at total
  simp only [scoreConfidence, PerFactor.map₂, PerFactor.values, List.sum_cons, List.sum_nil]
  constructor
  · omega
  · rintro rfl
    simp only [component_zero] at trendPart ⊢
    omega
  · rintro rfl rfl rfl rfl
    simp only [component_one]
    omega

namespace GoldTrendPullbackStrategy

theorem strength_range (flag : Bool) : 0 ≤ strength flag ∧ strength flag ≤ 1 := by
  cases flag <;> simp [strength]

/-! ## The phases -/

structure Bars (candles : List Candle) : Prop where
  valid : ValidSequence candles
  nonempty : candles ≠ []

variable {strategy : GoldTrendPullbackStrategy} {candles : List Candle}

theorem Bars.latest (bars : Bars candles) : ∃ latest, fromEnd candles 0 = .ok latest :=
  fromEnd_isOk (List.length_pos_iff.mpr bars.nonempty)

theorem latestOf_eq {values : List (Option Decimal)} {value : Decimal} (found : fromEnd values 0 = .ok (some value))
    (name : String) : latestOf values name = .ok value := by
  rw [latestOf, found]
  rfl

theorem structureOf_eq (bars : Bars candles) : strategy.structureOf candles =
    .ok (analysisOf candles
      (foundSwings candles strategy.config.structureLeftSpan strategy.config.structureRightSpan)) :=
  analyzeStructure_eq_ok bars.valid (strategy.config.periods_pos _ (by simp)) (strategy.config.periods_pos _ (by simp))

def rangeOf (strategy : GoldTrendPullbackStrategy) (candles : List Candle) : Decimal :=
  averageRange strategy.config.atrPeriod (rangesOf candles)

theorem atrOf_available (warm : strategy.config.atrPeriod + 1 ≤ candles.length) :
    ∃ averages, strategy.atrOf candles = .ok averages ∧ fromEnd averages 0 = .ok (some (strategy.rangeOf candles)) :=
  atr_available (strategy.config.periods_pos _ (by simp)) (Nat.le_of_succ_le warm)

theorem closes_available (candles : List Candle) {period : Nat} (offset : Nat) (positive : 0 < period)
    (warm : period + offset ≤ candles.length) :
    ∃ averages found latest, ema (candles.map (·.close)) period = .ok averages ∧
      fromEnd averages offset = .ok (some found) ∧ fromEnd averages 0 = .ok (some latest) := by
  have earlier : period + offset ≤ (candles.map (·.close)).length := by
    rwa [List.length_map]
  have current : period + 0 ≤ (candles.map (·.close)).length := by omega
  obtain ⟨averages, found, made, available⟩ := ema_available positive earlier
  obtain ⟨_, latest, again, availableNow⟩ := ema_available positive current
  cases made.symm.trans again
  exact ⟨averages, found, latest, made, available, availableNow⟩

theorem trendFlags_ok (bars : Bars candles)
    (slope : strategy.config.emaSlowPeriod + strategy.config.emaSlopeLookback ≤ candles.length)
    (aligned : strategy.config.requireEmaLongAlignment = true → strategy.config.emaLongPeriod ≤ candles.length) :
    ∃ flags, strategy.trendFlags candles = .ok flags ∧ ¬ (flags.longEma = true ∧ flags.shortEma = true) := by
  have faster : strategy.config.emaFastPeriod + 0 ≤ candles.length := by
    have ordered := strategy.config.periods_ordered.1
    omega
  obtain ⟨fast, _, fastLatest, fastMade, _, fastFound⟩ :=
    closes_available candles 0 (strategy.config.periods_pos _ (by simp)) faster
  obtain ⟨slow, earlier, slowLatest, slowMade, earlierFound, slowFound⟩ :=
    closes_available candles _ (strategy.config.periods_pos _ (by simp)) slope
  have closes : 0 < (candles.map (·.close)).length := by
    simpa using List.length_pos_iff.mpr bars.nonempty
  obtain ⟨close, closeFound⟩ := fromEnd_isOk closes
  cases required : strategy.config.requireEmaLongAlignment with
  | false =>
    refine ⟨_, by
      simp only [trendFlags, fastMade, slowMade, latestOf_eq fastFound, latestOf_eq slowFound, earlierFound,
        required, structureOf_eq bars, closeFound, ok_bind]
      rfl, ?_⟩
    simp only [Bool.and_eq_true, decide_eq_true_eq]
    exact fun both => absurd both.1.1.1.1 both.2.1.1.1.not_gt
  | true =>
    obtain ⟨long, _, longLatest, longMade, _, longFound⟩ :=
      closes_available candles 0 (strategy.config.periods_pos _ (by simp)) (aligned required)
    refine ⟨_, by
      simp only [trendFlags, fastMade, slowMade, latestOf_eq fastFound, latestOf_eq slowFound, earlierFound,
        required, longMade, latestOf_eq longFound, structureOf_eq bars, closeFound, ok_bind]
      rfl, ?_⟩
    simp only [Bool.and_eq_true, decide_eq_true_eq]
    exact fun both => absurd both.1.1.1.1 both.2.1.1.1.not_gt

theorem pullbackFlags_ok (bars : Bars candles) (slope : strategy.config.emaSlowPeriod ≤ candles.length)
    (ranged : strategy.config.atrPeriod + 1 ≤ candles.length) :
    ∃ flags, strategy.pullbackFlags candles = .ok flags := by
  have faster : strategy.config.emaFastPeriod + 0 ≤ candles.length := by
    have ordered := strategy.config.periods_ordered.1
    omega
  obtain ⟨fast, _, fastLatest, fastMade, _, fastFound⟩ :=
    closes_available candles 0 (strategy.config.periods_pos _ (by simp)) faster
  obtain ⟨slow, _, slowLatest, slowMade, _, slowFound⟩ :=
    closes_available candles 0 (strategy.config.periods_pos _ (by simp)) slope
  obtain ⟨ranges, rangesMade, rangeFound⟩ := atrOf_available ranged
  obtain ⟨latest, latestFound⟩ := bars.latest
  exact ⟨_, by
    simp only [pullbackFlags, fastMade, slowMade, latestOf_eq fastFound, latestOf_eq slowFound, rangesMade,
      latestOf_eq rangeFound, latestFound, structureOf_eq bars, ok_bind]
    rfl⟩

theorem confirmationFlags_ok (strategy : GoldTrendPullbackStrategy) (bars : Bars candles) (pair : 1 < candles.length) :
    ∃ context, strategy.confirmationFlags candles = .ok context := by
  obtain ⟨previous, previousFound⟩ := fromEnd_isOk pair
  obtain ⟨latest, latestFound⟩ := bars.latest
  exact ⟨_, by
    simp only [confirmationFlags, previousFound, latestFound, structureOf_eq bars]
    rfl⟩

theorem quality_ok (bars : Bars candles) (ranged : strategy.config.atrPeriod + 1 ≤ candles.length)
    (strong : strategy.config.rsiPeriod + 1 ≤ candles.length)
    (spread : strategy.config.spreadAveragePeriod ≤ candles.length) :
    ∃ quality, strategy.quality candles = .ok quality ∧ (0 ≤ quality.spreadScore ∧ quality.spreadScore ≤ 1) ∧
      (∃ flag, quality.volatilityScore = strength flag) ∧ (∃ flag, quality.longRsi = strength flag) ∧
      ∃ flag, quality.shortRsi = strength flag := by
  obtain ⟨ranges, rangesMade, rangeFound⟩ := atrOf_available ranged
  have changes : strategy.config.rsiPeriod + 1 ≤ (candles.map (·.close)).length := by
    rwa [List.length_map]
  have spreads : strategy.config.spreadAveragePeriod ≤ (candles.map (·.spread)).length := by
    rwa [List.length_map]
  obtain ⟨strengths, rsiLatest, rsiMade, rsiFound⟩ :=
    rsi_available (strategy.config.periods_pos _ (by simp)) changes
  obtain ⟨averages, average, averagesMade, averageFound⟩ :=
    averageSpread_available (strategy.config.periods_pos _ (by simp)) (by simp [Candle.spread_nonneg]) spreads
  obtain ⟨latest, latestFound⟩ := bars.latest
  obtain ⟨score, scoreMade, range⟩ := spreadQuality_range latest.spread_nonneg (some average) strategy.config.spread_pos
  exact ⟨_, by
    simp only [quality, rangesMade, latestOf_eq rangeFound, rsiMade, latestOf_eq rsiFound, averagesMade, averageFound,
      latestFound, scoreMade, ok_bind]
    rfl, range, ⟨_, rfl⟩, ⟨_, rfl⟩, ⟨_, rfl⟩⟩

/-! ## The two directions -/

structure Sound (weights : PerFactor Nat) (direction : Direction) (confirmations : List Confirmation)
    (evaluation : DirectionEvaluation) : Prop where
  direction : evaluation.direction = direction
  confirmed : evaluation.m5Confirmation = !confirmations.isEmpty
  range : 0 ≤ evaluation.confidence.score ∧ evaluation.confidence.score ≤ 100
  trendless : evaluation.h1Trend = false → evaluation.confidence.score + weights.h1Trend ≤ 100
  qualified : evaluation.h1Trend = true → evaluation.m15Pullback = true → evaluation.m5Confirmation = true →
    (weights.h1Trend + weights.m15Pullback + weights.m5Confirmation + weights.structureAlignment : Int) ≤
      evaluation.confidence.score

theorem buildEvaluation_sound (strategy : GoldTrendPullbackStrategy) (direction : Direction)
    (ema pullback aligned : Bool) (confirmations : List Confirmation) {quality : Quality} {rsiQuality : Decimal}
    (spread : 0 ≤ quality.spreadScore ∧ quality.spreadScore ≤ 1)
    (volatility : ∃ flag, quality.volatilityScore = strength flag) (rsi : ∃ flag, rsiQuality = strength flag) :
    ∃ evaluation, strategy.buildEvaluation direction
      (ema && aligned) pullback confirmations aligned quality rsiQuality =
      .ok evaluation ∧ evaluation.h1Trend = (ema && aligned) ∧
      Sound strategy.config.weights.weights direction confirmations evaluation := by
  obtain ⟨volatile, volatility⟩ := volatility
  obtain ⟨strong, rfl⟩ := rsi
  have product : quality.volatilityScore * strength strong = strength (volatile && strong) := by
    rw [volatility]
    cases volatile <;> cases strong <;> simp [strength]
  have range : ∀ value ∈ (PerFactor.mk (strength (ema && aligned)) (strength pullback)
      (strength (!confirmations.isEmpty)) (strength aligned) quality.spreadScore
      (quality.volatilityScore * strength strong)).values, 0 ≤ value ∧ value ≤ 1 := by
    simp only [PerFactor.values, product, List.forall_mem_cons]
    exact ⟨strength_range _, strength_range _, strength_range _, strength_range _, spread, strength_range _, by simp⟩
  have score := scored ⟨_, range⟩ strategy.config.weights
  refine ⟨_, by
    simp only [buildEvaluation, ConfidenceFactors.make, dif_pos range]
    rfl, rfl, rfl, rfl, score.range, ?_, ?_⟩
  · intro trendless
    exact score.trendless (by simp [strength, show (ema && aligned) = false from trendless])
  · intro trending pulled confirmed
    have both : ema = true ∧ aligned = true := by simpa using trending
    have some_confirmed : (!confirmations.isEmpty) = true := confirmed
    have pulled_back : pullback = true := pulled
    apply score.trending <;> simp [strength, both, some_confirmed, pulled_back]

structure History (strategy : GoldTrendPullbackStrategy) (series : PerTimeframe (List Candle)) : Prop where
  slope : strategy.config.emaSlowPeriod + strategy.config.emaSlopeLookback ≤ series.h1.length
  aligned : strategy.config.requireEmaLongAlignment = true → strategy.config.emaLongPeriod ≤ series.h1.length
  slow : strategy.config.emaSlowPeriod ≤ series.m15.length
  ranged : strategy.config.atrPeriod + 1 ≤ series.m15.length
  volatile : strategy.config.atrPeriod + 1 ≤ series.m5.length
  strong : strategy.config.rsiPeriod + 1 ≤ series.m5.length
  broken : strategy.config.breakoutLookback + 2 ≤ series.m5.length
  spread : strategy.config.spreadAveragePeriod ≤ series.m5.length

theorem History.of_hasHistory {series : PerTimeframe (List Candle)} (history : strategy.hasHistory series = true) :
    strategy.History series := by
  simp only [hasHistory, Bool.and_eq_true, decide_eq_true_eq, max_le_iff] at history
  obtain ⟨⟨⟨⟨slope, aligned⟩, _⟩, slow, ranged⟩, ⟨volatile, strong⟩, broken, spread⟩ := history
  refine ⟨slope, fun required => ?_, slow, ranged, volatile, strong, broken, spread⟩
  rwa [if_pos required] at aligned

structure SelectedBars (series : PerTimeframe (List Candle)) : Prop where
  h1 : Bars series.h1
  m15 : Bars series.m15
  m5 : Bars series.m5

variable {series : PerTimeframe (List Candle)}

structure Directions (strategy : GoldTrendPullbackStrategy) (series : PerTimeframe (List Candle))
    (long short : DirectionEvaluation) (context : EvaluationContext) : Prop where
  exclusive : ¬ (long.h1Trend = true ∧ short.h1Trend = true)
  confirmations : strategy.confirmationFlags series.m5 = .ok context.m5
  long : Sound strategy.config.weights.weights .long context.m5.longConfirmations long
  short : Sound strategy.config.weights.weights .short context.m5.shortConfirmations short

/-- **With the history no phase raises.** -/
theorem evaluateDirections_ok (bars : SelectedBars series) (history : strategy.History series) :
    ∃ long short context, strategy.evaluateDirections series = .ok (long, short, context) ∧
      strategy.Directions series long short context := by
  obtain ⟨trend, trendMade, crossed⟩ := trendFlags_ok bars.h1 history.slope history.aligned
  obtain ⟨pullback, pullbackMade⟩ := pullbackFlags_ok bars.m15 history.slow history.ranged
  have pair : 1 < series.m5.length := by
    have broken := history.broken
    omega
  obtain ⟨confirmations, confirmationsMade⟩ := confirmationFlags_ok strategy bars.m5 pair
  obtain ⟨quality, qualityMade, spread, volatility, longRsi, shortRsi⟩ :=
    quality_ok bars.m5 history.volatile history.strong history.spread
  obtain ⟨long, longMade, longTrend, longSound⟩ := strategy.buildEvaluation_sound .long trend.longEma
    pullback.long trend.bullishStructure confirmations.longConfirmations spread volatility longRsi
  obtain ⟨short, shortMade, shortTrend, shortSound⟩ := strategy.buildEvaluation_sound .short trend.shortEma
    pullback.short trend.bearishStructure confirmations.shortConfirmations spread volatility shortRsi
  refine ⟨long, short, ⟨trend.context, pullback.context, confirmations, quality.context⟩, by
    simp only [evaluateDirections, trendMade, pullbackMade, confirmationsMade, qualityMade, longMade,
      shortMade, ok_bind]
    rfl, ?_, confirmationsMade, longSound, shortSound⟩
  rintro ⟨rising, falling⟩
  rw [longTrend, Bool.and_eq_true] at rising
  rw [shortTrend, Bool.and_eq_true] at falling
  exact crossed ⟨rising.1, falling.1⟩

/-! ## Signals -/

theorem decimal_mono {first second : Decimal} (ordered : first ≤ second) : decimal first ≤ decimal second := by
  have scaled : first * 10 ^ 8 ≤ second * 10 ^ 8 := by linarith
  have rounded : (roundHalfEven (first * 10 ^ 8) : Decimal) ≤ roundHalfEven (second * 10 ^ 8) := by
    exact_mod_cast roundHalfEven_mono scaled
  exact div_le_div_of_nonneg_right rounded (by norm_num)

theorem rangeOf_nonneg (strategy : GoldTrendPullbackStrategy) (candles : List Candle) : 0 ≤ strategy.rangeOf candles :=
  averageRange_nonneg (strategy.config.periods_pos _ (by simp)) (rangesAfter_nonneg none candles)

structure Entry where
  entryMin : Decimal
  entryMax : Decimal
  stop : Decimal
  targets : List Decimal

def Entry.rounded (entry : Entry) : Entry :=
  ⟨decimal entry.entryMin, decimal entry.entryMax, decimal entry.stop, entry.targets.map decimal⟩

def Entry.ShownBy (entry : Entry) (signal : TradeSignal) : Prop :=
  signal.entryMin = some entry.entryMin ∧ signal.entryMax = some entry.entryMax ∧
    signal.stopLoss = some entry.stop ∧ signal.takeProfits = entry.targets

def halfZone (strategy : GoldTrendPullbackStrategy) (m5 : List Candle) : Decimal :=
  strategy.rangeOf m5 * strategy.config.entryZoneAtrFraction

def structuralDistance (strategy : GoldTrendPullbackStrategy) (direction : Direction) (m5 : List Candle)
    (latest : Candle) : Decimal :=
  let recent := lastOf (max (strategy.config.breakoutLookback * 2) strategy.config.atrPeriod) m5
  let extreme := match direction with
    | .long => latest.close - (recent.map (·.low)).min?.getD latest.close
    | .short => (recent.map (·.high)).max?.getD latest.close - latest.close
  extreme + strategy.rangeOf m5 * strategy.config.stopBufferAtrFraction

def riskDistance (strategy : GoldTrendPullbackStrategy) (direction : Direction) (m5 : List Candle) (latest : Candle) :
    Decimal :=
  max (strategy.structuralDistance direction m5 latest)
    (strategy.halfZone m5 + strategy.rangeOf m5 * strategy.config.stopAtrMultiple)

def exactEntry (strategy : GoldTrendPullbackStrategy) (direction : Direction) (m5 : List Candle) (latest : Candle) :
    Entry :=
  let risk := strategy.riskDistance direction m5 latest
  let target := fun ratio => latest.close + direction.sign * (risk * ratio)
  { entryMin := latest.close - strategy.halfZone m5
    entryMax := latest.close + strategy.halfZone m5
    stop := latest.close - direction.sign * risk
    targets :=
      if target strategy.config.preferredRiskReward ≠ target strategy.config.minimumRiskReward then
        [target strategy.config.minimumRiskReward, target strategy.config.preferredRiskReward]
      else [target strategy.config.minimumRiskReward] }

theorem entryPlan_ok (direction : Direction) (latest : Candle) (bars : Bars candles) :
    ∃ plan, strategy.entryPlan direction
        (lastOf (max (strategy.config.breakoutLookback * 2) strategy.config.atrPeriod) candles)
        (latest.close - strategy.halfZone candles) (latest.close + strategy.halfZone candles)
        (strategy.rangeOf candles) = .ok plan ∧
      plan.action = (match direction with | .long => .long | .short => .short) ∧
      plan.stop = latest.close - direction.sign * strategy.riskDistance direction candles latest ∧
      plan.firstTarget = latest.close + direction.sign *
        (strategy.riskDistance direction candles latest * strategy.config.minimumRiskReward) ∧
      plan.secondTarget = latest.close + direction.sign *
        (strategy.riskDistance direction candles latest * strategy.config.preferredRiskReward) := by
  have counted : 0 < max (strategy.config.breakoutLookback * 2) strategy.config.atrPeriod :=
    (strategy.config.periods_pos _ (by simp)).trans_le (le_max_right _ _)
  have recent : lastOf (max (strategy.config.breakoutLookback * 2) strategy.config.atrPeriod) candles ≠ [] := by
    have length := List.length_pos_iff.mpr bars.nonempty
    simp only [lastOf, ne_eq, List.drop_eq_nil_iff]
    omega
  have centre : (latest.close - strategy.halfZone candles + (latest.close + strategy.halfZone candles)) / 2 =
      latest.close := by ring
  unfold entryPlan
  simp only [centre]
  cases direction with
  | long =>
    cases found : ((lastOf (max (strategy.config.breakoutLookback * 2) strategy.config.atrPeriod) candles).map
        (·.low)).min? with
    | none => simp [recent] at found
    | some lowest =>
      have stop : min (lowest - strategy.rangeOf candles * strategy.config.stopBufferAtrFraction)
          (latest.close - strategy.halfZone candles - strategy.rangeOf candles * strategy.config.stopAtrMultiple) =
            latest.close - strategy.riskDistance .long candles latest := by
        simp only [riskDistance, structuralDistance, found, Option.getD_some]
        rw [← min_sub_sub_left]
        congr 1 <;> ring
      refine ⟨_, rfl, rfl, ?_, ?_, ?_⟩
      all_goals simp only [Direction.sign, stop]; ring
  | short =>
    cases found : ((lastOf (max (strategy.config.breakoutLookback * 2) strategy.config.atrPeriod) candles).map
        (·.high)).max? with
    | none => simp [recent] at found
    | some highest =>
      have stop : max (highest + strategy.rangeOf candles * strategy.config.stopBufferAtrFraction)
          (latest.close + strategy.halfZone candles + strategy.rangeOf candles * strategy.config.stopAtrMultiple) =
            latest.close + strategy.riskDistance .short candles latest := by
        simp only [riskDistance, structuralDistance, found, Option.getD_some]
        rw [← max_add_add_left]
        congr 1 <;> ring
      refine ⟨_, rfl, rfl, ?_, ?_, ?_⟩
      all_goals simp only [Direction.sign, stop]; ring

/-- The expiry of an entry at the last bar is a date that a `datetime` can hold. -/
def Lasts (strategy : GoldTrendPullbackStrategy) (m5 : List Candle) : Prop :=
  ∀ latest, fromEnd m5 0 = .ok latest →
    candleCloseTime latest + Timeframe.m5.seconds * strategy.config.signalExpiryBars * 1000000 ≤ datetimeMax

theorem tradeSignal_cases (bars : Bars series.m5) (ranged : strategy.config.atrPeriod + 1 ≤ series.m5.length)
    {evaluation : DirectionEvaluation} (rationale : Rationale)
    (range : 0 ≤ evaluation.confidence.score ∧ evaluation.confidence.score ≤ 100) :
    (strategy.Lasts series.m5 ∧ ∃ latest evaluated, fromEnd series.m5 0 = .ok latest ∧
      strategy.tradeSignal series evaluation rationale = .ok evaluated ∧
      evaluated.confidenceScore = evaluation.confidence.score ∧
      evaluated.signal.direction = some evaluation.direction ∧
      (strategy.exactEntry evaluation.direction series.m5 latest).rounded.ShownBy evaluated.signal) ∨
    (¬ strategy.Lasts series.m5 ∧ ∃ error, strategy.tradeSignal series evaluation rationale = .error error) := by
  obtain ⟨latest, latestFound⟩ := bars.latest
  obtain ⟨ranges, rangesMade, rangeFound⟩ := atrOf_available ranged
  obtain ⟨plan, planned, action, stop, first, second⟩ := entryPlan_ok evaluation.direction latest bars
  have zoned : strategy.rangeOf series.m5 * strategy.config.entryZoneAtrFraction = strategy.halfZone series.m5 := rfl
  by_cases held : candleCloseTime latest + Timeframe.m5.seconds * strategy.config.signalExpiryBars * 1000000 ≤
      datetimeMax
  · have lasts : strategy.Lasts series.m5 := by
      intro other found
      cases latestFound.symm.trans found
      exact held
    have lasting : ∀ expiry, some (candleCloseTime latest +
        Timeframe.m5.seconds * strategy.config.signalExpiryBars * 1000000) = some expiry →
        candleCloseTime latest < expiry := by
      rintro _ ⟨⟩
      have bars : 0 < strategy.config.signalExpiryBars := strategy.config.periods_pos _ (by simp)
      exact Int.lt_add_of_pos_right _ (by simp only [Timeframe.seconds]; omega)
    have ordered : decimal (latest.close - strategy.halfZone series.m5) ≤
        decimal (latest.close + strategy.halfZone series.m5) := by
      have zone : 0 ≤ strategy.halfZone series.m5 :=
        mul_nonneg (rangeOf_nonneg _ _) (strategy.config.distances_pos _ (by simp)).le
      exact decimal_mono (by linarith)
    refine .inl ⟨lasts, latest, _, latestFound, by
      simp only [tradeSignal, latestFound, rangesMade, latestOf_eq rangeFound, ok_bind]
      rw [zoned, planned, ok_bind, expiryAfter, if_pos held, ok_bind, TradeSignal.make, dif_pos lasting, if_pos range,
        dif_pos (by simp), dif_pos (by simpa using fun _ => ordered)]
      rfl, rfl, ?_, rfl, rfl, ?_, ?_⟩
    · simp only [TradeSignal.direction, action]
      cases evaluation.direction <;> rfl
    · rw [stop]
      rfl
    · simp only [first, second]
      rfl
  · refine .inr ⟨fun lasts => held (lasts latest latestFound), _, by
      simp only [tradeSignal, latestFound, rangesMade, latestOf_eq rangeFound, ok_bind]
      rw [zoned, planned, ok_bind, expiryAfter, if_neg held]
      rfl⟩

theorem waitOrExit_ok (strategy : GoldTrendPullbackStrategy) (bars : Bars series.m5) {action : SignalAction}
    (aside : action.isEntry = false)
    {confidence : Int} (range : 0 ≤ confidence ∧ confidence ≤ 100) (rationale : Rationale) :
    ∃ evaluated, strategy.waitOrExit series action confidence rationale = .ok evaluated ∧
      evaluated.confidenceScore = confidence ∧ evaluated.signal.action = action := by
  obtain ⟨latest, latestFound⟩ := bars.latest
  exact ⟨_, by
    simp only [waitOrExit, latestFound, ok_bind]
    rw [TradeSignal.make, dif_pos (by simp), if_pos range, dif_pos (by simp [aside]), dif_pos (by simp)]
    rfl, rfl, rfl⟩

/-! ## Decisions -/

def Qualifies (strategy : GoldTrendPullbackStrategy) (evaluation : DirectionEvaluation) : Prop :=
  evaluation.h1Trend = true ∧ evaluation.m15Pullback = true ∧ evaluation.m5Confirmation = true ∧
    0 < evaluation.spreadQuality ∧ strategy.config.confidenceThreshold ≤ evaluation.confidence.score

instance (strategy : GoldTrendPullbackStrategy) (evaluation : DirectionEvaluation) :
    Decidable (strategy.Qualifies evaluation) :=
  inferInstanceAs (Decidable (_ ∧ _))

inductive Decided (strategy : GoldTrendPullbackStrategy) (m5 : List Candle) (openDirection : Option Direction)
    (chosen : DirectionEvaluation) (evaluated : EvaluatedSignal) : Prop
  | aside (action : evaluated.signal.action.isEntry = false)
      (unqualified : openDirection = none → ¬ strategy.Qualifies chosen)
  | entered {latest : Candle} (qualifies : strategy.Qualifies chosen) (found : fromEnd m5 0 = .ok latest)
      (direction : evaluated.signal.direction = some chosen.direction)
      (shown : (strategy.exactEntry chosen.direction m5 latest).rounded.ShownBy evaluated.signal)
      (lasts : strategy.Lasts m5)

/-- An entry is due that no `datetime` can date. -/
structure Undated (strategy : GoldTrendPullbackStrategy) (m5 : List Candle) (openDirection : Option Direction)
    (chosen : DirectionEvaluation) : Prop where
  free : openDirection = none
  qualifies : strategy.Qualifies chosen
  endless : ¬ strategy.Lasts m5

theorem Decided.not_undated {m5 : List Candle} {openDirection : Option Direction} {chosen : DirectionEvaluation}
    {evaluated : EvaluatedSignal} (decided : strategy.Decided m5 openDirection chosen evaluated) :
    ¬ strategy.Undated m5 openDirection chosen := by
  rintro ⟨free, qualifies, endless⟩
  cases decided with
  | aside _ unqualified => exact unqualified free qualifies
  | entered _ _ _ _ lasts => exact endless lasts

theorem decide_cases (bars : Bars series.m5) (ranged : strategy.config.atrPeriod + 1 ≤ series.m5.length)
    {long short : DirectionEvaluation} {context : EvaluationContext}
    (directions : strategy.Directions series long short context) (openDirection : Option Direction)
    (rationale : Rationale) :
    (∃ evaluated, strategy.decide series openDirection long short rationale = .ok evaluated ∧
      (0 ≤ evaluated.confidenceScore ∧ evaluated.confidenceScore ≤ 100) ∧
      strategy.Decided series.m5 openDirection (selected long short) evaluated) ∨
    strategy.Undated series.m5 openDirection (selected long short) ∧
      ∃ error, strategy.decide series openDirection long short rationale = .error error := by
  have chosenRange : 0 ≤ (selected long short).confidence.score ∧ (selected long short).confidence.score ≤ 100 := by
    unfold selected
    split
    · exact directions.long.range
    · exact directions.short.range
  -- a wait or an exit keeps its score, and is no entry
  have aside : ∀ {action : SignalAction} {confidence : Int} (rationale : Rationale), action.isEntry = false →
      0 ≤ confidence ∧ confidence ≤ 100 → (openDirection = none → ¬ strategy.Qualifies (selected long short)) →
      (∃ evaluated, strategy.waitOrExit series action confidence rationale = .ok evaluated ∧
        (0 ≤ evaluated.confidenceScore ∧ evaluated.confidenceScore ≤ 100) ∧
        strategy.Decided series.m5 openDirection (selected long short) evaluated) ∨
      strategy.Undated series.m5 openDirection (selected long short) ∧
        ∃ error, strategy.waitOrExit series action confidence rationale = .error error := by
    intro action confidence rationale waits range unqualified
    obtain ⟨evaluated, made, score, same⟩ := waitOrExit_ok strategy bars waits range rationale
    exact .inl ⟨evaluated, made, score ▸ range, .aside (same ▸ waits) unqualified⟩
  unfold decide
  split
  next holding => exact aside _ rfl directions.short.range (by simp [holding.1])
  next =>
    split
    next holding => exact aside _ rfl directions.long.range (by simp [holding.1])
    next =>
      split
      next holding =>
        have longRange := directions.long.range
        have shortRange := directions.short.range
        exact aside _ rfl (by omega) (by rintro rfl; cases holding)
      next flat =>
        dsimp only
        split
        next met =>
          simp only [Bool.and_eq_true, decide_eq_true_eq] at met
          have qualifies : strategy.Qualifies (selected long short) :=
            ⟨met.1.1.1.1, met.1.1.1.2, met.1.1.2, met.1.2, met.2⟩
          rcases tradeSignal_cases bars ranged
            { rationale with
              selectedDirection := some (selected long short).direction
              entryConfirmations := (selected long short).confirmationNames } chosenRange with
            ⟨lasts, latest, evaluated, found, made, score, direction, shown⟩ | ⟨endless, raised⟩
          · exact .inl ⟨evaluated, made, score ▸ chosenRange, .entered qualifies found direction shown lasts⟩
          · exact .inr ⟨⟨by simpa using flat, qualifies, endless⟩, raised⟩
        next unmet =>
          apply aside _ rfl chosenRange
          rintro - ⟨trend, pullback, confirmation, spread, score⟩
          simp [trend, pullback, confirmation, spread, score] at unmet

variable {asOf : Option Instant}

theorem closedCandles_ok {candles : List Candle} (given : CandleSeries candles)
    (closed : ∃ candle ∈ candles, closedAt asOf candle = true) (useClosedCandlesOnly : Bool) :
    ∃ kept, closedCandles candles asOf useClosedCandlesOnly = .ok kept ∧ Bars kept := by
  have checked := validateCandleSequence_eq_ok.mpr ⟨given.valid, rfl⟩
  refine ⟨_, bind_eq_ok.mpr ⟨_, checked, rfl⟩, given.valid.sublist List.filter_sublist, ?_⟩
  obtain ⟨candle, member, closed⟩ := closed
  simp only [closedAt, Bool.and_eq_true] at closed
  apply List.ne_nil_of_mem (a := candle)
  simp only [List.mem_filter, List.mem_insertionSort, member, true_and]
  cases useClosedCandlesOnly with
  | true => simpa using closed
  | false =>
    cases asOf with
    | none => rfl
    | some time =>
      have known : candleCloseTime candle ≤ time := by simpa using closed.1
      simpa using (timestamp_lt_candleCloseTime candle).le.trans known

/-- Three series of one symbol each with a closed bar; every bar closes at a date that a `datetime` can hold. -/
def ValidData (asOf : Option Instant) (candles : Timeframe → Option (List Candle)) : Prop :=
  ∀ timeframe ∈ required, ∃ given, candles timeframe = some given ∧ CandleSeries given ∧
    (∀ candle ∈ given, candleCloseTime candle ≤ datetimeMax) ∧ ∃ candle ∈ given, closedAt asOf candle = true

theorem prepare_ok (strategy : GoldTrendPullbackStrategy) {candles : Timeframe → Option (List Candle)}
    (valid : ValidData asOf candles) :
    ∃ series, strategy.prepare candles asOf = .ok series ∧ SelectedBars series := by
  have closed : ∀ timeframe ∈ required, ∃ kept, closedCandles ((candles timeframe).getD []) asOf
      strategy.config.useClosedCandlesOnly = .ok kept ∧ Bars kept := by
    intro timeframe needed
    obtain ⟨given, present, series, _, bar⟩ := valid timeframe needed
    rw [present, Option.getD_some]
    exact closedCandles_ok series bar _
  have missing : (required.filter fun timeframe => (candles timeframe).isNone) = [] := by
    rw [List.filter_eq_nil_iff]
    intro timeframe needed
    obtain ⟨given, present, _⟩ := valid timeframe needed
    simp [present]
  obtain ⟨h1, h1Made, h1Bars⟩ := closed .h1 (by simp [required])
  obtain ⟨m15, m15Made, m15Bars⟩ := closed .m15 (by simp [required])
  obtain ⟨m5, m5Made, m5Bars⟩ := closed .m5 (by simp [required])
  refine ⟨⟨h1, m15, m5⟩, ?_, h1Bars, m15Bars, m5Bars⟩
  simp only [prepare, missing, h1Made, m15Made, m5Made]
  rfl

theorem evaluate_warming {candles : Timeframe → Option (List Candle)} (bars : SelectedBars series)
    (prepared : strategy.prepare candles asOf = .ok series) (warming : strategy.hasHistory series = false)
    (openDirection : Option Direction) :
    ∃ evaluated, strategy.evaluate candles asOf openDirection = .ok evaluated ∧
      0 ≤ evaluated.confidenceScore ∧ evaluated.confidenceScore ≤ 100 := by
  have zero : (0 : Int) ≤ 0 ∧ (0 : Int) ≤ 100 := by decide
  obtain ⟨evaluated, made, score, _⟩ := waitOrExit_ok strategy bars.m5
    (rfl : SignalAction.wait.isEntry = false) zero { reason := some "INDICATOR_WARMUP" }
  refine ⟨evaluated, ?_, score ▸ zero⟩
  simp [evaluate, prepared, ok_bind, evaluateSeries, PerTimeframe.values, bars.h1.nonempty, bars.m15.nonempty,
    bars.m5.nonempty, warming, made]

theorem prepare_valid {candles : Timeframe → Option (List Candle)}
    (prepared : strategy.prepare candles asOf = .ok series) :
    ValidSequence series.h1 ∧ ValidSequence series.m15 ∧ ValidSequence series.m5 := by
  have valid : ∀ {given kept : List Candle}, closedCandles given asOf strategy.config.useClosedCandlesOnly = .ok kept →
      ValidSequence kept := by
    intro given kept closed
    obtain ⟨_, checked, same⟩ := bind_eq_ok.mp closed
    cases same
    exact (validateCandleSequence_eq_ok.mp checked).1.sublist List.filter_sublist
  simp only [prepare] at prepared
  split at prepared
  next => cases prepared
  next =>
    obtain ⟨h1, h1Made, prepared⟩ := bind_eq_ok.mp prepared
    obtain ⟨m15, m15Made, prepared⟩ := bind_eq_ok.mp prepared
    obtain ⟨m5, m5Made, same⟩ := bind_eq_ok.mp prepared
    cases same
    exact ⟨valid h1Made, valid m15Made, valid m5Made⟩

theorem History.nonempty (history : strategy.History series) : series.h1 ≠ [] ∧ series.m15 ≠ [] ∧ series.m5 ≠ [] := by
  have slow : 0 < strategy.config.emaSlowPeriod := strategy.config.periods_pos _ (by simp)
  have h1 := history.slope
  have m15 := history.slow
  have m5 := history.broken
  simp only [ne_eq, ← List.length_eq_zero_iff]
  omega

theorem SelectedBars.of_history {candles : Timeframe → Option (List Candle)}
    (prepared : strategy.prepare candles asOf = .ok series) (history : strategy.History series) :
    SelectedBars series :=
  ⟨⟨(prepare_valid prepared).1, history.nonempty.1⟩, ⟨(prepare_valid prepared).2.1, history.nonempty.2.1⟩,
    ⟨(prepare_valid prepared).2.2, history.nonempty.2.2⟩⟩

theorem evaluate_decided {candles : Timeframe → Option (List Candle)}
    (prepared : strategy.prepare candles asOf = .ok series)
    (history : strategy.hasHistory series = true) (openDirection : Option Direction) :
    ∃ long short context, strategy.evaluateDirections series = .ok (long, short, context) ∧
      strategy.Directions series long short context ∧
      ((∃ evaluated, strategy.evaluate candles asOf openDirection = .ok evaluated ∧
        (0 ≤ evaluated.confidenceScore ∧ evaluated.confidenceScore ≤ 100) ∧
        strategy.Decided series.m5 openDirection (selected long short) evaluated) ∨
      strategy.Undated series.m5 openDirection (selected long short) ∧
        ∃ error, strategy.evaluate candles asOf openDirection = .error error) := by
  have known := History.of_hasHistory history
  have bars := SelectedBars.of_history prepared known
  obtain ⟨long, short, context, made, directions⟩ := evaluateDirections_ok bars known
  obtain ⟨h1, m15, m5⟩ := known.nonempty
  have reached : strategy.evaluate candles asOf openDirection = strategy.decide series openDirection long short
      { evaluation := some (context, long.confidence, short.confidence) } := by
    simp [evaluate, prepared, evaluateSeries, PerTimeframe.values, h1, m15, m5, history, made, ok_bind]
  rw [reached]
  exact ⟨long, short, context, made, directions, decide_cases bars.m5 known.volatile directions openDirection _⟩

namespace Demo

open BacktestEngine.Demo (bar)

def shortPeriods (riskReward : Decimal) (positive : 0 < riskReward ∧ riskReward ≤ 2) : GoldTrendPullbackStrategy where
  config :=
    { Demo.strategy.config with
      emaFastPeriod := 2, emaSlowPeriod := 3, emaLongPeriod := 4, emaSlopeLookback := 1, rsiPeriod := 1, atrPeriod := 1
      structureLeftSpan := 1, structureRightSpan := 1, breakoutLookback := 1, spreadAveragePeriod := 1
      minimumRiskReward := riskReward, riskReward_ordered := positive
      periods_pos := by decide, periods_ordered := by decide }
  uuid5 := Demo.strategy.uuid5
  isoformat := Demo.strategy.isoformat

def quick : GoldTrendPullbackStrategy := shortPeriods (18 / 10) Demo.strategy.config.riskReward_ordered

def rising : Timeframe → Option (List Candle)
  | .h1 => some [bar .h1 0 10 11, bar .h1 60 12 13, bar .h1 120 11 12, bar .h1 180 13 14, bar .h1 240 12 13,
      bar .h1 300 14 15, bar .h1 360 15 16, bar .h1 420 16 17, bar .h1 480 17 18]
  | .m15 => some [bar .m15 0 10 11, bar .m15 15 11 12, bar .m15 30 12 13]
  | .m5 => some [bar .m5 0 10 11, bar .m5 5 11 12, bar .m5 10 13 14]
  | _ => none

theorem rising_valid : ValidData none rising := by
  simp only [ValidData, required, List.forall_mem_cons]
  refine ⟨⟨_, rfl, ⟨?_, ?_⟩, ?_, _, List.mem_cons_self, rfl⟩, ⟨_, rfl, ⟨?_, ?_⟩, ?_, _, List.mem_cons_self, rfl⟩,
    ⟨_, rfl, ⟨?_, ?_⟩, ?_, _, List.mem_cons_self, rfl⟩, by simp⟩
  all_goals simp [bar, candleCloseTime, Timeframe.seconds, datetimeMax]

/-- The quick strategy with entries that last for `bars` bars. -/
def lasting (bars : Nat) (positive : 0 < bars) : GoldTrendPullbackStrategy :=
  { quick with
    config :=
      { quick.config with
        signalExpiryBars := bars
        periods_pos := by simpa [quick, shortPeriods] using positive } }

theorem quick_lasts (prepared : quick.prepare rising none = .ok series) :
    quick.hasHistory series = true ∧ quick.Lasts series.m5 := by
  have known : (quick.prepare rising none).toOption.all (fun series => quick.hasHistory series &&
      (fromEnd series.m5 0).toOption.all fun latest =>
        candleCloseTime latest + Timeframe.m5.seconds * quick.config.signalExpiryBars * 1000000 ≤ datetimeMax) =
      true := by
    decide +kernel
  simp only [prepared, Except.toOption, Option.all_some, Bool.and_eq_true] at known
  refine ⟨known.1, fun latest found => ?_⟩
  simpa [found, Except.toOption] using known.2

end Demo

open GoldTrendPullbackStrategy.Demo

/-- The selected bars qualify for an entry in the direction that scores best. -/
def EntryDue (strategy : GoldTrendPullbackStrategy) (series : PerTimeframe (List Candle)) : Prop :=
  strategy.hasHistory series = true ∧ ∃ long short context,
    strategy.evaluateDirections series = .ok (long, short, context) ∧ strategy.Qualifies (selected long short)

/-- **The strategy answers on valid data**, with a score between 0 and 100, unless an entry is due that expires after
the last date that a `datetime` can hold. -/
theorem evaluate_answers (strategy : GoldTrendPullbackStrategy) (candles : Timeframe → Option (List Candle))
    (asOf : Option Instant) (openDirection : Option Direction) (valid : ValidData asOf candles) :
    ∃ series, strategy.prepare candles asOf = .ok series ∧
      (strategy.hasHistory series = true → ∃ directions, strategy.evaluateDirections series = .ok directions) ∧
      ((∃ evaluated, strategy.evaluate candles asOf openDirection = .ok evaluated ∧
        0 ≤ evaluated.confidenceScore ∧ evaluated.confidenceScore ≤ 100) ↔
      strategy.Lasts series.m5 ∨ openDirection.isSome = true ∨ ¬ strategy.EntryDue series) := by
  obtain ⟨series, prepared, bars⟩ := strategy.prepare_ok valid
  refine ⟨series, prepared, fun history => ?_, ?_⟩
  · obtain ⟨long, short, context, made, _⟩ := evaluateDirections_ok bars (.of_hasHistory history)
    exact ⟨_, made⟩
  · cases history : strategy.hasHistory series with
    | false =>
      exact iff_of_true (evaluate_warming bars prepared history openDirection)
        (.inr (.inr (by simp [EntryDue, history])))
    | true =>
      obtain ⟨long, short, context, made, _, outcome⟩ := evaluate_decided prepared history openDirection
      have due : strategy.EntryDue series ↔ strategy.Qualifies (selected long short) := by
        simp [EntryDue, history, made]
      rw [due]
      rcases outcome with ⟨evaluated, answered, range, decided⟩ | ⟨undated, error, raised⟩
      · refine iff_of_true ⟨evaluated, answered, range⟩ ?_
        by_contra other
        simp only [not_or, not_not, Bool.not_eq_true, Option.isSome_eq_false_iff, Option.isNone_iff_eq_none] at other
        exact decided.not_undated ⟨other.2.1, other.2.2, other.1⟩
      · obtain ⟨rfl, qualifies, endless⟩ := undated
        simp [raised, qualifies, endless]

theorem evaluate_answers_rising : ∃ series evaluated, quick.prepare Demo.rising none = .ok series ∧
    quick.hasHistory series = true ∧ quick.Lasts series.m5 ∧
    quick.evaluate Demo.rising none none = .ok evaluated ∧ evaluated.confidenceScore ≤ 100 := by
  obtain ⟨series, prepared, _, answers⟩ := evaluate_answers quick Demo.rising none none rising_valid
  obtain ⟨history, lasts⟩ := quick_lasts prepared
  obtain ⟨evaluated, answered, _, most⟩ := answers.mpr (.inl lasts)
  exact ⟨series, evaluated, prepared, history, lasts, answered, most⟩

/-- The first expiry past the year 9999. -/
theorem endless_entry_raises : ValidData none Demo.rising ∧
    ((lasting 844674332 (by decide)).evaluate Demo.rising none none).map (·.signal.action) = .ok .long ∧
    ((lasting 844674333 (by decide)).evaluate Demo.rising none none).map (·.signal.action) =
      .error (.other "OverflowError" "date value out of range") :=
  ⟨rising_valid, by decide +kernel, by decide +kernel⟩

/-! ## Qualified directions -/

theorem direction_iff_action (signal : TradeSignal) :
    (signal.direction = some .long ↔ signal.action = .long) ∧
      (signal.direction = some .short ↔ signal.action = .short) := by
  unfold TradeSignal.direction
  cases signal.action <;> simp

/-- Without an open position a direction is shown exactly if it is the chosen one and qualifies. -/
theorem Decided.direction_iff {m5 : List Candle} {chosen : DirectionEvaluation} {evaluated : EvaluatedSignal}
    (decided : strategy.Decided m5 none chosen evaluated) (direction : Direction) :
    evaluated.signal.direction = some direction ↔ strategy.Qualifies chosen ∧ chosen.direction = direction := by
  cases decided with
  | aside action unqualified =>
    have shows : evaluated.signal.direction ≠ some direction := by
      unfold TradeSignal.direction
      cases entry : evaluated.signal.action <;> simp_all [SignalAction.isEntry]
    exact iff_of_false shows fun chosen => unqualified rfl chosen.1
  | entered qualifies _ same => simp [same, qualifies]

/-- With the default weights a qualified direction scores at least 90, one without the trend at most 70. -/
theorem Sound.score_lt {weights : PerFactor Nat} {direction other : Direction}
    {confirmations others : List Confirmation} {first second : DirectionEvaluation}
    (defaults : weights = ⟨30, 25, 25, 10, 5, 5⟩) (sound : Sound weights direction confirmations first)
    (trendless : Sound weights other others second) (qualifies : strategy.Qualifies first)
    (against : second.h1Trend = false) : second.confidence.score < first.confidence.score := by
  have least := sound.qualified qualifies.1 qualifies.2.1 qualifies.2.2.1
  have most := trendless.trendless against
  simp only [defaults] at least most
  omega

theorem Directions.chosen_iff {long short : DirectionEvaluation} {context : EvaluationContext}
    (defaults : strategy.config.weights.weights = ⟨30, 25, 25, 10, 5, 5⟩)
    (directions : strategy.Directions series long short context) :
    (strategy.Qualifies (selected long short) ∧ (selected long short).direction = .long ↔ strategy.Qualifies long) ∧
      (strategy.Qualifies (selected long short) ∧ (selected long short).direction = .short ↔
        strategy.Qualifies short) := by
  unfold selected
  split
  next atLeast =>
    have hidden : ¬ strategy.Qualifies short := by
      intro qualifies
      have falls : long.h1Trend = false := by simpa using fun rising => directions.exclusive ⟨rising, qualifies.1⟩
      exact absurd atLeast (not_le.mpr (directions.short.score_lt defaults directions.long qualifies falls))
    simp [directions.long.direction, hidden]
  next less =>
    have hidden : ¬ strategy.Qualifies long := by
      intro qualifies
      have rises : short.h1Trend = false := by simpa using fun falling => directions.exclusive ⟨qualifies.1, falling⟩
      exact less (directions.long.score_lt defaults directions.short qualifies rises).le
    simp [directions.short.direction, hidden]

/-- **Ranking by confidence hides no qualified setup.** -/
theorem qualified_never_hidden (strategy : GoldTrendPullbackStrategy)
    (defaults : strategy.config.weights.weights = ⟨30, 25, 25, 10, 5, 5⟩)
    {candles : Timeframe → Option (List Candle)} {asOf : Option Instant} {series : PerTimeframe (List Candle)}
    (prepared : strategy.prepare candles asOf = .ok series) (history : strategy.hasHistory series = true)
    (lasts : strategy.Lasts series.m5) :
    ∃ long short context evaluated, strategy.evaluateDirections series = .ok (long, short, context) ∧
      strategy.evaluate candles asOf none = .ok evaluated ∧
      (evaluated.signal.action = .long ↔ strategy.Qualifies long) ∧
      (evaluated.signal.action = .short ↔ strategy.Qualifies short) ∧
      ¬ (strategy.Qualifies long ∧ strategy.Qualifies short) := by
  obtain ⟨long, short, context, made, directions, ⟨evaluated, answered, _, decided⟩ | ⟨undated, _⟩⟩ :=
    evaluate_decided prepared history none
  · obtain ⟨isLong, isShort⟩ := direction_iff_action evaluated.signal
    obtain ⟨longChosen, shortChosen⟩ := directions.chosen_iff defaults
    refine ⟨long, short, context, evaluated, made, answered, ?_, ?_, ?_⟩
    · rw [← isLong, decided.direction_iff, longChosen]
    · rw [← isShort, decided.direction_iff, shortChosen]
    · exact fun both => directions.exclusive ⟨both.1.1, both.2.1⟩
  · exact absurd lasts undated.endless

/-- On the rising market the long side qualifies. -/
theorem qualified_never_hidden_rising : ∃ series long short context evaluated,
    quick.prepare Demo.rising none = .ok series ∧
    quick.evaluateDirections series = .ok (long, short, context) ∧
    quick.evaluate Demo.rising none none = .ok evaluated ∧ evaluated.signal.action = .long ∧
    quick.Qualifies long := by
  obtain ⟨series, prepared, _⟩ := quick.prepare_ok rising_valid
  obtain ⟨history, lasts⟩ := quick_lasts prepared
  obtain ⟨long, short, context, evaluated, made, answered, isLong, _⟩ :=
    qualified_never_hidden quick rfl prepared history lasts
  have entered : (quick.evaluate Demo.rising none none).map (·.signal.action) = .ok .long := by decide +kernel
  rw [answered] at entered
  have entry : evaluated.signal.action = .long := Except.ok.inj entered
  exact ⟨series, long, short, context, evaluated, prepared, made, answered, entry, isLong.mp entry⟩

/-- The long side qualifies, and is hidden by an expiry past the year 9999. -/
theorem qualified_entry_raises : let strategy := lasting (10 ^ 9) (by decide)
    (∃ series directions, strategy.prepare Demo.rising none = .ok series ∧ strategy.hasHistory series = true ∧
      strategy.evaluateDirections series = .ok directions ∧ strategy.Qualifies directions.1) ∧
    (strategy.evaluate Demo.rising none none).map (·.signal.action) =
      .error (.other "OverflowError" "date value out of range") := by
  intro strategy
  have known : (strategy.prepare Demo.rising none).toOption.any (fun series => strategy.hasHistory series &&
      (strategy.evaluateDirections series).toOption.any (strategy.Qualifies ·.1)) = true := by decide +kernel
  obtain ⟨series, prepared, known⟩ := ok_of_any known
  rw [Bool.and_eq_true] at known
  obtain ⟨directions, made, qualifies⟩ := ok_of_any known.2
  exact ⟨⟨series, directions, prepared, known.1, made, of_decide_eq_true qualifies⟩, by decide +kernel⟩

end GoldTrendPullbackStrategy

end GoldFlow
