import GoldFlow.Risk.Gates
import GoldFlow.Verified.StrategyAnswers

/-! # The zone of an entry -/

namespace GoldFlow

open BacktestEngine.Demo (bar)
open Data Indicators MarketStructure

namespace GoldTrendPullbackStrategy

variable {strategy : GoldTrendPullbackStrategy} {candles : List Candle} {price : Decimal} {direction : Direction}
  {entry : Entry}

/-! ## Confirmations show a move -/

theorem rises_flat {prices : List Decimal} (flat : ∀ other ∈ prices, other = price) :
    rises prices = false ∧ falls prices = false := by
  have reversed : ∀ other ∈ prices.reverse, other = price := by simpa using flat
  unfold rises falls
  split
  next last previous rest same =>
    simp only [same, List.forall_mem_cons] at reversed
    simp [reversed.1, reversed.2.1]
  next => exact ⟨rfl, rfl⟩

theorem unconfirmed_of_still (bars : Bars candles)
    (still : ∀ candle ∈ candles, candle.high = price ∧ candle.low = price) {context : ConfirmationContext}
    (made : strategy.confirmationFlags candles = .ok context) :
    context.longConfirmations = [] ∧ context.shortConfirmations = [] := by
  have inside : ∀ {offset : Nat} {candle : Candle}, fromEnd candles offset = .ok candle →
      candle.open = price ∧ candle.close = price := by
    intro offset candle found
    have member : candle ∈ candles := by
      simpa using List.mem_of_getElem? (fromEnd_eq_ok.mp found)
    obtain ⟨high, low⟩ := still candle member
    have upper := candle.high_highest
    have lower := candle.low_lowest
    simp only [high, low, max_le_iff, le_min_iff] at upper lower
    exact ⟨le_antisymm upper.1.1 lower.1.1, le_antisymm upper.1.2 lower.1.2⟩
  obtain ⟨previous, previousFound, made⟩ := bind_eq_ok.mp made
  obtain ⟨latest, latestFound, made⟩ := bind_eq_ok.mp made
  rw [structureOf_eq bars, ok_bind] at made
  obtain ⟨previousOpen, previousClose⟩ := inside previousFound
  obtain ⟨latestOpen, latestClose⟩ := inside latestFound
  have swings : ∀ kind, ∀ other ∈ pricesOf kind (foundSwings candles strategy.config.structureLeftSpan
      strategy.config.structureRightSpan), other = price := by
    intro kind other member
    simp only [pricesOf, List.mem_map, List.mem_filter] at member
    obtain ⟨swing, ⟨found, _⟩, rfl⟩ := member
    obtain ⟨index, _, found⟩ := List.mem_flatMap.mp found
    obtain ⟨candidate, placed, _, same⟩ := mem_swingsAt.mp found
    rw [same]
    obtain ⟨high, low⟩ := still candidate (List.mem_of_getElem? placed)
    cases swing.kind
    · exact high
    · exact low
  have earlier : ∀ candle ∈ lastOf strategy.config.breakoutLookback candles.dropLast,
      candle.high = price ∧ candle.low = price :=
    fun candle member => still candle (List.dropLast_subset _ (List.mem_of_mem_drop member))
  have highest : ((lastOf strategy.config.breakoutLookback candles.dropLast).map (·.high)).max?.any (· < price) =
      false := by
    cases found : ((lastOf strategy.config.breakoutLookback candles.dropLast).map (·.high)).max? with
    | none => rfl
    | some =>
      obtain ⟨candle, member, rfl⟩ := List.mem_map.mp (List.max?_mem found)
      simp [(earlier candle member).1]
  have lowest : ((lastOf strategy.config.breakoutLookback candles.dropLast).map (·.low)).min?.any (price < ·) =
      false := by
    cases found : ((lastOf strategy.config.breakoutLookback candles.dropLast).map (·.low)).min? with
    | none => rfl
    | some =>
      obtain ⟨candle, member, rfl⟩ := List.mem_map.mp (List.min?_mem found)
      simp [(earlier candle member).2]
  cases made
  simp [confirmed, bullishEngulfing, bearishEngulfing, rejection, analysisOf, latestOpen,
    latestClose, highest, lowest, rises_flat (swings _)]

/-! ## The entry of a signal -/

def Unmoved (strategy : GoldTrendPullbackStrategy) (previous latest : Candle) : Prop :=
  strategy.config.atrPeriod = 1 ∧ latest.high = previous.close ∧ latest.low = previous.close

structure Entered (strategy : GoldTrendPullbackStrategy) (direction : Direction) (signal : TradeSignal)
    (m5 : List Candle) (previous latest : Candle) : Prop where
  shown : (strategy.exactEntry direction m5 latest).rounded.ShownBy signal
  range : strategy.rangeOf m5 = 0 ↔ strategy.Unmoved previous latest

theorem entered_of_direction {candles : Timeframe → Option (List Candle)} {asOf : Option Instant}
    {openDirection : Option Direction} {evaluated : EvaluatedSignal}
    (answered : strategy.evaluate candles asOf openDirection = .ok evaluated)
    (entry : evaluated.signal.direction = some direction) :
    ∃ series earlier previous latest, strategy.prepare candles asOf = .ok series ∧
      series.m5 = earlier ++ [previous, latest] ∧
      strategy.Entered direction evaluated.signal series.m5 previous latest := by
  -- a signal that is no entry has no direction
  have waits : ∀ {signal : TradeSignal}, signal.action.isEntry = false → signal.direction ≠ some direction := by
    intro signal aside shown
    unfold TradeSignal.direction at shown
    cases action : signal.action <;> simp_all [SignalAction.isEntry]
  obtain ⟨series, prepared, decided⟩ := bind_eq_ok.mp answered
  have history : strategy.hasHistory series = true := by
    by_contra warming
    unfold evaluateSeries at decided
    split at decided
    next => cases decided
    next =>
      rw [if_pos (by simpa using warming)] at decided
      obtain ⟨latest, _, decided⟩ := bind_eq_ok.mp decided
      obtain ⟨signal, made, same⟩ := bind_eq_ok.mp decided
      cases same
      rw [TradeSignal.make, dif_pos (by simp), if_pos (by simp), dif_pos (by simp [SignalAction.isEntry]),
        dif_pos (by simp)] at made
      cases made
      exact waits rfl entry
  have known := History.of_hasHistory history
  have bars := SelectedBars.of_history prepared known
  obtain ⟨long, short, context, _, directions, ⟨_, again, _, decision⟩ | ⟨_, _, raised⟩⟩ :=
    evaluate_decided prepared history openDirection
  swap
  · cases answered.symm.trans raised
  cases answered.symm.trans again
  obtain ⟨earlier, previous, latest, whole⟩ : ∃ earlier previous latest, series.m5 = earlier ++ [previous, latest] := by
    have pair : 1 < series.m5.length := by
      have broken := known.broken
      omega
    rcases List.eq_nil_or_concat series.m5 with none | ⟨front, latest, whole⟩
    · simp [none] at pair
    · rcases List.eq_nil_or_concat front with rfl | ⟨earlier, previous, rfl⟩
      · simp [whole] at pair
      · exact ⟨earlier, previous, latest, by simpa using whole⟩
  cases decision with
  | aside action => exact absurd entry (waits action)
  | @entered last qualifies found same shown =>
    obtain rfl : last = latest := by
      rw [whole, fromEnd_eq_ok] at found
      simpa using found.symm
    rw [same, Option.some.injEq] at entry
    rw [entry] at shown
    refine ⟨series, earlier, previous, last, prepared, whole, shown, ?_⟩
    -- a confirmed direction has a bar that moved
    have moved : ∃ range ∈ rangesOf series.m5, 0 < range := by
      by_contra unmoved
      obtain ⟨price, still⟩ := still_of_unmoved unmoved
      obtain ⟨longNone, shortNone⟩ := unconfirmed_of_still bars.m5 still directions.confirmations
      have confirmed := qualifies.2.2.1
      unfold selected at confirmed
      split at confirmed
      · simp [directions.long.confirmed, longNone] at confirmed
      · simp [directions.short.confirmed, shortNone] at confirmed
    rw [rangeOf, whole]
    rw [whole] at moved
    exact averageRange_eq_zero_iff (strategy.config.periods_pos _ (by simp)) moved

/-! ## The order of the prices -/

def Entry.Ordered (before : Decimal → Decimal → Prop) (entry : Entry) : Direction → Prop
  | .long => before entry.stop entry.entryMin ∧ before entry.entryMin entry.entryMax ∧
      ∀ target ∈ entry.targets, before entry.entryMax target
  | .short => (∀ target ∈ entry.targets, before target entry.entryMin) ∧ before entry.entryMin entry.entryMax ∧
      before entry.entryMax entry.stop

theorem Entry.Ordered.round (ordered : entry.Ordered (· < ·) direction) :
    entry.rounded.Ordered (· ≤ ·) direction := by
  cases direction with
  | long =>
    obtain ⟨stop, zone, targets⟩ := ordered
    refine ⟨decimal_mono stop.le, decimal_mono zone.le, ?_⟩
    exact List.forall_mem_map.mpr fun target member => decimal_mono (targets target member).le
  | short =>
    obtain ⟨targets, zone, stop⟩ := ordered
    refine ⟨?_, decimal_mono zone.le, decimal_mono stop.le⟩
    exact List.forall_mem_map.mpr fun target member => decimal_mono (targets target member).le

section Exact

variable (strategy) (direction : Direction) (m5 : List Candle) (latest : Candle)

theorem halfZone_pos_iff : 0 < strategy.halfZone m5 ↔ strategy.rangeOf m5 ≠ 0 := by
  have fraction : 0 < strategy.config.entryZoneAtrFraction := strategy.config.distances_pos _ (by simp)
  rw [halfZone, mul_pos_iff_of_pos_right fraction]
  exact (strategy.rangeOf_nonneg m5).lt_iff_ne'

theorem halfZone_le_risk : strategy.halfZone m5 ≤ strategy.riskDistance direction m5 latest := by
  have multiple : 0 < strategy.config.stopAtrMultiple := strategy.config.distances_pos _ (by simp)
  have nonneg := mul_nonneg (strategy.rangeOf_nonneg m5) multiple.le
  exact (le_add_of_nonneg_right nonneg).trans (le_max_right _ _)

theorem halfZone_lt_risk (moves : strategy.rangeOf m5 ≠ 0) :
    strategy.halfZone m5 < strategy.riskDistance direction m5 latest := by
  have multiple : 0 < strategy.config.stopAtrMultiple := strategy.config.distances_pos _ (by simp)
  have positive := mul_pos ((strategy.rangeOf_nonneg m5).lt_of_ne' moves) multiple
  exact (lt_add_of_pos_right _ positive).trans_le (le_max_right _ _)

theorem forall_targets {holds : Decimal → Prop} :
    (∀ target ∈ (strategy.exactEntry direction m5 latest).targets, holds target) ↔
    holds (latest.close + direction.sign *
      (strategy.riskDistance direction m5 latest * strategy.config.minimumRiskReward)) ∧
    holds (latest.close + direction.sign *
      (strategy.riskDistance direction m5 latest * strategy.config.preferredRiskReward)) := by
  simp only [exactEntry]
  split
  · simp
  next same => simp [not_not.mp same]

/-- The nearer target lies beyond the zone, by its distance or by the recent extreme. -/
def Spaced : Prop :=
  strategy.config.entryZoneAtrFraction <
      (strategy.config.entryZoneAtrFraction + strategy.config.stopAtrMultiple) * strategy.config.minimumRiskReward ∨
    strategy.halfZone m5 < strategy.structuralDistance direction m5 latest * strategy.config.minimumRiskReward

theorem halfZone_lt_reward_iff (moves : strategy.rangeOf m5 ≠ 0) :
    strategy.halfZone m5 < strategy.riskDistance direction m5 latest * strategy.config.minimumRiskReward ↔
      strategy.Spaced direction m5 latest := by
  have positive := (strategy.rangeOf_nonneg m5).lt_of_ne' moves
  rw [riskDistance, max_mul_of_nonneg _ _ strategy.config.riskReward_ordered.1.le, lt_max_iff, Spaced, or_comm]
  simp only [halfZone, ← mul_add, mul_assoc, mul_lt_mul_iff_right₀ positive]

theorem exactEntry_ordered_iff : (strategy.exactEntry direction m5 latest).Ordered (· < ·) direction ↔
    strategy.rangeOf m5 ≠ 0 ∧ strategy.Spaced direction m5 latest := by
  have ordered : (strategy.exactEntry direction m5 latest).Ordered (· < ·) direction ↔
      strategy.halfZone m5 < strategy.riskDistance direction m5 latest ∧ 0 < strategy.halfZone m5 ∧
      strategy.halfZone m5 < strategy.riskDistance direction m5 latest * strategy.config.minimumRiskReward ∧
      strategy.halfZone m5 < strategy.riskDistance direction m5 latest * strategy.config.preferredRiskReward := by
    cases direction with
    | long =>
      simp only [Entry.Ordered, forall_targets]
      simp only [exactEntry, Direction.sign]
      constructor
      · rintro ⟨stop, zone, first, second⟩
        exact ⟨by linarith, by linarith, by linarith, by linarith⟩
      · rintro ⟨stop, zone, first, second⟩
        exact ⟨by linarith, by linarith, by linarith, by linarith⟩
    | short =>
      simp only [Entry.Ordered, forall_targets]
      simp only [exactEntry, Direction.sign]
      constructor
      · rintro ⟨⟨first, second⟩, zone, stop⟩
        exact ⟨by linarith, by linarith, by linarith, by linarith⟩
      · rintro ⟨stop, zone, first, second⟩
        exact ⟨⟨by linarith, by linarith⟩, by linarith, by linarith⟩
  rw [ordered, halfZone_pos_iff]
  constructor
  · rintro ⟨_, moves, first, _⟩
    exact ⟨moves, (strategy.halfZone_lt_reward_iff direction m5 latest moves).mp first⟩
  · rintro ⟨moves, spaced⟩
    have stop := strategy.halfZone_lt_risk direction m5 latest moves
    have first := (strategy.halfZone_lt_reward_iff direction m5 latest moves).mpr spaced
    have risk := ((strategy.halfZone_pos_iff m5).mpr moves).trans stop
    exact ⟨stop, moves, first,
      first.trans_le (mul_le_mul_of_nonneg_left strategy.config.riskReward_ordered.2 risk.le)⟩

end Exact

/-- **When a signal is well formed**: the average true range sees a move and the targets are spaced from the
zone. -/
theorem signal_ordered_iff (strategy : GoldTrendPullbackStrategy) {candles : Timeframe → Option (List Candle)}
    {asOf : Option Instant} {openDirection : Option Direction} {evaluated : EvaluatedSignal} {direction : Direction}
    (answered : strategy.evaluate candles asOf openDirection = .ok evaluated)
    (entry : evaluated.signal.direction = some direction) :
    ∃ series earlier previous latest, strategy.prepare candles asOf = .ok series ∧
      series.m5 = earlier ++ [previous, latest] ∧
      (strategy.exactEntry direction series.m5 latest).rounded.ShownBy evaluated.signal ∧
      ((strategy.exactEntry direction series.m5 latest).Ordered (· < ·) direction ∧
          (strategy.exactEntry direction series.m5 latest).rounded.Ordered (· ≤ ·) direction ↔
        ¬ strategy.Unmoved previous latest ∧ strategy.Spaced direction series.m5 latest) := by
  obtain ⟨series, earlier, previous, latest, prepared, whole, entered⟩ := entered_of_direction answered entry
  refine ⟨series, earlier, previous, latest, prepared, whole, entered.shown, ?_⟩
  rw [← entered.range, ← ne_eq, ← exactEntry_ordered_iff]
  exact ⟨And.left, fun ordered => ⟨ordered, ordered.round⟩⟩

/-- On the rising market the entry is well formed. -/
theorem signal_ordered_rising : ∃ series evaluated latest, Demo.quick.prepare Demo.rising none = .ok series ∧
    Demo.quick.evaluate Demo.rising none none = .ok evaluated ∧ evaluated.signal.direction = some .long ∧
    (Demo.quick.exactEntry .long series.m5 latest).rounded.ShownBy evaluated.signal ∧
    (Demo.quick.exactEntry .long series.m5 latest).Ordered (· < ·) .long := by
  have known : (Demo.quick.evaluate Demo.rising none none).toOption.any (·.signal.direction = some .long) = true ∧
      (Demo.quick.prepare Demo.rising none).toOption.all (fun series =>
        series.m5.getLast?.map (·.high) ≠ series.m5.dropLast.getLast?.map (·.close)) = true := by decide +kernel
  obtain ⟨evaluated, answered, entry⟩ := ok_of_any known.1
  have entry : evaluated.signal.direction = some .long := by simpa using entry
  obtain ⟨series, earlier, previous, latest, prepared, whole, shown, ordered⟩ :=
    signal_ordered_iff Demo.quick answered entry
  have moved : latest.high ≠ previous.close := by
    have apart := known.2
    rw [prepared] at apart
    simpa [Except.toOption, whole] using apart
  have spaced : Demo.quick.Spaced .long series.m5 latest := by
    left
    norm_num [Demo.quick, Demo.shortPeriods, Demo.strategy]
  exact ⟨series, evaluated, latest, prepared, answered, entry, shown,
    (ordered.mpr ⟨fun unmoved => moved unmoved.2.1, spaced⟩).1⟩

theorem target_inside_zone : ((Demo.shortPeriods (1 / 100) (by norm_num)).evaluate Demo.rising none none).map
    (fun evaluated => (evaluated.signal.direction, evaluated.signal.entryMin, evaluated.signal.entryMax,
      evaluated.signal.stopLoss, evaluated.signal.takeProfits)) =
    .ok (some .long, some (251 / 20), some (269 / 20), some (44 / 5), [6521 / 500, 107 / 5]) ∧
    (6521 / 500 : Decimal) < 269 / 20 := by
  decide +kernel

/-! ## The reward inside the zone -/

def Entry.Honours (entry : Entry) (ratio : Decimal) : Prop :=
  ∀ price, entry.entryMin ≤ price → price ≤ entry.entryMax →
    ∀ target ∈ entry.targets, ratio * |price - entry.stop| ≤ |target - price|

def Entry.PassesGate (entry : Entry) (minimum : Decimal) : Prop :=
  ∀ request snapshot, request.stopLoss = entry.stop → request.takeProfits = entry.targets →
    entry.entryMin ≤ RiskGateValidator.price request snapshot →
    RiskGateValidator.price request snapshot ≤ entry.entryMax →
    (RiskGateValidator.riskReward request snapshot).any (· < minimum) = false

theorem Entry.Honours.passesGate {ratio : Decimal} (honours : entry.Honours ratio) : entry.PassesGate ratio := by
  intro request snapshot stop targets low high
  simp only [RiskGateValidator.riskReward]
  split
  next positive =>
    cases smallest : (request.takeProfits.map fun target =>
      |target - RiskGateValidator.price request snapshot|).min? with
    | none => rfl
    | some =>
      obtain ⟨target, member, rfl⟩ := List.mem_map.mp (List.min?_mem smallest)
      have enough := honours _ low high target (targets ▸ member)
      rw [← stop] at enough
      simpa using (le_div_iff₀ positive).mpr enough
  next => rfl

theorem abs_sign_mul (direction : Direction) (distance : Decimal) : |direction.sign * distance| = |distance| := by
  cases direction <;> simp [Direction.sign]

theorem exactEntry_honours_iff (strategy : GoldTrendPullbackStrategy) (direction : Direction) (m5 : List Candle)
    (latest : Candle) : (strategy.exactEntry direction m5 latest).Honours strategy.config.minimumRiskReward ↔
      strategy.rangeOf m5 = 0 := by
  obtain ⟨minimum, preferred⟩ := strategy.config.riskReward_ordered
  have stop := strategy.halfZone_le_risk direction m5 latest
  simp only [Entry.Honours, forall_targets]
  simp only [exactEntry]
  constructor
  · intro honoured
    by_contra moves
    have zone := (strategy.halfZone_pos_iff m5).mpr moves
    have risk := zone.trans (strategy.halfZone_lt_risk direction m5 latest moves)
    have reward := mul_pos risk minimum
    -- a price a little beyond the middle, on the side of the targets
    obtain ⟨step, positive, inside, short⟩ : ∃ step, 0 < step ∧ step ≤ strategy.halfZone m5 ∧
        step ≤ strategy.riskDistance direction m5 latest * strategy.config.minimumRiskReward :=
      ⟨_, lt_min zone reward, min_le_left _ _, min_le_right _ _⟩
    have bounds : -step ≤ direction.sign * step ∧ direction.sign * step ≤ step := by
      cases direction <;> simp only [Direction.sign] <;> constructor <;> linarith
    have first := (honoured (latest.close + direction.sign * step) (by linarith) (by linarith)).1
    rw [show latest.close + direction.sign * step -
        (latest.close - direction.sign * strategy.riskDistance direction m5 latest) =
        direction.sign * (step + strategy.riskDistance direction m5 latest) by ring,
      show latest.close + direction.sign * (strategy.riskDistance direction m5 latest *
          strategy.config.minimumRiskReward) - (latest.close + direction.sign * step) =
        direction.sign * (strategy.riskDistance direction m5 latest * strategy.config.minimumRiskReward - step) by ring,
      abs_sign_mul, abs_sign_mul, abs_of_pos (by linarith), abs_of_nonneg (by linarith)] at first
    have grown := mul_pos minimum positive
    linarith
  · intro still price low high
    have zone : strategy.halfZone m5 = 0 := by rw [halfZone, still, zero_mul]
    have middle : price = latest.close := by
      rw [zone] at low high
      linarith
    rw [zone] at stop
    have reward := mul_nonneg stop minimum.le
    have further := mul_le_mul_of_nonneg_left preferred stop
    simp only [middle, sub_sub_cancel, add_sub_cancel_left, abs_sign_mul, abs_of_nonneg stop, abs_of_nonneg reward,
      abs_of_nonneg (reward.trans further), mul_comm strategy.config.minimumRiskReward]
    exact ⟨le_rfl, further⟩

/-- **No zone honours the risk and reward of its signal** unless it is a single price. -/
theorem zone_honours_iff (strategy : GoldTrendPullbackStrategy) {candles : Timeframe → Option (List Candle)}
    {asOf : Option Instant} {openDirection : Option Direction} {evaluated : EvaluatedSignal} {direction : Direction}
    (answered : strategy.evaluate candles asOf openDirection = .ok evaluated)
    (entry : evaluated.signal.direction = some direction) :
    ∃ series earlier previous latest, strategy.prepare candles asOf = .ok series ∧
      series.m5 = earlier ++ [previous, latest] ∧
      (strategy.exactEntry direction series.m5 latest).rounded.ShownBy evaluated.signal ∧
      ((strategy.exactEntry direction series.m5 latest).Honours strategy.config.minimumRiskReward ∧
          (strategy.exactEntry direction series.m5 latest).PassesGate strategy.config.minimumRiskReward ↔
        strategy.Unmoved previous latest) := by
  obtain ⟨series, earlier, previous, latest, prepared, whole, entered⟩ := entered_of_direction answered entry
  refine ⟨series, earlier, previous, latest, prepared, whole, entered.shown, ?_⟩
  rw [← entered.range, ← exactEntry_honours_iff]
  exact ⟨And.left, fun honours => ⟨honours, honours.passesGate⟩⟩

def Demo.resting : Timeframe → Option (List Candle)
  | .m5 => some [bar .m5 0 12 13, bar .m5 5 10 11, bar .m5 10 12 13, bar .m5 15 11 12, bar .m5 20 13 14,
      bar .m5 25 13 13]
  | timeframe => Demo.rising timeframe

theorem zone_honours_resting : ∃ series evaluated latest, Demo.quick.prepare Demo.resting none = .ok series ∧
    Demo.quick.evaluate Demo.resting none none = .ok evaluated ∧ evaluated.signal.direction = some .long ∧
    (Demo.quick.exactEntry .long series.m5 latest).rounded.ShownBy evaluated.signal ∧
    (Demo.quick.exactEntry .long series.m5 latest).Honours (18 / 10) ∧
    (Demo.quick.exactEntry .long series.m5 latest).PassesGate (18 / 10) := by
  have known : (Demo.quick.evaluate Demo.resting none none).toOption.any (·.signal.direction = some .long) = true ∧
      (Demo.quick.prepare Demo.resting none).toOption.all (fun series =>
        series.m5.getLast?.map (fun latest => (latest.high, latest.low)) =
          series.m5.dropLast.getLast?.map fun previous => (previous.close, previous.close)) = true := by
    decide +kernel
  obtain ⟨evaluated, answered, entry⟩ := ok_of_any known.1
  have entry : evaluated.signal.direction = some .long := by simpa using entry
  obtain ⟨series, earlier, previous, latest, prepared, whole, shown, honoured⟩ :=
    zone_honours_iff Demo.quick answered entry
  have still : latest.high = previous.close ∧ latest.low = previous.close := by
    have same := known.2
    rw [prepared] at same
    simpa [Except.toOption, whole] using same
  exact ⟨series, evaluated, latest, prepared, answered, entry, shown, honoured.mpr ⟨rfl, still⟩⟩

/-- At the upper end of the zone the first target is too near. -/
theorem zone_end_unrewarded : (Demo.quick.evaluate Demo.rising none none).map
    (fun evaluated => (evaluated.signal.direction, evaluated.signal.entryMin, evaluated.signal.entryMax,
      evaluated.signal.stopLoss, evaluated.signal.takeProfits)) =
    .ok (some .long, some (251 / 20), some (269 / 20), some (44 / 5), [514 / 25, 107 / 5]) ∧
    |(514 / 25 : Decimal) - 269 / 20| < Demo.quick.config.minimumRiskReward * |(269 / 20 : Decimal) - 44 / 5| := by
  decide +kernel

end GoldTrendPullbackStrategy

end GoldFlow
