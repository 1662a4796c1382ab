import GoldFlow.Strategies.GoldTrendPullback
import GoldFlow.Verified.BacktestRuns

/-! # Decisions use closed bars only -/

namespace GoldFlow

open Data

def closedAt (asOf : Option Instant) (candle : Candle) : Bool :=
  asOf.all (candleCloseTime candle ≤ ·) && candle.complete

structure CandleSeries (candles : List Candle) : Prop where
  alike : ∀ first ∈ candles, ∀ second ∈ candles, first.symbol = second.symbol ∧ first.timeframe = second.timeframe
  distinct : (candles.map (·.timestamp)).Nodup

/-- An edit that concerns no closed bar. -/
inductive UnclosedEdit (asOf : Option Instant) : List Candle → List Candle → Prop where
  | permute {candles reordered : List Candle} : candles.Perm reordered → UnclosedEdit asOf candles reordered
  | add {candles : List Candle} (candle : Candle) :
    closedAt asOf candle = false → UnclosedEdit asOf candles (candle :: candles)
  | remove {candles : List Candle} (candle : Candle) :
    closedAt asOf candle = false → UnclosedEdit asOf (candle :: candles) candles

structure SameClosedBars (asOf : Option Instant) (candles changed : List Candle) : Prop where
  edited : Relation.ReflTransGen (UnclosedEdit asOf) candles changed
  before : CandleSeries candles
  after : CandleSeries changed

variable {asOf : Option Instant} {candles changed : List Candle}

theorem UnclosedEdit.closed_perm (edit : UnclosedEdit asOf candles changed) :
    (candles.filter (closedAt asOf)).Perm (changed.filter (closedAt asOf)) := by
  cases edit with
  | permute reordered => exact reordered.filter _
  | add candle unclosed => simp [unclosed]
  | remove candle unclosed => simp [unclosed]

theorem closed_perm_of_edits (edits : Relation.ReflTransGen (UnclosedEdit asOf) candles changed) :
    (candles.filter (closedAt asOf)).Perm (changed.filter (closedAt asOf)) := by
  induction edits with
  | refl => rfl
  | tail _ edit ih => exact ih.trans edit.closed_perm

/-! ## What is selected of a series -/

def inTimeOrder (candles : List Candle) : List Candle :=
  candles.insertionSort fun first second => first.timestamp ≤ second.timestamp

theorem CandleSeries.valid (series : CandleSeries candles) :
    ValidSequence (inTimeOrder candles) where
  alike first firstMember second secondMember := by
    simp only [inTimeOrder, List.mem_insertionSort] at firstMember secondMember
    exact series.alike first firstMember second secondMember
  increasing := by
    have sorted := List.pairwise_insertionSort (fun first second : Candle => first.timestamp ≤ second.timestamp) candles
    have distinct : (inTimeOrder candles).Pairwise fun first second => first.timestamp ≠ second.timestamp := by
      have reordered := (List.perm_insertionSort (fun first second : Candle => first.timestamp ≤ second.timestamp)
        candles).map (·.timestamp)
      exact List.pairwise_map.mp (reordered.nodup_iff.mpr series.distinct)
    exact (sorted.and distinct).imp fun both => lt_of_le_of_ne both.1 both.2

theorem CandleSeries.closedCandles_eq (series : CandleSeries candles) (asOf : Option Instant) :
    closedCandles candles asOf true = .ok ((inTimeOrder candles).filter (closedAt asOf)) := by
  have checked := validateCandleSequence_eq_ok.mpr ⟨series.valid, rfl⟩
  apply bind_eq_ok.mpr
  exact ⟨_, checked, by simp; rfl⟩

theorem ValidSequence.eq_of_perm {first second : List Candle} (firstValid : ValidSequence first)
    (secondValid : ValidSequence second) (same : first.Perm second) : first = second := by
  apply same.eq_of_pairwise _ firstValid.increasing secondValid.increasing
  intro earlier later _ _ before after
  exact absurd (before.trans after) (lt_irrefl _)

theorem SameClosedBars.closedCandles_eq (same : SameClosedBars asOf candles changed) :
    closedCandles candles asOf true = closedCandles changed asOf true := by
  rw [same.before.closedCandles_eq, same.after.closedCandles_eq]
  congr 1
  apply ValidSequence.eq_of_perm
  · exact same.before.valid.sublist List.filter_sublist
  · exact same.after.valid.sublist List.filter_sublist
  · -- Sorting permutes, so the closed bars of the sorted series are those of the series.
    calc (inTimeOrder candles).filter (closedAt asOf)
      _ |>.Perm (candles.filter (closedAt asOf)) := (List.perm_insertionSort _ candles).filter _
      _ |>.Perm (changed.filter (closedAt asOf)) := closed_perm_of_edits same.edited
      _ |>.Perm ((inTimeOrder changed).filter (closedAt asOf)) := ((List.perm_insertionSort _ changed).filter _).symm

namespace GoldTrendPullbackStrategy

def SameClosedMapping (asOf : Option Instant) (candles changed : Timeframe → Option (List Candle)) : Prop :=
  ∀ timeframe ∈ required, Option.Rel (SameClosedBars asOf) (candles timeframe) (changed timeframe)

theorem prepare_same (strategy : GoldTrendPullbackStrategy) (closedOnly : strategy.config.useClosedCandlesOnly = true)
    {asOf : Option Instant} {candles changed : Timeframe → Option (List Candle)}
    (same : SameClosedMapping asOf candles changed) :
    strategy.prepare candles asOf = strategy.prepare changed asOf := by
  have missing : ∀ timeframe ∈ required, (candles timeframe).isNone = (changed timeframe).isNone := by
    intro timeframe needed
    have alike := same timeframe needed
    generalize candles timeframe = given, changed timeframe = edited at alike
    cases alike with
    | some => rfl
    | none => rfl
  have closed : ∀ timeframe ∈ required, closedCandles ((candles timeframe).getD []) asOf true =
      closedCandles ((changed timeframe).getD []) asOf true := by
    intro timeframe needed
    have alike := same timeframe needed
    generalize candles timeframe = given, changed timeframe = edited at alike
    cases alike with
    | some alike => exact alike.closedCandles_eq
    | none => rfl
  simp only [prepare, closedOnly, List.filter_congr missing, closed .h1 (by simp [required]),
    closed .m15 (by simp [required]), closed .m5 (by simp [required])]

/-- **Decisions use closed bars only**, in whatever order the bars are given. -/
theorem evaluate_closed_only (strategy : GoldTrendPullbackStrategy)
    (closedOnly : strategy.config.useClosedCandlesOnly = true) (asOf : Option Instant)
    (openDirection : Option Direction)
    (candles changed : Timeframe → Option (List Candle)) (same : SameClosedMapping asOf candles changed) :
    strategy.evaluate candles asOf openDirection = strategy.evaluate changed asOf openDirection := by
  simp only [evaluate, strategy.prepare_same closedOnly same]

namespace Demo

open BacktestEngine.Demo (bar)

def strategy : GoldTrendPullbackStrategy where
  uuid5 name := ⟨name⟩
  isoformat _ := "1970-01-01T00:00:00+00:00"

def hour (timeframe : Timeframe) : Option (List Candle) := some [bar timeframe 0 8 10, bar timeframe 60 9 12]

def reversedHour (timeframe : Timeframe) : Option (List Candle) :=
  some [bar timeframe 120 1 2, bar timeframe 60 9 12, bar timeframe 0 8 10]

theorem sameClosedBars_hour (timeframe : Timeframe) :
    SameClosedBars (some 7200000000) [bar timeframe 0 8 10, bar timeframe 60 9 12]
      [bar timeframe 120 1 2, bar timeframe 60 9 12, bar timeframe 0 8 10] where
  edited := by
    have swapped : UnclosedEdit (some 7200000000) [bar timeframe 0 8 10, bar timeframe 60 9 12]
        [bar timeframe 60 9 12, bar timeframe 0 8 10] := .permute (List.Perm.swap _ _ [])
    apply (Relation.ReflTransGen.single swapped).tail (.add _ _)
    cases timeframe <;> decide
  before := ⟨by simp [bar], by simp [bar]⟩
  after := ⟨by simp [bar], by simp [bar]⟩

end Demo

open GoldTrendPullbackStrategy.Demo

theorem evaluate_reversedHour : hour .m5 ≠ reversedHour .m5 ∧
    strategy.evaluate hour (some 7200000000) none =
      strategy.evaluate reversedHour (some 7200000000) none := by
  refine ⟨by simp [hour, reversedHour], ?_⟩
  apply evaluate_closed_only strategy rfl
  intro timeframe _
  exact .some (sameClosedBars_hour timeframe)

example : (strategy.evaluate hour (some 7200000000) none).toOption.map (·.rationale.reason) =
    some (some "INDICATOR_WARMUP") := by
  decide +kernel

end GoldTrendPullbackStrategy

end GoldFlow
