import GoldFlow.Market.Candles
import Mathlib.Algebra.Order.Floor.Semiring

/-! # Chronological and walk-forward splits

Datasets for training, validation and test.
-/

namespace GoldFlow

/-- The candles of each timeframe that is present. -/
abbrev CandleMapping := Timeframe → Option (List Candle)

structure DatasetSplit where
  train : CandleMapping
  validation : CandleMapping
  test : CandleMapping

structure WalkForwardFold where
  index : Nat
  data : DatasetSplit

/-- `_slice_by_bounds` -/
def sliceByBounds (candles : CandleMapping) (startsAt endsBefore : Instant) : CandleMapping := fun timeframe =>
  (candles timeframe).map fun values =>
    values.filter fun candle => startsAt ≤ candle.timestamp ∧ candle.timestamp < endsBefore

/-- The four instants that `_boundaries` returns. -/
structure Boundaries where
  start : Instant
  trainBoundary : Instant
  validationBoundary : Instant
  ending : Instant

/-- `m5[index]` -/
def candleAt (m5 : List Candle) (index : Nat) : Except PyError Candle :=
  match m5[index]? with
  | some candle => .ok candle
  | none => .error (.other "IndexError" "tuple index out of range")

/-- The time between the last two bars of the whole series. -/
def finalStep (m5 : List Candle) : Option Duration := do
  guard (2 ≤ m5.length)
  let last ← m5[m5.length - 1]?
  let previous ← m5[m5.length - 2]?
  pure (last.timestamp - previous.timestamp)

/-- `_boundaries` -/
def boundaries (m5 : List Candle) (start trainEnd validationEnd testEnd : Nat) : Except PyError Boundaries :=
  match finalStep m5 with
  | none => .error (.value "at least two M5 bars are required for chronological splitting")
  | some finalStep => do
    let first ← candleAt m5 start
    let validationFirst ← candleAt m5 trainEnd
    let testFirst ← candleAt m5 validationEnd
    let last ← candleAt m5 (testEnd - 1)
    pure ⟨first.timestamp, validationFirst.timestamp, testFirst.timestamp, last.timestamp + finalStep⟩

/-- The three parts between the boundaries. -/
def DatasetSplit.between (candles : CandleMapping) (bounds : Boundaries) : DatasetSplit where
  train := sliceByBounds candles bounds.start bounds.trainBoundary
  validation := sliceByBounds candles bounds.trainBoundary bounds.validationBoundary
  test := sliceByBounds candles bounds.validationBoundary bounds.ending

/-! ## The chronological split -/

/-- `max(1, int(len(m5) * train_fraction))` -/
def trainEndOf (bars : Nat) (trainFraction : Decimal) : Nat := max 1 ⌊bars * trainFraction⌋₊

/-- The end of the validation part leaves at least one bar for the test. -/
def validationEndOf (bars : Nat) (trainFraction validationFraction : Decimal) : Nat :=
  min (max (trainEndOf bars trainFraction + 1) ⌊bars * (trainFraction + validationFraction)⌋₊) (bars - 1)

def chronologicalSplit (candles : CandleMapping) (trainFraction : Decimal := 60 / 100)
    (validationFraction : Decimal := 20 / 100) : Except PyError DatasetSplit :=
  match candles .m5 with
  | none => .error (.value "M5 data is required to establish split boundaries")
  | some m5 =>
    if ¬ (0 < trainFraction ∧ trainFraction < 1) ∨ ¬ (0 < validationFraction ∧ validationFraction < 1) then
      .error (.value "split fractions must be between zero and one")
    else if 1 ≤ trainFraction + validationFraction then
      .error (.value "train and validation fractions must leave a test set")
    else if m5.length < 5 then .error (.value "at least five M5 bars are required")
    else do
      let trainEnd := trainEndOf m5.length trainFraction
      let validationEnd := validationEndOf m5.length trainFraction validationFraction
      let bounds ← boundaries m5 0 trainEnd validationEnd m5.length
      pure (.between candles bounds)

/-! ## Rolling folds -/

/-- The sizes of the three windows of a fold, in bars. -/
structure WindowBars where
  train : Nat
  validation : Nat
  test : Nat

def WindowBars.window (bars : WindowBars) : Nat := bars.train + bars.validation + bars.test

/-- `range(0, length - window + 1, step)` -/
def foldOffsets (length window step : Nat) : List Nat :=
  (List.range ((length + 1 - window + step - 1) / step)).map (· * step)

/-- A turn of the loop over the offsets. -/
def foldAt (candles : CandleMapping) (m5 : List Candle) (bars : WindowBars) (offset foldIndex : Nat) :
    Except PyError WalkForwardFold := do
  let trainEnd := offset + bars.train
  let validationEnd := trainEnd + bars.validation
  let testEnd := validationEnd + bars.test
  let bounds ← boundaries m5 offset trainEnd validationEnd testEnd
  pure ⟨foldIndex, .between candles bounds⟩

def rollingWalkForwardSplits (candles : CandleMapping) (trainBars validationBars testBars : Int)
    (stepBars : Option Int := none) : Except PyError (List WalkForwardFold) :=
  if [trainBars, validationBars, testBars].any (· ≤ 0) then
    .error (.value "walk-forward window sizes must be positive")
  else
    match candles .m5 with
    | none => .error (.value "M5 data is required to establish split boundaries")
    | some m5 =>
      let step := stepBars.getD testBars
      if step ≤ 0 then .error (.value "walk-forward step must be positive")
      else
        let bars : WindowBars := ⟨trainBars.toNat, validationBars.toNat, testBars.toNat⟩
        (foldOffsets m5.length bars.window step.toNat).zipIdx.mapM fun (offset, foldIndex) =>
          foldAt candles m5 bars offset foldIndex

end GoldFlow
