import GoldFlow.Data.Rounding
import GoldFlow.Domain.Models

/-! # Indicators and confidence

`app/indicators` and `app/signals/confidence.py` over exact rationals.
-/

namespace GoldFlow

namespace Indicators

/-- The `offset`-th value from the end, `values[-1 - offset]`. -/
def fromEnd {α : Type} (values : List α) (offset : Nat) : Except PyError α :=
  match values.reverse[offset]? with
  | some value => .ok value
  | none => .error (.other "IndexError" "list index out of range")

/-- `values[-count:]` -/
def lastOf {α : Type} (count : Nat) (values : List α) : List α := values.drop (values.length - count)

/-- Values aligned to `source`: a seed for its first `period` entries, then one step an entry. -/
def warmedUp {α σ : Type} (period : Nat) (source : List α) (seed : List α → σ) (advance : σ → α → σ)
    (value : σ → Decimal) : List (Option Decimal) :=
  if source.length < period then List.replicate source.length none
  else List.replicate (period - 1) none ++
    ((source.drop period).scanl advance (seed (source.take period))).map fun state => some (value state)

def requirePeriod (period : Nat) : Except PyError Unit :=
  if period = 0 then .error (.value "period must be positive") else .ok ()

def mean (period : Nat) (values : List Decimal) : Decimal := values.sum / period

/-- Wilder's smoothing of an average. -/
def smooth (period : Nat) (previous value : Decimal) : Decimal := (previous * (period - 1) + value) / period

def ema (values : List Decimal) (period : Nat) : Except PyError (List (Option Decimal)) := do
  requirePeriod period
  let multiplier : Decimal := 2 / (period + 1)
  pure (warmedUp period values (mean period) (fun previous value => (value - previous) * multiplier + previous) id)

/-- The range of a bar, which reaches to the close before it. -/
def trueRange (previousClose : Option Decimal) (high low : Decimal) : Decimal :=
  match previousClose with
  | none => high - low
  | some close => max (max (high - low) |high - close|) |low - close|

def trueRanges (highs lows closes : List Decimal) : Except PyError (List Decimal) :=
  if highs.length ≠ lows.length ∨ lows.length ≠ closes.length then
    .error (.value "high, low, and close sequences must be the same length")
  else if (highs.zip lows).any fun (high, low) => high < low then
    .error (.value "a high cannot be below its low")
  else
    .ok (((none :: closes.map some).zip (highs.zip lows)).map fun (close, high, low) => trueRange close high low)

def atr (highs lows closes : List Decimal) (period : Nat) : Except PyError (List (Option Decimal)) := do
  requirePeriod period
  let ranges ← trueRanges highs lows closes
  pure (warmedUp period ranges (mean period) (smooth period) id)

def gain (change : Decimal) : Decimal := max change 0

def loss (change : Decimal) : Decimal := max (-change) 0

/-- `_rsi_value` -/
def rsiValue (averageGain averageLoss : Decimal) : Decimal :=
  if averageGain = 0 ∧ averageLoss = 0 then 50
  else if averageLoss = 0 then 100
  else if averageGain = 0 then 0
  else 100 - 100 / (1 + averageGain / averageLoss)

/-- The first change needs two values, so an RSI has one missing value more. -/
def rsi (values : List Decimal) (period : Nat) : Except PyError (List (Option Decimal)) := do
  requirePeriod period
  let changes := (values.zip (values.drop 1)).map fun (previous, value) => value - previous
  let averages := warmedUp period changes
    (fun first => (mean period (first.map gain), mean period (first.map loss)))
    (fun (averageGain, averageLoss) change =>
      (smooth period averageGain (gain change), smooth period averageLoss (loss change)))
    (fun (averageGain, averageLoss) => rsiValue averageGain averageLoss)
  pure ((values.take 1).map (fun _ => none) ++ averages)

/-- A rolling mean: a step adds the entering spread and drops the leaving one. -/
def averageSpread (values : List Decimal) (period : Nat) : Except PyError (List (Option Decimal)) := do
  requirePeriod period
  if values.any (· < 0) then throw (.value "spreads must be finite and non-negative")
  let moves := values.zip (List.replicate period 0 ++ values)
  pure (warmedUp period moves (fun first => (first.map (·.1)).sum)
    (fun rolling (entering, leaving) => rolling + (entering - leaving)) (· / period))

structure MACDResult where
  line : List (Option Decimal)
  signal : List (Option Decimal)
  histogram : List (Option Decimal)

/-- The differences of two aligned series, where both have a value. -/
def differences (first second : List (Option Decimal)) : List (Option Decimal) :=
  List.zipWith (Option.map₂ (· - ·)) first second

/-- The average of the available values of `line`, aligned by the place of the first. -/
def macdSignal (line : List (Option Decimal)) (signalPeriod : Nat) : Except PyError (List (Option Decimal)) :=
  let signal := List.replicate line.length none
  match line.findIdx? (·.isSome) with
  | none => .ok signal
  | some firstLine => do
    let compactSignal ← ema ((line.drop firstLine).filterMap id) signalPeriod
    pure (compactSignal.zipIdx.foldl (fun signal (value, offset) => signal.set (firstLine + offset) value) signal)

def macd (values : List Decimal) (fastPeriod slowPeriod signalPeriod : Nat) : Except PyError MACDResult := do
  if slowPeriod ≤ fastPeriod then throw (.value "fast_period must be less than slow_period")
  if signalPeriod = 0 then throw (.value "signal_period must be positive")
  let line := differences (← ema values fastPeriod) (← ema values slowPeriod)
  let signal ← macdSignal line signalPeriod
  pure { line, signal, histogram := differences line signal }

def spreadQuality (current : Decimal) (average maximum : Option Decimal) : Except PyError Decimal :=
  if current < 0 then .error (.value "current spread must be finite and non-negative")
  else if maximum.any (· ≤ 0) then .error (.value "maximum spread must be finite and positive")
  else if maximum.any (· < current) then .ok 0
  else match average.filter (0 < ·) with
    | none => .ok (if current = 0 then 1 else 1 / 2)
    | some average => .ok (max 0 (min 1 (3 / 2 - 1 / 2 * (current / average))))

end Indicators

/-! ## Confidence -/

/-- A value for each factor of the confidence. -/
structure PerFactor (α : Type) where
  h1Trend : α
  m15Pullback : α
  m5Confirmation : α
  structureAlignment : α
  spreadQuality : α
  volatilityQuality : α
  deriving DecidableEq, Repr

namespace PerFactor

variable {α β γ : Type}

def values (factors : PerFactor α) : List α :=
  [factors.h1Trend, factors.m15Pullback, factors.m5Confirmation, factors.structureAlignment, factors.spreadQuality,
    factors.volatilityQuality]

def map₂ (f : α → β → γ) (first : PerFactor α) (second : PerFactor β) : PerFactor γ where
  h1Trend := f first.h1Trend second.h1Trend
  m15Pullback := f first.m15Pullback second.m15Pullback
  m5Confirmation := f first.m5Confirmation second.m5Confirmation
  structureAlignment := f first.structureAlignment second.structureAlignment
  spreadQuality := f first.spreadQuality second.spreadQuality
  volatilityQuality := f first.volatilityQuality second.volatilityQuality

end PerFactor

/-- Weights that total 100. -/
structure ConfidenceWeights where
  weights : PerFactor Nat := ⟨30, 25, 25, 10, 5, 5⟩
  total : weights.values.sum = 100 := by decide

/-- Strengths between zero and one. -/
structure ConfidenceFactors where
  factors : PerFactor Decimal
  range : ∀ value ∈ factors.values, 0 ≤ value ∧ value ≤ 1

/-- `ConfidenceFactors(...)`: the constructor with the checks of `__post_init__`. -/
def ConfidenceFactors.make (factors : PerFactor Decimal) : Except PyError ConfidenceFactors :=
  if range : ∀ value ∈ factors.values, 0 ≤ value ∧ value ≤ 1 then .ok ⟨factors, range⟩
  else .error (.value "confidence factors must be finite values from 0 to 1")

structure ConfidenceBreakdown where
  score : Int
  components : PerFactor Int
  deriving DecidableEq, Repr

def scoreConfidence (factors : ConfidenceFactors) (weights : ConfidenceWeights) : ConfidenceBreakdown :=
  let components :=
    factors.factors.map₂ (fun factor (weight : Nat) => Data.roundHalfEven (factor * weight)) weights.weights
  { score := components.values.sum, components }

end GoldFlow
