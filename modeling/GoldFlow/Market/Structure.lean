import GoldFlow.Market.Candles

/-! # Market structure -/

namespace GoldFlow

inductive SwingKind where
  | high | low
  deriving DecidableEq, Repr

inductive MarketBias where
  | bullish | bearish | range
  deriving DecidableEq, Repr

inductive StructureBreakKind where
  | bos | choch
  deriving DecidableEq, Repr

structure SwingPoint where
  kind : SwingKind
  index : Nat
  confirmedIndex : Nat
  price : Decimal
  deriving DecidableEq, Repr

structure StructureBreak where
  kind : StructureBreakKind
  direction : MarketBias
  index : Nat
  level : Decimal
  swingIndex : Nat
  deriving DecidableEq, Repr

structure StructureAnalysis where
  bias : MarketBias
  swings : List SwingPoint
  breaks : List StructureBreak
  higherHigh : Bool
  higherLow : Bool
  lowerHigh : Bool
  lowerLow : Bool
  support : Option Decimal
  resistance : Option Decimal
  deriving DecidableEq, Repr

def StructureAnalysis.bullishStructure (analysis : StructureAnalysis) : Bool :=
  analysis.bias = .bullish && analysis.higherHigh && analysis.higherLow

def StructureAnalysis.bearishStructure (analysis : StructureAnalysis) : Bool :=
  analysis.bias = .bearish && analysis.lowerHigh && analysis.lowerLow

namespace MarketStructure

/-! ## Swings -/

def highIsSwing (candidate : Candle) (left right : List Candle) : Bool :=
  left.all (·.high < candidate.high) && right.all (·.high ≤ candidate.high) && right.any (·.high < candidate.high)

def lowIsSwing (candidate : Candle) (left right : List Candle) : Bool :=
  left.all (candidate.low < ·.low) && right.all (candidate.low ≤ ·.low) && right.any (candidate.low < ·.low)

/-- The turn of the loop for one candidate. -/
def swingsAt (candles : List Candle) (leftSpan rightSpan index : Nat) : List SwingPoint :=
  match candles[index]? with
  | none => []
  | some candidate =>
    let left := candles.extract (index - leftSpan) index
    let right := candles.extract (index + 1) (index + rightSpan + 1)
    (if highIsSwing candidate left right then [⟨.high, index, index + rightSpan, candidate.high⟩] else []) ++
      (if lowIsSwing candidate left right then [⟨.low, index, index + rightSpan, candidate.low⟩] else [])

/-- `for index in range(left_span, len(candles) - right_span)` -/
def foundSwings (candles : List Candle) (leftSpan rightSpan : Nat) : List SwingPoint :=
  (List.range' leftSpan (candles.length - rightSpan - leftSpan)).flatMap (swingsAt candles leftSpan rightSpan)

/-- The order of `(confirmed_index, index, kind)`; `HIGH` comes first. -/
def sortedBefore (first second : SwingPoint) : Bool :=
  first.confirmedIndex < second.confirmedIndex || first.confirmedIndex = second.confirmedIndex &&
    (first.index < second.index || first.index = second.index && (first.kind = .high || second.kind = .low))

def confirmedSwings (candles : List Candle) (leftSpan rightSpan : Nat) : Except PyError (List SwingPoint) :=
  if leftSpan = 0 ∨ rightSpan = 0 then .error (.value "swing spans must be positive")
  else do
    let _ ← validateCandleSequence candles
    pure ((foundSwings candles leftSpan rightSpan).insertionSort fun first second => sortedBefore first second)

/-! ## Comparisons and bias -/

/-- `len(prices) >= 2 and prices[-1] > prices[-2]` -/
def rises (prices : List Decimal) : Bool :=
  match prices.reverse with
  | last :: previous :: _ => previous < last
  | _ => false

/-- `len(prices) >= 2 and prices[-1] < prices[-2]` -/
def falls (prices : List Decimal) : Bool :=
  match prices.reverse with
  | last :: previous :: _ => last < previous
  | _ => false

/-- The prices of the swings of one kind. -/
def pricesOf (kind : SwingKind) (swings : List SwingPoint) : List Decimal :=
  (swings.filter (·.kind = kind)).map (·.price)

/-- Two rising, or else two falling, swings of each kind. -/
def biasOf (higherHigh higherLow lowerHigh lowerLow : Bool) : MarketBias :=
  if higherHigh && higherLow then .bullish
  else if lowerHigh && lowerLow then .bearish
  else .range

/-- `_bias_from_swings` -/
def biasFromSwings (swings : List SwingPoint) : MarketBias :=
  let highs := pricesOf .high swings
  let lows := pricesOf .low swings
  biasOf (rises highs) (rises lows) (falls highs) (falls lows)

/-! ## Breaks -/

/-- The variables of the loop of `_structure_breaks`. -/
structure BreakScan where
  knownHighs : List SwingPoint := []
  knownLows : List SwingPoint := []
  broken : List (SwingKind × Nat) := []
  events : List StructureBreak := []
  bias : MarketBias := .range

namespace BreakScan

/-- A swing becomes known. -/
def confirm (state : BreakScan) (swing : SwingPoint) : BreakScan :=
  match swing.kind with
  | .high => { state with knownHighs := state.knownHighs ++ [swing] }
  | .low => { state with knownLows := state.knownLows ++ [swing] }

/-- The bias of the known swings. -/
def rebias (state : BreakScan) : BreakScan :=
  let highs := state.knownHighs.map (·.price)
  let lows := state.knownLows.map (·.price)
  { state with bias := biasOf (rises highs) (rises lows) (falls highs) (falls lows) }

/-- A close above the last known high. -/
def breakHigh (priorBias : MarketBias) (index : Nat) (candle : Candle) (state : BreakScan) : BreakScan :=
  match state.knownHighs.getLast? with
  | none => state
  | some level =>
    if level.index < index ∧ level.price < candle.close ∧ (level.kind, level.index) ∉ state.broken then
      let kind := if priorBias = .bearish then .choch else .bos
      { state with
        events := state.events ++ [⟨kind, .bullish, index, level.price, level.index⟩]
        broken := state.broken ++ [(level.kind, level.index)] }
    else state

/-- A close below the last known low. -/
def breakLow (priorBias : MarketBias) (index : Nat) (candle : Candle) (state : BreakScan) : BreakScan :=
  match state.knownLows.getLast? with
  | none => state
  | some level =>
    if level.index < index ∧ candle.close < level.price ∧ (level.kind, level.index) ∉ state.broken then
      let kind := if priorBias = .bullish then .choch else .bos
      { state with
        events := state.events ++ [⟨kind, .bearish, index, level.price, level.index⟩]
        broken := state.broken ++ [(level.kind, level.index)] }
    else state

/-- The turn for one candle. Breaks are judged by the bias before it. -/
def step (swings : List SwingPoint) (state : BreakScan) (entry : Candle × Nat) : BreakScan :=
  let (candle, index) := entry
  let confirmed := (swings.filter (·.confirmedIndex = index)).foldl confirm state
  breakLow state.bias index candle (breakHigh state.bias index candle confirmed.rebias)

end BreakScan

/-- `_structure_breaks` -/
def structureBreaks (candles : List Candle) (swings : List SwingPoint) : List StructureBreak :=
  (candles.zipIdx.foldl (BreakScan.step swings) {}).events

/-! ## Analysis -/

def analyzeStructure (candles : List Candle) (leftSpan rightSpan : Nat) : Except PyError StructureAnalysis := do
  let swings ← confirmedSwings candles leftSpan rightSpan
  let highs := pricesOf .high swings
  let lows := pricesOf .low swings
  pure
    { bias := biasFromSwings swings
      swings
      breaks := structureBreaks candles swings
      higherHigh := rises highs
      higherLow := rises lows
      lowerHigh := falls highs
      lowerLow := falls lows
      support := (swings.reverse.find? (·.kind = .low)).map (·.price)
      resistance := (swings.reverse.find? (·.kind = .high)).map (·.price) }

end MarketStructure

end GoldFlow
