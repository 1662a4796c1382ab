import GoldFlow.Backtest.Models

/-! # The backtest engine

`BacktestEngine.run` goes over the M5 candles once.
-/

namespace GoldFlow

structure Strategy where
  strategyId : String
  strategyVersion : String
  /-- `evaluate(available, as_of=…, open_direction=…)` -/
  evaluate : PerTimeframe (List Candle) → Instant → Option Direction → Except PyError TradeSignal

/-- `_OpenPosition` -/
structure OpenPosition where
  signal : TradeSignal
  direction : Direction
  requestedEntry : Decimal
  rawEntry : Decimal
  entryPrice : Decimal
  openedAt : Instant
  stopLoss : Decimal
  takeProfit : Decimal
  volume : Decimal
  plannedRisk : Decimal
  entryCommission : Decimal

structure BacktestEngine where
  strategy : Strategy
  config : BacktestConfig := {}

namespace BacktestEngine

variable (engine : BacktestEngine)

/-! ## Validation -/

/-- The candles of one timeframe in order, without the incomplete ones. -/
def validateTimeframe (candles : List Candle) : Except PyError (List Candle) := do
  let ordered := candles.insertionSort fun first second => first.timestamp ≤ second.timestamp
  let validated ← validateCandleSequence ordered
  if ordered.any (!·.complete) then pure (ordered.filter (·.complete)) else pure validated

def required : List Timeframe := [.h1, .m15, .m5]

/-- `_validate_data` -/
def validateData (candles : Timeframe → Option (List Candle)) : Except PyError (PerTimeframe (List Candle)) := do
  let missing := required.filter fun timeframe => (candles timeframe).isNone
  if missing ≠ [] then
    throw (.value ("backtest is missing timeframes: " ++ ", ".intercalate (missing.map (·.value))))
  let h1 ← validateTimeframe ((candles .h1).getD [])
  let m15 ← validateTimeframe ((candles .m15).getD [])
  let m5 ← validateTimeframe ((candles .m5).getD [])
  let validated : PerTimeframe (List Candle) := ⟨h1, m15, m5⟩
  if validated.values.any (·.isEmpty) then
    throw (.value "each backtest timeframe needs closed candle data")
  if (validated.values.flatten.map (·.symbol)).dedup.length ≠ 1 then
    throw (.value "all backtest candles must use one resolved broker symbol")
  pure validated

/-! ## Fills and exits -/

/-- `_spread` -/
def spread (candle : Candle) : Decimal := max candle.spread engine.config.fixedSpread

/-- The price distance that an execution costs. -/
def executionCost (candle : Candle) : Decimal := engine.spread candle / 2 + engine.config.slippage

/-- Where in the entry zone a bar fills. -/
def rawEntry (entryMin entryMax : Decimal) (candle : Candle) : Decimal :=
  if entryMin ≤ candle.open ∧ candle.open ≤ entryMax then candle.open
  else if candle.open < entryMin then entryMin
  else entryMax

/-- The volume on the lattice of the volume step. -/
def steppedVolume (volume : Decimal) : Decimal :=
  (⌊min volume engine.config.maximumVolume / engine.config.volumeStep + 1 / 10 ^ 12⌋ : ℤ) * engine.config.volumeStep

/-- The stop is on the wrong side of the entry. -/
def stopBeyond (direction : Direction) (stop entryPrice : Decimal) : Bool :=
  match direction with
  | .long => entryPrice ≤ stop
  | .short => stop ≤ entryPrice

/-- `_fill_pending` -/
def fillPending (signal : TradeSignal) (candle : Candle) (balance : Decimal) : Option OpenPosition := do
  let entryMin ← signal.entryMin
  let entryMax ← signal.entryMax
  let stop ← signal.stopLoss
  guard (¬ (candle.high < entryMin ∨ entryMax < candle.low))
  let raw := rawEntry entryMin entryMax candle
  let direction ← signal.direction
  let target ← signal.takeProfits.head?
  let entryPrice := raw + direction.sign * engine.executionCost candle
  guard (¬ stopBeyond direction stop entryPrice)
  let priceRisk := |entryPrice - stop|
  let riskBudget := max balance 0 * engine.config.riskFraction
  let budgeted := riskBudget / (priceRisk * engine.config.valuePerPriceUnitPerLot)
  guard (¬ budgeted < engine.config.minimumVolume)
  let volume := engine.steppedVolume budgeted
  guard (¬ volume < engine.config.minimumVolume)
  pure
    { signal, direction, entryPrice, volume
      requestedEntry := (entryMin + entryMax) / 2
      rawEntry := raw
      openedAt := candle.timestamp
      stopLoss := stop
      takeProfit := target
      plannedRisk := priceRisk * volume * engine.config.valuePerPriceUnitPerLot
      entryCommission := volume * engine.config.commissionPerLotPerSide }

/-- `_trigger` -/
def trigger (position : OpenPosition) (candle : Candle) : Option (Decimal × ExitReason) :=
  if candle.low ≤ position.stopLoss ∧ position.stopLoss ≤ candle.high then some (position.stopLoss, .stopLoss)
  else if candle.low ≤ position.takeProfit ∧ position.takeProfit ≤ candle.high then
    some (position.takeProfit, .takeProfit)
  else none

/-- `_close` -/
def close (position : OpenPosition) (candle : Candle) (rawExit : Decimal) (reason : ExitReason)
    (closedAt : Instant) : BacktestTrade :=
  let exitPrice := rawExit - position.direction.sign * engine.executionCost candle
  let grossPnl := position.direction.sign * (rawExit - position.rawEntry) * position.volume *
    engine.config.valuePerPriceUnitPerLot
  let pricePnlAfterSpread := position.direction.sign * (exitPrice - position.entryPrice) * position.volume *
    engine.config.valuePerPriceUnitPerLot
  let exitCommission := position.volume * engine.config.commissionPerLotPerSide
  let netPnl := pricePnlAfterSpread - (position.entryCommission + exitCommission)
  { signalId := position.signal.signalId
    direction := position.direction
    signalTime := position.signal.createdAt
    openedAt := position.openedAt
    closedAt
    requestedEntry := position.requestedEntry
    entryPrice := position.entryPrice
    exitPrice
    stopLoss := position.stopLoss
    takeProfit := position.takeProfit
    volume := position.volume
    plannedRisk := position.plannedRisk
    grossPnl
    costs := grossPnl - netPnl
    netPnl
    rMultiple := if position.plannedRisk = 0 then 0 else netPnl / position.plannedRisk
    exitReason := reason }

/-! ## The loop -/

/-- The variables of the loop. -/
structure LoopState where
  balance : Decimal
  equityCurve : List EquityPoint
  trades : List BacktestTrade := []
  pending : Option TradeSignal := none
  position : Option OpenPosition := none
  signalsGenerated : Nat := 0
  signalsExpired : Nat := 0
  availableEnds : PerTimeframe Nat := ⟨0, 0, 0⟩

/-- A trade is booked and the position is gone. -/
def LoopState.book (state : LoopState) (trade : BacktestTrade) : LoopState :=
  { state with
    trades := state.trades ++ [trade]
    balance := state.balance + trade.netPnl
    equityCurve := state.equityCurve ++ [⟨trade.closedAt, state.balance + trade.netPnl⟩]
    position := none }

/-- The stop or the target of the open position. -/
def exitTriggered (candle : Candle) (state : LoopState) : LoopState :=
  match state.position with
  | none => state
  | some position =>
    match trigger position candle with
    | none => state
    | some (rawExit, reason) => state.book (engine.close position candle rawExit reason (candleCloseTime candle))

/-- The expiry or the fill of the pending signal, with an exit on the same bar. -/
def enterPending (candle : Candle) (state : LoopState) : LoopState :=
  match state.position, state.pending with
  | none, some signal =>
    if signal.isExpired candle.timestamp then
      { state with signalsExpired := state.signalsExpired + 1, pending := none }
    else
      match engine.fillPending signal candle state.balance with
      | none => state
      | some position => engine.exitTriggered candle { state with position := some position, pending := none }
  | _, _ => state

/-- The `while` loop that moves a cursor over the bars known at the decision time. -/
def advance (decisionTime : Instant) (values : List Candle) (reached : Nat) : Nat :=
  reached + ((values.drop reached).takeWhile fun candle => candleCloseTime candle ≤ decisionTime).length

/-- `values[start:end]` -/
def window (values : List Candle) (reached : Nat) : List Candle :=
  (values.take reached).drop (reached - engine.config.historyWindowBars)

def advanceEnds (data : PerTimeframe (List Candle)) (decisionTime : Instant) (ends : PerTimeframe Nat) :
    PerTimeframe Nat :=
  ⟨advance decisionTime data.h1 ends.h1, advance decisionTime data.m15 ends.m15,
    advance decisionTime data.m5 ends.m5⟩

/-- The bars that the strategy sees. -/
def available (data : PerTimeframe (List Candle)) (ends : PerTimeframe Nat) : PerTimeframe (List Candle) :=
  ⟨engine.window data.h1 ends.h1, engine.window data.m15 ends.m15, engine.window data.m5 ends.m5⟩

/-- What becomes of a signal of the strategy. -/
def follow (candle : Candle) (signal : TradeSignal) (state : LoopState) : LoopState :=
  match signal.action, state.position, state.pending with
  | .exit, some position, _ =>
    state.book (engine.close position candle candle.close .strategyExit (candleCloseTime candle))
  | .long, none, none | .short, none, none =>
    { state with pending := some signal, signalsGenerated := state.signalsGenerated + 1 }
  | _, _, _ => state

/-- The decision of the strategy at the close of a bar. -/
def decideAt (data : PerTimeframe (List Candle)) (candle : Candle) (state : LoopState) :
    Except PyError LoopState :=
  let availableEnds := advanceEnds data (candleCloseTime candle) state.availableEnds
  let state := { state with availableEnds }
  let available := engine.available data availableEnds
  if available.values.all (!·.isEmpty) then do
    let signal ← engine.strategy.evaluate available (candleCloseTime candle) (state.position.map (·.direction))
    pure (engine.follow candle signal state)
  else .ok state

/-- A turn of the loop. -/
def step (data : PerTimeframe (List Candle)) (state : LoopState) (candle : Candle) : Except PyError LoopState :=
  engine.decideAt data candle (engine.enterPending candle (engine.exitTriggered candle state))

def initial (first : Candle) : LoopState where
  balance := engine.config.initialBalance
  equityCurve := [⟨first.timestamp, engine.config.initialBalance⟩]

/-- The last bar closes what is open, if it is asked to. -/
def closeAtEnd (last : Candle) (state : LoopState) : LoopState :=
  match state.position with
  | some position =>
    if engine.config.closeOpenPositionAtEnd then
      state.book (engine.close position last last.close .endOfData (candleCloseTime last))
    else state
  | none => state

/-- What is left after the loop. -/
def finish (first last : Candle) (state : LoopState) : BacktestResult :=
  let endedAt := candleCloseTime last
  let state := engine.closeAtEnd last state
  { strategyId := engine.strategy.strategyId
    strategyVersion := engine.strategy.strategyVersion
    startedAt := first.timestamp
    endedAt
    initialBalance := engine.config.initialBalance
    finalBalance := state.balance
    trades := state.trades
    equityCurve :=
      if (state.equityCurve.getLast?.map (·.timestamp)) ≠ some endedAt then
        state.equityCurve ++ [⟨endedAt, state.balance⟩]
      else state.equityCurve
    signalsGenerated := state.signalsGenerated
    signalsExpired := if state.pending.isSome then state.signalsExpired + 1 else state.signalsExpired }

/-- The state after the loop over the M5 candles. -/
def loop (data : PerTimeframe (List Candle)) (first : Candle) : Except PyError LoopState :=
  data.m5.foldlM (engine.step data) (engine.initial first)

def run (candles : Timeframe → Option (List Candle)) : Except PyError BacktestResult := do
  let data ← validateData candles
  match data.m5.head?, data.m5.getLast? with
  | some first, some last => do
    let state ← engine.loop data first
    pure (engine.finish first last state)
  | _, _ => .error (.other "IndexError" "tuple index out of range")

end BacktestEngine

end GoldFlow
