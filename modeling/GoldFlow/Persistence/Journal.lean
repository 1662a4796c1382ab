import GoldFlow.Execution.Executor

/-! # The worker's journal -/

namespace GoldFlow

/-- The journal of one broker account. -/
structure WorkerPersistence where
  brokerAccountId : String
  sha256 : HexDigest

namespace WorkerPersistence

variable (persistence : WorkerPersistence)

/-! ## Signals and orders -/

/-- `_signal_from_row` -/
def signalFromRow (row : SignalRow) : Except PyError TradeSignal :=
  TradeSignal.make row.symbol row.canonicalSymbol row.action row.strategyId row.strategyVersion
    row.confidenceScore row.entryMin row.entryMax row.stopLoss row.takeProfits row.riskReward row.status
    row.createdAt row.expiresAt row.signalId

/-- `_signal_by_id_sync` -/
def signalById (database : Database) (signalId : UUID) : Except PyError (Option TradeSignal) :=
  match database.signals.find? (·.signalId = signalId) with
  | some row => do
    let signal ← signalFromRow row
    pure (some signal)
  | none => .ok none

/-- `select(Order).where(Order.idempotency_key == key)` -/
def orderOf (database : Database) (key : String) : Option OrderRow :=
  database.orders.select (·.idempotencyKey = key)

/-- The row of an order that is about to be sent. -/
def claimedOrder (request : OrderRequest) : OrderRow where
  signalId := request.signalId
  brokerAccountId := persistence.brokerAccountId
  idempotencyKey := request.idempotencyKey
  symbol := request.symbol
  direction := request.direction
  orderType := request.orderType
  status := .pending
  volume := request.volume
  requestedPrice := request.requestedPrice
  stopLoss := request.stopLoss
  takeProfits := request.takeProfits
  maximumSlippage := request.maximumSlippage
  expiresAt := request.expiresAt

/-- `order_id_resolver` -/
def resolveOrderId (request : OrderRequest) (database : Database) : Except PyError (Nat × Database) :=
  match orderOf database request.idempotencyKey with
  | some existing => .ok (existing.id, database)
  | none =>
    if database.signals.any (·.signalId = request.signalId) then do
      let (row, database) ← database.insertOrder (persistence.claimedOrder request)
      pure (row.id, database)
    else .error (.runtime "execution claim requires a persisted signal")

/-! ## Recording an execution -/

/-- The status of the signal after an execution, if it changes. -/
def signalStatusAfter : ExecutionStatus → Option SignalStatus
  | .filled | .pending => some .executed
  | .rejected | .checkRejected => some .rejected
  | .unknown | .protectionFailed => some .error
  | .signalOnly | .blocked => none

def recordSignal (signal : TradeSignal) (status : ExecutionStatus) (database : Database) : Database :=
  { database with
    signals := database.signals.map fun row =>
      if row.signalId = signal.signalId then { row with status := (signalStatusAfter status).getD row.status }
      else row }

/-- What the report says about the order. -/
def reportedOrder (report : ExecutionReport) (row : OrderRow) : OrderRow :=
  { row with
    brokerTicket := report.brokerTicket
    executedPrice := report.executedPrice
    actualSlippage := report.slippage
    brokerCode := report.brokerCode
    brokerMessage := some report.message
    submittedAt := some report.submittedAt }

/-- The order after the outcome. A fill whose protection failed stays a fill. -/
def settledOrder (outcome : ExecutionOutcome) (now : Instant) (row : OrderRow) : OrderRow :=
  match outcome.status with
  | .filled => { row with status := .filled, filledAt := some now }
  | .pending => { row with status := .pending }
  | .rejected | .checkRejected =>
    { row with status := .rejected, cancelledAt := some now, brokerMessage := some (", ".intercalate outcome.reasons) }
  | .protectionFailed =>
    { row with status := .filled, filledAt := some now, brokerMessage := some (", ".intercalate outcome.reasons) }
  | .unknown => { row with brokerMessage := some "ORDER_RESULT_UNKNOWN_RECONCILIATION_REQUIRED" }
  | .signalOnly | .blocked => row

def executedOrder (outcome : ExecutionOutcome) (now : Instant) (row : OrderRow) : OrderRow :=
  settledOrder outcome now (outcome.report.elim row fun report => reportedOrder report row)

/-- The order of the outcome's request, after the update. -/
def recordOrder (outcome : ExecutionOutcome) (now : Instant) (database : Database) :
    Except PyError (Option OrderRow × Database) :=
  match outcome.request.bind fun request => orderOf database request.idempotencyKey with
  | some order => do
    let database ← database.updateOrder order.id (executedOrder outcome now)
    pure (some order, database)
  | none => .ok (none, database)

/-- A fill with the ticket of its position. -/
structure RecordedFill where
  request : OrderRequest
  report : ExecutionReport
  ticket : String

/-- Whether the outcome is a fill that the journal has to show. -/
def fillOf (outcome : ExecutionOutcome) : Option RecordedFill :=
  match outcome.request, outcome.report with
  | some request, some report =>
    if outcome.status = .filled ∨ outcome.status = .protectionFailed then
      (report.brokerTicket.filter (· ≠ "")).map fun ticket => { request, report, ticket }
    else none
  | _, _ => none

def safelyClosed (outcome : ExecutionOutcome) : Bool := "UNPROTECTED_FILL_SAFELY_CLOSED" ∈ outcome.reasons

/-- `executed_price or requested_price or entry_min or 0` -/
def entryPrice (signal : TradeSignal) (fill : RecordedFill) : Decimal :=
  decimalOr fill.report.executedPrice (decimalOr fill.request.requestedPrice (decimalOr signal.entryMin 0))

def filledState (outcome : ExecutionOutcome) : TradeState :=
  if safelyClosed outcome then .closed
  else if outcome.status = .protectionFailed then .error
  else .positionOpen

/-- The position of a fill that the journal does not have. -/
def filledPosition (signal : TradeSignal) (outcome : ExecutionOutcome) (fill : RecordedFill)
    (order : Option OrderRow) (now : Instant) : PositionRow where
  brokerAccountId := persistence.brokerAccountId
  signalId := some signal.signalId
  openingOrderId := order.map (·.id)
  brokerTicket := fill.ticket
  symbol := fill.request.symbol
  direction := fill.request.direction
  initialVolume := fill.request.volume
  currentVolume := if safelyClosed outcome then 0 else fill.request.volume
  openPrice := entryPrice signal fill
  currentPrice := entryPrice signal fill
  stopLoss := fill.request.stopLoss
  takeProfits := fill.request.takeProfits
  state := filledState outcome
  openedAt := fill.report.submittedAt
  closedAt := if safelyClosed outcome then some now else none

def recordPosition (signal : TradeSignal) (outcome : ExecutionOutcome) (fill : RecordedFill)
    (order : Option OrderRow) (now : Instant) (database : Database) : Except PyError (PositionRow × Database) :=
  match database.positionWith persistence.brokerAccountId fill.ticket with
  | some row => .ok (row, database)
  | none => do
    database.requireSignal signal.signalId
    database.insertPosition (persistence.filledPosition signal outcome fill order now)

/-- The trade of a fill that the journal does not have. -/
def filledTrade (signal : TradeSignal) (outcome : ExecutionOutcome) (fill : RecordedFill)
    (position : PositionRow) (environment : String) (now : Instant) : TradeRow where
  positionId := position.id
  signalId := some signal.signalId
  brokerAccountId := persistence.brokerAccountId
  strategyId := signal.strategyId
  strategyVersion := signal.strategyVersion
  brokerTicket := fill.ticket
  symbol := fill.request.symbol
  canonicalSymbol := signal.canonicalSymbol
  direction := fill.request.direction
  state := position.state
  environment
  volume := fill.request.volume
  entryPrice := entryPrice signal fill
  stopLoss := fill.request.stopLoss
  initialStopLoss := fill.request.stopLoss
  takeProfit1 := fill.request.takeProfits[0]?
  takeProfit2 := fill.request.takeProfits[1]?
  takeProfit3 := fill.request.takeProfits[2]?
  riskAmount := outcome.risk.elim 0 (·.riskAmount)
  riskPercentage := outcome.risk.elim 0 (·.riskFraction)
  riskReward := (outcome.risk.bind (·.riskReward)).getD (decimalOr signal.riskReward 0)
  slippage := decimalOr fill.report.slippage 0
  openedAt := fill.report.submittedAt
  closedAt := if safelyClosed outcome then some now else none
  exitReason :=
    if safelyClosed outcome then some "UNPROTECTED_FILL_SAFELY_CLOSED"
    else if outcome.status = .protectionFailed then some "PROTECTION_FAILED"
    else none

def recordTrade (signal : TradeSignal) (outcome : ExecutionOutcome) (fill : RecordedFill)
    (position : PositionRow) (environment : String) (now : Instant) (database : Database) :
    Except PyError (TradeRow × Database) :=
  match database.tradeOf position.id with
  | some trade => .ok (trade, database)
  | none => do
    database.requireSignal signal.signalId
    database.insertTrade (persistence.filledTrade signal outcome fill position environment now)

/-- Add an event unless its key is there. -/
def addEvent (event : TradeEventRow) (database : Database) : Database :=
  if database.events.any (·.eventKey = event.eventKey) then database
  else { database with events := database.events ++ [event] }

/-- The journal entries of the outcome's transitions. -/
def recordTransitions (subject : String) (tradeId positionId : Option Nat) (transitions : List StateTransition)
    (database : Database) : Database :=
  transitions.zipIdx.foldl (fun database (transition, index) =>
    addEvent
      { tradeId
        positionId
        eventKey := "exec:" ++ persistence.sha256
          (subject ++ ":" ++ toString index ++ ":" ++ transition.current.name)
        eventType := .executionTransition
        previousState := transition.previous
        currentState := transition.current
        reason := transition.reason } database) database

/-- `_record_execution_sync` -/
def recordExecution (signal : TradeSignal) (outcome : ExecutionOutcome) (environment : String) (now : Instant)
    (database : Database) : Except PyError Database := do
  let database := recordSignal signal outcome.status database
  let (order, database) ← recordOrder outcome now database
  let subject := outcome.request.elim signal.signalId.text (·.idempotencyKey)
  match fillOf outcome with
  | some fill => do
    let (position, database) ← persistence.recordPosition signal outcome fill order now database
    let (trade, database) ← persistence.recordTrade signal outcome fill position environment now database
    pure (persistence.recordTransitions subject (some trade.id) (some position.id) outcome.transitions database)
  | none => pure (persistence.recordTransitions subject none none outcome.transitions database)

/-! ## Managing positions -/

/-- The plan of an open row with its trade. -/
def planOf (database : Database) (row : PositionRow) (trade : TradeRow) : ManagedPosition where
  positionId := row.id
  tradeId := trade.id
  ticket := row.brokerTicket
  direction := row.direction
  state := row.state
  initialVolume := row.initialVolume
  currentVolume := row.currentVolume
  openPrice := row.openPrice
  stopLoss := trade.initialStopLoss
  takeProfits := [trade.takeProfit1, trade.takeProfit2, trade.takeProfit3].filterMap id
  slippage := trade.slippage
  seenEvents := (database.events.filter (·.positionId = some row.id)).map (·.eventType)

/-- `_open_position_plans_sync` -/
def openPositionPlans (database : Database) : List ManagedPosition :=
  (database.positions.rows.filter fun row =>
    row.brokerAccountId = persistence.brokerAccountId ∧ row.closedAt = none).filterMap fun row =>
      (database.tradeOf row.id).map (planOf database row)

/-- An action that has closed its position. -/
def closes (action : PositionAction) (eventType : TradeEventType) : Bool :=
  (action.report.any (·.success)) && (eventType = .closed || eventType = .stoppedOut)

/-- The state an action moves to. -/
def appliedState (action : PositionAction) (state : Option TradeState) : Option TradeState :=
  if action.applied then state else none

/-- What an action does to the position. -/
def actedPosition (action : PositionAction) (eventType : TradeEventType) (state : Option TradeState)
    (position : Option BrokerPosition) (now : Instant) (row : PositionRow) : PositionRow :=
  let row := position.elim row fun position =>
    { row with
      currentVolume := position.volume
      currentPrice := position.currentPrice
      stopLoss := position.stopLoss
      unrealizedPnl := position.profit }
  let row := { row with state := (appliedState action state).getD row.state }
  if closes action eventType then { row with currentVolume := 0, closedAt := some now } else row

/-- What an action does to the trade of the position. -/
def actedTrade (action : PositionAction) (eventType : TradeEventType) (state : Option TradeState)
    (realizedPnl : Decimal) (now : Instant) (trade : TradeRow) : TradeRow :=
  let trade := { trade with state := (appliedState action state).getD trade.state }
  if closes action eventType then
    { trade with
      closedAt := some now
      exitPrice := action.report.bind (·.executedPrice)
      exitReason := some eventType.name
      realizedPnl
      netPnl := realizedPnl }
  else trade

/-- `_record_position_action_sync` -/
def recordPositionAction (plan : ManagedPosition) (action : PositionAction) (eventType : TradeEventType)
    (state : Option TradeState) (position : Option BrokerPosition) (now : Instant) (suffix : String)
    (database : Database) : Except PyError Database :=
  match database.positions.get plan.positionId, database.trades.get plan.tradeId with
  | some row, some trade => do
    let database ← database.updatePosition row.id (actedPosition action eventType state position now)
    let database ← database.updateTrade trade.id (actedTrade action eventType state row.realizedPnl now)
    pure (addEvent
      { tradeId := some trade.id
        positionId := some row.id
        eventKey := "position:" ++ persistence.sha256
          ("position:" ++ plan.ticket ++ ":" ++ eventType.name ++ ":" ++ suffix)
        eventType
        previousState := plan.state
        currentState := state.getD plan.state
        reason := action.reason } database)
  | _, _ => .error (.runtime "managed position disappeared from durable ledger")

/-! ## Risk in use -/

/-- The loss of a closed trade. -/
def lossOf (trade : TradeRow) : Decimal := max (-trade.realizedPnl) 0

/-- The losses of the trades closed at `since` or later. -/
def realizedLoss (trades : List TradeRow) (since : Instant) : Decimal :=
  ((trades.filter fun trade => trade.closedAt.any (since ≤ ·)).map lossOf).sum

/-- `_risk_usage_sync` -/
def riskUsage (database : Database) (now : Instant) : Except PyError RiskUsage :=
  let trades := database.trades.rows.filter (·.brokerAccountId = persistence.brokerAccountId)
  let today := dayOf now
  let snapshots := database.snapshots.filter (·.brokerAccountId = persistence.brokerAccountId)
  RiskUsage.make (realizedLoss trades (seconds 86400 * today))
    (realizedLoss trades (seconds 86400 * (today - weekday today)))
    (((trades.filter (·.closedAt = none)).map (·.riskAmount)).sum)
    ((snapshots.map (·.equity)).max?)

end WorkerPersistence

def PositionRepository.markClosed (id : Nat) (database : Database) : Except PyError Database :=
  match database.positions.get id with
  | some _ => database.updatePosition id fun row =>
      { row with state := .closed, closedAt := some database.now, currentVolume := 0 }
  | none => .error (.other "LookupError" "position does not exist")

/-- `position.current_volume = …`, flushed. -/
def PositionRepository.setVolume (id : Nat) (volume : Decimal) (database : Database) : Except PyError Database :=
  database.updatePosition id fun row => { row with currentVolume := volume }

/-- A journal with the digests of the two actions that the demos record. -/
def Demo.journal : WorkerPersistence where
  brokerAccountId := "demo-1"
  sha256
    | "position:P1:TP1_HIT:" => "1a0cb46dd2b27dab19d77c9b9550c64824c99311d6b6d3524126a078897f868a"
    | "position:P1:CLOSED:strategy-exit" => "7040d8d50ac32cd2a0350940b2b35b5c7a69efe47c063e49b73984d37ae6e02b"
    | _ => ""

end GoldFlow
