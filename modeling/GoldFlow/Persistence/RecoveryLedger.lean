import GoldFlow.Recovery.Reconciliation
import GoldFlow.Risk.Gates

/-! # The durable recovery ledger -/

namespace GoldFlow

open Data

def Direction.value : Direction → String
  | .long => "LONG"
  | .short => "SHORT"

def Direction.action : Direction → SignalAction
  | .long => .long
  | .short => .short

structure SQLAlchemyRecoveryLedger where
  brokerAccountId : String
  /-- `uuid5(NAMESPACE_URL, …)` -/
  uuid5 : String → UUID

namespace SQLAlchemyRecoveryLedger

variable (ledger : SQLAlchemyRecoveryLedger)

/-! ## Reading -/

/-- `_broker_position` -/
def brokerPosition (row : PositionRow) (trade : Option TradeRow) : Except PyError BrokerPosition :=
  BrokerPosition.make row.brokerTicket row.symbol row.direction row.currentVolume row.openPrice
    row.currentPrice row.stopLoss row.takeProfits.head? row.unrealizedPnl row.openedAt
    (trade.elim "" (·.strategyId)) row.signalId

/-- `_broker_order` -/
def brokerOrder (row : OrderRow) : BrokerOrder where
  ticket := row.brokerTicket.getD ""
  symbol := row.symbol
  direction := row.direction
  orderType := row.orderType
  volume := row.volume
  price := decimalOr row.requestedPrice (decimalOr row.executedPrice 0)
  stopLoss := row.stopLoss
  takeProfit := row.takeProfits.head?
  status := row.status
  createdAt := row.submittedAt.getD row.createdAt
  idempotencyKey := row.idempotencyKey

def ledgerPosition (database : Database) (row : PositionRow) : Except PyError LedgerPosition := do
  let item ← brokerPosition row (database.tradeOf row.id)
  pure { item, status := if row.closedAt.isSome then .closed else .opened, updatedAt := row.updatedAt }

def ledgerOrder (row : OrderRow) : LedgerOrder where
  item := brokerOrder row
  status := if row.status ∈ [.cancelled, .rejected] then .cancelled else .pending
  updatedAt := row.updatedAt

/-- `_positions_sync` -/
def positions (database : Database) : Except PyError (List LedgerPosition) :=
  (database.positions.rows.filter (·.brokerAccountId = ledger.brokerAccountId)).mapM (ledgerPosition database)

/-- `_orders_sync` -/
def orders (database : Database) : Except PyError (List LedgerOrder) :=
  .ok ((database.orders.rows.filter fun row =>
    row.brokerAccountId = ledger.brokerAccountId ∧ row.brokerTicket.isSome).map ledgerOrder)

/-! ## Writing -/

/-- The signal of the item, or one derived from symbol and direction. -/
def recoverySignalId (symbol : String) (direction : Direction) (signalId : Option UUID) : UUID :=
  signalId.getD (ledger.uuid5 ("goldflow:recovery:" ++ symbol ++ ":" ++ direction.value))

/-- `_ensure_recovery_signal` -/
def ensureRecoverySignal (database : Database) (symbol : String) (direction : Direction)
    (signalId : Option UUID) : UUID × Database :=
  let identifier := ledger.recoverySignalId symbol direction signalId
  if database.signals.any (·.signalId = identifier) then (identifier, database)
  else
    (identifier, { database with
      signals := database.signals ++ [
        { signalId := identifier
          strategyId := "broker_recovery"
          strategyVersion := "recovered"
          symbol
          canonicalSymbol := "XAUUSD"
          action := direction.action
          confidenceScore := 0
          status := .executed
          createdAt := database.now }] })

/-- `"demo"` only for an account that is known to be one. -/
def environment (database : Database) : String :=
  match database.accounts.find? (·.id = ledger.brokerAccountId) with
  | some account => if account.accountType = .demo then "demo" else "production"
  | none => "production"

/-- The `risk_reward` of a recovered trade. -/
def recoveredReward (item : BrokerPosition) : Decimal :=
  match item.takeProfit with
  | some target =>
    if item.openPrice ≠ item.stopLoss then
      Decimal.rounded
        (Decimal.rounded |target - item.openPrice| / Decimal.rounded |item.openPrice - item.stopLoss|)
    else 0
  | none => 0

/-- The `risk_amount` of a recovered trade. -/
def recoveredRisk (item : BrokerPosition) : Decimal :=
  Decimal.rounded (Decimal.rounded |item.openPrice - item.stopLoss| * item.volume)

/-- The trade `_ensure_recovery_trade` adds. -/
def recoveryTrade (database : Database) (positionId : Nat) (item : BrokerPosition) (signalId : UUID) :
    TradeRow where
  positionId
  signalId := some signalId
  brokerAccountId := ledger.brokerAccountId
  strategyId := if item.strategyId = "" then "broker_recovery" else item.strategyId
  strategyVersion := "recovered"
  brokerTicket := item.ticket
  symbol := item.symbol
  canonicalSymbol := "XAUUSD"
  direction := item.direction
  state := .positionOpen
  environment := ledger.environment database
  volume := item.volume
  entryPrice := item.openPrice
  stopLoss := item.stopLoss
  initialStopLoss := item.stopLoss
  takeProfit1 := item.takeProfit
  riskAmount := recoveredRisk item
  riskPercentage := 0
  riskReward := recoveredReward item
  openedAt := item.openedAt

/-- `_ensure_recovery_trade` -/
def ensureRecoveryTrade (database : Database) (positionId : Nat) (item : BrokerPosition) (signalId : UUID) :
    Except PyError Database :=
  match database.tradeOf positionId with
  | some _ => .ok database
  | none => do
    let (_, database) ← database.insertTrade (ledger.recoveryTrade database positionId item signalId)
    pure database

/-- The row of a position that the ledger does not have. -/
def recoveredRow (item : BrokerPosition) (signalId : UUID) : PositionRow where
  brokerAccountId := ledger.brokerAccountId
  signalId := some signalId
  brokerTicket := item.ticket
  symbol := item.symbol
  direction := item.direction
  initialVolume := item.volume
  currentVolume := item.volume
  openPrice := item.openPrice
  currentPrice := item.currentPrice
  stopLoss := item.stopLoss
  takeProfits := item.takeProfit.toList
  unrealizedPnl := item.profit
  state := .positionOpen
  openedAt := item.openedAt

/-- What an upsert does to the row it finds. -/
def followed (record : LedgerPosition) (row : PositionRow) : PositionRow :=
  let row :=
    { row with
      currentVolume := record.item.volume
      currentPrice := record.item.currentPrice
      stopLoss := record.item.stopLoss
      takeProfits := record.item.takeProfit.toList
      unrealizedPnl := record.item.profit }
  if record.status = .closed then
    { row with state := .closed, currentVolume := 0, closedAt := some record.updatedAt }
  else { row with state := .positionOpen, closedAt := none }

/-- What a closing upsert does to the trade of the row. -/
def closedTrade (record : LedgerPosition) (trade : TradeRow) : TradeRow :=
  { trade with
    state := .closed
    exitPrice := some record.item.currentPrice
    realizedPnl := record.item.profit
    netPnl := record.item.profit
    closedAt := some record.updatedAt
    exitReason := some "BROKER_RECONCILIATION" }

/-- `_upsert_position_sync` -/
def upsertPosition (record : LedgerPosition) (database : Database) : Except PyError Database :=
  let item := record.item
  let found := database.positionWith ledger.brokerAccountId item.ticket
  let (signalId, database) := ledger.ensureRecoverySignal database item.symbol item.direction item.signalId
  match found with
  | none => do
    let (row, database) ← database.insertPosition (ledger.recoveredRow item signalId)
    ledger.ensureRecoveryTrade database row.id item signalId
  | some row => do
    let database ← database.updatePosition row.id (followed record)
    match database.tradeOf row.id with
    | some trade =>
      if record.status = .closed then database.updateTrade trade.id (closedTrade record) else pure database
    | none => pure database

/-- The key of the row of an order that the ledger does not have. -/
def recoveredKey (item : BrokerOrder) : String :=
  if item.idempotencyKey = "" then "recovered:" ++ ledger.brokerAccountId ++ ":" ++ item.ticket
  else item.idempotencyKey

/-- The row of an order that the ledger does not have. -/
def recoveredOrder (item : BrokerOrder) (signalId : UUID) : OrderRow where
  signalId
  brokerAccountId := ledger.brokerAccountId
  idempotencyKey := ledger.recoveredKey item
  brokerTicket := some item.ticket
  symbol := item.symbol
  direction := item.direction
  orderType := item.orderType
  status := item.status
  volume := item.volume
  requestedPrice := some item.price
  stopLoss := item.stopLoss
  takeProfits := item.takeProfit.toList
  submittedAt := some item.createdAt

/-- What an upsert does to the order it finds: only the status follows. -/
def followedOrder (record : LedgerOrder) (row : OrderRow) : OrderRow :=
  if record.status = .cancelled then
    { row with status := .cancelled, cancelledAt := some record.updatedAt }
  else { row with status := record.item.status }

/-- `select(Order).where(…broker_account_id, …broker_ticket)` -/
def orderWith (database : Database) (ticket : String) : Option OrderRow :=
  database.orders.select fun row =>
    row.brokerAccountId = ledger.brokerAccountId ∧ row.brokerTicket = some ticket

/-- `_upsert_order_sync` -/
def upsertOrder (record : LedgerOrder) (database : Database) : Except PyError Database :=
  let item := record.item
  match ledger.orderWith database item.ticket with
  | none => do
    let (signalId, database) := ledger.ensureRecoverySignal database item.symbol item.direction none
    let (_, database) ← database.insertOrder (ledger.recoveredOrder item signalId)
    pure database
  | some row => database.updateOrder row.id (followedOrder record)

def backend : LedgerBackend Database where
  positions := ledger.positions
  orders := ledger.orders
  upsertPosition := ledger.upsertPosition
  upsertOrder := ledger.upsertOrder

end SQLAlchemyRecoveryLedger

end GoldFlow
