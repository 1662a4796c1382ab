import GoldFlow.Data.Fallible
import GoldFlow.Data.Rounding
import GoldFlow.Data.Table
import GoldFlow.Persistence.Models

/-! # The database -/

namespace GoldFlow

open Data

/-! ## Rows -/

structure BrokerAccountRow where
  id : String
  accountType : AccountType
  deriving DecidableEq

structure SignalRow where
  signalId : UUID
  strategyId : String
  strategyVersion : String
  symbol : String
  canonicalSymbol : String
  action : SignalAction
  confidenceScore : Int
  entryMin : Option Decimal := none
  entryMax : Option Decimal := none
  stopLoss : Option Decimal := none
  takeProfits : List Decimal := []
  riskReward : Option Decimal := none
  status : SignalStatus
  createdAt : Instant
  expiresAt : Option Instant := none
  deriving DecidableEq

structure OrderRow where
  id : Nat := 0
  signalId : UUID
  brokerAccountId : String
  idempotencyKey : String
  brokerTicket : Option String := none
  symbol : String
  direction : Direction
  orderType : OrderType
  status : OrderStatus
  volume : Decimal
  requestedPrice : Option Decimal
  executedPrice : Option Decimal := none
  stopLoss : Decimal
  takeProfits : List Decimal
  maximumSlippage : Decimal := 0
  actualSlippage : Option Decimal := none
  brokerCode : Option String := none
  brokerMessage : Option String := none
  submittedAt : Option Instant := none
  filledAt : Option Instant := none
  cancelledAt : Option Instant := none
  expiresAt : Option Instant := none
  createdAt : Instant := 0
  updatedAt : Instant := 0
  deriving DecidableEq

structure PositionRow where
  id : Nat := 0
  brokerAccountId : String
  signalId : Option UUID
  openingOrderId : Option Nat := none
  brokerTicket : String
  symbol : String
  direction : Direction
  initialVolume : Decimal
  currentVolume : Decimal
  openPrice : Decimal
  currentPrice : Decimal
  stopLoss : Decimal
  takeProfits : List Decimal
  realizedPnl : Decimal := 0
  unrealizedPnl : Decimal := 0
  state : TradeState
  openedAt : Instant
  closedAt : Option Instant := none
  updatedAt : Instant := 0
  deriving DecidableEq

structure TradeRow where
  id : Nat := 0
  positionId : Nat
  signalId : Option UUID
  brokerAccountId : String
  strategyId : String
  strategyVersion : String
  brokerTicket : String
  symbol : String
  canonicalSymbol : String
  direction : Direction
  state : TradeState
  environment : String
  volume : Decimal
  entryPrice : Decimal
  exitPrice : Option Decimal := none
  stopLoss : Decimal
  initialStopLoss : Decimal
  takeProfit1 : Option Decimal
  takeProfit2 : Option Decimal := none
  takeProfit3 : Option Decimal := none
  riskAmount : Decimal
  riskPercentage : Decimal
  riskReward : Decimal
  netPnl : Decimal := 0
  realizedPnl : Decimal := 0
  slippage : Decimal := 0
  openedAt : Instant
  closedAt : Option Instant := none
  exitReason : Option String := none
  deriving DecidableEq

structure TradeEventRow where
  tradeId : Option Nat
  positionId : Option Nat
  eventKey : String
  eventType : TradeEventType
  previousState : TradeState
  currentState : TradeState
  reason : String
  deriving DecidableEq

structure AccountSnapshotRow where
  brokerAccountId : String
  equity : Decimal
  deriving DecidableEq

/-! ## Columns

`PRICE` is `Numeric(24, 10)`, `MONEY` is `Numeric(24, 8)`, `RATIO` and `VOLUME` are `Numeric(18, 8)`. A column of
PostgreSQL, the only database of production, rounds what it is given to its decimals, halves away from zero. A
JSON column holds its numbers as texts. -/

namespace Column

abbrev price : Decimal → Decimal := toScale 10

abbrev money : Decimal → Decimal := toScale 8

abbrev ratio : Decimal → Decimal := toScale 8

abbrev volume : Decimal → Decimal := toScale 8

end Column

def SignalRow.stored (row : SignalRow) : SignalRow :=
  { row with
    entryMin := row.entryMin.map Column.price
    entryMax := row.entryMax.map Column.price
    stopLoss := row.stopLoss.map Column.price
    riskReward := row.riskReward.map Column.ratio }

def OrderRow.stored (row : OrderRow) : OrderRow :=
  { row with
    volume := Column.volume row.volume
    requestedPrice := row.requestedPrice.map Column.price
    executedPrice := row.executedPrice.map Column.price
    stopLoss := Column.price row.stopLoss
    maximumSlippage := Column.price row.maximumSlippage
    actualSlippage := row.actualSlippage.map Column.price }

def PositionRow.stored (row : PositionRow) : PositionRow :=
  { row with
    initialVolume := Column.volume row.initialVolume
    currentVolume := Column.volume row.currentVolume
    openPrice := Column.price row.openPrice
    currentPrice := Column.price row.currentPrice
    stopLoss := Column.price row.stopLoss
    realizedPnl := Column.money row.realizedPnl
    unrealizedPnl := Column.money row.unrealizedPnl }

def TradeRow.stored (row : TradeRow) : TradeRow :=
  { row with
    volume := Column.volume row.volume
    entryPrice := Column.price row.entryPrice
    exitPrice := row.exitPrice.map Column.price
    stopLoss := Column.price row.stopLoss
    initialStopLoss := Column.price row.initialStopLoss
    takeProfit1 := row.takeProfit1.map Column.price
    takeProfit2 := row.takeProfit2.map Column.price
    takeProfit3 := row.takeProfit3.map Column.price
    riskAmount := Column.money row.riskAmount
    riskPercentage := Column.ratio row.riskPercentage
    riskReward := Column.ratio row.riskReward
    netPnl := Column.money row.netPnl
    realizedPnl := Column.money row.realizedPnl
    slippage := Column.price row.slippage }

/-! ## Written rows

An inserted row gets a number and its column defaults; an updated row keeps its number, and its
`updated_at` changes with any other column. -/

def OrderRow.created (row : OrderRow) (now : Instant) (id : Nat) : OrderRow :=
  { row with id, createdAt := now, updatedAt := now }

def OrderRow.touched (change : OrderRow → OrderRow) (now : Instant) (row : OrderRow) : OrderRow :=
  { change row with id := row.id, updatedAt := if change row = row then row.updatedAt else now }

def PositionRow.created (row : PositionRow) (now : Instant) (id : Nat) : PositionRow :=
  { row with id, updatedAt := now }

def PositionRow.touched (change : PositionRow → PositionRow) (now : Instant) (row : PositionRow) : PositionRow :=
  { change row with id := row.id, updatedAt := if change row = row then row.updatedAt else now }

def TradeRow.created (row : TradeRow) (id : Nat) : TradeRow := { row with id }

def TradeRow.touched (change : TradeRow → TradeRow) (row : TradeRow) : TradeRow :=
  { change row with id := row.id }

/-! ## Constraints -/

/-- `orders.idempotency_key` and `uq_order_account_ticket`. -/
def orderSchema : Schema OrderRow where
  id := OrderRow.id
  store := OrderRow.stored
  clash first second :=
    first.idempotencyKey = second.idempotencyKey ∨
      first.brokerAccountId = second.brokerAccountId ∧ first.brokerTicket.isSome ∧
        first.brokerTicket = second.brokerTicket
  clash_comm first second := by grind
  id_store _ := rfl
  store_store row := by simp [OrderRow.stored]

/-- `uq_position_account_ticket` and `positions.opening_order_id`. -/
def positionSchema : Schema PositionRow where
  id := PositionRow.id
  store := PositionRow.stored
  clash first second :=
    first.brokerAccountId = second.brokerAccountId ∧ first.brokerTicket = second.brokerTicket ∨
      first.openingOrderId.isSome ∧ first.openingOrderId = second.openingOrderId
  clash_comm first second := by grind
  id_store _ := rfl
  store_store row := by simp [PositionRow.stored]

/-- `trades.position_id` and `uq_trade_account_ticket`. -/
def tradeSchema : Schema TradeRow where
  id := TradeRow.id
  store := TradeRow.stored
  clash first second :=
    first.positionId = second.positionId ∨
      first.brokerAccountId = second.brokerAccountId ∧ first.brokerTicket = second.brokerTicket
  clash_comm first second := by grind
  id_store _ := rfl
  store_store row := by simp [TradeRow.stored]

@[simp]
theorem orderSchema_store (row : OrderRow) : orderSchema.store row = row.stored := rfl

@[simp]
theorem positionSchema_store (row : PositionRow) : positionSchema.store row = row.stored := rfl

@[simp]
theorem tradeSchema_store (row : TradeRow) : tradeSchema.store row = row.stored := rfl

/-! ## The database -/

structure Database where
  accounts : List BrokerAccountRow := []
  signals : List SignalRow := []
  orders : Table orderSchema := .empty
  positions : Table positionSchema := .empty
  trades : Table tradeSchema := .empty
  events : List TradeEventRow := []
  snapshots : List AccountSnapshotRow := []
  now : Instant := 0

namespace Database

variable (database : Database)

/-- A table change, or the refusal of a unique constraint. -/
def admitted {α : Type} (table : String) : Option α → Except PyError α
  | some value => .ok value
  | none => .error (.integrity ("UNIQUE constraint failed: " ++ table))

/-- A row that refers to a signal needs the signal. -/
def requireSignal (signalId : UUID) : Except PyError Unit :=
  if database.signals.any (·.signalId = signalId) then .ok ()
  else .error (.integrity "FOREIGN KEY constraint failed")

def insertOrder (row : OrderRow) : Except PyError (OrderRow × Database) := do
  let orders ← admitted "orders" (database.orders.insert (row.created database.now) fun _ => rfl)
  pure (row.created database.now database.orders.rows.length, { database with orders })

def updateOrder (id : Nat) (change : OrderRow → OrderRow) : Except PyError Database := do
  let orders ← admitted "orders" (database.orders.update id (OrderRow.touched change database.now) fun _ => rfl)
  pure { database with orders }

def insertPosition (row : PositionRow) : Except PyError (PositionRow × Database) := do
  let positions ← admitted "positions" (database.positions.insert (row.created database.now) fun _ => rfl)
  pure (row.created database.now database.positions.rows.length, { database with positions })

def updatePosition (id : Nat) (change : PositionRow → PositionRow) : Except PyError Database := do
  let positions ← admitted "positions"
    (database.positions.update id (PositionRow.touched change database.now) fun _ => rfl)
  pure { database with positions }

def insertTrade (row : TradeRow) : Except PyError (TradeRow × Database) := do
  let trades ← admitted "trades" (database.trades.insert row.created fun _ => rfl)
  pure (row.created database.trades.rows.length, { database with trades })

def updateTrade (id : Nat) (change : TradeRow → TradeRow) : Except PyError Database := do
  let trades ← admitted "trades" (database.trades.update id (TradeRow.touched change) fun _ => rfl)
  pure { database with trades }

/-- `select(Trade).where(Trade.position_id == position_id)` -/
def tradeOf (positionId : Nat) : Option TradeRow := database.trades.select (·.positionId = positionId)

/-- `select(Position).where(…broker_account_id, …broker_ticket)` -/
def positionWith (brokerAccountId ticket : String) : Option PositionRow :=
  database.positions.select fun row => row.brokerAccountId = brokerAccountId ∧ row.brokerTicket = ticket

/-! ## What a change of a table shows -/

variable {database} {after : Database}

theorem admitted_eq_ok {α : Type} {table : String} {value : α} {result : Option α} :
    admitted table result = .ok value ↔ result = some value := by
  cases result <;> simp [admitted]

variable {id : Nat} {orders : Table orderSchema} {positions : Table positionSchema}
  {change : PositionRow → PositionRow}

theorem insertOrder_ok {row new : OrderRow} (inserted : database.insertOrder row = .ok (new, after)) :
    ∃ orders, database.orders.insert (row.created database.now) (fun _ => rfl) = some orders ∧
      after = { database with orders } ∧ new = row.created database.now database.orders.rows.length := by
  obtain ⟨orders, made, rest⟩ := bind_eq_ok.mp inserted
  cases rest
  exact ⟨orders, admitted_eq_ok.mp made, rfl, rfl⟩

theorem insertPosition_ok {row new : PositionRow} (inserted : database.insertPosition row = .ok (new, after)) :
    ∃ positions, database.positions.insert (row.created database.now) (fun _ => rfl) = some positions ∧
      after = { database with positions } ∧
      new = row.created database.now database.positions.rows.length := by
  obtain ⟨positions, made, rest⟩ := bind_eq_ok.mp inserted
  cases rest
  exact ⟨positions, admitted_eq_ok.mp made, rfl, rfl⟩

theorem insertTrade_ok {row new : TradeRow} (inserted : database.insertTrade row = .ok (new, after)) :
    ∃ trades, database.trades.insert row.created (fun _ => rfl) = some trades ∧
      after = { database with trades } ∧ new = row.created database.trades.rows.length := by
  obtain ⟨trades, made, rest⟩ := bind_eq_ok.mp inserted
  cases rest
  exact ⟨trades, admitted_eq_ok.mp made, rfl, rfl⟩

theorem updateOrder_ok {change : OrderRow → OrderRow} (updated : database.updateOrder id change = .ok after) :
    ∃ orders, after = { database with orders } ∧
      database.orders.update id (OrderRow.touched change database.now) (fun _ => rfl) = some orders := by
  obtain ⟨orders, made, rest⟩ := bind_eq_ok.mp updated
  cases rest
  exact ⟨orders, rfl, admitted_eq_ok.mp made⟩

theorem updatePosition_ok (updated : database.updatePosition id change = .ok after) :
    ∃ positions, after = { database with positions } ∧
      database.positions.update id (PositionRow.touched change database.now) (fun _ => rfl) = some positions := by
  obtain ⟨positions, made, rest⟩ := bind_eq_ok.mp updated
  cases rest
  exact ⟨positions, rfl, admitted_eq_ok.mp made⟩

theorem updateTrade_ok {change : TradeRow → TradeRow} (updated : database.updateTrade id change = .ok after) :
    ∃ trades, after = { database with trades } ∧
      database.trades.update id (TradeRow.touched change) (fun _ => rfl) = some trades := by
  obtain ⟨trades, made, rest⟩ := bind_eq_ok.mp updated
  cases rest
  exact ⟨trades, rfl, admitted_eq_ok.mp made⟩

end Database

end GoldFlow
