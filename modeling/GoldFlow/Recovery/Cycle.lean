import GoldFlow.Persistence.Writes
import GoldFlow.Worker.Positions

/-! # A recovery cycle of the worker -/

namespace GoldFlow

open Effect

/-- What a recovery cycle finds. -/
structure RecoveryCycle where
  books : DurableBooks
  environment : String
  health : BrokerHealth
  positions : List BrokerPosition
  orders : List BrokerOrder
  /-- What `unknown_keys` selects. -/
  unknownKeys : List String
  now : Instant

structure CycleState where
  database : Database
  attempts : Attempts

namespace RecoveryCycle

variable (cycle : RecoveryCycle)

/-- `get_positions(symbol)` -/
def positionsOf (symbol : Option String) : List BrokerPosition :=
  cycle.positions.filter fun item => symbol.all (item.symbol = ·)

/-- `get_orders(symbol)` -/
def ordersOf (symbol : Option String) : List BrokerOrder :=
  cycle.orders.filter fun item => symbol.all (item.symbol = ·)

/-- The answer of a transaction on the database. -/
def committed (state : CycleState) : Except PyError Database → Except PyError Unit × CycleState
  | .ok database => (.ok (), { state with database })
  | .error error => (.error error, state)

def respond (state : CycleState) : (op : Op) → Except PyError op.Value × CycleState
  | .broker .healthCheck => (.ok cycle.health, state)
  | .broker (.getPositions symbol) => (.ok (cycle.positionsOf symbol), state)
  | .broker (.getOrders symbol) => (.ok (cycle.ordersOf symbol), state)
  | .ledger .positions => (cycle.books.ledger.positions state.database, state)
  | .ledger .orders => (cycle.books.ledger.orders state.database, state)
  | .ledger (.upsertPosition record) => committed state (cycle.books.ledger.upsertPosition record state.database)
  | .ledger (.upsertOrder record) => committed state (cycle.books.ledger.upsertOrder record state.database)
  | .journal (.recordReconciliation _ _) => (.ok (), state)
  | .journal .unknownKeys => (.ok cycle.unknownKeys, state)
  | .journal (.signalById signalId) => (WorkerPersistence.signalById state.database signalId, state)
  | .journal (.recordExecution signal outcome now) =>
    committed state (cycle.books.persistence.recordExecution signal outcome cycle.environment now state.database)
  | .journal (.publish _) => (.ok (), state)
  | .attempts (.select key) => (.ok (state.attempts key), state)
  | .attempts (.update key status now report reason) =>
    match SqlAlchemyIdempotencyStore.update state.attempts key status now report reason with
    | .ok (attempt, attempts) => (.ok attempt, { state with attempts })
    | .error error => (.error error, state)
  | .clock => (.ok cycle.now, state)
  | _ => (.error (.runtime "not a request of the recovery cycle"), state)

def responder : Responder Port PyError CycleState where
  respond := cycle.respond

/-- `GoldFlowWorker.reconcile` in this world. -/
def reconcile (settings : WorkerSettings) (executor : TradeExecutor) (state : CycleState) :
    Outcome Port PyError Bool CycleState :=
  cycle.responder.evaluate (GoldFlowWorker.reconcile settings executor) state

end RecoveryCycle

end GoldFlow
