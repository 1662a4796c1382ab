import GoldFlow.Data.Keyed
import GoldFlow.Effect.Evaluation
import GoldFlow.Ports

/-! # Reconciliation with the broker -/

namespace GoldFlow

open Effect Data

/-- What the loop for positions and the loop for orders differ in. -/
structure LedgerSide (α : Type) where
  ticket : α → String
  live : LedgerStatus
  gone : LedgerStatus
  upsert : LedgerRecord α → Py Unit
  /-- The codes and the details of the incidents. -/
  recovered : String × String
  drifted : String × String
  retired : String × String
  live_ne_gone : live ≠ gone

namespace LedgerSide

variable {α : Type} (side : LedgerSide α)

/-- The key of a record in the ledger. -/
def key (record : LedgerRecord α) : String := side.ticket record.item

end LedgerSide

def positionSide : LedgerSide BrokerPosition where
  ticket := BrokerPosition.ticket
  live := .opened
  gone := .closed
  upsert record := askLedger (.upsertPosition record)
  recovered := ("BROKER_POSITION_RECOVERED", "broker position restored to ledger")
  drifted := ("POSITION_DRIFT_REPAIRED", "broker values replaced ledger values")
  retired := ("LEDGER_POSITION_MARKED_CLOSED", "position absent at healthy broker")
  live_ne_gone := by decide

def orderSide : LedgerSide BrokerOrder where
  ticket := BrokerOrder.ticket
  live := .pending
  gone := .cancelled
  upsert record := askLedger (.upsertOrder record)
  recovered := ("BROKER_ORDER_RECOVERED", "broker order restored to ledger")
  drifted := ("ORDER_DRIFT_REPAIRED", "broker values replaced ledger values")
  retired := ("LEDGER_ORDER_MARKED_CANCELLED", "order absent at healthy broker")
  live_ne_gone := by decide

namespace ReconciliationService

/-- The incidents so far and the counters of one half. -/
structure Tally where
  incidents : List ReconciliationIncident
  recovered : Nat := 0
  retired : Nat := 0

variable {α : Type} [DecidableEq α] (side : LedgerSide α) (now : Instant)

def incident (text : String × String) (ticket : String) : ReconciliationIncident :=
  { code := text.1, ticket, detail := text.2 }

/-- A broker item that the ledger does not have, or has as gone. -/
def recover (item : α) : Py Unit :=
  side.upsert { item, status := side.live, recovered := true, updatedAt := now }

def Tally.recover (tally : Tally) (item : α) : Tally :=
  { tally with
    incidents := tally.incidents ++ [incident side.recovered (side.ticket item)]
    recovered := tally.recovered + 1 }

/-- The loop over what the broker lists. -/
def restore (localRecords : Keyed side.key) : List α → Tally → Py Tally
  | [], tally => pure tally
  | item :: items, tally =>
    match localRecords.get (side.ticket item) with
    | none => do
      recover side now item
      restore localRecords items (tally.recover side item)
    | some record =>
      if record.status = side.gone then do
        recover side now item
        restore localRecords items (tally.recover side item)
      else if record.item ≠ item then do
        side.upsert { record with item, updatedAt := now }
        restore localRecords items
          { tally with incidents := tally.incidents ++ [incident side.drifted (side.ticket item)] }
      else restore localRecords items tally

/-- The loop over what the ledger has. -/
def retire (brokerItems : Keyed side.ticket) : List (LedgerRecord α) → Tally → Py Tally
  | [], tally => pure tally
  | record :: records, tally =>
    if record.status = side.live ∧ (brokerItems.get (side.key record)).isNone then do
      side.upsert { record with status := side.gone, updatedAt := now }
      retire brokerItems records
        { tally with
          incidents := tally.incidents ++ [incident side.retired (side.key record)]
          retired := tally.retired + 1 }
    else retire brokerItems records tally

def reconcile : Py ReconciliationReport := do
  let health ← askBroker .healthCheck
  if !health.healthy || !health.connected then
    pure
      { healthy := false
        incidents := [⟨"BROKER_UNAVAILABLE", "", "reconciliation deferred; ledger unchanged"⟩] }
  else do
    let brokerPositions : Keyed positionSide.ticket := .ofList (← askBroker (.getPositions none))
    let brokerOrders : Keyed orderSide.ticket := .ofList (← askBroker (.getOrders none))
    let localPositions : Keyed positionSide.key := .ofList (← askLedger .positions)
    let localOrders : Keyed orderSide.key := .ofList (← askLedger .orders)
    let now ← clock
    let positions ← restore positionSide now localPositions brokerPositions.items { incidents := [] }
    let positions ← retire positionSide now brokerPositions localPositions.items positions
    let orders ← restore orderSide now localOrders brokerOrders.items { incidents := positions.incidents }
    let orders ← retire orderSide now brokerOrders localOrders.items orders
    pure
      { healthy := true
        incidents := orders.incidents
        recoveredPositions := positions.recovered
        recoveredOrders := orders.recovered
        closedPositions := positions.retired
        cancelledOrders := orders.retired }

end ReconciliationService

/-! ## Ledgers -/

structure LedgerBackend (σ : Type) where
  positions : σ → Except PyError (List LedgerPosition)
  orders : σ → Except PyError (List LedgerOrder)
  upsertPosition : LedgerPosition → σ → Except PyError σ
  upsertOrder : LedgerOrder → σ → Except PyError σ

structure InMemoryRecoveryLedger where
  positions : Keyed positionSide.key := .empty
  orders : Keyed orderSide.key := .empty

def InMemoryRecoveryLedger.backend : LedgerBackend InMemoryRecoveryLedger where
  positions ledger := .ok ledger.positions.items
  orders ledger := .ok ledger.orders.items
  upsertPosition record ledger := .ok { ledger with positions := ledger.positions.set record }
  upsertOrder record ledger := .ok { ledger with orders := ledger.orders.set record }

/-- What the broker answers. -/
structure BrokerReads where
  health : Except PyError BrokerHealth
  positions : Except PyError (List BrokerPosition)
  orders : Except PyError (List BrokerOrder)

structure RecoveryState (σ : Type) where
  ledger : σ
  reads : BrokerReads
  now : Instant

/-- The answer of a transaction, which leaves the state as it was when it raises. -/
def transactionAnswer {σ : Type} (state : RecoveryState σ) : Except PyError σ → Except PyError Unit × RecoveryState σ
  | .ok ledger => (.ok (), { state with ledger })
  | .error error => (.error error, state)

def LedgerBackend.responder {σ : Type} (backend : LedgerBackend σ) :
    Responder Port PyError (RecoveryState σ) where
  respond := fun state op =>
    match op with
    | .broker .healthCheck => (state.reads.health, state)
    | .broker (.getPositions none) => (state.reads.positions, state)
    | .broker (.getOrders none) => (state.reads.orders, state)
    | .ledger .positions => (backend.positions state.ledger, state)
    | .ledger .orders => (backend.orders state.ledger, state)
    | .ledger (.upsertPosition record) => transactionAnswer state (backend.upsertPosition record state.ledger)
    | .ledger (.upsertOrder record) => transactionAnswer state (backend.upsertOrder record state.ledger)
    | .clock => (.ok state.now, state)
    | _ => (.error (.runtime "not a request of reconciliation"), state)

end GoldFlow
