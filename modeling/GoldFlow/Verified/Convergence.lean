import GoldFlow.Verified.LedgerPlan
import Mathlib.Tactic.NormNum

/-! # Convergence of reconciliation in memory -/

namespace GoldFlow

open Effect Data ReconciliationService Responder

namespace InMemoryRecoveryLedger

/-! ## The writes -/

def withPositions (state : RecoveryState InMemoryRecoveryLedger) (positions : Keyed positionSide.key) :
    RecoveryState InMemoryRecoveryLedger :=
  { state with ledger := { state.ledger with positions } }

def withOrders (state : RecoveryState InMemoryRecoveryLedger) (orders : Keyed orderSide.key) :
    RecoveryState InMemoryRecoveryLedger :=
  { state with ledger := { state.ledger with orders } }

theorem stores_positions (state : RecoveryState InMemoryRecoveryLedger) (writes : List (LedgerWrite BrokerPosition)) :
    positionSide.Stores backend.responder state writes
      (writes.map fun write => ⟨.ledger (.upsertPosition write.record), .ok ()⟩)
      (withPositions state (state.ledger.positions.setAll (writes.map (·.record)))) := by
  induction writes generalizing state with
  | nil => exact .nil
  | cons write writes ih =>
    exact .cons (evaluate_perform _ state)
      (ih (withPositions state (state.ledger.positions.set write.record)))

theorem stores_orders (state : RecoveryState InMemoryRecoveryLedger) (writes : List (LedgerWrite BrokerOrder)) :
    orderSide.Stores backend.responder state writes
      (writes.map fun write => ⟨.ledger (.upsertOrder write.record), .ok ()⟩)
      (withOrders state (state.ledger.orders.setAll (writes.map (·.record)))) := by
  induction writes generalizing state with
  | nil => exact .nil
  | cons write writes ih =>
    exact .cons (evaluate_perform _ state)
      (ih (withOrders state (state.ledger.orders.set write.record)))

theorem written_positions (writes : List (LedgerWrite BrokerPosition)) :
    (writes.map fun write => (⟨.ledger (.upsertPosition write.record), .ok ()⟩ : PortEvent)).filterMap writtenTicket =
      (writes.map positionSide.incidentOf).map (·.ticket) := by
  induction writes with
  | nil => rfl
  | cons write writes ih => exact congrArg (write.record.item.ticket :: ·) ih

theorem written_orders (writes : List (LedgerWrite BrokerOrder)) :
    (writes.map fun write => (⟨.ledger (.upsertOrder write.record), .ok ()⟩ : PortEvent)).filterMap writtenTicket =
      (writes.map orderSide.incidentOf).map (·.ticket) := by
  induction writes with
  | nil => rfl
  | cons write writes ih => exact congrArg (write.record.item.ticket :: ·) ih

section Run

variable (ledger : InMemoryRecoveryLedger) (now : Instant) (positions : List BrokerPosition)
  (orders : List BrokerOrder)

def reconciled : InMemoryRecoveryLedger where
  positions := positionSide.reconciled now (.ofList positions) ledger.positions
  orders := orderSide.reconciled now (.ofList orders) ledger.orders

abbrev positionPlan : List (LedgerWrite BrokerPosition) :=
  positionSide.plan now (.ofList positions) ledger.positions

abbrev orderPlan : List (LedgerWrite BrokerOrder) := orderSide.plan now (.ofList orders) ledger.orders

def reportOf : ReconciliationReport where
  healthy := true
  incidents := (ledger.positionPlan now positions).map positionSide.incidentOf ++
    (ledger.orderPlan now orders).map orderSide.incidentOf
  recoveredPositions := (ledger.positionPlan now positions).countP (·.repair = .recovered)
  recoveredOrders := (ledger.orderPlan now orders).countP (·.repair = .recovered)
  closedPositions := (ledger.positionPlan now positions).countP (·.repair = .retired)
  cancelledOrders := (ledger.orderPlan now orders).countP (·.repair = .retired)

def readsOf (health : BrokerHealth) : BrokerReads where
  health := .ok health
  positions := .ok positions
  orders := .ok orders

variable {ledger now positions orders} {health : BrokerHealth}

/-- **A healthy run makes the writes of the plan and reports them.** -/
theorem reconciles (healthy : health.healthy = true ∧ health.connected = true) :
    Reconciles backend ⟨ledger, readsOf positions orders health, now⟩ (.ok (ledger.reportOf now positions orders))
      ⟨ledger.reconciled now positions orders, readsOf positions orders health, now⟩
      ((ledger.reportOf now positions orders).incidents.map (·.ticket)) := by
  let state : RecoveryState InMemoryRecoveryLedger := ⟨ledger, readsOf positions orders health, now⟩
  have written := positionSide.evaluate_writeAll (stores_positions state (ledger.positionPlan now positions))
    { incidents := [] }
  have ordersWritten := orderSide.evaluate_writeAll
    (stores_orders (withPositions state (ledger.positions.setAll ((ledger.positionPlan now positions).map (·.record))))
      (ledger.orderPlan now orders))
    { incidents := (positionSide.tallied { incidents := [] } (ledger.positionPlan now positions)).incidents }
  have applied : backend.responder.evaluate
      (applyPlan now (.ofList positions) (.ofList orders) ledger.positions ledger.orders) state =
      ⟨(ledger.positionPlan now positions).map (fun write => ⟨.ledger (.upsertPosition write.record), .ok ()⟩) ++
        (ledger.orderPlan now orders).map (fun write => ⟨.ledger (.upsertOrder write.record), .ok ()⟩),
        .ok (ledger.reportOf now positions orders),
        ⟨ledger.reconciled now positions orders, readsOf positions orders health, now⟩⟩ := by
    rw [applyPlan, evaluate_bind, written, Outcome.andThen_ok, evaluate_bind, ordersWritten,
      Outcome.andThen_ok, evaluate_pure]
    simp [reportOf, LedgerSide.tallied, reconciled, LedgerSide.reconciled, withPositions, withOrders, state]
  have localPositions : (.ofList ledger.positions.items : Keyed positionSide.key) = ledger.positions :=
    Keyed.ofList_self _
  have localOrders : (.ofList ledger.orders.items : Keyed orderSide.key) = ledger.orders := Keyed.ofList_self _
  rw [← localPositions, ← localOrders] at applied
  have healthRead : state.reads.health = .ok health := rfl
  have positionsRead : state.reads.positions = .ok positions := rfl
  have ordersRead : state.reads.orders = .ok orders := rfl
  have run := reconciles_plan healthRead healthy positionsRead ordersRead rfl rfl applied
  rw [List.filterMap_append, written_positions, written_orders, ← List.map_append] at run
  exact run

theorem reconciles_again (healthy : health.healthy = true ∧ health.connected = true)
    (positionsTyped : positionSide.Typed ledger.positions) (ordersTyped : orderSide.Typed ledger.orders)
    (later : Instant) :
    Reconciles backend ⟨ledger.reconciled now positions orders, readsOf positions orders health, later⟩
      (.ok { healthy := true, incidents := [] })
      ⟨ledger.reconciled now positions orders, readsOf positions orders health, later⟩ [] := by
  have noPositions := positionSide.plan_reconciled now (.ofList positions) positionsTyped later
  have noOrders := orderSide.plan_reconciled now (.ofList orders) ordersTyped later
  have report : (ledger.reconciled now positions orders).reportOf later positions orders =
      { healthy := true, incidents := [] } := by
    simp [reportOf, reconciled, noPositions, noOrders]
  have unchanged : (ledger.reconciled now positions orders).reconciled later positions orders =
      ledger.reconciled now positions orders := by
    have samePositions : positionSide.reconciled later (.ofList positions)
        (positionSide.reconciled now (.ofList positions) ledger.positions) =
        positionSide.reconciled now (.ofList positions) ledger.positions := by
      rw [LedgerSide.reconciled, noPositions, List.map_nil, Keyed.setAll_nil]
    have sameOrders : orderSide.reconciled later (.ofList orders)
        (orderSide.reconciled now (.ofList orders) ledger.orders) =
        orderSide.reconciled now (.ofList orders) ledger.orders := by
      rw [LedgerSide.reconciled, noOrders, List.map_nil, Keyed.setAll_nil]
    rw [reconciled, reconciled, samePositions, sameOrders]
  have run : Reconciles backend ⟨ledger.reconciled now positions orders, readsOf positions orders health, later⟩
      _ _ _ := reconciles healthy
  rwa [report, unchanged] at run

end Run

end InMemoryRecoveryLedger

/-! ## Failing reads -/

inductive BrokerReads.Fails (reads : BrokerReads) : Prop
  | health {error : PyError} : reads.health = .error error → Fails reads
  | unhealthy {health : BrokerHealth} :
      reads.health = .ok health → (!health.healthy || !health.connected) = true → Fails reads
  | positions {error : PyError} : reads.positions = .error error → Fails reads
  | orders {error : PyError} : reads.orders = .error error → Fails reads

theorem reconcile_unchanged {σ : Type} (backend : LedgerBackend σ) {state : RecoveryState σ}
    (fails : state.reads.Fails) : (backend.responder.evaluate reconcile state).state = state := by
  have healthAnswer : backend.responder.respond state (.broker .healthCheck) = (state.reads.health, state) := rfl
  have positionsAnswer : backend.responder.respond state (.broker (.getPositions none)) =
      (state.reads.positions, state) := rfl
  have ordersAnswer : backend.responder.respond state (.broker (.getOrders none)) =
      (state.reads.orders, state) := rfl
  rw [reconcile_eq, askBroker]
  cases healthRead : state.reads.health with
  | error =>
    rw [healthRead] at healthAnswer
    rw [evaluate_perform_error healthAnswer]
  | ok health =>
    rw [healthRead] at healthAnswer
    rw [evaluate_perform_bind healthAnswer]
    by_cases unhealthy : (!health.healthy || !health.connected) = true
    · simp [unhealthy]
    · simp only [unhealthy]
      rw [if_neg (by decide), askBroker]
      cases positionsRead : state.reads.positions with
      | error =>
        rw [positionsRead] at positionsAnswer
        rw [evaluate_perform_error positionsAnswer]
      | ok positions =>
        rw [positionsRead] at positionsAnswer
        rw [evaluate_perform_bind positionsAnswer, askBroker]
        -- the only read left that can have failed
        cases fails with
        | health failed => rw [healthRead] at failed; cases failed
        | unhealthy read negative =>
          rw [healthRead] at read
          cases read
          exact absurd negative unhealthy
        | positions failed => rw [positionsRead] at failed; cases failed
        | orders failed =>
          rw [failed] at ordersAnswer
          rw [evaluate_perform_error ordersAnswer]

namespace Demo

def position (ticket : String) (volume : Decimal) (volume_pos : 0 < volume) : BrokerPosition where
  ticket
  symbol := "XAUUSDm"
  direction := .long
  volume
  openPrice := 2000
  currentPrice := 2001
  stopLoss := 1999
  takeProfit := some 2002
  profit := 10
  openedAt := seconds 1767225600
  volume_pos
  openPrice_pos := price_pos
  stopLoss_pos := by norm_num

def order (ticket : String) : BrokerOrder where
  ticket
  symbol := "XAUUSDm"
  direction := .long
  orderType := .limit
  volume := 1 / 10
  price := 1998
  stopLoss := 1997
  takeProfit := some 2000
  status := .pending
  createdAt := seconds 1767225600
  idempotencyKey := "key:" ++ ticket

def recoveryLedger : InMemoryRecoveryLedger where
  positions := .ofList
    [{ item := position "P1" 1 lot_pos, status := .opened, updatedAt := 0 },
      { item := position "P2" 1 lot_pos, status := .closed, updatedAt := 0 }]
  orders := .ofList [{ item := order "O1", status := .pending, updatedAt := 0 }]

def healthy : BrokerHealth := { healthy := true, connected := true, tradingAllowed := true }

def listed : List BrokerPosition := [position "P2" 2 (by norm_num)]

end Demo

open Demo

open InMemoryRecoveryLedger in
/-- **Reconciliation converges, and a second one does nothing.** A failing broker leaves the ledger alone. -/
theorem reconciliation_converges (ledger : InMemoryRecoveryLedger) (now : Instant) :
    (∀ (health : BrokerHealth) (positions : List BrokerPosition) (orders : List BrokerOrder),
      health.healthy = true ∧ health.connected = true →
      positionSide.Typed ledger.positions → orderSide.Typed ledger.orders →
      (positions.map (·.ticket)).Nodup → (orders.map (·.ticket)).Nodup →
      ∃ report after,
        Reconciles backend ⟨ledger, readsOf positions orders health, now⟩ (.ok report)
          ⟨after, readsOf positions orders health, now⟩ (report.incidents.map (·.ticket)) ∧
        positionSide.Converged positions ledger.positions after.positions report.recoveredPositions
          report.closedPositions ∧
        orderSide.Converged orders ledger.orders after.orders report.recoveredOrders report.cancelledOrders ∧
        ∀ later, Reconciles backend ⟨after, readsOf positions orders health, later⟩
          (.ok { healthy := true, incidents := [] }) ⟨after, readsOf positions orders health, later⟩ []) ∧
    ∀ reads : BrokerReads, reads.Fails →
      (backend.responder.evaluate reconcile ⟨ledger, reads, now⟩).state.ledger = ledger := by
  constructor
  · intro health positions orders healthy positionsTyped ordersTyped positionsDistinct ordersDistinct
    refine ⟨ledger.reportOf now positions orders, ledger.reconciled now positions orders, reconciles healthy,
      ?_, ?_, ?_⟩
    · exact positionSide.converged now positionsTyped positionsDistinct
    · exact orderSide.converged now ordersTyped ordersDistinct
    · exact fun later => reconciles_again healthy positionsTyped ordersTyped later
  · intro reads fails
    rw [reconcile_unchanged backend fails]

open InMemoryRecoveryLedger in
/-- The demo ledger meets the premises, and so does a broker that is down. -/
theorem reconciliation_converges_demo :
    (∃ report after,
      Reconciles backend ⟨recoveryLedger, readsOf listed [] Demo.healthy, 0⟩ (.ok report)
        ⟨after, readsOf listed [] Demo.healthy, 0⟩ (report.incidents.map (·.ticket)) ∧
      positionSide.Converged listed recoveryLedger.positions after.positions report.recoveredPositions
        report.closedPositions) ∧
    (backend.responder.evaluate reconcile
      ⟨recoveryLedger, { readsOf [] [] Demo.healthy with health := .error (.timeout "") }, 0⟩).state.ledger =
      recoveryLedger := by
  obtain ⟨converges, unchanged⟩ := reconciliation_converges recoveryLedger 0
  have positionsTyped : positionSide.Typed recoveryLedger.positions := by
    unfold LedgerSide.Typed
    decide +kernel
  have ordersTyped : orderSide.Typed recoveryLedger.orders := by
    unfold LedgerSide.Typed
    decide +kernel
  obtain ⟨report, after, run, positions, _⟩ := converges Demo.healthy listed [] (by decide) positionsTyped
    ordersTyped (by decide +kernel) (by decide)
  exact ⟨⟨report, after, run, positions⟩, unchanged _ (.health rfl)⟩

end GoldFlow
