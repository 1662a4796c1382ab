import GoldFlow.Recovery.Cycle
import GoldFlow.Verified.LedgerSettles
import GoldFlow.Verified.ReadableLedger
import GoldFlow.Verified.StoreEquivalence

/-! # Pending orders whose reply was lost -/

namespace GoldFlow

open Effect Data ReconciliationService WorkerPersistence Responder GoldFlowWorker TradeExecutor
open SqlAlchemyIdempotencyStore SQLAlchemyRecoveryLedger
open Program (Asks)

/-! ## The ledger's part of the cycle -/

def Op.OfRecovery : Op → Prop
  | .broker .healthCheck | .broker (.getPositions none) | .broker (.getOrders none) | .ledger _ | .clock => True
  | _ => False

section Asks

variable {α : Type}

theorem LedgerSide.asks_writeAll {side : LedgerSide α} {only : Op → Prop}
    (asks : ∀ record, Asks (S := Port) only (side.upsert record)) (writes : List (LedgerWrite α)) (tally : Tally) :
    Asks (S := Port) only (side.writeAll writes tally) := by
  induction writes generalizing tally with
  | nil => exact trivial
  | cons write writes ih =>
    exact Asks.bind (asks write.record) fun _ => ih _

theorem asks_reconcile : Asks (S := Port) Op.OfRecovery ReconciliationService.reconcile := by
  rw [reconcile_eq]
  apply Asks.bind (.perform trivial)
  intro health
  apply Asks.ite
  · exact trivial
  apply Asks.bind (.perform trivial)
  intro positions
  apply Asks.bind (.perform trivial)
  intro orders
  apply Asks.bind (.perform trivial)
  intro localPositions
  apply Asks.bind (.perform trivial)
  intro localOrders
  apply Asks.bind (.perform trivial)
  intro now
  apply Asks.bind (LedgerSide.asks_writeAll (fun _ => .perform trivial) _ _)
  intro positions
  exact Asks.bind (LedgerSide.asks_writeAll (fun _ => .perform trivial) _ _) fun _ => trivial

end Asks

namespace RecoveryCycle

variable {cycle : RecoveryCycle} {state : CycleState}

def recoveryState (cycle : RecoveryCycle) (state : CycleState) : RecoveryState Database :=
  ⟨state.database, .listing cycle.health cycle.positions cycle.orders, cycle.now⟩

theorem positionsOf_none : cycle.positionsOf none = cycle.positions := by
  simp [positionsOf]

theorem ordersOf_none : cycle.ordersOf none = cycle.orders := by
  simp [ordersOf]

theorem respond_recovery (cycle : RecoveryCycle) (state : CycleState) (op : Op) (asked : op.OfRecovery) :
    cycle.books.ledger.backend.responder.respond (cycle.recoveryState state) op =
      ((cycle.responder.respond state op).1, cycle.recoveryState (cycle.responder.respond state op).2) := by
  have committed_eq : ∀ result, transactionAnswer (cycle.recoveryState state) result =
      ((committed state result).1, cycle.recoveryState (committed state result).2) := by
    intro result
    cases result <;> rfl
  cases op with
  | broker op =>
    cases op with
    | healthCheck => rfl
    | getPositions symbol =>
      cases symbol with
      | none =>
        show (Except.ok cycle.positions, _) = (Except.ok (cycle.positionsOf none), _)
        rw [positionsOf_none]
        rfl
      | some => exact asked.elim
    | getOrders symbol =>
      cases symbol with
      | none =>
        show (Except.ok cycle.orders, _) = (Except.ok (cycle.ordersOf none), _)
        rw [ordersOf_none]
        rfl
      | some => exact asked.elim
    | _ => exact asked.elim
  | ledger op =>
    cases op with
    | positions | orders => rfl
    | _ => exact committed_eq _
  | clock => rfl
  | _ => exact asked.elim

theorem respond_attempts (cycle : RecoveryCycle) (state : CycleState) (op : Op) (asked : op.OfRecovery) :
    (cycle.responder.respond state op).2.attempts = state.attempts := by
  have committed_attempts : ∀ result, (committed state result).2.attempts = state.attempts := by
    intro result
    cases result <;> rfl
  cases op with
  | broker op => cases op <;> rfl
  | ledger op =>
    cases op with
    | positions | orders => rfl
    | _ => exact committed_attempts _
  | clock => rfl
  | _ => exact asked.elim

def ledgerPart (cycle : RecoveryCycle) (database : Database) :
    Outcome Port PyError ReconciliationReport (RecoveryState Database) :=
  cycle.books.ledger.backend.reconcile (.listing cycle.health cycle.positions cycle.orders) cycle.now database

theorem evaluate_ledgerPart (cycle : RecoveryCycle) (state : CycleState) :
    (cycle.responder.evaluate ReconciliationService.reconcile state).result = (cycle.ledgerPart state.database).result ∧
      (cycle.responder.evaluate ReconciliationService.reconcile state).state =
        ⟨(cycle.ledgerPart state.database).state.ledger, state.attempts⟩ := by
  have part : cycle.ledgerPart state.database = _ :=
    evaluate_project asks_reconcile cycle.recoveryState cycle.respond_recovery state
  have kept := evaluate_keeps asks_reconcile CycleState.attempts cycle.respond_attempts state
  rw [part, ← kept]
  exact ⟨rfl, rfl⟩

end RecoveryCycle

namespace SQLAlchemyRecoveryLedger

variable {ledger : SQLAlchemyRecoveryLedger} {database after : Database} {ticket : String}
  {positions : List BrokerPosition} {orders : List BrokerOrder} {now : Instant} {record : LedgerOrder}

def HasTicket (ledger : SQLAlchemyRecoveryLedger) (database : Database) (ticket : String) : Prop :=
  ∃ row ∈ database.orders.rows, ledger.Carries row ticket

theorem Extends.hasTicket (extended : Extends database after) (has : ledger.HasTicket database ticket) :
    ledger.HasTicket after ticket := by
  obtain ⟨row, member, account, sameTicket⟩ := has
  obtain ⟨new, found, newAccount, newTicket, _⟩ := extended.orders row.id row (Table.get_of_mem member)
  exact ⟨new, Table.mem_of_get found, newAccount.trans account, newTicket.trans sameTicket⟩

theorem upsertOrder_hasTicket (written : ledger.upsertOrder record database = .ok after) :
    ledger.HasTicket after record.item.ticket := by
  cases upsertOrder_cases written with
  | inserted _ added same =>
    subst same
    exact ⟨_, (Table.mem_insert added).mpr (.inr rfl), rfl, rfl⟩
  | updated found _ _ =>
    obtain ⟨member, carries⟩ := orderWith_eq_some.mp found
    exact ((Extends.refl database).upsertOrder written).hasTicket ⟨_, member, carries⟩

theorem attempted_hasTicket {writes : List (LedgerWrite BrokerOrder)}
    (attempted : Attempted ledger.upsertOrder database writes after true) {write : LedgerWrite BrokerOrder}
    (member : write ∈ writes) : ledger.HasTicket after write.record.item.ticket := by
  generalize finished : true = complete at attempted
  induction attempted with
  | done => cases member
  | refused => cases finished
  | @stored before middle final complete first rest made later ih =>
    rcases List.mem_cons.mp member with rfl | inside
    · have grown : Extends middle final :=
        later.invariant (Extends middle) (fun _ _ _ _ extended written => extended.upsertOrder written) (.refl middle)
      exact grown.hasTicket (upsertOrder_hasTicket made)
    · exact ih inside finished

theorem run_hasTicket {report : ReconciliationReport}
    (run : LedgerRun ledger.backend positions orders now database (.ok report) after) {item : BrokerOrder}
    (listed : item ∈ orders) : ledger.HasTicket after item.ticket := by
  cases run with
  | @ran _ localOrders _ middle _ complete read ordersRead attempted ordersAttempted whole part =>
    cases complete with
    | false =>
      obtain ⟨error, raised⟩ := part rfl
      cases raised
    | true =>
      obtain ⟨found, shown⟩ : ∃ found, (Keyed.ofList orders : Keyed orderSide.ticket).get (orderSide.ticket item) =
          some found := Keyed.get_ofList_isSome listed
      have planned := orderSide.lookup_plan now (.ofList orders) (.ofList localOrders) item.ticket
      rw [show item.ticket = orderSide.ticket item from rfl, shown] at planned
      cases decided : orderSide.writeFor now (some found)
          ((Keyed.ofList localOrders : Keyed orderSide.key).get (orderSide.ticket item)) with
      | some write =>
        rw [decided] at planned
        have stored : ledger.HasTicket after (orderSide.key write.record) :=
          attempted_hasTicket ordersAttempted (mem_of_lookup planned)
        have ticket := key_of_lookup planned
        rw [ticket] at stored
        exact stored
      | none =>
        -- the ledger had the order before
        obtain ⟨record, known, _⟩ := (orderSide.restoreWrite_eq_none now).mp decided
        rw [get_orders ordersRead, Option.map_eq_some_iff] at known
        obtain ⟨row, placed, _⟩ := known
        obtain ⟨member, carries⟩ := orderWith_eq_some.mp placed
        exact (Extends.of_run (.ran read ordersRead attempted ordersAttempted whole part)).hasTicket
          ⟨row, member, carries⟩

theorem signals_upsertPosition {record : LedgerPosition} (written : ledger.upsertPosition record database = .ok after) :
    ∃ added, after.signals = database.signals ++ added := by
  cases upsertPosition_cases written with
  | inserted _ _ _ _ same | adopted _ _ _ same | closed _ _ _ _ _ same | followed _ _ _ same =>
    rw [same]
    exact ⟨_, rfl⟩

theorem signals_upsertOrder (written : ledger.upsertOrder record database = .ok after) :
    ∃ added, after.signals = database.signals ++ added := by
  cases upsertOrder_cases written with
  | inserted _ _ same =>
    rw [same]
    exact ⟨_, rfl⟩
  | updated _ _ same =>
    rw [same]
    exact ⟨[], by simp⟩

theorem run_signals {result : Except PyError ReconciliationReport}
    (run : LedgerRun ledger.backend positions orders now database result after) :
    ∃ added, after.signals = database.signals ++ added := by
  have chain : ∀ {middle last : Database}, (∃ added, middle.signals = database.signals ++ added) →
      (∃ added, last.signals = middle.signals ++ added) → ∃ added, last.signals = database.signals ++ added := by
    rintro middle last ⟨first, firstAdded⟩ ⟨second, secondAdded⟩
    exact ⟨first ++ second, by rw [secondAdded, firstAdded, List.append_assoc]⟩
  exact run.invariant (fun state => ∃ added, state.signals = database.signals ++ added)
    (fun _ _ _ before written => chain before (signals_upsertPosition written))
    (fun _ _ _ before written => chain before (signals_upsertOrder written)) ⟨[], by simp⟩

end SQLAlchemyRecoveryLedger

/-! ## Signals that can be read -/

def ReadableSignal (database : Database) (signalId : UUID) : Prop :=
  ∃ signal, signalById database signalId = .ok (some signal)

section ReadableSignal

variable {database after : Database} {signalId : UUID} {signal : TradeSignal} {row : SignalRow}

theorem signalFromRow_status (status : SignalStatus) (read : signalFromRow row = .ok signal) :
    ∃ signal, signalFromRow { row with status } = .ok signal := by
  simp only [signalFromRow, TradeSignal.make] at read ⊢
  split_ifs at read ⊢
  exact ⟨_, rfl⟩

theorem readableSignal_iff : ReadableSignal database signalId ↔ ∃ row signal,
    database.signals.find? (·.signalId = signalId) = some row ∧ signalFromRow row = .ok signal := by
  unfold ReadableSignal signalById
  cases database.signals.find? (·.signalId = signalId) with
  | none => simp
  | some row => cases read : signalFromRow row <;> simp [read]

theorem ReadableSignal.append {added : List SignalRow} (readable : ReadableSignal database signalId)
    (same : after.signals = database.signals ++ added) : ReadableSignal after signalId := by
  obtain ⟨row, signal, found, read⟩ := readableSignal_iff.mp readable
  apply readableSignal_iff.mpr
  exact ⟨row, signal, by rw [same, List.find?_append, found, Option.some_or], read⟩

theorem ReadableSignal.recordSignal (readable : ReadableSignal database signalId) (signal : TradeSignal)
    (status : ExecutionStatus) : ReadableSignal (recordSignal signal status database) signalId := by
  obtain ⟨row, read, found, made⟩ := readableSignal_iff.mp readable
  apply readableSignal_iff.mpr
  have same : ∀ row : SignalRow, (if row.signalId = signal.signalId then
      { row with status := (signalStatusAfter status).getD row.status } else row).signalId =
        row.signalId := by
    intro row
    split <;> rfl
  simp only [WorkerPersistence.recordSignal, List.find?_map, Function.comp_def, same, found, Option.map_some]
  split
  · obtain ⟨other, made⟩ := signalFromRow_status ((signalStatusAfter status).getD row.status) made
    exact ⟨_, other, rfl, made⟩
  · exact ⟨row, read, rfl, made⟩

end ReadableSignal

/-! ## Sends without an answer -/

/-- A send without an answer: attempt, record and the order that the broker lists. -/
structure LostSend where
  attempt : ExecutionAttempt
  record : ExecutionRecord
  item : BrokerOrder

namespace LostSend

variable (send : LostSend)

def request : OrderRequest := send.record.request

def key : String := send.request.idempotencyKey

def ticket : String := send.item.ticket

/-- The attempt is unknown, the row has no ticket, and the broker lists the order under a key of it. -/
structure Unresolved (cycle : RecoveryCycle) (executor : TradeExecutor) (state : CycleState) : Prop where
  stored : state.attempts send.key = some send.attempt
  unknown : send.attempt.status = .unknown
  decoded : SqlAlchemyIdempotencyStore.record send.attempt = .ok send.record
  pending : send.request.orderType ≠ .market
  placed : ∃ row, orderOf state.database send.key = some row ∧
    row.brokerAccountId = cycle.books.ledger.brokerAccountId ∧ row.brokerTicket = none
  known : ReadableSignal state.database send.request.signalId
  matched : executor.matchedOrder send.key (cycle.ordersOf (some send.request.symbol)) = some send.item
  ticketed : send.ticket ≠ ""
  unfilled : executor.matchedPosition send.record send.key (cycle.positionsOf (some send.request.symbol)) = none

structure Resolved (outcome : ExecutionOutcome) (attempt : ExecutionAttempt) : Prop where
  succeeded : attempt.status = .succeeded
  status : outcome.status = .pending
  request : outcome.request = some send.request
  report : ∃ report, outcome.report = some report ∧ report.brokerTicket = some send.ticket
  transitions : outcome.transitions = []

variable {send} {cycle : RecoveryCycle} {executor : TradeExecutor} {state : CycleState} {attempt : ExecutionAttempt}
  {database : Database}

theorem reads_record (stored : state.attempts send.key = some send.attempt)
    (decoded : SqlAlchemyIdempotencyStore.record send.attempt = .ok send.record) :
    cycle.responder.Returns (sqlAlchemyStore.get send.key) state (some send.record) state := by
  have selected : cycle.responder.respond state (.attempts (.select send.key)) = (.ok (some send.attempt), state) := by
    show (Except.ok (state.attempts send.key), state) = _
    rw [stored]
  apply Returns.bind (.perform selected)
  simp only [decoded]
  exact Returns.pure _ _

theorem reads_listings (symbol : String) :
    cycle.responder.Returns (do
        let positions ← askBroker (.getPositions (some symbol))
        let orders ← askBroker (.getOrders (some symbol))
        pure (positions, orders)) state (cycle.positionsOf (some symbol), cycle.ordersOf (some symbol)) state := by
  have positions : cycle.responder.respond state (.broker (.getPositions (some symbol))) =
      (.ok (cycle.positionsOf (some symbol)), state) := rfl
  have orders : cycle.responder.respond state (.broker (.getOrders (some symbol))) =
      (.ok (cycle.ordersOf (some symbol)), state) := rfl
  exact Returns.bind (.perform positions) (Returns.bind (.perform orders) (.pure _ _))

theorem record_updated (report : ExecutionReport) (reason : String) (now : Instant) {record : ExecutionRecord}
    (unknown : attempt.status = .unknown) (decoded : SqlAlchemyIdempotencyStore.record attempt = .ok record) :
    ∃ updated read, updateRow attempt .succeeded now (some report) reason = .ok updated ∧
      SqlAlchemyIdempotencyStore.record updated = .ok read ∧ updated.status = .succeeded ∧
      read.status = .succeeded ∧ read.request = record.request ∧
      read.report = some (reportFromPayload (reportPayload report)) := by
  have allowed : IdempotencyStatus.succeeded ∈ attempt.status.allowed := by
    rw [unknown]
    decide
  obtain ⟨request, made, same⟩ := bind_eq_ok.mp decoded
  cases same
  exact ⟨_, _, if_pos allowed, bind_eq_ok.mpr ⟨request, made, rfl⟩, rfl, rfl, rfl, rfl⟩

theorem resolves_order (durable : executor.kind = .sqlAlchemy) (unresolved : send.Unresolved cycle executor state) :
    ∃ outcome attempt, send.Resolved outcome attempt ∧
      cycle.responder.Returns (executor.resolveOrder send.record send.key send.item) state outcome
        { state with attempts := Function.update state.attempts send.key (some attempt) } := by
  obtain ⟨stored, unknown, decoded, pending, _, _, _, ticketed, _⟩ := unresolved
  generalize reported : reconciledReport send.record send.key send.item.ticket none
    "matched broker order" cycle.now = report
  obtain ⟨attempt, read, updated, decodedAgain, succeeded, readStatus, readRequest, readReport⟩ :=
    record_updated report "reconciled with broker state" cycle.now unknown decoded
  have time : cycle.responder.respond state .clock = (.ok cycle.now, state) := rfl
  have answered : cycle.responder.respond state
      (.attempts (.update send.key .succeeded cycle.now (some report) "reconciled with broker state")) =
        (.ok attempt, { state with attempts := Function.update state.attempts send.key (some attempt) }) := by
    simp only [RecoveryCycle.responder, RecoveryCycle.respond, update, stored, updated]
    rfl
  have resolved : send.Resolved (outcomeFromRecord read) attempt := by
    refine ⟨succeeded, ?_, congrArg some readRequest, ⟨_, readReport, ?_⟩, rfl⟩
    · simp only [outcomeFromRecord, outcomeStatus, readStatus, readRequest]
      exact if_neg pending
    · rw [← reported]
      simp [reportFromPayload, reportPayload, reconciledReport, storedText, ticket] at ticketed ⊢
      exact ticketed
  refine ⟨_, attempt, resolved, ?_⟩
  have marked : cycle.responder.Returns (executor.store.update send.key .succeeded cycle.now (some report)
      "reconciled with broker state") state read
      { state with attempts := Function.update state.attempts send.key (some attempt) } := by
    rw [store, durable]
    apply Returns.bind (.perform answered)
    rw [decodedAgain]
    exact .pure _ _
  apply Returns.bind (.perform time)
  rw [reported]
  exact Returns.bind (Returns.bind (.perform time) marked) (.pure _ _)

theorem evaluate_reconcileUnknown (durable : executor.kind = .sqlAlchemy)
    (unresolved : send.Unresolved cycle executor state) :
    ∃ outcome attempt, send.Resolved outcome attempt ∧
      cycle.responder.Returns (executor.reconcileUnknown send.key) state outcome
        { state with attempts := Function.update state.attempts send.key (some attempt) } := by
  have read : cycle.responder.Returns (executor.store.get send.key) state (some send.record) state := by
    rw [store, durable]
    exact reads_record unresolved.stored unresolved.decoded
  have status : send.record.status = .unknown := by
    obtain ⟨request, _, same⟩ := bind_eq_ok.mp unresolved.decoded
    rw [← unresolved.unknown, ← (Except.ok.inj same)]
  obtain ⟨outcome, attempt, resolved, returned⟩ := resolves_order durable unresolved
  refine ⟨outcome, attempt, resolved, ?_⟩
  apply Returns.bind read
  simp only [status]
  apply Returns.bind (Returns.catching (reads_listings send.request.symbol))
  simp only [unresolved.unfilled, unresolved.matched]
  exact returned

/-! ## Recording what the executor has settled -/

structure Recorded (send : LostSend) (ledger : SQLAlchemyRecoveryLedger) (database after : Database) : Prop where
  ticketed : ∃ row, orderOf after send.key = some row ∧
    row.brokerAccountId = ledger.brokerAccountId ∧ row.brokerTicket = some send.ticket
  others : ∀ key, key ≠ send.key → orderOf after key = orderOf database key
  tickets : ∀ ticket, ledger.HasTicket after ticket ↔ ledger.HasTicket database ticket ∨ ticket = send.ticket
  signals : ∀ signalId, ReadableSignal database signalId → ReadableSignal after signalId

section Recording

variable {outcome : ExecutionOutcome} {attempt : ExecutionAttempt} {database after : Database} {row : OrderRow}
  {signal : TradeSignal} {persistence : WorkerPersistence} {environment : String} {now : Instant}
  {ledger : SQLAlchemyRecoveryLedger}

variable (resolved : send.Resolved outcome attempt)
include resolved

theorem Resolved.recordExecution_eq (placed : orderOf database send.key = some row) :
    persistence.recordExecution signal outcome environment now database =
      (recordSignal signal .pending database).updateOrder row.id
        (executedOrder outcome now) := by
  have unfilled : fillOf outcome = none := by
    obtain ⟨report, reported, _⟩ := resolved.report
    simp [fillOf, resolved.request, reported, resolved.status]
  have found : orderOf (recordSignal signal .pending database)
      send.request.idempotencyKey = some row := placed
  rw [recordExecution, resolved.status, recordOrder, resolved.request]
  simp only [Option.bind_some, found, unfilled, resolved.transitions]
  cases (recordSignal signal .pending database).updateOrder row.id
    (executedOrder outcome now) <;> rfl

theorem Resolved.executedOrder_eq (now : Instant) (row : OrderRow) :
    (executedOrder outcome now row).brokerTicket = some send.ticket ∧
      (executedOrder outcome now row).brokerAccountId = row.brokerAccountId ∧
      (executedOrder outcome now row).idempotencyKey = row.idempotencyKey := by
  obtain ⟨report, reported, ticket⟩ := resolved.report
  simp [executedOrder, settledOrder, resolved.status, reported,
    reportedOrder, ticket]

theorem Resolved.update_isSome (placed : orderOf database send.key = some row)
    (account : row.brokerAccountId = ledger.brokerAccountId) (unticketed : row.brokerTicket = none) :
    (∃ orders, database.orders.update row.id
        (OrderRow.touched (executedOrder outcome now) database.now) (fun _ => rfl) = some orders) ↔
      ¬ ledger.HasTicket database send.ticket := by
  have found : database.orders.get row.id = some row := Table.get_of_select placed
  obtain ⟨ticket, sameAccount, sameKey⟩ := resolved.executedOrder_eq now row
  apply Iff.trans (Table.update_isSome_iff found)
  constructor
  · rintro free ⟨other, member, otherAccount, otherTicket⟩
    have apart : other.id ≠ row.id := by
      intro same
      rw [Table.eq_of_id member found same, unticketed] at otherTicket
      cases otherTicket
    have admitted := free other member apart
    simp [orderSchema, OrderRow.stored, OrderRow.touched, ticket, sameAccount, account, otherAccount, otherTicket]
      at admitted
  · intro missing other member apart
    have keys : row.idempotencyKey ≠ other.idempotencyKey := by
      intro same
      apply apart
      have clash : orderSchema.clash other row = true := by simp [orderSchema, same]
      rw [Table.eq_of_clash member (Table.mem_of_get found) clash]
      rfl
    have tickets : ¬ ledger.Carries other send.ticket := fun carries => missing ⟨other, member, carries⟩
    simp only [SQLAlchemyRecoveryLedger.Carries] at tickets
    simp [orderSchema, OrderRow.stored, OrderRow.touched, ticket, sameAccount, sameKey, account, keys]
    intro otherAccount otherTicket
    exact tickets ⟨otherAccount.symm, otherTicket.symm⟩

theorem Resolved.recorded (placed : orderOf database send.key = some row)
    (account : row.brokerAccountId = ledger.brokerAccountId) (unticketed : row.brokerTicket = none)
    {orders : Table orderSchema}
    (updated : database.orders.update row.id (OrderRow.touched (executedOrder outcome now) database.now)
      (fun _ => rfl) = some orders) :
    send.Recorded ledger database { recordSignal signal .pending database with orders } := by
  have found : database.orders.get row.id = some row := Table.get_of_select placed
  have rowKey : row.idempotencyKey = send.key := by simpa using Table.holds_of_select placed
  have ticket := fun row => (resolved.executedOrder_eq now row).1
  have sameAccount := fun row => (resolved.executedOrder_eq now row).2.1
  have sameKey := fun row => (resolved.executedOrder_eq now row).2.2
  have kept : ∀ key, orders.select (·.idempotencyKey = key) =
      (orderOf database key).map fun old =>
        if orderSchema.id old = row.id then
          (OrderRow.touched (executedOrder outcome now) database.now old).stored
        else old := by
    intro key
    apply Table.select_update updated
    simp [OrderRow.stored, OrderRow.touched, sameKey]
  constructor
  · refine ⟨(OrderRow.touched (executedOrder outcome now) database.now row).stored, ?_, ?_, ticket row⟩
    · show orders.select _ = _
      rw [kept, placed]
      exact congrArg some (if_pos rfl)
    · exact (sameAccount row).trans account
  · intro key apart
    show orders.select _ = _
    rw [kept]
    cases other : orderOf database key with
    | none => rfl
    | some old =>
      have oldKey : old.idempotencyKey = key := by simpa using Table.holds_of_select other
      have different : orderSchema.id old ≠ row.id := by
        intro same
        rw [Table.eq_of_id (List.mem_of_find?_eq_some other) found same, rowKey] at oldKey
        exact apart oldKey.symm
      rw [Option.map_some, if_neg different]
  · intro wanted
    constructor
    · rintro ⟨new, member, newAccount, newTicket⟩
      obtain ⟨old, inside, rfl⟩ := (Table.mem_update updated).mp member
      split at newTicket
      · have same : some send.ticket = some wanted := (ticket old).symm.trans newTicket
        exact .inr (Option.some.inj same).symm
      · rename_i apart
        rw [if_neg apart] at newAccount
        exact .inl ⟨old, inside, newAccount, newTicket⟩
    · rintro (⟨old, inside, oldAccount, oldTicket⟩ | rfl)
      · refine ⟨old, (Table.mem_update updated).mpr ⟨old, inside, ?_⟩, oldAccount, oldTicket⟩
        have apart : orderSchema.id old ≠ row.id := by
          intro same
          rw [Table.eq_of_id inside found same, unticketed] at oldTicket
          cases oldTicket
        rw [if_neg apart]
      · exact ⟨_, (Table.mem_update updated).mpr ⟨row, Table.mem_of_get found, (if_pos rfl).symm⟩,
          (sameAccount row).trans account, ticket row⟩
  · intro signalId readable
    have written := readable.recordSignal signal .pending
    exact written.append (List.append_nil _).symm

theorem Resolved.records
    (placed : ∃ row, orderOf database send.key = some row ∧ row.brokerAccountId = ledger.brokerAccountId ∧
      row.brokerTicket = none) :
    (ledger.HasTicket database send.ticket ∧
        ∃ error, persistence.recordExecution signal outcome environment now database = .error error) ∨
      ¬ ledger.HasTicket database send.ticket ∧ ∃ after,
        persistence.recordExecution signal outcome environment now database = .ok after ∧
          send.Recorded ledger database after := by
  obtain ⟨row, placed, account, unticketed⟩ := placed
  rw [resolved.recordExecution_eq placed]
  by_cases has : ledger.HasTicket database send.ticket
  · refine .inl ⟨has, ?_⟩
    cases recorded : (recordSignal signal .pending database).updateOrder row.id
        (executedOrder outcome now) with
    | error error => exact ⟨error, rfl⟩
    | ok after =>
      obtain ⟨orders, _, updated⟩ := Database.updateOrder_ok recorded
      exact absurd has ((resolved.update_isSome placed account unticketed).mp ⟨orders, updated⟩)
  · obtain ⟨orders, updated⟩ := (resolved.update_isSome placed account unticketed).mpr has
    exact .inr ⟨has, _, bind_eq_ok.mpr ⟨orders, congrArg (Database.admitted _) updated, rfl⟩,
      resolved.recorded placed account unticketed updated⟩

end Recording

/-! ## The loop over the keys -/

structure Settled (send : LostSend) (ledger : SQLAlchemyRecoveryLedger) (state : CycleState) : Prop where
  attempt : ∃ attempt, state.attempts send.key = some attempt ∧ attempt.status = .succeeded
  row : ∃ row, orderOf state.database send.key = some row ∧
    row.brokerAccountId = ledger.brokerAccountId ∧ row.brokerTicket = some send.ticket

theorem Unresolved.recorded {other : LostSend} (unresolved : other.Unresolved cycle executor state)
    (apart : other.key ≠ send.key) (recorded : send.Recorded cycle.books.ledger state.database database) :
    other.Unresolved cycle executor ⟨database, Function.update state.attempts send.key (some attempt)⟩ :=
  { unresolved with
    stored := (Function.update_of_ne apart ..).trans unresolved.stored
    placed := by
      rw [recorded.others other.key apart]
      exact unresolved.placed
    known := recorded.signals _ unresolved.known }

theorem Recorded.rest {sends : List LostSend} (attempt : ExecutionAttempt)
    (recorded : send.Recorded cycle.books.ledger state.database database) (apart : send.key ∉ sends.map key)
    (unresolved : ∀ other ∈ send :: sends, other.Unresolved cycle executor state) :
    ∀ other ∈ sends, other.Unresolved cycle executor
      ⟨database, Function.update state.attempts send.key (some attempt)⟩ := by
  intro other member
  have different : other.key ≠ send.key := by
    intro same
    exact apart (same ▸ List.mem_map_of_mem member)
  exact (unresolved other (List.mem_cons_of_mem _ member)).recorded different recorded

theorem Unresolved.turn (durable : executor.kind = .sqlAlchemy) (unresolved : send.Unresolved cycle executor state)
    (keys : List String) :
    (cycle.books.ledger.HasTicket state.database send.ticket ∧
        (cycle.responder.evaluate (reconcileKeys executor (send.key :: keys)) state).completed = none) ∨
      ¬ cycle.books.ledger.HasTicket state.database send.ticket ∧ ∃ database attempt,
        attempt.status = .succeeded ∧ send.Recorded cycle.books.ledger state.database database ∧
          (cycle.responder.evaluate (reconcileKeys executor (send.key :: keys)) state).completed =
            (cycle.responder.evaluate (reconcileKeys executor keys)
              ⟨database, Function.update state.attempts send.key (some attempt)⟩).completed := by
  obtain ⟨outcome, attempt, resolved, returned⟩ := evaluate_reconcileUnknown durable unresolved
  obtain ⟨signal, read⟩ := unresolved.known
  let middle : CycleState := { state with attempts := Function.update state.attempts send.key (some attempt) }
  have signalled : cycle.responder.respond middle (.journal (.signalById send.request.signalId)) =
      (.ok (some signal), middle) := by
    show (signalById state.database send.request.signalId, middle) = _
    rw [read]
  have time : cycle.responder.respond middle .clock = (.ok cycle.now, middle) := rfl
  have journal : cycle.responder.respond middle (.journal (.recordExecution signal outcome cycle.now)) =
      RecoveryCycle.committed middle
        (cycle.books.persistence.recordExecution signal outcome cycle.environment cycle.now state.database) := rfl
  have recording : (cycle.responder.evaluate (reconcileKeys executor (send.key :: keys)) state).completed =
      (cycle.responder.evaluate (Program.bind (askJournal (.recordExecution signal outcome cycle.now)) fun _ =>
        (reconcileKeys executor keys).bind fun count =>
          .pure (if outcome.requiresReconciliation then count else count + 1)) middle).completed := by
    rw [reconcileKeys]
    simp only [Program.bind_eq]
    rw [returned.completed_bind]
    simp only [resolved.request]
    apply ((Returns.perform signalled).completed_bind _).trans
    exact (Returns.perform time).completed_bind _
  rw [recording]
  rcases resolved.records unresolved.placed with ⟨has, error, raised⟩ | ⟨free, database, recorded, left⟩
  · rw [raised] at journal
    exact .inl ⟨has, congrArg Outcome.completed (evaluate_perform_error journal _)⟩
  · rw [recorded] at journal
    refine .inr ⟨free, database, attempt, resolved.succeeded, left, ?_⟩
    apply ((Returns.perform journal).completed_bind _).trans
    exact completed_bind_returns (fun _ _ => ⟨_, .pure _ _⟩) _ _

variable {sends : List LostSend}

section

variable (durable : executor.kind = .sqlAlchemy)
    (unresolved : ∀ send ∈ sends, send.Unresolved cycle executor state)
    (keys : (sends.map key).Nodup)
include durable unresolved keys

theorem completed_eq_none (has : ∃ send ∈ sends, cycle.books.ledger.HasTicket state.database send.ticket) :
    (cycle.responder.evaluate (reconcileKeys executor (sends.map key)) state).completed = none := by
  induction sends generalizing state with
  | nil =>
    obtain ⟨_, member, _⟩ := has
    cases member
  | cons send sends ih =>
    obtain ⟨apart, others⟩ := List.nodup_cons.mp keys
    rcases (unresolved send List.mem_cons_self).turn durable (sends.map key) with
      ⟨_, raised⟩ | ⟨free, database, attempt, _, recorded, rest⟩
    · exact raised
    · rw [List.map_cons, rest]
      apply ih (recorded.rest attempt apart unresolved) others
      obtain ⟨other, member, ticket⟩ := has
      rcases List.mem_cons.mp member with rfl | member
      · exact absurd ticket free
      · exact ⟨other, member, (recorded.tickets _).mpr (.inl ticket)⟩

theorem completed_eq_some (tickets : (sends.map ticket).Nodup)
    (free : ∀ send ∈ sends, ¬ cycle.books.ledger.HasTicket state.database send.ticket) :
    ∃ after, (cycle.responder.evaluate (reconcileKeys executor (sends.map key)) state).completed =
        some after ∧ (∀ send ∈ sends, send.Settled cycle.books.ledger after) ∧
      ∀ other ∉ sends.map key, orderOf after.database other = orderOf state.database other ∧
        after.attempts other = state.attempts other := by
  induction sends generalizing state with
  | nil =>
    refine ⟨state, rfl, ?_, fun key _ => ⟨rfl, rfl⟩⟩
    intro send member
    cases member
  | cons send sends ih =>
    obtain ⟨apart, others⟩ := List.nodup_cons.mp keys
    obtain ⟨ticketApart, otherTickets⟩ := List.nodup_cons.mp tickets
    rcases (unresolved send List.mem_cons_self).turn durable (sends.map key) with
      ⟨has, _⟩ | ⟨_, database, attempt, succeeded, recorded, rest⟩
    · exact absurd has (free send List.mem_cons_self)
    · have stillFree : ∀ other ∈ sends, ¬ cycle.books.ledger.HasTicket database other.ticket := by
        intro other member has
        rcases (recorded.tickets _).mp has with before | same
        · exact free other (List.mem_cons_of_mem _ member) before
        · exact ticketApart (same ▸ List.mem_map_of_mem member)
      obtain ⟨after, ended, settled, kept⟩ :=
        ih (recorded.rest attempt apart unresolved) others otherTickets stillFree
      refine ⟨after, by rw [List.map_cons, rest, ended], ?_, ?_⟩
      · intro other member
        rcases List.mem_cons.mp member with rfl | member
        · obtain ⟨sameRow, sameAttempt⟩ := kept other.key apart
          refine ⟨⟨attempt, ?_, succeeded⟩, ?_⟩
          · rw [sameAttempt]
            exact Function.update_self ..
          · rw [sameRow]
            exact recorded.ticketed
        · exact settled other member
      · intro key missing
        rw [List.map_cons, List.mem_cons, not_or] at missing
        obtain ⟨sameRow, sameAttempt⟩ := kept key missing.2
        constructor
        · rw [sameRow]
          exact recorded.others key missing.1
        · rw [sameAttempt]
          exact Function.update_of_ne missing.1 ..

end

/-! ## The cycle -/

theorem Unresolved.mem_orders (unresolved : send.Unresolved cycle executor state) : send.item ∈ cycle.orders :=
  List.mem_of_mem_filter (List.mem_of_find?_eq_some unresolved.matched)

theorem Unresolved.run {after : Database} {result : Except PyError ReconciliationReport}
    (unresolved : send.Unresolved cycle executor state)
    (run : LedgerRun cycle.books.ledger.backend cycle.positions cycle.orders cycle.now state.database result after) :
    send.Unresolved cycle executor { state with database := after } := by
  have placed : ∃ row, orderOf after send.key = some row ∧
      row.brokerAccountId = cycle.books.ledger.brokerAccountId ∧ row.brokerTicket = none := by
    obtain ⟨row, placed, account, unticketed⟩ := unresolved.placed
    have key : row.idempotencyKey = send.key := by simpa using Table.holds_of_select placed
    obtain ⟨new, found, newAccount, newTicket, columns⟩ :=
      (Extends.of_run run).orders row.id row (Table.get_of_select placed)
    have newKey : new.idempotencyKey = row.idempotencyKey := congrArg BrokerOrder.idempotencyKey columns
    refine ⟨new, ?_, newAccount.trans account, newTicket.trans unticketed⟩
    apply (Table.select_eq_some ?_).mpr
    · exact ⟨Table.mem_of_get found, by simp [newKey, key]⟩
    · intro first second firstKey secondKey
      simp only [decide_eq_true_eq] at firstKey secondKey
      simp [orderSchema, firstKey, secondKey]
  obtain ⟨added, same⟩ := run_signals run
  exact { unresolved with placed, known := unresolved.known.append same }

structure RecoveredOnce (send : LostSend) (ledger : SQLAlchemyRecoveryLedger) (state : CycleState) : Prop where
  attempt : ∃ attempt, state.attempts send.key = some attempt ∧ attempt.status = .succeeded
  row : ∃ row ∈ state.database.orders.rows, row.idempotencyKey = send.key ∧ ledger.Carries row send.ticket ∧
    ∀ other ∈ state.database.orders.rows, other.idempotencyKey = send.key ∨ ledger.Carries other send.ticket →
      other = row

theorem Settled.recoveredOnce {ledger : SQLAlchemyRecoveryLedger} (settled : send.Settled ledger state) :
    send.RecoveredOnce ledger state := by
  obtain ⟨attempt, row, placed, account, ticket⟩ := settled
  have key : row.idempotencyKey = send.key := by simpa using Table.holds_of_select placed
  have member : row ∈ state.database.orders.rows := Table.mem_of_get (Table.get_of_select placed)
  refine ⟨attempt, row, member, key, ⟨account, ticket⟩, ?_⟩
  intro other inside described
  apply Table.eq_of_clash inside member
  rcases described with sameKey | ⟨sameAccount, sameTicket⟩
  · simp [orderSchema, sameKey, key]
  · simp [orderSchema, sameAccount, account, sameTicket, ticket]

end LostSend

structure LostReplies (cycle : RecoveryCycle) (executor : TradeExecutor) (state : CycleState)
    (sends : List LostSend) : Prop where
  some : sends ≠ []
  durable : executor.kind = .sqlAlchemy
  selected : ∀ key, key ∈ cycle.unknownKeys ↔ unknownKeys state.attempts key = true
  keys : cycle.unknownKeys = sends.map LostSend.key
  keysDistinct : (sends.map LostSend.key).Nodup
  ticketsDistinct : (sends.map LostSend.ticket).Nodup
  unresolved : ∀ send ∈ sends, send.Unresolved cycle executor state

namespace RecoveryCycle

variable {cycle : RecoveryCycle} {settings : WorkerSettings} {executor : TradeExecutor} {state : CycleState}

def RecoversOnce (cycle : RecoveryCycle) (settings : WorkerSettings) (executor : TradeExecutor) (state : CycleState)
    (sends : List LostSend) : Prop :=
  ∃ after, (cycle.reconcile settings executor state).completed = some after ∧
    ∀ send ∈ sends, send.RecoveredOnce cycle.books.ledger after

def Deferred (cycle : RecoveryCycle) : Prop := ¬ (cycle.health.healthy = true ∧ cycle.health.connected = true)

theorem returns_publish (event : String) (state : CycleState) :
    cycle.responder.Returns (publish settings event) state () state := by
  have answered : cycle.responder.respond state (.journal (.publish event)) = (.ok (), state) := rfl
  unfold publish bestEffort
  split
  · exact Returns.bind (Returns.catching (.perform answered)) (.pure _ _)
  · exact .pure _ _

theorem completed_reconcile :
    (cycle.reconcile settings executor state).completed =
      match (cycle.ledgerPart state.database).result with
      | .ok _ => (cycle.responder.evaluate (reconcileKeys executor cycle.unknownKeys)
          ⟨(cycle.ledgerPart state.database).state.ledger, state.attempts⟩).completed
      | .error _ => none := by
  obtain ⟨result, left⟩ := evaluate_ledgerPart cycle state
  rw [RecoveryCycle.reconcile, GoldFlowWorker.reconcile]
  simp only [Program.bind_eq]
  rw [evaluate_bind, Outcome.completed_andThen, result, left]
  cases (cycle.ledgerPart state.database).result with
  | error => rfl
  | ok report =>
    let middle : CycleState := ⟨(cycle.ledgerPart state.database).state.ledger, state.attempts⟩
    have time : cycle.responder.respond middle .clock = (.ok cycle.now, middle) := rfl
    have recorded : cycle.responder.respond middle (.journal (.recordReconciliation report cycle.now)) =
        (.ok (), middle) := rfl
    have selected : cycle.responder.respond middle (.journal .unknownKeys) = (.ok cycle.unknownKeys, middle) := rfl
    apply ((Returns.perform time).completed_bind _).trans
    apply ((Returns.perform recorded).completed_bind _).trans
    apply Eq.trans (completed_bind_returns ?_ _ _)
    · exact (Returns.perform selected).completed_bind _
    · intro count after
      exact ⟨_, (returns_publish "HEALTH" after).bind (.pure _ _)⟩

theorem ledgerPart_deferred (deferred : cycle.Deferred) (database : Database) :
    (∃ report, (cycle.ledgerPart database).result = .ok report) ∧
      (cycle.ledgerPart database).state.ledger = database := by
  have answered : cycle.books.ledger.backend.responder.respond
      ⟨database, .listing cycle.health cycle.positions cycle.orders, cycle.now⟩ (.broker .healthCheck) =
        (.ok cycle.health, ⟨database, .listing cycle.health cycle.positions cycle.orders, cycle.now⟩) := rfl
  have refused : (!cycle.health.healthy || !cycle.health.connected) = true := by
    cases healthy : cycle.health.healthy <;> cases connected : cycle.health.connected <;>
      simp [Deferred, healthy, connected] at deferred ⊢
  rw [ledgerPart, LedgerBackend.reconcile, reconcile_eq, askBroker, evaluate_perform_bind answered, if_pos refused]
  exact ⟨⟨_, rfl⟩, rfl⟩

theorem completed_eq_none_of_restored {sends : List LostSend} (lost : LostReplies cycle executor state sends)
    (restored : ¬ cycle.Deferred) : (cycle.reconcile settings executor state).completed = none := by
  rw [completed_reconcile, lost.keys]
  obtain ⟨after, left, run⟩ := reconcile_run cycle.books.ledger.backend (not_not.mp restored) cycle.positions
    cycle.orders cycle.now state.database
  rw [← ledgerPart] at left run
  cases ended : (cycle.ledgerPart state.database).result with
  | error => rfl
  | ok =>
    rw [ended] at run
    rw [left]
    apply LostSend.completed_eq_none lost.durable (fun send member => (lost.unresolved send member).run run)
      lost.keysDistinct
    obtain ⟨send, member⟩ := List.exists_mem_of_ne_nil sends lost.some
    exact ⟨send, member, SQLAlchemyRecoveryLedger.run_hasTicket run (lost.unresolved send member).mem_orders⟩

/-- **A lost send is recovered exactly once iff the ledger's reconciliation is put off and no row has its ticket.** -/
theorem recoversOnce_iff {sends : List LostSend} (lost : LostReplies cycle executor state sends) :
    cycle.RecoversOnce settings executor state sends ↔
      cycle.Deferred ∧ ∀ send ∈ sends, ¬ cycle.books.ledger.HasTicket state.database send.ticket := by
  by_cases deferred : cycle.Deferred
  · obtain ⟨⟨report, ended⟩, left⟩ := ledgerPart_deferred deferred state.database
    have loop : (cycle.reconcile settings executor state).completed = (cycle.responder.evaluate
        (reconcileKeys executor (sends.map LostSend.key)) state).completed := by
      rw [completed_reconcile, ended, left, lost.keys]
    constructor
    · rintro ⟨after, completed, _⟩
      refine ⟨deferred, fun send member has => ?_⟩
      rw [loop, LostSend.completed_eq_none lost.durable lost.unresolved lost.keysDistinct
        ⟨send, member, has⟩] at completed
      cases completed
    · rintro ⟨_, free⟩
      obtain ⟨after, completed, settled, _⟩ := LostSend.completed_eq_some lost.durable lost.unresolved
        lost.keysDistinct lost.ticketsDistinct free
      exact ⟨after, loop.trans completed, fun send member => (settled send member).recoveredOnce⟩
  · constructor
    · rintro ⟨after, completed, _⟩
      rw [completed_eq_none_of_restored lost deferred] at completed
      cases completed
    · rintro ⟨putOff, _⟩
      exact absurd putOff deferred

end RecoveryCycle

namespace Demo

def pendingDatabase : Database :=
  { emptyDatabase with
    orders := ⟨[(journal.claimedOrder (request .limit)).created now 0], rfl, List.pairwise_singleton _ _,
      by decide +kernel⟩ }

/-- A limit order that the broker reports under `brokerKey`. -/
def lostSend (brokerKey : String) : LostSend where
  attempt := { claimRow "0" (request .limit) now with status := .unknown }
  record := { idempotencyKey := key, request := request .limit, status := .unknown, createdAt := now, updatedAt := now }
  item := { order "O1" with idempotencyKey := brokerKey }

def lostCycle (health : BrokerHealth) (brokerKey : String) : RecoveryCycle where
  books := books
  environment := "demo"
  health
  positions := []
  orders := [(lostSend brokerKey).item]
  unknownKeys := [key]
  now

def lostState (brokerKey : String) : CycleState where
  database := pendingDatabase
  attempts := Function.update (fun _ => none) key (some (lostSend brokerKey).attempt)

def brokerKeys : List String := [key, brokerCorrelationKey sha256 key]

theorem lostReplies (health : BrokerHealth) {brokerKey : String} (reported : brokerKey ∈ brokerKeys) :
    LostReplies (lostCycle health brokerKey) (executor .sqlAlchemy) (lostState brokerKey) [lostSend brokerKey] where
  some := by simp
  durable := rfl
  selected := by
    intro other
    by_cases same : other = key
    · simp [same, lostCycle, lostState, unknownKeys, lostSend]
    · simp [same, lostCycle, lostState, unknownKeys]
  keys := rfl
  keysDistinct := List.nodup_singleton _
  ticketsDistinct := List.nodup_singleton _
  unresolved := by
    intro send member
    rw [List.mem_singleton] at member
    subst member
    constructor
    · simp [lostState, LostSend.key, LostSend.request, lostSend, request]
    · rfl
    · have parsed : requestFromPayload (requestPayload (request .limit)) = .ok (request .limit) :=
        requestFromPayload_eq_ok (by simp [request]) (by simp [request]) (by simp [request])
      exact bind_eq_ok.mpr ⟨_, parsed, rfl⟩
    · simp [LostSend.request, lostSend, request]
    · exact ⟨(journal.claimedOrder (request .limit)).created now 0, rfl, rfl, rfl⟩
    · exact readableSignal_iff.mpr ⟨signalRow, _, rfl, rfl⟩
    · have matching : ((lostSend brokerKey).item.idempotencyKey == key ||
          (lostSend brokerKey).item.idempotencyKey == brokerCorrelationKey sha256 key) = true := by
        simp only [brokerKeys, List.mem_cons, List.not_mem_nil, or_false] at reported
        rcases reported with rfl | rfl <;> simp [lostSend]
      exact List.find?_cons_of_pos matching
    · simp [LostSend.ticket, lostSend, order]
    · rfl

def recoverySettings : WorkerSettings := { tradingMode := .auto, tradingEnv := .demo, sha256 }

def unhealthy : BrokerHealth := { healthy := false, connected := false, tradingAllowed := false }

end Demo

open Demo

/-- While the health check fails, the send is recovered exactly once. -/
theorem recoversOnce_deferred : (lostCycle unhealthy key).RecoversOnce recoverySettings
    (executor .sqlAlchemy) (lostState key) [lostSend Demo.key] := by
  apply (RecoveryCycle.recoversOnce_iff (lostReplies _ (by simp [brokerKeys]))).mpr
  refine ⟨by simp [RecoveryCycle.Deferred, lostCycle, unhealthy], ?_⟩
  rintro send _ ⟨row, member, _, ticket⟩
  simp [lostState, pendingDatabase] at member
  subst member
  cases ticket

theorem Demo.not_recoversOnce_healthy {brokerKey : String} (reported : brokerKey ∈ brokerKeys) :
    LostReplies (lostCycle healthy brokerKey) (executor .sqlAlchemy) (lostState brokerKey)
        [lostSend brokerKey] ∧
      ¬ (lostCycle healthy brokerKey).RecoversOnce recoverySettings (executor .sqlAlchemy)
        (lostState brokerKey) [lostSend brokerKey] := by
  have lost := lostReplies healthy reported
  refine ⟨lost, ?_⟩
  rintro ⟨after, completed, _⟩
  have restored : ¬ (lostCycle healthy brokerKey).Deferred := not_not.mpr ⟨rfl, rfl⟩
  rw [RecoveryCycle.completed_eq_none_of_restored lost restored] at completed
  cases completed

/-- Neither the request's own key nor its correlation key helps. -/
theorem healthy_cycle_raises :
    (¬ (lostCycle healthy key).RecoversOnce recoverySettings (executor .sqlAlchemy)
        (lostState key) [lostSend Demo.key]) ∧
      ¬ (lostCycle healthy (brokerCorrelationKey sha256 key)).RecoversOnce recoverySettings
        (executor .sqlAlchemy) (lostState (brokerCorrelationKey sha256 key))
        [lostSend (brokerCorrelationKey sha256 key)] :=
  ⟨(not_recoversOnce_healthy (by simp [brokerKeys])).2,
    (not_recoversOnce_healthy (by simp [brokerKeys])).2⟩

end GoldFlow
