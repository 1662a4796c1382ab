import GoldFlow.Persistence.Journal

/-! # What the journal's transactions write -/

namespace GoldFlow

open Data

namespace WorkerPersistence

variable {persistence : WorkerPersistence} {database after : Database}

/-! ## Events -/

theorem mem_addEvent {event : TradeEventRow} {other : TradeEventRow} (present : other ∈ database.events) :
    other ∈ (addEvent event database).events := by
  unfold addEvent
  split
  · exact present
  · exact List.mem_append_left _ present

theorem addEvent_eq (event : TradeEventRow) (database : Database) :
    ∃ events, addEvent event database = { database with events } := by
  unfold addEvent
  split
  · exact ⟨database.events, rfl⟩
  · exact ⟨_, rfl⟩

@[simp] theorem addEvent_positions (event : TradeEventRow) (database : Database) :
    (addEvent event database).positions = database.positions := by
  obtain ⟨events, same⟩ := addEvent_eq event database
  rw [same]

@[simp] theorem addEvent_trades (event : TradeEventRow) (database : Database) :
    (addEvent event database).trades = database.trades := by
  obtain ⟨events, same⟩ := addEvent_eq event database
  rw [same]

section Action

variable {plan : ManagedPosition} {action : PositionAction} {eventType : TradeEventType} {state : Option TradeState}
  {position : Option BrokerPosition} {now : Instant} {suffix : String}

def actionKey (persistence : WorkerPersistence) (plan : ManagedPosition) (eventType : TradeEventType)
    (suffix : String) : String :=
  "position:" ++ persistence.sha256 ("position:" ++ plan.ticket ++ ":" ++ eventType.name ++ ":" ++ suffix)

def actionEvent (persistence : WorkerPersistence) (plan : ManagedPosition) (action : PositionAction)
    (eventType : TradeEventType) (state : Option TradeState) (suffix : String) (tradeId positionId : Nat) :
    TradeEventRow where
  tradeId := some tradeId
  positionId := some positionId
  eventKey := persistence.actionKey plan eventType suffix
  eventType
  previousState := plan.state
  currentState := state.getD plan.state
  reason := action.reason

theorem recordPositionAction_ok
    (recorded : persistence.recordPositionAction plan action eventType state position now suffix database = .ok after) :
    ∃ row trade positions trades,
      database.positions.get plan.positionId = some row ∧ database.trades.get plan.tradeId = some trade ∧
      database.positions.update plan.positionId
        (PositionRow.touched (actedPosition action eventType state position now) database.now) (fun _ => rfl) =
          some positions ∧
      database.trades.update plan.tradeId (TradeRow.touched (actedTrade action eventType state row.realizedPnl now))
        (fun _ => rfl) = some trades ∧
      after = addEvent (actionEvent persistence plan action eventType state suffix plan.tradeId plan.positionId)
        { database with positions, trades } := by
  unfold recordPositionAction at recorded
  cases foundRow : database.positions.get plan.positionId with
  | none => simp [foundRow] at recorded
  | some row =>
    cases foundTrade : database.trades.get plan.tradeId with
    | none => simp [foundTrade] at recorded
    | some trade =>
      have rowId : row.id = plan.positionId := Table.id_of_get foundRow
      have tradeId : trade.id = plan.tradeId := Table.id_of_get foundTrade
      simp only [foundRow, foundTrade, rowId, tradeId] at recorded
      obtain ⟨moved, updated, recorded⟩ := bind_eq_ok.mp recorded
      obtain ⟨booked, traded, recorded⟩ := bind_eq_ok.mp recorded
      obtain ⟨positions, rfl, positionsUpdated⟩ := Database.updatePosition_ok updated
      obtain ⟨trades, rfl, tradesUpdated⟩ := Database.updateTrade_ok traded
      cases recorded
      exact ⟨row, trade, positions, trades, rfl, rfl, positionsUpdated, tradesUpdated, rfl⟩

theorem actedPosition_identity (row : PositionRow) :
    (actedPosition action eventType state position now row).brokerAccountId = row.brokerAccountId ∧
      (actedPosition action eventType state position now row).brokerTicket = row.brokerTicket := by
  unfold actedPosition
  cases position <;> cases closes action eventType <;> exact ⟨rfl, rfl⟩

variable (recorded : persistence.recordPositionAction plan action eventType state position now
      suffix database = .ok after)
include recorded

theorem recordPositionAction_rows :
    (∀ row ∈ after.positions.rows, ∃ old ∈ database.positions.rows, old.id = row.id ∧
      old.brokerAccountId = row.brokerAccountId ∧ old.brokerTicket = row.brokerTicket) ∧
    ∀ old ∈ database.positions.rows, ∃ row ∈ after.positions.rows, row.id = old.id ∧
      row.brokerAccountId = old.brokerAccountId ∧ row.brokerTicket = old.brokerTicket := by
  obtain ⟨_, _, positions, _, _, _, updated, _, rfl⟩ := recordPositionAction_ok recorded
  rw [addEvent_positions]
  -- the change of one row keeps its number, its account and its ticket
  have same : ∀ old : PositionRow,
      let row := if positionSchema.id old = plan.positionId then
        (PositionRow.touched (actedPosition action eventType state position now) database.now old).stored else old
      row.id = old.id ∧ row.brokerAccountId = old.brokerAccountId ∧ row.brokerTicket = old.brokerTicket := by
    intro old
    dsimp only
    split
    · exact ⟨rfl, actedPosition_identity old⟩
    · exact ⟨rfl, rfl, rfl⟩
  constructor
  · intro row member
    obtain ⟨old, inside, rfl⟩ := (Table.mem_update updated).mp member
    obtain ⟨id, account, ticket⟩ := same old
    exact ⟨old, inside, id.symm, account.symm, ticket.symm⟩
  · intro old inside
    exact ⟨_, (Table.mem_update updated).mpr ⟨old, inside, rfl⟩, same old⟩

theorem recordPositionAction_events {event : TradeEventRow} (present : event ∈ database.events) :
    event ∈ after.events := by
  obtain ⟨_, _, positions, trades, _, _, _, _, rfl⟩ := recordPositionAction_ok recorded
  have kept : event ∈ ({ database with positions, trades } : Database).events := present
  exact mem_addEvent kept

theorem recordPositionAction_event :
    ∃ event ∈ after.events, event.eventKey = persistence.actionKey plan eventType suffix ∧
      (event ∈ database.events ∨ event.positionId = some plan.positionId ∧ event.eventType = eventType) := by
  obtain ⟨_, _, positions, trades, _, _, _, _, rfl⟩ := recordPositionAction_ok recorded
  unfold addEvent
  split
  · rename_i taken
    obtain ⟨event, member, same⟩ := List.any_eq_true.mp taken
    exact ⟨event, member, of_decide_eq_true same, .inl member⟩
  · exact ⟨_, List.mem_append_right _ (List.mem_singleton_self _), rfl, .inr ⟨rfl, rfl⟩⟩

end Action

/-! ## Plans -/

theorem mem_openPositionPlans {plan : ManagedPosition} :
    plan ∈ persistence.openPositionPlans database ↔
      ∃ row ∈ database.positions.rows, row.brokerAccountId = persistence.brokerAccountId ∧ row.closedAt = none ∧
        ∃ trade, database.tradeOf row.id = some trade ∧ planOf database row trade = plan := by
  simp only [openPositionPlans, List.mem_filterMap, List.mem_filter, decide_eq_true_eq, Option.map_eq_some_iff]
  constructor
  · rintro ⟨row, ⟨member, account, opened⟩, trade, found, made⟩
    exact ⟨row, member, account, opened, trade, found, made⟩
  · rintro ⟨row, member, account, opened, trade, found, made⟩
    exact ⟨row, ⟨member, account, opened⟩, trade, found, made⟩

theorem openPositionPlans_tickets (persistence : WorkerPersistence) (database : Database) :
    ((persistence.openPositionPlans database).map (·.ticket)).Nodup := by
  rw [List.Nodup, List.pairwise_map, openPositionPlans, List.pairwise_filterMap, List.pairwise_filter]
  refine database.positions.unique.imp
    fun {first second} apart firstOpen secondOpen plan firstPlan other otherPlan => ?_
  simp only [decide_eq_true_eq] at firstOpen secondOpen
  obtain ⟨_, _, rfl⟩ := Option.map_eq_some_iff.mp firstPlan
  obtain ⟨_, _, rfl⟩ := Option.map_eq_some_iff.mp otherPlan
  intro same
  have tickets : first.brokerTicket = second.brokerTicket := same
  simp [positionSchema, firstOpen.1, secondOpen.1, tickets] at apart

section Execution

variable {signal : TradeSignal} {outcome : ExecutionOutcome} {environment : String} {now : Instant}
  {order : Option OrderRow} {fill : RecordedFill}

theorem recordOrder_eq (recorded : recordOrder outcome now database = .ok (order, after)) :
    ∃ orders, after = { database with orders } := by
  unfold recordOrder at recorded
  split at recorded
  · obtain ⟨middle, updated, rest⟩ := bind_eq_ok.mp recorded
    obtain ⟨orders, rfl, _⟩ := Database.updateOrder_ok updated
    cases rest
    exact ⟨orders, rfl⟩
  · cases recorded
    exact ⟨database.orders, rfl⟩

theorem recordTransitions_eq (persistence : WorkerPersistence) (subject : String) (tradeId positionId : Option Nat)
    (transitions : List StateTransition) (database : Database) :
    ∃ events, persistence.recordTransitions subject tradeId positionId transitions database =
      { database with events } := by
  unfold recordTransitions
  induction transitions.zipIdx generalizing database with
  | nil => exact ⟨database.events, rfl⟩
  | cons first rest ih =>
    rw [List.foldl_cons]
    obtain ⟨events, same⟩ := ih _
    obtain ⟨added, event⟩ := addEvent_eq _ database
    rw [same]
    dsimp only
    rw [event]
    exact ⟨events, rfl⟩

theorem recordPosition_ok {row : PositionRow}
    (recorded : persistence.recordPosition signal outcome fill order now database = .ok (row, after)) :
    (database.positionWith persistence.brokerAccountId fill.ticket = some row ∧ after = database) ∨
      database.positionWith persistence.brokerAccountId fill.ticket = none ∧ ∃ positions,
        database.positions.insert ((persistence.filledPosition signal outcome fill order now).created database.now)
          (fun _ => rfl) = some positions ∧ after = { database with positions } ∧
        row = (persistence.filledPosition signal outcome fill order now).created database.now
          database.positions.rows.length := by
  unfold recordPosition at recorded
  split at recorded
  next found =>
    cases recorded
    exact .inl ⟨found, rfl⟩
  next found =>
    obtain ⟨_, _, inserted⟩ := bind_eq_ok.mp recorded
    exact .inr ⟨found, Database.insertPosition_ok inserted⟩

theorem recordTrade_ok {position : PositionRow} {trade : TradeRow}
    (recorded : persistence.recordTrade signal outcome fill position environment now database = .ok (trade, after)) :
    (database.tradeOf position.id = some trade ∧ after = database) ∨
      database.tradeOf position.id = none ∧ ∃ trades,
        database.trades.insert (persistence.filledTrade signal outcome fill position environment now).created
          (fun _ => rfl) = some trades ∧ after = { database with trades } := by
  unfold recordTrade at recorded
  split at recorded
  next known =>
    cases recorded
    exact .inl ⟨known, rfl⟩
  next known =>
    obtain ⟨_, _, inserted⟩ := bind_eq_ok.mp recorded
    obtain ⟨trades, added, rfl, _⟩ := Database.insertTrade_ok inserted
    exact .inr ⟨known, trades, added, rfl⟩

inductive ExecutionWritten (persistence : WorkerPersistence) (signal : TradeSignal) (outcome : ExecutionOutcome)
    (environment : String) (now : Instant) (database after : Database) : Prop
  /-- there is no fill to show -/
  | unfilled : fillOf outcome = none → after.positions = database.positions → after.trades = database.trades →
      ExecutionWritten persistence signal outcome environment now database after
  /-- the position of the fill and its trade are there -/
  | known {fill : RecordedFill} {row : PositionRow} {trade : TradeRow} : fillOf outcome = some fill →
      database.positionWith persistence.brokerAccountId fill.ticket = some row → database.tradeOf row.id = some trade →
      after.positions = database.positions → after.trades = database.trades →
      ExecutionWritten persistence signal outcome environment now database after
  /-- the position is there without a trade -/
  | traded {fill : RecordedFill} {row : PositionRow} : fillOf outcome = some fill →
      database.positionWith persistence.brokerAccountId fill.ticket = some row → database.tradeOf row.id = none →
      after.positions = database.positions →
      ExecutionWritten persistence signal outcome environment now database after
  /-- the fill gets a position and a trade -/
  | opened {fill : RecordedFill} {order : Option OrderRow} {row : PositionRow} : fillOf outcome = some fill →
      database.positionWith persistence.brokerAccountId fill.ticket = none →
      row = (persistence.filledPosition signal outcome fill order now).created database.now
        database.positions.rows.length →
      database.positions.insert ((persistence.filledPosition signal outcome fill order now).created database.now)
        (fun _ => rfl) = some after.positions →
      database.tradeOf row.id = none →
      database.trades.insert (persistence.filledTrade signal outcome fill row environment now).created
        (fun _ => rfl) = some after.trades →
      ExecutionWritten persistence signal outcome environment now database after
  /-- the fill gets a position whose number a trade already refers to -/
  | orphaned {fill : RecordedFill} {trade : TradeRow} : fillOf outcome = some fill →
      database.tradeOf database.positions.rows.length = some trade →
      ExecutionWritten persistence signal outcome environment now database after

variable
    (recorded : persistence.recordExecution signal outcome environment now database = .ok after)
include recorded

theorem recordExecution_cases : ExecutionWritten persistence signal outcome environment now database after := by
  obtain ⟨⟨order, middle⟩, ordered, recorded⟩ := bind_eq_ok.mp recorded
  obtain ⟨orders, rfl⟩ := recordOrder_eq ordered
  cases filled : fillOf outcome with
  | none =>
    simp only [filled] at recorded
    obtain ⟨events, same⟩ := recordTransitions_eq persistence
      (outcome.request.elim signal.signalId.text (·.idempotencyKey)) none none outcome.transitions
      { recordSignal signal outcome.status database with orders }
    rw [same] at recorded
    cases recorded
    exact .unfilled filled rfl rfl
  | some =>
    simp only [filled] at recorded
    obtain ⟨⟨position, placed⟩, positioned, recorded⟩ := bind_eq_ok.mp recorded
    obtain ⟨⟨trade, booked⟩, traded, recorded⟩ := bind_eq_ok.mp recorded
    obtain ⟨events, same⟩ := recordTransitions_eq persistence
      (outcome.request.elim signal.signalId.text (·.idempotencyKey)) (some trade.id) (some position.id)
      outcome.transitions booked
    rw [same] at recorded
    cases recorded
    rcases recordPosition_ok positioned with ⟨found, rfl⟩ | ⟨found, positions, added, rfl, rfl⟩
    · rcases recordTrade_ok traded with ⟨known, rfl⟩ | ⟨known, trades, _, rfl⟩
      · exact .known filled found known rfl rfl
      · exact .traded filled found known rfl
    · rcases recordTrade_ok traded with ⟨known, rfl⟩ | ⟨known, trades, tradeAdded, rfl⟩
      · exact .orphaned filled known
      · exact .opened filled found rfl added known tradeAdded

end Execution

end WorkerPersistence

end GoldFlow
