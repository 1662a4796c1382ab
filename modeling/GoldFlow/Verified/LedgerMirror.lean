import GoldFlow.Verified.FinishedOrders

/-! # A ledger that mirrors the broker

`Mirrors` says that the durable ledger shows exactly what the broker lists.
-/

namespace GoldFlow

open Data

namespace SQLAlchemyRecoveryLedger

variable {ledger : SQLAlchemyRecoveryLedger} {database : Database} {item : BrokerPosition}
  {records : List LedgerPosition}

/-! ## What the ledger shows -/

def ReadsPosition (ledger : SQLAlchemyRecoveryLedger) (database : Database) (item : BrokerPosition) : Prop :=
  ∃ row, database.positionWith ledger.brokerAccountId item.ticket = some row ∧ row.closedAt = none ∧
    brokerPosition row (database.tradeOf row.id) = .ok item

def ReadsOrder (ledger : SQLAlchemyRecoveryLedger) (database : Database) (item : BrokerOrder) : Prop :=
  ∃ row, ledger.orderWith database item.ticket = some row ∧ brokerOrder row = item ∧
    row.status ∉ [OrderStatus.cancelled, .rejected]

structure Mirrors (ledger : SQLAlchemyRecoveryLedger) (database : Database) (positions : List BrokerPosition)
    (orders : List BrokerOrder) : Prop where
  readsPositions : ∀ item ∈ positions, ledger.ReadsPosition database item
  readsOrders : ∀ item ∈ orders, ledger.ReadsOrder database item
  onlyPositions : ∀ row ∈ database.positions.rows, row.brokerAccountId = ledger.brokerAccountId →
    ∃ item ∈ positions, item.ticket = row.brokerTicket
  onlyOrders : ∀ row ∈ database.orders.rows, ∀ ticket, ledger.Carries row ticket →
    ∃ item ∈ orders, item.ticket = ticket

theorem ledgerPosition_eq_ok {row : PositionRow} {record : LedgerPosition} :
    ledgerPosition database row = .ok record ↔
      brokerPosition row (database.tradeOf row.id) = .ok record.item ∧
        record = ⟨record.item, if row.closedAt.isSome then .closed else .opened, false, row.updatedAt⟩ := by
  rw [ledgerPosition, bind_eq_ok]
  constructor
  · rintro ⟨item, made, rest⟩
    cases rest
    exact ⟨made, rfl⟩
  · rintro ⟨made, same⟩
    exact ⟨record.item, made, by rw [same]; rfl⟩

theorem ReadsPosition.record (reads : ledger.ReadsPosition database item)
    (read : ledger.positions database = .ok records) :
    ∃ record, (Keyed.ofList records : Keyed positionSide.key).get item.ticket = some record ∧
      record.status = .opened ∧ record.item = item := by
  obtain ⟨row, found, opened, shown⟩ := reads
  have looked := get_positions read item.ticket
  rw [found, Option.map_some] at looked
  cases known : (Keyed.ofList records : Keyed positionSide.key).get item.ticket with
  | none => simp [known] at looked
  | some record =>
    rw [known, Option.map_some, Option.some.injEq, ledgerPosition_eq_ok, shown, Except.ok.injEq] at looked
    refine ⟨record, rfl, ?_, looked.1.symm⟩
    rw [looked.2]
    simp [opened]

theorem ReadsPosition.of_record {record : LedgerPosition} (read : ledger.positions database = .ok records)
    (known : (Keyed.ofList records : Keyed positionSide.key).get item.ticket = some record)
    (live : record.status ≠ .closed) (same : record.item = item) : ledger.ReadsPosition database item := by
  have looked := get_positions read item.ticket
  rw [known, Option.map_some, Option.map_eq_some_iff] at looked
  obtain ⟨row, found, shown⟩ := looked
  rw [ledgerPosition_eq_ok] at shown
  refine ⟨row, found, ?_, by rw [shown.1, same]⟩
  by_contra closed
  apply live
  rw [shown.2]
  simp [closed]

theorem ReadsOrder.record {item : BrokerOrder} (reads : ledger.ReadsOrder database item)
    {records : List LedgerOrder} (read : ledger.orders database = .ok records) :
    ∃ record, (Keyed.ofList records : Keyed orderSide.key).get item.ticket = some record ∧
      record.status = .pending ∧ record.item = item := by
  obtain ⟨row, found, shown, unfinished⟩ := reads
  refine ⟨ledgerOrder row, ?_, ?_, shown⟩
  · rw [get_orders read, found, Option.map_some]
  · rw [ledgerOrder, if_neg unfinished]

theorem ReadsOrder.of_record {item : BrokerOrder} {records : List LedgerOrder} {record : LedgerOrder}
    (read : ledger.orders database = .ok records)
    (known : (Keyed.ofList records : Keyed orderSide.key).get item.ticket = some record)
    (live : record.status ≠ .cancelled) (same : record.item = item) : ledger.ReadsOrder database item := by
  rw [get_orders read, Option.map_eq_some_iff] at known
  obtain ⟨row, found, rfl⟩ := known
  refine ⟨row, found, same, fun finished => live ?_⟩
  rw [ledgerOrder, if_pos finished]

theorem positionWith_of_read (read : ledger.positions database = .ok records) {record : LedgerPosition}
    (member : record ∈ (Keyed.ofList records : Keyed positionSide.key).items) :
    ∃ row, database.positionWith ledger.brokerAccountId (positionSide.key record) = some row := by
  have known : (Keyed.ofList records : Keyed positionSide.key).get (positionSide.key record) = some record :=
    Keyed.get_of_mem member
  have looked := get_positions read (positionSide.key record)
  rw [known, Option.map_some, Option.map_eq_some_iff] at looked
  obtain ⟨row, found, _⟩ := looked
  exact ⟨row, found⟩

section Rest

variable {positions : List BrokerPosition} {orders : List BrokerOrder} {now : Instant}

variable (mirrors : ledger.Mirrors database positions orders)
include mirrors

theorem Mirrors.readable : ∃ records, ledger.positions database = .ok records := by
  rw [SQLAlchemyRecoveryLedger.positions, mapM_isOk]
  intro row member
  simp only [List.mem_filter, decide_eq_true_eq] at member
  obtain ⟨item, listed, sameTicket⟩ := mirrors.onlyPositions row member.1 member.2
  obtain ⟨other, found, _, shown⟩ := mirrors.readsPositions item listed
  have self : database.positionWith ledger.brokerAccountId item.ticket = some row :=
    Database.positionWith_eq_some.mpr ⟨member.1, member.2, sameTicket.symm⟩
  rw [self, Option.some.injEq] at found
  subst found
  exact ⟨⟨item, _, false, _⟩, ledgerPosition_eq_ok.mpr ⟨shown, rfl⟩⟩

theorem Mirrors.positionPlan (distinct : (positions.map positionSide.ticket).Nodup)
    {records : List LedgerPosition} (read : ledger.positions database = .ok records) :
    positionSide.plan now (.ofList positions) (.ofList records) = [] := by
  rw [LedgerSide.plan_eq_nil, Keyed.ofList_items distinct]
  constructor
  · intro item listed
    obtain ⟨record, known, opened, same⟩ := (mirrors.readsPositions item listed).record read
    exact ⟨record, known, by rw [opened]; decide, same⟩
  · intro record member _
    obtain ⟨row, found⟩ := positionWith_of_read read member
    obtain ⟨rowMember, account, ticketIs⟩ := Database.positionWith_eq_some.mp found
    obtain ⟨item, listed, sameTicket⟩ := mirrors.onlyPositions row rowMember account
    have shown := lookup_of_mem distinct listed
    rw [Keyed.get_ofList distinct, ← ticketIs, ← sameTicket]
    exact Option.isSome_iff_exists.mpr ⟨item, shown⟩

theorem Mirrors.orderPlan (distinct : (orders.map orderSide.ticket).Nodup) {records : List LedgerOrder}
    (read : ledger.orders database = .ok records) : orderSide.plan now (.ofList orders) (.ofList records) = [] := by
  rw [LedgerSide.plan_eq_nil, Keyed.ofList_items distinct]
  constructor
  · intro item listed
    obtain ⟨record, known, pending, same⟩ := (mirrors.readsOrders item listed).record read
    exact ⟨record, known, by rw [pending]; decide, same⟩
  · intro record member _
    have known : (Keyed.ofList records : Keyed orderSide.key).get (orderSide.key record) = some record :=
      Keyed.get_of_mem member
    rw [get_orders read, Option.map_eq_some_iff] at known
    obtain ⟨row, found, _⟩ := known
    obtain ⟨rowMember, carries⟩ := orderWith_eq_some.mp found
    obtain ⟨item, listed, sameTicket⟩ := mirrors.onlyOrders row rowMember _ carries
    have shown := lookup_of_mem distinct listed
    rw [Keyed.get_ofList distinct, ← sameTicket]
    exact Option.isSome_iff_exists.mpr ⟨item, shown⟩

end Rest

end SQLAlchemyRecoveryLedger

theorem Attempted.eq_of_nil {σ α : Type} {apply : LedgerRecord α → σ → Except PyError σ} {ledger final : σ}
    {complete : Bool} (attempted : Attempted apply ledger [] final complete) : final = ledger ∧ complete = true := by
  cases attempted
  exact ⟨rfl, rfl⟩

namespace SQLAlchemyRecoveryLedger

variable {ledger : SQLAlchemyRecoveryLedger} {database after : Database} {positions : List BrokerPosition}
  {orders : List BrokerOrder} {now : Instant} {result : Except PyError ReconciliationReport}

/-- **A reconciliation of a mirror reports nothing and changes nothing.** -/
theorem Mirrors.quiet (mirrors : ledger.Mirrors database positions orders)
    (positionsDistinct : (positions.map positionSide.ticket).Nodup)
    (ordersDistinct : (orders.map orderSide.ticket).Nodup)
    (run : LedgerRun ledger.backend positions orders now database result after) :
    after = database ∧ ∃ report, result = .ok report ∧ report.incidents = [] := by
  obtain ⟨records, readable⟩ := mirrors.readable
  cases run with
  | unread failed =>
    rcases failed with failed | failed
    · rw [show ledger.backend.positions database = .ok records from readable] at failed
      cases failed
    · cases failed
  | stopped read _ attempted =>
    rw [mirrors.positionPlan positionsDistinct read] at attempted
    cases attempted.eq_of_nil.2
  | ran read ordersRead attempted ordersAttempted whole _ =>
    rw [mirrors.positionPlan positionsDistinct read] at attempted whole
    obtain ⟨rfl, _⟩ := attempted.eq_of_nil
    rw [mirrors.orderPlan ordersDistinct ordersRead] at ordersAttempted whole
    obtain ⟨rfl, rfl⟩ := ordersAttempted.eq_of_nil
    obtain ⟨report, returned, incidents⟩ := whole rfl
    exact ⟨rfl, report, returned, by simpa using incidents⟩

/-- **A reconciliation that reports nothing has read every listed item back.** -/
theorem reads_of_quiet {report : ReconciliationReport}
    (run : LedgerRun ledger.backend positions orders now database (.ok report) after)
    (quiet : report.incidents = []) (positionsDistinct : (positions.map positionSide.ticket).Nodup)
    (ordersDistinct : (orders.map orderSide.ticket).Nodup) :
    after = database ∧ (∀ item ∈ positions, ledger.ReadsPosition database item) ∧
      ∀ item ∈ orders, ledger.ReadsOrder database item := by
  cases run with
  | @ran localPositions localOrders _ _ _ complete read ordersRead attempted ordersAttempted whole part =>
    cases complete with
    | false =>
      obtain ⟨error, raised⟩ := part rfl
      cases raised
    | true =>
      obtain ⟨_, returned, incidents⟩ := whole rfl
      cases returned
      rw [quiet, eq_comm, List.append_eq_nil_iff, List.map_eq_nil_iff, List.map_eq_nil_iff] at incidents
      obtain ⟨noPositions, noOrders⟩ := incidents
      rw [noPositions] at attempted
      obtain ⟨rfl, _⟩ := attempted.eq_of_nil
      rw [noOrders] at ordersAttempted
      obtain ⟨rfl, _⟩ := ordersAttempted.eq_of_nil
      rw [LedgerSide.plan_eq_nil, Keyed.ofList_items positionsDistinct] at noPositions
      rw [LedgerSide.plan_eq_nil, Keyed.ofList_items ordersDistinct] at noOrders
      refine ⟨rfl, ?_, ?_⟩
      · intro item listed
        obtain ⟨record, known, live, same⟩ := noPositions.1 item listed
        exact .of_record read known live same
      · intro item listed
        obtain ⟨record, known, live, same⟩ := noOrders.1 item listed
        exact .of_record ordersRead known live same

end SQLAlchemyRecoveryLedger

end GoldFlow
