import GoldFlow.Verified.LedgerUpserts

/-! # Two reconciliations with the durable ledger -/

namespace GoldFlow

open Effect Data Database

namespace LedgerSide

variable {α : Type} [DecidableEq α] {side : LedgerSide α} {now : Instant} {broker : Keyed side.ticket}
  {localRecords : Keyed side.key} {write : LedgerWrite α} {item : α} {known : Option (LedgerRecord α)}

theorem mem_plan_listed (listed : ∀ record ∈ localRecords.items, (broker.get (side.key record)).isSome)
    (member : write ∈ side.plan now broker localRecords) :
    write.record.item ∈ broker.items ∧ write.record.status ≠ side.gone := by
  rw [plan, List.mem_append, List.mem_filterMap, List.mem_filterMap] at member
  rcases member with ⟨item, inside, made⟩ | ⟨record, inside, made⟩
  · obtain ⟨rfl, live⟩ := restoreWrite_live made
    exact ⟨inside, live⟩
  · have shown := listed record inside
    rw [retireWrite_listed made] at shown
    cases shown

theorem known_of_unplanned (listed : broker.get (side.ticket item) = some item)
    (unplanned : side.ticket item ∉ (side.plan now broker localRecords).map fun write => side.key write.record) :
    ∃ record, localRecords.get (side.ticket item) = some record ∧ record.status ≠ side.gone ∧ record.item = item := by
  have missing := lookup_eq_none.mpr unplanned
  rw [lookup_plan, listed] at missing
  exact (side.restoreWrite_eq_none now).mp missing

end LedgerSide

/-! ## The positions -/

namespace SQLAlchemyRecoveryLedger

variable {ledger : SQLAlchemyRecoveryLedger} {database after : Database} {positions : List BrokerPosition}
  {now : Instant}

structure Settling (ledger : SQLAlchemyRecoveryLedger) (positions : List BrokerPosition)
    (writes : List (LedgerWrite BrokerPosition)) (database : Database) : Prop where
  recovered : Recovered database
  agrees : ∀ item ∈ positions, ledger.Agrees database item
  listed : ∀ write ∈ writes, write.record.item ∈ positions ∧ write.record.status ≠ .closed
  distinct : (writes.map fun write => positionSide.key write.record).Nodup
  settled : ∀ item ∈ positions, item.ticket ∉ (writes.map fun write => positionSide.key write.record) →
    ledger.ReadsPosition database item
  only : ∀ ticket row, database.positionWith ledger.brokerAccountId ticket = some row →
    ∃ item ∈ positions, item.ticket = ticket

namespace Settling

variable {writes : List (LedgerWrite BrokerPosition)} {write : LedgerWrite BrokerPosition}

theorem of_plan (recovered : Recovered database) (agrees : ∀ item ∈ positions, ledger.Agrees database item)
    (only : ∀ ticket row, database.positionWith ledger.brokerAccountId ticket = some row →
      ∃ item ∈ positions, item.ticket = ticket)
    (distinct : (positions.map positionSide.ticket).Nodup) {records : List LedgerPosition}
    (read : ledger.positions database = .ok records) :
    ledger.Settling positions (positionSide.plan now (.ofList positions) (.ofList records)) database := by
  have listed : ∀ item ∈ positions,
      (Keyed.ofList positions : Keyed positionSide.ticket).get (positionSide.ticket item) = some item := by
    intro item member
    rw [Keyed.get_ofList distinct]
    exact lookup_of_mem distinct member
  refine ⟨recovered, agrees, ?_, LedgerSide.nodup_plan _ _ _ _, ?_, only⟩
  · intro write member
    rw [← Keyed.ofList_items distinct]
    apply LedgerSide.mem_plan_listed _ member
    intro record inside
    obtain ⟨row, found⟩ := positionWith_of_read read inside
    obtain ⟨item, itemListed, same⟩ := only _ row found
    rw [← same]
    exact Option.isSome_iff_exists.mpr ⟨item, listed item itemListed⟩
  · intro item member unplanned
    obtain ⟨record, known, live, same⟩ := LedgerSide.known_of_unplanned (listed item member) unplanned
    exact .of_record read known live same

theorem kept (settling : ledger.Settling positions (write :: writes) database)
    (recoverable : ∀ item ∈ positions, item.Recoverable) (distinct : (positions.map positionSide.ticket).Nodup)
    (written : ledger.upsertPosition write.record database = .ok after) : ledger.Settling positions writes after := by
  obtain ⟨member, live⟩ := settling.listed write List.mem_cons_self
  obtain ⟨new, restDistinct⟩ := List.nodup_cons.mp settling.distinct
  have rows := upsertPosition_live settling.recovered live written
  have reads : ledger.ReadsPosition after write.record.item :=
    rows.reads live settling.recovered.toLinked (settling.agrees _ member) (recoverable _ member)
  -- an item has the ticket of the write only if it is the item of the write
  have apart : ∀ item ∈ positions, item ≠ write.record.item → item.ticket ≠ write.record.item.ticket := by
    intro item inside different same
    exact different (List.inj_on_of_nodup_map distinct inside member same)
  refine ⟨settling.recovered.upsertPosition written, ?_, ?_, restDistinct, ?_, ?_⟩
  · intro item inside
    by_cases same : item = write.record.item
    · rw [same]
      exact reads.agrees
    · obtain ⟨rowSame, tradeSame⟩ := rows.others live (apart item inside same)
      intro row found
      rw [rowSame] at found
      rw [tradeSame row found]
      exact settling.agrees item inside row found
  · intro other inside
    exact settling.listed other (List.mem_cons_of_mem _ inside)
  · intro item inside unplanned
    by_cases same : item = write.record.item
    · rw [same]
      exact reads
    · have different := apart item inside same
      obtain ⟨rowSame, tradeSame⟩ := rows.others live different
      obtain ⟨row, found, opened, shown⟩ := settling.settled item inside (by
        rw [List.map_cons, List.mem_cons, not_or]
        exact ⟨different, unplanned⟩)
      exact ⟨row, rowSame.trans found, opened, by rw [tradeSame row found, shown]⟩
  · intro ticket row found
    by_cases same : ticket = write.record.item.ticket
    · exact ⟨write.record.item, member, same.symm⟩
    · rw [(rows.others live same).1] at found
      exact settling.only ticket row found

theorem completes (settling : ledger.Settling positions writes database)
    (recoverable : ∀ item ∈ positions, item.Recoverable) (distinct : (positions.map positionSide.ticket).Nodup)
    {complete : Bool} (attempted : Attempted ledger.upsertPosition database writes after complete) :
    complete = true ∧ ledger.Settling positions [] after := by
  apply attempted.completes (ledger.Settling positions) _ _ settling
  · intro write writes before settling
    exact upsertPosition_commits settling.recovered.toLinked ledger write.record
  · intro write writes before after settling written
    exact settling.kept recoverable distinct written

end Settling

/-! ## The orders of a first run -/

structure SettlingOrders (ledger : SQLAlchemyRecoveryLedger) (orders : List BrokerOrder)
    (writes : List (LedgerWrite BrokerOrder)) (database : Database) : Prop where
  listed : ∀ write ∈ writes, write.record.item ∈ orders
  distinct : (writes.map fun write => orderSide.key write.record).Nodup
  settled : ∀ item ∈ orders, item.ticket ∉ (writes.map fun write => orderSide.key write.record) →
    ledger.ReadsOrder database item
  only : ∀ row ∈ database.orders.rows, ∃ item ∈ orders,
    item.ticket ∉ (writes.map fun write => orderSide.key write.record) ∧ ledger.Carries row item.ticket ∧
      row.idempotencyKey = item.idempotencyKey

/-- The amounts of the order fit their columns. -/
def Fits (item : BrokerOrder) : Prop :=
  Column.volume item.volume = item.volume ∧ Column.price item.price = item.price ∧
    Column.price item.stopLoss = item.stopLoss

structure OrdersRecoverable (orders : List BrokerOrder) : Prop where
  fits : ∀ item ∈ orders, Fits item
  keyed : ∀ item ∈ orders, item.idempotencyKey ≠ ""
  pending : ∀ item ∈ orders, item.status ∉ [OrderStatus.cancelled, .rejected]
  distinct : (orders.map BrokerOrder.idempotencyKey).Nodup

theorem orderWith_insert (ledger : SQLAlchemyRecoveryLedger) {row : OrderRow}
    (inserted : database.orders.insert (row.created now) (fun _ => rfl) = some after.orders) (ticket : String) :
    ledger.orderWith after ticket = (ledger.orderWith database ticket).or
      (if row.brokerAccountId = ledger.brokerAccountId ∧ row.brokerTicket = some ticket then
        some (row.created now database.orders.rows.length).stored else none) := by
  rw [orderWith, Table.select_insert inserted]
  simp only [decide_eq_true_eq]
  rfl

theorem brokerOrder_recovered {item : BrokerOrder} (keyed : item.idempotencyKey ≠ "") (fits : Fits item)
    (signalId : UUID) (now : Instant) (id : Nat) :
    brokerOrder ((ledger.recoveredOrder item signalId).created now id).stored = item := by
  obtain ⟨volume, price, stopLoss⟩ := fits
  cases item with
  | mk =>
    simp only [brokerOrder, OrderRow.stored, OrderRow.created, recoveredOrder, recoveredKey, decimalOr,
      Option.map_some, volume, price, stopLoss]
    split <;> simp_all

namespace SettlingOrders

variable {orders : List BrokerOrder} {writes : List (LedgerWrite BrokerOrder)} {write : LedgerWrite BrokerOrder}

section

variable (settling : ledger.SettlingOrders orders (write :: writes) database)
include settling

theorem missing : ledger.orderWith database write.record.item.ticket = none := by
  rw [orderWith_eq_none]
  intro row member carries
  obtain ⟨item, _, unplanned, carried, _⟩ := settling.only row member
  have same : item.ticket = write.record.item.ticket := Option.some.inj (carried.2.symm.trans carries.2)
  apply unplanned
  rw [same]
  exact List.mem_cons_self

theorem commits (recoverable : OrdersRecoverable orders) :
    ∃ after, ledger.upsertOrder write.record database = .ok after := by
  have inside := settling.listed write List.mem_cons_self
  cases written : ledger.upsertOrder write.record database with
  | ok after => exact ⟨after, rfl⟩
  | error =>
    -- a row with the key of the order is the row of another listed order
    obtain ⟨_, taken⟩ := upsertOrder_error written
    simp only [keysAfter, List.filter_nil, List.map_nil, List.append_nil, List.mem_map] at taken
    obtain ⟨row, member, same⟩ := taken
    obtain ⟨item, itemInside, unplanned, _, sameKey⟩ := settling.only row member
    have key : row.idempotencyKey = write.record.item.idempotencyKey :=
      same.trans (if_neg (recoverable.keyed _ inside))
    rw [List.inj_on_of_nodup_map recoverable.distinct itemInside inside (sameKey.symm.trans key)] at unplanned
    exact absurd List.mem_cons_self unplanned

theorem kept (recoverable : OrdersRecoverable orders) (distinct : (orders.map orderSide.ticket).Nodup)
    (written : ledger.upsertOrder write.record database = .ok after) : ledger.SettlingOrders orders writes after := by
  have member := settling.listed write List.mem_cons_self
  have keyed := recoverable.keyed _ member
  obtain ⟨new, restDistinct⟩ := List.nodup_cons.mp settling.distinct
  cases upsertOrder_cases written with
  | updated found =>
    rw [settling.missing] at found
    cases found
  | @inserted signals table missing added same =>
    have added : database.orders.insert
        ((ledger.recoveredOrder write.record.item
          (ledger.recoverySignalId write.record.item.symbol write.record.item.direction none)).created database.now)
        (fun _ => rfl) = some after.orders := by rw [added, same]
    refine ⟨fun other inside => settling.listed other (List.mem_cons_of_mem _ inside), restDistinct, ?_, ?_⟩
    · intro item inside unplanned
      by_cases different : item.ticket = write.record.item.ticket
      · obtain rfl := List.inj_on_of_nodup_map distinct inside member different
        have placed := orderWith_insert ledger added write.record.item.ticket
        rw [missing, Option.none_or, if_pos ⟨rfl, rfl⟩] at placed
        exact ⟨_, placed, brokerOrder_recovered keyed (recoverable.fits _ member) _ _ _, recoverable.pending _ member⟩
      · obtain ⟨row, found, shown, unfinished⟩ := settling.settled item inside (by
          rw [List.map_cons, List.mem_cons, not_or]
          exact ⟨different, unplanned⟩)
        exact ⟨row, by rw [orderWith_insert ledger added, found, Option.some_or], shown, unfinished⟩
    · rw [Table.forall_insert added]
      constructor
      · intro row inside
        obtain ⟨item, itemInside, unplanned, carries⟩ := settling.only row inside
        rw [List.map_cons, List.mem_cons, not_or] at unplanned
        exact ⟨item, itemInside, unplanned.2, carries⟩
      · exact ⟨write.record.item, member, new, ⟨rfl, rfl⟩, if_neg keyed⟩

end

theorem completes (settling : ledger.SettlingOrders orders writes database) (recoverable : OrdersRecoverable orders)
    (distinct : (orders.map orderSide.ticket).Nodup) {complete : Bool}
    (attempted : Attempted ledger.upsertOrder database writes after complete) :
    complete = true ∧ ledger.SettlingOrders orders [] after := by
  apply attempted.completes (ledger.SettlingOrders orders) _ _ settling
  · intro write writes before settling
    exact settling.commits recoverable
  · intro write writes before after settling written
    exact settling.kept recoverable distinct written

end SettlingOrders

section Runs

variable {middle : Database} {orders : List BrokerOrder} {result : Except PyError ReconciliationReport}
  {complete : Bool}

theorem attempted_rows {writes : List (LedgerWrite BrokerOrder)}
    (attempted : Attempted ledger.upsertOrder database writes after complete) :
    after.positions = database.positions ∧ after.trades = database.trades := by
  refine attempted.invariant (fun state => state.positions = database.positions ∧ state.trades = database.trades)
    ?_ ⟨rfl, rfl⟩
  intro before next write _ same written
  obtain ⟨positions, trades⟩ := upsertOrder_rows written
  exact ⟨positions.trans same.1, trades.trans same.2⟩

theorem run_recovered (run : LedgerRun ledger.backend positions orders now database result after)
    (recovered : Recovered database) : Recovered after :=
  run.invariant Recovered (fun _ _ _ before written => before.upsertPosition written)
    (fun _ _ _ before written => before.upsertOrder written) recovered

theorem run_positions (run : LedgerRun ledger.backend positions orders now database result after)
    (readable : ∃ records, ledger.positions database = .ok records) (recovered : Recovered database)
    (agrees : ∀ item ∈ positions, ledger.Agrees database item)
    (only : ∀ ticket row, database.positionWith ledger.brokerAccountId ticket = some row →
      ∃ item ∈ positions, item.ticket = ticket)
    (recoverable : ∀ item ∈ positions, item.Recoverable) (distinct : (positions.map positionSide.ticket).Nodup) :
    ∃ middle records complete, ledger.orders database = .ok records ∧ middle.orders = database.orders ∧
      ledger.Settling positions [] middle ∧
      Attempted ledger.upsertOrder middle (orderSide.plan now (.ofList orders) (.ofList records)) after complete := by
  obtain ⟨records, readRecords⟩ := readable
  cases run with
  | unread failed =>
    rcases failed with failed | failed
    · rw [show ledger.backend.positions database = .ok records from readRecords] at failed
      cases failed
    · cases failed
  | stopped read _ attempted =>
    have settled := (Settling.of_plan recovered agrees only distinct read).completes recoverable distinct attempted
    cases settled.1
  | ran read ordersRead attempted ordersAttempted _ _ =>
    have settled := (Settling.of_plan recovered agrees only distinct read).completes recoverable distinct attempted
    exact ⟨_, _, _, ordersRead, attempted_orders attempted, settled.2, ordersAttempted⟩

theorem Settling.mirrors (settled : ledger.Settling positions [] middle)
    (rows : after.positions = middle.positions ∧ after.trades = middle.trades)
    (readsOrders : ∀ item ∈ orders, ledger.ReadsOrder after item)
    (onlyOrders : ∀ row ∈ after.orders.rows, ∀ ticket, ledger.Carries row ticket →
      ∃ item ∈ orders, item.ticket = ticket) :
    ledger.Mirrors after positions orders := by
  refine ⟨?_, readsOrders, ?_, onlyOrders⟩
  · intro item member
    obtain ⟨row, found, opened, shown⟩ := settled.settled item member (by simp)
    refine ⟨row, ?_, opened, ?_⟩
    · rw [← found, positionWith, rows.1, positionWith]
    · rw [← shown, tradeOf, rows.2, tradeOf]
  · intro row member account
    rw [rows.1] at member
    exact settled.only row.brokerTicket row (positionWith_eq_some.mpr ⟨member, account, rfl⟩)

/-- **One run on empty tables mirrors what can be recovered.** -/
theorem mirrors_of_empty (run : LedgerRun ledger.backend positions orders now database result after)
    (noPositions : database.positions = .empty) (noTrades : database.trades = .empty)
    (noOrders : database.orders = .empty) (recoverable : ∀ item ∈ positions, item.Recoverable)
    (ordersRecoverable : OrdersRecoverable orders) (distinct : (positions.map positionSide.ticket).Nodup)
    (ordersDistinct : (orders.map orderSide.ticket).Nodup) : ledger.Mirrors after positions orders := by
  have missing : ∀ ticket, database.positionWith ledger.brokerAccountId ticket = none := by
    intro ticket
    rw [positionWith_eq_none, noPositions]
    simp [Table.empty]
  have readable : ∃ records, ledger.positions database = .ok records := by
    rw [SQLAlchemyRecoveryLedger.positions, noPositions]
    exact ⟨[], rfl⟩
  obtain ⟨middle, records, complete, ordersRead, ordersKept, settled, attempted⟩ :=
    run_positions run readable (.of_empty noPositions noTrades noOrders)
      (fun item _ row found => absurd ((missing _).symm.trans found) (by simp))
      (fun ticket row found => absurd ((missing ticket).symm.trans found) (by simp)) recoverable distinct
  have noRecords : records = [] := by
    rw [SQLAlchemyRecoveryLedger.orders, noOrders] at ordersRead
    cases ordersRead
    rfl
  subst noRecords
  have settling : ledger.SettlingOrders orders (orderSide.plan now (.ofList orders) (.ofList [])) middle := by
    refine ⟨?_, LedgerSide.nodup_plan _ _ _ _, ?_, ?_⟩
    · intro write member
      rw [← Keyed.ofList_items ordersDistinct]
      exact (LedgerSide.mem_plan_listed (by simp [Keyed.ofList]) member).1
    · intro item member unplanned
      obtain ⟨record, known, _⟩ := LedgerSide.known_of_unplanned
        (by rw [Keyed.get_ofList ordersDistinct]; exact lookup_of_mem ordersDistinct member) unplanned
      simp [Keyed.get, Keyed.ofList] at known
    · rw [ordersKept, noOrders]
      simp [Table.empty]
  obtain ⟨_, ordersSettled⟩ := settling.completes ordersRecoverable ordersDistinct attempted
  refine settled.mirrors (attempted_rows attempted) (fun item member => ordersSettled.settled item member (by simp)) ?_
  intro row member ticket carries
  obtain ⟨item, inside, _, carried, _⟩ := ordersSettled.only row member
  exact ⟨item, inside, Option.some.inj (carried.2.symm.trans carries.2)⟩

/-- **One run follows positions that agree with a mirror.** -/
theorem mirrors_of_moved {before : List BrokerPosition}
    (run : LedgerRun ledger.backend positions orders now database result after) (recovered : Recovered database)
    (mirrors : ledger.Mirrors database before orders) (agrees : ∀ item ∈ positions, ledger.Agrees database item)
    (tickets : positions.map positionSide.ticket = before.map positionSide.ticket)
    (recoverable : ∀ item ∈ positions, item.Recoverable) (distinct : (positions.map positionSide.ticket).Nodup)
    (ordersDistinct : (orders.map orderSide.ticket).Nodup) : ledger.Mirrors after positions orders := by
  have only : ∀ ticket row, database.positionWith ledger.brokerAccountId ticket = some row →
      ∃ item ∈ positions, item.ticket = ticket := by
    intro ticket row found
    obtain ⟨member, account, sameTicket⟩ := positionWith_eq_some.mp found
    obtain ⟨item, inside, same⟩ := mirrors.onlyPositions row member account
    have listed : positionSide.ticket item ∈ positions.map positionSide.ticket := tickets ▸ List.mem_map_of_mem inside
    obtain ⟨other, otherInside, otherSame⟩ := List.mem_map.mp listed
    exact ⟨other, otherInside, otherSame.trans (same.trans sameTicket)⟩
  obtain ⟨middle, records, complete, ordersRead, ordersKept, settled, attempted⟩ :=
    run_positions run mirrors.readable recovered agrees only recoverable distinct
  rw [mirrors.orderPlan ordersDistinct ordersRead] at attempted
  obtain ⟨rfl, _⟩ := attempted.eq_of_nil
  refine settled.mirrors ⟨rfl, rfl⟩ ?_ ?_
  · intro item member
    obtain ⟨row, found, shown⟩ := mirrors.readsOrders item member
    exact ⟨row, by rw [← found, orderWith, ordersKept, orderWith], shown⟩
  · rw [ordersKept]
    exact mirrors.onlyOrders

end Runs

/-! ## What no run changes -/

structure Extends (base database : Database) : Prop where
  positions : ∀ id row, base.positions.get id = some row → ∃ new, database.positions.get id = some new ∧
    new.identity = row.identity ∧ new.openPrice = row.openPrice
  orders : ∀ id row, base.orders.get id = some row → ∃ new, database.orders.get id = some new ∧
    new.brokerAccountId = row.brokerAccountId ∧ new.brokerTicket = row.brokerTicket ∧
      { brokerOrder new with status := row.status } = brokerOrder row

namespace Extends

variable {base : Database} {orders : List BrokerOrder} {result : Except PyError ReconciliationReport}

theorem refl (base : Database) : Extends base base := by
  constructor
  · intro id row found
    exact ⟨row, found, rfl, rfl⟩
  · intro id row found
    exact ⟨row, found, rfl, rfl, rfl⟩

theorem upsertPosition (extended : Extends base database) {record : LedgerPosition}
    (written : ledger.upsertPosition record database = .ok after) : Extends base after := by
  refine ⟨?_, by rw [upsertPosition_orders written]; exact extended.orders⟩
  intro id row found
  obtain ⟨old, shown, identity, openPrice⟩ := extended.positions id row found
  cases upsertPosition_cases written with
  | inserted _ added _ _ same | adopted _ added _ same =>
    subst same
    exact ⟨old, Table.get_insert_of_get added shown, identity, openPrice⟩
  | closed _ _ updated _ _ same | followed _ _ updated same =>
    subst same
    obtain ⟨new, found, rfl | rfl⟩ := Table.get_update_of_get updated shown
    · exact ⟨new, found, identity, openPrice⟩
    · refine ⟨_, found, (followed_keeps record database.now old).1.trans identity, ?_⟩
      -- a price that a column holds is kept
      have held := congrArg PositionRow.openPrice (database.positions.stored old (Table.mem_of_get shown))
      rw [← openPrice, ← held]
      simp only [positionSchema_store, PositionRow.stored, PositionRow.touched, SQLAlchemyRecoveryLedger.followed]
      split <;> rfl

theorem followedOrder_stored {record : LedgerOrder} {row : OrderRow} (held : orderSchema.store row = row) :
    (OrderRow.touched (followedOrder record) now row).stored = OrderRow.touched (followedOrder record) now row := by
  cases row with
  | mk =>
    simp only [orderSchema_store, OrderRow.stored, OrderRow.mk.injEq, true_and, and_true] at held
    simp only [OrderRow.stored, OrderRow.touched, followedOrder]
    split <;> simp [held]

theorem upsertOrder (extended : Extends base database) {record : LedgerOrder}
    (written : ledger.upsertOrder record database = .ok after) : Extends base after := by
  refine ⟨by rw [(upsertOrder_rows written).1]; exact extended.positions, ?_⟩
  intro id row found
  obtain ⟨old, shown, account, ticket, item⟩ := extended.orders id row found
  cases upsertOrder_cases written with
  | inserted _ added same =>
    subst same
    exact ⟨old, Table.get_insert_of_get added shown, account, ticket, item⟩
  | updated _ updated same =>
    subst same
    obtain ⟨new, found, rfl | rfl⟩ := Table.get_update_of_get updated shown
    · exact ⟨new, found, account, ticket, item⟩
    · refine ⟨_, found, ?_⟩
      rw [orderSchema_store, followedOrder_stored (database.orders.stored old (Table.mem_of_get shown))]
      simp only [OrderRow.touched, followedOrder]
      split <;> exact ⟨account, ticket, item⟩

theorem of_run (run : LedgerRun ledger.backend positions orders now database result after) : Extends database after :=
  run.invariant (Extends database) (fun _ _ _ before written => before.upsertPosition written)
    (fun _ _ _ before written => before.upsertOrder written) (refl database)

theorem openPrice {item later : BrokerPosition} (extended : Extends database after)
    (reads : ledger.ReadsPosition database item) (readsLater : ledger.ReadsPosition after later)
    (ticket : later.ticket = item.ticket) : later.openPrice = item.openPrice := by
  obtain ⟨row, found, _, shown⟩ := reads
  obtain ⟨new, newFound, _, newShown⟩ := readsLater
  obtain ⟨_, account, sameTicket⟩ := positionWith_eq_some.mp found
  obtain ⟨kept, keptFound, identity, openPrice⟩ := extended.positions row.id row (get_positionWith found)
  simp only [PositionRow.identity, Prod.mk.injEq] at identity
  have same : after.positionWith ledger.brokerAccountId later.ticket = some kept :=
    positionWith_eq_some.mpr ⟨Table.mem_of_get keptFound, identity.2.1.trans account,
      identity.2.2.trans (sameTicket.trans ticket.symm)⟩
  rw [newFound, Option.some.injEq] at same
  subst same
  rw [brokerPosition_eq_ok] at shown newShown
  rw [← newShown.2.2.2.2.1, ← shown.2.2.2.2.1, openPrice]

theorem order {item later : BrokerOrder} (extended : Extends database after) (reads : ledger.ReadsOrder database item)
    (readsLater : ledger.ReadsOrder after later) (ticket : later.ticket = item.ticket)
    (status : later.status = item.status) : later = item := by
  obtain ⟨row, found, rfl, _⟩ := reads
  obtain ⟨new, newFound, rfl, _⟩ := readsLater
  obtain ⟨member, carries⟩ := orderWith_eq_some.mp found
  obtain ⟨kept, keptFound, account, sameTicket, item⟩ := extended.orders row.id row (Table.get_of_mem member)
  have same : ledger.orderWith after (brokerOrder new).ticket = some kept :=
    orderWith_eq_some.mpr ⟨Table.mem_of_get keptFound, account.trans carries.1,
      sameTicket.trans (carries.2.trans (by rw [ticket]))⟩
  rw [newFound, Option.some.injEq] at same
  subst same
  rw [← item]
  have unchanged : new.status = row.status := status
  rw [← unchanged]
  rfl

end Extends

end SQLAlchemyRecoveryLedger

theorem Recovered.at {database : Database} (recovered : Recovered database) (now : Instant) :
    Recovered { database with now } :=
  ⟨⟨recovered.paired⟩, recovered.signalled, recovered.named, recovered.keyed⟩

/-! ## A broker that changes items -/

structure HealthyBroker where
  health : BrokerHealth
  positions : List BrokerPosition
  orders : List BrokerOrder
  healthy : health.healthy = true ∧ health.connected = true
  positionsDistinct : (positions.map positionSide.ticket).Nodup
  ordersDistinct : (orders.map orderSide.ticket).Nodup

structure PositionMoved (before after : BrokerPosition) : Prop where
  ticket : after.ticket = before.ticket
  symbol : after.symbol = before.symbol
  direction : after.direction = before.direction
  openedAt : after.openedAt = before.openedAt
  strategyId : after.strategyId = before.strategyId
  signalId : after.signalId = before.signalId

structure OrderMoved (before after : BrokerOrder) : Prop where
  ticket : after.ticket = before.ticket
  symbol : after.symbol = before.symbol
  direction : after.direction = before.direction
  orderType : after.orderType = before.orderType
  status : after.status = before.status
  createdAt : after.createdAt = before.createdAt
  idempotencyKey : after.idempotencyKey = before.idempotencyKey

namespace HealthyBroker

def Moved (before after : HealthyBroker) : Prop :=
  List.Forall₂ PositionMoved before.positions after.positions ∧ List.Forall₂ OrderMoved before.orders after.orders

def Recoverable (broker : HealthyBroker) : Prop :=
  (∀ item ∈ broker.positions, item.Recoverable) ∧ SQLAlchemyRecoveryLedger.OrdersRecoverable broker.orders

def Follows (before after : HealthyBroker) : Prop :=
  after.positions.map BrokerPosition.openPrice = before.positions.map BrokerPosition.openPrice ∧
    after.orders = before.orders

end HealthyBroker

def Quiet {σ : Type} (outcome : Outcome Port PyError ReconciliationReport (RecoveryState σ)) : Prop :=
  ∃ report, outcome.result = .ok report ∧ report.incidents = []

namespace SQLAlchemyRecoveryLedger

variable (ledger : SQLAlchemyRecoveryLedger)

def reconcileWith (broker : HealthyBroker) (now : Instant) (database : Database) :
    Outcome Port PyError ReconciliationReport (RecoveryState Database) :=
  ledger.backend.reconcile (.listing broker.health broker.positions broker.orders) now { database with now }

def reconcileAgain (broker : HealthyBroker) (first second : Instant) (database : Database) :
    Outcome Port PyError ReconciliationReport (RecoveryState Database) :=
  ledger.reconcileWith broker second (ledger.reconcileWith broker first database).state.ledger

variable {ledger} {broker : HealthyBroker} {database : Database} {now : Instant}

theorem reconcileWith_run (ledger : SQLAlchemyRecoveryLedger) (broker : HealthyBroker) (now : Instant)
    (database : Database) :
    LedgerRun ledger.backend broker.positions broker.orders now { database with now }
      (ledger.reconcileWith broker now database).result (ledger.reconcileWith broker now database).state.ledger := by
  obtain ⟨final, leaves, run⟩ :=
    reconcile_run ledger.backend broker.healthy broker.positions broker.orders now { database with now }
  rw [reconcileWith, leaves]
  exact run

theorem reconcileWith_extends (ledger : SQLAlchemyRecoveryLedger) (broker : HealthyBroker) (now : Instant)
    (database : Database) : Extends database (ledger.reconcileWith broker now database).state.ledger := by
  have grown := Extends.of_run (reconcileWith_run ledger broker now database)
  exact ⟨grown.positions, grown.orders⟩

theorem Mirrors.at (mirrors : ledger.Mirrors database broker.positions broker.orders) (now : Instant) :
    ledger.Mirrors { database with now } broker.positions broker.orders :=
  ⟨mirrors.readsPositions, mirrors.readsOrders, mirrors.onlyPositions, mirrors.onlyOrders⟩

theorem quiet_of_mirrors (mirrors : ledger.Mirrors database broker.positions broker.orders) (now : Instant) :
    Quiet (ledger.reconcileWith broker now database) ∧
      (ledger.reconcileWith broker now database).state.ledger = { database with now } := by
  obtain ⟨same, report, returned, quiet⟩ := (mirrors.at now).quiet broker.positionsDistinct broker.ordersDistinct
    (reconcileWith_run ledger broker now database)
  exact ⟨⟨report, returned, quiet⟩, same⟩

theorem reads_of_quietRun (quiet : Quiet (ledger.reconcileWith broker now database)) :
    (ledger.reconcileWith broker now database).state.ledger = { database with now } ∧
      (∀ item ∈ broker.positions, ledger.ReadsPosition database item) ∧
      ∀ item ∈ broker.orders, ledger.ReadsOrder database item := by
  obtain ⟨report, returned, none_⟩ := quiet
  have run := reconcileWith_run ledger broker now database
  rw [returned] at run
  exact reads_of_quiet run none_ broker.positionsDistinct broker.ordersDistinct

theorem ReadsPosition.recoverable {item : BrokerPosition} (reads : ledger.ReadsPosition database item)
    (recovered : Recovered database) : item.Recoverable := by
  obtain ⟨row, found, _, shown⟩ := reads
  have inside := (positionWith_eq_some.mp found).1
  obtain ⟨trade, known⟩ := recovered.tradeOf_isSome inside
  rw [brokerPosition_eq_ok, known] at shown
  obtain ⟨_, _, _, volume, openPrice, currentPrice, stopLoss, _, profit, _, strategy, signal⟩ := shown
  have held := database.positions.stored row inside
  refine ⟨?_, ?_, ?_, ?_, ?_, ?_, ?_⟩
  · rw [← strategy]
    exact recovered.named trade (tradeOf_eq_some.mp known).1
  · rw [← signal]
    exact recovered.signalled row inside
  · exact volume ▸ congrArg PositionRow.currentVolume held
  · exact openPrice ▸ congrArg PositionRow.openPrice held
  · exact currentPrice ▸ congrArg PositionRow.currentPrice held
  · exact stopLoss ▸ congrArg PositionRow.stopLoss held
  · exact profit ▸ congrArg PositionRow.unrealizedPnl held

theorem price_decimalOr {amount : Option Decimal} {default : Decimal} (held : amount.map Column.price = amount)
    (fits : Column.price default = default) : Column.price (decimalOr amount default) = decimalOr amount default := by
  cases amount with
  | none => exact fits
  | some amount =>
    rw [Option.map_some, Option.some.injEq] at held
    unfold decimalOr
    dsimp only
    split
    · exact fits
    · exact held

theorem ReadsOrder.fits {item : BrokerOrder} (reads : ledger.ReadsOrder database item) : Fits item := by
  obtain ⟨row, found, rfl, _⟩ := reads
  have held := database.orders.stored row (orderWith_eq_some.mp found).1
  refine ⟨congrArg OrderRow.volume held, ?_, congrArg OrderRow.stopLoss held⟩
  exact price_decimalOr (congrArg OrderRow.requestedPrice held)
    (price_decimalOr (congrArg OrderRow.executedPrice held) (toScale_zero _))

theorem recoverable_of_reads (recovered : Recovered database)
    (readsPositions : ∀ item ∈ broker.positions, ledger.ReadsPosition database item)
    (readsOrders : ∀ item ∈ broker.orders, ledger.ReadsOrder database item) : broker.Recoverable := by
  refine ⟨fun item member => (readsPositions item member).recoverable recovered,
    fun item member => (readsOrders item member).fits, ?_, ?_, ?_⟩
  · intro item member
    obtain ⟨row, found, rfl, _⟩ := readsOrders item member
    exact recovered.keyed row (orderWith_eq_some.mp found).1
  · intro item member
    obtain ⟨row, _, rfl, unfinished⟩ := readsOrders item member
    exact unfinished
  · -- rows with one key are one row
    apply List.Nodup.map_on _ (List.Nodup.of_map _ broker.ordersDistinct)
    intro first firstMember second secondMember same
    obtain ⟨row, found, rfl, _⟩ := readsOrders first firstMember
    obtain ⟨other, otherFound, rfl, _⟩ := readsOrders second secondMember
    have sameKey : row.idempotencyKey = other.idempotencyKey := same
    have clash : orderSchema.clash row other = true := by simp [orderSchema, sameKey]
    rw [Table.eq_of_clash (orderWith_eq_some.mp found).1 (orderWith_eq_some.mp otherFound).1 clash]

end SQLAlchemyRecoveryLedger

section Related

variable {α γ : Type} {related : α → α → Prop} {column : α → γ} {first second : List α}

theorem map_eq_of_related (all : List.Forall₂ related first second)
    (same : ∀ before ∈ first, ∀ after ∈ second, related before after → column after = column before) :
    second.map column = first.map column := by
  induction all with
  | nil => rfl
  | cons head _ ih =>
    rw [List.map_cons, List.map_cons, same _ List.mem_cons_self _ List.mem_cons_self head]
    rw [ih fun before inside after later =>
      same before (List.mem_cons_of_mem _ inside) after (List.mem_cons_of_mem _ later)]

theorem counterpart (all : List.Forall₂ related first second) (same : second.map column = first.map column)
    {item : α} (member : item ∈ second) : ∃ before ∈ first, related before item ∧ column item = column before := by
  induction all with
  | nil => cases member
  | @cons before after earlier later head _ ih =>
    rw [List.map_cons, List.map_cons, List.cons.injEq] at same
    rcases List.mem_cons.mp member with rfl | inside
    · exact ⟨before, List.mem_cons_self, head, same.1⟩
    · obtain ⟨found, foundInside, holds⟩ := ih same.2 inside
      exact ⟨found, List.mem_cons_of_mem _ foundInside, holds⟩

end Related

def SQLAlchemyRecoveryLedger.Settles (ledger : SQLAlchemyRecoveryLedger) (before after : HealthyBroker)
    (times : Fin 4 → Instant) (database : Database) : Prop :=
  Quiet (ledger.reconcileAgain before (times 0) (times 1) database) ∧
    Quiet (ledger.reconcileAgain after (times 2) (times 3)
      (ledger.reconcileAgain before (times 0) (times 1) database).state.ledger)

namespace SQLAlchemyRecoveryLedger

variable {ledger : SQLAlchemyRecoveryLedger} {before after : HealthyBroker} {database : Database}

theorem mirrors_after_move (recovered : Recovered database)
    (mirrors : ledger.Mirrors database before.positions before.orders) (moved : before.Moved after)
    (follows : before.Follows after) (recoverable : ∀ item ∈ after.positions, item.Recoverable) (now : Instant) :
    ledger.Mirrors (ledger.reconcileWith after now database).state.ledger after.positions after.orders := by
  obtain ⟨prices, sameOrders⟩ := follows
  have shown : ledger.Mirrors { database with now } before.positions after.orders := by
    rw [sameOrders]
    exact mirrors.at now
  apply mirrors_of_moved (reconcileWith_run ledger after now database) (recovered.at now) shown
  · intro item member row found
    obtain ⟨old, inside, related, price⟩ := counterpart moved.1 prices member
    rw [related.ticket] at found
    obtain ⟨symbol, direction, openPrice, openedAt, signal, strategy⟩ :=
      (mirrors.readsPositions old inside).agrees row found
    exact ⟨symbol.trans related.symbol.symm, direction.trans related.direction.symm, openPrice.trans price.symm,
      openedAt.trans related.openedAt.symm, signal.trans related.signalId.symm, strategy.trans related.strategyId.symm⟩
  · exact map_eq_of_related moved.1 fun _ _ _ _ related => related.ticket
  · exact recoverable
  · exact after.positionsDistinct
  · exact after.ordersDistinct

theorem follows_of_reads {later : Database} (moved : before.Moved after) (grown : Extends database later)
    (reads : ∀ item ∈ before.positions, ledger.ReadsPosition database item)
    (readsOrders : ∀ item ∈ before.orders, ledger.ReadsOrder database item)
    (readsLater : ∀ item ∈ after.positions, ledger.ReadsPosition later item)
    (readsOrdersLater : ∀ item ∈ after.orders, ledger.ReadsOrder later item) : before.Follows after := by
  constructor
  · apply map_eq_of_related moved.1
    intro item inside other otherInside related
    exact grown.openPrice (reads item inside) (readsLater other otherInside) related.ticket
  · have same : after.orders.map id = before.orders.map id := by
      apply map_eq_of_related moved.2
      intro item inside other otherInside related
      exact grown.order (readsOrders item inside) (readsOrdersLater other otherInside) related.ticket related.status
    simpa using same

end SQLAlchemyRecoveryLedger

open SQLAlchemyRecoveryLedger in
/-- **Reconciliation with an empty ledger settles exactly if every item can be recovered as it is and the broker
changes neither an open price nor an order.** -/
theorem settles_iff (ledger : SQLAlchemyRecoveryLedger) {before after : HealthyBroker} (moved : before.Moved after)
    {database : Database} (noPositions : database.positions = .empty) (noTrades : database.trades = .empty)
    (noOrders : database.orders = .empty) (times : Fin 4 → Instant) :
    ledger.Settles before after times database ↔
      before.Recoverable ∧ after.Recoverable ∧ before.Follows after := by
  have firstRun := reconcileWith_run ledger before (times 0) database
  have recovered := run_recovered firstRun (.of_empty noPositions noTrades noOrders)
  unfold Settles reconcileAgain
  constructor
  · rintro ⟨quiet, later⟩
    obtain ⟨unchanged, reads, readsOrders⟩ := reads_of_quietRun quiet
    rw [unchanged] at later
    obtain ⟨_, readsLater, readsOrdersLater⟩ := reads_of_quietRun later
    have later := run_recovered (reconcileWith_run ledger after (times 2) _) ((recovered.at (times 1)).at (times 2))
    refine ⟨recoverable_of_reads recovered reads readsOrders,
      recoverable_of_reads later readsLater readsOrdersLater, ?_⟩
    exact follows_of_reads moved (reconcileWith_extends ledger after _ _) reads readsOrders readsLater readsOrdersLater
  · rintro ⟨⟨recoverable, ordersRecoverable⟩, ⟨stays, _⟩, follows⟩
    have mirrors := mirrors_of_empty firstRun noPositions noTrades noOrders recoverable ordersRecoverable
      before.positionsDistinct before.ordersDistinct
    obtain ⟨quiet, unchanged⟩ := quiet_of_mirrors mirrors (times 1)
    rw [unchanged]
    have followed := mirrors_after_move (recovered.at (times 1)) (mirrors.at (times 1)) moved follows stays (times 2)
    exact ⟨quiet, (quiet_of_mirrors followed (times 3)).1⟩

namespace Demo

def ownPosition (volume : Decimal) (volume_pos : 0 < volume) : BrokerPosition :=
  { position "P1" volume volume_pos with strategyId := "gold-breakout", signalId := some signal.signalId }

def holding (item : BrokerPosition) : HealthyBroker where
  health := healthy
  positions := [item]
  orders := []
  healthy := ⟨rfl, rfl⟩
  positionsDistinct := List.nodup_singleton _
  ordersDistinct := List.nodup_nil

theorem recoverable_holding {item : BrokerPosition} (recoverable : item.Recoverable) : (holding item).Recoverable :=
  ⟨by simpa [holding] using recoverable, by simp [holding], by simp [holding], by simp [holding], by simp [holding]⟩

end Demo

open Demo

/-- A position of the bot settles, also after a partial close. -/
theorem settles_partial_close :
    sqlLedger.Settles (holding (ownPosition 1 lot_pos))
      (holding (ownPosition (1 / 2) (by norm_num))) (fun _ => now) emptyDatabase := by
  apply (settles_iff sqlLedger ?_ rfl rfl rfl _).mpr
  · refine ⟨recoverable_holding ?_, recoverable_holding ?_, rfl, rfl⟩ <;> constructor <;> decide +kernel
  · exact ⟨.cons ⟨rfl, rfl, rfl, rfl, rfl, rfl⟩ .nil, .nil⟩

/-- A position without a signal is repaired again in the second run. -/
theorem unsignalled_position_drifts :
    ¬ sqlLedger.Settles (holding (position "P1" 1 lot_pos))
      (holding (position "P1" 1 lot_pos)) (fun _ => now) emptyDatabase := by
  rintro ⟨⟨report, returned, quiet⟩, _⟩
  have drifts : (sqlLedger.reconcileAgain (holding (position "P1" 1 lot_pos)) now now
      emptyDatabase).result.toOption.any (·.incidents = []) = false := by
    decide +kernel
  simp [returned, quiet, Except.toOption] at drifts

end GoldFlow
