import GoldFlow.Persistence.RecoveryLedger

/-! # The rows of the durable ledger

What one upsert does to the tables, said once, and what the ledger reads for a ticket.
-/

namespace GoldFlow

open Data Database

section Rows

variable {database : Database} {account ticket : String} {id : Nat}

theorem Database.positionWith_eq_some {row : PositionRow} :
    database.positionWith account ticket = some row ↔
      row ∈ database.positions.rows ∧ row.brokerAccountId = account ∧ row.brokerTicket = ticket := by
  rw [Database.positionWith, Table.select_eq_some]
  · simp
  · intro first second firstWanted secondWanted
    simp only [decide_eq_true_eq] at firstWanted secondWanted
    simp [positionSchema, firstWanted.1, firstWanted.2, secondWanted.1, secondWanted.2]

theorem Database.positionWith_eq_none :
    database.positionWith account ticket = none ↔
      ∀ row ∈ database.positions.rows, row.brokerAccountId = account → row.brokerTicket ≠ ticket := by
  rw [Database.positionWith, Table.select_eq_none]
  simp

theorem Database.tradeOf_eq_some {trade : TradeRow} :
    database.tradeOf id = some trade ↔ trade ∈ database.trades.rows ∧ trade.positionId = id := by
  rw [Database.tradeOf, Table.select_eq_some]
  · simp
  · intro first second firstWanted secondWanted
    simp only [decide_eq_true_eq] at firstWanted secondWanted
    simp [tradeSchema, firstWanted, secondWanted]

theorem Database.tradeOf_eq_none :
    database.tradeOf id = none ↔ ∀ trade ∈ database.trades.rows, trade.positionId ≠ id := by
  rw [Database.tradeOf, Table.select_eq_none]
  simp

theorem Database.get_positionWith {row : PositionRow} (found : database.positionWith account ticket = some row) :
    database.positions.get row.id = some row :=
  Table.get_of_mem (positionWith_eq_some.mp found).1

end Rows

/-- The ledger can build the position of the row. -/
def PositionRow.Sound (row : PositionRow) : Prop :=
  0 < row.currentVolume ∧ 0 < row.openPrice ∧ 0 < row.stopLoss

/-! ## Positions with their trades -/

def PositionRow.identity (row : PositionRow) : Nat × String × String := (row.id, row.brokerAccountId, row.brokerTicket)

def TradeRow.reference (trade : TradeRow) : Nat × String × String :=
  (trade.positionId, trade.brokerAccountId, trade.brokerTicket)

/-- Each position has one trade, with its number, its account and its ticket. -/
structure Linked (database : Database) : Prop where
  paired : database.trades.rows.map TradeRow.reference = database.positions.rows.map PositionRow.identity

namespace Linked

variable {database after : Database}

theorem references (linked : Linked database) :
    database.trades.rows.map (·.positionId) = List.range database.positions.rows.length := by
  have firsts := congrArg (List.map Prod.fst) linked.paired
  rw [List.map_map, List.map_map] at firsts
  exact firsts.trans database.positions.numbered

theorem owned (linked : Linked database) {trade : TradeRow} (inside : trade ∈ database.trades.rows) :
    trade.positionId < database.positions.rows.length := by
  rw [← List.mem_range, ← linked.references]
  exact List.mem_map_of_mem inside

theorem untraded (linked : Linked database) {account ticket : String}
    (missing : database.positionWith account ticket = none) {trade : TradeRow}
    (inside : trade ∈ database.trades.rows) : ¬ (trade.brokerAccountId = account ∧ trade.brokerTicket = ticket) := by
  rintro ⟨sameAccount, sameTicket⟩
  have referred : trade.reference ∈ database.positions.rows.map PositionRow.identity :=
    linked.paired ▸ List.mem_map_of_mem inside
  obtain ⟨row, member, same⟩ := List.mem_map.mp referred
  simp only [PositionRow.identity, TradeRow.reference, Prod.mk.injEq] at same
  exact positionWith_eq_none.mp missing row member (same.2.1.trans sameAccount) (same.2.2.trans sameTicket)

theorem tradeOf_isSome (linked : Linked database) {row : PositionRow} (member : row ∈ database.positions.rows) :
    ∃ trade, database.tradeOf row.id = some trade := by
  have referred : row.id ∈ database.trades.rows.map (·.positionId) := by
    rw [linked.references, List.mem_range]
    exact Table.id_lt_of_mem member
  obtain ⟨trade, inside, owner⟩ := List.mem_map.mp referred
  exact ⟨trade, tradeOf_eq_some.mpr ⟨inside, owner⟩⟩

theorem tradeOf_next (linked : Linked database) : database.tradeOf database.positions.rows.length = none := by
  rw [tradeOf_eq_none]
  exact fun trade inside => (linked.owned inside).ne

theorem of_empty (positions : database.positions = .empty) (trades : database.trades = .empty) : Linked database :=
  ⟨by simp [positions, trades, Table.empty]⟩

end Linked

namespace SQLAlchemyRecoveryLedger

variable {ledger : SQLAlchemyRecoveryLedger} {database after : Database} {record : LedgerPosition}

/-! ## What an upsert writes -/

def recoveredPosition (ledger : SQLAlchemyRecoveryLedger) (item : BrokerPosition) : PositionRow :=
  ledger.recoveredRow item (ledger.recoverySignalId item.symbol item.direction item.signalId)

def recoveredTrade (ledger : SQLAlchemyRecoveryLedger) (database : Database) (item : BrokerPosition) : TradeRow :=
  ledger.recoveryTrade database database.positions.rows.length item
    (ledger.recoverySignalId item.symbol item.direction item.signalId)

theorem ensureRecoverySignal_eq (ledger : SQLAlchemyRecoveryLedger) (database : Database) (symbol : String)
    (direction : Direction) (signalId : Option UUID) :
    ∃ added, ledger.ensureRecoverySignal database symbol direction signalId =
      (ledger.recoverySignalId symbol direction signalId,
        { database with signals := database.signals ++ added }) := by
  simp only [ensureRecoverySignal]
  split
  · exact ⟨[], by rw [List.append_nil]⟩
  · exact ⟨_, rfl⟩

inductive OrderWritten (ledger : SQLAlchemyRecoveryLedger) (record : LedgerOrder) (database after : Database) : Prop
  | inserted {added : List SignalRow} {orders : Table orderSchema} :
      ledger.orderWith database record.item.ticket = none →
      database.orders.insert
        ((ledger.recoveredOrder record.item
          (ledger.recoverySignalId record.item.symbol record.item.direction none)).created database.now)
        (fun _ => rfl) = some orders →
      after = { database with signals := database.signals ++ added, orders } →
      OrderWritten ledger record database after
  | updated {row : OrderRow} {orders : Table orderSchema} :
      ledger.orderWith database record.item.ticket = some row →
      database.orders.update row.id (OrderRow.touched (followedOrder record) database.now) (fun _ => rfl) =
        some orders →
      after = { database with orders } → OrderWritten ledger record database after

theorem upsertOrder_cases {record : LedgerOrder} (written : ledger.upsertOrder record database = .ok after) :
    OrderWritten ledger record database after := by
  unfold upsertOrder at written
  cases found : ledger.orderWith database record.item.ticket with
  | none =>
    obtain ⟨added, ensured⟩ :=
      ensureRecoverySignal_eq ledger database record.item.symbol record.item.direction none
    simp only [found, ensured] at written
    obtain ⟨⟨new, middle⟩, inserted, rest⟩ := bind_eq_ok.mp written
    obtain ⟨orders, made, rfl, _⟩ := insertOrder_ok inserted
    cases rest
    exact .inserted found made rfl
  | some =>
    simp only [found] at written
    obtain ⟨orders, rfl, made⟩ := updateOrder_ok written
    exact .updated found made rfl

/-- A row is inserted with a trade, or updated, and its trade when it closes. -/
inductive PositionWritten (ledger : SQLAlchemyRecoveryLedger) (record : LedgerPosition) (database after : Database) :
    Prop
  | inserted {added : List SignalRow} {positions : Table positionSchema} {trades : Table tradeSchema} :
      database.positionWith ledger.brokerAccountId record.item.ticket = none →
      database.positions.insert
        ((ledger.recoveredPosition record.item).created database.now)
        (fun _ => rfl) = some positions →
      database.tradeOf database.positions.rows.length = none →
      database.trades.insert
        (ledger.recoveredTrade database record.item).created
        (fun _ => rfl) = some trades →
      after = { database with signals := database.signals ++ added, positions, trades } →
      PositionWritten ledger record database after
  | adopted {added : List SignalRow} {positions : Table positionSchema} {trade : TradeRow} :
      database.positionWith ledger.brokerAccountId record.item.ticket = none →
      database.positions.insert
        ((ledger.recoveredPosition record.item).created database.now)
        (fun _ => rfl) = some positions →
      database.tradeOf database.positions.rows.length = some trade →
      after = { database with signals := database.signals ++ added, positions } →
      PositionWritten ledger record database after
  | closed {row : PositionRow} {trade : TradeRow} {added : List SignalRow} {positions : Table positionSchema}
      {trades : Table tradeSchema} :
      database.positionWith ledger.brokerAccountId record.item.ticket = some row → record.status = .closed →
      database.positions.update row.id (PositionRow.touched (followed record) database.now) (fun _ => rfl) =
        some positions →
      database.tradeOf row.id = some trade →
      database.trades.update trade.id (TradeRow.touched (closedTrade record)) (fun _ => rfl) = some trades →
      after = { database with signals := database.signals ++ added, positions, trades } →
      PositionWritten ledger record database after
  | followed {row : PositionRow} {added : List SignalRow} {positions : Table positionSchema} :
      database.positionWith ledger.brokerAccountId record.item.ticket = some row →
      record.status ≠ .closed ∨ database.tradeOf row.id = none →
      database.positions.update row.id (PositionRow.touched (followed record) database.now) (fun _ => rfl) =
        some positions →
      after = { database with signals := database.signals ++ added, positions } →
      PositionWritten ledger record database after

theorem upsertPosition_cases (written : ledger.upsertPosition record database = .ok after) :
    PositionWritten ledger record database after := by
  obtain ⟨added, ensured⟩ := ensureRecoverySignal_eq ledger database record.item.symbol record.item.direction
    record.item.signalId
  unfold upsertPosition at written
  simp only [ensured] at written
  cases found : database.positionWith ledger.brokerAccountId record.item.ticket with
  | none =>
    simp only [found] at written
    obtain ⟨⟨new, middle⟩, inserted, rest⟩ := bind_eq_ok.mp written
    obtain ⟨positions, made, rfl, rfl⟩ := insertPosition_ok inserted
    unfold ensureRecoveryTrade at rest
    cases known : database.tradeOf database.positions.rows.length with
    | some trade =>
      have adopted : tradeOf { database with signals := database.signals ++ added, positions }
          database.positions.rows.length = some trade := known
      simp only [PositionRow.created, adopted] at rest
      cases rest
      exact .adopted found made known rfl
    | none =>
      have missing : tradeOf { database with signals := database.signals ++ added, positions }
          database.positions.rows.length = none := known
      simp only [PositionRow.created, missing] at rest
      obtain ⟨⟨trade, last⟩, tradeAdded, rest⟩ := bind_eq_ok.mp rest
      obtain ⟨trades, tradeMade, rfl, _⟩ := insertTrade_ok tradeAdded
      cases rest
      exact .inserted found made known tradeMade rfl
  | some row =>
    simp only [found] at written
    obtain ⟨middle, updated, rest⟩ := bind_eq_ok.mp written
    obtain ⟨positions, rfl, made⟩ := updatePosition_ok updated
    cases known : database.tradeOf row.id with
    | none =>
      have missing : tradeOf { database with signals := database.signals ++ added, positions } row.id =
          none := known
      simp only [missing] at rest
      cases rest
      exact .followed found (.inr known) made rfl
    | some trade =>
      have shown : tradeOf { database with signals := database.signals ++ added, positions } row.id =
          some trade := known
      simp only [shown] at rest
      by_cases closing : record.status = .closed
      · rw [if_pos closing] at rest
        obtain ⟨trades, rfl, tradeMade⟩ := updateTrade_ok rest
        exact .closed found closing made known tradeMade rfl
      · rw [if_neg closing] at rest
        cases rest
        exact .followed found (.inl closing) made rfl

theorem upsertPosition_orders (written : ledger.upsertPosition record database = .ok after) :
    after.orders = database.orders := by
  cases upsertPosition_cases written with
  | inserted _ _ _ _ same | adopted _ _ _ same | closed _ _ _ _ _ same | followed _ _ _ same =>
    rw [same]

theorem upsertOrder_rows {record : LedgerOrder} (written : ledger.upsertOrder record database = .ok after) :
    after.positions = database.positions ∧ after.trades = database.trades := by
  cases upsertOrder_cases written with
  | inserted _ _ same | updated _ _ same =>
    rw [same]
    exact ⟨rfl, rfl⟩

theorem followed_keeps (record : LedgerPosition) (now : Instant) (row : PositionRow) :
    (PositionRow.touched (followed record) now row).stored.identity = row.identity ∧
      (PositionRow.touched (followed record) now row).stored.signalId = row.signalId := by
  unfold PositionRow.touched followed
  split <;> exact ⟨rfl, rfl⟩

theorem upsertPosition_linked (linked : Linked database) (written : ledger.upsertPosition record database = .ok after) :
    Linked after := by
  have paired := linked.paired
  constructor
  cases upsertPosition_cases written with
  | inserted _ added _ traded same =>
    subst same
    rw [Table.rows_insert added, Table.rows_insert traded, List.map_append, List.map_append, paired]
    rfl
  | adopted _ _ known => exact absurd (linked.tradeOf_next.symm.trans known) (by simp)
  | closed _ _ updated _ traded same =>
    subst same
    rw [Table.map_update updated fun row => (followed_keeps _ _ row).1, Table.map_update traded fun _ => rfl, paired]
  | followed _ _ updated same =>
    subst same
    rw [Table.map_update updated fun row => (followed_keeps _ _ row).1, paired]

/-- **No constraint refuses a position.** -/
theorem upsertPosition_commits (linked : Linked database) (ledger : SQLAlchemyRecoveryLedger)
    (record : LedgerPosition) : ∃ after, ledger.upsertPosition record database = .ok after := by
  obtain ⟨added, ensured⟩ := ensureRecoverySignal_eq ledger database record.item.symbol record.item.direction
    record.item.signalId
  generalize database.signals ++ added = signals at ensured
  unfold upsertPosition
  simp only [ensured]
  cases found : database.positionWith ledger.brokerAccountId record.item.ticket with
  | none =>
    -- neither table has a row with the ticket
    have free := positionWith_eq_none.mp found
    obtain ⟨positions, added⟩ : ∃ positions, database.positions.insert
        ((ledger.recoveredPosition record.item).created database.now) (fun _ => rfl) = some positions := by
      apply Table.insert_isSome
      intro row member
      simp [positionSchema, PositionRow.stored, PositionRow.created, recoveredPosition, recoveredRow]
      grind
    obtain ⟨trades, traded⟩ : ∃ trades, database.trades.insert
        (ledger.recoveredTrade database record.item).created (fun _ => rfl) = some trades := by
      apply Table.insert_isSome
      intro trade inside
      have apart := linked.untraded found inside
      have other := (linked.owned inside).ne
      simp [tradeSchema, TradeRow.stored, TradeRow.created, recoveredTrade, recoveryTrade]
      grind
    have next : tradeOf { database with signals, positions } database.positions.rows.length = none :=
      linked.tradeOf_next
    refine ⟨{ database with signals, positions, trades }, ?_⟩
    refine bind_eq_ok.mpr ⟨_, bind_eq_ok.mpr ⟨positions, congrArg (admitted _) added, rfl⟩, ?_⟩
    simp only [ensureRecoveryTrade, PositionRow.created, next]
    exact bind_eq_ok.mpr ⟨_, bind_eq_ok.mpr ⟨trades, congrArg (admitted _) traded, rfl⟩, rfl⟩
  | some row =>
    obtain ⟨positions, updated⟩ : ∃ positions, database.positions.update row.id
        (PositionRow.touched (followed record) database.now) (fun _ => rfl) = some positions := by
      apply Table.update_isSome (get_positionWith found)
      intro first second
      unfold PositionRow.touched followed
      split <;> rfl
    obtain ⟨trade, known⟩ := linked.tradeOf_isSome (positionWith_eq_some.mp found).1
    have shown : tradeOf { database with signals, positions } row.id = some trade := known
    obtain ⟨trades, traded⟩ : ∃ trades, database.trades.update trade.id
        (TradeRow.touched (closedTrade record)) (fun _ => rfl) = some trades :=
      Table.update_isSome (Table.get_of_mem (tradeOf_eq_some.mp known).1) fun _ _ => rfl
    by_cases closing : record.status = .closed
    · refine ⟨{ database with signals, positions, trades }, bind_eq_ok.mpr ⟨_, bind_eq_ok.mpr ⟨positions,
        congrArg (admitted _) updated, rfl⟩, ?_⟩⟩
      simp only [shown, closing, if_true]
      exact bind_eq_ok.mpr ⟨trades, congrArg (admitted _) traded, rfl⟩
    · refine ⟨{ database with signals, positions }, bind_eq_ok.mpr ⟨_, bind_eq_ok.mpr ⟨positions,
        congrArg (admitted _) updated, rfl⟩, ?_⟩⟩
      simp only [shown, closing, if_false]
      rfl

/-! ## What the ledger reads for a ticket -/

theorem key_ledgerPosition {row : PositionRow} (read : ledgerPosition database row = .ok record) :
    positionSide.key record = row.brokerTicket := by
  obtain ⟨item, made, rest⟩ := bind_eq_ok.mp read
  cases rest
  unfold brokerPosition BrokerPosition.make at made
  split at made
  · cases made
    rfl
  · cases made

theorem ledgerPosition_isOk {row : PositionRow} :
    (∃ record, ledgerPosition database row = .ok record) ↔ row.Sound := by
  unfold ledgerPosition brokerPosition BrokerPosition.make PositionRow.Sound
  split
  next valid => simp [bind, Except.bind, pure, Except.pure, valid]
  next invalid => simp [invalid, bind, Except.bind]

def PositionsSound (ledger : SQLAlchemyRecoveryLedger) (database : Database) : Prop :=
  ∀ row ∈ database.positions.rows, row.brokerAccountId = ledger.brokerAccountId → row.Sound

theorem positions_isOk : (∃ records, ledger.positions database = .ok records) ↔ ledger.PositionsSound database := by
  rw [positions, mapM_isOk]
  simp only [PositionsSound, List.mem_filter, decide_eq_true_eq, and_imp, ledgerPosition_isOk]

theorem get_positions {records : List LedgerPosition} (read : ledger.positions database = .ok records)
    (ticket : String) :
    (database.positionWith ledger.brokerAccountId ticket).map (ledgerPosition database) =
      ((Keyed.ofList records : Keyed positionSide.key).get ticket).map .ok := by
  have keys : records.map positionSide.key =
      (database.positions.rows.filter (·.brokerAccountId = ledger.brokerAccountId)).map (·.brokerTicket) :=
    map_key_mapM (fun _ _ => key_ledgerPosition) read
  have distinct : (records.map positionSide.key).Nodup := by
    rw [keys, List.Nodup, List.pairwise_map]
    apply (database.positions.unique.filter _).imp_of_mem
    intro first second firstMem secondMem apart same
    simp only [List.mem_filter, decide_eq_true_eq] at firstMem secondMem
    simp [positionSchema, firstMem.2, secondMem.2, same] at apart
  rw [Keyed.get_ofList distinct, ← lookup_mapM (fun _ _ => key_ledgerPosition) read, lookup, List.find?_filter,
    positionWith, Table.select]
  congr 2
  funext row
  simp

theorem get_orders {records : List LedgerOrder} (read : ledger.orders database = .ok records) (ticket : String) :
    (Keyed.ofList records : Keyed orderSide.key).get ticket = (ledger.orderWith database ticket).map ledgerOrder := by
  cases read
  have distinct : (((database.orders.rows.filter fun row =>
      row.brokerAccountId = ledger.brokerAccountId ∧ row.brokerTicket.isSome).map ledgerOrder).map
        orderSide.key).Nodup := by
    rw [List.map_map, List.Nodup, List.pairwise_map]
    apply (database.orders.unique.filter _).imp_of_mem
    intro first second firstMem secondMem apart same
    simp only [List.mem_filter, decide_eq_true_eq, Option.isSome_iff_exists] at firstMem secondMem
    obtain ⟨_, firstAccount, firstTicket, firstShown⟩ := firstMem
    obtain ⟨_, secondAccount, secondTicket, secondShown⟩ := secondMem
    have sameTicket : firstTicket = secondTicket := by
      simpa [LedgerSide.key, orderSide, ledgerOrder, brokerOrder, firstShown, secondShown] using same
    simp [orderSchema, firstAccount, secondAccount, firstShown, secondShown, sameTicket] at apart
  rw [Keyed.get_ofList distinct, lookup, List.find?_map, List.find?_filter, orderWith, Table.select]
  congr 2
  funext row
  cases shown : row.brokerTicket <;>
    simp [LedgerSide.key, orderSide, ledgerOrder, brokerOrder, shown]

end SQLAlchemyRecoveryLedger

end GoldFlow
