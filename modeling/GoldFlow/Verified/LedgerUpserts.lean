import GoldFlow.Verified.WrittenRows

/-! # Upserts of what the broker lists -/

namespace GoldFlow

open Data SQLAlchemyRecoveryLedger Database PositionRow

section Selections

variable {database after : Database} {account ticket : String} {id place : Nat} {now : Instant}

theorem Database.positionWith_insert {row : PositionRow}
    (inserted : database.positions.insert (row.created now) (fun _ => rfl) = some after.positions) :
    after.positionWith account ticket = (database.positionWith account ticket).or
      (if row.brokerAccountId = account ∧ row.brokerTicket = ticket then
        some (row.created now database.positions.rows.length).stored else none) := by
  rw [positionWith, Table.select_insert inserted]
  simp only [decide_eq_true_eq]
  rfl

theorem Database.positionWith_update {change : PositionRow → PositionRow}
    (updated : database.positions.update id (touched change now) (fun _ => rfl) = some after.positions)
    (kept : ∀ row, (change row).brokerAccountId = row.brokerAccountId ∧ (change row).brokerTicket = row.brokerTicket) :
    after.positionWith account ticket = (database.positionWith account ticket).map fun row =>
      if row.id = id then (touched change now row).stored else row := by
  apply Table.select_update updated
  intro row
  simp [stored, touched, kept row]

theorem Database.tradeOf_insert {trade : TradeRow}
    (inserted : database.trades.insert trade.created (fun _ => rfl) = some after.trades) :
    after.tradeOf place = (database.tradeOf place).or
      (if trade.positionId = place then some (trade.created database.trades.rows.length).stored else none) := by
  rw [tradeOf, Table.select_insert inserted]
  simp only [decide_eq_true_eq]
  rfl

end Selections

namespace SQLAlchemyRecoveryLedger

theorem brokerPosition_eq_ok {row : PositionRow} {trade : Option TradeRow} {item : BrokerPosition} :
    brokerPosition row trade = .ok item ↔
      row.brokerTicket = item.ticket ∧ row.symbol = item.symbol ∧ row.direction = item.direction ∧
      row.currentVolume = item.volume ∧ row.openPrice = item.openPrice ∧ row.currentPrice = item.currentPrice ∧
      row.stopLoss = item.stopLoss ∧ row.takeProfits.head? = item.takeProfit ∧ row.unrealizedPnl = item.profit ∧
      row.openedAt = item.openedAt ∧ trade.elim "" (·.strategyId) = item.strategyId ∧
      row.signalId = item.signalId := by
  unfold brokerPosition BrokerPosition.make
  constructor
  · intro made
    split at made
    · cases made
      simp
    · cases made
  · rintro ⟨ticket, symbol, direction, volume, openPrice, currentPrice, stopLoss, target, profit, openedAt, strategy,
      signal⟩
    have valid : 0 < row.currentVolume ∧ 0 < row.openPrice ∧ 0 < row.stopLoss := by
      rw [volume, openPrice, stopLoss]
      exact ⟨item.volume_pos, item.openPrice_pos, item.stopLoss_pos⟩
    rw [dif_pos valid]
    cases item
    simp_all

end SQLAlchemyRecoveryLedger

structure Recovered (database : Database) : Prop extends Linked database where
  signalled : ∀ row ∈ database.positions.rows, row.signalId.isSome
  named : ∀ trade ∈ database.trades.rows, trade.strategyId ≠ ""
  keyed : ∀ row ∈ database.orders.rows, row.idempotencyKey ≠ ""

namespace Recovered

variable {ledger : SQLAlchemyRecoveryLedger} {database after : Database}

theorem of_empty (positions : database.positions = .empty) (trades : database.trades = .empty)
    (orders : database.orders = .empty) : Recovered database := by
  refine ⟨.of_empty positions trades, ?_, ?_, ?_⟩ <;> simp [positions, trades, orders, Table.empty]

variable (recovered : Recovered database)
include recovered

theorem upsertPosition {record : LedgerPosition}
    (written : ledger.upsertPosition record database = .ok after) : Recovered after := by
  have linked := upsertPosition_linked recovered.toLinked written
  have signalled : ∀ {place : Nat} {positions : Table positionSchema}, database.positions.update place
      (touched (followed record) database.now) (fun _ => rfl) = some positions →
      ∀ row ∈ positions.rows, row.signalId.isSome := by
    intro place positions updated
    rw [Table.forall_update updated recovered.signalled]
    intro row found
    rw [positionSchema_store, (followed_keeps _ _ row).2]
    exact recovered.signalled row (Table.mem_of_get found)
  cases upsertPosition_cases written with
  | inserted missing added _ traded same =>
    subst same
    refine ⟨linked, (Table.forall_insert added).mpr ⟨recovered.signalled, rfl⟩, ?_, recovered.keyed⟩
    refine (Table.forall_insert traded).mpr ⟨recovered.named, ?_⟩
    simp only [tradeSchema_store, TradeRow.stored, TradeRow.created, recoveredTrade, recoveryTrade]
    split
    next => decide
    next named => exact named
  | adopted _ _ known =>
    have next : database.tradeOf database.positions.rows.length = none := recovered.tradeOf_next
    exact absurd (next.symm.trans known) (by simp)
  | closed _ _ updated _ traded same =>
    subst same
    refine ⟨linked, signalled updated, ?_, recovered.keyed⟩
    rw [Table.forall_update traded recovered.named]
    exact fun trade found => recovered.named trade (Table.mem_of_get found)
  | followed _ _ updated same =>
    subst same
    exact ⟨linked, signalled updated, recovered.named, recovered.keyed⟩

theorem upsertOrder {record : LedgerOrder}
    (written : ledger.upsertOrder record database = .ok after) : Recovered after := by
  cases upsertOrder_cases written with
  | inserted _ added same =>
    subst same
    refine ⟨⟨recovered.paired⟩, recovered.signalled, recovered.named, ?_⟩
    refine (Table.forall_insert added).mpr ⟨recovered.keyed, ?_⟩
    simp only [orderSchema_store, OrderRow.stored, OrderRow.created, recoveredOrder, recoveredKey]
    split
    next => simp
    next keyed => exact keyed
  | updated _ updated same =>
    subst same
    refine ⟨⟨recovered.paired⟩, recovered.signalled, recovered.named, ?_⟩
    rw [Table.forall_update updated recovered.keyed]
    intro row found
    have keyed := recovered.keyed row (Table.mem_of_get found)
    simp only [orderSchema_store, OrderRow.stored, OrderRow.touched, followedOrder]
    split <;> exact keyed

end Recovered

/-! ## Listed positions -/

/-- An upsert keeps the position as it is: its strategy and its signal are given, and its amounts fit their
columns. -/
structure BrokerPosition.Recoverable (item : BrokerPosition) : Prop where
  named : item.strategyId ≠ ""
  signalled : item.signalId.isSome
  volume : Column.volume item.volume = item.volume
  openPrice : Column.price item.openPrice = item.openPrice
  currentPrice : Column.price item.currentPrice = item.currentPrice
  stopLoss : Column.price item.stopLoss = item.stopLoss
  profit : Column.money item.profit = item.profit

namespace SQLAlchemyRecoveryLedger

variable {ledger : SQLAlchemyRecoveryLedger} {database after : Database}

def Agrees (ledger : SQLAlchemyRecoveryLedger) (database : Database) (item : BrokerPosition) : Prop :=
  ∀ row, database.positionWith ledger.brokerAccountId item.ticket = some row →
    row.symbol = item.symbol ∧ row.direction = item.direction ∧ row.openPrice = item.openPrice ∧
      row.openedAt = item.openedAt ∧ row.signalId = item.signalId ∧
      (database.tradeOf row.id).elim "" (·.strategyId) = item.strategyId

inductive LiveWritten (ledger : SQLAlchemyRecoveryLedger) (record : LedgerPosition) (database after : Database) : Prop
  | inserted : database.positionWith ledger.brokerAccountId record.item.ticket = none →
      database.positions.insert
        ((ledger.recoveredPosition record.item).created database.now)
        (fun _ => rfl) = some after.positions →
      database.trades.insert
        (ledger.recoveredTrade database record.item).created
        (fun _ => rfl) = some after.trades →
      LiveWritten ledger record database after
  | followed {row : PositionRow} : database.positionWith ledger.brokerAccountId record.item.ticket = some row →
      database.positions.update row.id (touched (followed record) database.now) (fun _ => rfl) =
        some after.positions →
      after.trades = database.trades → LiveWritten ledger record database after

theorem upsertPosition_live (recovered : Recovered database) {record : LedgerPosition}
    (live : record.status ≠ .closed) (written : ledger.upsertPosition record database = .ok after) :
    LiveWritten ledger record database after := by
  cases upsertPosition_cases written with
  | inserted missing added _ traded same =>
    subst same
    exact .inserted missing added traded
  | adopted _ _ known =>
    have next : database.tradeOf database.positions.rows.length = none := recovered.toLinked.tradeOf_next
    exact absurd (next.symm.trans known) (by simp)
  | closed _ closing => exact absurd closing live
  | followed found _ updated same =>
    subst same
    exact .followed found updated rfl

theorem ReadsPosition.agrees {item : BrokerPosition} (reads : ledger.ReadsPosition database item) :
    ledger.Agrees database item := by
  obtain ⟨row, found, _, shown⟩ := reads
  intro other same
  rw [found, Option.some.injEq] at same
  subst same
  rw [brokerPosition_eq_ok] at shown
  tauto

variable {record : LedgerPosition} {ticket : String}

/-- **The ledger shows a listed position after its upsert.** -/
theorem LiveWritten.reads (written : ledger.LiveWritten record database after) (live : record.status ≠ .closed)
    (linked : Linked database) (agrees : ledger.Agrees database record.item)
    (recoverable : record.item.Recoverable) : ledger.ReadsPosition after record.item := by
  obtain ⟨named, signalled, volume, openPrice, currentPrice, stopLoss, profit⟩ := recoverable
  cases written with
  | inserted missing added traded =>
    obtain ⟨signal, known⟩ := Option.isSome_iff_exists.mp signalled
    refine ⟨((ledger.recoveredPosition record.item).created database.now database.positions.rows.length).stored, ?_,
      rfl, brokerPosition_eq_ok.mpr ?_⟩
    · rw [positionWith_insert added, missing, Option.none_or, if_pos ⟨rfl, rfl⟩]
    simp only [stored, created]
    rw [tradeOf_insert traded, linked.tradeOf_next, Option.none_or]
    simp [recoveredPosition, recoveredRow, recoveredTrade, recoveryTrade, TradeRow.stored, TradeRow.created,
      recoverySignalId, named, known, volume, openPrice, currentPrice, stopLoss, profit]
  | @followed row found updated trades =>
    obtain ⟨symbol, direction, sameOpen, openedAt, signal, strategy⟩ := agrees row found
    refine ⟨(touched (SQLAlchemyRecoveryLedger.followed record) database.now row).stored, ?_, ?_,
      brokerPosition_eq_ok.mpr ?_⟩
    · rw [positionWith_update updated, found, Option.map_some, if_pos rfl]
      simp [SQLAlchemyRecoveryLedger.followed, live]
    · simp [stored, touched, SQLAlchemyRecoveryLedger.followed, live]
    · have same : after.tradeOf row.id = database.tradeOf row.id := by rw [tradeOf, trades, tradeOf]
      simp [stored, touched, SQLAlchemyRecoveryLedger.followed, live, same, symbol, direction, sameOpen, openedAt,
        signal, strategy, (positionWith_eq_some.mp found).2.2, volume, openPrice, currentPrice, stopLoss, profit]

theorem LiveWritten.others (written : ledger.LiveWritten record database after) (live : record.status ≠ .closed)
    (other : ticket ≠ record.item.ticket) :
    after.positionWith ledger.brokerAccountId ticket = database.positionWith ledger.brokerAccountId ticket ∧
      ∀ row, database.positionWith ledger.brokerAccountId ticket = some row →
        after.tradeOf row.id = database.tradeOf row.id := by
  cases written with
  | inserted missing added traded =>
    constructor
    · have apart : ¬ record.item.ticket = ticket := fun same => other same.symm
      simp [positionWith_insert added, recoveredPosition, recoveredRow, apart]
    · intro row found
      have bound : row.id < database.positions.rows.length :=
        Table.id_lt_of_mem (positionWith_eq_some.mp found).1
      have apart : ¬ database.positions.rows.length = row.id := by omega
      simp [tradeOf_insert traded, recoveredTrade, recoveryTrade, apart]
  | @followed row found updated trades =>
    constructor
    · rw [positionWith_update updated fun row => by simp [SQLAlchemyRecoveryLedger.followed, live]]
      cases shown : database.positionWith ledger.brokerAccountId ticket with
      | none => rfl
      | some second =>
        have apart : ¬ second.id = row.id := by
          intro same
          have first := get_positionWith found
          rw [← same, get_positionWith shown, Option.some.injEq] at first
          apply other
          rw [← (positionWith_eq_some.mp shown).2.2, ← (positionWith_eq_some.mp found).2.2, first]
        rw [Option.map_some, if_neg apart]
    · intro second _
      rw [tradeOf, trades, tradeOf]

end SQLAlchemyRecoveryLedger

end GoldFlow
