import GoldFlow.Data.Trace
import GoldFlow.Persistence.Writes
import GoldFlow.Verified.JournalWrites
import GoldFlow.Verified.LedgerMirror

/-! # What the writers of an account do to positions and trades -/

namespace GoldFlow

open Data WorkerPersistence SQLAlchemyRecoveryLedger

namespace DurableBooks

variable (books : DurableBooks)

/-- The transaction writes other tables, or the fill it records is there. -/
def Leaves (before : Database) : JournalWrite → Prop
  | .saveSignal _ _ _ | .resolveOrderId _ | .upsertOrder _ => True
  | .recordExecution _ outcome _ _ => ∀ fill, fillOf outcome = some fill →
    (before.positionWith books.persistence.brokerAccountId fill.ticket).isSome
  | _ => False

/-- What a transaction does to the positions and trades of a linked database. -/
inductive RowsWritten (now : Instant) (before after : Database) : JournalWrite → Prop
  | untouched {write : JournalWrite} : books.Leaves before write → after.positions = before.positions →
      after.trades = before.trades → RowsWritten now before after write
  | recovered {record : LedgerPosition} :
      before.positionWith books.ledger.brokerAccountId record.item.ticket = none →
      before.positions.insert ((books.ledger.recoveredPosition record.item).created now) (fun _ => rfl) =
        some after.positions →
      before.trades.insert (books.ledger.recoveredTrade before record.item).created (fun _ => rfl) = some after.trades →
      RowsWritten now before after (.upsertPosition record)
  | followed {record : LedgerPosition} {row : PositionRow} :
      before.positionWith books.ledger.brokerAccountId record.item.ticket = some row → record.status ≠ .closed →
      before.positions.update row.id
        (PositionRow.touched (followed record) now) (fun _ => rfl) = some after.positions →
      after.trades = before.trades → RowsWritten now before after (.upsertPosition record)
  | retired {record : LedgerPosition} {row : PositionRow} {trade : TradeRow} :
      before.positionWith books.ledger.brokerAccountId record.item.ticket = some row → record.status = .closed →
      before.positions.update row.id
        (PositionRow.touched (followed record) now) (fun _ => rfl) = some after.positions →
      before.tradeOf row.id = some trade →
      before.trades.update trade.id (TradeRow.touched (closedTrade record)) (fun _ => rfl) =
        some after.trades →
      RowsWritten now before after (.upsertPosition record)
  | opened {signal : TradeSignal} {outcome : ExecutionOutcome} {environment : String} {time : Instant}
      {fill : RecordedFill} {order : Option OrderRow} {row : PositionRow} :
      fillOf outcome = some fill →
      before.positionWith books.persistence.brokerAccountId fill.ticket = none →
      row = (books.persistence.filledPosition signal outcome fill order time).created now
        before.positions.rows.length →
      before.positions.insert ((books.persistence.filledPosition signal outcome fill order time).created now)
        (fun _ => rfl) = some after.positions →
      before.trades.insert (books.persistence.filledTrade signal outcome fill row environment time).created
        (fun _ => rfl) = some after.trades →
      RowsWritten now before after (.recordExecution signal outcome environment time)
  | acted {plan : ManagedPosition} {action : PositionAction} {eventType : TradeEventType} {state : Option TradeState}
      {position : Option BrokerPosition} {time : Instant} {suffix : String} {row : PositionRow} {trade : TradeRow} :
      before.positions.get plan.positionId = some row → before.trades.get plan.tradeId = some trade →
      before.positions.update plan.positionId
        (PositionRow.touched (actedPosition action eventType state position time) now)
        (fun _ => rfl) = some after.positions →
      before.trades.update plan.tradeId
        (TradeRow.touched (actedTrade action eventType state row.realizedPnl time))
        (fun _ => rfl) = some after.trades →
      RowsWritten now before after (.recordPositionAction plan action eventType state position time suffix)
  | marked {id : Nat} :
      before.positions.update id
        (PositionRow.touched (fun row => { row with state := .closed, closedAt := some now, currentVolume := 0 }) now)
        (fun _ => rfl) = some after.positions →
      after.trades = before.trades → RowsWritten now before after (.markClosed id)
  | resized {id : Nat} {volume : Decimal} {remains : 0 < volume} :
      before.positions.update id (PositionRow.touched (fun row => { row with currentVolume := volume }) now)
        (fun _ => rfl) = some after.positions →
      after.trades = before.trades → RowsWritten now before after (.setVolume id volume remains)

variable {books} {before after : Database} {now : Instant} {write : JournalWrite} {writes : List JournalWrite}

theorem upsertPosition_rows {record : LedgerPosition} (linked : Linked before)
    (written : books.ledger.upsertPosition record { before with now } = .ok after) :
    books.RowsWritten now before after (.upsertPosition record) := by
  cases upsertPosition_cases written with
  | inserted missing added _ traded same =>
    subst same
    exact .recovered missing added traded
  | adopted missing added known =>
    have next : before.tradeOf before.positions.rows.length = none := linked.tradeOf_next
    exact absurd (next.symm.trans known) (by simp)
  | closed found closing updated known traded same =>
    subst same
    exact .retired found closing updated known traded
  | @followed row signals positions found open_ updated same =>
    subst same
    have member := (Database.positionWith_eq_some.mp found).1
    obtain ⟨trade, known⟩ := linked.tradeOf_isSome member
    rcases open_ with live | missing
    · exact .followed found live updated rfl
    · exact absurd (known.symm.trans missing) (by simp)

theorem recordExecution_rows {signal : TradeSignal} {outcome : ExecutionOutcome} {environment : String}
    {time : Instant} (linked : Linked before)
    (recorded : books.persistence.recordExecution signal outcome environment time { before with now } = .ok after) :
    books.RowsWritten now before after (.recordExecution signal outcome environment time) := by
  cases recordExecution_cases recorded with
  | unfilled none_ positions trades =>
    refine .untouched (fun fill filled => ?_) positions trades
    rw [none_] at filled
    cases filled
  | known filled found _ positions trades =>
    refine .untouched (fun fill same => ?_) positions trades
    rw [filled, Option.some.injEq] at same
    rw [← same]
    exact Option.isSome_iff_exists.mpr ⟨_, found⟩
  | traded filled found missing =>
    obtain ⟨trade, known⟩ := linked.tradeOf_isSome (Database.positionWith_eq_some.mp found).1
    exact absurd (known.symm.trans missing) (by simp)
  | opened filled missing row added _ traded => exact .opened filled missing row added traded
  | orphaned _ known =>
    have next : before.tradeOf before.positions.rows.length = none := linked.tradeOf_next
    exact absurd (next.symm.trans known) (by simp)

theorem resolveOrderId_rows {request : OrderRequest}
    (written : books.write (.resolveOrderId request) before = .ok after) :
    after.positions = before.positions ∧ after.trades = before.trades := by
  simp only [DurableBooks.write, WorkerPersistence.resolveOrderId] at written
  split at written
  · cases written
    exact ⟨rfl, rfl⟩
  · split at written
    · cases inserted : before.insertOrder (books.persistence.claimedOrder request) with
      | error =>
        rw [inserted] at written
        cases written
      | ok pair =>
        obtain ⟨row, middle⟩ := pair
        rw [inserted] at written
        cases written
        obtain ⟨orders, _, rfl, _⟩ := Database.insertOrder_ok inserted
        exact ⟨rfl, rfl⟩
    · cases written

/-- **What a transaction on a linked database does to positions and trades.** -/
theorem rowsWritten (linked : Linked before) (written : books.write write { before with now } = .ok after) :
    books.RowsWritten now before after write := by
  cases write with
  | saveSignal =>
    cases written
    refine .untouched trivial ?_ ?_ <;> · unfold WorkerPersistence.saveSignal; split <;> rfl
  | resolveOrderId =>
    obtain ⟨positions, trades⟩ := resolveOrderId_rows written
    exact .untouched trivial positions trades
  | upsertPosition => exact upsertPosition_rows linked written
  | upsertOrder =>
    cases upsertOrder_cases written with
    | inserted _ _ same | updated _ _ same =>
      subst same
      exact .untouched trivial rfl rfl
  | recordExecution => exact recordExecution_rows linked written
  | recordPositionAction =>
    obtain ⟨row, trade, positions, trades, foundRow, foundTrade, moved, booked, rfl⟩ :=
      recordPositionAction_ok written
    refine .acted foundRow foundTrade ?_ ?_
    · rw [addEvent_positions]
      exact moved
    · rw [addEvent_trades]
      exact booked
  | markClosed id =>
    change PositionRepository.markClosed id _ = _ at written
    unfold PositionRepository.markClosed at written
    split at written
    · obtain ⟨positions, rfl, marked⟩ := Database.updatePosition_ok written
      exact .marked marked rfl
    · cases written
  | setVolume =>
    obtain ⟨positions, rfl, resized⟩ := Database.updatePosition_ok written
    exact .resized resized rfl

theorem actedTrade_reference (action : PositionAction) (eventType : TradeEventType) (state : Option TradeState)
    (realizedPnl : Decimal) (time : Instant) (trade : TradeRow) :
    (actedTrade action eventType state realizedPnl time trade).reference = trade.reference := by
  unfold actedTrade
  cases closes action eventType <;> rfl

theorem RowsWritten.linked (linked : Linked before) (written : books.RowsWritten now before after write) :
    Linked after := by
  have paired := linked.paired
  constructor
  cases written with
  | untouched _ positions trades => rwa [positions, trades]
  | recovered _ added traded =>
    rw [Table.rows_insert added, Table.rows_insert traded, List.map_append, List.map_append, paired]
    rfl
  | opened _ _ row added traded =>
    subst row
    rw [Table.rows_insert added, Table.rows_insert traded, List.map_append, List.map_append, paired]
    rfl
  | followed _ _ updated trades => rw [trades, paired, Table.map_update updated fun row => (followed_keeps _ _ row).1]
  | retired _ _ updated _ traded =>
    rw [Table.map_update updated fun row => (followed_keeps _ _ row).1, Table.map_update traded fun _ => rfl, paired]
  | acted _ _ updated traded =>
    rw [Table.map_update updated, Table.map_update traded fun _ => actedTrade_reference _ _ _ _ _ _, paired]
    intro row
    simp [PositionRow.identity, PositionRow.stored, PositionRow.touched, actedPosition_identity]
  | marked updated trades | resized updated trades => rw [trades, paired, Table.map_update updated fun _ => rfl]

def replay (books : DurableBooks) (now : Instant) (writes : List JournalWrite) (start : Database) :
    Except PyError Database :=
  writes.foldlM (fun database write => books.write write { database with now }) start

theorem Trace.replayed {start middle final : Database} {moves : List (Database × JournalWrite × Database)}
    (trace : Trace books.Writes start moves middle) (replayed : books.replay now writes middle = .ok final) :
    ∃ later, Trace books.Writes start (moves ++ later) final ∧ later.map (·.2.1) = writes := by
  induction writes generalizing moves middle with
  | nil =>
    cases replayed
    exact ⟨[], by simpa using trace, rfl⟩
  | cons write writes ih =>
    obtain ⟨after, written, rest⟩ := bind_eq_ok.mp replayed
    obtain ⟨later, longer, same⟩ := ih (trace.snoc ⟨now, written⟩) rest
    refine ⟨(middle, write, after) :: later, ?_, by simp [same]⟩
    rwa [List.append_cons]

theorem trace_of_replay {start final : Database} (replayed : books.replay now writes start = .ok final) :
    ∃ moves, Trace books.Writes start moves final ∧ moves.map (·.2.1) = writes := by
  obtain ⟨later, trace, same⟩ := Trace.replayed .nil replayed
  exact ⟨later, by simpa using trace, same⟩

theorem Writes.linked (linked : Linked before) (written : books.Writes before write after) : Linked after := by
  obtain ⟨now, written⟩ := written
  exact (rowsWritten linked written).linked linked

end DurableBooks

end GoldFlow
