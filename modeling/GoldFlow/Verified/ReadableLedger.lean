import GoldFlow.Verified.WrittenRows

/-! # When the recovery ledger can be read -/

namespace GoldFlow

open Data WorkerPersistence SQLAlchemyRecoveryLedger

def SQLAlchemyRecoveryLedger.Readable (ledger : SQLAlchemyRecoveryLedger) (database : Database) : Prop :=
  (∃ records, ledger.positions database = .ok records) ∧ ∃ records, ledger.orders database = .ok records

theorem SQLAlchemyRecoveryLedger.readable_iff {ledger : SQLAlchemyRecoveryLedger} {database : Database} :
    ledger.Readable database ↔ ledger.PositionsSound database :=
  ⟨fun readable => positions_isOk.mp readable.1, fun sound => ⟨positions_isOk.mpr sound, _, rfl⟩⟩

/-! ## What each writer leaves -/

/-- The columns hold a volume and a stop of the position. -/
def BrokerPosition.Held (item : BrokerPosition) : Prop :=
  0 < Column.volume item.volume ∧ 0 < Column.price item.stopLoss

section Rows

variable {row : PositionRow} {now : Instant}

theorem PositionRow.Sound.stored (sound : row.Sound) (held : positionSchema.store row = row) : row.stored.Sound := by
  rw [← positionSchema_store, held]
  exact sound

theorem SQLAlchemyRecoveryLedger.followed_sound {record : LedgerPosition} (sound : row.stored.Sound) :
    (PositionRow.touched (followed record) now row).stored.Sound ↔ record.item.Held ∧ record.status ≠ .closed := by
  by_cases closing : record.status = .closed
  · simp [PositionRow.stored, PositionRow.touched, followed, PositionRow.Sound, closing]
  · simpa [PositionRow.stored, PositionRow.touched, followed, PositionRow.Sound, BrokerPosition.Held, closing] using
      fun _ _ => sound.2.1

theorem WorkerPersistence.actedPosition_sound {action : PositionAction} {eventType : TradeEventType}
    {state : Option TradeState} {position : Option BrokerPosition} {time : Instant} (sound : row.stored.Sound) :
    (PositionRow.touched (actedPosition action eventType state position time) now row).stored.Sound ↔
      closes action eventType = false ∧ ∀ item ∈ position, item.Held := by
  cases closing : closes action eventType with
  | true => simp [PositionRow.stored, PositionRow.touched, actedPosition, PositionRow.Sound, closing]
  | false =>
    cases position with
    | none =>
      simpa [PositionRow.stored, PositionRow.touched, actedPosition, PositionRow.Sound, closing] using sound
    | some position =>
      simpa [PositionRow.stored, PositionRow.touched, actedPosition, PositionRow.Sound, BrokerPosition.Held, closing]
        using fun _ _ => sound.2.1

end Rows

theorem WorkerPersistence.filledPosition_sound {persistence : WorkerPersistence} {signal : TradeSignal}
    {outcome : ExecutionOutcome} {fill : RecordedFill} {order : Option OrderRow} {time now : Instant} {id : Nat} :
    ((persistence.filledPosition signal outcome fill order time).created now id).stored.Sound ↔
      safelyClosed outcome = false ∧ 0 < Column.volume fill.request.volume ∧
        0 < Column.price (entryPrice signal fill) ∧ 0 < Column.price fill.request.stopLoss := by
  cases closed : safelyClosed outcome <;>
    simp [PositionRow.stored, PositionRow.created, filledPosition, PositionRow.Sound, closed]

namespace DurableBooks

variable (books : DurableBooks)

def OwnsRow (database : Database) (id : Nat) : Prop :=
  ∃ row, database.positions.get id = some row ∧ row.brokerAccountId = books.ledger.brokerAccountId

/-- What is written to a row of the account is open, and its columns hold a volume, an entry and a stop. -/
def KeepsReadable (before : Database) : JournalWrite → Prop
  | .upsertPosition record => record.item.Held ∧
    if before.positionWith books.ledger.brokerAccountId record.item.ticket = none
      then 0 < Column.price record.item.openPrice else record.status ≠ .closed
  | .recordExecution signal outcome _ _ => ∀ fill, fillOf outcome = some fill →
    before.positionWith books.ledger.brokerAccountId fill.ticket = none →
    safelyClosed outcome = false ∧ 0 < Column.volume fill.request.volume ∧
      0 < Column.price (entryPrice signal fill) ∧ 0 < Column.price fill.request.stopLoss
  | .recordPositionAction plan action eventType _ position _ _ => books.OwnsRow before plan.positionId →
    closes action eventType = false ∧ ∀ item ∈ position, item.Held
  | .markClosed id => ¬ books.OwnsRow before id
  | .setVolume id volume _ => books.OwnsRow before id → 0 < Column.volume volume
  | .saveSignal _ _ _ | .resolveOrderId _ | .upsertOrder _ => True

variable {books} {before after : Database} {write : JournalWrite} {now : Instant}

theorem upsert_sound {record : LedgerPosition} {row : PositionRow}
    (readable : books.ledger.PositionsSound before)
    (found : before.positionWith books.ledger.brokerAccountId record.item.ticket = some row)
    (updated : before.positions.update row.id (PositionRow.touched (followed record) now) (fun _ => rfl) =
      some after.positions) :
    books.ledger.PositionsSound after ↔ record.item.Held ∧ record.status ≠ .closed := by
  obtain ⟨member, account, _⟩ := Database.positionWith_eq_some.mp found
  have sound := (readable row member account).stored (before.positions.stored row member)
  rw [PositionsSound, Table.forall_update updated readable, ← followed_sound sound]
  have same : (PositionRow.touched (followed record) now row).stored.brokerAccountId =
      books.ledger.brokerAccountId := by
    rw [← account]
    exact congrArg (·.2.1) (followed_keeps record now row).1
  constructor
  · intro all
    exact all row (Database.get_positionWith found) same
  · intro kept old shown _
    rw [Database.get_positionWith found, Option.some.injEq] at shown
    subst shown
    exact kept

/-- **One transaction keeps the ledger readable exactly under the condition.** -/
theorem RowsWritten.readable_iff (readable : books.ledger.Readable before)
    (written : books.RowsWritten now before after write) :
    books.ledger.Readable after ↔ books.KeepsReadable before write := by
  rw [SQLAlchemyRecoveryLedger.readable_iff] at readable ⊢
  cases written with
  | untouched leaves positions =>
    rw [PositionsSound, positions]
    refine iff_of_true readable ?_
    cases write with
    | recordExecution =>
      intro fill filled missing
      have known := leaves fill filled
      rw [books.sameAccount, missing] at known
      cases known
    | saveSignal _ _ _ | resolveOrderId _ | upsertOrder _ => exact trivial
    | _ => exact leaves.elim
  | @recovered record missing added _ =>
    rw [PositionsSound, Table.forall_insert added, KeepsReadable, if_pos missing, BrokerPosition.Held]
    refine (and_iff_right readable).trans ?_
    constructor
    · intro sound
      obtain ⟨volume, openPrice, stopLoss⟩ := sound rfl
      exact ⟨⟨volume, stopLoss⟩, openPrice⟩
    · rintro ⟨⟨volume, stopLoss⟩, openPrice⟩ _
      exact ⟨volume, openPrice, stopLoss⟩
  | @followed record row found live updated _ =>
    rw [upsert_sound readable found updated, KeepsReadable, if_neg (by simp [found])]
  | @retired record row trade found closing updated _ _ =>
    rw [upsert_sound readable found updated, KeepsReadable, if_neg (by simp [found])]
  | @opened signal outcome environment time fill order row filled missing _ added _ =>
    rw [PositionsSound, Table.forall_insert added]
    refine (and_iff_right readable).trans ?_
    constructor
    · intro sound other same _
      rw [filled, Option.some.injEq] at same
      subst same
      exact filledPosition_sound.mp (sound books.sameAccount)
    · intro keeps _
      rw [books.sameAccount] at missing
      exact filledPosition_sound.mpr (keeps fill filled missing)
  | @acted plan action eventType state position time suffix row trade found _ updated _ =>
    have stays : ∀ old, before.positions.get plan.positionId = some old →
        old.brokerAccountId = books.ledger.brokerAccountId → old.stored.Sound := fun old shown account =>
      (readable old (Table.mem_of_get shown) account).stored (before.positions.stored old (Table.mem_of_get shown))
    rw [PositionsSound, Table.forall_update updated readable]
    constructor
    · rintro sound ⟨old, shown, account⟩
      have kept := sound old shown ((actedPosition_identity old).1.trans account)
      exact (actedPosition_sound (stays old shown account)).mp kept
    · intro keeps old shown account
      have owned := (actedPosition_identity old).1.symm.trans account
      exact (actedPosition_sound (stays old shown owned)).mpr (keeps ⟨old, shown, owned⟩)
  | @marked id updated _ =>
    rw [PositionsSound, Table.forall_update updated readable]
    constructor
    · rintro sound ⟨row, found, account⟩
      have kept := sound row found account
      exact absurd kept.1 (by simp [PositionRow.stored, PositionRow.touched])
    · intro keeps row found account
      exact absurd ⟨row, found, account⟩ keeps
  | @resized id volume remains updated _ =>
    rw [PositionsSound, Table.forall_update updated readable]
    constructor
    · rintro sound ⟨row, found, account⟩
      exact (sound row found account).1
    · intro keeps row found account
      have member := Table.mem_of_get found
      have sound := (readable row member account).stored (before.positions.stored row member)
      exact ⟨keeps ⟨row, found, account⟩, sound.2⟩

end DurableBooks

/-- **The ledger stays readable exactly if no transaction closes a row of the account or leaves it without a volume,
an entry price or a stop that its column can hold.** -/
theorem ledger_readable_iff (books : DurableBooks) {start final : Database}
    {moves : List (Database × JournalWrite × Database)} (noPositions : start.positions = .empty)
    (noTrades : start.trades = .empty) (trace : Trace books.Writes start moves final) :
    (∀ move ∈ moves, books.ledger.Readable move.2.2) ↔ ∀ move ∈ moves, books.KeepsReadable move.1 move.2.1 := by
  have initially : books.ledger.Readable start := by
    rw [readable_iff]
    simp [PositionsSound, noPositions, Table.empty]
  refine trace.keeps_iff (Linked.of_empty noPositions noTrades) initially ?_ ?_
  · intro before write after linked written
    exact written.linked linked
  · rintro before write after linked readable ⟨now, written⟩
    exact (DurableBooks.rowsWritten linked written).readable_iff readable

namespace Demo

def books : DurableBooks := ⟨sqlLedger, journal, rfl⟩

def goldPosition : BrokerPosition := position "P1" (1 / 10) tenth_pos

def recovers : JournalWrite :=
  .upsertPosition { item := goldPosition, status := .opened, recovered := true, updatedAt := now }

def retires : JournalWrite :=
  .upsertPosition { item := goldPosition, status := .closed, updatedAt := now }

end Demo

open Demo

/-- A position that is recovered and then followed stays readable. -/
theorem ledger_readable_recovered :
    ∃ moves final, Trace books.Writes emptyDatabase moves final ∧ moves.map (·.2.1) = [recovers, recovers] ∧
      ∀ move ∈ moves, sqlLedger.Readable move.2.2 := by
  have commits : (books.replay 0 [recovers, recovers] emptyDatabase).toOption.isSome = true := by decide +kernel
  obtain ⟨final, replayed⟩ := ok_of_isSome commits
  obtain ⟨moves, trace, same⟩ := DurableBooks.trace_of_replay replayed
  refine ⟨moves, final, trace, same, (ledger_readable_iff books rfl rfl trace).mpr fun move member => ?_⟩
  have written : move.2.1 = recovers := by
    have inside := List.mem_map_of_mem (f := (·.2.1)) member
    simpa [same] using inside
  rw [written]
  refine ⟨⟨by decide +kernel, by decide +kernel⟩, ?_⟩
  split
  · decide +kernel
  · decide

/-- After a position was closed at the broker, the ledger cannot be read. -/
theorem closed_position_unreadable :
    ∃ moves final, Trace books.Writes emptyDatabase moves final ∧
      moves.map (·.2.1) = [recovers, retires] ∧ ¬ sqlLedger.Readable final := by
  have empties : (books.replay 0 [recovers, retires] emptyDatabase).toOption.any
      (fun database => database.positions.rows.any fun row =>
        row.brokerAccountId = "demo-1" ∧ row.currentVolume ≤ 0) = true := by
    decide +kernel
  obtain ⟨final, replayed, emptied⟩ := ok_of_any empties
  obtain ⟨moves, trace, same⟩ := DurableBooks.trace_of_replay replayed
  refine ⟨moves, final, trace, same, fun readable => ?_⟩
  simp only [List.any_eq_true, decide_eq_true_eq] at emptied
  obtain ⟨row, member, account, closed⟩ := emptied
  have sound := readable_iff.mp readable row member account
  exact absurd sound.1 (not_lt.mpr closed)

end GoldFlow
