import GoldFlow.Verified.ReadableLedger

/-! # Positions and trades that close together

A position and its trade carry a closing time each.
-/

namespace GoldFlow

open Data

open Demo

def ClosedTogether (database : Database) : Prop :=
  ∀ row ∈ database.positions.rows, ∃ trade, database.tradeOf row.id = some trade ∧
    (row.closedAt.isSome ↔ trade.closedAt.isSome)

def ClosedAlike (database : Database) : Prop :=
  ∀ row ∈ database.positions.rows, ∀ trade ∈ database.trades.rows, trade.positionId = row.id →
    (row.closedAt.isSome ↔ trade.closedAt.isSome)

theorem Linked.closedTogether_iff {database : Database} (linked : Linked database) :
    ClosedTogether database ↔ ClosedAlike database := by
  constructor
  · intro together row member trade inside owner
    obtain ⟨found, known, alike⟩ := together row member
    have same : database.tradeOf row.id = some trade := Database.tradeOf_eq_some.mpr ⟨inside, owner⟩
    rw [known, Option.some.injEq] at same
    exact same ▸ alike
  · intro alike row member
    obtain ⟨trade, known⟩ := linked.tradeOf_isSome member
    obtain ⟨inside, owner⟩ := Database.tradeOf_eq_some.mp known
    exact ⟨trade, known, alike row member trade inside owner⟩

namespace ClosedAlike

variable {before after : Database} {id tradeId : Nat} {change : PositionRow → PositionRow}
  {keyed : ∀ row, positionSchema.id (change row) = positionSchema.id row}

theorem added (alike : ClosedAlike before) (linked : Linked before) {make : Nat → PositionRow}
    {makeTrade : Nat → TradeRow} {keyed : ∀ id, positionSchema.id (make id) = id}
    {keyedTrade : ∀ id, tradeSchema.id (makeTrade id) = id}
    (positions : before.positions.insert make keyed = some after.positions)
    (trades : before.trades.insert makeTrade keyedTrade = some after.trades)
    (refers : ∀ id, (makeTrade id).positionId = before.positions.rows.length)
    (same : ∀ id other, (make id).closedAt.isSome ↔ (makeTrade other).closedAt.isSome) : ClosedAlike after := by
  intro row member trade inside owner
  rw [Table.mem_insert positions] at member
  rw [Table.mem_insert trades] at inside
  rcases member with old | rfl
  · have rowBound : row.id < before.positions.rows.length := Table.id_lt_of_mem old
    rcases inside with oldTrade | rfl
    · exact alike row old trade oldTrade owner
    · have reference : before.positions.rows.length = row.id := (refers _).symm.trans owner
      omega
  · rcases inside with oldTrade | rfl
    · have bound := linked.owned oldTrade
      have number : trade.positionId = before.positions.rows.length := owner.trans (keyed _)
      omega
    · exact same _ _

theorem update_iff (alike : ClosedAlike before) (linked : Linked before)
    (positions : before.positions.update id change keyed = some after.positions)
    (trades : after.trades = before.trades) :
    ClosedAlike after ↔ ∀ row, before.positions.get id = some row →
      ((change row).closedAt.isSome ↔ row.closedAt.isSome) := by
  constructor
  · intro later row found
    have member := Table.mem_of_get found
    obtain ⟨trade, known⟩ := linked.tradeOf_isSome member
    obtain ⟨inside, owner⟩ := Database.tradeOf_eq_some.mp known
    have changed : after.positions.get id = some (change row).stored := by
      rw [Table.get_update positions, if_pos rfl, found, Option.map_some, positionSchema_store]
    have number : (change row).stored.id = row.id := keyed row
    refine Iff.trans (later _ (Table.mem_of_get changed) trade (by rwa [trades]) (owner.trans number.symm)) ?_
    exact (alike row member trade inside owner).symm
  · intro kept row member trade inside owner
    obtain ⟨old, oldMember, rfl⟩ := (Table.mem_update positions).mp member
    rw [trades] at inside
    by_cases here : positionSchema.id old = id
    · rw [if_pos here] at owner ⊢
      exact (kept old (here ▸ Table.get_of_mem oldMember)).trans
        (alike old oldMember trade inside (owner.trans (keyed old)))
    · rw [if_neg here] at owner ⊢
      exact alike old oldMember trade inside owner

theorem updated (alike : ClosedAlike before) {changeTrade : TradeRow → TradeRow}
    {keyedTrade : ∀ trade, tradeSchema.id (changeTrade trade) = tradeSchema.id trade} {trade : TradeRow}
    (positions : before.positions.update id change keyed = some after.positions)
    (trades : before.trades.update tradeId changeTrade keyedTrade = some after.trades)
    (refers : ∀ trade, (changeTrade trade).positionId = trade.positionId) (known : before.tradeOf id = some trade)
    (number : trade.id = tradeId)
    (same : ∀ row trade, (row.closedAt.isSome ↔ trade.closedAt.isSome) →
      ((change row).closedAt.isSome ↔ (changeTrade trade).closedAt.isSome)) :
    ClosedAlike after := by
  obtain ⟨inside, owner⟩ := Database.tradeOf_eq_some.mp known
  intro row member other otherInside belongs
  obtain ⟨old, oldMember, rfl⟩ := (Table.mem_update positions).mp member
  obtain ⟨oldTrade, oldInside, rfl⟩ := (Table.mem_update trades).mp otherInside
  have rowNumber : (if positionSchema.id old = id then positionSchema.store (change old) else old).id = old.id := by
    split
    · exact keyed old
    · rfl
  have reference : (if tradeSchema.id oldTrade = tradeId then tradeSchema.store (changeTrade oldTrade)
      else oldTrade).positionId = oldTrade.positionId := by
    split
    · exact refers oldTrade
    · rfl
  rw [rowNumber, reference] at belongs
  have alikeBefore := alike old oldMember oldTrade oldInside belongs
  -- the trade of the changed position is the changed trade
  have together : positionSchema.id old = id ↔ tradeSchema.id oldTrade = tradeId := by
    constructor
    · intro here
      have found : before.tradeOf id = some oldTrade :=
        Database.tradeOf_eq_some.mpr ⟨oldInside, belongs.trans here⟩
      rw [known, Option.some.injEq] at found
      exact found ▸ number
    · intro here
      have first := Table.get_of_mem oldInside
      have second := Table.get_of_mem inside
      have numbers : tradeSchema.id oldTrade = tradeSchema.id trade := here.trans number.symm
      rw [numbers, second, Option.some.injEq] at first
      exact belongs.symm.trans (first ▸ owner)
  by_cases here : positionSchema.id old = id
  · rw [if_pos here, if_pos (together.mp here)]
    exact same old oldTrade alikeBefore
  · rw [if_neg here, if_neg fun there => here (together.mpr there)]
    exact alikeBefore

end ClosedAlike

namespace DurableBooks

variable (books : DurableBooks)

/-- A plan pairs a position with its trade, as `open_position_plans` does. -/
def Paired (before : Database) : JournalWrite → Prop
  | .recordPositionAction plan _ _ _ _ _ _ =>
    ∃ trade, before.tradeOf plan.positionId = some trade ∧ trade.id = plan.tradeId
  | _ => True

def KeepsTogether (before : Database) : JournalWrite → Prop
  | .upsertPosition record => record.status ≠ .closed → ∀ row,
    before.positionWith books.ledger.brokerAccountId record.item.ticket = some row → row.closedAt = none
  | .markClosed id => ∀ row, before.positions.get id = some row → row.closedAt.isSome
  | _ => True

def WritesPaired (before : Database) (write : JournalWrite) (after : Database) : Prop :=
  Paired before write ∧ books.Writes before write after

variable {books} {before after : Database} {write : JournalWrite} {now : Instant}

theorem RowsWritten.closedAlike_iff (linked : Linked before) (alike : ClosedAlike before)
    (paired : Paired before write) (written : books.RowsWritten now before after write) :
    ClosedAlike after ↔ books.KeepsTogether before write := by
  cases written with
  | untouched leaves positions trades =>
    refine iff_of_true ?_ ?_
    · intro row member trade inside
      rw [positions] at member
      rw [trades] at inside
      exact alike row member trade inside
    · cases write with
      | upsertPosition _ | markClosed _ => exact leaves.elim
      | _ => exact trivial
  | recovered missing added traded =>
    refine iff_of_true (alike.added linked added traded (fun _ => rfl) fun _ _ => Iff.rfl) ?_
    intro _ row found
    rw [missing] at found
    cases found
  | opened _ _ row added traded =>
    subst row
    exact iff_of_true (alike.added linked added traded (fun _ => rfl) fun _ _ => Iff.rfl) trivial
  | @followed record row found live updated trades =>
    rw [alike.update_iff linked updated trades]
    constructor
    · intro kept _ other same
      rw [found, Option.some.injEq] at same
      subst same
      have opened := kept row (Database.get_positionWith found)
      simpa [PositionRow.touched, SQLAlchemyRecoveryLedger.followed, live] using opened
    · intro keeps other shown
      rw [Database.get_positionWith found, Option.some.injEq] at shown
      subst shown
      simp [PositionRow.touched, SQLAlchemyRecoveryLedger.followed, live, keeps live row found]
  | @retired record row trade found closing updated known traded =>
    refine iff_of_true ?_ fun live => absurd closing live
    refine alike.updated updated traded (fun _ => rfl) known rfl fun _ _ _ => ?_
    simp [PositionRow.touched, SQLAlchemyRecoveryLedger.followed, TradeRow.touched,
      SQLAlchemyRecoveryLedger.closedTrade, closing]
  | @acted plan action eventType state position time suffix row trade _ _ updated traded =>
    obtain ⟨other, known, number⟩ := paired
    refine iff_of_true ?_ trivial
    refine alike.updated updated traded (fun _ => congrArg Prod.fst (actedTrade_reference _ _ _ _ _ _)) known number ?_
    simp only [PositionRow.touched, TradeRow.touched, WorkerPersistence.actedPosition, WorkerPersistence.actedTrade]
    cases closing : WorkerPersistence.closes action eventType with
    | true => simp
    | false => cases position <;> simp
  | @marked id updated trades =>
    rw [alike.update_iff linked updated trades]
    simp [PositionRow.touched, KeepsTogether]
  | resized updated trades =>
    rw [alike.update_iff linked updated trades]
    exact iff_of_true (fun _ _ => Iff.rfl) trivial

end DurableBooks

/-- **Positions and trades are closed together exactly if no transaction opens a closed position again or closes
an open one through the endpoint.** -/
theorem closed_together_iff (books : DurableBooks) {start final : Database}
    {moves : List (Database × JournalWrite × Database)} (noPositions : start.positions = .empty)
    (noTrades : start.trades = .empty) (trace : Trace books.WritesPaired start moves final) :
    (∀ move ∈ moves, ClosedTogether move.2.2) ↔ ∀ move ∈ moves, books.KeepsTogether move.1 move.2.1 := by
  have initially : ClosedTogether start := by simp [ClosedTogether, noPositions, Table.empty]
  refine trace.keeps_iff (Linked.of_empty noPositions noTrades) initially ?_ ?_
  · intro before write after linked written
    exact written.2.linked linked
  · intro before write after linked together written
    obtain ⟨paired, now, committed⟩ := written
    have rows := DurableBooks.rowsWritten linked committed
    rw [(rows.linked linked).closedTogether_iff]
    exact rows.closedAlike_iff linked (linked.closedTogether_iff.mp together) paired

/-! ## A position that the broker lists again -/

theorem Demo.trace_of_upserts {writes : List JournalWrite} {final : Database}
    (replayed : books.replay 0 writes emptyDatabase = .ok final)
    (upserts : ∀ write ∈ writes, ∃ record, write = .upsertPosition record) :
    ∃ moves, Trace books.WritesPaired emptyDatabase moves final ∧ moves.map (·.2.1) = writes := by
  obtain ⟨moves, trace, same⟩ := DurableBooks.trace_of_replay replayed
  refine ⟨moves, trace.restrict fun move member => ?_, same⟩
  obtain ⟨record, upsert⟩ := upserts move.2.1 (same ▸ List.mem_map_of_mem member)
  rw [upsert]
  exact trivial

/-- A recovered position and its trade are both open, and both closed when the broker no longer lists it. -/
theorem closed_together_recovered :
    ∃ middle final, Trace Demo.books.WritesPaired Demo.emptyDatabase
        [(Demo.emptyDatabase, recovers, middle), (middle, retires, final)] final ∧
      ClosedTogether middle ∧ ClosedTogether final := by
  have commits : (Demo.books.replay 0 [recovers, retires] Demo.emptyDatabase).toOption.isSome = true := by
    decide +kernel
  obtain ⟨last, replayed⟩ := ok_of_isSome commits
  obtain ⟨middle, recovered, rest⟩ := bind_eq_ok.mp replayed
  obtain ⟨final, retired, _⟩ := bind_eq_ok.mp rest
  have trace : Trace Demo.books.WritesPaired Demo.emptyDatabase
      [(Demo.emptyDatabase, recovers, middle), (middle, retires, final)] final :=
    .snoc (.snoc .nil ⟨trivial, 0, recovered⟩) ⟨trivial, 0, retired⟩
  have opens : Demo.books.KeepsTogether Demo.emptyDatabase recovers := by
    have missing : Demo.emptyDatabase.positionWith "demo-1" goldPosition.ticket = none := rfl
    intro _ row found
    exact absurd (missing.symm.trans found) (by simp)
  have closes : Demo.books.KeepsTogether middle retires := fun live => absurd rfl live
  have together := (closed_together_iff Demo.books rfl rfl trace).mpr (by simpa using ⟨opens, closes⟩)
  exact ⟨middle, final, trace, together _ List.mem_cons_self, together _ (List.mem_cons_of_mem _ List.mem_cons_self)⟩

/-- A position that the broker lists again is open, and its trade stays closed. -/
theorem reopened_position_apart :
    ∃ moves final, Trace Demo.books.WritesPaired Demo.emptyDatabase moves final ∧
      moves.map (·.2.1) = [recovers, retires, recovers] ∧ ¬ ClosedTogether final := by
  have apart : (Demo.books.replay 0 [recovers, retires, recovers] Demo.emptyDatabase).toOption.any
      (fun database => database.positions.rows.any fun row => row.closedAt.isNone ∧
        (database.tradeOf row.id).any (·.closedAt.isSome)) = true := by
    decide +kernel
  obtain ⟨final, replayed, reopened⟩ := ok_of_any apart
  obtain ⟨moves, trace, same⟩ := trace_of_upserts replayed (by simp [recovers, retires])
  refine ⟨moves, final, trace, same, fun together => ?_⟩
  simp only [List.any_eq_true, decide_eq_true_eq] at reopened
  obtain ⟨row, member, opened, closed⟩ := reopened
  obtain ⟨trade, known, alike⟩ := together row member
  rw [known, Option.any_some] at closed
  simp [Option.isNone_iff_eq_none.mp opened, closed] at alike

end GoldFlow
