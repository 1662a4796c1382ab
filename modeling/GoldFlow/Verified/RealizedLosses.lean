import GoldFlow.Verified.CallHistory
import GoldFlow.Verified.StateChanges

/-! # The realized loss that the limits see

A close at the broker is a deal, which realizes the broker's linear profit.
-/

namespace GoldFlow

open Data WorkerPersistence GoldFlowWorker

/-! ## Deals -/

structure Deal where
  ticket : String
  symbol : String
  direction : Direction
  volume : Decimal
  openPrice : Decimal
  closePrice : Decimal
  time : Instant

section Deals

variable (spec : String → SymbolSpecification)

def Deal.realized (deal : Deal) : Decimal :=
  (spec deal.symbol).profit deal.direction deal.volume deal.openPrice deal.closePrice

def Deal.loss (deal : Deal) : Decimal := max (-deal.realized spec) 0

def lossesOn (deals : List Deal) (day : Int) : Decimal :=
  ((deals.filter fun deal => dayOf deal.time = day).map (Deal.loss spec)).sum

theorem lossesOn_snoc (deals : List Deal) (deal : Deal) (day : Int) :
    lossesOn spec (deals ++ [deal]) day =
      lossesOn spec deals day + if dayOf deal.time = day then deal.loss spec else 0 := by
  by_cases today : dayOf deal.time = day <;> simp [lossesOn, today]

end Deals

structure Settlements where
  database : Database
  deals : List Deal := []

namespace DurableBooks

variable (books : DurableBooks)

inductive Records (before : Database) (deal : Deal) : JournalWrite → Prop
  | exited {plan : ManagedPosition} {report : ExecutionReport} {now : Instant} :
      report.success = true → report.executedPrice = some deal.closePrice → deal.ticket = plan.ticket →
      deal.time ≤ now →
      Records before deal (.recordPositionAction plan (exitAction report) .closed (some .closed)
        none now "strategy-exit")
  | reduced {plan : ManagedPosition} {action : PositionAction} {report : ExecutionReport}
      {refreshed : Option BrokerPosition} {now : Instant} :
      action.applied = true → action.report = some report → report.executedPrice = some deal.closePrice →
      deal.ticket = plan.ticket → deal.time ≤ now →
      Records before deal (.recordPositionAction plan action .tp1Hit
        (some (stateAfterTarget plan)) refreshed now "")
  | absent {record : LedgerPosition} {row : PositionRow} :
      record.status = .closed → deal.ticket = record.item.ticket → deal.time ≤ record.updatedAt →
      before.positionWith books.ledger.brokerAccountId record.item.ticket = some row →
      Records before deal (.upsertPosition record)

def Settles (before : Settlements) (move : JournalWrite × Option Deal) (after : Settlements) : Prop :=
  books.Writes before.database move.1 after.database ∧
    (∀ deal, move.2 = some deal → books.Records before.database deal move.1) ∧
    after.deals = before.deals ++ move.2.toList

def ClosesOnce (before : Database) : JournalWrite → Prop
  | .upsertPosition record => record.status = .closed → ∀ row trade,
    before.positionWith books.ledger.brokerAccountId record.item.ticket = some row →
    before.tradeOf row.id = some trade → trade.closedAt = none
  | .recordPositionAction plan action eventType _ _ _ _ =>
    closes action eventType = true → ∀ trade,
    before.trades.get plan.tradeId = some trade → trade.closedAt = none
  | _ => True

/-- No trade is closed twice, an exit and a partial close lose nothing, and the profit that the column holds of an
absent position is no better than what its close realized. -/
def Accounted (spec : String → SymbolSpecification) (before : Database) (move : JournalWrite × Option Deal) : Prop :=
  books.ClosesOnce before move.1 ∧ ∀ deal, move.2 = some deal →
    0 ≤ deal.realized spec ∨
      ∃ record, move.1 = .upsertPosition record ∧ Column.money record.item.profit ≤ deal.realized spec

end DurableBooks

/-! ## The loss of the closed trades -/

def TradeRow.lossSince (since : Instant) (trade : TradeRow) : Decimal :=
  if trade.closedAt.any (since ≤ ·) then lossOf trade else 0

theorem WorkerPersistence.lossOf_nonneg (trade : TradeRow) : 0 ≤ lossOf trade := le_max_right _ _

theorem TradeRow.lossSince_nonneg (since : Instant) (trade : TradeRow) : 0 ≤ trade.lossSince since := by
  unfold TradeRow.lossSince
  split
  · exact lossOf_nonneg trade
  · exact le_refl 0

theorem TradeRow.lossSince_of_open {since : Instant} {trade : TradeRow} (open_ : trade.closedAt = none) :
    trade.lossSince since = 0 := by
  simp [TradeRow.lossSince, open_]

theorem WorkerPersistence.realizedLoss_eq_sum (trades : List TradeRow) (since : Instant) :
    realizedLoss trades since = (trades.map (TradeRow.lossSince since)).sum := by
  induction trades with
  | nil => rfl
  | cons trade trades ih =>
    rw [List.map_cons, List.sum_cons, ← ih, TradeRow.lossSince, realizedLoss, realizedLoss,
      List.filter_cons]
    split <;> simp

def Database.lossSince (database : Database) (since : Instant) : Decimal :=
  (database.trades.rows.map (TradeRow.lossSince since)).sum

def DurableBooks.OwnsTrades (books : DurableBooks) (database : Database) : Prop :=
  ∀ trade ∈ database.trades.rows, trade.brokerAccountId = books.persistence.brokerAccountId

namespace DurableBooks

variable {books : DurableBooks} {before after : Database} {now : Instant} {write : JournalWrite}

theorem dailyRealizedLoss_eq (owns : books.OwnsTrades before) {usage : RiskUsage}
    (used : books.persistence.riskUsage before now = .ok usage) :
    usage.dailyRealizedLoss = before.lossSince (seconds 86400 * dayOf now) := by
  have all : before.trades.rows.filter (fun trade => trade.brokerAccountId = books.persistence.brokerAccountId) =
      before.trades.rows := List.filter_eq_self.mpr fun trade member => by simpa using owns trade member
  simp only [riskUsage, all, RiskUsage.make] at used
  split at used
  · split at used
    · cases used
      exact realizedLoss_eq_sum _ _
    · cases used
  · cases used

theorem RowsWritten.ownsTrades (owns : books.OwnsTrades before) (written : books.RowsWritten now before after write) :
    books.OwnsTrades after := by
  cases written with
  | untouched _ _ trades | followed _ _ _ trades | marked _ trades | resized _ trades =>
    unfold OwnsTrades
    rw [trades]
    exact owns
  | recovered _ _ traded => exact (Table.forall_insert traded).mpr ⟨owns, books.sameAccount.symm⟩
  | opened _ _ row _ traded => exact (Table.forall_insert traded).mpr ⟨owns, rfl⟩
  | retired _ _ _ _ traded =>
    apply (Table.forall_update traded owns).mpr
    intro trade found
    exact owns trade (Table.mem_of_get found)
  | acted _ _ _ traded =>
    apply (Table.forall_update traded owns).mpr
    intro trade found
    simp only [tradeSchema_store, TradeRow.stored, TradeRow.touched, actedTrade]
    split <;> exact owns trade (Table.mem_of_get found)

theorem lossSince_closing {id : Nat} {change : TradeRow → TradeRow} {trade : TradeRow} (since : Instant)
    (traded : before.trades.update id (TradeRow.touched change) (fun _ => rfl) = some after.trades)
    (found : before.trades.get id = some trade) (open_ : trade.closedAt = none) :
    after.lossSince since = before.lossSince since + (TradeRow.touched change trade).stored.lossSince since := by
  have exchanged := Table.sum_update traded found (TradeRow.lossSince since)
  rwa [TradeRow.lossSince_of_open open_, add_zero] at exchanged

/-- **No transaction that closes each trade once lowers the loss.** -/
theorem RowsWritten.lossSince_le (written : books.RowsWritten now before after write)
    (once : books.ClosesOnce before write) (since : Instant) : before.lossSince since ≤ after.lossSince since := by
  cases written with
  | untouched _ _ trades | followed _ _ _ trades | marked _ trades | resized _ trades =>
    unfold Database.lossSince
    rw [trades]
  | recovered _ _ traded | opened _ _ _ _ traded =>
    unfold Database.lossSince
    rw [Table.rows_insert traded, List.map_append, List.sum_append, List.map_singleton, List.sum_singleton]
    exact le_add_of_nonneg_right (TradeRow.lossSince_nonneg since _)
  | @retired record row trade found closing _ known traded =>
    have stored : before.trades.get trade.id = some trade := Table.get_of_mem (Database.tradeOf_eq_some.mp known).1
    rw [lossSince_closing since traded stored (once closing row trade found known)]
    exact le_add_of_nonneg_right (TradeRow.lossSince_nonneg since _)
  | @acted plan action eventType state position time suffix row trade _ found _ traded =>
    cases closing : closes action eventType with
    | true =>
      rw [lossSince_closing since traded found (once closing trade found)]
      exact le_add_of_nonneg_right (TradeRow.lossSince_nonneg since _)
    | false =>
      -- without a close only the state of the trade changes
      have exchanged := Table.sum_update traded found (TradeRow.lossSince since)
      have held : Column.money trade.realizedPnl = trade.realizedPnl :=
        congrArg TradeRow.realizedPnl (before.trades.stored trade (Table.mem_of_get found))
      have same : (TradeRow.touched (actedTrade action eventType state row.realizedPnl time)
          trade).stored.lossSince since = trade.lossSince since := by
        simp [TradeRow.stored, TradeRow.touched, actedTrade, closing, TradeRow.lossSince, lossOf, held]
      rw [tradeSchema_store, same] at exchanged
      exact (add_right_cancel exchanged).ge

theorem RowsWritten.lossSince_absent {record : LedgerPosition} {row : PositionRow} {since : Instant}
    (written : books.RowsWritten now before after (.upsertPosition record))
    (once : books.ClosesOnce before (.upsertPosition record)) (closed : record.status = .closed)
    (present : before.positionWith books.ledger.brokerAccountId record.item.ticket = some row)
    (later : since ≤ record.updatedAt) :
    before.lossSince since + max (-Column.money record.item.profit) 0 = after.lossSince since := by
  cases written with
  | untouched impossible => exact impossible.elim
  | recovered missing => exact absurd (missing.symm.trans present) (by simp)
  | followed _ open_ => exact absurd closed open_
  | @retired _ found trade located closing _ known traded =>
    have stored : before.trades.get trade.id = some trade := Table.get_of_mem (Database.tradeOf_eq_some.mp known).1
    rw [lossSince_closing since traded stored (once closing found trade located known)]
    simp [TradeRow.stored, TradeRow.touched, SQLAlchemyRecoveryLedger.closedTrade, TradeRow.lossSince, lossOf, later]

end DurableBooks

/-! ## Whole runs -/

theorem startOfDay_le {time : Instant} {day : Int} (today : dayOf time = day) : seconds 86400 * day ≤ time := by
  subst today
  exact Int.mul_ediv_self_le (by decide)

namespace DurableBooks

variable {books : DurableBooks} {spec : String → SymbolSpecification} {before after : Settlements}
  {move : JournalWrite × Option Deal}

structure Covers (books : DurableBooks) (spec : String → SymbolSpecification) (state : Settlements) : Prop where
  linked : Linked state.database
  owns : books.OwnsTrades state.database
  covered : ∀ day, lossesOn spec state.deals day ≤ state.database.lossSince (seconds 86400 * day)

theorem Covers.settled (covers : books.Covers spec before) (accounted : books.Accounted spec before.database move)
    (settles : books.Settles before move after) : books.Covers spec after := by
  obtain ⟨write, reported⟩ := move
  obtain ⟨⟨now, committed⟩, recorded, deals⟩ := settles
  have written := rowsWritten covers.linked committed
  refine ⟨written.linked covers.linked, written.ownsTrades covers.owns, fun day => ?_⟩
  have kept := written.lossSince_le accounted.1 (seconds 86400 * day)
  cases reported with
  | none =>
    rw [deals, Option.toList_none, List.append_nil]
    exact (covers.covered day).trans kept
  | some deal =>
    rw [deals, Option.toList_some, lossesOn_snoc]
    by_cases free : 0 ≤ deal.realized spec
    · have nothing : deal.loss spec = 0 := max_eq_right (neg_nonpos.mpr free)
      simpa [nothing] using (covers.covered day).trans kept
    · obtain ⟨record, rfl, stored⟩ := (accounted.2 deal rfl).resolve_left free
      by_cases today : dayOf deal.time = day
      · cases recorded deal rfl with
        | absent closed _ later present =>
          rw [if_pos today,
            ← written.lossSince_absent accounted.1 closed present ((startOfDay_le today).trans later)]
          exact add_le_add (covers.covered day) (max_le_max (neg_le_neg stored) (le_refl 0))
      · rw [if_neg today, add_zero]
        exact (covers.covered day).trans kept

/-- **The daily realized loss covers the deals of an accounted run.** -/
theorem realized_loss_covered (books : DurableBooks) (spec : String → SymbolSpecification)
    {start final : Settlements} {moves : List (Settlements × (JournalWrite × Option Deal) × Settlements)}
    (positions : start.database.positions = .empty) (trades : start.database.trades = .empty)
    (fresh : start.deals = []) (trace : Trace books.Settles start moves final)
    (accounted : ∀ move ∈ moves, books.Accounted spec move.1.database move.2.1) (now : Instant) (usage : RiskUsage)
    (used : books.persistence.riskUsage final.database now = .ok usage) :
    lossesOn spec final.deals (dayOf now) ≤ usage.dailyRealizedLoss := by
  have initially : books.Covers spec start := by
    refine ⟨Linked.of_empty positions trades, ?_, fun day => ?_⟩
    · intro trade member
      simp [trades, Table.empty] at member
    · simp [fresh, lossesOn, Database.lossSince, trades, Table.empty]
  have restricted : ∀ move ∈ moves, (fun state => books.Accounted spec state.database) move.1 move.2.1 :=
    accounted
  have reached : books.Covers spec final :=
    ((trace.restrict restricted).invariant initially fun _ _ _ covers step => covers.settled step.1 step.2).1
  rw [dailyRealizedLoss_eq reached.owns used]
  exact reached.covered (dayOf now)

end DurableBooks

namespace Demo

def goldSpec : String → SymbolSpecification := fun _ => MockBroker.goldSpecification

def losingPosition : BrokerPosition := { goldPosition with currentPrice := 1999 + 20 / 100, profit := -8 }

def listsLosing : JournalWrite :=
  .upsertPosition { item := losingPosition, status := .opened, recovered := true, updatedAt := now }

def missesLosing : JournalWrite :=
  .upsertPosition { item := losingPosition, status := .closed, updatedAt := now }

def losingDeal : Deal where
  ticket := "P1"
  symbol := "XAUUSDm"
  direction := .long
  volume := 1 / 10
  openPrice := 2000
  closePrice := 1999 + 20 / 100
  time := now

def exitReport : ExecutionReport where
  success := true
  idempotencyKey := ""
  brokerTicket := some "P1"
  requestedPrice := none
  executedPrice := some (1999 + 20 / 100)
  volume := 1 / 10
  submittedAt := now

def exits : JournalWrite :=
  .recordPositionAction goldPlan (exitAction exitReport) .closed (some .closed) none now "strategy-exit"

theorem losingDeal_losses : lossesOn goldSpec [losingDeal] (dayOf now) = 8 := by
  decide +kernel

/-- What `risk_usage` answers after two transactions. -/
def dailyLossAfter (first second : JournalWrite) : Option Decimal := do
  let middle ← (books.write first { emptyDatabase with now := 0 }).toOption
  guard ((middle.positionWith "demo-1" "P1").isSome ∧ ∀ trade ∈ middle.trades.rows, trade.closedAt = none)
  let final ← (books.write second { middle with now := 0 }).toOption
  let usage ← (journal.riskUsage final now).toOption
  pure usage.dailyRealizedLoss

theorem dailyLossAfter_eq_some {first second : JournalWrite} {loss : Decimal}
    (answered : dailyLossAfter first second = some loss) :
    ∃ middle final usage, books.write first { emptyDatabase with now := 0 } = .ok middle ∧
      (∃ row, middle.positionWith "demo-1" "P1" = some row) ∧ (∀ trade ∈ middle.trades.rows, trade.closedAt = none) ∧
      books.write second { middle with now := 0 } = .ok final ∧ journal.riskUsage final now = .ok usage ∧
      usage.dailyRealizedLoss = loss := by
  simp only [dailyLossAfter, Option.bind_eq_bind, Option.bind_eq_some_iff, Option.guard_eq_some', pure,
    Option.some.injEq] at answered
  obtain ⟨middle, opened, _, ⟨present, open_⟩, final, closed, usage, used, same⟩ := answered
  exact ⟨middle, final, usage, Data.toOption_eq_some.mp opened, Option.isSome_iff_exists.mp present, open_,
    Data.toOption_eq_some.mp closed, Data.toOption_eq_some.mp used, same⟩

end Demo

open Demo

/-- The loss of a position found absent is in the daily loss. -/
theorem realized_loss_absent :
    ∃ middle final usage, Trace books.Settles ⟨emptyDatabase, []⟩
      [(⟨emptyDatabase, []⟩, (listsLosing, none), middle),
        (middle, (missesLosing, some losingDeal), final)] final ∧
      journal.riskUsage final.database now = .ok usage ∧ 8 ≤ usage.dailyRealizedLoss := by
  have answered : dailyLossAfter listsLosing missesLosing = some 8 := by decide +kernel
  obtain ⟨middle, final, usage, opened, ⟨row, present⟩, open_, closed, used, _⟩ :=
    dailyLossAfter_eq_some answered
  have trace : Trace books.Settles ⟨emptyDatabase, []⟩
      [(⟨emptyDatabase, []⟩, (listsLosing, none), ⟨middle, []⟩),
        (⟨middle, []⟩, (missesLosing, some losingDeal), ⟨final, [losingDeal]⟩)]
      ⟨final, [losingDeal]⟩ := by
    apply Trace.snoc (.snoc .nil ⟨⟨0, opened⟩, by simp, rfl⟩)
    constructor
    · exact ⟨0, closed⟩
    · simpa using .absent rfl rfl (le_refl _) present
  have accounted : ∀ move ∈ [((⟨emptyDatabase, []⟩ : Settlements),
        ((listsLosing, none) : JournalWrite × Option Deal), (⟨middle, []⟩ : Settlements)),
      (⟨middle, []⟩, (missesLosing, some losingDeal), ⟨final, [losingDeal]⟩)],
      books.Accounted goldSpec move.1.database move.2.1 := by
    simp only [List.forall_mem_cons, List.not_mem_nil, false_implies, implies_true, and_true]
    constructor
    · exact ⟨nofun, by simp⟩
    · constructor
      · intro _ found trade _ known
        exact open_ trade (Database.tradeOf_eq_some.mp known).1
      · rintro _ ⟨⟩
        exact .inr ⟨_, rfl, by decide +kernel⟩
  have covered := DurableBooks.realized_loss_covered books goldSpec rfl rfl rfl trace accounted now
    usage used
  rw [losingDeal_losses] at covered
  exact ⟨_, _, usage, trace, used, covered⟩

/-- **A strategy exit at a loss leaves the daily loss at zero.** -/
theorem strategy_exit_loss_unseen :
    ∃ middle final usage, Trace books.Settles ⟨emptyDatabase, []⟩
      [(⟨emptyDatabase, []⟩, (recovers, none), middle),
        (middle, (exits, some losingDeal), final)] final ∧
      journal.riskUsage final.database now = .ok usage ∧
      usage.dailyRealizedLoss = 0 ∧ lossesOn goldSpec final.deals (dayOf now) = 8 := by
  have answered : dailyLossAfter recovers exits = some 0 := by decide +kernel
  obtain ⟨middle, final, usage, opened, _, _, closed, used, unseen⟩ := dailyLossAfter_eq_some answered
  refine ⟨⟨middle, []⟩, ⟨final, [losingDeal]⟩, usage, ?_, used, unseen, losingDeal_losses⟩
  apply Trace.snoc (.snoc .nil ⟨⟨0, opened⟩, by simp, rfl⟩)
  constructor
  · exact ⟨0, closed⟩
  · simpa using .exited rfl rfl rfl (le_refl _)

end GoldFlow
