import GoldFlow.Verified.Assessment
import GoldFlow.Verified.RealizedLosses
import GoldFlow.Verified.Sizing

/-! # The open risk that the limits see -/

namespace GoldFlow

open Data Effect TradeExecutor WorkerPersistence

section Loss

variable {symbol : SymbolSpecification} {direction : Direction} {entryPrice stopLoss volume : Decimal}

theorem lossAt_eq_distance (nonneg : 0 ≤ volume) :
    symbol.lossAt direction entryPrice stopLoss volume =
      |entryPrice - stopLoss| * (symbol.tickValue / symbol.tickSize) * volume := by
  have sign : |(direction.sign : Decimal)| = 1 := by cases direction <;> simp [Direction.sign]
  have value : |symbol.tickValue| = symbol.tickValue := abs_of_nonneg symbol.tickValue_nonneg
  have size : |symbol.tickSize| = symbol.tickSize := abs_of_pos symbol.tickSize_pos
  simp only [SymbolSpecification.lossAt, SymbolSpecification.profit, abs_mul, abs_div, sign, value, size,
    abs_of_nonneg nonneg, abs_sub_comm stopLoss]
  ring

theorem lossAt_le {other : Direction} {price larger : Decimal} (nonneg : 0 ≤ volume) (smaller : volume ≤ larger)
    (nearer : |entryPrice - stopLoss| ≤ |price - stopLoss|) :
    symbol.lossAt direction entryPrice stopLoss volume ≤ symbol.lossAt other price stopLoss larger := by
  have valued : 0 ≤ symbol.tickValue / symbol.tickSize := div_nonneg symbol.tickValue_nonneg symbol.tickSize_pos.le
  rw [lossAt_eq_distance nonneg, lossAt_eq_distance (nonneg.trans smaller)]
  gcongr

theorem lossAt_le_distance (nonneg : 0 ≤ volume) (cheap : symbol.tickValue ≤ symbol.tickSize) :
    symbol.lossAt direction entryPrice stopLoss volume ≤ |entryPrice - stopLoss| * volume := by
  have ratio : symbol.tickValue / symbol.tickSize ≤ 1 := (div_le_one symbol.tickSize_pos).mpr cheap
  rw [lossAt_eq_distance nonneg]
  apply mul_le_mul_of_nonneg_right _ nonneg
  exact mul_le_of_le_one_right (abs_nonneg _) ratio

end Loss

/-! ## The risk an outcome carries -/

def Risked (history : List PortEvent) (request : OrderRequest) (decision : RiskDecision) : Prop :=
  ∃ price profit, request.requestedPrice = some price ∧
    Returned history (.broker (.calculateProfit request.symbol request.direction request.volume price
      request.stopLoss)) profit ∧ |profit| = decision.riskAmount

theorem Risked.mono {history later : List PortEvent} {request : OrderRequest} {decision : RiskDecision}
    (risked : Risked history request decision) (included : history ⊆ later) : Risked later request decision := by
  obtain ⟨price, profit, requested, returned, same⟩ := risked
  exact ⟨price, profit, requested, returned.mono included, same⟩

def ExecutionOutcome.Repeats (outcome : ExecutionOutcome) : Prop :=
  outcome.reasons = ["DUPLICATE_EXECUTION_SUPPRESSED"]

def Backed (history : List PortEvent) (outcome : ExecutionOutcome) : Prop :=
  ∀ fill, fillOf outcome = some fill → ¬ outcome.Repeats →
    ∃ decision, outcome.risk = some decision ∧ Risked history fill.request decision

section Outcomes

variable {executor : TradeExecutor} {history : List PortEvent} {outcome : ExecutionOutcome} {reasons : List String}

theorem backed_of_unreported (unreported : outcome.report = none) : Backed history outcome := by
  intro fill filled
  cases requested : outcome.request <;> simp [fillOf, unreported] at filled

theorem backed_outcomeFromRecord (record : ExecutionRecord) (risk : Option RiskDecision) :
    Backed history (outcomeFromRecord record risk) :=
  fun _ _ fresh => absurd rfl fresh

theorem fillOf_eq_some {fill : RecordedFill}
    (filled : fillOf outcome = some fill) : outcome.request = some fill.request ∧
      outcome.report = some fill.report ∧ fill.report.brokerTicket = some fill.ticket := by
  unfold fillOf at filled
  split at filled
  next request report requested reported =>
    split at filled
    · obtain ⟨ticket, kept, rfl⟩ := Option.map_eq_some_iff.mp filled
      exact ⟨requested, reported, (Option.filter_eq_some_iff.mp kept).1⟩
    · cases filled
  next => cases filled

theorem backed_settled {approved : Approved} (risked : Risked history approved.request approved.decision)
    {status : ExecutionStatus} {report : Option ExecutionReport} {transitions : List StateTransition}
    {requiresReconciliation : Bool} :
    Backed history (settled approved status reasons report transitions requiresReconciliation) := by
  intro fill filled _
  have same : approved.request = fill.request := Option.some.inj (fillOf_eq_some filled).1
  exact ⟨approved.decision, rfl, same ▸ risked⟩

/-! ### The send -/

section Sending

variable {approved : Approved} (risked : Risked history approved.request approved.decision)

include risked

section

variable (transitions : List StateTransition)
include transitions

theorem yields_settleUnknown (error : PyError) :
    Yields Backed (executor.settleUnknown approved transitions error) history := by
  refine Yields.after fun _ _ marked => ?_
  have kept := risked.mono marked
  apply Keeps.ite
  · exact fun _ => Yields.after fun _ _ failed => Keeps.pure (backed_settled (kept.mono failed))
  · exact fun _ => Yields.after fun _ _ failed => Keeps.pure (backed_settled (kept.mono failed))

theorem yields_settleFill (report : ExecutionReport) :
    Yields Backed (executor.settleFill approved transitions report) history := by
  refine Yields.after fun _ _ filled => Yields.after fun _ protection verified => ?_
  have kept := (risked.mono filled).mono verified
  -- with and without protection the record is marked and the state machine moves once
  apply Keeps.ite
  · refine fun _ => Yields.after fun _ _ marked => Yields.after fun _ _ moved => ?_
    exact Keeps.pure (backed_settled ((kept.mono marked).mono moved))
  · refine fun _ => Yields.after fun _ _ marked => Yields.after fun _ _ moved => ?_
    exact Keeps.pure (backed_settled ((kept.mono marked).mono moved))

theorem yields_settleReport (report : ExecutionReport) :
    Yields Backed (executor.settleReport approved transitions report) history := by
  apply Keeps.ite
  · refine fun _ => Yields.after fun _ _ marked => Yields.after fun _ _ failed => ?_
    exact Keeps.pure (backed_settled ((risked.mono marked).mono failed))
  · intro _
    apply Keeps.ite
    · exact fun _ => yields_settleFill risked transitions report
    · exact fun _ => Yields.after fun _ _ marked => Keeps.pure (backed_settled (risked.mono marked))

theorem yields_send : Yields Backed (executor.send approved transitions) history := by
  refine Yields.after fun _ pending moved => Yields.after fun _ _ updated => Yields.after fun _ answer placed => ?_
  have kept := ((risked.mono moved).mono updated).mono placed
  cases answer with
  | error error => exact yields_settleUnknown kept _ error
  | ok report => exact yields_settleReport kept _ report

end

theorem yields_submit : Yields Backed (executor.submit approved) history := by
  refine Yields.after fun _ answer claimed => ?_
  obtain ⟨record, won⟩ := answer
  apply Keeps.ite
  · exact fun _ => Keeps.pure (backed_outcomeFromRecord record _)
  · refine fun _ => Yields.after fun _ ready moved => Yields.after fun _ check checked => ?_
    have kept := ((risked.mono claimed).mono moved).mono checked
    apply Keeps.ite
    · refine fun _ => Yields.after fun _ _ updated => Yields.after fun _ _ failed => ?_
      exact Keeps.pure (backed_settled ((kept.mono updated).mono failed))
    · exact fun _ => yields_send kept _

end Sending

/-! ### The assessment -/

def Established {α : Type} (established : List PortEvent → α → Prop) (later : List PortEvent) :
    Except ExecutionOutcome α → Prop
  | .ok value => established later value
  | .error outcome => Backed later outcome

theorem backed_blocked {request : Option OrderRequest} {risk : Option RiskDecision} :
    Backed history { blocked reasons request with risk } := backed_of_unreported rfl

theorem yields_phase_bind {α β : Type} {established : List PortEvent → α → Prop}
    {concluded : List PortEvent → β → Prop} {program : PyReturning ExecutionOutcome α}
    {next : α → PyReturning ExecutionOutcome β} (first : Yields (Established established) program history)
    (rest : ∀ later value, established later value → Yields (Established concluded) (next value) later) :
    Yields (Established concluded) (program >>= next : PyReturning ExecutionOutcome β) history :=
  Keeps.bind_returning first (fun _ _ backed => backed) rest

theorem yields_catching {α : Type} {established : List PortEvent → α → Prop} {body : Py α}
    {catches : PyError → Bool} {recover : PyError → ExecutionOutcome} (inside : Yields established body history)
    (unreported : ∀ error, (recover error).report = none) :
    Yields (Established established) (body.catching catches recover) history :=
  Keeps.catching inside (fun _ _ holds => holds) fun _ error _ => backed_of_unreported (unreported error)

theorem yields_openAccount : Yields (Established fun later _ => history ⊆ later) openAccount history := by
  apply yields_phase_bind (yields_catching (Yields.grows _ history) fun _ => rfl)
  intro later found included
  cases found with
  | none => exact Keeps.pure backed_blocked
  | some => exact Keeps.pure included

theorem yields_authorize (command : ExecutionCommand) (account : AccountSnapshot) :
    Yields (Established fun later _ => history ⊆ later) (executor.authorize command account) history := by
  refine Keeps.lift_ofExcept_bind (fun _ _ => trivial) fun permission _ => ?_
  refine Keeps.returnIf_bind (fun _ => backed_blocked) fun _ => ?_
  split
  · refine Keeps.lift_ofExcept_bind (fun _ _ => trivial) fun demo _ => ?_
    exact Keeps.returnIf (fun _ => backed_blocked) fun _ => List.Subset.refl history
  · exact Keeps.pure (List.Subset.refl history)

theorem yields_size (command : ExecutionCommand) (direction : Direction) (stopLoss : Decimal)
    (account : AccountSnapshot) :
    Yields (Established fun later sized => ∃ profit, |profit| = sized.sizing.cashRisk ∧
        Returned later (.broker (.calculateProfit sized.spec.name direction sized.sizing.volume sized.price stopLoss))
          profit)
      (executor.size command direction stopLoss account) history := by
  refine yields_catching (Yields.after fun _ spec _ => Yields.after fun _ tick _ => ?_) fun _ => rfl
  have calculated := @keeps_calculate executor (executing executor command)
  apply Keeps.bind (Yields.of_keeps (calculated account spec direction _ stopLoss _))
  rintro later sizing ⟨_, within⟩
  obtain ⟨profit, returned, same⟩ := within.loss
  exact Keeps.pure ⟨profit, same, returned⟩

/-- **What the assessment approves carries the calculated loss as its risk.** -/
theorem yields_assess (command : ExecutionCommand) :
    Yields (Established fun later approved => Risked later approved.request approved.decision)
      (executor.assess command) history := by
  unfold assess
  refine Keeps.lift_bind (Yields.grows _ history) fun timed now _ => ?_
  have entered : Yields (Established fun later _ => timed ⊆ later) (.pure (entryOf command.signal now)) timed := by
    apply Keeps.pure
    cases entry : entryOf command.signal now with
    | ok => exact List.Subset.refl timed
    | error =>
      unfold entryOf at entry
      split at entry
      · cases entry; exact backed_blocked
      · split at entry
        · split at entry <;> cases entry
          exact backed_blocked
        · cases entry; exact backed_blocked
  apply yields_phase_bind entered
  intro _ entry _
  obtain ⟨direction, stopLoss⟩ := entry
  apply yields_phase_bind yields_openAccount
  intro _ opened _
  obtain ⟨health, account⟩ := opened
  apply yields_phase_bind (yields_authorize command account)
  intro _ _ _
  apply yields_phase_bind (yields_size command direction stopLoss account)
  intro _ sized calculated
  refine Keeps.lift_ofExcept_bind (fun _ _ => trivial) fun request built => ?_
  refine Keeps.lift_bind (Yields.grows _ _) fun _ existing read => ?_
  cases existing with
  | some record => exact Keeps.pure (backed_outcomeFromRecord record none)
  | none =>
    apply yields_phase_bind (yields_catching (Yields.grows _ _) fun _ => rfl)
    intro _ exposure exposed
    have circuit : ∀ before, Yields (Established fun later _ => before ⊆ later)
        (executor.readCircuit command account now request) before := by
      intro before
      unfold readCircuit
      cases executor.circuitBreaker with
      | none => exact Keeps.pure (List.Subset.refl before)
      | some => exact yields_catching (Yields.grows _ before) fun _ => rfl
    apply yields_phase_bind (circuit _)
    intro _ locks locked
    refine Keeps.returnIf_bind (fun _ => backed_blocked) fun _ => Keeps.pure ?_
    -- the request carries the values the size was calculated for
    obtain ⟨_, symbol, way, _, volume, stop, _, _, price, _⟩ := OrderRequest.make_eq_ok built
    obtain ⟨profit, cash, returned⟩ := calculated
    refine ⟨sized.price, profit, price, ?_, cash⟩
    rw [symbol, way, volume, stop]
    exact ((returned.mono read).mono exposed).mono locked

/-! ### Whole calls -/

theorem yields_execute (command : ExecutionCommand) : Yields Backed (executor.execute command) history := by
  apply Keeps.ite
  · exact fun _ => Keeps.pure (backed_of_unreported rfl)
  · intro _
    apply Keeps.bind (yields_assess command)
    intro later result assessed
    cases result with
    | error => exact Keeps.pure assessed
    | ok => exact yields_submit assessed

def ExecutionOutcome.Unrisked (outcome : ExecutionOutcome) : Prop :=
  outcome.risk = none ∧ (outcome.report = none ∨ outcome.Repeats)

/-- **What a reconciliation answers carries no risk.** -/
theorem yields_reconcileUnknown (key : String) :
    Yields (fun _ outcome => outcome.Unrisked) (executor.reconcileUnknown key) history := by
  have resolved : ∀ status report reason before,
      Yields (fun _ outcome => outcome.Unrisked) (executor.resolve key status report reason) before :=
    fun _ _ _ _ => Yields.after fun _ _ _ => Keeps.pure ⟨rfl, .inr rfl⟩
  refine Yields.after fun before found _ => ?_
  cases found with
  | none => exact Keeps.pure ⟨rfl, .inl rfl⟩
  | some record =>
    apply Keeps.ite
    · exact fun _ => Keeps.pure ⟨rfl, .inr rfl⟩
    · intro _
      have listed : Yields (fun _ state => ∀ deferred, state = .error deferred → deferred.Unrisked)
          (Program.catching (do
              let positions ← askBroker (.getPositions (some record.request.symbol))
              let orders ← askBroker (.getOrders (some record.request.symbol))
              pure (positions, orders))
            PyError.isBroker (fun _ => stillUnknown record "BROKER_UNAVAILABLE_RECONCILIATION_DEFERRED")) before := by
        apply Keeps.catching (Yields.grows _ before)
        · simp
        · rintro _ _ _ _ ⟨⟩
          exact ⟨rfl, .inl rfl⟩
      apply Keeps.bind listed
      intro _ state known
      cases state with
      | error deferred => exact Keeps.pure (known deferred rfl)
      | ok listing =>
        cases matched : executor.matchedPosition record key listing.1 with
        | some position =>
          simp only [matched]
          refine Yields.after fun _ now _ => Yields.after fun _ protection _ => ?_
          apply Keeps.ite <;> exact fun _ => resolved _ _ _ _
        | none =>
          cases working : executor.matchedOrder key listing.2 with
          | some order =>
            simp only [matched, working]
            exact Yields.after fun _ now _ => resolved _ _ _ _
          | none =>
            simp only [matched, working]
            exact Keeps.pure ⟨rfl, .inl rfl⟩

theorem yields_call (call : ExecutorCall) : Yields Backed (executor.call call) history := by
  cases call with
  | execute command => exact yields_execute command
  | reconcileUnknown key =>
    apply Keeps.mono (yields_reconcileUnknown key)
    rintro later outcome ⟨_, unreported | repeats⟩
    · exact backed_of_unreported unreported
    · exact fun _ _ fresh => absurd repeats fresh

end Outcomes

/-! ## Runs of the writers and the broker -/

def LinearProfit (spec : String → SymbolSpecification) (history : List PortEvent) : Prop :=
  ∀ symbol direction volume openPrice closePrice profit,
    Returned history (.broker (.calculateProfit symbol direction volume openPrice closePrice)) profit →
      profit = (spec symbol).profit direction volume openPrice closePrice

def Concluded (spec : String → SymbolSpecification) (outcome : ExecutionOutcome) : Prop :=
  ∃ executor call state history final,
    Steps world state (TradeExecutor.call executor call) history final (.pure outcome) ∧ LinearProfit spec history

theorem Concluded.riskAmount {spec : String → SymbolSpecification} {outcome : ExecutionOutcome} {fill : RecordedFill}
    (concluded : Concluded spec outcome) (filled : fillOf outcome = some fill) (fresh : ¬ outcome.Repeats) :
    ∃ price, fill.request.requestedPrice = some price ∧ outcome.risk.elim 0 (·.riskAmount) =
      (spec fill.request.symbol).lossAt fill.request.direction price fill.request.stopLoss fill.request.volume := by
  obtain ⟨executor, call, state, history, final, steps, linear⟩ := concluded
  obtain ⟨decision, carried, price, profit, requested, returned, same⟩ :=
    (yields_call call).returned steps fill filled fresh
  refine ⟨price, requested, ?_⟩
  rw [carried, SymbolSpecification.lossAt, ← linear _ _ _ _ _ _ returned]
  exact same.symm

structure Holdings where
  database : Database
  positions : List BrokerPosition := []

inductive HoldingsMove where
  | commits (write : JournalWrite)
  | opens (position : BrokerPosition)
  /-- closes, partial closes and changes of protection -/
  | reduces (positions : List BrokerPosition)

structure Remains (old position : BrokerPosition) : Prop where
  ticket : position.ticket = old.ticket
  symbol : position.symbol = old.symbol
  openPrice : position.openPrice = old.openPrice
  volume : position.volume ≤ old.volume

/-- The position is no larger than asked, and no further from its stop. -/
structure FilledAsAsked (request : OrderRequest) (position : BrokerPosition) : Prop where
  symbol : position.symbol = request.symbol
  volume : position.volume ≤ request.volume
  price : ∀ price, request.requestedPrice = some price →
    |position.openPrice - request.stopLoss| ≤ |price - request.stopLoss|

namespace DurableBooks

variable (books : DurableBooks) (spec : String → SymbolSpecification)

def Proceeds (before : Holdings) : HoldingsMove → Holdings → Prop
  | .commits write, after => books.Writes before.database write after.database ∧
    (∀ signal outcome environment now, write = .recordExecution signal outcome environment now →
      Concluded spec outcome) ∧ after.positions = before.positions
  | .opens position, after => after.database = before.database ∧ after.positions = before.positions ++ [position]
  | .reduces positions, after => after.database = before.database ∧ after.positions = positions ∧
    ∀ position ∈ positions, ∃ old ∈ before.positions, Remains old position

/-- The columns hold the stop as it is, and the amount they hold is no less than the risk. -/
def HoldsRisk (stopLoss risk amount : Decimal) : Prop :=
  Column.price stopLoss = stopLoss ∧ risk ≤ Column.money amount

/-- New rows come from fresh fills as asked, or from a listing with a symbol whose tick is worth no more than
its size, and no column rounds their risk down. -/
def Priced (before : Holdings) : HoldingsMove → Prop
  | .commits (.upsertPosition record) =>
    before.database.positionWith books.ledger.brokerAccountId record.item.ticket = none →
      ∀ position ∈ before.positions, position.ticket = record.item.ticket →
        Remains record.item position ∧ (spec record.item.symbol).tickValue ≤ (spec record.item.symbol).tickSize ∧
        HoldsRisk record.item.stopLoss (|record.item.openPrice - record.item.stopLoss| * record.item.volume)
          (SQLAlchemyRecoveryLedger.recoveredRisk record.item)
  | .commits (.recordExecution _ outcome _ _) => ∀ fill, fillOf outcome = some fill →
    before.database.positionWith books.persistence.brokerAccountId fill.ticket = none →
      ∀ position ∈ before.positions, position.ticket = fill.ticket →
        ¬ outcome.Repeats ∧ FilledAsAsked fill.request position ∧
        ∀ price, fill.request.requestedPrice = some price →
          let risk := (spec fill.request.symbol).lossAt fill.request.direction price fill.request.stopLoss
            fill.request.volume
          HoldsRisk fill.request.stopLoss risk risk
  | .opens position => ∀ trade ∈ before.database.trades.rows, trade.brokerTicket = position.ticket →
    trade.closedAt ≠ none
  | _ => True

def CarriesLoss (positions : List BrokerPosition) (trade : TradeRow) : Prop :=
  trade.closedAt = none → ∀ position ∈ positions, position.ticket = trade.brokerTicket →
    (spec position.symbol).lossAt position.direction position.openPrice trade.initialStopLoss position.volume ≤
      trade.riskAmount

variable {books spec} {before after : Holdings} {write : JournalWrite} {now : Instant}

theorem RowsWritten.carries (written : books.RowsWritten now before.database after.database write)
    (carried : ∀ trade ∈ before.database.trades.rows, CarriesLoss spec before.positions trade)
    (concluded : ∀ signal outcome environment now, write = .recordExecution signal outcome environment now →
      Concluded spec outcome)
    (priced : books.Priced spec before (.commits write)) :
    ∀ trade ∈ after.database.trades.rows, CarriesLoss spec before.positions trade := by
  cases written with
  | untouched _ _ trades | followed _ _ _ trades | marked _ trades | resized _ trades =>
    rw [trades]
    exact carried
  | @recovered record missing _ traded =>
    apply (Table.forall_insert traded).mpr ⟨carried, ?_⟩
    intro _ position member same
    obtain ⟨listed, cheap, fits, risk⟩ := priced missing position member same
    have stop : (tradeSchema.store ((books.ledger.recoveredTrade before.database record.item).created
        before.database.trades.rows.length)).initialStopLoss = record.item.stopLoss := fits
    rw [stop]
    refine le_trans ?_ risk
    calc (spec position.symbol).lossAt position.direction position.openPrice record.item.stopLoss position.volume
        ≤ (spec record.item.symbol).lossAt record.item.direction record.item.openPrice record.item.stopLoss
            record.item.volume := by
          rw [listed.symbol]
          exact lossAt_le position.volume_pos.le listed.volume (by rw [listed.openPrice])
      _ ≤ |record.item.openPrice - record.item.stopLoss| * record.item.volume :=
          lossAt_le_distance record.item.volume_pos.le cheap
  | @opened signal outcome environment time fill order row filled missing _ _ traded =>
    apply (Table.forall_insert traded).mpr ⟨carried, ?_⟩
    intro _ position member same
    obtain ⟨fresh, asked, held⟩ := priced fill filled missing position member same
    obtain ⟨price, requested, risk⟩ :=
      (concluded signal outcome environment time rfl).riskAmount filled fresh
    obtain ⟨fits, covered⟩ := held price requested
    have stop : (tradeSchema.store ((books.persistence.filledTrade signal outcome fill row environment
        time).created before.database.trades.rows.length)).initialStopLoss = fill.request.stopLoss := fits
    rw [← risk] at covered
    rw [stop, asked.symbol]
    refine le_trans ?_ covered
    rw [risk]
    exact lossAt_le position.volume_pos.le asked.volume (asked.price price requested)
  | retired _ _ _ _ traded =>
    apply (Table.forall_update traded carried).mpr
    intro trade found open_
    cases open_
  | @acted plan action eventType state position time suffix row trade _ _ _ traded =>
    apply (Table.forall_update traded carried).mpr
    intro trade found
    have held := before.database.trades.stored trade (Table.mem_of_get found)
    have stop : Column.price trade.initialStopLoss = trade.initialStopLoss := congrArg TradeRow.initialStopLoss held
    have risk : Column.money trade.riskAmount = trade.riskAmount := congrArg TradeRow.riskAmount held
    simp only [tradeSchema_store, TradeRow.stored, TradeRow.touched, actedTrade]
    split
    · intro open_
      cases open_
    · simpa only [CarriesLoss, stop, risk] using carried trade (Table.mem_of_get found)

structure CarriesRisk (spec : String → SymbolSpecification) (state : Holdings) : Prop where
  linked : Linked state.database
  carried : ∀ trade ∈ state.database.trades.rows, CarriesLoss spec state.positions trade

theorem CarriesRisk.moved {move : HoldingsMove} (carries : CarriesRisk spec before)
    (priced : books.Priced spec before move) (moved : books.Proceeds spec before move after) :
    CarriesRisk spec after := by
  cases move with
  | commits =>
    obtain ⟨⟨now, committed⟩, concluded, same⟩ := moved
    have written := rowsWritten carries.linked committed
    refine ⟨written.linked carries.linked, ?_⟩
    rw [same]
    exact written.carries carries.carried concluded priced
  | opens =>
    obtain ⟨database, positions⟩ := moved
    refine ⟨database ▸ carries.linked, ?_⟩
    rw [database, positions]
    intro trade member open_ other held same
    rcases List.mem_append.mp held with earlier | last
    · exact carries.carried trade member open_ other earlier same
    · obtain rfl := List.mem_singleton.mp last
      exact absurd open_ (priced trade member same.symm)
  | reduces =>
    obtain ⟨database, rfl, remaining⟩ := moved
    refine ⟨database ▸ carries.linked, ?_⟩
    rw [database]
    intro trade member open_ position held same
    obtain ⟨old, listed, remains⟩ := remaining position held
    have before := carries.carried trade member open_ old listed (remains.ticket.symm.trans same)
    rw [remains.symbol]
    apply le_trans (lossAt_le position.volume_pos.le remains.volume _) before
    rw [remains.openPrice]

/-- **Open trades carry the loss of their positions in every priced run.** -/
theorem open_risk_covered (books : DurableBooks) (spec : String → SymbolSpecification) {start final : Holdings}
    {moves : List (Holdings × HoldingsMove × Holdings)} (positions : start.database.positions = .empty)
    (trades : start.database.trades = .empty) (trace : Trace (books.Proceeds spec) start moves final)
    (priced : ∀ move ∈ moves, books.Priced spec move.1 move.2.1) (position : BrokerPosition)
    (held : position ∈ final.positions) (trade : TradeRow) (recorded : trade ∈ final.database.trades.rows)
    (same : trade.brokerTicket = position.ticket) (open_ : trade.closedAt = none) :
    (spec position.symbol).lossAt position.direction position.openPrice trade.initialStopLoss position.volume ≤
      trade.riskAmount := by
  have initially : CarriesRisk spec start := by
    refine ⟨Linked.of_empty positions trades, ?_⟩
    simp [trades, Table.empty]
  have reached := ((trace.restrict priced).invariant initially fun _ _ _ carries step => carries.moved step.1 step.2).1
  exact reached.carried trade recorded open_ position held same.symm

end DurableBooks

namespace Demo

def plainSpec : String → SymbolSpecification := fun _ =>
  { MockBroker.goldSpecification with tickValue := 1 / 100, tickValue_nonneg := by norm_num }

def recoveredRisk : Option TradeRow := do
  let database ← (books.write recovers { emptyDatabase with now := 0 }).toOption
  database.trades.get 0

theorem recovered_trace (spec : String → SymbolSpecification) {trade : TradeRow} (made : recoveredRisk = some trade) :
    ∃ final : Database, trade ∈ final.trades.rows ∧
      Trace (books.Proceeds spec) ⟨emptyDatabase, []⟩
        [(⟨emptyDatabase, []⟩, .opens goldPosition, ⟨emptyDatabase, [goldPosition]⟩),
          (⟨emptyDatabase, [goldPosition]⟩, .commits recovers, ⟨final, [goldPosition]⟩)]
        ⟨final, [goldPosition]⟩ := by
  simp only [recoveredRisk, Option.bind_eq_bind, Option.bind_eq_some_iff] at made
  obtain ⟨final, written, found⟩ := made
  refine ⟨final, Table.mem_of_get found, ?_⟩
  apply Trace.snoc (.snoc .nil ⟨rfl, rfl⟩)
  exact ⟨⟨0, toOption_eq_some.mp written⟩, by simp [recovers], rfl⟩

end Demo

open Demo

/-- With a tick that is worth its size the recovered trade carries the loss. -/
theorem open_risk_recovered :
    ∃ trade, recoveredRisk = some trade ∧ trade.closedAt = none ∧
      (plainSpec goldPosition.symbol).lossAt goldPosition.direction goldPosition.openPrice
        trade.initialStopLoss goldPosition.volume ≤ trade.riskAmount := by
  have recorded : recoveredRisk.any (fun trade => trade.brokerTicket = "P1" ∧ trade.closedAt = none) = true := by
    decide +kernel
  obtain ⟨trade, made, same, open_⟩ : ∃ trade, recoveredRisk = some trade ∧ trade.brokerTicket = "P1" ∧
      trade.closedAt = none := by simpa [Option.any_eq_true] using recorded
  obtain ⟨final, member, trace⟩ := recovered_trace plainSpec made
  refine ⟨trade, made, open_, ?_⟩
  apply DurableBooks.open_risk_covered books plainSpec rfl rfl trace _ goldPosition
    (List.mem_singleton_self _) trade member same open_
  simp only [List.forall_mem_cons, List.not_mem_nil, false_implies, implies_true, and_true]
  constructor
  · exact fun _ impossible => absurd impossible List.not_mem_nil
  · intro _ position held _
    obtain rfl := List.mem_singleton.mp held
    exact ⟨⟨rfl, rfl, rfl, le_refl _⟩, le_refl _, by decide +kernel, by decide +kernel⟩

/-- **A recovered position that can lose ten dollars is recorded with a risk of ten cents.** -/
theorem recovered_risk_understated :
    ∃ final trade, Trace (books.Proceeds goldSpec) ⟨emptyDatabase, []⟩
        [(⟨emptyDatabase, []⟩, .opens goldPosition, ⟨emptyDatabase, [goldPosition]⟩),
          (⟨emptyDatabase, [goldPosition]⟩, .commits recovers, ⟨final, [goldPosition]⟩)]
        ⟨final, [goldPosition]⟩ ∧
      trade ∈ final.trades.rows ∧ trade.brokerTicket = goldPosition.ticket ∧ trade.closedAt = none ∧
      trade.riskAmount = 1 / 10 ∧
      (goldSpec goldPosition.symbol).lossAt goldPosition.direction goldPosition.openPrice
        trade.initialStopLoss goldPosition.volume = 10 := by
  have recorded : recoveredRisk.any (fun trade => trade.brokerTicket = "P1" ∧ trade.closedAt = none ∧
      trade.riskAmount = 1 / 10 ∧ MockBroker.goldSpecification.lossAt .long 2000 trade.initialStopLoss (1 / 10) = 10) =
      true := by
    decide +kernel
  obtain ⟨trade, made, facts⟩ : ∃ trade, recoveredRisk = some trade ∧ trade.brokerTicket = "P1" ∧
      trade.closedAt = none ∧ trade.riskAmount = 1 / 10 ∧
      MockBroker.goldSpecification.lossAt .long 2000 trade.initialStopLoss (1 / 10) = 10 := by
    simpa only [Option.any_eq_true, decide_eq_true_eq] using recorded
  obtain ⟨final, member, trace⟩ := recovered_trace goldSpec made
  exact ⟨final, trade, trace, member, facts⟩

end GoldFlow
