import GoldFlow.Backtest.Engine
import Mathlib.Logic.Relation

/-! # Runs of the backtest -/

namespace GoldFlow

open Data

/-! ## Validated series -/

structure Selects (given series : List Candle) : Prop where
  increasing : series.Pairwise fun first second => candleCloseTime first < candleCloseTime second
  members : ∀ candle, candle ∈ series ↔ candle ∈ given ∧ candle.complete = true

theorem ValidSequence.closing {candles : List Candle} (valid : ValidSequence candles) :
    candles.Pairwise fun first second => candleCloseTime first < candleCloseTime second := by
  apply valid.increasing.imp_of_mem
  intro first second firstMember secondMember earlier
  rw [candleCloseTime, candleCloseTime, (valid.alike first firstMember second secondMember).2]
  exact Int.add_lt_add_right earlier _

namespace BacktestEngine

theorem validateTimeframe_ok {candles series : List Candle} (validated : validateTimeframe candles = .ok series) :
    Selects candles series := by
  obtain ⟨ordered, valid, rest⟩ := bind_eq_ok.mp validated
  -- what is returned are the sorted candles without the incomplete ones
  obtain ⟨sequence, same⟩ := validateCandleSequence_eq_ok.mp valid
  have checked : ordered = candles.insertionSort (fun first second => first.timestamp ≤ second.timestamp) ∧
      ordered.Pairwise fun first second => candleCloseTime first < candleCloseTime second :=
    ⟨same, same ▸ sequence.closing⟩
  have members : ∀ candle, candle ∈ ordered ↔ candle ∈ candles := by
    intro candle
    rw [checked.1, List.mem_insertionSort]
  rw [← checked.1] at rest
  by_cases incomplete : ordered.any (!·.complete) = true
  · rw [if_pos incomplete] at rest
    cases rest
    exact ⟨checked.2.filter _, fun candle => by rw [List.mem_filter, members]⟩
  · rw [if_neg incomplete] at rest
    cases rest
    refine ⟨checked.2, fun candle => ?_⟩
    rw [members, iff_self_and]
    intro member
    simp only [List.any_eq_true, Bool.not_eq_true', not_exists, not_and, Bool.not_eq_false] at incomplete
    exact incomplete candle ((members candle).mpr member)

/-- What `_validate_data` accepts. -/
structure Accepted (candles : Timeframe → Option (List Candle)) (data : PerTimeframe (List Candle)) : Prop where
  h1 : Selects ((candles .h1).getD []) data.h1
  m15 : Selects ((candles .m15).getD []) data.m15
  m5 : Selects ((candles .m5).getD []) data.m5
  m5_nonempty : data.m5 ≠ []

theorem validateData_ok {candles : Timeframe → Option (List Candle)} {data : PerTimeframe (List Candle)}
    (validated : validateData candles = .ok data) : Accepted candles data := by
  unfold validateData at validated
  dsimp only at validated
  split at validated
  · cases validated
  · obtain ⟨h1, h1Valid, validated⟩ := bind_eq_ok.mp validated
    obtain ⟨m15, m15Valid, validated⟩ := bind_eq_ok.mp validated
    obtain ⟨m5, m5Valid, validated⟩ := bind_eq_ok.mp validated
    split at validated
    · cases validated
    · rename_i filled
      split at validated
      · cases validated
      · cases validated
        refine ⟨validateTimeframe_ok h1Valid, validateTimeframe_ok m15Valid, validateTimeframe_ok m5Valid, ?_⟩
        rintro rfl
        simp [PerTimeframe.values] at filled

section Moves

variable (engine : BacktestEngine)

inductive Move (candle : Candle) : LoopState → LoopState → Prop
  | closed {state : LoopState} {position : OpenPosition} (rawExit : Decimal) {reason : ExitReason} :
      state.position = some position → reason ≠ .endOfData →
      Move candle state (state.book (engine.close position candle rawExit reason (candleCloseTime candle)))
  | expired {state : LoopState} {signal : TradeSignal} :
      state.position = none → state.pending = some signal → signal.isExpired candle.timestamp = true →
      Move candle state { state with signalsExpired := state.signalsExpired + 1, pending := none }
  | filled {state : LoopState} {signal : TradeSignal} {position : OpenPosition} :
      state.position = none → state.pending = some signal →
      engine.fillPending signal candle state.balance = some position →
      Move candle state { state with position := some position, pending := none }
  | looked {state : LoopState} (availableEnds : PerTimeframe Nat) : Move candle state { state with availableEnds }
  | signalled {state : LoopState} (signal : TradeSignal) :
      state.position = none → state.pending = none →
      Move candle state { state with pending := some signal, signalsGenerated := state.signalsGenerated + 1 }

abbrev Moves (candle : Candle) : LoopState → LoopState → Prop := Relation.ReflTransGen (Move engine candle)

variable {engine} {candle : Candle} {state next : LoopState} {data : PerTimeframe (List Candle)}

theorem trigger_reason {position : OpenPosition} {rawExit : Decimal} {reason : ExitReason}
    (triggered : trigger position candle = some (rawExit, reason)) : reason ≠ .endOfData := by
  unfold trigger at triggered
  split at triggered
  · cases triggered
    simp
  · split at triggered
    · cases triggered
      simp
    · cases triggered

theorem exitTriggered_moves (state : LoopState) : Moves engine candle state (engine.exitTriggered candle state) := by
  unfold exitTriggered
  split
  · exact .refl
  · rename_i position opened
    split
    · exact .refl
    · rename_i rawExit reason triggered
      exact .single (.closed rawExit opened (trigger_reason triggered))

theorem enterPending_moves (state : LoopState) : Moves engine candle state (engine.enterPending candle state) := by
  unfold enterPending
  split
  · rename_i signal flat waiting
    split
    · rename_i expired
      exact .single (.expired flat waiting expired)
    · split
      · exact .refl
      · rename_i position filled
        exact .head (.filled flat waiting filled) (exitTriggered_moves _)
  · exact .refl

theorem follow_moves (signal : TradeSignal) (state : LoopState) :
    Moves engine candle state (engine.follow candle signal state) := by
  unfold follow
  split
  · rename_i position _ _ opened
    exact .single (.closed candle.close opened (by simp))
  · rename_i flat waiting
    exact .single (.signalled signal flat waiting)
  · rename_i flat waiting
    exact .single (.signalled signal flat waiting)
  · exact .refl

theorem decideAt_moves (decided : engine.decideAt data candle state = .ok next) : Moves engine candle state next := by
  unfold decideAt at decided
  dsimp only at decided
  split at decided
  · obtain ⟨signal, _, followed⟩ := bind_eq_ok.mp decided
    cases followed
    exact .head (.looked _) (follow_moves signal _)
  · cases decided
    exact .single (.looked _)

/-- **Every turn of the loop is a sequence of moves.** -/
theorem step_moves (stepped : engine.step data state candle = .ok next) : Moves engine candle state next :=
  (exitTriggered_moves state).trans ((enterPending_moves _).trans (decideAt_moves stepped))

end Moves

section Books

variable {engine : BacktestEngine} {candle : Candle} {state next : LoopState} {position : OpenPosition}
  {time : Instant} {data : PerTimeframe (List Candle)}

theorem executionCost_nonneg (engine : BacktestEngine) (candle : Candle) : 0 ≤ engine.executionCost candle := by
  have spread : 0 ≤ engine.spread candle := candle.spread_nonneg.trans (le_max_left _ _)
  have slippage := engine.config.costs_nonneg.2.2
  unfold executionCost
  positivity

theorem sign_mul_sign (direction : Direction) : direction.sign * direction.sign = 1 := by
  cases direction <;> norm_num [Direction.sign]

structure Priced (position : OpenPosition) : Prop where
  volume_pos : 0 < position.volume
  entry_cost : 0 ≤ position.direction.sign * (position.entryPrice - position.rawEntry)
  commission : 0 ≤ position.entryCommission

theorem priced_of_filled {signal : TradeSignal} {balance : Decimal}
    (filled : engine.fillPending signal candle balance = some position) : Priced position := by
  simp only [fillPending, Option.bind_eq_bind, Option.bind_eq_some_iff] at filled
  obtain ⟨_, _, _, _, _, _, _, _, direction, _, _, _, _, _, _, _, _, large, made⟩ := filled
  have volume : engine.config.minimumVolume ≤ position.volume := by
    simp only [Option.guard_eq_some', not_lt] at large
    cases made
    exact large
  have positive : 0 < position.volume := engine.config.volume_limits.1.trans_le volume
  cases made
  refine ⟨positive, ?_, mul_nonneg positive.le engine.config.costs_nonneg.1⟩
  have cost := executionCost_nonneg engine candle
  rw [add_sub_cancel_left, ← mul_assoc, sign_mul_sign, one_mul]
  exact cost

theorem costs_close (priced : Priced position) (rawExit : Decimal) (reason : ExitReason) (closedAt : Instant) :
    0 ≤ (engine.close position candle rawExit reason closedAt).costs := by
  have split : (engine.close position candle rawExit reason closedAt).costs =
      (position.direction.sign * (position.entryPrice - position.rawEntry) +
        position.direction.sign * position.direction.sign * engine.executionCost candle) *
          (position.volume * engine.config.valuePerPriceUnitPerLot) +
        (position.entryCommission + position.volume * engine.config.commissionPerLotPerSide) := by
    simp only [close]
    ring
  have exitCost := executionCost_nonneg engine candle
  have entryCost := priced.entry_cost
  have volume := priced.volume_pos
  have value := engine.config.value_pos
  have commission := priced.commission
  have rate := engine.config.costs_nonneg.1
  rw [split, sign_mul_sign, one_mul]
  positivity

def netTotal (trades : List BacktestTrade) : Decimal := (trades.map (·.netPnl)).sum

structure Booked (engine : BacktestEngine) (time : Instant) (state : LoopState) : Prop where
  balance : state.balance = engine.config.initialBalance + netTotal state.trades
  equity : state.equityCurve.getLast?.map (·.equity) = some state.balance
  ordered : (state.equityCurve.map (·.timestamp)).Pairwise (· ≤ ·)
  bounded : ∀ point ∈ state.equityCurve, point.timestamp ≤ time
  costs : ∀ trade ∈ state.trades, trade.costs = trade.grossPnl - trade.netPnl ∧ 0 ≤ trade.costs
  exclusive : state.pending = none ∨ state.position = none
  counted : state.signalsGenerated =
    state.trades.length + state.signalsExpired + state.pending.toList.length + state.position.toList.length
  priced : ∀ position, state.position = some position → Priced position

theorem Booked.mono {time later : Instant} (booked : Booked engine time state) (after : time ≤ later) :
    Booked engine later state :=
  { booked with bounded := fun point member => (booked.bounded point member).trans after }

theorem booked_initial (engine : BacktestEngine) (first : Candle) :
    Booked engine first.timestamp (engine.initial first) where
  balance := by simp [initial, netTotal]
  equity := rfl
  ordered := by simp [initial]
  bounded := by simp [initial]
  costs := by simp [initial]
  exclusive := .inl rfl
  counted := rfl
  priced := by simp [initial]

theorem Booked.book {time closedAt : Instant} (booked : Booked engine time state)
    (opened : state.position = some position) (after : time ≤ closedAt) (rawExit : Decimal) (reason : ExitReason) :
    Booked engine closedAt (state.book (engine.close position candle rawExit reason closedAt)) where
  balance := by
    simp only [LoopState.book, booked.balance, netTotal, List.map_append, List.sum_append, List.map_cons,
      List.map_nil, List.sum_singleton]
    ring
  equity := by simp [LoopState.book]
  ordered := by
    simp only [LoopState.book, List.map_append, List.map_cons, List.map_nil, List.pairwise_append]
    refine ⟨booked.ordered, List.pairwise_singleton _ _, ?_⟩
    intro earlier member last lastIs
    obtain ⟨point, pointMember, rfl⟩ := List.mem_map.mp member
    rw [List.mem_singleton] at lastIs
    rw [lastIs]
    exact (booked.bounded point pointMember).trans after
  bounded := by
    intro point member
    simp only [LoopState.book, List.mem_append, List.mem_singleton] at member
    rcases member with member | rfl
    · exact (booked.bounded point member).trans after
    · exact le_refl _
  costs := by
    intro trade member
    simp only [LoopState.book, List.mem_append, List.mem_singleton] at member
    rcases member with member | rfl
    · exact booked.costs trade member
    · exact ⟨rfl, costs_close (booked.priced position opened) rawExit reason closedAt⟩
  exclusive := .inr rfl
  counted := by
    have counted := booked.counted
    simp only [opened, Option.toList_some, List.length_singleton] at counted
    simp only [LoopState.book, List.length_append, List.length_singleton, Option.toList_none, List.length_nil]
    omega
  priced := by simp [LoopState.book]

theorem Booked.move (booked : Booked engine time state) (after : time ≤ candleCloseTime candle)
    (move : Move engine candle state next) : Booked engine (candleCloseTime candle) next := by
  cases move with
  | closed rawExit opened _ => exact booked.book opened after rawExit _
  | expired flat waiting _ =>
    have counted := booked.counted
    simp only [flat, waiting, Option.toList_some, Option.toList_none] at counted
    refine { booked.mono after with exclusive := .inl rfl, counted := ?_ }
    simp only [flat, Option.toList_none]
    omega
  | filled flat waiting filled =>
    have counted := booked.counted
    simp only [flat, waiting, Option.toList_some, Option.toList_none] at counted
    refine { booked.mono after with exclusive := .inl rfl, counted := ?_, priced := ?_ }
    · simp only [Option.toList_some, Option.toList_none]
      omega
    · intro position same
      cases same
      exact priced_of_filled filled
  | looked => exact { booked.mono after with }
  | signalled signal flat waiting =>
    have counted := booked.counted
    simp only [flat, waiting, Option.toList_none, List.length_nil] at counted
    refine { booked.mono after with exclusive := .inr flat, counted := ?_ }
    simp only [flat, Option.toList_some, Option.toList_none, List.length_singleton, List.length_nil]
    omega

theorem Booked.step (booked : Booked engine time state) (after : time ≤ candleCloseTime candle)
    (stepped : engine.step data state candle = .ok next) : Booked engine (candleCloseTime candle) next := by
  have moves := step_moves stepped
  clear stepped
  induction moves with
  | refl => exact booked.mono after
  | tail _ move ih => exact ih.move le_rfl move

theorem Booked.fold {candles : List Candle} (booked : Booked engine time state)
    (reached : ∀ candle ∈ candles, time ≤ candleCloseTime candle)
    (increasing : candles.Pairwise fun first second => candleCloseTime first < candleCloseTime second)
    (folded : candles.foldlM (engine.step data) state = .ok next) :
    Booked engine (candles.getLast?.elim time candleCloseTime) next := by
  induction candles generalizing state time with
  | nil =>
    cases folded
    exact booked
  | cons candle rest ih =>
    obtain ⟨middle, stepped, folded⟩ := bind_eq_ok.mp folded
    rw [List.pairwise_cons] at increasing
    have later := ih (booked.step (reached candle List.mem_cons_self) stepped)
      (fun other member => (increasing.1 other member).le) increasing.2 folded
    rw [List.getLast?_cons]
    cases last : rest.getLast? <;> simpa [last] using later

end Books

section Result

variable {engine : BacktestEngine} {candles : Timeframe → Option (List Candle)} {data : PerTimeframe (List Candle)}
  {result : BacktestResult} {first last : Candle} {state : LoopState}

theorem run_ok (accepted : validateData candles = .ok data) (returned : engine.run candles = .ok result) :
    ∃ first last state, data.m5.head? = some first ∧ data.m5.getLast? = some last ∧
      engine.loop data first = .ok state ∧ result = engine.finish first last state := by
  obtain ⟨validated, same, rest⟩ := bind_eq_ok.mp returned
  rw [accepted] at same
  cases same
  cases head : data.m5.head? with
  | none => simp [head] at rest
  | some first =>
    cases ending : data.m5.getLast? with
    | none => simp [ending] at rest
    | some last =>
      simp only [head, ending] at rest
      obtain ⟨state, looped, finished⟩ := bind_eq_ok.mp rest
      cases finished
      exact ⟨first, last, state, rfl, rfl, looped, rfl⟩

theorem booked_loop (accepted : validateData candles = .ok data) (head : data.m5.head? = some first)
    (ending : data.m5.getLast? = some last) (looped : engine.loop data first = .ok state) :
    Booked engine (candleCloseTime last) state := by
  have increasing := (validateData_ok accepted).m5.increasing
  have reached : ∀ candle ∈ data.m5, first.timestamp ≤ candleCloseTime candle := by
    obtain ⟨rest, whole⟩ := List.head?_eq_some_iff.mp head
    rw [whole, List.pairwise_cons] at increasing
    have closes := (timestamp_lt_candleCloseTime first).le
    intro candle member
    rw [whole, List.mem_cons] at member
    rcases member with rfl | member
    · exact closes
    · exact closes.trans (increasing.1 candle member).le
  have booked := (booked_initial engine first).fold reached increasing looped
  rwa [ending] at booked

def leftOpen (engine : BacktestEngine) (state : LoopState) : Nat :=
  if state.position.isSome ∧ engine.config.closeOpenPositionAtEnd = false then 1 else 0

structure BooksBalance (result : BacktestResult) (leftOpen : Nat) : Prop where
  balance : result.finalBalance = result.initialBalance + netTotal result.trades
  equity : result.equityCurve.getLast?.map (·.equity) = some result.finalBalance
  ordered : (result.equityCurve.map (·.timestamp)).Pairwise (· ≤ ·)
  costs : ∀ trade ∈ result.trades, trade.costs = trade.grossPnl - trade.netPnl ∧ 0 ≤ trade.costs
  counted : result.signalsGenerated = result.trades.length + result.signalsExpired + leftOpen

theorem booked_closeAtEnd {last : Candle} (booked : Booked engine (candleCloseTime last) state) :
    Booked engine (candleCloseTime last) (engine.closeAtEnd last state) ∧
      (engine.closeAtEnd last state).position.toList.length = engine.leftOpen state := by
  unfold closeAtEnd leftOpen
  cases opened : state.position with
  | none => simpa [opened] using booked
  | some =>
    by_cases closing : engine.config.closeOpenPositionAtEnd = true
    · simp only [closing]
      exact ⟨booked.book opened le_rfl last.close .endOfData, by simp [LoopState.book]⟩
    · simpa [closing, opened] using booked

theorem booksBalance_finish (booked : Booked engine (candleCloseTime last) state) :
    BooksBalance (engine.finish first last state) (engine.leftOpen state) := by
  obtain ⟨closed, left⟩ := booked_closeAtEnd booked
  refine ⟨closed.balance, ?_, ?_, closed.costs, ?_⟩
  · by_cases atEnd : ((engine.closeAtEnd last state).equityCurve.getLast?.map (·.timestamp)) =
        some (candleCloseTime last)
    · simpa [finish, atEnd] using closed.equity
    · simp [finish, atEnd]
  · by_cases atEnd : ((engine.closeAtEnd last state).equityCurve.getLast?.map (·.timestamp)) =
        some (candleCloseTime last)
    · simpa [finish, atEnd] using closed.ordered
    · simp only [finish, ne_eq, atEnd, not_false_eq_true, if_true, List.map_append,
        List.pairwise_append]
      refine ⟨closed.ordered, List.pairwise_singleton _ _, ?_⟩
      intro earlier member ended endedIs
      obtain ⟨point, pointMember, rfl⟩ := List.mem_map.mp member
      rw [List.mem_singleton.mp endedIs]
      exact closed.bounded point pointMember
  · have counted := closed.counted
    cases waiting : (engine.closeAtEnd last state).pending <;>
      simp only [waiting, Option.toList_some, Option.toList_none, List.length_singleton, List.length_nil] at counted <;>
      simp only [finish, waiting, Option.isSome_some, Option.isSome_none, if_true, Bool.false_eq_true, if_false] <;>
      omega

theorem step_isOk (answers : ∀ available time direction, ∃ signal,
    engine.strategy.evaluate available time direction = .ok signal) (data : PerTimeframe (List Candle))
    (state : LoopState) (candle : Candle) : ∃ next, engine.step data state candle = .ok next := by
  unfold step decideAt
  dsimp only
  split
  · obtain ⟨signal, answered⟩ := answers _ _ _
    exact ⟨_, bind_eq_ok.mpr ⟨signal, answered, rfl⟩⟩
  · exact ⟨_, rfl⟩

end Result

namespace Demo

def bar (timeframe : Timeframe) (minute : Int) (low high : Decimal) : Candle where
  symbol := "XAUUSD"
  timeframe
  timestamp := minute * 60000000
  «open» := low
  high := max low high
  low
  close := low
  high_highest := by simp
  low_lowest := by simp
  volume_nonneg := le_rfl
  spread_nonneg := le_rfl

theorem longSignal_ordered (_ : SignalAction.long.isEntry = true) (low high : Decimal) (lowIs : some 2000 = some low)
    (highIs : some 2001 = some high) : low ≤ high := by
  cases lowIs
  cases highIs
  norm_num

def longSignal (time : Instant) : TradeSignal where
  symbol := "XAUUSD"
  canonicalSymbol := "XAUUSD"
  action := .long
  strategyId := "always_long"
  strategyVersion := "1"
  entryMin := some 2000
  entryMax := some 2001
  stopLoss := some 1990
  takeProfits := [2020]
  createdAt := time
  signalId := ⟨"long"⟩
  expires_after_creation := by simp
  entry_has_bounds := by simp
  bounds_ordered := longSignal_ordered

def alwaysLong : BacktestEngine where
  strategy :=
    { strategyId := "always_long"
      strategyVersion := "1"
      evaluate := fun _ time _ => .ok (longSignal time) }

def market (third : Candle) : Timeframe → Option (List Candle)
  | .h1 => some [bar .h1 (-60) 2000 2000]
  | .m15 => some [bar .m15 (-15) 2000 2000]
  | .m5 => some [bar .m5 0 2000 2000, bar .m5 5 2000 2001, third]
  | _ => none

def marketData (third : Candle) : PerTimeframe (List Candle) :=
  ⟨[bar .h1 (-60) 2000 2000], [bar .m15 (-15) 2000 2000], [bar .m5 0 2000 2000, bar .m5 5 2000 2001, third]⟩

def touching : Candle := bar .m5 10 1985 1995

def gapping : Candle := bar .m5 10 1975 1985

end Demo

open BacktestEngine.Demo

/-- **The books of a backtest balance**, and a backtest whose strategy answers returns. -/
theorem backtest_books_balance (engine : BacktestEngine) (candles : Timeframe → Option (List Candle))
    (data : PerTimeframe (List Candle)) (accepted : validateData candles = .ok data) :
    (∀ result, engine.run candles = .ok result → ∃ first state, data.m5.head? = some first ∧
      engine.loop data first = .ok state ∧ BooksBalance result (engine.leftOpen state)) ∧
    ((∀ available time direction, ∃ signal, engine.strategy.evaluate available time direction = .ok signal) →
      ∃ result, engine.run candles = .ok result) := by
  constructor
  · intro result returned
    obtain ⟨first, last, state, head, ending, looped, rfl⟩ := run_ok accepted returned
    exact ⟨first, state, head, looped, booksBalance_finish (booked_loop accepted head ending looped)⟩
  · intro answers
    have filled := (validateData_ok accepted).m5_nonempty
    cases head : data.m5.head? with
    | none => exact absurd (List.head?_eq_none_iff.mp head) filled
    | some first =>
      cases ending : data.m5.getLast? with
      | none => exact absurd (List.getLast?_eq_none_iff.mp ending) filled
      | some last =>
        obtain ⟨state, looped⟩ := foldlM_isOk (step_isOk answers data) data.m5 (engine.initial first)
        refine ⟨engine.finish first last state, bind_eq_ok.mpr ⟨data, accepted, ?_⟩⟩
        simp only [head, ending]
        exact bind_eq_ok.mpr ⟨state, looped, rfl⟩

/-- A position that is stopped out, with the signal of the last bar left over. -/
theorem backtest_books_balance_stopped :
    ∃ result, alwaysLong.run (market touching) = .ok result ∧ result.trades.length = 1 ∧
      ∃ leftOpen, BooksBalance result leftOpen := by
  have accepted : validateData (market touching) = .ok (marketData touching) := by rfl
  have books := backtest_books_balance alwaysLong _ _ accepted
  obtain ⟨result, returned⟩ := books.2 fun _ time _ => ⟨longSignal time, rfl⟩
  obtain ⟨_, state, _, _, balanced⟩ := books.1 result returned
  have single : (alwaysLong.run (market touching)).toOption.all (·.trades.length = 1) = true := by
    decide +kernel
  rw [returned] at single
  exact ⟨result, returned, by simpa [Except.toOption] using single, _, balanced⟩

end BacktestEngine

end GoldFlow
