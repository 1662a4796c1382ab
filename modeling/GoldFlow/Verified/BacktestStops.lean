import GoldFlow.Verified.BacktestRuns

/-! # Stops in a backtest

A bar that trades at or beyond the stop of the open position should close it at the stop.
-/

namespace GoldFlow

open Data

namespace BacktestEngine

structure Turn (engine : BacktestEngine) (candles : Timeframe → Option (List Candle)) (before : LoopState)
    (candle : Candle) (after : LoopState) : Prop where
  reached : ∃ data first earlier later, validateData candles = .ok data ∧ data.m5.head? = some first ∧
    data.m5 = earlier ++ candle :: later ∧ earlier.foldlM (engine.step data) (engine.initial first) = .ok before ∧
    engine.step data before candle = .ok after

def StopReached (position : OpenPosition) (candle : Candle) : Prop :=
  match position.direction with
  | .long => candle.low ≤ position.stopLoss
  | .short => position.stopLoss ≤ candle.high

def GapsThrough (position : OpenPosition) (candle : Candle) : Prop :=
  match position.direction with
  | .long => candle.high < position.stopLoss
  | .short => position.stopLoss < candle.low

def StoppedOut (position : OpenPosition) (candle : Candle) (before after : LoopState) : Prop :=
  ∃ trade later, after.trades = before.trades ++ trade :: later ∧ trade.exitReason = .stopLoss ∧
    trade.signalId = position.signal.signalId ∧ trade.openedAt = position.openedAt ∧
    trade.closedAt = candleCloseTime candle

variable {engine : BacktestEngine} {candle : Candle} {state next : LoopState} {position : OpenPosition}

theorem Move.trades (move : Move engine candle state next) : ∃ added, next.trades = state.trades ++ added ∧
    ∀ trade ∈ added, trade.closedAt = candleCloseTime candle ∧ trade.exitReason ≠ .endOfData := by
  cases move with
  | closed rawExit _ reason => exact ⟨_, rfl, by simpa [close] using reason⟩
  | expired => exact ⟨[], by simp⟩
  | filled => exact ⟨[], by simp⟩
  | looked => exact ⟨[], by simp⟩
  | signalled => exact ⟨[], by simp⟩

theorem Moves.trades (moves : Moves engine candle state next) : ∃ added, next.trades = state.trades ++ added ∧
    ∀ trade ∈ added, trade.closedAt = candleCloseTime candle ∧ trade.exitReason ≠ .endOfData := by
  induction moves with
  | refl => exact ⟨[], by simp⟩
  | tail _ move ih =>
    obtain ⟨added, booked, holds⟩ := ih
    obtain ⟨more, moreBooked, moreHolds⟩ := move.trades
    refine ⟨added ++ more, by rw [moreBooked, booked, List.append_assoc], ?_⟩
    intro trade member
    rcases List.mem_append.mp member with member | member
    · exact holds trade member
    · exact moreHolds trade member

theorem trigger_stop_iff (reached : StopReached position candle) :
    (∃ rawExit, trigger position candle = some (rawExit, .stopLoss)) ↔ ¬ GapsThrough position candle := by
  -- together with the reached stop, no gap says that the range contains the stop
  have contained : (candle.low ≤ position.stopLoss ∧ position.stopLoss ≤ candle.high) ↔
      ¬ GapsThrough position candle := by
    unfold StopReached at reached
    unfold GapsThrough
    cases direction : position.direction with
    | long =>
      simp only [direction] at reached
      simp [reached]
    | short =>
      simp only [direction] at reached
      simp [reached]
  rw [← contained]
  unfold trigger
  by_cases hit : candle.low ≤ position.stopLoss ∧ position.stopLoss ≤ candle.high
  · simp [hit]
  · simp only [hit, if_false]
    split <;> simp

theorem first_trade {data : PerTimeframe (List Candle)} (opened : state.position = some position)
    (stepped : engine.step data state candle = .ok next) :
    (∀ rawExit reason, trigger position candle = some (rawExit, reason) →
      ∃ later, next.trades = state.trades ++
        engine.close position candle rawExit reason (candleCloseTime candle) :: later) ∧
    (trigger position candle = none → next.trades = state.trades ∨
      next.trades = state.trades ++
        [engine.close position candle candle.close .strategyExit (candleCloseTime candle)]) := by
  constructor
  · intro rawExit reason triggered
    have exited : engine.exitTriggered candle state =
        state.book (engine.close position candle rawExit reason (candleCloseTime candle)) := by
      simp only [exitTriggered, opened, triggered]
    unfold step at stepped
    rw [exited] at stepped
    obtain ⟨later, booked, _⟩ := Moves.trades ((enterPending_moves _).trans (decideAt_moves stepped))
    exact ⟨later, by simpa [LoopState.book] using booked⟩
  · intro untouched
    have waited : engine.enterPending candle (engine.exitTriggered candle state) = state := by
      simp only [exitTriggered, enterPending, opened, untouched]
    unfold step decideAt at stepped
    rw [waited] at stepped
    dsimp only at stepped
    split at stepped
    · obtain ⟨signal, _, followed⟩ := bind_eq_ok.mp stepped
      cases followed
      unfold follow
      simp only [opened]
      split
      · rename_i same
        cases same
        exact .inr rfl
      all_goals exact .inl rfl
    · cases stepped
      exact .inl rfl

/-- **A position is stopped out by a bar that reaches its stop, unless the bar gaps through it.** -/
theorem stops_honoured_unless_gap (engine : BacktestEngine) (candles : Timeframe → Option (List Candle))
    (candle : Candle) (before after : LoopState) (turn : engine.Turn candles before candle after)
    (position : OpenPosition) (opened : before.position = some position) (reached : StopReached position candle) :
    StoppedOut position candle before after ↔ ¬ GapsThrough position candle := by
  obtain ⟨data, first, earlier, later, _, _, _, _, stepped⟩ := turn.reached
  obtain ⟨exits, stays⟩ := first_trade opened stepped
  rw [← trigger_stop_iff reached]
  constructor
  · rintro ⟨trade, more, booked, reason, _⟩
    cases triggered : trigger position candle with
    | none =>
      -- the strategy may still close the position, but not by its stop
      rcases stays triggered with same | closed
      · simp [same] at booked
      · rw [closed, List.append_cancel_left_eq, List.cons.injEq] at booked
        rw [← booked.1] at reason
        cases reason
    | some exit =>
      obtain ⟨rawExit, why⟩ := exit
      obtain ⟨rest, closed⟩ := exits rawExit why triggered
      rw [closed, List.append_cancel_left_eq, List.cons.injEq] at booked
      rw [← booked.1] at reason
      exact ⟨rawExit, by rw [← reason]; rfl⟩
  · rintro ⟨rawExit, triggered⟩
    obtain ⟨more, closed⟩ := exits rawExit .stopLoss triggered
    exact ⟨_, more, closed, rfl, rfl, rfl, rfl⟩

namespace Demo

def beforeThird (third : Candle) : Except PyError LoopState :=
  [bar .m5 0 2000 2000, bar .m5 5 2000 2001].foldlM (alwaysLong.step (marketData third))
    (alwaysLong.initial (bar .m5 0 2000 2000))

def thirdTurn (third : Candle) : Except PyError (Option (Direction × Decimal) × List ExitReason) := do
  let before ← beforeThird third
  let after ← alwaysLong.step (marketData third) before third
  pure (before.position.map fun position => (position.direction, position.stopLoss),
    after.trades.map (·.exitReason))

theorem turn_of_thirdTurn {third : Candle} {shown : Option (Direction × Decimal) × List ExitReason}
    (accepted : validateData (market third) = .ok (marketData third)) (turned : thirdTurn third = .ok shown) :
    ∃ before after, alwaysLong.Turn (market third) before third after ∧
      shown = (before.position.map fun position => (position.direction, position.stopLoss),
        after.trades.map (·.exitReason)) := by
  obtain ⟨before, folded, rest⟩ := bind_eq_ok.mp turned
  obtain ⟨after, stepped, shownIs⟩ := bind_eq_ok.mp rest
  cases shownIs
  exact ⟨before, after, ⟨_, _, _, [], accepted, rfl, rfl, folded, stepped⟩, rfl⟩

end Demo

open BacktestEngine.Demo

/-- A bar through the stop closes the position. -/
theorem stops_honoured_unless_gap_touching :
    ∃ before after position, alwaysLong.Turn (market touching) before touching after ∧
      before.position = some position ∧ StoppedOut position touching before after := by
  have turned : thirdTurn touching = .ok (some (.long, 1990), [.stopLoss]) := by decide +kernel
  obtain ⟨before, after, turn, shown⟩ := turn_of_thirdTurn rfl turned
  rw [Prod.mk.injEq, eq_comm, Option.map_eq_some_iff] at shown
  obtain ⟨⟨position, opened, values⟩, _⟩ := shown
  rw [Prod.mk.injEq] at values
  refine ⟨before, after, position, turn, opened, ?_⟩
  rw [stops_honoured_unless_gap _ _ _ _ _ turn position opened ?_]
  · simp only [GapsThrough, values.1, values.2]
    decide +kernel
  · simp only [StopReached, values.1, values.2]
    decide +kernel

/-- A bar below the stop leaves the position open. -/
theorem gap_keeps_position_open :
    ∃ before after position, alwaysLong.Turn (market gapping) before gapping after ∧
      before.position = some position ∧ StopReached position gapping ∧
      ¬ StoppedOut position gapping before after := by
  have turned : thirdTurn gapping = .ok (some (.long, 1990), []) := by decide +kernel
  obtain ⟨before, after, turn, shown⟩ := turn_of_thirdTurn rfl turned
  rw [Prod.mk.injEq, eq_comm, Option.map_eq_some_iff] at shown
  obtain ⟨⟨position, opened, values⟩, noTrade⟩ := shown
  rw [Prod.mk.injEq] at values
  refine ⟨before, after, position, turn, opened, ?_, ?_⟩
  · simp only [StopReached, values.1, values.2]
    decide +kernel
  · rintro ⟨trade, later, booked, _⟩
    rw [booked] at noTrade
    simp at noTrade

end BacktestEngine

end GoldFlow
