import GoldFlow.Verified.BacktestStops

/-! # No look-ahead -/

namespace GoldFlow

open Data

/-! ## Data up to an instant -/

def knownAt (time : Instant) (series : List Candle) : List Candle :=
  series.filter fun candle => candleCloseTime candle ≤ time

variable {time : Instant} {series : List Candle}

theorem closed_of_knownAt {candle : Candle} (member : candle ∈ knownAt time series) :
    candleCloseTime candle ≤ time := by
  simpa using (List.mem_filter.mp member).2

theorem knownAt_append (time : Instant)
    (increasing : series.Pairwise fun first second => candleCloseTime first < candleCloseTime second) :
    ∃ later, series = knownAt time series ++ later ∧ ∀ candle ∈ later, time < candleCloseTime candle := by
  induction series with
  | nil => exact ⟨[], rfl, by simp⟩
  | cons candle rest ih =>
    rw [List.pairwise_cons] at increasing
    by_cases known : candleCloseTime candle ≤ time
    · obtain ⟨later, split, after⟩ := ih increasing.2
      refine ⟨later, ?_, after⟩
      simp only [knownAt, List.filter_cons, known, decide_true, if_true, List.cons_append, List.cons.injEq, true_and]
      exact split
    · -- the first unknown candle and all that follow it
      have after : ∀ other ∈ candle :: rest, time < candleCloseTime other := by
        intro other member
        rcases List.mem_cons.mp member with rfl | member
        · exact not_le.mp known
        · exact (not_le.mp known).trans (increasing.1 other member)
      have nothing : knownAt time (candle :: rest) = [] := by
        simpa [knownAt] using after
      exact ⟨candle :: rest, by rw [nothing, List.nil_append], after⟩

theorem knownAt_eq {given other series otherSeries : List Candle} (selects : Selects given series)
    (otherSelects : Selects other otherSeries)
    (same : ∀ candle, candleCloseTime candle ≤ time → (candle ∈ given ↔ candle ∈ other)) :
    knownAt time series = knownAt time otherSeries := by
  let earlier : Candle → Candle → Prop := fun first second => candleCloseTime first < candleCloseTime second
  have increasing : (knownAt time series).Pairwise earlier := selects.increasing.filter _
  have otherIncreasing : (knownAt time otherSeries).Pairwise earlier := otherSelects.increasing.filter _
  apply increasing.eq_of_mem_iff otherIncreasing
  intro candle
  simp only [knownAt, List.mem_filter, decide_eq_true_eq, selects.members, otherSelects.members]
  constructor
  · rintro ⟨⟨member, complete⟩, closed⟩
    exact ⟨⟨(same candle closed).mp member, complete⟩, closed⟩
  · rintro ⟨⟨member, complete⟩, closed⟩
    exact ⟨⟨(same candle closed).mpr member, complete⟩, closed⟩

namespace BacktestEngine

section Cursors

variable {time decisionTime : Instant} {known later : List Candle} {reached : Nat}

theorem advance_known (decided : decisionTime ≤ time) (after : ∀ candle ∈ later, time < candleCloseTime candle)
    (within : reached ≤ known.length) :
    advance decisionTime (known ++ later) reached = advance decisionTime known reached := by
  have stops : later.takeWhile (fun candle => candleCloseTime candle ≤ decisionTime) = [] := by
    cases later with
    | nil => rfl
    | cons candle =>
      have unknown : ¬ candleCloseTime candle ≤ decisionTime :=
        not_le.mpr (decided.trans_lt (after candle List.mem_cons_self))
      simp [unknown]
  rw [advance, List.drop_append_of_le_length within, List.takeWhile_append, stops, List.append_nil, advance]
  split
  · rename_i whole
    rw [whole]
  · rfl

theorem advance_le (within : reached ≤ known.length) : advance decisionTime known reached ≤ known.length := by
  have shorter := (List.takeWhile_sublist (fun candle => decide (candleCloseTime candle ≤ decisionTime))
    (l := known.drop reached)).length_le
  rw [List.length_drop] at shorter
  unfold advance
  omega

theorem window_known (engine : BacktestEngine) (later : List Candle) (within : reached ≤ known.length) :
    engine.window (known ++ later) reached = engine.window known reached := by
  rw [window, List.take_append_of_le_length within, window]

end Cursors

structure Within (data : PerTimeframe (List Candle)) (ends : PerTimeframe Nat) : Prop where
  h1 : ends.h1 ≤ data.h1.length
  m15 : ends.m15 ≤ data.m15.length
  m5 : ends.m5 ≤ data.m5.length

structure Increasing (data : PerTimeframe (List Candle)) : Prop where
  h1 : data.h1.Pairwise fun first second => candleCloseTime first < candleCloseTime second
  m15 : data.m15.Pairwise fun first second => candleCloseTime first < candleCloseTime second
  m5 : data.m5.Pairwise fun first second => candleCloseTime first < candleCloseTime second

variable {engine : BacktestEngine} {data : PerTimeframe (List Candle)} {time : Instant} {candle : Candle}
  {state next : LoopState} {candles : List Candle}

theorem available_known (engine : BacktestEngine) (increasing : Increasing data) {decisionTime : Instant}
    (decided : decisionTime ≤ time)
    {ends : PerTimeframe Nat} (within : Within (data.map (knownAt time)) ends) :
    advanceEnds data decisionTime ends = advanceEnds (data.map (knownAt time)) decisionTime ends ∧
      Within (data.map (knownAt time)) (advanceEnds data decisionTime ends) ∧
      engine.available data (advanceEnds data decisionTime ends) =
        engine.available (data.map (knownAt time)) (advanceEnds data decisionTime ends) := by
  obtain ⟨h1Later, h1Split, h1After⟩ := knownAt_append time increasing.h1
  obtain ⟨m15Later, m15Split, m15After⟩ := knownAt_append time increasing.m15
  obtain ⟨m5Later, m5Split, m5After⟩ := knownAt_append time increasing.m5
  have h1Ends := advance_known decided h1After within.h1
  have m15Ends := advance_known decided m15After within.m15
  have m5Ends := advance_known decided m5After within.m5
  simp only [PerTimeframe.map] at h1Ends m15Ends m5Ends
  rw [← h1Split] at h1Ends
  rw [← m15Split] at m15Ends
  rw [← m5Split] at m5Ends
  have same : advanceEnds data decisionTime ends = advanceEnds (data.map (knownAt time)) decisionTime ends := by
    simp only [advanceEnds, PerTimeframe.map, h1Ends, m15Ends, m5Ends]
  have inside : Within (data.map (knownAt time)) (advanceEnds data decisionTime ends) := by
    rw [same]
    exact ⟨advance_le within.h1, advance_le within.m15, advance_le within.m5⟩
  refine ⟨same, inside, ?_⟩
  have h1Window := window_known engine h1Later inside.h1
  have m15Window := window_known engine m15Later inside.m15
  have m5Window := window_known engine m5Later inside.m5
  simp only [PerTimeframe.map] at h1Window m15Window m5Window
  rw [← h1Split] at h1Window
  rw [← m15Split] at m15Window
  rw [← m5Split] at m5Window
  simp only [available, PerTimeframe.map, h1Window, m15Window, m5Window]

theorem availableEnds_exitTriggered (state : LoopState) :
    (engine.exitTriggered candle state).availableEnds = state.availableEnds := by
  unfold exitTriggered
  split
  · rfl
  · split <;> rfl

theorem availableEnds_enterPending (state : LoopState) :
    (engine.enterPending candle state).availableEnds = state.availableEnds := by
  unfold enterPending
  split
  · split
    · rfl
    · split
      · rfl
      · rw [availableEnds_exitTriggered]
  · rfl

theorem availableEnds_follow (signal : TradeSignal) (state : LoopState) :
    (engine.follow candle signal state).availableEnds = state.availableEnds := by
  unfold follow
  split <;> rfl

theorem availableEnds_beforeDecision (state : LoopState) :
    (engine.enterPending candle (engine.exitTriggered candle state)).availableEnds = state.availableEnds := by
  rw [availableEnds_enterPending, availableEnds_exitTriggered]

section

variable (increasing : Increasing data) (closed : candleCloseTime candle ≤ time)
    (within : Within (data.map (knownAt time)) state.availableEnds)
include increasing closed within

/-- **A turn at a known bar only uses known data.** -/
theorem step_known : engine.step data state candle = engine.step (data.map (knownAt time)) state candle := by
  obtain ⟨sameEnds, _, sameWindows⟩ := available_known engine increasing closed within
  simp only [step, decideAt, availableEnds_beforeDecision, ← sameEnds, sameWindows]

theorem within_step (stepped : engine.step data state candle = .ok next) :
    Within (data.map (knownAt time)) next.availableEnds := by
  obtain ⟨_, inside, _⟩ := available_known engine increasing closed within
  simp only [step, decideAt, availableEnds_beforeDecision] at stepped
  split at stepped
  · obtain ⟨signal, _, followed⟩ := bind_eq_ok.mp stepped
    cases followed
    rw [availableEnds_follow]
    exact inside
  · cases stepped
    exact inside

end

/-- **The loop over known bars only uses known data.** -/
theorem fold_known (increasing : Increasing data) (closed : ∀ candle ∈ candles, candleCloseTime candle ≤ time)
    (within : Within (data.map (knownAt time)) state.availableEnds) :
    candles.foldlM (engine.step data) state = candles.foldlM (engine.step (data.map (knownAt time))) state := by
  induction candles generalizing state with
  | nil => rfl
  | cons candle rest ih =>
    have candleClosed := closed candle List.mem_cons_self
    rw [List.foldlM_cons, List.foldlM_cons, ← step_known increasing candleClosed within]
    cases stepped : engine.step data state candle with
    | error => rfl
    | ok =>
      exact ih (fun other member => closed other (List.mem_cons_of_mem _ member))
        (within_step increasing candleClosed within stepped)

/-! ## Trades up to an instant -/

def settledBy (time : Instant) (trade : BacktestTrade) : Bool :=
  trade.closedAt ≤ time ∧ trade.exitReason ≠ .endOfData

theorem settled_step (stepped : engine.step data state candle = .ok next) (after : time < candleCloseTime candle) :
    next.trades.filter (settledBy time) = state.trades.filter (settledBy time) := by
  obtain ⟨added, booked, closed⟩ := Moves.trades (step_moves stepped)
  have nothing : added.filter (settledBy time) = [] := by
    rw [List.filter_eq_nil_iff]
    intro trade member
    simp [settledBy, (closed trade member).1, after]
  rw [booked, List.filter_append, nothing, List.append_nil]

theorem settled_fold (after : ∀ candle ∈ candles, time < candleCloseTime candle)
    (folded : candles.foldlM (engine.step data) state = .ok next) :
    next.trades.filter (settledBy time) = state.trades.filter (settledBy time) := by
  induction candles generalizing state with
  | nil =>
    cases folded
    rfl
  | cons candle rest ih =>
    obtain ⟨middle, stepped, folded⟩ := bind_eq_ok.mp folded
    rw [ih (fun other member => after other (List.mem_cons_of_mem _ member)) folded,
      settled_step stepped (after candle List.mem_cons_self)]

theorem settled_finish (first last : Candle) (state : LoopState) :
    (engine.finish first last state).trades.filter (settledBy time) = state.trades.filter (settledBy time) := by
  simp only [finish, closeAtEnd]
  split
  · split
    · simp [LoopState.book, settledBy, close]
    · rfl
  · rfl

theorem settled_run (time : Instant) {candles : Timeframe → Option (List Candle)} {result : BacktestResult}
    (accepted : validateData candles = .ok data) (returned : engine.run candles = .ok result) :
    ∃ first state, data.m5.head? = some first ∧
      (knownAt time data.m5).foldlM (engine.step (data.map (knownAt time))) (engine.initial first) = .ok state ∧
      result.trades.filter (settledBy time) = state.trades.filter (settledBy time) := by
  obtain ⟨first, last, final, head, _, looped, rfl⟩ := run_ok accepted returned
  have valid := validateData_ok accepted
  have increasing : Increasing data := ⟨valid.h1.increasing, valid.m15.increasing, valid.m5.increasing⟩
  obtain ⟨later, split, after⟩ := knownAt_append time increasing.m5
  rw [loop, split, List.foldlM_append] at looped
  obtain ⟨state, early, late⟩ := bind_eq_ok.mp looped
  refine ⟨first, state, head, ?_, ?_⟩
  · rw [← fold_known increasing (fun candle => closed_of_knownAt) ⟨Nat.zero_le _, Nat.zero_le _, Nat.zero_le _⟩]
    exact early
  · rw [settled_finish, settled_fold after late]

def SameUntil (time : Instant) (candles others : Timeframe → Option (List Candle)) : Prop :=
  ∀ timeframe ∈ required, ∀ candle, candleCloseTime candle ≤ time →
    (candle ∈ (candles timeframe).getD [] ↔ candle ∈ (others timeframe).getD [])

theorem known_eq {candles others : Timeframe → Option (List Candle)} {otherData : PerTimeframe (List Candle)}
    (accepted : Accepted candles data) (otherAccepted : Accepted others otherData)
    (same : SameUntil time candles others) : data.map (knownAt time) = otherData.map (knownAt time) := by
  simp only [PerTimeframe.map, PerTimeframe.mk.injEq]
  exact ⟨knownAt_eq accepted.h1 otherAccepted.h1 (same .h1 (by simp [required])),
    knownAt_eq accepted.m15 otherAccepted.m15 (same .m15 (by simp [required])),
    knownAt_eq accepted.m5 otherAccepted.m5 (same .m5 (by simp [required]))⟩

namespace Demo

def extended (fourth : Candle) : Timeframe → Option (List Candle)
  | .h1 => some [bar .h1 (-60) 2000 2000]
  | .m15 => some [bar .m15 (-15) 2000 2000]
  | .m5 => some [bar .m5 0 2000 2000, bar .m5 5 2000 2001, touching, fourth]
  | _ => none

theorem extended_sameUntil (fourth other : Candle) (after : time < candleCloseTime fourth)
    (otherAfter : time < candleCloseTime other) : SameUntil time (extended fourth) (extended other) := by
  intro timeframe _ candle closed
  have notFourth : candle ≠ fourth := by
    rintro rfl
    exact absurd closed (not_le.mpr after)
  have notOther : candle ≠ other := by
    rintro rfl
    exact absurd closed (not_le.mpr otherAfter)
  cases timeframe <;> simp [extended, notFourth, notOther]

end Demo

open BacktestEngine.Demo

/-- **No look-ahead**: the trades up to an instant depend on the candles up to it. -/
theorem no_look_ahead (engine : BacktestEngine) (time : Instant) (candles others : Timeframe → Option (List Candle))
    (data otherData : PerTimeframe (List Candle)) (accepted : validateData candles = .ok data)
    (otherAccepted : validateData others = .ok otherData) (same : SameUntil time candles others)
    (result otherResult : BacktestResult) (returned : engine.run candles = .ok result)
    (otherReturned : engine.run others = .ok otherResult) :
    result.trades.filter (settledBy time) = otherResult.trades.filter (settledBy time) := by
  have known := known_eq (validateData_ok accepted) (validateData_ok otherAccepted) same
  have knownM5 : knownAt time data.m5 = knownAt time otherData.m5 := congrArg PerTimeframe.m5 known
  obtain ⟨first, state, head, folded, settled⟩ := settled_run time accepted returned
  obtain ⟨otherFirst, otherState, otherHead, otherFolded, otherSettled⟩ :=
    settled_run time otherAccepted otherReturned
  rw [settled, otherSettled]
  rw [← known, ← knownM5] at otherFolded
  obtain ⟨later, split, _⟩ := knownAt_append time (validateData_ok accepted).m5.increasing
  obtain ⟨otherLater, otherSplit, _⟩ := knownAt_append time (validateData_ok otherAccepted).m5.increasing
  rw [← knownM5] at otherSplit
  cases bars : knownAt time data.m5 with
  | nil =>
    -- nothing is closed by then, so nothing is booked
    rw [bars] at folded otherFolded
    cases folded
    cases otherFolded
    rfl
  | cons bar rest =>
    -- both runs start at the same bar
    rw [bars] at split otherSplit
    rw [split, List.cons_append, List.head?_cons, Option.some.injEq] at head
    rw [otherSplit, List.cons_append, List.head?_cons, Option.some.injEq] at otherHead
    rw [← head, otherHead] at folded
    rw [folded, Except.ok.injEq] at otherFolded
    rw [otherFolded]

/-- Whatever the fourth bar is, the trade of the third is the same. -/
theorem no_look_ahead_fourth_bar :
    ∃ result otherResult, alwaysLong.run (extended (Demo.bar .m5 15 1995 1999)) = .ok result ∧
      alwaysLong.run (extended (Demo.bar .m5 15 2000 2030)) = .ok otherResult ∧
      result.trades.filter (settledBy 900000000) = otherResult.trades.filter (settledBy 900000000) ∧
      result.trades ≠ otherResult.trades := by
  have returned : (alwaysLong.run (extended (Demo.bar .m5 15 1995 1999))).toOption.any
      (·.trades.length = 1) = true := by decide +kernel
  have otherReturned : (alwaysLong.run (extended (Demo.bar .m5 15 2000 2030))).toOption.any
      (·.trades.length = 2) = true := by decide +kernel
  obtain ⟨result, made, single⟩ := ok_of_any returned
  obtain ⟨otherResult, otherMade, double⟩ := ok_of_any otherReturned
  refine ⟨result, otherResult, made, otherMade, ?_, ?_⟩
  · apply no_look_ahead alwaysLong 900000000 _ _ _ _ rfl rfl ?_ result otherResult made otherMade
    exact extended_sameUntil _ _ (by decide) (by decide)
  · intro same
    simp only [decide_eq_true_eq] at single double
    rw [same, double] at single
    cases single

end BacktestEngine

end GoldFlow
