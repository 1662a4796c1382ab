import GoldFlow.Backtest.Models
import GoldFlow.Data.Padded
import Mathlib.Data.List.Induction
import Mathlib.Data.List.Sort
import Mathlib.Order.Bounds.Basic
import Mathlib.Algebra.Order.Field.Basic
import Mathlib.Tactic.FieldSimp
import Mathlib.Tactic.Linarith

/-! # Figures of a backtest

The code computes in floats. The sums of the periods are functions of the number type, so that they run in floats
and can be compared with exact numbers; the drawdown and the streaks are over exact numbers.
-/

namespace GoldFlow

/-- The values of `_drawdown`'s loop. -/
structure DrawdownState where
  peak : Decimal
  maximumAmount : Decimal
  maximumFraction : Decimal

def drawdownStep (state : DrawdownState) (equity : Decimal) : DrawdownState :=
  let peak := max state.peak equity
  let amount := peak - equity
  { peak
    maximumAmount := max state.maximumAmount amount
    maximumFraction := max state.maximumFraction (if peak > 0 then amount / peak else 0) }

/-- `_drawdown`: the largest fall as an amount and as a fraction. -/
def drawdown (curve : List EquityPoint) : Decimal × Decimal :=
  match curve with
  | [] => (0, 0)
  | first :: _ =>
    let final := (curve.map (·.equity)).foldl drawdownStep ⟨first.equity, 0, 0⟩
    (final.maximumAmount, final.maximumFraction)

/-- The value `low` is reached at or after the value `high`. -/
def FallsTo (values : List Decimal) (high low : Decimal) : Prop :=
  ∃ i j : Nat, i ≤ j ∧ values[i]? = some high ∧ values[j]? = some low

def drops (figure : Decimal → Decimal → Decimal) (values : List Decimal) : Set Decimal :=
  {drop | ∃ high low, FallsTo values high low ∧ drop = figure high low}

variable {values : List Decimal} {high low equity : Decimal}

theorem FallsTo.mem (falls : FallsTo values high low) : high ∈ values ∧ low ∈ values := by
  obtain ⟨i, j, _, first, last⟩ := falls
  exact ⟨List.mem_of_getElem? first, List.mem_of_getElem? last⟩

theorem fallsTo_append :
    FallsTo (values ++ [equity]) high low ↔ FallsTo values high low ∨ high ∈ values ++ [equity] ∧ low = equity := by
  constructor
  · rintro ⟨i, j, ordered, first, last⟩
    by_cases inside : j < values.length
    · rw [List.getElem?_append_left inside] at last
      rw [List.getElem?_append_left (ordered.trans_lt inside)] at first
      exact .inl ⟨i, j, ordered, first, last⟩
    · have final : j = values.length := by
        have := (List.getElem?_eq_some_iff.mp last).1
        simp at this
        omega
      subst final
      exact .inr ⟨List.mem_of_getElem? first, by simpa using last.symm⟩
  · rintro (⟨i, j, ordered, first, last⟩ | ⟨member, rfl⟩)
    · have inside := (List.getElem?_eq_some_iff.mp last).1
      exact ⟨i, j, ordered, by rw [List.getElem?_append_left (ordered.trans_lt inside), first],
        by rw [List.getElem?_append_left inside, last]⟩
    · obtain ⟨i, found⟩ := List.mem_iff_getElem?.mp member
      have inside := (List.getElem?_eq_some_iff.mp found).1
      exact ⟨i, values.length, by simp at inside; omega, found, by simp⟩

theorem isGreatest_append {figure : Decimal → Decimal → Decimal} {peak drop : Decimal}
    (highest : IsGreatest {value | value ∈ values ++ [equity]} peak) (largest : IsGreatest (drops figure values) drop)
    (grows : ∀ high ∈ values ++ [equity], figure high equity ≤ figure peak equity) :
    IsGreatest (drops figure (values ++ [equity])) (max drop (figure peak equity)) := by
  constructor
  · rcases max_choice drop (figure peak equity) with same | same
    · obtain ⟨high, low, falls, found⟩ := largest.1
      exact ⟨high, low, fallsTo_append.mpr (.inl falls), same.trans found⟩
    · exact ⟨peak, equity, fallsTo_append.mpr (.inr ⟨highest.1, rfl⟩), same⟩
  · rintro _ ⟨high, low, falls, rfl⟩
    rcases fallsTo_append.mp falls with earlier | ⟨member, rfl⟩
    · exact (largest.2 ⟨high, low, earlier, rfl⟩).trans (le_max_left _ _)
    · exact (grows high member).trans (le_max_right _ _)

/-- What the loop has found in the values it has passed. -/
structure Tracks (values : List Decimal) (state : DrawdownState) : Prop where
  peak : IsGreatest {value | value ∈ values} state.peak
  amount : IsGreatest (drops (fun high low => high - low) values) state.maximumAmount
  fraction : IsGreatest (drops (fun high low => (high - low) / high) values) state.maximumFraction

theorem Tracks.step {state : DrawdownState} (tracks : Tracks values state)
    (positive : ∀ value ∈ values ++ [equity], 0 < value) : Tracks (values ++ [equity]) (drawdownStep state equity) := by
  have highest : IsGreatest {value | value ∈ values ++ [equity]} (max state.peak equity) := by
    constructor
    · rcases max_choice state.peak equity with same | same
      · rw [same]
        exact List.mem_append_left _ tracks.peak.1
      · simp [same]
    · intro value member
      rcases List.mem_append.mp member with earlier | last
      · exact (tracks.peak.2 earlier).trans (le_max_left _ _)
      · exact (List.mem_singleton.mp last).le.trans (le_max_right _ _)
  have above : 0 < max state.peak equity := positive _ highest.1
  refine ⟨highest, isGreatest_append highest tracks.amount ?_, ?_⟩
  · intro high member
    exact sub_le_sub_right (highest.2 member) equity
  · simp only [drawdownStep, above]
    apply isGreatest_append highest tracks.fraction
    intro high member
    have := positive equity (by simp)
    rw [sub_div, sub_div, div_self (positive high member).ne', div_self above.ne']
    exact sub_le_sub_left (div_le_div_of_nonneg_left this.le (positive high member) (highest.2 member)) 1

/-- **The loop finds the largest fall**, as an amount and as a fraction. -/
theorem drawdown_isGreatest {curve : List EquityPoint} (started : curve ≠ [])
    (positive : ∀ value ∈ curve.map (·.equity), 0 < value) :
    IsGreatest (drops (fun high low => high - low) (curve.map (·.equity))) (drawdown curve).1 ∧
      IsGreatest (drops (fun high low => (high - low) / high) (curve.map (·.equity))) (drawdown curve).2 := by
  obtain ⟨first, rest, rfl⟩ := List.exists_cons_of_ne_nil started
  simp only [List.map_cons] at positive ⊢
  suffices tracks : ∀ rest : List Decimal, (∀ value ∈ first.equity :: rest, 0 < value) →
      Tracks (first.equity :: rest) ((first.equity :: rest).foldl drawdownStep ⟨first.equity, 0, 0⟩) by
    exact ⟨(tracks _ positive).amount, (tracks _ positive).fraction⟩
  intro rest positive
  induction rest using List.reverseRecOn with
  | nil =>
    have above := positive first.equity (by simp)
    have single : ∀ {high low}, FallsTo [first.equity] high low → high = first.equity ∧ low = first.equity := by
      intro high low falls
      simpa using falls.mem
    have self : FallsTo [first.equity] first.equity first.equity := ⟨0, 0, le_rfl, rfl, rfl⟩
    refine ⟨by simp [drawdownStep], ⟨⟨_, _, self, ?_⟩, ?_⟩, ⟨⟨_, _, self, ?_⟩, ?_⟩⟩
    · simp [drawdownStep]
    · rintro _ ⟨high, low, falls, rfl⟩
      simp [drawdownStep, single falls]
    · simp [drawdownStep]
    · rintro _ ⟨high, low, falls, rfl⟩
      simp [drawdownStep, single falls]
  | append_singleton rest equity ih =>
    rw [← List.cons_append, List.foldl_append]
    exact (ih fun value member => positive value (List.mem_append_left [equity] member)).step positive

/-! ## Streaks -/

/-- The counters of `_streaks`. -/
structure StreakState where
  longestWins : Nat := 0
  longestLosses : Nat := 0
  currentWins : Nat := 0
  currentLosses : Nat := 0

def streakStep (state : StreakState) (value : Decimal) : StreakState :=
  let (currentWins, currentLosses) :=
    if value > 0 then (state.currentWins + 1, 0)
    else if value < 0 then (0, state.currentLosses + 1)
    else (0, 0)
  { longestWins := max state.longestWins currentWins
    longestLosses := max state.longestLosses currentLosses
    currentWins, currentLosses }

def streaks (values : List Decimal) : Nat × Nat :=
  let final := values.foldl streakStep {}
  (final.longestWins, final.longestLosses)

/-- The lengths of the runs of values with a property. -/
def runLengths (holds : Decimal → Prop) (values : List Decimal) : Set Nat :=
  {length | ∃ run, run <:+: values ∧ (∀ value ∈ run, holds value) ∧ run.length = length}

/-- The longest run so far, and the longest one that still goes on. -/
structure Counts (holds : Decimal → Prop) (values : List Decimal) (current longest : Nat) : Prop where
  current : IsGreatest {length | ∃ run, run <:+ values ∧ (∀ value ∈ run, holds value) ∧ run.length = length} current
  longest : IsGreatest (runLengths holds values) longest

theorem counts_nil (holds : Decimal → Prop) : Counts holds [] 0 0 := by
  constructor <;> exact ⟨⟨[], by simp, by simp, rfl⟩, by rintro _ ⟨run, inside, _, rfl⟩; simp_all⟩

theorem Counts.step {holds : Decimal → Prop} {current longest next : Nat} {value : Decimal}
    (counts : Counts holds values current longest) (goesOn : holds value → next = current + 1)
    (breaks : ¬ holds value → next = 0) : Counts holds (values ++ [value]) next (max longest next) := by
  have ongoing : IsGreatest {length | ∃ run, run <:+ values ++ [value] ∧ (∀ value ∈ run, holds value) ∧
      run.length = length} next := by
    by_cases held : holds value
    · rw [goesOn held]
      obtain ⟨⟨run, inside, all, rfl⟩, greatest⟩ := counts.current
      refine ⟨⟨run ++ [value], List.suffix_concat_iff.mpr (.inr ⟨run, rfl, inside⟩), ?_, by simp⟩, ?_⟩
      · rw [List.forall_mem_append, List.forall_mem_singleton]
        exact ⟨all, held⟩
      · rintro _ ⟨other, inside, all, rfl⟩
        rcases List.suffix_concat_iff.mp inside with rfl | ⟨earlier, rfl, before⟩
        · exact Nat.zero_le _
        · rw [List.forall_mem_append] at all
          simpa using greatest ⟨earlier, before, all.1, rfl⟩
    · rw [breaks held]
      refine ⟨⟨[], by simp, by simp, rfl⟩, ?_⟩
      rintro _ ⟨run, inside, all, rfl⟩
      rcases List.suffix_concat_iff.mp inside with rfl | ⟨earlier, rfl, _⟩
      · rfl
      · exact absurd (all value (by simp)) held
  refine ⟨ongoing, ?_, ?_⟩
  · rcases max_choice longest next with same | same <;> rw [same]
    · obtain ⟨run, inside, all, length⟩ := counts.longest.1
      exact ⟨run, List.infix_concat_iff.mpr (.inr inside), all, length⟩
    · obtain ⟨run, inside, all, length⟩ := ongoing.1
      exact ⟨run, inside.isInfix, all, length⟩
  · rintro _ ⟨run, inside, all, rfl⟩
    rcases List.infix_concat_iff.mp inside with last | earlier
    · exact (ongoing.2 ⟨run, last, all, rfl⟩).trans (le_max_right _ _)
    · exact (counts.longest.2 ⟨run, earlier, all, rfl⟩).trans (le_max_left _ _)

theorem streaks_counts (values : List Decimal) :
    Counts (0 < ·) values (values.foldl streakStep {}).currentWins (values.foldl streakStep {}).longestWins ∧
      Counts (· < 0) values (values.foldl streakStep {}).currentLosses (values.foldl streakStep {}).longestLosses := by
  induction values using List.reverseRecOn with
  | nil => exact ⟨counts_nil _, counts_nil _⟩
  | append_singleton values value ih =>
    rw [List.foldl_append, List.foldl_cons, List.foldl_nil]
    refine ⟨ih.1.step ?_ ?_, ih.2.step ?_ ?_⟩ <;> intro sign <;> simp only [streakStep]
    · rw [if_pos sign]
    · rw [if_neg sign]
      split <;> rfl
    · rw [if_neg (not_lt.mpr sign.le), if_pos sign]
    · rw [if_neg sign]
      split <;> rfl

/-! ## Profits of the periods -/

/-- `date().isoformat()`, year and week of `isocalendar()`, and `strftime("%Y-%m")`. -/
structure Calendar where
  isoDate : Instant → String
  isoWeek : Instant → Int × Nat
  yearMonth : Instant → String

inductive Period where
  | daily | weekly | monthly

/-- What the sums read of a trade. -/
structure TradePnl (N : Type) where
  closedAt : Instant
  netPnl : N

/-- `_period_key` -/
def periodKey (calendar : Calendar) (closedAt : Instant) : Period → String
  | .daily => calendar.isoDate closedAt
  | .weekly =>
    let (year, week) := calendar.isoWeek closedAt
    toString year ++ "-W" ++ zeroPadded 2 week
  | .monthly => calendar.yearMonth closedAt

section Sums

variable {N : Type} [Zero N] [Add N] [Sub N] [Div N] [LT N] [DecidableLT N]

/-- `grouped[key] += pnl` -/
def addTo (key : String) (pnl : N) : List (String × N) → List (String × N)
  | [] => [(key, 0 + pnl)]
  | (other, total) :: rest =>
    if other = key then (other, total + pnl) :: rest else (other, total) :: addTo key pnl rest

/-- `_period_pnl` -/
def periodPnl (calendar : Calendar) (trades : List (TradePnl N)) (period : Period) : List (String × N) :=
  (trades.foldl (fun grouped trade => addTo (periodKey calendar trade.closedAt period) trade.netPnl grouped)
    []).insertionSort fun first second => first.1 ≤ second.1

/-- The returns of `_period_returns`, from the balance before a period. -/
def returnsFrom : N → List (String × N) → List (String × N)
  | _, [] => []
  | balance, (key, pnl) :: rest =>
    (key, if balance < 0 ∨ 0 < balance then pnl / balance else 0) :: returnsFrom (balance + pnl) rest

def periodReturns (calendar : Calendar) (trades : List (TradePnl N)) (initialBalance : N) (period : Period) :
    List (String × N) :=
  returnsFrom initialBalance (periodPnl calendar trades period)

/-- One addition of `sum`, which keeps the total and what its additions have lost. -/
def sumStep (state : N × N) (value : N) : N × N :=
  let size := fun value : N => if value < 0 then 0 - value else value
  let total := state.1 + value
  (total, state.2 + if size state.1 < size value then value - total + state.1 else state.1 - total + value)

/-- `sum(values)` -/
def pySum (values : List N) : N :=
  let final := values.foldl sumStep (0, 0)
  final.1 + final.2

/-- `sum(trade.net_pnl for trade in trades)` -/
def netProfit (trades : List (TradePnl N)) : N := pySum (trades.map (·.netPnl))

end Sums

theorem pySum_eq (values : List Decimal) : pySum values = values.sum := by
  have loses : ∀ total, values.foldl sumStep (total, 0) = (total + values.sum, 0) := by
    induction values with
    | nil => simp
    | cons value rest ih =>
      intro total
      have step : sumStep (total, 0) value = (total + value, 0) := by simp [sumStep]
      rw [List.foldl_cons, step, ih, List.sum_cons, add_assoc]
  simp [pySum, loses]

theorem sum_addTo (key : String) (pnl : Decimal) (grouped : List (String × Decimal)) :
    ((addTo key pnl grouped).map (·.2)).sum = (grouped.map (·.2)).sum + pnl := by
  induction grouped with
  | nil => simp [addTo]
  | cons entry rest ih =>
    unfold addTo
    split
    · simp only [List.map_cons, List.sum_cons]
      ring
    · simp only [List.map_cons, List.sum_cons, ih]
      ring

theorem sum_periodPnl (calendar : Calendar) (trades : List (TradePnl Decimal)) (period : Period) :
    ((periodPnl calendar trades period).map (·.2)).sum = netProfit trades := by
  have grouped : ∀ grouped : List (String × Decimal), ((trades.foldl (fun grouped trade =>
      addTo (periodKey calendar trade.closedAt period) trade.netPnl grouped) grouped).map (·.2)).sum =
        (grouped.map (·.2)).sum + (trades.map (·.netPnl)).sum := by
    induction trades with
    | nil => simp
    | cons trade rest ih =>
      intro grouped
      rw [List.foldl_cons, ih, sum_addTo, List.map_cons, List.sum_cons]
      ring
  rw [periodPnl, ((List.perm_insertionSort _ _).map _).sum_eq, grouped, List.map_nil, List.sum_nil, zero_add, netProfit,
    pySum_eq]

theorem prod_returnsFrom {balance : Decimal} {pnls : List (String × Decimal)} (started : balance ≠ 0)
    (solvent : ∀ k < pnls.length, balance + ((pnls.map (·.2)).take k).sum ≠ 0) :
    ((returnsFrom balance pnls).map (1 + ·.2)).prod = (balance + (pnls.map (·.2)).sum) / balance := by
  induction pnls generalizing balance with
  | nil => simp [returnsFrom, started]
  | cons entry rest ih =>
    simp only [returnsFrom, lt_or_gt_of_ne started, if_true, List.map_cons, List.prod_cons, List.sum_cons]
    cases rest with
    | nil =>
      simp only [returnsFrom, List.map_nil, List.prod_nil, List.sum_nil]
      field_simp
      ring
    | cons =>
      have later : balance + entry.2 ≠ 0 := by simpa using solvent 1 (by simp)
      rw [ih later]
      · field_simp
        ring
      · intro k inside
        simpa [add_assoc] using solvent (k + 1) (by simpa using inside)

/-- **Computed exactly, the figures of a backtest match their definitions.** -/
theorem performance_figures (curve : List EquityPoint) (values : List Decimal) (calendar : Calendar)
    (trades : List (TradePnl Decimal)) (initialBalance : Decimal) (period : Period) :
    (curve ≠ [] → (∀ value ∈ curve.map (·.equity), 0 < value) →
      IsGreatest (drops (fun high low => high - low) (curve.map (·.equity))) (drawdown curve).1 ∧
      IsGreatest (drops (fun high low => (high - low) / high) (curve.map (·.equity))) (drawdown curve).2) ∧
    IsGreatest (runLengths (0 < ·) values) (streaks values).1 ∧
      IsGreatest (runLengths (· < 0) values) (streaks values).2 ∧
    ((periodPnl calendar trades period).map (·.2)).sum = netProfit trades ∧
    (initialBalance ≠ 0 → (∀ k < (periodPnl calendar trades period).length,
        initialBalance + (((periodPnl calendar trades period).map (·.2)).take k).sum ≠ 0) →
      ((periodReturns calendar trades initialBalance period).map (1 + ·.2)).prod =
        (initialBalance + netProfit trades) / initialBalance) := by
  refine ⟨fun started positive => drawdown_isGreatest started positive, (streaks_counts values).1.longest,
    (streaks_counts values).2.longest, sum_periodPnl calendar trades period, fun started solvent => ?_⟩
  rw [periodReturns, prod_returnsFrom started solvent, sum_periodPnl]

namespace Demo

/-- Two days of one week and one month. -/
def twoDays : Calendar where
  isoDate time := if time < seconds 86400 then "1970-01-01" else "1970-01-02"
  isoWeek _ := (1970, 1)
  yearMonth _ := "1970-01"

def threeTrades {N : Type} (first second third : N) : List (TradePnl N) :=
  [⟨0, first⟩, ⟨seconds 60, second⟩, ⟨seconds 86400, third⟩]

end Demo

open Demo

/-- A curve with one fall, and trades on two days. -/
theorem performance_figures_two_days :
    (drawdown [⟨0, 100⟩, ⟨1, 90⟩, ⟨2, 95⟩]) = (10, 1 / 10) ∧
      IsGreatest (drops (fun high low => high - low) [100, 90, (95 : Decimal)]) 10 ∧
      ((periodReturns twoDays (threeTrades (10 : Decimal) (-20) 5) 100 .daily).map (1 + ·.2)).prod = 95 / 100 := by
  obtain ⟨falls, _, _, _, compounds⟩ := performance_figures [⟨0, 100⟩, ⟨1, 90⟩, ⟨2, 95⟩] [] twoDays
    (threeTrades 10 (-20) 5) 100 .daily
  have found : (drawdown [⟨0, 100⟩, ⟨1, 90⟩, ⟨2, 95⟩]) = (10, 1 / 10) := by decide +kernel
  have net : netProfit (threeTrades (10 : Decimal) (-20) 5) = -5 := by decide +kernel
  refine ⟨found, ?_, ?_⟩
  · have greatest := (falls (by simp) (by simp)).1
    rwa [found] at greatest
  · rw [compounds (by norm_num) (by decide +kernel), net]
    norm_num

/-- **In floats the daily sums of `0.1`, `0.2` and `0.3` do not add up to the net profit.** -/
theorem float_sums_differ :
    (pySum ((periodPnl twoDays (threeTrades (0.1 : Float) 0.2 0.3) .daily).map (·.2)) ==
      netProfit (threeTrades (0.1 : Float) 0.2 0.3)) = false := by
  decide +kernel

end GoldFlow
