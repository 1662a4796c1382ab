import GoldFlow.Data.Fallible
import GoldFlow.Domain.Models
import Mathlib.Data.List.Sort

/-! # Candles -/

namespace GoldFlow

open Data

inductive Timeframe where
  | m1 | m5 | m15 | m30 | h1 | h4 | d1
  deriving DecidableEq, Repr

def Timeframe.value : Timeframe → String
  | .m1 => "M1"
  | .m5 => "M5"
  | .m15 => "M15"
  | .m30 => "M30"
  | .h1 => "H1"
  | .h4 => "H4"
  | .d1 => "D1"

def Timeframe.seconds : Timeframe → Int
  | .m1 => 60
  | .m5 => 300
  | .m15 => 900
  | .m30 => 1800
  | .h1 => 3600
  | .h4 => 14400
  | .d1 => 86400

theorem Timeframe.seconds_pos (timeframe : Timeframe) : 0 < timeframe.seconds := by
  cases timeframe <;> simp [seconds]

structure Candle where
  symbol : String
  timeframe : Timeframe
  timestamp : Instant
  «open» : Decimal
  high : Decimal
  low : Decimal
  close : Decimal
  volume : Decimal := 0
  spread : Decimal := 0
  complete : Bool := true
  high_highest : max (max «open» close) low ≤ high
  low_lowest : low ≤ min (min «open» close) high
  volume_nonneg : 0 ≤ volume
  spread_nonneg : 0 ≤ spread
  deriving DecidableEq

/-- `datetime.max` -/
def datetimeMax : Instant := 253402300799999999

/-- `candle_close_time`: the instant at which a bar is fully known. -/
def candleCloseTime (candle : Candle) : Instant :=
  candle.timestamp + candle.timeframe.seconds * 1000000

theorem timestamp_lt_candleCloseTime (candle : Candle) : candle.timestamp < candleCloseTime candle := by
  have positive := candle.timeframe.seconds_pos
  exact Int.lt_add_of_pos_right _ (by omega)

/-! ## Candle sequences -/

/-- The loop of `validate_candle_sequence`. -/
def checkCandles (symbol : String) (timeframe : Timeframe) : Option Instant → List Candle → Except PyError Unit
  | _, [] => .ok ()
  | previousTimestamp, candle :: rest =>
    if candle.symbol ≠ symbol ∨ candle.timeframe ≠ timeframe then
      .error (.value "a candle sequence must use one symbol and timeframe")
    else if previousTimestamp.any (candle.timestamp ≤ ·) then
      .error (.value "candle timestamps must be strictly increasing")
    else checkCandles symbol timeframe (some candle.timestamp) rest

def validateCandleSequence : List Candle → Except PyError (List Candle)
  | [] => .ok []
  | first :: rest => do
    checkCandles first.symbol first.timeframe none (first :: rest)
    pure (first :: rest)

/-- `closed_candles`: the candles in order of time that are known at `asOf` and complete. -/
def closedCandles (candles : List Candle) (asOf : Option Instant) (useClosedCandlesOnly : Bool) :
    Except PyError (List Candle) := do
  let ordered := candles.insertionSort fun first second => first.timestamp ≤ second.timestamp
  let _ ← validateCandleSequence ordered
  pure (ordered.filter fun candle =>
    let availability := if useClosedCandlesOnly then candleCloseTime candle else candle.timestamp
    asOf.all (availability ≤ ·) && (!useClosedCandlesOnly || candle.complete))

/-- A dictionary over the three timeframes of a backtest. -/
structure PerTimeframe (α : Type) where
  h1 : α
  m15 : α
  m5 : α

namespace PerTimeframe

variable {α β : Type}

def values (entries : PerTimeframe α) : List α := [entries.h1, entries.m15, entries.m5]

def map (f : α → β) (entries : PerTimeframe α) : PerTimeframe β := ⟨f entries.h1, f entries.m15, f entries.m5⟩

end PerTimeframe

/-! ## Valid sequences -/

/-- Candles of one symbol and timeframe, in strictly increasing order. -/
structure ValidSequence (candles : List Candle) : Prop where
  alike : ∀ first ∈ candles, ∀ second ∈ candles, first.symbol = second.symbol ∧ first.timeframe = second.timeframe
  increasing : candles.Pairwise fun first second => first.timestamp < second.timestamp

theorem checkCandles_eq_ok {symbol : String} {timeframe : Timeframe} {previous : Option Instant}
    {candles : List Candle} :
    checkCandles symbol timeframe previous candles = .ok () ↔
      (∀ candle ∈ candles, candle.symbol = symbol ∧ candle.timeframe = timeframe) ∧
      (∀ earlier ∈ previous, ∀ candle ∈ candles, earlier < candle.timestamp) ∧
      candles.Pairwise fun first second => first.timestamp < second.timestamp := by
  induction candles generalizing previous with
  | nil => simp [checkCandles]
  | cons candle rest ih =>
    unfold checkCandles
    by_cases same : candle.symbol = symbol ∧ candle.timeframe = timeframe
    · rw [if_neg (by simp [same])]
      by_cases later : ∀ earlier ∈ previous, earlier < candle.timestamp
      · have inOrder : previous.any (candle.timestamp ≤ ·) = false := by
          cases previous with
          | none => rfl
          | some earlier => simpa using later earlier rfl
        simp only [inOrder, Bool.false_eq_true, if_false, ih, List.forall_mem_cons, List.pairwise_cons, same,
          Option.mem_some_iff, forall_eq', true_and]
        constructor
        · rintro ⟨alike, after, increasing⟩
          refine ⟨alike, fun earlier known => ⟨later earlier known, ?_⟩, after, increasing⟩
          intro other member
          exact (later earlier known).trans (after other member)
        · rintro ⟨alike, _, after, increasing⟩
          exact ⟨alike, after, increasing⟩
      · have early : previous.any (candle.timestamp ≤ ·) = true := by
          simpa [Option.any_eq_true] using later
        simp only [early, if_true, reduceCtorEq, false_iff]
        rintro ⟨_, after, _⟩
        exact later fun earlier known => after earlier known candle List.mem_cons_self
    · rw [if_pos (not_and_or.mp same)]
      simp only [reduceCtorEq, false_iff, not_and, List.forall_mem_cons]
      intro alike
      exact absurd alike.1 same

theorem validateCandleSequence_eq_ok {candles validated : List Candle} :
    validateCandleSequence candles = .ok validated ↔ ValidSequence candles ∧ validated = candles := by
  cases candles with
  | nil =>
    simp only [validateCandleSequence, Except.ok.injEq, eq_comm]
    exact ⟨fun same => ⟨⟨by simp, .nil⟩, same⟩, And.right⟩
  | cons first =>
    constructor
    · intro valid
      obtain ⟨_, checked, same⟩ := bind_eq_ok.mp valid
      obtain ⟨alike, _, increasing⟩ := checkCandles_eq_ok.mp checked
      cases same
      refine ⟨⟨?_, increasing⟩, rfl⟩
      intro one oneMember other otherMember
      rw [(alike one oneMember).1, (alike one oneMember).2, (alike other otherMember).1, (alike other otherMember).2]
      exact ⟨rfl, rfl⟩
    · rintro ⟨valid, rfl⟩
      apply bind_eq_ok.mpr
      refine ⟨(), checkCandles_eq_ok.mpr ⟨?_, by simp, valid.increasing⟩, rfl⟩
      intro candle member
      exact valid.alike candle member first List.mem_cons_self

theorem ValidSequence.sublist {candles part : List Candle} (valid : ValidSequence candles)
    (within : part.Sublist candles) : ValidSequence part where
  alike first firstMember second secondMember :=
    valid.alike first (within.subset firstMember) second (within.subset secondMember)
  increasing := valid.increasing.sublist within

end GoldFlow
