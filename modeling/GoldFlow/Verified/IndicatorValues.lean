import GoldFlow.Market.Candles
import GoldFlow.Strategies.Indicators
import Mathlib.Algebra.Order.BigOperators.Group.List
import Mathlib.Tactic.Linarith

/-! # Values of the indicators -/

namespace GoldFlow

theorem Candle.low_le_high (candle : Candle) : candle.low ≤ candle.high :=
  (le_max_right _ _).trans candle.high_highest

theorem Candle.close_le_high (candle : Candle) : candle.close ≤ candle.high :=
  (le_max_right _ _).trans ((le_max_left _ _).trans candle.high_highest)

theorem Candle.low_le_close (candle : Candle) : candle.low ≤ candle.close :=
  candle.low_lowest.trans ((min_le_left _ _).trans (min_le_right _ _))

namespace Indicators

section WarmUp

variable {α σ : Type} {values : List α} {offset period : Nat}

theorem fromEnd_eq_ok {value : α} : fromEnd values offset = .ok value ↔ values.reverse[offset]? = some value := by
  unfold fromEnd
  cases values.reverse[offset]? with
  | none => simp
  | some => simp

theorem fromEnd_isOk (within : offset < values.length) : ∃ value, fromEnd values offset = .ok value := by
  have found := List.getElem?_eq_getElem (by simpa using within : offset < values.reverse.length)
  exact ⟨_, fromEnd_eq_ok.mpr found⟩

theorem fromEnd_append {earlier later : List α} (within : offset < later.length) :
    fromEnd (earlier ++ later) offset = fromEnd later offset := by
  unfold fromEnd
  rw [List.reverse_append, List.getElem?_append_left (by simpa using within)]

theorem lt_length_of_fromEnd {value : α} (found : fromEnd values offset = .ok value) : offset < values.length := by
  simpa using (List.getElem?_eq_some_iff.mp (fromEnd_eq_ok.mp found)).1

variable {source : List α} {seed : List α → σ} {advance : σ → α → σ} {value : σ → Decimal}

theorem fromEnd_warmedUp (warm : period + offset ≤ source.length) :
    ∃ found, fromEnd (warmedUp period source seed advance value) offset = .ok (some found) := by
  have within : offset < ((source.drop period).scanl advance (seed (source.take period))).length := by
    simp only [List.length_scanl, List.length_drop]
    omega
  obtain ⟨found, atOffset⟩ := fromEnd_isOk within
  rw [fromEnd_eq_ok] at atOffset
  unfold warmedUp
  rw [if_neg (by omega), fromEnd_append (by simpa using within)]
  exact ⟨value found, fromEnd_eq_ok.mpr (by rw [← List.map_reverse, List.getElem?_map, atOffset]; rfl)⟩

theorem fromEnd_warmedUp_zero (warm : period ≤ source.length) :
    fromEnd (warmedUp period source seed advance value) 0 =
      .ok (some (value ((source.drop period).foldl advance (seed (source.take period))))) := by
  unfold warmedUp
  rw [if_neg (by omega), fromEnd_append (by simp), fromEnd_eq_ok, ← List.map_reverse, List.getElem?_map,
    ← List.head?_eq_getElem?, List.head?_reverse, List.getLast?_scanl, Option.map_some]

theorem requirePeriod_eq_ok (positive : 0 < period) : requirePeriod period = .ok () := by
  simp [requirePeriod, positive.ne']

end WarmUp

section Series

variable {values highs lows closes : List Decimal} {period offset : Nat}

def emaSeries (period : Nat) (values : List Decimal) : List (Option Decimal) :=
  warmedUp period values (mean period) (fun previous value => (value - previous) * (2 / (period + 1)) + previous) id

theorem ema_eq (positive : 0 < period) : ema values period = .ok (emaSeries period values) := by
  rw [ema, requirePeriod_eq_ok positive]
  rfl

theorem ema_available (positive : 0 < period) (warm : period + offset ≤ values.length) :
    ∃ averages found, ema values period = .ok averages ∧ fromEnd averages offset = .ok (some found) := by
  obtain ⟨found, available⟩ := fromEnd_warmedUp warm
  exact ⟨_, found, ema_eq positive, available⟩

def changes (values : List Decimal) : List Decimal :=
  (values.zip (values.drop 1)).map fun (previous, value) => value - previous

/-- What `rsi` starts with and advances. -/
def seedAverages (period : Nat) (first : List Decimal) : Decimal × Decimal :=
  (mean period (first.map gain), mean period (first.map loss))

def advanceAverages (period : Nat) (averages : Decimal × Decimal) (change : Decimal) : Decimal × Decimal :=
  (smooth period averages.1 (gain change), smooth period averages.2 (loss change))

def averageSeries (period : Nat) (values : List Decimal) : List (Option Decimal) :=
  warmedUp period (changes values) (seedAverages period) (advanceAverages period) fun averages =>
    rsiValue averages.1 averages.2

theorem rsi_eq (positive : 0 < period) :
    rsi values period = .ok ((values.take 1).map (fun _ => none) ++ averageSeries period values) := by
  rw [rsi, requirePeriod_eq_ok positive]
  rfl

theorem length_changes (values : List Decimal) : (changes values).length = values.length - 1 := by
  simp [changes]

theorem rsi_available (positive : 0 < period) (warm : period + 1 ≤ values.length) :
    ∃ strengths found, rsi values period = .ok strengths ∧ fromEnd strengths 0 = .ok (some found) := by
  -- there is one change less than there are values
  obtain ⟨found, available⟩ : ∃ found, fromEnd (averageSeries period values) 0 = .ok (some found) :=
    fromEnd_warmedUp (by rw [length_changes]; omega)
  refine ⟨_, found, rsi_eq positive, ?_⟩
  rw [fromEnd_append (lt_length_of_fromEnd available)]
  exact available

def spreadSeries (period : Nat) (values : List Decimal) : List (Option Decimal) :=
  warmedUp period (values.zip (List.replicate period 0 ++ values)) (fun first => (first.map (·.1)).sum)
    (fun rolling (entering, leaving) => rolling + (entering - leaving)) (· / period)

theorem averageSpread_eq (positive : 0 < period) (nonneg : ∀ spread ∈ values, 0 ≤ spread) :
    averageSpread values period = .ok (spreadSeries period values) := by
  have accepted : values.any (· < 0) = false := by simpa using nonneg
  rw [averageSpread, requirePeriod_eq_ok positive, accepted]
  rfl

theorem averageSpread_available (positive : 0 < period) (nonneg : ∀ spread ∈ values, 0 ≤ spread)
    (warm : period ≤ values.length) :
    ∃ averages found, averageSpread values period = .ok averages ∧ fromEnd averages 0 = .ok (some found) := by
  have enough : period + 0 ≤ (values.zip (List.replicate period 0 ++ values)).length := by simpa using warm
  obtain ⟨found, available⟩ := fromEnd_warmedUp enough
  exact ⟨_, found, averageSpread_eq positive nonneg, available⟩

theorem spreadQuality_range {current : Decimal} (nonneg : 0 ≤ current) (average : Option Decimal)
    {maximum : Option Decimal}
    (positive : ∀ bound, maximum = some bound → 0 < bound) :
    ∃ score, spreadQuality current average maximum = .ok score ∧ 0 ≤ score ∧ score ≤ 1 := by
  have bounded : maximum.any (· ≤ 0) = false := by
    cases maximum with
    | none => rfl
    | some bound => simpa using positive bound rfl
  unfold spreadQuality
  rw [if_neg (not_lt.mpr nonneg), bounded, if_neg (by simp)]
  split
  · exact ⟨0, rfl, le_rfl, zero_le_one⟩
  · cases average.filter (0 < ·) with
    | none =>
      refine ⟨_, rfl, ?_, ?_⟩
      · split <;> norm_num
      · split <;> norm_num
    | some => exact ⟨_, rfl, le_max_left _ _, max_le zero_le_one (min_le_left _ _)⟩

/-- What `_validate_ohlc` accepts. -/
def AdmittedBars (highs lows closes : List Decimal) : Prop :=
  highs.length = lows.length ∧ lows.length = closes.length ∧ ∀ bar ∈ highs.zip lows, bar.2 ≤ bar.1

def barRanges (highs lows closes : List Decimal) : List Decimal :=
  ((none :: closes.map some).zip (highs.zip lows)).map fun (close, high, low) => trueRange close high low

theorem trueRanges_eq_ok (admitted : AdmittedBars highs lows closes) :
    trueRanges highs lows closes = .ok (barRanges highs lows closes) := by
  obtain ⟨sameLows, sameCloses, ordered⟩ := admitted
  have inOrder : (highs.zip lows).any (fun bar => bar.1 < bar.2) = false := by
    rw [List.any_eq_false]
    exact fun bar member => by simpa using ordered bar member
  rw [trueRanges, if_neg (by simp [sameLows, sameCloses]), inOrder, if_neg (by simp)]
  rfl

theorem atr_eq (positive : 0 < period) (admitted : AdmittedBars highs lows closes) :
    atr highs lows closes period =
      .ok (warmedUp period (barRanges highs lows closes) (mean period) (smooth period) id) := by
  rw [atr, requirePeriod_eq_ok positive, trueRanges_eq_ok admitted]
  rfl

end Series

/-! ## The average true range -/

def rangesAfter : Option Decimal → List Candle → List Decimal
  | _, [] => []
  | previousClose, candle :: rest =>
    trueRange previousClose candle.high candle.low :: rangesAfter (some candle.close) rest

def rangesOf (candles : List Candle) : List Decimal := rangesAfter none candles

variable {candles : List Candle} {period : Nat} {previous value : Decimal}

theorem length_rangesAfter (previousClose : Option Decimal) (candles : List Candle) :
    (rangesAfter previousClose candles).length = candles.length := by
  induction candles generalizing previousClose with
  | nil => rfl
  | cons candle rest ih => simp [rangesAfter, ih]

theorem admittedBars (candles : List Candle) :
    AdmittedBars (candles.map (·.high)) (candles.map (·.low)) (candles.map (·.close)) := by
  refine ⟨by simp, by simp, ?_⟩
  rw [List.zip_map']
  simp [Candle.low_le_high]

theorem barRanges_eq (candles : List Candle) :
    barRanges (candles.map (·.high)) (candles.map (·.low)) (candles.map (·.close)) = rangesOf candles := by
  have zipped : ∀ previousClose, ((previousClose :: (candles.map (·.close)).map some).zip
      ((candles.map (·.high)).zip (candles.map (·.low)))).map (fun bar => trueRange bar.1 bar.2.1 bar.2.2) =
        rangesAfter previousClose candles := by
    induction candles with
    | nil => simp [rangesAfter]
    | cons candle rest ih => simpa [rangesAfter] using ih (some candle.close)
  exact zipped none

def averageRange (period : Nat) (ranges : List Decimal) : Decimal :=
  (ranges.drop period).foldl (smooth period) (mean period (ranges.take period))

theorem atr_available (positive : 0 < period) (warm : period ≤ candles.length) :
    ∃ averages, atr (candles.map (·.high)) (candles.map (·.low)) (candles.map (·.close)) period = .ok averages ∧
      fromEnd averages 0 = .ok (some (averageRange period (rangesOf candles))) := by
  refine ⟨_, atr_eq positive (admittedBars candles), ?_⟩
  rw [barRanges_eq, fromEnd_warmedUp_zero (by rw [rangesOf, length_rangesAfter]; exact warm)]
  rfl

theorem trueRange_nonneg (previousClose : Option Decimal) (candle : Candle) :
    0 ≤ trueRange previousClose candle.high candle.low := by
  have own : 0 ≤ candle.high - candle.low := sub_nonneg.mpr candle.low_le_high
  cases previousClose with
  | none => exact own
  | some => exact own.trans ((le_max_left _ _).trans (le_max_left _ _))

theorem trueRange_eq_zero_iff (close : Decimal) (candle : Candle) :
    trueRange (some close) candle.high candle.low = 0 ↔ candle.high = close ∧ candle.low = close := by
  unfold trueRange
  constructor
  · intro zero
    have high : |candle.high - close| ≤ 0 := zero ▸ (le_max_right _ _).trans (le_max_left _ _)
    have low : |candle.low - close| ≤ 0 := zero ▸ le_max_right _ _
    exact ⟨sub_eq_zero.mp (abs_nonpos_iff.mp high), sub_eq_zero.mp (abs_nonpos_iff.mp low)⟩
  · rintro ⟨high, low⟩
    simp [high, low]

theorem rangesAfter_nonneg (previousClose : Option Decimal) (candles : List Candle) :
    ∀ range ∈ rangesAfter previousClose candles, 0 ≤ range := by
  induction candles generalizing previousClose with
  | nil => simp [rangesAfter]
  | cons candle rest ih =>
    simp only [rangesAfter, List.forall_mem_cons]
    exact ⟨trueRange_nonneg previousClose candle, ih _⟩

theorem smooth_nonneg (positive : 0 < period) (previousNonneg : 0 ≤ previous) (valueNonneg : 0 ≤ value) :
    0 ≤ smooth period previous value := by
  have one : (1 : Decimal) ≤ period := by exact_mod_cast positive
  exact div_nonneg (add_nonneg (mul_nonneg previousNonneg (sub_nonneg.mpr one)) valueNonneg) (Nat.cast_nonneg _)

theorem smooth_pos (long : 2 ≤ period) (previousNonneg : 0 ≤ previous) (valueNonneg : 0 ≤ value)
    (moved : 0 < previous ∨ 0 < value) : 0 < smooth period previous value := by
  have more : (0 : Decimal) < period - 1 := by
    have : (2 : Decimal) ≤ period := by exact_mod_cast long
    linarith
  apply div_pos _ (by linarith)
  rcases moved with moved | moved
  · exact add_pos_of_pos_of_nonneg (mul_pos moved more) valueNonneg
  · exact add_pos_of_nonneg_of_pos (mul_nonneg previousNonneg more.le) moved

variable {ranges : List Decimal} {average : Decimal}

theorem foldl_smooth_nonneg (positive : 0 < period) (nonneg : ∀ range ∈ ranges, 0 ≤ range)
    (averageNonneg : 0 ≤ average) : 0 ≤ ranges.foldl (smooth period) average := by
  induction ranges generalizing average with
  | nil => exact averageNonneg
  | cons range rest ih =>
    rw [List.forall_mem_cons] at nonneg
    exact ih nonneg.2 (smooth_nonneg positive averageNonneg nonneg.1)

theorem foldl_smooth_pos (long : 2 ≤ period) (nonneg : ∀ range ∈ ranges, 0 ≤ range) (averageNonneg : 0 ≤ average)
    (moved : 0 < average ∨ ∃ range ∈ ranges, 0 < range) : 0 < ranges.foldl (smooth period) average := by
  induction ranges generalizing average with
  | nil => simpa using moved
  | cons range rest ih =>
    rw [List.forall_mem_cons] at nonneg
    apply ih nonneg.2 (smooth_nonneg (by omega) averageNonneg nonneg.1)
    rcases moved with moved | ⟨other, member, moved⟩
    · exact .inl (smooth_pos long averageNonneg nonneg.1 (.inl moved))
    · rcases List.mem_cons.mp member with rfl | later
      · exact .inl (smooth_pos long averageNonneg nonneg.1 (.inr moved))
      · exact .inr ⟨other, later, moved⟩

theorem mean_nonneg (nonneg : ∀ range ∈ ranges, 0 ≤ range) : 0 ≤ mean period ranges :=
  div_nonneg (List.sum_nonneg nonneg) (Nat.cast_nonneg _)

theorem averageRange_nonneg (positive : 0 < period) (nonneg : ∀ range ∈ ranges, 0 ≤ range) :
    0 ≤ averageRange period ranges :=
  foldl_smooth_nonneg positive (fun range member => nonneg range (List.mem_of_mem_drop member))
    (mean_nonneg fun range member => nonneg range (List.mem_of_mem_take member))

theorem averageRange_pos (long : 2 ≤ period) (nonneg : ∀ range ∈ ranges, 0 ≤ range)
    (moved : ∃ range ∈ ranges, 0 < range) : 0 < averageRange period ranges := by
  obtain ⟨range, member, positive⟩ := moved
  have seedNonneg : ∀ range ∈ ranges.take period, 0 ≤ range := fun range member =>
    nonneg range (List.mem_of_mem_take member)
  apply foldl_smooth_pos long (fun range member => nonneg range (List.mem_of_mem_drop member)) (mean_nonneg seedNonneg)
  rw [← List.take_append_drop period ranges, List.mem_append] at member
  rcases member with seeded | later
  · left
    apply div_pos _ (by exact_mod_cast (by omega : 0 < period))
    exact positive.trans_le (List.single_le_sum seedNonneg range seeded)
  · exact .inr ⟨range, later, positive⟩

theorem averageRange_one (earlier : List Decimal) (last : Decimal) : averageRange 1 (earlier ++ [last]) = last := by
  cases earlier with
  | nil => simp [averageRange, mean]
  | cons => simp [averageRange, smooth]

theorem rangesAfter_append (previousClose : Option Decimal) (earlier : List Candle) (previous latest : Candle) :
    rangesAfter previousClose (earlier ++ [previous, latest]) =
      rangesAfter previousClose (earlier ++ [previous]) ++
        [trueRange (some previous.close) latest.high latest.low] := by
  induction earlier generalizing previousClose with
  | nil => rfl
  | cons candle rest ih => simp [rangesAfter, ih]

theorem still_of_flat {close : Decimal} (flat : ∀ range ∈ rangesAfter (some close) candles, range = 0) :
    ∀ candle ∈ candles, candle.high = close ∧ candle.low = close := by
  induction candles with
  | nil => simp
  | cons candle rest ih =>
    simp only [rangesAfter, List.forall_mem_cons] at flat
    have still := (trueRange_eq_zero_iff close candle).mp flat.1
    have stays : candle.close = close := le_antisymm (still.1 ▸ candle.close_le_high) (still.2 ▸ candle.low_le_close)
    rw [stays] at flat
    rw [List.forall_mem_cons]
    exact ⟨still, ih flat.2⟩

theorem still_of_unmoved (unmoved : ¬ ∃ range ∈ rangesOf candles, 0 < range) :
    ∃ price, ∀ candle ∈ candles, candle.high = price ∧ candle.low = price := by
  have flat : ∀ range ∈ rangesOf candles, range = 0 := by
    intro range member
    exact le_antisymm (not_lt.mp fun positive => unmoved ⟨range, member, positive⟩)
      (rangesAfter_nonneg _ _ range member)
  cases candles with
  | nil => exact ⟨0, by simp⟩
  | cons candle =>
    simp only [rangesOf, rangesAfter, List.forall_mem_cons, trueRange, sub_eq_zero] at flat
    have low : candle.low = candle.close := le_antisymm candle.low_le_close (flat.1 ▸ candle.close_le_high)
    rw [← low] at flat
    exact ⟨candle.low, List.forall_mem_cons.mpr ⟨⟨flat.1, rfl⟩, still_of_flat flat.2⟩⟩

theorem averageRange_eq_zero_iff {earlier : List Candle} {previous latest : Candle} (positive : 0 < period)
    (moved : ∃ range ∈ rangesOf (earlier ++ [previous, latest]), 0 < range) :
    averageRange period (rangesOf (earlier ++ [previous, latest])) = 0 ↔
      period = 1 ∧ latest.high = previous.close ∧ latest.low = previous.close := by
  rw [← trueRange_eq_zero_iff]
  by_cases one : period = 1
  · subst one
    rw [rangesOf, rangesAfter_append, averageRange_one]
    simp
  · have long : 2 ≤ period := by omega
    have above := averageRange_pos long (rangesAfter_nonneg none _) moved
    simp only [one, false_and, iff_false]
    exact above.ne'

end Indicators

end GoldFlow
