import GoldFlow.Verified.IndicatorValues
import Mathlib.Data.List.Induction
import Mathlib.Tactic.FieldSimp

/-! # Indicators over a growing series -/

namespace GoldFlow.Indicators

open Data

section WarmUp

variable {α σ : Type} {period : Nat} {source passed : List α} {seed : List α → σ} {advance : σ → α → σ}
  {value : σ → Decimal}

/-- The state after the entries `passed`. -/
def reached (period : Nat) (seed : List α → σ) (advance : σ → α → σ) (passed : List α) : σ :=
  (passed.drop period).foldl advance (seed (passed.take period))

theorem reached_concat (warm : period ≤ passed.length) (item : α) :
    reached period seed advance (passed ++ [item]) = advance (reached period seed advance passed) item := by
  simp [reached, List.drop_append_of_le_length warm, List.take_append_of_le_length warm]

theorem reached_induction {motive : List α → σ → Prop}
    (seeded : ∀ first, first.length = period → motive first (seed first))
    (advanced : ∀ passed item state, period ≤ passed.length → motive passed state →
      motive (passed ++ [item]) (advance state item))
    (warm : period ≤ passed.length) : motive passed (reached period seed advance passed) := by
  induction passed using List.reverseRecOn with
  | nil =>
    have none : period = 0 := Nat.le_zero.mp warm
    subst none
    exact seeded [] rfl
  | append_singleton passed item ih =>
    by_cases before : period ≤ passed.length
    · rw [reached_concat before]
      exact advanced _ _ _ before (ih before)
    · have full : (passed ++ [item]).length = period := by
        simp only [List.length_append, List.length_singleton] at warm ⊢
        omega
      rw [reached, ← full, List.drop_length, List.take_length]
      exact seeded _ full

theorem length_warmedUp (positive : 0 < period) :
    (warmedUp period source seed advance value).length = source.length := by
  unfold warmedUp
  split
  · simp
  · simp only [List.length_append, List.length_replicate, List.length_map, List.length_scanl, List.length_drop]
    omega

theorem warmedUp_getElem? (positive : 0 < period) (i : Nat) :
    (warmedUp period source seed advance value)[i]? = source[i]?.map fun _ =>
      if i + 1 < period then none else some (value (reached period seed advance (source.take (i + 1)))) := by
  by_cases inside : i < source.length
  · rw [List.getElem?_eq_getElem inside, Option.map_some]
    unfold warmedUp
    split
    · rw [List.getElem?_replicate, if_pos inside, if_pos (by omega)]
    · by_cases warm : i + 1 < period
      · rw [List.getElem?_append_left (by simp; omega), List.getElem?_replicate, if_pos (by omega), if_pos warm]
      · rw [List.getElem?_append_right (by simp; omega), List.getElem?_map, List.getElem?_scanl, if_neg warm,
          List.length_replicate, if_pos (by simp; omega), reached, List.drop_take, List.take_take,
          Nat.min_eq_left (by omega),
          show i - (period - 1) = i + 1 - period by omega]
        rfl
  · rw [List.getElem?_eq_none (by rw [length_warmedUp positive]; omega), List.getElem?_eq_none (by omega)]
    rfl

theorem warmedUp_take (positive : 0 < period) (n : Nat) :
    warmedUp period (source.take n) seed advance value = (warmedUp period source seed advance value).take n := by
  apply List.ext_getElem?
  intro i
  rw [warmedUp_getElem? positive, List.getElem?_take, List.getElem?_take, warmedUp_getElem? positive]
  by_cases inside : i < n
  · rw [if_pos inside, if_pos inside, List.take_take, Nat.min_eq_left (by omega)]
  · rw [if_neg inside, if_neg inside]
    rfl

end WarmUp

theorem zipWith_take {α β γ : Type} (f : α → β → γ) (i j : Nat) (first : List α) (second : List β) :
    List.zipWith f (first.take i) (second.take j) = (List.zipWith f first second).take (min i j) := by
  induction i generalizing j first second with
  | zero => simp
  | succ i ih =>
    cases j with
    | zero => simp
    | succ => cases first <;> cases second <;> simp [ih]

/-! ## Warm-up -/

/-- A value is missing for exactly the first `warmUp` of `length` inputs. -/
def WarmsUp (warmUp length : Nat) (out : List (Option Decimal)) : Prop :=
  out.length = length ∧ ∀ i < length, (out[i]? = some none ↔ i < warmUp)

variable {values highs lows closes ds : List Decimal} {line first second out : List (Option Decimal)}
  {period warmUp other length n : Nat} {α σ : Type} {source : List α} {seed : List α → σ} {advance : σ → α → σ}
  {value : σ → Decimal} {fast slow signal : Nat} {i : Nat} {found : Decimal} {averageGain averageLoss : Decimal}

theorem warmsUp_warmedUp (positive : 0 < period) (aligned : source.length = length) :
    WarmsUp (period - 1) length (warmedUp period source seed advance value) := by
  subst aligned
  refine ⟨length_warmedUp positive, fun i inside => ?_⟩
  rw [warmedUp_getElem? positive, List.getElem?_eq_getElem inside, Option.map_some]
  split
  case isTrue early => simp; omega
  case isFalse warm => simp; omega

theorem WarmsUp.differences (warm : WarmsUp warmUp length first) (otherWarm : WarmsUp other length second) :
    WarmsUp (max warmUp other) length (differences first second) := by
  refine ⟨by simp [Indicators.differences, warm.1, otherWarm.1], fun i inside => ?_⟩
  have one := warm.2 i inside
  have two := otherWarm.2 i inside
  rw [List.getElem?_eq_getElem (warm.1 ▸ inside), Option.some.injEq] at one
  rw [List.getElem?_eq_getElem (otherWarm.1 ▸ inside), Option.some.injEq] at two
  rw [Indicators.differences, List.getElem?_zipWith, List.getElem?_eq_getElem (warm.1 ▸ inside),
    List.getElem?_eq_getElem (otherWarm.1 ▸ inside), lt_max_iff, ← one, ← two]
  simp

theorem WarmsUp.shape (warm : WarmsUp warmUp length out) :
    out = List.replicate (min warmUp length) none ++ (out.filterMap id).map some := by
  obtain ⟨rfl, gaps⟩ := warm
  induction out generalizing warmUp with
  | nil => simp
  | cons value rest ih =>
    have here : value = none ↔ 0 < warmUp := by simpa using gaps 0 (by simp)
    have later : ∀ i < rest.length, (rest[i]? = some none ↔ i < warmUp - 1) := by
      intro i inside
      have next := gaps (i + 1) (by simpa using inside)
      rw [List.getElem?_cons_succ] at next
      rw [next]
      omega
    cases value with
    | none =>
      have positive := here.mp rfl
      have count : min warmUp (rest.length + 1) = min (warmUp - 1) rest.length + 1 := by omega
      simp only [List.length_cons, count]
      exact congrArg _ (ih later)
    | some =>
      have zero : warmUp = 0 := by simpa using here
      subst zero
      simpa using ih later

theorem WarmsUp.append (warm : WarmsUp warmUp (length - min other length) out) :
    WarmsUp (other + warmUp) length (List.replicate (min other length) none ++ out) := by
  refine ⟨by rw [List.length_append, List.length_replicate, warm.1]; omega, fun i inside => ?_⟩
  by_cases early : i < min other length
  · rw [List.getElem?_append_left (by simpa using early), List.getElem?_replicate, if_pos early]
    simp
    omega
  · rw [List.getElem?_append_right (by simpa only [List.length_replicate] using not_lt.mp early), List.length_replicate,
      warm.2 _ (by omega)]
    omega

/-! ## The series of the indicators -/

theorem warmsUp_emaSeries (positive : 0 < period) (values : List Decimal) :
    WarmsUp (period - 1) values.length (emaSeries period values) :=
  warmsUp_warmedUp positive rfl

theorem emaSeries_take (positive : 0 < period) (values : List Decimal) (n : Nat) :
    emaSeries period (values.take n) = (emaSeries period values).take n :=
  warmedUp_take positive n

theorem AdmittedBars.take (admitted : AdmittedBars highs lows closes) (n : Nat) :
    AdmittedBars (highs.take n) (lows.take n) (closes.take n) := by
  obtain ⟨sameLows, sameCloses, ordered⟩ := admitted
  refine ⟨by simp [sameLows], by simp [sameCloses], fun bar member => ordered bar ?_⟩
  rw [List.zip, zipWith_take] at member
  exact List.mem_of_mem_take member

theorem barRanges_take (highs lows closes : List Decimal) (n : Nat) :
    barRanges (highs.take n) (lows.take n) (closes.take n) = (barRanges highs lows closes).take n := by
  have cut : none :: (closes.take n).map some = (none :: closes.map some).take (n + 1) := by simp
  rw [barRanges, barRanges, cut, List.zip, List.zip, zipWith_take, zipWith_take, Nat.min_self,
    Nat.min_eq_right (by omega),
    List.map_take]

theorem length_barRanges (admitted : AdmittedBars highs lows closes) :
    (barRanges highs lows closes).length = highs.length := by
  have := admitted.1
  have := admitted.2.1
  simp only [barRanges, List.length_map, List.length_zip, List.length_cons]
  omega

theorem changes_take (values : List Decimal) (n : Nat) : changes (values.take n) = (changes values).take (n - 1) := by
  rw [changes, changes, List.drop_take, List.zip, zipWith_take, Nat.min_eq_right (by omega), List.map_take]

theorem moves_take (values : List Decimal) (period n : Nat) :
    (values.take n).zip (List.replicate period 0 ++ values.take n) =
      (values.zip (List.replicate period 0 ++ values)).take n := by
  have cut : List.replicate period 0 ++ values.take n = (List.replicate period 0 ++ values).take (period + n) := by
    simp [List.take_append]
  rw [cut, List.zip, zipWith_take, Nat.min_eq_left (by omega)]

/-! ## The signal line of the MACD -/

theorem foldl_set {α : Type} {start offset : Nat} (front initial later : List α) (same : initial.length = later.length)
    (filled : front.length = start + offset) :
    (later.zipIdx offset).foldl (fun list (value, offset) => list.set (start + offset) value) (front ++ initial) =
      front ++ later := by
  induction later generalizing front initial offset with
  | nil => simp [List.length_eq_zero_iff.mp same]
  | cons value later ih =>
    obtain ⟨first, initial, rfl⟩ := List.exists_cons_of_length_eq_add_one same
    have placed : (front ++ first :: initial).set (start + offset) value = (front ++ [value]) ++ initial := by
      rw [← filled]
      simp
    rw [List.zipIdx_cons, List.foldl_cons]
    dsimp only
    rw [placed, ih _ _ (by simpa using same) (by simp; omega), List.append_assoc, List.singleton_append]

theorem macdSignal_eq (positive : 0 < period) (gaps : Nat) (ds : List Decimal) :
    macdSignal (List.replicate gaps none ++ ds.map some) period =
      .ok (List.replicate gaps none ++ emaSeries period ds) := by
  cases ds with
  | nil =>
    have missing : (List.replicate gaps (none : Option Decimal)).findIdx? (·.isSome) = none := by simp
    simp [macdSignal, emaSeries, warmedUp, positive]
  | cons first rest =>
    have found : (List.replicate gaps (none : Option Decimal) ++ (first :: rest).map some).findIdx? (·.isSome) =
        some gaps := by
      simp [List.findIdx?_cons]
    have compact : ((List.replicate gaps none ++ (first :: rest).map some).drop gaps).filterMap id = first :: rest := by
      simp
    have aligned : (emaSeries period (first :: rest)).length = (first :: rest).length := length_warmedUp positive
    simp only [macdSignal, found, compact, ema_eq positive]
    rw [List.length_append, List.length_replicate, List.length_map, List.replicate_add]
    exact congrArg Except.ok (foldl_set _ _ _ (by simp [aligned]) (by simp))

/-! ## Causality -/

def MACDResult.take (result : MACDResult) (n : Nat) : MACDResult where
  line := result.line.take n
  signal := result.signal.take n
  histogram := result.histogram.take n

/-- There is a value for every input after the warm-up, and the first inputs alone give the first values. -/
def CausalOn (indicator : List Decimal → Except PyError (List (Option Decimal))) (warmUp : Nat)
    (values : List Decimal) :
    Prop :=
  ∃ out, indicator values = .ok out ∧ WarmsUp warmUp values.length out ∧
    ∀ n, indicator (values.take n) = .ok (out.take n)

theorem ema_causal (positive : 0 < period) (values : List Decimal) : CausalOn (ema · period) (period - 1) values := by
  refine ⟨_, ema_eq positive, warmsUp_emaSeries positive values, fun n => ?_⟩
  rw [← emaSeries_take positive]
  exact ema_eq positive

theorem averageSpread_causal (positive : 0 < period) (nonneg : ∀ spread ∈ values, 0 ≤ spread) :
    CausalOn (averageSpread · period) (period - 1) values := by
  refine ⟨_, averageSpread_eq positive nonneg, warmsUp_warmedUp positive (by simp), fun n => ?_⟩
  dsimp only
  rw [averageSpread_eq positive fun spread member => nonneg spread (List.mem_of_mem_take member), spreadSeries,
    moves_take,
    warmedUp_take positive, spreadSeries]

theorem rsi_causal (positive : 0 < period) (values : List Decimal) : CausalOn (rsi · period) period values := by
  refine ⟨_, rsi_eq positive, ?_, fun n => ?_⟩
  · have gap : (values.take 1).map (fun _ => (none : Option Decimal)) = List.replicate (min 1 values.length) none := by
      simp
    have warm : WarmsUp (1 + (period - 1)) values.length
        (List.replicate (min 1 values.length) none ++ averageSeries period values) :=
      WarmsUp.append (warmsUp_warmedUp positive (by rw [length_changes]; omega))
    rw [Nat.add_sub_cancel' positive] at warm
    rwa [gap]
  · dsimp only
    rw [rsi_eq positive]
    cases values with
    | nil => simp [averageSeries, changes, warmedUp, positive]
    | cons first rest =>
      cases n with
      | zero => simp [averageSeries, changes, warmedUp, positive]
      | succ n =>
        have cut : changes (first :: rest.take n) = (changes (first :: rest)).take n :=
          changes_take (first :: rest) (n + 1)
        rw [List.take_succ_cons, averageSeries, cut, warmedUp_take positive]
        rfl

theorem atr_causal (positive : 0 < period) (admitted : AdmittedBars highs lows closes) :
    ∃ out, atr highs lows closes period = .ok out ∧ WarmsUp (period - 1) highs.length out ∧
      ∀ n, atr (highs.take n) (lows.take n) (closes.take n) period = .ok (out.take n) := by
  refine ⟨_, atr_eq positive admitted, warmsUp_warmedUp positive (length_barRanges admitted), fun n => ?_⟩
  rw [atr_eq positive (admitted.take n), barRanges_take, warmedUp_take positive]

def macdLine (fast slow : Nat) (values : List Decimal) : List (Option Decimal) :=
  differences (emaSeries fast values) (emaSeries slow values)

theorem macd_eq {out : List (Option Decimal)} (fastPositive : 0 < fast) (faster : fast < slow)
    (signalPositive : 0 < signal) (averaged : macdSignal (macdLine fast slow values) signal = .ok out) :
    macd values fast slow signal =
      .ok ⟨macdLine fast slow values, out, differences (macdLine fast slow values) out⟩ := by
  rw [macd, if_neg (by omega), if_neg (by omega), ema_eq fastPositive, ema_eq (fastPositive.trans faster)]
  simp only [ok_bind]
  rw [← macdLine, averaged]
  rfl

theorem differences_take (first second : List (Option Decimal)) (n : Nat) :
    differences (first.take n) (second.take n) = (differences first second).take n := by
  rw [differences, zipWith_take, Nat.min_self, differences]

theorem macdSignal_take (positive : 0 < period) (gaps : Nat) (ds : List Decimal) (n : Nat) :
    macdSignal ((List.replicate gaps none ++ ds.map some).take n) period =
      .ok ((List.replicate gaps none ++ emaSeries period ds).take n) := by
  rw [List.take_append, List.take_replicate, List.length_replicate, ← List.map_take, macdSignal_eq positive,
    List.take_append, List.take_replicate, List.length_replicate, emaSeries_take positive]

theorem macd_causal (fastPositive : 0 < fast) (faster : fast < slow) (signalPositive : 0 < signal)
    (values : List Decimal) :
    ∃ result, macd values fast slow signal = .ok result ∧ WarmsUp (slow - 1) values.length result.line ∧
      WarmsUp (slow - 1 + (signal - 1)) values.length result.signal ∧
      WarmsUp (slow - 1 + (signal - 1)) values.length result.histogram ∧
      ∀ n, macd (values.take n) fast slow signal = .ok (result.take n) := by
  have lineWarm : WarmsUp (slow - 1) values.length (macdLine fast slow values) := by
    have warm := (warmsUp_emaSeries fastPositive values).differences
      (warmsUp_emaSeries (fastPositive.trans faster) values)
    rwa [Nat.max_eq_right (by omega)] at warm
  have cut : ∀ n, macdLine fast slow (values.take n) = (macdLine fast slow values).take n := by
    intro n
    rw [macdLine, emaSeries_take fastPositive, emaSeries_take (fastPositive.trans faster), differences_take, macdLine]
  have shape := lineWarm.shape
  generalize (macdLine fast slow values).filterMap id = ds at shape
  have signalWarm : WarmsUp (slow - 1 + (signal - 1)) values.length
      (List.replicate (min (slow - 1) values.length) none ++ emaSeries signal ds) := by
    apply WarmsUp.append (warmsUp_warmedUp signalPositive _)
    have whole := congrArg List.length shape
    rw [lineWarm.1, List.length_append, List.length_replicate, List.length_map] at whole
    omega
  have averaged := shape ▸ macdSignal_eq signalPositive (min (slow - 1) values.length) ds
  refine ⟨_, macd_eq fastPositive faster signalPositive averaged, lineWarm, signalWarm, ?_, fun n => ?_⟩
  · have warm := lineWarm.differences signalWarm
    rwa [Nat.max_eq_right (by omega)] at warm
  · have averaged := shape ▸ macdSignal_take signalPositive (min (slow - 1) values.length) ds n
    rw [macd_eq fastPositive faster signalPositive (by rw [cut]; exact averaged), cut, differences_take]
    rfl

/-- **Indicators are causal.** -/
theorem indicators_causal (values highs lows closes : List Decimal) (period fast slow signal : Nat)
    (positive : 0 < period) :
    CausalOn (ema · period) (period - 1) values ∧ CausalOn (rsi · period) period values ∧
    (AdmittedBars highs lows closes → ∃ out, atr highs lows closes period = .ok out ∧
      WarmsUp (period - 1) highs.length out ∧
      ∀ n, atr (highs.take n) (lows.take n) (closes.take n) period = .ok (out.take n)) ∧
    ((∀ spread ∈ values, 0 ≤ spread) → CausalOn (averageSpread · period) (period - 1) values) ∧
    (0 < fast → fast < slow → 0 < signal → ∃ result, macd values fast slow signal = .ok result ∧
      WarmsUp (slow - 1) values.length result.line ∧ WarmsUp (slow - 1 + (signal - 1)) values.length result.signal ∧
      WarmsUp (slow - 1 + (signal - 1)) values.length result.histogram ∧
      ∀ n, macd (values.take n) fast slow signal = .ok (result.take n)) :=
  ⟨ema_causal positive values, rsi_causal positive values, atr_causal positive, averageSpread_causal positive,
    fun fastPositive faster signalPositive => macd_causal fastPositive faster signalPositive values⟩

theorem indicators_causal_short : CausalOn (ema · 2) 1 [1, 2, 4] ∧ CausalOn (rsi · 2) 2 [1, 2, 4] ∧
    (∃ out, atr [2, 3] [1, 2] [1, 3] 2 = .ok out ∧ WarmsUp 1 2 out) ∧ CausalOn (averageSpread · 2) 1 [1, 2, 4] ∧
    ∃ result, macd [1, 2, 4] 1 2 1 = .ok result ∧ WarmsUp 1 3 result.signal := by
  obtain ⟨averages, strengths, ranges, spreads, result⟩ :=
    indicators_causal [1, 2, 4] [2, 3] [1, 2] [1, 3] 2 1 2 1 (by decide)
  obtain ⟨out, answered, warm, _⟩ := ranges (by simp [AdmittedBars]; norm_num)
  obtain ⟨lines, found, _, signal, _⟩ := result (by decide) (by decide) (by decide)
  exact ⟨averages, strengths, ⟨out, answered, warm⟩, spreads (by simp), lines, found, signal⟩

/-! ## Ranges -/

def Within (inputs : List Decimal) (value : Decimal) : Prop :=
  ∃ low high, inputs.min? = some low ∧ inputs.max? = some high ∧ low ≤ value ∧ value ≤ high

theorem within_of_bounds {inputs : List Decimal} {value : Decimal} (started : inputs ≠ [])
    (bounded : ∀ low high, (∀ input ∈ inputs, low ≤ input ∧ input ≤ high) → low ≤ value ∧ value ≤ high) :
    Within inputs value := by
  obtain ⟨low, lowest⟩ := Option.isSome_iff_exists.mp (List.isSome_min?_iff.mpr started)
  obtain ⟨high, highest⟩ := Option.isSome_iff_exists.mp (List.isSome_max?_iff.mpr started)
  exact ⟨low, high, lowest, highest, bounded low high fun input member =>
    ⟨(List.min?_eq_some_iff.mp lowest).2 input member, (List.max?_eq_some_iff.mp highest).2 input member⟩⟩

theorem reached_of_available (positive : 0 < period)
    (available : (warmedUp period source seed advance value)[i]? = some (some found)) :
    i < source.length ∧ period ≤ (source.take (i + 1)).length ∧
      value (reached period seed advance (source.take (i + 1))) = found := by
  rw [warmedUp_getElem? positive] at available
  obtain ⟨_, there, shown⟩ := Option.map_eq_some_iff.mp available
  have inside := (List.getElem?_eq_some_iff.mp there).1
  split at shown
  · cases shown
  · refine ⟨inside, ?_, Option.some.inj shown⟩
    rw [List.length_take]
    omega

theorem mean_bounds {low high : Decimal} (positive : 0 < period) (full : values.length = period)
    (bounded : ∀ input ∈ values, low ≤ input ∧ input ≤ high) :
    low ≤ mean period values ∧ mean period values ≤ high := by
  have above : (0 : Decimal) < period := by exact_mod_cast positive
  have lower := List.card_nsmul_le_sum values low fun input member => (bounded input member).1
  have upper := List.sum_le_card_nsmul values high fun input member => (bounded input member).2
  rw [full, nsmul_eq_mul, mul_comm] at lower upper
  exact ⟨(le_div_iff₀ above).mpr lower, (div_le_iff₀ above).mpr upper⟩

theorem within_blended {blend : Decimal → Decimal → Decimal} (weight : Decimal) (positive : 0 < period)
    (nonneg : 0 ≤ weight) (atMost : weight ≤ 1)
    (blends : ∀ previous value, blend previous value = previous + weight * (value - previous))
    (available : (warmedUp period values (mean period) blend id)[i]? = some (some found)) :
    Within (values.take (i + 1)) found := by
  obtain ⟨_, warm, rfl⟩ := reached_of_available positive available
  apply within_of_bounds (List.length_pos_iff.mp (positive.trans_le warm))
  refine reached_induction (motive := fun passed state => ∀ low high,
    (∀ input ∈ passed, low ≤ input ∧ input ≤ high) → low ≤ state ∧ state ≤ high) ?_ ?_ warm
  · exact fun first full low high bounded => mean_bounds positive full bounded
  · intro passed item state _ kept low high bounded
    rw [List.forall_mem_append, List.forall_mem_singleton] at bounded
    obtain ⟨lower, upper⟩ := kept low high bounded.1
    have rest : 0 ≤ 1 - weight := sub_nonneg.mpr atMost
    rw [blends]
    constructor
    · have := add_nonneg (mul_nonneg rest (sub_nonneg.mpr lower)) (mul_nonneg nonneg (sub_nonneg.mpr bounded.2.1))
      linarith
    · have := add_nonneg (mul_nonneg rest (sub_nonneg.mpr upper)) (mul_nonneg nonneg (sub_nonneg.mpr bounded.2.2))
      linarith

theorem rsiValue_range (gains : 0 ≤ averageGain) (losses : 0 ≤ averageLoss) :
    0 ≤ rsiValue averageGain averageLoss ∧ rsiValue averageGain averageLoss ≤ 100 := by
  unfold rsiValue
  split_ifs with still noLoss noGain
  · norm_num
  · norm_num
  · norm_num
  · have ratio : 0 ≤ averageGain / averageLoss := div_nonneg gains losses
    have part : 100 / (1 + averageGain / averageLoss) ≤ 100 := div_le_self (by norm_num) (by linarith)
    have above : 0 ≤ 100 / (1 + averageGain / averageLoss) := div_nonneg (by norm_num) (by linarith)
    exact ⟨by linarith, by linarith⟩

theorem rsiValue_swap (gains : 0 ≤ averageGain) (losses : 0 ≤ averageLoss) :
    rsiValue averageLoss averageGain = 100 - rsiValue averageGain averageLoss := by
  unfold rsiValue
  by_cases noGain : averageGain = 0
  · by_cases noLoss : averageLoss = 0
    · norm_num [noGain, noLoss]
    · simp [noGain, noLoss]
  · by_cases noLoss : averageLoss = 0
    · simp [noGain, noLoss]
    · have sum : averageGain + averageLoss ≠ 0 := by positivity
      simp only [noGain, noLoss, false_and, if_false]
      field_simp
      ring

theorem averages_nonneg (positive : 0 < period) (warm : period ≤ values.length) :
    0 ≤ (reached period (seedAverages period) (advanceAverages period) values).1 ∧
      0 ≤ (reached period (seedAverages period) (advanceAverages period) values).2 := by
  refine reached_induction
    (motive := fun _ (averages : Decimal × Decimal) => 0 ≤ averages.1 ∧ 0 ≤ averages.2) ?_ ?_ warm
  · intro first _
    exact ⟨mean_nonneg (by simp [gain]), mean_nonneg (by simp [loss])⟩
  · rintro _ change averages _ ⟨gains, losses⟩
    exact ⟨smooth_nonneg positive gains (le_max_right _ _), smooth_nonneg positive losses (le_max_right _ _)⟩

theorem gain_neg (change : Decimal) : gain (-change) = loss change := rfl

theorem loss_neg (change : Decimal) : loss (-change) = gain change := by simp [loss, gain]

theorem changes_neg (values : List Decimal) : changes (values.map (- ·)) = (changes values).map (- ·) := by
  simp only [changes, ← List.map_drop, List.zip_map, List.map_map]
  apply List.map_congr_left
  rintro ⟨previous, value⟩ _
  simp
  ring

theorem averages_neg (period : Nat) (values : List Decimal) :
    reached period (seedAverages period) (advanceAverages period) (values.map (- ·)) =
      (reached period (seedAverages period) (advanceAverages period) values).swap := by
  have seeds : seedAverages period ((values.take period).map (- ·)) =
      (seedAverages period (values.take period)).swap := by
    simp [seedAverages, Function.comp_def, gain_neg, loss_neg]
  rw [reached, reached, ← List.map_drop, ← List.map_take, List.foldl_map, seeds]
  apply List.foldl_hom
  intro averages change
  simp [advanceAverages, gain_neg, loss_neg]

theorem averageSeries_neg (positive : 0 < period) (values : List Decimal) :
    averageSeries period (values.map (- ·)) = (averageSeries period values).map (Option.map (100 - ·)) := by
  apply List.ext_getElem?
  intro i
  rw [averageSeries, averageSeries, changes_neg, List.getElem?_map, warmedUp_getElem? positive,
    warmedUp_getElem? positive,
    List.getElem?_map, Option.map_map, Option.map_map]
  by_cases inside : i < (changes values).length
  · rw [List.getElem?_eq_getElem inside, Option.map_some, Option.map_some, Option.some.injEq]
    dsimp only [Function.comp]
    split
    · rfl
    · have warm : period ≤ ((changes values).take (i + 1)).length := by
        rw [List.length_take]
        omega
      obtain ⟨gains, losses⟩ := averages_nonneg positive warm
      rw [← List.map_take, averages_neg, Option.map_some, Prod.fst_swap, Prod.snd_swap, rsiValue_swap gains losses]
  · rw [List.getElem?_eq_none (not_lt.mp inside)]
    rfl

theorem rolling_eq {n : Nat} (positive : 0 < period) (warm : period ≤ n) (within : n ≤ values.length) :
    reached period (fun first => (first.map (·.1)).sum)
        (fun rolling (entering, leaving) => rolling + (entering - leaving))
        ((values.zip (List.replicate period 0 ++ values)).take n) =
      ((values.take n).drop (n - period)).sum := by
  have firsts : (values.zip (List.replicate period 0 ++ values)).map (·.1) = values := by
    rw [← List.unzip_fst, List.unzip_zip_left (by simp)]
  induction n, warm using Nat.le_induction with
  | base =>
    have full : ((values.zip (List.replicate period 0 ++ values)).take period).length = period := by
      simpa using within
    rw [reached, List.drop_eq_nil_of_le full.le, List.take_take, Nat.min_self, List.foldl_nil, List.map_take, firsts]
    simp
  | succ n warm ih =>
    have item : (values.zip (List.replicate period 0 ++ values))[n]? = some (values[n], values[n - period]) := by
      rw [List.getElem?_zip_eq_some]
      exact ⟨List.getElem?_eq_getElem _, by rw [List.getElem?_append_right (by simpa)]; simp⟩
    have oldest : n - period < (values.take n).length := by
      rw [List.length_take]
      omega
    have before : ((values.take n).drop (n - period)).sum =
        values[n - period] + ((values.take n).drop (n + 1 - period)).sum := by
      rw [List.drop_eq_getElem_cons oldest, List.sum_cons, List.getElem_take, Nat.sub_add_comm warm]
    rw [List.take_add_one, item, Option.toList_some, reached_concat (by simp; omega), ih (by omega), before,
      List.take_add_one, List.getElem?_eq_getElem within, Option.toList_some,
      List.drop_append_of_le_length (by simp; omega), List.sum_append, List.sum_singleton]
    ring

/-- **Indicator values stay in range.** -/
theorem indicator_ranges (values highs lows closes : List Decimal) (period : Nat) (positive : 0 < period) :
    (∃ out, rsi values period = .ok out ∧ (∀ value, some value ∈ out → 0 ≤ value ∧ value ≤ 100) ∧
      rsi (values.map (- ·)) period = .ok (out.map (Option.map (100 - ·)))) ∧
    (∃ out, ema values period = .ok out ∧
      ∀ i value, out[i]? = some (some value) → Within (values.take (i + 1)) value) ∧
    (AdmittedBars highs lows closes → ∃ ranges out, trueRanges highs lows closes = .ok ranges ∧
      atr highs lows closes period = .ok out ∧
      ∀ i value, out[i]? = some (some value) → Within (ranges.take (i + 1)) value) ∧
    ((∀ spread ∈ values, 0 ≤ spread) → ∃ out, averageSpread values period = .ok out ∧
      ∀ i value, out[i]? = some (some value) → (lastOf period (values.take (i + 1))).length = period ∧
        value = mean period (lastOf period (values.take (i + 1))) ∧ 0 ≤ value) := by
  have above : (1 : Decimal) ≤ period := by exact_mod_cast positive
  refine ⟨⟨_, rsi_eq positive, ?_, ?_⟩, ⟨_, ema_eq positive, ?_⟩, fun admitted =>
    ⟨_, _, trueRanges_eq_ok admitted, atr_eq positive admitted, ?_⟩, fun nonneg =>
    ⟨_, averageSpread_eq positive nonneg, ?_⟩⟩
  · intro value member
    rcases List.mem_append.mp member with gap | shown
    · simp at gap
    · obtain ⟨i, available⟩ := List.mem_iff_getElem?.mp shown
      obtain ⟨_, warm, rfl⟩ := reached_of_available positive available
      obtain ⟨gains, losses⟩ := averages_nonneg positive warm
      exact rsiValue_range gains losses
  · rw [rsi_eq positive, averageSeries_neg positive, ← List.map_take, List.map_map, List.map_append, List.map_map]
    rfl
  · intro i value available
    have atMost : 2 / ((period : Decimal) + 1) ≤ 1 := (div_le_one (by positivity)).mpr (by linarith)
    exact within_blended (2 / (period + 1)) positive (by positivity) atMost (fun _ _ => by ring) available
  · intro i value available
    have atMost : 1 / (period : Decimal) ≤ 1 := (div_le_one (by positivity)).mpr above
    apply within_blended (1 / period) positive (by positivity) atMost _ available
    intro previous value
    rw [smooth]
    field_simp
    ring
  · intro i value available
    obtain ⟨inside, warm, rfl⟩ := reached_of_available positive available
    have within : i < values.length := by simpa using inside
    have long : period ≤ i + 1 := warm.trans (List.length_take_le _ _)
    have count : (values.take (i + 1)).length = i + 1 := List.length_take_of_le within
    rw [rolling_eq positive long within, lastOf, count, mean]
    refine ⟨?_, rfl, div_nonneg (List.sum_nonneg fun spread member => ?_) (Nat.cast_nonneg _)⟩
    · rw [List.length_drop, count]
      omega
    · exact nonneg spread (List.mem_of_mem_take (List.mem_of_mem_drop member))

theorem indicator_ranges_short :
    (∃ out, rsi [1, 2, 1] 1 = .ok out ∧ rsi [-1, -2, -1] 1 = .ok (out.map (Option.map (100 - ·)))) ∧
    (∃ ranges out, trueRanges [2, 3] [1, 2] [1, 3] = .ok ranges ∧ atr [2, 3] [1, 2] [1, 3] 1 = .ok out) ∧
    ∃ out, averageSpread [1, 2, 1] 1 = .ok out := by
  obtain ⟨⟨strengths, answered, _, mirrored⟩, _, ranges, spreads⟩ :=
    indicator_ranges [1, 2, 1] [2, 3] [1, 2] [1, 3] 1 (by decide)
  obtain ⟨found, averages, bars, ranged, _⟩ := ranges (by simp [AdmittedBars]; norm_num)
  obtain ⟨out, rolled, _⟩ := spreads (by simp)
  exact ⟨⟨strengths, answered, mirrored⟩, ⟨found, averages, bars, ranged⟩, out, rolled⟩

end GoldFlow.Indicators
