import GoldFlow.Backtest.WalkForward
import GoldFlow.Data.Slices
import GoldFlow.Verified.BacktestRuns
import Mathlib.Tactic.Linarith

/-! # What the dataset splits contain

The parts of a split are cut by instants.
-/

namespace GoldFlow

open Data BacktestEngine.Demo DatasetSplit

variable {candles : CandleMapping} {m5 : List Candle}

def Chronological (series : List Candle) : Prop :=
  series.Pairwise fun first second => first.timestamp < second.timestamp

instance Chronological.decidable (series : List Candle) : Decidable (Chronological series) :=
  inferInstanceAs (Decidable (series.Pairwise fun first second => first.timestamp < second.timestamp))

/-! ## The boundaries -/

theorem candleAt_eq_ok {index : Nat} {candle : Candle} : candleAt m5 index = .ok candle ↔ m5[index]? = some candle := by
  unfold candleAt
  cases m5[index]? with
  | none => simp
  | some => simp

theorem finalStep_pos (chronological : Chronological m5) {duration : Duration} (found : finalStep m5 = some duration) :
    0 < duration := by
  simp only [finalStep, Option.bind_eq_bind, Option.bind_eq_some_iff, Option.pure_def, Option.some.injEq] at found
  obtain ⟨_, guarded, last, foundLast, previous, foundPrevious, rfl⟩ := found
  have long : 2 ≤ m5.length := by
    by_contra short
    simp [short] at guarded
  have before := (key_lt_iff chronological foundPrevious foundLast).mpr (by omega)
  exact Int.sub_pos.mpr before

theorem finalStep_isSome (long : 2 ≤ m5.length) : ∃ duration, finalStep m5 = some duration := by
  have last : m5[m5.length - 1]? = some m5[m5.length - 1] := List.getElem?_eq_getElem (by omega)
  have previous : m5[m5.length - 2]? = some m5[m5.length - 2] := List.getElem?_eq_getElem (by omega)
  simp [finalStep, long, last, previous]

structure Cut (m5 : List Candle) (start trainEnd validationEnd testEnd : Nat) (bounds : Boundaries) where
  first : Candle
  validationFirst : Candle
  testFirst : Candle
  last : Candle
  step : Duration
  found_first : m5[start]? = some first
  found_validationFirst : m5[trainEnd]? = some validationFirst
  found_testFirst : m5[validationEnd]? = some testFirst
  found_last : m5[testEnd - 1]? = some last
  found_step : finalStep m5 = some step
  bounds_eq : bounds = ⟨first.timestamp, validationFirst.timestamp, testFirst.timestamp, last.timestamp + step⟩

variable {start trainEnd validationEnd testEnd : Nat} {bounds : Boundaries} {bars : WindowBars}

theorem boundaries_eq_ok :
    boundaries m5 start trainEnd validationEnd testEnd = .ok bounds ↔
      Nonempty (Cut m5 start trainEnd validationEnd testEnd bounds) := by
  unfold boundaries
  constructor
  · intro made
    cases step : finalStep m5 with
    | none => simp [step] at made
    | some duration =>
      simp only [step, bind_eq_ok, candleAt_eq_ok] at made
      obtain ⟨first, foundFirst, validationFirst, foundValidation, testFirst, foundTest, last, foundLast, same⟩ := made
      cases same
      exact ⟨⟨first, validationFirst, testFirst, last, duration, foundFirst, foundValidation, foundTest, foundLast,
        step, rfl⟩⟩
  · rintro ⟨cut⟩
    simp only [cut.found_step, bind_eq_ok, candleAt_eq_ok]
    exact ⟨_, cut.found_first, _, cut.found_validationFirst, _, cut.found_testFirst, _, cut.found_last,
      congrArg Except.ok cut.bounds_eq.symm⟩

theorem boundaries_isOk (long : 2 ≤ m5.length) (startWithin : start < m5.length) (trainWithin : trainEnd < m5.length)
    (validationWithin : validationEnd < m5.length) (testWithin : testEnd ≤ m5.length) :
    ∃ bounds, boundaries m5 start trainEnd validationEnd testEnd = .ok bounds := by
  obtain ⟨duration, step⟩ := finalStep_isSome long
  refine ⟨_, boundaries_eq_ok.mpr ⟨⟨_, _, _, _, duration, List.getElem?_eq_getElem startWithin,
    List.getElem?_eq_getElem trainWithin, List.getElem?_eq_getElem validationWithin,
    List.getElem?_eq_getElem (by omega), step, rfl⟩⟩⟩

/-! ## The M5 bars of the parts -/

theorem sliceByBounds_m5 (given : candles .m5 = some m5) (chronological : Chronological m5) {from_ until_ : Nat}
    {first next : Candle} (foundFirst : m5[from_]? = some first) (foundNext : m5[until_]? = some next) :
    sliceByBounds candles first.timestamp next.timestamp .m5 = some (m5.extract from_ until_) := by
  simp only [sliceByBounds, given, Option.map_some, Option.some.injEq]
  apply filter_eq_extract
  intro place candle found
  rw [decide_eq_true_eq, key_le_iff chronological foundFirst found, key_lt_iff chronological found foundNext]

def EndsOnTime (m5 : List Candle) (testEnd : Nat) : Prop :=
  ∀ last next duration, m5[testEnd - 1]? = some last → m5[testEnd]? = some next → finalStep m5 = some duration →
    duration ≤ next.timestamp - last.timestamp

namespace Cut

variable (cut : Cut m5 start trainEnd validationEnd testEnd bounds)
include cut

theorem train_eq : (between candles bounds).train =
    sliceByBounds candles cut.first.timestamp cut.validationFirst.timestamp := by
  simp only [between, cut.bounds_eq]

theorem validation_eq : (between candles bounds).validation =
    sliceByBounds candles cut.validationFirst.timestamp cut.testFirst.timestamp := by
  simp only [between, cut.bounds_eq]

theorem test_eq : (between candles bounds).test =
    sliceByBounds candles cut.testFirst.timestamp (cut.last.timestamp + cut.step) := by
  simp only [between, cut.bounds_eq]

variable (given : candles .m5 = some m5) (chronological : Chronological m5)
include given chronological

theorem train_m5 : (between candles bounds).train .m5 = some (m5.extract start trainEnd) := by
  rw [cut.train_eq]
  exact sliceByBounds_m5 given chronological cut.found_first cut.found_validationFirst

theorem validation_m5 : (between candles bounds).validation .m5 = some (m5.extract trainEnd validationEnd) := by
  rw [cut.validation_eq]
  exact sliceByBounds_m5 given chronological cut.found_validationFirst cut.found_testFirst

theorem mem_test {place : Nat} {candle : Candle} (found : m5[place]? = some candle) :
    candle ∈ ((between candles bounds).test .m5).getD [] ↔
      validationEnd ≤ place ∧ candle.timestamp < cut.last.timestamp + cut.step := by
  simp only [cut.test_eq, sliceByBounds, given, Option.map_some, Option.getD_some, List.mem_filter, decide_eq_true_eq,
    List.mem_of_getElem? found, true_and]
  rw [key_le_iff chronological cut.found_testFirst found]

theorem test_m5_iff (nonempty : validationEnd < testEnd) :
    (between candles bounds).test .m5 = some (m5.extract validationEnd testEnd) ↔ EndsOnTime m5 testEnd := by
  have positive := finalStep_pos chronological cut.found_step
  constructor
  · -- a bar that is too near would be one more bar of the test part
    intro exact_ last next duration foundLast foundNext foundStep
    cases foundLast.symm.trans cut.found_last
    cases foundStep.symm.trans cut.found_step
    by_contra near
    have within : next.timestamp < cut.last.timestamp + cut.step := by
      linarith
    have member := (cut.mem_test given chronological foundNext).mpr ⟨nonempty.le, within⟩
    rw [exact_, Option.getD_some, mem_extract_iff] at member
    obtain ⟨place, found, _, before⟩ := member
    exact lt_irrefl _ ((key_lt_iff chronological found foundNext).mpr before)
  · intro onTime
    simp only [cut.test_eq, sliceByBounds, given, Option.map_some, Option.some.injEq]
    apply filter_eq_extract
    intro place candle found
    rw [decide_eq_true_eq, key_le_iff chronological cut.found_testFirst found]
    apply and_congr_right
    intro _
    constructor
    · intro before
      by_contra after
      have bound := (List.getElem?_eq_some_iff.mp found).1
      have foundNext : m5[testEnd]? = some m5[testEnd] := List.getElem?_eq_getElem (by omega)
      have spaced := onTime _ _ _ cut.found_last foundNext cut.found_step
      have later := (key_le_iff chronological foundNext found).mpr (by omega)
      linarith
    · intro before
      have earlier := (key_le_iff chronological found cut.found_last).mpr (by omega)
      linarith

end Cut

/-! ## Rolling folds -/

theorem foldOffsets_getElem? {length window step : Nat} (positive : 0 < step) (index : Nat) :
    (foldOffsets length window step).zipIdx[index]? =
      if index * step + window ≤ length then some (index * step, index) else none := by
  have count : index < (length + 1 - window + step - 1) / step ↔ index * step + window ≤ length := by
    rw [Nat.lt_div_iff_mul_lt positive]
    omega
  simp only [foldOffsets, ← count]
  by_cases within : index < (length + 1 - window + step - 1) / step
  · simp [within]
  · simp [within]

structure FoldFrom (candles : CandleMapping) (m5 : List Candle) (bars : WindowBars) (offset : Nat)
    (data : DatasetSplit) : Prop where
  cut : ∃ bounds, Nonempty (Cut m5 offset (offset + bars.train) (offset + bars.train + bars.validation)
    (offset + bars.train + bars.validation + bars.test) bounds) ∧ data = .between candles bounds

theorem foldAt_eq_ok {offset index : Nat} {fold : WalkForwardFold}
    (made : foldAt candles m5 bars offset index = .ok fold) :
    fold.index = index ∧ FoldFrom candles m5 bars offset fold.data := by
  obtain ⟨bounds, bounded, same⟩ := bind_eq_ok.mp made
  cases same
  exact ⟨rfl, ⟨bounds, boundaries_eq_ok.mp bounded, rfl⟩⟩

structure Admitted (trainBars validationBars testBars : Int) (stepBars : Option Int) : Prop where
  train : 0 < trainBars
  validation : 0 < validationBars
  test : 0 < testBars
  step : ∀ step ∈ stepBars, 0 < step

def windowBars (trainBars validationBars testBars : Int) : WindowBars :=
  ⟨trainBars.toNat, validationBars.toNat, testBars.toNat⟩

def stepOf (testBars : Int) (stepBars : Option Int) : Nat := (stepBars.getD testBars).toNat

variable {trainBars validationBars testBars : Int} {stepBars : Option Int} {folds : List WalkForwardFold}

theorem admitted_of_ok
    (returned : rollingWalkForwardSplits candles trainBars validationBars testBars stepBars = .ok folds) :
    Admitted trainBars validationBars testBars stepBars := by
  unfold rollingWalkForwardSplits at returned
  split at returned
  · cases returned
  · rename_i sizes
    split at returned
    · cases returned
    · dsimp only at returned
      split at returned
      · cases returned
      · rename_i step
        simp only [List.any_cons, List.any_nil, Bool.or_false, Bool.or_eq_true, decide_eq_true_eq, not_or,
          not_le] at sizes
        refine ⟨sizes.1, sizes.2.1, sizes.2.2, ?_⟩
        rintro asked rfl
        simpa using step

theorem Admitted.stepOf_pos (admitted : Admitted trainBars validationBars testBars stepBars) :
    0 < stepOf testBars stepBars := by
  have positive : 0 < stepBars.getD testBars := by
    cases stepBars with
    | none => exact admitted.test
    | some step => exact admitted.step step rfl
  simp only [stepOf]
  omega

theorem Admitted.rolling_eq (admitted : Admitted trainBars validationBars testBars stepBars)
    (given : candles .m5 = some m5) :
    rollingWalkForwardSplits candles trainBars validationBars testBars stepBars =
      (foldOffsets m5.length (windowBars trainBars validationBars testBars).window
        (stepOf testBars stepBars)).zipIdx.mapM fun (offset, foldIndex) =>
          foldAt candles m5 (windowBars trainBars validationBars testBars) offset foldIndex := by
  have step := admitted.stepOf_pos
  have positive : ¬ stepBars.getD testBars ≤ 0 := by
    simp only [stepOf] at step
    omega
  simp [rollingWalkForwardSplits, admitted.train.not_ge, admitted.validation.not_ge, admitted.test.not_ge, given,
    positive,
    windowBars, stepOf]

structure Folds (candles : CandleMapping) (m5 : List Candle) (bars : WindowBars) (step : Nat)
    (folds : List WalkForwardFold) : Prop where
  exists_iff : ∀ index, (∃ fold, folds[index]? = some fold) ↔ index * step + bars.window ≤ m5.length
  fold : ∀ index fold, folds[index]? = some fold →
    fold.index = index ∧ FoldFrom candles m5 bars (index * step) fold.data

theorem folds_of_ok (admitted : Admitted trainBars validationBars testBars stepBars) (given : candles .m5 = some m5)
    (returned : rollingWalkForwardSplits candles trainBars validationBars testBars stepBars = .ok folds) :
    Folds candles m5 (windowBars trainBars validationBars testBars) (stepOf testBars stepBars) folds := by
  rw [admitted.rolling_eq given] at returned
  have places := mapM_getElem? returned
  simp only [foldOffsets_getElem? admitted.stepOf_pos] at places
  constructor
  · intro index
    have place := places index
    split at place
    · rename_i within
      simp only [Option.map_some, Option.map_eq_some_iff] at place
      obtain ⟨fold, found, _⟩ := place
      simp [found, within]
    · rename_i outside
      simp only [Option.map_none, Option.map_eq_none_iff] at place
      simp [place, outside]
  · intro index fold found
    have place := places index
    rw [found] at place
    split at place
    · exact foldAt_eq_ok (Option.some.inj place).symm
    · cases place

theorem rolling_isOk (admitted : Admitted trainBars validationBars testBars stepBars) (given : candles .m5 = some m5) :
    ∃ folds, rollingWalkForwardSplits candles trainBars validationBars testBars stepBars = .ok folds := by
  rw [admitted.rolling_eq given]
  apply mapM_isOk.mpr
  rintro ⟨offset, index⟩ member
  obtain ⟨place, found⟩ := List.mem_iff_getElem?.mp member
  rw [foldOffsets_getElem? admitted.stepOf_pos] at found
  split at found
  · rename_i within
    simp only [Option.some.injEq, Prod.mk.injEq] at found
    simp only [WindowBars.window, windowBars] at within
    have train := admitted.train
    have test := admitted.test
    obtain ⟨bounds, bounded⟩ := @boundaries_isOk m5 offset (offset + trainBars.toNat)
      (offset + trainBars.toNat + validationBars.toNat)
      (offset + trainBars.toNat + validationBars.toNat + testBars.toNat)
      (by omega) (by omega) (by omega) (by omega) (by omega)
    exact ⟨_, bind_eq_ok.mpr ⟨bounds, bounded, rfl⟩⟩
  · cases found

def ExactPart (m5 : List Candle) (start size : Nat) (part : Option (List Candle)) : Prop :=
  ∃ bars, part = some bars ∧ bars.length = size ∧ bars = m5.extract start (start + size)

theorem exactPart_iff {size : Nat} {part : Option (List Candle)} (within : start + size ≤ m5.length) :
    ExactPart m5 start size part ↔ part = some (m5.extract start (start + size)) := by
  constructor
  · rintro ⟨bars, rfl, _, rfl⟩
    rfl
  · rintro rfl
    refine ⟨_, rfl, ?_, rfl⟩
    simp only [List.length_take, List.length_drop]
    omega

structure ExactFold (m5 : List Candle) (bars : WindowBars) (offset : Nat) (data : DatasetSplit) : Prop where
  train : ExactPart m5 offset bars.train (data.train .m5)
  validation : ExactPart m5 (offset + bars.train) bars.validation (data.validation .m5)
  test : ExactPart m5 (offset + bars.train + bars.validation) bars.test (data.test .m5)

def DisjointTests (first second : WalkForwardFold) : Prop :=
  ((first.data.test .m5).getD []).Disjoint ((second.data.test .m5).getD [])

theorem FoldFrom.exact_iff {offset : Nat} {data : DatasetSplit} (fold : FoldFrom candles m5 bars offset data)
    (given : candles .m5 = some m5) (chronological : Chronological m5) (within : offset + bars.window ≤ m5.length)
    (tests : 0 < bars.test) : ExactFold m5 bars offset data ↔ EndsOnTime m5 (offset + bars.window) := by
  obtain ⟨bounds, ⟨cut⟩, rfl⟩ := fold.cut
  have whole : offset + bars.window = offset + bars.train + bars.validation + bars.test := by
    simp only [WindowBars.window]
    omega
  rw [whole] at within ⊢
  rw [← cut.test_m5_iff given chronological (by omega)]
  constructor
  · intro exact_
    exact (exactPart_iff (by omega)).mp exact_.test
  · intro test
    exact ⟨(exactPart_iff (by omega)).mpr (cut.train_m5 given chronological),
      (exactPart_iff (by omega)).mpr (cut.validation_m5 given chronological), (exactPart_iff (by omega)).mpr test⟩

def InOrder (earlier later : List Candle) : Prop :=
  ∀ first ∈ earlier, ∀ second ∈ later, first.timestamp < second.timestamp

theorem InOrder.disjoint {earlier later : List Candle} (inOrder : InOrder earlier later) : earlier.Disjoint later :=
  fun candle member laterMember => lt_irrefl _ (inOrder candle member candle laterMember)

theorem extract_inOrder (chronological : Chronological m5) {start stop next final : Nat} (apart : stop ≤ next) :
    InOrder (m5.extract start stop) (m5.extract next final) := by
  intro first firstMember second secondMember
  obtain ⟨place, found, _, before⟩ := mem_extract_iff.mp firstMember
  obtain ⟨later, foundLater, after, _⟩ := mem_extract_iff.mp secondMember
  exact (key_lt_iff chronological found foundLater).mpr (by omega)

structure FoldsExact (m5 : List Candle) (bars : WindowBars) (step : Nat) (stepBars : Option Int)
    (folds : List WalkForwardFold) : Prop where
  exact_ : ∀ index fold, folds[index]? = some fold → fold.index = index ∧ ExactFold m5 bars (index * step) fold.data
  disjoint : stepBars = none → folds.Pairwise DisjointTests

/-- **Walk-forward folds have the sizes asked for iff no test part is followed by a bar nearer than the last two
bars are to each other.** -/
theorem folds_exact_iff (candles : CandleMapping) (m5 : List Candle) (given : candles .m5 = some m5)
    (chronological : Chronological m5) (trainBars validationBars testBars : Int) (stepBars : Option Int)
    (admitted : Admitted trainBars validationBars testBars stepBars) :
    (∃ folds, rollingWalkForwardSplits candles trainBars validationBars testBars stepBars = .ok folds ∧
      FoldsExact m5 (windowBars trainBars validationBars testBars) (stepOf testBars stepBars) stepBars folds) ↔
    ∀ index, EndsOnTime m5 (index * stepOf testBars stepBars +
      (windowBars trainBars validationBars testBars).window) := by
  have tests : 0 < (windowBars trainBars validationBars testBars).test := by
    have := admitted.test
    simp only [windowBars]
    omega
  constructor
  · rintro ⟨folds, returned, exact_⟩ index
    have made := folds_of_ok admitted given returned
    by_cases within : index * stepOf testBars stepBars + (windowBars trainBars validationBars testBars).window ≤
        m5.length
    · obtain ⟨fold, found⟩ := (made.exists_iff index).mpr within
      exact ((made.fold index fold found).2.exact_iff given chronological within tests).mp
        (exact_.exact_ index fold found).2
    · intro last next duration _ found _
      exact absurd (List.getElem?_eq_some_iff.mp found).1 (by omega)
  · intro onTime
    obtain ⟨folds, returned⟩ := rolling_isOk admitted given
    have made := folds_of_ok admitted given returned
    have exact_ : ∀ index fold, folds[index]? = some fold → fold.index = index ∧
        ExactFold m5 (windowBars trainBars validationBars testBars) (index * stepOf testBars stepBars) fold.data := by
      intro index fold found
      obtain ⟨same, from_⟩ := made.fold index fold found
      exact ⟨same, (from_.exact_iff given chronological ((made.exists_iff index).mp ⟨fold, found⟩) tests).mpr
        (onTime index)⟩
    refine ⟨folds, returned, exact_, ?_⟩
    rintro rfl
    rw [List.pairwise_iff_getElem]
    intro index later within laterWithin before
    obtain ⟨bars, found, _, rfl⟩ := (exact_ index _ (List.getElem?_eq_getElem within)).2.test
    obtain ⟨laterBars, foundLater, _, rfl⟩ := (exact_ later _ (List.getElem?_eq_getElem laterWithin)).2.test
    rw [DisjointTests, found, foundLater]
    apply InOrder.disjoint
    apply extract_inOrder chronological
    -- the step is the size of the test, so the next test starts where the test ends
    have stepped : (index + 1) * stepOf testBars none ≤ later * stepOf testBars none := Nat.mul_le_mul_right _ before
    simp only [stepOf, Option.getD_none, windowBars, Nat.add_mul] at stepped ⊢
    omega

def Demo.fiveMinutes (minutes : List Int) : List Candle := minutes.map fun minute => bar .m5 minute 2000 2001

def Demo.onlyM5 (m5 : List Candle) : CandleMapping
  | .m5 => some m5
  | _ => none

theorem folds_exact_regular :
    ∃ folds, rollingWalkForwardSplits (Demo.onlyM5 (Demo.fiveMinutes [0, 5, 10, 15])) 1 1 1 = .ok folds ∧
    FoldsExact (Demo.fiveMinutes [0, 5, 10, 15]) (windowBars 1 1 1) (stepOf 1 none) none folds := by
  apply (folds_exact_iff _ _ rfl (by decide) 1 1 1 none ⟨by decide, by decide, by decide, by simp⟩).mpr
  intro index last next duration foundLast foundNext foundStep
  cases index with
  | zero =>
    cases foundLast
    cases foundNext
    cases foundStep
    decide
  | succ index =>
    have bound := (List.getElem?_eq_some_iff.mp foundNext).1
    simp [windowBars, WindowBars.window, stepOf, Demo.fiveMinutes] at bound
    omega

/-- The market was closed for an hour before the last bar, so the first test part takes three bars for one. -/
theorem fold_longer_than_asked : Chronological (Demo.fiveMinutes [0, 5, 10, 15, 20, 80]) ∧
    ∃ folds first second,
      rollingWalkForwardSplits (Demo.onlyM5 (Demo.fiveMinutes [0, 5, 10, 15, 20, 80])) 1 1 1 = .ok folds ∧
      folds[0]? = some first ∧ folds[1]? = some second ∧ first.data.test .m5 = some (Demo.fiveMinutes [10, 15, 20]) ∧
      ¬ DisjointTests first second := by
  refine ⟨by decide, _, _, _, rfl, rfl, rfl, by decide, ?_⟩
  intro disjoint
  exact @disjoint (bar .m5 15 2000 2001) (by decide) (by decide)

/-! ## The chronological split -/

structure AdmittedFractions (trainFraction validationFraction : Decimal) : Prop where
  train_pos : 0 < trainFraction
  validation_pos : 0 < validationFraction
  leaves_test : trainFraction + validationFraction < 1

variable {trainFraction validationFraction : Decimal}

theorem chronologicalSplit_eq_ok (given : candles .m5 = some m5) {split : DatasetSplit} :
    chronologicalSplit candles trainFraction validationFraction = .ok split ↔
      AdmittedFractions trainFraction validationFraction ∧ 5 ≤ m5.length ∧ ∃ bounds,
        Nonempty (Cut m5 0 (trainEndOf m5.length trainFraction)
          (validationEndOf m5.length trainFraction validationFraction) m5.length bounds) ∧
        split = .between candles bounds := by
  simp only [chronologicalSplit, given]
  constructor
  · intro returned
    split_ifs at returned with outside filled short
    obtain ⟨bounds, bounded, same⟩ := bind_eq_ok.mp returned
    simp only [not_or, not_not] at outside
    cases same
    exact ⟨⟨outside.1.1, outside.2.1, not_le.mp filled⟩, not_lt.mp short, bounds, boundaries_eq_ok.mp bounded, rfl⟩
  · rintro ⟨admitted, long, bounds, cut, rfl⟩
    have trainBelow : trainFraction < 1 := by linarith [admitted.validation_pos, admitted.leaves_test]
    have validationBelow : validationFraction < 1 := by linarith [admitted.train_pos, admitted.leaves_test]
    rw [if_neg (by simp [admitted.train_pos, admitted.validation_pos, trainBelow, validationBelow]),
      if_neg (not_le.mpr admitted.leaves_test), if_neg (not_lt.mpr long)]
    exact bind_eq_ok.mpr ⟨bounds, boundaries_eq_ok.mpr cut, rfl⟩

theorem AdmittedFractions.trainEnd_lt (admitted : AdmittedFractions trainFraction validationFraction) {bars : Nat}
    (long : 5 ≤ bars) : trainEndOf bars trainFraction < bars := by
  have below : ⌊bars * trainFraction⌋₊ < bars := by
    rw [Nat.floor_lt (mul_nonneg (Nat.cast_nonneg bars) admitted.train_pos.le)]
    have positive : (0 : Decimal) < bars := by exact_mod_cast (by omega : 0 < bars)
    have fraction : trainFraction < 1 := by linarith [admitted.validation_pos, admitted.leaves_test]
    nlinarith
  simp only [trainEndOf]
  omega

theorem AdmittedFractions.trainEnd_lt_validationEnd_iff (admitted : AdmittedFractions trainFraction validationFraction)
    {bars : Nat} (long : 5 ≤ bars) :
    trainEndOf bars trainFraction < validationEndOf bars trainFraction validationFraction ↔
      bars * trainFraction < bars - 1 := by
  have leaves : trainEndOf bars trainFraction < validationEndOf bars trainFraction validationFraction ↔
      ⌊bars * trainFraction⌋₊ < bars - 1 := by
    simp only [validationEndOf, trainEndOf]
    omega
  rw [leaves, Nat.floor_lt (mul_nonneg (Nat.cast_nonneg bars) admitted.train_pos.le), Nat.cast_sub (by omega),
    Nat.cast_one]

/-- Three non-empty parts that follow each other and are together the whole series. -/
structure Partition (m5 train validation test : List Candle) : Prop where
  train_nonempty : train ≠ []
  validation_nonempty : validation ≠ []
  test_nonempty : test ≠ []
  disjoint : [train, validation, test].Pairwise List.Disjoint
  inOrder : [train, validation, test].Pairwise InOrder
  whole : train ++ validation ++ test = m5

def DatasetSplit.IsPartition (split : DatasetSplit) (m5 : List Candle) : Prop :=
  ∃ train validation test, split.train .m5 = some train ∧ split.validation .m5 = some validation ∧
    split.test .m5 = some test ∧ Partition m5 train validation test

theorem Cut.parts (cut : Cut m5 start trainEnd validationEnd m5.length bounds) (given : candles .m5 = some m5)
    (chronological : Chronological m5) :
    (between candles bounds).train .m5 = some (m5.extract start trainEnd) ∧
    (between candles bounds).validation .m5 = some (m5.extract trainEnd validationEnd) ∧
    (between candles bounds).test .m5 = some (m5.extract validationEnd m5.length) := by
  have within := (List.getElem?_eq_some_iff.mp cut.found_testFirst).1
  refine ⟨cut.train_m5 given chronological, cut.validation_m5 given chronological,
    (cut.test_m5_iff given chronological within).mpr ?_⟩
  -- no bar follows the last one
  intro last next duration _ found _
  simp at found

/-- **The split is a partition into three non-empty parts iff the train fraction leaves two bars.** -/
theorem split_partition_iff (candles : CandleMapping) (m5 : List Candle) (given : candles .m5 = some m5)
    (chronological : Chronological m5) (long : 5 ≤ m5.length) (trainFraction validationFraction : Decimal)
    (admitted : AdmittedFractions trainFraction validationFraction) :
    (∃ split, chronologicalSplit candles trainFraction validationFraction = .ok split ∧ split.IsPartition m5) ↔
      m5.length * trainFraction < m5.length - 1 := by
  rw [← admitted.trainEnd_lt_validationEnd_iff long]
  have trainWithin := admitted.trainEnd_lt long
  have trainPositive : 0 < trainEndOf m5.length trainFraction := by simp [trainEndOf]
  have validationWithin : validationEndOf m5.length trainFraction validationFraction < m5.length := by
    simp only [validationEndOf]
    omega
  constructor
  · rintro ⟨split, returned, train, validation, test, _, isValidation, _, partition⟩
    obtain ⟨_, _, bounds, ⟨cut⟩, rfl⟩ := (chronologicalSplit_eq_ok given).mp returned
    rw [(cut.parts given chronological).2.1] at isValidation
    cases isValidation
    by_contra empty
    apply partition.validation_nonempty
    simp [Nat.sub_eq_zero_of_le (Nat.le_of_not_lt empty)]
  · intro apart
    obtain ⟨bounds, bounded⟩ := boundaries_isOk (by omega) (by omega : 0 < m5.length)
      trainWithin validationWithin le_rfl
    obtain ⟨cut⟩ := boundaries_eq_ok.mp bounded
    obtain ⟨isTrain, isValidation, isTest⟩ := cut.parts given chronological
    refine ⟨_, (chronologicalSplit_eq_ok given).mpr ⟨admitted, long, bounds, ⟨cut⟩, rfl⟩, _, _, _, isTrain,
      isValidation,
      isTest, ?_⟩
    have nonempty : ∀ {from_ until_ : Nat}, from_ < until_ → until_ ≤ m5.length → m5.extract from_ until_ ≠ [] := by
      intro from_ until_ before within
      apply List.ne_nil_of_length_pos
      simp only [List.length_take, List.length_drop]
      omega
    have inOrder : [m5.extract 0 (trainEndOf m5.length trainFraction),
        m5.extract (trainEndOf m5.length trainFraction) (validationEndOf m5.length trainFraction validationFraction),
        m5.extract (validationEndOf m5.length trainFraction validationFraction) m5.length].Pairwise InOrder := by
      simp only [List.pairwise_cons, List.mem_cons, List.not_mem_nil, forall_eq_or_imp,
        IsEmpty.forall_iff, implies_true, List.Pairwise.nil, and_true]
      exact ⟨⟨extract_inOrder chronological le_rfl, extract_inOrder chronological apart.le⟩,
        extract_inOrder chronological le_rfl⟩
    exact {
      train_nonempty := nonempty trainPositive trainWithin.le
      validation_nonempty := nonempty apart validationWithin.le
      test_nonempty := nonempty validationWithin le_rfl
      disjoint := inOrder.imp InOrder.disjoint
      inOrder
      whole := by
        rw [extract_append (Nat.zero_le _) apart.le, extract_append (Nat.zero_le _) validationWithin.le]
        simp }

theorem split_partition_default :
    ∃ split, chronologicalSplit (Demo.onlyM5 (Demo.fiveMinutes [0, 5, 10, 15, 20])) = .ok split ∧
    split.IsPartition (Demo.fiveMinutes [0, 5, 10, 15, 20]) :=
  (split_partition_iff _ _ rfl (by decide) (by decide) _ _ ⟨by norm_num, by norm_num, by norm_num⟩).mpr
    (by norm_num [Demo.fiveMinutes])

theorem validation_part_empty : Chronological (Demo.fiveMinutes [0, 5, 10, 15, 20]) ∧
    AdmittedFractions (85 / 100) (10 / 100) ∧
    ∃ split, chronologicalSplit (Demo.onlyM5 (Demo.fiveMinutes [0, 5, 10, 15, 20])) (85 / 100) (10 / 100) = .ok split ∧
      split.validation .m5 = some [] := by
  have evaluated : (chronologicalSplit (Demo.onlyM5 (Demo.fiveMinutes [0, 5, 10, 15, 20])) (85 / 100)
      (10 / 100)).toOption.any (fun split => split.validation .m5 = some []) = true := by
    decide +kernel
  obtain ⟨split, returned, empty⟩ := ok_of_any evaluated
  exact ⟨by decide, ⟨by norm_num, by norm_num, by norm_num⟩, split, returned, by simpa using empty⟩

/-! ## Bars in progress at a boundary -/

def ClosedBefore (part next : CandleMapping) : Prop :=
  ∀ first, (next .m5).bind List.head? = some first →
    ∀ timeframe series, part timeframe = some series → ∀ candle ∈ series, candleCloseTime candle ≤ first.timestamp

structure DatasetSplit.NoLeak (split : DatasetSplit) : Prop where
  train : ClosedBefore split.train split.validation
  validation : ClosedBefore split.validation split.test

/-- The last candle of each timeframe that opens in the part is closed at the instant. -/
def SettledAt (candles : CandleMapping) (start instant : Instant) : Prop :=
  ∀ timeframe series last, candles timeframe = some series →
    (series.filter fun candle => candle.timestamp < instant).getLast? = some last →
    start ≤ last.timestamp → candleCloseTime last ≤ instant

def ValidMapping (candles : CandleMapping) : Prop :=
  ∀ timeframe series, candles timeframe = some series → ValidSequence series

theorem ValidSequence.close_le {series : List Candle} (valid : ValidSequence series) {candle last : Candle}
    (member : candle ∈ series) (lastMember : last ∈ series) (opens : candle.timestamp ≤ last.timestamp) :
    candleCloseTime candle ≤ candleCloseTime last := by
  simp only [candleCloseTime, (valid.alike candle member last lastMember).2]
  linarith

theorem slice_closed_iff (valid : ValidMapping candles) (start instant : Instant) :
    (∀ timeframe series, sliceByBounds candles start instant timeframe = some series →
      ∀ candle ∈ series, candleCloseTime candle ≤ instant) ↔ SettledAt candles start instant := by
  constructor
  · intro closed timeframe series last given isLast opens
    have member := List.mem_filter.mp (List.mem_of_getLast? isLast)
    apply closed timeframe _ (by simp only [sliceByBounds, given]; rfl) last
    simpa [member.1, opens] using member.2
  · intro settled timeframe part sliced candle member
    simp only [sliceByBounds, Option.map_eq_some_iff] at sliced
    obtain ⟨series, given, rfl⟩ := sliced
    simp only [List.mem_filter, decide_eq_true_eq] at member
    obtain ⟨inSeries, after, before⟩ := member
    -- the candle opens before the instant, so there is a last one that does
    have selected : candle ∈ series.filter fun candle => candle.timestamp < instant := by
      simp [inSeries, before]
    obtain ⟨last, isLast⟩ : ∃ last, (series.filter fun candle => candle.timestamp < instant).getLast? = some last :=
      Option.isSome_iff_exists.mp (List.getLast?_isSome.mpr (List.ne_nil_of_mem selected))
    have lastMember := (List.mem_filter.mp (List.mem_of_getLast? isLast)).1
    have opens := key_le_getLast ((valid timeframe series given).increasing.filter _) isLast selected
    exact ((valid timeframe series given).close_le inSeries lastMember opens).trans
      (settled timeframe series last given isLast (after.trans opens))

theorem closedBefore_iff (valid : ValidMapping candles) {next : CandleMapping} {boundary : Candle}
    (heads : (next .m5).bind List.head? = some boundary) (start : Instant) :
    ClosedBefore (sliceByBounds candles start boundary.timestamp) next ↔
      SettledAt candles start boundary.timestamp := by
  rw [← slice_closed_iff valid]
  constructor
  · intro closed
    exact closed boundary heads
  · intro closed first isFirst
    cases heads.symm.trans isFirst
    exact closed

structure SettledCuts (candles : CandleMapping) (m5 : List Candle) (start trainEnd validationEnd : Nat) : Prop where
  train : trainEnd < validationEnd → ∀ first boundary, m5[start]? = some first → m5[trainEnd]? = some boundary →
    SettledAt candles first.timestamp boundary.timestamp
  validation : ∀ first boundary, m5[trainEnd]? = some first → m5[validationEnd]? = some boundary →
    SettledAt candles first.timestamp boundary.timestamp

theorem Cut.noLeak_iff (cut : Cut m5 start trainEnd validationEnd testEnd bounds) (valid : ValidMapping candles)
    (given : candles .m5 = some m5) (tests : validationEnd < testEnd) :
    (between candles bounds).NoLeak ↔ SettledCuts candles m5 start trainEnd validationEnd := by
  have chronological : Chronological m5 := (valid .m5 m5 given).increasing
  have testHead : ((between candles bounds).test .m5).bind List.head? = some cut.testFirst := by
    have positive := finalStep_pos chronological cut.found_step
    have opens := (key_le_iff chronological cut.found_testFirst cut.found_last).mpr (by omega)
    simp only [cut.test_eq, sliceByBounds, given]
    exact head_filter_between chronological (List.mem_of_getElem? cut.found_testFirst) (by linarith)
  have testIff : ClosedBefore (between candles bounds).validation (between candles bounds).test ↔
      SettledAt candles cut.validationFirst.timestamp cut.testFirst.timestamp := by
    rw [← closedBefore_iff valid testHead, cut.validation_eq]
  have trainIff : ClosedBefore (between candles bounds).train (between candles bounds).validation ↔
      (trainEnd < validationEnd → SettledAt candles cut.first.timestamp cut.validationFirst.timestamp) := by
    have part := cut.validation_m5 given chronological
    by_cases nonempty : trainEnd < validationEnd
    · have head : ((between candles bounds).validation .m5).bind List.head? = some cut.validationFirst := by
        rw [part, Option.bind_some, List.head?_eq_getElem?, List.extract_eq_take_drop,
          List.getElem?_take_of_lt (by omega), List.getElem?_drop, Nat.add_zero, cut.found_validationFirst]
      rw [imp_iff_right nonempty, ← closedBefore_iff valid head, cut.train_eq]
    · -- an empty validation part has no first candle
      simp only [nonempty, false_implies, iff_true]
      intro first isFirst
      simp [part, Nat.sub_eq_zero_of_le (Nat.le_of_not_lt nonempty)] at isFirst
  constructor
  · intro noLeak
    constructor
    · intro nonempty first boundary foundFirst foundBoundary
      cases foundFirst.symm.trans cut.found_first
      cases foundBoundary.symm.trans cut.found_validationFirst
      exact trainIff.mp noLeak.train nonempty
    · intro first boundary foundFirst foundBoundary
      cases foundFirst.symm.trans cut.found_validationFirst
      cases foundBoundary.symm.trans cut.found_testFirst
      exact testIff.mp noLeak.validation
  · intro settled
    exact ⟨trainIff.mpr fun nonempty => settled.train nonempty _ _ cut.found_first cut.found_validationFirst,
      testIff.mpr (settled.validation _ _ cut.found_validationFirst cut.found_testFirst)⟩

/-- **A part sees nothing of the next one iff, at the boundary, the last bar of each timeframe that has opened
is closed.** -/
theorem split_no_leak_iff (candles : CandleMapping) (m5 : List Candle) (given : candles .m5 = some m5)
    (valid : ValidMapping candles) :
    (∀ trainFraction validationFraction split, chronologicalSplit candles trainFraction validationFraction = .ok split →
      (split.NoLeak ↔ SettledCuts candles m5 0 (trainEndOf m5.length trainFraction)
        (validationEndOf m5.length trainFraction validationFraction))) ∧
    (∀ trainBars validationBars testBars stepBars folds,
      rollingWalkForwardSplits candles trainBars validationBars testBars stepBars = .ok folds →
      ∀ index fold, folds[index]? = some fold →
        (fold.data.NoLeak ↔ SettledCuts candles m5 (index * stepOf testBars stepBars)
          (index * stepOf testBars stepBars + trainBars.toNat)
          (index * stepOf testBars stepBars + trainBars.toNat + validationBars.toNat))) := by
  constructor
  · intro trainFraction validationFraction split returned
    obtain ⟨_, long, bounds, ⟨cut⟩, rfl⟩ := (chronologicalSplit_eq_ok given).mp returned
    apply cut.noLeak_iff valid given
    simp only [validationEndOf]
    omega
  · intro trainBars validationBars testBars stepBars folds returned index fold found
    have admitted : Admitted trainBars validationBars testBars stepBars := admitted_of_ok returned
    obtain ⟨_, from_⟩ := (folds_of_ok admitted given returned).fold index fold found
    obtain ⟨bounds, ⟨cut⟩, same⟩ := from_.cut
    rw [same]
    apply cut.noLeak_iff valid given
    have := admitted.test
    simp only [windowBars]
    omega

def Demo.withHour (hour : Candle) : CandleMapping
  | .h1 => some [hour]
  | .m15 => some [bar .m15 0 2000 2001]
  | .m5 => some (Demo.fiveMinutes [0, 5, 10, 15, 20])
  | _ => none

theorem Demo.withHour_valid (hour : Candle) : ValidMapping (Demo.withHour hour) := by
  intro timeframe series given
  cases timeframe with
  | h1 | m15 =>
    cases given
    exact ⟨by simp, by simp⟩
  | m5 =>
    cases given
    exact ⟨by decide, by decide⟩
  | m1 | m30 | h4 | d1 => cases given

theorem split_no_leak_past_hour : ∃ split, chronologicalSplit (Demo.withHour (bar .h1 (-60) 2000 2001)) = .ok split ∧
    split.NoLeak := by
  have evaluated : (chronologicalSplit (Demo.withHour (bar .h1 (-60) 2000 2001))).toOption.isSome = true := by
    decide +kernel
  obtain ⟨split, returned⟩ := ok_of_isSome evaluated
  refine ⟨split, returned, ?_⟩
  apply ((split_no_leak_iff _ _ rfl (Demo.withHour_valid _)).1 _ _ split returned).mpr
  have train : trainEndOf (Demo.fiveMinutes [0, 5, 10, 15, 20]).length (60 / 100) = 3 := by decide +kernel
  have validation : validationEndOf (Demo.fiveMinutes [0, 5, 10, 15, 20]).length (60 / 100) (20 / 100) = 4 := by
    decide +kernel
  rw [train, validation]
  constructor
  · intro _ first boundary foundFirst foundBoundary timeframe series last given isLast
    cases foundFirst
    cases foundBoundary
    cases timeframe <;> cases given <;> cases isLast <;> decide
  · intro first boundary foundFirst foundBoundary timeframe series last given isLast
    cases foundFirst
    cases foundBoundary
    cases timeframe <;> cases given <;> cases isLast <;> decide

/-- The hour of the split is in the train part, and closes after the test has begun. -/
theorem training_sees_evaluation : ValidMapping (Demo.withHour (bar .h1 0 2000 2001)) ∧
    ∃ split, chronologicalSplit (Demo.withHour (bar .h1 0 2000 2001)) = .ok split ∧
      split.train .h1 = some [bar .h1 0 2000 2001] ∧ split.validation .m5 = some (Demo.fiveMinutes [15]) ∧
      ¬ split.NoLeak := by
  have evaluated : (chronologicalSplit (Demo.withHour (bar .h1 0 2000 2001))).toOption.any (fun split =>
      split.train .h1 = some [bar .h1 0 2000 2001] ∧ split.validation .m5 = some (Demo.fiveMinutes [15])) = true := by
    decide +kernel
  obtain ⟨split, returned, contents⟩ := ok_of_any evaluated
  simp only [decide_eq_true_eq] at contents
  refine ⟨Demo.withHour_valid _, split, returned, contents.1, contents.2, ?_⟩
  intro noLeak
  have closed := noLeak.train (bar .m5 15 2000 2001) (by rw [contents.2]; rfl) .h1 _ contents.1 _ List.mem_cons_self
  exact absurd closed (by decide)

end GoldFlow
