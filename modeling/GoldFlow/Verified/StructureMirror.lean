import GoldFlow.Verified.StructureScan

/-! # Mirrored market structure

With all prices negated, highs become lows and rising becomes falling.
-/

namespace GoldFlow

open Data MarketStructure BreakScan

/-! ## Mirror images -/

def Candle.mirror (candle : Candle) : Candle :=
  { candle with
    «open» := -candle.open
    high := -candle.low
    low := -candle.high
    close := -candle.close
    high_highest := by
      have lowest := candle.low_lowest
      simp only [le_min_iff] at lowest
      simp only [max_le_iff, neg_le_neg_iff]
      exact lowest
    low_lowest := by
      have highest := candle.high_highest
      simp only [max_le_iff] at highest
      simp only [le_min_iff, neg_le_neg_iff]
      exact highest }

namespace SwingKind

def flip : SwingKind → SwingKind
  | .high => .low
  | .low => .high

@[simp] theorem flip_flip (kind : SwingKind) : kind.flip.flip = kind := by
  cases kind <;> rfl

theorem flip_eq_iff {kind other : SwingKind} : kind.flip = other ↔ kind = other.flip := by
  cases kind <;> cases other <;> decide

@[simp] theorem direction_flip (kind : SwingKind) : kind.flip.direction = kind.direction.opposite := by
  cases kind <;> rfl

@[simp] theorem opposed_flip (kind : SwingKind) : kind.flip.opposed = kind.opposed.opposite := by
  cases kind <;> rfl

@[simp] theorem sign_flip (kind : SwingKind) : kind.flip.sign = -kind.sign := by
  cases kind <;> simp [flip, sign]

@[simp] theorem extreme_flip (kind : SwingKind) (candle : Candle) :
    kind.flip.extreme candle.mirror = -kind.extreme candle := by
  cases kind <;> rfl

end SwingKind

@[simp] theorem MarketBias.opposite_opposite (bias : MarketBias) : bias.opposite.opposite = bias := by
  cases bias <;> rfl

theorem MarketBias.opposite_injective : Function.Injective MarketBias.opposite := by
  intro first second same
  rw [← first.opposite_opposite, same, second.opposite_opposite]

def SwingPoint.mirror (swing : SwingPoint) : SwingPoint :=
  { swing with kind := swing.kind.flip, price := -swing.price }

@[simp] theorem SwingPoint.mirror_mirror (swing : SwingPoint) : swing.mirror.mirror = swing := by
  simp [mirror]

theorem SwingPoint.mirror_injective : Function.Injective SwingPoint.mirror := by
  intro first second same
  rw [← first.mirror_mirror, same, second.mirror_mirror]

def StructureBreak.mirror (event : StructureBreak) : StructureBreak :=
  { event with direction := event.direction.opposite, level := -event.level }

section Swings

variable {candles : List Candle} {leftSpan rightSpan index : Nat}

theorem isPivot_mirror (kind : SwingKind) (candidate : Candle) (left right : List Candle) :
    isPivot kind.flip candidate.mirror (left.map Candle.mirror) (right.map Candle.mirror) =
      isPivot kind candidate left right := by
  simp [isPivot, Function.comp_def]

theorem extract_map (start stop : Nat) : (candles.map Candle.mirror).extract start stop =
    (candles.extract start stop).map Candle.mirror := by
  simp

theorem filter_swingsAt (kind : SwingKind) : (swingsAt candles leftSpan rightSpan index).filter (·.kind = kind) =
    (candles[index]?.toList.filter fun candidate => isPivot kind candidate (candles.extract (index - leftSpan) index)
      (candles.extract (index + 1) (index + rightSpan + 1))).map fun candidate =>
        ⟨kind, index, index + rightSpan, kind.extreme candidate⟩ := by
  unfold swingsAt
  rw [← isPivot_high, ← isPivot_low]
  cases candles[index]? with
  | none => rfl
  | some candidate =>
    dsimp only
    generalize candles.extract (index - leftSpan) index = left
    generalize candles.extract (index + 1) (index + rightSpan + 1) = right
    cases top : isPivot .high candidate left right <;> cases bottom : isPivot .low candidate left right <;>
      cases kind <;> simp [top, bottom, SwingKind.extreme]

theorem filter_foundSwings_mirror (kind : SwingKind) :
    (foundSwings (candles.map Candle.mirror) leftSpan rightSpan).filter (·.kind = kind) =
      ((foundSwings candles leftSpan rightSpan).filter (·.kind = kind.flip)).map SwingPoint.mirror := by
  have here : ∀ index, (swingsAt (candles.map Candle.mirror) leftSpan rightSpan index).filter (·.kind = kind) =
      ((swingsAt candles leftSpan rightSpan index).filter (·.kind = kind.flip)).map SwingPoint.mirror := by
    intro index
    rw [filter_swingsAt, filter_swingsAt, extract_map, extract_map, List.getElem?_map]
    cases candles[index]? with
    | none => rfl
    | some candidate =>
      have pivot := isPivot_mirror kind.flip candidate
      have price := SwingKind.extreme_flip kind.flip candidate
      rw [SwingKind.flip_flip] at pivot price
      generalize candles.extract (index - leftSpan) index = left
      generalize candles.extract (index + 1) (index + rightSpan + 1) = right
      cases swings : isPivot kind.flip candidate left right <;>
        simp [pivot, price, swings, SwingPoint.mirror]
  simp only [foundSwings, List.length_map, List.filter_flatMap, here, List.map_flatMap]

end Swings

/-! ## Comparisons -/

theorem rises_neg (prices : List Decimal) : rises (prices.map (-·)) = falls prices := by
  simp only [rises, falls, ← List.map_reverse]
  cases prices.reverse with
  | nil => rfl
  | cons last rest => cases rest <;> simp

theorem falls_neg (prices : List Decimal) : falls (prices.map (-·)) = rises prices := by
  simp only [rises, falls, ← List.map_reverse]
  cases prices.reverse with
  | nil => rfl
  | cons last rest => cases rest <;> simp

theorem not_rises_of_falls {prices : List Decimal} (falling : falls prices = true) : rises prices = false := by
  simp only [rises, falls] at falling ⊢
  split at falling
  next last previous _ _ =>
    simp only [decide_eq_true_eq] at falling
    simp only [decide_eq_false_iff_not, not_lt]
    exact falling.le
  next => cases falling

theorem biasOf_mirror (highs lows : List Decimal) :
    biasOf (falls lows) (falls highs) (rises lows) (rises highs) =
      (biasOf (rises highs) (rises lows) (falls highs) (falls lows)).opposite := by
  have high := @not_rises_of_falls highs
  have low := @not_rises_of_falls lows
  simp only [biasOf]
  cases rising : rises highs <;> cases falling : falls highs <;> cases lowRising : rises lows <;>
    cases lowFalling : falls lows <;> simp_all [MarketBias.opposite]

namespace MarketStructure

structure Mirrored (state other : BreakScan) : Prop where
  known : ∀ kind, other.known kind = (state.known kind.flip).map SwingPoint.mirror
  bias : other.bias = state.bias.opposite
  broken : ∀ kind index, (kind, index) ∈ other.broken ↔ (kind.flip, index) ∈ state.broken
  events : other.events = state.events.map StructureBreak.mirror

def MirroredSwings (swings others : List SwingPoint) : Prop :=
  ∀ kind : SwingKind, others.filter (·.kind = kind) = (swings.filter (·.kind = kind.flip)).map SwingPoint.mirror

section Mirrored

variable {swings others : List SwingPoint} {state other : BreakScan} {n : Nat} {candle : Candle} {kind : SwingKind}
  {level : SwingPoint}

theorem MirroredSwings.confirmed (mirrored : MirroredSwings swings others) (n : Nat) (kind : SwingKind) :
    (others.filter (·.confirmedIndex = n)).filter (·.kind = kind) =
      ((swings.filter (·.confirmedIndex = n)).filter (·.kind = kind.flip)).map SwingPoint.mirror := by
  rw [List.filter_comm, mirrored kind, List.filter_map, List.filter_comm]
  rfl

theorem Mirrored.ready (mirrored : Mirrored state other) (swingsMirrored : MirroredSwings swings others) :
    Mirrored (state.ready swings n) (other.ready others n) := by
  have known : ∀ kind, (other.ready others n).known kind =
      ((state.ready swings n).known kind.flip).map SwingPoint.mirror := by
    intro kind
    rw [known_ready, known_ready, mirrored.known, swingsMirrored.confirmed, List.map_append]
  refine ⟨known, ?_, ?_, ?_⟩
  · have prices : ∀ kind, ((other.ready others n).known kind).map (·.price) =
        (((state.ready swings n).known kind.flip).map (·.price)).map (-·) := by
      intro kind
      rw [known, List.map_map, List.map_map]
      rfl
    rw [bias_ready, bias_ready, prices, prices, rises_neg, rises_neg, falls_neg, falls_neg]
    exact biasOf_mirror _ _
  · simpa using mirrored.broken
  · simpa using mirrored.events

theorem Mirrored.breaks_iff (mirrored : Mirrored state other) :
    other.Breaks kind.flip n candle.mirror level.mirror ↔ state.Breaks kind n candle level := by
  have last : (other.known kind.flip).getLast? = some level.mirror ↔ (state.known kind).getLast? = some level := by
    rw [mirrored.known, SwingKind.flip_flip, List.getLast?_map, ← Option.map_some,
      (Option.map_injective SwingPoint.mirror_injective).eq_iff]
  have passed : kind.flip.sign * level.mirror.price < kind.flip.sign * candle.mirror.close ↔
      kind.sign * level.price < kind.sign * candle.close := by
    simp [SwingPoint.mirror, Candle.mirror]
  have unbroken : (level.mirror.kind, level.mirror.index) ∈ other.broken ↔
      (level.kind, level.index) ∈ state.broken := by
    rw [mirrored.broken]
    simp [SwingPoint.mirror]
  rw [Breaks, Breaks, last, passed, unbroken]
  rfl

theorem breakEvent_mirror (priorBias : MarketBias) :
    breakEvent kind.flip priorBias.opposite n level.mirror = (breakEvent kind priorBias n level).mirror := by
  simp [breakEvent, StructureBreak.mirror, SwingPoint.mirror, MarketBias.opposite_injective.eq_iff]

theorem Mirrored.extend (mirrored : Mirrored state other) (kind : SwingKind) (priorBias : MarketBias) (n : Nat)
    (level : SwingPoint) :
    Mirrored (state.extend kind priorBias n level) (other.extend kind.flip priorBias.opposite n level.mirror) where
  known := by
    intro wanted
    exact mirrored.known wanted
  bias := mirrored.bias
  broken := by
    intro wanted index
    simp only [BreakScan.extend, List.mem_append, mirrored.broken, List.mem_singleton, Prod.mk.injEq,
      SwingKind.flip_eq_iff, SwingPoint.mirror]
  events := by
    simp only [BreakScan.extend, List.map_append, List.map_singleton, mirrored.events, breakEvent_mirror]

theorem Mirrored.step {candles reflected : List Candle} (mirrored : Mirrored state other)
    (swingsMirrored : MirroredSwings swings others) (levels : Levels candles swings)
    (otherLevels : Levels reflected others)
    (scanned : Scanned candles swings n state) (otherScanned : Scanned reflected others n other)
    (found : candles[n]? = some candle) (otherFound : reflected[n]? = some candle.mirror) :
    Mirrored (step swings state (candle, n)) (step others other (candle.mirror, n)) := by
  have ready : Mirrored (state.ready swings n) (other.ready others n) := mirrored.ready swingsMirrored
  rcases scanned.step_cases levels found with ⟨kind, level, breaks, single, same⟩ | ⟨none, same⟩
  · rcases otherScanned.step_cases otherLevels otherFound with ⟨otherKind, otherLevel, otherBreaks, _, otherSame⟩ |
      ⟨none, _⟩
    · -- what breaks on the other side is the image of what breaks here
      have image : (state.ready swings n).Breaks otherKind.flip n candle otherLevel.mirror := by
        apply ready.breaks_iff.mp
        rw [SwingKind.flip_flip, SwingPoint.mirror_mirror]
        exact otherBreaks
      have sameKind : otherKind.flip = kind := by
        by_contra different
        exact single _ different _ image
      rw [sameKind] at image
      have sameLevel : otherLevel.mirror = level := Option.some.inj (image.1.symm.trans breaks.1)
      rw [same, otherSame, mirrored.bias, ← sameLevel, ← sameKind]
      have extended := ready.extend otherKind.flip state.bias n otherLevel.mirror
      rw [SwingKind.flip_flip, SwingPoint.mirror_mirror] at extended
      exact extended
    · exact absurd (ready.breaks_iff.mpr breaks) (none _ _)
  · rcases otherScanned.step_cases otherLevels otherFound with ⟨otherKind, otherLevel, otherBreaks, _, _⟩ |
      ⟨_, otherSame⟩
    · have image : (state.ready swings n).Breaks otherKind.flip n candle otherLevel.mirror := by
        apply ready.breaks_iff.mp
        rw [SwingKind.flip_flip, SwingPoint.mirror_mirror]
        exact otherBreaks
      exact absurd image (none _ _)
    · rw [same, otherSame]
      exact ready

end Mirrored

theorem structureBreaks_mirror {candles : List Candle} {swings others : List SwingPoint}
    (swingsMirrored : MirroredSwings swings others) (levels : Levels candles swings)
    (otherLevels : Levels (candles.map Candle.mirror) others) :
    structureBreaks (candles.map Candle.mirror) others =
      (structureBreaks candles swings).map StructureBreak.mirror := by
  have run : ∀ n, n ≤ candles.length →
      Mirrored (scan candles swings n) (scan (candles.map Candle.mirror) others n) := by
    intro n
    induction n with
    | zero =>
      intro _
      refine ⟨?_, rfl, ?_, rfl⟩
      · intro kind
        cases kind <;> rfl
      · intro kind index
        exact iff_of_false List.not_mem_nil List.not_mem_nil
    | succ n ih =>
      intro bound
      have found : candles[n]? = some candles[n] := List.getElem?_eq_getElem bound
      have otherFound : (candles.map Candle.mirror)[n]? = some candles[n].mirror := by
        rw [List.getElem?_map, found, Option.map_some]
      have early : n ≤ candles.length := Nat.le_of_succ_le bound
      have turn : scan candles swings (n + 1) = BreakScan.step swings (scan candles swings n) (candles[n], n) :=
        enumerated_succ found
      have otherTurn : scan (candles.map Candle.mirror) others (n + 1) =
          BreakScan.step others (scan (candles.map Candle.mirror) others n) (candles[n].mirror, n) :=
        enumerated_succ otherFound
      rw [turn, otherTurn]
      exact (ih early).step swingsMirrored levels otherLevels (scanned_scan levels early)
        (scanned_scan otherLevels (by simpa using early)) found otherFound
  rw [structureBreaks_eq, structureBreaks_eq, List.length_map]
  exact (run candles.length le_rfl).events

end MarketStructure

/-! ## The analysis -/

structure MirrorImage (analysis mirrored : StructureAnalysis) : Prop where
  bias : mirrored.bias = analysis.bias.opposite
  higherHigh : mirrored.higherHigh = analysis.lowerLow
  lowerLow : mirrored.lowerLow = analysis.higherHigh
  higherLow : mirrored.higherLow = analysis.lowerHigh
  lowerHigh : mirrored.lowerHigh = analysis.higherLow
  support : mirrored.support = analysis.resistance.map (-·)
  resistance : mirrored.resistance = analysis.support.map (-·)
  breaks : mirrored.breaks = analysis.breaks.map StructureBreak.mirror

theorem ValidSequence.mirror {candles : List Candle} (valid : ValidSequence candles) :
    ValidSequence (candles.map Candle.mirror) where
  alike := by
    simp only [List.forall_mem_map]
    exact valid.alike
  increasing := List.pairwise_map.mpr valid.increasing

section Analysis

variable {swings others : List SwingPoint}

theorem pricesOf_mirror (mirrored : MirroredSwings swings others) (kind : SwingKind) :
    pricesOf kind others = (pricesOf kind.flip swings).map (-·) := by
  rw [pricesOf, mirrored kind, pricesOf, List.map_map, List.map_map]
  rfl

theorem find?_reverse_price (kind : SwingKind) (swings : List SwingPoint) :
    (swings.reverse.find? (·.kind = kind)).map (·.price) = (pricesOf kind swings).getLast? := by
  rw [pricesOf, List.getLast?_map, ← List.head?_filter, List.filter_reverse, List.head?_reverse]

end Analysis

/-- **The rules for long and short mirror each other.** -/
theorem analyzeStructure_mirror (candles : List Candle) (leftSpan rightSpan : Nat) (valid : ValidSequence candles)
    (leftPositive : 0 < leftSpan) (rightPositive : 0 < rightSpan) :
    ∃ analysis mirrored, analyzeStructure candles leftSpan rightSpan = .ok analysis ∧
      analyzeStructure (candles.map Candle.mirror) leftSpan rightSpan = .ok mirrored ∧
      MirrorImage analysis mirrored := by
  have swings : MirroredSwings (foundSwings candles leftSpan rightSpan)
      (foundSwings (candles.map Candle.mirror) leftSpan rightSpan) := filter_foundSwings_mirror
  have highs := pricesOf_mirror swings .high
  have lows := pricesOf_mirror swings .low
  refine ⟨_, _, analyzeStructure_eq_ok valid leftPositive rightPositive,
    analyzeStructure_eq_ok valid.mirror leftPositive rightPositive, ?_⟩
  constructor
  · show biasFromSwings _ = (biasFromSwings _).opposite
    rw [biasFromSwings, highs, lows, rises_neg, rises_neg, falls_neg, falls_neg]
    exact biasOf_mirror _ _
  · show rises _ = falls _
    rw [highs, rises_neg]
    rfl
  · show falls _ = rises _
    rw [lows, falls_neg]
    rfl
  · show rises _ = falls _
    rw [lows, rises_neg]
    rfl
  · show falls _ = rises _
    rw [highs, falls_neg]
    rfl
  · show Option.map _ _ = Option.map _ (Option.map _ _)
    rw [find?_reverse_price, find?_reverse_price, lows, List.getLast?_map]
    rfl
  · show Option.map _ _ = Option.map _ (Option.map _ _)
    rw [find?_reverse_price, find?_reverse_price, highs, List.getLast?_map]
    rfl
  · exact structureBreaks_mirror swings (levels_foundSwings candles leftSpan rightPositive)
      (levels_foundSwings _ leftSpan rightPositive)

/-- The mirrored hill is a valley whose low is broken. -/
theorem hill_mirrored : ∃ analysis mirrored, analyzeStructure Demo.hill 1 1 = .ok analysis ∧
    analyzeStructure (Demo.hill.map Candle.mirror) 1 1 = .ok mirrored ∧ MirrorImage analysis mirrored :=
  analyzeStructure_mirror Demo.hill 1 1 Demo.hill_valid (by decide) (by decide)

end GoldFlow
