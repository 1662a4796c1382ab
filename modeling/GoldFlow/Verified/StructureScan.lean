import GoldFlow.Data.Enumerate
import GoldFlow.Market.Structure
import GoldFlow.Verified.BacktestRuns
import Mathlib.Tactic.Linarith

/-! # Market structure as it becomes known -/

namespace GoldFlow

open Data

namespace SwingKind

def sign : SwingKind → Decimal
  | .high => 1
  | .low => -1

def extreme : SwingKind → Candle → Decimal
  | .high => Candle.high
  | .low => Candle.low

def direction : SwingKind → MarketBias
  | .high => .bullish
  | .low => .bearish

def opposed : SwingKind → MarketBias
  | .high => .bearish
  | .low => .bullish

theorem close_le_extreme (kind : SwingKind) (candle : Candle) :
    kind.sign * candle.close ≤ kind.sign * kind.extreme candle := by
  have highest := candle.high_highest
  have lowest := candle.low_lowest
  simp only [max_le_iff, le_min_iff] at highest lowest
  cases kind <;> simp [sign, extreme] <;> linarith

end SwingKind

namespace MarketStructure

/-! ## Swings -/

def isPivot (kind : SwingKind) (candidate : Candle) (left right : List Candle) : Bool :=
  left.all (fun item => kind.sign * kind.extreme item < kind.sign * kind.extreme candidate) &&
    right.all (fun item => kind.sign * kind.extreme item ≤ kind.sign * kind.extreme candidate) &&
    right.any (fun item => kind.sign * kind.extreme item < kind.sign * kind.extreme candidate)

theorem isPivot_high : isPivot .high = highIsSwing := by
  funext candidate left right
  simp [isPivot, highIsSwing, SwingKind.sign, SwingKind.extreme]

theorem isPivot_low : isPivot .low = lowIsSwing := by
  funext candidate left right
  simp [isPivot, lowIsSwing, SwingKind.sign, SwingKind.extreme]

section Swings

variable {candles : List Candle} {leftSpan rightSpan index : Nat} {swing : SwingPoint}

theorem mem_swingsAt : swing ∈ swingsAt candles leftSpan rightSpan index ↔
    ∃ candidate, candles[index]? = some candidate ∧
    isPivot swing.kind candidate (candles.extract (index - leftSpan) index)
      (candles.extract (index + 1) (index + rightSpan + 1)) = true ∧
    swing = ⟨swing.kind, index, index + rightSpan, swing.kind.extreme candidate⟩ := by
  unfold swingsAt
  cases candles[index]? with
  | none => simp
  | some =>
    simp only [List.mem_append, List.mem_ite_nil_right, List.mem_singleton, Option.some.injEq, exists_eq_left',
      ← isPivot_high,
      ← isPivot_low]
    constructor
    · rintro (⟨pivot, rfl⟩ | ⟨pivot, rfl⟩)
      · exact ⟨pivot, rfl⟩
      · exact ⟨pivot, rfl⟩
    · rintro ⟨pivot, same⟩
      obtain ⟨kind, place, confirmed, price⟩ := swing
      cases kind with
      | high => exact .inl ⟨pivot, same⟩
      | low => exact .inr ⟨pivot, same⟩

structure Confirmed (candles : List Candle) (rightSpan : Nat) (swing : SwingPoint) : Prop where
  confirmed : swing.confirmedIndex = swing.index + rightSpan
  within : swing.confirmedIndex < candles.length
  /-- the candles that confirm it stay within the level -/
  held : ∀ place candle, swing.index < place → place ≤ swing.confirmedIndex → candles[place]? = some candle →
    swing.kind.sign * swing.kind.extreme candle ≤ swing.kind.sign * swing.price

theorem mem_extract {candle : Candle} {start stop place : Nat} (found : candles[place]? = some candle)
    (after : start ≤ place) (before : place < stop) : candle ∈ candles.extract start stop := by
  apply List.mem_of_getElem? (i := place - start)
  rw [List.getElem?_take_of_lt (by omega), List.getElem?_drop, Nat.add_sub_cancel' after, found]

theorem confirmed_of_mem (member : swing ∈ foundSwings candles leftSpan rightSpan) :
    Confirmed candles rightSpan swing := by
  obtain ⟨index, inside, member⟩ := List.mem_flatMap.mp member
  obtain ⟨candidate, found, pivot, same⟩ := mem_swingsAt.mp member
  rw [List.mem_range'_1] at inside
  simp only [isPivot, Bool.and_eq_true, List.all_eq_true, decide_eq_true_eq] at pivot
  obtain ⟨⟨_, right⟩, _⟩ := pivot
  rw [same]
  refine ⟨rfl, by simp only; omega, ?_⟩
  intro place candle after before found
  have bound : place ≤ index + rightSpan := before
  exact right candle (mem_extract found after (by omega))

theorem foundSwings_sorted : (foundSwings candles leftSpan rightSpan).Pairwise fun first second =>
    sortedBefore first second = true := by
  rw [foundSwings, List.pairwise_flatMap]
  constructor
  · intro index _
    unfold swingsAt
    cases candles[index]? with
    | none => exact .nil
    | some =>
      dsimp only
      split <;> split <;> simp [sortedBefore]
  · have increasing : (List.range' leftSpan (candles.length - rightSpan - leftSpan)).Pairwise (· < ·) :=
      List.pairwise_lt_range'
    apply increasing.imp
    intro earlier later before first firstMember second secondMember
    obtain ⟨_, _, _, firstSame⟩ := mem_swingsAt.mp firstMember
    obtain ⟨_, _, _, secondSame⟩ := mem_swingsAt.mp secondMember
    rw [firstSame, secondSame]
    simp [sortedBefore, before]

theorem confirmedSwings_eq_ok (leftPositive : 0 < leftSpan) (rightPositive : 0 < rightSpan)
    (valid : ValidSequence candles) :
    confirmedSwings candles leftSpan rightSpan = .ok (foundSwings candles leftSpan rightSpan) := by
  have checked := validateCandleSequence_eq_ok.mpr ⟨valid, rfl⟩
  unfold confirmedSwings
  rw [if_neg (by omega), checked]
  exact congrArg Except.ok foundSwings_sorted.insertionSort_eq

theorem extract_take {n start stop : Nat} (within : stop ≤ n) :
    (candles.take n).extract start stop = candles.extract start stop := by
  simp only [List.extract_eq_take_drop, List.drop_take, List.take_take]
  congr 1
  omega

theorem swingsAt_take {n : Nat} (confirmed : index + rightSpan < n) :
    swingsAt (candles.take n) leftSpan rightSpan index = swingsAt candles leftSpan rightSpan index := by
  unfold swingsAt
  rw [List.getElem?_take_of_lt (by omega), extract_take (by omega), extract_take (by omega)]

theorem foundSwings_take (n : Nat) :
    foundSwings (candles.take n) leftSpan rightSpan =
      (foundSwings candles leftSpan rightSpan).filter (·.confirmedIndex < n) := by
  have confirmed : ∀ index, (swingsAt candles leftSpan rightSpan index).filter (·.confirmedIndex < n) =
      if index + rightSpan < n then swingsAt candles leftSpan rightSpan index else [] := by
    intro index
    split
    next inside =>
      rw [List.filter_eq_self]
      intro swing member
      obtain ⟨_, _, _, same⟩ := mem_swingsAt.mp member
      rw [same]
      simpa using inside
    next outside =>
      rw [List.filter_eq_nil_iff]
      intro swing member
      obtain ⟨_, _, _, same⟩ := mem_swingsAt.mp member
      rw [same]
      simpa using outside
  -- the candidates of the prefix come first
  have split : candles.length - rightSpan - leftSpan = (min n candles.length - rightSpan - leftSpan) +
      (candles.length - rightSpan - leftSpan - (min n candles.length - rightSpan - leftSpan)) := by
    omega
  simp only [foundSwings, List.filter_flatMap, confirmed, List.length_take]
  rw [split, ← List.range'_append_1, List.flatMap_append]
  have early : ∀ place ∈ List.range' leftSpan (min n candles.length - rightSpan - leftSpan),
      swingsAt (candles.take n) leftSpan rightSpan place =
        if place + rightSpan < n then swingsAt candles leftSpan rightSpan place else [] := by
    intro place member
    rw [List.mem_range'_1] at member
    rw [if_pos (by omega), swingsAt_take (by omega)]
  have late : ∀ place ∈ List.range' (leftSpan + (min n candles.length - rightSpan - leftSpan))
      (candles.length - rightSpan - leftSpan - (min n candles.length - rightSpan - leftSpan)),
      (if place + rightSpan < n then swingsAt candles leftSpan rightSpan place else []) = [] := by
    intro place member
    rw [List.mem_range'_1] at member
    rw [if_neg (by omega)]
  rw [List.flatMap_congr early, List.flatMap_eq_nil_iff.mpr late, List.append_nil]

end Swings

namespace BreakScan

variable {state : BreakScan} {swings : List SwingPoint} {kind : SwingKind} {priorBias : MarketBias} {index : Nat}
  {candle : Candle}

def known (kind : SwingKind) (state : BreakScan) : List SwingPoint :=
  match kind with
  | .high => state.knownHighs
  | .low => state.knownLows

def Breaks (kind : SwingKind) (index : Nat) (candle : Candle) (state : BreakScan) (level : SwingPoint) : Prop :=
  (state.known kind).getLast? = some level ∧ level.index < index ∧
    kind.sign * level.price < kind.sign * candle.close ∧ (level.kind, level.index) ∉ state.broken

def breakEvent (kind : SwingKind) (priorBias : MarketBias) (index : Nat) (level : SwingPoint) : StructureBreak :=
  ⟨if priorBias = kind.opposed then .choch else .bos, kind.direction, index, level.price, level.index⟩

def breakLevel (kind : SwingKind) (priorBias : MarketBias) (index : Nat) (candle : Candle) (state : BreakScan) :
    BreakScan :=
  match kind with
  | .high => breakHigh priorBias index candle state
  | .low => breakLow priorBias index candle state

def extend (state : BreakScan) (kind : SwingKind) (priorBias : MarketBias) (index : Nat) (level : SwingPoint) :
    BreakScan :=
  { state with
    events := state.events ++ [breakEvent kind priorBias index level]
    broken := state.broken ++ [(level.kind, level.index)] }

theorem breakLevel_cases (kind : SwingKind) (priorBias : MarketBias) (index : Nat) (candle : Candle)
    (state : BreakScan) :
    (∃ level, state.Breaks kind index candle level ∧
      breakLevel kind priorBias index candle state = state.extend kind priorBias index level) ∨
    (∀ level, ¬ state.Breaks kind index candle level) ∧ breakLevel kind priorBias index candle state = state := by
  cases kind with
  | high =>
    simp only [breakLevel, breakHigh, Breaks, known, SwingKind.sign, one_mul]
    cases state.knownHighs.getLast? with
    | none => simp
    | some level =>
      by_cases broken : level.index < index ∧ level.price < candle.close ∧ (level.kind, level.index) ∉ state.broken
      · exact .inl ⟨level, ⟨rfl, broken⟩, if_pos broken⟩
      · refine .inr ⟨?_, if_neg broken⟩
        rintro other ⟨same, breaks⟩
        cases same
        exact broken breaks
  | low =>
    simp only [breakLevel, breakLow, Breaks, known, SwingKind.sign, neg_mul, one_mul, neg_lt_neg_iff]
    cases state.knownLows.getLast? with
    | none => simp
    | some level =>
      by_cases broken : level.index < index ∧ candle.close < level.price ∧ (level.kind, level.index) ∉ state.broken
      · exact .inl ⟨level, ⟨rfl, broken⟩, if_pos broken⟩
      · refine .inr ⟨?_, if_neg broken⟩
        rintro other ⟨same, breaks⟩
        cases same
        exact broken breaks

def ready (swings : List SwingPoint) (index : Nat) (state : BreakScan) : BreakScan :=
  ((swings.filter (·.confirmedIndex = index)).foldl confirm state).rebias

theorem step_eq : step swings state (candle, index) =
    breakLevel .low state.bias index candle (breakLevel .high state.bias index candle (state.ready swings index)) := rfl

theorem foldl_confirm (new : List SwingPoint) (state : BreakScan) :
    new.foldl confirm state =
      { state with
        knownHighs := state.knownHighs ++ new.filter (·.kind = .high)
        knownLows := state.knownLows ++ new.filter (·.kind = .low) } := by
  induction new generalizing state with
  | nil => simp
  | cons swing new ih =>
    rw [List.foldl_cons, ih]
    cases same : swing.kind <;> simp [confirm, same]

theorem known_ready (kind : SwingKind) : (state.ready swings index).known kind =
    state.known kind ++ (swings.filter (·.confirmedIndex = index)).filter (·.kind = kind) := by
  cases kind <;> simp [ready, rebias, foldl_confirm, known]

@[simp] theorem broken_ready : (state.ready swings index).broken = state.broken := by
  simp [ready, rebias, foldl_confirm]

@[simp] theorem events_ready : (state.ready swings index).events = state.events := by
  simp [ready, rebias, foldl_confirm]

theorem bias_ready : (state.ready swings index).bias =
    biasOf (rises (((state.ready swings index).known .high).map (·.price)))
      (rises (((state.ready swings index).known .low).map (·.price)))
      (falls (((state.ready swings index).known .high).map (·.price)))
      (falls (((state.ready swings index).known .low).map (·.price))) := rfl

theorem events_extend_ready (level : SwingPoint) :
    ((state.ready swings index).extend kind priorBias index level).events =
      state.events ++ [breakEvent kind priorBias index level] := by
  simp [extend]

theorem broken_extend_ready (level : SwingPoint) :
    ((state.ready swings index).extend kind priorBias index level).broken =
      state.broken ++ [(level.kind, level.index)] := by
  simp [extend]

@[simp] theorem known_extend (kind other : SwingKind) (level : SwingPoint) :
    (state.extend other priorBias index level).known kind = state.known kind := by
  cases kind <;> rfl

end BreakScan

end MarketStructure

def StructureBreak.swingKey (event : StructureBreak) : SwingKind × Nat :=
  (if event.direction = .bullish then .high else .low, event.swingIndex)

namespace MarketStructure

/-! ## What the scan keeps -/

def knownAt (swings : List SwingPoint) (n : Nat) : List SwingPoint := swings.filter (·.confirmedIndex < n)

/-- An event breaks a known swing, and is a change of character exactly if the known swings pointed the other
way. -/
structure Justified (swings : List SwingPoint) (event : StructureBreak) (level : SwingPoint) : Prop where
  swing : level ∈ swings
  swingIndex : event.swingIndex = level.index
  price : event.level = level.price
  direction : event.direction = level.kind.direction
  earlier : level.confirmedIndex < event.index
  kind : event.kind = if biasFromSwings (knownAt swings event.index) = level.kind.opposed then .choch else .bos

structure Levels (candles : List Candle) (swings : List SwingPoint) : Prop where
  sorted : swings.Pairwise fun first second => first.confirmedIndex ≤ second.confirmedIndex
  later : ∀ swing ∈ swings, swing.index < swing.confirmedIndex
  held : ∀ swing ∈ swings, ∀ place candle, swing.index < place → place ≤ swing.confirmedIndex →
    candles[place]? = some candle → swing.kind.sign * candle.close ≤ swing.kind.sign * swing.price

/-- The variables of the loop after `n` turns. -/
structure Scanned (candles : List Candle) (swings : List SwingPoint) (n : Nat) (state : BreakScan) : Prop where
  known : ∀ kind, state.known kind = (knownAt swings n).filter (·.kind = kind)
  bias : state.bias = biasFromSwings (knownAt swings n)
  broken : state.broken = state.events.map StructureBreak.swingKey
  /-- no close since its confirmation is beyond the last level, unless it is broken -/
  held : ∀ kind level, (state.known kind).getLast? = some level → (kind, level.index) ∉ state.broken →
    ∀ place candle, level.confirmedIndex ≤ place → place < n → candles[place]? = some candle →
      kind.sign * candle.close ≤ kind.sign * level.price
  justified : ∀ event ∈ state.events, event.index < n ∧ ∃ level, Justified swings event level
  distinct : (state.events.map StructureBreak.swingKey).Nodup
  increasing : state.events.Pairwise fun first second => first.index < second.index

section Scan

open BreakScan

variable {candles : List Candle} {swings : List SwingPoint} {n : Nat} {state : BreakScan} {kind : SwingKind}
  {candle : Candle} {level : SwingPoint}

theorem knownAt_succ (levels : Levels candles swings) (n : Nat) :
    knownAt swings (n + 1) = knownAt swings n ++ swings.filter (·.confirmedIndex = n) :=
  filter_key_succ levels.sorted n

section

variable (levels : Levels candles swings) (scanned : Scanned candles swings n state)
include levels scanned

theorem Scanned.known_ready (kind : SwingKind) :
    (state.ready swings n).known kind = (knownAt swings (n + 1)).filter (·.kind = kind) := by
  rw [BreakScan.known_ready, scanned.known, knownAt_succ levels, List.filter_append]

theorem Scanned.bias_ready : (state.ready swings n).bias = biasFromSwings (knownAt swings (n + 1)) := by
  rw [BreakScan.bias_ready, scanned.known_ready levels, scanned.known_ready levels]
  rfl

theorem Scanned.level_known (last : ((state.ready swings n).known kind).getLast? = some level) :
    level ∈ swings ∧ level.kind = kind ∧ level.confirmedIndex ≤ n := by
  rw [scanned.known_ready levels] at last
  have member := List.mem_of_getLast? last
  simp only [knownAt, List.mem_filter, decide_eq_true_eq] at member
  exact ⟨member.1.1, member.2, Nat.lt_succ_iff.mp member.1.2⟩

end

theorem Scanned.held_ready (scanned : Scanned candles swings n state)
    (last : ((state.ready swings n).known kind).getLast? = some level) (free : (kind, level.index) ∉ state.broken) :
    ∀ place candle, level.confirmedIndex ≤ place → place < n → candles[place]? = some candle →
      kind.sign * candle.close ≤ kind.sign * level.price := by
  intro place candle after before found
  rw [BreakScan.known_ready, List.getLast?_append] at last
  cases new : ((swings.filter (·.confirmedIndex = n)).filter (·.kind = kind)).getLast? with
  | none =>
    rw [new, Option.none_or] at last
    exact scanned.held kind level last free place candle after before found
  | some =>
    -- a level that has just been confirmed
    rw [new, Option.some_or, Option.some.injEq] at last
    have member := List.mem_of_getLast? new
    simp only [List.mem_filter, decide_eq_true_eq] at member
    subst last
    omega

section

variable (levels : Levels candles swings) (scanned : Scanned candles swings n state)
    (found : candles[n]? = some candle)
include levels scanned found

theorem Scanned.confirmed_lt (breaks : (state.ready swings n).Breaks kind n candle level) :
    level.confirmedIndex < n := by
  obtain ⟨member, same, known⟩ := scanned.level_known levels breaks.1
  apply Nat.lt_of_le_of_ne known
  intro justConfirmed
  have held := levels.held level member n candle breaks.2.1 justConfirmed.ge found
  rw [same] at held
  exact absurd breaks.2.2.1 (not_lt.mpr held)

theorem Scanned.single {highest lowest : SwingPoint} (above : (state.ready swings n).Breaks .high n candle highest) :
    ¬ (state.ready swings n).Breaks .low n candle lowest := by
  intro below
  have highKnown := scanned.confirmed_lt levels found above
  have lowKnown := scanned.confirmed_lt levels found below
  obtain ⟨_, highKind, _⟩ := scanned.level_known levels above.1
  obtain ⟨_, lowKind, _⟩ := scanned.level_known levels below.1
  obtain ⟨highLast, _, passed, highFree⟩ := above
  obtain ⟨lowLast, _, undercut, lowFree⟩ := below
  rw [highKind, broken_ready] at highFree
  rw [lowKind, broken_ready] at lowFree
  -- the close before lies within both levels
  obtain ⟨before, earlier⟩ : ∃ before, candles[n - 1]? = some before :=
    ⟨_, List.getElem?_eq_getElem (by have := (List.getElem?_eq_some_iff.mp found).1; omega)⟩
  have within := scanned.held_ready highLast highFree (n - 1) before (by omega) (by omega) earlier
  have beyond := scanned.held_ready lowLast lowFree (n - 1) before (by omega) (by omega) earlier
  simp only [SwingKind.sign] at *
  linarith

theorem Scanned.step_cases :
    (∃ kind level, (state.ready swings n).Breaks kind n candle level ∧
      (∀ other, other ≠ kind → ∀ level, ¬ (state.ready swings n).Breaks other n candle level) ∧
      step swings state (candle, n) = (state.ready swings n).extend kind state.bias n level) ∨
    (∀ kind level, ¬ (state.ready swings n).Breaks kind n candle level) ∧
      step swings state (candle, n) = state.ready swings n := by
  rw [step_eq]
  rcases breakLevel_cases .high state.bias n candle (state.ready swings n) with ⟨level, above, same⟩ | ⟨within, same⟩
  · have single : ∀ lowest, ¬ (state.ready swings n).Breaks .low n candle lowest :=
      fun lowest => scanned.single levels found above
    refine .inl ⟨.high, level, above, ?_, ?_⟩
    · intro other apart
      cases other with
      | high => exact absurd rfl apart
      | low => exact single
    · rw [same]
      rcases breakLevel_cases .low state.bias n candle ((state.ready swings n).extend .high state.bias n level) with
        ⟨lowest, ⟨last, later, undercut, free⟩, _⟩ | ⟨_, unchanged⟩
      · rw [known_extend] at last
        have unbroken : (lowest.kind, lowest.index) ∉ (state.ready swings n).broken :=
          fun member => free (List.mem_append_left _ member)
        exact absurd ⟨last, later, undercut, unbroken⟩ (single lowest)
      · exact unchanged
  · rw [same]
    rcases breakLevel_cases .low state.bias n candle (state.ready swings n) with ⟨level, below, lower⟩ |
      ⟨above, unchanged⟩
    · refine .inl ⟨.low, level, below, ?_, lower⟩
      intro other apart
      cases other with
      | high => exact within
      | low => exact absurd rfl apart
    · refine .inr ⟨?_, unchanged⟩
      intro kind
      cases kind with
      | high => exact within
      | low => exact above

end

theorem scanned_zero : Scanned candles swings 0 {} where
  known kind := by cases kind <;> simp [knownAt, BreakScan.known]
  bias := by simp [knownAt, biasFromSwings, pricesOf, rises, falls, biasOf]
  broken := rfl
  held := by simp
  justified := by simp
  distinct := .nil
  increasing := .nil

theorem Scanned.held_unbroken (levels : Levels candles swings) (scanned : Scanned candles swings n state)
    (found : candles[n]? = some candle) (last : ((state.ready swings n).known kind).getLast? = some level)
    (free : (kind, level.index) ∉ state.broken) (unbroken : ¬ (state.ready swings n).Breaks kind n candle level) :
    ∀ place candle, level.confirmedIndex ≤ place → place < n + 1 → candles[place]? = some candle →
      kind.sign * candle.close ≤ kind.sign * level.price := by
  intro place other after before here
  rcases Nat.lt_succ_iff_lt_or_eq.mp before with earlier | rfl
  · exact scanned.held_ready last free place other after earlier here
  · obtain ⟨member, same, known⟩ := scanned.level_known levels last
    have later := levels.later level member
    rw [found] at here
    cases here
    by_contra passed
    apply unbroken
    refine ⟨last, by omega, not_le.mp passed, ?_⟩
    rw [same, broken_ready]
    exact free

theorem swingKey_breakEvent (priorBias : MarketBias) (same : level.kind = kind) :
    (breakEvent kind priorBias n level).swingKey = (level.kind, level.index) := by
  rw [same]
  cases kind <;> rfl

theorem Scanned.step (levels : Levels candles swings) (scanned : Scanned candles swings n state)
    (found : candles[n]? = some candle) : Scanned candles swings (n + 1) (step swings state (candle, n)) := by
  have before : ∀ event ∈ state.events, event.index < n + 1 ∧ ∃ level, Justified swings event level := by
    intro event member
    obtain ⟨early, justified⟩ := scanned.justified event member
    exact ⟨by omega, justified⟩
  rcases scanned.step_cases levels found with ⟨kind, level, breaks, others, same⟩ | ⟨none, same⟩
  · obtain ⟨member, levelKind, _⟩ := scanned.level_known levels breaks.1
    have earlier := scanned.confirmed_lt levels found breaks
    have free : (level.kind, level.index) ∉ state.broken := by simpa using breaks.2.2.2
    have key := swingKey_breakEvent (n := n) state.bias levelKind
    have eventsAre : ((state.ready swings n).extend kind state.bias n level).events =
        state.events ++ [breakEvent kind state.bias n level] := events_extend_ready level
    have brokenAre : ((state.ready swings n).extend kind state.bias n level).broken =
        state.broken ++ [(level.kind, level.index)] := broken_extend_ready level
    rw [same]
    constructor
    · intro other
      exact scanned.known_ready levels other
    · exact scanned.bias_ready levels
    · rw [eventsAre, brokenAre, List.map_append, scanned.broken, List.map_singleton, key]
    · intro other last lastIs notBroken
      rw [brokenAre] at notBroken
      have notBefore : (other, last.index) ∉ state.broken := fun inside => notBroken (List.mem_append_left _ inside)
      apply scanned.held_unbroken levels found lastIs notBefore
      by_cases sameKind : other = kind
      · -- the last level of this kind is the one that is broken now
        subst sameKind
        have same : last = level := Option.some.inj (lastIs.symm.trans breaks.1)
        rw [same, ← levelKind] at notBroken
        exact absurd (List.mem_append_right _ List.mem_cons_self) notBroken
      · exact others other sameKind last
    · intro event inside
      rw [eventsAre] at inside
      rcases List.mem_append.mp inside with old | new
      · exact before event old
      · rw [List.mem_singleton] at new
        subst new
        refine ⟨Nat.lt_succ_self n, level, member, rfl, rfl, ?_, earlier, ?_⟩
        · rw [levelKind]
          rfl
        · show (if state.bias = kind.opposed then _ else _) =
            if biasFromSwings (knownAt swings n) = level.kind.opposed then _ else _
          rw [levelKind, scanned.bias]
    · rw [eventsAre, List.map_append, List.map_singleton, key, ← scanned.broken]
      refine List.nodup_append.mpr ⟨scanned.broken ▸ scanned.distinct, List.nodup_singleton _, ?_⟩
      intro old inside new isNew same
      rw [List.mem_singleton] at isNew
      exact free (isNew ▸ same ▸ inside)
    · rw [eventsAre, List.pairwise_append]
      refine ⟨scanned.increasing, List.pairwise_singleton _ _, ?_⟩
      intro first old second new
      rw [List.mem_singleton] at new
      subst new
      exact (scanned.justified first old).1
  · rw [same]
    constructor
    · exact scanned.known_ready levels
    · exact scanned.bias_ready levels
    · rw [broken_ready, events_ready, scanned.broken]
    · intro kind last lastIs notBroken
      rw [broken_ready] at notBroken
      exact scanned.held_unbroken levels found lastIs notBroken (none kind last)
    · rw [events_ready]
      exact before
    · rw [events_ready]
      exact scanned.distinct
    · rw [events_ready]
      exact scanned.increasing

/-- The loop after `n` turns. -/
def scan (candles : List Candle) (swings : List SwingPoint) (n : Nat) : BreakScan :=
  enumerated (BreakScan.step swings) {} candles n

theorem structureBreaks_eq : structureBreaks candles swings = (scan candles swings candles.length).events := by
  rw [structureBreaks, foldl_zipIdx, scan]

theorem scanned_scan (levels : Levels candles swings) {n : Nat} (bound : n ≤ candles.length) :
    Scanned candles swings n (scan candles swings n) :=
  enumerated_invariant scanned_zero (fun _ _ _ found scanned => scanned.step levels found) n bound

theorem events_scan (levels : Levels candles swings) {n m : Nat} (before : n ≤ m) (bound : m ≤ candles.length) :
    (scan candles swings n).events = (scan candles swings m).events.filter (·.index < n) := by
  induction m, before using Nat.le_induction with
  | base =>
    symm
    rw [List.filter_eq_self]
    intro event member
    simpa using ((scanned_scan levels bound).justified event member).1
  | succ m before ih =>
    have found : candles[m]? = some candles[m] := List.getElem?_eq_getElem bound
    have turn : scan candles swings (m + 1) = step swings (scan candles swings m) (candles[m], m) :=
      enumerated_succ found
    rw [ih (Nat.le_of_succ_le bound), turn]
    rcases (scanned_scan levels (Nat.le_of_succ_le bound)).step_cases levels found with
      ⟨kind, level, _, _, same⟩ | ⟨_, same⟩
    · rw [same, events_extend_ready, List.filter_append]
      have late : [breakEvent kind (scan candles swings m).bias m level].filter (·.index < n) = [] := by
        simp [breakEvent, before]
      rw [late, List.append_nil]
    · rw [same, events_ready]

theorem scan_take {m : Nat} (before : m ≤ n) (bound : m ≤ candles.length) :
    scan (candles.take n) (knownAt swings n) m = scan candles swings m := by
  rw [scan, enumerated_take before]
  apply enumerated_congr _ bound
  intro state candle index early
  have same : (knownAt swings n).filter (·.confirmedIndex = index) = swings.filter (·.confirmedIndex = index) := by
    rw [knownAt, List.filter_filter]
    apply List.filter_congr
    simp only [Bool.and_eq_left_iff_imp, decide_eq_true_eq]
    omega
  simp only [step, same]

theorem structureBreaks_take (levels : Levels candles swings) (n : Nat) :
    structureBreaks (candles.take n) (knownAt swings n) = (structureBreaks candles swings).filter (·.index < n) := by
  rw [structureBreaks_eq, structureBreaks_eq, List.length_take, scan_take (Nat.min_le_left ..) (Nat.min_le_right ..),
    events_scan levels (Nat.min_le_right n candles.length) le_rfl]
  apply List.filter_congr
  intro event member
  have bound := ((scanned_scan levels le_rfl).justified event member).1
  simp only [decide_eq_decide]
  omega

end Scan

theorem levels_foundSwings (candles : List Candle) (leftSpan : Nat) {rightSpan : Nat} (positive : 0 < rightSpan) :
    Levels candles (foundSwings candles leftSpan rightSpan) where
  sorted := by
    apply foundSwings_sorted.imp
    intro first second before
    simp only [sortedBefore, Bool.or_eq_true, Bool.and_eq_true, decide_eq_true_eq] at before
    omega
  later swing member := by
    have := (confirmed_of_mem member).confirmed
    omega
  held swing member place candle after before found :=
    (swing.kind.close_le_extreme candle).trans ((confirmed_of_mem member).held place candle after before found)

section Analysis

variable {candles : List Candle} {leftSpan rightSpan : Nat}

/-- What `analyze_structure` returns for the swings. -/
def analysisOf (candles : List Candle) (swings : List SwingPoint) : StructureAnalysis where
  bias := biasFromSwings swings
  swings
  breaks := structureBreaks candles swings
  higherHigh := rises (pricesOf .high swings)
  higherLow := rises (pricesOf .low swings)
  lowerHigh := falls (pricesOf .high swings)
  lowerLow := falls (pricesOf .low swings)
  support := (swings.reverse.find? (·.kind = .low)).map (·.price)
  resistance := (swings.reverse.find? (·.kind = .high)).map (·.price)

theorem analyzeStructure_eq_ok (valid : ValidSequence candles) (leftPositive : 0 < leftSpan)
    (rightPositive : 0 < rightSpan) :
    analyzeStructure candles leftSpan rightSpan =
      .ok (analysisOf candles (foundSwings candles leftSpan rightSpan)) := by
  rw [analyzeStructure, confirmedSwings_eq_ok leftPositive rightPositive valid]
  rfl

end Analysis

end MarketStructure

open MarketStructure

def MarketBias.opposite : MarketBias → MarketBias
  | .bullish => .bearish
  | .bearish => .bullish
  | .range => .range

theorem opposite_direction (kind : SwingKind) : kind.direction.opposite = kind.opposed := by
  cases kind <;> rfl

/-- **Market structure is never repainted.** -/
theorem structure_never_repaints (candles : List Candle) (leftSpan rightSpan n : Nat) (valid : ValidSequence candles)
    (leftPositive : 0 < leftSpan) (rightPositive : 0 < rightSpan) :
    ∃ whole part,
      analyzeStructure candles leftSpan rightSpan = .ok whole ∧
      analyzeStructure (candles.take n) leftSpan rightSpan = .ok part ∧
      confirmedSwings candles leftSpan rightSpan = .ok whole.swings ∧
      confirmedSwings (candles.take n) leftSpan rightSpan = .ok part.swings ∧
      part.swings = whole.swings.filter (·.confirmedIndex < n) ∧
      part.breaks = whole.breaks.filter (·.index < n) ∧
      ∀ event ∈ whole.breaks, ∃ before,
        analyzeStructure (candles.take event.index) leftSpan rightSpan = .ok before ∧
        (event.kind = .choch ↔ before.bias = event.direction.opposite) := by
  have validPart : ∀ m, ValidSequence (candles.take m) := fun m => valid.sublist (List.take_sublist m candles)
  have levels := levels_foundSwings candles leftSpan rightPositive
  refine ⟨_, _, analyzeStructure_eq_ok valid leftPositive rightPositive,
    analyzeStructure_eq_ok (validPart n) leftPositive rightPositive,
    confirmedSwings_eq_ok leftPositive rightPositive valid,
    confirmedSwings_eq_ok leftPositive rightPositive (validPart n), foundSwings_take n, ?_, ?_⟩
  · show structureBreaks (candles.take n) (foundSwings (candles.take n) leftSpan rightSpan) = _
    rw [foundSwings_take]
    exact structureBreaks_take levels n
  · intro event member
    refine ⟨_, analyzeStructure_eq_ok (validPart event.index) leftPositive rightPositive, ?_⟩
    have broken : event ∈ structureBreaks candles (foundSwings candles leftSpan rightSpan) := member
    rw [structureBreaks_eq] at broken
    obtain ⟨_, level, justified⟩ := (scanned_scan levels le_rfl).justified event broken
    show _ ↔ biasFromSwings (foundSwings (candles.take event.index) leftSpan rightSpan) = _
    rw [foundSwings_take, justified.direction, opposite_direction, justified.kind]
    split
    next turned => exact iff_of_true rfl turned
    next kept => exact iff_of_false (by simp) kept

open BacktestEngine.Demo (bar) in
def Demo.hill : List Candle := [bar .h1 0 8 10, bar .h1 60 9 12, bar .h1 120 8 10, bar .h1 180 13 14]

theorem Demo.hill_valid : ValidSequence Demo.hill where
  alike := by simp [hill, BacktestEngine.Demo.bar]
  increasing := by simp [hill, BacktestEngine.Demo.bar]

/-- The first three bars know the high and not yet the break. -/
theorem hill_not_repainted : ∃ whole part, analyzeStructure Demo.hill 1 1 = .ok whole ∧
    analyzeStructure (Demo.hill.take 3) 1 1 = .ok part ∧ part.swings = whole.swings.filter (·.confirmedIndex < 3) ∧
      part.breaks = whole.breaks.filter (·.index < 3) := by
  obtain ⟨whole, part, wholeIs, partIs, _, _, swings, breaks, _⟩ :=
    structure_never_repaints Demo.hill 1 1 3 Demo.hill_valid (by decide) (by decide)
  exact ⟨whole, part, wholeIs, partIs, swings, breaks⟩

example : (analyzeStructure Demo.hill 1 1).toOption.map (·.breaks) = some [⟨.bos, .bullish, 3, 12, 1⟩] := by
  decide +kernel

/-- **Breaks are unambiguous.** -/
theorem breaks_unambiguous (candles : List Candle) (leftSpan rightSpan : Nat) (valid : ValidSequence candles)
    (leftPositive : 0 < leftSpan) (rightPositive : 0 < rightSpan) :
    ∃ analysis, analyzeStructure candles leftSpan rightSpan = .ok analysis ∧
      (∀ event ∈ analysis.breaks, ∃ swing ∈ analysis.swings, swing.index = event.swingIndex ∧
        swing.kind.direction = event.direction ∧ swing.price = event.level ∧
        swing.confirmedIndex < event.index) ∧
      (analysis.breaks.map StructureBreak.swingKey).Nodup ∧
      (∀ first ∈ analysis.breaks, ∀ second ∈ analysis.breaks, first.index = second.index → first = second) ∧
      analysis.breaks.Pairwise fun first second => first.index < second.index := by
  have levels := levels_foundSwings candles leftSpan rightPositive
  obtain ⟨_, _, _, _, justified, distinct, increasing⟩ := scanned_scan levels le_rfl
  rw [← structureBreaks_eq] at justified distinct increasing
  have places : ((structureBreaks candles (foundSwings candles leftSpan rightSpan)).map (·.index)).Nodup :=
    List.pairwise_map.mpr (increasing.imp Nat.ne_of_lt)
  refine ⟨_, analyzeStructure_eq_ok valid leftPositive rightPositive, ?_, distinct, ?_, increasing⟩
  · intro event member
    obtain ⟨_, swing, breaks⟩ := justified event member
    exact ⟨swing, breaks.swing, breaks.swingIndex.symm, breaks.direction.symm, breaks.price.symm, breaks.earlier⟩
  · intro first firstMember second secondMember same
    exact List.inj_on_of_nodup_map places firstMember secondMember same

/-- The high of the hill is broken after it is confirmed. -/
theorem hill_broken_once : ∃ analysis, analyzeStructure Demo.hill 1 1 = .ok analysis ∧
    (analysis.breaks.map StructureBreak.swingKey).Nodup ∧
      analysis.breaks.Pairwise fun first second => first.index < second.index := by
  obtain ⟨analysis, analysed, _, distinct, _, increasing⟩ :=
    breaks_unambiguous Demo.hill 1 1 Demo.hill_valid (by decide) (by decide)
  exact ⟨analysis, analysed, distinct, increasing⟩

end GoldFlow
