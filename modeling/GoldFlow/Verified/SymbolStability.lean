import GoldFlow.Data.Ranking
import GoldFlow.Verified.GoldExposure
import Mathlib.Data.List.Sort

/-! # Symbol resolution applied to its own result -/

namespace GoldFlow

open Data

namespace Symbols

/-! ## The winner -/

def rank (canonical : String) (spec : SymbolSpecification) : Option Nat :=
  if spec.tradeEnabled then score spec canonical (knownExactAliases canonical) else none

/-- The end of `resolve_symbol`: the only winner, or an error. -/
def onlyWinner (canonical : String) : List SymbolSpecification → Except PyError SymbolSpecification
  | [] => .error (symbolError ("no tradeable broker symbol resolves to " ++ canonical))
  | [winner] => .ok winner
  | winners => .error (symbolError ("ambiguous broker symbols for " ++ canonical ++ ": " ++
      ", ".intercalate ((winners.map (·.name)).mergeSort fun left right => decide (left ≤ right))))

theorem resolveSymbol_eq (canonicalSymbol : String) (symbols : List SymbolSpecification) :
    resolveSymbol canonicalSymbol symbols =
      canonicalizeSymbol canonicalSymbol >>= fun canonical =>
        onlyWinner canonical (topRanked (rank canonical) symbols) := by
  unfold resolveSymbol
  congr 1
  funext canonical
  have ranked : (symbols.filter (·.tradeEnabled)).filterMap (fun spec =>
      (score spec canonical (knownExactAliases canonical)).map (·, spec)) =
        symbols.filterMap fun spec => (rank canonical spec).map (·, spec) := by
    rw [List.filterMap_filter]
    apply List.filterMap_congr
    intro spec _
    unfold rank
    split <;> rfl
  rw [ranked]
  dsimp only
  rw [map_fst_ranked]
  unfold topRanked
  cases isHighest : (symbols.filterMap (rank canonical)).max? with
  | none => rfl
  | some highest =>
    simp only [map_snd_ranked]
    -- the highest score is the score of a symbol
    have reached := (List.max?_eq_some_iff.mp isHighest).1
    obtain ⟨best, member, ranked⟩ := List.mem_filterMap.mp reached
    have nonempty : best ∈ symbols.filter fun spec => rank canonical spec = some highest := by
      simp [member, ranked]
    generalize symbols.filter (fun spec => rank canonical spec = some highest) = top at nonempty
    match top, nonempty with
    | [winner], _ => rfl
    | _ :: _ :: _, _ => rfl

theorem onlyWinner_eq_ok {canonical : String} {winners : List SymbolSpecification} {spec : SymbolSpecification} :
    onlyWinner canonical winners = .ok spec ↔ winners = [spec] := by
  match winners with
  | [] => simp [onlyWinner]
  | [winner] => simp [onlyWinner]
  | _ :: _ :: _ => simp [onlyWinner]

def DistinctNames (symbols : List SymbolSpecification) : Prop := (symbols.map fun spec => upper spec.name).Nodup

def Best (canonical : String) (symbols : List SymbolSpecification) (spec : SymbolSpecification) : Prop :=
  spec ∈ symbols ∧ ∃ top, rank canonical spec = some top ∧
    ∀ other ∈ symbols, other ≠ spec → ∀ value, rank canonical other = some value → value < top

variable {canonicalSymbol : String} {symbols : List SymbolSpecification}

theorem resolveSymbol_eq_ok {spec : SymbolSpecification} (distinct : DistinctNames symbols) :
    resolveSymbol canonicalSymbol symbols = .ok spec ↔
      ∃ canonical, canonicalizeSymbol canonicalSymbol = .ok canonical ∧ Best canonical symbols spec := by
  have nodup : symbols.Nodup := List.Nodup.of_map _ distinct
  simp only [resolveSymbol_eq, bind_eq_ok, onlyWinner_eq_ok, topRanked_eq_singleton nodup, Best]

/-! ## Rivals -/

variable {spec other : SymbolSpecification} {text : String}

/-- The name begins with the text, leaving out separators. -/
def Begins (text : String) (spec : SymbolSpecification) : Prop :=
  text.toList.isPrefixOf (compact (upper spec.name)).toList = true

/-- The other symbol matches the text as well as a symbol of another name does. -/
def Contests (text : String) (spec other : SymbolSpecification) : Prop :=
  upper other.name = text ∨ upper other.name ∈ knownExactAliases text ∨
    upper spec.name ∉ knownExactAliases text ∧
      (Spells text other ∧ (Spells text spec → Begins text spec → Begins text other) ∨
        ¬ Spells text spec ∧ NameMatches text other)

/-- How well a symbol matches a text, spelled out. -/
theorem score_eq (text : String) (spec : SymbolSpecification) [Decidable (Spells text spec)]
    [Decidable (Begins text spec)] [Decidable (NameMatches text spec)] :
    score spec text (knownExactAliases text) =
      if upper spec.name = text then some 400
      else if upper spec.name ∈ knownExactAliases text then some 350
      else if Spells text spec then some (if Begins text spec then 310 else 300)
      else if NameMatches text spec then some 200 else none := by
  unfold score
  dsimp only
  split
  next => rfl
  next unnamed =>
    split
    next => rfl
    next unlisted =>
      simp only [Spells, Begins, NameMatches, unnamed, unlisted, false_or, Bool.and_eq_true]
      congr

theorem contests_iff {own : Nat} (unnamed : upper spec.name ≠ text)
    (scored : score spec text (knownExactAliases text) = some own) :
    Contests text spec other ↔ ∃ value, score other text (knownExactAliases text) = some value ∧ own ≤ value := by
  classical
  rw [score_eq, if_neg unnamed] at scored
  rw [score_eq, Contests]
  -- the grades of the symbol, and then those of the other one
  split_ifs at scored with listed spelled begins matched
  all_goals
    cases scored
    split_ifs <;> simp_all

theorem rank_of_best {canonical : String} (best : Best canonical symbols spec) :
    spec.tradeEnabled = true ∧ ∃ own, score spec canonical (knownExactAliases canonical) = some own := by
  obtain ⟨_, own, ranked, _⟩ := best
  unfold rank at ranked
  split at ranked
  · rename_i tradeable
    exact ⟨tradeable, own, ranked⟩
  · cases ranked

/-- The symbol is the one that its own name stands for. -/
def Uncontested (symbols : List SymbolSpecification) (spec : SymbolSpecification) : Prop :=
  ∃ text, canonicalizeSymbol spec.name = .ok text ∧ (upper spec.name = text ∨
    (NameMatches text spec ∨ Spells text spec) ∧
      ∀ other ∈ symbols, other.tradeEnabled = true → other ≠ spec → ¬ Contests text spec other)

theorem best_of_own_name (distinct : DistinctNames symbols) (member : spec ∈ symbols)
    (tradeable : spec.tradeEnabled = true) : Best (upper spec.name) symbols spec := by
  classical
  refine ⟨member, 400, by simp [rank, tradeable, score], ?_⟩
  intro other otherMember apart value ranked
  have unnamed : upper other.name ≠ upper spec.name :=
    fun same => apart (List.inj_on_of_nodup_map distinct otherMember member same)
  rw [rank, score_eq, if_neg unnamed] at ranked
  split_ifs at ranked <;> cases ranked <;> decide

theorem best_iff_uncontested (member : spec ∈ symbols) (tradeable : spec.tradeEnabled = true)
    (unnamed : upper spec.name ≠ text) : Best text symbols spec ↔ (NameMatches text spec ∨ Spells text spec) ∧
      ∀ other ∈ symbols, other.tradeEnabled = true → other ≠ spec → ¬ Contests text spec other := by
  rw [← score_isSome_iff, Option.isSome_iff_exists]
  constructor
  · intro best
    obtain ⟨_, own, scored⟩ := rank_of_best best
    refine ⟨⟨own, scored⟩, fun other otherMember enabled apart contests => ?_⟩
    obtain ⟨value, reached, least⟩ := (contests_iff unnamed scored).mp contests
    obtain ⟨_, top, ranked, below⟩ := best
    rw [rank, if_pos tradeable, scored, Option.some.injEq] at ranked
    have less := below other otherMember apart value (by rw [rank, if_pos enabled, reached])
    omega
  · rintro ⟨⟨own, scored⟩, uncontested⟩
    refine ⟨member, own, by rw [rank, if_pos tradeable, scored], fun other otherMember apart value ranked => ?_⟩
    unfold rank at ranked
    split at ranked
    next enabled =>
      by_contra least
      exact uncontested other otherMember enabled apart
        ((contests_iff unnamed scored).mpr ⟨value, ranked, Nat.le_of_not_lt least⟩)
    next => cases ranked

/-- **Symbol resolution is stable under its own result** exactly if no other symbol contests the name, and never depends
on the order of the list. -/
theorem resolution_stable_iff (canonicalSymbol : String) (symbols : List SymbolSpecification)
    (spec : SymbolSpecification) (distinct : DistinctNames symbols)
    (resolved : resolveSymbol canonicalSymbol symbols = .ok spec) :
    (resolveSymbol spec.name symbols = .ok spec ↔ Uncontested symbols spec) ∧
      ∀ others, symbols.Perm others → resolveSymbol canonicalSymbol others = .ok spec := by
  obtain ⟨canonical, canonicalized, best⟩ := (resolveSymbol_eq_ok distinct).mp resolved
  have tradeable := (rank_of_best best).1
  constructor
  · rw [resolveSymbol_eq_ok distinct]
    refine exists_congr fun text => and_congr_right fun _ => ?_
    by_cases named : upper spec.name = text
    · exact iff_of_true (named ▸ best_of_own_name distinct best.1 tradeable) (.inl named)
    · rw [or_iff_right named]
      exact best_iff_uncontested best.1 tradeable named
  · intro others reordered
    obtain ⟨member, top, ranked, below⟩ := best
    apply (resolveSymbol_eq_ok ((reordered.map _).nodup_iff.mp distinct)).mpr
    exact ⟨canonical, canonicalized, reordered.mem_iff.mp member, top, ranked,
      fun other inside => below other (reordered.mem_iff.mpr inside)⟩

end Symbols

namespace Demo

def separatedGold : SymbolSpecification := { MockBroker.goldSpecification with name := "XAUUSD_i" }

def joinedGold : SymbolSpecification :=
  { MockBroker.goldSpecification with name := "XAUUSDi", baseCurrency := "", quoteCurrency := "" }

end Demo

open Demo

namespace Symbols

/-- `XAUUSD_i` is resolved to itself, unless another symbol has its name without the separator. -/
theorem resolution_stable_alone : resolveSymbol "XAUUSD" [separatedGold] = .ok separatedGold ∧
    resolveSymbol separatedGold.name [separatedGold] = .ok separatedGold := by
  have resolved : resolveSymbol "XAUUSD" [separatedGold] = .ok separatedGold := rfl
  have single : DistinctNames [separatedGold] := by simp [DistinctNames]
  refine ⟨resolved, (resolution_stable_iff _ _ _ single resolved).1.mpr
    ⟨"XAUUSDI", by decide +kernel, .inr ⟨.inl (.inr (.inr (by decide +kernel))), ?_⟩⟩⟩
  intro other member _ apart
  exact absurd (List.mem_singleton.mp member) apart

/-- Gold is resolved to `XAUUSD_i`, and that name is resolved to `XAUUSDi`. -/
theorem resolved_name_names_another : DistinctNames [separatedGold, joinedGold] ∧
    resolveSymbol "XAUUSD" [separatedGold, joinedGold] = .ok separatedGold ∧
    resolveSymbol separatedGold.name [separatedGold, joinedGold] = .ok joinedGold ∧
    joinedGold.name ≠ separatedGold.name := by
  refine ⟨?_, rfl, rfl, by decide⟩
  unfold DistinctNames
  decide +kernel

end Symbols

end GoldFlow
