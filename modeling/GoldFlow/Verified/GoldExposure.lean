import GoldFlow.Deployment

/-! # What counts as gold -/

namespace GoldFlow

open Symbols RiskGateValidator TradeExecutor

namespace Symbols

/-- The currencies of a symbol, taken together, are `text`. -/
def Spells (text : String) (spec : SymbolSpecification) : Prop :=
  (upper spec.baseCurrency).toList = text.toList.take 3 ∧ (upper spec.quoteCurrency).toList = text.toList.drop 3

def NameMatches (canonical : String) (spec : SymbolSpecification) : Prop :=
  upper spec.name = canonical ∨ upper spec.name ∈ knownExactAliases canonical ∨
    canonical.toList.isPrefixOf (compact (upper spec.name)).toList = true ∧
      ((compact (upper spec.name)).toList.drop canonical.length).all isSuffixCharacter = true

theorem score_isSome_iff {spec : SymbolSpecification} {canonical : String} :
    (score spec canonical (knownExactAliases canonical)).isSome = true ↔
      NameMatches canonical spec ∨ Spells canonical spec := by
  unfold score NameMatches Spells
  dsimp only
  split
  next named => simp [named]
  next unnamed =>
    split
    next listed => simp [listed]
    next unknown =>
      split
      next spelled => simp [spelled]
      next unspelled =>
        split
        next suffixed =>
          simp only [Bool.and_eq_true] at suffixed
          simp [suffixed]
        next other =>
          simp only [Bool.and_eq_true] at other
          simp only [unnamed, unknown, unspelled, other, Option.isSome_none, Bool.false_eq_true, or_self]

end Symbols

namespace Demo

end Demo

open Demo

end GoldFlow
