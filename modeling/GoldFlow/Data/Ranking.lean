import Mathlib.Data.List.Basic
import Mathlib.Data.List.Nodup
import Mathlib.Order.MinMax

/-! # The highest ranked items

Items may have a rank or none.
-/

namespace GoldFlow.Data

variable {α : Type} (rank : α → Option Nat)

/-- The items of the highest rank. -/
def topRanked (items : List α) : List α :=
  match (items.filterMap rank).max? with
  | none => []
  | some highest => items.filter fun item => rank item = some highest

variable {rank} {items : List α} {item : α}

theorem map_fst_ranked : (items.filterMap fun item => (rank item).map (·, item)).map (·.1) = items.filterMap rank := by
  rw [List.map_filterMap]
  apply List.filterMap_congr
  intro item _
  cases rank item <;> rfl

theorem map_snd_ranked (highest : Nat) :
    ((items.filterMap fun item => (rank item).map (·, item)).filter (·.1 == highest)).map (·.2) =
      items.filter fun item => rank item = some highest := by
  induction items with
  | nil => rfl
  | cons first rest ih =>
    cases ranked : rank first with
    | none => simp [ranked, ih]
    | some value => by_cases top : value = highest <;> simp [ranked, top, ih]

theorem mem_topRanked : item ∈ topRanked rank items ↔ item ∈ items ∧ ∃ top, rank item = some top ∧
    ∀ other ∈ items, ∀ value, rank other = some value → value ≤ top := by
  unfold topRanked
  cases highest : (items.filterMap rank).max? with
  | none =>
    have unranked := List.max?_eq_none_iff.mp highest
    rw [List.filterMap_eq_nil_iff] at unranked
    simp only [List.not_mem_nil, false_iff, not_and, not_exists]
    intro member top ranked
    simp [unranked item member] at ranked
  | some highest =>
    obtain ⟨reached, bound⟩ := List.max?_eq_some_iff.mp highest
    obtain ⟨best, bestMember, bestRank⟩ := List.mem_filterMap.mp reached
    simp only [List.mem_filter, decide_eq_true_eq]
    constructor
    · rintro ⟨member, ranked⟩
      refine ⟨member, _, ranked, ?_⟩
      intro other otherMember value otherRank
      exact bound value (List.mem_filterMap.mpr ⟨other, otherMember, otherRank⟩)
    · rintro ⟨member, top, ranked, above⟩
      have below := bound top (List.mem_filterMap.mpr ⟨item, member, ranked⟩)
      rw [ranked, Nat.le_antisymm below (above best bestMember _ bestRank)]
      exact ⟨member, rfl⟩

theorem topRanked_nodup (distinct : items.Nodup) : (topRanked rank items).Nodup := by
  unfold topRanked
  split
  · exact List.nodup_nil
  · exact distinct.filter _

theorem topRanked_eq_singleton (distinct : items.Nodup) :
    topRanked rank items = [item] ↔ item ∈ items ∧ ∃ top, rank item = some top ∧
      ∀ other ∈ items, other ≠ item → ∀ value, rank other = some value → value < top := by
  constructor
  · intro single
    have ranked : item ∈ topRanked rank items := by simp [single]
    obtain ⟨member, top, itemRank, above⟩ := mem_topRanked.mp ranked
    refine ⟨member, top, itemRank, ?_⟩
    intro other otherMember apart value otherRank
    rcases Nat.lt_or_eq_of_le (above other otherMember value otherRank) with below | same
    · exact below
    · have alsoTop : other ∈ topRanked rank items :=
        mem_topRanked.mpr ⟨otherMember, top, by rw [otherRank, same], above⟩
      rw [single, List.mem_singleton] at alsoTop
      exact absurd alsoTop apart
  · rintro ⟨member, top, itemRank, below⟩
    rw [← List.perm_singleton, List.perm_ext_iff_of_nodup (topRanked_nodup distinct) (List.nodup_singleton item)]
    intro other
    rw [mem_topRanked, List.mem_singleton]
    constructor
    · rintro ⟨otherMember, value, otherRank, above⟩
      by_contra apart
      exact absurd (above item member top itemRank) (Nat.not_le.mpr (below other otherMember apart value otherRank))
    · rintro rfl
      refine ⟨member, top, itemRank, ?_⟩
      intro another anotherMember value anotherRank
      by_cases same : another = other
      · rw [same, itemRank] at anotherRank
        exact (Option.some.inj anotherRank).ge
      · exact (below another anotherMember same value anotherRank).le

end GoldFlow.Data
