import Mathlib.Data.List.Basic
import Mathlib.Order.Lattice

/-! # Slices of a list in the order of a key -/

namespace GoldFlow.Data

section Places

variable {α : Type} {items : List α} {start stop : Nat}

theorem filter_eq_extract {select : α → Bool}
    (places : ∀ place item, items[place]? = some item → (select item = true ↔ start ≤ place ∧ place < stop)) :
    items.filter select = items.extract start stop := by
  induction items generalizing start stop with
  | nil => simp
  | cons first rest ih =>
    have head := places 0 first rfl
    have tail : rest.filter select = rest.extract (start - 1) (stop - 1) := by
      apply ih
      intro place item found
      rw [places (place + 1) item found]
      omega
    by_cases selected : select first = true
    · have bounds := head.mp selected
      obtain ⟨stop, rfl⟩ : ∃ before, stop = before + 1 := ⟨stop - 1, by omega⟩
      obtain rfl : start = 0 := by omega
      simp [selected, tail]
    · have outside := mt head.mpr selected
      rw [List.filter_cons_of_neg selected, tail]
      -- the first item is before the slice, or the slice is empty
      cases start with
      | zero =>
        obtain rfl : stop = 0 := by omega
        simp
      | succ start =>
        have width : stop - 1 - start = stop - (start + 1) := by omega
        simp [width]

theorem mem_extract_iff {item : α} :
    item ∈ items.extract start stop ↔ ∃ place, items[place]? = some item ∧ start ≤ place ∧ place < stop := by
  simp only [List.mem_iff_getElem?, List.getElem?_take, List.getElem?_drop]
  constructor
  · rintro ⟨place, found⟩
    split at found
    · exact ⟨start + place, found, by omega, by omega⟩
    · cases found
  · rintro ⟨place, found, after, before⟩
    refine ⟨place - start, ?_⟩
    rw [if_pos (by omega), Nat.add_sub_cancel' after, found]

theorem extract_append {start middle stop : Nat} (first : start ≤ middle) (second : middle ≤ stop) :
    items.extract start middle ++ items.extract middle stop = items.extract start stop := by
  simp only [List.extract_eq_take_drop]
  have widths : stop - start = (middle - start) + (stop - middle) := by omega
  rw [widths, List.take_add, List.drop_drop, Nat.add_sub_cancel' first]

end Places

section Keys

variable {α κ : Type} [LinearOrder κ] {key : α → κ} {items : List α} {item other : α} {place next : Nat}

variable (increasing : items.Pairwise fun first second => key first < key second)
include increasing

theorem key_lt_iff (found : items[place]? = some item) (foundNext : items[next]? = some other) :
    key item < key other ↔ place < next := by
  have forward : ∀ {i j : Nat} {x y : α}, items[i]? = some x → items[j]? = some y → i < j → key x < key y := by
    intro i j x y foundX foundY before
    obtain ⟨boundX, rfl⟩ := List.getElem?_eq_some_iff.mp foundX
    obtain ⟨boundY, rfl⟩ := List.getElem?_eq_some_iff.mp foundY
    exact List.pairwise_iff_getElem.mp increasing i j boundX boundY before
  constructor
  · intro below
    by_contra notBefore
    rcases Nat.lt_or_eq_of_le (Nat.le_of_not_lt notBefore) with after | same
    · exact (lt_asymm below) (forward foundNext found after)
    · subst same
      cases found.symm.trans foundNext
      exact lt_irrefl _ below
  · exact forward found foundNext

theorem key_le_iff (found : items[place]? = some item) (foundNext : items[next]? = some other) :
    key item ≤ key other ↔ place ≤ next := by
  rw [← not_lt, key_lt_iff increasing foundNext found, Nat.not_lt]

theorem head_filter_between (member : item ∈ items) {bound : κ} (below : key item < bound) :
    (items.filter fun one => key item ≤ key one ∧ key one < bound).head? = some item := by
  have selected : item ∈ items.filter fun one => key item ≤ key one ∧ key one < bound := by
    simp [member, below]
  have inOrder := increasing.filter fun one => key item ≤ key one ∧ key one < bound
  have above : ∀ one ∈ items.filter (fun one => key item ≤ key one ∧ key one < bound), key item ≤ key one := by
    intro one oneSelected
    simp only [List.mem_filter, decide_eq_true_eq] at oneSelected
    exact oneSelected.2.1
  generalize items.filter (fun one => key item ≤ key one ∧ key one < bound) = part at selected inOrder above ⊢
  cases part with
  | nil => cases selected
  | cons first =>
    rcases List.mem_cons.mp selected with same | later
    · rw [same, List.head?_cons]
    · have before := (List.pairwise_cons.mp inOrder).1 item later
      exact absurd before (not_lt.mpr (above first List.mem_cons_self))

theorem key_le_getLast {last : α} (isLast : items.getLast? = some last) (member : item ∈ items) :
    key item ≤ key last := by
  obtain ⟨place, found⟩ := List.mem_iff_getElem?.mp member
  rw [List.getLast?_eq_getElem?] at isLast
  rw [key_le_iff increasing found isLast]
  have bound := (List.getElem?_eq_some_iff.mp found).1
  omega

end Keys

end GoldFlow.Data
