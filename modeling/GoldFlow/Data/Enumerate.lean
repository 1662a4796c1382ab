import Mathlib.Data.List.Basic
import Mathlib.Data.List.Sort

/-! # Loops over an enumerated list

`for index, item in enumerate(items)` is a fold over the items with their places.
-/

namespace GoldFlow.Data

variable {α σ : Type} {step other : σ → α × Nat → σ} {initial : σ} {items : List α} {item : α} {n m : Nat}

/-- The state after `n` turns. -/
def enumerated (step : σ → α × Nat → σ) (initial : σ) (items : List α) (n : Nat) : σ :=
  (items.take n).zipIdx.foldl step initial

theorem foldl_zipIdx : items.zipIdx.foldl step initial = enumerated step initial items items.length := by
  rw [enumerated, List.take_length]

theorem enumerated_succ (found : items[n]? = some item) :
    enumerated step initial items (n + 1) = step (enumerated step initial items n) (item, n) := by
  have length : (items.take n).length = n := by
    have := (List.getElem?_eq_some_iff.mp found).1
    simp only [List.length_take]
    omega
  simp only [enumerated, List.take_add_one, found, Option.toList_some, List.zipIdx_append, List.foldl_append, length,
    List.zipIdx_singleton, List.foldl_cons, List.foldl_nil, Nat.zero_add]

theorem enumerated_take (within : n ≤ m) :
    enumerated step initial (items.take m) n = enumerated step initial items n := by
  rw [enumerated, List.take_take, Nat.min_eq_left within, enumerated]

theorem enumerated_invariant {holds : Nat → σ → Prop} (start : holds 0 initial)
    (turn : ∀ n item state, items[n]? = some item → holds n state → holds (n + 1) (step state (item, n))) :
    ∀ n, n ≤ items.length → holds n (enumerated step initial items n) := by
  intro n
  induction n with
  | zero => exact fun _ => start
  | succ n ih =>
    intro bound
    have found : items[n]? = some items[n] := List.getElem?_eq_getElem bound
    rw [enumerated_succ found]
    exact turn n _ _ found (ih (Nat.le_of_succ_le bound))

theorem enumerated_congr (same : ∀ state item index, index < n → step state (item, index) = other state (item, index))
    (bound : n ≤ items.length) : enumerated step initial items n = enumerated other initial items n := by
  induction n with
  | zero => rfl
  | succ n ih =>
    have found : items[n]? = some items[n] := List.getElem?_eq_getElem bound
    have before := ih (fun state item index below => same state item index (by omega)) (by omega)
    rw [enumerated_succ found, enumerated_succ found, before, same _ _ _ (Nat.lt_succ_self n)]

/-! ## Lists in the order of a key -/

theorem filter_key_succ {key : α → Nat} {list : List α}
    (sorted : list.Pairwise fun first second => key first ≤ key second) (n : Nat) :
    list.filter (key · < n + 1) = list.filter (key · < n) ++ list.filter (key · = n) := by
  induction list with
  | nil => rfl
  | cons first rest ih =>
    obtain ⟨least, sorted⟩ := List.pairwise_cons.mp sorted
    have tail := ih sorted
    -- below, at or beyond the key that is split off
    rcases Nat.lt_trichotomy (key first) n with below | same | above
    · have inside : key first < n + 1 := Nat.lt_succ_of_lt below
      simp only [List.filter_cons, tail, inside, below, Nat.ne_of_lt below, decide_true, decide_false, if_true,
        Bool.false_eq_true, if_false, List.cons_append]
    · subst same
      have none : rest.filter (key · < key first) = [] := by simpa using least
      simp only [List.filter_cons, tail, none, Nat.lt_succ_self, Nat.lt_irrefl, decide_false,
        Bool.false_eq_true, if_false, List.nil_append]
    · have none : rest.filter (key · < n) = [] := by
        simp only [List.filter_eq_nil_iff, decide_eq_true_eq, not_lt]
        exact fun item member => above.le.trans (least item member)
      have nor : ¬ key first < n + 1 := by omega
      have beyond : ¬ key first < n := by omega
      simp only [List.filter_cons, tail, nor, beyond, Nat.ne_of_gt above, decide_false, Bool.false_eq_true,
        if_false]

end GoldFlow.Data
