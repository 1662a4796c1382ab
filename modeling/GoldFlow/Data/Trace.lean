import Mathlib.Data.List.Basic

/-! # Traces of a transition system

A trace lists the moves of a run, each with the state before and after it.
-/

namespace GoldFlow.Data

variable {σ ω : Type}

inductive Trace (step : σ → ω → σ → Prop) (start : σ) : List (σ × ω × σ) → σ → Prop
  | nil : Trace step start [] start
  | snoc {moves : List (σ × ω × σ)} {before after : σ} {action : ω} :
      Trace step start moves before → step before action after →
      Trace step start (moves ++ [(before, action, after)]) after

namespace Trace

variable {step : σ → ω → σ → Prop} {start final : σ} {moves : List (σ × ω × σ)}

theorem invariant (trace : Trace step start moves final) {holds : σ → Prop} (initially : holds start)
    (kept : ∀ before action after, holds before → step before action after → holds after) :
    holds final ∧ ∀ move ∈ moves, holds move.1 ∧ step move.1 move.2.1 move.2.2 := by
  induction trace with
  | nil => exact ⟨initially, by simp⟩
  | snoc _ stepped ih =>
    obtain ⟨holding, earlier⟩ := ih
    refine ⟨kept _ _ _ holding stepped, fun move member => ?_⟩
    rcases List.mem_append.mp member with before | last
    · exact earlier move before
    · obtain rfl := List.mem_singleton.mp last
      exact ⟨holding, stepped⟩

theorem restrict (trace : Trace step start moves final) {extra : σ → ω → Prop}
    (meets : ∀ move ∈ moves, extra move.1 move.2.1) :
    Trace (fun before action after => extra before action ∧ step before action after) start moves final := by
  induction trace with
  | nil => exact .nil
  | snoc _ stepped ih =>
    apply Trace.snoc (ih fun move member => meets move (List.mem_append_left _ member))
    exact ⟨meets _ (List.mem_append_right _ (List.mem_singleton_self _)), stepped⟩

/-- **A property that one move keeps exactly under a condition.** -/
theorem keeps_iff (trace : Trace step start moves final) {sound holds : σ → Prop} {permits : σ → ω → Prop}
    (initiallySound : sound start) (initially : holds start)
    (soundKept : ∀ before action after, sound before → step before action after → sound after)
    (exactly : ∀ before action after, sound before → holds before → step before action after →
      (holds after ↔ permits before action)) :
    (∀ move ∈ moves, holds move.2.2) ↔ ∀ move ∈ moves, permits move.1 move.2.1 := by
  suffices both : sound final ∧ ((∀ move ∈ moves, holds move.2.2) → holds final) ∧
      ((∀ move ∈ moves, holds move.2.2) ↔ ∀ move ∈ moves, permits move.1 move.2.1) from both.2.2
  induction trace with
  | nil => exact ⟨initiallySound, fun _ => initially, by simp⟩
  | @snoc moves before after action _ stepped ih =>
    obtain ⟨sounding, holding, same⟩ := ih
    refine ⟨soundKept _ _ _ sounding stepped, fun all => all (before, action, after) (by simp), ?_⟩
    simp only [List.mem_append, List.mem_singleton, or_imp, forall_and, forall_eq]
    constructor
    · rintro ⟨earlier, last⟩
      exact ⟨same.mp earlier, (exactly _ _ _ sounding (holding earlier) stepped).mp last⟩
    · rintro ⟨earlier, last⟩
      have held := same.mpr earlier
      exact ⟨held, (exactly _ _ _ sounding (holding held) stepped).mpr last⟩

end Trace

end GoldFlow.Data
