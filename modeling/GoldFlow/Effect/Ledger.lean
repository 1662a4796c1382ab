import Mathlib.Logic.Function.Basic

/-! # Ledgers of claimed keys

A ledger maps keys to entries.
-/

namespace GoldFlow.Effect.Ledger

variable {K D Q : Type}

structure Entry (D Q : Type) where
  data : D
  status : Q

inductive Action (K D Q : Type) where
  | idle
  | claim (key : K) (data : D)
  | advance (key : K) (status : Q)

variable [DecidableEq K]

/-- The action claims `key`. -/
def Action.claims (key : K) : Action K D Q → Bool
  | .claim claimed _ => claimed = key
  | .idle | .advance _ _ => false

inductive Step (initial : Q) (follows : Q → Q → Prop) :
    (K → Option (Entry D Q)) → Action K D Q → (K → Option (Entry D Q)) → Prop
  | idle {entries} : Step initial follows entries .idle entries
  | claim {entries key data} : entries key = none →
      Step initial follows entries (.claim key data)
        (Function.update entries key (some { data, status := initial }))
  | advance {entries key entry status} : entries key = some entry → follows entry.status status →
      Step initial follows entries (.advance key status)
        (Function.update entries key (some { entry with status }))

variable {initial : Q} {follows : Q → Q → Prop} {entries after : K → Option (Entry D Q)}
  {action : Action K D Q} {key : K} {entry : Entry D Q} {status : Q} {data : D}

theorem Step.entry_persists (step : Step initial follows entries action after) (present : entries key = some entry) :
    after key = some entry ∨
      ∃ status, action = .advance key status ∧ follows entry.status status ∧
        after key = some { entry with status } := by
  cases step with
  | idle => exact .inl present
  | @claim claimed data absent =>
    have other : key ≠ claimed := by
      rintro rfl
      rw [absent] at present
      cases present
    exact .inl (by rw [Function.update_of_ne other, present])
  | @advance moved current status found permitted =>
    by_cases same : key = moved
    · subst same
      rw [present] at found
      cases found
      exact .inr ⟨status, rfl, permitted, Function.update_self ..⟩
    · exact .inl (by rw [Function.update_of_ne same, present])

theorem Step.idle_inversion (step : Step initial follows entries (.idle : Action K D Q) after) : after = entries := by
  cases step with
  | idle => rfl

theorem Step.advance_inversion (step : Step initial follows entries (.advance key status) after) :
    ∃ entry, entries key = some entry ∧ follows entry.status status ∧ after key = some { entry with status } := by
  cases step with
  | advance found permitted => exact ⟨_, found, permitted, Function.update_self ..⟩

theorem Step.claim_inversion (step : Step initial follows entries (.claim key data) after) :
    entries key = none ∧ after key = some { data, status := initial } := by
  cases step with
  | claim free => exact ⟨free, Function.update_self ..⟩

theorem Step.entry_appears (step : Step initial follows entries action after) (absent : entries key = none)
    (present : after key = some entry) : action = .claim key entry.data ∧ entry.status = initial := by
  cases step with
  | idle => rw [absent] at present; cases present
  | @claim claimed data free =>
    by_cases same : key = claimed
    · subst same
      rw [Function.update_self] at present
      cases present
      exact ⟨rfl, rfl⟩
    · rw [Function.update_of_ne same, absent] at present
      cases present
  | @advance moved current status found permitted =>
    have other : key ≠ moved := by
      rintro rfl
      rw [absent] at found
      cases found
    rw [Function.update_of_ne other, absent] at present
    cases present

/-- The actions so far claim `key` at most once, and a claimed key has an entry. -/
structure Once (key : K) (actions : List (Action K D Q)) (entries : K → Option (Entry D Q)) :
    Prop where
  bound : actions.countP (Action.claims key) ≤ 1
  taken : 1 ≤ actions.countP (Action.claims key) → (entries key).isSome = true

theorem Once.nil (entries : K → Option (Entry D Q)) : Once key [] entries :=
  ⟨by simp, by simp⟩

theorem Once.snoc {actions : List (Action K D Q)} (once : Once key actions entries)
    (step : Step initial follows entries action after) : Once key (actions ++ [action]) after := by
  have kept : (entries key).isSome = true → (after key).isSome = true := by
    intro present
    obtain ⟨entry, found⟩ := Option.isSome_iff_exists.mp present
    obtain same | ⟨status, _, _, moved⟩ := step.entry_persists found
    · rw [same]; rfl
    · rw [moved]; rfl
  by_cases claiming : action.claims key = true
  · -- the key was free, so it had not been claimed before
    cases step with
    | idle => cases claiming
    | advance => cases claiming
    | @claim claimed data free =>
      have same : claimed = key := by simpa [Action.claims] using claiming
      subst same
      have unclaimed : actions.countP (Action.claims claimed) = 0 := by
        have untaken := mt once.taken (by simp [free])
        omega
      refine ⟨Nat.le_of_eq ?_, fun _ => by simp⟩
      rw [List.countP_append, unclaimed, List.countP_singleton, if_pos claiming]
  · have unchanged : (actions ++ [action]).countP (Action.claims key) =
        actions.countP (Action.claims key) := by
      rw [List.countP_append, List.countP_singleton, if_neg claiming, Nat.add_zero]
    refine ⟨unchanged ▸ once.bound, fun claimed => kept (once.taken ?_)⟩
    exact unchanged ▸ claimed

end GoldFlow.Effect.Ledger
