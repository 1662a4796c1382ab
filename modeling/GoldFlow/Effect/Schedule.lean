import GoldFlow.Effect.Pool

/-! # Executing programs and schedules -/

namespace GoldFlow.Effect

variable {S : Signature} {ε α σ τ ι C : Type}

structure Responder (S : Signature) (ε τ : Type) where
  respond : τ → (op : S.Op) → Except ε (S.Value op) × τ

/-- Every answer is one the environment may give. -/
def Responder.Within (responder : Responder S ε τ) (env : Environment S ε σ) (view : τ → σ) :
    Prop :=
  ∀ state op, env.step (view state) ⟨op, (responder.respond state op).1⟩
    (view (responder.respond state op).2)

inductive Turn (ι C : Type) where
  | start (thread : ι) (call : C)
  | step (thread : ι)
  | crash (thread : ι)

variable [DecidableEq ι]

/-- Take one turn; a turn that is not possible yields nothing. -/
def Pool.turn (responder : Responder S ε τ) (body : ι → C → Program S ε α)
    (pool : Pool S ε α τ ι) : Turn ι C → Option (Label S ε α ι C × Pool S ε α τ ι)
  | .start thread call =>
    match pool.threads thread with
    | none => some (.start thread call,
        { pool with threads := Function.update pool.threads thread (some (body thread call)) })
    | some _ => none
  | .step thread =>
    match pool.threads thread with
    | some (.call op next) =>
      let answer := responder.respond pool.shared op
      some (.event thread ⟨op, answer.1⟩,
        { shared := answer.2
          threads := Function.update pool.threads thread (some (next answer.1)) })
    | some (.pure value) => some (.finish thread (.ok value),
        { pool with threads := Function.update pool.threads thread none })
    | some (.raise error) => some (.finish thread (.error error),
        { pool with threads := Function.update pool.threads thread none })
    | none => none
  | .crash thread => some (.crash thread,
      { pool with threads := Function.update pool.threads thread none })

/-- Take the turns in order; a turn that is not possible is skipped. -/
def Pool.schedule (responder : Responder S ε τ) (body : ι → C → Program S ε α) :
    Pool S ε α τ ι → List (Turn ι C) → List (Label S ε α ι C) × Pool S ε α τ ι
  | pool, [] => ([], pool)
  | pool, turn :: turns =>
    match Pool.turn responder body pool turn with
    | none => Pool.schedule responder body pool turns
    | some (label, middle) =>
      let rest := Pool.schedule responder body middle turns
      (label :: rest.1, rest.2)

/-- The pool as the environment sees it. -/
def Pool.view (see : τ → σ) (pool : Pool S ε α τ ι) : Pool S ε α σ ι :=
  { shared := see pool.shared, threads := pool.threads }

variable {env : Environment S ε σ} {responder : Responder S ε τ} {see : τ → σ}
  {body : ι → C → Program S ε α} {label : Label S ε α ι C} {pool middle final : Pool S ε α σ ι}

theorem Pool.step_of_turn (within : responder.Within env see) {pool final : Pool S ε α τ ι} {turn : Turn ι C}
    (taken : Pool.turn responder body pool turn = some (label, final)) :
    Pool.Step env body (pool.view see) label (final.view see) := by
  cases turn with
  | start =>
    simp only [Pool.turn] at taken
    split at taken
    next idle => cases taken; exact .start idle
    next => cases taken
  | step =>
    simp only [Pool.turn] at taken
    split at taken
    next op next running => cases taken; exact .event running (within _ _)
    next value running => cases taken; exact .returned running
    next error running => cases taken; exact .raised running
    next => cases taken
  | crash =>
    cases taken
    exact .crash

theorem Pool.Run.append {labels later : List (Label S ε α ι C)} (first : Pool.Run env body pool labels middle)
    (rest : Pool.Run env body middle later final) : Pool.Run env body pool (labels ++ later) final := by
  induction rest with
  | nil => simpa using first
  | snoc _ last ih =>
    rw [← List.append_assoc]
    exact .snoc ih last

theorem Pool.Run.cons {labels : List (Label S ε α ι C)} (first : Pool.Step env body pool label middle)
    (rest : Pool.Run env body middle labels final) : Pool.Run env body pool (label :: labels) final := by
  have begun : Pool.Run env body pool [label] middle := .snoc .nil first
  exact begun.append rest

theorem Pool.run_schedule (within : responder.Within env see) (pool : Pool S ε α τ ι) (turns : List (Turn ι C)) :
    Pool.Run env body (pool.view see) (Pool.schedule responder body pool turns).1
      ((Pool.schedule responder body pool turns).2.view see) := by
  induction turns generalizing pool with
  | nil => exact .nil
  | cons turn turns ih =>
    unfold Pool.schedule
    split
    next => exact ih pool
    next label middle taken => exact .cons (Pool.step_of_turn within taken) (ih middle)

/-! ### Guarded schedules -/

section Guarded

variable (guard : List (Label S ε α ι C) → σ → Label S ε α ι C → Prop) (see : τ → σ)
  (responder : Responder S ε τ) (body : ι → C → Program S ε α)

/-- Every turn of a schedule meets the guard, after the labels that came before. -/
def Pool.ScheduleMeets : List (Label S ε α ι C) → Pool S ε α τ ι → List (Turn ι C) → Prop
  | _, _, [] => True
  | labels, pool, turn :: turns =>
    match Pool.turn responder body pool turn with
    | none => Pool.ScheduleMeets labels pool turns
    | some (label, middle) =>
      guard labels (see pool.shared) label ∧ Pool.ScheduleMeets (labels ++ [label]) middle turns

instance Pool.decidableScheduleMeets
    [∀ labels state label, Decidable (guard labels state label)] :
    (labels : List (Label S ε α ι C)) → (pool : Pool S ε α τ ι) → (turns : List (Turn ι C)) →
      Decidable (Pool.ScheduleMeets guard see responder body labels pool turns)
  | _, _, [] => .isTrue trivial
  | labels, pool, turn :: turns =>
    match taken : Pool.turn responder body pool turn with
    | none =>
      have rest := Pool.decidableScheduleMeets labels pool turns
      decidable_of_decidable_of_iff (by rw [Pool.ScheduleMeets, taken])
    | some (label, middle) =>
      have rest := Pool.decidableScheduleMeets (labels ++ [label]) middle turns
      decidable_of_decidable_of_iff
        (p := guard labels (see pool.shared) label ∧
          Pool.ScheduleMeets guard see responder body (labels ++ [label]) middle turns)
        (by rw [Pool.ScheduleMeets, taken])

variable {guard see responder body}

theorem Pool.RunWhen.schedule (within : responder.Within env see) {start : Pool S ε α σ ι}
    {labels : List (Label S ε α ι C)} {pool : Pool S ε α τ ι} {turns : List (Turn ι C)}
    (run : Pool.RunWhen guard env body start labels (pool.view see))
    (meets : Pool.ScheduleMeets guard see responder body labels pool turns) :
    Pool.RunWhen guard env body start (labels ++ (Pool.schedule responder body pool turns).1)
      ((Pool.schedule responder body pool turns).2.view see) := by
  induction turns generalizing labels pool with
  | nil => simpa [Pool.schedule] using run
  | cons turn turns ih =>
    unfold Pool.schedule
    unfold Pool.ScheduleMeets at meets
    split
    next skipped =>
      rw [skipped] at meets
      exact ih run meets
    next label middle taken =>
      rw [taken] at meets
      have longer := run.snoc meets.1 (Pool.step_of_turn within taken)
      rw [List.append_cons]
      exact ih longer meets.2

end Guarded

end GoldFlow.Effect
