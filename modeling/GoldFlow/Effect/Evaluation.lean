import GoldFlow.Effect.Schedule

/-! # Evaluating programs -/

namespace GoldFlow.Effect

variable {S : Signature} {ε α β τ : Type}

structure Outcome (S : Signature) (ε α τ : Type) where
  events : List (Event S ε)
  result : Except ε α
  state : τ

/-- The rest of a computation, if its first part has ended normally. -/
def Outcome.andThen (first : Outcome S ε α τ) (next : α → τ → Outcome S ε β τ) : Outcome S ε β τ :=
  match first.result with
  | .ok value =>
    let rest := next value first.state
    { rest with events := first.events ++ rest.events }
  | .error error => ⟨first.events, .error error, first.state⟩

@[simp] theorem Outcome.andThen_ok (events : List (Event S ε)) (value : α) (state : τ)
    (next : α → τ → Outcome S ε β τ) :
    (⟨events, .ok value, state⟩ : Outcome S ε α τ).andThen next =
      { next value state with events := events ++ (next value state).events } := rfl

@[simp] theorem Outcome.andThen_error (events : List (Event S ε)) (error : ε) (state : τ)
    (next : α → τ → Outcome S ε β τ) :
    (⟨events, .error error, state⟩ : Outcome S ε α τ).andThen next = ⟨events, .error error, state⟩ := rfl

/-- The state after a computation that has ended normally. -/
def Outcome.completed (outcome : Outcome S ε α τ) : Option τ :=
  match outcome.result with
  | .ok _ => some outcome.state
  | .error _ => none

theorem Outcome.completed_andThen (first : Outcome S ε α τ) (next : α → τ → Outcome S ε β τ) :
    (first.andThen next).completed =
      match first.result with
      | .ok value => (next value first.state).completed
      | .error _ => none := by
  cases ended : first.result <;> simp [andThen, completed, ended]

namespace Responder

def evaluate (responder : Responder S ε τ) : Program S ε α → τ → Outcome S ε α τ
  | .pure value, state => ⟨[], .ok value, state⟩
  | .raise error, state => ⟨[], .error error, state⟩
  | .call op next, state =>
    let answer := responder.respond state op
    let rest := responder.evaluate (next answer.1) answer.2
    { rest with events := ⟨op, answer.1⟩ :: rest.events }

variable (responder : Responder S ε τ)

@[simp] theorem evaluate_pure (value : α) (state : τ) :
    responder.evaluate (.pure value : Program S ε α) state = ⟨[], .ok value, state⟩ := rfl

theorem evaluate_bind (program : Program S ε α) (next : α → Program S ε β) (state : τ) :
    responder.evaluate (program.bind next) state =
      (responder.evaluate program state).andThen fun value middle => responder.evaluate (next value) middle := by
  induction program generalizing state with
  | pure => rfl
  | raise => rfl
  | call op rest ih =>
    simp only [Program.bind_call, evaluate, ih]
    cases ended : (responder.evaluate (rest (responder.respond state op).1) (responder.respond state op).2).result <;>
      simp [Outcome.andThen, ended]

variable {responder} {op : S.Op} {state after : τ} {error : ε} {only : S.Op → Prop} {program : Program S ε α}

theorem evaluate_perform (op : S.Op) (state : τ) :
    responder.evaluate (Program.perform op : Program S ε _) state =
      ⟨[⟨op, (responder.respond state op).1⟩], (responder.respond state op).1,
        (responder.respond state op).2⟩ := by
  cases answer : (responder.respond state op).1 <;> simp [Program.perform, evaluate, answer]

theorem evaluate_perform_bind {value : S.Value op} (answered : responder.respond state op = (.ok value, after))
    (next : S.Value op → Program S ε β) :
    responder.evaluate ((Program.perform op).bind next) state =
      { responder.evaluate (next value) after with
        events := ⟨op, .ok value⟩ :: (responder.evaluate (next value) after).events } := by
  simp [evaluate_bind, evaluate_perform, answered]

theorem evaluate_perform_error (answered : responder.respond state op = (.error error, after))
    (next : S.Value op → Program S ε β) :
    responder.evaluate ((Program.perform op).bind next) state = ⟨[⟨op, .error error⟩], .error error, after⟩ := by
  simp [evaluate_bind, evaluate_perform, answered]

theorem evaluate_raiseIf_bind (condition : Bool) (error : ε) (next : Unit → Program S ε β) (state : τ) :
    responder.evaluate ((Program.raiseIf condition error).bind next) state =
      if condition then ⟨[], .error error, state⟩ else responder.evaluate (next ()) state := by
  cases condition <;> rfl

theorem evaluate_keeps {γ : Type} (asks : program.Asks only) (see : τ → γ)
    (kept : ∀ state op, only op → see (responder.respond state op).2 = see state) (state : τ) :
    see (responder.evaluate program state).state = see state := by
  induction program generalizing state with
  | pure => rfl
  | raise => rfl
  | call op rest ih =>
    simp only [evaluate]
    rw [ih _ (asks.2 _), kept _ _ asks.1]

theorem evaluate_project {ρ : Type} {part : Responder S ε ρ} (asks : program.Asks only) (project : τ → ρ)
    (alike : ∀ state op, only op →
      part.respond (project state) op = ((responder.respond state op).1, project (responder.respond state op).2))
    (state : τ) :
    part.evaluate program (project state) =
      ⟨(responder.evaluate program state).events, (responder.evaluate program state).result,
        project (responder.evaluate program state).state⟩ := by
  induction program generalizing state with
  | pure => rfl
  | raise => rfl
  | call op rest ih =>
    simp only [evaluate]
    rw [alike _ _ asks.1, ih _ (asks.2 _)]

theorem evaluate_catching_ok {body : Program S ε α} {catches : ε → Bool} {recover : ε → β} {value : α} {state : τ}
    (ended : (responder.evaluate body state).result = .ok value) :
    responder.evaluate (body.catching catches recover) state =
      ⟨(responder.evaluate body state).events, .ok (.ok value), (responder.evaluate body state).state⟩ := by
  induction body generalizing state with
  | pure =>
    cases ended
    rfl
  | raise => cases ended
  | call op rest ih =>
    simp only [Program.catching, evaluate] at ended ⊢
    rw [ih _ ended]

/-! ## Programs that return -/

/-- From `state` the program returns `value` and leaves `after`. -/
def Returns (responder : Responder S ε τ) (program : Program S ε α) (state : τ) (value : α) (after : τ) : Prop :=
  (responder.evaluate program state).result = .ok value ∧ (responder.evaluate program state).state = after

namespace Returns

variable {program : Program S ε α} {state middle after : τ} {value : α}

theorem pure (value : α) (state : τ) : responder.Returns (.pure value : Program S ε α) state value state := ⟨rfl, rfl⟩

theorem perform {op : S.Op} {value : S.Value op} (answered : responder.respond state op = (.ok value, after)) :
    responder.Returns (Program.perform op : Program S ε _) state value after := by
  simp [Returns, evaluate_perform, answered]

section

variable (first : responder.Returns program state value middle)
include first

theorem evaluate_bind_eq (next : α → Program S ε β) :
    responder.evaluate (program.bind next) state =
      { responder.evaluate (next value) middle with
        events := (responder.evaluate program state).events ++ (responder.evaluate (next value) middle).events } := by
  obtain ⟨returned, left⟩ := first
  rw [evaluate_bind, Outcome.andThen, returned, left]

theorem bind {next : α → Program S ε β} {last : β} (rest : responder.Returns (next value) middle last after) :
    responder.Returns (program.bind next) state last after := by
  rw [Returns, first.evaluate_bind_eq]
  exact rest

theorem completed_bind (next : α → Program S ε β) :
    (responder.evaluate (program.bind next) state).completed = (responder.evaluate (next value) middle).completed := by
  rw [first.evaluate_bind_eq]
  rfl

end

theorem catching {catches : ε → Bool} {recover : ε → β} (first : responder.Returns program state value after) :
    responder.Returns (program.catching catches recover) state (.ok value) after := by
  rw [Returns, evaluate_catching_ok first.1]
  exact ⟨rfl, first.2⟩

end Returns

theorem completed_bind_returns {next : α → Program S ε β}
    (quiet : ∀ value after, ∃ result, responder.Returns (next value) after result after)
    (program : Program S ε α) (state : τ) :
    (responder.evaluate (program.bind next) state).completed = (responder.evaluate program state).completed := by
  rw [evaluate_bind, Outcome.completed_andThen]
  cases ended : (responder.evaluate program state).result with
  | error => simp [Outcome.completed, ended]
  | ok value =>
    obtain ⟨result, returned⟩ := quiet value (responder.evaluate program state).state
    simp [Outcome.completed, ended, returned.1, returned.2]

end Responder

end GoldFlow.Effect
