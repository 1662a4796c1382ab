import Mathlib.Init

/-! # Effectful programs

Asynchronous code is modelled as a tree of requests to its environment.
-/

namespace GoldFlow.Effect

structure Signature where
  Op : Type
  Value : Op → Type

variable {S : Signature} {ε α β γ : Type}

inductive Program (S : Signature) (ε α : Type) where
  | pure (value : α)
  | raise (error : ε)
  | call (op : S.Op) (next : Except ε (S.Value op) → Program S ε α)

namespace Program

def bind (program : Program S ε α) (next : α → Program S ε β) : Program S ε β :=
  match program with
  | .pure value => next value
  | .raise error => .raise error
  | .call op rest => .call op fun reply => (rest reply).bind next

instance : Monad (Program S ε) where
  pure := .pure
  bind := bind

/-- Make one request; an exceptional answer propagates to the caller. -/
def perform (op : S.Op) : Program S ε (S.Value op) :=
  .call op fun
    | .ok value => .pure value
    | .error error => .raise error

/-- An `Except` value computed by pure code: the exception is raised. -/
def ofExcept : Except ε α → Program S ε α
  | .ok value => .pure value
  | .error error => .raise error

/-- A guard of the code: raise `error` when `condition` holds. -/
def raiseIf (condition : Bool) (error : ε) : Program S ε Unit :=
  if condition then .raise error else .pure ()

/-- A guard: return `early` from the enclosing function. -/
def returnIf {ω : Type} (condition : Bool) (early : ω) : ExceptT ω (Program S ε) Unit :=
  if condition then throw early else Pure.pure ()

/-- An exception selected by `catches` becomes the early result computed by `recover`. -/
def catching (body : Program S ε α) (catches : ε → Bool) (recover : ε → β) :
    Program S ε (Except β α) :=
  match body with
  | .pure value => .pure (.ok value)
  | .raise error => if catches error then .pure (.error (recover error)) else .raise error
  | .call op rest => .call op fun reply => (rest reply).catching catches recover

@[simp] theorem pure_eq (value : α) : (Pure.pure value : Program S ε α) = .pure value := rfl

@[simp] theorem bind_eq (program : Program S ε α) (next : α → Program S ε β) :
    (program >>= next) = program.bind next := rfl

@[simp] theorem bind_pure (value : α) (next : α → Program S ε β) :
    (Program.pure value).bind next = next value := rfl

@[simp] theorem bind_raise (error : ε) (next : α → Program S ε β) :
    (Program.raise error : Program S ε α).bind next = .raise error := rfl

@[simp] theorem bind_call (op : S.Op) (rest : Except ε (S.Value op) → Program S ε α) (next : α → Program S ε β) :
    (Program.call op rest).bind next = .call op fun reply => (rest reply).bind next := rfl

theorem bind_assoc (program : Program S ε α) (first : α → Program S ε β) (second : β → Program S ε γ) :
    (program.bind first).bind second = program.bind fun value => (first value).bind second := by
  induction program with
  | pure => rfl
  | raise => rfl
  | call op rest ih =>
    simp only [bind_call, Program.call.injEq, heq_eq_eq, true_and]
    funext reply
    exact ih reply

/-- The program has ended. -/
def Done : Program S ε α → Prop
  | .pure _ => True
  | .raise _ => True
  | .call _ _ => False

/-! ## Programs that make only certain requests -/

/-- Whatever the answers, the program makes only requests that `only` selects. -/
def Asks (only : S.Op → Prop) : Program S ε α → Prop
  | .pure _ => True
  | .raise _ => True
  | .call op next => only op ∧ ∀ reply, (next reply).Asks only

namespace Asks

variable {only : S.Op → Prop} {program : Program S ε α}

theorem bind {next : α → Program S ε β} (first : program.Asks only)
    (rest : ∀ value, (next value).Asks only) : (program.bind next).Asks only := by
  induction program with
  | pure value => exact rest value
  | raise => exact trivial
  | call op following ih =>
    exact ⟨first.1, fun reply => ih reply (first.2 reply)⟩

theorem perform {op : S.Op} (selected : only op) : (Program.perform op : Program S ε _).Asks only := by
  refine ⟨selected, fun reply => ?_⟩
  cases reply <;> exact trivial

theorem ofExcept (result : Except ε α) : (Program.ofExcept result : Program S ε α).Asks only := by
  cases result <;> exact trivial

theorem raiseIf (condition : Bool) (error : ε) : (Program.raiseIf condition error : Program S ε Unit).Asks only := by
  cases condition <;> exact trivial

theorem ite {condition : Prop} [Decidable condition] {otherwise : Program S ε α} (taken : program.Asks only)
    (rest : otherwise.Asks only) : (if condition then program else otherwise).Asks only := by
  split
  · exact taken
  · exact rest

theorem foldlM {step : β → α → Program S ε β} (each : ∀ state item, (step state item).Asks only) (items : List α)
    (state : β) : (items.foldlM step state).Asks only := by
  induction items generalizing state with
  | nil => trivial
  | cons item items ih =>
    exact bind (each state item) fun next => ih next

theorem catching {catches : ε → Bool} {recover : ε → β} (inside : program.Asks only) :
    (program.catching catches recover).Asks only := by
  induction program with
  | pure => exact trivial
  | raise =>
    unfold Program.catching
    split <;> exact trivial
  | call op following ih =>
    exact ⟨inside.1, fun reply => ih reply (inside.2 reply)⟩

/-! ### Early returns -/

variable {ω : Type} {next : α → ExceptT ω (Program S ε) β}

theorem bind_returning {body : ExceptT ω (Program S ε) α} (first : Program.Asks only body)
    (rest : ∀ value, Program.Asks only (next value)) :
    Program.Asks only (body >>= next : ExceptT ω (Program S ε) β) := by
  apply bind first
  intro result
  cases result with
  | ok value => exact rest value
  | error => exact trivial

theorem lift_bind (first : program.Asks only) (rest : ∀ value, Program.Asks only (next value)) :
    Program.Asks only (liftM program >>= next : ExceptT ω (Program S ε) β) := by
  apply bind_returning _ rest
  exact bind first fun _ => trivial

theorem returnIf (condition : Bool) (early : ω) :
    Program.Asks only (Program.returnIf condition early : ExceptT ω (Program S ε) Unit) := by
  cases condition <;> exact trivial

end Asks

end Program

end GoldFlow.Effect
