import GoldFlow.Effect.Semantics

/-! # Programs that answer unless they are interrupted -/

namespace GoldFlow.Effect

variable {S : Signature} {ε α β ω σ : Type} {env : Environment S ε σ}

/-- The answers that interrupt a program: exceptions of a kind of their own. -/
structure Interrupts (S : Signature) (ε : Type) where
  raised : Event S ε → Bool
  carries : ε → Bool
  carries_of_raised : ∀ op error, raised ⟨op, .error error⟩ = true → carries error = true
  raised_ok : ∀ op value, raised ⟨op, .ok value⟩ = false

/-- The environment that also remembers whether it has interrupted the program. -/
def Environment.watched (env : Environment S ε σ) (interrupts : Interrupts S ε) :
    Environment S ε (σ × Bool) where
  step := fun before event after =>
    env.step before.1 event after.1 ∧ after.2 = (before.2 || interrupts.raised event)

/-- How a program may end: interrupted exactly when it raises an interrupt. -/
def Answered (interrupts : Interrupts S ε) (excused : σ → ε → Prop) (returns : σ → α → Prop) :
    σ × Bool → Except ε α → Prop
  | (state, interrupted), .ok value => interrupted = false ∧ returns state value
  | (state, false), .error error => excused state error
  | (_, true), .error error => interrupts.carries error = true

structure Answers (env : Environment S ε σ) (interrupts : Interrupts S ε) (excused : σ → ε → Prop)
    (returns : σ → α → Prop) (program : Program S ε α) (state : σ) : Prop where
  verified : program.wp (env.watched interrupts) (fun _ _ => True)
    (Answered interrupts excused returns) (state, false)

theorem Steps.watched {program residual : Program S ε α} {state final : σ} {events : List (Event S ε)}
    (steps : Steps env state program events final residual) (interrupts : Interrupts S ε) (interrupted : Bool) :
    Steps (env.watched interrupts) (state, interrupted) program events
      (final, interrupted || events.any interrupts.raised) residual := by
  induction steps generalizing interrupted with
  | refl => simpa using Steps.refl
  | @call state middle final op next reply events residual step _ ih =>
    have rest := ih (interrupted || interrupts.raised ⟨op, reply⟩)
    rw [Bool.or_assoc] at rest
    exact .call ⟨step, rfl⟩ rest

namespace Answers

variable {env : Environment S ε σ} {interrupts : Interrupts S ε} {excused : σ → ε → Prop}
  {returns : σ → α → Prop} {state : σ} {error : ε}

theorem pure {value : α} (returned : returns state value) :
    Answers env interrupts excused returns (.pure value) state := ⟨rfl, returned⟩

theorem raise (excuse : excused state error) :
    Answers env interrupts excused returns (.raise error) state := ⟨excuse⟩

variable {program : Program S ε α}

theorem mono {weaker : σ → α → Prop} (answers : Answers env interrupts excused returns program state)
    (implies : ∀ later value, returns later value → weaker later value) :
    Answers env interrupts excused weaker program state := by
  constructor
  apply Program.wp_mono answers.verified (fun _ _ permitted => permitted)
  rintro ⟨later, interrupted⟩ result ended
  cases result with
  | ok value => exact ⟨ended.1, implies later value ended.2⟩
  | error => cases interrupted <;> exact ended

theorem excuse {weaker : σ → ε → Prop} (answers : Answers env interrupts excused returns program state)
    (implies : ∀ later error, excused later error → weaker later error) :
    Answers env interrupts weaker returns program state := by
  constructor
  apply Program.wp_mono answers.verified (fun _ _ permitted => permitted)
  rintro ⟨later, interrupted⟩ result ended
  match result, interrupted with
  | .ok value, _ => exact ended
  | .error error, true => exact ended
  | .error error, false => exact implies later error ended

theorem bind {then_ : σ → β → Prop} {next : α → Program S ε β}
    (first : Answers env interrupts excused returns program state)
    (rest : ∀ later value, returns later value → Answers env interrupts excused then_ (next value) later) :
    Answers env interrupts excused then_ (program.bind next) state := by
  constructor
  apply (Program.wp_bind program next _).mpr
  apply Program.wp_mono first.verified (fun _ _ permitted => permitted)
  rintro ⟨later, interrupted⟩ result ended
  cases result with
  | ok value =>
    obtain ⟨rfl, returned⟩ := ended
    exact (rest later value returned).verified
  | error => cases interrupted <;> exact ended

theorem perform (op : S.Op) {returns : σ → S.Value op → Prop}
    (answered : ∀ value after, env.step state ⟨op, .ok value⟩ after → returns after value)
    (failed : ∀ error after, env.step state ⟨op, .error error⟩ after → interrupts.raised ⟨op, .error error⟩ = false →
      excused after error) :
    Answers env interrupts excused returns (Program.perform op) state := by
  constructor
  apply (Program.wp_perform _).mpr ⟨trivial, _⟩
  rintro reply ⟨after, interrupted⟩ ⟨step, flag⟩
  subst flag
  cases reply with
  | ok value => exact ⟨interrupts.raised_ok op value, answered value after step⟩
  | error error =>
    cases kind : interrupts.raised ⟨op, .error error⟩ with
    | true => exact interrupts.carries_of_raised op error kind
    | false => exact failed error after step kind

variable {result : Except ε α} {condition : Bool} {catches : ε → Bool} {recover : ε → β}

theorem ofExcept (succeeds : ∃ value, result = .ok value ∧ returns state value) :
    Answers env interrupts excused returns (Program.ofExcept result) state := by
  obtain ⟨value, rfl, returned⟩ := succeeds
  exact pure returned

theorem ofExcept_bind {then_ : σ → β → Prop} {next : α → Program S ε β} (succeeds : ∃ value, result = .ok value)
    (rest : ∀ value, result = .ok value → Answers env interrupts excused then_ (next value) state) :
    Answers env interrupts excused then_ ((Program.ofExcept result).bind next) state := by
  obtain ⟨value, rfl⟩ := succeeds
  exact rest value rfl

theorem raiseIf_bind {then_ : σ → β → Prop} {next : Unit → Program S ε β}
    (excuse : condition = true → excused state error)
    (rest : condition = false → Answers env interrupts excused then_ (next ()) state) :
    Answers env interrupts excused then_ ((Program.raiseIf condition error).bind next) state := by
  cases condition with
  | true => exact raise (excuse rfl)
  | false => exact rest rfl

theorem ite {condition : Prop} [Decidable condition] {taken otherwise : Program S ε α}
    (holds : condition → Answers env interrupts excused returns taken state)
    (fails : ¬condition → Answers env interrupts excused returns otherwise state) :
    Answers env interrupts excused returns (if condition then taken else otherwise) state := by
  split
  next positive => exact holds positive
  next negative => exact fails negative

theorem catching {then_ : σ → Except β α → Prop} {body : Program S ε α}
    (through : ∀ error, interrupts.carries error = true → catches error = false)
    (inside : Answers env interrupts (fun later error => catches error = true ∧
      then_ later (.error (recover error))) returns body state)
    (completed : ∀ later value, returns later value → then_ later (.ok value)) :
    Answers env interrupts excused then_ (body.catching catches recover) state := by
  constructor
  apply (Program.wp_catching body catches recover _).mpr
  apply Program.wp_mono inside.verified (fun _ _ permitted => permitted)
  rintro ⟨later, interrupted⟩ result ended
  cases result with
  | ok value => exact ⟨ended.1, completed later value ended.2⟩
  | error error =>
    cases interrupted with
    | true =>
      -- an interrupt passes the handler by
      rw [Program.Caught, through error ended, if_neg Bool.false_ne_true]
      exact ended
    | false =>
      rw [Program.Caught, if_pos ended.1]
      exact ⟨rfl, ended.2⟩

theorem catching_perform (op : S.Op) {then_ : σ → Except β (S.Value op) → Prop}
    (uninterrupted : ∀ error, interrupts.raised ⟨op, .error error⟩ = false)
    (completed : ∀ value after, env.step state ⟨op, .ok value⟩ after → then_ after (.ok value))
    (recovered : ∀ error after, env.step state ⟨op, .error error⟩ after →
      catches error = true ∧ then_ after (.error (recover error))) :
    Answers env interrupts excused then_ ((Program.perform op).catching catches recover) state := by
  constructor
  apply (Program.wp_catching _ catches recover _).mpr
  apply (Program.wp_perform _).mpr ⟨trivial, _⟩
  rintro reply ⟨after, interrupted⟩ ⟨step, flag⟩
  cases reply with
  | ok value =>
    rw [interrupts.raised_ok] at flag
    subst flag
    exact ⟨rfl, completed value after step⟩
  | error error =>
    rw [uninterrupted] at flag
    subst flag
    obtain ⟨caught, held⟩ := recovered error after step
    rw [Program.Caught, if_pos caught]
    exact ⟨rfl, held⟩

/-- **A run to the end**: interrupted, it raises. -/
theorem ended {residual : Program S ε α} {final : σ} {events : List (Event S ε)}
    (answers : Answers env interrupts excused returns program state)
    (steps : Steps env state program events final residual) (done : residual.Done) :
    (∃ value, residual = .pure value ∧ events.any interrupts.raised = false ∧ returns final value) ∨
      ∃ error, residual = .raise error ∧
        (events.any interrupts.raised = true ∨ excused final error) := by
  have rest := Program.wp_steps answers.verified (steps.watched interrupts false)
  rw [Bool.false_or] at rest
  cases residual with
  | pure value => exact .inl ⟨value, rfl, rest⟩
  | raise error =>
    refine .inr ⟨error, rfl, ?_⟩
    generalize events.any interrupts.raised = interrupted at rest
    cases interrupted with
    | true => exact .inl rfl
    | false => exact .inr rest
  | call => exact done.elim

/-! ### Early returns -/

variable {then_ : σ → Except ω β → Prop} {next : α → ExceptT ω (Program S ε) β}

theorem bind_returning {first : σ → Except ω α → Prop} {program : ExceptT ω (Program S ε) α}
    (begins : Answers env interrupts excused first program state)
    (early : ∀ later value, first later (.error value) → then_ later (.error value))
    (rest : ∀ later value, first later (.ok value) → Answers env interrupts excused then_ (next value) later) :
    Answers env interrupts excused then_ (program >>= next : ExceptT ω (Program S ε) β) state := by
  constructor
  apply (Program.wp_bind_returning program next _).mpr
  apply Program.wp_mono begins.verified (fun _ _ permitted => permitted)
  rintro ⟨later, interrupted⟩ result ended
  match result with
  | .ok (.ok value) =>
    obtain ⟨rfl, returned⟩ := ended
    exact (rest later value returned).verified
  | .ok (.error value) => exact ⟨ended.1, early later value ended.2⟩
  | .error error => cases interrupted <;> exact ended

theorem lift_bind (begins : Answers env interrupts excused returns program state)
    (rest : ∀ later value, returns later value → Answers env interrupts excused then_ (next value) later) :
    Answers env interrupts excused then_ (liftM program >>= next : ExceptT ω (Program S ε) β) state := by
  have unfolded : (liftM program >>= next : ExceptT ω (Program S ε) β) =
      (program.bind fun value => .pure (.ok value)).bind (ExceptT.bindCont next) := rfl
  rw [unfolded, Program.bind_assoc]
  exact bind begins rest

theorem lift_ofExcept_bind (succeeds : ∃ value, result = .ok value)
    (rest : ∀ value, result = .ok value → Answers env interrupts excused then_ (next value) state) :
    Answers env interrupts excused then_
      (liftM (Program.ofExcept result : Program S ε α) >>= next : ExceptT ω (Program S ε) β)
      state := by
  obtain ⟨value, rfl⟩ := succeeds
  exact rest value rfl

theorem returnIf_bind {early : ω} {next : Unit → ExceptT ω (Program S ε) β}
    (returned : condition = true → then_ state (.error early))
    (rest : condition = false → Answers env interrupts excused then_ (next ()) state) :
    Answers env interrupts excused then_
      (Program.returnIf condition early >>= next : ExceptT ω (Program S ε) β) state := by
  cases condition with
  | true => exact pure (returned rfl)
  | false => exact rest rfl

end Answers

end GoldFlow.Effect
