import GoldFlow.Effect.Semantics

/-! # A program logic over histories -/

namespace GoldFlow.Effect

variable {S : Signature} {ε α β ω : Type}

/-- How a program that keeps its discipline may end. -/
def Ends (excused : List (Event S ε) → ε → Prop) (returns : List (Event S ε) → α → Prop)
    (events : List (Event S ε)) : Except ε α → Prop
  | .ok value => returns events value
  | .error error => excused events error

structure Keeps (allowed : List (Event S ε) → S.Op → Prop) (excused : List (Event S ε) → ε → Prop)
    (returns : List (Event S ε) → α → Prop) (program : Program S ε α) (events : List (Event S ε)) :
    Prop where
  verified : program.wp history.environment allowed (Ends excused returns) events

namespace Keeps

variable {allowed : List (Event S ε) → S.Op → Prop} {excused : List (Event S ε) → ε → Prop}
  {returns : List (Event S ε) → α → Prop} {events : List (Event S ε)} {error : ε}

theorem pure {value : α} (returned : returns events value) :
    Keeps allowed excused returns (.pure value) events := ⟨returned⟩

theorem raise (excuse : excused events error) :
    Keeps allowed excused returns (.raise error) events := ⟨excuse⟩

variable {program : Program S ε α}

theorem mono {weaker : List (Event S ε) → α → Prop} (keeps : Keeps allowed excused returns program events)
    (implies : ∀ later value, returns later value → weaker later value) :
    Keeps allowed excused weaker program events := by
  refine ⟨Program.wp_mono keeps.verified (fun _ _ permitted => permitted) fun later result ended => ?_⟩
  cases result with
  | ok value => exact implies later value ended
  | error => exact ended

theorem bind {then_ : List (Event S ε) → β → Prop} {next : α → Program S ε β}
    (first : Keeps allowed excused returns program events)
    (rest : ∀ later value, returns later value → Keeps allowed excused then_ (next value) later) :
    Keeps allowed excused then_ (program.bind next) events := by
  refine ⟨(Program.wp_bind program next events).mpr ?_⟩
  refine Program.wp_mono first.verified (fun _ _ permitted => permitted) fun later result ended => ?_
  cases result with
  | ok value => exact (rest later value ended).verified
  | error => exact ended

theorem perform (op : S.Op) {returns : List (Event S ε) → S.Value op → Prop} (permitted : allowed events op)
    (excuse : ∀ error, excused (events ++ [⟨op, .error error⟩]) error)
    (answered : ∀ value, returns (events ++ [⟨op, .ok value⟩]) value) :
    Keeps allowed excused returns (Program.perform op) events := by
  refine ⟨(Program.wp_perform events).mpr ⟨permitted, ?_⟩⟩
  rintro reply _ rfl
  cases reply with
  | ok value => exact answered value
  | error error => exact excuse error

variable {result : Except ε α}

theorem ofExcept (excuse : ∀ error, result = .error error → excused events error)
    (returned : ∀ value, result = .ok value → returns events value) :
    Keeps allowed excused returns (Program.ofExcept result) events := by
  refine ⟨(Program.wp_ofExcept result events).mpr ?_⟩
  cases result with
  | ok value => exact returned value rfl
  | error error => exact excuse error rfl

variable {condition : Bool}

theorem perform_bind {op : S.Op} {then_ : List (Event S ε) → β → Prop} {next : S.Value op → Program S ε β}
    (permitted : allowed events op) (excuse : ∀ error, excused (events ++ [⟨op, .error error⟩]) error)
    (rest : ∀ value, Keeps allowed excused then_ (next value) (events ++ [⟨op, .ok value⟩])) :
    Keeps allowed excused then_ ((Program.perform op).bind next) events := by
  have answered : Keeps allowed excused (fun later value => later = events ++ [⟨op, .ok value⟩])
      (Program.perform op) events := perform op permitted excuse fun _ => rfl
  refine bind answered ?_
  rintro later value rfl
  exact rest value

theorem ofExcept_bind {then_ : List (Event S ε) → β → Prop} {next : α → Program S ε β}
    (excuse : ∀ error, result = .error error → excused events error)
    (rest : ∀ value, result = .ok value → Keeps allowed excused then_ (next value) events) :
    Keeps allowed excused then_ ((Program.ofExcept result).bind next) events := by
  cases result with
  | ok value => exact rest value rfl
  | error error => exact raise (excuse error rfl)

theorem raiseIf_bind {then_ : List (Event S ε) → β → Prop} {next : Unit → Program S ε β}
    (excuse : condition = true → excused events error)
    (rest : condition = false → Keeps allowed excused then_ (next ()) events) :
    Keeps allowed excused then_ ((Program.raiseIf condition error).bind next) events := by
  cases condition with
  | true => exact raise (excuse rfl)
  | false => exact rest rfl

theorem ite {condition : Prop} [Decidable condition] {taken otherwise : Program S ε α}
    (holds : condition → Keeps allowed excused returns taken events)
    (fails : ¬condition → Keeps allowed excused returns otherwise events) :
    Keeps allowed excused returns (if condition then taken else otherwise) events := by
  split
  next positive => exact holds positive
  next negative => exact fails negative

variable {catches : ε → Bool} {recover : ε → β} {body : Program S ε α} {σ : Type}

theorem catching_raised {then_ : List (Event S ε) → Except β α → Prop}
    (inside : Keeps allowed (fun later error => (catches error = true → then_ later (.error (recover error))) ∧
      (catches error = false → excused later error)) returns body events)
    (completed : ∀ later value, returns later value → then_ later (.ok value)) :
    Keeps allowed excused then_ (body.catching catches recover) events := by
  refine ⟨(Program.wp_catching body catches recover events).mpr ?_⟩
  refine Program.wp_mono inside.verified (fun _ _ permitted => permitted) fun later result ended => ?_
  cases result with
  | ok value => exact completed later value ended
  | error =>
    simp only [Program.Caught]
    split
    next caught => exact ended.1 caught
    next missed => exact ended.2 (by simpa using missed)

theorem catching {then_ : List (Event S ε) → Except β α → Prop} (inside : Keeps allowed excused returns body events)
    (completed : ∀ later value, returns later value → then_ later (.ok value))
    (recovered : ∀ later error, catches error = true → then_ later (.error (recover error))) :
    Keeps allowed excused then_ (body.catching catches recover) events := by
  refine catching_raised ⟨Program.wp_mono inside.verified (fun _ _ permitted => permitted) ?_⟩ completed
  intro later result ended
  cases result with
  | ok => exact ended
  | error error => exact ⟨recovered later error, fun _ => ended⟩

theorem catching_perform (op : S.Op) {then_ : List (Event S ε) → Except β (S.Value op) → Prop}
    (permitted : allowed events op)
    (excuse : ∀ error, catches error = false → excused (events ++ [⟨op, .error error⟩]) error)
    (completed : ∀ value, then_ (events ++ [⟨op, .ok value⟩]) (.ok value))
    (recovered : ∀ error, catches error = true → then_ (events ++ [⟨op, .error error⟩]) (.error (recover error))) :
    Keeps allowed excused then_ ((Program.perform op).catching catches recover) events := by
  have asked : Keeps allowed (fun later error =>
      (catches error = true → then_ later (.error (recover error))) ∧
        (catches error = false → excused later error))
      (fun later value => then_ later (.ok value)) (Program.perform op) events :=
    perform op permitted (fun error => ⟨recovered error, excuse error⟩) completed
  exact catching_raised asked fun _ _ returned => returned

theorem of_asks {only : S.Op → Prop} (asks : program.Asks only) (monitor : Monitor S ε σ) (initial : σ)
    (still : ∀ event : Event S ε, only event.1 →
      monitor.observe (events.foldl monitor.observe initial) event = events.foldl monitor.observe initial)
    (permits : ∀ later op, later.foldl monitor.observe initial = events.foldl monitor.observe initial → only op →
      allowed later op)
    (excuse : ∀ later error, later.foldl monitor.observe initial = events.foldl monitor.observe initial →
      excused later error) :
    Keeps allowed excused
      (fun later _ => later.foldl monitor.observe initial = events.foldl monitor.observe initial)
      program events := by
  constructor
  generalize current : events.foldl monitor.observe initial = state at still permits excuse ⊢
  induction program generalizing events with
  | pure => exact current
  | raise => exact excuse _ _ current
  | call op rest ih =>
    refine ⟨permits _ _ current asks.1, ?_⟩
    rintro reply _ rfl
    apply ih reply (asks.2 reply)
    simp [history, current, still ⟨op, reply⟩ asks.1]

theorem ended {env : Environment S ε σ} {state final : σ} {holds : List (Event S ε) → Prop} {residual : Program S ε α}
    {made : List (Event S ε)}
    (keeps : Keeps allowed (fun later _ => holds later) (fun later _ => holds later) program events)
    (steps : Steps env state program made final residual) (done : residual.Done) : holds (events ++ made) := by
  have rest := Program.wp_steps keeps.verified (steps.history events)
  cases residual with
  | pure => exact rest
  | raise => exact rest
  | call => exact done.elim

/-! ### Early returns -/

variable {then_ : List (Event S ε) → Except ω β → Prop} {next : α → ExceptT ω (Program S ε) β} {early : ω}

theorem bind_returning {first : List (Event S ε) → Except ω α → Prop}
    {program : ExceptT ω (Program S ε) α} (begins : Keeps allowed excused first program events)
    (early : ∀ later value, first later (.error value) → then_ later (.error value))
    (rest : ∀ later value, first later (.ok value) → Keeps allowed excused then_ (next value) later) :
    Keeps allowed excused then_ (program >>= next : ExceptT ω (Program S ε) β) events := by
  refine ⟨(Program.wp_bind_returning program next events).mpr ?_⟩
  refine Program.wp_mono begins.verified (fun _ _ permitted => permitted) fun later result ended => ?_
  match result with
  | .ok (.ok value) => exact (rest later value ended).verified
  | .ok (.error value) => exact early later value ended
  | .error error => exact ended

theorem lift_bind (begins : Keeps allowed excused returns program events)
    (rest : ∀ later value, returns later value → Keeps allowed excused then_ (next value) later) :
    Keeps allowed excused then_ (liftM program >>= next : ExceptT ω (Program S ε) β) events := by
  have lifted : Keeps allowed excused
      (fun later result => ∃ value, result = .ok value ∧ returns later value)
      (liftM program : ExceptT ω (Program S ε) α) events := by
    refine ⟨(Program.wp_liftM program events).mpr ?_⟩
    refine Program.wp_mono begins.verified (fun _ _ permitted => permitted) fun later result ended => ?_
    cases result with
    | ok value => exact ⟨value, rfl, ended⟩
    | error => exact ended
  refine bind_returning lifted ?_ ?_
  · rintro later value ⟨_, impossible, _⟩
    cases impossible
  · rintro later value ⟨_, same, returned⟩
    cases same
    exact rest later value returned

theorem lift_ofExcept_bind (excuse : ∀ error, result = .error error → excused events error)
    (rest : ∀ value, result = .ok value → Keeps allowed excused then_ (next value) events) :
    Keeps allowed excused then_
      (liftM (Program.ofExcept result : Program S ε α) >>= next : ExceptT ω (Program S ε) β)
      events := by
  cases result with
  | ok value => exact rest value rfl
  | error error => exact raise (excuse error rfl)

theorem returnIf_bind {next : Unit → ExceptT ω (Program S ε) β}
    (returned : condition = true → then_ events (.error early))
    (rest : condition = false → Keeps allowed excused then_ (next ()) events) :
    Keeps allowed excused then_ (Program.returnIf condition early >>= next : ExceptT ω (Program S ε) β) events := by
  refine ⟨(Program.wp_bind_returning _ next events).mpr ?_⟩
  exact (Program.wp_returnIf condition early events).mpr ⟨returned, fun passed => (rest passed).verified⟩

theorem returnIf {then_ : List (Event S ε) → Except ω Unit → Prop}
    (returned : condition = true → then_ events (.error early)) (passed : condition = false → then_ events (.ok ())) :
    Keeps allowed excused then_ (Program.returnIf condition early : ExceptT ω (Program S ε) Unit) events :=
  ⟨(Program.wp_returnIf condition early events).mpr ⟨returned, passed⟩⟩

end Keeps

/-! ## What a program returns -/

/-- A property of what a program returns, whatever it asks and however it raises. -/
def Yields (returns : List (Event S ε) → α → Prop) (program : Program S ε α) (events : List (Event S ε)) : Prop :=
  Keeps (fun _ _ => True) (fun _ _ => True) returns program events

namespace Yields

variable {returns : List (Event S ε) → α → Prop} {events : List (Event S ε)}

variable {program : Program S ε α}

theorem of_keeps {allowed : List (Event S ε) → S.Op → Prop} {excused : List (Event S ε) → ε → Prop}
    (keeps : Keeps allowed excused returns program events) : Yields returns program events := by
  refine ⟨Program.wp_mono keeps.verified (fun _ _ _ => trivial) fun later result ended => ?_⟩
  cases result with
  | ok => exact ended
  | error => trivial

theorem grows (program : Program S ε α) (events : List (Event S ε)) :
    Yields (fun later _ => events ⊆ later) program events := by
  constructor
  suffices grown : ∀ before, events ⊆ before → program.wp history.environment (fun _ _ => True)
      (Ends (fun _ _ => True) fun later _ => events ⊆ later) before from grown events (List.Subset.refl _)
  induction program with
  | pure => exact fun _ included => included
  | raise => exact fun _ _ => trivial
  | call op next ih =>
    intro before included
    refine ⟨trivial, ?_⟩
    rintro reply _ rfl
    exact ih reply _ (List.subset_append_of_subset_left _ included)

theorem after {then_ : List (Event S ε) → β → Prop} {next : α → Program S ε β}
    (rest : ∀ later value, events ⊆ later → Yields then_ (next value) later) :
    Yields then_ (program.bind next) events :=
  Keeps.bind (grows program events) rest

theorem returned {σ : Type} {env : Environment S ε σ} {state final : σ} {value : α}
    {made : List (Event S ε)} (yields : Yields returns program [])
    (steps : Steps env state program made final (.pure value)) : returns made value := by
  have rest := Program.wp_steps yields.verified (steps.history [])
  rwa [List.nil_append] at rest

end Yields

end GoldFlow.Effect
