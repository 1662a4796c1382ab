import GoldFlow.Effect.Program

/-! # Running programs -/

namespace GoldFlow.Effect

variable {S : Signature} {ε α β σ : Type}

/-- A request together with the answer it got. -/
abbrev Event (S : Signature) (ε : Type) := (op : S.Op) × Except ε (S.Value op)

structure Environment (S : Signature) (ε σ : Type) where
  step : σ → Event S ε → σ → Prop

/-- A program takes the events `events` in an environment. -/
inductive Steps (env : Environment S ε σ) :
    σ → Program S ε α → List (Event S ε) → σ → Program S ε α → Prop
  | refl {state program} : Steps env state program [] state program
  | call {state middle final op next reply events residual} :
      env.step state ⟨op, reply⟩ middle →
      Steps env middle (next reply) events final residual →
      Steps env state (.call op next) (⟨op, reply⟩ :: events) final residual

/-- Every request is `allowed` in the state in which it is made, and every end meets `post`. -/
def Program.wp (env : Environment S ε σ) (allowed : σ → S.Op → Prop)
    (post : σ → Except ε α → Prop) : Program S ε α → σ → Prop
  | .pure value, state => post state (.ok value)
  | .raise error, state => post state (.error error)
  | .call op next, state =>
    allowed state op ∧
      ∀ reply after, env.step state ⟨op, reply⟩ after → (next reply).wp env allowed post after

variable {env : Environment S ε σ} {program residual : Program S ε α} {events : List (Event S ε)} {state final : σ}
  {allowed : List (Event S ε) → S.Op → Prop} {post : List (Event S ε) → Except ε α → Prop} {only : S.Op → Prop}

theorem Steps.first_step {first : Event S ε} (steps : Steps env state program events final residual)
    (begins : events.head? = some first) : ∃ middle, env.step state first middle := by
  cases steps with
  | refl => cases begins
  | call step _ =>
    cases begins
    exact ⟨_, step⟩

namespace Program

variable {env : Environment S ε σ} {allowed : σ → S.Op → Prop}

variable {post : σ → Except ε α → Prop}

@[simp] theorem wp_pure (value : α) (state : σ) :
    (Program.pure value).wp env allowed post state ↔ post state (.ok value) := Iff.rfl

@[simp] theorem wp_raise (error : ε) (state : σ) :
    (Program.raise error : Program S ε α).wp env allowed post state ↔ post state (.error error) :=
  Iff.rfl

@[simp] theorem wp_call (op : S.Op) (next : Except ε (S.Value op) → Program S ε α) (state : σ) :
    (Program.call op next).wp env allowed post state ↔
      allowed state op ∧
        ∀ reply after, env.step state ⟨op, reply⟩ after →
          (next reply).wp env allowed post after := Iff.rfl

/-- How a verified first part hands over to the rest of the program. -/
def Resumes (env : Environment S ε σ) (allowed : σ → S.Op → Prop)
    (post : σ → Except ε β → Prop) (next : α → Program S ε β) (state : σ) :
    Except ε α → Prop
  | .ok value => (next value).wp env allowed post state
  | .error error => post state (.error error)

theorem wp_bind {post : σ → Except ε β → Prop} (program : Program S ε α) (next : α → Program S ε β) (state : σ) :
    (program.bind next).wp env allowed post state ↔ program.wp env allowed (Resumes env allowed post next) state := by
  induction program generalizing state with
  | pure => rfl
  | raise => rfl
  | call op rest ih =>
    simp only [bind_call, wp_call, ih]

variable {program : Program S ε α} {permitted : σ → S.Op → Prop} {state : σ} {ω : Type}

theorem wp_mono {weaker : σ → Except ε α → Prop} (verified : program.wp env allowed post state)
    (permits : ∀ state op, allowed state op → permitted state op)
    (implies : ∀ final result, post final result → weaker final result) : program.wp env permitted weaker state := by
  induction program generalizing state with
  | pure => exact implies _ _ verified
  | raise => exact implies _ _ verified
  | call op rest ih =>
    refine ⟨permits _ _ verified.1, fun reply after step => ?_⟩
    exact ih reply (verified.2 reply after step)

theorem wp_and {also : σ → Except ε α → Prop} (first : program.wp env allowed post state)
    (second : program.wp env permitted also state) :
    program.wp env (fun state op => allowed state op ∧ permitted state op)
      (fun final result => post final result ∧ also final result) state := by
  induction program generalizing state with
  | pure => exact ⟨first, second⟩
  | raise => exact ⟨first, second⟩
  | call op rest ih =>
    refine ⟨⟨first.1, second.1⟩, fun reply after step => ?_⟩
    exact ih reply (first.2 reply after step) (second.2 reply after step)

def Caught (catches : ε → Bool) (recover : ε → β) (post : σ → Except ε (Except β α) → Prop)
    (state : σ) : Except ε α → Prop
  | .ok value => post state (.ok (.ok value))
  | .error error =>
    if catches error then post state (.ok (.error (recover error))) else post state (.error error)

theorem wp_catching {post : σ → Except ε (Except β α) → Prop} (body : Program S ε α)
    (catches : ε → Bool) (recover : ε → β) (state : σ) :
    (body.catching catches recover).wp env allowed post state ↔
      body.wp env allowed (Caught catches recover post) state := by
  induction body generalizing state with
  | pure => rfl
  | raise =>
    simp only [catching, wp_raise, Caught]
    split <;> rfl
  | call op rest ih =>
    simp only [catching, wp_call, ih]

theorem wp_ofExcept (result : Except ε α) (state : σ) :
    (Program.ofExcept result : Program S ε α).wp env allowed post state ↔ post state result := by
  cases result <;> rfl

theorem wp_perform {post : σ → Except ε (S.Value op) → Prop} (state : σ) :
    (Program.perform op : Program S ε _).wp env allowed post state ↔
      allowed state op ∧ ∀ reply after, env.step state ⟨op, reply⟩ after → post after reply := by
  simp only [perform]
  refine and_congr_right fun _ => forall_congr' fun reply => ?_
  cases reply <;> rfl

/-- How a part that may return early hands over to the rest. -/
def Continues {ω : Type} (env : Environment S ε σ) (allowed : σ → S.Op → Prop)
    (post : σ → Except ε (Except ω β) → Prop) (next : α → ExceptT ω (Program S ε) β) (state : σ) :
    Except ε (Except ω α) → Prop
  | .ok (.ok value) => Program.wp env allowed post (next value) state
  | .ok (.error early) => post state (.ok (.error early))
  | .error error => post state (.error error)

theorem wp_bind_returning {post : σ → Except ε (Except ω β) → Prop} (program : ExceptT ω (Program S ε) α)
    (next : α → ExceptT ω (Program S ε) β) (state : σ) :
    Program.wp env allowed post (program >>= next : ExceptT ω (Program S ε) β) state ↔
      Program.wp env allowed (Continues env allowed post next) program state := by
  have unfolded : (program >>= next : ExceptT ω (Program S ε) β) =
      Program.bind program (ExceptT.bindCont next) := rfl
  have handover : Resumes env allowed post (ExceptT.bindCont next) =
      Continues env allowed post next := by
    funext state result
    match result with
    | .ok (.ok value) => rfl
    | .ok (.error early) => rfl
    | .error error => rfl
  rw [unfolded, wp_bind, handover]

theorem wp_liftM {post : σ → Except ε (Except ω α) → Prop} (program : Program S ε α) (state : σ) :
    Program.wp env allowed post (liftM program : ExceptT ω (Program S ε) α) state ↔
      program.wp env allowed (fun final result => post final (result.map .ok)) state := by
  have unfolded : (liftM program : ExceptT ω (Program S ε) α) =
      Program.bind program fun value => .pure (.ok value) := rfl
  have handover : Resumes env allowed post (fun value => .pure (.ok value)) =
      fun final (result : Except ε α) => post final (result.map .ok) := by
    funext state result
    cases result <;> rfl
  rw [unfolded, wp_bind, handover]

theorem wp_raiseIf {post : σ → Except ε Unit → Prop} (condition : Bool) (error : ε) (state : σ) :
    (Program.raiseIf condition error : Program S ε Unit).wp env allowed post state ↔
      (condition = true → post state (.error error)) ∧ (condition = false → post state (.ok ())) := by
  cases condition <;> simp [raiseIf]

theorem wp_returnIf {post : σ → Except ε (Except ω Unit) → Prop} (condition : Bool) (early : ω) (state : σ) :
    Program.wp env allowed post (Program.returnIf condition early : ExceptT ω (Program S ε) Unit) state ↔
      (condition = true → post state (.ok (.error early))) ∧
        (condition = false → post state (.ok (.ok ()))) := by
  cases condition
  · simp only [Bool.false_eq_true, false_implies, true_and, forall_const]
    rfl
  · simp only [Bool.true_eq_false, false_implies, and_true, forall_const]
    rfl

theorem wp_steps {residual : Program S ε α} {state final : σ} {events : List (Event S ε)}
    (verified : program.wp env allowed post state) (steps : Steps env state program events final residual) :
    residual.wp env allowed post final := by
  induction steps with
  | refl => exact verified
  | call step _ ih => exact ih (verified.2 _ _ step)

end Program

/-! ## Monitors -/

/-- A deterministic observer of the events of one program. -/
structure Monitor (S : Signature) (ε σ : Type) where
  observe : σ → Event S ε → σ

/-- A monitor as an environment that gives every possible answer. -/
def Monitor.environment (monitor : Monitor S ε σ) : Environment S ε σ where
  step := fun state event after => after = monitor.observe state event

/-- The monitor that remembers every event. -/
def history : Monitor S ε (List (Event S ε)) where
  observe := fun events event => events ++ [event]

theorem foldl_history (earlier events : List (Event S ε)) :
    events.foldl history.observe earlier = earlier ++ events := by
  induction events generalizing earlier with
  | nil => simp
  | cons event events ih =>
    show events.foldl history.observe (earlier ++ [event]) = earlier ++ event :: events
    rw [ih, List.append_assoc, List.singleton_append]

theorem Program.wp_of_history {monitor : Monitor S ε σ} {initial : σ} {permitted : σ → S.Op → Prop}
    {weaker : σ → Except ε α → Prop} (verified : program.wp history.environment allowed post events)
    (permits : ∀ events op, allowed events op → permitted (events.foldl monitor.observe initial) op)
    (implies : ∀ events result, post events result → weaker (events.foldl monitor.observe initial) result) :
    program.wp monitor.environment permitted weaker (events.foldl monitor.observe initial) := by
  induction program generalizing events with
  | pure => exact implies _ _ verified
  | raise => exact implies _ _ verified
  | call op rest ih =>
    refine ⟨permits _ _ verified.1, ?_⟩
    rintro reply _ rfl
    have remaining := ih reply (verified.2 reply _ rfl)
    rwa [history, List.foldl_append] at remaining

theorem Program.asks_of_wp (verified : program.wp history.environment allowed post events)
    (permits : ∀ events op, allowed events op → only op) : program.Asks only := by
  induction program generalizing events with
  | pure => exact trivial
  | raise => exact trivial
  | call op rest ih =>
    exact ⟨permits _ _ verified.1, fun reply => ih reply (verified.2 reply _ rfl)⟩

theorem Program.wp_of_asks {allowed : σ → S.Op → Prop} (asks : program.Asks only)
    (permits : ∀ state op, only op → allowed state op) (state : σ) :
    program.wp env allowed (fun _ _ => True) state := by
  induction program generalizing state with
  | pure => exact trivial
  | raise => exact trivial
  | call op rest ih =>
    exact ⟨permits _ _ asks.1, fun reply after _ => ih reply (asks.2 reply) after⟩

/-- A monitor that also remembers which call it observes. -/
def Monitor.tagged (monitor : Monitor S ε σ) (C : Type) : Monitor S ε (C × σ) where
  observe := fun (call, state) event => (call, monitor.observe state event)

theorem Monitor.foldl_tagged {C : Type} (monitor : Monitor S ε σ) (call : C) (state : σ) (events : List (Event S ε)) :
    events.foldl (monitor.tagged C).observe (call, state) = (call, events.foldl monitor.observe state) := by
  induction events generalizing state with
  | nil => rfl
  | cons event events ih => exact ih (monitor.observe state event)

theorem Steps.history (steps : Steps env state program events final residual) (earlier : List (Event S ε)) :
    Steps history.environment earlier program events (earlier ++ events) residual := by
  induction steps generalizing earlier with
  | refl => simpa using Steps.refl
  | @call state middle final op next reply events residual step _ ih =>
    have rest := ih (earlier ++ [⟨op, reply⟩])
    rw [List.append_assoc] at rest
    exact .call rfl rest

end GoldFlow.Effect
