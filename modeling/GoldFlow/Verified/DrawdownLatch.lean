import GoldFlow.Verified.ControlRuns

/-! # The drawdown latch

The worker latches `auto_disabled` in the active row.
-/

namespace GoldFlow

open Effect

abbrev CallSequence := List (ControlLabel Unit)

def latched (initially : Bool) (labels : CallSequence) : Bool :=
  afterCommits (fun call payload current =>
    if call = .resetCircuitBreaker then false else current || payload.autoDisabled) initially labels

/-- A request other than a circuit reset copies the controls only with the latch of the active row. -/
def LatchSeen (labels : CallSequence) (state : World) : ControlLabel Unit → Prop
  | .event thread event =>
    ∀ watched ∈ watching labels thread, copiesControls event = true →
      watched.1 ≠ .resetCircuitBreaker → (activeFlags state.runtime).autoDisabled = true →
      state.controls.autoDisabled = true
  | _ => True

instance (labels : CallSequence) (state : World) :
    (label : ControlLabel Unit) → Decidable (LatchSeen labels state label)
  | .event _ _ => inferInstanceAs (Decidable (∀ _ ∈ _, _))
  | .start _ _ | .finish _ _ | .crash _ => .isTrue trivial

def StoredLatch (state : World) : Prop :=
  ∃ payload, state.runtime = some payload ∧ payload.autoDisabled = true ∧ payload.mode ≠ .auto

def HoldsLatch (call : ControlCall) (view : ControlView) : Prop :=
  call ≠ .resetCircuitBreaker → call ≠ .latchDrawdownDisable →
    ∀ held, view.held = some held → held.autoDisabled = true

structure LatchKept (initially : Bool) (labels : CallSequence) (state : World) : Prop where
  stored : latched initially labels = true → StoredLatch state
  carried : latched initially labels = true → ∀ watched, watching labels () = some watched →
    HoldsLatch watched.1 watched.2

namespace LatchKept

variable {initially : Bool} {labels : CallSequence} {state after : World} {call : ControlCall}
  {view next : ControlView} {event : PortEvent}

theorem active (stored : StoredLatch state) : (activeFlags state.runtime).autoDisabled = true := by
  obtain ⟨payload, row, autoDisabled, _⟩ := stored
  rw [row]
  exact autoDisabled

variable (before : LatchKept initially labels state)
include before

theorem between {label : ControlLabel Unit} {watched : Option (ControlCall × ControlView)}
    (same : latched initially (labels ++ [label]) = latched initially labels)
    (view : watching (labels ++ [label]) = Function.update (watching labels) () watched)
    (fresh : ∀ started, watched = some started → started.2.held = none) :
    LatchKept initially (labels ++ [label]) state := by
  constructor
  · rw [same]
    exact before.stored
  · intro _ found running _ _ held holds
    rw [view, Function.update_self] at running
    rw [fresh found running] at holds
    cases holds

theorem of_uncommitted
    (watched : watching (labels ++ [.event () event]) = Function.update (watching labels) () (some (call, next)))
    (uncommitted : committed event = none) (runtime : after.runtime = state.runtime)
    (own : latched initially labels = true → HoldsLatch call next) :
    LatchKept initially (labels ++ [.event () event]) after := by
  have same : latched initially (labels ++ [.event () event]) = latched initially labels :=
    afterCommits_aside _ _ uncommitted
  constructor
  · rw [same]
    intro latching
    rw [StoredLatch, runtime]
    exact before.stored latching
  · rw [same]
    intro latching found running
    rw [watched, Function.update_self] at running
    cases running
    exact own latching

/-- **One move keeps the latch.** -/
theorem moved (running : watching labels () = some (call, view)) (guarded : LatchSeen labels state (.event () event))
    (move : ControlMove call view state event after next)
    (watched : watching (labels ++ [.event () event]) = Function.update (watching labels) () (some (call, next))) :
    LatchKept initially (labels ++ [.event () event]) after := by
  have seen := guarded (call, view) running
  have carries : latched initially labels = true → HoldsLatch call view :=
    fun latching => before.carried latching (call, view) running
  cases move with
  | read =>
    apply before.of_uncommitted watched rfl rfl
    intro latching _ _ held holds
    cases holds
    exact active (before.stored latching)
  | copy =>
    apply before.of_uncommitted watched rfl rfl
    intro latching other _ held holds
    cases holds
    exact seen rfl other (active (before.stored latching))
  | @commit payload held writer holds rewrites =>
    have changed := afterCommits_commit (fun call payload current =>
      if call = .resetCircuitBreaker then false else current || payload.autoDisabled) initially
      running (rfl : committed ⟨.config (.activateConfig payload), .ok ()⟩ = some payload)
    constructor
    · intro latching
      rw [latched, changed] at latching
      -- a circuit reset clears the latch on purpose
      by_cases reset : call = .resetCircuitBreaker
      · simp [reset] at latching
      obtain ⟨durable, rfl⟩ := rewrites.valid
      have autoDisabled : durable.toPayload.autoDisabled = true := by
        by_cases setting : call = .latchDrawdownDisable
        · exact rewrites.latched setting
        · rw [if_neg reset, Bool.or_eq_true] at latching
          rcases latching with earlier | written
          · rw [rewrites.autoDisabled setting]
            exact carries earlier reset setting held holds
          · exact written
      exact ⟨durable.toPayload, rfl, autoDisabled, durable.latched_not_auto autoDisabled⟩
    · intro _ found running _ _ held holds
      rw [watched, Function.update_self] at running
      cases running
      cases holds
  | switch => exact before.of_uncommitted watched rfl rfl carries
  | plan => exact before.of_uncommitted watched rfl rfl carries
  | turn => exact before.of_uncommitted watched rfl rfl carries
  | aside uncommitted between runtime killSwitch drops =>
    apply before.of_uncommitted watched uncommitted runtime
    intro latching other setting held holds
    rcases drops with rfl | rfl
    · exact carries latching other setting held holds
    · cases holds

end LatchKept

/-- **The latch is cleared by a circuit reset only**, in every sequence of calls whose copies have seen it. -/
theorem drawdown_latch_kept (plane : ControlPlane) {state : World} {labels : CallSequence}
    {pool : Pool Port PyError Unit World Unit} {activatedAt : Instant} {fresh : ControlSnapshot}
    (hydrated : RuntimeControls.loadDurableControls plane.api.settings state.runtime activatedAt fresh =
      .ok state.controls)
    (run : Pool.RunWhen LatchSeen world (fun _ => plane.call) (Pool.idle state) labels pool)
    (latching : latched (activeFlags state.runtime).autoDisabled labels = true) :
    StoredLatch pool.shared := by
  have kept : LatchKept (activeFlags state.runtime).autoDisabled labels pool.shared := by
    apply plane.invariant run (LatchKept (activeFlags state.runtime).autoDisabled)
    case initial =>
      constructor
      · intro initially
        cases row : state.runtime with
        | none => simp [latched, row, activeFlags] at initially
        | some payload =>
          have autoDisabled : payload.autoDisabled = true := by
            simpa [latched, row, activeFlags, RuntimePayload.flags] using initially
          rw [row] at hydrated
          exact ⟨payload, row, autoDisabled,
            RuntimeControls.loadDurableControls_valid hydrated autoDisabled⟩
      · simp
    case started =>
      intro labels state _ call before _
      apply before.between (afterCommits_start ..) (watching_start ..)
      rintro _ ⟨⟩
      rfl
    case moved =>
      intro labels state _ call view event after next before running guarded move watched
      exact before.moved running guarded move watched
    case finished =>
      intro labels state _ result before
      exact before.between (afterCommits_finish ..) (watching_finish ..) (by simp)
    case crashed =>
      intro labels state _ before
      exact before.between (afterCommits_crash ..) (watching_crash ..) (by simp)
  exact kept.stored latching

namespace Demo

def latchedRow : RuntimePayload :=
  { mode := .signal, killSwitch := false, killSwitchReason := none, autoDisabled := true, updatedAt := now }

def restarted : Deployment :=
  { deployment with
    world :=
      { runtime := some latchedRow
        controls :=
          { mode := .signal, killSwitch := false, killSwitchReason := none, autoDisabled := true
            updatedAt := now } } }

/-- The operator tries `AUTO`, and then changes the mode and the switch. -/
def attempts : List (Turn Unit ControlCall) :=
  [.start () (.changeMode .auto)] ++ List.replicate 8 (.step ()) ++
    [.start () (.changeMode .semiAuto)] ++ List.replicate 8 (.step ()) ++
    [.start () (.killSwitch true "stop")] ++ List.replicate 8 (.step ())

/-- The worker latches after the API process was started; then the operator selects `AUTO`. -/
def resuming : List (Turn Unit ControlCall) :=
  [.start () .latchDrawdownDisable] ++ List.replicate 8 (.step ()) ++
    [.start () (.changeMode .auto)] ++ List.replicate 8 (.step ())

end Demo

open Demo

theorem drawdown_latch_kept_demo :
    latched true (controlRun restarted attempts).1 = true ∧
      StoredLatch (controlRun restarted attempts).2.shared.world := by
  have latching : latched true (controlRun restarted attempts).1 = true := by
    decide +kernel
  have meets : Pool.ScheduleMeets LatchSeen Deployment.world quiet.responder
      (fun _ => plane.call) [] (Pool.idle restarted) attempts := by decide +kernel
  have run := Pool.RunWhen.schedule quiet.respond_within .nil meets
  have hydrated : RuntimeControls.loadDurableControls plane.api.settings
      restarted.world.runtime now (RuntimeControls.initial settings now) =
      .ok restarted.world.controls := rfl
  exact ⟨latching, drawdown_latch_kept plane hydrated run latching⟩

/-- `AUTO` is active again, without a circuit reset. -/
theorem drawdown_latch_cleared :
    ∃ labels pool payload,
      RuntimeControls.loadDurableControls plane.api.settings deployment.world.runtime now
        (RuntimeControls.initial settings now) = .ok deployment.world.controls ∧
      Pool.Run world (fun _ : Unit => plane.call) (Pool.idle deployment.world) labels pool ∧
      latched (activeFlags deployment.world.runtime).autoDisabled labels = true ∧
      pool.shared.runtime = some payload ∧ payload.autoDisabled = false ∧ payload.mode = .auto := by
  have latching : latched (activeFlags deployment.world.runtime).autoDisabled
      (controlRun deployment resuming).1 = true := by decide +kernel
  have written : ((controlRun deployment resuming).2.shared.world.runtime).map
      (fun payload => (payload.autoDisabled, payload.mode)) = some (false, .auto) := by decide +kernel
  obtain ⟨payload, row, flags⟩ := Option.map_eq_some_iff.mp written
  obtain ⟨autoDisabled, mode⟩ := Prod.mk.injEq .. ▸ flags
  have run := quiet.run (fun _ : Unit => plane.call) deployment resuming
  exact ⟨_, _, payload, rfl, run, latching, row, autoDisabled, mode⟩

end GoldFlow
