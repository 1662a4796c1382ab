import GoldFlow.Verified.ControlRuns

/-! # A committed kill switch -/

namespace GoldFlow

open Effect

def ControlCall.arms : ControlCall → Option Bool
  | .killSwitch enabled _ => some enabled
  | .changeMode _ | .resetCircuitBreaker | .latchDrawdownDisable | .executeSignals => none

def ControlCall.restores : ControlCall → Bool
  | .killSwitch enabled _ => enabled
  | .changeMode _ | .resetCircuitBreaker | .latchDrawdownDisable => true
  | .executeSignals => false

def Carries (watched : ControlCall × ControlView) : Bool :=
  !watched.1.restores || watched.2.held.all (·.killSwitch)

variable {ι : Type} [DecidableEq ι]

def armed (labels : List (ControlLabel ι)) : Bool :=
  afterCommits (fun call _ current => call.arms.getD current) false labels

/-- When an activation commits, no other writer holds an inactive switch, and the API's copy is copied with the
switch of the row. -/
def SwitchUndisturbed (labels : List (ControlLabel ι)) (state : World) : ControlLabel ι → Prop
  | .event thread event =>
    ∀ watched ∈ watching labels thread,
      ((committed event).isSome = true → watched.1.arms = some true →
        ∀ other, other ≠ thread → (watching labels other).all Carries = true) ∧
      (copiesControls event = true → watched.1.restores = true →
        (activeFlags state.runtime).killSwitch = true ∨ watched.1.arms = some true →
        state.controls.killSwitch = true)
  | _ => True

instance [Fintype ι] (labels : List (ControlLabel ι)) (state : World) :
    (label : ControlLabel ι) → Decidable (SwitchUndisturbed labels state label)
  | .event _ _ => inferInstanceAs (Decidable (∀ _ ∈ _, _))
  | .start _ _ | .finish _ _ | .crash _ => .isTrue trivial

/-- An activation holds an active switch, and while the switch is armed the row has it and every writer carries
it. -/
structure SwitchKept (labels : List (ControlLabel ι)) (state : World) : Prop where
  activation : ∀ thread watched, watching labels thread = some watched →
    watched.1.arms = some true → Carries watched = true
  stored : armed labels = true → ∃ durable : DurableRuntimeState,
    state.runtime = some durable.toPayload ∧ durable.killSwitch = true
  carried : armed labels = true → ∀ thread watched, watching labels thread = some watched →
    Carries watched = true

section Step

variable {labels : List (ControlLabel ι)} {state after : World} {thread : ι} {call : ControlCall}
  {view next : ControlView} {event : PortEvent}

theorem restores_of_arms (activation : call.arms = some true) : call.restores = true := by
  cases call with
  | killSwitch => simpa [ControlCall.arms, ControlCall.restores] using activation
  | _ => cases activation

theorem carries_of_drops {held : Option SafetyFlags} (carries : Carries (call, view) = true)
    (drops : held = view.held ∨ held = none) : Carries (call, { view with held }) = true := by
  rcases drops with rfl | rfl
  · exact carries
  · simp [Carries]

namespace SwitchKept

variable (before : SwitchKept labels state)
include before

theorem between {label : ControlLabel ι} {watched : Option _} (same : armed (labels ++ [label]) = armed labels)
    (view : watching (labels ++ [label]) = Function.update (watching labels) thread watched)
    (fresh : ∀ started, watched = some started → Carries started = true) : SwitchKept (labels ++ [label]) state := by
  have others : ∀ other found, watching (labels ++ [label]) other = some found →
      watching labels other = some found ∨ Carries found = true := by
    intro other found running
    rw [view, update_eq_some] at running
    exact running.symm.imp And.right fun own => fresh found own.2
  constructor
  · intro other found running activation
    rcases others other found running with known | carries
    · exact before.activation other found known activation
    · exact carries
  · rw [same]
    exact before.stored
  · rw [same]
    intro active other found running
    rcases others other found running with known | carries
    · exact before.carried active other found known
    · exact carries

theorem of_move
    (watched : watching (labels ++ [.event thread event]) =
      Function.update (watching labels) thread (some (call, next)))
    (activation : call.arms = some true → Carries (call, next) = true)
    (stored : armed (labels ++ [.event thread event]) = true →
      ∃ durable : DurableRuntimeState, after.runtime = some durable.toPayload ∧ durable.killSwitch = true)
    (own : armed (labels ++ [.event thread event]) = true → Carries (call, next) = true)
    (others : armed (labels ++ [.event thread event]) = true → ∀ other found, other ≠ thread →
      watching labels other = some found → Carries found = true) :
    SwitchKept (labels ++ [.event thread event]) after := by
  constructor
  · intro other found running activates
    rw [watched, update_eq_some] at running
    obtain ⟨_, ⟨⟩⟩ | ⟨_, running⟩ := running
    · exact activation activates
    · exact before.activation other found running activates
  · exact stored
  · intro active other found running
    rw [watched, update_eq_some] at running
    obtain ⟨_, ⟨⟩⟩ | ⟨different, running⟩ := running
    · exact own active
    · exact others active other found different running

theorem of_uncommitted
    (watched : watching (labels ++ [.event thread event]) =
      Function.update (watching labels) thread (some (call, next)))
    (uncommitted : committed event = none) (runtime : after.runtime = state.runtime)
    (activation : call.arms = some true → Carries (call, next) = true)
    (own : armed labels = true → Carries (call, next) = true) :
    SwitchKept (labels ++ [.event thread event]) after := by
  have same : armed (labels ++ [.event thread event]) = armed labels :=
    afterCommits_aside _ _ uncommitted
  apply before.of_move watched activation
  · rw [same, runtime]
    exact before.stored
  · rw [same]
    exact own
  · rw [same]
    intro active other found _ running
    exact before.carried active other found running

theorem active (arming : armed labels = true) : (activeFlags state.runtime).killSwitch = true := by
  obtain ⟨durable, stored, killSwitch⟩ := before.stored arming
  rw [stored]
  exact killSwitch

/-- **One move keeps the switch.** -/
theorem moved (running : watching labels thread = some (call, view))
    (guarded : SwitchUndisturbed labels state (.event thread event))
    (move : ControlMove call view state event after next)
    (watched : watching (labels ++ [.event thread event]) =
      Function.update (watching labels) thread (some (call, next))) :
    SwitchKept (labels ++ [.event thread event]) after := by
  obtain ⟨exclusive, upToDate⟩ := guarded (call, view) running
  -- what the call carried before the move
  have activates : call.arms = some true → Carries (call, view) = true :=
    before.activation thread (call, view) running
  have carries : armed labels = true → Carries (call, view) = true :=
    fun arming => before.carried arming thread (call, view) running
  cases move with
  | read worker =>
    apply before.of_uncommitted watched rfl rfl
    · intro activation
      cases call with
      | killSwitch => cases worker
      | _ => cases activation
    · intro arming
      simp [Carries, before.active arming]
  | copy =>
    apply before.of_uncommitted watched rfl rfl
    · intro activation
      have known := upToDate rfl (restores_of_arms activation) (.inr activation)
      simp [Carries, ControlSnapshot.flags, known]
    · intro arming
      by_cases restores : call.restores = true
      · have known := upToDate rfl restores (.inl (before.active arming))
        simp [Carries, ControlSnapshot.flags, known]
      · simp [Carries, restores]
  | @commit payload held writer holds rewrites =>
    have changed : armed (labels ++ [.event thread ⟨.config (.activateConfig payload), .ok ()⟩]) =
        call.arms.getD (armed labels) := afterCommits_commit _ _ running rfl
    -- what is written is what the call carried
    have written : Carries (call, view) = true → call.restores = true → payload.killSwitch = true := by
      intro carried restores
      rw [rewrites.killSwitch]
      simpa [Carries, restores, holds] using carried
    have restores : call.arms.getD (armed labels) = true → call.restores = true := by
      intro arming
      cases call with
      | killSwitch => exact arming
      | changeMode _ | resetCircuitBreaker | latchDrawdownDisable => rfl
      | executeSignals => exact absurd rfl writer
    have carried : call.arms.getD (armed labels) = true → Carries (call, view) = true := by
      intro arming
      cases asked : call.arms with
      | none =>
        rw [asked, Option.getD_none] at arming
        exact carries arming
      | some =>
        rw [asked, Option.getD_some] at arming
        exact activates (asked.trans (congrArg some arming))
    apply before.of_move watched
    · simp [Carries]
    · rw [changed]
      intro arming
      obtain ⟨durable, rfl⟩ := rewrites.valid
      exact ⟨durable, rfl, written (carried arming) (restores arming)⟩
    · simp [Carries]
    · rw [changed]
      intro arming other found different known
      cases asked : call.arms with
      | none =>
        rw [asked, Option.getD_none] at arming
        exact before.carried arming other found known
      | some =>
        rw [asked, Option.getD_some] at arming
        have alone := exclusive rfl (asked.trans (congrArg some arming)) other different
        rw [known] at alone
        exact alone
  | switch => exact before.of_uncommitted watched rfl rfl activates carries
  | plan => exact before.of_uncommitted watched rfl rfl activates carries
  | turn => exact before.of_uncommitted watched rfl rfl activates carries
  | aside uncommitted between runtime killSwitch drops =>
    apply before.of_uncommitted watched uncommitted runtime
    · exact fun activation => carries_of_drops (activates activation) drops
    · exact fun arming => carries_of_drops (carries arming) drops

end SwitchKept

end Step

/-- **A committed activation is kept** in every undisturbed interleaving, until a deactivation commits. -/
theorem kill_switch_kept (plane : ControlPlane) {state : World} {labels : List (ControlLabel ι)}
    {pool : Pool Port PyError Unit World ι}
    (run : Pool.RunWhen SwitchUndisturbed world (fun _ => plane.call) (Pool.idle state) labels pool)
    (activated : armed labels = true) (defaultMode : TradingMode) (now : Instant) :
    ∃ runtime, DurableRuntimeState.fromPayload pool.shared.runtime defaultMode now = .ok runtime ∧
      runtime.killSwitch = true := by
  have kept : SwitchKept labels pool.shared := by
    apply plane.invariant run SwitchKept
    case initial =>
      constructor
      · simp
      · intro never
        cases never
      · simp
    case started =>
      intro labels state thread call before _
      apply before.between (afterCommits_start ..) (watching_start ..)
      rintro _ ⟨⟩
      simp [Carries]
    case moved =>
      intro labels state thread call view event after next before running guarded move watched
      exact before.moved running guarded move watched
    case finished =>
      intro labels state thread result before
      exact before.between (afterCommits_finish ..) (watching_finish ..) (by simp)
    case crashed =>
      intro labels state thread before
      exact before.between (afterCommits_crash ..) (watching_crash ..) (by simp)
  obtain ⟨durable, stored, killSwitch⟩ := kept.stored activated
  obtain ⟨runtime, loaded, same⟩ := durable.fromPayload_toPayload defaultMode now
  rw [stored]
  exact ⟨runtime, loaded, same.trans killSwitch⟩

namespace Demo

def activation : List (Turn Bool ControlCall) :=
  [.start true (.killSwitch true "stop")] ++ List.replicate 8 (.step true) ++
    [.start false .latchDrawdownDisable] ++ List.replicate 8 (.step false) ++
    [.start true (.changeMode .signal)] ++ List.replicate 8 (.step true)

def overwriting : List (Turn Bool ControlCall) :=
  [.start false .latchDrawdownDisable, .step false, .start true (.killSwitch true "stop")] ++
    List.replicate 8 (.step true) ++ List.replicate 8 (.step false)

end Demo

open Demo

theorem kill_switch_kept_demo :
    armed (controlRun deployment activation).1 = true ∧
      ∃ runtime, DurableRuntimeState.fromPayload
        (controlRun deployment activation).2.shared.world.runtime .signal now =
          .ok runtime ∧ runtime.killSwitch = true := by
  have activated : armed (controlRun deployment activation).1 = true := by decide +kernel
  have meets : Pool.ScheduleMeets SwitchUndisturbed Deployment.world quiet.responder
      (fun _ => plane.call) [] (Pool.idle deployment) activation := by decide +kernel
  have run := Pool.RunWhen.schedule quiet.respond_within .nil meets
  exact ⟨activated, kill_switch_kept plane run activated .signal now⟩

/-- The latch commits after the activation with the inactive switch it had read. -/
theorem kill_switch_lost :
    ∃ labels pool runtime,
      Pool.Run world (fun _ : Bool => plane.call) (Pool.idle deployment.world) labels pool ∧
      armed labels = true ∧
      DurableRuntimeState.fromPayload pool.shared.runtime .signal now = .ok runtime ∧
      runtime.killSwitch = false := by
  have activated : armed (controlRun deployment overwriting).1 = true := by decide +kernel
  have reads : (DurableRuntimeState.fromPayload
      (controlRun deployment overwriting).2.shared.world.runtime .signal now).toOption.any
      (·.killSwitch = false) = true := by decide +kernel
  have run := quiet.run (fun _ : Bool => plane.call) deployment overwriting
  obtain ⟨runtime, loaded, inactive⟩ := Data.ok_of_any reads
  exact ⟨_, _, runtime, run, activated, loaded, of_decide_eq_true inactive⟩

end GoldFlow
