import GoldFlow.Deployment
import GoldFlow.Verified.ControlHistory

/-! # Runs of the control plane -/

namespace GoldFlow

open Effect

def committed : PortEvent → Option RuntimePayload
  | ⟨.config (.activateConfig payload), .ok ()⟩ => some payload
  | _ => none

def copiesControls : PortEvent → Bool
  | ⟨.controls .durableState, _⟩ => true
  | _ => false

def beginsTurn : PortEvent → Bool
  | ⟨.journal (.demoPerformance _), _⟩ => true
  | _ => false

section Frame

variable {state after : World}

def World.SameRuntime (state after : World) : Prop :=
  after.runtime = state.runtime ∧ after.controls = state.controls

theorem World.recordStep_sameRuntime {op : RecordOp} {reply : Except PyError op.Value}
    (step : state.recordStep op reply after) : state.SameRuntime after := by
  cases recordMove_of_step step <;> exact ⟨rfl, rfl⟩

theorem World.attemptStep_sameRuntime {op : AttemptOp} {reply : Except PyError op.Value}
    (step : state.attemptStep op reply after) : state.SameRuntime after := by
  cases attemptMove_of_step step <;> exact ⟨rfl, rfl⟩

end Frame

inductive ControlMove (call : ControlCall) (view : ControlView) (state : World) :
    PortEvent → World → ControlView → Prop
  | read (worker : call.isApi = false) :
      ControlMove call view state ⟨.config .activeConfig, .ok state.runtime⟩ state
        { view with held := some (activeFlags state.runtime) }
  | copy (api : call.isApi = true)
      (switched : ∀ enabled reason, call = .killSwitch enabled reason → view.switched = true) :
      ControlMove call view state ⟨.controls .durableState, .ok state.controls⟩ state
        { view with held := some state.controls.flags }
  | commit {payload : RuntimePayload} {held : SafetyFlags} (writer : call ≠ .executeSignals)
      (holds : view.held = some held) (rewrites : Rewrites call held payload) :
      ControlMove call view state ⟨.config (.activateConfig payload), .ok ()⟩
        { state with runtime := some payload } { view with held := none }
  | switch {enabled : Bool} {reason : String} {now : Instant} {answer : ControlSnapshot}
      (asked : call = .killSwitch enabled reason) :
      ControlMove call view state ⟨.controls (.setKillSwitch enabled reason now), .ok answer⟩
        { state with controls := RuntimeControls.setKillSwitch state.controls enabled reason now }
        { view with switched := true }
  | plan {mode : TradingMode} {now : Instant} {signals : List TradeSignal}
      (batch : call = .executeSignals) (first : view.left = none) (running : view.Running) :
      ControlMove call view state ⟨.journal (.executionCandidates mode now), .ok signals⟩ state
        { view with left := some signals.length }
  | turn {version : String} {reply : Except PyError (Option DemoPerformance)} {left : Nat}
      (batch : call = .executeSignals) (running : view.Running) (begins : view.left = some (left + 1)) :
      ControlMove call view state ⟨.journal (.demoPerformance version), reply⟩ state
        { view with left := some left }
  | aside {event : PortEvent} {after : World} {held : Option SafetyFlags}
      (uncommitted : committed event = none) (between : beginsTurn event = false)
      (runtime : after.runtime = state.runtime)
      (killSwitch : after.controls.killSwitch = state.controls.killSwitch)
      (drops : held = view.held ∨ held = none) :
      ControlMove call view state event after { view with held }

theorem controlMove_of_step {call : ControlCall} {view : ControlView} {event : PortEvent}
    {state after : World} (permitted : Permits call view event.1) (step : world.step state event after) :
    ControlMove call view state event after (view.observe event) := by
  have elsewhere : ∀ {event : PortEvent}, committed event = none → beginsTurn event = false →
      view.observe event = view → after.runtime = state.runtime →
      after.controls.killSwitch = state.controls.killSwitch →
      ControlMove call view state event after (view.observe event) := by
    intro event uncommitted between same runtime killSwitch
    rw [same]
    exact .aside uncommitted between runtime killSwitch (.inl rfl)
  obtain ⟨op, reply⟩ := event
  cases op with
  | config op =>
    cases op with
    | activeConfig =>
      cases step with
      | committed done => cases done; exact .read permitted
      | refused refused => cases refused
      | failed => exact elsewhere rfl rfl rfl rfl rfl
    | activateConfig =>
      cases step with
      | committed done =>
        cases done
        obtain ⟨writer, held, holds, rewrites⟩ := permitted
        exact .commit writer holds rewrites
      | refused refused => cases refused
      | failed => exact .aside rfl rfl rfl rfl (.inr rfl)
  | controls op =>
    obtain ⟨rfl, rfl⟩ := step
    cases op with
    | snapshot => exact elsewhere rfl rfl rfl rfl rfl
    | durableState => exact .copy permitted.1 permitted.2
    | setMode => exact elsewhere rfl rfl rfl rfl rfl
    | setKillSwitch => exact .switch permitted
    | resetDrawdownProtection => exact elsewhere rfl rfl rfl rfl rfl
  | journal op =>
    obtain ⟨_, rfl⟩ := step
    cases op with
    | executionCandidates =>
      cases reply with
      | ok => exact .plan permitted.1 permitted.2.1 permitted.2.2
      | error => exact elsewhere rfl rfl rfl rfl rfl
    | demoPerformance version =>
      obtain ⟨batch, running, left, begins⟩ := permitted
      have next : view.observe ⟨.journal (.demoPerformance version), reply⟩ =
          { view with left := some left } := by
        simp [ControlView.observe, begins]
      rw [next]
      exact .turn batch running begins
    | _ => exact elsewhere rfl rfl rfl rfl rfl
  | records =>
    obtain ⟨runtime, controls⟩ := World.recordStep_sameRuntime step
    exact elsewhere rfl rfl rfl runtime (by rw [controls])
  | attempts =>
    obtain ⟨runtime, controls⟩ := World.attemptStep_sameRuntime step
    exact elsewhere rfl rfl rfl runtime (by rw [controls])
  | _ =>
    obtain ⟨_, rfl⟩ := step
    exact elsewhere rfl rfl rfl rfl rfl

/-! ## The pool -/

variable {ι : Type} [DecidableEq ι]

abbrev ControlLabel (ι : Type) := Label Port PyError Unit ι ControlCall

def watching (labels : List (ControlLabel ι)) : ι → Option (ControlCall × ControlView) :=
  (controlView.tagged ControlCall).track (fun _ call => (call, {})) (fun _ => none) labels

def ghostOf {γ : Type} (change : (ι → Option (ControlCall × ControlView)) → γ → ControlLabel ι → γ)
    (value : γ) (labels : List (ControlLabel ι)) : γ :=
  (controlView.tagged ControlCall).ghost (fun _ call => (call, {})) (fun _ => none) change value labels

section Watching

variable (labels : List (ControlLabel ι)) (thread : ι) {γ : Type}

@[simp] theorem watching_nil (thread : ι) : watching ([] : List (ControlLabel ι)) thread = none := rfl

@[simp] theorem watching_start (call : ControlCall) :
    watching (labels ++ [.start thread call]) = Function.update (watching labels) thread (some (call, {})) := by
  simp [watching, Monitor.advance]

@[simp] theorem watching_finish (result : Except PyError Unit) :
    watching (labels ++ [.finish thread result]) = Function.update (watching labels) thread none := by
  simp [watching, Monitor.advance]

@[simp] theorem watching_crash :
    watching (labels ++ [.crash thread]) = Function.update (watching labels) thread none := by
  simp [watching, Monitor.advance]

@[simp] theorem ghostOf_nil (change : _ → γ → ControlLabel ι → γ) (value : γ) :
    ghostOf change value [] = value := rfl

@[simp] theorem ghostOf_snoc (change : _ → γ → ControlLabel ι → γ) (value : γ) (label : ControlLabel ι) :
    ghostOf change value (labels ++ [label]) = change (watching labels) (ghostOf change value labels) label :=
  Monitor.ghost_snoc ..

end Watching

/-! ### Ghosts that follow the commits -/

section Commits

variable {γ : Type} (change : ControlCall → RuntimePayload → γ → γ) (value : γ)

def afterCommits (labels : List (ControlLabel ι)) : γ :=
  ghostOf (fun watched current label =>
    match label with
    | .event thread event =>
      match watched thread, committed event with
      | some (call, _), some payload => change call payload current
      | _, _ => current
    | _ => current) value labels

variable (labels : List (ControlLabel ι)) (thread : ι)

@[simp] theorem afterCommits_nil : afterCommits change value ([] : List (ControlLabel ι)) = value := rfl

@[simp] theorem afterCommits_start (call : ControlCall) :
    afterCommits change value (labels ++ [.start thread call]) = afterCommits change value labels := by
  simp [afterCommits]

@[simp] theorem afterCommits_finish (result : Except PyError Unit) :
    afterCommits change value (labels ++ [.finish thread result]) = afterCommits change value labels := by
  simp [afterCommits]

@[simp] theorem afterCommits_crash :
    afterCommits change value (labels ++ [.crash thread]) = afterCommits change value labels := by
  simp [afterCommits]

variable {labels thread} {call : ControlCall} {view : ControlView} {event : PortEvent}

theorem afterCommits_commit {payload : RuntimePayload} (running : watching labels thread = some (call, view))
    (commits : committed event = some payload) :
    afterCommits change value (labels ++ [.event thread event]) =
      change call payload (afterCommits change value labels) := by
  simp [afterCommits, running, commits]

theorem afterCommits_aside (uncommitted : committed event = none) :
    afterCommits change value (labels ++ [.event thread event]) = afterCommits change value labels := by
  simp only [afterCommits, ghostOf_snoc]
  split <;> simp_all

end Commits

theorem ControlPlane.verified (plane : ControlPlane) (call : ControlCall) :
    (plane.call call).wp (controlView.tagged ControlCall).environment
      (fun watched op => Permits watched.1 watched.2 op) (fun _ _ => True) (call, {}) := by
  apply Program.wp_of_history (keeps_controlCall plane call).verified
  · intro history op permitted
    rw [Monitor.foldl_tagged]
    exact permitted
  · exact fun _ _ _ => trivial

/-- **Invariants of the control plane.** -/
theorem ControlPlane.invariant (plane : ControlPlane) {guard : List (ControlLabel ι) → World → ControlLabel ι → Prop}
    {state : World} {labels : List (ControlLabel ι)} {pool : Pool Port PyError Unit World ι}
    (run : Pool.RunWhen guard world (fun _ => plane.call) (Pool.idle state) labels pool)
    (holds : List (ControlLabel ι) → World → Prop) (initial : holds [] state)
    (started : ∀ labels state thread call, holds labels state → guard labels state (.start thread call) →
      holds (labels ++ [.start thread call]) state)
    (moved : ∀ labels state thread call view event after next, holds labels state →
      watching labels thread = some (call, view) → guard labels state (.event thread event) →
      ControlMove call view state event after next →
      watching (labels ++ [.event thread event]) = Function.update (watching labels) thread (some (call, next)) →
      holds (labels ++ [.event thread event]) after)
    (finished : ∀ labels state thread result, holds labels state → holds (labels ++ [.finish thread result]) state)
    (crashed : ∀ labels state thread, holds labels state → holds (labels ++ [.crash thread]) state) :
    holds labels pool.shared := by
  apply run.invariant (fun _ => none) holds (fun _ call => plane.verified call) (fun _ => trivial) initial
  case started =>
    intro labels state thread call before _ guarded
    exact started labels state thread call before guarded
  case event =>
    intro labels state thread watched event after before running guarded permitted step
    exact moved labels state thread watched.1 watched.2 event after _ before running guarded
      (controlMove_of_step permitted step) (Monitor.track_event running)
  case finish =>
    intro labels state thread _ result before _ _ _
    exact finished labels state thread result before
  case crash =>
    intro labels state thread before _
    exact crashed labels state thread before

namespace Demo

def plane : ControlPlane where
  api := { settings, circuit := .ofLimits limits }
  worker := { tradingMode := .auto, tradingEnv := .demo, sha256 }

def controlRun (start : Deployment) (turns : List (Turn ι ControlCall)) :
    List (ControlLabel ι) × Pool Port PyError Unit Deployment ι :=
  Pool.schedule quiet.responder (fun _ => plane.call) (Pool.idle start) turns

end Demo

end GoldFlow
