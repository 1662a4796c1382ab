import GoldFlow.Verified.Submission
import GoldFlow.Worker.Service

/-! # What a control call holds -/

namespace GoldFlow

open Effect GoldFlowWorker
open Program (Asks)

structure SafetyFlags where
  killSwitch : Bool
  autoDisabled : Bool
  deriving DecidableEq

def RuntimePayload.flags (payload : RuntimePayload) : SafetyFlags :=
  { killSwitch := payload.killSwitch, autoDisabled := payload.autoDisabled }

def DurableRuntimeState.flags (state : DurableRuntimeState) : SafetyFlags :=
  { killSwitch := state.killSwitch, autoDisabled := state.autoDisabled }

def ControlSnapshot.flags (controls : ControlSnapshot) : SafetyFlags :=
  { killSwitch := controls.killSwitch, autoDisabled := controls.autoDisabled }

def activeFlags : Option RuntimePayload → SafetyFlags
  | some payload => payload.flags
  | none => { killSwitch := false, autoDisabled := false }

theorem DurableRuntimeState.flags_of_fromPayload {payload : Option RuntimePayload} {defaultMode : TradingMode}
    {now : Instant} {state : DurableRuntimeState} (loaded : fromPayload payload defaultMode now = .ok state) :
    activeFlags payload = state.flags := by
  cases payload with
  | some =>
    obtain ⟨_, killSwitch, autoDisabled⟩ := fromPayload_flags loaded
    simp [activeFlags, RuntimePayload.flags, flags, killSwitch, autoDisabled]
  | none =>
    obtain ⟨_, killSwitch, _, autoDisabled, _⟩ := make_eq_ok loaded
    simp [activeFlags, flags, killSwitch, autoDisabled]

/-! ## The view of a call -/

structure ControlView where
  held : Option SafetyFlags := none
  switched : Bool := false
  left : Option Nat := none

def ControlView.observe (view : ControlView) : PortEvent → ControlView
  | ⟨.config .activeConfig, .ok payload⟩ => { view with held := some (activeFlags payload) }
  | ⟨.controls .durableState, .ok controls⟩ => { view with held := some controls.flags }
  -- the flags are written back once
  | ⟨.config (.activateConfig _), _⟩ => { view with held := none }
  | ⟨.controls (.setKillSwitch _ _ _), .ok _⟩ => { view with switched := true }
  | ⟨.journal (.executionCandidates _ _), .ok signals⟩ => { view with left := some signals.length }
  -- the turn of a candidate begins
  | ⟨.journal (.demoPerformance _), _⟩ => { view with left := view.left.map (· - 1) }
  | _ => view

def controlView : Monitor Port PyError ControlView where
  observe := ControlView.observe

def viewOf (history : List PortEvent) : ControlView := history.foldl controlView.observe {}

@[simp] theorem viewOf_nil : viewOf [] = {} := rfl

@[simp] theorem viewOf_append (history later : List PortEvent) :
    viewOf (history ++ later) = later.foldl ControlView.observe (viewOf history) := by
  simp [viewOf, controlView]

/-! ## What a call may do -/

def ControlCall.isApi : ControlCall → Bool
  | .changeMode _ | .killSwitch _ _ | .resetCircuitBreaker => true
  | .latchDrawdownDisable | .executeSignals => false

structure Rewrites (call : ControlCall) (held : SafetyFlags) (payload : RuntimePayload) : Prop where
  valid : ∃ state : DurableRuntimeState, payload = state.toPayload
  killSwitch : payload.killSwitch = held.killSwitch
  autoDisabled : call ≠ .latchDrawdownDisable → payload.autoDisabled = held.autoDisabled
  latched : call = .latchDrawdownDisable → payload.autoDisabled = true

def ControlView.Running (view : ControlView) : Prop :=
  ∃ held, view.held = some held ∧ held.killSwitch = false

def Permits (call : ControlCall) (view : ControlView) : Op → Prop
  | .config .activeConfig => call.isApi = false
  | .config (.activateConfig payload) =>
    call ≠ .executeSignals ∧ ∃ held, view.held = some held ∧ Rewrites call held payload
  | .controls .durableState =>
    call.isApi = true ∧ ∀ enabled reason, call = .killSwitch enabled reason → view.switched = true
  | .controls (.setKillSwitch enabled reason _) => call = .killSwitch enabled reason
  | .controls (.resetDrawdownProtection _) => call = .resetCircuitBreaker
  | .journal (.executionCandidates _ _) =>
    call = .executeSignals ∧ view.left = none ∧ view.Running
  | .journal (.demoPerformance _) =>
    call = .executeSignals ∧ view.Running ∧ ∃ left, view.left = some (left + 1)
  | _ => True

def Controlled (call : ControlCall) (history : List PortEvent) (op : Op) : Prop :=
  Permits call (viewOf history) op

def AnyError (_ : List PortEvent) (_ : PyError) : Prop := True

def Op.isQuiet : Op → Bool
  | .config _ => false
  | .controls .durableState | .controls (.setKillSwitch _ _ _) => false
  | .controls (.resetDrawdownProtection _) => false
  | .journal (.executionCandidates _ _) | .journal (.demoPerformance _) => false
  | _ => true

theorem ControlView.observe_quiet (view : ControlView) (event : PortEvent)
    (quiet : event.1.isQuiet = true) : view.observe event = view := by
  obtain ⟨op, reply⟩ := event
  cases op with
  | config => cases quiet
  | controls op => cases op <;> first | rfl | cases quiet
  | journal op => cases op <;> first | rfl | cases quiet
  | _ => rfl

theorem permits_of_quiet {call : ControlCall} {view : ControlView} {op : Op}
    (quiet : op.isQuiet = true) : Permits call view op := by
  cases op with
  | config => cases quiet
  | controls op => cases op <;> first | exact trivial | cases quiet
  | journal op => cases op <;> first | exact trivial | cases quiet
  | _ => exact trivial

abbrev QuietProgram {α : Type} (program : Py α) : Prop :=
  Asks (S := Port) (fun op : Op => op.isQuiet = true) program

section Rules

variable {call : ControlCall} {history : List PortEvent} {α β : Type}

theorem controlled_ask (op : Op) {returns : List PortEvent → op.Value → Prop} (permitted : Controlled call history op)
    (answered : ∀ value, returns (history ++ [⟨op, .ok value⟩]) value) :
    Keeps (Controlled call) AnyError returns (Program.perform (S := Port) op) history :=
  Keeps.perform (S := Port) op permitted (fun _ => trivial) answered

variable {concluded : List PortEvent → β → Prop} {next : α → Py β} {program : Py α}

theorem controlled_ask_bind {op : Op} {next : op.Value → Py β} (permitted : Controlled call history op)
    (rest : ∀ value, Keeps (Controlled call) AnyError concluded (next value) (history ++ [⟨op, .ok value⟩])) :
    Keeps (Controlled call) AnyError concluded ((Program.perform (S := Port) op).bind next) history :=
  Keeps.perform_bind permitted (fun _ => trivial) rest

theorem controlled_ofExcept_bind {result : Except PyError α}
    (rest : ∀ value, result = .ok value → Keeps (Controlled call) AnyError concluded (next value) history) :
    Keeps (Controlled call) AnyError concluded ((Program.ofExcept result).bind next) history :=
  Keeps.ofExcept_bind (fun _ _ => trivial) rest

theorem controlled_quiet (quiet : QuietProgram program) :
    Keeps (Controlled call) AnyError (fun later _ => viewOf later = viewOf history) program history :=
  Keeps.of_asks quiet controlView {} (fun event => ControlView.observe_quiet _ event)
    (fun _ _ _ => permits_of_quiet) fun _ _ _ => trivial

theorem controlled_quiet_bind (quiet : QuietProgram program)
    (rest : ∀ later value, viewOf later = viewOf history →
      Keeps (Controlled call) AnyError concluded (next value) later) :
    Keeps (Controlled call) AnyError concluded (program.bind next) history :=
  Keeps.bind (controlled_quiet quiet) rest

end Rules

section Quiet

variable (breaker : CircuitBreaker) (container : ApiContainer) (settings : WorkerSettings) {op : Op}

theorem quiet_ask (quiet : op.isQuiet = true) : QuietProgram (Program.perform (S := Port) op) :=
  Asks.perform quiet

theorem quiet_try {β : Type} (quiet : op.isQuiet = true) (catches : PyError → Bool) (recover : PyError → β) :
    QuietProgram ((Program.perform (S := Port) op).catching catches recover) :=
  (quiet_ask quiet).catching

theorem quiet_manualReset (accountId : String) (now : Instant) (authorized clearKillSwitch : Bool) :
    QuietProgram (breaker.manualReset accountId now authorized clearKillSwitch) := by
  apply Asks.bind (Asks.raiseIf _ _)
  intro _
  apply Asks.bind (breaker.asks_get (fun _ => rfl) accountId now)
  intro state
  exact quiet_ask rfl

theorem quiet_requestMode (controls : ControlSettings) (mode : TradingMode) :
    QuietProgram (RuntimeControls.requestMode controls mode) := by
  apply Asks.bind (quiet_ask rfl)
  intro snapshot
  apply Asks.bind (Asks.ofExcept _)
  intro _
  apply Asks.bind (quiet_ask rfl)
  intro now
  exact quiet_ask rfl

theorem quiet_cancelPendingOrders (cancelled failures : List String) (orders : List BrokerOrder) :
    QuietProgram (ApiContainer.cancelPendingOrders cancelled failures orders) := by
  induction orders generalizing cancelled failures with
  | nil => exact trivial
  | cons order orders ih =>
    apply Asks.bind (quiet_try rfl _ _)
    intro answer
    match answer with
    | .ok true => exact ih _ _
    | .ok false => exact ih _ _
    | .error _ => exact trivial

theorem quiet_cancelEntries (enabled : Bool) : QuietProgram (container.cancelEntries enabled) := by
  apply Asks.ite
  · exact trivial
  apply Asks.ite
  · apply Asks.bind (quiet_try rfl _ _)
    intro answer
    match answer with
    | .ok orders => exact quiet_cancelPendingOrders _ _ orders
    | .error _ => exact trivial
  · exact trivial

theorem quiet_rejectModeChange {α : Type} (message : String) :
    QuietProgram (ApiContainer.rejectModeChange message : Py α) := by
  apply Asks.bind (quiet_ask rfl)
  intro _
  exact trivial

theorem quiet_bestEffort {op : JournalOp} (quiet : (Op.journal op).isQuiet = true) :
    QuietProgram (bestEffort settings op) := by
  apply Asks.ite
  · apply Asks.bind (quiet_try quiet _ _)
    intro _
    exact trivial
  · exact trivial

theorem quiet_cancelPendingEntries : QuietProgram TradeExecutor.cancelPendingEntries := by
  apply Asks.bind (quiet_ask rfl)
  intro orders
  apply Asks.foldlM
  intro cancelled order
  exact Asks.bind (quiet_ask rfl) fun _ => trivial

theorem quiet_execute (executor : TradeExecutor) (command : ExecutionCommand) :
    QuietProgram (executor.execute command) := by
  apply Program.asks_of_wp (keeps_execute executor command).verified
  intro history op permitted
  cases op with
  | config op | controls op | journal op => exact permitted.elim
  | _ => rfl

end Quiet

section Calls

variable (container : ApiContainer) (settings : WorkerSettings) {call : ControlCall}
  {history : List PortEvent}

theorem keeps_persistRuntimeControls (api : call.isApi = true)
    (switched : ∀ enabled reason, call = .killSwitch enabled reason → (viewOf history).switched = true) :
    Keeps (Controlled call) AnyError (fun _ _ => True) ApiContainer.persistRuntimeControls history := by
  refine controlled_ask_bind ⟨api, switched⟩ fun controls => ?_
  apply controlled_ofExcept_bind
  intro state made
  obtain ⟨_, killSwitch, _, autoDisabled, _⟩ := DurableRuntimeState.make_eq_ok made
  have rewrites : Rewrites call controls.flags state.toPayload :=
    { valid := ⟨state, rfl⟩
      killSwitch
      autoDisabled := fun _ => autoDisabled
      latched := by rintro rfl; cases api }
  have writes : call ≠ .executeSignals := by rintro rfl; cases api
  apply controlled_ask (.config (.activateConfig state.toPayload))
  · exact ⟨writes, controls.flags, by simp [ControlView.observe], rewrites⟩
  · exact fun _ => trivial

theorem keeps_changeMode (mode : TradingMode) :
    Keeps (Controlled (.changeMode mode)) AnyError (fun _ _ => True) (container.changeMode mode) history := by
  have rejected : ∀ (message : String) (later : List PortEvent),
      Keeps (Controlled (.changeMode mode)) AnyError (fun _ _ => True)
        (ApiContainer.rejectModeChange message : Py ControlSnapshot) later :=
    fun message later => (controlled_quiet (quiet_rejectModeChange message)).mono fun _ _ _ => trivial
  have allowed : ∀ later : List PortEvent,
      Keeps (Controlled (.changeMode mode)) AnyError (fun _ _ => True)
        (ApiContainer.changeMode.changeAllowed container mode) later := by
    intro later
    apply controlled_quiet_bind (quiet_requestMode container.settings mode).catching
    intro last answer _
    cases answer with
    | error => exact rejected _ _
    | ok =>
      apply Keeps.bind (keeps_persistRuntimeControls rfl (by simp))
      intro _ _ _
      exact Keeps.pure trivial
  refine controlled_ask_bind trivial fun before => ?_
  apply Keeps.ite
  · intro _
    refine controlled_ask_bind trivial fun passed => ?_
    exact Keeps.ite (fun _ => rejected _ _) fun _ => allowed _
  · exact fun _ => allowed _

theorem keeps_requestKillSwitch (enabled : Bool) (reason : String) :
    Keeps (Controlled (.killSwitch enabled reason)) AnyError
      (fun later _ => (viewOf later).switched = true)
      (RuntimeControls.requestKillSwitch enabled reason) history := by
  apply Keeps.raiseIf_bind
  · exact fun _ => trivial
  intro _
  refine controlled_ask_bind trivial fun now => ?_
  apply controlled_ask (.controls (.setKillSwitch enabled reason now))
  · exact rfl
  · simp [ControlView.observe]

theorem keeps_requestDrawdownReset :
    Keeps (Controlled .resetCircuitBreaker) AnyError (fun _ _ => True)
      RuntimeControls.requestDrawdownReset history := by
  refine controlled_ask_bind trivial fun now => ?_
  apply controlled_ask (.controls (.resetDrawdownProtection now))
  · exact rfl
  · exact fun _ => trivial

theorem keeps_killSwitch (enabled : Bool) (reason : String) :
    Keeps (Controlled (.killSwitch enabled reason)) AnyError (fun _ _ => True)
      (container.killSwitch enabled reason) history := by
  refine controlled_ask_bind trivial fun before => ?_
  apply Keeps.bind (keeps_requestKillSwitch enabled reason)
  intro later after switched
  apply controlled_quiet_bind (quiet_cancelEntries container enabled)
  intro last cancelled unchanged
  apply Keeps.bind (keeps_persistRuntimeControls rfl fun _ _ _ => by rw [unchanged, switched])
  intro _ _ _
  exact Keeps.pure trivial

theorem keeps_resetCircuitBreaker :
    Keeps (Controlled .resetCircuitBreaker) AnyError (fun _ _ => True) container.resetCircuitBreaker history := by
  unfold ApiContainer.resetCircuitBreaker
  apply Keeps.raiseIf_bind
  · exact fun _ => trivial
  intro _
  apply controlled_quiet_bind (quiet_try rfl _ _)
  intro _ answer _
  cases answer with
  | error => exact Keeps.raise trivial
  | ok =>
    refine controlled_ask_bind trivial fun controls => ?_
    apply controlled_quiet_bind (container.circuit.asks_get (fun _ => rfl) _ _)
    intro _ before _
    apply Keeps.bind keeps_requestDrawdownReset
    intro _ _ _
    apply controlled_quiet_bind (quiet_requestMode container.settings .signal)
    intro _ safeRuntime _
    apply controlled_quiet_bind (quiet_manualReset container.circuit _ _ _ _)
    intro _ after _
    apply Keeps.bind (keeps_persistRuntimeControls rfl (by simp))
    intro _ _ _
    exact Keeps.pure trivial

theorem keeps_runtimeState (worker : call.isApi = false) :
    Keeps (Controlled call) AnyError
      (fun later runtime => viewOf later = { viewOf history with held := some runtime.flags })
      (runtimeState settings) history := by
  refine controlled_ask_bind worker fun payload => ?_
  refine controlled_ask_bind trivial fun now => ?_
  apply Keeps.ofExcept
  · exact fun _ _ => trivial
  · intro runtime loaded
    simp [ControlView.observe, DurableRuntimeState.flags_of_fromPayload loaded]

theorem keeps_latchDrawdownDisable :
    Keeps (Controlled .latchDrawdownDisable) AnyError (fun _ _ => True)
      (GoldFlowWorker.latchDrawdownDisable settings) history := by
  apply Keeps.bind (keeps_runtimeState settings rfl)
  intro later runtime view
  apply Keeps.ite
  · exact fun _ => Keeps.pure trivial
  intro _
  refine controlled_ask_bind trivial fun now => ?_
  apply controlled_ofExcept_bind
  intro latched made
  obtain ⟨_, killSwitch, _, autoDisabled, _⟩ := DurableRuntimeState.make_eq_ok made
  have rewrites : Rewrites .latchDrawdownDisable runtime.flags latched.toPayload :=
    { valid := ⟨latched, rfl⟩
      killSwitch
      autoDisabled := fun other => absurd rfl other
      latched := fun _ => autoDisabled }
  refine controlled_ask_bind ⟨by simp, runtime.flags, by simp [ControlView.observe, view], rewrites⟩ fun _ => ?_
  exact (controlled_quiet (quiet_bestEffort settings rfl)).mono fun _ _ _ => trivial

theorem keeps_executeCandidate (batch : Batch) (signal : TradeSignal) {left : Nat}
    (running : (viewOf history).Running) (begins : (viewOf history).left = some (left + 1)) :
    Keeps (Controlled .executeSignals) AnyError
      (fun later _ => viewOf later = { viewOf history with left := some left })
      (executeCandidate settings batch signal) history := by
  refine controlled_ask_bind ⟨rfl, running, left, begins⟩ fun demo => ?_
  apply controlled_quiet_bind (quiet_execute batch.executor _)
  intro executed outcome unchanged
  refine controlled_ask_bind trivial fun now => ?_
  refine controlled_ask_bind trivial fun _ => ?_
  apply controlled_quiet_bind (quiet_bestEffort settings rfl)
  intro published _ silent
  apply Keeps.pure
  simp [silent, unchanged, ControlView.observe, begins]

theorem keeps_executeCandidates (batch : Batch) (signals : List TradeSignal)
    (running : (viewOf history).Running) (left : (viewOf history).left = some signals.length) :
    Keeps (Controlled .executeSignals) AnyError (fun _ _ => True)
      (executeCandidates settings batch signals) history := by
  induction signals generalizing history with
  | nil => exact Keeps.pure trivial
  | cons signal signals ih =>
    apply Keeps.bind (keeps_executeCandidate settings batch signal running left)
    intro later outcome view
    have remaining : Keeps (Controlled .executeSignals) AnyError (fun _ _ => True)
        (executeCandidates settings batch signals) later := by
      apply ih
      · rw [view]
        exact running
      · rw [view]
    apply Keeps.bind remaining
    intro _ _ _
    exact Keeps.pure trivial

theorem keeps_executeSignals (fresh : (viewOf history).left = none) :
    Keeps (Controlled .executeSignals) AnyError (fun _ _ => True)
      (GoldFlowWorker.executeSignals settings) history := by
  refine controlled_ask_bind trivial fun now => ?_
  apply controlled_quiet_bind (quiet_bestEffort settings rfl)
  intro drained _ silent
  refine controlled_ask_bind trivial fun _ => ?_
  apply Keeps.bind (keeps_runtimeState settings rfl)
  intro read runtime view
  have untouched : (viewOf read).left = none := by simp [view, silent, ControlView.observe, fresh]
  apply Keeps.ite
  · intro _
    apply Keeps.ite
    · intro _
      apply controlled_quiet_bind quiet_cancelPendingEntries
      intro _ _ _
      apply controlled_quiet_bind (quiet_bestEffort settings rfl)
      intro _ _ _
      exact Keeps.pure trivial
    · intro _
      apply controlled_quiet_bind (quiet_bestEffort settings rfl)
      intro _ _ _
      exact Keeps.pure trivial
  intro enabled
  apply Keeps.ite
  · exact fun _ => Keeps.pure trivial
  intro _
  have running : (viewOf read).Running := by
    simp only [Bool.or_eq_true, not_or, Bool.not_eq_true] at enabled
    exact ⟨runtime.flags, by rw [view], enabled.1⟩
  refine controlled_ask_bind trivial fun limits => ?_
  refine controlled_ask_bind trivial fun usage => ?_
  apply controlled_ofExcept_bind
  intro sessions _
  have permitted : (viewOf read).left = none ∧ (viewOf read).Running := ⟨untouched, running⟩
  refine controlled_ask_bind ⟨rfl, by simpa [ControlView.observe] using permitted⟩ fun signals => ?_
  apply keeps_executeCandidates
  · simpa [ControlView.observe, ControlView.Running] using running
  · simp [ControlView.observe]

/-- **Every call keeps its discipline**, whatever it is answered. -/
theorem keeps_controlCall (plane : ControlPlane) (call : ControlCall) :
    Keeps (Controlled call) AnyError (fun _ _ => True) (plane.call call) [] := by
  cases call with
  | changeMode mode =>
    exact (keeps_changeMode plane.api mode).bind fun _ _ _ => Keeps.pure trivial
  | killSwitch enabled reason =>
    exact (keeps_killSwitch plane.api enabled reason).bind fun _ _ _ => Keeps.pure trivial
  | resetCircuitBreaker =>
    exact (keeps_resetCircuitBreaker plane.api).bind fun _ _ _ => Keeps.pure trivial
  | latchDrawdownDisable => exact keeps_latchDrawdownDisable plane.worker
  | executeSignals =>
    exact (keeps_executeSignals plane.worker rfl).bind fun _ _ _ => Keeps.pure trivial

end Calls

end GoldFlow
