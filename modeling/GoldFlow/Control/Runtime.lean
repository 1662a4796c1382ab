import GoldFlow.Domain.Models
import Mathlib.Data.List.TakeWhile

/-! # Operator controls

`DurableRuntimeState` is the operator state that every process reads from the database.
-/

namespace GoldFlow

/-- `text.strip()` -/
def strip (text : String) : String :=
  String.ofList (((text.toList.dropWhile isSpace).reverse.dropWhile isSpace).reverse)

theorem mem_dropWhile_isSpace {character : Char} {characters : List Char} (member : character ∈ characters)
    (visible : isSpace character = false) : character ∈ characters.dropWhile isSpace := by
  rw [← List.takeWhile_append_dropWhile (p := isSpace) (l := characters)] at member
  rcases List.mem_append.mp member with dropped | kept
  · have space := List.mem_takeWhile_imp dropped
    rw [visible] at space
    cases space
  · exact kept

theorem isBlank_strip {text : String} (visible : isBlank text = false) : isBlank (strip text) = false := by
  simp only [isBlank, List.all_eq_false, Bool.not_eq_true] at visible
  obtain ⟨character, member, shown⟩ := visible
  have kept : character ∈ (strip text).toList := by
    simp only [strip, String.toList_ofList, List.mem_reverse]
    apply mem_dropWhile_isSpace _ shown
    rw [List.mem_reverse]
    exact mem_dropWhile_isSpace member shown
  simp only [isBlank, List.all_eq_false, Bool.not_eq_true]
  exact ⟨character, kept, shown⟩

/-- `str(raw).strip() or None` -/
def strippedReason (reason : Option String) : Option String :=
  (reason.map strip).filter (· ≠ "")

theorem isBlank_strippedReason {reason : Option String} (visible : isBlank (reason.getD "") = false) :
    isBlank ((strippedReason reason).getD "") = false := by
  have blank : isBlank "" = true := by simp [isBlank]
  cases reason with
  | none =>
    contradiction
  | some reason =>
    rw [Option.getD_some] at visible
    have stripped := isBlank_strip visible
    have shown : strip reason ≠ "" := by
      intro empty
      rw [empty, blank] at stripped
      contradiction
    have kept : strippedReason (some reason) = some (strip reason) :=
      Option.filter_eq_some_iff.mpr ⟨rfl, decide_eq_true shown⟩
    rw [kept, Option.getD_some]
    exact stripped

structure DurableRuntimeState where
  mode : TradingMode
  killSwitch : Bool
  killSwitchReason : Option String
  autoDisabled : Bool
  updatedAt : Instant
  kill_has_reason : killSwitch = true → isBlank (killSwitchReason.getD "") = false
  latched_not_auto : autoDisabled = true → mode ≠ .auto

/-- The JSON object kept in the active `config_versions` row. -/
structure RuntimePayload where
  mode : TradingMode
  killSwitch : Bool
  killSwitchReason : Option String
  autoDisabled : Bool
  updatedAt : Instant
  deriving DecidableEq, Repr

namespace DurableRuntimeState

/-- `DurableRuntimeState(...)` with the checks of `__post_init__`. -/
def make (mode : TradingMode) (killSwitch : Bool) (killSwitchReason : Option String)
    (autoDisabled : Bool) (updatedAt : Instant) : Except PyError DurableRuntimeState :=
  if reasoned : killSwitch = true → isBlank (killSwitchReason.getD "") = false then
    if latched : autoDisabled = true → mode ≠ .auto then
      .ok {
        mode, killSwitch, killSwitchReason, autoDisabled, updatedAt
        kill_has_reason := reasoned
        latched_not_auto := latched }
    else .error (.value "AUTO cannot be active while drawdown protection is latched")
  else .error (.value "an active kill switch requires a reason")

def toPayload (state : DurableRuntimeState) : RuntimePayload :=
  { mode := state.mode
    killSwitch := state.killSwitch
    killSwitchReason := state.killSwitchReason
    autoDisabled := state.autoDisabled
    updatedAt := state.updatedAt }

/-- `from_payload`; without an active row the payload is empty. -/
def fromPayload (payload : Option RuntimePayload) (defaultMode : TradingMode)
    (defaultUpdatedAt : Instant) : Except PyError DurableRuntimeState :=
  match payload with
  | some payload =>
    make payload.mode payload.killSwitch
      (strippedReason payload.killSwitchReason) payload.autoDisabled payload.updatedAt
  | none => make defaultMode false none false defaultUpdatedAt

variable {mode : TradingMode} {killSwitch autoDisabled : Bool} {killSwitchReason : Option String}
  {state : DurableRuntimeState}

theorem make_eq_ok {updatedAt : Instant}
    (made : make mode killSwitch killSwitchReason autoDisabled updatedAt = .ok state) :
    state.mode = mode ∧ state.killSwitch = killSwitch ∧
      state.killSwitchReason = killSwitchReason ∧ state.autoDisabled = autoDisabled ∧
      state.updatedAt = updatedAt := by
  unfold make at made
  split at made
  next reasoned =>
    split at made
    next latched =>
      cases made
      exact ⟨rfl, rfl, rfl, rfl, rfl⟩
    next => cases made
  next => cases made

theorem make_ok (updatedAt : Instant) (reasoned : killSwitch = true → isBlank (killSwitchReason.getD "") = false)
    (latched : autoDisabled = true → mode ≠ .auto) :
    ∃ state, make mode killSwitch killSwitchReason autoDisabled updatedAt = .ok state :=
  ⟨_, (dif_pos reasoned).trans (dif_pos latched)⟩

theorem fromPayload_flags {payload : RuntimePayload} {defaultMode : TradingMode} {defaultUpdatedAt : Instant}
    (loaded : fromPayload (some payload) defaultMode defaultUpdatedAt = .ok state) :
    state.mode = payload.mode ∧ state.killSwitch = payload.killSwitch ∧
      state.autoDisabled = payload.autoDisabled := by
  obtain ⟨mode, killSwitch, _, autoDisabled, _⟩ := make_eq_ok loaded
  exact ⟨mode, killSwitch, autoDisabled⟩

/-- **A state that was written can be read back.** -/
theorem fromPayload_toPayload (state : DurableRuntimeState) (defaultMode : TradingMode) (defaultUpdatedAt : Instant) :
    ∃ runtime, fromPayload (some state.toPayload) defaultMode defaultUpdatedAt = .ok runtime ∧
      runtime.killSwitch = state.killSwitch := by
  have reasoned : state.killSwitch = true →
      isBlank ((strippedReason state.killSwitchReason).getD "") = false :=
    fun active => isBlank_strippedReason (state.kill_has_reason active)
  obtain ⟨runtime, made⟩ := make_ok state.updatedAt reasoned state.latched_not_auto
  exact ⟨runtime, made, (make_eq_ok made).2.1⟩

end DurableRuntimeState

/-! ## The process-local copy -/

/-- The environment part of the settings that `RuntimeControls` consults. -/
structure ControlSettings where
  tradingEnv : TradingEnvironment
  liveTradingPermitted : Bool
  tradingMode : TradingMode
  deriving DecidableEq, Repr

structure ControlSnapshot where
  mode : TradingMode
  killSwitch : Bool
  killSwitchReason : Option String
  autoDisabled : Bool
  updatedAt : Instant
  deriving DecidableEq, Repr

namespace RuntimeControls

/-- The state a new process starts from. -/
def initial (settings : ControlSettings) (now : Instant) : ControlSnapshot :=
  { mode := settings.tradingMode
    killSwitch := false
    killSwitchReason := none
    autoDisabled := false
    updatedAt := now }

/-- `_validate_mode`, with the drawdown latch it reads as an argument. -/
def validateMode (settings : ControlSettings) (mode : TradingMode) (drawdownLatched : Bool) :
    Except PyError Unit :=
  if mode ≠ .signal ∧ settings.tradingEnv ≠ .demo ∧ settings.tradingEnv ≠ .production then
    .error (.configuration "broker execution modes require TRADING_ENV=demo or production")
  else if mode ≠ .signal ∧ settings.tradingEnv = .production ∧ settings.liveTradingPermitted = false then
    .error (.configuration "production execution safety gate is not satisfied")
  else if drawdownLatched = true ∧ mode = .auto then
    .error (.configuration "AUTO mode requires explicit drawdown reset")
  else .ok ()

/-- The locked part of `set_mode`. -/
def setMode (controls : ControlSnapshot) (mode : TradingMode) (now : Instant) : ControlSnapshot :=
  { controls with mode, updatedAt := now }

/-- The locked part of `set_kill_switch`. -/
def setKillSwitch (controls : ControlSnapshot) (enabled : Bool) (reason : String) (now : Instant) :
    ControlSnapshot :=
  { controls with
    killSwitch := enabled
    killSwitchReason := if enabled then some reason else none
    updatedAt := now }

def resetDrawdownProtection (controls : ControlSnapshot) (now : Instant) : ControlSnapshot :=
  { controls with autoDisabled := false, updatedAt := now }

/-- `durable_state`: raises when the copy is not a valid durable state. -/
def durableState (controls : ControlSnapshot) : Except PyError DurableRuntimeState :=
  DurableRuntimeState.make controls.mode controls.killSwitch controls.killSwitchReason
    controls.autoDisabled controls.updatedAt

/-- `restore_runtime`: hydration at startup. -/
def restoreRuntime (settings : ControlSettings) (state : DurableRuntimeState) :
    Except PyError ControlSnapshot := do
  validateMode settings state.mode state.autoDisabled
  pure {
    mode := state.mode
    killSwitch := state.killSwitch
    killSwitchReason := state.killSwitchReason
    autoDisabled := state.autoDisabled
    updatedAt := state.updatedAt }

/-- `_load_durable_controls`: the controls of a new process. -/
def loadDurableControls (settings : ControlSettings) (active : Option RuntimePayload)
    (activatedAt : Instant) (controls : ControlSnapshot) : Except PyError ControlSnapshot :=
  match active with
  | none => .ok controls
  | some payload => do
    let state ← DurableRuntimeState.fromPayload (some payload) settings.tradingMode activatedAt
    restoreRuntime settings state

theorem loadDurableControls_valid {settings : ControlSettings} {payload : RuntimePayload}
    {activatedAt : Instant} {controls hydrated : ControlSnapshot}
    (loaded : loadDurableControls settings (some payload) activatedAt controls = .ok hydrated) :
    payload.autoDisabled = true → payload.mode ≠ .auto := by
  cases read : DurableRuntimeState.fromPayload (some payload) settings.tradingMode activatedAt with
  | error =>
    simp only [loadDurableControls, read] at loaded
    cases loaded
  | ok state =>
    obtain ⟨mode, _, autoDisabled⟩ := DurableRuntimeState.fromPayload_flags read
    rw [← mode, ← autoDisabled]
    exact state.latched_not_auto

end RuntimeControls

end GoldFlow
