import GoldFlow.Risk.CircuitStore

/-! # What a circuit operation stores -/

namespace GoldFlow

open Effect

namespace CircuitBreaker

variable (breaker : CircuitBreaker)

def unstored (accountId : String) (now : Instant) : CircuitState :=
  { accountId, day := (breaker.periodKeys now).1, weekStart := (breaker.periodKeys now).2, updatedAt := now }

def inOtherPeriod (state : CircuitState) (now : Instant) : Bool :=
  state.day ≠ (breaker.periodKeys now).1 || state.weekStart ≠ (breaker.periodKeys now).2

def rolledOver (state : CircuitState) (now : Instant) : CircuitState :=
  { state with
    day := (breaker.periodKeys now).1
    weekStart := (breaker.periodKeys now).2
    dailyLocked := state.dailyLocked && state.day = (breaker.periodKeys now).1
    weeklyLocked := state.weeklyLocked && state.weekStart = (breaker.periodKeys now).2
    updatedAt := now }

private theorem save_congr {state other : CircuitState} (same : state = other) (version : Nat) :
    (askCircuit (.save state version) : Py CircuitState) = askCircuit (.save other version) := by
  rw [same]

theorem get_eq (accountId : String) (now : Instant) :
    breaker.get accountId now = (askCircuit (.load accountId)).bind fun loaded =>
      match loaded with
      | none => .pure (breaker.unstored accountId now)
      | some state =>
        if breaker.inOtherPeriod state now then
          askCircuit (.save (breaker.rolledOver state now) state.version)
        else .pure state := by
  unfold CircuitBreaker.get
  simp only [Program.bind_eq]
  congr 1
  funext loaded
  cases loaded with
  | none => rfl
  | some state =>
    refine if_congr ?_ (save_congr ?_ state.version) rfl
    · by_cases day : state.day = (breaker.periodKeys now).1 <;>
        by_cases week : state.weekStart = (breaker.periodKeys now).2 <;> simp [inOtherPeriod, day]
    · by_cases day : state.day = (breaker.periodKeys now).1 <;>
        by_cases week : state.weekStart = (breaker.periodKeys now).2 <;> simp [rolledOver, day, week]

end CircuitBreaker

namespace CircuitCall

variable (call : CircuitCall)

/-- The state an operation stores after `get` has returned `state`. -/
def updated (state : CircuitState) : CircuitState :=
  match call.action with
  | .get _ _ => state
  | .evaluate account usage now => call.breaker.evaluated state account usage now
  | .activateKillSwitch _ now =>
    { state with killSwitch := true, reason := "KILL_SWITCH_ACTIVE", updatedAt := now }
  | .manualReset _ now _ clearKillSwitch =>
    { state with
      dailyLocked := false
      weeklyLocked := false
      accountLocked := false
      killSwitch := if clearKillSwitch then false else state.killSwitch
      manualReenableRequired := false
      reason := "MANUAL_RESET"
      updatedAt := now }

def authorized : Bool :=
  match call.action with
  | .manualReset _ _ authorized _ => authorized
  | _ => true

def completes (rolled : Bool) (seen : Option CircuitState) : Bool :=
  rolled || !seen.any (call.breaker.inOtherPeriod · call.now)

/-- What the operation saves next, with `seen` the state it has last seen. -/
def stores (rolled : Bool) (seen : Option CircuitState) : CircuitState :=
  let state := seen.getD (call.breaker.unstored call.accountId call.now)
  if call.completes rolled seen then call.updated state else call.breaker.rolledOver state call.now

end CircuitCall

def storedVersion (stored : Option CircuitState) : Nat := (stored.map (·.version)).getD 0

/-! ## The view of a call -/

structure CircuitView where
  seen : Option (Option CircuitState) := none
  rolled : Bool := false

def CircuitView.observe (view : CircuitView) : PortEvent → CircuitView
  | ⟨.circuit (.load _), .ok loaded⟩ => { view with seen := some loaded }
  | ⟨.circuit (.save _ _), .ok persisted⟩ => { seen := some (some persisted), rolled := true }
  | _ => view

def circuitView : Monitor Port PyError (CircuitCall × CircuitView) :=
  Monitor.tagged ⟨CircuitView.observe⟩ CircuitCall

namespace CircuitCall

def Permits (watched : CircuitCall × CircuitView) : Op → Prop
  | .circuit (.load accountId) => accountId = watched.1.accountId
  | .circuit (.save state expectedVersion) =>
    watched.1.authorized = true ∧ ∃ seen, watched.2.seen = some seen ∧
      expectedVersion = storedVersion seen ∧ state = watched.1.stores watched.2.rolled seen
  | _ => False

theorem wp_askCircuit {τ : Type} {env : Environment Port PyError τ} {allowed : τ → Op → Prop} {state : τ}
    {op : CircuitOp} {post : τ → Except PyError op.Value → Prop} (permitted : allowed state (.circuit op))
    (answered : ∀ reply after, env.step state ⟨.circuit op, reply⟩ after → post after reply) :
    (askCircuit op).wp env allowed post state :=
  (Program.wp_perform state).mpr ⟨permitted, answered⟩

/-- `get` has returned the state that the view has. -/
structure Returned (call : CircuitCall) (watched : CircuitCall × CircuitView) (state : CircuitState) :
    Prop where
  running : watched.1 = call
  shown : ∃ seen, watched.2.seen = some seen ∧ call.completes watched.2.rolled seen = true ∧
    state = seen.getD (call.breaker.unstored call.accountId call.now)

variable (call : CircuitCall)

/-- How `get` ends. -/
def Gets (watched : CircuitCall × CircuitView) : Except PyError CircuitState → Prop
  | .ok state => call.Returned watched state
  | .error _ => True

theorem wp_get (authorized : call.authorized = true) :
    (call.breaker.get call.accountId call.now).wp circuitView.environment Permits call.Gets (call, {}) := by
  rw [CircuitBreaker.get_eq, Program.wp_bind]
  refine wp_askCircuit rfl ?_
  rintro reply _ rfl
  cases reply with
  | error => exact trivial
  | ok loaded =>
    cases loaded with
    | none => exact ⟨rfl, none, rfl, rfl, rfl⟩
    | some state =>
      simp only [Program.Resumes]
      by_cases other : call.breaker.inOtherPeriod state call.now = true
      · -- the rollover is saved with the version that was loaded
        rw [if_pos other]
        apply wp_askCircuit
        · refine ⟨authorized, some state, rfl, rfl, ?_⟩
          simp [stores, completes, circuitView, Monitor.tagged, CircuitView.observe, other]
        · rintro reply _ rfl
          cases reply with
          | error => exact trivial
          | ok persisted => exact ⟨rfl, some persisted, rfl, rfl, rfl⟩
      · rw [if_neg other]
        refine ⟨rfl, some state, rfl, ?_, rfl⟩
        simp [completes, other]

theorem wp_save {watched : CircuitCall × CircuitView} {state : CircuitState}
    (authorized : call.authorized = true) (returned : call.Returned watched state) :
    (askCircuit (.save (call.updated state) state.version)).wp circuitView.environment Permits
      (fun _ _ => True) watched := by
  obtain ⟨rfl, seen, shown, completing, rfl⟩ := returned
  refine wp_askCircuit ⟨authorized, seen, shown, ?_, ?_⟩ fun _ _ _ => trivial
  · cases seen with
    | none => rfl
    | some => rfl
  · simp [stores, completing]

theorem wp_get_bind {rest : CircuitState → Py CircuitState} (authorized : call.authorized = true)
    (resumes : ∀ watched state, call.Returned watched state →
      (rest state).wp circuitView.environment Permits (fun _ _ => True) watched) :
    ((call.breaker.get call.accountId call.now).bind rest).wp circuitView.environment Permits
      (fun _ _ => True) (call, {}) := by
  rw [Program.wp_bind]
  refine Program.wp_mono (call.wp_get authorized) (fun _ _ permitted => permitted) ?_
  intro watched result ended
  cases result with
  | ok state => exact resumes watched state ended
  | error => exact trivial

/-- **Every operation saves only what it computes from what it has last seen.** -/
theorem wp_program : call.program.wp circuitView.environment Permits (fun _ _ => True) (call, {}) := by
  obtain ⟨breaker, action⟩ := call
  cases action with
  | get accountId now =>
    let call : CircuitCall := ⟨breaker, .get accountId now⟩
    exact Program.wp_mono (call.wp_get rfl) (fun _ _ permitted => permitted) fun _ _ _ => trivial
  | evaluate account usage now =>
    let call : CircuitCall := ⟨breaker, .evaluate account usage now⟩
    refine call.wp_get_bind rfl fun watched state returned => ?_
    show Program.wp _ _ _ (if breaker.evaluated state account usage now = state then _ else _) watched
    split
    · exact trivial
    · exact call.wp_save rfl returned
  | activateKillSwitch accountId now =>
    let call : CircuitCall := ⟨breaker, .activateKillSwitch accountId now⟩
    exact call.wp_get_bind rfl fun watched state returned => call.wp_save rfl returned
  | manualReset accountId now authorized clearKillSwitch =>
    let call : CircuitCall := ⟨breaker, .manualReset accountId now authorized clearKillSwitch⟩
    cases authorized with
    | false => exact trivial
    | true => exact call.wp_get_bind rfl fun watched state returned => call.wp_save rfl returned

end CircuitCall

end GoldFlow
