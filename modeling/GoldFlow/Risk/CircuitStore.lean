import GoldFlow.Effect.Schedule
import GoldFlow.Risk.Circuit

/-! # The compare-and-set circuit store

`InMemoryCircuitStateStore` and the operations its clients run against it.
-/

namespace GoldFlow

open Effect

/-- The stored state of every account. -/
abbrev CircuitStates := String → Option CircuitState

namespace InMemoryCircuitStateStore

variable (states : CircuitStates)

def load (accountId : String) : Option CircuitState := states accountId

def save (state : CircuitState) (expectedVersion : Nat) : Except PyError (CircuitState × CircuitStates) :=
  let currentVersion := ((states state.accountId).map (·.version)).getD 0
  if currentVersion ≠ expectedVersion then .error (.runtime "circuit state optimistic-lock conflict")
  else
    let persisted := { state with version := expectedVersion + 1 }
    .ok (persisted, Function.update states state.accountId (some persisted))

end InMemoryCircuitStateStore

def circuitStore : Environment Port PyError CircuitStates where
  step := fun states event after =>
    match event with
    | ⟨.circuit (.load accountId), reply⟩ =>
      reply = .ok (InMemoryCircuitStateStore.load states accountId) ∧ after = states
    | ⟨.circuit (.save state expectedVersion), reply⟩ =>
      match InMemoryCircuitStateStore.save states state expectedVersion with
      | .ok (persisted, updated) => reply = .ok persisted ∧ after = updated
      | .error error => reply = .error error ∧ after = states
    | _ => after = states

inductive CircuitAction where
  | get (accountId : String) (now : Instant)
  | evaluate (account : AccountSnapshot) (usage : RiskUsage) (now : Instant)
  | activateKillSwitch (accountId : String) (now : Instant)
  | manualReset (accountId : String) (now : Instant) (authorized clearKillSwitch : Bool)

structure CircuitCall where
  breaker : CircuitBreaker
  action : CircuitAction

namespace CircuitCall

variable (call : CircuitCall)

def accountId : String :=
  match call.action with
  | .get accountId _ | .activateKillSwitch accountId _ | .manualReset accountId _ _ _ => accountId
  | .evaluate account _ _ => account.accountId

def now : Instant :=
  match call.action with
  | .get _ now | .evaluate _ _ now | .activateKillSwitch _ now | .manualReset _ now _ _ => now

def program : Py CircuitState :=
  match call.action with
  | .get accountId now => call.breaker.get accountId now
  | .evaluate account usage now => call.breaker.evaluate account usage now
  | .activateKillSwitch accountId now => call.breaker.activateKillSwitch accountId now
  | .manualReset accountId now authorized clearKillSwitch =>
    call.breaker.manualReset accountId now authorized clearKillSwitch

end CircuitCall

/-- The store as a responder, for concrete runs. -/
def circuitResponder : Responder Port PyError CircuitStates where
  respond := fun states op =>
    match op with
    | .circuit (.load accountId) => (.ok (InMemoryCircuitStateStore.load states accountId), states)
    | .circuit (.save state expectedVersion) =>
      match InMemoryCircuitStateStore.save states state expectedVersion with
      | .ok (persisted, updated) => (.ok persisted, updated)
      | .error error => (.error error, states)
    | _ => (.error (.runtime "no circuit request"), states)

theorem circuitResponder_within : circuitResponder.Within circuitStore id := by
  intro states op
  cases op with
  | circuit op =>
    cases op with
    | load => exact ⟨rfl, rfl⟩
    | save state expectedVersion =>
      simp only [circuitResponder, circuitStore, id]
      cases InMemoryCircuitStateStore.save states state expectedVersion with
      | ok => exact ⟨rfl, rfl⟩
      | error => exact ⟨rfl, rfl⟩
  | broker _ | records _ | attempts _ | config _ | controls _ | journal _ | ledger _ | clock
  | sleep => exact rfl

end GoldFlow
