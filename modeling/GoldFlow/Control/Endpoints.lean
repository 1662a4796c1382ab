import GoldFlow.Risk.Circuit

/-! # The operator endpoints

`POST /mode`, `POST /admin/kill-switch` and `POST /admin/circuit-reset`.
-/

namespace GoldFlow

open Effect

/-- What the endpoints use of the application container. -/
structure ApiContainer where
  settings : ControlSettings
  brokerConfigured : Bool := true
  /-- `CircuitBreaker(SQLAlchemyCircuitStateStore(...), RiskLimits())` -/
  circuit : CircuitBreaker

namespace RuntimeControls

/-- `set_mode`: the latch is read outside the lock. -/
def requestMode (settings : ControlSettings) (mode : TradingMode) : Py ControlSnapshot := do
  let controls ← askControls .snapshot
  Program.ofExcept (validateMode settings mode controls.autoDisabled)
  let now ← clock
  askControls (.setMode mode now)

/-- `set_kill_switch` -/
def requestKillSwitch (enabled : Bool) (reason : String) : Py ControlSnapshot := do
  Program.raiseIf (isBlank reason) (.value "kill-switch changes require a reason")
  let now ← clock
  askControls (.setKillSwitch enabled reason now)

/-- `reset_drawdown_protection` -/
def requestDrawdownReset : Py ControlSnapshot := do
  let now ← clock
  askControls (.resetDrawdownProtection now)

end RuntimeControls

namespace ApiContainer

open RuntimeControls

variable (container : ApiContainer)

/-- `_persist_runtime_controls` and the commit of the request's session. -/
def persistRuntimeControls : Py Unit := do
  let controls ← askControls .durableState
  let state ← Program.ofExcept (durableState controls)
  askConfig (.activateConfig state.toPayload)

/-- `_record_rejected_mode_change` and the response. -/
def rejectModeChange {α : Type} (message : String) : Py α := do
  askJournal (.audit "TRADING_MODE_CHANGE_REJECTED")
  .raise (.http 409 message)

def changeMode (mode : TradingMode) : Py ControlSnapshot := do
  let _before ← askControls .snapshot
  if mode = .auto ∧ container.settings.tradingEnv = .production then do
    let passed ← askJournal .demoValidationEvidence
    if !passed then rejectModeChange "production AUTO requires validated durable demo evidence"
    else changeAllowed
  else changeAllowed
where
  changeAllowed : Py ControlSnapshot := do
    match ← Program.catching (requestMode container.settings mode) PyError.isConfiguration id with
    | .error error => rejectModeChange error.text
    | .ok after => do
      persistRuntimeControls
      pure after

/-- The cancellation loop; an unavailable broker ends it. -/
def cancelPendingOrders (cancelled failures : List String) :
    List BrokerOrder → Py (List String × List String)
  | [] => pure (cancelled, failures)
  | order :: orders => do
    match ← Program.catching (askBroker (.cancelOrder order.ticket)) PyError.isUnavailable id with
    | .ok true => cancelPendingOrders (cancelled ++ [order.ticket]) failures orders
    | .ok false => cancelPendingOrders cancelled (failures ++ [order.ticket]) orders
    | .error _ => pure (cancelled, failures ++ ["BROKER_UNAVAILABLE_RECONCILIATION_REQUIRED"])

/-- The cancelled tickets and the failures; only an activation cancels. -/
def cancelEntries (enabled : Bool) : Py (List String × List String) :=
  if !enabled then pure ([], [])
  else if container.brokerConfigured then do
    match ← Program.catching (askBroker (.getOrders none)) PyError.isUnavailable id with
    | .ok orders => cancelPendingOrders [] [] orders
    | .error _ => pure ([], ["BROKER_UNAVAILABLE_RECONCILIATION_REQUIRED"])
  else pure ([], ["BROKER_UNAVAILABLE_RECONCILIATION_REQUIRED"])

def killSwitch (enabled : Bool) (reason : String) :
    Py (ControlSnapshot × List String × List String) := do
  let _before ← askControls .snapshot
  let after ← requestKillSwitch enabled reason
  let (cancelled, failures) ← container.cancelEntries enabled
  persistRuntimeControls
  pure (after, cancelled, failures)

def resetCircuitBreaker : Py (ControlSnapshot × CircuitState) := do
  Program.raiseIf (!container.brokerConfigured) (.http 503 "broker adapter is not configured")
  match ← Program.catching (askBroker .getAccount) PyError.isUnavailable id with
  | .error error => .raise (.http 503 error.text)
  | .ok account => do
    let controls ← askControls .snapshot
    let _before ← container.circuit.get account.accountId controls.updatedAt
    let _reset ← requestDrawdownReset
    let safeRuntime ← requestMode container.settings .signal
    let after ← container.circuit.manualReset account.accountId safeRuntime.updatedAt true false
    persistRuntimeControls
    pure (safeRuntime, after)

end ApiContainer

end GoldFlow
