import GoldFlow.Domain.Models

/-! # Trade lifecycle

`TradeStateMachine` keeps a local state and returns one journal entry per transition.
-/

namespace GoldFlow

structure StateTransition where
  previous : TradeState
  current : TradeState
  reason : String
  deriving DecidableEq, Repr

namespace TradeStateMachine

/-- `_ALLOWED` -/
def allowed : TradeState → List TradeState
  | .scanning => [.signalFound, .error]
  | .signalFound => [.waitingForEntry, .entryReady, .cancelled, .error]
  | .waitingForEntry => [.entryReady, .expired, .cancelled, .error]
  | .entryReady => [.orderPending, .orderFilled, .expired, .error]
  | .orderPending => [.orderFilled, .cancelled, .expired, .error]
  | .orderFilled => [.positionOpen, .error]
  | .positionOpen => [.tp1Hit, .breakEven, .closing, .closed, .stoppedOut, .error]
  | .tp1Hit => [.breakEven, .closing, .closed, .stoppedOut, .error]
  | .breakEven => [.closing, .closed, .stoppedOut, .error]
  | .closing => [.closed, .error]
  | .error => [.cancelled, .closing, .closed]
  | .closed | .stoppedOut | .expired | .cancelled => []

def canTransition (state target : TradeState) : Bool := target ∈ allowed state

/-- The machine's new state is the `current` state of the entry it returns. -/
def transition (state target : TradeState) (reason : String) : Except PyError StateTransition :=
  if isBlank reason then
    .error (.value "a state transition reason is required")
  else if canTransition state target then
    .ok { previous := state, current := target, reason }
  else
    .error (.stateTransition state target)

theorem transition_eq_ok {state target : TradeState} {reason : String} {entry : StateTransition} :
    transition state target reason = .ok entry ↔
      isBlank reason = false ∧ canTransition state target = true ∧
        entry = { previous := state, current := target, reason } := by
  unfold transition
  split
  next blank => simp [blank]
  next nonblank =>
    split
    next permitted => simp [nonblank, permitted, eq_comm]
    next refused => simp [refused]

end TradeStateMachine

end GoldFlow
