import GoldFlow.Execution.Positions
import GoldFlow.Recovery.Reconciliation
import GoldFlow.Worker.Service

/-! # The worker's jobs on positions -/

namespace GoldFlow

open Effect Data ReconciliationService

namespace GoldFlowWorker

variable (settings : WorkerSettings)

/-! ## Management -/

/-- `_profit_distance` -/
def profitDistance (position : BrokerPosition) : Decimal :=
  position.direction.sign * (position.currentPrice - position.openPrice)

/-- `_target_reached` -/
def targetReached (position : BrokerPosition) (target : Decimal) : Bool :=
  match position.direction with
  | .long => target ≤ position.currentPrice
  | .short => position.currentPrice ≤ target

/-- The state after a first target: a position at break-even stays there. -/
def stateAfterTarget (plan : ManagedPosition) : TradeState :=
  if plan.state = .breakEven then plan.state else .tp1Hit

/-- The first target of a plan with several that it has not taken yet. -/
def partialDue (values : ManagementValues) (plan : ManagedPosition) (position : BrokerPosition) : Bool :=
  values.partialEnabled && 1 < plan.takeProfits.length && .tp1Hit ∉ plan.seenEvents &&
    plan.takeProfits.head?.any (targetReached position)

/-- The partial close at the first target: the position afterwards, and the applied actions. -/
def takePartial (symbol : String) (values : ManagementValues) (plan : ManagedPosition) (position : BrokerPosition) :
    Py (BrokerPosition × Nat) :=
  if partialDue values plan position then do
    let action ← PositionManager.partialClose plan.ticket values.partialFraction
    if action.applied then do
      let positions ← askBroker (.getPositions (some symbol))
      let refreshed := positions.find? (·.ticket = plan.ticket)
      let now ← clock
      askJournal (.recordPositionAction plan action .tp1Hit (some (stateAfterTarget plan)) refreshed now "")
      pure (refreshed.getD position, 1)
    else pure (position, 0)
  else pure (position, 0)

def breakEvenDue (values : ManagementValues) (plan : ManagedPosition) (position : BrokerPosition) : Bool :=
  let riskDistance := |plan.openPrice - plan.stopLoss|
  values.breakEvenEnabled && 0 < riskDistance && .breakEven ∉ plan.seenEvents &&
    riskDistance * values.breakEvenTrigger ≤ profitDistance position

def breakEven (values : ManagementValues) (tick : Tick) (plan : ManagedPosition) (position : BrokerPosition) :
    Py Nat :=
  if breakEvenDue values plan position then do
    let action ← PositionManager.moveToBreakEven plan.ticket tick.spread plan.slippage
    if action.applied then do
      let now ← clock
      askJournal (.recordPositionAction plan action .breakEven (some .breakEven) action.position now "")
      pure 1
    else pure 0
  else pure 0

/-- The suffix of a trailing event: the new stop, or else the time. -/
def trailingSuffix (action : PositionAction) (now : Instant) : String :=
  action.position.elim (toString now) fun position => toString position.stopLoss

def trail (symbol : String) (values : ManagementValues) (plan : ManagedPosition) : Py Nat :=
  if values.trailingEnabled then do
    let range ← askBroker (.averageTrueRange symbol)
    match range with
    | none => pure 0
    | some range => do
      let action ← PositionManager.trail values.trailingEnabled plan.ticket (.atr range values.trailingMultiple)
      if action.applied then do
        let now ← clock
        askJournal (.recordPositionAction plan action .trailingStop none action.position now
          (trailingSuffix action now))
        pure 1
      else pure 0
  else pure 0

/-- The turn of one plan. -/
def managePlan (symbol : String) (values : ManagementValues) (tick : Tick) (plan : ManagedPosition)
    (position : BrokerPosition) : Py Nat := do
  let (position, taken) ← takePartial symbol values plan position
  let moved ← breakEven values tick plan position
  let trailed ← trail symbol values plan
  publish settings "POSITION"
  pure (taken + moved + trailed)

def managePlans (symbol : String) (values : ManagementValues) (tick : Tick)
    (brokerPositions : Keyed BrokerPosition.ticket) : List ManagedPosition → Py Nat
  | [] => pure 0
  | plan :: plans =>
    match brokerPositions.get plan.ticket with
    | none => managePlans symbol values tick brokerPositions plans
    | some position => do
      let applied ← managePlan settings symbol values tick plan position
      let others ← managePlans symbol values tick brokerPositions plans
      pure (applied + others)

/-- `manage_positions` -/
def managePositions (symbol : String) : Py Nat := do
  let plans ← askJournal .openPositionPlans
  if plans.isEmpty then pure 0
  else do
    let positions ← askBroker (.getPositions (some symbol))
    let values ← askJournal .managementValues
    let tick ← askBroker (.getTick symbol)
    managePlans settings symbol values tick (.ofList positions) plans

/-! ### What management asks besides its closes -/

def Manages : Op → Prop
  | .journal .openPositionPlans | .journal (.markClosed _) | .journal (.setVolume _ _)
  | .broker (.closePosition _ _) => False
  | .journal (.recordPositionAction _ _ eventType state _ _ _) =>
    eventType = .breakEven ∧ state = some .breakEven ∨ eventType = .trailingStop ∧ state = none
  | _ => True

theorem manages_position (ticket : String) : (PositionManager.position ticket).Asks Manages := by
  refine .bind (.perform trivial) fun positions => ?_
  cases positions.find? (·.ticket = ticket) <;> exact trivial

theorem manages_moveStop (position : BrokerPosition) (stop : Decimal) (applied rejected : String) :
    (PositionManager.moveStop position stop applied rejected).Asks Manages := by
  refine .bind (.perform trivial) fun modified => ?_
  cases modified with
  | false => exact trivial
  | true => exact .bind (manages_position _) fun _ => trivial

theorem manages_breakEven (values : ManagementValues) (tick : Tick) (plan : ManagedPosition)
    (position : BrokerPosition) : (breakEven values tick plan position).Asks Manages := by
  refine .ite (.bind ?_ fun action => ?_) trivial
  · refine .ite trivial (.bind (manages_position _) fun position => ?_)
    exact .ite trivial (.ite trivial (manages_moveStop _ _ _ _))
  · exact .ite (.bind (.perform trivial) fun now => .bind (.perform (.inl ⟨rfl, rfl⟩)) fun _ => trivial) trivial

theorem manages_trail (symbol : String) (values : ManagementValues) (plan : ManagedPosition) :
    (trail symbol values plan).Asks Manages := by
  refine .ite (.bind (.perform trivial) fun range => ?_) trivial
  cases range with
  | none => exact trivial
  | some =>
    refine .bind ?_ fun action => ?_
    · refine .ite trivial (.bind (manages_position _) fun position => .bind (.ofExcept _) fun candidate => ?_)
      exact .ite trivial (manages_moveStop _ _ _ _)
    · exact .ite (.bind (.perform trivial) fun now => .bind (.perform (.inr ⟨rfl, rfl⟩)) fun _ => trivial) trivial

/-- The turn of a plan after its partial close. -/
theorem manages_rest (symbol : String) (values : ManagementValues) (tick : Tick) (plan : ManagedPosition)
    (position : BrokerPosition) (taken : Nat) :
    Program.Asks Manages (do
      let moved ← breakEven values tick plan position
      let trailed ← trail symbol values plan
      publish settings "POSITION"
      pure (taken + moved + trailed)) := by
  refine .bind (manages_breakEven _ _ _ _) fun moved => .bind (manages_trail _ _ _) fun trailed => ?_
  exact .bind (.ite (.bind (.catching (.perform trivial)) fun _ => trivial) trivial) fun _ => trivial

/-! ## Strategy exit -/

def exitAction (report : ExecutionReport) : PositionAction :=
  { applied := report.success
    reason := if report.success then "STRATEGY_EXIT_CONFIRMED" else "STRATEGY_EXIT_REJECTED"
    report := some report }

def exitPositions (plans : Keyed ManagedPosition.ticket) : List BrokerPosition → Py Unit
  | [] => pure ()
  | position :: positions =>
    match plans.get position.ticket with
    | none => exitPositions plans positions
    | some plan => do
      let report ← askBroker (.closePosition position.ticket none)
      if report.success then do
        let now ← clock
        askJournal (.recordPositionAction plan (exitAction report) .closed (some .closed) none now "strategy-exit")
        exitPositions plans positions
      else exitPositions plans positions

/-- `_execute_strategy_exit` -/
def executeStrategyExit (positions : List BrokerPosition) : Py Unit := do
  let plans ← askJournal .openPositionPlans
  exitPositions (.ofList plans) positions

/-! ## Reconciliation -/

/-- The loop of `reconcile_unknown_executions`. -/
def reconcileKeys (executor : TradeExecutor) : List String → Py Nat
  | [] => pure 0
  | key :: keys => do
    let outcome ← executor.reconcileUnknown key
    match outcome.request with
    | some request => do
      let signal ← askJournal (.signalById request.signalId)
      match signal with
      | some signal => do
        let now ← clock
        askJournal (.recordExecution signal outcome now)
      | none => pure ()
    | none => pure ()
    let resolved ← reconcileKeys executor keys
    pure (if outcome.requiresReconciliation then resolved else resolved + 1)

/-- `reconcile_unknown_executions` -/
def reconcileUnknownExecutions (executor : TradeExecutor) : Py Nat := do
  let keys ← askJournal .unknownKeys
  reconcileKeys executor keys

/-- `reconcile` -/
def reconcile (executor : TradeExecutor) : Py Bool := do
  let report ← ReconciliationService.reconcile
  let now ← clock
  askJournal (.recordReconciliation report now)
  let _ ← reconcileUnknownExecutions executor
  publish settings "HEALTH"
  pure report.healthy

end GoldFlowWorker

namespace PositionsApi

/-- `ClosePositionRequest`: a volume is positive. -/
structure ClosePositionRequest where
  volume : Option Decimal := none
  volume_pos : ∀ volume', volume = some volume' → 0 < volume'

/-- `POST /positions/{position_id}/close`: whether the close was a full one. -/
def closePosition (positionId : Nat) (request : ClosePositionRequest) : Py Bool := do
  let position ← askJournal (.position positionId)
  match position with
  | none => .raise (.http 404 "open position not found")
  | some row =>
    if row.closedAt.isSome then .raise (.http 404 "open position not found")
    else if request.volume.any (row.currentVolume < ·) then .raise (.http 422 "close volume is too large")
    else do
      let answer ← Program.catching (askBroker (.closePosition row.brokerTicket request.volume))
        PyError.isUnavailable id
      match answer with
      | .error error => .raise (.http 503 error.text)
      | .ok report =>
        if !report.success then
          .raise (.http 502 ("broker rejected position close: " ++ (storedText report.brokerCode).getD "UNKNOWN"))
        else
          match request.volume.filter (· ≠ row.currentVolume) with
          | none => do
            askJournal (.markClosed row.id)
            askJournal (.audit "POSITION_CLOSE")
            pure true
          | some requested => do
            askJournal (.setVolume row.id (row.currentVolume - requested))
            askJournal (.audit "POSITION_CLOSE")
            pure false

end PositionsApi

end GoldFlow
