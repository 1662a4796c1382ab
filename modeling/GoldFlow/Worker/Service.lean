import GoldFlow.Control.Endpoints
import GoldFlow.Execution.Executor
import GoldFlow.Market.Sessions

/-! # The worker's jobs on the runtime state -/

namespace GoldFlow

open Effect

/-- The settings the jobs consult. -/
structure WorkerSettings where
  tradingMode : TradingMode
  tradingEnv : TradingEnvironment
  redisConfigured : Bool := true
  newsFilterEnabled : Bool := false
  tradeSessions : List String := ["london", "new_york"]
  entryOrderType : OrderType := .market
  maximumSlippage : Decimal := 30 / 100
  liveTradingEnabled : Bool := false
  liveTradingConfirmation : Option String := none
  liveTradingConfirmationSecret : String := ""
  requireDemoValidationForLive : Bool := true
  minimumDemoTrades : Int := 100
  maximumDemoDrawdown : Decimal := 10 / 100
  minimumDemoProfitFactor : Decimal := 12 / 10
  sha256 : HexDigest

namespace GoldFlowWorker

variable (settings : WorkerSettings)

/-- A Redis call whose failure is only logged. -/
def bestEffort (op : JournalOp) : Py Unit :=
  if settings.redisConfigured then do
    let _ ← Program.catching (askJournal op) (fun _ => true) id
    pure ()
  else pure ()

/-- `_publish` -/
def publish (event : String) : Py Unit := bestEffort settings (.publish event)

/-- `_runtime_state` -/
def runtimeState : Py DurableRuntimeState := do
  let payload ← askConfig .activeConfig
  let now ← clock
  Program.ofExcept (DurableRuntimeState.fromPayload payload settings.tradingMode now)

/-- `_latch_drawdown_disable` -/
def latchDrawdownDisable : Py Unit := do
  let runtime ← runtimeState settings
  if runtime.autoDisabled then pure ()
  else do
    let now ← clock
    let latched ← Program.ofExcept
      (DurableRuntimeState.make .signal runtime.killSwitch runtime.killSwitchReason true now)
    askConfig (.activateConfig latched.toPayload)
    publish settings "BOT_STATUS"

/-- `_pending_price` -/
def pendingPrice (signal : TradeSignal) (orderType : OrderType) : Option Decimal :=
  match orderType, signal.entryMin, signal.entryMax with
  | .market, _, _ | _, none, _ | _, _, none => none
  | .limit, some low, some high => some ((low + high) / 2)
  | .stop, some low, some high => some (if signal.action = .long then high else low)

/-- `_build_executor` on the durable store. -/
def buildExecutor (limits : RiskLimits) : TradeExecutor :=
  { TradeExecutor.default .sqlAlchemy limits settings.sha256 with
    circuitBreaker := some (.ofLimits limits)
    requireDemoValidationForLive := settings.requireDemoValidationForLive
    minimumDemoTrades := settings.minimumDemoTrades
    maximumDemoDrawdown := settings.maximumDemoDrawdown
    minimumDemoProfitFactor := settings.minimumDemoProfitFactor }

/-- What the batch has read before its loop. -/
structure Batch where
  mode : TradingMode
  executor : TradeExecutor
  usage : RiskUsage
  sessionAllowed : Bool

/-- The command of one candidate. -/
def commandFor (batch : Batch) (signal : TradeSignal) (demo : Option DemoPerformance) :
    ExecutionCommand :=
  { signal
    mode := batch.mode
    environment := settings.tradingEnv
    orderType := settings.entryOrderType
    requestedPrice := pendingPrice signal settings.entryOrderType
    maximumSlippage := settings.maximumSlippage
    approved := signal.status = .approved
    liveTradingEnabled := settings.liveTradingEnabled
    configuredLiveConfirmation := settings.liveTradingConfirmation
    requiredLiveConfirmation :=
      if settings.liveTradingConfirmationSecret = "" then none
      else some settings.liveTradingConfirmationSecret
    demoPerformance := demo
    sessionAllowed := batch.sessionAllowed
    riskUsage := batch.usage }

/-- The turn of one candidate in the loop. -/
def executeCandidate (batch : Batch) (signal : TradeSignal) : Py ExecutionOutcome := do
  let demo ← askJournal (.demoPerformance signal.strategyVersion)
  let outcome ← batch.executor.execute (commandFor settings batch signal demo)
  let now ← clock
  askJournal (.recordExecution signal outcome now)
  publish settings "EXECUTION"
  pure outcome

def executeCandidates (batch : Batch) : List TradeSignal → Py (List ExecutionOutcome)
  | [] => pure []
  | signal :: signals => do
    let outcome ← executeCandidate settings batch signal
    let outcomes ← executeCandidates batch signals
    pure (outcome :: outcomes)

/-- `execute_signals` -/
def executeSignals : Py (List ExecutionOutcome) := do
  let now ← clock
  bestEffort settings .drainExecutionHints
  let _ ← askJournal (.expireSignals now)
  let runtime ← runtimeState settings
  if runtime.killSwitch || runtime.autoDisabled then do
    if runtime.killSwitch then
      let _ ← TradeExecutor.cancelPendingEntries
    publish settings "BOT_STATUS"
    pure []
  else if settings.newsFilterEnabled then pure []
  else do
    let limits ← askJournal .riskLimits
    let usage ← askJournal (.riskUsage now)
    let sessions ← Program.ofExcept (defaultSessionCalendar settings.tradeSessions)
    let signals ← askJournal (.executionCandidates runtime.mode now)
    executeCandidates settings
      { mode := runtime.mode
        executor := buildExecutor settings limits
        usage
        sessionAllowed := sessions.isAllowed now } signals

end GoldFlowWorker

/-! ## Calls that meet at the runtime state -/

/-- A request to the API process, or a job of a worker. -/
inductive ControlCall where
  | changeMode (mode : TradingMode)
  | killSwitch (enabled : Bool) (reason : String)
  | resetCircuitBreaker
  | latchDrawdownDisable
  | executeSignals
  deriving DecidableEq

/-- The API process and the workers of one deployment. -/
structure ControlPlane where
  api : ApiContainer
  worker : WorkerSettings

def ControlPlane.call (plane : ControlPlane) : ControlCall → Py Unit
  | .changeMode mode => do
    let _ ← plane.api.changeMode mode
  | .killSwitch enabled reason => do
    let _ ← plane.api.killSwitch enabled reason
  | .resetCircuitBreaker => do
    let _ ← plane.api.resetCircuitBreaker
  | .latchDrawdownDisable => GoldFlowWorker.latchDrawdownDisable plane.worker
  | .executeSignals => do
    let _ ← GoldFlowWorker.executeSignals plane.worker

end GoldFlow
