import GoldFlow.Brokers.Symbols
import GoldFlow.Execution.Stores
import GoldFlow.Risk.Circuit
import GoldFlow.Risk.Gates

/-! # Trade executor -/

namespace GoldFlow

open Effect

/-- `hashlib.sha256(text.encode()).hexdigest()`, supplied by the platform. -/
abbrev HexDigest := String → String

/-- `broker_correlation_key` -/
def brokerCorrelationKey (sha256 : HexDigest) (key : String) : String :=
  "gf:" ++ String.ofList ((sha256 key).toList.take 24)

structure TradeExecutor where
  kind : StoreKind
  limits : RiskLimits
  circuitBreaker : Option CircuitBreaker := none
  requireDemoValidationForLive : Bool := true
  minimumDemoTrades : Int := 100
  maximumDemoDrawdown : Decimal := 10 / 100
  minimumDemoProfitFactor : Decimal := 12 / 10
  protectionVisibilityAttempts : Nat := 3
  protectionVisibilityDelaySeconds : Decimal := 25 / 100
  sha256 : HexDigest
  attempts_pos : 1 ≤ protectionVisibilityAttempts
  delay_nonneg : 0 ≤ protectionVisibilityDelaySeconds

/-- `TradeExecutor(...)` with the default settings. -/
def TradeExecutor.default (kind : StoreKind) (limits : RiskLimits) (sha256 : HexDigest) : TradeExecutor :=
  { kind, limits, sha256, attempts_pos := by decide, delay_nonneg := by decide +kernel }

structure ProtectionResult where
  isProtected : Bool
  reason : String
  deriving DecidableEq, Repr

/-- What the assessment of a command hands to the send. -/
structure Approved where
  now : Instant
  request : OrderRequest
  decision : RiskDecision

def blocked (reasons : List String) (request : Option OrderRequest := none) : ExecutionOutcome :=
  { status := .blocked, reasons, request }

namespace TradeExecutor

variable (executor : TradeExecutor)

def store : IdempotencyStore := executor.kind.store

/-! ## Assessment -/

/-- The checks on the signal alone. -/
def entryOf (signal : TradeSignal) (now : Instant) :
    Except ExecutionOutcome (Direction × Decimal) :=
  if signal.action.isEntry = false then
    .error (blocked ["SIGNAL_HAS_NO_ENTRY_DIRECTION"])
  else match signal.direction, signal.stopLoss, signal.takeProfits with
    | some direction, some stopLoss, _ :: _ =>
      if signal.isExpired now then .error (blocked ["SIGNAL_EXPIRED"])
      else .ok (direction, stopLoss)
    | _, _, _ => .error (blocked ["SIGNAL_PROTECTION_INCOMPLETE"])

/-- Broker health and account, under one `except BrokerError`. -/
def openAccount : PyReturning ExecutionOutcome (BrokerHealth × AccountSnapshot) := do
  let opened ← Program.catching (do
      let health ← askBroker .healthCheck
      if !health.healthy || !health.connected then
        pure none
      else do
        let account ← askBroker .getAccount
        pure (some (health, account)))
    PyError.isBroker (fun error => blocked [error.typeName])
  match opened with
  | some found => pure found
  | none => throw (blocked ["BROKER_UNHEALTHY"])

/-- Mode, environment and demo-evidence gates. -/
def authorize (command : ExecutionCommand) (account : AccountSnapshot) :
    PyReturning ExecutionOutcome Unit := do
  let permission ← (Program.ofExcept (evaluateExecutionPermission command.mode command.environment
    account.accountType command.approved command.liveTradingEnabled
    command.configuredLiveConfirmation command.requiredLiveConfirmation) : Py ExecutionPermission)
  Program.returnIf (!permission.allowed) (blocked permission.reasons)
  if command.environment = .production ∧ command.mode = .auto ∧
      executor.requireDemoValidationForLive = true then do
    let demo ← (Program.ofExcept (evaluateDemoPerformance command.demoPerformance
      command.signal.strategyVersion executor.minimumDemoTrades executor.maximumDemoDrawdown
      executor.minimumDemoProfitFactor) : Py DemoValidationDecision)
    Program.returnIf (!demo.allowed) (blocked demo.reasons)
  else
    pure ()

/-- Symbol, quote, price and size. -/
structure Sized where
  spec : SymbolSpecification
  tick : Tick
  price : Decimal
  sizing : PositionSizingResult

def size (command : ExecutionCommand) (direction : Direction) (stopLoss : Decimal)
    (account : AccountSnapshot) : PyReturning ExecutionOutcome Sized :=
  Program.catching (do
      let spec ← askBroker (.resolveSymbol command.signal.canonicalSymbol)
      let tick ← askBroker (.getTick spec.name)
      let price := decimalOr command.requestedPrice (tick.quote direction)
      let sizing ← PositionSizer.calculate account spec direction price stopLoss
        executor.limits.riskPerTrade
      pure { spec, tick, price, sizing : Sized })
    PyError.isSizingRejection (fun error => blocked [error.text])

/-- `f"{account.account_id}:{signal.signal_id}"` -/
def idempotencyKey (account : AccountSnapshot) (signal : TradeSignal) : String :=
  account.accountId ++ ":" ++ signal.signalId.text

def buildRequest (command : ExecutionCommand) (direction : Direction) (stopLoss : Decimal)
    (account : AccountSnapshot) (sized : Sized) : Except PyError OrderRequest :=
  OrderRequest.make command.signal.signalId command.signal.strategyId sized.spec.name direction
    command.orderType sized.sizing.volume stopLoss command.signal.takeProfits
    (idempotencyKey account command.signal) (some sized.price) command.signal.entryMin
    command.signal.entryMax command.signal.expiresAt command.maximumSlippage

def outcomeStatus (record : ExecutionRecord) : ExecutionStatus :=
  match record.status with
  | .claimed | .submitted | .unknown => .unknown
  | .succeeded => if record.request.orderType = .market then .filled else .pending
  | .protectionFailed => .protectionFailed
  | .rejected => .rejected

/-- `_outcome_from_record` -/
def outcomeFromRecord (record : ExecutionRecord) (risk : Option RiskDecision := none) :
    ExecutionOutcome :=
  { status := outcomeStatus record
    reasons := ["DUPLICATE_EXECUTION_SUPPRESSED"]
    request := some record.request
    report := record.report
    risk
    requiresReconciliation :=
      record.status ∈ [.claimed, .submitted, .unknown, .protectionFailed] }

/-- Broker exposure and margin, under one `except BrokerError`. -/
structure Exposure where
  positions : List BrokerPosition
  orders : List BrokerOrder
  availableSymbols : List SymbolSpecification
  marketOpen : Bool
  requiredMargin : Decimal

def readExposure (sized : Sized) (request : OrderRequest) : PyReturning ExecutionOutcome Exposure :=
  Program.catching (do
      let positions ← askBroker (.getPositions none)
      let orders ← askBroker (.getOrders none)
      let availableSymbols ← askBroker .getSymbols
      let marketOpen ← askBroker (.isMarketOpen sized.spec.name)
      let requiredMargin ← askBroker (.calculateMargin request sized.price)
      pure { positions, orders, availableSymbols, marketOpen, requiredMargin : Exposure })
    PyError.isBroker (fun error => blocked [error.typeName] (some request))

/-- `(circuit_locked, kill_switch)` -/
def readCircuit (command : ExecutionCommand) (account : AccountSnapshot) (now : Instant)
    (request : OrderRequest) : PyReturning ExecutionOutcome (Bool × Bool) :=
  match executor.circuitBreaker with
  | none => pure (false, false)
  | some breaker =>
    Program.catching (do
        let circuit ← breaker.evaluate account command.riskUsage now
        pure (circuit.blocksNewTrades, circuit.killSwitch))
      PyError.isRuntime (fun _ => blocked ["CIRCUIT_STATE_UNAVAILABLE"] (some request))

/-- Names of the broker symbols that stand for the canonical symbol. -/
def equivalentSymbols (canonicalSymbol : String) (available : List SymbolSpecification) :
    List String :=
  let canonical := (upper canonicalSymbol).toList
  (available.filter fun item =>
    (upper item.canonicalSymbol).toList == canonical ||
      ((upper item.baseCurrency).toList == canonical.take 3 &&
        (upper item.quoteCurrency).toList == canonical.drop 3)).map (·.name)

def preTradeSnapshot (command : ExecutionCommand) (now : Instant) (health : BrokerHealth)
    (account : AccountSnapshot) (sized : Sized) (exposure : Exposure)
    (circuitLocked killSwitch : Bool) : PreTradeSnapshot :=
  { now, account, health, circuitLocked, killSwitch
    symbol := sized.spec
    tick := sized.tick
    marketOpen := exposure.marketOpen
    sessionAllowed := command.sessionAllowed
    equivalentSymbols := equivalentSymbols command.signal.canonicalSymbol exposure.availableSymbols
    positions := exposure.positions
    orders := exposure.orders
    usage := command.riskUsage
    requiredMargin := exposure.requiredMargin }

/-- Everything before the claim. -/
def assess (command : ExecutionCommand) : PyReturning ExecutionOutcome Approved := do
  let now ← clock
  let (direction, stopLoss) ← ExceptT.mk (pure (entryOf command.signal now))
  let (health, account) ← openAccount
  executor.authorize command account
  let sized ← executor.size command direction stopLoss account
  let request ← (Program.ofExcept (buildRequest command direction stopLoss account sized) :
    Py OrderRequest)
  match ← executor.store.get request.idempotencyKey with
  | some existing => throw (outcomeFromRecord existing)
  | none =>
    let exposure ← readExposure sized request
    let (circuitLocked, killSwitch) ← executor.readCircuit command account now request
    let snapshot :=
      preTradeSnapshot command now health account sized exposure circuitLocked killSwitch
    let decision := RiskGateValidator.validate executor.limits request sized.sizing snapshot
    Program.returnIf (!decision.accepted)
      { blocked decision.reasons (some request) with risk := some decision }
    pure { now, request, decision : Approved }

/-! ## Protection of a fill -/

/-- The position that belongs to a report of this request. -/
def matchesReport (request : OrderRequest) (report : ExecutionReport) (item : BrokerPosition) :
    Bool :=
  some item.ticket == report.brokerTicket || item.signalId == some request.signalId ||
    item.strategyId == brokerCorrelationKey executor.sha256 request.idempotencyKey

/-- The visibility loop of `_verify_or_repair_protection`. -/
def awaitPosition (request : OrderRequest) (report : ExecutionReport) :
    (remaining : Nat) → Py (Option BrokerPosition)
  | 0 => pure none
  | remaining + 1 => do
    -- a `BrokerError` counts as an empty list of positions
    let positions ← Program.catching (askBroker (.getPositions (some request.symbol)))
      PyError.isBroker (fun _ => ([] : List BrokerPosition))
    match (positions.toOption.getD []).find? (executor.matchesReport request report) with
    | some position => pure (some position)
    | none =>
      if remaining = 0 then pure none
      else do
        sleep executor.protectionVisibilityDelaySeconds
        awaitPosition request report remaining

/-- Repair once, or close once; never retry a mutation. -/
def repairOrClose (request : OrderRequest) (ticket : Option String) : Py ProtectionResult :=
  match ticket.filter (· ≠ "") with
  | none => pure { isProtected := false, reason := "POSITION_NOT_VISIBLE_AND_NO_TICKET_TO_PROTECT" }
  | some ticket => do
    let repaired ← Program.catching
      (askBroker (.modifyPosition ticket request.stopLoss (some request.finalTarget)))
      PyError.isBroker (fun _ => false)
    if repaired.toOption.getD false then
      pure { isProtected := true, reason := "broker confirmed protection repair" }
    else do
      let closed ← Program.catching (askBroker (.closePosition ticket none))
        PyError.isUnconfirmedClose (fun _ => "PROTECTION_REPAIR_AND_SAFE_CLOSE_UNCONFIRMED")
      match closed with
      | .error reason => pure { isProtected := false, reason }
      | .ok report =>
        if report.success then
          pure { isProtected := false, reason := "UNPROTECTED_FILL_SAFELY_CLOSED" }
        else
          pure { isProtected := false, reason := "PROTECTION_REPAIR_AND_SAFE_CLOSE_FAILED" }

/-- The position carries exactly the protection the request asked for. -/
def isProtectedAs (request : OrderRequest) (position : BrokerPosition) : Bool :=
  position.stopLoss == request.stopLoss && position.takeProfit == some request.finalTarget

/-- `_verify_or_repair_protection` -/
def verifyOrRepairProtection (request : OrderRequest) (report : ExecutionReport) :
    Py ProtectionResult := do
  match ← executor.awaitPosition request report executor.protectionVisibilityAttempts with
  | some position =>
    if isProtectedAs request position then
      pure { isProtected := true, reason := "broker position protection verified" }
    else
      repairOrClose request (some position.ticket)
  | none => repairOrClose request report.brokerTicket

/-! ## The send -/

/-- `_safe_order_check` -/
def safeOrderCheck (request : OrderRequest) : Py OrderCheckResult := do
  let checked ← Program.catching (askBroker (.validateOrder request)) PyError.isBroker
    fun error => { accepted := false, reasons := ["BROKER_ORDER_CHECK_ERROR:" ++ error.typeName] }
  match checked with
  | .ok check => pure check
  | .error refusal => pure refusal

/-- `place_market_order` or `place_pending_order`, by the request's type. -/
def place (request : OrderRequest) : Py ExecutionReport :=
  if request.orderType = .market then askBroker (.placeMarketOrder request)
  else askBroker (.placePendingOrder request)

/-- One `machine.transition(...)`. -/
def transition (state target : TradeState) (reason : String) : Py StateTransition :=
  Program.ofExcept (TradeStateMachine.transition state target reason)

/-- The outcome of a call that got past the gates. -/
def settled (approved : Approved) (status : ExecutionStatus) (reasons : List String)
    (report : Option ExecutionReport) (transitions : List StateTransition)
    (requiresReconciliation : Bool := false) : ExecutionOutcome :=
  { status, reasons, report, transitions, requiresReconciliation
    request := some approved.request
    risk := some approved.decision }

/-- Record a new status at the current time. -/
def mark (key : String) (status : IdempotencyStatus) (report : Option ExecutionReport)
    (reason : String) : Py ExecutionRecord := do
  let now ← clock
  executor.store.update key status now report reason

/-- `order_send` raised a broker error or timed out: the result is unknown. -/
def settleUnknown (approved : Approved) (transitions : List StateTransition) (error : PyError) :
    Py ExecutionOutcome := do
  let _ ← executor.mark approved.request.idempotencyKey .unknown none error.text
  if error.isIndeterminate then do
    let failed ← transition .orderPending .error "order result is indeterminate"
    pure (settled approved .unknown ["ORDER_RESULT_UNKNOWN_RECONCILIATION_REQUIRED"] none
      (transitions ++ [failed]) true)
  else do
    let failed ← transition .orderPending .error "broker mutation failed"
    pure (settled approved .unknown ["BROKER_MUTATION_ERROR_RECONCILIATION_REQUIRED"] none
      (transitions ++ [failed]) true)

def slippageReasons (request : OrderRequest) (report : ExecutionReport) : List String :=
  reasonIf (report.slippage.any (request.maximumSlippage < ·)) "EXECUTED_SLIPPAGE_EXCEEDED_TOLERANCE"

/-- A market fill counts only once its protection is confirmed. -/
def settleFill (approved : Approved) (transitions : List StateTransition) (report : ExecutionReport) :
    Py ExecutionOutcome := do
  let key := approved.request.idempotencyKey
  let filled ← transition .orderPending .orderFilled "broker confirmed fill"
  let protection ← executor.verifyOrRepairProtection approved.request report
  if protection.isProtected = false then do
    let _ ← executor.mark key .protectionFailed (some report) protection.reason
    let failed ← transition .orderFilled .error "position protection could not be verified"
    pure (settled approved .protectionFailed [protection.reason] (some report)
      (transitions ++ [filled, failed]) true)
  else do
    let _ ← executor.mark key .succeeded (some report) protection.reason
    let opened ← transition .orderFilled .positionOpen protection.reason
    pure (settled approved .filled (slippageReasons approved.request report) (some report)
      (transitions ++ [filled, opened]))

/-- The broker answered the send. -/
def settleReport (approved : Approved) (transitions : List StateTransition)
    (report : ExecutionReport) : Py ExecutionOutcome := do
  let key := approved.request.idempotencyKey
  if report.success = false then do
    let _ ← executor.mark key .rejected (some report) report.message
    let failed ← transition .orderPending .error "broker rejected order_send"
    pure (settled approved .rejected
      [if report.message = "" then "ORDER_REJECTED" else report.message] (some report)
      (transitions ++ [failed]))
  else if approved.request.orderType = .market then
    executor.settleFill approved transitions report
  else do
    let _ ← executor.mark key .succeeded (some report) "broker confirmed pending order"
    pure (settled approved .pending (slippageReasons approved.request report) (some report)
      transitions)

/-- The record becomes `SUBMITTED`, and then the order is sent, once. -/
def send (approved : Approved) (transitions : List StateTransition) : Py ExecutionOutcome := do
  let pending ← transition .entryReady .orderPending "order submission started"
  let _ ← executor.store.update approved.request.idempotencyKey .submitted approved.now none
    "order_send started"
  match ← Program.catching (place approved.request) PyError.isUnconfirmedClose id with
  | .error error => executor.settleUnknown approved (transitions ++ [pending]) error
  | .ok report => executor.settleReport approved (transitions ++ [pending]) report

/-- The claim, the order check and the send of an approved request. -/
def submit (approved : Approved) : Py ExecutionOutcome := do
  let (record, claimed) ← executor.store.claim approved.request approved.now
  if claimed = false then
    pure (outcomeFromRecord record (some approved.decision))
  else do
    let ready ← transition .signalFound .entryReady "pre-trade gates accepted"
    let check ← safeOrderCheck approved.request
    if check.accepted = false then do
      let _ ← executor.store.update approved.request.idempotencyKey .rejected approved.now none
        (", ".intercalate check.reasons)
      let failed ← transition .entryReady .error "broker order_check rejected"
      pure (settled approved .checkRejected check.reasons none [ready, failed])
    else
      executor.send approved [ready]

/-- `_execute_serialized` -/
def executeSerialized (command : ExecutionCommand) : Py ExecutionOutcome := do
  match ← (executor.assess command).run with
  | .error outcome => pure outcome
  | .ok approved => executor.submit approved

def execute (command : ExecutionCommand) : Py ExecutionOutcome :=
  if command.mode = .signal then
    pure { status := .signalOnly, reasons := ["SIGNAL_MODE_NEVER_EXECUTES"] }
  else
    executor.executeSerialized command

/-! ## Reconciliation of an unknown result -/

def matchedPosition (record : ExecutionRecord) (key : String) (positions : List BrokerPosition) :
    Option BrokerPosition :=
  positions.find? fun item =>
    item.signalId == some record.request.signalId ||
      item.strategyId == brokerCorrelationKey executor.sha256 key

def matchedOrder (key : String) (orders : List BrokerOrder) : Option BrokerOrder :=
  orders.find? fun item =>
    item.idempotencyKey == key || item.idempotencyKey == brokerCorrelationKey executor.sha256 key

def stillUnknown (record : ExecutionRecord) (reason : String) : ExecutionOutcome :=
  { status := .unknown
    reasons := [reason]
    request := some record.request
    requiresReconciliation := true }

def reconciledReport (record : ExecutionRecord) (key ticket : String)
    (executedPrice : Option Decimal) (message : String) (now : Instant) : ExecutionReport :=
  { success := true
    idempotencyKey := key
    brokerTicket := some ticket
    requestedPrice := record.request.requestedPrice
    executedPrice
    volume := record.request.volume
    brokerCode := some "RECONCILED"
    message
    submittedAt := now }

/-- The record resolves as `status`. -/
def resolve (key : String) (status : IdempotencyStatus) (report : ExecutionReport)
    (reason : String) : Py ExecutionOutcome := do
  let resolved ← executor.mark key status (some report) reason
  pure (outcomeFromRecord resolved)

/-- A matched broker position goes through the protection check. -/
def resolvePosition (record : ExecutionRecord) (key : String) (position : BrokerPosition) :
    Py ExecutionOutcome := do
  let now ← clock
  let report := reconciledReport record key position.ticket (some position.openPrice)
    "matched broker position" now
  let protection ← executor.verifyOrRepairProtection record.request report
  if protection.isProtected then
    executor.resolve key .succeeded report "reconciled with broker state"
  else
    executor.resolve key .protectionFailed report protection.reason

/-- A matched broker order, without a position, resolves the record at once. -/
def resolveOrder (record : ExecutionRecord) (key : String) (order : BrokerOrder) :
    Py ExecutionOutcome := do
  let now ← clock
  let report := reconciledReport record key order.ticket none "matched broker order" now
  executor.resolve key .succeeded report "reconciled with broker state"

def reconcileUnknown (key : String) : Py ExecutionOutcome := do
  match ← executor.store.get key with
  | none => pure (blocked ["EXECUTION_RECORD_NOT_FOUND"])
  | some record =>
    if record.status ≠ .submitted ∧ record.status ≠ .unknown then
      pure (outcomeFromRecord record)
    else do
      let state ← Program.catching (do
          let positions ← askBroker (.getPositions (some record.request.symbol))
          let orders ← askBroker (.getOrders (some record.request.symbol))
          pure (positions, orders))
        PyError.isBroker
        (fun _ => stillUnknown record "BROKER_UNAVAILABLE_RECONCILIATION_DEFERRED")
      match state with
      | .error deferred => pure deferred
      | .ok (positions, orders) =>
        match executor.matchedPosition record key positions, executor.matchedOrder key orders with
        | some position, _ => executor.resolvePosition record key position
        | none, some order => executor.resolveOrder record key order
        | none, none =>
          pure (stillUnknown record "NO_BROKER_MATCH_YET_RECONCILIATION_REQUIRED")

/-- `cancel_pending_entries` -/
def cancelPendingEntries : Py (List String) := do
  let orders ← askBroker (.getOrders none)
  orders.foldlM (fun cancelled order => do
    let done ← askBroker (.cancelOrder order.ticket)
    pure (if done then cancelled ++ [order.ticket] else cancelled)) []

end TradeExecutor

/-- A call on an executor. -/
inductive ExecutorCall where
  | execute (command : ExecutionCommand)
  | reconcileUnknown (key : String)

def TradeExecutor.call (executor : TradeExecutor) : ExecutorCall → Py ExecutionOutcome
  | .execute command => executor.execute command
  | .reconcileUnknown key => executor.reconcileUnknown key

end GoldFlow
