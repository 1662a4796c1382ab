import GoldFlow.Data.Rounding
import Mathlib.Algebra.Order.Field.Rat

/-! # Value objects

The enumerations, errors and immutable records of `app/domain` and `app/brokers/base`.
-/

namespace GoldFlow

abbrev Decimal := ℚ

/-- The result of an operation in the default context of `decimal`. -/
abbrev Decimal.rounded : Decimal → Decimal := Data.toPrecision 28

/-- UTC instant, in microseconds. -/
abbrev Instant := Int

/-- `timedelta`, in microseconds. -/
abbrev Duration := Int

def seconds (count : Int) : Duration := count * 1000000

structure UUID where
  text : String
  deriving DecidableEq, Repr

/-- The characters `str.strip` removes. -/
def isSpace (character : Char) : Bool :=
  let code := character.toNat
  (9 ≤ code && code ≤ 13) || (28 ≤ code && code ≤ 32) || code == 0x85 || code == 0xa0 ||
    code == 0x1680 || (0x2000 ≤ code && code ≤ 0x200a) || code == 0x2028 || code == 0x2029 ||
    code == 0x202f || code == 0x205f || code == 0x3000

/-- `not text.strip()` -/
def isBlank (text : String) : Bool := text.toList.all isSpace

/-! ## Enumerations -/

inductive TradingMode where
  | signal | semiAuto | auto
  deriving DecidableEq, Repr

inductive TradingEnvironment where
  | development | test | backtest | demo | production
  deriving DecidableEq, Repr

inductive AccountType where
  | demo | real | unknown
  deriving DecidableEq, Repr

inductive SignalAction where
  | long | short | wait | exit
  deriving DecidableEq, Repr

inductive Direction where
  | long | short
  deriving DecidableEq, Repr

def Direction.sign : Direction → Decimal
  | .long => 1
  | .short => -1

inductive SignalStatus where
  | active | approvalRequired | approved | executed | rejected | expired | cancelled | error
  deriving DecidableEq, Repr

inductive OrderType where
  | market | limit | stop
  deriving DecidableEq, Repr

inductive OrderStatus where
  | pending | filled | partiallyFilled | cancelled | rejected
  deriving DecidableEq, Repr

inductive TradeState where
  | scanning | signalFound | waitingForEntry | entryReady | orderPending | orderFilled
  | positionOpen | tp1Hit | breakEven | closing | closed | stoppedOut | expired | cancelled
  | error
  deriving DecidableEq, Repr

def TradeState.name : TradeState → String
  | .scanning => "SCANNING"
  | .signalFound => "SIGNAL_FOUND"
  | .waitingForEntry => "WAITING_FOR_ENTRY"
  | .entryReady => "ENTRY_READY"
  | .orderPending => "ORDER_PENDING"
  | .orderFilled => "ORDER_FILLED"
  | .positionOpen => "POSITION_OPEN"
  | .tp1Hit => "TP1_HIT"
  | .breakEven => "BREAK_EVEN"
  | .closing => "CLOSING"
  | .closed => "CLOSED"
  | .stoppedOut => "STOPPED_OUT"
  | .expired => "EXPIRED"
  | .cancelled => "CANCELLED"
  | .error => "ERROR"

inductive IdempotencyStatus where
  | claimed | submitted | succeeded | protectionFailed | rejected | unknown
  deriving DecidableEq, Repr

def IdempotencyStatus.name : IdempotencyStatus → String
  | .claimed => "CLAIMED"
  | .submitted => "SUBMITTED"
  | .succeeded => "SUCCEEDED"
  | .protectionFailed => "PROTECTION_FAILED"
  | .rejected => "REJECTED"
  | .unknown => "UNKNOWN"

/-! ## Errors -/

/-- The classes below `BrokerError`. -/
inductive BrokerErrorKind where
  | broker | unavailable | unsupported | symbolResolution | indeterminate | unprotected
  deriving DecidableEq, Repr

def BrokerErrorKind.name : BrokerErrorKind → String
  | .broker => "BrokerError"
  | .unavailable => "BrokerUnavailableError"
  | .unsupported => "BrokerOperationUnsupported"
  | .symbolResolution => "SymbolResolutionError"
  | .indeterminate => "IndeterminateBrokerResult"
  | .unprotected => "UnprotectedPositionError"

/-- A raised exception. The store's refusal of a status change, a `RuntimeError`, has a constructor of its own.
-/
inductive PyError where
  | broker (kind : BrokerErrorKind) (message : String)
  | riskRejected (message : String)
  | timeout (message : String)
  | value (message : String)
  | runtime (message : String)
  | invalidTransition (current target : IdempotencyStatus)
  | key (message : String)
  | integrity (message : String)
  | configuration (message : String)
  | stateTransition (current target : TradeState)
  | permission (message : String)
  | http (status : Nat) (detail : String)
  | other (name : String) (message : String)
  deriving DecidableEq, Repr

namespace PyError

def isBroker : PyError → Bool
  | .broker _ _ => true
  | _ => false

def isRuntime : PyError → Bool
  | .runtime _ | .invalidTransition _ _ => true
  | _ => false

/-- `except (IndeterminateBrokerResult, TimeoutError)` -/
def isIndeterminate : PyError → Bool
  | .broker .indeterminate _ | .timeout _ => true
  | _ => false

/-- `except (BrokerError, RiskRejectedError, ValueError)` -/
def isSizingRejection : PyError → Bool
  | .broker _ _ | .riskRejected _ | .value _ => true
  | _ => false

/-- `except (BrokerError, IndeterminateBrokerResult, TimeoutError)` -/
def isUnconfirmedClose : PyError → Bool
  | .broker _ _ | .timeout _ => true
  | _ => false

/-- `except (BrokerError, OSError, TimeoutError)` -/
def isUnavailable : PyError → Bool
  | .broker _ _ | .timeout _ => true
  | .other name _ => name = "OSError"
  | _ => false

def isConfiguration : PyError → Bool
  | .configuration _ => true
  | _ => false

/-- `type(exc).__name__` -/
def typeName : PyError → String
  | .broker kind _ => kind.name
  | .riskRejected _ => "RiskRejectedError"
  | .timeout _ => "TimeoutError"
  | .value _ => "ValueError"
  | .runtime _ | .invalidTransition _ _ => "RuntimeError"
  | .key _ => "KeyError"
  | .integrity _ => "IntegrityError"
  | .configuration _ => "ConfigurationError"
  | .stateTransition _ _ => "InvalidStateTransition"
  | .permission _ => "PermissionError"
  | .http _ _ => "HTTPException"
  | .other name _ => name

/-- `str(exc)` -/
def text : PyError → String
  | .broker _ message | .riskRejected message | .timeout message | .value message
  | .runtime message | .key message | .integrity message | .configuration message
  | .permission message | .http _ message | .other _ message => message
  | .invalidTransition current target =>
    "invalid idempotency transition " ++ current.name ++ " -> " ++ target.name
  | .stateTransition current target =>
    "cannot transition " ++ current.name ++ " -> " ++ target.name

end PyError

/-! ## Market and account records -/

structure Tick where
  symbol : String
  bid : Decimal
  ask : Decimal
  timestamp : Instant
  bid_pos : 0 < bid
  bid_le_ask : bid ≤ ask

def Tick.spread (tick : Tick) : Decimal := tick.ask - tick.bid

structure SymbolSpecification where
  name : String
  canonicalSymbol : String
  baseCurrency : String
  quoteCurrency : String
  point : Decimal
  tickSize : Decimal
  tickValue : Decimal
  contractSize : Decimal
  volumeMin : Decimal
  volumeMax : Decimal
  volumeStep : Decimal
  stopsLevelPoints : Int := 0
  tradeEnabled : Bool := true
  point_pos : 0 < point
  tickSize_pos : 0 < tickSize
  contractSize_pos : 0 < contractSize
  volumeMin_pos : 0 < volumeMin
  volumeStep_pos : 0 < volumeStep
  tickValue_nonneg : 0 ≤ tickValue
  volumeMin_le_max : volumeMin ≤ volumeMax

structure AccountSnapshot where
  accountId : String
  balance : Decimal
  equity : Decimal
  freeMargin : Decimal
  leverage : Nat
  accountType : AccountType
  deriving DecidableEq, Repr

structure BrokerHealth where
  healthy : Bool
  connected : Bool
  tradingAllowed : Bool
  deriving DecidableEq, Repr

/-! ## Signals, requests and reports -/

def SignalAction.isEntry : SignalAction → Bool
  | .long | .short => true
  | .wait | .exit => false

structure TradeSignal where
  symbol : String
  canonicalSymbol : String
  action : SignalAction
  strategyId : String
  strategyVersion : String
  entryMin : Option Decimal
  entryMax : Option Decimal
  stopLoss : Option Decimal
  takeProfits : List Decimal := []
  riskReward : Option Decimal := none
  status : SignalStatus := .active
  createdAt : Instant
  expiresAt : Option Instant := none
  signalId : UUID
  expires_after_creation : ∀ expiry, expiresAt = some expiry → createdAt < expiry
  entry_has_bounds : action.isEntry = true →
    entryMin.isSome = true ∧ entryMax.isSome = true ∧ stopLoss.isSome = true
  bounds_ordered : action.isEntry = true →
    ∀ low high, entryMin = some low → entryMax = some high → low ≤ high

/-- `TradeSignal(...)`: the constructor with the checks of `__post_init__`. -/
def TradeSignal.make (symbol canonicalSymbol : String) (action : SignalAction)
    (strategyId strategyVersion : String) (confidenceScore : Int)
    (entryMin entryMax stopLoss : Option Decimal) (takeProfits : List Decimal)
    (riskReward : Option Decimal) (status : SignalStatus) (createdAt : Instant)
    (expiresAt : Option Instant) (signalId : UUID) : Except PyError TradeSignal :=
  if lasting : ∀ expiry, expiresAt = some expiry → createdAt < expiry then
    if 0 ≤ confidenceScore ∧ confidenceScore ≤ 100 then
      if bounded : action.isEntry = true →
          entryMin.isSome = true ∧ entryMax.isSome = true ∧ stopLoss.isSome = true then
        if ordered : action.isEntry = true → ∀ low ∈ entryMin, ∀ high ∈ entryMax, low ≤ high then
          .ok {
            symbol, canonicalSymbol, action, strategyId, strategyVersion, entryMin, entryMax,
            stopLoss, takeProfits, riskReward, status, createdAt, expiresAt, signalId
            expires_after_creation := lasting
            entry_has_bounds := bounded
            bounds_ordered := fun entry low high lowIs highIs => ordered entry low lowIs high highIs }
        else .error (.value "entry_min cannot exceed entry_max")
      else .error (.value "trade signals require entry bounds and stop loss")
    else .error (.value "confidence score must be between 0 and 100")
  else .error (.value "signal expiry must be after creation")

def TradeSignal.direction (signal : TradeSignal) : Option Direction :=
  match signal.action with
  | .long => some .long
  | .short => some .short
  | .wait | .exit => none

def TradeSignal.isExpired (signal : TradeSignal) (now : Instant) : Bool :=
  match signal.expiresAt with
  | some expiry => decide (now ≥ expiry)
  | none => false

structure OrderRequest where
  signalId : UUID
  strategyId : String
  symbol : String
  direction : Direction
  orderType : OrderType
  volume : Decimal
  stopLoss : Decimal
  takeProfits : List Decimal
  idempotencyKey : String
  requestedPrice : Option Decimal := none
  entryMin : Option Decimal := none
  entryMax : Option Decimal := none
  expiresAt : Option Instant := none
  maximumSlippage : Decimal := 0
  comment : String := "goldflow"
  volume_pos : 0 < volume
  stopLoss_pos : 0 < stopLoss
  takeProfits_nonempty : takeProfits ≠ []
  takeProfits_pos : ∀ target ∈ takeProfits, 0 < target
  key_nonblank : isBlank idempotencyKey = false

/-- `OrderRequest(...)`: the constructor with the checks of `__post_init__`. -/
def OrderRequest.make (signalId : UUID) (strategyId symbol : String) (direction : Direction)
    (orderType : OrderType) (volume stopLoss : Decimal) (takeProfits : List Decimal)
    (idempotencyKey : String) (requestedPrice entryMin entryMax : Option Decimal)
    (expiresAt : Option Instant) (maximumSlippage : Decimal) (comment : String := "goldflow") :
    Except PyError OrderRequest :=
  if sized : 0 < volume ∧ 0 < stopLoss then
    if targeted : takeProfits ≠ [] ∧ ∀ target ∈ takeProfits, 0 < target then
      if keyed : isBlank idempotencyKey = false then
        .ok {
          signalId, strategyId, symbol, direction, orderType, volume, stopLoss, takeProfits,
          idempotencyKey, requestedPrice, entryMin, entryMax, expiresAt, maximumSlippage, comment
          volume_pos := sized.1
          stopLoss_pos := sized.2
          takeProfits_nonempty := targeted.1
          takeProfits_pos := targeted.2
          key_nonblank := keyed }
      else .error (.value "idempotency key is required")
    else .error (.value "at least one positive take profit is required")
  else .error (.value "order volume and stop loss must be positive")

/-- `request.take_profits[-1]` -/
def OrderRequest.finalTarget (request : OrderRequest) : Decimal :=
  request.takeProfits.getLast request.takeProfits_nonempty

structure OrderCheckResult where
  accepted : Bool
  reasons : List String := []
  deriving DecidableEq, Repr

structure ExecutionReport where
  success : Bool
  idempotencyKey : String
  brokerTicket : Option String
  requestedPrice : Option Decimal
  executedPrice : Option Decimal
  volume : Decimal
  brokerCode : Option String := none
  message : String := ""
  submittedAt : Instant
  deriving DecidableEq, Repr

def ExecutionReport.slippage (report : ExecutionReport) : Option Decimal :=
  match report.requestedPrice, report.executedPrice with
  | some requested, some executed => some |executed - requested|
  | _, _ => none

/-! ## Broker state -/

structure BrokerPosition where
  ticket : String
  symbol : String
  direction : Direction
  volume : Decimal
  openPrice : Decimal
  currentPrice : Decimal
  stopLoss : Decimal
  takeProfit : Option Decimal
  profit : Decimal
  openedAt : Instant
  strategyId : String := ""
  signalId : Option UUID := none
  volume_pos : 0 < volume
  openPrice_pos : 0 < openPrice
  stopLoss_pos : 0 < stopLoss

/-- `BrokerPosition(...)`: the constructor with the checks of `__post_init__`. -/
def BrokerPosition.make (ticket symbol : String) (direction : Direction)
    (volume openPrice currentPrice stopLoss : Decimal) (takeProfit : Option Decimal)
    (profit : Decimal) (openedAt : Instant) (strategyId : String) (signalId : Option UUID) :
    Except PyError BrokerPosition :=
  if valid : 0 < volume ∧ 0 < openPrice ∧ 0 < stopLoss then
    .ok {
      ticket, symbol, direction, volume, openPrice, currentPrice, stopLoss, takeProfit, profit,
      openedAt, strategyId, signalId
      volume_pos := valid.1
      openPrice_pos := valid.2.1
      stopLoss_pos := valid.2.2 }
  else .error (.value "broker position has invalid protected trade values")

structure BrokerOrder where
  ticket : String
  symbol : String
  direction : Direction
  orderType : OrderType
  volume : Decimal
  price : Decimal
  stopLoss : Decimal
  takeProfit : Option Decimal
  status : OrderStatus
  createdAt : Instant
  idempotencyKey : String := ""
  deriving DecidableEq, Repr

namespace Demo

theorem lot_pos : (0 : Decimal) < 1 := by decide +kernel

theorem tenth_pos : (0 : Decimal) < 1 / 10 := by decide +kernel

theorem hundredth_pos : (0 : Decimal) < 1 / 100 := by decide +kernel

theorem hundred_pos : (0 : Decimal) < 100 := by decide +kernel

theorem price_pos : (0 : Decimal) < 2000 := by decide +kernel

theorem stop_pos : (0 : Decimal) < 1990 := by decide +kernel

end Demo

end GoldFlow
