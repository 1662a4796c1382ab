import GoldFlow.Brokers.Symbols
import GoldFlow.Data.Keyed
import GoldFlow.Risk.Gates
import GoldFlow.World
import Mathlib.Tactic.NormNum

/-! # The mock broker -/

namespace GoldFlow

inductive MockSendBehavior where
  | normal | reject | timeoutBeforeAccept | timeoutAfterAccept
  deriving DecidableEq, Repr

/-- The adapter's state.  Its dictionaries are lists in insertion order. -/
structure MockBroker where
  account : AccountSnapshot
  symbols : List SymbolSpecification
  ticks : List Tick
  now : Instant
  connected : Bool := false
  healthy : Bool := true
  tradingAllowed : Bool := true
  marketOpen : Bool := true
  positionModificationAllowed : Bool := true
  positions : List BrokerPosition := []
  orders : List BrokerOrder := []
  reports : List ExecutionReport := []
  sendBehaviors : List MockSendBehavior := []
  ticketSequence : Nat := 0
  closeCalls : Nat := 0

namespace MockBroker

/-! ## The gold demo account -/

/-- The symbol of `gold_demo`, with its default names and volumes. -/
def goldSpecification : SymbolSpecification where
  name := "XAUUSDm"
  canonicalSymbol := "XAUUSD"
  baseCurrency := "XAU"
  quoteCurrency := "USD"
  point := 1 / 100
  tickSize := 1 / 100
  tickValue := 1
  contractSize := 100
  volumeMin := 1 / 100
  volumeMax := 100
  volumeStep := 1 / 100
  stopsLevelPoints := 10
  point_pos := Demo.hundredth_pos
  tickSize_pos := Demo.hundredth_pos
  contractSize_pos := Demo.hundred_pos
  volumeMin_pos := Demo.hundredth_pos
  volumeStep_pos := Demo.hundredth_pos
  tickValue_nonneg := by norm_num
  volumeMin_le_max := by norm_num

def goldTick (now : Instant) : Tick where
  symbol := "XAUUSDm"
  bid := 2000
  ask := 2000 + 20 / 100
  timestamp := now
  bid_pos := Demo.price_pos
  bid_le_ask := by norm_num

/-- `gold_demo` with its default quotes. -/
def goldDemo (now : Instant) (equity : Decimal := 1000)
    (sendBehaviors : List MockSendBehavior := []) : MockBroker where
  account :=
    { accountId := "demo-1"
      balance := equity
      equity
      freeMargin := equity
      leverage := 500
      accountType := .demo }
  symbols := [goldSpecification]
  ticks := [goldTick now]
  now
  connected := true
  sendBehaviors

/-! ## Reads -/

variable (broker : MockBroker)

def healthCheck : BrokerHealth :=
  { healthy := broker.connected && broker.healthy
    connected := broker.connected
    tradingAllowed := broker.connected && broker.healthy && broker.tradingAllowed }

/-- `_require_connection` -/
def requireConnection : Except PyError Unit :=
  if broker.connected && broker.healthy then .ok ()
  else .error (.broker .unavailable "mock broker is disconnected or unhealthy")

/-- A read that needs the connection. -/
def whenConnected {α : Type} (value : α) : Except PyError α := do
  broker.requireConnection
  pure value

def resolveSymbol (canonicalSymbol : String) : Except PyError SymbolSpecification := do
  broker.requireConnection
  Symbols.resolveSymbol canonicalSymbol broker.symbols

def getTick (symbol : String) : Except PyError Tick := do
  broker.requireConnection
  match broker.ticks.find? (·.symbol == symbol) with
  | some tick => pure tick
  | none => .error (.broker .broker ("no tick is available for " ++ symbol))

def getPositions (symbol : Option String) : Except PyError (List BrokerPosition) :=
  broker.whenConnected (symbol.elim broker.positions fun name =>
    broker.positions.filter (·.symbol == name))

def getOrders (symbol : Option String) : Except PyError (List BrokerOrder) :=
  broker.whenConnected (symbol.elim broker.orders fun name =>
    broker.orders.filter (·.symbol == name))

def isMarketOpen (symbol : String) : Except PyError Bool :=
  broker.whenConnected (broker.marketOpen && broker.symbols.any (·.name == symbol))

/-- `_spec` -/
def specOf (symbol : String) : Except PyError SymbolSpecification :=
  match broker.symbols.find? (·.name == symbol) with
  | some spec => .ok spec
  | none => .error (.broker .broker ("unknown broker symbol " ++ symbol))

def calculateMargin (request : OrderRequest) (price : Decimal) : Except PyError Decimal := do
  broker.requireConnection
  let spec ← broker.specOf request.symbol
  if broker.account.leverage = 0 then
    .error (.broker .broker "account leverage is unavailable")
  else
    pure (price * spec.contractSize * request.volume / broker.account.leverage)

end MockBroker

/-- The arithmetic of `MockBrokerAdapter.calculate_profit`. -/
def SymbolSpecification.profit (spec : SymbolSpecification) (direction : Direction)
    (volume openPrice closePrice : Decimal) : Decimal :=
  (closePrice - openPrice) / spec.tickSize * spec.tickValue * volume * direction.sign

namespace MockBroker

variable (broker : MockBroker)

def calculateProfit (symbol : String) (direction : Direction)
    (volume openPrice closePrice : Decimal) : Except PyError Decimal := do
  broker.requireConnection
  let spec ← broker.specOf symbol
  if spec.tickValue ≤ 0 then
    .error (.broker .broker ("tick value is unavailable for " ++ symbol))
  else
    pure (spec.profit direction volume openPrice closePrice)

/-- `request.requested_price or (tick.ask if LONG else tick.bid)` -/
def entryPrice (request : OrderRequest) (tick : Tick) : Decimal :=
  decimalOr request.requestedPrice (tick.quote request.direction)

/-- The volume and protection reasons of `validate_order`. -/
def orderReasons (spec : SymbolSpecification) (request : OrderRequest) (price : Decimal) :
    List String :=
  (if request.volume < spec.volumeMin ∨ spec.volumeMax < request.volume then ["INVALID_VOLUME"]
    else reasonIf (!((request.volume - spec.volumeMin) / spec.volumeStep).isInt)
      "INVALID_VOLUME_STEP") ++
  (match request.direction with
    | .long =>
      reasonIf (price ≤ request.stopLoss || request.takeProfits.any (· ≤ price))
        "INVALID_PROTECTION_SIDE" ++
      reasonIf (price - request.stopLoss < spec.point * spec.stopsLevelPoints) "STOP_TOO_CLOSE"
    | .short =>
      reasonIf (request.stopLoss ≤ price || request.takeProfits.any (price ≤ ·))
        "INVALID_PROTECTION_SIDE" ++
      reasonIf (request.stopLoss - price < spec.point * spec.stopsLevelPoints) "STOP_TOO_CLOSE")

def validateOrder (request : OrderRequest) : Except PyError OrderCheckResult :=
  match broker.specOf request.symbol, broker.getTick request.symbol with
  | .ok spec, .ok tick => do
    let marketOpen ← broker.isMarketOpen request.symbol
    let price := entryPrice request tick
    let margin ← broker.calculateMargin request price
    let reasons :=
      reasonIf (!broker.healthCheck.tradingAllowed) "BROKER_UNHEALTHY" ++
      reasonIf (!marketOpen) "MARKET_CLOSED" ++
      orderReasons spec request price ++
      reasonIf (broker.account.freeMargin < margin) "INSUFFICIENT_MARGIN"
    pure { accepted := reasons.isEmpty, reasons }
  | _, _ => .ok { accepted := false, reasons := ["SYMBOL_OR_TICK_UNAVAILABLE"] }

/-! ## Mutations -/

/-- `seed_order`: an order the broker works on by itself. -/
def seedOrder (order : BrokerOrder) : MockBroker :=
  { broker with orders := Data.upsert BrokerOrder.ticket order broker.orders }

def rejection (request : OrderRequest) (check : OrderCheckResult) : ExecutionReport :=
  let reasons := ", ".intercalate check.reasons
  { success := false
    idempotencyKey := request.idempotencyKey
    brokerTicket := none
    requestedPrice := request.requestedPrice
    executedPrice := none
    volume := request.volume
    brokerCode := some "MOCK_REJECT"
    message := if reasons = "" then "scripted rejection" else reasons
    submittedAt := broker.now }

def acceptance (request : OrderRequest) (pending : Bool) (ticket : String) (price : Decimal) :
    ExecutionReport :=
  { success := true
    idempotencyKey := request.idempotencyKey
    brokerTicket := some ticket
    requestedPrice := request.requestedPrice
    executedPrice := if pending then none else some price
    volume := request.volume
    brokerCode := some (if pending then "MOCK_PLACED" else "MOCK_FILLED")
    message := if pending then "pending order placed" else "market order filled"
    submittedAt := broker.now }

/-- The order or the position of an accepted request. -/
def book (request : OrderRequest) (pending : Bool) (ticket : String) (price : Decimal) :
    Except PyError MockBroker :=
  if pending then
    let order : BrokerOrder :=
      { ticket
        symbol := request.symbol
        direction := request.direction
        orderType := request.orderType
        volume := request.volume
        price
        stopLoss := request.stopLoss
        takeProfit := some request.finalTarget
        status := .pending
        createdAt := broker.now
        idempotencyKey := request.idempotencyKey }
    .ok { broker with orders := Data.upsert BrokerOrder.ticket order broker.orders }
  else do
    let position ← BrokerPosition.make ticket request.symbol request.direction request.volume price
      price request.stopLoss (some request.finalTarget) 0 broker.now request.strategyId
      (some request.signalId)
    pure { broker with positions := Data.upsert BrokerPosition.ticket position broker.positions }

/-- An accepted send; the answer may be lost. -/
def accept (request : OrderRequest) (pending : Bool) (behavior : MockSendBehavior) (tick : Tick) :
    Except PyError ExecutionReport × MockBroker :=
  let price := entryPrice request tick
  let sequence := broker.ticketSequence + 1
  let ticket := (if pending then "O" else "P") ++ toString sequence
  let report := broker.acceptance request pending ticket price
  let numbered := { broker with
    ticketSequence := sequence
    reports := broker.reports ++ [report] }
  match numbered.book request pending ticket price with
  | .error error => (.error error, numbered)
  | .ok booked =>
    if behavior = .timeoutAfterAccept then
      (.error (.broker .indeterminate "mock order accepted but response was lost"), booked)
    else
      (.ok report, booked)

/-- `_place` -/
def place (request : OrderRequest) (pending : Bool) : Except PyError ExecutionReport × MockBroker :=
  match broker.reports.find? (·.idempotencyKey == request.idempotencyKey) with
  | some existing => (.ok existing, broker)
  | none =>
    let behavior := broker.sendBehaviors.head?.getD .normal
    let taken := { broker with sendBehaviors := broker.sendBehaviors.tail }
    if behavior = .timeoutBeforeAccept then
      (.error (.broker .indeterminate "mock response timed out before acceptance was known"), taken)
    else
      match taken.validateOrder request, taken.getTick request.symbol with
      | .error error, _ => (.error error, taken)
      | .ok check, tick =>
        if check.accepted = false ∨ behavior = .reject then
          (.ok (taken.rejection request check), taken)
        else
          match tick with
          | .error error => (.error error, taken)
          | .ok tick => taken.accept request pending behavior tick

def placeMarketOrder (request : OrderRequest) : Except PyError ExecutionReport × MockBroker :=
  if request.orderType ≠ .market then
    (.error (.broker .broker "market placement requires a MARKET request"), broker)
  else
    broker.place request false

def placePendingOrder (request : OrderRequest) : Except PyError ExecutionReport × MockBroker :=
  if request.orderType = .market then
    (.error (.broker .broker "pending placement requires LIMIT or STOP"), broker)
  else if request.requestedPrice = none then
    (.error (.broker .broker "pending orders require a requested price"), broker)
  else
    broker.place request true

/-- `replace(position, stop_loss=…, take_profit=…)` -/
def reprotect (position : BrokerPosition) (stopLoss : Decimal) (takeProfit : Option Decimal)
    (positive : 0 < stopLoss) : BrokerPosition :=
  { position with stopLoss, takeProfit, stopLoss_pos := positive }

def modifyPosition (ticket : String) (stopLoss : Decimal) (takeProfit : Option Decimal) :
    Except PyError Bool × MockBroker :=
  match broker.requireConnection with
  | .error error => (.error error, broker)
  | .ok () =>
    if positive : 0 < stopLoss then
      if broker.positions.any (·.ticket == ticket) && broker.positionModificationAllowed then
        (.ok true, { broker with
          positions := broker.positions.map fun position =>
            if position.ticket = ticket then reprotect position stopLoss takeProfit positive
            else position })
      else (.ok false, broker)
    else (.ok false, broker)

/-- `replace(position, volume=position.volume - close_volume)` -/
def reduce (position : BrokerPosition) (closed : Decimal) (remains : closed < position.volume) :
    BrokerPosition :=
  { position with volume := position.volume - closed, volume_pos := sub_pos.mpr remains }

def closeReport (position : BrokerPosition) (volume : Decimal) : ExecutionReport :=
  { success := true
    idempotencyKey := "close:" ++ position.ticket ++ ":" ++ toString (broker.closeCalls + 1)
    brokerTicket := some position.ticket
    requestedPrice := some position.currentPrice
    executedPrice := some position.currentPrice
    volume
    brokerCode := some "MOCK_CLOSED"
    message := "position closed"
    submittedAt := broker.now }

def notFound (ticket : String) : ExecutionReport :=
  { success := false
    idempotencyKey := "close:" ++ ticket
    brokerTicket := some ticket
    requestedPrice := none
    executedPrice := none
    volume := 0
    brokerCode := some "MOCK_NOT_FOUND"
    message := "position not found"
    submittedAt := broker.now }

def closePosition (ticket : String) (volume : Option Decimal) :
    Except PyError ExecutionReport × MockBroker :=
  match broker.requireConnection with
  | .error error => (.error error, broker)
  | .ok () =>
    let called := { broker with closeCalls := broker.closeCalls + 1 }
    match broker.positions.find? (·.ticket == ticket) with
    | none => (.ok (broker.notFound ticket), called)
    | some position =>
      let closed := decimalOr volume position.volume
      if closed ≤ 0 ∨ position.volume < closed then
        (.error (.broker .broker "close volume is outside the open position volume"), called)
      else if remains : closed < position.volume then
        (.ok (broker.closeReport position closed), { called with
          positions := Data.upsert BrokerPosition.ticket (reduce position closed remains) broker.positions })
      else
        (.ok (broker.closeReport position closed), { called with
          positions := broker.positions.filter (·.ticket != ticket) })

def cancelOrder (ticket : String) : Except PyError Bool × MockBroker :=
  match broker.requireConnection with
  | .error error => (.error error, broker)
  | .ok () =>
    (.ok (broker.orders.any (·.ticket == ticket)),
      { broker with orders := broker.orders.filter (·.ticket != ticket) })

/-! ## The broker port -/

def respond : (op : BrokerOp) → Except PyError op.Value × MockBroker
  | .healthCheck => (.ok broker.healthCheck, broker)
  | .getAccount => (broker.whenConnected broker.account, broker)
  | .getSymbols => (broker.whenConnected broker.symbols, broker)
  | .resolveSymbol canonicalSymbol => (broker.resolveSymbol canonicalSymbol, broker)
  | .getTick symbol => (broker.getTick symbol, broker)
  | .getPositions symbol => (broker.getPositions symbol, broker)
  | .getOrders symbol => (broker.getOrders symbol, broker)
  | .isMarketOpen symbol => (broker.isMarketOpen symbol, broker)
  | .averageTrueRange _ => (broker.whenConnected none, broker)
  | .calculateMargin request price => (broker.calculateMargin request price, broker)
  | .calculateProfit symbol direction volume openPrice closePrice =>
    (broker.calculateProfit symbol direction volume openPrice closePrice, broker)
  | .validateOrder request => (broker.validateOrder request, broker)
  | .placeMarketOrder request => broker.placeMarketOrder request
  | .placePendingOrder request => broker.placePendingOrder request
  | .modifyPosition ticket stopLoss takeProfit => broker.modifyPosition ticket stopLoss takeProfit
  | .closePosition ticket volume => broker.closePosition ticket volume
  | .cancelOrder ticket => broker.cancelOrder ticket

section Answers

theorem anyAnswer_bind {α β : Type} {first : Except PyError α} {next : α → Except PyError β}
    (begins : AnyAnswer first) (rest : ∀ value, AnyAnswer (next value)) : AnyAnswer (first >>= next) := by
  cases begins with
  | value value => exact rest value
  | fault raised => exact .fault raised

theorem fault_of_any {α : Type} {result : Except PyError α} {error : PyError}
    (any : AnyAnswer result) (failed : result = .error error) : error.isFault = true := by
  subst failed
  cases any with
  | fault raised => exact raised

variable {broker}

theorem requireConnection_any : AnyAnswer broker.requireConnection := by
  unfold requireConnection
  split
  · exact .value _
  · exact .fault rfl

theorem whenConnected_any {α : Type} (value : α) : AnyAnswer (broker.whenConnected value) :=
  anyAnswer_bind requireConnection_any fun _ => .value _

theorem specOf_any (symbol : String) : AnyAnswer (broker.specOf symbol) := by
  unfold specOf
  split
  · exact .value _
  · exact .fault rfl

theorem getTick_any (symbol : String) : AnyAnswer (broker.getTick symbol) := by
  refine anyAnswer_bind requireConnection_any fun _ => ?_
  split
  · exact .value _
  · exact .fault rfl

theorem calculateMargin_any (request : OrderRequest) (price : Decimal) :
    AnyAnswer (broker.calculateMargin request price) := by
  refine anyAnswer_bind requireConnection_any fun _ => ?_
  refine anyAnswer_bind (specOf_any _) fun spec => ?_
  split
  · exact .fault rfl
  · exact .value _

theorem calculateProfit_any (symbol : String) (direction : Direction) (volume openPrice closePrice : Decimal) :
    AnyAnswer (broker.calculateProfit symbol direction volume openPrice closePrice) := by
  refine anyAnswer_bind requireConnection_any fun _ => ?_
  refine anyAnswer_bind (specOf_any _) fun spec => ?_
  split
  · exact .fault rfl
  · exact .value _

theorem validateOrder_any (request : OrderRequest) : AnyAnswer (broker.validateOrder request) := by
  unfold validateOrder
  split
  · refine anyAnswer_bind (whenConnected_any _) fun marketOpen => ?_
    exact anyAnswer_bind (calculateMargin_any _ _) fun margin => .value _
  · exact .value _

theorem canonicalizeSymbol_any (value : String) : AnyAnswer (Symbols.canonicalizeSymbol value) := by
  unfold Symbols.canonicalizeSymbol
  dsimp only
  generalize (if upper (compact value) = "GOLD" then "XAUUSD" else upper (compact value)) = canonical
  split
  · exact .fault rfl
  · exact .value _

theorem resolveSymbol_any (canonicalSymbol : String) : AnyAnswer (broker.resolveSymbol canonicalSymbol) := by
  have resolved : AnyAnswer (Symbols.resolveSymbol canonicalSymbol broker.symbols) := by
    have canonicalized := canonicalizeSymbol_any canonicalSymbol
    unfold Symbols.resolveSymbol
    generalize Symbols.canonicalizeSymbol canonicalSymbol = result at canonicalized ⊢
    cases canonicalized with
    | fault raised => exact .fault raised
    | value =>
      simp only [bind, Except.bind]
      split
      · exact .fault rfl
      · split
        · exact .value _
        · exact .fault rfl
  exact anyAnswer_bind requireConnection_any fun _ => resolved

theorem book_any (request : OrderRequest) (pending : Bool) (ticket : String) (price : Decimal) :
    AnyAnswer (broker.book request pending ticket price) := by
  unfold book BrokerPosition.make
  split
  · exact .value _
  · split
    · exact .value _
    · exact .fault rfl

theorem accept_any (request : OrderRequest) (pending : Bool) (behavior : MockSendBehavior)
    (tick : Tick) : AnyAnswer (broker.accept request pending behavior tick).1 := by
  unfold accept
  dsimp only
  split
  next error failed =>
    exact .fault <| fault_of_any (book_any _ _ _ _) failed
  next booked _ =>
    split
    · exact .fault rfl
    · exact .value _

theorem place_any (request : OrderRequest) (pending : Bool) : AnyAnswer (broker.place request pending).1 := by
  unfold place
  split
  · exact .value _
  · dsimp only
    split
    · exact .fault rfl
    · split
      next error failed =>
        exact .fault <| fault_of_any (validateOrder_any _) failed
      next check tick _ =>
        split
        · exact .value _
        · split
          next error unavailable =>
            exact .fault <| fault_of_any (getTick_any _) unavailable
          next => exact accept_any request pending _ _

theorem respond_any (op : BrokerOp) : AnyAnswer (broker.respond op).1 := by
  cases op with
  | healthCheck => exact .value _
  | getAccount => exact whenConnected_any _
  | getSymbols => exact whenConnected_any _
  | resolveSymbol canonicalSymbol => exact resolveSymbol_any canonicalSymbol
  | getTick symbol => exact getTick_any symbol
  | getPositions => exact whenConnected_any _
  | getOrders => exact whenConnected_any _
  | isMarketOpen => exact whenConnected_any _
  | averageTrueRange => exact whenConnected_any _
  | calculateMargin request price => exact calculateMargin_any request price
  | calculateProfit symbol direction volume openPrice closePrice =>
    exact calculateProfit_any symbol direction volume openPrice closePrice
  | validateOrder request => exact validateOrder_any request
  | placeMarketOrder request =>
    simp only [respond, placeMarketOrder]
    split
    · exact .fault rfl
    · exact place_any request false
  | placePendingOrder request =>
    simp only [respond, placePendingOrder]
    split
    · exact .fault rfl
    · split
      · exact .fault rfl
      · exact place_any request true
  | modifyPosition =>
    simp only [respond, modifyPosition]
    split
    next error failed => exact .fault <| fault_of_any requireConnection_any failed
    next =>
      split
      · split <;> exact .value _
      · exact .value _
  | closePosition =>
    simp only [respond, closePosition]
    split
    next error failed => exact .fault <| fault_of_any requireConnection_any failed
    next =>
      split
      · exact .value _
      · split
        · exact .fault rfl
        · split <;> exact .value _
  | cancelOrder =>
    simp only [respond, cancelOrder]
    split
    next error failed => exact .fault <| fault_of_any requireConnection_any failed
    next => exact .value _

end Answers

end MockBroker

end GoldFlow
