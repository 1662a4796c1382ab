import GoldFlow.Verified.StoreCalls

/-! # What an assessment has established

`TradeExecutor.assess` gives up at the first check that fails.
-/

namespace GoldFlow

open Effect TradeExecutor

structure Clearance where
  now : Instant
  health : BrokerHealth
  account : AccountSnapshot
  direction : Direction
  stopLoss : Decimal
  sized : Sized
  exposure : Exposure
  circuitLocked : Bool
  killSwitch : Bool

def Clearance.snapshot (clearance : Clearance) (command : ExecutionCommand) : PreTradeSnapshot :=
  preTradeSnapshot command clearance.now clearance.health clearance.account clearance.sized
    clearance.exposure clearance.circuitLocked clearance.killSwitch

def CircuitShown (history : List PortEvent) (accountId : String) (state : CircuitState) : Prop :=
  Returned history (.circuit (.load accountId)) (some state) ∨
  (∃ saved version, Returned history (.circuit (.save saved version)) state) ∨
  (Returned history (.circuit (.load accountId)) none ∧ state.blocksNewTrades = false)

structure SizedWithin (history : List PortEvent) (account : AccountSnapshot) (symbol : String)
    (direction : Direction) (price stopLoss riskFraction : Decimal) (sizing : PositionSizingResult) :
    Prop where
  loss : ∃ profit, Returned history
    (.broker (.calculateProfit symbol direction sizing.volume price stopLoss)) profit ∧
    |profit| = sizing.cashRisk
  positive : 0 < sizing.cashRisk
  within : sizing.cashRisk ≤ account.equity * riskFraction
  priced : 0 < price

structure ExposureRead (history : List PortEvent) (sized : Sized) (request : OrderRequest)
    (exposure : Exposure) : Prop where
  positions : Returned history (.broker (.getPositions none)) exposure.positions
  orders : Returned history (.broker (.getOrders none)) exposure.orders
  symbols : Returned history (.broker .getSymbols) exposure.availableSymbols
  marketOpen : Returned history (.broker (.isMarketOpen sized.spec.name)) exposure.marketOpen
  margin : Returned history (.broker (.calculateMargin request sized.price)) exposure.requiredMargin

structure Clearance.Granted (clearance : Clearance) (executor : TradeExecutor)
    (command : ExecutionCommand) (history : List PortEvent) (request : OrderRequest) : Prop where
  time : Returned history .clock clearance.now
  entry : entryOf command.signal clearance.now = .ok (clearance.direction, clearance.stopLoss)
  health : Returned history (.broker .healthCheck) clearance.health
  account : Returned history (.broker .getAccount) clearance.account
  permitted : Permitted command.mode command.environment clearance.account.accountType
    command.approved command.liveTradingEnabled command.configuredLiveConfirmation
    command.requiredLiveConfirmation
  demo : command.environment = .production → command.mode = .auto →
    executor.requireDemoValidationForLive = true →
    DemoEvidence command.demoPerformance command.signal.strategyVersion executor.minimumDemoTrades
      executor.maximumDemoDrawdown executor.minimumDemoProfitFactor
  symbol : Returned history (.broker (.resolveSymbol command.signal.canonicalSymbol))
    clearance.sized.spec
  tick : Returned history (.broker (.getTick clearance.sized.spec.name)) clearance.sized.tick
  price : clearance.sized.price =
    decimalOr command.requestedPrice (clearance.sized.tick.quote clearance.direction)
  sizing : SizedWithin history clearance.account clearance.sized.spec.name clearance.direction
    clearance.sized.price clearance.stopLoss executor.limits.riskPerTrade clearance.sized.sizing
  built : buildRequest command clearance.direction clearance.stopLoss clearance.account
    clearance.sized = .ok request
  exposure : ExposureRead history clearance.sized request clearance.exposure
  circuit : executor.circuitBreaker.isSome = true →
    ∃ state, CircuitShown history clearance.account.accountId state ∧
      clearance.circuitLocked = state.blocksNewTrades ∧ clearance.killSwitch = state.killSwitch
  gates : GatesPassed executor.limits request clearance.sized.sizing (clearance.snapshot command)

def Cleared (executor : TradeExecutor) (command : ExecutionCommand) (history : List PortEvent)
    (request : OrderRequest) : Prop :=
  ∃ clearance : Clearance, clearance.Granted executor command history request

section Monotone

variable {history later : List PortEvent} {request : OrderRequest}

theorem CircuitShown.mono {accountId : String} {state : CircuitState} (shown : CircuitShown history accountId state)
    (included : history ⊆ later) : CircuitShown later accountId state := by
  obtain loaded | ⟨saved, version, stored⟩ | ⟨absent, unlocked⟩ := shown
  · exact .inl (loaded.mono included)
  · exact .inr (.inl ⟨saved, version, stored.mono included⟩)
  · exact .inr (.inr ⟨absent.mono included, unlocked⟩)

theorem SizedWithin.mono {account : AccountSnapshot} {symbol : String} {direction : Direction}
    {price stopLoss riskFraction : Decimal} {sizing : PositionSizingResult}
    (sized : SizedWithin history account symbol direction price stopLoss riskFraction sizing)
    (included : history ⊆ later) : SizedWithin later account symbol direction price stopLoss riskFraction sizing := by
  obtain ⟨profit, returned, same⟩ := sized.loss
  exact ⟨⟨profit, returned.mono included, same⟩, sized.positive, sized.within, sized.priced⟩

theorem ExposureRead.mono {sized : Sized} {exposure : Exposure} (read : ExposureRead history sized request exposure)
    (included : history ⊆ later) : ExposureRead later sized request exposure :=
  { positions := read.positions.mono included
    orders := read.orders.mono included
    symbols := read.symbols.mono included
    marketOpen := read.marketOpen.mono included
    margin := read.margin.mono included }

theorem Cleared.mono {executor : TradeExecutor} {command : ExecutionCommand}
    (cleared : Cleared executor command history request) (included : history ⊆ later) :
    Cleared executor command later request := by
  obtain ⟨clearance, granted⟩ := cleared
  refine ⟨clearance, { granted with
    time := granted.time.mono included
    health := granted.health.mono included
    account := granted.account.mono included
    symbol := granted.symbol.mono included
    tick := granted.tick.mono included
    sizing := granted.sizing.mono included
    exposure := granted.exposure.mono included
    circuit := fun present => ?_ }⟩
  obtain ⟨state, shown, locked⟩ := granted.circuit present
  exact ⟨state, shown.mono included, locked⟩

end Monotone

/-- An `execute` call asks about the key of the account it has read and settles only what it has claimed. -/
def executing (executor : TradeExecutor) (command : ExecutionCommand) : Role where
  cleared := Cleared executor command
  about := fun history key => ∃ account, Returned history (.broker .getAccount) account ∧
    idempotencyKey account command.signal = key
  settles := fun known => known.own = true ∧ (known.status = .claimed ∨ known.status = .submitted)
  about_mono := by
    rintro history later key ⟨account, returned, same⟩ included
    exact ⟨account, returned.mono included, same⟩

variable {command : ExecutionCommand} {direction : Direction} {stopLoss : Decimal} {account : AccountSnapshot}
  {sized : Sized} {request : OrderRequest}

theorem buildRequest_idempotencyKey (built : buildRequest command direction stopLoss account sized = .ok request) :
    request.idempotencyKey = idempotencyKey account command.signal := by
  obtain ⟨_, _, _, _, _, _, _, key, _⟩ := OrderRequest.make_eq_ok built
  exact key

theorem Cleared.about {executor : TradeExecutor} {history : List PortEvent}
    (cleared : Cleared executor command history request) :
    (executing executor command).about history request.idempotencyKey := by
  obtain ⟨clearance, granted⟩ := cleared
  exact ⟨clearance.account, granted.account, (buildRequest_idempotencyKey granted.built).symm⟩

/-! ## The phases -/

variable {executor : TradeExecutor} {role : Role} {history : List PortEvent} {outcome : ExecutionOutcome}

def Guarded {α : Type} (established : List PortEvent → α → Prop) (later : List PortEvent) :
    Except ExecutionOutcome α → Prop
  | .ok value => established later value
  | .error outcome => Justified later outcome

theorem justified_of_ne (other : outcome.status ≠ .filled) :
    Justified history outcome := fun filled => absurd filled other

theorem justified_blocked (reasons : List String) (request : Option OrderRequest) :
    Justified history (blocked reasons request) :=
  justified_of_ne (by simp [blocked])

section Phases

variable {α β : Type} {established : List PortEvent → α → Prop}
  {concluded : List PortEvent → β → Prop}

theorem keeps_guarded_bind {program : PyReturning ExecutionOutcome α} {next : α → PyReturning ExecutionOutcome β}
    (first : Keeps (Discipline executor role) Excused (Guarded established) program history)
    (rest : ∀ later value, established later value →
      Keeps (Discipline executor role) Excused (Guarded concluded) (next value) later) :
    Keeps (Discipline executor role) Excused (Guarded concluded)
      (program >>= next : PyReturning ExecutionOutcome β) history :=
  Keeps.bind_returning first (fun _ _ justified => justified) rest

theorem keeps_guarded_catching {body : Py α} {catches : PyError → Bool} {recover : PyError → ExecutionOutcome}
    (inside : Keeps (Discipline executor role) Excused established body history)
    (reported : ∀ error, (recover error).status ≠ .filled) :
    Keeps (Discipline executor role) Excused (Guarded established) (body.catching catches recover) history :=
  Keeps.catching inside (fun _ _ holds => holds) fun _ error _ => justified_of_ne (reported error)

end Phases

theorem keeps_openAccount :
    Keeps (Discipline executor role) Excused
      (Guarded fun later (health, account) => Reads history later ∧
        Returned later (.broker .healthCheck) health ∧ Returned later (.broker .getAccount) account)
      openAccount history := by
  have reading : Keeps (Discipline executor role) Excused
      (fun later found => ∀ health account, found = some (health, account) →
        Reads history later ∧ Returned later (.broker .healthCheck) health ∧
          Returned later (.broker .getAccount) account)
      (do
        let health ← askBroker .healthCheck
        if !health.healthy || !health.connected then
          pure none
        else do
          let account ← askBroker .getAccount
          pure (some (health, account))) history := by
    refine keeps_ask_bind trivial fun health => ?_
    split
    · exact Keeps.pure (by simp)
    · refine keeps_ask_bind trivial fun account => ?_
      refine Keeps.pure ?_
      rintro _ _ ⟨⟩
      refine ⟨((Reads.refl _).snoc fun _ => rfl).snoc fun _ => rfl, ?_, returned_last _ _⟩
      exact (returned_last _ _).mono (List.subset_append_left _ _)
  refine keeps_guarded_bind (keeps_guarded_catching reading fun error => ?_) ?_
  · simp [blocked]
  intro later found known
  cases found with
  | none => exact Keeps.pure (justified_blocked _ _)
  | some pair => exact Keeps.pure (known pair.1 pair.2 rfl)

variable {error : PyError} {record : ExecutionRecord}

theorem compareDigest_fault {left right : String} (raised : compareDigest left right = .error error) :
    error.isFault = true := by
  unfold compareDigest at raised
  split at raised
  · cases raised
  · cases raised
    rfl

theorem evaluateExecutionPermission_fault {mode : TradingMode} {environment : TradingEnvironment}
    {accountType : AccountType} {approved liveTradingEnabled : Bool} {configured required : Option String}
    (raised : evaluateExecutionPermission mode environment accountType approved liveTradingEnabled
      configured required = .error error) :
    error.isFault = true := by
  -- only the comparison of the confirmations can raise
  have live : ∀ error, liveReasons accountType liveTradingEnabled configured required =
      .error error → error.isFault = true := by
    intro error raised
    unfold liveReasons at raised
    split at raised
    · cases raised
    · cases compared : compareDigest (configured.getD "") (required.getD "") with
      | ok => simp [compared, bind, Except.bind, pure, Except.pure] at raised
      | error =>
        simp only [compared, bind, Except.bind, Except.error.injEq] at raised
        exact raised ▸ compareDigest_fault compared
  unfold evaluateExecutionPermission at raised
  split at raised
  · cases reasons : liveReasons accountType liveTradingEnabled configured required with
    | ok => simp [reasons, bind, Except.bind, pure, Except.pure] at raised
    | error other =>
      simp only [reasons, bind, Except.bind, Except.error.injEq] at raised
      exact raised ▸ live other reasons
  · cases raised

theorem evaluateDemoPerformance_fault {performance : Option DemoPerformance} {version : String} {minimumTrades : Int}
    {maximumDrawdown minimumProfitFactor : Decimal}
    (raised : evaluateDemoPerformance performance version minimumTrades maximumDrawdown minimumProfitFactor =
      .error error) :
    error.isFault = true := by
  unfold evaluateDemoPerformance at raised
  split at raised
  · cases raised; rfl
  split at raised
  · cases raised; rfl
  split at raised
  · cases raised; rfl
  split at raised <;> cases raised

theorem keeps_authorize (command : ExecutionCommand) (account : AccountSnapshot) :
    Keeps (Discipline executor role) Excused
      (Guarded fun later (_ : Unit) => history = later ∧
        Permitted command.mode command.environment account.accountType command.approved
          command.liveTradingEnabled command.configuredLiveConfirmation
          command.requiredLiveConfirmation ∧
        (command.environment = .production → command.mode = .auto →
          executor.requireDemoValidationForLive = true →
          DemoEvidence command.demoPerformance command.signal.strategyVersion
            executor.minimumDemoTrades executor.maximumDemoDrawdown
            executor.minimumDemoProfitFactor))
      (executor.authorize command account) history := by
  unfold authorize
  refine Keeps.lift_ofExcept_bind ?_ fun permission evaluated => ?_
  · exact fun error raised => excused_of_fault (evaluateExecutionPermission_fault raised)
  refine Keeps.returnIf_bind (fun _ => justified_blocked _ _) fun allowed => ?_
  have permitted := permitted_of_allowed evaluated (by simpa using allowed)
  split
  next needed =>
    refine Keeps.lift_ofExcept_bind ?_ fun demo judged => ?_
    · exact fun error raised => excused_of_fault (evaluateDemoPerformance_fault raised)
    refine Keeps.returnIf (fun _ => justified_blocked _ _) fun accepted => ?_
    have evidence := (demo_allowed_iff.mp ⟨_, judged, by simpa using accepted⟩).2
    exact ⟨rfl, permitted, fun _ _ _ => evidence⟩
  next unneeded =>
    exact Keeps.pure ⟨rfl, permitted, fun production auto required =>
      absurd ⟨production, auto, required⟩ unneeded⟩

theorem keeps_calculate (account : AccountSnapshot) (symbol : SymbolSpecification)
    (direction : Direction) (price stopLoss riskFraction : Decimal) :
    Keeps (Discipline executor role) Excused
      (fun later sizing => Reads history later ∧
        SizedWithin later account symbol.name direction price stopLoss riskFraction sizing)
      (PositionSizer.calculate account symbol direction price stopLoss riskFraction) history := by
  unfold PositionSizer.calculate
  refine Keeps.raiseIf_bind (fun _ => excused_of_fault rfl) fun _ => ?_
  refine Keeps.raiseIf_bind (fun _ => excused_of_fault rfl) fun _ => ?_
  refine Keeps.raiseIf_bind (fun _ => excused_of_fault rfl) fun priced => ?_
  refine Keeps.raiseIf_bind (fun _ => excused_of_fault rfl) fun _ => ?_
  refine Keeps.raiseIf_bind (fun _ => excused_of_fault rfl) fun _ => ?_
  refine keeps_ask_bind trivial fun oneLot => ?_
  refine Keeps.raiseIf_bind (fun _ => excused_of_fault rfl) fun _ => ?_
  refine Keeps.raiseIf_bind (fun _ => excused_of_fault rfl) fun _ => ?_
  refine Keeps.raiseIf_bind (fun _ => excused_of_fault rfl) fun _ => ?_
  refine keeps_ask_bind trivial fun profit => ?_
  refine Keeps.raiseIf_bind (fun _ => excused_of_fault rfl) fun within => ?_
  simp only [Bool.or_eq_false_iff, decide_eq_false_iff_not, not_le, not_lt] at within priced
  refine Keeps.pure ⟨((Reads.refl _).snoc fun _ => rfl).snoc fun _ => rfl, ?_⟩
  exact ⟨⟨profit, returned_last _ _, rfl⟩, within.1, within.2, priced.1.1⟩

theorem keeps_size (command : ExecutionCommand) (direction : Direction) (stopLoss : Decimal)
    (account : AccountSnapshot) :
    Keeps (Discipline executor role) Excused
      (Guarded fun later (sized : Sized) => Reads history later ∧
        Returned later (.broker (.resolveSymbol command.signal.canonicalSymbol)) sized.spec ∧
        Returned later (.broker (.getTick sized.spec.name)) sized.tick ∧
        sized.price = decimalOr command.requestedPrice (sized.tick.quote direction) ∧
        SizedWithin later account sized.spec.name direction sized.price stopLoss
          executor.limits.riskPerTrade sized.sizing)
      (executor.size command direction stopLoss account) history := by
  refine keeps_guarded_catching ?_ fun error => by simp [blocked]
  refine keeps_ask_bind trivial fun spec => ?_
  refine keeps_ask_bind trivial fun tick => ?_
  refine Keeps.bind (keeps_calculate account spec direction _ stopLoss _) ?_
  rintro later sizing ⟨reads, within⟩
  have symbol : Returned later (.broker (.resolveSymbol command.signal.canonicalSymbol)) spec :=
    reads.included (by simp)
  have quoted : Returned later (.broker (.getTick spec.name)) tick := reads.included (by simp)
  have before : Reads history later :=
    (((Reads.refl _).snoc fun _ => rfl).snoc fun _ => rfl).trans reads
  exact Keeps.pure ⟨before, symbol, quoted, rfl, within⟩

/-! ## Exposure, circuit and gates -/

theorem keeps_readExposure (sized : Sized) (request : OrderRequest) :
    Keeps (Discipline executor role) Excused
      (Guarded fun later exposure => Reads history later ∧
        ExposureRead later sized request exposure)
      (readExposure sized request) history := by
  refine keeps_guarded_catching ?_ fun error => by simp [blocked]
  refine keeps_ask_bind trivial fun positions => ?_
  refine keeps_ask_bind trivial fun orders => ?_
  refine keeps_ask_bind trivial fun symbols => ?_
  refine keeps_ask_bind trivial fun marketOpen => ?_
  refine keeps_ask_bind trivial fun margin => ?_
  refine Keeps.pure ⟨?_, ?_⟩
  · exact (((((Reads.refl history).snoc fun _ => rfl).snoc fun _ => rfl).snoc fun _ => rfl).snoc
      fun _ => rfl).snoc fun _ => rfl
  · constructor <;> simp [Returned]

theorem circuitShown_saved {accountId : String} (state : CircuitState) (version : Nat) (saved : CircuitState) :
    CircuitShown (history ++ [⟨.circuit (.save state version), .ok saved⟩]) accountId saved :=
  .inr (.inl ⟨state, version, returned_last _ _⟩)

theorem keeps_evaluate (breaker : CircuitBreaker) (account : AccountSnapshot) (usage : RiskUsage) (now : Instant) :
    Keeps (Discipline executor role) Excused
      (fun later state => Reads history later ∧ CircuitShown later account.accountId state)
      (breaker.evaluate account usage now) history := by
  have loading : Keeps (Discipline executor role) Excused
      (fun later state => Reads history later ∧ CircuitShown later account.accountId state)
      (breaker.get account.accountId now) history := by
    unfold CircuitBreaker.get
    refine keeps_ask_bind trivial fun loaded => ?_
    cases loaded with
    | none =>
      refine Keeps.pure ⟨(Reads.refl _).snoc fun _ => rfl, .inr (.inr ⟨returned_last _ _, ?_⟩)⟩
      rfl
    | some =>
      refine Keeps.ite (fun changed => ?_) fun current => ?_
      · refine keeps_ask (.circuit (.save _ _)) trivial fun saved => ?_
        exact ⟨((Reads.refl _).snoc fun _ => rfl).snoc fun _ => rfl, circuitShown_saved _ _ _⟩
      · exact Keeps.pure ⟨(Reads.refl _).snoc fun _ => rfl, .inl (returned_last _ _)⟩
  refine Keeps.bind loading ?_
  rintro later state ⟨reads, shown⟩
  refine Keeps.ite (fun current => ?_) fun changed => ?_
  · exact Keeps.pure ⟨reads, shown⟩
  · refine keeps_ask (.circuit (.save _ _)) trivial fun saved => ?_
    exact ⟨reads.snoc fun _ => rfl, circuitShown_saved _ _ _⟩

theorem keeps_readCircuit (command : ExecutionCommand) (account : AccountSnapshot) (now : Instant)
    (request : OrderRequest) :
    Keeps (Discipline executor role) Excused
      (Guarded fun later (locked, kill) => Reads history later ∧
        (executor.circuitBreaker.isSome = true → ∃ state,
          CircuitShown later account.accountId state ∧ locked = state.blocksNewTrades ∧
            kill = state.killSwitch))
      (executor.readCircuit command account now request) history := by
  unfold readCircuit
  cases executor.circuitBreaker with
  | none => exact Keeps.pure ⟨Reads.refl _, fun present => absurd present (by simp)⟩
  | some breaker =>
    refine keeps_guarded_catching ?_ fun error => by simp [blocked]
    refine Keeps.bind (keeps_evaluate breaker account command.riskUsage now) ?_
    rintro later state ⟨reads, shown⟩
    exact Keeps.pure ⟨reads, fun _ => ⟨state, shown, rfl, rfl⟩⟩

theorem outcomeStatus_eq_filled (filled : outcomeStatus record = .filled) :
    record.status = .succeeded ∧ record.request.orderType = .market := by
  unfold outcomeStatus at filled
  cases status : record.status with
  | succeeded =>
    simp only [status] at filled
    split at filled
    next market => exact ⟨rfl, market⟩
    next => cases filled
  | _ => simp [status] at filled

theorem justified_outcomeFromRecord (shown : Shown history record) (risk : Option RiskDecision) :
    Justified history (outcomeFromRecord record risk) := by
  intro filled
  obtain ⟨succeeded, market⟩ := outcomeStatus_eq_filled filled
  exact ⟨record.request, rfl, market, .inr ⟨record, shown, succeeded, rfl⟩⟩

theorem buildRequest_fault (raised : buildRequest command direction stopLoss account sized = .error error) :
    error.isFault = true := by
  unfold buildRequest OrderRequest.make at raised
  split at raised
  · split at raised
    · split at raised
      · cases raised
      · cases raised; rfl
    · cases raised; rfl
  · cases raised; rfl

theorem justified_entryOf {signal : TradeSignal} {now : Instant} (refused : entryOf signal now = .error outcome) :
    Justified history outcome := by
  unfold entryOf at refused
  split at refused
  · cases refused; exact justified_blocked _ _
  · split at refused
    · split at refused
      · cases refused; exact justified_blocked _ _
      · cases refused
    · cases refused; exact justified_blocked _ _

/-- **The assessment clears what it approves.** -/
theorem keeps_assess (command : ExecutionCommand) (idle : (progressOf history).working = none) :
    Keeps (Discipline executor (executing executor command)) Excused
      (Guarded fun later approved => Reads history later ∧
        Cleared executor command later approved.request)
      (executor.assess command) history := by
  unfold assess
  have timed : Keeps (Discipline executor (executing executor command)) Excused
      (fun later now => later = history ++ [⟨.clock, .ok now⟩]) clock history :=
    keeps_ask .clock trivial fun _ => rfl
  refine Keeps.lift_bind timed ?_
  rintro _ now rfl
  -- the checks on the signal
  have entered : Keeps (Discipline executor (executing executor command)) Excused
      (Guarded fun later entry => later = history ++ [⟨.clock, .ok now⟩] ∧
        entryOf command.signal now = .ok entry)
      (.pure (entryOf command.signal now)) (history ++ [⟨.clock, .ok now⟩]) := by
    refine Keeps.pure ?_
    cases entry : entryOf command.signal now with
    | ok => exact ⟨rfl, rfl⟩
    | error => exact justified_entryOf entry
  refine keeps_guarded_bind entered ?_
  rintro _ ⟨direction, stopLoss⟩ ⟨rfl, entry⟩
  refine keeps_guarded_bind keeps_openAccount ?_
  rintro opened ⟨health, account⟩ ⟨opening, healthy, owned⟩
  refine keeps_guarded_bind (keeps_authorize command account) ?_
  rintro _ ⟨⟩ ⟨rfl, permitted, demo⟩
  refine keeps_guarded_bind (keeps_size command direction stopLoss account) ?_
  rintro quoted sized ⟨quoting, symbol, tick, price, sizing⟩
  refine Keeps.lift_ofExcept_bind ?_ fun request built => ?_
  · exact fun error raised => excused_of_fault (buildRequest_fault raised)
  have timeRead : Reads history (history ++ [⟨.clock, .ok now⟩]) :=
    (Reads.refl _).snoc fun _ => rfl
  have beforeGet : Reads history quoted := (timeRead.trans opening).trans quoting
  have readable : MayRead (executing executor command) quoted request.idempotencyKey :=
    { about := ⟨account, owned.mono quoting.included, (buildRequest_idempotencyKey built).symm⟩
      idle := by rw [beforeGet.progress, idle] }
  refine Keeps.lift_bind (keeps_get readable) ?_
  intro found existing known
  cases existing with
  | some => exact Keeps.pure (justified_outcomeFromRecord known.2.1 none)
  | none =>
    refine keeps_guarded_bind (keeps_readExposure sized request) ?_
    rintro exposed exposure ⟨exposing, exposureRead⟩
    refine keeps_guarded_bind (keeps_readCircuit command account now request) ?_
    rintro final ⟨circuitLocked, killSwitch⟩ ⟨locking, circuit⟩
    dsimp only
    generalize validated : RiskGateValidator.validate executor.limits request sized.sizing
      (preTradeSnapshot command now health account sized exposure circuitLocked killSwitch) = decision
    refine Keeps.returnIf_bind (fun _ => ?_) fun accepted => ?_
    · exact justified_of_ne (by simp [blocked])
    rw [Bool.not_eq_eq_eq_not, Bool.not_false, ← validated] at accepted
    have fromQuoted : Reads quoted final := (known.trans exposing).trans locking
    have fromOpened : Reads opened final := quoting.trans fromQuoted
    have fromTimed : Reads (history ++ [⟨.clock, .ok now⟩]) final := opening.trans fromOpened
    refine Keeps.pure ⟨beforeGet.trans fromQuoted, ?_⟩
    refine ⟨⟨now, health, account, direction, stopLoss, sized, exposure, circuitLocked,
      killSwitch⟩, ?_⟩
    exact
      { time := fromTimed.included (by simp)
        entry
        health := healthy.mono fromOpened.included
        account := owned.mono fromOpened.included
        permitted, demo, price, circuit
        symbol := symbol.mono fromQuoted.included
        tick := tick.mono fromQuoted.included
        sizing := sizing.mono fromQuoted.included
        built
        exposure := exposureRead.mono locking.included
        gates := gatesPassed_of_accepted accepted }

end GoldFlow
