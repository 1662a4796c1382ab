import GoldFlow.Persistence.Journal

/-! # The status of a signal -/

namespace GoldFlow

def SignalStatus.value : SignalStatus → String
  | .active => "ACTIVE"
  | .approvalRequired => "APPROVAL_REQUIRED"
  | .approved => "APPROVED"
  | .executed => "EXECUTED"
  | .rejected => "REJECTED"
  | .expired => "EXPIRED"
  | .cancelled => "CANCELLED"
  | .error => "ERROR"

/-- `session.get(Signal, signal_id)` -/
def Database.signalWith (database : Database) (id : UUID) : Option SignalRow :=
  database.signals.find? (·.signalId = id)

/-- `set_status` of a signal that is there. -/
def SignalRepository.setStatus (id : UUID) (status : SignalStatus) (database : Database) : Database :=
  { database with signals := database.signals.map fun row => if row.signalId = id then { row with status } else row }

namespace WorkerPersistence

/-- The status a signal is saved with. -/
def savedStatus (signal : TradeSignal) (mode : TradingMode) : SignalStatus :=
  if mode = .semiAuto ∧ (signal.action = .long ∨ signal.action = .short) then .approvalRequired else signal.status

/-- `_save_signal_sync` -/
def saveSignal (signal : TradeSignal) (confidenceScore : Int) (mode : TradingMode) (database : Database) :
    Bool × Database :=
  if (database.signalWith signal.signalId).isSome then (false, database)
  else
    (true, { database with
      signals := database.signals ++ [SignalRow.stored
        { signalId := signal.signalId
          strategyId := signal.strategyId
          strategyVersion := signal.strategyVersion
          symbol := signal.symbol
          canonicalSymbol := signal.canonicalSymbol
          action := signal.action
          confidenceScore
          entryMin := signal.entryMin
          entryMax := signal.entryMax
          stopLoss := signal.stopLoss
          takeProfits := signal.takeProfits
          riskReward := signal.riskReward
          status := savedStatus signal mode
          createdAt := signal.createdAt
          expiresAt := signal.expiresAt }] })

/-- The selection of `_expire_signals_sync`. -/
def expires (now : Instant) (row : SignalRow) : Bool :=
  row.status ∈ [SignalStatus.active, .approvalRequired, .approved] ∧ row.expiresAt.any (· ≤ now)

/-- `_expire_signals_sync` -/
def expireSignals (now : Instant) (database : Database) : Database :=
  { database with
    signals := database.signals.map fun row => if expires now row then { row with status := .expired } else row }

end WorkerPersistence

namespace SignalsApi

/-- `POST /signals/{id}/approve`; an expiry is committed before the conflict is raised. -/
def approveSignal (id : UUID) (approved : Bool) (now : Instant) (database : Database) :
    Except PyError SignalStatus × Database :=
  match database.signalWith id with
  | none => (.error (.http 404 "signal not found"), database)
  | some signal =>
    if signal.expiresAt.any (· ≤ now) then
      (.error (.http 409 "signal has expired"), SignalRepository.setStatus id .expired database)
    else if signal.status ≠ .active ∧ signal.status ≠ .approvalRequired then
      (.error (.http 409 ("signal cannot be approved from status " ++ signal.status.value)), database)
    else
      let target : SignalStatus := if approved then .approved else .rejected
      (.ok target, SignalRepository.setStatus id target database)

end SignalsApi

/-- An operation on the signals. -/
inductive SignalOperation where
  | save (signal : TradeSignal) (confidenceScore : Int) (mode : TradingMode)
  | expire (now : Instant)
  | approve (id : UUID) (approved : Bool) (now : Instant)
  | recordExecution (signal : TradeSignal) (outcome : ExecutionOutcome) (environment : String) (now : Instant)

namespace SignalOperation

/-- The database after an operation; one that raises has no effect, unless it commits before. -/
def apply (persistence : WorkerPersistence) (database : Database) : SignalOperation → Database
  | .save signal confidenceScore mode => (WorkerPersistence.saveSignal signal confidenceScore mode database).2
  | .expire now => WorkerPersistence.expireSignals now database
  | .approve id approved now => (SignalsApi.approveSignal id approved now database).2
  | .recordExecution signal outcome environment now =>
    match persistence.recordExecution signal outcome environment now database with
    | .ok after => after
    | .error _ => database

/-- The database after a sequence of operations. -/
def run (persistence : WorkerPersistence) (database : Database) (operations : List SignalOperation) : Database :=
  operations.foldl (apply persistence) database

end SignalOperation

end GoldFlow
