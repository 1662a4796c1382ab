import GoldFlow.Execution.Models
import Mathlib.Logic.Function.Basic

/-! # Idempotency records and their two stores -/

namespace GoldFlow

/-- The status changes both stores accept. -/
def IdempotencyStatus.allowed : IdempotencyStatus → List IdempotencyStatus
  | .claimed => [.submitted, .rejected]
  | .submitted => [.succeeded, .protectionFailed, .rejected, .unknown]
  | .unknown => [.succeeded, .protectionFailed, .rejected]
  | .succeeded | .protectionFailed | .rejected => []

/-! ## The in-memory store -/

abbrev Records := String → Option ExecutionRecord

def ExecutionRecord.fresh (request : OrderRequest) (now : Instant) : ExecutionRecord :=
  { idempotencyKey := request.idempotencyKey
    request
    status := .claimed
    createdAt := now
    updatedAt := now }

def ExecutionRecord.update (current : ExecutionRecord) (status : IdempotencyStatus) (now : Instant)
    (report : Option ExecutionReport) (reason : String) : Except PyError ExecutionRecord :=
  if status ∈ current.status.allowed then
    .ok { current with
      status
      report := report.or current.report
      reason
      version := current.version + 1
      updatedAt := now }
  else
    .error (.invalidTransition current.status status)

namespace InMemoryIdempotencyStore

/-- `claim`, under the store's lock. -/
def claim (records : Records) (request : OrderRequest) (now : Instant) :
    (ExecutionRecord × Bool) × Records :=
  match records request.idempotencyKey with
  | some existing => ((existing, false), records)
  | none =>
    let record := ExecutionRecord.fresh request now
    ((record, true), Function.update records request.idempotencyKey (some record))

/-- `update`, under the store's lock. -/
def update (records : Records) (key : String) (status : IdempotencyStatus) (now : Instant)
    (report : Option ExecutionReport) (reason : String) :
    Except PyError (ExecutionRecord × Records) :=
  match records key with
  | none => .error (.key ("unknown idempotency key " ++ key))
  | some current => do
    let updated ← current.update status now report reason
    pure (updated, Function.update records key (some updated))

end InMemoryIdempotencyStore

/-! ## Payloads -/

/-- `str(value) if value else None`, decoded again: zero is stored as `None`. -/
def storedDecimal (value : Option Decimal) : Option Decimal :=
  value.filter (· ≠ 0)

/-- `str(value) if value else None` for text. -/
def storedText (value : Option String) : Option String :=
  value.filter (· ≠ "")

structure RequestPayload where
  signalId : UUID
  strategyId : String
  symbol : String
  direction : Direction
  orderType : OrderType
  volume : Decimal
  stopLoss : Decimal
  takeProfits : List Decimal
  idempotencyKey : String
  requestedPrice : Option Decimal
  entryMin : Option Decimal
  entryMax : Option Decimal
  expiresAt : Option Instant
  maximumSlippage : Decimal
  comment : String

def requestPayload (request : OrderRequest) : RequestPayload :=
  { signalId := request.signalId
    strategyId := request.strategyId
    symbol := request.symbol
    direction := request.direction
    orderType := request.orderType
    volume := request.volume
    stopLoss := request.stopLoss
    takeProfits := request.takeProfits
    idempotencyKey := request.idempotencyKey
    requestedPrice := storedDecimal request.requestedPrice
    entryMin := storedDecimal request.entryMin
    entryMax := storedDecimal request.entryMax
    expiresAt := request.expiresAt
    maximumSlippage := request.maximumSlippage
    comment := request.comment }

def requestFromPayload (payload : RequestPayload) : Except PyError OrderRequest :=
  OrderRequest.make payload.signalId payload.strategyId payload.symbol payload.direction
    payload.orderType payload.volume payload.stopLoss payload.takeProfits payload.idempotencyKey
    payload.requestedPrice payload.entryMin payload.entryMax payload.expiresAt
    payload.maximumSlippage payload.comment

structure ReportPayload where
  success : Bool
  idempotencyKey : String
  brokerTicket : Option String
  requestedPrice : Option Decimal
  executedPrice : Option Decimal
  volume : Decimal
  brokerCode : Option String
  message : String
  submittedAt : Instant

def reportPayload (report : ExecutionReport) : ReportPayload :=
  { success := report.success
    idempotencyKey := report.idempotencyKey
    brokerTicket := report.brokerTicket
    requestedPrice := storedDecimal report.requestedPrice
    executedPrice := storedDecimal report.executedPrice
    volume := report.volume
    brokerCode := report.brokerCode
    message := report.message
    submittedAt := report.submittedAt }

def reportFromPayload (payload : ReportPayload) : ExecutionReport :=
  { success := payload.success
    idempotencyKey := payload.idempotencyKey
    brokerTicket := storedText payload.brokerTicket
    requestedPrice := payload.requestedPrice
    executedPrice := payload.executedPrice
    volume := payload.volume
    brokerCode := storedText payload.brokerCode
    message := payload.message
    submittedAt := payload.submittedAt }

/-! ## The durable store -/

structure ResponsePayload where
  version : Nat
  updatedAt : Instant
  report : Option ReportPayload := none

/-- A row of `execution_attempts`; `attemptKey` is unique. -/
structure ExecutionAttempt where
  orderId : String
  attemptNumber : Nat
  attemptKey : String
  status : IdempotencyStatus
  requestPayload : RequestPayload
  responsePayload : ResponsePayload
  brokerTicket : Option String := none
  brokerCode : Option String := none
  errorMessage : Option String := none
  startedAt : Instant
  completedAt : Option Instant := none

abbrev Attempts := String → Option ExecutionAttempt

namespace SqlAlchemyIdempotencyStore

/-- `_record` -/
def record (attempt : ExecutionAttempt) : Except PyError ExecutionRecord := do
  let request ← requestFromPayload attempt.requestPayload
  pure {
    idempotencyKey := attempt.attemptKey
    request
    status := attempt.status
    report := attempt.responsePayload.report.map reportFromPayload
    reason := attempt.errorMessage.getD ""
    version := attempt.responsePayload.version
    createdAt := attempt.startedAt
    updatedAt := attempt.responsePayload.updatedAt }

/-- The row `_claim_sync` adds. -/
def claimRow (orderId : String) (request : OrderRequest) (now : Instant) : ExecutionAttempt :=
  { orderId
    attemptNumber := 1
    attemptKey := request.idempotencyKey
    status := .claimed
    requestPayload := requestPayload request
    responsePayload := { version := 1, updatedAt := now }
    startedAt := now }

def isFinal : IdempotencyStatus → Bool
  | .succeeded | .protectionFailed | .rejected => true
  | .claimed | .submitted | .unknown => false

/-- What `_update_sync` does to the row it has locked; the report of an earlier update is dropped. -/
def updateRow (attempt : ExecutionAttempt) (status : IdempotencyStatus) (now : Instant)
    (report : Option ExecutionReport) (reason : String) : Except PyError ExecutionAttempt :=
  if status ∈ attempt.status.allowed then
    .ok { attempt with
      status
      responsePayload :=
        { version := attempt.responsePayload.version + 1
          updatedAt := now
          report := report.map reportPayload }
      brokerTicket := report.elim attempt.brokerTicket (·.brokerTicket)
      brokerCode := report.elim attempt.brokerCode (·.brokerCode)
      errorMessage := if reason = "" then none else some reason
      completedAt := if isFinal status then some now else attempt.completedAt }
  else
    .error (.invalidTransition attempt.status status)

/-- `_update_sync`: one transaction that holds the row's lock. -/
def update (attempts : Attempts) (key : String) (status : IdempotencyStatus) (now : Instant)
    (report : Option ExecutionReport) (reason : String) :
    Except PyError (ExecutionAttempt × Attempts) :=
  match attempts key with
  | none => .error (.key ("unknown idempotency key " ++ key))
  | some current => do
    let updated ← updateRow current status now report reason
    pure (updated, Function.update attempts key (some updated))

/-- Commit of a claim's row: refused when the key is taken. -/
def insertClaim (attempts : Attempts) (orderId : String) (request : OrderRequest) (now : Instant) :
    Except PyError Attempts :=
  match attempts request.idempotencyKey with
  | some _ => .error (.integrity "UNIQUE constraint failed: execution_attempts.attempt_key")
  | none =>
    .ok (Function.update attempts request.idempotencyKey (some (claimRow orderId request now)))

end SqlAlchemyIdempotencyStore

/-- Whether `_unknown_keys_sync` selects the row of `key`. -/
def WorkerPersistence.unknownKeys (attempts : Attempts) (key : String) : Bool :=
  (attempts key).any fun attempt => attempt.status ∈ [.submitted, .unknown]

end GoldFlow
