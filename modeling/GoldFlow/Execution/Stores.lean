import GoldFlow.Ports

/-! # Idempotency stores as programs

What the executor calls.
-/

namespace GoldFlow

open Effect

structure IdempotencyStore where
  claim : OrderRequest → Instant → Py (ExecutionRecord × Bool)
  get : String → Py (Option ExecutionRecord)
  update : String → IdempotencyStatus → Instant → Option ExecutionReport → String →
    Py ExecutionRecord

def inMemoryStore : IdempotencyStore where
  claim request now := askRecords (.claim request now)
  get key := askRecords (.get key)
  update key status now report reason := askRecords (.update key status now report reason)

namespace SqlAlchemyIdempotencyStore

def isIntegrity : PyError → Bool
  | .integrity _ => true
  | _ => false

/-- `_get_sync` -/
def getProgram (key : String) : Py (Option ExecutionRecord) := do
  match ← askAttempts (.select key) with
  | none => pure none
  | some attempt => some <$> Program.ofExcept (record attempt)

/-- `_claim_sync` -/
def claimProgram (request : OrderRequest) (now : Instant) : Py (ExecutionRecord × Bool) := do
  match ← askAttempts (.select request.idempotencyKey) with
  | some existing => (·, false) <$> Program.ofExcept (record existing)
  | none =>
    let orderId ← askAttempts (.resolveOrderId request)
    match ← Program.catching (askAttempts (.insertClaim orderId request now)) isIntegrity id with
    | .ok () => (·, true) <$> Program.ofExcept (record (claimRow orderId request now))
    | .error error =>
      match ← askAttempts (.select request.idempotencyKey) with
      | none => .raise error
      | some raced => (·, false) <$> Program.ofExcept (record raced)

/-- `_update_sync` -/
def updateProgram (key : String) (status : IdempotencyStatus) (now : Instant)
    (report : Option ExecutionReport) (reason : String) : Py ExecutionRecord := do
  let attempt ← askAttempts (.update key status now report reason)
  Program.ofExcept (record attempt)

end SqlAlchemyIdempotencyStore

def sqlAlchemyStore : IdempotencyStore where
  claim := SqlAlchemyIdempotencyStore.claimProgram
  get := SqlAlchemyIdempotencyStore.getProgram
  update := SqlAlchemyIdempotencyStore.updateProgram

/-- The store a deployment shares between its executors. -/
inductive StoreKind where
  | inMemory | sqlAlchemy
  deriving DecidableEq, Repr

def StoreKind.store : StoreKind → IdempotencyStore
  | .inMemory => inMemoryStore
  | .sqlAlchemy => sqlAlchemyStore

end GoldFlow
