import GoldFlow.Data.Keyed
import GoldFlow.Domain.Models
import GoldFlow.Effect.Semantics
import Mathlib.Data.List.Sort

/-! # The outbox -/

namespace GoldFlow

open Effect Data

inductive OutboxStatus where
  | pending | sending | published
  deriving DecidableEq, Repr

structure OutboxEvent where
  id : UUID
  deduplicationKey : String
  aggregateType : String
  aggregateId : String
  eventType : String
  status : OutboxStatus := .pending
  attemptCount : Nat := 0
  availableAt : Instant
  lockedAt : Option Instant := none
  publishedAt : Option Instant := none
  lastError : Option String := none
  createdAt : Instant
  sending_locked : status = .sending → lockedAt.isSome = true := by simp

theorem OutboxEvent.pending_unlocked : OutboxStatus.pending = .sending → (none : Option Instant).isSome = true := nofun

structure OutboxMessage where
  eventId : UUID
  eventType : String
  aggregateType : String
  aggregateId : String
  attemptCount : Nat
  deriving DecidableEq

abbrev Outbox := Keyed OutboxEvent.id

namespace OutboxEvent

/-- The selection of a claim: due, and pending or held by a stale claim. -/
def claimable (now staleBefore : Instant) (row : OutboxEvent) : Bool :=
  row.availableAt ≤ now ∧
    (row.status = .pending ∨ row.status = .sending ∧ row.lockedAt.any (· < staleBefore))

def claimed (now : Instant) (row : OutboxEvent) : OutboxEvent :=
  { row with status := .sending, lockedAt := some now, sending_locked := by simp }

def message (row : OutboxEvent) : OutboxMessage where
  eventId := row.id
  eventType := row.eventType
  aggregateType := row.aggregateType
  aggregateId := row.aggregateId
  attemptCount := row.attemptCount

/-- The pause after a number of attempts, in microseconds. -/
def retryDelay (attemptCount : Nat) : Int := min 300 (2 ^ min attemptCount 8) * 1000000

/-- What a completion makes of the event. -/
def completed (delivered : Bool) (error : Option String) (now : Instant) (row : OutboxEvent) : OutboxEvent :=
  let attemptCount := row.attemptCount + 1
  if delivered then
    { row with
      attemptCount, lockedAt := none, status := .published, publishedAt := some now, lastError := none
      sending_locked := by simp }
  else
    { row with
      attemptCount, lockedAt := none, status := .pending
      lastError := some
        (((error.filter (· ≠ "")).getD "notification delivery failed").take 2000).toString
      availableAt := now + retryDelay attemptCount
      sending_locked := pending_unlocked }

end OutboxEvent

namespace Outbox

/-- `_claim_outbox_sync` -/
def claim (now : Instant) (limit : Nat) (staleAfter : Int) (outbox : Outbox) :
    Except PyError (List OutboxMessage × Outbox) :=
  if limit < 1 ∨ 1000 < limit then .error (.value "outbox claim limit must be between 1 and 1000")
  else if staleAfter ≤ 0 then .error (.value "outbox stale interval must be positive")
  else
    let rows := ((outbox.items.filter (·.claimable now (now - staleAfter))).insertionSort
      fun first second => first.createdAt ≤ second.createdAt).take limit
    .ok (rows.map (·.message), outbox.setAll (rows.map (·.claimed now)))

/-- `_complete_outbox_sync` -/
def complete (message : OutboxMessage) (delivered : Bool) (error : Option String) (now : Instant) (outbox : Outbox) :
    Except PyError Outbox :=
  match outbox.get message.eventId with
  | none => .error (.other "LookupError" "outbox event disappeared")
  | some row => .ok (outbox.set (row.completed delivered error now))

/-- The event a journal entry leaves, unless one with its key is there. -/
def journal (event : OutboxEvent) (outbox : Outbox) : Outbox :=
  if outbox.items.any (·.deduplicationKey = event.deduplicationKey) then outbox else outbox.set event

end Outbox

/-! ## Dispatchers -/

/-- What dispatchers and journal writers ask for. -/
inductive OutboxOp where
  | clock
  | claim (now : Instant) (limit : Nat) (staleAfter : Int)
  | deliver (message : OutboxMessage)
  | complete (message : OutboxMessage) (delivered : Bool) (error : Option String) (now : Instant)
  | journal (event : OutboxEvent)

abbrev OutboxOp.Value : OutboxOp → Type
  | .clock => Instant
  | .claim _ _ _ => List OutboxMessage
  | .deliver _ => Bool × Option String
  | .complete _ _ _ _ => Unit
  | .journal _ => Unit

abbrev OutboxPort : Signature := ⟨OutboxOp, OutboxOp.Value⟩

abbrev OutboxPy (α : Type) := Program OutboxPort PyError α

namespace OutboxWorker

def ask (op : OutboxOp) : OutboxPy op.Value := Program.perform (S := OutboxPort) op

/-- The loop over the claimed messages. -/
def completeAll : List OutboxMessage → Nat → OutboxPy Nat
  | [], deliveredCount => pure deliveredCount
  | message :: messages, deliveredCount => do
    let (delivered, error) ← ask (.deliver message)
    let now ← ask .clock
    ask (.complete message delivered error now)
    completeAll messages (if delivered then deliveredCount + 1 else deliveredCount)

/-- `dispatch_outbox`, for any limit and stale interval. -/
def dispatchOutbox (limit : Nat) (staleAfter : Int) : OutboxPy Nat := do
  let now ← ask .clock
  let messages ← ask (.claim now limit staleAfter)
  completeAll messages 0

/-- A job that works on the outbox. -/
inductive Job where
  | dispatch (limit : Nat := 50) (staleAfter : Int := 300000000)
  | journal (event : OutboxEvent)

def Job.program : Job → OutboxPy Nat
  | .dispatch limit staleAfter => dispatchOutbox limit staleAfter
  | .journal event => do
    ask (.journal event)
    pure 0

/-- A transaction commits, or raises without an effect. -/
def Transaction {α : Type} (outbox : Outbox) (computed : Except PyError (α × Outbox)) (reply : Except PyError α)
    (after : Outbox) : Prop :=
  (∃ value, reply = .ok value ∧ computed = .ok (value, after)) ∨ (∃ error, reply = .error error) ∧ after = outbox

/-- Any clock and any notifier; a new event has a new identifier. -/
def environment : Environment OutboxPort PyError Outbox where
  step outbox event after :=
    match event with
    | ⟨.clock, _⟩ => after = outbox
    | ⟨.deliver _, _⟩ => after = outbox
    | ⟨.claim now limit staleAfter, reply⟩ => Transaction outbox (outbox.claim now limit staleAfter) reply after
    | ⟨.complete message delivered error now, reply⟩ =>
      Transaction outbox ((outbox.complete message delivered error now).map fun after => ((), after)) reply after
    | ⟨.journal new, reply⟩ =>
      outbox.get new.id = none ∧ new.status = .pending ∧ after = outbox.journal new ∨
        (∃ error, reply = .error error) ∧ after = outbox

end OutboxWorker

end GoldFlow
