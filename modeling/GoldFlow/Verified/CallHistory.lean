import GoldFlow.Execution.Executor
import GoldFlow.Verified.StoreRefinement
import Mathlib.Data.List.Induction

/-! # What an executor call has done so far

An executor call is observed through its history.
-/

namespace GoldFlow

open Effect

/-- The call got `value` as the answer to `op`. -/
def Returned (history : List PortEvent) (op : Op) (value : op.Value) : Prop :=
  (⟨op, .ok value⟩ : PortEvent) ∈ history

/-- Some request of the call raised `error`. -/
def Raised (history : List PortEvent) (error : PyError) : Prop :=
  ∃ op, (⟨op, .error error⟩ : PortEvent) ∈ history

/-! ## Progress of a call -/

/-- The record a call works on, with the status it is known to have; `own` if the call has claimed it. -/
structure Working where
  key : String
  fill : Fill
  status : IdempotencyStatus
  own : Bool

structure Progress where
  working : Option Working := none
  sends : Nat := 0
  modifies : Nat := 0
  closes : Nat := 0

namespace Progress

def claim (progress : Progress) (key : String) (fill : Fill) : Progress :=
  { progress with working := some { key, fill, status := .claimed, own := true } }

def read (progress : Progress) (key : String) (entry : StoreEntry) : Progress :=
  { progress with
    working := some { key, fill := entry.data, status := entry.status, own := false } }

def know (progress : Progress) (status : IdempotencyStatus) : Progress :=
  { progress with working := progress.working.map fun known => { known with status } }

def observe (progress : Progress) : PortEvent → Progress
  | ⟨.records (.claim request _), .ok (_, true)⟩ =>
    progress.claim request.idempotencyKey request.fill
  | ⟨.attempts (.insertClaim _ request _), .ok ()⟩ =>
    progress.claim request.idempotencyKey request.fill
  | ⟨.records (.get key), .ok (some record)⟩ => progress.read key record.entry
  | ⟨.attempts (.select key), .ok (some attempt)⟩ => progress.read key attempt.entry
  | ⟨.records (.update _ status _ _ _), .ok _⟩ => progress.know status
  | ⟨.attempts (.update _ status _ _ _), .ok _⟩ => progress.know status
  | ⟨.broker (.placeMarketOrder _), _⟩ => { progress with sends := progress.sends + 1 }
  | ⟨.broker (.placePendingOrder _), _⟩ => { progress with sends := progress.sends + 1 }
  | ⟨.broker (.modifyPosition _ _ _), _⟩ => { progress with modifies := progress.modifies + 1 }
  | ⟨.broker (.closePosition _ _), _⟩ => { progress with closes := progress.closes + 1 }
  | _ => progress

end Progress

def progressOf (history : List PortEvent) : Progress := history.foldl Progress.observe {}

@[simp] theorem progressOf_nil : progressOf [] = {} := rfl

@[simp] theorem progressOf_append_singleton (history : List PortEvent) (event : PortEvent) :
    progressOf (history ++ [event]) = (progressOf history).observe event := by
  simp [progressOf]

/-! ### The counters -/

def Op.isSend : Op → Bool
  | .broker (.placeMarketOrder _) | .broker (.placePendingOrder _) => true
  | _ => false

def Op.isModify : Op → Bool
  | .broker (.modifyPosition _ _ _) => true
  | _ => false

def Op.isClose : Op → Bool
  | .broker (.closePosition _ _) => true
  | _ => false

theorem Progress.observe_counts (progress : Progress) (event : PortEvent) :
    (progress.observe event).sends = progress.sends + (if event.1.isSend then 1 else 0) ∧
    (progress.observe event).modifies = progress.modifies + (if event.1.isModify then 1 else 0) ∧
    (progress.observe event).closes = progress.closes + (if event.1.isClose then 1 else 0) := by
  obtain ⟨op, reply⟩ := event
  cases op with
  | broker op => cases op <;> exact ⟨rfl, rfl, rfl⟩
  | records op =>
    cases op with
    | claim =>
      match reply with
      | .ok (_, true) => exact ⟨rfl, rfl, rfl⟩
      | .ok (_, false) => exact ⟨rfl, rfl, rfl⟩
      | .error _ => exact ⟨rfl, rfl, rfl⟩
    | get =>
      match reply with
      | .ok (some _) => exact ⟨rfl, rfl, rfl⟩
      | .ok none => exact ⟨rfl, rfl, rfl⟩
      | .error _ => exact ⟨rfl, rfl, rfl⟩
    | update => cases reply <;> exact ⟨rfl, rfl, rfl⟩
  | attempts op =>
    cases op with
    | select =>
      match reply with
      | .ok (some _) => exact ⟨rfl, rfl, rfl⟩
      | .ok none => exact ⟨rfl, rfl, rfl⟩
      | .error _ => exact ⟨rfl, rfl, rfl⟩
    | resolveOrderId => exact ⟨rfl, rfl, rfl⟩
    | insertClaim => cases reply <;> exact ⟨rfl, rfl, rfl⟩
    | update => cases reply <;> exact ⟨rfl, rfl, rfl⟩
  | _ =>
    exact ⟨rfl, rfl, rfl⟩

theorem progressOf_counter (counter : Progress → Nat) (counts : Op → Bool) (zero : counter {} = 0)
    (step : ∀ progress event, counter (progress.observe event) = counter progress + if counts event.1 then 1 else 0)
    (history : List PortEvent) : counter (progressOf history) = history.countP fun event => counts event.1 := by
  induction history using List.reverseRecOn with
  | nil => exact zero
  | append_singleton history event ih =>
    rw [progressOf_append_singleton, step, ih, List.countP_append,
      List.countP_singleton]

theorem progressOf_sends (history : List PortEvent) :
    (progressOf history).sends = history.countP fun event => event.1.isSend :=
  progressOf_counter Progress.sends Op.isSend rfl (fun progress event =>
    (progress.observe_counts event).1) history

/-! ## Broker evidence -/

/-- The broker reported the ticket for the send, or lists it for a position with a key of the request. -/
inductive TicketOf (sha256 : HexDigest) (history : List PortEvent) (fill : Fill) (ticket : String) :
    Prop
  | reported {request report} (same : request.fill = fill)
      (answered : Returned history (.broker (.placeMarketOrder request)) report)
      (ticketed : report.brokerTicket = some ticket)
  | listed {symbol positions position}
      (answered : Returned history (.broker (.getPositions symbol)) positions)
      (member : position ∈ positions) (ticketed : position.ticket = ticket)
      (matching : position.signalId = some fill.signalId ∨
        position.strategyId = brokerCorrelationKey sha256 fill.key)

/-- The broker showed exactly the requested protection, or confirmed a modification to it. -/
inductive ProtectionConfirmed (sha256 : HexDigest) (history : List PortEvent) (fill : Fill) : Prop
  | observed {symbol positions position}
      (answered : Returned history (.broker (.getPositions symbol)) positions)
      (member : position ∈ positions) (owned : TicketOf sha256 history fill position.ticket)
      (stopLoss : position.stopLoss = fill.stopLoss)
      (takeProfit : position.takeProfit = fill.takeProfit)
  | repaired {ticket} (owned : TicketOf sha256 history fill ticket)
      (answered : Returned history
        (.broker (.modifyPosition ticket fill.stopLoss fill.takeProfit)) true)

section Monotone

variable {sha256 : HexDigest} {history later : List PortEvent} {fill : Fill}

theorem Returned.mono {op : Op} {value : op.Value} (earlier : Returned history op value)
    (extends_ : history ⊆ later) : Returned later op value := extends_ earlier

theorem TicketOf.mono {ticket : String} (owned : TicketOf sha256 history fill ticket)
    (extends_ : history ⊆ later) : TicketOf sha256 later fill ticket := by
  cases owned with
  | reported same answered ticketed => exact .reported same (answered.mono extends_) ticketed
  | listed answered member ticketed matching =>
    exact .listed (answered.mono extends_) member ticketed matching

theorem ProtectionConfirmed.mono (confirmed : ProtectionConfirmed sha256 history fill)
    (extends_ : history ⊆ later) : ProtectionConfirmed sha256 later fill := by
  cases confirmed with
  | observed answered member owned stopLoss takeProfit =>
    exact .observed (answered.mono extends_) member (owned.mono extends_) stopLoss takeProfit
  | repaired owned answered => exact .repaired (owned.mono extends_) (answered.mono extends_)

end Monotone

/-! ## Reported records -/

def recordShown : PortEvent → Option ExecutionRecord
  | ⟨.records (.claim _ _), .ok (record, _)⟩ => some record
  | ⟨.records (.get _), .ok record⟩ => record
  | ⟨.records (.update _ _ _ _ _), .ok record⟩ => some record
  | ⟨.attempts (.select _), .ok (some attempt)⟩ =>
    (SqlAlchemyIdempotencyStore.record attempt).toOption
  | ⟨.attempts (.update _ _ _ _ _), .ok attempt⟩ =>
    (SqlAlchemyIdempotencyStore.record attempt).toOption
  | _ => none

def Shown (history : List PortEvent) (record : ExecutionRecord) : Prop :=
  ∃ event ∈ history, recordShown event = some record

def Succeeded (history : List PortEvent) (fill : Fill) : Prop :=
  (∃ known, (progressOf history).working = some known ∧ known.fill = fill ∧
    known.status = .succeeded) ∨
  ∃ record, Shown history record ∧ record.status = .succeeded ∧ record.request.fill = fill

/-! ## The discipline of a call -/

/-- The last thing the call did was to record its key as `SUBMITTED`. -/
def JustSubmitted (kind : StoreKind) (history : List PortEvent) (key : String) : Prop :=
  ∃ earlier event, history = earlier ++ [event] ∧ kind.action event = .advance key .submitted

def ClaimWon (kind : StoreKind) (history : List PortEvent) (request : OrderRequest) : Prop :=
  ∃ event ∈ history, kind.action event = .claim request.idempotencyKey request.fill

/-- What clears a send, which keys a call may touch, and which records it may settle. -/
structure Role where
  cleared : List PortEvent → OrderRequest → Prop
  about : List PortEvent → String → Prop
  settles : Working → Prop
  about_mono : ∀ {history later key}, about history key → history ⊆ later → about later key

structure MaySend (kind : StoreKind) (role : Role) (history : List PortEvent)
    (request : OrderRequest) : Prop where
  cleared : role.cleared history request
  checked : ∃ check, Returned history (.broker (.validateOrder request)) check ∧
    check.accepted = true
  claimed : ClaimWon kind history request
  first : (progressOf history).sends = 0
  submitted : JustSubmitted kind history request.idempotencyKey

structure MayRead (role : Role) (history : List PortEvent) (key : String) : Prop where
  about : role.about history key
  idle : (progressOf history).working = none

/-- The record is one the call may settle, and `SUBMITTED` or `UNKNOWN`. -/
def Resolving (role : Role) (history : List PortEvent) : Prop :=
  ∃ known, (progressOf history).working = some known ∧ role.settles known ∧
    (known.status = .submitted ∨ known.status = .unknown)

structure MayModify (role : Role) (history : List PortEvent) : Prop where
  resolving : Resolving role history
  first : (progressOf history).modifies = 0
  unclosed : (progressOf history).closes = 0

structure MayClose (role : Role) (history : List PortEvent) : Prop where
  resolving : Resolving role history
  first : (progressOf history).closes = 0

/-- Reconciliation found the `MARKET` record of the key among the orders and not among the positions. -/
def ListedOnlyAsOrder (executor : TradeExecutor) (history : List PortEvent) (key : String) : Prop :=
  ∃ record positions orders order, Shown history record ∧ record.request.idempotencyKey = key ∧
    record.request.orderType = .market ∧
    [⟨.broker (.getPositions (some record.request.symbol)), .ok positions⟩,
      ⟨.broker (.getOrders (some record.request.symbol)), .ok orders⟩] <:+: history ∧
    executor.matchedPosition record key positions = none ∧ executor.matchedOrder key orders = some order

structure MayUpdate (executor : TradeExecutor) (role : Role) (history : List PortEvent)
    (key : String) (status : IdempotencyStatus) (known : Working) : Prop where
  working : (progressOf history).working = some known
  key_eq : known.key = key
  settles : role.settles known
  allowed : status ∈ known.status.allowed
  evidence : status = .succeeded → known.fill.orderType = .market → known.fill.key = key →
    ProtectionConfirmed executor.sha256 history known.fill ∨ ListedOnlyAsOrder executor history key
  untouched : status = .unknown →
    (progressOf history).modifies = 0 ∧ (progressOf history).closes = 0

def Discipline (executor : TradeExecutor) (role : Role) (history : List PortEvent) : Op → Prop
  | .broker (.placeMarketOrder request) => MaySend executor.kind role history request
  | .broker (.placePendingOrder request) => MaySend executor.kind role history request
  | .broker (.modifyPosition _ _ _) => MayModify role history
  | .broker (.closePosition _ _) => MayClose role history
  | .records (.get key) => executor.kind = .inMemory ∧ MayRead role history key
  | .records (.claim request _) =>
    executor.kind = .inMemory ∧ MayRead role history request.idempotencyKey
  | .records (.update key status _ _ _) =>
    executor.kind = .inMemory ∧ ∃ known, MayUpdate executor role history key status known
  | .attempts (.select key) => executor.kind = .sqlAlchemy ∧ MayRead role history key
  | .attempts (.resolveOrderId _) => executor.kind = .sqlAlchemy
  | .attempts (.insertClaim _ request _) =>
    executor.kind = .sqlAlchemy ∧ MayRead role history request.idempotencyKey
  | .attempts (.update key status _ _ _) =>
    executor.kind = .sqlAlchemy ∧ ∃ known, MayUpdate executor role history key status known
  | .config _ | .controls _ | .journal _ => False
  | _ => True

/-- An invalid-transition error that ends a call was an answer of the store. -/
def Excused (history : List PortEvent) (error : PyError) : Prop :=
  error.isFault = false → Raised history error

def Justified (history : List PortEvent) (outcome : ExecutionOutcome) : Prop :=
  outcome.status = .filled → ∃ request, outcome.request = some request ∧
    request.orderType = .market ∧ Succeeded history request.fill

section Rules

variable {history later last : List PortEvent} {executor : TradeExecutor} {key : String} {role : Role}

theorem ListedOnlyAsOrder.mono (listed : ListedOnlyAsOrder executor history key) (earlier : history <+: later) :
    ListedOnlyAsOrder executor later key := by
  obtain ⟨record, positions, orders, order, ⟨event, member, shown⟩, own, market, read, matched⟩ := listed
  exact ⟨record, positions, orders, order, ⟨event, earlier.subset member, shown⟩, own, market,
    read.trans earlier.isInfix, matched⟩

theorem ClaimWon.mono {kind : StoreKind} {request : OrderRequest} (won : ClaimWon kind history request)
    (included : history ⊆ later) : ClaimWon kind later request := by
  obtain ⟨event, member, claims⟩ := won
  exact ⟨event, included member, claims⟩

theorem excused_last (op : Op) (error : PyError) : Excused (history ++ [⟨op, .error error⟩]) error :=
  fun _ => ⟨op, by simp⟩

theorem excused_of_fault {error : PyError} (fault : error.isFault = true) : Excused history error :=
  fun refused => absurd refused (by simp [fault])

theorem returned_last (op : Op) (value : op.Value) : Returned (history ++ [⟨op, .ok value⟩]) op value := by
  simp [Returned]

/-- `later` extends `history` without progress. -/
structure Reads (history later : List PortEvent) : Prop where
  earlier : history <+: later
  progress : progressOf later = progressOf history

namespace Reads

theorem included (reads : Reads history later) : history ⊆ later := reads.earlier.subset

theorem refl (history : List PortEvent) : Reads history history := ⟨List.prefix_rfl, rfl⟩

theorem trans (first : Reads history later) (second : Reads later last) : Reads history last :=
  ⟨first.earlier.trans second.earlier, second.progress.trans first.progress⟩

theorem snoc (first : Reads history later) {event : PortEvent}
    (idle : ∀ progress : Progress, progress.observe event = progress) : Reads history (later ++ [event]) := by
  refine first.trans ⟨List.prefix_append _ _, ?_⟩
  rw [progressOf_append_singleton, idle]

end Reads

theorem MayRead.after (permitted : MayRead role history key)
    (reads : Reads history later) : MayRead role later key where
  about := role.about_mono permitted.about reads.included
  idle := reads.progress ▸ permitted.idle

theorem MayUpdate.after {status : IdempotencyStatus} {known : Working}
    (permitted : MayUpdate executor role history key status known) (reads : Reads history later) :
    MayUpdate executor role later key status known where
  working := reads.progress ▸ permitted.working
  key_eq := permitted.key_eq
  settles := permitted.settles
  allowed := permitted.allowed
  evidence := fun succeeded market own =>
    (permitted.evidence succeeded market own).imp (·.mono reads.included) (·.mono reads.earlier)
  untouched := fun unknown => reads.progress ▸ permitted.untouched unknown

end Rules

end GoldFlow
