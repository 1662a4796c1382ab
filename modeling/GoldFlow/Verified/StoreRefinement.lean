import GoldFlow.Effect.Ledger
import GoldFlow.Effect.Pool
import GoldFlow.World

/-! # Both idempotency stores are ledgers

Whatever else a store keeps, a key maps to the fill it was claimed for and to a status.
-/

namespace GoldFlow

open Effect SqlAlchemyIdempotencyStore

/-! ## Fills -/

structure Fill where
  key : String
  signalId : UUID
  symbol : String
  orderType : OrderType
  stopLoss : Decimal
  takeProfit : Option Decimal
  deriving DecidableEq

def OrderRequest.fill (request : OrderRequest) : Fill :=
  { key := request.idempotencyKey
    signalId := request.signalId
    symbol := request.symbol
    orderType := request.orderType
    stopLoss := request.stopLoss
    takeProfit := request.takeProfits.getLast? }

def RequestPayload.fill (payload : RequestPayload) : Fill :=
  { key := payload.idempotencyKey
    signalId := payload.signalId
    symbol := payload.symbol
    orderType := payload.orderType
    stopLoss := payload.stopLoss
    takeProfit := payload.takeProfits.getLast? }

theorem OrderRequest.fill_takeProfit (request : OrderRequest) : request.fill.takeProfit = some request.finalTarget :=
  List.getLast?_eq_some_getLast request.takeProfits_nonempty

theorem OrderRequest.make_eq_ok {signalId : UUID} {strategyId symbol : String} {direction : Direction}
    {orderType : OrderType} {volume stopLoss : Decimal} {takeProfits : List Decimal} {key : String}
    {requestedPrice entryMin entryMax : Option Decimal} {expiresAt : Option Instant} {maximumSlippage : Decimal}
    {comment : String} {request : OrderRequest}
    (made : OrderRequest.make signalId strategyId symbol direction orderType volume stopLoss takeProfits key
      requestedPrice entryMin entryMax expiresAt maximumSlippage comment = .ok request) :
    request.signalId = signalId ∧ request.symbol = symbol ∧ request.direction = direction ∧
      request.orderType = orderType ∧ request.volume = volume ∧ request.stopLoss = stopLoss ∧
      request.takeProfits = takeProfits ∧ request.idempotencyKey = key ∧
      request.requestedPrice = requestedPrice ∧ request.entryMin = entryMin ∧
      request.entryMax = entryMax ∧ request.expiresAt = expiresAt := by
  unfold OrderRequest.make at made
  split at made
  next =>
    split at made
    next =>
      split at made
      next => cases made; simp
      next => cases made
    next => cases made
  next => cases made

theorem SqlAlchemyIdempotencyStore.record_eq_ok {attempt : ExecutionAttempt}
    {decoded : ExecutionRecord} (read : record attempt = .ok decoded) :
    decoded.request.fill = attempt.requestPayload.fill ∧ decoded.status = attempt.status := by
  unfold record at read
  cases parsed : requestFromPayload attempt.requestPayload with
  | error => simp [parsed] at read
  | ok =>
    simp only [parsed, bind, Except.bind, pure, Except.pure, Except.ok.injEq] at read
    subst read
    obtain ⟨signalId, symbol, _, orderType, _, stopLoss, takeProfits, key, _⟩ :=
      OrderRequest.make_eq_ok parsed
    simp [OrderRequest.fill, RequestPayload.fill, signalId, symbol, orderType, stopLoss,
      takeProfits, key]

/-! ## The ledger of a store -/

abbrev StoreEntry := Ledger.Entry Fill IdempotencyStatus

abbrev StoreAction := Ledger.Action String Fill IdempotencyStatus

def ExecutionRecord.entry (record : ExecutionRecord) : StoreEntry :=
  { data := record.request.fill, status := record.status }

def ExecutionAttempt.entry (attempt : ExecutionAttempt) : StoreEntry :=
  { data := attempt.requestPayload.fill, status := attempt.status }

def World.entries (state : World) : StoreKind → String → Option StoreEntry
  | .inMemory, key => (state.records key).map ExecutionRecord.entry
  | .sqlAlchemy, key => (state.attempts key).map ExecutionAttempt.entry

def StoreKind.action : StoreKind → PortEvent → StoreAction
  | .inMemory, ⟨.records (.claim request _), .ok (_, true)⟩ =>
    .claim request.idempotencyKey request.fill
  | .inMemory, ⟨.records (.update key status _ _ _), .ok _⟩ => .advance key status
  | .sqlAlchemy, ⟨.attempts (.insertClaim _ request _), .ok ()⟩ =>
    .claim request.idempotencyKey request.fill
  | .sqlAlchemy, ⟨.attempts (.update key status _ _ _), .ok _⟩ => .advance key status
  | _, _ => .idle

def StoreKind.reads : StoreKind → PortEvent → Option (String × StoreEntry)
  | .inMemory, ⟨.records (.get key), .ok (some record)⟩ => some (key, record.entry)
  | .sqlAlchemy, ⟨.attempts (.select key), .ok (some attempt)⟩ => some (key, attempt.entry)
  | _, _ => none

def IdempotencyStatus.Follows (current next : IdempotencyStatus) : Prop := next ∈ current.allowed

instance IdempotencyStatus.decidableFollows (current next : IdempotencyStatus) :
    Decidable (current.Follows next) :=
  inferInstanceAs (Decidable (next ∈ current.allowed))

abbrev StoreStep := Ledger.Step (K := String) (D := Fill) IdempotencyStatus.claimed
  IdempotencyStatus.Follows

section Refinement

variable {state after : World} {status : IdempotencyStatus} {now : Instant} {report : Option ExecutionReport}
  {reason : String} {op : AttemptOp} {event : PortEvent}

theorem ExecutionRecord.update_eq_ok {current updated : ExecutionRecord}
    (accepted : current.update status now report reason = .ok updated) :
    current.status.Follows status ∧ updated.request = current.request ∧ updated.status = status := by
  unfold ExecutionRecord.update at accepted
  split at accepted
  next permitted =>
    cases accepted
    exact ⟨permitted, rfl, rfl⟩
  next => cases accepted

theorem SqlAlchemyIdempotencyStore.updateRow_eq_ok {current updated : ExecutionAttempt}
    (accepted : updateRow current status now report reason = .ok updated) :
    current.status.Follows status ∧ updated.requestPayload = current.requestPayload ∧ updated.status = status := by
  unfold updateRow at accepted
  split at accepted
  next permitted =>
    cases accepted
    exact ⟨permitted, rfl, rfl⟩
  next => cases accepted

theorem entries_update {α : Type} (store : String → Option α) (view : α → StoreEntry) (key : String) (value : α) :
    (fun other => (Function.update store key (some value) other).map view) =
      Function.update (fun other => (store other).map view) key (some (view value)) := by
  funext other
  by_cases same : other = key
  · subst same
    simp
  · simp [Function.update_of_ne same]

theorem entries_records_update (key : String) (record : ExecutionRecord) :
    World.entries { state with records := Function.update state.records key (some record) } .inMemory =
      Function.update (state.entries .inMemory) key (some record.entry) :=
  entries_update state.records ExecutionRecord.entry key record

theorem entries_attempts_update (key : String) (attempt : ExecutionAttempt) :
    World.entries { state with attempts := Function.update state.attempts key (some attempt) }
        .sqlAlchemy =
      Function.update (state.entries .sqlAlchemy) key (some attempt.entry) :=
  entries_update state.attempts ExecutionAttempt.entry key attempt

inductive RecordMove (state : World) : (op : RecordOp) → Except PyError op.Value → World → Prop
  | claimed {request now} (free : state.records request.idempotencyKey = none) :
      RecordMove state (.claim request now) (.ok (.fresh request now, true))
        { state with
          records := Function.update state.records request.idempotencyKey (some (.fresh request now)) }
  | taken {request now existing} (found : state.records request.idempotencyKey = some existing) :
      RecordMove state (.claim request now) (.ok (existing, false)) state
  | read {key} : RecordMove state (.get key) (.ok (state.records key)) state
  | updated {key status now report reason current record} (found : state.records key = some current)
      (changed : current.update status now report reason = .ok record) :
      RecordMove state (.update key status now report reason) (.ok record)
        { state with records := Function.update state.records key (some record) }
  | missing {key status now report reason message} :
      RecordMove state (.update key status now report reason) (.error (.key message)) state
  | refused {key status now report reason current error} (found : state.records key = some current)
      (refusal : ¬ current.status.Follows status) :
      RecordMove state (.update key status now report reason) (.error error) state

theorem recordMove_of_step {op : RecordOp} {reply : Except PyError op.Value}
    (step : state.recordStep op reply after) : RecordMove state op reply after := by
  cases op with
  | get =>
    obtain ⟨rfl, rfl⟩ := step
    exact .read
  | claim request =>
    unfold World.recordStep InMemoryIdempotencyStore.claim at step
    cases found : state.records request.idempotencyKey with
    | some =>
      simp only [found] at step
      obtain ⟨rfl, rfl⟩ := step
      exact .taken found
    | none =>
      simp only [found] at step
      obtain ⟨rfl, rfl⟩ := step
      exact .claimed found
  | update key status =>
    unfold World.recordStep InMemoryIdempotencyStore.update at step
    cases found : state.records key with
    | none =>
      simp only [found] at step
      obtain ⟨rfl, rfl⟩ := step
      exact .missing
    | some current =>
      by_cases follows : status ∈ current.status.allowed
      · simp only [found, ExecutionRecord.update, if_pos follows] at step
        obtain ⟨rfl, rfl⟩ := step
        exact .updated found (if_pos follows)
      · simp only [found, ExecutionRecord.update, if_neg follows] at step
        obtain ⟨rfl, rfl⟩ := step
        exact .refused found follows

/-- The unique key refuses a second insert, and an update locks its row. -/
inductive AttemptMove (state : World) : (op : AttemptOp) → Except PyError op.Value → World → Prop
  | selected {key} : AttemptMove state (.select key) (.ok (state.attempts key)) state
  | resolved {request reply} (answered : AnyAnswer reply) : AttemptMove state (.resolveOrderId request) reply state
  | inserted {orderId request now} (free : state.attempts request.idempotencyKey = none) :
      AttemptMove state (.insertClaim orderId request now) (.ok ())
        { state with
          attempts := Function.update state.attempts request.idempotencyKey
            (some (claimRow orderId request now)) }
  | taken {orderId request now message} :
      AttemptMove state (.insertClaim orderId request now) (.error (.integrity message)) state
  | updated {key status now report reason current attempt} (found : state.attempts key = some current)
      (changed : updateRow current status now report reason = .ok attempt) :
      AttemptMove state (.update key status now report reason) (.ok attempt)
        { state with attempts := Function.update state.attempts key (some attempt) }
  | missing {key status now report reason message} :
      AttemptMove state (.update key status now report reason) (.error (.key message)) state
  | refused {key status now report reason current error} (found : state.attempts key = some current)
      (refusal : ¬ current.status.Follows status) :
      AttemptMove state (.update key status now report reason) (.error error) state
  | failed {op fault} (isFault : fault.isFault = true) : AttemptMove state op (.error fault) state

theorem attemptMove_of_step {reply : Except PyError op.Value} (step : state.attemptStep op reply after) :
    AttemptMove state op reply after := by
  cases op with
  | select =>
    cases step with
    | committed read => cases read; exact .selected
    | refused impossible => cases impossible
    | failed isFault => exact .failed isFault
  | resolveOrderId =>
    obtain ⟨answered, rfl⟩ := step
    exact .resolved answered
  | insertClaim orderId request =>
    unfold World.attemptStep insertClaim at step
    cases found : state.attempts request.idempotencyKey with
    | some =>
      simp only [found] at step
      cases step with
      | committed inserted => cases inserted
      | refused raised => cases raised; exact .taken
      | failed isFault => exact .failed isFault
    | none =>
      simp only [found] at step
      cases step with
      | committed inserted => cases inserted; exact .inserted found
      | refused raised => cases raised
      | failed isFault => exact .failed isFault
  | update key status =>
    unfold World.attemptStep update at step
    cases found : state.attempts key with
    | none =>
      simp only [found] at step
      cases step with
      | committed changed => cases changed
      | refused raised => cases raised; exact .missing
      | failed isFault => exact .failed isFault
    | some current =>
      by_cases follows : status ∈ current.status.allowed
      · simp only [found, updateRow, if_pos follows] at step
        cases step with
        | committed changed => cases changed; exact .updated found (if_pos follows)
        | refused raised => cases raised
        | failed isFault => exact .failed isFault
      · simp only [found, updateRow, if_neg follows] at step
        cases step with
        | committed changed => cases changed
        | refused raised => cases raised; exact .refused found follows
        | failed isFault => exact .failed isFault

theorem recordStep_refines {op : RecordOp} {reply : Except PyError op.Value} (step : state.recordStep op reply after) :
    StoreStep (state.entries .inMemory) (StoreKind.inMemory.action ⟨.records op, reply⟩)
      (after.entries .inMemory) := by
  cases recordMove_of_step step with
  | read | taken _ | missing | refused _ _ => exact .idle
  | claimed free =>
    rw [entries_records_update]
    exact .claim (by simp [World.entries, free])
  | @updated key status _ _ _ current record found changed =>
    obtain ⟨follows, request, reached⟩ := ExecutionRecord.update_eq_ok changed
    have present : state.entries .inMemory key = some current.entry := by
      simp [World.entries, found]
    have entry : record.entry = { current.entry with status } := by
      simp [ExecutionRecord.entry, request, reached]
    rw [entries_records_update, entry]
    exact .advance present follows

theorem attemptStep_refines {reply : Except PyError op.Value} (step : state.attemptStep op reply after) :
    StoreStep (state.entries .sqlAlchemy) (StoreKind.sqlAlchemy.action ⟨.attempts op, reply⟩)
      (after.entries .sqlAlchemy) := by
  cases attemptMove_of_step step with
  | selected | resolved _ | taken | missing | refused _ _ => exact .idle
  | failed => cases op <;> exact .idle
  | inserted free =>
    rw [entries_attempts_update]
    exact .claim (by simp [World.entries, free])
  | @updated key status _ _ _ current attempt found changed =>
    obtain ⟨follows, payload, reached⟩ := updateRow_eq_ok changed
    have present : state.entries .sqlAlchemy key = some current.entry := by
      simp [World.entries, found]
    have entry : attempt.entry = { current.entry with status } := by
      simp [ExecutionAttempt.entry, payload, reached]
    rw [entries_attempts_update, entry]
    exact .advance present follows

theorem recordStep_attempts {op : RecordOp} {reply : Except PyError op.Value}
    (step : state.recordStep op reply after) : after.attempts = state.attempts := by
  cases recordMove_of_step step <;> rfl

theorem attemptStep_records {reply : Except PyError op.Value} (step : state.attemptStep op reply after) :
    after.records = state.records := by
  cases attemptMove_of_step step <;> rfl

/-- **Every step of the world is a step of the ledger of either store.** -/
theorem world_refines_ledger (kind : StoreKind) (step : world.step state event after) :
    StoreStep (state.entries kind) (kind.action event) (after.entries kind) := by
  obtain ⟨op, reply⟩ := event
  -- a step outside a store leaves its entries alone
  have aside : after.entries kind = state.entries kind → kind.action ⟨op, reply⟩ = .idle →
      StoreStep (state.entries kind) (kind.action ⟨op, reply⟩) (after.entries kind) := by
    intro same idle
    rw [same, idle]
    exact .idle
  cases op with
  | records =>
    cases kind with
    | inMemory => exact recordStep_refines step
    | sqlAlchemy =>
      have same : after.attempts = state.attempts := recordStep_attempts step
      exact aside (by funext key; simp [World.entries, same]) rfl
  | attempts =>
    cases kind with
    | sqlAlchemy => exact attemptStep_refines step
    | inMemory =>
      have same : after.records = state.records := attemptStep_records step
      exact aside (by funext key; simp [World.entries, same]) rfl
  | config op =>
    have same : after.records = state.records ∧ after.attempts = state.attempts := by
      cases op with
      | activeConfig =>
        cases step with
        | committed read => cases read; exact ⟨rfl, rfl⟩
        | refused => exact ⟨rfl, rfl⟩
        | failed => exact ⟨rfl, rfl⟩
      | activateConfig =>
        cases step with
        | committed written => cases written; exact ⟨rfl, rfl⟩
        | refused => exact ⟨rfl, rfl⟩
        | failed => exact ⟨rfl, rfl⟩
    exact aside (by funext key; cases kind <;> simp [World.entries, same]) (by cases kind <;> rfl)
  | controls =>
    obtain ⟨_, rfl⟩ := step
    exact aside (by cases kind <;> rfl) (by cases kind <;> rfl)
  | _ =>
    obtain ⟨_, rfl⟩ := step
    exact aside rfl (by cases kind <;> rfl)

theorem stored_of_reads {kind : StoreKind} {key : String} {entry : StoreEntry}
    (reads : kind.reads event = some (key, entry)) (step : world.step state event after) :
    state.entries kind key = some entry := by
  unfold StoreKind.reads at reads
  split at reads
  next read record =>
    obtain ⟨rfl, rfl⟩ : read = key ∧ record.entry = entry := by simpa using reads
    obtain ⟨answer, _⟩ := step
    have found : state.records read = some record := by simpa using answer.symm
    simp [World.entries, found]
  next read attempt =>
    obtain ⟨rfl, rfl⟩ : read = key ∧ attempt.entry = entry := by simpa using reads
    have found : state.attempts read = some attempt := by
      cases step with
      | committed selected =>
        simp only [Except.ok.injEq, Prod.mk.injEq] at selected
        exact selected.1
    simp [World.entries, found]
  next => cases reads

end Refinement

/-! ## Records over whole runs -/

/-- The store still has the entry, with a status that the table leads to. -/
def Survives (kind : StoreKind) (key : String) (entry : StoreEntry) (state : World) : Prop :=
  ∃ status, Relation.ReflTransGen IdempotencyStatus.Follows entry.status status ∧
    state.entries kind key = some { entry with status }

/-- **No record is lost or claimed anew**, whoever runs. -/
theorem records_persist {ι C α : Type} [DecidableEq ι] {body : ι → C → Py α} {pool final : Pool Port PyError α World ι}
    {made : List (Label Port PyError α ι C)} {kind : StoreKind} {key : String} {entry : StoreEntry}
    (run : Pool.Run world body pool made final) (present : pool.shared.entries kind key = some entry) :
    Survives kind key entry final.shared := by
  induction run with
  | nil => exact ⟨_, .refl, present⟩
  | snoc _ last ih =>
    obtain ⟨status, reached, found⟩ := ih
    cases last with
    | event _ step =>
      obtain kept | ⟨next, _, follows, moved⟩ := (world_refines_ledger kind step).entry_persists found
      · exact ⟨status, reached, kept⟩
      · exact ⟨next, reached.tail follows, moved⟩
    | _ => exact ⟨status, reached, found⟩

end GoldFlow
