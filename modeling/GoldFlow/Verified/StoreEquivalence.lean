import GoldFlow.Effect.Evaluation
import GoldFlow.Verified.StoreRefinement
import Mathlib.Data.Option.Basic

/-! # The two idempotency stores, call by call

Both stores are run side by side on one sequence of calls.
-/

namespace GoldFlow

open Effect SqlAlchemyIdempotencyStore

/-! ## Calls -/

inductive StoreCall where
  | claim (request : OrderRequest) (now : Instant)
  | get (key : String)
  | update (key : String) (status : IdempotencyStatus) (now : Instant) (report : Option ExecutionReport)
      (reason : String)

inductive StoreAnswer where
  | claimed (record : ExecutionRecord) (first : Bool)
  | found (record : Option ExecutionRecord)
  | updated (record : ExecutionRecord)

def StoreCall.program (store : IdempotencyStore) : StoreCall → Py StoreAnswer
  | .claim request now => do
    let (record, first) ← store.claim request now
    pure (.claimed record first)
  | .get key => do
    let record ← store.get key
    pure (.found record)
  | .update key status now report reason => do
    let record ← store.update key status now report reason
    pure (.updated record)

structure StoreContents where
  records : Records
  attempts : Attempts

/-- One client at a time; `resolve` is the order-id resolver. -/
def storeResponder (resolve : OrderRequest → String) : Responder Port PyError StoreContents where
  respond contents
    | .records (.claim request now) =>
      (.ok (InMemoryIdempotencyStore.claim contents.records request now).1,
        { contents with records := (InMemoryIdempotencyStore.claim contents.records request now).2 })
    | .records (.get key) => (.ok (contents.records key), contents)
    | .records (.update key status now report reason) =>
      match InMemoryIdempotencyStore.update contents.records key status now report reason with
      | .ok (record, records) => (.ok record, { contents with records })
      | .error error => (.error error, contents)
    | .attempts (.select key) => (.ok (contents.attempts key), contents)
    | .attempts (.resolveOrderId request) => (.ok (resolve request), contents)
    | .attempts (.insertClaim orderId request now) =>
      match insertClaim contents.attempts orderId request now with
      | .ok attempts => (.ok (), { contents with attempts })
      | .error error => (.error error, contents)
    | .attempts (.update key status now report reason) =>
      match update contents.attempts key status now report reason with
      | .ok (attempt, attempts) => (.ok attempt, { contents with attempts })
      | .error error => (.error error, contents)
    | _ => (.error (.runtime "not a store"), contents)

def StoreCall.outcome (resolve : OrderRequest → String) (store : IdempotencyStore) (call : StoreCall)
    (contents : StoreContents) : Except PyError StoreAnswer × StoreContents :=
  let outcome := (storeResponder resolve).evaluate (call.program store) contents
  (outcome.result, outcome.state)

def answersOf (resolve : OrderRequest → String) (store : IdempotencyStore) :
    StoreContents → List StoreCall → List (Except PyError StoreAnswer)
  | _, [] => []
  | contents, call :: calls =>
    let outcome := call.outcome resolve store contents
    outcome.1 :: answersOf resolve store outcome.2 calls

def StoreContents.empty : StoreContents where
  records _ := none
  attempts _ := none

/-! ## Rows and records -/

def StoreCall.RoundTrips : StoreCall → Prop
  | .claim request _ => requestFromPayload (requestPayload request) = .ok request
  | .get _ => True
  | .update _ _ _ report _ => ∀ carried ∈ report, reportFromPayload (reportPayload carried) = carried

theorem filter_eq_self_iff {α : Type} [DecidableEq α] {dropped : α} {value : Option α} :
    value.filter (· ≠ dropped) = value ↔ value ≠ some dropped := by
  cases value with
  | none => simp
  | some => simp

theorem storedDecimal_eq {value : Option Decimal} : storedDecimal value = value ↔ value ≠ some 0 := filter_eq_self_iff

theorem requestFromPayload_eq_ok {request : OrderRequest} (requested : request.requestedPrice ≠ some 0)
    (lower : request.entryMin ≠ some 0) (upper : request.entryMax ≠ some 0) :
    requestFromPayload (requestPayload request) = .ok request := by
  have sized : 0 < request.volume ∧ 0 < request.stopLoss := ⟨request.volume_pos, request.stopLoss_pos⟩
  have targeted : request.takeProfits ≠ [] ∧ ∀ target ∈ request.takeProfits, 0 < target :=
    ⟨request.takeProfits_nonempty, request.takeProfits_pos⟩
  simp only [requestFromPayload, requestPayload, storedDecimal_eq.mpr requested, storedDecimal_eq.mpr lower,
    storedDecimal_eq.mpr upper, OrderRequest.make, dif_pos sized, dif_pos targeted, dif_pos request.key_nonblank]

def Mirrored (records : Records) (attempts : Attempts) : Prop :=
  ∀ key, Option.Rel (fun kept row => record row = .ok kept) (records key) (attempts key)

theorem Mirrored.set {records : Records} {attempts : Attempts} (mirrored : Mirrored records attempts) (key : String)
    {kept : ExecutionRecord} {row : ExecutionAttempt} (read : record row = .ok kept) :
    Mirrored (Function.update records key (some kept)) (Function.update attempts key (some row)) := by
  intro other
  by_cases same : other = key
  · subst same
    simpa using Option.Rel.some read
  · simpa [Function.update_of_ne same] using mirrored other

namespace SqlAlchemyIdempotencyStore

variable {now : Instant}

theorem record_claimRow {request : OrderRequest} {orderId : String}
    (roundTrips : requestFromPayload (requestPayload request) = .ok request) :
    record (claimRow orderId request now) = .ok (ExecutionRecord.fresh request now) := by
  simp [record, claimRow, roundTrips, bind, Except.bind, pure, Except.pure, ExecutionRecord.fresh]

variable {current : ExecutionAttempt} {kept : ExecutionRecord} {status : IdempotencyStatus}
  {report : Option ExecutionReport}

theorem record_updateRow (read : record current = .ok kept) (accepted : status ∈ kept.status.allowed)
    (roundTrips : ∀ carried ∈ report, reportFromPayload (reportPayload carried) = carried) (now : Instant)
    (reason : String) :
    ∃ updated, updateRow current status now report reason = .ok updated ∧
      record updated =
        .ok { kept with status, report, reason, version := kept.version + 1, updatedAt := now } := by
  unfold record at read
  cases parsed : requestFromPayload current.requestPayload with
  | error => simp [parsed] at read
  | ok =>
    simp only [parsed, bind, Except.bind, pure, Except.pure, Except.ok.injEq] at read
    subst read
    refine ⟨_, if_pos accepted, ?_⟩
    have carried : report.map (reportFromPayload ∘ reportPayload) = report := by
      cases report with
      | none => rfl
      | some carried => simp [roundTrips carried rfl]
    have text : (if reason = "" then none else some reason : Option String).getD "" = reason := by
      split <;> simp_all
    simp [record, parsed, carried, text, bind, Except.bind, pure, Except.pure]

theorem updateRow_refused {reason : String} (read : record current = .ok kept)
    (refused : status ∉ kept.status.allowed) :
    updateRow current status now report reason = .error (.invalidTransition kept.status status) := by
  have same : current.status = kept.status := (record_eq_ok read).2.symm
  rw [← same] at refused ⊢
  exact if_neg refused

end SqlAlchemyIdempotencyStore

section Calls

variable {resolve : OrderRequest → String} {memory durable : StoreContents}

theorem memory_claim (request : OrderRequest) (now : Instant) :
    StoreCall.outcome resolve inMemoryStore (.claim request now) memory =
      (.ok (.claimed (InMemoryIdempotencyStore.claim memory.records request now).1.1
        (InMemoryIdempotencyStore.claim memory.records request now).1.2),
      { memory with records := (InMemoryIdempotencyStore.claim memory.records request now).2 }) := rfl

theorem memory_get (key : String) :
    StoreCall.outcome resolve inMemoryStore (.get key) memory = (.ok (.found (memory.records key)), memory) := rfl

theorem memory_update (key : String) (status : IdempotencyStatus) (now : Instant)
    (report : Option ExecutionReport) (reason : String) :
    StoreCall.outcome resolve inMemoryStore (.update key status now report reason) memory =
      match InMemoryIdempotencyStore.update memory.records key status now report reason with
      | .ok (record, records) => (.ok (.updated record), { memory with records })
      | .error error => (.error error, memory) := by
  cases result : InMemoryIdempotencyStore.update memory.records key status now report reason <;>
    simp [StoreCall.outcome, StoreCall.program, inMemoryStore, askRecords, Program.perform, Responder.evaluate,
      storeResponder, result]

theorem durable_claim_fresh {request : OrderRequest} (now : Instant)
    (free : durable.attempts request.idempotencyKey = none)
    (roundTrips : requestFromPayload (requestPayload request) = .ok request) :
    StoreCall.outcome resolve sqlAlchemyStore (.claim request now) durable =
      (.ok (.claimed (.fresh request now) true),
        { durable with
          attempts := Function.update durable.attempts request.idempotencyKey
            (some (claimRow (resolve request) request now)) }) := by
  have read : record
      (claimRow (resolve request) request now) = .ok (.fresh request now) :=
    record_claimRow roundTrips
  simp [StoreCall.outcome, StoreCall.program, sqlAlchemyStore, claimProgram, askAttempts,
    Program.perform, Responder.evaluate, storeResponder, free, Program.catching,
    insertClaim, read, Program.ofExcept, Functor.map]

variable {row : ExecutionAttempt} {kept : ExecutionRecord}

theorem durable_claim_taken {request : OrderRequest} (now : Instant)
    (found : durable.attempts request.idempotencyKey = some row)
    (read : record row = .ok kept) :
    StoreCall.outcome resolve sqlAlchemyStore (.claim request now) durable =
      (.ok (.claimed kept false), durable) := by
  simp [StoreCall.outcome, StoreCall.program, sqlAlchemyStore, claimProgram, askAttempts,
    Program.perform, Responder.evaluate, storeResponder, found, read, Program.ofExcept, Functor.map]

variable {key : String} {status : IdempotencyStatus} {now : Instant} {report : Option ExecutionReport}
  {reason : String}

theorem durable_get_unknown (unknown : durable.attempts key = none) :
    StoreCall.outcome resolve sqlAlchemyStore (.get key) durable = (.ok (.found none), durable) := by
  simp [StoreCall.outcome, StoreCall.program, sqlAlchemyStore, getProgram, askAttempts,
    Program.perform, Responder.evaluate, storeResponder, unknown]

theorem durable_get_known (found : durable.attempts key = some row)
    (read : record row = .ok kept) :
    StoreCall.outcome resolve sqlAlchemyStore (.get key) durable = (.ok (.found (some kept)), durable) := by
  simp [StoreCall.outcome, StoreCall.program, sqlAlchemyStore, getProgram, askAttempts,
    Program.perform, Responder.evaluate, storeResponder, found, read, Program.ofExcept, Functor.map]

theorem durable_update_error {error : PyError}
    (refused : update durable.attempts key status now report reason = .error error) :
    StoreCall.outcome resolve sqlAlchemyStore (.update key status now report reason) durable =
      (.error error, durable) := by
  simp [StoreCall.outcome, StoreCall.program, sqlAlchemyStore, updateProgram, askAttempts,
    Program.perform, Responder.evaluate, storeResponder, refused]

theorem durable_update_ok {attempts : Attempts}
    (accepted : update durable.attempts key status now report reason = .ok (row, attempts))
    (read : record row = .ok kept) :
    StoreCall.outcome resolve sqlAlchemyStore (.update key status now report reason) durable =
      (.ok (.updated kept), { durable with attempts }) := by
  simp [StoreCall.outcome, StoreCall.program, sqlAlchemyStore, updateProgram, askAttempts,
    Program.perform, Responder.evaluate, storeResponder, accepted, read, Program.ofExcept]

def SameAnswer (resolve : OrderRequest → String) (call : StoreCall) (memory durable : StoreContents) : Prop :=
  (call.outcome resolve inMemoryStore memory).1 = (call.outcome resolve sqlAlchemyStore durable).1 ∧
    Mirrored (call.outcome resolve inMemoryStore memory).2.records
      (call.outcome resolve sqlAlchemyStore durable).2.attempts

section

variable (mirrored : Mirrored memory.records durable.attempts)
include mirrored

theorem Mirrored.known (key : String) :
    (memory.records key = none ∧ durable.attempts key = none) ∨
      ∃ kept row, memory.records key = some kept ∧ durable.attempts key = some row ∧
        record row = .ok kept := by
  have known := mirrored key
  cases kept : memory.records key <;> cases found : durable.attempts key <;> rw [kept, found] at known
  · exact .inl ⟨rfl, rfl⟩
  · cases known
  · cases known
  · cases known with
    | some read => exact .inr ⟨_, _, rfl, rfl, read⟩

theorem claim_same {request : OrderRequest} (now : Instant)
    (roundTrips : requestFromPayload (requestPayload request) = .ok request) :
    SameAnswer resolve (.claim request now) memory durable := by
  unfold SameAnswer
  rw [memory_claim, InMemoryIdempotencyStore.claim]
  obtain ⟨free, unclaimed⟩ | ⟨kept, row, found, stored, read⟩ := mirrored.known request.idempotencyKey
  · rw [durable_claim_fresh now unclaimed roundTrips, free]
    exact ⟨rfl, mirrored.set _ (record_claimRow roundTrips)⟩
  · rw [durable_claim_taken now stored read, found]
    exact ⟨rfl, mirrored⟩

theorem get_same (key : String) : SameAnswer resolve (.get key) memory durable := by
  unfold SameAnswer
  rw [memory_get]
  obtain ⟨free, unclaimed⟩ | ⟨kept, row, found, stored, read⟩ := mirrored.known key
  · rw [durable_get_unknown unclaimed, free]
    exact ⟨rfl, mirrored⟩
  · rw [durable_get_known stored read, found]
    exact ⟨rfl, mirrored⟩

end

section Updates

variable {key : String} {status : IdempotencyStatus} {report : Option ExecutionReport} {kept : ExecutionRecord}
  {row : ExecutionAttempt}

variable (mirrored : Mirrored memory.records durable.attempts)
include mirrored

theorem update_unknown_same (free : memory.records key = none) (unclaimed : durable.attempts key = none)
    (now : Instant) (reason : String) : SameAnswer resolve (.update key status now report reason) memory durable := by
  have refused : update durable.attempts key status now report reason =
      .error (.key ("unknown idempotency key " ++ key)) := by
    simp [update, unclaimed]
  unfold SameAnswer
  rw [memory_update, durable_update_error refused, InMemoryIdempotencyStore.update, free]
  exact ⟨rfl, mirrored⟩

theorem update_refused_same (found : memory.records key = some kept) (stored : durable.attempts key = some row)
    (read : record row = .ok kept) (refused : status ∉ kept.status.allowed) (now : Instant)
    (reason : String) : SameAnswer resolve (.update key status now report reason) memory durable := by
  have rejected : update durable.attempts key status now report reason =
      .error (.invalidTransition kept.status status) := by
    simp [update, stored, updateRow_refused read refused]
  unfold SameAnswer
  rw [memory_update, durable_update_error rejected, InMemoryIdempotencyStore.update, found]
  simp only [ExecutionRecord.update, if_neg refused, bind, Except.bind]
  exact ⟨trivial, mirrored⟩

theorem update_accepted (found : memory.records key = some kept) (stored : durable.attempts key = some row)
    (read : record row = .ok kept) (accepted : status ∈ kept.status.allowed)
    (roundTrips : ∀ carried ∈ report, reportFromPayload (reportPayload carried) = carried) (now : Instant)
    (reason : String) :
    (report.or kept.report = report → SameAnswer resolve (.update key status now report reason) memory durable) ∧
      (report.or kept.report ≠ report →
        (StoreCall.outcome resolve inMemoryStore (.update key status now report reason) memory).1 ≠
          (StoreCall.outcome resolve sqlAlchemyStore (.update key status now report reason) durable).1) := by
  obtain ⟨updated, changed, reread⟩ :=
    record_updateRow read accepted roundTrips now reason
  have committed : update durable.attempts key status now report reason =
      .ok (updated, Function.update durable.attempts key (some updated)) := by
    simp [update, stored, changed, bind, Except.bind, pure, Except.pure]
  unfold SameAnswer
  rw [memory_update, durable_update_ok committed reread, InMemoryIdempotencyStore.update, found]
  simp only [ExecutionRecord.update, if_pos accepted, bind, Except.bind, pure, Except.pure]
  refine ⟨fun same => ?_, fun differs equal => differs ?_⟩
  · rw [same]
    exact ⟨rfl, mirrored.set key reread⟩
  · simpa using equal

end Updates

end Calls

/-! ## Runs -/

def StoreCall.KeepsReport (records : Records) : StoreCall → Prop
  | .claim _ _ | .get _ => True
  | .update key status _ report _ =>
    ∀ current ∈ records key, status ∈ current.status.allowed → report = none → current.report = none

/-- `KeepsReport` at every call. -/
def ReportsKept (resolve : OrderRequest → String) : StoreContents → List StoreCall → Prop
  | _, [] => True
  | memory, call :: calls =>
    call.KeepsReport memory.records ∧ ReportsKept resolve (call.outcome resolve inMemoryStore memory).2 calls

section Runs

variable (resolve : OrderRequest → String) {memory durable : StoreContents} {call : StoreCall}

theorem call_same_or_differs (mirrored : Mirrored memory.records durable.attempts) (roundTrips : call.RoundTrips) :
    (call.KeepsReport memory.records → SameAnswer resolve call memory durable) ∧
      (¬ call.KeepsReport memory.records →
        (call.outcome resolve inMemoryStore memory).1 ≠ (call.outcome resolve sqlAlchemyStore durable).1) := by
  cases call with
  | claim request now => exact ⟨fun _ => claim_same mirrored now roundTrips, fun drops => absurd trivial drops⟩
  | get key => exact ⟨fun _ => get_same mirrored key, fun drops => absurd trivial drops⟩
  | update key status now report reason =>
    obtain ⟨free, unclaimed⟩ | ⟨kept, row, found, stored, read⟩ := mirrored.known key
    · refine ⟨fun _ => update_unknown_same mirrored free unclaimed now reason, fun drops => absurd ?_ drops⟩
      simp [StoreCall.KeepsReport, free]
    · by_cases accepted : status ∈ kept.status.allowed
      · have keeps : StoreCall.KeepsReport memory.records (.update key status now report reason) ↔
            report.or kept.report = report := by
          cases report <;> simp [StoreCall.KeepsReport, found, accepted]
        rw [keeps]
        exact update_accepted mirrored found stored read accepted roundTrips now reason
      · refine ⟨fun _ => update_refused_same mirrored found stored read accepted now reason,
          fun drops => absurd ?_ drops⟩
        simp [StoreCall.KeepsReport, found, accepted]

theorem answers_eq_iff (calls : List StoreCall) (roundTrip : ∀ call ∈ calls, call.RoundTrips)
    (mirrored : Mirrored memory.records durable.attempts) :
    answersOf resolve inMemoryStore memory calls = answersOf resolve sqlAlchemyStore durable calls ↔
      ReportsKept resolve memory calls := by
  induction calls generalizing memory durable with
  | nil => simp [answersOf, ReportsKept]
  | cons call calls ih =>
    have step := call_same_or_differs resolve mirrored (roundTrip call (by simp))
    simp only [answersOf, ReportsKept, List.cons.injEq]
    by_cases keeps : call.KeepsReport memory.records
    · obtain ⟨same, stays⟩ := step.1 keeps
      rw [ih (fun later member => roundTrip later (by simp [member])) stays]
      simp [same, keeps]
    · simp [step.2 keeps, keeps]

end Runs

/-- **The two stores are interchangeable** exactly when no accepted update without a report meets a record that
has one. -/
theorem stores_interchangeable_iff (resolve : OrderRequest → String) (calls : List StoreCall)
    (roundTrip : ∀ call ∈ calls, call.RoundTrips) :
    answersOf resolve inMemoryStore .empty calls = answersOf resolve sqlAlchemyStore .empty calls ↔
      ReportsKept resolve .empty calls :=
  answers_eq_iff resolve calls roundTrip fun _ => .none

namespace StoreDemo

def request : OrderRequest where
  signalId := ⟨"6f9619ff-8b86-4d01-b42d-00cf4fc964ff"⟩
  strategyId := "gold"
  symbol := "XAUUSD"
  direction := .long
  orderType := .market
  volume := 1 / 10
  stopLoss := 1990
  takeProfits := [2020]
  idempotencyKey := "order-1"
  volume_pos := Demo.tenth_pos
  stopLoss_pos := Demo.stop_pos
  takeProfits_nonempty := by simp
  takeProfits_pos := by simp
  key_nonblank := by decide

def accepted : ExecutionReport where
  success := true
  idempotencyKey := "order-1"
  brokerTicket := some "7"
  requestedPrice := none
  executedPrice := some 2000
  volume := 1 / 10
  submittedAt := seconds 1

def calls : List StoreCall :=
  [.claim request (seconds 0), .update "order-1" .submitted (seconds 1) (some accepted) "",
    .update "order-1" .unknown (seconds 2) none "connection lost"]

theorem roundTrip : ∀ call ∈ calls, call.RoundTrips := by
  have requested : requestFromPayload (requestPayload request) = .ok request :=
    requestFromPayload_eq_ok (by decide) (by decide) (by decide)
  have reported : reportFromPayload (reportPayload accepted) = accepted := by decide +kernel
  simp [calls, StoreCall.RoundTrips, requested, reported]

def resolve : OrderRequest → String := OrderRequest.idempotencyKey

end StoreDemo

open StoreDemo in
theorem stores_interchangeable_submission :
    (∀ call ∈ calls.take 2, call.RoundTrips) ∧
      answersOf resolve inMemoryStore .empty (calls.take 2) =
        answersOf resolve sqlAlchemyStore .empty (calls.take 2) := by
  have roundTrips : ∀ call ∈ calls.take 2, call.RoundTrips :=
    fun call member => roundTrip call (List.mem_of_mem_take member)
  refine ⟨roundTrips, (stores_interchangeable_iff resolve _ roundTrips).mpr ?_⟩
  simp [calls, ReportsKept, StoreCall.KeepsReport]

def StoreAnswer.carriesReport : StoreAnswer → Bool
  | .claimed record _ | .updated record => record.report.isSome
  | .found record => record.any (·.report.isSome)

open StoreDemo in
/-- The durable record of the lost connection no longer has the broker's report. -/
theorem durable_store_drops_report :
    (∀ call ∈ calls, call.RoundTrips) ∧
      (answersOf resolve inMemoryStore .empty calls).map (·.toOption.map StoreAnswer.carriesReport) =
        [some false, some true, some true] ∧
      (answersOf resolve sqlAlchemyStore .empty calls).map (·.toOption.map StoreAnswer.carriesReport) =
        [some false, some true, some false] := by
  refine ⟨roundTrip, ?_, ?_⟩ <;> decide +kernel

/-! ## Payloads -/

theorem requestFromPayload_eq_iff {request : OrderRequest} :
    requestFromPayload (requestPayload request) = .ok request ↔
      request.requestedPrice ≠ some 0 ∧ request.entryMin ≠ some 0 ∧ request.entryMax ≠ some 0 := by
  constructor
  · intro decoded
    obtain ⟨_, _, _, _, _, _, _, _, requested, lower, upper, _⟩ := OrderRequest.make_eq_ok decoded
    exact ⟨storedDecimal_eq.mp requested.symm, storedDecimal_eq.mp lower.symm, storedDecimal_eq.mp upper.symm⟩
  · rintro ⟨requested, lower, upper⟩
    exact requestFromPayload_eq_ok requested lower upper

/-- **A payload is decoded as it was encoded** iff no price is zero and no text of a report is empty. -/
theorem payloads_roundTrip_iff (request : OrderRequest) (report : ExecutionReport) :
    (requestFromPayload (requestPayload request) = .ok request ↔
        request.requestedPrice ≠ some 0 ∧ request.entryMin ≠ some 0 ∧ request.entryMax ≠ some 0) ∧
      (reportFromPayload (reportPayload report) = report ↔
        report.requestedPrice ≠ some 0 ∧ report.executedPrice ≠ some 0 ∧ report.brokerTicket ≠ some "" ∧
          report.brokerCode ≠ some "") := by
  refine ⟨requestFromPayload_eq_iff, ?_⟩
  have texts : ∀ {value : Option String}, storedText value = value ↔ value ≠ some "" := filter_eq_self_iff
  obtain ⟨success, key, ticket, requested, executed, volume, code, message, submittedAt⟩ := report
  simp only [reportFromPayload, reportPayload, ExecutionReport.mk.injEq, storedDecimal_eq, texts]
  tauto

open StoreDemo in
/-- The zero limit comes back as no limit, and an empty ticket as no ticket. -/
theorem zero_price_decoded_as_none :
    (requestFromPayload (requestPayload { request with requestedPrice := some 0 })).toOption.map
        (·.requestedPrice) = some none ∧
      (reportFromPayload (reportPayload { accepted with brokerTicket := some "" })).brokerTicket = none := by
  decide +kernel

end GoldFlow
