import GoldFlow.Verified.LedgerPlan

/-! # Reconciliation against a ledger that may refuse -/

namespace GoldFlow

open Effect ReconciliationService Responder

variable {σ α : Type}

inductive Attempted (apply : LedgerRecord α → σ → Except PyError σ) : σ → List (LedgerWrite α) → σ → Bool → Prop
  | done {ledger} : Attempted apply ledger [] ledger true
  | stored {ledger middle final complete write writes} :
      apply write.record ledger = .ok middle → Attempted apply middle writes final complete →
      Attempted apply ledger (write :: writes) final complete
  | refused {ledger error write writes} :
      apply write.record ledger = .error error → Attempted apply ledger (write :: writes) ledger false

namespace Attempted

variable {apply : LedgerRecord α → σ → Except PyError σ} {ledger final : σ} {writes : List (LedgerWrite α)}
  {complete : Bool}

theorem invariant (attempted : Attempted apply ledger writes final complete) (holds : σ → Prop)
    (kept : ∀ before after write, write ∈ writes → holds before → apply write.record before = .ok after → holds after)
    (initially : holds ledger) : holds final := by
  induction attempted with
  | done => exact initially
  | stored made _ ih =>
    apply ih
    · intro before after write member
      exact kept before after write (List.mem_cons_of_mem _ member)
    · exact kept _ _ _ List.mem_cons_self initially made
  | refused => exact initially

theorem completes (attempted : Attempted apply ledger writes final complete) (holds : List (LedgerWrite α) → σ → Prop)
    (commits : ∀ write writes before, holds (write :: writes) before → ∃ after, apply write.record before = .ok after)
    (kept : ∀ write writes before after, holds (write :: writes) before → apply write.record before = .ok after →
      holds writes after)
    (initially : holds writes ledger) : complete = true ∧ holds [] final := by
  induction attempted with
  | done => exact ⟨rfl, initially⟩
  | stored made _ ih => exact ih (kept _ _ _ _ initially made)
  | refused failed =>
    obtain ⟨after, made⟩ := commits _ _ _ initially
    rw [failed] at made
    cases made

/-- The writes that were made, and the one that was refused after them. -/
theorem made (attempted : Attempted apply ledger writes final complete) :
    ∃ made rest, writes = made ++ rest ∧ Attempted apply ledger made final true ∧
      (rest = [] ∨ ∃ write later error, rest = write :: later ∧ apply write.record final = .error error) := by
  induction attempted with
  | done => exact ⟨[], [], rfl, .done, .inl rfl⟩
  | @stored _ _ _ _ write _ stored _ ih =>
    obtain ⟨made, rest, rfl, attempted, ends⟩ := ih
    exact ⟨write :: made, rest, rfl, .stored stored attempted, ends⟩
  | refused failed => exact ⟨[], _, rfl, .done, .inr ⟨_, _, _, rfl, failed⟩⟩

theorem split {earlier later : List (LedgerWrite α)} {write : LedgerWrite α}
    (attempted : Attempted apply ledger (earlier ++ write :: later) final true) :
    ∃ middle after, Attempted apply ledger earlier middle true ∧ apply write.record middle = .ok after := by
  induction earlier generalizing ledger with
  | nil =>
    cases attempted with
    | stored stored => exact ⟨ledger, _, .done, stored⟩
  | cons first earlier ih =>
    cases attempted with
    | stored stored rest =>
      obtain ⟨middle, after, begun, next⟩ := ih rest
      exact ⟨middle, after, .stored stored begun, next⟩

end Attempted

def LedgerSide.Applies (side : LedgerSide α) (backend : LedgerBackend σ)
    (apply : LedgerRecord α → σ → Except PyError σ) : Prop :=
  ∀ record state, ∃ event, backend.responder.evaluate (side.upsert record) state =
    ⟨[event], (transactionAnswer state (apply record state.ledger)).1,
      (transactionAnswer state (apply record state.ledger)).2⟩

theorem positionSide_applies (backend : LedgerBackend σ) : positionSide.Applies backend backend.upsertPosition :=
  fun record state => ⟨_, evaluate_perform (S := Port) (.ledger (.upsertPosition record)) state⟩

theorem orderSide_applies (backend : LedgerBackend σ) : orderSide.Applies backend backend.upsertOrder :=
  fun record state => ⟨_, evaluate_perform (S := Port) (.ledger (.upsertOrder record)) state⟩

variable {backend : LedgerBackend σ}

theorem LedgerSide.writeAll_attempted {side : LedgerSide α} {apply : LedgerRecord α → σ → Except PyError σ}
    (applies : side.Applies backend apply) (writes : List (LedgerWrite α)) (tally : Tally) (state : RecoveryState σ) :
    ∃ events result final complete,
      backend.responder.evaluate (side.writeAll writes tally) state = ⟨events, result, { state with ledger := final }⟩ ∧
      Attempted apply state.ledger writes final complete ∧
      (complete = true → result = .ok (side.tallied tally writes)) ∧
      (complete = false → ∃ error, result = .error error) := by
  induction writes generalizing tally state with
  | nil => exact ⟨[], _, state.ledger, true, rfl, .done, fun _ => by simp, by simp⟩
  | cons write writes ih =>
    obtain ⟨event, upserted⟩ := applies write.record state
    cases made : apply write.record state.ledger with
    | error error =>
      rw [made] at upserted
      refine ⟨[event], .error error, state.ledger, false, ?_, .refused made, by simp, fun _ => ⟨error, rfl⟩⟩
      rw [LedgerSide.writeAll, evaluate_bind, upserted]
      rfl
    | ok middle =>
      rw [made] at upserted
      obtain ⟨events, result, final, complete, rest, attempted, whole, part⟩ :=
        ih (side.tallied tally [write]) { state with ledger := middle }
      refine ⟨event :: events, result, final, complete, ?_, .stored made attempted, ?_, part⟩
      · rw [LedgerSide.writeAll, evaluate_bind, upserted]
        show Outcome.andThen ⟨[event], .ok (), { state with ledger := middle }⟩ _ = _
        rw [Outcome.andThen_ok, rest]
        rfl
      · intro finished
        rw [whole finished, ← LedgerSide.tallied_cons]

def BrokerReads.listing (health : BrokerHealth) (positions : List BrokerPosition) (orders : List BrokerOrder) :
    BrokerReads :=
  ⟨.ok health, .ok positions, .ok orders⟩

def LedgerBackend.reconcile (backend : LedgerBackend σ) (reads : BrokerReads) (now : Instant) (ledger : σ) :
    Outcome Port PyError ReconciliationReport (RecoveryState σ) :=
  backend.responder.evaluate ReconciliationService.reconcile ⟨ledger, reads, now⟩

inductive LedgerRun (backend : LedgerBackend σ) (positions : List BrokerPosition) (orders : List BrokerOrder)
    (now : Instant) (ledger : σ) : Except PyError ReconciliationReport → σ → Prop
  | unread {error : PyError} :
      backend.positions ledger = .error error ∨ backend.orders ledger = .error error →
      LedgerRun backend positions orders now ledger (.error error) ledger
  | stopped {localPositions : List LedgerPosition} {localOrders : List LedgerOrder} {error : PyError} {after : σ} :
      backend.positions ledger = .ok localPositions → backend.orders ledger = .ok localOrders →
      Attempted backend.upsertPosition ledger
        (positionSide.plan now (.ofList positions) (.ofList localPositions)) after false →
      LedgerRun backend positions orders now ledger (.error error) after
  | ran {localPositions : List LedgerPosition} {localOrders : List LedgerOrder}
      {result : Except PyError ReconciliationReport} {middle after : σ} {complete : Bool} :
      backend.positions ledger = .ok localPositions → backend.orders ledger = .ok localOrders →
      Attempted backend.upsertPosition ledger
        (positionSide.plan now (.ofList positions) (.ofList localPositions)) middle true →
      Attempted backend.upsertOrder middle
        (orderSide.plan now (.ofList orders) (.ofList localOrders)) after complete →
      (complete = true → ∃ report, result = .ok report ∧ report.incidents =
        (positionSide.plan now (.ofList positions) (.ofList localPositions)).map positionSide.incidentOf ++
          (orderSide.plan now (.ofList orders) (.ofList localOrders)).map orderSide.incidentOf) →
      (complete = false → ∃ error, result = .error error) →
      LedgerRun backend positions orders now ledger result after

theorem LedgerRun.invariant {positions : List BrokerPosition} {orders : List BrokerOrder} {now : Instant}
    {ledger after : σ} {result : Except PyError ReconciliationReport}
    (run : LedgerRun backend positions orders now ledger result after) (holds : σ → Prop)
    (positionKept : ∀ before after record, holds before → backend.upsertPosition record before = .ok after →
      holds after)
    (orderKept : ∀ before after record, holds before → backend.upsertOrder record before = .ok after → holds after)
    (initially : holds ledger) : holds after := by
  cases run with
  | unread => exact initially
  | stopped _ _ attempted => exact attempted.invariant holds (fun _ _ _ _ => positionKept _ _ _) initially
  | ran _ _ attempted ordersAttempted _ _ =>
    apply ordersAttempted.invariant holds (fun _ _ _ _ => orderKept _ _ _)
    exact attempted.invariant holds (fun _ _ _ _ => positionKept _ _ _) initially

theorem applyPlan_run {state : RecoveryState σ} (positions : List BrokerPosition) (orders : List BrokerOrder)
    {localPositions : List LedgerPosition} {localOrders : List LedgerOrder}
    (positionsRead : backend.positions state.ledger = .ok localPositions)
    (ordersRead : backend.orders state.ledger = .ok localOrders) :
    ∃ events result after,
      backend.responder.evaluate (applyPlan state.now (.ofList positions) (.ofList orders) (.ofList localPositions)
        (.ofList localOrders)) state = ⟨events, result, { state with ledger := after }⟩ ∧
      LedgerRun backend positions orders state.now state.ledger result after := by
  obtain ⟨events, result, middle, complete, written, attempted, whole, part⟩ :=
    LedgerSide.writeAll_attempted (positionSide_applies backend)
      (positionSide.plan state.now (.ofList positions) (.ofList localPositions)) { incidents := [] } state
  cases complete with
  | false =>
    obtain ⟨error, rfl⟩ := part rfl
    refine ⟨events, .error error, middle, ?_, .stopped positionsRead ordersRead attempted⟩
    rw [applyPlan, evaluate_bind, written]
    rfl
  | true =>
    obtain ⟨later, ordersResult, after, complete, ordersWritten, ordersAttempted, ordersWhole, ordersPart⟩ :=
      LedgerSide.writeAll_attempted (orderSide_applies backend)
        (orderSide.plan state.now (.ofList orders) (.ofList localOrders))
        { incidents := (positionSide.tallied { incidents := [] }
          (positionSide.plan state.now (.ofList positions) (.ofList localPositions))).incidents }
        { state with ledger := middle }
    rw [whole rfl] at written
    cases complete with
    | false =>
      obtain ⟨error, rfl⟩ := ordersPart rfl
      refine ⟨events ++ later, .error error, after, ?_,
        .ran positionsRead ordersRead attempted ordersAttempted (by simp) fun _ => ⟨error, rfl⟩⟩
      rw [applyPlan, evaluate_bind, written, Outcome.andThen_ok, evaluate_bind, ordersWritten]
      rfl
    | true =>
      have finished := ordersWhole rfl
      subst finished
      rw [applyPlan, evaluate_bind, written, Outcome.andThen_ok, evaluate_bind, ordersWritten,
        Outcome.andThen_ok, evaluate_pure]
      refine ⟨_, _, after, rfl, .ran positionsRead ordersRead attempted ordersAttempted (fun _ => ⟨_, rfl, ?_⟩)
        (by simp)⟩
      simp [LedgerSide.tallied]

/-- **Every reconciliation with a healthy broker is a `LedgerRun`.** -/
theorem reconcile_run (backend : LedgerBackend σ) {health : BrokerHealth}
    (healthy : health.healthy = true ∧ health.connected = true) (positions : List BrokerPosition)
    (orders : List BrokerOrder) (now : Instant) (ledger : σ) :
    ∃ after, (backend.reconcile (.listing health positions orders) now ledger).state =
        ⟨after, .listing health positions orders, now⟩ ∧
      LedgerRun backend positions orders now ledger
        (backend.reconcile (.listing health positions orders) now ledger).result after := by
  let state : RecoveryState σ := ⟨ledger, .listing health positions orders, now⟩
  have answered : backend.responder.respond state (.broker .healthCheck) = (.ok health, state) := rfl
  have positionsAnswered : backend.responder.respond state (.broker (.getPositions none)) =
      (.ok positions, state) := rfl
  have ordersAnswered : backend.responder.respond state (.broker (.getOrders none)) = (.ok orders, state) := rfl
  have localPositionsAnswer : backend.responder.respond state (.ledger .positions) =
      (backend.positions ledger, state) := rfl
  have localOrdersAnswer : backend.responder.respond state (.ledger .orders) =
      (backend.orders ledger, state) := rfl
  have timed : backend.responder.respond state .clock = (.ok now, state) := rfl
  rw [LedgerBackend.reconcile, reconcile_eq, askBroker, evaluate_perform_bind answered]
  simp only [healthy.1, healthy.2, Bool.not_true, Bool.or_self, Bool.false_eq_true, if_false]
  rw [askBroker, evaluate_perform_bind positionsAnswered, askBroker,
    evaluate_perform_bind ordersAnswered, askLedger]
  cases localPositions : backend.positions ledger with
  | error =>
    rw [localPositions] at localPositionsAnswer
    rw [evaluate_perform_error localPositionsAnswer]
    exact ⟨ledger, rfl, .unread (.inl localPositions)⟩
  | ok localPositionRecords =>
    rw [localPositions] at localPositionsAnswer
    rw [evaluate_perform_bind localPositionsAnswer, askLedger]
    cases localOrders : backend.orders ledger with
    | error =>
      rw [localOrders] at localOrdersAnswer
      rw [evaluate_perform_error localOrdersAnswer]
      exact ⟨ledger, rfl, .unread (.inr localOrders)⟩
    | ok localOrderRecords =>
      rw [localOrders] at localOrdersAnswer
      have positionsKnown : backend.positions state.ledger = .ok localPositionRecords := localPositions
      have ordersKnown : backend.orders state.ledger = .ok localOrderRecords := localOrders
      obtain ⟨events, result, after, applied, run⟩ := applyPlan_run positions orders positionsKnown ordersKnown
      rw [evaluate_perform_bind localOrdersAnswer, clock, evaluate_perform_bind timed]
      rw [show now = state.now from rfl, applied]
      exact ⟨after, rfl, run⟩

end GoldFlow
