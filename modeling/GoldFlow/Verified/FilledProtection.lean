import GoldFlow.Deployment
import GoldFlow.Verified.StoreMoves

/-! # A reported fill is a protected fill

One executor, whose lock serialises its calls, is a pool with one thread.
-/

namespace GoldFlow

open Effect

abbrev CallLabel := Label Port PyError ExecutionOutcome Unit ExecutorCall

def currentCall (labels : List CallLabel) : List PortEvent :=
  (history.track (fun _ _ => []) (fun _ => none) labels ()).getD []

section CurrentCall

variable {labels : List CallLabel}

theorem currentCall_running {history : List PortEvent}
    (running : Effect.history.track (fun _ _ => []) (fun _ => none) labels () = some history) :
    currentCall labels = history := by
  rw [currentCall, running, Option.getD_some]

theorem currentCall_event {history : List PortEvent}
    (running : Effect.history.track (fun _ _ => []) (fun _ => none) labels () = some history)
    (event : PortEvent) : currentCall (labels ++ [.event () event]) = history ++ [event] := by
  rw [currentCall, Monitor.track_event running, Function.update_self]
  rfl

theorem currentCall_subset (labels : List CallLabel) : currentCall labels ⊆ eventsOf labels := by
  induction labels using List.reverseRecOn with
  | nil => simp [currentCall]
  | append_singleton labels label ih =>
    cases label with
    | event =>
      cases running : history.track (fun _ _ => []) (fun _ => none) labels () with
      | none => simp [currentCall, Monitor.advance, running]
      | some =>
        rw [currentCall_running running] at ih
        rw [currentCall_event running, eventsOf_event]
        intro made member
        rcases List.mem_append.mp member with earlier | last
        · exact List.mem_append_left _ (ih earlier)
        · exact List.mem_append_right _ last
    | start => simp [currentCall, Monitor.advance]
    | finish => simp [currentCall, Monitor.advance]
    | crash => simp [currentCall, Monitor.advance]

end CurrentCall

/-- The running call has never found the `MARKET` record it reads listed as an order only. -/
def NeverListedOnlyAsOrder (executor : TradeExecutor) (labels : List CallLabel) : Prop :=
  ∀ earlier, earlier <+: labels → ∀ key, ¬ ListedOnlyAsOrder executor (currentCall earlier) key

variable {labels : List CallLabel}

theorem NeverListedOnlyAsOrder.before {executor : TradeExecutor} {label : CallLabel}
    (never : NeverListedOnlyAsOrder executor (labels ++ [label])) : NeverListedOnlyAsOrder executor labels := by
  intro earlier earlierThan
  exact never earlier (earlierThan.trans (List.prefix_append _ _))

/-- Succeeded market records are confirmed, and the running call knows the store as it is. -/
structure Evidenced (executor : TradeExecutor) (labels : List CallLabel) (state : World) : Prop where
  stored : ∀ key entry, state.entries executor.kind key = some entry → entry.data.key = key ∧
    (entry.status = .succeeded → entry.data.orderType = .market →
      ProtectionConfirmed executor.sha256 (eventsOf labels) entry.data)
  working : ∀ known, (progressOf (currentCall labels)).working = some known →
    state.entries executor.kind known.key = some { data := known.fill, status := known.status }
  shown : ∀ record, Shown (currentCall labels) record → record.status = .succeeded →
    record.request.orderType = .market →
    ProtectionConfirmed executor.sha256 (eventsOf labels) record.request.fill

namespace Evidenced

variable {executor : TradeExecutor} {role : Role} {labels : List CallLabel} {state after : World}
  {asked : List PortEvent} {event : PortEvent}

theorem between (before : Evidenced executor labels state) {label : CallLabel}
    (same : eventsOf (labels ++ [label]) = eventsOf labels)
    (idle : currentCall (labels ++ [label]) = []) : Evidenced executor (labels ++ [label]) state where
  stored := by rw [same]; exact before.stored
  working := by simp [idle]
  shown := by simp [idle, Shown]

theorem stored_event (before : Evidenced executor labels state) (current : currentCall labels = asked)
    (unlisted : ∀ key, ¬ ListedOnlyAsOrder executor asked key)
    (move : StoreMove executor role asked event) (step : world.step state event after) :
    ∀ key entry, after.entries executor.kind key = some entry → entry.data.key = key ∧
      (entry.status = .succeeded → entry.data.orderType = .market →
        ProtectionConfirmed executor.sha256 (eventsOf labels ++ [event]) entry.data) := by
  intro key entry present
  have refined := world_refines_ledger executor.kind step
  cases found : state.entries executor.kind key with
  | none =>
    -- a new entry was claimed by this request, and a claimed entry has not succeeded
    obtain ⟨claims, fresh⟩ := refined.entry_appears found present
    cases move with
    | claimed permitted action own =>
      rw [action] at claims
      obtain ⟨rfl, rfl⟩ : _ = key ∧ _ = entry.data := by simpa using claims
      exact ⟨own, fun succeeded => by rw [fresh] at succeeded; cases succeeded⟩
    | read permitted action => rw [action] at claims; cases claims
    | recorded permitted action => rw [action] at claims; cases claims
    | aside action => rw [action] at claims; cases claims
  | some earlier =>
    obtain ⟨own, evidence⟩ := before.stored key earlier found
    obtain same | ⟨status, advances, _, moved⟩ := refined.entry_persists found
    · rw [same] at present
      cases present
      exact ⟨own, fun succeeded market =>
        (evidence succeeded market).mono (List.subset_append_left _ _)⟩
    · rw [moved] at present
      cases present
      refine ⟨own, fun succeeded market => ?_⟩
      cases move with
      | claimed permitted action => rw [action] at advances; cases advances
      | read permitted action => rw [action] at advances; cases advances
      | aside action => rw [action] at advances; cases advances
      | @recorded known recordedStatus permitted action =>
        rw [action] at advances
        obtain ⟨rfl, rfl⟩ : known.key = key ∧ recordedStatus = status := by simpa using advances
        -- the record the call works on is the one in the store
        have known_stored := before.working known (current ▸ permitted.working)
        rw [found] at known_stored
        cases known_stored
        have confirmed := (permitted.evidence succeeded market own).resolve_right (unlisted _)
        have included : asked ⊆ eventsOf labels ++ [event] := fun _ member =>
          List.mem_append_left _ (currentCall_subset labels (current ▸ member))
        exact confirmed.mono included

/-- **One request of the running call keeps the evidence.** -/
theorem after_event (before : Evidenced executor labels state)
    (running : history.track (fun _ _ => []) (fun _ => none) labels () = some asked)
    (permitted : Discipline executor role asked event.1) (unlisted : ∀ key, ¬ ListedOnlyAsOrder executor asked key)
    (step : world.step state event after) : Evidenced executor (labels ++ [.event () event]) after := by
  have current := currentCall_running running
  have move := storeMove_of_permitted permitted
  have stored := before.stored_event current unlisted move step
  constructor
  · rw [eventsOf_event]
    exact stored
  · rw [currentCall_event running]
    exact move.knows_stored (current ▸ before.working) step
  · rw [currentCall_event running, eventsOf_event]
    rintro record ⟨showing, member, shows⟩ succeeded market
    rcases List.mem_append.mp member with earlier | last
    · have confirmed := before.shown record ⟨showing, current ▸ earlier, shows⟩ succeeded market
      exact confirmed.mono (List.subset_append_left _ _)
    · rw [List.mem_singleton] at last
      subst last
      obtain ⟨key, present⟩ := shown_stored permitted step shows
      exact (stored key record.entry present).2 succeeded market

theorem confirmed (evidenced : Evidenced executor labels state) {fill : Fill}
    (succeeded : Succeeded (currentCall labels) fill) (market : fill.orderType = .market) :
    ProtectionConfirmed executor.sha256 (eventsOf labels) fill := by
  obtain ⟨known, working, rfl, status⟩ | ⟨record, shown, status, rfl⟩ := succeeded
  · exact (evidenced.stored _ _ (evidenced.working known working)).2 status market
  · exact evidenced.shown record shown status market

end Evidenced

/-- **A reported fill is protected** unless reconciliation finds a `MARKET` record listed as an order only. -/
theorem filled_protected (executor : TradeExecutor) {state : World}
    (empty : ∀ key, state.entries executor.kind key = none) {labels : List CallLabel}
    {outcome : ExecutionOutcome} {pool : Pool Port PyError ExecutionOutcome World Unit}
    (run : Pool.Run world (fun _ => executor.call) (Pool.idle state)
      (labels ++ [.finish () (.ok outcome)]) pool)
    (never : NeverListedOnlyAsOrder executor labels) (filled : outcome.status = .filled) :
    ∃ request, outcome.request = some request ∧ request.orderType = .market ∧
      ProtectionConfirmed executor.sha256 (eventsOf labels) request.fill := by
  have verified : ∀ (_ : Unit) call, Program.wp history.environment
      (fun asked op => ∃ role, Discipline executor role asked op) (Ends Excused Justified)
      (executor.call call) [] := by
    intro _ call
    exact Program.wp_mono (keeps_call executor call).verified
      (fun _ _ permitted => ⟨_, permitted⟩) fun _ _ ended => ended
  have invariant := run.unguarded.invariant (fun _ => none)
    (fun labels state =>
      (NeverListedOnlyAsOrder executor labels → Evidenced executor labels state) ∧
      ∀ earlier outcome, labels = earlier ++ [.finish () (.ok outcome)] →
        NeverListedOnlyAsOrder executor earlier → outcome.status = .filled →
        ∃ request, outcome.request = some request ∧ request.orderType = .market ∧
          ProtectionConfirmed executor.sha256 (eventsOf earlier) request.fill)
    verified (fun _ => trivial) ?initial ?started ?event ?finish ?crash
  case initial =>
    refine ⟨fun _ => ⟨?_, ?_, ?_⟩, by simp⟩
    · intro key entry present
      have absent : state.entries executor.kind key = some entry := present
      simp [empty] at absent
    · simp [currentCall]
    · simp [currentCall, Shown]
  case started =>
    intro labels state _ call before _ _
    refine ⟨fun never => ?_, by simp⟩
    exact (before.1 never.before).between (by simp) (by simp [currentCall, Monitor.advance])
  case event =>
    rintro labels state _ asked event after before running _ ⟨role, permitted⟩ step
    refine ⟨fun never => ?_, by simp⟩
    have unlisted := never labels (List.prefix_append _ _)
    rw [currentCall_running running] at unlisted
    exact (before.1 never.before).after_event running permitted unlisted step
  case finish =>
    intro labels state _ asked result before running _ ended
    refine ⟨fun never => ?_, ?_⟩
    · exact (before.1 never.before).between (by simp) (by simp [currentCall, Monitor.advance])
    · intro earlier outcome same never filled
      obtain ⟨rfl, last⟩ := List.append_inj' same rfl
      obtain rfl : result = .ok outcome := by simpa using last
      obtain ⟨request, reported, market, succeeded⟩ := ended filled
      rw [← currentCall_running running] at succeeded
      exact ⟨request, reported, market, (before.1 never).confirmed succeeded market⟩
  case crash =>
    intro labels state _ before _
    refine ⟨fun never => ?_, by simp⟩
    exact (before.1 never.before).between (by simp) (by simp [currentCall, Monitor.advance])
  exact invariant.2 labels outcome rfl never filled

/-! ## Runs of the demo executor -/

def reportedBy (labels : List CallLabel) : Option ExecutionOutcome :=
  match labels.getLast? with
  | some (.finish _ (.ok outcome)) => some outcome
  | _ => none

theorem eq_of_reportedBy {outcome : ExecutionOutcome} (reported : reportedBy labels = some outcome) :
    labels = labels.dropLast ++ [.finish () (.ok outcome)] := by
  unfold reportedBy at reported
  split at reported
  next last =>
    cases reported
    exact (List.dropLast_append_getLast? _ last).symm
  next => cases reported

def asksOrdersOf : PortEvent → Bool
  | ⟨.broker (.getOrders (some _)), _⟩ => true
  | _ => false

theorem neverListedOnlyAsOrder_of_unasked {executor : TradeExecutor}
    (unasked : ∀ event ∈ eventsOf labels, asksOrdersOf event = false) : NeverListedOnlyAsOrder executor labels := by
  rintro earlier ⟨later, rfl⟩ key ⟨record, positions, orders, order, _, _, _, listing, _⟩
  have member : (⟨.broker (.getOrders (some record.request.symbol)), .ok orders⟩ : PortEvent) ∈
      eventsOf (earlier ++ later) := by
    rw [eventsOf_append]
    exact List.mem_append_left _ (currentCall_subset earlier (listing.subset (by simp)))
  have asked := unasked _ member
  cases asked

namespace Demo

def fill (kind : StoreKind) : List CallLabel :=
  (Pool.schedule quiet.responder (fun _ : Unit => (executor kind).call) (Pool.idle deployment)
    (.start () (.execute command) :: List.replicate 40 (.step ()))).1

end Demo

theorem filled_protected_demo :
    ∃ outcome, reportedBy (Demo.fill .sqlAlchemy) = some outcome ∧ outcome.status = .filled ∧
      ∃ request, outcome.request = some request ∧ request.orderType = .market ∧
        ProtectionConfirmed Demo.sha256 (eventsOf (Demo.fill .sqlAlchemy).dropLast) request.fill := by
  have reports : (reportedBy (Demo.fill .sqlAlchemy)).map (·.status) = some .filled := by
    decide +kernel
  obtain ⟨outcome, reported, filled⟩ := Option.map_eq_some_iff.mp reports
  have run := Demo.quiet.run (fun _ : Unit => (Demo.executor .sqlAlchemy).call) Demo.deployment
    (.start () (.execute Demo.command) :: List.replicate 40 (.step ()))
  change Pool.Run world _ _ (Demo.fill .sqlAlchemy) _ at run
  rw [eq_of_reportedBy reported] at run
  have unasked : NeverListedOnlyAsOrder (Demo.executor .sqlAlchemy) (Demo.fill .sqlAlchemy).dropLast :=
    neverListedOnlyAsOrder_of_unasked (by decide +kernel)
  exact ⟨outcome, reported, filled,
    filled_protected (Demo.executor .sqlAlchemy) (fun _ => rfl) run unasked filled⟩

def confirmsNothing : PortEvent → Bool
  | ⟨.broker (.getPositions _), .ok (_ :: _)⟩ => false
  | ⟨.broker (.modifyPosition _ _ _), .ok true⟩ => false
  | _ => true

theorem not_confirmed_of_nothing {sha256 : HexDigest} {history : List PortEvent} {fill : Fill}
    (nothing : ∀ event ∈ history, confirmsNothing event = true) : ¬ ProtectionConfirmed sha256 history fill := by
  intro confirmed
  cases confirmed with
  | @observed symbol positions position answered member =>
    cases positions with
    | nil => cases member
    | cons => exact absurd (nothing _ answered) (by simp [confirmsNothing])
  | repaired owned answered => exact absurd (nothing _ answered) (by simp [confirmsNothing])

namespace Demo

def workingOrder : BrokerOrder :=
  { ticket := "7001"
    symbol := MockBroker.goldSpecification.name
    direction := .long
    orderType := .market
    volume := 1 / 10
    price := 2000
    stopLoss := 1999 + 20 / 100
    takeProfit := some (2002 + 20 / 100)
    status := .pending
    createdAt := now
    idempotencyKey := key }

def timedOut : List CallLabel × Pool Port PyError ExecutionOutcome Deployment Unit :=
  Pool.schedule quiet.responder (fun _ : Unit => (executor .inMemory).call)
    (Pool.idle (deployment [.timeoutBeforeAccept]))
    (.start () (.execute command) :: List.replicate 40 (.step ()))

def queued : Pool Port PyError ExecutionOutcome Deployment Unit :=
  { timedOut.2 with
    shared := { timedOut.2.shared with broker := timedOut.2.shared.broker.seedOrder workingOrder } }

def reconciled : List CallLabel × Pool Port PyError ExecutionOutcome Deployment Unit :=
  Pool.schedule quiet.responder (fun _ : Unit => (executor .inMemory).call) queued
    (.start () (.reconcileUnknown key) :: List.replicate 20 (.step ()))

end Demo

/-- The timed-out market order is reported `FILLED` while it is still working. -/
theorem filled_unprotected :
    ∃ labels outcome request pool,
      Pool.Run world (fun _ : Unit => (Demo.executor .inMemory).call) (Pool.idle Demo.deployment.world)
        (labels ++ [.finish () (.ok outcome)]) pool ∧
      outcome.status = .filled ∧ outcome.request = some request ∧
      ¬ ProtectionConfirmed Demo.sha256 (eventsOf labels) request.fill := by
  have first := Demo.quiet.run (fun _ : Unit => (Demo.executor .inMemory).call)
    (Demo.deployment [.timeoutBeforeAccept])
    (.start () (.execute Demo.command) :: List.replicate 40 (.step ()))
  have rest : Pool.Run world (fun _ : Unit => (Demo.executor .inMemory).call)
      (Demo.queued.view Deployment.world) Demo.reconciled.1 _ :=
    Pool.run_schedule Demo.quiet.respond_within Demo.queued
      (.start () (ExecutorCall.reconcileUnknown Demo.key) :: List.replicate 20 (.step ()))
  have run : Pool.Run world (fun _ : Unit => (Demo.executor .inMemory).call)
      (Pool.idle Demo.deployment.world) (Demo.timedOut.1 ++ Demo.reconciled.1) _ :=
    first.append rest
  have reports : (reportedBy (Demo.timedOut.1 ++ Demo.reconciled.1)).map
      (fun outcome => (outcome.status, outcome.request.isSome)) = some (.filled, true) := by
    decide +kernel
  obtain ⟨outcome, reported, same⟩ := Option.map_eq_some_iff.mp reports
  obtain ⟨filled, requested⟩ := Prod.mk.injEq .. ▸ same
  obtain ⟨request, carries⟩ := Option.isSome_iff_exists.mp requested
  rw [eq_of_reportedBy reported] at run
  have nothing : ∀ event ∈ eventsOf (Demo.timedOut.1 ++ Demo.reconciled.1).dropLast,
      confirmsNothing event = true := by decide +kernel
  exact ⟨_, outcome, request, _, run, filled, carries, not_confirmed_of_nothing nothing⟩

/-- The record of the timed-out order survives its reconciliation. -/
theorem records_persist_reconciled :
    ∃ entry, Survives .inMemory Demo.key entry (Demo.reconciled.2.view Deployment.world).shared := by
  have stored : (Demo.queued.shared.world.entries .inMemory Demo.key).isSome := by decide +kernel
  obtain ⟨entry, present⟩ := Option.isSome_iff_exists.mp stored
  exact ⟨entry, records_persist (Pool.run_schedule Demo.quiet.respond_within Demo.queued _) present⟩

end GoldFlow
