import GoldFlow.Data.Grid
import GoldFlow.Data.Trace
import GoldFlow.Deployment
import GoldFlow.Effect.Evaluation
import GoldFlow.Execution.Positions

/-! # Managed positions

What `PositionManager` does to a position.
-/

namespace GoldFlow

open Data Effect MockBroker

namespace PositionManager

variable {τ : Type} {responder : Responder Port PyError τ} {state listed resolved : τ} {ticket : String}
  {fraction closed : Decimal} {positions : List BrokerPosition} {position : BrokerPosition} {spec : SymbolSpecification}
  {script : Script} {before after : Deployment}

theorem evaluate_position (listing : responder.respond state (.broker (.getPositions none)) = (.ok positions, listed))
    (found : positions.find? (·.ticket = ticket) = some position) :
    responder.evaluate (PositionManager.position ticket) state =
      ⟨[⟨.broker (.getPositions none), .ok positions⟩], .ok position, listed⟩ := by
  unfold PositionManager.position
  rw [Program.bind_eq, askBroker, Responder.evaluate_perform_bind listing]
  simp only [found]
  rfl

/-! ## Partial closes -/

def Sends (responder : Responder Port PyError τ) (state : τ) (ticket : String) (fraction closed : Decimal) : Prop :=
  Op.broker (.closePosition ticket (some closed)) ∈
    (responder.evaluate (partialClose ticket fraction) state).events.map (·.1)

/-- A position with a volume on the grid of its symbol, which has no more digits than `Decimal`, and
a fraction of it. -/
structure Reads (responder : Responder Port PyError τ) (state : τ) (ticket : String) (fraction : Decimal)
    (position : BrokerPosition) (spec : SymbolSpecification) : Prop where
  listing : ∃ positions listed, responder.respond state (.broker (.getPositions none)) = (.ok positions, listed) ∧
    positions.find? (·.ticket = ticket) = some position ∧
    ∃ resolved, responder.respond listed (.broker (.resolveSymbol position.symbol)) = (.ok spec, resolved)
  onGrid : OnGrid spec.volumeMin spec.volumeStep position.volume
  fits : ∃ scale : ℕ, ∃ units : ℤ, spec.volumeStep * 10 ^ scale = units ∧ position.volume * 10 ^ scale < 10 ^ 28
  fraction_pos : 0 < fraction
  fraction_lt : fraction < 1

/-- Rounded to the digits of `Decimal`, the fraction reaches a multiple of the step that it does not reach. -/
def Carries (fraction volume step : Decimal) : Prop :=
  ∃ steps : ℕ, fraction * volume < steps * step ∧
    steps ≤ Decimal.rounded (Decimal.rounded (volume * fraction) / step)

namespace Demo

def longPosition (volume : Decimal) (positive : 0 < volume := by norm_num) : BrokerPosition where
  ticket := "P1"
  symbol := "XAUUSDm"
  direction := .long
  volume
  openPrice := 2000
  currentPrice := 2010
  stopLoss := 1990
  takeProfit := some 2020
  profit := 0
  openedAt := GoldFlow.Demo.now
  volume_pos := positive
  openPrice_pos := GoldFlow.Demo.price_pos
  stopLoss_pos := GoldFlow.Demo.stop_pos

def holding (spec : SymbolSpecification) (position : BrokerPosition) : Deployment :=
  { GoldFlow.Demo.deployment with
    broker := { goldDemo GoldFlow.Demo.now with symbols := [spec], positions := [position] } }

end Demo

open PositionManager.Demo

inductive StopCall where
  | moveToBreakEven (ticket : String) (spread slippage commission : Decimal)
  | trail (trailingEnabled : Bool) (ticket : String) (mode : TrailingStop)

def StopCall.program : StopCall → Py PositionAction
  | .moveToBreakEven ticket spread slippage commission =>
    PositionManager.moveToBreakEven ticket spread slippage commission
  | .trail trailingEnabled ticket mode => PositionManager.trail trailingEnabled ticket mode

/-- `position` with a stop it is allowed to get. -/
structure NewStop (position : BrokerPosition) where
  stop : Decimal
  positive : 0 < stop
  improving : improves position stop = true
  protecting : protects position stop = true

def NewStop.applyTo {position : BrokerPosition} (new : NewStop position) (other : BrokerPosition) : BrokerPosition :=
  if other.ticket = position.ticket then reprotect other new.stop position.takeProfit new.positive else other

def NewStop.apply {position : BrokerPosition} (new : NewStop position) (broker : MockBroker) : MockBroker :=
  { broker with positions := broker.positions.map new.applyTo }

inductive StopOutcome (before : Deployment) : Outcome Port PyError PositionAction Deployment → Prop
  | unchanged {events : List PortEvent} {result : Except PyError PositionAction} :
    (∀ action, result = .ok action → action.applied = false) → StopOutcome before ⟨events, result, before⟩
  | moved {events : List PortEvent} {action : PositionAction} {position : BrokerPosition} (new : NewStop position) :
    position ∈ before.broker.positions → action.applied = true →
    StopOutcome before ⟨events, .ok action, { before with broker := new.apply before.broker }⟩

section Calls

variable {script : Script} {before : Deployment}

theorem stopOutcome_prepend (events : List PortEvent) {outcome : Outcome Port PyError PositionAction Deployment}
    (ended : StopOutcome before outcome) : StopOutcome before { outcome with events := events ++ outcome.events } := by
  cases ended with
  | unchanged inactive => exact .unchanged inactive
  | moved new member applied => exact .moved new member applied

theorem mock_lists (script : Script) (before : Deployment) (connected : before.broker.requireConnection = .ok ()) :
    script.responder.respond before (.broker (.getPositions none)) = (.ok before.broker.positions, before) := by
  simp only [Script.responder, Script.respond, respond, getPositions, whenConnected,
    connected]
  rfl

theorem stopOutcome_position {next : BrokerPosition → Py PositionAction}
    (rest : ∀ position, before.broker.requireConnection = .ok () →
      lookup BrokerPosition.ticket ticket before.broker.positions = some position →
      StopOutcome before (script.responder.evaluate (next position) before)) :
    StopOutcome before (script.responder.evaluate ((PositionManager.position ticket).bind next) before) := by
  rw [Responder.evaluate_bind]
  cases connected : before.broker.requireConnection with
  | error error =>
    have refused : script.responder.respond before (.broker (.getPositions none)) = (.error error, before) := by
      simp only [Script.responder, Script.respond, respond, getPositions, whenConnected,
        connected]
      rfl
    rw [PositionManager.position, Program.bind_eq, askBroker, Responder.evaluate_perform_error refused]
    exact .unchanged (by simp)
  | ok _ =>
    have listing := mock_lists script before connected
    cases found : lookup BrokerPosition.ticket ticket before.broker.positions with
    | none =>
      have missing : before.broker.positions.find? (·.ticket = ticket) = none := found
      rw [PositionManager.position, Program.bind_eq, askBroker, Responder.evaluate_perform_bind listing]
      simp only [missing]
      exact .unchanged (by simp)
    | some position =>
      rw [evaluate_position listing found]
      exact stopOutcome_prepend _ (rest position connected found)

theorem mock_modifies (script : Script) (ticket : String) (stop : Decimal) (takeProfit : Option Decimal)
    (connected : before.broker.requireConnection = .ok ()) :
    script.responder.respond before (.broker (.modifyPosition ticket stop takeProfit)) =
      if positive : 0 < stop then
        if before.broker.positions.any (·.ticket == ticket) && before.broker.positionModificationAllowed then
          (.ok true, { before with broker := { before.broker with
            positions := before.broker.positions.map fun other =>
              if other.ticket = ticket then reprotect other stop takeProfit positive else other } })
        else (.ok false, before)
      else (.ok false, before) := by
  simp only [Script.responder, Script.respond, respond, modifyPosition, connected]
  split
  · split <;> rfl
  · rfl

theorem NewStop.ticket_apply (new : NewStop position) (other : BrokerPosition) :
    (new.applyTo other).ticket = other.ticket := by
  unfold applyTo
  split <;> rfl

theorem stopOutcome_moveStop {stop : Decimal} {applied rejected : String}
    (connected : before.broker.requireConnection = .ok ())
    (found : lookup BrokerPosition.ticket position.ticket before.broker.positions = some position)
    (improving : improves position stop = true) (protecting : protects position stop = true) :
    StopOutcome before (script.responder.evaluate (moveStop position stop applied rejected) before) := by
  have answer := mock_modifies script position.ticket stop position.takeProfit connected
  have refusal : ∀ events : List PortEvent, StopOutcome before
      ⟨events, .ok { applied := false, reason := rejected, position := some position }, before⟩ :=
    fun _ => .unchanged (by simp)
  rw [moveStop, Program.bind_eq, askBroker]
  split at answer
  · rename_i positive
    split at answer
    · -- The position is still there after its stop has moved, so the call does report it.
      let new : NewStop position := ⟨stop, positive, improving, protecting⟩
      let after : Deployment := { before with broker := new.apply before.broker }
      have listing := mock_lists script after connected
      have moved : lookup BrokerPosition.ticket position.ticket (new.apply before.broker).positions =
          some (new.applyTo position) := by
        rw [NewStop.apply, lookup_map new.ticket_apply, found, Option.map_some]
      rw [Responder.evaluate_perform_bind answer, if_pos rfl, Program.bind_eq]
      apply stopOutcome_prepend [_]
      show StopOutcome before (script.responder.evaluate ((PositionManager.position position.ticket).bind _) after)
      rw [Responder.evaluate_bind, evaluate_position listing moved]
      exact .moved new (mem_of_lookup found) rfl
    · rw [Responder.evaluate_perform_bind answer]
      exact refusal _
  · rw [Responder.evaluate_perform_bind answer]
    exact refusal _

theorem stopOutcome_call (script : Script) (before : Deployment) (call : StopCall) :
    StopOutcome before (script.responder.evaluate call.program before) := by
  have declined : ∀ {events : List PortEvent} {reason : String} {position : Option BrokerPosition},
      StopOutcome before ⟨events, .ok { applied := false, reason, position }, before⟩ :=
    .unchanged (by simp)
  cases call with
  | moveToBreakEven =>
    simp only [StopCall.program, moveToBreakEven]
    split
    · exact .unchanged (by simp)
    · apply stopOutcome_position
      intro position connected found
      obtain rfl := key_of_lookup found
      split
      · exact declined
      · rename_i improving
        split
        · exact declined
        · rename_i protecting
          simp only [Bool.not_eq_true, Bool.not_eq_false'] at improving protecting
          exact stopOutcome_moveStop connected found improving protecting
  | trail trailingEnabled ticket mode =>
    simp only [StopCall.program, trail]
    split
    · exact declined
    · apply stopOutcome_position
      intro position connected found
      obtain rfl := key_of_lookup found
      cases candidate : trailingCandidate position mode with
      | error => exact .unchanged (by simp)
      | ok =>
        show StopOutcome before (script.responder.evaluate (if _ then _ else _) before)
        split
        · exact declined
        · rename_i accepted
          simp only [Bool.or_eq_true, Bool.not_eq_true', not_or, Bool.not_eq_false] at accepted
          exact stopOutcome_moveStop connected found accepted.1 accepted.2

end Calls

/-! ### Runs of calls -/

def Tightened (direction : Direction) (stop later : Decimal) : Prop :=
  match direction with
  | .long => stop ≤ later
  | .short => later ≤ stop

structure StaysManaged (position later : BrokerPosition) : Prop where
  ticket : later.ticket = position.ticket
  direction : later.direction = position.direction
  volume : later.volume = position.volume
  openPrice : later.openPrice = position.openPrice
  takeProfit : later.takeProfit = position.takeProfit
  stopLoss : Tightened position.direction position.stopLoss later.stopLoss

def NewStopProtects (position later : BrokerPosition) : Prop :=
  later.stopLoss ≠ position.stopLoss →
    0 < later.stopLoss ∧ later.currentPrice = position.currentPrice ∧
      match position.direction with
      | .long => later.stopLoss < position.currentPrice
      | .short => position.currentPrice < later.stopLoss

structure Repriced (position later : BrokerPosition) : Prop where
  managed : StaysManaged position later
  stopLoss : later.stopLoss = position.stopLoss

inductive ManagerEvent where
  | call (call : StopCall) (result : Except PyError PositionAction)
  | prices

/-- A call of the manager, or a change that keeps the broker's positions. -/
inductive ManagerStep (script : Script) (before : Deployment) : ManagerEvent → Deployment → Prop
  | call (call : StopCall) : ManagerStep script before
      (.call call (script.responder.evaluate call.program before).result)
      (script.responder.evaluate call.program before).state
  | prices (after : Deployment) :
    List.Forall₂ Repriced before.broker.positions after.broker.positions → ManagerStep script before .prices after

theorem StaysManaged.refl (position : BrokerPosition) : StaysManaged position position :=
  ⟨rfl, rfl, rfl, rfl, rfl, by cases side : position.direction <;> simp [Tightened]⟩

theorem StaysManaged.trans {first second third : BrokerPosition} (earlier : StaysManaged first second)
    (later : StaysManaged second third) : StaysManaged first third where
  ticket := later.ticket.trans earlier.ticket
  direction := later.direction.trans earlier.direction
  volume := later.volume.trans earlier.volume
  openPrice := later.openPrice.trans earlier.openPrice
  takeProfit := later.takeProfit.trans earlier.takeProfit
  stopLoss := by
    have stop := later.stopLoss
    rw [earlier.direction] at stop
    cases side : first.direction with
    | long =>
      simp only [side] at stop ⊢
      exact le_trans (by simpa [Tightened, side] using earlier.stopLoss) stop
    | short =>
      simp only [side] at stop ⊢
      exact le_trans stop (by simpa [Tightened, side] using earlier.stopLoss)

def DistinctTickets (state : Deployment) : Prop := (state.broker.positions.map (·.ticket)).Nodup

theorem tickets_eq {positions later : List BrokerPosition} (managed : List.Forall₂ StaysManaged positions later) :
    later.map (·.ticket) = positions.map (·.ticket) := by
  induction managed with
  | nil => rfl
  | cons same _ ih => simp [same.ticket, ih]

theorem NewStop.stays_managed (new : NewStop position) : StaysManaged position (new.applyTo position) ∧
    NewStopProtects position (new.applyTo position) := by
  have tightened : Tightened position.direction position.stopLoss new.stop := by
    have improving := new.improving
    cases side : position.direction <;>
      simp only [improves, side, decide_eq_true_eq] at improving <;> exact improving.le
  have protective : match position.direction with
      | .long => new.stop < position.currentPrice
      | .short => position.currentPrice < new.stop := by
    have protecting := new.protecting
    cases side : position.direction <;> simpa only [protects, side, decide_eq_true_eq] using protecting
  rw [applyTo, if_pos rfl]
  constructor
  · exact ⟨rfl, rfl, rfl, rfl, rfl, tightened⟩
  · intro _
    exact ⟨new.positive, rfl, protective⟩

theorem StopOutcome.managed {before : Deployment} {outcome : Outcome Port PyError PositionAction Deployment}
    (ended : StopOutcome before outcome) (distinct : DistinctTickets before) :
    List.Forall₂ (fun position later => StaysManaged position later ∧ NewStopProtects position later)
      before.broker.positions outcome.state.broker.positions ∧
    ((∀ action, outcome.result = .ok action → action.applied = false) →
      outcome.state.broker.positions = before.broker.positions) := by
  have kept : ∀ position, StaysManaged position position ∧ NewStopProtects position position :=
    fun position => ⟨.refl position, fun changed => absurd rfl changed⟩
  cases ended with
  | unchanged => exact ⟨List.forall₂_same.mpr fun position _ => kept position, fun _ => rfl⟩
  | @moved events action position new member applied =>
    constructor
    · rw [NewStop.apply, List.forall₂_map_right_iff, List.forall₂_same]
      intro other otherMember
      by_cases same : other = position
      · subst same
        exact new.stays_managed
      · rw [NewStop.applyTo, if_neg fun equal => same (List.inj_on_of_nodup_map distinct otherMember member equal)]
        exact kept other
    · intro inactive
      rw [inactive action rfl] at applied
      cases applied

variable {event : ManagerEvent}

theorem ManagerStep.managed (step : ManagerStep script before event after) (distinct : DistinctTickets before) :
    List.Forall₂ StaysManaged before.broker.positions after.broker.positions := by
  cases step with
  | call call => exact ((stopOutcome_call script before call).managed distinct).1.imp fun _ _ both => both.1
  | prices _ repriced => exact repriced.imp fun _ _ same => same.managed

theorem ManagerStep.distinct (step : ManagerStep script before event after) (distinct : DistinctTickets before) :
    DistinctTickets after := by
  rw [DistinctTickets, tickets_eq (step.managed distinct)]
  exact distinct

theorem forall₂_trans {first second third : List BrokerPosition} (earlier : List.Forall₂ StaysManaged first second)
    (later : List.Forall₂ StaysManaged second third) : List.Forall₂ StaysManaged first third := by
  induction earlier generalizing third with
  | nil => exact later
  | cons same _ ih =>
    cases later with
    | cons next rest => exact .cons (same.trans next) (ih rest)

def Managed (start state : Deployment) : Prop :=
  DistinctTickets state ∧ List.Forall₂ StaysManaged start.broker.positions state.broker.positions

theorem Managed.refl {start : Deployment} (distinct : DistinctTickets start) : Managed start start :=
  ⟨distinct, List.forall₂_same.mpr fun position _ => .refl position⟩

/-- **Managed stops only tighten**, and a call that raises or applies nothing changes no position. -/
theorem managed_stops_only_tighten (script : Script) (start final : Deployment)
    (moves : List (Deployment × ManagerEvent × Deployment)) (run : Trace (ManagerStep script) start moves final)
    (distinct : DistinctTickets start) :
    List.Forall₂ StaysManaged start.broker.positions final.broker.positions ∧
    ∀ before call result after, (before, .call call result, after) ∈ moves →
      List.Forall₂ NewStopProtects before.broker.positions after.broker.positions ∧
      ((∀ action, result = .ok action → action.applied = false) →
        after.broker.positions = before.broker.positions) := by
  have kept : ∀ before event after, Managed start before → ManagerStep script before event after →
      Managed start after := by
    intro before event after managed step
    exact ⟨step.distinct managed.1, forall₂_trans managed.2 (step.managed managed.1)⟩
  obtain ⟨⟨_, managed⟩, steps⟩ := run.invariant (Managed.refl distinct) kept
  refine ⟨managed, ?_⟩
  intro before call result after member
  obtain ⟨⟨distinctBefore, _⟩, step⟩ := steps _ member
  dsimp only at step distinctBefore
  cases step with
  | call =>
    obtain ⟨managed, idle⟩ := (stopOutcome_call script before call).managed distinctBefore
    exact ⟨managed.imp fun _ _ both => both.2, idle⟩

/-- The demo position is moved to break-even, and its terms stay. -/
theorem breakEven_tightens : ∃ final,
    Trace (ManagerStep GoldFlow.Demo.quiet) (holding goldSpecification (longPosition 1 GoldFlow.Demo.lot_pos))
      [(holding goldSpecification (longPosition 1 GoldFlow.Demo.lot_pos),
        .call (.moveToBreakEven "P1" 1 0 0) (GoldFlow.Demo.quiet.responder.evaluate
          (StopCall.moveToBreakEven "P1" 1 0 0).program
          (holding goldSpecification (longPosition 1 GoldFlow.Demo.lot_pos))).result, final)] final ∧
    final.broker.positions.map (·.stopLoss) = [2001] ∧
    List.Forall₂ StaysManaged [longPosition 1 GoldFlow.Demo.lot_pos] final.broker.positions := by
  have moved : ManagerStep GoldFlow.Demo.quiet (holding goldSpecification (longPosition 1 GoldFlow.Demo.lot_pos)) _ _ :=
    .call (.moveToBreakEven "P1" 1 0 0)
  have run := Trace.snoc .nil moved
  have tightened := managed_stops_only_tighten _ _ _ _ run (by simp [DistinctTickets, holding])
  exact ⟨_, run, by decide +kernel, tightened.1⟩

end PositionManager

end GoldFlow
