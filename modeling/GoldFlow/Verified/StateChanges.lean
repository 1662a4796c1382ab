import GoldFlow.Effect.Logic
import GoldFlow.Verified.ClosedTogether
import GoldFlow.Worker.Positions

/-! # The stored state of a position and the table of transitions -/

namespace GoldFlow

open Data Effect TradeStateMachine SQLAlchemyRecoveryLedger GoldFlowWorker WorkerPersistence

def Follows (state target : TradeState) : Prop := state ≠ target → canTransition state target = true

instance (state target : TradeState) : Decidable (Follows state target) :=
  inferInstanceAs (Decidable (_ → _))

def FollowsTable (before after : Database) : Prop :=
  ∀ id old new, before.positions.get id = some old → after.positions.get id = some new →
    Follows old.state new.state

def writtenStates : List TradeState := [.positionOpen, .tp1Hit, .breakEven, .closed, .error]

variable {state : TradeState}

theorem follows_closed (written : state ∈ writtenStates) : Follows state .closed := by
  cases state <;> first | decide | exact absurd written (by decide)

theorem follows_positionOpen (written : state ∈ writtenStates) :
    Follows state .positionOpen ↔ state = .positionOpen := by
  cases state <;> first | decide | exact absurd written (by decide)

theorem follows_tp1Hit : Follows state .tp1Hit ↔ state = .positionOpen ∨ state = .tp1Hit := by
  cases state <;> decide

theorem follows_breakEven :
    Follows state .breakEven ↔ state = .positionOpen ∨ state = .tp1Hit ∨ state = .breakEven := by
  cases state <;> decide

/-! ## The actions of the jobs -/

inductive WorkerAction (plan : ManagedPosition) : TradeEventType → Option TradeState → Prop
  | firstTarget : WorkerAction plan .tp1Hit (some (GoldFlowWorker.stateAfterTarget plan))
  | breakEven : WorkerAction plan .breakEven (some .breakEven)
  | trailing : WorkerAction plan .trailingStop none
  | exit : WorkerAction plan .closed (some .closed)

def JournalWrite.FromWorker : JournalWrite → Prop
  | .recordPositionAction plan _ eventType state _ _ _ => WorkerAction plan eventType state
  | _ => True

section Jobs

/-- The broker has confirmed a close of the ticket with the report of the action. -/
def Reported (events : List PortEvent) (ticket : String) (action : PositionAction) : Prop :=
  ∃ volume report, ⟨.broker (.closePosition ticket volume), .ok report⟩ ∈ events ∧ report.success = true ∧
    action.report = some report

/-- The broker has confirmed a close that leaves `left` of a row found open. -/
def Reduced (events : List PortEvent) (id : Nat) (left : Decimal) : Prop :=
  ∃ asked row volume report, ⟨.journal (.position asked), .ok (some row)⟩ ∈ events ∧ row.id = id ∧
    row.closedAt = none ∧ ⟨.broker (.closePosition row.brokerTicket volume), .ok report⟩ ∈ events ∧
    report.success = true ∧ left = row.currentVolume - volume.getD row.currentVolume

/-- What a call may ask after `events` of its own. -/
def Confirmed (events : List PortEvent) : Op → Prop
  | .journal (.recordPositionAction plan action eventType state _ _ _) => WorkerAction plan eventType state ∧
    (eventType = .tp1Hit ∨ eventType = .closed → Reported events plan.ticket action)
  | .journal (.markClosed id) => Reduced events id 0
  | .journal (.setVolume id left) => Reduced events id left
  | _ => True

abbrev Confirms (program : Py α) (events : List PortEvent) : Prop :=
  Keeps (S := Port) Confirmed (fun _ _ => True) (fun _ _ => True) program events

variable (settings : WorkerSettings) (symbol : String) (values : ManagementValues) (events : List PortEvent)

theorem confirms_of_manages {program : Py α} (manages : program.Asks Manages) : Confirms program events := by
  refine (Keeps.of_asks manages ⟨fun _ _ => ()⟩ () (fun _ _ => rfl) (fun later op _ asked => ?_) fun _ _ _ =>
    trivial).mono fun _ _ _ => trivial
  unfold Confirmed
  split
  · rcases asked with ⟨rfl, rfl⟩ | ⟨rfl, rfl⟩
    · exact ⟨.breakEven, by simp⟩
    · exact ⟨.trailing, by simp⟩
  · exact asked.elim
  · exact asked.elim
  · exact trivial

theorem confirms_partialClose (ticket : String) (fraction : Decimal) :
    Keeps (S := Port) Confirmed (fun _ _ => True) (fun later action => action.applied → Reported later ticket action)
      (PositionManager.partialClose ticket fraction) events := by
  refine .ite (fun _ => .raise trivial) fun _ => ?_
  refine .bind (confirms_of_manages events (manages_position ticket)) fun later position _ => ?_
  refine .ite (fun _ => ?_) fun _ => ?_
  · refine .perform_bind trivial (fun _ => trivial) fun report => .pure fun success => ?_
    exact ⟨_, report, List.mem_concat_self, success, rfl⟩
  · refine .perform_bind trivial (fun _ => trivial) fun spec => ?_
    refine .ite (fun _ => .pure (by simp)) fun _ => .ite (fun _ => .pure (by simp)) fun _ => ?_
    refine .perform_bind trivial (fun _ => trivial) fun report => .pure fun success => ?_
    exact ⟨_, report, List.mem_concat_self, success, rfl⟩

theorem confirms_takePartial (plan : ManagedPosition) (position : BrokerPosition) :
    Confirms (takePartial symbol values plan position) events := by
  refine .ite (fun _ => ?_) fun _ => .pure trivial
  refine .bind (confirms_partialClose events _ _) fun later action reported => ?_
  refine .ite (fun applied => ?_) fun _ => .pure trivial
  obtain ⟨volume, report, made, confirmed⟩ := reported applied
  refine .perform_bind trivial (fun _ => trivial) fun positions => ?_
  refine .perform_bind trivial (fun _ => trivial) fun now => ?_
  refine .perform_bind ⟨.firstTarget, fun _ => ⟨volume, report, ?_, confirmed⟩⟩ (fun _ => trivial) fun _ =>
    .pure trivial
  simp [made]

theorem confirms_managePlans (tick : Tick) (brokerPositions : Keyed BrokerPosition.ticket)
    (plans : List ManagedPosition) :
    Confirms (managePlans settings symbol values tick brokerPositions plans) events := by
  induction plans generalizing events with
  | nil => exact .pure trivial
  | cons plan plans ih =>
    unfold managePlans
    cases brokerPositions.get plan.ticket with
    | none => exact ih events
    | some position =>
      have managed : Confirms (managePlan settings symbol values tick plan position) events :=
        .bind (confirms_takePartial symbol values events plan position) fun later taken _ =>
          confirms_of_manages later (manages_rest settings symbol values tick plan _ _)
      exact .bind managed fun later _ _ => .bind (ih later) fun _ _ _ => .pure trivial

theorem confirms_exitPositions (plans : Keyed ManagedPosition.ticket) (positions : List BrokerPosition) :
    Confirms (exitPositions plans positions) events := by
  induction positions generalizing events with
  | nil => exact .pure trivial
  | cons position positions ih =>
    unfold exitPositions
    cases found : plans.get position.ticket with
    | none => exact ih events
    | some plan =>
      refine .perform_bind trivial (fun _ => trivial) fun report => .ite (fun success => ?_) fun _ => ih _
      refine .perform_bind trivial (fun _ => trivial) fun now => ?_
      refine .perform_bind ⟨.exit, fun _ => ⟨none, report, ?_, success, rfl⟩⟩ (fun _ => trivial) fun _ => ih _
      -- the plan was looked up by the ticket
      simp [key_of_lookup found]

theorem confirms_closePosition (id : Nat) (request : PositionsApi.ClosePositionRequest) :
    Confirms (PositionsApi.closePosition id request) events := by
  refine .perform_bind trivial (fun _ => trivial) fun position => ?_
  cases position with
  | none => exact .raise trivial
  | some row =>
    refine .ite (fun _ => .raise trivial) fun isOpen => .ite (fun _ => .raise trivial) fun _ => ?_
    refine .bind (.catching_perform (S := Port) (.broker (.closePosition row.brokerTicket request.volume)) trivial
      (fun _ _ => trivial) (fun report => ?_) fun _ _ => ?_)
      fun later answer (reduced : ∀ report, answer = .ok report → report.success = true →
        Reduced later row.id (row.currentVolume - request.volume.getD row.currentVolume)) => ?_
    · rintro _ ⟨⟩ success
      exact ⟨id, row, _, report, by simp, rfl, by simpa using isOpen, List.mem_concat_self, success, rfl⟩
    · rintro _ ⟨⟩
    cases answer with
    | error => exact .raise trivial
    | ok report =>
      refine .ite (fun _ => .raise trivial) fun success => ?_
      have reduced := reduced report rfl (by simpa using success)
      split
      next whole =>
        -- a full close leaves nothing
        have closed : request.volume.getD row.currentVolume = row.currentVolume := by
          cases asked : request.volume <;> simp_all
        rw [closed, sub_self] at reduced
        refine .perform_bind reduced (fun _ => trivial) fun _ => ?_
        exact .perform_bind trivial (fun _ => trivial) fun _ => .pure trivial
      next requested partly =>
        rw [(Option.filter_eq_some_iff.mp partly).1] at reduced
        refine .perform_bind reduced (fun _ => trivial) fun _ => ?_
        exact .perform_bind trivial (fun _ => trivial) fun _ => .pure trivial

/-- **No call records a close that the broker has not confirmed to it.** -/
theorem closes_confirmed (positions : List BrokerPosition) (id : Nat) (request : PositionsApi.ClosePositionRequest) :
    Confirms (managePositions settings symbol) [] ∧ Confirms (executeStrategyExit positions) [] ∧
      Confirms (PositionsApi.closePosition id request) [] := by
  refine ⟨?_, ?_, confirms_closePosition [] id request⟩
  · refine .perform_bind trivial (fun _ => trivial) fun plans => .ite (fun _ => .pure trivial) fun _ => ?_
    refine .perform_bind trivial (fun _ => trivial) fun positions => ?_
    refine .perform_bind trivial (fun _ => trivial) fun values => ?_
    refine .perform_bind trivial (fun _ => trivial) fun tick => ?_
    exact confirms_managePlans settings symbol values _ tick _ plans
  · exact .perform_bind trivial (fun _ => trivial) fun plans => confirms_exitPositions _ _ positions

end Jobs

section Rows

variable {before after : Database} {id : Nat}

theorem FollowsTable.of_same (same : after.positions = before.positions) : FollowsTable before after := by
  intro id old new found shown
  rw [same, found, Option.some.injEq] at shown
  subst shown
  exact fun changed => absurd rfl changed

theorem FollowsTable.of_insert {make : Nat → PositionRow} {keyed : ∀ id, positionSchema.id (make id) = id}
    (inserted : before.positions.insert make keyed = some after.positions) : FollowsTable before after := by
  intro id old new found shown
  rw [Table.get_insert inserted] at shown
  split at shown
  next last =>
    rw [last, Table.get_length] at found
    cases found
  next =>
    rw [found, Option.some.injEq] at shown
    subst shown
    exact fun changed => absurd rfl changed

theorem followsTable_update {change : PositionRow → PositionRow}
    {keyed : ∀ row, positionSchema.id (change row) = positionSchema.id row}
    (updated : before.positions.update id change keyed = some after.positions) :
    FollowsTable before after ↔ ∀ row, before.positions.get id = some row → Follows row.state (change row).state := by
  constructor
  · intro follows row found
    apply follows id row (positionSchema.store (change row)) found
    rw [Table.get_update updated, if_pos rfl, found, Option.map_some]
  · intro follows place old new found shown
    rw [Table.get_update updated] at shown
    split at shown
    next here =>
      subst here
      rw [found, Option.map_some, Option.some.injEq] at shown
      subst shown
      exact follows old found
    next =>
      rw [found, Option.some.injEq] at shown
      subst shown
      exact fun changed => absurd rfl changed

end Rows

theorem WorkerPersistence.actedPosition_state (action : PositionAction) (eventType : TradeEventType)
    (state : Option TradeState) (position : Option BrokerPosition) (time : Instant) (row : PositionRow) :
    (actedPosition action eventType state position time row).state = (appliedState action state).getD row.state := by
  unfold actedPosition
  cases closes action eventType <;> cases position <;> rfl

theorem SQLAlchemyRecoveryLedger.followed_state (record : LedgerPosition) (row : PositionRow) :
    (followed record row).state = if record.status = .closed then .closed else .positionOpen := by
  unfold followed
  split <;> rfl

def StatesWritten (database : Database) : Prop := ∀ row ∈ database.positions.rows, row.state ∈ writtenStates

theorem GoldFlowWorker.stateAfterTarget_written (plan : ManagedPosition) : stateAfterTarget plan ∈ writtenStates := by
  unfold stateAfterTarget
  split
  next reached => simp [reached, writtenStates]
  next => decide

theorem WorkerPersistence.filledState_written (outcome : ExecutionOutcome) : filledState outcome ∈ writtenStates := by
  unfold filledState
  split
  · decide
  · split <;> decide

theorem WorkerAction.state_written {plan : ManagedPosition} {action : PositionAction} {eventType : TradeEventType}
    {state : Option TradeState} (worker : WorkerAction plan eventType state) {old : TradeState}
    (written : old ∈ writtenStates) : (appliedState action state).getD old ∈ writtenStates := by
  unfold appliedState
  split
  · cases worker with
    | firstTarget => exact stateAfterTarget_written plan
    | breakEven | exit => simp [writtenStates]
    | trailing => exact written
  · exact written

namespace DurableBooks

variable (books : DurableBooks)

/-- A live upsert finds its row open, and an action finds a state from which its event leads on. -/
def KeepsTable (before : Database) : JournalWrite → Prop
  | .upsertPosition record => record.status ≠ .closed → ∀ row,
    before.positionWith books.ledger.brokerAccountId record.item.ticket = some row → row.state = .positionOpen
  | .recordPositionAction plan action eventType _ _ _ _ => action.applied = true → ∀ row,
    before.positions.get plan.positionId = some row →
    match eventType with
    | .tp1Hit => row.state = .positionOpen ∨ row.state = .tp1Hit ∨ row.state = .breakEven ∧ plan.state = .breakEven
    | .breakEven => row.state = .positionOpen ∨ row.state = .tp1Hit ∨ row.state = .breakEven
    | _ => True
  | _ => True

def WorkerWrites (before : Database) (write : JournalWrite) (after : Database) : Prop :=
  write.FromWorker ∧ books.Writes before write after

variable {books} {before after : Database} {write : JournalWrite} {now : Instant}

theorem RowsWritten.statesWritten (states : StatesWritten before) (worker : write.FromWorker)
    (written : books.RowsWritten now before after write) : StatesWritten after := by
  unfold StatesWritten
  cases written with
  | untouched _ positions =>
    rw [positions]
    exact states
  | recovered _ added =>
    have opened : TradeState.positionOpen ∈ writtenStates := by decide
    exact (Table.forall_insert added).mpr ⟨states, opened⟩
  | opened _ _ _ added _ =>
    exact (Table.forall_insert added).mpr ⟨states, filledState_written _⟩
  | followed _ _ updated _ | retired _ _ updated _ _ =>
    rw [Table.forall_update updated states]
    intro row _
    show (SQLAlchemyRecoveryLedger.followed _ row).state ∈ writtenStates
    rw [followed_state]
    split <;> decide
  | acted _ _ updated _ =>
    rw [Table.forall_update updated states]
    intro row found
    show (actedPosition _ _ _ _ _ row).state ∈ writtenStates
    rw [actedPosition_state]
    exact worker.state_written (states row (Table.mem_of_get found))
  | marked updated _ =>
    rw [Table.forall_update updated states]
    exact fun _ _ => by simp [PositionRow.stored, PositionRow.touched, writtenStates]
  | resized updated =>
    rw [Table.forall_update updated states]
    exact fun row found => states row (Table.mem_of_get found)

theorem follows_action_iff {plan : ManagedPosition} {action : PositionAction} {eventType : TradeEventType}
    {state : Option TradeState} {position : Option BrokerPosition} {time : Instant} {suffix : String}
    (states : StatesWritten before) (worker : WorkerAction plan eventType state) :
    (∀ row, before.positions.get plan.positionId = some row →
      Follows row.state ((appliedState action state).getD row.state)) ↔
    books.KeepsTable before (.recordPositionAction plan action eventType state position time suffix) := by
  cases applied : action.applied with
  | false => simp [appliedState, KeepsTable, applied, Follows]
  | true =>
    simp only [appliedState, KeepsTable, applied, forall_const]
    refine forall₂_congr fun row found => ?_
    have written := states row (Table.mem_of_get found)
    cases worker with
    | firstTarget =>
      -- a plan at break-even writes break-even, any other the first target
      by_cases reached : plan.state = .breakEven
      · simp [GoldFlowWorker.stateAfterTarget, reached, follows_breakEven]
      · simp [GoldFlowWorker.stateAfterTarget, reached, follows_tp1Hit]
    | breakEven => exact follows_breakEven
    | trailing => exact iff_of_true (fun changed => absurd rfl changed) trivial
    | exit => exact iff_of_true (follows_closed written) trivial

/-- **A transaction follows the table exactly under the condition.** -/
theorem RowsWritten.followsTable_iff (states : StatesWritten before) (worker : write.FromWorker)
    (written : books.RowsWritten now before after write) :
    FollowsTable before after ↔ books.KeepsTable before write := by
  cases written with
  | untouched leaves positions _ =>
    refine iff_of_true (.of_same positions) ?_
    cases write with
    | upsertPosition _ | recordPositionAction _ _ _ _ _ _ _ => exact leaves.elim
    | _ => exact trivial
  | recovered missing added _ =>
    refine iff_of_true (.of_insert added) fun _ row found => ?_
    rw [missing] at found
    cases found
  | opened _ _ _ added => exact iff_of_true (.of_insert added) trivial
  | @followed record row found live updated _ =>
    rw [followsTable_update updated]
    have written := states row (Database.positionWith_eq_some.mp found).1
    have state : (PositionRow.touched (SQLAlchemyRecoveryLedger.followed record) now row).state = .positionOpen :=
      (followed_state record row).trans (if_neg live)
    constructor
    · intro follows _ other same
      rw [found, Option.some.injEq] at same
      subst same
      have kept := follows row (Database.get_positionWith found)
      rwa [state, follows_positionOpen written] at kept
    · intro keeps other shown
      rw [Database.get_positionWith found, Option.some.injEq] at shown
      subst shown
      rw [state, follows_positionOpen written]
      exact keeps live row found
  | @retired record row trade found closing updated _ _ =>
    rw [followsTable_update updated]
    refine iff_of_true (fun other shown => ?_) fun live => absurd closing live
    have state : (PositionRow.touched (SQLAlchemyRecoveryLedger.followed record) now other).state = .closed :=
      (followed_state record other).trans (if_pos closing)
    rw [state]
    exact follows_closed (states other (Table.mem_of_get shown))
  | @acted plan action eventType state position time suffix row trade _ _ updated _ =>
    rw [followsTable_update updated, ← follows_action_iff states worker]
    refine forall₂_congr fun other _ => ?_
    show Follows _ (actedPosition _ _ _ _ _ other).state ↔ _
    rw [actedPosition_state]
  | marked updated =>
    rw [followsTable_update updated]
    exact iff_of_true (fun row found => follows_closed (states row (Table.mem_of_get found))) trivial
  | resized updated _ =>
    rw [followsTable_update updated]
    exact iff_of_true (fun _ _ changed => absurd rfl changed) trivial

end DurableBooks

structure Managed (database : Database) : Prop where
  linked : Linked database
  states : StatesWritten database

theorem Managed.kept {books : DurableBooks} {before after : Database} {write : JournalWrite}
    (managed : Managed before) (written : books.WorkerWrites before write after) : Managed after := by
  obtain ⟨worker, now, committed⟩ := written
  have rows := DurableBooks.rowsWritten managed.linked committed
  exact ⟨rows.linked managed.linked, rows.statesWritten managed.states worker⟩

/-- **Stored states follow the table exactly if a live upsert finds its row open, and no action comes to a row
that is further or closed.** -/
theorem follows_table_iff (books : DurableBooks) {start final : Database}
    {moves : List (Database × JournalWrite × Database)} (noPositions : start.positions = .empty)
    (noTrades : start.trades = .empty) (trace : Trace books.WorkerWrites start moves final) :
    (∀ move ∈ moves, FollowsTable move.1 move.2.2) ↔ ∀ move ∈ moves, books.KeepsTable move.1 move.2.1 := by
  have initially : Managed start :=
    ⟨Linked.of_empty noPositions noTrades, by simp [StatesWritten, noPositions, Table.empty]⟩
  have kept := trace.invariant initially fun _ _ _ => Managed.kept
  refine forall₂_congr fun move member => ?_
  obtain ⟨⟨linked, states⟩, worker, now, committed⟩ := kept.2 move member
  exact (DurableBooks.rowsWritten linked committed).followsTable_iff states worker

namespace Demo

def goldPlan : ManagedPosition where
  positionId := 0
  tradeId := 0
  ticket := "P1"
  direction := .long
  state := .positionOpen
  initialVolume := 1 / 10
  currentVolume := 1 / 10
  openPrice := goldPosition.openPrice
  stopLoss := goldPosition.stopLoss
  takeProfits := []
  slippage := 0
  seenEvents := []

def takesTarget : JournalWrite :=
  .recordPositionAction goldPlan { applied := true, reason := "PARTIAL_CLOSE_EXECUTED" } .tp1Hit
    (some (GoldFlowWorker.stateAfterTarget goldPlan)) none now ""

end Demo

open Demo

/-- Recovery and a first target follow the table. -/
theorem follows_table_target :
    ∃ middle final, Trace books.WorkerWrites emptyDatabase
      [(emptyDatabase, recovers, middle), (middle, takesTarget, final)] final ∧
      FollowsTable middle final := by
  have opens : (books.write recovers { emptyDatabase with now := 0 }).toOption.any (fun middle =>
      (middle.positions.get 0).any (·.state = .positionOpen) &&
        (books.write takesTarget { middle with now := 0 }).toOption.isSome) = true := by
    decide +kernel
  obtain ⟨middle, recovered, checked⟩ := ok_of_any opens
  rw [Bool.and_eq_true] at checked
  obtain ⟨opened, commits⟩ := checked
  obtain ⟨final, taken⟩ := ok_of_isSome commits
  have trace : Trace books.WorkerWrites emptyDatabase
      [(emptyDatabase, recovers, middle), (middle, takesTarget, final)] final :=
    .snoc (.snoc .nil ⟨trivial, 0, recovered⟩) ⟨.firstTarget, 0, taken⟩
  have first : books.KeepsTable emptyDatabase recovers := by
    intro _ row found
    have missing : emptyDatabase.positionWith "demo-1" goldPosition.ticket = none := rfl
    exact absurd (missing.symm.trans found) (by simp)
  have second : books.KeepsTable middle takesTarget := by
    intro _ row found
    have shown : middle.positions.get 0 = some row := found
    simp only [shown, Option.any_some, decide_eq_true_eq] at opened
    exact .inl opened
  have follows := (follows_table_iff books rfl rfl trace).mpr (by simp [first, second])
  exact ⟨middle, final, trace, follows (middle, takesTarget, final) (by simp)⟩

/-- Reconciliation sets a position at its first target back to open. -/
theorem reopened_target_leaves_table :
    ∃ moves middle final, Trace books.WorkerWrites emptyDatabase moves middle ∧
      moves.map (·.2.1) = [recovers, takesTarget] ∧
      books.WorkerWrites middle recovers final ∧ ¬ FollowsTable middle final := by
  have reopens : (books.replay 0 [recovers, takesTarget] emptyDatabase).toOption.any (fun middle =>
      (middle.positions.get 0).any (·.state = .tp1Hit) &&
        (books.write recovers { middle with now := 0 }).toOption.any fun final =>
          (final.positions.get 0).any (·.state = .positionOpen)) = true := by
    decide +kernel
  obtain ⟨middle, replayed, checked⟩ := ok_of_any reopens
  rw [Bool.and_eq_true] at checked
  obtain ⟨target, commits⟩ := checked
  obtain ⟨final, written, listed⟩ := ok_of_any commits
  simp only [Option.any_eq_true, decide_eq_true_eq] at target listed
  obtain ⟨old, found, reached⟩ := target
  obtain ⟨new, shown, opened⟩ := listed
  obtain ⟨moves, trace, same⟩ := DurableBooks.trace_of_replay replayed
  refine ⟨moves, middle, final, trace.restrict fun move member => ?_, same, ⟨trivial, 0, written⟩, ?_⟩
  · have listed : move.2.1 ∈ [recovers, takesTarget] := same ▸ List.mem_map_of_mem member
    rcases List.mem_pair.mp listed with upsert | action
    · rw [upsert]
      exact trivial
    · rw [action]
      exact .firstTarget
  · intro follows
    have kept := follows 0 old new found shown
    rw [reached, opened] at kept
    exact absurd kept (by decide)

end GoldFlow
