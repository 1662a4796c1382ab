import GoldFlow.Brokers.Mock
import GoldFlow.Verified.JournalWrites
import GoldFlow.Worker.Positions

/-! # The first target is taken once -/

namespace GoldFlow

open Effect Data WorkerPersistence GoldFlowWorker

/-! ## A cycle -/

structure Cycle where
  plans : List ManagedPosition := []
  /-- The tickets of the closes that were asked for. -/
  closed : List String := []
  /-- The ticket of a confirmed close that is not recorded yet. -/
  owes : Option String := none
  /-- Something was raised while a record was owed. -/
  failed : Bool := false
  deriving DecidableEq

namespace Cycle

def observe (cycle : Cycle) : PortEvent → Cycle
  | ⟨.journal .openPositionPlans, .ok plans⟩ => { cycle with plans }
  | ⟨.broker (.closePosition ticket _), .ok report⟩ =>
    { cycle with closed := ticket :: cycle.closed, owes := if report.success then some ticket else none }
  | ⟨.broker (.closePosition ticket _), .error _⟩ => { cycle with closed := ticket :: cycle.closed }
  | ⟨.journal (.recordPositionAction _ _ .tp1Hit _ _ _ _), .ok _⟩ => { cycle with owes := none }
  | ⟨_, .error _⟩ => { cycle with failed := cycle.failed || cycle.owes.isSome }
  | _ => cycle

def monitor : Monitor Port PyError Cycle := ⟨observe⟩

/-- A close is the only one for its ticket, for a plan without its first target; its record comes next. -/
def allowed (cycle : Cycle) : Op → Prop
  | .journal .openPositionPlans => cycle = {}
  | .broker (.closePosition ticket _) =>
    cycle.owes = none ∧ ((cycle.plans.map (·.ticket)).Nodup → ticket ∉ cycle.closed) ∧
      ∃ plan ∈ cycle.plans, plan.ticket = ticket ∧ .tp1Hit ∉ plan.seenEvents
  | .journal (.recordPositionAction plan _ .tp1Hit _ _ _ _) => plan ∈ cycle.plans ∧ cycle.owes = some plan.ticket
  | _ => True

def calm : Op → Bool
  | .journal .openPositionPlans => false
  | .broker (.closePosition _ _) => false
  | .journal (.recordPositionAction _ _ .tp1Hit _ _ _ _) => false
  | _ => true

variable {cycle : Cycle} {op : Op} {α β : Type} {next : α → Py β}

theorem allowed_of_calm (quiet : calm op = true) : cycle.allowed op := by
  unfold allowed
  split <;> simp_all [calm]

theorem observe_of_calm {reply : Except PyError op.Value} (quiet : calm op = true) (settled : cycle.owes = none) :
    cycle.observe ⟨op, reply⟩ = cycle := by
  obtain ⟨plans, closed, owes, failed⟩ := cycle
  unfold observe
  split <;> simp_all [calm]

theorem calm_of_manages (quiet : Manages op) : calm op = true := by
  unfold calm
  split <;> simp_all [Manages]

theorem wp_calm {α : Type} {program : Py α} (quiet : program.Asks Manages)
    {post : Cycle → Except PyError α → Prop} (settled : cycle.owes = none) (ends : ∀ result, post cycle result) :
    program.wp monitor.environment allowed post cycle := by
  induction program with
  | pure => exact ends _
  | raise => exact ends _
  | call op next ih =>
    refine ⟨allowed_of_calm (calm_of_manages quiet.1), ?_⟩
    rintro reply _ rfl
    show Program.wp _ _ _ (next reply) (cycle.observe ⟨op, reply⟩)
    rw [observe_of_calm (calm_of_manages quiet.1) settled]
    exact ih reply (quiet.2 reply)

theorem wp_calm_bind {program : Py α} {post : Cycle → Except PyError β → Prop}
    (quiet : program.Asks Manages) (settled : cycle.owes = none)
    (raises : ∀ error, post cycle (.error error))
    (rest : ∀ value, (next value).wp monitor.environment allowed post cycle) :
    (program.bind next).wp monitor.environment allowed post cycle := by
  rw [Program.wp_bind]
  refine wp_calm quiet settled fun result => ?_
  cases result with
  | error error => exact raises error
  | ok value => exact rest value

/-! ### The turn of a plan -/

def Ends {α : Type} (holds : Cycle → Prop) (cycle : Cycle) : Except PyError α → Prop
  | .ok _ => cycle.owes = none ∧ holds cycle
  | .error _ => cycle.owes = none ∨ cycle.failed = true

structure Handled (plan : ManagedPosition) (before cycle : Cycle) : Prop where
  plans : cycle.plans = before.plans
  closed : ∀ ticket ∈ cycle.closed, ticket = plan.ticket ∨ ticket ∈ before.closed

theorem Handled.refl (plan : ManagedPosition) (cycle : Cycle) : Handled plan cycle cycle :=
  ⟨rfl, fun _ member => .inr member⟩

theorem Ends.bind {program : Py α} {holds concluded : Cycle → Prop}
    (first : program.wp monitor.environment allowed (Ends holds) cycle)
    (rest : ∀ after value, after.owes = none → holds after →
      (next value).wp monitor.environment allowed (Ends concluded) after) :
    (program.bind next).wp monitor.environment allowed (Ends concluded) cycle := by
  rw [Program.wp_bind]
  refine Program.wp_mono first (fun _ _ permitted => permitted) fun after result ended => ?_
  cases result with
  | error => exact ended
  | ok value => exact rest after value ended.1 ended.2

theorem wp_partialClose {ticket : String} {fraction : Decimal} {post : Cycle → Except PyError PositionAction → Prop}
    (settled : cycle.owes = none) (may : ∀ volume, cycle.allowed (.broker (.closePosition ticket volume)))
    (raises : ∀ error, post cycle (.error error))
    (declines : ∀ action : PositionAction, action.applied = false → post cycle (.ok action))
    (answered : ∀ volume (report : ExecutionReport) (action : PositionAction), action.applied = report.success →
      post (cycle.observe ⟨.broker (.closePosition ticket volume), .ok report⟩) (.ok action))
    (lost : ∀ volume error, post (cycle.observe ⟨.broker (.closePosition ticket volume), .error error⟩)
      (.error error)) :
    (PositionManager.partialClose ticket fraction).wp monitor.environment allowed post cycle := by
  have closing : ∀ volume (action : ExecutionReport → PositionAction),
      (∀ report, (action report).applied = report.success) →
      Program.wp monitor.environment allowed post
        ((askBroker (.closePosition ticket volume)).bind fun report => .pure (action report)) cycle := by
    intro volume action applied
    refine ⟨may volume, ?_⟩
    rintro reply _ rfl
    cases reply with
    | ok report => exact answered volume report _ (applied report)
    | error error => exact lost volume error
  unfold PositionManager.partialClose
  split
  · exact raises _
  · refine wp_calm_bind (manages_position ticket) settled raises fun position => ?_
    split
    · exact closing none _ fun _ => rfl
    · refine wp_calm_bind (.perform trivial) settled raises fun spec => ?_
      dsimp only
      split
      · exact declines _ rfl
      · split
        · exact declines _ rfl
        · exact closing _ _ fun _ => rfl

variable {symbol : String} {plan : ManagedPosition} {position : BrokerPosition}

theorem wp_record {action : PositionAction} {before : Cycle} (member : plan ∈ cycle.plans)
    (owed : cycle.owes = some plan.ticket) (handled : Handled plan before cycle) :
    Program.wp monitor.environment allowed (Ends (Handled plan before))
      ((askBroker (.getPositions (some symbol))).bind fun positions => clock.bind fun now =>
        (askJournal (.recordPositionAction plan action .tp1Hit (some (stateAfterTarget plan))
          (positions.find? (·.ticket = plan.ticket)) now "")).bind fun _ =>
            .pure ((positions.find? (·.ticket = plan.ticket)).getD position, 1)) cycle := by
  have broken : ∀ error : PyError, Ends (α := BrokerPosition × Nat) (Handled plan before)
      { cycle with failed := cycle.failed || cycle.owes.isSome } (.error error) :=
    fun _ => .inr (by simp [owed])
  refine ⟨trivial, ?_⟩
  rintro listed _ rfl
  cases listed with
  | error error => exact broken error
  | ok =>
    refine ⟨trivial, ?_⟩
    rintro told _ rfl
    cases told with
    | error error => exact broken error
    | ok =>
      refine ⟨⟨member, owed⟩, ?_⟩
      rintro recorded _ rfl
      cases recorded with
      | error error => exact broken error
      | ok => exact ⟨rfl, handled.plans, handled.closed⟩

variable {values : ManagementValues} {tick : Tick}

theorem wp_takePartial (settled : cycle.owes = none) (member : plan ∈ cycle.plans)
    (fresh : (cycle.plans.map (·.ticket)).Nodup → plan.ticket ∉ cycle.closed) :
    (takePartial symbol values plan position).wp monitor.environment allowed (Ends (Handled plan cycle)) cycle := by
  unfold takePartial
  by_cases due : partialDue values plan position = true
  · rw [if_pos due, Program.bind_eq, Program.wp_bind]
    have unseen : .tp1Hit ∉ plan.seenEvents := by
      simp only [partialDue, Bool.and_eq_true, decide_eq_true_eq] at due
      exact due.1.2
    refine wp_partialClose settled (fun volume => ⟨settled, fresh, plan, member, rfl, unseen⟩) (fun error => ?_)
      (fun action declined => ?_) (fun volume report action applied => ?_) fun volume error => ?_
    · exact .inl settled
    · show Program.wp _ _ _ (if action.applied = true then _ else _) cycle
      rw [if_neg (by simp [declined])]
      exact ⟨settled, .refl plan cycle⟩
    · show Program.wp _ _ _ (if action.applied = true then _ else _) _
      have handled : Handled plan cycle (cycle.observe ⟨.broker (.closePosition plan.ticket volume), .ok report⟩) :=
        ⟨rfl, fun ticket inside => List.mem_cons.mp inside⟩
      by_cases success : report.success = true
      · rw [if_pos (applied.trans success)]
        exact wp_record member (if_pos success) handled
      · rw [if_neg (by rw [applied]; exact success)]
        exact ⟨if_neg success, handled⟩
    · exact .inl settled
  · rw [if_neg due]
    exact ⟨settled, .refl plan cycle⟩

theorem wp_managePlan (settings : WorkerSettings) (settled : cycle.owes = none) (member : plan ∈ cycle.plans)
    (fresh : (cycle.plans.map (·.ticket)).Nodup → plan.ticket ∉ cycle.closed) :
    (managePlan settings symbol values tick plan position).wp monitor.environment allowed
      (Ends (Handled plan cycle)) cycle := by
  unfold managePlan
  apply Ends.bind (wp_takePartial settled member fresh)
  intro after taken settled handled
  refine wp_calm (manages_rest settings symbol values tick plan _ _) settled fun result => ?_
  cases result with
  | ok => exact ⟨settled, handled⟩
  | error => exact .inl settled

theorem wp_managePlans (settings : WorkerSettings) {positions : Keyed BrokerPosition.ticket}
    (rest : List ManagedPosition) {before : List ManagedPosition} (settled : cycle.owes = none)
    (whole : cycle.plans = before ++ rest) (closed : ∀ ticket ∈ cycle.closed, ticket ∈ before.map (·.ticket)) :
    (managePlans settings symbol values tick positions rest).wp monitor.environment allowed
      (Ends fun _ => True) cycle := by
  induction rest generalizing cycle before with
  | nil => exact ⟨settled, trivial⟩
  | cons plan rest ih =>
    have shifted : before ++ plan :: rest = (before ++ [plan]) ++ rest := by simp
    unfold managePlans
    cases positions.get plan.ticket with
    | none =>
      refine ih settled (whole.trans shifted) fun ticket member => ?_
      rw [List.map_append]
      exact List.mem_append_left _ (closed ticket member)
    | some =>
      have member : plan ∈ cycle.plans := by rw [whole]; simp
      have fresh : (cycle.plans.map (·.ticket)).Nodup → plan.ticket ∉ cycle.closed := by
        intro distinct already
        rw [whole, List.map_append, List.map_cons, List.nodup_append] at distinct
        exact distinct.2.2 _ (closed _ already) _ (by simp) rfl
      apply Ends.bind (wp_managePlan settings settled member fresh)
      intro after applied settled handled
      refine Ends.bind (ih settled (handled.plans.trans (whole.trans shifted)) ?_) fun _ _ settled _ =>
        ⟨settled, trivial⟩
      intro ticket inside
      rw [List.map_append, List.mem_append]
      rcases handled.closed ticket inside with rfl | earlier
      · exact .inr (by simp)
      · exact .inl (closed ticket earlier)

/-- **A cycle keeps to the discipline.** -/
theorem wp_managePositions (settings : WorkerSettings) (symbol : String) :
    (managePositions settings symbol).wp monitor.environment allowed (Ends fun _ => True) {} := by
  refine ⟨rfl, ?_⟩
  rintro read _ rfl
  cases read with
  | error => exact .inl rfl
  | ok plans =>
    show Program.wp _ _ _ (if plans.isEmpty = true then _ else _) { plans : Cycle }
    split
    · exact ⟨rfl, trivial⟩
    · refine wp_calm_bind (.perform trivial) rfl (fun _ => .inl rfl) fun positions => ?_
      refine wp_calm_bind (.perform trivial) rfl (fun _ => .inl rfl) fun values => ?_
      refine wp_calm_bind (.perform trivial) rfl (fun _ => .inl rfl) fun tick => ?_
      exact wp_managePlans settings plans rfl (List.nil_append plans).symm (by simp)

end Cycle

/-! ## The broker and the journal -/

structure ManagedBooks where
  database : Database
  /-- The tickets of the closes that the broker has executed. -/
  executed : List String := []
  /-- Those whose answer was lost. -/
  lost : List String := []

namespace ManagedBooks

def close (books : ManagedBooks) (ticket : String) : ManagedBooks :=
  { books with executed := ticket :: books.executed }

/-- A close may be executed although its answer is lost; a transaction commits or has no effect. -/
def environment (persistence : WorkerPersistence) : Environment Port PyError ManagedBooks where
  step books event after :=
    match event with
    | ⟨.journal .openPositionPlans, reply⟩ =>
      (reply = .ok (persistence.openPositionPlans books.database) ∨ ∃ error, reply = .error error) ∧ after = books
    | ⟨.journal (.recordPositionAction plan action eventType state position now suffix), reply⟩ =>
      ∃ stamp, Transaction
        ((persistence.recordPositionAction plan action eventType state position now suffix
          { books.database with now := stamp }).map fun database => ((), { books with database })) books reply after
    | ⟨.broker (.closePosition ticket _), .ok report⟩ =>
      after = if report.success then books.close ticket else books
    | ⟨.broker (.closePosition ticket _), .error _⟩ =>
      after = books ∨ after = { books.close ticket with lost := ticket :: books.lost }
    | _ => after = books

end ManagedBooks

def FirstTargetRecorded (persistence : WorkerPersistence) (database : Database) (ticket : String) : Prop :=
  ∀ row ∈ database.positions.rows, row.brokerAccountId = persistence.brokerAccountId → row.brokerTicket = ticket →
    ∃ event ∈ database.events, event.positionId = some row.id ∧ event.eventType = .tp1Hit

section Recorded

variable {persistence : WorkerPersistence} {database after : Database} {plan : ManagedPosition}
  {action : PositionAction} {eventType : TradeEventType} {state : Option TradeState} {position : Option BrokerPosition}
  {now : Instant} {suffix ticket : String}

theorem FirstTargetRecorded.kept (recorded : FirstTargetRecorded persistence database ticket)
    (acted : persistence.recordPositionAction plan action eventType state position now suffix database = .ok after) :
    FirstTargetRecorded persistence after ticket := by
  intro row member account same
  obtain ⟨old, inside, id, oldAccount, oldTicket⟩ := (recordPositionAction_rows acted).1 row member
  obtain ⟨event, present, about, kind⟩ := recorded old inside (oldAccount.trans account) (oldTicket.trans same)
  exact ⟨event, recordPositionAction_events acted present, about.trans (by rw [id]), kind⟩

theorem firstTargetRecorded_of_acted {row : PositionRow}
    (acted : persistence.recordPositionAction plan action .tp1Hit state position now suffix database = .ok after)
    (member : row ∈ database.positions.rows) (id : row.id = plan.positionId)
    (account : row.brokerAccountId = persistence.brokerAccountId) (same : row.brokerTicket = plan.ticket)
    (free : ∀ event ∈ database.events, event.eventKey = persistence.actionKey plan .tp1Hit suffix →
      event.positionId = some plan.positionId ∧ event.eventType = .tp1Hit) :
    FirstTargetRecorded persistence after plan.ticket := by
  intro other inside otherAccount otherTicket
  -- the ticket is that of one row of the account
  obtain ⟨old, oldInside, oldId, oldAccount, oldTicket⟩ := (recordPositionAction_rows acted).1 other inside
  have single : old = row := by
    apply Table.eq_of_clash oldInside member
    simp [positionSchema, oldAccount, otherAccount, account, oldTicket, otherTicket, same]
  obtain ⟨event, present, key, source⟩ := recordPositionAction_event acted
  have about : event.positionId = some plan.positionId ∧ event.eventType = .tp1Hit := by
    rcases source with earlier | own
    · exact free event earlier key
    · exact own
  refine ⟨event, present, ?_, about.2⟩
  rw [about.1, ← id, ← oldId, single]

theorem seen_of_recorded (recorded : FirstTargetRecorded persistence database plan.ticket)
    (listed : plan ∈ persistence.openPositionPlans database) : .tp1Hit ∈ plan.seenEvents := by
  obtain ⟨row, member, account, _, trade, _, rfl⟩ := mem_openPositionPlans.mp listed
  obtain ⟨event, present, about, kind⟩ := recorded row member account rfl
  simp only [planOf, List.mem_map, List.mem_filter, decide_eq_true_eq]
  exact ⟨event, ⟨present, about⟩, kind⟩

end Recorded

/-! ## Runs of cycles -/

abbrev CycleLabel := Label Port PyError Nat Unit String

def cycleAfter (labels : List CycleLabel) : Option Cycle :=
  Cycle.monitor.track (fun _ _ => {}) (fun _ => none) labels ()

def disturbs : CycleLabel → Bool
  | .crash _ => true
  | .event _ ⟨_, .error _⟩ => true
  | _ => false

def recordsTarget? : CycleLabel → Option (ManagedPosition × String)
  | .event _ ⟨.journal (.recordPositionAction plan _ .tp1Hit _ _ _ suffix), _⟩ => some (plan, suffix)
  | _ => none

/-- Nothing comes between a confirmed close and its record: no lost answer, crash or exception, nor another
event of the same key. -/
abbrev Undisturbed (persistence : WorkerPersistence) (labels : List CycleLabel) (books : ManagedBooks)
    (label : CycleLabel) : Prop :=
  books.lost = [] ∧ ((cycleAfter labels).any (·.owes.isSome) = true → disturbs label = false) ∧
    ∀ target ∈ recordsTarget? label, ∀ event ∈ books.database.events,
      event.eventKey = persistence.actionKey target.1 .tp1Hit target.2 →
        event.positionId = some target.1.positionId ∧ event.eventType = .tp1Hit

structure TakenOnce (persistence : WorkerPersistence) (running : Option Cycle) (books : ManagedBooks) : Prop where
  once : books.executed.Nodup
  journaled : ∀ ticket ∈ books.executed, ticket ∈ books.lost ∨
    FirstTargetRecorded persistence books.database ticket ∨ ∃ cycle ∈ running, cycle.owes = some ticket
  undisturbed : ∀ cycle ∈ running, cycle.failed = false
  known : ∀ cycle ∈ running, ∀ plan ∈ cycle.plans, ∃ row ∈ books.database.positions.rows,
    row.id = plan.positionId ∧ row.brokerAccountId = persistence.brokerAccountId ∧ row.brokerTicket = plan.ticket
  unclosed : ∀ cycle ∈ running, ∀ plan ∈ cycle.plans, .tp1Hit ∉ plan.seenEvents →
    plan.ticket ∈ books.executed → plan.ticket ∈ cycle.closed
  distinct : ∀ cycle ∈ running, (cycle.plans.map (·.ticket)).Nodup

namespace TakenOnce

variable {persistence : WorkerPersistence} {cycle : Cycle} {books after : ManagedBooks}

theorem forget {running : Option Cycle} (taken : TakenOnce persistence running books)
    (settled : ∀ cycle ∈ running, cycle.owes = none) {next : Option Cycle} (new : ∀ cycle ∈ next, cycle = {}) :
    TakenOnce persistence next books where
  once := taken.once
  journaled ticket member := by
    refine (taken.journaled ticket member).imp_right (Or.imp_right ?_)
    rintro ⟨cycle, inside, owed⟩
    rw [settled cycle inside] at owed
    cases owed
  undisturbed cycle inside := by rw [new cycle inside]
  known cycle inside plan member := by
    rw [new cycle inside] at member
    cases member
  unclosed cycle inside plan member := by
    rw [new cycle inside] at member
    cases member
  distinct cycle inside := by
    rw [new cycle inside]
    exact List.nodup_nil

theorem read (taken : TakenOnce persistence (some {}) books) (answered : books.lost = []) :
    TakenOnce persistence (some { plans := persistence.openPositionPlans books.database }) books where
  once := taken.once
  journaled ticket member := by
    rcases taken.journaled ticket member with lost | recorded | ⟨_, ⟨⟩, owed⟩
    · exact .inl lost
    · exact .inr (.inl recorded)
    · cases owed
  undisturbed := by simp
  known := by
    rintro _ ⟨⟩ plan listed
    obtain ⟨row, member, account, _, _, _, rfl⟩ := mem_openPositionPlans.mp listed
    exact ⟨row, member, rfl, account, rfl⟩
  unclosed := by
    rintro _ ⟨⟩ plan listed unseen executed
    rcases taken.journaled _ executed with lost | recorded | ⟨_, ⟨⟩, owed⟩
    · rw [answered] at lost
      cases lost
    · exact absurd (seen_of_recorded recorded listed) unseen
    · cases owed
  distinct := by
    rintro _ ⟨⟩
    exact openPositionPlans_tickets persistence books.database

section

variable (taken : TakenOnce persistence (some cycle) books)
include taken

theorem fresh {ticket : String} {volume : Option Decimal}
    (allowed : cycle.allowed (.broker (.closePosition ticket volume))) : ticket ∉ books.executed := by
  obtain ⟨_, once, plan, member, rfl, unseen⟩ := allowed
  intro executed
  exact once (taken.distinct _ rfl) (taken.unclosed _ rfl plan member unseen executed)

theorem advance {next : Cycle} (once : after.executed.Nodup)
    (journaled : ∀ ticket ∈ after.executed, ticket ∈ after.lost ∨
      FirstTargetRecorded persistence after.database ticket ∨ next.owes = some ticket)
    (rows : ∀ old ∈ books.database.positions.rows, ∃ row ∈ after.database.positions.rows,
      row.id = old.id ∧ row.brokerAccountId = old.brokerAccountId ∧ row.brokerTicket = old.brokerTicket)
    (plans : next.plans = cycle.plans) (failed : next.failed = cycle.failed)
    (asked : ∀ ticket ∈ cycle.closed, ticket ∈ next.closed)
    (executed : ∀ ticket ∈ after.executed, ticket ∈ books.executed ∨ ticket ∈ next.closed) :
    TakenOnce persistence (some next) after where
  once := once
  journaled ticket member :=
    (journaled ticket member).imp_right (Or.imp_right fun owed => ⟨next, rfl, owed⟩)
  undisturbed := by
    rintro _ ⟨⟩
    rw [failed]
    exact taken.undisturbed _ rfl
  known := by
    rintro _ ⟨⟩ plan member
    rw [plans] at member
    obtain ⟨old, inside, id, account, ticket⟩ := taken.known _ rfl plan member
    obtain ⟨row, present, sameId, sameAccount, sameTicket⟩ := rows old inside
    exact ⟨row, present, sameId.trans id, sameAccount.trans account, sameTicket.trans ticket⟩
  unclosed := by
    rintro _ ⟨⟩ plan member unseen closed
    rw [plans] at member
    rcases executed _ closed with earlier | now
    · exact asked _ (taken.unclosed _ rfl plan member unseen earlier)
    · exact now
  distinct := by
    rintro _ ⟨⟩
    rw [plans]
    exact taken.distinct _ rfl

theorem journaled_or_owed {ticket : String} (member : ticket ∈ books.executed) :
    ticket ∈ books.lost ∨ FirstTargetRecorded persistence books.database ticket ∨ cycle.owes = some ticket := by
  refine (taken.journaled ticket member).imp_right (Or.imp_right ?_)
  rintro ⟨_, ⟨⟩, owed⟩
  exact owed

end

variable {ticket : String} {volume : Option Decimal} {op : Op}

section

variable (taken : TakenOnce persistence (some cycle) books)
    (allowed : cycle.allowed (.broker (.closePosition ticket volume)))
include taken allowed

theorem close_answered {report : ExecutionReport} :
    TakenOnce persistence (some (cycle.observe ⟨.broker (.closePosition ticket volume), .ok report⟩))
      (if report.success then books.close ticket else books) := by
  have settled : cycle.owes = none := allowed.1
  have before : ∀ other ∈ books.executed, other ∈ books.lost ∨
      FirstTargetRecorded persistence books.database other := by
    intro other member
    simpa [settled] using taken.journaled_or_owed member
  by_cases success : report.success = true
  · rw [if_pos success]
    refine taken.advance (List.nodup_cons.mpr ⟨taken.fresh allowed, taken.once⟩) (fun other member => ?_)
      (fun old inside => ⟨old, inside, rfl, rfl, rfl⟩) rfl rfl (fun _ => List.mem_cons_of_mem _) fun other member => ?_
    · rcases List.mem_cons.mp member with rfl | earlier
      · exact .inr (.inr (if_pos success))
      · exact (before other earlier).imp_right .inl
    · rcases List.mem_cons.mp member with rfl | earlier
      · exact .inr (List.mem_cons_self ..)
      · exact .inl earlier
  · rw [if_neg success]
    exact taken.advance taken.once (fun other member => (before other member).imp_right .inl)
      (fun old inside => ⟨old, inside, rfl, rfl, rfl⟩) rfl rfl (fun _ => List.mem_cons_of_mem _) fun _ => .inl

theorem close_lost {error : PyError}
    (stepped : after = books ∨ after = { books.close ticket with lost := ticket :: books.lost }) :
    TakenOnce persistence (some (cycle.observe ⟨.broker (.closePosition ticket volume), .error error⟩)) after := by
  rcases stepped with rfl | rfl
  · exact taken.advance taken.once (fun other => taken.journaled_or_owed)
      (fun old inside => ⟨old, inside, rfl, rfl, rfl⟩) rfl rfl (fun _ => List.mem_cons_of_mem _) fun _ => .inl
  · refine taken.advance (List.nodup_cons.mpr ⟨taken.fresh allowed, taken.once⟩) (fun other member => ?_)
      (fun old inside => ⟨old, inside, rfl, rfl, rfl⟩) rfl rfl (fun _ => List.mem_cons_of_mem _) fun other member => ?_
    · rcases List.mem_cons.mp member with rfl | earlier
      · exact .inl (List.mem_cons_self ..)
      · exact (taken.journaled_or_owed earlier).imp_left (List.mem_cons_of_mem _)
    · rcases List.mem_cons.mp member with rfl | earlier
      · exact .inr (List.mem_cons_self ..)
      · exact .inl earlier

end

section Acted

variable {plan : ManagedPosition} {action : PositionAction} {eventType : TradeEventType} {state : Option TradeState}
  {position : Option BrokerPosition} {now stamp : Instant} {suffix : String} {database : Database}

theorem acted (taken : TakenOnce persistence (some cycle) books)
    (recorded : persistence.recordPositionAction plan action eventType state position now suffix
      { books.database with now := stamp } = .ok database) :
    TakenOnce persistence (some cycle) { books with database } := by
  refine taken.advance taken.once (fun ticket member => ?_) (recordPositionAction_rows recorded).2 rfl rfl
    (fun _ held => held) fun _ => .inl
  rcases taken.journaled_or_owed member with lost | before | owed
  · exact .inl lost
  · have before : FirstTargetRecorded persistence { books.database with now := stamp } ticket := before
    exact .inr (.inl (before.kept recorded))
  · exact .inr (.inr owed)

theorem target_recorded (taken : TakenOnce persistence (some cycle) books) (member : plan ∈ cycle.plans)
    (owed : cycle.owes = some plan.ticket)
    (free : ∀ event ∈ books.database.events, event.eventKey = persistence.actionKey plan .tp1Hit suffix →
      event.positionId = some plan.positionId ∧ event.eventType = .tp1Hit)
    (recorded : persistence.recordPositionAction plan action .tp1Hit state position now suffix
      { books.database with now := stamp } = .ok database) :
    TakenOnce persistence (some { cycle with owes := none }) { books with database } := by
  have kept := taken.acted recorded
  obtain ⟨row, inside, id, account, ticket⟩ := taken.known _ rfl plan member
  have shown := firstTargetRecorded_of_acted recorded inside id account ticket free
  refine kept.advance kept.once (fun other executed => ?_) (fun old inside => ⟨old, inside, rfl, rfl, rfl⟩) rfl rfl
    (fun _ held => held) fun _ => .inl
  rcases kept.journaled_or_owed executed with lost | before | owing
  · exact .inl lost
  · exact .inr (.inl before)
  · obtain rfl : plan.ticket = other := by simpa [owed] using owing
    exact .inr (.inl shown)

end Acted

theorem observe_answer {value : op.Value} (quiet : Cycle.calm op = true) : cycle.observe ⟨op, .ok value⟩ = cycle := by
  cases op with
  | broker op => cases op <;> first | rfl | cases quiet
  | journal op =>
    cases op with
    | recordPositionAction plan action eventType =>
      cases eventType <;> first | rfl | cases quiet
    | _ => first | rfl | cases quiet
  | _ => rfl

theorem observe_refused {plan : ManagedPosition} {action : PositionAction} {eventType : TradeEventType}
    {state : Option TradeState} {position : Option BrokerPosition} {now : Instant} {suffix : String} {error : PyError}
    (settled : cycle.owes = none) :
    cycle.observe ⟨.journal (.recordPositionAction plan action eventType state position now suffix), .error error⟩ =
      cycle := by
  obtain ⟨plans, closed, owes, failed⟩ := cycle
  obtain rfl : owes = none := settled
  cases eventType <;> simp [Cycle.observe]

/-- **One request keeps the invariant.** -/
theorem event {labels : List CycleLabel} {reply : Except PyError op.Value}
    (taken : TakenOnce persistence (some cycle) books) (running : cycleAfter labels = some cycle)
    (undisturbed : Undisturbed persistence labels books (.event () ⟨op, reply⟩)) (allowed : cycle.allowed op)
    (step : (ManagedBooks.environment persistence).step books ⟨op, reply⟩ after) :
    TakenOnce persistence (some (cycle.observe ⟨op, reply⟩)) after := by
  obtain ⟨answered, calmly, free⟩ := undisturbed
  have settled : ∀ error, reply = .error error → cycle.owes = none := by
    rintro error rfl
    by_contra owed
    have raised := calmly (by simpa [running, Option.isSome_iff_ne_none] using owed)
    cases raised
  -- a request that only reads
  have reads : after = books → Cycle.calm op = true →
      TakenOnce persistence (some (cycle.observe ⟨op, reply⟩)) after := by
    rintro rfl quiet
    cases reply with
    | ok => rwa [observe_answer quiet]
    | error error => rwa [Cycle.observe_of_calm quiet (settled error rfl)]
  cases op with
  | journal op =>
    cases op with
    | openPositionPlans =>
      obtain ⟨shown, rfl⟩ := step
      obtain rfl : cycle = {} := allowed
      rcases shown with rfl | ⟨error, rfl⟩
      · exact taken.read answered
      · exact taken
    | recordPositionAction plan action eventType state position now suffix =>
      obtain ⟨stamp, step⟩ := step
      cases step with
      | refused _ | failed _ => rwa [observe_refused (settled _ rfl)]
      | @committed value after done =>
        obtain ⟨database, recorded, same⟩ : ∃ database, persistence.recordPositionAction plan action eventType state
            position now suffix { books.database with now := stamp } = .ok database ∧
            after = { books with database } := by
          obtain ⟨database, made, same⟩ := map_eq_ok.mp done
          cases same
          exact ⟨database, made, rfl⟩
        subst same
        by_cases target : eventType = .tp1Hit
        · subst target
          exact taken.target_recorded allowed.1 allowed.2 (free (plan, suffix) rfl) recorded
        · have quiet : Cycle.calm (.journal (.recordPositionAction plan action eventType state position now suffix)) =
              true := by
            cases eventType <;> simp_all [Cycle.calm]
          rw [observe_answer quiet]
          exact taken.acted recorded
    | _ => exact reads step rfl
  | broker op =>
    cases op with
    | closePosition ticket =>
      cases reply with
      | ok report =>
        obtain rfl : after = if report.success then books.close ticket else books := step
        exact taken.close_answered allowed
      | error => exact taken.close_lost allowed step
    | _ => exact reads step rfl
  | _ => exact reads step rfl

end TakenOnce

open Demo (journal)

namespace TargetDemo

def settings : WorkerSettings :=
  { tradingMode := .signal, tradingEnv := .demo, redisConfigured := false, sha256 := journal.sha256 }

def row : PositionRow where
  brokerAccountId := "demo-1"
  signalId := none
  brokerTicket := "P1"
  symbol := "XAUUSDm"
  direction := .long
  initialVolume := 1
  currentVolume := 1
  openPrice := 2000
  currentPrice := 2000
  stopLoss := 1990
  takeProfits := [2010, 2020]
  state := .positionOpen
  openedAt := 0

def trade : TradeRow where
  positionId := 0
  signalId := none
  brokerAccountId := "demo-1"
  strategyId := "gold"
  strategyVersion := "1.0.0"
  brokerTicket := "P1"
  symbol := "XAUUSDm"
  canonicalSymbol := "XAUUSD"
  direction := .long
  state := .positionOpen
  environment := "demo"
  volume := 1
  entryPrice := 2000
  stopLoss := 1990
  initialStopLoss := 1990
  takeProfit1 := some 2010
  takeProfit2 := some 2020
  riskAmount := 1000
  riskPercentage := 1 / 100
  riskReward := 2
  openedAt := 0

def database : Database where
  positions := ⟨[row], rfl, List.pairwise_singleton _ _, by decide +kernel⟩
  trades := ⟨[trade], rfl, List.pairwise_singleton _ _, by decide +kernel⟩

def position : BrokerPosition where
  ticket := "P1"
  symbol := "XAUUSDm"
  direction := .long
  volume := 1
  openPrice := 2000
  currentPrice := 2011
  stopLoss := 1990
  takeProfit := some 2020
  profit := 1100
  openedAt := 0
  volume_pos := Demo.lot_pos
  openPrice_pos := Demo.price_pos
  stopLoss_pos := Demo.stop_pos

def report (ticket : String) (volume : Decimal) : ExecutionReport where
  success := true
  idempotencyKey := ""
  brokerTicket := some ticket
  requestedPrice := none
  executedPrice := some 2011
  volume
  submittedAt := 0

def values : ManagementValues where
  partialEnabled := true
  partialFraction := 1 / 2
  breakEvenEnabled := false
  breakEvenTrigger := 1
  trailingEnabled := false
  trailingMultiple := 1

def responder : Responder Port PyError ManagedBooks where
  respond books
    | .broker (.getPositions _) => (.ok [position], books)
    | .broker (.getTick _) => (.ok (MockBroker.goldTick 0), books)
    | .broker (.resolveSymbol _) => (.ok MockBroker.goldSpecification, books)
    | .broker (.closePosition ticket volume) => (.ok (report ticket (volume.getD 1)), books.close ticket)
    | .journal .openPositionPlans => (.ok (journal.openPositionPlans books.database), books)
    | .journal .managementValues => (.ok values, books)
    | .journal (.recordPositionAction plan action eventType state position now suffix) =>
      match journal.recordPositionAction plan action eventType state position now suffix books.database with
      | .ok database => (.ok (), { books with database })
      | .error error => (.error error, books)
    | .clock => (.ok 0, books)
    | _ => (.error (.runtime "not asked"), books)

theorem responder_within : responder.Within (ManagedBooks.environment journal) id := by
  intro books op
  cases op with
  | journal op =>
    cases op with
    | openPositionPlans => exact ⟨.inl rfl, rfl⟩
    | recordPositionAction plan action eventType state position now suffix =>
      refine ⟨books.database.now, ?_⟩
      simp only [responder, id]
      cases journal.recordPositionAction plan action eventType state position now suffix books.database with
      | ok => exact .committed rfl
      | error => exact .refused rfl
    | _ => exact rfl
  | broker op =>
    cases op with
    | closePosition => exact (if_pos rfl).symm
    | _ => exact rfl
  | _ => exact rfl

def untilClosed : List (Turn Unit String) := .start () "XAUUSDm" :: List.replicate 7 (.step ())

def untilRecorded : List (Turn Unit String) := List.replicate 4 (.step ())

def play (turns : List (Turn Unit String)) :=
  Pool.schedule responder (fun _ symbol => managePositions settings symbol) (Pool.idle { database }) turns

theorem run_play (turns : List (Turn Unit String)) :
    Pool.Run (ManagedBooks.environment journal) (fun _ symbol => managePositions settings symbol)
      (Pool.idle { database }) (play turns).1 ((play turns).2.view id) :=
  Pool.run_schedule responder_within (Pool.idle { database }) turns

end TargetDemo

open TargetDemo

/-- **The first target is taken at most once** if nothing comes between a confirmed close and its record. -/
theorem first_target_taken_once (settings : WorkerSettings) (persistence : WorkerPersistence) (database : Database)
    (labels : List CycleLabel) (pool : Pool Port PyError Nat ManagedBooks Unit)
    (run : Pool.RunWhen (Undisturbed persistence) (ManagedBooks.environment persistence)
      (fun _ symbol => managePositions settings symbol) (Pool.idle { database }) labels pool)
    (ticket : String) : pool.shared.executed.count ticket ≤ 1 := by
  have taken : TakenOnce persistence (cycleAfter labels) pool.shared := by
    apply run.invariant (fun _ => none) fun labels books => TakenOnce persistence (cycleAfter labels) books
    · exact fun _ symbol => Cycle.wp_managePositions settings symbol
    · exact fun _ => trivial
    · constructor <;> simp [cycleAfter, Pool.idle]
    · intro labels books _ symbol taken idle _
      refine taken.forget (by simp [cycleAfter, idle]) fun cycle inside => ?_
      simpa [cycleAfter, Monitor.advance, eq_comm] using inside
    · intro labels books _ cycle event after taken running undisturbed allowed step
      have current : cycleAfter labels = some cycle := running
      rw [current] at taken
      have next : cycleAfter (labels ++ [.event () event]) = some (cycle.observe event) := by
        rw [cycleAfter, Monitor.track_event running, Function.update_self]
        rfl
      rw [next]
      exact taken.event current undisturbed allowed step
    · intro labels books _ cycle result taken running _ ended
      have current : cycleAfter labels = some cycle := running
      rw [current] at taken
      have whole := taken.undisturbed cycle rfl
      have settled : cycle.owes = none := by
        cases result with
        | ok applied => exact ended.1
        | error error => simpa [Cycle.Ends, whole] using ended
      refine taken.forget (by simpa using settled) fun cycle inside => ?_
      simp [cycleAfter, Monitor.advance] at inside
    · intro labels books _ taken undisturbed
      refine taken.forget (fun cycle inside => ?_) fun cycle inside => ?_
      · by_contra owed
        have crashed := undisturbed.2.1 (by rw [inside]; simpa [Option.isSome_iff_ne_none] using owed)
        cases crashed
      · simp [cycleAfter, Monitor.advance] at inside
  exact List.nodup_iff_count_le_one.mp taken.once ticket

theorem first_target_taken_once_demo :
    (play (untilClosed ++ untilRecorded ++ untilClosed)).2.shared.executed =
        ["P1"] ∧
      (play (untilClosed ++ untilRecorded ++ untilClosed)).2.shared.executed.count
        "P1" ≤ 1 := by
  have meets : Pool.ScheduleMeets (Undisturbed journal) id responder
      (fun _ symbol => managePositions TargetDemo.settings symbol) []
      (Pool.idle { database := TargetDemo.database })
      (untilClosed ++ untilRecorded ++ untilClosed) := by
    decide +kernel
  have run := Pool.RunWhen.schedule responder_within .nil meets
  exact ⟨by decide +kernel,
    first_target_taken_once TargetDemo.settings journal TargetDemo.database _ _ run "P1"⟩

/-- The process crashes between the confirmed close and its record. -/
theorem first_target_taken_twice :
    ∃ (labels : List CycleLabel) (pool : Pool Port PyError Nat ManagedBooks Unit),
      Pool.Run (ManagedBooks.environment journal)
        (fun _ symbol => managePositions TargetDemo.settings symbol)
        (Pool.idle { database := TargetDemo.database }) labels pool ∧ pool.shared.executed.count "P1" = 2 :=
  ⟨_, _, run_play (untilClosed ++ [.crash ()] ++ untilClosed), by decide +kernel⟩

end GoldFlow
