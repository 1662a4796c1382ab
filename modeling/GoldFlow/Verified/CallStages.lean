import GoldFlow.Verified.Assessment

/-! # What a call owes before it may end

Two stretches of an executor call must not be cut short.
-/

namespace GoldFlow

open Effect TradeExecutor SqlAlchemyIdempotencyStore
open Program (Asks)

inductive Mutation where
  | repaired | unrepaired | closed
  deriving DecidableEq, Repr

inductive Stage where
  /-- nothing is owed -/
  | quiet
  /-- the claim is won, and the record is still `CLAIMED` -/
  | claimed
  /-- the broker was asked for a mutation that no record tells of yet -/
  | pending (mutation : Mutation)
  /-- the record has told of the mutation -/
  | settled
  /-- an exception ended one of the two stretches -/
  | interrupted
  deriving DecidableEq, Repr

def recorded? : PortEvent → Option Bool
  | ⟨.records (.update _ _ _ _ _), .ok _⟩ | ⟨.attempts (.update _ _ _ _ _), .ok _⟩ => some true
  | ⟨.records (.update _ _ _ _ _), .error _⟩ | ⟨.attempts (.update _ _ _ _ _), .error _⟩ => some false
  | _ => none

namespace Stage

def leaveQuiet : PortEvent → Stage
  | ⟨.records (.claim _ _), .ok (_, true)⟩ => .claimed
  | ⟨.attempts (.insertClaim _ _ _), .ok ()⟩ => .claimed
  | ⟨.broker (.modifyPosition _ _ _), .ok true⟩ => .pending .repaired
  | ⟨.broker (.modifyPosition _ _ _), .ok false⟩ => .pending .unrepaired
  | ⟨.broker (.modifyPosition _ _ _), .error error⟩ =>
    if error.isBroker then .pending .unrepaired else .interrupted
  | _ => .quiet

def leaveClaimed (event : PortEvent) : Stage :=
  match event with
  | ⟨.broker (.validateOrder _), .error error⟩ => if error.isBroker then .claimed else .interrupted
  | event =>
    match recorded? event with
    | some true => .quiet
    | some false => .interrupted
    | none => .claimed

def leavePending (mutation : Mutation) (event : PortEvent) : Stage :=
  match event with
  | ⟨.broker (.closePosition _ _), .ok _⟩ => .pending .closed
  | ⟨.broker (.closePosition _ _), .error error⟩ =>
    if error.isUnconfirmedClose then .pending .closed else .interrupted
  | ⟨.clock, .error _⟩ => .interrupted
  | event =>
    match recorded? event with
    | some true => .settled
    | some false => .interrupted
    | none => .pending mutation

def observe : Stage → PortEvent → Stage
  | .quiet => leaveQuiet
  | .claimed => leaveClaimed
  | .pending mutation => leavePending mutation
  | .settled => fun _ => .settled
  | .interrupted => fun _ => .interrupted

def isOver : Stage → Bool
  | .quiet | .settled | .interrupted => true
  | .claimed | .pending _ => false

def isPending : Stage → Bool
  | .pending _ => true
  | .quiet | .claimed | .settled | .interrupted => false

end Stage

def stages : Monitor Port PyError Stage := ⟨Stage.observe⟩

def stageOf (history : List PortEvent) : Stage := history.foldl stages.observe .quiet

@[simp] theorem stageOf_nil : stageOf [] = .quiet := rfl

@[simp] theorem stageOf_append_singleton (history : List PortEvent) (event : PortEvent) :
    stageOf (history ++ [event]) = (stageOf history).observe event := by
  simp [stageOf, stages]

/-- A mutation begins where nothing is owed, a close follows a failed repair, and a status that tells of a
mutation is final. -/
def Staged (history : List PortEvent) : Op → Prop
  | .broker (.modifyPosition _ _ _) => stageOf history = .quiet
  | .broker (.closePosition _ _) => stageOf history = .pending .unrepaired
  | .records (.claim _ _) => stageOf history = .quiet
  | .attempts (.insertClaim _ _ _) => stageOf history = .quiet
  | .records (.update _ status _ _ _) | .attempts (.update _ status _ _ _) =>
    (stageOf history).isPending = true → isFinal status = true
  | _ => True

def Over (history : List PortEvent) : Prop := (stageOf history).isOver = true

/-- A program that keeps to the stages and ends over. -/
abbrev Stays {α : Type} (returns : List PortEvent → α → Prop) (program : Py α)
    (history : List PortEvent) : Prop :=
  Keeps (S := Port) Staged (fun later (_ : PyError) => Over later) returns program history

variable {history : List PortEvent}

theorem over_of_quiet (quiet : stageOf history = .quiet) : Over history := by
  simp [Over, quiet, Stage.isOver]

/-! ## Calm programs -/

def Op.isCalm : Op → Bool
  | .broker (.modifyPosition _ _ _) | .broker (.closePosition _ _) => false
  | .records (.claim _ _) | .attempts (.insertClaim _ _ _) => false
  | _ => true

theorem Stage.quiet_of_calm {event : PortEvent} (calm : event.1.isCalm = true) :
    Stage.observe .quiet event = .quiet := by
  obtain ⟨op, reply⟩ := event
  cases op with
  | broker op => cases op <;> first | rfl | cases calm
  | records op => cases op <;> first | rfl | cases calm
  | attempts op => cases op <;> first | rfl | cases calm
  | _ => rfl

theorem staged_of_calm {op : Op} (quiet : stageOf history = .quiet) (calm : op.isCalm = true) :
    Staged history op := by
  cases op with
  | broker op => cases op <;> first | exact trivial | cases calm
  | records op =>
    cases op with
    | claim => cases calm
    | get => exact trivial
    | update => simp [Staged, quiet, Stage.isPending]
  | attempts op =>
    cases op with
    | insertClaim => cases calm
    | select key | resolveOrderId request => exact trivial
    | update => simp [Staged, quiet, Stage.isPending]
  | _ =>
    exact trivial

abbrev CalmProgram {α : Type} (program : Py α) : Prop :=
  Asks (S := Port) (fun op : Op => op.isCalm = true) program

section Rules

variable {history : List PortEvent} {α β : Type} {program : Py α} {concluded : List PortEvent → β → Prop} {op : Op}

theorem stays_calm (calm : CalmProgram program) (quiet : stageOf history = .quiet) :
    Stays (fun later _ => stageOf later = .quiet) program history := by
  have kept : Stays (fun later _ => later.foldl stages.observe .quiet =
      history.foldl stages.observe .quiet) program history := by
    apply Keeps.of_asks calm stages .quiet
    · intro event asked
      show (stageOf history).observe event = stageOf history
      rw [quiet, Stage.quiet_of_calm asked]
    · intro later op same asked
      exact staged_of_calm (same.trans quiet) asked
    · intro later error same
      exact over_of_quiet (same.trans quiet)
  exact Keeps.mono kept fun later _ same => same.trans quiet

theorem stays_calm_bind {next : α → Py β} (calm : CalmProgram program) (quiet : stageOf history = .quiet)
    (rest : ∀ later value, stageOf later = .quiet → Stays concluded (next value) later) :
    Stays concluded (program.bind next) history :=
  Keeps.bind (stays_calm calm quiet) rest

theorem over_calm (calm : CalmProgram program) (quiet : stageOf history = .quiet) :
    Stays (fun later _ => Over later) program history :=
  Keeps.mono (stays_calm calm quiet) fun _ _ still => over_of_quiet still

theorem calm_ask (calm : op.isCalm = true) : CalmProgram (Program.perform (S := Port) op) :=
  Asks.perform calm

theorem calm_try (calm : op.isCalm = true) (catches : PyError → Bool) (recover : PyError → β) :
    CalmProgram ((Program.perform (S := Port) op).catching catches recover) :=
  (calm_ask calm).catching

theorem over_transition_bind {state target : TradeState} {reason : String} {next : StateTransition → Py β}
    (ended : Over history) (rest : ∀ entry, Stays concluded (next entry) history) :
    Stays concluded (transition state target reason >>= next) history :=
  Keeps.ofExcept_bind (fun _ _ => ended) fun entry _ => rest entry

end Rules

section Calm

variable {executor : TradeExecutor}

theorem calm_get (key : String) : CalmProgram (executor.store.get key) := by
  unfold TradeExecutor.store
  cases executor.kind with
  | inMemory => exact calm_ask rfl
  | sqlAlchemy =>
    apply Asks.bind (calm_ask rfl)
    intro found
    cases found with
    | none => exact trivial
    | some => exact Asks.bind (Asks.ofExcept _) fun _ => trivial

theorem calm_update (key : String) (status : IdempotencyStatus) (now : Instant) (report : Option ExecutionReport)
    (reason : String) : CalmProgram (executor.store.update key status now report reason) := by
  unfold TradeExecutor.store
  cases executor.kind with
  | inMemory => exact calm_ask rfl
  | sqlAlchemy => exact Asks.bind (calm_ask rfl) fun _ => Asks.ofExcept _

theorem calm_mark (key : String) (status : IdempotencyStatus) (report : Option ExecutionReport)
    (reason : String) : CalmProgram (executor.mark key status report reason) :=
  Asks.bind (calm_ask rfl) fun _ => calm_update key status _ report reason

/-- The role of a call that touches no record. -/
def onlooking : Role where
  cleared := fun _ _ => False
  about := fun _ _ => False
  settles := fun _ => False
  about_mono := fun about _ => about

theorem calm_of_onlooking (history : List PortEvent) (op : Op)
    (permitted : Discipline executor onlooking history op) : op.isCalm = true := by
  unfold Op.isCalm
  split
  · obtain ⟨_, _, impossible, _⟩ := permitted.resolving
    exact impossible.elim
  · obtain ⟨_, _, impossible, _⟩ := permitted.resolving
    exact impossible.elim
  · exact permitted.2.about.elim
  · exact permitted.2.about.elim
  · rfl

theorem calm_of_keeps (executor : TradeExecutor) {α : Type} {program : Py α} {returns : List PortEvent → α → Prop}
    (keeps : Keeps (Discipline executor onlooking) Excused returns program []) : CalmProgram program :=
  Program.asks_of_wp keeps.verified calm_of_onlooking

theorem calm_assess (command : ExecutionCommand) : CalmProgram (executor.assess command) := by
  apply Asks.lift_bind (calm_ask rfl)
  intro now
  apply Asks.bind_returning
  · exact trivial
  intro entry
  apply Asks.bind_returning (calm_of_keeps executor keeps_openAccount)
  intro opened
  apply Asks.bind_returning (calm_of_keeps executor (keeps_authorize _ _))
  intro _
  apply Asks.bind_returning (calm_of_keeps executor (keeps_size _ _ _ _))
  intro sized
  apply Asks.lift_bind (Asks.ofExcept _)
  intro request
  apply Asks.lift_bind (calm_get _)
  intro existing
  cases existing with
  | some => exact trivial
  | none =>
    apply Asks.bind_returning (calm_of_keeps executor (keeps_readExposure _ _))
    intro exposure
    apply Asks.bind_returning (calm_of_keeps executor (keeps_readCircuit _ _ _ _))
    intro locks
    dsimp only
    generalize RiskGateValidator.validate _ _ _ _ = decision
    exact Asks.bind_returning (Asks.returnIf _ _) fun _ => trivial

theorem calm_awaitPosition (request : OrderRequest) (report : ExecutionReport) (remaining : Nat) :
    CalmProgram (executor.awaitPosition request report remaining) := by
  induction remaining with
  | zero => exact trivial
  | succ remaining ih =>
    apply Asks.bind (calm_try rfl _ _)
    intro positions
    cases (positions.toOption.getD []).find? (executor.matchesReport request report) with
    | some position => exact trivial
    | none => exact Asks.ite trivial (Asks.bind (calm_ask rfl) fun _ => ih)

theorem calm_place (request : OrderRequest) : CalmProgram (place request) :=
  Asks.ite (calm_ask rfl) (calm_ask rfl)

theorem calm_settleUnknown (approved : Approved) (transitions : List StateTransition)
    (error : PyError) : CalmProgram (executor.settleUnknown approved transitions error) := by
  apply Asks.bind (calm_mark _ _ _ _)
  intro _
  apply Asks.ite
  · exact Asks.bind (Asks.ofExcept _) fun _ => trivial
  · exact Asks.bind (Asks.ofExcept _) fun _ => trivial

end Calm

section Protection

variable {executor : TradeExecutor} {history : List PortEvent} {status : IdempotencyStatus}

def Unsettled (history : List PortEvent) : Prop :=
  stageOf history = .quiet ∨ (stageOf history).isPending = true

theorem stays_repairOrClose (quiet : stageOf history = .quiet) (request : OrderRequest) (ticket : Option String) :
    Stays (fun later _ => Unsettled later) (repairOrClose request ticket) history := by
  unfold repairOrClose
  cases ticket.filter (· ≠ "") with
  | none => exact Keeps.pure (.inl quiet)
  | some found =>
    have modified : Stays (fun later result => stageOf later =
          if result.toOption.getD false then .pending .repaired else .pending .unrepaired)
        (Program.catching
          (askBroker (.modifyPosition found request.stopLoss (some request.finalTarget)))
          PyError.isBroker fun _ => false) history := by
      apply Keeps.catching_perform (S := Port)
        (.broker (.modifyPosition found request.stopLoss (some request.finalTarget)))
      · exact quiet
      · intro error missed
        simp [Over, quiet, Stage.observe, Stage.leaveQuiet, missed, Stage.isOver]
      · intro confirmed
        cases confirmed <;>
          simp [quiet, Stage.observe, Stage.leaveQuiet, Except.toOption]
      · intro error caught
        simp [quiet, Stage.observe, Stage.leaveQuiet, Except.toOption, caught]
    apply Keeps.bind modified
    intro middle result reached
    refine Keeps.ite (fun repaired => ?_) fun unrepaired => ?_
    · rw [if_pos repaired] at reached
      exact Keeps.pure (.inr (by rw [reached]; rfl))
    · rw [if_neg unrepaired] at reached
      have closed : Stays (fun later _ =>
            stageOf later = .pending .closed)
          (Program.catching (askBroker (.closePosition found none)) PyError.isUnconfirmedClose
            fun _ => "PROTECTION_REPAIR_AND_SAFE_CLOSE_UNCONFIRMED") middle := by
        apply Keeps.catching_perform (S := Port) (.broker (.closePosition found none))
        · exact reached
        · intro error missed
          simp [Over, reached, Stage.observe, Stage.leavePending, missed, Stage.isOver]
        · intro report
          simp [reached, Stage.observe, Stage.leavePending]
        · intro error caught
          simp [reached, Stage.observe, Stage.leavePending, caught]
      apply Keeps.bind closed
      intro last outcome ended
      have pending : Unsettled last := .inr (by rw [ended]; rfl)
      cases outcome with
      | error => exact Keeps.pure pending
      | ok => exact Keeps.ite (fun _ => Keeps.pure pending) fun _ => Keeps.pure pending

theorem stays_verifyOrRepairProtection (quiet : stageOf history = .quiet) (request : OrderRequest)
    (report : ExecutionReport) :
    Stays (fun later _ => Unsettled later) (executor.verifyOrRepairProtection request report) history := by
  apply stays_calm_bind (calm_awaitPosition request report _) quiet
  intro later found still
  cases found with
  | none => exact stays_repairOrClose still request _
  | some =>
    exact Keeps.ite (fun _ => Keeps.pure (.inl still)) fun _ => stays_repairOrClose still request _

theorem over_update (pending : (stageOf history).isPending = true) (key : String) (final : isFinal status = true)
    (now : Instant) (report : Option ExecutionReport) (reason : String) :
    Stays (fun later _ => Over later) (executor.store.update key status now report reason) history := by
  obtain ⟨mutation, stage⟩ : ∃ mutation, stageOf history = .pending mutation := by
    cases current : stageOf history <;> simp_all [Stage.isPending]
  unfold TradeExecutor.store
  cases executor.kind with
  | inMemory =>
    apply Keeps.perform (S := Port) (.records (.update key status now report reason))
    · exact fun _ => final
    · intro error
      simp [Over, stage, Stage.observe, Stage.leavePending, recorded?, Stage.isOver]
    · intro record
      simp [Over, stage, Stage.observe, Stage.leavePending, recorded?, Stage.isOver]
  | sqlAlchemy =>
    refine Keeps.perform_bind (fun _ => final) (fun error => ?_) fun attempt => ?_
    · simp [Over, stage, Stage.observe, Stage.leavePending, recorded?, Stage.isOver]
    · have told : Over (history ++
          [⟨.attempts (.update key status now report reason), .ok attempt⟩]) := by
        simp [Over, stage, Stage.observe, Stage.leavePending, recorded?, Stage.isOver]
      exact Keeps.ofExcept (fun _ _ => told) fun _ _ => told

theorem over_mark (unsettled : Unsettled history) (key : String) (final : isFinal status = true)
    (report : Option ExecutionReport) (reason : String) :
    Stays (fun later _ => Over later) (executor.mark key status report reason) history := by
  obtain quiet | pending := unsettled
  · exact over_calm (calm_mark key status report reason) quiet
  · obtain ⟨mutation, stage⟩ : ∃ mutation, stageOf history = .pending mutation := by
      cases current : stageOf history <;> simp_all [Stage.isPending]
    refine Keeps.perform_bind trivial (fun error => ?_) fun now => ?_
    · simp [Over, stage, Stage.observe, Stage.leavePending, Stage.isOver]
    · apply over_update _ key final now report reason
      simp [stage, Stage.observe, Stage.leavePending, recorded?, Stage.isPending]

end Protection

section Claimed

variable {executor : TradeExecutor} {history : List PortEvent}

theorem OrderRequest.make_of_valid {signalId : UUID} {strategyId symbol : String} {direction : Direction}
    {orderType : OrderType} {volume stopLoss : Decimal} {takeProfits : List Decimal} {key : String}
    {requestedPrice entryMin entryMax : Option Decimal} {expiresAt : Option Instant} {maximumSlippage : Decimal}
    {comment : String} (sized : 0 < volume ∧ 0 < stopLoss)
    (targeted : takeProfits ≠ [] ∧ ∀ target ∈ takeProfits, 0 < target) (keyed : isBlank key = false) :
    ∃ request, OrderRequest.make signalId strategyId symbol direction orderType volume stopLoss
      takeProfits key requestedPrice entryMin entryMax expiresAt maximumSlippage comment =
        .ok request := by
  unfold OrderRequest.make
  rw [dif_pos sized, dif_pos targeted, dif_pos keyed]
  exact ⟨_, rfl⟩

theorem requestFromPayload_requestPayload (request : OrderRequest) :
    ∃ stored, requestFromPayload (requestPayload request) = .ok stored :=
  OrderRequest.make_of_valid ⟨request.volume_pos, request.stopLoss_pos⟩
    ⟨request.takeProfits_nonempty, request.takeProfits_pos⟩ request.key_nonblank

theorem SqlAlchemyIdempotencyStore.record_of_parsed (attempt : ExecutionAttempt)
    (parsed : ∃ stored, requestFromPayload attempt.requestPayload = .ok stored) :
    ∃ decoded, record attempt = .ok decoded := by
  obtain ⟨stored, parses⟩ := parsed
  simp [record, parses, bind, Except.bind, pure, Except.pure]

theorem stays_claim (quiet : stageOf history = .quiet) (request : OrderRequest) (now : Instant) :
    Stays (fun later (answer : ExecutionRecord × Bool) =>
        stageOf later = if answer.2 then .claimed else .quiet)
      (executor.store.claim request now) history := by
  unfold TradeExecutor.store
  cases executor.kind with
  | inMemory =>
    apply Keeps.perform (S := Port) (.records (.claim request now))
    · exact quiet
    · intro error
      exact over_of_quiet (by simp [quiet, Stage.observe, Stage.leaveQuiet])
    · rintro ⟨record, won⟩
      cases won <;> simp [quiet, Stage.observe, Stage.leaveQuiet]
  | sqlAlchemy =>
    -- a row found in place of the claim
    have taken : ∀ (earlier : List PortEvent) (attempt : ExecutionAttempt), stageOf earlier = .quiet →
        Stays (fun later (answer : ExecutionRecord × Bool) =>
            stageOf later = if answer.2 then .claimed else .quiet)
          ((·, false) <$> Program.ofExcept (record attempt)) earlier := by
      intro earlier attempt still
      apply Keeps.ofExcept_bind
      · exact fun _ _ => over_of_quiet still
      · exact fun record _ => Keeps.pure (by simpa using still)
    apply stays_calm_bind (calm_ask rfl) quiet
    intro selected found unclaimed
    cases found with
    | some attempt => exact taken selected attempt unclaimed
    | none =>
      apply stays_calm_bind (calm_ask rfl) unclaimed
      intro resolved orderId ready
      have inserted : Stays (fun later (result : Except PyError Unit) =>
            stageOf later = if result.toOption.isSome then .claimed else .quiet)
          (Program.catching (askAttempts (.insertClaim orderId request now))
            isIntegrity id) resolved := by
        apply Keeps.catching_perform (S := Port) (.attempts (.insertClaim orderId request now))
        · exact ready
        · intro error _
          exact over_of_quiet (by simp [ready, Stage.observe, Stage.leaveQuiet])
        · intro done
          simp [ready, Stage.observe, Stage.leaveQuiet, Except.toOption]
        · intro error _
          simp [ready, Stage.observe, Stage.leaveQuiet, Except.toOption]
      apply Keeps.bind inserted
      intro later result reached
      cases result with
      | ok =>
        -- nothing is raised between the insert and the return
        obtain ⟨decoded, reads⟩ := record_of_parsed
          (claimRow orderId request now)
          (requestFromPayload_requestPayload request)
        simp only [reads]
        exact Keeps.pure (by simpa [Except.toOption] using reached)
      | error =>
        have lost : stageOf later = .quiet := by simpa [Except.toOption] using reached
        apply stays_calm_bind (calm_ask rfl) lost
        intro last raced still
        cases raced with
        | none => exact Keeps.raise (over_of_quiet still)
        | some attempt => exact taken last attempt still

theorem stays_update (claimed : stageOf history = .claimed) (key : String) (status : IdempotencyStatus)
    (now : Instant) (report : Option ExecutionReport) (reason : String) :
    Stays (fun later _ => stageOf later = .quiet) (executor.store.update key status now report reason) history := by
  have unowed : (stageOf history).isPending = true → isFinal status = true := by
    simp [claimed, Stage.isPending]
  unfold TradeExecutor.store
  cases executor.kind with
  | inMemory =>
    apply Keeps.perform (S := Port) (.records (.update key status now report reason))
    · exact unowed
    · intro error
      simp [Over, claimed, Stage.observe, Stage.leaveClaimed, recorded?, Stage.isOver]
    · intro record
      simp [claimed, Stage.observe, Stage.leaveClaimed, recorded?]
  | sqlAlchemy =>
    refine Keeps.perform_bind unowed (fun error => ?_) fun attempt => ?_
    · simp [Over, claimed, Stage.observe, Stage.leaveClaimed, recorded?, Stage.isOver]
    · have told : stageOf (history ++
          [⟨.attempts (.update key status now report reason), .ok attempt⟩]) = .quiet := by
        simp [claimed, Stage.observe, Stage.leaveClaimed, recorded?]
      exact Keeps.ofExcept (fun _ _ => over_of_quiet told) fun _ _ => told

theorem stays_safeOrderCheck (claimed : stageOf history = .claimed) (request : OrderRequest) :
    Stays (fun later _ => stageOf later = .claimed) (safeOrderCheck request) history := by
  have asked : Stays (fun later (_ : Except OrderCheckResult OrderCheckResult) =>
        stageOf later = .claimed)
      (Program.catching (askBroker (.validateOrder request)) PyError.isBroker fun error =>
        { accepted := false, reasons := ["BROKER_ORDER_CHECK_ERROR:" ++ error.typeName] })
      history := by
    apply Keeps.catching_perform (S := Port) (.broker (.validateOrder request))
    · exact trivial
    · intro error missed
      simp [Over, claimed, Stage.observe, Stage.leaveClaimed, missed, Stage.isOver]
    · intro check
      simp [claimed, Stage.observe, Stage.leaveClaimed, recorded?]
    · intro error caught
      simp [claimed, Stage.observe, Stage.leaveClaimed, caught]
  apply Keeps.bind asked
  intro later result still
  cases result with
  | ok => exact Keeps.pure still
  | error => exact Keeps.pure still

theorem stays_transition_bind {β : Type} {concluded : List PortEvent → β → Prop} {state target : TradeState}
    {reason : String} {next : StateTransition → Py β} (nonblank : isBlank reason = false)
    (permitted : TradeStateMachine.canTransition state target = true)
    (rest : ∀ entry, Stays concluded (next entry) history) :
    Stays concluded (transition state target reason >>= next) history := by
  have accepted := TradeStateMachine.transition_eq_ok.mpr ⟨nonblank, permitted, rfl⟩
  unfold transition
  rw [accepted]
  exact rest _

end Claimed

section Calls

variable {executor : TradeExecutor} {history : List PortEvent}

theorem over_settleFill (quiet : stageOf history = .quiet) (approved : Approved)
    (transitions : List StateTransition) (report : ExecutionReport) :
    Stays (fun later _ => Over later) (executor.settleFill approved transitions report) history := by
  apply over_transition_bind (over_of_quiet quiet)
  intro filled
  apply Keeps.bind (stays_verifyOrRepairProtection quiet approved.request report)
  intro later protection unsettled
  refine Keeps.ite (fun _ => ?_) fun _ => ?_
  · apply Keeps.bind (over_mark unsettled _ rfl _ _)
    intro last _ ended
    exact over_transition_bind ended fun _ => Keeps.pure ended
  · apply Keeps.bind (over_mark unsettled _ rfl _ _)
    intro last _ ended
    exact over_transition_bind ended fun _ => Keeps.pure ended

theorem over_settleReport (quiet : stageOf history = .quiet) (approved : Approved)
    (transitions : List StateTransition) (report : ExecutionReport) :
    Stays (fun later _ => Over later) (executor.settleReport approved transitions report) history := by
  refine Keeps.ite (fun _ => ?_) fun _ => Keeps.ite (fun _ => ?_) fun _ => ?_
  · apply stays_calm_bind (calm_mark _ _ _ _) quiet
    intro later _ still
    exact over_transition_bind (over_of_quiet still) fun _ => Keeps.pure (over_of_quiet still)
  · exact over_settleFill quiet approved transitions report
  · apply stays_calm_bind (calm_mark _ _ _ _) quiet
    intro later _ still
    exact Keeps.pure (over_of_quiet still)

theorem over_send (claimed : stageOf history = .claimed) (approved : Approved) (transitions : List StateTransition) :
    Stays (fun later _ => Over later) (executor.send approved transitions) history := by
  apply stays_transition_bind (by decide) (by decide)
  intro pending
  apply Keeps.bind (stays_update claimed _ _ _ _ _)
  intro submitted _ quiet
  apply stays_calm_bind ((calm_place approved.request).catching) quiet
  intro later result still
  cases result with
  | error error => exact over_calm (calm_settleUnknown _ _ error) still
  | ok report => exact over_settleReport still approved _ report

theorem over_submit (quiet : stageOf history = .quiet) (approved : Approved) :
    Stays (fun later _ => Over later) (executor.submit approved) history := by
  apply Keeps.bind (stays_claim quiet approved.request approved.now)
  intro later answer reached
  refine Keeps.ite (fun lost => ?_) fun won => ?_
  · rw [lost] at reached
    exact Keeps.pure (over_of_quiet reached)
  · have claimed : stageOf later = .claimed := by
      rw [Bool.not_eq_false] at won
      rw [reached, won]
      rfl
    apply stays_transition_bind (by decide) (by decide)
    intro ready
    apply Keeps.bind (stays_safeOrderCheck claimed approved.request)
    intro checked check still
    refine Keeps.ite (fun _ => ?_) fun _ => ?_
    · apply Keeps.bind (stays_update still _ _ _ _ _)
      intro last _ rejected
      exact over_transition_bind (over_of_quiet rejected) fun _ => Keeps.pure (over_of_quiet rejected)
    · exact over_send still approved _

theorem over_execute (executor : TradeExecutor) (command : ExecutionCommand) :
    Stays (fun later _ => Over later) (executor.execute command) [] := by
  refine Keeps.ite (fun _ => Keeps.pure rfl) fun _ => ?_
  apply stays_calm_bind (calm_assess command) rfl
  intro later result still
  cases result with
  | error => exact Keeps.pure (over_of_quiet still)
  | ok approved => exact over_submit still approved

theorem over_resolve (unsettled : Unsettled history) (key : String) {status : IdempotencyStatus}
    (final : isFinal status = true) (report : ExecutionReport) (reason : String) :
    Stays (fun later _ => Over later) (executor.resolve key status report reason) history :=
  Keeps.bind (over_mark unsettled key final _ _) fun _ _ ended => Keeps.pure ended

theorem over_reconcileUnknown (executor : TradeExecutor) (key : String) :
    Stays (fun later _ => Over later) (executor.reconcileUnknown key) [] := by
  apply stays_calm_bind (calm_get key) rfl
  intro found existing quiet
  cases existing with
  | none => exact Keeps.pure (over_of_quiet quiet)
  | some record =>
    refine Keeps.ite (fun _ => Keeps.pure (over_of_quiet quiet)) fun _ => ?_
    apply stays_calm_bind _ quiet
    · intro listed state still
      cases state with
      | error => exact Keeps.pure (over_of_quiet still)
      | ok =>
        dsimp only
        split
        next position _ _ =>
          apply stays_calm_bind (calm_ask rfl) still
          intro timed now unowed
          apply Keeps.bind (stays_verifyOrRepairProtection unowed record.request _)
          intro later protection unsettled
          exact Keeps.ite (fun _ => over_resolve unsettled key rfl _ _)
            fun _ => over_resolve unsettled key rfl _ _
        next order _ _ =>
          apply stays_calm_bind (calm_ask rfl) still
          intro timed now unowed
          exact over_resolve (.inl unowed) key rfl _ _
        next => exact Keeps.pure (over_of_quiet still)
    · apply Asks.catching
      apply Asks.bind (calm_ask rfl)
      intro positions
      exact Asks.bind (calm_ask rfl) fun _ => trivial

/-- **No call ends inside one of the two stretches.** -/
theorem over_call (executor : TradeExecutor) (call : ExecutorCall) :
    Stays (fun later _ => Over later) (executor.call call) [] := by
  cases call with
  | execute command => exact over_execute executor command
  | reconcileUnknown key => exact over_reconcileUnknown executor key

end Calls

end GoldFlow
