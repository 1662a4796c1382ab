import GoldFlow.Verified.CallStages
import GoldFlow.Verified.FilledProtection

/-! # Protective mutations are bounded -/

namespace GoldFlow

open Effect Stage SqlAlchemyIdempotencyStore

/-! ## Counting by key -/

def workingKey (asked : List PortEvent) : Option String :=
  (progressOf asked).working.map Working.key

/-- How many requests of one kind were made for the record of `key`. -/
def requestsFor (counts : Op → Bool) (key : String) (labels : List CallLabel) : Nat :=
  history.ghost (fun _ _ => []) (fun _ => none)
    (fun tracked made label =>
      match label with
      | .event thread event =>
        if counts event.1 && (tracked thread).any (workingKey · == some key) then made + 1 else made
      | .start _ _ | .finish _ _ | .crash _ => made) 0 labels

section Counting

variable {counts : Op → Bool} {key : String} {labels : List CallLabel} {asked : List PortEvent}

@[simp] theorem requestsFor_nil : requestsFor counts key [] = 0 := rfl

theorem requestsFor_start (call : ExecutorCall) :
    requestsFor counts key (labels ++ [.start () call]) = requestsFor counts key labels := by
  simp [requestsFor]

theorem requestsFor_finish (result : Except PyError ExecutionOutcome) :
    requestsFor counts key (labels ++ [.finish () result]) = requestsFor counts key labels := by
  simp [requestsFor]

theorem requestsFor_event (running : history.track (fun _ _ => []) (fun _ => none) labels () = some asked)
    (event : PortEvent) :
    requestsFor counts key (labels ++ [.event () event]) =
      requestsFor counts key labels +
        if counts event.1 = true ∧ workingKey asked = some key then 1 else 0 := by
  simp only [requestsFor, Monitor.ghost_snoc, running, Option.any_some, Bool.and_eq_true, beq_iff_eq]
  split <;> rfl

end Counting

/-! ## An orderly world -/

def brokerAnswers : PortEvent → Bool
  | ⟨.broker (.placeMarketOrder _), .error error⟩ => error.isUnconfirmedClose
  | ⟨.broker (.placePendingOrder _), .error error⟩ => error.isUnconfirmedClose
  | ⟨.broker _, .error error⟩ => error.isBroker
  | _ => true

def storeAnswers (state : World) : PortEvent → Bool
  | ⟨.attempts (.update key status now report reason), .error _⟩ =>
    !(update state.attempts key status now report reason).isOk
  | _ => true

def orderly (state : World) : CallLabel → Bool
  | .crash _ => false
  | .event _ event => brokerAnswers event && storeAnswers state event
  | .start _ _ | .finish _ _ => true

abbrev Orderly (state : World) (label : CallLabel) : Prop := orderly state label = true

/-- The store calls the record of `key` final. -/
def FinalIn (kind : StoreKind) (state : World) (key : String) : Prop :=
  ∃ entry, state.entries kind key = some entry ∧ SqlAlchemyIdempotencyStore.isFinal entry.status = true

def modifyFailed : PortEvent → Bool
  | ⟨.broker (.modifyPosition _ _ _), .ok true⟩ => false
  | ⟨.broker (.modifyPosition _ _ _), _⟩ => true
  | _ => false

section Events

variable {executor : TradeExecutor} {role : Role} {state after : World} {asked : List PortEvent}
  {event : PortEvent} {key : String} {kind : StoreKind} {op : Op}

theorem not_follows_of_final {status next : IdempotencyStatus}
    (final : SqlAlchemyIdempotencyStore.isFinal status = true) : ¬ status.Follows next := by
  cases status <;> simp_all [SqlAlchemyIdempotencyStore.isFinal, IdempotencyStatus.Follows,
    IdempotencyStatus.allowed]

theorem FinalIn.after_step (final : FinalIn kind state key) (step : world.step state event after) :
    FinalIn kind after key := by
  obtain ⟨entry, found, isFinal⟩ := final
  obtain same | ⟨status, _, follows, _⟩ := (world_refines_ledger kind step).entry_persists found
  · exact ⟨entry, same, isFinal⟩
  · exact absurd follows (not_follows_of_final isFinal)

theorem not_final_of_resolving (resolving : Resolving role asked) (knows : KnowsStored executor.kind asked state)
    (works : workingKey asked = some key) : ¬ FinalIn executor.kind state key := by
  obtain ⟨known, working, _, unresolved⟩ := resolving
  obtain rfl : known.key = key := by simpa [workingKey, working] using works
  rintro ⟨entry, found, isFinal⟩
  rw [knows known working] at found
  cases found
  obtain submitted | unknown := unresolved
  · simp [submitted, SqlAlchemyIdempotencyStore.isFinal] at isFinal
  · simp [unknown, SqlAlchemyIdempotencyStore.isFinal] at isFinal

theorem recorded_of_orderly (permitted : Discipline executor role asked event.1)
    (knows : KnowsStored executor.kind asked state) (answers : storeAnswers state event = true)
    (step : world.step state event after) : recorded? event ≠ some false := by
  intro lost
  obtain ⟨op, reply⟩ := event
  unfold recorded? at lost
  split at lost
  next => simp at lost
  next => simp at lost
  next key status now report reason error same =>
    cases same
    obtain ⟨uses, known, updatable⟩ := permitted
    have stored := knows known updatable.working
    rw [uses, updatable.key_eq, World.entries, Option.map_eq_some_iff] at stored
    obtain ⟨record, found, entry⟩ := stored
    have current : record.status = known.status := congrArg Ledger.Entry.status entry
    simp [world, World.recordStep, InMemoryIdempotencyStore.update, found, ExecutionRecord.update,
      current, updatable.allowed, bind, Except.bind, pure, Except.pure] at step
  next key status now report reason error same =>
    cases same
    obtain ⟨uses, known, updatable⟩ := permitted
    have stored := knows known updatable.working
    rw [uses, updatable.key_eq, World.entries, Option.map_eq_some_iff] at stored
    obtain ⟨attempt, found, entry⟩ := stored
    have current : attempt.status = known.status := congrArg Ledger.Entry.status entry
    simp [storeAnswers, update, found, updateRow,
      current, updatable.allowed, bind, Except.bind, pure, Except.pure,
      Except.toBool] at answers
  next => simp at lost

theorem uninterrupted_of_orderly (permitted : Discipline executor role asked event.1)
    (knows : KnowsStored executor.kind asked state) (broker : brokerAnswers event = true)
    (store : storeAnswers state event = true) (step : world.step state event after)
    (before : stageOf asked ≠ .interrupted) : stageOf (asked ++ [event]) ≠ .interrupted := by
  have told := recorded_of_orderly permitted knows store step
  rw [stageOf_append_singleton]
  cases stage : stageOf asked with
  | quiet =>
    simp only [observe, leaveQuiet]
    split <;> simp_all [brokerAnswers]
  | claimed =>
    simp only [observe, leaveClaimed]
    split
    next error _ => simp_all [brokerAnswers]
    next => split <;> simp_all
  | pending =>
    simp only [observe, leavePending]
    split
    next => simp
    next ticket volume error =>
      have raised : error.isBroker = true := broker
      cases error <;> simp_all [PyError.isBroker, PyError.isUnconfirmedClose]
    next error =>
      obtain ⟨⟨now, answered⟩, _⟩ := step
      cases answered
    next => split <;> simp_all
  | settled => simp [observe]
  | interrupted => exact absurd stage before

theorem final_of_staged {status : IdempotencyStatus} (staged : Staged asked event.1)
    (pending : (stageOf asked).isPending = true) (advances : kind.action event = .advance key status) :
    SqlAlchemyIdempotencyStore.isFinal status = true := by
  unfold StoreKind.action at advances
  split at advances
  next => cases advances
  next same => cases same; cases advances; exact staged pending
  next => cases advances
  next same => cases same; cases advances; exact staged pending
  next => cases advances

section

variable (permitted : Discipline executor role asked event.1)
include permitted

theorem advances_of_recorded (told : recorded? event = some true) :
    ∃ key status, executor.kind.action event = .advance key status := by
  obtain ⟨op, reply⟩ := event
  unfold recorded? at told
  split at told
  next key status _ _ _ _ same => cases same; exact ⟨key, status, by rw [permitted.1]; rfl⟩
  next key status _ _ _ _ same => cases same; exact ⟨key, status, by rw [permitted.1]; rfl⟩
  next => simp at told
  next => simp at told
  next => simp at told

theorem move_of_working (works : workingKey asked = some key) :
    (∃ status, executor.kind.action event = .advance key status) ∨
      (recorded? event ≠ some true ∧ workingKey (asked ++ [event]) = some key) := by
  obtain ⟨known, working, rfl⟩ : ∃ known, (progressOf asked).working = some known ∧ known.key = key := by
    simpa [workingKey] using works
  cases storeMove_of_permitted permitted with
  | claimed readable | read readable =>
    rw [readable.idle] at working
    cases working
  | @recorded recording status updatable action =>
    obtain rfl : known = recording := Option.some.inj (working.symm.trans updatable.working)
    exact .inl ⟨status, action⟩
  | aside action same =>
    refine .inr ⟨fun told => ?_, by rw [workingKey, same, working]; rfl⟩
    obtain ⟨_, _, advances⟩ := advances_of_recorded permitted told
    rw [action] at advances
    cases advances

theorem pending_event {mutation : Mutation} (staged : Staged asked event.1) (step : world.step state event after)
    (pending : stageOf asked = .pending mutation) (works : workingKey asked = some key)
    (remains : event.1.isClose = false) (uninterrupted : stageOf (asked ++ [event]) ≠ .interrupted) :
    (stageOf (asked ++ [event]) = .pending mutation ∧ workingKey (asked ++ [event]) = some key) ∨
      FinalIn executor.kind after key := by
  rcases move_of_working permitted works with ⟨status, action⟩ | ⟨untold, working⟩
  · have refined := world_refines_ledger executor.kind step
    rw [action] at refined
    obtain ⟨entry, _, _, moved⟩ := refined.advance_inversion
    exact .inr ⟨_, moved, final_of_staged staged (by rw [pending]; rfl) action⟩
  · refine .inl ⟨?_, working⟩
    rw [stageOf_append_singleton, pending] at uninterrupted ⊢
    simp only [observe, leavePending] at uninterrupted ⊢
    split at uninterrupted
    next => simp [Op.isClose] at remains
    next => simp [Op.isClose] at remains
    next => simp at uninterrupted
    next =>
      cases told : recorded? event with
      | none => rfl
      | some committed =>
        cases committed with
        | false => simp [told] at uninterrupted
        | true => exact absurd told untold

end

/-! ### The two mutations -/

theorem Op.eq_modify (modifies : op.isModify = true) :
    ∃ ticket stopLoss takeProfit, op = .broker (.modifyPosition ticket stopLoss takeProfit) := by
  unfold Op.isModify at modifies
  split at modifies
  next => exact ⟨_, _, _, rfl⟩
  next => cases modifies

theorem Op.eq_close (closes : op.isClose = true) : ∃ ticket volume, op = .broker (.closePosition ticket volume) := by
  unfold Op.isClose at closes
  split at closes
  next => exact ⟨_, _, rfl⟩
  next => cases closes

section

variable (permitted : Discipline executor role asked event.1) (staged : Staged asked event.1)
    (uninterrupted : stageOf (asked ++ [event]) ≠ .interrupted)
include permitted staged uninterrupted

theorem modify_event (modifies : event.1.isModify = true) :
    Resolving role asked ∧ stageOf asked = .quiet ∧
      (stageOf (asked ++ [event])).isPending = true ∧
      workingKey (asked ++ [event]) = workingKey asked := by
  obtain ⟨op, reply⟩ := event
  obtain ⟨ticket, stopLoss, takeProfit, rfl⟩ := Op.eq_modify modifies
  have quiet : stageOf asked = .quiet := staged
  refine ⟨permitted.resolving, quiet, ?_, ?_⟩
  · rw [stageOf_append_singleton, quiet] at uninterrupted ⊢
    match reply with
    | .ok true => rfl
    | .ok false => rfl
    | .error error =>
      simp only [observe, leaveQuiet] at uninterrupted ⊢
      split <;> simp_all [isPending]
  · simp [workingKey, Progress.observe]

theorem close_event (closes : event.1.isClose = true) :
    Resolving role asked ∧ stageOf asked = .pending .unrepaired ∧
      stageOf (asked ++ [event]) = .pending .closed ∧
      workingKey (asked ++ [event]) = workingKey asked := by
  obtain ⟨op, reply⟩ := event
  obtain ⟨ticket, volume, rfl⟩ := Op.eq_close closes
  have pending : stageOf asked = .pending .unrepaired := staged
  refine ⟨permitted.resolving, pending, ?_, ?_⟩
  · rw [stageOf_append_singleton, pending] at uninterrupted ⊢
    cases reply with
    | ok => rfl
    | error =>
      simp only [observe, leavePending] at uninterrupted ⊢
      split <;> simp_all
  · simp [workingKey, Progress.observe]

end

theorem modifyFailed_of_unrepaired (pending : stageOf asked = .pending .unrepaired) :
    ∃ failed ∈ asked, modifyFailed failed = true := by
  induction asked using List.reverseRecOn with
  | nil => cases pending
  | append_singleton asked =>
    rw [stageOf_append_singleton] at pending
    cases stage : stageOf asked with
    | quiet =>
      rw [stage] at pending
      simp only [observe, leaveQuiet] at pending
      split at pending <;> simp_all [modifyFailed]
    | pending =>
      rw [stage] at pending
      simp only [observe, leavePending] at pending
      split at pending
      next => cases pending
      next => split at pending <;> cases pending
      next => cases pending
      next => split at pending <;> simp_all
    | claimed =>
      rw [stage] at pending
      simp only [observe, leaveClaimed] at pending
      split at pending
      next => split at pending <;> cases pending
      next => split at pending <;> cases pending
    | settled | interrupted =>
      rw [stage] at pending
      cases pending

end Events

/-! ## Whole runs -/

/-- At most one counted request was made; then the record is final, or the call owes the final status. -/
structure AtMostOnce (executor : TradeExecutor) (counts : Op → Bool) (stands : Stage → Prop)
    (key : String) (labels : List CallLabel) (state : World) : Prop where
  bound : requestsFor counts key labels ≤ 1
  told : requestsFor counts key labels ≠ 0 → FinalIn executor.kind state key ∨
    (workingKey (currentCall labels) = some key ∧ stands (stageOf (currentCall labels)))

section Once

variable {executor : TradeExecutor} {counts : Op → Bool} {stands : Stage → Prop} {key : String}
  {labels : List CallLabel} {state after : World} {asked : List PortEvent} {event : PortEvent}

theorem AtMostOnce.between (once : AtMostOnce executor counts stands key labels state)
    {label : CallLabel} (same : requestsFor counts key (labels ++ [label]) = requestsFor counts key labels)
    (owed : ¬ stands (stageOf (currentCall labels))) :
    AtMostOnce executor counts stands key (labels ++ [label]) state where
  bound := same ▸ once.bound
  told := fun made => .inl ((once.told (same ▸ made)).resolve_right fun running => owed running.2)

theorem AtMostOnce.after_event (once : AtMostOnce executor counts stands key labels state)
    (running : history.track (fun _ _ => []) (fun _ => none) labels () = some asked)
    (step : world.step state event after) (unowed : counts event.1 = true → ¬ stands (stageOf asked))
    (counted : counts event.1 = true → workingKey asked = some key →
      ¬ FinalIn executor.kind state key ∧ workingKey (asked ++ [event]) = some key ∧
      stands (stageOf (asked ++ [event])))
    (uncounted : counts event.1 = false → workingKey asked = some key → stands (stageOf asked) →
      (workingKey (asked ++ [event]) = some key ∧ stands (stageOf (asked ++ [event]))) ∨
      FinalIn executor.kind after key) :
    AtMostOnce executor counts stands key (labels ++ [.event () event]) after := by
  have current := currentCall_running running
  have told := once.told
  rw [current] at told
  have bound := once.bound
  by_cases made : counts event.1 = true ∧ workingKey asked = some key
  · obtain ⟨unfinished, works, owed⟩ := counted made.1 made.2
    have first : requestsFor counts key labels = 0 := by
      by_contra earlier
      obtain final | standing := told earlier
      · exact unfinished final
      · exact unowed made.1 standing.2
    constructor
    · rw [requestsFor_event running, if_pos made, first]
    · intro _
      rw [currentCall_event running]
      exact .inr ⟨works, owed⟩
  · have same : requestsFor counts key (labels ++ [.event () event]) = requestsFor counts key labels := by
      rw [requestsFor_event running, if_neg made, Nat.add_zero]
    constructor
    · rw [same]
      exact bound
    · intro earlier
      rw [same] at earlier
      rw [currentCall_event running]
      obtain final | ⟨works, owed⟩ := told earlier
      · exact .inl (final.after_step step)
      · by_cases counting : counts event.1 = true
        · exact absurd owed (unowed counting)
        · exact (uncounted (by simpa using counting) works owed).symm

end Once

structure Bounded (executor : TradeExecutor) (labels : List CallLabel) (state : World) : Prop where
  knows : KnowsStored executor.kind (currentCall labels) state
  uninterrupted : stageOf (currentCall labels) ≠ .interrupted
  modified : ∀ key, AtMostOnce executor Op.isModify (·.isPending = true) key labels state
  closed : ∀ key, AtMostOnce executor Op.isClose (· = .pending .closed) key labels state
  owned : ∀ earlier event, earlier ++ [.event () event] <+: labels →
    event.1.isModify = true ∨ event.1.isClose = true → (workingKey (currentCall earlier)).isSome = true
  ordered : ∀ earlier event, earlier ++ [.event () event] <+: labels → event.1.isClose = true →
    ∃ failed ∈ currentCall earlier, modifyFailed failed = true

namespace Bounded

variable {executor : TradeExecutor} {role : Role} {labels : List CallLabel} {state after : World}
  {asked : List PortEvent} {event : PortEvent} {label : CallLabel}

theorem initial (executor : TradeExecutor) (state : World) : Bounded executor [] state where
  knows := by intro known; simp [currentCall]
  uninterrupted := by simp [currentCall]
  modified := fun key => ⟨by simp, by simp⟩
  closed := fun key => ⟨by simp, by simp⟩
  owned := by simp
  ordered := by simp

theorem earlier_of_silent {earlier : List CallLabel} {made : PortEvent} (silent : label.made? = none)
    (begins : earlier ++ [.event () made] <+: labels ++ [label]) : earlier ++ [.event () made] <+: labels := by
  obtain whole | shorter := List.prefix_concat_iff.mp begins
  · obtain ⟨_, last⟩ := List.append_inj' whole rfl
    cases last
    cases silent
  · exact shorter

theorem between (before : Bounded executor labels state)
    (silent : label.made? = none) (idle : currentCall (labels ++ [label]) = [])
    (same : ∀ counts key, requestsFor counts key (labels ++ [label]) = requestsFor counts key labels)
    (ended : Over (currentCall labels)) : Bounded executor (labels ++ [label]) state where
  knows := by intro known; simp [idle]
  uninterrupted := by simp [idle]
  modified := fun key => (before.modified key).between (same _ _) (by
    intro pending
    cases stage : stageOf (currentCall labels) <;> simp_all [Over, isOver, isPending])
  closed := fun key => (before.closed key).between (same _ _) (by
    intro pending
    simp [Over, pending, isOver] at ended)
  owned := fun earlier event begins => before.owned earlier event (earlier_of_silent silent begins)
  ordered := fun earlier event begins => before.ordered earlier event (earlier_of_silent silent begins)

/-- **One request of the running call keeps the bounds.** -/
theorem after_event (before : Bounded executor labels state)
    (running : history.track (fun _ _ => []) (fun _ => none) labels () = some asked)
    (permitted : Discipline executor role asked event.1) (staged : Staged asked event.1)
    (broker : brokerAnswers event = true) (store : storeAnswers state event = true)
    (step : world.step state event after) : Bounded executor (labels ++ [.event () event]) after := by
  have current := currentCall_running running
  have knows : KnowsStored executor.kind asked state := current ▸ before.knows
  have uninterrupted := uninterrupted_of_orderly permitted knows broker store step
    (current ▸ before.uninterrupted)
  have modifying := modify_event permitted staged uninterrupted
  have closing := close_event permitted staged uninterrupted
  constructor
  · rw [currentCall_event running]
    exact (storeMove_of_permitted permitted).knows_stored knows step
  · rw [currentCall_event running]
    exact uninterrupted
  · intro key
    apply (before.modified key).after_event running step
    · intro modifies pending
      rw [(modifying modifies).2.1] at pending
      cases pending
    · intro modifies works
      obtain ⟨resolving, _, pending, same⟩ := modifying modifies
      exact ⟨not_final_of_resolving resolving knows works, same.trans works, pending⟩
    · intro _ works pending
      by_cases closes : event.1.isClose = true
      · obtain ⟨_, _, closed, same⟩ := closing closes
        exact .inl ⟨same.trans works, by rw [closed]; rfl⟩
      · obtain ⟨mutation, stage⟩ : ∃ mutation, stageOf asked = .pending mutation := by
          cases stage : stageOf asked <;> simp_all [isPending]
        obtain ⟨still, same⟩ | final := pending_event permitted staged step stage works
          (by simpa using closes) uninterrupted
        · exact .inl ⟨same, by rw [still]; rfl⟩
        · exact .inr final
  · intro key
    apply (before.closed key).after_event running step
    · intro closes closed
      rw [(closing closes).2.1] at closed
      cases closed
    · intro closes works
      obtain ⟨resolving, _, closed, same⟩ := closing closes
      exact ⟨not_final_of_resolving resolving knows works, same.trans works, closed⟩
    · intro remains works closed
      obtain ⟨still, same⟩ | final := pending_event permitted staged step closed works remains
        uninterrupted
      · exact .inl ⟨same, still⟩
      · exact .inr final
  · intro earlier made begins mutates
    obtain whole | shorter := List.prefix_concat_iff.mp begins
    · obtain ⟨rfl, last⟩ := List.append_inj' whole rfl
      obtain rfl : made = event := by simpa using last
      have resolving : Resolving role asked := by
        obtain modifies | closes := mutates
        · exact (modifying modifies).1
        · exact (closing closes).1
      obtain ⟨known, working, _⟩ := resolving
      simp [current, workingKey, working]
    · exact before.owned earlier made shorter mutates
  · intro earlier made begins closes
    obtain whole | shorter := List.prefix_concat_iff.mp begins
    · obtain ⟨rfl, last⟩ := List.append_inj' whole rfl
      obtain rfl : made = event := by simpa using last
      rw [current]
      exact modifyFailed_of_unrepaired (closing closes).2.1
    · exact before.ordered earlier made shorter closes

end Bounded

theorem staged_call (executor : TradeExecutor) (call : ExecutorCall) :
    Program.wp history.environment
      (fun asked op => (∃ role, Discipline executor role asked op) ∧ Staged asked op)
      (fun asked _ => Over asked) (executor.call call) [] := by
  refine Program.wp_mono
    (Program.wp_and (keeps_call executor call).verified (over_call executor call).verified) ?_ ?_
  · exact fun _ _ permitted => ⟨⟨_, permitted.1⟩, permitted.2⟩
  · intro asked result ended
    cases result with
    | ok => exact ended.2
    | error => exact ended.2

section Runs

variable {executor : TradeExecutor} {state : World} {labels later : List CallLabel}
  {pool final : Pool Port PyError ExecutionOutcome World Unit} {key : String} {counts : Op → Bool}

theorem bounded_of_run
    (run : Pool.RunWhen (fun _ => Orderly) world (fun _ : Unit => executor.call) (Pool.idle state) labels pool) :
    Bounded executor labels pool.shared := by
  apply run.invariant (fun _ => none) (Bounded executor) (fun _ => staged_call executor) (fun _ => trivial)
  · exact .initial executor state
  · intro labels state _ call before idle _
    have quiet : currentCall labels = [] := by rw [currentCall, idle]; rfl
    exact before.between rfl (by simp [currentCall, Monitor.advance])
      (fun _ _ => requestsFor_start call) (by rw [quiet]; rfl)
  · rintro labels state _ asked event after before running answers ⟨⟨role, permitted⟩, staged⟩ step
    have both : brokerAnswers event = true ∧ storeAnswers state event = true := by
      simpa [Orderly, orderly] using answers
    exact before.after_event running permitted staged both.1 both.2 step
  · intro labels state _ asked result before running _ ended
    exact before.between rfl (by simp [currentCall, Monitor.advance])
      (fun _ _ => requestsFor_finish result) (by rw [currentCall_running running]; exact ended)
  · intro labels state _ _ crashed
    cases crashed

theorem requestsFor_step (mutates : ∀ op : Op, counts op = true → op.isModify = true ∨ op.isClose = true)
    (run : Pool.RunWhen (fun _ => Orderly) world (fun _ : Unit => executor.call) (Pool.idle state) labels pool)
    (settled : FinalIn executor.kind pool.shared key) {label : CallLabel} (unbroken : Orderly pool.shared label)
    (step : Pool.Step world (fun _ : Unit => executor.call) pool label final) :
    requestsFor counts key (labels ++ [label]) = requestsFor counts key labels := by
  have bounded := bounded_of_run run
  have idle : ∀ thread : Unit, Tracked history
      (fun asked op => (∃ role, Discipline executor role asked op) ∧ Staged asked op)
      (fun asked _ => Over asked)
      ((Pool.idle state : Pool Port PyError ExecutionOutcome World Unit).threads thread) none :=
    fun _ => trivial
  have watched := run.run.tracked (fun _ => staged_call executor) idle ()
  cases step with
  | @start _ call => exact requestsFor_start call
  | returned | raised => exact requestsFor_finish _
  | crash => cases unbroken
  | @event _ op next reply after running taken =>
    rw [running] at watched
    cases known : history.track (fun _ _ => []) (fun _ => none) labels () with
    | none => simp [known, Tracked] at watched
    | some asked =>
      rw [known] at watched
      obtain ⟨⟨⟨role, permitted⟩, staged⟩, _⟩ := watched
      have knows : KnowsStored executor.kind asked pool.shared :=
        currentCall_running known ▸ bounded.knows
      rw [requestsFor_event known, if_neg, Nat.add_zero]
      rintro ⟨counted, works⟩
      have resolving : Resolving role asked := by
        obtain modifies | closes := mutates op counted
        · obtain ⟨_, _, _, rfl⟩ := Op.eq_modify modifies
          exact permitted.resolving
        · obtain ⟨_, _, rfl⟩ := Op.eq_close closes
          exact permitted.resolving
      exact not_final_of_resolving resolving knows works settled

theorem requestsFor_final (mutates : ∀ op : Op, counts op = true → op.isModify = true ∨ op.isClose = true)
    (run : Pool.RunWhen (fun _ => Orderly) world (fun _ : Unit => executor.call) (Pool.idle state) labels pool)
    (settled : FinalIn executor.kind pool.shared key)
    (rest : Pool.RunWhen (fun _ => Orderly) world (fun _ : Unit => executor.call) pool later final) :
    FinalIn executor.kind final.shared key ∧
      requestsFor counts key (labels ++ later) = requestsFor counts key labels := by
  induction rest with
  | nil => exact ⟨settled, by simp⟩
  | @snoc middle final later label rest unbroken step ih =>
    obtain ⟨still, same⟩ := ih
    constructor
    · cases step with
      | event _ taken => exact still.after_step taken
      | _ => exact still
    · rw [← List.append_assoc, requestsFor_step mutates (run.append rest) still unbroken step, same]

end Runs

/-- **Protective mutations are bounded**: a key is worth at most one modification and one close, and a final
record neither. -/
theorem protective_mutations_bounded (executor : TradeExecutor) {state : World}
    {labels : List CallLabel} {pool : Pool Port PyError ExecutionOutcome World Unit}
    (run : Pool.RunWhen (fun _ => Orderly) world (fun _ : Unit => executor.call) (Pool.idle state) labels
      pool) (key : String) :
    (∀ earlier event, earlier ++ [.event () event] <+: labels →
      event.1.isModify = true ∨ event.1.isClose = true →
      (workingKey (currentCall earlier)).isSome = true) ∧
    requestsFor Op.isModify key labels ≤ 1 ∧ requestsFor Op.isClose key labels ≤ 1 ∧
    (∀ earlier event, earlier ++ [.event () event] <+: labels → event.1.isClose = true →
      ∃ failed ∈ currentCall earlier, modifyFailed failed = true) ∧
    (FinalIn executor.kind pool.shared key → ∀ later final,
      Pool.RunWhen (fun _ => Orderly) world (fun _ : Unit => executor.call) pool later final →
      requestsFor Op.isModify key (labels ++ later) = requestsFor Op.isModify key labels ∧
        requestsFor Op.isClose key (labels ++ later) = requestsFor Op.isClose key labels) := by
  have bounded := bounded_of_run run
  refine ⟨bounded.owned, (bounded.modified key).bound, (bounded.closed key).bound, bounded.ordered, ?_⟩
  intro settled later final rest
  exact ⟨(requestsFor_final (fun _ => .inl) run settled rest).2,
    (requestsFor_final (fun _ => .inr) run settled rest).2⟩

namespace Demo

def replyLost : List CallLabel × Pool Port PyError ExecutionOutcome Deployment Unit :=
  Pool.schedule quiet.responder (fun _ : Unit => (executor .sqlAlchemy).call)
    (Pool.idle (deployment [.timeoutAfterAccept]))
    (.start () (.execute command) :: List.replicate 40 (.step ()))

def unprotected : Pool Port PyError ExecutionOutcome Deployment Unit :=
  { replyLost.2 with
    shared := { replyLost.2.shared with
      broker := { replyLost.2.shared.broker with
        positionModificationAllowed := false
        positions := replyLost.2.shared.broker.positions.map ({ · with takeProfit := none }) } } }

def reconcileTwice : List (Turn Unit ExecutorCall) :=
  (List.replicate 2 (.start () (.reconcileUnknown key) :: List.replicate 20 (.step ()))).flatten

def repairing : List CallLabel :=
  replyLost.1 ++ (Pool.schedule quiet.responder (fun _ : Unit => (executor .sqlAlchemy).call) unprotected
    reconcileTwice).1

end Demo

open Demo

theorem protective_mutations_bounded_demo :
    (requestsFor Op.isModify key repairing = 1 ∧
      requestsFor Op.isClose key repairing = 1) ∧
    requestsFor Op.isModify key repairing ≤ 1 ∧
      requestsFor Op.isClose key repairing ≤ 1 := by
  -- one evaluation of the run for the condition of both schedules and for the counts
  obtain ⟨sending, reconciling, counts⟩ :
      Pool.ScheduleMeets (fun _ => Orderly) Deployment.world quiet.responder
        (fun _ : Unit => (executor .sqlAlchemy).call) [] (Pool.idle (deployment [.timeoutAfterAccept]))
        (.start () (.execute command) :: List.replicate 40 (.step ())) ∧
      Pool.ScheduleMeets (fun _ => Orderly) Deployment.world quiet.responder
        (fun _ : Unit => (executor .sqlAlchemy).call) replyLost.1 unprotected reconcileTwice ∧
      requestsFor Op.isModify key repairing = 1 ∧ requestsFor Op.isClose key repairing = 1 := by
    decide +kernel
  have first : Pool.RunWhen (fun _ => Orderly) world _ _ replyLost.1
      (unprotected.view Deployment.world) :=
    Pool.RunWhen.schedule quiet.respond_within .nil sending
  have both : Pool.RunWhen (fun _ => Orderly) world _ _ repairing _ :=
    Pool.RunWhen.schedule quiet.respond_within first reconciling
  have bounded := protective_mutations_bounded (executor .sqlAlchemy) both key
  exact ⟨counts, bounded.2.1, bounded.2.2.1⟩

end GoldFlow
