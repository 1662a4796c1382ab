import GoldFlow.Verified.ProtectiveMutations

/-! # No attempt is orphaned

Executors that share the durable store run in a pool and may crash anywhere.
-/

namespace GoldFlow

open Effect WorkerPersistence SqlAlchemyIdempotencyStore TradeExecutor

open Demo

abbrev PoolLabel (ι : Type) := Label Port PyError ExecutionOutcome ι ExecutorCall

section Claims

variable {ι : Type} [DecidableEq ι] {event : PortEvent} {key : String}

def runningCalls (labels : List (PoolLabel ι)) : ι → Option (List PortEvent) :=
  history.track (fun _ _ => []) (fun _ => none) labels

/-- Between a claim and the next status nothing crashes, the order check raises only a `BrokerError`, and the
update succeeds. -/
def claimUndisturbed (labels : List (PoolLabel ι)) : PoolLabel ι → Bool
  | .crash thread => (runningCalls labels thread).all (stageOf · != .claimed)
  | .event thread event => (runningCalls labels thread).all fun asked =>
      stageOf asked != .claimed || Stage.leaveClaimed event != .interrupted
  | .start _ _ | .finish _ _ => true

abbrev ClaimUndisturbed (labels : List (PoolLabel ι)) (_ : World) (label : PoolLabel ι) : Prop :=
  claimUndisturbed labels label = true

/-- Every `CLAIMED` record is in the hands of a running call. -/
def ClaimsHeld (kind : StoreKind) (labels : List (PoolLabel ι)) (state : World) : Prop :=
  ∀ key entry, state.entries kind key = some entry → entry.status = .claimed →
    ∃ thread asked, runningCalls labels thread = some asked ∧ stageOf asked = .claimed ∧
      workingKey asked = some key

theorem not_follows_claimed (status : IdempotencyStatus) : ¬ status.Follows .claimed := by
  cases status <;> simp [IdempotencyStatus.Follows, IdempotencyStatus.allowed]

theorem claimed_of_action {asked : List PortEvent} {fill : Fill} {kind : StoreKind} (staged : Staged asked event.1)
    (claims : kind.action event = .claim key fill) : stageOf (asked ++ [event]) = .claimed := by
  obtain ⟨op, reply⟩ := event
  unfold StoreKind.action at claims
  split at claims
  next _ same =>
    cases same
    have quiet : stageOf asked = .quiet := staged
    rw [stageOf_append_singleton, quiet]
    rfl
  next => cases claims
  next _ same =>
    cases same
    have quiet : stageOf asked = .quiet := staged
    rw [stageOf_append_singleton, quiet]
    rfl
  next => cases claims
  next => cases claims

variable {kind : StoreKind} {labels : List (PoolLabel ι)} {state after : World} {thread : ι}
  {asked : List PortEvent} {label : PoolLabel ι} {executor : TradeExecutor} {role : Role}
  {pool : Pool Port PyError ExecutionOutcome World ι}

theorem runningCalls_other {other : ι}
    (taken : ∀ tracked : ι → Option (List PortEvent), ∃ now,
      history.advance (fun _ _ => []) tracked label = Function.update tracked thread now)
    (different : other ≠ thread) : runningCalls (labels ++ [label]) other = runningCalls labels other := by
  obtain ⟨now, same⟩ := taken (runningCalls labels)
  rw [runningCalls, Monitor.track_snoc]
  show history.advance _ (runningCalls labels) label other = _
  rw [same, Function.update_of_ne different]

theorem ClaimsHeld.between (held : ClaimsHeld kind labels state)
    (taken : ∀ tracked : ι → Option (List PortEvent), ∃ now,
      history.advance (fun _ _ => []) tracked label = Function.update tracked thread now)
    (unheld : ∀ asked, runningCalls labels thread = some asked → stageOf asked ≠ .claimed) :
    ClaimsHeld kind (labels ++ [label]) state := by
  intro key entry stored claimed
  obtain ⟨holder, asked, running, stage, works⟩ := held key entry stored claimed
  have different : holder ≠ thread := by
    rintro rfl
    exact unheld asked running stage
  exact ⟨holder, asked, by rw [runningCalls_other taken different, running], stage, works⟩

theorem claimed_event (permitted : Discipline executor role asked event.1) (stage : stageOf asked = .claimed)
    (works : workingKey asked = some key) (unmoved : ∀ status, executor.kind.action event ≠ .advance key status)
    (undisturbed : Stage.leaveClaimed event ≠ .interrupted) :
    stageOf (asked ++ [event]) = .claimed ∧ workingKey (asked ++ [event]) = some key := by
  rcases move_of_working permitted works with ⟨status, action⟩ | ⟨untold, working⟩
  · exact absurd action (unmoved status)
  · refine ⟨?_, working⟩
    rw [stageOf_append_singleton, stage]
    show Stage.leaveClaimed event = .claimed
    unfold Stage.leaveClaimed at undisturbed ⊢
    split
    next => split <;> simp_all
    next =>
      cases told : recorded? event with
      | none => rfl
      | some committed =>
        cases committed with
        | false => simp [told] at undisturbed
        | true => exact absurd told untold

theorem ClaimsHeld.after_event (held : ClaimsHeld executor.kind labels state)
    (running : runningCalls labels thread = some asked) (permitted : Discipline executor role asked event.1)
    (staged : Staged asked event.1) (undisturbed : ClaimUndisturbed labels state (.event thread event))
    (step : world.step state event after) : ClaimsHeld executor.kind (labels ++ [.event thread event]) after := by
  intro key entry stored claimed
  have now : runningCalls (labels ++ [.event thread event]) thread = some (asked ++ [event]) := by
    rw [runningCalls, Monitor.track_event running, Function.update_self]
    rfl
  have move := storeMove_of_permitted permitted
  have refined := world_refines_ledger executor.kind step
  cases found : state.entries executor.kind key with
  | none =>
    -- the record was claimed just now
    obtain ⟨claims, _⟩ := refined.entry_appears found stored
    refine ⟨thread, _, now, claimed_of_action staged claims, ?_⟩
    cases move with
    | claimed _ action _ working =>
      rw [action] at claims
      obtain ⟨rfl, _⟩ : _ = key ∧ _ = entry.data := by simpa using claims
      rw [workingKey, working]
      rfl
    | read _ action => rw [action] at claims; cases claims
    | recorded _ action => rw [action] at claims; cases claims
    | aside action => rw [action] at claims; cases claims
  | some earlier =>
    have unmoved : earlier = entry ∧ ∀ status, executor.kind.action event ≠ .advance key status := by
      obtain same | ⟨status, _, follows, moved⟩ := refined.entry_persists found
      · rw [stored] at same
        obtain rfl := Option.some.inj same
        refine ⟨rfl, fun status advances => ?_⟩
        rw [advances] at refined
        obtain ⟨before, _, follows, moved⟩ := refined.advance_inversion
        rw [stored] at moved
        obtain rfl := Option.some.inj moved
        rw [show status = .claimed from claimed] at follows
        exact not_follows_claimed _ follows
      · rw [stored] at moved
        obtain rfl := Option.some.inj moved
        rw [show status = .claimed from claimed] at follows
        exact absurd follows (not_follows_claimed _)
    obtain ⟨holder, holding, runs, stage, works⟩ := held key earlier found (unmoved.1 ▸ claimed)
    by_cases same : holder = thread
    · -- the call that holds the record made the request, and it was no update
      subst same
      obtain rfl : asked = holding := Option.some.inj (running.symm.trans runs)
      have unbroken : Stage.leaveClaimed event ≠ .interrupted := by
        have guarded := undisturbed
        simp only [ClaimUndisturbed, claimUndisturbed, running, Option.all_some, stage] at guarded
        simpa using guarded
      obtain ⟨still, works⟩ := claimed_event permitted stage works unmoved.2 unbroken
      exact ⟨holder, _, now, still, works⟩
    · refine ⟨holder, holding, ?_, stage, works⟩
      rw [runningCalls_other (fun _ => ⟨_, rfl⟩) same, runs]

theorem claimsHeld_of_run (executors : ι → TradeExecutor) (sharing : ∀ i, (executors i).kind = kind)
    (empty : ∀ key, state.entries kind key = none)
    (run : Pool.RunWhen ClaimUndisturbed world (fun i => (executors i).call) (Pool.idle state) labels pool) :
    ClaimsHeld kind labels pool.shared := by
  apply run.invariant (fun _ => none) (ClaimsHeld kind) (fun i => staged_call (executors i))
    (fun _ => trivial)
  · intro key entry stored
    have absent : state.entries kind key = some entry := stored
    rw [empty] at absent
    cases absent
  · intro labels state thread call held idle _
    apply held.between (fun _ => ⟨_, rfl⟩)
    intro asked running
    rw [runningCalls, idle] at running
    cases running
  · rintro labels state thread asked event after held running undisturbed ⟨⟨role, permitted⟩, staged⟩ step
    have own : ClaimsHeld (executors thread).kind labels state := sharing thread ▸ held
    exact sharing thread ▸ own.after_event running permitted staged undisturbed step
  · intro labels state thread asked result held running _ ended
    apply held.between (fun _ => ⟨_, rfl⟩)
    intro same running' claimed
    obtain rfl : asked = same := Option.some.inj (running.symm.trans running')
    simp [Over, claimed, Stage.isOver] at ended
  · intro labels state thread held undisturbed
    apply held.between (fun _ => ⟨_, rfl⟩)
    intro asked running claimed
    simp [ClaimUndisturbed, claimUndisturbed, running, claimed] at undisturbed

theorem not_claimed_of_idle (executors : ι → TradeExecutor) (sharing : ∀ i, (executors i).kind = kind)
    (empty : ∀ key, state.entries kind key = none)
    (run : Pool.RunWhen ClaimUndisturbed world (fun i => (executors i).call) (Pool.idle state) labels pool)
    (idle : ∀ i, pool.threads i = none) {entry : StoreEntry} (stored : pool.shared.entries kind key = some entry) :
    entry.status ≠ .claimed := by
  intro claimed
  obtain ⟨thread, asked, running, _⟩ := claimsHeld_of_run executors sharing empty run key entry stored
    claimed
  have begun : ∀ thread, Tracked history
      (fun asked op => (∃ role, Discipline (executors thread) role asked op) ∧ Staged asked op)
      (fun asked _ => Over asked)
      ((Pool.idle state : Pool Port PyError ExecutionOutcome World ι).threads thread) none :=
    fun _ => trivial
  have watched := run.run.tracked (fun i => staged_call (executors i)) begun thread
  rw [idle thread] at watched
  simp only [runningCalls] at running
  rw [running] at watched
  exact watched

end Claims

/-! ## Rows can be read back -/

def RowsReadable (state : World) : Prop :=
  ∀ key attempt, state.attempts key = some attempt →
    ∃ stored, requestFromPayload attempt.requestPayload = .ok stored

theorem RowsReadable.after_step {state after : World} {event : PortEvent}
    (readable : RowsReadable state) (step : world.step state event after) : RowsReadable after := by
  -- only an insert and an update touch the rows
  have unchanged : after.attempts = state.attempts → RowsReadable after := by
    intro same key attempt
    rw [same]
    exact readable key attempt
  obtain ⟨op, reply⟩ := event
  cases op with
  | attempts =>
    cases attemptMove_of_step step with
    | selected | resolved _ | taken | missing | refused _ _ | failed _ => exact readable
    | @inserted orderId request now free =>
      intro key attempt stored
      obtain ⟨_, ⟨⟩⟩ | ⟨_, stored⟩ := update_eq_some.mp stored
      · exact requestFromPayload_requestPayload request
      · exact readable key attempt stored
    | @updated moved _ _ _ _ current _ found changed =>
      intro key attempt stored
      obtain ⟨rfl, ⟨⟩⟩ | ⟨_, stored⟩ := update_eq_some.mp stored
      · rw [(updateRow_eq_ok changed).2.1]
        exact readable key current found
      · exact readable key attempt stored
  | records => exact unchanged (recordStep_attempts step)
  | config op =>
    cases op with
    | _ =>
      cases step with
      | committed changed => cases changed; exact readable
      | refused | failed => exact readable
  | _ =>
    exact unchanged (by rw [step.2])

theorem rowsReadable_of_run {ι : Type} [DecidableEq ι] {body : ι → ExecutorCall → Py ExecutionOutcome}
    {state : World} (empty : ∀ key, state.attempts key = none) {labels : List (PoolLabel ι)}
    {pool : Pool Port PyError ExecutionOutcome World ι}
    (run : Pool.Run world body (Pool.idle state) labels pool) : RowsReadable pool.shared := by
  have initial : RowsReadable state := by
    intro key attempt stored
    rw [empty] at stored
    cases stored
  have kept : ∀ (events : List PortEvent) state event after, RowsReadable state →
      world.step state event after → RowsReadable after :=
    fun _ _ _ _ readable step => readable.after_step step
  exact run.shared_invariant initial kept

/-! ## What reconciliation does to a selected row -/

/-- The request answered, the broker raised a `BrokerError`, or the store refused a status. -/
def handled : PortEvent → Bool
  | ⟨.broker _, .error error⟩ => error.isBroker
  | ⟨.attempts (.update _ _ _ _ _), .error error⟩ => !error.isFault
  | ⟨_, .error _⟩ => false
  | ⟨_, .ok _⟩ => true

def Disturbed (events : List PortEvent) : Prop := ∃ event ∈ events, handled event = false

/-- The request asks for a final status of `key`. -/
def settles (key : String) : PortEvent → Bool
  | ⟨.attempts (.update updated status _ _ _), _⟩ =>
    updated = key && isFinal status
  | _ => false

def Settled (key : String) (events : List PortEvent) : Prop := ∃ event ∈ events, settles key event = true

/-- One of the broker's lists could not be read, or neither shows the record. -/
inductive Unlisted (executor : TradeExecutor) (key : String) (attempt : ExecutionAttempt)
    (record : ExecutionRecord) : List PortEvent → Prop
  | positions (error : PyError) :
      Unlisted executor key attempt record
        [⟨.attempts (.select key), .ok (some attempt)⟩,
          ⟨.broker (.getPositions (some record.request.symbol)), .error error⟩]
  | orders (positions : List BrokerPosition) (error : PyError) :
      Unlisted executor key attempt record
        [⟨.attempts (.select key), .ok (some attempt)⟩,
          ⟨.broker (.getPositions (some record.request.symbol)), .ok positions⟩,
          ⟨.broker (.getOrders (some record.request.symbol)), .error error⟩]
  | neither {positions : List BrokerPosition} {orders : List BrokerOrder} :
      executor.matchedPosition record key positions = none → executor.matchedOrder key orders = none →
      Unlisted executor key attempt record
        [⟨.attempts (.select key), .ok (some attempt)⟩,
          ⟨.broker (.getPositions (some record.request.symbol)), .ok positions⟩,
          ⟨.broker (.getOrders (some record.request.symbol)), .ok orders⟩]

/-- How `reconcile_unknown` ends: disturbed, with a final status, or after its first reads. -/
def Resolution (executor : TradeExecutor) (key : String) (events : List PortEvent) : Prop :=
  Disturbed events ∨ Settled key events ∨
    ∃ found, events.head? = some ⟨.attempts (.select key), .ok found⟩ ∧
      ∀ attempt record, found = some attempt →
        SqlAlchemyIdempotencyStore.record attempt = .ok record →
        attempt.status = .submitted ∨ attempt.status = .unknown →
        Unlisted executor key attempt record events

section Resolves

variable {executor : TradeExecutor} {key : String} {history : List PortEvent} {α β : Type} {event : PortEvent}

/-- A part of `reconcile_unknown` that raises only if it is disturbed, or has settled the row. -/
abbrev Resolves (executor : TradeExecutor) (key : String) (returns : List PortEvent → α → Prop)
    (program : Py α) (history : List PortEvent) : Prop :=
  Keeps (S := Port) (fun _ _ => True) (fun later (_ : PyError) => Resolution executor key later)
    returns program history

theorem disturbed_last (unhandled : handled event = false) : Resolution executor key (history ++ [event]) :=
  .inl ⟨event, by simp, unhandled⟩

theorem settled_last (settling : settles key event = true) : Resolution executor key (history ++ [event]) :=
  .inr (.inl ⟨event, by simp, settling⟩)

theorem resolves_try {op : BrokerOp} {catches : PyError → Bool} {recover : PyError → β}
    (broker : ∀ error, catches error = false → error.isBroker = false) :
    Resolves executor key (fun _ _ => True) ((askBroker op).catching catches recover) history := by
  apply Keeps.catching_perform (S := Port) (.broker op) trivial
  · intro error missed
    exact disturbed_last (broker error missed)
  · exact fun _ => trivial
  · exact fun _ _ => trivial

theorem resolves_awaitPosition (request : OrderRequest) (report : ExecutionReport) (remaining : Nat) :
    Resolves executor key (fun _ _ => True) (executor.awaitPosition request report remaining) history := by
  induction remaining generalizing history with
  | zero => exact Keeps.pure trivial
  | succ remaining ih =>
    unfold awaitPosition
    apply Keeps.bind (resolves_try fun _ missed => missed)
    intro later positions _
    cases (positions.toOption.getD []).find? (executor.matchesReport request report) with
    | some position => exact Keeps.pure trivial
    | none =>
      refine Keeps.ite (fun _ => Keeps.pure trivial) fun _ => ?_
      exact Keeps.perform_bind trivial (fun _ => disturbed_last rfl) fun _ =>
        ih

theorem resolves_repairOrClose (request : OrderRequest) (ticket : Option String) :
    Resolves executor key (fun _ _ => True) (repairOrClose request ticket) history := by
  unfold repairOrClose
  cases ticket.filter (· ≠ "") with
  | none => exact Keeps.pure trivial
  | some =>
    apply Keeps.bind (resolves_try fun _ missed => missed)
    intro later repaired _
    refine Keeps.ite (fun _ => Keeps.pure trivial) fun _ => ?_
    have raising : ∀ error : PyError, error.isUnconfirmedClose = false → error.isBroker = false := by
      intro error
      cases error <;> simp [PyError.isUnconfirmedClose, PyError.isBroker]
    apply Keeps.bind (resolves_try raising)
    intro last closed _
    cases closed with
    | error => exact Keeps.pure trivial
    | ok => exact Keeps.ite (fun _ => Keeps.pure trivial) fun _ => Keeps.pure trivial

theorem resolves_verifyOrRepairProtection (request : OrderRequest) (report : ExecutionReport) :
    Resolves executor key (fun _ _ => True) (executor.verifyOrRepairProtection request report) history := by
  apply Keeps.bind (resolves_awaitPosition request report _)
  intro later found _
  cases found with
  | none => exact resolves_repairOrClose request _
  | some =>
    exact Keeps.ite (fun _ => Keeps.pure trivial) fun _ => resolves_repairOrClose request _

theorem resolves_resolve (durable : executor.kind = .sqlAlchemy) {status : IdempotencyStatus}
    (final : isFinal status = true) (report : ExecutionReport) (reason : String) :
    Resolves executor key (fun later _ => Resolution executor key later)
      (executor.resolve key status report reason) history := by
  unfold resolve mark store
  rw [durable]
  apply Keeps.bind (Keeps.perform_bind trivial (fun _ => disturbed_last rfl) _)
  · exact fun _ _ ended => Keeps.pure ended
  · intro now
    have settling : ∀ reply, settles key
        ⟨.attempts (.update key status now (some report) reason), reply⟩ = true := by
      simp [settles, final]
    refine Keeps.perform_bind trivial (fun error => settled_last (settling (.error error)))
      fun attempt => ?_
    exact Keeps.ofExcept (fun _ _ => settled_last (settling (.ok attempt)))
      fun _ _ => settled_last (settling (.ok attempt))

theorem resolves_getProgram :
    Resolves executor key
      (fun later existing => ∃ found, later = [⟨.attempts (.select key), .ok found⟩] ∧
        (existing = none → found = none) ∧
        ∀ record, existing = some record →
          ∃ attempt, found = some attempt ∧ SqlAlchemyIdempotencyStore.record attempt = .ok record)
      (getProgram key) [] := by
  refine Keeps.perform_bind trivial (fun _ => disturbed_last rfl) fun found => ?_
  cases found with
  | none => exact Keeps.pure ⟨none, rfl, fun _ => rfl, by simp⟩
  | some attempt =>
    apply Keeps.ofExcept_bind
    · intro error undecoded
      refine .inr (.inr ⟨some attempt, rfl, ?_⟩)
      rintro _ record ⟨⟩ decoded
      rw [undecoded] at decoded
      cases decoded
    · intro record decoded
      refine Keeps.pure ⟨some attempt, rfl, by simp, ?_⟩
      rintro _ ⟨⟩
      exact ⟨attempt, rfl, decoded⟩

theorem Unlisted.resolution {attempt : ExecutionAttempt} {record : ExecutionRecord}
    (unlisted : Unlisted executor key attempt record history)
    (decoded : SqlAlchemyIdempotencyStore.record attempt = .ok record) : Resolution executor key history := by
  refine .inr (.inr ⟨some attempt, by cases unlisted <;> rfl, ?_⟩)
  rintro _ same ⟨⟩ again _
  obtain rfl : record = same := Except.ok.inj (decoded.symm.trans again)
  exact unlisted

/-- **`reconcile_unknown` settles a row that the broker lists.** -/
theorem resolves_reconcileUnknown (durable : executor.kind = .sqlAlchemy) :
    Resolves executor key (fun later _ => Resolution executor key later) (executor.reconcileUnknown key) [] := by
  have reading : executor.store.get key = getProgram key := by
    rw [store, durable]
    rfl
  unfold reconcileUnknown
  rw [reading]
  apply Keeps.bind resolves_getProgram
  rintro later existing ⟨found, rfl, absent, present⟩
  cases existing with
  | none =>
    refine Keeps.pure (.inr (.inr ⟨found, rfl, ?_⟩))
    rw [absent rfl]
    simp
  | some record =>
    obtain ⟨attempt, rfl, decoded⟩ := present record rfl
    have status := (record_eq_ok decoded).2
    refine Keeps.ite (fun resolved => ?_) fun _ => ?_
    · refine Keeps.pure (.inr (.inr ⟨some attempt, rfl, ?_⟩))
      rintro _ _ ⟨⟩ _ unresolved
      rw [status] at resolved
      exact absurd unresolved (not_or.mpr resolved)
    have listing : Resolves executor key
        (fun later (state : Except ExecutionOutcome (List BrokerPosition × List BrokerOrder)) =>
          match state with
          | .error _ => Unlisted executor key attempt record later
          | .ok (positions, orders) => later =
            [⟨.attempts (.select key), .ok (some attempt)⟩,
              ⟨.broker (.getPositions (some record.request.symbol)), .ok positions⟩,
              ⟨.broker (.getOrders (some record.request.symbol)), .ok orders⟩])
        (Program.catching (do
            let positions ← askBroker (.getPositions (some record.request.symbol))
            let orders ← askBroker (.getOrders (some record.request.symbol))
            pure (positions, orders))
          PyError.isBroker fun _ =>
            stillUnknown record "BROKER_UNAVAILABLE_RECONCILIATION_DEFERRED")
        [⟨.attempts (.select key), .ok (some attempt)⟩] := by
      refine Keeps.catching_raised ?_ fun _ _ read => read
      refine Keeps.perform_bind trivial (fun error => ⟨fun _ => .positions error, fun other =>
        disturbed_last other⟩) fun positions => ?_
      refine Keeps.perform_bind trivial (fun error => ⟨fun _ => .orders positions error,
        fun other => disturbed_last other⟩) fun orders => ?_
      exact Keeps.pure rfl
    apply Keeps.bind listing
    intro later state listed
    cases state with
    | error => exact Keeps.pure (listed.resolution decoded)
    | ok lists =>
      obtain ⟨positions, orders⟩ := lists
      cases matched : executor.matchedPosition record key positions with
      | some position =>
        simp only [matched]
        refine Keeps.perform_bind trivial (fun _ => disturbed_last rfl) fun now => ?_
        apply Keeps.bind (resolves_verifyOrRepairProtection record.request _)
        intro last protection _
        exact Keeps.ite (fun _ => resolves_resolve durable rfl _ _)
          fun _ => resolves_resolve durable rfl _ _
      | none =>
        cases working : executor.matchedOrder key orders with
        | some order =>
          simp only [matched, working]
          refine Keeps.perform_bind trivial (fun _ => disturbed_last rfl) fun now => ?_
          exact resolves_resolve durable rfl _ _
        | none =>
          simp only [matched, working]
          obtain rfl := listed
          exact Keeps.pure ((Unlisted.neither matched working).resolution decoded)

end Resolves

/-! ## Sequential runs -/

/-- The row of `key` has been submitted. -/
def Live (state : World) (key : String) : Prop :=
  ∃ entry, state.entries .sqlAlchemy key = some entry ∧ entry.status ≠ .claimed

section Steps

variable {state after final : World} {event : PortEvent} {key : String}

theorem Live.after_step (live : Live state key) (step : world.step state event after) : Live after key := by
  obtain ⟨entry, found, submitted⟩ := live
  obtain same | ⟨status, _, follows, moved⟩ :=
    (world_refines_ledger .sqlAlchemy step).entry_persists found
  · exact ⟨entry, same, submitted⟩
  · refine ⟨_, moved, ?_⟩
    rintro rfl
    exact not_follows_claimed _ follows

theorem final_of_not_follows {status next : IdempotencyStatus}
    (final : isFinal next = true) (submitted : status ≠ .claimed)
    (refused : ¬ status.Follows next) : isFinal status = true := by
  cases status <;> cases next <;>
    simp_all [isFinal, IdempotencyStatus.Follows, IdempotencyStatus.allowed]

theorem final_of_settles (live : Live state key) (undisturbed : handled event = true)
    (settling : settles key event = true) (step : world.step state event after) : FinalIn .sqlAlchemy after key := by
  obtain ⟨op, reply⟩ := event
  unfold settles at settling
  split at settling
  next updated status now report reason answer same =>
    cases same
    simp only [Bool.and_eq_true, decide_eq_true_eq] at settling
    obtain ⟨rfl, isFinal⟩ := settling
    cases answer with
    | ok =>
      have refined := world_refines_ledger .sqlAlchemy step
      obtain ⟨entry, _, _, moved⟩ := Ledger.Step.advance_inversion refined
      exact ⟨_, moved, isFinal⟩
    | error error =>
      have refusal : error.isFault = false := by simpa [handled] using undisturbed
      have changed : state.attemptStep (.update updated status now report reason) (.error error) after := step
      cases attemptMove_of_step changed with
      | failed fault => simp [refusal] at fault
      | missing => cases refusal
      | @refused _ _ _ _ _ current _ found refused =>
        have entry : state.entries .sqlAlchemy updated = some current.entry := by
          simp [World.entries, found]
        obtain ⟨known, stored, submitted⟩ := live
        rw [entry] at stored
        obtain rfl := Option.some.inj stored
        exact ⟨_, entry, final_of_not_follows isFinal submitted refused⟩
  next => cases settling

theorem final_of_settled {α : Type} {program residual : Py α} {events : List PortEvent}
    (steps : Steps world state program events final residual) (live : Live state key)
    (undisturbed : ∀ event ∈ events, handled event = true)
    (settled : Settled key events ∨ FinalIn .sqlAlchemy state key) : FinalIn .sqlAlchemy final key := by
  induction steps with
  | refl => exact settled.resolve_left (by simp [Settled])
  | @call state middle final op next reply events residual step _ ih =>
    have first := undisturbed _ (List.mem_cons_self ..)
    apply ih (live.after_step step) fun event member =>
      undisturbed event (List.mem_cons_of_mem _ member)
    obtain ⟨event, member, settling⟩ | isFinal := settled
    · rcases List.mem_cons.mp member with rfl | later
      · exact .inr (final_of_settles live first settling step)
      · exact .inl ⟨event, later, settling⟩
    · exact .inr (isFinal.after_step step)

end Steps

/-- **No attempt is orphaned** as long as no call is disturbed between its claim and the next status:
`unknown_keys` selects every unfinished row, and `reconcile_unknown` leaves it final or unlisted. -/
theorem attempts_recovered {ι : Type} [DecidableEq ι] (executors : ι → TradeExecutor)
    (durable : ∀ i, (executors i).kind = .sqlAlchemy) {state : World}
    (empty : ∀ key, state.attempts key = none) {labels : List (PoolLabel ι)}
    {pool : Pool Port PyError ExecutionOutcome World ι}
    (run : Pool.RunWhen ClaimUndisturbed world (fun i => (executors i).call) (Pool.idle state) labels
      pool)
    (idle : ∀ i, pool.threads i = none) {key : String} {attempt : ExecutionAttempt}
    (stored : pool.shared.attempts key = some attempt)
    (unfinished : SqlAlchemyIdempotencyStore.isFinal attempt.status = false) :
    unknownKeys pool.shared.attempts key = true ∧
    ∀ i events final residual,
      Steps world pool.shared ((executors i).reconcileUnknown key) events final residual →
      residual.Done → (∀ event ∈ events, handled event = true) →
      FinalIn .sqlAlchemy final key ∨
        ∃ record, SqlAlchemyIdempotencyStore.record attempt = .ok record ∧
          Unlisted (executors i) key attempt record events := by
  have entry : pool.shared.entries .sqlAlchemy key = some attempt.entry := by
    simp [World.entries, stored]
  have absent : ∀ key, state.entries .sqlAlchemy key = none := by
    simp [World.entries, empty]
  have submitted : attempt.status ≠ .claimed :=
    not_claimed_of_idle executors durable absent run idle entry
  have unresolved : attempt.status = .submitted ∨ attempt.status = .unknown := by
    cases status : attempt.status <;> simp_all [SqlAlchemyIdempotencyStore.isFinal]
  refine ⟨?_, ?_⟩
  · obtain status | status := unresolved <;> simp [unknownKeys, stored, status]
  · intro i events final residual steps done undisturbed
    obtain disturbed | settled | ⟨found, begins, unlisted⟩ :=
      (resolves_reconcileUnknown (durable i)).ended steps done
    · obtain ⟨event, member, unhandled⟩ := disturbed
      rw [undisturbed event member] at unhandled
      cases unhandled
    · exact .inl (final_of_settled steps ⟨_, entry, submitted⟩ undisturbed (.inl settled))
    · -- the row that the call began with is the stored one, and it can be read
      obtain ⟨middle, selects⟩ := steps.first_step begins
      have read : found = some attempt := by
        cases selects with
        | committed answered =>
          cases answered
          exact stored
      have readable : RowsReadable pool.shared := rowsReadable_of_run empty run.run
      obtain ⟨record, decoded⟩ :=
        record_of_parsed attempt (readable key attempt stored)
      exact .inr ⟨record, decoded, unlisted attempt record read decoded unresolved⟩

theorem attempts_recovered_demo :
    ∃ attempt, replyLost.2.shared.world.attempts Demo.key = some attempt ∧
      SqlAlchemyIdempotencyStore.isFinal attempt.status = false ∧
      unknownKeys replyLost.2.shared.world.attempts Demo.key = true := by
  obtain ⟨statuses, meets, ended⟩ :
      (replyLost.2.shared.world.attempts Demo.key).map (·.status) = some .unknown ∧
      Pool.ScheduleMeets ClaimUndisturbed Deployment.world Demo.quiet.responder
        (fun _ : Unit => (Demo.executor .sqlAlchemy).call) [] (Pool.idle (Demo.deployment [.timeoutAfterAccept]))
        (.start () (.execute Demo.command) :: List.replicate 40 (.step ())) ∧
      (replyLost.2.threads ()).isNone = true := by
    decide +kernel
  obtain ⟨attempt, stored, status⟩ := Option.map_eq_some_iff.mp statuses
  have unfinished : SqlAlchemyIdempotencyStore.isFinal attempt.status = false := by
    rw [status]
    rfl
  have run : Pool.RunWhen ClaimUndisturbed world _ _ replyLost.1
      (replyLost.2.view Deployment.world) :=
    Pool.RunWhen.schedule Demo.quiet.respond_within .nil meets
  have recovered := attempts_recovered (fun _ : Unit => Demo.executor .sqlAlchemy) (fun _ => rfl)
    (fun _ => rfl) run (fun _ => Option.isNone_iff_eq_none.mp ended) stored unfinished
  exact ⟨attempt, stored, unfinished, recovered.1⟩

def Demo.claimLost : List CallLabel × Pool Port PyError ExecutionOutcome Deployment Unit :=
  Pool.schedule quiet.responder (fun _ : Unit => (executor .sqlAlchemy).call) (Pool.idle deployment)
    (.start () (.execute command) :: List.replicate 16 (.step ()) ++ [.crash ()])

/-- The row stays `CLAIMED`, and `unknown_keys` does not select it. -/
theorem claim_orphaned :
    ∃ labels pool attempt,
      Pool.Run world (fun _ : Unit => (Demo.executor .sqlAlchemy).call) (Pool.idle Demo.deployment.world)
        labels pool ∧
      (∀ i, pool.threads i = none) ∧ pool.shared.attempts Demo.key = some attempt ∧
      SqlAlchemyIdempotencyStore.isFinal attempt.status = false ∧
      unknownKeys pool.shared.attempts Demo.key = false := by
  have run := Demo.quiet.run (fun _ : Unit => (Demo.executor .sqlAlchemy).call) Demo.deployment
    (.start () (.execute Demo.command) :: List.replicate 16 (.step ()) ++ [.crash ()])
  obtain ⟨statuses, ended⟩ : (claimLost.2.shared.world.attempts Demo.key).map (·.status) = some .claimed ∧
      (claimLost.2.threads ()).isNone = true := by
    decide +kernel
  obtain ⟨attempt, stored, status⟩ := Option.map_eq_some_iff.mp statuses
  refine ⟨_, _, attempt, run, fun _ => Option.isNone_iff_eq_none.mp ended, stored, ?_, ?_⟩
  · rw [status]
    rfl
  · show unknownKeys claimLost.2.shared.world.attempts Demo.key = false
    simp [unknownKeys, stored, status]

end GoldFlow
