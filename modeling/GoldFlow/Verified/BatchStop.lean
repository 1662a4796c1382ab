import GoldFlow.Verified.ControlRuns

/-! # The kill switch and the running batch

`execute_signals` reads the runtime state once and then works through its candidates.
-/

namespace GoldFlow

open Effect

/-- `POST /admin/kill-switch` with `enabled=true`. -/
def ControlCall.isActivation : ControlCall → Bool
  | .killSwitch enabled _ => enabled
  | .changeMode _ | .resetCircuitBreaker | .latchDrawdownDisable | .executeSignals => false

def Spent (watched : ControlCall × ControlView) : Bool :=
  watched.1 != .executeSignals || watched.2.held.all (·.killSwitch) || watched.2.left == some 0

variable {ι : Type} [DecidableEq ι] {labels : List (ControlLabel ι)}

def OnlyBatchesAndActivations (labels : List (ControlLabel ι)) : Prop :=
  ∀ thread call, Label.start thread call ∈ labels → call = .executeSignals ∨ call.isActivation = true

omit [DecidableEq ι] in
theorem OnlyBatchesAndActivations.before {labels later : List (ControlLabel ι)}
    (calls : OnlyBatchesAndActivations (labels ++ later)) : OnlyBatchesAndActivations labels :=
  fun thread call started => calls thread call (List.mem_append_left _ started)

structure TurnClock (ι : Type) where
  activated : Bool
  late : ι → Bool

def TurnClock.tick (watched : ι → Option (ControlCall × ControlView)) (clock : TurnClock ι) :
    ControlLabel ι → TurnClock ι
  | .event thread event =>
    { activated := clock.activated ||
        ((committed event).isSome && (watched thread).any (·.1.isActivation))
      late := if beginsTurn event then Function.update clock.late thread clock.activated else clock.late }
  | .start thread _ => { clock with late := Function.update clock.late thread false }
  | .finish _ _ | .crash _ => clock

def turnClock (labels : List (ControlLabel ι)) : TurnClock ι :=
  ghostOf TurnClock.tick { activated := false, late := fun _ => false } labels

def lateTurn (labels : List (ControlLabel ι)) (thread : ι) : Bool := (turnClock labels).late thread

def BatchesSpent (labels : List (ControlLabel ι)) (_ : World) : ControlLabel ι → Prop
  | .event thread event =>
    (committed event).isSome = true → (watching labels thread).any (·.1.isActivation) = true →
      ∀ other, (watching labels other).all Spent = true
  | _ => True

instance [Fintype ι] (labels : List (ControlLabel ι)) (state : World) :
    (label : ControlLabel ι) → Decidable (BatchesSpent labels state label)
  | .event _ _ => inferInstanceAs (Decidable (_ → _ → ∀ _, _))
  | .start _ _ | .finish _ _ | .crash _ => .isTrue trivial

/-- One running call: an activation holds an active switch, and after an activation a batch is spent. -/
structure InStep (activated : Bool) (state : World) (watched : ControlCall × ControlView) : Prop where
  call : watched.1 = .executeSignals ∨ watched.1.isActivation = true
  switched : watched.2.switched = true → state.controls.killSwitch = true
  holds : watched.1.isActivation = true → watched.2.held.all (·.killSwitch) = true
  spent : activated = true → Spent watched = true

structure BatchStopped (labels : List (ControlLabel ι)) (state : World) : Prop where
  running : ∀ thread watched, watching labels thread = some watched →
    InStep (turnClock labels).activated state watched
  stored : (turnClock labels).activated = true → (activeFlags state.runtime).killSwitch = true
  punctual : ∀ thread, lateTurn labels thread = false

namespace BatchStopped

variable {labels : List (ControlLabel ι)} {state after : World} {thread : ι} {call : ControlCall}
  {view next : ControlView} {event : PortEvent}

theorem of_move (before : BatchStopped labels state)
    (watched : watching (labels ++ [.event thread event]) =
      Function.update (watching labels) thread (some (call, next)))
    (own : InStep (turnClock (labels ++ [.event thread event])).activated after (call, next))
    (others : ∀ other found, other ≠ thread → watching labels other = some found →
      InStep (turnClock labels).activated state found →
      InStep (turnClock (labels ++ [.event thread event])).activated after found)
    (stored : (turnClock (labels ++ [.event thread event])).activated = true →
      (activeFlags after.runtime).killSwitch = true)
    (punctual : beginsTurn event = true → (turnClock labels).activated = false) :
    BatchStopped (labels ++ [.event thread event]) after := by
  constructor
  · intro other found running
    rw [watched, update_eq_some] at running
    obtain ⟨_, ⟨⟩⟩ | ⟨different, running⟩ := running
    · exact own
    · exact others other found different running (before.running other found running)
  · exact stored
  · intro other
    have earlier := before.punctual other
    simp only [lateTurn, turnClock, ghostOf_snoc, TurnClock.tick] at earlier ⊢
    by_cases begins : beginsTurn event = true
    · rw [if_pos begins]
      by_cases same : other = thread
      · subst same
        rw [Function.update_self]
        exact punctual begins
      · rw [Function.update_of_ne same]
        exact earlier
    · rw [if_neg begins]
      exact earlier

theorem activated_of_uncommitted (uncommitted : committed event = none) :
    (turnClock (labels ++ [.event thread event])).activated = (turnClock labels).activated := by
  simp [turnClock, TurnClock.tick, uncommitted]

theorem of_uncommitted (before : BatchStopped labels state)
    (watched : watching (labels ++ [.event thread event]) =
      Function.update (watching labels) thread (some (call, next)))
    (uncommitted : committed event = none) (runtime : after.runtime = state.runtime)
    (copy : state.controls.killSwitch = true → after.controls.killSwitch = true)
    (own : InStep (turnClock labels).activated after (call, next))
    (punctual : beginsTurn event = true → (turnClock labels).activated = false) :
    BatchStopped (labels ++ [.event thread event]) after := by
  apply before.of_move watched _ _ _ punctual
  · rw [activated_of_uncommitted uncommitted]
    exact own
  · intro other found _ _ known
    rw [activated_of_uncommitted uncommitted]
    exact { known with switched := fun changed => copy (known.switched changed) }
  · rw [activated_of_uncommitted uncommitted, runtime]
    exact before.stored

theorem not_activated_of_running (known : InStep (turnClock labels).activated state (call, view))
    (batch : call = .executeSignals) (running : view.Running) (left : view.left ≠ some 0) :
    (turnClock labels).activated = false := by
  obtain ⟨held, holds, inactive⟩ := running
  by_contra activated
  have spent := known.spent (by simpa using activated)
  simp [Spent, batch, holds, inactive, left] at spent

/-- **One move keeps the batches stopped.** -/
theorem moved (before : BatchStopped labels state) (running : watching labels thread = some (call, view))
    (guarded : BatchesSpent labels state (.event thread event)) (move : ControlMove call view state event after next)
    (watched : watching (labels ++ [.event thread event]) =
      Function.update (watching labels) thread (some (call, next))) :
    BatchStopped (labels ++ [.event thread event]) after := by
  have known := before.running thread (call, view) running
  -- a request that begins no turn cannot be late
  have noTurn : beginsTurn event = false → beginsTurn event = true →
      (turnClock labels).activated = false := by
    intro between begins
    rw [between] at begins
    cases begins
  cases move with
  | read worker =>
    have batch : call = .executeSignals := by
      rcases known.call with batch | activation
      · exact batch
      · cases call <;> cases worker <;> cases activation
    subst batch
    apply before.of_uncommitted watched rfl rfl id _ (noTurn rfl)
    exact
      { known with
        holds := fun activation => by cases activation
        spent := fun activated => by simp [Spent, before.stored activated] }
  | copy api switched =>
    have activation : call.isActivation = true := by
      rcases known.call with rfl | activation
      · cases api
      · exact activation
    have changed : view.switched = true := by
      cases call with
      | killSwitch enabled reason => exact switched enabled reason rfl
      | _ => cases activation
    have active : state.controls.killSwitch = true := known.switched changed
    apply before.of_uncommitted watched rfl rfl id _ (noTurn rfl)
    exact
      { known with
        holds := fun _ => by simp [ControlSnapshot.flags, active]
        spent := fun _ => by simp [Spent, ControlSnapshot.flags, active] }
  | @commit payload held writer holds rewrites =>
    have activation : call.isActivation = true := known.call.resolve_left writer
    have spent := guarded rfl (by simp [running, activation])
    have written : payload.killSwitch = true := by
      rw [rewrites.killSwitch]
      simpa [holds] using known.holds activation
    apply before.of_move watched _ _ _ (noTurn rfl)
    · exact
        { known with
          holds := fun _ => rfl
          spent := fun _ => by simp [Spent] }
    · intro other found _ watches earlier
      have done := spent other
      rw [watches] at done
      exact { earlier with spent := fun _ => done }
    · exact fun _ => written
  | @switch enabled reason now answer asked =>
    have activation : call.isActivation = true := by
      rcases known.call with batch | activation
      · rw [asked] at batch
        cases batch
      · exact activation
    have active : enabled = true := by
      rw [asked] at activation
      exact activation
    refine before.of_uncommitted watched rfl rfl (fun _ => active) ?_ (noTurn rfl)
    exact { known with switched := fun _ => active }
  | plan batch first runs =>
    have early := not_activated_of_running known batch runs (by simp [first])
    apply before.of_uncommitted watched rfl rfl id _ (noTurn rfl)
    exact { known with spent := fun activated => by rw [early] at activated; cases activated }
  | turn batch runs begins =>
    have early := not_activated_of_running known batch runs (by simp [begins])
    apply before.of_uncommitted watched rfl rfl id _ (fun _ => early)
    exact { known with spent := fun activated => by rw [early] at activated; cases activated }
  | aside uncommitted between runtime killSwitch drops =>
    apply before.of_uncommitted watched uncommitted runtime (by rw [killSwitch]; exact id) _ (noTurn between)
    rcases drops with rfl | rfl
    · exact { known with switched := fun changed => killSwitch.trans (known.switched changed) }
    · exact
        { call := known.call
          switched := fun changed => killSwitch.trans (known.switched changed)
          holds := fun _ => rfl
          spent := fun _ => by simp [Spent] }

theorem between (before : BatchStopped labels state) {label : ControlLabel ι}
    {started : Option (ControlCall × ControlView)}
    (same : (turnClock (labels ++ [label])).activated = (turnClock labels).activated)
    (watched : watching (labels ++ [label]) = Function.update (watching labels) thread started)
    (fresh : ∀ found, started = some found → (found.1 = .executeSignals ∨ found.1.isActivation = true) ∧ found.2 = {})
    (punctual : ∀ other, lateTurn (labels ++ [label]) other = true → lateTurn labels other = true) :
    BatchStopped (labels ++ [label]) state := by
  constructor
  · rw [same]
    intro other found running
    rw [watched, update_eq_some] at running
    obtain ⟨_, running⟩ | ⟨_, running⟩ := running
    · obtain ⟨call, view⟩ := fresh found running
      constructor
      · exact call
      · simp [view]
      · simp [view]
      · simp [Spent, view]
    · exact before.running other found running
  · rw [same]
    exact before.stored
  · intro other
    by_contra late
    have earlier := punctual other (by simpa using late)
    rw [before.punctual other] at earlier
    cases earlier

end BatchStopped

/-- **A kill switch stops the running batch** if the batches are spent when it commits. -/
theorem kill_switch_stops_batch (plane : ControlPlane) {state : World}
    {labels : List (ControlLabel ι)} {pool : Pool Port PyError Unit World ι}
    (run : Pool.RunWhen BatchesSpent world (fun _ => plane.call) (Pool.idle state) labels pool)
    (calls : OnlyBatchesAndActivations labels) :
    ∀ earlier thread (event : PortEvent), earlier ++ [Label.event thread event] <+: labels →
      event.1.isSend = true → lateTurn earlier thread = false := by
  rintro earlier thread event ⟨later, rfl⟩ _
  rw [List.append_assoc] at run calls
  obtain ⟨middle, begun⟩ := run.upTo rfl
  have stopped : OnlyBatchesAndActivations earlier → BatchStopped earlier middle.shared := by
    apply plane.invariant begun fun labels state => OnlyBatchesAndActivations labels →
      BatchStopped labels state
    case initial =>
      intro _
      constructor
      · simp
      · intro never
        cases never
      · exact fun _ => rfl
    case started =>
      intro labels state thread call before _ calls
      have began := calls thread call (by simp)
      apply (before (calls.before)).between _ (watching_start ..)
      · rintro _ ⟨⟩
        exact ⟨began, rfl⟩
      · intro other
        simp only [lateTurn, turnClock, ghostOf_snoc, TurnClock.tick]
        by_cases own : other = thread
        · simp [own]
        · simp [own]
      · simp [turnClock, TurnClock.tick]
    case moved =>
      intro labels state thread call view event after next before running guarded move watched calls
      exact (before calls.before).moved running guarded move watched
    case finished =>
      intro labels state thread result before calls
      apply (before calls.before).between _ (watching_finish ..) (by simp)
      · simp [lateTurn, turnClock, TurnClock.tick]
      · simp [turnClock, TurnClock.tick]
    case crashed =>
      intro labels state thread before calls
      apply (before calls.before).between _ (watching_crash ..) (by simp)
      · simp [lateTurn, turnClock, TurnClock.tick]
      · simp [turnClock, TurnClock.tick]
  -- no turn at all begins late, so none of them sends
  exact (stopped calls.before).punctual thread

namespace Demo

def trading : Script where
  circuit := quiet.circuit
  journal
    | .drainExecutionHints => .ok ()
    | .expireSignals _ => .ok 0
    | .riskLimits => .ok limits
    | .riskUsage _ => .ok noUsage
    | .executionCandidates _ _ => .ok [signal]
    | .demoPerformance _ => .ok none
    | .recordExecution _ _ _ => .ok ()
    | .demoValidationEvidence => .ok false
    | .unknownKeys => .ok []
    | .signalById _ => .ok none
    | .recordReconciliation _ _ => .ok ()
    | .openPositionPlans => .ok []
    | .managementValues => .ok ⟨false, 1 / 2, false, 1, false, 1⟩
    | .recordPositionAction _ _ _ _ _ _ _ => .ok ()
    | .position _ => .ok none
    | .markClosed _ => .ok ()
    | .setVolume _ _ => .ok ()
    | .audit _ => .ok ()
    | .publish _ => .ok ()
  now
  circuit_any := quiet.circuit_any
  journal_any op := by cases op <;> exact .value _

def batchRun (turns : List (Turn Bool ControlCall)) :
    List (ControlLabel Bool) × Pool Port PyError Unit Deployment Bool :=
  Pool.schedule trading.responder (fun _ => plane.call) (Pool.idle deployment) turns

def interrupted (first rest : Nat) : List (Turn Bool ControlCall) :=
  [.start false .executeSignals] ++ List.replicate first (.step false) ++
    [.start true (.killSwitch true "stop")] ++ List.replicate 8 (.step true) ++
    List.replicate rest (.step false)

end Demo

open Demo

def sentLast (labels : List (ControlLabel ι)) : Option ι :=
  match labels.getLast? with
  | some (.event thread event) => if Op.isSend event.1 then some thread else none
  | _ => none

omit [DecidableEq ι] in
theorem eq_of_sentLast {thread : ι} (sent : sentLast labels = some thread) :
    ∃ event : PortEvent, labels.dropLast ++ [.event thread event] = labels ∧ event.1.isSend = true := by
  unfold sentLast at sent
  split at sent
  next other event last =>
    split at sent
    next sends =>
      cases sent
      exact ⟨event, List.dropLast_append_getLast? _ last, sends⟩
    next => cases sent
  next => cases sent

def startsOnly (labels : List (ControlLabel ι)) : Bool :=
  labels.all fun
    | .start _ call => call == .executeSignals || call.isActivation
    | _ => true

omit [DecidableEq ι] in
theorem onlyBatches_of_startsOnly (starts : startsOnly labels = true) : OnlyBatchesAndActivations labels := by
  intro thread call started
  have checked := List.all_eq_true.mp starts _ started
  simpa using checked

theorem kill_switch_stops_batch_demo :
    ∃ (earlier : List (ControlLabel Bool)) (event : PortEvent),
      earlier ++ [.event false event] = (batchRun (interrupted 9 20)).1 ∧
      (turnClock earlier).activated = true ∧ event.1.isSend = true ∧ lateTurn earlier false = false := by
  obtain ⟨sent, activated, starts, meets⟩ : sentLast (batchRun (interrupted 9 20)).1 = some false ∧
      (turnClock (batchRun (interrupted 9 20)).1.dropLast).activated = true ∧
      startsOnly (batchRun (interrupted 9 20)).1 = true ∧
      Pool.ScheduleMeets BatchesSpent Deployment.world trading.responder (fun _ => plane.call) []
        (Pool.idle deployment) (interrupted 9 20) := by
    decide +kernel
  obtain ⟨event, whole, sends⟩ := eq_of_sentLast sent
  have run := Pool.RunWhen.schedule trading.respond_within .nil meets
  have punctual := kill_switch_stops_batch plane run (onlyBatches_of_startsOnly starts) _ false event
    ⟨[], (List.append_nil _).trans whole⟩ sends
  exact ⟨_, event, whole, activated, sends, punctual⟩

/-- The activation commits after the batch has read the runtime state; the next candidate is sent. -/
theorem kill_switch_missed_by_batch :
    ∃ labels pool event,
      Pool.Run world (fun _ : Bool => plane.call) (Pool.idle deployment.world)
        (labels ++ [.event false event]) pool ∧
      OnlyBatchesAndActivations labels ∧ event.1.isSend = true ∧ lateTurn labels false = true := by
  obtain ⟨sent, late, starts⟩ : sentLast (batchRun (interrupted 5 24)).1 = some false ∧
      lateTurn (batchRun (interrupted 5 24)).1.dropLast false = true ∧
      startsOnly (batchRun (interrupted 5 24)).1.dropLast = true := by
    decide +kernel
  obtain ⟨event, whole, sends⟩ := eq_of_sentLast sent
  have run := trading.run (fun _ : Bool => plane.call) deployment (interrupted 5 24)
  change Pool.Run world _ _ (batchRun (interrupted 5 24)).1 _ at run
  rw [← whole] at run
  exact ⟨_, _, event, run, onlyBatches_of_startsOnly starts, sends, late⟩

end GoldFlow
