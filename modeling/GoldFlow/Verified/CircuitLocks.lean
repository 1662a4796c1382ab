import GoldFlow.Deployment
import GoldFlow.Verified.CircuitLog

/-! # Circuit locks over whole runs

The account locks are kept by every save but the last one of a reset.
-/

namespace GoldFlow

open Effect Effect.Versioned CircuitCall

variable {ι : Type} [DecidableEq ι]

namespace Demo

def breaker : CircuitBreaker := .ofLimits limits

def heavyUsage : RiskUsage where
  dailyRealizedLoss := 100
  weeklyRealizedLoss := 100
  peakEquity := some 1250
  daily_nonneg := by norm_num
  weekly_nonneg := by norm_num
  open_nonneg := noUsage.open_nonneg
  peak_pos := by
    rintro _ ⟨⟩
    norm_num

def lockCall : CircuitCall :=
  { breaker, action := .evaluate (MockBroker.goldDemo now).account heavyUsage now }

def killCall : CircuitCall := { breaker, action := .activateKillSwitch "demo-1" (now + seconds 60) }

def staleCall : CircuitCall := { breaker, action := .get "demo-1" (now - seconds 86400) }

def circuitRun (turns : List (Turn Bool CircuitCall)) :
    List (CircuitLabel Bool) × Pool Port PyError CircuitState CircuitStates Bool :=
  Pool.schedule circuitResponder (fun _ call => call.program) (Pool.idle fun _ => none) turns

def inTurn (first second : CircuitCall) : List (Turn Bool CircuitCall) :=
  [.start true first] ++ List.replicate 4 (.step true) ++ [.start false second] ++
    List.replicate 4 (.step false)

theorem circuitRun_run (turns : List (Turn Bool CircuitCall)) :
    Pool.Run circuitStore (fun (_ : Bool) (call : CircuitCall) => call.program) (Pool.idle fun _ => none)
      (circuitRun turns).1 (circuitRun turns).2 :=
  Pool.run_schedule circuitResponder_within (Pool.idle fun _ => none) turns

end Demo

open Demo

/-! ## Account locks -/

inductive AccountLock where
  | accountLocked
  | manualReenableRequired
  | killSwitch
  deriving DecidableEq

namespace AccountLock

def held (lock : AccountLock) (state : CircuitState) : Bool :=
  match lock with
  | .accountLocked => state.accountLocked
  | .manualReenableRequired => state.manualReenableRequired
  | .killSwitch => state.killSwitch

def releasedBy (lock : AccountLock) (save : CircuitSave) : Bool :=
  match save.call.action with
  | .manualReset _ _ authorized clearKillSwitch =>
    save.completes && authorized && (lock ≠ .killSwitch || clearKillSwitch)
  | _ => false

theorem held_stores (lock : AccountLock) (call : CircuitCall) (rolled : Bool) {state : CircuitState}
    (authorized : call.authorized = true) (locked : lock.held state = true)
    (kept : ∀ accountId now permitted clearKillSwitch, call.completes rolled (some state) = true →
      call.action = .manualReset accountId now permitted clearKillSwitch → permitted = true →
      lock = .killSwitch ∧ clearKillSwitch = false) :
    lock.held (call.stores rolled (some state)) = true := by
  by_cases completing : call.completes rolled (some state) = true
  · simp only [stores, completing]
    obtain ⟨breaker, action⟩ := call
    cases action with
    | get => exact locked
    | evaluate =>
      cases lock <;> simp_all [updated, CircuitBreaker.evaluated, held]
    | activateKillSwitch => cases lock <;> simp_all [updated, held]
    | manualReset accountId now permitted clearKillSwitch =>
      obtain ⟨rfl, rfl⟩ := kept accountId now permitted clearKillSwitch completing rfl authorized
      exact locked
  · -- the rollover changes no account lock
    cases lock <;> simp_all [stores, CircuitBreaker.rolledOver, held]

theorem held_of_follows (lock : AccountLock) {before after : Option CircuitState} {save : CircuitSave}
    (follows : save.Follows before after) (locked : ∃ state, before = some state ∧ lock.held state = true)
    (kept : lock.releasedBy save = false) : ∃ state, after = some state ∧ lock.held state = true := by
  obtain ⟨state, rfl, locked⟩ := locked
  refine ⟨save.saved, follows.after, ?_⟩
  have same : lock.held save.saved = lock.held (save.call.stores save.rolled (some state)) := by
    rw [follows.saved]
    cases lock <;> rfl
  rw [same]
  apply lock.held_stores save.call save.rolled follows.authorized locked
  intro accountId now permitted clearKillSwitch completing reset permission
  simpa [releasedBy, reset, CircuitSave.completes, follows.seen, completing, permission] using kept

end AccountLock

/-- **Account locks are kept and no save is lost.** The successful saves on an account form a log, and a saved
lock stays until an authorized reset. -/
theorem account_locks_kept {labels : List (CircuitLabel ι)}
    {final : Pool Port PyError CircuitState CircuitStates ι}
    (run : Pool.Run circuitStore (fun _ (call : CircuitCall) => call.program) (Pool.idle fun _ => none)
      labels final) (accountId : String) :
    (circuitSaves accountId labels).map (·.saved) = savedStates accountId (eventsOf labels) ∧
      Log CircuitSave.Follows none (circuitSaves accountId labels) (final.shared accountId) ∧
      ∀ (lock : AccountLock) earlier first between last rest,
        circuitSaves accountId labels = earlier ++ first :: (between ++ last :: rest) →
        lock.held first.saved = true → (∀ save ∈ between ++ [last], lock.releasedBy save = false) →
        lock.held last.saved = true := by
  have kept : CircuitKept (fun _ _ => True) labels final.shared := by
    apply circuitKept_of_run (fun _ _ _ _ => trivial)
    exact run.unguarded.mono fun labels states label _ => loadsTimely_true labels states label
  have log := (kept.log accountId).mono fun _ _ _ follows => follows.1
  refine ⟨kept.complete accountId, log, ?_⟩
  intro lock earlier first between last rest whole locked unreleased
  obtain ⟨before, after, follows, state, stored, held⟩ :=
    log.keeps_until (fun value => ∃ state, value = some state ∧ lock.held state = true)
      (fun save => ¬ lock.releasedBy save = false)
      (fun _ _ _ follows held kept => lock.held_of_follows follows held (not_not.mp kept)) whole
      (fun _ _ follows => ⟨first.saved, follows.after, locked⟩)
      (fun save member => not_not.mpr (unreleased save member))
  rw [follows.after] at stored
  cases stored
  exact held

/-- The account is locked, and the activation of the kill switch keeps it locked. -/
theorem account_locks_kept_demo :
    ∃ first last, circuitSaves "demo-1" (circuitRun (inTurn lockCall killCall)).1 =
        [first, last] ∧
      AccountLock.accountLocked.held first.saved = true ∧ AccountLock.accountLocked.held last.saved = true := by
  have saves : (circuitSaves "demo-1" (circuitRun (inTurn lockCall killCall)).1).map
      (fun save => (save.saved.accountLocked, AccountLock.accountLocked.releasedBy save)) =
      [(true, false), (true, false)] := by decide +kernel
  obtain ⟨first, _, whole, firstEq, rest⟩ := List.map_eq_cons_iff.mp saves
  obtain ⟨last, _, rfl, lastEq, rest⟩ := List.map_eq_cons_iff.mp rest
  obtain rfl := List.map_eq_nil_iff.mp rest
  have locked : AccountLock.accountLocked.held first.saved = true := congrArg Prod.fst firstEq
  obtain ⟨_, _, kept⟩ := account_locks_kept (circuitRun_run (inTurn lockCall killCall)) "demo-1"
  refine ⟨first, last, whole, locked, kept .accountLocked [] first [] last [] whole locked ?_⟩
  intro save member
  obtain rfl : save = last := by simpa using member
  exact congrArg Prod.snd lastEq

/-! ## Period locks -/

inductive PeriodLock where
  | daily
  | weekly
  deriving DecidableEq

namespace PeriodLock

variable (lock : PeriodLock)

def held (state : CircuitState) : Bool :=
  match lock with
  | .daily => state.dailyLocked
  | .weekly => state.weeklyLocked

def period (state : CircuitState) : Int :=
  match lock with
  | .daily => state.day
  | .weekly => state.weekStart

def periodOf (call : CircuitCall) : Int :=
  match lock with
  | .daily => (call.breaker.periodKeys call.now).1
  | .weekly => (call.breaker.periodKeys call.now).2

end PeriodLock

def CircuitSave.completesReset (save : CircuitSave) : Bool :=
  match save.call.action with
  | .manualReset _ _ _ _ => save.completes
  | _ => false

def NotBackdated (call : CircuitCall) (state : CircuitState) : Prop :=
  ∀ lock : PeriodLock, lock.period state ≤ lock.periodOf call

instance NotBackdated.decidable (call : CircuitCall) (state : CircuitState) :
    Decidable (NotBackdated call state) :=
  decidable_of_iff
    (PeriodLock.daily.period state ≤ PeriodLock.daily.periodOf call ∧
      PeriodLock.weekly.period state ≤ PeriodLock.weekly.periodOf call)
    ⟨fun both lock => by cases lock with
      | daily => exact both.1
      | weekly => exact both.2,
    fun every => ⟨every .daily, every .weekly⟩⟩

namespace PeriodLock

variable (lock : PeriodLock) (call : CircuitCall) (rolled : Bool) {state : CircuitState}

theorem period_updated (state : CircuitState) : lock.period (call.updated state) = lock.period state := by
  simp only [updated]
  cases lock <;> split <;> rfl

theorem period_stores (seen : Option CircuitState) :
    lock.period (call.stores rolled seen) =
      if call.completes rolled seen then (seen.map lock.period).getD (lock.periodOf call)
      else lock.periodOf call := by
  simp only [stores]
  split
  · rw [period_updated]
    cases seen with
    | none => cases lock <;> rfl
    | some => rfl
  · cases lock <;> rfl

theorem held_updated (locked : lock.held state = true)
    (kept : ∀ accountId now authorized clearKillSwitch,
      call.action ≠ .manualReset accountId now authorized clearKillSwitch) :
    lock.held (call.updated state) = true := by
  obtain ⟨breaker, action⟩ := call
  cases action with
  | get => exact locked
  | evaluate =>
    cases lock <;> simp_all [updated, CircuitBreaker.evaluated, held]
  | activateKillSwitch => cases lock <;> exact locked
  | manualReset => exact absurd rfl (kept _ _ _ _)

theorem held_rolledOver (locked : lock.held state = true) (same : lock.period state = lock.periodOf call) :
    lock.held (call.breaker.rolledOver state call.now) = true := by
  cases lock with
  | daily => simpa [held, CircuitBreaker.rolledOver] using ⟨locked, same⟩
  | weekly => simpa [held, CircuitBreaker.rolledOver] using ⟨locked, same⟩

end PeriodLock

theorem notBackdated_stable (call : CircuitCall) (rolled : Bool) (seen : Option CircuitState)
    (timely : ∀ state ∈ seen, NotBackdated call state) : NotBackdated call (CircuitKept.next call rolled seen) := by
  intro lock
  have same : lock.period (CircuitKept.next call rolled seen) = lock.period (call.stores rolled seen) := by
    cases lock <;> rfl
  rw [same, lock.period_stores]
  split
  · cases seen with
    | none => exact le_refl _
    | some state => exact timely state rfl lock
  · exact le_refl _

/-- The state is locked in the period `since` or in a later one. -/
def PeriodLock.LockedSince (lock : PeriodLock) (since : Int) (stored : Option CircuitState) : Prop :=
  ∃ state, stored = some state ∧ lock.held state = true ∧ since ≤ lock.period state

theorem PeriodLock.lockedSince_of_follows (lock : PeriodLock) {since : Int}
    {before after : Option CircuitState} {save : CircuitSave}
    (follows : FollowsTimely NotBackdated before save after) (locked : lock.LockedSince since before)
    (kept : ¬ (since < lock.period save.saved ∨ save.completesReset = true)) : lock.LockedSince since after := by
  obtain ⟨state, rfl, held, begun⟩ := locked
  obtain ⟨follows, timely⟩ := follows
  rw [not_or, not_lt] at kept
  have forward : lock.period state ≤ lock.periodOf save.call := timely state rfl lock
  have samePeriod : lock.period save.saved = lock.period (save.call.stores save.rolled (some state)) := by
    rw [follows.saved]
    cases lock <;> rfl
  have sameLock : lock.held save.saved = lock.held (save.call.stores save.rolled (some state)) := by
    rw [follows.saved]
    cases lock <;> rfl
  have stored := lock.period_stores save.call save.rolled (some state)
  refine ⟨save.saved, follows.after, ?_, ?_⟩
  · rw [sameLock]
    by_cases completing : save.call.completes save.rolled (some state) = true
    · simp only [stores, completing]
      apply lock.held_updated save.call held
      intro accountId now authorized clearKillSwitch reset
      apply kept.2
      simp [CircuitSave.completesReset, reset, CircuitSave.completes, follows.seen, completing]
    · -- not later than `since` and not earlier than the state, so the rollover is in the period
      simp only [completing] at stored
      simp only [stores, completing]
      apply lock.held_rolledOver save.call held
      have bound := kept.1
      rw [samePeriod, stored] at bound
      simp only [Bool.false_eq_true, if_false] at bound
      omega
  · rw [samePeriod, stored]
    split
    · exact begun
    · exact le_trans begun forward

/-- **Period locks are kept in their period** if no operation loads a state later than its own time. -/
theorem period_locks_kept {labels : List (CircuitLabel ι)}
    {final : Pool Port PyError CircuitState CircuitStates ι}
    (run : Pool.RunWhen (LoadsTimely NotBackdated) circuitStore (fun _ (call : CircuitCall) => call.program)
      (Pool.idle fun _ => none) labels final) (accountId : String) (lock : PeriodLock)
    {earlier between rest : List CircuitSave} {first last : CircuitSave}
    (whole : circuitSaves accountId labels = earlier ++ first :: (between ++ last :: rest))
    (locked : lock.held first.saved = true)
    (unreleased : ∀ save ∈ between ++ [last],
      ¬ (lock.period first.saved < lock.period save.saved ∨ save.completesReset = true)) :
    lock.held last.saved = true := by
  have log := (circuitKept_of_run notBackdated_stable run).log accountId
  obtain ⟨before, after, follows, state, stored, held, _⟩ :=
    log.keeps_until (lock.LockedSince (lock.period first.saved))
      (fun save => lock.period first.saved < lock.period save.saved ∨ save.completesReset = true)
      (fun _ _ _ follows held kept => lock.lockedSince_of_follows follows held kept) whole
      (fun _ _ follows => ⟨first.saved, follows.1.after, locked, le_refl _⟩) unreleased
  rw [follows.1.after] at stored
  cases stored
  exact held

/-- Two operations on the same day. -/
theorem period_locks_kept_demo :
    ∃ first last, circuitSaves "demo-1" (circuitRun (inTurn lockCall killCall)).1 =
        [first, last] ∧
      PeriodLock.daily.held first.saved = true ∧ PeriodLock.daily.held last.saved = true := by
  have meets : Pool.ScheduleMeets (LoadsTimely NotBackdated) id circuitResponder
      (fun _ (call : CircuitCall) => call.program) [] (Pool.idle fun _ => none)
      (inTurn lockCall killCall) := by decide +kernel
  have run : Pool.RunWhen (LoadsTimely NotBackdated) circuitStore (fun _ (call : CircuitCall) => call.program)
      (Pool.idle fun _ => none) (circuitRun (inTurn lockCall killCall)).1
      (circuitRun (inTurn lockCall killCall)).2 :=
    Pool.RunWhen.schedule circuitResponder_within .nil meets
  have saves : (circuitSaves "demo-1" (circuitRun (inTurn lockCall killCall)).1).map
      (fun save => (save.saved.dailyLocked, save.saved.day, save.completesReset)) =
      [(true, 20454, false), (true, 20454, false)] := by decide +kernel
  obtain ⟨first, _, whole, firstEq, rest⟩ := List.map_eq_cons_iff.mp saves
  obtain ⟨last, _, rfl, lastEq, rest⟩ := List.map_eq_cons_iff.mp rest
  obtain rfl := List.map_eq_nil_iff.mp rest
  simp only [Prod.mk.injEq] at firstEq lastEq
  have split : circuitSaves "demo-1" (circuitRun (inTurn lockCall killCall)).1 =
      [] ++ first :: ([] ++ last :: []) := whole
  refine ⟨first, last, whole, firstEq.1, period_locks_kept run "demo-1" .daily split firstEq.1 ?_⟩
  intro save member
  obtain rfl : save = last := by simpa using member
  simp [PeriodLock.period, firstEq.2.1, lastEq.2.1, lastEq.2.2]

/-- A `get` with a time of the day before clears the daily lock. -/
theorem daily_lock_rolled_back :
    ∃ labels final first last,
      Pool.Run circuitStore (fun (_ : Bool) (call : CircuitCall) => call.program) (Pool.idle fun _ => none)
        labels final ∧
      circuitSaves "demo-1" labels = [first, last] ∧ first.saved.dailyLocked = true ∧
      last.saved.dailyLocked = false ∧ last.saved.day < first.saved.day ∧ last.completesReset = false := by
  have saves : (circuitSaves "demo-1" (circuitRun (inTurn lockCall staleCall)).1).map
      (fun save => (save.saved.dailyLocked, save.saved.day, save.completesReset)) =
      [(true, 20454, false), (false, 20453, false)] := by decide +kernel
  obtain ⟨first, _, whole, firstEq, rest⟩ := List.map_eq_cons_iff.mp saves
  obtain ⟨last, _, rfl, lastEq, rest⟩ := List.map_eq_cons_iff.mp rest
  obtain rfl := List.map_eq_nil_iff.mp rest
  simp only [Prod.mk.injEq] at firstEq lastEq
  refine ⟨_, _, first, last, circuitRun_run _, whole, firstEq.1, lastEq.1, ?_, lastEq.2.2⟩
  rw [firstEq.2.1, lastEq.2.1]
  decide

end GoldFlow
