import GoldFlow.Effect.Semantics
import Mathlib.Algebra.BigOperators.Group.Finset.Piecewise
import Mathlib.Data.Fintype.Basic

/-! # Interleaved programs

A `Pool` runs one program per thread over one shared environment.
-/

namespace GoldFlow.Effect

open Monitor

variable {S : Signature} {ε α σ τ ι C : Type}

theorem update_eq_some {κ β : Type} [DecidableEq κ] {entries : κ → Option β} {key other : κ} {entry : Option β}
    {value : β} : Function.update entries key entry other = some value ↔
      other = key ∧ entry = some value ∨ other ≠ key ∧ entries other = some value := by
  by_cases same : other = key <;> simp [same]

structure Pool (S : Signature) (ε α σ ι : Type) where
  shared : σ
  threads : ι → Option (Program S ε α)

inductive Label (S : Signature) (ε α ι C : Type) where
  | start (thread : ι) (call : C)
  | event (thread : ι) (event : Event S ε)
  | finish (thread : ι) (result : Except ε α)
  | crash (thread : ι)

/-- The request a label makes, if it makes one. -/
def Label.made? : Label S ε α ι C → Option (Event S ε)
  | .event _ made => some made
  | .start _ _ | .finish _ _ | .crash _ => none

/-- The requests of a run, in the order in which they were made. -/
def eventsOf (labels : List (Label S ε α ι C)) : List (Event S ε) :=
  labels.filterMap Label.made?

section Events

variable (labels : List (Label S ε α ι C)) (thread : ι)

@[simp] theorem eventsOf_nil : eventsOf ([] : List (Label S ε α ι C)) = [] := rfl

theorem eventsOf_append (later : List (Label S ε α ι C)) :
    eventsOf (labels ++ later) = eventsOf labels ++ eventsOf later :=
  List.filterMap_append

@[simp] theorem eventsOf_start (call : C) : eventsOf (labels ++ [.start thread call]) = eventsOf labels := by
  simp [eventsOf, Label.made?]

@[simp] theorem eventsOf_event (event : Event S ε) :
    eventsOf (labels ++ [.event thread event]) = eventsOf labels ++ [event] := by
  simp [eventsOf, Label.made?]

@[simp] theorem eventsOf_finish (result : Except ε α) :
    eventsOf (labels ++ [.finish thread result]) = eventsOf labels := by
  simp [eventsOf, Label.made?]

@[simp] theorem eventsOf_crash : eventsOf (labels ++ [.crash thread]) = eventsOf labels := by
  simp [eventsOf, Label.made?]

end Events

/-- No thread is running. -/
def Pool.idle (shared : σ) : Pool S ε α σ ι :=
  { shared := shared, threads := fun _ => none }

variable [DecidableEq ι] {env : Environment S ε σ}

inductive Pool.Step (env : Environment S ε σ) (body : ι → C → Program S ε α) :
    Pool S ε α σ ι → Label S ε α ι C → Pool S ε α σ ι → Prop
  | start {pool : Pool S ε α σ ι} {thread : ι} {call : C} :
      pool.threads thread = none →
      Pool.Step env body pool (.start thread call)
        { pool with threads := Function.update pool.threads thread (some (body thread call)) }
  | event {pool : Pool S ε α σ ι} {thread : ι} {op : S.Op}
      {next : Except ε (S.Value op) → Program S ε α} {reply : Except ε (S.Value op)}
      {after : σ} :
      pool.threads thread = some (.call op next) →
      env.step pool.shared ⟨op, reply⟩ after →
      Pool.Step env body pool (.event thread ⟨op, reply⟩)
        { shared := after
          threads := Function.update pool.threads thread (some (next reply)) }
  | returned {pool : Pool S ε α σ ι} {thread : ι} {value : α} :
      pool.threads thread = some (.pure value) →
      Pool.Step env body pool (.finish thread (.ok value))
        { pool with threads := Function.update pool.threads thread none }
  | raised {pool : Pool S ε α σ ι} {thread : ι} {error : ε} :
      pool.threads thread = some (.raise error) →
      Pool.Step env body pool (.finish thread (.error error))
        { pool with threads := Function.update pool.threads thread none }
  | crash {pool : Pool S ε α σ ι} {thread : ι} :
      Pool.Step env body pool (.crash thread)
        { pool with threads := Function.update pool.threads thread none }

inductive Pool.Run (env : Environment S ε σ) (body : ι → C → Program S ε α) :
    Pool S ε α σ ι → List (Label S ε α ι C) → Pool S ε α σ ι → Prop
  | nil {pool} : Pool.Run env body pool [] pool
  | snoc {pool middle final labels label} :
      Pool.Run env body pool labels middle → Pool.Step env body middle label final →
      Pool.Run env body pool (labels ++ [label]) final

/-- A run whose steps meet `guard`, which sees the labels so far and the shared state. -/
inductive Pool.RunWhen (guard : List (Label S ε α ι C) → σ → Label S ε α ι C → Prop)
    (env : Environment S ε σ) (body : ι → C → Program S ε α) :
    Pool S ε α σ ι → List (Label S ε α ι C) → Pool S ε α σ ι → Prop
  | nil {pool} : Pool.RunWhen guard env body pool [] pool
  | snoc {pool middle final labels label} :
      Pool.RunWhen guard env body pool labels middle → guard labels middle.shared label →
      Pool.Step env body middle label final →
      Pool.RunWhen guard env body pool (labels ++ [label]) final

section Guarded

variable {guard : List (Label S ε α ι C) → σ → Label S ε α ι C → Prop}
  {body : ι → C → Program S ε α} {pool final : Pool S ε α σ ι} {labels : List (Label S ε α ι C)}

theorem Pool.RunWhen.run (run : Pool.RunWhen guard env body pool labels final) :
    Pool.Run env body pool labels final := by
  induction run with
  | nil => exact .nil
  | snoc _ _ step ih => exact .snoc ih step

theorem Pool.RunWhen.mono {weaker : List (Label S ε α ι C) → σ → Label S ε α ι C → Prop}
    (run : Pool.RunWhen guard env body pool labels final)
    (implies : ∀ labels state label, guard labels state label → weaker labels state label) :
    Pool.RunWhen weaker env body pool labels final := by
  induction run with
  | nil => exact .nil
  | snoc _ guarded step ih =>
    exact .snoc ih (implies _ _ _ guarded) step

theorem Pool.RunWhen.append {guard : σ → Label S ε α ι C → Prop} {middle : Pool S ε α σ ι}
    {later : List (Label S ε α ι C)} (first : Pool.RunWhen (fun _ => guard) env body pool labels middle)
    (rest : Pool.RunWhen (fun _ => guard) env body middle later final) :
    Pool.RunWhen (fun _ => guard) env body pool (labels ++ later) final := by
  induction rest with
  | nil => simpa using first
  | snoc _ guarded last ih =>
    rw [← List.append_assoc]
    exact .snoc ih guarded last

theorem Pool.RunWhen.upTo {earlier later : List (Label S ε α ι C)}
    (run : Pool.RunWhen guard env body pool labels final) (whole : labels = earlier ++ later) :
    ∃ middle, Pool.RunWhen guard env body pool earlier middle := by
  induction run generalizing later with
  | nil =>
    obtain ⟨rfl, _⟩ := List.append_eq_nil_iff.mp whole.symm
    exact ⟨_, .nil⟩
  | @snoc middle final labels label run guarded step ih =>
    rcases List.eq_nil_or_concat later with rfl | ⟨rest, last, rfl⟩
    · rw [List.append_nil] at whole
      exact ⟨final, whole ▸ run.snoc guarded step⟩
    · rw [List.concat_eq_append, ← List.append_assoc] at whole
      obtain ⟨shorter, _⟩ := List.append_inj' whole rfl
      exact ih shorter

theorem Pool.Run.unguarded (run : Pool.Run env body pool labels final) :
    Pool.RunWhen (fun _ _ _ => True) env body pool labels final := by
  induction run with
  | nil => exact .nil
  | snoc _ step ih => exact .snoc ih trivial step

theorem Pool.RunWhen.along {permits : σ → Event S ε → Prop} {holds : σ → Prop} {made : Event S ε → Prop}
    (run : Pool.RunWhen (fun _ state label => ∀ event ∈ label.made?, permits state event) env body pool labels final)
    (kept : ∀ before event after, permits before event → env.step before event after → holds before →
      holds after ∧ made event)
    (initially : holds pool.shared) : holds final.shared ∧ ∀ event ∈ eventsOf labels, made event := by
  induction run with
  | nil => exact ⟨initially, by simp⟩
  | snoc _ guarded step ih =>
    obtain ⟨holding, earlier⟩ := ih
    cases step with
    | start => simpa using ⟨holding, earlier⟩
    | returned => simpa using ⟨holding, earlier⟩
    | raised => simpa using ⟨holding, earlier⟩
    | crash => simpa using ⟨holding, earlier⟩
    | event _ answered =>
      obtain ⟨next, last⟩ := kept _ _ _ (guarded _ rfl) answered holding
      refine ⟨next, fun event member => ?_⟩
      rw [eventsOf_event, List.mem_append, List.mem_singleton] at member
      rcases member with member | rfl
      · exact earlier event member
      · exact last

end Guarded

section Monitored

variable (monitor : Monitor S ε τ) (fresh : ι → C → τ)

/-- The monitor states of the running threads after one more label. -/
def Monitor.advance (tracked : ι → Option τ) :
    Label S ε α ι C → ι → Option τ
  | .start thread call => Function.update tracked thread (some (fresh thread call))
  | .event thread event =>
    Function.update tracked thread ((tracked thread).map (monitor.observe · event))
  | .finish thread _ => Function.update tracked thread none
  | .crash thread => Function.update tracked thread none

/-- The monitor states of the running threads; a thread is observed from the start of its call on. -/
def Monitor.track (initially : ι → Option τ) (labels : List (Label S ε α ι C)) : ι → Option τ :=
  labels.foldl (monitor.advance fresh) initially

section Track

variable (initially : ι → Option τ) (labels : List (Label S ε α ι C)) (thread : ι)

@[simp] theorem Monitor.track_nil :
    monitor.track fresh initially ([] : List (Label S ε α ι C)) = initially := rfl

@[simp] theorem Monitor.track_snoc (label : Label S ε α ι C) :
    monitor.track fresh initially (labels ++ [label]) =
      monitor.advance fresh (monitor.track fresh initially labels) label := by
  simp [track]

variable {monitor fresh initially labels thread}

theorem Monitor.track_event {observed : τ} {event : Event S ε}
    (running : monitor.track fresh initially labels thread = some observed) :
    monitor.track fresh initially (labels ++ [.event thread event]) =
      Function.update (monitor.track fresh initially labels) thread
        (some (monitor.observe observed event)) := by
  rw [track_snoc, advance, running, Option.map_some]

end Track

/-! ### Ghost variables -/

section Ghost

variable {γ : Type} (initially : ι → Option τ)
  (change : (ι → Option τ) → γ → Label S ε α ι C → γ) (value : γ)

def Monitor.ghost (labels : List (Label S ε α ι C)) : γ :=
  (labels.foldl
    (fun (tracked, current) label => (monitor.advance fresh tracked label, change tracked current label))
    (initially, value)).2

@[simp] theorem Monitor.ghost_nil : monitor.ghost fresh initially change value [] = value := rfl

@[simp] theorem Monitor.ghost_snoc (labels : List (Label S ε α ι C)) (label : Label S ε α ι C) :
    monitor.ghost fresh initially change value (labels ++ [label]) =
      change (monitor.track fresh initially labels)
        (monitor.ghost fresh initially change value labels) label := by
  have tracked : ∀ (labels : List (Label S ε α ι C)) (start : ι → Option τ) (current : γ),
      (labels.foldl (fun (tracked, current) label =>
        (monitor.advance fresh tracked label, change tracked current label)) (start, current)).1 =
        monitor.track fresh start labels := by
    intro labels
    induction labels with
    | nil => exact fun _ _ => rfl
    | cons label labels ih => exact fun _ _ => ih _ _
  simp [ghost, tracked]

end Ghost

/-- Each running thread is verified from its monitor state on. -/
def Tracked (monitor : Monitor S ε τ) (allowed : τ → S.Op → Prop) (post : τ → Except ε α → Prop) :
    Option (Program S ε α) → Option τ → Prop
  | some program, some state => program.wp monitor.environment allowed post state
  | none, none => True
  | _, _ => False

-- threads may differ in what they are allowed and in how they may end
variable {monitor fresh} {body : ι → C → Program S ε α} {allowed : ι → τ → S.Op → Prop}
  {post : ι → τ → Except ε α → Prop} {initially : ι → Option τ} {start : Pool S ε α σ ι}

theorem Tracked.of_running {allowed : τ → S.Op → Prop} {post : τ → Except ε α → Prop}
    {thread : Option (Program S ε α)} {program : Program S ε α} {observed : Option τ}
    (tracked : Tracked monitor allowed post thread observed) (running : thread = some program) :
    ∃ state, observed = some state ∧ program.wp monitor.environment allowed post state := by
  subst running
  cases observed with
  | none => exact tracked.elim
  | some state => exact ⟨state, rfl, tracked⟩

section Tracked

variable {labels : List (Label S ε α ι C)} {pool : Pool S ε α σ ι}
  (verified : ∀ thread call,
    (body thread call).wp monitor.environment (allowed thread) (post thread) (fresh thread call))
  (begun : ∀ thread, Tracked monitor (allowed thread) (post thread) (start.threads thread) (initially thread))

include verified begun

theorem Pool.Run.tracked (run : Pool.Run env body start labels pool) (thread : ι) :
    Tracked monitor (allowed thread) (post thread) (pool.threads thread)
      (monitor.track fresh initially labels thread) := by
  induction run with
  | nil => exact begun thread
  | snoc _ step before =>
    rw [track_snoc]
    cases step with
    | @start other call stopped =>
      by_cases same : thread = other
      · subst same
        simpa [advance, Tracked] using verified thread call
      · simpa [advance, same] using before
    | @event other op next reply after running taken =>
      by_cases same : thread = other
      · subst same
        obtain ⟨state, watched, rest⟩ := before.of_running running
        simp only [advance, Function.update_self, watched]
        exact rest.2 reply _ rfl
      · simpa [advance, same] using before
    | @returned other value running | @raised other error running
    | @crash other =>
      by_cases same : thread = other
      · subst same
        simp [advance, Tracked]
      · simpa [advance, same] using before

theorem Pool.Run.finished {earlier later : List (Label S ε α ι C)} {thread : ι} {result : Except ε α} {observed : τ}
    (run : Pool.Run env body start labels pool) (whole : labels = earlier ++ .finish thread result :: later)
    (watched : monitor.track fresh initially earlier thread = some observed) : post thread observed result := by
  induction run generalizing later with
  | nil => simp at whole
  | @snoc middle final labels label run step ih =>
    rcases List.eq_nil_or_concat later with rfl | ⟨rest, last, rfl⟩
    · obtain ⟨rfl, single⟩ := List.append_inj' whole rfl
      obtain rfl : label = .finish thread result := by simpa using single
      have ended := run.tracked verified begun thread
      cases step with
      | returned running | raised running =>
        rw [running, watched] at ended
        exact ended
    · rw [List.concat_eq_append, ← List.cons_append, ← List.append_assoc] at whole
      exact ih (List.append_inj' whole rfl).1

end Tracked

/-- **Invariants of interleaved runs.** Every call is verified once against the monitor; what remains is that
one allowed step of one thread keeps `holds`. -/
theorem Pool.RunWhen.invariant {guard : List (Label S ε α ι C) → σ → Label S ε α ι C → Prop}
    {labels : List (Label S ε α ι C)} {pool : Pool S ε α σ ι} (run : Pool.RunWhen guard env body start labels pool)
    (initially : ι → Option τ) (holds : List (Label S ε α ι C) → σ → Prop)
    (verified : ∀ thread call,
      (body thread call).wp monitor.environment (allowed thread) (post thread) (fresh thread call))
    (begun : ∀ thread, Tracked monitor (allowed thread) (post thread) (start.threads thread) (initially thread))
    (initial : holds [] start.shared)
    (started : ∀ labels state thread call, holds labels state → monitor.track fresh initially labels thread = none →
      guard labels state (.start thread call) → holds (labels ++ [.start thread call]) state)
    (event : ∀ labels state thread observed event after, holds labels state →
      monitor.track fresh initially labels thread = some observed → guard labels state (.event thread event) →
      allowed thread observed event.1 → env.step state event after → holds (labels ++ [.event thread event]) after)
    (finish : ∀ labels state thread observed result, holds labels state →
      monitor.track fresh initially labels thread = some observed → guard labels state (.finish thread result) →
      post thread observed result → holds (labels ++ [.finish thread result]) state)
    (crash : ∀ labels state thread, holds labels state → guard labels state (.crash thread) →
      holds (labels ++ [.crash thread]) state) :
    holds labels pool.shared := by
  induction run with
  | nil => exact initial
  | @snoc middle final labels label run guarded step before =>
    have watched := run.run.tracked verified begun
    cases step with
    | @start thread call stopped =>
      have idle := watched thread
      rw [stopped] at idle
      apply started _ _ _ _ before _ guarded
      cases known : monitor.track fresh initially labels thread with
      | none => rfl
      | some => simp [known, Tracked] at idle
    | @event thread op next reply after running taken =>
      obtain ⟨state, known, next⟩ := (watched thread).of_running running
      exact event _ _ thread state ⟨op, reply⟩ after before known guarded next.1 taken
    | @returned thread value running | @raised thread error running =>
      obtain ⟨state, known, ended⟩ := (watched thread).of_running running
      exact finish _ _ thread state _ before known guarded ended
    | @crash thread => exact crash _ _ thread before guarded

end Monitored

/-! ## Spending what was granted -/

theorem Pool.Run.shared_invariant {body : ι → C → Program S ε α} {pool final : Pool S ε α σ ι}
    {labels : List (Label S ε α ι C)} {holds : List (Event S ε) → σ → Prop} (initial : holds [] pool.shared)
    (step : ∀ events state event after, holds events state → env.step state event after →
      holds (events ++ [event]) after)
    (run : Pool.Run env body pool labels final) : holds (eventsOf labels) final.shared := by
  induction run with
  | nil => exact initial
  | snoc _ last ih =>
    cases last with
    | start => simpa using ih
    | event _ taken => simpa using step _ _ _ _ ih taken
    | returned => simpa using ih
    | raised => simpa using ih
    | crash => simpa using ih

section Budget

variable (grants : Event S ε → Bool) (spends : S.Op → Bool)

/-- Counts what a call was granted and has not spent yet. -/
def budget : Monitor S ε Nat where
  observe := fun held event =>
    (held - if spends event.1 then 1 else 0) + if grants event then 1 else 0

def WithinBudget (held : Nat) (op : S.Op) : Prop :=
  spends op = true → 1 ≤ held

theorem budget_of_unspent {events : List (Event S ε)} (unspent : events.countP (fun event => spends event.1) = 0)
    (held : Nat) : events.foldl (budget grants spends).observe held = held + events.countP grants := by
  induction events generalizing held with
  | nil => rfl
  | cons event events ih =>
    rw [List.countP_cons] at unspent
    have idle : spends event.1 = false := by
      by_contra spending
      simp [spending] at unspent
    have rest : events.countP (fun event => spends event.1) = 0 := by omega
    rw [List.foldl_cons, ih rest, List.countP_cons]
    simp only [budget, idle]
    simp only [Bool.false_eq_true, if_false]
    omega

variable [Fintype ι]

/-- What all running calls hold together. -/
def heldBy (tracked : ι → Option Nat) : Nat :=
  ∑ thread, (tracked thread).getD 0

theorem heldBy_update (tracked : ι → Option Nat) (thread : ι) (held : Option Nat) :
    heldBy (Function.update tracked thread held) + (tracked thread).getD 0 = heldBy tracked + held.getD 0 := by
  have replaced : ∀ value : Option Nat,
      heldBy (Function.update tracked thread value) =
        value.getD 0 + ∑ other ∈ Finset.univ \ {thread}, (tracked other).getD 0 := by
    intro value
    have pointwise : (fun other => (Function.update tracked thread value other).getD 0) =
        Function.update (fun other => (tracked other).getD 0) thread (value.getD 0) := by
      funext other
      by_cases same : other = thread
      · subst same; simp
      · simp [same]
    rw [heldBy, pointwise, Finset.sum_update_of_mem (Finset.mem_univ thread)]
  have unchanged := replaced (tracked thread)
  rw [Function.update_eq_self] at unchanged
  rw [replaced, unchanged]
  omega

/-- The budgets of the running calls after a run that began with no call. -/
def budgetsAfter (labels : List (Label S ε α ι C)) : ι → Option Nat :=
  (budget grants spends).track (fun _ _ => 0) (fun _ => none) labels

theorem Pool.Run.spent_le_granted {body : ι → C → Program S ε α} {shared : σ} {labels : List (Label S ε α ι C)}
    {pool : Pool S ε α σ ι}
    (verified : ∀ thread call,
      (body thread call).wp (budget grants spends).environment (WithinBudget spends) (fun _ _ => True) (0 : Nat))
    (run : Pool.Run env body (Pool.idle shared) labels pool) :
    (eventsOf labels).countP (fun event => spends event.1) ≤ (eventsOf labels).countP grants := by
  -- what is spent and what the running calls still hold was granted
  have balance := run.unguarded.invariant (fun _ => none)
    (fun labels _ =>
      (eventsOf labels).countP (fun event => spends event.1) +
        heldBy (budgetsAfter grants spends labels) ≤ (eventsOf labels).countP grants)
    verified (fun _ => trivial) (by simp [budgetsAfter, heldBy]) ?start ?event ?finish
    ?crash
  case start =>
    intro labels _ thread call before idle _
    have moved := heldBy_update (budgetsAfter grants spends labels) thread (some 0)
    rw [budgetsAfter, idle] at moved
    simp only [Option.getD_none, Nat.add_zero] at moved
    rw [eventsOf_start, budgetsAfter, track_snoc, advance, moved]
    exact before
  case event =>
    intro labels _ thread held event _ before running _ within _
    have moved := heldBy_update (budgetsAfter grants spends labels) thread
      (some ((budget grants spends).observe held event))
    rw [budgetsAfter, running] at moved
    simp only [Option.getD_some] at moved
    simp only [eventsOf_event, List.countP_append, List.countP_singleton]
    rw [budgetsAfter] at before
    rw [budgetsAfter, track_event running]
    simp only [budget] at moved before ⊢
    by_cases spending : spends event.1 = true
    · have inHand : 1 ≤ held := within spending
      simp only [spending, if_true] at moved ⊢
      omega
    · simp only [spending] at moved ⊢
      simp only [Bool.false_eq_true, if_false] at moved ⊢
      omega
  case finish =>
    intro labels _ thread held result before running _ _
    have moved := heldBy_update (budgetsAfter grants spends labels) thread none
    simp only [Option.getD_none] at moved
    rw [eventsOf_finish, budgetsAfter, track_snoc, advance]
    rw [budgetsAfter] at before moved
    omega
  case crash =>
    intro labels _ thread before _
    have moved := heldBy_update (budgetsAfter grants spends labels) thread none
    simp only [Option.getD_none] at moved
    rw [eventsOf_crash, budgetsAfter, track_snoc, advance]
    rw [budgetsAfter] at before moved
    omega
  exact le_trans (Nat.le_add_right _ _) balance

end Budget

end GoldFlow.Effect
