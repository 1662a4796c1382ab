import GoldFlow.Effect.Schedule

/-! # Refinement of pools -/

namespace GoldFlow.Effect

variable {S T : Signature} {ε α σ τ ι C κ : Type}

/-- What the clients of a pool see. -/
inductive Observation (ε α ι C : Type) where
  | started (thread : ι) (call : C)
  | finished (thread : ι) (result : Except ε α)
  | crashed (thread : ι)

def Label.observed? : Label S ε α ι C → Option (Observation ε α ι C)
  | .start thread call => some (.started thread call)
  | .event _ _ => none
  | .finish thread result => some (.finished thread result)
  | .crash thread => some (.crashed thread)

def observationsOf (labels : List (Label S ε α ι C)) : List (Observation ε α ι C) :=
  labels.filterMap Label.observed?

def Label.started? : Label S ε α ι C → Option C
  | .start _ call => some call
  | .event _ _ | .finish _ _ | .crash _ => none

/-- The calls that a run has begun. -/
def callsOf (labels : List (Label S ε α ι C)) : List C := labels.filterMap Label.started?

/-- A program stays where it is, or makes one request. -/
inductive AtMostOne (env : Environment T ε τ) :
    τ → Program T ε α → Option (Event T ε) → τ → Program T ε α → Prop
  | stay {state program} : AtMostOne env state program none state program
  | move {state after op next reply} :
      env.step state ⟨op, reply⟩ after →
      AtMostOne env state (.call op next) (some ⟨op, reply⟩) after (next reply)

structure Simulation (admits : C → Prop) (env : Environment S ε σ) (body : ι → C → Program S ε α)
    (env' : Environment T ε τ) (body' : ι → C → Program T ε α)
    (effect : Event S ε → Option κ) (effect' : Event T ε → Option κ) where
  shared : σ → τ → Prop
  /-- How far the two programs of a call are. -/
  progress : τ → Program S ε α → Program T ε α → Prop
  start : ∀ state thread call, admits call → progress state (body thread call) (body' thread call)
  returned : ∀ {state value program}, progress state (.pure value) program → program = .pure value
  raised : ∀ {state error program}, progress state (.raise error) program → program = .raise error
  step : ∀ {state abstract op next program reply after}, shared state abstract →
    progress abstract (.call op next) program → env.step state ⟨op, reply⟩ after →
    ∃ event abstract' program', AtMostOne env' abstract program event abstract' program' ∧
      shared after abstract' ∧ progress abstract' (next reply) program' ∧
      effect ⟨op, reply⟩ = event.bind effect' ∧
      ∀ {other other'}, progress abstract other other' → progress abstract' other other'

namespace Simulation

variable {admits : C → Prop} {env : Environment S ε σ} {body : ι → C → Program S ε α}
  {env' : Environment T ε τ} {body' : ι → C → Program T ε α} {effect : Event S ε → Option κ}
  {effect' : Event T ε → Option κ}

/-- The two pools run the same calls and are as far with them. -/
structure Matches (simulation : Simulation admits env body env' body' effect effect')
    (pool : Pool S ε α σ ι) (pool' : Pool T ε α τ ι) : Prop where
  shared : simulation.shared pool.shared pool'.shared
  threads : ∀ thread, Option.Rel (simulation.progress pool'.shared) (pool.threads thread) (pool'.threads thread)

variable {simulation : Simulation admits env body env' body' effect effect'}
  {pool final : Pool S ε α σ ι} {pool' : Pool T ε α τ ι} {thread : ι}

theorem Matches.running (matched : simulation.Matches pool pool') {program : Program S ε α}
    (running : pool.threads thread = some program) :
    ∃ program', pool'.threads thread = some program' ∧ simulation.progress pool'.shared program program' := by
  have related := matched.threads thread
  rw [running] at related
  cases found : pool'.threads thread with
  | none =>
    rw [found] at related
    cases related
  | some program' =>
    rw [found] at related
    cases related with
    | some related => exact ⟨program', rfl, related⟩

theorem Matches.stopped (matched : simulation.Matches pool pool') (stopped : pool.threads thread = none) :
    pool'.threads thread = none := by
  have related := matched.threads thread
  rw [stopped] at related
  cases found : pool'.threads thread with
  | none => rfl
  | some =>
    rw [found] at related
    cases related

variable [DecidableEq ι]

theorem Matches.replace (matched : simulation.Matches pool pool') (thread : ι) {program : Option (Program S ε α)}
    {program' : Option (Program T ε α)} (related : Option.Rel (simulation.progress pool'.shared) program program') :
    simulation.Matches { pool with threads := Function.update pool.threads thread program }
      { pool' with threads := Function.update pool'.threads thread program' } := by
  refine ⟨matched.shared, fun other => ?_⟩
  by_cases same : other = thread
  · subst same
    simpa using related
  · simpa [Function.update_of_ne same] using matched.threads other

theorem Matches.step {label : Label S ε α ι C} (matched : simulation.Matches pool pool')
    (admitted : ∀ call ∈ label.started?, admits call) (stepped : Pool.Step env body pool label final) :
    ∃ labels' final', Pool.Run env' body' pool' labels' final' ∧ simulation.Matches final final' ∧
      observationsOf labels' = observationsOf [label] ∧
      (eventsOf labels').filterMap effect' = (eventsOf [label]).filterMap effect := by
  -- everything but a request is the same step of the other pool
  cases stepped with
  | @start thread call stopped =>
    refine ⟨[.start thread call], _, .snoc .nil (.start (matched.stopped stopped)), ?_, rfl, rfl⟩
    exact matched.replace thread (.some (simulation.start _ _ _ (admitted call rfl)))
  | @returned thread value running =>
    obtain ⟨program', running', related⟩ := matched.running running
    rw [simulation.returned related] at running'
    exact ⟨[.finish thread (.ok value)], _, .snoc .nil (.returned running'), matched.replace thread .none, rfl, rfl⟩
  | @raised thread error running =>
    obtain ⟨program', running', related⟩ := matched.running running
    rw [simulation.raised related] at running'
    exact ⟨[.finish thread (.error error)], _, .snoc .nil (.raised running'), matched.replace thread .none, rfl, rfl⟩
  | @crash thread =>
    exact ⟨[.crash thread], _, .snoc .nil .crash, matched.replace thread .none, rfl, rfl⟩
  | @event thread op next reply after running answered =>
    obtain ⟨program', running', related⟩ := matched.running running
    obtain ⟨event, abstract', next', moved, shared, related', effects, others⟩ :=
      simulation.step matched.shared related answered
    have kept : simulation.Matches
        { shared := after, threads := Function.update pool.threads thread (some (next reply)) }
        { shared := abstract', threads := Function.update pool'.threads thread (some next') } := by
      refine ⟨shared, fun other => ?_⟩
      by_cases same : other = thread
      · subst same
        simpa using Option.Rel.some related'
      · simp only [Function.update_of_ne same]
        have related := matched.threads other
        generalize pool.threads other = first at related ⊢
        generalize pool'.threads other = second at related ⊢
        cases related with
        | none => exact .none
        | some related => exact .some (others related)
    cases moved with
    | stay =>
      refine ⟨[], pool', .nil, ?_, rfl, ?_⟩
      · have unchanged : Function.update pool'.threads thread (some program') = pool'.threads := by
          rw [← running', Function.update_eq_self]
        rwa [unchanged] at kept
      · simpa [eventsOf, Label.made?] using effects
    | move answered' =>
      refine ⟨[.event thread _], _, .snoc .nil (.event running' answered'), kept, rfl, ?_⟩
      simp only [Option.bind_some] at effects
      simp [eventsOf, Label.made?, List.filterMap_cons, effects]

/-- **Every run of the first pool looks like a run of the second.** -/
theorem refines (simulation : Simulation admits env body env' body' effect effect')
    {labels : List (Label S ε α ι C)} (run : Pool.Run env body pool labels final)
    (matched : simulation.Matches pool pool') (admitted : ∀ call ∈ callsOf labels, admits call) :
    ∃ labels' final', Pool.Run env' body' pool' labels' final' ∧ simulation.Matches final final' ∧
      observationsOf labels' = observationsOf labels ∧
      (eventsOf labels').filterMap effect' = (eventsOf labels).filterMap effect := by
  induction run with
  | nil => exact ⟨[], pool', .nil, matched, rfl, rfl⟩
  | @snoc middle final labels label run stepped ih =>
    simp only [callsOf, List.filterMap_append, List.mem_append] at admitted
    obtain ⟨earlier, middle', run', matched', sights, effects⟩ :=
      ih fun call member => admitted call (.inl member)
    obtain ⟨last, final', step', matched'', sight, effect⟩ :=
      matched'.step (fun call member => admitted call (.inr (by simpa using member))) stepped
    refine ⟨earlier ++ last, final', run'.append step', matched'', ?_, ?_⟩
    · simp only [observationsOf, List.filterMap_append] at sights sight ⊢
      rw [sights, sight]
    · rw [eventsOf_append, eventsOf_append, List.filterMap_append, List.filterMap_append, effects, effect]

end Simulation

end GoldFlow.Effect
