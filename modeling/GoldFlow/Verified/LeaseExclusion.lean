import GoldFlow.Effect.Schedule
import GoldFlow.Worker.Lease
import Mathlib.Algebra.Order.BigOperators.Group.List

/-! # Exclusion by leases

While an operation runs, its replica holds a lease.
-/

namespace GoldFlow

open Effect

/-! ## The stages of a run -/

inductive LeaseStage where
  | idle
  | drawn (token : String)
  | running (lease : RedisLease)
  | ended
  deriving DecidableEq

namespace LeaseStage

def token? : LeaseStage → Option String
  | .drawn token => some token
  | .running lease => some lease.token
  | .idle | .ended => none

def lease? : LeaseStage → Option RedisLease
  | .running lease => some lease
  | .idle | .drawn _ | .ended => none

/-- An operation runs from the answer to `set` up to the release. -/
def observe (stage : LeaseStage) : Event LeasePort PyError → LeaseStage
  | ⟨.token, .ok token⟩ => .drawn token
  | ⟨.set key token _, .ok true⟩ => .running ⟨key, token⟩
  | ⟨.set _ _ _, _⟩ => .ended
  | ⟨.eval _ _, _⟩ => .ended
  | _ => stage

def monitor : Monitor LeasePort PyError LeaseStage := ⟨observe⟩

def allowed (stage : LeaseStage) : LeaseOp → Prop
  | .token => stage = .idle
  | .set _ token _ => stage = .drawn token
  | .eval key token => stage = .running ⟨key, token⟩
  | .work _ => ∃ lease, stage = .running lease
  | .pass _ => True
  | .expire _ => True

theorem wp_operation {post : LeaseStage → Except PyError Unit → Prop} {program : LeasePy Unit}
    (works : program.Asks fun op : LeaseOp => op.isWork = true) {lease : RedisLease}
    (ends : ∀ result, post (.running lease) result) :
    program.wp monitor.environment allowed post (.running lease) := by
  induction program with
  | pure => exact ends _
  | raise => exact ends _
  | call op rest ih =>
    obtain ⟨isWork, later⟩ := works
    cases op with
    | work =>
      refine ⟨⟨lease, rfl⟩, ?_⟩
      rintro reply _ rfl
      exact ih reply (later reply)
    | token => simp [LeaseOp.isWork] at isWork
    | set => simp [LeaseOp.isWork] at isWork
    | eval => simp [LeaseOp.isWork] at isWork
    | pass => simp [LeaseOp.isWork] at isWork
    | expire => simp [LeaseOp.isWork] at isWork

theorem wp_job (manager : RedisLeaseManager) (job : LeaseJob) :
    (job.program manager).wp monitor.environment allowed (fun _ _ => True) .idle := by
  cases job with
  | pass =>
    refine ⟨trivial, ?_⟩
    rintro reply _ rfl
    cases reply <;> trivial
  | expire =>
    refine ⟨trivial, ?_⟩
    rintro reply _ rfl
    cases reply <;> trivial
  | run name operation ttlSeconds containExceptions =>
    simp only [LeaseJob.program, RedisLeaseManager.run, RedisLeaseManager.acquire, Program.bind_eq]
    rw [Program.wp_bind, Program.wp_bind, Program.wp_raiseIf]
    refine ⟨fun _ => trivial, fun _ => ?_⟩
    by_cases client : manager.client = true
    · -- the token, the key, the operation and the release, one after the other
      simp only [client]
      refine ⟨rfl, ?_⟩
      rintro drawn _ rfl
      cases drawn with
      | error => trivial
      | ok token =>
        refine ⟨rfl, ?_⟩
        rintro answer _ rfl
        cases answer with
        | error => trivial
        | ok acquired =>
          cases acquired with
          | false => trivial
          | true =>
            show Program.wp _ _ _ ((operation.program.catching (fun _ => true) id).bind _)
              (LeaseStage.running ⟨manager.key name, token⟩)
            rw [Program.wp_bind, Program.wp_catching]
            apply wp_operation operation.works
            intro result
            cases result with
            | ok =>
              refine ⟨rfl, ?_⟩
              rintro released _ rfl
              cases released <;> trivial
            | error =>
              refine ⟨rfl, ?_⟩
              rintro released _ rfl
              cases released <;> cases containExceptions <;> trivial
    · simp only [client]
      trivial

end LeaseStage

section Holders

variable {ι : Type} {stages : ι → Option LeaseStage} {redis after : Redis} {thread : ι} {entry : LeaseEntry}

def tokenAt (stages : ι → Option LeaseStage) (thread : ι) : Option String :=
  (stages thread).bind LeaseStage.token?

def leaseAt (stages : ι → Option LeaseStage) (thread : ι) : Option RedisLease :=
  (stages thread).bind LeaseStage.lease?

structure Exclusive (stages : ι → Option LeaseStage) (redis : Redis) : Prop where
  issued : ∀ thread token, tokenAt stages thread = some token → token ∈ redis.issued
  distinct : ∀ first second token, tokenAt stages first = some token → tokenAt stages second = some token →
    first = second
  present : ∀ thread lease, leaseAt stages thread = some lease →
    ∃ entry, redis.entries lease.key = some entry ∧ entry.token = lease.token

theorem tokenAt_of_lease {lease : RedisLease} (running : leaseAt stages thread = some lease) :
    tokenAt stages thread = some lease.token := by
  unfold leaseAt at running
  unfold tokenAt
  cases known : stages thread with
  | none => simp [known] at running
  | some stage =>
    cases stage <;> simp_all [LeaseStage.lease?, LeaseStage.token?]

/-- **One holder at a time.** -/
theorem Exclusive.single (exclusive : Exclusive stages redis) {first second : ι} {lease other : RedisLease}
    (running : leaseAt stages first = some lease) (otherRunning : leaseAt stages second = some other)
    (same : lease.key = other.key) : first = second := by
  obtain ⟨entry, found, token⟩ := exclusive.present first lease running
  obtain ⟨otherEntry, otherFound, otherToken⟩ := exclusive.present second other otherRunning
  rw [← same, found, Option.some.injEq] at otherFound
  subst otherFound
  apply exclusive.distinct first second lease.token (tokenAt_of_lease running)
  rw [tokenAt_of_lease otherRunning, ← otherToken, token]

theorem Exclusive.keep (exclusive : Exclusive stages redis) (sameIssued : after.issued = redis.issued)
    (kept : ∀ other lease entry, leaseAt stages other = some lease → redis.entries lease.key = some entry →
      entry.token = lease.token → after.entries lease.key = some entry) :
    Exclusive stages after := by
  refine ⟨?_, exclusive.distinct, ?_⟩
  · rw [sameIssued]
    exact exclusive.issued
  · intro thread lease running
    obtain ⟨entry, found, token⟩ := exclusive.present thread lease running
    exact ⟨entry, kept thread lease entry running found token, token⟩

theorem entries_setNx (key token : String) (px : Int) {other : String} (found : redis.entries other = some entry) :
    (redis.setNx key token px).2.entries other = some entry := by
  unfold Redis.setNx
  split
  · exact found
  · rename_i absent
    have apart : other ≠ key := by
      rintro rfl
      rw [absent] at found
      cases found
    simpa [apart] using found

theorem issued_setNx (key token : String) (px : Int) (redis : Redis) :
    (redis.setNx key token px).2.issued = redis.issued := by
  unfold Redis.setNx
  split <;> rfl

theorem issued_compareAndDelete (key token : String) (redis : Redis) :
    (redis.compareAndDelete key token).2.issued = redis.issued := by
  unfold Redis.compareAndDelete
  split <;> rfl

theorem Exclusive.release_others (exclusive : Exclusive stages redis) {mine lease : RedisLease} {other : ι}
    (held : tokenAt stages thread = some mine.token) (apart : other ≠ thread)
    (running : leaseAt stages other = some lease) (found : redis.entries lease.key = some entry)
    (token : entry.token = lease.token) :
    (redis.compareAndDelete mine.key mine.token).2.entries lease.key = some entry := by
  unfold Redis.compareAndDelete
  split
  · rename_i deleted
    by_cases same : lease.key = mine.key
    · -- the key would hold the token of both
      rw [← same, found] at deleted
      simp only [Option.any_some, decide_eq_true_eq] at deleted
      have theirs := tokenAt_of_lease running
      rw [← token, deleted] at theirs
      exact absurd (exclusive.distinct _ _ _ theirs held) apart
    · simpa [same] using found
  · exact found

variable [DecidableEq ι]

theorem Exclusive.change (exclusive : Exclusive stages redis) (stage : Option LeaseStage)
    (drawn : ∀ token, stage.bind LeaseStage.token? = some token →
      token ∈ after.issued ∧ (tokenAt stages thread = some token ∨ token ∉ redis.issued))
    (runs : ∀ lease, stage.bind LeaseStage.lease? = some lease →
      ∃ entry, after.entries lease.key = some entry ∧ entry.token = lease.token)
    (grows : ∀ token ∈ redis.issued, token ∈ after.issued)
    (others : ∀ other lease entry, other ≠ thread → leaseAt stages other = some lease →
      redis.entries lease.key = some entry → entry.token = lease.token → after.entries lease.key = some entry) :
    Exclusive (Function.update stages thread stage) after := by
  have mine : tokenAt (Function.update stages thread stage) thread = stage.bind LeaseStage.token? := by
    simp [tokenAt]
  have theirs : ∀ other, other ≠ thread →
      tokenAt (Function.update stages thread stage) other = tokenAt stages other := by
    intro other apart
    simp [tokenAt, apart]
  -- a token of this replica is no token of another
  have apart : ∀ other token, other ≠ thread → stage.bind LeaseStage.token? = some token →
      tokenAt stages other ≠ some token := by
    intro other token different held otherHeld
    rcases (drawn token held).2 with same | fresh
    · exact different (exclusive.distinct _ _ _ otherHeld same)
    · exact fresh (exclusive.issued _ _ otherHeld)
  constructor
  · intro other token held
    by_cases same : other = thread
    · subst same
      rw [mine] at held
      exact (drawn token held).1
    · rw [theirs other same] at held
      exact grows token (exclusive.issued other token held)
  · intro first second token firstHeld secondHeld
    by_cases firstSame : first = thread
    · by_cases secondSame : second = thread
      · rw [firstSame, secondSame]
      · subst firstSame
        rw [mine] at firstHeld
        rw [theirs second secondSame] at secondHeld
        exact absurd secondHeld (apart second token secondSame firstHeld)
    · rw [theirs first firstSame] at firstHeld
      by_cases secondSame : second = thread
      · subst secondSame
        rw [mine] at secondHeld
        exact absurd firstHeld (apart first token firstSame secondHeld)
      · rw [theirs second secondSame] at secondHeld
        exact exclusive.distinct first second token firstHeld secondHeld
  · intro other lease running
    by_cases same : other = thread
    · subst same
      simp only [leaseAt, Function.update_self] at running
      exact runs lease running
    · have before : leaseAt stages other = some lease := by simpa [leaseAt, same] using running
      obtain ⟨entry, found, token⟩ := exclusive.present other lease before
      exact ⟨entry, others other lease entry same before found token, token⟩

theorem Exclusive.forget (exclusive : Exclusive stages redis) (thread : ι) {stage : Option LeaseStage}
    (nothing : stage.bind LeaseStage.token? = none ∧ stage.bind LeaseStage.lease? = none) :
    Exclusive (Function.update stages thread stage) redis := by
  apply exclusive.change stage
  · simp [nothing.1]
  · simp [nothing.2]
  · intro token member
    exact member
  · intro other lease entry _ _ found _
    exact found

end Holders

section Runs

variable {ι : Type} [DecidableEq ι]

def stagesAfter (labels : List (Label LeasePort PyError LeaseRunStatus ι LeaseJob)) : ι → Option LeaseStage :=
  LeaseStage.monitor.track (fun _ _ => .idle) (fun _ => none) labels

def expiring? : Label LeasePort PyError LeaseRunStatus ι LeaseJob → Option String
  | .event _ ⟨.expire key, _⟩ => some key
  | _ => none

abbrev Outlives (labels : List (Label LeasePort PyError LeaseRunStatus ι LeaseJob)) (redis : Redis)
    (label : Label LeasePort PyError LeaseRunStatus ι LeaseJob) : Prop :=
  ∀ key ∈ expiring? label, ∀ thread, ∀ lease ∈ leaseAt (stagesAfter labels) thread,
    lease.key = key → redis.due key = false

variable {labels : List (Label LeasePort PyError LeaseRunStatus ι LeaseJob)} {thread : ι} {stage : LeaseStage}

theorem stagesAfter_event {event : Event LeasePort PyError} (known : stagesAfter labels thread = some stage) :
    stagesAfter (labels ++ [.event thread event]) =
      Function.update (stagesAfter labels) thread (some (stage.observe event)) := by
  rw [stagesAfter, Monitor.track_snoc, ← stagesAfter, Monitor.advance, known]
  rfl

theorem Exclusive.event {event : Event LeasePort PyError} {redis after : Redis}
    (exclusive : Exclusive (stagesAfter labels) redis) (known : stagesAfter labels thread = some stage)
    (outlives : Outlives labels redis (.event thread event)) (allowed : stage.allowed event.1)
    (step : Redis.environment.step redis event after) :
    Exclusive (stagesAfter (labels ++ [.event thread event])) after := by
  rw [stagesAfter_event known]
  obtain ⟨op, reply⟩ := event
  -- a request that does not move the stage
  have still : Exclusive (stagesAfter labels) after →
      Exclusive (Function.update (stagesAfter labels) thread (some stage)) after := by
    intro kept
    rwa [← known, Function.update_eq_self]
  cases op with
  | token =>
    obtain ⟨token, fresh, rfl, rfl⟩ := step
    apply exclusive.change
    · intro drawn same
      cases same
      exact ⟨List.mem_cons_self, .inr fresh⟩
    · intro lease running
      cases running
    · intro other member
      exact List.mem_cons_of_mem _ member
    · intro other lease entry _ _ found _
      exact found
  | set key token px =>
    have held : tokenAt (stagesAfter labels) thread = some token := by
      rw [tokenAt, known, show stage = .drawn token from allowed]
      rfl
    have issued : ∀ other ∈ redis.issued, other ∈ (redis.setNx key token px).2.issued := by
      intro other member
      rwa [issued_setNx]
    rcases step with ⟨rfl, rfl⟩ | ⟨⟨error, rfl⟩, rfl | rfl⟩
    · cases acquired : (redis.setNx key token px).1 with
      | false =>
        apply exclusive.change
        · intro drawn same
          cases same
        · intro lease running
          cases running
        · exact issued
        · intro other lease entry _ _ found _
          exact entries_setNx key token px found
      | true =>
        apply exclusive.change
        · intro drawn same
          cases same
          exact ⟨issued token (exclusive.issued _ _ held), .inl held⟩
        · intro lease running
          cases running
          unfold Redis.setNx at acquired ⊢
          split at acquired
          · cases acquired
          · refine ⟨⟨token, redis.now + px⟩, ?_, rfl⟩
            simp
        · exact issued
        · intro other lease entry _ _ found _
          exact entries_setNx key token px found
    · -- the answer is lost, but the key is set
      apply exclusive.change
      · intro drawn same
        cases same
      · intro lease running
        cases running
      · exact issued
      · intro other lease entry _ _ found _
        exact entries_setNx key token px found
    · exact exclusive.forget thread ⟨rfl, rfl⟩
  | eval key token =>
    have held : tokenAt (stagesAfter labels) thread = some token := by
      rw [tokenAt, known, show stage = .running ⟨key, token⟩ from allowed]
      rfl
    have released : Exclusive (Function.update (stagesAfter labels) thread (some .ended))
        (redis.compareAndDelete key token).2 := by
      apply exclusive.change
      · intro drawn same
        cases same
      · intro lease running
        cases running
      · intro other member
        rwa [issued_compareAndDelete]
      · intro other lease entry apart running found same
        have mine : tokenAt (stagesAfter labels) thread = some (RedisLease.mk key token).token := held
        exact exclusive.release_others mine apart running found same
    rcases step with ⟨rfl, rfl⟩ | ⟨⟨error, rfl⟩, rfl | rfl⟩
    · exact released
    · exact released
    · exact exclusive.forget thread ⟨rfl, rfl⟩
  | work =>
    rw [show after = redis from step] at still ⊢
    exact still exclusive
  | pass =>
    obtain ⟨rfl, rfl⟩ := step
    exact still (exclusive.keep rfl fun _ _ _ _ found _ => found)
  | expire key =>
    obtain ⟨rfl, rfl⟩ := step
    apply still
    unfold Redis.expire
    split
    · rename_i due
      refine exclusive.keep rfl ?_
      intro other lease entry running found _
      have apart : lease.key ≠ key := by
        intro same
        rw [outlives key rfl other lease running same] at due
        cases due
      simpa [apart] using found
    · exact exclusive

/-! ### Two replicas -/

namespace LeaseDemo

def freshToken (issued : List String) : String :=
  String.ofList (List.replicate ((issued.map String.length).sum + 1) 't')

theorem freshToken_notMem (issued : List String) : freshToken issued ∉ issued := by
  intro member
  have bound : (freshToken issued).length ≤ (issued.map String.length).sum :=
    List.single_le_sum (fun _ _ => Nat.zero_le _) _ (List.mem_map_of_mem member)
  simp [freshToken] at bound

def responder : Responder LeasePort PyError Redis where
  respond redis
    | .token => (.ok (freshToken redis.issued), { redis with issued := freshToken redis.issued :: redis.issued })
    | .set key token px => (.ok (redis.setNx key token px).1, (redis.setNx key token px).2)
    | .eval key token => (.ok (redis.compareAndDelete key token).1, (redis.compareAndDelete key token).2)
    | .work _ => (.ok (), redis)
    | .pass milliseconds => (.ok (), { redis with now := redis.now + milliseconds })
    | .expire key => (.ok (), redis.expire key)

theorem responder_within : responder.Within Redis.environment id := by
  intro redis op
  cases op with
  | token => exact ⟨_, freshToken_notMem _, rfl, rfl⟩
  | set => exact .inl ⟨rfl, rfl⟩
  | eval => exact .inl ⟨rfl, rfl⟩
  | work => rfl
  | pass => exact ⟨rfl, rfl⟩
  | expire => exact ⟨rfl, rfl⟩

def operation : Operation where
  program := do
    RedisLeaseManager.ask (.work 0)
    RedisLeaseManager.ask (.work 1)
  works := by
    refine ⟨rfl, fun reply => ?_⟩
    cases reply with
    | error => trivial
    | ok => exact ⟨rfl, fun reply => by cases reply <;> trivial⟩

def redis : Redis := ⟨0, fun _ => none, []⟩

def manager : RedisLeaseManager := {}

def begin (thread : Fin 3) : List (Turn (Fin 3) LeaseJob) :=
  [.start thread (.run "execution" operation 1), .step thread, .step thread, .step thread]

def wait (milliseconds : Nat) : List (Turn (Fin 3) LeaseJob) :=
  [.start 2 (.pass milliseconds), .step 2, .step 2,
    .start 2 (.expire "goldflow:lease:execution"), .step 2, .step 2]

def play (turns : List (Turn (Fin 3) LeaseJob)) :
    List (Label LeasePort PyError LeaseRunStatus (Fin 3) LeaseJob) ×
      Pool LeasePort PyError LeaseRunStatus Redis (Fin 3) :=
  Pool.schedule responder (fun _ => LeaseJob.program manager) (Pool.idle redis) turns

theorem run_play (turns : List (Turn (Fin 3) LeaseJob)) :
    Pool.Run Redis.environment (fun _ => LeaseJob.program manager) (Pool.idle redis) (play turns).1 (play turns).2 :=
  Pool.run_schedule responder_within (Pool.idle redis) turns

def keyAt (turns : List (Turn (Fin 3) LeaseJob)) (thread : Fin 3) : Option String :=
  (leaseAt (stagesAfter (play turns).1) thread).map (·.key)

end LeaseDemo

open LeaseDemo

/-- **Leased operations exclude each other** if no key expires under a running operation. -/
theorem leased_operations_exclusive (manager : RedisLeaseManager) (redis : Redis)
    (labels : List (Label LeasePort PyError LeaseRunStatus ι LeaseJob))
    (pool : Pool LeasePort PyError LeaseRunStatus Redis ι)
    (run : Pool.RunWhen Outlives Redis.environment (fun _ => LeaseJob.program manager) (Pool.idle redis) labels pool)
    (first second : ι) (lease other : RedisLease) (running : leaseAt (stagesAfter labels) first = some lease)
    (otherRunning : leaseAt (stagesAfter labels) second = some other) (same : lease.key = other.key) :
    first = second := by
  have exclusive : Exclusive (stagesAfter labels) pool.shared := by
    apply run.invariant (fun _ => none) fun labels redis => Exclusive (stagesAfter labels) redis
    · exact fun _ job => LeaseStage.wp_job manager job
    · exact fun _ => trivial
    · constructor <;> simp [stagesAfter, tokenAt, leaseAt]
    · intro labels redis thread job exclusive _ _
      rw [stagesAfter, Monitor.track_snoc]
      exact exclusive.forget thread ⟨rfl, rfl⟩
    · intro labels redis thread stage event after exclusive known outlives allowed step
      exact exclusive.event known outlives allowed step
    · intro labels redis thread stage result exclusive _ _ _
      rw [stagesAfter, Monitor.track_snoc]
      exact exclusive.forget thread ⟨rfl, rfl⟩
    · intro labels redis thread exclusive _
      rw [stagesAfter, Monitor.track_snoc]
      exact exclusive.forget thread ⟨rfl, rfl⟩
  exact exclusive.single running otherRunning same

/-- Half a second after the first replica has begun, the second is locked out. -/
theorem leased_operations_exclusive_demo :
    keyAt (begin 0 ++ wait 500 ++ begin 1) 0 =
        some "goldflow:lease:execution" ∧
      ∀ other, keyAt (begin 0 ++ wait 500 ++ begin 1) other =
        some "goldflow:lease:execution" → 0 = other := by
  have meets : Pool.ScheduleMeets Outlives id responder (fun _ => LeaseJob.program LeaseDemo.manager) []
      (Pool.idle LeaseDemo.redis) (begin 0 ++ wait 500 ++ begin 1) := by
    decide +kernel
  have running : keyAt (begin 0 ++ wait 500 ++ begin 1) 0 =
      some "goldflow:lease:execution" := by decide +kernel
  have run := Pool.RunWhen.schedule responder_within .nil meets
  refine ⟨running, fun other otherRunning => ?_⟩
  obtain ⟨lease, held, key⟩ := Option.map_eq_some_iff.mp running
  obtain ⟨otherLease, otherHeld, otherKey⟩ := Option.map_eq_some_iff.mp otherRunning
  exact leased_operations_exclusive LeaseDemo.manager LeaseDemo.redis _ _ run 0 other lease otherLease held otherHeld
    (key.trans otherKey.symm)

theorem lease_expires_under_operation :
    ∃ (labels : List (Label LeasePort PyError LeaseRunStatus (Fin 3) LeaseJob))
      (pool : Pool LeasePort PyError LeaseRunStatus Redis (Fin 3)) (lease other : RedisLease),
      Pool.Run Redis.environment (fun _ => LeaseJob.program LeaseDemo.manager) (Pool.idle LeaseDemo.redis) labels pool ∧
      leaseAt (stagesAfter labels) 0 = some lease ∧ leaseAt (stagesAfter labels) 1 = some other ∧
      lease.key = other.key := by
  have running : keyAt (begin 0 ++ wait 1000 ++ begin 1) 0 =
      some "goldflow:lease:execution" := by decide +kernel
  have otherRunning : keyAt (begin 0 ++ wait 1000 ++ begin 1) 1 =
      some "goldflow:lease:execution" := by decide +kernel
  obtain ⟨lease, held, key⟩ := Option.map_eq_some_iff.mp running
  obtain ⟨otherLease, otherHeld, otherKey⟩ := Option.map_eq_some_iff.mp otherRunning
  exact ⟨_, _, lease, otherLease, run_play _, held, otherHeld, key.trans otherKey.symm⟩

end Runs

end GoldFlow
