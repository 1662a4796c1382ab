import GoldFlow.Effect.Schedule
import GoldFlow.Persistence.Outbox

/-! # Published events

A claim never takes a published event.
-/

namespace GoldFlow

open Effect Data

section Transactions

variable {outbox after : Outbox} {id : UUID} {row : OutboxEvent} {now : Instant}

def Published (outbox : Outbox) (id : UUID) : Prop := ∃ row, outbox.get id = some row ∧ row.status = .published

theorem get_claim {limit : Nat} {staleAfter : Int} {messages : List OutboxMessage}
    (claimed : outbox.claim now limit staleAfter = .ok (messages, after)) (id : UUID) :
    (id ∉ messages.map (·.eventId) ∧ after.get id = outbox.get id) ∨
      ∃ row, outbox.get id = some row ∧ row.claimable now (now - staleAfter) = true ∧
        after.get id = some (row.claimed now) := by
  unfold Outbox.claim at claimed
  split at claimed
  · cases claimed
  · split at claimed
    · cases claimed
    · generalize taken : ((outbox.items.filter (·.claimable now (now - staleAfter))).insertionSort
        fun first second => first.createdAt ≤ second.createdAt).take limit = rows at claimed
      cases claimed
      have member : ∀ row ∈ rows, row ∈ outbox.items ∧ row.claimable now (now - staleAfter) = true := by
        intro row member
        rw [← taken] at member
        have sorted := List.mem_of_mem_take member
        rwa [List.mem_insertionSort, List.mem_filter] at sorted
      have distinct : (rows.map (·.id)).Nodup := by
        have sorted : (((outbox.items.filter (·.claimable now (now - staleAfter))).insertionSort
            fun first second => first.createdAt ≤ second.createdAt).map (·.id)).Nodup :=
          ((List.perm_insertionSort _ _).map _).nodup_iff.mpr (outbox.distinct.sublist (List.filter_sublist.map _))
        rw [← taken]
        exact sorted.sublist ((List.take_sublist _ _).map _)
      have writes : (rows.map (·.claimed now)).map OutboxEvent.id = rows.map (·.id) := by
        rw [List.map_map]
        rfl
      have written : (outbox.setAll (rows.map (·.claimed now))).get id =
          (lookup OutboxEvent.id id (rows.map (·.claimed now))).or (outbox.get id) :=
        Keyed.get_setAll (writes ▸ distinct) id
      by_cases mine : id ∈ rows.map (·.id)
      · right
        obtain ⟨row, rowMember, rfl⟩ := List.mem_map.mp mine
        refine ⟨row, Keyed.get_of_mem (member row rowMember).1, (member row rowMember).2, ?_⟩
        have looked : lookup OutboxEvent.id row.id (rows.map (·.claimed now)) = some (row.claimed now) :=
          lookup_of_mem (writes ▸ distinct) (List.mem_map_of_mem rowMember)
        rw [written, looked, Option.some_or]
      · left
        have absent : lookup OutboxEvent.id id (rows.map (·.claimed now)) = none :=
          lookup_eq_none.mpr (writes ▸ mine)
        refine ⟨by simpa [OutboxEvent.message] using mine, ?_⟩
        rw [written, absent, Option.none_or]

theorem get_complete {message : OutboxMessage} {delivered : Bool} {error : Option String}
    (completed : outbox.complete message delivered error now = .ok after) (id : UUID) :
    after.get id = if message.eventId = id then (outbox.get id).map (·.completed delivered error now)
      else outbox.get id := by
  unfold Outbox.complete at completed
  cases found : outbox.get message.eventId with
  | none => simp [found] at completed
  | some row =>
    simp only [found] at completed
    cases completed
    have same : (row.completed delivered error now).id = message.eventId := by
      rw [← show row.id = message.eventId from key_of_lookup found]
      cases delivered <;> rfl
    rw [Keyed.get_set, same]
    by_cases mine : message.eventId = id
    · subst mine
      simp [found]
    · simp [mine]

theorem get_journal {new : OutboxEvent} (fresh : outbox.get new.id = none) (found : outbox.get id = some row) :
    (outbox.journal new).get id = some row := by
  unfold Outbox.journal
  split
  · exact found
  · have other : new.id ≠ id := by
      rintro rfl
      rw [fresh] at found
      cases found
    rw [Keyed.get_set, if_neg other, found]

end Transactions

namespace OutboxWorker

def Claims (id : UUID) : Event OutboxPort PyError → Prop
  | ⟨.claim _ _ _, .ok messages⟩ => id ∈ (messages : List OutboxMessage).map (·.eventId)
  | _ => False

def Delivers (id : UUID) : Event OutboxPort PyError → Prop
  | ⟨.complete message delivered _ _, .ok _⟩ => delivered = true ∧ message.eventId = id
  | _ => False

def overtaken (outbox : Outbox) : Event OutboxPort PyError → Bool
  | ⟨.complete message delivered _ _, .ok _⟩ =>
    !delivered && (outbox.get message.eventId).any (·.status = .published)
  | _ => false

variable {outbox after : Outbox} {event : Event OutboxPort PyError} {id : UUID}

theorem complete_step {message : OutboxMessage} {delivered : Bool} {error : Option String} {now : Instant}
    {reply : Except PyError Unit}
    (step : environment.step outbox ⟨.complete message delivered error now, reply⟩ after) :
    reply = .ok () ∧ outbox.complete message delivered error now = .ok after ∨ after = outbox := by
  rcases step with ⟨_, rfl, computed⟩ | ⟨_, rfl⟩
  · cases completed : outbox.complete message delivered error now with
    | error => simp [completed, Except.map] at computed
    | ok =>
      simp only [completed, Except.map, Except.ok.injEq, Prod.mk.injEq, true_and] at computed
      exact .inl ⟨rfl, congrArg _ computed⟩
  · exact .inr rfl

theorem published_step (timely : overtaken outbox event = false) (step : environment.step outbox event after)
    (published : Published outbox id) : Published after id ∧ ¬ Claims id event := by
  obtain ⟨row, found, status⟩ := published
  obtain ⟨op, reply⟩ := event
  cases op with
  | clock =>
    rw [show after = outbox from step]
    exact ⟨⟨row, found, status⟩, not_false⟩
  | deliver =>
    rw [show after = outbox from step]
    exact ⟨⟨row, found, status⟩, not_false⟩
  | claim =>
    rcases step with ⟨messages, rfl, claimed⟩ | ⟨⟨error, rfl⟩, rfl⟩
    · rcases get_claim claimed id with ⟨notTaken, same⟩ | ⟨taken, takenFound, claimable, _⟩
      · exact ⟨⟨row, same.trans found, status⟩, notTaken⟩
      · -- a published event is not claimable
        rw [found, Option.some.injEq] at takenFound
        subst takenFound
        simp [OutboxEvent.claimable, status] at claimable
    · exact ⟨⟨row, found, status⟩, not_false⟩
  | complete message delivered =>
    refine ⟨?_, not_false⟩
    rcases complete_step step with ⟨rfl, completed⟩ | rfl
    · have shown := get_complete completed id
      by_cases mine : message.eventId = id
      · rw [if_pos mine, found, Option.map_some] at shown
        refine ⟨_, shown, ?_⟩
        cases delivered with
        | true => rfl
        | false => simp [overtaken, mine, found, status] at timely
      · rw [if_neg mine] at shown
        exact ⟨row, shown.trans found, status⟩
    · exact ⟨row, found, status⟩
  | journal =>
    refine ⟨?_, not_false⟩
    rcases step with ⟨fresh, _, rfl⟩ | ⟨_, rfl⟩
    · exact ⟨row, get_journal fresh found, status⟩
    · exact ⟨row, found, status⟩

theorem delivers_of_published (step : environment.step outbox event after) (published : Published after id) :
    Published outbox id ∨ Delivers id event := by
  obtain ⟨row, found, status⟩ := published
  obtain ⟨op, reply⟩ := event
  cases op with
  | clock => exact .inl ⟨row, (show after = outbox from step) ▸ found, status⟩
  | deliver => exact .inl ⟨row, (show after = outbox from step) ▸ found, status⟩
  | claim =>
    rcases step with ⟨messages, rfl, claimed⟩ | ⟨_, rfl⟩
    · rcases get_claim claimed id with ⟨_, same⟩ | ⟨taken, _, _, shown⟩
      · exact .inl ⟨row, same ▸ found, status⟩
      · rw [found, Option.some.injEq] at shown
        rw [shown] at status
        cases status
    · exact .inl ⟨row, found, status⟩
  | complete message delivered =>
    rcases complete_step step with ⟨rfl, completed⟩ | rfl
    · have shown := get_complete completed id
      by_cases mine : message.eventId = id
      · cases delivered with
        | true => exact .inr ⟨rfl, mine⟩
        | false =>
          rw [if_pos mine, found, eq_comm, Option.map_eq_some_iff] at shown
          obtain ⟨old, _, rfl⟩ := shown
          cases status
      · rw [if_neg mine] at shown
        exact .inl ⟨row, shown ▸ found, status⟩
    · exact .inl ⟨row, found, status⟩
  | journal new =>
    rcases step with ⟨_, pending, rfl⟩ | ⟨_, rfl⟩
    · left
      unfold Outbox.journal at found
      split at found
      · exact ⟨row, found, status⟩
      · rw [Keyed.get_set] at found
        split at found
        · -- a new event is pending
          cases found
          rw [pending] at status
          cases status
        · exact ⟨row, found, status⟩
    · exact .inl ⟨row, found, status⟩

theorem claimable_later {row : OutboxEvent} (unpublished : row.status ≠ .published) (staleAfter : Int) :
    ∃ time, ∀ now, time ≤ now → row.claimable now (now - staleAfter) = true := by
  cases status : row.status with
  | published => exact absurd status unpublished
  | pending =>
    refine ⟨row.availableAt, fun now later => ?_⟩
    simp [OutboxEvent.claimable, status, later]
  | sending =>
    obtain ⟨lockedAt, locked⟩ := Option.isSome_iff_exists.mp (row.sending_locked status)
    refine ⟨max row.availableAt (lockedAt + staleAfter + 1), fun now later => ?_⟩
    have due := (le_max_left _ _).trans later
    have stale := (le_max_right _ _).trans later
    simp only [OutboxEvent.claimable, status, locked, due, reduceCtorEq, true_and, false_or, Option.any_some,
      decide_eq_true_eq]
    exact Int.lt_sub_right_of_add_lt (Int.lt_of_add_one_le stale)

variable {ι : Type} [DecidableEq ι]

theorem delivered_of_published {pool final : Pool OutboxPort PyError Nat Outbox ι}
    {labels : List (Label OutboxPort PyError Nat ι Job)}
    (run : Pool.Run environment (fun _ => Job.program) pool labels final) (published : Published final.shared id) :
    Published pool.shared id ∨ ∃ event ∈ eventsOf labels, Delivers id event := by
  induction run with
  | nil => exact .inl published
  | snoc _ step ih =>
    cases step with
    | start => simpa using ih published
    | returned => simpa using ih published
    | raised => simpa using ih published
    | crash => simpa using ih published
    | event _ answered =>
      rw [eventsOf_event]
      rcases delivers_of_published answered published with earlier | delivers
      · rcases ih earlier with initially | ⟨event, member, delivers⟩
        · exact .inl initially
        · exact .inr ⟨event, List.mem_append_left _ member, delivers⟩
      · exact .inr ⟨_, List.mem_append_right _ (List.mem_singleton.mpr rfl), delivers⟩

abbrev Timely (_ : List (Label OutboxPort PyError Nat ι Job)) (outbox : Outbox)
    (label : Label OutboxPort PyError Nat ι Job) : Prop :=
  ∀ event ∈ label.made?, overtaken outbox event = false

/-! ### Two dispatchers -/

namespace Demo

structure Bench where
  outbox : Outbox
  times : List Instant
  deliveries : List Bool

def failure : OutboxEvent where
  id := ⟨"event"⟩
  deduplicationKey := "job-failure"
  aggregateType := "worker_job"
  aggregateId := "reconciliation"
  eventType := "WORKER_JOB_FAILED"
  availableAt := 0
  createdAt := 0
  sending_locked := OutboxEvent.pending_unlocked

def settle {α : Type} (bench : Bench) : Except PyError (α × Outbox) → Except PyError α × Bench
  | .ok (value, outbox) => (.ok value, { bench with outbox })
  | .error error => (.error error, bench)

def responder : Responder OutboxPort PyError Bench where
  respond bench
    | .clock => (.ok (bench.times.headD 0), { bench with times := bench.times.tail })
    | .deliver _ =>
      let delivered := bench.deliveries.headD false
      (.ok (delivered, if delivered then none else some "NOTIFIER_RETURNED_FALSE"),
        { bench with deliveries := bench.deliveries.tail })
    | .claim now limit staleAfter => settle bench (bench.outbox.claim now limit staleAfter)
    | .complete message delivered error now =>
      settle bench ((bench.outbox.complete message delivered error now).map fun after => ((), after))
    | .journal _ => (.error (.other "OperationalError" "read-only"), bench)

theorem settle_transaction {α : Type} (bench : Bench) (computed : Except PyError (α × Outbox)) :
    Transaction bench.outbox computed (settle bench computed).1 (settle bench computed).2.outbox := by
  cases computed with
  | error error => exact .inr ⟨⟨error, rfl⟩, rfl⟩
  | ok result => exact .inl ⟨result.1, rfl, rfl⟩

theorem responder_within : responder.Within environment Bench.outbox := by
  intro bench op
  cases op with
  | clock => rfl
  | deliver => rfl
  | claim => exact settle_transaction bench _
  | complete => exact settle_transaction bench _
  | journal => exact .inr ⟨⟨_, rfl⟩, rfl⟩

def bench : Bench := ⟨.ofList [failure], [0, 301000000, 302000000, 303000000], [true, false]⟩

def takeover : List (Turn Bool Job) :=
  [.start false .dispatch, .step false, .step false, .start true .dispatch] ++ List.replicate 5 (.step true)

def overdue : List (Turn Bool Job) := List.replicate 3 (.step false)

def prompt : List (Turn Bool Job) := [.start false .dispatch] ++ List.replicate 5 (.step false)

def afterwards : List (Turn Bool Job) := [.start true .dispatch] ++ List.replicate 3 (.step true)

def play (pool : Pool OutboxPort PyError Nat Bench Bool) (turns : List (Turn Bool Job)) :
    List (Label OutboxPort PyError Nat Bool Job) × Pool OutboxPort PyError Nat Bench Bool :=
  Pool.schedule responder (fun _ => Job.program) pool turns

theorem run_play (pool : Pool OutboxPort PyError Nat Bench Bool) (turns : List (Turn Bool Job)) :
    Pool.Run environment (fun _ => Job.program) (pool.view Bench.outbox) (play pool turns).1
      ((play pool turns).2.view Bench.outbox) :=
  Pool.run_schedule responder_within pool turns

def statusIn (pool : Pool OutboxPort PyError Nat Bench Bool) : Option OutboxStatus :=
  (pool.shared.outbox.get failure.id).map (·.status)

theorem published_of_status {pool : Pool OutboxPort PyError Nat Bench Bool}
    (status : statusIn pool = some .published) : Published (pool.view Bench.outbox).shared failure.id :=
  Option.map_eq_some_iff.mp status

end Demo

open OutboxWorker.Demo

/-- **Published events stay published** if no failed delivery is recorded for one, and an undelivered event can
be claimed later. -/
theorem published_events_stay (initial : Outbox) (labels later : List (Label OutboxPort PyError Nat ι Job))
    (middle final : Pool OutboxPort PyError Nat Outbox ι)
    (before : Pool.RunWhen Timely environment (fun _ => Job.program) (Pool.idle initial) labels middle)
    (rest : Pool.RunWhen Timely environment (fun _ => Job.program) middle later final) :
    (∀ id, Published middle.shared id →
      Published final.shared id ∧ ∀ event ∈ eventsOf later, ¬ Claims id event) ∧
    ∀ id row, final.shared.get id = some row → ¬ Published initial id →
      (∀ event ∈ eventsOf (labels ++ later), ¬ Delivers id event) →
      ∀ staleAfter, ∃ time, ∀ now, time ≤ now → row.claimable now (now - staleAfter) = true := by
  constructor
  · intro id published
    exact rest.along (fun _ _ _ timely step holding => published_step timely step holding) published
  · intro id row found unpublished undelivered
    apply claimable_later
    intro status
    rcases delivered_of_published (before.run.append rest.run) ⟨row, found, status⟩ with initially | delivered
    · exact unpublished initially
    · obtain ⟨event, member, delivers⟩ := delivered
      exact undelivered event member delivers

/-- A prompt delivery is never undone. -/
theorem published_events_stay_prompt :
    Published (play (play (Pool.idle bench) prompt).2 afterwards).2.shared.outbox
      failure.id := by
  have firstMeets : Pool.ScheduleMeets Timely Bench.outbox responder (fun _ => Job.program) []
      (Pool.idle bench) prompt := by decide +kernel
  have restMeets : Pool.ScheduleMeets Timely Bench.outbox responder (fun _ => Job.program) []
      (play (Pool.idle bench) prompt).2 afterwards := by decide +kernel
  have published : statusIn (play (Pool.idle bench) prompt).2 = some .published := by
    decide +kernel
  have before := Pool.RunWhen.schedule responder_within .nil firstMeets
  have rest := Pool.RunWhen.schedule responder_within .nil restMeets
  exact ((published_events_stay _ _ _ _ _ before rest).1 _ (published_of_status published)).1

/-- A dispatcher with a stale claim makes a published event pending again. -/
theorem published_event_reverted :
    ∃ (labels later : List (Label OutboxPort PyError Nat Bool Job))
      (middle final : Pool OutboxPort PyError Nat Outbox Bool),
      Pool.Run environment (fun _ => Job.program) (Pool.idle (.ofList [failure])) labels middle ∧
      Pool.Run environment (fun _ => Job.program) middle later final ∧
      Published middle.shared failure.id ∧ ¬ Published final.shared failure.id := by
  have published : statusIn (play (Pool.idle bench) takeover).2 = some .published := by
    decide +kernel
  have reverted : statusIn (play (play (Pool.idle bench) takeover).2 overdue).2 =
      some .pending := by decide +kernel
  refine ⟨_, _, _, _, run_play (Pool.idle bench) takeover,
    run_play (play (Pool.idle bench) takeover).2 overdue,
    published_of_status published, ?_⟩
  rintro ⟨row, found, status⟩
  have shown : statusIn (play (play (Pool.idle bench) takeover).2 overdue).2 =
      some .published := Option.map_eq_some_iff.mpr ⟨row, found, status⟩
  rw [reverted] at shown
  cases shown

end OutboxWorker

end GoldFlow
