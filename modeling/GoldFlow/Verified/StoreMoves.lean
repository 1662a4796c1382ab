import GoldFlow.Verified.Reconciliation

/-! # What one request does to a call and to its store -/

namespace GoldFlow

open Effect

variable {executor : TradeExecutor} {role : Role} {history : List PortEvent} {event : PortEvent} {state after : World}

inductive StoreMove (executor : TradeExecutor) (role : Role) (history : List PortEvent)
    (event : PortEvent) : Prop
  | claimed {key : String} {fill : Fill} (permitted : MayRead role history key)
      (action : executor.kind.action event = .claim key fill) (own : fill.key = key)
      (working : (progressOf (history ++ [event])).working =
        some { key, fill, status := .claimed, own := true })
  | read {key : String} {entry : StoreEntry} (permitted : MayRead role history key)
      (action : executor.kind.action event = .idle)
      (reads : executor.kind.reads event = some (key, entry))
      (working : (progressOf (history ++ [event])).working =
        some { key, fill := entry.data, status := entry.status, own := false })
  | recorded {known : Working} {status : IdempotencyStatus}
      (permitted : MayUpdate executor role history known.key status known)
      (action : executor.kind.action event = .advance known.key status)
      (working : (progressOf (history ++ [event])).working = some { known with status })
  | aside (action : executor.kind.action event = .idle)
      (working : (progressOf (history ++ [event])).working = (progressOf history).working)

theorem StoreMove.idle (action : executor.kind.action event = .idle)
    (observed : ∀ progress : Progress, (progress.observe event).working = progress.working) :
    StoreMove executor role history event :=
  .aside action (by rw [progressOf_append_singleton, observed])

theorem storeMove_records {op : RecordOp} {reply : Except PyError op.Value}
    (permitted : Discipline executor role history (.records op)) :
    StoreMove executor role history ⟨.records op, reply⟩ := by
  cases op with
  | claim =>
    obtain ⟨uses, readable⟩ := permitted
    match reply with
    | .ok (_, true) =>
      exact .claimed readable (by rw [uses]; rfl) rfl (by rw [progressOf_append_singleton]; rfl)
    | .ok (_, false) => exact .idle (by rw [uses]; rfl) fun _ => rfl
    | .error _ => exact .idle (by rw [uses]; rfl) fun _ => rfl
  | get =>
    obtain ⟨uses, readable⟩ := permitted
    match reply with
    | .ok (some record) =>
      exact .read readable (by rw [uses]; rfl) (by rw [uses]; rfl)
        (by rw [progressOf_append_singleton]; rfl)
    | .ok none => exact .idle (by rw [uses]; rfl) fun _ => rfl
    | .error _ => exact .idle (by rw [uses]; rfl) fun _ => rfl
  | update =>
    obtain ⟨uses, known, updatable⟩ := permitted
    cases reply with
    | error => exact .idle (by rw [uses]; rfl) fun _ => rfl
    | ok =>
      obtain rfl := updatable.key_eq
      apply StoreMove.recorded updatable (by rw [uses]; rfl)
      rw [progressOf_append_singleton]
      simp only [Progress.observe, Progress.know, updatable.working, Option.map_some]

theorem storeMove_attempts {op : AttemptOp} {reply : Except PyError op.Value}
    (permitted : Discipline executor role history (.attempts op)) :
    StoreMove executor role history ⟨.attempts op, reply⟩ := by
  cases op with
  | select =>
    obtain ⟨uses, readable⟩ := permitted
    match reply with
    | .ok (some attempt) =>
      exact .read readable (by rw [uses]; rfl) (by rw [uses]; rfl)
        (by rw [progressOf_append_singleton]; rfl)
    | .ok none => exact .idle (by rw [uses]; rfl) fun _ => rfl
    | .error _ => exact .idle (by rw [uses]; rfl) fun _ => rfl
  | resolveOrderId => exact .idle (by rw [permitted]; rfl) fun _ => rfl
  | insertClaim =>
    obtain ⟨uses, readable⟩ := permitted
    cases reply with
    | error => exact .idle (by rw [uses]; rfl) fun _ => rfl
    | ok =>
      exact .claimed readable (by rw [uses]; rfl) rfl (by rw [progressOf_append_singleton]; rfl)
  | update =>
    obtain ⟨uses, known, updatable⟩ := permitted
    cases reply with
    | error => exact .idle (by rw [uses]; rfl) fun _ => rfl
    | ok =>
      obtain rfl := updatable.key_eq
      apply StoreMove.recorded updatable (by rw [uses]; rfl)
      rw [progressOf_append_singleton]
      simp only [Progress.observe, Progress.know, updatable.working, Option.map_some]

/-- **Every permitted request is one of the four.** -/
theorem storeMove_of_permitted (permitted : Discipline executor role history event.1) :
    StoreMove executor role history event := by
  obtain ⟨op, reply⟩ := event
  cases op with
  | records => exact storeMove_records permitted
  | attempts => exact storeMove_attempts permitted
  | broker op =>
    apply StoreMove.idle (by cases executor.kind <;> rfl)
    intro progress
    cases op <;> rfl
  | _ =>
    exact .idle (by cases executor.kind <;> rfl) fun _ => rfl

def KnowsStored (kind : StoreKind) (history : List PortEvent) (state : World) : Prop :=
  ∀ known, (progressOf history).working = some known →
    state.entries kind known.key = some { data := known.fill, status := known.status }

theorem StoreMove.knows_stored (move : StoreMove executor role history event)
    (before : KnowsStored executor.kind history state) (step : world.step state event after) :
    KnowsStored executor.kind (history ++ [event]) after := by
  intro known knows
  have refined := world_refines_ledger executor.kind step
  cases move with
  | claimed permitted action own working =>
    rw [working] at knows
    cases knows
    rw [action] at refined
    exact refined.claim_inversion.2
  | read permitted action reads working =>
    rw [working] at knows
    cases knows
    rw [action] at refined
    rw [refined.idle_inversion]
    exact stored_of_reads reads step
  | recorded permitted action working =>
    rw [working] at knows
    cases knows
    rw [action] at refined
    obtain ⟨entry, found, _, moved⟩ := refined.advance_inversion
    rw [before _ permitted.working] at found
    cases found
    exact moved
  | aside action working =>
    rw [working] at knows
    rw [action] at refined
    rw [refined.idle_inversion]
    exact before known knows

section Shown

variable {state after : World} {record : ExecutionRecord}

theorem shown_records {op : RecordOp} {reply : Except PyError op.Value} (step : state.recordStep op reply after)
    (shown : recordShown ⟨.records op, reply⟩ = some record) :
    ∃ key, after.entries .inMemory key = some record.entry := by
  cases recordMove_of_step step with
  | @claimed request now free =>
    cases shown
    exact ⟨request.idempotencyKey, by simp [World.entries]⟩
  | @taken request now existing found =>
    cases shown
    exact ⟨request.idempotencyKey, by simp [World.entries, found]⟩
  | @read key =>
    have found : state.records key = some record := shown
    exact ⟨key, by simp [World.entries, found]⟩
  | @updated key =>
    cases shown
    exact ⟨key, by simp [World.entries]⟩
  | missing | refused _ _ => cases shown

theorem entry_of_decoded {attempt : ExecutionAttempt}
    (decoded : (SqlAlchemyIdempotencyStore.record attempt).toOption = some record) :
    attempt.entry = record.entry := by
  obtain ⟨fill, status⟩ := SqlAlchemyIdempotencyStore.record_eq_ok (Data.toOption_eq_some.mp decoded)
  rw [ExecutionRecord.entry, ExecutionAttempt.entry, fill, status]

theorem shown_attempts {op : AttemptOp} {reply : Except PyError op.Value} (step : state.attemptStep op reply after)
    (shown : recordShown ⟨.attempts op, reply⟩ = some record) :
    ∃ key, after.entries .sqlAlchemy key = some record.entry := by
  cases attemptMove_of_step step with
  | @selected key =>
    cases found : state.attempts key with
    | none =>
      rw [found] at shown
      cases shown
    | some =>
      rw [found] at shown
      rw [← entry_of_decoded shown]
      exact ⟨key, by simp [World.entries, found]⟩
  | @updated key =>
    rw [← entry_of_decoded shown]
    exact ⟨key, by simp [World.entries]⟩
  | resolved _ | inserted _ | taken | missing | refused _ _ => cases shown
  | failed => cases op <;> cases shown

theorem shown_stored (permitted : Discipline executor role history event.1) (step : world.step state event after)
    (shown : recordShown event = some record) : ∃ key, after.entries executor.kind key = some record.entry := by
  obtain ⟨op, reply⟩ := event
  cases op with
  | records op =>
    have uses : executor.kind = .inMemory := by
      cases op <;> exact permitted.1
    rw [uses]
    exact shown_records step shown
  | attempts op =>
    have uses : executor.kind = .sqlAlchemy := by
      cases op with
      | resolveOrderId => exact permitted
      | select => exact permitted.1
      | insertClaim => exact permitted.1
      | update => exact permitted.1
    rw [uses]
    exact shown_attempts step shown
  | _ =>
    cases shown

end Shown

/-! ## Refusals -/

theorem refused_update {op : Op} {error : PyError} (permitted : Discipline executor role history op)
    (step : world.step state ⟨op, .error error⟩ after) (refused : error.isFault = false) :
    ∃ key status known entry, MayUpdate executor role history key status known ∧
      state.entries executor.kind key = some entry ∧ ¬ entry.status.Follows status := by
  have unfaulted : error.isFault ≠ true := by simp [refused]
  -- an answer that may be anything is not a refusal
  have any : ∀ {α : Type}, ¬ AnyAnswer (.error error : Except PyError α) := by
    intro α answered
    cases answered with
    | fault fault => exact unfaulted fault
  cases op with
  | records =>
    cases recordMove_of_step step with
    | missing => cases refused
    | @refused key status _ _ _ current _ found refusal =>
      obtain ⟨uses, known, updatable⟩ := permitted
      exact ⟨key, status, known, current.entry, updatable, by simp [uses, World.entries, found], refusal⟩
  | attempts =>
    cases attemptMove_of_step step with
    | failed fault => exact absurd fault unfaulted
    | resolved answered => exact absurd answered any
    | taken | missing => cases refused
    | @refused key status _ _ _ current _ found refusal =>
      obtain ⟨uses, known, updatable⟩ := permitted
      exact ⟨key, status, known, current.entry, updatable, by simp [uses, World.entries, found], refusal⟩
  | config op =>
    cases op with
    | _ =>
      cases step with
      | refused impossible => cases impossible
      | failed fault => exact absurd fault unfaulted
  | controls => cases step.1
  | broker op | circuit op | journal op | ledger op => exact absurd step.1 any
  | clock =>
    obtain ⟨⟨now, same⟩, _⟩ := step
    cases same
  | sleep => cases step.1

end GoldFlow
