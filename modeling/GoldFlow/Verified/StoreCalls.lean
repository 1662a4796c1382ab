import GoldFlow.Effect.Logic
import GoldFlow.Verified.CallHistory

/-! # What a call learns from its store -/

namespace GoldFlow

open Effect TradeExecutor SqlAlchemyIdempotencyStore

variable {executor : TradeExecutor} {role : Role} {history : List PortEvent} {β : Type} {error : PyError}
  {attempt : ExecutionAttempt} {key : String}

/-! ## Asking a port -/

theorem keeps_ask (op : Op) {returns : List PortEvent → op.Value → Prop}
    (permitted : Discipline executor role history op)
    (answered : ∀ value, returns (history ++ [⟨op, .ok value⟩]) value) :
    Keeps (Discipline executor role) Excused returns (Program.perform (S := Port) op) history :=
  Keeps.perform (S := Port) op permitted (excused_last op) answered

theorem keeps_ask_bind {op : Op} {concluded : List PortEvent → β → Prop} {next : op.Value → Py β}
    (permitted : Discipline executor role history op)
    (rest : ∀ value, Keeps (Discipline executor role) Excused concluded (next value) (history ++ [⟨op, .ok value⟩])) :
    Keeps (Discipline executor role) Excused concluded ((Program.perform (S := Port) op).bind next) history :=
  Keeps.perform_bind permitted (excused_last op) rest

theorem keeps_try (op : Op) {concluded : List PortEvent → Except β op.Value → Prop} {catches : PyError → Bool}
    {recover : PyError → β} (permitted : Discipline executor role history op)
    (completed : ∀ value, concluded (history ++ [⟨op, .ok value⟩]) (.ok value))
    (recovered : ∀ error, catches error = true → concluded (history ++ [⟨op, .error error⟩]) (.error (recover error))) :
    Keeps (Discipline executor role) Excused concluded
      ((Program.perform (S := Port) op).catching catches recover) history :=
  Keeps.catching_perform (S := Port) op permitted (fun error _ => excused_last op error) completed recovered

/-! ## Reading a record -/

/-- What a call knows after reading the record of `key`. -/
def RecordRead (history : List PortEvent) (key : String) (later : List PortEvent) :
    Option ExecutionRecord → Prop
  | none => Reads history later
  | some record => history ⊆ later ∧ Shown later record ∧
      progressOf later = (progressOf history).read key record.entry

theorem requestFromPayload_fault {payload : RequestPayload} (raised : requestFromPayload payload = .error error) :
    error.isFault = true := by
  unfold requestFromPayload OrderRequest.make at raised
  split at raised
  · split at raised
    · split at raised
      · cases raised
      · cases raised; rfl
    · cases raised; rfl
  · cases raised; rfl

theorem record_fault (raised : SqlAlchemyIdempotencyStore.record attempt = .error error) : error.isFault = true := by
  unfold SqlAlchemyIdempotencyStore.record at raised
  cases parsed : requestFromPayload attempt.requestPayload with
  | ok => simp [parsed, bind, Except.bind, pure, Except.pure] at raised
  | error =>
    simp only [parsed, bind, Except.bind, Except.error.injEq] at raised
    exact raised ▸ requestFromPayload_fault parsed

theorem shown_select {record : ExecutionRecord} (read : SqlAlchemyIdempotencyStore.record attempt = .ok record) :
    Shown (history ++ [⟨.attempts (.select key), .ok (some attempt)⟩]) record :=
  ⟨_, List.mem_append_right _ (.head _), by simp [recordShown, read, Except.toOption]⟩

theorem keeps_get (permitted : MayRead role history key) :
    Keeps (Discipline executor role) Excused (RecordRead history key) (executor.store.get key) history := by
  unfold TradeExecutor.store
  cases uses : executor.kind with
  | inMemory =>
    refine keeps_ask (.records (.get key)) ⟨uses, permitted⟩ fun found => ?_
    cases found with
    | none => exact (Reads.refl _).snoc fun _ => rfl
    | some =>
      refine ⟨List.subset_append_left _ _, ⟨_, List.mem_append_right _ (.head _), rfl⟩, ?_⟩
      rw [progressOf_append_singleton]
      rfl
  | sqlAlchemy =>
    refine keeps_ask_bind ⟨uses, permitted⟩ fun found => ?_
    cases found with
    | none => exact Keeps.pure ((Reads.refl _).snoc fun _ => rfl)
    | some attempt =>
      refine Keeps.ofExcept_bind ?_ fun record read => ?_
      · exact fun error raised => excused_of_fault (record_fault raised)
      have same : record.entry = attempt.entry := by
        obtain ⟨fill, status⟩ := record_eq_ok read
        simp [ExecutionRecord.entry, ExecutionAttempt.entry, fill, status]
      refine Keeps.pure ⟨List.subset_append_left _ _, shown_select read, ?_⟩
      rw [progressOf_append_singleton, same]
      rfl

/-! ## Claiming a key -/

def ClaimAnswered (kind : StoreKind) (history : List PortEvent) (request : OrderRequest)
    (later : List PortEvent) : ExecutionRecord × Bool → Prop
  | (_, true) => history ⊆ later ∧ ClaimWon kind later request ∧
      progressOf later = (progressOf history).claim request.idempotencyKey request.fill
  | (record, false) => Shown later record

theorem integrity_fault (caught : isIntegrity error = true) : error.isFault = true := by
  cases error with
  | integrity => rfl
  | _ => cases caught

theorem keeps_claim {request : OrderRequest} (permitted : MayRead role history request.idempotencyKey) (now : Instant) :
    Keeps (Discipline executor role) Excused (ClaimAnswered executor.kind history request)
      (executor.store.claim request now) history := by
  unfold TradeExecutor.store
  generalize uses : executor.kind = kind
  -- a record found in place of the claim
  have taken : ∀ (earlier : List PortEvent) (attempt : ExecutionAttempt),
      Keeps (Discipline executor role) Excused (ClaimAnswered kind history request)
        ((·, false) <$> Program.ofExcept (SqlAlchemyIdempotencyStore.record attempt))
        (earlier ++ [⟨.attempts (.select request.idempotencyKey), .ok (some attempt)⟩]) := by
    intro earlier attempt
    refine Keeps.ofExcept_bind ?_ fun record read => ?_
    · exact fun error raised => excused_of_fault (record_fault raised)
    · exact Keeps.pure (shown_select read)
  cases kind with
  | inMemory =>
    refine keeps_ask (.records (.claim request now)) ⟨uses, permitted⟩ ?_
    rintro ⟨record, won⟩
    cases won with
    | true =>
      exact ⟨List.subset_append_left _ _, ⟨_, List.mem_append_right _ (.head _), rfl⟩,
        progressOf_append_singleton _ _⟩
    | false => exact ⟨_, List.mem_append_right _ (.head _), rfl⟩
  | sqlAlchemy =>
    refine keeps_ask_bind ⟨uses, permitted⟩ fun found => ?_
    cases found with
    | some attempt => exact taken _ attempt
    | none =>
      refine keeps_ask_bind uses fun orderId => ?_
      have reads : Reads history (history ++
          [⟨.attempts (.select request.idempotencyKey), .ok none⟩] ++
          [⟨.attempts (.resolveOrderId request), .ok orderId⟩]) :=
        ((Reads.refl history).snoc fun _ => rfl).snoc fun _ => rfl
      generalize history ++ _ ++ _ = asked at reads ⊢
      have inserted : Keeps (Discipline executor role) Excused
          (fun later result =>
            (result = .ok () → ClaimAnswered .sqlAlchemy history request later (.fresh request now, true)) ∧
              ∀ error, result = .error error → error.isFault = true ∧ Reads history later)
          (Program.catching
            (askAttempts (.insertClaim orderId request now))
            isIntegrity id) asked := by
        refine keeps_try (.attempts (.insertClaim orderId request now))
          ⟨uses, permitted.after reads⟩ (fun _ => ⟨fun _ => ?_, by simp⟩)
          fun _ caught => ⟨by simp, by rintro _ ⟨⟩; exact ⟨integrity_fault caught, reads.snoc fun _ => rfl⟩⟩
        refine ⟨fun _ member => List.mem_append_left _ (reads.included member),
          ⟨_, List.mem_append_right _ (.head _), rfl⟩, ?_⟩
        rw [progressOf_append_singleton, reads.progress]
        rfl
      refine Keeps.bind inserted ?_
      intro later result answered
      cases result with
      | ok =>
        refine Keeps.ofExcept_bind ?_ fun record _ => Keeps.pure (answered.1 rfl)
        exact fun error raised => excused_of_fault (record_fault raised)
      | error error =>
        -- the insert lost the race: the winner's row is read
        obtain ⟨fault, unchanged⟩ := answered.2 error rfl
        refine keeps_ask_bind ⟨uses, permitted.after unchanged⟩ fun raced => ?_
        cases raced with
        | none => exact Keeps.raise (excused_of_fault fault)
        | some attempt => exact taken _ attempt

/-! ## Updating a record -/

structure Updated (kind : StoreKind) (history : List PortEvent) (key : String)
    (status : IdempotencyStatus) (later : List PortEvent) (record : ExecutionRecord) : Prop where
  included : history ⊆ later
  progress : progressOf later = (progressOf history).know status
  shown : Shown later record
  submitted : status = .submitted → JustSubmitted kind later key

theorem keeps_update {status : IdempotencyStatus} {known : Working}
    (permitted : MayUpdate executor role history key status known) (now : Instant) (report : Option ExecutionReport)
    (reason : String) :
    Keeps (Discipline executor role) Excused (Updated executor.kind history key status)
      (executor.store.update key status now report reason) history := by
  unfold TradeExecutor.store
  cases uses : executor.kind with
  | inMemory =>
    refine keeps_ask (.records (.update key status now report reason)) ⟨uses, known, permitted⟩
      fun record => ?_
    refine ⟨List.subset_append_left _ _, progressOf_append_singleton _ _,
      ⟨_, List.mem_append_right _ (.head _), rfl⟩, ?_⟩
    rintro rfl
    exact ⟨history, _, rfl, rfl⟩
  | sqlAlchemy =>
    refine keeps_ask_bind ⟨uses, known, permitted⟩ fun attempt => ?_
    refine Keeps.ofExcept ?_ fun record read => ?_
    · exact fun error raised => excused_of_fault (record_fault raised)
    refine ⟨List.subset_append_left _ _, progressOf_append_singleton _ _,
      ⟨_, List.mem_append_right _ (.head _), by simp [recordShown, read, Except.toOption]⟩, ?_⟩
    rintro rfl
    exact ⟨history, _, rfl, rfl⟩

end GoldFlow
