import GoldFlow.Verified.Submission

/-! # Reconciliation of an unknown result

`reconcile_unknown` keeps the discipline of a call as well.
-/

namespace GoldFlow

open Effect TradeExecutor

variable {executor : TradeExecutor} {history later : List PortEvent} {key : String} {record : ExecutionRecord}

/-- A `reconcile_unknown` call never sends, and settles the record it has read. -/
def reconciling (key : String) : Role where
  cleared := fun _ _ => False
  about := fun _ other => other = key
  settles := fun known =>
    known.own = false ∧ (known.status = .submitted ∨ known.status = .unknown)
  about_mono := fun same _ => same

/-- The call has read the record of `key` and may resolve it. -/
structure Reconciling (history : List PortEvent) (key : String) (record : ExecutionRecord) :
    Prop where
  shown : Shown history record
  working : (progressOf history).working =
    some { key, fill := record.request.fill, status := record.status, own := false }
  modifies : (progressOf history).modifies = 0
  closes : (progressOf history).closes = 0
  open_ : record.status = .submitted ∨ record.status = .unknown

namespace Reconciling

variable {record : ExecutionRecord}

theorem after (resolving : Reconciling history key record) (reads : Reads history later) :
    Reconciling later key record := by
  obtain ⟨event, member, shows⟩ := resolving.shown
  exact
    { shown := ⟨event, reads.included member, shows⟩
      working := by rw [reads.progress, resolving.working]
      modifies := by rw [reads.progress, resolving.modifies]
      closes := by rw [reads.progress, resolving.closes]
      open_ := resolving.open_ }

theorem mayModify (resolving : Reconciling history key record) : MayModify (reconciling key) history :=
  ⟨⟨_, resolving.working, ⟨rfl, resolving.open_⟩, resolving.open_⟩, resolving.modifies, resolving.closes⟩

theorem mayUpdate (executor : TradeExecutor) (resolving : Reconciling history key record)
    (protects : Protects history later) {status : IdempotencyStatus}
    (final : status = .succeeded ∨ status = .protectionFailed)
    (evidence : status = .succeeded → record.request.orderType = .market →
      record.request.idempotencyKey = key →
      ProtectionConfirmed executor.sha256 later record.request.fill ∨
        ListedOnlyAsOrder executor later key) :
    MayUpdate executor (reconciling key) later key status
      { key, fill := record.request.fill, status := record.status, own := false } where
  working := by rw [protects.working, resolving.working]
  key_eq := rfl
  settles := ⟨rfl, resolving.open_⟩
  allowed := by
    show status ∈ record.status.allowed
    obtain submitted | unknown := resolving.open_
    · rw [submitted]
      obtain rfl | rfl := final <;> decide
    · rw [unknown]
      obtain rfl | rfl := final <;> decide
  evidence
  untouched := fun unknown => by
    obtain rfl | rfl := final <;> cases unknown

end Reconciling

theorem keeps_resolve {status : IdempotencyStatus} {known : Working}
    (permitted : MayUpdate executor (reconciling key) history key status known) (report : ExecutionReport)
    (reason : String) :
    Keeps (Discipline executor (reconciling key)) Excused Justified
      (executor.resolve key status report reason) history := by
  refine Keeps.bind (keeps_mark permitted (some report) reason) ?_
  intro later record marked
  exact Keeps.pure (justified_outcomeFromRecord marked.shown none)

theorem keeps_resolvePosition (resolving : Reconciling history key record) {positions : List BrokerPosition}
    {position : BrokerPosition}
    (answered : Returned history (.broker (.getPositions (some record.request.symbol))) positions)
    (matched : executor.matchedPosition record key positions = some position) :
    Keeps (Discipline executor (reconciling key)) Excused Justified
      (executor.resolvePosition record key position) history := by
  unfold resolvePosition
  refine keeps_ask_bind trivial fun now => ?_
  have reads : Reads history (history ++ [⟨.clock, .ok now⟩]) := (Reads.refl _).snoc fun _ => rfl
  have timed := resolving.after reads
  refine Keeps.bind (keeps_verifyOrRepairProtection timed.mayModify record.request _) ?_
  rintro later protection ⟨protects, confirmed⟩
  refine Keeps.ite (fun isProtected => ?_) fun _ => ?_
  · refine keeps_resolve (timed.mayUpdate executor protects (.inl rfl) ?_) _ _
    intro _ _ own
    refine .inl (confirmed isProtected ?_)
    rintro _ ⟨⟩
    -- the matched position carries the signal or the correlation key of the record
    have found := List.find?_some matched
    simp only [Bool.or_eq_true, beq_iff_eq] at found
    refine .listed (answered.mono reads.included) (List.mem_of_find?_eq_some matched) rfl ?_
    exact found.imp_right fun correlated => by rw [correlated, ← own]; rfl
  · exact keeps_resolve (timed.mayUpdate executor protects (.inr rfl) (by simp)) _ _

theorem keeps_resolveOrder (resolving : Reconciling history key record) (order : BrokerOrder)
    (listed : record.request.orderType = .market → record.request.idempotencyKey = key →
      ListedOnlyAsOrder executor history key) :
    Keeps (Discipline executor (reconciling key)) Excused Justified
      (executor.resolveOrder record key order) history := by
  unfold resolveOrder
  refine keeps_ask_bind trivial fun now => ?_
  have reads : Reads history (history ++ [⟨.clock, .ok now⟩]) := (Reads.refl _).snoc fun _ => rfl
  have permitted := (resolving.after reads).mayUpdate executor (Reads.refl _).protects (.inl rfl)
    fun _ market own => .inr ((listed market own).mono reads.earlier)
  exact keeps_resolve permitted _ _

/-- **`reconcile_unknown` keeps the discipline of a call and never sends.** -/
theorem keeps_reconcileUnknown (executor : TradeExecutor) (key : String) :
    Keeps (Discipline executor (reconciling key)) Excused Justified (executor.reconcileUnknown key) [] := by
  unfold reconcileUnknown
  refine Keeps.bind (keeps_get ⟨rfl, rfl⟩) ?_
  intro found existing known
  cases existing with
  | none => exact Keeps.pure (justified_blocked _ _)
  | some record =>
    obtain ⟨_, shown, progress⟩ := known
    refine Keeps.ite (fun _ => ?_) fun unresolved => ?_
    · exact Keeps.pure (justified_outcomeFromRecord shown none)
    have unlisted : Reconciling found key record :=
      { shown
        working := by rw [progress]; rfl
        modifies := by rw [progress]; rfl
        closes := by rw [progress]; rfl
        open_ := by
          rw [not_and_or, not_not, not_not] at unresolved
          exact unresolved }
    have listing : Keeps (Discipline executor (reconciling key)) Excused
        (Guarded fun later (positions, orders) => Reads found later ∧
          [⟨.broker (.getPositions (some record.request.symbol)), .ok positions⟩,
            ⟨.broker (.getOrders (some record.request.symbol)), .ok orders⟩] <:+: later)
        (Program.catching (do
            let positions ← askBroker (.getPositions (some record.request.symbol))
            let orders ← askBroker (.getOrders (some record.request.symbol))
            pure (positions, orders))
          PyError.isBroker
          fun _ => stillUnknown record "BROKER_UNAVAILABLE_RECONCILIATION_DEFERRED") found := by
      refine keeps_guarded_catching ?_ fun error => by simp [stillUnknown]
      refine keeps_ask_bind trivial fun positions => ?_
      refine keeps_ask_bind trivial fun orders => ?_
      exact Keeps.pure ⟨((Reads.refl _).snoc fun _ => rfl).snoc fun _ => rfl, found, [], by simp⟩
    refine Keeps.bind listing ?_
    intro later state listed
    cases state with
    | error => exact Keeps.pure listed
    | ok pair =>
      obtain ⟨positions, orders⟩ := pair
      obtain ⟨reads, read⟩ := listed
      have resolving := unlisted.after reads
      cases matched : executor.matchedPosition record key positions with
      | some position =>
        simp only [matched]
        exact keeps_resolvePosition resolving (read.subset (by simp)) matched
      | none =>
        cases working : executor.matchedOrder key orders with
        | some order =>
          simp only [matched, working]
          exact keeps_resolveOrder resolving order fun market own =>
            ⟨record, positions, orders, order, resolving.shown, own, market, read, matched, working⟩
        | none =>
          simp only [matched, working]
          exact Keeps.pure (justified_of_ne (by simp [stillUnknown]))

/-! ## Every call -/

def ExecutorCall.role (executor : TradeExecutor) : ExecutorCall → Role
  | .execute command => executing executor command
  | .reconcileUnknown key => reconciling key

theorem keeps_call (executor : TradeExecutor) (call : ExecutorCall) :
    Keeps (Discipline executor (call.role executor)) Excused Justified (executor.call call) [] := by
  cases call with
  | execute command => exact keeps_execute executor command
  | reconcileUnknown key => exact keeps_reconcileUnknown executor key

end GoldFlow
