import GoldFlow.Recovery.Reconciliation

/-! # The plan of a reconciliation -/

namespace GoldFlow

open Effect Data ReconciliationService

/-! ## The plan -/

inductive Repair where
  | recovered | drifted | retired
  deriving DecidableEq

structure LedgerWrite (α : Type) where
  record : LedgerRecord α
  repair : Repair

namespace LedgerSide

variable {α : Type} (side : LedgerSide α)

def incidentOf (write : LedgerWrite α) : ReconciliationIncident :=
  incident
    (match write.repair with
    | .recovered => side.recovered
    | .drifted => side.drifted
    | .retired => side.retired) (side.key write.record)

def tallied (tally : Tally) (writes : List (LedgerWrite α)) : Tally where
  incidents := tally.incidents ++ writes.map side.incidentOf
  recovered := tally.recovered + writes.countP (·.repair = .recovered)
  retired := tally.retired + writes.countP (·.repair = .retired)

@[simp] theorem tallied_nil (tally : Tally) : side.tallied tally [] = tally := by
  simp [tallied]

theorem tallied_cons (tally : Tally) (first : LedgerWrite α) (rest : List (LedgerWrite α)) :
    side.tallied tally (first :: rest) = side.tallied (side.tallied tally [first]) rest := by
  simp only [tallied, List.map_cons, List.map_nil, List.append_assoc, List.countP_cons, List.countP_nil,
    List.cons_append, List.nil_append, Tally.mk.injEq, true_and]
  omega

def writeAll : List (LedgerWrite α) → Tally → Py Tally
  | [], tally => .pure tally
  | write :: writes, tally =>
    (side.upsert write.record).bind fun _ => writeAll writes (side.tallied tally [write])

theorem writeAll_append (first rest : List (LedgerWrite α)) (tally : Tally) :
    side.writeAll (first ++ rest) tally = (side.writeAll first tally).bind (side.writeAll rest) := by
  induction first generalizing tally with
  | nil => rfl
  | cons write writes ih =>
    simp only [List.cons_append, writeAll, Program.bind_assoc, ih]

variable [DecidableEq α] (now : Instant)

def restoreWrite (known : Option (LedgerRecord α)) (item : α) : Option (LedgerWrite α) :=
  match known with
  | none => some ⟨{ item, status := side.live, recovered := true, updatedAt := now }, .recovered⟩
  | some record =>
    if record.status = side.gone then
      some ⟨{ item, status := side.live, recovered := true, updatedAt := now }, .recovered⟩
    else if record.item ≠ item then some ⟨{ record with item, updatedAt := now }, .drifted⟩
    else none

def retireWrite (listed : Option α) (record : LedgerRecord α) : Option (LedgerWrite α) :=
  if record.status = side.live ∧ listed.isNone then
    some ⟨{ record with status := side.gone, updatedAt := now }, .retired⟩
  else none

def plan (broker : Keyed side.ticket) (localRecords : Keyed side.key) : List (LedgerWrite α) :=
  broker.items.filterMap (fun item => side.restoreWrite now (localRecords.get (side.ticket item)) item) ++
    localRecords.items.filterMap (fun record => side.retireWrite now (broker.get (side.key record)) record)

theorem restore_eq (localRecords : Keyed side.key) (items : List α) (tally : Tally) :
    restore side now localRecords items tally = side.writeAll
      (items.filterMap fun item => side.restoreWrite now (localRecords.get (side.ticket item)) item) tally := by
  induction items generalizing tally with
  | nil => rfl
  | cons item items ih =>
    cases known : localRecords.get (side.ticket item) with
    | none =>
      simp [restore, known, restoreWrite, writeAll, ih, recover, Tally.recover, tallied,
        incidentOf, LedgerSide.key]
    | some record =>
      by_cases gone : record.status = side.gone
      · simp [restore, known, restoreWrite, gone, writeAll, ih, recover, Tally.recover, tallied,
          incidentOf, LedgerSide.key]
      · by_cases same : record.item = item
        · simp [restore, known, restoreWrite, gone, same, ih]
        · simp [restore, known, restoreWrite, gone, same, writeAll, ih, tallied, incidentOf,
            LedgerSide.key]

omit [DecidableEq α] in
theorem retire_eq (broker : Keyed side.ticket) (records : List (LedgerRecord α)) (tally : Tally) :
    retire side now broker records tally = side.writeAll
      (records.filterMap fun record => side.retireWrite now (broker.get (side.key record)) record) tally := by
  induction records generalizing tally with
  | nil => rfl
  | cons record records ih =>
    by_cases absent : record.status = side.live ∧ (broker.get (side.key record)).isNone
    · have made : side.retireWrite now (broker.get (side.key record)) record =
          some ⟨{ record with status := side.gone, updatedAt := now }, .retired⟩ := by
        rw [retireWrite, if_pos absent]
      rw [retire, if_pos absent, List.filterMap_cons, made]
      simp [writeAll, ih, tallied, incidentOf, LedgerSide.key]
    · have nothing : side.retireWrite now (broker.get (side.key record)) record = none := by
        rw [retireWrite, if_neg absent]
      rw [retire, if_neg absent, List.filterMap_cons, nothing, ih]

/-! ## Making the writes -/

inductive Stores {τ : Type} (responder : Responder Port PyError τ) :
    τ → List (LedgerWrite α) → List PortEvent → τ → Prop
  | nil {state} : Stores responder state [] [] state
  | cons {state middle final write writes event events} :
      responder.evaluate (side.upsert write.record) state = ⟨[event], .ok (), middle⟩ →
      Stores responder middle writes events final →
      Stores responder state (write :: writes) (event :: events) final

omit [DecidableEq α] in
theorem evaluate_writeAll {τ : Type} {responder : Responder Port PyError τ} {state final : τ}
    {writes : List (LedgerWrite α)} {events : List PortEvent}
    (stores : side.Stores responder state writes events final) (tally : Tally) :
    responder.evaluate (side.writeAll writes tally) state = ⟨events, .ok (side.tallied tally writes), final⟩ := by
  induction stores generalizing tally with
  | nil => simp [writeAll]
  | cons stored _ ih =>
    rw [writeAll, Responder.evaluate_bind, stored, Outcome.andThen_ok, ih, ← tallied_cons]
    rfl

end LedgerSide

/-! ## The program -/

def applyPlan (now : Instant) (brokerPositions : Keyed positionSide.ticket) (brokerOrders : Keyed orderSide.ticket)
    (localPositions : Keyed positionSide.key) (localOrders : Keyed orderSide.key) : Py ReconciliationReport :=
  (positionSide.writeAll (positionSide.plan now brokerPositions localPositions) { incidents := [] }).bind
    fun positions =>
      (orderSide.writeAll (orderSide.plan now brokerOrders localOrders) { incidents := positions.incidents }).bind
        fun orders => .pure
          { healthy := true
            incidents := orders.incidents
            recoveredPositions := positions.recovered
            recoveredOrders := orders.recovered
            closedPositions := positions.retired
            cancelledOrders := orders.retired }

theorem reconcile_eq :
    reconcile = (askBroker .healthCheck).bind fun health =>
      if !health.healthy || !health.connected then
        .pure
          { healthy := false
            incidents := [⟨"BROKER_UNAVAILABLE", "", "reconciliation deferred; ledger unchanged"⟩] }
      else (askBroker (.getPositions none)).bind fun brokerPositions =>
        (askBroker (.getOrders none)).bind fun brokerOrders =>
        (askLedger .positions).bind fun localPositions =>
        (askLedger .orders).bind fun localOrders =>
        clock.bind fun now =>
          applyPlan now (.ofList brokerPositions) (.ofList brokerOrders) (.ofList localPositions)
            (.ofList localOrders) := by
  unfold reconcile applyPlan
  simp only [Program.bind_eq, Program.pure_eq, LedgerSide.plan, LedgerSide.writeAll_append, LedgerSide.restore_eq,
    LedgerSide.retire_eq, Program.bind_assoc]

def writtenTicket : PortEvent → Option String
  | ⟨.ledger (.upsertPosition record), .ok _⟩ => some record.item.ticket
  | ⟨.ledger (.upsertOrder record), .ok _⟩ => some record.item.ticket
  | _ => none

structure Reconciles {σ : Type} (backend : LedgerBackend σ) (state : RecoveryState σ)
    (result : Except PyError ReconciliationReport) (after : RecoveryState σ) (written : List String) : Prop where
  ends : (backend.responder.evaluate reconcile state).result = result
  leaves : (backend.responder.evaluate reconcile state).state = after
  writes : (backend.responder.evaluate reconcile state).events.filterMap writtenTicket = written

section Reads

variable {σ : Type} {backend : LedgerBackend σ} {state : RecoveryState σ} {health : BrokerHealth}
  {positions : List BrokerPosition} {orders : List BrokerOrder} {localPositions : List LedgerPosition}
  {localOrders : List LedgerOrder}

theorem reconciles_plan (healthRead : state.reads.health = .ok health)
    (healthy : health.healthy = true ∧ health.connected = true)
    (positionsRead : state.reads.positions = .ok positions) (ordersRead : state.reads.orders = .ok orders)
    (localPositionsRead : backend.positions state.ledger = .ok localPositions)
    (localOrdersRead : backend.orders state.ledger = .ok localOrders) {report : ReconciliationReport}
    {after : RecoveryState σ} {events : List PortEvent}
    (applied : backend.responder.evaluate (applyPlan state.now (.ofList positions) (.ofList orders)
      (.ofList localPositions) (.ofList localOrders)) state = ⟨events, .ok report, after⟩) :
    Reconciles backend state (.ok report) after (events.filterMap writtenTicket) := by
  have evaluated : backend.responder.evaluate reconcile state =
      ⟨[⟨.broker .healthCheck, .ok health⟩, ⟨.broker (.getPositions none), .ok positions⟩,
        ⟨.broker (.getOrders none), .ok orders⟩, ⟨.ledger .positions, .ok localPositions⟩,
        ⟨.ledger .orders, .ok localOrders⟩, ⟨.clock, .ok state.now⟩] ++ events, .ok report, after⟩ := by
    have answered : backend.responder.respond state (.broker .healthCheck) = (.ok health, state) := by
      rw [← healthRead]
      rfl
    have positionsAnswered : backend.responder.respond state (.broker (.getPositions none)) =
        (.ok positions, state) := by
      rw [← positionsRead]
      rfl
    have ordersAnswered : backend.responder.respond state (.broker (.getOrders none)) = (.ok orders, state) := by
      rw [← ordersRead]
      rfl
    have localPositionsAnswered : backend.responder.respond state (.ledger .positions) =
        (.ok localPositions, state) := by
      rw [← localPositionsRead]
      rfl
    have localOrdersAnswered : backend.responder.respond state (.ledger .orders) = (.ok localOrders, state) := by
      rw [← localOrdersRead]
      rfl
    have timed : backend.responder.respond state .clock = (.ok state.now, state) := rfl
    rw [reconcile_eq, askBroker, Responder.evaluate_perform_bind answered]
    simp only [healthy.1, healthy.2, Bool.not_true, Bool.or_self, Bool.false_eq_true, if_false]
    rw [askBroker, Responder.evaluate_perform_bind positionsAnswered, askBroker,
      Responder.evaluate_perform_bind ordersAnswered, askLedger,
      Responder.evaluate_perform_bind localPositionsAnswered, askLedger,
      Responder.evaluate_perform_bind localOrdersAnswered, clock, Responder.evaluate_perform_bind timed, applied]
    rfl
  constructor
  · rw [evaluated]
  · rw [evaluated]
  · rw [evaluated]
    rfl

end Reads

namespace LedgerSide

variable {α : Type} [DecidableEq α] (side : LedgerSide α) (now : Instant)

def writeFor (listed : Option α) (known : Option (LedgerRecord α)) : Option (LedgerWrite α) :=
  match listed with
  | some item => side.restoreWrite now known item
  | none => known.bind (side.retireWrite now none)

def settle (listed : Option α) (known : Option (LedgerRecord α)) : Option (LedgerRecord α) :=
  ((side.writeFor now listed known).map (·.record)).or known

variable {side now} {item : α} {record : LedgerRecord α} {known : Option (LedgerRecord α)} {listed : Option α}
  {write : LedgerWrite α}

theorem key_restoreWrite (made : side.restoreWrite now known item = some write) :
    side.key write.record = side.ticket item := by
  cases known with
  | none =>
    cases made
    rfl
  | some record =>
    by_cases gone : record.status = side.gone
    · simp only [restoreWrite, gone, if_true, Option.some.injEq] at made
      subst made
      rfl
    · by_cases same : record.item = item
      · simp [restoreWrite, gone, same] at made
      · simp only [restoreWrite, gone, if_false, ne_eq, same, not_false_eq_true, if_true,
          Option.some.injEq] at made
        subst made
        rfl

theorem restoreWrite_live (made : side.restoreWrite now known item = some write) :
    write.record.item = item ∧ write.record.status ≠ side.gone := by
  have apart := side.live_ne_gone
  cases known with
  | none =>
    cases made
    exact ⟨rfl, apart⟩
  | some record =>
    by_cases gone : record.status = side.gone
    · rw [restoreWrite, if_pos gone, Option.some.injEq] at made
      subst made
      exact ⟨rfl, apart⟩
    · by_cases same : record.item = item
      · simp [restoreWrite, gone, same] at made
      · simp only [restoreWrite, gone, same, ne_eq, not_false_eq_true, if_true, if_false, Option.some.injEq] at made
        subst made
        exact ⟨rfl, gone⟩

omit [DecidableEq α] in
theorem key_retireWrite (made : side.retireWrite now listed record = some write) :
    side.key write.record = side.key record := by
  by_cases absent : record.status = side.live ∧ listed.isNone
  · rw [retireWrite, if_pos absent, Option.some.injEq] at made
    subst made
    rfl
  · rw [retireWrite, if_neg absent] at made
    cases made

omit [DecidableEq α] in
theorem retireWrite_listed (made : side.retireWrite now listed record = some write) : listed = none := by
  by_cases absent : record.status = side.live ∧ listed.isNone
  · simpa using absent.2
  · rw [retireWrite, if_neg absent] at made
    cases made

variable (side now) (broker : Keyed side.ticket) (localRecords : Keyed side.key) {ticket : String}
  {before after : Keyed side.key}

theorem nodup_plan : ((side.plan now broker localRecords).map (fun write => side.key write.record)).Nodup := by
  rw [plan, List.map_append]
  apply List.Nodup.append
  · exact nodup_filterMap broker.distinct fun item write made => key_restoreWrite made
  · exact nodup_filterMap localRecords.distinct fun record write made => key_retireWrite made
  · -- the first loop writes what the broker lists, the second what it does not
    intro ticket restored retired
    simp only [List.mem_map, List.mem_filterMap] at restored retired
    obtain ⟨write, ⟨item, member, made⟩, rfl⟩ := restored
    obtain ⟨other, ⟨record, _, retiring⟩, same⟩ := retired
    have listed := broker.get_of_mem member
    rw [← key_restoreWrite made, ← same, key_retireWrite retiring] at listed
    rw [retireWrite_listed retiring] at listed
    cases listed

theorem lookup_plan (ticket : String) :
    lookup (fun write => side.key write.record) ticket (side.plan now broker localRecords) =
      side.writeFor now (broker.get ticket) (localRecords.get ticket) := by
  have restored : lookup (fun write => side.key write.record) ticket
      (broker.items.filterMap fun item => side.restoreWrite now (localRecords.get (side.ticket item)) item) =
      (broker.get ticket).bind fun item => side.restoreWrite now (localRecords.get (side.ticket item)) item :=
    lookup_filterMap broker.distinct fun item write made => key_restoreWrite made
  have retired : lookup (fun write => side.key write.record) ticket
      (localRecords.items.filterMap fun record => side.retireWrite now (broker.get (side.key record)) record) =
      (localRecords.get ticket).bind fun record => side.retireWrite now (broker.get (side.key record)) record :=
    lookup_filterMap localRecords.distinct fun record write made => key_retireWrite made
  rw [plan, lookup_append, restored, retired]
  cases listed : broker.get ticket with
  | some item =>
    have itemTicket : side.ticket item = ticket := key_of_lookup listed
    -- a listed ticket is not retired
    have kept : ((localRecords.get ticket).bind fun record =>
        side.retireWrite now (broker.get (side.key record)) record) = none := by
      cases known : localRecords.get ticket with
      | none => rfl
      | some record =>
        have recordTicket : side.key record = ticket := key_of_lookup known
        simp [recordTicket, listed, retireWrite]
    simp [itemTicket, kept, writeFor]
  | none =>
    cases known : localRecords.get ticket with
    | none => rfl
    | some record =>
      have recordTicket : side.key record = ticket := key_of_lookup known
      simp [recordTicket, listed, writeFor]

/-- **What a ticket ends with.** -/
theorem get_planned (ticket : String) :
    (localRecords.setAll ((side.plan now broker localRecords).map (·.record))).get ticket =
      side.settle now (broker.get ticket) (localRecords.get ticket) := by
  have distinct : (((side.plan now broker localRecords).map (·.record)).map side.key).Nodup := by
    rw [List.map_map]
    exact side.nodup_plan now broker localRecords
  have mapped : lookup side.key ticket ((side.plan now broker localRecords).map (·.record)) =
      (lookup (fun write => side.key write.record) ticket (side.plan now broker localRecords)).map (·.record) := by
    simp [lookup, Function.comp_def]
  rw [Keyed.get_setAll distinct, mapped, lookup_plan, settle]

/-! ## Properties of one ticket -/

def Typed (localRecords : Keyed side.key) : Prop :=
  ∀ record ∈ localRecords.items, record.status = side.live ∨ record.status = side.gone

def isLive (known : Option (LedgerRecord α)) : Bool := known.any (·.status = side.live)

section Settled

variable {side now} (typed : ∀ record ∈ known, record.status = side.live ∨ record.status = side.gone)

include typed

theorem settle_live : ((side.settle now listed known).filter (·.status = side.live)).map (·.item) = listed := by
  have apart := side.live_ne_gone
  cases known with
  | none => cases listed <;> simp [settle, writeFor, restoreWrite]
  | some record =>
    rcases typed record rfl with live | gone
    · cases listed with
      | none => simp [settle, writeFor, retireWrite, live, apart.symm]
      | some item => by_cases same : record.item = item <;> simp [settle, writeFor, restoreWrite, live, apart, same]
    · cases listed with
      | none => simp [settle, writeFor, retireWrite, gone, apart.symm]
      | some => simp [settle, writeFor, restoreWrite, gone]

theorem settle_absent :
    (side.settle now none known).map (fun record => (record.item, record.recovered, record.status)) =
      known.map fun record => (record.item, record.recovered, side.gone) := by
  have apart := side.live_ne_gone
  cases known with
  | none => rfl
  | some record =>
    rcases typed record rfl with live | gone
    · simp [settle, writeFor, retireWrite, live]
    · simp [settle, writeFor, retireWrite, gone, apart.symm]

theorem repair_writeFor :
    ((side.writeFor now listed known).any (·.repair = .recovered) =
      (side.isLive (side.settle now listed known) && !side.isLive known)) ∧
    ((side.writeFor now listed known).any (·.repair = .retired) =
      (side.isLive known && !side.isLive (side.settle now listed known))) := by
  have apart := side.live_ne_gone
  cases known with
  | none => cases listed <;> simp [settle, writeFor, restoreWrite, isLive]
  | some record =>
    rcases typed record rfl with live | gone
    · cases listed with
      | none => simp [settle, writeFor, retireWrite, live, isLive, apart.symm]
      | some item =>
        by_cases same : record.item = item <;> simp [settle, writeFor, restoreWrite, live, isLive, apart, same]
    · cases listed with
      | none => simp [settle, writeFor, retireWrite, gone, apart.symm]
      | some => simp [settle, writeFor, restoreWrite, gone, isLive, apart.symm]

theorem restoreWrite_settled (later : Instant) :
    side.restoreWrite later (side.settle now (some item) known) item = none := by
  have apart := side.live_ne_gone
  cases known with
  | none => simp [settle, writeFor, restoreWrite, apart]
  | some record =>
    rcases typed record rfl with live | gone
    · by_cases same : record.item = item <;> simp [settle, writeFor, restoreWrite, live, apart, same]
    · simp [settle, writeFor, restoreWrite, gone, apart]

theorem retireWrite_settled (later : Instant) :
    (side.settle now none known).bind (side.retireWrite later none) = none := by
  have apart := side.live_ne_gone
  cases known with
  | none => rfl
  | some record =>
    rcases typed record rfl with live | gone
    · simp [settle, writeFor, retireWrite, live, apart.symm]
    · simp [settle, writeFor, retireWrite, gone, apart.symm]

end Settled

/-! ## One half of a reconciliation -/

def newlyLive (before after : Keyed side.key) : Finset String :=
  (after.items.map side.key).toFinset.filter fun ticket =>
    side.isLive (after.get ticket) ∧ ¬ side.isLive (before.get ticket)

def newlyGone (before after : Keyed side.key) : Finset String :=
  (before.items.map side.key).toFinset.filter fun ticket =>
    side.isLive (before.get ticket) ∧ ¬ side.isLive (after.get ticket)

structure Converged (items : List α) (before after : Keyed side.key) (recovered retired : Nat) : Prop where
  live : ∀ ticket, ((after.get ticket).filter (·.status = side.live)).map (·.item) =
    lookup side.ticket ticket items
  absent : ∀ ticket, lookup side.ticket ticket items = none →
    (after.get ticket).map (fun record => (record.item, record.recovered, record.status)) =
      (before.get ticket).map fun record => (record.item, record.recovered, side.gone)
  recovered_eq : recovered = (side.newlyLive before after).card
  retired_eq : retired = (side.newlyGone before after).card

omit [DecidableEq α] in
theorem typed_get {localRecords : Keyed side.key} (typed : side.Typed localRecords) (ticket : String) :
    ∀ record ∈ localRecords.get ticket, record.status = side.live ∨ record.status = side.gone :=
  fun record found => typed record (mem_of_lookup found)

theorem countP_plan (repair : Repair) :
    (side.plan now broker localRecords).countP (·.repair = repair) =
      (((side.plan now broker localRecords).filter (·.repair = repair)).map
        fun write => side.key write.record).toFinset.card := by
  have distinct : (((side.plan now broker localRecords).filter (·.repair = repair)).map
      fun write => side.key write.record).Nodup :=
    (side.nodup_plan now broker localRecords).sublist (List.filter_sublist.map _)
  rw [List.toFinset_card_of_nodup distinct, List.length_map, List.countP_eq_length_filter]

def reconciled : Keyed side.key := localRecords.setAll ((side.plan now broker localRecords).map (·.record))

theorem mem_repaired (repair : Repair) (ticket : String) :
    ticket ∈ ((side.plan now broker localRecords).filter (·.repair = repair)).map
        (fun write => side.key write.record) ↔
      (side.writeFor now (broker.get ticket) (localRecords.get ticket)).any (·.repair = repair) = true := by
  rw [mem_keys_filter (side.nodup_plan now broker localRecords), lookup_plan]
  cases side.writeFor now (broker.get ticket) (localRecords.get ticket) <;> simp

omit [DecidableEq α] in
theorem mem_keys_of_isLive {records : Keyed side.key} (live : side.isLive (records.get ticket) = true) :
    ticket ∈ (records.items.map side.key).toFinset := by
  rw [List.mem_toFinset]
  by_contra absent
  have missing : records.get ticket = none := lookup_eq_none.mpr absent
  simp [missing, isLive] at live

omit [DecidableEq α] in
theorem mem_newlyLive :
    ticket ∈ side.newlyLive before after ↔
      (side.isLive (after.get ticket) && !side.isLive (before.get ticket)) = true := by
  rw [newlyLive, Finset.mem_filter, Bool.and_eq_true, Bool.not_eq_true', Bool.not_eq_true]
  exact ⟨fun member => member.2, fun live => ⟨side.mem_keys_of_isLive live.1, live⟩⟩

omit [DecidableEq α] in
theorem mem_newlyGone :
    ticket ∈ side.newlyGone before after ↔
      (side.isLive (before.get ticket) && !side.isLive (after.get ticket)) = true := by
  rw [newlyGone, Finset.mem_filter, Bool.and_eq_true, Bool.not_eq_true', Bool.not_eq_true]
  exact ⟨fun member => member.2, fun live => ⟨side.mem_keys_of_isLive live.1, live⟩⟩

variable {localRecords} in
/-- **One half of a reconciliation converges.** -/
theorem converged {items : List α} (typed : side.Typed localRecords) (distinct : (items.map side.ticket).Nodup) :
    side.Converged items localRecords (side.reconciled now (.ofList items) localRecords)
      ((side.plan now (.ofList items) localRecords).countP (·.repair = .recovered))
      ((side.plan now (.ofList items) localRecords).countP (·.repair = .retired)) := by
  have settled := side.get_planned now (.ofList items) localRecords
  have known := side.typed_get typed
  constructor
  case live =>
    intro ticket
    rw [reconciled, settled, settle_live (known ticket), Keyed.get_ofList distinct]
  case absent =>
    intro ticket unlisted
    rw [reconciled, settled, Keyed.get_ofList distinct, unlisted, settle_absent (known ticket)]
  case recovered_eq =>
    rw [countP_plan]
    congr 1
    ext ticket
    rw [List.mem_toFinset, mem_repaired, (repair_writeFor (known ticket)).1, mem_newlyLive, reconciled, settled]
  case retired_eq =>
    rw [countP_plan]
    congr 1
    ext ticket
    rw [List.mem_toFinset, mem_repaired, (repair_writeFor (known ticket)).2, mem_newlyGone, reconciled, settled]

variable {localRecords} in
theorem plan_reconciled (typed : side.Typed localRecords) (later : Instant) :
    side.plan later broker (side.reconciled now broker localRecords) = [] := by
  have settled := side.get_planned now broker localRecords
  have known := side.typed_get typed
  rw [plan, List.append_eq_nil_iff]
  constructor
  · rw [List.filterMap_eq_nil_iff]
    intro item member
    rw [reconciled, settled, broker.get_of_mem member]
    exact restoreWrite_settled (known _) later
  · rw [List.filterMap_eq_nil_iff]
    intro record member
    have found : (side.reconciled now broker localRecords).get (side.key record) = some record :=
      Keyed.get_of_mem member
    cases listed : broker.get (side.key record) with
    | some => simp [retireWrite]
    | none =>
      have settledRecord : side.settle now none (localRecords.get (side.key record)) = some record := by
        rw [← listed, ← settled]
        exact found
      have nothing : (side.settle now none (localRecords.get (side.key record))).bind
          (side.retireWrite later none) = none := retireWrite_settled (known (side.key record)) later
      simpa [settledRecord] using nothing

theorem restoreWrite_eq_none {known : Option (LedgerRecord α)} {item : α} :
    side.restoreWrite now known item = none ↔
      ∃ record, known = some record ∧ record.status ≠ side.gone ∧ record.item = item := by
  cases known with
  | none => simp [restoreWrite]
  | some record =>
    by_cases gone : record.status = side.gone
    · simp [restoreWrite, gone]
    · by_cases same : record.item = item <;> simp [restoreWrite, gone]

theorem plan_eq_nil {broker : Keyed side.ticket} {localRecords : Keyed side.key} :
    side.plan now broker localRecords = [] ↔
      (∀ item ∈ broker.items, ∃ record, localRecords.get (side.ticket item) = some record ∧
        record.status ≠ side.gone ∧ record.item = item) ∧
      ∀ record ∈ localRecords.items, record.status = side.live → (broker.get (side.key record)).isSome = true := by
  rw [plan, List.append_eq_nil_iff, List.filterMap_eq_nil_iff, List.filterMap_eq_nil_iff]
  simp only [restoreWrite_eq_none]
  apply and_congr_right'
  apply forall₂_congr
  intro record _
  by_cases live : record.status = side.live <;> cases broker.get (side.key record) <;> simp [retireWrite]
end LedgerSide

end GoldFlow
