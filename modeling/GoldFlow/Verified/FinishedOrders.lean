import GoldFlow.Deployment
import GoldFlow.Persistence.Journal
import GoldFlow.Verified.Convergence
import GoldFlow.Verified.LedgerRows
import GoldFlow.Verified.LedgerRuns

/-! # Finished orders under reconciliation -/

namespace GoldFlow

open Data LedgerSide

namespace SQLAlchemyRecoveryLedger

variable {ledger : SQLAlchemyRecoveryLedger} {database after : Database} {id : Nat} {row : OrderRow}

def Carries (ledger : SQLAlchemyRecoveryLedger) (row : OrderRow) (ticket : String) : Prop :=
  row.brokerAccountId = ledger.brokerAccountId ∧ row.brokerTicket = some ticket

instance (row : OrderRow) (ticket : String) : Decidable (ledger.Carries row ticket) := by
  unfold Carries
  infer_instance

variable {ticket : String}

theorem orderWith_eq_some :
    ledger.orderWith database ticket = some row ↔ row ∈ database.orders.rows ∧ ledger.Carries row ticket := by
  rw [orderWith, Table.select_eq_some]
  · simp [Carries]
  · intro first second firstWanted secondWanted
    simp only [decide_eq_true_eq] at firstWanted secondWanted
    simp [orderSchema, firstWanted.1, firstWanted.2, secondWanted.1, secondWanted.2]

theorem orderWith_eq_none :
    ledger.orderWith database ticket = none ↔ ∀ row ∈ database.orders.rows, ¬ ledger.Carries row ticket := by
  rw [orderWith, Table.select_eq_none]
  simp [Carries]

theorem orderWith_of_get (found : database.orders.get id = some row) (carries : ledger.Carries row ticket) :
    ledger.orderWith database ticket = some row :=
  orderWith_eq_some.mpr ⟨Table.mem_of_get found, carries⟩

/-! ## One upsert -/

variable {record : LedgerOrder} {status : OrderStatus}

theorem get_upsertOrder (written : ledger.upsertOrder record database = .ok after)
    (found : database.orders.get id = some row) :
    after.orders.get id = some
      (if ledger.Carries row record.item.ticket then (OrderRow.touched (followedOrder record) database.now row).stored
        else row) := by
  cases upsertOrder_cases written with
  | inserted missing inserted afterEq =>
    subst afterEq
    have other : id ≠ database.orders.rows.length := by
      intro same
      rw [same, Table.get_length] at found
      cases found
    have apart : ¬ ledger.Carries row record.item.ticket := by
      intro carries
      rw [orderWith_of_get found carries] at missing
      cases missing
    rw [if_neg apart, Table.get_insert inserted, if_neg other, found]
  | @updated matched orders selected updated afterEq =>
    subst afterEq
    rw [Table.get_update updated]
    by_cases carries : ledger.Carries row record.item.ticket
    · rw [orderWith_of_get found carries, Option.some.injEq] at selected
      subst selected
      have same : row.id = id := Table.id_of_get found
      simp [carries, same, found]
    · have other : id ≠ matched.id := by
        intro same
        have matchedFound : database.orders.get matched.id = some matched := Table.get_of_select selected
        rw [← same, found, Option.some.injEq] at matchedFound
        exact carries (matchedFound ▸ (orderWith_eq_some.mp selected).2)
      rw [if_neg other, if_neg carries, found]

def writtenStatus (record : LedgerOrder) : OrderStatus :=
  if record.status = .cancelled then .cancelled else record.item.status

theorem status_touched (record : LedgerOrder) (now : Instant) (row : OrderRow) :
    (OrderRow.touched (followedOrder record) now row).stored.status = writtenStatus record := by
  by_cases cancelling : record.status = .cancelled <;>
    simp [OrderRow.stored, OrderRow.touched, followedOrder, writtenStatus, cancelling]

theorem carries_touched {now : Instant} :
    ledger.Carries (OrderRow.touched (followedOrder record) now row).stored ticket ↔ ledger.Carries row ticket := by
  by_cases cancelling : record.status = .cancelled <;>
    simp [OrderRow.stored, OrderRow.touched, followedOrder, Carries, cancelling]

/-! ## The writes of a plan -/

def Shows (ledger : SQLAlchemyRecoveryLedger) (database : Database) (id : Nat) (row : OrderRow)
    (status : OrderStatus) : Prop :=
  ∃ current, database.orders.get id = some current ∧ current.status = status ∧
    ∀ ticket, ledger.Carries current ticket ↔ ledger.Carries row ticket

theorem Shows.of_get (found : database.orders.get id = some row) : ledger.Shows database id row row.status :=
  ⟨row, found, rfl, fun _ => Iff.rfl⟩

theorem Shows.upsert (shows : ledger.Shows database id row status)
    (written : ledger.upsertOrder record database = .ok after) :
    ledger.Shows after id row (if ledger.Carries row record.item.ticket then writtenStatus record else status) := by
  obtain ⟨current, found, rfl, same⟩ := shows
  rw [Shows, get_upsertOrder written found]
  by_cases carries : ledger.Carries row record.item.ticket
  · rw [if_pos ((same _).mpr carries), if_pos carries]
    exact ⟨_, rfl, status_touched _ _ _, fun ticket => carries_touched.trans (same ticket)⟩
  · rw [if_neg fun current => carries ((same _).mp current), if_neg carries]
    exact ⟨_, rfl, rfl, same⟩

theorem Shows.attempted {writes : List (LedgerWrite BrokerOrder)}
    (attempted : Attempted ledger.upsertOrder database writes after true)
    (distinct : (writes.map fun write => orderSide.key write.record).Nodup) (carries : ledger.Carries row ticket)
    (shows : ledger.Shows database id row status) :
    ledger.Shows after id row
      ((lookup (fun write => orderSide.key write.record) ticket writes).elim status
        fun write => writtenStatus write.record) := by
  generalize whole : true = complete at attempted
  induction attempted generalizing status with
  | done => simpa using shows
  | refused => cases whole
  | @stored before middle final complete write writes made _ ih =>
    rw [List.map_cons, List.nodup_cons] at distinct
    have next := ih distinct.2 (shows.upsert made) whole
    rw [lookup_cons]
    by_cases written : orderSide.key write.record = ticket
    · -- no later write has this ticket
      have absent : lookup (fun write => orderSide.key write.record) ticket writes = none :=
        lookup_eq_none.mpr (written ▸ distinct.1)
      have carried : ledger.Carries row write.record.item.ticket := by
        rw [← written] at carries
        exact carries
      simpa [written, absent, carried] using next
    · have apart : ¬ ledger.Carries row write.record.item.ticket := by
        intro carried
        exact written (Option.some.inj (carried.2.symm.trans carries.2))
      simpa [written, apart] using next

/-! ## Refused orders -/

/-- The keys of the orders after upserts of `earlier`. -/
def keysAfter (ledger : SQLAlchemyRecoveryLedger) (database : Database) (earlier : List BrokerOrder) : List String :=
  database.orders.rows.map (·.idempotencyKey) ++
    (earlier.filter fun item => ledger.orderWith database item.ticket = none).map ledger.recoveredKey

/-- After upserts of `earlier` the order needs a row of its own, and its key is taken. -/
def Refuses (ledger : SQLAlchemyRecoveryLedger) (database : Database) (earlier : List BrokerOrder)
    (item : BrokerOrder) : Prop :=
  ledger.orderWith database item.ticket = none ∧ ledger.recoveredKey item ∈ ledger.keysAfter database earlier

theorem upsertOrder_error {error : PyError} (refused : ledger.upsertOrder record database = .error error) :
    ledger.Refuses database [] record.item := by
  obtain ⟨added, ensured⟩ :=
    ensureRecoverySignal_eq ledger database record.item.symbol record.item.direction none
  unfold upsertOrder at refused
  cases found : ledger.orderWith database record.item.ticket with
  | some matched =>
    obtain ⟨orders, updated⟩ : ∃ orders, database.orders.update matched.id
        (OrderRow.touched (followedOrder record) database.now) (fun _ => rfl) = some orders := by
      apply Table.update_isSome (Table.get_of_select found)
      intro first second
      unfold OrderRow.touched followedOrder
      split <;> rfl
    simp only [found, Database.updateOrder, updated, Database.admitted, bind, Except.bind, pure, Except.pure] at refused
    cases refused
  | none =>
    refine ⟨found, ?_⟩
    by_contra free
    obtain ⟨orders, inserted⟩ : ∃ orders, database.orders.insert
        ((ledger.recoveredOrder record.item
          (ledger.recoverySignalId record.item.symbol record.item.direction none)).created database.now)
        (fun _ => rfl) = some orders := by
      apply Table.insert_isSome
      intro row member
      have ticket := orderWith_eq_none.mp found row member
      have key : row.idempotencyKey ≠ ledger.recoveredKey record.item := by
        intro same
        exact free (by simpa [keysAfter] using ⟨row, member, same⟩)
      simp only [Carries] at ticket
      simp [orderSchema, OrderRow.stored, OrderRow.created, recoveredOrder, key]
      exact fun account _ named => ticket ⟨account, named⟩
    simp only [found, ensured, Database.insertOrder, inserted, Database.admitted, bind, Except.bind, pure,
      Except.pure] at refused
    cases refused

theorem not_refuses_of_upsertOrder (written : ledger.upsertOrder record database = .ok after) :
    ¬ ledger.Refuses database [] record.item := by
  rintro ⟨missing, taken⟩
  cases upsertOrder_cases written with
  | @inserted _ orders _ inserted =>
    simp only [keysAfter, List.filter_nil, List.map_nil, List.append_nil, List.mem_map] at taken
    obtain ⟨row, member, same⟩ := taken
    have unique := orders.unique
    rw [Table.rows_insert inserted, List.pairwise_append] at unique
    have apart := unique.2.2 row member _ (List.mem_singleton_self _)
    simp [orderSchema, OrderRow.stored, OrderRow.created, recoveredOrder, same] at apart
  | updated found =>
    rw [missing] at found
    cases found

theorem upsertOrder_keys (written : ledger.upsertOrder record database = .ok after) :
    after.orders.rows.map (·.idempotencyKey) = ledger.keysAfter database [record.item] ∧
      ∀ ticket, ledger.orderWith after ticket = none ↔
        ledger.orderWith database ticket = none ∧ ticket ≠ record.item.ticket := by
  cases upsertOrder_cases written with
  | inserted missing inserted same =>
    subst same
    constructor
    · rw [Table.rows_insert inserted]
      simp [keysAfter, missing, OrderRow.stored, OrderRow.created, recoveredOrder]
    · intro ticket
      simp only [orderWith_eq_none, Table.forall_insert inserted]
      simp [Carries, OrderRow.stored, OrderRow.created, recoveredOrder, eq_comm]
  | @updated matched orders found updated same =>
    subst same
    have kept : ∀ row, (orderSchema.store (OrderRow.touched (followedOrder record) database.now row)).idempotencyKey =
        row.idempotencyKey := by
      intro row
      simp only [orderSchema_store, OrderRow.stored, OrderRow.touched, followedOrder]
      split <;> rfl
    constructor
    · rw [Table.map_update updated kept]
      simp [keysAfter, found]
    · intro ticket
      have same : ledger.orderWith { database with orders } ticket = none ↔
          ledger.orderWith database ticket = none := by
        rw [orderWith, Table.select_update updated, Option.map_eq_none_iff, orderWith]
        intro row
        simp only [orderSchema_store, OrderRow.stored, OrderRow.touched, followedOrder]
        split <;> rfl
      rw [same, iff_self_and]
      rintro missing rfl
      rw [missing] at found
      cases found

theorem attempted_keys {writes : List (LedgerWrite BrokerOrder)}
    (attempted : Attempted ledger.upsertOrder database writes after true)
    (distinct : (writes.map fun write => orderSide.key write.record).Nodup) :
    after.orders.rows.map (·.idempotencyKey) = ledger.keysAfter database (writes.map (·.record.item)) ∧
      ∀ ticket, ledger.orderWith after ticket = none ↔
        ledger.orderWith database ticket = none ∧ ticket ∉ writes.map fun write => orderSide.key write.record := by
  generalize whole : true = complete at attempted
  induction attempted with
  | done => simp [keysAfter]
  | refused => cases whole
  | @stored before middle final complete write writes made _ ih =>
    rw [List.map_cons, List.nodup_cons] at distinct
    obtain ⟨keys, tickets⟩ := upsertOrder_keys made
    obtain ⟨laterKeys, laterTickets⟩ := ih distinct.2 whole
    constructor
    · -- the later orders are new exactly if they were new before
      have same : (writes.map (·.record.item)).filter (fun item => ledger.orderWith middle item.ticket = none) =
          (writes.map (·.record.item)).filter fun item => ledger.orderWith before item.ticket = none := by
        apply List.filter_congr
        intro item member
        obtain ⟨other, inside, rfl⟩ := List.mem_map.mp member
        have apart : other.record.item.ticket ≠ write.record.item.ticket := by
          intro equal
          exact distinct.1 (List.mem_map.mpr ⟨other, inside, equal⟩)
        simp [tickets, apart]
      rw [laterKeys, keysAfter, keys, same]
      simp only [keysAfter, List.map_cons, List.filter_cons, List.filter_nil]
      split <;> simp
    · intro ticket
      rw [laterTickets, tickets, List.map_cons, List.mem_cons, not_or, and_assoc]
      rfl

/-! ## The plan for a row -/

theorem lookup_orderPlan {records : List LedgerOrder} (read : ledger.orders database = .ok records)
    (found : database.orders.get id = some row) (carries : ledger.Carries row ticket)
    (now : Instant) (orders : List BrokerOrder) :
    lookup (fun write => orderSide.key write.record) ticket
        (orderSide.plan now (.ofList orders) (.ofList records)) =
      orderSide.writeFor now ((Keyed.ofList orders : Keyed orderSide.ticket).get ticket) (some (ledgerOrder row)) := by
  rw [lookup_plan, get_orders read, orderWith_of_get found carries, Option.map_some]

/-- The write that a listed order needs. -/
def restores (ledger : SQLAlchemyRecoveryLedger) (database : Database) (now : Instant) (item : BrokerOrder) :
    Option (LedgerWrite BrokerOrder) :=
  orderSide.restoreWrite now ((ledger.orderWith database item.ticket).map ledgerOrder) item

theorem plan_eq_restores {records : List LedgerOrder} (read : ledger.orders database = .ok records) (now : Instant)
    (orders : List BrokerOrder) :
    ∃ retired, orderSide.plan now (.ofList orders) (.ofList records) =
        (Keyed.ofList orders : Keyed orderSide.ticket).items.filterMap (ledger.restores database now) ++ retired ∧
      ∀ write ∈ retired, ledger.orderWith database write.record.item.ticket ≠ none := by
  refine ⟨_, by rw [plan]; simp only [get_orders read]; rfl, ?_⟩
  intro write member missing
  obtain ⟨record, inside, made⟩ := List.mem_filterMap.mp member
  have known : (Keyed.ofList records : Keyed orderSide.key).get (orderSide.key record) = some record :=
    Keyed.get_of_mem inside
  have same : write.record.item.ticket = orderSide.key record := key_retireWrite made
  rw [get_orders read, ← same, missing] at known
  cases known

theorem keysAfter_restores (now : Instant) (items : List BrokerOrder) :
    ledger.keysAfter database ((items.filterMap (ledger.restores database now)).map (·.record.item)) =
      ledger.keysAfter database items := by
  unfold keysAfter
  congr 2
  induction items with
  | nil => rfl
  | cons item items ih =>
    cases made : ledger.restores database now item with
    | some write =>
      have same : write.record.item = item := (restoreWrite_live made).1
      simp only [List.filterMap_cons_some made, List.map_cons, List.filter_cons, same, ih]
    | none =>
      -- what needs no write has a row
      have known : ledger.orderWith database item.ticket ≠ none := by
        intro missing
        rw [restores, missing] at made
        cases made
      rw [List.filterMap_cons_none made, ih, List.filter_cons_of_neg (by simpa using known)]

end SQLAlchemyRecoveryLedger

section Finished

variable (ledger : SQLAlchemyRecoveryLedger) (orders : List BrokerOrder)

def Finished (row : OrderRow) : Prop :=
  row.status = .filled ∨ (row.status = .cancelled ∨ row.status = .rejected) ∧
    ∀ ticket, ledger.Carries row ticket → (Keyed.ofList orders : Keyed orderSide.ticket).get ticket = none

def FinishedKept (before after : Database) : Prop :=
  ∀ id row, before.orders.get id = some row → Finished ledger orders row →
    ∃ current, after.orders.get id = some current ∧ current.status = row.status

/-- An order that is listed before the ticket, or any one if it is not listed, is refused. -/
def StopsBefore (database : Database) (ticket : String) : Prop :=
  ∃ earlier item later, (Keyed.ofList orders : Keyed orderSide.ticket).items = earlier ++ item :: later ∧
    ledger.Refuses database earlier item ∧ ∀ listed ∈ earlier, listed.ticket ≠ ticket

/-- Each filled order is listed as filled, or the run stops before it. -/
def FillsListed (database : Database) : Prop :=
  ∀ row ∈ database.orders.rows, row.status = .filled → ∀ ticket, ledger.Carries row ticket →
    (∃ item, (Keyed.ofList orders : Keyed orderSide.ticket).get ticket = some item ∧ item.status = .filled) ∨
      StopsBefore ledger orders database ticket

end Finished

section Runs

open SQLAlchemyRecoveryLedger

variable {ledger : SQLAlchemyRecoveryLedger} {database after : Database} {id : Nat} {row : OrderRow}
  {positions : List BrokerPosition} {orders : List BrokerOrder} {now : Instant} {ticket : String}

theorem writtenStatus_filled_iff (now : Instant) (filled : row.status = .filled) {listed : Option BrokerOrder} :
    (∀ write, orderSide.writeFor now listed (some (ledgerOrder row)) = some write →
      writtenStatus write.record = .filled) ↔ ∃ item, listed = some item ∧ item.status = .filled := by
  cases listed with
  | none => simp [writeFor, retireWrite, ledgerOrder, filled, orderSide, writtenStatus]
  | some item =>
    by_cases same : brokerOrder row = item
    · have status : item.status = .filled := same ▸ filled
      simp [writeFor, restoreWrite, ledgerOrder, filled, orderSide, same, status]
    · simp [writeFor, restoreWrite, ledgerOrder, filled, orderSide, same, writtenStatus]

section Orders

variable {records : List LedgerOrder} (read : ledger.orders database = .ok records)
  {made rest : List (LedgerWrite BrokerOrder)}
  (planned : orderSide.plan now (.ofList orders) (.ofList records) = made ++ rest)
  (attempted : Attempted ledger.upsertOrder database made after true)
include read planned attempted

/-- A run that stops before the ticket has made no write for it. -/
theorem not_made_of_stopsBefore (stops : StopsBefore ledger orders database ticket) :
    ticket ∉ made.map fun write => orderSide.key write.record := by
  obtain ⟨earlier, item, later, items, ⟨missing, taken⟩, apart⟩ := stops
  obtain ⟨retired, plan, _⟩ := plan_eq_restores read now orders
  -- the writes of the earlier orders come first, and then the refused one
  obtain ⟨write, made_⟩ : ∃ write, ledger.restores database now item = some write := by
    rw [restores, missing]
    exact ⟨_, rfl⟩
  have same : write.record.item = item := (restoreWrite_live made_).1
  rw [planned, items, List.filterMap_append, List.filterMap_cons_some made_] at plan
  have distinct := orderSide.nodup_plan now (.ofList orders) (.ofList records)
  rw [planned, plan, List.append_assoc, List.map_append, List.cons_append, List.map_cons] at distinct
  have refused : ∀ more, made ≠ earlier.filterMap (ledger.restores database now) ++ write :: more := by
    rintro more rfl
    obtain ⟨middle, final, begun, written⟩ := attempted.split
    obtain ⟨keys, tickets⟩ := attempted_keys begun distinct.of_append_left
    refine not_refuses_of_upsertOrder written ⟨?_, ?_⟩
    · rw [same, tickets]
      refine ⟨missing, fun restored => ?_⟩
      exact (List.disjoint_of_nodup_append distinct) restored (by rw [key_restoreWrite made_]; exact List.mem_cons_self)
    · rw [keysAfter_restores] at keys
      simpa [keysAfter, keys, same] using taken
  have firsts : made <+: earlier.filterMap (ledger.restores database now) := by
    have whole : made ++ rest = (earlier.filterMap (ledger.restores database now) ++ [write]) ++
        (later.filterMap (ledger.restores database now) ++ retired) := by
      rw [plan]
      simp
    rcases List.prefix_or_prefix_of_prefix ⟨rest, rfl⟩ ⟨_, whole.symm⟩ with short | ⟨more, long⟩
    · rcases List.prefix_concat_iff.mp short with equal | short
      · exact absurd equal (refused [])
      · exact short
    · rw [List.append_assoc] at long
      exact absurd long.symm (refused more)
  intro member
  obtain ⟨other, inside, rfl⟩ := List.mem_map.mp member
  obtain ⟨listed, present, restored⟩ := List.mem_filterMap.mp (firsts.subset inside)
  exact apart listed present (key_restoreWrite restored).symm

/-- A run that leaves out a write it had planned stops at an order that is refused. -/
theorem stopsBefore_of_not_made (ends : rest = [] ∨ ∃ write later error,
      rest = write :: later ∧ ledger.upsertOrder write.record after = .error error)
    (listed : ∀ item, (Keyed.ofList orders : Keyed orderSide.ticket).get ticket = some item →
      ∃ write, ledger.restores database now item = some write)
    (inside : ticket ∈ (made ++ rest).map fun write => orderSide.key write.record)
    (unmade : ticket ∉ made.map fun write => orderSide.key write.record) :
    StopsBefore ledger orders database ticket := by
  have distinct := orderSide.nodup_plan now (.ofList orders) (.ofList records)
  obtain ⟨retired, plan, known⟩ := plan_eq_restores read now orders
  rcases ends with rfl | ⟨write, later, error, rfl, refused⟩
  · rw [List.append_nil] at inside
    exact absurd inside unmade
  rw [planned, List.map_append, List.map_cons] at distinct
  obtain ⟨missing, taken⟩ := upsertOrder_error refused
  obtain ⟨keys, tickets⟩ := attempted_keys attempted distinct.of_append_left
  have new := ((tickets _).mp missing).1
  -- a write for a new order restores a listed one
  rw [planned] at plan
  obtain ⟨others, restored, _⟩ : ∃ others, (Keyed.ofList orders : Keyed orderSide.ticket).items.filterMap
      (ledger.restores database now) = made ++ write :: others ∧ later = others ++ retired := by
    rcases List.append_eq_append_iff.mp plan with ⟨extra, equal, rest_⟩ | ⟨extra, rfl, rest_⟩
    · cases extra with
      | nil =>
        rw [List.nil_append] at rest_
        exact absurd new (known write (rest_ ▸ List.mem_cons_self))
      | cons first extra =>
        rw [List.cons_append, List.cons.injEq] at rest_
        exact ⟨extra, rest_.1 ▸ equal, rest_.2⟩
    · exact absurd new (known write (rest_ ▸ List.mem_append_right _ List.mem_cons_self))
  obtain ⟨firsts, lasts, items, sameMade, restRestored⟩ := List.filterMap_eq_append_iff.mp restored
  obtain ⟨skipped, item, after_, rfl, nothing, made_, _⟩ := List.filterMap_eq_cons_iff.mp restRestored
  have same : write.record.item = item := (restoreWrite_live made_).1
  have earlierMade : (firsts ++ skipped).filterMap (ledger.restores database now) = made := by
    rw [List.filterMap_append, sameMade, List.filterMap_eq_nil_iff.mpr nothing, List.append_nil]
  refine ⟨firsts ++ skipped, item, after_, by rw [items, List.append_assoc], ⟨same ▸ new, ?_⟩, ?_⟩
  · rw [← keysAfter_restores now (firsts ++ skipped), earlierMade, ← keys, ← same]
    simpa [keysAfter] using taken
  · rintro other present rfl
    have member : other ∈ (Keyed.ofList orders : Keyed orderSide.ticket).items := by
      rw [items, ← List.append_assoc]
      exact List.mem_append_left _ present
    obtain ⟨written, makes⟩ := listed other (Keyed.get_of_mem member)
    apply unmade
    rw [← earlierMade]
    exact List.mem_map.mpr ⟨written, List.mem_filterMap.mpr ⟨other, present, makes⟩, key_restoreWrite makes⟩

end Orders

variable {records : List LedgerOrder} {complete : Bool} {result : Except PyError ReconciliationReport}

theorem shows_made {made rest : List (LedgerWrite BrokerOrder)} (read : ledger.orders database = .ok records)
    (planned : orderSide.plan now (.ofList orders) (.ofList records) = made ++ rest)
    (attempted : Attempted ledger.upsertOrder database made after true) (found : database.orders.get id = some row)
    (carries : ledger.Carries row ticket) :
    ∃ current, after.orders.get id = some current ∧
      (current.status = row.status ∧ ticket ∉ (made.map fun write => orderSide.key write.record) ∨
        ticket ∈ (made.map fun write => orderSide.key write.record) ∧
          ∃ write, orderSide.writeFor now ((Keyed.ofList orders : Keyed orderSide.ticket).get ticket)
            (some (ledgerOrder row)) = some write ∧ current.status = writtenStatus write.record) := by
  have distinct := orderSide.nodup_plan now (.ofList orders) (.ofList records)
  have looked := lookup_orderPlan read found carries now orders
  rw [planned, List.map_append] at distinct
  rw [planned, lookup_append] at looked
  obtain ⟨current, shown, status, _⟩ := Shows.attempted attempted distinct.of_append_left carries (.of_get found)
  refine ⟨current, shown, ?_⟩
  cases written : lookup (fun write => orderSide.key write.record) ticket made with
  | none =>
    rw [written] at status
    exact .inl ⟨status, lookup_eq_none.mp written⟩
  | some write =>
    rw [written] at status looked
    refine .inr ⟨?_, write, looked.symm, status⟩
    by_contra unmade
    rw [lookup_eq_none.mpr unmade] at written
    cases written

theorem filledKept_iff (read : ledger.orders database = .ok records)
    (attempted : Attempted ledger.upsertOrder database (orderSide.plan now (.ofList orders) (.ofList records))
      after complete)
    (found : database.orders.get id = some row) (filled : row.status = .filled) (carries : ledger.Carries row ticket) :
    (∃ current, after.orders.get id = some current ∧ current.status = .filled) ↔
      (∃ item, (Keyed.ofList orders : Keyed orderSide.ticket).get ticket = some item ∧ item.status = .filled) ∨
        StopsBefore ledger orders database ticket := by
  obtain ⟨made, rest, planned, begun, ends⟩ := attempted.made
  obtain ⟨current, shown, ends_⟩ := shows_made read planned begun found carries
  rw [← writtenStatus_filled_iff now filled]
  constructor
  · rintro ⟨other, same, kept⟩
    rw [shown, Option.some.injEq] at same
    subst same
    by_contra neither
    push Not at neither
    obtain ⟨⟨write, writes, changed⟩, running⟩ := neither
    rcases ends_ with ⟨_, unmade⟩ | ⟨_, written, again, status⟩
    · apply running
      refine stopsBefore_of_not_made read planned begun ends ?_ ?_ unmade
      · intro item listed
        have same : item.ticket = ticket := key_of_lookup listed
        rw [listed] at writes
        exact ⟨write, by rw [restores, same, orderWith_of_get found carries]; exact writes⟩
      · by_contra unplanned
        have looked := lookup_orderPlan read found carries now orders
        rw [planned, lookup_eq_none.mpr unplanned, writes] at looked
        cases looked
    · rw [writes, Option.some.injEq] at again
      rw [← again, kept] at status
      exact changed status.symm
  · rintro (listed | stops)
    · rcases ends_ with ⟨status, _⟩ | ⟨_, write, writes, status⟩
      · exact ⟨current, shown, status.trans filled⟩
      · exact ⟨current, shown, status.trans (listed write writes)⟩
    · rcases ends_ with ⟨status, _⟩ | ⟨made_, _⟩
      · exact ⟨current, shown, status.trans filled⟩
      · exact absurd made_ (not_made_of_stopsBefore read planned begun stops)

theorem goneKept (read : ledger.orders database = .ok records)
    (attempted : Attempted ledger.upsertOrder database (orderSide.plan now (.ofList orders) (.ofList records))
      after complete)
    (found : database.orders.get id = some row)
    (gone : ∀ ticket, ledger.Carries row ticket →
      orderSide.writeFor now ((Keyed.ofList orders : Keyed orderSide.ticket).get ticket) (some (ledgerOrder row)) =
        none) :
    ∃ current, after.orders.get id = some current ∧ current.status = row.status := by
  have shows : ledger.Shows after id row row.status := by
    apply attempted.invariant fun current => ledger.Shows current id row row.status
    · intro before current write member shows written
      have next := shows.upsert written
      by_cases carries : ledger.Carries row write.record.item.ticket
      · have looked := lookup_of_mem (orderSide.nodup_plan now _ _) member
        have planned := lookup_orderPlan read found carries now orders
        rw [gone _ carries] at planned
        exact absurd (planned.symm.trans looked) (by simp)
      · rwa [if_neg carries] at next
    · exact .of_get found
  obtain ⟨current, shown, status, _⟩ := shows
  exact ⟨current, shown, status⟩

theorem stopsBefore_congr {other : Database} (same : other.orders = database.orders) :
    StopsBefore ledger orders other ticket ↔ StopsBefore ledger orders database ticket := by
  have selected : ledger.orderWith other = ledger.orderWith database := by
    funext ticket
    rw [orderWith, same, orderWith]
  simp only [StopsBefore, Refuses, keysAfter, selected, same]

theorem attempted_orders {writes : List (LedgerWrite BrokerPosition)}
    (attempted : Attempted ledger.upsertPosition database writes after complete) :
    after.orders = database.orders := by
  apply attempted.invariant fun current => current.orders = database.orders
  · intro before current write _ same written
    rw [upsertPosition_orders written, same]
  · rfl

/-- **Finished orders are kept exactly if the ledger cannot be read or every filled order is listed as filled or
not reached.** -/
theorem finishedKept_iff (run : LedgerRun ledger.backend positions orders now database result after)
    (linked : Linked database) :
    FinishedKept ledger orders database after ↔
      ¬ ledger.PositionsSound database ∨ FillsListed ledger orders database := by
  cases run with
  | unread failed =>
    refine iff_of_true (fun id row found _ => ⟨row, found, rfl⟩) (.inl fun sound => ?_)
    obtain ⟨records, read⟩ := positions_isOk.mpr sound
    rcases failed with failed | failed
    · rw [show ledger.backend.positions database = .ok records from read] at failed
      cases failed
    · cases failed
  | stopped _ _ attempted =>
    have completes := attempted.completes (fun _ => Linked)
      (fun write _ _ linked => upsertPosition_commits linked ledger write.record)
      (fun _ _ _ _ linked written => upsertPosition_linked linked written) linked
    cases completes.1
  | @ran localPositions records _ middle _ _ read ordersRead positionsDone attempted _ _ =>
    have same := attempted_orders positionsDone
    have readAgain : ledger.orders middle = .ok records := by
      rw [← ordersRead]
      show _ = ledger.orders database
      rw [SQLAlchemyRecoveryLedger.orders, same, SQLAlchemyRecoveryLedger.orders]
    have sound : ledger.PositionsSound database := positions_isOk.mp ⟨localPositions, read⟩
    simp only [sound, not_true_eq_false, false_or]
    constructor
    · intro kept row member filled ticket carries
      have found := Table.get_of_mem member
      rw [← stopsBefore_congr same, ← filledKept_iff readAgain attempted (same ▸ found) filled carries, ← filled]
      exact kept _ row found (.inl filled)
    · intro listed id row found finished
      have here : middle.orders.get id = some row := same ▸ found
      rcases finished with filled | ⟨status, absent⟩
      · by_cases carried : ∃ ticket, ledger.Carries row ticket
        · obtain ⟨ticket, carries⟩ := carried
          have fills := listed row (Table.mem_of_get found) filled ticket carries
          rw [← stopsBefore_congr same, ← filledKept_iff readAgain attempted here filled carries, ← filled] at fills
          exact fills
        · exact goneKept readAgain attempted here fun ticket carries => absurd ⟨ticket, carries⟩ carried
      · -- a row that is cancelled or rejected is already gone in the ledger
        refine goneKept readAgain attempted here fun ticket carries => ?_
        rw [absent ticket carries]
        rcases status with cancelled | rejected
        · simp [writeFor, retireWrite, ledgerOrder, cancelled, orderSide]
        · simp [writeFor, retireWrite, ledgerOrder, rejected, orderSide]

end Runs

namespace Demo

def sqlLedger : SQLAlchemyRecoveryLedger := { brokerAccountId := "demo-1", uuid5 := fun text => ⟨text⟩ }

def signalRow : SignalRow where
  signalId := signal.signalId
  strategyId := signal.strategyId
  strategyVersion := signal.strategyVersion
  symbol := signal.symbol
  canonicalSymbol := signal.canonicalSymbol
  action := signal.action
  confidenceScore := 80
  entryMin := signal.entryMin
  entryMax := signal.entryMax
  stopLoss := signal.stopLoss
  takeProfits := signal.takeProfits
  riskReward := signal.riskReward
  status := .active
  createdAt := signal.createdAt
  expiresAt := signal.expiresAt

def emptyDatabase : Database where
  accounts := [{ id := "demo-1", accountType := .demo }]
  signals := [signalRow]
  now

def request (orderType : OrderType) : OrderRequest where
  signalId := signal.signalId
  strategyId := signal.strategyId
  symbol := "XAUUSDm"
  direction := .long
  orderType
  volume := 1 / 10
  stopLoss := 1999 + 20 / 100
  takeProfits := [2002 + 20 / 100]
  idempotencyKey := key
  requestedPrice := some 2000
  volume_pos := tenth_pos
  stopLoss_pos := by norm_num
  takeProfits_nonempty := by simp
  takeProfits_pos := by norm_num
  key_nonblank

/-- The outcome of a market order that the broker has filled with ticket `P1`. -/
def filledOutcome : ExecutionOutcome where
  status := .filled
  request := some (request .market)
  report := some
    { success := true
      idempotencyKey := key
      brokerTicket := some "P1"
      requestedPrice := some 2000
      executedPrice := some 2000
      volume := 1 / 10
      submittedAt := now }

def recorded (outcome : ExecutionOutcome) : Except PyError Database := do
  let (_, database) ← journal.resolveOrderId (request .market) emptyDatabase
  journal.recordExecution signal outcome "demo" now database

def filledDatabase : Except PyError Database := recorded filledOutcome

def rejectedDatabase : Except PyError Database :=
  recorded { status := .rejected, reasons := ["MARKET_CLOSED"], request := some (request .market) }

end Demo

open Demo

/-- **Reconciliation leaves finished orders alone exactly if it cannot read the ledger or the broker lists each
filled order, or none at all that is reached, as filled.** -/
theorem finished_orders_kept (ledger : SQLAlchemyRecoveryLedger) (database : Database) (linked : Linked database)
    (health : BrokerHealth) (healthy : health.healthy = true ∧ health.connected = true)
    (positions : List BrokerPosition) (orders : List BrokerOrder) (now : Instant) :
    FinishedKept ledger orders database
        (ledger.backend.reconcile (.listing health positions orders) now database).state.ledger ↔
      ¬ ledger.PositionsSound database ∨ FillsListed ledger orders database := by
  obtain ⟨after, left, run⟩ := reconcile_run ledger.backend healthy positions orders now database
  rw [left]
  exact finishedKept_iff run linked

/-- A rejected order stays rejected. -/
theorem finished_orders_kept_demo :
    ∃ rejected : Database, rejectedDatabase = .ok rejected ∧
      FinishedKept sqlLedger [] rejected
        (sqlLedger.backend.reconcile (.listing Demo.healthy [] []) Demo.now rejected).state.ledger := by
  have recorded : rejectedDatabase.toOption.any
      (fun database => database.positions.rows = [] ∧ database.trades.rows = [] ∧
        ∀ row ∈ database.orders.rows, row.status ≠ .filled) = true := by decide +kernel
  obtain ⟨rejected, made, checked⟩ := ok_of_any recorded
  obtain ⟨noPositions, noTrades, noFill⟩ := of_decide_eq_true checked
  have linked : Linked rejected := ⟨by rw [noPositions, noTrades]; rfl⟩
  refine ⟨rejected, made, (finished_orders_kept sqlLedger rejected linked Demo.healthy (by decide) [] []
    Demo.now).mpr ?_⟩
  exact .inr fun row member filled => absurd filled (noFill row member)

/-- The order of a fill is cancelled although the broker lists its position. -/
theorem filled_order_cancelled :
    ∃ filled : Database, filledDatabase = .ok filled ∧
      ¬ FinishedKept sqlLedger [] filled
        (sqlLedger.backend.reconcile (.listing Demo.healthy [position "P1" (1 / 10) tenth_pos] [])
          Demo.now filled).state.ledger := by
  have before : filledDatabase.toOption.bind (fun database => (database.orders.get 0).map (·.status)) =
      some .filled := by decide +kernel
  have later : filledDatabase.toOption.bind (fun database =>
      ((sqlLedger.backend.reconcile (.listing Demo.healthy [position "P1" (1 / 10) tenth_pos] [])
        Demo.now database).state.ledger.orders.get 0).map (·.status)) = some .cancelled := by decide +kernel
  cases made : filledDatabase with
  | error error => simp [made, Except.toOption] at before
  | ok filled =>
    simp only [made, Except.toOption, Option.bind_some, Option.map_eq_some_iff] at before later
    obtain ⟨row, found, status⟩ := before
    obtain ⟨current, currentFound, cancelled⟩ := later
    refine ⟨filled, rfl, fun kept => ?_⟩
    obtain ⟨shown, shownFound, same⟩ := kept 0 row found (.inl status)
    rw [currentFound, Option.some.injEq] at shownFound
    rw [← shownFound, cancelled, status] at same
    cases same

end GoldFlow
