import Mathlib.Algebra.Group.Basic
import Mathlib.Data.List.Basic
import Mathlib.Data.List.Pairwise
import Mathlib.Data.List.Range

/-! # Tables with unique constraints

A table is a list of rows as the columns hold them.
-/

namespace GoldFlow.Data

/-- How the rows of a table are held and told apart. -/
structure Schema (ρ : Type) where
  id : ρ → Nat
  /-- A row as the columns hold it. -/
  store : ρ → ρ
  /-- A unique constraint does not admit both rows. -/
  clash : ρ → ρ → Bool
  clash_comm : ∀ first second, clash first second = clash second first
  id_store : ∀ row, id (store row) = id row
  store_store : ∀ row, store (store row) = store row

structure Table {ρ : Type} (schema : Schema ρ) where
  rows : List ρ
  numbered : rows.map schema.id = List.range rows.length
  unique : rows.Pairwise fun first second => schema.clash first second = false
  stored : ∀ row ∈ rows, schema.store row = row

namespace Table

variable {ρ : Type} {schema : Schema ρ} (table : Table schema)

def empty : Table schema := ⟨[], rfl, .nil, by simp⟩

/-- `session.get(…, id)` -/
def get (id : Nat) : Option ρ := table.rows[id]?

/-- `session.scalar(select(…).where(…))` -/
def select (wanted : ρ → Bool) : Option ρ := table.rows.find? wanted

/-- Append a row, which gets the next number. -/
def insert (make : Nat → ρ) (keyed : ∀ id, schema.id (make id) = id) : Option (Table schema) :=
  if admitted : ∀ row ∈ table.rows, schema.clash row (schema.store (make table.rows.length)) = false then
    some
      { rows := table.rows ++ [schema.store (make table.rows.length)]
        numbered := by simp [table.numbered, schema.id_store, keyed, List.range_succ]
        unique := by
          rw [List.pairwise_append]
          exact ⟨table.unique, List.pairwise_singleton _ _, by simpa using admitted⟩
        stored := by
          rw [List.forall_mem_append, List.forall_mem_singleton]
          exact ⟨table.stored, schema.store_store _⟩ }
  else none

/-- Change the row with a number. -/
def update (id : Nat) (change : ρ → ρ) (keyed : ∀ row, schema.id (change row) = schema.id row) :
    Option (Table schema) :=
  if admitted : (table.rows.modify id (schema.store ∘ change)).Pairwise
      (fun first second => schema.clash first second = false) then
    some
      { rows := table.rows.modify id (schema.store ∘ change)
        numbered := by
          rw [List.length_modify, ← table.numbered]
          apply List.ext_getElem? fun place => ?_
          simp only [List.getElem?_map, List.getElem?_modify]
          cases table.rows[place]? with
          | none => rfl
          | some => by_cases here : id = place <;> simp [here, schema.id_store, keyed]
        unique := admitted
        stored := by
          intro row member
          obtain ⟨place, found⟩ := List.mem_iff_getElem?.mp member
          rw [List.getElem?_modify] at found
          obtain ⟨old, inside, rfl⟩ := Option.map_eq_some_iff.mp found
          split
          · exact schema.store_store _
          · exact table.stored old (List.mem_of_getElem? inside) }
  else none

variable {table} {after : Table schema} {row other : ρ} {id place : Nat} {wanted : ρ → Bool}

theorem id_of_get (found : table.get id = some row) : schema.id row = id := by
  have numbered : (table.rows.map schema.id)[id]? = (List.range table.rows.length)[id]? := by
    rw [table.numbered]
  have bound : id < table.rows.length := (List.getElem?_eq_some_iff.mp found).1
  have shown : table.rows[id]? = some row := found
  rw [List.getElem?_map, shown, List.getElem?_range bound] at numbered
  simpa using numbered

theorem mem_of_get (found : table.get id = some row) : row ∈ table.rows := List.mem_of_getElem? found

theorem get_of_mem (member : row ∈ table.rows) : table.get (schema.id row) = some row := by
  obtain ⟨place, found⟩ := List.mem_iff_getElem?.mp member
  have shown : table.get place = some row := found
  rwa [id_of_get shown]

theorem eq_of_id (member : row ∈ table.rows) (found : table.get id = some other) (same : schema.id row = id) :
    row = other := by
  have here := get_of_mem member
  rw [same, found] at here
  exact (Option.some.inj here).symm

theorem get_of_select (found : table.select wanted = some row) : table.get (schema.id row) = some row :=
  get_of_mem (List.mem_of_find?_eq_some found)

theorem holds_of_select (found : table.select wanted = some row) : wanted row = true := List.find?_some found

theorem select_eq_none : table.select wanted = none ↔ ∀ row ∈ table.rows, ¬ wanted row = true :=
  List.find?_eq_none

theorem id_lt_of_mem (member : row ∈ table.rows) : schema.id row < table.rows.length := by
  have numbered : schema.id row ∈ table.rows.map schema.id := List.mem_map_of_mem member
  rwa [table.numbered, List.mem_range] at numbered

theorem eq_of_clash (first : row ∈ table.rows) (second : other ∈ table.rows)
    (clash : schema.clash row other = true) : row = other := by
  by_contra different
  have symmetric : Std.Symm fun first second => schema.clash first second = false := by
    constructor
    intro first second apart
    rw [schema.clash_comm, apart]
  have apart := table.unique.forall first second different
  rw [clash] at apart
  cases apart

theorem select_eq_some (single : ∀ row other, wanted row = true → wanted other = true → schema.clash row other = true) :
    table.select wanted = some row ↔ row ∈ table.rows ∧ wanted row = true := by
  constructor
  · intro found
    exact ⟨List.mem_of_find?_eq_some found, holds_of_select found⟩
  · rintro ⟨member, holds⟩
    cases found : table.select wanted with
    | none => exact absurd holds (select_eq_none.mp found row member)
    | some =>
      rw [eq_of_clash (List.mem_of_find?_eq_some found) member (single _ _ (holds_of_select found) holds)]

section Insert

variable {make : Nat → ρ} {keyed : ∀ id, schema.id (make id) = id}

section

variable (inserted : table.insert make keyed = some after)
include inserted

theorem rows_insert : after.rows = table.rows ++ [schema.store (make table.rows.length)] := by
  simp only [insert, Option.dite_none_right_eq_some, Option.some.injEq] at inserted
  obtain ⟨_, rfl⟩ := inserted
  rfl

theorem mem_insert : row ∈ after.rows ↔ row ∈ table.rows ∨ row = schema.store (make table.rows.length) := by
  simp [rows_insert inserted]

theorem get_insert (id : Nat) :
    after.get id = if id = table.rows.length then some (schema.store (make id)) else table.get id := by
  rw [get, rows_insert inserted, List.getElem?_append]
  by_cases last : id = table.rows.length
  · simp [last]
  · rw [if_neg last]
    by_cases old : id < table.rows.length
    · rw [if_pos old, get]
    · have missing : table.rows[id]? = none := List.getElem?_eq_none (by omega)
      rw [if_neg old, get, missing]
      simp
      omega

theorem get_insert_of_get (found : table.get id = some row) : after.get id = some row := by
  have bound : id < table.rows.length := (List.getElem?_eq_some_iff.mp found).1
  rw [get_insert inserted, if_neg (by omega), found]

theorem select_insert :
    after.select wanted = (table.select wanted).or
      (if wanted (schema.store (make table.rows.length)) then some (schema.store (make table.rows.length))
        else none) := by
  rw [select, rows_insert inserted, List.find?_append, List.find?_singleton, select]

end

theorem get_length : table.get table.rows.length = none := by
  simp [get]

theorem insert_isSome
    (admitted : ∀ row ∈ table.rows, schema.clash row (schema.store (make table.rows.length)) = false) :
    ∃ after, table.insert make keyed = some after := by
  simpa [insert] using admitted

theorem forall_insert (inserted : table.insert make keyed = some after) {holds : ρ → Prop} :
    (∀ row ∈ after.rows, holds row) ↔
      (∀ row ∈ table.rows, holds row) ∧ holds (schema.store (make table.rows.length)) := by
  simp only [mem_insert inserted, or_imp, forall_and, forall_eq]

end Insert

section Update

variable {change : ρ → ρ} {keyed : ∀ row, schema.id (change row) = schema.id row}

section

variable (updated : table.update id change keyed = some after)
include updated

theorem rows_update : after.rows = table.rows.modify id (schema.store ∘ change) := by
  simp only [update, Option.dite_none_right_eq_some, Option.some.injEq] at updated
  obtain ⟨_, rfl⟩ := updated
  rfl

theorem get_update (place : Nat) :
    after.get place = if place = id then (table.get place).map (fun row => schema.store (change row))
      else table.get place := by
  rw [get, rows_update updated, List.getElem?_modify]
  by_cases here : place = id
  · subst here
    simp [get]
  · have apart : ¬ id = place := fun same => here same.symm
    cases found : table.rows[place]? <;> simp [get, here, apart, found]

theorem get_update_of_get (found : table.get place = some row) :
    ∃ new, after.get place = some new ∧ (new = row ∨ new = schema.store (change row)) := by
  rw [get_update updated, found]
  split
  · exact ⟨schema.store (change row), rfl, .inr rfl⟩
  · exact ⟨row, rfl, .inl rfl⟩

theorem rows_update_eq_map :
    after.rows = table.rows.map fun row => if schema.id row = id then schema.store (change row) else row := by
  apply List.ext_getElem? fun place => ?_
  have shown : after.rows[place]? = _ := get_update updated place
  rw [shown, List.getElem?_map]
  cases found : table.get place with
  | none =>
    have missing : table.rows[place]? = none := found
    simp [missing]
  | some row =>
    have here : table.rows[place]? = some row := found
    rw [here, Option.map_some, Option.map_some, id_of_get found]
    split <;> rfl

theorem mem_update :
    row ∈ after.rows ↔ ∃ old ∈ table.rows, row = if schema.id old = id then schema.store (change old) else old := by
  simp only [rows_update_eq_map updated, List.mem_map, eq_comm]

theorem select_update (same : ∀ row, wanted (schema.store (change row)) = wanted row) :
    after.select wanted = (table.select wanted).map fun row =>
      if schema.id row = id then schema.store (change row) else row := by
  rw [select, rows_update_eq_map updated, List.find?_map, select]
  congr 2
  funext row
  simp only [Function.comp_apply]
  split
  · exact same row
  · rfl

theorem forall_update {holds : ρ → Prop} (before : ∀ row ∈ table.rows, holds row) :
    (∀ row ∈ after.rows, holds row) ↔ ∀ row, table.get id = some row → holds (schema.store (change row)) := by
  constructor
  · intro all row found
    have changed : after.get id = some (schema.store (change row)) := by
      rw [get_update updated, if_pos rfl, found, Option.map_some]
    exact all _ (mem_of_get changed)
  · intro changed row member
    obtain ⟨old, inside, rfl⟩ := (mem_update updated).mp member
    split
    next here => exact changed old (here ▸ get_of_mem inside)
    next => exact before old inside

theorem map_update {β : Type} {column : ρ → β} (kept : ∀ row, column (schema.store (change row)) = column row) :
    after.rows.map column = table.rows.map column := by
  rw [rows_update_eq_map updated, List.map_map]
  apply List.map_congr_left
  intro row _
  simp only [Function.comp_apply]
  split
  · exact kept row
  · rfl

theorem sum_update {M : Type} [AddCommMonoid M] (found : table.get id = some row) (amount : ρ → M) :
    (after.rows.map amount).sum + amount row =
      (table.rows.map amount).sum + amount (schema.store (change row)) := by
  have exchanged : ∀ (rows : List ρ) place, rows[place]? = some row →
      ((rows.modify place (schema.store ∘ change)).map amount).sum + amount row =
        (rows.map amount).sum + amount (schema.store (change row)) := by
    intro rows
    induction rows with
    | nil => simp
    | cons first rest ih =>
      intro place here
      cases place with
      | zero =>
        obtain rfl : first = row := by simpa using here
        simp only [List.modify_zero_cons, List.map_cons, List.sum_cons]
        rw [Function.comp_apply, add_comm (amount (schema.store _)), add_right_comm, add_comm _ (amount first)]
      | succ place =>
        have later := ih place (by simpa using here)
        simp only [List.modify_succ_cons, List.map_cons, List.sum_cons, add_assoc, later]
  rw [rows_update updated]
  exact exchanged table.rows id found

end

theorem update_isSome_iff (found : table.get id = some row) :
    (∃ after, table.update id change keyed = some after) ↔
      ∀ other ∈ table.rows, schema.id other ≠ id → schema.clash (schema.store (change row)) other = false := by
  constructor
  · rintro ⟨after, updated⟩ other member apart
    by_contra clashes
    have changed : after.get id = some (schema.store (change row)) := by
      rw [get_update updated, if_pos rfl, found, Option.map_some]
    have kept : after.get (schema.id other) = some other := by
      rw [get_update updated, if_neg apart, get_of_mem member]
    have same := eq_of_clash (mem_of_get changed) (mem_of_get kept) (by simpa using clashes)
    rw [← same, schema.id_store, keyed, id_of_get found] at apart
    exact apart rfl
  · intro free
    have admitted : (table.rows.modify id (schema.store ∘ change)).Pairwise
        (fun first second => schema.clash first second = false) := by
      rw [List.pairwise_iff_getElem]
      intro i j iBound jBound before
      rw [List.length_modify] at iBound jBound
      -- at most one of the two places is the changed one
      have shown : ∀ place (bound : place < table.rows.length), id = place → table.rows[place] = row := by
        intro place bound here
        have at_ : table.rows[place]? = some row := here ▸ found
        rwa [List.getElem?_eq_getElem bound, Option.some.injEq] at at_
      have others : ∀ place (bound : place < table.rows.length), id ≠ place → schema.id table.rows[place] ≠ id := by
        intro place bound there same
        have number := id_of_get (List.getElem?_eq_getElem bound : table.get place = some _)
        exact there (same.symm.trans number)
      rw [List.getElem_modify, List.getElem_modify]
      by_cases first : id = i
      · have second : ¬ id = j := by omega
        rw [if_pos first, if_neg second, shown i iBound first]
        exact free _ (List.getElem_mem jBound) (others j jBound second)
      · by_cases second : id = j
        · rw [if_neg first, if_pos second, shown j jBound second, schema.clash_comm]
          exact free _ (List.getElem_mem iBound) (others i iBound first)
        · rw [if_neg first, if_neg second]
          exact List.pairwise_iff_getElem.mp table.unique i j iBound jBound before
    simp [update, admitted]

theorem update_isSome (found : table.get id = some row)
    (harmless : ∀ first second, schema.clash (schema.store (change first)) second = schema.clash first second) :
    ∃ after, table.update id change keyed = some after := by
  rw [update_isSome_iff found]
  intro other member apart
  rw [harmless]
  by_contra clashes
  have same := eq_of_clash (mem_of_get found) member (by simpa using clashes)
  rw [← same, id_of_get found] at apart
  exact apart rfl

end Update

end Table

end GoldFlow.Data
