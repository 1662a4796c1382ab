import GoldFlow.Data.Fallible
import Mathlib.Data.Finset.Basic
import Mathlib.Data.List.Nodup

/-! # Insertion-ordered dictionaries -/

namespace GoldFlow.Data

variable {α κ : Type} [DecidableEq κ] (key : α → κ)

/-- `dictionary.get(wanted)` -/
def lookup (wanted : κ) (items : List α) : Option α := items.find? (fun item => key item = wanted)

/-- `dictionary[key(item)] = item` -/
def upsert (item : α) : List α → List α
  | [] => [item]
  | first :: rest => if key first = key item then item :: rest else first :: upsert item rest

def upsertAll (items : List α) (writes : List α) : List α :=
  writes.foldl (fun items item => upsert key item items) items

section Lookup

variable {key} {wanted : κ} {item : α} {items writes : List α} {β : Type}

@[simp] theorem lookup_nil : lookup key wanted [] = none := rfl

theorem lookup_cons (first : α) (rest : List α) :
    lookup key wanted (first :: rest) = if key first = wanted then some first else lookup key wanted rest := by
  by_cases same : key first = wanted <;> simp [lookup, same]

theorem key_of_lookup (found : lookup key wanted items = some item) : key item = wanted := by
  simpa using List.find?_some found

theorem mem_of_lookup (found : lookup key wanted items = some item) : item ∈ items :=
  List.mem_of_find?_eq_some found

theorem lookup_eq_none : lookup key wanted items = none ↔ wanted ∉ items.map key := by
  simp [lookup]

theorem lookup_of_mem (distinct : (items.map key).Nodup) (member : item ∈ items) :
    lookup key (key item) items = some item := by
  induction items with
  | nil => simp at member
  | cons first rest ih =>
    rw [List.map_cons, List.nodup_cons] at distinct
    rw [lookup_cons]
    rcases List.mem_cons.mp member with rfl | later
    · simp
    · have apart : key first ≠ key item := by
        intro same
        apply distinct.1
        rw [same]
        exact List.mem_map_of_mem later
      simp [apart, ih distinct.2 later]

theorem lookup_append (later : List α) :
    lookup key wanted (items ++ later) = (lookup key wanted items).or (lookup key wanted later) := by
  simp [lookup]

theorem lookup_map {change : α → α} (kept : ∀ item, key (change item) = key item) :
    lookup key wanted (items.map change) = (lookup key wanted items).map change := by
  simp only [lookup, List.find?_map, Function.comp_def, kept]

theorem lookup_upsert :
    lookup key wanted (upsert key item items) = if key item = wanted then some item else lookup key wanted items := by
  induction items with
  | nil => simp [upsert, lookup_cons]
  | cons first rest ih =>
    by_cases same : key first = key item
    · by_cases found : key item = wanted <;> simp [upsert, lookup_cons, same, found]
    · rw [upsert, if_neg same, lookup_cons, lookup_cons, ih]
      by_cases found : key first = wanted
      · have apart : ¬ key item = wanted := fun equal => same (found.trans equal.symm)
        simp [apart]
      · simp [found]

theorem keys_upsert :
    (upsert key item items).map key =
      if key item ∈ items.map key then items.map key else items.map key ++ [key item] := by
  induction items with
  | nil => simp [upsert]
  | cons first rest ih =>
    by_cases same : key first = key item
    · simp [upsert, same]
    · have apart : ¬ key item = key first := fun equal => same equal.symm
      rw [upsert, if_neg same, List.map_cons, ih, List.map_cons]
      by_cases member : key item ∈ rest.map key
      · rw [if_pos member, if_pos (List.mem_cons_of_mem _ member)]
      · have absent : key item ∉ key first :: rest.map key := by
          rw [List.mem_cons, not_or]
          exact ⟨apart, member⟩
        rw [if_neg member, if_neg absent, List.cons_append]

theorem nodup_upsert (distinct : (items.map key).Nodup) : ((upsert key item items).map key).Nodup := by
  rw [keys_upsert]
  by_cases member : key item ∈ items.map key
  · simpa [member] using distinct
  · rw [if_neg member]
    exact List.Nodup.append distinct (List.nodup_singleton _) (by simpa using member)

theorem upsert_of_notMem (new : key item ∉ items.map key) : upsert key item items = items ++ [item] := by
  induction items with
  | nil => rfl
  | cons first rest ih =>
    simp only [List.map_cons, List.mem_cons, not_or] at new
    have apart : ¬ key first = key item := fun same => new.1 same.symm
    simp [upsert, apart, ih new.2]

theorem count_map_upsert_le [DecidableEq β] (f : α → β) (value : β) :
    ((upsert key item items).map f).count value ≤ (items.map f).count value + if f item = value then 1 else 0 := by
  induction items with
  | nil => simp [upsert, List.count_cons]
  | cons first =>
    by_cases same : key first = key item
    · simp only [upsert, same, if_true, List.map_cons, List.count_cons, beq_iff_eq]
      omega
    · simp only [upsert, same, if_false, List.map_cons, List.count_cons]
      omega

theorem map_upsert_of_lookup {f : α → β} {old : α} (found : lookup key (key item) items = some old)
    (kept : f item = f old) : (upsert key item items).map f = items.map f := by
  induction items with
  | nil => simp at found
  | cons first rest ih =>
    rw [lookup_cons] at found
    by_cases same : key first = key item
    · rw [if_pos same] at found
      cases found
      simp [upsert, same, kept]
    · rw [if_neg same] at found
      simp [upsert, same, ih found]

@[simp] theorem upsertAll_nil : upsertAll key items [] = items := rfl

@[simp] theorem upsertAll_cons (first : α) :
    upsertAll key items (first :: writes) = upsertAll key (upsert key first items) writes := rfl

theorem nodup_upsertAll (distinct : (items.map key).Nodup) : ((upsertAll key items writes).map key).Nodup := by
  induction writes generalizing items with
  | nil => exact distinct
  | cons first rest ih => exact ih (nodup_upsert distinct)

theorem mem_keys_upsertAll :
    wanted ∈ (upsertAll key items writes).map key ↔ wanted ∈ items.map key ∨ wanted ∈ writes.map key := by
  induction writes generalizing items with
  | nil => simp
  | cons first rest ih =>
    rw [upsertAll_cons, ih, keys_upsert, List.map_cons, List.mem_cons]
    split
    next known => grind
    next => simp only [List.mem_append, List.mem_singleton, or_assoc]

theorem lookup_upsertAll (distinct : (writes.map key).Nodup) :
    lookup key wanted (upsertAll key items writes) = (lookup key wanted writes).or (lookup key wanted items) := by
  induction writes generalizing items with
  | nil => simp
  | cons first rest ih =>
    rw [List.map_cons, List.nodup_cons] at distinct
    rw [upsertAll_cons, ih distinct.2, lookup_upsert, lookup_cons]
    by_cases found : key first = wanted
    · have absent : lookup key wanted rest = none := lookup_eq_none.mpr (found ▸ distinct.1)
      simp [found, absent]
    · simp [found]

theorem upsertAll_of_nodup (distinct : ((items ++ writes).map key).Nodup) :
    upsertAll key items writes = items ++ writes := by
  induction writes generalizing items with
  | nil => simp
  | cons first rest ih =>
    have new : key first ∉ items.map key := by
      intro member
      rw [List.map_append, List.map_cons] at distinct
      exact (List.disjoint_of_nodup_append distinct member) (by simp)
    rw [upsertAll_cons, upsert_of_notMem new, ih (by simpa using distinct)]
    simp

theorem mem_keys_filter {p : α → Bool} (distinct : (items.map key).Nodup) :
    wanted ∈ (items.filter p).map key ↔ ∃ item, lookup key wanted items = some item ∧ p item = true := by
  simp only [List.mem_map, List.mem_filter]
  constructor
  · rintro ⟨item, ⟨member, holds⟩, rfl⟩
    exact ⟨item, lookup_of_mem distinct member, holds⟩
  · rintro ⟨item, found, holds⟩
    exact ⟨item, ⟨mem_of_lookup found, holds⟩, key_of_lookup found⟩

theorem lookup_filterMap {other : β → κ} {f : α → Option β} (distinct : (items.map key).Nodup)
    (same : ∀ item made, f item = some made → other made = key item) :
    lookup other wanted (items.filterMap f) = (lookup key wanted items).bind f := by
  induction items with
  | nil => rfl
  | cons first rest ih =>
    rw [List.map_cons, List.nodup_cons] at distinct
    rw [lookup_cons, List.filterMap_cons]
    by_cases found : key first = wanted
    · -- no later entry has this key
      have absent : lookup key wanted rest = none := lookup_eq_none.mpr (found ▸ distinct.1)
      cases made : f first with
      | none => simp [found, made, ih distinct.2, absent]
      | some value => simp [found, made, lookup_cons, same first value made]
    · cases made : f first with
      | none => simp [found, ih distinct.2]
      | some value => simp [found, lookup_cons, same first value made, ih distinct.2]

omit [DecidableEq κ] in
theorem nodup_filterMap {other : β → κ} {f : α → Option β} (distinct : (items.map key).Nodup)
    (same : ∀ item made, f item = some made → other made = key item) : ((items.filterMap f).map other).Nodup := by
  have sublist : ((items.filterMap f).map other).Sublist (items.map key) := by
    induction items with
    | nil => simp
    | cons first rest ih =>
      have shorter := ih (List.nodup_cons.mp distinct).2
      rw [List.filterMap_cons, List.map_cons]
      cases made : f first with
      | none => exact shorter.cons _
      | some value => simpa [same first value made] using shorter
  exact distinct.sublist sublist

omit [DecidableEq κ] in
theorem map_key_mapM {β ε : Type} {other : β → κ} {f : α → Except ε β} {made : List β}
    (same : ∀ item value, f item = .ok value → other value = key item) (read : items.mapM f = .ok made) :
    made.map other = items.map key := by
  induction items generalizing made with
  | nil =>
    cases read
    rfl
  | cons first rest ih =>
    obtain ⟨value, values, head, tail, rfl⟩ := mapM_cons_eq_ok.mp read
    simp [same first value head, ih tail]

theorem lookup_mapM {β ε : Type} {other : β → κ} {f : α → Except ε β} {made : List β}
    (same : ∀ item value, f item = .ok value → other value = key item) (read : items.mapM f = .ok made) :
    (lookup key wanted items).map f = (lookup other wanted made).map .ok := by
  induction items generalizing made with
  | nil =>
    cases read
    rfl
  | cons first rest ih =>
    obtain ⟨value, values, head, tail, rfl⟩ := mapM_cons_eq_ok.mp read
    have sameKey := same first value head
    by_cases found : key first = wanted
    · simp [lookup_cons, found, sameKey, head]
    · simp [lookup_cons, found, sameKey, ih tail]

end Lookup

/-- A dictionary: no key occurs twice. -/
structure Keyed where
  items : List α
  distinct : (items.map key).Nodup

namespace Keyed

variable {key} {dictionary : Keyed key} {item : α} {items : List α}

def empty : Keyed key := ⟨[], by simp⟩

def get (dictionary : Keyed key) (wanted : κ) : Option α := lookup key wanted dictionary.items

def set (dictionary : Keyed key) (item : α) : Keyed key :=
  ⟨upsert key item dictionary.items, nodup_upsert dictionary.distinct⟩

def setAll (dictionary : Keyed key) (writes : List α) : Keyed key :=
  ⟨upsertAll key dictionary.items writes, nodup_upsertAll dictionary.distinct⟩

@[simp] theorem setAll_nil (dictionary : Keyed key) : dictionary.setAll [] = dictionary := rfl

theorem get_set (dictionary : Keyed key) (item : α) (wanted : κ) :
    (dictionary.set item).get wanted = if key item = wanted then some item else dictionary.get wanted :=
  lookup_upsert

theorem get_setAll {writes : List α} (distinct : (writes.map key).Nodup) (wanted : κ) :
    (dictionary.setAll writes).get wanted = (lookup key wanted writes).or (dictionary.get wanted) :=
  lookup_upsertAll distinct

theorem get_of_mem (member : item ∈ dictionary.items) : dictionary.get (key item) = some item :=
  lookup_of_mem dictionary.distinct member

/-- `{key(item): item for item in items}` -/
def ofList (items : List α) : Keyed key := ⟨upsertAll key [] items, nodup_upsertAll (by simp)⟩

theorem ofList_items (distinct : (items.map key).Nodup) : (ofList items : Keyed key).items = items := by
  have whole : upsertAll key [] items = [] ++ items := upsertAll_of_nodup (by simpa using distinct)
  simpa [ofList] using whole

theorem get_ofList_isSome (member : item ∈ items) :
    ∃ found, (ofList items : Keyed key).get (key item) = some found := by
  rw [← Option.isSome_iff_exists, Option.isSome_iff_ne_none]
  intro missing
  exact lookup_eq_none.mp missing (mem_keys_upsertAll.mpr (.inr (List.mem_map_of_mem member)))

theorem get_ofList (distinct : (items.map key).Nodup) (wanted : κ) :
    (ofList items : Keyed key).get wanted = lookup key wanted items := by
  rw [get, ofList_items distinct]

@[simp] theorem ofList_self (dictionary : Keyed key) : ofList dictionary.items = dictionary := by
  have same := ofList_items dictionary.distinct
  generalize copied : (ofList dictionary.items : Keyed key) = copy at same
  cases copy
  cases same
  rfl

end Keyed

end GoldFlow.Data
