import Mathlib.Data.List.Basic

/-! # Fallible computations -/

namespace GoldFlow.Data

variable {ε α β : Type} {first : Except ε α} {result : β}

theorem ok_bind (value : α) (next : α → Except ε β) : (Except.ok value : Except ε α) >>= next = next value := rfl

theorem bind_eq_ok {next : α → Except ε β} :
    first >>= next = .ok result ↔ ∃ value, first = .ok value ∧ next value = .ok result := by
  cases first with
  | error => simp [bind, Except.bind]
  | ok => simp [bind, Except.bind]

theorem map_eq_ok {change : α → β} :
    first.map change = .ok result ↔ ∃ value, first = .ok value ∧ change value = result := by
  cases first with
  | error => simp [Except.map]
  | ok => simp [Except.map]

variable {computed : Except ε α}

theorem toOption_eq_some {value : α} : computed.toOption = some value ↔ computed = .ok value := by
  cases computed with
  | error => simp [Except.toOption]
  | ok => simp [Except.toOption]

theorem ok_of_any {check : α → Bool} (passed : computed.toOption.any check = true) :
    ∃ value, computed = .ok value ∧ check value = true := by
  obtain ⟨value, made, checked⟩ := (Option.any_eq_true ..).mp passed
  exact ⟨value, toOption_eq_some.mp made, checked⟩

theorem ok_of_isSome (made : computed.toOption.isSome = true) : ∃ value, computed = .ok value := by
  obtain ⟨value, made⟩ := Option.isSome_iff_exists.mp made
  exact ⟨value, toOption_eq_some.mp made⟩

variable {f : α → Except ε β} {items : List α}

theorem mapM_cons_eq_ok {first : α} {rest : List α} {made : List β} :
    (first :: rest).mapM f = .ok made ↔
      ∃ value values, f first = .ok value ∧ rest.mapM f = .ok values ∧ made = value :: values := by
  rw [List.mapM_cons, bind_eq_ok]
  constructor
  · rintro ⟨value, head, later⟩
    obtain ⟨values, tail, result⟩ := bind_eq_ok.mp later
    cases result
    exact ⟨value, values, head, tail, rfl⟩
  · rintro ⟨value, values, head, tail, rfl⟩
    exact ⟨value, head, bind_eq_ok.mpr ⟨values, tail, rfl⟩⟩

theorem mapM_getElem? {values : List β} (made : items.mapM f = .ok values) (place : Nat) :
    values[place]?.map .ok = items[place]?.map f := by
  induction items generalizing values place with
  | nil =>
    cases made
    simp
  | cons first rest ih =>
    obtain ⟨value, later, head, tail, rfl⟩ := mapM_cons_eq_ok.mp made
    cases place with
    | zero => simp [head]
    | succ place => simpa using ih tail place

theorem mapM_isOk : (∃ made, items.mapM f = .ok made) ↔ ∀ item ∈ items, ∃ value, f item = .ok value := by
  induction items with
  | nil => simp [pure, Except.pure]
  | cons first rest ih =>
    simp only [mapM_cons_eq_ok, List.mem_cons, forall_eq_or_imp, ← ih]
    constructor
    · rintro ⟨_, value, values, head, tail, rfl⟩
      exact ⟨⟨value, head⟩, values, tail⟩
    · rintro ⟨⟨value, head⟩, values, tail⟩
      exact ⟨_, value, values, head, tail, rfl⟩

theorem foldlM_isOk {f : β → α → Except ε β} (steps : ∀ state item, ∃ next, f state item = .ok next)
    (items : List α) (state : β) : ∃ final, items.foldlM f state = .ok final := by
  induction items generalizing state with
  | nil => exact ⟨state, rfl⟩
  | cons first rest ih =>
    obtain ⟨next, stepped⟩ := steps state first
    obtain ⟨final, folded⟩ := ih next
    exact ⟨final, by rw [List.foldlM_cons, stepped]; exact folded⟩

end GoldFlow.Data
