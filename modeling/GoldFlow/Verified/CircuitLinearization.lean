import GoldFlow.Effect.Refinement
import GoldFlow.Persistence.CircuitVersions

/-! # The durable circuit store is an atomic one -/

namespace GoldFlow

open Effect CircuitOp

namespace ConfigVersions

variable {rows : ConfigVersions} {row : ConfigVersion} {configType : String}

theorem latestOf_eq_none (missing : latestOf rows = none) : rows = [] := by
  cases rows with
  | nil => rfl
  | cons row rows =>
    simp only [latestOf] at missing
    cases rest : latestOf rows with
    | none => simp [rest] at missing
    | some best => by_cases less : best.version < row.version <;> simp [rest, less] at missing

theorem latestOf_greatest (found : latestOf rows = some row) :
    row ∈ rows ∧ ∀ other ∈ rows, ¬ row.version < other.version := by
  induction rows generalizing row with
  | nil => cases found
  | cons first rows ih =>
    simp only [latestOf] at found
    cases rest : latestOf rows with
    | none =>
      obtain rfl := latestOf_eq_none rest
      rw [rest] at found
      cases found
      refine ⟨List.mem_singleton_self first, fun other member => ?_⟩
      rw [List.mem_singleton.mp member]
      exact String.lt_irrefl _
    | some best =>
      obtain ⟨member, greatest⟩ := ih rest
      simp only [rest] at found
      by_cases less : best.version < first.version
      · rw [if_pos less] at found
        cases found
        refine ⟨by simp, fun other inside => ?_⟩
        rcases List.mem_cons.mp inside with rfl | inside
        · exact String.lt_irrefl _
        · exact fun greater => greatest other inside (String.lt_trans less greater)
      · rw [if_neg less] at found
        cases found
        refine ⟨List.mem_cons_of_mem _ member, fun other inside => ?_⟩
        rcases List.mem_cons.mp inside with rfl | inside
        · exact less
        · exact greatest other inside

theorem latest_eq_some (found : rows.latest configType = some row) :
    row ∈ rows ∧ row.configType = configType ∧
      ∀ other ∈ rows, other.configType = configType → ¬ row.version < other.version := by
  obtain ⟨member, greatest⟩ := latestOf_greatest found
  simp only [List.mem_filter, decide_eq_true_eq] at member greatest
  exact ⟨member.1, member.2, fun other inside same => greatest other ⟨inside, same⟩⟩

theorem latest_eq_none (absent : rows.latest configType = none) : ∀ row ∈ rows, row.configType ≠ configType := by
  intro row member same
  have kept : row ∈ rows.filter (·.configType = configType) := by simp [member, same]
  rw [latestOf_eq_none absent] at kept
  cases kept

end ConfigVersions

/-! ## What the table says about an account -/

/-- `current.version if current else 0` -/
def CircuitStates.versionOf (states : CircuitStates) (accountId : String) : Nat :=
  ((states accountId).map (·.version)).getD 0

namespace SQLAlchemyCircuitStateStore

variable {store : SQLAlchemyCircuitStateStore} {rows : ConfigVersions} {states : CircuitStates}
  {accountId : String} {state : CircuitState}

theorem fromRow_row (store : SQLAlchemyCircuitStateStore) (persisted : CircuitState) :
    fromRow persisted.accountId (store.row persisted) = .ok persisted := by
  simp [fromRow, row, payload]

structure Holds (store : SQLAlchemyCircuitStateStore) (rows : ConfigVersions) (states : CircuitStates)
    (accountId : String) : Prop where
  numbered : ∀ row ∈ rows, row.configType = store.configType accountId →
    ∃ version, 1 ≤ version ∧ version ≤ states.versionOf accountId ∧ row.version = zeroPadded 20 version
  complete : ∀ version, 1 ≤ version → version ≤ states.versionOf accountId →
    ∃ row ∈ rows, row.configType = store.configType accountId ∧ row.version = zeroPadded 20 version
  stored : ∀ state, states accountId = some state → 1 ≤ state.version
  last : ∀ state, states accountId = some state → ∀ row ∈ rows,
    row.configType = store.configType accountId → row.version = zeroPadded 20 state.version →
      fromRow accountId row = .ok state
  bounded : states.versionOf accountId < 10 ^ 20

/-- What `load` decodes from the latest row. -/
def decode (store : SQLAlchemyCircuitStateStore) (rows : ConfigVersions) (accountId : String) :
    Except PyError (Option CircuitState) :=
  match rows.latest (store.configType accountId) with
  | none => .ok none
  | some row => (fromRow accountId row).map some

theorem Holds.decode (holds : store.Holds rows states accountId) :
    store.decode rows accountId = .ok (states accountId) := by
  unfold SQLAlchemyCircuitStateStore.decode
  cases stored : states accountId with
  | none =>
    cases found : rows.latest (store.configType accountId) with
    | none => rfl
    | some row =>
      obtain ⟨member, same, _⟩ := ConfigVersions.latest_eq_some found
      obtain ⟨version, positive, bound, _⟩ := holds.numbered row member same
      simp only [CircuitStates.versionOf, stored, Option.map_none, Option.getD_none] at bound
      omega
  | some state =>
    have current : states.versionOf accountId = state.version := by simp [CircuitStates.versionOf, stored]
    obtain ⟨newest, inside, typed, numbered⟩ :=
      holds.complete state.version (holds.stored state stored) (le_of_eq current.symm)
    cases found : rows.latest (store.configType accountId) with
    | none => exact absurd typed (ConfigVersions.latest_eq_none found newest inside)
    | some row =>
      obtain ⟨member, same, greatest⟩ := ConfigVersions.latest_eq_some found
      obtain ⟨version, _, bound, text⟩ := holds.numbered row member same
      have small := holds.bounded
      -- the greatest text is the greatest number
      have notLess := greatest newest inside typed
      rw [text, numbered, zeroPadded_lt_iff (by decide) (by omega) (by omega)] at notLess
      have latest : version = state.version := by omega
      simp [holds.last state stored row member same (text.trans (by rw [latest])), Except.map]

theorem Holds.taken_iff (holds : store.Holds rows states state.accountId) (version : Nat) :
    rows.taken (store.row { state with version := version + 1 }) = true ↔
      version + 1 ≤ states.versionOf state.accountId := by
  have taken : rows.taken (store.row { state with version := version + 1 }) = true ↔
      ∃ other ∈ rows, other.configType = store.configType state.accountId ∧
        other.version = zeroPadded 20 (version + 1) := by
    simp only [ConfigVersions.taken, List.any_eq_true, decide_eq_true_eq]
    exact Iff.rfl
  rw [taken]
  constructor
  · rintro ⟨other, member, same, text⟩
    obtain ⟨number, _, bound, numbered⟩ := holds.numbered other member same
    rw [zeroPadded_injective 20 (text.symm.trans numbered)]
    exact bound
  · intro bound
    exact holds.complete (version + 1) (by omega) bound

theorem holds_initially (unused : ∀ row ∈ rows, row.configType ≠ store.configType accountId) :
    store.Holds rows (fun _ => none) accountId where
  numbered row member same := absurd same (unused row member)
  complete version positive bound := by
    simp only [CircuitStates.versionOf, Option.map_none, Option.getD_none] at bound
    omega
  stored state impossible := by cases impossible
  last state impossible := by cases impossible
  bounded := by simp [CircuitStates.versionOf]

section Inserted

variable (persisted : CircuitState)

theorem versionOf_update_self : CircuitStates.versionOf
    (Function.update states persisted.accountId (some persisted)) persisted.accountId = persisted.version := by
  simp [CircuitStates.versionOf]

theorem versionOf_update_other (other : accountId ≠ persisted.accountId) : CircuitStates.versionOf
    (Function.update states persisted.accountId (some persisted)) accountId = states.versionOf accountId := by
  simp [CircuitStates.versionOf, other]

theorem Holds.insert (holds : store.Holds rows states persisted.accountId)
    (next : persisted.version = states.versionOf persisted.accountId + 1) (small : persisted.version < 10 ^ 20) :
    store.Holds (rows ++ [store.row persisted])
      (Function.update states persisted.accountId (some persisted)) persisted.accountId where
  numbered row member same := by
    rw [versionOf_update_self]
    rcases List.mem_append.mp member with old | new
    · obtain ⟨version, positive, bound, text⟩ := holds.numbered row old same
      exact ⟨version, positive, by omega, text⟩
    · obtain rfl := List.mem_singleton.mp new
      exact ⟨persisted.version, by omega, le_rfl, rfl⟩
  complete version positive bound := by
    rw [versionOf_update_self] at bound
    by_cases newest : version = persisted.version
    · exact ⟨store.row persisted, by simp, rfl, by rw [newest]; rfl⟩
    · obtain ⟨row, member, same⟩ := holds.complete version positive (by omega)
      exact ⟨row, List.mem_append_left _ member, same⟩
  stored state found := by
    obtain rfl : persisted = state := by simpa using found
    omega
  last state found row member same text := by
    obtain rfl : persisted = state := by simpa using found
    rcases List.mem_append.mp member with old | new
    · obtain ⟨version, _, bound, numbered⟩ := holds.numbered row old same
      have equal := zeroPadded_injective 20 (text.symm.trans numbered)
      omega
    · obtain rfl := List.mem_singleton.mp new
      exact fromRow_row store persisted
  bounded := by rwa [versionOf_update_self]

theorem Holds.insert_other (holds : store.Holds rows states accountId) (other : accountId ≠ persisted.accountId)
    (apart : store.configType persisted.accountId ≠ store.configType accountId) :
    store.Holds (rows ++ [store.row persisted])
      (Function.update states persisted.accountId (some persisted)) accountId where
  numbered row member same := by
    rw [versionOf_update_other persisted other]
    rcases List.mem_append.mp member with old | new
    · exact holds.numbered row old same
    · obtain rfl := List.mem_singleton.mp new
      exact absurd same apart
  complete version positive bound := by
    rw [versionOf_update_other persisted other] at bound
    obtain ⟨row, member, same⟩ := holds.complete version positive bound
    exact ⟨row, List.mem_append_left _ member, same⟩
  stored state found := holds.stored state (by simpa [other] using found)
  last state found row member same text := by
    rcases List.mem_append.mp member with old | new
    · exact holds.last state (by simpa [other] using found) row old same text
    · obtain rfl := List.mem_singleton.mp new
      exact absurd same apart
  bounded := by
    rw [versionOf_update_other persisted other]
    exact holds.bounded

end Inserted

end SQLAlchemyCircuitStateStore

/-! ## One call -/

structure CircuitOp.Admitted (accounts : List String) (call : CircuitOp) : Prop where
  account : call.accountId ∈ accounts
  fits : ∀ state expectedVersion, call = .save state expectedVersion → expectedVersion + 1 < 10 ^ 20

namespace SQLAlchemyCircuitStateStore

section Simulation

variable (store : SQLAlchemyCircuitStateStore)

def inserting (state : CircuitState) (expectedVersion : Nat) : VersionPy CircuitAnswer :=
  (store.commit { state with version := expectedVersion + 1 }).bind fun persisted => .pure (.saved persisted)

theorem inserting_eq (state : CircuitState) (expectedVersion : Nat) :
    store.inserting state expectedVersion =
      .call (.insert (store.row { state with version := expectedVersion + 1 })) fun
        | .ok () => .pure (.saved { state with version := expectedVersion + 1 })
        | .error error => if isIntegrity error then .raise conflict else .raise error := by
  simp only [inserting, commit, askVersions, Program.perform, Program.catching, Program.bind_eq, Program.bind_call,
    Program.call.injEq, heq_eq_eq, true_and]
  funext reply
  cases reply with
  | ok => rfl
  | error error => cases integrity : isIntegrity error <;> simp [Program.catching, integrity]

def afterRead (accountId : String) (next : Option CircuitState → VersionPy CircuitAnswer)
    (row : Option ConfigVersion) : VersionPy CircuitAnswer :=
  match row with
  | none => next none
  | some row =>
    match fromRow accountId row with
    | .ok state => next (some state)
    | .error error => .raise error

theorem load_bind (accountId : String) (next : Option CircuitState → VersionPy CircuitAnswer) :
    (store.load accountId).bind next = .call (.latest (store.configType accountId)) fun
      | .ok row => afterRead accountId next row
      | .error error => .raise error := by
  simp only [load, askVersions, Program.perform, Program.bind_eq, Program.bind_call,
    Program.call.injEq, heq_eq_eq, true_and]
  funext reply
  cases reply with
  | error => rfl
  | ok row =>
    cases row with
    | none => rfl
    | some row =>
      cases read : fromRow accountId row <;> simp [afterRead, read, Program.ofExcept, Functor.map]

theorem durable_save (state : CircuitState) (expectedVersion : Nat) :
    durable store (.save state expectedVersion) =
      (store.load state.accountId).bind fun current =>
        if (current.map (·.version)).getD 0 = expectedVersion then store.inserting state expectedVersion
        else .raise conflict := by
  simp only [durable, save, Program.bind_eq, Program.bind_assoc]
  congr 1
  funext current
  by_cases same : (current.map (·.version)).getD 0 = expectedVersion <;>
    simp [same, Program.raiseIf, inserting]

variable {store}

theorem Holds.afterRead {rows : ConfigVersions} {states : CircuitStates} {accountId : String}
    (holds : store.Holds rows states accountId) (next : Option CircuitState → VersionPy CircuitAnswer) :
    SQLAlchemyCircuitStateStore.afterRead accountId next (rows.latest (store.configType accountId)) =
      next (states accountId) := by
  have decoded := holds.decode
  unfold SQLAlchemyCircuitStateStore.decode at decoded
  unfold SQLAlchemyCircuitStateStore.afterRead
  cases found : rows.latest (store.configType accountId) with
  | none =>
    simp only [found, Except.ok.injEq] at decoded
    simp [← decoded]
  | some row =>
    cases read : fromRow accountId row with
    | error => simp [found, read, Except.map] at decoded
    | ok =>
      simp only [found, read, Except.map, Except.ok.injEq] at decoded
      simp [read, ← decoded]

end Simulation

end SQLAlchemyCircuitStateStore

/-! ## The atomic store -/

def saved? : PortEvent → Option CircuitState
  | ⟨.circuit (.save _ _), .ok persisted⟩ => some persisted
  | _ => none

def inserted? : Event VersionPort PyError → Option CircuitState
  | ⟨.insert row, .ok ()⟩ => (SQLAlchemyCircuitStateStore.fromRow row.payload.accountId row).toOption
  | _ => none

section Atomic

variable {states : CircuitStates} {state : CircuitState} {expectedVersion : Nat}

theorem save_accepted (current : states.versionOf state.accountId = expectedVersion) :
    InMemoryCircuitStateStore.save states state expectedVersion =
      .ok ({ state with version := expectedVersion + 1 },
        Function.update states state.accountId (some { state with version := expectedVersion + 1 })) :=
  if_neg (not_not.mpr current)

theorem save_refused (stale : states.versionOf state.accountId ≠ expectedVersion) :
    InMemoryCircuitStateStore.save states state expectedVersion = .error SQLAlchemyCircuitStateStore.conflict :=
  if_pos stale

theorem atomic_load (accountId : String) :
    AtMostOne circuitStore states (atomic (.load accountId))
      (some ⟨.circuit (.load accountId), .ok (states accountId)⟩) states (.pure (.loaded (states accountId))) :=
  .move ⟨rfl, rfl⟩

theorem atomic_save_conflict (stale : states.versionOf state.accountId ≠ expectedVersion) :
    AtMostOne circuitStore states (atomic (.save state expectedVersion))
      (some ⟨.circuit (.save state expectedVersion), .error SQLAlchemyCircuitStateStore.conflict⟩) states
      (.raise SQLAlchemyCircuitStateStore.conflict) := by
  refine .move ?_
  simp only [circuitStore, save_refused stale]
  exact ⟨trivial, trivial⟩

theorem atomic_save (current : states.versionOf state.accountId = expectedVersion) :
    AtMostOne circuitStore states (atomic (.save state expectedVersion))
      (some ⟨.circuit (.save state expectedVersion), .ok { state with version := expectedVersion + 1 }⟩)
      (Function.update states state.accountId (some { state with version := expectedVersion + 1 }))
      (.pure (.saved { state with version := expectedVersion + 1 })) := by
  refine .move ?_
  simp only [circuitStore, save_accepted current]
  exact ⟨trivial, trivial⟩

end Atomic

namespace SQLAlchemyCircuitStateStore

inductive Progress (store : SQLAlchemyCircuitStateStore) (accounts : List String) (states : CircuitStates) :
    VersionPy CircuitAnswer → Py CircuitAnswer → Prop
  | begun {call : CircuitOp} : call.Admitted accounts → Progress store accounts states (call.durable store) call.atomic
  | read {state : CircuitState} {expectedVersion : Nat} :
      Admitted accounts (.save state expectedVersion) →
      expectedVersion ≤ states.versionOf state.accountId →
      Progress store accounts states (store.inserting state expectedVersion)
        (atomic (.save state expectedVersion))
  | returned {answer : CircuitAnswer} : Progress store accounts states (.pure answer) (.pure answer)
  | raised {error : PyError} : Progress store accounts states (.raise error) (.raise error)

section Steps

variable {store : SQLAlchemyCircuitStateStore} {accounts : List String} {rows after : ConfigVersions}
  {states states' : CircuitStates} {program' : Py CircuitAnswer}

theorem Progress.mono {program : VersionPy CircuitAnswer} (progress : store.Progress accounts states program program')
    (grows : ∀ accountId, states.versionOf accountId ≤ states'.versionOf accountId) :
    store.Progress accounts states' program program' := by
  cases progress with
  | begun admitted => exact .begun admitted
  | read admitted bound => exact .read admitted (le_trans bound (grows _))
  | returned => exact .returned
  | raised => exact .raised

def Represents (store : SQLAlchemyCircuitStateStore) (accounts : List String) (rows : ConfigVersions)
    (states : CircuitStates) : Prop :=
  ∀ accountId ∈ accounts, store.Holds rows states accountId

def Answered (store : SQLAlchemyCircuitStateStore) (accounts : List String) (states : CircuitStates)
    (program' : Py CircuitAnswer) (event : Event VersionPort PyError) (after : ConfigVersions)
    (next : VersionPy CircuitAnswer) : Prop :=
  ∃ event' states' next', AtMostOne circuitStore states program' event' states' next' ∧
    store.Represents accounts after states' ∧ store.Progress accounts states' next next' ∧
    inserted? event = event'.bind saved? ∧
    ∀ accountId, states.versionOf accountId ≤ states'.versionOf accountId

variable {state : CircuitState} {expectedVersion : Nat}

theorem read_answered (represents : store.Represents accounts rows states)
    (admitted : Admitted accounts (.save state expectedVersion)) :
    store.Answered accounts states (atomic (.save state expectedVersion))
      ⟨.latest (store.configType state.accountId), .ok (rows.latest (store.configType state.accountId))⟩ rows
      (afterRead state.accountId
        (fun current =>
          if (current.map (·.version)).getD 0 = expectedVersion then store.inserting state expectedVersion
          else .raise conflict)
        (rows.latest (store.configType state.accountId))) := by
  rw [(represents state.accountId admitted.account).afterRead]
  show store.Answered accounts states _ _ rows (if states.versionOf state.accountId = expectedVersion then _ else _)
  by_cases current : states.versionOf state.accountId = expectedVersion
  · -- the save takes effect later
    rw [if_pos current]
    exact ⟨none, _, _, .stay, represents, .read admitted (le_of_eq current.symm), rfl, fun _ => le_rfl⟩
  · rw [if_neg current]
    exact ⟨_, _, _, atomic_save_conflict current, represents, .raised, rfl, fun _ => le_rfl⟩

theorem insert_answered
    (distinct : ∀ first ∈ accounts, ∀ second ∈ accounts, store.configType first = store.configType second →
      first = second)
    (represents : store.Represents accounts rows states) (admitted : Admitted accounts (.save state expectedVersion))
    (bound : expectedVersion ≤ states.versionOf state.accountId)
    (fresh : rows.taken (store.row { state with version := expectedVersion + 1 }) = false) :
    store.Answered accounts states (atomic (.save state expectedVersion))
      ⟨.insert (store.row { state with version := expectedVersion + 1 }), .ok ()⟩
      (rows ++ [store.row { state with version := expectedVersion + 1 }])
      (.pure (.saved { state with version := expectedVersion + 1 })) := by
  have holds := represents state.accountId admitted.account
  have current : states.versionOf state.accountId = expectedVersion := by
    have above := mt (holds.taken_iff expectedVersion).mpr (by simp [fresh])
    omega
  refine ⟨_, _, _, atomic_save current, fun accountId known => ?_, .returned, ?_, fun accountId => ?_⟩
  · by_cases same : accountId = state.accountId
    · subst same
      exact holds.insert { state with version := expectedVersion + 1 } (by simp [current]) (admitted.fits _ _ rfl)
    · exact (represents accountId known).insert_other { state with version := expectedVersion + 1 } same
        fun equal => same (distinct _ known _ admitted.account equal.symm)
  · simp [inserted?, saved?, fromRow, row, payload, Except.toOption]
  · by_cases same : accountId = state.accountId
    · subst same
      rw [versionOf_update_self { state with version := expectedVersion + 1 }]
      simp [current]
    · exact le_of_eq (versionOf_update_other { state with version := expectedVersion + 1 } same).symm

/-- **A request of a durable call is answered as one of an atomic call**, or is not visible. -/
theorem Progress.answered {op : VersionOp} {next : Except PyError op.Value → VersionPy CircuitAnswer}
    {reply : Except PyError op.Value}
    (distinct : ∀ first ∈ accounts, ∀ second ∈ accounts, store.configType first = store.configType second →
      first = second)
    (represents : store.Represents accounts rows states)
    (progress : store.Progress accounts states (.call op next) program')
    (stepped : configVersions.step rows ⟨op, reply⟩ after) :
    store.Answered accounts states program' ⟨op, reply⟩ after (next reply) := by
  generalize running : Program.call (S := VersionPort) op next = program at progress
  cases progress with
  | returned => cases running
  | raised => cases running
  | @begun call admitted =>
    cases call with
    | load accountId =>
      rw [durable, Program.bind_eq, load_bind] at running
      cases running
      obtain ⟨rfl, rfl⟩ := stepped
      dsimp only
      rw [(represents accountId admitted.account).afterRead]
      exact ⟨_, _, _, atomic_load accountId, represents, .returned, rfl, fun _ => le_rfl⟩
    | save =>
      rw [durable_save, load_bind] at running
      cases running
      obtain ⟨rfl, rfl⟩ := stepped
      exact read_answered represents admitted
  | @read state expectedVersion admitted bound =>
    cases running
    simp only [configVersions, ConfigVersions.insert] at stepped
    cases taken : rows.taken (store.row { state with version := expectedVersion + 1 }) with
    | false =>
      simp only [taken] at stepped
      obtain ⟨rfl, rfl⟩ := stepped
      exact insert_answered distinct represents admitted bound taken
    | true =>
      simp only [taken] at stepped
      obtain ⟨rfl, rfl⟩ := stepped
      have above := ((represents state.accountId admitted.account).taken_iff expectedVersion).mp taken
      exact ⟨_, _, _, atomic_save_conflict (by omega), represents, .raised, rfl, fun _ => le_rfl⟩

end Steps

def simulation {ι : Type} (store : SQLAlchemyCircuitStateStore) (accounts : List String)
    (distinct : ∀ first ∈ accounts, ∀ second ∈ accounts,
      store.configType first = store.configType second → first = second) :
    Simulation (Admitted accounts) configVersions (fun (_ : ι) call => durable store call)
      circuitStore (fun _ call => atomic call) inserted? saved? where
  shared := store.Represents accounts
  progress := store.Progress accounts
  start _ _ _ admitted := .begun admitted
  returned progress := by
    generalize running : (Program.pure _ : VersionPy CircuitAnswer) = program at progress
    cases progress with
    | @begun call _ => cases call <;> cases running
    | read => cases running
    | returned => cases running; rfl
    | raised => cases running
  raised progress := by
    generalize running : (Program.raise _ : VersionPy CircuitAnswer) = program at progress
    cases progress with
    | @begun call _ => cases call <;> cases running
    | read => cases running
    | returned => cases running
    | raised => cases running; rfl
  step represents progress stepped := by
    obtain ⟨event, states', next', moved, represents', progress', effect, grows⟩ :=
      progress.answered distinct represents stepped
    exact ⟨event, states', next', moved, represents', progress', effect, fun other => other.mono grows⟩

end SQLAlchemyCircuitStateStore

/-! ## What the atomic store has saved -/

structure LastSaved (saves : List CircuitState) (states : CircuitStates) : Prop where
  last : ∀ accountId, states accountId = (saves.filter (·.accountId = accountId)).getLast?
  below : ∀ state ∈ saves, state.version ≤ states.versionOf state.accountId
  increasing : saves.Pairwise fun earlier later =>
    earlier.accountId = later.accountId → earlier.version < later.version

section LastSaved

variable {saves : List CircuitState} {states after : CircuitStates}

theorem LastSaved.snoc {persisted : CircuitState} (holds : LastSaved saves states)
    (next : persisted.version = states.versionOf persisted.accountId + 1) :
    LastSaved (saves ++ [persisted]) (Function.update states persisted.accountId (some persisted)) where
  last accountId := by
    by_cases same : accountId = persisted.accountId
    · subst same
      simp
    · have other : persisted.accountId ≠ accountId := fun equal => same equal.symm
      simp [same, other, holds.last accountId]
  below state member := by
    rcases List.mem_append.mp member with earlier | last
    · have bound := holds.below state earlier
      by_cases same : state.accountId = persisted.accountId
      · rw [same] at bound ⊢
        rw [SQLAlchemyCircuitStateStore.versionOf_update_self]
        omega
      · rwa [SQLAlchemyCircuitStateStore.versionOf_update_other persisted same]
    · obtain rfl := List.mem_singleton.mp last
      rw [SQLAlchemyCircuitStateStore.versionOf_update_self]
  increasing := by
    rw [List.pairwise_append]
    refine ⟨holds.increasing, by simp, fun earlier member later last same => ?_⟩
    obtain rfl := List.mem_singleton.mp last
    have bound := holds.below earlier member
    rw [same] at bound
    omega

theorem LastSaved.step {event : PortEvent} (holds : LastSaved saves states)
    (stepped : circuitStore.step states event after) : LastSaved (saves ++ (saved? event).toList) after := by
  obtain ⟨op, reply⟩ := event
  cases op with
  | circuit op =>
    cases op with
    | load =>
      obtain ⟨rfl, rfl⟩ := stepped
      simpa [saved?] using holds
    | save state expectedVersion =>
      by_cases current : states.versionOf state.accountId = expectedVersion
      · simp only [circuitStore, save_accepted current] at stepped
        obtain ⟨rfl, rfl⟩ := stepped
        have next : LastSaved (saves ++ [{ state with version := expectedVersion + 1 }])
            (Function.update states state.accountId (some { state with version := expectedVersion + 1 })) :=
          holds.snoc (by simp [current])
        simpa [saved?] using next
      · simp only [circuitStore, save_refused current] at stepped
        obtain ⟨rfl, rfl⟩ := stepped
        simpa [saved?] using holds
  | _ =>
    obtain rfl : after = states := stepped
    simpa [saved?] using holds

theorem lastSaved_run {ι : Type} [DecidableEq ι] {labels : List (Label Port PyError CircuitAnswer ι CircuitOp)}
    {final : Pool Port PyError CircuitAnswer CircuitStates ι}
    (run : Pool.Run circuitStore (fun _ call => atomic call) (Pool.idle fun _ => none) labels final) :
    LastSaved ((eventsOf labels).filterMap saved?) final.shared := by
  have along : ∀ events states event after, LastSaved (events.filterMap saved?) states →
      circuitStore.step states event after → LastSaved ((events ++ [event]).filterMap saved?) after := by
    intro events states event after holds stepped
    have next := holds.step stepped
    cases saved : saved? event <;> simpa [saved] using next
  refine Pool.Run.shared_invariant ?_ along run
  exact ⟨fun _ => rfl, (by simp), List.Pairwise.nil⟩

end LastSaved

section Failed

open SQLAlchemyCircuitStateStore

def InsertedNothing (events : List (Event VersionPort PyError)) (result : Except PyError CircuitAnswer) : Prop :=
  ∀ error, result = .error error → events.filterMap inserted? = []

theorem load_failed (store : SQLAlchemyCircuitStateStore) (accountId : String)
    (next : Option CircuitState → VersionPy CircuitAnswer)
    (rest : ∀ state read, (next state).wp history.environment (fun _ _ => True) InsertedNothing
      [⟨.latest (store.configType accountId), read⟩]) :
    ((store.load accountId).bind next).wp history.environment (fun _ _ => True) InsertedNothing [] := by
  rw [load_bind]
  refine ⟨trivial, fun reply events read => ?_⟩
  obtain rfl : events = [⟨.latest (store.configType accountId), reply⟩] := read
  have nothing : ∀ error, InsertedNothing [⟨.latest (store.configType accountId), reply⟩] (.error error) :=
    fun _ _ _ => rfl
  cases reply with
  | error error => exact nothing error
  | ok row =>
    cases row with
    | none => exact rest none _
    | some row =>
      simp only [afterRead]
      cases fromRow accountId row with
      | ok state => exact rest (some state) _
      | error error => exact nothing error

theorem durable_failed (store : SQLAlchemyCircuitStateStore) (call : CircuitOp) :
    (call.durable store).wp history.environment (fun _ _ => True) InsertedNothing [] := by
  cases call with
  | load accountId => exact load_failed store accountId _ fun state read error ended => by cases ended
  | save state expectedVersion =>
    rw [durable_save]
    apply load_failed
    intro current read
    split
    · rw [inserting_eq]
      refine ⟨trivial, fun reply events answered => ?_⟩
      obtain rfl : events = [⟨.latest (store.configType state.accountId), read⟩,
        ⟨.insert (store.row { state with version := expectedVersion + 1 }), reply⟩] := answered
      cases reply with
      | ok => exact fun error ended => by cases ended
      | error =>
        dsimp only
        split <;> exact fun _ _ => rfl
    · exact fun _ _ => rfl

end Failed

/-! ## Linearization -/

/-- **The durable circuit store is a compare-and-set.** Every interleaving is a run of the in-memory store in
which each call is one atomic step. -/
theorem circuit_store_linearizes {ι : Type} [DecidableEq ι] (store : SQLAlchemyCircuitStateStore)
    (rows : ConfigVersions) {labels : List (Label VersionPort PyError CircuitAnswer ι CircuitOp)}
    {pool : Pool VersionPort PyError CircuitAnswer ConfigVersions ι}
    (run : Pool.Run configVersions (fun _ call => durable store call) (Pool.idle rows) labels pool)
    (distinct : ∀ first ∈ callsOf labels, ∀ second ∈ callsOf labels,
      store.configType first.accountId = store.configType second.accountId → first.accountId = second.accountId)
    (fits : ∀ state expectedVersion, .save state expectedVersion ∈ callsOf labels → expectedVersion + 1 < 10 ^ 20)
    (unused : ∀ row ∈ rows, ∀ call ∈ callsOf labels, row.configType ≠ store.configType call.accountId) :
    (∃ atomically final,
      Pool.Run circuitStore (fun _ call => atomic call) (Pool.idle fun _ => none) atomically final ∧
      observationsOf atomically = observationsOf labels ∧
      (eventsOf atomically).filterMap saved? = (eventsOf labels).filterMap inserted? ∧
      ∀ call ∈ callsOf labels, store.decode pool.shared call.accountId = .ok (final.shared call.accountId)) ∧
    ((eventsOf labels).filterMap inserted?).Pairwise (fun earlier later =>
      earlier.accountId = later.accountId → earlier.version < later.version) ∧
    (∀ earlier thread error later events, labels = earlier ++ .finish thread (.error error) :: later →
      history.track (fun _ _ => []) (fun _ => none) earlier thread = some events → events.filterMap inserted? = []) ∧
    ∀ call ∈ callsOf labels, store.decode pool.shared call.accountId =
      .ok (((eventsOf labels).filterMap inserted?).filter (·.accountId = call.accountId)).getLast? := by
  have distinctAccounts : ∀ first ∈ (callsOf labels).map CircuitOp.accountId,
      ∀ second ∈ (callsOf labels).map CircuitOp.accountId,
        store.configType first = store.configType second → first = second := by
    simpa using distinct
  have admitted : ∀ call ∈ callsOf labels, call.Admitted ((callsOf labels).map CircuitOp.accountId) :=
    fun call member => ⟨List.mem_map_of_mem member, fun state version same => fits state version (same ▸ member)⟩
  -- before the first call nothing is stored
  have initially : (store.simulation (ι := ι) _ distinctAccounts).Matches (Pool.idle rows)
      (Pool.idle fun _ => none) := by
    refine ⟨fun accountId known => ?_, fun _ => .none⟩
    obtain ⟨call, member, rfl⟩ := List.mem_map.mp known
    exact SQLAlchemyCircuitStateStore.holds_initially fun row inside => unused row inside call member
  obtain ⟨atomically, final, run', matched, observations, effects⟩ :=
    (store.simulation _ distinctAccounts).refines run initially admitted
  have decoded : ∀ call ∈ callsOf labels,
      store.decode pool.shared call.accountId = .ok (final.shared call.accountId) :=
    fun call member => (matched.shared call.accountId (List.mem_map_of_mem member)).decode
  have lastSaved := lastSaved_run run'
  rw [effects] at lastSaved
  refine ⟨⟨atomically, final, run', observations, effects, decoded⟩, lastSaved.increasing, ?_, ?_⟩
  · intro earlier thread error later events whole made
    refine run.finished (fun _ call => durable_failed store call) ?_ whole made error rfl
    exact fun _ => trivial
  · intro call member
    rw [decoded call member, lastSaved.last]

namespace CircuitStoreDemo

def store : SQLAlchemyCircuitStateStore := ⟨fun accountId => accountId⟩

def state (reason : String) : CircuitState where
  accountId := "demo-1"
  day := 20454
  weekStart := 20451
  killSwitch := true
  reason
  updatedAt := seconds 1767268800

def responder : Responder VersionPort PyError ConfigVersions where
  respond rows
    | .latest configType => (.ok (rows.latest configType), rows)
    | .insert row =>
      match rows.insert row with
      | .ok extended => (.ok (), extended)
      | .error error => (.error error, rows)

theorem responder_within : responder.Within configVersions id := by
  intro rows op
  cases op with
  | latest => exact ⟨rfl, rfl⟩
  | insert row =>
    simp only [responder, configVersions, id]
    cases rows.insert row with
    | ok => exact ⟨rfl, rfl⟩
    | error => exact ⟨rfl, rfl⟩

def turns : List (Turn (Fin 2) CircuitOp) :=
  [.start 0 (.save (state "first") 0), .start 1 (.save (state "second") 0), .step 0, .step 1, .step 1, .step 0,
    .step 0, .step 1]

def play := Pool.schedule responder (fun (_ : Fin 2) call => durable store call) (Pool.idle []) turns

theorem run_play : Pool.Run configVersions (fun _ call => durable store call) (Pool.idle []) play.1
    (play.2.view id) :=
  Pool.run_schedule responder_within (Pool.idle []) turns

def versions : List (Option Nat) :=
  play.1.filterMap fun
    | .finish _ (.ok (.saved state)) => some (some state.version)
    | .finish _ (.error _) => some none
    | _ => none

end CircuitStoreDemo

open CircuitStoreDemo

/-- Both clients expect version `0`; the second one to insert is refused. -/
theorem circuit_store_linearizes_race :
    versions = [none, some 1] ∧
      ∃ atomically final,
        Pool.Run circuitStore (fun (_ : Fin 2) call => atomic call) (Pool.idle fun _ => none) atomically final ∧
        observationsOf atomically = observationsOf play.1 := by
  have calls : callsOf play.1 =
      [.save (CircuitStoreDemo.state "first") 0, .save (CircuitStoreDemo.state "second") 0] := rfl
  have small : ∀ state expectedVersion, .save state expectedVersion ∈ callsOf play.1 →
      expectedVersion + 1 < 10 ^ 20 := by
    intro state expectedVersion member
    rw [calls] at member
    have first : expectedVersion = 0 := by
      simp only [List.mem_cons, CircuitOp.save.injEq, List.not_mem_nil, or_false] at member
      omega
    omega
  refine ⟨by decide +kernel, ?_⟩
  obtain ⟨⟨atomically, final, run, same, _⟩, _⟩ :=
    circuit_store_linearizes store [] run_play (by rw [calls]; decide) small (by simp)
  exact ⟨atomically, final, run, same⟩

end GoldFlow
