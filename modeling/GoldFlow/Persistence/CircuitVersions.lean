import GoldFlow.Data.Padded
import GoldFlow.Risk.CircuitStore

/-! # Circuit states in `config_versions`

`SQLAlchemyCircuitStateStore` appends one immutable row per saved state.
-/

namespace GoldFlow

open Effect

/-- The JSON payload of a circuit row. -/
structure CircuitPayload where
  accountId : String
  day : Int
  weekStart : Int
  dailyLocked : Bool
  weeklyLocked : Bool
  accountLocked : Bool
  killSwitch : Bool
  manualReenableRequired : Bool
  reason : String
  version : Nat
  updatedAt : Instant
  deriving DecidableEq

/-- A row of `config_versions`. -/
structure ConfigVersion where
  configType : String
  version : String
  payload : CircuitPayload
  isActive : Bool
  createdAt : Instant
  deriving DecidableEq

abbrev ConfigVersions := List ConfigVersion

namespace ConfigVersions

/-- `order_by(version.desc()).limit(1)` -/
def latestOf : ConfigVersions → Option ConfigVersion
  | [] => none
  | row :: rows =>
    match latestOf rows with
    | none => some row
    | some best => if best.version < row.version then some row else some best

def latest (rows : ConfigVersions) (configType : String) : Option ConfigVersion :=
  latestOf (rows.filter (·.configType = configType))

/-- `uq_config_version` -/
def taken (rows : ConfigVersions) (row : ConfigVersion) : Bool :=
  rows.any fun other => other.configType = row.configType ∧ other.version = row.version

def insert (rows : ConfigVersions) (row : ConfigVersion) : Except PyError ConfigVersions :=
  if rows.taken row then .error (.integrity "UNIQUE constraint failed: uq_config_version")
  else .ok (rows ++ [row])

end ConfigVersions

/-! ## Transactions -/

inductive VersionOp where
  | latest (configType : String)
  | insert (row : ConfigVersion)

abbrev VersionOp.Value : VersionOp → Type
  | .latest _ => Option ConfigVersion
  | .insert _ => Unit

abbrev VersionPort : Signature := ⟨VersionOp, VersionOp.Value⟩

abbrev VersionPy (α : Type) := Program VersionPort PyError α

def askVersions (op : VersionOp) : VersionPy op.Value := Program.perform (S := VersionPort) op

/-- The database: it answers, and refuses nothing but a duplicate. -/
def configVersions : Environment VersionPort PyError ConfigVersions where
  step rows event after :=
    match event with
    | ⟨.latest configType, reply⟩ => reply = .ok (rows.latest configType) ∧ after = rows
    | ⟨.insert row, reply⟩ =>
      match rows.insert row with
      | .ok extended => reply = .ok () ∧ after = extended
      | .error error => reply = .error error ∧ after = rows

/-! ## The store -/

/-- The store; `sha256` is the hexadecimal digest of a text. -/
structure SQLAlchemyCircuitStateStore where
  sha256 : String → String

namespace SQLAlchemyCircuitStateStore

variable (store : SQLAlchemyCircuitStateStore)

def configType (accountId : String) : String :=
  "circuit_state:" ++ String.ofList ((store.sha256 accountId).toList.take 32)

def payload (state : CircuitState) : CircuitPayload where
  accountId := state.accountId
  day := state.day
  weekStart := state.weekStart
  dailyLocked := state.dailyLocked
  weeklyLocked := state.weeklyLocked
  accountLocked := state.accountLocked
  killSwitch := state.killSwitch
  manualReenableRequired := state.manualReenableRequired
  reason := state.reason
  version := state.version
  updatedAt := state.updatedAt

def fromRow (accountId : String) (row : ConfigVersion) : Except PyError CircuitState :=
  match digitsValue? row.version with
  | none => .error (.value ("invalid literal for int() with base 10: '" ++ row.version ++ "'"))
  | some version => .ok
    { accountId
      day := row.payload.day
      weekStart := row.payload.weekStart
      dailyLocked := row.payload.dailyLocked
      weeklyLocked := row.payload.weeklyLocked
      accountLocked := row.payload.accountLocked
      killSwitch := row.payload.killSwitch
      manualReenableRequired := row.payload.manualReenableRequired
      reason := row.payload.reason
      version
      updatedAt := row.payload.updatedAt }

/-- The row that `_save_sync` adds for the persisted state. -/
def row (persisted : CircuitState) : ConfigVersion where
  configType := store.configType persisted.accountId
  version := zeroPadded 20 persisted.version
  payload := payload persisted
  isActive := false
  createdAt := persisted.updatedAt

def conflict : PyError := .runtime "circuit state optimistic-lock conflict"

def isIntegrity : PyError → Bool
  | .integrity _ => true
  | _ => false

/-- `_load_sync` -/
def load (accountId : String) : VersionPy (Option CircuitState) := do
  match ← askVersions (.latest (store.configType accountId)) with
  | none => pure none
  | some row => some <$> Program.ofExcept (fromRow accountId row)

/-- The second transaction of `_save_sync`. -/
def commit (persisted : CircuitState) : VersionPy CircuitState := do
  match ← Program.catching (askVersions (.insert (store.row persisted))) isIntegrity (fun _ => conflict) with
  | .ok () => pure persisted
  | .error raised => .raise raised

/-- `_save_sync` -/
def save (state : CircuitState) (expectedVersion : Nat) : VersionPy CircuitState := do
  let current ← store.load state.accountId
  let currentVersion := (current.map (·.version)).getD 0
  Program.raiseIf (currentVersion ≠ expectedVersion) conflict
  store.commit { state with version := expectedVersion + 1 }

end SQLAlchemyCircuitStateStore

/-! ## Clients -/

inductive CircuitAnswer where
  | loaded (state : Option CircuitState)
  | saved (state : CircuitState)
  deriving DecidableEq

/-- A call of the durable store. -/
def CircuitOp.durable (store : SQLAlchemyCircuitStateStore) : CircuitOp → VersionPy CircuitAnswer
  | .load accountId => do
    let state ← store.load accountId
    pure (.loaded state)
  | .save state expectedVersion => do
    let persisted ← store.save state expectedVersion
    pure (.saved persisted)

/-- The same call of `InMemoryCircuitStateStore`, one request under its lock. -/
def CircuitOp.atomic : CircuitOp → Py CircuitAnswer
  | .load accountId => do
    let state ← askCircuit (.load accountId)
    pure (.loaded state)
  | .save state expectedVersion => do
    let persisted ← askCircuit (.save state expectedVersion)
    pure (.saved persisted)

def CircuitOp.accountId : CircuitOp → String
  | .load accountId => accountId
  | .save state _ => state.accountId

end GoldFlow
