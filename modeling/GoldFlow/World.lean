import GoldFlow.Execution.Stores

/-! # The shared world

What the processes of a deployment share, and which answers it may give.
-/

namespace GoldFlow

open Effect

structure World where
  records : Records := fun _ => none
  attempts : Attempts := fun _ => none
  runtime : Option RuntimePayload := none
  controls : ControlSnapshot

/-- An error that a port raises by itself. -/
def PyError.isFault : PyError → Bool
  | .invalidTransition _ _ => false
  | _ => true

/-- A port without modelled state: any value, or any error of its own. -/
inductive AnyAnswer {α : Type} : Except PyError α → Prop
  | value (value : α) : AnyAnswer (.ok value)
  | fault {error : PyError} (raised : error.isFault = true) : AnyAnswer (.error error)

/-- A transaction runs, is refused by its own check, or fails without effect. -/
inductive Transaction {α σ : Type} (result : Except PyError (α × σ)) (state : σ) :
    Except PyError α → σ → Prop
  | committed {value after} : result = .ok (value, after) → Transaction result state (.ok value) after
  | refused {error} : result = .error error → Transaction result state (.error error) state
  | failed {fault} : fault.isFault = true → Transaction result state (.error fault) state

namespace World

/-- The in-memory store answers under its lock and does not fail. -/
def recordStep (world : World) : (op : RecordOp) → Except PyError op.Value → World → Prop
  | .claim request now, reply, after =>
    let (answer, records) := InMemoryIdempotencyStore.claim world.records request now
    reply = .ok answer ∧ after = { world with records }
  | .get key, reply, after => reply = .ok (world.records key) ∧ after = world
  | .update key status now report reason, reply, after =>
    match InMemoryIdempotencyStore.update world.records key status now report reason with
    | .ok (record, records) => reply = .ok record ∧ after = { world with records }
    | .error error => reply = .error error ∧ after = world

def attemptStep (world : World) : (op : AttemptOp) → Except PyError op.Value → World → Prop
  | .select key, reply, after =>
    Transaction (.ok (world.attempts key, world)) world reply after
  | .resolveOrderId _, reply, after => AnyAnswer reply ∧ after = world
  | .insertClaim orderId request now, reply, after =>
    Transaction ((SqlAlchemyIdempotencyStore.insertClaim world.attempts orderId request now).map
      fun attempts => ((), { world with attempts })) world reply after
  | .update key status now report reason, reply, after =>
    Transaction ((SqlAlchemyIdempotencyStore.update world.attempts key status now report reason).map
      fun (attempt, attempts) => (attempt, { world with attempts })) world reply after

def configStep (world : World) : (op : ConfigOp) → Except PyError op.Value → World → Prop
  | .activeConfig, reply, after => Transaction (.ok (world.runtime, world)) world reply after
  | .activateConfig payload, reply, after =>
    Transaction (.ok ((), { world with runtime := some payload })) world reply after

/-- The controls after a critical section. -/
def controlsAfter (controls : ControlSnapshot) : ControlOp → ControlSnapshot
  | .snapshot | .durableState => controls
  | .setMode mode now => RuntimeControls.setMode controls mode now
  | .setKillSwitch enabled reason now => RuntimeControls.setKillSwitch controls enabled reason now
  | .resetDrawdownProtection now => RuntimeControls.resetDrawdownProtection controls now

def controlStep (world : World) (op : ControlOp) (reply : Except PyError op.Value) (after : World) :
    Prop :=
  reply = .ok (controlsAfter world.controls op) ∧
    after = { world with controls := controlsAfter world.controls op }

end World

/-- Everything outside the processes. -/
def world : Environment Port PyError World where
  step := fun state event after =>
    match event with
    | ⟨.records op, reply⟩ => state.recordStep op reply after
    | ⟨.attempts op, reply⟩ => state.attemptStep op reply after
    | ⟨.config op, reply⟩ => state.configStep op reply after
    | ⟨.controls op, reply⟩ => state.controlStep op reply after
    | ⟨.broker _, reply⟩ => AnyAnswer reply ∧ after = state
    | ⟨.circuit _, reply⟩ => AnyAnswer reply ∧ after = state
    | ⟨.journal _, reply⟩ => AnyAnswer reply ∧ after = state
    | ⟨.ledger _, reply⟩ => AnyAnswer reply ∧ after = state
    | ⟨.clock, reply⟩ => (∃ now, reply = .ok now) ∧ after = state
    | ⟨.sleep _, reply⟩ => reply = .ok () ∧ after = state

end GoldFlow
