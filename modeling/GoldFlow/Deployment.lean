import GoldFlow.Brokers.Mock
import GoldFlow.Effect.Schedule
import GoldFlow.Execution.Executor

/-! # A deployment on the mock broker -/

namespace GoldFlow

open Effect

structure Deployment where
  world : World
  broker : MockBroker

/-- Fixed answers for the circuit store, the journal and the clock. -/
structure Script where
  circuit : (op : CircuitOp) → Except PyError op.Value
  journal : (op : JournalOp) → Except PyError op.Value
  now : Instant
  circuit_any : ∀ op, AnyAnswer (circuit op)
  journal_any : ∀ op, AnyAnswer (journal op)

namespace Script

def recordAnswer (state : World) : (op : RecordOp) → Except PyError op.Value × World
  | .claim request now =>
    let (answer, records) := InMemoryIdempotencyStore.claim state.records request now
    (.ok answer, { state with records })
  | .get key => (.ok (state.records key), state)
  | .update key status now report reason =>
    match InMemoryIdempotencyStore.update state.records key status now report reason with
    | .ok (record, records) => (.ok record, { state with records })
    | .error error => (.error error, state)

/-- The answer of a transaction that does not fail. -/
def committedAnswer {α : Type} (state : World) : Except PyError (α × World) → Except PyError α × World
  | .ok (value, after) => (.ok value, after)
  | .error error => (.error error, state)

def attemptAnswer (state : World) : (op : AttemptOp) → Except PyError op.Value × World
  | .select key => (.ok (state.attempts key), state)
  | .resolveOrderId request => (.ok request.idempotencyKey, state)
  | .insertClaim orderId request now =>
    committedAnswer state
      ((SqlAlchemyIdempotencyStore.insertClaim state.attempts orderId request now).map
        fun attempts => ((), { state with attempts }))
  | .update key status now report reason =>
    committedAnswer state
      ((SqlAlchemyIdempotencyStore.update state.attempts key status now report reason).map
        fun (attempt, attempts) => (attempt, { state with attempts }))

def configAnswer (state : World) : (op : ConfigOp) → Except PyError op.Value × World
  | .activeConfig => (.ok state.runtime, state)
  | .activateConfig payload => (.ok (), { state with runtime := some payload })

variable (script : Script)

def respond (state : Deployment) : (op : Op) → Except PyError op.Value × Deployment
  | .records op => (recordAnswer state.world op).map id ({ state with world := · })
  | .attempts op => (attemptAnswer state.world op).map id ({ state with world := · })
  | .config op => (configAnswer state.world op).map id ({ state with world := · })
  | .controls op =>
    let controls := World.controlsAfter state.world.controls op
    (.ok controls, { state with world := { state.world with controls } })
  | .broker op => (state.broker.respond op).map id ({ state with broker := · })
  | .circuit op => (script.circuit op, state)
  | .journal op => (script.journal op, state)
  | .ledger _ => (.error (.runtime "the ledger is not part of this run"), state)
  | .clock => (.ok script.now, state)
  | .sleep _ => (.ok (), state)

def responder : Responder Port PyError Deployment where
  respond := script.respond

theorem committedAnswer_step {α : Type} (state : World) (result : Except PyError (α × World)) :
    Transaction result state (committedAnswer state result).1 (committedAnswer state result).2 := by
  cases result with
  | ok => exact .committed rfl
  | error => exact .refused rfl

theorem respond_within : script.responder.Within world Deployment.world := by
  intro state op
  cases op with
  | records op =>
    cases op with
    | claim => exact ⟨rfl, rfl⟩
    | get => exact ⟨rfl, rfl⟩
    | update key status now report reason =>
      simp only [world, World.recordStep, responder, respond, recordAnswer]
      cases InMemoryIdempotencyStore.update state.world.records key status now report reason with
      | ok => exact ⟨rfl, rfl⟩
      | error => exact ⟨rfl, rfl⟩
  | attempts op =>
    cases op with
    | select => exact .committed rfl
    | resolveOrderId => exact ⟨.value _, rfl⟩
    | insertClaim => exact committedAnswer_step state.world _
    | update => exact committedAnswer_step state.world _
  | config op =>
    cases op with
    | activeConfig => exact .committed rfl
    | activateConfig => exact .committed rfl
  | controls => exact ⟨rfl, rfl⟩
  | broker op => exact ⟨MockBroker.respond_any op, rfl⟩
  | circuit op => exact ⟨script.circuit_any op, rfl⟩
  | journal op => exact ⟨script.journal_any op, rfl⟩
  | ledger => exact ⟨.fault rfl, rfl⟩
  | clock => exact ⟨⟨_, rfl⟩, rfl⟩
  | sleep => exact ⟨rfl, rfl⟩

theorem run {ι C α : Type} [DecidableEq ι] (body : ι → C → Py α) (start : Deployment) (turns : List (Turn ι C)) :
    Pool.Run world body (Pool.idle start.world)
      (Pool.schedule script.responder body (Pool.idle start) turns).1
      ((Pool.schedule script.responder body (Pool.idle start) turns).2.view Deployment.world) :=
  Pool.run_schedule script.respond_within (Pool.idle start) turns

end Script

namespace Demo

/-- Noon, 2026-01-01. -/
def now : Instant := seconds 1767268800

/-- A gold signal within its entry zone, as the tests of the executor use it. -/
def signal : TradeSignal where
  symbol := "XAUUSD"
  canonicalSymbol := "XAUUSD"
  action := .long
  strategyId := "gold"
  strategyVersion := "1.0.0"
  entryMin := some 2000
  entryMax := some 2001
  stopLoss := some (1999 + 20 / 100)
  takeProfits := [2002 + 20 / 100]
  riskReward := some 2
  createdAt := now - seconds 60
  expiresAt := some (now + seconds 300)
  signalId := ⟨"6f9619ff-8b86-4d01-b42d-00cf4fc964ff"⟩
  expires_after_creation := by rintro _ ⟨⟩; decide
  entry_has_bounds := by simp
  bounds_ordered := by rintro _ _ _ ⟨⟩ ⟨⟩; norm_num

/-- `RiskUsage()` -/
def noUsage : RiskUsage := (RiskUsage.make 0 0 0 none).toOption.get (by decide +kernel)

def command : ExecutionCommand :=
  { signal, mode := .auto, environment := .demo, sessionAllowed := true, riskUsage := noUsage }

/-- `RiskLimits()` -/
def limits : RiskLimits where
  fractions := by norm_num
  positions_pos := by decide
  riskReward_pos := by norm_num
  spread_nonneg := by norm_num
  tickAge_pos := by decide

/-- The digest of the one key the demo uses. -/
def sha256 : HexDigest := fun _ => "0347db13d76ea3733069e70118d31c95c8df063e688d66c92f87361bfb762d57"

def executor (kind : StoreKind) : TradeExecutor := .default kind limits sha256

def key : String := "demo-1:6f9619ff-8b86-4d01-b42d-00cf4fc964ff"

theorem key_nonblank : isBlank key = false := by decide +kernel

/-- A circuit store that starts empty; the journal is not asked. -/
def quiet : Script where
  circuit
    | .load _ => .ok none
    | .save state version => .ok { state with version := version + 1 }
  journal _ := .error (.runtime "the journal is not part of this run")
  now
  circuit_any op := by cases op <;> exact .value _
  journal_any _ := .fault rfl

def settings : ControlSettings :=
  { tradingEnv := .demo, liveTradingPermitted := false, tradingMode := .auto }

/-- Empty stores, fresh controls, and the gold demo account. -/
def deployment (sendBehaviors : List MockSendBehavior := []) : Deployment :=
  { world := { controls := RuntimeControls.initial settings now }
    broker := MockBroker.goldDemo now 1000 sendBehaviors }

end Demo

end GoldFlow
