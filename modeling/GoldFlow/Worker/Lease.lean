import GoldFlow.Domain.Models
import GoldFlow.Effect.Pool

/-! # Leases -/

namespace GoldFlow

open Effect

/-- What replicas ask of Redis, and the passing of time. -/
inductive LeaseOp where
  /-- `secrets.token_urlsafe(32)` -/
  | token
  /-- `set(key, token, nx=True, px=…)` -/
  | set (key token : String) (px : Int)
  /-- The script that deletes the key if it holds the token. -/
  | eval (key token : String)
  /-- A step of an operation. -/
  | work (step : Nat)
  | pass (milliseconds : Nat)
  | expire (key : String)

abbrev LeaseOp.Value : LeaseOp → Type
  | .token => String
  | .set _ _ _ => Bool
  | .eval _ _ => Nat
  | .work _ => Unit
  | .pass _ => Unit
  | .expire _ => Unit

def LeaseOp.isWork : LeaseOp → Bool
  | .work _ => true
  | _ => false

abbrev LeasePort : Signature := ⟨LeaseOp, LeaseOp.Value⟩

abbrev LeasePy (α : Type) := Program LeasePort PyError α

inductive LeaseRunStatus where
  | completed | locked | lockUnavailable | failed
  deriving DecidableEq, Repr

structure RedisLease where
  key : String
  token : String
  deriving DecidableEq

structure RedisLeaseManager where
  /-- Whether there is a Redis client. -/
  client : Bool := true
  namespace_ : String := "goldflow"

/-- An operation takes its own steps and nothing else of what is modelled here. -/
structure Operation where
  program : LeasePy Unit
  works : program.Asks fun op : LeaseOp => op.isWork = true

namespace RedisLeaseManager

variable (manager : RedisLeaseManager)

def ask (op : LeaseOp) : LeasePy op.Value := Program.perform (S := LeasePort) op

def key (name : String) : String := manager.namespace_ ++ ":lease:" ++ name

def acquire (name : String) (ttlSeconds : Int) : LeasePy (Option RedisLease) := do
  Program.raiseIf (ttlSeconds < 1) (.value "lease TTL must be positive")
  if manager.client then do
    let token ← ask .token
    let acquired ← Program.catching (ask (.set (manager.key name) token (ttlSeconds * 1000))) (fun _ => true)
      fun _ => false
    pure <| match acquired with
      | .ok true => some ⟨manager.key name, token⟩
      | _ => none
  else pure none

/-- `RedisLease.release` -/
def release (lease : RedisLease) : LeasePy Bool := do
  let result ← Program.catching (ask (.eval lease.key lease.token)) (fun _ => true) fun _ => false
  pure <| match result with
    | .ok deleted => deleted ≠ 0
    | .error released => released

def run (name : String) (operation : Operation) (ttlSeconds : Int) (containExceptions : Bool := true) :
    LeasePy LeaseRunStatus := do
  match ← manager.acquire name ttlSeconds with
  | none => pure (if manager.client then .locked else .lockUnavailable)
  | some lease => do
    let outcome ← Program.catching operation.program (fun _ => true) id
    let _ ← release lease
    match outcome with
    | .ok () => pure .completed
    | .error error => if containExceptions then pure .failed else Program.raise error

end RedisLeaseManager

/-! ## Redis -/

structure LeaseEntry where
  token : String
  expiresAt : Int
  deriving DecidableEq

structure Redis where
  now : Int
  entries : String → Option LeaseEntry
  /-- The tokens that have been drawn. -/
  issued : List String := []

namespace Redis

def setNx (key token : String) (px : Int) (redis : Redis) : Bool × Redis :=
  match redis.entries key with
  | some _ => (false, redis)
  | none =>
    (true, { redis with entries := Function.update redis.entries key (some ⟨token, redis.now + px⟩) })

def compareAndDelete (key token : String) (redis : Redis) : Nat × Redis :=
  if (redis.entries key).any (·.token = token) then
    (1, { redis with entries := Function.update redis.entries key none })
  else (0, redis)

/-- The time to live of the key is over. -/
def due (key : String) (redis : Redis) : Bool := (redis.entries key).any (·.expiresAt ≤ redis.now)

/-- A key may be dropped once its time to live is over. -/
def expire (key : String) (redis : Redis) : Redis :=
  if redis.due key then
    { redis with entries := Function.update redis.entries key none }
  else redis

/-- The answer of a command may be lost before or after it is carried out. -/
def Command {α : Type} (redis : Redis) (computed : α × Redis) (reply : Except PyError α) (after : Redis) : Prop :=
  reply = .ok computed.1 ∧ after = computed.2 ∨ (∃ error, reply = .error error) ∧ (after = computed.2 ∨ after = redis)

/-- One Redis: commands are atomic, tokens are unique. -/
def environment : Environment LeasePort PyError Redis where
  step redis event after :=
    match event with
    | ⟨.token, reply⟩ =>
      ∃ token, token ∉ redis.issued ∧ reply = .ok token ∧ after = { redis with issued := token :: redis.issued }
    | ⟨.set key token px, reply⟩ => Command redis (redis.setNx key token px) reply after
    | ⟨.eval key token, reply⟩ => Command redis (redis.compareAndDelete key token) reply after
    | ⟨.work _, _⟩ => after = redis
    | ⟨.pass milliseconds, reply⟩ => reply = .ok () ∧ after = { redis with now := redis.now + milliseconds }
    | ⟨.expire key, reply⟩ => reply = .ok () ∧ after = redis.expire key

end Redis

/-- What replicas and Redis do. -/
inductive LeaseJob where
  | run (name : String) (operation : Operation) (ttlSeconds : Int) (containExceptions : Bool := true)
  | pass (milliseconds : Nat)
  | expire (key : String)

def LeaseJob.program (manager : RedisLeaseManager) : LeaseJob → LeasePy LeaseRunStatus
  | .run name operation ttlSeconds containExceptions => manager.run name operation ttlSeconds containExceptions
  | .pass milliseconds => do
    RedisLeaseManager.ask (.pass milliseconds)
    pure .completed
  | .expire key => do
    RedisLeaseManager.ask (.expire key)
    pure .completed

end GoldFlow
