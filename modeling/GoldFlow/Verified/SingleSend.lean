import GoldFlow.Deployment
import GoldFlow.Verified.Reconciliation

/-! # One send per key -/

namespace GoldFlow

open Effect

/-- `place_market_order` or `place_pending_order` for this key. -/
def sendsFor (key : String) : Op → Bool
  | .broker (.placeMarketOrder request) => request.idempotencyKey = key
  | .broker (.placePendingOrder request) => request.idempotencyKey = key
  | _ => false

def grantsClaim (kind : StoreKind) (key : String) (event : PortEvent) : Bool :=
  (kind.action event).claims key

theorem maySend_of_sendsFor {executor : TradeExecutor} {role : Role} {history : List PortEvent} {key : String}
    {op : Op} (permitted : Discipline executor role history op) (sending : sendsFor key op = true) :
    ∃ request : OrderRequest, request.idempotencyKey = key ∧ MaySend executor.kind role history request := by
  unfold sendsFor at sending
  split at sending
  next request => exact ⟨request, by simpa using sending, permitted⟩
  next request => exact ⟨request, by simpa using sending, permitted⟩
  next => cases sending

theorem isSend_of_sendsFor {key : String} {op : Op} (sending : sendsFor key op = true) : op.isSend = true := by
  unfold sendsFor at sending
  split at sending
  next => rfl
  next => rfl
  next => cases sending

theorem withinBudget_of_discipline {executor : TradeExecutor} {role : Role}
    {history : List PortEvent} {key : String} {op : Op} (permitted : Discipline executor role history op) :
    WithinBudget (S := Port) (sendsFor key)
      (history.foldl (budget (S := Port) (grantsClaim executor.kind key) (sendsFor key)).observe (0 : Nat))
      op := by
  intro sending
  obtain ⟨request, rfl, maySend⟩ := maySend_of_sendsFor permitted sending
  have unsent : history.countP (fun event => sendsFor request.idempotencyKey event.1) = 0 := by
    have none_sent : history.countP (fun event => event.1.isSend) = 0 := by
      rw [← progressOf_sends, maySend.first]
    have fewer : history.countP (fun event => sendsFor request.idempotencyKey event.1) ≤
        history.countP fun event => event.1.isSend :=
      List.countP_mono_left fun _ _ sends => isSend_of_sendsFor sends
    omega
  obtain ⟨event, member, claims⟩ := maySend.claimed
  have granted : 0 < history.countP (grantsClaim executor.kind request.idempotencyKey) := by
    refine List.countP_pos_iff.mpr ⟨event, member, ?_⟩
    simp [grantsClaim, claims, Ledger.Action.claims]
  rw [budget_of_unspent _ _ unsent]
  omega

section Pool

variable {ι : Type} [Fintype ι] [DecidableEq ι]

/-- **At most one send per key**, for any executors on one store, any interleaving and any crashes. -/
theorem at_most_one_send (kind : StoreKind) (executors : ι → TradeExecutor)
    (sharing : ∀ i, (executors i).kind = kind) {state : World}
    {labels : List (Label Port PyError ExecutionOutcome ι ExecutorCall)}
    {pool : Pool Port PyError ExecutionOutcome World ι}
    (run : Pool.Run world (fun i => (executors i).call) (Pool.idle state) labels pool)
    (key : String) :
    (eventsOf labels).countP (fun event => sendsFor key event.1) ≤ 1 := by
  -- each call spends at most the claim it was granted
  have verified : ∀ i call, Program.wp (budget (grantsClaim kind key) (sendsFor key)).environment
      (WithinBudget (sendsFor key)) (fun _ _ => True) ((executors i).call call) (0 : Nat) := by
    intro i call
    refine Program.wp_of_history (keeps_call (executors i) call).verified ?_ fun _ _ _ => trivial
    intro history op permitted
    rw [← sharing i]
    exact withinBudget_of_discipline permitted
  have spent := Pool.Run.spent_le_granted (grantsClaim kind key) (sendsFor key) verified run
  -- and the store grants the claim of a key once
  have granting : ∀ events state event after,
      Ledger.Once key (events.map kind.action) (World.entries state kind) →
      world.step state event after →
      Ledger.Once key ((events ++ [event]).map kind.action) (after.entries kind) := by
    intro events state event after once step
    rw [List.map_append]
    exact once.snoc (world_refines_ledger kind step)
  have granted : Ledger.Once key ((eventsOf labels).map kind.action) (pool.shared.entries kind) :=
    run.shared_invariant (Ledger.Once.nil _) granting
  have counted : (eventsOf labels).countP (grantsClaim kind key) ≤ 1 := by
    have bound := granted.bound
    rwa [List.countP_map] at bound
  omega

end Pool

def Demo.race (kind : StoreKind) : List (Label Port PyError ExecutionOutcome Bool ExecutorCall) :=
  (Pool.schedule quiet.responder (fun _ => (executor kind).call) (Pool.idle deployment)
    ([.start false (.execute command), .start true (.execute command)] ++
      (List.replicate 40 [.step false, .step true]).flatten)).1

theorem at_most_one_send_race :
    (eventsOf (Demo.race .inMemory)).countP (fun event => sendsFor Demo.key event.1) = 1 ∧
      (eventsOf (Demo.race .inMemory)).countP (fun event => sendsFor Demo.key event.1) ≤ 1 :=
  ⟨by decide +kernel,
    at_most_one_send .inMemory (fun _ : Bool => Demo.executor .inMemory) (fun _ => rfl)
      (Demo.quiet.run _ Demo.deployment _) Demo.key⟩

end GoldFlow
