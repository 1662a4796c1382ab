import GoldFlow.Deployment
import GoldFlow.Effect.Handlers

/-! # Retried reads -/

namespace GoldFlow

open Effect

structure ReadRetryPolicy where
  maximumAttempts : Nat := 3
  initialDelaySeconds : Decimal := 1 / 4
  maximumDelaySeconds : Decimal := 2
  multiplier : Decimal := 2
  attempts_pos : 1 ≤ maximumAttempts
  initial_nonneg : 0 ≤ initialDelaySeconds
  initial_le_maximum : initialDelaySeconds ≤ maximumDelaySeconds
  multiplier_ge_one : 1 ≤ multiplier

/-- The pauses before the next `left` attempts. -/
def ReadRetryPolicy.pausesAfter (policy : ReadRetryPolicy) : Nat → Decimal → List Decimal
  | 0, _ => []
  | left + 1, delay => delay :: policy.pausesAfter left (min (delay * policy.multiplier) policy.maximumDelaySeconds)

/-- The pauses of a read whose every attempt fails. -/
def ReadRetryPolicy.pauses (policy : ReadRetryPolicy) : List Decimal :=
  policy.pausesAfter (policy.maximumAttempts - 1) policy.initialDelaySeconds

/-- `except (BrokerUnavailableError, IndeterminateBrokerResult, TimeoutError)` -/
def PyError.isTransient : PyError → Bool
  | .broker .unavailable _ | .broker .indeterminate _ | .timeout _ => true
  | _ => false

def BrokerOp.isMutation : BrokerOp → Bool
  | .placeMarketOrder _ | .placePendingOrder _ | .modifyPosition _ _ _ | .closePosition _ _ | .cancelOrder _ => true
  | _ => false

namespace RetryingBrokerAdapter

/-- Only `health_check` looks at the answer. -/
def again : (op : BrokerOp) → Except PyError op.Value → Bool
  | _, .error error => error.isTransient
  | .healthCheck, .ok last => !(last.healthy && last.connected)
  | _, .ok _ => false

variable (policy : ReadRetryPolicy)

/-- The loop of `_read` and `health_check`, with `left` attempts after this one. -/
def read (op : BrokerOp) : Nat → Decimal → Py op.Value
  | 0, _ => askBroker op
  | left + 1, delay => .call (.broker op) fun reply =>
    if again op reply then do
      sleep delay
      read op left (min (delay * policy.multiplier) policy.maximumDelaySeconds)
    else .ofExcept reply

/-- The ports of a process whose broker is the adapter. -/
def port : (op : Op) → Py op.Value
  | .broker op =>
    if op.isMutation then askBroker op else read policy op (policy.maximumAttempts - 1) policy.initialDelaySeconds
  | op => Program.perform (S := Port) op

/-- The pause that is due and the later ones: a failed attempt goes with the pause after it. -/
def retried : Option Decimal × List Decimal → PortEvent → Option (Option Decimal × List Decimal)
  | (none, delay :: later), ⟨.broker op, reply⟩ =>
    if op.isMutation = false ∧ again op reply = true then some (some delay, later) else none
  | (some delay, later), ⟨.sleep pause, _⟩ => if pause = delay then some (none, later) else none
  | _, _ => none

variable {policy}

theorem read_forwards {op : BrokerOp} (reads : op.isMutation = false) (left : Nat) (delay : Decimal) :
    (read policy op left delay).Forwards world retried (.broker op) (none, policy.pausesAfter left delay) := by
  induction left generalizing delay with
  | zero => exact Program.forwards_perform (S := Port) (.broker op) fun _ => rfl
  | succ left ih =>
    intro state reply after answered
    by_cases repeated : again op reply = true
    · refine .inl ⟨_, if_pos ⟨reads, repeated⟩, answered.2, ?_⟩
      simp only [if_pos repeated]
      -- the pause, and then the next attempt
      rintro _ _ _ ⟨rfl, rfl⟩
      exact .inl ⟨_, if_pos rfl, rfl, ih _⟩
    · exact .inr ⟨if_neg fun both => repeated both.2, reply, rfl, if_neg repeated⟩

theorem port_forwards (op : Op) : (port policy op).Forwards world retried op (none, policy.pauses) := by
  cases op with
  | broker op =>
    rw [port]
    split
    next mutates =>
      apply Program.forwards_perform (S := Port)
      intro reply
      cases policy.pauses with
      | nil => rfl
      | cons => simp [retried, mutates]
    next reads => exact read_forwards (by simpa using reads) _ _
  | _ => exact Program.forwards_perform (S := Port) _ fun _ => by cases policy.pauses <;> rfl

variable {ι C α : Type} [DecidableEq ι]

/-- **Retried reads go unnoticed**: without the failed attempts and the pauses after them the run is one of the plain
programs, whatever the clients do and however their requests interleave. -/
theorem retries_unnoticed (policy : ReadRetryPolicy) {body : ι → C → Py α} {state final : World}
    {labels : List (Label Port PyError α ι C)} {threads : ι → Option (Py α)}
    (run : Pool.Run world (fun thread call => (body thread call).handled (port policy)) (.idle state) labels
      ⟨final, threads⟩) :
    ∃ plain, Pool.Run world body (.idle state) (struck retried (none, policy.pauses) labels).2 ⟨final, plain⟩ := by
  obtain ⟨⟨_, plain⟩, run', ⟨rfl, _⟩⟩ := run.struck port_forwards
  exact ⟨plain, run'⟩

namespace Demo

/-- The default policy. -/
def patient : ReadRetryPolicy :=
  { attempts_pos := Nat.succ_pos 2, initial_nonneg := by norm_num, initial_le_maximum := by norm_num
    multiplier_ge_one := by norm_num }

def well : BrokerHealth := ⟨true, true, true⟩

/-- A health check times out, and is answered after the pause. -/
def delayed : List (Label Port PyError BrokerHealth Unit Unit) :=
  [.start () (), .event () ⟨.broker .healthCheck, .error (.timeout "")⟩, .event () ⟨.sleep (1 / 4), .ok ()⟩,
    .event () ⟨.broker .healthCheck, .ok well⟩, .finish () (.ok well)]

theorem delayed_run : ∃ threads,
    Pool.Run world (fun _ _ => (askBroker .healthCheck).handled (port patient)) (.idle Demo.deployment.world) delayed
      ⟨Demo.deployment.world, threads⟩ :=
  ⟨_, .cons (.start rfl) (.cons (.event rfl ⟨.fault rfl, rfl⟩) (.cons (.event rfl ⟨rfl, rfl⟩)
    (.cons (.event rfl ⟨.value _, rfl⟩) (.cons (.returned rfl) .nil))))⟩

end Demo

open RetryingBrokerAdapter.Demo in
theorem retries_unnoticed_timeout : ∃ plain,
    Pool.Run world (fun _ _ : Unit => askBroker .healthCheck) (.idle Demo.deployment.world)
      [.start () (), .event () ⟨.broker .healthCheck, .ok well⟩, .finish () (.ok well)]
      ⟨Demo.deployment.world, plain⟩ := by
  obtain ⟨threads, run⟩ := delayed_run
  obtain ⟨plain, run'⟩ := retries_unnoticed patient run
  refine ⟨plain, ?_⟩
  simpa [struck, delayed, strikeLabel, retried, patient, ReadRetryPolicy.pauses, ReadRetryPolicy.pausesAfter, again,
    PyError.isTransient, BrokerOp.isMutation, well] using run'

end RetryingBrokerAdapter

end GoldFlow
