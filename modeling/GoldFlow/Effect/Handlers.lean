import GoldFlow.Effect.Pool

/-! # Handlers -/

namespace GoldFlow.Effect

variable {S : Signature} {ε α β σ ι C μ : Type}

namespace Program

/-- Go on with what the program returned or raised. -/
def resume (program : Program S ε α) (next : Except ε α → Program S ε β) : Program S ε β :=
  match program with
  | .pure value => next (.ok value)
  | .raise error => next (.error error)
  | .call op rest => .call op fun reply => (rest reply).resume next

/-- Every request is answered by the program that `handler` has for it. -/
def handled (handler : (op : S.Op) → Program S ε (S.Value op)) : Program S ε α → Program S ε α
  | .pure value => .pure value
  | .raise error => .raise error
  | .call op next => (handler op).resume fun reply => (next reply).handled handler

/-- Each request is struck out and changes nothing, or is an `op` whose reply the program ends with. -/
def Forwards (env : Environment S ε σ) (strike : μ → Event S ε → Option μ) (op : S.Op) :
    μ → Program S ε (S.Value op) → Prop
  | _, .pure _ => False
  | _, .raise _ => False
  | memo, .call asked next => ∀ state reply after, env.step state ⟨asked, reply⟩ after →
    (∃ later, strike memo ⟨asked, reply⟩ = some later ∧ after = state ∧ (next reply).Forwards env strike op later) ∨
      strike memo ⟨asked, reply⟩ = none ∧
        ∃ answer, (⟨asked, reply⟩ : Event S ε) = ⟨op, answer⟩ ∧ next reply = ofExcept answer

theorem forwards_perform {env : Environment S ε σ} {strike : μ → Event S ε → Option μ} {memo : μ} (op : S.Op)
    (kept : ∀ reply, strike memo ⟨op, reply⟩ = none) : (perform op).Forwards env strike op memo :=
  fun _ reply _ _ => .inr ⟨kept reply, reply, rfl, by cases reply <;> rfl⟩

end Program

/-! ## Runs with requests struck out -/

section Struck

variable [DecidableEq ι] (strike : μ → Event S ε → Option μ) (fresh : μ)

/-- What a thread's struck requests leave behind decides on its next one; any other label starts it afresh. -/
def strikeLabel : (ι → μ) × List (Label S ε α ι C) → Label S ε α ι C → (ι → μ) × List (Label S ε α ι C)
  | (memos, kept), .start thread call => (Function.update memos thread fresh, kept ++ [.start thread call])
  | (memos, kept), .event thread event =>
    match strike (memos thread) event with
    | some memo => (Function.update memos thread memo, kept)
    | none => (Function.update memos thread fresh, kept ++ [.event thread event])
  | (memos, kept), .finish thread result => (Function.update memos thread fresh, kept ++ [.finish thread result])
  | (memos, kept), .crash thread => (Function.update memos thread fresh, kept ++ [.crash thread])

/-- The run without the struck requests, beside what they left behind. -/
def struck (labels : List (Label S ε α ι C)) : (ι → μ) × List (Label S ε α ι C) :=
  labels.foldl (strikeLabel strike fresh) (fun _ => fresh, [])

theorem struck_snoc (labels : List (Label S ε α ι C)) (label : Label S ε α ι C) :
    struck strike fresh (labels ++ [label]) = strikeLabel strike fresh (struck strike fresh labels) label :=
  List.foldl_append ..

end Struck

section Handles

open Program

variable (env : Environment S ε σ) (strike : μ → Event S ε → Option μ)
  (handler : (op : S.Op) → Program S ε (S.Value op))

/-- The handled program is where the plain one is, or is answering its next request. -/
inductive Handles (memo : μ) : Program S ε α → Program S ε α → Prop
  | pure {value} : Handles memo (.pure value) (.pure value)
  | raise {error} : Handles memo (.raise error) (.raise error)
  | call {op next answering} : Forwards env strike op memo answering →
      Handles memo (answering.resume fun reply => (next reply).handled handler) (.call op next)

variable {env strike handler} {memo fresh : μ}

theorem Handles.ended {program plain : Program S ε α} (handles : Handles env strike handler memo program plain)
    (ended : program.Done) : plain = program := by
  cases handles with
  | pure => rfl
  | raise => rfl
  | @call _ _ answering forwards =>
    cases answering with
    | call => exact ended.elim
    | _ => exact forwards.elim

theorem handles_handled (forwards : ∀ op, (handler op).Forwards env strike op fresh) (program : Program S ε α) :
    Handles env strike handler fresh (program.handled handler) program := by
  cases program with
  | pure => exact .pure
  | raise => exact .raise
  | call op => exact .call (forwards op)

/-- A request of the handled program is struck out, or is the next one of the plain program. -/
theorem Handles.step {op : S.Op} {next : Except ε (S.Value op) → Program S ε α} {plain : Program S ε α}
    {state after : σ} {reply : Except ε (S.Value op)} (forwards : ∀ op, (handler op).Forwards env strike op fresh)
    (handles : Handles env strike handler memo (.call op next) plain) (answered : env.step state ⟨op, reply⟩ after) :
    (∃ later, strike memo ⟨op, reply⟩ = some later ∧ after = state ∧
      Handles env strike handler later (next reply) plain) ∨
    strike memo ⟨op, reply⟩ = none ∧ ∃ rest, plain = .call op rest ∧
      Handles env strike handler fresh (next reply) (rest reply) := by
  generalize reached : Program.call op next = program at handles
  cases handles with
  | pure => cases reached
  | raise => cases reached
  | @call _ rest answering going =>
    cases answering with
    | pure => exact going.elim
    | raise => exact going.elim
    | call =>
      cases reached
      rcases going state reply after answered with ⟨later, unseen, same, going⟩ | ⟨seen, _, ⟨⟩, ends⟩
      · exact .inl ⟨later, unseen, same, .call going⟩
      · refine .inr ⟨seen, rest, rfl, ?_⟩
        -- the caller goes on with the reply
        simp only [ends]
        cases reply <;> exact handles_handled forwards _

structure Alongside (env : Environment S ε σ) (strike : μ → Event S ε → Option μ)
    (handler : (op : S.Op) → Program S ε (S.Value op)) (memos : ι → μ) (pool plain : Pool S ε α σ ι) : Prop where
  shared : plain.shared = pool.shared
  threads : ∀ thread,
    Option.Rel (Handles env strike handler (memos thread)) (pool.threads thread) (plain.threads thread)

variable {memos : ι → μ} {pool plain : Pool S ε α σ ι} {thread : ι}

theorem Alongside.running (alongside : Alongside env strike handler memos pool plain) {program : Program S ε α}
    (running : pool.threads thread = some program) :
    ∃ program', plain.threads thread = some program' ∧
      Handles env strike handler (memos thread) program program' := by
  have related := alongside.threads thread
  rw [running] at related
  generalize plain.threads thread = found at related
  cases related with
  | some related => exact ⟨_, rfl, related⟩

theorem Alongside.stopped (alongside : Alongside env strike handler memos pool plain)
    (stopped : pool.threads thread = none) : plain.threads thread = none := by
  have related := alongside.threads thread
  rw [stopped] at related
  generalize plain.threads thread = found at related
  cases related
  rfl

variable [DecidableEq ι] {body : ι → C → Program S ε α} {state : σ} {labels : List (Label S ε α ι C)}
  {final : Pool S ε α σ ι}

theorem Alongside.replace (alongside : Alongside env strike handler memos pool plain) (thread : ι)
    {program program' : Option (Program S ε α)}
    (related : Option.Rel (Handles env strike handler memo) program program') (after : σ) :
    Alongside env strike handler (Function.update memos thread memo)
      ⟨after, Function.update pool.threads thread program⟩ ⟨after, Function.update plain.threads thread program'⟩ := by
  refine ⟨rfl, fun other => ?_⟩
  by_cases same : other = thread
  · subst same
    simpa using related
  · simpa [Function.update_of_ne same] using alongside.threads other

/-- **A run behind a handler is a run of the plain programs**, once what the handler adds is struck out. -/
theorem Pool.Run.struck (forwards : ∀ op, (handler op).Forwards env strike op fresh)
    (run : Pool.Run env (fun thread call => (body thread call).handled handler) (.idle state) labels final) :
    ∃ plain, Pool.Run env body (.idle state) (Effect.struck strike fresh labels).2 plain ∧
      Alongside env strike handler (Effect.struck strike fresh labels).1 final plain := by
  generalize began : Pool.idle state = pool at run
  induction run with
  | nil => exact ⟨_, .nil, began ▸ ⟨rfl, fun _ => .none⟩⟩
  | snoc _ step ih =>
    obtain ⟨plain, run', alongside⟩ := ih
    have shared := alongside.shared
    obtain ⟨state, threads⟩ := plain
    cases shared
    rw [struck_snoc]
    cases step with
    | start stopped =>
      exact ⟨_, .snoc run' (.start (alongside.stopped stopped)),
        alongside.replace _ (.some (handles_handled forwards _)) _⟩
    | returned running =>
      obtain ⟨program', running', handles⟩ := alongside.running running
      cases handles.ended trivial
      exact ⟨_, .snoc run' (.returned running'), alongside.replace _ .none _⟩
    | raised running =>
      obtain ⟨program', running', handles⟩ := alongside.running running
      cases handles.ended trivial
      exact ⟨_, .snoc run' (.raised running'), alongside.replace _ .none _⟩
    | crash => exact ⟨_, .snoc run' .crash, alongside.replace _ .none _⟩
    | @event thread op next reply after running answered =>
      obtain ⟨program', running', handles⟩ := alongside.running running
      rcases handles.step forwards answered with ⟨memo, unseen, rfl, going⟩ | ⟨seen, rest, rfl, going⟩
      · have unmoved : threads = Function.update threads thread (some program') := by
          rw [← running', Function.update_eq_self]
        simp only [strikeLabel, unseen]
        refine ⟨_, run', ?_⟩
        rw [unmoved]
        exact alongside.replace thread (.some going) _
      · simp only [strikeLabel, seen]
        exact ⟨_, .snoc run' (.event running' answered), alongside.replace thread (.some going) _⟩

end Handles

end GoldFlow.Effect
