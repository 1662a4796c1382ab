import GoldFlow.Effect.Versioned
import GoldFlow.Verified.CircuitCalls

/-! # The log of a circuit state

Any number of clients run circuit operations against one compare-and-set store.
-/

namespace GoldFlow

open Effect Effect.Versioned

variable {ι : Type} [DecidableEq ι]

abbrev CircuitLabel (ι : Type) := Label Port PyError CircuitState ι CircuitCall

def circuitCalls (labels : List (CircuitLabel ι)) : ι → Option (CircuitCall × CircuitView) :=
  circuitView.track (fun _ call => (call, {})) (fun _ => none) labels

/-! ## The saves of a run -/

/-- A successful save: its call, whether the call had rolled over, the state it had last seen, and what was
stored. -/
structure CircuitSave where
  call : CircuitCall
  rolled : Bool
  seen : Option CircuitState
  saved : CircuitState

def persisted : PortEvent → Option CircuitState
  | ⟨.circuit (.save _ _), .ok state⟩ => some state
  | _ => none

def savedStates (accountId : String) (events : List PortEvent) : List CircuitState :=
  (events.filterMap persisted).filter (·.accountId = accountId)

def CircuitSave.of (running : Option (CircuitCall × CircuitView)) (event : PortEvent) : Option CircuitSave :=
  match running, persisted event with
  | some (call, view), some saved => some { call, rolled := view.rolled, seen := view.seen.join, saved }
  | _, _ => none

def circuitSaves (accountId : String) (labels : List (CircuitLabel ι)) : List CircuitSave :=
  circuitView.ghost (fun _ call => (call, {})) (fun _ => none)
    (fun watched saves label =>
      match label with
      | .event thread event =>
        saves ++ ((CircuitSave.of (watched thread) event).filter (·.saved.accountId = accountId)).toList
      | _ => saves) [] labels

namespace CircuitSave

variable (save : CircuitSave)

def completes : Bool := save.call.completes save.rolled save.seen

structure Follows (before : Option CircuitState) (save : CircuitSave) (after : Option CircuitState) :
    Prop where
  seen : save.seen = before
  authorized : save.call.authorized = true
  saved : save.saved = { save.call.stores save.rolled before with version := storedVersion before + 1 }
  after : after = some save.saved

end CircuitSave

section Labels

variable (accountId : String) (labels : List (CircuitLabel ι)) (thread : ι)

@[simp] theorem circuitCalls_nil : circuitCalls ([] : List (CircuitLabel ι)) thread = none := rfl

@[simp] theorem circuitCalls_start (call : CircuitCall) :
    circuitCalls (labels ++ [.start thread call]) =
      Function.update (circuitCalls labels) thread (some (call, {})) := by
  simp [circuitCalls, Monitor.advance]

@[simp] theorem circuitCalls_finish (result : Except PyError CircuitState) :
    circuitCalls (labels ++ [.finish thread result]) = Function.update (circuitCalls labels) thread none := by
  simp [circuitCalls, Monitor.advance]

@[simp] theorem circuitCalls_crash :
    circuitCalls (labels ++ [.crash thread]) = Function.update (circuitCalls labels) thread none := by
  simp [circuitCalls, Monitor.advance]

@[simp] theorem circuitSaves_nil : circuitSaves accountId ([] : List (CircuitLabel ι)) = [] := rfl

@[simp] theorem circuitSaves_start (call : CircuitCall) :
    circuitSaves accountId (labels ++ [.start thread call]) = circuitSaves accountId labels := by
  simp [circuitSaves]

@[simp] theorem circuitSaves_finish (result : Except PyError CircuitState) :
    circuitSaves accountId (labels ++ [.finish thread result]) = circuitSaves accountId labels := by
  simp [circuitSaves]

@[simp] theorem circuitSaves_crash :
    circuitSaves accountId (labels ++ [.crash thread]) = circuitSaves accountId labels := by
  simp [circuitSaves]

variable {labels thread} {call : CircuitCall} {view : CircuitView}

theorem circuitCalls_event (running : circuitCalls labels thread = some (call, view)) (event : PortEvent) :
    circuitCalls (labels ++ [.event thread event]) =
      Function.update (circuitCalls labels) thread (some (call, view.observe event)) := by
  rw [circuitCalls, Monitor.track_event running]
  rfl

theorem circuitSaves_event (event : PortEvent) :
    circuitSaves accountId (labels ++ [.event thread event]) = circuitSaves accountId labels ++
      ((CircuitSave.of (circuitCalls labels thread) event).filter (·.saved.accountId = accountId)).toList :=
  Monitor.ghost_snoc ..

end Labels

/-! ## One request -/

theorem save_cases {states after : CircuitStates} {state : CircuitState} {expected : Nat}
    {reply : Except PyError CircuitState}
    (step : circuitStore.step states ⟨.circuit (.save state expected), reply⟩ after) :
    (storedVersion (states state.accountId) = expected ∧
      reply = .ok { state with version := expected + 1 } ∧
      after = Function.update states state.accountId (some { state with version := expected + 1 })) ∨
    (∃ error, reply = .error error ∧ after = states) := by
  simp only [circuitStore, InMemoryCircuitStateStore.save] at step
  by_cases current : storedVersion (states state.accountId) = expected
  · left
    have passed : ((states state.accountId).map (·.version)).getD 0 = expected := current
    simp only [passed, ne_eq] at step
    exact ⟨current, step⟩
  · right
    have refused : ((states state.accountId).map (·.version)).getD 0 ≠ expected := current
    simp only [refused, ne_eq] at step
    exact ⟨_, step⟩

@[simp] theorem CircuitCall.stores_accountId (call : CircuitCall) (rolled : Bool) (seen : Option CircuitState) :
    (call.stores rolled seen).accountId = (seen.getD (call.breaker.unstored call.accountId call.now)).accountId := by
  simp only [CircuitCall.stores]
  split
  · simp only [CircuitCall.updated]
    split <;> simp [CircuitBreaker.evaluated]
  · rfl

section Log

variable (Timely : CircuitCall → CircuitState → Prop)

def LoadsTimely (labels : List (CircuitLabel ι)) (states : CircuitStates) : CircuitLabel ι → Prop
  | .event thread ⟨.circuit (.load accountId), _⟩ =>
    ∀ watched ∈ circuitCalls labels thread, ∀ state ∈ states accountId, Timely watched.1 state
  | _ => True

instance LoadsTimely.decidable [∀ call state, Decidable (Timely call state)] (labels : List (CircuitLabel ι))
    (states : CircuitStates) :
    (label : CircuitLabel ι) → Decidable (LoadsTimely Timely labels states label)
  | .event thread ⟨.circuit (.load accountId), _⟩ =>
    inferInstanceAs (Decidable
      (∀ watched ∈ circuitCalls labels thread, ∀ state ∈ states accountId, Timely watched.1 state))
  | .event _ ⟨.circuit (.save _ _), _⟩ => .isTrue trivial
  | .event _ ⟨.broker _, _⟩ | .event _ ⟨.records _, _⟩ | .event _ ⟨.attempts _, _⟩ => .isTrue trivial
  | .event _ ⟨.config _, _⟩ | .event _ ⟨.controls _, _⟩ | .event _ ⟨.journal _, _⟩ => .isTrue trivial
  | .event _ ⟨.ledger _, _⟩ | .event _ ⟨.clock, _⟩ | .event _ ⟨.sleep _, _⟩ => .isTrue trivial
  | .start _ _ | .finish _ _ | .crash _ => .isTrue trivial

theorem loadsTimely_true (labels : List (CircuitLabel ι)) (states : CircuitStates) (label : CircuitLabel ι) :
    LoadsTimely (fun _ _ => True) labels states label := by
  unfold LoadsTimely
  split
  · exact fun _ _ _ _ => trivial
  · exact trivial

def FollowsTimely (before : Option CircuitState) (save : CircuitSave) (after : Option CircuitState) : Prop :=
  save.Follows before after ∧ ∀ state ∈ before, Timely save.call state

structure CircuitCopy (states : CircuitStates) (call : CircuitCall) (seen : Option CircuitState) : Prop where
  copy : Copy storedVersion (states call.accountId) seen
  account : ∀ state ∈ seen, state.accountId = call.accountId
  timely : ∀ state ∈ seen, Timely call state

structure CircuitKept (labels : List (CircuitLabel ι)) (states : CircuitStates) : Prop where
  log : ∀ accountId, Log (FollowsTimely Timely) none (circuitSaves accountId labels) (states accountId)
  complete : ∀ accountId,
    (circuitSaves accountId labels).map (·.saved) = savedStates accountId (eventsOf labels)
  keyed : ∀ accountId, ∀ state ∈ states accountId, state.accountId = accountId
  copies : ∀ thread call view seen, circuitCalls labels thread = some (call, view) →
    view.seen = some seen → CircuitCopy Timely states call seen

variable {Timely} {labels : List (CircuitLabel ι)} {states after : CircuitStates} {thread : ι}
  {call : CircuitCall} {view : CircuitView} {event : PortEvent}

namespace CircuitKept

theorem of_unsaved (before : CircuitKept Timely labels states) {label : CircuitLabel ι}
    (saves : ∀ accountId, circuitSaves accountId (labels ++ [label]) = circuitSaves accountId labels)
    (events : ∀ accountId, savedStates accountId (eventsOf (labels ++ [label])) =
      savedStates accountId (eventsOf labels))
    {next : Option (CircuitCall × CircuitView)}
    (calls : circuitCalls (labels ++ [label]) = Function.update (circuitCalls labels) thread next)
    (own : ∀ call view seen, next = some (call, view) → view.seen = some seen →
      CircuitCopy Timely states call seen) :
    CircuitKept Timely (labels ++ [label]) states where
  log := fun accountId => by
    rw [saves]
    exact before.log accountId
  complete := fun accountId => by
    rw [saves, events]
    exact before.complete accountId
  keyed := before.keyed
  copies := fun other call view seen running known => by
    rw [calls, update_eq_some] at running
    obtain ⟨_, running⟩ | ⟨_, running⟩ := running
    · exact own call view seen running known
    · exact before.copies other call view seen running known

theorem of_unpersisted (before : CircuitKept Timely labels states)
    (running : circuitCalls labels thread = some (call, view)) (unpersisted : persisted event = none)
    (own : ∀ seen, (view.observe event).seen = some seen → CircuitCopy Timely states call seen) :
    CircuitKept Timely (labels ++ [.event thread event]) states := by
  apply before.of_unsaved _ _ (circuitCalls_event running event)
  · rintro _ _ seen ⟨⟩ known
    exact own seen known
  · intro accountId
    simp [circuitSaves_event, CircuitSave.of, unpersisted]
  · intro accountId
    simp [savedStates, unpersisted]

def next (call : CircuitCall) (rolled : Bool) (seen : Option CircuitState) : CircuitState :=
  { call.stores rolled seen with version := storedVersion seen + 1 }

/-- **A save that succeeds continues the log of its account.** -/
theorem stored (before : CircuitKept Timely labels states) (running : circuitCalls labels thread = some (call, view))
    (authorized : call.authorized = true) {seen : Option CircuitState} (known : view.seen = some seen)
    (current : storedVersion (states call.accountId) = storedVersion seen)
    (account : (call.stores view.rolled seen).accountId = call.accountId)
    (timely : Timely call (next call view.rolled seen)) :
    CircuitKept Timely
      (labels ++ [.event thread ⟨.circuit (.save (call.stores view.rolled seen) (storedVersion seen)),
        .ok (next call view.rolled seen)⟩])
      (Function.update states call.accountId (some (next call view.rolled seen))) := by
  have copied := before.copies thread call view seen running known
  have unchanged : seen = states call.accountId := copied.copy.same current.symm
  have nextAccount : (next call view.rolled seen).accountId = call.accountId := account
  have made : CircuitSave.of (circuitCalls labels thread)
      ⟨.circuit (.save (call.stores view.rolled seen) (storedVersion seen)),
        .ok (next call view.rolled seen)⟩ =
      some { call, rolled := view.rolled, seen, saved := next call view.rolled seen } := by
    simp [CircuitSave.of, running, persisted, known]
  constructor
  case log =>
    intro accountId
    rw [circuitSaves_event, made]
    by_cases own : accountId = call.accountId
    · subst own
      rw [Function.update_self, Option.filter_some, if_pos (by simpa using nextAccount)]
      refine (before.log _).snoc ⟨⟨unchanged, authorized, ?_, rfl⟩, ?_⟩
      · rw [← unchanged]
        rfl
      · rw [← unchanged]
        exact copied.timely
    · have apart : ¬ (next call view.rolled seen).accountId = accountId := by
        rw [nextAccount]
        exact fun same => own same.symm
      rw [Function.update_of_ne own, Option.filter_some, if_neg (by simpa using apart)]
      simpa using before.log accountId
  case complete =>
    intro accountId
    have whole := before.complete accountId
    rw [savedStates] at whole
    rw [circuitSaves_event, made, eventsOf_event, savedStates, List.filterMap_append, List.filter_append,
      List.map_append, whole]
    by_cases own : (next call view.rolled seen).accountId = accountId
    · simp [persisted, own]
    · simp [persisted, own]
  case keyed =>
    intro accountId state stored
    obtain ⟨rfl, ⟨⟩⟩ | ⟨_, stored⟩ := update_eq_some.mp stored
    · exact nextAccount
    · exact before.keyed accountId state stored
  case copies =>
    intro other otherCall otherView otherSeen otherRunning otherKnown
    rw [circuitCalls_event running, update_eq_some] at otherRunning
    obtain ⟨_, ⟨⟩⟩ | ⟨_, otherRunning⟩ := otherRunning
    · cases otherKnown
      constructor
      · rw [Function.update_self]
        exact .refl _
      · rintro _ ⟨⟩
        exact nextAccount
      · rintro _ ⟨⟩
        exact timely
    · have kept := before.copies other otherCall otherView otherSeen otherRunning otherKnown
      refine ⟨?_, kept.account, kept.timely⟩
      -- a copy of the same account is left behind
      by_cases same : otherCall.accountId = call.accountId
      · rw [same, Function.update_self]
        refine (same ▸ kept.copy).written ?_
        rw [current]
        rfl
      · rw [Function.update_of_ne same]
        exact kept.copy

/-- **One request keeps the log**, if what a call stores is timely for it. -/
theorem requested (before : CircuitKept Timely labels states)
    (stable : ∀ call rolled seen, (∀ state ∈ seen, Timely call state) → Timely call (next call rolled seen))
    (running : circuitCalls labels thread = some (call, view))
    (guarded : LoadsTimely Timely labels states (.event thread event))
    (permitted : CircuitCall.Permits (call, view) event.1) (step : circuitStore.step states event after) :
    CircuitKept Timely (labels ++ [.event thread event]) after := by
  obtain ⟨op, reply⟩ := event
  cases op with
  | circuit op =>
    cases op with
    | load accountId =>
      obtain ⟨rfl, rfl⟩ := step
      obtain rfl : accountId = call.accountId := permitted
      apply before.of_unpersisted running rfl
      rintro _ ⟨⟩
      exact ⟨.refl _, before.keyed _, guarded (call, view) running⟩
    | save state =>
      obtain ⟨authorized, seen, known, rfl, rfl⟩ := permitted
      have copied := before.copies thread call view seen running known
      have account : (call.stores view.rolled seen).accountId = call.accountId := by
        rw [CircuitCall.stores_accountId]
        cases seen with
        | none => rfl
        | some state => exact copied.account state rfl
      rcases save_cases step with ⟨current, rfl, rfl⟩ | ⟨error, rfl, rfl⟩
      · rw [account] at current
        have stored := before.stored running authorized known current account
          (stable call view.rolled seen copied.timely)
        rw [← account] at stored
        exact stored
      · apply before.of_unpersisted running rfl
        exact fun seen known => before.copies thread call view seen running known
  | broker _ | records _ | attempts _ | config _ | controls _ | journal _ | ledger _ | clock
  | sleep =>
    exact permitted.elim

end CircuitKept

/-- **The saves of every run form a log.** -/
theorem circuitKept_of_run {final : Pool Port PyError CircuitState CircuitStates ι}
    (stable : ∀ call rolled seen, (∀ state ∈ seen, Timely call state) → Timely call (CircuitKept.next call rolled seen))
    (run : Pool.RunWhen (LoadsTimely Timely) circuitStore (fun _ call => call.program)
      (Pool.idle fun _ => none) labels final) :
    CircuitKept Timely labels final.shared := by
  apply run.invariant (fun _ => none) (CircuitKept Timely) (fun _ call => call.wp_program) (fun _ => trivial)
  case initial => exact ⟨fun _ => .nil, fun _ => rfl, by simp [Pool.idle], by simp⟩
  case started =>
    intro labels states thread call before _ _
    apply before.of_unsaved (by simp) (by simp) (circuitCalls_start labels thread call)
    rintro _ _ seen ⟨⟩ ⟨⟩
  case event =>
    intro labels states thread watched event after before running guarded permitted step
    exact before.requested stable running guarded permitted step
  case finish =>
    intro labels states thread _ result before _ _ _
    exact before.of_unsaved (by simp) (by simp) (circuitCalls_finish labels thread result) (by simp)
  case crash =>
    intro labels states thread before _
    exact before.of_unsaved (by simp) (by simp) (circuitCalls_crash labels thread) (by simp)

end Log

end GoldFlow
