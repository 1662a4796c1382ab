import GoldFlow.Deployment
import GoldFlow.Verified.StoreMoves

/-! # An execution and a reconciliation of the same key

Two replicas work on one key: one executes a command, the other reconciles.
-/

namespace GoldFlow

open Effect

inductive Replica where
  | executing | reconciling
  deriving DecidableEq, Repr

def Replica.Settles : Replica → Working → Prop
  | .executing, known =>
    known.own = true ∧ (known.status = .claimed ∨ known.status = .submitted)
  | .reconciling, known =>
    known.own = false ∧ (known.status = .submitted ∨ known.status = .unknown)

/-- What the two calls know, what the store says about the key, and how many protective requests were made. -/
structure Scene where
  calls : Replica → Option Progress
  entry : Option StoreEntry
  claimed : Bool
  modifies : Nat
  closes : Nat

namespace Scene

structure Live (scene : Scene) (replica : Replica) (progress : Progress) (known : Working) : Prop where
  calling : scene.calls replica = some progress
  working : progress.working = some known
  settles : replica.Settles known

def Untouched (scene : Scene) : Prop := scene.modifies = 0 ∧ scene.closes = 0

structure Apart (key : String) (scene : Scene) : Prop where
  agrees : ∀ {replica progress known}, scene.Live replica progress known →
    known.key = key ∧ scene.entry = some { data := known.fill, status := known.status }
  exclusive : ∀ {replica progress known other otherProgress otherKnown},
    scene.Live replica progress known → scene.Live other otherProgress otherKnown → other = replica
  counted : ∀ {replica progress known}, scene.Live replica progress known →
    scene.modifies = progress.modifies ∧ scene.closes = progress.closes
  unread : ∀ {replica progress}, scene.calls replica = some progress → progress.working = none →
    progress.modifies = 0 ∧ progress.closes = 0
  free : scene.entry = none → scene.Untouched
  owned : ∀ {progress known}, scene.Live .executing progress known → scene.claimed = true
  settled : ∀ {progress entry}, scene.calls .reconciling = some progress → progress.working = none →
    scene.entry = some entry → (scene.claimed = false ∨ entry.status = .unknown) → scene.Untouched
  bounded : scene.modifies ≤ 1 ∧ scene.closes ≤ 1

variable {key : String} {scene moved : Scene} {replica other : Replica}
  {progress next current : Progress} {known : Working}

/-- The call of `replica` has moved on to `next`; the other is where it was. -/
structure Moves (scene : Scene) (replica : Replica) (progress next : Progress) (moved : Scene) :
    Prop where
  calling : scene.calls replica = some progress
  calls : moved.calls = Function.update scene.calls replica (some next)

namespace Moves

variable (moves : scene.Moves replica progress next moved)
include moves

theorem calls_inversion (calling : moved.calls other = some current) :
    (other = replica ∧ current = next) ∨ (other ≠ replica ∧ scene.calls other = some current) := by
  rw [moves.calls, update_eq_some] at calling
  exact calling.imp_left fun own => ⟨own.1, (Option.some.inj own.2).symm⟩

theorem live_inversion (live : moved.Live other current known) :
    (other = replica ∧ current = next) ∨ (other ≠ replica ∧ scene.Live other current known) := by
  obtain ⟨same, rfl⟩ | ⟨different, calling⟩ := moves.calls_inversion live.calling
  · exact .inl ⟨same, rfl⟩
  · exact .inr ⟨different, ⟨calling, live.working, live.settles⟩⟩

theorem unread (apart : scene.Apart key) (kept : next.working = none → next.modifies = 0 ∧ next.closes = 0)
    (calling : moved.calls other = some current) (idle : current.working = none) :
    current.modifies = 0 ∧ current.closes = 0 := by
  obtain ⟨_, rfl⟩ | ⟨_, before⟩ := moves.calls_inversion calling
  · exact kept idle
  · exact apart.unread before idle

end Moves

structure Quiet (scene moved : Scene) (progress next : Progress) : Prop where
  modifies : moved.modifies = scene.modifies
  closes : moved.closes = scene.closes
  callModifies : next.modifies = progress.modifies
  callCloses : next.closes = progress.closes

theorem Quiet.untouched (quiet : scene.Quiet moved progress next) (before : scene.Untouched) : moved.Untouched := by
  obtain ⟨modifies, closes⟩ := before
  exact ⟨by rw [quiet.modifies, modifies], by rw [quiet.closes, closes]⟩

theorem Quiet.bounded (quiet : scene.Quiet moved progress next) (apart : scene.Apart key) :
    moved.modifies ≤ 1 ∧ moved.closes ≤ 1 := by
  rw [quiet.modifies, quiet.closes]
  exact apart.bounded

theorem Quiet.counted (quiet : scene.Quiet moved progress next) (before : scene.Untouched)
    (unread : progress.modifies = 0 ∧ progress.closes = 0) :
    moved.modifies = next.modifies ∧ moved.closes = next.closes := by
  obtain ⟨modifies, closes⟩ := quiet.untouched before
  rw [modifies, closes, quiet.callModifies, quiet.callCloses, unread.1, unread.2]
  exact ⟨rfl, rfl⟩

namespace Apart

section

variable (apart : scene.Apart key) (moves : scene.Moves replica progress next moved)
include apart moves

theorem of_alone (alone : ∀ {other current known}, scene.Live other current known → other = replica)
    (working : next.working = some known) (about : known.key = key)
    (entry : moved.entry = some { data := known.fill, status := known.status })
    (counted : moved.modifies = next.modifies ∧ moved.closes = next.closes)
    (owned : replica = .executing → moved.claimed = true)
    (settled : replica = .executing → known.status = .unknown → moved.Untouched)
    (bounded : moved.modifies ≤ 1 ∧ moved.closes ≤ 1) : moved.Apart key := by
  have only : ∀ {other current otherKnown}, moved.Live other current otherKnown →
      other = replica ∧ current = next ∧ otherKnown = known := by
    intro other current otherKnown live
    obtain ⟨rfl, rfl⟩ | ⟨different, before⟩ := moves.live_inversion live
    · exact ⟨rfl, rfl, Option.some.inj (live.working.symm.trans working)⟩
    · exact absurd (alone before) different
  constructor
  · intro _ _ _ live
    obtain ⟨_, _, rfl⟩ := only live
    exact ⟨about, entry⟩
  · intro _ _ _ _ _ _ first second
    rw [(only first).1, (only second).1]
  · intro _ _ _ live
    obtain ⟨_, rfl, _⟩ := only live
    exact counted
  · exact moves.unread apart fun none => by rw [working] at none; cases none
  · intro absent
    rw [entry] at absent
    cases absent
  · exact fun live => owned (only live).1.symm
  · intro _ _ calling unread present open_
    obtain ⟨_, rfl⟩ | ⟨different, _⟩ := moves.calls_inversion calling
    · rw [working] at unread
      cases unread
    · have executing : replica = .executing := by cases replica <;> simp_all
      rw [entry] at present
      cases present
      rw [owned executing] at open_
      exact settled executing (by simpa using open_)
  · exact bounded

theorem claim (quiet : scene.Quiet moved progress next) {fill : Fill} (idle : progress.working = none)
    (free : scene.entry = none) (working : next.working = some { key, fill, status := .claimed, own := true })
    (entry : moved.entry = some { data := fill, status := .claimed })
    (claims : replica = .executing → moved.claimed = true) : moved.Apart key := by
  have counted := quiet.counted (apart.free free) (apart.unread moves.calling idle)
  apply apart.of_alone moves _ working rfl entry counted claims (by simp) (quiet.bounded apart)
  intro other current known live
  have taken := (apart.agrees live).2
  rw [free] at taken
  cases taken

theorem read (quiet : scene.Quiet moved progress next) {entry : StoreEntry} (idle : progress.working = none)
    (present : scene.entry = some entry)
    (working : next.working = some { key, fill := entry.data, status := entry.status, own := false })
    (same : moved.entry = scene.entry) (claimed : moved.claimed = scene.claimed)
    (fresh : replica = .reconciling → entry.status = .submitted → scene.claimed = false) : moved.Apart key := by
  -- if the reading call is live, it reconciles an open record
  have opened : ∀ {known}, moved.Live replica next known →
      known = { key, fill := entry.data, status := entry.status, own := false } ∧
        replica = .reconciling ∧ (entry.status = .submitted ∨ entry.status = .unknown) := by
    intro known live
    have same := working ▸ live.working
    cases same
    have settles := live.settles
    cases replica with
    | executing => exact absurd settles.1 (by simp)
    | reconciling => exact ⟨rfl, rfl, settles.2⟩
  -- and the other call is not live
  have alone : ∀ {known other current otherKnown}, moved.Live replica next known →
      other ≠ replica → ¬ scene.Live other current otherKnown := by
    intro known other current otherKnown live different otherLive
    obtain ⟨_, rfl, status⟩ := opened live
    have executing : other = .executing := by cases other <;> simp_all
    subst executing
    obtain ⟨_, stored⟩ := apart.agrees otherLive
    rw [present] at stored
    cases stored
    have submitted : otherKnown.status = .submitted := by
      obtain claimed | submitted := otherLive.settles.2
      · rw [claimed] at status
        simp at status
      · exact submitted
    have unclaimed := fresh rfl submitted
    rw [apart.owned otherLive] at unclaimed
    cases unclaimed
  constructor
  · intro other current known live
    obtain ⟨rfl, rfl⟩ | ⟨_, before⟩ := moves.live_inversion live
    · obtain ⟨rfl, _⟩ := opened live
      exact ⟨rfl, same.trans present⟩
    · rw [same]
      exact apart.agrees before
  · intro _ _ _ _ _ _ first second
    obtain ⟨rfl, rfl⟩ | ⟨different, before⟩ := moves.live_inversion first
    · obtain ⟨rfl, rfl⟩ | ⟨otherDifferent, otherBefore⟩ := moves.live_inversion second
      · rfl
      · exact absurd otherBefore (alone first otherDifferent)
    · obtain ⟨rfl, rfl⟩ | ⟨_, otherBefore⟩ := moves.live_inversion second
      · exact absurd before (alone second different)
      · exact apart.exclusive before otherBefore
  · intro other current known live
    obtain ⟨rfl, rfl⟩ | ⟨different, before⟩ := moves.live_inversion live
    · obtain ⟨_, rfl, status⟩ := opened live
      have open_ : scene.claimed = false ∨ entry.status = .unknown :=
        status.imp_left (fresh rfl)
      exact quiet.counted (apart.settled moves.calling idle present open_)
        (apart.unread moves.calling idle)
    · rw [quiet.modifies, quiet.closes]
      exact apart.counted before
  · exact moves.unread apart fun none => by rw [working] at none; cases none
  · intro absent
    rw [same, present] at absent
    cases absent
  · intro current known live
    obtain ⟨rfl, rfl⟩ | ⟨_, before⟩ := moves.live_inversion live
    · obtain ⟨_, reconciles, _⟩ := opened live
      cases reconciles
    · rw [claimed]
      exact apart.owned before
  · intro current found calling unread found_eq open_
    obtain ⟨_, rfl⟩ | ⟨_, before⟩ := moves.calls_inversion calling
    · rw [working] at unread
      cases unread
    · rw [same] at found_eq
      rw [claimed] at open_
      exact quiet.untouched (apart.settled before unread found_eq open_)
  · exact quiet.bounded apart

theorem record (quiet : scene.Quiet moved progress next) {status : IdempotencyStatus}
    (live : scene.Live replica progress known)
    (untouched : status = .unknown → progress.modifies = 0 ∧ progress.closes = 0)
    (working : next.working = some { known with status }) (entry : moved.entry = some { data := known.fill, status })
    (claimed : moved.claimed = scene.claimed) : moved.Apart key := by
  obtain ⟨modifies, closes⟩ := apart.counted live
  apply apart.of_alone moves (apart.exclusive live) working (apart.agrees live).1 entry
  · rw [quiet.modifies, quiet.closes, quiet.callModifies, quiet.callCloses]
    exact ⟨modifies, closes⟩
  · rintro rfl
    rw [claimed]
    exact apart.owned live
  · -- the executing call has recorded the result as unknown, before any protective request
    intro _ unknown
    obtain ⟨unmodified, unclosed⟩ := untouched unknown
    exact quiet.untouched ⟨modifies.trans unmodified, closes.trans unclosed⟩
  · exact quiet.bounded apart

theorem aside (quiet : scene.Quiet moved progress next) (working : next.working = progress.working)
    (entry : moved.entry = scene.entry) (claimed : moved.claimed = scene.claimed) : moved.Apart key := by
  -- a live call was live before
  have before : ∀ {other current otherKnown}, moved.Live other current otherKnown →
      ∃ earlier, scene.Live other earlier otherKnown ∧ current.modifies = earlier.modifies ∧
        current.closes = earlier.closes := by
    intro other current otherKnown live
    obtain ⟨rfl, rfl⟩ | ⟨_, before⟩ := moves.live_inversion live
    · exact ⟨progress, ⟨moves.calling, working ▸ live.working, live.settles⟩, quiet.callModifies,
        quiet.callCloses⟩
    · exact ⟨current, before, rfl, rfl⟩
  constructor
  · intro other current otherKnown live
    obtain ⟨_, earlier, _⟩ := before live
    rw [entry]
    exact apart.agrees earlier
  · intro _ _ _ _ _ _ first second
    obtain ⟨_, earlier, _⟩ := before first
    obtain ⟨_, otherEarlier, _⟩ := before second
    exact apart.exclusive earlier otherEarlier
  · intro other current otherKnown live
    obtain ⟨_, earlier, modifies, closes⟩ := before live
    rw [quiet.modifies, quiet.closes, modifies, closes]
    exact apart.counted earlier
  · refine moves.unread apart fun none => ?_
    rw [quiet.callModifies, quiet.callCloses]
    exact apart.unread moves.calling (working ▸ none)
  · intro absent
    exact quiet.untouched (apart.free (entry ▸ absent))
  · intro current otherKnown live
    obtain ⟨_, earlier, _⟩ := before live
    rw [claimed]
    exact apart.owned earlier
  · intro current found calling unread present open_
    rw [entry] at present
    rw [claimed] at open_
    obtain ⟨rfl, rfl⟩ | ⟨_, earlier⟩ := moves.calls_inversion calling
    · exact quiet.untouched (apart.settled moves.calling (working ▸ unread) present open_)
    · exact quiet.untouched (apart.settled earlier unread present open_)
  · exact quiet.bounded apart

theorem touch (live : scene.Live replica progress known) (working : next.working = progress.working)
    (entry : moved.entry = scene.entry) (claimed : moved.claimed = scene.claimed)
    (counted : moved.modifies = next.modifies ∧ moved.closes = next.closes)
    (bounded : moved.modifies ≤ 1 ∧ moved.closes ≤ 1) : moved.Apart key := by
  obtain ⟨about, stored⟩ := apart.agrees live
  apply apart.of_alone moves (apart.exclusive live) (working.trans live.working) about
    (entry.trans stored) counted
  · rintro rfl
    rw [claimed]
    exact apart.owned live
  · -- the executing call touches only what it knows as submitted
    rintro rfl unknown
    have settles := live.settles.2
    rw [unknown] at settles
    simp at settles
  · exact bounded

end

theorem leave (apart : scene.Apart key) (replica : Replica) :
    ({ scene with calls := Function.update scene.calls replica none } : Scene).Apart key := by
  have calling : ∀ {other current}, Function.update scene.calls replica none other = some current →
      scene.calls other = some current := by
    intro other current calls
    obtain ⟨_, ⟨⟩⟩ | ⟨_, calls⟩ := update_eq_some.mp calls
    exact calls
  have before : ∀ {other current otherKnown},
      ({ scene with calls := Function.update scene.calls replica none } : Scene).Live other current
        otherKnown → scene.Live other current otherKnown :=
    fun live => ⟨calling live.calling, live.working, live.settles⟩
  exact
    { agrees := fun live => apart.agrees (before live)
      exclusive := fun first second => apart.exclusive (before first) (before second)
      counted := fun live => apart.counted (before live)
      unread := fun calls => apart.unread (calling calls)
      free := apart.free
      owned := fun live => apart.owned (before live)
      settled := fun calls => apart.settled (calling calls)
      bounded := apart.bounded }

end Apart

end Scene

/-! ## The two calls -/

def Replica.call (command : ExecutionCommand) (key : String) : Replica → ExecutorCall
  | .executing => .execute command
  | .reconciling => .reconcileUnknown key

abbrev ReplicaLabel := Label Port PyError ExecutionOutcome Replica Empty

def launch (executors : Replica → TradeExecutor) (command : ExecutionCommand) (key : String)
    (state : World) : Pool Port PyError ExecutionOutcome World Replica :=
  { shared := state
    threads := fun replica => some ((executors replica).call (replica.call command key)) }

def noCall (_ : Replica) (call : Empty) : Py ExecutionOutcome := call.elim

def asked (labels : List ReplicaLabel) : Replica → Option (List PortEvent) :=
  history.track (fun _ call => call.elim) (fun _ => some []) labels

/-- The label claims `key` for the executing call. -/
def claimsForExecute (kind : StoreKind) (key : String) : ReplicaLabel → Bool
  | .event .executing event => (kind.action event).claims key
  | _ => false

def sceneOf (kind : StoreKind) (key : String) (labels : List ReplicaLabel) (state : World) : Scene :=
  { calls := fun replica => (asked labels replica).map progressOf
    entry := state.entries kind key
    claimed := labels.any (claimsForExecute kind key)
    modifies := (eventsOf labels).countP fun event => event.1.isModify
    closes := (eventsOf labels).countP fun event => event.1.isClose }

def ExecutesKey (command : ExecutionCommand) (key : String) (labels : List ReplicaLabel) : Prop :=
  ∀ account, .event .executing ⟨.broker .getAccount, .ok account⟩ ∈ labels →
    TradeExecutor.idempotencyKey account command.signal = key

/-- Reconciliation does not read a record in flight as `SUBMITTED`. -/
def NeverReadsInFlight (kind : StoreKind) (key : String) (labels : List ReplicaLabel) : Prop :=
  ∀ earlier event entry, earlier ++ [.event .reconciling event] <+: labels →
    kind.reads event = some (key, entry) → entry.status = .submitted →
    earlier.any (claimsForExecute kind key) = false

section Labels

variable {kind : StoreKind} {command : ExecutionCommand} {key : String}
  {labels : List ReplicaLabel} {label : ReplicaLabel} {replica : Replica} {history : List PortEvent}

theorem ExecutesKey.before (executes : ExecutesKey command key (labels ++ [label])) :
    ExecutesKey command key labels :=
  fun account member => executes account (List.mem_append_left _ member)

theorem NeverReadsInFlight.before (never : NeverReadsInFlight kind key (labels ++ [label])) :
    NeverReadsInFlight kind key labels :=
  fun earlier event entry happened =>
    never earlier event entry (happened.trans (List.prefix_append _ _))

theorem mem_labels_of_asked (running : asked labels replica = some history) {event : PortEvent}
    (member : event ∈ history) : .event replica event ∈ labels := by
  induction labels using List.reverseRecOn generalizing history with
  | nil =>
    have same : some [] = some history := running
    cases same
    cases member
  | append_singleton labels label ih =>
    -- labels of other threads and ends of calls leave the history alone
    rw [asked, Monitor.track_snoc] at running
    have earlier : ∀ {before}, asked labels replica = some before → event ∈ before →
        .event replica event ∈ labels ++ [label] :=
      fun known asked => List.mem_append_left _ (ih known asked)
    cases label with
    | start thread call => exact call.elim
    | finish thread result | crash thread =>
      obtain ⟨_, ⟨⟩⟩ | ⟨_, running⟩ := update_eq_some.mp running
      exact earlier running member
    | event =>
      obtain ⟨rfl, running⟩ | ⟨_, running⟩ := update_eq_some.mp running
      · obtain ⟨before, known, rfl⟩ := Option.map_eq_some_iff.mp running
        rcases List.mem_append.mp member with older | newest
        · exact earlier known older
        · rw [List.mem_singleton] at newest
          subst newest
          exact List.mem_append_right _ (List.mem_singleton_self _)
      · exact earlier running member

end Labels

section Step

variable {kind : StoreKind} {executor : TradeExecutor} {command : ExecutionCommand} {key : String}
  {labels : List ReplicaLabel} {replica : Replica} {history : List PortEvent} {event : PortEvent}
  {state after : World} {role : Role} {op : Op}

theorem sceneOf_moves (running : asked labels replica = some history) :
    (sceneOf kind key labels state).Moves replica (progressOf history) (progressOf (history ++ [event]))
      (sceneOf kind key (labels ++ [.event replica event]) after) where
  calling := by simp [sceneOf, running]
  calls := by
    have tracked : asked (labels ++ [.event replica event]) =
        Function.update (asked labels) replica (some (history ++ [event])) :=
      Monitor.track_event running
    simp only [sceneOf, tracked]
    exact Function.comp_update (Option.map progressOf) (asked labels) replica _

theorem sceneOf_quiet (unprotective : event.1.isModify = false ∧ event.1.isClose = false) :
    (sceneOf kind key labels state).Quiet (sceneOf kind key (labels ++ [.event replica event]) after)
      (progressOf history) (progressOf (history ++ [event])) := by
  obtain ⟨_, modifies, closes⟩ := (progressOf history).observe_counts event
  constructor
  · simp [sceneOf, unprotective]
  · simp [sceneOf, unprotective]
  · simp [modifies, unprotective]
  · simp [closes, unprotective]

theorem unprotective_of_action (acts : kind.action event ≠ .idle) :
    event.1.isModify = false ∧ event.1.isClose = false := by
  obtain ⟨op, reply⟩ := event
  cases op with
  | broker => exact absurd (by cases kind <;> rfl) acts
  | _ => exact ⟨rfl, rfl⟩

theorem unprotective_of_reads {entry : String × StoreEntry} (reads : kind.reads event = some entry) :
    event.1.isModify = false ∧ event.1.isClose = false := by
  obtain ⟨op, reply⟩ := event
  cases op with
  | broker => cases kind <;> cases reads
  | _ => exact ⟨rfl, rfl⟩

theorem mayModify_of_isModify (permitted : Discipline executor role history op) (modifies : op.isModify = true) :
    MayModify role history := by
  unfold Op.isModify at modifies
  split at modifies
  · exact permitted
  · cases modifies

theorem mayClose_of_isClose (permitted : Discipline executor role history op) (closes : op.isClose = true) :
    MayClose role history := by
  unfold Op.isClose at closes
  split at closes
  · exact permitted
  · cases closes

theorem settles_of_role {known : Working}
    (settles : ((replica.call command key).role executor).settles known) : replica.Settles known := by
  cases replica <;> exact settles

theorem about_eq {asksFor : String} (executes : ExecutesKey command key labels)
    (running : asked labels replica = some history)
    (permitted : MayRead ((replica.call command key).role executor) history asksFor) : asksFor = key := by
  have about := permitted.about
  cases replica with
  | executing =>
    obtain ⟨account, returned, rfl⟩ := about
    exact executes account (mem_labels_of_asked running returned)
  | reconciling => exact about

theorem apart_touch (apart : (sceneOf kind key labels state).Apart key)
    (running : asked labels replica = some history)
    (permitted : Discipline executor ((replica.call command key).role executor) history event.1)
    (protective : event.1.isModify = true ∨ event.1.isClose = true)
    (working : (progressOf (history ++ [event])).working = (progressOf history).working)
    (entry : after.entries kind key = state.entries kind key)
    (claimed : (sceneOf kind key (labels ++ [.event replica event]) after).claimed =
      (sceneOf kind key labels state).claimed) :
    (sceneOf kind key (labels ++ [.event replica event]) after).Apart key := by
  have moves : (sceneOf kind key labels state).Moves replica (progressOf history)
      (progressOf (history ++ [event])) (sceneOf kind key (labels ++ [.event replica event]) after) :=
    sceneOf_moves running
  have resolving : Resolving ((replica.call command key).role executor) history := by
    obtain modifies | closes := protective
    · exact (mayModify_of_isModify permitted modifies).resolving
    · exact (mayClose_of_isClose permitted closes).resolving
  obtain ⟨known, knows, settles, _⟩ := resolving
  have live : (sceneOf kind key labels state).Live replica (progressOf history) known :=
    ⟨moves.calling, knows, settles_of_role settles⟩
  obtain ⟨sameModifies, sameCloses⟩ := apart.counted live
  obtain ⟨boundModifies, boundCloses⟩ := apart.bounded
  obtain ⟨_, callModifies, callCloses⟩ := (progressOf history).observe_counts event
  rw [← progressOf_append_singleton] at callModifies callCloses
  have sceneModifies : (sceneOf kind key (labels ++ [.event replica event]) after).modifies =
      (sceneOf kind key labels state).modifies + if event.1.isModify then 1 else 0 := by
    simp [sceneOf]
  have sceneCloses : (sceneOf kind key (labels ++ [.event replica event]) after).closes =
      (sceneOf kind key labels state).closes + if event.1.isClose then 1 else 0 := by
    simp [sceneOf]
  refine apart.touch moves live working entry claimed ?_ ?_
  · omega
  · -- the first of its kind
    constructor
    · by_cases modifies : event.1.isModify = true
      · have first := (mayModify_of_isModify permitted modifies).first
        rw [sceneModifies, sameModifies, first, if_pos modifies]
      · rw [sceneModifies, if_neg modifies]
        exact boundModifies
    · by_cases closes : event.1.isClose = true
      · have first := (mayClose_of_isClose permitted closes).first
        rw [sceneCloses, sameCloses, first, if_pos closes]
      · rw [sceneCloses, if_neg closes]
        exact boundCloses

/-- **One request of one call keeps the calls apart.** -/
theorem apart_event (apart : (sceneOf executor.kind key labels state).Apart key)
    (executes : ExecutesKey command key labels)
    (never : NeverReadsInFlight executor.kind key (labels ++ [.event replica event]))
    (running : asked labels replica = some history)
    (permitted : Discipline executor ((replica.call command key).role executor) history event.1)
    (step : world.step state event after) :
    (sceneOf executor.kind key (labels ++ [.event replica event]) after).Apart key := by
  have moves : (sceneOf executor.kind key labels state).Moves replica (progressOf history)
      (progressOf (history ++ [event]))
      (sceneOf executor.kind key (labels ++ [.event replica event]) after) :=
    sceneOf_moves running
  have refined := world_refines_ledger executor.kind step
  -- only a claim of the executing call changes who has claimed the key
  have unclaimed : (executor.kind.action event).claims key = false →
      (sceneOf executor.kind key (labels ++ [.event replica event]) after).claimed =
        (sceneOf executor.kind key labels state).claimed := by
    intro other
    have none : claimsForExecute executor.kind key (.event replica event) = false := by
      cases replica
      · exact other
      · rfl
    simp [sceneOf, none]
  have idle_entry : executor.kind.action event = .idle →
      after.entries executor.kind key = state.entries executor.kind key := by
    intro idle
    rw [idle] at refined
    rw [refined.idle_inversion]
  cases storeMove_of_permitted permitted with
  | claimed readable action own working =>
    obtain rfl := about_eq executes running readable
    have acts : executor.kind.action event ≠ .idle := by simp [action]
    rw [action] at refined
    obtain ⟨free, taken⟩ := refined.claim_inversion
    refine apart.claim moves (sceneOf_quiet (unprotective_of_action acts)) readable.idle free working
      taken ?_
    rintro rfl
    simp [sceneOf, claimsForExecute, action, Ledger.Action.claims]
  | @read asksFor entry readable action reads working =>
    obtain rfl := about_eq executes running readable
    refine apart.read moves (sceneOf_quiet (unprotective_of_reads reads)) readable.idle
      (stored_of_reads reads step) working (idle_entry action) (unclaimed (by rw [action]; rfl)) ?_
    rintro rfl submitted
    exact never labels event entry (List.prefix_refl _) reads submitted
  | @recorded known status updatable action working =>
    have live : (sceneOf executor.kind key labels state).Live replica (progressOf history) known :=
      ⟨moves.calling, updatable.working, settles_of_role updatable.settles⟩
    obtain ⟨rfl, stored⟩ := apart.agrees live
    have acts : executor.kind.action event ≠ .idle := by simp [action]
    have kept := unclaimed (by rw [action]; rfl)
    rw [action] at refined
    obtain ⟨entry, found, _, moved⟩ := refined.advance_inversion
    have same : some entry = some { data := known.fill, status := known.status } :=
      found.symm.trans stored
    cases same
    exact apart.record moves (sceneOf_quiet (unprotective_of_action acts)) live updatable.untouched
      working moved kept
  | aside action working =>
    have same := idle_entry action
    have kept := unclaimed (by rw [action]; rfl)
    by_cases protective : event.1.isModify = true ∨ event.1.isClose = true
    · exact apart_touch apart running permitted protective working same kept
    · rw [not_or, Bool.not_eq_true, Bool.not_eq_true] at protective
      exact apart.aside moves (sceneOf_quiet protective) working same kept

theorem fault_of_raised {error : PyError} (apart : (sceneOf executor.kind key labels state).Apart key)
    (running : asked labels replica = some history)
    (permitted : Discipline executor ((replica.call command key).role executor) history op)
    (step : world.step state ⟨op, .error error⟩ after) : error.isFault = true := by
  by_contra unfaulted
  rw [Bool.not_eq_true] at unfaulted
  obtain ⟨_, status, known, entry, updatable, found, refused⟩ :=
    refused_update permitted step unfaulted
  have live : (sceneOf executor.kind key labels state).Live replica (progressOf history) known :=
    ⟨by simp [sceneOf, running], updatable.working, settles_of_role updatable.settles⟩
  obtain ⟨same, stored⟩ := apart.agrees live
  rw [← updatable.key_eq, same] at found
  have agreed : some entry = some { data := known.fill, status := known.status } :=
    found.symm.trans stored
  cases agreed
  exact refused updatable.allowed

end Step

/-! ## Whole runs -/

structure Unrefused (labels : List ReplicaLabel) : Prop where
  running : ∀ {replica history op error}, asked labels replica = some history →
    (⟨op, .error error⟩ : PortEvent) ∈ history → error.isFault = true
  ended : ∀ {replica error}, .finish replica (.error error) ∈ labels → error.isFault = true

namespace Unrefused

variable {labels : List ReplicaLabel} {replica : Replica}

theorem after_event (before : Unrefused labels) {history : List PortEvent} {event : PortEvent}
    (running : asked labels replica = some history)
    (fault : ∀ error, event.2 = .error error → error.isFault = true) :
    Unrefused (labels ++ [.event replica event]) where
  running := by
    have tracked : asked (labels ++ [.event replica event]) =
        Function.update (asked labels) replica (some (history ++ [event])) :=
      Monitor.track_event running
    intro other current op error calling member
    rw [tracked] at calling
    obtain ⟨rfl, ⟨⟩⟩ | ⟨_, calling⟩ := update_eq_some.mp calling
    · rcases List.mem_append.mp member with earlier | last
      · exact before.running running earlier
      · obtain rfl := List.mem_singleton.mp last
        exact fault error rfl
    · exact before.running calling member
  ended := by
    intro other error member
    have earlier : .finish other (.error error) ∈ labels := by simpa using member
    exact before.ended earlier

theorem after_end (before : Unrefused labels) {label : ReplicaLabel}
    (ends : asked (labels ++ [label]) = Function.update (asked labels) replica none)
    (excused : ∀ other error, label = .finish other (.error error) → error.isFault = true) :
    Unrefused (labels ++ [label]) where
  running := by
    intro other history op error calling member
    rw [ends] at calling
    obtain ⟨_, ⟨⟩⟩ | ⟨_, calling⟩ := update_eq_some.mp calling
    exact before.running calling member
  ended := by
    intro other error member
    rcases List.mem_append.mp member with earlier | last
    · exact before.ended earlier
    · exact excused other error (List.mem_singleton.mp last).symm

end Unrefused

theorem apart_launch (kind : StoreKind) (key : String) (state : World) : (sceneOf kind key [] state).Apart key := by
  have fresh : ∀ {replica progress}, (sceneOf kind key [] state).calls replica = some progress →
      progress = {} := by
    intro replica progress calling
    have same : some ({} : Progress) = some progress := calling
    cases same
    rfl
  have unlive : ∀ {replica progress known},
      ¬ (sceneOf kind key [] state).Live replica progress known := by
    intro replica progress known live
    obtain rfl := fresh live.calling
    cases live.working
  exact
    { agrees := fun live => absurd live unlive
      exclusive := fun live _ => absurd live unlive
      counted := fun live => absurd live unlive
      unread := fun calling _ => by
        obtain rfl := fresh calling
        exact ⟨rfl, rfl⟩
      free := fun _ => ⟨rfl, rfl⟩
      owned := fun live => absurd live unlive
      settled := fun _ _ _ _ => ⟨rfl, rfl⟩
      bounded := by simp [sceneOf] }

theorem sceneOf_end {kind : StoreKind} {key : String} {labels : List ReplicaLabel} {label : ReplicaLabel}
    {replica : Replica} {state : World}
    (ends : asked (labels ++ [label]) = Function.update (asked labels) replica none) (silent : label.made? = none)
    (apart : (sceneOf kind key labels state).Apart key) : (sceneOf kind key (labels ++ [label]) state).Apart key := by
  have same : sceneOf kind key (labels ++ [label]) state =
      { sceneOf kind key labels state with
        calls := Function.update (sceneOf kind key labels state).calls replica none } := by
    have events : eventsOf (labels ++ [label]) = eventsOf labels := by
      simp [eventsOf, silent]
    have unclaimed : claimsForExecute kind key label = false := by
      cases label <;> simp_all [claimsForExecute]
    have calls : (fun other => (asked (labels ++ [label]) other).map progressOf) =
        Function.update (fun other => (asked labels other).map progressOf) replica none := by
      rw [ends]
      exact Function.comp_update (Option.map progressOf) (asked labels) replica _
    simp only [sceneOf, calls, events, List.any_append, List.any_cons, unclaimed, List.any_nil,
      Bool.or_false]
  rw [same]
  exact apart.leave replica

/-- **The two calls do not collide** unless reconciliation reads the record of the execution in flight. -/
theorem no_collision (kind : StoreKind) (executors : Replica → TradeExecutor)
    (sharing : ∀ replica, (executors replica).kind = kind) (command : ExecutionCommand) (key : String)
    {state : World} {labels : List ReplicaLabel}
    {pool : Pool Port PyError ExecutionOutcome World Replica}
    (run : Pool.Run world noCall (launch executors command key state) labels pool)
    (executes : ExecutesKey command key labels) (never : NeverReadsInFlight kind key labels) :
    (∀ replica current next,
      .finish replica (.error (.invalidTransition current next)) ∉ labels) ∧
    (eventsOf labels).countP (fun event => event.1.isModify) ≤ 1 ∧
    (eventsOf labels).countP (fun event => event.1.isClose) ≤ 1 := by
  have nothing : ∀ replica call, (noCall replica call).wp history.environment
      (Discipline (executors replica) ((replica.call command key).role (executors replica)))
      (Ends Excused Justified) (call.elim : List PortEvent) :=
    fun _ call => call.elim
  have begun : ∀ replica, Tracked history
      (Discipline (executors replica) ((replica.call command key).role (executors replica)))
      (Ends Excused Justified) ((launch executors command key state).threads replica) (some []) :=
    fun replica => (keeps_call (executors replica) (replica.call command key)).verified
  have invariant := run.unguarded.invariant (fun _ => some [])
    (fun labels state => ExecutesKey command key labels → NeverReadsInFlight kind key labels →
      (sceneOf kind key labels state).Apart key ∧ Unrefused labels)
    nothing begun ?initial ?started ?event ?finish ?crash
  case initial =>
    intro _ _
    refine ⟨apart_launch kind key state, ?_, by simp⟩
    intro replica asks op error running member
    have same : some [] = some asks := running
    cases same
    cases member
  case started => exact fun _ _ _ call => call.elim
  case event =>
    intro labels state replica asks event after before running _ permitted step executes never
    obtain ⟨apart, unrefused⟩ := before executes.before never.before
    obtain rfl := sharing replica
    refine ⟨apart_event apart executes.before never running permitted step, ?_⟩
    refine unrefused.after_event running fun error raised => ?_
    obtain ⟨op, reply⟩ := event
    obtain rfl : reply = .error error := raised
    exact fault_of_raised apart running permitted step
  case finish =>
    intro labels state replica asks result before running _ ended executes never
    obtain ⟨apart, unrefused⟩ := before executes.before never.before
    have ends : asked (labels ++ [.finish replica result]) =
        Function.update (asked labels) replica none := Monitor.track_snoc _ _ _ _ _
    refine ⟨sceneOf_end ends rfl apart, unrefused.after_end ends ?_⟩
    rintro _ error ⟨⟩
    by_contra unfaulted
    rw [Bool.not_eq_true] at unfaulted
    obtain ⟨op, member⟩ := ended unfaulted
    rw [unrefused.running running member] at unfaulted
    cases unfaulted
  case crash =>
    intro labels state replica before _ executes never
    obtain ⟨apart, unrefused⟩ := before executes.before never.before
    have ends : asked (labels ++ [.crash replica]) =
        Function.update (asked labels) replica none := Monitor.track_snoc _ _ _ _ _
    exact ⟨sceneOf_end ends rfl apart, unrefused.after_end ends (by simp)⟩
  obtain ⟨apart, unrefused⟩ := invariant executes never
  refine ⟨fun replica current next member => ?_, apart.bounded⟩
  exact absurd (unrefused.ended member) (by simp [PyError.isFault])

section Checks

variable {kind : StoreKind} {command : ExecutionCommand} {key : String} {labels : List ReplicaLabel}

def readsAccountOf (command : ExecutionCommand) (key : String) : ReplicaLabel → Bool
  | .event .executing ⟨.broker .getAccount, .ok account⟩ =>
    TradeExecutor.idempotencyKey account command.signal = key
  | _ => true

theorem executesKey_of_all (all : labels.all (readsAccountOf command key) = true) :
    ExecutesKey command key labels := by
  intro account member
  have read := List.all_eq_true.mp all _ member
  simpa [readsAccountOf] using read

/-- The label does not read a `SUBMITTED` record. -/
def readsSettled (kind : StoreKind) : ReplicaLabel → Bool
  | .event .reconciling event => (kind.reads event).all fun read => read.2.status ≠ .submitted
  | _ => true

theorem neverReadsInFlight_of_all (all : labels.all (readsSettled kind) = true) :
    NeverReadsInFlight kind key labels := by
  intro earlier event entry happened reads submitted
  have member : .event .reconciling event ∈ labels := happened.subset (by simp)
  have settled := List.all_eq_true.mp all _ member
  simp [readsSettled, reads, submitted] at settled

end Checks

namespace Demo

def replicas (sendBehaviors : List MockSendBehavior := []) :
    Pool Port PyError ExecutionOutcome Deployment Replica :=
  { shared := deployment sendBehaviors
    threads := fun replica => some ((executor .inMemory).call (replica.call command key)) }

def takeover : List (Turn Replica Empty) :=
  List.replicate 30 (.step .executing) ++ List.replicate 20 (.step .reconciling)

def overlap : List (Turn Replica Empty) :=
  List.replicate 17 (.step .executing) ++ List.replicate 20 (.step .reconciling) ++
    List.replicate 20 (.step .executing)

def resolved : List ReplicaLabel :=
  (Pool.schedule quiet.responder noCall (replicas [.timeoutAfterAccept]) takeover).1

def collision : List ReplicaLabel :=
  (Pool.schedule quiet.responder noCall replicas overlap).1

end Demo

open Demo

theorem no_collision_takeover :
    (∀ replica current next,
      .finish replica (.error (.invalidTransition current next)) ∉ resolved) ∧
    (eventsOf resolved).countP (fun event => event.1.isModify) ≤ 1 ∧
    (eventsOf resolved).countP (fun event => event.1.isClose) ≤ 1 :=
  no_collision .inMemory (fun _ => executor .inMemory) (fun _ => rfl) command key
    (Pool.run_schedule quiet.respond_within (replicas [.timeoutAfterAccept]) takeover)
    (executesKey_of_all (by decide +kernel)) (neverReadsInFlight_of_all (by decide +kernel))

def endsRefused : ReplicaLabel → Bool
  | .finish _ (.error (.invalidTransition _ _)) => true
  | _ => false

/-- Reconciliation settles the order just sent, and the store refuses the execution's result. -/
theorem execute_collides :
    ∃ pool, Pool.Run world noCall
        (launch (fun _ => executor .inMemory) command key deployment.world)
        collision pool ∧
      ExecutesKey command key collision ∧
      ∃ replica current next,
        .finish replica (.error (.invalidTransition current next)) ∈ collision := by
  refine ⟨_, Pool.run_schedule quiet.respond_within replicas overlap,
    executesKey_of_all (by decide +kernel), ?_⟩
  have refused : collision.any endsRefused = true := by decide +kernel
  obtain ⟨label, member, ends⟩ := List.any_eq_true.mp refused
  unfold endsRefused at ends
  split at ends
  next replica current next => exact ⟨replica, current, next, member⟩
  next => cases ends

end GoldFlow
