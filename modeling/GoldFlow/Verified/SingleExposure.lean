import GoldFlow.Brokers.Books
import GoldFlow.Verified.Reconciliation
import GoldFlow.Verified.SendGates

/-! # One exposure at a time

One executor on the mock broker, while other tasks close positions.
-/

namespace GoldFlow

open Effect TradeExecutor
open Program (Asks)

inductive DeskCall where
  | execute (command : ExecutionCommand)
  | reconcileUnknown (key : String)
  | cancelPendingEntries
  | closePosition (ticket : String) (volume : Option Decimal)

/-- The call holds `_execution_lock`. -/
def DeskCall.locks : DeskCall → Bool
  | .execute command => command.mode != .signal
  | .reconcileUnknown _ | .cancelPendingEntries => true
  | .closePosition _ _ => false

def TradeExecutor.desk (executor : TradeExecutor) : DeskCall → Py Unit
  | .execute command => do
    let _ ← executor.execute command
    pure ()
  | .reconcileUnknown key => do
    let _ ← executor.reconcileUnknown key
    pure ()
  | .cancelPendingEntries => do
    let _ ← cancelPendingEntries
    pure ()
  | .closePosition ticket volume => do
    let _ ← askBroker (.closePosition ticket volume)
    pure ()

namespace MockBroker

/-- The mock broker answers from its books. -/
def answers (broker : MockBroker) : PortEvent → MockBroker → Prop
  | ⟨.broker op, reply⟩, after => ∃ current, SameBooks broker current ∧ (reply, after) = current.respond op
  | _, after => SameBooks broker after

variable {broker after : MockBroker} {op : Op} {reply : Except PyError op.Value}

theorem answers_opens {request : OrderRequest} (sends : Sends op request)
    (answered : broker.answers ⟨op, reply⟩ after) : Opens broker request.symbol after := by
  obtain rfl | rfl := sends
  · obtain ⟨current, same, result⟩ := answered
    obtain rfl : after = (current.placeMarketOrder request).2 := congrArg Prod.snd result
    exact .of_same same (placeMarketOrder_opens current request)
  · obtain ⟨current, same, result⟩ := answered
    obtain rfl : after = (current.placePendingOrder request).2 := congrArg Prod.snd result
    exact .of_same same (placePendingOrder_opens current request)

theorem respond_shrinks (broker : MockBroker) {op : BrokerOp} (unsent : (Op.broker op).isSend = false) :
    Shrinks broker (broker.respond op).2 := by
  cases op with
  | placeMarketOrder request | placePendingOrder request => cases unsent
  | modifyPosition ticket stopLoss takeProfit => exact modifyPosition_shrinks broker ticket stopLoss takeProfit
  | closePosition ticket volume => exact closePosition_shrinks broker ticket volume
  | cancelOrder ticket => exact cancelOrder_shrinks broker ticket
  | _ => exact .refl broker

theorem answers_shrinks (unsent : op.isSend = false) (answered : broker.answers ⟨op, reply⟩ after) :
    Shrinks broker after := by
  cases op with
  | broker op =>
    obtain ⟨current, same, result⟩ := answered
    obtain rfl : after = (current.respond op).2 := congrArg Prod.snd result
    exact same.shrinks.trans (respond_shrinks current unsent)
  | _ => exact SameBooks.shrinks answered

theorem whenConnected_eq_ok {α : Type} {value found : α} (answer : .ok found = broker.whenConnected value) :
    found = value := by
  simp only [whenConnected, requireConnection] at answer
  split at answer
  · cases answer
    rfl
  · cases answer

theorem answers_positions {positions : List BrokerPosition}
    (answered : broker.answers ⟨.broker (.getPositions none), .ok positions⟩ after) :
    positions = after.positions := by
  obtain ⟨current, _, result⟩ := answered
  obtain ⟨shown, rfl⟩ := Prod.mk.inj result
  exact whenConnected_eq_ok shown

theorem answers_orders {orders : List BrokerOrder}
    (answered : broker.answers ⟨.broker (.getOrders none), .ok orders⟩ after) : orders = after.orders := by
  obtain ⟨current, _, result⟩ := answered
  obtain ⟨shown, rfl⟩ := Prod.mk.inj result
  exact whenConnected_eq_ok shown

theorem answers_resolved {canonical : String} {spec : SymbolSpecification}
    (answered : broker.answers ⟨.broker (.resolveSymbol canonical), .ok spec⟩ after) :
    Symbols.resolveSymbol canonical broker.symbols = .ok spec := by
  obtain ⟨current, same, result⟩ := answered
  have shown : .ok spec = current.resolveSymbol canonical := congrArg Prod.fst result
  unfold resolveSymbol requireConnection at shown
  rw [← same.symbols]
  generalize Symbols.resolveSymbol canonical current.symbols = resolved at shown ⊢
  split at shown
  · exact shown.symm
  · cases shown

end MockBroker

def exchange : Environment Port PyError Deployment where
  step := fun state event after =>
    world.step state.world event after.world ∧ state.broker.answers event after.broker

/-! ## What a call may send -/

/-- Only an `execute` call sends, once, and only what all checks have cleared. -/
def MayOpen (executor : TradeExecutor) (observed : DeskCall × List PortEvent) (op : Op) : Prop :=
  ∀ request, Sends op request → ∃ command, observed.1 = .execute command ∧
    Cleared executor command observed.2 request ∧ (progressOf observed.2).sends = 0

section MayOpen

variable {executor : TradeExecutor} {observed : DeskCall × List PortEvent} {op : Op}

theorem sends_of_isSend (sends : op.isSend = true) : ∃ request, Sends op request := by
  unfold Op.isSend at sends
  split at sends
  next request => exact ⟨request, .inl rfl⟩
  next request => exact ⟨request, .inr rfl⟩
  next => cases sends

theorem mayOpen_of_unsent (unsent : op.isSend = false) : MayOpen executor observed op := by
  rintro request (rfl | rfl) <;> cases unsent

abbrev UnsentProgram {α : Type} (program : Py α) : Prop :=
  Asks (S := Port) (fun op : Op => op.isSend = false) program

theorem unsent_ask {op : Op} (unsent : op.isSend = false) : UnsentProgram (Program.perform (S := Port) op) :=
  Asks.perform unsent

theorem unsent_cancelPendingEntries : UnsentProgram cancelPendingEntries := by
  apply Asks.bind (unsent_ask rfl)
  intro orders
  apply Asks.foldlM
  intro cancelled order
  exact Asks.bind (unsent_ask rfl) fun _ => trivial

theorem wp_desk_of_keeps {α : Type} {call : DeskCall} {program : Py α} {role : Role}
    {returns : List PortEvent → α → Prop} (keeps : Keeps (Discipline executor role) Excused returns program [])
    (opens : ∀ made request, MaySend executor.kind role made request →
      ∃ command, call = .execute command ∧ Cleared executor command made request ∧ (progressOf made).sends = 0) :
    (program.bind fun _ => .pure ()).wp (history.tagged DeskCall).environment (MayOpen executor)
      (fun _ _ => True) (call, []) := by
  have closing : Keeps (Discipline executor role) Excused (fun _ _ => True) (program.bind fun _ => .pure ()) [] :=
    keeps.bind fun _ _ _ => Keeps.pure trivial
  refine Program.wp_of_history closing.verified ?_ fun _ _ _ => trivial
  intro made op permitted
  rw [Monitor.foldl_tagged, foldl_history, List.nil_append]
  rintro request (rfl | rfl)
  · exact opens made request permitted
  · exact opens made request permitted

theorem wp_desk (executor : TradeExecutor) (call : DeskCall) :
    (executor.desk call).wp (history.tagged DeskCall).environment (MayOpen executor) (fun _ _ => True)
      (call, []) := by
  cases call with
  | execute command =>
    apply wp_desk_of_keeps (keeps_execute executor command)
    intro made request permitted
    exact ⟨command, rfl, permitted.cleared, permitted.first⟩
  | reconcileUnknown key =>
    apply wp_desk_of_keeps (keeps_reconcileUnknown executor key)
    intro made request permitted
    exact permitted.cleared.elim
  | cancelPendingEntries =>
    have unsent : UnsentProgram (executor.desk .cancelPendingEntries) :=
      unsent_cancelPendingEntries.bind fun _ => trivial
    exact Program.wp_of_asks unsent (fun _ _ => mayOpen_of_unsent) _
  | closePosition ticket volume =>
    have unsent : UnsentProgram (executor.desk (.closePosition ticket volume)) :=
      Asks.bind (unsent_ask rfl) fun _ => trivial
    exact Program.wp_of_asks unsent (fun _ _ => mayOpen_of_unsent) _

end MayOpen

section Desk

variable {ι : Type} [DecidableEq ι]

abbrev DeskLabel (ι : Type) := Label Port PyError Unit ι DeskCall

def callsInProgress (labels : List (DeskLabel ι)) : ι → Option (DeskCall × List PortEvent) :=
  (history.tagged DeskCall).track (fun _ call => (call, [])) (fun _ => none) labels

/-- `async with self._execution_lock` -/
def Serialized (labels : List (DeskLabel ι)) (_ : Deployment) : DeskLabel ι → Prop
  | .start _ call => call.locks = true →
    ∀ other, (callsInProgress labels other).all (fun running => !running.1.locks) = true
  | _ => True

structure Fresh (made : List PortEvent) (broker : MockBroker) : Prop where
  positions : ∀ positions, Returned made (.broker (.getPositions none)) positions →
    ∀ name ∈ broker.positions.map (·.symbol), name ∈ positions.map (·.symbol)
  orders : ∀ orders, Returned made (.broker (.getOrders none)) orders →
    ∀ name ∈ broker.orders.map (·.symbol), name ∈ orders.map (·.symbol)

/-- The resolved symbols are those of the fixed list, and before the send the listings are fresh. -/
structure Informed (symbols : List SymbolSpecification) (broker : MockBroker) (call : DeskCall)
    (made : List PortEvent) : Prop where
  resolved : ∀ canonical spec, Returned made (.broker (.resolveSymbol canonical)) spec →
    Symbols.resolveSymbol canonical symbols = .ok spec
  fresh : call.locks = true → (progressOf made).sends = 0 → Fresh made broker

def Executed (symbols : List SymbolSpecification) (labels : List (DeskLabel ι)) (name : String) : Prop :=
  ∃ thread command spec, .start thread (.execute command) ∈ labels ∧
    Symbols.resolveSymbol command.signal.canonicalSymbol symbols = .ok spec ∧ spec.name = name

/-- The invariant of all runs from books with `initial` on them. -/
structure SinglyExposed (symbols : List SymbolSpecification) (initial : List String)
    (labels : List (DeskLabel ι)) (broker : MockBroker) : Prop where
  fixed : broker.symbols = symbols
  single : ∀ name, name ∉ initial → broker.exposedSymbols.count name ≤ 1
  origin : ∀ name ∈ broker.exposedSymbols, name ∈ initial ∨ Executed symbols labels name
  begun : ∀ thread call made, callsInProgress labels thread = some (call, made) → .start thread call ∈ labels
  informed : ∀ thread call made, callsInProgress labels thread = some (call, made) →
    Informed symbols broker call made
  exclusive : ∀ one other call made call' made', callsInProgress labels one = some (call, made) →
    callsInProgress labels other = some (call', made') → call.locks = true → call'.locks = true → one = other

/-! ### One request -/

section Request

variable {symbols : List SymbolSpecification} {broker after : MockBroker} {call : DeskCall}
  {made : List PortEvent} {op : Op} {reply : Except PyError op.Value}

theorem returned_snoc {asked : Op} {value : asked.Value} (returned : Returned (made ++ [⟨op, reply⟩]) asked value) :
    Returned made asked value ∨ (⟨asked, .ok value⟩ : PortEvent) = ⟨op, reply⟩ := by
  simpa [Returned] using returned

theorem Fresh.shrinks (fresh : Fresh made broker) (shrinks : broker.Shrinks after) : Fresh made after := by
  constructor
  · intro positions returned name member
    exact fresh.positions positions returned name (shrinks.positions.subset member)
  · intro orders returned name member
    exact fresh.orders orders returned name (shrinks.orders.subset member)

theorem Informed.shrinks (informed : Informed symbols broker call made) (shrinks : broker.Shrinks after) :
    Informed symbols after call made :=
  { resolved := informed.resolved
    fresh := fun locks unsent => (informed.fresh locks unsent).shrinks shrinks }

theorem Informed.resolved_snoc (informed : Informed symbols broker call made) (same : broker.symbols = symbols)
    (answered : broker.answers ⟨op, reply⟩ after) {canonical : String} {spec : SymbolSpecification}
    (returned : Returned (made ++ [⟨op, reply⟩]) (.broker (.resolveSymbol canonical)) spec) :
    Symbols.resolveSymbol canonical symbols = .ok spec := by
  rcases returned_snoc returned with earlier | last
  · exact informed.resolved canonical spec earlier
  · cases last
    rw [← same]
    exact MockBroker.answers_resolved answered

theorem Fresh.snoc (fresh : Fresh made broker) (shrinks : broker.Shrinks after)
    (answered : broker.answers ⟨op, reply⟩ after) : Fresh (made ++ [⟨op, reply⟩]) after := by
  have earlier := fresh.shrinks shrinks
  constructor
  · intro positions returned name member
    rcases returned_snoc returned with before | last
    · exact earlier.positions positions before name member
    · cases last
      rwa [MockBroker.answers_positions answered]
  · intro orders returned name member
    rcases returned_snoc returned with before | last
    · exact earlier.orders orders before name member
    · cases last
      rwa [MockBroker.answers_orders answered]

theorem unsent_before {event : PortEvent} (unsent : (progressOf (made ++ [event])).sends = 0) :
    event.1.isSend = false ∧ (progressOf made).sends = 0 := by
  rw [progressOf_append_singleton, ((progressOf made).observe_counts event).1] at unsent
  cases sends : event.1.isSend with
  | true => simp [sends] at unsent
  | false => simpa [sends] using unsent

theorem Informed.snoc (informed : Informed symbols broker call made) (same : broker.symbols = symbols)
    (answered : broker.answers ⟨op, reply⟩ after) : Informed symbols after call (made ++ [⟨op, reply⟩]) := by
  constructor
  · exact fun canonical spec returned => informed.resolved_snoc same answered returned
  · intro locks unsent
    obtain ⟨reads, before⟩ := unsent_before unsent
    exact (informed.fresh locks before).snoc (MockBroker.answers_shrinks reads answered) answered

end Request

theorem Informed.cleared {executor : TradeExecutor} {symbols : List SymbolSpecification} {broker : MockBroker}
    {command : ExecutionCommand} {made : List PortEvent} {request : OrderRequest}
    (informed : Informed symbols broker (.execute command) made)
    (cleared : Cleared executor command made request) (unsent : (progressOf made).sends = 0) :
    (DeskCall.execute command).locks = true ∧ request.symbol ∉ broker.exposedSymbols ∧
      ∃ spec, Symbols.resolveSymbol command.signal.canonicalSymbol symbols = .ok spec ∧
        spec.name = request.symbol := by
  obtain ⟨clearance, granted⟩ := cleared
  have named : request.symbol = clearance.sized.spec.name := granted.built_values.1
  have locks : (DeskCall.execute command).locks = true := by
    simp [DeskCall.locks, granted.permitted.executes]
  have fresh := informed.fresh locks unsent
  refine ⟨locks, ?_, clearance.sized.spec, informed.resolved _ _ granted.symbol, named.symm⟩
  -- the gates refuse a symbol that is in one of the listings
  have counted : request.symbol ∈ RiskGateValidator.exposureSymbols (clearance.snapshot command) := by
    rw [named]
    exact List.mem_cons_self
  intro exposed
  rcases List.mem_append.mp exposed with held | working
  · obtain ⟨position, listed, same⟩ := List.mem_map.mp (fresh.positions _ granted.exposure.positions _ held)
    exact granted.gates.noPosition position listed (same ▸ counted)
  · obtain ⟨order, listed, same⟩ := List.mem_map.mp (fresh.orders _ granted.exposure.orders _ working)
    exact (granted.gates.noOrder order listed).1 (same ▸ counted)

omit [DecidableEq ι] in
theorem Executed.snoc {symbols : List SymbolSpecification} {labels : List (DeskLabel ι)} {name : String}
    (executed : Executed symbols labels name) (label : DeskLabel ι) : Executed symbols (labels ++ [label]) name := by
  obtain ⟨thread, command, spec, started, resolved⟩ := executed
  exact ⟨thread, command, spec, List.mem_append_left _ started, resolved⟩

/-! ### One step of a run -/

namespace SinglyExposed

variable {symbols : List SymbolSpecification} {initial : List String} {labels : List (DeskLabel ι)}
  {broker after : MockBroker} {thread : ι}

theorem start {call : DeskCall} (kept : SinglyExposed symbols initial labels broker)
    (serialized : call.locks = true →
      ∀ other, (callsInProgress labels other).all (fun running => !running.1.locks) = true) :
    SinglyExposed symbols initial (labels ++ [.start thread call]) broker := by
  have calls : callsInProgress (labels ++ [.start thread call]) =
      Function.update (callsInProgress labels) thread (some (call, [])) := Monitor.track_snoc ..
  have unlocked : ∀ other running made, call.locks = true → callsInProgress labels other = some (running, made) →
      running.locks ≠ true := by
    intro other running made locks present
    simpa [present] using serialized locks other
  refine ⟨kept.fixed, kept.single, ?_, ?_, ?_, ?_⟩
  · exact fun name member => (kept.origin name member).imp_right (·.snoc _)
  · intro other running made present
    rw [calls, update_eq_some] at present
    obtain ⟨rfl, ⟨⟩⟩ | ⟨_, present⟩ := present
    · simp
    · exact List.mem_append_left _ (kept.begun other running made present)
  · intro other running made present
    rw [calls, update_eq_some] at present
    obtain ⟨_, ⟨⟩⟩ | ⟨_, present⟩ := present
    · exact ⟨by simp [Returned], fun _ _ => ⟨by simp [Returned], by simp [Returned]⟩⟩
    · exact kept.informed other running made present
  · intro one other running made running' made' first second locks locks'
    rw [calls, update_eq_some] at first second
    obtain ⟨rfl, ⟨⟩⟩ | ⟨_, first⟩ := first
    · obtain ⟨rfl, _⟩ | ⟨_, second⟩ := second
      · rfl
      · exact absurd locks' (unlocked other running' made' locks second)
    · obtain ⟨_, ⟨⟩⟩ | ⟨_, second⟩ := second
      · exact absurd locks (unlocked one running made locks' first)
      · exact kept.exclusive one other running made running' made' first second locks locks'

theorem leave {label : DeskLabel ι} (kept : SinglyExposed symbols initial labels broker)
    (calls : callsInProgress (labels ++ [label]) = Function.update (callsInProgress labels) thread none) :
    SinglyExposed symbols initial (labels ++ [label]) broker := by
  have before : ∀ other running, callsInProgress (labels ++ [label]) other = some running →
      callsInProgress labels other = some running := by
    intro other running present
    rw [calls, update_eq_some] at present
    obtain ⟨_, ⟨⟩⟩ | ⟨_, present⟩ := present
    exact present
  refine ⟨kept.fixed, kept.single, ?_, ?_, ?_, ?_⟩
  · exact fun name member => (kept.origin name member).imp_right (·.snoc _)
  · intro other running made present
    exact List.mem_append_left _ (kept.begun other running made (before _ _ present))
  · intro other running made present
    exact kept.informed other running made (before _ _ present)
  · intro one other running made running' made' first second
    exact kept.exclusive one other running made running' made' (before _ _ first) (before _ _ second)

section Event

variable {call : DeskCall} {made : List PortEvent} {op : Op} {reply : Except PyError op.Value}

variable (kept : SinglyExposed symbols initial labels broker)
    (running : callsInProgress labels thread = some (call, made))
include kept running

theorem event_of_books (answered : broker.answers ⟨op, reply⟩ after) (fixed : after.symbols = broker.symbols)
    (single : ∀ name, name ∉ initial → after.exposedSymbols.count name ≤ 1)
    (origin : ∀ name ∈ after.exposedSymbols, name ∈ initial ∨ Executed symbols labels name)
    (others : ∀ other running made, other ≠ thread → callsInProgress labels other = some (running, made) →
      Informed symbols after running made) :
    SinglyExposed symbols initial (labels ++ [.event thread ⟨op, reply⟩]) after := by
  have calls : callsInProgress (labels ++ [.event thread ⟨op, reply⟩]) =
      Function.update (callsInProgress labels) thread (some (call, made ++ [⟨op, reply⟩])) :=
    Monitor.track_event running
  -- every call in progress was in progress before, as the same call
  have before : ∀ other running later,
      callsInProgress (labels ++ [.event thread ⟨op, reply⟩]) other = some (running, later) →
      ∃ earlier, callsInProgress labels other = some (running, earlier) := by
    intro other running' later present
    rw [calls, update_eq_some] at present
    obtain ⟨rfl, ⟨⟩⟩ | ⟨_, present⟩ := present
    · exact ⟨made, running⟩
    · exact ⟨later, present⟩
  refine ⟨fixed.trans kept.fixed, single, ?_, ?_, ?_, ?_⟩
  · exact fun name member => (origin name member).imp_right (·.snoc _)
  · intro other running later present
    obtain ⟨earlier, begun⟩ := before other running later present
    exact List.mem_append_left _ (kept.begun other running earlier begun)
  · intro other running' later present
    rw [calls, update_eq_some] at present
    obtain ⟨rfl, ⟨⟩⟩ | ⟨different, present⟩ := present
    · exact (kept.informed other call made running).snoc kept.fixed answered
    · exact others other running' later different present
  · intro one other running later running' later' first second
    obtain ⟨earlier, first⟩ := before one running later first
    obtain ⟨earlier', second⟩ := before other running' later' second
    exact kept.exclusive one other running earlier running' earlier' first second

theorem event {executor : TradeExecutor} (permitted : MayOpen executor (call, made) op)
    (answered : broker.answers ⟨op, reply⟩ after) :
    SinglyExposed symbols initial (labels ++ [.event thread ⟨op, reply⟩]) after := by
  cases sends : op.isSend with
  | false =>
    have shrinks := MockBroker.answers_shrinks sends answered
    apply kept.event_of_books running answered shrinks.symbols
    · exact fun name new => (shrinks.exposed.count_le name).trans (kept.single name new)
    · exact fun name member => kept.origin name (shrinks.exposed.subset member)
    · exact fun other running made _ present => (kept.informed other running made present).shrinks shrinks
  | true =>
    obtain ⟨request, sending⟩ : ∃ request, Sends op request := sends_of_isSend sends
    obtain ⟨command, rfl, cleared, unsent⟩ := permitted request sending
    obtain ⟨locks, absent, spec, resolved, named⟩ :=
      (kept.informed thread _ made running).cleared cleared unsent
    have opens := MockBroker.answers_opens sending answered
    apply kept.event_of_books running answered opens.symbols
    · intro name new
      have more := opens.exposed name
      have before := kept.single name new
      by_cases same : request.symbol = name
      · have none_before : broker.exposedSymbols.count name = 0 := List.count_eq_zero.mpr (same ▸ absent)
        simp only [same, if_true] at more
        omega
      · simp only [same, if_false] at more
        omega
    · intro name member
      rcases opens.mem_exposed member with rfl | earlier
      · exact .inr ⟨thread, command, spec, kept.begun thread _ made running, resolved, named⟩
      · exact kept.origin name earlier
    · -- nobody else holds the lock, so nobody else relies on a listing
      intro other running' made' apart present
      have informed := kept.informed other running' made' present
      refine ⟨informed.resolved, fun locks' _ => ?_⟩
      exact absurd (kept.exclusive other thread _ _ _ _ present running locks' locks) apart

end Event

end SinglyExposed

/-! ## Whole runs -/

theorem singlyExposed_of_run {executor : TradeExecutor} {start : Deployment} {labels : List (DeskLabel ι)}
    {pool : Pool Port PyError Unit Deployment ι}
    (run : Pool.RunWhen Serialized exchange (fun _ => executor.desk) (Pool.idle start) labels pool) :
    SinglyExposed start.broker.symbols start.broker.exposedSymbols labels pool.shared.broker := by
  refine run.invariant (fun _ => none)
    (fun labels state => SinglyExposed start.broker.symbols start.broker.exposedSymbols labels state.broker)
    (fun _ call => wp_desk executor call) (fun _ => trivial) ?initial ?started ?event ?finish ?crash
  case initial =>
    refine ⟨rfl, fun name absent => ?_, fun name member => .inl member, ?_, ?_, ?_⟩
    · have none_there : start.broker.exposedSymbols.count name = 0 := List.count_eq_zero.mpr absent
      show start.broker.exposedSymbols.count name ≤ 1
      omega
    · simp [callsInProgress]
    · simp [callsInProgress]
    · simp [callsInProgress]
  case started =>
    intro labels state thread call kept _ serialized
    exact kept.start serialized
  case event =>
    intro labels state thread observed made after kept running _ permitted step
    exact kept.event running permitted step.2
  case finish =>
    intro labels state thread observed result kept _ _ _
    exact kept.leave (Monitor.track_snoc ..)
  case crash =>
    intro labels state thread kept _
    exact kept.leave (Monitor.track_snoc ..)

/-- The broker symbols of a canonical symbol. -/
def tradedSymbols (canonicalSymbol : String) (symbols : List SymbolSpecification) : List String :=
  equivalentSymbols canonicalSymbol symbols ++
    (Symbols.resolveSymbol canonicalSymbol symbols).toOption.toList.map (·.name)

def RespectsSymbol (canonicalSymbol : String) (symbols : List SymbolSpecification) (signal : TradeSignal) : Prop :=
  Symbols.canonicalizeSymbol signal.canonicalSymbol = Symbols.canonicalizeSymbol canonicalSymbol ∨
    ∀ spec, Symbols.resolveSymbol signal.canonicalSymbol symbols = .ok spec →
      spec.name ∉ tradedSymbols canonicalSymbol symbols

omit [DecidableEq ι] in
theorem Executed.resolved {canonicalSymbol : String} {symbols : List SymbolSpecification}
    {labels : List (DeskLabel ι)} {name : String} (executed : Executed symbols labels name)
    (respecting : ∀ thread command, .start thread (.execute command) ∈ labels →
      RespectsSymbol canonicalSymbol symbols command.signal)
    (member : name ∈ tradedSymbols canonicalSymbol symbols) :
    ∃ spec, Symbols.resolveSymbol canonicalSymbol symbols = .ok spec ∧ spec.name = name := by
  obtain ⟨thread, command, spec, started, resolved, named⟩ := executed
  rcases respecting thread command started with same | elsewhere
  · exact ⟨spec, by rw [← resolved, Symbols.resolveSymbol, Symbols.resolveSymbol, same], named⟩
  · exact absurd (named ▸ member) (elsewhere spec resolved)

/-- **At most one exposure on the traded symbol**, for one executor on the mock broker. -/
theorem at_most_one_exposure (executor : TradeExecutor) (canonicalSymbol : String) {start : Deployment}
    {labels : List (DeskLabel ι)} {pool : Pool Port PyError Unit Deployment ι}
    (clear : ∀ name ∈ tradedSymbols canonicalSymbol start.broker.symbols, name ∉ start.broker.exposedSymbols)
    (run : Pool.RunWhen Serialized exchange (fun _ => executor.desk) (Pool.idle start) labels pool) :
    (∀ name ∈ tradedSymbols canonicalSymbol start.broker.symbols, pool.shared.broker.exposureOn [name] ≤ 1) ∧
    ((∀ thread command, .start thread (.execute command) ∈ labels →
        RespectsSymbol canonicalSymbol start.broker.symbols command.signal) →
      pool.shared.broker.exposureOn (tradedSymbols canonicalSymbol start.broker.symbols) ≤ 1) := by
  have kept := singlyExposed_of_run run
  have single : ∀ name ∈ tradedSymbols canonicalSymbol start.broker.symbols,
      pool.shared.broker.exposureOn [name] ≤ 1 := by
    intro name member
    have counted : pool.shared.broker.exposureOn [name] = pool.shared.broker.exposedSymbols.count name := by
      simp [MockBroker.exposureOn, List.count, beq_eq_decide]
    rw [counted]
    exact kept.single name (clear name member)
  refine ⟨single, fun respecting => ?_⟩
  -- everything on the traded symbols is on the one they resolve to
  have resolved : ∀ name ∈ pool.shared.broker.exposedSymbols,
      name ∈ tradedSymbols canonicalSymbol start.broker.symbols →
      ∃ spec, Symbols.resolveSymbol canonicalSymbol start.broker.symbols = .ok spec ∧ spec.name = name := by
    intro name exposed member
    rcases kept.origin name exposed with before | executed
    · exact absurd before (clear name member)
    · exact executed.resolved respecting member
  cases found : Symbols.resolveSymbol canonicalSymbol start.broker.symbols with
  | error error =>
    have nothing : pool.shared.broker.exposureOn (tradedSymbols canonicalSymbol start.broker.symbols) = 0 := by
      refine List.countP_eq_zero.mpr fun name exposed member => ?_
      obtain ⟨spec, other, _⟩ := resolved name exposed (of_decide_eq_true member)
      simp [found] at other
    omega
  | ok spec =>
    have fewer : pool.shared.broker.exposureOn (tradedSymbols canonicalSymbol start.broker.symbols) ≤
        pool.shared.broker.exposureOn [spec.name] := by
      refine List.countP_mono_left fun name exposed member => ?_
      obtain ⟨other, same, named⟩ := resolved name exposed (of_decide_eq_true member)
      rw [found] at same
      cases same
      simp [named]
    exact fewer.trans (single spec.name (by simp [tradedSymbols, found, Except.toOption]))

end Desk

namespace Demo

theorem respond_within_exchange (script : Script) : script.responder.Within exchange id := by
  intro state op
  refine ⟨script.respond_within state op, ?_⟩
  cases op with
  | broker => exact ⟨state.broker, .refl _, rfl⟩
  | _ => exact MockBroker.SameBooks.refl _

def secondCommand : ExecutionCommand :=
  { command with signal := { signal with signalId := ⟨"9c858901-8a57-4791-81fe-4c455b099bc9"⟩ } }

def twoSignals : List (Turn Bool DeskCall) :=
  [.start false (.execute command)] ++ List.replicate 40 (.step false) ++
    [.start false (.execute secondCommand)] ++ List.replicate 40 (.step false)

instance (labels : List (DeskLabel Bool)) (state : Deployment) (label : DeskLabel Bool) :
    Decidable (Serialized labels state label) :=
  match label with
  | .start _ _ => inferInstanceAs (Decidable (_ → _))
  | .event _ _ | .finish _ _ | .crash _ => .isTrue trivial

def exposureRun : List (DeskLabel Bool) × Pool Port PyError Unit Deployment Bool :=
  Pool.schedule quiet.responder (fun _ => (executor .inMemory).desk)
    (Pool.idle (deployment [.timeoutAfterAccept])) twoSignals

end Demo

open Demo

theorem at_most_one_exposure_demo :
    exposureRun.2.shared.broker.exposureOn
        (tradedSymbols "XAUUSD" [MockBroker.goldSpecification]) = 1 ∧
      ∀ name ∈ tradedSymbols "XAUUSD" [MockBroker.goldSpecification],
        exposureRun.2.shared.broker.exposureOn [name] ≤ 1 := by
  obtain ⟨meets, counted⟩ :
      Pool.ScheduleMeets Serialized id quiet.responder (fun _ => (executor .inMemory).desk) []
        (Pool.idle (deployment [.timeoutAfterAccept])) twoSignals ∧
      exposureRun.2.shared.broker.exposureOn (tradedSymbols "XAUUSD" [MockBroker.goldSpecification]) = 1 := by
    decide +kernel
  have run : Pool.RunWhen Serialized exchange (fun _ => (executor .inMemory).desk)
      (Pool.idle (deployment [.timeoutAfterAccept])) exposureRun.1 exposureRun.2 :=
    Pool.RunWhen.schedule (respond_within_exchange quiet) .nil meets
  refine ⟨counted, (at_most_one_exposure (executor .inMemory) "XAUUSD" ?_ run).1⟩
  decide +kernel

end GoldFlow
