import GoldFlow.Brokers.Mock

/-! # The books of the mock broker

Which symbols the open positions and the pending orders are on.
-/

namespace GoldFlow

namespace MockBroker

/-- The symbols of the open positions and of the pending orders. -/
def exposedSymbols (broker : MockBroker) : List String :=
  broker.positions.map (·.symbol) ++ broker.orders.map (·.symbol)

/-- The number of open positions and pending orders on these symbols. -/
def exposureOn (broker : MockBroker) (names : List String) : Nat :=
  broker.exposedSymbols.countP (· ∈ names)

structure SameBooks (before after : MockBroker) : Prop where
  symbols : after.symbols = before.symbols
  positions : after.positions = before.positions
  orders : after.orders = before.orders
  reports : after.reports = before.reports
  ticketSequence : after.ticketSequence = before.ticketSequence
  closeCalls : after.closeCalls = before.closeCalls

theorem SameBooks.refl (broker : MockBroker) : SameBooks broker broker :=
  ⟨rfl, rfl, rfl, rfl, rfl, rfl⟩

/-- Nothing is opened: what is on the books was on the books. -/
structure Shrinks (before after : MockBroker) : Prop where
  symbols : after.symbols = before.symbols
  positions : (after.positions.map (·.symbol)).Sublist (before.positions.map (·.symbol))
  orders : (after.orders.map (·.symbol)).Sublist (before.orders.map (·.symbol))

/-- At most one more position or order, on `symbol`. -/
structure Opens (before : MockBroker) (symbol : String) (after : MockBroker) : Prop where
  symbols : after.symbols = before.symbols
  exposed : ∀ name, after.exposedSymbols.count name ≤
    before.exposedSymbols.count name + if symbol = name then 1 else 0

variable {before middle after broker : MockBroker} {symbol : String}

theorem SameBooks.shrinks (same : SameBooks before after) : Shrinks before after := by
  obtain ⟨symbols, positions, orders, _⟩ := same
  refine ⟨symbols, ?_, ?_⟩
  · rw [positions]
  · rw [orders]

namespace Shrinks

theorem refl (broker : MockBroker) : Shrinks broker broker := (SameBooks.refl broker).shrinks

theorem trans (first : Shrinks before middle) (second : Shrinks middle after) : Shrinks before after :=
  { symbols := second.symbols.trans first.symbols
    positions := second.positions.trans first.positions
    orders := second.orders.trans first.orders }

theorem exposed (shrinks : Shrinks before after) : after.exposedSymbols.Sublist before.exposedSymbols :=
  shrinks.positions.append shrinks.orders

end Shrinks

theorem opens_of_unchanged (symbols : after.symbols = before.symbols) (positions : after.positions = before.positions)
    (orders : after.orders = before.orders) : Opens before symbol after := by
  refine ⟨symbols, fun name => ?_⟩
  simp [exposedSymbols, positions, orders]

theorem Opens.of_same (same : SameBooks before middle) (opens : Opens middle symbol after) :
    Opens before symbol after := by
  refine ⟨opens.symbols.trans same.symbols, fun name => ?_⟩
  have fewer := same.shrinks.exposed.count_le name
  have more := opens.exposed name
  omega

theorem Opens.mem_exposed (opens : Opens before symbol after) {name : String}
    (member : name ∈ after.exposedSymbols) : name = symbol ∨ name ∈ before.exposedSymbols := by
  have present := List.count_pos_iff.mpr member
  have more := opens.exposed name
  by_cases same : symbol = name
  · exact .inl same.symm
  · rw [if_neg same] at more
    exact .inr (List.count_pos_iff.mp (by omega))

section Sends

variable {request : OrderRequest} {pending : Bool}

theorem book_opens {ticket : String} {price : Decimal} {booked : MockBroker}
    (made : broker.book request pending ticket price = .ok booked) : Opens broker request.symbol booked := by
  cases pending with
  | true =>
    cases made
    refine ⟨rfl, fun name => ?_⟩
    simp only [exposedSymbols, List.count_append]
    rw [Nat.add_assoc]
    exact Nat.add_le_add_left (Data.count_map_upsert_le BrokerOrder.symbol name) _
  | false =>
    simp only [book, BrokerPosition.make, Bool.false_eq_true, if_false] at made
    split at made
    · cases made
      refine ⟨rfl, fun name => ?_⟩
      simp only [exposedSymbols, List.count_append]
      rw [Nat.add_right_comm]
      exact Nat.add_le_add_right (Data.count_map_upsert_le BrokerPosition.symbol name) _
    · cases made

theorem place_opens (broker : MockBroker) (request : OrderRequest) (pending : Bool) :
    Opens broker request.symbol (broker.place request pending).2 := by
  unfold place
  split
  · exact opens_of_unchanged rfl rfl rfl
  · dsimp only
    split
    · exact opens_of_unchanged rfl rfl rfl
    · split
      · exact opens_of_unchanged rfl rfl rfl
      · split
        · exact opens_of_unchanged rfl rfl rfl
        · split
          · exact opens_of_unchanged rfl rfl rfl
          · unfold accept
            dsimp only
            split
            next => exact opens_of_unchanged rfl rfl rfl
            next booked made =>
              -- the answer may be lost, but the order is booked
              obtain ⟨symbols, exposed⟩ := book_opens made
              split <;> exact ⟨symbols, exposed⟩

theorem placeMarketOrder_opens (broker : MockBroker) (request : OrderRequest) :
    Opens broker request.symbol (broker.placeMarketOrder request).2 := by
  unfold placeMarketOrder
  split
  · exact opens_of_unchanged rfl rfl rfl
  · exact place_opens broker request false

theorem placePendingOrder_opens (broker : MockBroker) (request : OrderRequest) :
    Opens broker request.symbol (broker.placePendingOrder request).2 := by
  unfold placePendingOrder
  split
  · exact opens_of_unchanged rfl rfl rfl
  · split
    · exact opens_of_unchanged rfl rfl rfl
    · exact place_opens broker request true

end Sends

/-! ## Changes of what is there -/

theorem modifyPosition_shrinks (broker : MockBroker) (ticket : String) (stopLoss : Decimal)
    (takeProfit : Option Decimal) : Shrinks broker (broker.modifyPosition ticket stopLoss takeProfit).2 := by
  unfold modifyPosition
  split
  · exact .refl broker
  · split
    next positive =>
      split
      · refine ⟨rfl, ?_, List.Sublist.refl _⟩
        have same : ∀ position : BrokerPosition,
            (if position.ticket = ticket then reprotect position stopLoss takeProfit positive
              else position).symbol = position.symbol := by
          intro position
          split <;> rfl
        simp [Function.comp_def, same]
      · exact .refl broker
    next => exact .refl broker

theorem closePosition_shrinks (broker : MockBroker) (ticket : String) (volume : Option Decimal) :
    Shrinks broker (broker.closePosition ticket volume).2 := by
  unfold closePosition
  split
  · exact .refl broker
  · dsimp only
    split
    next => exact ⟨rfl, List.Sublist.refl _, List.Sublist.refl _⟩
    next position found =>
      split
      · exact ⟨rfl, List.Sublist.refl _, List.Sublist.refl _⟩
      · split
        next remains =>
          refine ⟨rfl, ?_, List.Sublist.refl _⟩
          have owns : position.ticket = ticket := by simpa using List.find?_some found
          have listed : Data.lookup BrokerPosition.ticket position.ticket broker.positions = some position := by
            rw [owns, ← found]
            simp [Data.lookup, beq_eq_decide]
          have kept : (Data.upsert BrokerPosition.ticket (reduce position _ remains) broker.positions).map
              BrokerPosition.symbol = broker.positions.map BrokerPosition.symbol :=
            Data.map_upsert_of_lookup listed rfl
          exact kept ▸ List.Sublist.refl _
        next => exact ⟨rfl, List.filter_sublist.map _, List.Sublist.refl _⟩

theorem cancelOrder_shrinks (broker : MockBroker) (ticket : String) :
    Shrinks broker (broker.cancelOrder ticket).2 := by
  unfold cancelOrder
  split
  · exact .refl broker
  · exact ⟨rfl, List.Sublist.refl _, List.filter_sublist.map _⟩

end MockBroker

end GoldFlow
