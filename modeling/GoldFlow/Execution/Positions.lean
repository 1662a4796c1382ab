import GoldFlow.Ports
import Mathlib.Algebra.Order.Floor.Defs

/-! # Position manager -/

namespace GoldFlow

open Effect

/-- How a trailing stop is placed. -/
inductive TrailingStop where
  | atr (range multiple : Decimal)
  | fixed (distance : Decimal)
  | structure (stop : Decimal)
  deriving DecidableEq

namespace PositionManager

/-- `_position` -/
def position (ticket : String) : Py BrokerPosition := do
  let positions ← askBroker (.getPositions none)
  match positions.find? (·.ticket = ticket) with
  | some position => pure position
  | none => .raise (.broker .broker ("position " ++ ticket ++ " was not found"))

/-- The fraction of the volume, rounded down to the step with the digits that `Decimal` has. -/
def closeVolume (position : BrokerPosition) (fraction : Decimal) (spec : SymbolSpecification) : Decimal :=
  let rawClose := Decimal.rounded (position.volume * fraction)
  Decimal.rounded (⌊Decimal.rounded (rawClose / spec.volumeStep)⌋ * spec.volumeStep)

def partialClose (ticket : String) (fraction : Decimal) : Py PositionAction :=
  if fraction ≤ 0 ∨ 1 < fraction then .raise (.value "partial-close fraction must be in (0, 1]")
  else do
    let position ← position ticket
    if fraction = 1 then do
      let report ← askBroker (.closePosition ticket none)
      pure { applied := report.success, reason := "POSITION_CLOSED", report := some report }
    else do
      let spec ← askBroker (.resolveSymbol position.symbol)
      let volume := closeVolume position fraction spec
      let remaining := Decimal.rounded (position.volume - volume)
      if volume < spec.volumeMin then
        pure { applied := false, reason := "PARTIAL_VOLUME_BELOW_BROKER_MINIMUM", position := some position }
      else if remaining ≠ 0 ∧ remaining < spec.volumeMin then
        pure { applied := false, reason := "PARTIAL_CLOSE_LEAVES_INVALID_REMAINDER", position := some position }
      else do
        let report ← askBroker (.closePosition ticket (some volume))
        pure { applied := report.success, reason := "PARTIAL_CLOSE_EXECUTED", report := some report }

/-- A stop that is nearer to the price than the present one. -/
def improves (position : BrokerPosition) (stop : Decimal) : Bool :=
  match position.direction with
  | .long => position.stopLoss < stop
  | .short => stop < position.stopLoss

/-- A stop on the right side of the price. -/
def protects (position : BrokerPosition) (stop : Decimal) : Bool :=
  match position.direction with
  | .long => stop < position.currentPrice
  | .short => position.currentPrice < stop

/-- `modify_position` with a new stop, and what the broker then shows. -/
def moveStop (position : BrokerPosition) (stop : Decimal) (applied rejected : String) : Py PositionAction := do
  let modified ← askBroker (.modifyPosition position.ticket stop position.takeProfit)
  if modified then do
    let moved ← PositionManager.position position.ticket
    pure { applied := true, reason := applied, position := some moved }
  else pure { applied := false, reason := rejected, position := some position }

def moveToBreakEven (ticket : String) (spread slippage : Decimal) (commission : Decimal := 0) :
    Py PositionAction :=
  if spread < 0 ∨ commission < 0 ∨ slippage < 0 then
    .raise (.value "break-even cost components cannot be negative")
  else do
    let position ← position ticket
    let target := position.openPrice + position.direction.sign * (spread + commission + slippage)
    if !improves position target then
      pure { applied := false, reason := "BREAK_EVEN_WOULD_NOT_IMPROVE_STOP", position := some position }
    else if !protects position target then
      pure { applied := false, reason := "PRICE_HAS_NOT_CLEARED_BREAK_EVEN_BUFFER", position := some position }
    else moveStop position target "BREAK_EVEN_APPLIED" "BREAK_EVEN_BROKER_REJECTED"

/-- The stop a mode asks for. -/
def trailingCandidate (position : BrokerPosition) : TrailingStop → Except PyError Decimal
  | .fixed distance =>
    if distance ≤ 0 then .error (.value "fixed trailing requires a positive distance")
    else .ok (position.currentPrice - position.direction.sign * distance)
  | .atr range multiple =>
    if range ≤ 0 ∨ multiple ≤ 0 then .error (.value "ATR trailing requires positive ATR and multiple")
    else .ok (position.currentPrice - position.direction.sign * (range * multiple))
  | .structure stop =>
    if stop ≤ 0 then .error (.value "structure trailing requires a positive structure stop") else .ok stop

def trail (trailingEnabled : Bool) (ticket : String) (mode : TrailingStop) : Py PositionAction :=
  if !trailingEnabled then pure { applied := false, reason := "TRAILING_DISABLED" }
  else do
    let position ← position ticket
    let candidate ← Program.ofExcept (trailingCandidate position mode)
    if !improves position candidate || !protects position candidate then
      pure { applied := false, reason := "TRAILING_STOP_NOT_AN_IMPROVEMENT", position := some position }
    else moveStop position candidate "TRAILING_STOP_APPLIED" "TRAILING_STOP_BROKER_REJECTED"

end PositionManager

end GoldFlow
