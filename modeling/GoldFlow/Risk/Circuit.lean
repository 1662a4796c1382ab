import GoldFlow.Ports
import GoldFlow.Risk.Permission

/-! # Circuit breaker and position sizer -/

namespace GoldFlow

open Effect
open Program (Asks)

structure CircuitBreaker where
  limits : RiskLimits
  dailyResetHourUtc : Nat := 0
  weeklyResetWeekday : Nat := 0
  hour_valid : dailyResetHourUtc ≤ 23
  weekday_valid : weeklyResetWeekday ≤ 6

/-- `CircuitBreaker(limits, store)`, with the default reset times. -/
def CircuitBreaker.ofLimits (limits : RiskLimits) : CircuitBreaker :=
  { limits, hour_valid := by decide, weekday_valid := by decide }

/-- `day.weekday()`, Monday being 0; day 0 was a Thursday. -/
def weekday (day : Int) : Int := (day + 3) % 7

/-- `_week_start` -/
def weekStart (day : Int) (resetWeekday : Nat) : Int := day - (weekday day - resetWeekday) % 7

/-- The UTC date of an instant. -/
def dayOf (now : Instant) : Int := now / seconds 86400

namespace CircuitBreaker

variable (breaker : CircuitBreaker) {only : Op → Prop}

/-- `_period_keys` -/
def periodKeys (now : Instant) : Int × Int :=
  let shiftedDay := dayOf (now - seconds (3600 * breaker.dailyResetHourUtc))
  (shiftedDay, weekStart shiftedDay breaker.weeklyResetWeekday)

def get (accountId : String) (now : Instant) : Py CircuitState := do
  let (dayKey, weekKey) := breaker.periodKeys now
  match ← askCircuit (.load accountId) with
  | none => pure { accountId, day := dayKey, weekStart := weekKey, updatedAt := now }
  | some state =>
    let dailyLocked := if state.day = dayKey then state.dailyLocked else false
    let weeklyLocked := if state.weekStart = weekKey then state.weeklyLocked else false
    if state.day ≠ dayKey ∨ state.weekStart ≠ weekKey ∨ dailyLocked ≠ state.dailyLocked ∨
        weeklyLocked ≠ state.weeklyLocked then
      askCircuit (.save
        { state with day := dayKey, weekStart := weekKey, dailyLocked, weeklyLocked, updatedAt := now }
        state.version)
    else
      pure state

/-- The state `evaluate` wants to store. -/
def evaluated (state : CircuitState) (account : AccountSnapshot) (usage : RiskUsage) (now : Instant) :
    CircuitState :=
  let dailyUsed := usage.dailyRealizedLoss + usage.openRisk
  let weeklyUsed := usage.weeklyRealizedLoss + usage.openRisk
  let dailyLocked := state.dailyLocked || (account.equity ≤ 0 ||
    account.equity * breaker.limits.maximumDailyLoss ≤ dailyUsed)
  let weeklyLocked := state.weeklyLocked || (account.equity ≤ 0 ||
    account.equity * breaker.limits.maximumWeeklyLoss ≤ weeklyUsed)
  let accountLocked := state.accountLocked || usage.peakEquity.any fun peak =>
    breaker.limits.maximumAccountDrawdown ≤ accountDrawdown peak account.equity
  let reasons :=
    reasonIf dailyLocked "DAILY_LOSS_LIMIT_REACHED" ++
    reasonIf weeklyLocked "WEEKLY_LOSS_LIMIT_REACHED" ++
    reasonIf accountLocked "ACCOUNT_DRAWDOWN_LIMIT_REACHED"
  { state with
    dailyLocked, weeklyLocked, accountLocked
    manualReenableRequired := state.manualReenableRequired || accountLocked
    reason := if reasons.isEmpty then state.reason else ", ".intercalate reasons
    updatedAt := now }

def evaluate (account : AccountSnapshot) (usage : RiskUsage) (now : Instant) : Py CircuitState := do
  let state ← breaker.get account.accountId now
  let updated := breaker.evaluated state account usage now
  if updated = state then pure state else askCircuit (.save updated state.version)

def activateKillSwitch (accountId : String) (now : Instant) : Py CircuitState := do
  let state ← breaker.get accountId now
  askCircuit (.save
    { state with killSwitch := true, reason := "KILL_SWITCH_ACTIVE", updatedAt := now } state.version)

def manualReset (accountId : String) (now : Instant) (authorized clearKillSwitch : Bool) :
    Py CircuitState := do
  Program.raiseIf (!authorized) (.permission "manual circuit reset requires authorization")
  let state ← breaker.get accountId now
  askCircuit (.save
    { state with
      dailyLocked := false
      weeklyLocked := false
      accountLocked := false
      killSwitch := if clearKillSwitch then false else state.killSwitch
      manualReenableRequired := false
      reason := "MANUAL_RESET"
      updatedAt := now } state.version)

/-! The breaker talks to nothing but its store. -/

theorem asks_get (circuit : ∀ op, only (.circuit op)) (accountId : String) (now : Instant) :
    Asks (S := Port) only (breaker.get accountId now) := by
  apply Asks.bind (Asks.perform (circuit _))
  intro found
  cases found with
  | none => exact trivial
  | some => exact Asks.ite (Asks.perform (circuit _)) trivial

end CircuitBreaker

namespace PositionSizer

/-- The largest volume on the broker's lattice that is at most `capped`. -/
def roundedVolume (symbol : SymbolSpecification) (capped : Decimal) : Decimal :=
  symbol.volumeMin + ⌊(capped - symbol.volumeMin) / symbol.volumeStep⌋ * symbol.volumeStep

def calculate (account : AccountSnapshot) (symbol : SymbolSpecification) (direction : Direction)
    (entryPrice stopLoss riskFraction : Decimal) : Py PositionSizingResult := do
  Program.raiseIf (account.equity ≤ 0 || account.freeMargin ≤ 0)
    (.riskRejected "ACCOUNT_EQUITY_OR_FREE_MARGIN_INVALID")
  Program.raiseIf (riskFraction ≤ 0 || 1 < riskFraction) (.riskRejected "RISK_FRACTION_INVALID")
  Program.raiseIf (entryPrice ≤ 0 || stopLoss ≤ 0 || entryPrice == stopLoss)
    (.riskRejected "STOP_DISTANCE_INVALID")
  Program.raiseIf (direction == .long && entryPrice ≤ stopLoss)
    (.riskRejected "LONG_STOP_NOT_BELOW_ENTRY")
  Program.raiseIf (direction == .short && stopLoss ≤ entryPrice)
    (.riskRejected "SHORT_STOP_NOT_ABOVE_ENTRY")
  let allowedCashRisk := account.equity * riskFraction
  let oneLot ← askBroker (.calculateProfit symbol.name direction 1 entryPrice stopLoss)
  let lossAtOneLot := |oneLot|
  Program.raiseIf (lossAtOneLot ≤ 0) (.riskRejected "BROKER_LOSS_CALCULATION_INVALID")
  let capped := min (allowedCashRisk / lossAtOneLot) symbol.volumeMax
  Program.raiseIf (capped < symbol.volumeMin)
    (.riskRejected "BROKER_MINIMUM_VOLUME_EXCEEDS_RISK_LIMIT")
  let volume := roundedVolume symbol capped
  Program.raiseIf (volume < symbol.volumeMin || symbol.volumeMax < volume)
    (.riskRejected "ROUNDED_VOLUME_OUTSIDE_BROKER_LIMITS")
  let sized ← askBroker (.calculateProfit symbol.name direction volume entryPrice stopLoss)
  let actualCashRisk := |sized|
  Program.raiseIf (actualCashRisk ≤ 0 || allowedCashRisk < actualCashRisk)
    (.riskRejected "ROUNDED_VOLUME_EXCEEDS_RISK_LIMIT")
  pure {
    volume
    cashRisk := actualCashRisk
    riskFraction := actualCashRisk / account.equity
    allowedCashRisk
    lossAtOneLot }

end PositionSizer

end GoldFlow
