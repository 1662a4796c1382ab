import GoldFlow.Data.Grid
import GoldFlow.Deployment
import GoldFlow.Effect.Evaluation

/-! # Position sizing -/

namespace GoldFlow

open Data Effect MockBroker

open Demo

/-! ## Losses -/

/-- What a position of `volume` loses at its stop. -/
def SymbolSpecification.lossAt (symbol : SymbolSpecification) (direction : Direction) (entryPrice stopLoss : Decimal)
    (volume : Decimal) : Decimal :=
  |symbol.profit direction volume entryPrice stopLoss|

section Loss

variable {symbol : SymbolSpecification} {direction : Direction} {entryPrice stopLoss : Decimal}

theorem lossAt_eq {volume : Decimal} (nonneg : 0 ≤ volume) :
    symbol.lossAt direction entryPrice stopLoss volume = symbol.lossAt direction entryPrice stopLoss 1 * volume := by
  simp only [SymbolSpecification.lossAt, SymbolSpecification.profit, abs_mul, abs_of_nonneg nonneg]
  ring

theorem lossAt_one_pos (valued : 0 < symbol.tickValue) (apart : entryPrice ≠ stopLoss) :
    0 < symbol.lossAt direction entryPrice stopLoss 1 := by
  have distance := sub_ne_zero.mpr apart.symm
  have sign : direction.sign ≠ 0 := by cases direction <;> simp [Direction.sign]
  simp [SymbolSpecification.lossAt, SymbolSpecification.profit, distance, sign, valued.ne', symbol.tickSize_pos.ne']

end Loss

namespace PositionSizer

def ProfitAsMock {τ : Type} (responder : Responder Port PyError τ) (state : τ) (symbol : SymbolSpecification) : Prop :=
  ∀ direction volume openPrice closePrice,
    responder.respond state (.broker (.calculateProfit symbol.name direction volume openPrice closePrice)) =
      (if symbol.tickValue ≤ 0 then .error (.broker .broker ("tick value is unavailable for " ++ symbol.name))
        else .ok (symbol.profit direction volume openPrice closePrice), state)

theorem profitAsMock_deployment (script : Script) {state : Deployment} {symbol : SymbolSpecification}
    (connected : state.broker.requireConnection = .ok ()) (known : state.broker.specOf symbol.name = .ok symbol) :
    ProfitAsMock script.responder state symbol := by
  intro direction volume openPrice closePrice
  simp only [Script.responder, Script.respond, respond, calculateProfit, connected, known]
  rfl

/-- The checks of `calculate` and of `calculate_profit`. -/
structure InputsValid (account : AccountSnapshot) (symbol : SymbolSpecification) (direction : Direction)
    (entryPrice stopLoss riskFraction : Decimal) : Prop where
  equity : 0 < account.equity
  freeMargin : 0 < account.freeMargin
  fraction_pos : 0 < riskFraction
  fraction_le : riskFraction ≤ 1
  entry_pos : 0 < entryPrice
  stop_pos : 0 < stopLoss
  side : match direction with
    | .long => stopLoss < entryPrice
    | .short => entryPrice < stopLoss
  valued : 0 < symbol.tickValue

variable {τ : Type} {responder : Responder Port PyError τ} {state : τ} {account : AccountSnapshot}
  {symbol : SymbolSpecification} {direction : Direction} {entryPrice stopLoss riskFraction : Decimal}

theorem InputsValid.apart (valid : InputsValid account symbol direction entryPrice stopLoss riskFraction) :
    entryPrice ≠ stopLoss := by
  have side := valid.side
  cases direction with
  | long => exact side.ne'
  | short => exact side.ne

def cappedVolume (account : AccountSnapshot) (symbol : SymbolSpecification) (direction : Direction)
    (entryPrice stopLoss riskFraction : Decimal) : Decimal :=
  min (account.equity * riskFraction / symbol.lossAt direction entryPrice stopLoss 1) symbol.volumeMax

section Valid

variable (valid : InputsValid account symbol direction entryPrice stopLoss riskFraction)

include valid

theorem InputsValid.loss_pos : 0 < symbol.lossAt direction entryPrice stopLoss 1 :=
  lossAt_one_pos valid.valued valid.apart

theorem InputsValid.le_capped_iff {volume : Decimal} (nonneg : 0 ≤ volume) :
    volume ≤ cappedVolume account symbol direction entryPrice stopLoss riskFraction ↔
      volume ≤ symbol.volumeMax ∧
        symbol.lossAt direction entryPrice stopLoss volume ≤ account.equity * riskFraction := by
  rw [cappedVolume, le_min_iff, le_div_iff₀ valid.loss_pos, lossAt_eq nonneg, mul_comm volume, and_comm]

theorem InputsValid.isGreatest
    (fits : symbol.volumeMin ≤ cappedVolume account symbol direction entryPrice stopLoss riskFraction) :
    IsGreatest {volume | OnGrid symbol.volumeMin symbol.volumeStep volume ∧ volume ≤ symbol.volumeMax ∧
        symbol.lossAt direction entryPrice stopLoss volume ≤ account.equity * riskFraction}
      (roundedVolume symbol (cappedVolume account symbol direction entryPrice stopLoss riskFraction)) := by
  have allowed : ∀ volume, OnGrid symbol.volumeMin symbol.volumeStep volume → 0 ≤ volume := fun volume onGrid =>
    symbol.volumeMin_pos.le.trans (onGrid.base_le symbol.volumeStep_pos)
  obtain ⟨⟨onGrid, below⟩, greatest⟩ := isGreatest_floorTo symbol.volumeStep_pos fits
  constructor
  · exact ⟨onGrid, (valid.le_capped_iff (allowed _ onGrid)).mp below⟩
  · intro volume member
    exact greatest ⟨member.1, (valid.le_capped_iff (allowed _ member.1)).mpr member.2⟩

theorem InputsValid.result_calculate (answers : ProfitAsMock responder state symbol) :
    (responder.evaluate (calculate account symbol direction entryPrice stopLoss riskFraction) state).result =
      let capped := cappedVolume account symbol direction entryPrice stopLoss riskFraction
      let cashRisk := symbol.lossAt direction entryPrice stopLoss (roundedVolume symbol capped)
      if capped < symbol.volumeMin then
        .error (.riskRejected "BROKER_MINIMUM_VOLUME_EXCEEDS_RISK_LIMIT")
      else
        .ok {
          volume := roundedVolume symbol capped
          cashRisk
          riskFraction := cashRisk / account.equity
          allowedCashRisk := account.equity * riskFraction
          lossAtOneLot := symbol.lossAt direction entryPrice stopLoss 1 } := by
  have oneLot := answers direction 1 entryPrice stopLoss
  have sized := answers direction (roundedVolume symbol
    (cappedVolume account symbol direction entryPrice stopLoss riskFraction)) entryPrice stopLoss
  simp only [not_le.mpr valid.valued] at oneLot sized
  have sides : (direction == .long && decide (entryPrice ≤ stopLoss)) = false ∧
      (direction == .short && decide (stopLoss ≤ entryPrice)) = false := by
    have side := valid.side
    cases direction with
    | long => simpa using side
    | short => simpa using side
  unfold calculate
  simp only [bind, Responder.evaluate_raiseIf_bind, not_le.mpr valid.equity, not_le.mpr valid.freeMargin,
    not_le.mpr valid.fraction_pos, not_lt.mpr valid.fraction_le, not_le.mpr valid.entry_pos, not_le.mpr valid.stop_pos,
    sides, beq_false_of_ne valid.apart, decide_false, Bool.or_false]
  have loss : ∀ volume, |symbol.profit direction volume entryPrice stopLoss| =
    symbol.lossAt direction entryPrice stopLoss volume := fun _ => rfl
  have capped : min (account.equity * riskFraction / symbol.lossAt direction entryPrice stopLoss 1) symbol.volumeMax =
    cappedVolume account symbol direction entryPrice stopLoss riskFraction := rfl
  rw [askBroker, Responder.evaluate_perform_bind oneLot]
  simp only [loss, capped, Responder.evaluate_raiseIf_bind, not_le.mpr valid.loss_pos, Bool.false_eq_true,
    if_false, decide_eq_true_eq]
  by_cases refused : cappedVolume account symbol direction entryPrice stopLoss riskFraction < symbol.volumeMin
  · simp only [refused, if_true]
  · obtain ⟨⟨onGrid, volumeMax, budget⟩, _⟩ := valid.isGreatest (not_lt.mp refused)
    have volumeMin := onGrid.base_le symbol.volumeStep_pos
    have risked : 0 < symbol.lossAt direction entryPrice stopLoss
        (roundedVolume symbol (cappedVolume account symbol direction entryPrice stopLoss riskFraction)) := by
      rw [lossAt_eq (symbol.volumeMin_pos.le.trans volumeMin)]
      exact mul_pos valid.loss_pos (symbol.volumeMin_pos.trans_le volumeMin)
    simp only [refused, not_lt.mpr volumeMin, not_lt.mpr volumeMax]
    apply (congrArg Outcome.result (Responder.evaluate_perform_bind sized _)).trans
    simp only [loss, not_le.mpr risked, not_lt.mpr budget]
    rfl

end Valid

theorem inputsValid_of_ok {sizing : PositionSizingResult} (answers : ProfitAsMock responder state symbol)
    (sized : (responder.evaluate
      (calculate account symbol direction entryPrice stopLoss riskFraction) state).result = .ok sizing) :
    InputsValid account symbol direction entryPrice stopLoss riskFraction := by
  unfold calculate at sized
  simp only [bind, Responder.evaluate_raiseIf_bind] at sized
  split_ifs at sized with funds fraction prices long short
  simp only [Bool.not_eq_true, Bool.or_eq_false_iff, decide_eq_false_iff_not, not_le, not_lt] at *
  have valued : 0 < symbol.tickValue := by
    by_contra worthless
    have raised := answers direction 1 entryPrice stopLoss
    rw [if_pos (not_lt.mp worthless)] at raised
    rw [askBroker, Responder.evaluate_perform_error raised] at sized
    cases sized
  refine ⟨funds.1, funds.2, fraction.1, fraction.2, prices.1.1, prices.1.2, ?_, valued⟩
  cases direction with
  | long => simpa using long
  | short => simpa using short

theorem volume_accepted {request : OrderRequest} (onGrid : OnGrid symbol.volumeMin symbol.volumeStep request.volume)
    (allowed : request.volume ≤ symbol.volumeMax) (price : Decimal) :
    "INVALID_VOLUME" ∉ orderReasons symbol request price ∧
      "INVALID_VOLUME_STEP" ∉ orderReasons symbol request price := by
  have least := onGrid.base_le symbol.volumeStep_pos
  have steps : ((request.volume - symbol.volumeMin) / symbol.volumeStep).isInt = true := by
    obtain ⟨n, volume⟩ := onGrid
    rw [volume, add_sub_cancel_left, mul_div_cancel_right₀ _ symbol.volumeStep_pos.ne']
    simp [Rat.isInt]
  cases side : request.direction <;>
    simp [orderReasons, side, steps, not_lt.mpr least, not_lt.mpr allowed, reasonIf]

/-- **Sizing is safe and optimal**: the greatest volume of the grid whose loss at the stop is within the budget.
-/
theorem calculate_safe_and_optimal {τ : Type} (responder : Responder Port PyError τ) (state : τ)
    (symbol : SymbolSpecification) (answers : ProfitAsMock responder state symbol) (account : AccountSnapshot)
    (direction : Direction) (entryPrice stopLoss riskFraction : Decimal) :
    let result :=
      (responder.evaluate (calculate account symbol direction entryPrice stopLoss riskFraction) state).result
    let loss := symbol.lossAt direction entryPrice stopLoss
    let budget := account.equity * riskFraction
    (∀ sizing, result = .ok sizing →
      IsGreatest {volume | OnGrid symbol.volumeMin symbol.volumeStep volume ∧ volume ≤ symbol.volumeMax ∧
        loss volume ≤ budget} sizing.volume ∧
      sizing.cashRisk = loss sizing.volume ∧
      ∀ request : OrderRequest, request.volume = sizing.volume → ∀ price,
        "INVALID_VOLUME" ∉ orderReasons symbol request price ∧
          "INVALID_VOLUME_STEP" ∉ orderReasons symbol request price) ∧
    (InputsValid account symbol direction entryPrice stopLoss riskFraction →
      ((∃ message, result = .error (.riskRejected message)) ↔ budget < loss symbol.volumeMin) ∧
      ((∃ sizing, result = .ok sizing) ↔ loss symbol.volumeMin ≤ budget)) := by
  intro result loss budget
  constructor
  · intro sizing sized
    have valid := inputsValid_of_ok answers sized
    have evaluated := valid.result_calculate answers
    by_cases refused : cappedVolume account symbol direction entryPrice stopLoss riskFraction < symbol.volumeMin
    · rw [if_pos refused] at evaluated
      cases sized.symm.trans evaluated
    · rw [if_neg refused] at evaluated
      cases sized.symm.trans evaluated
      have greatest := valid.isGreatest (not_lt.mp refused)
      refine ⟨greatest, rfl, ?_⟩
      intro request same price
      exact volume_accepted (same ▸ greatest.1.1) (same ▸ greatest.1.2.1) price
  · intro valid
    have evaluated : result = _ := valid.result_calculate answers
    have least := (valid.le_capped_iff symbol.volumeMin_pos.le).trans (and_iff_right symbol.volumeMin_le_max)
    rw [← not_le, ← least, not_le]
    by_cases refused : cappedVolume account symbol direction entryPrice stopLoss riskFraction < symbol.volumeMin
    · rw [if_pos refused] at evaluated
      simp [evaluated, refused]
    · rw [if_neg refused] at evaluated
      simp [evaluated, not_lt.mp refused]

theorem demo_sized : ∃ sizing,
    (quiet.responder.evaluate (calculate (goldDemo now).account goldSpecification .long
      2000 1990 (1 / 100)) deployment).result = .ok sizing ∧
    sizing.cashRisk = goldSpecification.lossAt .long 2000 1990 sizing.volume := by
  have answers : ProfitAsMock quiet.responder deployment goldSpecification :=
    profitAsMock_deployment quiet rfl rfl
  obtain ⟨safe, decided⟩ := calculate_safe_and_optimal quiet.responder deployment goldSpecification
    answers (goldDemo now).account .long 2000 1990 (1 / 100)
  have valid : InputsValid (goldDemo now).account goldSpecification .long 2000 1990
      (1 / 100) := by
    constructor <;> norm_num [goldDemo, goldSpecification]
  obtain ⟨sizing, sized⟩ := (decided valid).2.mpr (by decide +kernel)
  exact ⟨sizing, sized, (safe sizing sized).2.1⟩

end PositionSizer

end GoldFlow
