import GoldFlow.Risk.Models

/-! # Mode, environment and demo-evidence gates -/

namespace GoldFlow

structure ExecutionPermission where
  allowed : Bool
  reasons : List String
  deriving DecidableEq, Repr

/-- One guard of a rule list: the reason it adds when its condition holds. -/
def reasonIf (condition : Bool) (reason : String) : List String :=
  if condition then [reason] else []

@[simp] theorem reasonIf_eq_nil {condition : Bool} {reason : String} :
    reasonIf condition reason = [] ↔ condition = false := by
  cases condition <;> simp [reasonIf]

/-- `tuple(dict.fromkeys(reasons))` -/
def uniqueReasons (reasons : List String) : List String :=
  reasons.foldl (fun seen reason => if reason ∈ seen then seen else seen ++ [reason]) []

theorem foldl_unique_eq_nil (reasons seen : List String) :
    reasons.foldl (fun seen reason => if reason ∈ seen then seen else seen ++ [reason]) seen = [] ↔
      seen = [] ∧ reasons = [] := by
  induction reasons generalizing seen with
  | nil => simp
  | cons reason reasons ih =>
    rw [List.foldl_cons, ih]
    split
    next present =>
      constructor
      · rintro ⟨rfl, -⟩
        cases present
      · rintro ⟨_, impossible⟩
        cases impossible
    next absent => simp

@[simp] theorem uniqueReasons_eq_nil {reasons : List String} : uniqueReasons reasons = [] ↔ reasons = [] := by
  simp [uniqueReasons, foldl_unique_eq_nil]

/-- `not text` for an optional string. -/
def isMissing (text : Option String) : Bool :=
  text.getD "" == ""

/-- `hmac.compare_digest`; text that is not ASCII is a `TypeError`. -/
def compareDigest (left right : String) : Except PyError Bool :=
  if left.toList.all (·.toNat < 128) && right.toList.all (·.toNat < 128) then
    .ok (left == right)
  else
    .error (.other "TypeError" "comparing strings with non-ASCII characters is not supported")

/-- The production branch of the permission rules. -/
def liveReasons (accountType : AccountType) (liveTradingEnabled : Bool)
    (configuredConfirmation requiredConfirmation : Option String) : Except PyError (List String) := do
  let confirmation ←
    if isMissing configuredConfirmation || isMissing requiredConfirmation then
      pure ["LIVE_TRADING_CONFIRMATION_MISSING"]
    else do
      let same ← compareDigest (configuredConfirmation.getD "") (requiredConfirmation.getD "")
      pure (reasonIf (!same) "LIVE_TRADING_CONFIRMATION_INVALID")
  pure (reasonIf (accountType != .real) "PRODUCTION_REQUIRES_VERIFIED_REAL_ACCOUNT" ++
    reasonIf (!liveTradingEnabled) "LIVE_TRADING_FLAG_DISABLED" ++ confirmation)

def evaluateExecutionPermission (mode : TradingMode) (environment : TradingEnvironment)
    (accountType : AccountType) (approved liveTradingEnabled : Bool)
    (configuredConfirmation requiredConfirmation : Option String) :
    Except PyError ExecutionPermission := do
  let general :=
    reasonIf (mode == .signal) "SIGNAL_MODE_NEVER_EXECUTES" ++
    reasonIf (mode == .semiAuto && !approved) "MANUAL_APPROVAL_REQUIRED" ++
    reasonIf (environment != .demo && environment != .production)
      "EXECUTION_ENVIRONMENT_NOT_ALLOWED" ++
    reasonIf (accountType == .unknown) "BROKER_ACCOUNT_TYPE_UNKNOWN" ++
    reasonIf (environment == .demo && accountType != .demo)
      "DEMO_ENVIRONMENT_REQUIRES_VERIFIED_DEMO_ACCOUNT" ++
    reasonIf (accountType == .real && environment != .production)
      "REAL_ACCOUNT_FORBIDDEN_OUTSIDE_PRODUCTION"
  let special ←
    if environment == .production then
      liveReasons accountType liveTradingEnabled configuredConfirmation requiredConfirmation
    else
      pure (reasonIf (accountType == .real) "DEMO_FIRST_POLICY_BLOCKED_REAL_EXECUTION")
  let reasons := general ++ special
  pure { allowed := reasons.isEmpty, reasons := uniqueReasons reasons }

/-- What the permission gate promises about an allowed execution. -/
structure Permitted (mode : TradingMode) (environment : TradingEnvironment)
    (accountType : AccountType) (approved liveTradingEnabled : Bool)
    (configuredConfirmation requiredConfirmation : Option String) : Prop where
  executes : mode ≠ .signal
  approval : mode = .semiAuto → approved = true
  matched : (environment = .demo ∧ accountType = .demo) ∨
    (environment = .production ∧ accountType = .real ∧ liveTradingEnabled = true ∧
      ∃ confirmation, confirmation ≠ "" ∧ configuredConfirmation = some confirmation ∧
        requiredConfirmation = some confirmation)

variable {accountType : AccountType} {configuredConfirmation requiredConfirmation : Option String}

theorem liveReasons_eq_nil {liveTradingEnabled : Bool}
    (clear : liveReasons accountType liveTradingEnabled configuredConfirmation requiredConfirmation = .ok []) :
    accountType = .real ∧ liveTradingEnabled = true ∧
      ∃ confirmation, confirmation ≠ "" ∧ configuredConfirmation = some confirmation ∧
        requiredConfirmation = some confirmation := by
  simp only [liveReasons, isMissing, Bool.or_eq_true, beq_iff_eq] at clear
  split at clear
  next missing => simp [bind, Except.bind, pure, Except.pure] at clear
  next present =>
    rw [not_or] at present
    unfold compareDigest at clear
    split at clear
    next ascii =>
      simp only [bind, Except.bind, pure, Except.pure, Except.ok.injEq, List.append_eq_nil_iff,
        reasonIf_eq_nil, bne_eq_false_iff_eq, Bool.not_eq_eq_eq_not, Bool.not_false,
        beq_iff_eq] at clear
      obtain ⟨⟨isReal, enabled⟩, same⟩ := clear
      refine ⟨isReal, enabled, configuredConfirmation.getD "", present.1, ?_, ?_⟩
      · cases configuredConfirmation with
        | none => exact absurd rfl present.1
        | some => rfl
      · cases requiredConfirmation with
        | none => exact absurd rfl present.2
        | some => rw [same]; rfl
    next other => simp at clear

theorem permitted_of_allowed {mode : TradingMode} {environment : TradingEnvironment}
    {approved liveTradingEnabled : Bool} {permission : ExecutionPermission}
    (evaluated : evaluateExecutionPermission mode environment accountType approved liveTradingEnabled
      configuredConfirmation requiredConfirmation = .ok permission)
    (allowed : permission.allowed = true) :
    Permitted mode environment accountType approved liveTradingEnabled configuredConfirmation
      requiredConfirmation := by
  unfold evaluateExecutionPermission at evaluated
  by_cases production : environment = .production
  · subst production
    cases live : liveReasons accountType liveTradingEnabled configuredConfirmation
        requiredConfirmation with
    | error error => simp [live] at evaluated
    | ok reasons =>
      simp only [live, bind, Except.bind, pure, Except.pure, beq_self_eq_true, if_true,
        Except.ok.injEq] at evaluated
      subst evaluated
      simp only [List.isEmpty_iff, List.append_eq_nil_iff] at allowed
      obtain ⟨⟨⟨⟨⟨⟨executes, approval⟩, _⟩, _⟩, _⟩, _⟩, special⟩ := allowed
      subst special
      exact ⟨by simpa using executes, fun semi => by simpa [semi] using approval,
        .inr ⟨rfl, liveReasons_eq_nil live⟩⟩
  · simp only [beq_eq_false_iff_ne.mpr production, Bool.false_eq_true, if_false, bind, Except.bind,
      pure, Except.pure, Except.ok.injEq] at evaluated
    subst evaluated
    simp only [List.isEmpty_iff, List.append_eq_nil_iff] at allowed
    obtain ⟨⟨⟨⟨⟨⟨executes, approval⟩, allowedEnvironment⟩, _⟩, verified⟩, _⟩, _⟩ := allowed
    have isDemo : environment = .demo := by simpa [production] using allowedEnvironment
    exact ⟨by simpa using executes, fun semi => by simpa [semi] using approval,
      .inl ⟨isDemo, by simpa [isDemo] using verified⟩⟩

/-! ## Demo evidence -/

structure DemoValidationDecision where
  allowed : Bool
  reasons : List String
  deriving DecidableEq, Repr

def evaluateDemoPerformance (performance : Option DemoPerformance) (strategyVersion : String)
    (minimumTrades : Int) (maximumDrawdown minimumProfitFactor : Decimal) :
    Except PyError DemoValidationDecision :=
  if minimumTrades ≤ 0 then
    .error (.value "minimum demo trades must be positive")
  else if maximumDrawdown ≤ 0 ∨ 1 < maximumDrawdown then
    .error (.value "maximum demo drawdown must be in (0, 1]")
  else if minimumProfitFactor ≤ 0 then
    .error (.value "minimum demo profit factor must be positive")
  else match performance with
    | none => .ok { allowed := false, reasons := ["DEMO_VALIDATION_EVIDENCE_MISSING"] }
    | some performance =>
      let reasons :=
        reasonIf (performance.strategyVersion != strategyVersion)
          "DEMO_STRATEGY_VERSION_MISMATCH" ++
        reasonIf ((performance.totalTrades : Int) < minimumTrades)
          "DEMO_TRADE_COUNT_BELOW_MINIMUM" ++
        reasonIf (maximumDrawdown < performance.maximumDrawdown) "DEMO_DRAWDOWN_ABOVE_MAXIMUM" ++
        reasonIf (performance.profitFactor < minimumProfitFactor)
          "DEMO_PROFIT_FACTOR_BELOW_MINIMUM"
      .ok { allowed := reasons.isEmpty, reasons }

/-- The demo evidence that production `AUTO` needs. -/
def DemoEvidence (performance : Option DemoPerformance) (strategyVersion : String)
    (minimumTrades : Int) (maximumDrawdown minimumProfitFactor : Decimal) : Prop :=
  ∃ evidence, performance = some evidence ∧ evidence.strategyVersion = strategyVersion ∧
    minimumTrades ≤ evidence.totalTrades ∧ evidence.maximumDrawdown ≤ maximumDrawdown ∧
    minimumProfitFactor ≤ evidence.profitFactor

theorem demo_allowed_iff {performance : Option DemoPerformance} {strategyVersion : String}
    {minimumTrades : Int} {maximumDrawdown minimumProfitFactor : Decimal} :
    (∃ decision, evaluateDemoPerformance performance strategyVersion minimumTrades maximumDrawdown
        minimumProfitFactor = .ok decision ∧ decision.allowed = true) ↔
      (0 < minimumTrades ∧ (0 < maximumDrawdown ∧ maximumDrawdown ≤ 1) ∧ 0 < minimumProfitFactor) ∧
        DemoEvidence performance strategyVersion minimumTrades maximumDrawdown minimumProfitFactor := by
  unfold evaluateDemoPerformance DemoEvidence
  split
  next few => simp [not_lt.mpr few]
  split
  next unbounded =>
    have apart : ¬ (0 < maximumDrawdown ∧ maximumDrawdown ≤ 1) := by
      simpa only [not_and_or, not_lt, not_le] using unbounded
    simp [apart]
  split
  next low => simp [not_lt.mpr low]
  next few unbounded low =>
    simp only [not_or, not_le, not_lt] at few unbounded low
    cases performance with
    | none => simp
    | some => simp [few, unbounded, low]

end GoldFlow
