import GoldFlow.Deployment
import Mathlib.Tactic.Positivity

/-! # The risk gate is monotone

A snapshot that is no safer and limits that are no looser never take a reason away.
-/

namespace GoldFlow

open RiskGateValidator

/-! ## Less safe snapshots and tighter limits -/

structure NoLooser (limits tighter : RiskLimits) : Prop where
  dailyLoss : tighter.maximumDailyLoss ≤ limits.maximumDailyLoss
  weeklyLoss : tighter.maximumWeeklyLoss ≤ limits.maximumWeeklyLoss
  drawdown : tighter.maximumAccountDrawdown ≤ limits.maximumAccountDrawdown
  openPositions : tighter.maximumOpenPositions ≤ limits.maximumOpenPositions
  goldPositions : tighter.maximumGoldPositions ≤ limits.maximumGoldPositions
  riskReward : limits.minimumRiskReward ≤ tighter.minimumRiskReward
  spread : tighter.maximumSpread ≤ limits.maximumSpread
  tickAge : tighter.maximumTickAge ≤ limits.maximumTickAge

structure MoreUsed (usage more : RiskUsage) : Prop where
  daily : usage.dailyRealizedLoss ≤ more.dailyRealizedLoss
  weekly : usage.weeklyRealizedLoss ≤ more.weeklyRealizedLoss
  openRisk : usage.openRisk ≤ more.openRisk
  peak : ∀ peak, usage.peakEquity = some peak → ∃ higher, more.peakEquity = some higher ∧ peak ≤ higher

structure NoSafer (snapshot worse : PreTradeSnapshot) : Prop where
  now : worse.now = snapshot.now
  tick : worse.tick = snapshot.tick
  symbol : worse.symbol.name = snapshot.symbol.name ∧ worse.symbol.point = snapshot.symbol.point ∧
    worse.symbol.stopsLevelPoints = snapshot.symbol.stopsLevelPoints
  requiredMargin : worse.requiredMargin = snapshot.requiredMargin
  equity : worse.account.equity ≤ snapshot.account.equity
  freeMargin : worse.account.freeMargin ≤ snapshot.account.freeMargin
  healthy : worse.health.healthy = true → snapshot.health.healthy = true
  connected : worse.health.connected = true → snapshot.health.connected = true
  tradingAllowed : worse.health.tradingAllowed = true → snapshot.health.tradingAllowed = true
  marketOpen : worse.marketOpen = true → snapshot.marketOpen = true
  sessionAllowed : worse.sessionAllowed = true → snapshot.sessionAllowed = true
  tradeEnabled : worse.symbol.tradeEnabled = true → snapshot.symbol.tradeEnabled = true
  killSwitch : snapshot.killSwitch = true → worse.killSwitch = true
  circuitLocked : snapshot.circuitLocked = true → worse.circuitLocked = true
  equivalentSymbols : snapshot.equivalentSymbols ⊆ worse.equivalentSymbols
  positions : snapshot.positions.Subperm worse.positions
  orders : snapshot.orders.Subperm worse.orders
  usage : MoreUsed snapshot.usage worse.usage

/-! ## Guards -/

variable {reason : String}

theorem reasonIf_subset {condition later : Bool} (stays : condition = true → later = true) :
    reasonIf condition reason ⊆ reasonIf later reason := by
  cases condition with
  | false => simp [reasonIf]
  | true => simp [stays rfl]

theorem append_subset_append {first second third fourth : List String} (left : first ⊆ third)
    (right : second ⊆ fourth) : first ++ second ⊆ third ++ fourth :=
  List.append_subset.mpr
    ⟨List.Subset.trans left (List.subset_append_left _ _), List.Subset.trans right (List.subset_append_right _ _)⟩

theorem mem_uniqueReasons {reasons : List String} : reason ∈ uniqueReasons reasons ↔ reason ∈ reasons := by
  suffices seen : ∀ seen, reason ∈ reasons.foldl
      (fun seen reason => if reason ∈ seen then seen else seen ++ [reason]) seen ↔ reason ∈ seen ∨ reason ∈ reasons by
    simpa [uniqueReasons] using seen []
  induction reasons with
  | nil => simp
  | cons first rest ih =>
    intro seen
    rw [List.foldl_cons, ih]
    by_cases known : first ∈ seen
    · simp only [known, List.mem_cons]
      constructor
      · rintro (before | after)
        · exact .inl before
        · exact .inr (.inr after)
      · rintro (before | rfl | after)
        · exact .inl before
        · exact .inl known
        · exact .inr after
    · simp [known, or_assoc]

theorem uniqueReasons_subset {reasons more : List String} (included : reasons ⊆ more) :
    uniqueReasons reasons ⊆ uniqueReasons more :=
  fun _ reported => mem_uniqueReasons.mpr (included (mem_uniqueReasons.mp reported))

/-! ## Losses -/

theorem capacity_reached {equity lower limit tighter used more : Decimal} (positive : 0 < tighter)
    (poorer : lower ≤ equity)
    (tight : tighter ≤ limit) (increased : used ≤ more) (nonneg : 0 ≤ more) (reached : equity * limit ≤ used) :
    lower * tighter ≤ more := by
  by_cases solvent : 0 < lower
  · calc lower * tighter
      _ ≤ equity * limit := mul_le_mul poorer tight positive.le (solvent.le.trans poorer)
      _ ≤ more := reached.trans increased
  · exact (mul_nonpos_of_nonpos_of_nonneg (not_lt.mp solvent) positive.le).trans nonneg

theorem drawdown_reached {peak higher equity lower limit tighter : Decimal} (positive : 0 < peak)
    (grown : peak ≤ higher)
    (poorer : lower ≤ equity) (tight : tighter ≤ limit) (bounded : tighter ≤ 1)
    (reached : limit ≤ accountDrawdown peak equity) : tighter ≤ accountDrawdown higher lower := by
  have grownPositive := positive.trans_le grown
  by_cases solvent : 0 < lower
  · -- A positive equity is a smaller part of a higher peak.
    have part : lower / higher ≤ equity / peak := div_le_div₀ (solvent.le.trans poorer) poorer positive grown
    have deeper : (peak - equity) / peak ≤ (higher - lower) / higher := by
      rw [sub_div, sub_div, div_self positive.ne', div_self grownPositive.ne']
      linarith
    exact tight.trans (reached.trans (max_le_max (le_refl 0) deeper))
  · apply bounded.trans
    apply le_trans _ (le_max_right _ _)
    rw [le_div_iff₀ grownPositive]
    linarith

section Reasons

variable {limits tighter : RiskLimits} {snapshot worse : PreTradeSnapshot} {sizing : PositionSizingResult}

theorem tickAgeReasons_subset (limited : NoLooser limits tighter) (age : Duration) :
    tickAgeReasons limits age ⊆ tickAgeReasons tighter age := by
  unfold tickAgeReasons
  split
  · exact List.Subset.refl _
  · apply reasonIf_subset
    simpa using limited.tickAge.trans_lt

theorem not_flag {good worse : Bool} (lost : worse = true → good = true) (bad : (!good) = true) : (!worse) = true := by
  cases worse with
  | false => rfl
  | true => simp [lost rfl] at bad

theorem marketReasons_subset (limited : NoLooser limits tighter) (exposed : NoSafer snapshot worse)
    (request : OrderRequest) : marketReasons limits request snapshot ⊆ marketReasons tighter request worse := by
  have unhealthy : (!snapshot.health.healthy || !snapshot.health.connected) = true →
      (!worse.health.healthy || !worse.health.connected) = true := by
    simp only [Bool.or_eq_true]
    exact Or.imp (not_flag exposed.healthy) (not_flag exposed.connected)
  unfold marketReasons
  rw [exposed.now, exposed.tick, exposed.symbol.1]
  apply append_subset_append _ (reasonIf_subset (by simpa using limited.spread.trans_lt))
  apply append_subset_append _ (tickAgeReasons_subset limited _)
  apply append_subset_append _ (List.Subset.refl _)
  apply append_subset_append _ (reasonIf_subset (not_flag exposed.tradeEnabled))
  apply append_subset_append _ (reasonIf_subset (not_flag exposed.sessionAllowed))
  apply append_subset_append _ (reasonIf_subset (not_flag exposed.marketOpen))
  apply append_subset_append _ (reasonIf_subset (not_flag exposed.tradingAllowed))
  apply append_subset_append _ (reasonIf_subset unhealthy)
  exact append_subset_append (reasonIf_subset exposed.killSwitch) (reasonIf_subset exposed.circuitLocked)

section

variable (exposed : NoSafer snapshot worse) (request : OrderRequest)
include exposed request

theorem price_eq : price request worse = price request snapshot := by
  rw [price, price, exposed.tick]

theorem stopDistance_eq : stopDistance request worse = stopDistance request snapshot := by
  rw [stopDistance, stopDistance, price_eq exposed]

theorem riskReward_eq : riskReward request worse = riskReward request snapshot := by
  rw [riskReward, riskReward, stopDistance_eq exposed, price_eq exposed]

theorem entryReasons_eq : entryReasons request worse = entryReasons request snapshot := by
  simp only [entryReasons, price_eq exposed, exposed.now]

end

theorem protectionReasons_subset (limited : NoLooser limits tighter) (exposed : NoSafer snapshot worse)
    (request : OrderRequest) : protectionReasons limits request snapshot ⊆ protectionReasons tighter request worse := by
  simp only [protectionReasons, price_eq exposed, stopDistance_eq exposed, riskReward_eq exposed, exposed.symbol.2.1,
    exposed.symbol.2.2]
  apply append_subset_append (List.Subset.refl _)
  apply reasonIf_subset
  cases riskReward request snapshot with
  | none => simp
  | some => simpa using fun below => below.trans_le limited.riskReward

theorem exposureSymbols_subset (exposed : NoSafer snapshot worse) :
    exposureSymbols snapshot ⊆ exposureSymbols worse := by
  rw [exposureSymbols, exposureSymbols, exposed.symbol.1]
  exact List.cons_subset_cons _ exposed.equivalentSymbols

theorem exposureReasons_subset (limited : NoLooser limits tighter) (exposed : NoSafer snapshot worse)
    (request : OrderRequest) (sizing : PositionSizingResult) :
    exposureReasons limits request sizing snapshot ⊆ exposureReasons tighter request sizing worse := by
  have symbols := exposureSymbols_subset exposed
  have gold : snapshot.positions.countP (·.symbol ∈ exposureSymbols snapshot) ≤
      worse.positions.countP (·.symbol ∈ exposureSymbols worse) := by
    calc snapshot.positions.countP (·.symbol ∈ exposureSymbols snapshot)
      _ ≤ snapshot.positions.countP (·.symbol ∈ exposureSymbols worse) := by
        apply List.countP_mono_left
        intro position _ counted
        simp only [decide_eq_true_eq] at counted ⊢
        exact symbols counted
      _ ≤ worse.positions.countP (·.symbol ∈ exposureSymbols worse) := exposed.positions.countP_le _
  unfold exposureReasons
  rw [exposed.requiredMargin]
  apply append_subset_append
  apply append_subset_append
  apply append_subset_append
  apply append_subset_append
  apply append_subset_append
  apply append_subset_append
  apply append_subset_append
  · apply reasonIf_subset
    simp only [Bool.or_eq_true, decide_eq_true_eq]
    exact Or.imp exposed.equity.trans exposed.freeMargin.trans
  · apply reasonIf_subset
    simp only [Bool.or_eq_true, decide_eq_true_eq]
    exact Or.imp id exposed.freeMargin.trans_lt
  · exact List.Subset.refl _
  · exact List.Subset.refl _
  · apply reasonIf_subset
    simp only [decide_eq_true_eq]
    intro full
    exact (limited.openPositions.trans full).trans exposed.positions.length_le
  · apply reasonIf_subset
    simp only [decide_eq_true_eq]
    intro full
    exact (limited.goldPositions.trans full).trans gold
  · apply reasonIf_subset
    simp only [List.any_eq_true, decide_eq_true_eq]
    rintro ⟨position, member, counted⟩
    exact ⟨position, exposed.positions.subset member, symbols counted⟩
  · apply reasonIf_subset
    simp only [List.any_eq_true, Bool.or_eq_true, decide_eq_true_eq]
    rintro ⟨order, member, counted⟩
    exact ⟨order, exposed.orders.subset member, counted.imp (fun known => symbols known) id⟩

theorem lossReasons_subset (limited : NoLooser limits tighter) (exposed : NoSafer snapshot worse)
    (sizing : PositionSizingResult) (risked : 0 ≤ sizing.cashRisk) :
    lossReasons limits sizing snapshot ⊆ lossReasons tighter sizing worse := by
  have fraction : ∀ value ∈ [tighter.maximumDailyLoss, tighter.maximumWeeklyLoss, tighter.maximumAccountDrawdown],
      0 < value ∧ value ≤ 1 := fun value member => tighter.fractions value (List.mem_cons_of_mem _ member)
  have used := exposed.usage
  have daily_nonneg := worse.usage.daily_nonneg
  have weekly_nonneg := worse.usage.weekly_nonneg
  have open_nonneg := worse.usage.open_nonneg
  apply append_subset_append
  apply append_subset_append
  · apply reasonIf_subset
    simp only [decide_eq_true_eq]
    apply capacity_reached (fraction _ (by simp)).1 exposed.equity limited.dailyLoss
    · linarith [used.daily, used.openRisk]
    · linarith
  · apply reasonIf_subset
    simp only [decide_eq_true_eq]
    apply capacity_reached (fraction _ (by simp)).1 exposed.equity limited.weeklyLoss
    · linarith [used.weekly, used.openRisk]
    · linarith
  · apply reasonIf_subset
    simp only [Option.any_eq_true, decide_eq_true_eq]
    rintro ⟨peak, known, reached⟩
    obtain ⟨higher, highest, grown⟩ := used.peak peak known
    refine ⟨higher, highest, ?_⟩
    exact drawdown_reached (snapshot.usage.peak_pos peak known) grown exposed.equity limited.drawdown
      (fraction _ (by simp)).2 reached

end Reasons

/-- **The gate is monotone** in the safety of the snapshot and the strictness of the limits. -/
theorem validate_monotone (request : OrderRequest) (sizing : PositionSizingResult) (limits tighter : RiskLimits)
    (snapshot worse : PreTradeSnapshot) (risked : 0 ≤ sizing.cashRisk) (exposed : NoSafer snapshot worse)
    (limited : NoLooser limits tighter) :
    (validate limits request sizing snapshot).reasons ⊆ (validate tighter request sizing worse).reasons ∧
      ((validate limits request sizing snapshot).accepted = false →
        (validate tighter request sizing worse).accepted = false) := by
  have subset : (validate limits request sizing snapshot).reasons ⊆
      (validate tighter request sizing worse).reasons := by
    apply uniqueReasons_subset
    rw [entryReasons_eq exposed]
    apply append_subset_append _ (lossReasons_subset limited exposed sizing risked)
    apply append_subset_append _ (exposureReasons_subset limited exposed request sizing)
    apply append_subset_append _ (protectionReasons_subset limited exposed request)
    exact append_subset_append (marketReasons_subset limited exposed request) (List.Subset.refl _)
  have accepted_iff : ∀ limits snapshot, (validate limits request sizing snapshot).accepted =
      (validate limits request sizing snapshot).reasons.isEmpty := by
    intro limits snapshot
    simp only [validate]
  simp only [accepted_iff, List.isEmpty_eq_false_iff]
  refine ⟨subset, fun reported => ?_⟩
  obtain ⟨reason, member⟩ := List.exists_mem_of_ne_nil _ reported
  exact List.ne_nil_of_mem (subset member)

namespace Demo

def goldOrder : OrderRequest where
  signalId := signal.signalId
  strategyId := "gold"
  symbol := "XAUUSDm"
  direction := .long
  orderType := .market
  volume := 1 / 100
  stopLoss := 1990
  takeProfits := [2030]
  idempotencyKey := key
  volume_pos := hundredth_pos
  stopLoss_pos := stop_pos
  takeProfits_nonempty := by simp
  takeProfits_pos := by simp
  key_nonblank

def goldSizing : PositionSizingResult where
  volume := 1 / 100
  cashRisk := 10
  riskFraction := 1 / 100
  allowedCashRisk := 10
  lossAtOneLot := 1000

def goldSnapshot (equity : Decimal) (killSwitch : Bool) : PreTradeSnapshot where
  now
  account := (MockBroker.goldDemo now equity).account
  symbol := MockBroker.goldSpecification
  tick := MockBroker.goldTick now
  health := ⟨true, true, true⟩
  marketOpen := true
  sessionAllowed := true
  equivalentSymbols := []
  positions := []
  orders := []
  usage := noUsage
  requiredMargin := 1
  killSwitch
  circuitLocked := false

end Demo

open Demo

/-- The demo account without its equity. -/
theorem overdrawn_still_rejected :
    (validate limits goldOrder goldSizing (goldSnapshot 100 false)).accepted = false ∧
      (validate limits goldOrder goldSizing (goldSnapshot (-100) true)).accepted = false := by
  have rejected : (validate limits goldOrder goldSizing (goldSnapshot 100 false)).accepted = false := by
    decide +kernel
  have risked : 0 ≤ goldSizing.cashRisk := by norm_num [goldSizing]
  have exposed : NoSafer (goldSnapshot 100 false) (goldSnapshot (-100) true) := by
    have sameUsage : MoreUsed noUsage noUsage := ⟨le_rfl, le_rfl, le_rfl, fun peak found => ⟨peak, found, le_rfl⟩⟩
    constructor <;> first | exact sameUsage | norm_num [goldSnapshot, MockBroker.goldDemo]
  have limited : NoLooser limits limits := by constructor <;> exact le_rfl
  have monotone := validate_monotone goldOrder goldSizing limits limits _ _ risked exposed limited
  exact ⟨rejected, monotone.2 rejected⟩

end GoldFlow
