import Chansey.Executor.TradeSpec
import Chansey.Loop.Regime

/-!
# Position sizing under the concentration limits

The filters adjust the allocation limits of a bar, and the executor sizes its buys by them.
-/

namespace Chansey

/-! ## The filters -/

def regimeMultiplier (config : RegimeConfig) (compositeRegime : CompositeRegimeType) : ℚ :=
  if config.enableRegimeScaledSizing then getRegimeMultiplier config.riskLevel compositeRegime
  else 1

/-- `SignalFilterChainService.apply` -/
def filterChain (config : RegimeConfig) (compositeRegime : CompositeRegimeType)
    (context : Option ConcentrationContext) (batch : FilteredSignals) : FilteredSignals :=
  concentrationFilter config.riskLevel context (regimeFilter config compositeRegime batch)

def contextOf (portfolio : Portfolio) (marketData : MarketData) : ConcentrationContext where
  portfolioPositions := portfolio.positions
  portfolioTotalValue := portfolio.totalValue
  currentPrices := marketData.prices

/-- What each position above the soft limit leaves below the hard one. -/
def rooms (riskLevel : ℤ) (ctx : ConcentrationContext) : List ℚ :=
  (ctx.portfolioPositions.entries.filter fun e =>
    (CONCENTRATION_LIMITS riskLevel).soft < concentration ctx e.1 e.2).map fun e =>
      max 0 ((CONCENTRATION_LIMITS riskLevel).hard - concentration ctx e.1 e.2)

def tightest (riskLevel : ℤ) (ctx : ConcentrationContext) (maxAllocation : ℚ) : ℚ :=
  (rooms riskLevel ctx).foldl min maxAllocation

theorem le_foldl_min_iff {rooms : List ℚ} {x limit : ℚ} :
    x ≤ rooms.foldl min limit ↔ x ≤ limit ∧ ∀ room ∈ rooms, x ≤ room := by
  induction rooms generalizing limit with
  | nil => simp
  | cons room rooms ih => rw [List.foldl_cons, ih, le_min_iff, List.forall_mem_cons, and_assoc]

theorem regimeMultiplier_nonneg (config : RegimeConfig) (compositeRegime : CompositeRegimeType) :
    0 ≤ regimeMultiplier config compositeRegime := by
  unfold regimeMultiplier getRegimeMultiplier RISK_REGIME_MULTIPLIER_MATRIX
    DEFAULT_REGIME_MULTIPLIERS
  split_ifs
  · cases compositeRegime <;> dsimp only <;> split <;> norm_num
  · norm_num

section Filters

variable {config : RegimeConfig} {compositeRegime : CompositeRegimeType} {portfolio : Portfolio}
  {marketData : MarketData} {batch : FilteredSignals}

theorem foldl_adjustedMax {riskLevel : ℤ} {ctx : ConcentrationContext}
    (entries : List (CoinId × Position)) (maxAllocation : ℚ) :
    entries.foldl
        (fun adjustedMax e =>
          let share := concentration ctx e.1 e.2
          if (CONCENTRATION_LIMITS riskLevel).soft < share then
            min adjustedMax (max 0 ((CONCENTRATION_LIMITS riskLevel).hard - share))
          else adjustedMax) maxAllocation =
      ((entries.filter fun e =>
        (CONCENTRATION_LIMITS riskLevel).soft < concentration ctx e.1 e.2).map fun e =>
          max 0 ((CONCENTRATION_LIMITS riskLevel).hard - concentration ctx e.1 e.2)).foldl min
            maxAllocation := by
  induction entries generalizing maxAllocation with
  | nil => rfl
  | cons e entries ih =>
    rw [List.foldl_cons, ih, List.filter_cons]
    dsimp only
    split_ifs with hsoft hdecide hdecide
    · rfl
    · exact absurd (decide_eq_true hsoft) hdecide
    · exact absurd (of_decide_eq_true hdecide) hsoft
    · rfl

theorem allocation_filterChain (hvalue : 0 < portfolio.totalValue)
    (hsigs : (filterChain config compositeRegime (buildConcentrationContext portfolio marketData)
      batch).signals ≠ []) :
    (filterChain config compositeRegime (buildConcentrationContext portfolio marketData)
        batch).maxAllocation =
      tightest config.riskLevel (contextOf portfolio marketData)
        (batch.maxAllocation * regimeMultiplier config compositeRegime) ∧
    (filterChain config compositeRegime (buildConcentrationContext portfolio marketData)
        batch).minAllocation = batch.minAllocation * regimeMultiplier config compositeRegime := by
  have hpass : (regimeFilter config compositeRegime batch).signals ≠ [] := by
    intro hnil
    have hsub := concentrationFilter_sublist (buildConcentrationContext portfolio marketData)
      config.riskLevel (regimeFilter config compositeRegime batch)
    rw [hnil] at hsub
    exact hsigs (List.sublist_nil.mp hsub)
  unfold filterChain buildConcentrationContext
  by_cases hsize : 0 < portfolio.positions.size
  · rw [if_pos hsize]
    unfold concentrationFilter
    dsimp only
    rw [if_neg (not_or.mpr ⟨hpass, not_le.mpr hvalue⟩)]
    exact ⟨foldl_adjustedMax _ _, rfl⟩
  · have hempty : portfolio.positions.entries = [] :=
      List.length_eq_zero_iff.mp (Nat.eq_zero_of_not_pos hsize)
    rw [if_neg hsize]
    refine ⟨?_, rfl⟩
    rw [tightest, rooms, contextOf, hempty]
    rfl

end Filters

/-! ## The sizes -/

def askedShare (signal : TradingSignal) (value basePrice maxAllocation minAllocation : ℚ) : ℚ :=
  match Js.truthy? signal.quantity, Js.truthy? signal.percentage with
  | some quantity, _ => quantity * basePrice / value
  | none, some percentage => percentage
  | none, none => minAllocation + signal.confidence.getD 0 * (maxAllocation - minAllocation)

theorem calculateBuyQuantity_mul (signal : TradingSignal) {value basePrice : ℚ}
    (hvalue : 0 < value) (hbase : 0 < basePrice) (maxAllocation minAllocation : ℚ) :
    (calculateBuyQuantity signal value basePrice maxAllocation minAllocation).quantity * basePrice =
      value * askedShare signal value basePrice maxAllocation minAllocation := by
  have hcancel : ∀ x : ℚ, x / basePrice * basePrice = x := fun x =>
    div_mul_cancel₀ x hbase.ne'
  unfold calculateBuyQuantity askedShare
  cases Js.truthy? signal.quantity with
  | some => exact (mul_div_cancel₀ _ hvalue.ne').symm
  | none =>
    cases Js.truthy? signal.percentage with
    | some => exact hcancel _
    | none =>
      cases signal.confidence with
      | some => exact hcancel _
      | none =>
        dsimp only
        rw [hcancel, Option.getD_none, zero_mul, add_zero]

/-- Where the size of a buy keeps within the maximum: a quantity or a percentage when it does so
itself, a confidence below one when no room is less than the minimum. -/
def FitsMax (signal : TradingSignal) (value basePrice maxAllocation minAllocation : ℚ)
    (rooms : List ℚ) : Prop :=
  match Js.truthy? signal.quantity, Js.truthy? signal.percentage with
  | some quantity, _ => quantity * basePrice ≤ rooms.foldl min maxAllocation * value
  | none, some percentage => percentage ≤ rooms.foldl min maxAllocation
  | none, none => (signal.confidence.getD 0 < 1 → ∀ room ∈ rooms, minAllocation ≤ room) ∧
      (1 < signal.confidence.getD 0 → rooms.foldl min maxAllocation ≤ minAllocation)

theorem between_le_iff {lower upper confidence : ℚ} :
    lower + confidence * (upper - lower) ≤ upper ↔
      (confidence < 1 → lower ≤ upper) ∧ (1 < confidence → upper ≤ lower) := by
  have hdiff : lower + confidence * (upper - lower) ≤ upper ↔
      0 ≤ (1 - confidence) * (upper - lower) := by
    rw [← sub_nonneg]
    ring_nf
  rw [hdiff]
  rcases lt_trichotomy confidence 1 with hlt | rfl | hgt
  · rw [mul_nonneg_iff_of_pos_left (sub_pos.mpr hlt), sub_nonneg]
    exact ⟨fun h => ⟨fun _ => h, fun hgt => absurd hgt hlt.not_gt⟩, fun h => h.1 hlt⟩
  · rw [sub_self, zero_mul]
    exact ⟨fun _ => ⟨fun h => absurd h (lt_irrefl 1), fun h => absurd h (lt_irrefl 1)⟩,
      fun _ => le_rfl⟩
  · have hneg : (1 - confidence) * (upper - lower) = (confidence - 1) * (lower - upper) := by ring
    rw [hneg, mul_nonneg_iff_of_pos_left (sub_pos.mpr hgt), sub_nonneg]
    exact ⟨fun h => ⟨fun hlt => absurd hlt hgt.not_gt, fun _ => h⟩, fun h => h.2 hgt⟩

theorem askedShare_le_iff (signal : TradingSignal) {value basePrice maxAllocation minAllocation : ℚ}
    {rooms : List ℚ} (hvalue : 0 < value) (hle : minAllocation ≤ maxAllocation) :
    askedShare signal value basePrice (rooms.foldl min maxAllocation) minAllocation ≤
        rooms.foldl min maxAllocation ↔
      FitsMax signal value basePrice maxAllocation minAllocation rooms := by
  unfold askedShare FitsMax
  cases Js.truthy? signal.quantity with
  | some => exact div_le_iff₀ hvalue
  | none =>
    cases Js.truthy? signal.percentage with
    | some => exact Iff.rfl
    | none =>
      dsimp only
      rw [between_le_iff, le_foldl_min_iff, and_iff_right hle]

/-! ## Executed buys -/

/-- What an executed order was placed for, also where less of it is filled. -/
def ExecuteTradeResult.orderedQuantity (result : ExecuteTradeResult) : ℚ :=
  result.requestedQuantity.getD result.trade.quantity

/-- The position that is already there is not sold or covered. -/
def heldPosition (portfolio : Portfolio) (coinId : CoinId) : Position :=
  (portfolio.positions.get? coinId).getD { quantity := 0, averagePrice := 0, totalValue := 0 }

def marketPriceOf (params : ExecuteTradeParams) : ℚ :=
  (params.marketData.prices.get? params.signal.coinId).getD 0

def basePriceOf (params : ExecuteTradeParams) : ℚ :=
  resolveBasePrice params.signal (marketPriceOf params)

/-- A buy of a batch that passes the filters and is executed with their limits, on the portfolio that
they saw. -/
structure SizedBuy (math : Js.Math) (config : RegimeConfig) (compositeRegime : CompositeRegimeType)
    (batch : FilteredSignals) (params : ExecuteTradeParams) (portfolio : Portfolio)
    (result : ExecuteTradeResult) (after : Portfolio) : Prop where
  passed : params.signal ∈ (filterChain config compositeRegime
    (buildConcentrationContext portfolio params.marketData) batch).signals
  buy : params.signal.action = .buy
  maxAllocation : params.maxAllocation = (filterChain config compositeRegime
    (buildConcentrationContext portfolio params.marketData) batch).maxAllocation
  minAllocation : params.minAllocation = (filterChain config compositeRegime
    (buildConcentrationContext portfolio params.marketData) batch).minAllocation
  value : 0 < portfolio.totalValue
  executed : executeTrade math params portfolio = .ok (some result, after)
  filled : result.fillStatus ≠ .cancelled

/-- The limits that the order of a buy is to keep, before slippage and fees. -/
structure KeepsLimits (riskLevel : ℤ) (params : ExecuteTradeParams) (portfolio : Portfolio)
    (quantity : ℚ) : Prop where
  spends : quantity * basePriceOf params ≤ params.maxAllocation * portfolio.totalValue
  share : concentration (contextOf portfolio params.marketData) params.signal.coinId
    { heldPosition portfolio params.signal.coinId with
      quantity := (heldPosition portfolio params.signal.coinId).quantity + quantity } ≤
    (CONCENTRATION_LIMITS riskLevel).hard

theorem applySlippageAndFill_ordered {math : Js.Math} {params : ExecuteTradeParams}
    {base quantity : ℚ} {isBuy : Bool} {cap : Option ℚ} {fill : SlippageFillResult}
    (h : applySlippageAndFill math params base quantity isBuy cap = .ok (.filled fill)) :
    fill.requestedQuantity.getD fill.quantity = quantity := by
  unfold applySlippageAndFill at h
  obtain ⟨_, -, h⟩ := Result.bind_eq_ok.mp h
  dsimp only at h
  split at h
  · cases h
  · cases h
    rfl
  · cases h
    rfl

section Executed

variable {math : Js.Math} {config : RegimeConfig} {compositeRegime : CompositeRegimeType}
  {batch : FilteredSignals} {params : ExecuteTradeParams} {portfolio after : Portfolio}
  {result : ExecuteTradeResult}

theorem SizedBuy.ordered
    (h : SizedBuy math config compositeRegime batch params portfolio result after) :
    params.marketData.prices.get? params.signal.coinId = some (marketPriceOf params) ∧
      0 < basePriceOf params ∧
      (heldPosition portfolio params.signal.coinId).quantity ≤ 0 ∧
      result.orderedQuantity = (calculateBuyQuantity params.signal portfolio.totalValue
        (basePriceOf params) params.maxAllocation params.minAllocation).quantity := by
  rcases executeTrade_some h.executed with ⟨hcanc, -⟩ | ⟨-, htrade⟩
  · exact absurd hcanc.status h.filled
  obtain ⟨marketPrice, _, _, _, hget, -, hvalid, hbkd, -, rfl, -⟩ := htrade.exists_booking
  have hmkt : marketPriceOf params = marketPrice := by rw [marketPriceOf, hget, Option.getD_some]
  rw [← hmkt] at hbkd
  have hheld : (heldPosition portfolio params.signal.coinId).quantity ≤ 0 := by
    unfold validatePositionConflicts at hvalid
    rw [h.buy] at hvalid
    unfold heldPosition
    cases hposn : portfolio.positions.get? params.signal.coinId with
    | none => exact le_rfl
    | some =>
      rw [hposn] at hvalid
      exact not_lt.mp (of_decide_eq_true hvalid)
  cases hbkd with
  | buy fill fee' hact hfill hdeploy hfee hcash hres =>
    refine ⟨hmkt ▸ hget, (applySlippageAndFill_filled hfill).1, hheld, ?_⟩
    rw [hres]
    exact applySlippageAndFill_ordered hfill
  | sell existing fill hact | openShort fill fee' hact | closeShort existing fill hact =>
    rw [h.buy] at hact; cases hact

theorem SizedBuy.allocation
    (h : SizedBuy math config compositeRegime batch params portfolio result after) :
    params.maxAllocation = tightest config.riskLevel (contextOf portfolio params.marketData)
        (batch.maxAllocation * regimeMultiplier config compositeRegime) ∧
      params.minAllocation = batch.minAllocation * regimeMultiplier config compositeRegime := by
  have hlimits := allocation_filterChain h.value (List.ne_nil_of_mem h.passed)
  exact ⟨h.maxAllocation.trans hlimits.1, h.minAllocation.trans hlimits.2⟩

/-- Where the coin has room below the hard limit for what the buy asks for. -/
def FitsHard (config : RegimeConfig) (params : ExecuteTradeParams) (portfolio : Portfolio)
    (maxAllocation minAllocation : ℚ) : Prop :=
  let ctx := contextOf portfolio params.marketData
  concentration ctx params.signal.coinId (heldPosition portfolio params.signal.coinId) +
      askedShare params.signal portfolio.totalValue (basePriceOf params)
          (tightest config.riskLevel ctx maxAllocation) minAllocation *
        (marketPriceOf params / basePriceOf params) ≤
    (CONCENTRATION_LIMITS config.riskLevel).hard

theorem concentration_add {ctx : ConcentrationContext} {coinId : CoinId} {position : Position}
    {price : ℚ} (hget : ctx.currentPrices.get? coinId = some price) (quantity : ℚ) :
    concentration ctx coinId { position with quantity := position.quantity + quantity } =
      concentration ctx coinId position + quantity * price / ctx.portfolioTotalValue := by
  unfold concentration
  rw [hget, Option.getD_some, ← add_div, ← add_mul]

section

variable (h : SizedBuy math config compositeRegime batch params portfolio result after)

include h

theorem SizedBuy.spent :
    result.orderedQuantity * basePriceOf params =
      portfolio.totalValue * askedShare params.signal portfolio.totalValue (basePriceOf params)
        (tightest config.riskLevel (contextOf portfolio params.marketData)
          (batch.maxAllocation * regimeMultiplier config compositeRegime))
        (batch.minAllocation * regimeMultiplier config compositeRegime) := by
  obtain ⟨-, hbase, -, hordered⟩ := h.ordered
  obtain ⟨hmax, hmin⟩ := h.allocation
  rw [hordered, calculateBuyQuantity_mul params.signal h.value hbase, hmax, hmin]

theorem SizedBuy.spends_iff (hlimits : batch.minAllocation ≤ batch.maxAllocation) :
    result.orderedQuantity * basePriceOf params ≤ params.maxAllocation * portfolio.totalValue ↔
      FitsMax params.signal portfolio.totalValue (basePriceOf params)
        (batch.maxAllocation * regimeMultiplier config compositeRegime)
        (batch.minAllocation * regimeMultiplier config compositeRegime)
        (rooms config.riskLevel (contextOf portfolio params.marketData)) := by
  rw [h.spent, h.allocation.1, mul_comm portfolio.totalValue, mul_le_mul_iff_left₀ h.value]
  exact askedShare_le_iff params.signal h.value
    (mul_le_mul_of_nonneg_right hlimits (regimeMultiplier_nonneg config compositeRegime))

theorem SizedBuy.share_iff :
    concentration (contextOf portfolio params.marketData) params.signal.coinId
        { heldPosition portfolio params.signal.coinId with
          quantity := (heldPosition portfolio params.signal.coinId).quantity +
            result.orderedQuantity } ≤ (CONCENTRATION_LIMITS config.riskLevel).hard ↔
      FitsHard config params portfolio
        (batch.maxAllocation * regimeMultiplier config compositeRegime)
        (batch.minAllocation * regimeMultiplier config compositeRegime) := by
  obtain ⟨hget, hbase, -, -⟩ := h.ordered
  have hvalue := h.value
  have hadded : result.orderedQuantity * marketPriceOf params / portfolio.totalValue =
      askedShare params.signal portfolio.totalValue (basePriceOf params)
          (tightest config.riskLevel (contextOf portfolio params.marketData)
            (batch.maxAllocation * regimeMultiplier config compositeRegime))
          (batch.minAllocation * regimeMultiplier config compositeRegime) *
        (marketPriceOf params / basePriceOf params) := by
    rw [(eq_div_iff hbase.ne').mpr h.spent]
    field_simp
  rw [concentration_add hget]
  show _ + result.orderedQuantity * marketPriceOf params / portfolio.totalValue ≤ _ ↔ _
  rw [hadded]
  exact Iff.rfl

theorem SizedBuy.fitsHard_of_fitsMax (hlimits : batch.minAllocation ≤ batch.maxAllocation)
    (hmkt : basePriceOf params = marketPriceOf params)
    (hhard : batch.maxAllocation * regimeMultiplier config compositeRegime ≤
      (CONCENTRATION_LIMITS config.riskLevel).hard)
    (hfits : FitsMax params.signal portfolio.totalValue (basePriceOf params)
      (batch.maxAllocation * regimeMultiplier config compositeRegime)
      (batch.minAllocation * regimeMultiplier config compositeRegime)
      (rooms config.riskLevel (contextOf portfolio params.marketData))) :
    FitsHard config params portfolio
      (batch.maxAllocation * regimeMultiplier config compositeRegime)
      (batch.minAllocation * regimeMultiplier config compositeRegime) := by
  obtain ⟨hget, hbase, hheld, -⟩ := h.ordered
  have hvalue := h.value
  have hnothing : concentration (contextOf portfolio params.marketData) params.signal.coinId
      (heldPosition portfolio params.signal.coinId) ≤ 0 := by
    unfold concentration
    rw [show (contextOf portfolio params.marketData).currentPrices.get? params.signal.coinId =
      some (marketPriceOf params) from hget, Option.getD_some, ← hmkt]
    exact div_nonpos_of_nonpos_of_nonneg (mul_nonpos_of_nonpos_of_nonneg hheld hbase.le) hvalue.le
  have hasked : askedShare params.signal portfolio.totalValue (basePriceOf params)
      (tightest config.riskLevel (contextOf portfolio params.marketData)
        (batch.maxAllocation * regimeMultiplier config compositeRegime))
      (batch.minAllocation * regimeMultiplier config compositeRegime) ≤
      batch.maxAllocation * regimeMultiplier config compositeRegime := by
    refine ((askedShare_le_iff params.signal hvalue ?_).mpr hfits).trans
      (le_foldl_min_iff.mp le_rfl).1
    exact mul_le_mul_of_nonneg_right hlimits (regimeMultiplier_nonneg config compositeRegime)
  rw [FitsHard, ← hmkt, div_self hbase.ne', mul_one]
  linarith

end

/-- **A buy keeps the limits just when its size fits both**, and at the market price, under a maximum
that is not above the hard limit, just when it fits the maximum. -/
theorem keepsLimits_iff
    (h : SizedBuy math config compositeRegime batch params portfolio result after)
    (hlimits : batch.minAllocation ≤ batch.maxAllocation) :
    let scaledMax := batch.maxAllocation * regimeMultiplier config compositeRegime
    let scaledMin := batch.minAllocation * regimeMultiplier config compositeRegime
    let fitsMax := FitsMax params.signal portfolio.totalValue (basePriceOf params) scaledMax
      scaledMin (rooms config.riskLevel (contextOf portfolio params.marketData))
    (KeepsLimits config.riskLevel params portfolio result.orderedQuantity ↔
      fitsMax ∧ FitsHard config params portfolio scaledMax scaledMin) ∧
    (basePriceOf params = marketPriceOf params →
      scaledMax ≤ (CONCENTRATION_LIMITS config.riskLevel).hard →
        (KeepsLimits config.riskLevel params portfolio result.orderedQuantity ↔ fitsMax)) := by
  intro scaledMax scaledMin fitsMax
  have hspends := h.spends_iff hlimits
  have hshare := h.share_iff
  have hkept : KeepsLimits config.riskLevel params portfolio result.orderedQuantity ↔
      fitsMax ∧ FitsHard config params portfolio scaledMax scaledMin :=
    ⟨fun hkept => ⟨hspends.mp hkept.spends, hshare.mp hkept.share⟩,
      fun hfits => ⟨hspends.mpr hfits.1, hshare.mpr hfits.2⟩⟩
  refine ⟨hkept, fun hmarket hhard => hkept.trans (and_iff_left_of_imp fun hfits => ?_)⟩
  exact h.fitsHard_of_fitsMax hlimits hmarket hhard hfits

end Executed

def cashPortfolio : Portfolio where
  cashBalance := 1000
  positions := OrdMap.empty
  totalValue := 1000

def mediumRisk : RegimeConfig where
  enableRegimeScaledSizing := true
  riskLevel := 3
  regimeGateEnabled := false
  btcCoin := none

def solOrder (quantity confidence : Option ℚ) : ExecuteTradeParams where
  signal := { action := .buy, coinId := "SOL", quantity, confidence }
  marketData := { timestamp := 0, prices := OrdMap.ofEntries [("SOL", 100)] }
  tradingFee := 0
  slippageConfig := { type := .none }
  maxAllocation := 8 / 100
  minAllocation := 3 / 100

def solTrade (quantity confidence : Option ℚ) (size : ℚ) : ExecuteTradeResult where
  trade := tradeRow (solOrder quantity confidence).signal 100 0
    { quantity := size, totalValue := size * 100, slippageBps := 0, price := 100,
      fillStatus := .filled, requestedQuantity := none }
  slippageBps := 0
  fillStatus := .filled

def solPortfolio (size : ℚ) : Portfolio :=
  settleFee (bookBuy cashPortfolio "SOL" size 100 0) 0 (OrdMap.ofEntries [("SOL", 100)])

theorem sizedBuy_confidence : SizedBuy ⟨id, id, id, fun base _ => base⟩ mediumRisk .bull
    ⟨[(solOrder none (some (1 / 2))).signal], 8 / 100, 3 / 100⟩ (solOrder none (some (1 / 2)))
    cashPortfolio (solTrade none (some (1 / 2)) (11 / 20)) (solPortfolio (11 / 20)) where
  passed := by decide +kernel
  buy := rfl
  maxAllocation := by decide +kernel
  minAllocation := by decide +kernel
  value := by decide +kernel
  executed := by decide +kernel
  filled := by decide

theorem keepsLimits_iff_confidence :
    KeepsLimits 3 (solOrder none (some (1 / 2))) cashPortfolio (11 / 20) := by
  refine ((keepsLimits_iff sizedBuy_confidence (by decide +kernel)).2 (by decide +kernel)
    (by decide +kernel)).mpr ⟨fun _ room hroom => ?_, fun hover => ?_⟩
  · cases hroom
  · exact absurd hover (by decide +kernel)

theorem sizedBuy_quantity : SizedBuy ⟨id, id, id, fun base _ => base⟩ mediumRisk .bull
    ⟨[(solOrder (some 6) none).signal], 8 / 100, 3 / 100⟩ (solOrder (some 6) none)
    cashPortfolio (solTrade (some 6) none 6) (solPortfolio 6) where
  passed := by decide +kernel
  buy := rfl
  maxAllocation := by decide +kernel
  minAllocation := by decide +kernel
  value := by decide +kernel
  executed := by decide +kernel
  filled := by decide

/-- **An explicit quantity is not capped**, neither by the maximum of 8% nor by the hard limit of
35%. -/
theorem explicit_quantity_uncapped :
    ¬ ∀ (math : Js.Math) (config : RegimeConfig) (compositeRegime : CompositeRegimeType)
        (batch : FilteredSignals) (params : ExecuteTradeParams) (portfolio after : Portfolio)
        (result : ExecuteTradeResult),
      SizedBuy math config compositeRegime batch params portfolio result after →
      batch.minAllocation ≤ batch.maxAllocation →
      KeepsLimits config.riskLevel params portfolio result.orderedQuantity := by
  intro hclaim
  have hkept := hclaim _ _ _ _ _ _ _ _ sizedBuy_quantity (by decide +kernel)
  exact absurd hkept.spends (by decide +kernel)

end Chansey
