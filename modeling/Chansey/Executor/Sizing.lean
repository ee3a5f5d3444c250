import Chansey.Executor.Cost
import Chansey.Lib.Numeral

/-!
# Position sizing

The allocation limits of a pipeline stage and the helpers that turn a signal into a quantity, a
leverage and a profit.

* `calculateBuyQuantity`, `calculateSellQuantity`: explicit quantity, then percentage, then
  confidence, then the fallback; **`calculateSellQuantity_le`** caps a sell at the holding.
-/

namespace Chansey

def MAX_LEVERAGE_CAP : ℚ := 10
def MAINTENANCE_MARGIN_RATE : ℚ := 5 / 1000
def MAX_PORTFOLIO_DEPLOYMENT : ℚ := 7 / 10
def ABSOLUTE_MAX_ALLOCATION_CAP : ℚ := 25 / 100

/-! ## Allocation limits -/

inductive PipelineStage where
  | optimize | historical | liveReplay | paperTrade | completed

structure AllocationLimits where
  maxAllocation : ℚ
  minAllocation : ℚ

structure AllocationOverrides where
  maxAllocation : Option ℚ := none
  minAllocation : Option ℚ := none

/-- `STAGE_RISK_ALLOCATION_MATRIX[stage][index]`, absent for a stage that does not trade. -/
def stageRiskAllocation (stage : PipelineStage) (index : ℤ) : Option AllocationLimits :=
  let percent (maxAllocation minAllocation : ℚ) : AllocationLimits :=
    ⟨maxAllocation / 100, minAllocation / 100⟩
  match stage with
  | .optimize => some <|
    match index with
    | 0 => percent 4 2 | 1 => percent 5 2 | 2 => percent 5 2 | 3 => percent 6 2 | _ => percent 7 2
  | .historical => some <|
    match index with
    | 0 => percent 5 2 | 1 => percent 6 2 | 2 => percent 8 3 | 3 => percent 9 3 | _ => percent 10 3
  | .liveReplay => some <|
    match index with
    | 0 => percent 5 2 | 1 => percent 6 2 | 2 => percent 7 2 | 3 => percent 8 3 | _ => percent 8 3
  | .paperTrade => some <|
    match index with
    | 0 => percent 4 2 | 1 => percent 5 2 | 2 => percent 5 2 | 3 => percent 6 2 | _ => percent 7 3
  | .completed => none

def getAllocationLimits (stage : Option PipelineStage) (riskLevel : Option ℤ)
    (overrides : AllocationOverrides) : AllocationLimits :=
  let effectiveStage := stage.getD .historical
  let effectiveRisk := max 1 (min 5 (riskLevel.getD DEFAULT_RISK_LEVEL))
  let base := (stageRiskAllocation effectiveStage (effectiveRisk - 1)).getD ⟨8 / 100, 3 / 100⟩
  let maxAllocation :=
    min (overrides.maxAllocation.getD base.maxAllocation) ABSOLUTE_MAX_ALLOCATION_CAP
  { maxAllocation := maxAllocation
    minAllocation := min (overrides.minAllocation.getD base.minAllocation) maxAllocation }

/-- `MIN_HOLD_BY_RISK` at the clamped risk level. -/
def getMinHoldMs (riskLevel : ℤ) : ℤ :=
  match max 1 (min 5 riskLevel) with
  | 1 => 4 * HOUR_MS
  | 2 => 3 * HOUR_MS
  | 3 => 2 * HOUR_MS
  | 4 => 3 * HOUR_MS / 2
  | _ => HOUR_MS

/-! ## Quantities -/

structure SizedQuantity where
  quantity : ℚ
  usedFallback : Bool

def calculateBuyQuantity (signal : TradingSignal) (portfolioTotalValue basePrice maxAllocation
    minAllocation : ℚ) : SizedQuantity :=
  match Js.truthy? signal.quantity, Js.truthy? signal.percentage, signal.confidence with
  | some quantity, _, _ => ⟨quantity, false⟩
  | none, some percentage, _ => ⟨portfolioTotalValue * percentage / basePrice, false⟩
  | none, none, some confidence =>
    let allocation := minAllocation + confidence * (maxAllocation - minAllocation)
    ⟨portfolioTotalValue * allocation / basePrice, false⟩
  | none, none, none => ⟨portfolioTotalValue * minAllocation / basePrice, true⟩

def calculateSellQuantity (signal : TradingSignal) (existingQuantity : ℚ) : SizedQuantity :=
  let sized : SizedQuantity :=
    match Js.truthy? signal.quantity, Js.truthy? signal.percentage, signal.confidence with
    | some quantity, _, _ => ⟨quantity, false⟩
    | none, some percentage, _ => ⟨existingQuantity * min 1 percentage, false⟩
    | none, none, some confidence => ⟨existingQuantity * (1 / 4 + confidence * (3 / 4)), false⟩
    | none, none, none => ⟨existingQuantity * (1 / 4), true⟩
  { sized with quantity := min sized.quantity existingQuantity }

theorem calculateSellQuantity_le (signal : TradingSignal) (existingQuantity : ℚ) :
    (calculateSellQuantity signal existingQuantity).quantity ≤ existingQuantity :=
  min_le_right _ _

/-- The number that `Math.max` makes of a value, if it is not `NaN`. A text is one of a decimal. -/
def MetaValue.toNumber? : MetaValue → Option ℚ
  | .bool b => some (if b then 1 else 0)
  | .num q => some q
  | .str s =>
    let text := (s.toList.dropWhile Char.isWhitespace).rdropWhile Char.isWhitespace
    if text = [] then some 0 else (Js.toNumber text).map Js.Decimal.value

/-- The leverage, unless the signal names one that is `NaN`. -/
def resolveShortLeverage (signal : TradingSignal) (defaultLeverage : ℚ) : Option ℚ :=
  ((signal.metadata.get? "leverage").elim (some defaultLeverage) MetaValue.toNumber?).map
    fun leverage => min (max 1 leverage) MAX_LEVERAGE_CAP

theorem resolveShortLeverage_mem {signal : TradingSignal} {defaultLeverage leverage : ℚ}
    (h : resolveShortLeverage signal defaultLeverage = some leverage) :
    1 ≤ leverage ∧ leverage ≤ MAX_LEVERAGE_CAP := by
  obtain ⟨_, -, rfl⟩ := Option.map_eq_some_iff.mp h
  exact ⟨le_min (le_max_left _ _) (by norm_num [MAX_LEVERAGE_CAP]), min_le_right _ _⟩

example : MetaValue.toNumber? (.str " 5 ") = some 5 ∧ MetaValue.toNumber? (.str "high") = none := by
  decide +kernel

def calculateShortLiquidationPrice (entryPrice leverage : ℚ) : ℚ :=
  entryPrice * (1 + 1 / leverage - MAINTENANCE_MARGIN_RATE)

structure RealizedPnL where
  realizedPnL : ℚ
  realizedPnLPercent : ℚ

def calculateLongPnL (exitPrice costBasis quantity : ℚ) : RealizedPnL where
  realizedPnL := (exitPrice - costBasis) * quantity
  realizedPnLPercent := if 0 < costBasis then (exitPrice - costBasis) / costBasis else 0

def calculateShortPnL (exitPrice costBasis quantity returnedMargin : ℚ) : RealizedPnL where
  realizedPnL := max (-returnedMargin) ((costBasis - exitPrice) * quantity)
  realizedPnLPercent := if 0 < costBasis then (costBasis - exitPrice) / costBasis else 0

/-! ## Reading a signal -/

def inferTradeType : Action → TradeType
  | .buy | .openShort => .buy
  | _ => .sell

def isRiskControlSignal (signal : TradingSignal) : Bool :=
  signal.originalType = some .stopLoss ∨ signal.originalType = some .takeProfit

def resolveBasePrice (signal : TradingSignal) (marketPrice : ℚ) : ℚ :=
  if Metadata.truthy signal.metadata "hardStopLoss" then
    (Metadata.number? signal.metadata "stopExecutionPrice").getD marketPrice
  else marketPrice

end Chansey
