import Chansey.Executor.Cost
import Chansey.Metrics.Calculator
import Chansey.Window.Price

/-!
# The market regime of a bar

Trend and volatility of Bitcoin give the composite regime. In a bad regime buys are blocked and
orders sized down, and no coin may take too large a share of the portfolio.
-/

namespace Chansey

def REGIME_SMA_PERIOD : ℕ := 200

/-! ## Volatility -/

/-- `DEFAULT_VOLATILITY_CONFIG.rollingDays` -/
def ROLLING_DAYS : ℕ := 30

/-- `DEFAULT_VOLATILITY_CONFIG.lookbackDays` -/
def LOOKBACK_DAYS : ℕ := 365

/-- The relative changes of a series. A price of zero has no change after it. -/
def calculateReturns (prices : List ℚ) : List ℚ :=
  (prices.zip prices.tail).filterMap fun p =>
    if p.1 ≠ 0 then some ((p.2 - p.1) / p.1) else none

section Volatility

variable (math : Js.Math)

def calculateStandardVolatility (returns : List ℚ) : ℚ :=
  if returns = [] then 0 else math.sqrt (variance returns)

def calculateRealizedVolatility (prices : List ℚ) : ℚ :=
  calculateStandardVolatility math ((calculateReturns prices).rtake ROLLING_DAYS) * math.sqrt 365

def historicalVolatilities (prices : List ℚ) : List ℚ :=
  (List.range (prices.length - ROLLING_DAYS)).map fun i =>
    calculateStandardVolatility math
      (calculateReturns ((prices.drop i).take (ROLLING_DAYS + 1))) * math.sqrt 365

def calculatePercentile (currentVolatility : ℚ) (prices : List ℚ) : ℚ :=
  let volatilities := historicalVolatilities math prices
  (volatilities.filter (· < currentVolatility)).length / volatilities.length * 100

def determineVolatilityRegime (percentile : ℚ) : MarketRegimeType :=
  if 90 ≤ percentile then .extreme
  else if 75 ≤ percentile then .highVolatility
  else if 25 ≤ percentile then .normal
  else .lowVolatility

def volatilityRegime (closes : List ℚ) : MarketRegimeType :=
  if ROLLING_DAYS + 1 ≤ closes.length ∧ LOOKBACK_DAYS ≤ closes.length then
    determineVolatilityRegime
      (calculatePercentile math (calculateRealizedVolatility math closes) closes)
  else .normal

end Volatility

/-! ## The composite regime -/

structure CompositeRegimeResult where
  compositeRegime : CompositeRegimeType
  volatilityRegime : MarketRegimeType

def classifyCompositeRegime (volatilityRegime : MarketRegimeType) (trendAboveSma : Bool) :
    CompositeRegimeType :=
  if ¬ trendAboveSma then if volatilityRegime = .extreme then .extreme else .bear
  else if volatilityRegime = .highVolatility ∨ volatilityRegime = .extreme then .neutral
  else .bull

def summaryClose (summary : PriceSummary) : ℚ := summary.close.getD summary.avg

def computeCompositeRegime (math : Js.Math) (btcCoinId : CoinId) (priceCtx : PriceTrackingContext) :
    Option CompositeRegimeResult := do
  let btcWindow := (← priceCtx.tracking.get? btcCoinId).window
  if btcWindow.count < REGIME_SMA_PERIOD then none
  let sma200 ← (priceCtx.btcRegimeSma.filter (·.filled)).bind (·.value)
  let latestBtcPrice ← btcWindow.last.map summaryClose
  let volatility := volatilityRegime math (btcWindow.toArray.map summaryClose)
  some ⟨classifyCompositeRegime volatility (sma200 < latestBtcPrice), volatility⟩

/-! ## Configuration -/

structure RegimeOptions where
  enableRegimeGate : Option Bool := none
  enableRegimeScaledSizing : Option Bool := none
  riskLevel : Option ℤ := none

structure RegimeConfig where
  enableRegimeScaledSizing : Bool
  riskLevel : ℤ
  regimeGateEnabled : Bool
  btcCoin : Option Coin

/-- The gate is on for the two lowest risk levels unless it is set. -/
def resolveRegimeConfig (options : RegimeOptions) (coins : List Coin) : RegimeConfig :=
  let enableRegimeScaledSizing := options.enableRegimeScaledSizing.getD true
  let riskLevel := options.riskLevel.getD DEFAULT_RISK_LEVEL
  let regimeGateEnabled := options.enableRegimeGate.getD (riskLevel ≤ 2)
  { enableRegimeScaledSizing := enableRegimeScaledSizing
    riskLevel := riskLevel
    regimeGateEnabled := regimeGateEnabled
    btcCoin :=
      if regimeGateEnabled ∨ enableRegimeScaledSizing then
        coins.find? (·.symbol.toUpper = "BTC")
      else none }

/-- Follow the closes of Bitcoin from here on, when the run looks at them. -/
def trackRegime (btcCoin : Option Coin) (priceCtx : PriceTrackingContext) : PriceTrackingContext :=
  match btcCoin with
  | none => priceCtx
  | some coin =>
    { priceCtx with
      btcRegimeSma := some { period := REGIME_SMA_PERIOD }
      btcCoinId := some coin.id }

/-! ## Filters -/

/-- A batch of signals with the allocation limits their orders are sized by. -/
structure FilteredSignals where
  signals : List TradingSignal
  maxAllocation : ℚ
  minAllocation : ℚ

structure ConcentrationContext where
  portfolioPositions : OrdMap CoinId Position
  portfolioTotalValue : ℚ
  currentPrices : OrdMap CoinId ℚ

structure RegimeMultipliers where
  bull : ℚ := 1
  neutral : ℚ
  bear : ℚ
  extreme : ℚ

def DEFAULT_REGIME_MULTIPLIERS : RegimeMultipliers := ⟨1, 5 / 10, 10 / 100, 5 / 100⟩

def RISK_REGIME_MULTIPLIER_MATRIX (riskLevel : ℤ) : Option RegimeMultipliers :=
  match riskLevel with
  | 1 => some ⟨1, 4 / 10, 5 / 100, 2 / 100⟩
  | 2 => some ⟨1, 45 / 100, 8 / 100, 3 / 100⟩
  | 3 => some ⟨1, 5 / 10, 10 / 100, 5 / 100⟩
  | 4 => some ⟨1, 6 / 10, 15 / 100, 8 / 100⟩
  | 5 => some ⟨1, 7 / 10, 20 / 100, 10 / 100⟩
  | _ => none

def getRegimeMultiplier (riskLevel : ℤ) (compositeRegime : CompositeRegimeType) : ℚ :=
  let multipliers := (RISK_REGIME_MULTIPLIER_MATRIX riskLevel).getD DEFAULT_REGIME_MULTIPLIERS
  match compositeRegime with
  | .bull => multipliers.bull
  | .neutral => multipliers.neutral
  | .bear => multipliers.bear
  | .extreme => multipliers.extreme

def isBuyBlocked (compositeRegime : CompositeRegimeType) (signal : TradingSignal) : Bool :=
  ¬ (signal.originalType = some .stopLoss ∨ signal.originalType = some .takeProfit) ∧
    signal.action = .buy ∧ (compositeRegime = .bear ∨ compositeRegime = .extreme)

/-- `RegimeFilter` as backtests use it: the caller decides whether the gate is on. -/
def regimeFilter (config : RegimeConfig) (compositeRegime : CompositeRegimeType)
    (batch : FilteredSignals) : FilteredSignals :=
  let multiplier :=
    if config.enableRegimeScaledSizing then getRegimeMultiplier config.riskLevel compositeRegime
    else 1
  { signals :=
      if config.regimeGateEnabled then batch.signals.filter (¬ isBuyBlocked compositeRegime ·)
      else batch.signals
    maxAllocation := batch.maxAllocation * multiplier
    minAllocation := batch.minAllocation * multiplier }

structure ConcentrationLimits where
  hard : ℚ
  soft : ℚ

def CONCENTRATION_LIMITS (riskLevel : ℤ) : ConcentrationLimits :=
  match riskLevel with
  | 1 => ⟨25 / 100, 20 / 100⟩
  | 2 => ⟨30 / 100, 25 / 100⟩
  | 4 => ⟨45 / 100, 40 / 100⟩
  | 5 => ⟨55 / 100, 50 / 100⟩
  -- level 3, and the fallback for a level that is not listed
  | _ => ⟨35 / 100, 30 / 100⟩

/-- The share of the portfolio that a position takes. A short counts as its quantity does. -/
def concentration (ctx : ConcentrationContext) (coinId : CoinId) (position : Position) : ℚ :=
  position.quantity * (ctx.currentPrices.get? coinId).getD position.averagePrice /
    ctx.portfolioTotalValue

def concentrationFilter (riskLevel : ℤ) (concentrationContext : Option ConcentrationContext)
    (batch : FilteredSignals) : FilteredSignals :=
  match concentrationContext with
  | none => batch
  | some ctx =>
    let limits := CONCENTRATION_LIMITS riskLevel
    if batch.signals = [] ∨ ctx.portfolioTotalValue ≤ 0 then batch
    else
      { batch with
        maxAllocation := ctx.portfolioPositions.entries.foldl
          (fun adjustedMax e =>
            let share := concentration ctx e.1 e.2
            if limits.soft < share then min adjustedMax (max 0 (limits.hard - share))
            else adjustedMax)
          batch.maxAllocation
        signals := batch.signals.filter fun signal =>
          (signal.action ≠ .buy ∧ signal.action ≠ .openShort) ∨ signal.coinId = "" ∨
            (ctx.portfolioPositions.get? signal.coinId).all fun position =>
              concentration ctx signal.coinId position < limits.hard }

def buildConcentrationContext (portfolio : Portfolio) (marketData : MarketData) :
    Option ConcentrationContext :=
  if 0 < portfolio.positions.size then
    some ⟨portfolio.positions, portfolio.totalValue, marketData.prices⟩
  else none

def applyBarRegime (config : RegimeConfig) (concentrationContext : Option ConcentrationContext)
    (regime : Option CompositeRegimeResult) (batch : FilteredSignals) : FilteredSignals :=
  match config.btcCoin, regime with
  | some _, some result =>
    if batch.signals = [] then batch
    else
      concentrationFilter config.riskLevel concentrationContext
        (regimeFilter config result.compositeRegime batch)
  | _, _ => batch

/-! ## What the filters keep -/

theorem concentrationFilter_sublist (context : Option ConcentrationContext) (riskLevel : ℤ)
    (batch : FilteredSignals) :
    (concentrationFilter riskLevel context batch).signals.Sublist batch.signals := by
  unfold concentrationFilter
  cases context with
  | none => exact List.Sublist.refl _
  | some =>
    dsimp only
    split_ifs
    · exact List.Sublist.refl _
    · exact List.filter_sublist

end Chansey
