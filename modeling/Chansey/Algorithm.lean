import Chansey.Domain

/-!
# The algorithm interface

What a strategy is given on a bar and what it returns. A strategy is a function of its context.

* `AlgorithmContext`, `AlgorithmResult`, `Algorithm`.
-/

namespace Chansey

/-- Indicator series of each coin, padded where they are not yet defined. -/
abbrev PrecomputedIndicators := OrdMap CoinId (OrdMap String (List (Option ℚ)))

structure AlgorithmContext where
  coins : List Coin
  priceData : PriceSummaryByPeriod
  timestamp : Instant
  config : Metadata
  positions : OrdMap CoinId ℚ
  availableBalance : ℚ
  metadata : Metadata
  precomputedIndicators : Option PrecomputedIndicators
  currentTimestampIndex : ℕ
  priceDataByTimeframe : Option (OrdMap PriceTimeframe PriceSummaryByPeriod)
  compositeRegime : Option CompositeRegimeType
  volatilityRegime : Option MarketRegimeType

/-- `TradingSignal` of the algorithm interfaces. -/
structure StrategySignal where
  type : AlgoSignalType
  coinId : CoinId
  strength : ℚ
  quantity : Option ℚ := none
  confidence : ℚ
  reason : String := ""
  metadata : Metadata := OrdMap.empty
  exitConfig : Option PartialExitConfig := none

structure AlgorithmResult where
  success : Bool
  signals : List StrategySignal
  exitConfig : Option PartialExitConfig := none

/-- `algorithmRegistry.executeAlgorithm` of one algorithm. A time-out is an error it returns. -/
abbrev Algorithm := AlgorithmContext → Except LoopError AlgorithmResult

def mapStrategySignal (signal : StrategySignal) (resultExitConfig : Option PartialExitConfig) :
    TradingSignal where
  action :=
    match signal.type with
    | .buy => .buy
    | .sell | .stopLoss | .takeProfit => .sell
    | .shortEntry => .openShort
    | .shortExit => .closeShort
    | .hold => .hold
  coinId := signal.coinId
  quantity := signal.quantity
  percentage := some signal.strength
  reason := signal.reason
  confidence := some signal.confidence
  metadata := signal.metadata
  originalType := some signal.type
  -- the signal's own configuration wins over the result's
  exitConfig := signal.exitConfig.or resultExitConfig

def tradingSignals (result : AlgorithmResult) : List TradingSignal :=
  if ¬ result.success then []
  else (result.signals.map fun s => mapStrategySignal s result.exitConfig).filter (·.action ≠ .hold)

def classifySignalType (signal : TradingSignal) : SignalType :=
  if signal.originalType = some .stopLoss ∨ signal.originalType = some .takeProfit then .riskControl
  else
    match signal.action with
    | .buy | .openShort => .entry
    | .sell | .closeShort => .exit
    | .hold => .adjustment

def resolveDirection (signal : TradingSignal) : SignalDirection :=
  match signal.action with
  | .buy => .long
  | .sell | .openShort | .closeShort => .short
  | .hold => .flat

end Chansey
