import Chansey.Algorithm
import Chansey.Executor.ForcedExit
import Chansey.Loop.Throttle

/-!
# The loop context

What a run is configured with, the market of one bar, and what the trading code of a bar changes.
-/

namespace Chansey

structure OpportunitySellingUserConfig where
  minOpportunityConfidence : ℚ := 7 / 10
  minHoldingPeriodHours : ℚ := 48
  protectGainsAbovePercent : ℚ := 15
  protectedCoins : List CoinId := []
  maxLiquidationPercent : ℚ := 30
  useAlgorithmRanking : Bool := true

structure Backtest where
  id : String
  tradingFee : ℚ
  initialCapital : ℚ
  startDate : Instant
  endDate : Instant
  /-- `configSnapshot?.parameters ?? {}` -/
  parameters : Metadata := OrdMap.empty
  /-- `configSnapshot?.slippage` -/
  slippage : Option SlippageSnapshot := none
  /-- `configSnapshot?.regime?.riskLevel` -/
  regimeRiskLevel : Option ℤ := none

/-- The part of the context that trading a signal reads. -/
structure TradingConfig where
  backtest : Backtest
  slippageConfig : SlippageConfig
  minHoldMs : ℤ
  maxAllocation : ℚ
  minAllocation : ℚ
  oppSellingEnabled : Bool
  oppSellingConfig : OpportunitySellingUserConfig
  coinMap : OrdMap CoinId Coin
  quoteCoin : Coin

/-- The market a bar trades on: prices, candles, and the candles of the bars before. -/
structure BarMarket where
  marketData : MarketData
  currentPrices : List OHLCCandle
  prevCandleMap : OrdMap CoinId OHLCCandle

def TradingConfig.order (cfg : TradingConfig) (market : BarMarket) (signal : TradingSignal)
    (minHoldMs : ℤ) (maxAllocation minAllocation : ℚ) : ExecuteTradeParams where
  signal := signal
  marketData := market.marketData
  tradingFee := cfg.backtest.tradingFee
  slippageConfig := cfg.slippageConfig
  dailyVolume := extractDailyVolume (candleMap market.currentPrices) signal.coinId
  minHoldMs := minHoldMs
  maxAllocation := maxAllocation
  minAllocation := minAllocation
  defaultLeverage := 1
  spreadContext :=
    buildSpreadContext (candleMap market.currentPrices) signal.coinId market.prevCandleMap

/-- What the trading code of a bar reads and writes. -/
structure Books where
  portfolio : Portfolio
  exitTracker : Option BacktestExitTracker
  trades : List BacktestTrade := []
  signals : List BacktestSignal := []
  simulatedFills : List SimulatedOrderFill := []
  deriving DecidableEq

def cancelledFill (cfg : TradingConfig) (timestamp : Instant) (coinId : CoinId)
    (result : ExecuteTradeResult) (metadata : Metadata) : SimulatedOrderFill where
  status := .cancelled
  filledQuantity := 0
  averagePrice := result.trade.price
  fees := some 0
  slippageBps := result.slippageBps
  executionTimestamp := timestamp
  instrument := coinId
  metadata := result.requestedQuantity.elim metadata fun q =>
    metadata.set "requestedQuantity" (.num q)
  backtest := cfg.backtest.id

def executedFill (cfg : TradingConfig) (timestamp : Instant) (coinId : CoinId)
    (result : ExecuteTradeResult) (metadata : Metadata) : SimulatedOrderFill where
  status := result.fillStatus
  filledQuantity := result.trade.quantity
  averagePrice := result.trade.price
  fees := result.trade.fee
  slippageBps := result.slippageBps
  executionTimestamp := timestamp
  instrument := coinId
  metadata := metadata
  backtest := cfg.backtest.id

def executedTrade (cfg : TradingConfig) (timestamp : Instant) (baseCoin : Option Coin)
    (result : ExecuteTradeResult) : BacktestTrade :=
  { result.trade with
    executedAt := some timestamp
    backtest := some cfg.backtest.id
    baseCoin := baseCoin.map (·.id)
    quoteCoin := some cfg.quoteCoin.id }

end Chansey
