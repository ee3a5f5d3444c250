import Chansey.Lib.OrdMap
import Chansey.Lib.Number

/-!
# Data of a backtest

Candles, signals, positions, the portfolio and the rows a run records. Instants are milliseconds
since the epoch; a `Date` and its ISO string are read as the same instant. Numbers are exact.

* `OHLCCandle`, `PriceSummary`, `MarketData`: market data.
-/

namespace Chansey

abbrev CoinId := String

/-- Milliseconds since the epoch. -/
abbrev Instant := ℤ

def HOUR_MS : ℤ := 60 * 60 * 1000

/-- What ends a run with an exception. -/
inductive LoopError where
  | error (message : String)
  /-- `AlgorithmNotRegisteredException`: never counted as an algorithm failure. -/
  | algorithmNotRegistered (message : String)
  /-- `BacktestAbortedError`: the emergency checkpoint was written. -/
  | aborted (backtestId : String)
  /-- No exception of the source: it goes on with `NaN`, of which nothing is modelled. -/
  | notANumber
  deriving DecidableEq

def LoopError.message : LoopError → String
  | .error message => message
  | .algorithmNotRegistered message => message
  | .aborted backtestId => "Backtest " ++ backtestId ++ " aborted due to application shutdown"
  | .notANumber => "NaN"

/-! ## Market data -/

structure Coin where
  id : CoinId
  symbol : String

structure OHLCCandle where
  coinId : CoinId
  timestamp : Instant
  openPrice : ℚ
  high : ℚ
  low : ℚ
  close : ℚ
  volume : ℚ := 0
  quoteVolume : Option ℚ := none
  deriving DecidableEq

structure PriceSummary where
  coin : CoinId
  date : Instant
  avg : ℚ
  high : ℚ
  low : ℚ
  openPrice : Option ℚ := none
  close : Option ℚ := none
  volume : Option ℚ := none
  deriving DecidableEq

/-- `PriceSummaryByPeriod`: the price window of each coin, oldest bar first. -/
abbrev PriceSummaryByPeriod := OrdMap CoinId (List PriceSummary)

structure MarketData where
  timestamp : Instant
  prices : OrdMap CoinId ℚ

inductive PriceTimeframe where
  | hourly | fourHour | daily | weekly
  deriving DecidableEq

inductive MarketRegimeType where
  | lowVolatility | normal | highVolatility | extreme
  deriving DecidableEq

inductive CompositeRegimeType where
  | bull | neutral | bear | extreme
  deriving DecidableEq

/-! ## Signals -/

/-- A value of a `Record<string, unknown>`. -/
inductive MetaValue where
  | bool (b : Bool)
  | num (q : ℚ)
  | str (s : String)
  deriving DecidableEq

def MetaValue.truthy : MetaValue → Bool
  | .bool b => b
  | .num q => q ≠ 0
  | .str s => s ≠ ""

abbrev Metadata := OrdMap String MetaValue

/-- The value under `k` when it is a number. -/
def Metadata.number? (m : Metadata) (k : String) : Option ℚ :=
  match m.get? k with
  | some (.num q) => some q
  | _ => none

def Metadata.truthy (m : Metadata) (k : String) : Bool := ((m.get? k).map MetaValue.truthy).getD false

def Metadata.spread (m n : Metadata) : Metadata := n.entries.foldl (fun m e => m.set e.1 e.2) m

inductive Action where
  | buy | sell | hold | openShort | closeShort
  deriving DecidableEq

/-- `SignalType` of the algorithm interfaces. -/
inductive AlgoSignalType where
  | buy | sell | hold | stopLoss | takeProfit | shortEntry | shortExit
  deriving DecidableEq

inductive StopLossType where
  | fixed | percentage | atr
  deriving DecidableEq

inductive TakeProfitType where
  | fixed | percentage | riskReward
  deriving DecidableEq

inductive TrailingActivationType where
  | immediate | price | percentage
  deriving DecidableEq

inductive TrailingType where
  | amount | percentage | atr
  deriving DecidableEq

structure ExitConfig where
  enableStopLoss : Bool
  stopLossType : StopLossType
  stopLossValue : ℚ
  enableTakeProfit : Bool
  takeProfitType : TakeProfitType
  takeProfitValue : ℚ
  enableTrailingStop : Bool
  trailingType : TrailingType
  trailingValue : ℚ
  trailingActivation : TrailingActivationType
  trailingActivationValue : Option ℚ := none
  useOco : Bool
  exitCooldownBars : Option ℚ := none
  deriving DecidableEq

/-- `Partial<ExitConfig>`: an absent field leaves the lower layer as it is. -/
structure PartialExitConfig where
  enableStopLoss : Option Bool := none
  stopLossType : Option StopLossType := none
  stopLossValue : Option ℚ := none
  enableTakeProfit : Option Bool := none
  takeProfitType : Option TakeProfitType := none
  takeProfitValue : Option ℚ := none
  enableTrailingStop : Option Bool := none
  trailingType : Option TrailingType := none
  trailingValue : Option ℚ := none
  trailingActivation : Option TrailingActivationType := none
  trailingActivationValue : Option ℚ := none
  useOco : Option Bool := none
  exitCooldownBars : Option ℚ := none
  deriving DecidableEq

structure TradingSignal where
  action : Action
  coinId : CoinId
  quantity : Option ℚ := none
  percentage : Option ℚ := none
  reason : String := ""
  confidence : Option ℚ := none
  metadata : Metadata := OrdMap.empty
  originalType : Option AlgoSignalType := none
  exitConfig : Option PartialExitConfig := none
  deriving DecidableEq

/-! ## Holdings -/

inductive PositionSide where
  | long | short
  deriving DecidableEq

/-- The position of a coin. The coin is the key it is stored under, its `coinId` in the source. -/
structure Position where
  quantity : ℚ
  averagePrice : ℚ
  totalValue : ℚ
  entryDate : Option Instant := none
  side : Option PositionSide := none
  leverage : Option ℚ := none
  marginAmount : Option ℚ := none
  liquidationPrice : Option ℚ := none
  deriving DecidableEq

/-- An absent `totalMarginUsed` counts as `0`, as every reader of the field takes it. -/
structure Portfolio where
  cashBalance : ℚ
  positions : OrdMap CoinId Position
  totalValue : ℚ
  totalMarginUsed : ℚ := 0
  deriving DecidableEq

/-! ## Recorded rows -/

inductive TradeType where
  | buy | sell
  deriving DecidableEq

inductive SimulatedOrderStatus where
  | filled | partialFill | cancelled
  deriving DecidableEq

/-- `Partial<BacktestTrade>`. The relations `backtest`, `baseCoin` and `quoteCoin` are ids. -/
structure BacktestTrade where
  type : Option TradeType := none
  quantity : ℚ
  price : ℚ
  totalValue : Option ℚ := none
  fee : Option ℚ := none
  realizedPnL : Option ℚ := none
  realizedPnLPercent : Option ℚ := none
  costBasis : Option ℚ := none
  positionSide : Option PositionSide := none
  leverage : Option ℚ := none
  liquidationPrice : Option ℚ := none
  marginUsed : Option ℚ := none
  metadata : Metadata := OrdMap.empty
  executedAt : Option Instant := none
  backtest : Option String := none
  baseCoin : Option CoinId := none
  quoteCoin : Option CoinId := none
  deriving DecidableEq

/-- `SignalType` of the recorded signal. -/
inductive SignalType where
  | entry | exit | adjustment | riskControl
  deriving DecidableEq

inductive SignalDirection where
  | long | short | flat
  deriving DecidableEq

structure BacktestSignal where
  timestamp : Instant
  signalType : SignalType
  instrument : CoinId
  direction : SignalDirection
  quantity : ℚ
  price : Option ℚ
  reason : String
  confidence : Option ℚ
  payload : Metadata
  strategyExitConfig : Option PartialExitConfig := none
  backtest : String
  deriving DecidableEq

/-- Every simulated fill is a `MARKET` order. -/
structure SimulatedOrderFill where
  status : SimulatedOrderStatus
  filledQuantity : ℚ
  averagePrice : ℚ
  fees : Option ℚ
  slippageBps : ℚ
  executionTimestamp : Instant
  instrument : CoinId
  metadata : Metadata
  backtest : String
  deriving DecidableEq

structure Holding where
  quantity : ℚ
  value : ℚ
  price : ℚ

/-- A row of `backtest_performance_snapshots`. -/
structure PerformanceSnapshot where
  timestamp : Instant
  portfolioValue : ℚ
  cashBalance : ℚ
  holdings : OrdMap CoinId Holding
  cumulativeReturn : ℚ
  drawdown : ℚ
  backtest : String

end Chansey
