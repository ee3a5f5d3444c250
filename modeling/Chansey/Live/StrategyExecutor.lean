import Chansey.Algorithm
import Chansey.Lib.Ranking
import Chansey.Loop.ThrottleLimits

/-!
# The strategy executor of live trading

What `executeStrategy` does with the result of an algorithm: the actionable signals pass the
throttle, the best of those left becomes a trading signal. The ledgers of the throttle stay between
the cycles, one for each strategy configuration.
-/

namespace Chansey

/-- A signal of an algorithm with the price it suggests. -/
structure LiveSignal extends StrategySignal where
  price : Option ℚ := none

inductive LiveAction where
  | buy | sell | hold | shortEntry | shortExit
  deriving DecidableEq

/-- `TradingSignal` of the executor. -/
structure LiveTradingSignal where
  action : LiveAction
  symbol : String
  quantity : ℚ
  price : ℚ
  reason : String
  confidence : ℚ
  exitConfig : Option PartialExitConfig
  coinId : CoinId
  originalType : AlgoSignalType

/-- `MarketData` of the executor: the price of a pair. -/
structure PairPrice where
  symbol : String
  price : ℚ

/-! ## The throttle of live signals -/

def SIGNAL_TYPE_TO_ACTION : AlgoSignalType → Action
  | .buy => .buy
  | .sell | .stopLoss | .takeProfit => .sell
  | .shortEntry => .openShort
  | .shortExit => .closeShort
  | .hold => .hold

def toThrottleSignal (signal : LiveSignal) : TradingSignal where
  action := SIGNAL_TYPE_TO_ACTION signal.type
  coinId := signal.coinId
  quantity := signal.quantity
  reason := signal.reason
  confidence := some signal.confidence
  originalType := some signal.type
  exitConfig := signal.exitConfig

def surviving (actionableSignals : List LiveSignal) (throttleOutput : List TradingSignal) :
    List LiveSignal :=
  let acceptedKeys := throttleOutput.map TradingSignal.cooldownKey
  actionableSignals.filter fun s => (toThrottleSignal s).cooldownKey ∈ acceptedKeys

/-- `markExecutedFromAlgo`: signals that bypass the throttle leave no mark. -/
def markExecutedFromAlgo (state : ThrottleState) (signalType : AlgoSignalType) (coinId : CoinId)
    (now : Instant) : ThrottleState :=
  if coinId = "" then state
  else if signalType = .stopLoss ∨ signalType = .takeProfit ∨ signalType = .shortExit then state
  else markExecuted state { action := SIGNAL_TYPE_TO_ACTION signalType, coinId } now

structure ThrottleEntry where
  state : ThrottleState := {}
  lastAccessedAt : Instant

abbrev ThrottleStates := OrdMap String ThrottleEntry

def PRUNE_THRESHOLD : ℕ := 100

def STALE_AGE_MS : ℤ := 24 * 60 * 60 * 1000

/-- The ledger of a strategy, and the ledgers with this access noted. -/
def getThrottleState (states : ThrottleStates) (strategyId : String) (now : Instant) :
    ThrottleState × ThrottleStates :=
  let entry : ThrottleEntry :=
    (states.get? strategyId).elim { lastAccessedAt := now } ({ · with lastAccessedAt := now })
  let accessed := states.set strategyId entry
  (entry.state,
    if PRUNE_THRESHOLD < accessed.size then
      accessed.filter fun _ entry => now - STALE_AGE_MS ≤ entry.lastAccessedAt
    else accessed)

/-- The filter prunes the ledger where it is kept. -/
def updateThrottleState (states : ThrottleStates) (strategyId : String) (state : ThrottleState) :
    ThrottleStates :=
  (states.get? strategyId).elim states fun entry => states.set strategyId { entry with state }

/-- `markExecuted` of the executor: a strategy without a ledger is skipped. -/
def markThrottle (states : ThrottleStates) (strategyId : String) (signal : LiveTradingSignal)
    (now : Instant) : ThrottleStates :=
  (states.get? strategyId).elim states fun entry =>
    states.set strategyId
      { entry with state := markExecutedFromAlgo entry.state signal.originalType signal.coinId now }

/-! ## From a signal to an order -/

def mapSignalType : AlgoSignalType → LiveAction
  | .buy => .buy
  | .sell | .stopLoss | .takeProfit => .sell
  | .shortEntry => .shortEntry
  | .shortExit => .shortExit
  | .hold => .hold

def MAX_PER_TRADE_ALLOCATION : ℚ := 1 / 5

def MIN_PER_TRADE_ALLOCATION : ℚ := 1 / 20

def quotePreference : List String := ["USDT", "USDC", "BUSD", "DAI"]

def findMarketEntry (coin : Coin) (marketData : List PairPrice) : Option PairPrice :=
  let preferred := quotePreference.filterMap fun q =>
    marketData.find? fun m => m.symbol = coin.symbol ++ "/" ++ q
  preferred.head?.or (marketData.find? fun m => m.symbol.startsWith (coin.symbol ++ "/"))

/-- Entries are kept between the floor and the cap of a trade. Exits are taken as they come. -/
def boundQuantity (action : LiveAction) (availableCapital price quantity : ℚ) : ℚ :=
  if action = .buy ∨ action = .shortEntry then
    let maxQuantity := availableCapital * MAX_PER_TRADE_ALLOCATION / price
    let minQuantity := availableCapital * MIN_PER_TRADE_ALLOCATION / price
    if maxQuantity < quantity then maxQuantity
    else if quantity < minQuantity ∧ 0 < quantity then minQuantity
    else quantity
  else quantity

def mapAlgorithmSignal (signal : LiveSignal) (coins : List Coin) (marketData : List PairPrice)
    (availableCapital : ℚ) (resultExitConfig : Option PartialExitConfig) :
    Option LiveTradingSignal :=
  (coins.find? (·.id = signal.coinId)).bind fun coin =>
    let marketEntry := findMarketEntry coin marketData
    ((Js.truthy? signal.price).or (marketEntry.map (·.price))).bind fun price =>
      if price ≤ 0 then none
      else
        let quantity := (Js.truthy? signal.quantity).getD (availableCapital * signal.strength / price)
        let action := mapSignalType signal.type
        some
          { action
            symbol := (marketEntry.map (·.symbol)).getD (coin.symbol ++ "/USDT")
            quantity := boundQuantity action availableCapital price quantity
            price
            reason := signal.reason
            confidence := signal.confidence
            exitConfig := signal.exitConfig.or resultExitConfig
            coinId := signal.coinId
            originalType := signal.type }

/-! ## One cycle of a strategy -/

namespace StrategyExecutor

def MIN_CONFIDENCE_THRESHOLD : ℚ := 1 / 2

def actionable (signals : List LiveSignal) : List LiveSignal :=
  signals.filter fun s => s.type ≠ .hold ∧ MIN_CONFIDENCE_THRESHOLD ≤ s.confidence

/-- The surviving signals are sorted by confidence, and the first is taken. -/
def chooseSignal (actionableSignals : List LiveSignal) (throttleOutput : List TradingSignal) :
    Option LiveSignal :=
  ((surviving actionableSignals throttleOutput).insertionSort
    fun a b => b.confidence ≤ a.confidence).head?

end StrategyExecutor

structure StrategyCycle where
  strategyId : String
  parameters : Metadata
  success : Bool
  signals : List LiveSignal
  exitConfig : Option PartialExitConfig
  coins : List Coin
  marketData : List PairPrice
  availableCapital : ℚ

open StrategyExecutor in
def throttleCycle (states : ThrottleStates) (cycle : StrategyCycle) (now : Instant) :
    List TradingSignal × ThrottleStates :=
  if cycle.success = false ∨ actionable cycle.signals = [] then ([], states)
  else
    let (throttleState, accessed) := getThrottleState states cycle.strategyId now
    let (result, pruned) :=
      filterSignals ((actionable cycle.signals).map toThrottleSignal) throttleState
        (resolveThrottleConfig cycle.parameters) now
    (result.accepted, updateThrottleState accessed cycle.strategyId pruned)

open StrategyExecutor in
def executeStrategy (states : ThrottleStates) (cycle : StrategyCycle) (now : Instant) :
    Option LiveTradingSignal × ThrottleStates :=
  let (throttleOutput, after) := throttleCycle states cycle now
  ((chooseSignal (actionable cycle.signals) throttleOutput).bind fun best =>
    mapAlgorithmSignal best cycle.coins cycle.marketData cycle.availableCapital cycle.exitConfig,
    after)

end Chansey
