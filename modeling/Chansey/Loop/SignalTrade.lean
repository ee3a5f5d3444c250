import Chansey.Loop.OpportunitySell

/-!
# Trading a signal

A signal is recorded, executed, and its outcome booked: trade row, fill row and exit tracker.

* `recordTradeResult`: book the outcome of an executed signal.
-/

namespace Chansey

def signalRecord (cfg : TradingConfig) (market : BarMarket) (signal : TradingSignal) :
    BacktestSignal where
  timestamp := market.marketData.timestamp
  signalType := classifySignalType signal
  instrument := signal.coinId
  direction := resolveDirection signal
  quantity := (signal.quantity.or signal.percentage).getD 0
  price := market.marketData.prices.get? signal.coinId
  reason := signal.reason
  confidence := signal.confidence
  payload := signal.metadata
  strategyExitConfig := signal.exitConfig
  backtest := cfg.backtest.id

/-- A positive average true range in the metadata of a signal. -/
def signalAtr (signal : TradingSignal) : Option ℚ :=
  (Metadata.number? signal.metadata "currentAtr").filter (0 < ·)

def trackTrade (tracker : BacktestExitTracker) (signal : TradingSignal) (trade : BacktestTrade) :
    BacktestExitTracker :=
  match signal.action with
  | .buy =>
    tracker.onBuy signal.coinId trade.price trade.quantity (signalAtr signal) signal.exitConfig
  | .sell => tracker.onSell signal.coinId trade.quantity
  | _ => tracker

def recordTradeResult (cfg : TradingConfig) (timestamp : Instant) (signal : TradingSignal)
    (result : ExecuteTradeResult) (books : Books) : Except LoopError Books :=
  if result.fillStatus = .cancelled then
    .ok { books with
      simulatedFills := books.simulatedFills ++
        [cancelledFill cfg timestamp signal.coinId result result.trade.metadata] }
  else
    match cfg.coinMap.get? signal.coinId with
    | none =>
      .error (.error ("baseCoin not found for coinId " ++ signal.coinId ++
        ". Ensure all coins referenced by the algorithm are included in the backtest."))
    | some baseCoin =>
      .ok { books with
        trades := books.trades ++ [executedTrade cfg timestamp (some baseCoin) result]
        simulatedFills := books.simulatedFills ++
          [executedFill cfg timestamp signal.coinId result result.trade.metadata]
        exitTracker := books.exitTracker.map fun t => trackTrade t signal result.trade }

/-- Execute a signal and book its outcome. The flag says whether there was one. -/
def tradeSignal (math : Js.Math) (cfg : TradingConfig) (market : BarMarket)
    (barMaxAllocation barMinAllocation : ℚ) (signal : TradingSignal) (books : Books) :
    Except LoopError (Bool × Books) := do
  let (result?, portfolio) ← executeTrade math
    (cfg.order market signal cfg.minHoldMs barMaxAllocation barMinAllocation) books.portfolio
  match result? with
  | none => return (false, { books with portfolio := portfolio })
  | some result =>
    let booked ← recordTradeResult cfg market.marketData.timestamp signal result
      { books with portfolio := portfolio }
    return (true, booked)

def processSignalTrade (math : Js.Math) (cfg : TradingConfig) (market : BarMarket)
    (barMaxAllocation barMinAllocation : ℚ) (books : Books) (signal : TradingSignal) :
    Except LoopError Books := do
  let recorded := { books with signals := books.signals ++ [signalRecord cfg market signal] }
  let (traded, booked) ← tradeSignal math cfg market barMaxAllocation barMinAllocation signal
    recorded
  if ¬ traded ∧ signal.action = .buy ∧ cfg.oppSellingEnabled then
    let (sold, freed) ← attemptOpportunitySelling math cfg market signal barMaxAllocation
      barMinAllocation booked
    if sold then
      let (_, retried) ← tradeSignal math cfg market barMaxAllocation barMinAllocation signal freed
      return retried
    else return freed
  else return booked

end Chansey
