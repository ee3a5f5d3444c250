import Chansey.Loop.Context

/-!
# Exit signals

The exits a bar triggers, filled one by one. A filled exit is no longer tracked, whatever quantity
was filled.

* `resolveExitTracker`: the tracker of a run, restored or new; none when nothing is enabled.
-/

namespace Chansey

structure ResolveExitTrackerOptions where
  exitConfig : Option ExitConfig := none
  enableHardStopLoss : Bool := true
  hardStopLossPercent : ℚ := 5 / 100
  resumeExitTrackerState : Option BacktestExitTracker.SerializableState := none

def effectiveExitConfig (opts : ResolveExitTrackerOptions) : Option ExitConfig :=
  let config :=
    match opts.exitConfig with
    | some config => some (resolveExitConfig [DEFAULT_BACKTEST_EXIT_CONFIG.toLayer, config.toLayer])
    | none =>
      if opts.enableHardStopLoss then
        some { DEFAULT_BACKTEST_EXIT_CONFIG with stopLossValue := opts.hardStopLossPercent * 100 }
      else none
  config.filter fun c => c.enableStopLoss ∨ c.enableTakeProfit ∨ c.enableTrailingStop

def resolveExitTracker (opts : ResolveExitTrackerOptions) : Option BacktestExitTracker :=
  (effectiveExitConfig opts).map fun config =>
    match opts.resumeExitTrackerState with
    | some state => BacktestExitTracker.deserialize state config
    | none => { config := config }

/-- The sell a triggered exit asks for. The lightweight mode keeps only the kind of exit. -/
def exitTradingSignal (fullFidelity : Bool) (exitSig : ExitSignal) : TradingSignal where
  action := .sell
  coinId := exitSig.coinId
  quantity := some exitSig.quantity
  reason := exitSig.reason
  confidence := some 1
  originalType := some (if exitSig.exitType = .takeProfit then .takeProfit else .stopLoss)
  metadata :=
    (if fullFidelity then exitSig.metadata else OrdMap.empty).set "exitType"
      (.str exitSig.exitType.text)

def exitSignalRecord (cfg : TradingConfig) (timestamp : Instant) (exitSig : ExitSignal) :
    BacktestSignal where
  timestamp := timestamp
  signalType := .riskControl
  instrument := exitSig.coinId
  direction := .short
  quantity := exitSig.quantity
  price := some exitSig.executionPrice
  reason := exitSig.reason
  confidence := some 1
  payload := exitSig.metadata
  backtest := cfg.backtest.id

def exitOrder (cfg : TradingConfig) (fullFidelity : Bool) (market : BarMarket)
    (exitSig : ExitSignal) : ExecuteTradeParams :=
  let order := cfg.order market (exitTradingSignal fullFidelity exitSig) 0 cfg.maxAllocation
    cfg.minAllocation
  { order with dailyVolume := if fullFidelity then order.dailyVolume else none }

section ExitSignals

variable (math : Js.Math) (cfg : TradingConfig) (fullFidelity : Bool) (market : BarMarket)

/-- Record the outcome of an exit. A filled one is no longer tracked. -/
def bookExit (exitSig : ExitSignal) (books : Books) : Option ExecuteTradeResult → Books
  | none => books
  | some result =>
    let timestamp := market.marketData.timestamp
    let metadata := result.trade.metadata.set "exitType" (.str exitSig.exitType.text)
    if result.fillStatus = .cancelled then
      if fullFidelity then
        { books with
          simulatedFills := books.simulatedFills ++
            [cancelledFill cfg timestamp exitSig.coinId result metadata] }
      else books
    else
      let untracked := books.exitTracker.map (·.removePosition exitSig.coinId)
      if fullFidelity then
        { books with
          trades := books.trades ++
            [executedTrade cfg timestamp (cfg.coinMap.get? exitSig.coinId) result]
          simulatedFills := books.simulatedFills ++
            [executedFill cfg timestamp exitSig.coinId result metadata]
          exitTracker := untracked }
      else
        { books with
          trades := books.trades ++ [{ result.trade with executedAt := some timestamp }]
          exitTracker := untracked }

def fillExit (books : Books) (exitSig : ExitSignal) : Except LoopError Books := do
  let recorded :=
    if fullFidelity then
      { books with
        signals := books.signals ++ [exitSignalRecord cfg market.marketData.timestamp exitSig] }
    else books
  let (result?, portfolio) ← executeTrade math (exitOrder cfg fullFidelity market exitSig)
    books.portfolio
  return bookExit cfg fullFidelity market exitSig { recorded with portfolio := portfolio } result?

def triggeredExits (tracker : BacktestExitTracker) (currentBar : ℕ) :
    BacktestExitTracker × List ExitSignal :=
  let candles := market.currentPrices
  tracker.checkExits market.marketData.prices
    (OrdMap.ofEntries (candles.map fun c => (c.coinId, c.low)))
    (OrdMap.ofEntries (candles.map fun c => (c.coinId, c.high))) currentBar

def processExitSignals (currentBar : ℕ) (books : Books) : Except LoopError Books :=
  match books.exitTracker with
  | none => .ok books
  | some tracker =>
    let (checked, exits) := triggeredExits market tracker currentBar
    exits.foldlM (fillExit math cfg fullFidelity market) { books with exitTracker := some checked }

end ExitSignals

def portfolioToHoldings (portfolio : Portfolio) (prices : OrdMap CoinId ℚ) :
    OrdMap CoinId Holding :=
  portfolio.positions.map fun coinId position =>
    let price := (prices.get? coinId).getD 0
    { quantity := position.quantity, value := position.quantity * price, price := price }

end Chansey
