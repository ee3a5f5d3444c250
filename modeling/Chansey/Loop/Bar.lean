import Chansey.Loop.Events
import Chansey.Loop.Regime
import Chansey.SeededRandom

/-!
# One bar of the loop

What the loop carries from bar to bar, and what a bar does: windows, queued signals at the open,
forced exits, exits, the strategy and its filters at the close.
-/

namespace Chansey

open Result Run

/-- What a run is set up with and never changes. -/
structure LoopConfig extends LoopEnv where
  algorithm : Algorithm
  isLiveReplay : Bool := false
  coins : List Coin
  pricesByTimestamp : OrdMap Instant (List OHLCCandle)
  timestamps : List Instant
  algoMetadata : Metadata := OrdMap.empty
  precomputedIndicators : Option PrecomputedIndicators := none
  regime : RegimeConfig
  throttle : SignalThrottleConfig := DEFAULT_THROTTLE_CONFIG
  effectiveTradingStartIndex : ℕ
  effectiveTimestampCount : ℕ

/-- What the loop carries from bar to bar. -/
structure LoopState where
  rng : SeededRandom
  portfolio : Portfolio
  peakValue : ℚ
  maxDrawdown : ℚ
  exitTracker : Option BacktestExitTracker
  throttleState : ThrottleState
  /-- Signals of the bar before, to be filled at the next open. -/
  pendingSignals : List TradingSignal
  consecutiveErrors : ℕ
  prevCandleMap : OrdMap CoinId OHLCCandle
  lastKnownPrices : OrdMap CoinId ℚ
  priceCtx : PriceTrackingContext

structure BarRows where
  trades : List BacktestTrade := []
  signals : List BacktestSignal := []
  simulatedFills : List SimulatedOrderFill := []
  snapshots : List PerformanceSnapshot := []

def LoopState.books (state : LoopState) : Books where
  portfolio := state.portfolio
  exitTracker := state.exitTracker

/-! ## The market of a bar -/

structure Bar where
  index : ℕ
  timestamp : Instant
  currentPrices : List OHLCCandle

def LoopConfig.bar (cfg : LoopConfig) (i : ℕ) : Bar :=
  let timestamp := cfg.timestamps.getD i 0
  ⟨i, timestamp, (cfg.pricesByTimestamp.get? timestamp).getD []⟩

/-- A price of each candle; of two candles of a coin the later one counts. -/
def priceMap (value : OHLCCandle → ℚ) (currentPrices : List OHLCCandle) : OrdMap CoinId ℚ :=
  OrdMap.ofEntries (currentPrices.map fun c => (c.coinId, value c))

def Bar.marketAt (bar : Bar) (value : OHLCCandle → ℚ) (prevCandleMap : OrdMap CoinId OHLCCandle) :
    BarMarket where
  marketData := { timestamp := bar.timestamp, prices := priceMap value bar.currentPrices }
  currentPrices := bar.currentPrices
  prevCandleMap := prevCandleMap

/-! ## The strategy -/

def MAX_CONSECUTIVE_ERRORS : ℕ := 10

structure BarWindows where
  priceData : PriceSummaryByPeriod
  higherTimeframes : OrdMap PriceTimeframe PriceSummaryByPeriod

def advanceBarWindows (priceCtx : PriceTrackingContext) (coins : List Coin) (timestamp : Instant) :
    PriceTrackingContext × BarWindows :=
  let (hourly, priceData) := advancePriceWindows priceCtx coins timestamp
  let (advanced, higherTimeframes) := advanceMultiTimeframeWindows hourly coins timestamp
  (advanced, ⟨priceData, higherTimeframes⟩)

def BarWindows.byTimeframe (windows : BarWindows) :
    Option (OrdMap PriceTimeframe PriceSummaryByPeriod) :=
  if windows.higherTimeframes.size = 0 then none
  else some <|
    windows.higherTimeframes.entries.foldl (fun m e => m.set e.1 e.2)
      (OrdMap.empty.set .hourly windows.priceData)

def buildAlgorithmContext (cfg : LoopConfig) (bar : Bar) (windows : BarWindows)
    (regime : Option CompositeRegimeResult) (portfolio : Portfolio) : AlgorithmContext where
  coins := cfg.coins
  priceData := windows.priceData
  timestamp := bar.timestamp
  config := cfg.cfg.backtest.parameters
  positions := portfolio.positions.map fun _ p => p.quantity
  availableBalance := portfolio.cashBalance
  metadata := cfg.algoMetadata
  precomputedIndicators := cfg.precomputedIndicators
  currentTimestampIndex := bar.index
  priceDataByTimeframe := windows.byTimeframe
  compositeRegime := regime.map (·.compositeRegime)
  volatilityRegime := regime.map (·.volatilityRegime)

/-- The signals of the strategy, and how often in a row it has failed. -/
def executeAlgorithmWithRetry (algorithm : Algorithm) (context : AlgorithmContext)
    (consecutiveErrors : ℕ) : Except LoopError (List TradingSignal × ℕ) :=
  match algorithm context with
  | .ok result => .ok (tradingSignals result, 0)
  | .error (.algorithmNotRegistered message) => .error (.algorithmNotRegistered message)
  | .error e =>
    if MAX_CONSECUTIVE_ERRORS ≤ consecutiveErrors + 1 then
      .error (.error ("Algorithm failed " ++ toString MAX_CONSECUTIVE_ERRORS ++
        " consecutive times. Last error: " ++ e.message))
    else .ok ([], consecutiveErrors + 1)

def barRegime (math : Js.Math) (regime : RegimeConfig) (priceCtx : PriceTrackingContext) :
    Option CompositeRegimeResult :=
  regime.btcCoin.bind fun coin => computeCompositeRegime math coin.id priceCtx

/-! ## The books of a bar -/

section Books

variable (cfg : LoopConfig)

def flushPendingSignals (openMarket : BarMarket) (pendingSignals : List TradingSignal)
    (books : Books) : Except LoopError Books :=
  (pendingSignals.filter fun s => openMarket.marketData.prices.has s.coinId).foldlM
    (processSignalTrade cfg.math cfg.cfg openMarket cfg.cfg.maxAllocation cfg.cfg.minAllocation)
    books

def updateLastKnownPrices (lastKnownPrices prices : OrdMap CoinId ℚ) : OrdMap CoinId ℚ :=
  prices.entries.foldl (fun m e => m.set e.1 e.2) lastKnownPrices

def applyForcedExits (marketData : MarketData) (lastKnownPrices : OrdMap CoinId ℚ) (books : Books) :
    Books :=
  applyDelistingExits cfg.cfg cfg.delistingDates cfg.delistingPenalty lastKnownPrices
    marketData.timestamp (applyLiquidations cfg.cfg marketData books)

def cooldownFilter (currentBar : ℕ) (signals : List TradingSignal) (books : Books) :
    List TradingSignal × Books :=
  signals.foldl
    (fun acc signal =>
      let (passes, checked) := passesCooldown currentBar acc.2 signal
      (if passes then acc.1 ++ [signal] else acc.1, checked)) ([], books)

def fillsInBar (signal : TradingSignal) : Bool :=
  signal.metadata.get? "hardStopLoss" = some (.bool true)

def dispatchFilteredSignals (market : BarMarket) (batch : FilteredSignals) (books : Books) :
    Except LoopError (List TradingSignal × Books) := do
  let filled ← (batch.signals.filter fillsInBar).foldlM
    (processSignalTrade cfg.math cfg.cfg market batch.maxAllocation batch.minAllocation) books
  return (batch.signals.filter (¬ fillsInBar ·), filled)

end Books

def drawdownOf (peakValue totalValue : ℚ) : ℚ :=
  if peakValue = 0 then 0 else max 0 ((peakValue - totalValue) / peakValue)

def portfolioSnapshot (cfg : LoopConfig) (marketData : MarketData) (portfolio : Portfolio)
    (drawdown : ℚ) : PerformanceSnapshot where
  timestamp := marketData.timestamp
  portfolioValue := portfolio.totalValue
  cashBalance := portfolio.cashBalance
  holdings := portfolioToHoldings portfolio marketData.prices
  cumulativeReturn :=
    (portfolio.totalValue - cfg.cfg.backtest.initialCapital) / cfg.cfg.backtest.initialCapital
  drawdown := drawdown
  backtest := cfg.cfg.backtest.id

/-- A snapshot is taken on every 24th trading bar and on the last bar. -/
def takesSnapshot (cfg : LoopConfig) (i : ℕ) : Bool :=
  (i - cfg.effectiveTradingStartIndex) % 24 = 0 ∨ i + 1 = cfg.effectiveTimestampCount

/-! ## The bar -/

section Bar

variable (cfg : LoopConfig) (bar : Bar) (windows : BarWindows) (state : LoopState)

/-- Warm-up: the strategy is primed, and whatever it returns or throws is dropped. -/
def processWarmupBar : LoopState × BarRows :=
  let market := bar.marketAt getPriceValue state.prevCandleMap
  let lastKnownPrices := updateLastKnownPrices state.lastKnownPrices market.marketData.prices
  let forced := applyForcedExits cfg market.marketData lastKnownPrices
    (state.books.revalue market.marketData.prices)
  ({ state with
      portfolio := forced.portfolio
      exitTracker := forced.exitTracker
      lastKnownPrices := lastKnownPrices
      prevCandleMap := updatePrevCandleMap state.prevCandleMap bar.currentPrices },
    { trades := forced.trades, signals := forced.signals, simulatedFills := forced.simulatedFills })

def processOpenAndExits (lastKnownPrices : OrdMap CoinId ℚ) : Except LoopError Books := do
  let openMarket := bar.marketAt getOpenPriceValue state.prevCandleMap
  let market := bar.marketAt getPriceValue state.prevCandleMap
  let flushed ← flushPendingSignals cfg openMarket state.pendingSignals
    (state.books.revalue openMarket.marketData.prices)
  let forced := applyForcedExits cfg market.marketData lastKnownPrices
    (flushed.revalue market.marketData.prices)
  processExitSignals cfg.math cfg.cfg cfg.fullFidelity market bar.index forced

def decideSignals (regime : Option CompositeRegimeResult) (portfolio : Portfolio) :
    Except LoopError (FilteredSignals × ThrottleState × ℕ) := do
  let (strategySignals, consecutiveErrors) ← executeAlgorithmWithRetry cfg.algorithm
    (buildAlgorithmContext cfg bar windows regime portfolio) state.consecutiveErrors
  let (throttled, throttleState) := throttleBar strategySignals state.throttleState cfg.throttle
    bar.timestamp
  let marketData := (bar.marketAt getPriceValue state.prevCandleMap).marketData
  return (applyBarRegime cfg.regime (buildConcentrationContext portfolio marketData) regime
    ⟨throttled, cfg.cfg.maxAllocation, cfg.cfg.minAllocation⟩, throttleState, consecutiveErrors)

def closeBar (lastKnownPrices : OrdMap CoinId ℚ) (throttleState : ThrottleState)
    (consecutiveErrors : ℕ) (pendingSignals : List TradingSignal) (traded : Books) :
    LoopState × BarRows :=
  let market := bar.marketAt getPriceValue state.prevCandleMap
  let peakValue := max state.peakValue traded.portfolio.totalValue
  let drawdown := drawdownOf peakValue traded.portfolio.totalValue
  ({ state with
      portfolio := traded.portfolio
      peakValue := peakValue
      maxDrawdown := max state.maxDrawdown drawdown
      exitTracker := traded.exitTracker
      throttleState := throttleState
      pendingSignals := pendingSignals
      consecutiveErrors := consecutiveErrors
      lastKnownPrices := lastKnownPrices
      prevCandleMap := updatePrevCandleMap state.prevCandleMap bar.currentPrices },
    { trades := traded.trades
      signals := traded.signals
      simulatedFills := traded.simulatedFills
      snapshots :=
        if takesSnapshot cfg bar.index then
          [portfolioSnapshot cfg market.marketData traded.portfolio drawdown]
        else [] })

def processTradingBar : Except LoopError (LoopState × BarRows) := do
  let market := bar.marketAt getPriceValue state.prevCandleMap
  let lastKnownPrices := updateLastKnownPrices state.lastKnownPrices market.marketData.prices
  let exited ← processOpenAndExits cfg bar state lastKnownPrices
  let regime := barRegime cfg.math cfg.regime state.priceCtx
  let (batch, throttleState, consecutiveErrors) ← decideSignals cfg bar windows state regime
    exited.portfolio
  let (entering, checked) := cooldownFilter bar.index batch.signals exited
  let (pendingSignals, traded) ← dispatchFilteredSignals cfg market
    { batch with signals := entering } checked
  return closeBar cfg bar state lastKnownPrices throttleState consecutiveErrors pendingSignals traded

end Bar

/-- Process one bar. Pauses and checkpoints come before and after it. -/
def processBar (cfg : LoopConfig) (i : ℕ) (state : LoopState) :
    Except LoopError (LoopState × BarRows) :=
  let bar := cfg.bar i
  let (priceCtx, windows) := advanceBarWindows state.priceCtx cfg.coins bar.timestamp
  let advanced := { state with priceCtx := priceCtx }
  if i < cfg.effectiveTradingStartIndex then .ok (processWarmupBar cfg bar advanced)
  else processTradingBar cfg bar windows advanced

/-! ## A bar as a run of events -/

def Bar.Markets (bar : Bar) (prevCandleMap : OrdMap CoinId OHLCCandle) (market : BarMarket) : Prop :=
  ∃ value, market = bar.marketAt value prevCandleMap

def LoopState.booksWith (state : LoopState) (rows : BarRows) : Books where
  portfolio := state.portfolio
  exitTracker := state.exitTracker
  trades := rows.trades
  signals := rows.signals
  simulatedFills := rows.simulatedFills

section Runs

variable {cfg : LoopConfig} {bar : Bar} {windows : BarWindows} {state next : LoopState}
  {rows : BarRows} {markets : BarMarket → Prop} {market : BarMarket} {books after : Books}

theorem revaluation_reaches (prices : OrdMap CoinId ℚ) :
    Reaches cfg.toLoopEnv markets books (books.revalue prices) :=
  .step (.revaluation prices) trivial rfl

variable {pendingSignals : List TradingSignal}

theorem flushPendingSignals_reaches (hm : markets market)
    (h : flushPendingSignals cfg market pendingSignals books = .ok after) :
    Reaches cfg.toLoopEnv markets books after :=
  .foldlM (fun _ _ _ hstep => processSignalTrade_reaches hm hstep) h

theorem applyForcedExits_reaches (marketData : MarketData) (lastKnownPrices : OrdMap CoinId ℚ) :
    Reaches cfg.toLoopEnv markets books (applyForcedExits cfg marketData lastKnownPrices books) := by
  have hliquidated : Reaches cfg.toLoopEnv markets books (applyLiquidations cfg.cfg marketData books) :=
    .step (.liquidations marketData) trivial rfl
  refine hliquidated.trans ?_
  exact .step (.delistingExits lastKnownPrices marketData.timestamp) trivial rfl

theorem cooldownFilter_reaches (currentBar : ℕ) (signals : List TradingSignal) :
    Reaches cfg.toLoopEnv markets books (cooldownFilter currentBar signals books).2 := by
  have hfold : ∀ acc : List TradingSignal × Books, Reaches cfg.toLoopEnv markets books acc.2 →
      Reaches cfg.toLoopEnv markets books (signals.foldl (fun acc signal =>
        let (passes, checked) := passesCooldown currentBar acc.2 signal
        (if passes then acc.1 ++ [signal] else acc.1, checked)) acc).2 := by
    induction signals with
    | nil => exact fun acc hacc => hacc
    | cons signal signals ih =>
      intro acc hacc
      exact ih _ (hacc.trans (.step (.entryCheck currentBar signal) trivial rfl))
  exact hfold ([], books) .refl

theorem dispatchFilteredSignals_reaches (hm : markets market) {batch : FilteredSignals}
    (h : dispatchFilteredSignals cfg market batch books = .ok (pendingSignals, after)) :
    Reaches cfg.toLoopEnv markets books after := by
  unfold dispatchFilteredSignals at h
  obtain ⟨_, hfold, h⟩ := bind_eq_ok.mp h
  cases h
  exact .foldlM (fun _ _ _ hstep => processSignalTrade_reaches hm hstep) hfold

theorem processOpenAndExits_reaches {lastKnownPrices : OrdMap CoinId ℚ}
    (h : processOpenAndExits cfg bar state lastKnownPrices = .ok after) :
    Reaches cfg.toLoopEnv (bar.Markets state.prevCandleMap) state.books after := by
  unfold processOpenAndExits at h
  obtain ⟨flushed, hflush, h⟩ := bind_eq_ok.mp h
  have hmkt : bar.Markets state.prevCandleMap
      (bar.marketAt getOpenPriceValue state.prevCandleMap) := ⟨getOpenPriceValue, rfl⟩
  have hopen : Reaches cfg.toLoopEnv (bar.Markets state.prevCandleMap) state.books flushed :=
    Reaches.trans (revaluation_reaches _) (flushPendingSignals_reaches hmkt hflush)
  refine Reaches.trans ?_
    (.step (.exits (bar.marketAt getPriceValue state.prevCandleMap) bar.index)
      ⟨getPriceValue, rfl⟩ h)
  exact (hopen.trans (revaluation_reaches _)).trans (applyForcedExits_reaches _ _)

theorem processWarmupBar_reaches (h : processWarmupBar cfg bar state = (next, rows)) :
    Reaches cfg.toLoopEnv (bar.Markets state.prevCandleMap) state.books (next.booksWith rows) := by
  cases h
  exact (revaluation_reaches _).trans (applyForcedExits_reaches _ _)

theorem processTradingBar_reaches (h : processTradingBar cfg bar windows state = .ok (next, rows)) :
    Reaches cfg.toLoopEnv (bar.Markets state.prevCandleMap) state.books (next.booksWith rows) := by
  unfold processTradingBar at h
  obtain ⟨_, hexits, h⟩ := bind_eq_ok.mp h
  obtain ⟨⟨batch, _, _⟩, -, h⟩ := bind_eq_ok.mp h
  obtain ⟨⟨_, _⟩, hdispatch, h⟩ := bind_eq_ok.mp h
  cases h
  have hchk := (processOpenAndExits_reaches hexits).trans
    (cooldownFilter_reaches bar.index batch.signals)
  exact hchk.trans (dispatchFilteredSignals_reaches ⟨_, rfl⟩ hdispatch)

theorem processBar_reaches {i : ℕ} (h : processBar cfg i state = .ok (next, rows)) :
    Reaches cfg.toLoopEnv ((cfg.bar i).Markets state.prevCandleMap) state.books
      (next.booksWith rows) := by
  unfold processBar at h
  dsimp only at h
  split_ifs at h
  · have hrun := processWarmupBar_reaches (Except.ok.inj h)
    exact hrun
  · have hrun := processTradingBar_reaches h
    exact hrun

end Runs

end Chansey
