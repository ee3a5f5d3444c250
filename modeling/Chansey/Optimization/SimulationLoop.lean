import Chansey.Loop.Bar
import Chansey.Metrics.Accumulator
import Chansey.Optimization.WindowData

/-!
# The simulation of a window

A strategy is run over the bars of a window with the parameters of a combination. Bars before the
trading start only move the windows of the strategy; on the others signals are filled at once, at the
close.
-/

namespace Chansey.Optimization

open Result Run

structure OptimizationBacktestConfig where
  algorithmId : String
  parameters : Metadata
  startDate : Instant
  endDate : Instant
  initialCapital : Option ℚ := none
  tradingFee : Option ℚ := none
  hardStopLossPercent : Option ℚ := none
  maxAllocation : Option ℚ := none
  minAllocation : Option ℚ := none
  riskLevel : Option ℤ := none
  slippage : Option SlippageConfig := none
  exitConfig : Option ExitConfig := none
  enableRegimeGate : Option Bool := none
  enableRegimeScaledSizing : Option Bool := none

structure Services where
  math : Js.Math
  algorithm : Algorithm
  calculators : Calculators
  indicatorRequirements : Option (List IndicatorRequirement) := none
  /-- `getMinDataPoints` of the strategy, when it has one. -/
  getMinDataPoints : Option (Metadata → ℚ) := none

structure OptimizationBacktestResult where
  sharpeRatio : ℚ
  totalReturn : ℚ
  maxDrawdown : ℚ
  winRate : ℚ
  volatility : ℚ
  profitFactor : ℚ
  tradeCount : ℕ
  annualizedReturn : Option ℚ := none
  finalValue : Option ℚ := none
  downsideDeviation : Option ℚ := none

def EMPTY_RESULT : OptimizationBacktestResult where
  sharpeRatio := 0
  totalReturn := 0
  maxDrawdown := 0
  winRate := 0
  volatility := 0
  profitFactor := 1
  tradeCount := 0

structure Snapshot where
  timestamp : Instant
  portfolioValue : ℚ

/-! ## Set-up -/

/-- `SimulationLoopParams`: a window and the coins a strategy has enough bars of. -/
structure Simulation where
  services : Services
  config : OptimizationBacktestConfig
  coins : List Coin
  allCoins : List Coin
  data : PrecomputedWindowData
  priceCtx : PriceTrackingContext
  precomputedIndicators : Option PrecomputedIndicators

/-- Values, exits and throttle of a run, and what it has recorded. -/
structure SimulationState where
  books : Books
  throttleState : ThrottleState
  prevCandleMap : OrdMap CoinId OHLCCandle
  priceCtx : PriceTrackingContext
  peakValue : ℚ
  maxDrawdown : ℚ
  snapshots : List Snapshot

namespace Simulation

variable (sim : Simulation)

def initialCapital : ℚ := sim.config.initialCapital.getD 10000

def allocationLimits : AllocationLimits :=
  getAllocationLimits (some .optimize) sim.config.riskLevel
    { maxAllocation := sim.config.maxAllocation, minAllocation := sim.config.minAllocation }

/-- What trading reads. There is no backtest row, and the lightweight exits look up no coin. -/
def tradingConfig : TradingConfig where
  backtest :=
    { id := ""
      tradingFee := sim.config.tradingFee.getD (1 / 1000)
      initialCapital := sim.initialCapital
      startDate := sim.config.startDate
      endDate := sim.config.endDate
      parameters := sim.config.parameters }
  slippageConfig := sim.config.slippage.getD DEFAULT_SLIPPAGE_CONFIG
  minHoldMs := getMinHoldMs (sim.config.riskLevel.getD DEFAULT_RISK_LEVEL)
  maxAllocation := sim.allocationLimits.maxAllocation
  minAllocation := sim.allocationLimits.minAllocation
  oppSellingEnabled := false
  oppSellingConfig := {}
  coinMap := OrdMap.empty
  quoteCoin := ⟨"", ""⟩

def regimeConfig : RegimeConfig :=
  resolveRegimeConfig
    { enableRegimeGate := sim.config.enableRegimeGate
      enableRegimeScaledSizing := sim.config.enableRegimeScaledSizing
      riskLevel := sim.config.riskLevel } sim.allCoins

def exitTracker : Option BacktestExitTracker :=
  resolveExitTracker
    { exitConfig := sim.config.exitConfig
      enableHardStopLoss := true
      hardStopLossPercent := sim.config.hardStopLossPercent.getD (5 / 100) }

def startBooks : Books where
  portfolio := startPortfolio sim.initialCapital
  exitTracker := sim.exitTracker

def startState : SimulationState where
  books := sim.startBooks
  throttleState := {}
  prevCandleMap := OrdMap.empty
  priceCtx := trackRegime sim.regimeConfig.btcCoin sim.priceCtx
  peakValue := sim.initialCapital
  maxDrawdown := 0
  snapshots := []

def bar (i : ℕ) : Bar :=
  let timestamp := sim.data.timestamps.getD i 0
  ⟨i, timestamp, (sim.data.pricesByTimestamp.get? timestamp).getD []⟩

/-! ## One bar -/

def context (bar : Bar) (windows : BarWindows) (regime : Option CompositeRegimeResult)
    (portfolio : Portfolio) : AlgorithmContext where
  coins := sim.coins
  priceData := windows.priceData
  timestamp := bar.timestamp
  config := sim.config.parameters
  positions := portfolio.positions.map fun _ p => p.quantity
  availableBalance := portfolio.cashBalance
  metadata := OrdMap.ofEntries
    [("isOptimization", .bool true), ("algorithmId", .str sim.config.algorithmId)]
  precomputedIndicators := sim.precomputedIndicators
  currentTimestampIndex := bar.index
  priceDataByTimeframe := windows.byTimeframe
  compositeRegime := regime.map (·.compositeRegime)
  volatilityRegime := regime.map (·.volatilityRegime)

def strategySignals (context : AlgorithmContext) : Except LoopError (List TradingSignal) :=
  match sim.services.algorithm context with
  | .ok result => .ok (tradingSignals result)
  | .error (.algorithmNotRegistered message) => .error (.algorithmNotRegistered message)
  | .error _ => .ok []

def executeSignal (market : BarMarket) (maxAllocation minAllocation : ℚ) (books : Books)
    (signal : TradingSignal) : Except LoopError Books := do
  let timestamp := market.marketData.timestamp
  let order := sim.tradingConfig.order market signal sim.tradingConfig.minHoldMs maxAllocation
    minAllocation
  let (result?, portfolio) ← executeTrade sim.services.math
    { order with dailyVolume := sim.data.volumeMap.get? (timestamp, signal.coinId) }
    books.portfolio
  match result? with
  | none => return { books with portfolio := portfolio }
  | some result =>
    if result.fillStatus = .cancelled then return { books with portfolio := portfolio }
    else return { books with
      portfolio := portfolio
      trades := books.trades ++ [{ result.trade with executedAt := some timestamp }]
      exitTracker := books.exitTracker.map fun t => trackTrade t signal result.trade }

def decideSignals (bar : Bar) (windows : BarWindows) (state : SimulationState) (exited : Books) :
    Except LoopError (FilteredSignals × ThrottleState × Books) := do
  let regime := barRegime sim.services.math sim.regimeConfig state.priceCtx
  let signals ← sim.strategySignals (sim.context bar windows regime exited.portfolio)
  let (accepted, throttleState) := throttleBar signals state.throttleState
    (resolveThrottleConfig sim.config.parameters) bar.timestamp
  let batch := applyBarRegime sim.regimeConfig none regime
    ⟨accepted, sim.allocationLimits.maxAllocation, sim.allocationLimits.minAllocation⟩
  let (entering, checked) := cooldownFilter bar.index batch.signals exited
  return ({ batch with signals := entering }, throttleState, checked)

def takesSnapshot (i : ℕ) : Bool := i % 24 = 0 ∨ i + 1 = sim.data.timestamps.length

def closeBar (bar : Bar) (state : SimulationState) (throttleState : ThrottleState)
    (traded : Books) : SimulationState :=
  let peakValue := max state.peakValue traded.portfolio.totalValue
  { state with
    books := traded
    throttleState := throttleState
    prevCandleMap := updatePrevCandleMap state.prevCandleMap bar.currentPrices
    peakValue := peakValue
    maxDrawdown := max state.maxDrawdown (drawdownOf peakValue traded.portfolio.totalValue)
    snapshots := state.snapshots ++
      if sim.takesSnapshot bar.index then [⟨bar.timestamp, traded.portfolio.totalValue⟩] else [] }

def tradeBar (bar : Bar) (windows : BarWindows) (state : SimulationState) :
    Except LoopError SimulationState := do
  let market := bar.marketAt getPriceValue state.prevCandleMap
  let exited ← processExitSignals sim.services.math sim.tradingConfig false market bar.index
    state.books
  let (batch, throttleState, checked) ← sim.decideSignals bar windows state exited
  let traded ← batch.signals.foldlM
    (sim.executeSignal market batch.maxAllocation batch.minAllocation) checked
  return sim.closeBar bar state throttleState traded

def simulationStep (state : SimulationState) (i : ℕ) : Except LoopError SimulationState :=
  let bar := sim.bar i
  let (priceCtx, windows) := advanceBarWindows state.priceCtx sim.coins bar.timestamp
  let prices := (bar.marketAt getPriceValue state.prevCandleMap).marketData.prices
  let advanced := { state with priceCtx := priceCtx, books := state.books.revalue prices }
  if i < sim.data.tradingStartIndex then
    .ok { advanced with
      prevCandleMap := updatePrevCandleMap state.prevCandleMap bar.currentPrices }
  else sim.tradeBar bar windows advanced

def runSimulationLoop : Except LoopError SimulationState :=
  run sim.simulationStep sim.startState (List.range sim.data.timestamps.length)

end Simulation

/-! ## The result -/

section Metrics

variable (math : Js.Math)

def downsideDeviation (returns : List ℚ) : ℚ :=
  let periodRiskFreeRate := 2 / 100 / 365
  math.sqrt (((returns.filter (· < periodRiskFreeRate)).map
    fun r => (r - periodRiskFreeRate) ^ 2).sum / returns.length) * math.sqrt 365

def calculateOptimizationMetrics (trades : List BacktestTrade) (snapshots : List Snapshot)
    (finalValue maxDrawdown initialCapital : ℚ) (startDate endDate : Instant) :
    OptimizationBacktestResult :=
  let totalReturn := (finalValue - initialCapital) / initialCapital
  let sellTrades := trades.filter (·.type = some .sell)
  let winning := sellTrades.filter (0 < ·.pnl)
  let losing := sellTrades.filter (·.pnl < 0)
  let returns := seriesReturns (snapshots.map (·.portfolioValue))
  { sharpeRatio := sharpeRatio math returns
    totalReturn := totalReturn
    maxDrawdown := maxDrawdown
    winRate := winning.length / sellTrades.length
    volatility := annualizedVolatility math returns
    profitFactor := profitFactor (winning.map (·.pnl)).sum |(losing.map (·.pnl)).sum|
    tradeCount := trades.length
    annualizedReturn := some (annualize math totalReturn startDate endDate)
    finalValue := some finalValue
    downsideDeviation := some (downsideDeviation math returns) }

end Metrics

def Simulation.result (sim : Simulation) (final : SimulationState) : OptimizationBacktestResult :=
  calculateOptimizationMetrics sim.services.math final.books.trades final.snapshots
    final.books.portfolio.totalValue final.maxDrawdown sim.initialCapital sim.config.startDate
    sim.config.endDate

/-- The coins with as many bars as the strategy needs. -/
def filterCoinsWithSufficientData (services : Services) (coins : List Coin) (parameters : Metadata)
    (summariesByCoin : OrdMap CoinId (List PriceSummary)) : List Coin :=
  match services.getMinDataPoints with
  | none => coins
  | some getMinDataPoints =>
    if getMinDataPoints parameters ≤ 0 then coins
    else coins.filter fun coin =>
      getMinDataPoints parameters ≤ (((summariesByCoin.get? coin.id).getD []).length : ℚ)

/-- The simulation of a window on fresh windows over its series. -/
def simulationOf (services : Services) (config : OptimizationBacktestConfig) (coins : List Coin)
    (data : PrecomputedWindowData) : Simulation :=
  let priceCtx := initMultiTimeframe
    { tracking := initTracking data.summariesByCoin MAX_WINDOW_SIZE MAX_WINDOW_SIZE_pos }
    data.aggregatedTimeframes
  let loopCoins := filterCoinsWithSufficientData services coins config.parameters
    priceCtx.summariesByCoin
  { services := services
    config := config
    coins := loopCoins
    allCoins := coins
    data := data
    priceCtx := priceCtx
    precomputedIndicators := precomputeIndicators services.calculators
      services.indicatorRequirements config.parameters loopCoins priceCtx }

def runOptimizationBacktestWithPrecomputed (services : Services)
    (config : OptimizationBacktestConfig) (coins : List Coin) (data : PrecomputedWindowData) :
    Except LoopError OptimizationBacktestResult := do
  if data.filteredCandles = [] then return EMPTY_RESULT
  let sim := simulationOf services config coins data
  let final ← sim.runSimulationLoop
  return sim.result final

/-! ## What a bar changes -/

def TradesFrom (start : Instant) (books : Books) : Prop :=
  ∀ trade ∈ books.trades, ∃ t, trade.executedAt = some t ∧ start ≤ t

section Trades

variable {start : Instant} {books after : Books} {market : BarMarket}

theorem TradesFrom.concat (h : TradesFrom start books) {trade : BacktestTrade} {t : Instant}
    (ht : start ≤ t) (hdate : trade.executedAt = some t)
    (hafter : after.trades = books.trades ++ [trade]) : TradesFrom start after := by
  intro other hother
  rw [hafter, List.mem_append, List.mem_singleton] at hother
  rcases hother with hold | rfl
  · exact h other hold
  · exact ⟨t, hdate, ht⟩

theorem TradesFrom.of_eq (h : TradesFrom start books) (hafter : after.trades = books.trades) :
    TradesFrom start after := by
  intro trade htrade
  rw [hafter] at htrade
  exact h trade htrade

variable {cfg : TradingConfig} {exitSig : ExitSignal}

theorem bookExit_tradesFrom (h : TradesFrom start books)
    (hdate : start ≤ market.marketData.timestamp) (result? : Option ExecuteTradeResult) :
    TradesFrom start (bookExit cfg false market exitSig books result?) := by
  unfold bookExit
  cases result? with
  | none => exact h
  | some =>
    dsimp only
    rw [if_neg Bool.false_ne_true, if_neg Bool.false_ne_true]
    split_ifs
    · exact h
    · exact h.concat hdate rfl rfl

theorem fillExit_tradesFrom {math : Js.Math} (h : TradesFrom start books)
    (hdate : start ≤ market.marketData.timestamp)
    (hfill : fillExit math cfg false market books exitSig = .ok after) :
    TradesFrom start after := by
  unfold fillExit at hfill
  obtain ⟨_, -, hfill⟩ := bind_eq_ok.mp hfill
  cases hfill
  refine bookExit_tradesFrom ?_ hdate _
  exact h.of_eq rfl

theorem processExitSignals_tradesFrom {math : Js.Math} {currentBar : ℕ} (h : TradesFrom start books)
    (hdate : start ≤ market.marketData.timestamp)
    (hexits : processExitSignals math cfg false market currentBar books = .ok after) :
    TradesFrom start after := by
  unfold processExitSignals at hexits
  cases htr : books.exitTracker with
  | none =>
    rw [htr] at hexits
    cases hexits
    exact h
  | some =>
    rw [htr] at hexits
    refine foldlM_invariant (fun exitSig _ s s' hs hfill => ?_) ?_ hexits
    · exact fillExit_tradesFrom hs hdate hfill
    · exact h.of_eq rfl

theorem passesCooldown_trades (currentBar : ℕ) (signal : TradingSignal) :
    (passesCooldown currentBar books signal).2.trades = books.trades := by
  unfold passesCooldown
  cases books.exitTracker with
  | none => rfl
  | some =>
    dsimp only
    split_ifs
    · rfl
    · rfl

theorem cooldownFilter_trades (currentBar : ℕ) (signals : List TradingSignal) :
    (cooldownFilter currentBar signals books).2.trades = books.trades := by
  unfold cooldownFilter
  refine List.foldlRecOn (motive := fun acc : List TradingSignal × Books =>
    acc.2.trades = books.trades) signals _ rfl
    fun acc hacc signal _ => ?_
  exact (passesCooldown_trades currentBar signal).trans hacc

end Trades

namespace Simulation

variable {sim : Simulation} {start : Instant} {books after : Books} {market : BarMarket}

theorem executeSignal_tradesFrom {maxAllocation minAllocation : ℚ} {signal : TradingSignal}
    (h : TradesFrom start books) (hdate : start ≤ market.marketData.timestamp)
    (hexe : sim.executeSignal market maxAllocation minAllocation books signal = .ok after) :
    TradesFrom start after := by
  unfold executeSignal at hexe
  obtain ⟨outcome, -, hexe⟩ := bind_eq_ok.mp hexe
  obtain ⟨result?, _⟩ := outcome
  cases result? with
  | none =>
    cases hexe
    exact h.of_eq rfl
  | some =>
    dsimp only at hexe
    split_ifs at hexe
    · cases hexe
      exact h.of_eq rfl
    · cases hexe
      exact h.concat hdate rfl rfl

structure RecordsFrom (start : Instant) (state : SimulationState) : Prop where
  trades : TradesFrom start state.books
  snapshots : ∀ snapshot ∈ state.snapshots, start ≤ snapshot.timestamp

variable {state next : SimulationState}

theorem tradeBar_recordsFrom {bar : Bar} {windows : BarWindows} (h : RecordsFrom start state)
    (hdate : start ≤ bar.timestamp) (htrade : sim.tradeBar bar windows state = .ok next) :
    RecordsFrom start next := by
  unfold tradeBar at htrade
  obtain ⟨_, hexits, htrade⟩ := bind_eq_ok.mp htrade
  obtain ⟨_, hdecide, htrade⟩ := bind_eq_ok.mp htrade
  obtain ⟨_, hfold, htrade⟩ := bind_eq_ok.mp htrade
  cases htrade
  unfold decideSignals at hdecide
  obtain ⟨_, -, hdecide⟩ := bind_eq_ok.mp hdecide
  cases hdecide
  have hextd := processExitSignals_tradesFrom h.trades hdate hexits
  constructor
  · refine foldlM_invariant (fun signal _ s s' hs hexe => ?_) ?_ hfold
    · exact executeSignal_tradesFrom hs hdate hexe
    · exact hextd.of_eq (cooldownFilter_trades _ _)
  · intro snapshot hsnapshot
    rcases List.mem_append.mp hsnapshot with hold | hnew
    · exact h.snapshots snapshot hold
    · split_ifs at hnew
      · rw [List.mem_singleton] at hnew
        rw [hnew]
        exact hdate
      · cases hnew

theorem simulationStep_dated {i : ℕ} (h : RecordsFrom start state)
    (hdate : start ≤ (sim.bar i).timestamp) (hi : sim.data.tradingStartIndex ≤ i)
    (hstep : sim.simulationStep state i = .ok next) : RecordsFrom start next := by
  unfold simulationStep at hstep
  dsimp only at hstep
  rw [if_neg (not_lt.mpr hi)] at hstep
  refine tradeBar_recordsFrom ?_ hdate hstep
  exact ⟨h.trades.of_eq rfl, h.snapshots⟩

structure Untouched (sim : Simulation) (state : SimulationState) : Prop where
  books : state.books = sim.startBooks
  throttleState : state.throttleState = {}
  peakValue : state.peakValue = sim.initialCapital
  maxDrawdown : state.maxDrawdown = 0
  snapshots : state.snapshots = []

theorem startBooks_revalue (prices : OrdMap CoinId ℚ) :
    sim.startBooks.revalue prices = sim.startBooks := by
  have hvalue : updateValues (startPortfolio sim.initialCapital) prices =
      startPortfolio sim.initialCapital := by
    have hempty : calculatePositionsValue OrdMap.empty prices = 0 := rfl
    unfold updateValues startPortfolio
    rw [hempty, add_zero]
    rfl
  unfold Books.revalue startBooks
  rw [hvalue]

theorem simulationStep_warmup {state : SimulationState} {i : ℕ} (h : Untouched sim state)
    (hi : i < sim.data.tradingStartIndex) :
    ∃ next, sim.simulationStep state i = .ok next ∧ Untouched sim next := by
  unfold simulationStep
  dsimp only
  rw [if_pos hi]
  refine ⟨_, rfl, ?_, h.throttleState, h.peakValue, h.maxDrawdown, h.snapshots⟩
  exact (congrArg (Books.revalue · _) h.books).trans (startBooks_revalue _)

theorem untouched_startState : Untouched sim sim.startState := ⟨rfl, rfl, rfl, rfl, rfl⟩

end Simulation

end Chansey.Optimization
