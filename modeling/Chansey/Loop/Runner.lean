import Chansey.Checkpoint.State
import Chansey.Loop.Bar
import Chansey.Window.Indicator
import Chansey.Window.Timeframe

/-!
# Setting up and running the loop

The context a run starts from, afresh or from a checkpoint, and the loop over its bars.

* **`exitTracker_run`**: the exits of a run keep their configuration.
-/

namespace Chansey

open Result Run

structure LoopRunnerOptions where
  /-- `mode: 'live-replay'` -/
  isLiveReplay : Bool := false
  datasetId : String := ""
  deterministicSeed : String
  replaySpeed : ℚ := 5
  minHoldMs : Option ℤ := none
  maxAllocation : Option ℚ := none
  minAllocation : Option ℚ := none
  pipelineStage : Option PipelineStage := none
  riskLevel : Option ℤ := none
  enableOpportunitySelling : Bool := false
  opportunitySellingConfig : OpportunitySellingUserConfig := {}
  enableHardStopLoss : Option Bool := none
  hardStopLossPercent : Option ℚ := none
  exitConfig : Option ExitConfig := none
  enableRegimeGate : Option Bool := none
  enableRegimeScaledSizing : Option Bool := none
  enableDelistingExit : Option Bool := none
  delistingPenalty : Option ℚ := none
  checkpointInterval : Option ℕ := none

/-- What the services give a run: the strategy, its indicators, the candles and the listings. -/
structure RunData where
  math : Js.Math
  algorithm : Algorithm
  calculators : Calculators
  indicatorRequirements : Option (List IndicatorRequirement) := none
  historicalPrices : List OHLCCandle
  activeDelistings : OrdMap CoinId Instant := OrdMap.empty
  quoteCoin : Coin

/-- A run: the backtest, its coins, how it is to be executed, and on what data. -/
structure RunSetup where
  backtest : Backtest
  coins : List Coin
  options : LoopRunnerOptions
  data : RunData

namespace RunSetup

variable (setup : RunSetup)

/-! ## Configuration -/

def regimeConfig : RegimeConfig :=
  resolveRegimeConfig
    { enableRegimeGate := setup.options.enableRegimeGate
      enableRegimeScaledSizing := setup.options.enableRegimeScaledSizing
      riskLevel := setup.options.riskLevel } setup.coins

def exitOptions : ResolveExitTrackerOptions where
  exitConfig := setup.options.exitConfig
  enableHardStopLoss := setup.options.enableHardStopLoss.getD true
  hardStopLossPercent := setup.options.hardStopLossPercent.getD (5 / 100)

def allocationLimits : AllocationLimits :=
  let defaultStage := if setup.options.isLiveReplay then .liveReplay else .historical
  getAllocationLimits (some (setup.options.pipelineStage.getD defaultStage)) setup.options.riskLevel
    { maxAllocation := setup.options.maxAllocation, minAllocation := setup.options.minAllocation }

def tradingConfig : TradingConfig where
  backtest := setup.backtest
  slippageConfig := buildSlippageConfig setup.backtest.slippage setup.backtest.regimeRiskLevel
  minHoldMs := setup.options.minHoldMs.getD
    (getMinHoldMs (setup.options.riskLevel.getD DEFAULT_RISK_LEVEL))
  maxAllocation := setup.allocationLimits.maxAllocation
  minAllocation := setup.allocationLimits.minAllocation
  oppSellingEnabled := ¬ setup.options.isLiveReplay ∧ setup.options.enableOpportunitySelling
  oppSellingConfig := setup.options.opportunitySellingConfig
  coinMap := OrdMap.ofEntries (setup.coins.map fun coin => (coin.id, coin))
  quoteCoin := setup.data.quoteCoin

def algoMetadata : Metadata :=
  let base := OrdMap.ofEntries
    [("datasetId", .str setup.options.datasetId),
      ("deterministicSeed", .str setup.options.deterministicSeed),
      ("backtestId", .str setup.backtest.id)]
  if setup.options.isLiveReplay then
    (base.set "isLiveReplay" (.bool true)).set "replaySpeed" (.num setup.options.replaySpeed)
  else base

def timestamps : List Instant := timeline setup.data.historicalPrices

/-- The first bar that is traded: the first at or after the start date, else the first of all. -/
def effectiveTradingStartIndex : ℕ :=
  (setup.timestamps.findIdx? (setup.backtest.startDate ≤ ·)).getD 0

/-- The number of bars up to the last one at or before the end date. -/
def effectiveTimestampCount : ℕ :=
  (setup.timestamps.rdropWhile (setup.backtest.endDate < ·)).length

/-- The windows before the first bar. -/
def priceTracking : PriceTrackingContext :=
  initPriceTracking setup.data.historicalPrices (setup.coins.map (·.id))

/-- The windows before the first bar, at every timeframe and with the average of the regime. -/
def priceCtx : PriceTrackingContext :=
  initMultiTimeframe (trackRegime setup.regimeConfig.btcCoin setup.priceTracking)
    (aggregate setup.priceTracking.summariesByCoin)

def createConfig : LoopConfig where
  math := setup.data.math
  cfg := setup.tradingConfig
  delistingDates :=
    if setup.options.enableDelistingExit = some false then OrdMap.empty
    else setup.data.activeDelistings
  delistingPenalty := setup.options.delistingPenalty.getD (9 / 10)
  algorithm := setup.data.algorithm
  isLiveReplay := setup.options.isLiveReplay
  coins := setup.coins
  pricesByTimestamp := groupPricesByTimestamp setup.data.historicalPrices
  timestamps := setup.timestamps
  algoMetadata := setup.algoMetadata
  precomputedIndicators := precomputeIndicators setup.data.calculators
    setup.data.indicatorRequirements setup.backtest.parameters setup.coins setup.priceTracking
  regime := setup.regimeConfig
  throttle := resolveThrottleConfig setup.backtest.parameters
  effectiveTradingStartIndex := setup.effectiveTradingStartIndex
  effectiveTimestampCount := setup.effectiveTimestampCount

/-! ## State -/

def startIndex : Option BacktestCheckpointState → ℕ
  | none => 0
  | some checkpoint => (checkpoint.lastProcessedIndex + 1).toNat

def startState : LoopState where
  rng := SeededRandom.ofSeed setup.options.deterministicSeed
  portfolio := startPortfolio setup.backtest.initialCapital
  peakValue := setup.backtest.initialCapital
  maxDrawdown := 0
  exitTracker := resolveExitTracker setup.exitOptions
  throttleState := {}
  pendingSignals := []
  consecutiveErrors := 0
  prevCandleMap := OrdMap.empty
  lastKnownPrices := OrdMap.empty
  priceCtx := setup.priceCtx

/-- The state a run resumes from. Candles, last prices and errors start from nothing. -/
def restoredState (checkpoint : BacktestCheckpointState) : LoopState where
  rng := SeededRandom.fromState checkpoint.rngState
  portfolio := restorePortfolio checkpoint.portfolio
  peakValue := checkpoint.peakValue
  maxDrawdown := checkpoint.maxDrawdown
  exitTracker := resolveExitTracker
    { setup.exitOptions with resumeExitTrackerState := checkpoint.exitTrackerState }
  throttleState := checkpoint.throttleState.elim {} deserializeThrottle
  pendingSignals := checkpoint.pendingSignals.getD []
  consecutiveErrors := 0
  prevCandleMap := OrdMap.empty
  lastKnownPrices := OrdMap.empty
  priceCtx := fastForward setup.priceCtx setup.coins
    (setup.timestamps.take (startIndex (some checkpoint)))

def createState : Option BacktestCheckpointState → LoopState
  | none => setup.startState
  | some checkpoint => setup.restoredState checkpoint

end RunSetup

/-! ## The loop -/

/-- What a bar leaves behind: its rows, and the portfolio after it. -/
structure BarOutput where
  portfolio : Portfolio
  rows : BarRows

def outputs (cfg : LoopConfig) : LoopState → List ℕ → List BarOutput × Option LoopError
  | _, [] => ([], none)
  | state, i :: is =>
    match processBar cfg i state with
    | .error e => ([], some e)
    | .ok (next, rows) =>
      let (rest, error) := outputs cfg next is
      (⟨next.portfolio, rows⟩ :: rest, error)

def barStep (cfg : LoopConfig) (state : LoopState) (i : ℕ) : Except LoopError LoopState :=
  (processBar cfg i state).map (·.1)

theorem barStep_eq_ok {cfg : LoopConfig} {state next : LoopState} {i : ℕ} :
    barStep cfg state i = .ok next ↔ ∃ rows, processBar cfg i state = .ok (next, rows) := by
  unfold barStep
  cases processBar cfg i state with
  | error => simp [Except.map]
  | ok x =>
    obtain ⟨s, rows⟩ := x
    simp only [Except.map, Except.ok.injEq, Prod.mk.injEq]
    constructor
    · rintro rfl
      exact ⟨rows, rfl, rfl⟩
    · rintro ⟨_, hs, -⟩
      exact hs

/-! ## What a bar keeps -/

section Kept

variable {cfg : LoopConfig} {state next : LoopState} {rows : BarRows} {i : ℕ}

theorem processBar_kept (h : processBar cfg i state = .ok (next, rows)) :
    next.rng = state.rng ∧
      next.priceCtx = (advanceBarWindows state.priceCtx cfg.coins (cfg.bar i).timestamp).1 := by
  unfold processBar at h
  dsimp only at h
  split_ifs at h
  · cases h
    exact ⟨rfl, rfl⟩
  · unfold processTradingBar at h
    obtain ⟨_, -, h⟩ := bind_eq_ok.mp h
    obtain ⟨⟨_, _, _⟩, -, h⟩ := bind_eq_ok.mp h
    obtain ⟨⟨_, _⟩, -, h⟩ := bind_eq_ok.mp h
    cases h
    exact ⟨rfl, rfl⟩

theorem fastForward_concat (ctx : PriceTrackingContext) (coins : List Coin)
    (timestamps : List Instant) (t : Instant) :
    fastForward ctx coins (timestamps ++ [t]) =
      (advanceBarWindows (fastForward ctx coins timestamps) coins t).1 := by
  rw [fastForward, List.foldl_append]
  rfl

/-- **After `j` bars the windows are where a fast-forward through `j` times brings them.** -/
theorem priceCtx_run {j : ℕ} (hj : j ≤ cfg.timestamps.length)
    (h : run (barStep cfg) state (List.range j) = .ok next) :
    next.priceCtx = fastForward state.priceCtx cfg.coins (cfg.timestamps.take j) := by
  induction j generalizing next with
  | zero =>
    cases h
    rfl
  | succ j ih =>
    rw [List.range_succ, run_append_eq_ok] at h
    obtain ⟨s, hs, hlast⟩ := h
    rw [run_cons, bind_eq_ok] at hlast
    obtain ⟨_, hstep, hend⟩ := hlast
    cases hend
    obtain ⟨_, hbar⟩ := barStep_eq_ok.mp hstep
    have htake : cfg.timestamps.take (j + 1) = cfg.timestamps.take j ++ [cfg.timestamps.getD j 0] := by
      rw [List.take_add_one, List.getD_eq_getElem?_getD, List.getElem?_eq_getElem hj]
      rfl
    rw [(processBar_kept hbar).2, ih (Nat.le_of_succ_le hj) hs, htake, fastForward_concat]
    rfl

theorem exitTracker_run {is : List ℕ} (h : run (barStep cfg) state is = .ok next) :
    next.exitTracker.map (·.config) = state.exitTracker.map (·.config) := by
  refine foldlM_invariant
    (P := fun s : LoopState => s.exitTracker.map (·.config) = state.exitTracker.map (·.config))
    ?_ rfl h
  intro i _ s s' hs hstep
  obtain ⟨_, hbar⟩ := barStep_eq_ok.mp hstep
  exact (processBar_reaches hbar).exitConfig.trans hs

end Kept

end Chansey
