import Chansey.Metrics.Accumulator
import Chansey.Scoring.Degradation

/-!
# The results of pipeline stages and what is decided on them

A strategy passes through optimization, a historical backtest, a live replay and paper trading.

* `PipelineStage`, `PipelineStatus`, `StageMetrics`, `PipelineStageResults`: the stages and what they
  leave.
-/

namespace Chansey.Pipelines

inductive PipelineStatus where
  | pending | running | paused | completed | failed | rejected | cancelled
  deriving DecidableEq

inductive PipelineStage where
  | optimize | historical | liveReplay | paperTrade | completed
  deriving DecidableEq

inductive DeploymentRecommendation where
  | deploy | needsReview | doNotDeploy | inconclusiveRetry
  deriving DecidableEq

inductive StageResultStatus where
  | completed | stopped | failed
  deriving DecidableEq

/-- `BaseStageMetrics` -/
structure StageMetrics where
  sharpeRatio : ℚ
  totalReturn : ℚ
  maxDrawdown : ℚ
  winRate : ℚ
  totalTrades : ℕ
  deriving DecidableEq

structure BacktestMetrics extends StageMetrics where
  winningTrades : ℕ
  losingTrades : ℤ
  profitFactor : ℚ
  volatility : ℚ
  deriving DecidableEq

structure OptimizationStageResult where
  status : StageResultStatus
  bestScore : ℚ
  baselineScore : ℚ
  improvement : ℚ
  deriving DecidableEq

/-- `HistoricalStageResult` and `LiveReplayStageResult` -/
structure BacktestStageResult extends BacktestMetrics where
  status : StageResultStatus
  initialCapital : ℚ
  finalValue : ℚ
  annualizedReturn : ℚ
  /-- Of a live replay. -/
  degradationFromHistorical : Option ℚ := none
  deriving DecidableEq

inductive StoppedReason where
  | durationReached | targetReached | minTradesReached | insufficientSignals | other
  deriving DecidableEq

structure PaperTradingStageResult extends StageMetrics where
  status : StageResultStatus
  initialCapital : ℚ
  finalValue : ℚ
  totalFees : ℚ
  degradationFromLiveReplay : ℚ
  stoppedReason : Option StoppedReason
  durationHours : ℚ
  deriving DecidableEq

structure PipelineScoreResult where
  overallScore : ℚ
  degradation : ℚ
  deriving DecidableEq

structure PipelineStageResults where
  optimization : Option OptimizationStageResult := none
  historical : Option BacktestStageResult := none
  liveReplay : Option BacktestStageResult := none
  paperTrading : Option PaperTradingStageResult := none
  scoring : Option PipelineScoreResult := none
  deriving DecidableEq

/-! ## Thresholds -/

structure StageProgressionThresholds where
  minSharpeRatio : Option ℚ := none
  maxDrawdown : Option ℚ := none
  minWinRate : Option ℚ := none
  minTotalReturn : Option ℚ := none
  minTotalTrades : Option ℕ := none

/-- A threshold that is not met. The message shows the value and the bound, all but the first and
the last as percentages. -/
inductive ProgressionFailure where
  | sharpeRatio (value min : ℚ)
  | maxDrawdown (value max : ℚ)
  | winRate (value min : ℚ)
  | totalReturn (value min : ℚ)
  | totalTrades (value min : ℕ)
  deriving DecidableEq

def evaluateStageProgression (metrics : StageMetrics) (thresholds : StageProgressionThresholds) :
    List ProgressionFailure :=
  (thresholds.minSharpeRatio.toList.filter (metrics.sharpeRatio < ·)).map
      (.sharpeRatio metrics.sharpeRatio) ++
    (thresholds.maxDrawdown.toList.filter (· < metrics.maxDrawdown)).map
      (fun max => .maxDrawdown (metrics.maxDrawdown * 100) (max * 100)) ++
    (thresholds.minWinRate.toList.filter (metrics.winRate < ·)).map
      (fun min => .winRate (metrics.winRate * 100) (min * 100)) ++
    (thresholds.minTotalReturn.toList.filter (metrics.totalReturn < ·)).map
      (fun min => .totalReturn (metrics.totalReturn * 100) (min * 100)) ++
    (thresholds.minTotalTrades.toList.filter (metrics.totalTrades < ·)).map
      (.totalTrades metrics.totalTrades)

/-! ## Degradation -/

/-- What lies between two stages, in percent of the earlier one. -/
def returnDegradation (before after : ℚ) : ℚ :=
  if before ≠ 0 then (before - after) / |before| * 100 else 0

def toEffectiveDegradation (raw : ℚ) : ℚ := if 0 ≤ raw then raw else |raw| * (1 / 2)

/-! ## Results -/

def reportedMetrics (metrics : BacktestFinalMetrics) : BacktestMetrics where
  sharpeRatio := metrics.sharpeRatio
  totalReturn := metrics.totalReturn
  maxDrawdown := metrics.maxDrawdown
  winRate := metrics.winRate
  totalTrades := metrics.totalTrades
  winningTrades := metrics.winningTrades
  losingTrades := metrics.losingTrades
  profitFactor := metrics.profitFactor
  volatility := metrics.volatility

def historicalStageResult (initialCapital : ℚ) (metrics : BacktestMetrics) :
    BacktestStageResult where
  toBacktestMetrics := metrics
  status := .completed
  initialCapital := initialCapital
  finalValue := initialCapital * (1 + metrics.totalReturn)
  annualizedReturn := metrics.totalReturn

def liveReplayStageResult (stageResults : Option PipelineStageResults) (initialCapital : ℚ)
    (metrics : BacktestMetrics) : BacktestStageResult :=
  let historicalReturn := ((stageResults.bind (·.historical)).map (·.totalReturn)).getD 0
  { historicalStageResult initialCapital metrics with
    degradationFromHistorical := some (returnDegradation historicalReturn metrics.totalReturn) }

structure PaperTradingMetrics where
  initialCapital : ℚ
  currentPortfolioValue : ℚ
  totalReturn : ℚ
  totalReturnPercent : ℚ
  maxDrawdown : ℚ
  sharpeRatio : Option ℚ
  winRate : ℚ
  totalTrades : ℕ
  winningTrades : ℕ
  losingTrades : ℕ
  totalFees : ℚ
  durationHours : ℚ
  deriving DecidableEq

def PaperTradingMetrics.stageMetrics (metrics : PaperTradingMetrics) : StageMetrics where
  sharpeRatio := metrics.sharpeRatio.getD 0
  totalReturn := metrics.totalReturn
  maxDrawdown := metrics.maxDrawdown
  winRate := metrics.winRate
  totalTrades := metrics.totalTrades

def StoppedReason.completes : StoppedReason → Bool
  | .other => false
  | _ => true

def paperTradingStageResult (stageResults : Option PipelineStageResults)
    (metrics : PaperTradingMetrics) (stoppedReason : Option StoppedReason) :
    PaperTradingStageResult :=
  let liveReplayReturn := ((stageResults.bind (·.liveReplay)).map (·.totalReturn)).getD 0
  { metrics.stageMetrics with
    status := if stoppedReason.any (·.completes) then .completed else .stopped
    initialCapital := metrics.initialCapital
    finalValue := metrics.currentPortfolioValue
    totalFees := metrics.totalFees
    degradationFromLiveReplay := returnDegradation liveReplayReturn metrics.totalReturn
    stoppedReason := stoppedReason
    durationHours := metrics.durationHours }

/-! ## Recommendation -/

def avgDegradation (hist : BacktestStageResult) (paper : PaperTradingStageResult) : ℚ :=
  toEffectiveDegradation (Degradation.calculateFromValues
    ⟨[("sharpeRatio", ⟨hist.sharpeRatio, paper.sharpeRatio⟩),
      ("totalReturn", ⟨hist.totalReturn, paper.totalReturn⟩),
      ("maxDrawdown", ⟨hist.maxDrawdown, paper.maxDrawdown⟩),
      ("winRate", ⟨hist.winRate, paper.winRate⟩)], by simp⟩)

def generateRecommendation (stageResults : Option PipelineStageResults) :
    DeploymentRecommendation :=
  match stageResults with
  | none => .doNotDeploy
  | some results =>
    match results.scoring with
    | some scoring =>
      if 70 ≤ scoring.overallScore then .deploy
      else if 30 ≤ scoring.overallScore then .needsReview
      else .doNotDeploy
    | none =>
      match results.historical, results.liveReplay, results.paperTrading with
      | some hist, some liveReplay, some paper =>
        if ¬(results.optimization.all (·.status = .completed) ∧ hist.status = .completed ∧
            liveReplay.status = .completed ∧ (paper.status = .completed ∨ paper.status = .stopped)) then
          .doNotDeploy
        else if 1 ≤ paper.sharpeRatio ∧ paper.maxDrawdown ≤ 1 / 4 ∧ 1 / 2 ≤ paper.winRate ∧
            avgDegradation hist paper ≤ 20 ∧ 0 < paper.totalReturn then
          .deploy
        else if 1 / 2 ≤ paper.sharpeRatio ∧ paper.maxDrawdown ≤ 2 / 5 ∧ 2 / 5 ≤ paper.winRate ∧
            avgDegradation hist paper ≤ 40 then
          .needsReview
        else .doNotDeploy
      | _, _, _ => .doNotDeploy

end Chansey.Pipelines
