import Chansey.Pipeline.Progression

/-!
# The unit of the total return

* `InOneUnit`: at every scale a session reports the return of a backtest, passes the same
  thresholds and is degraded as much. **`inOneUnit_iff`**: this is so if and only if the session ends
  where it began. **`one_unit_gained`**: a gain of one unit passes as a return of 100 %.
-/

namespace Chansey.Pipelines

structure PaperTradingSession where
  initialCapital : ℚ
  currentPortfolioValue : Option ℚ
  maxDrawdown : Option ℚ
  sharpeRatio : Option ℚ
  winRate : Option ℚ
  totalTrades : ℕ
  winningTrades : ℕ
  losingTrades : ℕ
  totalFees : Option ℚ
  durationHours : ℚ

def PaperTradingSession.currentValue (session : PaperTradingSession) : ℚ :=
  session.currentPortfolioValue.getD session.initialCapital

def calculateMetrics (session : PaperTradingSession) : PaperTradingMetrics :=
  let totalReturn := session.currentValue - session.initialCapital
  { initialCapital := session.initialCapital
    currentPortfolioValue := session.currentValue
    totalReturn := totalReturn
    totalReturnPercent := totalReturn / session.initialCapital * 100
    maxDrawdown := session.maxDrawdown.getD 0
    sharpeRatio := session.sharpeRatio
    winRate := session.winRate.getD 0
    totalTrades := session.totalTrades
    winningTrades := session.winningTrades
    losingTrades := session.losingTrades
    totalFees := session.totalFees.getD 0
    durationHours := session.durationHours }

/-- All cash flows of the session are `factor` times as large, the capital it begins with included. -/
def PaperTradingSession.scale (factor : ℚ) (session : PaperTradingSession) : PaperTradingSession :=
  { session with
    initialCapital := factor * session.initialCapital
    currentPortfolioValue := session.currentPortfolioValue.map (factor * ·)
    totalFees := session.totalFees.map (factor * ·) }

def ReportsReturn (session : PaperTradingSession) : Prop :=
  ∀ math startDate endDate maxDrawdown acc,
    (calculateMetrics session).totalReturn =
      (reportedMetrics (calculateFinalMetricsFromAccumulators math session.initialCapital startDate
        endDate session.currentValue maxDrawdown acc)).totalReturn

/-- The decisions on a session that is the last stage after `stageResults`: the failed thresholds,
the degradation from the live replay, and that from the historical backtest. -/
structure SameDecisions (stageResults : Option PipelineStageResults)
    (thresholds : StageProgressionThresholds) (session other : PaperTradingSession) : Prop where
  passed : evaluateStageProgression (calculateMetrics session).stageMetrics thresholds = [] ↔
    evaluateStageProgression (calculateMetrics other).stageMetrics thresholds = []
  fromLiveReplay : ∀ reason,
    (paperTradingStageResult stageResults (calculateMetrics session) reason).degradationFromLiveReplay =
      (paperTradingStageResult stageResults (calculateMetrics other) reason).degradationFromLiveReplay
  fromHistorical : ∀ hist reason,
    avgDegradation hist (paperTradingStageResult stageResults (calculateMetrics session) reason) =
      avgDegradation hist (paperTradingStageResult stageResults (calculateMetrics other) reason)

/-- At every scale the session reports the return of a backtest and is judged as it is. -/
def InOneUnit (stageResults : Option PipelineStageResults) (thresholds : StageProgressionThresholds)
    (session : PaperTradingSession) : Prop :=
  ∀ factor, 0 < factor → ReportsReturn (session.scale factor) ∧
    SameDecisions stageResults thresholds (session.scale factor) session

variable {stageResults : Option PipelineStageResults} {thresholds : StageProgressionThresholds}
  {session other : PaperTradingSession} {factor : ℚ}

theorem currentValue_scale : (session.scale factor).currentValue = factor * session.currentValue := by
  unfold PaperTradingSession.currentValue PaperTradingSession.scale
  cases session.currentPortfolioValue <;> rfl

theorem totalReturn_scale : (calculateMetrics (session.scale factor)).totalReturn =
    factor * (calculateMetrics session).totalReturn := by
  change (session.scale factor).currentValue - factor * session.initialCapital =
    factor * (session.currentValue - session.initialCapital)
  rw [currentValue_scale]
  ring

theorem backtest_totalReturn {initialCapital : ℚ} (h : initialCapital ≠ 0) (math : Js.Math)
    (startDate endDate : Instant) (finalValue maxDrawdown : ℚ) (acc : MetricsAccumulator) :
    (reportedMetrics (calculateFinalMetricsFromAccumulators math initialCapital startDate endDate
      finalValue maxDrawdown acc)).totalReturn = finalValue / initialCapital - 1 := by
  change (finalValue - initialCapital) / initialCapital = _
  rw [sub_div, div_self h]

theorem reportsReturn_iff (h : session.initialCapital ≠ 0) : ReportsReturn session ↔
    session.currentValue - session.initialCapital =
      session.currentValue / session.initialCapital - 1 := by
  unfold ReportsReturn
  simp only [backtest_totalReturn h]
  exact ⟨fun hall => hall ⟨id, id, id, fun x _ => x⟩ 0 0 0 {}, fun heq _ _ _ _ _ => heq⟩

theorem totalReturn_eq_iff (h : session.initialCapital ≠ 0) :
    ReportsReturn session ↔
      session.initialCapital = 1 ∨ session.currentValue = session.initialCapital := by
  have hfrac : session.currentValue / session.initialCapital - 1 =
      (session.currentValue - session.initialCapital) / session.initialCapital := by
    rw [sub_div, div_self h]
  rw [reportsReturn_iff h, hfrac, eq_div_iff h, mul_right_eq_self₀, sub_eq_zero]

theorem sameDecisions_scale (h : session.currentValue = session.initialCapital) :
    SameDecisions stageResults thresholds (session.scale factor) session := by
  -- the return is zero, and it is all that the scale could change
  have hzero : (calculateMetrics session).totalReturn = 0 := sub_eq_zero.mpr h
  have hreturn : (calculateMetrics (session.scale factor)).totalReturn =
      (calculateMetrics session).totalReturn := by
    rw [totalReturn_scale, hzero, mul_zero]
  have hmetrics : (calculateMetrics (session.scale factor)).stageMetrics =
      (calculateMetrics session).stageMetrics := by
    unfold PaperTradingMetrics.stageMetrics
    rw [hreturn]
    rfl
  refine ⟨by rw [hmetrics], fun reason => ?_, fun hist reason => ?_⟩
  · change returnDegradation _ _ = returnDegradation _ _
    rw [hreturn]
  · unfold avgDegradation paperTradingStageResult
    rw [hmetrics]

/-- **At every scale a session reports the return of a backtest and is judged as it is if and only if
it ends where it began.** -/
theorem inOneUnit_iff (stageResults : Option PipelineStageResults)
    (thresholds : StageProgressionThresholds) (session : PaperTradingSession)
    (h : 0 < session.initialCapital) :
    InOneUnit stageResults thresholds session ↔ session.currentValue = session.initialCapital := by
  have hscaled : ∀ factor : ℚ, 0 < factor → (session.scale factor).initialCapital ≠ 0 :=
    fun factor hfactor => (mul_pos hfactor h).ne'
  constructor
  · intro hunit
    -- at the scale at which the capital is two units it reports the return of a backtest
    have hfactor : 0 < 2 / session.initialCapital := div_pos two_pos h
    have hcapital : (session.scale (2 / session.initialCapital)).initialCapital = 2 :=
      div_mul_cancel₀ 2 h.ne'
    obtain hone | hsame := (totalReturn_eq_iff (hscaled _ hfactor)).mp (hunit _ hfactor).1
    · rw [hcapital] at hone
      norm_num at hone
    · rw [currentValue_scale] at hsame
      exact mul_left_cancel₀ hfactor.ne' hsame
  · intro hsame factor hfactor
    refine ⟨(totalReturn_eq_iff (hscaled factor hfactor)).mpr (Or.inr ?_),
      sameDecisions_scale hsame⟩
    rw [currentValue_scale, hsame]
    rfl

/-! ## An amount as a fraction -/

def gainedOne : PaperTradingSession where
  initialCapital := 10000
  currentPortfolioValue := some 10001
  maxDrawdown := some (1 / 10)
  sharpeRatio := some 1
  winRate := some (1 / 2)
  totalTrades := 50
  winningTrades := 25
  losingTrades := 25
  totalFees := some 5
  durationHours := 168

def fivePercent : StageProgressionThresholds := { minTotalReturn := some (1 / 20) }

def earnedTenPercent : PipelineStageResults where
  liveReplay := some (liveReplayStageResult none 10000
    { sharpeRatio := 1, totalReturn := 1 / 10, maxDrawdown := 1 / 10, winRate := 1 / 2
      totalTrades := 50, winningTrades := 25, losingTrades := 25, profitFactor := 1
      volatility := 1 / 10 })

theorem inOneUnit_iff_unchanged :
    0 < gainedOne.initialCapital ∧
      InOneUnit (some earnedTenPercent) fivePercent
        { gainedOne with currentPortfolioValue := some 10000 } := by
  refine ⟨by decide +kernel, (inOneUnit_iff _ _ _ ?_).mpr ?_⟩
  · decide +kernel
  · rfl

/-- **A gain of 0.01 % meets a threshold of 5 %, and is taken for a return ten times that of the live
replay. With a hundredth of the capital it does not meet the threshold.** -/
theorem one_unit_gained :
    ¬ InOneUnit (some earnedTenPercent) fivePercent gainedOne ∧
      evaluateStageProgression (calculateMetrics gainedOne).stageMetrics fivePercent = [] ∧
      (paperTradingStageResult (some earnedTenPercent) (calculateMetrics gainedOne)
        (some .durationReached)).degradationFromLiveReplay = -900 ∧
      evaluateStageProgression (calculateMetrics (gainedOne.scale (1 / 100))).stageMetrics
        fivePercent = [.totalReturn 1 5] := by
  refine ⟨fun h => ?_, by decide +kernel, by decide +kernel, by decide +kernel⟩
  have hsame := ((h (1 / 100) (by decide +kernel)).2).passed.mpr (by decide +kernel)
  revert hsame
  decide +kernel

end Chansey.Pipelines
