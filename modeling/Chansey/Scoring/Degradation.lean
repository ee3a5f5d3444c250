import Chansey.Lib.Number
import Chansey.Lib.OrdMap
import Chansey.Lib.WeightedMean

/-!
# Degradation from train to test

How much worse a strategy does in a test period than in the train period before it, in percent, from
six metrics. The score of a full record has fixed weights; the score of some of the metrics has their
weights scaled to one.

* `calculateMetricDegrad`: one metric. **`calculateMetricDegrad_le`**: a better test value degrades
  less.
-/

namespace Chansey.Degradation

open WeightedMean

/-! ## Constants -/

def DEGRAD_CLAMP_MIN : ℚ := -200

def DEGRAD_CLAMP_MAX : ℚ := 300

def DEGRAD_MIN_DENOMINATOR : OrdMap String ℚ :=
  ⟨[("sharpeRatio", 1 / 10), ("totalReturn", 1 / 100), ("maxDrawdown", 1 / 100),
    ("winRate", 5 / 100), ("profitFactor", 1 / 10), ("volatility", 5 / 1000)], by decide⟩

def DEGRADATION_WEIGHTS : OrdMap String ℚ :=
  ⟨[("sharpeRatio", 30 / 100), ("totalReturn", 25 / 100), ("winRate", 15 / 100),
    ("profitFactor", 15 / 100), ("maxDrawdown", 10 / 100), ("volatility", 5 / 100)], by decide⟩

/-- A higher test value of these is worse. -/
def INVERTED_METRICS : List String := ["maxDrawdown", "volatility"]

/-! ## Scores -/

/-- The numbers of `WindowMetrics` that are compared. -/
structure WindowMetrics where
  sharpeRatio : ℚ
  totalReturn : ℚ
  maxDrawdown : ℚ
  winRate : ℚ
  profitFactor : ℚ
  volatility : ℚ

structure TrainTest where
  train : ℚ
  test : ℚ

def clampDegrad (change : ℚ) : ℚ := max DEGRAD_CLAMP_MIN (min DEGRAD_CLAMP_MAX change)

def minDenominator (metric : String) : ℚ := (DEGRAD_MIN_DENOMINATOR.get? metric).getD (1 / 10)

def difference (metric : String) (trainValue testValue : ℚ) : ℚ :=
  if metric ∈ INVERTED_METRICS then testValue - trainValue else trainValue - testValue

def calculateMetricDegrad (metric : String) (trainValue testValue : ℚ) : ℚ :=
  let diff := difference metric trainValue testValue
  if trainValue = 0 then
    if 0 < diff then clampDegrad (diff / minDenominator metric * 100) else 0
  else clampDegrad (diff / max |trainValue| (minDenominator metric) * 100)

/-- The field of a name. -/
def WindowMetrics.get? (metrics : WindowMetrics) : String → Option ℚ
  | "sharpeRatio" => some metrics.sharpeRatio
  | "totalReturn" => some metrics.totalReturn
  | "maxDrawdown" => some metrics.maxDrawdown
  | "winRate" => some metrics.winRate
  | "profitFactor" => some metrics.profitFactor
  | "volatility" => some metrics.volatility
  | _ => none

abbrev MetricDegradations := WindowMetrics

def calculateWeightedDegradation (degradations : MetricDegradations) : ℚ :=
  (DEGRADATION_WEIGHTS.entries.map fun e => (degradations.get? e.1).getD 0 * e.2).sum

inductive Severity where
  | excellent
  | good
  | acceptable
  | warning
  | critical

def determineSeverity (degradation : ℚ) : Severity :=
  if degradation < 10 then .excellent
  else if degradation < 20 then .good
  else if degradation < 30 then .acceptable
  else if degradation < 50 then .warning
  else .critical

/-- What has become much worse. -/
def problems (degradations : MetricDegradations) : List String :=
  let found :=
    (if degradations.sharpeRatio > 30 then ["significant Sharpe ratio drop"] else []) ++
    (if degradations.totalReturn > 40 then ["large return degradation"] else []) ++
    (if degradations.winRate > 25 then ["win rate decline"] else []) ++
    (if degradations.maxDrawdown > 50 then ["increased drawdown risk"] else [])
  if found = [] then ["overall metric decline"] else found

def generateRecommendation (severity : Severity) (degradations : MetricDegradations) : String :=
  let listed := ", ".intercalate (problems degradations)
  match severity with
  | .excellent => "Strategy generalizes well to out-of-sample data. Proceed with confidence."
  | .good =>
    "Strategy shows good generalization with minor performance degradation. " ++
      "Acceptable for deployment."
  | .acceptable =>
    "Strategy within acceptable degradation threshold. Monitor closely during live trading."
  | .warning =>
    "Strategy shows concerning degradation (" ++ listed ++
      "). Consider parameter optimization or reject."
  | .critical =>
    "Critical overfitting detected (" ++ listed ++ "). DO NOT deploy. Revise strategy parameters."

structure DegradationAnalysis where
  overallDegradation : ℚ
  metricDegradations : MetricDegradations
  severity : Severity
  recommendation : String

/-- `profitFactor || 1` -/
def orOne (profitFactor : ℚ) : ℚ := (Js.truthy? (some profitFactor)).getD 1

def metricDegradations (train test : WindowMetrics) : MetricDegradations where
  sharpeRatio := calculateMetricDegrad "sharpeRatio" train.sharpeRatio test.sharpeRatio
  totalReturn := calculateMetricDegrad "totalReturn" train.totalReturn test.totalReturn
  maxDrawdown := calculateMetricDegrad "maxDrawdown" train.maxDrawdown test.maxDrawdown
  winRate := calculateMetricDegrad "winRate" train.winRate test.winRate
  profitFactor :=
    calculateMetricDegrad "profitFactor" (orOne train.profitFactor) (orOne test.profitFactor)
  volatility := calculateMetricDegrad "volatility" train.volatility test.volatility

def calculate (train test : WindowMetrics) : DegradationAnalysis :=
  let degradations := metricDegradations train test
  let overallDegradation := calculateWeightedDegradation degradations
  let severity := determineSeverity overallDegradation
  ⟨overallDegradation, degradations, severity, generateRecommendation severity degradations⟩

def weightOf (entry : String × TrainTest) : ℚ := (DEGRADATION_WEIGHTS.get? entry.1).getD 0

def degradOf (entry : String × TrainTest) : ℚ :=
  calculateMetricDegrad entry.1 entry.2.train entry.2.test

def calculateFromValues (values : OrdMap String TrainTest) : ℚ :=
  let entries := values.entries.filter fun e => (DEGRADATION_WEIGHTS.get? e.1).isSome
  if entries.length = 0 then 0
  else
    let totalWeight := (entries.map weightOf).sum
    if totalWeight = 0 then 0
    else (entries.map fun e => degradOf e * (weightOf e / totalWeight)).sum

/-- The six metrics of two records, as the pipeline lists them. -/
def metricValues (train test : WindowMetrics) : OrdMap String TrainTest :=
  ⟨[("sharpeRatio", ⟨train.sharpeRatio, test.sharpeRatio⟩),
    ("totalReturn", ⟨train.totalReturn, test.totalReturn⟩),
    ("maxDrawdown", ⟨train.maxDrawdown, test.maxDrawdown⟩),
    ("winRate", ⟨train.winRate, test.winRate⟩),
    ("profitFactor", ⟨train.profitFactor, test.profitFactor⟩),
    ("volatility", ⟨train.volatility, test.volatility⟩)], by simp⟩

/-! ## One metric -/

section Metric

variable {metric : String} {train test other : ℚ}

theorem clampDegrad_mono {x y : ℚ} (h : x ≤ y) : clampDegrad x ≤ clampDegrad y :=
  max_le_max le_rfl (min_le_min le_rfl h)

theorem clampDegrad_bounds (x : ℚ) :
    DEGRAD_CLAMP_MIN ≤ clampDegrad x ∧ clampDegrad x ≤ DEGRAD_CLAMP_MAX := by
  refine ⟨le_max_left _ _, max_le ?_ (min_le_left _ _)⟩
  norm_num [DEGRAD_CLAMP_MIN, DEGRAD_CLAMP_MAX]

theorem clampDegrad_nonneg {x : ℚ} (h : 0 ≤ x) : 0 ≤ clampDegrad x := by
  refine le_trans (le_min ?_ h) (le_max_right _ _)
  norm_num [DEGRAD_CLAMP_MAX]

theorem minDenominator_pos (metric : String) : 0 < minDenominator metric := by
  have hall : ∀ e ∈ DEGRAD_MIN_DENOMINATOR.entries, 0 < e.2 := by decide +kernel
  unfold minDenominator
  cases h : DEGRAD_MIN_DENOMINATOR.get? metric with
  | none => norm_num
  | some d => exact hall (metric, d) (OrdMap.get?_eq_some_iff.mp h)

def AtLeastAsGood (metric : String) (other test : ℚ) : Prop :=
  if metric ∈ INVERTED_METRICS then other ≤ test else test ≤ other

theorem difference_le (h : AtLeastAsGood metric other test) (train : ℚ) :
    difference metric train other ≤ difference metric train test := by
  unfold AtLeastAsGood at h
  unfold difference
  split_ifs at h ⊢
  · exact sub_le_sub_right h train
  · exact sub_le_sub_left h train

theorem calculateMetricDegrad_le (h : AtLeastAsGood metric other test) (train : ℚ) :
    calculateMetricDegrad metric train other ≤ calculateMetricDegrad metric train test := by
  have hdiff := difference_le h train
  have hmin := minDenominator_pos metric
  have hscaled : ∀ d : ℚ, 0 < d →
      difference metric train other / d * 100 ≤ difference metric train test / d * 100 := by
    intro d hd
    have hdiv := div_le_div_of_nonneg_right hdiff hd.le
    linarith
  unfold calculateMetricDegrad
  dsimp only
  by_cases htrain : train = 0
  · rw [if_pos htrain, if_pos htrain]
    by_cases hother : 0 < difference metric train other
    · rw [if_pos hother, if_pos (lt_of_lt_of_le hother hdiff)]
      exact clampDegrad_mono (hscaled _ hmin)
    · rw [if_neg hother]
      split_ifs with htest
      · exact clampDegrad_nonneg (mul_nonneg (div_nonneg htest.le hmin.le) (by norm_num))
      · exact le_rfl
  · rw [if_neg htrain, if_neg htrain]
    exact clampDegrad_mono (hscaled _ (lt_of_lt_of_le hmin (le_max_right _ _)))

theorem calculateMetricDegrad_bounds (metric : String) (train test : ℚ) :
    DEGRAD_CLAMP_MIN ≤ calculateMetricDegrad metric train test ∧
      calculateMetricDegrad metric train test ≤ DEGRAD_CLAMP_MAX := by
  unfold calculateMetricDegrad
  dsimp only
  split_ifs
  · exact clampDegrad_bounds _
  · norm_num [DEGRAD_CLAMP_MIN, DEGRAD_CLAMP_MAX]
  · exact clampDegrad_bounds _

end Metric

/-! ## Some of the metrics -/

section Values

variable {values : OrdMap String TrainTest} {train test other : WindowMetrics}

def weightedEntries (values : OrdMap String TrainTest) : List (String × TrainTest) :=
  values.entries.filter fun e => (DEGRADATION_WEIGHTS.get? e.1).isSome

theorem calculateFromValues_eq (values : OrdMap String TrainTest) :
    calculateFromValues values = weightedMean weightOf degradOf (weightedEntries values) := by
  unfold calculateFromValues
  dsimp only
  split_ifs with hempty htotal
  · rw [weightedEntries, List.length_eq_zero_iff.mp hempty, weightedMean_nil]
  · exact (weightedMean_of_total_zero htotal).symm
  · rfl

theorem weightOf_nonneg (entry : String × TrainTest) : 0 ≤ weightOf entry := by
  have hall : ∀ e ∈ DEGRADATION_WEIGHTS.entries, 0 ≤ e.2 := by decide +kernel
  unfold weightOf
  cases h : DEGRADATION_WEIGHTS.get? entry.1 with
  | none => exact le_rfl
  | some w => exact hall (entry.1, w) (OrdMap.get?_eq_some_iff.mp h)

theorem calculateFromValues_bounds (values : OrdMap String TrainTest) :
    DEGRAD_CLAMP_MIN ≤ calculateFromValues values ∧
      calculateFromValues values ≤ DEGRAD_CLAMP_MAX := by
  rw [calculateFromValues_eq]
  constructor
  · refine le_weightedMean (by norm_num [DEGRAD_CLAMP_MIN]) (fun e _ => weightOf_nonneg e) ?_
    exact fun e _ => (calculateMetricDegrad_bounds _ _ _).1
  · refine weightedMean_le (by norm_num [DEGRAD_CLAMP_MAX]) (fun e _ => weightOf_nonneg e) ?_
    exact fun e _ => (calculateMetricDegrad_bounds _ _ _).2

theorem calculateFromValues_map_le {better : String → TrainTest → TrainTest}
    (h : ∀ key value, (key, value) ∈ values.entries →
      (better key value).train = value.train ∧
        AtLeastAsGood key (better key value).test value.test) :
    calculateFromValues (values.map better) ≤ calculateFromValues values := by
  have hents : weightedEntries (values.map better) =
      (weightedEntries values).map fun e => (e.1, better e.1 e.2) := by
    unfold weightedEntries OrdMap.map
    rw [List.filter_map]
    rfl
  rw [calculateFromValues_eq, calculateFromValues_eq, hents, weightedMean_map]
  refine weightedMean_le_weightedMean (fun e _ => weightOf_nonneg e) fun e he => ?_
  obtain ⟨htrain, htest⟩ := h e.1 e.2 (List.mem_of_mem_filter he)
  unfold degradOf
  dsimp only
  rw [htrain]
  exact calculateMetricDegrad_le htest _

def someValues (train test : WindowMetrics) (kept : String → Bool) : OrdMap String TrainTest :=
  (metricValues train test).filter fun key _ => kept key

def degradation (train test : WindowMetrics) (metric : String) : ℚ :=
  calculateMetricDegrad metric ((train.get? metric).getD 0) ((test.get? metric).getD 0)

def metricEntry (train test : WindowMetrics) (metric : String) : String × TrainTest :=
  (metric, ⟨(train.get? metric).getD 0, (test.get? metric).getD 0⟩)

def METRIC_NAMES : List String :=
  ["sharpeRatio", "totalReturn", "maxDrawdown", "winRate", "profitFactor", "volatility"]

theorem metricValues_entries (train test : WindowMetrics) :
    (metricValues train test).entries = METRIC_NAMES.map (metricEntry train test) := rfl

theorem METRIC_NAMES_perm : METRIC_NAMES.Perm DEGRADATION_WEIGHTS.keys := by decide +kernel

theorem isSome_weight {metric : String} (h : metric ∈ METRIC_NAMES) :
    (DEGRADATION_WEIGHTS.get? metric).isSome :=
  OrdMap.get?_isSome_iff.mpr (METRIC_NAMES_perm.mem_iff.mp h)

theorem weightedEntries_someValues (train test : WindowMetrics) (kept : String → Bool) :
    weightedEntries (someValues train test kept) =
      (METRIC_NAMES.filter kept).map (metricEntry train test) := by
  show ((metricValues train test).entries.filter fun e => kept e.1).filter
    (fun e => (DEGRADATION_WEIGHTS.get? e.1).isSome) = _
  rw [metricValues_entries, List.filter_map, List.filter_map, List.filter_filter]
  refine congrArg (List.map _) (List.filter_congr fun metric hmetric => ?_)
  rw [Function.comp_apply, Function.comp_apply]
  exact (congrArg (· && kept metric) (isSome_weight hmetric)).trans (Bool.true_and _)

theorem calculateFromValues_someValues (train test : WindowMetrics) (kept : String → Bool) :
    calculateFromValues (someValues train test kept) =
      weightedMean (·.2) (fun e => degradation train test e.1)
        (DEGRADATION_WEIGHTS.entries.filter fun e => kept e.1) := by
  have hrows : (METRIC_NAMES.filter kept).Perm
      ((DEGRADATION_WEIGHTS.entries.filter fun e => kept e.1).map Prod.fst) := by
    refine (METRIC_NAMES_perm.filter kept).trans (List.Perm.of_eq ?_)
    unfold OrdMap.keys
    rw [List.filter_map]
    rfl
  rw [calculateFromValues_eq, weightedEntries_someValues, weightedMean_map, weightedMean_perm hrows,
    weightedMean_map]
  refine weightedMean_congr (fun e he => ?_) fun e _ => rfl
  have hget := OrdMap.get?_eq_some_iff.mpr (List.mem_of_mem_filter he)
  exact congrArg (Option.getD · 0) hget

end Values

/-! ## The full record -/

section Full

variable {train test other : WindowMetrics}

/-- The record that `calculate` compares. -/
def WindowMetrics.orOne (metrics : WindowMetrics) : WindowMetrics :=
  { metrics with profitFactor := Degradation.orOne metrics.profitFactor }

theorem weights_one : totalWeight (·.2) DEGRADATION_WEIGHTS.entries = 1 := by
  norm_num [totalWeight, DEGRADATION_WEIGHTS]

theorem calculateFromValues_metricValues (train test : WindowMetrics) :
    calculateFromValues (metricValues train test) =
      (DEGRADATION_WEIGHTS.entries.map fun e => degradation train test e.1 * e.2).sum := by
  have hall : someValues train test (fun _ => true) = metricValues train test :=
    OrdMap.ext_entries (List.filter_eq_self.mpr fun _ _ => rfl)
  rw [← hall, calculateFromValues_someValues, List.filter_eq_self.mpr fun _ _ => rfl]
  unfold weightedMean
  rw [weights_one]
  simp only [div_one]

theorem overallDegradation_eq (train test : WindowMetrics) :
    (calculate train test).overallDegradation =
      calculateFromValues (metricValues train.orOne test.orOne) := by
  rw [calculateFromValues_metricValues]
  rfl

def profitDegrad (train test : ℚ) : ℚ := calculateMetricDegrad "profitFactor" train test

/-- The score without the profit factor. -/
def otherMetrics (train test : WindowMetrics) : ℚ :=
  degradation train test "sharpeRatio" * (30 / 100) +
    degradation train test "totalReturn" * (25 / 100) +
    degradation train test "winRate" * (15 / 100) +
    degradation train test "maxDrawdown" * (10 / 100) +
    degradation train test "volatility" * (5 / 100)

theorem calculateFromValues_split (train test : WindowMetrics) :
    calculateFromValues (metricValues train test) =
      otherMetrics train test + profitDegrad train.profitFactor test.profitFactor * (15 / 100) := by
  rw [calculateFromValues_metricValues, show profitDegrad train.profitFactor test.profitFactor =
    degradation train test "profitFactor" from rfl]
  simp only [DEGRADATION_WEIGHTS, otherMetrics, List.map_cons, List.map_nil, List.sum_cons,
    List.sum_nil]
  ring

theorem overallDegradation_split (train test : WindowMetrics) :
    (calculate train test).overallDegradation =
      otherMetrics train test +
        profitDegrad (orOne train.profitFactor) (orOne test.profitFactor) * (15 / 100) := by
  rw [overallDegradation_eq, calculateFromValues_split]
  rfl

theorem agree_iff (train test : WindowMetrics) :
    calculateFromValues (metricValues train test) = (calculate train test).overallDegradation ↔
      profitDegrad train.profitFactor test.profitFactor =
        profitDegrad (orOne train.profitFactor) (orOne test.profitFactor) := by
  rw [calculateFromValues_split, overallDegradation_split, add_right_inj]
  constructor
  · exact fun h => mul_right_cancel₀ (by norm_num) h
  · exact fun h => congrArg (· * (15 / 100 : ℚ)) h

end Full

/-! ## The profit factor -/

section ProfitFactor

variable {train test : ℚ}

theorem orOne_zero : orOne 0 = 1 := rfl

theorem orOne_of_ne_zero (h : test ≠ 0) : orOne test = test := by
  rw [orOne, Js.truthy?_some, if_neg h, Option.getD_some]

theorem orOne_ne_zero (test : ℚ) : orOne test ≠ 0 := by
  by_cases h : test = 0
  · rw [h, orOne_zero]
    exact one_ne_zero
  · rw [orOne_of_ne_zero h]
    exact h

theorem profitDegrad_of_ne_zero (h : train ≠ 0) (test : ℚ) :
    profitDegrad train test = clampDegrad ((train - test) / max |train| (1 / 10) * 100) := by
  unfold profitDegrad calculateMetricDegrad
  exact if_neg h

theorem profitDegrad_zero (test : ℚ) :
    profitDegrad 0 test = if test < 0 then clampDegrad (-test * 1000) else 0 := by
  unfold profitDegrad calculateMetricDegrad
  have hdiff : difference "profitFactor" 0 test = -test := by
    rw [← zero_sub test]
    rfl
  have hmin : minDenominator "profitFactor" = 1 / 10 := rfl
  dsimp only
  rw [if_pos rfl, hdiff, hmin]
  simp only [neg_pos]
  split_ifs
  · congr 1
    ring
  · rfl

theorem clampDegrad_lt {x y : ℚ} (h : x < y) (hlow : -200 < y) (hhigh : y ≤ 300) :
    clampDegrad x < clampDegrad y := by
  have hy : clampDegrad y = y := by
    unfold clampDegrad DEGRAD_CLAMP_MIN DEGRAD_CLAMP_MAX
    rw [min_eq_right hhigh, max_eq_right hlow.le]
  rw [hy]
  exact max_lt hlow (lt_of_le_of_lt (min_le_right _ _) h)

theorem exists_profitDegrad_gt (h : train ≠ 0) :
    ∃ p, 0 < p ∧ profitDegrad train 1 < profitDegrad train p := by
  set scale := max |train| (1 / 10) with hscale
  have hpos : 0 < scale := lt_of_lt_of_le (by norm_num) (le_max_right _ _)
  have hle : |train| ≤ scale := le_max_left _ _
  obtain ⟨_, _⟩ := abs_le.mp hle
  have hp : 0 < min (1 / 2) (scale / 2) := lt_min (by norm_num) (by linarith)
  refine ⟨min (1 / 2) (scale / 2), hp, ?_⟩
  have hone : min (1 / 2) (scale / 2) ≤ 1 / 2 := min_le_left _ _
  have hhalf : min (1 / 2) (scale / 2) ≤ scale / 2 := min_le_right _ _
  rw [profitDegrad_of_ne_zero h, profitDegrad_of_ne_zero h, ← hscale]
  refine clampDegrad_lt ?_ ?_ ?_
  · refine mul_lt_mul_of_pos_right ?_ (by norm_num)
    exact div_lt_div_of_pos_right (by linarith) hpos
  · rw [← div_lt_iff₀ (by norm_num), lt_div_iff₀ hpos]
    linarith
  · rw [← le_div_iff₀ (by norm_num), div_le_iff₀ hpos]
    linarith

theorem profitDegrad_zero_eq_iff (h : test ≠ 0) :
    profitDegrad 0 test = profitDegrad 1 test ↔ test = 1 ∨ test = -1 / 9 ∨ test ≤ -2 := by
  have hone : profitDegrad 1 test = clampDegrad ((1 - test) * 100) := by
    rw [profitDegrad_of_ne_zero one_ne_zero]
    norm_num
  rw [hone, profitDegrad_zero]
  unfold clampDegrad DEGRAD_CLAMP_MIN DEGRAD_CLAMP_MAX
  rcases lt_or_gt_of_ne h with hneg | hpos
  · rw [if_pos hneg, max_eq_right (le_min (by norm_num) (by linarith)),
      max_eq_right (le_min (by norm_num) (by linarith))]
    by_cases hfar : test ≤ -2
    · rw [min_eq_left (by linarith), min_eq_left (by linarith)]
      exact iff_of_true rfl (Or.inr (Or.inr hfar))
    · rw [min_eq_right (show (1 - test) * 100 ≤ 300 by linarith)]
      constructor
      · intro heq
        rcases min_choice (300 : ℚ) (-test * 1000) with hmin | hmin
        · rw [hmin] at heq
          linarith
        · rw [hmin] at heq
          exact .inr (Or.inl (by linarith))
      · rintro (rfl | rfl | hle)
        · linarith
        · norm_num
        · exact absurd hle hfar
  · rw [if_neg (not_lt.mpr hpos.le), min_eq_right (show (1 - test) * 100 ≤ 300 by linarith)]
    constructor
    · intro heq
      rcases max_choice (-200 : ℚ) ((1 - test) * 100) with hmax | hmax
      · rw [hmax] at heq
        linarith
      · rw [hmax] at heq
        exact .inl (by linarith)
    · rintro (rfl | rfl | hle)
      · norm_num
      · linarith
      · linarith

end ProfitFactor

/-! ## The calculators -/

structure WindowMetrics.AtLeastAsGood (other test : WindowMetrics) : Prop where
  sharpeRatio : test.sharpeRatio ≤ other.sharpeRatio
  totalReturn : test.totalReturn ≤ other.totalReturn
  maxDrawdown : other.maxDrawdown ≤ test.maxDrawdown
  winRate : test.winRate ≤ other.winRate
  profitFactor : test.profitFactor ≤ other.profitFactor
  volatility : other.volatility ≤ test.volatility

/-- The calculators agree on two records. A better test record does not score worse, scores lie within
the clamp bounds, and the score of some metrics is that of the remaining rows, with weights scaled to
one. -/
structure Sound (train test : WindowMetrics) : Prop where
  agrees : calculateFromValues (metricValues train test) = (calculate train test).overallDegradation
  falls : ∀ other : WindowMetrics, other.AtLeastAsGood test →
    (calculate train other).overallDegradation ≤ (calculate train test).overallDegradation
  someFall : ∀ (other : WindowMetrics) (kept : String → Bool), other.AtLeastAsGood test →
    calculateFromValues (someValues train other kept) ≤
      calculateFromValues (someValues train test kept)
  bounded : DEGRAD_CLAMP_MIN ≤ (calculate train test).overallDegradation ∧
    (calculate train test).overallDegradation ≤ DEGRAD_CLAMP_MAX
  someBounded : ∀ kept : String → Bool,
    DEGRAD_CLAMP_MIN ≤ calculateFromValues (someValues train test kept) ∧
      calculateFromValues (someValues train test kept) ≤ DEGRAD_CLAMP_MAX
  renormalised : ∀ kept : String → Bool,
    let rows := DEGRADATION_WEIGHTS.entries.filter fun e => kept e.1
    calculateFromValues (someValues train test kept) =
        (rows.map fun e => degradation train test e.1 * (e.2 / totalWeight (·.2) rows)).sum ∧
      (rows ≠ [] → (rows.map fun e => e.2 / totalWeight (·.2) rows).sum = 1)

section Sound

variable {train test other : WindowMetrics}

def withTest (other : WindowMetrics) (metric : String) (value : TrainTest) : TrainTest :=
  ⟨value.train, (other.get? metric).getD 0⟩

theorem someValues_map (train test other : WindowMetrics) (kept : String → Bool) :
    someValues train other kept = (someValues train test kept).map (withTest other) := by
  have hents : (metricValues train other).entries =
      (metricValues train test).entries.map fun e => (e.1, withTest other e.1 e.2) := rfl
  refine OrdMap.ext_entries ?_
  show (metricValues train other).entries.filter (fun e => kept e.1) =
    ((metricValues train test).entries.filter fun e => kept e.1).map _
  rw [hents, List.filter_map]
  rfl

theorem atLeastAsGood_withTest (h : other.AtLeastAsGood test) {metric : String} {value : TrainTest}
    (hmem : (metric, value) ∈ (metricValues train test).entries) :
    AtLeastAsGood metric (withTest other metric value).test value.test := by
  simp only [metricValues, List.mem_cons, List.not_mem_nil, or_false, Prod.mk.injEq] at hmem
  rcases hmem with ⟨rfl, rfl⟩ | ⟨rfl, rfl⟩ | ⟨rfl, rfl⟩ | ⟨rfl, rfl⟩ | ⟨rfl, rfl⟩ | ⟨rfl, rfl⟩
  · exact h.sharpeRatio
  · exact h.totalReturn
  · exact h.maxDrawdown
  · exact h.winRate
  · exact h.profitFactor
  · exact h.volatility

theorem someValues_le (h : other.AtLeastAsGood test) (kept : String → Bool) :
    calculateFromValues (someValues train other kept) ≤
      calculateFromValues (someValues train test kept) := by
  rw [someValues_map train test other]
  refine calculateFromValues_map_le fun metric value hmem => ⟨rfl, ?_⟩
  have hfil : (metric, value) ∈
      (metricValues train test).entries.filter fun e => kept e.1 := hmem
  exact atLeastAsGood_withTest h (List.mem_of_mem_filter hfil)

theorem orOne_atLeastAsGood (h : other.AtLeastAsGood test) (htest : test.profitFactor ≠ 0) :
    other.orOne.AtLeastAsGood test.orOne where
  sharpeRatio := h.sharpeRatio
  totalReturn := h.totalReturn
  maxDrawdown := h.maxDrawdown
  winRate := h.winRate
  profitFactor := by
    show orOne test.profitFactor ≤ orOne other.profitFactor
    rw [orOne_of_ne_zero htest]
    by_cases hother : other.profitFactor = 0
    · rw [hother, orOne_zero]
      linarith [h.profitFactor]
    · rw [orOne_of_ne_zero hother]
      exact h.profitFactor
  volatility := h.volatility

theorem metricValues_le (h : other.AtLeastAsGood test) :
    calculateFromValues (metricValues train other) ≤
      calculateFromValues (metricValues train test) := by
  have hall : ∀ train test : WindowMetrics,
      someValues train test (fun _ => true) = metricValues train test := fun train test =>
    OrdMap.ext_entries (List.filter_eq_self.mpr fun _ _ => rfl)
  rw [← hall, ← hall]
  exact someValues_le h _

theorem not_falls (htest : test.profitFactor = 0) :
    ∃ other : WindowMetrics, other.AtLeastAsGood test ∧
      (calculate train test).overallDegradation < (calculate train other).overallDegradation := by
  obtain ⟨p, hp, _⟩ := exists_profitDegrad_gt (orOne_ne_zero train.profitFactor)
  refine ⟨{ test with profitFactor := p }, ⟨le_rfl, le_rfl, le_rfl, le_rfl, ?_, le_rfl⟩, ?_⟩
  · rw [htest]
    exact hp.le
  · rw [overallDegradation_split, overallDegradation_split, htest, orOne_zero,
      orOne_of_ne_zero hp.ne']
    have hrest : otherMetrics train { test with profitFactor := p } = otherMetrics train test := rfl
    rw [hrest]
    linarith

theorem renormalised (train test : WindowMetrics) (kept : String → Bool) :
    let rows := DEGRADATION_WEIGHTS.entries.filter fun e => kept e.1
    calculateFromValues (someValues train test kept) =
        (rows.map fun e => degradation train test e.1 * (e.2 / totalWeight (·.2) rows)).sum ∧
      (rows ≠ [] → (rows.map fun e => e.2 / totalWeight (·.2) rows).sum = 1) := by
  intro rows
  refine ⟨calculateFromValues_someValues train test kept, fun hrows => sum_scaledWeights ?_⟩
  have hall : ∀ e ∈ DEGRADATION_WEIGHTS.entries, 0 < e.2 := by decide +kernel
  refine (List.sum_pos _ (fun w hw => ?_) ?_).ne'
  · obtain ⟨e, he, rfl⟩ := List.mem_map.mp hw
    exact hall e (List.mem_of_mem_filter he)
  · simpa using hrows

/-- **The calculators are sound** on two records exactly if the test profit factor is not zero and
that of the train record is not either, except where a train value of zero and one score alike. -/
theorem sound_iff (train test : WindowMetrics) :
    Sound train test ↔ test.profitFactor ≠ 0 ∧
      (train.profitFactor ≠ 0 ∨ test.profitFactor = 1 ∨ test.profitFactor = -1 / 9 ∨
        test.profitFactor ≤ -2) := by
  constructor
  · intro h
    have htest : test.profitFactor ≠ 0 := by
      intro hzero
      obtain ⟨other, hgood, hlt⟩ := @not_falls train test hzero
      exact absurd (h.falls other hgood) (not_le.mpr hlt)
    refine ⟨htest, ?_⟩
    by_cases htrain : train.profitFactor = 0
    · have hagree := (agree_iff train test).mp h.agrees
      rw [htrain, orOne_zero, orOne_of_ne_zero htest] at hagree
      exact .inr ((profitDegrad_zero_eq_iff htest).mp hagree)
    · exact .inl htrain
  · rintro ⟨htest, htrain⟩
    refine
      { agrees := (agree_iff train test).mpr ?_
        falls := fun other hgood => ?_
        someFall := fun other kept hgood => someValues_le hgood kept
        bounded := ?_
        someBounded := fun kept => calculateFromValues_bounds _
        renormalised := renormalised train test }
    · rw [orOne_of_ne_zero htest]
      by_cases hzero : train.profitFactor = 0
      · rw [hzero, orOne_zero]
        exact (profitDegrad_zero_eq_iff htest).mpr (htrain.resolve_left fun h => h hzero)
      · rw [orOne_of_ne_zero hzero]
    · rw [overallDegradation_eq, overallDegradation_eq]
      exact metricValues_le (orOne_atLeastAsGood hgood htest)
    · rw [overallDegradation_eq]
      exact calculateFromValues_bounds _

theorem zero_taken_for_one :
    let train : WindowMetrics := ⟨3 / 2, 15 / 100, 1 / 10, 6 / 10, 1, 2 / 10⟩
    let test : WindowMetrics := { train with profitFactor := 0 }
    (calculate train test).overallDegradation = 0 ∧
      calculateFromValues (metricValues train test) = 15 ∧
      (calculate train { train with profitFactor := 1 / 2 }).overallDegradation = 15 / 2 ∧
      ¬ Sound train test := by
  have hscore : calculateFromValues (metricValues ⟨3 / 2, 15 / 100, 1 / 10, 6 / 10, 1, 2 / 10⟩
      ⟨3 / 2, 15 / 100, 1 / 10, 6 / 10, 0, 2 / 10⟩) = 15 := by decide +kernel
  have hanalysis : (calculate ⟨3 / 2, 15 / 100, 1 / 10, 6 / 10, 1, 2 / 10⟩
      ⟨3 / 2, 15 / 100, 1 / 10, 6 / 10, 0, 2 / 10⟩).overallDegradation = 0 := by decide +kernel
  refine ⟨hanalysis, hscore, by decide +kernel, fun h => ?_⟩
  have hagree := h.agrees
  rw [hscore, hanalysis] at hagree
  norm_num at hagree

end Sound

end Chansey.Degradation
