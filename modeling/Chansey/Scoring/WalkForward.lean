import Mathlib.Data.Int.ConditionallyCompleteOrder
import Chansey.Lib.Number

/-!
# Walk-forward windows

Each window has a train period and, one day later, a test period; the next begins a step after it.
The last test period is cut at the end of the range if enough of it is left. Dates are in
milliseconds and in UTC; a fraction of a day is dropped when days are added to a date.

* `windowAt`, `Full`, `Clamped`: the window of an index, and when it is kept.
-/

namespace Chansey.WalkForward

def oneDay : ℤ := 24 * 60 * 60 * 1000

structure WalkForwardWindowConfig where
  windowIndex : ℕ
  trainStartDate : ℤ
  trainEndDate : ℤ
  testStartDate : ℤ
  testEndDate : ℤ
  deriving DecidableEq

inductive WalkForwardMethod where
  | rolling
  | anchored
  deriving DecidableEq

structure WalkForwardConfig where
  trainDays : ℚ
  testDays : ℚ
  stepDays : ℚ
  method : WalkForwardMethod := .rolling

def MIN_TEST_WINDOW_DAYS : ℤ := 14

def validateConfig (config : WalkForwardConfig) : List String :=
  (if config.trainDays ≤ 0 then ["trainDays must be positive"] else []) ++
  (if config.testDays ≤ 0 then ["testDays must be positive"] else []) ++
  (if config.stepDays ≤ 0 then ["stepDays must be positive"] else []) ++
  (if config.trainDays < 30 then
    ["trainDays should be at least 30 for statistical significance"] else []) ++
  (if config.testDays < MIN_TEST_WINDOW_DAYS then
    ["testDays should be at least 14 for meaningful out-of-sample testing"] else []) ++
  (if config.stepDays > config.trainDays then
    ["stepDays should not exceed trainDays to ensure overlap"] else [])

/-- `setDate(getDate() + days)` of a number of days that is not negative. -/
def addDays (date : ℤ) (days : ℚ) : ℤ := date + ⌊days⌋ * oneDay

def daysBetween (date1 date2 : ℤ) : ℤ := Js.round ((|date2 - date1| : ℤ) / (oneDay : ℚ))

def windowLoop (endDate : ℤ) (config : WalkForwardConfig) :
    ℕ → ℕ → ℤ → List WalkForwardWindowConfig
  | 0, _, _ => []
  | turns + 1, windowIndex, currentDate =>
    let trainEndDate := addDays currentDate config.trainDays
    if trainEndDate > endDate then []
    else
      let testStartDate := addDays trainEndDate 1
      let testEndDate := addDays testStartDate config.testDays
      if testEndDate > endDate then
        if daysBetween testStartDate endDate ≥ MIN_TEST_WINDOW_DAYS then
          [⟨windowIndex, currentDate, trainEndDate, testStartDate, endDate⟩]
        else []
      else
        ⟨windowIndex, currentDate, trainEndDate, testStartDate, testEndDate⟩ ::
          windowLoop endDate config turns (windowIndex + 1) (addDays currentDate config.stepDays)

/-- The loop goes on while `windowIndex <= 1000`. -/
def maxWindows : ℕ := 1001

def generateWindows (startDate endDate : ℤ) (config : WalkForwardConfig) :
    Except String (List WalkForwardWindowConfig) :=
  if config.trainDays ≤ 0 ∨ config.testDays ≤ 0 ∨ config.stepDays ≤ 0 then
    .error "trainDays, testDays, and stepDays must be positive"
  else if startDate ≥ endDate then .error "startDate must be before endDate"
  else if config.method = .anchored then
    .error "Anchored walk-forward windows are not yet implemented. Use method: 'rolling'."
  else .ok (windowLoop endDate config maxWindows 0 startDate)

def estimateWindowCount (startDate endDate : ℤ) (config : WalkForwardConfig) : ℤ :=
  let totalDays := daysBetween startDate endDate
  let windowSize := config.trainDays + 1 + config.testDays
  if totalDays < windowSize then 0
  else ⌊(totalDays - windowSize) / config.stepDays⌋ + 1

/-- The step, and whether it was reduced. -/
def computeAdaptiveStepDays (totalDays : ℤ) (trainDays testDays configuredStepDays minWindows : ℚ) :
    ℚ × Bool :=
  if minWindows ≤ 1 then (configuredStepDays, false)
  else
    let windowSize := trainDays + 1 + testDays
    if totalDays < windowSize then (configuredStepDays, false)
    else
      let maxStepDays : ℚ := ⌊(totalDays - windowSize) / (minWindows - 1)⌋
      let adaptiveStep := max 1 (min configuredStepDays maxStepDays)
      (adaptiveStep, decide (adaptiveStep < configuredStepDays))

/-! ## The window of an index -/

section Windows

variable (startDate endDate : ℤ) (config : WalkForwardConfig)

def trainStart (i : ℕ) : ℤ := startDate + i * (⌊config.stepDays⌋ * oneDay)

def trainEnd (i : ℕ) : ℤ := trainStart startDate config i + ⌊config.trainDays⌋ * oneDay

def testStart (i : ℕ) : ℤ := trainEnd startDate config i + oneDay

def testEnd (i : ℕ) : ℤ := testStart startDate config i + ⌊config.testDays⌋ * oneDay

def windowAt (i : ℕ) : WalkForwardWindowConfig :=
  ⟨i, trainStart startDate config i, trainEnd startDate config i, testStart startDate config i,
    min (testEnd startDate config i) endDate⟩

def Full (i : ℕ) : Prop := testEnd startDate config i ≤ endDate

/-- The test period is cut at the end of the range. -/
def Clamped (i : ℕ) : Prop :=
  endDate < testEnd startDate config i ∧ trainEnd startDate config i ≤ endDate ∧
    MIN_TEST_WINDOW_DAYS ≤ daysBetween (testStart startDate config i) endDate

def Kept (i : ℕ) : Prop := Full startDate endDate config i ∨ Clamped startDate endDate config i

variable {startDate endDate config}

theorem Full.trainEnd_le {i : ℕ} (h : Full startDate endDate config i)
    (htest : 0 ≤ config.testDays) : trainEnd startDate config i ≤ endDate := by
  have hdays : 0 ≤ ⌊config.testDays⌋ := Int.floor_nonneg.mpr htest
  unfold Full testEnd testStart oneDay at h
  omega

theorem trainStart_succ (i : ℕ) :
    trainStart startDate config (i + 1) =
      addDays (trainStart startDate config i) config.stepDays := by
  unfold trainStart addDays
  push_cast
  ring

theorem addDays_one (date : ℤ) : addDays date 1 = date + oneDay := by
  simp [addDays]

theorem windowLoop_spec (htest : 0 ≤ config.testDays) (turns i : ℕ) :
    ∃ n ≤ turns,
      windowLoop endDate config turns i (trainStart startDate config i) =
        (List.range' i n).map (windowAt startDate endDate config) ∧
      (∀ j, i ≤ j → j < i + n → Full startDate endDate config j ∨
        j + 1 = i + n ∧ Clamped startDate endDate config j) ∧
      (n < turns → ¬ Kept startDate endDate config (i + n) ∨
        ∃ j, j + 1 = i + n ∧ ¬ Full startDate endDate config j) := by
  induction turns generalizing i with
  | zero => exact ⟨0, le_refl 0, rfl, fun j h1 h2 => by omega, fun h => by omega⟩
  | succ turns ih =>
    have htrainEnd : addDays (trainStart startDate config i) config.trainDays =
        trainEnd startDate config i := rfl
    have htestStart : addDays (trainEnd startDate config i) 1 = testStart startDate config i :=
      addDays_one _
    have htestEnd : addDays (testStart startDate config i) config.testDays =
        testEnd startDate config i := rfl
    rw [windowLoop]
    dsimp only
    rw [htrainEnd, htestStart, htestEnd, ← trainStart_succ]
    by_cases htrain : trainEnd startDate config i > endDate
    · rw [if_pos htrain]
      refine ⟨0, Nat.zero_le _, rfl, fun j h1 h2 => by omega, fun _ => Or.inl ?_⟩
      rintro (hfull | hclamped)
      · exact absurd (hfull.trainEnd_le htest) (not_le.mpr htrain)
      · exact absurd hclamped.2.1 (not_le.mpr htrain)
    rw [if_neg htrain]
    by_cases hcut : testEnd startDate config i > endDate
    · rw [if_pos hcut]
      by_cases hlong : daysBetween (testStart startDate config i) endDate ≥ MIN_TEST_WINDOW_DAYS
      · rw [if_pos hlong]
        refine ⟨1, Nat.succ_le_succ (Nat.zero_le _), ?_, fun j h1 h2 => Or.inr ?_, fun _ => ?_⟩
        · rw [List.range'_one, List.map_singleton, windowAt, min_eq_right hcut.le]
        · obtain rfl : j = i := by omega
          exact ⟨rfl, hcut, not_lt.mp htrain, hlong⟩
        · exact .inr ⟨i, rfl, not_le.mpr hcut⟩
      · rw [if_neg hlong]
        refine ⟨0, Nat.zero_le _, rfl, fun j h1 h2 => by omega, fun _ => Or.inl ?_⟩
        rintro (hfull | hclamped)
        · exact absurd hfull (not_le.mpr hcut)
        · exact hlong hclamped.2.2
    · rw [if_neg hcut]
      obtain ⟨n, hn, hwins, hkept, hstop⟩ := ih (i + 1)
      have hfull : Full startDate endDate config i := not_lt.mp hcut
      refine ⟨n + 1, Nat.succ_le_succ hn, ?_, fun j h1 h2 => ?_, fun h => ?_⟩
      · rw [List.range'_succ, List.map_cons, hwins, windowAt, min_eq_left hfull]
      · rcases h1.eq_or_lt with rfl | hlt
        · exact .inl hfull
        · have hlater := hkept j hlt (by omega)
          rwa [show i + (n + 1) = i + 1 + n by omega]
      · rw [show i + (n + 1) = i + 1 + n by omega]
        exact hstop (Nat.lt_of_succ_lt_succ h)

theorem le_length_windowLoop (htest : 0 ≤ config.testDays) {turns m : ℕ} (hturns : m ≤ turns)
    (hfull : ∀ i, i + 1 < m → Full startDate endDate config i)
    (hlast : ∀ i, i + 1 = m → Kept startDate endDate config i) :
    m ≤ (windowLoop endDate config turns 0 startDate).length := by
  have hstart : trainStart startDate config 0 = startDate := by
    simp [trainStart]
  obtain ⟨n, _, hwins, -, hstop⟩ := @windowLoop_spec startDate endDate config htest turns 0
  rw [hstart] at hwins
  rw [hwins, List.length_map, List.length_range']
  by_contra hlt
  rw [not_le] at hlt
  rcases hstop (by omega) with hnot | ⟨j, _, hnot⟩
  · refine hnot ?_
    rw [Nat.zero_add]
    rcases (Nat.succ_le_of_lt hlt).eq_or_lt with heq | hlt
    · exact hlast n heq
    · exact .inl (hfull n hlt)
  · exact hnot (hfull j (by omega))

end Windows

/-! ## How many there are -/

theorem le_daysBetween_iff {date1 date2 n : ℤ} :
    n ≤ daysBetween date1 date2 ↔ (2 * n - 1) * oneDay ≤ 2 * |date2 - date1| := by
  have hday : (0 : ℚ) < oneDay := by
    rw [oneDay]
    norm_num
  rw [daysBetween, Js.round, Int.le_floor, ← @Int.cast_le ℚ]
  push_cast
  rw [← sub_le_iff_le_add, le_div_iff₀ hday]
  constructor <;> intro h <;> linarith

section Count

variable {startDate endDate : ℤ} {config : WalkForwardConfig}

theorem trainEnd_eq (i : ℕ) : trainEnd startDate config i =
    startDate + (i * ⌊config.stepDays⌋ + ⌊config.trainDays⌋) * oneDay := by
  unfold trainEnd trainStart
  ring

theorem full_of_lt (hdates : startDate < endDate) {i : ℕ}
    (h : i * ⌊config.stepDays⌋ + ⌊config.trainDays⌋ + 1 + ⌊config.testDays⌋ <
      daysBetween startDate endDate) : Full startDate endDate config i := by
  have hspan := le_daysBetween_iff.mp (Int.add_one_le_of_lt h)
  rw [abs_of_pos (sub_pos.mpr hdates)] at hspan
  rw [Full, testEnd, testStart, trainEnd_eq]
  unfold oneDay at *
  generalize (i : ℤ) * ⌊config.stepDays⌋ = steps at *
  omega

theorem kept_of_le (hdates : startDate < endDate) (htest : 14 ≤ ⌊config.testDays⌋) {i : ℕ}
    (h : i * ⌊config.stepDays⌋ + ⌊config.trainDays⌋ + 1 + ⌊config.testDays⌋ ≤
      daysBetween startDate endDate) : Kept startDate endDate config i := by
  have hspan := le_daysBetween_iff.mp h
  rw [abs_of_pos (sub_pos.mpr hdates)] at hspan
  by_cases hfull : Full startDate endDate config i
  · exact .inl hfull
  · refine .inr ⟨not_le.mp hfull, ?_, le_trans htest (le_daysBetween_iff.mpr ?_)⟩
    · rw [trainEnd_eq]
      unfold oneDay at *
      generalize (i : ℤ) * ⌊config.stepDays⌋ = steps at *
      omega
    · rw [testStart, trainEnd_eq]
      refine le_trans ?_ (mul_le_mul_of_nonneg_left (le_abs_self _) zero_le_two)
      unfold oneDay at *
      generalize (i : ℤ) * ⌊config.stepDays⌋ = steps at *
      omega

theorem le_length_of_le_estimate (hdates : startDate < endDate) (htest : 14 ≤ ⌊config.testDays⌋)
    (hstep : 0 < config.stepDays) {m : ℕ} (hcap : m ≤ maxWindows)
    (hm : (m : ℤ) ≤ estimateWindowCount startDate endDate config) :
    m ≤ (windowLoop endDate config maxWindows 0 startDate).length := by
  rcases Nat.eq_zero_or_pos m with rfl | hpos
  · exact Nat.zero_le _
  have hspan : (m - 1 : ℚ) * config.stepDays + (config.trainDays + 1 + config.testDays) ≤
      daysBetween startDate endDate := by
    rw [estimateWindowCount] at hm
    split_ifs at hm with hshort
    · omega
    · have hfloor : ((m - 1 : ℤ) : ℚ) ≤
          (daysBetween startDate endDate - (config.trainDays + 1 + config.testDays)) /
            config.stepDays := Int.le_floor.mp (by omega)
      rw [le_div_iff₀ hstep] at hfloor
      push_cast at hfloor
      linarith
  have htrain := Int.floor_le config.trainDays
  have htestDays := Int.floor_le config.testDays
  have hwhole := Int.floor_le config.stepDays
  have htest0 : 0 ≤ config.testDays := by
    have : ((14 : ℤ) : ℚ) ≤ ⌊config.testDays⌋ := Int.cast_le.mpr htest
    push_cast at this
    linarith
  refine le_length_windowLoop htest0 hcap (fun i hi => full_of_lt hdates ?_)
    fun i hi => kept_of_le hdates htest ?_
  · have hcast : (i : ℚ) + 1 < m := by exact_mod_cast hi
    have hi0 : (0 : ℚ) ≤ i := Nat.cast_nonneg i
    rw [← @Int.cast_lt ℚ]
    push_cast
    nlinarith
  · have hcast : (i : ℚ) + 1 = m := by exact_mod_cast hi
    have hi0 : (0 : ℚ) ≤ i := Nat.cast_nonneg i
    rw [← @Int.cast_le ℚ]
    push_cast
    nlinarith

end Count

/-! ## Well-formed windows -/

/-- The windows of a range: a test period is shorter only if it is the last, which ends with the
range and still has enough days. -/
structure WindowsOf (startDate endDate : ℤ) (config : WalkForwardConfig)
    (windows : List WalkForwardWindowConfig) : Prop where
  indices : windows.map (·.windowIndex) = List.range windows.length
  starts : ∀ w ∈ windows,
    w.trainStartDate = startDate + w.windowIndex * (⌊config.stepDays⌋ * oneDay)
  train : ∀ w ∈ windows, w.trainEndDate = w.trainStartDate + ⌊config.trainDays⌋ * oneDay
  gap : ∀ w ∈ windows, w.testStartDate = w.trainEndDate + oneDay
  inside : ∀ w ∈ windows, startDate ≤ w.trainStartDate ∧ w.trainStartDate ≤ w.trainEndDate ∧
    w.testStartDate ≤ w.testEndDate ∧ w.testEndDate ≤ endDate
  test : ∀ w ∈ windows, w.testEndDate = w.testStartDate + ⌊config.testDays⌋ * oneDay ∨
    w.windowIndex + 1 = windows.length ∧ w.testEndDate = endDate ∧
      endDate < w.testStartDate + ⌊config.testDays⌋ * oneDay ∧
      MIN_TEST_WINDOW_DAYS ≤ daysBetween w.testStartDate w.testEndDate

section Spec

variable {startDate endDate : ℤ} {config : WalkForwardConfig}

theorem Clamped.testStart_le {i : ℕ} (h : Clamped startDate endDate config i) :
    testStart startDate config i ≤ endDate := by
  obtain ⟨-, _, hdays⟩ := h
  by_contra hlate
  rw [MIN_TEST_WINDOW_DAYS, le_daysBetween_iff, abs_of_nonpos (by omega)] at hdays
  unfold testStart oneDay at *
  omega

theorem windowLoop_windowsOf (htrain : 0 ≤ config.trainDays) (htest : 0 ≤ config.testDays)
    (hstep : 0 ≤ config.stepDays) (turns : ℕ) :
    WindowsOf startDate endDate config (windowLoop endDate config turns 0 startDate) := by
  have hstart : trainStart startDate config 0 = startDate := by
    simp [trainStart]
  obtain ⟨n, -, hwins, hkept, -⟩ := @windowLoop_spec startDate endDate config htest turns 0
  rw [hstart] at hwins
  have hday : 0 ≤ oneDay := by decide
  have htrainDays := mul_nonneg (Int.floor_nonneg.mpr htrain) hday
  have htestDays := mul_nonneg (Int.floor_nonneg.mpr htest) hday
  have hstepDays := mul_nonneg (Int.floor_nonneg.mpr hstep) hday
  have hat : ∀ w ∈ windowLoop endDate config turns 0 startDate,
      ∃ i < n, w = windowAt startDate endDate config i ∧
        (Full startDate endDate config i ∨ i + 1 = n ∧ Clamped startDate endDate config i) := by
    intro w hw
    rw [hwins] at hw
    obtain ⟨i, hi, rfl⟩ := List.mem_map.mp hw
    have hlt : i < n := by simpa using hi
    refine ⟨i, hlt, rfl, ?_⟩
    rcases hkept i (Nat.zero_le i) (by omega) with hfull | hlast
    · exact .inl hfull
    · exact .inr ⟨by omega, hlast.2⟩
  have hlen : (windowLoop endDate config turns 0 startDate).length = n := by
    rw [hwins, List.length_map, List.length_range']
  refine ⟨?_, fun w hw => ?_, fun w hw => ?_, fun w hw => ?_, fun w hw => ?_, fun w hw => ?_⟩
  · rw [hlen, hwins, List.map_map, List.range_eq_range']
    exact List.map_id' _
  all_goals obtain ⟨i, hi, rfl, hcase⟩ := hat w hw
  · rfl
  · rfl
  · rfl
  · have hpos : 0 ≤ (i : ℤ) * (⌊config.stepDays⌋ * oneDay) :=
      mul_nonneg (Int.natCast_nonneg i) hstepDays
    refine ⟨?_, ?_, le_min ?_ ?_, min_le_right _ _⟩
    · exact le_add_of_nonneg_right hpos
    · exact le_add_of_nonneg_right htrainDays
    · exact le_add_of_nonneg_right htestDays
    · rcases hcase with hfull | hlast
      · exact le_trans (le_add_of_nonneg_right htestDays) hfull
      · exact hlast.2.testStart_le
  · rcases hcase with hfull | ⟨hlast, hclamped⟩
    · exact .inl (min_eq_left hfull)
    · have hcut : min (testEnd startDate config i) endDate = endDate := min_eq_right hclamped.1.le
      refine .inr ⟨by rw [hlen]; exact hlast, hcut, hclamped.1, ?_⟩
      rw [windowAt, hcut]
      exact hclamped.2.2

theorem validateConfig_eq_nil (h : validateConfig config = []) :
    30 ≤ config.trainDays ∧ 14 ≤ ⌊config.testDays⌋ ∧ 0 < config.stepDays := by
  unfold validateConfig at h
  simp only [List.append_eq_nil_iff] at h
  obtain ⟨⟨⟨⟨⟨-, -⟩, hstep⟩, htrain⟩, htest⟩, -⟩ := h
  refine ⟨?_, Int.le_floor.mpr ?_, ?_⟩
  · by_contra hlt
    rw [if_pos (not_le.mp hlt)] at htrain
    exact List.cons_ne_nil _ _ htrain
  · by_contra hlt
    rw [MIN_TEST_WINDOW_DAYS, if_pos (not_le.mp hlt)] at htest
    exact List.cons_ne_nil _ _ htest
  · by_contra hle
    rw [if_pos (not_lt.mp hle)] at hstep
    exact List.cons_ne_nil _ _ hstep

theorem generateWindows_eq (htrain : 0 < config.trainDays) (htest : 0 < config.testDays)
    (hstep : 0 < config.stepDays) (hmethod : config.method = .rolling)
    (hdates : startDate < endDate) :
    generateWindows startDate endDate config =
      .ok (windowLoop endDate config maxWindows 0 startDate) := by
  unfold generateWindows
  rw [if_neg (by simp [htrain, htest, hstep]), if_neg (not_le.mpr hdates),
    if_neg (by simp [hmethod])]

/-! ### The adaptive step -/

section Adaptive

variable {totalDays : ℤ} {trainDays testDays configuredStepDays minWindows : ℚ}

theorem computeAdaptiveStepDays_pos (hstep : 0 < configuredStepDays) :
    0 < (computeAdaptiveStepDays totalDays trainDays testDays configuredStepDays minWindows).1 := by
  unfold computeAdaptiveStepDays
  dsimp only
  split_ifs
  · exact hstep
  · exact hstep
  · exact lt_of_lt_of_le (by norm_num) (le_max_left _ _)

theorem computeAdaptiveStepDays_le (hmin : 1 < minWindows)
    (hspan : trainDays + 1 + testDays + minWindows - 1 ≤ totalDays) :
    (minWindows - 1) *
        (computeAdaptiveStepDays totalDays trainDays testDays configuredStepDays minWindows).1 ≤
      totalDays - (trainDays + 1 + testDays) := by
  have hpos : 0 < minWindows - 1 := sub_pos.mpr hmin
  have hone : (1 : ℤ) ≤ ⌊(totalDays - (trainDays + 1 + testDays)) / (minWindows - 1)⌋ := by
    rw [Int.le_floor, le_div_iff₀ hpos]
    push_cast
    linarith
  unfold computeAdaptiveStepDays
  rw [if_neg (not_le.mpr hmin)]
  dsimp only
  rw [if_neg (by linarith)]
  dsimp only
  rw [mul_comm, ← le_div_iff₀ hpos]
  refine le_trans (max_le ?_ (min_le_right _ _)) (Int.floor_le _)
  exact_mod_cast hone

end Adaptive

theorem windows_of_config (htrain : 30 ≤ config.trainDays) (htest : 14 ≤ ⌊config.testDays⌋)
    (hstep : 0 < config.stepDays) (hmethod : config.method = .rolling)
    (hdates : startDate < endDate) :
    ∃ windows, generateWindows startDate endDate config = .ok windows ∧
      WindowsOf startDate endDate config windows ∧
      ∀ m ≤ maxWindows, (m : ℤ) ≤ estimateWindowCount startDate endDate config →
        m ≤ windows.length := by
  have htrain0 : 0 < config.trainDays := lt_of_lt_of_le (by norm_num) htrain
  have htest0 : 0 < config.testDays := by
    refine lt_of_lt_of_le ?_ (Int.le_floor.mp htest)
    norm_num
  refine ⟨_, generateWindows_eq htrain0 htest0 hstep hmethod hdates, ?_, fun m hcap hm => ?_⟩
  · exact windowLoop_windowsOf htrain0.le htest0.le hstep.le _
  · exact le_length_of_le_estimate hdates htest hstep hcap hm

/-- **The windows** of an accepted configuration are well formed, and at least as many as estimated,
up to the cap. With the adaptive step they are at least as many as wanted. -/
theorem generateWindows_spec (hvalid : validateConfig config = [])
    (hmethod : config.method = .rolling) (hdates : startDate < endDate) :
    (∃ windows, generateWindows startDate endDate config = .ok windows ∧
      WindowsOf startDate endDate config windows ∧
      ∀ m ≤ maxWindows, (m : ℤ) ≤ estimateWindowCount startDate endDate config →
        m ≤ windows.length) ∧
    ∀ (minWindows stepDays : ℚ),
      config.trainDays + 1 + config.testDays + minWindows - 1 ≤ daysBetween startDate endDate →
      stepDays = (computeAdaptiveStepDays (daysBetween startDate endDate) config.trainDays
        config.testDays config.stepDays minWindows).1 →
      ∃ windows, generateWindows startDate endDate { config with stepDays } = .ok windows ∧
        WindowsOf startDate endDate { config with stepDays } windows ∧
        ∀ m ≤ maxWindows, (m : ℚ) ≤ minWindows → m ≤ windows.length := by
  obtain ⟨htrain, htest, hstep⟩ := validateConfig_eq_nil hvalid
  refine ⟨windows_of_config htrain htest hstep hmethod hdates, ?_⟩
  intro minWindows stepDays hspan hadaptive
  have hpos : 0 < stepDays := hadaptive ▸ computeAdaptiveStepDays_pos hstep
  obtain ⟨windows, hok, hwindows, hcount⟩ :=
    @windows_of_config startDate endDate { config with stepDays } htrain htest hpos hmethod hdates
  refine ⟨windows, hok, hwindows, fun m hcap hm => ?_⟩
  rcases Nat.eq_zero_or_pos m with rfl | hm0
  · exact Nat.zero_le _
  have hm1 : (1 : ℚ) ≤ m := by exact_mod_cast hm0
  refine hcount m hcap ?_
  unfold estimateWindowCount
  dsimp only
  rw [if_neg (by linarith), ← sub_le_iff_le_add, Int.le_floor, le_div_iff₀ hpos]
  push_cast
  rcases hm1.eq_or_lt with heq | hlt
  · rw [← heq, sub_self, zero_mul]
    linarith
  · refine le_trans (mul_le_mul_of_nonneg_right (sub_le_sub_right hm 1) hpos.le) ?_
    rw [hadaptive]
    exact computeAdaptiveStepDays_le (lt_of_lt_of_le hlt hm) hspan

theorem three_windows :
    ∃ windows, generateWindows 0 (124 * oneDay) ⟨60, 21, 21, .rolling⟩ = .ok windows ∧
      WindowsOf 0 (124 * oneDay) ⟨60, 21, 21, .rolling⟩ windows ∧ 3 ≤ windows.length := by
  obtain ⟨windows, hok, hwindows, hcount⟩ :=
    (@generateWindows_spec 0 (124 * oneDay) ⟨60, 21, 21, .rolling⟩ (by decide +kernel) rfl
      (by decide)).2 3 21 (by decide +kernel) (by decide +kernel)
  exact ⟨windows, hok, hwindows, hcount 3 (by decide) (by norm_num)⟩

theorem step_dropped_and_capped :
    (validateConfig ⟨30, 14, 3 / 2, .rolling⟩ = [] ∧
      generateWindows 0 (46 * oneDay) ⟨30, 14, 3 / 2, .rolling⟩ =
        .ok [⟨0, 0, 30 * oneDay, 31 * oneDay, 45 * oneDay⟩,
          ⟨1, oneDay, 31 * oneDay, 32 * oneDay, 46 * oneDay⟩]) ∧
    (validateConfig ⟨30, 14, 1, .rolling⟩ = [] ∧ daysBetween 0 (1046 * oneDay) = 1046 ∧
      (computeAdaptiveStepDays 1046 30 14 1 1002).1 = 1 ∧
      ∃ windows, generateWindows 0 (1046 * oneDay) ⟨30, 14, 1, .rolling⟩ = .ok windows ∧
        windows.length < 1002) := by
  refine ⟨⟨by decide +kernel, by decide +kernel⟩, by decide +kernel, by decide +kernel,
    by decide +kernel, _, generateWindows_eq ?_ ?_ ?_ rfl (by decide), ?_⟩
  · norm_num
  · norm_num
  · norm_num
  · obtain ⟨n, hn, hwindows, -, -⟩ :=
      @windowLoop_spec 0 (1046 * oneDay) ⟨30, 14, 1, .rolling⟩ (by norm_num) maxWindows 0
    rw [show trainStart 0 ⟨30, 14, 1, .rolling⟩ 0 = 0 by simp [trainStart]] at hwindows
    rw [hwindows, List.length_map, List.length_range']
    exact Nat.lt_succ_of_le hn

end Spec

end Chansey.WalkForward
