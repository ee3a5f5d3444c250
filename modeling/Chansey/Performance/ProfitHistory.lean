import Chansey.Lib.Run
import Chansey.Performance.Calculation

/-!
# What the rows of a deployment add up to

The cumulative figures of a row are those of the newest row before it and the orders of its day. They
are the figures of the whole history if no order is passed over: one of a day that was not run, one
that is filled after its day was run, or one older than the newest row.
-/

namespace Chansey.Performance

variable {S O : Type} [DecidableEq S]

/-! ## The history up to a date -/

def Order.inHistory (deployment : Deployment S) (date : ℤ) (order : Order S) : Bool :=
  order.isFilledOf deployment.strategyConfigId ∧ sinceDeployment deployment.deployedAt order ∧
    order.createdAt ≤ dayEnd date

def tally (deployment : Deployment S) (date : ℤ) (order : Order S) : ℚ × ℕ :=
  if order.inHistory deployment date then (order.gain, 1) else 0

def total (orders : OrdMap O (Order S)) (deployment : Deployment S) (date : ℤ) : ℚ × ℕ :=
  OrdMap.sumBy (fun _ => tally deployment date) orders

def rowsUpTo (metrics : OrdMap ℤ PerformanceMetric) (date : ℤ) : ℕ :=
  (metrics.keys.filter (· ≤ date)).length

/-- Each row has the sums of the history up to its date: its profit up to the decimals of the
column, which are rounded once for each row. All rows have one capital. -/
structure Complete (deployment : Deployment S) (s : History S O) : Prop where
  profit : ∀ date metric, s.metrics.get? date = some metric →
    |metric.cumulativePnl - (total s.orders deployment date).1| ≤ rowsUpTo s.metrics date / 20000
  trades : ∀ date metric, s.metrics.get? date = some metric →
    metric.cumulativeTradesCount = (total s.orders deployment date).2
  capital : ∀ date metric date' metric', s.metrics.get? date = some metric →
    s.metrics.get? date' = some metric' → metric.totalCapitalDeployed = metric'.totalCapitalDeployed

/-- The day is later than all rows, and no order lies between the last of them and it. -/
structure IsNextDay (deployment : Deployment S) (s : History S O) (today : ℤ) : Prop where
  later : ∀ date, s.metrics.has date = true → date < today
  noGap : ∀ entry ∈ s.orders.entries, entry.2.inHistory deployment today = true →
    dayStart today ≤ entry.2.createdAt ∨
      ∃ date, s.metrics.has date = true ∧ entry.2.createdAt ≤ dayEnd date

/-- An order keeps what it adds to the days with a row. A run is repeated, or for the next day. -/
def Timely [DecidableEq O] (deployment : Deployment S) (s : History S O) : Event S O → Prop
  | .saveOrder id order => ∀ date, s.metrics.has date = true →
    tally deployment date order = (s.orders.get? id).elim 0 (tally deployment date)
  | .calculateMetrics ref =>
    s.metrics.has (dateOf ref) = true ∨ IsNextDay deployment s (dateOf ref)

/-! ## The row of a day -/

variable {date today : ℤ} {metrics : OrdMap ℤ PerformanceMetric} {deployment : Deployment S}
  {s : History S O}

theorem dayEnd_lt_dayStart (h : date < today) : dayEnd date < dayStart today := by
  have hday : (0 : ℤ) < DAY_MS := by decide
  unfold dayEnd dayStart
  nlinarith

theorem dayEnd_mono (h : date ≤ today) : dayEnd date ≤ dayEnd today := by
  have hday : (0 : ℤ) < DAY_MS := by decide
  unfold dayEnd
  nlinarith

def dailyTally (deployment : Deployment S) (today : ℤ) (order : Order S) : ℚ × ℕ :=
  if order.inHistory deployment today ∧ dayStart today ≤ order.createdAt then (order.gain, 1) else 0

theorem daily_eq (orders : OrdMap O (Order S)) (deployment : Deployment S) (today : ℤ) :
    let daily := calculateDailyMetrics (todaysOrders orders deployment today)
    (daily.dailyPnl, daily.tradesCount) =
      OrdMap.sumBy (fun _ => dailyTally deployment today) orders := by
  have htoday : ∀ order : Order S, (order.isFilledOf deployment.strategyConfigId ∧
      deployment.deployedAt.elim (dayStart today) (max (dayStart today)) ≤ order.createdAt ∧
        order.createdAt ≤ dayEnd today) ↔
      order.inHistory deployment today ∧ dayStart today ≤ order.createdAt := by
    intro order
    unfold Order.inHistory sinceDeployment
    cases deployment.deployedAt <;> simp <;> tauto
  unfold OrdMap.sumBy calculateDailyMetrics todaysOrders dailyTally
  dsimp only
  induction orders.entries with
  | nil => rfl
  | cons entry entries ih =>
    simp only [List.map_cons, List.filter_cons, decide_eq_true_eq, htoday, List.sum_cons] at ih ⊢
    split
    · rw [← ih, List.map_cons, List.sum_cons, List.length_cons, Prod.mk_add_mk, add_comm 1]
    · rw [← ih, zero_add]

theorem newestMetric_eq_some {newest : ℤ × PerformanceMetric}
    (h : newestMetric metrics = some newest) :
    metrics.get? newest.1 = some newest.2 ∧ ∀ date, metrics.has date = true → date ≤ newest.1 := by
  refine ⟨OrdMap.get?_eq_some_iff.mpr (List.mem_of_find?_eq_some h), fun date hdate => ?_⟩
  obtain ⟨_, hmetric⟩ := Option.isSome_iff_exists.1 hdate
  have hall := List.find?_some h
  exact of_decide_eq_true (List.all_eq_true.1 hall _ (OrdMap.get?_eq_some_iff.mp hmetric))

theorem newestMetric_eq_none (h : newestMetric metrics = none) (date : ℤ) :
    metrics.get? date = none := by
  have hmax : metrics.entries.argmax Prod.fst = none := by
    refine Option.eq_none_iff_forall_not_mem.2 fun entry hentry => ?_
    refine List.find?_eq_none.1 h entry (List.argmax_mem hentry) (List.all_eq_true.2 fun e he => ?_)
    exact decide_eq_true (List.le_of_mem_argmax he hentry)
  unfold OrdMap.get?
  rw [List.argmax_eq_none.1 hmax]
  rfl

theorem inHistory_iff (h : date ≤ today) (order : Order S) :
    order.inHistory deployment date = true ↔
      order.inHistory deployment today = true ∧ order.createdAt ≤ dayEnd date := by
  have hle := dayEnd_mono h
  unfold Order.inHistory
  simp only [decide_eq_true_eq]
  constructor
  · rintro ⟨hfld, hsince, hend⟩
    exact ⟨⟨hfld, hsince, hend.trans hle⟩, hend⟩
  · rintro ⟨⟨hfld, hsince, -⟩, hend⟩
    exact ⟨hfld, hsince, hend⟩

theorem total_eq {today : ℤ} (hnext : IsNextDay deployment s today) :
    total s.orders deployment today =
      ((newestMetric s.metrics).elim 0 fun newest => total s.orders deployment newest.1) +
        OrdMap.sumBy (fun _ => dailyTally deployment today) s.orders := by
  unfold total
  cases hnewest : newestMetric s.metrics with
  | none =>
    rw [Option.elim_none, zero_add]
    refine OrdMap.sumBy_congr fun entry hentry => ?_
    by_cases hin : entry.2.inHistory deployment today = true
    · rcases hnext.noGap entry hentry hin with hstart | ⟨date, hdate, -⟩
      · rw [tally, dailyTally, if_pos hin, if_pos ⟨hin, hstart⟩]
      · rw [OrdMap.has, newestMetric_eq_none hnewest date] at hdate
        cases hdate
    · rw [tally, dailyTally, if_neg hin, if_neg fun h => hin h.1]
  | some newest =>
    obtain ⟨hget, hmax⟩ := newestMetric_eq_some hnewest
    have hlt : newest.1 < today := hnext.later newest.1 (by rw [OrdMap.has, hget]; rfl)
    rw [Option.elim_some, ← OrdMap.sumBy_add]
    refine OrdMap.sumBy_congr fun entry hentry => ?_
    have hday := dayEnd_lt_dayStart hlt
    by_cases hin : entry.2.inHistory deployment today = true
    · by_cases hend : entry.2.createdAt ≤ dayEnd newest.1
      · -- of a day with a row, and not of today
        rw [tally, tally, dailyTally, if_pos hin, if_pos ((inHistory_iff hlt.le entry.2).2 ⟨hin, hend⟩),
          if_neg fun h => (hend.trans_lt hday).not_ge h.2, add_zero]
      · -- of today, since no order lies between
        have hstart : dayStart today ≤ entry.2.createdAt := by
          refine (hnext.noGap entry hentry hin).resolve_right ?_
          rintro ⟨date, hdate, hle⟩
          exact hend (hle.trans (dayEnd_mono (hmax date hdate)))
        rw [tally, tally, dailyTally, if_pos hin, if_neg fun h => hend ((inHistory_iff hlt.le _).1 h).2,
          if_pos ⟨hin, hstart⟩, zero_add]
    · rw [tally, tally, dailyTally, if_neg hin, if_neg fun h => hin ((inHistory_iff hlt.le _).1 h).1,
        if_neg fun h => hin h.1, add_zero]

theorem metricOf_spec {today : ℤ} (hnext : IsNextDay deployment s today) (h : Complete deployment s)
    :
    |(metricOf s deployment today).cumulativePnl - (total s.orders deployment today).1| ≤
        (s.metrics.size + 1 : ℕ) / 20000 ∧
      (metricOf s deployment today).cumulativeTradesCount = (total s.orders deployment today).2 := by
  have hrnd := Js.abs_decimalColumn_sub_le
    (((newestMetric s.metrics).map (·.2)).elim 0 (·.cumulativePnl) +
      (calculateDailyMetrics (todaysOrders s.orders deployment today)).dailyPnl) 4
  have htotal := total_eq hnext
  rw [← daily_eq] at htotal
  unfold metricOf
  dsimp only
  rw [htotal]
  cases hnewest : newestMetric s.metrics with
  | none =>
    rw [hnewest] at hrnd
    simp only [Option.map_none, Option.elim_none, zero_add] at hrnd ⊢
    refine ⟨hrnd.trans ?_, trivial⟩
    have hsize : (0 : ℚ) ≤ s.metrics.size := Nat.cast_nonneg _
    push_cast
    linarith
  | some newest =>
    obtain ⟨hget, _⟩ := newestMetric_eq_some hnewest
    have hprof := h.profit newest.1 newest.2 hget
    have hrows : (rowsUpTo s.metrics newest.1 : ℚ) ≤ s.metrics.size := by
      unfold rowsUpTo OrdMap.size
      rw [← List.length_map (f := Prod.fst)]
      exact_mod_cast List.length_filter_le _ _
    rw [hnewest] at hrnd
    simp only [Option.map_some, Option.elim_some, Prod.fst_add, Prod.snd_add] at hrnd ⊢
    refine ⟨?_, by rw [h.trades newest.1 newest.2 hget]⟩
    -- the newest row is off by its own roundings, the new one by one more
    rw [abs_le] at hrnd hprof ⊢
    push_cast
    constructor <;> linarith

/-! ## Schedules -/

theorem rowsUpTo_set {today date : ℤ} (metric : PerformanceMetric)
    (hlater : ∀ date, metrics.has date = true → date < today) :
    rowsUpTo (metrics.set today metric) date =
      if today ≤ date then metrics.size + 1 else rowsUpTo metrics date := by
  have hnone : metrics.get? today = none := by
    refine Option.not_isSome_iff_eq_none.1 fun hsome => ?_
    exact absurd (hlater today hsome) (lt_irrefl today)
  unfold rowsUpTo
  rw [OrdMap.keys_set_new metric hnone, List.filter_append]
  split_ifs with hle
  · have hall : metrics.keys.filter (· ≤ date) = metrics.keys := by
      refine List.filter_eq_self.2 fun key hkey => decide_eq_true ?_
      exact (hlater key (OrdMap.get?_isSome_iff.mpr hkey)).le.trans hle
    rw [hall, List.length_append, List.filter_cons, if_pos (decide_eq_true hle)]
    exact congrArg (· + 1) (List.length_map ..)
  · rw [List.filter_cons_of_neg (by simpa using hle), List.filter_nil, List.append_nil]

theorem Complete.calculateMetrics (ref : Instant) (h : Complete deployment s)
    (htime : s.metrics.has (dateOf ref) = true ∨ IsNextDay deployment s (dateOf ref)) :
    Complete deployment (Performance.calculateMetrics s deployment ref) := by
  unfold Performance.calculateMetrics
  dsimp only
  split
  · exact h
  · rename_i hnew
    rw [not_or, Bool.not_eq_true, Bool.not_eq_true] at hnew
    have hnext := htime.resolve_left (by rw [hnew.2]; exact Bool.false_ne_true)
    obtain ⟨hprof, htrades⟩ := metricOf_spec hnext h
    have hold : ∀ date metric, s.metrics.get? date = some metric → ¬ dateOf ref ≤ date :=
      fun date metric hget => not_le.2 (hnext.later date (by rw [OrdMap.has, hget]; rfl))
    refine ⟨fun date metric hget => ?_, fun date metric hget => ?_, ?_⟩
    · rw [OrdMap.get?_set] at hget
      rw [rowsUpTo_set _ hnext.later]
      split at hget
      · rename_i heq
        cases hget
        rw [if_pos heq.le, ← heq]
        exact hprof
      · rw [if_neg (hold date metric hget)]
        exact h.profit date metric hget
    · rw [OrdMap.get?_set] at hget
      split at hget
      · rename_i heq
        cases hget
        rw [← heq]
        exact htrades
      · exact h.trades date metric hget
    · -- the capital of the new row is that of any other
      have hcap : ∀ date metric, s.metrics.get? date = some metric →
          (metricOf s deployment (dateOf ref)).totalCapitalDeployed =
            metric.totalCapitalDeployed := by
        intro date metric hget
        cases hnewest : newestMetric s.metrics with
        | none =>
          rw [newestMetric_eq_none hnewest date] at hget
          cases hget
        | some =>
          simp only [metricOf, totalCapitalDeployed, hnewest, Option.map_some, Option.elim_some]
          exact h.capital _ _ _ _ (newestMetric_eq_some hnewest).1 hget
      intro date metric date' metric' hget hget'
      rw [OrdMap.get?_set] at hget hget'
      split at hget <;> split at hget'
      · exact congrArg _ ((Option.some.inj hget).symm.trans (Option.some.inj hget'))
      · cases hget
        exact hcap date' metric' hget'
      · cases hget'
        exact (hcap date metric hget).symm
      · exact h.capital date metric date' metric' hget hget'

theorem Complete.step [DecidableEq O] {event : Event S O} (h : Complete deployment s)
    (htime : Timely deployment s event) :
    Complete deployment (Performance.step deployment s event) := by
  cases event with
  | saveOrder id order =>
    have htotal : ∀ date, s.metrics.has date = true →
        total (s.orders.set id order) deployment date = total s.orders deployment date := by
      intro date hdate
      have hset := OrdMap.sumBy_set (fun _ => tally deployment date) s.orders id order
      rw [htime date hdate] at hset
      exact add_right_cancel hset
    have hhas : ∀ {date : ℤ} {metric : PerformanceMetric}, s.metrics.get? date = some metric →
        s.metrics.has date = true := fun hget => by rw [OrdMap.has, hget]; rfl
    refine ⟨fun date metric hget => ?_, fun date metric hget => ?_, h.capital⟩
    · change |_ - (total (s.orders.set id order) deployment date).1| ≤ _
      rw [htotal date (hhas hget)]
      exact h.profit date metric hget
    · change _ = (total (s.orders.set id order) deployment date).2
      rw [htotal date (hhas hget)]
      exact h.trades date metric hget
  | calculateMetrics ref => exact h.calculateMetrics ref htime

def RowsKept (before after : History S O) : Prop :=
  ∀ date metric, before.metrics.get? date = some metric → after.metrics.get? date = some metric

theorem rowsKept_step [DecidableEq O] (deployment : Deployment S) (s : History S O)
    (event : Event S O) : RowsKept s (Performance.step deployment s event) := by
  cases event with
  | saveOrder => exact fun date metric hget => hget
  | calculateMetrics ref =>
    intro date metric hget
    change (Performance.calculateMetrics s deployment ref).metrics.get? date = _
    unfold Performance.calculateMetrics
    dsimp only
    split
    · exact hget
    · rename_i hnew
      have hne : dateOf ref ≠ date := by
        rintro rfl
        exact hnew (.inr (by rw [OrdMap.has, hget]; rfl))
      exact (OrdMap.get?_set_of_ne _ _ hne).trans hget

theorem calculateMetrics_row (deployment : Deployment S) (s : History S O) (ref : Instant)
    (huser : deployment.createdBy.all (· = "") = false) :
    ∃ metric, (Performance.calculateMetrics s deployment ref).metrics.get? (dateOf ref) =
        some metric ∧
      ((∀ date, s.metrics.get? date = none) →
        metric.totalCapitalDeployed = sumBuyOrderCost s.orders deployment) := by
  unfold Performance.calculateMetrics
  dsimp only
  split
  · rename_i hskip
    obtain ⟨metric, hmetric⟩ := Option.isSome_iff_exists.1
      (hskip.resolve_left (by rw [huser]; exact Bool.false_ne_true))
    exact ⟨metric, hmetric, fun hnone => by rw [hnone] at hmetric; cases hmetric⟩
  · refine ⟨_, OrdMap.get?_set_self _ _ _, fun hnone => ?_⟩
    have hnewest : newestMetric s.metrics = none := by
      refine Option.eq_none_iff_forall_not_mem.2 fun newest hnewest => ?_
      have hget := (newestMetric_eq_some hnewest).1
      rw [hnone] at hget
      cases hget
    simp only [metricOf, totalCapitalDeployed, hnewest, Option.map_none, Option.elim_none]

/-- **In a schedule of timely events every row has the sums of the history up to its date**, in every
state, and stays as it is. Every run leaves the row of its day, and all rows have the capital of the
buys there were at the first run. -/
theorem history_complete [DecidableEq O] (deployment : Deployment S)
    (orders : OrdMap O (Order S)) (events : List (Event S O))
    (huser : deployment.createdBy.all (· = "") = false)
    (htimely : Run.Throughout (Performance.step deployment) (Timely deployment)
      (History.start orders) events) :
    Run.Kept (Performance.step deployment) (Complete deployment) RowsKept (History.start orders)
        events ∧
      ∀ (s : History S O) (ref : Instant), ∃ metric,
        (Performance.step deployment s (.calculateMetrics ref)).metrics.get? (dateOf ref) =
            some metric ∧
          ((∀ date, s.metrics.get? date = none) →
            metric.totalCapitalDeployed = sumBuyOrderCost s.orders deployment) := by
  have hnone : ∀ date, (History.start orders).metrics.get? date = none := fun _ => rfl
  have hstart : Complete deployment (History.start orders) := by
    constructor <;> intros <;> simp_all only [reduceCtorEq]
  refine ⟨?_, fun s ref => calculateMetrics_row deployment s ref huser⟩
  refine (Run.kept_iff (fun _ _ _ h => h)
    fun _ _ _ hst htu date metric h => htu date metric (hst date metric h)).mpr ⟨hstart, ?_⟩
  exact htimely.imp (Complete deployment) (fun s event h ht => ⟨h.step ht, rowsKept_step _ _ _⟩)
    (fun s event h ht => h.step ht) hstart

/-! ## Two days of a deployment -/

def firstDay : Deployment ℕ := ⟨0, some "user", some 0⟩

def buy (createdAt : Instant) : Order ℕ := ⟨0, true, true, .buy, createdAt, 10, 10, none⟩

def sell (createdAt : Instant) (gainLoss : ℚ) : Order ℕ :=
  ⟨0, true, true, .sell, createdAt, 12, 5, some gainLoss⟩

def firstOrders : OrdMap ℕ (Order ℕ) := .ofEntries [(0, buy 1000), (1, sell 2000 5)]

def twoDays : List (Event ℕ ℕ) :=
  [.calculateMetrics 0, .saveOrder 2 (buy (DAY_MS + 1000)), .calculateMetrics DAY_MS]

theorem history_complete_twoDays :
    ∃ metric, (twoDays.foldl (Performance.step firstDay)
        (History.start firstOrders)).metrics.get? 1 = some metric ∧
      |metric.cumulativePnl - 5| ≤ 2 / 20000 ∧ metric.cumulativeTradesCount = 3 ∧
      metric.totalCapitalDeployed = 100 := by
  have hkeys : ∀ (metrics : OrdMap ℤ PerformanceMetric) (date : ℤ), metrics.has date = true →
      date ∈ metrics.keys := fun _ _ => OrdMap.get?_isSome_iff.mp
  have htimely : Run.Throughout (Performance.step firstDay) (Timely firstDay)
      (History.start firstOrders) twoDays := by
    refine ⟨.inr ⟨fun date hdate => (by cases hdate), fun entry hentry _ => .inl ?_⟩,
      fun date hdate => ?_, .inr ⟨fun date hdate => ?_, fun entry hentry _ => ?_⟩, trivial⟩
    · revert entry
      decide +kernel
    · have hmem := hkeys _ date hdate
      clear hdate
      revert date
      decide +kernel
    · have hmem := hkeys _ date hdate
      clear hdate
      revert date
      decide +kernel
    · have hday : dayStart 1 ≤ entry.2.createdAt ∨ entry.2.createdAt ≤ dayEnd 0 := by
        revert entry
        decide +kernel
      exact hday.imp_right fun hend => ⟨0, by decide +kernel, hend⟩
  obtain ⟨hkept, hrow⟩ := history_complete firstDay firstOrders twoDays rfl htimely
  obtain ⟨first, hfirst, hcapital⟩ := hrow (History.start firstOrders) 0
  obtain ⟨metric, hget, -⟩ := hrow ((twoDays.take 2).foldl (Performance.step firstDay)
    (History.start firstOrders)) DAY_MS
  obtain ⟨hcomplete, hrows⟩ :
      Complete firstDay (twoDays.foldl (Performance.step firstDay) (History.start firstOrders)) ∧
        RowsKept _ _ := hkept [.calculateMetrics 0] twoDays.tail [] rfl
  refine ⟨metric, hget, ?_, ?_, ?_⟩
  · have htotal : total (twoDays.foldl (Performance.step firstDay)
        (History.start firstOrders)).orders firstDay 1 = (5, 3) := by decide +kernel
    have hlength : rowsUpTo (twoDays.foldl (Performance.step firstDay)
        (History.start firstOrders)).metrics 1 = 2 := by decide +kernel
    simpa only [htotal, hlength, Nat.cast_ofNat] using hcomplete.profit 1 metric hget
  · exact (hcomplete.trades 1 metric hget).trans (by decide +kernel)
  · exact (hcomplete.capital 1 metric 0 first hget (hrows 0 first hfirst)).trans
      ((hcapital fun _ => rfl).trans (by decide +kernel))

/-- **Buys are trades too, and the capital stays that of the first run.** One sell and one buy on the
first day make two trades; a buy of the second day is not in the capital of that day's row. -/
theorem buys_counted :
    let s := [Event.calculateMetrics 0, .saveOrder 2 (buy (DAY_MS + 1000)),
      .calculateMetrics DAY_MS].foldl (Performance.step firstDay) (History.start firstOrders)
    (s.metrics.get? 0).map (·.cumulativeTradesCount) = some 2 ∧
      (firstOrders.entries.filter fun entry =>
        entry.2.side = .sell ∧ entry.2.inHistory firstDay 0).length = 1 ∧
      (s.metrics.get? 1).map (·.totalCapitalDeployed) = some 100 ∧
      sumBuyOrderCost s.orders firstDay = 200 := by
  decide +kernel

end Chansey.Performance
