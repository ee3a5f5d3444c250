import Chansey.Checkpoint.Resume
import Chansey.Metrics.Drawdown

/-!
# Final metrics of a run that is cut

What the bars of a run produce does not depend on where it is cut. The counters of its metrics are
harvested at each checkpoint and come back from it; the values of its snapshots do not come back.

* `Cut`: a bar, alone or with a checkpoint after it, or a resume. `CutRun.step`.
-/

namespace Chansey

open Result Falls

/-! ## What a bar produces -/

/-- The rows of a bar and the portfolio after it. The bars of the warm-up do not count for the
drawdown. -/
structure ProducedBar where
  trading : Bool
  portfolio : Portfolio
  rows : BarRows

def LoopState.close (state : LoopState) (bar : ProducedBar) : LoopState :=
  if bar.trading then
    let peakValue := max state.peakValue bar.portfolio.totalValue
    { state with
      portfolio := bar.portfolio
      peakValue := peakValue
      maxDrawdown := max state.maxDrawdown (drawdownOf peakValue bar.portfolio.totalValue) }
  else { state with portfolio := bar.portfolio }

def LoopContext.close (ctx : LoopContext) (bar : ProducedBar) : LoopContext where
  state := ctx.state.close bar
  record := { ctx.record with rows := ctx.record.rows.append bar.rows }

/-! ## Final metrics -/

section Metrics

variable (setup : RunSetup) (ctx : LoopContext)

/-- What is left in the arrays is harvested at the end. -/
def finalAccumulator : MetricsAccumulator :=
  harvestMetrics ctx.record.rows.trades ctx.record.rows.snapshots ctx.record.metricsAcc

def finalMetrics : BacktestFinalMetrics :=
  calculateFinalMetricsFromAccumulators setup.data.math setup.backtest.initialCapital
    setup.backtest.startDate setup.backtest.endDate ctx.state.portfolio.totalValue
    ctx.state.maxDrawdown (finalAccumulator ctx)

/-- The series that the Sharpe ratio and the volatility are computed from. -/
def returnSeries : List ℚ := seriesReturns (finalAccumulator ctx).snapshotValues

/-- Two runs end with the same counts, profit factor, drawdown and returns. -/
structure SameMetrics (other : LoopContext) : Prop where
  totalTrades : (finalMetrics setup ctx).totalTrades = (finalMetrics setup other).totalTrades
  winningTrades : (finalMetrics setup ctx).winningTrades = (finalMetrics setup other).winningTrades
  losingTrades : (finalMetrics setup ctx).losingTrades = (finalMetrics setup other).losingTrades
  profitFactor : (finalMetrics setup ctx).profitFactor = (finalMetrics setup other).profitFactor
  maxDrawdown : (finalMetrics setup ctx).maxDrawdown = (finalMetrics setup other).maxDrawdown
  returns : returnSeries ctx = returnSeries other

end Metrics

/-! ## Cuts -/

inductive Cut where
  | bar
  | checkpoint
  /-- A bar that finds the run aborted: an emergency checkpoint, from which it is resumed. -/
  | abort
  /-- A pause before the next bar, and its resume. -/
  | pause
  /-- The process ends. The run starts again from its last checkpoint, unless that is dropped. -/
  | restart (kept : Bool)

/-- A run between two bars: its context, its next bar and its checkpoint in the database. -/
structure CutRun where
  ctx : LoopContext
  next : ℕ
  saved : Option BacktestCheckpointState := none

namespace CutRun

variable (setup : RunSetup) (computeChecksum : ChecksumData → String) (produced : ℕ → ProducedBar)

def start (resumeFrom : Option BacktestCheckpointState) : CutRun where
  ctx := createContext setup resumeFrom
  next := RunSetup.startIndex resumeFrom
  saved := resumeFrom

def step (r : CutRun) : Cut → CutRun
  | .bar => { r with
      ctx := r.ctx.close (produced r.next)
      next := r.next + 1 }
  | .checkpoint =>
    let (call, ctx) := persist computeChecksum setup.createConfig (r.ctx.close (produced r.next)) r.next
    { ctx := ctx
      next := r.next + 1
      saved := some call.checkpoint }
  | .abort =>
    start setup (some (checkpointCall computeChecksum setup.createConfig
      (r.ctx.close (produced r.next)) r.next).checkpoint)
  | .pause => start setup (some (pauseCheckpoint computeChecksum setup.createConfig r.ctx r.next))
  | .restart kept => start setup (if kept then r.saved else none)

end CutRun

/-- Where a run is: its next bar, the bar it was last started at, and the one after its checkpoint. -/
structure CutPosition where
  next : ℕ := 0
  startedAt : ℕ := 0
  savedAt : Option ℕ := none

namespace CutPosition

def start (resumeFrom : Option ℕ) : CutPosition where
  next := resumeFrom.getD 0
  startedAt := resumeFrom.getD 0
  savedAt := resumeFrom

def step (p : CutPosition) : Cut → CutPosition
  | .bar => { p with next := p.next + 1 }
  | .checkpoint => { p with next := p.next + 1, savedAt := some (p.next + 1) }
  | .abort => start (some (p.next + 1))
  | .pause => start (some p.next)
  | .restart kept => start (if kept then p.savedAt else none)

end CutPosition

def cutPosition (cuts : List Cut) : CutPosition := cuts.foldl CutPosition.step {}

/-! ## What the bars of a run produce -/

section Produced

variable (produced : ℕ → ProducedBar)

def producedRows (i j : ℕ) : BarRows :=
  (List.range' i (j - i)).foldl (fun rows k => rows.append (produced k).rows) {}

/-- The peak and the drawdown before a bar, in a run from the start. -/
def producedDrawdown (initialCapital : ℚ) (n : ℕ) : ℚ × ℚ :=
  (List.range n).foldl (fun acc k =>
    if (produced k).trading then
      let peakValue := max acc.1 (produced k).portfolio.totalValue
      (peakValue, max acc.2 (drawdownOf peakValue (produced k).portfolio.totalValue))
    else acc) (initialCapital, 0)

theorem producedRows_self (i : ℕ) : producedRows produced i i = {} := by
  simp [producedRows]

theorem producedRows_succ {i j : ℕ} (h : i ≤ j) :
    producedRows produced i (j + 1) = (producedRows produced i j).append (produced j).rows := by
  unfold producedRows
  rw [Nat.succ_sub h, List.range'_concat, List.foldl_append]
  simp [Nat.add_sub_of_le h]

theorem producedDrawdown_succ (initialCapital : ℚ) (n : ℕ) (state : LoopState)
    (h : (state.peakValue, state.maxDrawdown) = producedDrawdown produced initialCapital n) :
    ((state.close (produced n)).peakValue, (state.close (produced n)).maxDrawdown) =
      producedDrawdown produced initialCapital (n + 1) := by
  unfold producedDrawdown at h ⊢
  rw [List.range_succ, List.foldl_append, List.foldl_cons, List.foldl_nil, ← h]
  unfold LoopState.close
  split <;> rfl

theorem producedRows_append {i j k : ℕ} (hij : i ≤ j) (hjk : j ≤ k) :
    producedRows produced i k = (producedRows produced i j).append (producedRows produced j k) := by
  induction k, hjk using Nat.le_induction with
  | base => rw [producedRows_self, BarRows.append_empty]
  | succ k hjk ih =>
    rw [producedRows_succ produced (hij.trans hjk), producedRows_succ produced hjk, ih,
      BarRows.append_assoc]

end Produced

/-! ## The invariant -/

def snapshotValues (rows : BarRows) : List ℚ := rows.snapshots.map (·.portfolioValue)

section Follows

variable {setup : RunSetup} {computeChecksum : ChecksumData → String} {produced : ℕ → ProducedBar}
  {ctx : LoopContext} {startedAt n : ℕ}

/-- The metrics of a context count the bars before `n`. Its values are those since `startedAt`. -/
structure LoopContext.Follows (setup : RunSetup) (produced : ℕ → ProducedBar) (ctx : LoopContext)
    (startedAt n : ℕ) : Prop where
  started : startedAt ≤ n
  persisted : ctx.record.totalPersistedCounts.trades = ctx.record.metricsAcc.totalTradeCount
  trades : ctx.record.metricsAcc.totalTradeCount + ctx.record.rows.trades.length =
    (producedRows produced 0 n).trades.length
  sells : ctx.record.metricsAcc.sellCounts + countSells ctx.record.rows.trades =
    countSells (producedRows produced 0 n).trades
  values : ctx.record.metricsAcc.snapshotValues ++ snapshotValues ctx.record.rows =
    snapshotValues (producedRows produced startedAt n)
  drawdown : (ctx.state.peakValue, ctx.state.maxDrawdown) =
    producedDrawdown produced setup.backtest.initialCapital n

/-- A checkpoint counts the bars before `n`. -/
structure BacktestCheckpointState.Follows (setup : RunSetup) (produced : ℕ → ProducedBar)
    (checkpoint : BacktestCheckpointState) (n : ℕ) : Prop where
  index : (checkpoint.lastProcessedIndex + 1).toNat = n
  trades : checkpoint.persistedCounts.trades = (producedRows produced 0 n).trades.length
  sells : checkpoint.persistedCounts.sellCounts = countSells (producedRows produced 0 n).trades
  drawdown : (checkpoint.peakValue, checkpoint.maxDrawdown) =
    producedDrawdown produced setup.backtest.initialCapital n

structure CutRun.Follows (setup : RunSetup) (produced : ℕ → ProducedBar) (r : CutRun)
    (p : CutPosition) : Prop where
  ctx : r.ctx.Follows setup produced p.startedAt p.next
  next : r.next = p.next
  saved : Option.Rel (BacktestCheckpointState.Follows setup produced) r.saved p.savedAt

theorem LoopContext.Follows.close (h : ctx.Follows setup produced startedAt n) :
    (ctx.close (produced n)).Follows setup produced startedAt (n + 1) where
  started := Nat.le_succ_of_le h.started
  persisted := h.persisted
  trades := by
    rw [producedRows_succ produced n.zero_le]
    simp only [LoopContext.close, BarRows.append, List.length_append, ← h.trades, Nat.add_assoc]
  sells := by
    rw [producedRows_succ produced n.zero_le]
    simp only [LoopContext.close, BarRows.append, countSells_append, ← h.sells, add_assoc_counts]
  values := by
    rw [producedRows_succ produced h.started]
    have hvals := h.values
    simp only [snapshotValues] at hvals ⊢
    simp only [LoopContext.close, BarRows.append, List.map_append, ← hvals, List.append_assoc]
  drawdown := producedDrawdown_succ produced _ n ctx.state h.drawdown

theorem LoopContext.Follows.buildSnapshot (computeChecksum : ChecksumData → String)
    (h : ctx.Follows setup produced startedAt n) {index : ℤ} (hindex : (index + 1).toNat = n)
    (timestamp : Instant) :
    (buildSnapshot computeChecksum ctx index timestamp).Follows setup produced n where
  index := hindex
  trades := by
    rw [← h.trades, ← h.persisted]
    rfl
  sells := h.sells
  drawdown := h.drawdown

theorem LoopContext.Follows.handOver (h : ctx.Follows setup produced startedAt n) (i : ℤ) :
    ({ ctx with record := ctx.record.handOver i } : LoopContext).Follows setup produced startedAt
      n where
  started := h.started
  persisted := congrArg (· + ctx.record.rows.trades.length) h.persisted
  trades := h.trades
  sells := (add_empty_counts _).trans h.sells
  values := (List.append_nil _).trans h.values
  drawdown := h.drawdown

theorem follows_start {resumeFrom : Option BacktestCheckpointState} {savedAt : Option ℕ}
    (h : Option.Rel (BacktestCheckpointState.Follows setup produced) resumeFrom savedAt) :
    (CutRun.start setup resumeFrom).Follows setup produced (CutPosition.start savedAt) := by
  refine ⟨?_, ?_, h⟩
  · cases h with
    | none =>
      exact ⟨le_rfl, rfl, rfl, add_empty_counts {}, rfl, rfl⟩
    | some hfol =>
      refine ⟨le_rfl, rfl, hfol.trades, (add_empty_counts _).trans hfol.sells, ?_, hfol.drawdown⟩
      rw [CutPosition.start, producedRows_self]
      rfl
  · cases h with
    | none => rfl
    | some hfol => exact hfol.index

theorem follows_step {r : CutRun} {p : CutPosition} (cut : Cut) (h : r.Follows setup produced p) :
    (r.step setup computeChecksum produced cut).Follows setup produced (p.step cut) := by
  obtain ⟨_, next, _⟩ := r
  obtain ⟨hctx, hnext, hsaved⟩ := h
  dsimp only at hctx hnext hsaved
  subst hnext
  have hclos := hctx.close
  have hindex : ((p.next : ℤ) + 1).toNat = p.next + 1 := by omega
  have hcheckpoint := hclos.buildSnapshot computeChecksum hindex
    (setup.createConfig.bar p.next).timestamp
  cases cut with
  | bar => exact ⟨hclos, rfl, hsaved⟩
  | checkpoint => exact ⟨hclos.handOver _, rfl, .some hcheckpoint⟩
  | abort => exact follows_start (.some hcheckpoint)
  | pause =>
    have hpsd : ((p.next : ℤ) - 1 + 1).toNat = p.next := by omega
    exact follows_start (.some (hctx.buildSnapshot computeChecksum hpsd _))
  | restart kept =>
    cases kept with
    | true => exact follows_start hsaved
    | false => exact follows_start .none

theorem follows_run (setup : RunSetup) (computeChecksum : ChecksumData → String)
    (produced : ℕ → ProducedBar) (cuts : List Cut) :
    (cuts.foldl (CutRun.step setup computeChecksum produced) (CutRun.start setup none)).Follows setup
      produced (cutPosition cuts) := by
  induction cuts using List.reverseRecOn with
  | nil => exact follows_start .none
  | append_singleton cuts cut ih =>
    rw [cutPosition, List.foldl_append, List.foldl_append]
    exact follows_step cut ih

end Follows

/-! ## When the metrics are the same -/

theorem seriesReturns_length (values : List ℚ) :
    (seriesReturns values).length = values.length - 1 := by
  simp [seriesReturns]

theorem seriesReturns_drop_iff (before after : List ℚ) :
    seriesReturns after = seriesReturns (before ++ after) ↔
      before = [] ∨ (before ++ after).length ≤ 1 := by
  constructor
  · intro h
    have hlen := congrArg List.length h
    rw [seriesReturns_length, seriesReturns_length, List.length_append] at hlen
    rw [List.length_append]
    cases before with
    | nil => exact .inl rfl
    | cons =>
      rw [List.length_cons] at hlen ⊢
      exact .inr (by omega)
  · rintro (rfl | hlen)
    · rfl
    · have hnone : ∀ values : List ℚ, values.length ≤ 1 → seriesReturns values = [] := by
        intro values hvals
        rw [← List.length_eq_zero_iff, seriesReturns_length]
        omega
      rw [List.length_append] at hlen
      rw [hnone after (by omega), hnone _ (by rw [List.length_append]; exact hlen)]

section Same

variable {setup : RunSetup} {produced : ℕ → ProducedBar} {ctx : LoopContext} {startedAt n : ℕ}

theorem finalAccumulator_eq (h : ctx.Follows setup produced startedAt n) :
    finalAccumulator ctx =
      { totalTradeCount := (producedRows produced 0 n).trades.length
        sellCounts := countSells (producedRows produced 0 n).trades
        snapshotValues := snapshotValues (producedRows produced startedAt n) } := by
  rw [finalAccumulator, harvestMetrics, h.trades, h.sells, ← h.values]
  rfl

theorem sameMetrics_iff {other : LoopContext} {otherStartedAt : ℕ}
    (h : ctx.Follows setup produced startedAt n)
    (hother : other.Follows setup produced otherStartedAt n) :
    SameMetrics setup ctx other ↔
      seriesReturns (snapshotValues (producedRows produced startedAt n)) =
        seriesReturns (snapshotValues (producedRows produced otherStartedAt n)) := by
  have hrets : returnSeries ctx =
      seriesReturns (snapshotValues (producedRows produced startedAt n)) := by
    rw [returnSeries, finalAccumulator_eq h]
  have hotherReturns : returnSeries other =
      seriesReturns (snapshotValues (producedRows produced otherStartedAt n)) := by
    rw [returnSeries, finalAccumulator_eq hother]
  rw [← hrets, ← hotherReturns]
  have hdrawdown : ctx.state.maxDrawdown = other.state.maxDrawdown :=
    congrArg Prod.snd (h.drawdown.trans hother.drawdown.symm)
  refine ⟨SameMetrics.returns, fun hsame => ⟨?_, ?_, ?_, ?_, hdrawdown, hsame⟩⟩
  all_goals
    unfold finalMetrics calculateFinalMetricsFromAccumulators
    rw [finalAccumulator_eq h, finalAccumulator_eq hother]

theorem cutPosition_bars (n : ℕ) : cutPosition (List.replicate n .bar) = { next := n } := by
  induction n with
  | zero => rfl
  | succ n ih =>
    rw [List.replicate_succ', cutPosition, List.foldl_append]
    rw [cutPosition] at ih
    rw [ih]
    rfl

end Same

/-- **The final metrics of a cut run are those of the uncut one exactly when it was last started
before its first snapshot, or has at most one.** -/
theorem cut_metrics_iff (setup : RunSetup) (computeChecksum : ChecksumData → String)
    (produced : ℕ → ProducedBar) (cuts : List Cut) :
    SameMetrics setup
        (cuts.foldl (CutRun.step setup computeChecksum produced) (CutRun.start setup none)).ctx
        ((List.replicate (cutPosition cuts).next Cut.bar).foldl
          (CutRun.step setup computeChecksum produced) (CutRun.start setup none)).ctx ↔
      (producedRows produced 0 (cutPosition cuts).startedAt).snapshots = [] ∨
        (producedRows produced 0 (cutPosition cuts).next).snapshots.length ≤ 1 := by
  have hcut := follows_run setup computeChecksum produced cuts
  have huncut := follows_run setup computeChecksum produced
    (List.replicate (cutPosition cuts).next .bar)
  rw [cutPosition_bars] at huncut
  rw [sameMetrics_iff hcut.ctx huncut.ctx]
  have hsplit := producedRows_append produced (cutPosition cuts).startedAt.zero_le hcut.ctx.started
  have hvalues : snapshotValues (producedRows produced 0 (cutPosition cuts).next) =
      snapshotValues (producedRows produced 0 (cutPosition cuts).startedAt) ++
        snapshotValues
          (producedRows produced (cutPosition cuts).startedAt (cutPosition cuts).next) := by
    rw [hsplit]
    exact List.map_append
  have hlength : (snapshotValues (producedRows produced 0 (cutPosition cuts).next)).length =
      (producedRows produced 0 (cutPosition cuts).next).snapshots.length := List.length_map _
  rw [← hlength, hvalues, seriesReturns_drop_iff]
  exact or_congr_left List.map_eq_nil_iff

def risingBars (i : ℕ) : ProducedBar where
  trading := true
  portfolio := startPortfolio (1000 + 100 * i)
  rows :=
    { snapshots :=
        [{ timestamp := i * HOUR_MS
           portfolioValue := 1000 + 100 * i
           cashBalance := 1000 + 100 * i
           holdings := OrdMap.empty
           cumulativeReturn := i / 10
           drawdown := 0
           backtest := "b" }] }

/-- **A pause after two of three snapshots leaves none of the two returns.** -/
theorem pause_loses_returns :
    let setup := entryRun .buy
    let uncut := ([.bar, .bar, .bar] : List Cut).foldl
      (CutRun.step setup (fun _ => "") risingBars) (CutRun.start setup none)
    let cut := ([.bar, .bar, .pause, .bar] : List Cut).foldl
      (CutRun.step setup (fun _ => "") risingBars) (CutRun.start setup none)
    (returnSeries uncut.ctx, returnSeries cut.ctx) = ([1 / 10, 1 / 11], []) ∧
      ¬ SameMetrics setup cut.ctx uncut.ctx := by
  have hreturns : (returnSeries (([.bar, .bar, .bar] : List Cut).foldl
        (CutRun.step (entryRun .buy) (fun _ => "") risingBars)
        (CutRun.start (entryRun .buy) none)).ctx,
      returnSeries (([.bar, .bar, .pause, .bar] : List Cut).foldl
        (CutRun.step (entryRun .buy) (fun _ => "") risingBars)
        (CutRun.start (entryRun .buy) none)).ctx) = ([1 / 10, 1 / 11], []) := by decide +kernel
  refine ⟨hreturns, fun h => ?_⟩
  obtain ⟨huncut, hcut⟩ := Prod.ext_iff.1 hreturns
  exact absurd (hcut.symm.trans (h.returns.trans huncut)) (by decide)

/-! ## The drawdown of a cut run -/

section Drawdown

variable (produced : ℕ → ProducedBar) {initialCapital : ℚ}

/-- The capital, and the value after each traded bar before `n`. -/
def equityCurve (initialCapital : ℚ) (n : ℕ) : List ℚ :=
  initialCapital :: (((List.range n).map produced).filter (·.trading)).map (·.portfolio.totalValue)

theorem equityCurve_succ (n : ℕ) :
    equityCurve produced initialCapital (n + 1) =
      equityCurve produced initialCapital n ++
        if (produced n).trading then [(produced n).portfolio.totalValue] else [] := by
  unfold equityCurve
  rw [List.range_succ, List.map_append, List.filter_append, List.map_append, List.cons_append]
  cases htrading : (produced n).trading <;> simp [htrading]

theorem producedDrawdown_greatest (hpos : 0 < initialCapital) (n : ℕ) :
    PeakOf (equityCurve produced initialCapital n) (producedDrawdown produced initialCapital n).1 ∧
      IsGreatest (drawdowns (equityCurve produced initialCapital n))
        (producedDrawdown produced initialCapital n).2 := by
  induction n with
  | zero =>
    have hpeak : PeakOf ([] ++ [initialCapital]) initialCapital :=
      ⟨List.mem_singleton_self _, fun x hx => (List.mem_singleton.mp hx).le⟩
    refine ⟨hpeak, ?_⟩
    have hone := drawdowns_concat hpeak.tops
    have hnone : drawdowns ([] : List ℚ) = ∅ := by
      refine Set.eq_empty_of_forall_notMem ?_
      rintro d ⟨_, _, _, _, hy, _⟩
      simp at hy
    rw [hnone, sub_self, zero_div, LawfulSingleton.insert_empty_eq] at hone
    exact hone ▸ isGreatest_singleton
  | succ n ih =>
    have hfold : producedDrawdown produced initialCapital (n + 1) =
        if (produced n).trading then
          let value := (produced n).portfolio.totalValue
          let peakValue := max (producedDrawdown produced initialCapital n).1 value
          (peakValue, max (producedDrawdown produced initialCapital n).2 (drawdownOf peakValue value))
        else producedDrawdown produced initialCapital n := by
      rw [producedDrawdown, List.range_succ, List.foldl_append]
      rfl
    rw [equityCurve_succ, hfold]
    obtain ⟨hpeak, hgreatest⟩ := ih
    generalize producedDrawdown produced initialCapital n = before at hpeak hgreatest ⊢
    split_ifs with htrading
    · have hnext := hpeak.concat (produced n).portfolio.totalValue
      rw [← max_def_lt] at hnext
      have htop : 0 < max before.1 (produced n).portfolio.totalValue :=
        hpos.trans_le ((hpeak.highest _ List.mem_cons_self).trans (le_max_left _ _))
      refine ⟨hnext, ?_⟩
      dsimp only
      rw [drawdowns_concat hnext.tops, drawdownOf, if_neg htop.ne', max_eq_right
        (div_nonneg (sub_nonneg.mpr (le_max_right _ _)) htop.le), max_comm before.2]
      exact hgreatest.insert _
    · rw [List.append_nil]
      exact ⟨hpeak, hgreatest⟩

/-- **The drawdown that a run reports is the deepest fall of its equity from a top, wherever it is
cut**, and the deepest fall at all where the equity stays positive. -/
theorem cut_maxDrawdown (setup : RunSetup) (computeChecksum : ChecksumData → String)
    (cuts : List Cut) (hpos : 0 < setup.backtest.initialCapital) :
    let curve := equityCurve produced setup.backtest.initialCapital (cutPosition cuts).next
    let reported := (finalMetrics setup (cuts.foldl (CutRun.step setup computeChecksum produced)
      (CutRun.start setup none)).ctx).maxDrawdown
    IsGreatest (drawdowns curve) reported ∧
      ((∀ value ∈ curve, 0 < value) → IsGreatest (falls curve) reported) := by
  intro curve reported
  have hfollows := (follows_run setup computeChecksum produced cuts).ctx.drawdown
  have hreported : reported = (producedDrawdown produced setup.backtest.initialCapital
      (cutPosition cuts).next).2 := congrArg Prod.snd hfollows
  have hgreatest : IsGreatest (drawdowns curve) reported :=
    hreported ▸ (producedDrawdown_greatest produced hpos _).2
  exact ⟨hgreatest, fun hvalues => isGreatest_falls hvalues hgreatest⟩

def fallingBars (i : ℕ) : ProducedBar :=
  { risingBars i with portfolio := startPortfolio ([1200, 900, 1000].getD i 0) }

theorem cut_maxDrawdown_fall :
    let reported := (finalMetrics (entryRun .buy) (([.bar, .bar, .pause, .bar] : List Cut).foldl
      (CutRun.step (entryRun .buy) (fun _ => "") fallingBars)
      (CutRun.start (entryRun .buy) none)).ctx).maxDrawdown
    reported = 1 / 4 ∧ IsGreatest (drawdowns [1000, 1200, 900, 1000]) reported ∧
      IsGreatest (falls [1000, 1200, 900, 1000]) reported := by
  intro reported
  have hcurve : equityCurve fallingBars (entryRun .buy).backtest.initialCapital
      (cutPosition [.bar, .bar, .pause, .bar]).next = [1000, 1200, 900, 1000] := by decide +kernel
  obtain ⟨hgreatest, hfalls⟩ := cut_maxDrawdown fallingBars (entryRun .buy) (fun _ => "")
    [.bar, .bar, .pause, .bar] (by decide +kernel)
  rw [hcurve] at hgreatest hfalls
  exact ⟨by decide +kernel, hgreatest, hfalls (by decide +kernel)⟩

end Drawdown

end Chansey
