import Chansey.Optimization.SimulationLoop

/-!
# Warm-up bars

The loop leaves the bars before the trading start alone. Whether these are the bars before the window
depends on how the start was found.
-/

namespace Chansey.Optimization

open Result Run WalkForward

namespace Simulation

variable {sim : Simulation} {start : Instant} {state final : SimulationState}

theorem bar_timestamp {i : ℕ} {t : Instant} (h : sim.data.timestamps[i]? = some t) :
    (sim.bar i).timestamp = t := by
  unfold bar
  rw [List.getD_eq_getElem?_getD, h]
  rfl

def barsFrom (sim : Simulation) (start : Instant) : List ℕ :=
  (List.range sim.data.timestamps.length).filter fun i => start ≤ (sim.bar i).timestamp

/-- What a run has recorded is dated at or after the start, and nothing has moved but the windows
before these bars are taken. -/
structure EarnedFrom (sim : Simulation) (start : Instant) (final : SimulationState) : Prop where
  records : RecordsFrom start final
  earned : ∃ warm, Untouched sim warm ∧ run sim.simulationStep warm (sim.barsFrom start) = .ok final

theorem run_warmup {bars : List ℕ} (h : Untouched sim state)
    (hbars : ∀ i ∈ bars, i < sim.data.tradingStartIndex) :
    ∃ warm, run sim.simulationStep state bars = .ok warm ∧ Untouched sim warm := by
  induction bars generalizing state with
  | nil => exact ⟨state, rfl, h⟩
  | cons i bars ih =>
    obtain ⟨_, hnext, hunt⟩ := simulationStep_warmup h (hbars i List.mem_cons_self)
    obtain ⟨warm, hwarm, hdone⟩ := ih hunt fun j hj => hbars j (List.mem_cons_of_mem i hj)
    refine ⟨warm, ?_, hdone⟩
    rw [run_cons, hnext, ok_bind, hwarm]

theorem run_recordsFrom {bars : List ℕ} (h : RecordsFrom start state)
    (hbars : ∀ i ∈ bars, sim.data.tradingStartIndex ≤ i ∧ start ≤ (sim.bar i).timestamp)
    (hrun : run sim.simulationStep state bars = .ok final) : RecordsFrom start final :=
  foldlM_invariant
    (fun i hi _ _ hs hstep => simulationStep_dated hs (hbars i hi).2 (hbars i hi).1 hstep) h hrun

theorem Untouched.recordsFrom (h : Untouched sim state) (start : Instant) :
    RecordsFrom start state where
  trades trade htrade := by
    rw [h.books] at htrade
    cases htrade
  snapshots snapshot hsnapshot := by
    rw [h.snapshots] at hsnapshot
    cases hsnapshot

theorem range_split (hmarks : MarksBars sim.data start) :
    ∃ warm, List.range sim.data.timestamps.length = warm ++ sim.barsFrom start ∧
      (∀ i ∈ warm, i < sim.data.tradingStartIndex) ∧
      ∀ i ∈ sim.barsFrom start, sim.data.tradingStartIndex ≤ i := by
  set n := sim.data.timestamps.length with hn
  set split := min sim.data.tradingStartIndex n with hsplit
  have hmark : ∀ i < n, (sim.data.tradingStartIndex ≤ i ↔ start ≤ (sim.bar i).timestamp) := by
    intro i hi
    have hget : sim.data.timestamps[i]? = some sim.data.timestamps[i] := List.getElem?_eq_getElem hi
    rw [bar_timestamp hget]
    exact hmarks i _ hget
  have hrange : List.range n = List.range split ++ List.range' split (n - split) := by
    have happ := @List.range'_append_1 0 split (n - split)
    rw [Nat.zero_add, show split + (n - split) = n by omega] at happ
    rw [List.range_eq_range', List.range_eq_range', happ]
  have hfrom : sim.barsFrom start = List.range' split (n - split) := by
    rw [barsFrom, ← hn, hrange, List.filter_append, List.filter_eq_nil_iff.mpr,
      List.filter_eq_self.mpr, List.nil_append]
    · intro i hi
      rw [List.mem_range'_1] at hi
      exact decide_eq_true ((hmark i (by omega)).mp (by omega))
    · intro i hi hdate
      rw [List.mem_range] at hi
      have := (hmark i (by omega)).mpr (of_decide_eq_true hdate)
      omega
  rw [hfrom]
  refine ⟨List.range split, hrange, fun i hi => ?_, fun i hi => ?_⟩
  · rw [List.mem_range] at hi
    omega
  · rw [List.mem_range'_1] at hi
    omega

theorem earnedFrom_of_marks (hmarks : MarksBars sim.data start)
    (hrun : sim.runSimulationLoop = .ok final) : EarnedFrom sim start final := by
  obtain ⟨_, hsplit, hwarmBars, hbars⟩ := range_split hmarks
  obtain ⟨warm, hwarm, hunt⟩ := run_warmup untouched_startState hwarmBars
  unfold runSimulationLoop at hrun
  rw [hsplit, run_append, hwarm, ok_bind] at hrun
  refine ⟨run_recordsFrom (hunt.recordsFrom start) (fun i hi => ⟨hbars i hi, ?_⟩) hrun, warm,
    hunt, hrun⟩
  exact of_decide_eq_true (List.mem_filter.mp hi).2

end Simulation

/-- Exactly the bars from the start on are tradable, and every result on the data is empty or that of
a run which earns on these only. -/
structure NeverTradesWarmup (data : PrecomputedWindowData) (start : Instant) : Prop where
  marks : MarksBars data start
  earned : ∀ services config coins result,
    runOptimizationBacktestWithPrecomputed services config coins data = .ok result →
      result = EMPTY_RESULT ∨ ∃ final,
        (simulationOf services config coins data).EarnedFrom start final ∧
          result = (simulationOf services config coins data).result final

/-- **Warm-up bars never trade** in the data of a period exactly if a coin has a bar in the period, or
none has a bar in the period or its warm-up. -/
theorem neverTradesWarmup_iff (preloaded : PreloadedCandles) (coins : List Coin) (warmupDays : ℕ)
    (extendedMinDate : Instant) (windows : List WalkForwardWindowConfig)
    (range : Instant × Instant) (hrange : range ∈ windows.flatMap ranges) :
    ∃ data, (precomputeAllWindowData coins preloaded.byCoin warmupDays extendedMinDate windows).get?
        range = some data ∧
      (NeverTradesWarmup data range.1 ↔
        HasBar coins preloaded (max range.1 (warmupStart warmupDays extendedMinDate range.1))
            range.2 ∨
          ¬ HasBar coins preloaded (warmupStart warmupDays extendedMinDate range.1) range.2) := by
  refine ⟨_, get?_precomputeAllWindowData preloaded.byCoin hrange, ?_⟩
  rw [← marksBars_iff]
  refine ⟨fun h => h.marks, fun h => ⟨h, fun services config coins result hresult => ?_⟩⟩
  unfold runOptimizationBacktestWithPrecomputed at hresult
  split_ifs at hresult
  · exact .inl (Except.ok.inj hresult).symm
  · obtain ⟨final, hrun, hresult⟩ := bind_eq_ok.mp hresult
    refine .inr ⟨final, Simulation.earnedFrom_of_marks h hrun, ?_⟩
    exact (Except.ok.inj hresult).symm

/-! ## A coin that stops trading -/

def lastCandle : OHLCCandle where
  coinId := "btc"
  timestamp := 30 * oneDay
  openPrice := 100
  high := 100
  low := 100
  close := 100
  volume := 1000000

def endedCoin : PreloadedCandles := loadAndIndexCandles [lastCandle] (List.pairwise_singleton _ _)

def trainAndTest : WalkForwardWindowConfig := ⟨0, 0, 30 * oneDay, 31 * oneDay, 45 * oneDay⟩

def buysAlways : Services where
  math := ⟨fun x => x, fun x => x, fun x => x, fun x _ => x⟩
  algorithm _ := .ok
    { success := true
      signals := [{ type := .buy, coinId := "btc", strength := 1 / 100, confidence := 1 }] }
  calculators :=
    ⟨fun _ _ => none, fun _ _ => none, fun _ _ => none, fun _ _ _ _ => none, fun _ _ _ => none,
      fun _ _ _ _ => none, fun _ _ _ _ => none⟩

def buyingConfig : OptimizationBacktestConfig where
  algorithmId := "buys-always"
  parameters := OrdMap.empty
  startDate := 31 * oneDay
  endDate := 45 * oneDay

def bitcoin : List Coin := [⟨"btc", "BTC"⟩]

def endedData : PrecomputedWindowData :=
  precomputeRange bitcoin endedCoin.byCoin 5 (-5 * oneDay) (31 * oneDay, 45 * oneDay)

def warmedCoin : PreloadedCandles :=
  loadAndIndexCandles [{ lastCandle with timestamp := -oneDay }, lastCandle] (by decide +kernel)

theorem trainPeriod_kept :
    ∃ data, (precomputeAllWindowData bitcoin warmedCoin.byCoin 5 (-5 * oneDay) [trainAndTest]).get?
        (0, 30 * oneDay) = some data ∧ data.timestamps = [-oneDay, 30 * oneDay] ∧
      NeverTradesWarmup data 0 := by
  obtain ⟨data, hget, hiff⟩ := neverTradesWarmup_iff warmedCoin bitcoin 5 (-5 * oneDay)
    [trainAndTest] (0, 30 * oneDay) (by decide)
  refine ⟨data, hget, ?_, hiff.mpr (Or.inl ⟨⟨"btc", "BTC"⟩, ?_, lastCandle, ?_, ?_, ?_⟩)⟩
  · rw [get?_precomputeAllWindowData warmedCoin.byCoin (by decide)] at hget
    rw [← Option.some.inj hget]
    decide +kernel
  · exact List.mem_singleton.mpr rfl
  · decide +kernel
  · decide
  · decide

/-- **A test period without a bar is traded on its warm-up**: the strategy buys a day before the
period begins. -/
theorem warmup_traded :
    (precomputeAllWindowData bitcoin endedCoin.byCoin 5 (-5 * oneDay) [trainAndTest]).get?
        (31 * oneDay, 45 * oneDay) = some endedData ∧
      (simulationOf buysAlways buyingConfig bitcoin endedData).runSimulationLoop.map
        (fun final => final.books.trades.map (·.executedAt)) = .ok [some (30 * oneDay)] ∧
      (runOptimizationBacktestWithPrecomputed buysAlways buyingConfig bitcoin endedData).map
        (·.tradeCount) = .ok 1 ∧
      ¬ NeverTradesWarmup endedData (31 * oneDay) := by
  refine ⟨get?_precomputeAllWindowData _ (by decide), by decide +kernel, by decide +kernel,
    fun h => ?_⟩
  have hbar : endedData.timestamps[0]? = some (30 * oneDay) := by decide +kernel
  have hindex : endedData.tradingStartIndex = 0 := by decide +kernel
  have hstart := (h.marks 0 _ hbar).mp hindex.le
  exact absurd hstart (by decide)

end Chansey.Optimization
