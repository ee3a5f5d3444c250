import Chansey.Checkpoint.Resume

/-!
# Next-bar execution

A signal that is accepted on a bar and is no hard stop waits for the open of the next bar. The order
is sized and priced at the open, but a slippage model may read the volume and the candle of the bar
it fills on.
-/

namespace Chansey

open Result Run

/-! ## Decisions and executions -/

/-- The signals a bar accepts: those of the strategy that pass throttle, regime and cooldown. -/
def acceptedSignals (cfg : LoopConfig) (i : ℕ) (state : LoopState) :
    Except LoopError (List TradingSignal) := do
  let bar := cfg.bar i
  let (priceCtx, windows) := advanceBarWindows state.priceCtx cfg.coins bar.timestamp
  if i < cfg.effectiveTradingStartIndex then return []
  let market := bar.marketAt getPriceValue state.prevCandleMap
  let exited ← processOpenAndExits cfg bar { state with priceCtx := priceCtx }
    (updateLastKnownPrices state.lastKnownPrices market.marketData.prices)
  let (batch, _) ← decideSignals cfg bar windows { state with priceCtx := priceCtx }
    (barRegime cfg.math cfg.regime priceCtx) exited.portfolio
  return (cooldownFilter bar.index batch.signals exited).1

/-- The accepted signals that are no hard stops, in order. -/
def deferredSignals (cfg : LoopConfig) (i : ℕ) (state : LoopState) : List TradingSignal :=
  match acceptedSignals cfg i state with
  | .ok accepted => accepted.filter (¬ fillsInBar ·)
  | .error _ => []

/-- The queued signals that a bar hands to the executor at its open, in order. -/
def flushedSignals (cfg : LoopConfig) (i : ℕ) (state : LoopState) : List TradingSignal :=
  if i < cfg.effectiveTradingStartIndex then []
  else state.pendingSignals.filter fun s =>
    (priceMap getOpenPriceValue (cfg.bar i).currentPrices).has s.coinId

/-- What `f` gives on each bar of a run, with the index of the bar. -/
def alongBars (f : LoopConfig → ℕ → LoopState → List TradingSignal) (cfg : LoopConfig) :
    LoopState → List ℕ → List (ℕ × TradingSignal)
  | _, [] => []
  | state, i :: is =>
    (f cfg i state).map (i, ·) ++
      match processBar cfg i state with
      | .error _ => []
      | .ok (next, _) => alongBars f cfg next is

/-- The deferred signals of a run, with the bars they were decided on. -/
def decisions : LoopConfig → LoopState → List ℕ → List (ℕ × TradingSignal) :=
  alongBars deferredSignals

def executions : LoopConfig → LoopState → List ℕ → List (ℕ × TradingSignal) :=
  alongBars flushedSignals

def onNextBar (e : ℕ × TradingSignal) : ℕ × TradingSignal := (e.1 + 1, e.2)

section Order

variable {cfg : LoopConfig} {state next : LoopState} {rows : BarRows} {i : ℕ}

theorem processBar_pendingSignals (h : processBar cfg i state = .ok (next, rows)) :
    (i < cfg.effectiveTradingStartIndex ∧ next.pendingSignals = state.pendingSignals) ∨
      (¬ i < cfg.effectiveTradingStartIndex ∧
        next.pendingSignals = deferredSignals cfg i state) := by
  unfold processBar at h
  dsimp only at h
  split_ifs at h with hwarm
  · cases h
    exact .inl ⟨hwarm, rfl⟩
  · refine .inr ⟨hwarm, ?_⟩
    unfold processTradingBar at h
    obtain ⟨exited, hexits, h⟩ := bind_eq_ok.mp h
    obtain ⟨⟨batch, _, _⟩, hdecide, h⟩ := bind_eq_ok.mp h
    obtain ⟨⟨_, _⟩, hdispatch, h⟩ := bind_eq_ok.mp h
    cases h
    unfold dispatchFilteredSignals at hdispatch
    obtain ⟨_, -, hdispatch⟩ := bind_eq_ok.mp hdispatch
    cases hdispatch
    have hacc : acceptedSignals cfg i state =
        .ok (cooldownFilter (cfg.bar i).index batch.signals exited).1 := by
      unfold acceptedSignals
      dsimp only
      rw [if_neg hwarm]
      refine bind_eq_ok.mpr ⟨exited, hexits, ?_⟩
      exact bind_eq_ok.mpr ⟨_, hdecide, rfl⟩
    unfold deferredSignals
    rw [hacc]
    rfl

theorem executions_sublist (i n : ℕ) (state : LoopState)
    (hwarm : i < cfg.effectiveTradingStartIndex → state.pendingSignals = []) :
    (executions cfg state (List.range' i n)).Sublist
      (state.pendingSignals.map (i, ·) ++
        (decisions cfg state (List.range' i n)).map onNextBar) := by
  induction n generalizing i state with
  | zero => exact List.nil_sublist _
  | succ n ih =>
    rw [List.range'_succ]
    have hflushed : (flushedSignals cfg i state).Sublist state.pendingSignals := by
      unfold flushedSignals
      split_ifs
      · exact List.nil_sublist _
      · exact List.filter_sublist
    unfold executions decisions alongBars
    rw [List.map_append]
    refine (hflushed.map (i, ·)).append ?_
    cases hbar : processBar cfg i state with
    | error => exact List.nil_sublist _
    | ok x =>
      obtain ⟨next, _⟩ := x
      dsimp only
      have hqueue : next.pendingSignals = deferredSignals cfg i state ∨
          i < cfg.effectiveTradingStartIndex ∧ next.pendingSignals = [] := by
        rcases processBar_pendingSignals hbar with ⟨hlt, hkept⟩ | ⟨-, hdeferred⟩
        · exact .inr ⟨hlt, hkept.trans (hwarm hlt)⟩
        · exact .inl hdeferred
      have hnext := ih (i + 1) next fun hlt => by
        rcases processBar_pendingSignals hbar with ⟨hlt', hkept⟩ | ⟨_, -⟩
        · exact hkept.trans (hwarm hlt')
        · omega
      have hdecided : (next.pendingSignals.map (i + 1, ·)).Sublist
          (((deferredSignals cfg i state).map (i, ·)).map onNextBar) := by
        rw [List.map_map]
        rcases hqueue with hq | ⟨-, hq⟩
        · rw [hq]
          exact List.Sublist.refl _
        · rw [hq]
          exact List.nil_sublist _
      exact hnext.trans (hdecided.append (List.Sublist.refl _))

end Order

/-! ## At most once -/

/-- The row of a sale that frees cash for a buy. -/
def BacktestTrade.IsOpportunitySale (trade : BacktestTrade) : Prop :=
  trade.metadata.get? "opportunitySell" = some (.bool true)

section Once

variable {math : Js.Math} {cfg : TradingConfig} {market : BarMarket} {books after : Books}

theorem tradeMetadata_get? (signal : TradingSignal) (basePrice : ℚ) (result : ActionResult) :
    (tradeMetadata signal basePrice result).get? "opportunitySell" =
      signal.metadata.get? "opportunitySell" := by
  unfold tradeMetadata
  cases result.holdTimeMs <;> cases result.requestedQuantity <;> dsimp only <;> split_ifs <;>
    simp [OrdMap.get?_set]

variable {signal : TradingSignal} {maxAllocation minAllocation : ℚ}

theorem opportunitySale_rows {result? : Option ExecuteTradeResult}
    (hsig : signal.metadata.get? "opportunitySell" = some (.bool true))
    (h : opportunitySale math cfg market signal books = .ok (result?, after)) :
    ∃ sales, after.trades = books.trades ++ sales ∧ ∀ t ∈ sales, t.IsOpportunitySale := by
  unfold opportunitySale at h
  obtain ⟨⟨executed?, _⟩, hexec, h⟩ := bind_eq_ok.mp h
  cases h
  unfold bookSale
  cases executed? with
  | none => exact ⟨[], (List.append_nil _).symm, by simp⟩
  | some =>
    dsimp only
    split_ifs with hstat
    · exact ⟨[], (List.append_nil _).symm, by simp⟩
    · refine ⟨[_], rfl, fun t ht => ?_⟩
      rw [List.mem_singleton.mp ht]
      rcases executeTrade_some hexec with ⟨⟨hcanc, -, -⟩, -⟩ | ⟨-, hfld⟩
      · exact absurd hcanc hstat
      · obtain ⟨_, result, _, _, -, -, -, -, -, rfl, -⟩ := hfld.exists_booking
        change (tradeMetadata signal _ result).get? "opportunitySell" = _
        rw [tradeMetadata_get?, hsig]

theorem attemptOpportunitySelling_rows {sold : Bool}
    (h : attemptOpportunitySelling math cfg market signal maxAllocation minAllocation books =
      .ok (sold, after)) :
    ∃ sales, after.trades = books.trades ++ sales ∧ ∀ t ∈ sales, t.IsOpportunitySale := by
  unfold attemptOpportunitySelling at h
  simp only [pure_eq_ok] at h
  split at h
  · cases h
    exact ⟨[], (List.append_nil _).symm, by simp⟩
  split at h
  · cases h
    exact ⟨[], (List.append_nil _).symm, by simp⟩
  obtain ⟨_, -, h⟩ := bind_eq_ok.mp h
  split at h
  · cases h
    exact ⟨[], (List.append_nil _).symm, by simp⟩
  split at h
  · cases h
    exact ⟨[], (List.append_nil _).symm, by simp⟩
  unfold executeSellPlan at h
  obtain ⟨_, hfold, h⟩ := bind_eq_ok.mp h
  cases h
  refine foldlM_invariant (P := fun p : SellProgress =>
    ∃ sales, p.books.trades = books.trades ++ sales ∧ ∀ t ∈ sales, t.IsOpportunitySale) ?_
    ⟨[], (List.append_nil _).symm, by simp⟩ hfold
  rintro candidate - progress next ⟨sales, hsales, hall⟩ hstep
  unfold sellCandidate at hstep
  simp only [pure_eq_ok] at hstep
  split_ifs at hstep
  · cases hstep
    exact ⟨sales, hsales, hall⟩
  · cases hstep
    exact ⟨sales, hsales, hall⟩
  · obtain ⟨⟨result?, freed⟩, hsale, hstep⟩ := bind_eq_ok.mp hstep
    have hnext : next.books = freed := by
      cases result? <;> cases hstep <;> rfl
    obtain ⟨more, hmore, hall'⟩ := opportunitySale_rows rfl hsale
    refine ⟨sales ++ more, by rw [hnext, hmore, hsales, List.append_assoc], fun t ht => ?_⟩
    exact (List.mem_append.mp ht).elim (hall t) (hall' t)

theorem tradeSignal_rows {traded : Bool}
    (h : tradeSignal math cfg market maxAllocation minAllocation signal books =
      .ok (traded, after)) :
    ∃ own, after.trades = books.trades ++ own ∧ own.length ≤ 1 ∧ (traded = false → own = []) := by
  unfold tradeSignal at h
  obtain ⟨⟨result?, _⟩, -, h⟩ := bind_eq_ok.mp h
  cases result? with
  | none =>
    cases h
    exact ⟨[], (List.append_nil _).symm, Nat.zero_le 1, fun _ => rfl⟩
  | some =>
    obtain ⟨_, hrec, h⟩ := bind_eq_ok.mp h
    cases h
    have hno : true = false → ∀ own : List BacktestTrade, own = [] := fun hf => nomatch hf
    unfold recordTradeResult at hrec
    split at hrec
    · cases hrec
      exact ⟨[], (List.append_nil _).symm, Nat.zero_le 1, fun _ => rfl⟩
    · split at hrec
      · cases hrec
      · cases hrec
        exact ⟨[_], rfl, le_refl 1, fun hf => hno hf _⟩

theorem processSignalTrade_once
    (h : processSignalTrade math cfg market maxAllocation minAllocation books signal = .ok after) :
    ∃ sales own, after.trades = books.trades ++ sales ++ own ∧ own.length ≤ 1 ∧
      ∀ t ∈ sales, t.IsOpportunitySale := by
  unfold processSignalTrade at h
  obtain ⟨⟨_, booked⟩, htrade, h⟩ := bind_eq_ok.mp h
  obtain ⟨own, hown, hle, hnone⟩ := tradeSignal_rows htrade
  have hdirect : booked.trades = books.trades ++ [] ++ own := by
    rw [hown, List.append_nil]
  simp only [pure_eq_ok] at h
  split_ifs at h with hretry
  · have hempty : own = [] := hnone (by simpa using hretry.1)
    obtain ⟨⟨_, freed⟩, hsell, h⟩ := bind_eq_ok.mp h
    obtain ⟨sales, hsales, hall⟩ := attemptOpportunitySelling_rows hsell
    have hfreed : freed.trades = books.trades ++ sales := by
      rw [hsales, hdirect, hempty, List.append_nil, List.append_nil]
    split_ifs at h
    · obtain ⟨⟨_, _⟩, hagain, h⟩ := bind_eq_ok.mp h
      cases h
      obtain ⟨own', hown', hle', -⟩ := tradeSignal_rows hagain
      exact ⟨sales, own', by rw [hown', hfreed], hle', hall⟩
    · cases h
      exact ⟨sales, [], by rw [hfreed, List.append_nil], Nat.zero_le 1, hall⟩
  · cases h
    exact ⟨[], own, hdirect, hle, by simp⟩

end Once

/-! ## What the fills at the open read -/

/-- The books after the queued signals have been filled at the open of a bar. -/
def flushAtOpen (cfg : LoopConfig) (bar : Bar) (state : LoopState) : Except LoopError Books :=
  let openMarket := bar.marketAt getOpenPriceValue state.prevCandleMap
  flushPendingSignals cfg openMarket state.pendingSignals
    (state.books.revalue openMarket.marketData.prices)

/-- Two bars at one time with candles of the same coins and the same opens. -/
structure Bar.SameOpens (bar bar' : Bar) : Prop where
  timestamp : bar.timestamp = bar'.timestamp
  opens : bar.currentPrices.map (fun c => (c.coinId, c.openPrice)) =
    bar'.currentPrices.map fun c => (c.coinId, c.openPrice)

section Opens

variable {cfg : LoopConfig} {bar bar' : Bar} {state state' : LoopState}

theorem flushAtOpen_candles (hmodel : cfg.cfg.slippageConfig.type.readsCandle = false)
    (hbars : bar.SameOpens bar') (hport : state.portfolio = state'.portfolio)
    (htr : state.exitTracker = state'.exitTracker)
    (hqueue : state.pendingSignals = state'.pendingSignals) :
    flushAtOpen cfg bar state = flushAtOpen cfg bar' state' := by
  have hprs : priceMap getOpenPriceValue bar.currentPrices =
      priceMap getOpenPriceValue bar'.currentPrices := congrArg OrdMap.ofEntries hbars.opens
  have hdata : (bar.marketAt getOpenPriceValue state.prevCandleMap).marketData =
      (bar'.marketAt getOpenPriceValue state'.prevCandleMap).marketData := by
    unfold Bar.marketAt
    rw [hprs, hbars.timestamp]
  have hbooks : state.books = state'.books := by
    unfold LoopState.books
    rw [hport, htr]
  have halike : FillsAlike cfg.math cfg.cfg
      (bar.marketAt getOpenPriceValue state.prevCandleMap)
      (bar'.marketAt getOpenPriceValue state'.prevCandleMap) := by
    refine ⟨hdata, fun signal minHoldMs maxAllocation minAllocation portfolio => ?_⟩
    let order := cfg.cfg.order (bar'.marketAt getOpenPriceValue state'.prevCandleMap) signal
      minHoldMs maxAllocation minAllocation
    have hfree : ∀ volume spread, executeTrade cfg.math (order.withContext volume spread)
        portfolio = executeTrade cfg.math order portfolio := executeTrade_candleFree hmodel
    rw [← hfree (extractDailyVolume (candleMap bar.currentPrices) signal.coinId)
      (buildSpreadContext (candleMap bar.currentPrices) signal.coinId state.prevCandleMap)]
    unfold TradingConfig.order
    rw [hdata]
    rfl
  unfold flushAtOpen flushPendingSignals
  dsimp only
  rw [hdata, hbooks, hqueue]
  exact foldlM_congr fun signal _ books => processSignalTrade_alike halike _ _ books signal

end Opens

theorem createState_pendingSignals (setup : RunSetup) (computeChecksum : ChecksumData → String)
    (ctx : LoopContext) (index : ℤ) (timestamp : Instant) :
    (setup.createState
      (some (buildSnapshot computeChecksum ctx index timestamp))).pendingSignals =
        ctx.state.pendingSignals := by
  change ((if ctx.state.pendingSignals.length > 0 then some ctx.state.pendingSignals
    else none).filter (·.length > 0)).getD [] = ctx.state.pendingSignals
  cases ctx.state.pendingSignals <;> rfl

/-- **Next-bar execution, when no candle prices the fills**: executions are those of the decisions of
the bar before, in order and each at most once, also over checkpoints; and the fills at the open read
nothing of their bar but its opens. -/
theorem nextBar_execution (cfg : LoopConfig)
    (hmodel : cfg.cfg.slippageConfig.type.readsCandle = false) :
    (∀ (i n : ℕ) (state : LoopState),
      (i < cfg.effectiveTradingStartIndex → state.pendingSignals = []) →
      (executions cfg state (List.range' i n)).Sublist
        (state.pendingSignals.map (i, ·) ++
          (decisions cfg state (List.range' i n)).map onNextBar)) ∧
    (∀ (setup : RunSetup) (computeChecksum : ChecksumData → String) (ctx : LoopContext) (index : ℤ)
      (timestamp : Instant),
      (setup.createState
        (some (buildSnapshot computeChecksum ctx index timestamp))).pendingSignals =
          ctx.state.pendingSignals) ∧
    (∀ (market : BarMarket) (maxAllocation minAllocation : ℚ) (books after : Books)
      (signal : TradingSignal),
      processSignalTrade cfg.math cfg.cfg market maxAllocation minAllocation books signal =
        .ok after →
      ∃ sales own, after.trades = books.trades ++ sales ++ own ∧ own.length ≤ 1 ∧
        ∀ t ∈ sales, t.IsOpportunitySale) ∧
    (∀ (bar bar' : Bar) (state state' : LoopState), bar.SameOpens bar' →
      state.portfolio = state'.portfolio → state.exitTracker = state'.exitTracker →
      state.pendingSignals = state'.pendingSignals →
      flushAtOpen cfg bar state = flushAtOpen cfg bar' state') := by
  refine ⟨fun i n state hwarm => executions_sublist i n state hwarm, createState_pendingSignals,
    fun market maxAllocation minAllocation books after signal h => processSignalTrade_once h, ?_⟩
  exact fun bar bar' state state' hbars hportfolio htracker hqueue =>
    flushAtOpen_candles hmodel hbars hportfolio htracker hqueue

theorem nextBar_execution_buy :
    (executions (entryRun .buy).createConfig (entryRun .buy).startState (List.range' 0 3)).map
        (fun e => (e.1, e.2.coinId)) = [(1, "eth")] ∧
      (executions (entryRun .buy).createConfig (entryRun .buy).startState (List.range' 0 3)).Sublist
        ((entryRun .buy).startState.pendingSignals.map (0, ·) ++
          (decisions (entryRun .buy).createConfig (entryRun .buy).startState
            (List.range' 0 3)).map onNextBar) :=
  ⟨by decide +kernel,
    (nextBar_execution (entryRun .buy).createConfig (by decide +kernel)).1 0 3 _ fun _ => rfl⟩

def volumeRun : RunSetup :=
  { entryRun .buy with
    backtest := { (entryRun .buy).backtest with slippage := some { model := some "volume-based" } } }

def barAtVolume (volume : ℚ) : Bar where
  index := 1
  timestamp := HOUR_MS
  currentPrices :=
    [{ coinId := "eth", timestamp := HOUR_MS, openPrice := 100, high := 100, low := 100, close := 100
       quoteVolume := some volume }]

def fillRows : Except LoopError Books → List (SimulatedOrderStatus × ℚ)
  | .ok books => books.simulatedFills.map fun f => (f.status, f.averagePrice)
  | .error _ => []

/-- **At the same open the buy is filled on a bar without volume, and cancelled on one whose volume is
the value of the order.** -/
theorem openFill_reads_volume :
    ((processBar volumeRun.createConfig 0 volumeRun.startState).map fun x =>
        (fillRows (flushAtOpen volumeRun.createConfig (barAtVolume 0) x.1),
          fillRows (flushAtOpen volumeRun.createConfig (barAtVolume 100) x.1))) =
        .ok ([(.filled, 10005 / 100)], [(.cancelled, 105)]) ∧
      ¬ ∀ (cfg : LoopConfig) (bar bar' : Bar) (state : LoopState), bar.SameOpens bar' →
        flushAtOpen cfg bar state = flushAtOpen cfg bar' state := by
  have hfills : ((processBar volumeRun.createConfig 0 volumeRun.startState).map fun x =>
      (fillRows (flushAtOpen volumeRun.createConfig (barAtVolume 0) x.1),
        fillRows (flushAtOpen volumeRun.createConfig (barAtVolume 100) x.1))) =
      .ok ([(.filled, 10005 / 100)], [(.cancelled, 105)]) := by decide +kernel
  refine ⟨hfills, fun h => ?_⟩
  cases hbar : processBar volumeRun.createConfig 0 volumeRun.startState with
  | error =>
    rw [hbar] at hfills
    cases hfills
  | ok x =>
    rw [hbar] at hfills
    have hsame := h volumeRun.createConfig (barAtVolume 0) (barAtVolume 100) x.1 ⟨rfl, rfl⟩
    have hboth := Except.ok.inj hfills
    dsimp only at hboth
    rw [hsame, Prod.mk.injEq] at hboth
    have hne := hboth.1.symm.trans hboth.2
    exact absurd hne (by decide +kernel)

end Chansey
