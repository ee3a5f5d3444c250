import Chansey.Checkpoint.Coordinator
import Chansey.Checkpoint.PortfolioRoundTrip
import Chansey.Loop.Frame

/-!
# Resuming from a checkpoint

A run that goes on and a run that is rebuilt from a checkpoint of it. The checkpoint leaves out
parts of the state; where they do not matter, no bar tells the two runs apart.

* **`outputs_alike`**: so do all the bars after it.
-/

namespace Chansey

open Result Run

def Bar.coins (bar : Bar) : List CoinId := bar.currentPrices.map (·.coinId)

theorem mem_keys_priceMap {value : OHLCCandle → ℚ} {candles : List OHLCCandle} {c : CoinId} :
    c ∈ (priceMap value candles).keys ↔ c ∈ candles.map (·.coinId) := by
  rw [← OrdMap.get?_isSome_iff, priceMap, OrdMap.get?_ofEntries_isSome, List.map_map]
  rfl

/-! ## States alike -/

/-- Two states that the code of a bar cannot tell apart: once they are valued at its prices they
differ in candles and last prices that nothing reads. -/
structure AlikeOn (cfg : LoopConfig) (bar : Bar) (s s' : LoopState) : Prop where
  rest : s' = { s with
    portfolio := s'.portfolio
    prevCandleMap := s'.prevCandleMap
    lastKnownPrices := s'.lastKnownPrices }
  portfolio : ∀ value, updateValues s'.portfolio (priceMap value bar.currentPrices) =
    updateValues s.portfolio (priceMap value bar.currentPrices)
  spread : SameSpread cfg.cfg s.prevCandleMap s'.prevCandleMap
  lastKnown : cfg.delistingDates.size = 0 ∨ ∀ c ∈ s.portfolio.positions.keys,
    c ∈ bar.coins ∨ s.lastKnownPrices.get? c = s'.lastKnownPrices.get? c

structure Alike (cfg : LoopConfig) (s s' : LoopState) : Prop where
  rest : s' = { s with
    prevCandleMap := s'.prevCandleMap
    lastKnownPrices := s'.lastKnownPrices }
  spread : SameSpread cfg.cfg s.prevCandleMap s'.prevCandleMap
  lastKnown : cfg.delistingDates.size = 0 ∨ ∀ c ∈ s.portfolio.positions.keys,
    s.lastKnownPrices.get? c = s'.lastKnownPrices.get? c

section Alike

variable {cfg : LoopConfig} {bar : Bar} {windows : BarWindows} {s s' n : LoopState}
  {rows : BarRows} {i : ℕ}

theorem Alike.on (h : Alike cfg s s') (bar : Bar) : AlikeOn cfg bar s s' where
  rest := by
    have hrest := h.rest
    have hport : s'.portfolio = s.portfolio := by rw [hrest]
    rw [hport]
    exact hrest
  portfolio value := by rw [h.rest]
  spread := h.spread
  lastKnown := h.lastKnown.imp_right fun hheld c hc => .inr (hheld c hc)

variable {prev prev' : OrdMap CoinId OHLCCandle}

theorem SameSpread.update (h : SameSpread cfg.cfg prev prev') (candles : List OHLCCandle) :
    SameSpread cfg.cfg (updatePrevCandleMap prev candles) (updatePrevCandleMap prev' candles) := by
  rcases h with rfl | htype
  · exact .inl rfl
  · exact .inr htype

theorem AlikeOn.lastKnown_update (h : AlikeOn cfg bar s s') :
    cfg.delistingDates.size = 0 ∨ ∀ c, (c ∈ s.portfolio.positions.keys ∨ c ∈ bar.coins) →
      (updateLastKnownPrices s.lastKnownPrices (priceMap getPriceValue bar.currentPrices)).get? c =
        (updateLastKnownPrices s'.lastKnownPrices (priceMap getPriceValue bar.currentPrices)).get?
          c := by
  refine h.lastKnown.imp_right fun hheld c hc => ?_
  rw [get?_updateLastKnownPrices, get?_updateLastKnownPrices]
  have hpriced : c ∈ bar.coins → ∃ q, (priceMap getPriceValue bar.currentPrices).get? c = some q :=
    fun hmem => Option.isSome_iff_exists.mp (OrdMap.get?_isSome_iff.mpr (mem_keys_priceMap.mpr hmem))
  have hagree : c ∈ bar.coins ∨ s.lastKnownPrices.get? c = s'.lastKnownPrices.get? c :=
    hc.elim (hheld c) .inl
  rcases hagree with hmem | heq
  · obtain ⟨q, hq⟩ := hpriced hmem
    rw [hq]
    rfl
  · rw [heq]

theorem markets_pricesIn (prev : OrdMap CoinId OHLCCandle) (coins : CoinId → Prop)
    (hcoins : ∀ c ∈ bar.coins, coins c) {market : BarMarket} (hm : bar.Markets prev market) :
    market.PricesIn coins := by
  obtain ⟨_, rfl⟩ := hm
  intro c hc
  exact hcoins c (mem_keys_priceMap.mp hc)

theorem Reaches.bar_holdsIn {books after : Books} {prev : OrdMap CoinId OHLCCandle}
    (h : Reaches cfg.toLoopEnv (bar.Markets prev) books after) :
    after.HoldsIn fun c => c ∈ books.portfolio.positions.keys ∨ c ∈ bar.coins := by
  obtain ⟨events, hrun, hon⟩ := h
  have hpriced : Reaches cfg.toLoopEnv
      (fun m => m.PricesIn fun c => c ∈ books.portfolio.positions.keys ∨ c ∈ bar.coins) books
      after := by
    refine ⟨events, hrun, fun e he => ?_⟩
    have hmkt := hon e he
    have hcoins : ∀ c ∈ bar.coins, c ∈ books.portfolio.positions.keys ∨ c ∈ bar.coins :=
      fun c hc => .inr hc
    cases e with
    | trade | opportunitySale | exits => exact markets_pricesIn prev _ hcoins hmkt
    | _ => trivial
  exact hpriced.holdsIn fun c hc => .inl hc

/-! ## The bar -/

theorem processOpenAndExits_eq (lastKnownPrices : OrdMap CoinId ℚ) :
    processOpenAndExits cfg bar s lastKnownPrices =
      flushPendingSignals cfg (bar.marketAt getOpenPriceValue s.prevCandleMap) s.pendingSignals
        (s.books.revalue (priceMap getOpenPriceValue bar.currentPrices)) >>= fun flushed =>
      processExitSignals cfg.math cfg.cfg cfg.fullFidelity
        (bar.marketAt getPriceValue s.prevCandleMap) bar.index
        (applyForcedExits cfg (bar.marketAt getPriceValue s.prevCandleMap).marketData
          lastKnownPrices (flushed.revalue (priceMap getPriceValue bar.currentPrices))) :=
  rfl

theorem flushPendingSignals_prev (h : SameSpread cfg.cfg prev prev') (value : OHLCCandle → ℚ)
    (signals : List TradingSignal) (books : Books) :
    flushPendingSignals cfg (bar.marketAt value prev) signals books =
      flushPendingSignals cfg (bar.marketAt value prev') signals books :=
  foldlM_congr fun signal _ books => processSignalTrade_prev cfg.math (bar.marketAt value prev) h
    cfg.cfg.maxAllocation cfg.cfg.minAllocation books signal

theorem processExitSignals_marketAt (h : SameSpread cfg.cfg prev prev') (value : OHLCCandle → ℚ)
    (books : Books) :
    processExitSignals cfg.math cfg.cfg cfg.fullFidelity (bar.marketAt value prev) bar.index
        books =
      processExitSignals cfg.math cfg.cfg cfg.fullFidelity (bar.marketAt value prev') bar.index
        books :=
  processExitSignals_prev cfg.math (bar.marketAt value prev) h cfg.fullFidelity bar.index books

theorem processOpenAndExits_alike (h : AlikeOn cfg bar s s') :
    processOpenAndExits cfg bar s'
        (updateLastKnownPrices s'.lastKnownPrices (priceMap getPriceValue bar.currentPrices)) =
      processOpenAndExits cfg bar s
        (updateLastKnownPrices s.lastKnownPrices (priceMap getPriceValue bar.currentPrices)) := by
  have htr : s'.exitTracker = s.exitTracker := by rw [h.rest]
  have hpend : s'.pendingSignals = s.pendingSignals := by rw [h.rest]
  have hrevalue : ∀ value, s'.books.revalue (priceMap value bar.currentPrices) =
      s.books.revalue (priceMap value bar.currentPrices) := by
    intro value
    unfold LoopState.books Books.revalue
    rw [h.portfolio value, htr]
  rw [processOpenAndExits_eq, processOpenAndExits_eq, hpend, hrevalue,
    ← flushPendingSignals_prev h.spread]
  cases hflushed : flushPendingSignals cfg (bar.marketAt getOpenPriceValue s.prevCandleMap)
      s.pendingSignals (s.books.revalue (priceMap getOpenPriceValue bar.currentPrices)) with
  | error => rw [error_bind, error_bind]
  | ok flushed =>
    have hmkt : bar.Markets s.prevCandleMap (bar.marketAt getOpenPriceValue s.prevCandleMap) :=
      ⟨getOpenPriceValue, rfl⟩
    have hheld := (flushPendingSignals_reaches hmkt hflushed).bar_holdsIn
    have hcoins : cfg.delistingDates.size = 0 ∨ ∀ c ∈ (updateValues flushed.portfolio
          (priceMap getPriceValue bar.currentPrices)).positions.keys,
        (updateLastKnownPrices s'.lastKnownPrices
            (priceMap getPriceValue bar.currentPrices)).get? c =
          (updateLastKnownPrices s.lastKnownPrices
            (priceMap getPriceValue bar.currentPrices)).get? c := by
      refine h.lastKnown_update.imp_right fun hagree c hc => (hagree c ?_).symm
      rw [updateValues_keys] at hc
      have hin := hheld c hc
      rw [Books.revalue_portfolio, updateValues_keys] at hin
      exact hin
    have hforced := applyForcedExits_lastKnown cfg
      (flushed.revalue (priceMap getPriceValue bar.currentPrices))
      (bar.marketAt getPriceValue s.prevCandleMap).marketData hcoins
    have hmarketData : (bar.marketAt getPriceValue s'.prevCandleMap).marketData =
        (bar.marketAt getPriceValue s.prevCandleMap).marketData := rfl
    rw [ok_bind, ok_bind, hmarketData, hforced, processExitSignals_marketAt h.spread]

theorem dispatchFilteredSignals_alike (h : SameSpread cfg.cfg s.prevCandleMap s'.prevCandleMap)
    (batch : FilteredSignals) (books : Books) :
    dispatchFilteredSignals cfg (bar.marketAt getPriceValue s'.prevCandleMap) batch books =
      dispatchFilteredSignals cfg (bar.marketAt getPriceValue s.prevCandleMap) batch books := by
  have htrade := processSignalTrade_prev cfg.math (bar.marketAt getPriceValue s.prevCandleMap) h
    batch.maxAllocation batch.minAllocation
  have hfold : (batch.signals.filter fillsInBar).foldlM
        (processSignalTrade cfg.math cfg.cfg (bar.marketAt getPriceValue s'.prevCandleMap)
          batch.maxAllocation batch.minAllocation) books =
      (batch.signals.filter fillsInBar).foldlM
        (processSignalTrade cfg.math cfg.cfg (bar.marketAt getPriceValue s.prevCandleMap)
          batch.maxAllocation batch.minAllocation) books :=
    foldlM_congr fun signal _ b => (htrade b signal).symm
  rw [dispatchFilteredSignals, hfold]
  rfl

/-- The state after a bar of the other run: its own candles and last prices, the rest the same. -/
def LoopState.carry (n s' : LoopState) (bar : Bar) : LoopState :=
  { n with
    prevCandleMap := updatePrevCandleMap s'.prevCandleMap bar.currentPrices
    lastKnownPrices :=
      updateLastKnownPrices s'.lastKnownPrices (priceMap getPriceValue bar.currentPrices) }

theorem processTradingBar_alike (h : AlikeOn cfg bar s s') :
    processTradingBar cfg bar windows s' =
      (processTradingBar cfg bar windows s).map fun x => (x.1.carry s' bar, x.2) := by
  have hexits := processOpenAndExits_alike h
  have hdecide : ∀ regime portfolio, decideSignals cfg bar windows s' regime portfolio =
      decideSignals cfg bar windows s regime portfolio := by
    intro regime portfolio
    rw [h.rest]
    rfl
  have hctx : s'.priceCtx = s.priceCtx := by rw [h.rest]
  unfold processTradingBar
  change (processOpenAndExits cfg bar s' (updateLastKnownPrices s'.lastKnownPrices
    (priceMap getPriceValue bar.currentPrices)) >>= _) = _
  rw [hexits, hctx]
  change _ = (processOpenAndExits cfg bar s (updateLastKnownPrices s.lastKnownPrices
    (priceMap getPriceValue bar.currentPrices)) >>= _).map _
  cases processOpenAndExits cfg bar s (updateLastKnownPrices s.lastKnownPrices
      (priceMap getPriceValue bar.currentPrices)) with
  | error => rfl
  | ok exited =>
    rw [ok_bind, ok_bind]
    dsimp only
    rw [hdecide]
    cases decideSignals cfg bar windows s (barRegime cfg.math cfg.regime s.priceCtx)
        exited.portfolio with
    | error => rfl
    | ok decided =>
      obtain ⟨batch, _, _⟩ := decided
      rw [ok_bind, ok_bind]
      dsimp only
      rw [dispatchFilteredSignals_alike h.spread]
      cases dispatchFilteredSignals cfg (bar.marketAt getPriceValue s.prevCandleMap)
          { batch with signals := (cooldownFilter bar.index batch.signals exited).1 }
          (cooldownFilter bar.index batch.signals exited).2 with
      | error => rfl
      | ok traded =>
        obtain ⟨_, _⟩ := traded
        rw [ok_bind, ok_bind, h.rest]
        rfl

theorem processWarmupBar_alike (h : AlikeOn cfg bar s s') :
    processWarmupBar cfg bar s' =
      ((processWarmupBar cfg bar s).1.carry s' bar, (processWarmupBar cfg bar s).2) := by
  have htr : s'.exitTracker = s.exitTracker := by rw [h.rest]
  have hrevalue : s'.books.revalue (priceMap getPriceValue bar.currentPrices) =
      s.books.revalue (priceMap getPriceValue bar.currentPrices) := by
    unfold LoopState.books Books.revalue
    rw [h.portfolio getPriceValue, htr]
  have hcoins : cfg.delistingDates.size = 0 ∨ ∀ c ∈ (s.books.revalue
        (priceMap getPriceValue bar.currentPrices)).portfolio.positions.keys,
      (updateLastKnownPrices s'.lastKnownPrices (priceMap getPriceValue bar.currentPrices)).get? c =
        (updateLastKnownPrices s.lastKnownPrices
          (priceMap getPriceValue bar.currentPrices)).get? c := by
    refine h.lastKnown_update.imp_right fun hagree c hc => (hagree c (.inl ?_)).symm
    rw [Books.revalue_portfolio, updateValues_keys] at hc
    exact hc
  have hforced := applyForcedExits_lastKnown cfg
    (s.books.revalue (priceMap getPriceValue bar.currentPrices))
    (bar.marketAt getPriceValue s.prevCandleMap).marketData hcoins
  have hexits : applyForcedExits cfg (bar.marketAt getPriceValue s'.prevCandleMap).marketData
        (updateLastKnownPrices s'.lastKnownPrices (priceMap getPriceValue bar.currentPrices))
        (s'.books.revalue (priceMap getPriceValue bar.currentPrices)) =
      applyForcedExits cfg (bar.marketAt getPriceValue s.prevCandleMap).marketData
        (updateLastKnownPrices s.lastKnownPrices (priceMap getPriceValue bar.currentPrices))
        (s.books.revalue (priceMap getPriceValue bar.currentPrices)) := by
    rw [hrevalue]
    exact hforced
  have hprs : ∀ prev, (bar.marketAt getPriceValue prev).marketData.prices =
      priceMap getPriceValue bar.currentPrices := fun _ => rfl
  unfold processWarmupBar
  dsimp only
  rw [hprs, hprs, hexits, h.rest]
  rfl

theorem processBar_alike (h : AlikeOn cfg (cfg.bar i) s s') :
    processBar cfg i s' = (processBar cfg i s).map fun x => (x.1.carry s' (cfg.bar i), x.2) := by
  have hctx : s'.priceCtx = s.priceCtx := by rw [h.rest]
  let advance : LoopState → LoopState := fun state =>
    { state with
      priceCtx := (advanceBarWindows s.priceCtx cfg.coins (cfg.bar i).timestamp).1 }
  have hadvanced : AlikeOn cfg (cfg.bar i) (advance s) (advance s') := by
    refine ⟨?_, h.portfolio, h.spread, h.lastKnown⟩
    dsimp only [advance]
    rw [h.rest]
  unfold processBar
  dsimp only
  rw [hctx]
  by_cases hwarm : i < cfg.effectiveTradingStartIndex
  · rw [if_pos hwarm, if_pos hwarm]
    exact congrArg Except.ok (processWarmupBar_alike hadvanced)
  · rw [if_neg hwarm, if_neg hwarm]
    exact processTradingBar_alike hadvanced

theorem processBar_prices (h : processBar cfg i s = .ok (n, rows)) :
    n.prevCandleMap = updatePrevCandleMap s.prevCandleMap (cfg.bar i).currentPrices ∧
      n.lastKnownPrices = updateLastKnownPrices s.lastKnownPrices
        (priceMap getPriceValue (cfg.bar i).currentPrices) := by
  unfold processBar at h
  dsimp only at h
  split_ifs at h
  · cases h
    exact ⟨rfl, rfl⟩
  · unfold processTradingBar at h
    obtain ⟨_, -, h⟩ := bind_eq_ok.mp h
    obtain ⟨⟨_, _, _⟩, -, h⟩ := bind_eq_ok.mp h
    obtain ⟨⟨_, _⟩, -, h⟩ := bind_eq_ok.mp h
    cases h
    exact ⟨rfl, rfl⟩

theorem AlikeOn.carry (h : AlikeOn cfg (cfg.bar i) s s')
    (hbar : processBar cfg i s = .ok (n, rows)) : Alike cfg n (n.carry s' (cfg.bar i)) := by
  obtain ⟨hprev, hlast⟩ := processBar_prices hbar
  refine ⟨rfl, ?_, ?_⟩
  · rw [hprev]
    exact h.spread.update _
  · refine h.lastKnown_update.imp_right fun hagree c hc => ?_
    rw [hlast]
    exact hagree c ((processBar_reaches hbar).bar_holdsIn c hc)

theorem outputs_alikeOn (h : AlikeOn cfg (cfg.bar i) s s') (is : List ℕ)
    (hrest : ∀ n n' : LoopState, Alike cfg n n' → outputs cfg n' is = outputs cfg n is) :
    outputs cfg s' (i :: is) = outputs cfg s (i :: is) := by
  have hbar := processBar_alike h
  unfold outputs
  rw [hbar]
  cases hrun : processBar cfg i s with
  | error => rfl
  | ok x =>
    obtain ⟨n, _⟩ := x
    dsimp only [Except.map]
    rw [hrest n _ (h.carry hrun)]
    rfl

theorem outputs_alike (is : List ℕ) (h : Alike cfg s s') :
    outputs cfg s' is = outputs cfg s is := by
  induction is generalizing s s' with
  | nil => rfl
  | cons i is ih => exact outputs_alikeOn (h.on (cfg.bar i)) is fun n n' hn => ih hn

end Alike

/-! ## The resume -/

attribute [ext] LoopState

/-- What a checkpoint leaves out of the state before a bar is not there to be lost. -/
structure Resumable (cfg : LoopConfig) (bar : Bar) (s : LoopState) : Prop where
  plain : ∀ c p, s.portfolio.positions.get? c = some p → p.IsPlain
  margin : s.portfolio.totalMarginUsed = 0
  errors : s.consecutiveErrors = 0
  candles : cfg.cfg.slippageConfig.type ≠ .spreadAdjusted ∨ s.prevCandleMap = OrdMap.empty
  values : ∀ c p, s.portfolio.positions.get? c = some p →
    c ∈ bar.coins ∨ p.totalValue = p.quantity * p.averagePrice
  lastPrices : cfg.delistingDates.size = 0 ∨ ∀ c ∈ s.portfolio.positions.keys,
    c ∈ bar.coins ∨ s.lastKnownPrices.get? c = none

instance (p : Position) : Decidable p.IsPlain :=
  decidable_of_iff
    (p.side = none ∧ p.leverage = none ∧ p.marginAmount = none ∧ p.liquidationPrice = none)
    ⟨fun ⟨hs, hl, hm, hp⟩ => ⟨hs, hl, hm, hp⟩, fun ⟨hs, hl, hm, hp⟩ => ⟨hs, hl, hm, hp⟩⟩

section Restore

variable {cfg : LoopConfig} {bar : Bar} {s : LoopState}

theorem getPositionValue_restored {p : Position} (hplain : p.IsPlain) (price : Option ℚ)
    (hvalue : price ≠ none ∨ p.totalValue = p.quantity * p.averagePrice) :
    getPositionValue p.restored price true = getPositionValue p price true := by
  cases price with
  | some => simp only [getPositionValue, Position.restored, hplain.side]
  | none =>
    have hstd : p.totalValue = p.quantity * p.averagePrice := hvalue.resolve_left fun hne => hne rfl
    simp only [getPositionValue, Position.restored, hplain.side, hstd]

theorem Resumable.updateValues_restore (hs : Resumable cfg bar s) (value : OHLCCandle → ℚ) :
    updateValues (restorePortfolio (checkpointPortfolio s.portfolio))
        (priceMap value bar.currentPrices) =
      updateValues s.portfolio (priceMap value bar.currentPrices) := by
  let prices := priceMap value bar.currentPrices
  have hvalue : ∀ c p, s.portfolio.positions.get? c = some p →
      getPositionValue p.restored (prices.get? c) true =
        getPositionValue p (prices.get? c) true := by
    intro c p hget
    refine getPositionValue_restored (hs.plain c p hget) _ ((hs.values c p hget).imp_left ?_)
    intro hcoin hnone
    have hpriced : (prices.get? c).isSome :=
      OrdMap.get?_isSome_iff.mpr (mem_keys_priceMap.mpr hcoin)
    rw [hnone] at hpriced
    cases hpriced
  have hposs : (s.portfolio.positions.map fun _ p => p.restored).map (fun c p =>
        { p with totalValue := getPositionValue p (prices.get? c) true }) =
      s.portfolio.positions.map fun c p =>
        { p with totalValue := getPositionValue p (prices.get? c) true } := by
    refine OrdMap.ext_get? (by rw [OrdMap.keys_map, OrdMap.keys_map, OrdMap.keys_map]) fun c => ?_
    rw [OrdMap.get?_map, OrdMap.get?_map, OrdMap.get?_map]
    cases hget : s.portfolio.positions.get? c with
    | none => rfl
    | some p =>
      obtain ⟨hside, hleverage, hmarg, hliquidation⟩ := hs.plain c p hget
      rw [Option.map_some, Option.map_some, Option.map_some, hvalue c p hget, Position.restored,
        hside, hleverage, hmarg, hliquidation]
  have hsum : calculatePositionsValue (s.portfolio.positions.map fun _ p => p.restored) prices =
      calculatePositionsValue s.portfolio.positions prices := by
    unfold calculatePositionsValue
    rw [OrdMap.sumBy_map]
    exact OrdMap.sumBy_congr fun e he => hvalue e.1 e.2 (OrdMap.get?_eq_some_iff.mpr he)
  unfold updateValues
  rw [restorePortfolio_positions, restorePortfolio_totalMarginUsed, hs.margin, hposs, hsum]
  rfl

end Restore

section Setup

variable {setup : RunSetup} {s : LoopState} {j : ℕ}

theorem effectiveTimestampCount_le : setup.effectiveTimestampCount ≤ setup.timestamps.length :=
  (List.rdropWhile_prefix (p := _) _).length_le

theorem resolveExitTracker_resume {opts : ResolveExitTrackerOptions}
    (hnone : opts.resumeExitTrackerState = none) {tracker : Option BacktestExitTracker}
    (h : tracker.map (·.config) = (resolveExitTracker opts).map (·.config)) :
    resolveExitTracker { opts with resumeExitTrackerState := tracker.map (·.serialize) } =
      tracker := by
  have hcfg : tracker.map (·.config) = effectiveExitConfig opts := by
    rw [h, resolveExitTracker, Option.map_map, hnone]
    exact Option.map_id'
  unfold resolveExitTracker
  have heffective : effectiveExitConfig
      { opts with resumeExitTrackerState := tracker.map (·.serialize) } =
      effectiveExitConfig opts := rfl
  rw [heffective, ← hcfg]
  cases tracker with
  | none => rfl
  | some tracker => exact congrArg some tracker.deserialize_serialize

theorem restoredState_alikeOn (computeChecksum : ChecksumData → String) (record : RunRecord)
    (timestamp : Instant) (hj : j ≤ setup.effectiveTimestampCount)
    (hrun : run (barStep setup.createConfig) setup.startState (List.range j) = .ok s)
    (hs : Resumable setup.createConfig (setup.createConfig.bar j) s) :
    AlikeOn setup.createConfig (setup.createConfig.bar j) s
      (setup.restoredState (buildSnapshot computeChecksum ⟨s, record⟩ ((j : ℤ) - 1) timestamp)) where
  rest := by
    have hrng : SeededRandom.fromState s.rng.getState = s.rng := s.rng.fromState_getState
    have htr : resolveExitTracker
        { setup.exitOptions with resumeExitTrackerState := s.exitTracker.map (·.serialize) } =
        s.exitTracker := resolveExitTracker_resume rfl (exitTracker_run hrun)
    have hthrottle : deserializeThrottle (serializeThrottle s.throttleState) = s.throttleState :=
      deserialize_serializeThrottle s.throttleState
    have hlen : j ≤ setup.createConfig.timestamps.length := hj.trans effectiveTimestampCount_le
    have hctx := priceCtx_run hlen hrun
    have hpend : ((if s.pendingSignals.length > 0 then some s.pendingSignals else none).filter
        (·.length > 0)).getD [] = s.pendingSignals := by
      cases s.pendingSignals <;> rfl
    have hstart : RunSetup.startIndex (some (buildSnapshot computeChecksum ⟨s, record⟩
        ((j : ℤ) - 1) timestamp)) = j := by
      change (((j : ℤ) - 1) + 1).toNat = j
      omega
    have hwins : (setup.restoredState (buildSnapshot computeChecksum ⟨s, record⟩ ((j : ℤ) - 1)
        timestamp)).priceCtx = s.priceCtx := by
      rw [hctx]
      unfold RunSetup.restoredState
      rw [hstart]
      rfl
    exact LoopState.ext hrng rfl rfl rfl htr hthrottle hpend hs.errors.symm rfl rfl hwins
  portfolio value := hs.updateValues_restore value
  spread := hs.candles.symm
  lastKnown := hs.lastPrices

/-- **Where nothing is lost, a resume is invisible: the bars after it have the outputs they have in
the run that goes on.** -/
theorem resume_invisible (setup : RunSetup) (computeChecksum : ChecksumData → String)
    (record : RunRecord) (timestamp : Instant) (j : ℕ) (s : LoopState)
    (hj : j ≤ setup.effectiveTimestampCount)
    (hrun : run (barStep setup.createConfig) setup.startState (List.range j) = .ok s)
    (hs : Resumable setup.createConfig (setup.createConfig.bar j) s) :
    outputs setup.createConfig
        (setup.createState
          (some (buildSnapshot computeChecksum ⟨s, record⟩ ((j : ℤ) - 1) timestamp)))
        (List.range' j (setup.effectiveTimestampCount - j)) =
      outputs setup.createConfig s (List.range' j (setup.effectiveTimestampCount - j)) := by
  have halike := restoredState_alikeOn computeChecksum record timestamp hj hrun hs
  cases setup.effectiveTimestampCount - j with
  | zero => rfl
  | succ =>
    rw [List.range'_succ]
    exact outputs_alikeOn halike _ fun n n' hn => outputs_alike _ hn

end Setup

/-! ## A short at the checkpoint -/

def unusedCalculators : Calculators where
  ema _ _ := none
  sma _ _ := none
  rsi _ _ := none
  macd _ _ _ _ := none
  bollinger _ _ _ := none
  atr _ _ _ _ := none
  adx _ _ _ _ := none

def entryOnce (type : AlgoSignalType) : Algorithm := fun context =>
  .ok
    { success := true
      signals :=
        if context.currentTimestampIndex = 0 then
          [{ type := type, coinId := "eth", strength := 1, quantity := some 1, confidence := 1
             metadata := OrdMap.empty.set "leverage" (.num 2) }]
        else [] }

def flatCandles (n : ℕ) : List OHLCCandle :=
  (List.range n).map fun j : ℕ =>
    { coinId := "eth", timestamp := j * HOUR_MS, openPrice := 100, high := 100, low := 100
      close := 100 }

def entryRun (type : AlgoSignalType) : RunSetup where
  backtest :=
    { id := "b", tradingFee := 0, initialCapital := 1000, startDate := 0, endDate := 2 * HOUR_MS
      slippage := some { model := some "none" } }
  coins := [⟨"eth", "ETH"⟩]
  options := { deterministicSeed := "s", enableHardStopLoss := some false }
  data :=
    { math := unusedMath
      algorithm := entryOnce type
      calculators := unusedCalculators
      historicalPrices := flatCandles 3
      quoteCoin := ⟨"usd", "USD"⟩ }

def checkpointAt (setup : RunSetup) (j : ℕ) (s : LoopState) : BacktestCheckpointState :=
  buildSnapshot (fun _ => "") ⟨s, {}⟩ ((j : ℤ) - 1) (setup.createConfig.bar (j - 1)).timestamp

theorem exists_run_of_map {setup : RunSetup} {is : List ℕ} {β : Type} {f : LoopState → β} {b : β}
    (h : (run (barStep setup.createConfig) setup.startState is).map f = .ok b) :
    ∃ s, run (barStep setup.createConfig) setup.startState is = .ok s ∧ f s = b := by
  cases hrun : run (barStep setup.createConfig) setup.startState is with
  | error =>
    rw [hrun] at h
    cases h
  | ok s =>
    rw [hrun] at h
    exact ⟨s, rfl, Except.ok.inj h⟩

theorem resume_invisible_long :
    ∃ s, run (barStep (entryRun .buy).createConfig) (entryRun .buy).startState (List.range 2) =
        .ok s ∧
      s.portfolio.positions.keys = ["eth"] ∧
      outputs (entryRun .buy).createConfig
          ((entryRun .buy).createState (some (checkpointAt (entryRun .buy) 2 s)))
          (List.range' 2 ((entryRun .buy).effectiveTimestampCount - 2)) =
        outputs (entryRun .buy).createConfig s
          (List.range' 2 ((entryRun .buy).effectiveTimestampCount - 2)) := by
  have hdecided : (run (barStep (entryRun .buy).createConfig) (entryRun .buy).startState
      (List.range 2)).map (fun s => (s.portfolio.positions.keys,
        decide (∀ e ∈ s.portfolio.positions.entries, e.2.IsPlain),
        decide (s.portfolio.totalMarginUsed = 0 ∧ s.consecutiveErrors = 0))) =
      .ok (["eth"], true, true) := by decide +kernel
  obtain ⟨s, hrun, hs⟩ := exists_run_of_map hdecided
  simp only [Prod.mk.injEq, decide_eq_true_eq] at hs
  obtain ⟨hkeys, hplain, hmargin, herrors⟩ := hs
  have hcoin : ∀ c p, s.portfolio.positions.get? c = some p → c = "eth" := by
    intro c p hget
    have hmem : c ∈ s.portfolio.positions.keys := by
      rw [← OrdMap.get?_isSome_iff, hget]
      rfl
    rw [hkeys] at hmem
    exact List.mem_singleton.mp hmem
  have hresumable : Resumable (entryRun .buy).createConfig ((entryRun .buy).createConfig.bar 2) s :=
    { plain := fun c p hget => hplain (c, p) (OrdMap.get?_eq_some_iff.mp hget)
      margin := hmargin
      errors := herrors
      candles := .inl (by decide +kernel)
      values := fun c p hget => by
        rw [hcoin c p hget]
        exact .inl (by decide +kernel)
      lastPrices := .inl rfl }
  exact ⟨s, hrun, hkeys, resume_invisible (entryRun .buy) (fun _ => "") {} _ 2 s
    (by decide +kernel) hrun hresumable⟩

/-- **A short that is held at the checkpoint comes back as a long, and the margin in use is `0` on
the next bar.** -/
theorem resume_visible_short :
    (run (barStep (entryRun .shortEntry).createConfig) (entryRun .shortEntry).startState
        (List.range 2)).map (fun s =>
          ((outputs (entryRun .shortEntry).createConfig s [2]).1.map
              (·.portfolio.totalMarginUsed),
            (outputs (entryRun .shortEntry).createConfig
              ((entryRun .shortEntry).createState
                (some (checkpointAt (entryRun .shortEntry) 2 s))) [2]).1.map
              (·.portfolio.totalMarginUsed))) = .ok ([50], [0]) ∧
      ¬ ∀ (setup : RunSetup) (j : ℕ) (s : LoopState), j ≤ setup.effectiveTimestampCount →
        run (barStep setup.createConfig) setup.startState (List.range j) = .ok s →
        outputs setup.createConfig (setup.createState (some (checkpointAt setup j s)))
            (List.range' j (setup.effectiveTimestampCount - j)) =
          outputs setup.createConfig s (List.range' j (setup.effectiveTimestampCount - j)) := by
  have hmargins : (run (barStep (entryRun .shortEntry).createConfig)
      (entryRun .shortEntry).startState (List.range 2)).map (fun s =>
        ((outputs (entryRun .shortEntry).createConfig s [2]).1.map (·.portfolio.totalMarginUsed),
          (outputs (entryRun .shortEntry).createConfig
            ((entryRun .shortEntry).createState
              (some (checkpointAt (entryRun .shortEntry) 2 s))) [2]).1.map
            (·.portfolio.totalMarginUsed))) = .ok ([50], [0]) := by decide +kernel
  refine ⟨hmargins, fun h => ?_⟩
  obtain ⟨s, hrun, hs⟩ := exists_run_of_map hmargins
  have hcount : (entryRun .shortEntry).effectiveTimestampCount = 3 := by decide +kernel
  have hsame := h (entryRun .shortEntry) 2 s (by rw [hcount]; decide) hrun
  rw [hcount] at hsame
  have hrange : List.range' 2 (3 - 2) = [2] := rfl
  rw [hrange] at hsame
  rw [hsame, Prod.mk.injEq] at hs
  have hne : ([50] : List ℚ) = [0] := hs.1.symm.trans hs.2
  exact absurd hne (by decide)

end Chansey
