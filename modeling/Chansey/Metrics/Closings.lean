import Chansey.Checkpoint.Resume

/-!
# Gross profit and loss over a run

The sell counters know a closing by its type, but the forced exit of a short is recorded as a buy,
and a sell at cost is counted among the losses.

* `Ledger`, `ledgerStep`: bars, checkpoints and resumes, with every row recorded so far.
-/

namespace Chansey

open Result Run

/-! ## Rows -/

/-- A row that closed or reduced a position has a realised profit. -/
def BacktestTrade.isClosing (trade : BacktestTrade) : Bool := trade.realizedPnL.isSome

/-- The sells are the closings with a profit or a loss. -/
def BacktestTrade.Balanced (trade : BacktestTrade) : Prop :=
  trade.type = some .sell ↔ trade.pnl ≠ 0

section Balanced

variable {trades : List BacktestTrade}

theorem pnl_of_not_isClosing {trade : BacktestTrade} (h : trade.isClosing = false) :
    trade.pnl = 0 := by
  have hnone : trade.realizedPnL = none := Option.isSome_eq_false_iff.mp h |> Option.isNone_iff_eq_none.mp
  rw [BacktestTrade.pnl, hnone]
  rfl

theorem sum_closings (trades : List BacktestTrade) :
    ((trades.filter (·.isClosing)).map (·.pnl)).sum = (trades.map (·.pnl)).sum := by
  induction trades with
  | nil => rfl
  | cons trade trades ih =>
    rw [List.map_cons, List.sum_cons, ← ih]
    cases hclosing : trade.isClosing with
    | true => rw [List.filter_cons_of_pos hclosing, List.map_cons, List.sum_cons]
    | false =>
      rw [List.filter_cons_of_neg (by rw [hclosing]; decide), pnl_of_not_isClosing hclosing,
        zero_add]

theorem countSells_sum (h : ∀ t ∈ trades, t.Balanced) :
    (countSells trades).grossProfit - (countSells trades).grossLoss =
      ((trades.filter (·.isClosing)).map (·.pnl)).sum := by
  rw [countSells_profit_sub_loss, sum_closings]
  induction trades with
  | nil => rfl
  | cons trade trades ih =>
    have hrest := ih fun t ht => h t (List.mem_cons_of_mem trade ht)
    have htrade := h trade List.mem_cons_self
    rw [List.map_cons, List.sum_cons, ← hrest]
    by_cases hsell : trade.type = some .sell
    · rw [List.filter_cons_of_pos (by simpa using hsell), List.map_cons, List.sum_cons]
    · have hzero : trade.pnl = 0 := by
        by_contra hne
        exact hsell (htrade.mpr hne)
      rw [List.filter_cons_of_neg (by simpa using hsell), hzero, zero_add]

theorem countSells_closings (h : ∀ t ∈ trades, t.Balanced) :
    (countSells trades).sells = (trades.filter fun t => t.isClosing ∧ t.pnl ≠ 0).length := by
  rw [countSells_sells]
  congr 1
  refine List.filter_congr fun t ht => ?_
  have hclosing : t.pnl ≠ 0 → t.isClosing = true := by
    intro hne
    cases hc : t.isClosing with
    | true => rfl
    | false => exact absurd (pnl_of_not_isClosing hc) hne
  have hsell := h t ht
  by_cases hne : t.pnl ≠ 0
  · simp [hsell.mpr hne, hclosing hne, hne]
  · have hno : t.type ≠ some .sell := fun hs => hne (hsell.mp hs)
    simp [hno, hne]

end Balanced

/-! ## Orders -/

/-- An order that would close a position for nothing: at its average price, of no quantity, or of a
short whose margin is gone. -/
def FillsAtCost (math : Js.Math) (params : ExecuteTradeParams) (portfolio : Portfolio) : Prop :=
  ∃ existing marketPrice fill isBuy,
    portfolio.positions.get? params.signal.coinId = some existing ∧
    params.marketData.prices.get? params.signal.coinId = some marketPrice ∧
    applySlippageAndFill math params (resolveBasePrice params.signal marketPrice)
      (calculateSellQuantity params.signal existing.quantity).quantity isBuy
      (some existing.quantity) = .ok (.filled fill) ∧
    (params.signal.action = .sell ∧ isBuy = false ∨
      params.signal.action = .closeShort ∧ isBuy = true) ∧
    (fill.price = existing.averagePrice ∨ fill.quantity = 0 ∨
      isBuy = true ∧ returnedMargin existing fill.quantity = 0)

instance (math : Js.Math) (params : ExecuteTradeParams) (portfolio : Portfolio) :
    Decidable (FillsAtCost math params portfolio) :=
  let coinId := params.signal.coinId
  let fills := [true, false].any fun isBuy =>
    match portfolio.positions.get? coinId, params.marketData.prices.get? coinId with
    | some existing, some marketPrice =>
      match applySlippageAndFill math params (resolveBasePrice params.signal marketPrice)
        (calculateSellQuantity params.signal existing.quantity).quantity isBuy
        (some existing.quantity) with
      | .ok (.filled fill) =>
        (params.signal.action = .sell ∧ isBuy = false ∨
          params.signal.action = .closeShort ∧ isBuy = true) ∧
        (fill.price = existing.averagePrice ∨ fill.quantity = 0 ∨
          isBuy = true ∧ returnedMargin existing fill.quantity = 0)
      | _ => false
    | _, _ => false
  decidable_of_iff (fills = true) (by
    constructor
    · intro h
      obtain ⟨isBuy, -, h⟩ := List.any_eq_true.mp h
      split at h
      · rename_i existing marketPrice hget hprice
        split at h
        · rename_i fill hfill
          exact ⟨existing, marketPrice, fill, isBuy, hget, hprice, hfill, of_decide_eq_true h⟩
        · exact absurd h Bool.false_ne_true
      · exact absurd h Bool.false_ne_true
    · rintro ⟨existing, marketPrice, fill, isBuy, hget, hprice, hfill, h⟩
      refine List.any_eq_true.mpr ⟨isBuy, by cases isBuy <;> simp, ?_⟩
      simp [coinId, hget, hprice, hfill, h])

section Orders

variable {math : Js.Math} {params : ExecuteTradeParams} {portfolio after : Portfolio}

theorem executeTrade_balanced {r : ExecuteTradeResult}
    (h : executeTrade math params portfolio = .ok (some r, after))
    (hstat : r.fillStatus ≠ .cancelled) (hcost : ¬ FillsAtCost math params portfolio) :
    r.trade.Balanced := by
  obtain ⟨⟨hcanc, -, -⟩, -⟩ | ⟨-, ⟨marketPrice, result, _, fee, hprice, -, -, hbkd, -,
    rfl, -⟩⟩ := executeTrade_some h
  · exact absurd hcanc hstat
  change some (inferTradeType params.signal.action) = some TradeType.sell ↔
    result.realizedPnL.getD 0 ≠ 0
  cases hbkd with
  | buy fill fee hact hfill hdeploy hfee hcash hres =>
    simp [hact, inferTradeType, hres]
  | sell existing fill hact hget hq hfill hle hqty hprice' hvalue hstat' hpnl =>
    have hne : (fill.price - existing.averagePrice) * fill.quantity ≠ 0 := by
      refine mul_ne_zero (sub_ne_zero.mpr fun heq => hcost ?_) fun hzero => hcost ?_
      · exact ⟨existing, marketPrice, fill, false, hget, hprice, hfill, .inl ⟨hact, rfl⟩, .inl heq⟩
      · exact ⟨existing, marketPrice, fill, false, hget, hprice, hfill, .inl ⟨hact, rfl⟩,
          .inr (.inl hzero)⟩
    rw [hact, hpnl]
    exact ⟨fun _ => hne, fun _ => rfl⟩
  | openShort fill fee hact hfill hfee hcash hqty hprice' hstat' hpnl =>
    simp [hact, inferTradeType, hpnl]
  | closeShort existing fill hact hget hside hq hfill hle hqty hprice' hstat' hpnl =>
    have hat : ∀ hcase, FillsAtCost math params portfolio := fun hcase =>
      ⟨existing, marketPrice, fill, true, hget, hprice, hfill, .inr ⟨hact, rfl⟩, hcase⟩
    have hmarg : returnedMargin existing fill.quantity ≠ 0 := fun hzero =>
      hcost (hat (.inr (.inr ⟨rfl, hzero⟩)))
    have hne : (existing.averagePrice - fill.price) * fill.quantity ≠ 0 := by
      refine mul_ne_zero (sub_ne_zero.mpr fun heq => ?_) fun hzero => ?_
      · exact hcost (hat (.inl heq.symm))
      · exact hcost (hat (.inr (.inl hzero)))
    rw [hact, hpnl]
    refine ⟨fun _ => ?_, fun _ => rfl⟩
    -- the profit is the capped one or the loss of the whole margin
    rw [Option.getD_some]
    rcases max_choice (-returnedMargin existing fill.quantity)
      ((existing.averagePrice - fill.price) * fill.quantity) with hmax | hmax
    · rw [hmax]
      exact neg_ne_zero.mpr hmarg
    · rw [hmax]
      exact hne

end Orders

/-! ## Events -/

def CountsRight (env : LoopEnv) (books : Books) : LoopEvent → Prop
  | .trade market maxAllocation minAllocation signal =>
    ¬ FillsAtCost env.math
      (env.cfg.order market signal env.cfg.minHoldMs maxAllocation minAllocation) books.portfolio
  | .opportunitySale market plan candidate remainingShortfall quantity =>
    ¬ FillsAtCost env.math
      (opportunityOrder env.cfg market
        (opportunitySellSignal plan candidate remainingShortfall quantity)) books.portfolio
  | .exits market currentBar =>
    ∀ tracker, books.exitTracker = some tracker →
      StepsMeet (fillExit env.math env.cfg env.fullFidelity market)
        (fun b exitSig => ¬ FillsAtCost env.math (exitOrder env.cfg env.fullFidelity market exitSig)
          b.portfolio)
        { books with exitTracker := some (triggeredExits market tracker currentBar).1 }
        (triggeredExits market tracker currentBar).2
  | .liquidations marketData =>
    ∀ c p price, books.portfolio.positions.get? c = some p →
      liquidationAt marketData.prices c p = some price →
      (p.side = some .short ↔ p.marginAmount.getD 0 = 0)
  | .delistingExits lastKnownPrices timestamp =>
    ∀ c p date, books.portfolio.positions.get? c = some p →
      delistedSince env.delistingDates timestamp c = some date →
      (p.side = some .short ↔
        p.quantity * penaltyPrice lastKnownPrices (min 1 (max 0 env.delistingPenalty)) c p =
          p.averagePrice * p.quantity)
  | _ => True

section Events

variable {env : LoopEnv} {market : BarMarket} {books after : Books}

theorem balanced_of_eq {t u : BacktestTrade} (htype : t.type = u.type)
    (hpnl : t.realizedPnL = u.realizedPnL) (h : u.Balanced) : t.Balanced := by
  unfold BacktestTrade.Balanced BacktestTrade.pnl at *
  rw [htype, hpnl]
  exact h

theorem forcedTradeType_balanced {t : BacktestTrade} {p : Position}
    (htype : t.type = some (forcedTradeType p)) (h : p.side = some .short ↔ t.pnl = 0) :
    t.Balanced := by
  unfold BacktestTrade.Balanced
  rw [htype, ← not_iff_not, not_not, ← h]
  unfold forcedTradeType
  by_cases hside : p.side = some .short <;> simp [hside]

def AddsBalanced (books after : Books) : Prop :=
  ∃ rows, after.trades = books.trades ++ rows ∧ ∀ t ∈ rows, t.Balanced

theorem AddsBalanced.of_eq (h : after.trades = books.trades) : AddsBalanced books after :=
  ⟨[], by rw [h, List.append_nil], by simp⟩

theorem AddsBalanced.of_append {t : BacktestTrade} (h : after.trades = books.trades ++ [t])
    (ht : t.Balanced) : AddsBalanced books after :=
  ⟨[t], h, fun _ hu => List.mem_singleton.mp hu ▸ ht⟩

theorem AddsBalanced.trans {mid : Books} (h : AddsBalanced books mid)
    (h' : AddsBalanced mid after) : AddsBalanced books after := by
  obtain ⟨rows, hrows, hall⟩ := h
  obtain ⟨more, hmore, hall'⟩ := h'
  refine ⟨rows ++ more, by rw [hmore, hrows, List.append_assoc], fun t ht => ?_⟩
  exact (List.mem_append.mp ht).elim (hall t) (hall' t)

theorem tradeSignal_balanced {maxAllocation minAllocation : ℚ} {signal : TradingSignal}
    {traded : Bool} (hcost : ¬ FillsAtCost env.math
      (env.cfg.order market signal env.cfg.minHoldMs maxAllocation minAllocation) books.portfolio)
    (h : tradeSignal env.math env.cfg market maxAllocation minAllocation signal books =
      .ok (traded, after)) : AddsBalanced books after := by
  unfold tradeSignal at h
  obtain ⟨⟨result?, portfolio⟩, hexec, h⟩ := bind_eq_ok.mp h
  cases result? with
  | none =>
    cases h
    exact .of_eq rfl
  | some =>
    obtain ⟨recorded, hrec, h⟩ := bind_eq_ok.mp h
    cases h
    unfold recordTradeResult at hrec
    split at hrec
    · cases hrec
      exact .of_eq rfl
    · rename_i hstat
      split at hrec
      · cases hrec
      · cases hrec
        exact .of_append rfl
          (balanced_of_eq rfl rfl (executeTrade_balanced hexec hstat hcost))

theorem opportunitySale_balanced {signal : TradingSignal} {result? : Option ExecuteTradeResult}
    (hcost : ¬ FillsAtCost env.math (opportunityOrder env.cfg market signal) books.portfolio)
    (h : opportunitySale env.math env.cfg market signal books = .ok (result?, after)) :
    AddsBalanced books after := by
  unfold opportunitySale at h
  obtain ⟨⟨executed?, _⟩, hexec, h⟩ := bind_eq_ok.mp h
  cases h
  unfold bookSale
  cases executed? with
  | none => exact .of_eq rfl
  | some =>
    dsimp only
    split_ifs with hstat
    · exact .of_eq rfl
    · exact .of_append rfl (balanced_of_eq rfl rfl (executeTrade_balanced hexec hstat hcost))

theorem fillExit_balanced {exitSig : ExitSignal}
    (hcost : ¬ FillsAtCost env.math (exitOrder env.cfg env.fullFidelity market exitSig)
      books.portfolio)
    (h : fillExit env.math env.cfg env.fullFidelity market books exitSig = .ok after) :
    AddsBalanced books after := by
  unfold fillExit at h
  obtain ⟨⟨result?, _⟩, hexec, h⟩ := bind_eq_ok.mp h
  cases h
  have hrec : (if env.fullFidelity then { books with signals := books.signals ++
      [exitSignalRecord env.cfg market.marketData.timestamp exitSig] } else books).trades =
      books.trades := by
    split_ifs <;> rfl
  unfold bookExit
  cases result? with
  | none => exact .of_eq hrec
  | some result =>
    dsimp only
    by_cases hstat : result.fillStatus = .cancelled
    · rw [if_pos hstat]
      split_ifs <;> exact .of_eq rfl
    · rw [if_neg hstat]
      have hbalanced := executeTrade_balanced hexec hstat hcost
      split_ifs
      all_goals exact .of_append rfl (balanced_of_eq rfl rfl hbalanced)

theorem applyLiquidations_balanced {marketData : MarketData}
    (hforced : CountsRight env books (.liquidations marketData)) :
    AddsBalanced books (applyLiquidations env.cfg marketData books) := by
  refine ⟨_, rfl, fun t ht => ?_⟩
  obtain ⟨_, hrow, rfl⟩ := List.mem_map.mp ht
  obtain ⟨⟨c, p, price⟩, he, rfl⟩ := List.mem_map.mp hrow
  obtain ⟨hget, hliq⟩ := mem_liquidatedPositions.mp he
  refine forcedTradeType_balanced (p := p) rfl ?_
  rw [hforced c p price hget hliq]
  exact neg_eq_zero.symm

theorem applyDelistingExits_balanced {lastKnownPrices : OrdMap CoinId ℚ} {timestamp : Instant}
    (hforced : CountsRight env books (.delistingExits lastKnownPrices timestamp)) :
    AddsBalanced books (applyDelistingExits env.cfg env.delistingDates env.delistingPenalty
      lastKnownPrices timestamp books) := by
  unfold applyDelistingExits
  split_ifs with hsize
  · exact .of_eq rfl
  refine ⟨_, rfl, fun t ht => ?_⟩
  obtain ⟨_, hrow, rfl⟩ := List.mem_map.mp ht
  obtain ⟨⟨c, p, date⟩, he, rfl⟩ := List.mem_map.mp hrow
  obtain ⟨hget, hdel⟩ := mem_delistedPositions.mp he
  refine forcedTradeType_balanced (p := p) rfl ?_
  rw [hforced c p date hget hdel]
  change _ ↔ (if p.side = some .short then _ else _) = (0 : ℚ)
  split_ifs with hside
  · rw [sub_eq_zero, eq_comm]
  · rw [sub_eq_zero]

theorem loopStep_balanced {event : LoopEvent} (hevent : CountsRight env books event)
    (h : loopStep env books event = .ok after) : AddsBalanced books after := by
  cases event with
  | revaluation | signalRow =>
    cases h
    exact .of_eq rfl
  | trade =>
    obtain ⟨⟨traded, booked⟩, htrade, rfl⟩ := map_eq_ok.mp h
    exact tradeSignal_balanced hevent htrade
  | opportunitySale =>
    obtain ⟨⟨result?, booked⟩, hsale, rfl⟩ := map_eq_ok.mp h
    exact opportunitySale_balanced hevent hsale
  | exits market currentBar =>
    change processExitSignals env.math env.cfg env.fullFidelity market currentBar books = _ at h
    unfold processExitSignals at h
    split at h
    · cases h
      exact .of_eq rfl
    · rename_i tracker htr
      refine run_invariant (AddsBalanced books) ?_ ?_ (hevent tracker htr) h
      · exact fun b exitSig b' hb hcost hstep => hb.trans (fillExit_balanced hcost hstep)
      · exact .of_eq rfl
  | liquidations =>
    cases h
    exact applyLiquidations_balanced hevent
  | delistingExits =>
    cases h
    exact applyDelistingExits_balanced hevent
  | entryCheck =>
    cases h
    refine .of_eq ?_
    unfold passesCooldown
    cases books.exitTracker with
    | none => rfl
    | some =>
      dsimp only
      split_ifs <;> rfl

end Events

/-! ## Runs -/

/-- A bar, a checkpoint after it, or a pause and the resume from its checkpoint. -/
inductive LedgerStep where
  | bar (i : ℕ)
  | checkpoint (i : ℕ)
  | resume (index : ℤ) (timestamp : Instant)

/-- A run and all trades it has made, also those whose rows are handed over or lost. -/
structure Ledger where
  ctx : LoopContext
  trades : List BacktestTrade

section Runs

variable (setup : RunSetup) (computeChecksum : ChecksumData → String)

def Ledger.start : Ledger := ⟨createContext setup none, []⟩

def ledgerStep (ledger : Ledger) : LedgerStep → Except LoopError Ledger
  | .bar i => do
    let (state, rows) ← processBar setup.createConfig i ledger.ctx.state
    return {
      ctx := { state := state
               record :=
                 { ledger.ctx.record with rows := ledger.ctx.record.rows.append rows } }
      trades := ledger.trades ++ rows.trades }
  | .checkpoint i =>
    .ok { ledger with ctx := (persist computeChecksum setup.createConfig ledger.ctx i).2 }
  | .resume index timestamp =>
    .ok { ledger with
      ctx := createContext setup (some (buildSnapshot computeChecksum ledger.ctx index timestamp)) }

def BarCountsRight (ledger : Ledger) : LedgerStep → Prop
  | .bar i =>
    ∀ next rows, processBar setup.createConfig i ledger.ctx.state = .ok (next, rows) →
      ∃ events, run (loopStep setup.createConfig.toLoopEnv) ledger.ctx.state.books events =
          .ok (next.booksWith rows) ∧
        StepsMeet (loopStep setup.createConfig.toLoopEnv) (CountsRight setup.createConfig.toLoopEnv)
          ledger.ctx.state.books events
  | _ => True

/-- The counters at the end of a run, with the rows that are left harvested. -/
def RunRecord.finalAcc (record : RunRecord) : MetricsAccumulator :=
  harvestMetrics record.rows.trades record.rows.snapshots record.metricsAcc

def LoopContext.finalMetrics (ctx : LoopContext) : BacktestFinalMetrics :=
  calculateFinalMetricsFromAccumulators setup.data.math setup.backtest.initialCapital
    setup.backtest.startDate setup.backtest.endDate ctx.state.portfolio.totalValue
    ctx.state.maxDrawdown ctx.record.finalAcc

/-- The counters have counted every trade, and every trade is balanced. -/
structure Ledger.Sound (ledger : Ledger) : Prop where
  counted : ledger.ctx.record.finalAcc.sellCounts = countSells ledger.trades
  balanced : ∀ t ∈ ledger.trades, t.Balanced

variable {setup computeChecksum} {ledger next : Ledger} {step : LedgerStep}

theorem ledgerStep_sound (hl : ledger.Sound) (hstep : BarCountsRight setup ledger step)
    (h : ledgerStep setup computeChecksum ledger step = .ok next) : next.Sound := by
  cases step with
  | bar =>
    obtain ⟨⟨state, rows⟩, hbar, h⟩ := bind_eq_ok.mp h
    cases h
    obtain ⟨_, hrun, hmeet⟩ := hstep state rows hbar
    have hadds : AddsBalanced ledger.ctx.state.books (state.booksWith rows) := by
      refine run_invariant (AddsBalanced ledger.ctx.state.books) ?_ (.of_eq rfl) hmeet hrun
      exact fun b event b' hb hright hevent => hb.trans (loopStep_balanced hright hevent)
    obtain ⟨added, hadded, hall⟩ := hadds
    have hrows : rows.trades = added := hadded
    refine ⟨?_, fun t ht => ?_⟩
    · have hcounted := hl.counted
      change ledger.ctx.record.metricsAcc.sellCounts +
        countSells (ledger.ctx.record.rows.trades ++ rows.trades) =
        countSells (ledger.trades ++ rows.trades)
      rw [countSells_append, countSells_append, ← hcounted, ← add_assoc_counts]
      rfl
    · rw [← hrows] at hall
      exact (List.mem_append.mp ht).elim (hl.balanced t) (hall t)
  | checkpoint | resume =>
    cases h
    refine ⟨?_, hl.balanced⟩
    rw [← hl.counted]
    exact add_empty_counts _

/-- **Over a run whose every event counts right, profit less loss is what all closings earned, and
wins and losses are as many as the closings with a profit or a loss.** -/
theorem grossProfit_run {steps : List LedgerStep}
    (hok : StepsMeet (ledgerStep setup computeChecksum) (BarCountsRight setup) (.start setup) steps)
    (h : run (ledgerStep setup computeChecksum) (.start setup) steps = .ok ledger) :
    ledger.ctx.record.finalAcc.sellCounts.grossProfit -
        ledger.ctx.record.finalAcc.sellCounts.grossLoss =
      ((ledger.trades.filter (·.isClosing)).map (·.pnl)).sum ∧
    ((ledger.ctx.finalMetrics setup).winningTrades : ℤ) +
        (ledger.ctx.finalMetrics setup).losingTrades =
      (ledger.trades.filter fun t => t.isClosing ∧ t.pnl ≠ 0).length := by
  have hsound : ledger.Sound := by
    refine run_invariant Ledger.Sound ?_ ⟨add_empty_counts _, by simp [Ledger.start]⟩ hok h
    exact fun l step l' hl hright hstep => ledgerStep_sound hl hright hstep
  refine ⟨?_, ?_⟩
  · rw [hsound.counted]
    exact countSells_sum hsound.balanced
  · have hsells : (ledger.ctx.finalMetrics setup).winningTrades +
        (ledger.ctx.finalMetrics setup).losingTrades =
        (ledger.ctx.record.finalAcc.sellCounts.sells : ℤ) := by
      change (ledger.ctx.record.finalAcc.sellCounts.winningSells : ℤ) +
        (ledger.ctx.record.finalAcc.sellCounts.sells -
          ledger.ctx.record.finalAcc.sellCounts.winningSells) = _
      omega
    rw [hsells, hsound.counted, countSells_closings hsound.balanced]

end Runs

/-- Buys two coins on the first day and sells one on each of the next two. -/
def sellsTwice : Algorithm := fun context =>
  let signal (type : AlgoSignalType) (quantity : ℚ) : StrategySignal :=
    { type := type, coinId := "eth", strength := 1, quantity := some quantity, confidence := 1 }
  .ok
    { success := true
      signals :=
        match context.currentTimestampIndex with
        | 0 => [signal .buy 2]
        | 1 | 2 => [signal .sell 1]
        | _ => [] }

/-- Both coins are bought at 100. One is sold at 110 and the other at 80. -/
def soldRun : RunSetup :=
  let candle (day : ℕ) (price : ℚ) : OHLCCandle :=
    { coinId := "eth", timestamp := day * (24 * HOUR_MS), openPrice := price, high := price
      low := price, close := price }
  { entryRun .buy with
    data :=
      { (entryRun .buy).data with
        algorithm := sellsTwice
        historicalPrices := [candle 0 100, candle 1 100, candle 2 110, candle 3 80] } }

/-- The queued signals of a bar fill at its open, and the bar is revalued. -/
def flushEvents (cfg : LoopConfig) (i : ℕ) (state : LoopState) : List LoopEvent :=
  let openMarket := (cfg.bar i).marketAt getOpenPriceValue state.prevCandleMap
  let fills := state.pendingSignals.flatMap fun signal =>
    [.signalRow (signalRecord cfg.cfg openMarket signal),
      .trade openMarket cfg.cfg.maxAllocation cfg.cfg.minAllocation signal]
  .revaluation openMarket.marketData.prices :: fills ++
    [.revaluation ((cfg.bar i).marketAt getPriceValue state.prevCandleMap).marketData.prices]

def FillsOffCost (env : LoopEnv) (books : Books) : LoopEvent → Prop
  | .trade market maxAllocation minAllocation signal =>
    ¬ FillsAtCost env.math
      (env.cfg.order market signal env.cfg.minHoldMs maxAllocation minAllocation) books.portfolio
  | .revaluation _ | .signalRow _ => True
  | _ => False

instance (env : LoopEnv) (books : Books) :
    (event : LoopEvent) → Decidable (FillsOffCost env books event)
  | .trade .. => inferInstanceAs (Decidable (¬ _))
  | .revaluation _ | .signalRow _ => isTrue trivial
  | .opportunitySale .. | .exits .. | .liquidations _ | .delistingExits .. | .entryCheck .. =>
    isFalse id

def FlushesOffCost (setup : RunSetup) (ledger : Ledger) : LedgerStep → Prop
  | .bar i =>
    let cfg := setup.createConfig
    let events := flushEvents cfg i ledger.ctx.state
    (processBar cfg i ledger.ctx.state).map (fun x => x.1.booksWith x.2) =
        run (loopStep cfg.toLoopEnv) ledger.ctx.state.books events ∧
      StepsMeet (loopStep cfg.toLoopEnv) (FillsOffCost cfg.toLoopEnv) ledger.ctx.state.books events
  | _ => True

instance (setup : RunSetup) (ledger : Ledger) :
    (step : LedgerStep) → Decidable (FlushesOffCost setup ledger step)
  | .bar _ => inferInstanceAs (Decidable (_ ∧ _))
  | .checkpoint _ | .resume .. => isTrue trivial

theorem barCountsRight_of_flushes {setup : RunSetup} {ledger : Ledger} {step : LedgerStep}
    (h : FlushesOffCost setup ledger step) : BarCountsRight setup ledger step := by
  cases step with
  | checkpoint | resume => trivial
  | bar i =>
    intro next rows hbar
    obtain ⟨hbooks, hmeet⟩ := h
    rw [hbar] at hbooks
    refine ⟨_, hbooks.symm, hmeet.imp fun books event hoff => ?_⟩
    cases event with
    | trade => exact hoff
    | revaluation | signalRow => trivial
    | opportunitySale | exits | liquidations | delistingExits | entryCheck => exact hoff.elim

theorem grossProfit_soldTwice :
    ∃ ledger, run (ledgerStep soldRun fun _ => "") (.start soldRun)
        [.bar 0, .bar 1, .bar 2, .checkpoint 2, .bar 3] = .ok ledger ∧
      (ledger.trades.filter (·.isClosing)).map (·.pnl) = [10, -20] ∧
      (ledger.ctx.record.finalAcc.sellCounts.grossProfit -
          ledger.ctx.record.finalAcc.sellCounts.grossLoss =
        ((ledger.trades.filter (·.isClosing)).map (·.pnl)).sum ∧
      ((ledger.ctx.finalMetrics soldRun).winningTrades : ℤ) +
          (ledger.ctx.finalMetrics soldRun).losingTrades =
        (ledger.trades.filter fun t => t.isClosing ∧ t.pnl ≠ 0).length) := by
  have hclosings : (run (ledgerStep soldRun fun _ => "") (.start soldRun)
      [.bar 0, .bar 1, .bar 2, .checkpoint 2, .bar 3]).map
        (fun ledger => (ledger.trades.filter (·.isClosing)).map (·.pnl)) = .ok [10, -20] := by
    decide +kernel
  have hflushes : StepsMeet (ledgerStep soldRun fun _ => "") (FlushesOffCost soldRun)
      (.start soldRun) [.bar 0, .bar 1, .bar 2, .checkpoint 2, .bar 3] := by decide +kernel
  cases hrun : run (ledgerStep soldRun fun _ => "") (.start soldRun)
      [.bar 0, .bar 1, .bar 2, .checkpoint 2, .bar 3] with
  | error =>
    rw [hrun] at hclosings
    cases hclosings
  | ok ledger =>
    rw [hrun] at hclosings
    exact ⟨ledger, rfl, Except.ok.inj hclosings,
      grossProfit_run (hflushes.imp fun _ _ => barCountsRight_of_flushes) hrun⟩

def liquidatedRun : RunSetup :=
  let jump : OHLCCandle :=
    { coinId := "eth", timestamp := 2 * HOUR_MS, openPrice := 200, high := 200, low := 200
      close := 200 }
  { entryRun .shortEntry with
    data := { (entryRun .shortEntry).data with historicalPrices := flatCandles 2 ++ [jump] } }

/-- **A liquidated short loses its margin of `50`, and neither a loss nor a losing trade is
counted.** -/
theorem liquidation_not_counted :
    (run (ledgerStep liquidatedRun fun _ => "") (.start liquidatedRun)
        [.bar 0, .bar 1, .checkpoint 1, .bar 2]).map (fun ledger =>
          (ledger.ctx.record.finalAcc.sellCounts,
            ((ledger.trades.filter (·.isClosing)).map (·.pnl)).sum,
            (ledger.trades.filter fun t => t.isClosing ∧ t.pnl ≠ 0).length)) =
        .ok ({}, -50, 1) ∧
      ¬ ∀ (setup : RunSetup) (computeChecksum : ChecksumData → String) (steps : List LedgerStep)
          (ledger : Ledger),
        run (ledgerStep setup computeChecksum) (.start setup) steps = .ok ledger →
        ledger.ctx.record.finalAcc.sellCounts.grossProfit -
            ledger.ctx.record.finalAcc.sellCounts.grossLoss =
          ((ledger.trades.filter (·.isClosing)).map (·.pnl)).sum ∧
        ((ledger.ctx.finalMetrics setup).winningTrades : ℤ) +
            (ledger.ctx.finalMetrics setup).losingTrades =
          (ledger.trades.filter fun t => t.isClosing ∧ t.pnl ≠ 0).length := by
  have hcounts : (run (ledgerStep liquidatedRun fun _ => "") (.start liquidatedRun)
      [.bar 0, .bar 1, .checkpoint 1, .bar 2]).map (fun ledger =>
        (ledger.ctx.record.finalAcc.sellCounts,
          ((ledger.trades.filter (·.isClosing)).map (·.pnl)).sum,
          (ledger.trades.filter fun t => t.isClosing ∧ t.pnl ≠ 0).length)) =
      .ok ({}, -50, 1) := by decide +kernel
  refine ⟨hcounts, fun h => ?_⟩
  cases hrun : run (ledgerStep liquidatedRun fun _ => "") (.start liquidatedRun)
      [.bar 0, .bar 1, .checkpoint 1, .bar 2] with
  | error =>
    rw [hrun] at hcounts
    cases hcounts
  | ok ledger =>
    rw [hrun] at hcounts
    have hfields := Except.ok.inj hcounts
    simp only [Prod.mk.injEq] at hfields
    obtain ⟨hsells, hsum, -⟩ := hfields
    have hprofit := (h liquidatedRun (fun _ => "") _ ledger hrun).1
    rw [hsells, hsum] at hprofit
    exact absurd hprofit (by decide +kernel)

end Chansey
