import Chansey.Accounting.Margin
import Chansey.Loop.ExitSignals
import Chansey.Loop.SignalTrade

/-!
# The events of a bar

Everything that changes the books of a run, as one step function. The code of a bar is a run of
these events.

* **`loopStep_exitConfig`**: no event changes how the exits of a run are configured.
-/

namespace Chansey

open Result Run

/-! ## Forced exits -/

def applyLiquidations (cfg : TradingConfig) (marketData : MarketData) (books : Books) : Books :=
  let (trades, portfolio) :=
    checkAndApplyLiquidations books.portfolio marketData cfg.coinMap cfg.quoteCoin
  { books with
    portfolio := portfolio
    trades := books.trades ++
      trades.map fun t => { t with executedAt := some marketData.timestamp } }

def applyDelistingExits (cfg : TradingConfig) (delistingDates : OrdMap CoinId Instant)
    (delistingPenalty : ℚ) (lastKnownPrices : OrdMap CoinId ℚ) (timestamp : Instant)
    (books : Books) : Books :=
  if delistingDates.size = 0 then books
  else
    let (trades, portfolio, exitTracker) := checkAndApplyDelistingExits books.portfolio
      delistingDates lastKnownPrices timestamp delistingPenalty books.exitTracker cfg.coinMap
      cfg.quoteCoin
    { books with
      portfolio := portfolio
      exitTracker := exitTracker
      trades := books.trades ++ trades.map fun t =>
        { t with executedAt := some timestamp, backtest := some cfg.backtest.id } }

def Books.revalue (books : Books) (prices : OrdMap CoinId ℚ) : Books :=
  { books with portfolio := updateValues books.portfolio prices }

@[simp] theorem Books.revalue_portfolio (books : Books) (prices : OrdMap CoinId ℚ) :
    (books.revalue prices).portfolio = updateValues books.portfolio prices := rfl

/-- A buy is held back while its coin cools down. The tracker drops a cooldown that has expired. -/
def passesCooldown (currentBar : ℕ) (books : Books) (signal : TradingSignal) : Bool × Books :=
  match books.exitTracker with
  | none => (true, books)
  | some tracker =>
    if signal.action = .buy then
      let (allowed, checked) := tracker.canEnter signal.coinId currentBar
      (allowed, { books with exitTracker := some checked })
    else (true, books)

/-! ## Events -/

structure LoopEnv where
  math : Js.Math
  cfg : TradingConfig
  /-- Whether exits are recorded in full, as they are outside optimization. -/
  fullFidelity : Bool := true
  delistingDates : OrdMap CoinId Instant := OrdMap.empty
  delistingPenalty : ℚ := 9 / 10

inductive LoopEvent where
  | revaluation (prices : OrdMap CoinId ℚ)
  | signalRow (row : BacktestSignal)
  | trade (market : BarMarket) (maxAllocation minAllocation : ℚ) (signal : TradingSignal)
  | opportunitySale (market : BarMarket) (plan : SellPlan) (candidate : SellCandidate)
      (remainingShortfall quantity : ℚ)
  | exits (market : BarMarket) (currentBar : ℕ)
  | liquidations (marketData : MarketData)
  | delistingExits (lastKnownPrices : OrdMap CoinId ℚ) (timestamp : Instant)
  | entryCheck (currentBar : ℕ) (signal : TradingSignal)

def loopStep (env : LoopEnv) (books : Books) : LoopEvent → Except LoopError Books
  | .revaluation prices => .ok (books.revalue prices)
  | .signalRow row => .ok { books with signals := books.signals ++ [row] }
  | .trade market maxAllocation minAllocation signal =>
    (tradeSignal env.math env.cfg market maxAllocation minAllocation signal books).map (·.2)
  | .opportunitySale market plan candidate remainingShortfall quantity =>
    (opportunitySale env.math env.cfg market
      (opportunitySellSignal plan candidate remainingShortfall quantity) books).map (·.2)
  | .exits market currentBar =>
    processExitSignals env.math env.cfg env.fullFidelity market currentBar books
  | .liquidations marketData => .ok (applyLiquidations env.cfg marketData books)
  | .delistingExits lastKnownPrices timestamp =>
    .ok (applyDelistingExits env.cfg env.delistingDates env.delistingPenalty lastKnownPrices
      timestamp books)
  | .entryCheck currentBar signal => .ok (passesCooldown currentBar books signal).2

/-! ## The code of a bar as events -/

def LoopEvent.On (markets : BarMarket → Prop) : LoopEvent → Prop
  | .trade market _ _ _ => markets market
  | .opportunitySale market _ _ _ _ => markets market
  | .exits market _ => markets market
  | _ => True

/-- Events that trade on these markets take the books to `after`. -/
def Reaches (env : LoopEnv) (markets : BarMarket → Prop) (books after : Books) : Prop :=
  ∃ events, run (loopStep env) books events = .ok after ∧ ∀ e ∈ events, e.On markets

section Runs

variable {env : LoopEnv} {markets : BarMarket → Prop} {market : BarMarket} {plan : SellPlan}
  {books mid after : Books}

theorem Reaches.refl : Reaches env markets books books := ⟨[], rfl, by simp⟩

theorem Reaches.trans (h : Reaches env markets books mid) (h' : Reaches env markets mid after) :
    Reaches env markets books after := by
  obtain ⟨events, hrun, hon⟩ := h
  obtain ⟨more, hmore, hon'⟩ := h'
  refine ⟨events ++ more, run_append_eq_ok.mpr ⟨mid, hrun, hmore⟩, fun e he => ?_⟩
  exact (List.mem_append.mp he).elim (hon e) (hon' e)

theorem Reaches.step (event : LoopEvent) (hon : event.On markets)
    (h : loopStep env books event = .ok after) : Reaches env markets books after := by
  refine ⟨[event], ?_, fun e he => ?_⟩
  · rw [run_cons, h]
    rfl
  · rw [List.mem_singleton.mp he]
    exact hon

theorem Reaches.foldlM {α : Type} {f : Books → α → Except LoopError Books} {as : List α}
    (hf : ∀ a b b', f b a = .ok b' → Reaches env markets b b')
    (h : as.foldlM f books = .ok after) : Reaches env markets books after :=
  foldlM_invariant (P := Reaches env markets books)
    (fun a _ b b' hb hstep => hb.trans (hf a b b' hstep)) .refl h

theorem sellCandidate_reaches (hm : markets market) {progress next : SellProgress}
    {candidate : SellCandidate}
    (h : sellCandidate env.math env.cfg market plan progress candidate = .ok next) :
    Reaches env markets progress.books next.books := by
  unfold sellCandidate at h
  simp only [pure_eq_ok] at h
  split_ifs at h
  · cases h
    exact .refl
  · cases h
    exact .refl
  · obtain ⟨⟨result?, sold⟩, hsale, h⟩ := bind_eq_ok.mp h
    have hnext : next.books = sold := by
      cases result? <;> cases h <;> rfl
    refine .step (.opportunitySale market plan candidate progress.remainingShortfall
      (min candidate.quantity (min (progress.remainingShortfall / candidate.price)
        ((plan.maxSellValue - progress.totalSellValue) / candidate.price)))) hm ?_
    rw [hnext, loopStep, hsale]
    rfl

theorem executeSellPlan_reaches (hm : markets market) {candidates : List SellCandidate}
    {sold : Bool}
    (h : executeSellPlan env.math env.cfg market plan candidates books = .ok (sold, after)) :
    Reaches env markets books after := by
  unfold executeSellPlan at h
  obtain ⟨_, hfold, h⟩ := bind_eq_ok.mp h
  cases h
  refine foldlM_invariant (P := fun p : SellProgress => Reaches env markets books p.books) ?_
    .refl hfold
  intro candidate _ progress next hreach hstep
  exact hreach.trans (sellCandidate_reaches hm hstep)

variable {signal : TradingSignal} {maxAllocation minAllocation : ℚ}

theorem attemptOpportunitySelling_reaches (hm : markets market) {sold : Bool}
    (h : attemptOpportunitySelling env.math env.cfg market signal maxAllocation minAllocation
      books = .ok (sold, after)) : Reaches env markets books after := by
  unfold attemptOpportunitySelling at h
  simp only [pure_eq_ok] at h
  split at h
  · cases h
    exact .refl
  split at h
  · cases h
    exact .refl
  obtain ⟨_, -, h⟩ := bind_eq_ok.mp h
  split at h
  · cases h
    exact .refl
  split at h
  · cases h
    exact .refl
  · exact executeSellPlan_reaches hm h

theorem tradeSignal_reaches (hm : markets market) {traded : Bool}
    (h : tradeSignal env.math env.cfg market maxAllocation minAllocation signal books =
      .ok (traded, after)) : Reaches env markets books after := by
  refine .step (.trade market maxAllocation minAllocation signal) hm ?_
  rw [loopStep, h]
  rfl

theorem processSignalTrade_reaches (hm : markets market)
    (h : processSignalTrade env.math env.cfg market maxAllocation minAllocation books signal =
      .ok after) : Reaches env markets books after := by
  unfold processSignalTrade at h
  obtain ⟨⟨_, _⟩, htrade, h⟩ := bind_eq_ok.mp h
  have hrow : Reaches env markets books
      { books with signals := books.signals ++ [signalRecord env.cfg market signal] } :=
    .step (.signalRow (signalRecord env.cfg market signal)) trivial rfl
  have hbkd := hrow.trans (tradeSignal_reaches hm htrade)
  simp only [pure_eq_ok] at h
  split_ifs at h
  · obtain ⟨⟨_, _⟩, hsell, h⟩ := bind_eq_ok.mp h
    have hfreed := hbkd.trans (attemptOpportunitySelling_reaches hm hsell)
    split_ifs at h
    · obtain ⟨⟨_, _⟩, hretry, h⟩ := bind_eq_ok.mp h
      cases h
      exact hfreed.trans (tradeSignal_reaches hm hretry)
    · cases h
      exact hfreed
  · cases h
    exact hbkd

end Runs

/-! ## Events on the portfolio -/

/-- The set-up of a run as far as its portfolio depends on it. -/
structure LoopEnv.Slipped (env : LoopEnv) (penv : PortfolioEnv) : Prop where
  math : penv.math = env.math
  slippage : env.cfg.slippageConfig = buildSlippageConfig penv.slippage penv.regimeRiskLevel
  coinMap : penv.coinMap = env.cfg.coinMap
  quoteCoin : penv.quoteCoin = env.cfg.quoteCoin
  delistingDates : penv.delistingDates = env.delistingDates
  delistingPenalty : penv.delistingPenalty = env.delistingPenalty

section Portfolio

variable {env : LoopEnv} {penv : PortfolioEnv} {market : BarMarket} {books after : Books}

theorem executeTrade_run (hs : env.Slipped penv) {order : ExecuteTradeParams}
    (horder : order.slippageConfig = env.cfg.slippageConfig) {result? : Option ExecuteTradeResult}
    {portfolio next : Portfolio} (h : executeTrade env.math order portfolio = .ok (result?, next)) :
    run (portfolioStep penv) portfolio [.signal order] = .ok next := by
  have hsame : penv.order order = order := by
    unfold PortfolioEnv.order
    rw [← hs.slippage, ← horder]
  rw [run_cons, portfolioStep, hsame, hs.math, h]
  rfl

@[simp] theorem bookExit_portfolio (cfg : TradingConfig) (fullFidelity : Bool) (market : BarMarket)
    (exitSig : ExitSignal) (books : Books) (result? : Option ExecuteTradeResult) :
    (bookExit cfg fullFidelity market exitSig books result?).portfolio = books.portfolio := by
  unfold bookExit
  cases result? with
  | none => rfl
  | some =>
    dsimp only
    split_ifs <;> rfl

@[simp] theorem bookSale_portfolio (cfg : TradingConfig) (market : BarMarket)
    (signal : TradingSignal) (books : Books) (result? : Option ExecuteTradeResult) :
    (bookSale cfg market signal books result?).portfolio = books.portfolio := by
  unfold bookSale
  cases result? with
  | none => rfl
  | some =>
    dsimp only
    split_ifs <;> rfl

section

variable {cfg : TradingConfig} {timestamp : Instant} {signal : TradingSignal}
  {result : ExecuteTradeResult}
  (h : recordTradeResult cfg timestamp signal result books = .ok after)

include h

theorem recordTradeResult_kept :
    after.portfolio = books.portfolio ∧
      (after.exitTracker = books.exitTracker ∨
        after.exitTracker = books.exitTracker.map fun t => trackTrade t signal result.trade) := by
  unfold recordTradeResult at h
  split at h
  · cases h
    exact ⟨rfl, .inl rfl⟩
  · split at h
    · cases h
    · cases h
      exact ⟨rfl, .inr rfl⟩

theorem recordTradeResult_portfolio :
    after.portfolio = books.portfolio := (recordTradeResult_kept h).1

end

theorem fillExit_run (hs : env.Slipped penv) {exitSig : ExitSignal}
    (h : fillExit env.math env.cfg env.fullFidelity market books exitSig = .ok after) :
    run (portfolioStep penv) books.portfolio
      [.signal (exitOrder env.cfg env.fullFidelity market exitSig)] = .ok after.portfolio := by
  unfold fillExit at h
  obtain ⟨⟨result?, _⟩, htrade, h⟩ := bind_eq_ok.mp h
  cases h
  rw [bookExit_portfolio]
  exact executeTrade_run hs rfl htrade

theorem loopStep_portfolio (hs : env.Slipped penv) {event : LoopEvent}
    (h : loopStep env books event = .ok after) :
    ∃ events, run (portfolioStep penv) books.portfolio events = .ok after.portfolio := by
  cases event with
  | revaluation prices =>
    cases h
    exact ⟨[.revaluation prices], rfl⟩
  | signalRow =>
    cases h
    exact ⟨[], rfl⟩
  | trade =>
    obtain ⟨⟨_, booked⟩, htrade, rfl⟩ := map_eq_ok.mp h
    unfold tradeSignal at htrade
    obtain ⟨⟨result?, portfolio⟩, hexec, htrade⟩ := bind_eq_ok.mp htrade
    have hafter : booked.portfolio = portfolio := by
      cases result? with
      | none =>
        cases htrade
        rfl
      | some =>
        obtain ⟨_, hrec, htrade⟩ := bind_eq_ok.mp htrade
        cases htrade
        exact recordTradeResult_portfolio hrec
    exact ⟨_, by rw [hafter]; exact executeTrade_run hs rfl hexec⟩
  | opportunitySale =>
    obtain ⟨⟨result?', _⟩, hsale, rfl⟩ := map_eq_ok.mp h
    unfold opportunitySale at hsale
    obtain ⟨⟨result?, _⟩, hexec, hsale⟩ := bind_eq_ok.mp hsale
    cases hsale
    exact ⟨_, by rw [bookSale_portfolio]; exact executeTrade_run hs rfl hexec⟩
  | exits market currentBar =>
    change processExitSignals env.math env.cfg env.fullFidelity market currentBar books = _ at h
    unfold processExitSignals at h
    split at h
    · cases h
      exact ⟨[], rfl⟩
    · refine foldlM_invariant (P := fun b : Books =>
        ∃ events, run (portfolioStep penv) books.portfolio events = .ok b.portfolio) ?_ ?_ h
      · rintro exitSig - b b' ⟨events, hrun⟩ hstep
        exact ⟨events ++ _, run_append_eq_ok.mpr ⟨_, hrun, fillExit_run hs hstep⟩⟩
      · exact ⟨[], rfl⟩
  | liquidations marketData =>
    cases h
    refine ⟨[.liquidations marketData], ?_⟩
    simp only [run_cons, portfolioStep, hs.coinMap, hs.quoteCoin, ok_bind, run_nil]
    rfl
  | delistingExits lastKnownPrices timestamp =>
    cases h
    unfold applyDelistingExits
    split_ifs with hsize
    · exact ⟨[], rfl⟩
    · refine ⟨[.delistingExits lastKnownPrices timestamp], ?_⟩
      simp only [run_cons, portfolioStep, hs.coinMap, hs.quoteCoin, hs.delistingDates,
        hs.delistingPenalty, ok_bind, run_nil]
      rfl
  | entryCheck =>
    cases h
    refine ⟨[], ?_⟩
    unfold passesCooldown
    cases books.exitTracker with
    | none => rfl
    | some =>
      dsimp only
      split_ifs <;> rfl

end Portfolio

/-! ## Events on the exit tracker -/

section ExitTracker

variable {env : LoopEnv} {market : BarMarket} {books after : Books}

def Books.exitConfig (books : Books) : Option ExitConfig := books.exitTracker.map (·.config)

@[simp] theorem bookExit_exitConfig (cfg : TradingConfig) (fullFidelity : Bool) (market : BarMarket)
    (exitSig : ExitSignal) (books : Books) (result? : Option ExecuteTradeResult) :
    (bookExit cfg fullFidelity market exitSig books result?).exitConfig = books.exitConfig := by
  unfold bookExit Books.exitConfig
  cases result? with
  | none => rfl
  | some =>
    dsimp only
    split_ifs <;> simp [Function.comp_def, BacktestExitTracker.config_removePosition]

@[simp] theorem bookSale_exitConfig (cfg : TradingConfig) (market : BarMarket)
    (signal : TradingSignal) (books : Books) (result? : Option ExecuteTradeResult) :
    (bookSale cfg market signal books result?).exitConfig = books.exitConfig := by
  unfold bookSale
  cases result? with
  | none => rfl
  | some =>
    dsimp only
    split_ifs <;> rfl

theorem trackTrade_config (tracker : BacktestExitTracker) (signal : TradingSignal)
    (trade : BacktestTrade) : (trackTrade tracker signal trade).config = tracker.config := by
  unfold trackTrade
  split <;> simp [BacktestExitTracker.config_onBuy]

theorem recordTradeResult_exitConfig {cfg : TradingConfig} {timestamp : Instant}
    {signal : TradingSignal} {result : ExecuteTradeResult}
    (h : recordTradeResult cfg timestamp signal result books = .ok after) :
    after.exitConfig = books.exitConfig := by
  obtain ⟨-, hsame | htrd⟩ := recordTradeResult_kept h
  · rw [Books.exitConfig, Books.exitConfig, hsame]
  · simp only [Books.exitConfig, htrd, Option.map_map, Function.comp_def, trackTrade_config]

theorem fillExit_exitConfig {exitSig : ExitSignal}
    (h : fillExit env.math env.cfg env.fullFidelity market books exitSig = .ok after) :
    after.exitConfig = books.exitConfig := by
  unfold fillExit at h
  obtain ⟨⟨result?, _⟩, -, h⟩ := bind_eq_ok.mp h
  cases h
  rw [bookExit_exitConfig]
  split_ifs <;> rfl

theorem loopStep_exitConfig {event : LoopEvent} (h : loopStep env books event = .ok after) :
    after.exitConfig = books.exitConfig := by
  cases event with
  | trade =>
    obtain ⟨⟨traded, booked⟩, htrade, rfl⟩ := map_eq_ok.mp h
    unfold tradeSignal at htrade
    obtain ⟨⟨result?, portfolio⟩, -, htrade⟩ := bind_eq_ok.mp htrade
    cases result? with
    | none =>
      cases htrade
      rfl
    | some =>
      obtain ⟨recorded, hrec, htrade⟩ := bind_eq_ok.mp htrade
      cases htrade
      have hrecorded := recordTradeResult_exitConfig hrec
      exact hrecorded
  | opportunitySale =>
    obtain ⟨⟨result?', booked⟩, hsale, rfl⟩ := map_eq_ok.mp h
    unfold opportunitySale at hsale
    obtain ⟨⟨result?, portfolio⟩, -, hsale⟩ := bind_eq_ok.mp hsale
    cases hsale
    rw [bookSale_exitConfig]
    rfl
  | exits market currentBar =>
    change processExitSignals env.math env.cfg env.fullFidelity market currentBar books = _ at h
    unfold processExitSignals at h
    split at h
    · cases h
      rfl
    · rename_i tracker htr
      refine foldlM_invariant (P := fun b : Books => b.exitConfig = books.exitConfig) ?_ ?_ h
      · intro exitSig _ b b' hb hstep
        rw [fillExit_exitConfig hstep, hb]
      · have hchk : (triggeredExits market tracker currentBar).1.config = tracker.config :=
          tracker.config_checkExits _ _ _ _
        rw [Books.exitConfig, Books.exitConfig, htr, Option.map_some, Option.map_some]
        exact congrArg some hchk
  | delistingExits =>
    cases h
    unfold applyDelistingExits
    split_ifs
    · rfl
    · have hfold : ∀ (delisted : List (CoinId × Position × Instant))
          (tracker : BacktestExitTracker),
          (delisted.foldl (fun t e => t.removePosition e.1) tracker).config = tracker.config := by
        intro delisted
        induction delisted with
        | nil => exact fun tracker => rfl
        | cons e delisted ih => exact fun tracker => ih (tracker.removePosition e.1)
      simp only [Books.exitConfig, checkAndApplyDelistingExits, Option.map_map,
        Function.comp_def, hfold]
  | entryCheck =>
    cases h
    unfold passesCooldown Books.exitConfig
    cases htr : books.exitTracker with
    | none => simp [htr]
    | some =>
      dsimp only
      split_ifs
      · simp
      · simp [htr]
  | _ =>
    cases h
    rfl

theorem Reaches.exitConfig {markets : BarMarket → Prop} (h : Reaches env markets books after) :
    after.exitConfig = books.exitConfig := by
  obtain ⟨_, hrun, -⟩ := h
  refine foldlM_invariant (P := fun b : Books => b.exitConfig = books.exitConfig) ?_ rfl hrun
  intro event _ b b' hb hstep
  rw [loopStep_exitConfig hstep, hb]

end ExitTracker

end Chansey
