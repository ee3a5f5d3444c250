import Chansey.Executor.Context
import Chansey.Loop.Bar

/-!
# What the code of a bar does not read

The candles of the bars before are read by the spread-adjusted slippage model alone, and the last
known prices only for coins that are held when a coin is delisted.
-/

namespace Chansey

open Result Run

/-! ## Markets that fill alike -/

structure FillsAlike (math : Js.Math) (cfg : TradingConfig) (market market' : BarMarket) : Prop where
  marketData : market.marketData = market'.marketData
  order : ∀ signal minHoldMs maxAllocation minAllocation portfolio,
    executeTrade math (cfg.order market signal minHoldMs maxAllocation minAllocation) portfolio =
      executeTrade math (cfg.order market' signal minHoldMs maxAllocation minAllocation) portfolio

section Alike

variable {math : Js.Math} {cfg : TradingConfig} {market market' : BarMarket}
  (h : FillsAlike math cfg market market')

include h

theorem tradeSignal_alike (maxAllocation minAllocation : ℚ) (signal : TradingSignal)
    (books : Books) :
    tradeSignal math cfg market maxAllocation minAllocation signal books =
      tradeSignal math cfg market' maxAllocation minAllocation signal books := by
  unfold tradeSignal
  rw [h.order, h.marketData]

theorem opportunitySale_alike (signal : TradingSignal) (books : Books) :
    opportunitySale math cfg market signal books =
      opportunitySale math cfg market' signal books := by
  unfold opportunitySale opportunityOrder bookSale
  rw [h.order, h.marketData]

theorem executeSellPlan_alike (plan : SellPlan) (candidates : List SellCandidate) (books : Books) :
    executeSellPlan math cfg market plan candidates books =
      executeSellPlan math cfg market' plan candidates books := by
  have hstep : sellCandidate math cfg market plan = sellCandidate math cfg market' plan := by
    funext progress candidate
    simp only [sellCandidate, opportunitySale_alike h]
  rw [executeSellPlan, executeSellPlan, hstep]

theorem attemptOpportunitySelling_alike (signal : TradingSignal) (maxAllocation minAllocation : ℚ)
    (books : Books) :
    attemptOpportunitySelling math cfg market signal maxAllocation minAllocation books =
      attemptOpportunitySelling math cfg market' signal maxAllocation minAllocation books := by
  unfold attemptOpportunitySelling
  simp only [executeSellPlan_alike h, h.marketData]

theorem processSignalTrade_alike (maxAllocation minAllocation : ℚ) (books : Books)
    (signal : TradingSignal) :
    processSignalTrade math cfg market maxAllocation minAllocation books signal =
      processSignalTrade math cfg market' maxAllocation minAllocation books signal := by
  have hrec : signalRecord cfg market signal = signalRecord cfg market' signal := by
    unfold signalRecord
    rw [h.marketData]
  unfold processSignalTrade
  simp only [hrec, tradeSignal_alike h, attemptOpportunitySelling_alike h]

end Alike

/-! ## The candles of the bars before -/

/-- The run prices every order alike with either of the two. -/
def SameSpread (cfg : TradingConfig) (prev prev' : OrdMap CoinId OHLCCandle) : Prop :=
  prev = prev' ∨ cfg.slippageConfig.type ≠ .spreadAdjusted

def BarMarket.withPrev (market : BarMarket) (prev : OrdMap CoinId OHLCCandle) : BarMarket :=
  { market with prevCandleMap := prev }

section Spread

variable (math : Js.Math) {cfg : TradingConfig} (market : BarMarket)
  {prev prev' : OrdMap CoinId OHLCCandle} (h : SameSpread cfg prev prev')

include h

theorem executeTrade_prev (signal : TradingSignal) (minHoldMs : ℤ) (maxAllocation minAllocation : ℚ)
    (volume : Option ℚ) (portfolio : Portfolio) :
    executeTrade math
        { cfg.order (market.withPrev prev) signal minHoldMs maxAllocation minAllocation with
          dailyVolume := volume } portfolio =
      executeTrade math
        { cfg.order (market.withPrev prev') signal minHoldMs maxAllocation minAllocation with
          dailyVolume := volume } portfolio := by
  rcases h with rfl | htype
  · rfl
  · let order : ExecuteTradeParams :=
      { cfg.order (market.withPrev prev') signal minHoldMs maxAllocation minAllocation with
        dailyVolume := volume }
    have hspread : ∀ spread, executeTrade math { order with spreadContext := spread } portfolio =
        executeTrade math order portfolio := executeTrade_spreadContext htype
    exact hspread (buildSpreadContext (candleMap market.currentPrices) signal.coinId prev)

theorem processSignalTrade_prev (maxAllocation minAllocation : ℚ) (books : Books)
    (signal : TradingSignal) :
    processSignalTrade math cfg (market.withPrev prev) maxAllocation minAllocation books signal =
      processSignalTrade math cfg (market.withPrev prev') maxAllocation minAllocation books
        signal := by
  have halike : FillsAlike math cfg (market.withPrev prev) (market.withPrev prev') :=
    { marketData := rfl
      order := fun signal minHoldMs maxA minA portfolio =>
        executeTrade_prev math market h signal minHoldMs maxA minA
          (extractDailyVolume (candleMap market.currentPrices) signal.coinId) portfolio }
  exact processSignalTrade_alike halike maxAllocation minAllocation books signal

theorem processExitSignals_prev (fullFidelity : Bool) (currentBar : ℕ) (books : Books) :
    processExitSignals math cfg fullFidelity (market.withPrev prev) currentBar books =
      processExitSignals math cfg fullFidelity (market.withPrev prev') currentBar books := by
  have hfill : fillExit math cfg fullFidelity (market.withPrev prev) =
      fillExit math cfg fullFidelity (market.withPrev prev') := by
    funext b exitSig
    have htrade := executeTrade_prev math market h
      (exitTradingSignal fullFidelity exitSig) 0 cfg.maxAllocation cfg.minAllocation
      (if fullFidelity then extractDailyVolume (candleMap market.currentPrices) exitSig.coinId
        else none) b.portfolio
    change executeTrade math (exitOrder cfg fullFidelity (market.withPrev prev) exitSig)
      b.portfolio = executeTrade math (exitOrder cfg fullFidelity (market.withPrev prev') exitSig)
      b.portfolio at htrade
    unfold fillExit
    rw [htrade]
    rfl
  unfold processExitSignals
  rw [hfill]
  rfl

end Spread

/-! ## The last known prices -/

theorem get?_updateLastKnownPrices (lastKnown prices : OrdMap CoinId ℚ) (c : CoinId) :
    (updateLastKnownPrices lastKnown prices).get? c = (prices.get? c).or (lastKnown.get? c) :=
  OrdMap.get?_foldl_set lastKnown prices c

section LastKnown

variable {lastKnown lastKnown' : OrdMap CoinId ℚ}

theorem checkAndApplyDelistingExits_lastKnown (portfolio : Portfolio)
    (dates : OrdMap CoinId Instant) (timestamp : Instant) (penalty : ℚ)
    (exitTracker : Option BacktestExitTracker) (coinMap : OrdMap CoinId Coin) (quoteCoin : Coin)
    (h : ∀ c ∈ portfolio.positions.keys, lastKnown.get? c = lastKnown'.get? c) :
    checkAndApplyDelistingExits portfolio dates lastKnown timestamp penalty exitTracker coinMap
        quoteCoin =
      checkAndApplyDelistingExits portfolio dates lastKnown' timestamp penalty exitTracker coinMap
        quoteCoin := by
  have hheld : ∀ e ∈ delistedPositions portfolio dates timestamp,
      lastKnown.get? e.1 = lastKnown'.get? e.1 := by
    intro e he
    have hget := (mem_delistedPositions.mp he).1
    exact h e.1 (OrdMap.get?_isSome_iff.mp (by rw [hget]; rfl))
  have hpenalty : ∀ e ∈ delistedPositions portfolio dates timestamp, ∀ rate,
      penaltyPrice lastKnown rate e.1 e.2.1 = penaltyPrice lastKnown' rate e.1 e.2.1 := by
    intro e he rate
    rw [penaltyPrice, penaltyPrice, hheld e he]
  have htrades : (delistedPositions portfolio dates timestamp).map (fun e =>
        delistingTrade lastKnown (min 1 (max 0 penalty)) coinMap quoteCoin e.1 e.2.1 e.2.2) =
      (delistedPositions portfolio dates timestamp).map fun e =>
        delistingTrade lastKnown' (min 1 (max 0 penalty)) coinMap quoteCoin e.1 e.2.1 e.2.2 := by
    refine List.map_congr_left fun e he => ?_
    simp only [delistingTrade, hpenalty e he, hheld e he]
  have hcash : (delistedPositions portfolio dates timestamp).map (fun e =>
        e.2.1.quantity * penaltyPrice lastKnown (min 1 (max 0 penalty)) e.1 e.2.1) =
      (delistedPositions portfolio dates timestamp).map fun e =>
        e.2.1.quantity * penaltyPrice lastKnown' (min 1 (max 0 penalty)) e.1 e.2.1 := by
    refine List.map_congr_left fun e he => ?_
    rw [hpenalty e he]
  let remaining := (delistedPositions portfolio dates timestamp).foldl
    (fun m e => m.erase e.1) portfolio.positions
  have hvalue : calculatePositionsValue remaining lastKnown =
      calculatePositionsValue remaining lastKnown' := by
    refine OrdMap.sumBy_congr fun e he => ?_
    have hget : remaining.get? e.1 = some e.2 := OrdMap.get?_eq_some_iff.mpr he
    have hkept : portfolio.positions.get? e.1 = some e.2 := by
      rw [get?_foldl_erase] at hget
      split_ifs at hget
      exact hget
    rw [h e.1 (OrdMap.get?_isSome_iff.mp (by rw [hkept]; rfl))]
  unfold checkAndApplyDelistingExits
  simp only [htrades, hcash]
  change (_, { portfolio with
    cashBalance := _, positions := _, totalValue := if _ then _ else _ + calculatePositionsValue
      remaining lastKnown }, _) = _
  rw [hvalue]

theorem applyForcedExits_lastKnown (cfg : LoopConfig) (books : Books) (marketData : MarketData)
    (h : cfg.delistingDates.size = 0 ∨
      ∀ c ∈ books.portfolio.positions.keys, lastKnown.get? c = lastKnown'.get? c) :
    applyForcedExits cfg marketData lastKnown books =
      applyForcedExits cfg marketData lastKnown' books := by
  unfold applyForcedExits applyDelistingExits
  split_ifs with hsize
  · rfl
  · have hheld := h.resolve_left hsize
    have hkept : ∀ c ∈ (applyLiquidations cfg.cfg marketData books).portfolio.positions.keys,
        lastKnown.get? c = lastKnown'.get? c := by
      intro c hc
      refine hheld c (OrdMap.get?_isSome_iff.mp ?_)
      have hsome := OrdMap.get?_isSome_iff.mpr hc
      change ((checkAndApplyLiquidations books.portfolio marketData cfg.cfg.coinMap
        cfg.cfg.quoteCoin).2.positions.get? c).isSome at hsome
      rw [liquidations_get?] at hsome
      cases hget : books.portfolio.positions.get? c with
      | none =>
        rw [hget] at hsome
        cases hsome
      | some => rfl
    rw [checkAndApplyDelistingExits_lastKnown _ _ _ _ _ _ _ hkept]

end LastKnown

/-! ## The coins held -/

section Coins

variable {env : LoopEnv} {books after : Books} {coins : CoinId → Prop} {market : BarMarket}

def Books.HoldsIn (books : Books) (coins : CoinId → Prop) : Prop :=
  ∀ c ∈ books.portfolio.positions.keys, coins c

def BarMarket.PricesIn (market : BarMarket) (coins : CoinId → Prop) : Prop :=
  ∀ c ∈ market.marketData.prices.keys, coins c

variable {portfolio portfolio' : Portfolio} {params : ExecuteTradeParams}

theorem holdsIn_of_get? (hsub : ∀ c, (portfolio'.positions.get? c).isSome →
      (portfolio.positions.get? c).isSome ∨ coins c) (h : ∀ c ∈ portfolio.positions.keys, coins c) :
    ∀ c ∈ portfolio'.positions.keys, coins c := by
  intro c hc
  rcases hsub c (OrdMap.get?_isSome_iff.mpr hc) with hold | hnew
  · exact h c (OrdMap.get?_isSome_iff.mp hold)
  · exact hnew

theorem get?_isSome_booked {math : Js.Math} {base : ℚ} {portfolio booked : Portfolio}
    {result : ActionResult} (h : BookedAction math params base portfolio result booked) (c : CoinId)
    (hc : (booked.positions.get? c).isSome) :
    (portfolio.positions.get? c).isSome ∨ c = params.signal.coinId := by
  by_cases heq : params.signal.coinId = c
  · exact .inr heq.symm
  · left
    cases h with
    | buy =>
      rwa [bookBuy_get?, if_neg heq] at hc
    | sell =>
      rwa [bookSell_get?, if_neg heq] at hc
    | openShort =>
      rwa [bookOpenShort_get?, if_neg heq] at hc
    | closeShort =>
      rwa [bookCloseShort_get?, if_neg heq] at hc

theorem executeTrade_coins {math : Js.Math} {result? : Option ExecuteTradeResult}
    (htrade : executeTrade math params portfolio = .ok (result?, portfolio'))
    (hprs : ∀ c ∈ params.marketData.prices.keys, coins c)
    (h : ∀ c ∈ portfolio.positions.keys, coins c) : ∀ c ∈ portfolio'.positions.keys, coins c := by
  cases result? with
  | none =>
    rw [executeTrade_none htrade]
    exact h
  | some =>
    rcases executeTrade_some htrade with ⟨-, rfl⟩ | ⟨-, hfld⟩
    · exact h
    · obtain ⟨_, _, _, _, hprice, -, -, hbkd, -, -, rfl⟩ := hfld.exists_booking
      refine holdsIn_of_get? (fun c hc => ?_) h
      rcases get?_isSome_booked hbkd c hc with hold | rfl
      · exact .inl hold
      · exact .inr (hprs _ (OrdMap.get?_isSome_iff.mp (by rw [hprice]; rfl)))

theorem loopStep_coins {event : LoopEvent} (hon : event.On fun m => m.PricesIn coins)
    (hbooks : books.HoldsIn coins) (h : loopStep env books event = .ok after) :
    after.HoldsIn coins := by
  cases event with
  | revaluation =>
    cases h
    unfold Books.HoldsIn
    rw [Books.revalue_portfolio, updateValues_keys]
    exact hbooks
  | signalRow =>
    cases h
    exact hbooks
  | trade market =>
    obtain ⟨⟨_, _⟩, htrade, rfl⟩ := map_eq_ok.mp h
    unfold tradeSignal at htrade
    obtain ⟨⟨result?, _⟩, hexec, htrade⟩ := bind_eq_ok.mp htrade
    have hprs : market.PricesIn coins := hon
    have hheld := executeTrade_coins hexec hprs hbooks
    cases result? with
    | none =>
      cases htrade
      exact hheld
    | some =>
      obtain ⟨_, hrec, htrade⟩ := bind_eq_ok.mp htrade
      cases htrade
      unfold Books.HoldsIn
      rw [recordTradeResult_portfolio hrec]
      exact hheld
  | opportunitySale market =>
    obtain ⟨⟨result?', _⟩, hsale, rfl⟩ := map_eq_ok.mp h
    unfold opportunitySale at hsale
    obtain ⟨⟨result?, _⟩, hexec, hsale⟩ := bind_eq_ok.mp hsale
    cases hsale
    have hprs : market.PricesIn coins := hon
    unfold Books.HoldsIn
    rw [bookSale_portfolio]
    exact executeTrade_coins hexec hprs hbooks
  | exits market currentBar =>
    change processExitSignals env.math env.cfg env.fullFidelity market currentBar books = _ at h
    unfold processExitSignals at h
    split at h
    · cases h
      exact hbooks
    · have hprs : market.PricesIn coins := hon
      refine foldlM_invariant (P := fun b : Books => b.HoldsIn coins) ?_ ?_ h
      · intro exitSig _ b b' hb hstep
        unfold fillExit at hstep
        obtain ⟨⟨result?, _⟩, hexec, hstep⟩ := bind_eq_ok.mp hstep
        cases hstep
        unfold Books.HoldsIn
        rw [bookExit_portfolio]
        exact executeTrade_coins hexec hprs hb
      · exact hbooks
  | liquidations marketData =>
    cases h
    refine holdsIn_of_get? (fun c hc => .inl ?_) hbooks
    change ((checkAndApplyLiquidations books.portfolio marketData env.cfg.coinMap
      env.cfg.quoteCoin).2.positions.get? c).isSome at hc
    rw [liquidations_get?] at hc
    cases hget : books.portfolio.positions.get? c with
    | none =>
      rw [hget] at hc
      cases hc
    | some => rfl
  | delistingExits lastKnownPrices timestamp =>
    cases h
    unfold applyDelistingExits
    split_ifs
    · exact hbooks
    · refine holdsIn_of_get? (fun c hc => .inl ?_) hbooks
      change ((checkAndApplyDelistingExits books.portfolio env.delistingDates lastKnownPrices
        timestamp env.delistingPenalty books.exitTracker env.cfg.coinMap
        env.cfg.quoteCoin).2.1.positions.get? c).isSome at hc
      rw [delistingExits_get?] at hc
      split_ifs at hc
      · cases hc
      · exact hc
  | entryCheck =>
    cases h
    unfold passesCooldown
    cases books.exitTracker with
    | none => exact hbooks
    | some =>
      dsimp only
      split_ifs <;> exact hbooks

theorem Reaches.holdsIn (h : Reaches env (fun m => m.PricesIn coins) books after)
    (hbooks : books.HoldsIn coins) : after.HoldsIn coins := by
  obtain ⟨_, hrun, hon⟩ := h
  refine foldlM_invariant (P := fun b : Books => b.HoldsIn coins) ?_ hbooks hrun
  intro event hevent b b' hb hstep
  exact loopStep_coins (hon event hevent) hb hstep

end Coins

end Chansey
