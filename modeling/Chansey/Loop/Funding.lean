import Chansey.Executor.TradeSpec
import Chansey.Loop.SignalTrade

/-!
# Selling to fund a buy

When a buy gives no trade the loop sells positions and tries it again.

* `LacksCash`, `Affords`: a buy that only cash stops, and one that nothing stops;
  **`executes_iff`**: a buy executes exactly when nothing stops it.
* `plannedSales`: the sales of the selling step with what the market takes of each, from the
  candidates alone. `afterSales`: the portfolio they leave.
  **`attemptOpportunitySelling_planned`**: the step makes these sales and no other.
-/

namespace Chansey

open Result

/-! ## What a buy needs -/

section Buys

variable (math : Js.Math) (params : ExecuteTradeParams) (portfolio : Portfolio)

/-- What the market makes of the buy, sized on `portfolio`, when the coin is at `price`. -/
def buyFill (price : ℚ) : Except LoopError FillOutcome :=
  applySlippageAndFill math params (resolveBasePrice params.signal price)
    (calculateBuyQuantity params.signal portfolio.totalValue (resolveBasePrice params.signal price)
      params.maxAllocation params.minAllocation).quantity true none

/-- A buy that only cash can stop: its coin has a price and no position, deployment is below its
cap, and the market fills it. -/
structure Fundable (fill : SlippageFillResult) : Prop where
  filled : ∃ price, params.marketData.prices.get? params.signal.coinId = some price ∧ price ≠ 0 ∧
    buyFill math params portfolio price = .ok (.filled fill)
  unconflicted : validatePositionConflicts params.signal portfolio = true
  undeployed : deploymentRatio portfolio < MAX_PORTFOLIO_DEPLOYMENT

def buyCost (fill : SlippageFillResult) : ℚ :=
  fill.quantity * fill.price + fill.quantity * fill.price * params.tradingFee

def LacksCash : Prop :=
  ∃ fill, Fundable math params portfolio fill ∧ portfolio.cashBalance < buyCost params fill

def Affords : Prop :=
  ∃ fill, Fundable math params portfolio fill ∧ 0 ≤ params.tradingFee ∧
    0 ≤ fill.quantity * fill.price ∧ buyCost params fill ≤ portfolio.cashBalance

def Executes : Prop :=
  ∃ result after, executeTrade math params portfolio = .ok (some result, after) ∧
    result.fillStatus ≠ .cancelled

variable {math params portfolio}

theorem executes_iff (hact : params.signal.action = .buy) :
    Executes math params portfolio ↔ Affords math params portfolio := by
  constructor
  · rintro ⟨_, _, htrade, hstat⟩
    obtain ⟨hcanc, -⟩ | ⟨-, hfld⟩ := executeTrade_some htrade
    · exact absurd hcanc.1 hstat
    obtain ⟨price, _, _, fee, hprice, hne, hvalid, hbkd, hfee, -, -⟩ := hfld.exists_booking
    cases hbkd with
    | buy fill fee hact hfill hdeploy hfee hcash =>
      obtain ⟨hrate, hvalue, rfl⟩ := flatFee_eq_ok.mp hfee
      exact ⟨fill, ⟨⟨price, hprice, hne, hfill⟩, hvalid, not_le.mp hdeploy⟩, hrate, hvalue, hcash⟩
    | sell existing fill hsell => simp [hact] at hsell
    | openShort fill fee hshort => simp [hact] at hshort
    | closeShort existing fill hclose => simp [hact] at hclose
  · rintro ⟨fill, ⟨⟨price, hprice, hne, hfill⟩, hvalid, hdeploy⟩, hrate, hvalue, hcash⟩
    have hfee : flatFee (fill.quantity * fill.price) params.tradingFee =
        .ok (fill.quantity * fill.price * params.tradingFee) :=
      flatFee_eq_ok.mpr ⟨hrate, hvalue, rfl⟩
    have hprice' : Js.truthy? (params.marketData.prices.get? params.signal.coinId) = some price :=
      Js.truthy?_eq_some.mpr ⟨hprice, hne⟩
    have hcash' : ¬ portfolio.cashBalance <
        fill.quantity * fill.price + fill.quantity * fill.price * params.tradingFee :=
      not_lt.mpr hcash
    unfold buyFill at hfill
    simp only [Executes, executeTrade, hprice', hact, hvalid, executeAction, executeBuy,
      not_le.mpr hdeploy, hfill, hfee, hcash', ok_bind, if_false, reduceCtorEq, not_true_eq_false,
      feeBaseValue, pure_eq_ok]
    exact ⟨_, _, rfl, (applySlippageAndFill_filled hfill).2.2.1⟩

theorem executeTrade_sell {price : ℚ} {existing : Position} {result? : Option ExecuteTradeResult}
    {after : Portfolio} (hact : params.signal.action = .sell)
    (hprice : params.marketData.prices.get? params.signal.coinId = some price) (hne : price ≠ 0)
    (hget : portfolio.positions.get? params.signal.coinId = some existing)
    (hqty : existing.quantity ≠ 0) (hhold : params.minHoldMs = 0)
    (h : executeTrade math params portfolio = .ok (result?, after)) :
    ∃ outcome, applySlippageAndFill math params (resolveBasePrice params.signal price)
        (calculateSellQuantity params.signal existing.quantity).quantity false
        (some existing.quantity) = .ok outcome ∧
      match outcome with
      | .cancelled rejected => result? = some rejected ∧ after = portfolio
      | .filled fill =>
        (∃ result, result? = some result ∧ result.fillStatus = fill.fillStatus ∧
          result.trade.quantity = fill.quantity ∧ result.trade.price = fill.price) ∧
        after = settleFee
          (bookSell portfolio params.signal.coinId existing fill.quantity fill.price)
          (fill.quantity * fill.price * params.tradingFee) params.marketData.prices := by
  have hprice' : Js.truthy? (params.marketData.prices.get? params.signal.coinId) = some price :=
    Js.truthy?_eq_some.mpr ⟨hprice, hne⟩
  simp only [executeTrade, hprice', hact, executeAction, executeSell, hget, hqty, hhold,
    validatePositionConflicts, lt_irrefl, and_false, false_and, if_false, reduceCtorEq,
    not_true_eq_false, feeBaseValue, pure_eq_ok] at h
  obtain ⟨_, hact, h⟩ := bind_eq_ok.mp h
  obtain ⟨outcome, hfill, hact⟩ := bind_eq_ok.mp hact
  refine ⟨outcome, hfill, ?_⟩
  cases outcome with
  | cancelled =>
    cases hact
    cases h
    exact ⟨rfl, rfl⟩
  | filled =>
    cases hact
    obtain ⟨_, hfee, h⟩ := bind_eq_ok.mp h
    obtain ⟨-, -, rfl⟩ := flatFee_eq_ok.mp hfee
    cases h
    exact ⟨⟨_, rfl, rfl, rfl, rfl⟩, rfl⟩

end Buys

/-! ## The sales of the selling step -/

/-- A sale the market makes: what it takes of a position, and at which price. -/
structure PlannedSale where
  coinId : CoinId
  quantity : ℚ
  price : ℚ

section Sales

variable (math : Js.Math) (cfg : TradingConfig) (market : BarMarket)

def saleFill (candidate : SellCandidate) (quantity : ℚ) : Except LoopError FillOutcome :=
  applySlippageAndFill math
    (opportunityOrder cfg market { action := .sell, coinId := candidate.coinId })
    candidate.price quantity false (some candidate.quantity)

def saleQuantity (maxSellValue remainingShortfall totalSellValue : ℚ)
    (candidate : SellCandidate) : ℚ :=
  min candidate.quantity (min (remainingShortfall / candidate.price)
    ((maxSellValue - totalSellValue) / candidate.price))

/-- The sales made of `candidates`, in their order. A rejected sale is passed over. -/
def plannedSales (maxSellValue : ℚ) : List SellCandidate → ℚ → ℚ → List PlannedSale
  | [], _, _ => []
  | candidate :: rest, remainingShortfall, totalSellValue =>
    if remainingShortfall ≤ 0 ∨ maxSellValue ≤ totalSellValue then []
    else
      let quantity := saleQuantity maxSellValue remainingShortfall totalSellValue candidate
      if quantity ≤ 0 then plannedSales maxSellValue rest remainingShortfall totalSellValue
      else
        match saleFill math cfg market candidate quantity with
        | .ok (.filled fill) =>
          ⟨candidate.coinId, fill.quantity, fill.price⟩ ::
            plannedSales maxSellValue rest (remainingShortfall - fill.quantity * fill.price)
              (totalSellValue + fill.quantity * fill.price)
        | _ => plannedSales maxSellValue rest remainingShortfall totalSellValue

def fundingPlan (buySignal : TradingSignal) (maxAllocation minAllocation : ℚ)
    (portfolio : Portfolio) : List PlannedSale :=
  if buySignal.confidence.getD 0 < cfg.oppSellingConfig.minOpportunityConfidence then []
  else
    match Js.truthy? (market.marketData.prices.get? buySignal.coinId) with
    | none => []
    | some buyPrice =>
      let requiredAmount := requiredBuyAmount buySignal portfolio.totalValue buyPrice maxAllocation
        minAllocation
      let totalRequired := requiredAmount + requiredAmount * cfg.backtest.tradingFee
      if totalRequired ≤ portfolio.cashBalance then []
      else
        plannedSales math cfg market (portfolio.totalValue * cfg.oppSellingConfig.maxLiquidationPercent / 100)
          (scoreEligiblePositions portfolio buySignal.coinId (buySignal.confidence.getD 0)
            cfg.oppSellingConfig market.marketData)
          (totalRequired - portfolio.cashBalance) 0

def afterSale (portfolio : Portfolio) (sale : PlannedSale) : Portfolio :=
  match portfolio.positions.get? sale.coinId with
  | none => portfolio
  | some p =>
    settleFee (bookSell portfolio sale.coinId p sale.quantity sale.price)
      (sale.quantity * sale.price * cfg.backtest.tradingFee) market.marketData.prices

def afterSales (portfolio : Portfolio) (sales : List PlannedSale) : Portfolio :=
  sales.foldl (afterSale cfg market) portfolio

end Sales

/-! ## The step makes the planned sales -/

section Step

variable {math : Js.Math} {cfg : TradingConfig} {market : BarMarket} {books after : Books}
  {plan : SellPlan} {candidate : SellCandidate}

structure Offered (market : BarMarket) (portfolio : Portfolio) (candidate : SellCandidate) :
    Prop where
  position : ∃ p, portfolio.positions.get? candidate.coinId = some p ∧
    p.quantity = candidate.quantity
  price : market.marketData.prices.get? candidate.coinId = some candidate.price
  price_pos : 0 < candidate.price

theorem scoreEligiblePositions_offered {portfolio : Portfolio} {buyCoinId : CoinId}
    {buyConfidence : ℚ} {config : OpportunitySellingUserConfig}
    (hmem : candidate ∈ scoreEligiblePositions portfolio buyCoinId buyConfidence config
      market.marketData) : Offered market portfolio candidate := by
  unfold scoreEligiblePositions at hmem
  rw [List.mem_insertionSort, List.mem_filterMap] at hmem
  obtain ⟨⟨coinId, p⟩, hentry, hcand⟩ := hmem
  dsimp only at hcand
  split at hcand
  · cases hcand
  split at hcand
  · cases hcand
  rename_i price hprice
  obtain ⟨hprice, hpos⟩ := Option.filter_eq_some_iff.mp hprice
  split at hcand
  · cases hcand
    exact ⟨⟨p, OrdMap.get?_eq_some_iff.mpr hentry, rfl⟩, hprice, by simpa using hpos⟩
  · cases hcand

theorem scoreEligiblePositions_nodup (portfolio : Portfolio) (buyCoinId : CoinId)
    (buyConfidence : ℚ) (config : OpportunitySellingUserConfig) :
    ((scoreEligiblePositions portfolio buyCoinId buyConfidence config market.marketData).map
      SellCandidate.coinId).Nodup := by
  unfold scoreEligiblePositions
  refine ((List.perm_insertionSort _ _).map _).nodup_iff.mpr ?_
  refine OrdMap.nodup_filterMap portfolio.positions ?_
  intro entry scored hsco
  dsimp only at hsco
  split at hsco
  · cases hsco
  split at hsco
  · cases hsco
  split at hsco
  · cases hsco
    rfl
  · cases hsco

theorem opportunitySale_cases {remainingShortfall quantity : ℚ}
    {result? : Option ExecuteTradeResult} (hoffered : Offered market books.portfolio candidate)
    (hpos : 0 < quantity) (hle : quantity ≤ candidate.quantity) (h : opportunitySale math cfg market
      (opportunitySellSignal plan candidate remainingShortfall quantity) books =
        .ok (result?, after)) :
    (∃ rejected, saleFill math cfg market candidate quantity = .ok (.cancelled rejected) ∧
      result? = none ∧ after.portfolio = books.portfolio) ∨
    ∃ fill result, saleFill math cfg market candidate quantity = .ok (.filled fill) ∧
      result? = some result ∧ result.trade.quantity = fill.quantity ∧
      result.trade.price = fill.price ∧
      after.portfolio = afterSale cfg market books.portfolio
        ⟨candidate.coinId, fill.quantity, fill.price⟩ := by
  obtain ⟨⟨p, hget, hqty⟩, hprice, hprice_pos⟩ := hoffered
  have htruthy : Js.truthy? (market.marketData.prices.get? candidate.coinId) =
      some candidate.price := Js.truthy?_eq_some.mpr ⟨hprice, hprice_pos.ne'⟩
  have hsized : (calculateSellQuantity
      (opportunitySellSignal plan candidate remainingShortfall quantity) candidate.quantity).quantity =
        quantity := by
    simp only [calculateSellQuantity, opportunitySellSignal,
      Js.truthy?_eq_some.mpr ⟨rfl, hpos.ne'⟩, min_eq_left hle]
  unfold opportunitySale at h
  obtain ⟨⟨_, _⟩, htrade, h⟩ := bind_eq_ok.mp h
  cases h
  have hp : p.quantity ≠ 0 := by rw [hqty]; exact (hpos.trans_le hle).ne'
  obtain ⟨outcome, hfill, hout⟩ := executeTrade_sell (by rfl) hprice hprice_pos.ne' hget hp
    (by rfl) htrade
  have hsale : saleFill math cfg market candidate quantity = .ok outcome := by
    rw [← hfill, hqty]
    exact congrArg (fun q => applySlippageAndFill math (opportunityOrder cfg market
      { action := .sell, coinId := candidate.coinId }) candidate.price q false
      (some candidate.quantity)) hsized.symm
  cases outcome with
  | cancelled rejected =>
    obtain ⟨rfl, rfl⟩ := hout
    have hcanc := (applySlippageAndFill_cancelled hfill).status
    exact .inl ⟨rejected, hsale, by simp [hcanc], by simp [bookSale, hcanc]⟩
  | filled fill =>
    obtain ⟨⟨result, rfl, hstat, hsold, hat⟩, rfl⟩ := hout
    have hne : result.fillStatus ≠ .cancelled := hstat ▸ (applySlippageAndFill_filled hfill).2.2.1
    refine .inr ⟨fill, result, hsale, by simp [hne], hsold, hat, ?_⟩
    simp only [bookSale, if_neg hne, afterSale, hget]
    rfl

theorem afterSale_get?_of_ne (portfolio : Portfolio) {sale : PlannedSale} {coinId : CoinId}
    (hne : sale.coinId ≠ coinId) :
    (afterSale cfg market portfolio sale).positions.get? coinId =
      portfolio.positions.get? coinId := by
  unfold afterSale
  split
  · rfl
  · simp only [settleFee, bookSell_get?, if_neg hne]

theorem Offered.afterSale {portfolio : Portfolio} {sale : PlannedSale}
    (h : Offered market portfolio candidate) (hne : sale.coinId ≠ candidate.coinId) :
    Offered market (afterSale cfg market portfolio sale) candidate := by
  obtain ⟨⟨p, hget, hqty⟩, hprice, hpos⟩ := h
  exact ⟨⟨p, by rw [afterSale_get?_of_ne portfolio hne, hget], hqty⟩, hprice, hpos⟩

theorem plannedSales_done {maxSellValue remainingShortfall totalSellValue : ℚ}
    (hdone : remainingShortfall ≤ 0 ∨ maxSellValue ≤ totalSellValue)
    (candidates : List SellCandidate) :
    plannedSales math cfg market maxSellValue candidates remainingShortfall totalSellValue = [] := by
  cases candidates with
  | nil => rfl
  | cons => rw [plannedSales, if_pos hdone]

theorem sellCandidates_planned {candidates : List SellCandidate} {progress done : SellProgress}
    (hoffered : ∀ c ∈ candidates, Offered market progress.books.portfolio c)
    (hnodup : (candidates.map SellCandidate.coinId).Nodup)
    (h : candidates.foldlM (sellCandidate math cfg market plan) progress = .ok done) :
    (done.sellExecuted = true ↔ progress.sellExecuted = true ∨
      plannedSales math cfg market plan.maxSellValue candidates progress.remainingShortfall
        progress.totalSellValue ≠ []) ∧
    done.books.portfolio = afterSales cfg market progress.books.portfolio
      (plannedSales math cfg market plan.maxSellValue candidates progress.remainingShortfall
        progress.totalSellValue) := by
  induction candidates generalizing progress with
  | nil =>
    cases h
    simp [plannedSales, afterSales]
  | cons candidate rest ih =>
    rw [List.foldlM_cons] at h
    obtain ⟨next, hnext, h⟩ := bind_eq_ok.mp h
    simp only [List.map_cons, List.nodup_cons] at hnodup
    have hrest : ∀ c ∈ rest, Offered market progress.books.portfolio c :=
      fun c hc => hoffered c (List.mem_cons_of_mem candidate hc)
    unfold sellCandidate at hnext
    rw [pure_eq_ok] at hnext
    split at hnext
    · rename_i hdone
      cases hnext
      obtain ⟨hsold, hport⟩ := ih hrest hnodup.2 h
      rw [plannedSales_done hdone] at hsold hport ⊢
      exact ⟨hsold, hport⟩
    rename_i hdone
    rw [plannedSales, if_neg hdone]
    dsimp only at hnext ⊢
    change (if saleQuantity plan.maxSellValue progress.remainingShortfall progress.totalSellValue
      candidate ≤ 0 then _ else _) = _ at hnext
    split at hnext
    · rename_i hqty
      cases hnext
      rw [if_pos hqty]
      exact ih hrest hnodup.2 h
    rename_i hqty
    rw [if_neg hqty]
    obtain ⟨⟨result?, books⟩, hsale, hnext⟩ := bind_eq_ok.mp hnext
    obtain ⟨rejected, hfill, rfl, hport⟩ | ⟨fill, result, hfill, rfl, hq, hp, hport⟩ :=
      opportunitySale_cases (hoffered candidate List.mem_cons_self) (not_le.mp hqty)
        (min_le_left _ _) hsale
    · cases hnext
      simp only [hfill]
      rw [← hport] at hrest ⊢
      exact ih hrest hnodup.2 h
    · cases hnext
      simp only [hfill]
      have hleft : ∀ c ∈ rest, Offered market books.portfolio c := by
        intro c hc
        rw [hport]
        refine (hrest c hc).afterSale fun heq => hnodup.1 ?_
        exact List.mem_map.mpr ⟨c, hc, heq.symm⟩
      obtain ⟨hsold, hdone⟩ := ih hleft hnodup.2 h
      simp only [hq, hp] at hsold hdone
      refine ⟨by simp [hsold], ?_⟩
      rw [hdone, hport]
      rfl

theorem attemptOpportunitySelling_planned {buySignal : TradingSignal}
    {maxAllocation minAllocation : ℚ} {sold : Bool}
    (h : attemptOpportunitySelling math cfg market buySignal maxAllocation minAllocation books =
      .ok (sold, after)) :
    (sold = true ↔
      fundingPlan math cfg market buySignal maxAllocation minAllocation books.portfolio ≠ []) ∧
    after.portfolio = afterSales cfg market books.portfolio
      (fundingPlan math cfg market buySignal maxAllocation minAllocation books.portfolio) := by
  unfold attemptOpportunitySelling at h
  unfold fundingPlan
  rw [pure_eq_ok] at h
  dsimp only at h ⊢
  split at h
  · rename_i hconf
    cases h
    rw [if_pos hconf]
    simp [afterSales]
  rename_i hconf
  rw [if_neg hconf]
  revert h
  cases Js.truthy? (market.marketData.prices.get? buySignal.coinId) with
  | none =>
    intro h
    cases h
    simp [afterSales]
  | some =>
    intro h
    dsimp only at h ⊢
    obtain ⟨fee, hfee, h⟩ := bind_eq_ok.mp h
    obtain ⟨-, -, rfl⟩ := flatFee_eq_ok.mp hfee
    split at h
    · rename_i hcash
      cases h
      rw [if_pos hcash]
      simp [afterSales]
    rename_i hcash
    rw [if_neg hcash]
    split at h
    · rename_i hempty
      cases h
      rw [List.isEmpty_iff.mp hempty]
      simp [plannedSales, afterSales]
    obtain ⟨done, hdone, h⟩ := bind_eq_ok.mp h
    cases h
    obtain ⟨hsold, hport⟩ := sellCandidates_planned
      (fun c hc => scoreEligiblePositions_offered hc) (scoreEligiblePositions_nodup ..) hdone
    exact ⟨by simpa using hsold, hport⟩

end Step

/-! ## All or nothing -/

section AllOrNothing

variable (math : Js.Math) (cfg : TradingConfig) (market : BarMarket)
  (maxAllocation minAllocation : ℚ) (signal : TradingSignal)

/-- The books with the row of the signal, which is written before anything is traded. -/
def recordSignal (books : Books) : Books :=
  { books with signals := books.signals ++ [signalRecord cfg market signal] }

def signalOrder : ExecuteTradeParams :=
  cfg.order market signal cfg.minHoldMs maxAllocation minAllocation

/-- A step that sold anything sold it for a buy that lacked cash and now executes; a step that did
not left the portfolio alone. -/
structure AllOrNothing (order : ExecuteTradeParams) (portfolio : Portfolio) (sold : Bool)
    (after : Portfolio) : Prop where
  sells : sold = true → LacksCash math order portfolio ∧ Executes math order after
  keeps : sold = false → after = portfolio

/-- No sale is planned for the buy, or it lacks cash and the planned sales pay for it. -/
def Funded (portfolio : Portfolio) : Prop :=
  fundingPlan math cfg market signal maxAllocation minAllocation portfolio = [] ∨
  LacksCash math (signalOrder cfg market maxAllocation minAllocation signal) portfolio ∧
    Affords math (signalOrder cfg market maxAllocation minAllocation signal)
      (afterSales cfg market portfolio
        (fundingPlan math cfg market signal maxAllocation minAllocation portfolio))

variable {math cfg market maxAllocation minAllocation signal}

theorem tradeSignal_untraded {books booked : Books}
    (h : tradeSignal math cfg market maxAllocation minAllocation signal books =
      .ok (false, booked)) : booked = books := by
  unfold tradeSignal at h
  obtain ⟨⟨result?, _⟩, htrade, h⟩ := bind_eq_ok.mp h
  cases result? with
  | none =>
    cases h
    rw [executeTrade_none htrade]
  | some =>
    obtain ⟨_, -, h⟩ := bind_eq_ok.mp h
    cases h

/-- **A fill, also a rejected one, is never followed by a sale; after a buy that gave no trade the
selling step is all or nothing exactly when the buy is funded.** -/
theorem funding_allOrNothing (hbuy : signal.action = .buy) (books : Books) :
    (∀ booked,
      tradeSignal math cfg market maxAllocation minAllocation signal
        (recordSignal cfg market signal books) = .ok (true, booked) →
      processSignalTrade math cfg market maxAllocation minAllocation books signal = .ok booked) ∧
    ∀ booked sold freed,
      tradeSignal math cfg market maxAllocation minAllocation signal
        (recordSignal cfg market signal books) = .ok (false, booked) →
      attemptOpportunitySelling math cfg market signal maxAllocation minAllocation booked =
        .ok (sold, freed) →
      (AllOrNothing math (signalOrder cfg market maxAllocation minAllocation signal)
          books.portfolio sold freed.portfolio ↔
        Funded math cfg market maxAllocation minAllocation signal books.portfolio) := by
  constructor
  · intro booked htrade
    unfold processSignalTrade
    change (tradeSignal math cfg market maxAllocation minAllocation signal
      (recordSignal cfg market signal books) >>= _) = _
    rw [htrade]
    rfl
  · intro booked sold freed htrade hstep
    obtain rfl := tradeSignal_untraded htrade
    obtain ⟨hsold, hportfolio⟩ := attemptOpportunitySelling_planned hstep
    change (sold = true ↔ fundingPlan math cfg market signal maxAllocation minAllocation
      books.portfolio ≠ []) at hsold
    change freed.portfolio = afterSales cfg market books.portfolio (fundingPlan math cfg market
      signal maxAllocation minAllocation books.portfolio) at hportfolio
    have hexecutes : Executes math (signalOrder cfg market maxAllocation minAllocation signal)
        freed.portfolio ↔ Affords math (signalOrder cfg market maxAllocation minAllocation signal)
          freed.portfolio := executes_iff hbuy
    constructor
    · intro hall
      by_cases hplan : fundingPlan math cfg market signal maxAllocation minAllocation
          books.portfolio = []
      · exact .inl hplan
      · obtain ⟨hlacks, hretried⟩ := hall.sells (hsold.mpr hplan)
        rw [hexecutes, hportfolio] at hretried
        exact .inr ⟨hlacks, hretried⟩
    · intro hfunded
      refine ⟨fun htrue => ?_, fun hfalse => ?_⟩
      · obtain hplan | ⟨hlacks, haffords⟩ := hfunded
        · exact absurd hplan (hsold.mp htrue)
        · rw [← hportfolio, ← hexecutes] at haffords
          exact ⟨hlacks, haffords⟩
      · have hplan : fundingPlan math cfg market signal maxAllocation minAllocation
            books.portfolio = [] := by
          by_contra hne
          rw [hsold.mpr hne] at hfalse
          cases hfalse
        rw [hportfolio, hplan]
        rfl

end AllOrNothing

/-! ## A buy of more than cash -/

deriving instance DecidableEq for SlippageFillResult
deriving instance DecidableEq for FillOutcome

def fundingMath : Js.Math := ⟨id, id, id, fun base _ => base⟩

def fundingConfig (tradingFee : ℚ) : TradingConfig where
  backtest :=
    { id := "b1", tradingFee := tradingFee, initialCapital := 300, startDate := 0, endDate := 0 }
  slippageConfig := buildSlippageConfig (some { model := some "none" }) none
  minHoldMs := 0
  maxAllocation := 1 / 4
  minAllocation := 1 / 4
  oppSellingEnabled := true
  oppSellingConfig := {}
  coinMap := (OrdMap.empty.set "btc" ⟨"btc", "BTC"⟩).set "eth" ⟨"eth", "ETH"⟩
  quoteCoin := ⟨"usd", "USD"⟩

def fundingMarket : BarMarket where
  marketData :=
    { timestamp := 96 * HOUR_MS, prices := (OrdMap.empty.set "btc" 100).set "eth" 100 }
  currentPrices := []
  prevCandleMap := OrdMap.empty

def fundingBooks (cash : ℚ) : Books where
  portfolio :=
    { cashBalance := cash
      positions := OrdMap.empty.set "btc"
        { quantity := 2, averagePrice := 100, totalValue := 200, entryDate := some 0 }
      totalValue := cash + 200 }
  exitTracker := none

def fundedSignal : TradingSignal where
  action := .buy
  coinId := "eth"
  quantity := some (3 / 2)
  confidence := some 1

def fundingRun (tradingFee cash : ℚ) : Except LoopError (Bool × Bool × Option ℚ) := do
  let cfg := fundingConfig tradingFee
  let (traded, booked) ← tradeSignal fundingMath cfg fundingMarket (1 / 4) (1 / 4) fundedSignal
    (recordSignal cfg fundingMarket fundedSignal (fundingBooks cash))
  let (sold, freed) ← attemptOpportunitySelling fundingMath cfg fundingMarket fundedSignal (1 / 4)
    (1 / 4) booked
  let (result?, _) ← executeTrade fundingMath
    (signalOrder cfg fundingMarket (1 / 4) (1 / 4) fundedSignal) freed.portfolio
  return (traded, sold, result?.map (·.trade.quantity))

theorem fundingRun_eq {tradingFee cash : ℚ} {bought : Option ℚ}
    (h : fundingRun tradingFee cash = .ok (false, true, bought)) :
    ∃ booked freed result? after,
      tradeSignal fundingMath (fundingConfig tradingFee) fundingMarket (1 / 4) (1 / 4) fundedSignal
        (recordSignal (fundingConfig tradingFee) fundingMarket fundedSignal (fundingBooks cash)) =
          .ok (false, booked) ∧
      attemptOpportunitySelling fundingMath (fundingConfig tradingFee) fundingMarket fundedSignal
        (1 / 4) (1 / 4) booked = .ok (true, freed) ∧
      executeTrade fundingMath
        (signalOrder (fundingConfig tradingFee) fundingMarket (1 / 4) (1 / 4) fundedSignal)
        freed.portfolio = .ok (result?, after) ∧
      result?.map (·.trade.quantity) = bought := by
  obtain ⟨⟨_, booked⟩, htrade, h⟩ := bind_eq_ok.mp h
  obtain ⟨⟨_, freed⟩, hsold, h⟩ := bind_eq_ok.mp h
  obtain ⟨⟨result?, after⟩, hretry, h⟩ := bind_eq_ok.mp h
  cases h
  exact ⟨booked, freed, result?, after, htrade, hsold, hretry, rfl⟩

theorem funding_free :
    ∃ booked freed,
      tradeSignal fundingMath (fundingConfig 0) fundingMarket (1 / 4) (1 / 4) fundedSignal
        (recordSignal (fundingConfig 0) fundingMarket fundedSignal (fundingBooks 100)) =
          .ok (false, booked) ∧
      attemptOpportunitySelling fundingMath (fundingConfig 0) fundingMarket fundedSignal
        (1 / 4) (1 / 4) booked = .ok (true, freed) ∧
      Funded fundingMath (fundingConfig 0) fundingMarket (1 / 4) (1 / 4) fundedSignal
        (fundingBooks 100).portfolio := by
  have hrun : fundingRun 0 100 = .ok (false, true, some (3 / 2)) := by decide +kernel
  obtain ⟨booked, freed, result?, after, htrade, hsold, hretry, hbought⟩ := fundingRun_eq hrun
  refine ⟨booked, freed, htrade, hsold, ?_⟩
  refine ((funding_allOrNothing rfl (fundingBooks 100)).2 booked true freed htrade hsold).mp ?_
  have hfundable : Fundable fundingMath
      (signalOrder (fundingConfig 0) fundingMarket (1 / 4) (1 / 4) fundedSignal)
      (fundingBooks 100).portfolio ⟨0, 100, 3 / 2, .filled, none⟩ :=
    { filled := ⟨100, by decide +kernel, by norm_num, by decide +kernel⟩
      unconflicted := by decide +kernel
      undeployed := by decide +kernel }
  have hlacks : (fundingBooks 100).portfolio.cashBalance < buyCost
      (signalOrder (fundingConfig 0) fundingMarket (1 / 4) (1 / 4) fundedSignal)
      ⟨0, 100, 3 / 2, .filled, none⟩ := by decide +kernel
  refine ⟨fun _ => ⟨⟨_, hfundable, hlacks⟩, ?_⟩, fun h => by cases h⟩
  cases result? with
  | none => cases hbought
  | some result =>
    refine ⟨result, after, hretry, fun hcancelled => ?_⟩
    obtain ⟨hrejected, -⟩ | ⟨hfilled, -⟩ := executeTrade_some hretry
    · rw [Option.map_some, hrejected.quantity, Option.some_inj] at hbought
      norm_num at hbought
    · exact hfilled hcancelled

def SellsWithoutBuying (cash : ℚ) : Prop :=
  ∃ booked freed,
    tradeSignal fundingMath (fundingConfig (1 / 100)) fundingMarket (1 / 4) (1 / 4) fundedSignal
      (recordSignal (fundingConfig (1 / 100)) fundingMarket fundedSignal (fundingBooks cash)) =
        .ok (false, booked) ∧
    attemptOpportunitySelling fundingMath (fundingConfig (1 / 100)) fundingMarket fundedSignal
      (1 / 4) (1 / 4) booked = .ok (true, freed) ∧
    ¬ AllOrNothing fundingMath
      (signalOrder (fundingConfig (1 / 100)) fundingMarket (1 / 4) (1 / 4) fundedSignal)
      (fundingBooks cash).portfolio true freed.portfolio

theorem sellsWithoutBuying_of_run {cash : ℚ}
    (hrun : fundingRun (1 / 100) cash = .ok (false, true, none)) : SellsWithoutBuying cash := by
  obtain ⟨booked, freed, result?, _, htrade, hsold, hretry, hbght⟩ := fundingRun_eq hrun
  refine ⟨booked, freed, htrade, hsold, fun hall => ?_⟩
  obtain ⟨_, _, hexd, -⟩ := (hall.sells rfl).2
  rw [hexd] at hretry
  cases hretry
  cases hbght

/-- **A sale that does not pay for the buy**: the step sells `0.515` coins for a shortfall of `51.5`,
and the buy then lacks the fee of that sale. With less cash it is the deployment cap that blocks the
buy, and coins are sold all the same. -/
theorem sale_without_buy : SellsWithoutBuying 100 ∧ SellsWithoutBuying 20 :=
  ⟨sellsWithoutBuying_of_run (by decide +kernel), sellsWithoutBuying_of_run (by decide +kernel)⟩

end Chansey
