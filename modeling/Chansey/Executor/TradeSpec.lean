import Chansey.Executor.Trade

/-!
# What an executed trade is

One inversion lemma for each step of the executor: what must hold for the step to succeed, and
what it leaves. Later results read these and never unfold the executor.
-/

namespace Chansey

open Result

variable {math : Js.Math} {params : ExecuteTradeParams} {base : ℚ} {portfolio after : Portfolio}
  {result : ActionResult}

def slippedPrice (math : Js.Math) (params : ExecuteTradeParams) (base quantity : ℚ)
    (isBuy : Bool) : ℚ :=
  applySlippage base (calculateSlippageBps math quantity base params.slippageConfig.build
    params.dailyVolume params.spreadContext) isBuy

variable {quantity : ℚ} {isBuy : Bool} {cap : Option ℚ} {fill : SlippageFillResult}
  {r : ExecuteTradeResult}

theorem calculateSlippage_ok {slippage : SlippageResult} (h : calculateSlippage math
      { price := base, quantity := quantity, isBuy := isBuy, dailyVolume := params.dailyVolume,
        spreadContext := params.spreadContext } params.slippageConfig = .ok slippage) :
    0 < base ∧ slippage.executionPrice = slippedPrice math params base quantity isBuy := by
  unfold calculateSlippage at h
  split_ifs at h with hbase
  cases h
  exact ⟨not_le.mp hbase, rfl⟩

theorem applySlippageAndFill_filled
    (h : applySlippageAndFill math params base quantity isBuy cap = .ok (.filled fill)) :
    0 < base ∧ fill.price = slippedPrice math params base quantity isBuy ∧
      fill.fillStatus ≠ .cancelled ∧
      (fill.quantity = quantity ∨
        fill.fillStatus = .partialFill ∧ ∀ c, Js.truthy? cap = some c → fill.quantity ≤ c) := by
  unfold applySlippageAndFill at h
  obtain ⟨_, hslippage, h⟩ := bind_eq_ok.mp h
  obtain ⟨hbase, hprice⟩ := calculateSlippage_ok hslippage
  refine ⟨hbase, ?_⟩
  dsimp only at h
  split at h
  · cases h
  · cases h
    refine ⟨hprice, by simp, Or.inr ⟨rfl, fun c hc => ?_⟩⟩
    rw [hc]
    exact min_le_right _ _
  · cases h
    exact ⟨hprice, by simp, Or.inl rfl⟩

/-- How much of an order of `quantity` the market takes at the price it slips to. -/
def assessedStatus (math : Js.Math) (params : ExecuteTradeParams) (base quantity : ℚ)
    (isBuy : Bool) : SimulatedOrderStatus :=
  let price := slippedPrice math params base quantity isBuy
  (assessFillability (quantity * price) price params.dailyVolume params.slippageConfig).fillStatus

theorem fillableQuantity_lt {orderQuantity price : ℚ} {volume : Option ℚ} {config : SlippageConfig}
    (hprice : 0 < price)
    (h : (assessFillability (orderQuantity * price) price volume config).fillStatus =
      .partialFill) :
    (assessFillability (orderQuantity * price) price volume config).fillableQuantity <
      orderQuantity := by
  unfold assessFillability at h ⊢
  dsimp only at h ⊢
  split at h
  · cases h
  · rename_i v hv
    have hvpos : 0 < v := by
      split_ifs at hv
      simp only [positiveVolume, Option.filter_eq_some_iff, decide_eq_true_eq] at hv
      exact hv.2
    split at h
    · cases h
    · split at h
      · rename_i limit hlimit
        simp only [Option.filter_eq_some_iff, decide_eq_true_eq] at hlimit
        have hlt : limit * v < orderQuantity * price := (lt_div_iff₀ hvpos).mp hlimit.2
        exact (div_lt_iff₀ hprice).mpr hlt
      · cases h

theorem cappedFill_le (quantity : ℚ) (cap : Option ℚ) :
    cap.elim quantity (fun c => min quantity c) ≤ quantity := by
  cases cap with
  | none => exact le_refl quantity
  | some c => exact min_le_left quantity c

theorem applySlippageAndFill_status
    (h : applySlippageAndFill math params base quantity isBuy cap = .ok (.filled fill)) :
    fill.fillStatus = assessedStatus math params base quantity isBuy ∧
      (0 < fill.price → fill.quantity ≤ quantity ∧
        (fill.fillStatus ≠ .filled → fill.quantity < quantity)) := by
  unfold applySlippageAndFill at h
  obtain ⟨slippage, hslippage, h⟩ := bind_eq_ok.mp h
  dsimp only at h
  rw [(calculateSlippage_ok hslippage).2] at h
  split at h
  · cases h
  · rename_i hstatus
    cases h
    refine ⟨hstatus.symm, fun hprice => ?_⟩
    have hlt := fillableQuantity_lt hprice hstatus
    have hcapd := lt_of_le_of_lt (cappedFill_le _ (Js.truthy? cap)) hlt
    exact ⟨hcapd.le, fun _ => hcapd⟩
  · rename_i hstatus
    cases h
    exact ⟨hstatus.symm, fun _ => ⟨le_refl _, fun hne => absurd rfl hne⟩⟩

theorem slippedPrice_sell_pos {quantity maxBps : ℚ} (hbase : 0 < base)
    (hmax : params.slippageConfig.maxSlippageBps = some maxBps) (hlt : maxBps < 10000) :
    0 < slippedPrice math params base quantity false := by
  have hbps : calculateSlippageBps math quantity base params.slippageConfig.build
      params.dailyVolume params.spreadContext ≤ maxBps := by
    unfold calculateSlippageBps
    simp only [SlippageConfig.build, hmax, Option.getD_some]
    exact min_le_right _ _
  simp only [slippedPrice, applySlippage, Bool.false_eq_true, if_false]
  refine mul_pos hbase ?_
  linarith

structure CancelledFill (r : ExecuteTradeResult) : Prop where
  status : r.fillStatus = .cancelled
  quantity : r.trade.quantity = 0
  fee : r.trade.fee = none

theorem applySlippageAndFill_cancelled
    (h : applySlippageAndFill math params base quantity isBuy cap = .ok (.cancelled r)) :
    CancelledFill r := by
  unfold applySlippageAndFill at h
  obtain ⟨_, -, h⟩ := bind_eq_ok.mp h
  dsimp only at h
  split at h <;> cases h
  exact ⟨rfl, rfl, rfl⟩

/-! ## The four actions -/

inductive BookedAction (math : Js.Math) (params : ExecuteTradeParams) (base : ℚ)
    (portfolio : Portfolio) (result : ActionResult) : Portfolio → Prop
  | buy (fill : SlippageFillResult) (fee : ℚ) (haction : params.signal.action = .buy)
      (hfill : applySlippageAndFill math params base
        (calculateBuyQuantity params.signal portfolio.totalValue base params.maxAllocation
          params.minAllocation).quantity true none = .ok (.filled fill))
      (hdeploy : ¬ MAX_PORTFOLIO_DEPLOYMENT ≤ deploymentRatio portfolio)
      (hfee : flatFee (fill.quantity * fill.price) params.tradingFee = .ok fee)
      (hcash : fill.quantity * fill.price + fee ≤ portfolio.cashBalance)
      (hresult : result =
        { quantity := fill.quantity, totalValue := fill.quantity * fill.price,
          slippageBps := fill.slippageBps, price := fill.price, fillStatus := fill.fillStatus,
          requestedQuantity := fill.requestedQuantity }) :
      BookedAction math params base portfolio result
        (bookBuy portfolio params.signal.coinId fill.quantity fill.price
          params.marketData.timestamp)
  | sell (existing : Position) (fill : SlippageFillResult)
      (haction : params.signal.action = .sell)
      (hget : portfolio.positions.get? params.signal.coinId = some existing)
      (hq : existing.quantity ≠ 0)
      (hfill : applySlippageAndFill math params base
        (calculateSellQuantity params.signal existing.quantity).quantity false
        (some existing.quantity) = .ok (.filled fill))
      (hle : fill.quantity ≤ existing.quantity)
      (hquantity : result.quantity = fill.quantity) (hprice : result.price = fill.price)
      (hvalue : result.totalValue = fill.quantity * fill.price)
      (hstatus : result.fillStatus = fill.fillStatus)
      (hpnl : result.realizedPnL = some ((fill.price - existing.averagePrice) * fill.quantity)) :
      BookedAction math params base portfolio result
        (bookSell portfolio params.signal.coinId existing fill.quantity fill.price)
  | openShort {leverage : ℚ} (fill : SlippageFillResult) (fee : ℚ) (haction : params.signal.action = .openShort)
      (hfill : applySlippageAndFill math params base
        (calculateBuyQuantity params.signal portfolio.totalValue base params.maxAllocation
          params.minAllocation).quantity false none = .ok (.filled fill))
      (hfee : flatFee (fill.quantity * fill.price) params.tradingFee = .ok fee)
      (hcash : fill.quantity * fill.price / leverage + fee ≤ portfolio.cashBalance)
      (hquantity : result.quantity = fill.quantity) (hprice : result.price = fill.price)
      (hstatus : result.fillStatus = fill.fillStatus) (hpnl : result.realizedPnL = none)
      (hleverage : resolveShortLeverage params.signal params.defaultLeverage = some leverage) :
      BookedAction math params base portfolio result
        (bookOpenShort portfolio params.signal.coinId fill.quantity fill.price leverage
          params.marketData.timestamp)
  | closeShort (existing : Position) (fill : SlippageFillResult)
      (haction : params.signal.action = .closeShort)
      (hget : portfolio.positions.get? params.signal.coinId = some existing)
      (hside : existing.side = some .short) (hq : existing.quantity ≠ 0)
      (hfill : applySlippageAndFill math params base
        (calculateSellQuantity params.signal existing.quantity).quantity true
        (some existing.quantity) = .ok (.filled fill))
      (hle : fill.quantity ≤ existing.quantity)
      (hquantity : result.quantity = fill.quantity) (hprice : result.price = fill.price)
      (hstatus : result.fillStatus = fill.fillStatus)
      (hpnl : result.realizedPnL = some (max (-returnedMargin existing fill.quantity)
        ((existing.averagePrice - fill.price) * fill.quantity))) :
      BookedAction math params base portfolio result
        (bookCloseShort portfolio params.signal.coinId existing fill.quantity fill.price)

theorem closingFill_le (hq : quantity ≠ 0) (h : applySlippageAndFill math params base
      (calculateSellQuantity params.signal quantity).quantity isBuy (some quantity) =
        .ok (.filled fill)) : fill.quantity ≤ quantity := by
  obtain ⟨-, -, -, hfull | ⟨-, hcap⟩⟩ := applySlippageAndFill_filled h
  · exact hfull ▸ calculateSellQuantity_le _ _
  · exact hcap _ (Js.truthy?_eq_some.mpr ⟨rfl, hq⟩)

theorem executeBuy_booked (haction : params.signal.action = .buy)
    (h : executeBuy math params base portfolio = .ok (.filled result after)) :
    BookedAction math params base portfolio result after := by
  unfold executeBuy at h
  simp only [pure_eq_ok] at h
  split_ifs at h with hd
  · cases h
  obtain ⟨outcome, hfill, h⟩ := bind_eq_ok.mp h
  cases outcome with
  | cancelled => cases h
  | filled fill =>
    obtain ⟨fee, hfee, h⟩ := bind_eq_ok.mp h
    split_ifs at h with hc
    · cases h
    cases h
    exact .buy fill fee haction hfill hd hfee (not_lt.mp hc) rfl

theorem executeSell_booked (haction : params.signal.action = .sell)
    (h : executeSell math params base portfolio = .ok (.filled result after)) :
    BookedAction math params base portfolio result after := by
  unfold executeSell at h
  simp only [pure_eq_ok] at h
  cases hget : portfolio.positions.get? params.signal.coinId with
  | none => simp [hget] at h
  | some existing =>
    simp only [hget] at h
    split_ifs at h with hq hhold
    · cases h
    · cases h
    obtain ⟨outcome, hfill, h⟩ := bind_eq_ok.mp h
    cases outcome with
    | cancelled => cases h
    | filled fill =>
      cases h
      exact .sell existing fill haction hget hq hfill (closingFill_le hq hfill) rfl rfl rfl rfl rfl

theorem executeOpenShort_booked (haction : params.signal.action = .openShort)
    (h : executeOpenShort math params base portfolio = .ok (.filled result after)) :
    BookedAction math params base portfolio result after := by
  unfold executeOpenShort at h
  simp only [pure_eq_ok] at h
  obtain ⟨outcome, hfill, h⟩ := bind_eq_ok.mp h
  cases outcome with
  | cancelled => cases h
  | filled fill =>
    obtain ⟨fee, hfee, h⟩ := bind_eq_ok.mp h
    cases hleverage : resolveShortLeverage params.signal params.defaultLeverage with
    | none =>
      rw [hleverage] at h
      cases h
    | some leverage =>
      rw [hleverage] at h
      dsimp only at h
      split_ifs at h with hc
      · cases h
      cases h
      exact .openShort fill fee haction hfill hfee (not_lt.mp hc) rfl rfl rfl rfl hleverage

theorem executeCloseShort_booked (haction : params.signal.action = .closeShort)
    (h : executeCloseShort math params base portfolio = .ok (.filled result after)) :
    BookedAction math params base portfolio result after := by
  unfold executeCloseShort at h
  simp only [pure_eq_ok] at h
  cases hget : portfolio.positions.get? params.signal.coinId with
  | none => simp [hget] at h
  | some existing =>
    simp only [hget] at h
    split_ifs at h with hs
    · cases h
    simp only [ne_eq, not_or, not_not] at hs
    obtain ⟨outcome, hfill, h⟩ := bind_eq_ok.mp h
    cases outcome with
    | cancelled => cases h
    | filled fill =>
      cases h
      exact .closeShort existing fill haction hget hs.1 hs.2 hfill (closingFill_le hs.2 hfill) rfl
        rfl rfl rfl

theorem executeAction_booked
    (h : executeAction math params base portfolio = .ok (.filled result after)) :
    BookedAction math params base portfolio result after := by
  unfold executeAction at h
  cases ha : params.signal.action <;> rw [ha] at h <;> dsimp only at h
  case hold => cases h
  case buy => exact executeBuy_booked ha h
  case sell => exact executeSell_booked ha h
  case openShort => exact executeOpenShort_booked ha h
  case closeShort => exact executeCloseShort_booked ha h

/-! ## The whole trade -/

theorem executeAction_filled_status
    (h : executeAction math params base portfolio = .ok (.filled result after)) :
    result.fillStatus ≠ .cancelled := by
  cases executeAction_booked h with
  | buy fill fee haction hfill hdeploy hfee hcash hresult =>
    rw [hresult]
    exact (applySlippageAndFill_filled hfill).2.2.1
  | sell existing fill haction hget hq hfill hle hquantity hprice hvalue hstatus
  | openShort fill fee haction hfill hfee hcash hquantity hprice hstatus
  | closeShort existing fill haction hget hside hq hfill hle hquantity hprice hstatus =>
    rw [hstatus]
    exact (applySlippageAndFill_filled hfill).2.2.1

theorem executeAction_cancelled (h : executeAction math params base portfolio = .ok (.cancelled r))
    : CancelledFill r := by
  unfold executeAction at h
  cases ha : params.signal.action <;> rw [ha] at h <;> dsimp only at h
  case hold => cases h
  case buy =>
    unfold executeBuy at h
    simp only [pure_eq_ok] at h
    split_ifs at h
    · cases h
    obtain ⟨outcome, hfill, h⟩ := bind_eq_ok.mp h
    cases outcome with
    | cancelled => cases h; exact applySlippageAndFill_cancelled hfill
    | filled =>
      obtain ⟨_, -, h⟩ := bind_eq_ok.mp h
      split_ifs at h <;> cases h
  case sell =>
    unfold executeSell at h
    simp only [pure_eq_ok] at h
    split at h
    · cases h
    split_ifs at h
    · cases h
    · cases h
    obtain ⟨outcome, hfill, h⟩ := bind_eq_ok.mp h
    cases outcome with
    | cancelled => cases h; exact applySlippageAndFill_cancelled hfill
    | filled => cases h
  case openShort =>
    unfold executeOpenShort at h
    simp only [pure_eq_ok] at h
    obtain ⟨outcome, hfill, h⟩ := bind_eq_ok.mp h
    cases outcome with
    | cancelled => cases h; exact applySlippageAndFill_cancelled hfill
    | filled =>
      obtain ⟨_, -, h⟩ := bind_eq_ok.mp h
      split at h
      · cases h
      · split_ifs at h <;> cases h
  case closeShort =>
    unfold executeCloseShort at h
    simp only [pure_eq_ok] at h
    split at h
    · cases h
    split_ifs at h
    · cases h
    obtain ⟨outcome, hfill, h⟩ := bind_eq_ok.mp h
    cases outcome with
    | cancelled => cases h; exact applySlippageAndFill_cancelled hfill
    | filled => cases h

theorem executeTrade_none (h : executeTrade math params portfolio = .ok (none, after)) :
    after = portfolio := by
  unfold executeTrade at h
  simp only [pure_eq_ok] at h
  split at h
  · cases h; rfl
  split_ifs at h
  · cases h; rfl
  · obtain ⟨outcome, -, h⟩ := bind_eq_ok.mp h
    cases outcome with
    | noTrade => cases h; rfl
    | cancelled => cases h
    | filled =>
      obtain ⟨_, -, h⟩ := bind_eq_ok.mp h
      cases h
  · cases h; rfl

structure FilledTrade (math : Js.Math) (params : ExecuteTradeParams) (portfolio : Portfolio)
    (r : ExecuteTradeResult) (after : Portfolio) : Prop where
  exists_booking : ∃ marketPrice result booked fee,
    params.marketData.prices.get? params.signal.coinId = some marketPrice ∧ marketPrice ≠ 0 ∧
    validatePositionConflicts params.signal portfolio = true ∧
    BookedAction math params (resolveBasePrice params.signal marketPrice) portfolio result booked ∧
    flatFee (feeBaseValue params.signal.action result) params.tradingFee = .ok fee ∧
    r =
      { trade := tradeRow params.signal (resolveBasePrice params.signal marketPrice) fee result
        slippageBps := result.slippageBps
        fillStatus := result.fillStatus
        requestedQuantity := result.requestedQuantity } ∧
    after = settleFee booked fee params.marketData.prices

theorem executeTrade_some (h : executeTrade math params portfolio = .ok (some r, after)) :
    (CancelledFill r ∧ after = portfolio) ∨
      (r.fillStatus ≠ .cancelled ∧ FilledTrade math params portfolio r after) := by
  unfold executeTrade at h
  simp only [pure_eq_ok] at h
  split at h
  · cases h
  rename_i marketPrice hprice
  obtain ⟨hprice, hne⟩ := Js.truthy?_eq_some.mp hprice
  split_ifs at h with hhold hvalid
  · cases h
  · obtain ⟨outcome, haction, h⟩ := bind_eq_ok.mp h
    cases outcome with
    | noTrade => cases h
    | cancelled =>
      cases h
      exact .inl ⟨executeAction_cancelled haction, rfl⟩
    | filled result booked =>
      obtain ⟨fee, hfee, h⟩ := bind_eq_ok.mp h
      cases h
      exact .inr ⟨executeAction_filled_status haction,
        ⟨marketPrice, result, booked, fee, hprice, hne, hvalid, executeAction_booked haction, hfee,
          rfl, rfl⟩⟩
  · cases h

end Chansey
