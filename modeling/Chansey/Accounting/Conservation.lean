import Chansey.Accounting.Equity

/-!
# Value conservation of the trade executor

Whether a trade moves value is a question about the position it meets. `ConservesValue` says what
an action on a coin must do for every signal, market and configuration; `MeetsNoShort` names the
portfolios on which it does.
-/

namespace Chansey

open Result

/-- A portfolio as the run holds it: no quantity is negative. -/
structure HeldPortfolio extends Portfolio where
  quantity_nonneg : ∀ coinId position, positions.get? coinId = some position → 0 ≤ position.quantity

/-- A close whose loss is larger than the margin it returns. -/
def LossCapped (portfolio : Portfolio) (signal : TradingSignal) (trade : BacktestTrade) : Prop :=
  signal.action = .closeShort ∧ ∃ existing, portfolio.positions.get? signal.coinId = some existing ∧
    (existing.averagePrice - trade.price) * trade.quantity < -returnedMargin existing trade.quantity

/-- **What value conservation asks of an action on a coin**, for every signal of that action. -/
structure ConservesValue (portfolio : Portfolio) (coinId : CoinId) (action : Action) : Prop where
  returned : ∀ math (params : ExecuteTradeParams) r after, params.signal.coinId = coinId →
    params.signal.action = action → executeTrade math params portfolio = .ok (some r, after) →
    ∀ price : CoinId → ℚ, price coinId = r.trade.price →
      equity after price = equity portfolio price - r.trade.fee.getD 0 ∨
        LossCapped portfolio params.signal r.trade
  unreturned : ∀ math (params : ExecuteTradeParams) after, params.signal.coinId = coinId →
    params.signal.action = action → executeTrade math params portfolio = .ok (none, after) →
    after = portfolio
  sell_short : action = .sell → ∀ math (params : ExecuteTradeParams) r after existing,
    params.signal.coinId = coinId → params.signal.action = action →
    executeTrade math params portfolio = .ok (some r, after) →
    portfolio.positions.get? coinId = some existing → existing.side = some .short →
    ∃ kept, after.positions.get? coinId = some kept ∧ kept.side = some .short ∧
      existing.quantity ≤ kept.quantity

/-- The action does not meet a short that it would sell, replace or buy into. -/
def MeetsNoShort (portfolio : Portfolio) (coinId : CoinId) (action : Action) : Prop :=
  ∀ existing, portfolio.positions.get? coinId = some existing → existing.side = some .short →
    match action with
    | .sell => existing.quantity = 0
    | .openShort => portfolio.cashBalance < 0 ∨
        existing.quantity = 0 ∧ existing.marginAmount.getD 0 = 0
    | .buy => 0 < existing.quantity ∨ portfolio.cashBalance ≤ 0 ∨
        MAX_PORTFOLIO_DEPLOYMENT ≤ deploymentRatio portfolio
    | _ => True

/-! ## Equity after a trade -/

section Forward

variable {math : Js.Math} {params : ExecuteTradeParams} {portfolio : HeldPortfolio}
  {after : Portfolio} {r : ExecuteTradeResult} {price : CoinId → ℚ}

theorem long_of_validate {signal : TradingSignal} {existing : Position}
    (hvalid : validatePositionConflicts signal portfolio.toPortfolio = true)
    (hget : portfolio.positions.get? signal.coinId = some existing) :
    (signal.action = .buy → existing.quantity = 0) ∧
      (signal.action = .openShort → existing.side ≠ some .short → existing.quantity = 0) := by
  have hq := portfolio.quantity_nonneg _ _ hget
  refine ⟨fun ha => ?_, fun ha hs => ?_⟩
  · simp only [validatePositionConflicts, ha, hget, not_lt, decide_eq_true_eq] at hvalid
    exact le_antisymm hvalid hq
  · simp only [validatePositionConflicts, ha, hget, hs, false_or, not_lt, decide_eq_true_eq]
      at hvalid
    exact le_antisymm hvalid hq

theorem executeTrade_equity
    (hmeets : MeetsNoShort portfolio.toPortfolio params.signal.coinId params.signal.action)
    (h : FilledTrade math params portfolio.toPortfolio r after)
    (hprice : price params.signal.coinId = r.trade.price) :
    equity after price = equity portfolio.toPortfolio price - r.trade.fee.getD 0 ∨
      LossCapped portfolio.toPortfolio params.signal r.trade := by
  obtain ⟨_, _, _, _, -, -, hvalid, hbkd, _, rfl, rfl⟩ := h.exists_booking
  simp only [equity_settleFee, tradeRow, Option.getD_some] at hprice ⊢
  cases hbkd with
  | buy fill estimate ha hfill hdeploy hest hcash hres =>
    rw [hres] at hprice
    dsimp only at hprice
    obtain ⟨hrate, hvalue, rfl⟩ := flatFee_eq_ok.mp hest
    left
    rw [sub_left_inj]
    -- either no short is met, or nothing was spent
    by_cases hshort : ∃ e, portfolio.positions.get? params.signal.coinId = some e ∧
        e.side = some .short
    · obtain ⟨e, hget, hs⟩ := hshort
      have hzero := (long_of_validate hvalid hget).1 ha
      have hm := hmeets e hget hs
      rw [ha] at hm
      dsimp only at hm
      have hcash0 : portfolio.cashBalance ≤ 0 := by
        rcases hm with hm | hm | hm
        · exact absurd hm (by rw [hzero]; exact lt_irrefl 0)
        · exact hm
        · exact absurd hm hdeploy
      have hspent : fill.quantity * fill.price = 0 := by
        have := mul_nonneg hvalue hrate
        linarith
      rw [bookBuy, equity_of_set rfl, hprice, entryEquity_of_get? hget]
      simp only [hget, Option.getD_some, Position.equityAt, hs, if_true, hzero, ne_eq,
        not_true_eq_false, if_false, hspent]
      ring
    · exact equity_bookBuy _ (fun e hget hs => hshort ⟨e, hget, hs⟩) hprice
  | sell e fill ha hget hq hfill hle hqty hp =>
    rw [hp] at hprice
    left
    by_cases hs : e.side = some .short
    · have hm := hmeets e hget hs
      rw [ha] at hm
      exact absurd hm hq
    · rw [equity_bookSell hget hs hprice]
  | openShort fill estimate ha hfill hest hcash hqty hp _ _ hleverage =>
    rw [hp] at hprice
    left
    rw [equity_bookOpenShort _ _ hprice]
    suffices hentry : entryEquity portfolio.toPortfolio params.signal.coinId fill.price = 0 by
      rw [hentry, sub_zero]
    cases hget : portfolio.positions.get? params.signal.coinId with
    | none => simp [entryEquity, hget]
    | some e =>
      rw [entryEquity_of_get? hget, Position.equityAt]
      by_cases hs : e.side = some .short
      · have hm := hmeets e hget hs
        rw [ha] at hm
        dsimp only at hm
        rcases hm with hneg | ⟨hq, hmarg⟩
        · obtain ⟨hrate, hvalue, rfl⟩ := flatFee_eq_ok.mp hest
          have hlev := (resolveShortLeverage_mem hleverage).1
          have hmarg := div_nonneg hvalue (one_pos.trans_le hlev).le
          have := mul_nonneg hvalue hrate
          linarith
        · rw [if_pos hs, hq, hmarg]
          ring
      · rw [if_neg hs, (long_of_validate hvalid hget).2 ha hs, zero_mul]
  | closeShort e fill ha hget hs hq hfill hle hqty hp =>
    rw [hp] at hprice
    rw [equity_bookCloseShort hget hs hq hle hprice]
    rcases le_or_gt (-returnedMargin e fill.quantity)
        ((e.averagePrice - fill.price) * fill.quantity) with hcap | hcap
    · left
      rw [max_eq_right hcap]
      ring
    · right
      refine ⟨ha, e, hget, ?_⟩
      dsimp only
      rw [hqty, hp]
      exact hcap

end Forward

/-! ## Orders without costs

An order at a given price, without slippage, volume limit, hold period or fee. It shows what an
action does to a position it meets. -/

def costFree (signal : TradingSignal) (price : ℚ) : ExecuteTradeParams where
  signal := signal
  marketData := { timestamp := 0, prices := OrdMap.empty.set signal.coinId price }
  tradingFee := 0
  slippageConfig := { type := .none }
  minHoldMs := 0
  maxAllocation := 0
  minAllocation := 0

section CostFree

variable (math : Js.Math) (signal : TradingSignal) (portfolio : Portfolio) {price : ℚ}

theorem applySlippageAndFill_costFree (hprice : 0 < price) (quantity : ℚ) (isBuy : Bool)
    (cap : Option ℚ) :
    applySlippageAndFill math (costFree signal price) price quantity isBuy cap =
      .ok (.filled ⟨0, price, quantity, .filled, none⟩) := by
  cases isBuy <;>
    simp [applySlippageAndFill, calculateSlippage, costFree, not_le.mpr hprice,
      calculateSlippageBps, SlippageConfig.build, applySlippage, assessFillability,
      Bind.bind, Except.bind]

theorem flatFee_zero {value : ℚ} (h : 0 ≤ value) : flatFee value 0 = .ok 0 :=
  flatFee_eq_ok.mpr ⟨le_refl 0, h, (mul_zero value).symm⟩

theorem executeTrade_costFree {result : ActionResult} {booked : Portfolio} (hprice : 0 < price)
    (hhard : Metadata.truthy signal.metadata "hardStopLoss" = false) (hhold : signal.action ≠ .hold)
    (hvalid : validatePositionConflicts signal portfolio = true)
    (hact : executeAction math (costFree signal price) price portfolio =
      .ok (.filled result booked)) (hbase : 0 ≤ feeBaseValue signal.action result) :
    executeTrade math (costFree signal price) portfolio =
      .ok (some
          { trade := tradeRow signal price 0 result, slippageBps := result.slippageBps,
            fillStatus := result.fillStatus, requestedQuantity := result.requestedQuantity },
        settleFee booked 0 (OrdMap.empty.set signal.coinId price)) := by
  have hmkt : Js.truthy? ((costFree signal price).marketData.prices.get? signal.coinId) =
      some price := by
    simp [costFree, Js.truthy?_some, hprice.ne']
  have hres : resolveBasePrice (costFree signal price).signal price = price := by
    simp [resolveBasePrice, costFree, hhard]
  unfold executeTrade
  rw [show (costFree signal price).signal = signal from rfl] at *
  simp only [hmkt, hhold, hvalid, not_true_eq_false, if_false, hres, hact]
  simp [Bind.bind, Except.bind, costFree, flatFee_zero hbase, pure, Except.pure]

@[simp] theorem costFree_signal : (costFree signal price).signal = signal := rfl
@[simp] theorem costFree_tradingFee : (costFree signal price).tradingFee = 0 := rfl

theorem executeSell_costFree {existing : Position} (hprice : 0 < price)
    (hget : portfolio.positions.get? signal.coinId = some existing) (hq : existing.quantity ≠ 0) :
    ∃ result, executeSell math (costFree signal price) price portfolio =
        .ok (.filled result (bookSell portfolio signal.coinId existing
          (calculateSellQuantity signal existing.quantity).quantity price)) ∧
      result.totalValue = (calculateSellQuantity signal existing.quantity).quantity * price := by
  have hhold : ¬ (0 : ℤ) < (costFree signal price).minHoldMs := lt_irrefl 0
  unfold executeSell
  simp only [costFree_signal, hget, hq, hhold, if_false, false_and, and_false,
    applySlippageAndFill_costFree math signal hprice, pure_eq_ok, ok_bind]
  exact ⟨_, rfl, rfl⟩

theorem executeBuy_costFree (hprice : 0 < price)
    (hdeploy : ¬ MAX_PORTFOLIO_DEPLOYMENT ≤ deploymentRatio portfolio)
    (hvalue : 0 ≤ (calculateBuyQuantity signal portfolio.totalValue price 0 0).quantity * price)
    (hcash : (calculateBuyQuantity signal portfolio.totalValue price 0 0).quantity * price ≤
      portfolio.cashBalance) :
    ∃ result, executeBuy math (costFree signal price) price portfolio =
        .ok (.filled result (bookBuy portfolio signal.coinId
          (calculateBuyQuantity signal portfolio.totalValue price 0 0).quantity price 0)) ∧
      result.price = price ∧
      result.totalValue =
        (calculateBuyQuantity signal portfolio.totalValue price 0 0).quantity * price := by
  have hmax : (costFree signal price).maxAllocation = 0 := rfl
  have hmin : (costFree signal price).minAllocation = 0 := rfl
  unfold executeBuy
  simp only [costFree_signal, costFree_tradingFee, hdeploy, hmax, hmin, if_false,
    applySlippageAndFill_costFree math signal hprice, flatFee_zero hvalue, pure_eq_ok, ok_bind, add_zero,
    not_lt.mpr hcash]
  exact ⟨_, rfl, rfl, rfl⟩

theorem executeOpenShort_costFree (hprice : 0 < price)
    (hmeta : signal.metadata.get? "leverage" = none)
    (hvalue : (calculateBuyQuantity signal portfolio.totalValue price 0 0).quantity = 0)
    (hcash : 0 ≤ portfolio.cashBalance) :
    ∃ result leverage, executeOpenShort math (costFree signal price) price portfolio =
        .ok (.filled result (bookOpenShort portfolio signal.coinId 0 price leverage 0)) ∧
      result.price = price ∧ result.quantity = 0 := by
  have hmax : (costFree signal price).maxAllocation = 0 := rfl
  have hmin : (costFree signal price).minAllocation = 0 := rfl
  have hfee : flatFee 0 0 = .ok 0 := flatFee_zero (le_refl 0)
  obtain ⟨leverage, hleverage⟩ : ∃ leverage,
      resolveShortLeverage signal (costFree signal price).defaultLeverage = some leverage := by
    unfold resolveShortLeverage
    rw [hmeta]
    exact ⟨_, rfl⟩
  unfold executeOpenShort
  simp only [costFree_signal, costFree_tradingFee, hmax, hmin, hvalue,
    applySlippageAndFill_costFree math signal hprice, hfee, hleverage, pure_eq_ok, ok_bind, zero_mul,
    zero_div, add_zero, not_lt.mpr hcash]
  exact ⟨_, _, rfl, rfl, rfl⟩

end CostFree

/-! ## Where value is not conserved -/

section Converse

variable {portfolio : HeldPortfolio} {coinId : CoinId} {existing : Position}

def anyMath : Js.Math := ⟨id, id, id, fun base _ => base⟩

section

variable (hget : portfolio.positions.get? coinId = some existing)
  (hside : existing.side = some .short)

include hget hside

theorem not_conservesValue_sell (hq : existing.quantity ≠ 0) :
    ¬ ConservesValue portfolio.toPortfolio coinId .sell := by
  intro h
  have hnn := portfolio.quantity_nonneg _ _ hget
  let signal : TradingSignal :=
    { action := .sell, coinId := coinId, quantity := some existing.quantity }
  have hsize : (calculateSellQuantity signal existing.quantity).quantity = existing.quantity := by
    simp [calculateSellQuantity, signal, Js.truthy?_some, hq]
  obtain ⟨_, hact, hvalue⟩ := executeSell_costFree anyMath signal
    portfolio.toPortfolio one_pos hget hq
  rw [hsize, mul_one] at *
  have htrade := executeTrade_costFree anyMath signal portfolio.toPortfolio one_pos rfl (by simp [signal])
    (by simp [validatePositionConflicts, signal]) hact (by simpa [feeBaseValue, signal, hvalue])
  obtain ⟨_, hkept, -, -⟩ := h.sell_short rfl _ _ _ _ _ rfl rfl htrade hget hside
  simp [settleFee, bookSell, signal] at hkept

theorem not_conservesValue_openShort (hcash : 0 ≤ portfolio.cashBalance)
    (hworth : ¬ (existing.quantity = 0 ∧ existing.marginAmount.getD 0 = 0)) :
    ¬ ConservesValue portfolio.toPortfolio coinId .openShort := by
  intro h
  let signal : TradingSignal := { action := .openShort, coinId := coinId, confidence := some 0 }
  -- at every price the replaced short would have to be worth nothing
  have hworthless : ∀ p : ℚ, 0 < p → existing.equityAt p = 0 := by
    intro p hp
    obtain ⟨_, leverage, hact, hpx, hqty⟩ := executeOpenShort_costFree anyMath signal
      portfolio.toPortfolio hp rfl (by simp [calculateBuyQuantity, signal]) hcash
    have htrade := executeTrade_costFree anyMath signal portfolio.toPortfolio hp rfl (by simp [signal])
      (by simp [validatePositionConflicts, signal, hget, hside]) hact
      (by simp [feeBaseValue, signal, hqty])
    rcases h.returned _ _ _ _ rfl rfl htrade (fun _ => p) (by simp [tradeRow, hpx]) with heq | hcap
    · have hopen : equity (bookOpenShort portfolio.toPortfolio coinId 0 p leverage 0)
          (fun _ => p) = _ := equity_bookOpenShort leverage 0 rfl
      rw [equity_settleFee, hopen, entryEquity_of_get? hget] at heq
      simp only [tradeRow, Option.getD_some] at heq
      linarith
    · simp [LossCapped, signal] at hcap
  have h1 := hworthless 1 one_pos
  have h2 := hworthless 2 two_pos
  simp only [Position.equityAt, hside, if_true] at h1 h2
  have hq : existing.quantity = 0 := by linarith
  exact hworth ⟨hq, by rw [hq] at h1; linarith⟩

theorem not_conservesValue_buy (hq : existing.quantity = 0) (hcash : 0 < portfolio.cashBalance)
    (hdeploy : ¬ MAX_PORTFOLIO_DEPLOYMENT ≤ deploymentRatio portfolio.toPortfolio) :
    ¬ ConservesValue portfolio.toPortfolio coinId .buy := by
  intro h
  let signal : TradingSignal :=
    { action := .buy, coinId := coinId, quantity := some portfolio.cashBalance }
  have hsize : (calculateBuyQuantity signal portfolio.totalValue 1 0 0).quantity =
      portfolio.cashBalance := by
    simp [calculateBuyQuantity, signal, Js.truthy?_some, hcash.ne']
  obtain ⟨_, hact, hpx, hvalue⟩ := executeBuy_costFree anyMath signal
    portfolio.toPortfolio one_pos hdeploy
    (by rw [hsize, mul_one]; exact hcash.le) (by rw [hsize, mul_one])
  rw [hsize, mul_one] at *
  have htrade := executeTrade_costFree anyMath signal portfolio.toPortfolio one_pos rfl (by simp [signal])
    (by simp [validatePositionConflicts, signal, hget, hq]) hact
    (by simpa [feeBaseValue, signal, hvalue] using hcash.le)
  rcases h.returned _ _ _ _ rfl rfl htrade (fun _ => 1) (by simp [tradeRow, hpx]) with heq | hcap
  · rw [equity_settleFee, bookBuy, equity_of_set rfl, entryEquity_of_get? hget] at heq
    simp [tradeRow, Position.equityAt, hget, signal, hside, hq] at heq
    linarith
  · simp [LossCapped, signal] at hcap

end

end Converse

/-- **An action conserves value exactly when it does not meet a short that it would sell, replace
or buy into.** -/
theorem conservesValue_iff (portfolio : HeldPortfolio) (coinId : CoinId) (action : Action) :
    ConservesValue portfolio.toPortfolio coinId action ↔
      MeetsNoShort portfolio.toPortfolio coinId action := by
  constructor
  · intro h existing hget hside
    cases action with
    | sell =>
      by_contra hq
      exact not_conservesValue_sell hget hside hq h
    | openShort =>
      by_contra hc
      simp only [not_or, not_lt] at hc
      exact not_conservesValue_openShort hget hside hc.1 hc.2 h
    | buy =>
      by_contra hc
      simp only [not_or, not_lt, not_le] at hc
      have hq := le_antisymm hc.1 (portfolio.quantity_nonneg _ _ hget)
      exact not_conservesValue_buy hget hside hq hc.2.1 (not_le.mpr hc.2.2) h
    | hold | closeShort => trivial
  · intro hmeets
    refine ⟨?_, ?_, ?_⟩
    · rintro math params r after rfl rfl h price hprice
      rcases executeTrade_some h with ⟨hcancelled, rfl⟩ | ⟨-, hfilled⟩
      · simp [hcancelled.fee]
      · exact executeTrade_equity hmeets hfilled hprice
    · intro math params after _ _ h
      exact executeTrade_none h
    · rintro ha math params r after existing rfl hsell h hget hside
      have hm := hmeets existing hget hside
      rw [ha] at hm
      rcases executeTrade_some h with ⟨-, rfl⟩ | ⟨-, hfilled⟩
      · exact ⟨existing, hget, hside, le_refl _⟩
      · obtain ⟨_, _, _, _, -, -, -, hbooked, -⟩ := hfilled.exists_booking
        cases hbooked with
        | sell e fill _ hget' hq =>
          cases hget.symm.trans hget'
          exact absurd hm hq
        | buy fill estimate hother | openShort fill estimate hother | closeShort e fill hother =>
          rw [hsell.trans ha] at hother; cases hother

def heldShort : Portfolio :=
  bookOpenShort (startPortfolio 1000) "btc" 1 100 2 0

def openHeldShort : TradingSignal :=
  { action := .openShort, coinId := "btc", quantity := some 1
    metadata := OrdMap.empty.set "leverage" (.num 2) }

/-- **A sell signal closes a held short and credits its notional value**: the executor opens
`heldShort`, then sells it at `100` for `100`, and equity grows from `1000` to `1050`. -/
theorem sell_closes_heldShort :
    (executeTrade anyMath (costFree openHeldShort 100) (startPortfolio 1000)).map
        (fun x => (x.2.positions, x.2.cashBalance)) =
      .ok (heldShort.positions, heldShort.cashBalance) ∧
    (executeTrade anyMath (costFree { action := .sell, coinId := "btc", quantity := some 1 } 100)
        heldShort).map (fun x => (x.2.positions.size, equity x.2 fun _ => 100)) = .ok (0, 1050) ∧
    equity heldShort (fun _ => 100) = 1000 ∧ ¬ ConservesValue heldShort "btc" .sell := by
  have hheld : ∀ coinId position, heldShort.positions.get? coinId = some position →
      0 ≤ position.quantity := by
    intro coinId position h
    by_cases hc : "btc" = coinId
    · subst hc
      cases h
      exact zero_le_one
    · simp [heldShort, bookOpenShort, startPortfolio, OrdMap.get?_set, hc] at h
  have hshort : ∃ existing, heldShort.positions.get? "btc" = some existing ∧
      existing.side = some .short ∧ existing.quantity ≠ 0 := ⟨_, rfl, rfl, one_ne_zero⟩
  obtain ⟨_, hget, hside, hq⟩ := hshort
  exact ⟨by decide +kernel, by decide +kernel, by decide +kernel, fun h =>
    not_conservesValue_sell (show (HeldPortfolio.mk heldShort hheld).positions.get? "btc" = _ from hget)
      hside hq h⟩

end Chansey
