import Chansey.Executor.ForcedExit
import Chansey.Executor.TradeSpec
import Chansey.Lib.Run

/-!
# Margin in use

The margin of the open shorts, and the total the portfolio keeps of it by hand. A run trades
signals, liquidates, closes delisted positions and revalues, in any order.
-/

namespace Chansey

open Result Run

/-! ## Runs of a portfolio -/

/-- What a run is set up with, as far as its portfolio depends on it. -/
structure PortfolioEnv where
  math : Js.Math
  slippage : Option SlippageSnapshot := none
  regimeRiskLevel : Option ℤ := none
  coinMap : OrdMap CoinId Coin := OrdMap.empty
  quoteCoin : Coin := ⟨"", ""⟩
  delistingDates : OrdMap CoinId Instant := OrdMap.empty
  delistingPenalty : ℚ := 9 / 10

inductive PortfolioEvent where
  | signal (order : ExecuteTradeParams)
  | liquidations (marketData : MarketData)
  | delistingExits (lastKnownPrices : OrdMap CoinId ℚ) (timestamp : Instant)
  | revaluation (prices : OrdMap CoinId ℚ)

/-- The order as the run executes it, at the slippage of its configuration. -/
def PortfolioEnv.order (env : PortfolioEnv) (order : ExecuteTradeParams) : ExecuteTradeParams :=
  { order with slippageConfig := buildSlippageConfig env.slippage env.regimeRiskLevel }

def portfolioStep (env : PortfolioEnv) (portfolio : Portfolio) :
    PortfolioEvent → Except LoopError Portfolio
  | .signal order => (executeTrade env.math (env.order order) portfolio).map (·.2)
  | .liquidations marketData =>
    .ok (checkAndApplyLiquidations portfolio marketData env.coinMap env.quoteCoin).2
  | .delistingExits lastKnownPrices timestamp =>
    .ok (checkAndApplyDelistingExits portfolio env.delistingDates lastKnownPrices timestamp
      env.delistingPenalty none env.coinMap env.quoteCoin).2.1
  | .revaluation prices => .ok (updateValues portfolio prices)

/-! ## The margin of the open shorts -/

def Position.margin (p : Position) : ℚ := p.marginAmount.getD 0

def Position.shortMargin (p : Position) : ℚ := if p.side = some .short then p.margin else 0

def openMargin (positions : OrdMap CoinId Position) : ℚ := positions.sumBy fun _ p => p.shortMargin

/-- **The total is exact**: the sum over the open shorts, and `0` when no short is open. -/
structure MarginExact (portfolio : Portfolio) : Prop where
  total_eq : portfolio.totalMarginUsed = openMargin portfolio.positions
  total_zero : (∀ coinId p, portfolio.positions.get? coinId = some p → p.side ≠ some .short) →
    portfolio.totalMarginUsed = 0

structure Position.MarginOk (p : Position) : Prop where
  margin_eq : p.margin = p.shortMargin
  nonneg : 0 ≤ p.margin
  quantity_pos : p.margin ≠ 0 → 0 < p.quantity

structure MarginBooked (positions : OrdMap CoinId Position) (total : ℚ) : Prop where
  total_eq : total = openMargin positions
  marginOk : ∀ coinId p, positions.get? coinId = some p → p.MarginOk

section Booked

variable {positions : OrdMap CoinId Position} {total : ℚ} {coinId : CoinId} {p old : Position}

def entryMargin (positions : OrdMap CoinId Position) (coinId : CoinId) : ℚ :=
  (positions.get? coinId).elim 0 Position.shortMargin

theorem entryMargin_of_get? (h : positions.get? coinId = some p) :
    entryMargin positions coinId = p.shortMargin := by
  rw [entryMargin, h, Option.elim_some]

theorem Position.MarginOk.of_same (h : old.MarginOk) (hside : p.side = old.side)
    (hmarg : p.margin = old.margin) (hq : p.margin ≠ 0 → 0 < p.quantity) : p.MarginOk := by
  refine ⟨?_, ?_, hq⟩
  · rw [hmarg, h.margin_eq, Position.shortMargin, Position.shortMargin, hside, hmarg]
  · rw [hmarg]
    exact h.nonneg

theorem Position.MarginOk.of_zero (hmarg : p.margin = 0) : p.MarginOk := by
  refine ⟨?_, hmarg.ge, fun h => absurd hmarg h⟩
  rw [Position.shortMargin, hmarg, ite_self]

section

variable (h : MarginBooked positions total)

include h

theorem MarginBooked.set (coinId : CoinId) (hp : p.MarginOk) :
    MarginBooked (positions.set coinId p)
      (total - entryMargin positions coinId + p.shortMargin) := by
  refine ⟨?_, fun c q hq => ?_⟩
  · have hsum := OrdMap.sumBy_set (fun _ (p : Position) => p.shortMargin) positions coinId p
    rw [h.total_eq, openMargin, openMargin, entryMargin]
    linarith
  · rw [OrdMap.get?_set] at hq
    split_ifs at hq with hc
    · cases hq
      exact hp
    · exact h.marginOk c q hq

theorem MarginBooked.erase (coinId : CoinId) :
    MarginBooked (positions.erase coinId) (total - entryMargin positions coinId) := by
  refine ⟨?_, fun c q hq => ?_⟩
  · have hsum := OrdMap.sumBy_erase (fun _ (p : Position) => p.shortMargin) positions coinId
    rw [h.total_eq, openMargin, openMargin, entryMargin]
    linarith
  · rw [OrdMap.get?_erase] at hq
    split_ifs at hq
    exact h.marginOk c q hq

theorem MarginBooked.map {f : CoinId → Position → Position} (hside : ∀ c p, (f c p).side = p.side)
    (hmarg : ∀ c p, (f c p).margin = p.margin) (hq : ∀ c p, (f c p).quantity = p.quantity) :
    MarginBooked (positions.map f) total := by
  refine ⟨?_, fun c q hget => ?_⟩
  · rw [h.total_eq, openMargin, openMargin, OrdMap.sumBy_map]
    refine OrdMap.sumBy_congr fun e _ => ?_
    rw [Position.shortMargin, Position.shortMargin, hside, hmarg]
  · rw [OrdMap.get?_map] at hget
    obtain ⟨p, hp, rfl⟩ := Option.map_eq_some_iff.mp hget
    have hok := h.marginOk c p hp
    refine hok.of_same (hside c p) (hmarg c p) fun hne => ?_
    rw [hq]
    exact hok.quantity_pos (by rwa [hmarg] at hne)

theorem MarginBooked.entryMargin_le (coinId : CoinId) : entryMargin positions coinId ≤ total := by
  have herase := (h.erase coinId).total_eq
  have hnn : 0 ≤ openMargin (positions.erase coinId) := by
    refine List.sum_nonneg fun m hm => ?_
    obtain ⟨e, he, rfl⟩ := List.mem_map.mp hm
    have hok := (h.erase coinId).marginOk e.1 e.2 (OrdMap.get?_eq_some_iff.mpr he)
    change 0 ≤ e.2.shortMargin
    rw [← hok.margin_eq]
    exact hok.nonneg
  linarith

end

theorem MarginBooked.marginExact {portfolio : Portfolio}
    (h : MarginBooked portfolio.positions portfolio.totalMarginUsed) : MarginExact portfolio := by
  refine ⟨h.total_eq, fun hlong => ?_⟩
  rw [h.total_eq, openMargin]
  refine List.sum_eq_zero fun m hm => ?_
  obtain ⟨e, he, rfl⟩ := List.mem_map.mp hm
  exact if_neg (hlong e.1 e.2 (OrdMap.get?_eq_some_iff.mpr he))

end Booked

/-! ## What each event does to the total -/

def SellsAll (env : PortfolioEnv) (order : ExecuteTradeParams) (p : Position) : Prop :=
  ∃ price, order.marketData.prices.get? order.signal.coinId = some price ∧
    (calculateSellQuantity order.signal p.quantity).quantity = p.quantity ∧
    assessedStatus env.math (env.order order) (resolveBasePrice order.signal price) p.quantity
      false = .filled

/-- **The events that release the margin they remove**: no sell of the whole of a short with
margin, no short opened over such a short, no delisting exit of one. -/
def MarginSafe (env : PortfolioEnv) (portfolio : Portfolio) : PortfolioEvent → Prop
  | .signal order =>
    ∀ p, portfolio.positions.get? order.signal.coinId = some p → p.side = some .short →
      p.margin ≠ 0 → order.signal.action ≠ .openShort ∧
        (order.signal.action = .sell → ¬ SellsAll env order p)
  | .delistingExits _ timestamp =>
    ∀ coinId p, portfolio.positions.get? coinId = some p → p.side = some .short →
      (delistedSince env.delistingDates timestamp coinId).isSome → p.margin = 0
  | _ => True

section Step

variable {env : PortfolioEnv} {portfolio after : Portfolio} {order : ExecuteTradeParams}

theorem env_sell_pos {base quantity : ℚ} (hbase : 0 < base) :
    0 < slippedPrice env.math (env.order order) base quantity false :=
  slippedPrice_sell_pos hbase (buildSlippageConfig_maxSlippageBps _ _) (by norm_num)

theorem marginBooked_buy (h : MarginBooked portfolio.positions portfolio.totalMarginUsed)
    (coinId : CoinId) (quantity price : ℚ) (timestamp : Instant)
    (hvalid : ∀ p, portfolio.positions.get? coinId = some p → ¬ 0 < p.quantity) :
    MarginBooked (bookBuy portfolio coinId quantity price timestamp).positions
      portfolio.totalMarginUsed := by
  have hset : ∀ p : Position, p.MarginOk → p.shortMargin = entryMargin portfolio.positions coinId →
      MarginBooked (portfolio.positions.set coinId p) portfolio.totalMarginUsed := by
    intro p hok heq
    have hbkd := h.set coinId hok
    rwa [heq, sub_add_cancel] at hbkd
  refine hset _ ?_ ?_
  · cases hget : portfolio.positions.get? coinId with
    | none => exact Position.MarginOk.of_zero rfl
    | some e =>
      -- a position that may be bought into has no quantity, so it has no margin
      have hok := h.marginOk coinId e hget
      refine Position.MarginOk.of_zero (not_not.mp fun hne => hvalid e hget (hok.quantity_pos hne))
  · cases hget : portfolio.positions.get? coinId with
    | none =>
      rw [entryMargin, hget]
      rfl
    | some =>
      rw [entryMargin_of_get? hget]
      rfl

variable {coinId : CoinId} {quantity price : ℚ} {positions : OrdMap CoinId Position}

section

variable (h : MarginBooked portfolio.positions portfolio.totalMarginUsed)

include h

theorem marginBooked_sell {existing : Position}
    (hget : portfolio.positions.get? coinId = some existing) (hle : quantity ≤ existing.quantity)
    (hall : quantity = existing.quantity → existing.shortMargin = 0) :
    MarginBooked (bookSell portfolio coinId existing quantity price).positions
      portfolio.totalMarginUsed := by
  have hok := h.marginOk coinId existing hget
  unfold bookSell
  dsimp only
  split_ifs with hr
  · have hbkd := h.erase coinId
    rwa [entryMargin_of_get? hget, hall (by linarith), sub_zero] at hbkd
  · have hbkd := h.set coinId
      (hok.of_same (p := { existing with
          quantity := existing.quantity - quantity,
          totalValue := (existing.quantity - quantity) * price }) rfl rfl
        fun _ => lt_of_le_of_ne (sub_nonneg.mpr hle) (Ne.symm hr))
    rw [entryMargin_of_get? hget] at hbkd
    convert hbkd using 1
    simp [Position.shortMargin, Position.margin]

theorem marginBooked_openShort {quantity price leverage : ℚ} (timestamp : Instant)
    (hprice : 0 < price) (hvalue : 0 ≤ quantity * price) (hlev : 1 ≤ leverage)
    (hentry : entryMargin portfolio.positions coinId = 0) :
    MarginBooked (bookOpenShort portfolio coinId quantity price leverage timestamp).positions
      (bookOpenShort portfolio coinId quantity price leverage timestamp).totalMarginUsed := by
  have hmarg : 0 ≤ quantity * price / leverage := div_nonneg hvalue (by linarith)
  have hok : Position.MarginOk
      { quantity := quantity, averagePrice := price, totalValue := quantity * price / leverage,
        side := some .short, leverage := some leverage,
        marginAmount := some (quantity * price / leverage),
        liquidationPrice := some (calculateShortLiquidationPrice price leverage),
        entryDate := some timestamp } := by
    refine ⟨rfl, hmarg, fun hne => ?_⟩
    have hq : 0 ≤ quantity := nonneg_of_mul_nonneg_left hvalue hprice
    refine lt_of_le_of_ne hq fun h0 => hne ?_
    change 0 = quantity at h0
    simp [Position.margin, ← h0]
  have hbkd := h.set coinId hok
  rw [hentry, sub_zero] at hbkd
  exact hbkd

theorem marginBooked_closeShort {existing : Position}
    (hget : portfolio.positions.get? coinId = some existing) (hside : existing.side = some .short)
    (hq : existing.quantity ≠ 0) (hle : quantity ≤ existing.quantity) :
    MarginBooked (bookCloseShort portfolio coinId existing quantity price).positions
      (bookCloseShort portfolio coinId existing quantity price).totalMarginUsed := by
  have hok := h.marginOk coinId existing hget
  have hshort : existing.shortMargin = existing.margin := hok.margin_eq.symm
  have hentry : existing.margin ≤ portfolio.totalMarginUsed := by
    have := h.entryMargin_le coinId
    rwa [entryMargin_of_get? hget, hshort] at this
  -- the returned share of the margin is at most the margin
  have hretd : returnedMargin existing quantity ≤ existing.margin := by
    by_cases hzero : existing.margin = 0
    · have : existing.marginAmount.getD 0 = 0 := hzero
      rw [returnedMargin, this, zero_mul, hzero]
    · have hshare : quantity / existing.quantity ≤ 1 :=
        (div_le_one (hok.quantity_pos hzero)).mpr hle
      exact mul_le_of_le_one_right hok.nonneg hshare
  have htotal : max 0 (portfolio.totalMarginUsed - returnedMargin existing quantity) =
      portfolio.totalMarginUsed - returnedMargin existing quantity :=
    max_eq_right (by linarith)
  unfold bookCloseShort
  dsimp only
  rw [htotal]
  split_ifs with hr
  · have hall : quantity = existing.quantity := le_antisymm hle (by linarith)
    have hbkd := h.erase coinId
    rw [entryMargin_of_get? hget, hshort] at hbkd
    have hret : returnedMargin existing quantity = existing.margin := by
      rw [returnedMargin, hall, div_self hq, mul_one]
      rfl
    rwa [hret]
  · have hpos : 0 < existing.quantity - quantity := not_le.mp hr
    have hbkd := h.set coinId (p := { existing with
        quantity := existing.quantity - quantity
        marginAmount := some (existing.marginAmount.getD 0 - returnedMargin existing quantity)
        totalValue := existing.marginAmount.getD 0 - returnedMargin existing quantity +
          (existing.averagePrice - price) * (existing.quantity - quantity) })
      ⟨by simp [Position.shortMargin, hside], by
        simpa [Position.margin] using sub_nonneg.mpr hretd, fun _ => hpos⟩
    rw [entryMargin_of_get? hget, hshort] at hbkd
    convert hbkd using 1
    simp [Position.shortMargin, Position.margin, hside]

end

theorem marginBooked_foldl_release (es : List (CoinId × Position × ℚ)) {total : ℚ}
    (h : MarginBooked positions total) (hnodup : (es.map Prod.fst).Nodup)
    (hget : ∀ e ∈ es, positions.get? e.1 = some e.2.1) :
    MarginBooked (es.foldl (fun m e => m.erase e.1) positions)
      (es.foldl (fun m e => releaseMargin m (e.2.1.marginAmount.getD 0)) total) := by
  induction es generalizing positions total with
  | nil => exact h
  | cons e es ih =>
    rw [List.map_cons, List.nodup_cons] at hnodup
    have he := hget e List.mem_cons_self
    have hentry : entryMargin positions e.1 = e.2.1.margin := by
      rw [entryMargin_of_get? he, (h.marginOk e.1 e.2.1 he).margin_eq]
    have hrelease : releaseMargin total (e.2.1.marginAmount.getD 0) =
        total - entryMargin positions e.1 := by
      have hle := h.entryMargin_le e.1
      rw [hentry] at hle ⊢
      exact max_eq_right (sub_nonneg.mpr hle)
    rw [List.foldl_cons, List.foldl_cons, hrelease]
    refine ih (h.erase e.1) hnodup.2 fun e' he' => ?_
    have hne : e.1 ≠ e'.1 := fun heq => hnodup.1 (heq ▸ List.mem_map_of_mem he')
    rw [OrdMap.get?_erase_of_ne _ hne]
    exact hget e' (List.mem_cons_of_mem e he')

theorem marginBooked_liquidations
    (h : MarginBooked portfolio.positions portfolio.totalMarginUsed) (marketData : MarketData)
    (coinMap : OrdMap CoinId Coin) (quoteCoin : Coin) :
    MarginBooked
      (checkAndApplyLiquidations portfolio marketData coinMap quoteCoin).2.positions
      (checkAndApplyLiquidations portfolio marketData coinMap quoteCoin).2.totalMarginUsed := by
  refine marginBooked_foldl_release _ h ?_ fun e he => (mem_liquidatedPositions.mp he).1
  have hsub : ((liquidatedPositions portfolio marketData.prices).map Prod.fst).Sublist
      portfolio.positions.keys := liquidatedPositions_sublist portfolio marketData.prices
  exact hsub.nodup portfolio.positions.nodup

theorem marginBooked_foldl_erase {β : Type} (es : List (CoinId × β)) {total : ℚ}
    (h : MarginBooked positions total)
    (hzero : ∀ e ∈ es, ∀ p, positions.get? e.1 = some p → p.shortMargin = 0) :
    MarginBooked (es.foldl (fun m e => m.erase e.1) positions) total := by
  induction es generalizing positions with
  | nil => exact h
  | cons e es ih =>
    have hentry : entryMargin positions e.1 = 0 := by
      cases hget : positions.get? e.1 with
      | none => rw [entryMargin, hget, Option.elim_none]
      | some p => rw [entryMargin_of_get? hget, hzero e List.mem_cons_self p hget]
    have hbkd := h.erase e.1
    rw [hentry, sub_zero] at hbkd
    refine ih hbkd fun e' he' p hp => ?_
    rw [OrdMap.get?_erase] at hp
    split_ifs at hp
    exact hzero e' (List.mem_cons_of_mem e he') p hp

theorem marginBooked_signal (h : MarginBooked portfolio.positions portfolio.totalMarginUsed)
    (hsafe : MarginSafe env portfolio (.signal order))
    (hstep : portfolioStep env portfolio (.signal order) = .ok after) :
    MarginBooked after.positions after.totalMarginUsed := by
  obtain ⟨⟨result?, _⟩, hrun, rfl⟩ := map_eq_ok.mp hstep
  cases result? with
  | none =>
    rw [executeTrade_none hrun]
    exact h
  | some =>
    rcases executeTrade_some hrun with ⟨-, rfl⟩ | ⟨-, hfld⟩
    · exact h
    obtain ⟨market, _, booked, _, hmkt, -, hvalid, hbkd, -, -, rfl⟩ := hfld.exists_booking
    change MarginBooked booked.positions booked.totalMarginUsed
    have hsig : (env.order order).signal = order.signal := rfl
    rw [hsig] at hmkt hvalid
    cases hbkd with
    | buy fill estimate ha =>
      refine marginBooked_buy h _ _ _ _ fun p hp => ?_
      rw [hsig] at ha hp
      simpa [validatePositionConflicts, ha, hp] using hvalid
    | sell e fill ha hget hq hfill hle =>
      rw [hsig] at ha hget hfill
      refine marginBooked_sell h hget hle fun hall => ?_
      -- only a sell of the whole of a short with margin would lose it
      by_contra hmarg
      have hside : e.side = some .short := by
        by_contra hs
        exact hmarg (if_neg hs)
      have hne : e.margin ≠ 0 := by
        rw [Position.shortMargin, if_pos hside] at hmarg
        exact hmarg
      obtain ⟨hbase, hprice, -, -⟩ := applySlippageAndFill_filled hfill
      obtain ⟨hstat, hbound⟩ := applySlippageAndFill_status hfill
      have hbound := hbound (by rw [hprice]; exact env_sell_pos hbase)
      have hsize : (calculateSellQuantity order.signal e.quantity).quantity = e.quantity :=
        le_antisymm (calculateSellQuantity_le _ _) (hall ▸ hbound.1)
      rw [hsize] at hstat hbound
      refine (hsafe e hget hside hne).2 ha ⟨market, hmkt, hsize, ?_⟩
      rw [← hstat]
      by_contra hcapd
      exact absurd (hbound.2 hcapd) (by rw [hall]; exact lt_irrefl _)
    | openShort fill fee' ha hfill hfee _ _ _ _ _ hleverage =>
      rw [hsig] at ha
      obtain ⟨hbase, hprice, -, -⟩ := applySlippageAndFill_filled hfill
      refine marginBooked_openShort h _ (by rw [hprice]; exact env_sell_pos hbase)
        (flatFee_eq_ok.mp hfee).2.1 (resolveShortLeverage_mem hleverage).1 ?_
      rw [hsig]
      cases hget : portfolio.positions.get? order.signal.coinId with
      | none => rw [entryMargin, hget, Option.elim_none]
      | some e =>
        rw [entryMargin_of_get? hget, Position.shortMargin]
        by_cases hside : e.side = some .short
        · rw [if_pos hside]
          by_contra hne
          exact (hsafe e hget hside hne).1 ha
        · rw [if_neg hside]
    | closeShort e fill ha hget hside hq hfill hle =>
      exact marginBooked_closeShort h hget hside hq hle

theorem marginBooked_step (event : PortfolioEvent)
    (h : MarginBooked portfolio.positions portfolio.totalMarginUsed)
    (hsafe : MarginSafe env portfolio event)
    (hstep : portfolioStep env portfolio event = .ok after) :
    MarginBooked after.positions after.totalMarginUsed := by
  cases event with
  | signal => exact marginBooked_signal h hsafe hstep
  | liquidations marketData =>
    cases hstep
    exact marginBooked_liquidations h marketData _ _
  | delistingExits =>
    cases hstep
    refine marginBooked_foldl_erase _ h fun e he p hp => ?_
    obtain ⟨-, hdate⟩ := mem_delistedPositions.mp he
    rw [Position.shortMargin]
    split_ifs with hside
    · exact hsafe e.1 p hp hside (by rw [hdate, Option.isSome_some])
    · rfl
  | revaluation prices =>
    cases hstep
    exact MarginBooked.map h
      (f := fun coinId p => { p with totalValue := getPositionValue p (prices.get? coinId) true })
      (fun _ _ => rfl) (fun _ _ => rfl) (fun _ _ => rfl)

end Step

theorem marginBooked_start (initialCapital : ℚ) :
    MarginBooked (startPortfolio initialCapital).positions
      (startPortfolio initialCapital).totalMarginUsed :=
  ⟨rfl, fun _ _ h => by cases h⟩

/-- **The margin total is exact in every state of a run whose events release the margin they
remove.** -/
theorem marginExact_run (env : PortfolioEnv) (initialCapital : ℚ) (events : List PortfolioEvent)
    (after : Portfolio)
    (hsafe : StepsMeet (portfolioStep env) (MarginSafe env) (startPortfolio initialCapital) events)
    (hrun : run (portfolioStep env) (startPortfolio initialCapital) events = .ok after) :
    MarginExact after := by
  refine MarginBooked.marginExact ?_
  refine run_invariant (fun p => MarginBooked p.positions p.totalMarginUsed)
    (fun p event p' h hok hstep => ?_) (marginBooked_start initialCapital) hsafe hrun
  exact marginBooked_step event h hok hstep

def calmEnv : PortfolioEnv where
  math := ⟨id, id, id, fun base _ => base⟩
  slippage := some { model := some "none" }

def unitOrder (action : Action) : ExecuteTradeParams where
  signal :=
    { action := action, coinId := "btc", quantity := some 1
      metadata := OrdMap.empty.set "leverage" (.num 2) }
  marketData := { timestamp := 0, prices := OrdMap.empty.set "btc" 100 }
  tradingFee := 0
  minHoldMs := 0

theorem marginExact_openAndClose :
    ∃ after, run (portfolioStep calmEnv) (startPortfolio 1000)
        [.signal (unitOrder .openShort), .signal (unitOrder .closeShort)] = .ok after ∧
      MarginExact after := by
  have hrun : (run (portfolioStep calmEnv) (startPortfolio 1000)
      [.signal (unitOrder .openShort), .signal (unitOrder .closeShort)]).map
        (·.totalMarginUsed) = .ok 0 := by decide +kernel
  obtain ⟨after, hafter, -⟩ := map_eq_ok.mp hrun
  refine ⟨after, hafter, marginExact_run calmEnv 1000 _ after ?_ hafter⟩
  refine ⟨fun p hp => ?_, fun s' _ => ⟨fun p _ _ _ => ⟨?_, fun hsell => ?_⟩, fun _ _ => trivial⟩⟩
  · cases hp
  · decide
  · exact absurd hsell (by decide)

/-- **A short that is sold leaks its margin**: `50` stays in use with no position open. -/
theorem sold_short_leaks_margin :
    (run (portfolioStep calmEnv) (startPortfolio 1000)
        [.signal (unitOrder .openShort), .signal (unitOrder .sell)]).map
        (fun p => (p.totalMarginUsed, p.positions.size)) = .ok (50, 0) ∧
      ¬ ∀ env initialCapital events after,
        run (portfolioStep env) (startPortfolio initialCapital) events = .ok after →
          MarginExact after := by
  have hrun : (run (portfolioStep calmEnv) (startPortfolio 1000)
      [.signal (unitOrder .openShort), .signal (unitOrder .sell)]).map
        (fun p => (p.totalMarginUsed, p.positions.size)) = .ok (50, 0) := by decide +kernel
  refine ⟨hrun, fun h => ?_⟩
  obtain ⟨after, hafter, heq⟩ := map_eq_ok.mp hrun
  obtain ⟨htotal, hsize⟩ := Prod.mk.inj heq
  have hnone : ∀ coinId p, after.positions.get? coinId = some p → p.side ≠ some .short := by
    intro coinId p hp
    have hentries : after.positions.entries = [] := List.length_eq_zero_iff.mp hsize
    have hmem := OrdMap.get?_eq_some_iff.mp hp
    rw [hentries] at hmem
    cases hmem
  have hzero := (h calmEnv 1000 _ after hafter).total_zero hnone
  rw [htotal] at hzero
  norm_num at hzero

end Chansey
