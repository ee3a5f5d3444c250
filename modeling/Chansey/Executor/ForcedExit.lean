import Chansey.Exit.Tracker
import Chansey.Executor.Trade

/-!
# Forced exits

Liquidation of leveraged positions whose liquidation price is breached, and the exit of positions
whose coin is delisted.
-/

namespace Chansey

def isLiquidated (position : Position) (currentPrice : ℚ) : Bool :=
  match (Js.truthy? position.leverage).filter (1 < ·), position.liquidationPrice with
  | some _, some liquidationPrice =>
    if position.side = some .short then liquidationPrice ≤ currentPrice
    else currentPrice ≤ liquidationPrice
  | _, _ => false

/-! ## Liquidation -/

def liquidationAt (prices : OrdMap CoinId ℚ) (coinId : CoinId) (position : Position) : Option ℚ :=
  match (Js.truthy? position.leverage).filter (1 < ·) with
  | none => none
  | some _ => (prices.get? coinId).filter (isLiquidated position)

/-- A forced exit of a short is recorded as a buy. -/
def forcedTradeType (position : Position) : TradeType :=
  if position.side = some .short then .buy else .sell

/-- The row of a liquidation. It has no `backtest` relation. -/
def liquidationTrade (coinMap : OrdMap CoinId Coin) (quoteCoin : Coin) (coinId : CoinId)
    (position : Position) (currentPrice : ℚ) : BacktestTrade :=
  let marginLost := position.marginAmount.getD 0
  { type := some (forcedTradeType position)
    quantity := position.quantity
    price := currentPrice
    totalValue := some 0
    fee := some 0
    realizedPnL := some (-marginLost)
    realizedPnLPercent := some (-1)
    costBasis := some position.averagePrice
    positionSide := position.side
    leverage := position.leverage
    liquidationPrice := position.liquidationPrice
    marginUsed := some marginLost
    baseCoin := (coinMap.get? coinId).map (·.id)
    quoteCoin := some quoteCoin.id
    metadata := OrdMap.empty.set "liquidated" (.bool true) }

def liquidatedPositions (portfolio : Portfolio) (prices : OrdMap CoinId ℚ) :
    List (CoinId × Position × ℚ) :=
  portfolio.positions.entries.filterMap fun e =>
    (liquidationAt prices e.1 e.2).map fun price => (e.1, e.2, price)

def releaseMargin (totalMarginUsed marginLost : ℚ) : ℚ := max 0 (totalMarginUsed - marginLost)

def checkAndApplyLiquidations (portfolio : Portfolio) (marketData : MarketData)
    (coinMap : OrdMap CoinId Coin) (quoteCoin : Coin) : List BacktestTrade × Portfolio :=
  let liquidated := liquidatedPositions portfolio marketData.prices
  let positions := liquidated.foldl (fun m e => m.erase e.1) portfolio.positions
  (liquidated.map fun e => liquidationTrade coinMap quoteCoin e.1 e.2.1 e.2.2,
    { portfolio with
      positions := positions
      totalMarginUsed := liquidated.foldl
        (fun m e => releaseMargin m (e.2.1.marginAmount.getD 0)) portfolio.totalMarginUsed
      totalValue :=
        if liquidated.isEmpty then portfolio.totalValue
        else portfolio.cashBalance + calculatePositionsValue positions marketData.prices })

/-! ## Delisting -/

def delistedSince (delistingDates : OrdMap CoinId Instant) (timestamp : Instant) (coinId : CoinId) :
    Option Instant :=
  (delistingDates.get? coinId).filter (· ≤ timestamp)

def penaltyPrice (lastKnownPrices : OrdMap CoinId ℚ) (safePenalty : ℚ) (coinId : CoinId)
    (position : Position) : ℚ :=
  (lastKnownPrices.get? coinId).getD position.averagePrice * (1 - safePenalty)

def delistingTrade (lastKnownPrices : OrdMap CoinId ℚ) (safePenalty : ℚ)
    (coinMap : OrdMap CoinId Coin) (quoteCoin : Coin) (coinId : CoinId) (position : Position)
    (delistingDate : Instant) : BacktestTrade :=
  let price := penaltyPrice lastKnownPrices safePenalty coinId position
  let totalValue := position.quantity * price
  let costBasis := position.averagePrice * position.quantity
  let realizedPnL :=
    if position.side = some .short then costBasis - totalValue else totalValue - costBasis
  { type := some (forcedTradeType position)
    quantity := position.quantity
    price := price
    totalValue := some totalValue
    fee := some 0
    realizedPnL := some realizedPnL
    realizedPnLPercent := some (if 0 < costBasis then realizedPnL / costBasis else 0)
    costBasis := some position.averagePrice
    positionSide := position.side
    leverage := position.leverage
    baseCoin := (coinMap.get? coinId).map (·.id)
    quoteCoin := some quoteCoin.id
    metadata := (((OrdMap.empty.set "delistingExit" (.bool true)).set "delistingDate"
      (.num delistingDate)).set "lastKnownPrice"
      (.num ((lastKnownPrices.get? coinId).getD position.averagePrice))).set "penaltyRate"
      (.num safePenalty) }

def delistedPositions (portfolio : Portfolio) (delistingDates : OrdMap CoinId Instant)
    (timestamp : Instant) : List (CoinId × Position × Instant) :=
  portfolio.positions.entries.filterMap fun e =>
    (delistedSince delistingDates timestamp e.1).map fun date => (e.1, e.2, date)

/-- `totalMarginUsed` stays as it is. -/
def checkAndApplyDelistingExits (portfolio : Portfolio) (delistingDates : OrdMap CoinId Instant)
    (lastKnownPrices : OrdMap CoinId ℚ) (timestamp : Instant) (delistingPenalty : ℚ)
    (exitTracker : Option BacktestExitTracker) (coinMap : OrdMap CoinId Coin) (quoteCoin : Coin) :
    List BacktestTrade × Portfolio × Option BacktestExitTracker :=
  let safePenalty := min 1 (max 0 delistingPenalty)
  let delisted := delistedPositions portfolio delistingDates timestamp
  let positions := delisted.foldl (fun m e => m.erase e.1) portfolio.positions
  let cashBalance := portfolio.cashBalance +
    (delisted.map fun e =>
      e.2.1.quantity * penaltyPrice lastKnownPrices safePenalty e.1 e.2.1).sum
  (delisted.map fun e =>
      delistingTrade lastKnownPrices safePenalty coinMap quoteCoin e.1 e.2.1 e.2.2,
    { portfolio with
      cashBalance := cashBalance
      positions := positions
      totalValue :=
        if delisted.isEmpty then portfolio.totalValue
        else cashBalance + calculatePositionsValue positions lastKnownPrices },
    exitTracker.map fun tracker => delisted.foldl (fun t e => t.removePosition e.1) tracker)

/-! ## The positions that remain -/

theorem get?_foldl_erase {α β : Type} (m : OrdMap CoinId α) (es : List (CoinId × β)) (c : CoinId) :
    (es.foldl (fun m e => m.erase e.1) m).get? c =
      if c ∈ es.map Prod.fst then none else m.get? c := by
  induction es generalizing m with
  | nil => simp
  | cons e es ih =>
    rw [List.foldl_cons, ih, OrdMap.get?_erase]
    by_cases h1 : e.1 = c
    · simp [h1]
    · have h2 : c ≠ e.1 := fun h => h1 h.symm
      simp only [h1, if_false, List.map_cons, List.mem_cons, h2, false_or]

theorem mem_liquidatedPositions {portfolio : Portfolio} {prices : OrdMap CoinId ℚ}
    {e : CoinId × Position × ℚ} :
    e ∈ liquidatedPositions portfolio prices ↔
      portfolio.positions.get? e.1 = some e.2.1 ∧ liquidationAt prices e.1 e.2.1 = some e.2.2 := by
  obtain ⟨c, p, price⟩ := e
  simp only [liquidatedPositions, List.mem_filterMap, Option.map_eq_some_iff, Prod.mk.injEq]
  constructor
  · rintro ⟨⟨_, _⟩, hmem, q, hq, rfl, rfl, rfl⟩
    exact ⟨OrdMap.get?_eq_some_iff.mpr hmem, hq⟩
  · rintro ⟨hget, hliq⟩
    exact ⟨(c, p), OrdMap.get?_eq_some_iff.mp hget, price, hliq, rfl, rfl, rfl⟩

theorem mem_delistedPositions {portfolio : Portfolio} {dates : OrdMap CoinId Instant}
    {timestamp : Instant} {e : CoinId × Position × Instant} :
    e ∈ delistedPositions portfolio dates timestamp ↔
      portfolio.positions.get? e.1 = some e.2.1 ∧
        delistedSince dates timestamp e.1 = some e.2.2 := by
  obtain ⟨c, p, date⟩ := e
  simp only [delistedPositions, List.mem_filterMap, Option.map_eq_some_iff, Prod.mk.injEq]
  constructor
  · rintro ⟨⟨_, _⟩, hmem, d, hd, rfl, rfl, rfl⟩
    exact ⟨OrdMap.get?_eq_some_iff.mpr hmem, hd⟩
  · rintro ⟨hget, hdel⟩
    exact ⟨(c, p), OrdMap.get?_eq_some_iff.mp hget, date, hdel, rfl, rfl, rfl⟩

theorem liquidatedPositions_sublist (portfolio : Portfolio) (prices : OrdMap CoinId ℚ) :
    ((liquidatedPositions portfolio prices).map Prod.fst).Sublist portfolio.positions.keys := by
  have hfst : (liquidatedPositions portfolio prices).map Prod.fst =
      (portfolio.positions.entries.filter fun e => (liquidationAt prices e.1 e.2).isSome).map
        Prod.fst := by
    unfold liquidatedPositions
    induction portfolio.positions.entries with
    | nil => rfl
    | cons e es ih =>
      cases hliq : liquidationAt prices e.1 e.2 <;> simp [hliq, ih]
  rw [hfst]
  exact List.filter_sublist.map Prod.fst

theorem liquidations_get? (portfolio : Portfolio) (marketData : MarketData)
    (coinMap : OrdMap CoinId Coin) (quoteCoin : Coin) (c : CoinId) :
    (checkAndApplyLiquidations portfolio marketData coinMap quoteCoin).2.positions.get? c =
      (portfolio.positions.get? c).filter fun p =>
        (liquidationAt marketData.prices c p).isNone := by
  simp only [checkAndApplyLiquidations, get?_foldl_erase]
  have hmem : c ∈ (liquidatedPositions portfolio marketData.prices).map Prod.fst ↔
      ∃ p price, portfolio.positions.get? c = some p ∧
        liquidationAt marketData.prices c p = some price := by
    simp [List.mem_map, mem_liquidatedPositions]
  cases hget : portfolio.positions.get? c with
  | none => simp [hmem, hget]
  | some p =>
    cases hliq : liquidationAt marketData.prices c p with
    | none | some => simp [hmem, hget, hliq, Option.filter]

theorem delistingExits_get? (portfolio : Portfolio) (dates : OrdMap CoinId Instant)
    (lastKnownPrices : OrdMap CoinId ℚ) (timestamp : Instant) (penalty : ℚ)
    (exitTracker : Option BacktestExitTracker) (coinMap : OrdMap CoinId Coin) (quoteCoin : Coin)
    (c : CoinId) :
    (checkAndApplyDelistingExits portfolio dates lastKnownPrices timestamp penalty exitTracker
        coinMap quoteCoin).2.1.positions.get? c =
      if (delistedSince dates timestamp c).isSome then none else portfolio.positions.get? c := by
  simp only [checkAndApplyDelistingExits, get?_foldl_erase]
  have hmem : c ∈ (delistedPositions portfolio dates timestamp).map Prod.fst ↔
      (portfolio.positions.get? c).isSome ∧ (delistedSince dates timestamp c).isSome := by
    simp [List.mem_map, mem_delistedPositions, Option.isSome_iff_exists]
  cases hget : portfolio.positions.get? c <;>
    cases hdate : delistedSince dates timestamp c <;> simp [hmem, hget, hdate]

end Chansey
