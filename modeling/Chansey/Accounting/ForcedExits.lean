import Chansey.Accounting.Margin

/-!
# What forced exits are worth

A liquidation loses the margin that was posted. A delisting exit should pay a long its quantity at
the penalty price, and a short what its margin and its profit leave.

* **`liquidationsConserve`**: liquidations lose the posted margins and release each once.
-/

namespace Chansey

/-- **What leaving a position at a price is worth**: a short gets its margin back with its profit,
and loses its margin at most. -/
def exitValue (position : Position) (price : ℚ) : ℚ :=
  if position.side = some .short then
    position.margin + max (-position.margin) ((position.averagePrice - price) * position.quantity)
  else position.quantity * price

def postedEquity (portfolio : Portfolio) : ℚ :=
  portfolio.cashBalance + portfolio.positions.sumBy fun _ p => p.margin

structure MarginCovered (portfolio : Portfolio) : Prop where
  nonneg : ∀ coinId p, portfolio.positions.get? coinId = some p → 0 ≤ p.margin
  sum_le : (portfolio.positions.sumBy fun _ p => p.margin) ≤ portfolio.totalMarginUsed

/-! ## Sums over the positions that leave -/

section Sums

variable {portfolio : Portfolio}

theorem sum_picked {β : Type} (pick : CoinId × Position → Option β) (weight : β → ℚ)
    (es : List (CoinId × Position)) :
    ((es.filterMap pick).map weight).sum = (es.map fun e => ((pick e).map weight).getD 0).sum := by
  induction es with
  | nil => rfl
  | cons e es ih =>
    cases h : pick e with
    | none =>
      rw [List.filterMap_cons_none h, List.map_cons, List.sum_cons, h, ih]
      simp
    | some =>
      rw [List.filterMap_cons_some h, List.map_cons, List.map_cons, List.sum_cons, List.sum_cons,
        h, ih]
      simp

def lostMargin (portfolio : Portfolio) (prices : OrdMap CoinId ℚ) : ℚ :=
  ((liquidatedPositions portfolio prices).map fun e => e.2.1.margin).sum

theorem lostMargin_eq (prices : OrdMap CoinId ℚ) :
    lostMargin portfolio prices = portfolio.positions.sumBy fun c p =>
      if (liquidationAt prices c p).isSome then p.margin else 0 := by
  rw [lostMargin, liquidatedPositions, sum_picked]
  unfold OrdMap.sumBy
  congr 2
  funext e
  cases h : liquidationAt prices e.1 e.2 <;> simp [h]

theorem sumBy_foldl_erase {β : Type} (f : CoinId → Position → ℚ) (m : OrdMap CoinId Position)
    (es : List (CoinId × Position × β)) (hnodup : (es.map Prod.fst).Nodup)
    (hmem : ∀ e ∈ es, m.get? e.1 = some e.2.1) :
    (es.foldl (fun m e => m.erase e.1) m).sumBy f =
      m.sumBy f - (es.map fun e => f e.1 e.2.1).sum := by
  induction es generalizing m with
  | nil => simp
  | cons e es ih =>
    rw [List.map_cons, List.nodup_cons] at hnodup
    have herase := OrdMap.sumBy_erase f m e.1
    rw [hmem e List.mem_cons_self, Option.elim_some] at herase
    rw [List.foldl_cons, ih _ hnodup.2, List.map_cons, List.sum_cons]
    · linarith
    · intro d hd
      have hne : e.1 ≠ d.1 := fun h => hnodup.1 (h ▸ List.mem_map_of_mem hd)
      rw [OrdMap.get?_erase_of_ne _ hne]
      exact hmem d (List.mem_cons_of_mem _ hd)

theorem nodup_liquidatedPositions (portfolio : Portfolio) (prices : OrdMap CoinId ℚ) :
    ((liquidatedPositions portfolio prices).map Prod.fst).Nodup :=
  portfolio.positions.nodup.sublist (liquidatedPositions_sublist portfolio prices)

theorem foldl_releaseMargin {β : Type} (margin : β → ℚ) (es : List β) (total : ℚ)
    (hnn : ∀ e ∈ es, 0 ≤ margin e) (hle : (es.map margin).sum ≤ total) :
    es.foldl (fun m e => releaseMargin m (margin e)) total = total - (es.map margin).sum := by
  induction es generalizing total with
  | nil => simp
  | cons e es ih =>
    rw [List.map_cons, List.sum_cons] at hle
    have hrest : 0 ≤ (es.map margin).sum := by
      refine List.sum_nonneg fun m hm => ?_
      obtain ⟨d, hd, rfl⟩ := List.mem_map.mp hm
      exact hnn d (List.mem_cons_of_mem _ hd)
    have hrelease : releaseMargin total (margin e) = total - margin e := max_eq_right (by linarith)
    rw [List.foldl_cons, hrelease, ih _ (fun d hd => hnn d (List.mem_cons_of_mem _ hd))
      (by linarith), List.map_cons, List.sum_cons]
    ring

end Sums

/-! ## Liquidations -/

section Liquidations

variable (portfolio : Portfolio) (marketData : MarketData) (coinMap : OrdMap CoinId Coin)
  (quoteCoin : Coin)

/-- **Liquidations lose the posted margins**: cash stays, each trade realizes minus the margin of
its position, and each margin leaves the total once. -/
structure LiquidationsConserve : Prop where
  cash : (checkAndApplyLiquidations portfolio marketData coinMap quoteCoin).2.cashBalance =
    portfolio.cashBalance
  posted : postedEquity (checkAndApplyLiquidations portfolio marketData coinMap quoteCoin).2 =
    postedEquity portfolio - lostMargin portfolio marketData.prices
  realized : (checkAndApplyLiquidations portfolio marketData coinMap quoteCoin).1.map
      (·.realizedPnL) =
    (liquidatedPositions portfolio marketData.prices).map fun e => some (-e.2.1.margin)
  released : MarginCovered portfolio →
    (checkAndApplyLiquidations portfolio marketData coinMap quoteCoin).2.totalMarginUsed =
      portfolio.totalMarginUsed - lostMargin portfolio marketData.prices

theorem lostMargin_le (hcov : MarginCovered portfolio) :
    lostMargin portfolio marketData.prices ≤ portfolio.totalMarginUsed := by
  refine le_trans ?_ hcov.sum_le
  rw [lostMargin_eq]
  refine List.sum_le_sum fun e he => ?_
  have hnn := hcov.nonneg e.1 e.2 (OrdMap.get?_eq_some_iff.mpr he)
  dsimp only
  split_ifs
  · exact le_refl _
  · exact hnn

theorem liquidationsConserve : LiquidationsConserve portfolio marketData coinMap quoteCoin where
  cash := rfl
  posted := by
    have hsum := sumBy_foldl_erase (fun _ p => p.margin) portfolio.positions
      (liquidatedPositions portfolio marketData.prices)
      (nodup_liquidatedPositions portfolio marketData.prices)
      (fun e he => (mem_liquidatedPositions.mp he).1)
    simp only [postedEquity, checkAndApplyLiquidations, lostMargin]
    rw [hsum]
    ring
  realized := by
    simp only [checkAndApplyLiquidations, List.map_map]
    rfl
  released := fun hcov =>
    foldl_releaseMargin (fun e : CoinId × Position × ℚ => e.2.1.margin) _ _
      (fun e he => hcov.nonneg e.1 e.2.1 (mem_liquidatedPositions.mp he).1)
      (lostMargin_le portfolio marketData hcov)

end Liquidations

/-! ## Delisting exits -/

section Delisting

variable (portfolio : Portfolio) (delistingDates : OrdMap CoinId Instant)
  (lastKnownPrices : OrdMap CoinId ℚ) (timestamp : Instant) (delistingPenalty : ℚ)
  (exitTracker : Option BacktestExitTracker) (coinMap : OrdMap CoinId Coin) (quoteCoin : Coin)

/-- The cash after the exits of the coins delisted by `delistingDates`. -/
def cashAfterDelistings : ℚ :=
  (checkAndApplyDelistingExits portfolio delistingDates lastKnownPrices timestamp delistingPenalty
    exitTracker coinMap quoteCoin).2.1.cashBalance

/-- **What the exit of `coinId` adds to cash**: the exits, against the exits with the coin still
listed. -/
def delistingCash (coinId : CoinId) : ℚ :=
  cashAfterDelistings portfolio delistingDates lastKnownPrices timestamp delistingPenalty
      exitTracker coinMap quoteCoin -
    cashAfterDelistings portfolio (delistingDates.erase coinId) lastKnownPrices timestamp
      delistingPenalty exitTracker coinMap quoteCoin

def delistingPrice (coinId : CoinId) (position : Position) : ℚ :=
  penaltyPrice lastKnownPrices (min 1 (max 0 delistingPenalty)) coinId position

/-- What the delisting of a held coin is worth, `0` while it is listed. -/
def creditWhenDelisted (value : CoinId → Position → ℚ) (coinId : CoinId) (position : Position) :
    ℚ :=
  if (delistedSince delistingDates timestamp coinId).isSome then value coinId position else 0

theorem cashAfterDelistings_eq :
    cashAfterDelistings portfolio delistingDates lastKnownPrices timestamp delistingPenalty
        exitTracker coinMap quoteCoin =
      portfolio.cashBalance + portfolio.positions.sumBy
        (creditWhenDelisted delistingDates timestamp fun c p =>
          p.quantity * delistingPrice lastKnownPrices delistingPenalty c p) := by
  simp only [cashAfterDelistings, checkAndApplyDelistingExits, delistedPositions]
  rw [sum_picked]
  unfold OrdMap.sumBy
  congr 3
  funext e
  unfold creditWhenDelisted
  cases delistedSince delistingDates timestamp e.1 <;> rfl

theorem delistedSince_erase (coinId c : CoinId) :
    delistedSince (delistingDates.erase coinId) timestamp c =
      if coinId = c then none else delistedSince delistingDates timestamp c := by
  unfold delistedSince
  rw [OrdMap.get?_erase]
  split_ifs
  · rfl
  · rfl

variable {portfolio delistingDates timestamp} {coinId : CoinId} {position : Position}

theorem delistingCash_eq (hget : portfolio.positions.get? coinId = some position)
    (hdel : (delistedSince delistingDates timestamp coinId).isSome) :
    delistingCash portfolio delistingDates lastKnownPrices timestamp delistingPenalty exitTracker
        coinMap quoteCoin coinId =
      position.quantity * delistingPrice lastKnownPrices delistingPenalty coinId position := by
  set value : CoinId → Position → ℚ := fun c p =>
    p.quantity * delistingPrice lastKnownPrices delistingPenalty c p
  have hwith := OrdMap.sumBy_erase (creditWhenDelisted delistingDates timestamp value)
    portfolio.positions coinId
  have hwithout := OrdMap.sumBy_erase
    (creditWhenDelisted (delistingDates.erase coinId) timestamp value) portfolio.positions coinId
  -- the other coins are delisted alike in both
  have hoths : ((portfolio.positions.erase coinId).sumBy
        (creditWhenDelisted (delistingDates.erase coinId) timestamp value)) =
      (portfolio.positions.erase coinId).sumBy
        (creditWhenDelisted delistingDates timestamp value) := by
    refine OrdMap.sumBy_congr fun e he => ?_
    have hne : coinId ≠ e.1 := by
      rintro rfl
      have := OrdMap.get?_eq_some_iff.mpr he
      simp at this
    simp only [creditWhenDelisted, delistedSince_erase, hne, if_false]
  rw [hget, Option.elim_some] at hwith hwithout
  have hhere : creditWhenDelisted delistingDates timestamp value coinId position =
      value coinId position := if_pos hdel
  have hgone : creditWhenDelisted (delistingDates.erase coinId) timestamp value coinId position =
      0 := by simp [creditWhenDelisted, delistedSince_erase]
  rw [delistingCash, cashAfterDelistings_eq, cashAfterDelistings_eq]
  linarith

variable (portfolio delistingDates timestamp)

/-- **Delisting exits conserve value**: each changes cash by what leaving its position is worth,
and none pays a short its notional value. -/
structure DelistingsConserve : Prop where
  cash : cashAfterDelistings portfolio delistingDates lastKnownPrices timestamp delistingPenalty
      exitTracker coinMap quoteCoin =
    portfolio.cashBalance + portfolio.positions.sumBy
      (creditWhenDelisted delistingDates timestamp fun c p =>
        exitValue p (delistingPrice lastKnownPrices delistingPenalty c p))
  each : ∀ c p, portfolio.positions.get? c = some p →
    (delistedSince delistingDates timestamp c).isSome →
      delistingCash portfolio delistingDates lastKnownPrices timestamp delistingPenalty exitTracker
          coinMap quoteCoin c =
        exitValue p (delistingPrice lastKnownPrices delistingPenalty c p)
  noNotional : ∀ c p, portfolio.positions.get? c = some p →
    (delistedSince delistingDates timestamp c).isSome → p.side = some .short →
      p.quantity * delistingPrice lastKnownPrices delistingPenalty c p ≠ 0 →
        delistingCash portfolio delistingDates lastKnownPrices timestamp delistingPenalty
            exitTracker coinMap quoteCoin c ≠
          p.quantity * delistingPrice lastKnownPrices delistingPenalty c p

/-- **No short is delisted**, but one without a notional value whose margin is used up. -/
def NoShortDelisted : Prop :=
  ∀ c p, portfolio.positions.get? c = some p →
    (delistedSince delistingDates timestamp c).isSome → p.side = some .short →
      p.quantity * delistingPrice lastKnownPrices delistingPenalty c p = 0 ∧
        p.margin + (p.averagePrice - delistingPrice lastKnownPrices delistingPenalty c p) *
          p.quantity ≤ 0

theorem exitValue_short {p : Position} (hside : p.side = some .short) (price : ℚ) :
    exitValue p price = max 0 (p.margin + (p.averagePrice - price) * p.quantity) := by
  rw [exitValue, if_pos hside, ← max_add_add_left, add_neg_cancel]

theorem delistingsConserve_iff :
    DelistingsConserve portfolio delistingDates lastKnownPrices timestamp delistingPenalty
        exitTracker coinMap quoteCoin ↔
      NoShortDelisted portfolio delistingDates lastKnownPrices timestamp delistingPenalty := by
  constructor
  · intro h c p hget hdel hside
    have hpaid := delistingCash_eq lastKnownPrices delistingPenalty exitTracker coinMap quoteCoin
      hget hdel
    have hzero : p.quantity * delistingPrice lastKnownPrices delistingPenalty c p = 0 := by
      by_contra hne
      exact h.noNotional c p hget hdel hside hne hpaid
    have heach := h.each c p hget hdel
    rw [hpaid, hzero, exitValue_short hside] at heach
    exact ⟨hzero, max_eq_left_iff.mp heach.symm⟩
  · intro h
    have hvalue : ∀ c p, portfolio.positions.get? c = some p →
        (delistedSince delistingDates timestamp c).isSome →
          p.quantity * delistingPrice lastKnownPrices delistingPenalty c p =
            exitValue p (delistingPrice lastKnownPrices delistingPenalty c p) := by
      intro c p hget hdel
      by_cases hside : p.side = some .short
      · obtain ⟨hzero, hused⟩ := h c p hget hdel hside
        rw [hzero, exitValue_short hside, max_eq_left hused]
      · rw [exitValue, if_neg hside]
    refine ⟨?_, fun c p hget hdel => ?_, fun c p hget hdel hside hne => ?_⟩
    · rw [cashAfterDelistings_eq]
      congr 1
      refine OrdMap.sumBy_congr fun e he => ?_
      unfold creditWhenDelisted
      split_ifs with hdel
      · exact hvalue e.1 e.2 (OrdMap.get?_eq_some_iff.mpr he) hdel
      · rfl
    · rw [delistingCash_eq lastKnownPrices delistingPenalty exitTracker coinMap quoteCoin hget hdel]
      exact hvalue c p hget hdel
    · exact absurd (h c p hget hdel hside).1 hne

/-- **Forced exits conserve value**, liquidations and delisting exits alike. -/
def ForcedExitsConserve (marketData : MarketData) : Prop :=
  LiquidationsConserve portfolio marketData coinMap quoteCoin ∧
    DelistingsConserve portfolio delistingDates lastKnownPrices timestamp delistingPenalty
      exitTracker coinMap quoteCoin

/-- **Forced exits conserve value exactly when no short is delisted.** -/
theorem forcedExitsConserve_iff (marketData : MarketData) :
    ForcedExitsConserve portfolio delistingDates lastKnownPrices timestamp delistingPenalty
        exitTracker coinMap quoteCoin marketData ↔
      NoShortDelisted portfolio delistingDates lastKnownPrices timestamp delistingPenalty := by
  rw [ForcedExitsConserve, delistingsConserve_iff]
  exact and_iff_right (liquidationsConserve portfolio marketData coinMap quoteCoin)

end Delisting

def ethShort : Position where
  quantity := 1
  averagePrice := 100
  totalValue := 50
  side := some .short
  leverage := some 2
  marginAmount := some 50

def shortedEth : Portfolio where
  cashBalance := 950
  positions := OrdMap.empty.set "eth" ethShort
  totalValue := 1000
  totalMarginUsed := 50

/-- **A delisted short pays out its notional value**: ETH falls to 10 and the exit pays 10, where
the margin and the profit are 140. -/
theorem delistedShort_paysNotional :
    ¬ ForcedExitsConserve shortedEth (OrdMap.empty.set "eth" 0) (OrdMap.empty.set "eth" 100) 0
      (9 / 10) none OrdMap.empty ⟨"usd", "USD"⟩ ⟨0, OrdMap.empty.set "eth" 10⟩ := by
  intro h
  have hshort := ((delistingsConserve_iff _ _ _ _ _ _ _ _).mp h.2) "eth" ethShort rfl rfl rfl
  have hprice : delistingPrice (OrdMap.empty.set "eth" 100) (9 / 10) "eth" ethShort = 10 := by
    norm_num [delistingPrice, penaltyPrice]
  rw [hprice] at hshort
  norm_num [ethShort] at hshort

end Chansey
