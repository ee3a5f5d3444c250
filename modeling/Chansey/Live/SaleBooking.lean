import Chansey.Live.OpportunitySelling

/-!
# What the sales of a plan leave in the rows

* **`approved_orders`**: a plan sells each coin once, and no more of it than is held.
-/

namespace Chansey

/-! ## Merged positions -/

def longPositions (positions : List LivePosition) : List LivePosition :=
  positions.filter (·.positionSide = .long)

def sourcesOf (positions : List LivePosition) (coinId : CoinId) : List SourcePosition :=
  ((longPositions positions).filter fun p => extractCoinIdFromSymbol p.symbol = coinId).map sourceOf

def totalQuantity (sources : List SourcePosition) : ℚ := (sources.map (·.quantity)).sum

theorem mergePositions_get? (positions : List LivePosition) (coinId : CoinId) :
    match (mergePositions positions).get? coinId with
    | none => sourcesOf positions coinId = []
    | some merged => merged.sourcePositions = sourcesOf positions coinId ∧
        merged.quantity = totalQuantity (sourcesOf positions coinId) := by
  unfold mergePositions sourcesOf longPositions
  induction positions.filter (·.positionSide = .long) using List.reverseRecOn with
  | nil => rfl
  | append_singleton ps p ih =>
    rw [List.foldl_concat, List.filter_append, List.map_append, mergePosition, OrdMap.get?_set]
    by_cases hcoin : extractCoinIdFromSymbol p.symbol = coinId
    · subst hcoin
      rw [if_pos rfl, List.filter_singleton, decide_eq_true rfl]
      revert ih
      cases (ps.foldl mergePosition OrdMap.empty).get? (extractCoinIdFromSymbol p.symbol) with
      | none =>
        intro ih
        dsimp only at ih ⊢
        simp [ih, totalQuantity, sourceOf]
      | some =>
        rintro ⟨hsrc, hqty⟩
        dsimp only
        simp [hsrc, hqty, totalQuantity, sourceOf]
    · rw [if_neg hcoin, List.filter_singleton, decide_eq_false hcoin]
      simpa using ih

/-! ## Plans -/

section Plan

variable {request : OpportunityRequest} {positions : OrdMap CoinId MergedPosition}
  {currentPrices : OrdMap CoinId ℚ}

theorem scorePosition_spec {entry : CoinId × MergedPosition} {scored : SellCandidate}
    (h : scorePosition request currentPrices entry = some scored) :
    scored.coinId = entry.1 ∧ scored.quantity = entry.2.quantity := by
  unfold scorePosition at h
  split_ifs at h
  obtain ⟨_, -, hsco⟩ := Option.bind_eq_some_iff.mp h
  dsimp only at hsco
  split_ifs at hsco
  cases hsco
  exact ⟨rfl, rfl⟩

theorem scoreMergedPositions_mem {scored : SellCandidate}
    (h : scored ∈ scoreMergedPositions request positions currentPrices) :
    ∃ merged, positions.get? scored.coinId = some merged ∧ merged.quantity = scored.quantity := by
  unfold scoreMergedPositions at h
  rw [List.mem_insertionSort, List.mem_filterMap] at h
  obtain ⟨⟨_, merged⟩, hentry, hsco⟩ := h
  obtain ⟨hcoin, hqty⟩ := scorePosition_spec hsco
  exact ⟨merged, hcoin ▸ OrdMap.get?_eq_some_iff.mpr hentry, hqty.symm⟩

theorem scoreMergedPositions_nodup :
    ((scoreMergedPositions request positions currentPrices).map (·.coinId)).Nodup := by
  unfold scoreMergedPositions
  refine ((List.perm_insertionSort _ _).map _).nodup_iff.mpr (positions.nodup_filterMap ?_)
  exact fun _ _ h => (scorePosition_spec h).1

structure Planned (scored : List SellCandidate) (orders : List LiveSellOrder) : Prop where
  coins : (orders.map (·.coinId)).Sublist (scored.map (·.coinId))
  quantity : ∀ o ∈ orders, 0 < o.quantity ∧ ∃ c ∈ scored, c.coinId = o.coinId ∧
    o.quantity ≤ c.quantity

theorem planned_foldl (maxSellValue shortfall : ℚ) (scored : List SellCandidate) :
    Planned scored
      (scored.foldl (planSellOrder maxSellValue) { remainingShortfall := shortfall }).sellOrders := by
  induction scored using List.reverseRecOn with
  | nil => exact ⟨List.Sublist.refl _, by simp⟩
  | append_singleton scored c ih =>
    rw [List.foldl_concat, planSellOrder]
    have hkept : Planned (scored ++ [c]) (scored.foldl (planSellOrder maxSellValue)
        { remainingShortfall := shortfall }).sellOrders := by
      refine ⟨?_, fun o ho => ?_⟩
      · rw [List.map_append]
        exact ih.coins.trans (List.sublist_append_left _ _)
      · obtain ⟨hpos, c', hc', hcoin, hle⟩ := ih.quantity o ho
        exact ⟨hpos, c', List.mem_append_left _ hc', hcoin, hle⟩
    split
    · exact hkept
    dsimp only
    split
    · exact hkept
    · rename_i hnone
      refine ⟨?_, fun o ho => ?_⟩
      · rw [List.map_append, List.map_append]
        exact ih.coins.append (List.Sublist.refl _)
      · rcases List.mem_append.mp ho with ho | ho
        · exact hkept.quantity o ho
        · rw [List.mem_singleton] at ho
          subst ho
          exact ⟨not_le.mp hnone, c, by simp, rfl, min_le_left _ _⟩

theorem evaluate_orders {orders : List LiveSellOrder}
    (h : evaluateOpportunitySell request positions currentPrices = some orders) :
    (orders.map (·.coinId)).Nodup ∧ ∀ o ∈ orders, 0 < o.quantity ∧
      ∃ merged, positions.get? o.coinId = some merged ∧ o.quantity ≤ merged.quantity := by
  have hcases : orders = [] ∨ orders = ((scoreMergedPositions request positions
      currentPrices).foldl
        (planSellOrder (request.portfolioValue * request.config.maxLiquidationPercent / 100))
        { remainingShortfall := request.requiredBuyAmount - request.availableCash }).sellOrders := by
    unfold evaluateOpportunitySell at h
    dsimp only at h
    generalize ite (0 < request.portfolioValue) _ _ = liquidationPercent at h
    split_ifs at h
    · exact .inl (Option.some.inj h).symm
    · exact .inr (Option.some.inj h).symm
  rcases hcases with rfl | rfl
  · simp
  · have hplanned := planned_foldl
      (request.portfolioValue * request.config.maxLiquidationPercent / 100)
      (request.requiredBuyAmount - request.availableCash)
      (scoreMergedPositions request positions currentPrices)
    refine ⟨scoreMergedPositions_nodup.sublist hplanned.coins, fun o ho => ?_⟩
    obtain ⟨hpos, c, hc, hcoin, hle⟩ := hplanned.quantity o ho
    obtain ⟨merged, hmerged, hqty⟩ := scoreMergedPositions_mem hc
    exact ⟨hpos, merged, hcoin ▸ hmerged, hqty ▸ hle⟩

end Plan

/-! ## One sale -/

def trackedQuantity (rows : PositionRows) (symbol : String) : ℚ :=
  rows.sumBy fun key row => if key.2 = symbol then row.quantity else 0

def Decrement.Held (d : Decrement) : Prop := d.quantity ≤ d.held

section Sale

variable {sellSymbol : String} {price : ℚ} {updates : ℕ → Bool} {booking : Booking}

/-- What a sale has taken: from rows of its symbol only, never more than a row held, and all of it
in decrements. -/
structure Taken (sellSymbol : String) (before after : Booking) : Prop where
  tracked : ∀ symbol, trackedQuantity after.rows symbol = trackedQuantity before.rows symbol -
    if symbol = sellSymbol then before.remainingSellQty - after.remainingSellQty else 0
  others : ∀ key, key.2 ≠ sellSymbol → after.rows.get? key = before.rows.get? key
  le : after.remainingSellQty ≤ before.remainingSellQty
  nonneg : 0 ≤ before.remainingSellQty → 0 ≤ after.remainingSellQty
  held : (∀ d ∈ before.decrements, d.Held) → ∀ d ∈ after.decrements, d.Held

theorem Taken.refl (booking : Booking) : Taken sellSymbol booking booking where
  tracked := by simp
  others := fun _ _ => rfl
  le := le_rfl
  nonneg := id
  held := id

theorem Taken.trans {before middle after : Booking} (h : Taken sellSymbol before middle)
    (h' : Taken sellSymbol middle after) : Taken sellSymbol before after where
  tracked := by
    intro symbol
    rw [h'.tracked, h.tracked]
    split_ifs <;> ring
  others := fun key hkey => (h'.others key hkey).trans (h.others key hkey)
  le := h'.le.trans h.le
  nonneg := h'.nonneg ∘ h.nonneg
  held := h'.held ∘ h.held

theorem trackedQuantity_set {rows : PositionRows} {strategyConfigId : String} {quantity : ℚ}
    (hle : quantity ≤ heldQuantity rows strategyConfigId sellSymbol) (symbol : String) :
    trackedQuantity
        (rows.set (strategyConfigId, sellSymbol)
          (updatePosition .long { quantity, price, side := .sell }
            (rows.get? (strategyConfigId, sellSymbol)))) symbol =
      trackedQuantity rows symbol - if symbol = sellSymbol then quantity else 0 := by
  have hset := OrdMap.sumBy_set
    (fun (key : String × String) (row : UserStrategyPosition) =>
      if key.2 = symbol then row.quantity else 0)
    rows (strategyConfigId, sellSymbol) (updatePosition .long { quantity, price, side := .sell }
      (rows.get? (strategyConfigId, sellSymbol)))
  have hheld : ((rows.get? (strategyConfigId, sellSymbol)).getD {}).quantity =
      heldQuantity rows strategyConfigId sellSymbol := by
    unfold heldQuantity
    cases rows.get? (strategyConfigId, sellSymbol) <;> rfl
  have hqty : (updatePosition .long { quantity, price, side := .sell }
      (rows.get? (strategyConfigId, sellSymbol))).quantity =
      heldQuantity rows strategyConfigId sellSymbol - quantity := by
    rw [quantity_updatePosition, hheld, PositionUpdate.change]
    · ring
    · rw [hheld, PositionUpdate.change]
      dsimp only
      linarith
  have hold : (rows.get? (strategyConfigId, sellSymbol)).elim 0 (fun row =>
      if sellSymbol = symbol then row.quantity else 0) =
      if sellSymbol = symbol then heldQuantity rows strategyConfigId sellSymbol else 0 := by
    unfold heldQuantity
    cases rows.get? (strategyConfigId, sellSymbol) <;> simp
  unfold trackedQuantity
  dsimp only at hset
  rw [hqty, hold] at hset
  by_cases hsym : sellSymbol = symbol
  · rw [if_pos hsym, if_pos hsym] at hset
    rw [if_pos hsym.symm]
    linarith
  · rw [if_neg hsym, if_neg hsym] at hset
    rw [if_neg (Ne.symm hsym)]
    linarith

structure Ready (sellSymbol : String) (booking : Booking) (srcPos : SourcePosition) : Prop where
  remaining : booking.remainingQty.get? srcPos.strategyConfigId = some srcPos.quantity
  held : heldQuantity booking.rows srcPos.strategyConfigId sellSymbol = srcPos.quantity

theorem bookSource_done (h : booking.failed = true ∨ booking.remainingSellQty ≤ 0)
    (srcPos : SourcePosition) : bookSource sellSymbol price updates booking srcPos = booking := by
  rw [bookSource, if_pos h]

variable {srcPos : SourcePosition} {sources : List SourcePosition}

theorem bookSource_open (h : ¬ (booking.failed = true ∨ booking.remainingSellQty ≤ 0))
    (hready : Ready sellSymbol booking srcPos) :
    bookSource sellSymbol price updates booking srcPos =
      if updates booking.calls then
        { booking with
          rows := booking.rows.set (srcPos.strategyConfigId, sellSymbol)
            (updatePosition .long
              { quantity := min srcPos.quantity booking.remainingSellQty, price, side := .sell }
              (booking.rows.get? (srcPos.strategyConfigId, sellSymbol)))
          decrements := booking.decrements ++ [{
            strategyConfigId := srcPos.strategyConfigId
            symbol := sellSymbol
            quantity := min srcPos.quantity booking.remainingSellQty
            held := srcPos.quantity }]
          calls := booking.calls + 1
          remainingQty := booking.remainingQty.set srcPos.strategyConfigId
            (srcPos.quantity - min srcPos.quantity booking.remainingSellQty)
          remainingSellQty :=
            booking.remainingSellQty - min srcPos.quantity booking.remainingSellQty }
      else { booking with failed := true } := by
  have hfail : booking.failed = false := Bool.eq_false_iff.mpr fun hfail => h (Or.inl hfail)
  rw [bookSource, if_neg h]
  cases hupd : updates booking.calls with
  | false => simp [bookDecrement, hupd]
  | true =>
    simp only [hready.remaining, Option.getD_some, bookDecrement, hupd, if_true, hfail,
      Bool.false_eq_true, if_false, hready.held]

theorem taken_bookSource (hready : Ready sellSymbol booking srcPos) (hnn : 0 ≤ srcPos.quantity) :
    Taken sellSymbol booking (bookSource sellSymbol price updates booking srcPos) := by
  by_cases hdone : booking.failed = true ∨ booking.remainingSellQty ≤ 0
  · rw [bookSource_done hdone]
    exact Taken.refl booking
  rw [bookSource_open hdone hready]
  split
  · have hle : min srcPos.quantity booking.remainingSellQty ≤ srcPos.quantity := min_le_left _ _
    have hmin : 0 ≤ min srcPos.quantity booking.remainingSellQty :=
      le_min hnn (not_le.mp fun hzero => hdone (Or.inr hzero)).le
    refine ⟨fun symbol => ?_, fun key hkey => ?_, ?_, fun _ => ?_, fun hheld d hd => ?_⟩
    · rw [trackedQuantity_set (hready.held ▸ hle), sub_sub_cancel]
    · exact OrdMap.get?_set_of_ne _ _ fun heq => hkey (heq ▸ rfl)
    · exact sub_le_self _ hmin
    · exact sub_nonneg.mpr (min_le_right _ _)
    · rcases List.mem_append.mp hd with hd | hd
      · exact hheld d hd
      · rw [List.mem_singleton] at hd
        subst hd
        exact hle
  · exact ⟨(Taken.refl booking).tracked, fun _ _ => rfl, le_rfl, id, id⟩

theorem Ready.bookSource {srcPos other : SourcePosition}
    (hready : Ready sellSymbol booking srcPos) (h : Ready sellSymbol booking other)
    (hne : srcPos.strategyConfigId ≠ other.strategyConfigId) :
    Ready sellSymbol (bookSource sellSymbol price updates booking srcPos) other := by
  by_cases hdone : booking.failed = true ∨ booking.remainingSellQty ≤ 0
  · rwa [bookSource_done hdone]
  rw [bookSource_open hdone hready]
  split
  · refine ⟨(OrdMap.get?_set_of_ne _ _ hne).trans h.remaining, ?_⟩
    have hkey : (srcPos.strategyConfigId, sellSymbol) ≠ (other.strategyConfigId, sellSymbol) :=
      fun heq => hne (congrArg Prod.fst heq)
    unfold heldQuantity
    rw [OrdMap.get?_set_of_ne _ _ hkey]
    exact h.held
  · exact ⟨h.remaining, h.held⟩

theorem failed_bookSource (hupds : ∀ k, updates k = true) (hready : Ready sellSymbol booking srcPos)
    : (bookSource sellSymbol price updates booking srcPos).failed = booking.failed := by
  by_cases hdone : booking.failed = true ∨ booking.remainingSellQty ≤ 0
  · rw [bookSource_done hdone]
  · rw [bookSource_open hdone hready, if_pos (hupds _)]

theorem totalQuantity_nonneg (h : ∀ src ∈ sources, 0 ≤ src.quantity) : 0 ≤ totalQuantity sources :=
  List.sum_nonneg fun q hq => by
    obtain ⟨src, hsrc, rfl⟩ := List.mem_map.mp hq
    exact h src hsrc

theorem foldl_bookSource_failed (hfail : booking.failed = true) (sources : List SourcePosition) :
    sources.foldl (bookSource sellSymbol price updates) booking = booking := by
  induction sources with
  | nil => rfl
  | cons src sources ih => rw [List.foldl_cons, bookSource_done (Or.inl hfail), ih]

theorem taken_bookSources (hnodup : (sources.map (·.strategyConfigId)).Nodup)
    (hready : ∀ src ∈ sources, Ready sellSymbol booking src)
    (hnn : ∀ src ∈ sources, 0 ≤ src.quantity)
    (hle : booking.remainingSellQty ≤ totalQuantity sources) :
    Taken sellSymbol booking (sources.foldl (bookSource sellSymbol price updates) booking) ∧
      ((sources.foldl (bookSource sellSymbol price updates) booking).failed = false →
        (sources.foldl (bookSource sellSymbol price updates) booking).remainingSellQty ≤ 0) ∧
      ((∀ k, updates k = true) →
        (sources.foldl (bookSource sellSymbol price updates) booking).failed = booking.failed) := by
  induction sources generalizing booking with
  | nil => exact ⟨Taken.refl booking, fun _ => hle, fun _ => rfl⟩
  | cons src sources ih =>
    rw [List.map_cons, List.nodup_cons] at hnodup
    have hsrc := hready src List.mem_cons_self
    have htaken : Taken sellSymbol booking (bookSource sellSymbol price updates booking src) :=
      taken_bookSource hsrc (hnn src List.mem_cons_self)
    have hrest : ∀ other ∈ sources, 0 ≤ other.quantity := fun other hmem =>
      hnn other (List.mem_cons_of_mem _ hmem)
    rw [List.foldl_cons]
    cases hfailed : (bookSource sellSymbol price updates booking src).failed with
    | true =>
      rw [foldl_bookSource_failed hfailed]
      refine ⟨htaken, fun h => ?_, fun hupds => failed_bookSource hupds hsrc⟩
      rw [hfailed] at h
      cases h
    | false =>
      have hleft : (bookSource sellSymbol price updates booking src).remainingSellQty ≤
          totalQuantity sources := by
        have htotal := totalQuantity_nonneg hrest
        by_cases hdone : booking.failed = true ∨ booking.remainingSellQty ≤ 0
        · rw [bookSource_done hdone] at hfailed ⊢
          rw [hfailed] at hdone
          exact (hdone.resolve_left Bool.false_ne_true).trans htotal
        · have hsum : booking.remainingSellQty ≤ src.quantity + totalQuantity sources := hle
          rw [bookSource_open hdone hsrc] at hfailed ⊢
          split at hfailed
          · rename_i hupd
            rw [if_pos hupd]
            dsimp only
            rcases min_cases src.quantity booking.remainingSellQty with ⟨hmin, -⟩ | ⟨hmin, -⟩
            · rw [hmin]
              linarith
            · rw [hmin, sub_self]
              exact htotal
          · cases hfailed
      obtain ⟨htaken', hall, hfail⟩ := ih hnodup.2
        (fun other hmem => hsrc.bookSource (hready other (List.mem_cons_of_mem _ hmem))
          fun heq => hnodup.1 (heq ▸ List.mem_map_of_mem hmem))
        hrest hleft
      exact ⟨htaken.trans htaken', hall,
        fun hupds => (hfail hupds).trans (failed_bookSource hupds hsrc)⟩

end Sale

/-! ## The sales of a plan -/

/-- The positions that are handed over are the rows of the user's long positions. -/
def Lists (positions : List LivePosition) (rows : PositionRows) : Prop :=
  (longPositions positions).map (fun p => ((p.strategyConfigId, p.symbol), p.quantity)) =
    rows.entries.map fun e => (e.1, e.2.quantity)

def OneSymbol (positions : List LivePosition) (marketData : List PairPrice) (coinId : CoinId) :
    Prop :=
  ∀ src ∈ sourcesOf positions coinId, findSymbolForCoinId coinId marketData = some src.symbol

def soldQuantity (executedSells : List (String × ℚ)) (symbol : String) : ℚ :=
  (executedSells.map fun sell => if sell.1 = symbol then sell.2 else 0).sum

section Plan

variable {positions : List LivePosition} {rows : PositionRows} {coinId : CoinId}
  {sellSymbol : String}

variable {src : SourcePosition} {processed : List CoinId} {state : SellingState}

theorem mem_sourcesOf :
    src ∈ sourcesOf positions coinId ↔ ∃ p ∈ longPositions positions,
      extractCoinIdFromSymbol p.symbol = coinId ∧ sourceOf p = src := by
  simp only [sourcesOf, List.mem_map, List.mem_filter, decide_eq_true_eq, and_assoc]

theorem Lists.held (h : Lists positions rows) (hsrc : src ∈ sourcesOf positions coinId) :
    heldQuantity rows src.strategyConfigId src.symbol = src.quantity := by
  obtain ⟨p, hp, -, rfl⟩ := mem_sourcesOf.mp hsrc
  have hmem : ((p.strategyConfigId, p.symbol), p.quantity) ∈
      rows.entries.map fun e => (e.1, e.2.quantity) := h ▸ List.mem_map_of_mem hp
  obtain ⟨⟨key, _⟩, he, hkey⟩ := List.mem_map.mp hmem
  rw [Prod.mk.injEq] at hkey
  have hget := OrdMap.get?_eq_some_iff.mpr he
  rw [show key = (p.strategyConfigId, p.symbol) from hkey.1] at hget
  simp only [heldQuantity, sourceOf, hget, Option.elim_some]
  exact hkey.2

theorem Lists.nonneg (h : Lists positions rows) (hrows : ∀ e ∈ rows.entries, 0 ≤ e.2.quantity)
    (hsrc : src ∈ sourcesOf positions coinId) : 0 ≤ src.quantity := by
  rw [← h.held hsrc, heldQuantity]
  cases hget : rows.get? (src.strategyConfigId, src.symbol) with
  | none => exact le_rfl
  | some => exact hrows _ (OrdMap.get?_eq_some_iff.mp hget)

theorem Lists.nodup (h : Lists positions rows)
    (hsym : ∀ src ∈ sourcesOf positions coinId, src.symbol = sellSymbol) :
    ((sourcesOf positions coinId).map (·.strategyConfigId)).Nodup := by
  have hkeys : ((longPositions positions).map fun p => (p.strategyConfigId, p.symbol)).Nodup := by
    have hmap := congrArg (List.map Prod.fst) h
    rw [List.map_map, List.map_map] at hmap
    exact hmap ▸ rows.nodup
  have hpairs : ((sourcesOf positions coinId).map fun src =>
      (src.strategyConfigId, src.symbol)).Nodup := by
    rw [sourcesOf, List.map_map]
    exact hkeys.sublist (List.filter_sublist.map _)
  rw [List.map_congr_left fun src hsrc => by rw [hsym src hsrc]] at hpairs
  refine List.Nodup.of_map (fun strategyConfigId => (strategyConfigId, sellSymbol)) ?_
  rwa [List.map_map]

/-- The rows in the middle of a plan, when the coins of `processed` have been sold. -/
structure Selling (rows : PositionRows) (processed : List CoinId) (state : SellingState) :
    Prop where
  others : ∀ key, extractCoinIdFromSymbol key.2 ∉ processed → state.rows.get? key = rows.get? key
  remaining : ∀ coinId, coinId ∉ processed → state.remainingQtyByCoin.get? coinId = none
  tracked : ∀ symbol, trackedQuantity state.rows symbol =
    trackedQuantity rows symbol - soldQuantity state.executedSells symbol
  sold : ∀ sell ∈ state.executedSells, 0 ≤ sell.2
  held : ∀ d ∈ state.decrements, d.Held

structure SalesBounded (rows : PositionRows) (state : SellingState) : Prop where
  lower : ∀ symbol, trackedQuantity rows symbol - soldQuantity state.executedSells symbol ≤
    trackedQuantity state.rows symbol
  upper : ∀ symbol, trackedQuantity state.rows symbol ≤ trackedQuantity rows symbol
  held : ∀ d ∈ state.decrements, d.Held

theorem selling_start (claims : String → Bool) : Selling rows [] { rows, claims } where
  others := fun _ _ => rfl
  remaining := fun _ _ => rfl
  tracked := by simp [soldQuantity]
  sold := by simp
  held := by simp

theorem Selling.claims (h : Selling rows processed state) (claims : String → Bool) :
    Selling rows processed { state with claims } :=
  ⟨h.others, h.remaining, h.tracked, h.sold, h.held⟩

theorem soldQuantity_nonneg {executedSells : List (String × ℚ)}
    (h : ∀ sell ∈ executedSells, 0 ≤ sell.2) (symbol : String) :
    0 ≤ soldQuantity executedSells symbol :=
  List.sum_nonneg fun q hq => by
    obtain ⟨sell, hsell, rfl⟩ := List.mem_map.mp hq
    split
    · exact h sell hsell
    · exact le_rfl

theorem soldQuantity_append (executedSells : List (String × ℚ)) (quantity : ℚ) (symbol : String) :
    soldQuantity (executedSells ++ [(sellSymbol, quantity)]) symbol =
      soldQuantity executedSells symbol + if symbol = sellSymbol then quantity else 0 := by
  rw [soldQuantity, soldQuantity, List.map_append, List.sum_append, List.map_singleton,
    List.sum_singleton]
  by_cases hsame : symbol = sellSymbol
  · rw [if_pos hsame, if_pos hsame.symm]
  · rw [if_neg hsame, if_neg (Ne.symm hsame)]

theorem Selling.bounded (h : Selling rows processed state) : SalesBounded rows state where
  lower := fun symbol => (h.tracked symbol).ge
  upper := fun symbol => by
    rw [h.tracked]
    exact sub_le_self _ (soldQuantity_nonneg h.sold symbol)
  held := h.held

theorem SalesBounded.claims (h : SalesBounded rows state) (claims : String → Bool) :
    SalesBounded rows { state with claims } :=
  ⟨h.lower, h.upper, h.held⟩

theorem extract_of_find {marketData : List PairPrice}
    (h : findSymbolForCoinId coinId marketData = some sellSymbol) :
    extractCoinIdFromSymbol sellSymbol = coinId := by
  obtain ⟨_, hmd, rfl⟩ := Option.map_eq_some_iff.mp h
  have hfound := List.find?_some hmd
  exact of_decide_eq_true hfound

section Placed

variable {processed : List CoinId} {state : SellingState} {context : SellingContext}
  {sellOrder : LiveSellOrder} {updates : ℕ → Bool} {merged : MergedPosition}

def startBooking (merged : MergedPosition) (state : SellingState) (sellOrder : LiveSellOrder) :
    Booking where
  rows := state.rows
  decrements := state.decrements
  remainingQty := OrdMap.ofEntries
    (merged.sourcePositions.map fun sp => (sp.strategyConfigId, sp.quantity))
  remainingSellQty := sellOrder.quantity

/-- What is booked when the sources of a coin have been taken from. -/
def bookedSale (sellSymbol : String) (sellOrder : LiveSellOrder) (state : SellingState)
    (after : Booking) : SellingState :=
  { state with
    rows := after.rows
    decrements := after.decrements
    executedSells := state.executedSells ++ [(sellSymbol, sellOrder.quantity)]
    remainingQtyByCoin := state.remainingQtyByCoin.set sellOrder.coinId after.remainingQty }

theorem bookPlacedSale_eq {after : Booking}
    (hget : context.positionsMap.get? sellOrder.coinId = some merged)
    (hsrc : merged.sourcePositions ≠ [])
    (hrem : state.remainingQtyByCoin.get? sellOrder.coinId = none)
    (hafter : merged.sourcePositions.foldl
      (bookSource sellSymbol sellOrder.currentPrice updates)
      (startBooking merged state sellOrder) = after) :
    bookPlacedSale context sellSymbol sellOrder updates state =
      if after.failed then
        .aborted { bookedSale sellSymbol sellOrder state after with
          claims := clearCooldown state.claims sellSymbol }
      else .executed (bookedSale sellSymbol sellOrder state after) := by
  unfold startBooking at hafter
  unfold bookPlacedSale bookedSale
  simp only [hget, Option.map_some, Option.getD_some, hrem, Option.getD_none, bookSources,
    if_neg hsrc, hafter]

theorem Selling.ready (h : Selling rows processed state) (hlists : Lists positions rows)
    (hsources : merged.sourcePositions = sourcesOf positions sellOrder.coinId)
    (hsym : ∀ src ∈ sourcesOf positions sellOrder.coinId, src.symbol = sellSymbol)
    (hcoin : extractCoinIdFromSymbol sellSymbol = sellOrder.coinId)
    (hnew : sellOrder.coinId ∉ processed) {src : SourcePosition}
    (hsrc : src ∈ sourcesOf positions sellOrder.coinId) :
    Ready sellSymbol (startBooking merged state sellOrder) src where
  remaining := by
    unfold startBooking
    rw [OrdMap.get?_eq_some_iff, OrdMap.entries_ofEntries, hsources]
    · exact List.mem_map_of_mem hsrc
    · rw [List.map_map, hsources]
      exact hlists.nodup hsym
  held := by
    have hrow : state.rows.get? (src.strategyConfigId, sellSymbol) =
        rows.get? (src.strategyConfigId, sellSymbol) := h.others _ (hcoin.symm ▸ hnew)
    rw [← hlists.held hsrc, hsym src hsrc, heldQuantity, heldQuantity, startBooking, hrow]

theorem Selling.bookedSale (h : Selling rows processed state)
    (hcoin : extractCoinIdFromSymbol sellSymbol = sellOrder.coinId) (hpos : 0 < sellOrder.quantity)
    {after : Booking}
    (htaken : Taken sellSymbol (startBooking merged state sellOrder) after) :
    SalesBounded rows (bookedSale sellSymbol sellOrder state after) ∧
      (after.remainingSellQty ≤ 0 →
        Selling rows (sellOrder.coinId :: processed)
          (bookedSale sellSymbol sellOrder state after)) := by
  have hleft : 0 ≤ after.remainingSellQty := htaken.nonneg hpos.le
  have hmost : after.remainingSellQty ≤ sellOrder.quantity := htaken.le
  have htrd : ∀ symbol, trackedQuantity after.rows symbol =
      trackedQuantity rows symbol - soldQuantity state.executedSells symbol -
        if symbol = sellSymbol then sellOrder.quantity - after.remainingSellQty else 0 :=
    fun symbol => (htaken.tracked symbol).trans (by rw [← h.tracked]; rfl)
  have hsold := soldQuantity_nonneg h.sold
  refine ⟨⟨fun symbol => ?_, fun symbol => ?_, htaken.held h.held⟩, fun hall => ?_⟩
  · dsimp only [Chansey.bookedSale]
    rw [soldQuantity_append, htrd]
    split_ifs <;> linarith
  · dsimp only [Chansey.bookedSale]
    rw [htrd]
    have := hsold symbol
    split_ifs <;> linarith
  · have hzero : after.remainingSellQty = 0 := le_antisymm hall hleft
    refine ⟨fun key hkey => ?_, fun coinId hcoinId => ?_, fun symbol => ?_, fun sell hsell => ?_,
      htaken.held h.held⟩
    · rw [List.mem_cons, not_or] at hkey
      rw [← h.others key hkey.2]
      exact htaken.others key fun heq => hkey.1 (heq ▸ hcoin)
    · rw [List.mem_cons, not_or] at hcoinId
      exact (OrdMap.get?_set_of_ne _ _ (Ne.symm hcoinId.1)).trans (h.remaining _ hcoinId.2)
    · dsimp only [Chansey.bookedSale]
      rw [soldQuantity_append, htrd, hzero, sub_zero, sub_sub]
    · rcases List.mem_append.mp hsell with hsell | hsell
      · exact h.sold sell hsell
      · rw [List.mem_singleton] at hsell
        subst hsell
        exact hpos.le

/-- What a plan promises of an order: the market data give the symbol under which all sources of its
coin are tracked, and no more is sold than they hold. -/
structure Sellable (positions : List LivePosition) (marketData : List PairPrice)
    (sellOrder : LiveSellOrder) : Prop where
  oneSymbol : OneSymbol positions marketData sellOrder.coinId
  pos : 0 < sellOrder.quantity
  held : ∃ merged, (mergePositions positions).get? sellOrder.coinId = some merged ∧
    sellOrder.quantity ≤ merged.quantity

section

variable (h : Selling rows processed state) (hlists : Lists positions rows)
  (hrows : ∀ e ∈ rows.entries, 0 ≤ e.2.quantity)
  (hmap : context.positionsMap = mergePositions positions)
  (hsell : Sellable positions context.marketData sellOrder)

include h hlists hrows hmap hsell

variable (updates) in
theorem Selling.bookPlacedSale
    (hfind : findSymbolForCoinId sellOrder.coinId context.marketData = some sellSymbol)
    (hnew : sellOrder.coinId ∉ processed) :
    match bookPlacedSale context sellSymbol sellOrder updates state with
    | .executed state' => Selling rows (sellOrder.coinId :: processed) state'
    | .aborted state' => SalesBounded rows state' ∧ ∃ k, updates k = false := by
  obtain ⟨merged, hmerged, hle⟩ := hsell.held
  have hget := mergePositions_get? positions sellOrder.coinId
  rw [hmerged] at hget
  obtain ⟨hsources, hqty⟩ := hget
  have hsym : ∀ src ∈ sourcesOf positions sellOrder.coinId, src.symbol = sellSymbol := by
    intro src hsrc
    have hsame := hsell.oneSymbol src hsrc
    rw [hfind] at hsame
    exact (Option.some.inj hsame).symm
  have hcoin := extract_of_find hfind
  have hnone : merged.sourcePositions ≠ [] := by
    rw [hsources]
    intro hnil
    rw [hqty, hnil, totalQuantity, List.map_nil, List.sum_nil] at hle
    exact absurd (hsell.pos.trans_le hle) (lt_irrefl 0)
  have hready : ∀ src ∈ merged.sourcePositions,
      Ready sellSymbol (startBooking merged state sellOrder) src :=
    fun src hsrc => h.ready hlists hsources hsym hcoin hnew (hsources ▸ hsrc)
  have hnodup : (merged.sourcePositions.map (·.strategyConfigId)).Nodup := by
    rw [hsources]
    exact hlists.nodup hsym
  have hnn : ∀ src ∈ merged.sourcePositions, 0 ≤ src.quantity :=
    fun src hsrc => hlists.nonneg hrows (hsources ▸ hsrc)
  have htotal : (startBooking merged state sellOrder).remainingSellQty ≤
      totalQuantity merged.sourcePositions := by
    rw [hsources, ← hqty]
    exact hle
  generalize hafter : merged.sourcePositions.foldl
    (bookSource sellSymbol sellOrder.currentPrice updates)
    (startBooking merged state sellOrder) = after
  obtain ⟨htaken, hall, hfail⟩ := hafter ▸ taken_bookSources hnodup hready hnn htotal
  obtain ⟨hbdd, hselling⟩ := h.bookedSale hcoin hsell.pos htaken
  rw [bookPlacedSale_eq (hmap ▸ hmerged) hnone (h.remaining _ hnew) hafter]
  cases hfailed : after.failed with
  | false => exact hselling (hall hfailed)
  | true =>
    refine ⟨hbdd.claims _, ?_⟩
    by_contra hupds
    simp only [not_exists, Bool.not_eq_false] at hupds
    rw [hfail hupds] at hfailed
    cases hfailed

theorem Selling.executeSale (hnew : sellOrder.coinId ∉ processed) (fate : SaleFate) :
    match executeSale context state sellOrder fate with
    | .executed state' => Selling rows (sellOrder.coinId :: processed) state'
    | .aborted state' => SalesBounded rows state' ∧
        (Selling rows processed state' ∨ ∃ k, fate.updates k = false) := by
  unfold Chansey.executeSale
  cases hfind : findSymbolForCoinId sellOrder.coinId context.marketData with
  | none => exact ⟨h.bounded, Or.inl h⟩
  | some sellSymbol =>
    dsimp only
    by_cases hkey : fate.exchangeKey = false
    · rw [if_pos hkey]
      exact ⟨h.bounded, Or.inl h⟩
    rw [if_neg hkey]
    by_cases hblocked : fate.cooldown = .blocked
    · rw [if_pos hblocked]
      exact ⟨h.bounded, Or.inl h⟩
    rw [if_neg hblocked]
    by_cases hplac : fate.placed = false
    · rw [if_pos hplac]
      exact ⟨h.bounded.claims _, Or.inl (h.claims _)⟩
    rw [if_neg hplac]
    generalize hclaims : (if fate.cooldown = .claimed then
      Function.update state.claims sellSymbol true else state.claims) = claims
    have hbkd := (h.claims claims).bookPlacedSale fate.updates hlists hrows hmap hsell hfind
      hnew
    revert hbkd
    cases Chansey.bookPlacedSale context sellSymbol sellOrder fate.updates { state with claims } with
    | executed => exact id
    | aborted => exact fun hbkd => ⟨hbkd.1, Or.inr hbkd.2⟩

end

end Placed

theorem Selling.executeSells {context : SellingContext} (hlists : Lists positions rows)
    (hrows : ∀ e ∈ rows.entries, 0 ≤ e.2.quantity)
    (hmap : context.positionsMap = mergePositions positions)
    (sales : List (LiveSellOrder × SaleFate))
    (hsell : ∀ sale ∈ sales, Sellable positions context.marketData sale.1)
    (hnodup : (sales.map (·.1.coinId)).Nodup) (h : Selling rows processed state)
    (hnew : ∀ sale ∈ sales, sale.1.coinId ∉ processed) :
    SalesBounded rows (executeSells context state sales).1 ∧
      ((∀ sale ∈ sales, ∀ k, sale.2.updates k = true) → ∀ symbol,
        trackedQuantity (executeSells context state sales).1.rows symbol =
          trackedQuantity rows symbol -
            soldQuantity (executeSells context state sales).1.executedSells symbol) := by
  induction sales generalizing processed state with
  | nil => exact ⟨h.bounded, fun _ => h.tracked⟩
  | cons sale sales ih =>
    rw [List.map_cons, List.nodup_cons] at hnodup
    have hsale := h.executeSale hlists hrows hmap (hsell sale List.mem_cons_self)
      (hnew sale List.mem_cons_self) sale.2
    unfold Chansey.executeSells
    revert hsale
    cases Chansey.executeSale context state sale.1 sale.2 with
    | executed =>
      intro hsale
      obtain ⟨hbdd, htrd⟩ := ih
        (fun other hmem => hsell other (List.mem_cons_of_mem _ hmem)) hnodup.2 hsale
        fun other hmem hproc => by
          rcases List.mem_cons.mp hproc with hsame | hold
          · exact hnodup.1 (List.mem_map.mpr ⟨other, hmem, hsame⟩)
          · exact hnew other (List.mem_cons_of_mem _ hmem) hold
      exact ⟨hbdd, fun hupds =>
        htrd fun other hmem => hupds other (List.mem_cons_of_mem _ hmem)⟩
    | aborted =>
      rintro ⟨hbdd, hkept⟩
      refine ⟨hbdd.claims _, fun hupds => ?_⟩
      rcases hkept with hkept | ⟨k, hk⟩
      · exact hkept.tracked
      · rw [hupds sale List.mem_cons_self k] at hk
        cases hk

end Plan

/-! ## What is recorded and claimed -/

section Record

variable {context : SellingContext} {state : SellingState}

def saleOf (context : SellingContext) (sellOrder : LiveSellOrder) : Option String × ℚ :=
  (findSymbolForCoinId sellOrder.coinId context.marketData, sellOrder.quantity)

theorem executeSale_record (context : SellingContext) (state : SellingState)
    (sellOrder : LiveSellOrder) (fate : SaleFate) :
    match executeSale context state sellOrder fate with
    | .executed state' => ∃ sellSymbol,
        findSymbolForCoinId sellOrder.coinId context.marketData = some sellSymbol ∧
        state'.executedSells = state.executedSells ++ [(sellSymbol, sellOrder.quantity)] ∧
        state'.claims = if fate.cooldown = .claimed then Function.update state.claims sellSymbol true
          else state.claims
    | .aborted state' => state'.executedSells = state.executedSells ∨ ∃ sellSymbol,
        findSymbolForCoinId sellOrder.coinId context.marketData = some sellSymbol ∧
        state'.executedSells = state.executedSells ++ [(sellSymbol, sellOrder.quantity)] := by
  unfold executeSale
  cases hfind : findSymbolForCoinId sellOrder.coinId context.marketData with
  | none => exact .inl rfl
  | some sellSymbol =>
    dsimp only
    by_cases hkey : fate.exchangeKey = false
    · rw [if_pos hkey]
      exact .inl rfl
    rw [if_neg hkey]
    by_cases hblocked : fate.cooldown = .blocked
    · rw [if_pos hblocked]
      exact .inl rfl
    rw [if_neg hblocked]
    by_cases hplac : fate.placed = false
    · rw [if_pos hplac]
      exact .inl rfl
    rw [if_neg hplac]
    unfold bookPlacedSale
    dsimp only
    generalize bookSources _ _ _ _ _ _ = booking
    cases booking.failed with
    | false => exact ⟨sellSymbol, rfl, rfl, rfl⟩
    | true => exact .inr ⟨sellSymbol, rfl, rfl⟩

theorem executeSells_record (sales : List (LiveSellOrder × SaleFate)) :
    ∃ recorded, (executeSells context state sales).1.executedSells =
        state.executedSells ++ recorded ∧
      recorded.map (Prod.map some id) <+: sales.map (saleOf context ·.1) ∧
      ((executeSells context state sales).2 = true →
        recorded.map (Prod.map some id) = sales.map (saleOf context ·.1)) := by
  induction sales generalizing state with
  | nil => exact ⟨[], (List.append_nil _).symm, List.prefix_rfl, fun _ => rfl⟩
  | cons sale sales ih =>
    have hsale := executeSale_record context state sale.1 sale.2
    unfold executeSells
    revert hsale
    cases executeSale context state sale.1 sale.2 with
    | executed state' =>
      rintro ⟨sellSymbol, hfind, hrec, -⟩
      obtain ⟨recorded, heq, hstart, hall⟩ := @ih state'
      have hhead : Prod.map some id (sellSymbol, sale.1.quantity) = saleOf context sale.1 := by
        rw [saleOf, hfind]
        rfl
      refine ⟨(sellSymbol, sale.1.quantity) :: recorded, ?_, ?_, fun hdone => ?_⟩
      · dsimp only
        rw [heq, hrec, List.append_assoc, List.singleton_append]
      · rw [List.map_cons, List.map_cons, hhead]
        exact List.prefix_cons_inj _ |>.mpr hstart
      · rw [List.map_cons, List.map_cons, hhead, hall hdone]
    | aborted =>
      rintro (hrec | ⟨sellSymbol, hfind, hrec⟩)
      · exact ⟨[], by rw [List.append_nil]; exact hrec, List.nil_prefix, fun h => by cases h⟩
      · refine ⟨[(sellSymbol, sale.1.quantity)], hrec, ?_, fun h => by cases h⟩
        rw [List.map_cons, List.map_cons, saleOf, hfind]
        exact List.prefix_cons_inj _ |>.mpr List.nil_prefix

theorem executeSells_append (before after : List (LiveSellOrder × SaleFate)) :
    executeSells context state (before ++ after) =
      if (executeSells context state before).2 then
        executeSells context (executeSells context state before).1 after
      else executeSells context state before := by
  induction before generalizing state with
  | nil => rfl
  | cons sale before ih =>
    rw [List.cons_append, executeSells, executeSells]
    cases executeSale context state sale.1 sale.2 with
    | executed => exact ih
    | aborted => rfl

theorem executeSells_claims (sales : List (LiveSellOrder × SaleFate))
    (hdone : (executeSells context state sales).2 = true) :
    (∀ symbol, state.claims symbol = true →
      (executeSells context state sales).1.claims symbol = true) ∧
    ∀ sale ∈ sales, sale.2.cooldown = .claimed →
      ∀ symbol, findSymbolForCoinId sale.1.coinId context.marketData = some symbol →
        (executeSells context state sales).1.claims symbol = true := by
  induction sales generalizing state with
  | nil => exact ⟨fun _ h => h, by simp⟩
  | cons sale sales ih =>
    have hsale := executeSale_record context state sale.1 sale.2
    unfold executeSells at hdone ⊢
    revert hsale hdone
    cases executeSale context state sale.1 sale.2 with
    | aborted => exact fun _ hdone => by cases hdone
    | executed =>
      rintro ⟨_, hfind, -, hclaims⟩ hdone
      obtain ⟨hkept, hclaimed⟩ := ih hdone
      refine ⟨fun symbol hsym => hkept symbol ?_, fun other hother hcooldown symbol hsome => ?_⟩
      · rw [hclaims]
        split
        · rw [Function.update_apply]
          split
          · rfl
          · exact hsym
        · exact hsym
      · rcases List.mem_cons.mp hother with rfl | hother
        · rw [hfind] at hsome
          cases hsome
          refine hkept _ ?_
          rw [hclaims, if_pos hcooldown, Function.update_self]
        · exact hclaimed other hother hcooldown symbol hsome

theorem foldl_clearCooldown (executedSells : List (String × ℚ)) (claims : String → Bool)
    (symbol : String) :
    executedSells.foldl (fun claims sell => clearCooldown claims sell.1) claims symbol =
      if symbol ∈ executedSells.map Prod.fst then false else claims symbol := by
  induction executedSells using List.reverseRecOn with
  | nil => simp
  | append_singleton executedSells sell ih =>
    rw [List.foldl_concat, clearCooldown, Function.update_apply, ih]
    by_cases hsame : symbol = sell.1
    · rw [if_pos hsame, hsame, if_pos (by simp)]
    · rw [if_neg hsame, List.map_append, List.map_singleton]
      simp only [List.mem_append, List.mem_singleton, hsame, or_false]

theorem executeSells_cleared (sales : List (LiveSellOrder × SaleFate))
    (haborted : (executeSells context state sales).2 = false) :
    ∀ sell ∈ (executeSells context state sales).1.executedSells,
      (executeSells context state sales).1.claims sell.1 = false := by
  induction sales generalizing state with
  | nil => cases haborted
  | cons sale sales ih =>
    unfold executeSells at haborted ⊢
    revert haborted
    cases executeSale context state sale.1 sale.2 with
    | executed => exact ih
    | aborted =>
      intro _ sell hsell
      dsimp only [cleanupOrphanedSells] at hsell ⊢
      rw [foldl_clearCooldown, if_pos (List.mem_map_of_mem hsell)]

end Record

/-! ## The approved plan -/

/-- What a part of a plan leaves: its sales `sales` are those of the plan up to where it stands. -/
structure SalesBooked (call : OpportunityCall) (rows : PositionRows) (claims : String → Bool)
    (sales : List (LiveSellOrder × SaleFate)) : Prop where
  bounded : SalesBounded rows (executeSells call.context { rows, claims } sales).1
  tracked : (∀ sale ∈ sales, ∀ k, sale.2.updates k = true) → ∀ symbol,
    trackedQuantity (executeSells call.context { rows, claims } sales).1.rows symbol =
      trackedQuantity rows symbol -
        soldQuantity (executeSells call.context { rows, claims } sales).1.executedSells symbol
  recorded : (executeSells call.context { rows, claims } sales).1.executedSells.map
    (Prod.map some id) <+: sales.map (saleOf call.context ·.1)
  all_recorded : (executeSells call.context { rows, claims } sales).2 = true →
    (executeSells call.context { rows, claims } sales).1.executedSells.map (Prod.map some id) =
      sales.map (saleOf call.context ·.1)
  kept : ∀ before, before <+: sales →
    (executeSells call.context { rows, claims } before).1.executedSells <+:
      (executeSells call.context { rows, claims } sales).1.executedSells
  claimed : (executeSells call.context { rows, claims } sales).2 = true → ∀ sale ∈ sales,
    sale.2.cooldown = .claimed → ∀ symbol,
      findSymbolForCoinId sale.1.coinId call.marketData = some symbol →
        (executeSells call.context { rows, claims } sales).1.claims symbol = true
  cleared : (executeSells call.context { rows, claims } sales).2 = false →
    ∀ sell ∈ (executeSells call.context { rows, claims } sales).1.executedSells,
      (executeSells call.context { rows, claims } sales).1.claims sell.1 = false

theorem approved_orders {call : OpportunityCall} {orders : List LiveSellOrder}
    (h : call.approved = some orders) :
    (orders.map (·.coinId)).Nodup ∧ ∀ o ∈ orders, 0 < o.quantity ∧
      ∃ merged, (mergePositions call.positions).get? o.coinId = some merged ∧
        o.quantity ≤ merged.quantity := by
  unfold OpportunityCall.approved at h
  split at h
  · cases h
  · exact evaluate_orders (Option.filter_eq_some_iff.mp h).1

/-- **Each sale of an approved plan is booked on the rows it came from**, where the market data name
for every coin of the plan the symbol under which its positions are tracked. -/
theorem opportunity_sales_booked (call : OpportunityCall) (orders : List LiveSellOrder)
    (happroved : call.approved = some orders) (rows : PositionRows)
    (hlists : Lists call.positions rows) (hrows : ∀ e ∈ rows.entries, 0 ≤ e.2.quantity)
    (hone : ∀ o ∈ orders, OneSymbol call.positions call.marketData o.coinId)
    (claims : String → Bool) (sales : List (LiveSellOrder × SaleFate))
    (hstart : sales.map Prod.fst <+: orders) : SalesBooked call rows claims sales := by
  obtain ⟨hnodup, horders⟩ := approved_orders happroved
  have hsellable : ∀ sale ∈ sales, Sellable call.positions call.context.marketData sale.1 := by
    intro sale hsale
    have hmem : sale.1 ∈ orders := hstart.subset (List.mem_map_of_mem hsale)
    exact ⟨hone _ hmem, (horders _ hmem).1, (horders _ hmem).2⟩
  have hcoins : ((sales.map Prod.fst).map (·.coinId)).Nodup := hnodup.sublist (hstart.sublist.map _)
  rw [List.map_map] at hcoins
  obtain ⟨hbounded, htracked⟩ := (selling_start claims).executeSells hlists hrows rfl sales
    hsellable hcoins (by simp)
  obtain ⟨_, hrecorded, hpart, hall⟩ := @executeSells_record call.context { rows, claims } sales
  rw [List.nil_append] at hrecorded
  refine ⟨hbounded, htracked, hrecorded ▸ hpart, fun hdone => hrecorded ▸ hall hdone, ?_,
    fun hdone => (executeSells_claims sales hdone).2, executeSells_cleared sales⟩
  rintro before ⟨after, rfl⟩
  rw [executeSells_append]
  split
  · obtain ⟨_, hmore, -⟩ := @executeSells_record call.context
      (executeSells call.context { rows, claims } before).1 after
    rw [hmore]
    exact List.prefix_append _ _
  · exact List.prefix_rfl

def bitcoinCall : OpportunityCall where
  buySymbol := "BTC/USD"
  buyConfidence := none
  strategyConfigId := "breakout"
  compositeRegime := .bull
  positions := [⟨"trend", "SOL/USD", .long, 4, 100, some 0⟩, ⟨"trend", "ADA/USD", .long, 10, 20, some 0⟩,
    ⟨"swing", "ADA/USD", .long, 5, 20, some 0⟩]
  marketData := [⟨"BTC/USD", 1000⟩, ⟨"SOL/USD", 100⟩, ⟨"ADA/USD", 10⟩]
  requiredBuyAmount := 160
  availableCash := 0
  config := {}
  enabled := true
  now := 180000000

def bitcoinRows : PositionRows :=
  OrdMap.ofEntries [(("trend", "SOL/USD"), { quantity := 4, avgEntryPrice := 100 }),
    (("trend", "ADA/USD"), { quantity := 10, avgEntryPrice := 20 }),
    (("swing", "ADA/USD"), { quantity := 5, avgEntryPrice := 20 })]

theorem opportunity_sales_booked_bitcoin :
    SalesBooked bitcoinCall bitcoinRows (fun _ => false)
      [(⟨"ADA", 15, 10⟩, {}), (⟨"SOL", 1 / 10, 100⟩, {})] :=
  opportunity_sales_booked bitcoinCall [⟨"ADA", 15, 10⟩, ⟨"SOL", 1 / 10, 100⟩] (by decide +kernel)
    bitcoinRows (by unfold Lists; decide +kernel) (by decide +kernel)
    (by unfold OneSymbol; decide +kernel) (fun _ => false) _ List.prefix_rfl

theorem aborted_plan_clears_claims :
    let run := executeSells bitcoinCall.context { rows := bitcoinRows, claims := fun _ => false }
      [(⟨"ADA", 15, 10⟩, {}), (⟨"SOL", 1 / 10, 100⟩, { placed := false })]
    bitcoinCall.approved = some [⟨"ADA", 15, 10⟩, ⟨"SOL", 1 / 10, 100⟩] ∧
      run.1.executedSells = [("ADA/USD", 15)] ∧ run.1.claims "ADA/USD" = false := by
  decide +kernel

end Chansey
