import Chansey.Live.OrderRows
import Chansey.Window.Timeframe

/-!
# The daily loss limit

Entries are refused when the losses of a day reach a part of the trading capital. The gate sums the
negative gains of a user's filled algorithmic sales, but the paths that mark an order as algorithmic
never state its gain, and those that state a gain never mark the order.

* **`gainless_foldl`**: no algorithmic row has a gain, whatever the paths.
-/

namespace Chansey

open Remote

/-! ## The gate -/

/-- The part of the capital that may be lost in a day. -/
def RISK_LEVEL_THRESHOLDS (riskLevel : ℤ) : ℚ :=
  match riskLevel with
  | 1 => 5 / 100
  | 2 => 75 / 1000
  | 4 => 125 / 1000
  | 5 => 15 / 100
  -- level 3, and the fallback for a level that is not listed
  | _ => 10 / 100

inductive LossGateReason where
  | noCapital
  | limitExceeded (lossPercent limitPercent : ℚ)
  | checkFailed

structure LossGateResult where
  allowed : Bool
  reason : Option LossGateReason := none

/-- The sum of the negative gains of the user's algorithmic sales of the last day. -/
def lossQuery (orders : List StoredOrder) (userId : String) (now : Instant) : ℚ :=
  (orders.filter fun o =>
    o.userId = userId ∧ o.isAlgorithmicTrade ∧ o.status = .filled ∧ o.side = .sell ∧
      now - DAY_MS < o.createdAt ∧ o.gainLoss.any (· < 0)).map (·.gainLoss.getD 0) |>.sum

/-- `queried`: the answer of the database, none when the query fails. -/
def checkDailyLossLimit (queried : Option ℚ) (tradingCapital : ℚ) (riskLevel : ℤ)
    (action : LiveAction) : LossGateResult :=
  if action = .sell ∨ action = .shortExit then { allowed := true }
  else if tradingCapital ≤ 0 then { allowed := false, reason := some .noCapital }
  else
    match queried with
    | none => { allowed := false, reason := some .checkFailed }
    | some sum =>
      let totalLoss := |sum|
      let lossPercent := totalLoss / tradingCapital * 100
      let limitPercent := RISK_LEVEL_THRESHOLDS riskLevel * 100
      if limitPercent ≤ lossPercent then
        { allowed := false, reason := some (.limitExceeded lossPercent limitPercent) }
      else { allowed := true }

/-! ## Losses -/

structure CostBasis where
  quantity : ℚ := 0
  basis : ℚ := 0

abbrev CostBook := OrdMap (String × PositionSide) CostBasis

def StoredOrder.heldSide (order : StoredOrder) : PositionSide := order.positionSide.getD .long

/-- A buy opens a long position and closes a short one. -/
def StoredOrder.opens (order : StoredOrder) : Bool :=
  match order.heldSide with
  | .long => order.side = .buy
  | .short => order.side = .sell

def StoredOrder.value (order : StoredOrder) : ℚ :=
  (Js.truthy? order.cost).getD (order.executedQuantity * order.averagePrice.getD order.price)

def closeResult (held : CostBasis) (order : StoredOrder) : ℚ :=
  let costBasis := held.basis * order.executedQuantity / held.quantity
  match order.heldSide with
  | .long => order.value - order.fee - costBasis
  | .short => costBasis - order.fee - order.value

def realise (book : CostBook) (order : StoredOrder) : CostBook × ℚ :=
  let key := (order.symbol, order.heldSide)
  let held := (book.get? key).getD {}
  if order.opens then
    (book.set key ⟨held.quantity + order.executedQuantity, held.basis + order.value⟩, 0)
  else
    (book.set key ⟨held.quantity - order.executedQuantity,
      held.basis - held.basis * order.executedQuantity / held.quantity⟩,
      max 0 (-closeResult held order))

def lossesOf (since : Instant) : CostBook → List StoredOrder → ℚ
  | _, [] => 0
  | book, order :: orders =>
    let (book', loss) := realise book order
    (if since < order.createdAt then loss else 0) + lossesOf since book' orders

def realisedLosses (orders : List StoredOrder) (userId : String) (now : Instant) : ℚ :=
  lossesOf (now - DAY_MS) OrdMap.empty
    (orders.filter fun o => o.userId = userId ∧ o.status = .filled)

/-! ## The rows that the gate sums -/

section Store

variable {σ κ : Type}

def Gainless (orders : List StoredOrder) : Prop :=
  ∀ o ∈ orders, o.isAlgorithmicTrade = true → o.gainLoss = none

theorem Gainless.append {orders added : List StoredOrder} (h : Gainless orders)
    (h' : Gainless added) : Gainless (orders ++ added) := fun o ho =>
  (List.mem_append.mp ho).elim (h o) (h' o)

variable {orders : List StoredOrder}

theorem Gainless.map {f : StoredOrder → StoredOrder} (h : Gainless orders)
    (hf : ∀ o, (f o).isAlgorithmicTrade = o.isAlgorithmicTrade ∧ (f o).gainLoss = o.gainLoss) :
    Gainless (orders.map f) := by
  intro o ho halgo
  obtain ⟨o', ho', rfl⟩ := List.mem_map.mp ho
  rw [(hf o').1] at halgo
  rw [(hf o').2]
  exact h o' ho' halgo

theorem gainless_singleton {order : StoredOrder}
    (h : order.isAlgorithmicTrade = false ∨ order.gainLoss = none) : Gainless [order] := by
  intro o ho halgo
  rw [List.mem_singleton] at ho
  subst ho
  rcases h with h | h
  · rw [h] at halgo
    cases halgo
  · exact h

theorem gainless_store (h : Gainless orders) (event : StoreEvent σ κ) :
    Gainless (store orders event) := by
  cases event with
  | synced =>
    simp only [store]
    split
    · refine h.map fun o => ?_
      split
      · exact ⟨rfl, rfl⟩
      · exact ⟨rfl, rfl⟩
    · exact h.append (gainless_singleton (Or.inl rfl))
  | oco =>
    refine h.append fun o ho _ => ?_
    rcases List.mem_pair.mp ho with rfl | rfl <;> rfl
  | transitioned =>
    refine h.map fun o => ?_
    split
    · exact ⟨rfl, rfl⟩
    · exact ⟨rfl, rfl⟩
  | _ =>
    exact h.append (gainless_singleton (Or.inr rfl))

theorem gainless_foldl (events : List (StoreEvent σ κ)) : Gainless (events.foldl store []) := by
  induction events using List.reverseRecOn with
  | nil => exact fun o ho => by cases ho
  | append_singleton events event ih =>
    rw [List.foldl_concat]
    exact gainless_store ih event

theorem lossQuery_eq_zero (h : Gainless orders) (userId : String) (now : Instant) :
    lossQuery orders userId now = 0 := by
  unfold lossQuery
  rw [List.filter_eq_nil_iff.mpr]
  · rfl
  · intro o ho hcnt
    rw [decide_eq_true_eq] at hcnt
    rw [h o ho hcnt.2.1] at hcnt
    cases hcnt.2.2.2.2.2

theorem threshold_pos (riskLevel : ℤ) : 0 < RISK_LEVEL_THRESHOLDS riskLevel := by
  unfold RISK_LEVEL_THRESHOLDS
  split <;> norm_num

theorem checkDailyLossLimit_zero {tradingCapital : ℚ} (hcap : 0 < tradingCapital)
    (riskLevel : ℤ) (action : LiveAction) :
    (checkDailyLossLimit (some 0) tradingCapital riskLevel action).allowed = true := by
  have hlimit : ¬ RISK_LEVEL_THRESHOLDS riskLevel * 100 ≤ |(0 : ℚ)| / tradingCapital * 100 := by
    rw [abs_zero, zero_div, zero_mul, not_le]
    exact mul_pos (threshold_pos riskLevel) (by norm_num)
  unfold checkDailyLossLimit
  split
  · rfl
  · rw [if_neg (not_le.mpr hcap)]
    dsimp only
    rw [if_neg hlimit]

/-! ## The limit -/

/-- **When entries are refused once the limit is reached**: while it is not reached, without capital,
and when the query fails. -/
theorem lossLimit_iff (events : List (StoreEvent σ κ)) (userId : String) (now : Instant)
    (tradingCapital : ℚ) (riskLevel : ℤ) (action : LiveAction)
    (haction : action = .buy ∨ action = .shortEntry) (queryFails : Bool) :
    (RISK_LEVEL_THRESHOLDS riskLevel * tradingCapital ≤
        realisedLosses (events.foldl store []) userId now →
      (checkDailyLossLimit
        (if queryFails then none else some (lossQuery (events.foldl store []) userId now))
        tradingCapital riskLevel action).allowed = false) ↔
    (realisedLosses (events.foldl store []) userId now <
        RISK_LEVEL_THRESHOLDS riskLevel * tradingCapital ∨
      tradingCapital ≤ 0 ∨ queryFails = true) := by
  have hentry : ¬ (action = .sell ∨ action = .shortExit) := by
    rcases haction with rfl | rfl <;> decide
  rw [lossQuery_eq_zero (gainless_foldl events)]
  constructor
  · intro hrefused
    by_contra hnone
    simp only [not_or, not_lt, not_le, Bool.not_eq_true] at hnone
    obtain ⟨hreached, hcapital, hqueried⟩ := hnone
    have hallowed := hrefused hreached
    rw [hqueried, if_neg Bool.false_ne_true, checkDailyLossLimit_zero hcapital] at hallowed
    cases hallowed
  · intro hholds hreached
    rcases hholds with hbelow | hcapital | hfails
    · exact absurd hreached (not_le.mpr hbelow)
    · unfold checkDailyLossLimit
      rw [if_neg hentry, if_pos hcapital]
    · unfold checkDailyLossLimit
      rw [hfails, if_neg hentry]
      split <;> rfl

end Store

def filledAt (id : ExchangeOrderId) (price : ℚ) : OrderReport where
  id := id
  status := some "closed"
  filled := some 1
  amount := some 1
  price := some price
  cost := some price
  timestamp := 1
  symbol := "BTC/USDT"
  side := none

def tradeOf (action : TradeSide) (price : ℚ) : AlgorithmicSignal where
  action := action
  symbol := "BTC/USDT"
  quantity := 1
  price := price

def losingTrade : List (StoreEvent Unit Unit) :=
  [.algorithmic "alice" "trend" (tradeOf .buy 100) "key" "kraken" (filledAt "buy" 100) "1" 1,
    .algorithmic "alice" "trend" (tradeOf .sell 50) "key" "kraken" (filledAt "sell" 50) "2" 2]

theorem lossLimit_iff_losingTrade :
    (RISK_LEVEL_THRESHOLDS 1 * 100 ≤ realisedLosses (losingTrade.foldl store []) "alice" 3 →
      (checkDailyLossLimit
        (if false then none else some (lossQuery (losingTrade.foldl store []) "alice" 3))
        100 1 .buy).allowed = false) ↔
    (realisedLosses (losingTrade.foldl store []) "alice" 3 < RISK_LEVEL_THRESHOLDS 1 * 100 ∨
      (100 : ℚ) ≤ 0 ∨ false = true) :=
  lossLimit_iff losingTrade "alice" 3 100 1 .buy (Or.inl rfl) false

theorem loss_not_refused :
    realisedLosses (losingTrade.foldl store []) "alice" 3 = 50 ∧
      RISK_LEVEL_THRESHOLDS 1 * 100 ≤ realisedLosses (losingTrade.foldl store []) "alice" 3 ∧
      (checkDailyLossLimit (some (lossQuery (losingTrade.foldl store []) "alice" 3)) 100 1
        .buy).allowed = true := by
  decide +kernel

end Chansey
