import Chansey.Live.CapitalAllocation
import Chansey.Live.LossLimit

/-!
# The realised gain of a sale

A row's gain is written once, when a synchronisation creates it, and from that report alone. The
Kelly fractions and the loss limit read it as the outcome of a trade.
-/

namespace Chansey

section Gain

variable {σ κ : Type}

def StoredOrder.Sale (order : StoredOrder) : Prop :=
  order.status = .filled ∧ order.side = .sell ∧ order.heldSide = .long

instance (order : StoredOrder) : Decidable order.Sale :=
  inferInstanceAs (Decidable (_ ∧ _ ∧ _))

def fillsOf (orders : List StoredOrder) (userId : String) : List StoredOrder :=
  orders.filter fun o => o.userId = userId ∧ o.status = .filled

/-- What a sale brought, less its fee and less the cost basis of what was sold. `costBasis`: counts the
cost basis of a sale among the fills of its user. -/
def realGain (costBasis : List StoredOrder → StoredOrder → ℚ) (orders : List StoredOrder)
    (order : StoredOrder) : ℚ :=
  order.value - order.fee - costBasis (fillsOf orders order.userId) order

/-! ## What Kelly reads -/

def kellyOrders (orders : List StoredOrder) : List StoredOrder :=
  orders.filter fun o => o.isAlgorithmicTrade ∧ o.status = .filled

def storedFills (orders : List StoredOrder) : List AlgorithmicFill :=
  (kellyOrders orders).map fun o => ⟨o.strategyConfigId, o.gainLoss⟩

def realFills (costBasis : List StoredOrder → StoredOrder → ℚ) (orders : List StoredOrder) :
    List AlgorithmicFill :=
  (kellyOrders orders).map fun o =>
    ⟨o.strategyConfigId, if o.Sale then some (realGain costBasis orders o) else none⟩

/-- Every filled sale ends up with its real gain, and the results that Kelly counts are real. -/
structure GainLaw (costBasis : List StoredOrder → StoredOrder → ℚ) (orders : List StoredOrder) :
    Prop where
  gain : ∀ o ∈ orders, o.Sale → o.gainLoss = some (realGain costBasis orders o)
  kelly : ∀ strategyId, resolvedResults (storedFills orders) strategyId =
    resolvedResults (realFills costBasis orders) strategyId

/-! ## Where a gain comes from -/

def StoreEvent.report? : StoreEvent σ κ → Option OrderReport
  | .synced _ exchangeOrder _ => some exchangeOrder
  | _ => none

/-- The rows, each with the report it was created from. -/
abbrev Traced := List (StoredOrder × Option OrderReport)

/-- Rows are never removed: what an event does to the rows that exist, and what it adds to them. -/
def Traced.store (rows : Traced) (event : StoreEvent σ κ) : Traced :=
  let orders := Chansey.store (rows.map Prod.fst) event
  (orders.take rows.length).zip (rows.map Prod.snd) ++
    (orders.drop rows.length).map fun order => (order, event.report?)

structure TracedRow (row : StoredOrder × Option OrderReport) : Prop where
  gain : row.1.gainLoss = row.2.bind fun report =>
    calculateGainLoss report (extractFeeData report.toCcxtOrder.toExchangeOrder)
  plain : row.1.isAlgorithmicTrade = true → row.2 = none

theorem store_shape (orders : List StoredOrder) (event : StoreEvent σ κ) :
    ∃ f added, store orders event = orders.map f ++ added ∧
      (∀ o, (f o).gainLoss = o.gainLoss ∧ (f o).isAlgorithmicTrade = o.isAlgorithmicTrade) ∧
      ∀ o ∈ added, TracedRow (o, event.report?) := by
  have hkept : ∀ o : StoredOrder, (id o).gainLoss = o.gainLoss ∧
      (id o).isAlgorithmicTrade = o.isAlgorithmicTrade := fun o => ⟨rfl, rfl⟩
  have hsing : ∀ {order : StoredOrder} {report : Option OrderReport},
      TracedRow (order, report) → ∀ o ∈ [order], TracedRow (o, report) := by
    intro order report h o ho
    rwa [List.mem_singleton.1 ho]
  cases event with
  | oco =>
    refine ⟨id, _, by rw [List.map_id]; rfl, hkept, fun o ho => ?_⟩
    rcases List.mem_pair.1 ho with rfl | rfl <;> exact ⟨rfl, fun _ => rfl⟩
  | synced =>
    simp only [store]
    split
    · refine ⟨_, [], (List.append_nil _).symm, fun o => ?_, fun o ho => by cases ho⟩
      split
      · exact ⟨rfl, rfl⟩
      · exact ⟨rfl, rfl⟩
    · refine ⟨id, _, by rw [List.map_id], hkept, hsing ⟨rfl, fun h => ?_⟩⟩
      cases h
  | transitioned =>
    refine ⟨_, [], (List.append_nil _).symm, fun o => ?_, fun o ho => by cases ho⟩
    split
    · exact ⟨rfl, rfl⟩
    · exact ⟨rfl, rfl⟩
  | _ =>
    exact ⟨id, _, by rw [List.map_id]; rfl, hkept, hsing ⟨rfl, fun _ => rfl⟩⟩

theorem tracedStore_eq {rows : Traced} {event : StoreEvent σ κ} {f : StoredOrder → StoredOrder}
    {added : List StoredOrder} (h : store (rows.map Prod.fst) event = (rows.map Prod.fst).map f ++ added) :
    rows.store event =
      rows.map (fun row => (f row.1, row.2)) ++ added.map fun order => (order, event.report?) := by
  have hlen : rows.length = ((rows.map Prod.fst).map f).length := by
    rw [List.length_map, List.length_map]
  unfold Traced.store
  rw [h, hlen]
  simp only
  rw [List.take_left, List.drop_left]
  congr 1
  rw [List.map_map, List.zip_map']
  rfl

theorem traced_orders (events : List (StoreEvent σ κ)) :
    (events.foldl Traced.store []).map Prod.fst = events.foldl store [] := by
  induction events using List.reverseRecOn with
  | nil => rfl
  | append_singleton events event ih =>
    obtain ⟨f, _, hstore, -, -⟩ :=
      store_shape ((events.foldl Traced.store ([] : Traced)).map Prod.fst) event
    rw [List.foldl_concat, List.foldl_concat, tracedStore_eq hstore, ← ih, hstore, List.map_append,
      List.map_map, List.map_map, List.map_map]
    congr 1
    exact List.map_id _

theorem traced_gain (events : List (StoreEvent σ κ)) :
    ∀ row ∈ (events.foldl Traced.store [] : Traced), TracedRow row := by
  induction events using List.reverseRecOn with
  | nil => exact fun row hmem => by cases hmem
  | append_singleton events event ih =>
    obtain ⟨f, _, hstore, hkept, hadded⟩ :=
      store_shape ((events.foldl Traced.store ([] : Traced)).map Prod.fst) event
    rw [List.foldl_concat, tracedStore_eq hstore]
    intro row hmem
    rcases List.mem_append.1 hmem with hmem | hmem
    · obtain ⟨old, hold, rfl⟩ := List.mem_map.1 hmem
      have htraced := ih old hold
      exact ⟨(hkept old.1).1.trans htraced.gain, fun h => htraced.plain ((hkept old.1).2.symm.trans h)⟩
    · obtain ⟨order, horder, rfl⟩ := List.mem_map.1 hmem
      exact hadded order horder

/-! ## When the law holds -/

/-- The report that created the row is one of a sale with a cost and a fee. What later reports added to
the cost, less what they added to the fee, is the cost basis: nothing at all, if there were none. -/
structure Accounted (costBasis : List StoredOrder → StoredOrder → ℚ) (orders : List StoredOrder)
    (order : StoredOrder) (report : OrderReport) : Prop where
  side : report.side = some "sell"
  cost : report.cost.getD 0 ≠ 0
  fee : (extractFeeData report.toCcxtOrder.toExchangeOrder).fee ≠ 0
  basis : (order.value - report.cost.getD 0) -
    (order.fee - (extractFeeData report.toCcxtOrder.toExchangeOrder).fee) =
      costBasis (fillsOf orders order.userId) order

theorem calculateGainLoss_eq_some {report : OrderReport} {feeData : FeeData} {gain : ℚ} :
    calculateGainLoss report feeData = some gain ↔
      report.side = some "sell" ∧ report.cost.getD 0 ≠ 0 ∧ feeData.fee ≠ 0 ∧
        report.cost.getD 0 - feeData.fee = gain := by
  unfold calculateGainLoss
  cases hcost : report.cost with
  | none => simp [Js.truthy?]
  | some cost =>
    by_cases hzero : cost = 0
    · simp [Js.truthy?, Option.filter, hzero]
    · simp [Js.truthy?, Option.filter, hzero, and_assoc]

theorem accounted_iff {costBasis : List StoredOrder → StoredOrder → ℚ} {orders : List StoredOrder}
    {row : StoredOrder × Option OrderReport} (h : TracedRow row) :
    row.1.gainLoss = some (realGain costBasis orders row.1) ↔
      ∃ report, row.2 = some report ∧ Accounted costBasis orders row.1 report := by
  rw [h.gain]
  cases row.2 with
  | none => simp
  | some report =>
    rw [Option.bind_some, calculateGainLoss_eq_some]
    constructor
    · rintro ⟨hside, hcost, hfee, hgain⟩
      refine ⟨report, rfl, hside, hcost, hfee, ?_⟩
      unfold realGain at hgain
      linarith
    · rintro ⟨_, heq, hside, hcost, hfee, _⟩
      cases heq
      refine ⟨hside, hcost, hfee, ?_⟩
      unfold realGain
      linarith

/-- **The law holds after exactly the histories in which every filled sale was created by a
synchronisation, from a report that names a cost and a fee, and nothing of what was sold had cost
anything beyond what later reports added.** -/
theorem gainLaw_iff (costBasis : List StoredOrder → StoredOrder → ℚ)
    (events : List (StoreEvent σ κ)) :
    GainLaw costBasis (events.foldl store []) ↔
      ∀ row ∈ (events.foldl Traced.store [] : Traced), row.1.Sale →
        ∃ report, row.2 = some report ∧ Accounted costBasis (events.foldl store []) row.1 report := by
  have htraced := traced_gain events
  rw [← traced_orders events]
  constructor
  · intro h row hmem hsale
    exact (accounted_iff (htraced row hmem)).1 (h.gain row.1 (List.mem_map_of_mem hmem) hsale)
  · intro h
    have hgain : ∀ o ∈ (events.foldl Traced.store ([] : Traced)).map Prod.fst, o.Sale →
        o.gainLoss = some (realGain costBasis
          ((events.foldl Traced.store ([] : Traced)).map Prod.fst) o) := by
      intro o hmem hsale
      obtain ⟨row, hrow, rfl⟩ := List.mem_map.1 hmem
      exact (accounted_iff (htraced row hrow)).2 (h row hrow hsale)
    refine ⟨hgain, fun strategyId => ?_⟩
    -- no algorithmic row has a gain, so under the law none of them is a sale
    have hfills : storedFills ((events.foldl Traced.store ([] : Traced)).map Prod.fst) =
        realFills costBasis ((events.foldl Traced.store ([] : Traced)).map Prod.fst) := by
      refine List.map_congr_left fun o hmem => ?_
      obtain ⟨hmem, hkelly⟩ := List.mem_filter.1 hmem
      have hnone : o.gainLoss = none := by
        have hgainless := gainless_foldl events
        rw [← traced_orders events] at hgainless
        exact hgainless o hmem (of_decide_eq_true hkelly).1
      rw [hnone, if_neg]
      intro hsale
      rw [hgain o hmem hsale] at hnone
      cases hnone
    rw [hfills]

end Gain

/-! ## Sales below cost -/

def averageCost (fills : List StoredOrder) (order : StoredOrder) : ℚ :=
  let book := (fills.takeWhile (·.id ≠ order.id)).foldl (fun book fill => (realise book fill).1)
    OrdMap.empty
  let held := (book.get? (order.symbol, order.heldSide)).getD {}
  held.basis * order.executedQuantity / held.quantity

def tradedCoin (id : ExchangeOrderId) (side status : String) (price filled : ℚ) : OrderReport where
  id := id
  status := some status
  filled := some filled
  amount := some 1
  price := some price
  cost := some (price * filled)
  fee := some { cost := some filled }
  timestamp := 1
  symbol := "BTC/USDT"
  side := some side

def syncOf (report : OrderReport) : StoreEvent Unit Unit :=
  .synced { userId := "alice", exchangeName := "kraken", newId := id } report 1

def salesBelowCost : List (List (StoreEvent Unit Unit)) :=
  [[syncOf (tradedCoin "b" "buy" "closed" 100 1), syncOf (tradedCoin "s" "sell" "closed" 50 1)],
    [syncOf (tradedCoin "b" "buy" "closed" 100 1), syncOf (tradedCoin "s" "sell" "open" 50 0),
      syncOf (tradedCoin "s" "sell" "closed" 50 1)],
    losingTrade]

/-- **Sales that lost 51, 51 and 50 are stored with a gain of 49, with none and with none.** -/
theorem gains_wrong :
    (salesBelowCost.map fun events => ((events.foldl store []).filter (·.Sale)).map fun o =>
      (o.gainLoss, realGain averageCost (events.foldl store []) o)) =
      [[(some 49, -51)], [(none, -51)], [(none, -50)]] ∧
    ¬ ∀ events : List (StoreEvent Unit Unit), GainLaw averageCost (events.foldl store []) := by
  have hgains : (salesBelowCost.map fun events =>
      ((events.foldl store []).filter (·.Sale)).map fun o =>
        (o.gainLoss, realGain averageCost (events.foldl store []) o)) =
      [[(some 49, -51)], [(none, -51)], [(none, -50)]] := by
    decide +kernel
  refine ⟨hgains, fun h => ?_⟩
  have hsale : ∃ o ∈ losingTrade.foldl store [], o.Sale ∧ o.gainLoss = none := by decide +kernel
  obtain ⟨o, hmem, hsale, hnone⟩ := hsale
  rw [(h losingTrade).gain o hmem hsale] at hnone
  cases hnone

end Chansey
