import Chansey.Live.TradeSync

/-!
# Synchronising an account again

* `Recorded`: every stored order has the executed quantity and the cost of its trades, and every
  trade has an order.
-/

namespace Chansey

def tradesOf (id : ExchangeOrderId) (trades : List Trade) : List Trade :=
  trades.filter (·.syntheticId = id)

/-- The stored orders, and the trades made until they were synchronised. -/
structure Account where
  orders : OrderTable
  history : List Trade

/-- The trades made until a synchronisation, and the answers it gets. -/
structure Synchronisation where
  history : List Trade
  client : Client

structure Recorded (account : Account) : Prop where
  quantity : ∀ id row, account.orders.get? id = some row →
    row.executedQuantity = totalAmount (tradesOf id account.history)
  cost : ∀ id row, account.orders.get? id = some row →
    row.cost.getD 0 = totalCost (tradesOf id account.history)
  stored : ∀ trade ∈ account.history, (account.orders.get? trade.syntheticId).isSome

def Settles (stored : Option ℚ) (total : ℚ) : Prop :=
  stored.getD 0 = total ∨ 0 < total ∧ movedFrom stored total = true

instance (stored : Option ℚ) (total : ℚ) : Decidable (Settles stored total) :=
  inferInstanceAs (Decidable (stored.getD 0 = total ∨ 0 < total ∧ movedFrom stored total = true))

structure States (exchangeOrder : CcxtOrder) (quantity cost : ℚ) : Prop where
  filled : exchangeOrder.filled.getD 0 = quantity
  quantity : reportedQuantity exchangeOrder.toExchangeOrder = quantity
  cost : calculateOrderCost exchangeOrder.toExchangeOrder = cost

section Step

variable (target : SyncTarget)

def Account.reports (account : Account) (sync : Synchronisation) : List CcxtOrder :=
  fetchHistoricalOrders sync.client (mostRecentTime target account.orders)

def Account.fetched (account : Account) (sync : Synchronisation) : List Trade :=
  fetchMyTrades sync.client (mostRecentTime target account.orders)

def Account.sync (account : Account) (sync : Synchronisation) : Account where
  orders := syncOrdersForExchange target sync.client account.orders
  history := sync.history

/-- No order is split by the fetch window, and what is fetched can be stored. -/
structure Whole (account : Account) (sync : Synchronisation) : Prop where
  window : ∀ trade ∈ account.fetched target sync,
    (tradesOf trade.syntheticId (account.fetched target sync)).Perm
      (tradesOf trade.syntheticId sync.history)
  seen : ∀ id, id ∉ (account.fetched target sync).map Trade.syntheticId →
    id ∉ (account.reports target sync).map (·.id) →
      (tradesOf id sync.history).Perm (tradesOf id account.history)
  keys : ∀ trade ∈ account.fetched target sync, ∀ other ∈ account.fetched target sync,
    trade.syntheticId = other.syntheticId ↔ groupKey trade = groupKey other
  priced : ∀ trade ∈ account.fetched target sync,
    0 < totalCost (tradesOf trade.syntheticId sync.history)
  settles : ∀ id, id ∈ (account.fetched target sync).map Trade.syntheticId ∨
      id ∈ (account.reports target sync).map (·.id) →
    Settles ((account.orders.get? id).bind Order.cost) (totalCost (tradesOf id sync.history))
  reports : ∀ report ∈ account.reports target sync,
    States report (totalAmount (tradesOf report.id sync.history))
      (totalCost (tradesOf report.id sync.history))

end Step

/-! ## Storing a report -/

section Save

variable {target : SyncTarget} {exchangeOrder : CcxtOrder} {quantity cost : ℚ}

theorem apply_executedQuantity (row : Order) (exchangeOrder : ExchangeOrder) :
    ((orderUpdate row exchangeOrder).apply row).executedQuantity = reportedQuantity exchangeOrder := by
  simp only [orderUpdate, OrderUpdate.apply]
  split
  · rfl
  · rename_i h
    exact not_not.mp h

theorem apply_cost {row : Order} {exchangeOrder : ExchangeOrder}
    (h : Settles row.cost (calculateOrderCost exchangeOrder)) :
    ((orderUpdate row exchangeOrder).apply row).cost.getD 0 = calculateOrderCost exchangeOrder := by
  simp only [orderUpdate, OrderUpdate.apply]
  split
  · rfl
  · rename_i hmoved
    rw [Option.none_or]
    exact h.resolve_right hmoved

theorem saveExchangeOrder_totals (existing : Option Order) (h : States exchangeOrder quantity cost)
    (hsets : Settles (existing.bind Order.cost) cost) :
    (saveExchangeOrder target existing exchangeOrder).executedQuantity = quantity ∧
      (saveExchangeOrder target existing exchangeOrder).cost.getD 0 = cost := by
  cases existing with
  | none =>
    refine ⟨h.filled, ?_⟩
    simp only [saveExchangeOrder, createNewOrder, h.cost]
    split
    · rfl
    · rename_i hpos
      obtain hzero | ⟨hcost, -⟩ := hsets
      · exact hzero
      · exact absurd hcost hpos
  | some row =>
    refine ⟨(apply_executedQuantity row exchangeOrder.toExchangeOrder).trans h.quantity, ?_⟩
    rw [← h.cost] at hsets ⊢
    exact apply_cost hsets

theorem foldl_saveExchangeOrder (exchangeOrders : List CcxtOrder) (existing : Option Order)
    (h : ∀ exchangeOrder ∈ exchangeOrders, States exchangeOrder quantity cost)
    (hstart : (∃ row, existing = some row ∧ row.executedQuantity = quantity ∧
        row.cost.getD 0 = cost) ∨
      exchangeOrders ≠ [] ∧ Settles (existing.bind Order.cost) cost) :
    ∃ row, exchangeOrders.foldl (fun row exchangeOrder =>
        some (saveExchangeOrder target row exchangeOrder)) existing = some row ∧
      row.executedQuantity = quantity ∧ row.cost.getD 0 = cost := by
  induction exchangeOrders generalizing existing with
  | nil =>
    obtain hstart | ⟨hne, -⟩ := hstart
    · exact hstart
    · exact absurd rfl hne
  | cons exchangeOrder exchangeOrders ih =>
    have hsets : Settles (existing.bind Order.cost) cost := by
      obtain ⟨_, rfl, -, hcost⟩ | ⟨-, hsets⟩ := hstart
      · exact .inl hcost
      · exact hsets
    refine ih _ (fun other hother => h other (List.mem_cons_of_mem _ hother)) (Or.inl ⟨_, rfl, ?_⟩)
    exact saveExchangeOrder_totals existing (h exchangeOrder List.mem_cons_self) hsets

structure Reflects (row : Order) (exchangeOrder : ExchangeOrder) : Prop where
  status : row.status = exchangeOrder.orderStatus
  quantity : row.executedQuantity = reportedQuantity exchangeOrder
  price : |row.price - calculateOrderPrice exchangeOrder| ≤ PRICE_TOLERANCE
  fee : 0 < (extractFeeData exchangeOrder).fee → row.fee = (extractFeeData exchangeOrder).fee
  cost : 0 < calculateOrderCost exchangeOrder →
    movedFrom row.cost (calculateOrderCost exchangeOrder) = false
  average : ∀ average, Js.truthy? exchangeOrder.average = some average →
    movedFrom row.averagePrice average = false

theorem Reflects.apply {row : Order} {exchangeOrder : ExchangeOrder} (h : Reflects row exchangeOrder) :
    (orderUpdate row exchangeOrder).apply row = row := by
  have hunchanged : orderUpdate row exchangeOrder = {} := by
    have hfee : ¬ (0 < (extractFeeData exchangeOrder).fee ∧
        row.fee ≠ (extractFeeData exchangeOrder).fee) := fun hfee => hfee.2 (h.fee hfee.1)
    have hcost : ¬ (0 < calculateOrderCost exchangeOrder ∧
        movedFrom row.cost (calculateOrderCost exchangeOrder) = true) := fun hcost => by
      rw [h.cost hcost.1] at hcost
      exact Bool.false_ne_true hcost.2
    have havg : (Js.truthy? exchangeOrder.average).filter (movedFrom row.averagePrice) = none := by
      cases htruthy : Js.truthy? exchangeOrder.average with
      | none => rfl
      | some average => simp [Option.filter, h.average average htruthy]
    simp only [orderUpdate, h.status, h.quantity, not_lt.mpr h.price, havg, hcost, hfee,
      decide_false, ne_eq, not_true_eq_false, if_false, Bool.false_eq_true]
  rw [hunchanged]
  rfl

theorem movedFrom_self {value : ℚ} (h : value ≠ 0) : movedFrom (some value) value = false := by
  simp [movedFrom, Js.truthy?_some, h, PRICE_TOLERANCE]

theorem reflects_apply (row : Order) (exchangeOrder : ExchangeOrder) :
    Reflects ((orderUpdate row exchangeOrder).apply row) exchangeOrder := by
  refine ⟨?_, apply_executedQuantity row exchangeOrder, ?_, fun hfee => ?_, fun hcost => ?_,
    fun average havg => ?_⟩
  · simp only [orderUpdate, OrderUpdate.apply]
    split
    · rfl
    · rename_i h
      exact not_not.mp h
  · simp only [orderUpdate, OrderUpdate.apply]
    split
    · simp [PRICE_TOLERANCE]
    · rename_i h
      exact not_lt.mp h
  · simp only [orderUpdate, OrderUpdate.apply]
    by_cases hchanged : row.fee = (extractFeeData exchangeOrder).fee
    · simp [hchanged]
    · simp [hfee, hchanged]
  · simp only [orderUpdate, OrderUpdate.apply]
    by_cases hmoved : movedFrom row.cost (calculateOrderCost exchangeOrder) = true
    · rw [if_pos ⟨hcost, hmoved⟩]
      exact movedFrom_self hcost.ne'
    · rw [if_neg fun h => hmoved h.2, Option.none_or]
      simpa using hmoved
  · simp only [orderUpdate, OrderUpdate.apply, havg]
    have hne : average ≠ 0 := (Js.truthy?_eq_some.mp havg).2
    by_cases hmoved : movedFrom row.averagePrice average = true
    · rw [Option.filter_some_pos hmoved]
      exact movedFrom_self hne
    · have hkept : movedFrom row.averagePrice average = false := by simpa using hmoved
      rw [Option.filter_some_neg hkept, Option.none_or]
      exact hkept

theorem reflects_createNewOrder (target : SyncTarget)
    (h : exchangeOrder.filled.getD 0 = reportedQuantity exchangeOrder.toExchangeOrder) :
    Reflects (createNewOrder target exchangeOrder) exchangeOrder.toExchangeOrder := by
  refine ⟨rfl, h, ?_, fun _ => rfl, fun hcost => ?_, fun average havg => ?_⟩
  · simp [createNewOrder, PRICE_TOLERANCE]
  · simp only [createNewOrder, if_pos hcost]
    exact movedFrom_self hcost.ne'
  · obtain ⟨hsome, hne⟩ := Js.truthy?_eq_some.mp havg
    simp only [createNewOrder, hsome]
    exact movedFrom_self hne

theorem saveExchangeOrder_again (existing : Option Order)
    (h : exchangeOrder.filled.getD 0 = reportedQuantity exchangeOrder.toExchangeOrder) :
    saveExchangeOrder target (some (saveExchangeOrder target existing exchangeOrder))
        exchangeOrder =
      saveExchangeOrder target existing exchangeOrder := by
  cases existing with
  | none => exact (reflects_createNewOrder target h).apply
  | some row => exact (reflects_apply row exchangeOrder.toExchangeOrder).apply

end Save

/-! ## One synchronisation -/

section Sync

variable {target : SyncTarget} {account : Account} {sync : Synchronisation}

variable {trades others : List Trade} {exchangeOrder : CcxtOrder} {id : ExchangeOrderId}
  {again : Synchronisation}

theorem totalAmount_perm (h : trades.Perm others) :
    totalAmount trades = totalAmount others := (h.map _).sum_eq

theorem totalCost_perm (h : trades.Perm others) :
    totalCost trades = totalCost others := (h.map _).sum_eq

theorem mem_tradesOf (trade : Trade) {trades : List Trade} (h : trade ∈ trades) :
    trade ∈ tradesOf trade.syntheticId trades := List.mem_filter.mpr ⟨h, by simp⟩

theorem Whole.group (h : Whole target account sync) {trade : Trade}
    (htrade : trade ∈ account.fetched target sync) :
    (account.fetched target sync).filter (groupKey · = groupKey trade) =
      tradesOf trade.syntheticId (account.fetched target sync) := by
  refine List.filter_congr fun other hother => ?_
  rw [decide_eq_decide]
  exact (h.keys other hother trade htrade).symm

def Account.incoming (target : SyncTarget) (account : Account) (sync : Synchronisation) :
    List CcxtOrder :=
  account.reports target sync ++ convertTradesToOrders (account.fetched target sync)

theorem get?_sync (id : ExchangeOrderId) :
    (account.sync target sync).orders.get? id =
      ((account.incoming target sync).filter (·.id = id)).foldl
        (fun row exchangeOrder => some (saveExchangeOrder target row exchangeOrder))
        (account.orders.get? id) := by
  rw [← OrdMap.get?_foldl_upsert, Account.incoming, List.foldl_append]
  rfl

theorem Whole.states (h : Whole target account sync)
    (hmem : exchangeOrder ∈ account.incoming target sync) :
    States exchangeOrder (totalAmount (tradesOf exchangeOrder.id sync.history))
      (totalCost (tradesOf exchangeOrder.id sync.history)) := by
  rcases List.mem_append.mp hmem with hrep | hconverted
  · exact h.reports exchangeOrder hrep
  · obtain ⟨firstTrade, hfirst, -, rfl⟩ := mem_convertTradesToOrders hconverted
    rw [h.group hfirst]
    have hperm := h.window firstTrade hfirst
    have hamount := totalAmount_perm hperm
    have hcost := totalCost_perm hperm
    have hpriced := h.priced firstTrade hfirst
    change States _ (totalAmount (tradesOf firstTrade.syntheticId sync.history))
      (totalCost (tradesOf firstTrade.syntheticId sync.history))
    refine ⟨hamount, ?_, ?_⟩
    · rw [← hamount]
      simp only [reportedQuantity, syntheticOrder, Js.truthy?_some]
      split <;> rfl
    · rw [← hcost] at hpriced ⊢
      exact if_pos hpriced

theorem mem_incoming_ids (h : Whole target account sync) (id : ExchangeOrderId) :
    id ∈ (account.incoming target sync).map (·.id) ↔
      id ∈ (account.fetched target sync).map Trade.syntheticId ∨
        id ∈ (account.reports target sync).map (·.id) := by
  rw [Account.incoming, List.map_append, List.mem_append, or_comm]
  refine or_congr_left ⟨fun hmem => ?_, fun hmem => ?_⟩
  · obtain ⟨_, hconverted, rfl⟩ := List.mem_map.mp hmem
    obtain ⟨_, hfirst, -, rfl⟩ := mem_convertTradesToOrders hconverted
    exact List.mem_map_of_mem hfirst
  · obtain ⟨trade, htrade, rfl⟩ := List.mem_map.mp hmem
    obtain ⟨firstTrade, hfirst, hkey, horder⟩ := exists_convertTradesToOrders htrade
    rw [← (h.keys firstTrade hfirst trade htrade).mpr hkey]
    exact List.mem_map_of_mem (f := fun exchangeOrder : CcxtOrder => exchangeOrder.id) horder

theorem sync_other (hid : id ∉ (account.incoming target sync).map (·.id)) :
    (account.sync target sync).orders.get? id = account.orders.get? id := by
  have hnone : (account.incoming target sync).filter (·.id = id) = [] := by
    rw [List.filter_eq_nil_iff]
    intro exchangeOrder hmem heq
    exact hid (List.mem_map.mpr ⟨exchangeOrder, hmem, by simpa using heq⟩)
  rw [get?_sync, hnone]
  rfl

theorem sync_incoming (h : Whole target account sync)
    (hid : id ∈ (account.incoming target sync).map (·.id)) :
    ∃ row, (account.sync target sync).orders.get? id = some row ∧
      row.executedQuantity = totalAmount (tradesOf id sync.history) ∧
        row.cost.getD 0 = totalCost (tradesOf id sync.history) := by
  rw [get?_sync]
  refine foldl_saveExchangeOrder _ _ (fun exchangeOrder hmem => ?_) (Or.inr ⟨?_, ?_⟩)
  · obtain ⟨hincoming, heq⟩ := List.mem_filter.mp hmem
    obtain rfl : exchangeOrder.id = id := by simpa using heq
    exact h.states hincoming
  · obtain ⟨_, hmem, heq⟩ := List.mem_map.mp hid
    exact List.ne_nil_of_mem (List.mem_filter.mpr ⟨hmem, by simpa using heq⟩)
  · exact h.settles id ((mem_incoming_ids h id).mp hid)

theorem recorded_sync (hrec : Recorded account) (h : Whole target account sync) :
    Recorded (account.sync target sync) := by
  have hseen : ∀ id, id ∉ (account.incoming target sync).map (·.id) →
      (tradesOf id sync.history).Perm (tradesOf id account.history) := by
    intro id hid
    rw [mem_incoming_ids h, not_or] at hid
    exact h.seen id hid.1 hid.2
  have hrow : ∀ id row, (account.sync target sync).orders.get? id = some row →
      row.executedQuantity = totalAmount (tradesOf id sync.history) ∧
        row.cost.getD 0 = totalCost (tradesOf id sync.history) := by
    intro id row hget
    by_cases hid : id ∈ (account.incoming target sync).map (·.id)
    · obtain ⟨_, hstd, htotals⟩ := sync_incoming h hid
      rw [hstd] at hget
      cases hget
      exact htotals
    · rw [sync_other hid] at hget
      rw [totalAmount_perm (hseen id hid), totalCost_perm (hseen id hid)]
      exact ⟨hrec.quantity id row hget, hrec.cost id row hget⟩
  refine ⟨fun id row hget => (hrow id row hget).1, fun id row hget => (hrow id row hget).2, ?_⟩
  intro trade htrade
  by_cases hid : trade.syntheticId ∈ (account.incoming target sync).map (·.id)
  · obtain ⟨_, hstd, -⟩ := sync_incoming h hid
    rw [hstd]
    rfl
  · obtain ⟨hmem, -⟩ := List.mem_filter.mp ((hseen _ hid).subset (mem_tradesOf trade htrade))
    rw [sync_other hid]
    exact hrec.stored trade hmem

/-! ## A synchronisation that is repeated -/

/-- `again` follows `sync` with nothing traded in between: of each order it fetches the same trades or
none, and the orders reported were reported before. -/
structure Repeats (target : SyncTarget) (account : Account) (sync again : Synchronisation) : Prop where
  history : again.history = sync.history
  fetched : ∀ trade ∈ (account.sync target sync).fetched target again,
    tradesOf trade.syntheticId ((account.sync target sync).fetched target again) =
      tradesOf trade.syntheticId (account.fetched target sync)
  reports : ∀ report ∈ (account.sync target sync).reports target again,
    ∃ earlier ∈ account.reports target sync, earlier.id = report.id

def Account.executed (account : Account) (id : ExchangeOrderId) : Option (ℚ × ℚ) :=
  (account.orders.get? id).map fun row => (row.executedQuantity, row.cost.getD 0)

theorem Whole.converted_eq (h : Whole target account sync) {firstTrade : Trade}
    (hhead : (tradesOf exchangeOrder.id (account.fetched target sync)).head? = some firstTrade)
    (hmem : exchangeOrder ∈ convertTradesToOrders (account.fetched target sync)) :
    exchangeOrder =
      syntheticOrder firstTrade (tradesOf exchangeOrder.id (account.fetched target sync)) := by
  obtain ⟨trade, htrade, hfirst, rfl⟩ := mem_convertTradesToOrders hmem
  rw [h.group htrade] at hfirst ⊢
  obtain rfl : trade = firstTrade := Option.some.inj (hfirst.symm.trans hhead)
  rfl

theorem executed_again (hrec : Recorded account) (h : Whole target account sync)
    (hagain : Whole target (account.sync target sync) again)
    (hrepeats : Repeats target account sync again) (id : ExchangeOrderId) :
    ((account.sync target sync).sync target again).executed id =
      (account.sync target sync).executed id := by
  have hfirst := recorded_sync hrec h
  have hsec := recorded_sync hfirst hagain
  have hhist : ((account.sync target sync).sync target again).history =
      (account.sync target sync).history := hrepeats.history
  by_cases hid : id ∈ ((account.sync target sync).incoming target again).map (·.id)
  · -- an order that is stored again was stored before
    have hstd : ((account.sync target sync).orders.get? id).isSome := by
      obtain hmem | hmem := (mem_incoming_ids hagain id).mp hid
      · obtain ⟨trade, htrade, rfl⟩ := List.mem_map.mp hmem
        have hperm := hagain.window trade htrade
        rw [hrepeats.history] at hperm
        exact hfirst.stored trade (List.mem_filter.mp (hperm.subset (mem_tradesOf trade htrade))).1
      · obtain ⟨report, hrep, rfl⟩ := List.mem_map.mp hmem
        obtain ⟨earlier, hearl, heq⟩ := hrepeats.reports report hrep
        have hincoming : report.id ∈ (account.incoming target sync).map (·.id) :=
          (mem_incoming_ids h report.id).mpr (Or.inr (List.mem_map.mpr ⟨earlier, hearl, heq⟩))
        obtain ⟨_, hrow, -⟩ := sync_incoming h hincoming
        rw [hrow]
        rfl
    obtain ⟨before, hbef⟩ := Option.isSome_iff_exists.mp hstd
    obtain ⟨row, hrow, -⟩ := sync_incoming hagain hid
    unfold Account.executed
    rw [hrow, hbef, Option.map_some, Option.map_some, hsec.quantity id row hrow,
      hsec.cost id row hrow, hfirst.quantity id before hbef, hfirst.cost id before hbef,
      hhist]
  · unfold Account.executed
    rw [sync_other hid]

theorem foldl_same {exchangeOrders : List CcxtOrder}
    (h : exchangeOrder.filled.getD 0 = reportedQuantity exchangeOrder.toExchangeOrder)
    (hsame : ∀ other ∈ exchangeOrders, other = exchangeOrder) (existing : Option Order) :
    exchangeOrders.foldl (fun row exchangeOrder => some (saveExchangeOrder target row exchangeOrder))
        (some (saveExchangeOrder target existing exchangeOrder)) =
      some (saveExchangeOrder target existing exchangeOrder) := by
  induction exchangeOrders with
  | nil => rfl
  | cons other exchangeOrders ih =>
    obtain rfl := hsame other List.mem_cons_self
    rw [List.foldl_cons, saveExchangeOrder_again existing h]
    exact ih fun next hnext => hsame next (List.mem_cons_of_mem _ hnext)

theorem filled_syntheticOrder (firstTrade : Trade) (groupTrades : List Trade) :
    (syntheticOrder firstTrade groupTrades).filled.getD 0 =
      reportedQuantity (syntheticOrder firstTrade groupTrades).toExchangeOrder := by
  simp only [syntheticOrder, reportedQuantity, Js.truthy?_some]
  split <;> simp_all

theorem Whole.stored_last (h : Whole target account sync) {firstTrade : Trade}
    (hhead : (tradesOf id (account.fetched target sync)).head? = some firstTrade) :
    ∃ existing, (account.sync target sync).orders.get? id =
      some (saveExchangeOrder target existing
        (syntheticOrder firstTrade (tradesOf id (account.fetched target sync)))) := by
  have hsame : ∀ exchangeOrder ∈ (convertTradesToOrders (account.fetched target sync)).filter
      (·.id = id), exchangeOrder =
        syntheticOrder firstTrade (tradesOf id (account.fetched target sync)) := by
    intro exchangeOrder hmem
    obtain ⟨hconverted, heq⟩ := List.mem_filter.mp hmem
    obtain rfl : exchangeOrder.id = id := by simpa using heq
    exact h.converted_eq hhead hconverted
  have hne : (convertTradesToOrders (account.fetched target sync)).filter (·.id = id) ≠ [] := by
    obtain ⟨hmem, hid⟩ := List.mem_filter.mp (List.mem_of_head? hhead)
    obtain rfl : firstTrade.syntheticId = id := by simpa using hid
    obtain ⟨trade, htrade, hkey, horder⟩ := exists_convertTradesToOrders hmem
    refine List.ne_nil_of_mem (List.mem_filter.mpr ⟨horder, decide_eq_true ?_⟩)
    exact (h.keys trade htrade firstTrade hmem).mpr hkey
  obtain ⟨exchangeOrder, _, hsplit⟩ := List.exists_cons_of_ne_nil hne
  rw [hsplit] at hsame
  rw [get?_sync, Account.incoming, List.filter_append, List.foldl_append, hsplit, List.foldl_cons,
    hsame exchangeOrder List.mem_cons_self]
  exact ⟨_, foldl_same (filled_syntheticOrder _ _)
    (fun other hmem => hsame other (List.mem_cons_of_mem _ hmem)) _⟩

theorem rows_again (h : Whole target account sync)
    (hagain : Whole target (account.sync target sync) again)
    (hrepeats : Repeats target account sync again)
    (hreports : (account.sync target sync).reports target again = []) (id : ExchangeOrderId) :
    ((account.sync target sync).sync target again).orders.get? id =
      (account.sync target sync).orders.get? id := by
  by_cases hid : id ∈ ((account.sync target sync).incoming target again).map (·.id)
  · have hfetched := (mem_incoming_ids hagain id).mp hid
    rw [hreports, List.map_nil, or_iff_left List.not_mem_nil] at hfetched
    obtain ⟨trade, htrade, rfl⟩ := List.mem_map.mp hfetched
    have htrades := hrepeats.fetched trade htrade
    obtain ⟨_, _, hcons⟩ :=
      List.exists_cons_of_ne_nil (List.ne_nil_of_mem (mem_tradesOf trade htrade))
    have hhead := congrArg List.head? hcons
    obtain ⟨existing, hstd⟩ := h.stored_last (htrades ▸ hhead)
    rw [get?_sync, hstd]
    refine foldl_same (filled_syntheticOrder _ _) (fun exchangeOrder hmem => ?_) existing
    obtain ⟨hincoming, heq⟩ := List.mem_filter.mp hmem
    have heq : exchangeOrder.id = trade.syntheticId := by simpa using heq
    rw [Account.incoming, hreports, List.nil_append] at hincoming
    rw [← heq] at hhead
    rw [hagain.converted_eq hhead hincoming, heq, htrades]
  · exact sync_other hid

end Sync

end Chansey
