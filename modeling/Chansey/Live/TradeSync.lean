import Chansey.Lib.Keyed
import Chansey.Live.Sync

/-!
# Synchronising the trades of an account

The orders and the trades that an exchange reports since the most recent stored order are stored. The
trades are converted to orders first.
-/

namespace Chansey

structure Trade where
  id : Option String := none
  order : Option ExchangeOrderId := none
  symbol : Option String := none
  timestamp : Option Instant := none
  side : Option String := none
  amount : Option ℚ := none
  cost : Option ℚ := none
  price : Option ℚ := none
  fee : Option ReportedFee := none
  info : OrderInfo := {}
  deriving DecidableEq

/-- A report with the fields a new row is made of. -/
structure CcxtOrder extends ExchangeOrder where
  clientOrderId : Option String := none
  timestamp : Instant
  symbol : String
  side : Option String
  stopPrice : Option ℚ := none
  deriving DecidableEq

/-! ## Trades as orders -/

/-- `trade.order`, unless it is empty. -/
def Trade.orderId (trade : Trade) : Option ExchangeOrderId := trade.order.filter (· ≠ "")

/-- A value in a template, where an absent one is `undefined`. -/
def templateText (value : Option String) : String := value.getD "undefined"

def groupKey (trade : Trade) : String :=
  match trade.orderId with
  | some order => order
  | none =>
    templateText trade.symbol ++ "_" ++ templateText (trade.timestamp.map toString) ++ "_" ++
      templateText trade.side

def Trade.syntheticId (trade : Trade) : ExchangeOrderId :=
  match trade.orderId with
  | some order => order
  | none => "trade_" ++ groupKey trade

def totalAmount (trades : List Trade) : ℚ := (trades.map fun t => t.amount.getD 0).sum

def totalCost (trades : List Trade) : ℚ := (trades.map fun t => t.cost.getD 0).sum

def totalFee (trades : List Trade) : ℚ :=
  (trades.map fun t => (t.fee.bind ReportedFee.cost).getD 0).sum

def feeCurrency (trades : List Trade) : Option String :=
  (trades.filterMap Trade.fee).foldl (fun currency fee => fee.currency.or currency) none

def syntheticOrder (firstTrade : Trade) (groupTrades : List Trade) : CcxtOrder :=
  let amount := totalAmount groupTrades
  let cost := totalCost groupTrades
  let weightedPrice :=
    if 0 < cost ∧ 0 < amount then cost / amount else firstTrade.price.getD 0
  { id := firstTrade.syntheticId
    clientOrderId := firstTrade.orderId
    timestamp := firstTrade.timestamp.getD 0
    symbol := firstTrade.symbol.getD ""
    type := some "market"
    amount := some amount
    price := some weightedPrice
    average := some weightedPrice
    filled := some amount
    cost := some cost
    side := firstTrade.side
    status := some "closed"
    fee := some { cost := some (totalFee groupTrades), currency := feeCurrency groupTrades }
    trades := groupTrades.map fun t => { amount := t.amount, price := t.price, fee := t.fee }
    info := firstTrade.info }

def convertTradesToOrders (trades : List Trade) : List CcxtOrder :=
  (OrdMap.groupBy groupKey trades).entries.filterMap fun group =>
    group.2.head?.map fun firstTrade => syntheticOrder firstTrade group.2

/-! ## Rows -/

def mapCcxtOrderTypeToOrderType (ccxtType : String) : OrderType :=
  let type := ccxtType.toLower
  if type = "limit" then .limit
  else if type = "stop" ∨ type = "stop_loss" then .stopLoss
  else if type = "stop_limit" ∨ type = "stop_loss_limit" then .stopLimit
  else if type = "take_profit" ∨ type = "take_profit_limit" then .takeProfit
  else if type = "trailing_stop" then .trailingStop
  else .market

/-- The account that is synchronised, and the id each new row gets. -/
structure SyncTarget where
  userId : String
  exchangeName : String
  newId : ExchangeOrderId → OrderId

def createNewOrder (target : SyncTarget) (exchangeOrder : CcxtOrder) : Order :=
  let cost := calculateOrderCost exchangeOrder.toExchangeOrder
  let feeData := extractFeeData exchangeOrder.toExchangeOrder
  { id := target.newId exchangeOrder.id
    clientOrderId := (exchangeOrder.clientOrderId.filter (· ≠ "")).getD exchangeOrder.id
    executedQuantity := exchangeOrder.filled.getD 0
    orderId := exchangeOrder.id
    price := calculateOrderPrice exchangeOrder.toExchangeOrder
    quantity := exchangeOrder.amount.getD 0
    side := if exchangeOrder.side = some "buy" then .buy else .sell
    status := exchangeOrder.orderStatus
    symbol := exchangeOrder.symbol
    transactTime := exchangeOrder.timestamp
    type := mapCcxtOrderTypeToOrderType (exchangeOrder.type.getD "market")
    cost := if 0 < cost then some cost else none
    fee := feeData.fee
    commission := feeData.commission
    feeCurrency := feeData.feeCurrency
    averagePrice := exchangeOrder.average
    isManual := false
    exchange := some target.exchangeName
    stopPrice := exchangeOrder.stopPrice.filter (0 < ·)
    userId := target.userId }

/-- `saveExchangeOrders` for one report: the row found is updated, or a row is created. -/
def saveExchangeOrder (target : SyncTarget) (existing : Option Order)
    (exchangeOrder : CcxtOrder) : Order :=
  match existing with
  | some existing =>
    (orderUpdate existing exchangeOrder.toExchangeOrder).apply existing
  | none => createNewOrder target exchangeOrder

abbrev OrderTable := OrdMap ExchangeOrderId Order

def saveExchangeOrders (target : SyncTarget) (orders : OrderTable) (exchangeOrders : List CcxtOrder) :
    OrderTable :=
  exchangeOrders.foldl (OrdMap.upsert (·.id) (saveExchangeOrder target)) orders

/-! ## One synchronisation -/

def removeDuplicates {α : Type} (getId : α → String) : List String → List α → List α
  | _, [] => []
  | seen, item :: items =>
    if getId item ≠ "" ∧ getId item ∉ seen then
      item :: removeDuplicates getId (getId item :: seen) items
    else removeDuplicates getId seen items

structure Client where
  hasFetchOrders : Bool := true
  hasFetchMyTrades : Bool := true
  /-- The symbols, each with whether it is active, if that is said. -/
  markets : Option (List (String × Option Bool))
  fetchOrders : String → Option Instant → Option (List CcxtOrder)
  fetchMyTrades : String → Option Instant → Option (List Trade)

def Client.activeSymbols (client : Client) : List String :=
  ((client.markets.getD []).filter (·.2 ≠ some false)).map Prod.fst

def fetchFromExchange {α : Type} (client : Client) (supported : Bool)
    (fetchFn : String → Option (List α)) (getId : α → String) : List α :=
  if supported then
    removeDuplicates getId [] (client.activeSymbols.flatMap fun symbol => (fetchFn symbol).getD [])
  else []

def fetchHistoricalOrders (client : Client) (lastSyncTime : Option Instant) : List CcxtOrder :=
  fetchFromExchange client client.hasFetchOrders (client.fetchOrders · lastSyncTime) (·.id)

def fetchMyTrades (client : Client) (lastSyncTime : Option Instant) : List Trade :=
  fetchFromExchange client client.hasFetchMyTrades (client.fetchMyTrades · lastSyncTime)
    fun trade => trade.id.getD ""

/-- `transactTime` of the most recent order on the exchange. -/
def mostRecentTime (target : SyncTarget) (orders : OrderTable) : Option Instant :=
  (((orders.entries.map Prod.snd).filter (·.exchange = some target.exchangeName)).map
    Order.transactTime).max?

def syncOrdersForExchange (target : SyncTarget) (client : Client) (orders : OrderTable) : OrderTable :=
  let since := mostRecentTime target orders
  let withOrders := saveExchangeOrders target orders (fetchHistoricalOrders client since)
  saveExchangeOrders target withOrders (convertTradesToOrders (fetchMyTrades client since))

/-! ## The conversion -/

structure HasTotals (groupTrades : List Trade) (exchangeOrder : CcxtOrder) : Prop where
  amount : exchangeOrder.amount = some (totalAmount groupTrades)
  filled : exchangeOrder.filled = some (totalAmount groupTrades)
  cost : exchangeOrder.cost = some (totalCost groupTrades)
  fee : exchangeOrder.fee.bind ReportedFee.cost = some (totalFee groupTrades)

theorem hasTotals_syntheticOrder (firstTrade : Trade) (groupTrades : List Trade) :
    HasTotals groupTrades (syntheticOrder firstTrade groupTrades) := ⟨rfl, rfl, rfl, rfl⟩

structure Converted (trades : List Trade) (groups : List (List Trade)) (orders : List CcxtOrder) :
    Prop where
  partition : groups.flatten.Perm trades
  group : ∀ group ∈ groups, ∃ key, group = trades.filter (groupKey · = key) ∧ group ≠ []
  totals : List.Forall₂ HasTotals groups orders

theorem convertTradesToOrders_groups (trades : List Trade) :
    ∃ groups, Converted trades groups (convertTradesToOrders trades) := by
  refine ⟨(OrdMap.groupBy groupKey trades).entries.map Prod.snd, OrdMap.flatten_groupBy groupKey trades,
    fun group hgroup => ?_, ?_⟩
  · obtain ⟨⟨key, _⟩, hmem, rfl⟩ := List.mem_map.mp hgroup
    exact ⟨key, OrdMap.mem_groupBy hmem⟩
  · have hnonempty : ∀ group ∈ (OrdMap.groupBy groupKey trades).entries, group.2 ≠ [] :=
      fun group hmem => (OrdMap.mem_groupBy hmem).2
    unfold convertTradesToOrders
    generalize (OrdMap.groupBy groupKey trades).entries = entries at hnonempty
    induction entries with
    | nil => exact List.Forall₂.nil
    | cons group groups ih =>
      obtain ⟨first, rest, hgroup⟩ := List.exists_cons_of_ne_nil (hnonempty group List.mem_cons_self)
      rw [List.map_cons, List.filterMap_cons, hgroup]
      exact List.Forall₂.cons (hasTotals_syntheticOrder first (first :: rest))
        (ih fun group hmem => hnonempty group (List.mem_cons_of_mem _ hmem))

theorem mem_convertTradesToOrders {trades : List Trade} {exchangeOrder : CcxtOrder}
    (h : exchangeOrder ∈ convertTradesToOrders trades) :
    ∃ firstTrade ∈ trades,
      (trades.filter (groupKey · = groupKey firstTrade)).head? = some firstTrade ∧
        exchangeOrder =
          syntheticOrder firstTrade (trades.filter (groupKey · = groupKey firstTrade)) := by
  obtain ⟨⟨key, _⟩, hmem, horder⟩ := List.mem_filterMap.mp h
  obtain ⟨firstTrade, hfirst, rfl⟩ := Option.map_eq_some_iff.mp horder
  obtain ⟨rfl, -⟩ := OrdMap.mem_groupBy hmem
  have hmemFirst := List.mem_filter.mp (List.mem_of_head? hfirst)
  obtain rfl : groupKey firstTrade = key := by simpa using hmemFirst.2
  exact ⟨firstTrade, hmemFirst.1, hfirst, rfl⟩

theorem exists_convertTradesToOrders {trades : List Trade} {trade : Trade} (h : trade ∈ trades) :
    ∃ firstTrade ∈ trades, groupKey firstTrade = groupKey trade ∧
      syntheticOrder firstTrade (trades.filter (groupKey · = groupKey trade)) ∈
        convertTradesToOrders trades := by
  have hgroup : (groupKey trade, trades.filter (groupKey · = groupKey trade)) ∈
      (OrdMap.groupBy groupKey trades).entries := OrdMap.group_mem h
  obtain ⟨firstTrade, _, hfil⟩ := List.exists_cons_of_ne_nil (OrdMap.mem_groupBy hgroup).2
  have hmem := List.mem_filter.mp (hfil ▸ List.mem_cons_self :
    firstTrade ∈ trades.filter (groupKey · = groupKey trade))
  refine ⟨firstTrade, hmem.1, by simpa using hmem.2, List.mem_filterMap.mpr ⟨_, hgroup, ?_⟩⟩
  rw [hfil]
  rfl

end Chansey
