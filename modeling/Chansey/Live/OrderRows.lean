import Chansey.Live.Placement
import Chansey.Live.PositionTracking
import Chansey.Live.StopReplacement
import Chansey.Live.StrategyExecutor
import Chansey.Live.TradeSync

/-!
# The rows that orders are stored as

Each path that places an order, or learns of one, builds its own row. What a path does not set is the
column's default.
-/

namespace Chansey

open Remote

inductive MarketType where
  | spot | futures
  deriving DecidableEq

structure StoredOrder extends Order where
  strategyConfigId : Option String := none
  algorithmActivationId : Option String := none
  gainLoss : Option ℚ := none
  marketType : MarketType := .spot
  positionSide : Option PositionSide := none
  createdAt : Instant

/-! ## What an exchange answers -/

/-- The fields of `info` that tell a futures order. -/
structure FuturesInfo where
  marginMode : Option String := none
  marginType : Option String := none
  positionSide : Option PositionSide := none

structure OrderReport extends CcxtOrder where
  futures : FuturesInfo := {}

def OrderReport.placedAt (report : OrderReport) (now : Instant) : Instant :=
  if report.timestamp = 0 then now else report.timestamp

def OrderReport.feeCost (report : OrderReport) : ℚ := (report.fee.bind ReportedFee.cost).getD 0

def OrderReport.clientId (report : OrderReport) : String :=
  (report.clientOrderId.filter (· ≠ "")).getD report.id

def mapExchangeStatusToOrderStatus (exchangeStatus : Option String) : OrderStatus :=
  match exchangeStatus.map String.toLower with
  | some "closed" => .filled
  | some "canceled" | some "cancelled" => .canceled
  | some "expired" => .expired
  | some "rejected" => .rejected
  | some "partial" | some "partially_filled" => .partiallyFilled
  | _ => .new

/-! ## Orders of strategies -/

def TradeSide.orderSide : TradeSide → OrderSide
  | .buy => .buy
  | .sell => .sell

structure AlgorithmicSignal where
  action : TradeSide
  symbol : String
  quantity : ℚ
  price : ℚ

/-- The row of `placeAlgorithmicOrder`. -/
def algorithmicOrder (userId strategyConfigId : String) (signal : AlgorithmicSignal)
    (exchangeKeyId exchangeSlug : String) (ccxtOrder : OrderReport) (id : OrderId) (now : Instant) :
    StoredOrder where
  id := id
  orderId := ccxtOrder.id
  clientOrderId := ccxtOrder.clientId
  symbol := signal.symbol
  side := signal.action.orderSide
  type := .market
  quantity := signal.quantity
  price := (Js.truthy? ccxtOrder.price).getD signal.price
  executedQuantity := ccxtOrder.filled.getD 0
  cost := some (ccxtOrder.cost.getD 0)
  fee := ccxtOrder.feeCost
  feeCurrency := ccxtOrder.fee.bind ReportedFee.currency
  status := mapExchangeStatusToOrderStatus ccxtOrder.status
  transactTime := ccxtOrder.placedAt now
  isManual := false
  isAlgorithmicTrade := true
  strategyConfigId := some strategyConfigId
  exchangeKeyId := some exchangeKeyId
  exchange := some exchangeSlug
  userId := userId
  createdAt := now

/-! ## Executed signals -/

def resolveOrderStatus (ccxtOrder : OrderReport) : OrderStatus :=
  if ccxtOrder.status = some "closed" ∨ ccxtOrder.filled = ccxtOrder.amount then .filled
  else if 0 < ccxtOrder.filled.getD 0 then .partiallyFilled
  else if ccxtOrder.status = some "canceled" then .canceled
  else if ccxtOrder.status = some "rejected" then .rejected
  else .new

/-- The row of an executed signal. `futuresSignal`: the side of a futures signal. -/
def convertCcxtOrderToEntity (ccxtOrder : OrderReport) (userId exchangeSlug : String)
    (algorithmActivationId : Option String) (futuresSignal : Option (Option PositionSide))
    (id : OrderId) (now : Instant) : StoredOrder where
  id := id
  symbol := ccxtOrder.symbol
  orderId := ccxtOrder.id
  clientOrderId := ccxtOrder.clientOrderId.getD ""
  transactTime := ccxtOrder.placedAt now
  quantity := ccxtOrder.amount.getD 0
  price := (Js.truthy? ccxtOrder.price).getD (ccxtOrder.average.getD 0)
  executedQuantity := ccxtOrder.filled.getD 0
  cost := some ((Js.truthy? ccxtOrder.cost).getD (ccxtOrder.filled.getD 0 *
    (Js.truthy? ccxtOrder.average).getD (ccxtOrder.price.getD 0)))
  fee := ccxtOrder.feeCost
  commission := ccxtOrder.feeCost
  feeCurrency := ccxtOrder.fee.bind ReportedFee.currency
  averagePrice := ccxtOrder.average
  status := resolveOrderStatus ccxtOrder
  side := if ccxtOrder.side = some "buy" then .buy else .sell
  type := mapCcxtOrderTypeToOrderType (ccxtOrder.type.getD "")
  isManual := false
  userId := userId
  exchange := some exchangeSlug
  algorithmActivationId := algorithmActivationId
  marketType :=
    if futuresSignal.isSome ∨ (ccxtOrder.futures.marginMode.filter (· ≠ "")).isSome then .futures
    else .spot
  positionSide := futuresSignal.join.or ccxtOrder.futures.positionSide
  createdAt := now

/-! ## Synchronised orders -/

def calculateGainLoss (exchangeOrder : OrderReport) (feeData : FeeData) : Option ℚ :=
  if exchangeOrder.side = some "sell" ∧ feeData.fee ≠ 0 then
    (Js.truthy? exchangeOrder.cost).map (· - feeData.fee)
  else none

def OrderReport.isFutures (report : OrderReport) : Bool :=
  report.futures.marginMode.isSome ∨ report.type = some "swap" ∨ report.type = some "future" ∨
    report.futures.marginType.isSome ∨ ':' ∈ report.symbol.toList

def syncedOrder (target : SyncTarget) (exchangeOrder : OrderReport) (now : Instant) :
    StoredOrder where
  toOrder := createNewOrder target exchangeOrder.toCcxtOrder
  gainLoss := calculateGainLoss exchangeOrder
    (extractFeeData exchangeOrder.toCcxtOrder.toExchangeOrder)
  marketType := if exchangeOrder.isFutures then .futures else .spot
  positionSide := if exchangeOrder.isFutures then exchangeOrder.futures.positionSide else none
  createdAt := now

/-! ## Orders placed by hand -/

structure PlaceManualOrderDto where
  symbol : String
  side : OrderSide
  orderType : OrderType
  quantity : ℚ
  price : Option ℚ := none
  stopPrice : Option ℚ := none
  takeProfitPrice : Option ℚ := none
  stopLossPrice : Option ℚ := none
  exchangeKeyId : String

def manualOrder (dto : PlaceManualOrderDto) (userId exchangeSlug : String)
    (ccxtOrder : OrderReport) (id : OrderId) (now : Instant) : StoredOrder where
  id := id
  orderId := ccxtOrder.id
  clientOrderId := ccxtOrder.clientId
  symbol := dto.symbol
  side := dto.side
  type := dto.orderType
  quantity := dto.quantity
  price := (Js.truthy? ccxtOrder.price).getD (dto.price.getD 0)
  executedQuantity := ccxtOrder.filled.getD 0
  cost := some (ccxtOrder.cost.getD 0)
  fee := ccxtOrder.feeCost
  feeCurrency := ccxtOrder.fee.bind ReportedFee.currency
  status := mapExchangeStatusToOrderStatus ccxtOrder.status
  transactTime := ccxtOrder.placedAt now
  isManual := true
  exchangeKeyId := some dto.exchangeKeyId
  stopPrice := dto.stopPrice
  takeProfitPrice := dto.takeProfitPrice
  stopLossPrice := dto.stopLossPrice
  userId := userId
  exchange := some exchangeSlug
  createdAt := now

def ocoTakeProfit (dto : PlaceManualOrderDto) (userId exchangeSlug : String)
    (ccxtOrder : OrderReport) (id linkedId : OrderId) (now : Instant) : StoredOrder where
  id := id
  orderId := ccxtOrder.id
  clientOrderId := ccxtOrder.clientId
  symbol := dto.symbol
  side := dto.side
  type := .takeProfit
  quantity := dto.quantity
  price := dto.takeProfitPrice.getD 0
  status := .new
  transactTime := now
  isManual := true
  exchangeKeyId := some dto.exchangeKeyId
  takeProfitPrice := dto.takeProfitPrice
  ocoLinkedOrderId := some linkedId
  userId := userId
  exchange := some exchangeSlug
  createdAt := now

def ocoStopLoss (dto : PlaceManualOrderDto) (userId exchangeSlug : String)
    (ccxtOrder : OrderReport) (id linkedId : OrderId) (now : Instant) : StoredOrder where
  id := id
  orderId := ccxtOrder.id
  clientOrderId := ccxtOrder.clientId
  symbol := dto.symbol
  side := dto.side
  type := .stopLoss
  quantity := dto.quantity
  price := 0
  status := .new
  transactTime := now
  isManual := true
  exchangeKeyId := some dto.exchangeKeyId
  stopPrice := dto.stopLossPrice
  stopLossPrice := dto.stopLossPrice
  ocoLinkedOrderId := some linkedId
  userId := userId
  exchange := some exchangeSlug
  createdAt := now

/-! ## Exits and hedges -/

structure ExitPlacementCall (σ κ : Type) where
  exchange : Exchange σ
  breaker : CircuitBreaker κ
  takeProfit : Bool
  params : PlaceExitOrderParams
  context : PlacementContext
  fates : ℕ → Fate RemoteError
  circuit : κ
  remote : σ

def attachedExit {σ κ : Type} (call : ExitPlacementCall σ κ) (now : Instant) : StoredOrder where
  toOrder :=
    (if call.takeProfit then
      placeTakeProfitOrder call.exchange call.breaker call.params call.context call.fates call.circuit
        call.remote
    else
      placeStopLossOrder call.exchange call.breaker call.params call.context call.fates call.circuit
        call.remote).order
  createdAt := now

def replacementOrder (position : PositionExit) (newStopPrice : ℚ) (ccxtOrder : CreatedOrder)
    (id : OrderId) (now : Instant) : StoredOrder where
  toOrder := newStopOrder position newStopPrice ccxtOrder id now
  createdAt := now

def hedgeOrder (userId symbol : String) (hedgeQuantity : ℚ) (ccxtOrder : OrderReport)
    (id : OrderId) (now : Instant) : StoredOrder where
  id := id
  symbol := symbol
  orderId := ccxtOrder.id
  clientOrderId := ccxtOrder.clientOrderId.getD ""
  transactTime := ccxtOrder.timestamp
  quantity := hedgeQuantity
  price := (ccxtOrder.price.or ccxtOrder.average).getD 0
  executedQuantity := ccxtOrder.filled.getD 0
  side := .sell
  status := .new
  type := .limit
  userId := userId
  marketType := .futures
  positionSide := some .short
  isAlgorithmicTrade := true
  isManual := false
  createdAt := now

/-! ## All paths -/

inductive StoreEvent (σ κ : Type) where
  | algorithmic (userId strategyConfigId : String) (signal : AlgorithmicSignal)
      (exchangeKeyId exchangeSlug : String) (ccxtOrder : OrderReport) (id : OrderId) (now : Instant)
  | executed (ccxtOrder : OrderReport) (userId exchangeSlug : String)
      (algorithmActivationId : Option String) (futuresSignal : Option (Option PositionSide))
      (id : OrderId) (now : Instant)
  | synced (target : SyncTarget) (exchangeOrder : OrderReport) (now : Instant)
  | manual (dto : PlaceManualOrderDto) (userId exchangeSlug : String) (ccxtOrder : OrderReport)
      (id : OrderId) (now : Instant)
  | oco (dto : PlaceManualOrderDto) (userId exchangeSlug : String)
      (takeProfit stopLoss : OrderReport) (takeProfitId stopLossId : OrderId) (now : Instant)
  | exit (call : ExitPlacementCall σ κ) (now : Instant)
  | replaced (position : PositionExit) (newStopPrice : ℚ) (ccxtOrder : CreatedOrder)
      (id : OrderId) (now : Instant)
  | hedged (userId symbol : String) (hedgeQuantity : ℚ) (ccxtOrder : OrderReport) (id : OrderId)
      (now : Instant)
  | transitioned (id : OrderId) (status : OrderStatus)

def StoredOrder.report (exchangeOrder : OrderReport) (order : StoredOrder) : StoredOrder :=
  { order with
    toOrder := (orderUpdate order.toOrder exchangeOrder.toCcxtOrder.toExchangeOrder).apply
      order.toOrder }

def store {σ κ : Type} (orders : List StoredOrder) : StoreEvent σ κ → List StoredOrder
  | .algorithmic userId strategyConfigId signal exchangeKeyId exchangeSlug ccxtOrder id now =>
    orders ++ [algorithmicOrder userId strategyConfigId signal exchangeKeyId exchangeSlug ccxtOrder
      id now]
  | .executed ccxtOrder userId exchangeSlug algorithmActivationId futuresSignal id now =>
    orders ++ [convertCcxtOrderToEntity ccxtOrder userId exchangeSlug algorithmActivationId
      futuresSignal id now]
  | .synced target exchangeOrder now =>
    match orders.find? fun o => o.orderId = exchangeOrder.id ∧ o.userId = target.userId with
    | some existing =>
      orders.map fun o => if o.id = existing.id then o.report exchangeOrder else o
    | none => orders ++ [syncedOrder target exchangeOrder now]
  | .manual dto userId exchangeSlug ccxtOrder id now =>
    orders ++ [manualOrder dto userId exchangeSlug ccxtOrder id now]
  | .oco dto userId exchangeSlug takeProfit stopLoss takeProfitId stopLossId now =>
    orders ++ [ocoTakeProfit dto userId exchangeSlug takeProfit takeProfitId stopLossId now,
      ocoStopLoss dto userId exchangeSlug stopLoss stopLossId takeProfitId now]
  | .exit call now => orders ++ [attachedExit call now]
  | .replaced position newStopPrice ccxtOrder id now =>
    orders ++ [replacementOrder position newStopPrice ccxtOrder id now]
  | .hedged userId symbol hedgeQuantity ccxtOrder id now =>
    orders ++ [hedgeOrder userId symbol hedgeQuantity ccxtOrder id now]
  | .transitioned id status =>
    orders.map fun o => if o.id = id then { o with status := status } else o

end Chansey
