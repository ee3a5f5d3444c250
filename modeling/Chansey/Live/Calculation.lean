import Chansey.Live.Order

/-!
# Reports of an exchange

What an exchange reports of an order, and the values the services read from a report.

* `ExchangeOrder`: a report. A field whose text is parsed is the number it parses to.
* `mapCcxtStatusToOrderStatus`, `ExchangeOrder.orderStatus`: the stored status a report asks for. A
  partial fill is still `NEW`. **`orderStatus_cases`**: it is `NEW` or terminal.
-/

namespace Chansey

structure ReportedFee where
  cost : Option ℚ := none
  currency : Option String := none
  deriving DecidableEq

structure ReportedTrade where
  amount : Option ℚ := none
  price : Option ℚ := none
  fee : Option ReportedFee := none
  deriving DecidableEq

structure ReportedFill where
  commission : Option ℚ := none
  commissionAsset : Option String := none
  deriving DecidableEq

structure OrderInfo where
  price : Option ℚ := none
  cummulativeQuoteQty : Option ℚ := none
  executedQty : Option ℚ := none
  commission : Option ℚ := none
  commissionAsset : Option String := none
  fills : Option (List ReportedFill) := none
  deriving DecidableEq

structure ExchangeOrder where
  id : ExchangeOrderId
  status : Option String := none
  type : Option String := none
  filled : Option ℚ := none
  amount : Option ℚ := none
  average : Option ℚ := none
  price : Option ℚ := none
  cost : Option ℚ := none
  fee : Option ReportedFee := none
  trades : List ReportedTrade := []
  info : OrderInfo := {}
  deriving DecidableEq

/-- `a || b` of texts. -/
def orText (a b : Option String) : Option String := if a.all (· = "") then b else a

def tradedAmounts (trades : List ReportedTrade) : List (ℚ × ℚ) :=
  trades.filterMap fun trade =>
    (Js.truthy? trade.amount).bind fun amount =>
      (Js.truthy? trade.price).map fun price => (amount, price)

def calculateTotalCostFromTrades (trades : List ReportedTrade) : ℚ :=
  ((tradedAmounts trades).map fun traded => traded.1 * traded.2).sum

def calculateWeightedAveragePrice (trades : List ReportedTrade) : ℚ :=
  let totalAmount := ((tradedAmounts trades).map Prod.fst).sum
  if 0 < totalAmount then calculateTotalCostFromTrades trades / totalAmount else 0

def isBinanceMarketOrder (exchangeOrder : ExchangeOrder) : Bool :=
  exchangeOrder.type = some "market" && exchangeOrder.info.cummulativeQuoteQty.isSome &&
    exchangeOrder.info.executedQty.isSome

def calculateBinanceMarketPrice (exchangeOrder : ExchangeOrder) : ℚ :=
  let quoteQty := exchangeOrder.info.cummulativeQuoteQty.getD 0
  let execQty := exchangeOrder.info.executedQty.getD 0
  if 0 < quoteQty ∧ 0 < execQty then quoteQty / execQty else 0

def calculateOrderPrice (exchangeOrder : ExchangeOrder) : ℚ :=
  let average := exchangeOrder.average.getD 0
  let price := exchangeOrder.price.getD 0
  let cost := exchangeOrder.cost.getD 0
  let amount := exchangeOrder.amount.getD 0
  let infoPrice := exchangeOrder.info.price.getD 0
  if 0 < average then average
  else if 0 < price then price
  else if cost ≠ 0 ∧ 0 < amount then cost / amount
  else if 0 < infoPrice then infoPrice
  else if exchangeOrder.trades ≠ [] then calculateWeightedAveragePrice exchangeOrder.trades
  else if isBinanceMarketOrder exchangeOrder then calculateBinanceMarketPrice exchangeOrder
  else 0

/-- `filled || amount || 0` -/
def reportedQuantity (exchangeOrder : ExchangeOrder) : ℚ :=
  (Js.truthy? exchangeOrder.filled).getD (exchangeOrder.amount.getD 0)

def calculateOrderCost (exchangeOrder : ExchangeOrder) : ℚ :=
  let cost := exchangeOrder.cost.getD 0
  let filled := exchangeOrder.filled.getD 0
  let average := exchangeOrder.average.getD 0
  let amount := exchangeOrder.amount.getD 0
  let limitPrice := exchangeOrder.price.getD 0
  let quoteQty := exchangeOrder.info.cummulativeQuoteQty.getD 0
  if 0 < cost then cost
  else if 0 < filled ∧ 0 < average then filled * average
  else if 0 < amount ∧ 0 < limitPrice then amount * limitPrice
  else if 0 < quoteQty then quoteQty
  else if exchangeOrder.trades ≠ [] then calculateTotalCostFromTrades exchangeOrder.trades
  else
    let price := calculateOrderPrice exchangeOrder
    let quantity := reportedQuantity exchangeOrder
    if 0 < price ∧ 0 < quantity then price * quantity else 0

structure FeeData where
  fee : ℚ
  commission : ℚ
  feeCurrency : Option String

def extractFeesFromTrades (trades : List ReportedTrade) : FeeData :=
  let fees := trades.filterMap ReportedTrade.fee
  { fee := (fees.map fun fee => fee.cost.getD 0).sum
    commission := 0
    feeCurrency := fees.foldl (fun currency fee => orText currency fee.currency) none }

def extractFeeFromOrderInfo (info : OrderInfo) : FeeData :=
  let commission := info.commission.getD 0
  let feeCurrency := if info.commission.isSome then info.commissionAsset else none
  match info.fills with
  | none => { fee := 0, commission := commission, feeCurrency := feeCurrency }
  | some fills =>
    let charged := fills.filter (·.commission.isSome)
    let total := commission + (charged.map fun fill => fill.commission.getD 0).sum
    { fee := max 0 total
      commission := total
      feeCurrency := charged.foldl (fun currency fill => orText currency fill.commissionAsset)
        feeCurrency }

def extractFeeData (exchangeOrder : ExchangeOrder) : FeeData :=
  let orderFee := exchangeOrder.fee.filter fun fee => fee.cost.getD 0 ≠ 0
  let ofOrder : FeeData :=
    { fee := (orderFee.bind ReportedFee.cost).getD 0
      commission := 0
      feeCurrency := orderFee.bind ReportedFee.currency }
  let tradesFeeData := extractFeesFromTrades exchangeOrder.trades
  let ofTrades : FeeData :=
    if exchangeOrder.trades = [] then ofOrder
    else
      { fee := max ofOrder.fee tradesFeeData.fee
        commission := max ofOrder.commission tradesFeeData.commission
        feeCurrency := orText ofOrder.feeCurrency tradesFeeData.feeCurrency }
  let infoFeeData := extractFeeFromOrderInfo exchangeOrder.info
  if 0 < infoFeeData.fee then
    { fee := max ofTrades.fee infoFeeData.fee
      commission := max ofTrades.commission infoFeeData.commission
      feeCurrency := orText ofTrades.feeCurrency infoFeeData.feeCurrency }
  else ofTrades

/-! ## The status -/

def mapCcxtStatusToOrderStatus (ccxtStatus : String) : OrderStatus :=
  if ccxtStatus = "closed" then .filled
  else if ccxtStatus = "canceled" then .canceled
  else if ccxtStatus = "expired" then .expired
  else if ccxtStatus = "rejected" then .rejected
  else .new

/-- The stored status a report asks for. A report without a status counts as open. -/
def ExchangeOrder.orderStatus (exchangeOrder : ExchangeOrder) : OrderStatus :=
  mapCcxtStatusToOrderStatus (exchangeOrder.status.getD "open")

/-- The report says that nothing more will happen to the order. -/
def ExchangeOrder.final (exchangeOrder : ExchangeOrder) : Bool :=
  isTerminalState exchangeOrder.orderStatus

/-- **A report asks for `NEW` or for a terminal status.** -/
theorem orderStatus_cases (exchangeOrder : ExchangeOrder) :
    exchangeOrder.orderStatus = .new ∨ isTerminalState exchangeOrder.orderStatus = true := by
  unfold ExchangeOrder.orderStatus mapCcxtStatusToOrderStatus
  split_ifs <;> decide

theorem isValidTransition_orderStatus (exchangeOrder : ExchangeOrder) :
    isValidTransition (some .new) exchangeOrder.orderStatus = true := by
  unfold ExchangeOrder.orderStatus mapCcxtStatusToOrderStatus
  split_ifs <;> decide

end Chansey
