import Chansey.Exit.Price

/-!
# Orders and their state machine

The row of an order and the transitions of its status that are declared valid.

* `OrderStatus`, `VALID_TRANSITIONS`, `TERMINAL_STATES`.
-/

namespace Chansey

abbrev OrderId := String

abbrev ExchangeOrderId := String

inductive OrderStatus where
  | new | partiallyFilled | filled | canceled | pendingCancel | rejected | expired
  deriving DecidableEq

inductive OrderType where
  | market | limit | stopLoss | stopLimit | trailingStop | takeProfit | oco
  deriving DecidableEq

/-- `BUY` and `SELL` of an order are written like those of a position. -/
abbrev OrderSide := ExitSide

def ExitSide.opposite : ExitSide → ExitSide
  | .buy => .sell
  | .sell => .buy

structure Order where
  id : OrderId
  orderId : ExchangeOrderId
  clientOrderId : String
  symbol : String
  side : OrderSide
  type : OrderType
  quantity : ℚ
  price : ℚ
  executedQuantity : ℚ := 0
  cost : Option ℚ := none
  fee : ℚ := 0
  commission : ℚ := 0
  feeCurrency : Option String := none
  averagePrice : Option ℚ := none
  status : OrderStatus
  transactTime : Instant
  isManual : Bool
  isAlgorithmicTrade : Bool := false
  exchangeKeyId : Option String := none
  exchange : Option String := none
  ocoLinkedOrderId : Option OrderId := none
  stopPrice : Option ℚ := none
  takeProfitPrice : Option ℚ := none
  stopLossPrice : Option ℚ := none
  baseCoin : Option CoinId := none
  quoteCoin : Option CoinId := none
  userId : String
  deriving DecidableEq

/-! ## The state machine -/

def VALID_TRANSITIONS : OrderStatus → List OrderStatus
  | .new => [.partiallyFilled, .filled, .canceled, .rejected, .expired, .pendingCancel]
  | .partiallyFilled => [.filled, .canceled, .pendingCancel]
  | .pendingCancel => [.canceled, .filled]
  | .filled => []
  | .canceled => []
  | .rejected => []
  | .expired => []

def TERMINAL_STATES : List OrderStatus := [.filled, .canceled, .rejected, .expired]

def isTerminalState (status : OrderStatus) : Bool := TERMINAL_STATES.contains status

/-- A new order starts as `NEW`; staying in a status is no transition. -/
def isValidTransition (fromStatus : Option OrderStatus) (toStatus : OrderStatus) : Bool :=
  match fromStatus with
  | none => toStatus = .new
  | some status => status = toStatus || (VALID_TRANSITIONS status).contains toStatus

/-! ## History -/

inductive OrderTransitionReason where
  | exchangeSync | userCancel | tradeExecution | partialFill | orderExpired | marketClose
  | systemCancel | exchangeReject

structure OrderStatusHistory where
  orderId : OrderId
  fromStatus : Option OrderStatus
  toStatus : OrderStatus
  reason : OrderTransitionReason
  metadata : Metadata

/-- The record of a transition. An invalid one is flagged, never blocked. -/
def transitionStatus (orderId : OrderId) (fromStatus : Option OrderStatus) (toStatus : OrderStatus)
    (reason : OrderTransitionReason) (metadata : Metadata) : OrderStatusHistory where
  orderId := orderId
  fromStatus := fromStatus
  toStatus := toStatus
  reason := reason
  metadata :=
    if isValidTransition fromStatus toStatus then metadata
    else metadata.set "invalidTransition" (.bool true)

def OrderStatusHistory.flagged (record : OrderStatusHistory) : Bool :=
  record.metadata.truthy "invalidTransition"

theorem transitionStatus_flag (orderId : OrderId) (fromStatus : Option OrderStatus)
    (toStatus : OrderStatus) (reason : OrderTransitionReason) {metadata : Metadata}
    (hfree : metadata.get? "invalidTransition" = none) :
    (transitionStatus orderId fromStatus toStatus reason metadata).flagged =
      !isValidTransition fromStatus toStatus := by
  unfold OrderStatusHistory.flagged transitionStatus Metadata.truthy
  cases isValidTransition fromStatus toStatus <;> simp [hfree, MetaValue.truthy]

end Chansey
