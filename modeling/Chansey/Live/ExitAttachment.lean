import Chansey.Live.Placement
import Chansey.Live.Position

/-!
# Attaching exit orders to an entry

A stop-loss and a take-profit are placed for a filled entry, and the row that tracks them is saved,
in one database transaction. A failure of the exchange or of one row is a warning, a later failure
of the database rolls the rows back.

* `validateExitConfigInputs`, `validateExitOrderQuantity`: the checks of the configuration and of
  the quantity of a leg.
-/

namespace Chansey

open Remote

/-! ## Checks of the configuration -/

def validateNumeric (value : Option ℚ) (fieldName : String) (maxValue : ℚ) : List String :=
  value.elim [] fun value =>
    (if value < 0 then
      [fieldName ++ " must be non-negative (got " ++ Js.numberText value ++ ")"]
    else []) ++
    (if maxValue < value then
      [fieldName ++ " exceeds maximum allowed value of " ++ Js.numberText maxValue ++ " (got " ++
        Js.numberText value ++ ")"]
    else [])

def StopLossType.maxValue : StopLossType → ℚ
  | .fixed => 10000000
  | .percentage => 100
  | .atr => 10

def TakeProfitType.maxValue : TakeProfitType → ℚ
  | .fixed => 100000000
  | .percentage => 1000
  | .riskReward => 100

def TrailingType.maxValue : TrailingType → ℚ
  | .amount => 10000000
  | .percentage => 100
  | .atr => 10

def TrailingActivationType.maxValue : TrailingActivationType → Option ℚ
  | .immediate => none
  | .price => some 100000000
  | .percentage => some 1000

/-- The settings of the average true range, which only this check and the calculation read. -/
structure AtrSettings where
  atrPeriod : Option ℚ := some 14
  atrMultiplier : Option ℚ := some 2

/-- The inputs that are out of bounds. A number of the configuration is always finite here. -/
def exitConfigErrors (config : ExitConfig) (atr : AtrSettings) : List String :=
  (if config.enableStopLoss then
    validateNumeric (some config.stopLossValue) "stopLossValue" config.stopLossType.maxValue
  else []) ++
  (if config.enableTakeProfit then
    validateNumeric (some config.takeProfitValue) "takeProfitValue" config.takeProfitType.maxValue
  else []) ++
  (if config.enableTrailingStop then
    validateNumeric (some config.trailingValue) "trailingValue" config.trailingType.maxValue ++
    config.trailingActivation.maxValue.elim []
      (validateNumeric config.trailingActivationValue "trailingActivationValue")
  else []) ++
  validateNumeric atr.atrPeriod "atrPeriod" 200 ++
  validateNumeric atr.atrMultiplier "atrMultiplier" 10

def validateExitConfigInputs (config : ExitConfig) (atr : AtrSettings) : Except String Unit :=
  match exitConfigErrors config atr with
  | [] => .ok ()
  | errors => .error ("Invalid exit config values: " ++ "; ".intercalate errors)

/-! ## Checks of the quantity -/

structure ExchangeMarketLimits where
  minAmount : ℚ
  amountStep : ℚ
  minCost : ℚ
  amountPrecision : ℕ

structure QuantityValidationResult where
  isValid : Bool
  originalQuantity : ℚ
  adjustedQuantity : ℚ
  minQuantity : ℚ
  minNotional : ℚ
  actualNotional : ℚ
  error : Option String := none

/-- `Decimal.toDecimalPlaces`: `d` decimals, ties away from zero. -/
def toDecimalPlaces (x : ℚ) (d : ℕ) : ℚ :=
  let rounded : ℚ := ⌊|x| * 10 ^ d + 1 / 2⌋ / 10 ^ d
  if x < 0 then -rounded else rounded

def adjustQuantity (quantity : ℚ) (limits : ExchangeMarketLimits) : ℚ :=
  if 0 < limits.amountStep then
    toDecimalPlaces (⌊quantity / limits.amountStep⌋ * limits.amountStep) limits.amountPrecision
  else toDecimalPlaces quantity limits.amountPrecision

def validateExitOrderQuantity (quantity price : ℚ) (limits : Option ExchangeMarketLimits) :
    QuantityValidationResult :=
  match limits with
  | none =>
    { isValid := true
      originalQuantity := quantity
      adjustedQuantity := quantity
      minQuantity := 0
      minNotional := 0
      actualNotional := quantity * price }
  | some limits =>
    let adjustedQuantity := adjustQuantity quantity limits
    let result : QuantityValidationResult :=
      { isValid := true
        originalQuantity := quantity
        adjustedQuantity := adjustedQuantity
        minQuantity := limits.minAmount
        minNotional := limits.minCost
        actualNotional := adjustedQuantity * price }
    if adjustedQuantity < limits.minAmount then
      { result with
        isValid := false
        error := some ("Quantity " ++ Js.numberText adjustedQuantity ++ " is below minimum " ++
          Js.numberText limits.minAmount ++ " for this market") }
    else if result.actualNotional < limits.minCost ∧ 0 < limits.minCost then
      let requiredQuantity : ℚ :=
        if 0 < limits.amountStep then
          ⌈limits.minCost / price / limits.amountStep⌉ * limits.amountStep
        else ⌈limits.minCost / price⌉
      { result with
        isValid := false
        error := some ("Order value " ++ Js.toFixed result.actualNotional 2 ++
          " is below minimum " ++ Js.numberText limits.minCost ++ ". Need at least " ++
          Js.numberText requiredQuantity ++ " units.") }
    else result

/-- Decimals that do not fit the step round the quantity up: one and a half coins become two. -/
example : adjustQuantity (3 / 2)
    { minAmount := 0, amountStep := 1 / 2, minCost := 0, amountPrecision := 0 } = 2 := by
  decide +kernel

/-! ## What the attachment is answered -/

/-- A call through the circuit breaker: the state other calls and the time have left the breaker in,
and what becomes of the attempts. -/
structure RemoteCall (κ : Type) where
  circuit : κ
  fates : ℕ → Fate RemoteError

def RemoteCall.result {κ : Type} (breaker : CircuitBreaker κ) (call : RemoteCall κ) :
    Except RemoteError Unit :=
  (executeWithResilience breaker (fun s : Unit => (s, ())) call.fates call.circuit ()).result

structure LegAnswers (κ : Type) where
  call : RemoteCall κ
  baseCoin : Option CoinId
  quoteCoin : Option CoinId
  id : OrderId
  orderUuid : String
  clientUuid : String
  now : Instant
  saved : Except RemoteError Unit

/-- What the database, the exchange client and the indicators answer, call by call. -/
structure AttachAnswers (κ : Type) where
  userLoaded : Bool
  exchangeKey : Except RemoteError (Option String)
  /-- The average true range, absent without price data. -/
  calculatedAtr : Option (Option ℚ)
  transactionStarted : Except RemoteError Unit
  client : RemoteCall κ
  loadMarkets : RemoteCall κ
  marketLimits : Option ExchangeMarketLimits
  stopLoss : LegAnswers κ
  takeProfit : LegAnswers κ
  stopLossLinked : Except RemoteError Unit
  takeProfitLinked : Except RemoteError Unit
  positionExitId : String
  positionExitSaved : Except RemoteError Unit
  committed : Except RemoteError Unit

/-! ## Before the transaction -/

/-- `averagePrice || price || 0` -/
def Order.entryPrice (entryOrder : Order) : ℚ :=
  (Js.truthy? entryOrder.averagePrice).getD entryOrder.price

/-- `executedQuantity || quantity` -/
def Order.rawQuantity (entryOrder : Order) : ℚ :=
  if entryOrder.executedQuantity ≠ 0 then entryOrder.executedQuantity else entryOrder.quantity

def Order.toEntry (entryOrder : Order) : EntryOrder where
  id := entryOrder.id
  userId := entryOrder.userId
  exchangeKeyId := entryOrder.exchangeKeyId
  symbol := entryOrder.symbol
  side := entryOrder.side
  entryPrice := entryOrder.entryPrice
  quantity := entryOrder.rawQuantity

structure PreparedExits where
  config : ExitConfig
  exchangeSlug : Option String
  currentAtr : Option ℚ
  prices : CalculatedExitPrices
  warnings : List String
  deriving DecidableEq

def withoutAtr (config : ExitConfig) : ExitConfig :=
  if config.stopLossType = .atr then
    { config with stopLossType := .percentage, stopLossValue := 2 }
  else config

def priceExits (entryOrder : Order) (config : ExitConfig) (exchangeSlug : Option String)
    (calculatedAtr : Option (Option ℚ)) : PreparedExits :=
  let calculated :=
    if config.stopLossType = .atr ∨ config.trailingType = .atr then calculatedAtr else none
  let failed := calculated.isSome && (Js.truthy? calculated.join).isNone
  let config := if failed then withoutAtr config else config
  { config := config
    exchangeSlug := exchangeSlug
    currentAtr := calculated.join
    prices := calculateExitPrices entryOrder.entryPrice entryOrder.side config calculated.join
    warnings :=
      if failed then ["ATR calculation failed, falling back to percentage-based stops"] else [] }

section Attachment

variable {σ κ : Type}

def findExchange (entryOrder : Order) (answers : AttachAnswers κ) : Except String (Option String) :=
  if (entryOrder.exchangeKeyId.filter (· ≠ "")).isSome then
    answers.exchangeKey.mapError (·.message)
  else .ok none

/-- Everything up to the transaction. An error is thrown before anything is placed. -/
def prepareExits (entryOrder : Order) (exitConfig : PartialExitConfig) (atr : AtrSettings)
    (answers : AttachAnswers κ) : Except String PreparedExits := do
  let config := applyLayer DEFAULT_EXIT_CONFIG exitConfig
  if !config.enableStopLoss && !config.enableTakeProfit && !config.enableTrailingStop then
    throw "At least one exit type must be enabled"
  validateExitConfigInputs config atr
  if entryOrder.entryPrice ≤ 0 then
    throw "Entry order must have a valid price"
  if !answers.userLoaded then
    throw "User not found for entry order. Ensure entry order has user relation loaded."
  let exchangeSlug ← findExchange entryOrder answers
  let prepared := priceExits entryOrder config exchangeSlug answers.calculatedAtr
  match validateExitPrices prepared.prices entryOrder.side
    DEFAULT_EXIT_PRICE_VALIDATION_LIMITS with
  | [] => return prepared
  | errors => throw ("Invalid exit prices: " ++ "; ".intercalate (errors.map (·.message)))

/-! ## The exchange client -/

structure OpenedClient where
  hasClient : Bool
  marketLimits : Option ExchangeMarketLimits
  warnings : List String

def openClient (breaker : CircuitBreaker κ) (exchangeSlug : Option String)
    (answers : AttachAnswers κ) : OpenedClient :=
  match exchangeSlug with
  | none => { hasClient := false, marketLimits := none, warnings := [] }
  | some slug =>
    match (do answers.client.result breaker; answers.loadMarkets.result breaker) with
    | .ok _ => { hasClient := true, marketLimits := answers.marketLimits, warnings := [] }
    | .error e =>
      { hasClient := false
        marketLimits := none
        warnings :=
          [if e.name = "CircuitOpenError" then
            "Exchange " ++ slug ++ " circuit open - orders will be tracked locally"
          else "Exchange client initialization failed: " ++ e.message] }

/-! ## The legs -/

/-- A stop-loss or a take-profit as the configuration asks for it. -/
structure ExitLeg where
  form : ExitOrderForm
  label : String
  enabled : Bool
  price : Option ℚ
  stopPrice : ℚ → Option ℚ

def stopLossLeg (prepared : PreparedExits) : ExitLeg where
  form := stopLossForm
  label := "Stop loss"
  enabled := prepared.config.enableStopLoss
  price := prepared.prices.stopLossPrice
  stopPrice := some

def takeProfitLeg (prepared : PreparedExits) : ExitLeg where
  form := takeProfitForm
  label := "Take profit"
  enabled := prepared.config.enableTakeProfit
  price := prepared.prices.takeProfitPrice
  stopPrice _ := none

namespace ExitLeg

def wantedPrice (leg : ExitLeg) : Option ℚ :=
  if leg.enabled then Js.truthy? leg.price else none

/-- The quantity of a leg. A quantity that is not valid is placed as it is. -/
def quantity (entryOrder : Order) (limits : Option ExchangeMarketLimits) (price : ℚ) : ℚ :=
  let validation := validateExitOrderQuantity entryOrder.rawQuantity price limits
  if validation.isValid then validation.adjustedQuantity else entryOrder.rawQuantity

def quantityWarnings (leg : ExitLeg) (entryOrder : Order) (limits : Option ExchangeMarketLimits) :
    List String :=
  leg.wantedPrice.elim [] fun price =>
    let validation := validateExitOrderQuantity entryOrder.rawQuantity price limits
    if validation.isValid then []
    else [leg.label ++ " quantity invalid: " ++ validation.error.getD "undefined"]

/-- What the leg is placed with. Nothing is placed without a price or a positive quantity. -/
def params (leg : ExitLeg) (entryOrder : Order) (limits : Option ExchangeMarketLimits) :
    Option PlaceExitOrderParams :=
  (leg.wantedPrice.filter fun price => 0 < quantity entryOrder limits price).map fun price =>
    { userId := entryOrder.userId
      exchangeKeyId := entryOrder.exchangeKeyId.filter (· ≠ "")
      symbol := entryOrder.symbol
      side := entryOrder.side.opposite
      quantity := quantity entryOrder limits price
      price := price
      stopPrice := leg.stopPrice price }

end ExitLeg

def LegAnswers.context (answers : LegAnswers κ) (hasClient : Bool) (exchangeSlug : Option String) :
    PlacementContext where
  hasClient := hasClient
  exchangeSlug := exchangeSlug
  exchange := exchangeSlug
  baseCoin := answers.baseCoin
  quoteCoin := answers.quoteCoin
  id := answers.id
  orderUuid := answers.orderUuid
  clientUuid := answers.clientUuid
  now := answers.now

structure AttachedLeg (σ : Type) where
  remote : σ
  order : Option Order
  warnings : List String

/-- `placeStopLossOrder` or `placeTakeProfitOrder`. A row that cannot be saved is a warning. -/
def attachLeg (exchange : Exchange σ) (breaker : CircuitBreaker κ) (leg : ExitLeg)
    (params : Option PlaceExitOrderParams) (hasClient : Bool) (exchangeSlug : Option String)
    (answers : LegAnswers κ) (remote : σ) : AttachedLeg σ :=
  match params with
  | none => { remote := remote, order := none, warnings := [] }
  | some params =>
    let placement := placeExitOrder exchange breaker leg.form params
      (answers.context hasClient exchangeSlug) answers.call.fates answers.call.circuit remote
    match answers.saved with
    | .ok _ => { remote := placement.remote, order := some placement.order, warnings := [] }
    | .error e =>
      { remote := placement.remote
        order := none
        warnings := [leg.label ++ " placement failed: " ++ e.message] }

/-! ## The rows -/

structure ExchangeOcoSupport where
  native : Bool
  simulated : Bool

def exchangeOcoSupport : List (String × ExchangeOcoSupport) :=
  [("binance_us", { native := false, simulated := true }),
    ("binance", { native := false, simulated := true }),
    ("coinbase", { native := false, simulated := true }),
    ("gdax", { native := false, simulated := true }),
    ("kraken", { native := false, simulated := true })]

def checkExchangeOcoSupport (exchangeSlug : String) : ExchangeOcoSupport :=
  (exchangeOcoSupport.lookup exchangeSlug).getD { native := false, simulated := true }

structure LinkedOrders where
  stopLossOrder : Option Order
  takeProfitOrder : Option Order
  ocoLinked : Bool

def linkOco (useOco : Bool) (exchangeSlug : Option String) (hasClient : Bool)
    (stopLossOrder takeProfitOrder : Option Order) (answers : AttachAnswers κ) :
    Except RemoteError LinkedOrders :=
  match useOco, stopLossOrder, takeProfitOrder, exchangeSlug.filter (· ≠ "") with
  | true, some stopLoss, some takeProfit, some slug =>
    let support := checkExchangeOcoSupport slug
    if support.native && hasClient then
      .ok { stopLossOrder := stopLoss, takeProfitOrder := takeProfit, ocoLinked := true }
    else if support.simulated then do
      answers.stopLossLinked
      answers.takeProfitLinked
      return {
        stopLossOrder := some { stopLoss with ocoLinkedOrderId := some takeProfit.id }
        takeProfitOrder := some { takeProfit with ocoLinkedOrderId := some stopLoss.id }
        ocoLinked := true }
    else .ok { stopLossOrder := stopLoss, takeProfitOrder := takeProfit, ocoLinked := false }
  | _, _, _, _ =>
    .ok { stopLossOrder := stopLossOrder, takeProfitOrder := takeProfitOrder, ocoLinked := false }

structure StoredExits where
  positionExit : PositionExit
  stopLossOrder : Option Order
  takeProfitOrder : Option Order

/-- The rest of the transaction. Any error of it rolls everything back. -/
def storeExits (entryOrder : Order) (prepared : PreparedExits) (hasClient : Bool)
    (stopLossOrder takeProfitOrder : Option Order) (warnings : List String)
    (answers : AttachAnswers κ) : Except RemoteError StoredExits := do
  let linked ← linkOco prepared.config.useOco prepared.exchangeSlug hasClient stopLossOrder
    takeProfitOrder answers
  answers.positionExitSaved
  answers.committed
  return {
    positionExit :=
      newPositionExit answers.positionExitId entryOrder.toEntry prepared.config prepared.currentAtr
        { stopLossOrderId := linked.stopLossOrder.map (·.id)
          takeProfitOrderId := linked.takeProfitOrder.map (·.id)
          ocoLinked := linked.ocoLinked
          warnings := warnings }
    stopLossOrder := linked.stopLossOrder
    takeProfitOrder := linked.takeProfitOrder }

/-! ## The attachment -/

structure AttachExitOrdersResult where
  positionExitId : String
  stopLossOrderId : Option OrderId
  takeProfitOrderId : Option OrderId
  calculatedPrices : CalculatedExitPrices
  ocoLinked : Bool
  warnings : List String

/-- What is left of the exchange, what the database has gained, and what the caller is told. -/
structure AttachOutcome (σ : Type) where
  remote : σ
  stored : Option StoredExits
  result : Except String AttachExitOrdersResult

/-- Both legs are placed before anything else is stored. -/
def attachExitOrders (exchange : Exchange σ) (breaker : CircuitBreaker κ) (entryOrder : Order)
    (exitConfig : PartialExitConfig) (atr : AtrSettings) (answers : AttachAnswers κ) (remote : σ) :
    AttachOutcome σ :=
  match prepareExits entryOrder exitConfig atr answers with
  | .error message => { remote := remote, stored := none, result := .error message }
  | .ok prepared =>
    match answers.transactionStarted with
    | .error e => { remote := remote, stored := none, result := .error e.message }
    | .ok _ =>
      let client := openClient breaker prepared.exchangeSlug answers
      let stopLeg := stopLossLeg prepared
      let profitLeg := takeProfitLeg prepared
      let stopLoss := attachLeg exchange breaker stopLeg
        (stopLeg.params entryOrder client.marketLimits) client.hasClient prepared.exchangeSlug
        answers.stopLoss remote
      let takeProfit := attachLeg exchange breaker profitLeg
        (profitLeg.params entryOrder client.marketLimits) client.hasClient prepared.exchangeSlug
        answers.takeProfit stopLoss.remote
      let warnings := prepared.warnings ++ client.warnings ++
        stopLeg.quantityWarnings entryOrder client.marketLimits ++
        profitLeg.quantityWarnings entryOrder client.marketLimits ++
        stopLoss.warnings ++ takeProfit.warnings
      match storeExits entryOrder prepared client.hasClient stopLoss.order takeProfit.order warnings
        answers with
      | .error e =>
        { remote := takeProfit.remote
          stored := none
          result := .error ("Failed to attach exit orders: " ++ e.message) }
      | .ok stored =>
        { remote := takeProfit.remote
          stored := some stored
          result := .ok
            { positionExitId := stored.positionExit.id
              stopLossOrderId := stored.positionExit.stopLossOrderId
              takeProfitOrderId := stored.positionExit.takeProfitOrderId
              calculatedPrices := prepared.prices
              ocoLinked := stored.positionExit.ocoLinked
              warnings := warnings } }

end Attachment

end Chansey
