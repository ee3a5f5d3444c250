import Chansey.Lib.Numeral
import Chansey.Live.Order

/-!
# Exchange requirements of an order

A market is turned into the symbol information of an exchange, whose filters are texts, and an order is
checked against these. Its quantity is cut to whole steps of the market and printed again.

* `transformMarketToSymbolInfo`, `getSymbolFilters`: filters with their defaults.
-/

namespace Chansey.OrderValidation

open Js (Decimal RangeError)

abbrev Text := List Char

abbrev Number := Option Decimal

/-- No comparison with `NaN` holds. -/
def Number.lt (x y : Number) : Bool := x.any fun a => y.any fun b => a.value < b.value

def Number.mul (x y : Number) : Number :=
  x.bind fun a => y.map fun b => ⟨a.mantissa * b.mantissa, a.exponent + b.exponent⟩

def Number.toText (x : Number) : Text := x.elim "NaN".toList Decimal.toText

def truncate (x : ℚ) : ℤ := if 0 ≤ x then ⌊x⌋ else ⌈x⌉

/-- `x % y`, with the sign of `x`. -/
def remainder (x y : ℚ) : ℚ := x - y * truncate (x / y)

def EPSILON : ℚ := 1 / 2 ^ 52

/-- The number of decimals that `toFixed` makes of its argument: without one, `NaN` counts as zero. -/
def toInteger (x : Number) : ℤ := x.elim 0 fun a => truncate a.value

def Number.toFixed (x : Number) (fractionDigits : ℤ) : Except RangeError Text :=
  match x with
  | some a => Js.toFixedText a fractionDigits
  | none =>
    if fractionDigits < 0 ∨ 100 < fractionDigits then .error .fractionDigits else .ok "NaN".toList

/-! ## Symbol information -/

structure Limits where
  min : Option Decimal := none
  max : Option Decimal := none

/-- What is read of a `ccxt.MarketInterface`. -/
structure MarketInterface where
  id : Text
  active : Bool
  pricePrecision : Option Decimal
  amountPrecision : Option Decimal
  priceLimits : Limits := {}
  amountLimits : Limits := {}
  costLimits : Limits := {}

inductive SymbolStatus where
  | trading | onBreak
  deriving DecidableEq

structure PriceFields where
  minPrice : Option Text
  maxPrice : Option Text
  tickSize : Option Text

structure LotSizeFields where
  minQty : Option Text
  maxQty : Option Text
  stepSize : Option Text

structure MinNotionalFields where
  minNotional : Option Text

inductive Filter where
  | priceFilter (fields : PriceFields)
  | lotSize (fields : LotSizeFields)
  | minNotional (fields : MinNotionalFields)

/-- The precision of quotes is missing, or a number. -/
structure SymbolInfo where
  symbol : Text
  status : SymbolStatus
  permissions : List String
  quotePrecision : Number
  filters : List Filter

/-- `text || fallback` -/
def orDefault (text : Option Text) (fallback : String) : Text :=
  match text with
  | some (c :: rest) => c :: rest
  | some [] => fallback.toList
  | none => fallback.toList

def transformMarketToSymbolInfo (market : MarketInterface) : SymbolInfo :=
  let text (x : Option Decimal) (fallback : String) : Option Text :=
    some (orDefault (x.map Decimal.toText) fallback)
  { symbol := market.id
    status := if market.active then .trading else .onBreak
    permissions := if market.active then ["SPOT"] else []
    quotePrecision := market.pricePrecision
    filters :=
      [.priceFilter
          { minPrice := text market.priceLimits.min "0"
            maxPrice := text market.priceLimits.max "1000000"
            tickSize := text market.pricePrecision "0.00000001" },
        .lotSize
          { minQty := text market.amountLimits.min "0.00000100"
            maxQty := text market.amountLimits.max "9000000"
            stepSize := text market.amountPrecision "0.00000001" },
        .minNotional { minNotional := text market.costLimits.min "10" }] }

structure SymbolPriceFilter where
  minPrice : Text
  maxPrice : Text
  tickSize : Text

structure SymbolLotSizeFilter where
  minQty : Text
  maxQty : Text
  stepSize : Text

structure SymbolMinNotionalFilter where
  minNotional : Text

structure SymbolValidationFilters where
  priceFilter : SymbolPriceFilter
  lotSizeFilter : SymbolLotSizeFilter
  minNotionalFilter : SymbolMinNotionalFilter

def Filter.price? : Filter → Option PriceFields
  | .priceFilter fields => some fields
  | .lotSize _ => none
  | .minNotional _ => none

def Filter.lotSize? : Filter → Option LotSizeFields
  | .priceFilter _ => none
  | .lotSize fields => some fields
  | .minNotional _ => none

def Filter.minNotional? : Filter → Option MinNotionalFields
  | .priceFilter _ => none
  | .lotSize _ => none
  | .minNotional fields => some fields

/-- The first filter of each type, with a default for what is missing. -/
def getSymbolFilters (filters : List Filter) : SymbolValidationFilters :=
  let priceFilterObj := filters.findSome? Filter.price?
  let lotSizeFilterObj := filters.findSome? Filter.lotSize?
  let minNotionalFilterObj := filters.findSome? Filter.minNotional?
  { priceFilter :=
      { minPrice := orDefault (priceFilterObj.bind PriceFields.minPrice) "0"
        maxPrice := orDefault (priceFilterObj.bind PriceFields.maxPrice) "1000000"
        tickSize := orDefault (priceFilterObj.bind PriceFields.tickSize) "0.00000001" }
    lotSizeFilter :=
      { minQty := orDefault (lotSizeFilterObj.bind LotSizeFields.minQty) "0.00000100"
        maxQty := orDefault (lotSizeFilterObj.bind LotSizeFields.maxQty) "9000000"
        stepSize := orDefault (lotSizeFilterObj.bind LotSizeFields.stepSize) "0.00000001" }
    minNotionalFilter :=
      { minNotional := orDefault (minNotionalFilterObj.bind MinNotionalFields.minNotional) "10" } }

/-! ## The checks -/

inductive Bound where
  | min | max
  deriving DecidableEq

inductive OrderException where
  | tradingSuspended
  | validation (message : Text)
  | orderSize (type : Bound) (value limit : Number) (unit : String)
  | range (error : RangeError)
  deriving DecidableEq

def validateSymbolStatus (symbol : SymbolInfo) : Except OrderException Unit :=
  if symbol.status ≠ .trading then .error .tradingSuspended
  else if "SPOT" ∉ symbol.permissions then
    .error (.validation "Spot trading is not available for this symbol".toList)
  else .ok ()

/-- `stepSize.split('.')[1]?.length || 0` -/
def getPrecisionFromStepSize (stepSize : Text) : ℕ :=
  ((stepSize.splitOn '.')[1]?).elim 0 List.length

def isValidTickSize (price : Number) (tickSize : Text) : Bool :=
  let multiplier : ℚ := 10 ^ getPrecisionFromStepSize tickSize
  price.any fun price => (Js.parseFloat tickSize).any fun tick =>
    tick.value * multiplier ≠ 0 ∧
      |remainder (price.value * multiplier) (tick.value * multiplier)| < EPSILON

def validatePrice (price : Number) (filters : SymbolValidationFilters) :
    Except OrderException Unit :=
  let minPriceFloat : Number := Js.parseFloat filters.priceFilter.minPrice
  let maxPriceFloat : Number := Js.parseFloat filters.priceFilter.maxPrice
  if price.lt minPriceFloat then .error (.orderSize .min price minPriceFloat "price")
  else if maxPriceFloat.lt price then .error (.orderSize .max price maxPriceFloat "price")
  else if !isValidTickSize price filters.priceFilter.tickSize then
    .error (.validation ("Price ".toList ++ price.toText ++ " does not match tick size ".toList ++
      filters.priceFilter.tickSize))
  else .ok ()

def calculateMaxQuantity (quantity : Number) (stepSize : Text) : Except RangeError Number :=
  let precision := getPrecisionFromStepSize stepSize
  let multiplier : ℚ := 10 ^ precision
  let product : Number := quantity.bind fun quantity => (Js.parseFloat stepSize).bind fun step =>
    let scaledValue := quantity.value * multiplier
    let scaledStep := step.value * multiplier
    if scaledStep = 0 then none
    else
      let maxSteps := ⌊scaledValue / scaledStep + EPSILON⌋
      some { step with mantissa := maxSteps * step.mantissa }
  (product.toFixed precision).map Js.toNumber

def validateAndAdjustQuantity (quantity : Number) (filters : SymbolValidationFilters)
    (precision : Number) : Except OrderException Text := do
  let minQtyFloat : Number := Js.parseFloat filters.lotSizeFilter.minQty
  let maxQtyFloat : Number := Js.parseFloat filters.lotSizeFilter.maxQty
  let maxValidQuantity ←
    (calculateMaxQuantity quantity filters.lotSizeFilter.stepSize).mapError .range
  if maxValidQuantity.lt minQtyFloat then
    .error (.orderSize .min maxValidQuantity minQtyFloat "quantity")
  else if maxQtyFloat.lt maxValidQuantity then
    .error (.orderSize .max maxValidQuantity maxQtyFloat "quantity")
  else (maxValidQuantity.toFixed (toInteger precision)).mapError .range

structure OrderDto where
  quantity : Text
  price : Option Text
  deriving DecidableEq

def validateBeforeQuantity (order : OrderDto) (orderType : OrderType) (symbolInfo : SymbolInfo) :
    Except OrderException Unit := do
  validateSymbolStatus symbolInfo
  let filters := getSymbolFilters symbolInfo.filters
  let quantity : Number := Js.parseFloat order.quantity
  match order.price.filter (· ≠ []) with
  | none => pure ()
  | some text =>
    if orderType = .limit then do
      let price : Number := Js.parseFloat text
      validatePrice price filters
      let minNotional : Number := Js.parseFloat filters.minNotionalFilter.minNotional
      let notionalValue := quantity.mul price
      if notionalValue.lt minNotional then
        .error (.orderSize .min notionalValue minNotional "order value")
      else pure ()
    else pure ()

def validateExchangeOrder (order : OrderDto) (orderType : OrderType) (symbolInfo : SymbolInfo) :
    Except OrderException OrderDto := do
  validateBeforeQuantity order orderType symbolInfo
  let filters := getSymbolFilters symbolInfo.filters
  let quantity : Number := Js.parseFloat order.quantity
  let adjusted ← validateAndAdjustQuantity quantity filters symbolInfo.quotePrecision
  pure { order with quantity := adjusted }

end Chansey.OrderValidation
