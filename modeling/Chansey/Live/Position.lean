import Chansey.Live.Order

/-!
# Live positions

The row that tracks the exit orders of a live position, and the exit prices it starts from.

* `validateExitPrices`: what is wrong with them. **`validateExitPrices_trailing`**: an accepted
  trailing stop is positive and not on the wrong side of the entry.
-/

namespace Chansey

inductive PositionExitStatus where
  | active | stopLossTriggered | takeProfitTriggered | trailingTriggered | cancelled | expired | error
  deriving DecidableEq

/-! ## Exit prices -/

structure CalculatedExitPrices where
  entryPrice : ℚ
  stopLossPrice : Option ℚ := none
  takeProfitPrice : Option ℚ := none
  trailingStopPrice : Option ℚ := none
  trailingActivationPrice : Option ℚ := none
  deriving DecidableEq

def calculateExitPrices (entryPrice : ℚ) (side : ExitSide) (config : ExitConfig)
    (currentAtr : Option ℚ) : CalculatedExitPrices :=
  let stopLossPrice :=
    if config.enableStopLoss then
      some (calculateStopLossPrice entryPrice side config currentAtr)
    else none
  { entryPrice := entryPrice
    stopLossPrice := stopLossPrice
    takeProfitPrice :=
      if config.enableTakeProfit then
        some (calculateTakeProfitPrice entryPrice side config stopLossPrice)
      else none
    trailingStopPrice :=
      if config.enableTrailingStop then
        some (calculateTrailingStopPrice entryPrice side config currentAtr)
      else none
    trailingActivationPrice :=
      if config.enableTrailingStop ∧ config.trailingActivation ≠ .immediate then
        some (calculateTrailingActivationPrice entryPrice side config)
      else none }

/-! ## Validation -/

inductive ExitKind where
  | stopLoss | takeProfit | trailingStop

def ExitKind.text : ExitKind → String
  | .stopLoss => "stopLoss"
  | .takeProfit => "takeProfit"
  | .trailingStop => "trailingStop"

inductive ExitPriceValidationErrorCode where
  | wrongSide | exceedsMaxDistance | belowMinDistance | invalidPrice

structure ExitPriceValidationError where
  exitType : ExitKind
  code : ExitPriceValidationErrorCode
  message : String
  calculatedPrice : ℚ
  entryPrice : ℚ
  distancePercentage : ℚ

structure ExitPriceValidationLimits where
  maxStopLossPercentage : ℚ
  minStopLossPercentage : ℚ
  maxTakeProfitPercentage : ℚ
  minTakeProfitPercentage : ℚ
  maxTrailingStopPercentage : ℚ
  minTrailingStopPercentage : ℚ

def DEFAULT_EXIT_PRICE_VALIDATION_LIMITS : ExitPriceValidationLimits where
  maxStopLossPercentage := 50
  minStopLossPercentage := 1 / 10
  maxTakeProfitPercentage := 500
  minTakeProfitPercentage := 1 / 10
  maxTrailingStopPercentage := 50
  minTrailingStopPercentage := 1 / 10

inductive ExpectedSide where
  | above | below

def ExpectedSide.text : ExpectedSide → String
  | .above => "above"
  | .below => "below"

def ExitSide.stopSide : ExitSide → ExpectedSide
  | .buy => .below
  | .sell => .above

def ExitSide.profitSide : ExitSide → ExpectedSide
  | .buy => .above
  | .sell => .below

def validateSingleExitPrice (exitType : ExitKind) (price entryPrice : ℚ) (side : ExitSide)
    (minPercentage maxPercentage : ℚ) (expectedSide : ExpectedSide) :
    List ExitPriceValidationError :=
  let distancePercentage := |price - entryPrice| / entryPrice * 100
  if price ≤ 0 then
    [{ exitType := exitType
       code := .invalidPrice
       message := exitType.text ++ " price must be positive (got " ++ Js.numberText price ++ ")"
       calculatedPrice := price
       entryPrice := entryPrice
       distancePercentage := 0 }]
  else
    let isOnCorrectSide : Bool :=
      match expectedSide with
      | .above => entryPrice < price
      | .below => price < entryPrice
    let error (code : ExitPriceValidationErrorCode) (message : String) :
        ExitPriceValidationError :=
      { exitType := exitType
        code := code
        message := message
        calculatedPrice := price
        entryPrice := entryPrice
        distancePercentage := distancePercentage }
    let wrongSide :=
      if ¬ isOnCorrectSide ∧ price ≠ entryPrice then
        [error .wrongSide (exitType.text ++ " price (" ++ Js.numberText price ++ ") must be " ++
          expectedSide.text ++ " entry price (" ++ Js.numberText entryPrice ++ ") for " ++
          (if side = .buy then "long" else "short") ++ " position")]
      else []
    let tooClose :=
      if distancePercentage < minPercentage ∧ price ≠ entryPrice then
        [error .belowMinDistance (exitType.text ++ " is only " ++
          Js.toFixed distancePercentage 2 ++ "% from entry, minimum is " ++
          Js.numberText minPercentage ++ "%")]
      else []
    let tooFar :=
      if maxPercentage < distancePercentage then
        [error .exceedsMaxDistance (exitType.text ++ " is " ++ Js.toFixed distancePercentage 2 ++
          "% from entry, maximum allowed is " ++ Js.numberText maxPercentage ++ "%")]
      else []
    wrongSide ++ tooClose ++ tooFar

def validateExitPrices (calculatedPrices : CalculatedExitPrices) (side : ExitSide)
    (limits : ExitPriceValidationLimits) : List ExitPriceValidationError :=
  let entryPrice := calculatedPrices.entryPrice
  (calculatedPrices.stopLossPrice.elim [] fun price =>
    validateSingleExitPrice .stopLoss price entryPrice side limits.minStopLossPercentage
      limits.maxStopLossPercentage side.stopSide) ++
  (calculatedPrices.takeProfitPrice.elim [] fun price =>
    validateSingleExitPrice .takeProfit price entryPrice side limits.minTakeProfitPercentage
      limits.maxTakeProfitPercentage side.profitSide) ++
  (calculatedPrices.trailingStopPrice.elim [] fun price =>
    validateSingleExitPrice .trailingStop price entryPrice side limits.minTrailingStopPercentage
      limits.maxTrailingStopPercentage side.stopSide)

theorem validateSingleExitPrice_below {exitType : ExitKind} {price entryPrice : ℚ} {side : ExitSide}
    {minPercentage maxPercentage : ℚ}
    (h : validateSingleExitPrice exitType price entryPrice side minPercentage maxPercentage
      .below = []) : 0 < price ∧ price ≤ entryPrice := by
  unfold validateSingleExitPrice at h
  dsimp only at h
  split_ifs at h with hpos hside
  all_goals first | (simp at h; done) | skip
  all_goals
    refine ⟨lt_of_not_ge hpos, ?_⟩
    by_contra hlt
    refine hside ⟨?_, fun heq => hlt heq.le⟩
    simp only [decide_eq_true_eq]
    exact fun hbelow => hlt hbelow.le

theorem validateExitPrices_trailing {prices : CalculatedExitPrices}
    {limits : ExitPriceValidationLimits} {stop : ℚ}
    (h : validateExitPrices prices .buy limits = []) (hstop : prices.trailingStopPrice = some stop) :
    0 < stop ∧ stop ≤ prices.entryPrice := by
  unfold validateExitPrices at h
  have htrlg := (List.append_eq_nil_iff.mp h).2
  rw [hstop] at htrlg
  exact validateSingleExitPrice_below htrlg

/-! ## The row -/

structure PositionExit where
  id : String
  entryOrderId : OrderId
  userId : String
  stopLossOrderId : Option OrderId := none
  takeProfitOrderId : Option OrderId := none
  trailingStopOrderId : Option OrderId := none
  entryPrice : ℚ
  stopLossPrice : Option ℚ
  takeProfitPrice : Option ℚ
  currentTrailingStopPrice : Option ℚ
  trailingHighWaterMark : Option ℚ
  trailingLowWaterMark : Option ℚ
  trailingActivated : Bool
  ocoLinked : Bool
  exitConfig : ExitConfig
  status : PositionExitStatus
  symbol : String
  quantity : ℚ
  side : ExitSide
  exchangeKeyId : Option String := none
  entryAtr : Option ℚ
  triggeredAt : Option Instant := none
  exitPrice : Option ℚ := none
  realizedPnL : Option ℚ := none
  warnings : List String := []

structure EntryOrder where
  id : OrderId
  userId : String
  exchangeKeyId : Option String := none
  symbol : String
  side : ExitSide
  /-- `averagePrice || price || 0` -/
  entryPrice : ℚ
  /-- `executedQuantity || quantity` -/
  quantity : ℚ

/-- The exit orders that were placed for an entry. There is never one for the trailing stop. -/
structure AttachedOrders where
  stopLossOrderId : Option OrderId := none
  takeProfitOrderId : Option OrderId := none
  ocoLinked : Bool := false
  warnings : List String := []

/-- The row `attachExitOrders` saves for the entry. -/
def newPositionExit (id : String) (entryOrder : EntryOrder) (config : ExitConfig)
    (currentAtr : Option ℚ) (orders : AttachedOrders) : PositionExit :=
  let prices := calculateExitPrices entryOrder.entryPrice entryOrder.side config currentAtr
  { id := id
    entryOrderId := entryOrder.id
    userId := entryOrder.userId
    stopLossOrderId := orders.stopLossOrderId
    takeProfitOrderId := orders.takeProfitOrderId
    trailingStopOrderId := none
    entryPrice := entryOrder.entryPrice
    stopLossPrice := prices.stopLossPrice
    takeProfitPrice := prices.takeProfitPrice
    currentTrailingStopPrice := prices.trailingStopPrice
    trailingHighWaterMark := if entryOrder.side = .buy then some entryOrder.entryPrice else none
    trailingLowWaterMark := if entryOrder.side = .sell then some entryOrder.entryPrice else none
    trailingActivated := config.trailingActivation = .immediate
    ocoLinked := orders.ocoLinked
    exitConfig := config
    status := .active
    symbol := entryOrder.symbol
    quantity := entryOrder.quantity
    side := entryOrder.side
    exchangeKeyId := entryOrder.exchangeKeyId
    entryAtr := currentAtr
    warnings := orders.warnings }

/-! ## The columns of the row -/

/-- A `decimal(20, 8)` column. -/
def priceColumn (x : ℚ) : ℚ := Js.decimalColumn x 8

/-- A new row as it is read again. -/
def PositionExit.inserted (position : PositionExit) : PositionExit :=
  { position with
    entryPrice := priceColumn position.entryPrice
    stopLossPrice := position.stopLossPrice.map priceColumn
    takeProfitPrice := position.takeProfitPrice.map priceColumn
    currentTrailingStopPrice := position.currentTrailingStopPrice.map priceColumn
    trailingHighWaterMark := position.trailingHighWaterMark.map priceColumn
    trailingLowWaterMark := position.trailingLowWaterMark.map priceColumn
    quantity := priceColumn position.quantity
    entryAtr := position.entryAtr.map priceColumn }

/-- The row `stored` after the monitor has saved `position`: what it writes is rounded, and a column
whose field is undefined is left as it is. -/
def PositionExit.savedOver (stored position : PositionExit) : PositionExit :=
  { position with
    trailingStopOrderId := position.trailingStopOrderId.or stored.trailingStopOrderId
    currentTrailingStopPrice := position.currentTrailingStopPrice.map priceColumn
    trailingHighWaterMark := position.trailingHighWaterMark.map priceColumn
    trailingLowWaterMark := position.trailingLowWaterMark.map priceColumn
    exitPrice := position.exitPrice.map priceColumn }

/-- A number of at most eight decimals. -/
def InColumn (x : ℚ) : Prop := (x * 10 ^ 8).den = 1

instance (x : ℚ) : Decidable (InColumn x) := inferInstanceAs (Decidable (_ = _))

section InColumn

variable {x y : ℚ}

theorem inColumn_iff : InColumn x ↔ ∃ z : ℤ, x * 10 ^ 8 = z :=
  ⟨fun h => ⟨_, (Rat.coe_int_num_of_den_eq_one h).symm⟩, fun ⟨z, h⟩ => by rw [InColumn, h, Rat.den_intCast]⟩

theorem InColumn.sub (hx : InColumn x) (hy : InColumn y) : InColumn (x - y) := by
  obtain ⟨m, hm⟩ := inColumn_iff.mp hx
  obtain ⟨n, hn⟩ := inColumn_iff.mp hy
  exact inColumn_iff.mpr ⟨m - n, by rw [sub_mul, hm, hn, Int.cast_sub]⟩

theorem InColumn.add (hx : InColumn x) (hy : InColumn y) : InColumn (x + y) := by
  obtain ⟨m, hm⟩ := inColumn_iff.mp hx
  obtain ⟨n, hn⟩ := inColumn_iff.mp hy
  exact inColumn_iff.mpr ⟨m + n, by rw [add_mul, hm, hn, Int.cast_add]⟩

theorem priceColumn_eq (h : InColumn x) : priceColumn x = x := by
  obtain ⟨z, hz⟩ := inColumn_iff.mp h
  have habs : |x| * 10 ^ 8 = (|z| : ℤ) := by
    rw [Int.cast_abs, ← hz, abs_mul, abs_of_pos (show (0 : ℚ) < 10 ^ 8 by norm_num)]
  have hrounded : (⌊|x| * 10 ^ 8 + 1 / 2⌋ : ℚ) / 10 ^ 8 = |x| := by
    rw [habs, Int.floor_intCast_add, show ⌊(1 / 2 : ℚ)⌋ = 0 by norm_num, add_zero, ← habs,
      mul_div_cancel_right₀ _ (by norm_num)]
  unfold priceColumn Js.decimalColumn
  dsimp only
  rw [hrounded]
  split_ifs with hneg
  · rw [abs_of_neg hneg, neg_neg]
  · exact abs_of_nonneg (not_lt.mp hneg)

end InColumn

end Chansey
