import Chansey.Live.OrderValidation

/-!
# Lot sizes

The adjusted quantity should be the largest multiple of the amount step that is at most the requested
quantity. It is rounded to the decimals after the point of the printed step, and is printed with as
many decimals as the price step has wholes.
-/

namespace Chansey.OrderValidation

open Js (Decimal RangeError ReadsAs roundTo Fits)

structure SteppedMarket extends MarketInterface where
  priceStep : Decimal
  amountStep : Decimal
  pricePrecision_eq : pricePrecision = some priceStep
  amountPrecision_eq : amountPrecision = some amountStep
  priceStep_pos : 0 < priceStep.value
  amountStep_pos : 0 < amountStep.value

namespace SteppedMarket

variable (market : SteppedMarket)

def InRange (x : ℚ) : Prop :=
  market.amountLimits.min.elim (1 / 1000000) Decimal.value ≤ x ∧
    x ≤ market.amountLimits.max.elim 9000000 Decimal.value

def symbolInfo : SymbolInfo := transformMarketToSymbolInfo market.toMarketInterface

def stepDecimals : ℕ := getPrecisionFromStepSize market.amountStep.toText

def printedDecimals : ℤ := ⌊market.priceStep.value⌋

end SteppedMarket

structure PositiveOrder extends OrderDto where
  requested : Decimal
  quantity_eq : Js.parseFloat quantity = some requested
  requested_pos : 0 < requested.value

def largestMultiple (step quantity : ℚ) : ℚ := ⌊quantity / step⌋ * step

/-- The largest multiple of the amount step that is at most the requested quantity. -/
def wanted (order : PositiveOrder) (market : SteppedMarket) : ℚ :=
  largestMultiple market.amountStep.value order.requested.value

def OrderException.ofQuantity : OrderException → Bool
  | .tradingSuspended => false
  | .validation _ => false
  | .orderSize _ _ _ unit => unit == "quantity"
  | .range _ => true

def Admitted (order : PositiveOrder) (orderType : OrderType) (market : SteppedMarket) : Prop :=
  validateBeforeQuantity order.toOrderDto orderType market.symbolInfo = .ok ()

/-- What is returned is read as the largest multiple, in range; the quantity is rejected only if that
is out of range. -/
structure LotExact (order : PositiveOrder) (orderType : OrderType) (market : SteppedMarket) :
    Prop where
  returned : ∀ order',
    validateExchangeOrder order.toOrderDto orderType market.symbolInfo = .ok order' →
      (Js.parseFloat order'.quantity).map Decimal.value = some (wanted order market) ∧
        market.InRange (wanted order market)
  rejected : ∀ exception,
    validateExchangeOrder order.toOrderDto orderType market.symbolInfo = .error exception →
      exception.ofQuantity = true → ¬ market.InRange (wanted order market)

/-! ## The filter of the lot size -/

section Filters

variable {fallback : String} {v : ℚ}

theorem orDefault_orDefault (text : Option Text) (h : fallback.toList ≠ []) :
    orDefault (some (orDefault text fallback)) fallback = orDefault text fallback := by
  have hfallback : orDefault (some fallback.toList) fallback = fallback.toList := by
    obtain ⟨c, _, hcons⟩ := List.exists_cons_of_ne_nil h
    rw [hcons]
    rfl
  rcases text with _ | ⟨_ | ⟨c, _⟩⟩
  · exact hfallback
  · exact hfallback
  · rfl

theorem orDefault_toText (x : Decimal) (fallback : String) :
    orDefault (some x.toText) fallback = x.toText := by
  obtain ⟨y, hread, -⟩ := Js.readsAs_toText x
  cases htext : x.toText with
  | nil =>
    rw [htext] at hread
    cases hread
  | cons => rfl

theorem parse_orDefault (x : Option Decimal)
    (h : (Js.parseFloat fallback.toList).map Decimal.value = some v) :
    (Js.parseFloat (orDefault (x.map Decimal.toText) fallback)).map Decimal.value =
      some (x.elim v Decimal.value) := by
  cases x with
  | none => exact h
  | some y =>
    rw [Option.map_some, orDefault_toText]
    exact Js.parseFloat_of_readsAs (Js.readsAs_toText y)

theorem lotSizeFilter_eq (market : SteppedMarket) :
    (getSymbolFilters market.symbolInfo.filters).lotSizeFilter =
      { minQty := orDefault (market.amountLimits.min.map Decimal.toText) "0.00000100"
        maxQty := orDefault (market.amountLimits.max.map Decimal.toText) "9000000"
        stepSize := market.amountStep.toText } := by
  have hmin := @orDefault_orDefault "0.00000100" (market.amountLimits.min.map Decimal.toText)
    (by decide +kernel)
  have hmax := @orDefault_orDefault "9000000" (market.amountLimits.max.map Decimal.toText)
    (by decide +kernel)
  have hstep := orDefault_toText market.amountStep "0.00000001"
  show SymbolLotSizeFilter.mk (orDefault (some (orDefault _ _)) _) (orDefault (some (orDefault _ _)) _)
    (orDefault (some (orDefault (market.amountPrecision.map Decimal.toText) _)) _) = _
  rw [hmin, hmax, market.amountPrecision_eq, Option.map_some, hstep, hstep]

end Filters

/-! ## Whole steps -/

section Steps

variable {step quantity : ℚ}

theorem largestMultiple_nonneg (hstep : 0 < step) (hqty : 0 ≤ quantity) :
    0 ≤ largestMultiple step quantity := by
  have hfloor : 0 ≤ ⌊quantity / step⌋ := Int.floor_nonneg.mpr (div_nonneg hqty hstep.le)
  exact mul_nonneg (Int.cast_nonneg hfloor) hstep.le

theorem largestMultiple_tolerance (hstep : 0 < step) :
    largestMultiple step (quantity + EPSILON * step) = largestMultiple step quantity ∨
      largestMultiple step (quantity + EPSILON * step) = largestMultiple step quantity + step := by
  have hdiv : (quantity + EPSILON * step) / step = quantity / step + EPSILON := by
    rw [add_div, mul_div_cancel_right₀ _ hstep.ne']
  have hpos : 0 ≤ EPSILON := by decide +kernel
  have hone : EPSILON < 1 := by decide +kernel
  have hlower : ⌊quantity / step⌋ ≤ ⌊quantity / step + EPSILON⌋ :=
    Int.floor_le_floor (le_add_of_nonneg_right hpos)
  have hupper : ⌊quantity / step + EPSILON⌋ < ⌊quantity / step⌋ + 2 := by
    rw [Int.floor_lt]
    push_cast
    linarith [Int.lt_floor_add_one (quantity / step)]
  unfold largestMultiple
  rw [hdiv]
  rcases (show ⌊quantity / step + EPSILON⌋ = ⌊quantity / step⌋ ∨
      ⌊quantity / step + EPSILON⌋ = ⌊quantity / step⌋ + 1 by omega) with h | h
  · exact .inl (by rw [h])
  · refine .inr ?_
    rw [h]
    push_cast
    ring

end Steps

/-! ## The adjustment -/

section Adjust

variable (order : PositiveOrder) (market : SteppedMarket)

def taken : ℚ :=
  largestMultiple market.amountStep.value
    (order.requested.value + EPSILON * market.amountStep.value)

variable {order market}

theorem wanted_nonneg : 0 ≤ wanted order market :=
  largestMultiple_nonneg market.amountStep_pos order.requested_pos.le

theorem taken_eq_or : taken order market = wanted order market ∨
    taken order market = wanted order market + market.amountStep.value :=
  largestMultiple_tolerance market.amountStep_pos

theorem taken_nonneg : 0 ≤ taken order market := by
  refine largestMultiple_nonneg market.amountStep_pos (add_nonneg order.requested_pos.le ?_)
  exact mul_nonneg (by decide +kernel) market.amountStep_pos.le

theorem taken_eq : taken order market =
    ⌊order.requested.value / market.amountStep.value + EPSILON⌋ * market.amountStep.value := by
  rw [taken, largestMultiple, add_div, mul_div_cancel_right₀ _ market.amountStep_pos.ne']

theorem calculateMaxQuantity_eq (order : PositiveOrder) (market : SteppedMarket) :
    ∃ product : Decimal, product.value = taken order market ∧
      calculateMaxQuantity (some order.requested) market.amountStep.toText =
        (Js.toFixedText product market.stepDecimals).map Js.toNumber := by
  obtain ⟨step, hparse, hvalue⟩ := Option.map_eq_some_iff.mp
    (Js.parseFloat_of_readsAs (Js.readsAs_toText market.amountStep))
  have hscale : (10 : ℚ) ^ market.stepDecimals ≠ 0 := by positivity
  have hscaled : step.value * (10 : ℚ) ^ market.stepDecimals ≠ 0 := by
    rw [hvalue]
    exact mul_ne_zero market.amountStep_pos.ne' hscale
  refine ⟨{ step with
    mantissa := ⌊order.requested.value / step.value + EPSILON⌋ * step.mantissa }, ?_, ?_⟩
  · rw [taken_eq, ← hvalue]
    unfold Decimal.value
    push_cast
    rw [mul_assoc]
  · have hdiv : order.requested.value * (10 : ℚ) ^ market.stepDecimals /
        (step.value * (10 : ℚ) ^ market.stepDecimals) = order.requested.value / step.value :=
      mul_div_mul_right _ _ hscale
    unfold calculateMaxQuantity
    dsimp only
    rw [hparse, Option.bind_some, Option.bind_some]
    show (Number.toFixed (if step.value * (10 : ℚ) ^ market.stepDecimals = 0 then none else
      some { step with mantissa := ⌊order.requested.value * (10 : ℚ) ^ market.stepDecimals /
        (step.value * (10 : ℚ) ^ market.stepDecimals) + EPSILON⌋ * step.mantissa })
        market.stepDecimals).map Js.toNumber = _
    rw [if_neg hscaled, hdiv]
    rfl

theorem calculateMaxQuantity_ok (h : market.stepDecimals ≤ 100) :
    ∃ y : Decimal,
      calculateMaxQuantity (some order.requested) market.amountStep.toText = .ok (some y) ∧
        y.value = roundTo market.stepDecimals (taken order market) := by
  obtain ⟨product, hvalue, heq⟩ := calculateMaxQuantity_eq order market
  obtain ⟨_, hfixed, hreads⟩ := @Js.toFixed_spec product market.stepDecimals
    (hvalue ▸ taken_nonneg) (Int.natCast_nonneg _) (by exact_mod_cast h)
  obtain ⟨y, hnum, hy⟩ := Option.map_eq_some_iff.mp (Js.toNumber_of_readsAs hreads)
  refine ⟨y, ?_, ?_⟩
  · rw [heq, hfixed, Except.map, hnum]
  · rw [hy, hvalue, Int.toNat_natCast]

theorem calculateMaxQuantity_error (h : ¬ market.stepDecimals ≤ 100) :
    calculateMaxQuantity (some order.requested) market.amountStep.toText =
      .error .fractionDigits := by
  obtain ⟨_, -, heq⟩ := calculateMaxQuantity_eq order market
  have hrange : (market.stepDecimals : ℤ) < 0 ∨ 100 < (market.stepDecimals : ℤ) := by omega
  rw [heq, Js.toFixedText, if_pos hrange]
  rfl

theorem lt_eq_decide {x y : Number} {a b : ℚ} (hx : x.map Decimal.value = some a)
    (hy : y.map Decimal.value = some b) : Number.lt x y = decide (a < b) := by
  obtain ⟨x, rfl, rfl⟩ := Option.map_eq_some_iff.mp hx
  obtain ⟨y, rfl, rfl⟩ := Option.map_eq_some_iff.mp hy
  rfl

def adjusted (order : PositiveOrder) (market : SteppedMarket) : Except OrderException Text :=
  validateAndAdjustQuantity (some order.requested) (getSymbolFilters market.symbolInfo.filters)
    market.symbolInfo.quotePrecision

theorem adjusted_eq {y : Decimal}
    (h : calculateMaxQuantity (some order.requested) market.amountStep.toText = .ok (some y)) :
    ((¬ market.InRange y.value) → ∃ exception, adjusted order market = .error exception ∧
      exception.ofQuantity = true) ∧
    (market.InRange y.value → adjusted order market =
      (Js.toFixedText y market.printedDecimals).mapError .range) := by
  have hmin := @parse_orDefault "0.00000100" (1 / 1000000) market.amountLimits.min
    (by decide +kernel)
  have hmax := @parse_orDefault "9000000" 9000000 market.amountLimits.max (by decide +kernel)
  have hprt : toInteger market.symbolInfo.quotePrecision = market.printedDecimals := by
    show toInteger market.pricePrecision = _
    rw [market.pricePrecision_eq]
    exact if_pos market.priceStep_pos.le
  have hbelow := lt_eq_decide (x := some y) rfl hmin
  have habove := lt_eq_decide (y := some y) hmax rfl
  have hadj : adjusted order market =
      if Number.lt (some y) (Js.parseFloat
          (orDefault (market.amountLimits.min.map Decimal.toText) "0.00000100")) then
        .error (.orderSize .min (some y) (Js.parseFloat
          (orDefault (market.amountLimits.min.map Decimal.toText) "0.00000100")) "quantity")
      else if Number.lt (Js.parseFloat
          (orDefault (market.amountLimits.max.map Decimal.toText) "9000000")) (some y) then
        .error (.orderSize .max (some y) (Js.parseFloat
          (orDefault (market.amountLimits.max.map Decimal.toText) "9000000")) "quantity")
      else (Js.toFixedText y market.printedDecimals).mapError .range := by
    unfold adjusted validateAndAdjustQuantity
    rw [lotSizeFilter_eq, hprt]
    dsimp only
    rw [h]
    rfl
  rw [hadj, hbelow, habove]
  constructor
  · intro hout
    split_ifs with hlow hhigh
    · exact ⟨_, rfl, rfl⟩
    · exact ⟨_, rfl, rfl⟩
    · refine absurd ⟨?_, ?_⟩ hout
      · exact not_lt.mp fun hlt => hlow (decide_eq_true hlt)
      · exact not_lt.mp fun hlt => hhigh (decide_eq_true hlt)
  · rintro ⟨hlow, hhigh⟩
    rw [if_neg fun hlt => not_lt.mpr hlow (of_decide_eq_true hlt),
      if_neg fun hlt => not_lt.mpr hhigh (of_decide_eq_true hlt)]

/-- Few enough decimals are asked for, and the rounded multiple is in range. -/
structure Adjusts (order : PositiveOrder) (market : SteppedMarket) : Prop where
  stepDecimals_le : market.stepDecimals ≤ 100
  printedDecimals_le : market.printedDecimals ≤ 100
  inRange : market.InRange (roundTo market.stepDecimals (taken order market))

theorem adjust_ok (h : Adjusts order market) :
    ∃ text, adjusted order market = .ok text ∧ ReadsAs text
      (roundTo market.printedDecimals.toNat (roundTo market.stepDecimals (taken order market))) := by
  obtain ⟨y, hqty, hy⟩ := @calculateMaxQuantity_ok order market h.stepDecimals_le
  have hprt := (adjusted_eq hqty).2 (hy ▸ h.inRange)
  have hnn : 0 ≤ y.value := hy ▸ Js.roundTo_nonneg _ taken_nonneg
  obtain ⟨text, hfixed, hreads⟩ := @Js.toFixed_spec y market.printedDecimals hnn
    (Int.floor_nonneg.mpr market.priceStep_pos.le) h.printedDecimals_le
  refine ⟨text, ?_, hy ▸ hreads⟩
  rw [hprt, hfixed]
  rfl

theorem adjust_error (h : ¬ Adjusts order market) :
    ∃ exception, adjusted order market = .error exception ∧ exception.ofQuantity = true := by
  by_cases hstep : market.stepDecimals ≤ 100
  · obtain ⟨y, hqty, hy⟩ := @calculateMaxQuantity_ok order market hstep
    by_cases hrange : market.InRange y.value
    · have hprt : ¬ market.printedDecimals ≤ 100 := fun hprt =>
        h ⟨hstep, hprt, hy ▸ hrange⟩
      rw [(adjusted_eq hqty).2 hrange, Js.toFixedText, if_pos (Or.inr (not_le.mp hprt))]
      exact ⟨_, rfl, rfl⟩
    · exact (adjusted_eq hqty).1 hrange
  · refine ⟨.range .fractionDigits, ?_, rfl⟩
    unfold adjusted validateAndAdjustQuantity
    rw [lotSizeFilter_eq]
    dsimp only
    rw [calculateMaxQuantity_error hstep]
    rfl

end Adjust

/-! ## Exact lots -/

/-- The largest multiple is printed as it is, or is out of range even when it is rounded. -/
structure LotKept (order : PositiveOrder) (market : SteppedMarket) : Prop where
  /-- In range, the largest multiple has the decimals of both roundings, and no further step is taken
  with the tolerance, unless it is rounded away. -/
  inRange : market.InRange (wanted order market) →
    (market.stepDecimals ≤ 100 ∧ market.printedDecimals ≤ 100) ∧
      (Fits market.stepDecimals (wanted order market) ∧
        Fits market.printedDecimals.toNat (wanted order market)) ∧
      (taken order market = wanted order market ∨
        (taken order market < 10 ^ 21 ∧
          roundTo market.printedDecimals.toNat
            (roundTo market.stepDecimals market.amountStep.value) = 0) ∧
          market.InRange (wanted order market +
            roundTo market.stepDecimals market.amountStep.value))
  outOfRange : ¬ market.InRange (wanted order market) →
    market.stepDecimals ≤ 100 → market.printedDecimals ≤ 100 →
      ¬ market.InRange (roundTo market.stepDecimals (taken order market))

section Exact

variable {order : PositiveOrder} {orderType : OrderType} {market : SteppedMarket}

theorem validateExchangeOrder_of_admitted (h : Admitted order orderType market) :
    validateExchangeOrder order.toOrderDto orderType market.symbolInfo =
      (adjusted order market).map fun text => { order.toOrderDto with quantity := text } := by
  unfold validateExchangeOrder
  rw [h]
  show (do
    let text ← validateAndAdjustQuantity (Js.parseFloat order.quantity)
      (getSymbolFilters market.symbolInfo.filters) market.symbolInfo.quotePrecision
    pure { order.toOrderDto with quantity := text }) = _
  rw [order.quantity_eq]
  rfl

variable {exception : OrderException}

theorem validatePrice_error {price : Number} {filters : SymbolValidationFilters}
    (h : validatePrice price filters = .error exception) : exception.ofQuantity = false := by
  unfold validatePrice at h
  dsimp only at h
  split_ifs at h
  · cases h
    rfl
  · cases h
    rfl
  · cases h
    rfl

theorem validateSymbolStatus_error {info : SymbolInfo}
    (h : validateSymbolStatus info = .error exception) : exception.ofQuantity = false := by
  unfold validateSymbolStatus at h
  split_ifs at h
  · cases h
    rfl
  · cases h
    rfl

theorem validateBeforeQuantity_error {dto : OrderDto} {info : SymbolInfo}
    (h : validateBeforeQuantity dto orderType info = .error exception) :
    exception.ofQuantity = false := by
  unfold validateBeforeQuantity at h
  cases hstat : validateSymbolStatus info with
  | error =>
    rw [hstat] at h
    cases h
    exact validateSymbolStatus_error hstat
  | ok =>
    rw [hstat] at h
    cases hprice : dto.price.filter (· ≠ []) with
    | none =>
      rw [hprice] at h
      cases h
    | some text =>
      rw [hprice] at h
      by_cases hlimit : orderType = .limit
      · cases hvalid : validatePrice (Js.parseFloat text) (getSymbolFilters info.filters) with
        | error =>
          dsimp only at h
          rw [if_pos hlimit, hvalid] at h
          cases h
          exact validatePrice_error hvalid
        | ok =>
          dsimp only at h
          rw [if_pos hlimit, hvalid] at h
          dsimp only [bind, Except.bind] at h
          split_ifs at h
          · cases h
            rfl
          · cases h
      · dsimp only at h
        rw [if_neg hlimit] at h
        cases h

theorem lotExact_of_adjusts (hadm : Admitted order orderType market) (h : Adjusts order market) :
    LotExact order orderType market ↔
      roundTo market.printedDecimals.toNat (roundTo market.stepDecimals (taken order market)) =
          wanted order market ∧
        market.InRange (wanted order market) := by
  obtain ⟨_, hok, hreads⟩ := adjust_ok h
  have hparse := Js.parseFloat_of_readsAs hreads
  have hres := validateExchangeOrder_of_admitted hadm
  rw [hok] at hres
  constructor
  · intro hexact
    obtain ⟨hvalue, hrange⟩ := hexact.returned _ hres
    exact ⟨Option.some.inj (hparse.symm.trans hvalue), hrange⟩
  · rintro ⟨hvalue, hrange⟩
    refine ⟨fun order' horder' => ?_, fun exception hexception => ?_⟩
    · cases (hres.symm.trans horder')
      exact ⟨hvalue ▸ hparse, hrange⟩
    · cases hres.symm.trans hexception

theorem lotExact_of_not_adjusts (hadm : Admitted order orderType market)
    (h : ¬ Adjusts order market) :
    LotExact order orderType market ↔ ¬ market.InRange (wanted order market) := by
  obtain ⟨exception, herror, hqty⟩ := adjust_error h
  have hres := validateExchangeOrder_of_admitted hadm
  rw [herror] at hres
  constructor
  · intro hexact
    exact hexact.rejected exception hres hqty
  · intro hrange
    refine ⟨fun order' horder' => ?_, fun _ _ _ => hrange⟩
    cases hres.symm.trans horder'

theorem lotExact_of_not_admitted (h : ¬ Admitted order orderType market) :
    LotExact order orderType market := by
  cases hbef : validateBeforeQuantity order.toOrderDto orderType market.symbolInfo with
  | ok => exact absurd hbef h
  | error e =>
    have hres : validateExchangeOrder order.toOrderDto orderType market.symbolInfo =
        .error e := by
      unfold validateExchangeOrder
      rw [hbef]
      rfl
    refine ⟨fun order' horder' => ?_, fun exception hexception hqty => ?_⟩
    · cases hres.symm.trans horder'
    · obtain rfl := Except.error.inj (hres.symm.trans hexception)
      rw [validateBeforeQuantity_error hbef] at hqty
      cases hqty

theorem rounded_eq_iff :
    roundTo market.printedDecimals.toNat (roundTo market.stepDecimals (taken order market)) =
        wanted order market ↔
      (Fits market.stepDecimals (wanted order market) ∧
        Fits market.printedDecimals.toNat (wanted order market)) ∧
      (taken order market = wanted order market ∨
        (taken order market < 10 ^ 21 ∧
          roundTo market.printedDecimals.toNat
            (roundTo market.stepDecimals market.amountStep.value) = 0)) := by
  have hstep := market.amountStep_pos
  rcases @taken_eq_or order market with htaken | htaken
  · rw [htaken, Js.roundTo_roundTo_eq_self_iff wanted_nonneg]
    exact (and_iff_left (Or.inl rfl)).symm
  · have hne : ¬ wanted order market + market.amountStep.value = wanted order market := by
      rw [add_eq_left]
      exact hstep.ne'
    rw [htaken, Js.roundTo_roundTo_add_eq_iff wanted_nonneg hstep, or_iff_right hne]

theorem roundTo_taken (hfits : Fits market.stepDecimals (wanted order market))
    (hsmall : taken order market < 10 ^ 21) (hne : taken order market ≠ wanted order market) :
    roundTo market.stepDecimals (taken order market) =
      wanted order market + roundTo market.stepDecimals market.amountStep.value := by
  have htaken := taken_eq_or.resolve_left hne
  rw [htaken] at hsmall ⊢
  have hwanted : wanted order market < 10 ^ 21 :=
    (lt_add_of_pos_right _ market.amountStep_pos).trans hsmall
  obtain ⟨n, hn⟩ := hfits.resolve_left (not_le.mpr hwanted)
  exact Js.roundTo_add hn wanted_nonneg hsmall

/-- **The lot of an order is exact** exactly if its largest multiple is kept, unless the order is
rejected before that. -/
theorem lotExact_iff (order : PositiveOrder) (orderType : OrderType) (market : SteppedMarket) :
    LotExact order orderType market ↔ (Admitted order orderType market → LotKept order market) := by
  by_cases hadmitted : Admitted order orderType market
  · rw [forall_prop_of_true hadmitted]
    by_cases hadjusts : Adjusts order market
    · rw [lotExact_of_adjusts hadmitted hadjusts]
      constructor
      · rintro ⟨hrounded, hrange⟩
        obtain ⟨hfits, htaken⟩ := rounded_eq_iff.mp hrounded
        refine ⟨fun _ => ⟨⟨hadjusts.stepDecimals_le, hadjusts.printedDecimals_le⟩, hfits, ?_⟩,
          fun hout => absurd hrange hout⟩
        by_cases heq : taken order market = wanted order market
        · exact .inl heq
        · have hlost := htaken.resolve_left heq
          exact .inr ⟨hlost, roundTo_taken hfits.1 hlost.1 heq ▸ hadjusts.inRange⟩
      · intro hkept
        by_cases hrange : market.InRange (wanted order market)
        · obtain ⟨-, hfits, htaken⟩ := hkept.inRange hrange
          exact ⟨rounded_eq_iff.mpr ⟨hfits, htaken.imp_right And.left⟩, hrange⟩
        · exact absurd hadjusts.inRange (hkept.outOfRange hrange hadjusts.stepDecimals_le
            hadjusts.printedDecimals_le)
    · rw [lotExact_of_not_adjusts hadmitted hadjusts]
      constructor
      · intro hout
        exact ⟨fun hrange => absurd hrange hout, fun _ hstep hprinted hrange =>
          hadjusts ⟨hstep, hprinted, hrange⟩⟩
      · intro hkept hrange
        obtain ⟨⟨hstep, hprinted⟩, hfits, htaken⟩ := hkept.inRange hrange
        refine hadjusts ⟨hstep, hprinted, ?_⟩
        by_cases heq : taken order market = wanted order market
        · rw [heq, Js.roundTo_of_fits wanted_nonneg hfits.1]
          exact hrange
        · obtain ⟨hlost, hstays⟩ := htaken.resolve_left heq
          rw [roundTo_taken hfits.1 hlost.1 heq]
          exact hstays
  · exact iff_of_true (lotExact_of_not_admitted hadmitted) fun h => absurd h hadmitted

end Exact

def thousandths : SteppedMarket where
  id := "BTCUSDT".toList
  active := true
  pricePrecision := some ⟨1, -2⟩
  amountPrecision := some ⟨1, -3⟩
  priceStep := ⟨1, -2⟩
  amountStep := ⟨1, -3⟩
  pricePrecision_eq := rfl
  amountPrecision_eq := rfl
  priceStep_pos := by decide +kernel
  amountStep_pos := by decide +kernel

def satoshis : SteppedMarket where
  id := "BTCUSDT".toList
  active := true
  pricePrecision := some ⟨1, -2⟩
  amountPrecision := some ⟨1, -8⟩
  priceStep := ⟨1, -2⟩
  amountStep := ⟨1, -8⟩
  pricePrecision_eq := rfl
  amountPrecision_eq := rfl
  priceStep_pos := by decide +kernel
  amountStep_pos := by decide +kernel

def smallOrder : PositiveOrder where
  quantity := "0.123".toList
  price := none
  requested := ⟨123, -3⟩
  quantity_eq := by decide +kernel
  requested_pos := by decide +kernel

theorem small_lost :
    wanted smallOrder thousandths = 123 / 1000 ∧ thousandths.InRange (123 / 1000) ∧
      validateExchangeOrder smallOrder.toOrderDto .market thousandths.symbolInfo =
        .ok { quantity := "0".toList, price := none } ∧
      (Js.parseFloat "0".toList).map Decimal.value = some 0 ∧
      wanted smallOrder satoshis = 123 / 1000 ∧ satoshis.InRange (123 / 1000) ∧
      validateExchangeOrder smallOrder.toOrderDto .market satoshis.symbolInfo =
        .error (.orderSize .min (some ⟨0, 0⟩) (some ⟨100, -8⟩) "quantity") := by
  have hrange : (1 / 1000000 : ℚ) ≤ 123 / 1000 ∧ (123 / 1000 : ℚ) ≤ 9000000 := by decide +kernel
  exact ⟨by decide +kernel, hrange, by decide +kernel, by decide +kernel, by decide +kernel, hrange,
    by decide +kernel⟩

end Chansey.OrderValidation
