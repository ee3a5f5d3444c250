import Chansey.PortfolioService.Apply

/-!
# Closing a short, three times over

The portfolio service, the position manager and the trade executor each close shorts.
-/

namespace Chansey

open Result

/-! ## The position manager -/

structure ClosePositionInput where
  price : ℚ
  quantity : Option ℚ := none
  percentage : Option ℚ := none
  confidence : Option ℚ := none

structure PositionActionResult where
  success : Bool
  position : Option Position := none
  realizedPnL : Option ℚ := none
  realizedPnLPercent : Option ℚ := none
  costBasis : Option ℚ := none
  quantity : ℚ
  price : ℚ
  totalValue : ℚ
  error : Option String := none
  marginAmount : Option ℚ := none
  liquidationPrice : Option ℚ := none

inductive PositionErrorCode where
  | zeroQuantity | negativeQuantity | noPosition | invalidPrice

structure PositionValidationError where
  code : PositionErrorCode
  message : String

def failureResult (price : ℚ) (error : String) : PositionActionResult where
  success := false
  quantity := 0
  price := price
  totalValue := 0
  error := some error

def validateQuantity (quantity : Option ℚ) : Option PositionValidationError :=
  match quantity with
  | none => none
  | some q =>
    if q = 0 then some ⟨.zeroQuantity, "Quantity must be greater than zero"⟩
    else if q < 0 then some ⟨.negativeQuantity, "Quantity cannot be negative"⟩
    else none

/-- `validatePosition` with the action `close`. -/
def validateClose (position : Position) (input : ClosePositionInput) :
    Option PositionValidationError :=
  if input.price ≤ 0 then some ⟨.invalidPrice, "Price must be greater than zero"⟩
  else if position.quantity = 0 then some ⟨.noPosition, "No position to close"⟩
  else validateQuantity input.quantity

def CONFIDENCE_EXIT_MIN_PERCENT : ℚ := 25 / 100
def CONFIDENCE_EXIT_MAX_PERCENT : ℚ := 1

def resolveCloseQuantity (input : ClosePositionInput) (positionQuantity : ℚ) : ℚ :=
  match input.quantity.filter (0 < ·), input.percentage.filter (0 < ·), input.confidence with
  | some quantity, _, _ => min quantity positionQuantity
  | none, some percentage, _ => positionQuantity * min 1 percentage
  | none, none, some confidence =>
    positionQuantity * (CONFIDENCE_EXIT_MIN_PERCENT +
      confidence * (CONFIDENCE_EXIT_MAX_PERCENT - CONFIDENCE_EXIT_MIN_PERCENT))
  | none, none, none => positionQuantity

/-- The side of the position is not looked at, and its entry date does not go into what remains. -/
def closeShort (position : Position) (input : ClosePositionInput) : PositionActionResult :=
  match validateClose position input with
  | some validation => failureResult input.price validation.message
  | none =>
    let quantity := min (resolveCloseQuantity input position.quantity) position.quantity
    let costBasis := position.averagePrice
    let realizedPnL := (costBasis - input.price) * quantity
    let realizedPnLPercent := if 0 < costBasis then (costBasis - input.price) / costBasis else 0
    let returnedMargin := position.marginAmount.getD 0 * (quantity / position.quantity)
    let cappedPnL := max (-returnedMargin) realizedPnL
    let remainingQuantity := position.quantity - quantity
    let remainingMargin := position.marginAmount.getD 0 - returnedMargin
    { success := true
      position :=
        if 0 < remainingQuantity then
          some
            { quantity := remainingQuantity
              averagePrice := position.averagePrice
              totalValue :=
                remainingMargin + (position.averagePrice - input.price) * remainingQuantity
              side := some .short
              leverage := position.leverage
              marginAmount := some remainingMargin
              liquidationPrice := position.liquidationPrice }
        else none
      realizedPnL := some cappedPnL
      realizedPnLPercent := some realizedPnLPercent
      costBasis := some costBasis
      quantity := quantity
      price := input.price
      totalValue := returnedMargin
      marginAmount := some returnedMargin
      liquidationPrice := position.liquidationPrice }

/-! ## Closing in parts -/

def remainingShort (existing : Position) (quantity price : ℚ) : Position :=
  { existing with
    quantity := existing.quantity - quantity
    marginAmount := some (existing.marginAmount.getD 0 - returnedMargin existing quantity)
    totalValue := existing.marginAmount.getD 0 - returnedMargin existing quantity +
      (existing.averagePrice - price) * (existing.quantity - quantity) }

section Parts

variable {existing : Position} {quantity first second price : ℚ}

theorem returnedMargin_remaining (hfirst : existing.quantity - first ≠ 0)
    (hqty : existing.quantity ≠ 0) :
    returnedMargin (remainingShort existing first price) second =
      returnedMargin existing second := by
  simp only [returnedMargin, remainingShort, Option.getD_some]
  field_simp

theorem returnedMargin_add :
    returnedMargin existing (first + second) =
      returnedMargin existing first + returnedMargin existing second := by
  simp only [returnedMargin, add_div]
  ring

theorem shortPnL_share (hqty : 0 ≤ quantity) :
    (calculateShortPnL price existing.averagePrice quantity
      (returnedMargin existing quantity)).realizedPnL =
      quantity * max (-(existing.marginAmount.getD 0 / existing.quantity))
        (existing.averagePrice - price) := by
  have hloss : -(existing.marginAmount.getD 0 * (quantity / existing.quantity)) =
      quantity * -(existing.marginAmount.getD 0 / existing.quantity) := by ring
  rw [mul_max_of_nonneg _ _ hqty, ← hloss, mul_comm quantity]
  rfl

theorem shortPnL_add (hfirst : 0 ≤ first) (hsec : 0 ≤ second) :
    (calculateShortPnL price existing.averagePrice (first + second)
      (returnedMargin existing (first + second))).realizedPnL =
      (calculateShortPnL price existing.averagePrice first
        (returnedMargin existing first)).realizedPnL +
      (calculateShortPnL price existing.averagePrice second
        (returnedMargin existing second)).realizedPnL := by
  rw [shortPnL_share hfirst, shortPnL_share hsec, shortPnL_share (add_nonneg hfirst hsec)]
  ring

theorem returnedMargin_nonneg (hmarg : 0 ≤ existing.margin) (hexisting : 0 < existing.quantity)
    (hqty : 0 ≤ quantity) : 0 ≤ returnedMargin existing quantity :=
  mul_nonneg hmarg (div_nonneg hqty hexisting.le)

theorem margin_remaining (hmarg : 0 ≤ existing.margin) (hexisting : 0 < existing.quantity)
    (hle : first ≤ existing.quantity) : 0 ≤ (remainingShort existing first price).margin := by
  have hshare : first / existing.quantity ≤ 1 := (div_le_one hexisting).mpr hle
  simp only [Position.margin, remainingShort, Option.getD_some, returnedMargin]
  have := mul_le_of_le_one_right hmarg hshare
  rw [Position.margin] at this
  linarith

theorem max_zero_sub {a r : ℚ} (hr : 0 ≤ r) : max 0 (max 0 a - r) = max 0 (a - r) := by
  rcases le_total 0 a with ha | ha
  · rw [max_eq_right ha]
  · rw [max_eq_left ha, max_eq_left (by linarith), max_eq_left (by linarith)]

theorem bookCloseShort_parts (portfolio : Portfolio) (coinId : CoinId)
    (hmarg : 0 ≤ existing.margin) (hfirst : 0 < first) (hsec : 0 < second)
    (hle : first + second ≤ existing.quantity) :
    bookCloseShort (bookCloseShort portfolio coinId existing first price) coinId
        (remainingShort existing first price) second price =
      bookCloseShort portfolio coinId existing (first + second) price := by
  have hexisting : 0 < existing.quantity := by linarith
  have hleft : 0 < existing.quantity - first := by linarith
  have hretd : returnedMargin (remainingShort existing first price) second =
      returnedMargin existing second := returnedMargin_remaining hleft.ne' hexisting.ne'
  have hpnl := @shortPnL_add existing first second price hfirst.le hsec.le
  have hsum := @returnedMargin_add existing first second
  have hnn := returnedMargin_nonneg hmarg hexisting hsec.le
  rw [hsum] at hpnl
  simp only [bookCloseShort, hretd]
  rw [if_neg (not_le.mpr hleft)]
  simp only [remainingShort, hpnl, hsum, OrdMap.erase_set, OrdMap.set_set, Option.getD_some]
  congr 1
  · ring
  · have hrem : existing.quantity - first - second = existing.quantity - (first + second) := by
      ring
    rw [hrem]
    split_ifs with hdone
    · rfl
    · congr 2
      · ring
      · ring_nf
  · rw [max_zero_sub hnn, sub_sub]

end Parts

/-! ## The three on one short -/

def ExecuteTradeParams.closing (params : ExecuteTradeParams) (coinId : CoinId) (quantity : ℚ) :
    ExecuteTradeParams :=
  { params with
    signal :=
      { params.signal with action := .closeShort, coinId := coinId, quantity := some quantity }
    slippageConfig := { type := .none } }

section One

variable {portfolio : Portfolio} {coinId : CoinId} {position : Position} {quantity price fee : ℚ}

theorem applySlippageAndFill_closing (math : Js.Math) (params : ExecuteTradeParams)
    (isBuy : Bool) (cap : Option ℚ) (hprice : 0 < price) :
    applySlippageAndFill math (params.closing coinId quantity) price quantity isBuy cap =
      .ok (.filled ⟨0, price, quantity, .filled, none⟩) := by
  have hbps : calculateSlippageBps math quantity price
      (SlippageConfig.build { type := .none }) params.dailyVolume params.spreadContext = 0 := by
    simp [calculateSlippageBps, SlippageConfig.build]
  have hslip : applySlippage price 0 isBuy = price := by cases isBuy <;> simp [applySlippage]
  simp only [applySlippageAndFill, calculateSlippage, ExecuteTradeParams.closing,
    if_neg (not_le.mpr hprice), hbps, hslip, ok_bind]
  simp [assessFillability, SlippageConfig.build]

def closeShortResult (position : Position) (quantity price : ℚ) : ActionResult where
  quantity := quantity
  totalValue := returnedMargin position quantity
  slippageBps := 0
  price := price
  fillStatus := .filled
  requestedQuantity := none
  realizedPnL := some (calculateShortPnL price position.averagePrice quantity
    (returnedMargin position quantity)).realizedPnL
  realizedPnLPercent := some (calculateShortPnL price position.averagePrice quantity
    (returnedMargin position quantity)).realizedPnLPercent
  costBasis := some position.averagePrice
  positionSide := some .short
  leverage := position.leverage
  liquidationPrice := position.liquidationPrice
  marginUsed := some (returnedMargin position quantity)

theorem executeCloseShort_closing (math : Js.Math) (params : ExecuteTradeParams)
    (hget : portfolio.positions.get? coinId = some position) (hside : position.side = some .short)
    (hqty : 0 < quantity) (hle : quantity ≤ position.quantity) (hprice : 0 < price) :
    executeCloseShort math (params.closing coinId quantity) price portfolio =
      .ok (.filled (closeShortResult position quantity price)
        (bookCloseShort portfolio coinId position quantity price)) := by
  have hpos : position.quantity ≠ 0 := (hqty.trans_le hle).ne'
  have hsized : (calculateSellQuantity (params.closing coinId quantity).signal
      position.quantity).quantity = quantity := by
    simp [calculateSellQuantity, ExecuteTradeParams.closing, Js.truthy?_some, hqty.ne', hle]
  have hcoin : (params.closing coinId quantity).signal.coinId = coinId := rfl
  unfold executeCloseShort
  simp only [hcoin, hget, hside, hpos, ne_eq, not_true_eq_false, or_self, if_false, hsized]
  rw [applySlippageAndFill_closing math params true _ hprice]
  rfl

theorem closeShort_eq (hside : position.side = some .short) (hqty : 0 < quantity)
    (hle : quantity ≤ position.quantity) (hprice : 0 < price) :
    (closeShort position { price := price, quantity := some quantity }).success = true ∧
    (closeShort position { price := price, quantity := some quantity }).realizedPnL =
      some (calculateShortPnL price position.averagePrice quantity
        (returnedMargin position quantity)).realizedPnL ∧
    (closeShort position { price := price, quantity := some quantity }).marginAmount =
      some (returnedMargin position quantity) ∧
    (closeShort position { price := price, quantity := some quantity }).position =
      if 0 < position.quantity - quantity then
        some { remainingShort position quantity price with entryDate := none }
      else none := by
  have hpos : position.quantity ≠ 0 := (hqty.trans_le hle).ne'
  have hvalid : validateClose position { price := price, quantity := some quantity } = none := by
    simp [validateClose, validateQuantity, not_le.mpr hprice, hpos, hqty.ne', not_lt.mpr hqty.le]
  have hresolved : resolveCloseQuantity { price := price, quantity := some quantity }
      position.quantity = quantity := by
    simp [resolveCloseQuantity, Option.filter, hqty, hle]
  simp only [closeShort, hvalid, hresolved, min_eq_left hle]
  refine ⟨trivial, rfl, rfl, ?_⟩
  simp only [remainingShort, returnedMargin, hside]

theorem applyCloseShort_eq (currentPrices : Option (OrdMap CoinId ℚ))
    (hget : portfolio.positions.get? coinId = some position) (hside : position.side = some .short)
    (hqty : 0 < quantity) (hle : quantity ≤ position.quantity) :
    (applyCloseShort portfolio coinId quantity price fee currentPrices).success = true ∧
    (applyCloseShort portfolio coinId quantity price fee currentPrices).portfolio =
      settleFee (bookCloseShort portfolio coinId position quantity price) fee
        (currentPrices.getD (OrdMap.empty.set coinId price)) := by
  obtain ⟨-, hnone⟩ | ⟨p, hp, -, -, heq⟩ := applyCloseShort_cases portfolio coinId
    quantity price fee currentPrices
  · exact absurd (hnone position hget hside) (hqty.trans_le hle).ne'
  · obtain rfl : position = p := Option.some.inj (hget.symm.trans hp)
    rw [heq, min_eq_left hle]
    exact ⟨rfl, rfl⟩

theorem bookCloseShort_remaining (hleft : 0 < position.quantity - quantity) :
    (bookCloseShort portfolio coinId position quantity price).positions.get? coinId =
      some (remainingShort position quantity price) := by
  rw [bookCloseShort_get?, if_pos rfl, if_neg (not_le.mpr hleft)]
  rfl

theorem settleFee_bookCloseShort (later : ℚ) (prices : OrdMap CoinId ℚ) :
    settleFee (bookCloseShort (settleFee portfolio fee prices) coinId position quantity price) later
        prices =
      settleFee (bookCloseShort portfolio coinId position quantity price) (fee + later) prices := by
  simp only [settleFee, bookCloseShort]
  congr 1 <;> ring

end One

section Parts

variable {position : Position} {price : ℚ}

def serviceParts (portfolio : Portfolio) (coinId : CoinId) (price : ℚ)
    (currentPrices : Option (OrdMap CoinId ℚ)) (parts : List (ℚ × ℚ)) : Portfolio :=
  parts.foldl (fun portfolio part =>
    (applyCloseShort portfolio coinId part.1 price part.2 currentPrices).portfolio) portfolio

def executorParts (math : Js.Math) (params : ExecuteTradeParams) (portfolio : Portfolio)
    (coinId : CoinId) (price : ℚ) (parts : List (ℚ × ℚ)) : Except LoopError Portfolio :=
  parts.foldlM (fun portfolio part => do
    match ← executeCloseShort math (params.closing coinId part.1) price portfolio with
    | .filled _ after => return after
    | _ => return portfolio) portfolio

def managerParts (price : ℚ) : Position → List (ℚ × ℚ) → ℚ × ℚ
  | _, [] => (0, 0)
  | position, part :: parts =>
    let result := closeShort position { price := price, quantity := some part.1 }
    let rest := (result.position.map fun remaining => managerParts price remaining parts).getD (0, 0)
    (result.realizedPnL.getD 0 + rest.1, result.marginAmount.getD 0 + rest.2)

def partsQuantity (parts : List (ℚ × ℚ)) : ℚ := (parts.map (·.1)).sum

def partsFee (parts : List (ℚ × ℚ)) : ℚ := (parts.map (·.2)).sum

theorem partsQuantity_pos {parts : List (ℚ × ℚ)} (hpos : ∀ part ∈ parts, 0 < part.1)
    (hne : parts ≠ []) : 0 < partsQuantity parts := by
  refine List.sum_pos _ (fun q hq => ?_) (by simpa using hne)
  obtain ⟨part, hpart, rfl⟩ := List.mem_map.mp hq
  exact hpos part hpart

variable {coinId : CoinId}

theorem serviceParts_eq (currentPrices : Option (OrdMap CoinId ℚ)) (portfolio : Portfolio)
    (position : Position) (parts : List (ℚ × ℚ))
    (hget : portfolio.positions.get? coinId = some position) (hside : position.side = some .short)
    (hmarg : 0 ≤ position.margin) (hpos : ∀ part ∈ parts, 0 < part.1) (hne : parts ≠ [])
    (hle : partsQuantity parts ≤ position.quantity) :
    serviceParts portfolio coinId price currentPrices parts =
      (applyCloseShort portfolio coinId (partsQuantity parts) price (partsFee parts)
        currentPrices).portfolio := by
  induction parts generalizing portfolio position with
  | nil => exact absurd rfl hne
  | cons part rest ih =>
    have hfirst : 0 < part.1 := hpos part List.mem_cons_self
    have hrest : ∀ p ∈ rest, 0 < p.1 := fun p hp => hpos p (List.mem_cons_of_mem _ hp)
    cases rest with
    | nil => simp [serviceParts, partsQuantity, partsFee]
    | cons second rest =>
      have hmore := partsQuantity_pos hrest (List.cons_ne_nil second rest)
      have hqty : partsQuantity (part :: second :: rest) =
          part.1 + partsQuantity (second :: rest) := rfl
      have hfee : partsFee (part :: second :: rest) = part.2 + partsFee (second :: rest) := rfl
      have hleft : 0 < position.quantity - part.1 := by linarith
      set prices := currentPrices.getD (OrdMap.empty.set coinId price) with hprs
      have hone : (applyCloseShort portfolio coinId part.1 price part.2 currentPrices).portfolio =
          settleFee (bookCloseShort portfolio coinId position part.1 price) part.2 prices :=
        (applyCloseShort_eq currentPrices hget hside hfirst (by linarith)).2
      have hget' : (settleFee (bookCloseShort portfolio coinId position part.1 price) part.2
          prices).positions.get? coinId = some (remainingShort position part.1 price) :=
        bookCloseShort_remaining hleft
      have hall := ih (settleFee (bookCloseShort portfolio coinId position part.1 price) part.2
        prices) (remainingShort position part.1 price) hget' hside
        (margin_remaining hmarg (by linarith) (by linarith)) hrest (List.cons_ne_nil _ _)
        (show partsQuantity (second :: rest) ≤ position.quantity - part.1 by linarith)
      show serviceParts (applyCloseShort portfolio coinId part.1 price part.2
        currentPrices).portfolio coinId price currentPrices (second :: rest) = _
      rw [hone, hall, (applyCloseShort_eq currentPrices hget' hside hmore
        (show partsQuantity (second :: rest) ≤ position.quantity - part.1 by linarith)).2,
        settleFee_bookCloseShort,
        bookCloseShort_parts portfolio coinId hmarg hfirst hmore (by linarith), hqty, hfee,
        (applyCloseShort_eq currentPrices hget hside (by linarith) (by linarith)).2]

theorem executorParts_eq (math : Js.Math) (params : ExecuteTradeParams) (hprice : 0 < price)
    (portfolio : Portfolio) (position : Position) (parts : List (ℚ × ℚ))
    (hget : portfolio.positions.get? coinId = some position) (hside : position.side = some .short)
    (hmarg : 0 ≤ position.margin) (hpos : ∀ part ∈ parts, 0 < part.1) (hne : parts ≠ [])
    (hle : partsQuantity parts ≤ position.quantity) :
    executorParts math params portfolio coinId price parts =
      .ok (bookCloseShort portfolio coinId position (partsQuantity parts) price) := by
  induction parts generalizing portfolio position with
  | nil => exact absurd rfl hne
  | cons part rest ih =>
    have hfirst : 0 < part.1 := hpos part List.mem_cons_self
    have hrest : ∀ p ∈ rest, 0 < p.1 := fun p hp => hpos p (List.mem_cons_of_mem _ hp)
    cases rest with
    | nil =>
      have hqty : partsQuantity [part] = part.1 := by simp [partsQuantity]
      rw [hqty] at hle ⊢
      rw [executorParts, List.foldlM_cons, executeCloseShort_closing math params hget hside hfirst
        hle hprice]
      rfl
    | cons second rest =>
      have hmore := partsQuantity_pos hrest (List.cons_ne_nil second rest)
      have hqty : partsQuantity (part :: second :: rest) =
          part.1 + partsQuantity (second :: rest) := rfl
      have hleft : 0 < position.quantity - part.1 := by linarith
      have hall := ih (bookCloseShort portfolio coinId position part.1 price)
        (remainingShort position part.1 price) (bookCloseShort_remaining hleft) hside
        (margin_remaining hmarg (by linarith) (by linarith)) hrest (List.cons_ne_nil _ _)
        (show partsQuantity (second :: rest) ≤ position.quantity - part.1 by linarith)
      rw [executorParts, List.foldlM_cons, executeCloseShort_closing math params hget hside hfirst
        (by linarith) hprice, hqty,
        ← bookCloseShort_parts portfolio coinId hmarg hfirst hmore (by linarith)]
      exact hall

theorem managerParts_entryDate (position : Position) (date : Option Instant)
    (parts : List (ℚ × ℚ)) : managerParts price { position with entryDate := date } parts =
      managerParts price position parts := by
  cases parts <;> rfl

theorem managerParts_eq (hprice : 0 < price) (position : Position) (parts : List (ℚ × ℚ))
    (hside : position.side = some .short) (hmarg : 0 ≤ position.margin)
    (hpos : ∀ part ∈ parts, 0 < part.1) (hle : partsQuantity parts ≤ position.quantity) :
    managerParts price position parts =
      ((calculateShortPnL price position.averagePrice (partsQuantity parts)
        (returnedMargin position (partsQuantity parts))).realizedPnL,
        returnedMargin position (partsQuantity parts)) := by
  induction parts generalizing position with
  | nil => simp [managerParts, partsQuantity, calculateShortPnL, returnedMargin]
  | cons part rest ih =>
    have hfirst : 0 < part.1 := hpos part List.mem_cons_self
    have hrest : ∀ p ∈ rest, 0 < p.1 := fun p hp => hpos p (List.mem_cons_of_mem _ hp)
    have hqty : partsQuantity (part :: rest) = part.1 + partsQuantity rest := rfl
    have hmore : 0 ≤ partsQuantity rest := by
      rcases eq_or_ne rest [] with rfl | hne
      · simp [partsQuantity]
      · exact (partsQuantity_pos hrest hne).le
    obtain ⟨-, hpnl, hretd, hposn⟩ :=
      @closeShort_eq position part.1 price hside hfirst (by linarith) hprice
    rw [managerParts, hpnl, hretd, hposn, hqty, shortPnL_add hfirst.le hmore, returnedMargin_add]
    by_cases hleft : 0 < position.quantity - part.1
    · rw [if_pos hleft, Option.map_some, managerParts_entryDate,
        ih (remainingShort position part.1 price) hside
          (margin_remaining hmarg (by linarith) (by linarith)) hrest
          (show partsQuantity rest ≤ position.quantity - part.1 by linarith)]
      have hshare : returnedMargin (remainingShort position part.1 price) (partsQuantity rest) =
          returnedMargin position (partsQuantity rest) :=
        returnedMargin_remaining hleft.ne' (by linarith : 0 < position.quantity).ne'
      rw [hshare]
      rfl
    · -- the first part closed it all, and nothing is left for the others
      have hzero : partsQuantity rest = 0 := by linarith
      rw [if_neg hleft, hzero]
      simp [calculateShortPnL, returnedMargin]

end Parts

/-! ## Agreement -/

structure ShortClose where
  portfolio : Portfolio
  coinId : CoinId
  position : Position
  held : portfolio.positions.get? coinId = some position
  side_eq : position.side = some .short
  position_pos : 0 < position.quantity
  margin_nonneg : 0 ≤ position.margin
  quantity : ℚ
  quantity_pos : 0 < quantity
  quantity_le : quantity ≤ position.quantity
  price : ℚ
  price_pos : 0 < price
  fee : ℚ
  parts : List (ℚ × ℚ)
  parts_pos : ∀ part ∈ parts, 0 < part.1
  parts_sum : partsQuantity parts = position.quantity

namespace ShortClose

variable (c : ShortClose)

def service (currentPrices : Option (OrdMap CoinId ℚ)) : ApplyTradeResult :=
  applyCloseShort c.portfolio c.coinId c.quantity c.price c.fee currentPrices

def manager : PositionActionResult :=
  closeShort c.position { price := c.price, quantity := some c.quantity }

def wholeManager : PositionActionResult :=
  closeShort c.position { price := c.price, quantity := some c.position.quantity }

def executor (math : Js.Math) (params : ExecuteTradeParams) : Except LoopError ActionOutcome :=
  executeCloseShort math (params.closing c.coinId c.quantity) c.price c.portfolio

/-- The three implementations succeed, with one profit, one released margin, one change of cash
and of the margin in use, and one remaining position. The executor takes its fee afterwards. -/
def ClosesAgree (math : Js.Math) (params : ExecuteTradeParams)
    (currentPrices : Option (OrdMap CoinId ℚ)) : Prop :=
  ∃ result after profit margin,
    c.executor math params = .ok (.filled result after) ∧
    (c.service currentPrices).success = true ∧ c.manager.success = true ∧
    result.realizedPnL = some profit ∧ c.manager.realizedPnL = some profit ∧
    result.marginUsed = some margin ∧ c.manager.marginAmount = some margin ∧
    after.cashBalance = c.portfolio.cashBalance + (margin + profit) ∧
    (c.service currentPrices).portfolio.cashBalance =
      c.portfolio.cashBalance + (margin + profit) - c.fee ∧
    after.totalMarginUsed = max 0 (c.portfolio.totalMarginUsed - margin) ∧
    (c.service currentPrices).portfolio.totalMarginUsed = after.totalMarginUsed ∧
    (c.service currentPrices).portfolio.positions = after.positions ∧
    c.manager.position = after.positions.get? c.coinId

/-- Closing all of the short in parts at one price gives what one full close gives, in each of the
three. -/
def PartsAgree (math : Js.Math) (params : ExecuteTradeParams)
    (currentPrices : Option (OrdMap CoinId ℚ)) : Prop :=
  serviceParts c.portfolio c.coinId c.price currentPrices c.parts =
    (applyCloseShort c.portfolio c.coinId c.position.quantity c.price (partsFee c.parts)
      currentPrices).portfolio ∧
  (∃ result after, executeCloseShort math (params.closing c.coinId c.position.quantity) c.price
      c.portfolio = .ok (.filled result after) ∧
    executorParts math params c.portfolio c.coinId c.price c.parts = .ok after) ∧
  c.wholeManager.realizedPnL = some (managerParts c.price c.position c.parts).1 ∧
  c.wholeManager.marginAmount = some (managerParts c.price c.position c.parts).2

/-- No entry date is lost: the short has none, or nothing of it remains. -/
def LosesNoDate : Prop := c.position.entryDate = none ∨ c.quantity = c.position.quantity

variable (math : Js.Math) (params : ExecuteTradeParams)
  (currentPrices : Option (OrdMap CoinId ℚ))

theorem parts_agree : c.PartsAgree math params currentPrices := by
  have hne : c.parts ≠ [] := by
    intro hnil
    have hsum := c.parts_sum
    rw [hnil] at hsum
    exact c.position_pos.ne hsum
  have hle : partsQuantity c.parts ≤ c.position.quantity := c.parts_sum.le
  refine ⟨?_, ⟨_, _, executeCloseShort_closing math params c.held c.side_eq c.position_pos le_rfl
    c.price_pos, ?_⟩, ?_⟩
  · rw [serviceParts_eq currentPrices c.portfolio c.position c.parts c.held c.side_eq
      c.margin_nonneg c.parts_pos hne hle, c.parts_sum]
  · rw [executorParts_eq math params c.price_pos c.portfolio c.position c.parts c.held c.side_eq
      c.margin_nonneg c.parts_pos hne hle, c.parts_sum]
  · obtain ⟨-, hpnl, hretd, -⟩ := closeShort_eq c.side_eq c.position_pos le_rfl c.price_pos
    rw [wholeManager, managerParts_eq c.price_pos c.position c.parts c.side_eq c.margin_nonneg
      c.parts_pos hle, c.parts_sum]
    exact ⟨hpnl, hretd⟩

theorem remaining_agrees_iff :
    c.manager.position =
        (bookCloseShort c.portfolio c.coinId c.position c.quantity c.price).positions.get? c.coinId ↔
      c.LosesNoDate := by
  have hposn := (closeShort_eq c.side_eq c.quantity_pos c.quantity_le c.price_pos).2.2.2
  rw [manager, hposn, LosesNoDate]
  by_cases hleft : 0 < c.position.quantity - c.quantity
  · have hpartial : c.quantity ≠ c.position.quantity := by
      intro h
      rw [h, sub_self] at hleft
      exact lt_irrefl 0 hleft
    rw [if_pos hleft, bookCloseShort_remaining hleft, Option.some.injEq, or_iff_left hpartial]
    constructor
    · intro h
      exact (congrArg Position.entryDate h).symm
    · intro h
      rw [show (none : Option Instant) = (remainingShort c.position c.quantity c.price).entryDate
        from h.symm]
  · have hwhole : c.quantity = c.position.quantity := by
      have := c.quantity_le
      linarith
    rw [if_neg hleft, bookCloseShort_get?, if_pos rfl, if_pos (not_lt.mp hleft)]
    exact iff_of_true rfl (Or.inr hwhole)

theorem closesAgree_iff_remaining :
    c.ClosesAgree math params currentPrices ↔ c.manager.position =
      (bookCloseShort c.portfolio c.coinId c.position c.quantity c.price).positions.get? c.coinId := by
  have hexecutor : c.executor math params = .ok (.filled
      (closeShortResult c.position c.quantity c.price)
      (bookCloseShort c.portfolio c.coinId c.position c.quantity c.price)) :=
    executeCloseShort_closing math params c.held c.side_eq c.quantity_pos c.quantity_le c.price_pos
  constructor
  · rintro ⟨_, _, -, -, hfld, -, -, -, -, -, -, -, -, -, -, -, hposn⟩
    rw [hexecutor] at hfld
    cases hfld
    exact hposn
  · intro hposn
    obtain ⟨hsucc, hpnl, hretd, -⟩ :=
      closeShort_eq c.side_eq c.quantity_pos c.quantity_le c.price_pos
    obtain ⟨hok, hport⟩ := applyCloseShort_eq currentPrices c.held c.side_eq c.quantity_pos
      c.quantity_le
    refine ⟨_, _, _, _, hexecutor, hok, hsucc, rfl, hpnl, rfl, hretd, rfl, ?_, rfl, ?_, ?_, hposn⟩
    all_goals
      rw [service, hport]
      rfl

/-- **The three implementations agree on a close, and each of them on its parts, exactly when no
entry date is lost.** -/
theorem closes_agree_iff :
    (c.ClosesAgree math params currentPrices ∧ c.PartsAgree math params currentPrices) ↔
      c.LosesNoDate := by
  rw [and_iff_left (c.parts_agree math params currentPrices), ← c.remaining_agrees_iff]
  exact c.closesAgree_iff_remaining math params currentPrices

def datedClose : ShortClose where
  portfolio :=
    { cashBalance := 0
      positions := OrdMap.empty.set "btc"
        { quantity := 2, averagePrice := 100, totalValue := 200, entryDate := some 7,
          side := some .short, leverage := some 1, marginAmount := some 200 }
      totalValue := 200
      totalMarginUsed := 200 }
  coinId := "btc"
  position :=
    { quantity := 2, averagePrice := 100, totalValue := 200, entryDate := some 7,
      side := some .short, leverage := some 1, marginAmount := some 200 }
  held := OrdMap.get?_set_self _ _ _
  side_eq := rfl
  position_pos := by norm_num
  margin_nonneg := by simp [Position.margin]
  quantity := 1
  quantity_pos := by norm_num
  quantity_le := by norm_num
  price := 90
  price_pos := by norm_num
  fee := 0
  parts := [(1, 0), (1, 0)]
  parts_pos := by simp
  parts_sum := by norm_num [partsQuantity]

/-- **The position manager drops the entry date of what remains**, which the others keep. -/
theorem entryDate_lost : ¬ datedClose.ClosesAgree calmEnv.math (unitOrder .closeShort) none := by
  rw [closesAgree_iff_remaining, remaining_agrees_iff]
  rintro (hdate | hquantity)
  · cases hdate
  · revert hquantity
    norm_num [datedClose]

end ShortClose

end Chansey
