import Chansey.Accounting.Margin
import Chansey.Lib.Lots

/-!
# The portfolio state service

Trades applied to a portfolio, each to a new portfolio or an error.

* `applyBuy_cases`, `applySell_cases`, `applyOpenShort_cases`, **`applyCloseShort_cases`**: a failed
  trade returns the portfolio, a successful one what it built. A close books what the executor's
  `bookCloseShort` does.
-/

namespace Chansey

structure ApplyTradeResult where
  portfolio : Portfolio
  success : Bool
  error : Option String := none

def failResult (portfolio : Portfolio) (error : String) : ApplyTradeResult where
  portfolio := portfolio
  success := false
  error := some error

def buildSuccessResult (cashBalance : ℚ) (positions : OrdMap CoinId Position) (coinId : CoinId)
    (price : ℚ) (currentPrices : Option (OrdMap CoinId ℚ)) (totalMarginUsed : Option ℚ) :
    ApplyTradeResult where
  portfolio :=
    { cashBalance := cashBalance
      positions := positions
      totalValue := cashBalance + calculatePositionsValue positions
        (currentPrices.getD (OrdMap.empty.set coinId price))
      totalMarginUsed := totalMarginUsed.getD 0 }
  success := true

def Position.isShort (p : Position) : Bool := p.side = some .short

section Trades

variable (portfolio : Portfolio) (coinId : CoinId) (quantity price fee : ℚ)

/-- The position after a buy onto what the coin holds. -/
def increasedPosition (existing : Option Position) : Position :=
  match existing.filter fun p => 0 < p.quantity with
  | some existing =>
    let newQuantity := existing.quantity + quantity
    { quantity := newQuantity
      averagePrice :=
        (existing.averagePrice * existing.quantity + price * quantity) / newQuantity
      totalValue := newQuantity * price }
  | none =>
    { quantity := quantity
      averagePrice := price
      totalValue := quantity * price }

def applyBuy (currentPrices : Option (OrdMap CoinId ℚ)) : ApplyTradeResult :=
  let totalCost := quantity * price + fee
  if portfolio.cashBalance < totalCost then
    failResult portfolio "Insufficient cash balance for buy trade"
  else
    let newCashBalance := portfolio.cashBalance - quantity * price - fee
    let existingPosition := portfolio.positions.get? coinId
    if existingPosition.any fun p => p.isShort && 0 < p.quantity then
      failResult portfolio "Cannot buy: short position already exists for this coin"
    else
      buildSuccessResult newCashBalance
        (portfolio.positions.set coinId (increasedPosition quantity price existingPosition)) coinId
        price currentPrices none

/-- The side of the position is not looked at. -/
def applySell (currentPrices : Option (OrdMap CoinId ℚ)) : ApplyTradeResult :=
  match portfolio.positions.get? coinId with
  | none => failResult portfolio "No position to sell"
  | some existingPosition =>
    if existingPosition.quantity = 0 then failResult portfolio "No position to sell"
    else
      let actualQuantity := min quantity existingPosition.quantity
      let newCashBalance := portfolio.cashBalance + actualQuantity * price - fee
      let remainingQuantity := existingPosition.quantity - actualQuantity
      buildSuccessResult newCashBalance
        (if remainingQuantity ≤ 0 then portfolio.positions.erase coinId
        else portfolio.positions.set coinId
          { quantity := remainingQuantity
            averagePrice := existingPosition.averagePrice
            totalValue := remainingQuantity * price })
        coinId price currentPrices none

/-- The guard looks for a long only. -/
def applyOpenShort (leverage : ℚ) (currentPrices : Option (OrdMap CoinId ℚ)) : ApplyTradeResult :=
  let existingLong := portfolio.positions.get? coinId
  if existingLong.any fun p => !p.isShort && 0 < p.quantity then
    failResult portfolio "Cannot open short: long position already exists for this coin"
  else
    let marginAmount := quantity * price / leverage
    if portfolio.cashBalance < marginAmount + fee then
      failResult portfolio "Insufficient cash balance for short trade margin"
    else
      let newCashBalance := portfolio.cashBalance - marginAmount - fee
      buildSuccessResult newCashBalance
        (portfolio.positions.set coinId
          { quantity := quantity
            averagePrice := price
            totalValue := marginAmount
            side := some .short
            leverage := some leverage
            marginAmount := some marginAmount
            liquidationPrice := some (price * (1 + 1 / leverage - MAINTENANCE_MARGIN_RATE)) })
        coinId price currentPrices (some (portfolio.totalMarginUsed + marginAmount))

def applyCloseShort (currentPrices : Option (OrdMap CoinId ℚ)) : ApplyTradeResult :=
  match portfolio.positions.get? coinId with
  | none => failResult portfolio "No short position to close"
  | some existingPosition =>
    if ¬ existingPosition.isShort ∨ existingPosition.quantity = 0 then
      failResult portfolio "No short position to close"
    else
      let actualQuantity := min quantity existingPosition.quantity
      let marginAmount := existingPosition.marginAmount.getD 0
      let realizedPnL := (existingPosition.averagePrice - price) * actualQuantity
      let returnedMargin := marginAmount * actualQuantity / existingPosition.quantity
      let cappedPnL := max (-returnedMargin) realizedPnL
      let newCashBalance := portfolio.cashBalance + returnedMargin + cappedPnL - fee
      let remainingQuantity := existingPosition.quantity - actualQuantity
      let remainingMargin := marginAmount - returnedMargin
      buildSuccessResult newCashBalance
        (if remainingQuantity ≤ 0 then portfolio.positions.erase coinId
        else portfolio.positions.set coinId
          { existingPosition with
            quantity := remainingQuantity
            totalValue :=
              remainingMargin + (existingPosition.averagePrice - price) * remainingQuantity
            marginAmount := some remainingMargin })
        coinId price currentPrices
        (some (max 0 (portfolio.totalMarginUsed - returnedMargin)))

end Trades

/-! ## What the trades return -/

section Cases

variable (portfolio : Portfolio) (coinId : CoinId) (quantity price fee : ℚ)
  (currentPrices : Option (OrdMap CoinId ℚ))

def Fails (portfolio : Portfolio) (result : ApplyTradeResult) : Prop :=
  result.success = false ∧ result.portfolio = portfolio

theorem failResult_fails (portfolio : Portfolio) (error : String) :
    Fails portfolio (failResult portfolio error) := ⟨rfl, rfl⟩

def HoldsShort (portfolio : Portfolio) (coinId : CoinId) : Prop :=
  ∃ p, portfolio.positions.get? coinId = some p ∧ p.isShort = true ∧ 0 < p.quantity

theorem applyBuy_cases :
    (Fails portfolio (applyBuy portfolio coinId quantity price fee currentPrices) ∧
      ¬ (quantity * price + fee ≤ portfolio.cashBalance ∧ ¬ HoldsShort portfolio coinId)) ∨
    (quantity * price + fee ≤ portfolio.cashBalance ∧ ¬ HoldsShort portfolio coinId ∧
      applyBuy portfolio coinId quantity price fee currentPrices =
        buildSuccessResult (portfolio.cashBalance - quantity * price - fee)
          (portfolio.positions.set coinId
            (increasedPosition quantity price (portfolio.positions.get? coinId)))
          coinId price currentPrices none) := by
  have hshort : (portfolio.positions.get? coinId).any
      (fun p => p.isShort && decide (0 < p.quantity)) = true ↔ HoldsShort portfolio coinId := by
    simp [HoldsShort, Option.any_eq_true]
  simp only [applyBuy]
  by_cases hcash : portfolio.cashBalance < quantity * price + fee
  · left
    rw [if_pos hcash]
    exact ⟨failResult_fails _ _, fun h => absurd h.1 (not_le.mpr hcash)⟩
  · rw [if_neg hcash]
    by_cases hheld : HoldsShort portfolio coinId
    · left
      rw [if_pos (hshort.mpr hheld)]
      exact ⟨failResult_fails _ _, fun h => h.2 hheld⟩
    · right
      rw [if_neg (mt hshort.mp hheld)]
      exact ⟨not_lt.mp hcash, hheld, rfl⟩

theorem applySell_cases :
    (Fails portfolio (applySell portfolio coinId quantity price fee currentPrices) ∧
      ∀ p, portfolio.positions.get? coinId = some p → p.quantity = 0) ∨
    ∃ p, portfolio.positions.get? coinId = some p ∧ p.quantity ≠ 0 ∧
      applySell portfolio coinId quantity price fee currentPrices =
        buildSuccessResult (portfolio.cashBalance + min quantity p.quantity * price - fee)
          (if p.quantity - min quantity p.quantity ≤ 0 then portfolio.positions.erase coinId
          else portfolio.positions.set coinId
            { quantity := p.quantity - min quantity p.quantity
              averagePrice := p.averagePrice
              totalValue := (p.quantity - min quantity p.quantity) * price })
          coinId price currentPrices none := by
  unfold applySell
  cases hget : portfolio.positions.get? coinId with
  | none => exact .inl ⟨failResult_fails _ _, fun p hp => absurd hp.symm (Option.some_ne_none p)⟩
  | some p =>
    by_cases hq : p.quantity = 0
    · left
      refine ⟨?_, fun p' hp' => ?_⟩
      · simp only [if_pos hq]
        exact failResult_fails _ _
      · cases hp'
        exact hq
    · right
      refine ⟨p, rfl, hq, ?_⟩
      simp only [if_neg hq]

theorem applyOpenShort_cases (leverage : ℚ) :
    (Fails portfolio
        (applyOpenShort portfolio coinId quantity price fee leverage currentPrices) ∧
      ¬ ((∀ p, portfolio.positions.get? coinId = some p → p.isShort = false → p.quantity ≤ 0) ∧
        quantity * price / leverage + fee ≤ portfolio.cashBalance)) ∨
    ((∀ p, portfolio.positions.get? coinId = some p → p.isShort = false → p.quantity ≤ 0) ∧
      quantity * price / leverage + fee ≤ portfolio.cashBalance ∧
      applyOpenShort portfolio coinId quantity price fee leverage currentPrices =
        buildSuccessResult (portfolio.cashBalance - quantity * price / leverage - fee)
          (portfolio.positions.set coinId
            { quantity := quantity
              averagePrice := price
              totalValue := quantity * price / leverage
              side := some .short
              leverage := some leverage
              marginAmount := some (quantity * price / leverage)
              liquidationPrice := some (price * (1 + 1 / leverage - MAINTENANCE_MARGIN_RATE)) })
          coinId price currentPrices
          (some (portfolio.totalMarginUsed + quantity * price / leverage))) := by
  have hlong : (portfolio.positions.get? coinId).any
      (fun p => !p.isShort && decide (0 < p.quantity)) = true ↔
        ¬ ∀ p, portfolio.positions.get? coinId = some p → p.isShort = false → p.quantity ≤ 0 := by
    simp [Option.any_eq_true]
  unfold applyOpenShort
  by_cases hheld : ∀ p, portfolio.positions.get? coinId = some p → p.isShort = false →
      p.quantity ≤ 0
  · rw [if_neg (mt hlong.mp (not_not.mpr hheld))]
    by_cases hcash : portfolio.cashBalance < quantity * price / leverage + fee
    · left
      simp only [if_pos hcash]
      exact ⟨failResult_fails _ _, fun h => absurd h.2 (not_le.mpr hcash)⟩
    · right
      simp only [if_neg hcash]
      exact ⟨hheld, not_lt.mp hcash, trivial⟩
  · left
    rw [if_pos (hlong.mpr hheld)]
    exact ⟨failResult_fails _ _, fun h => hheld h.1⟩

theorem applyCloseShort_cases :
    (Fails portfolio (applyCloseShort portfolio coinId quantity price fee currentPrices) ∧
      ∀ p, portfolio.positions.get? coinId = some p → p.side = some .short → p.quantity = 0) ∨
    ∃ p, portfolio.positions.get? coinId = some p ∧ p.side = some .short ∧ p.quantity ≠ 0 ∧
      let booked := bookCloseShort portfolio coinId p (min quantity p.quantity) price
      applyCloseShort portfolio coinId quantity price fee currentPrices =
        buildSuccessResult (booked.cashBalance - fee) booked.positions coinId price currentPrices
          (some booked.totalMarginUsed) := by
  unfold applyCloseShort
  cases hget : portfolio.positions.get? coinId with
  | none => exact .inl ⟨failResult_fails _ _, fun p hp => absurd hp.symm (Option.some_ne_none p)⟩
  | some p =>
    by_cases hheld : ¬ p.isShort ∨ p.quantity = 0
    · left
      refine ⟨?_, fun p' hp' hside => ?_⟩
      · simp only [if_pos hheld]
        exact failResult_fails _ _
      · cases hp'
        rcases hheld with hlong | hzero
        · exact absurd (by simp [Position.isShort, hside]) hlong
        · exact hzero
    · right
      push Not at hheld
      refine ⟨p, rfl, by simpa [Position.isShort] using hheld.1, hheld.2, ?_⟩
      simp only [hheld.1, hheld.2, not_true_eq_false, or_self, if_false, bookCloseShort,
        returnedMargin, calculateShortPnL, ← mul_div_assoc, add_assoc]

end Cases

end Chansey
