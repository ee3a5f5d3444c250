import Chansey.Domain

/-!
# Portfolio state

Valuation of positions, revaluation at a bar's prices, and reading a serialized portfolio.

* `deserializePortfolio`: what a checkpoint's positions are read back as.
-/

namespace Chansey

def getPositionValue (position : Position) (currentPrice : Option ℚ) (floor : Bool) : ℚ :=
  match position.side, position.marginAmount with
  | some .short, some margin =>
    match currentPrice with
    | some price =>
      let raw := margin + (position.averagePrice - price) * position.quantity
      if floor then max 0 raw else raw
    | none => position.totalValue
  | _, _ =>
    match currentPrice with
    | some price => position.quantity * price
    | none => position.totalValue

def calculatePositionsValue (positions : OrdMap CoinId Position) (prices : OrdMap CoinId ℚ) : ℚ :=
  positions.sumBy fun coinId position => getPositionValue position (prices.get? coinId) true

/-- `updateValues`: new position objects with their value at `prices`. -/
def updateValues (portfolio : Portfolio) (prices : OrdMap CoinId ℚ) : Portfolio where
  cashBalance := portfolio.cashBalance
  positions := portfolio.positions.map fun coinId position =>
    { position with totalValue := getPositionValue position (prices.get? coinId) true }
  totalValue := portfolio.cashBalance + calculatePositionsValue portfolio.positions prices
  totalMarginUsed := portfolio.totalMarginUsed

/-- The portfolio of a run that starts from nothing (`restoreState`). -/
def startPortfolio (initialCapital : ℚ) : Portfolio where
  cashBalance := initialCapital
  positions := OrdMap.empty
  totalValue := initialCapital

section UpdateValues

variable (portfolio : Portfolio) (prices : OrdMap CoinId ℚ)

@[simp] theorem updateValues_get? (coinId : CoinId) :
    (updateValues portfolio prices).positions.get? coinId =
      (portfolio.positions.get? coinId).map fun position =>
        { position with totalValue := getPositionValue position (prices.get? coinId) true } := by
  simp [updateValues]

@[simp] theorem updateValues_keys :
    (updateValues portfolio prices).positions.keys = portfolio.positions.keys := by
  simp [updateValues]

end UpdateValues

/-! ## Serialization -/

structure SerializablePosition where
  coinId : CoinId
  quantity : ℚ
  averagePrice : ℚ
  entryDate : Option Instant := none
  side : Option PositionSide := none
  leverage : Option ℚ := none
  marginAmount : Option ℚ := none
  liquidationPrice : Option ℚ := none

structure SerializablePortfolio where
  cashBalance : ℚ
  positions : List SerializablePosition

def SerializablePosition.toPosition (pos : SerializablePosition) (totalValue : ℚ) : Position where
  quantity := pos.quantity
  averagePrice := pos.averagePrice
  totalValue := totalValue
  entryDate := pos.entryDate
  side := pos.side
  leverage := pos.leverage
  marginAmount := pos.marginAmount
  liquidationPrice := pos.liquidationPrice

def SerializablePosition.value (pos : SerializablePosition) (currentPrices : OrdMap CoinId ℚ) : ℚ :=
  getPositionValue (pos.toPosition 0)
    (some ((currentPrices.get? pos.coinId).getD pos.averagePrice)) false

/-- What a serialized position adds to `totalMarginUsed`. -/
def SerializablePosition.margin (pos : SerializablePosition) : ℚ :=
  if pos.side = some .short then pos.marginAmount.getD 0 else 0

def deserializePortfolio (serialized : SerializablePortfolio) (currentPrices : OrdMap CoinId ℚ) :
    Portfolio where
  cashBalance := serialized.cashBalance
  positions := OrdMap.ofEntries <| serialized.positions.map fun pos =>
    (pos.coinId, pos.toPosition (pos.value currentPrices))
  totalValue := serialized.cashBalance + (serialized.positions.map (·.value currentPrices)).sum
  totalMarginUsed := (serialized.positions.map (·.margin)).sum

end Chansey
