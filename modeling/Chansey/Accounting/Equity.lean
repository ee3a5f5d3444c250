import Chansey.Executor.TradeSpec

/-!
# Equity

The worth of a portfolio at given prices, and what each booking of the executor does to it.
-/

namespace Chansey

def Position.equityAt (position : Position) (price : ℚ) : ℚ :=
  if position.side = some .short then
    position.marginAmount.getD 0 + (position.averagePrice - price) * position.quantity
  else position.quantity * price

def equity (portfolio : Portfolio) (price : CoinId → ℚ) : ℚ :=
  portfolio.cashBalance + portfolio.positions.sumBy fun coinId p => p.equityAt (price coinId)

def entryEquity (portfolio : Portfolio) (coinId : CoinId) (price : ℚ) : ℚ :=
  (portfolio.positions.get? coinId).elim 0 fun p => p.equityAt price

variable {portfolio after : Portfolio} {coinId : CoinId} {existing position : Position}
  {quantity fillPrice : ℚ} {price : CoinId → ℚ}

theorem entryEquity_of_get? (h : portfolio.positions.get? coinId = some existing) (p : ℚ) :
    entryEquity portfolio coinId p = existing.equityAt p := by
  simp [entryEquity, h]

theorem equity_of_set (h : after.positions = portfolio.positions.set coinId position) :
    equity after price = equity portfolio price + (after.cashBalance - portfolio.cashBalance) +
      (position.equityAt (price coinId) - entryEquity portfolio coinId (price coinId)) := by
  have hsum := OrdMap.sumBy_set (fun c (p : Position) => p.equityAt (price c)) portfolio.positions
    coinId position
  unfold equity entryEquity
  rw [h]
  linarith

theorem equity_of_erase (h : after.positions = portfolio.positions.erase coinId) :
    equity after price = equity portfolio price + (after.cashBalance - portfolio.cashBalance) -
      entryEquity portfolio coinId (price coinId) := by
  have hsum := OrdMap.sumBy_erase (fun c (p : Position) => p.equityAt (price c))
    portfolio.positions coinId
  unfold equity entryEquity
  rw [h]
  linarith

@[simp] theorem equity_settleFee (fee : ℚ) (prices : OrdMap CoinId ℚ) :
    equity (settleFee portfolio fee prices) price = equity portfolio price - fee := by
  simp only [equity, settleFee]
  ring

/-! ## The bookings -/

theorem equity_bookBuy (timestamp : Instant)
    (hside : ∀ e, portfolio.positions.get? coinId = some e → e.side ≠ some .short)
    (hprice : price coinId = fillPrice) :
    equity (bookBuy portfolio coinId quantity fillPrice timestamp) price =
      equity portfolio price := by
  unfold bookBuy
  rw [equity_of_set rfl, hprice]
  cases hget : portfolio.positions.get? coinId with
  | none =>
    simp [entryEquity, hget, Position.equityAt]
  | some e =>
    simp only [entryEquity, hget, Option.getD_some, Option.elim_some, Position.equityAt,
      hside e hget, if_false]
    ring

theorem equity_bookSell (hget : portfolio.positions.get? coinId = some existing)
    (hside : existing.side ≠ some .short) (hprice : price coinId = fillPrice) :
    equity (bookSell portfolio coinId existing quantity fillPrice) price =
      equity portfolio price := by
  have hentry : entryEquity portfolio coinId fillPrice = existing.quantity * fillPrice := by
    rw [entryEquity_of_get? hget, Position.equityAt, if_neg hside]
  unfold bookSell
  dsimp only
  by_cases hr : existing.quantity - quantity = 0
  · rw [if_pos hr, equity_of_erase rfl, hprice, hentry, sub_eq_zero.mp hr]
    ring
  · rw [if_neg hr, equity_of_set rfl, hprice, hentry]
    simp only [Position.equityAt, hside, if_false]
    ring

theorem equity_bookOpenShort (leverage : ℚ) (timestamp : Instant)
    (hprice : price coinId = fillPrice) :
    equity (bookOpenShort portfolio coinId quantity fillPrice leverage timestamp) price =
      equity portfolio price - entryEquity portfolio coinId fillPrice := by
  unfold bookOpenShort
  rw [equity_of_set rfl, hprice]
  simp only [Position.equityAt, if_true, Option.getD_some]
  ring

theorem equity_bookCloseShort (hget : portfolio.positions.get? coinId = some existing)
    (hside : existing.side = some .short) (hq : existing.quantity ≠ 0)
    (hle : quantity ≤ existing.quantity) (hprice : price coinId = fillPrice) :
    equity (bookCloseShort portfolio coinId existing quantity fillPrice) price =
      equity portfolio price +
        (max (-returnedMargin existing quantity)
            ((existing.averagePrice - fillPrice) * quantity) -
          (existing.averagePrice - fillPrice) * quantity) := by
  have hentry : entryEquity portfolio coinId fillPrice =
      existing.marginAmount.getD 0 + (existing.averagePrice - fillPrice) * existing.quantity := by
    rw [entryEquity_of_get? hget, Position.equityAt, if_pos hside]
  unfold bookCloseShort
  dsimp only [calculateShortPnL]
  by_cases hr : existing.quantity - quantity ≤ 0
  · have hall : quantity = existing.quantity := le_antisymm hle (sub_nonpos.mp hr)
    have hretd : returnedMargin existing existing.quantity = existing.marginAmount.getD 0 := by
      rw [returnedMargin, div_self hq, mul_one]
    rw [if_pos hr, equity_of_erase rfl, hprice, hentry, hall, hretd]
    ring
  · rw [if_neg hr, equity_of_set rfl, hprice, hentry]
    simp only [Position.equityAt, hside, if_true, Option.getD_some]
    ring

end Chansey
