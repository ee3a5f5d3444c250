import Chansey.Domain
import Chansey.Lib.Lots
import Chansey.Lib.Run
import Chansey.Lib.Tasks

/-!
# Position tracking of a strategy

The row that tracks what a strategy holds of a symbol on one side. `updatePosition` and
`closePosition` read the row, compute and save it, with nothing that keeps another call from reading
in between.

* **`booked_perform_iff`**: a call keeps row and book in agreement iff it sells no more than is held,
  or at cost.
-/

namespace Chansey

open Tasks Run

/-! ## The row -/

/-- `UserStrategyPosition`. Its user, strategy, symbol and side are what it is stored under. -/
structure UserStrategyPosition where
  quantity : ℚ := 0
  avgEntryPrice : ℚ := 0
  unrealizedPnL : ℚ := 0
  realizedPnL : ℚ := 0
  exchangeKeyId : Option String := none

inductive TradeSide where
  | buy | sell
  deriving DecidableEq

structure PositionUpdate where
  quantity : ℚ
  price : ℚ
  side : TradeSide
  exchangeKeyId : Option String := none

/-- Shorts win when the price drops. -/
def tradePnL (positionSide : PositionSide) (soldValue costBasis : ℚ) : ℚ :=
  match positionSide with
  | .short => costBasis - soldValue
  | .long => soldValue - costBasis

/-- What `updatePosition` saves over the row it has read. -/
def updatePosition (positionSide : PositionSide) (update : PositionUpdate)
    (stored : Option UserStrategyPosition) : UserStrategyPosition :=
  let position := stored.getD {}
  match update.side with
  | .buy =>
    let totalCost := position.quantity * position.avgEntryPrice + update.quantity * update.price
    let newQuantity := position.quantity + update.quantity
    { position with
      quantity := newQuantity
      avgEntryPrice := if 0 < newQuantity then totalCost / newQuantity else 0
      exchangeKeyId := (update.exchangeKeyId.filter (· ≠ "")).or position.exchangeKeyId }
  | .sell =>
    let soldValue := update.quantity * update.price
    let costBasis := update.quantity * position.avgEntryPrice
    let sold :=
      { position with
        quantity := position.quantity - update.quantity
        realizedPnL := position.realizedPnL + tradePnL positionSide soldValue costBasis }
    if sold.quantity ≤ 0 then { sold with quantity := 0, avgEntryPrice := 0, unrealizedPnL := 0 }
    else sold

/-- What `closePosition` saves, nothing when there is no position. -/
def closePosition (positionSide : PositionSide) (currentPrice : ℚ)
    (stored : Option UserStrategyPosition) : Option UserStrategyPosition :=
  match stored with
  | none => none
  | some position =>
    if position.quantity = 0 then none
    else
      let soldValue := position.quantity * currentPrice
      let costBasis := position.quantity * position.avgEntryPrice
      some
        { position with
          realizedPnL := position.realizedPnL + tradePnL positionSide soldValue costBasis
          quantity := 0
          avgEntryPrice := 0
          unrealizedPnL := 0 }

inductive PositionCall where
  | update (trade : PositionUpdate)
  | close (currentPrice : ℚ)

def PositionCall.saves (positionSide : PositionSide) (stored : Option UserStrategyPosition) :
    PositionCall → Option UserStrategyPosition
  | .update trade => some (updatePosition positionSide trade stored)
  | .close currentPrice => closePosition positionSide currentPrice stored

/-! ## Calls that take turns -/

/-- The stored row and the calls that are through, in the order of their saves. -/
structure PositionLog where
  row : Option UserStrategyPosition := none
  history : List PositionCall := []

def PositionLog.position (log : PositionLog) : UserStrategyPosition := log.row.getD {}

structure OpenCall where
  call : PositionCall
  read : Option UserStrategyPosition
  written : UserStrategyPosition

/-- The save writes the whole row. It inserts when there was none to read, and the unique index
refuses a second row. -/
def OpenCall.save (open' : OpenCall) (log : PositionLog) : PositionLog :=
  if open'.read = none ∧ log.row.isSome then log
  else { row := some open'.written, history := log.history ++ [open'.call] }

def tracking (positionSide : PositionSide) : Program PositionLog OpenCall PositionCall Unit where
  call := fun log call =>
    match call.saves positionSide log.row with
    | none => ({ log with history := log.history ++ [call] }, none)
    | some written => (log, some { call, read := log.row, written })
  advance := fun log open' _ => (open'.save log, none)

def perform (positionSide : PositionSide) (log : PositionLog) (call : PositionCall) : PositionLog where
  row := (call.saves positionSide log.row).or log.row
  history := log.history ++ [call]

/-! ## The book of a position -/

/-- The lots held, what the sales of held quantity have brought and what all buys have cost. -/
structure Book where
  lots : Lots ℚ := []
  proceeds : ℚ := 0
  bought : ℚ := 0

/-- Only what is held is sold. -/
def Book.sell (book : Book) (quantity price : ℚ) : Book :=
  let sold := min quantity (Lots.quantity book.lots)
  { book with
    lots := Lots.sell book.lots sold
    proceeds := book.proceeds + sold * price }

def Book.record (book : Book) : PositionCall → Book
  | .update trade =>
    match trade.side with
    | .buy =>
      { book with
        lots := Lots.buy book.lots trade.quantity trade.price
        bought := book.bought + trade.quantity * trade.price }
    | .sell => book.sell trade.quantity trade.price
  | .close currentPrice => book.sell (Lots.quantity book.lots) currentPrice

def bookOf (history : List PositionCall) : Book := history.foldl Book.record {}

theorem bookOf_append (history : List PositionCall) (call : PositionCall) :
    bookOf (history ++ [call]) = (bookOf history).record call := List.foldl_concat ..

def PositionSide.sign : PositionSide → ℚ
  | .long => 1
  | .short => -1

/-- The row agrees with the book: nothing negative, the mean price of the lots held, and the profit
of what was sold while it was held. -/
structure Booked (positionSide : PositionSide) (position : UserStrategyPosition) (book : Book) :
    Prop where
  nonneg : 0 ≤ position.quantity
  quantity : position.quantity = Lots.quantity book.lots
  avgEntryPrice : position.avgEntryPrice = Lots.mean book.lots
  realizedPnL : position.realizedPnL =
    positionSide.sign * (book.proceeds - (book.bought - Lots.cost book.lots))

def PositionCall.Nonneg : PositionCall → Prop
  | .update trade => 0 ≤ trade.quantity
  | .close _ => True

/-- A sale is of what is held, or at cost. -/
def PositionCall.Covered (position : UserStrategyPosition) : PositionCall → Prop
  | .update trade => trade.side = .sell →
      trade.quantity ≤ position.quantity ∨ trade.price = position.avgEntryPrice
  | .close _ => True

instance (position : UserStrategyPosition) (call : PositionCall) :
    Decidable (call.Covered position) := by
  cases call <;> unfold PositionCall.Covered <;> infer_instance

/-! ## One call -/

section Step

variable {positionSide : PositionSide} {position : UserStrategyPosition} {book : Book}
  {quantity price : ℚ}

def Balanced (book : Book) : Prop := Lots.quantity book.lots = 0 → Lots.cost book.lots = 0

theorem Balanced.cost_eq (h : Balanced book) :
    Lots.cost book.lots = Lots.quantity book.lots * Lots.mean book.lots := by
  by_cases hzero : Lots.quantity book.lots = 0
  · rw [h hzero, hzero, zero_mul]
  · rw [Lots.mean, mul_div_cancel₀ _ hzero]

theorem Book.quantity_sell (hqty : 0 ≤ quantity) :
    Lots.quantity (book.sell quantity price).lots =
      Lots.quantity book.lots - min quantity (Lots.quantity book.lots) := by
  by_cases hzero : Lots.quantity book.lots = 0
  · simp only [Book.sell, Lots.sell, Lots.quantity_scale, hzero, min_eq_right hqty, mul_zero,
      sub_self]
  · exact Lots.quantity_sell hzero _

theorem Book.cost_sell :
    Lots.cost (book.sell quantity price).lots =
      (Lots.quantity book.lots - min quantity (Lots.quantity book.lots)) * Lots.mean book.lots :=
  Lots.cost_sell _

theorem Book.mean_sell (hqty : 0 ≤ quantity) :
    Lots.mean (book.sell quantity price).lots =
      if Lots.quantity book.lots - quantity ≤ 0 then 0 else Lots.mean book.lots := by
  rw [Lots.mean, Book.cost_sell, Book.quantity_sell hqty]
  split_ifs with hall
  · rw [min_eq_right (sub_nonpos.mp hall), sub_self, zero_mul, zero_div]
  · rw [min_eq_left (sub_pos.mp (not_le.mp hall)).le, mul_div_cancel_left₀ _ (not_le.mp hall).ne']

theorem Balanced.record {call : PositionCall} (h : Balanced book)
    (hbkd : Booked positionSide position book) (hqty : call.Nonneg) :
    Balanced (book.record call) := by
  have hheld : 0 ≤ Lots.quantity book.lots := hbkd.quantity ▸ hbkd.nonneg
  have hsell : ∀ quantity price, 0 ≤ quantity → Balanced (book.sell quantity price) := by
    intro quantity price hq hzero
    rw [Book.quantity_sell hq] at hzero
    rw [Book.cost_sell, hzero, zero_mul]
  cases call with
  | update trade =>
    rcases trade with ⟨quantity, price, side, _⟩
    cases side with
    | buy =>
      intro hzero
      simp only [Book.record, Lots.quantity_buy, Lots.cost_buy] at hzero ⊢
      have hq : 0 ≤ quantity := hqty
      rw [h (by linarith), (by linarith : quantity = 0), zero_mul, add_zero]
    | sell => exact hsell quantity price hqty
  | close => exact hsell _ _ hheld

theorem Booked.buy {key : Option String} (h : Booked positionSide position book)
    (hbalanced : Balanced book) (hqty : 0 ≤ quantity) :
    Booked positionSide
      (updatePosition positionSide ⟨quantity, price, .buy, key⟩ (some position))
      (book.record (.update ⟨quantity, price, .buy, key⟩)) where
  nonneg := add_nonneg h.nonneg hqty
  quantity := by
    simp only [updatePosition, Option.getD_some, Book.record, Lots.quantity_buy, h.quantity]
  avgEntryPrice := by
    have hheld : 0 ≤ Lots.quantity book.lots := h.quantity ▸ h.nonneg
    simp only [updatePosition, Option.getD_some, Book.record]
    rw [Lots.mean, Lots.quantity_buy, Lots.cost_buy, hbalanced.cost_eq, h.quantity, h.avgEntryPrice]
    split_ifs with hpos
    · rfl
    · have hzero : Lots.quantity book.lots + quantity = 0 := by linarith
      rw [hzero, div_zero]
  realizedPnL := by
    simp only [updatePosition, Option.getD_some, Book.record, Lots.cost_buy, h.realizedPnL]
    ring

/-! ### Sales -/

theorem tradePnL_eq (soldValue costBasis : ℚ) :
    tradePnL positionSide soldValue costBasis = positionSide.sign * (soldValue - costBasis) := by
  cases positionSide <;> simp [tradePnL, PositionSide.sign]

theorem updatePosition_sell_quantity (key : Option String) :
    (updatePosition positionSide ⟨quantity, price, .sell, key⟩ (some position)).quantity =
      position.quantity - min quantity position.quantity := by
  simp only [updatePosition, Option.getD_some]
  split_ifs with hall
  · rw [min_eq_right (sub_nonpos.mp hall), sub_self]
  · rw [min_eq_left (sub_pos.mp (not_le.mp hall)).le]

theorem updatePosition_sell_avgEntryPrice (key : Option String) :
    (updatePosition positionSide ⟨quantity, price, .sell, key⟩ (some position)).avgEntryPrice =
      if position.quantity - quantity ≤ 0 then 0 else position.avgEntryPrice := by
  simp only [updatePosition, Option.getD_some]
  split_ifs <;> rfl

theorem updatePosition_sell_realizedPnL (key : Option String) :
    (updatePosition positionSide ⟨quantity, price, .sell, key⟩ (some position)).realizedPnL =
      position.realizedPnL + positionSide.sign * (quantity * (price - position.avgEntryPrice)) := by
  have hpnl : tradePnL positionSide (quantity * price) (quantity * position.avgEntryPrice) =
      positionSide.sign * (quantity * (price - position.avgEntryPrice)) := by
    rw [tradePnL_eq, ← mul_sub]
  simp only [updatePosition, Option.getD_some, hpnl]
  split_ifs <;> rfl

theorem booked_sell_iff (key : Option String) (h : Booked positionSide position book)
    (hbalanced : Balanced book) (hqty : 0 ≤ quantity) :
    Booked positionSide
        (updatePosition positionSide ⟨quantity, price, .sell, key⟩ (some position))
        (book.sell quantity price) ↔
      quantity ≤ position.quantity ∨ price = position.avgEntryPrice := by
  have hsign : positionSide.sign ≠ 0 := by cases positionSide <;> decide +kernel
  have hprof : positionSide.sign * (book.proceeds + min quantity position.quantity * price -
      (book.bought - (position.quantity - min quantity position.quantity) *
        position.avgEntryPrice)) =
      position.realizedPnL + positionSide.sign *
        (min quantity position.quantity * (price - position.avgEntryPrice)) := by
    rw [h.realizedPnL, hbalanced.cost_eq, h.quantity, h.avgEntryPrice]
    ring
  -- quantity and mean agree anyway, so the profit decides
  have hrealized : Booked positionSide
      (updatePosition positionSide ⟨quantity, price, .sell, key⟩ (some position))
      (book.sell quantity price) ↔
      quantity * (price - position.avgEntryPrice) =
        min quantity position.quantity * (price - position.avgEntryPrice) := by
    have hcost : (book.sell quantity price).proceeds -
        ((book.sell quantity price).bought - Lots.cost (book.sell quantity price).lots) =
        book.proceeds + min quantity position.quantity * price -
          (book.bought - (position.quantity - min quantity position.quantity) *
            position.avgEntryPrice) := by
      rw [Book.cost_sell, h.quantity, h.avgEntryPrice]
      rfl
    constructor
    · intro hbkd
      have hread := hbkd.realizedPnL
      rw [updatePosition_sell_realizedPnL, hcost, hprof] at hread
      exact mul_left_cancel₀ hsign (add_left_cancel hread)
    · intro heq
      refine ⟨?_, ?_, ?_, ?_⟩
      · rw [updatePosition_sell_quantity]
        exact sub_nonneg.mpr (min_le_right _ _)
      · rw [updatePosition_sell_quantity, Book.quantity_sell hqty, h.quantity]
      · rw [updatePosition_sell_avgEntryPrice, Book.mean_sell hqty, h.quantity, h.avgEntryPrice]
      · rw [updatePosition_sell_realizedPnL, hcost, hprof, heq]
  rw [hrealized]
  constructor
  · intro heq
    by_cases hcost : price = position.avgEntryPrice
    · exact .inr hcost
    · left
      rw [mul_right_cancel₀ (sub_ne_zero.mpr hcost) heq]
      exact min_le_right _ _
  · rintro (hle | hcost)
    · rw [min_eq_left hle]
    · rw [hcost, sub_self, mul_zero, mul_zero]

theorem closePosition_eq (currentPrice : ℚ) (h : position.quantity ≠ 0) :
    closePosition positionSide currentPrice (some position) =
      some (updatePosition positionSide ⟨position.quantity, currentPrice, .sell, none⟩
        (some position)) := by
  simp [closePosition, updatePosition, h]

theorem Booked.sell_nothing (h : Booked positionSide position book) (hbalanced : Balanced book)
    (hzero : position.quantity = 0) : Booked positionSide position (book.sell 0 price) := by
  have hheld : Lots.quantity book.lots = 0 := h.quantity ▸ hzero
  have hmean : Lots.mean book.lots = 0 := by rw [Lots.mean, hheld, div_zero]
  refine ⟨h.nonneg, ?_, ?_, ?_⟩
  · rw [Book.quantity_sell le_rfl, hheld, hzero, min_self, sub_zero]
  · rw [Book.mean_sell le_rfl, h.avgEntryPrice, hheld, hmean, ite_self]
  · rw [h.realizedPnL, Book.cost_sell, hheld, min_self, sub_zero, zero_mul, hbalanced hheld]
    simp [Book.sell, hheld]

end Step

/-! ## Runs -/

section Run

variable {positionSide : PositionSide}

/-- The row agrees with the book of the calls that are through. -/
def PositionLog.Booked (positionSide : PositionSide) (log : PositionLog) : Prop :=
  Chansey.Booked positionSide log.position (bookOf log.history)

structure SoundLog (positionSide : PositionSide) (log : PositionLog) : Prop where
  booked : log.Booked positionSide
  balanced : Balanced (bookOf log.history)

theorem position_perform (log : PositionLog) (call : PositionCall) :
    (perform positionSide log call).position =
      (call.saves positionSide (some log.position)).getD log.position := by
  rcases log with ⟨row, _⟩
  cases row with
  | some position => cases hsaves : call.saves positionSide (some position) <;>
      simp [perform, PositionLog.position, hsaves]
  | none => cases call <;> rfl

variable {log : PositionLog} {call : PositionCall} {pool : Pool PositionLog OpenCall}

theorem booked_perform_iff (h : SoundLog positionSide log) (hqty : call.Nonneg) :
    (perform positionSide log call).Booked positionSide ↔ call.Covered log.position := by
  have hbkd := h.booked
  have hhist : (perform positionSide log call).history = log.history ++ [call] := rfl
  unfold PositionLog.Booked at hbkd ⊢
  rw [position_perform, hhist, bookOf_append]
  cases call with
  | update trade =>
    rcases trade with ⟨quantity, _, side, key⟩
    cases side with
    | buy => exact iff_of_true (hbkd.buy h.balanced hqty) (fun hsell => by cases hsell)
    | sell =>
      have hq : 0 ≤ quantity := hqty
      exact (booked_sell_iff key hbkd h.balanced hq).trans ⟨fun h _ => h, fun h => h rfl⟩
  | close =>
    refine iff_of_true ?_ trivial
    rw [PositionCall.saves, Book.record, ← hbkd.quantity]
    by_cases hzero : log.position.quantity = 0
    · rw [closePosition, if_pos hzero, hzero]
      exact hbkd.sell_nothing h.balanced hzero
    · rw [closePosition_eq _ hzero]
      exact (booked_sell_iff none hbkd h.balanced hbkd.nonneg).mpr (Or.inl le_rfl)

theorem SoundLog.perform (h : SoundLog positionSide log) (hqty : call.Nonneg)
    (hcov : call.Covered log.position) : SoundLog positionSide (perform positionSide log call) where
  booked := (booked_perform_iff h hqty).mpr hcov
  balanced := by
    rw [show (Chansey.perform positionSide log call).history = log.history ++ [call] from
      rfl, bookOf_append]
    exact h.balanced.record h.booked hqty

/-- No call is in flight when one starts, and none sells what is not held. -/
def Undisturbed (pool : Pool PositionLog OpenCall) : Move PositionCall Unit → Prop
  | .call call => pool.inFlight = [] ∧ call.Nonneg ∧ call.Covered pool.shared.position
  | .advance _ _ => True

def Alone (positionSide : PositionSide) (pool : Pool PositionLog OpenCall) : Prop :=
  pool.inFlight = [] ∨ ∃ call written, pool.inFlight = [⟨call, pool.shared.row, written⟩] ∧
    call.saves positionSide pool.shared.row = some written ∧
    call.Nonneg ∧ call.Covered pool.shared.position

theorem save_eq_perform {written : UserStrategyPosition}
    (h : call.saves positionSide log.row = some written) :
    OpenCall.save ⟨call, log.row, written⟩ log = perform positionSide log call := by
  have hread : ¬ (log.row = none ∧ log.row.isSome) := by
    rintro ⟨hnone, hsome⟩
    rw [hnone] at hsome
    cases hsome
  rw [OpenCall.save, if_neg hread, perform, h, Option.some_or]

def serially (positionSide : PositionSide) (calls : List PositionCall) : PositionLog :=
  calls.foldl (Chansey.perform positionSide) {}

theorem serially_append (calls : List PositionCall) (call : PositionCall) :
    serially positionSide (calls ++ [call]) =
      Chansey.perform positionSide (serially positionSide calls) call := List.foldl_concat ..

structure Serial (positionSide : PositionSide) (pool : Pool PositionLog OpenCall) : Prop where
  serial : pool.shared = serially positionSide pool.shared.history
  sound : SoundLog positionSide pool.shared
  alone : Alone positionSide pool

theorem Serial.perform (h : Serial positionSide pool) (hqty : call.Nonneg)
    (hcov : call.Covered pool.shared.position) :
    Serial positionSide ⟨Chansey.perform positionSide pool.shared call, []⟩ where
  serial := by
    have hhist : (Chansey.perform positionSide pool.shared call).history =
        pool.shared.history ++ [call] := rfl
    rw [hhist, serially_append, ← h.serial]
  sound := h.sound.perform hqty hcov
  alone := Or.inl rfl

theorem Serial.step {move : Move PositionCall Unit} (h : Serial positionSide pool)
    (hok : Undisturbed pool move) :
    Serial positionSide ((tracking positionSide).step pool move) := by
  obtain ⟨call, rfl, hres⟩ | ⟨_, _, _, _, _, rfl, htask, hsplit,
    hres⟩ | hres := (tracking positionSide).step_cases pool move
  · obtain ⟨hidle, hqty, hcov⟩ := hok
    rw [hres, hidle]
    cases hsaves : call.saves positionSide pool.shared.row with
    | none =>
      have hperform : Chansey.perform positionSide pool.shared call =
          { pool.shared with history := pool.shared.history ++ [call] } := by
        rw [Chansey.perform, hsaves, Option.none_or]
      simp only [tracking, hsaves]
      rw [← hperform]
      exact h.perform hqty hcov
    | some written =>
      simp only [tracking, hsaves]
      exact ⟨h.serial, h.sound, Or.inr ⟨call, written, rfl, hsaves, hqty, hcov⟩⟩
  · rcases h.alone with hidle | ⟨_, _, halone, hsaves, hqty, hcov⟩
    · rw [hidle] at htask
      cases htask
    · rw [halone] at hsplit
      obtain ⟨rfl, htasks⟩ := List.append_eq_singleton_iff.mp hsplit.symm |>.resolve_right
        fun h => by cases h.2
      cases htasks
      rw [hres]
      simp only [tracking, save_eq_perform hsaves]
      exact h.perform hqty hcov
  · rw [hres]
    exact h

/-- What an update does to the quantity when what it sells is held. -/
def PositionUpdate.change (trade : PositionUpdate) : ℚ :=
  match trade.side with
  | .buy => trade.quantity
  | .sell => -trade.quantity

theorem quantity_updatePosition {trade : PositionUpdate} {stored : Option UserStrategyPosition}
    (h : 0 ≤ (stored.getD {}).quantity + trade.change) :
    (updatePosition positionSide trade stored).quantity =
      (stored.getD {}).quantity + trade.change := by
  rcases trade with ⟨quantity, price, side, key⟩
  cases side with
  | buy => rfl
  | sell =>
    have hstd : updatePosition positionSide ⟨quantity, price, .sell, key⟩ stored =
        updatePosition positionSide ⟨quantity, price, .sell, key⟩ (some (stored.getD {})) := rfl
    rw [hstd, updatePosition_sell_quantity, PositionUpdate.change, min_eq_left]
    · ring
    · simpa [PositionUpdate.change] using h

end Run

end Chansey
