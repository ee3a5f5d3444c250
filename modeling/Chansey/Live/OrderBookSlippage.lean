import Chansey.Lib.Filling
import Chansey.Live.Order

/-!
# Slippage estimated from an order book

Two estimates walk the side of the book that an order is filled against: one that a market order is
checked against before it is placed, and one in percent of the best price.
-/

namespace Chansey.OrderBookSlippage

/-- A row of an order book. A number that is missing counts as zero. -/
structure Level where
  price : Option ℚ
  volume : Option ℚ

def Level.priceOf (level : Level) : ℚ := level.price.getD 0

def Level.volumeOf (level : Level) : ℚ := level.volume.getD 0

structure OrderBook where
  asks : List Level
  bids : List Level

def OrderBook.relevantSide (orderBook : OrderBook) : OrderSide → List Level
  | .buy => orderBook.asks
  | .sell => orderBook.bids

/-- `Math.round(x * 100) / 100` -/
def hundredths (x : ℚ) : ℚ := (Js.round (x * 100) : ℚ) / 100

/-! ## The estimates -/

section Estimates

-- `hundredths` in the code, `id` for what it rounds
variable (rounding : ℚ → ℚ)

/-- Positive if unfavorable. -/
def calculateSlippageBps (expectedPrice actualPrice : ℚ) (action : OrderSide) : ℚ :=
  if expectedPrice ≤ 0 ∨ actualPrice ≤ 0 then 0
  else
    let diff :=
      match action with
      | .buy => (actualPrice - expectedPrice) / expectedPrice
      | .sell => (expectedPrice - actualPrice) / expectedPrice
    rounding (diff * 10000)

/-- One percent beyond the last price of the book. -/
def worstCasePrice (levels : List Level) (action : OrderSide) : ℚ :=
  let lastPrice := levels.getLast?.elim 0 Level.priceOf
  match action with
  | .buy => lastPrice * (101 / 100)
  | .sell => lastPrice * (99 / 100)

/-- The estimated average price, with what the book does not hold at the worst-case price. -/
def vwap (levels : List Level) (quantity : ℚ) (action : OrderSide) : ℚ :=
  let filled := Filling.fill Level.priceOf Level.volumeOf levels quantity 0
  let totalCost :=
    if 0 < filled.1 then filled.2 + filled.1 * worstCasePrice levels action else filled.2
  totalCost / quantity

def estimateSlippageFromOrderBook (fetchOrderBook : Except String OrderBook) (quantity : ℚ)
    (action : OrderSide) (expectedPrice : ℚ) : ℚ :=
  match fetchOrderBook with
  | .error _ => 0
  | .ok orderBook =>
    let relevantSide := orderBook.relevantSide action
    if relevantSide = [] then 0
    else |calculateSlippageBps rounding expectedPrice (vwap relevantSide quantity action) action|

def calculateSlippage (orderBook : OrderBook) (quantity : ℚ) (side : OrderSide) : ℚ :=
  let orders := orderBook.relevantSide side
  if orders = [] then 0
  else
    let filled := Filling.fill Level.priceOf Level.volumeOf orders quantity 0
    if 0 < quantity then
      let filledQuantity := quantity - filled.1
      if filledQuantity ≤ 0 then 0
      else
        let weightedAveragePrice := filled.2 / filledQuantity
        let marketPrice := orders.head?.elim 0 Level.priceOf
        if marketPrice = 0 then 0
        else rounding (|(weightedAveragePrice - marketPrice) / marketPrice| * 100)
    else 0

end Estimates

/-- The constructor of the service requires the order of the two thresholds. -/
structure SlippageLimitsConfig where
  maxSlippageBps : ℚ
  warnSlippageBps : ℚ
  enabled : Bool
  warn_lt_max : warnSlippageBps < maxSlippageBps

structure SlippageExceededException where
  estimatedSlippage : ℚ
  maxSlippage : ℚ

/-- Whether a warning is logged, of an order that is not rejected. -/
def validateSlippage (slippageLimits : SlippageLimitsConfig)
    (fetchOrderBook : Except String OrderBook) (quantity : ℚ) (action : OrderSide)
    (expectedPrice : ℚ) : Except SlippageExceededException Bool :=
  if slippageLimits.enabled then
    let estimatedSlippageBps :=
      estimateSlippageFromOrderBook hundredths fetchOrderBook quantity action expectedPrice
    if slippageLimits.maxSlippageBps < estimatedSlippageBps then
      .error ⟨hundredths estimatedSlippageBps, slippageLimits.maxSlippageBps⟩
    else .ok (decide (slippageLimits.warnSlippageBps < estimatedSlippageBps))
  else .ok false

/-! ## Books in order -/

/-- As the side of an order sees it: not more to pay, not less to receive. -/
def NoWorse (side : OrderSide) (price expected : ℚ) : Prop :=
  match side with
  | .buy => price ≤ expected
  | .sell => expected ≤ price

/-- Both sides from the best price on, with no price or volume missing. -/
structure SortedBook extends OrderBook where
  sorted : ∀ side, (toOrderBook.relevantSide side).Pairwise fun a b =>
    NoWorse side a.priceOf b.priceOf
  price_pos : ∀ side, ∀ level ∈ toOrderBook.relevantSide side, 0 < level.priceOf
  volume_pos : ∀ side, ∀ level ∈ toOrderBook.relevantSide side, 0 < level.volumeOf

def sign : OrderSide → ℚ
  | .buy => 1
  | .sell => -1

def signedPrice (side : OrderSide) (level : Level) : ℚ := sign side * level.priceOf

section Signed

variable {side : OrderSide} {price expected : ℚ} {levels : List Level}

theorem noWorse_iff : NoWorse side price expected ↔ sign side * price ≤ sign side * expected := by
  cases side with
  | buy =>
    rw [sign, one_mul, one_mul]
    exact Iff.rfl
  | sell =>
    rw [sign, neg_one_mul, neg_one_mul, neg_le_neg_iff]
    exact Iff.rfl

theorem abs_sign_mul (side : OrderSide) (x : ℚ) : |sign side * x| = |x| := by
  cases side with
  | buy => rw [sign, one_mul]
  | sell => rw [sign, neg_one_mul, abs_neg]

theorem noWorse_worstCasePrice {last : Level} (hlast : levels.getLast? = some last)
    (hpos : 0 < last.priceOf) : NoWorse side last.priceOf (worstCasePrice levels side) := by
  unfold worstCasePrice
  rw [hlast]
  cases side with
  | buy =>
    show last.priceOf ≤ last.priceOf * (101 / 100)
    linarith
  | sell =>
    show last.priceOf * (99 / 100) ≤ last.priceOf
    linarith

theorem worstCasePrice_pos {last : Level} (hlast : levels.getLast? = some last)
    (hpos : 0 < last.priceOf) : 0 < worstCasePrice levels side := by
  unfold worstCasePrice
  rw [hlast]
  cases side with
  | buy | sell => exact mul_pos hpos (by norm_num)

end Signed

section Walk

variable {book : SortedBook} {side : OrderSide} {best : Level} {rest : List Level} {q q' : ℚ}

def SortedBook.depth (book : SortedBook) (side : OrderSide) : ℚ :=
  Filling.depth Level.volumeOf (book.relevantSide side)

/-- The average price when what the book does not hold is taken at the worst-case price. -/
def SortedBook.average (book : SortedBook) (side : OrderSide) (q : ℚ) : ℚ :=
  Filling.average Level.priceOf Level.volumeOf (worstCasePrice (book.relevantSide side) side)
    (book.relevantSide side) q

theorem ascending (book : SortedBook) (side : OrderSide) :
    Filling.Ascending (signedPrice side) Level.volumeOf
      (sign side * worstCasePrice (book.relevantSide side) side) (book.relevantSide side) where
  sorted := (book.sorted side).imp noWorse_iff.mp
  le_missing := by
    intro level hlevel
    have hne := List.ne_nil_of_mem hlevel
    have hlast := List.getLast_mem hne
    have hworst := @noWorse_worstCasePrice side _ _ (List.getLast?_eq_some_getLast hne)
      (book.price_pos side _ hlast)
    have hle := ((book.sorted side).imp noWorse_iff.mp).rel_getLast_of_rel_getLast_getLast hlevel
      (le_refl _)
    exact hle.trans (noWorse_iff.mp hworst)
  volume_pos := book.volume_pos side

theorem signed_average (book : SortedBook) (side : OrderSide) (q : ℚ) :
    Filling.average (signedPrice side) Level.volumeOf
        (sign side * worstCasePrice (book.relevantSide side) side) (book.relevantSide side) q =
      sign side * book.average side q := by
  unfold Filling.average SortedBook.average Filling.average
  rw [mul_div_assoc']
  exact congrArg (· / q) (Filling.cost_mul (sign side) _ q)

theorem vwap_eq_average (book : SortedBook) (side : OrderSide) (hq : 0 < q) :
    vwap (book.relevantSide side) q side = book.average side q := by
  unfold vwap SortedBook.average Filling.average
  rw [Filling.fill_spec (book.volume_pos side) hq.le (worstCasePrice (book.relevantSide side) side)
    0, zero_add]
  refine congrArg (· / q) ?_
  dsimp only
  rcases le_or_gt q (Filling.depth Level.volumeOf (book.relevantSide side)) with hle | hlt
  · rw [min_eq_left hle, sub_self, if_neg (lt_irrefl _)]
  · rw [min_eq_right hlt.le, if_pos (sub_pos.mpr hlt),
      ← Filling.cost_of_depth_le (book.volume_pos side) hlt.le]

theorem average_noWorse (book : SortedBook) (side : OrderSide) (hq : 0 < q) (hle : q ≤ q') :
    NoWorse side (book.average side q) (book.average side q') := by
  rw [noWorse_iff, ← signed_average, ← signed_average]
  exact Filling.average_mono (ascending book side) hq hle

theorem best_noWorse (hlevs : book.relevantSide side = best :: rest) (hq : 0 < q) :
    NoWorse side best.priceOf (book.average side q) := by
  have hascending := ascending book side
  have havg := signed_average book side q
  rw [hlevs] at hascending havg
  have hfirst := Filling.first_le_average hascending hq
  rw [havg] at hfirst
  exact noWorse_iff.mpr hfirst

theorem average_best (hlevs : book.relevantSide side = best :: rest) (hq : 0 < q)
    (hle : q ≤ best.volumeOf) : book.average side q = best.priceOf := by
  unfold SortedBook.average
  rw [hlevs]
  exact Filling.average_first hq hle

theorem average_pos (hlevs : book.relevantSide side ≠ []) (hq : 0 < q) :
    0 < book.average side q := by
  have hworst := @worstCasePrice_pos side _ _ (List.getLast?_eq_some_getLast hlevs)
    (book.price_pos side _ (List.getLast_mem hlevs))
  exact div_pos (Filling.cost_pos (book.price_pos side) hworst (book.volume_pos side) hq) hq

end Walk

/-! ## What the estimates measure -/

def slip (side : OrderSide) (expected price : ℚ) : ℚ :=
  sign side * (price - expected) / expected * 10000

section Measure

variable {book : SortedBook} {side : OrderSide} {best : Level} {rest : List Level}
  {q expected price price' x y : ℚ} {rounding : ℚ → ℚ}

theorem hundredths_mono (h : x ≤ y) : hundredths x ≤ hundredths y := by
  have hround : Js.round (x * 100) ≤ Js.round (y * 100) := Int.floor_le_floor (by linarith)
  exact div_le_div_of_nonneg_right (Int.cast_le.mpr hround) (by norm_num)

@[simp] theorem hundredths_zero : hundredths 0 = 0 := by decide +kernel

theorem slip_mono (hexp : 0 < expected) (h : NoWorse side price price') :
    slip side expected price ≤ slip side expected price' := by
  have hsigned := noWorse_iff.mp h
  refine mul_le_mul_of_nonneg_right ?_ (by norm_num)
  refine div_le_div_of_nonneg_right ?_ hexp.le
  rw [mul_sub, mul_sub]
  exact sub_le_sub_right hsigned _

@[simp] theorem slip_self (side : OrderSide) (expected : ℚ) : slip side expected expected = 0 := by
  rw [slip, sub_self, mul_zero, zero_div, zero_mul]

theorem slip_nonneg (hexp : 0 < expected) (h : NoWorse side expected price) :
    0 ≤ slip side expected price := by
  rw [← slip_self side expected]
  exact slip_mono hexp h

theorem slip_nonpos (hexp : 0 < expected) (h : NoWorse side price expected) :
    slip side expected price ≤ 0 := by
  rw [← slip_self side expected]
  exact slip_mono hexp h

theorem calculateSlippageBps_eq (hexp : 0 < expected) (hprice : 0 < price) :
    calculateSlippageBps rounding expected price side = rounding (slip side expected price) := by
  have hneg : ¬ (expected ≤ 0 ∨ price ≤ 0) := not_or.mpr ⟨not_le.mpr hexp, not_le.mpr hprice⟩
  unfold calculateSlippageBps slip
  rw [if_neg hneg]
  cases side with
  | buy =>
    rw [sign, one_mul]
  | sell =>
    rw [sign, neg_one_mul, neg_sub]

theorem estimate_of_nonpos (hexp : expected ≤ 0) :
    estimateSlippageFromOrderBook rounding (.ok book.toOrderBook) q side expected = 0 := by
  have hzero : ∀ p, calculateSlippageBps rounding expected p side = 0 := fun p =>
    if_pos (Or.inl hexp)
  unfold estimateSlippageFromOrderBook
  dsimp only
  rw [hzero, abs_zero, ite_self]

theorem estimate_of_nil (hlevs : book.relevantSide side = []) :
    estimateSlippageFromOrderBook rounding (.ok book.toOrderBook) q side expected = 0 :=
  if_pos hlevs

theorem estimate_eq (hlevs : book.relevantSide side ≠ []) (hexp : 0 < expected) (hq : 0 < q) :
    estimateSlippageFromOrderBook rounding (.ok book.toOrderBook) q side expected =
      |rounding (slip side expected (book.average side q))| := by
  unfold estimateSlippageFromOrderBook
  dsimp only
  rw [if_neg hlevs, vwap_eq_average book side hq,
    calculateSlippageBps_eq hexp (average_pos hlevs hq)]

theorem calculateSlippage_of_nil (hlevs : book.relevantSide side = []) :
    calculateSlippage rounding book.toOrderBook q side = 0 := if_pos hlevs

theorem depth_pos (hlevs : book.relevantSide side = best :: rest) : 0 < book.depth side := by
  have hvol := book.volume_pos side
  unfold SortedBook.depth
  rw [hlevs] at hvol ⊢
  rw [Filling.depth_cons]
  exact add_pos_of_pos_of_nonneg (hvol best List.mem_cons_self)
    (Filling.depth_nonneg fun o ho => hvol o (List.mem_cons_of_mem _ ho))

theorem calculateSlippage_eq (hlevs : book.relevantSide side = best :: rest) (hq : 0 < q) :
    calculateSlippage rounding book.toOrderBook q side =
      rounding (slip side best.priceOf (book.average side (min q (book.depth side))) / 100) := by
  have hne : book.relevantSide side ≠ [] := hlevs ▸ List.cons_ne_nil best rest
  have hbest : best ∈ book.relevantSide side := hlevs ▸ List.mem_cons_self
  have hpos := book.price_pos side best hbest
  have hfld : 0 < min q (book.depth side) := lt_min hq (depth_pos hlevs)
  have hslip := slip_nonneg hpos (best_noWorse hlevs hfld)
  have hmkt : (book.relevantSide side).head?.elim 0 Level.priceOf = best.priceOf := by
    rw [hlevs]
    rfl
  have hfill : Filling.fill Level.priceOf Level.volumeOf (book.relevantSide side) q 0 =
      (q - min q (book.depth side), 0 + Filling.cost Level.priceOf Level.volumeOf
        (worstCasePrice (book.relevantSide side) side) (book.relevantSide side)
        (min q (book.depth side))) :=
    Filling.fill_spec (book.volume_pos side) hq.le _ 0
  unfold calculateSlippage
  dsimp only
  rw [if_neg hne, if_pos hq, hfill, zero_add, hmkt]
  dsimp only
  rw [sub_sub_cancel, if_neg (not_le_of_gt hfld), if_neg hpos.ne']
  refine congrArg rounding ?_
  rw [← abs_of_nonneg hslip]
  unfold slip
  rw [mul_div_assoc, mul_assoc, abs_sign_mul, abs_mul, abs_of_pos (by norm_num : (0 : ℚ) < 10000)]
  show |(book.average side (min q (book.depth side)) - best.priceOf) / best.priceOf| * 100 = _
  linarith

end Measure

/-! ## How the estimates depend on the quantity -/

def Rejected (slippageLimits : SlippageLimitsConfig) (orderBook : OrderBook) (quantity : ℚ)
    (action : OrderSide) (expectedPrice : ℚ) : Prop :=
  ∃ exception,
    validateSlippage slippageLimits (.ok orderBook) quantity action expectedPrice = .error exception

/-- What holds of the two estimates and of the check, for a side of a book, an expected price and
limits. -/
structure SlippageSound (book : SortedBook) (side : OrderSide) (expected : ℚ)
    (limits : SlippageLimitsConfig) : Prop where
  agree : ∀ best ∈ (book.relevantSide side).head?, ∀ q, 0 < q → q ≤ book.depth side →
    estimateSlippageFromOrderBook id (.ok book.toOrderBook) q side best.priceOf =
      100 * calculateSlippage id book.toOrderBook q side
  percent_mono : ∀ q q', 0 < q → q ≤ q' →
    calculateSlippage hundredths book.toOrderBook q side ≤
      calculateSlippage hundredths book.toOrderBook q' side
  /-- From the quantity on whose average is the expected price. -/
  bps_mono : ∀ q q', 0 < q → q ≤ q' →
    NoWorse side expected (vwap (book.relevantSide side) q side) →
    estimateSlippageFromOrderBook hundredths (.ok book.toOrderBook) q side expected ≤
      estimateSlippageFromOrderBook hundredths (.ok book.toOrderBook) q' side expected
  /-- Up to it, what is measured is how much better the average is. -/
  bps_falls : ∀ q q', 0 < q → q ≤ q' →
    NoWorse side (vwap (book.relevantSide side) q' side) expected →
    estimateSlippageFromOrderBook hundredths (.ok book.toOrderBook) q' side expected ≤
      estimateSlippageFromOrderBook hundredths (.ok book.toOrderBook) q side expected
  /-- Averages no worse than expected pass if the best price does. -/
  accepted : (∀ q, 0 < q → book.relevantSide side ≠ [] →
      NoWorse side (vwap (book.relevantSide side) q side) expected →
      ¬ Rejected limits book.toOrderBook q side expected) ↔
    (limits.enabled = true → ∀ best ∈ (book.relevantSide side).head?,
      NoWorse side best.priceOf expected →
        |calculateSlippageBps hundredths expected best.priceOf side| ≤ limits.maxSlippageBps)

section Sound

variable {book : SortedBook} {side : OrderSide} {best : Level} {rest : List Level}
  {q q' expected : ℚ} {limits : SlippageLimitsConfig}

theorem rejected_iff {orderBook : OrderBook} :
    Rejected limits orderBook q side expected ↔
      limits.enabled = true ∧ limits.maxSlippageBps <
        estimateSlippageFromOrderBook hundredths (.ok orderBook) q side expected := by
  unfold Rejected validateSlippage
  by_cases hen : limits.enabled = true
  · rw [if_pos hen, and_iff_right hen]
    dsimp only
    split_ifs with hover
    · exact iff_of_true ⟨_, rfl⟩ hover
    · refine iff_of_false ?_ hover
      rintro ⟨_, h⟩
      cases h
  · rw [if_neg hen]
    refine iff_of_false ?_ fun h => hen h.1
    rintro ⟨_, h⟩
    cases h

theorem abs_hundredths_mono {x y : ℚ} (hx : 0 ≤ x) (h : x ≤ y) :
    |hundredths x| ≤ |hundredths y| := by
  have hnn := hundredths_mono hx
  rw [hundredths_zero] at hnn
  exact abs_le_abs_of_nonneg hnn (hundredths_mono h)

theorem abs_hundredths_anti {x y : ℚ} (hy : y ≤ 0) (h : x ≤ y) :
    |hundredths y| ≤ |hundredths x| := by
  have hnonpos := hundredths_mono hy
  rw [hundredths_zero] at hnonpos
  exact abs_le_abs_of_nonpos hnonpos (hundredths_mono h)

theorem bps_mono (hq : 0 < q) (hle : q ≤ q')
    (havg : NoWorse side expected (vwap (book.relevantSide side) q side)) :
    estimateSlippageFromOrderBook hundredths (.ok book.toOrderBook) q side expected ≤
      estimateSlippageFromOrderBook hundredths (.ok book.toOrderBook) q' side expected := by
  rcases le_or_gt expected 0 with hnonpos | hexp
  · rw [estimate_of_nonpos hnonpos, estimate_of_nonpos hnonpos]
  by_cases hlevs : book.relevantSide side = []
  · rw [estimate_of_nil hlevs, estimate_of_nil hlevs]
  rw [vwap_eq_average book side hq] at havg
  rw [estimate_eq hlevs hexp hq, estimate_eq hlevs hexp (hq.trans_le hle)]
  exact abs_hundredths_mono (slip_nonneg hexp havg)
    (slip_mono hexp (average_noWorse book side hq hle))

theorem bps_falls (hq : 0 < q) (hle : q ≤ q')
    (havg : NoWorse side (vwap (book.relevantSide side) q' side) expected) :
    estimateSlippageFromOrderBook hundredths (.ok book.toOrderBook) q' side expected ≤
      estimateSlippageFromOrderBook hundredths (.ok book.toOrderBook) q side expected := by
  have hq' := hq.trans_le hle
  rcases le_or_gt expected 0 with hnonpos | hexp
  · rw [estimate_of_nonpos hnonpos, estimate_of_nonpos hnonpos]
  by_cases hlevs : book.relevantSide side = []
  · rw [estimate_of_nil hlevs, estimate_of_nil hlevs]
  rw [vwap_eq_average book side hq'] at havg
  rw [estimate_eq hlevs hexp hq, estimate_eq hlevs hexp hq']
  exact abs_hundredths_anti (slip_nonpos hexp havg)
    (slip_mono hexp (average_noWorse book side hq hle))

theorem percent_mono (hq : 0 < q) (hle : q ≤ q') :
    calculateSlippage hundredths book.toOrderBook q side ≤
      calculateSlippage hundredths book.toOrderBook q' side := by
  cases hlevs : book.relevantSide side with
  | nil => rw [calculateSlippage_of_nil hlevs, calculateSlippage_of_nil hlevs]
  | cons best =>
    have hbest : best ∈ book.relevantSide side := hlevs ▸ List.mem_cons_self
    have hfld : 0 < min q (book.depth side) := lt_min hq (depth_pos hlevs)
    rw [calculateSlippage_eq hlevs hq, calculateSlippage_eq hlevs (hq.trans_le hle)]
    refine hundredths_mono (div_le_div_of_nonneg_right ?_ (by norm_num))
    exact slip_mono (book.price_pos side best hbest)
      (average_noWorse book side hfld (min_le_min_right _ hle))

theorem estimates_agree (hlevs : book.relevantSide side = best :: rest) (hq : 0 < q)
    (hle : q ≤ book.depth side) :
    estimateSlippageFromOrderBook id (.ok book.toOrderBook) q side best.priceOf =
      100 * calculateSlippage id book.toOrderBook q side := by
  have hne : book.relevantSide side ≠ [] := hlevs ▸ List.cons_ne_nil best rest
  have hpos := book.price_pos side best (hlevs ▸ List.mem_cons_self)
  rw [estimate_eq hne hpos hq, calculateSlippage_eq hlevs hq, min_eq_left hle, id, id,
    abs_of_nonneg (slip_nonneg hpos (best_noWorse hlevs hq)), mul_div_cancel₀]
  norm_num

theorem NoWorse.trans {a b c : ℚ} (h : NoWorse side a b) (h' : NoWorse side b c) :
    NoWorse side a c := by
  rw [noWorse_iff] at *
  exact h.trans h'

theorem estimate_best (hlevs : book.relevantSide side = best :: rest) (hq : 0 < q)
    (hle : q ≤ best.volumeOf) :
    estimateSlippageFromOrderBook hundredths (.ok book.toOrderBook) q side expected =
      |calculateSlippageBps hundredths expected best.priceOf side| := by
  have hne : book.relevantSide side ≠ [] := hlevs ▸ List.cons_ne_nil best rest
  unfold estimateSlippageFromOrderBook
  dsimp only
  rw [if_neg hne, vwap_eq_average book side hq, average_best hlevs hq hle]

theorem accepted_iff (hlevs : book.relevantSide side = best :: rest) :
    (∀ q, 0 < q → NoWorse side (vwap (book.relevantSide side) q side) expected →
      ¬ Rejected limits book.toOrderBook q side expected) ↔
    (limits.enabled = true → NoWorse side best.priceOf expected →
      |calculateSlippageBps hundredths expected best.priceOf side| ≤ limits.maxSlippageBps) := by
  have hvol := book.volume_pos side best (hlevs ▸ List.mem_cons_self)
  constructor
  · intro h hen hbest
    have havg := vwap_eq_average book side hvol
    rw [average_best hlevs hvol le_rfl] at havg
    have hpasses := h best.volumeOf hvol (havg.symm ▸ hbest)
    rw [rejected_iff, not_and, not_lt, estimate_best hlevs hvol le_rfl] at hpasses
    exact hpasses hen
  · intro h q hq hfavorable hrejd
    obtain ⟨hen, hover⟩ := rejected_iff.mp hrejd
    have hfirst : 0 < min q best.volumeOf := lt_min hq hvol
    have hbest : NoWorse side best.priceOf expected := by
      rw [vwap_eq_average book side hq] at hfavorable
      exact (best_noWorse hlevs hq).trans hfavorable
    have hfalls := @bps_falls book side _ q expected hfirst (min_le_left q best.volumeOf) hfavorable
    rw [estimate_best hlevs hfirst (min_le_right _ _)] at hfalls
    exact absurd (hfalls.trans (h hen hbest)) (not_le.mpr hover)

/-- **The estimates of a sorted book.** -/
theorem slippageSound (book : SortedBook) (side : OrderSide) (expected : ℚ)
    (limits : SlippageLimitsConfig) : SlippageSound book side expected limits where
  agree := by
    intro best hbest q hq hle
    obtain ⟨_, hlevels⟩ := List.head?_eq_some_iff.mp hbest
    exact estimates_agree hlevels hq hle
  percent_mono := fun q q' => percent_mono
  bps_mono := fun q q' => bps_mono
  bps_falls := fun q q' => bps_falls
  accepted := by
    cases hlevels : book.relevantSide side with
    | nil =>
      refine iff_of_true (fun q hq hne => absurd rfl hne) fun henabled best hbest => ?_
      cases hbest
    | cons best rest =>
      have haccepted := @accepted_iff book side best rest expected limits hlevels
      rw [hlevels] at haccepted
      constructor
      · intro h henabled best' hbest'
        cases hbest'
        exact haccepted.mp (fun q hq => h q hq (List.cons_ne_nil _ _)) henabled
      · intro h q hq hne
        exact haccepted.mpr (fun henabled => h henabled best rfl) q hq

end Sound

def cheapBook : SortedBook where
  asks := [⟨some 98, some 1⟩, ⟨some 100, some 1⟩]
  bids := []
  sorted := by
    intro side
    cases side with
    | buy => exact List.pairwise_pair.mpr (by decide +kernel : (98 : ℚ) ≤ 100)
    | sell => exact List.Pairwise.nil
  price_pos := by
    intro side
    cases side with
    | buy | sell => decide +kernel
  volume_pos := by
    intro side
    cases side with
    | buy | sell => decide +kernel

def defaultLimits : SlippageLimitsConfig where
  maxSlippageBps := 100
  warnSlippageBps := 50
  enabled := true
  warn_lt_max := by decide +kernel

theorem cheap_rejected :
    vwap cheapBook.asks 1 .buy = 98 ∧ NoWorse .buy 98 100 ∧
      validateSlippage defaultLimits (.ok cheapBook.toOrderBook) 1 .buy 100 = .error ⟨200, 100⟩ ∧
      estimateSlippageFromOrderBook hundredths (.ok cheapBook.toOrderBook) 1 .buy 100 = 200 ∧
      estimateSlippageFromOrderBook hundredths (.ok cheapBook.toOrderBook) 2 .buy 100 = 100 := by
  have hnoWorse : (98 : ℚ) ≤ 100 := by decide +kernel
  have hone :
      estimateSlippageFromOrderBook hundredths (.ok cheapBook.toOrderBook) 1 .buy 100 = 200 := by
    decide +kernel
  refine ⟨by decide +kernel, hnoWorse, ?_, hone, by decide +kernel⟩
  unfold validateSlippage
  rw [hone]
  have hrounded : hundredths 200 = 200 := by decide +kernel
  have hover : defaultLimits.maxSlippageBps < 200 := by decide +kernel
  have henabled : defaultLimits.enabled = true := rfl
  rw [if_pos henabled]
  dsimp only
  rw [if_pos hover, hrounded]
  rfl

end Chansey.OrderBookSlippage
