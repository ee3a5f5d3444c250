import Mathlib.Algebra.BigOperators.Ring.List
import Mathlib.Tactic.Ring
import Mathlib.Tactic.FieldSimp
import Mathlib.Algebra.Order.Field.Basic

/-!
# Lots under the average-cost method

What a holding was bought for: a list of lots, each a quantity at a price. A sale takes the same
share of every lot, so it leaves the mean price of what is held as it is.

* `buy`, `sell`: **`quantity_sell`**, **`cost_sell`**; **`mean_sell`**: a sale keeps the mean.
* **`abs_average_sub_mean_le`**: an average that is off the mean is off it by no more after a buy.
-/

structure Lot (K : Type) where
  quantity : K
  price : K

abbrev Lots (K : Type) := List (Lot K)

namespace Lots

variable {K : Type} [Field K] (lots : Lots K)

def quantity : K := (lots.map (·.quantity)).sum

def cost : K := (lots.map fun l => l.quantity * l.price).sum

def mean : K := cost lots / quantity lots

def buy (quantity price : K) : Lots K := lots ++ [⟨quantity, price⟩]

def scale (r : K) : Lots K := lots.map fun l => { l with quantity := r * l.quantity }

/-- Sell `sold` out of all lots alike. -/
def sell (sold : K) : Lots K := scale lots ((quantity lots - sold) / quantity lots)

@[simp] theorem quantity_nil : quantity ([] : Lots K) = 0 := rfl

@[simp] theorem cost_nil : cost ([] : Lots K) = 0 := rfl

@[simp] theorem quantity_buy (q p : K) : quantity (buy lots q p) = quantity lots + q := by
  simp [quantity, buy]

@[simp] theorem cost_buy (q p : K) : cost (buy lots q p) = cost lots + q * p := by
  simp [cost, buy]

theorem quantity_scale (r : K) : quantity (scale lots r) = r * quantity lots := by
  simp [quantity, scale, Function.comp_def, List.sum_map_mul_left]

theorem cost_scale (r : K) : cost (scale lots r) = r * cost lots := by
  simp only [cost, scale, List.map_map, Function.comp_def, mul_assoc]
  rw [List.sum_map_mul_left]

variable {lots}

theorem quantity_sell (h : quantity lots ≠ 0) (sold : K) :
    quantity (sell lots sold) = quantity lots - sold := by
  rw [sell, quantity_scale, div_mul_cancel₀ _ h]

theorem cost_sell (sold : K) : cost (sell lots sold) = (quantity lots - sold) * mean lots := by
  rw [sell, cost_scale, mean]
  ring

theorem mean_sell {sold : K} (h : quantity lots ≠ 0) (hleft : quantity lots - sold ≠ 0) :
    mean (sell lots sold) = mean lots := by
  rw [mean, cost_sell, quantity_sell h, mul_div_cancel_left₀ _ hleft]

theorem abs_average_sub_mean_le [LinearOrder K] [IsStrictOrderedRing K] {average error q p : K}
    (hlots : 0 ≤ quantity lots) (hq : 0 ≤ q) (hsome : 0 < quantity lots + q)
    (hempty : quantity lots = 0 → cost lots = 0) (herror : 0 ≤ error)
    (h : 0 < quantity lots → |average - mean lots| ≤ error) :
    |(quantity lots * average + q * p) / (quantity lots + q) - mean (buy lots q p)| ≤ error := by
  have hcost : cost lots = quantity lots * mean lots := by
    rcases hlots.eq_or_lt with hzero | hpos
    · rw [← hzero, zero_mul, hempty hzero.symm]
    · rw [mean, mul_div_cancel₀ _ hpos.ne']
  have hdiff : (quantity lots * average + q * p) / (quantity lots + q) - mean (buy lots q p) =
      quantity lots * (average - mean lots) / (quantity lots + q) := by
    rw [mean, cost_buy, quantity_buy, hcost, ← sub_div]
    ring
  rw [hdiff, abs_div, abs_of_pos hsome, abs_mul, abs_of_nonneg hlots, div_le_iff₀ hsome]
  rcases hlots.eq_or_lt with hzero | hpos
  · rw [← hzero, zero_mul, zero_add]
    exact mul_nonneg herror hq
  · calc quantity lots * |average - mean lots| ≤ quantity lots * error :=
          mul_le_mul_of_nonneg_left (h hpos) hlots
      _ ≤ error * (quantity lots + q) := by
          rw [mul_add, mul_comm]
          exact le_add_of_nonneg_right (mul_nonneg herror hq)

end Lots
