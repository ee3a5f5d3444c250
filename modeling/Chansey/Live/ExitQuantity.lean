import Chansey.Live.ExitAttachment
import Mathlib.Data.Nat.Log
import Mathlib.Data.Rat.Floor
import Mathlib.Algebra.Order.Archimedean.Basic

/-!
# The quantity of an exit order

The quantity of a leg is cut to whole steps of the market and printed with the decimals that belong to
the step. An exchange names the step itself, or a number of decimals.
-/

namespace Chansey

/-! ## Limits of a market -/

inductive AmountPrecision where
  | tickSize (step : { step : ℚ // 0 < step })
  | decimalPlaces (count : ℤ)
  | significantDigits (count : ℤ)

def precisionToStepSize : Option AmountPrecision → ℚ
  | none => 0
  | some (.tickSize step) => step
  | some (.decimalPlaces count) => 10 ^ (-count)
  | some (.significantDigits count) => 10 ^ (-count)

/-- The market of a symbol. An exchange states no negative minimum. -/
structure ExchangeMarket where
  amountPrecision : Option AmountPrecision
  minAmount : Option ℚ := none
  minCost : Option ℚ := none
  minAmount_nonneg : 0 ≤ minAmount.getD 0
  minCost_nonneg : 0 ≤ minCost.getD 0

/-- `Math.max(0, Math.round(-Math.log10(step)))`, by the magnitude of the square of the step. -/
def roundedDecimals (step : ℚ) : ℕ := (Nat.log 10 ⌊1 / step ^ 2⌋₊ + 1) / 2

/-- The limits of a market that is found, with eight decimals for an unknown step. -/
def getMarketLimits (market : ExchangeMarket) : ExchangeMarketLimits :=
  let amountStep := precisionToStepSize market.amountPrecision
  { minAmount := market.minAmount.getD 0
    amountStep := amountStep
    minCost := market.minCost.getD 0
    amountPrecision := if 0 < amountStep then roundedDecimals amountStep else 8 }

/-! ## Printed quantities -/

section Printed

variable {x : ℚ} {d : ℕ}

theorem toDecimalPlaces_of_int {z : ℤ} (h : x * 10 ^ d = z) : toDecimalPlaces x d = x := by
  have hscale : (0 : ℚ) < 10 ^ d := by positivity
  have hround : ∀ (y : ℚ) (z : ℤ), y * 10 ^ d = z → (⌊y * 10 ^ d + 1 / 2⌋ : ℚ) / 10 ^ d = y := by
    intro y z hy
    rw [hy, Int.floor_intCast_add, show ⌊(1 / 2 : ℚ)⌋ = 0 by norm_num, add_zero, ← hy,
      mul_div_cancel_right₀ _ hscale.ne']
  unfold toDecimalPlaces
  dsimp only
  split_ifs with hneg
  · rw [abs_of_neg hneg, hround (-x) (-z) (by push_cast; linarith), neg_neg]
  · rw [abs_of_nonneg (not_lt.mp hneg), hround x z h]

theorem toDecimalPlaces_of_nonneg (h : 0 ≤ x) :
    toDecimalPlaces x d = (⌊x * 10 ^ d + 1 / 2⌋ : ℚ) / 10 ^ d := by
  unfold toDecimalPlaces
  dsimp only
  rw [if_neg (not_lt.mpr h), abs_of_nonneg h]

theorem rounds_up_of_not_int (h : ¬ ∃ z : ℤ, x = z) :
    x < (⌊x + 1 / 2⌋ : ℚ) ∨ -x < (⌊-x + 1 / 2⌋ : ℚ) := by
  by_contra hnot
  rw [not_or, not_lt, not_lt] at hnot
  obtain ⟨_, _⟩ := hnot
  have hfloor := Int.lt_floor_add_one (x + 1 / 2)
  have hfloor' := Int.lt_floor_add_one (-x + 1 / 2)
  -- the two integers add up to more than `-1`
  have hsum : -1 < ⌊x + 1 / 2⌋ + ⌊-x + 1 / 2⌋ := by
    have hq : ((-1 : ℤ) : ℚ) < ((⌊x + 1 / 2⌋ + ⌊-x + 1 / 2⌋ : ℤ) : ℚ) := by
      push_cast
      linarith
    exact_mod_cast hq
  have hle : (0 : ℚ) ≤ ((⌊x + 1 / 2⌋ + ⌊-x + 1 / 2⌋ : ℤ) : ℚ) := by
    exact_mod_cast (by omega : 0 ≤ ⌊x + 1 / 2⌋ + ⌊-x + 1 / 2⌋)
  push_cast at hle
  exact h ⟨⌊x + 1 / 2⌋, by linarith⟩

theorem exists_printed_larger {step : ℚ} (hstep : 0 < step)
    (h : ¬ ∃ z : ℤ, step * 10 ^ d = z) (bound : ℚ) :
    ∃ k : ℕ, bound ≤ k * step ∧ k * step < toDecimalPlaces (k * step) d := by
  have hscale : (0 : ℚ) < 10 ^ d := by positivity
  set t := step * 10 ^ d with ht
  have hden : (t.den : ℚ) * t = t.num := by
    rw [mul_comm]
    exact Rat.mul_den_eq_num t
  obtain ⟨N, hmax⟩ := exists_nat_ge (max (bound / step + 1) 1)
  have hN : bound / step + 1 ≤ N := (le_max_left _ _).trans hmax
  have hpos : 1 ≤ N := by exact_mod_cast (le_max_right _ _).trans hmax
  have hbound : ∀ k : ℕ, (N : ℚ) - 1 ≤ k → bound ≤ k * step := by
    intro k hk
    have hle : bound / step ≤ k := by linarith
    exact (div_le_iff₀ hstep).mp hle
  have hlarge : N ≤ t.den * N := Nat.le_mul_of_pos_left N t.den_pos
  -- a multiple of the denominator of `t` shifts the printed number by a whole number
  have hprt : ∀ (k : ℕ) (y : ℚ), (k : ℚ) * t = ((t.num * N : ℤ) : ℚ) + y →
      y < (⌊y + 1 / 2⌋ : ℚ) → k * step < toDecimalPlaces (k * step) d := by
    intro k y hk hy
    have hnn : (0 : ℚ) ≤ k * step := by positivity
    rw [toDecimalPlaces_of_nonneg hnn, lt_div_iff₀ hscale, mul_assoc, ← ht, hk, add_assoc,
      Int.floor_intCast_add]
    push_cast
    linarith
  rcases rounds_up_of_not_int h with hup | hup
  · refine ⟨t.den * N + 1, hbound _ ?_, hprt _ t ?_ hup⟩
    · have hcast : (N : ℚ) ≤ ((t.den * N : ℕ) : ℚ) := by exact_mod_cast hlarge
      push_cast at hcast ⊢
      linarith
    · push_cast
      rw [← hden]
      ring
  · have hcast : ((t.den * N - 1 : ℕ) : ℚ) = (t.den * N : ℕ) - 1 := by
      rw [Nat.cast_sub (hpos.trans hlarge), Nat.cast_one]
    refine ⟨t.den * N - 1, hbound _ ?_, hprt _ (-t) ?_ hup⟩
    · rw [hcast]
      have hle : (N : ℚ) ≤ ((t.den * N : ℕ) : ℚ) := by exact_mod_cast hlarge
      linarith
    · rw [hcast]
      push_cast
      rw [← hden]
      ring

end Printed

/-! ## The validated quantity -/

def MeetsLimits (limits : ExchangeMarketLimits) (price quantity : ℚ) : Prop :=
  limits.minAmount ≤ quantity ∧ limits.minCost ≤ quantity * price

def WholeSteps (limits : ExchangeMarketLimits) (quantity : ℚ) : Prop :=
  ∃ k : ℤ, quantity = k * limits.amountStep

/-- **The validation is sound**: a valid quantity is at most the requested one, in whole steps and
within the limits; when none is valid, no whole number of steps up to the requested quantity is within
the limits. -/
structure SoundQuantity (limits : ExchangeMarketLimits) (quantity price : ℚ) : Prop where
  valid : (validateExitOrderQuantity quantity price (some limits)).isValid = true →
    (validateExitOrderQuantity quantity price (some limits)).adjustedQuantity ≤ quantity ∧
      WholeSteps limits (validateExitOrderQuantity quantity price (some limits)).adjustedQuantity ∧
      MeetsLimits limits price
        (validateExitOrderQuantity quantity price (some limits)).adjustedQuantity
  invalid : (validateExitOrderQuantity quantity price (some limits)).isValid = false →
    ∀ other, other ≤ quantity → WholeSteps limits other → ¬ MeetsLimits limits price other

/-- **The decimals fit the step**: it is a whole number of last decimals. -/
def DecimalsFit (limits : ExchangeMarketLimits) : Prop :=
  ∃ k : ℤ, limits.amountStep * 10 ^ limits.amountPrecision = k

section Validate

variable {limits : ExchangeMarketLimits} {quantity price : ℚ}

theorem validate_adjusted :
    (validateExitOrderQuantity quantity price (some limits)).adjustedQuantity =
      adjustQuantity quantity limits := by
  unfold validateExitOrderQuantity
  dsimp only
  split_ifs <;> rfl

theorem validate_isValid_iff (hamount : 0 ≤ limits.minAmount) (hprice : 0 < price) :
    (validateExitOrderQuantity quantity price (some limits)).isValid = true ↔
      MeetsLimits limits price (adjustQuantity quantity limits) := by
  unfold validateExitOrderQuantity MeetsLimits
  dsimp only
  split_ifs with hsmall hcheap
  · exact iff_of_false (by simp) fun h => absurd hsmall (not_lt.mpr h.1)
  · exact iff_of_false (by simp) fun h => absurd hcheap.1 (not_lt.mpr h.2)
  · refine iff_of_true rfl ⟨not_lt.mp hsmall, ?_⟩
    by_contra hless
    have hadj : 0 ≤ adjustQuantity quantity limits * price :=
      mul_nonneg (hamount.trans (not_lt.mp hsmall)) hprice.le
    exact hcheap ⟨not_le.mp hless, hadj.trans_lt (not_le.mp hless)⟩

theorem wholeSteps_le (hstep : 0 < limits.amountStep) {other : ℚ} (hother : other ≤ quantity)
    (hwhole : WholeSteps limits other) :
    other ≤ ⌊quantity / limits.amountStep⌋ * limits.amountStep := by
  obtain ⟨k, rfl⟩ := hwhole
  have hk : k ≤ ⌊quantity / limits.amountStep⌋ := by
    rw [Int.le_floor, le_div_iff₀ hstep]
    exact hother
  exact mul_le_mul_of_nonneg_right (by exact_mod_cast hk) hstep.le

theorem adjustQuantity_of_fit (hstep : 0 < limits.amountStep) (hfit : DecimalsFit limits) :
    adjustQuantity quantity limits = ⌊quantity / limits.amountStep⌋ * limits.amountStep := by
  obtain ⟨k, hk⟩ := hfit
  rw [adjustQuantity, if_pos hstep]
  refine toDecimalPlaces_of_int (z := ⌊quantity / limits.amountStep⌋ * k) ?_
  rw [mul_assoc, hk]
  push_cast
  rfl

theorem soundQuantity_of_fit (hstep : 0 < limits.amountStep) (hamount : 0 ≤ limits.minAmount)
    (hprice : 0 < price) (hfit : DecimalsFit limits) : SoundQuantity limits quantity price := by
  refine ⟨fun hvalid => ?_, fun hinvalid other hother hwhole hmeets => ?_⟩
  · rw [validate_isValid_iff hamount hprice] at hvalid
    rw [validate_adjusted]
    refine ⟨?_, ⟨_, adjustQuantity_of_fit hstep hfit⟩, hvalid⟩
    rw [adjustQuantity_of_fit hstep hfit]
    exact (le_div_iff₀ hstep).mp (Int.floor_le _)
  · have hle := wholeSteps_le hstep hother hwhole
    rw [← adjustQuantity_of_fit hstep hfit] at hle
    have hvalid : (validateExitOrderQuantity quantity price (some limits)).isValid = true :=
      (validate_isValid_iff hamount hprice).mpr
        ⟨hmeets.1.trans hle, hmeets.2.trans (mul_le_mul_of_nonneg_right hle hprice.le)⟩
    rw [hinvalid] at hvalid
    exact Bool.false_ne_true hvalid

theorem exists_unsound (hstep : 0 < limits.amountStep) (hamount : 0 ≤ limits.minAmount)
    (hcost : 0 ≤ limits.minCost) (hfit : ¬ DecimalsFit limits) :
    ∃ quantity : ℚ, ¬ SoundQuantity limits quantity 1 := by
  obtain ⟨k, _, hlarger⟩ := exists_printed_larger hstep hfit (limits.minAmount + limits.minCost)
  have hadj : adjustQuantity (k * limits.amountStep) limits =
      toDecimalPlaces (k * limits.amountStep) limits.amountPrecision := by
    rw [adjustQuantity, if_pos hstep, mul_div_cancel_right₀ _ hstep.ne', Int.floor_natCast,
      Int.cast_natCast]
  refine ⟨k * limits.amountStep, fun hsound => ?_⟩
  have hvalid : (validateExitOrderQuantity (k * limits.amountStep) 1 (some limits)).isValid = true := by
    rw [validate_isValid_iff hamount one_pos, hadj]
    constructor
    · linarith
    · linarith
  have hle := (hsound.valid hvalid).1
  rw [validate_adjusted, hadj] at hle
  exact absurd hlarger (not_lt.mpr hle)

end Validate

/-! ## The limits of an exchange -/

section Market

variable {market : ExchangeMarket}

theorem precisionToStepSize_pos (precision : AmountPrecision) :
    0 < precisionToStepSize (some precision) := by
  cases precision with
  | tickSize step => exact step.2
  | decimalPlaces | significantDigits => exact zpow_pos (by norm_num) _

/-- **Every quantity is validated soundly at every price exactly when the decimals fit.** -/
theorem soundQuantity_iff (market : ExchangeMarket) (precision : AmountPrecision)
    (hprecision : market.amountPrecision = some precision) :
    (∀ quantity price : ℚ, 0 < price → SoundQuantity (getMarketLimits market) quantity price) ↔
      DecimalsFit (getMarketLimits market) := by
  have hstep : 0 < (getMarketLimits market).amountStep := by
    show 0 < precisionToStepSize market.amountPrecision
    rw [hprecision]
    exact precisionToStepSize_pos precision
  constructor
  · intro hsound
    by_contra hfit
    obtain ⟨quantity, hunsound⟩ := exists_unsound hstep market.minAmount_nonneg
      market.minCost_nonneg hfit
    exact hunsound (hsound quantity 1 one_pos)
  · intro hfit quantity price hprice
    exact soundQuantity_of_fit hstep market.minAmount_nonneg hprice hfit

end Market

def centMarket : ExchangeMarket where
  amountPrecision := some (.tickSize ⟨1 / 100, by norm_num⟩)
  minAmount := some 1
  minAmount_nonneg := by norm_num
  minCost_nonneg := le_rfl

theorem centMarket_fits : DecimalsFit (getMarketLimits centMarket) :=
  ⟨1, by decide +kernel⟩

theorem centMarket_sound : SoundQuantity (getMarketLimits centMarket) (469 / 200) 10 :=
  (soundQuantity_iff centMarket _ rfl).mpr centMarket_fits (469 / 200) 10 (by norm_num)

def halfMarket : ExchangeMarket where
  amountPrecision := some (.tickSize ⟨1 / 2, by norm_num⟩)
  minAmount_nonneg := le_rfl
  minCost_nonneg := le_rfl

/-- **A half is sold as a whole**: the step of one half has no decimals, and the half is rounded up. -/
theorem half_soldAsWhole :
    (validateExitOrderQuantity (1 / 2) 100 (some (getMarketLimits halfMarket))).isValid = true ∧
      (validateExitOrderQuantity (1 / 2) 100
        (some (getMarketLimits halfMarket))).adjustedQuantity = 1 ∧
      ¬ SoundQuantity (getMarketLimits halfMarket) (1 / 2) 100 := by
  have hvalid : (validateExitOrderQuantity (1 / 2) 100
      (some (getMarketLimits halfMarket))).isValid = true := by decide +kernel
  have hadjusted : (validateExitOrderQuantity (1 / 2) 100
      (some (getMarketLimits halfMarket))).adjustedQuantity = 1 := by decide +kernel
  refine ⟨hvalid, hadjusted, fun hsound => ?_⟩
  have hle := (hsound.valid hvalid).1
  rw [hadjusted] at hle
  norm_num at hle

end Chansey
