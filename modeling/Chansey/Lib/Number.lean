import Mathlib.Data.Rat.Floor
import Mathlib.Tactic.Positivity

/-!
# Exact numbers read as JavaScript reads them

Rational numbers with the reading rules of the language: a number is truthy when it is not zero,
`Math.round` rounds ties upward, `toFixed` prints a fixed number of decimals.
-/

namespace Js

/-- The value of an optional number that is present and not zero. -/
def truthy? (q : Option ℚ) : Option ℚ := q.filter (· ≠ 0)

@[simp] theorem truthy?_none : truthy? none = none := rfl

theorem truthy?_some (q : ℚ) : truthy? (some q) = if q = 0 then none else some q := by
  by_cases h : q = 0 <;> simp [truthy?, Option.filter, h]

theorem truthy?_eq_some {q : Option ℚ} {x : ℚ} : truthy? q = some x ↔ q = some x ∧ x ≠ 0 := by
  cases q with
  | none => simp
  | some =>
    rw [truthy?_some]
    split_ifs with h <;> simp
    · rintro rfl
      exact h
    · rintro rfl
      exact h

/-- `Math.sqrt`, `Math.log`, `Math.exp` and `Math.pow`: their values are rounded, so nothing is
assumed. -/
structure Math where
  sqrt : ℚ → ℚ
  log : ℚ → ℚ
  exp : ℚ → ℚ
  pow : ℚ → ℚ → ℚ

/-- `Math.round`: the nearest integer, ties upward. -/
def round (x : ℚ) : ℤ := ⌊x + 1 / 2⌋

/-- `Number.prototype.toFixed`: `d` decimals, ties away from zero. -/
def toFixed (x : ℚ) (d : ℕ) : String :=
  let n := (⌊|x| * 10 ^ d + 1 / 2⌋).toNat
  let digits := toString (n % 10 ^ d)
  let body :=
    if d = 0 then toString n
    else toString (n / 10 ^ d) ++ "." ++ "".pushn '0' (d - digits.length) ++ digits
  if x < 0 then "-" ++ body else body

/-- A number in a column of `d` decimals: ties are rounded away from zero. -/
def decimalColumn (x : ℚ) (d : ℕ) : ℚ :=
  let rounded : ℚ := ⌊|x| * 10 ^ d + 1 / 2⌋ / 10 ^ d
  if x < 0 then -rounded else rounded

theorem abs_decimalColumn_sub_le (x : ℚ) (d : ℕ) :
    |decimalColumn x d - x| ≤ 1 / (2 * 10 ^ d) := by
  have hscale : (0 : ℚ) < 10 ^ d := by positivity
  -- a magnitude is rounded to within half of the last decimal
  have hround : ∀ y : ℚ, |(⌊y * 10 ^ d + 1 / 2⌋ : ℚ) / 10 ^ d - y| ≤ 1 / (2 * 10 ^ d) := by
    intro y
    have hle := Int.floor_le (y * 10 ^ d + 1 / 2)
    have hlt := Int.lt_floor_add_one (y * 10 ^ d + 1 / 2)
    have heq : (⌊y * 10 ^ d + 1 / 2⌋ : ℚ) / 10 ^ d - y =
        ((⌊y * 10 ^ d + 1 / 2⌋ : ℚ) - y * 10 ^ d) / 10 ^ d := by
      field_simp
    have hhalf : |(⌊y * 10 ^ d + 1 / 2⌋ : ℚ) - y * 10 ^ d| ≤ 1 / 2 :=
      abs_le.2 ⟨by linarith, by linarith⟩
    rw [heq, abs_div, abs_of_pos hscale, ← div_div]
    exact div_le_div_of_nonneg_right hhalf hscale.le
  have hx := hround |x|
  unfold decimalColumn
  split_ifs with h
  · rw [abs_of_neg h] at hx ⊢
    rw [← abs_neg]
    convert hx using 2
    ring
  · rwa [abs_of_nonneg (not_lt.1 h)] at hx ⊢

theorem decimalColumn_nonneg {x : ℚ} (h : 0 ≤ x) (d : ℕ) : 0 ≤ decimalColumn x d := by
  unfold decimalColumn
  dsimp only
  rw [if_neg h.not_gt]
  exact div_nonneg (Int.cast_nonneg (Int.floor_nonneg.2 (by positivity))) (by positivity)

@[simp] theorem decimalColumn_zero (d : ℕ) : decimalColumn 0 d = 0 := by
  have hfloor : ⌊|(0 : ℚ)| * 10 ^ d + 1 / 2⌋ = 0 := Int.floor_eq_iff.2 (by norm_num)
  unfold decimalColumn
  rw [hfloor]
  simp

theorem decimalColumn_decimalColumn (x : ℚ) (d : ℕ) :
    decimalColumn (decimalColumn x d) d = decimalColumn x d := by
  have hscale : (0 : ℚ) < 10 ^ d := by positivity
  -- a natural number of the last decimals is kept, with its sign
  have hkept : ∀ k : ℤ, 0 ≤ k → (⌊|(k : ℚ) / 10 ^ d| * 10 ^ d + 1 / 2⌋ : ℚ) = k := by
    intro k hk
    have hq : (0 : ℚ) ≤ k := Int.cast_nonneg hk
    rw [abs_of_nonneg (div_nonneg hq hscale.le), div_mul_cancel₀ _ hscale.ne', Int.floor_intCast_add]
    norm_num
  have hfloor : 0 ≤ ⌊|x| * 10 ^ d + 1 / 2⌋ := Int.floor_nonneg.2 (by positivity)
  have hq : (0 : ℚ) ≤ (⌊|x| * 10 ^ d + 1 / 2⌋ : ℚ) / 10 ^ d :=
    div_nonneg (Int.cast_nonneg hfloor) hscale.le
  unfold decimalColumn
  split_ifs with hx hneg hneg
  · rw [abs_neg, hkept _ hfloor]
  · rw [abs_neg, hkept _ hfloor]
    linarith
  · linarith
  · rw [hkept _ hfloor]

def numberText (q : ℚ) : String :=
  if q.den = 1 then toString q.num else toString q.num ++ "/" ++ toString q.den

example : toFixed (22 / 7) 2 = "3.14" := by decide +kernel

end Js
