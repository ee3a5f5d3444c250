import Mathlib.Algebra.BigOperators.Ring.List
import Mathlib.Algebra.Order.BigOperators.Group.List
import Mathlib.Algebra.Order.Field.Basic

/-!
# Weighted means

The mean of the values of a list under weights that are scaled to one.

* **`weightedMean_le_weightedMean`**: a mean of smaller values is smaller.
* **`weightedMean_le`**, **`le_weightedMean`**: a mean lies between bounds of the values.
-/

namespace WeightedMean

variable {α K : Type} [Field K] [LinearOrder K] [IsStrictOrderedRing K] {weight value : α → K}
  {xs : List α}

def totalWeight (weight : α → K) (xs : List α) : K := (xs.map weight).sum

def weightedMean (weight value : α → K) (xs : List α) : K :=
  (xs.map fun x => value x * (weight x / totalWeight weight xs)).sum

omit [LinearOrder K] [IsStrictOrderedRing K] in
@[simp] theorem weightedMean_nil : weightedMean weight value [] = 0 := rfl

omit [LinearOrder K] [IsStrictOrderedRing K] in
theorem weightedMean_of_total_zero (h : totalWeight weight xs = 0) :
    weightedMean weight value xs = 0 := by
  unfold weightedMean
  rw [h]
  simp

omit [LinearOrder K] [IsStrictOrderedRing K] in
theorem weightedMean_map {β : Type} (f : β → α) (ys : List β) :
    weightedMean weight value (ys.map f) =
      weightedMean (fun y => weight (f y)) (fun y => value (f y)) ys := by
  unfold weightedMean totalWeight
  rw [List.map_map, List.map_map]
  rfl

omit [LinearOrder K] [IsStrictOrderedRing K] in
theorem weightedMean_perm {ys : List α} (h : xs.Perm ys) :
    weightedMean weight value xs = weightedMean weight value ys := by
  unfold weightedMean totalWeight
  rw [(h.map weight).sum_eq]
  exact (h.map _).sum_eq

omit [LinearOrder K] [IsStrictOrderedRing K] in
theorem weightedMean_congr {weight' value' : α → K} (hweight : ∀ x ∈ xs, weight x = weight' x)
    (hvalue : ∀ x ∈ xs, value x = value' x) :
    weightedMean weight value xs = weightedMean weight' value' xs := by
  have htotal : totalWeight weight xs = totalWeight weight' xs :=
    congrArg List.sum (List.map_congr_left hweight)
  unfold weightedMean
  refine congrArg List.sum (List.map_congr_left fun x hx => ?_)
  rw [hvalue x hx, hweight x hx, htotal]

omit [LinearOrder K] [IsStrictOrderedRing K] in
theorem sum_scaledWeights (h : totalWeight weight xs ≠ 0) :
    (xs.map fun x => weight x / totalWeight weight xs).sum = 1 := by
  simp only [div_eq_mul_inv]
  rw [List.sum_map_mul_right]
  exact mul_inv_cancel₀ h

omit [LinearOrder K] [IsStrictOrderedRing K] in
theorem weightedMean_const (h : totalWeight weight xs ≠ 0) (c : K) :
    weightedMean weight (fun _ => c) xs = c := by
  unfold weightedMean
  rw [List.sum_map_mul_left, sum_scaledWeights h, mul_one]

theorem totalWeight_nonneg (hweight : ∀ x ∈ xs, 0 ≤ weight x) : 0 ≤ totalWeight weight xs :=
  List.sum_nonneg fun w hw => by
    obtain ⟨x, hx, rfl⟩ := List.mem_map.mp hw
    exact hweight x hx

theorem weightedMean_le_weightedMean {value' : α → K} (hweight : ∀ x ∈ xs, 0 ≤ weight x)
    (h : ∀ x ∈ xs, value x ≤ value' x) :
    weightedMean weight value xs ≤ weightedMean weight value' xs := by
  refine List.sum_le_sum fun x hx => mul_le_mul_of_nonneg_right (h x hx) ?_
  exact div_nonneg (hweight x hx) (totalWeight_nonneg hweight)

theorem weightedMean_le {upper : K} (hupper : 0 ≤ upper) (hweight : ∀ x ∈ xs, 0 ≤ weight x)
    (h : ∀ x ∈ xs, value x ≤ upper) : weightedMean weight value xs ≤ upper := by
  by_cases htotal : totalWeight weight xs = 0
  · rw [weightedMean_of_total_zero htotal]
    exact hupper
  · calc weightedMean weight value xs ≤ weightedMean weight (fun _ => upper) xs :=
          weightedMean_le_weightedMean hweight h
      _ = upper := weightedMean_const htotal upper

theorem le_weightedMean {lower : K} (hlower : lower ≤ 0) (hweight : ∀ x ∈ xs, 0 ≤ weight x)
    (h : ∀ x ∈ xs, lower ≤ value x) : lower ≤ weightedMean weight value xs := by
  by_cases htotal : totalWeight weight xs = 0
  · rw [weightedMean_of_total_zero htotal]
    exact hlower
  · calc lower = weightedMean weight (fun _ => lower) xs := (weightedMean_const htotal lower).symm
      _ ≤ weightedMean weight value xs := weightedMean_le_weightedMean hweight h

end WeightedMean
