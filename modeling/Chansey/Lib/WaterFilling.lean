import Mathlib.Algebra.BigOperators.Field
import Mathlib.Algebra.Order.BigOperators.Group.Finset
import Mathlib.Algebra.Order.Field.Basic
import Mathlib.Tactic.Linarith
import Mathlib.Tactic.Ring

/-!
# Capped water-filling

Capital is shared in proportion to fractions, and nobody gets more than a cap. What the capped ones
leave is shared among the others.

* `Capping s f cap capital rest left`: everybody outside `rest` is rightly capped and `left` is
  left. `Capping.start`, **`Capping.lock`**: capping may start, and cap whoever is over the cap, also
  when the share is measured by a larger pool.
-/

namespace WaterFilling

open Finset

variable {ι K : Type} [Field K] [LinearOrder K] [IsStrictOrderedRing K]
  {s : Finset ι} {f : ι → K} {cap capital : K}

structure Filled (s : Finset ι) (f : ι → K) (cap capital : K) (a : ι → K) : Prop where
  level : ∃ lam, ∀ i ∈ s, a i = min cap (lam * f i)
  sum : ∑ i ∈ s, a i = min capital (#{i ∈ s | 0 < f i} * cap)

theorem Filled.unique {a b : ι → K} (hf : ∀ i ∈ s, 0 ≤ f i) (ha : Filled s f cap capital a)
    (hb : Filled s f cap capital b) : ∀ i ∈ s, a i = b i := by
  obtain ⟨lam, hlam⟩ := ha.level
  obtain ⟨mu, hmu⟩ := hb.level
  have hsum : ∑ i ∈ s, a i = ∑ i ∈ s, b i := ha.sum.trans hb.sum.symm
  -- the shares of the lower level are nowhere larger, and their sums agree
  rcases le_total lam mu with hle | hle
  · refine (sum_eq_sum_iff_of_le fun i hi => ?_).mp hsum
    rw [hlam i hi, hmu i hi]
    exact min_le_min_left cap (mul_le_mul_of_nonneg_right hle (hf i hi))
  · intro i hi
    refine ((sum_eq_sum_iff_of_le fun j hj => ?_).mp hsum.symm i hi).symm
    rw [hlam j hj, hmu j hj]
    exact min_le_min_left cap (mul_le_mul_of_nonneg_right hle (hf j hj))

variable {a : ι → K} {rest : Finset ι}

theorem Filled.nonneg (h : Filled s f cap capital a) (hf : ∀ i ∈ s, 0 ≤ f i) (hcap : 0 ≤ cap)
    (hcapital : 0 ≤ capital) : ∀ i ∈ s, 0 ≤ a i := by
  obtain ⟨lam, hlam⟩ := h.level
  rcases le_total 0 lam with hpos | hneg
  · intro i hi
    rw [hlam i hi]
    exact le_min hcap (mul_nonneg hpos (hf i hi))
  · -- a negative level gives negative shares only, but their sum is not negative
    have hnonpos : ∀ i ∈ s, a i ≤ 0 := fun i hi =>
      (hlam i hi).trans_le ((min_le_right _ _).trans (mul_nonpos_of_nonpos_of_nonneg hneg (hf i hi)))
    have hsum : 0 ≤ ∑ i ∈ s, a i := by
      rw [h.sum]
      exact le_min hcapital (mul_nonneg (Nat.cast_nonneg _) hcap)
    have hzero := (sum_eq_zero_iff_of_nonpos hnonpos).mp (le_antisymm (sum_nonpos hnonpos) hsum)
    exact fun i hi => (hzero i hi).ge

theorem sum_le_caps (hf : ∀ i ∈ s, 0 ≤ f i) (hcap : 0 ≤ cap) {lam : K}
    (hlevel : ∀ i ∈ s, a i = min cap (lam * f i)) : ∑ i ∈ s, a i ≤ #{i ∈ s | 0 < f i} * cap := by
  have hzero : ∀ i ∈ s, a i ≠ 0 → 0 < f i := by
    intro i hi ha
    refine lt_of_le_of_ne (hf i hi) fun hzero => ha ?_
    rw [hlevel i hi, ← hzero, mul_zero, min_eq_right hcap]
  rw [← sum_filter_of_ne hzero, ← nsmul_eq_mul]
  refine sum_le_card_nsmul _ _ _ fun i hi => ?_
  rw [hlevel i (mem_filter.mp hi).1]
  exact min_le_left _ _

variable [DecidableEq ι]

/-- Everybody outside `rest` is capped, with a fraction that reaches the cap at the level that the
capital left and the other fractions make. -/
structure Capping (s : Finset ι) (f : ι → K) (cap capital : K) (rest : Finset ι) (left : K) :
    Prop where
  subset : rest ⊆ s
  left_eq : left + #(s \ rest) * cap = capital
  left_nonneg : 0 ≤ left
  capped_pos : ∀ i ∈ s \ rest, 0 < f i
  capped : ∀ i ∈ s \ rest, cap * ∑ j ∈ rest, f j ≤ f i * left

omit [IsStrictOrderedRing K] in
theorem Capping.start (hcap : 0 ≤ capital) : Capping s f cap capital s capital where
  subset := Subset.refl s
  left_eq := by simp
  left_nonneg := hcap
  capped_pos := by simp
  capped := by simp

theorem Capping.lock {left pool : K} {j : ι} (h : Capping s f cap capital rest left)
    (hf : ∀ i ∈ s, 0 ≤ f i) (hcap : 0 ≤ cap) (hj : j ∈ rest) (hpool : ∑ i ∈ rest, f i ≤ pool)
    (hover : cap < f j / pool * left) : Capping s f cap capital (rest.erase j) (left - cap) := by
  have hrest : ∀ i ∈ rest, 0 ≤ f i := fun i hi => hf i (h.subset hi)
  have hle : f j ≤ ∑ i ∈ rest, f i := single_le_sum hrest hj
  have hpos : 0 < f j := by
    refine lt_of_le_of_ne (hrest j hj) fun hzero => ?_
    rw [← hzero, zero_div, zero_mul] at hover
    exact absurd hover (not_lt.mpr hcap)
  have hpool_pos : 0 < pool := hpos.trans_le (hle.trans hpool)
  have hsum_pos : 0 < ∑ i ∈ rest, f i := hpos.trans_le hle
  rw [div_mul_eq_mul_div, lt_div_iff₀ hpool_pos] at hover
  have hshare : cap * ∑ i ∈ rest, f i ≤ f j * left :=
    (mul_le_mul_of_nonneg_left hpool hcap).trans hover.le
  have herase : ∑ i ∈ rest.erase j, f i = ∑ i ∈ rest, f i - f j := by
    rw [← add_sum_erase rest f hj]
    ring
  have hsdiff : s \ rest.erase j = insert j (s \ rest) := sdiff_erase (h.subset hj)
  refine
    { subset := (erase_subset j rest).trans h.subset
      left_eq := ?_
      left_nonneg := ?_
      capped_pos := fun i hi => ?_
      capped := fun i hi => ?_ }
  · rw [hsdiff, card_insert_of_notMem (by simp [hj]), Nat.cast_add, Nat.cast_one, ← h.left_eq]
    ring
  · have hcapd : cap * f j ≤ f j * left := (mul_le_mul_of_nonneg_left hle hcap).trans hshare
    have := le_of_mul_le_mul_left (mul_comm cap (f j) ▸ hcapd) hpos
    linarith
  · rw [hsdiff, mem_insert] at hi
    rcases hi with rfl | hi
    · exact hpos
    · exact h.capped_pos i hi
  · rw [herase]
    rw [hsdiff, mem_insert] at hi
    rcases hi with rfl | hi
    · linarith
    · -- the level only rises, so whoever was capped stays so
      have hcapd := h.capped i hi
      have hfi := (h.capped_pos i hi).le
      refine le_of_mul_le_mul_right ?_ hsum_pos
      calc cap * (∑ i ∈ rest, f i - f j) * ∑ i ∈ rest, f i
          = cap * (∑ i ∈ rest, f i) * (∑ i ∈ rest, f i - f j) := by ring
        _ ≤ f i * left * (∑ i ∈ rest, f i - f j) :=
          mul_le_mul_of_nonneg_right hcapd (sub_nonneg.mpr hle)
        _ ≤ f i * (left - cap) * ∑ i ∈ rest, f i := by nlinarith [mul_le_mul_of_nonneg_left hshare hfi]

theorem Capping.filled_of_fits {left : K} (h : Capping s f cap capital rest left)
    (hf : ∀ i ∈ s, 0 ≤ f i) (hcap : 0 ≤ cap) (hpos : 0 < ∑ i ∈ rest, f i)
    (hfits : ∀ j ∈ rest, f j / (∑ i ∈ rest, f i) * left ≤ cap)
    (hrest : ∀ i ∈ rest, a i = f i / (∑ i ∈ rest, f i) * left) (hcapd : ∀ i ∈ s \ rest, a i = cap) :
    Filled s f cap capital a := by
  have hlevel : ∀ i ∈ s, a i = min cap (left / (∑ i ∈ rest, f i) * f i) := by
    intro i hi
    by_cases hir : i ∈ rest
    · rw [hrest i hir, div_mul_comm]
      exact (min_eq_right (by rw [div_mul_comm]; exact hfits i hir)).symm
    · have hic := mem_sdiff.mpr ⟨hi, hir⟩
      rw [hcapd i hic]
      refine (min_eq_left ?_).symm
      rw [div_mul_eq_mul_div, le_div_iff₀ hpos, mul_comm left]
      exact h.capped i hic
  have hsum : ∑ i ∈ s, a i = capital := by
    rw [← sum_sdiff h.subset, sum_congr rfl hcapd, sum_congr rfl hrest, sum_const, nsmul_eq_mul,
      ← sum_mul, ← sum_div, div_self hpos.ne', one_mul, add_comm]
    exact h.left_eq
  refine ⟨⟨_, hlevel⟩, hsum.trans (min_eq_left ?_).symm⟩
  rw [← hsum]
  exact sum_le_caps hf hcap hlevel

theorem Capping.filled_of_empty {left : K} (h : Capping s f cap capital rest left)
    (hf : ∀ i ∈ s, 0 ≤ f i) (hcap : 0 ≤ cap) (hzero : ∑ i ∈ rest, f i = 0)
    (hrest : ∀ i ∈ rest, a i = 0) (hcapd : ∀ i ∈ s \ rest, a i = cap) :
    Filled s f cap capital a := by
  have hfrac : ∀ i ∈ rest, f i = 0 :=
    (sum_eq_zero_iff_of_nonneg fun i hi => hf i (h.subset hi)).mp hzero
  have hlevel : ∀ i ∈ s, a i = min cap ((∑ j ∈ s \ rest, cap / f j) * f i) := by
    intro i hi
    by_cases hir : i ∈ rest
    · rw [hrest i hir, hfrac i hir, mul_zero, min_eq_right hcap]
    · have hic := mem_sdiff.mpr ⟨hi, hir⟩
      rw [hcapd i hic]
      refine (min_eq_left ?_).symm
      rw [← div_le_iff₀ (h.capped_pos i hic)]
      exact single_le_sum (fun j hj => div_nonneg hcap (h.capped_pos j hj).le) hic
  have hsum : ∑ i ∈ s, a i = #(s \ rest) * cap := by
    rw [← sum_sdiff h.subset, sum_congr rfl hcapd, sum_congr rfl hrest, sum_const, nsmul_eq_mul,
      sum_const_zero, add_zero]
  have hpositive : s \ rest = {i ∈ s | 0 < f i} := by
    ext i
    rw [mem_filter, mem_sdiff]
    refine and_congr_right fun hi => ⟨fun hir => ?_, fun hpos hir => hpos.ne' (hfrac i hir)⟩
    exact h.capped_pos i (mem_sdiff.mpr ⟨hi, hir⟩)
  refine ⟨⟨_, hlevel⟩, ?_⟩
  rw [hsum, ← hpositive, min_eq_right]
  linarith [h.left_eq, h.left_nonneg]

end WaterFilling
