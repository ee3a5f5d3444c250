import Mathlib.Algebra.BigOperators.Group.List.Basic
import Mathlib.Algebra.Order.Field.Basic
import Mathlib.Tactic.Linarith

/-!
# Filling a quantity from the cheapest offer on

Offers have a price and a volume. A quantity takes them one after the other, and what they do not
hold is taken at a price of its own.

* **`average_mono`**: with ascending prices the average ascends with the quantity.
-/

namespace Filling

variable {α K : Type} [Field K] [LinearOrder K] [IsStrictOrderedRing K] {price volume : α → K}
  {missing lower q q' : K} {offer : α} {offers : List α}

/-- What the quantity `q` costs, where `missing` is the price of what the offers do not hold. -/
def cost (price volume : α → K) (missing : K) : List α → K → K
  | [], q => q * missing
  | offer :: offers, q =>
    if q ≤ volume offer then q * price offer
    else volume offer * price offer + cost price volume missing offers (q - volume offer)

def average (price volume : α → K) (missing : K) (offers : List α) (q : K) : K :=
  cost price volume missing offers q / q

def depth (volume : α → K) (offers : List α) : K := (offers.map volume).sum

structure Ascending (price volume : α → K) (missing : K) (offers : List α) : Prop where
  sorted : offers.Pairwise fun a b => price a ≤ price b
  le_missing : ∀ offer ∈ offers, price offer ≤ missing
  volume_pos : ∀ offer ∈ offers, 0 < volume offer

omit [IsStrictOrderedRing K] in
theorem cost_within (h : q ≤ volume offer) :
    cost price volume missing (offer :: offers) q = q * price offer := if_pos h

omit [IsStrictOrderedRing K] in
theorem cost_beyond (h : volume offer < q) :
    cost price volume missing (offer :: offers) q =
      volume offer * price offer + cost price volume missing offers (q - volume offer) :=
  if_neg (not_le.mpr h)

omit [IsStrictOrderedRing K] in
theorem Ascending.tail (h : Ascending price volume missing (offer :: offers)) :
    Ascending price volume missing offers where
  sorted := (List.pairwise_cons.mp h.sorted).2
  le_missing := fun o ho => h.le_missing o (List.mem_cons_of_mem _ ho)
  volume_pos := fun o ho => h.volume_pos o (List.mem_cons_of_mem _ ho)

/-! ## The average -/

theorem le_cost (hlower : ∀ offer ∈ offers, lower ≤ price offer) (hmiss : lower ≤ missing)
    (hvol : ∀ offer ∈ offers, 0 < volume offer) (hq : 0 ≤ q) :
    q * lower ≤ cost price volume missing offers q := by
  induction offers generalizing q with
  | nil => exact mul_le_mul_of_nonneg_left hmiss hq
  | cons offer offers ih =>
    have hfirst : lower ≤ price offer := hlower offer List.mem_cons_self
    rcases le_or_gt q (volume offer) with hle | hlt
    · rw [cost_within hle]
      exact mul_le_mul_of_nonneg_left hfirst hq
    · have hrest := ih (fun o ho => hlower o (List.mem_cons_of_mem _ ho))
        (fun o ho => hvol o (List.mem_cons_of_mem _ ho)) (sub_nonneg.mpr hlt.le)
      have htaken := mul_le_mul_of_nonneg_left hfirst (hvol offer List.mem_cons_self).le
      rw [cost_beyond hlt]
      linarith

theorem Ascending.first_le (h : Ascending price volume missing (offer :: offers)) (hq : 0 ≤ q) :
    q * price offer ≤ cost price volume missing offers q :=
  le_cost (List.pairwise_cons.mp h.sorted).1 (h.le_missing offer List.mem_cons_self)
    h.tail.volume_pos hq

theorem mul_cost_le (h : Ascending price volume missing offers) (hq : 0 ≤ q) (hle : q ≤ q') :
    q' * cost price volume missing offers q ≤ q * cost price volume missing offers q' := by
  induction offers generalizing q q' with
  | nil => exact le_of_eq (mul_left_comm q' q missing)
  | cons offer offers ih =>
    have hvol : 0 < volume offer := h.volume_pos offer List.mem_cons_self
    rcases le_or_gt q' (volume offer) with hwith | hbeyond
    · rw [cost_within hwith, cost_within (hle.trans hwith)]
      exact le_of_eq (mul_left_comm q' q _)
    · rw [cost_beyond hbeyond]
      rcases le_or_gt q (volume offer) with hwith | hbeyond'
      · -- the smaller quantity ends in this offer
        have hfirst := mul_le_mul_of_nonneg_left (h.first_le (sub_nonneg.mpr hbeyond.le)) hq
        rw [cost_within hwith]
        linarith
      · -- both go on to the next offers
        have hpos : 0 < q - volume offer := sub_pos.mpr hbeyond'
        have hstep := mul_le_mul_of_nonneg_left
          (ih h.tail hpos.le (sub_le_sub_right hle (volume offer))) hq
        have hfirst := mul_le_mul_of_nonneg_left (h.first_le hpos.le)
          (mul_nonneg hvol.le (sub_nonneg.mpr hle))
        rw [cost_beyond hbeyond']
        refine le_of_mul_le_mul_left ?_ hpos
        linarith

theorem average_mono (h : Ascending price volume missing offers) (hq : 0 < q) (hle : q ≤ q') :
    average price volume missing offers q ≤ average price volume missing offers q' := by
  have hmul := mul_cost_le h hq.le hle
  unfold average
  rw [div_le_div_iff₀ hq (hq.trans_le hle)]
  linarith

omit [IsStrictOrderedRing K] in
theorem average_first (hq : 0 < q) (hle : q ≤ volume offer) :
    average price volume missing (offer :: offers) q = price offer := by
  rw [average, cost_within hle, mul_div_cancel_left₀ _ hq.ne']

theorem first_le_average (h : Ascending price volume missing (offer :: offers)) (hq : 0 < q) :
    price offer ≤ average price volume missing (offer :: offers) q := by
  have hpos : 0 < min q (volume offer) := lt_min hq (h.volume_pos offer List.mem_cons_self)
  calc price offer = average price volume missing (offer :: offers) (min q (volume offer)) :=
        (average_first hpos (min_le_right _ _)).symm
    _ ≤ average price volume missing (offer :: offers) q := average_mono h hpos (min_le_left _ _)

/-! ## Within and beyond the depth -/

omit [LinearOrder K] [IsStrictOrderedRing K] in
theorem depth_cons (offer : α) (offers : List α) :
    depth volume (offer :: offers) = volume offer + depth volume offers := by
  rw [depth, depth, List.map_cons, List.sum_cons]

theorem depth_nonneg (hvol : ∀ offer ∈ offers, 0 < volume offer) : 0 ≤ depth volume offers := by
  induction offers with
  | nil => exact le_refl 0
  | cons offer offers ih =>
    rw [depth_cons]
    exact add_nonneg (hvol offer List.mem_cons_self).le
      (ih fun o ho => hvol o (List.mem_cons_of_mem _ ho))

omit [IsStrictOrderedRing K] in
theorem cost_zero (hvol : ∀ offer ∈ offers, 0 < volume offer) :
    cost price volume missing offers 0 = 0 := by
  cases offers with
  | nil => exact zero_mul missing
  | cons offer => rw [cost_within (hvol offer List.mem_cons_self).le, zero_mul]

theorem cost_pos (hprice : ∀ offer ∈ offers, 0 < price offer) (hmiss : 0 < missing)
    (hvol : ∀ offer ∈ offers, 0 < volume offer) (hq : 0 < q) :
    0 < cost price volume missing offers q := by
  induction offers generalizing q with
  | nil => exact mul_pos hq hmiss
  | cons offer offers ih =>
    have hfirst := hprice offer List.mem_cons_self
    rcases le_or_gt q (volume offer) with hwith | hbeyond
    · rw [cost_within hwith]
      exact mul_pos hq hfirst
    · rw [cost_beyond hbeyond]
      exact add_pos (mul_pos (hvol offer List.mem_cons_self) hfirst)
        (ih (fun o ho => hprice o (List.mem_cons_of_mem _ ho))
          (fun o ho => hvol o (List.mem_cons_of_mem _ ho)) (sub_pos.mpr hbeyond))

omit [IsStrictOrderedRing K] in
theorem cost_mul (factor : K) (offers : List α) (q : K) :
    cost (fun o => factor * price o) volume (factor * missing) offers q =
      factor * cost price volume missing offers q := by
  induction offers generalizing q with
  | nil => exact mul_left_comm q factor missing
  | cons offer offers ih =>
    rcases le_or_gt q (volume offer) with hwith | hbeyond
    · rw [cost_within hwith, cost_within hwith, mul_left_comm]
    · rw [cost_beyond hbeyond, cost_beyond hbeyond, ih, mul_add, mul_left_comm]

theorem cost_add (hvol : ∀ offer ∈ offers, 0 < volume offer) (hq : 0 ≤ q) :
    cost price volume missing (offer :: offers) (volume offer + q) =
      volume offer * price offer + cost price volume missing offers q := by
  rcases hq.eq_or_lt with rfl | hpos
  · rw [add_zero, cost_within le_rfl, cost_zero hvol, add_zero]
  · rw [cost_beyond (lt_add_of_pos_right _ hpos), add_sub_cancel_left]

theorem cost_of_depth_le (hvol : ∀ offer ∈ offers, 0 < volume offer)
    (hle : depth volume offers ≤ q) :
    cost price volume missing offers q =
      cost price volume missing offers (depth volume offers) +
        (q - depth volume offers) * missing := by
  induction offers generalizing q with
  | nil =>
    show q * missing = 0 * missing + (q - 0) * missing
    rw [zero_mul, zero_add, sub_zero]
  | cons offer offers ih =>
    have hvol' : ∀ o ∈ offers, 0 < volume o := fun o ho => hvol o (List.mem_cons_of_mem _ ho)
    rw [depth_cons] at hle ⊢
    obtain ⟨rest, rfl⟩ : ∃ rest, q = volume offer + rest := ⟨q - volume offer, by rw [add_sub_cancel]⟩
    have hrest : depth volume offers ≤ rest := le_of_add_le_add_left hle
    have hnn := depth_nonneg hvol'
    rw [cost_add hvol' (hnn.trans hrest), cost_add hvol' hnn, ih hvol' hrest,
      add_sub_add_left_eq_sub, add_assoc]

/-! ## The loop -/

def fill (price volume : α → K) : List α → K → K → K × K
  | [], remaining, total => (remaining, total)
  | offer :: offers, remaining, total =>
    if remaining ≤ 0 then (remaining, total)
    else
      fill price volume offers (remaining - min remaining (volume offer))
        (total + min remaining (volume offer) * price offer)

omit [IsStrictOrderedRing K] in
theorem fill_of_nonpos {remaining total : K} (h : remaining ≤ 0) :
    fill price volume offers remaining total = (remaining, total) := by
  cases offers with
  | nil => rfl
  | cons => exact if_pos h

theorem fill_spec (hvol : ∀ offer ∈ offers, 0 < volume offer) (hq : 0 ≤ q) (missing total : K) :
    fill price volume offers q total =
      (q - min q (depth volume offers),
        total + cost price volume missing offers (min q (depth volume offers))) := by
  induction offers generalizing q total with
  | nil =>
    show (q, total) = (q - min q 0, total + min q 0 * missing)
    rw [min_eq_right hq, sub_zero, zero_mul, add_zero]
  | cons offer offers ih =>
    have hvol' : ∀ o ∈ offers, 0 < volume o := fun o ho => hvol o (List.mem_cons_of_mem _ ho)
    have hdepth := depth_nonneg hvol'
    have hfirst := hvol offer List.mem_cons_self
    rw [depth_cons]
    rcases hq.eq_or_lt with rfl | hpos
    · have hzero : (0 : K) ≤ volume offer + depth volume offers := add_nonneg hfirst.le hdepth
      rw [fill_of_nonpos le_rfl, min_eq_left hzero, cost_zero hvol, sub_zero, add_zero]
    · have hstep : fill price volume (offer :: offers) q total =
          fill price volume offers (q - min q (volume offer))
            (total + min q (volume offer) * price offer) := if_neg (not_le.mpr hpos)
      rw [hstep]
      rcases le_or_gt q (volume offer) with hwith | hbeyond
      · have hall : q ≤ volume offer + depth volume offers :=
          hwith.trans (le_add_of_nonneg_right hdepth)
        rw [min_eq_left hwith, min_eq_left hall, sub_self, fill_of_nonpos le_rfl, cost_within hwith]
      · obtain ⟨rest, rfl⟩ : ∃ rest, q = volume offer + rest :=
          ⟨q - volume offer, by rw [add_sub_cancel]⟩
        have hrest : 0 ≤ rest := (pos_of_lt_add_right hbeyond).le
        rw [min_eq_right hbeyond.le, add_sub_cancel_left, ih hvol' hrest, min_add_add_left,
          cost_add hvol' (le_min hrest hdepth), add_sub_add_left_eq_sub, add_assoc]

end Filling
