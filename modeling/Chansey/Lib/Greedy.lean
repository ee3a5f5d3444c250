import Mathlib.Algebra.Order.BigOperators.Group.List
import Mathlib.Algebra.Order.Group.MinMax

/-!
# Greedy taking

Items are taken one after the other, each as far as a budget allows.
-/

namespace Greedy

variable {α K : Type} [AddCommGroup K] [LinearOrder K]

/-- Items that are worth nothing are passed over. -/
def take (worth : α → K) : K → List α → List (α × K)
  | _, [] => []
  | budget, a :: items =>
    if min (worth a) budget ≤ 0 then take worth budget items
    else (a, min (worth a) budget) :: take worth (budget - min (worth a) budget) items

variable {worth : α → K} {budget : K} {items : List α}

theorem take_cons_skip {a : α} (h : min (worth a) budget ≤ 0) :
    take worth budget (a :: items) = take worth budget items := by
  rw [take, if_pos h]

theorem take_cons_some {a : α} (h : 0 < min (worth a) budget) :
    take worth budget (a :: items) = (a, min (worth a) budget) ::
      take worth (budget - min (worth a) budget) items := by
  rw [take, if_neg (not_le.mpr h)]

theorem take_of_nonpos (h : budget ≤ 0) : take worth budget items = [] := by
  induction items with
  | nil => rfl
  | cons a items ih => rw [take_cons_skip ((min_le_right _ _).trans h), ih]

theorem mem_take {x : α × K} (h : x ∈ take worth budget items) :
    x.1 ∈ items ∧ 0 < x.2 ∧ x.2 ≤ worth x.1 := by
  induction items generalizing budget with
  | nil => cases h
  | cons a items ih =>
    by_cases hskip : min (worth a) budget ≤ 0
    · rw [take_cons_skip hskip] at h
      exact ⟨List.mem_cons_of_mem _ (ih h).1, (ih h).2⟩
    · rw [take_cons_some (not_le.mp hskip)] at h
      rcases List.mem_cons.mp h with rfl | h
      · exact ⟨List.mem_cons_self, not_le.mp hskip, min_le_left _ _⟩
      · exact ⟨List.mem_cons_of_mem _ (ih h).1, (ih h).2⟩

theorem take_sublist : ((take worth budget items).map Prod.fst).Sublist items := by
  induction items generalizing budget with
  | nil => exact List.Sublist.refl _
  | cons a items ih =>
    by_cases hskip : min (worth a) budget ≤ 0
    · rw [take_cons_skip hskip]
      exact ih.cons a
    · rw [take_cons_some (not_le.mp hskip), List.map_cons]
      exact ih.cons_cons a

theorem take_nonempty_budget {x : α × K} (h : x ∈ take worth budget items) : 0 < budget := by
  by_contra hle
  rw [take_of_nonpos (not_lt.mp hle)] at h
  cases h

theorem take_whole {r : α → α → Prop} (hrefl : ∀ a, r a a) (hsort : items.Pairwise r) {x : α × K}
    (hx : x ∈ take worth budget items) {a : α} (ha : a ∈ items) (hbef : ¬ r x.1 a)
    (hworth : 0 < worth a) : (a, worth a) ∈ take worth budget items := by
  induction items generalizing budget with
  | nil => cases ha
  | cons c items ih =>
    obtain ⟨hhead, htail⟩ := List.pairwise_cons.mp hsort
    by_cases hskip : min (worth c) budget ≤ 0
    · rw [take_cons_skip hskip] at hx ⊢
      rcases List.mem_cons.mp ha with rfl | ha
      · exact absurd hskip (not_le.mpr (lt_min hworth (take_nonempty_budget hx)))
      · exact ih htail hx ha
    · rw [take_cons_some (not_le.mp hskip)] at hx ⊢
      rcases List.mem_cons.mp hx with rfl | hx
      · rcases List.mem_cons.mp ha with rfl | ha
        · exact absurd (hrefl _) hbef
        · exact absurd (hhead a ha) hbef
      · rcases List.mem_cons.mp ha with rfl | ha
        · -- something is left for a later item, so the budget has not cut this one
          have hleft : min (worth a) budget ≠ budget := by
            intro heq
            rw [heq, sub_self, take_of_nonpos le_rfl] at hx
            cases hx
          rw [(min_choice (worth a) budget).resolve_right hleft]
          exact List.mem_cons_self
        · exact List.mem_cons_of_mem _ (ih htail hx ha)

variable [IsOrderedAddMonoid K]

theorem sum_take : ((take worth budget items).map Prod.snd).sum =
    min (max 0 budget) (items.map fun a => max 0 (worth a)).sum := by
  induction items generalizing budget with
  | nil =>
    show (0 : K) = min (max 0 budget) 0
    exact (min_eq_right (le_max_left _ _)).symm
  | cons a items ih =>
    have hnn : 0 ≤ (items.map fun a => max 0 (worth a)).sum :=
      List.sum_nonneg fun y hy => by
        obtain ⟨b, -, rfl⟩ := List.mem_map.mp hy
        exact le_max_left _ _
    rw [List.map_cons, List.sum_cons]
    by_cases hskip : min (worth a) budget ≤ 0
    · rw [take_cons_skip hskip, ih]
      rcases min_le_iff.mp hskip with hworth | hbudget
      · rw [max_eq_left hworth, zero_add]
      · rw [max_eq_left hbudget, min_eq_left hnn, min_eq_left (add_nonneg (le_max_left _ _) hnn)]
    · obtain ⟨hworth, hbudget⟩ := lt_min_iff.mp (not_le.mp hskip)
      rw [take_cons_some (not_le.mp hskip), List.map_cons, List.sum_cons, ih, max_eq_right hworth.le,
        max_eq_right hbudget.le, max_eq_right (sub_nonneg.mpr (min_le_right _ _))]
      rcases le_total (worth a) budget with hle | hle
      · rw [min_eq_left hle, ← min_add_add_left, add_sub_cancel]
      · rw [min_eq_right hle, sub_self, min_eq_left hnn, add_zero,
          min_eq_left (hle.trans (le_add_of_nonneg_right hnn))]

end Greedy
