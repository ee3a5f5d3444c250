import Mathlib.Algebra.GroupWithZero.Nat
import Mathlib.Data.List.Count
import Mathlib.Data.List.Nodup

/-!
# One of each

* `choices lists`: the ways to take one element of each list, the first list varying slowest.
-/

namespace Choices

variable {α : Type}

def choices : List (List α) → List (List α)
  | [] => [[]]
  | list :: lists => list.flatMap fun a => (choices lists).map (a :: ·)

variable {lists : List (List α)}

theorem mem_choices_iff {choice : List α} :
    choice ∈ choices lists ↔ List.Forall₂ (· ∈ ·) choice lists := by
  induction lists generalizing choice with
  | nil => simp [choices]
  | cons list lists ih =>
    cases choice with
    | nil => simp [choices]
    | cons => simp [choices, ih]

variable [DecidableEq α]

theorem count_choices_cons (a : α) (choice list : List α) (lists : List (List α)) :
    (choices (list :: lists)).count (a :: choice) = list.count a * (choices lists).count choice := by
  rw [choices]
  induction list with
  | nil => simp
  | cons b list ih =>
    rw [List.flatMap_cons, List.count_append, ih, List.count_cons]
    have hinj : Function.Injective (List.cons b) := List.cons_injective
    by_cases hab : b = a
    · subst hab
      rw [List.count_map_of_injective _ _ hinj, beq_self_eq_true, if_pos rfl, Nat.add_mul,
        Nat.one_mul, Nat.add_comm]
    · have hnone : ((choices lists).map (b :: ·)).count (a :: choice) = 0 := by
        rw [List.count_eq_zero, List.mem_map]
        rintro ⟨_, -, heq⟩
        exact hab (List.cons.inj heq).1
      rw [hnone, if_neg (by simpa using hab), Nat.add_zero, Nat.zero_add]

theorem count_choices_eq_one_iff {choice : List α} :
    (choices lists).count choice = 1 ↔
      List.Forall₂ (fun a list => list.count a = 1) choice lists := by
  induction lists generalizing choice with
  | nil =>
    cases choice with
    | nil | cons => simp [choices]
  | cons list lists ih =>
    cases choice with
    | nil =>
      have hnone : (choices (list :: lists)).count [] = 0 :=
        List.count_eq_zero.mpr fun hmem => by cases mem_choices_iff.mp hmem
      rw [hnone]
      exact iff_of_false (by decide) fun h => by cases h
    | cons =>
      rw [count_choices_cons, List.forall₂_cons, ← ih]
      exact ⟨fun h => ⟨Nat.eq_one_of_mul_eq_one_right h, Nat.eq_one_of_mul_eq_one_left h⟩,
        fun h => by rw [h.1, h.2]⟩

theorem nodup_filter_choices_iff {p : List α → Bool} :
    ((choices lists).filter p).Nodup ↔
      ∀ choice, List.Forall₂ (· ∈ ·) choice lists → p choice = true →
        List.Forall₂ (fun a list => list.count a = 1) choice lists := by
  rw [List.nodup_iff_count_eq_one]
  refine forall_congr' fun choice => ?_
  rw [List.mem_filter, and_imp, mem_choices_iff]
  refine forall₂_congr fun _ hp => ?_
  rw [List.count_filter hp, count_choices_eq_one_iff]

end Choices
