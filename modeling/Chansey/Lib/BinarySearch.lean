import Mathlib.Data.List.Basic
import Mathlib.Algebra.Order.Group.Nat

/-!
# Binary search

The index at which a condition on the entries of a list ends, by halving.

* **`search_between`**: where the condition never starts again, the search finds its end.
-/

namespace BinarySearch

variable {α : Type} {before p q : α → Bool} {xs : List α} {lo hi : ℕ}

/-- The search on `[lo, hi)`, for a number of turns. -/
def loop (before : α → Bool) (xs : List α) : ℕ → ℕ → ℕ → ℕ
  | 0, lo, _ => lo
  | turns + 1, lo, hi =>
    if lo < hi then
      let mid := (lo + hi) / 2
      if (xs[mid]?).any before then loop before xs turns (mid + 1) hi
      else loop before xs turns lo mid
    else lo

/-- Each turn makes the range shorter, so there are at most as many as entries. -/
def search (before : α → Bool) (xs : List α) : ℕ := loop before xs xs.length 0 xs.length

/-- An entry that meets the condition has only such entries before it. -/
def Ends (before : α → Bool) (xs : List α) : Prop :=
  xs.Pairwise fun a b => before b = true → before a = true

structure Between (before : α → Bool) (xs : List α) (lo hi : ℕ) : Prop where
  le : lo ≤ hi
  bounded : hi ≤ xs.length
  below : ∀ i a, xs[i]? = some a → i < lo → before a = true
  above : ∀ i a, xs[i]? = some a → hi ≤ i → before a = false

theorem Ends.before_of_le (h : Ends before xs) {i j : ℕ} {a b : α} (hij : i ≤ j)
    (ha : xs[i]? = some a) (hb : xs[j]? = some b) (hbef : before b = true) : before a = true := by
  obtain ⟨hi, rfl⟩ := List.getElem?_eq_some_iff.mp ha
  obtain ⟨hj, rfl⟩ := List.getElem?_eq_some_iff.mp hb
  rcases hij.eq_or_lt with rfl | hlt
  · exact hbef
  · exact List.pairwise_iff_getElem.mp h i j hi hj hlt hbef

theorem Between.upper (h : Between before xs lo hi) (hends : Ends before xs) {mid : ℕ} {a : α}
    (hmid : xs[mid]? = some a) (hlt : mid < hi) (ha : before a = true) :
    Between before xs (mid + 1) hi where
  le := hlt
  bounded := h.bounded
  below _ _ hb hi := hends.before_of_le (Nat.le_of_lt_succ hi) hb hmid ha
  above := h.above

theorem Between.lower (h : Between before xs lo hi) (hends : Ends before xs) {mid : ℕ} {a : α}
    (hmid : xs[mid]? = some a) (hle : lo ≤ mid) (hlt : mid < hi) (ha : before a = false) :
    Between before xs lo mid where
  le := hle
  bounded := le_trans hlt.le h.bounded
  below := h.below
  above i b hb hi := by
    by_contra hne
    rw [Bool.not_eq_false] at hne
    rw [hends.before_of_le hi hmid hb hne] at ha
    exact Bool.noConfusion ha

theorem loop_between (hends : Ends before xs) (turns : ℕ) (h : Between before xs lo hi)
    (hturns : hi - lo ≤ turns) :
    Between before xs (loop before xs turns lo hi) (loop before xs turns lo hi) := by
  induction turns generalizing lo hi with
  | zero =>
    obtain rfl : hi = lo := le_antisymm (by omega) h.le
    exact h
  | succ turns ih =>
    rw [loop]
    dsimp only
    by_cases hlt : lo < hi
    · have hmid : (lo + hi) / 2 < hi := by omega
      have hlen : (lo + hi) / 2 < xs.length := lt_of_lt_of_le hmid h.bounded
      have hget : xs[(lo + hi) / 2]? = some xs[(lo + hi) / 2] := List.getElem?_eq_getElem hlen
      rw [if_pos hlt, hget, Option.any_some]
      split_ifs with hbef
      · exact ih (h.upper hends hget hmid hbef) (by omega)
      · exact ih (h.lower hends hget (by omega) hmid (Bool.eq_false_iff.mpr hbef))
          (by omega)
    · obtain rfl : lo = hi := le_antisymm h.le (not_lt.mp hlt)
      rw [if_neg hlt]
      exact h

theorem search_between (hends : Ends before xs) :
    Between before xs (search before xs) (search before xs) := by
  refine loop_between hends _ ⟨Nat.zero_le _, le_refl _, fun _ _ _ h => absurd h (Nat.not_lt_zero _),
    fun i a ha h => ?_⟩ (Nat.sub_le _ _)
  rw [List.getElem?_eq_none h] at ha
  exact absurd ha.symm (Option.some_ne_none a)

theorem lt_search_iff (hends : Ends before xs) {i : ℕ} {a : α} (ha : xs[i]? = some a) :
    i < search before xs ↔ before a = true := by
  constructor
  · exact (search_between hends).below i a ha
  · intro h
    by_contra hle
    rw [(search_between hends).above i a ha (not_lt.mp hle)] at h
    exact Bool.noConfusion h

theorem mem_drop_take (hp : Ends p xs) (hq : Ends q xs) {a : α} :
    a ∈ (xs.take (search q xs)).drop (search p xs) ↔ a ∈ xs ∧ p a = false ∧ q a = true := by
  rw [List.mem_iff_getElem?]
  constructor
  · rintro ⟨i, hi⟩
    rw [List.getElem?_drop, List.getElem?_take] at hi
    split_ifs at hi with hlt
    refine ⟨List.mem_of_getElem? hi, ?_, (lt_search_iff hq hi).mp hlt⟩
    exact (search_between hp).above _ a hi (Nat.le_add_right _ _)
  · rintro ⟨ha, hpa, hqa⟩
    obtain ⟨i, hi⟩ := List.mem_iff_getElem?.mp ha
    have hle : search p xs ≤ i := by
      by_contra hlt
      rw [(lt_search_iff hp hi).mp (not_le.mp hlt)] at hpa
      exact Bool.noConfusion hpa
    refine ⟨i - search p xs, ?_⟩
    rw [List.getElem?_drop, List.getElem?_take, Nat.add_sub_cancel' hle,
      if_pos ((lt_search_iff hq hi).mpr hqa), hi]

end BinarySearch
