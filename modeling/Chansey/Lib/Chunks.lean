import Mathlib.Algebra.Ring.Divisibility.Basic
import Mathlib.Data.Int.ConditionallyCompleteOrder
import Mathlib.Data.List.Pairwise
import Mathlib.Tactic.Linarith

/-!
# A range in chunks

A range of integers is cut into chunks of one width, each ending where the next begins, less one.
-/

namespace Chunks

variable {α : Type}

def chunkEnd (width : ℕ) (stop cursor : ℤ) : ℤ :=
  if cursor + width > stop then stop else cursor + width

theorem lt_chunkEnd_succ {width : ℕ} {stop cursor : ℤ} (h : cursor < stop) :
    cursor < chunkEnd width stop cursor + 1 := by
  unfold chunkEnd
  split <;> omega

theorem chunkEnd_le (width : ℕ) (stop cursor : ℤ) : chunkEnd width stop cursor ≤ stop := by
  unfold chunkEnd
  split <;> omega

def chunks (width : ℕ) (stop cursor : ℤ) : List (ℤ × ℤ) :=
  if cursor < stop then
    (cursor, chunkEnd width stop cursor) ::
      chunks width stop (chunkEnd width stop cursor + 1)
  else []
termination_by (stop - cursor).toNat
decreasing_by
  have := @lt_chunkEnd_succ width stop cursor ‹_›
  omega

variable {width : ℕ} {stop cursor : ℤ}

theorem chunks_of_lt (h : cursor < stop) :
    chunks width stop cursor = (cursor, chunkEnd width stop cursor) ::
      chunks width stop (chunkEnd width stop cursor + 1) := by
  rw [chunks, if_pos h]

theorem chunks_of_le (h : stop ≤ cursor) : chunks width stop cursor = [] := by
  rw [chunks, if_neg (not_lt.mpr h)]

/-- The end of the range is left to a chunk of one instant, which is not made. -/
def Dropped (width : ℕ) (stop cursor : ℤ) : Prop :=
  cursor ≤ stop ∧ ((width : ℤ) + 1) ∣ stop - cursor

instance (width : ℕ) (stop cursor : ℤ) : Decidable (Dropped width stop cursor) := by
  unfold Dropped
  infer_instance

theorem dropped_next {width : ℕ} {stop cursor : ℤ} (h : cursor < stop) :
    Dropped width stop (chunkEnd width stop cursor + 1) ↔ Dropped width stop cursor := by
  unfold Dropped chunkEnd
  split
  · refine iff_of_false (fun hnext => by omega) fun hhere => ?_
    have := Int.le_of_dvd (by omega) hhere.2
    omega
  · have hsub : stop - (cursor + width + 1) = stop - cursor - ((width : ℤ) + 1) := by omega
    rw [hsub, dvd_sub_self_right]
    constructor
    · exact fun hnext => ⟨h.le, hnext.2⟩
    · intro hhere
      have := Int.le_of_dvd (by omega) hhere.2
      exact ⟨by omega, hhere.2⟩

theorem bounds_of_mem {chunk : ℤ × ℤ} (h : chunk ∈ chunks width stop cursor) :
    cursor ≤ chunk.1 ∧ chunk.2 ≤ stop := by
  induction cursor using chunks.induct width stop with
  | case1 cursor hlt ih =>
    rw [chunks_of_lt hlt] at h
    rcases List.mem_cons.mp h with rfl | h
    · exact ⟨le_refl _, chunkEnd_le _ _ _⟩
    · have hnext := @lt_chunkEnd_succ width _ _ hlt
      exact ⟨hnext.le.trans (ih h).1, (ih h).2⟩
  | case2 cursor hle =>
    rw [chunks_of_le (not_lt.mp hle)] at h
    cases h

theorem pairwise_chunks (width : ℕ) (stop cursor : ℤ) :
    (chunks width stop cursor).Pairwise (fun a b => a.2 < b.1) := by
  induction cursor using chunks.induct width stop with
  | case1 cursor hlt ih =>
    rw [chunks_of_lt hlt]
    refine List.Pairwise.cons (fun chunk hchunk => ?_) ih
    exact Int.lt_of_add_one_le (bounds_of_mem hchunk).1
  | case2 cursor hle =>
    rw [chunks_of_le (not_lt.mp hle)]
    exact List.Pairwise.nil

def Covers (width : ℕ) (stop cursor : ℤ) (instant : ℤ) : Prop :=
  cursor ≤ instant ∧ instant ≤ stop ∧ ¬ (instant = stop ∧ Dropped width stop cursor)

instance (width : ℕ) (stop cursor instant : ℤ) : Decidable (Covers width stop cursor instant) := by
  unfold Covers
  infer_instance

theorem covers_iff_of_lt {stop cursor instant : ℤ} (h : cursor < stop) :
    Covers width stop cursor instant ↔
      (cursor ≤ instant ∧ instant ≤ chunkEnd width stop cursor) ∨
        Covers width stop (chunkEnd width stop cursor + 1) instant := by
  have hnext := @lt_chunkEnd_succ width _ _ h
  have hend := chunkEnd_le width stop cursor
  have hdropped := @dropped_next width _ _ h
  unfold Covers
  rw [hdropped]
  by_cases hd : Dropped width stop cursor
  · have hlt : chunkEnd width stop cursor < stop := Int.lt_of_add_one_le (hdropped.mpr hd).1
    simp only [hd, and_true]
    omega
  · simp only [hd, and_false, not_false_eq_true, and_true]
    omega

theorem not_covers_of_le {stop cursor instant : ℤ} (h : stop ≤ cursor) :
    ¬ Covers width stop cursor instant := by
  rintro ⟨_, _, hdropped⟩
  obtain rfl : cursor = stop := by omega
  exact hdropped ⟨by omega, le_refl _, by simp⟩

/-! ## Reading chunk by chunk -/

theorem filter_append_filter_perm {p q : α → Bool} {rows : List α}
    (h : ∀ row ∈ rows, p row = true → q row = false) :
    (rows.filter p ++ rows.filter q).Perm (rows.filter fun row => p row || q row) := by
  induction rows with
  | nil => exact List.Perm.refl _
  | cons row rows ih =>
    have hrest := ih fun other hother => h other (List.mem_cons_of_mem _ hother)
    have hrow := h row List.mem_cons_self
    cases hp : p row with
    | true =>
      simpa [hp, hrow hp] using hrest.cons row
    | false =>
      cases hq : q row with
      | true =>
        simp only [hp, hq, List.filter_cons_of_pos, Bool.false_eq_true, not_false_eq_true,
          List.filter_cons_of_neg, Bool.or_true]
        exact List.perm_middle.trans (hrest.cons row)
      | false => simpa [hp, hq] using hrest

theorem flatMap_chunks_perm (width : ℕ) (stop cursor : ℤ) (time : α → ℤ) (rows : List α) :
    ((chunks width stop cursor).flatMap fun chunk =>
        rows.filter fun row => decide (chunk.1 ≤ time row ∧ time row ≤ chunk.2)).Perm
      (rows.filter fun row => decide (Covers width stop cursor (time row))) := by
  induction cursor using chunks.induct width stop with
  | case1 cursor hlt ih =>
    rw [chunks_of_lt hlt, List.flatMap_cons]
    refine (ih.append_left _).trans ((filter_append_filter_perm fun row _ hrow => ?_).trans ?_)
    · have hbef := (of_decide_eq_true hrow).2
      exact decide_eq_false fun hcovers => absurd hcovers.1 (by omega)
    · refine List.Perm.of_eq (List.filter_congr fun row _ => ?_)
      rw [← Bool.decide_or, decide_eq_decide]
      exact (covers_iff_of_lt hlt).symm
  | case2 cursor hle =>
    rw [chunks_of_le (not_lt.mp hle), List.flatMap_nil]
    refine List.Perm.of_eq (List.filter_eq_nil_iff.mpr fun row _ => ?_).symm
    exact fun hcovers => not_covers_of_le (not_lt.mp hle) (of_decide_eq_true hcovers)

theorem flatMap_chunks_sorted (width : ℕ) (stop cursor : ℤ) (time : α → ℤ) {read : ℤ × ℤ → List α}
    (hsort : ∀ chunk, (read chunk).Pairwise (fun a b => time a ≤ time b))
    (hrange : ∀ chunk, ∀ row ∈ read chunk, chunk.1 ≤ time row ∧ time row ≤ chunk.2) :
    ((chunks width stop cursor).flatMap read).Pairwise (fun a b => time a ≤ time b) := by
  refine List.pairwise_flatMap.mpr ⟨fun chunk _ => hsort chunk, ?_⟩
  refine (pairwise_chunks width stop cursor).imp fun hlt a ha b hb => ?_
  exact (hrange _ a ha).2.trans (hlt.le.trans (hrange _ b hb).1)

end Chunks
