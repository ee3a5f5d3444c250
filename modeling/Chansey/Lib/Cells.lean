import Mathlib.Algebra.GroupWithZero.Nat
import Mathlib.Algebra.Order.Group.Nat
import Mathlib.Order.Lattice.Nat

/-!
# Cells of a linear order

Increasing edges cut the elements from the first edge up into half-open cells, of which the last has
no upper edge.
-/

variable {α : Type} [LinearOrder α]

/-- The elements from `lo` up, below `hi` when there is one. -/
structure Cell (α : Type) where
  lo : α
  hi : Option α
  deriving DecidableEq

namespace Cell

def Contains (c : Cell α) (x : α) : Prop := c.lo ≤ x ∧ ∀ edge ∈ c.hi, x < edge

instance decidableContains (c : Cell α) (x : α) : Decidable (c.Contains x) :=
  inferInstanceAs (Decidable (c.lo ≤ x ∧ ∀ edge ∈ c.hi, x < edge))

def tally (values : List α) (c : Cell α) : ℕ := values.countP fun x => c.Contains x

def rank (values : List α) (edge : Option α) : ℕ := values.countP fun x => ∀ e ∈ edge, x < e

def cells (edges : List α) : List (Cell α) :=
  edges.zipWith Cell.mk (edges.tail.map some ++ [none])

variable {values : List α} {c : Cell α} {edge next : α} {edges : List α}

omit [LinearOrder α] in
theorem cells_singleton (edge : α) : cells [edge] = [⟨edge, none⟩] := rfl

omit [LinearOrder α] in
theorem cells_cons_cons (edge next : α) (edges : List α) :
    cells (edge :: next :: edges) = ⟨edge, some next⟩ :: cells (next :: edges) := rfl

theorem tally_append (xs ys : List α) (c : Cell α) : tally (xs ++ ys) c = tally xs c + tally ys c :=
  List.countP_append

theorem rank_none : rank values none = values.length := by
  refine List.countP_eq_length.mpr fun x _ => ?_
  simp

theorem rank_mono {a b : Option α} (h : ∀ x : α, (∀ e ∈ a, x < e) → ∀ e ∈ b, x < e) :
    rank values a ≤ rank values b := by
  refine List.countP_mono_left fun x _ hx => ?_
  exact decide_eq_true (h x (of_decide_eq_true hx))

theorem rank_some_mono {a b : α} (h : a ≤ b) : rank values (some a) ≤ rank values (some b) := by
  refine rank_mono fun x hx e he => ?_
  obtain rfl : b = e := Option.some.inj he
  exact (hx a rfl).trans_le h

theorem rank_eq_zero (h : ∀ x ∈ values, edge ≤ x) : rank values (some edge) = 0 := by
  refine List.countP_eq_zero.mpr fun x hx hlt => ?_
  exact absurd (of_decide_eq_true hlt edge rfl) (not_lt.mpr (h x hx))

theorem rank_lo_add_tally (h : ∀ e ∈ c.hi, c.lo ≤ e) :
    rank values (some c.lo) + tally values c = rank values c.hi := by
  induction values with
  | nil => rfl
  | cons x values ih =>
    have hbelow : (∀ e ∈ some c.lo, x < e) ↔ x < c.lo := by simp
    have hsplit : (∀ e ∈ c.hi, x < e) ↔ x < c.lo ∨ c.Contains x := by
      constructor
      · intro hx
        exact (lt_or_ge x c.lo).imp_right fun hle => ⟨hle, hx⟩
      · rintro (hx | hx) e he
        · exact hx.trans_le (h e he)
        · exact hx.2 e he
    simp only [rank, tally, List.countP_cons, decide_eq_true_eq, hbelow, hsplit] at ih ⊢
    rw [← ih]
    by_cases hx : x < c.lo
    · have hout : ¬c.Contains x := fun hin => absurd hin.1 (not_le.mpr hx)
      simp only [hx, hout, true_or, if_true, if_false]
      omega
    · simp only [hx, false_or, if_false]
      omega

theorem cells_pairwise (h : edges.Pairwise (· < ·)) :
    (cells edges).Pairwise fun c d => ∃ e, c.hi = some e ∧ e ≤ d.lo := by
  have hlo : ∀ (next : α) (edges : List α), (next :: edges).Pairwise (· < ·) →
      ∀ d ∈ cells (next :: edges), next ≤ d.lo := by
    intro next edges
    induction edges generalizing next with
    | nil =>
      rintro - d hd
      rw [List.mem_singleton.mp hd]
    | cons edge edges ih =>
      intro hpw d hd
      rw [List.pairwise_cons] at hpw
      rcases List.mem_cons.mp hd with rfl | hd
      · exact le_rfl
      · exact (hpw.1 edge List.mem_cons_self).le.trans (ih edge hpw.2 d hd)
  induction edges with
  | nil => exact List.Pairwise.nil
  | cons edge edges ih =>
    cases edges with
    | nil => exact List.pairwise_singleton _ _
    | cons next edges =>
      rw [List.pairwise_cons] at h
      rw [cells_cons_cons]
      exact List.pairwise_cons.mpr ⟨fun d hd => ⟨next, rfl, hlo next edges h.2 d hd⟩, ih h.2⟩

theorem cells_separate {d : Cell α} (h : edges.Pairwise (· < ·)) (hc : c ∈ cells edges)
    (hd : d ∈ cells edges) (hne : c ≠ d) :
    (∃ e, c.hi = some e ∧ e ≤ d.lo) ∨ ∃ e, d.hi = some e ∧ e ≤ c.lo := by
  have hsymm : Std.Symm fun c d : Cell α =>
      (∃ e, c.hi = some e ∧ e ≤ d.lo) ∨ ∃ e, d.hi = some e ∧ e ≤ c.lo := ⟨fun _ _ => Or.symm⟩
  have hpw : (cells edges).Pairwise fun c d =>
      (∃ e, c.hi = some e ∧ e ≤ d.lo) ∨ ∃ e, d.hi = some e ∧ e ≤ c.lo :=
    (cells_pairwise h).imp fun {_ _} => Or.inl
  exact hpw.forall hc hd hne

theorem lo_lt_hi (h : edges.Pairwise (· < ·)) (hc : c ∈ cells edges) : ∀ e ∈ c.hi, c.lo < e := by
  induction edges with
  | nil => exact absurd hc List.not_mem_nil
  | cons edge edges ih =>
    cases edges with
    | nil =>
      rw [List.mem_singleton.mp hc]
      rintro e he
      exact absurd he (by simp)
    | cons next =>
      rw [List.pairwise_cons] at h
      rcases List.mem_cons.mp hc with rfl | hc
      · intro e he
        obtain rfl : next = e := Option.some.inj he
        exact h.1 next List.mem_cons_self
      · exact ih h.2 hc

theorem sum_tally (h : (edge :: edges).Pairwise (· < ·)) :
    rank values (some edge) + ((cells (edge :: edges)).map (tally values)).sum = values.length := by
  induction edges generalizing edge with
  | nil =>
    have hrank := @rank_lo_add_tally α _ values ⟨edge, none⟩ fun e he => absurd he (by simp)
    rw [cells_singleton, List.map_singleton, List.sum_singleton, hrank, rank_none]
  | cons next edges ih =>
    have hlt := @lo_lt_hi α _ ⟨edge, some next⟩ _ h List.mem_cons_self next rfl
    have hrank := @rank_lo_add_tally α _ values ⟨edge, some next⟩ fun e he => by
      obtain rfl : next = e := Option.some.inj he
      exact hlt.le
    rw [cells_cons_cons, List.map_cons, List.sum_cons, ← Nat.add_assoc, hrank]
    exact ih (List.pairwise_cons.mp h).2

end Cell
