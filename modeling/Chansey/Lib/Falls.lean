import Mathlib.Algebra.Order.Field.Basic

/-!
# Falls of a series

A fall goes from an element of a series to a later one, or to itself, and is measured by the element
it starts from.
-/

namespace Falls

theorem getElem?_concat_eq_some {α : Type} {values : List α} {i : ℕ} {x y : α} :
    (values ++ [y])[i]? = some x ↔ values[i]? = some x ∨ i = values.length ∧ y = x := by
  rcases lt_trichotomy i values.length with hlt | rfl | hgt
  · rw [List.getElem?_append_left hlt]
    simp [hlt.ne]
  · simp
  · rw [List.getElem?_eq_none hgt.le, List.getElem?_eq_none (by simpa using Nat.succ_le_of_lt hgt)]
    simp [hgt.ne']

/-! ## Tops -/

section Tops

variable {K : Type} [LinearOrder K] {values : List K} {x y z : K} {i j : ℕ}

/-- The highest element of a series up to `j`. -/
structure Tops (values : List K) (j : ℕ) (x : K) : Prop where
  reached : ∃ i, i ≤ j ∧ values[i]? = some x
  highest : ∀ i z, i ≤ j → values[i]? = some z → z ≤ x

theorem exists_tops (hj : j < values.length) : ∃ x, Tops values j x := by
  induction j with
  | zero =>
    refine ⟨values[0], ⟨0, le_rfl, List.getElem?_eq_getElem hj⟩, fun i z hi hz => ?_⟩
    rw [Nat.le_zero.mp hi, List.getElem?_eq_getElem hj] at hz
    exact (Option.some.inj hz).ge
  | succ j ih =>
    obtain ⟨x, ⟨i, hi, hx⟩, hhigh⟩ := ih (Nat.lt_of_succ_lt hj)
    have hlast : ∀ z, values[j + 1]? = some z → z = values[j + 1] := fun z hz => by
      rw [List.getElem?_eq_getElem hj] at hz
      exact (Option.some.inj hz).symm
    rcases le_total x values[j + 1] with hle | hle
    · refine ⟨values[j + 1], ⟨j + 1, le_rfl, List.getElem?_eq_getElem hj⟩, fun i z hi hz => ?_⟩
      rcases Nat.of_le_succ hi with hi | rfl
      · exact (hhigh i z hi hz).trans hle
      · exact (hlast z hz).le
    · refine ⟨x, ⟨i, hi.trans (Nat.le_succ j), hx⟩, fun i z hi hz => ?_⟩
      rcases Nat.of_le_succ hi with hi | rfl
      · exact hhigh i z hi hz
      · exact (hlast z hz).trans_le hle

theorem Tops.concat_of_lt (hj : j < values.length) :
    Tops (values ++ [y]) j x ↔ Tops values j x := by
  have hget : ∀ i z, i ≤ j → ((values ++ [y])[i]? = some z ↔ values[i]? = some z) :=
    fun i z hi => by rw [List.getElem?_append_left (hi.trans_lt hj)]
  constructor
  · rintro ⟨⟨i, hi, hx⟩, hhigh⟩
    exact ⟨⟨i, hi, (hget i x hi).mp hx⟩, fun i z hi hz => hhigh i z hi ((hget i z hi).mpr hz)⟩
  · rintro ⟨⟨i, hi, hx⟩, hhigh⟩
    exact ⟨⟨i, hi, (hget i x hi).mpr hx⟩, fun i z hi hz => hhigh i z hi ((hget i z hi).mp hz)⟩

theorem Tops.unique (hx : Tops values j x) (hz : Tops values j z) : x = z := by
  obtain ⟨i, hi, hget⟩ := hx.reached
  obtain ⟨k, hk, hget'⟩ := hz.reached
  exact le_antisymm (hz.highest i x hi hget) (hx.highest k z hk hget')

end Tops

/-! ## Falls -/

section Falls

variable {K : Type} [Field K] [LinearOrder K] {values : List K} {w x y z d : K}

def falls (values : List K) : Set K :=
  {d | ∃ (i j : ℕ) (x y : K), i ≤ j ∧ values[i]? = some x ∧ values[j]? = some y ∧ d = (x - y) / x}

/-- The falls from tops. -/
def drawdowns (values : List K) : Set K :=
  {d | ∃ j x y, Tops values j x ∧ values[j]? = some y ∧ d = (x - y) / x}

theorem drawdowns_concat (htop : Tops (values ++ [y]) values.length x) :
    drawdowns (values ++ [y]) = insert ((x - y) / x) (drawdowns values) := by
  ext d
  constructor
  · rintro ⟨j, z, w, hz, hw, rfl⟩
    rcases getElem?_concat_eq_some.mp hw with hw | ⟨rfl, rfl⟩
    · exact .inr ⟨j, z, w, (Tops.concat_of_lt (List.getElem?_eq_some_iff.mp hw).1).mp hz, hw, rfl⟩
    · rw [hz.unique htop]
      exact .inl rfl
  · rintro (rfl | ⟨j, z, w, hz, hw, rfl⟩)
    · exact ⟨_, x, y, htop, getElem?_concat_eq_some.mpr (.inr ⟨rfl, rfl⟩), rfl⟩
    · exact ⟨j, z, w, (Tops.concat_of_lt (List.getElem?_eq_some_iff.mp hw).1).mpr hz,
        getElem?_concat_eq_some.mpr (.inl hw), rfl⟩

variable [IsStrictOrderedRing K]

theorem fall_le_fall (hx : 0 < x) (hxz : x ≤ z) (hy : 0 ≤ y) : (x - y) / x ≤ (z - y) / z := by
  have hz : 0 < z := hx.trans_le hxz
  rw [sub_div, sub_div, div_self hx.ne', div_self hz.ne']
  exact sub_le_sub_left (div_le_div_of_nonneg_left hy hx hxz) 1

theorem le_of_fall_le (hx : 0 < x) (hz : 0 < z) (hsize : z - w = x - y) (hpos : 0 < x - y)
    (hle : (x - y) / x ≤ (z - w) / z) : z ≤ x := by
  rw [hsize] at hle
  exact (div_le_div_iff_of_pos_left hpos hx hz).mp hle

theorem deepest_from_top (hpos : ∀ x ∈ values, 0 < x) (hd : IsGreatest (falls values) d) :
    ∃ j x y, Tops values j x ∧ values[j]? = some y ∧ d = (x - y) / x := by
  obtain ⟨i, j, x, y, hij, hx, hy, rfl⟩ := hd.1
  obtain ⟨z, hz⟩ := exists_tops (List.getElem?_eq_some_iff.mp hy).1
  obtain ⟨k, hk, hrch⟩ := hz.reached
  refine ⟨j, z, y, hz, hy, le_antisymm ?_ (hd.2 ⟨k, j, z, y, hk, hrch, hy, rfl⟩)⟩
  exact fall_le_fall (hpos x (List.mem_of_getElem? hx)) (hz.highest i x hij hx)
    (hpos y (List.mem_of_getElem? hy)).le

theorem isGreatest_falls (hpos : ∀ x ∈ values, 0 < x) (hd : IsGreatest (drawdowns values) d) :
    IsGreatest (falls values) d := by
  obtain ⟨j, x, y, hx, hy, rfl⟩ := hd.1
  obtain ⟨i, hij, hget⟩ := hx.reached
  refine ⟨⟨i, j, x, y, hij, hget, hy, rfl⟩, ?_⟩
  rintro _ ⟨i, j, z, w, hij, hz, hw, rfl⟩
  obtain ⟨t, ht⟩ := exists_tops (List.getElem?_eq_some_iff.mp hw).1
  exact (fall_le_fall (hpos z (List.mem_of_getElem? hz)) (ht.highest i z hij hz)
    (hpos w (List.mem_of_getElem? hw)).le).trans (hd.2 ⟨j, t, w, ht, hw, rfl⟩)

end Falls

end Falls
