import Mathlib.Data.List.NodupEquivFin
import Chansey.Optimization.ParameterSpace

/-!
# The values of a parameter

A grid search tries the values of a loop from the minimum in steps, rounded as the type of the
parameter asks, and the maximum if the last of them is below it. For a fractional parameter some
natural values between the bounds are added.

* `LoopEnds`, `Listed`, `ListedTwice`: when it does, what the values are, and which come twice.
-/

namespace Chansey.Optimization

def round4 (value : ℚ) : ℚ := (Js.round (value * 10000) : ℚ) / 10000

theorem Js.round_mono {x y : ℚ} (h : x ≤ y) : Js.round x ≤ Js.round y :=
  Int.floor_le_floor (by linarith)

theorem round4_mono {x y : ℚ} (h : x ≤ y) : round4 x ≤ round4 y := by
  have hround : (Js.round (x * 10000) : ℚ) ≤ Js.round (y * 10000) :=
    Int.cast_le.mpr (Js.round_mono (by linarith))
  unfold round4
  linarith

def stepValues (max step : ℚ) : ℕ → ℚ → Option (List ℚ)
  | 0, _ => none
  | turns + 1, value =>
    if value ≤ max then (stepValues max step turns (value + step)).map (value :: ·) else some []

namespace NumericParameter

variable (param : NumericParameter)

def rounded (value : ℚ) : ℚ :=
  match param.type with
  | .integer => (Js.round value : ℚ)
  | .float => round4 value

/-- The maximum is added if the last value is below it. -/
def withMax (values : List ℚ) : List ℚ :=
  match values.getLast? with
  | some last => if last < param.upper then values ++ [param.rounded param.upper] else values
  | none => values

def anchors : List ℚ :=
  [round4 param.lower, round4 param.default, round4 param.upper] ++
    (List.range (⌊param.upper⌋ - ⌈param.lower⌉ + 1).toNat).map
      fun (i : ℕ) => ((⌈param.lower⌉ + i : ℤ) : ℚ)

def withAnchors (values : List ℚ) : List ℚ :=
  (values ++ param.anchors.filter fun a => param.lower ≤ a ∧ a ≤ param.upper).dedup.insertionSort
    (· ≤ ·)

def expand (turns : ℕ) : Option (List ℚ) :=
  if param.lower = param.upper then some [param.lower]
  else (stepValues param.upper param.stepSize turns param.lower).map fun points =>
    let values := param.withMax (points.map param.rounded)
    match param.type with
    | .integer => values
    | .float => param.withAnchors values

/-! ## In terms of the bounds and the step -/

def LoopEnds : Prop :=
  param.lower = param.upper ∨ param.upper < param.lower ∨ 0 < param.stepSize

def gridPoint (k : ℕ) : ℚ := param.lower + k * param.stepSize

/-- That many steps from the minimum do not pass the maximum. -/
def GridIndex (k : ℕ) : Prop := param.lower ≤ param.upper ∧ param.gridPoint k ≤ param.upper

/-- All grid points are rounded to values below the maximum. -/
def MaxAdded : Prop :=
  param.lower ≤ param.upper ∧ ∀ k, param.GridIndex k →
    param.rounded (param.gridPoint k) < param.upper

def IsAnchor (q : ℚ) : Prop :=
  (q = round4 param.lower ∨ q = round4 param.default ∨ q = round4 param.upper ∨ ∃ n : ℤ, q = n) ∧
    param.lower ≤ q ∧ q ≤ param.upper

def GridValue (q : ℚ) : Prop :=
  if param.lower = param.upper then q = param.lower
  else ∃ k, param.GridIndex k ∧ q = param.rounded (param.gridPoint k)

def Listed (q : ℚ) : Prop :=
  param.GridValue q ∨ param.lower ≠ param.upper ∧
    (param.MaxAdded ∧ q = param.rounded param.upper ∨ param.type = .float ∧ param.IsAnchor q)

/-- Two grid points are rounded to the value, or one of them and the maximum that is added. -/
def ListedTwice (q : ℚ) : Prop :=
  param.type = .integer ∧ param.lower ≠ param.upper ∧
    ((∃ j k, j < k ∧ param.GridIndex k ∧ q = param.rounded (param.gridPoint j) ∧
      q = param.rounded (param.gridPoint k)) ∨
    (param.MaxAdded ∧ q = param.rounded param.upper ∧ param.GridValue q))

/-! ## The loop -/

variable {param}

theorem rounded_mono {x y : ℚ} (h : x ≤ y) : param.rounded x ≤ param.rounded y := by
  unfold rounded
  split
  · exact Int.cast_le.mpr (Js.round_mono h)
  · exact round4_mono h

end NumericParameter

theorem stepValues_eq_none {max step value : ℚ} (hstep : step ≤ 0) (hvalue : value ≤ max)
    (turns : ℕ) : stepValues max step turns value = none := by
  induction turns generalizing value with
  | zero => rfl
  | succ turns ih => rw [stepValues, if_pos hvalue, ih (by linarith), Option.map_none]

theorem stepValues_eq_some {max step value : ℚ} {n turns : ℕ}
    (hle : ∀ k < n, value + k * step ≤ max) (hlt : max < value + n * step) (hturns : n < turns) :
    stepValues max step turns value = some ((List.range n).map fun k : ℕ => value + k * step) := by
  induction n generalizing value turns with
  | zero =>
    obtain ⟨_, rfl⟩ := Nat.exists_eq_add_of_lt hturns
    rw [stepValues, if_neg (by simpa using hlt)]
    rfl
  | succ n ih =>
    obtain ⟨turns, rfl⟩ := Nat.exists_eq_add_of_lt hturns
    have hfirst : value ≤ max := by simpa using hle 0 (Nat.succ_pos n)
    have hrest := @ih (value + step) (n + 1 + turns) (fun k hk => by
        have := hle (k + 1) (Nat.succ_lt_succ hk)
        push_cast at this
        linarith) (by push_cast at hlt; linarith) (by omega)
    rw [stepValues, if_pos hfirst, hrest, Option.map_some, List.range_succ_eq_map, List.map_cons,
      List.map_map]
    refine congrArg some (List.cons_eq_cons.mpr ⟨by simp, List.map_congr_left fun k _ => ?_⟩)
    rw [Function.comp_apply, Nat.cast_succ]
    ring

namespace NumericParameter

variable {param : NumericParameter}

theorem gridPoint_mono (h : 0 < param.stepSize) {j k : ℕ} (hjk : j ≤ k) :
    param.gridPoint j ≤ param.gridPoint k := by
  have hcast : (j : ℚ) ≤ k := Nat.cast_le.mpr hjk
  have := mul_le_mul_of_nonneg_right hcast h.le
  unfold gridPoint
  linarith

theorem exists_gridIndex_iff (hne : param.lower ≠ param.upper) (h : param.LoopEnds) :
    ∃ n : ℕ, (∀ k, param.GridIndex k ↔ k < n) ∧ param.upper < param.gridPoint n := by
  rcases lt_or_gt_of_ne hne with hlt | hgt
  · have hstep : 0 < param.stepSize := by
      rcases h with heq | hgt | hstep
      · exact absurd heq hne
      · exact absurd hlt hgt.not_gt
      · exact hstep
    set steps := ⌊(param.upper - param.lower) / param.stepSize⌋₊ with hsteps
    have hle : ∀ k : ℕ, k ≤ steps ↔ param.gridPoint k ≤ param.upper := fun k => by
      rw [hsteps, Nat.le_floor_iff (by
        have := sub_pos.mpr hlt
        positivity), le_div_iff₀ hstep, gridPoint]
      exact le_sub_iff_add_le'
    refine ⟨steps + 1, fun k => ?_, ?_⟩
    · rw [GridIndex, and_iff_right hlt.le, ← hle, Nat.lt_succ_iff]
    · exact not_le.mp fun hpoint => absurd ((hle _).mpr hpoint) (by omega)
  · refine ⟨0, fun k => iff_of_false (fun hk => ?_) (Nat.not_lt_zero k), ?_⟩
    · exact absurd hk.1 (not_le.mpr hgt)
    · simpa [gridPoint] using hgt

theorem stepValues_lower (hne : param.lower ≠ param.upper) (h : param.LoopEnds) :
    ∃ n : ℕ, (∀ k, param.GridIndex k ↔ k < n) ∧ ∀ turns, n < turns →
      stepValues param.upper param.stepSize turns param.lower =
        some ((List.range n).map param.gridPoint) := by
  obtain ⟨n, hindex, hlt⟩ := exists_gridIndex_iff hne h
  refine ⟨n, hindex, fun turns hturns => ?_⟩
  exact stepValues_eq_some (fun k hk => ((hindex k).mpr hk).2) hlt hturns

theorem expand_eq_none (h : ¬ param.LoopEnds) (turns : ℕ) : param.expand turns = none := by
  simp only [LoopEnds, not_or, not_lt] at h
  obtain ⟨hne, hle, hstep⟩ := h
  rw [expand, if_neg hne, stepValues_eq_none hstep hle, Option.map_none]

end NumericParameter

theorem count_map_range_eq_one {f : ℕ → ℚ} {n : ℕ} {q : ℚ} (hmem : q ∈ (List.range n).map f) :
    ((List.range n).map f).count q = 1 ↔ ¬ ∃ j k, j < k ∧ k < n ∧ q = f j ∧ q = f k := by
  have hpos := List.count_pos_iff.mpr hmem
  have htwice : 2 ≤ ((List.range n).map f).count q ↔
      ∃ j k, j < k ∧ k < n ∧ q = f j ∧ q = f k := by
    rw [← List.duplicate_iff_two_le_count, List.duplicate_iff_exists_distinct_get]
    simp only [List.get_eq_getElem, List.getElem_map, List.getElem_range]
    constructor
    · rintro ⟨j, k, hjk, hqj, hqk⟩
      exact ⟨j, k, hjk, by simpa using k.isLt, hqj, hqk⟩
    · rintro ⟨j, k, hjk, hk, hqj, hqk⟩
      exact ⟨⟨j, by simpa using hjk.trans hk⟩, ⟨k, by simpa using hk⟩, hjk, hqj, hqk⟩
  rw [← htwice]
  omega

namespace NumericParameter

variable {param : NumericParameter}

/-! ## The maximum and the anchors -/

theorem withMax_eq {n : ℕ} (hne : param.lower ≠ param.upper) (h : param.LoopEnds)
    (hindex : ∀ k, param.GridIndex k ↔ k < n) :
    param.MaxAdded ∧ param.withMax ((List.range n).map (param.rounded ∘ param.gridPoint)) =
        (List.range n).map (param.rounded ∘ param.gridPoint) ++ [param.rounded param.upper] ∨
      ¬ param.MaxAdded ∧ param.withMax ((List.range n).map (param.rounded ∘ param.gridPoint)) =
        (List.range n).map (param.rounded ∘ param.gridPoint) := by
  cases n with
  | zero =>
    refine .inr ⟨fun hmax => ?_, rfl⟩
    exact absurd ((hindex 0).mp ⟨hmax.1, by simpa [gridPoint] using hmax.1⟩) (lt_irrefl 0)
  | succ n =>
    have hlast := (hindex n).mpr (Nat.lt_succ_self n)
    have hstep : 0 < param.stepSize := by
      rcases h with heq | hgt | hstep
      · exact absurd heq hne
      · exact absurd hlast.1 (not_le.mpr hgt)
      · exact hstep
    have hmax : param.MaxAdded ↔ param.rounded (param.gridPoint n) < param.upper := by
      refine ⟨fun hmax => hmax.2 n hlast, fun hlt => ⟨hlast.1, fun k hk => ?_⟩⟩
      have hkn := Nat.lt_succ_iff.mp ((hindex k).mp hk)
      exact (rounded_mono (gridPoint_mono hstep hkn)).trans_lt hlt
    have hget : ((List.range (n + 1)).map (param.rounded ∘ param.gridPoint)).getLast? =
        some (param.rounded (param.gridPoint n)) := by
      rw [List.range_succ, List.map_append, List.map_singleton, List.getLast?_concat]
      rfl
    unfold withMax
    rw [hget]
    dsimp only
    by_cases hlt : param.rounded (param.gridPoint n) < param.upper
    · exact .inl ⟨hmax.mpr hlt, if_pos hlt⟩
    · exact .inr ⟨fun h => hlt (hmax.mp h), if_neg hlt⟩

theorem mem_anchors_iff {q : ℚ} :
    q ∈ param.anchors.filter (fun a => param.lower ≤ a ∧ a ≤ param.upper) ↔ param.IsAnchor q := by
  rw [List.mem_filter, decide_eq_true_eq, IsAnchor]
  refine and_congr_left fun hbounds => ?_
  simp only [anchors, List.mem_append, List.mem_cons, List.not_mem_nil, or_false, List.mem_map,
    List.mem_range, or_assoc]
  refine or_congr_right (or_congr_right (or_congr_right ⟨?_, ?_⟩))
  · rintro ⟨i, -, rfl⟩
    exact ⟨_, rfl⟩
  · rintro ⟨n, rfl⟩
    have hfirst := Int.ceil_le.mpr hbounds.1
    have hlast := Int.le_floor.mpr hbounds.2
    refine ⟨(n - ⌈param.lower⌉).toNat, by omega, ?_⟩
    rw [Int.toNat_of_nonneg (by omega), add_sub_cancel]

theorem mem_withAnchors_iff {values : List ℚ} {q : ℚ} :
    q ∈ param.withAnchors values ↔ q ∈ values ∨ param.IsAnchor q := by
  rw [withAnchors, List.mem_insertionSort, List.mem_dedup, List.mem_append, mem_anchors_iff]

theorem nodup_withAnchors (values : List ℚ) : (param.withAnchors values).Nodup :=
  (List.perm_insertionSort _ _).nodup_iff.mpr (List.nodup_dedup _)

def ValuesAre (param : NumericParameter) (values : List ℚ) : Prop :=
  (∀ q, q ∈ values ↔ param.Listed q) ∧ ∀ q ∈ values, values.count q = 1 ↔ ¬ param.ListedTwice q

theorem withMax_spec {n : ℕ} (hne : param.lower ≠ param.upper) (h : param.LoopEnds)
    (hindex : ∀ k, param.GridIndex k ↔ k < n) :
    (∀ q, q ∈ param.withMax ((List.range n).map (param.rounded ∘ param.gridPoint)) ↔
      param.GridValue q ∨ param.MaxAdded ∧ q = param.rounded param.upper) ∧
    ∀ q ∈ param.withMax ((List.range n).map (param.rounded ∘ param.gridPoint)),
      (param.withMax ((List.range n).map (param.rounded ∘ param.gridPoint))).count q = 1 ↔
        ¬ ((∃ j k, j < k ∧ param.GridIndex k ∧ q = param.rounded (param.gridPoint j) ∧
            q = param.rounded (param.gridPoint k)) ∨
          param.MaxAdded ∧ q = param.rounded param.upper ∧ param.GridValue q) := by
  have hgrid : ∀ q, q ∈ (List.range n).map (param.rounded ∘ param.gridPoint) ↔
      param.GridValue q := fun q => by
    rw [GridValue, if_neg hne, List.mem_map]
    refine exists_congr fun k => ?_
    rw [List.mem_range, ← hindex, Function.comp_apply, eq_comm]
  have hcount : ∀ q, param.GridValue q →
      (((List.range n).map (param.rounded ∘ param.gridPoint)).count q = 1 ↔
        ¬ ∃ j k, j < k ∧ param.GridIndex k ∧ q = param.rounded (param.gridPoint j) ∧
          q = param.rounded (param.gridPoint k)) := fun q hq => by
    simp only [hindex]
    exact count_map_range_eq_one ((hgrid q).mpr hq)
  rcases withMax_eq hne h hindex with ⟨hmax, heq⟩ | ⟨hmax, heq⟩
  · rw [heq]
    refine ⟨fun q => ?_, fun q hq => ?_⟩
    · rw [List.mem_append, hgrid, List.mem_singleton, and_iff_right hmax]
    · rw [List.count_append, List.count_singleton, and_iff_right hmax]
      by_cases hq' : q = param.rounded param.upper
      · have htwice : (∃ j k, j < k ∧ param.GridIndex k ∧ q = param.rounded (param.gridPoint j) ∧
            q = param.rounded (param.gridPoint k)) → param.GridValue q := by
          rintro ⟨j, k, -, hk, -, hqk⟩
          rw [GridValue, if_neg hne]
          exact ⟨k, hk, hqk⟩
        rw [and_iff_right hq', or_iff_right_of_imp htwice, ← hgrid, ← List.count_eq_zero]
        simp [hq']
      · have hmem : param.GridValue q := by
          rw [List.mem_append, List.mem_singleton, hgrid] at hq
          exact hq.resolve_right hq'
        have hbeq : ¬ (param.rounded param.upper == q) = true := fun h => hq' (beq_iff_eq.mp h).symm
        rw [if_neg hbeq, Nat.add_zero, hcount q hmem, iff_false_intro hq', false_and, or_false]
  · rw [heq]
    simp only [hmax, false_and, or_false]
    exact ⟨hgrid, fun q hq => hcount q ((hgrid q).mp hq)⟩

theorem expand_spec (h : param.LoopEnds) :
    ∃ values, (∃ n, ∀ turns, n < turns → param.expand turns = some values) ∧
      ValuesAre param values := by
  by_cases heq : param.lower = param.upper
  · refine ⟨[param.lower], ⟨0, fun turns _ => if_pos heq⟩, fun q => ?_, fun q hq => ?_⟩
    · simp [Listed, GridValue, heq]
    · rw [List.mem_singleton.mp hq]
      simp [ListedTwice, heq]
  · obtain ⟨n, hindex, hloop⟩ := stepValues_lower heq h
    obtain ⟨hmem, hcount⟩ := withMax_spec heq h hindex
    have hexpand : ∀ turns, n < turns → param.expand turns = some (match param.type with
        | .integer => param.withMax ((List.range n).map (param.rounded ∘ param.gridPoint))
        | .float => param.withAnchors
            (param.withMax ((List.range n).map (param.rounded ∘ param.gridPoint)))) := by
      intro turns hturns
      rw [expand, if_neg heq, hloop turns hturns, Option.map_some, List.map_map]
    refine ⟨_, ⟨n, hexpand⟩, ?_⟩
    cases htype : param.type with
    | integer =>
      refine ⟨fun q => ?_, fun q hq => ?_⟩
      · dsimp only
        rw [hmem, Listed, htype]
        simp [heq]
      · dsimp only at hq ⊢
        rw [hcount q hq, ListedTwice, and_iff_right htype, and_iff_right heq]
    | float =>
      refine ⟨fun q => ?_, fun q hq => ?_⟩
      · dsimp only
        rw [mem_withAnchors_iff, hmem, Listed, and_iff_right heq, and_iff_right htype, or_assoc]
      · dsimp only at hq ⊢
        refine iff_of_true (List.count_eq_one_of_mem (nodup_withAnchors _) hq) fun htwice => ?_
        rw [htwice.1] at htype
        cases htype

end NumericParameter

/-! ## Parameters of all kinds -/

def expandParameter (turns : ℕ) (param : ParameterDefinition) : Option (List ParamValue) :=
  match param.domain with
  | .numeric param => (param.expand turns).map (·.map ParamValue.num)
  | .categorical values default => some (values.getD [default])

namespace ParameterDefinition

variable (param : ParameterDefinition)

def LoopEnds : Prop :=
  match param.domain with
  | .numeric param => param.LoopEnds
  | .categorical _ _ => True

/-- The value lies between the bounds, or is one of the categories. -/
def InBounds (value : ParamValue) : Prop :=
  match param.domain with
  | .numeric param => ∃ q, value = .num q ∧ param.lower ≤ q ∧ q ≤ param.upper
  | .categorical values default => value ∈ values.getD [default]

def GridValue (value : ParamValue) : Prop :=
  match param.domain with
  | .numeric param => ∃ q, value = .num q ∧ param.GridValue q
  | .categorical values default => value ∈ values.getD [default]

def Listed (value : ParamValue) : Prop :=
  match param.domain with
  | .numeric param => ∃ q, value = .num q ∧ param.Listed q
  | .categorical values default => value ∈ values.getD [default]

def ListedTwice (value : ParamValue) : Prop :=
  match param.domain with
  | .numeric param => ∃ q, value = .num q ∧ param.ListedTwice q
  | .categorical values default => (values.getD [default]).Duplicate value

variable {param}

theorem GridValue.listed {value : ParamValue} (h : param.GridValue value) : param.Listed value := by
  unfold GridValue at h
  unfold Listed
  split at h
  · obtain ⟨q, rfl, hq⟩ := h
    exact ⟨q, rfl, Or.inl hq⟩
  · exact h

end ParameterDefinition

theorem expandParameter_eq_none {param : ParameterDefinition} (h : ¬ param.LoopEnds)
    (turns : ℕ) : expandParameter turns param = none := by
  unfold ParameterDefinition.LoopEnds at h
  unfold expandParameter
  split at h
  · rw [NumericParameter.expand_eq_none h, Option.map_none]
  · exact absurd trivial h

theorem expandParameter_spec {param : ParameterDefinition} (h : param.LoopEnds) :
    ∃ values, (∃ n, ∀ turns, n < turns → expandParameter turns param = some values) ∧
      (∀ value, value ∈ values ↔ param.Listed value) ∧
      ∀ value ∈ values, values.count value = 1 ↔ ¬ param.ListedTwice value := by
  unfold ParameterDefinition.LoopEnds at h
  unfold expandParameter ParameterDefinition.Listed ParameterDefinition.ListedTwice
  split at h
  · obtain ⟨values, ⟨n, hexpand⟩, hmem, hcount⟩ := NumericParameter.expand_spec h
    refine ⟨values.map .num, ⟨n, fun turns hturns => ?_⟩, fun value => ?_, fun value hvalue => ?_⟩
    · rw [hexpand turns hturns, Option.map_some]
    · rw [List.mem_map]
      refine exists_congr fun q => ?_
      rw [hmem, and_comm, eq_comm]
    · obtain ⟨q, hq, rfl⟩ := List.mem_map.mp hvalue
      rw [List.count_map_of_injective _ _ ParamValue.num_injective, hcount q hq]
      simp
  · rename_i values default _
    refine ⟨values.getD [default], ⟨0, fun _ _ => rfl⟩, fun _ => Iff.rfl, fun value hvalue => ?_⟩
    have hpos := List.count_pos_iff.mpr hvalue
    rw [List.duplicate_iff_two_le_count]
    omega

end Chansey.Optimization
