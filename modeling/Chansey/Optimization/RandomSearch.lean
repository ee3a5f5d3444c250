import Mathlib.Data.Nat.Log
import Chansey.Optimization.Combinations
import Chansey.Optimization.ParameterSpace

/-!
# Random search

A combination is drawn value by value: some number of steps from the minimum, rounded as the type
and the step of the parameter ask, or a category. A value that is undefined is left out.

* `Admissible`: the numeric values lie in their bounds and on their grid, and the combination meets
  the constraints and the reachability filter.
-/

namespace Chansey.Optimization

def stepDecimals (step : ℚ) : ℕ :=
  if 1 ≤ step then 0 else max 4 (Nat.clog 10 ⌈1 / step⌉₊)

namespace NumericParameter

variable (param : NumericParameter)

/-- Rounded to an integer, or to the decimals of the step; there are none of a negative step. -/
def quantized (value : ℚ) : ParamValue :=
  match param.type with
  | .integer => .num (Js.round value)
  | .float =>
    if param.stepSize ≤ 0 then .nan
    else
      let factor : ℚ := 10 ^ stepDecimals param.stepSize
      .num (Js.round (value * factor) / factor)

/-- How many values there are from the minimum to the maximum. -/
def range : ℤ := ⌊(param.upper - param.lower) / param.stepSize⌋ + 1

def randomValue (draw : ℚ) : ParamValue :=
  if param.stepSize = 0 then .nan
  else param.quantized (param.lower + ⌊draw * param.range⌋ * param.stepSize)

def OnGrid (q : ℚ) : Prop := ∃ k : ℤ, q = param.lower + k * param.stepSize

def Admissible (q : ℚ) : Prop := param.lower ≤ q ∧ q ≤ param.upper ∧ param.OnGrid q

end NumericParameter

def randomValue (param : ParameterDefinition) (draw : ℚ) : Option ParamValue :=
  match param.domain with
  | .categorical values default =>
    let values := values.getD [default]
    values[⌊draw * values.length⌋.toNat]?
  | .numeric param => some (param.randomValue draw)

/-- `result[name] = value` -/
def setValue (result : ParamValues) (name : String) : Option ParamValue → ParamValues
  | some value => result.set name value
  | none => result

def sampleRandom (result : ParamValues) :
    List ParameterDefinition → RandomFn → ParamValues × RandomFn
  | [], random => (result, random)
  | param :: parameters, random =>
    sampleRandom (setValue result param.name (randomValue param random.next)) parameters random.rest

def generateRandomCombination (space : ParameterSpace) (random : RandomFn) :
    ParamValues × RandomFn :=
  sampleRandom OrdMap.empty space.parameters random

/-! ## What can be drawn -/

/-- A number of steps that is drawn if `n` are possible. -/
def StepIndex (n j : ℤ) : Prop := if 0 < n then 0 ≤ j ∧ j < n else n ≤ j ∧ j ≤ 0

theorem stepIndex_zero (n : ℤ) : StepIndex n 0 := by
  unfold StepIndex
  split_ifs with h
  · exact ⟨le_rfl, h⟩
  · exact ⟨not_lt.mp h, le_rfl⟩

theorem stepIndex_floor {n : ℤ} {draw : ℚ} (h0 : 0 ≤ draw) (h1 : draw < 1) :
    StepIndex n ⌊draw * n⌋ := by
  unfold StepIndex
  split_ifs with hn
  · have hpos : (0 : ℚ) < n := Int.cast_pos.mpr hn
    exact ⟨Int.floor_nonneg.mpr (by positivity), Int.floor_lt.mpr (by nlinarith)⟩
  · have hneg : (n : ℚ) ≤ 0 := Int.cast_nonpos.mpr (not_lt.mp hn)
    refine ⟨Int.le_floor.mpr (by nlinarith), ?_⟩
    exact Int.floor_le_iff.mpr (by push_cast; nlinarith)

theorem exists_draw_of_stepIndex {n j : ℤ} (h : StepIndex n j) :
    ∃ draw : ℚ, 0 ≤ draw ∧ draw < 1 ∧ ⌊draw * n⌋ = j := by
  by_cases hj : j = 0
  · exact ⟨0, le_refl 0, zero_lt_one, by simp [hj]⟩
  · unfold StepIndex at h
    -- the middle of what is rounded down to this number
    have hfloor : ∀ hn : (n : ℚ) ≠ 0, ⌊((j : ℚ) + 1 / 2) / n * n⌋ = j := fun hn => by
      rw [div_mul_cancel₀ _ hn, Int.floor_intCast_add]
      norm_num
    split_ifs at h with hn
    · have hpos : (0 : ℚ) < n := Int.cast_pos.mpr hn
      have hj0 : (0 : ℚ) ≤ j := Int.cast_nonneg h.1
      have hjn : (j : ℚ) + 1 ≤ n := by exact_mod_cast h.2
      exact ⟨_, by positivity, (div_lt_one hpos).mpr (by linarith), hfloor hpos.ne'⟩
    · have hj1 : (j : ℚ) + 1 ≤ 0 := by exact_mod_cast lt_of_le_of_ne h.2 hj
      have hnj : (n : ℚ) ≤ j := Int.cast_le.mpr h.1
      have hneg : (n : ℚ) < 0 := by linarith
      refine ⟨_, div_nonneg_of_nonpos (by linarith) hneg.le, ?_, hfloor hneg.ne⟩
      exact (div_lt_one_of_neg hneg).mpr (by linarith)

/-- A value that can be drawn: a step of the grid, rounded, or a category. -/
def ParameterDefinition.RandomValue (param : ParameterDefinition) (value : Option ParamValue) :
    Prop :=
  match param.domain with
  | .categorical values default =>
    (∃ category ∈ values.getD [default], value = some category) ∨ values = some [] ∧ value = none
  | .numeric param =>
    if param.stepSize = 0 then value = some .nan
    else ∃ j, StepIndex param.range j ∧
      value = some (param.quantized (param.lower + j * param.stepSize))

theorem randomValue_iff {param : ParameterDefinition} {value : Option ParamValue} :
    param.RandomValue value ↔ ∃ draw : ℚ, 0 ≤ draw ∧ draw < 1 ∧ randomValue param draw = value := by
  unfold ParameterDefinition.RandomValue randomValue
  split
  · rename_i values default _
    constructor
    · rintro (⟨category, hmem, rfl⟩ | ⟨rfl, rfl⟩)
      · obtain ⟨i, hi, rfl⟩ := List.mem_iff_getElem.mp hmem
        have hindex : StepIndex (values.getD [default]).length i := by
          rw [StepIndex, if_pos (by omega)]
          omega
        obtain ⟨draw, h0, h1, hdraw⟩ := exists_draw_of_stepIndex hindex
        refine ⟨draw, h0, h1, ?_⟩
        rw [Int.cast_natCast] at hdraw
        dsimp only
        rw [hdraw, Int.toNat_natCast]
        exact List.getElem?_eq_getElem hi
      · exact ⟨0, le_refl 0, zero_lt_one, rfl⟩
    · rintro ⟨draw, h0, h1, rfl⟩
      by_cases hempty : values = some []
      · exact .inr ⟨hempty, by rw [hempty]; rfl⟩
      · have hpos : 0 < (values.getD [default]).length := by
          cases values with
          | none => exact Nat.one_pos
          | some =>
            exact List.length_pos_iff.mpr fun hnil => hempty (congrArg some hnil)
        have hindex := @stepIndex_floor (values.getD [default]).length draw h0 h1
        rw [StepIndex, if_pos (by omega), Int.cast_natCast] at hindex
        have hlt : ⌊draw * (values.getD [default]).length⌋.toNat <
            (values.getD [default]).length := by omega
        exact .inl ⟨_, List.getElem_mem hlt, List.getElem?_eq_getElem hlt⟩
  · rename_i param _
    unfold NumericParameter.randomValue
    split_ifs
    · constructor
      · exact fun h => ⟨0, le_refl 0, zero_lt_one, h.symm⟩
      · rintro ⟨draw, h0, h1, rfl⟩
        rfl
    · constructor
      · rintro ⟨j, hj, rfl⟩
        obtain ⟨draw, h0, h1, hdraw⟩ := exists_draw_of_stepIndex hj
        exact ⟨draw, h0, h1, by rw [hdraw]⟩
      · rintro ⟨draw, h0, h1, rfl⟩
        exact ⟨_, stepIndex_floor h0 h1, rfl⟩

def RandomFn.cons (draw : ℚ) (h0 : 0 ≤ draw) (h1 : draw < 1) (normal : ℚ) (random : RandomFn) :
    RandomFn where
  draws n := Nat.casesOn n draw random.draws
  nonneg n := by
    cases n with
    | zero => exact h0
    | succ n => exact random.nonneg n
  lt_one n := by
    cases n with
    | zero => exact h1
    | succ n => exact random.lt_one n
  normals n := Nat.casesOn n normal random.normals

def record (result : ParamValues) : List ParameterDefinition → List (Option ParamValue) → ParamValues
  | param :: parameters, value :: choice =>
    record (setValue result param.name value) parameters choice
  | _, _ => result

theorem sampleRandom_sound (result : ParamValues) (parameters : List ParameterDefinition)
    (random : RandomFn) :
    ∃ choice, List.Forall₂ ParameterDefinition.RandomValue parameters choice ∧
      (sampleRandom result parameters random).1 = record result parameters choice := by
  induction parameters generalizing result random with
  | nil => exact ⟨[], List.Forall₂.nil, rfl⟩
  | cons param parameters ih =>
    obtain ⟨choice, hch, heq⟩ :=
      ih (setValue result param.name (randomValue param random.next)) random.rest
    refine ⟨randomValue param random.next :: choice, List.Forall₂.cons ?_ hch, heq⟩
    exact randomValue_iff.mpr ⟨random.next, random.nonneg 0, random.lt_one 0, rfl⟩

theorem sampleRandom_complete (result : ParamValues) {parameters : List ParameterDefinition}
    {choice : List (Option ParamValue)}
    (h : List.Forall₂ ParameterDefinition.RandomValue parameters choice) (tail : RandomFn) :
    ∃ random, sampleRandom result parameters random = (record result parameters choice, tail) := by
  induction h generalizing result with
  | nil => exact ⟨tail, rfl⟩
  | cons hvalue _ ih =>
    rename_i param value parameters choice _
    obtain ⟨draw, h0, h1, rfl⟩ := randomValue_iff.mp hvalue
    obtain ⟨random, hrnd⟩ := ih (setValue result param.name (randomValue param draw))
    exact ⟨random.cons draw h0 h1 0, hrnd⟩

def RandomCombination (space : ParameterSpace) (values : ParamValues) : Prop :=
  ∃ choice, List.Forall₂ ParameterDefinition.RandomValue space.parameters choice ∧
    values = record OrdMap.empty space.parameters choice

/-! ## Admissible combinations -/

section Admissible

variable (less : ParamValue → ParamValue → Bool) (space : ParameterSpace)
  (reachabilityFilter : Option (ParamValues → Bool))

def NumericAdmissible (values : ParamValues) : Prop :=
  ∀ param ∈ space.parameters, ∀ numeric, param.domain = .numeric numeric →
    ∃ q, values.get? param.name = some (.num q) ∧ numeric.Admissible q

structure Admissible (values : ParamValues) : Prop where
  numeric : NumericAdmissible space values
  accepted : space.accepts less reachabilityFilter values = true

end Admissible

/-! ## Steps that rounding keeps -/

namespace NumericParameter

variable (param : NumericParameter)

/-- Values are rounded to multiples of one, or of the last decimal of the step. -/
def unit : ℚ :=
  match param.type with
  | .integer => 1
  | .float => 1 / 10 ^ stepDecimals param.stepSize

/-- **Rounding keeps the steps that can be drawn**: the minimum is a multiple of the unit, and so is
the step if a second one fits. An integer step of at most a half can be rounded to another one. -/
def StepsStay : Prop :=
  if param.unit < 2 * param.stepSize then
    param.lower ≤ param.upper ∧ (∃ m : ℤ, param.lower = m * param.unit) ∧
      (param.lower + param.stepSize ≤ param.upper → ∃ m : ℤ, param.stepSize = m * param.unit)
  else
    param.type = .integer ∧ param.stepSize ≠ 0 ∧ ∀ j, StepIndex param.range j →
      param.Admissible (Js.round (param.lower + j * param.stepSize))

def DrawsAdmissible : Prop :=
  param.stepSize ≠ 0 ∧ ∀ j, StepIndex param.range j →
    ∃ q, param.quantized (param.lower + j * param.stepSize) = .num q ∧ param.Admissible q

theorem unit_pos : 0 < param.unit := by
  unfold unit
  split <;> positivity

theorem unit_le_stepSize (htype : param.type = .float) (hstep : 0 < param.stepSize) :
    param.unit ≤ param.stepSize := by
  unfold unit stepDecimals
  rw [htype]
  dsimp only
  split_ifs with hone
  · rw [pow_zero, div_one]
    exact hone
  · have hdecimals : 1 / param.stepSize ≤
        (10 : ℚ) ^ Max.max 4 (Nat.clog 10 ⌈1 / param.stepSize⌉₊) := by
      calc 1 / param.stepSize ≤ (⌈1 / param.stepSize⌉₊ : ℚ) := Nat.le_ceil _
        _ ≤ (10 : ℚ) ^ Nat.clog 10 ⌈1 / param.stepSize⌉₊ := by
          exact_mod_cast Nat.le_pow_clog (by norm_num) _
        _ ≤ _ := pow_le_pow_right₀ (by norm_num) (le_max_right _ _)
    rw [div_le_iff₀ (by positivity)]
    rwa [div_le_iff₀ hstep, mul_comm] at hdecimals

variable {param} {value : ℚ}

theorem quantized_eq (h : param.type = .integer ∨ 0 < param.stepSize) :
    param.quantized value = .num (Js.round (value / param.unit) * param.unit) := by
  unfold quantized unit
  cases htype : param.type with
  | integer => simp
  | float =>
    have hstep := h.resolve_left (by simp [htype])
    simp only
    rw [if_neg (not_le.mpr hstep)]
    simp [div_eq_mul_inv]

theorem round_mul_unit (m : ℤ) : (Js.round ((m * param.unit) / param.unit) : ℚ) * param.unit =
    m * param.unit := by
  have hround : Js.round (m : ℚ) = m := by
    unfold Js.round
    rw [Int.floor_intCast_add]
    norm_num
  rw [mul_div_cancel_right₀ _ (unit_pos param).ne', hround]

theorem abs_round_sub_le : |Js.round (value / param.unit) * param.unit - value| ≤ param.unit / 2 := by
  have hunit := unit_pos param
  have hle := Int.floor_le (value / param.unit + 1 / 2)
  have hlt := Int.lt_floor_add_one (value / param.unit + 1 / 2)
  have hvalue : value = value / param.unit * param.unit := (div_mul_cancel₀ _ hunit.ne').symm
  rw [Js.round, abs_le]
  constructor <;> nlinarith

/-- What is rounded to a step is less than a step away, so it was that step. -/
theorem multiple_of_rounded {j : ℤ} (hlong : param.unit < 2 * param.stepSize)
    (h : param.Admissible
      (Js.round ((param.lower + j * param.stepSize) / param.unit) * param.unit)) :
    ∃ m : ℤ, param.lower + j * param.stepSize = m * param.unit := by
  obtain ⟨-, -, k, hk⟩ := h
  have hnear := abs_le.mp (@abs_round_sub_le param (param.lower + j * param.stepSize))
  rw [hk] at hnear
  have hunit := unit_pos param
  have hkj : k = j := by
    have hlt : (k : ℚ) < (j + 1 : ℤ) := by
      push_cast
      nlinarith
    have hgt : (j : ℚ) < (k + 1 : ℤ) := by
      push_cast
      nlinarith
    have := Int.cast_lt.mp hlt
    have := Int.cast_lt.mp hgt
    omega
  exact ⟨_, hkj ▸ hk.symm⟩

theorem drawsAdmissible_iff : param.DrawsAdmissible ↔ param.StepsStay := by
  have hunit := unit_pos param
  by_cases htype : param.type = .integer ∨ 0 < param.stepSize
  · have hdraws : param.DrawsAdmissible ↔ param.stepSize ≠ 0 ∧ ∀ j, StepIndex param.range j →
        param.Admissible (Js.round ((param.lower + j * param.stepSize) / param.unit) * param.unit) := by
      refine and_congr_right fun _ => forall₂_congr fun j _ => ?_
      rw [quantized_eq htype]
      constructor
      · rintro ⟨q, hq, hadm⟩
        rwa [ParamValue.num_injective hq]
      · exact fun hadm => ⟨_, rfl, hadm⟩
    rw [hdraws, StepsStay]
    split_ifs with hlong
    · have hstep : 0 < param.stepSize := by linarith
      constructor
      · rintro ⟨-, hdraw⟩
        have hfirst := hdraw 0 (stepIndex_zero _)
        obtain ⟨m, hm⟩ := multiple_of_rounded hlong hfirst
        rw [Int.cast_zero, zero_mul, add_zero] at hm
        refine ⟨hfirst.1.trans hfirst.2.1, ⟨m, hm⟩, fun hsecond => ?_⟩
        have hone : StepIndex param.range 1 := by
          have hfloor : (1 : ℤ) ≤ ⌊(param.upper - param.lower) / param.stepSize⌋ := by
            rw [Int.le_floor, le_div_iff₀ hstep]
            push_cast
            linarith
          rw [StepIndex, range, if_pos (by omega)]
          omega
        obtain ⟨m', hm'⟩ := multiple_of_rounded hlong (hdraw 1 hone)
        exact ⟨m' - m, by push_cast at hm' ⊢; linarith⟩
      · rintro ⟨hle, ⟨m, hm⟩, hsecond⟩
        refine ⟨hstep.ne', fun j hj => ?_⟩
        have hfloor : (0 : ℤ) ≤ ⌊(param.upper - param.lower) / param.stepSize⌋ :=
          Int.floor_nonneg.mpr (div_nonneg (by linarith) hstep.le)
        rw [StepIndex, range, if_pos (by omega)] at hj
        have hj0 : (0 : ℚ) ≤ j := Int.cast_nonneg hj.1
        have hjle : (j : ℚ) * param.stepSize ≤ param.upper - param.lower := by
          rw [← le_div_iff₀ hstep]
          exact Int.le_floor.mp (by omega)
        have hmult : ∃ n : ℤ, param.lower + j * param.stepSize = n * param.unit := by
          by_cases hj1 : j = 0
          · exact ⟨m, by rw [hj1, Int.cast_zero, zero_mul, add_zero, hm]⟩
          · have hj1 : (1 : ℚ) ≤ j := by exact_mod_cast (by omega : (1 : ℤ) ≤ j)
            obtain ⟨s, hs⟩ := hsecond (by nlinarith)
            exact ⟨m + j * s, by rw [hs, hm]; push_cast; ring⟩
        obtain ⟨n, hn⟩ := hmult
        rw [hn, round_mul_unit, ← hn]
        exact ⟨by nlinarith, by linarith, j, rfl⟩
    · cases hkind : param.type with
      | integer =>
        have hone : param.unit = 1 := by rw [unit, hkind]
        simp only [hone, div_one, mul_one, true_and]
      | float =>
        have hstep := htype.resolve_left (by simp [hkind])
        exact absurd (unit_le_stepSize param hkind hstep) (by linarith)
  · obtain ⟨hfloat, hneg⟩ := not_or.mp htype
    refine iff_of_false (fun h => ?_) fun h => ?_
    · obtain ⟨q, hq, -⟩ := h.2 0 (stepIndex_zero _)
      unfold quantized at hq
      split at hq
      · exact hfloat ‹_›
      · rw [if_pos (not_lt.mp hneg)] at hq
        cases hq
    · rw [StepsStay, if_neg (by linarith)] at h
      exact hfloat h.1

end NumericParameter

section Combinations

variable {space : ParameterSpace}

theorem get?_record_of_notMem {parameters : List ParameterDefinition}
    {choice : List (Option ParamValue)} {key : String} (result : ParamValues)
    (h : key ∉ parameters.map ParameterDefinition.name) :
    (record result parameters choice).get? key = result.get? key := by
  induction parameters generalizing result choice with
  | nil => rfl
  | cons param parameters ih =>
    cases choice with
    | nil => rfl
    | cons value choice =>
      rw [List.map_cons, List.mem_cons, not_or] at h
      rw [record, ih _ h.2]
      cases value with
      | none => rfl
      | some value => exact OrdMap.get?_set_of_ne _ _ (Ne.symm h.1)

theorem choice_eq {R : ParameterDefinition → Option ParamValue → Prop}
    {parameters : List ParameterDefinition} {choice : List (Option ParamValue)}
    (result : ParamValues) (hnames : (parameters.map ParameterDefinition.name).Nodup)
    (h : List.Forall₂ R parameters choice)
    (hresult : ∀ param ∈ parameters, result.get? param.name = none) :
    choice = parameters.map fun param => (record result parameters choice).get? param.name := by
  induction h generalizing result with
  | nil => rfl
  | @cons first value parameters choice hvalue hrest ih =>
    rw [List.map_cons, List.nodup_cons] at hnames
    have hset : ∀ param ∈ parameters,
        (setValue result first.name value).get? param.name = none := by
      intro param hparam
      have hother := hresult param (List.mem_cons_of_mem _ hparam)
      cases value with
      | none => exact hother
      | some value =>
        refine (OrdMap.get?_set_of_ne _ _ fun heq => hnames.1 ?_).trans hother
        exact heq ▸ List.mem_map_of_mem hparam
    have hfirst : (setValue result first.name value).get? first.name = value := by
      cases value with
      | none => exact hresult first List.mem_cons_self
      | some value => exact OrdMap.get?_set_self _ _ _
    rw [List.map_cons, record, get?_record_of_notMem _ hnames.1, hfirst, ← ih _ hnames.2 hset]

theorem get?_record {R : ParameterDefinition → Option ParamValue → Prop}
    {choice : List (Option ParamValue)} (h : List.Forall₂ R space.parameters choice)
    {param : ParameterDefinition} (hparam : param ∈ space.parameters) :
    R param ((record OrdMap.empty space.parameters choice).get? param.name) := by
  have hchoice := choice_eq OrdMap.empty space.names_nodup h fun _ _ => rfl
  rw [hchoice, List.forall₂_map_right_iff, List.forall₂_same] at h
  exact h param hparam

theorem record_default (space : ParameterSpace) :
    record OrdMap.empty space.parameters (space.parameters.map fun param => some param.default) =
      getBaselineValues space := by
  have hfold : ∀ (parameters : List ParameterDefinition) (result : ParamValues),
      record result parameters (parameters.map fun param => some param.default) =
        (parameters.map fun param => (param.name, param.default)).foldl
          (fun m e => m.set e.1 e.2) result := by
    intro parameters
    induction parameters with
    | nil => exact fun _ => rfl
    | cons param parameters ih => exact fun result => ih (result.set param.name param.default)
  exact hfold space.parameters OrdMap.empty

theorem get?_getBaselineValues {param : ParameterDefinition} (h : param ∈ space.parameters) :
    (getBaselineValues space).get? param.name = some param.default := by
  rw [OrdMap.get?_eq_some_iff, getBaselineValues, OrdMap.entries_ofEntries (by
    rw [List.map_map]
    exact space.names_nodup)]
  exact List.mem_map_of_mem (f := fun param : ParameterDefinition => (param.name, param.default)) h

theorem randomValue_admissible_iff {param : ParameterDefinition} {numeric : NumericParameter}
    (hnumeric : param.domain = .numeric numeric) :
    (∀ value, param.RandomValue value → ∃ q, value = some (.num q) ∧ numeric.Admissible q) ↔
      numeric.StepsStay := by
  rw [← NumericParameter.drawsAdmissible_iff]
  unfold ParameterDefinition.RandomValue NumericParameter.DrawsAdmissible
  rw [hnumeric]
  dsimp only
  by_cases hstep : numeric.stepSize = 0
  · refine iff_of_false (fun h => ?_) fun h => h.1 hstep
    obtain ⟨q, hq, -⟩ := h (some .nan) (by simp [hstep])
    cases hq
  · simp only [ne_eq, hstep, not_false_eq_true, true_and]
    constructor
    · intro h j hj
      obtain ⟨q, hq, hadm⟩ := h _ ⟨j, hj, rfl⟩
      exact ⟨q, Option.some.inj hq, hadm⟩
    · rintro h value ⟨j, hj, rfl⟩
      obtain ⟨q, hq, hadm⟩ := h j hj
      exact ⟨q, congrArg some hq, hadm⟩

/-- Of the other parameters only the defaults can be drawn, and of this one nothing inadmissible but
its default: what is inadmissible is the baseline. -/
structure OnlyBaseline (space : ParameterSpace) (param : ParameterDefinition)
    (numeric : NumericParameter) : Prop where
  others : ∀ other ∈ space.parameters, other.name ≠ param.name →
    ∀ value, other.RandomValue value → value = some other.default
  draws : ∀ value, param.RandomValue value →
    value = some param.default ∨ ∃ q, value = some (.num q) ∧ numeric.Admissible q

theorem exists_combination {pick : ParameterDefinition → Option ParamValue}
    (hpick : ∀ param ∈ space.parameters, param.RandomValue (pick param)) :
    ∃ values, RandomCombination space values ∧
      ∀ param ∈ space.parameters, values.get? param.name = pick param := by
  have hforall : List.Forall₂ ParameterDefinition.RandomValue space.parameters
      (space.parameters.map pick) := by
    rw [List.forall₂_map_right_iff, List.forall₂_same]
    exact hpick
  refine ⟨_, ⟨_, hforall, rfl⟩, fun param hparam => ?_⟩
  have hchoice := choice_eq OrdMap.empty space.names_nodup hforall fun _ _ => rfl
  exact (List.map_inj_left.mp hchoice param hparam).symm

theorem drawn_numericAdmissible_iff (space : ParameterSpace) :
    (∀ values, RandomCombination space values → values ≠ getBaselineValues space →
      NumericAdmissible space values) ↔
    ∀ param ∈ space.parameters, ∀ numeric, param.domain = .numeric numeric →
      numeric.StepsStay ∨ OnlyBaseline space param numeric := by
  constructor
  · intro h param hparam numeric hnumeric
    rw [or_iff_not_imp_left, ← randomValue_admissible_iff hnumeric]
    intro hbad
    obtain ⟨bad, hbad⟩ := not_forall.mp hbad
    obtain ⟨hdrawn, hbad⟩ := Classical.not_imp.mp hbad
    have hsame : ∀ q ∈ space.parameters, ∀ p ∈ space.parameters, q.name = p.name → q = p :=
      fun q hq p hp => List.inj_on_of_nodup_map space.names_nodup hq hp
    have hany : ∀ q : ParameterDefinition, q.RandomValue (randomValue q 0) :=
      fun q => randomValue_iff.mpr ⟨0, le_rfl, zero_lt_one, rfl⟩
    constructor
    · intro other hother hne value hvalue
      by_contra hvaries
      obtain ⟨values, hcombination, hget⟩ := @exists_combination space
        (fun q => if q.name = param.name then bad else
          if q.name = other.name then value else randomValue q 0) (fun q hq => by
            split_ifs with hp ho
            · exact hsame q hq param hparam hp ▸ hdrawn
            · exact hsame q hq other hother ho ▸ hvalue
            · exact hany q)
      have hadm := h values hcombination fun hbase => hvaries (by
        have hread := hget other hother
        rwa [if_neg hne, if_pos rfl, hbase, get?_getBaselineValues hother, eq_comm] at hread)
      obtain ⟨q, hq, hadm⟩ := hadm param hparam numeric hnumeric
      rw [hget param hparam, if_pos rfl] at hq
      exact hbad ⟨q, hq, hadm⟩
    · intro value hvalue
      rw [or_iff_not_imp_left]
      intro hvaries
      obtain ⟨values, hcombination, hget⟩ := @exists_combination space
        (fun q => if q.name = param.name then value else randomValue q 0) (fun q hq => by
          split_ifs with hp
          · exact hsame q hq param hparam hp ▸ hvalue
          · exact hany q)
      have hadm := h values hcombination fun hbase => hvaries (by
        have hread := hget param hparam
        rwa [if_pos rfl, hbase, get?_getBaselineValues hparam, eq_comm] at hread)
      obtain ⟨q, hq, hadm⟩ := hadm param hparam numeric hnumeric
      rw [hget param hparam, if_pos rfl] at hq
      exact ⟨q, hq, hadm⟩
  · rintro h _ ⟨choice, hch, rfl⟩ hne param hparam numeric hnumeric
    have hvalue := get?_record hch hparam
    rcases h param hparam numeric hnumeric with hstay | honly
    · exact (randomValue_admissible_iff hnumeric).mpr hstay _ hvalue
    · refine (honly.draws _ hvalue).resolve_left fun hdefault => hne ?_
      -- then all values are the defaults
      have hall : ∀ other ∈ space.parameters,
          (record OrdMap.empty space.parameters choice).get? other.name = some other.default := by
        intro other hother
        by_cases hname : other.name = param.name
        · rw [List.inj_on_of_nodup_map space.names_nodup hother hparam hname]
          exact hdefault
        · exact honly.others other hother hname _ (get?_record hch hother)
      have hchoice := choice_eq OrdMap.empty space.names_nodup hch fun _ _ => rfl
      rw [List.map_congr_left hall] at hchoice
      rw [hchoice, record_default]

end Combinations

/-! ## The loop -/

section Loop

variable {P R : Type} [DecidableEq P] {generate : R → P × R} {accepts : P → Bool}
  {numCombinations : ℕ}

variable {attempts : ℕ} {combinations : List (Combination P)} {random : R}

theorem drawCombinations_succ :
    drawCombinations generate accepts numCombinations (attempts + 1) combinations random =
      if combinations.length < numCombinations then
        drawCombinations generate accepts numCombinations attempts
          (if combinations.any (·.values = (generate random).1) ∨ ¬ accepts (generate random).1
            then combinations
            else combinations ++ [⟨combinations.length, (generate random).1, false⟩])
          (generate random).2
      else combinations := rfl

theorem drawCombinations_sound {c : Combination P}
    (h : c ∈ drawCombinations generate accepts numCombinations attempts combinations random) :
    c ∈ combinations ∨ accepts c.values = true ∧ (∃ random, (generate random).1 = c.values) ∧
      ∀ other ∈ combinations, other.values ≠ c.values := by
  induction attempts generalizing combinations random with
  | zero => exact .inl h
  | succ attempts ih =>
    rw [drawCombinations_succ] at h
    split_ifs at h with hroom hrej
    · exact ih h
    · rw [not_or, not_not] at hrej
      obtain ⟨hnew, haccept⟩ := hrej
      rcases ih h with hmem | ⟨hacc, hgen, hother⟩
      · rcases List.mem_append.mp hmem with hmem | hmem
        · exact .inl hmem
        · obtain rfl := List.mem_singleton.mp hmem
          refine .inr ⟨haccept, ⟨random, rfl⟩, fun other hother heq => hnew ?_⟩
          exact List.any_eq_true.mpr ⟨other, hother, decide_eq_true heq⟩
      · exact .inr ⟨hacc, hgen, fun other hmem => hother other (List.mem_append_left _ hmem)⟩
    · exact .inl h

theorem mem_drawCombinations {c : Combination P} (h : c ∈ combinations) :
    c ∈ drawCombinations generate accepts numCombinations attempts combinations random := by
  induction attempts generalizing combinations random with
  | zero => exact h
  | succ attempts ih =>
    rw [drawCombinations_succ]
    split_ifs
    · exact ih h
    · exact ih (List.mem_append_left _ h)
    · exact h

theorem exists_mem_generateRandomCombinations {baseline : P}
    (hacc : accepts (generate random).1 = true) (hne : (generate random).1 ≠ baseline) :
    ∃ c ∈ generateRandomCombinations generate accepts baseline 2 random,
      c.isBaseline = false ∧ c.values = (generate random).1 := by
  refine ⟨⟨1, (generate random).1, false⟩, ?_, rfl, rfl⟩
  have hroom : [(⟨0, baseline, true⟩ : Combination P)].length < 2 := Nat.lt_succ_self 1
  rw [generateRandomCombinations, show 2 * 10 = 19 + 1 from rfl, drawCombinations_succ, if_pos hroom]
  refine mem_drawCombinations ?_
  have hnew : ([⟨0, baseline, true⟩] : List (Combination P)).any
      (·.values = (generate random).1) = false := by
    simpa using fun h => hne h.symm
  rw [if_neg (by simp [hnew, hacc])]
  exact List.mem_append_right _ (List.mem_singleton_self _)

end Loop

theorem generateRandomCombinations_admissible_iff (less : ParamValue → ParamValue → Bool)
    (space : ParameterSpace) (reachabilityFilter : Option (ParamValues → Bool)) :
    (∀ (numCombinations : ℕ) (random : RandomFn),
      ∀ c ∈ generateRandomCombinations (generateRandomCombination space)
        (space.accepts less reachabilityFilter) (getBaselineValues space) numCombinations random,
        c.isBaseline = true ∨ Admissible less space reachabilityFilter c.values) ↔
    ∀ values, RandomCombination space values → values ≠ getBaselineValues space →
      space.accepts less reachabilityFilter values = true → NumericAdmissible space values := by
  constructor
  · rintro h _ ⟨choice, hch, rfl⟩ hne hacc
    obtain ⟨random, hrnd⟩ := sampleRandom_complete OrdMap.empty hch default
    have hvals : (generateRandomCombination space random).1 =
        record OrdMap.empty space.parameters choice := congrArg Prod.fst hrnd
    rw [← hvals] at hne hacc ⊢
    obtain ⟨c, hc, hflag, heq⟩ := exists_mem_generateRandomCombinations hacc hne
    rcases h 2 random c hc with hbaseline | hadmissible
    · rw [hflag] at hbaseline
      cases hbaseline
    · exact heq ▸ hadmissible.numeric
  · intro h numCombinations random c hc
    rcases drawCombinations_sound hc with hmem | ⟨hacc, ⟨random', hgen⟩, hnew⟩
    · exact .inl (congrArg Combination.isBaseline (List.mem_singleton.mp hmem))
    · obtain ⟨choice, hch, heq⟩ := sampleRandom_sound OrdMap.empty space.parameters random'
      refine .inr ⟨h c.values ⟨choice, hch, hgen.symm.trans heq⟩ ?_ hacc, hacc⟩
      exact (hnew _ (List.mem_singleton_self _)).symm

end Chansey.Optimization
