import Mathlib.Data.List.Sort
import Chansey.Optimization.RandomSearch

/-!
# Adaptive search

A batch is drawn in part at random and in part near the best results so far, with normal noise, and
snapped to the grid. A candidate that was seen, breaks a constraint or cannot be reached is drawn
again, for a bounded number of attempts. The job of a run passes no reachability filter.

* `NumericParameter.MaxFits`: snapping keeps to the steps. **`samples_admissible_iff`**: when all
  samples are admissible, whatever is drawn.
  **`attempts_le`**: the attempts of a batch are bounded.
-/

namespace Chansey.Optimization

/-! ## Near a result -/

/-- `Number(value)`, if it is finite; `toNumber` converts a string. -/
def finiteNumber (toNumber : String → Option ℚ) : ParamValue → Option ℚ
  | .num q => some q
  | .nan => none
  | .str s => toNumber s
  | .bool b => some (if b then 1 else 0)

namespace NumericParameter

variable (param : NumericParameter)

def snapped (min max clamped : ℚ) : ParamValue :=
  if param.stepSize = 0 then .nan
  else
    let snapped := Js.round ((clamped - min) / param.stepSize) * param.stepSize + min
    param.quantized (Max.max min (Min.min max snapped))

/-- A value near a number. A missing bound is that number. -/
def neighborhoodValue (center normal : ℚ) : ParamValue :=
  let min := param.min.getD center
  let max := param.max.getD center
  let sigma := (max - min) * (1 / 10)
  let noisy := center + normal * sigma
  param.snapped min max (Max.max min (Min.min max noisy))

end NumericParameter

section Values

variable (toNumber : String → Option ℚ)

def neighborhoodValue (param : ParameterDefinition) (centerValue : Option ParamValue)
    (random : RandomFn) : Option ParamValue × RandomFn :=
  match centerValue with
  | none => (randomValue param random.next, random.rest)
  | some centerValue =>
    match param.domain with
    | .categorical _ _ =>
      if random.next < 7 / 10 then (some centerValue, random.rest)
      else (randomValue param random.rest.next, random.rest.rest)
    | .numeric numeric =>
      match finiteNumber toNumber centerValue with
      | none => (randomValue param random.next, random.rest)
      | some center =>
        if numeric.max.getD center - numeric.min.getD center ≤ 0 then
          (some (.num center), random)
        else (some (numeric.neighborhoodValue center (random.normals 0)), random.rest)

def sampleNeighborhood (center : ParamValues) (result : ParamValues) :
    List ParameterDefinition → RandomFn → ParamValues × RandomFn
  | [], random => (result, random)
  | param :: parameters, random =>
    let (value, random) := neighborhoodValue toNumber param (center.get? param.name) random
    sampleNeighborhood center (setValue result param.name value) parameters random

/-- A value that can come up near another. -/
def ParameterDefinition.NeighborValue (param : ParameterDefinition)
    (centerValue value : Option ParamValue) : Prop :=
  match centerValue with
  | none => param.RandomValue value
  | some centerValue =>
    match param.domain with
    | .categorical _ _ => value = some centerValue ∨ param.RandomValue value
    | .numeric numeric =>
      match finiteNumber toNumber centerValue with
      | none => param.RandomValue value
      | some center =>
        if numeric.max.getD center - numeric.min.getD center ≤ 0 then value = some (.num center)
        else ∃ x, numeric.min.getD center ≤ x ∧ x ≤ numeric.max.getD center ∧
          value = some (numeric.snapped (numeric.min.getD center) (numeric.max.getD center) x)

theorem neighborhoodValue_sound (param : ParameterDefinition) (centerValue : Option ParamValue)
    (random : RandomFn) :
    param.NeighborValue toNumber centerValue
      (neighborhoodValue toNumber param centerValue random).1 := by
  have hrnd : ∀ random : RandomFn, param.RandomValue (randomValue param random.next) :=
    fun random => randomValue_iff.mpr ⟨_, random.nonneg 0, random.lt_one 0, rfl⟩
  unfold ParameterDefinition.NeighborValue neighborhoodValue
  cases centerValue with
  | none => exact hrnd random
  | some centerValue =>
    dsimp only
    cases param.domain with
    | categorical =>
      dsimp only
      split_ifs
      · exact .inl rfl
      · exact .inr (hrnd random.rest)
    | numeric =>
      dsimp only
      cases finiteNumber toNumber centerValue with
      | none => exact hrnd random
      | some =>
        dsimp only
        split_ifs with hrange
        · rfl
        · exact ⟨_, le_max_left _ _, max_le (by linarith) (min_le_left _ _), rfl⟩

theorem sampleNeighborhood_sound (center result : ParamValues)
    (parameters : List ParameterDefinition) (random : RandomFn) :
    ∃ choice, List.Forall₂ (fun param value =>
        param.NeighborValue toNumber (center.get? param.name) value) parameters choice ∧
      (sampleNeighborhood toNumber center result parameters random).1 =
        record result parameters choice := by
  induction parameters generalizing result random with
  | nil => exact ⟨[], List.Forall₂.nil, rfl⟩
  | cons param parameters ih =>
    obtain ⟨choice, hch, heq⟩ := ih (setValue result param.name
      (neighborhoodValue toNumber param (center.get? param.name) random).1)
      (neighborhoodValue toNumber param (center.get? param.name) random).2
    refine ⟨_ :: choice, List.Forall₂.cons ?_ hch, heq⟩
    exact neighborhoodValue_sound toNumber param _ random

def NeighborCombination (space : ParameterSpace) (center values : ParamValues) : Prop :=
  ∃ choice, List.Forall₂ (fun param value =>
      param.NeighborValue toNumber (center.get? param.name) value) space.parameters choice ∧
    values = record OrdMap.empty space.parameters choice

end Values

/-! ## Snapped steps -/

namespace NumericParameter

variable (param : NumericParameter)

/-- **Snapping keeps to the steps**: the maximum is less than half a step beyond the last one, and is
the default if it is the minimum. -/
structure MaxFits : Prop where
  step_pos : 0 < param.stepSize
  close : Int.fract ((param.upper - param.lower) / param.stepSize) < 1 / 2
  single : ∀ bound, param.min = some bound → param.max = some bound → param.default = bound

variable {param} {center : ℚ}

theorem DrawsAdmissible.lower_le_upper (h : param.DrawsAdmissible) : param.lower ≤ param.upper := by
  obtain ⟨q, -, hle, hge, -⟩ := h.2 0 (stepIndex_zero _)
  exact hle.trans hge

theorem admissible_lower (h : param.lower ≤ param.upper) : param.Admissible param.lower :=
  ⟨le_rfl, h, 0, by simp⟩

theorem stepIndex_of_le (hstep : 0 < param.stepSize) {j : ℤ} (hj : 0 ≤ j)
    (hle : param.lower + j * param.stepSize ≤ param.upper) : StepIndex param.range j := by
  have hfloor : j ≤ ⌊(param.upper - param.lower) / param.stepSize⌋ := by
    rw [Int.le_floor, le_div_iff₀ hstep]
    linarith
  rw [StepIndex, range, if_pos (by omega)]
  omega

theorem MaxFits.first_step (hfits : param.MaxFits)
    (hcenter : center = param.default ∨ param.Admissible center) :
    ∃ first : ℤ, 0 ≤ first ∧ param.min.getD center = param.lower + first * param.stepSize := by
  cases hbound : param.min with
  | some bound => exact ⟨0, le_rfl, by simp [lower, hbound]⟩
  | none =>
    rcases hcenter with hdefault | ⟨hle, -, first, hfirst⟩
    · exact ⟨0, le_rfl, by simp [hdefault, lower, hbound]⟩
    · refine ⟨first, ?_, hfirst⟩
      rw [hfirst] at hle
      have hsteps : (0 : ℚ) ≤ first := nonneg_of_mul_nonneg_left (by linarith) hfits.step_pos
      exact_mod_cast hsteps

/-- A step that is less than half a step beyond the maximum is not beyond it. -/
theorem MaxFits.last_step (hfits : param.MaxFits)
    (hcenter : center = param.default ∨ param.Admissible center) {first : ℤ}
    (hlower : param.min.getD center = param.lower + first * param.stepSize) :
    param.max.getD center ≤ param.upper ∧ ∀ k : ℤ,
      (k : ℚ) ≤ (param.max.getD center - param.min.getD center) / param.stepSize + 1 / 2 →
        param.min.getD center + k * param.stepSize ≤ param.max.getD center := by
  have hstep := hfits.step_pos
  set min := param.min.getD center
  set max := param.max.getD center with hup
  have htop : max = param.upper ∨ max ≤ param.upper ∧ ∃ last : ℤ,
      max = param.lower + last * param.stepSize := by
    cases hbound : param.max with
    | some bound => exact .inl (by simp [hup, upper, hbound])
    | none =>
      have heq : max = center := by simp [hup, hbound]
      rcases hcenter with hdefault | ⟨-, hle, last, hlast⟩
      · exact .inl (by simp [heq, hdefault, upper, hbound])
      · exact .inr ⟨heq.trans_le hle, last, heq.trans hlast⟩
  have hfract : Int.fract ((max - min) / param.stepSize) < 1 / 2 := by
    rcases htop with heq | ⟨-, last, heq⟩
    · have hshift : (max - min) / param.stepSize =
          (param.upper - param.lower) / param.stepSize - first := by
        rw [heq, hlower]
        field_simp
        ring
      rw [hshift, Int.fract_sub_intCast]
      exact hfits.close
    · have hsteps : (max - min) / param.stepSize = (last - first : ℤ) := by
        rw [heq, hlower]
        push_cast
        field_simp
        ring
      rw [hsteps, Int.fract_intCast]
      norm_num
  refine ⟨htop.elim le_of_eq And.left, fun k hk => ?_⟩
  have hfloor := Int.floor_add_fract ((max - min) / param.stepSize)
  have hlt : (k : ℚ) < ⌊(max - min) / param.stepSize⌋ + 1 := by linarith
  have hle : k ≤ ⌊(max - min) / param.stepSize⌋ := Int.lt_add_one_iff.mp (by exact_mod_cast hlt)
  have hquot := (le_div_iff₀ hstep).mp (Int.le_floor.mp hle)
  linarith

theorem snapped_admissible (h : param.DrawsAdmissible) (hfits : param.MaxFits)
    (hcenter : center = param.default ∨ param.Admissible center) {x : ℚ}
    (hmin : param.min.getD center ≤ x) (hmax : x ≤ param.max.getD center) :
    ∃ q, param.snapped (param.min.getD center) (param.max.getD center) x = .num q ∧
      param.Admissible q := by
  have hstep := hfits.step_pos
  obtain ⟨first, hfirst, hlower⟩ := hfits.first_step hcenter
  obtain ⟨hupper, hclose⟩ := hfits.last_step hcenter hlower
  set min := param.min.getD center
  set max := param.max.getD center
  set k := Js.round ((x - min) / param.stepSize) with hk
  have hk0 : 0 ≤ k := by
    rw [hk, Js.round, Int.floor_nonneg]
    have := div_nonneg (by linarith : 0 ≤ x - min) hstep.le
    linarith
  have hkle : (k : ℚ) ≤ (max - min) / param.stepSize + 1 / 2 := by
    have hfloor := Int.floor_le ((x - min) / param.stepSize + 1 / 2)
    have hdiv := div_le_div_of_nonneg_right (by linarith : x - min ≤ max - min) hstep.le
    rw [hk, Js.round]
    linarith
  have hin := hclose k hkle
  have hge : min ≤ min + k * param.stepSize := by
    have : (0 : ℚ) ≤ k := Int.cast_nonneg hk0
    have := mul_nonneg this hstep.le
    linarith
  have hsum : min + k * param.stepSize = param.lower + (first + k : ℤ) * param.stepSize := by
    rw [hlower]
    push_cast
    ring
  obtain ⟨q, hq, hadm⟩ := h.2 (first + k)
    (stepIndex_of_le hstep (by omega) (hsum ▸ hin.trans hupper))
  refine ⟨q, ?_, hadm⟩
  rw [snapped, if_neg hstep.ne', ← hk, add_comm (_ * _) min]
  dsimp only
  rw [min_eq_right hin, max_eq_right hge, hsum, hq]

theorem center_admissible (h : param.DrawsAdmissible) (hfits : param.MaxFits)
    (hcenter : center = param.default ∨ param.Admissible center)
    (hrange : param.max.getD center - param.min.getD center ≤ 0) : param.Admissible center := by
  rcases hcenter with rfl | hadm
  · have hle := h.lower_le_upper
    have heq : param.default = param.lower := by
      have hsingle := hfits.single
      unfold lower upper at hle
      unfold lower
      cases hmin : param.min with
      | none => rfl
      | some bound =>
        rw [hmin, Option.getD_some] at hle hrange
        cases hmax : param.max with
        | none =>
          rw [hmax, Option.getD_none] at hle hrange
          show param.default = bound
          linarith
        | some top =>
          rw [hmax, Option.getD_some] at hle hrange
          exact hsingle bound hmin (hmax.trans (congrArg some (le_antisymm (by linarith) hle)))
    exact heq ▸ admissible_lower hle
  · exact hadm

end NumericParameter

theorem neighborValue_admissible {toNumber : String → Option ℚ} {param : ParameterDefinition}
    {numeric : NumericParameter} (hnumeric : param.domain = .numeric numeric)
    (hstay : numeric.StepsStay) (hfits : numeric.MaxFits) {center : ℚ}
    (hcenter : center = numeric.default ∨ numeric.Admissible center) {value : Option ParamValue}
    (h : param.NeighborValue toNumber (some (.num center)) value) :
    ∃ q, value = some (.num q) ∧ numeric.Admissible q := by
  have hdraws := NumericParameter.drawsAdmissible_iff.mpr hstay
  unfold ParameterDefinition.NeighborValue at h
  rw [hnumeric] at h
  dsimp only [finiteNumber] at h
  split_ifs at h with hrange
  · exact ⟨center, h, NumericParameter.center_admissible hdraws hfits hcenter hrange⟩
  · obtain ⟨x, hmin, hmax, rfl⟩ := h
    obtain ⟨q, hq, hadm⟩ := NumericParameter.snapped_admissible hdraws hfits hcenter hmin hmax
    exact ⟨q, congrArg some hq, hadm⟩

/-! ## A batch -/

structure BatchState where
  out : List (Combination ParamValues)
  seen : List ParamValues
  attempts : ℕ
  random : RandomFn

/-- Until there are `count` new candidates, for a number of attempts. -/
def sampleLoop (sample : ℕ → RandomFn → ParamValues × RandomFn) (accepts : ParamValues → Bool)
    (startIndex count : ℕ) : ℕ → ℕ → BatchState → BatchState
  | 0, _, state => state
  | attemptsLeft + 1, added, state =>
    if added < count then
      let candidate := (sample added state.random).1
      let attempts := state.attempts + 1
      let random := (sample added state.random).2
      if candidate ∈ state.seen ∨ ¬ accepts candidate then
        sampleLoop sample accepts startIndex count attemptsLeft added
          ⟨state.out, state.seen, attempts, random⟩
      else
        sampleLoop sample accepts startIndex count attemptsLeft (added + 1)
          ⟨state.out ++ [⟨startIndex + state.out.length, candidate, false⟩],
            candidate :: state.seen, attempts, random⟩
    else state

def pickTopK (history : List (SearchHistoryRecord ParamValues)) (k : ℕ) :
    List (SearchHistoryRecord ParamValues) :=
  (history.insertionSort fun a b => b.avgTestScore ≤ a.avgTestScore).take k

def centerAt (validCenters : List (SearchHistoryRecord ParamValues)) (added : ℕ) : ParamValues :=
  match validCenters[added % validCenters.length]? with
  | some center => center.values
  | none => OrdMap.empty

def neighborhoodCount (validCenters : List (SearchHistoryRecord ParamValues))
    (targetCount : ℕ) : ℕ :=
  if validCenters = [] then 0 else (Js.round ((targetCount : ℚ) * (3 / 10))).toNat

section Batch

variable (less : ParamValue → ParamValue → Bool) (toNumber : String → Option ℚ)
  (space : ParameterSpace)

def generateNextBatch (history : List (SearchHistoryRecord ParamValues))
    (batchSize remaining startIndex : ℕ) (reachabilityFilter : Option (ParamValues → Bool))
    (random : RandomFn) : BatchState :=
  let targetCount := min batchSize remaining
  let validCenters := pickTopK history 3
  let neighborhoodCount := neighborhoodCount validCenters targetCount
  let randomCount := targetCount - neighborhoodCount
  let maxAttempts := targetCount * 20
  let accepts := space.accepts less reachabilityFilter
  let state := sampleLoop (fun _ => sampleRandom OrdMap.empty space.parameters) accepts startIndex
    randomCount maxAttempts 0 ⟨[], history.map (·.values), 0, random⟩
  sampleLoop (fun added => sampleNeighborhood toNumber (centerAt validCenters added) OrdMap.empty
    space.parameters) accepts startIndex neighborhoodCount (maxAttempts * 2 - state.attempts) 0 state

/-- The batch that the job of a run asks for, which passes no reachability filter. -/
def adaptiveBatch (history : List (SearchHistoryRecord ParamValues))
    (batchSize remaining startIndex : ℕ) (random : RandomFn) : BatchState :=
  generateNextBatch less toNumber space history batchSize remaining startIndex none random

end Batch

section Loop

variable {sample : ℕ → RandomFn → ParamValues × RandomFn} {accepts : ParamValues → Bool}
  {startIndex count : ℕ}

theorem sampleLoop_cases (attemptsLeft added : ℕ) (state : BatchState) :
    (¬ added < count ∧
      sampleLoop sample accepts startIndex count (attemptsLeft + 1) added state = state) ∨
    (added < count ∧
      ((sample added state.random).1 ∈ state.seen ∨ ¬ accepts (sample added state.random).1) ∧
      sampleLoop sample accepts startIndex count (attemptsLeft + 1) added state =
        sampleLoop sample accepts startIndex count attemptsLeft added
          ⟨state.out, state.seen, state.attempts + 1, (sample added state.random).2⟩) ∨
    (added < count ∧ (sample added state.random).1 ∉ state.seen ∧
      accepts (sample added state.random).1 = true ∧
      sampleLoop sample accepts startIndex count (attemptsLeft + 1) added state =
        sampleLoop sample accepts startIndex count attemptsLeft (added + 1)
          ⟨state.out ++ [⟨startIndex + state.out.length, (sample added state.random).1, false⟩],
            (sample added state.random).1 :: state.seen, state.attempts + 1,
            (sample added state.random).2⟩) := by
  by_cases hroom : added < count
  · by_cases hrej : (sample added state.random).1 ∈ state.seen ∨
        ¬ accepts (sample added state.random).1
    · exact .inr (Or.inl ⟨hroom, hrej, (if_pos hroom).trans (if_pos hrej)⟩)
    · have hacc := not_or.mp hrej
      exact .inr (Or.inr ⟨hroom, hacc.1, not_not.mp hacc.2, (if_pos hroom).trans (if_neg hrej)⟩)
  · exact .inl ⟨hroom, if_neg hroom⟩

variable {attemptsLeft added : ℕ} {state : BatchState} {c : Combination ParamValues}

theorem sampleLoop_sound
    (h : c ∈ (sampleLoop sample accepts startIndex count attemptsLeft added state).out) :
    c ∈ state.out ∨ accepts c.values = true ∧ c.values ∉ state.seen ∧
      ∃ i random, i < count ∧ (sample i random).1 = c.values := by
  induction attemptsLeft generalizing added state with
  | zero => exact .inl h
  | succ attemptsLeft ih =>
    obtain ⟨-, heq⟩ | ⟨-, -, heq⟩ | ⟨hroom, hnew, haccept, heq⟩ :=
      sampleLoop_cases attemptsLeft added state
    · rw [heq] at h
      exact .inl h
    · rw [heq] at h
      have hlater := ih h
      exact hlater
    · rw [heq] at h
      rcases ih h with hmem | ⟨hacc, hseen, hsample⟩
      · rcases List.mem_append.mp hmem with hmem | hmem
        · exact .inl hmem
        · obtain rfl := List.mem_singleton.mp hmem
          exact .inr ⟨haccept, hnew, added, state.random, hroom, rfl⟩
      · exact .inr ⟨hacc, fun hmem => hseen (List.mem_cons_of_mem _ hmem), hsample⟩

theorem sampleLoop_grows (attemptsLeft added : ℕ) (state : BatchState) :
    state.out ⊆ (sampleLoop sample accepts startIndex count attemptsLeft added state).out ∧
      state.seen ⊆ (sampleLoop sample accepts startIndex count attemptsLeft added state).seen := by
  induction attemptsLeft generalizing added state with
  | zero => exact ⟨List.Subset.refl _, List.Subset.refl _⟩
  | succ attemptsLeft ih =>
    obtain ⟨-, heq⟩ | ⟨-, -, heq⟩ | ⟨-, -, -, heq⟩ := sampleLoop_cases attemptsLeft added state
    · rw [heq]
      exact ⟨List.Subset.refl _, List.Subset.refl _⟩
    · rw [heq]
      exact ih added ⟨state.out, state.seen, state.attempts + 1, (sample added state.random).2⟩
    · rw [heq]
      exact ⟨fun _ hc => (ih _ _).1 (List.mem_append_left _ hc),
        fun _ hvals => (ih _ _).2 (List.mem_cons_of_mem _ hvals)⟩

theorem sampleLoop_attempts_le (attemptsLeft added : ℕ) (state : BatchState) :
    (sampleLoop sample accepts startIndex count attemptsLeft added state).attempts ≤
      state.attempts + attemptsLeft := by
  induction attemptsLeft generalizing added state with
  | zero => exact le_refl _
  | succ attemptsLeft ih =>
    obtain ⟨-, heq⟩ | ⟨-, -, heq⟩ | ⟨-, -, -, heq⟩ := sampleLoop_cases attemptsLeft added state
    · rw [heq]
      exact Nat.le_add_right _ _
    all_goals
      rw [heq]
      exact (ih _ _).trans (le_of_eq (Nat.add_right_comm _ _ _))

theorem exists_mem_sampleLoop {attemptsLeft added : ℕ} {state : BatchState}
    (hroom : added < count) (hnew : (sample added state.random).1 ∉ state.seen)
    (haccept : accepts (sample added state.random).1 = true) :
    ∃ c ∈ (sampleLoop sample accepts startIndex count (attemptsLeft + 1) added state).out,
      c.values = (sample added state.random).1 := by
  obtain ⟨hfull, -⟩ | ⟨-, hrej, -⟩ | ⟨-, -, -, heq⟩ := sampleLoop_cases attemptsLeft added state
  · exact absurd hroom hfull
  · rcases hrej with hseen | hacc
    · exact absurd hseen hnew
    · exact absurd haccept hacc
  · rw [heq]
    exact ⟨_, (sampleLoop_grows _ _ _).1 (List.mem_append_right _ (List.mem_singleton_self _)), rfl⟩

end Loop

/-! ## Admissible batches -/

section Admissible

variable (less : ParamValue → ParamValue → Bool) (toNumber : String → Option ℚ)
  (space : ParameterSpace) (reachabilityFilter : Option (ParamValues → Bool))

/-- What an earlier batch can have tried. -/
def Tried (values : ParamValues) : Prop :=
  values = getBaselineValues space ∨ Admissible less space reachabilityFilter values

/-- Results of the baseline and of admissible combinations. -/
structure HistoryOf (history : List (SearchHistoryRecord ParamValues)) : Prop where
  baseline : getBaselineValues space ∈ history.map (·.values)
  tried : ∀ values ∈ history.map (·.values), Tried less space reachabilityFilter values

def RandomSearchAdmissible : Prop :=
  ∀ (numCombinations : ℕ) (random : RandomFn),
    ∀ c ∈ generateRandomCombinations (generateRandomCombination space)
      (space.accepts less reachabilityFilter) (getBaselineValues space) numCombinations random,
      c.isBaseline = true ∨ Admissible less space reachabilityFilter c.values

/-- The batches of adaptive search are admissible, and made in a bounded number of attempts. -/
def AdaptiveSearchAdmissible : Prop :=
  ∀ history, HistoryOf less space reachabilityFilter history →
    ∀ (batchSize remaining startIndex : ℕ) (random : RandomFn),
      (∀ c ∈ (adaptiveBatch less toNumber space history batchSize remaining startIndex random).out,
        Admissible less space reachabilityFilter c.values) ∧
      (adaptiveBatch less toNumber space history batchSize remaining startIndex random).attempts ≤
        40 * min batchSize remaining

/-- What meets the constraints, of the values that can be drawn or come up near a result that was
tried, is admissible. -/
structure CandidatesAdmissible : Prop where
  drawn : ∀ values, RandomCombination space values → values ≠ getBaselineValues space →
    space.accepts less none values = true → Admissible less space reachabilityFilter values
  near : ∀ center, Tried less space reachabilityFilter center →
    ∀ values, NeighborCombination toNumber space center values →
      values ≠ getBaselineValues space → values ≠ center →
        space.accepts less none values = true → Admissible less space reachabilityFilter values

variable {less toNumber space reachabilityFilter}

variable {centers : List (SearchHistoryRecord ParamValues)} {values : ParamValues}

theorem centerAt_mem (h : centers ≠ []) (added : ℕ) :
    centerAt centers added ∈ centers.map (·.values) := by
  have hlt := Nat.mod_lt added (List.length_pos_iff.mpr h)
  rw [centerAt, List.getElem?_eq_getElem hlt]
  exact List.mem_map_of_mem (List.getElem_mem hlt)

theorem mem_pickTopK {history : List (SearchHistoryRecord ParamValues)} {k : ℕ}
    (h : values ∈ (pickTopK history k).map (·.values)) : values ∈ history.map (·.values) := by
  obtain ⟨_, hres, rfl⟩ := List.mem_map.mp h
  have hmem := List.mem_of_mem_take hres
  exact List.mem_map_of_mem ((List.perm_insertionSort _ _).subset hmem)

theorem attempts_le (history : List (SearchHistoryRecord ParamValues))
    (batchSize remaining startIndex : ℕ) (random : RandomFn) :
    (adaptiveBatch less toNumber space history batchSize remaining startIndex random).attempts ≤
      40 * min batchSize remaining := by
  refine (sampleLoop_attempts_le _ _ _).trans ?_
  have hfirst := @sampleLoop_attempts_le (fun _ => sampleRandom OrdMap.empty space.parameters)
    (space.accepts less none) startIndex
    (min batchSize remaining - neighborhoodCount (pickTopK history 3) (min batchSize remaining))
    (min batchSize remaining * 20) 0 ⟨[], history.map (·.values), 0, random⟩
  dsimp only at hfirst ⊢
  omega

theorem adaptiveSearchAdmissible_of
    (h : CandidatesAdmissible less toNumber space reachabilityFilter) :
    AdaptiveSearchAdmissible less toNumber space reachabilityFilter := by
  intro history hhist batchSize remaining startIndex random
  refine ⟨fun c hc => ?_, attempts_le history batchSize remaining startIndex random⟩
  have hnew : ∀ {seen : List ParamValues}, (∀ values ∈ history.map (·.values), values ∈ seen) →
      c.values ∉ seen → ∀ values ∈ history.map (·.values), c.values ≠ values := by
    rintro seen hsub hnot values hvals rfl
    exact hnot (hsub _ hvals)
  rcases sampleLoop_sound hc with hmem | ⟨hacc, hnot, i, random', hi, hsample⟩
  · rcases sampleLoop_sound hmem with hmem | ⟨hacc, hnot, i, random', -, hsample⟩
    · cases hmem
    · obtain ⟨choice, hch, heq⟩ := sampleRandom_sound OrdMap.empty space.parameters random'
      refine h.drawn c.values ⟨choice, hch, hsample.symm.trans heq⟩ ?_ hacc
      exact hnew (fun values hvals => hvals) hnot _ hhist.baseline
  · have hcenters : pickTopK history 3 ≠ [] := fun hnone => by
      rw [neighborhoodCount, if_pos hnone] at hi
      exact absurd hi (Nat.not_lt_zero i)
    have hcenter := mem_pickTopK (centerAt_mem hcenters i)
    have hother := hnew (fun values hvals => (sampleLoop_grows _ _ _).2 hvals) hnot
    obtain ⟨choice, hch, heq⟩ := sampleNeighborhood_sound toNumber
      (centerAt (pickTopK history 3) i) OrdMap.empty space.parameters random'
    exact h.near _ (hhist.tried _ hcenter) c.values ⟨choice, hch, hsample.symm.trans heq⟩
      (hother _ hhist.baseline) (hother _ hcenter) hacc

theorem neighborhoodCount_one (centers : List (SearchHistoryRecord ParamValues)) :
    neighborhoodCount centers 1 = 0 := by
  unfold neighborhoodCount
  split_ifs
  · rfl
  · decide +kernel

section

variable (h : AdaptiveSearchAdmissible less toNumber space reachabilityFilter)

include h

theorem drawn_admissible (hrnd : RandomCombination space values)
    (hne : values ≠ getBaselineValues space) (hacc : space.accepts less none values = true) :
    Admissible less space reachabilityFilter values := by
  obtain ⟨choice, hch, rfl⟩ := hrnd
  obtain ⟨random, hsample⟩ := sampleRandom_complete OrdMap.empty hch default
  have hvals : (sampleRandom OrdMap.empty space.parameters random).1 =
      record OrdMap.empty space.parameters choice := congrArg Prod.fst hsample
  rw [← hvals] at hne hacc ⊢
  have hhist : HistoryOf less space reachabilityFilter
      [⟨0, getBaselineValues space, 0, true⟩] :=
    ⟨List.mem_singleton_self _, fun values hmem => Or.inl (List.mem_singleton.mp hmem)⟩
  have hbatch := (h _ hhist 1 1 1 random).1
  simp only [adaptiveBatch, generateNextBatch, min_self, neighborhoodCount_one] at hbatch
  obtain ⟨c, hc, heq⟩ := @exists_mem_sampleLoop
    (fun _ => sampleRandom OrdMap.empty space.parameters) (space.accepts less none) 1 1 19 0
    ⟨[], [getBaselineValues space], 0, random⟩ Nat.one_pos
    (fun hmem => hne (List.mem_singleton.mp hmem)) hacc
  rw [← heq]
  exact hbatch c ((sampleLoop_grows _ _ _).1 hc)

end

/-- A filter lets pass whatever has its numbers on the grid and meets the constraints. -/
def PassesAll (less : ParamValue → ParamValue → Bool) (space : ParameterSpace)
    (reachabilityFilter : Option (ParamValues → Bool)) : Prop :=
  ∀ values, NumericAdmissible space values → space.accepts less none values = true →
    values ≠ getBaselineValues space → space.accepts less reachabilityFilter values = true

theorem candidatesAdmissible_of
    (hparams : ∀ param ∈ space.parameters, ∀ numeric, param.domain = .numeric numeric →
      numeric.StepsStay ∧ numeric.MaxFits) (hfilter : PassesAll less space reachabilityFilter) :
    CandidatesAdmissible less toNumber space reachabilityFilter where
  drawn values hrnd hne hacc := by
    have hnumeric := (drawn_numericAdmissible_iff space).mpr
      (fun param hparam numeric hdomain => .inl (hparams param hparam numeric hdomain).1) _ hrnd hne
    exact ⟨hnumeric, hfilter _ hnumeric hacc hne⟩
  near center htried values hnear hne _ hacc := by
    obtain ⟨choice, hch, rfl⟩ := hnear
    have hnumeric : NumericAdmissible space (record OrdMap.empty space.parameters choice) := by
      intro param hparam numeric hdomain
      obtain ⟨hstay, hfits⟩ := hparams param hparam numeric hdomain
      have hvalue := get?_record hch hparam
      have hcenter : ∃ q, center.get? param.name = some (.num q) ∧
          (q = numeric.default ∨ numeric.Admissible q) := by
        rcases htried with rfl | hadm
        · refine ⟨numeric.default, (get?_getBaselineValues hparam).trans ?_, .inl rfl⟩
          rw [ParameterDefinition.default, hdomain]
        · obtain ⟨q, hq, hadm⟩ := hadm.numeric param hparam numeric hdomain
          exact ⟨q, hq, .inr hadm⟩
      obtain ⟨q, hq, hcenter⟩ := hcenter
      rw [hq] at hvalue
      exact neighborValue_admissible hdomain hstay hfits hcenter hvalue
    exact ⟨hnumeric, hfilter _ hnumeric hacc hne⟩

/-- **When the samples are admissible.** Those of random search are, under all constraints and
filters, exactly if rounding keeps the steps of each parameter. Those of adaptive search are if
snapping keeps to the steps as well and the filter, which is not passed, would reject nothing; and
only if rounding keeps the steps and the filter rejects nothing that can be drawn. -/
theorem samples_admissible_iff (less : ParamValue → ParamValue → Bool)
    (toNumber : String → Option ℚ) (space : ParameterSpace) :
    ((∀ constraints reachabilityFilter,
      RandomSearchAdmissible less { space with constraints := constraints } reachabilityFilter) ↔
      ∀ param ∈ space.parameters, ∀ numeric, param.domain = .numeric numeric →
        numeric.StepsStay ∨ OnlyBaseline space param numeric) ∧
    ∀ reachabilityFilter,
      ((∀ param ∈ space.parameters, ∀ numeric, param.domain = .numeric numeric →
          numeric.StepsStay ∧ numeric.MaxFits) → PassesAll less space reachabilityFilter →
        AdaptiveSearchAdmissible less toNumber space reachabilityFilter) ∧
      ((∀ constraints, AdaptiveSearchAdmissible less toNumber
          { space with constraints := constraints } reachabilityFilter) →
        (∀ param ∈ space.parameters, ∀ numeric, param.domain = .numeric numeric →
          numeric.StepsStay ∨ OnlyBaseline space param numeric) ∧
        ∀ values, RandomCombination space values → values ≠ getBaselineValues space →
          reachabilityFilter.all fun reachable => reachable values) := by
  refine ⟨⟨fun h => ?_, fun h constraints reachabilityFilter => ?_⟩, fun reachabilityFilter =>
    ⟨fun hparams hfilter => adaptiveSearchAdmissible_of (candidatesAdmissible_of hparams hfilter),
      fun h => ?_⟩⟩
  · refine (drawn_numericAdmissible_iff space).mp fun values hrnd hne => ?_
    exact (generateRandomCombinations_admissible_iff less { space with constraints := [] }
      none).mp (h [] none) values hrnd hne rfl
  · refine (generateRandomCombinations_admissible_iff less
      { space with constraints := constraints } reachabilityFilter).mpr fun values hrnd hne _ => ?_
    exact (drawn_numericAdmissible_iff space).mpr h values hrnd hne
  · have hdrawn := fun values => @drawn_admissible less toNumber
      { space with constraints := [] } reachabilityFilter values (h [])
    refine ⟨(drawn_numericAdmissible_iff space).mp fun values hrnd hne =>
      (hdrawn values hrnd hne rfl).numeric, fun values hrnd hne => ?_⟩
    exact (hdrawn values hrnd hne rfl).accepted

end Admissible

def quarterSpace : ParameterSpace where
  parameters := [⟨"threshold", .numeric ⟨.float, some 0, some 1, some (1 / 4), 1 / 2⟩⟩]
  names_nodup := by decide
  defaults_ne_nan := by decide

theorem samples_admissible_quarters :
    (∀ constraints reachabilityFilter, RandomSearchAdmissible (fun _ _ => false)
      { quarterSpace with constraints := constraints } reachabilityFilter) ∧
    AdaptiveSearchAdmissible (fun _ _ => false) (fun _ => none) quarterSpace none := by
  have hparams : ∀ param ∈ quarterSpace.parameters, ∀ numeric, param.domain = .numeric numeric →
      numeric.StepsStay ∧ numeric.MaxFits := by
    rintro _ (_ | ⟨_, ⟨⟩⟩) _ ⟨⟩
    refine ⟨?_, by decide +kernel, by decide +kernel, fun bound hmin hmax => ?_⟩
    · rw [NumericParameter.StepsStay, if_pos (by decide +kernel)]
      exact ⟨by decide +kernel, ⟨0, by decide +kernel⟩, fun _ => ⟨2500, by decide +kernel⟩⟩
    · cases hmin
      exact absurd hmax (by decide +kernel)
  have hiff := samples_admissible_iff (fun _ _ => false) (fun _ => none) quarterSpace
  exact ⟨hiff.1.mpr fun param hparam numeric hnumeric =>
      .inl (hparams param hparam numeric hnumeric).1,
    (hiff.2 none).1 hparams fun _ _ hmeets _ => hmeets⟩

/-! ## A fractional minimum, and a filter that is not passed -/

def halfMinimumSpace : ParameterSpace where
  parameters := [⟨"threshold", .numeric ⟨.float, some (1 / 2), some (9 / 2), some 1, 1 / 2⟩⟩]
  names_nodup := by decide
  defaults_ne_nan := by decide

theorem inadmissible_samples :
    (generateRandomCombinations (generateRandomCombination halfMinimumSpace)
        (halfMinimumSpace.accepts (fun _ _ => false) none) (getBaselineValues halfMinimumSpace) 2
        default =
      [⟨0, OrdMap.ofEntries [("threshold", .num (1 / 2))], true⟩,
        ⟨1, OrdMap.ofEntries [("threshold", .num 1)], false⟩] ∧
      ¬ RandomSearchAdmissible (fun _ _ => false) halfMinimumSpace none) ∧
    ¬ AdaptiveSearchAdmissible (fun _ _ => false) (fun _ => none) halfMinimumSpace
      (some fun _ => false) := by
  have hlist : generateRandomCombinations (generateRandomCombination halfMinimumSpace)
      (halfMinimumSpace.accepts (fun _ _ => false) none) (getBaselineValues halfMinimumSpace) 2
      default =
      [⟨0, OrdMap.ofEntries [("threshold", .num (1 / 2))], true⟩,
        ⟨1, OrdMap.ofEntries [("threshold", .num 1)], false⟩] := by
    decide +kernel
  refine ⟨⟨hlist, fun h => ?_⟩, fun h => ?_⟩
  · have hsample := h 2 default
    rw [hlist] at hsample
    rcases hsample _ (List.mem_cons_of_mem _ (List.mem_singleton_self _)) with hflag | hadmissible
    · cases hflag
    · obtain ⟨q, hq, -, -, k, hk⟩ := hadmissible.numeric _ (List.mem_singleton_self _) _ rfl
      have hone : some (ParamValue.num 1) = some (.num q) := hq
      obtain rfl := ParamValue.num_injective (Option.some.inj hone)
      have hint : (2 * k : ℚ) = 1 := by
        rw [NumericParameter.lower, NumericParameter.stepSize] at hk
        simp only [Option.getD_some] at hk
        linarith
      have : 2 * k = 1 := by exact_mod_cast hint
      omega
  · have hrandom : RandomCombination halfMinimumSpace
        (generateRandomCombination halfMinimumSpace default).1 :=
      sampleRandom_sound OrdMap.empty halfMinimumSpace.parameters default
    have hadmissible := drawn_admissible h hrandom (by decide +kernel) (by decide +kernel)
    have haccepted := hadmissible.accepted
    rw [ParameterSpace.accepts, Option.all_some, Bool.and_false] at haccepted
    cases haccepted

end Chansey.Optimization
