import Chansey.Optimization.Combinations
import Chansey.Optimization.ParameterValues

/-!
# Grid search

The combinations of the values of all parameters, those that meet the constraints and can be
reached, the baseline first, and a random sample of them if there are too many.
-/

namespace Chansey.Optimization

open Choices

namespace GridSearchService

def helper (current : ParamValues) : List (String × List ParamValue) → List ParamValues
  | [] => [current]
  | (paramName, values) :: rest => values.flatMap fun value =>
    helper (current.set paramName value) rest

def cartesianProduct (parameterValues : List (String × List ParamValue)) : List ParamValues :=
  helper OrdMap.empty parameterValues

/-- `Math.floor(random() * (i + 1))` -/
def draw (i : ℕ) (random : RandomFn) : ℕ × RandomFn :=
  ((random.nextIndex (i + 1)).toNat, random.rest)

def parameterValues (turns : ℕ) (parameters : List ParameterDefinition) :
    Option (List (String × List ParamValue)) :=
  parameters.mapM fun param => (expandParameter turns param).map (param.name, ·)

def generateCombinations (less : ParamValue → ParamValue → Bool) (turns : ℕ)
    (space : ParameterSpace) (maxCombinations : Option ℕ)
    (reachabilityFilter : Option (ParamValues → Bool)) (random : RandomFn) :
    Option (List (Combination ParamValues)) :=
  (parameterValues turns space.parameters).map fun parameterValues =>
    let allCombinations := cartesianProduct parameterValues
    let validCombinations :=
      allCombinations.filter fun combo => validateConstraints less combo space.constraints
    let reachable :=
      match reachabilityFilter with
      | some reachabilityFilter => validCombinations.filter reachabilityFilter
      | none => validCombinations
    let baselineValues := getBaselineValues space
    Optimization.generateCombinations draw
      (fun values => isBaselineCombination values baselineValues) reachable baselineValues
      maxCombinations random

end GridSearchService

/-! ## The baseline first -/

section Selection

variable {P R : Type}

theorem swapAt_perm (array : List P) (i j : ℕ) : (swapAt array i j).Perm array := by
  unfold swapAt
  split
  · rename_i a b hi hj
    obtain ⟨hilt, rfl⟩ := List.getElem?_eq_some_iff.mp hi
    obtain ⟨hjlt, rfl⟩ := List.getElem?_eq_some_iff.mp hj
    exact List.set_set_perm hilt hjlt
  · exact List.Perm.refl _

theorem shuffleArray_perm (draw : ℕ → R → ℕ × R) (array : List P) (random : R) :
    (shuffleArray draw array random).1.Perm array := by
  have hfold : ∀ (is : List ℕ) (state : List P × R),
      (is.foldl (fun (state : List P × R) i =>
        (swapAt state.1 i (draw i state.2).1, (draw i state.2).2)) state).1.Perm state.1 := by
    intro is
    induction is with
    | nil => exact fun state => List.Perm.refl _
    | cons i is ih => exact fun state => (ih _).trans (swapAt_perm _ _ _)
  exact hfold _ _

theorem map_values_reindex (combinations : List (Combination P)) :
    (reindex combinations).map (·.values) = combinations.map (·.values) := by
  refine List.ext_getElem? fun i => ?_
  rw [reindex, List.getElem?_map, List.getElem?_map, List.getElem?_mapIdx, Option.map_map]
  rfl

variable [DecidableEq P]

variable {combinations : List (Combination P)} {baseline : P}

theorem map_values_eraseIdx (h : ∀ c ∈ combinations, c.isBaseline = true ↔ c.values = baseline) :
    (combinations.eraseIdx (combinations.findIdx (·.isBaseline))).map (·.values) =
      (combinations.map (·.values)).erase baseline := by
  induction combinations with
  | nil => rfl
  | cons c combinations ih =>
    have hc := h c List.mem_cons_self
    have hrest := ih fun other hother => h other (List.mem_cons_of_mem _ hother)
    rw [List.findIdx_cons, List.map_cons]
    cases hbaseline : c.isBaseline with
    | true =>
      rw [hc.mp hbaseline, List.erase_cons_head]
      rfl
    | false =>
      have hne : c.values ≠ baseline := fun heq => by
        rw [hc.mpr heq] at hbaseline
        cases hbaseline
      rw [List.erase_cons_tail (by simpa using hne), ← hrest]
      rfl

/-- The baseline, moved to the front or added there. -/
def baselineFirst (baseline : P) (combinations : List (Combination P)) : List (Combination P) :=
  match combinations.find? (·.isBaseline) with
  | none => ⟨0, baseline, true⟩ :: combinations
  | some b => b :: combinations.eraseIdx (combinations.findIdx (·.isBaseline))

omit [DecidableEq P] in
theorem baselineFirst_flags (h : ∀ c ∈ combinations, c.isBaseline = true ↔ c.values = baseline) :
    ∀ c ∈ baselineFirst baseline combinations, c.isBaseline = true ↔ c.values = baseline := by
  unfold baselineFirst
  split
  · exact List.forall_mem_cons.mpr ⟨iff_of_true rfl rfl, h⟩
  · rename_i b hsome
    refine List.forall_mem_cons.mpr ⟨h b (List.mem_of_find?_eq_some hsome), fun c hc => h c ?_⟩
    exact (List.eraseIdx_sublist _ _).subset hc

theorem map_values_baselineFirst (h : ∀ c ∈ combinations, c.isBaseline = true ↔ c.values = baseline)
    :
    (baselineFirst baseline combinations).map (·.values) =
      baseline :: (combinations.map (·.values)).erase baseline := by
  unfold baselineFirst
  split
  · rename_i hnone
    rw [List.map_cons, List.erase_of_not_mem]
    intro hmem
    obtain ⟨c, hc, hvals⟩ := List.mem_map.mp hmem
    exact List.find?_eq_none.mp hnone c hc ((h c hc).mpr hvals)
  · rename_i b hsome
    have hb := h b (List.mem_of_find?_eq_some hsome)
    rw [List.map_cons, map_values_eraseIdx h, hb.mp (List.find?_some hsome)]

omit [DecidableEq P] in
theorem reindex_flags (h : ∀ c ∈ combinations, c.isBaseline = true ↔ c.values = baseline) :
    ∀ c ∈ reindex combinations, c.isBaseline = true ↔ c.values = baseline := by
  intro c hc
  obtain ⟨i, hi, rfl⟩ := List.mem_mapIdx.mp hc
  have hflag := h _ (List.getElem_mem hi)
  exact hflag

structure Selects (values : List P) (baseline : P) (maxCombinations : Option ℕ)
    (combinations : List (Combination P)) : Prop where
  front : ∃ others, combinations.map (·.values) = baseline :: others ∧
    others.Subperm (values.erase baseline) ∧
    ((∀ m ∈ maxCombinations, m ≠ 0 → combinations.length < m) → others = values.erase baseline)
  flags : ∀ c ∈ combinations, c.isBaseline = true ↔ c.values = baseline
  bounded : ∀ m ∈ maxCombinations, m ≠ 0 → combinations.length ≤ m

theorem sampleCombinations_spec (draw : ℕ → R → ℕ × R) {front : List (Combination P)}
    {values : List P} {m : ℕ} (hm : m ≠ 0)
    (hmap : front.map (·.values) = baseline :: values.erase baseline)
    (hflags : ∀ c ∈ front, c.isBaseline = true ↔ c.values = baseline) (hlt : m < front.length)
    (random : R) : Selects values baseline (some m) (sampleCombinations draw front m random) := by
  cases front with
  | nil => cases hlt
  | cons first rest =>
    obtain ⟨hfirst, hrest⟩ := List.cons.inj hmap
    have hperm := shuffleArray_perm draw rest random
    have hlen : (sampleCombinations draw (first :: rest) m random).length = m := by
      have hshuffled := hperm.length_eq
      rw [sampleCombinations, reindex, List.length_mapIdx, List.length_cons, List.length_take,
        hshuffled]
      rw [List.length_cons] at hlt
      omega
    refine ⟨⟨((shuffleArray draw rest random).1.take (m - 1)).map (·.values), ?_, ?_, ?_⟩, ?_, ?_⟩
    · rw [sampleCombinations, map_values_reindex, List.map_cons]
      exact congrArg (· :: _) hfirst
    · rw [← hrest]
      exact ((List.take_sublist _ _).map _).subperm.trans (hperm.map _).subperm
    · intro h
      exact absurd (h m rfl hm) (by omega)
    · refine reindex_flags (List.forall_mem_cons.mpr ⟨hflags first List.mem_cons_self, ?_⟩)
      intro c hc
      exact hflags c (List.mem_cons_of_mem _ (hperm.subset (List.mem_of_mem_take hc)))
    · intro m' hm' _
      cases hm'
      exact hlen.le

theorem generateCombinations_spec (draw : ℕ → R → ℕ × R) {isBaseline : P → Bool} {values : List P}
    (h : ∀ value ∈ values, isBaseline value = true ↔ value = baseline) (maxCombinations : Option ℕ)
    (random : R) :
    Selects values baseline maxCombinations
      (generateCombinations draw isBaseline values baseline maxCombinations random) := by
  have hflags : ∀ c ∈ values.mapIdx fun index values =>
      (⟨index, values, isBaseline values⟩ : Combination P),
      c.isBaseline = true ↔ c.values = baseline := by
    intro c hc
    obtain ⟨i, hi, rfl⟩ := List.mem_mapIdx.mp hc
    exact h _ (List.getElem_mem hi)
  have hvals : (values.mapIdx fun index values =>
      (⟨index, values, isBaseline values⟩ : Combination P)).map (·.values) = values := by
    refine List.ext_getElem? fun i => ?_
    rw [List.getElem?_map, List.getElem?_mapIdx, Option.map_map]
    exact Option.map_id'
  set front := reindex (baselineFirst baseline (values.mapIdx fun index values =>
    (⟨index, values, isBaseline values⟩ : Combination P))) with hfront
  have hmap : front.map (·.values) = baseline :: values.erase baseline := by
    rw [hfront, map_values_reindex, map_values_baselineFirst hflags, hvals]
  have hfrontFlags : ∀ c ∈ front, c.isBaseline = true ↔ c.values = baseline :=
    reindex_flags (baselineFirst_flags hflags)
  have hgenerate : generateCombinations draw isBaseline values baseline maxCombinations random =
      (maxCombinations.filter (· ≠ 0)).elim front fun m =>
        if m < front.length then sampleCombinations draw front m random else front := by
    unfold generateCombinations
    cases maxCombinations.filter (· ≠ 0) <;> rfl
  -- all of them, if there are not too many
  have hall : (∀ m ∈ maxCombinations, m ≠ 0 → front.length ≤ m) →
      Selects values baseline maxCombinations front := fun hle =>
    ⟨⟨_, hmap, List.Subperm.refl _, fun _ => rfl⟩, hfrontFlags, hle⟩
  rw [hgenerate]
  cases hm : maxCombinations.filter (· ≠ 0) with
  | some m =>
    obtain ⟨rfl, hne⟩ := Option.filter_eq_some_iff.mp hm
    rw [Option.elim_some]
    split_ifs with hlt
    · exact sampleCombinations_spec draw (of_decide_eq_true hne) hmap hfrontFlags hlt random
    · refine hall fun m' hm' _ => ?_
      cases hm'
      exact not_lt.mp hlt
  | none =>
    exact hall fun m hmax hne =>
      absurd (decide_eq_true hne) (Option.filter_eq_none_iff.mp hm m hmax)

end Selection

/-! ## The product -/

namespace GridSearchService

theorem helper_eq_map (current : ParamValues) (names : List String)
    (lists : List (List ParamValue)) (h : names.length = lists.length) :
    helper current (names.zip lists) = (choices lists).map fun choice =>
      (names.zip choice).foldl (fun m e => m.set e.1 e.2) current := by
  induction lists generalizing names current with
  | nil =>
    rw [List.zip_nil_right, choices, List.map_singleton, List.zip_nil_right]
    rfl
  | cons list lists ih =>
    cases names with
    | nil => cases h
    | cons name names =>
      rw [List.zip_cons_cons, helper, choices, List.map_flatMap]
      refine List.flatMap_congr fun value _ => ?_
      rw [ih _ names (Nat.succ.inj h), List.map_map]
      rfl

variable {lists : List (List ParamValue)} {parameters : List ParameterDefinition}
  {choice : List ParamValue} {combinations : List (Combination ParamValues)}

theorem cartesianProduct_eq_map {space : ParameterSpace}
    (h : space.parameters.length = lists.length) :
    cartesianProduct ((space.parameters.map ParameterDefinition.name).zip lists) =
      (choices lists).map space.assign :=
  helper_eq_map _ _ _ (by simpa using h)

theorem parameterValues_eq_none {param} (hmem : param ∈ parameters) (h : ¬ param.LoopEnds)
    (turns : ℕ) : parameterValues turns parameters = none := by
  unfold parameterValues
  induction parameters with
  | nil => cases hmem
  | cons other parameters ih =>
    rw [List.mapM_cons]
    rcases List.mem_cons.mp hmem with rfl | hmem
    · rw [expandParameter_eq_none h]
      rfl
    · rw [ih hmem]
      cases expandParameter turns other with
      | none | some => rfl

abbrev ListsOf : List ParameterDefinition → List (List ParamValue) → Prop :=
  List.Forall₂ fun param values => (∀ value, value ∈ values ↔ param.Listed value) ∧
    ∀ value ∈ values, values.count value = 1 ↔ ¬ param.ListedTwice value

theorem parameterValues_spec (h : ∀ param ∈ parameters, param.LoopEnds) :
    ∃ lists, (∃ n, ∀ turns, n < turns → parameterValues turns parameters =
        some ((parameters.map ParameterDefinition.name).zip lists)) ∧
      ListsOf parameters lists := by
  unfold parameterValues
  induction parameters with
  | nil => exact ⟨[], ⟨0, fun _ _ => rfl⟩, List.Forall₂.nil⟩
  | cons param parameters ih =>
    obtain ⟨values, ⟨n, hvals⟩, hspec⟩ := expandParameter_spec (h param List.mem_cons_self)
    obtain ⟨lists, ⟨n', hlists⟩, hrest⟩ :=
      ih fun other hother => h other (List.mem_cons_of_mem _ hother)
    refine ⟨values :: lists, ⟨max n n', fun turns hturns => ?_⟩, List.Forall₂.cons hspec hrest⟩
    have hfirst := hvals turns (lt_of_le_of_lt (le_max_left n n') hturns)
    have hoths := hlists turns (lt_of_le_of_lt (le_max_right n n') hturns)
    rw [List.mapM_cons, hfirst, hoths]
    rfl

theorem ListsOf.mem_iff (h : ListsOf parameters lists) :
    List.Forall₂ (· ∈ ·) choice lists ↔
      List.Forall₂ ParameterDefinition.Listed parameters choice := by
  induction h generalizing choice with
  | nil => cases choice <;> simp
  | cons hspec _ ih =>
    cases choice with
    | nil => simp
    | cons => rw [List.forall₂_cons, List.forall₂_cons, ih, hspec.1]

theorem ListsOf.once_iff (h : ListsOf parameters lists) (hch : List.Forall₂ (· ∈ ·) choice lists) :
    List.Forall₂ (fun value values => values.count value = 1) choice lists ↔
      List.Forall₂ (fun param value => ¬ param.ListedTwice value) parameters choice := by
  induction h generalizing choice with
  | nil => cases choice <;> simp
  | cons hspec _ ih =>
    cases hch with
    | cons hvalue hrest => rw [List.forall₂_cons, List.forall₂_cons, ih hrest, hspec.2 _ hvalue]

/-! ## Sound, distinct and complete -/

variable (less : ParamValue → ParamValue → Bool) (space : ParameterSpace)
  (reachabilityFilter : Option (ParamValues → Bool))

/-- The combinations are what a grid search should try. -/
structure GridOf (maxCombinations : Option ℕ) (combinations : List (Combination ParamValues)) :
    Prop where
  distinct : (combinations.map (·.values)).Nodup
  first : combinations.head?.map (·.values) = some (getBaselineValues space)
  flags : ∀ c ∈ combinations, c.isBaseline = true ↔ c.values = getBaselineValues space
  indices : Numbered combinations
  others : ∀ c ∈ combinations, c.values ≠ getBaselineValues space →
    space.accepts less reachabilityFilter c.values = true ∧
      ∃ choice, c.values = space.assign choice ∧
        List.Forall₂ ParameterDefinition.InBounds space.parameters choice
  /-- A maximum of zero is none. -/
  bounded : ∀ m ∈ maxCombinations, m ≠ 0 → combinations.length ≤ m
  complete : (∀ m ∈ maxCombinations, m ≠ 0 → combinations.length < m) →
    ∀ choice, List.Forall₂ ParameterDefinition.GridValue space.parameters choice →
      space.accepts less reachabilityFilter (space.assign choice) = true →
        ∃ c ∈ combinations, c.values = space.assign choice

/-- The combinations of the product that are accepted. -/
def reachable (lists : List (List ParamValue)) : List ParamValues :=
  ((choices lists).map space.assign).filter (space.accepts less reachabilityFilter)

variable {less space reachabilityFilter}

theorem mem_reachable_iff (h : ListsOf space.parameters lists) {values : ParamValues} :
    values ∈ reachable less space reachabilityFilter lists ↔
      space.accepts less reachabilityFilter values = true ∧
        ∃ choice, values = space.assign choice ∧
          List.Forall₂ ParameterDefinition.Listed space.parameters choice := by
  rw [reachable, List.mem_filter, List.mem_map, and_comm]
  refine and_congr_right fun _ => exists_congr fun choice => ?_
  rw [mem_choices_iff, h.mem_iff, and_comm, eq_comm]

theorem nodup_reachable_iff (h : ListsOf space.parameters lists) :
    (reachable less space reachabilityFilter lists).Nodup ↔
      ∀ choice, List.Forall₂ ParameterDefinition.Listed space.parameters choice →
        space.accepts less reachabilityFilter (space.assign choice) = true →
          List.Forall₂ (fun param value => ¬ param.ListedTwice value) space.parameters choice := by
  have hlen : ∀ choice ∈ choices lists, choice.length = space.parameters.length :=
    fun choice hch => (mem_choices_iff.mp hch).length_eq.trans h.length_eq.symm
  rw [reachable, List.filter_map]
  have hmap : (((choices lists).filter
      (space.accepts less reachabilityFilter ∘ space.assign)).map space.assign).Nodup ↔
      ((choices lists).filter (space.accepts less reachabilityFilter ∘ space.assign)).Nodup := by
    refine ⟨List.Nodup.of_map _, List.Nodup.map_on fun c hc d hd heq => ?_⟩
    exact assign_inj (hlen c (List.mem_of_mem_filter hc))
      (hlen d (List.mem_of_mem_filter hd)) heq
  rw [hmap, nodup_filter_choices_iff]
  refine forall_congr' fun choice => ?_
  rw [h.mem_iff]
  refine forall₂_congr fun hch _ => h.once_iff (h.mem_iff.mpr hch)

theorem filter_accepts (combinations : List ParamValues) :
    (match reachabilityFilter with
      | some reachabilityFilter => (combinations.filter fun combo =>
          validateConstraints less combo space.constraints).filter reachabilityFilter
      | none => combinations.filter fun combo =>
          validateConstraints less combo space.constraints) =
      combinations.filter (space.accepts less reachabilityFilter) := by
  cases reachabilityFilter with
  | none =>
    refine List.filter_congr fun combo _ => ?_
    rw [ParameterSpace.accepts, Option.all_none, Bool.and_true]
  | some =>
    dsimp only
    rw [List.filter_filter]
    refine List.filter_congr fun combo _ => ?_
    rw [ParameterSpace.accepts, Option.all_some, Bool.and_comm]

section

variable (h : ListsOf space.parameters lists)

include h

theorem generateCombinations_eq {turns : ℕ} (hturns : parameterValues turns space.parameters =
      some ((space.parameters.map ParameterDefinition.name).zip lists)) (maxCombinations : Option ℕ)
    (random : RandomFn) :
    generateCombinations less turns space maxCombinations reachabilityFilter random =
      some (Optimization.generateCombinations draw
        (fun values => isBaselineCombination values (getBaselineValues space))
        (reachable less space reachabilityFilter lists) (getBaselineValues space)
        maxCombinations random) := by
  rw [generateCombinations, hturns, Option.map_some, cartesianProduct_eq_map h.length_eq]
  exact congrArg (fun values => some (Optimization.generateCombinations draw _ values _ _ _))
    (filter_accepts _)

theorem selects_reachable (maxCombinations : Option ℕ) (random : RandomFn) :
    Selects (reachable less space reachabilityFilter lists) (getBaselineValues space)
      maxCombinations (Optimization.generateCombinations draw
        (fun values => isBaselineCombination values (getBaselineValues space))
        (reachable less space reachabilityFilter lists) (getBaselineValues space)
        maxCombinations random) := by
  refine generateCombinations_spec draw (fun values hvals => ?_) maxCombinations random
  obtain ⟨-, _, rfl, hch⟩ := (mem_reachable_iff h).mp hvals
  exact isBaselineCombination_assign hch.length_eq.symm

theorem gridOf_of_nodup (hnodup : (reachable less space reachabilityFilter lists).Nodup)
    (hbounds : ∀ choice, List.Forall₂ ParameterDefinition.Listed space.parameters choice →
      space.accepts less reachabilityFilter (space.assign choice) = true →
        space.assign choice ≠ getBaselineValues space →
          List.Forall₂ ParameterDefinition.InBounds space.parameters choice)
    {maxCombinations : Option ℕ}
    (hselects : Selects (reachable less space reachabilityFilter lists) (getBaselineValues space)
      maxCombinations combinations) (hinds : Numbered combinations) :
    GridOf less space reachabilityFilter maxCombinations combinations := by
  obtain ⟨⟨others, hvals, hsub, hall⟩, hflags, hbdd⟩ := hselects
  have hoths : ∀ values ∈ others, values ≠ getBaselineValues space ∧
      values ∈ reachable less space reachabilityFilter lists := fun values hmem =>
    (List.Nodup.mem_erase_iff hnodup).mp (hsub.subset hmem)
  refine ⟨?_, ?_, hflags, hinds, fun c hc hne => ?_, hbdd, fun hroom choice hgrid hacc => ?_⟩
  · rw [hvals]
    obtain ⟨_, hperm, hsublist⟩ := hsub
    refine List.nodup_cons.mpr ⟨fun hmem => (hoths _ hmem).1 rfl, ?_⟩
    exact hperm.nodup_iff.mp ((hnodup.erase _).sublist hsublist)
  · rw [← List.head?_map, hvals, List.head?_cons]
  · have hmem : c.values ∈ combinations.map (·.values) := List.mem_map_of_mem hc
    rw [hvals, List.mem_cons, or_iff_right hne] at hmem
    obtain ⟨hacc, choice, heq, hlst⟩ := (mem_reachable_iff h).mp (hoths _ hmem).2
    refine ⟨hacc, choice, heq, hbounds choice hlst ?_ ?_⟩
    · rwa [← heq]
    · rwa [← heq]
  · have hlst := hgrid.imp fun _ _ => ParameterDefinition.GridValue.listed
    have hmem := (mem_reachable_iff h).mpr ⟨hacc, choice, rfl, hlst⟩
    have hcombs : space.assign choice ∈ combinations.map (·.values) := by
      rw [hvals, hall hroom, List.mem_cons]
      refine or_iff_not_imp_left.mpr fun hne => ?_
      exact (List.mem_erase_of_ne hne).mpr hmem
    exact List.mem_map.mp hcombs

theorem nodup_of_gridOf
    (hselects : Selects (reachable less space reachabilityFilter lists) (getBaselineValues space)
      none combinations) (hgrid : GridOf less space reachabilityFilter none combinations) :
    (reachable less space reachabilityFilter lists).Nodup ∧
      ∀ choice, List.Forall₂ ParameterDefinition.Listed space.parameters choice →
        space.accepts less reachabilityFilter (space.assign choice) = true →
          space.assign choice ≠ getBaselineValues space →
            List.Forall₂ ParameterDefinition.InBounds space.parameters choice := by
  obtain ⟨others, hvals, -, hall⟩ := hselects.front
  rw [hall fun m hm => by cases hm] at hvals
  constructor
  · have hdist := hgrid.distinct
    rw [hvals] at hdist
    by_cases hmem : getBaselineValues space ∈ reachable less space reachabilityFilter lists
    · exact (List.perm_cons_erase hmem).nodup_iff.mpr hdist
    · rw [List.erase_of_not_mem hmem] at hdist
      exact (List.nodup_cons.mp hdist).2
  · intro choice hlst hacc hne
    have hmem := (mem_reachable_iff h).mpr ⟨hacc, choice, rfl, hlst⟩
    have hcombs : space.assign choice ∈ combinations.map (·.values) := by
      rw [hvals]
      exact List.mem_cons_of_mem _ ((List.mem_erase_of_ne hne).mpr hmem)
    obtain ⟨c, hc, heq⟩ := List.mem_map.mp hcombs
    rw [← heq] at hne
    obtain ⟨-, _, hother, hbounds⟩ := hgrid.others c hc hne
    have hsame := assign_inj hlst.length_eq.symm hbounds.length_eq.symm (heq.symm.trans hother)
    rwa [hsame]

end

/-- **A grid search** makes what it should, whatever the maximum and the draws, exactly if the loops
end, and no accepted combination is listed twice or, unless it is the baseline, out of bounds. -/
theorem generateCombinations_gridOf_iff (less : ParamValue → ParamValue → Bool)
    (space : ParameterSpace) (reachabilityFilter : Option (ParamValues → Bool)) :
    (∀ (maxCombinations : Option ℕ) (random : RandomFn), ∃ combinations,
      (∃ n, ∀ turns, n < turns → generateCombinations less turns space maxCombinations
        reachabilityFilter random = some combinations) ∧
      GridOf less space reachabilityFilter maxCombinations combinations) ↔
    (∀ param ∈ space.parameters, param.LoopEnds) ∧
      ∀ choice, List.Forall₂ ParameterDefinition.Listed space.parameters choice →
        space.accepts less reachabilityFilter (space.assign choice) = true →
          List.Forall₂ (fun param value => ¬ param.ListedTwice value) space.parameters choice ∧
          (space.assign choice ≠ getBaselineValues space →
            List.Forall₂ ParameterDefinition.InBounds space.parameters choice) := by
  constructor
  · intro h
    obtain ⟨_, ⟨n, hreturns⟩, hgrid⟩ := h none default
    have hends : ∀ param ∈ space.parameters, param.LoopEnds := by
      intro param hparam
      by_contra hloop
      have hnone := hreturns (n + 1) (Nat.lt_succ_self n)
      rw [generateCombinations, parameterValues_eq_none hparam hloop] at hnone
      cases hnone
    obtain ⟨_, ⟨n', hvalues⟩, hlists⟩ := parameterValues_spec hends
    have hturns : n < max n n' + 1 ∧ n' < max n n' + 1 := by omega
    have heq := (hreturns _ hturns.1).symm.trans
      (generateCombinations_eq hlists (hvalues _ hturns.2) none default)
    cases heq
    have hright := nodup_of_gridOf hlists (selects_reachable hlists none default) hgrid
    refine ⟨hends, fun choice hlisted haccept => ⟨?_, hright.2 choice hlisted haccept⟩⟩
    exact (nodup_reachable_iff hlists).mp hright.1 choice hlisted haccept
  · rintro ⟨hends, hlisted⟩ maxCombinations random
    obtain ⟨_, ⟨n, hvalues⟩, hlists⟩ := parameterValues_spec hends
    refine ⟨_, ⟨n, fun turns hturns => generateCombinations_eq hlists (hvalues turns hturns)
      maxCombinations random⟩, ?_⟩
    refine gridOf_of_nodup hlists ?_ (fun choice hchoice haccept => (hlisted choice hchoice haccept).2)
      (selects_reachable hlists maxCombinations random) (generateCombinations_indices _ _ _ _ _ _)
    exact (nodup_reachable_iff hlists).mpr
      fun choice hchoice haccept => (hlisted choice hchoice haccept).1

/-! ## A fractional step of an integer parameter -/

def halfStepSpace : ParameterSpace where
  parameters := [⟨"threshold", .numeric ⟨.integer, some 0, some 2, some (1 / 2), 0⟩⟩]
  names_nodup := by decide
  defaults_ne_nan := by decide

theorem half_steps_repeated :
    (generateCombinations (fun _ _ => false) 6 halfStepSpace none none default).map
        (List.map (·.values)) =
      some ([0, 1, 1, 2, 2].map fun q => OrdMap.ofEntries [("threshold", .num q)]) ∧
    ∀ combinations, generateCombinations (fun _ _ => false) 6 halfStepSpace none none default =
      some combinations → ¬ GridOf (fun _ _ => false) halfStepSpace none none combinations := by
  have hvalues : (generateCombinations (fun _ _ => false) 6 halfStepSpace none none default).map
      (List.map (·.values)) =
      some ([0, 1, 1, 2, 2].map fun q => OrdMap.ofEntries [("threshold", .num q)]) := by
    decide +kernel
  refine ⟨hvalues, fun combinations hcombinations hgrid => ?_⟩
  rw [hcombinations, Option.map_some] at hvalues
  have hdistinct := hgrid.distinct
  rw [Option.some.inj hvalues] at hdistinct
  exact absurd hdistinct (by decide +kernel)

end GridSearchService

end Chansey.Optimization
