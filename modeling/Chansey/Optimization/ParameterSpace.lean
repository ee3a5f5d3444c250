import Chansey.Lib.Choices
import Chansey.Lib.Number
import Chansey.Lib.OrdMap

/-!
# Parameter spaces

The parameters of a strategy that an optimization varies, with their bounds and steps, and the
constraints between them.

* `ParameterSpace`: parameters of distinct names, and constraints. `ParamValues`: a value for each
  name.
-/

namespace Chansey.Optimization

inductive ParamValue where
  | num (q : ℚ)
  | nan
  | str (s : String)
  | bool (b : Bool)
  deriving DecidableEq

theorem ParamValue.num_injective : Function.Injective ParamValue.num := fun _ _ h => by
  cases h
  rfl

/-- `Record<string, number | string | boolean>` -/
abbrev ParamValues := OrdMap String ParamValue

inductive NumericType where
  | integer
  | float

structure NumericParameter where
  type : NumericType
  min : Option ℚ := none
  max : Option ℚ := none
  step : Option ℚ := none
  default : ℚ

namespace NumericParameter

/-- `param.min ?? param.default` -/
def lower (param : NumericParameter) : ℚ := param.min.getD param.default

/-- `param.max ?? param.default` -/
def upper (param : NumericParameter) : ℚ := param.max.getD param.default

/-- `param.step ?? 1` -/
def stepSize (param : NumericParameter) : ℚ := param.step.getD 1

end NumericParameter

/-- What values a parameter has: a boolean is categorical, with the values true and false. -/
inductive ParameterDomain where
  | numeric (param : NumericParameter)
  | categorical (values : Option (List ParamValue)) (default : ParamValue)

structure ParameterDefinition where
  name : String
  domain : ParameterDomain

def ParameterDefinition.default (param : ParameterDefinition) : ParamValue :=
  match param.domain with
  | .numeric param => .num param.default
  | .categorical _ default => default

/-! ## Constraints -/

inductive ConstraintType where
  | lessThan | greaterThan | notEqual | custom

structure ParameterConstraint where
  type : ConstraintType
  param1 : String
  param2 : Option String := none
  value : Option ℚ := none
  customValidator : Option (ParamValues → Bool) := none

structure ParameterSpace where
  parameters : List ParameterDefinition
  names_nodup : (parameters.map ParameterDefinition.name).Nodup
  defaults_ne_nan : ∀ param ∈ parameters, param.default ≠ .nan
  constraints : List ParameterConstraint := []

/-- `a === b` -/
def isSame (a b : Option ParamValue) : Bool := decide (a = b ∧ a ≠ some .nan)

section Constraints

variable (less : ParamValue → ParamValue → Bool)

/-- `a < b`; `less` compares values that are not both numbers. -/
def isLess : Option ParamValue → Option ParamValue → Bool
  | none, _ | _, none | some .nan, _ | _, some .nan => false
  | some (.num a), some (.num b) => decide (a < b)
  | some a, some b => less a b

def ParameterConstraint.other (constraint : ParameterConstraint) (params : ParamValues) :
    Option (Option ParamValue) :=
  match constraint.param2.filter (· ≠ "") with
  | some param2 => some (params.get? param2)
  | none => constraint.value.map fun value => some (.num value)

def validateSingleConstraint (params : ParamValues) (constraint : ParameterConstraint) : Bool :=
  let val1 := params.get? constraint.param1
  match constraint.type with
  | .lessThan => (constraint.other params).all fun val2 => isLess less val1 val2
  | .greaterThan => (constraint.other params).all fun val2 => isLess less val2 val1
  | .notEqual => (constraint.other params).all fun val2 => !isSame val1 val2
  | .custom => constraint.customValidator.all fun customValidator => customValidator params

def validateConstraints (params : ParamValues) (constraints : List ParameterConstraint) : Bool :=
  constraints.all (validateSingleConstraint less params)

def ParameterSpace.accepts (space : ParameterSpace)
    (reachabilityFilter : Option (ParamValues → Bool)) (values : ParamValues) : Bool :=
  validateConstraints less values space.constraints &&
    reachabilityFilter.all fun reachable => reachable values

end Constraints

/-! ## Values of all parameters -/

def ParameterSpace.assign (space : ParameterSpace) (choice : List ParamValue) : ParamValues :=
  OrdMap.ofEntries ((space.parameters.map ParameterDefinition.name).zip choice)

def getBaselineValues (space : ParameterSpace) : ParamValues :=
  OrdMap.ofEntries (space.parameters.map fun param => (param.name, param.default))

def isBaselineCombination (values baseline : ParamValues) : Bool :=
  baseline.keys.all fun key => isSame (values.get? key) (baseline.get? key)

theorem getBaselineValues_eq_assign (space : ParameterSpace) :
    getBaselineValues space = space.assign (space.parameters.map ParameterDefinition.default) := by
  unfold getBaselineValues ParameterSpace.assign
  rw [List.zip_map']

variable {space : ParameterSpace} {choice : List ParamValue}

theorem entries_assign (h : choice.length = space.parameters.length) :
    (space.assign choice).entries = (space.parameters.map ParameterDefinition.name).zip choice := by
  refine OrdMap.entries_ofEntries ?_
  rw [List.map_fst_zip (by simp [h])]
  exact space.names_nodup

theorem keys_assign (h : choice.length = space.parameters.length) :
    (space.assign choice).keys = space.parameters.map ParameterDefinition.name := by
  rw [OrdMap.keys, entries_assign h, List.map_fst_zip (by simp [h])]

theorem assign_inj {c d : List ParamValue} (hc : c.length = space.parameters.length)
    (hd : d.length = space.parameters.length) (h : space.assign c = space.assign d) : c = d := by
  have hents := congrArg OrdMap.entries h
  rw [entries_assign hc, entries_assign hd] at hents
  have hsnd := congrArg (List.map Prod.snd) hents
  rwa [List.map_snd_zip, List.map_snd_zip] at hsnd
  · simp [hd]
  · simp [hc]

theorem get?_getBaselineValues_ne_nan (space : ParameterSpace) (key : String) :
    (getBaselineValues space).get? key ≠ some .nan := by
  intro h
  have hmem := OrdMap.get?_eq_some_iff.mp h
  rw [getBaselineValues, OrdMap.entries_ofEntries (by
    rw [List.map_map]
    exact space.names_nodup)] at hmem
  obtain ⟨param, hparam, heq⟩ := List.mem_map.mp hmem
  exact space.defaults_ne_nan param hparam (Prod.mk.inj heq).2

theorem isBaselineCombination_assign {c : List ParamValue} (hc : c.length = space.parameters.length)
    :
    isBaselineCombination (space.assign c) (getBaselineValues space) = true ↔
      space.assign c = getBaselineValues space := by
  have hkeys : (space.assign c).keys = (getBaselineValues space).keys := by
    rw [getBaselineValues_eq_assign, keys_assign hc, keys_assign (by simp)]
  rw [isBaselineCombination, List.all_eq_true]
  constructor
  · intro h
    refine OrdMap.ext_get? hkeys fun key => ?_
    by_cases hkey : key ∈ (getBaselineValues space).keys
    · exact (of_decide_eq_true (h key hkey)).1
    · rw [OrdMap.get?_eq_none_iff.mpr hkey, OrdMap.get?_eq_none_iff.mpr (by rwa [hkeys])]
  · intro h key _
    rw [h]
    exact decide_eq_true ⟨rfl, get?_getBaselineValues_ne_nan space key⟩

/-! ## Draws -/

/-- A source of random numbers: its draws from now on, and what a standard normal sample made at
each of them would be. -/
structure RandomFn where
  draws : ℕ → ℚ
  nonneg : ∀ n, 0 ≤ draws n
  lt_one : ∀ n, draws n < 1
  normals : ℕ → ℚ

/-- A source that draws zero forever. -/
instance : Inhabited RandomFn :=
  ⟨⟨fun _ => 0, fun _ => le_refl 0, fun _ => zero_lt_one, fun _ => 0⟩⟩

namespace RandomFn

def next (random : RandomFn) : ℚ := random.draws 0

/-- The source after a draw. -/
def rest (random : RandomFn) : RandomFn where
  draws n := random.draws (n + 1)
  nonneg n := random.nonneg (n + 1)
  lt_one n := random.lt_one (n + 1)
  normals n := random.normals (n + 1)

/-- `Math.floor(random() * n)` -/
def nextIndex (random : RandomFn) (n : ℤ) : ℤ := ⌊random.next * n⌋

end RandomFn

end Chansey.Optimization
