import Chansey.Lib.Number
import Chansey.Lib.Result
import Chansey.SeededRandom

/-!
# Sanitised input

Input is copied value by value: dangerous keys are left out, a value without a text becomes `null`,
and a value beyond a limit is an error.
-/

namespace Chansey.Sanitize

open Result

/-- A value of the language. A number is `none` when it is not finite. -/
inductive Value where
  | null
  | undefined
  | boolean (value : Bool)
  | number (value : Option ℚ)
  | string (value : String)
  | array (items : List Value)
  | object (members : List (String × Value))
  | other (typeName : String)

abbrev Members := List (String × Value)

inductive AllowedType where
  | string
  | number
  | boolean
  | null
  deriving DecidableEq

structure SanitizeOptions where
  maxDepth : ℚ := 10
  maxKeys : ℚ := 100
  allowedTypes : List AllowedType := [.string, .number, .boolean, .null]
  maxStringLength : ℚ := 10000
  allowArrays : Bool := true
  maxArrayLength : ℚ := 1000

def DANGEROUS_KEYS : List String :=
  ["__proto__", "constructor", "prototype", "__defineGetter__", "__defineSetter__",
    "__lookupGetter__", "__lookupSetter__"]

def Dangerous (key : String) : Prop :=
  key ∈ DANGEROUS_KEYS ∨ ['_', '_'] <+: key.toList ∨ "constructor".toList <:+: key.toList

instance : DecidablePred Dangerous := fun key => by
  unfold Dangerous
  infer_instance

def require (ok : Prop) [Decidable ok] (message : String) : Except String Unit :=
  if ok then .ok () else .error message

def checkKind (options : SanitizeOptions) : Value → Except String Unit
  | .null => require (.null ∈ options.allowedTypes) "Null values are not allowed"
  | .undefined => .ok ()
  | .string s => do
    require (.string ∈ options.allowedTypes) "String values are not allowed"
    require ((SeededRandom.charCodes s).length ≤ options.maxStringLength)
      ("String exceeds maximum length of " ++ Js.numberText options.maxStringLength)
  | .number _ => require (.number ∈ options.allowedTypes) "Number values are not allowed"
  | .boolean _ => require (.boolean ∈ options.allowedTypes) "Boolean values are not allowed"
  | .array items => do
    require (options.allowArrays = true) "Arrays are not allowed"
    require (items.length ≤ options.maxArrayLength)
      ("Array exceeds maximum length of " ++ Js.numberText options.maxArrayLength)
  | .object members => require (members.length ≤ options.maxKeys)
      ("Object exceeds maximum key count of " ++ Js.numberText options.maxKeys)
  | .other typeName => .error ("Unsupported value type: " ++ typeName)

def check (options : SanitizeOptions) (depth : ℕ) (value : Value) : Except String Unit := do
  require (depth ≤ options.maxDepth)
    ("Object exceeds maximum depth of " ++ Js.numberText options.maxDepth)
  checkKind options value

mutual

def sanitizeValue (options : SanitizeOptions) : Value → ℕ → Except String Value
  | .null, depth => do
    check options depth .null
    .ok .null
  | .undefined, depth => do
    check options depth .undefined
    .ok .null
  | .string s, depth => do
    check options depth (.string s)
    .ok (.string s)
  | .number x, depth => do
    check options depth (.number x)
    .ok (x.elim .null fun q => .number (some q))
  | .boolean b, depth => do
    check options depth (.boolean b)
    .ok (.boolean b)
  | .array items, depth => do
    check options depth (.array items)
    let result ← sanitizeItems options items (depth + 1)
    .ok (.array result)
  | .object members, depth => do
    check options depth (.object members)
    let result ← sanitizeMembers options members (depth + 1)
    .ok (.object result)
  | .other typeName, depth => do
    -- the check throws
    check options depth (.other typeName)
    .ok .null

def sanitizeItems (options : SanitizeOptions) : List Value → ℕ → Except String (List Value)
  | [], _ => .ok []
  | item :: rest, depth => do
    let value ← sanitizeValue options item depth
    let result ← sanitizeItems options rest depth
    .ok (value :: result)

def sanitizeMembers (options : SanitizeOptions) : Members → ℕ → Except String Members
  | [], _ => .ok []
  | (key, value) :: rest, depth =>
    if Dangerous key then sanitizeMembers options rest depth
    else do
      let sanitizedValue ← sanitizeValue options value depth
      let result ← sanitizeMembers options rest depth
      .ok ((key, sanitizedValue) :: result)

end

def sanitizeObject (value : Value) (options : SanitizeOptions) : Except String Value :=
  sanitizeValue options value 0

def isObjectSafe (value : Value) (options : SanitizeOptions) : Bool :=
  (sanitizeObject value options).isOk

/-! ## Every value in a value -/

mutual

/-- `P` holds of the value and of every value in it under keys that meet `follow`, each with its
depth. -/
def Value.Every (follow : String → Prop) (P : Value → ℕ → Prop) : Value → ℕ → Prop
  | .array items, depth => P (.array items) depth ∧ EveryItem follow P items (depth + 1)
  | .object members, depth => P (.object members) depth ∧ EveryMember follow P members (depth + 1)
  | .null, depth => P .null depth
  | .undefined, depth => P .undefined depth
  | .boolean b, depth => P (.boolean b) depth
  | .number x, depth => P (.number x) depth
  | .string s, depth => P (.string s) depth
  | .other typeName, depth => P (.other typeName) depth

def EveryItem (follow : String → Prop) (P : Value → ℕ → Prop) : List Value → ℕ → Prop
  | [], _ => True
  | item :: rest, depth => item.Every follow P depth ∧ EveryItem follow P rest depth

def EveryMember (follow : String → Prop) (P : Value → ℕ → Prop) : Members → ℕ → Prop
  | [], _ => True
  | (key, value) :: rest, depth =>
    (follow key → value.Every follow P depth) ∧ EveryMember follow P rest depth

end

def LimitsOfKind (options : SanitizeOptions) : Value → Prop
  | .null => .null ∈ options.allowedTypes
  | .undefined => True
  | .string s => .string ∈ options.allowedTypes ∧
      (SeededRandom.charCodes s).length ≤ options.maxStringLength
  | .number _ => .number ∈ options.allowedTypes
  | .boolean _ => .boolean ∈ options.allowedTypes
  | .array items => options.allowArrays = true ∧ items.length ≤ options.maxArrayLength
  | .object members => members.length ≤ options.maxKeys
  | .other _ => False

def Limits (options : SanitizeOptions) (value : Value) (depth : ℕ) : Prop :=
  depth ≤ options.maxDepth ∧ LimitsOfKind options value

def keysSafe : Value → ℕ → Prop
  | .object members, _ => ∀ m ∈ members, ¬ Dangerous m.1
  | _, _ => True

def hasText (value : Value) (_ : ℕ) : Prop := value ≠ .undefined ∧ value ≠ .number none

def everywhere (_ : String) : Prop := True

def NoDangerous (value : Value) (depth : ℕ) : Prop := value.Every everywhere keysSafe depth

/-- **A plain value**: no dangerous key, and nothing without a text. -/
def Plain (value : Value) (depth : ℕ) : Prop :=
  NoDangerous value depth ∧ value.Every everywhere hasText depth

def Within (options : SanitizeOptions) (value : Value) (depth : ℕ) : Prop :=
  value.Every everywhere (Limits options) depth

/-- **An accepted value**: the limits are respected by all that is not left out. -/
def Accepted (options : SanitizeOptions) (value : Value) (depth : ℕ) : Prop :=
  value.Every (fun key => ¬ Dangerous key) (Limits options) depth

/-! ## What is returned -/

section Outcome

variable {options : SanitizeOptions} {value : Value} {depth : ℕ}

theorem require_eq_ok {ok : Prop} [Decidable ok] {message : String} {u : Unit} :
    require ok message = .ok u ↔ ok := by
  unfold require
  split_ifs with h <;> simp [h]

theorem check_eq_ok : check options depth value = .ok () ↔ Limits options value depth := by
  have hkind : checkKind options value = .ok () ↔ LimitsOfKind options value := by
    cases value <;> simp [checkKind, LimitsOfKind, bind_eq_ok, require_eq_ok]
  simp [check, Limits, bind_eq_ok, require_eq_ok, hkind]

theorem check_cases (options : SanitizeOptions) (value : Value) (depth : ℕ) :
    (check options depth value = .ok () ∧ Limits options value depth) ∨
      (∃ e, check options depth value = .error e) ∧ ¬ Limits options value depth := by
  rw [← check_eq_ok]
  cases h : check options depth value with
  | ok => exact .inl ⟨rfl, rfl⟩
  | error e => exact .inr ⟨⟨e, rfl⟩, by simp⟩

def Outcome {α : Type} (result : Except String α) (value : α) (accepted : Prop)
    (plain within : α → Prop) : Prop :=
  (accepted ∧ ∃ r, result = .ok r ∧ plain r ∧ (plain value → r = value ∧ within value)) ∨
    ¬ accepted ∧ ∃ e, result = .error e

theorem outcome_leaf {copy : Value} (hplain : Plain copy depth)
    (hkept : Limits options value depth → Plain value depth → copy = value)
    (hacc : Accepted options value depth ↔ Limits options value depth)
    (hwithin : Within options value depth ↔ Limits options value depth) :
    Outcome (check options depth value >>= fun _ => .ok copy) value
      (Accepted options value depth) (Plain · depth) (Within options · depth) := by
  rcases check_cases options value depth with ⟨hcheck, hlim⟩ | ⟨⟨e, hcheck⟩, hlim⟩
  · rw [hcheck]
    exact .inl ⟨hacc.mpr hlim, copy, rfl, hplain, fun h => ⟨hkept hlim h, hwithin.mpr hlim⟩⟩
  · rw [hcheck]
    exact .inr ⟨fun h => hlim (hacc.mp h), e, rfl⟩

end Outcome

mutual

theorem sanitizeValue_spec (options : SanitizeOptions) : ∀ (value : Value) (depth : ℕ),
    Outcome (sanitizeValue options value depth) value (Accepted options value depth)
      (Plain · depth) (Within options · depth)
  | .null, depth | .boolean _, depth | .string _, depth => by
    rw [sanitizeValue]
    exact outcome_leaf (by simp [Plain, NoDangerous, Value.Every, keysSafe, hasText])
      (fun _ _ => rfl) Iff.rfl Iff.rfl
  | .undefined, depth => by
    rw [sanitizeValue]
    exact outcome_leaf (by simp [Plain, NoDangerous, Value.Every, keysSafe, hasText])
      (fun _ h => absurd rfl h.2.1) Iff.rfl Iff.rfl
  | .number x, depth => by
    rw [sanitizeValue]
    refine outcome_leaf ?_ (fun _ h => ?_) Iff.rfl Iff.rfl
    · cases x <;> simp [Plain, NoDangerous, Value.Every, keysSafe, hasText]
    · cases x with
      | none => exact absurd rfl h.2.2
      | some => rfl
  | .other typeName, depth => by
    rw [sanitizeValue]
    exact outcome_leaf (by simp [Plain, NoDangerous, Value.Every, keysSafe, hasText])
      (fun h _ => h.2.elim) Iff.rfl Iff.rfl
  | .array items, depth => by
    rw [sanitizeValue]
    rcases check_cases options (.array items) depth with ⟨hcheck, hlim⟩ | ⟨⟨e, hcheck⟩, hlim⟩
    · rcases sanitizeItems_spec options items (depth + 1) with
        ⟨hacc, rs, hrs, hplain, hkept⟩ | ⟨hrej, e, he⟩
      · rw [hcheck, ok_bind, hrs, ok_bind]
        refine .inl ⟨⟨hlim, hacc⟩, .array rs, rfl,
          ⟨⟨trivial, hplain.1⟩, ⟨by simp [hasText], hplain.2⟩⟩, fun h => ?_⟩
        obtain ⟨rfl, hwithin⟩ := hkept ⟨h.1.2, h.2.2⟩
        exact ⟨rfl, hlim, hwithin⟩
      · rw [hcheck, ok_bind, he]
        exact .inr ⟨fun h => hrej h.2, e, rfl⟩
    · rw [hcheck]
      exact .inr ⟨fun h => hlim h.1, e, rfl⟩
  | .object members, depth => by
    rw [sanitizeValue]
    rcases check_cases options (.object members) depth with ⟨hcheck, hlim⟩ | ⟨⟨e, hcheck⟩, hlim⟩
    · rcases sanitizeMembers_spec options members (depth + 1) with
        ⟨hacc, rs, hrs, hplain, hkept⟩ | ⟨hrej, e, he⟩
      · rw [hcheck, ok_bind, hrs, ok_bind]
        refine .inl ⟨⟨hlim, hacc⟩, .object rs, rfl,
          ⟨⟨hplain.1, hplain.2.1⟩, ⟨by simp [hasText], hplain.2.2⟩⟩, fun h => ?_⟩
        obtain ⟨rfl, hwithin⟩ := hkept ⟨h.1.1, h.1.2, h.2.2⟩
        exact ⟨rfl, hlim, hwithin⟩
      · rw [hcheck, ok_bind, he]
        exact .inr ⟨fun h => hrej h.2, e, rfl⟩
    · rw [hcheck]
      exact .inr ⟨fun h => hlim h.1, e, rfl⟩

theorem sanitizeItems_spec (options : SanitizeOptions) : ∀ (items : List Value) (depth : ℕ),
    Outcome (sanitizeItems options items depth) items
      (EveryItem (fun key => ¬ Dangerous key) (Limits options) items depth)
      (fun xs => EveryItem everywhere keysSafe xs depth ∧ EveryItem everywhere hasText xs depth)
      (fun xs => EveryItem everywhere (Limits options) xs depth)
  | [], depth => by
    exact .inl ⟨trivial, [], rfl, ⟨trivial, trivial⟩, fun _ => ⟨rfl, trivial⟩⟩
  | item :: rest, depth => by
    rw [sanitizeItems]
    rcases sanitizeValue_spec options item depth with ⟨hacc, r, hr, hplain, hkept⟩ | ⟨hrej, e, he⟩
    · rcases sanitizeItems_spec options rest depth with
        ⟨haccs, rs, hrs, hplains, hkepts⟩ | ⟨hrejs, e, he⟩
      · rw [hr, hrs]
        refine .inl ⟨⟨hacc, haccs⟩, r :: rs, rfl,
          ⟨⟨hplain.1, hplains.1⟩, hplain.2, hplains.2⟩, fun h => ?_⟩
        obtain ⟨rfl, hwithin⟩ := hkept ⟨h.1.1, h.2.1⟩
        obtain ⟨rfl, hwithins⟩ := hkepts ⟨h.1.2, h.2.2⟩
        exact ⟨rfl, hwithin, hwithins⟩
      · rw [hr, he]
        exact .inr ⟨fun h => hrejs h.2, e, rfl⟩
    · rw [he]
      exact .inr ⟨fun h => hrej h.1, e, rfl⟩

theorem sanitizeMembers_spec (options : SanitizeOptions) : ∀ (members : Members) (depth : ℕ),
    Outcome (sanitizeMembers options members depth) members
      (EveryMember (fun key => ¬ Dangerous key) (Limits options) members depth)
      (fun ms => (∀ m ∈ ms, ¬ Dangerous m.1) ∧ EveryMember everywhere keysSafe ms depth ∧
        EveryMember everywhere hasText ms depth)
      (fun ms => EveryMember everywhere (Limits options) ms depth)
  | [], depth => by
    rw [sanitizeMembers]
    exact .inl ⟨trivial, [], rfl, ⟨by simp, trivial, trivial⟩, fun _ => ⟨rfl, trivial⟩⟩
  | (key, value) :: rest, depth => by
    rw [sanitizeMembers]
    by_cases hkey : Dangerous key
    · rw [if_pos hkey]
      rcases sanitizeMembers_spec options rest depth with ⟨hacc, rs, hrs, hplain, -⟩ | ⟨hrej, e, he⟩
      · exact .inl ⟨⟨fun h => absurd hkey h, hacc⟩, rs, hrs, hplain,
          fun h => absurd hkey (h.1 (key, value) List.mem_cons_self)⟩
      · exact .inr ⟨fun h => hrej h.2, e, he⟩
    · rw [if_neg hkey]
      rcases sanitizeValue_spec options value depth with
        ⟨hacc, r, hr, hplain, hkept⟩ | ⟨hrej, e, he⟩
      · rcases sanitizeMembers_spec options rest depth with
          ⟨haccs, rs, hrs, hplains, hkepts⟩ | ⟨hrejs, e, he⟩
        · rw [hr, hrs]
          refine .inl ⟨⟨fun _ => hacc, haccs⟩, (key, r) :: rs, rfl,
            ⟨List.forall_mem_cons.mpr ⟨hkey, hplains.1⟩, ⟨fun _ => hplain.1, hplains.2.1⟩,
              fun _ => hplain.2, hplains.2.2⟩, fun h => ?_⟩
          obtain ⟨rfl, hwithin⟩ := hkept ⟨h.2.1.1 trivial, h.2.2.1 trivial⟩
          obtain ⟨rfl, hwithins⟩ := hkepts ⟨(List.forall_mem_cons.mp h.1).2, h.2.1.2, h.2.2.2⟩
          exact ⟨rfl, fun _ => hwithin, hwithins⟩
        · rw [hr, he]
          exact .inr ⟨fun h => hrejs h.2, e, rfl⟩
      · rw [he]
        exact .inr ⟨fun h => hrej (h.1 hkey), e, rfl⟩

end

/-! ## The laws -/

/-- **Sound sanitising** of a value. -/
structure Sound (options : SanitizeOptions) (value : Value) : Prop where
  clean : ∀ r, sanitizeObject value options = .ok r → NoDangerous r 0
  within : ∀ r, sanitizeObject value options = .ok r → Within options r 0
  again : ∀ r, sanitizeObject value options = .ok r → sanitizeObject r options = .ok r
  kept : ∀ r, sanitizeObject value options = .ok r → NoDangerous value 0 → r = value
  safe : isObjectSafe value options = true ↔ sanitizeObject value options = .ok value

/-- **When sanitising is sound.** -/
theorem sanitizing_sound_iff (options : SanitizeOptions) (value : Value) :
    Sound options value ↔ Plain value 0 ∨ ¬ Accepted options value 0 := by
  rcases sanitizeValue_spec options value 0 with ⟨hacc, r, hr, hplain, hkept⟩ | ⟨hrej, e, he⟩
  · have hret : sanitizeObject value options = .ok r := hr
    rw [or_iff_left (not_not.mpr hacc)]
    constructor
    · intro h
      have hsame := h.safe.mp (by rw [isObjectSafe, hret]; rfl)
      rw [hret, Except.ok.injEq] at hsame
      exact hsame ▸ hplain
    · intro h
      obtain ⟨rfl, hwithin⟩ := hkept h
      have hall : ∀ r', sanitizeObject r options = .ok r' → r' = r := fun r' hr' =>
        (Except.ok.inj (hret.symm.trans hr')).symm
      exact
        { clean := fun r' hr' => hall r' hr' ▸ hplain.1
          within := fun r' hr' => hall r' hr' ▸ hwithin
          again := fun r' hr' => hall r' hr' ▸ hret
          kept := fun r' hr' _ => hall r' hr'
          safe := by rw [isObjectSafe, hret]; exact iff_of_true rfl rfl }
  · have hret : sanitizeObject value options = .error e := he
    refine iff_of_true ?_ (.inr hrej)
    constructor <;> simp [hret, isObjectSafe, Except.isOk, Except.toBool]

theorem constructor_taken_for_safe :
    ¬ (∀ (options : SanitizeOptions) (value : Value), Sound options value) ∧
      isObjectSafe (.object [("constructor", .boolean true)]) {} = true ∧
      sanitizeObject (.object [("constructor", .boolean true)]) {} = .ok (.object []) := by
  have hkey : Dangerous "constructor" := by decide
  have hret : sanitizeObject (.object [("constructor", .boolean true)]) {} =
      .ok (.object []) := by
    have hcheck : check {} 0 (.object [("constructor", .boolean true)]) = .ok () :=
      check_eq_ok.mpr ⟨by norm_num, by norm_num [LimitsOfKind]⟩
    rw [sanitizeObject, sanitizeValue, hcheck, ok_bind, sanitizeMembers, if_pos hkey,
      sanitizeMembers, ok_bind]
  have hsafe : isObjectSafe (.object [("constructor", .boolean true)]) {} = true := by
    rw [isObjectSafe, hret]
    rfl
  refine ⟨fun h => ?_, hsafe, hret⟩
  have hsame := (h {} (.object [("constructor", .boolean true)])).safe.mp hsafe
  simp [hret] at hsame

end Chansey.Sanitize
