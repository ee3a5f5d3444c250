import Mathlib.Data.List.DropRight
import Mathlib.Data.Rat.Floor

/-!
# Numbers as text, as JavaScript prints and reads them

A number is a decimal, `mantissa * 10 ^ exponent`. It is printed by position, or with an exponent when
it is very large or very small, and read again from a text.

* `Decimal`, `Decimal.toText`: a number and the shortest text of it. `toFixed`: with given decimals.
-/

namespace Js

structure Decimal where
  mantissa : ℤ
  exponent : ℤ
  deriving DecidableEq

def Decimal.value (x : Decimal) : ℚ := x.mantissa * (10 : ℚ) ^ x.exponent

/-! ## Printing -/

def zeros (n : ℕ) : List Char := List.replicate n '0'

def positional (whole fraction : List Char) : List Char :=
  if fraction = [] then whole else whole ++ '.' :: fraction

def exponentText (e : ℤ) : List Char :=
  'e' :: (if 0 ≤ e then '+' else '-') :: Nat.toDigits 10 e.natAbs

/-- The digits without the zeros at the end. -/
def significant (n : ℕ) : List Char := (Nat.toDigits 10 n).rdropWhile (· = '0')

/-- The shortest digits of a positive `n * 10 ^ exponent`, with `point` digits before the point. -/
def magnitudeText (n : ℕ) (exponent : ℤ) : List Char :=
  let s := significant n
  let point : ℤ := (Nat.toDigits 10 n).length + exponent
  if s.length ≤ point ∧ point ≤ 21 then s ++ zeros (point - s.length).toNat
  else if 0 < point ∧ point ≤ 21 then positional (s.take point.toNat) (s.drop point.toNat)
  else if -6 < point ∧ point ≤ 0 then positional ['0'] (zeros (-point).toNat ++ s)
  else positional (s.take 1) (s.drop 1) ++ exponentText (point - 1)

/-- `Number.prototype.toString` -/
def Decimal.toText (x : Decimal) : List Char :=
  if x.mantissa = 0 then ['0']
  else if x.mantissa < 0 then '-' :: magnitudeText x.mantissa.natAbs x.exponent
  else magnitudeText x.mantissa.natAbs x.exponent

/-- `n / 10 ^ d` with `d` decimals. -/
def fixedText (n d : ℕ) : List Char :=
  let digits := Nat.toDigits 10 (n % 10 ^ d)
  positional (Nat.toDigits 10 (n / 10 ^ d))
    (if d = 0 then [] else zeros (d - digits.length) ++ digits)

inductive RangeError where
  | fractionDigits
  deriving DecidableEq

/-- `Number.prototype.toFixed`: ties go away from zero, and a large number is printed as it is. -/
def toFixedText (x : Decimal) (fractionDigits : ℤ) : Except RangeError (List Char) :=
  if fractionDigits < 0 ∨ 100 < fractionDigits then .error .fractionDigits
  else if 10 ^ 21 ≤ |x.value| then .ok x.toText
  else
    let body := fixedText ⌊|x.value| * 10 ^ fractionDigits.toNat + 1 / 2⌋₊ fractionDigits.toNat
    .ok (if x.value < 0 then '-' :: body else body)

/-! ## Reading -/

def readExponent (text : List Char) : ℤ × List Char :=
  if text.head? = some 'e' ∨ text.head? = some 'E' then
    let negative := text.tail.head? = some '-'
    let unsigned := if negative ∨ text.tail.head? = some '+' then text.tail.tail else text.tail
    let digits := unsigned.takeWhile Char.isDigit
    if digits = [] then (0, text)
    else
      ((if negative then -1 else 1) * Nat.ofDigitChars 10 digits 0, unsigned.dropWhile Char.isDigit)
  else (0, text)

/-- Digits, perhaps a point and more digits, perhaps an exponent, and the rest. -/
def readUnsigned (text : List Char) : Option (Decimal × List Char) :=
  let whole := text.takeWhile Char.isDigit
  let rest := text.dropWhile Char.isDigit
  let fraction := if rest.head? = some '.' then rest.tail.takeWhile Char.isDigit else []
  if whole = [] ∧ fraction = [] then none
  else
    let exponent :=
      readExponent (if rest.head? = some '.' then rest.tail.dropWhile Char.isDigit else rest)
    some (⟨Nat.ofDigitChars 10 (whole ++ fraction) 0, exponent.1 - fraction.length⟩, exponent.2)

def Decimal.neg (x : Decimal) : Decimal := { x with mantissa := -x.mantissa }

def readNumber (text : List Char) : Option (Decimal × List Char) :=
  if text.head? = some '-' then (readUnsigned text.tail).map fun r => (r.1.neg, r.2)
  else if text.head? = some '+' then readUnsigned text.tail
  else readUnsigned text

/-- `parseFloat`, where no number at the start of the text is `NaN`. -/
def parseFloat (text : List Char) : Option Decimal :=
  (readNumber (text.dropWhile Char.isWhitespace)).map Prod.fst

/-- `Number` of a text, where a text that is not a decimal is `NaN`. -/
def toNumber (text : List Char) : Option Decimal :=
  (readNumber text).bind fun r => if r.2 = [] then some r.1 else none

example : parseFloat "1.5e-7x".toList = some ⟨15, -8⟩ := by decide +kernel

def ReadsUnsigned (text : List Char) (v : ℚ) : Prop :=
  ∃ x, readUnsigned text = some (x, []) ∧ x.value = v

def ReadsAs (text : List Char) (v : ℚ) : Prop := ∃ x, readNumber text = some (x, []) ∧ x.value = v

section Reading

variable {text digits whole fraction rest : List Char} {v : ℚ}

def NoDigit (rest : List Char) : Prop := ∀ c ∈ rest.head?, c.isDigit = false

theorem noDigit_nil : NoDigit [] := fun c hc => by cases hc

theorem noDigit_cons {c : Char} (h : c.isDigit = false) (rest : List Char) : NoDigit (c :: rest) :=
  fun c' hc => by
    cases hc
    exact h

theorem takeWhile_digits (hdigits : ∀ c ∈ digits, c.isDigit = true) (hrest : NoDigit rest) :
    (digits ++ rest).takeWhile Char.isDigit = digits := by
  rw [List.takeWhile_append_of_pos hdigits]
  cases rest with
  | nil => rw [List.takeWhile_nil, List.append_nil]
  | cons c =>
    rw [List.takeWhile_cons_of_neg (Bool.eq_false_iff.mp (hrest c rfl)), List.append_nil]

theorem dropWhile_digits (hdigits : ∀ c ∈ digits, c.isDigit = true) (hrest : NoDigit rest) :
    (digits ++ rest).dropWhile Char.isDigit = rest := by
  rw [List.dropWhile_append_of_pos hdigits]
  cases rest with
  | nil => rfl
  | cons c => rw [List.dropWhile_cons_of_neg (Bool.eq_false_iff.mp (hrest c rfl))]

theorem readUnsigned_positional (hwhole : ∀ c ∈ whole, c.isDigit = true)
    (hfrac : ∀ c ∈ fraction, c.isDigit = true) (hne : whole ≠ []) (hrest : NoDigit rest)
    (hpoint : rest.head? ≠ some '.') :
    readUnsigned (positional whole fraction ++ rest) =
      some (⟨Nat.ofDigitChars 10 (whole ++ fraction) 0,
        (readExponent rest).1 - fraction.length⟩, (readExponent rest).2) := by
  have hsome : ∀ fraction : List Char, ¬ (whole = [] ∧ fraction = []) := fun _ h => hne h.1
  unfold positional readUnsigned
  by_cases hempty : fraction = []
  · rw [if_pos hempty, takeWhile_digits hwhole hrest, dropWhile_digits hwhole hrest]
    dsimp only
    rw [if_neg hpoint, if_neg (hsome _), if_neg hpoint, hempty]
  · have hstop : NoDigit ('.' :: (fraction ++ rest)) := noDigit_cons rfl _
    rw [if_neg hempty, List.append_assoc, List.cons_append, takeWhile_digits hwhole hstop,
      dropWhile_digits hwhole hstop]
    dsimp only
    rw [List.head?_cons, if_pos rfl, if_pos rfl, List.tail_cons, takeWhile_digits hfrac hrest,
      dropWhile_digits hfrac hrest, if_neg (hsome _)]

theorem readExponent_nil : readExponent [] = (0, []) := rfl

theorem readExponent_exponentText (e : ℤ) : readExponent (exponentText e) = (e, []) := by
  have hall : ∀ c ∈ Nat.toDigits 10 e.natAbs, c.isDigit = true := fun c =>
    Nat.isDigit_of_mem_toDigits (by norm_num) le_rfl
  have htake : (Nat.toDigits 10 e.natAbs).takeWhile Char.isDigit = Nat.toDigits 10 e.natAbs := by
    simpa using takeWhile_digits hall noDigit_nil
  have hdrop : (Nat.toDigits 10 e.natAbs).dropWhile Char.isDigit = [] := by
    simpa using dropWhile_digits hall noDigit_nil
  unfold readExponent exponentText
  rw [List.head?_cons, if_pos (Or.inl rfl), List.tail_cons, List.head?_cons, List.tail_cons]
  dsimp only
  by_cases he : 0 ≤ e
  · have hsign : ¬ some '+' = some '-' := by decide
    rw [if_pos he, if_pos (Or.inr rfl : some '+' = some '-' ∨ some '+' = some '+'), htake, hdrop,
      if_neg Nat.toDigits_ne_nil, if_neg hsign, Nat.ofDigitChars_ten_toDigits, one_mul,
      Int.natAbs_of_nonneg he]
  · rw [if_neg he, if_pos (Or.inl rfl : some '-' = some '-' ∨ some '-' = some '+'), htake, hdrop,
      if_neg Nat.toDigits_ne_nil, if_pos rfl, Nat.ofDigitChars_ten_toDigits, neg_one_mul,
      Int.ofNat_natAbs_of_nonpos (le_of_not_ge he), neg_neg]

theorem ReadsUnsigned.readsAs (h : ReadsUnsigned text v) : ReadsAs text v := by
  obtain ⟨x, hread, rfl⟩ := h
  refine ⟨x, ?_, rfl⟩
  unfold readNumber
  split_ifs with hminus hplus
  · obtain ⟨_, rfl⟩ := List.head?_eq_some_iff.mp hminus
    cases hread
  · obtain ⟨_, rfl⟩ := List.head?_eq_some_iff.mp hplus
    cases hread
  · exact hread

theorem ReadsUnsigned.neg (h : ReadsUnsigned text v) : ReadsAs ('-' :: text) (-v) := by
  obtain ⟨x, hread, rfl⟩ := h
  refine ⟨x.neg, ?_, ?_⟩
  · unfold readNumber
    rw [List.head?_cons, if_pos rfl, List.tail_cons, hread]
    rfl
  · unfold Decimal.value Decimal.neg
    push_cast
    ring

theorem toNumber_of_readsAs (h : ReadsAs text v) : (toNumber text).map Decimal.value = some v := by
  obtain ⟨x, hread, rfl⟩ := h
  unfold toNumber
  rw [hread]
  rfl

theorem readNumber_of_isWhitespace {c : Char} (h : c.isWhitespace = true) (rest : List Char) :
    readNumber (c :: rest) = none := by
  unfold Char.isWhitespace at h
  simp only [Bool.or_eq_true, decide_eq_true_eq] at h
  rcases h with ((rfl | rfl) | rfl) | rfl
  · rfl
  · rfl
  · rfl
  · rfl

theorem parseFloat_of_readsAs (h : ReadsAs text v) :
    (parseFloat text).map Decimal.value = some v := by
  obtain ⟨x, hread, rfl⟩ := h
  have htrim : text.dropWhile Char.isWhitespace = text := by
    cases text with
    | nil => rfl
    | cons =>
      refine List.dropWhile_cons_of_neg fun hspace => ?_
      rw [readNumber_of_isWhitespace hspace] at hread
      cases hread
  unfold parseFloat
  rw [htrim, hread]
  rfl

end Reading

/-! ## Layouts -/

/-- Digits with a point among them, and perhaps an exponent after them. -/
structure Layout where
  whole : List Char
  fraction : List Char
  exponent : Option ℤ
  whole_isDigit : ∀ c ∈ whole, c.isDigit = true
  fraction_isDigit : ∀ c ∈ fraction, c.isDigit = true
  whole_ne_nil : whole ≠ []

namespace Layout

def text (layout : Layout) : List Char :=
  positional layout.whole layout.fraction ++ layout.exponent.elim [] exponentText

def value (layout : Layout) : ℚ :=
  Nat.ofDigitChars 10 (layout.whole ++ layout.fraction) 0 *
    (10 : ℚ) ^ (layout.exponent.getD 0 - layout.fraction.length)

theorem reads (layout : Layout) : ReadsUnsigned layout.text layout.value := by
  have hread : ∀ (rest : List Char) (e : ℤ), NoDigit rest → rest.head? ≠ some '.' →
      readExponent rest = (e, []) → readUnsigned (positional layout.whole layout.fraction ++ rest) =
        some (⟨Nat.ofDigitChars 10 (layout.whole ++ layout.fraction) 0,
          e - layout.fraction.length⟩, []) := by
    intro rest e hrest hpoint he
    rw [readUnsigned_positional layout.whole_isDigit layout.fraction_isDigit layout.whole_ne_nil
      hrest hpoint, he]
  refine ⟨⟨Nat.ofDigitChars 10 (layout.whole ++ layout.fraction) 0,
    layout.exponent.getD 0 - layout.fraction.length⟩, ?_, rfl⟩
  unfold text
  cases layout.exponent with
  | none => exact hread [] 0 noDigit_nil (by decide) readExponent_nil
  | some e =>
    exact hread (exponentText e) e (noDigit_cons rfl _) (show some 'e' ≠ some '.' by decide)
      (readExponent_exponentText e)

end Layout

/-! ## What is printed is read again -/

section Printing

theorem zeros_isDigit (n : ℕ) : ∀ c ∈ zeros n, c.isDigit = true := by
  intro c hc
  rw [List.eq_of_mem_replicate hc]
  rfl

theorem toDigits_isDigit (n : ℕ) : ∀ c ∈ Nat.toDigits 10 n, c.isDigit = true := fun _ =>
  Nat.isDigit_of_mem_toDigits (by norm_num) le_rfl

theorem append_isDigit {a b : List Char} (ha : ∀ c ∈ a, c.isDigit = true)
    (hb : ∀ c ∈ b, c.isDigit = true) : ∀ c ∈ a ++ b, c.isDigit = true := fun c hc =>
  (List.mem_append.mp hc).elim (ha c) (hb c)

theorem toDigits_eq_significant (n : ℕ) : ∃ z, Nat.toDigits 10 n = significant n ++ zeros z := by
  refine ⟨((Nat.toDigits 10 n).rtakeWhile (· = '0')).length, ?_⟩
  have hzeros : (Nat.toDigits 10 n).rtakeWhile (· = '0') =
      zeros ((Nat.toDigits 10 n).rtakeWhile (· = '0')).length :=
    List.eq_replicate_of_mem fun c hc => by
      have hzero := List.mem_rtakeWhile_imp hc
      exact of_decide_eq_true hzero
  rw [← hzeros]
  exact List.rdropWhile_append_rtakeWhile.symm

theorem significant_isDigit (n : ℕ) : ∀ c ∈ significant n, c.isDigit = true := by
  intro c hc
  exact toDigits_isDigit n c ((List.rdropWhile_prefix _ _).subset hc)

theorem ofDigitChars_append_zeros (digits : List Char) (z : ℕ) :
    Nat.ofDigitChars 10 (digits ++ zeros z) 0 = 10 ^ z * Nat.ofDigitChars 10 digits 0 := by
  rw [Nat.ofDigitChars_append]
  exact Nat.ofDigitChars_replicate_zero

theorem significant_ne_nil {n : ℕ} (hn : n ≠ 0) : significant n ≠ [] := by
  intro h
  obtain ⟨z, hz⟩ := toDigits_eq_significant n
  have hvalue := ofDigitChars_append_zeros (significant n) z
  rw [← hz, h, Nat.ofDigitChars_ten_toDigits, Nat.ofDigitChars_nil, mul_zero] at hvalue
  exact hn hvalue

theorem value_significant (n : ℕ) (exponent : ℤ) :
    (n : ℚ) * (10 : ℚ) ^ exponent =
      Nat.ofDigitChars 10 (significant n) 0 *
        (10 : ℚ) ^ ((Nat.toDigits 10 n).length + exponent - (significant n).length) := by
  obtain ⟨z, hz⟩ := toDigits_eq_significant n
  have hvalue := ofDigitChars_append_zeros (significant n) z
  rw [← hz, Nat.ofDigitChars_ten_toDigits] at hvalue
  have hlen : (Nat.toDigits 10 n).length = (significant n).length + z := by
    rw [hz, List.length_append, zeros, List.length_replicate]
  have hexpo : ((Nat.toDigits 10 n).length : ℤ) + exponent - (significant n).length =
      z + exponent := by
    rw [hlen]
    push_cast
    ring
  rw [hexpo, zpow_add₀ (by norm_num), zpow_natCast, mul_left_comm, ← mul_assoc]
  have hcast : (n : ℚ) = 10 ^ z * Nat.ofDigitChars 10 (significant n) 0 := by exact_mod_cast hvalue
  rw [← hcast]

theorem exists_layout_magnitudeText {n : ℕ} (hn : n ≠ 0) (exponent : ℤ) :
    ∃ layout : Layout, magnitudeText n exponent = layout.text ∧
      n * (10 : ℚ) ^ exponent = layout.value := by
  have hdigits := significant_isDigit n
  have hne := significant_ne_nil hn
  rw [value_significant]
  unfold magnitudeText
  dsimp only
  generalize ((Nat.toDigits 10 n).length : ℤ) + exponent = point
  generalize significant n = s at hdigits hne
  have hpos : 0 < s.length := List.length_pos_iff.mpr hne
  have htake : ∀ i, ∀ c ∈ s.take i, c.isDigit = true := fun i c hc =>
    hdigits c (List.mem_of_mem_take hc)
  have hdrop : ∀ i, ∀ c ∈ s.drop i, c.isDigit = true := fun i c hc =>
    hdigits c (List.mem_of_mem_drop hc)
  have htake_ne : ∀ i, 0 < i → s.take i ≠ [] := by
    intro i hi h
    rcases List.take_eq_nil_iff.mp h with hzero | hnil
    · exact absurd hzero hi.ne'
    · exact hne hnil
  split_ifs with hwhole hpoint hsmall
  · -- zeros after the digits
    refine ⟨⟨s ++ zeros (point - s.length).toNat, [], none,
      append_isDigit hdigits (zeros_isDigit _), fun c hc => absurd hc List.not_mem_nil,
      List.append_ne_nil_of_left_ne_nil hne _⟩, (List.append_nil _).symm, ?_⟩
    have hexpo : ((point - s.length).toNat : ℤ) = point - s.length := Int.toNat_of_nonneg (by omega)
    show _ = (Nat.ofDigitChars 10 ((s ++ zeros (point - s.length).toNat) ++ []) 0 : ℚ) *
      (10 : ℚ) ^ (0 - ((0 : ℕ) : ℤ))
    rw [List.append_nil, ofDigitChars_append_zeros, Nat.cast_zero, sub_zero, zpow_zero, mul_one,
      ← hexpo, zpow_natCast, mul_comm]
    push_cast
    rfl
  · -- the point among the digits
    refine ⟨⟨s.take point.toNat, s.drop point.toNat, none, htake _, hdrop _,
      htake_ne _ (by omega)⟩, (List.append_nil _).symm, ?_⟩
    have hexpo : 0 - ((s.drop point.toNat).length : ℤ) = point - s.length := by
      rw [List.length_drop]
      omega
    show _ = (Nat.ofDigitChars 10 (s.take point.toNat ++ s.drop point.toNat) 0 : ℚ) *
      (10 : ℚ) ^ (0 - ((s.drop point.toNat).length : ℤ))
    rw [List.take_append_drop, hexpo]
  · -- zeros before the digits
    refine ⟨⟨['0'], zeros (-point).toNat ++ s, none, zeros_isDigit 1,
      append_isDigit (zeros_isDigit _) hdigits, List.cons_ne_nil _ _⟩,
      (List.append_nil _).symm, ?_⟩
    have hexpo : 0 - ((zeros (-point).toNat ++ s).length : ℤ) = point - s.length := by
      rw [List.length_append, zeros, List.length_replicate]
      omega
    have hvalue : Nat.ofDigitChars 10 (['0'] ++ (zeros (-point).toNat ++ s)) 0 =
        Nat.ofDigitChars 10 s 0 := by
      rw [← List.append_assoc, Nat.ofDigitChars_append, ofDigitChars_append_zeros]
      rfl
    show _ = (Nat.ofDigitChars 10 (['0'] ++ (zeros (-point).toNat ++ s)) 0 : ℚ) *
      (10 : ℚ) ^ (0 - ((zeros (-point).toNat ++ s).length : ℤ))
    rw [hvalue, hexpo]
  · -- an exponent
    refine ⟨⟨s.take 1, s.drop 1, some (point - 1), htake _, hdrop _, htake_ne 1 Nat.one_pos⟩, rfl, ?_⟩
    have hexpo : point - 1 - ((s.drop 1).length : ℤ) = point - s.length := by
      rw [List.length_drop]
      omega
    show _ = (Nat.ofDigitChars 10 (s.take 1 ++ s.drop 1) 0 : ℚ) *
      (10 : ℚ) ^ (point - 1 - ((s.drop 1).length : ℤ))
    rw [List.take_append_drop, hexpo]

theorem readsUnsigned_magnitudeText {n : ℕ} (hn : n ≠ 0) (exponent : ℤ) :
    ReadsUnsigned (magnitudeText n exponent) (n * (10 : ℚ) ^ exponent) := by
  obtain ⟨layout, htext, hvalue⟩ := exists_layout_magnitudeText hn exponent
  rw [htext, hvalue]
  exact layout.reads

theorem readsAs_toText (x : Decimal) : ReadsAs x.toText x.value := by
  unfold Decimal.toText
  split_ifs with hzero hneg
  · refine ⟨⟨0, 0⟩, rfl, ?_⟩
    rw [Decimal.value, Decimal.value, hzero]
    norm_num
  · have h := (readsUnsigned_magnitudeText (Int.natAbs_ne_zero.mpr hzero) x.exponent).neg
    have hvalue : -((x.mantissa.natAbs : ℚ) * (10 : ℚ) ^ x.exponent) = x.value := by
      rw [Decimal.value, ← neg_mul, Nat.cast_natAbs, abs_of_neg hneg]
      push_cast
      rw [neg_neg]
    rwa [hvalue] at h
  · have h := (readsUnsigned_magnitudeText (Int.natAbs_ne_zero.mpr hzero) x.exponent).readsAs
    have hvalue : (x.mantissa.natAbs : ℚ) * (10 : ℚ) ^ x.exponent = x.value := by
      rw [Decimal.value, Nat.cast_natAbs, abs_of_nonneg (not_lt.mp hneg)]
    rwa [hvalue] at h

theorem readsUnsigned_fixedText (n d : ℕ) : ReadsUnsigned (fixedText n d) (n / 10 ^ d) := by
  unfold fixedText
  dsimp only
  have hlayout : ∀ fraction : List Char, (∀ c ∈ fraction, c.isDigit = true) →
      ReadsUnsigned (positional (Nat.toDigits 10 (n / 10 ^ d)) fraction)
        (Nat.ofDigitChars 10 (Nat.toDigits 10 (n / 10 ^ d) ++ fraction) 0 *
          (10 : ℚ) ^ (0 - (fraction.length : ℤ))) := by
    intro fraction hfrac
    have h := (Layout.mk (Nat.toDigits 10 (n / 10 ^ d)) fraction none (toDigits_isDigit _)
      hfrac Nat.toDigits_ne_nil).reads
    unfold Layout.text at h
    rwa [Option.elim_none, List.append_nil] at h
  split_ifs with hd
  · have h := hlayout [] fun c hc => absurd hc List.not_mem_nil
    rw [List.append_nil, Nat.ofDigitChars_ten_toDigits, List.length_nil, Nat.cast_zero, sub_zero,
      zpow_zero, mul_one] at h
    rw [hd, pow_zero, Nat.div_one] at h
    rwa [hd, pow_zero, Nat.div_one, pow_zero, div_one]
  · have hmod : n % 10 ^ d < 10 ^ d := Nat.mod_lt _ (by positivity)
    have hlen : (Nat.toDigits 10 (n % 10 ^ d)).length ≤ d :=
      (Nat.length_toDigits_le_iff (by norm_num) (Nat.pos_of_ne_zero hd)).mpr hmod
    have h := hlayout _ (append_isDigit
      (zeros_isDigit (d - (Nat.toDigits 10 (n % 10 ^ d)).length)) (toDigits_isDigit (n % 10 ^ d)))
    have hdigits : Nat.ofDigitChars 10 (Nat.toDigits 10 (n / 10 ^ d) ++
        (zeros (d - (Nat.toDigits 10 (n % 10 ^ d)).length) ++ Nat.toDigits 10 (n % 10 ^ d))) 0 =
        n := by
      rw [← List.append_assoc, Nat.ofDigitChars_append, Nat.ofDigitChars_eq_ofDigitChars_zero,
        ofDigitChars_append_zeros, Nat.ofDigitChars_ten_toDigits, Nat.ofDigitChars_ten_toDigits,
        ← mul_assoc, ← pow_add, Nat.add_sub_cancel' hlen, Nat.div_add_mod]
    have hfrac : (zeros (d - (Nat.toDigits 10 (n % 10 ^ d)).length) ++
        Nat.toDigits 10 (n % 10 ^ d)).length = d := by
      rw [List.length_append, zeros, List.length_replicate, Nat.sub_add_cancel hlen]
    rwa [hdigits, hfrac, zero_sub, zpow_neg, zpow_natCast, ← div_eq_mul_inv] at h

/-- A number rounded to decimals, unless it is so large that it is printed as it is. -/
def roundTo (d : ℕ) (x : ℚ) : ℚ :=
  if 10 ^ 21 ≤ x then x else ⌊x * 10 ^ d + 1 / 2⌋ / 10 ^ d

theorem toFixed_spec {x : Decimal} {fractionDigits : ℤ} (hx : 0 ≤ x.value)
    (hlower : 0 ≤ fractionDigits) (hupper : fractionDigits ≤ 100) :
    ∃ text, toFixedText x fractionDigits = .ok text ∧
      ReadsAs text (roundTo fractionDigits.toNat x.value) := by
  unfold toFixedText roundTo
  rw [if_neg (by omega), abs_of_nonneg hx]
  split_ifs with hlarge hneg
  · exact ⟨_, rfl, readsAs_toText x⟩
  · exact absurd hneg (not_lt.mpr hx)
  · refine ⟨_, rfl, ?_⟩
    have h := (readsUnsigned_fixedText
      ⌊x.value * 10 ^ fractionDigits.toNat + 1 / 2⌋₊ fractionDigits.toNat).readsAs
    have hnn : 0 ≤ x.value * 10 ^ fractionDigits.toNat + 1 / 2 := by positivity
    rwa [natCast_floor_eq_intCast_floor hnn] at h

end Printing

/-! ## Rounding twice -/

/-- A number that is printed with `d` decimals as it is. -/
def Fits (d : ℕ) (x : ℚ) : Prop := 10 ^ 21 ≤ x ∨ ∃ n : ℤ, x * 10 ^ d = n

section Rounding

variable {d d' : ℕ} {x base step total : ℚ}

theorem roundTo_of_large (d : ℕ) (h : 10 ^ 21 ≤ x) : roundTo d x = x := if_pos h

theorem roundTo_of_small (d : ℕ) (h : x < 10 ^ 21) :
    roundTo d x = ⌊x * 10 ^ d + 1 / 2⌋ / 10 ^ d := if_neg (not_le.mpr h)

theorem fits_roundTo (d : ℕ) (x : ℚ) : Fits d (roundTo d x) := by
  rcases le_or_gt (10 ^ 21) x with hlarge | hsmall
  · rw [roundTo_of_large d hlarge]
    exact .inl hlarge
  · rw [roundTo_of_small d hsmall]
    exact .inr ⟨_, div_mul_cancel₀ _ (by positivity)⟩

theorem Fits.mono (h : Fits d x) (hle : d ≤ d') : Fits d' x := by
  refine h.imp_right ?_
  rintro ⟨n, hn⟩
  refine ⟨n * 10 ^ (d' - d), ?_⟩
  rw [← Nat.add_sub_cancel' hle, pow_add, ← mul_assoc, hn, Nat.add_sub_cancel_left]
  push_cast
  rfl

theorem roundTo_add {n : ℤ} (hn : base * 10 ^ d = n) (hbase : 0 ≤ base) (h : base + step < 10 ^ 21) :
    roundTo d (base + step) = base + roundTo d step := by
  have hstep : step < 10 ^ 21 := lt_of_le_of_lt (le_add_of_nonneg_left hbase) h
  have hfloor : ⌊(base + step) * 10 ^ d + 1 / 2⌋ = n + ⌊step * 10 ^ d + 1 / 2⌋ := by
    rw [add_mul, hn, add_assoc, Int.floor_intCast_add]
  rw [roundTo_of_small d h, roundTo_of_small d hstep, hfloor]
  push_cast
  rw [add_div, ← hn, mul_div_cancel_right₀ _ (by positivity)]

theorem roundTo_zero (d : ℕ) : roundTo d 0 = 0 := by
  have hfloor : ⌊(0 : ℚ) * 10 ^ d + 1 / 2⌋ = 0 := by
    rw [zero_mul, zero_add]
    norm_num
  rw [roundTo_of_small d (by norm_num), hfloor, Int.cast_zero, zero_div]

theorem roundTo_of_fits (hx : 0 ≤ x) (h : Fits d x) : roundTo d x = x := by
  rcases le_or_gt (10 ^ 21) x with hlarge | hsmall
  · exact roundTo_of_large d hlarge
  · obtain ⟨n, hn⟩ := h.resolve_left (not_le.mpr hsmall)
    have hadd := @roundTo_add d x 0 n hn hx (by rwa [add_zero])
    rwa [roundTo_zero, add_zero] at hadd

theorem roundTo_nonneg (d : ℕ) (hx : 0 ≤ x) : 0 ≤ roundTo d x := by
  unfold roundTo
  split_ifs
  · exact hx
  · have hfloor : 0 ≤ ⌊x * 10 ^ d + 1 / 2⌋ := Int.floor_nonneg.mpr (by positivity)
    exact div_nonneg (Int.cast_nonneg hfloor) (by positivity)

theorem fits_of_roundTo_roundTo (htotal : 0 ≤ total) (h : roundTo d' (roundTo d total) = x) :
    Fits d x ∧ Fits d' x := by
  have hfits : Fits d' x := h ▸ fits_roundTo d' _
  rcases le_total d d' with hle | hle
  · have hfirst := fits_roundTo d total
    have hkept := roundTo_of_fits (roundTo_nonneg d htotal) (hfirst.mono hle)
    rw [hkept] at h
    exact ⟨h ▸ hfirst, hfits⟩
  · exact ⟨hfits.mono hle, hfits⟩

theorem roundTo_roundTo_eq_self_iff (hx : 0 ≤ x) :
    roundTo d' (roundTo d x) = x ↔ Fits d x ∧ Fits d' x := by
  constructor
  · exact fits_of_roundTo_roundTo hx
  · rintro ⟨hfirst, hsec⟩
    rw [roundTo_of_fits hx hfirst, roundTo_of_fits hx hsec]

theorem add_lt_of_roundTo_eq_zero {n : ℤ} (hn : base * 10 ^ d = n) (hbase : base < 10 ^ 21)
    (h : roundTo d x = 0) : base + x < 10 ^ 21 := by
  have hscale : (0 : ℚ) < 10 ^ d := by positivity
  have hsmall : x < 10 ^ 21 := by
    by_contra hlarge
    rw [roundTo_of_large d (not_lt.mp hlarge)] at h
    linarith
  have hhalf : x * 10 ^ d < 1 / 2 := by
    rw [roundTo_of_small d hsmall, div_eq_zero_iff, or_iff_left hscale.ne', Int.cast_eq_zero] at h
    have hfloor := Int.lt_floor_add_one (x * 10 ^ d + 1 / 2)
    rw [h, Int.cast_zero] at hfloor
    linarith
  have hnext : (n : ℚ) + 1 ≤ 10 ^ 21 * 10 ^ d := by
    have hlt : (n : ℚ) < 10 ^ 21 * 10 ^ d := by
      rw [← hn]
      exact mul_lt_mul_of_pos_right hbase hscale
    have hint : n < 10 ^ 21 * 10 ^ d := by exact_mod_cast hlt
    exact_mod_cast hint
  refine lt_of_mul_lt_mul_right ?_ hscale.le
  rw [add_mul, hn]
  linarith

theorem roundTo_roundTo_add_eq_iff (hbase : 0 ≤ base) (hstep : 0 < step) :
    roundTo d' (roundTo d (base + step)) = base ↔
      (Fits d base ∧ Fits d' base) ∧ base + step < 10 ^ 21 ∧ roundTo d' (roundTo d step) = 0 := by
  have hrnd := roundTo_nonneg d hstep.le
  constructor
  · intro h
    have hfits := fits_of_roundTo_roundTo (add_nonneg hbase hstep.le) h
    have hsmall : base + step < 10 ^ 21 := by
      by_contra hlarge
      rw [roundTo_of_large d (not_lt.mp hlarge), roundTo_of_large d' (not_lt.mp hlarge)] at h
      linarith
    refine ⟨hfits, hsmall, ?_⟩
    have hbase' : base < 10 ^ 21 := by linarith
    obtain ⟨n, hn⟩ := hfits.1.resolve_left (not_le.mpr hbase')
    obtain ⟨_, hn'⟩ := hfits.2.resolve_left (not_le.mpr hbase')
    rw [roundTo_add hn hbase hsmall] at h
    rcases le_or_gt (10 ^ 21) (base + roundTo d step) with hlarge | hlt
    · rw [roundTo_of_large d' hlarge, add_eq_left] at h
      rw [h, roundTo_zero]
    · rwa [roundTo_add hn' hbase hlt, add_eq_left] at h
  · rintro ⟨⟨hfirst, hsec⟩, hsmall, hzero⟩
    have hbase' : base < 10 ^ 21 := by linarith
    obtain ⟨n, hn⟩ := hfirst.resolve_left (not_le.mpr hbase')
    obtain ⟨_, hn'⟩ := hsec.resolve_left (not_le.mpr hbase')
    rw [roundTo_add hn hbase hsmall]
    have hlt := add_lt_of_roundTo_eq_zero hn' hbase' hzero
    rw [roundTo_add hn' hbase hlt, hzero, add_zero]

end Rounding

end Js
