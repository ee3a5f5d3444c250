import Chansey.Exchange.SymbolFormatter
import Mathlib.Data.List.DropRight
import Mathlib.Data.Nat.Find

/-!
# Splitting a pair

A pair without a slash, such as `BTCUSDT`, is split where a pattern finds a base and a quote.

* **`inverts_iff`**: splitting inverts joining for `USD`, and for `DAI` after a base whose last
  three or four characters are its only letters in a row long enough for the pattern.
-/

namespace Chansey.PairSplitting

open SymbolFormatter (Text slash_inj)

def upper (text : Text) : Text := text.map Char.toUpper

def isCode (c : Char) : Bool := c.isUpper || c.isDigit

/-- The pattern `[A-Z0-9]{3,}` twice, with `m` characters in the first group. -/
def Splits (text : Text) (m : ℕ) : Prop :=
  ((text.take m).all isCode ∧ 3 ≤ (text.take m).length) ∧
    (text.drop m).all isCode ∧ 3 ≤ (text.drop m).length

instance (text : Text) : DecidablePred (Splits text) := fun m => by
  unfold Splits
  infer_instance

/-- `OrderCalculationService.extractCoinSymbol`: the base and the quote. The first group is greedy. -/
def extractCoinSymbol (marketSymbol : Text) : Text × Text :=
  if '/' ∈ marketSymbol then
    (upper (marketSymbol.takeWhile (· ≠ '/')),
      upper ((marketSymbol.dropWhile (· ≠ '/')).tail.takeWhile (· ≠ '/')))
  else
    let m := Nat.findGreatest (Splits marketSymbol) marketSymbol.length
    if m = 0 then (upper marketSymbol, [])
    else (upper (marketSymbol.take m), upper (marketSymbol.drop m))

/-- The groups `[A-Z]{3,4}` at the start of a text, in the order in which they are tried. -/
def splitHere (text : Text) : Option Text :=
  [(4, 4), (4, 3), (3, 4), (3, 3)].findSome? fun groups =>
    if ((text.take (groups.1 + groups.2)).length = groups.1 + groups.2) ∧
        (text.take (groups.1 + groups.2)).all Char.isUpper then
      some (text.take groups.1 ++ '/' :: text.drop groups.1)
    else none

/-- `symbol.replace(/([A-Z]{3,4})([A-Z]{3,4})/, '$1/$2')` -/
def splitCommon : Text → Text
  | [] => []
  | c :: cs => (splitHere (c :: cs)).getD (c :: splitCommon cs)

/-- `BaseExchangeService.formatSymbol` -/
def formatSymbol (raw : Text) : Text :=
  let symbol := upper raw
  if '/' ∈ symbol then symbol
  else if ['U', 'S', 'D', 'T'] <:+ symbol then
    if 2 ≤ (symbol.rdrop 4).length then symbol.rdrop 4 ++ ['/', 'U', 'S', 'D', 'T']
    else splitCommon symbol
  else if ['U', 'S', 'D'] <:+ symbol then
    if 2 ≤ (symbol.rdrop 3).length then symbol.rdrop 3 ++ ['/', 'U', 'S', 'D']
    else splitCommon symbol
  else splitCommon symbol

/-- A base code: three letters or digits at least. -/
structure Base where
  chars : Text
  long : 3 ≤ chars.length
  alphanum : ∀ c ∈ chars, c.isAlphanum

/-- The quotes that the program trades. -/
inductive Quote where
  | usd
  | usdt
  | usdc
  | busd
  | dai

def Quote.chars : Quote → Text
  | .usd => ['U', 'S', 'D']
  | .usdt => ['U', 'S', 'D', 'T']
  | .usdc => ['U', 'S', 'D', 'C']
  | .busd => ['B', 'U', 'S', 'D']
  | .dai => ['D', 'A', 'I']

/-- **Splitting inverts joining**, in both functions. -/
structure Inverts (base : Base) (quote : Quote) : Prop where
  extract : extractCoinSymbol (base.chars ++ quote.chars) = (base.chars, quote.chars)
  format : formatSymbol (base.chars ++ quote.chars) = base.chars ++ '/' :: quote.chars
  extract_slash : extractCoinSymbol (base.chars ++ '/' :: quote.chars) =
    extractCoinSymbol (base.chars ++ quote.chars)
  format_slash : formatSymbol (base.chars ++ '/' :: quote.chars) =
    formatSymbol (base.chars ++ quote.chars)

/-- The length of the longest row of letters at the start. -/
def letters (text : Text) : ℕ := (text.takeWhile Char.isUpper).length

/-- The base ends in a row of three or four letters, and has no row of six. -/
def ShortTail (text : Text) : Prop :=
  (letters text.reverse = 3 ∨ letters text.reverse = 4) ∧ ∀ s ∈ text.tails, letters s < 6

instance (text : Text) : Decidable (ShortTail text) := by
  unfold ShortTail
  infer_instance

/-! ## The fallback -/

section Fallback

variable {text base : Text}

/-- The first `n` characters are letters exactly when the row of letters is that long. -/
theorem take_all_iff (text : Text) (n : ℕ) :
    ((text.take n).length = n ∧ (text.take n).all Char.isUpper) ↔ n ≤ letters text := by
  induction text generalizing n with
  | nil => cases n <;> simp [letters]
  | cons c text ih =>
    cases n with
    | zero => simp
    | succ n =>
      have hstep := ih n
      unfold letters at hstep ⊢
      by_cases hc : c.isUpper <;> simp_all

theorem splitHere_eq (text : Text) :
    splitHere text =
      if 7 ≤ letters text then some (text.take 4 ++ '/' :: text.drop 4)
      else if 6 ≤ letters text then some (text.take 3 ++ '/' :: text.drop 3)
      else none := by
  simp only [splitHere, take_all_iff, List.findSome?_cons, List.findSome?_nil]
  split_ifs <;> first | rfl | omega

theorem letters_le (text : Text) : letters text ≤ text.length :=
  (List.takeWhile_sublist _).length_le

theorem letters_eq_length : letters text = text.length ↔ text.all Char.isUpper := by
  have hrow := take_all_iff text text.length
  rw [List.take_length, and_iff_right rfl] at hrow
  exact ⟨fun h => hrow.mpr h.ge, fun h => (letters_le text).antisymm (hrow.mp h)⟩

theorem letters_append (text : Text) {more : Text} (h : more.all Char.isUpper) :
    letters (text ++ more) =
      if letters text = text.length then text.length + more.length else letters text := by
  unfold letters
  rw [List.takeWhile_append]
  split_ifs
  · rw [List.length_append, List.takeWhile_eq_self_iff.mpr (List.all_eq_true.mp h)]
  · rfl

theorem cut_iff (hbase : '/' ∉ base) {n : ℕ} (hn : n ≤ base.length + 3) :
    (base ++ ['D', 'A', 'I']).take n ++ '/' :: (base ++ ['D', 'A', 'I']).drop n =
      base ++ '/' :: ['D', 'A', 'I'] ↔ base.length = n := by
  have hall : '/' ∉ base ++ ['D', 'A', 'I'] := by simpa using hbase
  rw [slash_inj (fun h => hall (List.mem_of_mem_take h)) hbase]
  constructor
  · rintro ⟨htake, -⟩
    have hlen := congrArg List.length htake
    rw [List.length_take, List.length_append] at hlen
    simp only [List.length_cons, List.length_nil] at hlen
    omega
  · rintro rfl
    exact ⟨List.take_left, List.drop_left⟩

theorem shortTail_of_all (h : text.all Char.isUpper) :
    ShortTail text ↔ text.length = 3 ∨ text.length = 4 := by
  have htail : letters text.reverse = text.length := by
    rw [letters_eq_length.mpr (by rwa [List.all_reverse]), List.length_reverse]
  rw [ShortTail, htail, and_iff_left_of_imp]
  intro hlen s hs
  have hle := ((List.mem_tails s text).mp hs).length_le
  have := letters_le s
  omega

theorem shortTail_cons {c : Char} (h : ¬ (c :: text).all Char.isUpper) :
    ShortTail (c :: text) ↔ letters (c :: text) < 6 ∧ ShortTail text := by
  have htail : letters (c :: text).reverse = letters text.reverse := by
    unfold letters
    rw [List.reverse_cons, List.takeWhile_append]
    split_ifs with hall
    · -- the rest is letters only, so the first character is none
      have hrest : text.all Char.isUpper := by
        rw [← List.all_reverse]
        exact letters_eq_length.mp hall
      have hc : c.isUpper = false := by simpa [hrest] using h
      rw [List.takeWhile_cons_of_neg (by simp [hc]), List.append_nil]
      exact hall.symm
    · rfl
  rw [ShortTail, ShortTail, htail, List.tails, List.forall_mem_cons]
  exact and_left_comm

theorem splitCommon_iff (hbase : '/' ∉ base) :
    splitCommon (base ++ ['D', 'A', 'I']) = base ++ '/' :: ['D', 'A', 'I'] ↔ ShortTail base := by
  induction base with
  | nil => decide
  | cons c base ih =>
    have ih := ih fun h => hbase (List.mem_cons_of_mem c h)
    have hle := letters_le (c :: base)
    have hfour := @cut_iff (c :: base) hbase 4 (by simp)
    have hthree := @cut_iff (c :: base) hbase 3 (by simp)
    have hrow := @letters_append (c :: base) ['D', 'A', 'I'] (by decide)
    have hquote : (['D', 'A', 'I'] : Text).length = 3 := rfl
    rw [List.cons_append] at hfour hthree hrow ⊢
    rw [splitCommon, splitHere_eq, hrow]
    have hlater : c :: splitCommon (base ++ ['D', 'A', 'I']) =
        c :: base ++ '/' :: ['D', 'A', 'I'] ↔ ShortTail base := by
      rw [List.cons_append, List.cons_inj_right, ih]
    by_cases hall : (c :: base).all Char.isUpper
    · rw [if_pos (letters_eq_length.mpr hall), shortTail_of_all hall]
      rcases lt_trichotomy (c :: base).length 3 with hlen | hlen | hlen
      · -- too short for the pattern here, and further on
        have hrest : base.all Char.isUpper := (Bool.and_eq_true_iff.mp hall).2
        rw [if_neg (by omega), if_neg (by omega), Option.getD_none, hlater, shortTail_of_all hrest]
        rw [List.length_cons] at hlen ⊢
        omega
      · rw [if_neg (by omega), if_pos (by omega), Option.getD_some, hthree]
        omega
      · rw [if_pos (by omega), Option.getD_some, hfour]
        omega
    · have hlt : letters (c :: base) < (c :: base).length :=
        lt_of_le_of_ne hle (letters_eq_length.not.mpr hall)
      rw [if_neg hlt.ne, shortTail_cons hall]
      split_ifs
      · rw [Option.getD_some, hfour]
        omega
      · rw [Option.getD_some, hthree]
        omega
      · rw [Option.getD_none, hlater, and_iff_right (by omega)]

end Fallback

/-! ## The two functions -/

section Joined

variable {text : Text} {base : Base} {quote : Quote}

theorem splits_iff (m : ℕ) : Splits text m ↔ text.all isCode ∧ 3 ≤ m ∧ m + 3 ≤ text.length := by
  have hall : text.all isCode ↔ (text.take m).all isCode ∧ (text.drop m).all isCode := by
    rw [← Bool.and_eq_true_iff, ← List.all_append, List.take_append_drop]
  rw [Splits, hall, List.length_take, List.length_drop]
  constructor
  · rintro ⟨⟨h, _⟩, h', _⟩
    exact ⟨⟨h, h'⟩, by omega, by omega⟩
  · rintro ⟨⟨h, h'⟩, _, _⟩
    exact ⟨⟨h, by omega⟩, h', by omega⟩

theorem greedy_eq (hlen : 6 ≤ text.length) :
    Nat.findGreatest (Splits text) text.length =
      if text.all isCode then text.length - 3 else 0 := by
  split_ifs with hall
  · refine Nat.findGreatest_eq_iff.mpr ⟨by omega, fun _ => ?_, fun m hm _ hsplit => ?_⟩
    · exact (splits_iff _).mpr ⟨hall, by omega, by omega⟩
    · have := ((splits_iff _).mp hsplit).2.2
      omega
  · exact Nat.findGreatest_eq_zero_iff.mpr fun m _ _ hsplit => hall ((splits_iff _).mp hsplit).1

theorem toUpper_of_isCode {c : Char} (h : isCode c) : c.toUpper = c := by
  refine dif_neg ?_
  rintro ⟨hlow, -⟩
  have hup : c.isUpper = decide ('A'.val ≤ c.val ∧ c.val ≤ 'Z'.val) := rfl
  simp only [isCode, hup, Char.isDigit, Bool.or_eq_true, Bool.and_eq_true,
    decide_eq_true_eq, UInt32.le_iff_toNat_le, ge_iff_le] at h hlow
  have hupper : 'Z'.val.toNat = 90 := rfl
  have hdigit : '9'.val.toNat = 57 := rfl
  have hlower : 'a'.val.toNat = 97 := rfl
  omega

theorem upper_of_isCode (h : text.all isCode) : upper text = text :=
  (List.map_congr_left fun c hc => toUpper_of_isCode (List.all_eq_true.mp h c hc)).trans
    (List.map_id text)

theorem isCode_quote (quote : Quote) : quote.chars.all isCode := by
  cases quote <;> decide

theorem slash_of_isCode (h : text.all isCode) : '/' ∉ text := fun hmem =>
  absurd (List.all_eq_true.mp h '/' hmem) (by decide)

theorem slash_joined (base : Base) (quote : Quote) : '/' ∉ base.chars ++ quote.chars := by
  rw [List.mem_append, not_or]
  exact ⟨fun h => absurd (base.alphanum '/' h) (by decide), slash_of_isCode (isCode_quote quote)⟩

theorem isCode_joined (quote : Quote) :
    (base.chars ++ quote.chars).all isCode ↔ base.chars.all isCode := by
  rw [List.all_append, isCode_quote, Bool.and_true]

theorem three_le_quote (quote : Quote) : 3 ≤ quote.chars.length := by
  cases quote <;> decide

theorem extract_iff : extractCoinSymbol (base.chars ++ quote.chars) = (base.chars, quote.chars) ↔
    base.chars.all isCode ∧ quote.chars.length = 3 := by
  have hlen := @List.length_append _ base.chars quote.chars
  have hbase := base.long
  have hquote := three_le_quote quote
  rw [extractCoinSymbol, if_neg (slash_joined base quote)]
  dsimp only
  rw [greedy_eq (by omega)]
  by_cases hall : base.chars.all isCode
  · have hjoined := (isCode_joined quote).mpr hall
    rw [if_pos hjoined, if_neg (by omega), Prod.mk.injEq, and_iff_right hall]
    constructor
    · rintro ⟨htake, -⟩
      have hm := congrArg List.length htake
      rw [upper, List.length_map, List.length_take] at hm
      omega
    · intro hthree
      rw [hlen, hthree, Nat.add_sub_cancel, List.take_left, List.drop_left, upper_of_isCode hall,
        upper_of_isCode (isCode_quote quote)]
      exact ⟨rfl, rfl⟩
  · rw [if_neg ((isCode_joined quote).not.mpr hall), if_pos rfl]
    refine iff_of_false (fun h => ?_) fun h => hall h.1
    have hnil : quote.chars = [] := (congrArg Prod.snd h).symm
    rw [hnil] at hquote
    exact absurd hquote (by decide)

theorem ne_slash (h : '/' ∉ text) : ∀ c ∈ text, decide (c ≠ '/') = true := fun _ hc =>
  decide_eq_true (ne_of_mem_of_not_mem hc h)

theorem extract_slashed (h : base.chars.all isCode) :
    extractCoinSymbol (base.chars ++ '/' :: quote.chars) = (base.chars, quote.chars) := by
  have hbase := ne_slash (slash_of_isCode h)
  have hquote := ne_slash (slash_of_isCode (isCode_quote quote))
  rw [extractCoinSymbol, if_pos (by simp), List.takeWhile_append_of_pos hbase,
    List.dropWhile_append_of_pos hbase, List.takeWhile_cons_of_neg (by simp),
    List.dropWhile_cons_of_neg (by simp), List.append_nil, List.tail_cons,
    List.takeWhile_eq_self_iff.mpr hquote, upper_of_isCode h, upper_of_isCode (isCode_quote quote)]

theorem format_slashed (h : base.chars.all isCode) :
    formatSymbol (base.chars ++ '/' :: quote.chars) = base.chars ++ '/' :: quote.chars := by
  have hupper : upper (base.chars ++ '/' :: quote.chars) = base.chars ++ '/' :: quote.chars := by
    rw [upper, List.map_append, List.map_cons]
    exact congrArg₂ (· ++ ·) (upper_of_isCode h)
      (congrArg ('/' :: ·) (upper_of_isCode (isCode_quote quote)))
  rw [formatSymbol, hupper]
  exact if_pos (by simp)

theorem not_suffix_of_getLast? {f q : Text} (b : Text) (hq : q ≠ []) (hf : f ≠ [])
    (h : f.getLast? ≠ q.getLast?) : ¬ f <:+ b ++ q := by
  rintro ⟨y, hy⟩
  have hlast := congrArg List.getLast? hy
  rw [List.getLast?_append_of_ne_nil _ hf, List.getLast?_append_of_ne_nil _ hq] at hlast
  exact h hlast

theorem format_usd (h : base.chars.all isCode) :
    formatSymbol (base.chars ++ ['U', 'S', 'D']) = base.chars ++ '/' :: ['U', 'S', 'D'] := by
  have hlong := base.long
  have hdrop : (base.chars ++ ['U', 'S', 'D']).rdrop 3 = base.chars := by simp [List.rdrop]
  have hupper : upper (base.chars ++ ['U', 'S', 'D']) = base.chars ++ ['U', 'S', 'D'] :=
    upper_of_isCode ((isCode_joined .usd).mpr h)
  have hslash : '/' ∉ base.chars ++ ['U', 'S', 'D'] := slash_joined base .usd
  rw [formatSymbol, hupper]
  rw [if_neg hslash, if_neg (not_suffix_of_getLast? _ (by decide) (by decide)
    (by decide)), if_pos ⟨_, rfl⟩, hdrop, if_pos (by omega)]

theorem format_dai (h : base.chars.all isCode) :
    formatSymbol (base.chars ++ ['D', 'A', 'I']) = splitCommon (base.chars ++ ['D', 'A', 'I']) := by
  have hupper : upper (base.chars ++ ['D', 'A', 'I']) = base.chars ++ ['D', 'A', 'I'] :=
    upper_of_isCode ((isCode_joined .dai).mpr h)
  have hslash : '/' ∉ base.chars ++ ['D', 'A', 'I'] := slash_joined base .dai
  rw [formatSymbol, hupper]
  rw [if_neg hslash, if_neg (not_suffix_of_getLast? _ (by decide) (by decide)
    (by decide)), if_neg (not_suffix_of_getLast? _ (by decide) (by decide) (by decide))]

/-- **When splitting inverts joining.** -/
theorem inverts_iff (base : Base) (quote : Quote) :
    Inverts base quote ↔ base.chars.all isCode ∧
      (quote = .usd ∨ quote = .dai ∧ ShortTail base.chars) := by
  constructor
  · intro h
    obtain ⟨hall, hlen⟩ := extract_iff.mp h.extract
    refine ⟨hall, ?_⟩
    cases quote with
    | usd => exact .inl rfl
    | dai =>
      refine .inr ⟨rfl, (splitCommon_iff (slash_of_isCode hall)).mp ?_⟩
      exact (format_dai hall).symm.trans h.format
    | _ => exact absurd hlen (by decide)
  · rintro ⟨hall, hquote⟩
    have hformat : formatSymbol (base.chars ++ quote.chars) = base.chars ++ '/' :: quote.chars := by
      obtain rfl | ⟨rfl, htail⟩ := hquote
      · exact format_usd hall
      · exact (format_dai hall).trans ((splitCommon_iff (slash_of_isCode hall)).mpr htail)
    have hextract : extractCoinSymbol (base.chars ++ quote.chars) = (base.chars, quote.chars) := by
      refine extract_iff.mpr ⟨hall, ?_⟩
      obtain rfl | ⟨rfl, -⟩ := hquote <;> rfl
    exact ⟨hextract, hformat, (extract_slashed hall).trans hextract.symm,
      (format_slashed hall).trans hformat.symm⟩

theorem tether_split_wrong :
    ¬ (∀ (base : Base) (quote : Quote), Inverts base quote) ∧
      extractCoinSymbol ['B', 'T', 'C', 'U', 'S', 'D', 'T'] =
        (['B', 'T', 'C', 'U'], ['S', 'D', 'T']) ∧
      formatSymbol ['B', 'T', 'C', 'U', 'S', 'D', 'T'] =
        ['B', 'T', 'C', '/', 'U', 'S', 'D', 'T'] := by
  refine ⟨fun h => ?_, rfl, rfl⟩
  have hext := (h ⟨['B', 'T', 'C'], by decide, List.all_eq_true.mp rfl⟩ .usdt).extract
  exact absurd hext (by decide +kernel)

end Joined

end Chansey.PairSplitting
