import Mathlib.Data.List.Infix
import Mathlib.Tactic.Common

/-!
# Symbols of an exchange

Kraken has codes of its own for some currencies. A symbol `base/quote` is written in them, and read
back, by replacing the parts of the text that look like such a code.
-/

namespace Chansey.SymbolFormatter

abbrev Text := List Char

/-- `text.replace(pattern, replacement)`: the first occurrence, for a replacement without `$`. -/
def replaceFirst (pattern replacement : Text) : Text → Text
  | [] => if pattern = [] then replacement else []
  | c :: cs =>
    if pattern <+: c :: cs then replacement ++ (c :: cs).drop pattern.length
    else c :: replaceFirst pattern replacement cs

def KRAKEN_BASE_ALIASES : List (Text × Text) :=
  [(['X', 'B', 'T'], ['B', 'T', 'C']), (['X', 'D', 'G'], ['D', 'O', 'G', 'E'])]

def KRAKEN_QUOTE_ALIASES : List (Text × Text) := [(['Z', 'U', 'S', 'D'], ['U', 'S', 'D'])]

def KRAKEN_BASE_ALIASES_INVERSE : List (Text × Text) := KRAKEN_BASE_ALIASES.map Prod.swap

def KRAKEN_QUOTE_ALIASES_INVERSE : List (Text × Text) := KRAKEN_QUOTE_ALIASES.map Prod.swap

structure SymbolRules where
  base : List (Text × Text)
  quote : List (Text × Text)

def EXCHANGE_SYMBOL_RULES (exchangeSlug : String) : Option SymbolRules :=
  if exchangeSlug = "kraken" then
    some { base := KRAKEN_BASE_ALIASES_INVERSE, quote := KRAKEN_QUOTE_ALIASES_INVERSE }
  else none

/-- The loops over the rules: each is a code and what replaces it. -/
def convert (base quote : List (Text × Text)) (symbol : Text) : Text :=
  quote.foldl (fun s r => replaceFirst ('/' :: r.1) ('/' :: r.2) s)
    (base.foldl (fun s r => replaceFirst (r.1 ++ ['/']) (r.2 ++ ['/']) s) symbol)

def formatSymbolForExchange (exchangeSlug : String) (symbol : Text) : Text :=
  (EXCHANGE_SYMBOL_RULES exchangeSlug).elim symbol fun rules =>
    convert rules.base rules.quote symbol

def normalizeSymbolFromExchange (exchangeSlug : String) (symbol : Text) : Text :=
  (EXCHANGE_SYMBOL_RULES exchangeSlug).elim symbol fun rules =>
    convert (rules.base.map Prod.swap) (rules.quote.map Prod.swap) symbol

structure Code where
  chars : Text
  noSlash : '/' ∉ chars

def Code.symbol (base quote : Code) : Text := base.chars ++ '/' :: quote.chars

def aliasOf (table : List (Text × Text)) (code : Text) : Text := (table.lookup code).getD code

/-- **The codec is exact** at a pair. -/
structure ExactCodec (base quote : Code) : Prop where
  format : formatSymbolForExchange "kraken" (base.symbol quote) =
    aliasOf KRAKEN_BASE_ALIASES_INVERSE base.chars ++
      '/' :: aliasOf KRAKEN_QUOTE_ALIASES_INVERSE quote.chars
  normalize : base.chars ∉ KRAKEN_BASE_ALIASES.map Prod.fst →
    quote.chars ∉ KRAKEN_QUOTE_ALIASES.map Prod.fst →
      normalizeSymbolFromExchange "kraken"
        (formatSymbolForExchange "kraken" (base.symbol quote)) = base.symbol quote

/-- No code of the tables is a proper end of `base` or a proper start of `quote`; an alias may be
one where the other code is an alias, as such a pair need not be read back. -/
structure CodesApart (base quote : Code) : Prop where
  bases : ∀ r ∈ KRAKEN_BASE_ALIASES_INVERSE, r.1 <:+ base.chars → base.chars = r.1
  quotes : ∀ r ∈ KRAKEN_QUOTE_ALIASES_INVERSE, r.1 <+: quote.chars → quote.chars = r.1
  aliases : base.chars ∉ KRAKEN_BASE_ALIASES.map Prod.fst →
    quote.chars ∉ KRAKEN_QUOTE_ALIASES.map Prod.fst →
      (∀ r ∈ KRAKEN_BASE_ALIASES, ¬ r.1 <:+ base.chars) ∧
        ∀ r ∈ KRAKEN_QUOTE_ALIASES, ¬ r.1 <+: quote.chars

/-! ## Replacement beside a slash -/

section Slash

variable {f t b q : Text}

theorem slash_inj {b' q' : Text} (hb : '/' ∉ b) (hb' : '/' ∉ b') :
    b ++ '/' :: q = b' ++ '/' :: q' ↔ b = b' ∧ q = q' := by
  induction b generalizing b' with
  | nil => cases b' <;> simp_all
  | cons c =>
    cases b' with
    | nil => simpa using fun h : c = '/' => absurd (h ▸ List.mem_cons_self) hb
    | cons => simp_all [and_assoc]

theorem replaceFirst_of_notMem (hf : '/' ∈ f) (h : '/' ∉ b) : replaceFirst f t b = b := by
  induction b with
  | nil => rw [replaceFirst, if_neg (List.ne_nil_of_mem hf)]
  | cons c b ih =>
    rw [List.mem_cons, not_or] at h
    rw [replaceFirst, if_neg fun hpre => ?_, ih h.2]
    exact absurd (hpre.subset hf) (by simpa using h)

def swapSuffix (f t b : Text) : Text :=
  if f <:+ b then b.take (b.length - f.length) ++ t else b

def swapPrefix (f t q : Text) : Text := if f <+: q then t ++ q.drop f.length else q

theorem swapSuffix_append (x : Text) : swapSuffix f t (x ++ f) = x ++ t := by
  simp [swapSuffix]

theorem swapSuffix_of_not (h : ¬ f <:+ b) : swapSuffix f t b = b := if_neg h

theorem swapSuffix_cons {c : Char} (h : f ≠ c :: b) :
    swapSuffix f t (c :: b) = c :: swapSuffix f t b := by
  by_cases hsuf : f <:+ b
  · obtain ⟨x, rfl⟩ := hsuf
    rw [← List.cons_append, swapSuffix_append, swapSuffix_append, List.cons_append]
  · rw [swapSuffix_of_not hsuf, swapSuffix_of_not fun h' =>
      (List.suffix_cons_iff.mp h').elim h hsuf]

theorem prefix_slash (hf : '/' ∉ f) (hb : '/' ∉ b) : f ++ ['/'] <+: b ++ '/' :: q ↔ f = b := by
  constructor
  · rintro ⟨y, hy⟩
    rw [List.append_assoc, List.singleton_append] at hy
    exact ((slash_inj hf hb).mp hy).1
  · rintro rfl
    exact ⟨q, by rw [List.append_assoc, List.singleton_append]⟩

theorem replaceFirst_base (hf : '/' ∉ f) (hb : '/' ∉ b) (hq : '/' ∉ q) :
    replaceFirst (f ++ ['/']) (t ++ ['/']) (b ++ '/' :: q) = swapSuffix f t b ++ '/' :: q := by
  induction b with
  | nil =>
    have hpre : f ++ ['/'] <+: '/' :: q ↔ f = [] := @prefix_slash f [] q hf hb
    rw [List.nil_append, replaceFirst]
    by_cases hnil : f = []
    · subst hnil
      simp [swapSuffix]
    · rw [if_neg (hpre.not.mpr hnil), replaceFirst_of_notMem (by simp) hq,
        swapSuffix_of_not (List.suffix_nil.not.mpr hnil), List.nil_append]
  | cons c b ih =>
    have hpre : f ++ ['/'] <+: c :: (b ++ '/' :: q) ↔ f = c :: b := prefix_slash hf hb
    rw [List.cons_append, replaceFirst]
    by_cases heq : f = c :: b
    · subst heq
      rw [if_pos (hpre.mpr rfl)]
      simp [swapSuffix]
    · rw [if_neg (hpre.not.mpr heq), ih (fun h => hb (List.mem_cons_of_mem c h)),
        swapSuffix_cons heq, List.cons_append]

theorem replaceFirst_quote (hb : '/' ∉ b) (hq : '/' ∉ q) :
    replaceFirst ('/' :: f) ('/' :: t) (b ++ '/' :: q) = b ++ '/' :: swapPrefix f t q := by
  induction b with
  | nil =>
    have hpre : '/' :: f <+: '/' :: q ↔ f <+: q := by simp [List.cons_prefix_cons]
    rw [List.nil_append, replaceFirst, swapPrefix]
    by_cases h : f <+: q
    · rw [if_pos (hpre.mpr h), if_pos h]
      simp
    · rw [if_neg (hpre.not.mpr h), if_neg h, replaceFirst_of_notMem List.mem_cons_self hq,
        List.nil_append]
  | cons c b ih =>
    rw [List.mem_cons, not_or] at hb
    rw [List.cons_append, replaceFirst, if_neg fun h => hb.1 (List.cons_prefix_cons.mp h).1, ih hb.2,
      List.cons_append]

theorem slash_swapSuffix (ht : '/' ∉ t) (hb : '/' ∉ b) : '/' ∉ swapSuffix f t b := by
  unfold swapSuffix
  split_ifs
  · exact fun h => (List.mem_append.mp h).elim (fun h => hb (List.mem_of_mem_take h)) ht
  · exact hb

theorem slash_swapPrefix (ht : '/' ∉ t) (hq : '/' ∉ q) : '/' ∉ swapPrefix f t q := by
  unfold swapPrefix
  split_ifs
  · exact fun h => (List.mem_append.mp h).elim ht fun h => hq (List.mem_of_mem_drop h)
  · exact hq

end Slash

/-! ## The loops -/

section Rules

variable {rules quotes : List (Text × Text)} {b q : Text}

def Slashless (rules : List (Text × Text)) : Prop := ∀ r ∈ rules, '/' ∉ r.1 ∧ '/' ∉ r.2

def swapBase (rules : List (Text × Text)) (b : Text) : Text :=
  rules.foldl (fun b r => swapSuffix r.1 r.2 b) b

def swapQuote (rules : List (Text × Text)) (q : Text) : Text :=
  rules.foldl (fun q r => swapPrefix r.1 r.2 q) q

theorem slash_swapBase (h : Slashless rules) (hb : '/' ∉ b) : '/' ∉ swapBase rules b := by
  induction rules generalizing b with
  | nil => exact hb
  | cons r rules ih =>
    rw [Slashless, List.forall_mem_cons] at h
    exact ih h.2 (slash_swapSuffix h.1.2 hb)

theorem slash_swapQuote (h : Slashless rules) (hq : '/' ∉ q) : '/' ∉ swapQuote rules q := by
  induction rules generalizing q with
  | nil => exact hq
  | cons r rules ih =>
    rw [Slashless, List.forall_mem_cons] at h
    exact ih h.2 (slash_swapPrefix h.1.2 hq)

theorem convert_eq (h : Slashless rules) (h' : Slashless quotes) (hb : '/' ∉ b) (hq : '/' ∉ q) :
    convert rules quotes (b ++ '/' :: q) = swapBase rules b ++ '/' :: swapQuote quotes q := by
  have hbase : rules.foldl (fun s r => replaceFirst (r.1 ++ ['/']) (r.2 ++ ['/']) s)
      (b ++ '/' :: q) = swapBase rules b ++ '/' :: q := by
    clear h'
    induction rules generalizing b with
    | nil => rfl
    | cons r rules ih =>
      rw [Slashless, List.forall_mem_cons] at h
      rw [List.foldl_cons, replaceFirst_base h.1.1 hb hq]
      exact ih h.2 (slash_swapSuffix h.1.2 hb)
  have hb' := slash_swapBase h hb
  rw [convert, hbase]
  clear hbase
  induction quotes generalizing q with
  | nil => rfl
  | cons r quotes ih =>
    rw [Slashless, List.forall_mem_cons] at h'
    rw [List.foldl_cons, replaceFirst_quote hb' hq]
    exact ih h'.2 (slash_swapPrefix h'.1.2 hq)

theorem slash_aliasOf (h : Slashless rules) (hb : '/' ∉ b) : '/' ∉ aliasOf rules b := by
  unfold aliasOf
  induction rules with
  | nil => exact hb
  | cons r rules ih =>
    rw [Slashless, List.forall_mem_cons] at h
    rw [List.lookup_cons]
    cases b == r.1 with
    | true => exact h.1.2
    | false => exact ih h.2

/-- A code that a rule has written is left alone by the rules after it. -/
def Settled (rules : List (Text × Text)) : Prop :=
  (∀ r ∈ rules, r.1 ≠ r.2) ∧ rules.Pairwise fun r r' => ∀ x : Text, ¬ r'.1 <:+ x ++ r.2

theorem swapBase_of_none (h : ∀ r ∈ rules, ¬ r.1 <:+ b) : swapBase rules b = b := by
  induction rules with
  | nil => rfl
  | cons r rules ih =>
    rw [List.forall_mem_cons] at h
    rw [swapBase, List.foldl_cons, swapSuffix_of_not h.1]
    exact ih h.2

theorem swapBase_eq_self_iff (h : Settled rules) :
    swapBase rules b = b ↔ ∀ r ∈ rules, ¬ r.1 <:+ b := by
  refine ⟨fun heq => ?_, swapBase_of_none⟩
  induction rules with
  | nil => exact fun r hr => absurd hr List.not_mem_nil
  | cons r rules ih =>
    obtain ⟨hne, hpair⟩ := h
    rw [List.forall_mem_cons] at hne
    rw [List.pairwise_cons] at hpair
    by_cases hsuf : r.1 <:+ b
    · obtain ⟨x, rfl⟩ := hsuf
      rw [swapBase, List.foldl_cons, swapSuffix_append] at heq
      have hkept : swapBase rules (x ++ r.2) = x ++ r.2 :=
        swapBase_of_none fun r' hr' => hpair.1 r' hr' x
      exact absurd (List.append_cancel_left (hkept.symm.trans heq)).symm hne.1
    · rw [swapBase, List.foldl_cons, swapSuffix_of_not hsuf] at heq
      exact List.forall_mem_cons.mpr ⟨hsuf, ih ⟨hne.2, hpair.2⟩ heq⟩

theorem swapQuote_eq_self_iff {r : Text × Text} (hne : r.1 ≠ r.2) :
    swapQuote [r] q = q ↔ ∀ r' ∈ [r], ¬ r'.1 <+: q := by
  rw [List.forall_mem_singleton, swapQuote, List.foldl_cons, List.foldl_nil, swapPrefix]
  by_cases hpre : r.1 <+: q
  · obtain ⟨y, rfl⟩ := hpre
    rw [if_pos ⟨y, rfl⟩, List.drop_left]
    exact iff_of_false (fun h => hne (List.append_cancel_right h).symm) fun h => h ⟨y, rfl⟩
  · rw [if_neg hpre]
    exact iff_of_true rfl hpre

/-- A code rewritten by a table, where `occurs` says which codes are found in it. -/
theorem alias_iff {table : List (Text × Text)} {swapped code : Text} {occurs : Text → Text → Prop}
    (hself : swapped = code ↔ ∀ r ∈ table, ¬ occurs r.1 code) (hkey : code ∈ table.map Prod.fst →
      swapped = aliasOf table code ∧ ∀ r ∈ table, occurs r.1 code → code = r.1) :
    swapped = aliasOf table code ↔ ∀ r ∈ table, occurs r.1 code → code = r.1 := by
  by_cases hmem : code ∈ table.map Prod.fst
  · exact iff_of_true (hkey hmem).1 (hkey hmem).2
  · have halias : aliasOf table code = code := by
      rw [aliasOf, List.lookup_eq_none_iff.mpr, Option.getD_none]
      exact fun r hr => bne_iff_ne.mpr fun heq => hmem (heq ▸ List.mem_map_of_mem hr)
    rw [halias, hself]
    exact forall₂_congr fun r hr => ⟨fun h hocc => absurd hocc h,
      fun h hocc => hmem (List.mem_map.mpr ⟨r, hr, (h hocc).symm⟩)⟩

end Rules

/-! ## Kraken -/

section Kraken

variable {b q : Text}

theorem slashless_aliases :
    Slashless KRAKEN_BASE_ALIASES ∧ Slashless KRAKEN_QUOTE_ALIASES ∧
      Slashless KRAKEN_BASE_ALIASES_INVERSE ∧ Slashless KRAKEN_QUOTE_ALIASES_INVERSE := by
  unfold Slashless
  decide

theorem settled_aliases : Settled KRAKEN_BASE_ALIASES := by
  refine ⟨by decide, List.pairwise_pair.mpr fun x h => ?_⟩
  obtain ⟨y, hy⟩ := h
  simpa using congrArg List.getLast? hy

theorem settled_inverse : Settled KRAKEN_BASE_ALIASES_INVERSE := by
  refine ⟨by decide, List.pairwise_pair.mpr fun x h => ?_⟩
  obtain ⟨y, hy⟩ := h
  simpa using congrArg List.getLast? hy

theorem base_format_iff : swapBase KRAKEN_BASE_ALIASES_INVERSE b =
    aliasOf KRAKEN_BASE_ALIASES_INVERSE b ↔
      ∀ r ∈ KRAKEN_BASE_ALIASES_INVERSE, r.1 <:+ b → b = r.1 := by
  refine alias_iff (swapBase_eq_self_iff settled_inverse) fun hkey => ?_
  simp only [KRAKEN_BASE_ALIASES_INVERSE, KRAKEN_BASE_ALIASES, List.map_cons, Prod.fst_swap,
    List.map_nil, List.mem_cons, List.not_mem_nil, or_false] at hkey
  rcases hkey with rfl | rfl <;> decide

theorem quote_format_iff : swapQuote KRAKEN_QUOTE_ALIASES_INVERSE q =
    aliasOf KRAKEN_QUOTE_ALIASES_INVERSE q ↔
      ∀ r ∈ KRAKEN_QUOTE_ALIASES_INVERSE, r.1 <+: q → q = r.1 := by
  refine alias_iff (swapQuote_eq_self_iff (by decide)) fun hkey => ?_
  obtain rfl : q = ['U', 'S', 'D'] := List.mem_singleton.mp hkey
  decide

theorem base_back_iff (h : ∀ r ∈ KRAKEN_BASE_ALIASES_INVERSE, r.1 <:+ b → b = r.1) :
    swapBase KRAKEN_BASE_ALIASES (swapBase KRAKEN_BASE_ALIASES_INVERSE b) = b ↔
      ∀ r ∈ KRAKEN_BASE_ALIASES, ¬ r.1 <:+ b := by
  by_cases hkey : b = ['B', 'T', 'C'] ∨ b = ['D', 'O', 'G', 'E']
  · rcases hkey with rfl | rfl <;> decide
  · have hnone : swapBase KRAKEN_BASE_ALIASES_INVERSE b = b := by
      refine swapBase_of_none fun r hr hsuf => hkey ?_
      have hcodes : ∀ r ∈ KRAKEN_BASE_ALIASES_INVERSE,
          r.1 = ['B', 'T', 'C'] ∨ r.1 = ['D', 'O', 'G', 'E'] := by decide
      rw [h r hr hsuf]
      exact hcodes r hr
    rw [hnone]
    exact swapBase_eq_self_iff settled_aliases

theorem quote_back_iff (h : ∀ r ∈ KRAKEN_QUOTE_ALIASES_INVERSE, r.1 <+: q → q = r.1) :
    swapQuote KRAKEN_QUOTE_ALIASES (swapQuote KRAKEN_QUOTE_ALIASES_INVERSE q) = q ↔
      ∀ r ∈ KRAKEN_QUOTE_ALIASES, ¬ r.1 <+: q := by
  by_cases hkey : q = ['U', 'S', 'D']
  · subst hkey
    decide
  · have hnone : swapQuote KRAKEN_QUOTE_ALIASES_INVERSE q = q := by
      refine (swapQuote_eq_self_iff (by decide)).mpr fun r hr hpre => hkey ?_
      rw [h r hr hpre, List.mem_singleton.mp hr]
      rfl
    rw [hnone]
    exact swapQuote_eq_self_iff (by decide)

/-- **The codec is exact exactly at codes that contain no other one at the slash.** -/
theorem exactCodec_iff (base quote : Code) : ExactCodec base quote ↔ CodesApart base quote := by
  obtain ⟨hbases, hquotes, hbasesInv, hquotesInv⟩ := slashless_aliases
  have hb := slash_swapBase hbasesInv base.noSlash
  have hq := slash_swapQuote hquotesInv quote.noSlash
  have hform : formatSymbolForExchange "kraken" (base.symbol quote) =
      swapBase KRAKEN_BASE_ALIASES_INVERSE base.chars ++
        '/' :: swapQuote KRAKEN_QUOTE_ALIASES_INVERSE quote.chars :=
    convert_eq hbasesInv hquotesInv base.noSlash quote.noSlash
  have hnorm : normalizeSymbolFromExchange "kraken"
      (formatSymbolForExchange "kraken" (base.symbol quote)) = base.symbol quote ↔
        swapBase KRAKEN_BASE_ALIASES (swapBase KRAKEN_BASE_ALIASES_INVERSE base.chars) =
            base.chars ∧
          swapQuote KRAKEN_QUOTE_ALIASES (swapQuote KRAKEN_QUOTE_ALIASES_INVERSE quote.chars) =
            quote.chars := by
    rw [hform]
    exact (Eq.congr_left (convert_eq hbases hquotes hb hq)).trans
      (slash_inj (slash_swapBase hbases hb) base.noSlash)
  constructor
  · rintro ⟨hf, hn⟩
    obtain ⟨hfb, hfq⟩ := (slash_inj hb (slash_aliasOf hbasesInv base.noSlash)).mp
      (hform.symm.trans hf)
    have hbase := base_format_iff.mp hfb
    have hquote := quote_format_iff.mp hfq
    refine ⟨hbase, hquote, fun hnb hnq => ?_⟩
    obtain ⟨hbb, hbq⟩ := hnorm.mp (hn hnb hnq)
    exact ⟨(base_back_iff hbase).mp hbb, (quote_back_iff hquote).mp hbq⟩
  · rintro ⟨hbase, hquote, halias⟩
    refine ⟨?_, fun hnb hnq => hnorm.mpr ?_⟩
    · rw [hform, base_format_iff.mpr hbase, quote_format_iff.mpr hquote]
    · obtain ⟨hnob, hnoq⟩ := halias hnb hnq
      exact ⟨(base_back_iff hbase).mpr hnob, (quote_back_iff hquote).mpr hnoq⟩

theorem wrapped_bitcoin_rewritten :
    ¬ (∀ base quote : Code, ExactCodec base quote) ∧
      formatSymbolForExchange "kraken" ['W', 'B', 'T', 'C', '/', 'U', 'S', 'D'] =
        ['W', 'X', 'B', 'T', '/', 'Z', 'U', 'S', 'D'] ∧
      formatSymbolForExchange "kraken" ['B', 'T', 'C', '/', 'U', 'S', 'D', 'T'] =
        ['X', 'B', 'T', '/', 'Z', 'U', 'S', 'D', 'T'] := by
  refine ⟨fun h => ?_, by decide, by decide⟩
  have hfmt := (h ⟨['W', 'B', 'T', 'C'], by decide⟩ ⟨['U', 'S', 'D'], by decide⟩).format
  exact absurd hfmt (by decide)

end Kraken

end Chansey.SymbolFormatter
