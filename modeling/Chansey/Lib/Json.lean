import Mathlib.Data.List.Basic
import Mathlib.Tactic.IntervalCases

/-!
# The text of a value

Values as `JSON.stringify` prints them: no blanks, members in the order of the object, strings with
the escapes of the language. Numbers are kept as the text they print as.

* **`Json.chars_cancel`**: a text followed by what may follow it determines the value.
  **`Json.chars_injective`**.
* `UtcDate`, `UtcDate.chars`: an instant by its calendar fields, as `toISOString` prints it.
  **`UtcDate.chars_injective`**.
-/

/-! ## Values -/

def isNumeric (c : Char) : Bool :=
  c.isDigit || c = '-' || c = '+' || c = '.' || c = 'e'

structure NumberText where
  chars : List Char
  ne_nil : chars ≠ []
  numeric : ∀ c ∈ chars, isNumeric c = true

instance : DecidableEq NumberText := fun m n =>
  decidable_of_iff (m.chars = n.chars) ⟨fun h => by cases m; cases n; cases h; rfl, fun h => by rw [h]⟩

inductive Json where
  | null
  | bool (value : Bool)
  | number (value : NumberText)
  | string (value : String)
  | array (elements : List Json)
  | object (members : List (String × Json))

def hexDigit (n : ℕ) : Char := (['0', '1', '2', '3', '4', '5', '6', '7', '8', '9', 'a', 'b', 'c',
  'd', 'e', 'f'] : List Char).getD n '0'

def controlEscape (n : ℕ) : List Char :=
  if n = 8 then ['b']
  else if n = 9 then ['t']
  else if n = 10 then ['n']
  else if n = 12 then ['f']
  else if n = 13 then ['r']
  else ['u', '0', '0', hexDigit (n / 16), hexDigit (n % 16)]

def escapeChar (c : Char) : List Char :=
  if c = '"' then ['\\', '"']
  else if c = '\\' then ['\\', '\\']
  else if c.toNat < 32 then '\\' :: controlEscape c.toNat
  else [c]

def quoteChars (cs : List Char) : List Char := '"' :: (cs.flatMap escapeChar ++ ['"'])

mutual

/-- `JSON.stringify` -/
def Json.chars : Json → List Char
  | .null => ['n', 'u', 'l', 'l']
  | .bool true => ['t', 'r', 'u', 'e']
  | .bool false => ['f', 'a', 'l', 's', 'e']
  | .number value => value.chars
  | .string value => quoteChars value.toList
  | .array [] => ['[', ']']
  | .array (x :: xs) => '[' :: (x.chars ++ elementsChars xs)
  | .object [] => ['{', '}']
  | .object ((k, v) :: ms) => '{' :: (quoteChars k.toList ++ ':' :: (v.chars ++ membersChars ms))

def elementsChars : List Json → List Char
  | [] => [']']
  | x :: xs => ',' :: (x.chars ++ elementsChars xs)

def membersChars : List (String × Json) → List Char
  | [] => ['}']
  | (k, v) :: ms => ',' :: (quoteChars k.toList ++ ':' :: (v.chars ++ membersChars ms))

end

def Json.stringify (value : Json) : String := String.ofList value.chars

/-! ## Strings -/

def controlOf : List Char → Option (ℕ × List Char)
  | 'b' :: rest => some (8, rest)
  | 't' :: rest => some (9, rest)
  | 'n' :: rest => some (10, rest)
  | 'f' :: rest => some (12, rest)
  | 'r' :: rest => some (13, rest)
  | 'u' :: '0' :: '0' :: a :: b :: rest =>
    some (16 * (if a = '1' then 1 else 0) +
      (['0', '1', '2', '3', '4', '5', '6', '7', '8', '9', 'a', 'b', 'c', 'd', 'e', 'f'] :
        List Char).idxOf b, rest)
  | _ => none

theorem controlOf_controlEscape {n : ℕ} (h : n < 32) (rest : List Char) :
    controlOf (controlEscape n ++ rest) = some (n, rest) := by
  interval_cases n <;> rfl

theorem controlEscape_eq_cons {n : ℕ} (h : n < 32) :
    ∃ c rest, controlEscape n = c :: rest ∧ c ≠ '"' ∧ c ≠ '\\' := by
  interval_cases n <;> exact ⟨_, _, rfl, by decide, by decide⟩

theorem escapeChar_eq_cons (c : Char) : ∃ d rest, escapeChar c = d :: rest ∧ d ≠ '"' := by
  unfold escapeChar
  split
  · exact ⟨_, _, rfl, by decide⟩
  · rename_i hquote
    split
    · exact ⟨_, _, rfl, by decide⟩
    · split
      · exact ⟨_, _, rfl, by decide⟩
      · exact ⟨_, _, rfl, hquote⟩

def readEscape : List Char → Option (Char × List Char)
  | [] => none
  | c :: rest =>
    if c = '"' ∨ c = '\\' then some (c, rest)
    else (controlOf (c :: rest)).map fun read => (Char.ofNat read.1, read.2)

def readChar : List Char → Option (Char × List Char)
  | [] => none
  | c :: rest => if c = '\\' then readEscape rest else some (c, rest)

theorem readChar_escapeChar (c : Char) (rest : List Char) :
    readChar (escapeChar c ++ rest) = some (c, rest) := by
  unfold escapeChar
  split
  · rename_i hquote
    rw [hquote]
    rfl
  · split
    · rename_i hbackslash
      rw [hbackslash]
      rfl
    · rename_i hbackslash
      split
      · rename_i hcontrol
        have hread := controlOf_controlEscape hcontrol rest
        obtain ⟨d, tail, hescape, hquote, hslash⟩ := controlEscape_eq_cons hcontrol
        rw [hescape, List.cons_append] at hread
        rw [hescape, List.cons_append, List.cons_append, readChar, if_pos rfl, readEscape,
          if_neg (by simp [hquote, hslash]), hread, Option.map_some, Char.ofNat_toNat]
      · rw [List.singleton_append, readChar, if_neg hbackslash]

theorem quoteChars_cancel {cs ds r r' : List Char}
    (h : quoteChars cs ++ r = quoteChars ds ++ r') : cs = ds ∧ r = r' := by
  unfold quoteChars at h
  simp only [List.cons_append, List.append_assoc, List.cons.injEq, true_and, List.nil_append] at h
  induction cs generalizing ds with
  | nil =>
    cases ds with
    | nil => exact ⟨rfl, (List.cons.inj h).2⟩
    | cons d =>
      obtain ⟨e, _, hescape, hne⟩ := escapeChar_eq_cons d
      rw [List.flatMap_cons, hescape] at h
      exact absurd (List.cons.inj h).1.symm hne
  | cons c cs ih =>
    cases ds with
    | nil =>
      obtain ⟨e, _, hescape, hne⟩ := escapeChar_eq_cons c
      rw [List.flatMap_cons, hescape] at h
      exact absurd (List.cons.inj h).1 hne
    | cons =>
      rw [List.flatMap_cons, List.flatMap_cons, List.append_assoc, List.append_assoc] at h
      have hread := congrArg readChar h
      rw [readChar_escapeChar, readChar_escapeChar, Option.some_inj, Prod.mk.injEq] at hread
      obtain ⟨rfl, hrest⟩ := hread
      obtain ⟨rfl, hr⟩ := ih hrest
      exact ⟨rfl, hr⟩

/-! ## Numbers -/

/-- No number goes on with what follows. -/
def Delimited (rest : List Char) : Prop := ∀ c ∈ rest.head?, isNumeric c = false

theorem numeric_cancel {cs ds r r' : List Char} (hcs : ∀ c ∈ cs, isNumeric c = true)
    (hds : ∀ d ∈ ds, isNumeric d = true) (hr : Delimited r) (hr' : Delimited r')
    (h : cs ++ r = ds ++ r') : cs = ds ∧ r = r' := by
  induction cs generalizing ds with
  | nil =>
    cases ds with
    | nil => exact ⟨rfl, h⟩
    | cons d =>
      have hnot : isNumeric d = false := hr d (by rw [List.nil_append] at h; rw [h]; rfl)
      rw [hds d List.mem_cons_self] at hnot
      cases hnot
  | cons c cs ih =>
    cases ds with
    | nil =>
      have hnot : isNumeric c = false := hr' c (by rw [List.nil_append] at h; rw [← h]; rfl)
      rw [hcs c List.mem_cons_self] at hnot
      cases hnot
    | cons d =>
      obtain ⟨rfl, hrest⟩ := List.cons.inj h
      obtain ⟨rfl, hr⟩ := ih (fun c hc => hcs c (List.mem_cons_of_mem _ hc))
        (fun d hd => hds d (List.mem_cons_of_mem _ hd)) hrest
      exact ⟨rfl, hr⟩

/-! ## Values are told apart by how they begin -/

inductive JsonKind where
  | null | true | false | number | string | array | object | none
  deriving DecidableEq

def kindOf (c : Char) : JsonKind :=
  if c = 'n' then .null
  else if c = 't' then .true
  else if c = 'f' then .false
  else if c = '"' then .string
  else if c = '[' then .array
  else if c = '{' then .object
  else if isNumeric c then .number
  else .none

def Json.kind : Json → JsonKind
  | .null => .null
  | .bool true => .true
  | .bool false => .false
  | .number _ => .number
  | .string _ => .string
  | .array _ => .array
  | .object _ => .object

theorem kindOf_numeric {c : Char} (h : isNumeric c = true) : kindOf c = .number := by
  have hne : ∀ d, isNumeric d = false → c ≠ d := by
    rintro d hd rfl
    rw [h] at hd
    cases hd
  unfold kindOf
  rw [if_neg (hne 'n' (by decide)), if_neg (hne 't' (by decide)), if_neg (hne 'f' (by decide)),
    if_neg (hne '"' (by decide)), if_neg (hne '[' (by decide)), if_neg (hne '{' (by decide)),
    if_pos h]

theorem Json.chars_eq_cons (v : Json) : ∃ c rest, v.chars = c :: rest ∧ kindOf c = v.kind := by
  cases v with
  | null => exact ⟨_, _, by rw [Json.chars], by decide⟩
  | bool b => cases b <;> exact ⟨_, _, by rw [Json.chars], by decide⟩
  | number n =>
    obtain ⟨c, rest, hchars⟩ := List.exists_cons_of_ne_nil n.ne_nil
    refine ⟨c, rest, by rw [Json.chars, hchars], kindOf_numeric (n.numeric c ?_)⟩
    rw [hchars]
    exact List.mem_cons_self
  | string => exact ⟨_, _, by rw [Json.chars, quoteChars], rfl⟩
  | array xs => cases xs <;> exact ⟨_, _, by rw [Json.chars], rfl⟩
  | object ms => rcases ms with _ | ⟨⟨k, v⟩, ms⟩ <;> exact ⟨_, _, by rw [Json.chars], rfl⟩

variable {v w : Json} {r r' : List Char}

theorem Json.kind_eq (h : v.chars ++ r = w.chars ++ r') : v.kind = w.kind := by
  obtain ⟨c, _, hv, hkind⟩ := v.chars_eq_cons
  obtain ⟨d, _, hw, hkind'⟩ := w.chars_eq_cons
  rw [hv, hw] at h
  rw [← hkind, ← hkind', (List.cons.inj h).1]

theorem Json.chars_ne_close {v : Json} {c : Char} (hc : kindOf c = .none)
    (h : v.chars ++ r = c :: r') : False := by
  obtain ⟨d, _, hv, hkind⟩ := v.chars_eq_cons
  rw [hv] at h
  rw [(List.cons.inj h).1, hc] at hkind
  rcases v with _ | b | _ | _ | _ | _
  · cases hkind
  · cases b <;> cases hkind
  all_goals cases hkind

/-! ## The text determines the value -/

theorem delimited_elements (xs : List Json) (r : List Char) : Delimited (elementsChars xs ++ r) := by
  cases xs <;> simp [Delimited, elementsChars, isNumeric]

theorem delimited_members (ms : List (String × Json)) (r : List Char) :
    Delimited (membersChars ms ++ r) := by
  rcases ms with _ | ⟨⟨k, v⟩, ms⟩ <;> simp [Delimited, membersChars, isNumeric]

mutual

theorem Json.chars_cancel : ∀ (v w : Json) {r r' : List Char}, Delimited r → Delimited r' →
    v.chars ++ r = w.chars ++ r' → v = w ∧ r = r'
  | .null, w, r, r', _, _, h => by
    have hkind := Json.kind_eq h
    cases w with
    | null => exact ⟨rfl, List.append_cancel_left h⟩
    | bool b => cases b <;> cases hkind
    | _ => cases hkind
  | .bool b, w, r, r', _, _, h => by
    have hkind := Json.kind_eq h
    cases w with
    | bool b' =>
      cases b <;> cases b' <;> first
        | exact ⟨rfl, List.append_cancel_left h⟩
        | cases hkind
    | _ => cases b <;> cases hkind
  | .number n, w, r, r', hr, hr', h => by
    have hkind := Json.kind_eq h
    cases w with
    | number m =>
      rw [Json.chars, Json.chars] at h
      obtain ⟨hchars, hrest⟩ := numeric_cancel n.numeric m.numeric hr hr' h
      refine ⟨congrArg Json.number ?_, hrest⟩
      cases n
      cases m
      cases hchars
      rfl
    | bool b => cases b <;> cases hkind
    | _ => cases hkind
  | .string s, w, r, r', _, _, h => by
    have hkind := Json.kind_eq h
    cases w with
    | string =>
      rw [Json.chars, Json.chars] at h
      obtain ⟨hchars, hrest⟩ := quoteChars_cancel h
      exact ⟨congrArg Json.string (String.toList_inj.mp hchars), hrest⟩
    | bool b => cases b <;> cases hkind
    | _ => cases hkind
  | .array [], w, r, r', _, _, h => by
    have hkind := Json.kind_eq h
    cases w with
    | array ys =>
      cases ys with
      | nil => exact ⟨rfl, List.append_cancel_left h⟩
      | cons =>
        rw [Json.chars, Json.chars] at h
        simp only [List.cons_append, List.append_assoc] at h
        exact (Json.chars_ne_close (by decide) (List.cons.inj h).2.symm).elim
    | bool b => cases b <;> cases hkind
    | _ => cases hkind
  | .array (x :: xs), w, r, r', _, _, h => by
    have hkind := Json.kind_eq h
    cases w with
    | array ys =>
      cases ys with
      | nil =>
        rw [Json.chars, Json.chars] at h
        simp only [List.cons_append, List.append_assoc] at h
        exact (Json.chars_ne_close (by decide) (List.cons.inj h).2).elim
      | cons y ys =>
        have helements : elementsChars (x :: xs) ++ r = elementsChars (y :: ys) ++ r' :=
          congrArg (',' :: ·) (List.cons.inj h).2
        obtain ⟨hsame, hr⟩ := elementsChars_cancel (x :: xs) (y :: ys) helements
        exact ⟨congrArg Json.array hsame, hr⟩
    | bool b => cases b <;> cases hkind
    | _ => cases hkind
  | .object [], w, r, r', _, _, h => by
    have hkind := Json.kind_eq h
    cases w with
    | object ns =>
      rcases ns with _ | ⟨⟨l, w⟩, _⟩
      · exact ⟨rfl, List.append_cancel_left h⟩
      · rw [Json.chars, Json.chars] at h
        exact absurd (List.cons.inj (List.cons.inj h).2).1 (by decide)
    | bool b => cases b <;> cases hkind
    | _ => cases hkind
  | .object ((k, v) :: ms), w, r, r', _, _, h => by
    have hkind := Json.kind_eq h
    cases w with
    | object ns =>
      rcases ns with _ | ⟨⟨l, w⟩, ns⟩
      · rw [Json.chars, Json.chars] at h
        exact absurd (List.cons.inj (List.cons.inj h).2).1 (by decide)
      · have hmembers : membersChars ((k, v) :: ms) ++ r = membersChars ((l, w) :: ns) ++ r' :=
          congrArg (',' :: ·) (List.cons.inj h).2
        obtain ⟨hsame, hr⟩ := membersChars_cancel ((k, v) :: ms) ((l, w) :: ns) hmembers
        exact ⟨congrArg Json.object hsame, hr⟩
    | bool b => cases b <;> cases hkind
    | _ => cases hkind

theorem elementsChars_cancel : ∀ (xs ys : List Json) {r r' : List Char},
    elementsChars xs ++ r = elementsChars ys ++ r' → xs = ys ∧ r = r'
  | [], ys, r, r', h => by
    cases ys with
    | nil => exact ⟨rfl, List.append_cancel_left h⟩
    | cons =>
      rw [elementsChars, elementsChars] at h
      exact absurd (List.cons.inj h).1 (by decide)
  | x :: xs, ys, r, r', h => by
    cases ys with
    | nil =>
      rw [elementsChars, elementsChars] at h
      exact absurd (List.cons.inj h).1 (by decide)
    | cons y ys =>
      rw [elementsChars, elementsChars, List.cons_append, List.cons_append, List.append_assoc,
        List.append_assoc] at h
      obtain ⟨rfl, hrest⟩ := Json.chars_cancel x y (delimited_elements xs r)
        (delimited_elements ys r') (List.cons.inj h).2
      obtain ⟨rfl, hr⟩ := elementsChars_cancel xs ys hrest
      exact ⟨rfl, hr⟩

theorem membersChars_cancel : ∀ (ms ns : List (String × Json)) {r r' : List Char},
    membersChars ms ++ r = membersChars ns ++ r' → ms = ns ∧ r = r'
  | [], ns, r, r', h => by
    rcases ns with _ | ⟨⟨l, w⟩, _⟩
    · exact ⟨rfl, List.append_cancel_left h⟩
    · rw [membersChars, membersChars] at h
      exact absurd (List.cons.inj h).1 (by decide)
  | (k, v) :: ms, ns, r, r', h => by
    rcases ns with _ | ⟨⟨l, w⟩, ns⟩
    · rw [membersChars, membersChars] at h
      exact absurd (List.cons.inj h).1 (by decide)
    · rw [membersChars, membersChars, List.cons_append, List.cons_append, List.append_assoc,
        List.append_assoc, List.cons_append, List.cons_append, List.append_assoc,
        List.append_assoc] at h
      obtain ⟨hkey, hvalue⟩ := quoteChars_cancel (List.cons.inj h).2
      obtain ⟨rfl, hrest⟩ := Json.chars_cancel v w (delimited_members ms r)
        (delimited_members ns r') (List.cons.inj hvalue).2
      obtain ⟨rfl, hr⟩ := membersChars_cancel ms ns hrest
      obtain rfl := String.toList_inj.mp hkey
      exact ⟨rfl, hr⟩

end

theorem Json.chars_injective (h : v.chars = w.chars) : v = w := by
  have hdelimited : Delimited [] := fun c hc => by cases hc
  exact (Json.chars_cancel v w hdelimited hdelimited (congrArg (· ++ []) h)).1

theorem Json.stringify_injective (h : v.stringify = w.stringify) : v = w :=
  Json.chars_injective (by simpa [Json.stringify] using congrArg String.toList h)

/-! ## Dates -/

/-- An instant of a year before 10000, by its fields in coordinated universal time. Months and days
count from zero. -/
structure UtcDate where
  year : Fin 10000
  month : Fin 12
  day : Fin 31
  hour : Fin 24
  minute : Fin 60
  second : Fin 60
  millisecond : Fin 1000

/-- The last `width` digits of a number. -/
def padded : ℕ → ℕ → List Char
  | 0, _ => []
  | width + 1, n => padded width (n / 10) ++ [hexDigit (n % 10)]

theorem padded_length (width n : ℕ) : (padded width n).length = width := by
  induction width generalizing n with
  | zero => rfl
  | succ width ih => rw [padded, List.length_append, ih, List.length_singleton]

theorem hexDigit_injective {m n : ℕ} (hm : m < 10) (hn : n < 10) (h : hexDigit m = hexDigit n) :
    m = n := by
  interval_cases m <;> interval_cases n <;> first
    | rfl
    | exact absurd h (by decide)

theorem padded_injective {width m n : ℕ} (hm : m < 10 ^ width) (hn : n < 10 ^ width)
    (h : padded width m = padded width n) : m = n := by
  induction width generalizing m n with
  | zero => omega
  | succ width ih =>
    obtain ⟨hinit, hlast⟩ := List.append_inj' h rfl
    have hdigit := hexDigit_injective (Nat.mod_lt m (by omega)) (Nat.mod_lt n (by omega))
      (List.cons.inj hlast).1
    rw [pow_succ] at hm hn
    have hdiv := ih (Nat.div_lt_of_lt_mul (by omega)) (Nat.div_lt_of_lt_mul (by omega)) hinit
    omega

theorem padded_cancel {width m n : ℕ} (hm : m < 10 ^ width) (hn : n < 10 ^ width)
    (h : padded width m ++ r = padded width n ++ r') : m = n ∧ r = r' := by
  obtain ⟨hfield, hrest⟩ := List.append_inj h (by rw [padded_length, padded_length])
  exact ⟨padded_injective hm hn hfield, hrest⟩

/-- `toISOString` -/
def UtcDate.chars (date : UtcDate) : List Char :=
  padded 4 date.year ++ '-' :: (padded 2 ((date.month : ℕ) + 1) ++
    '-' :: (padded 2 ((date.day : ℕ) + 1) ++ 'T' :: (padded 2 date.hour ++
      ':' :: (padded 2 date.minute ++ ':' :: (padded 2 date.second ++
        '.' :: (padded 3 date.millisecond ++ ['Z']))))))

def UtcDate.rank (date : UtcDate) : ℕ :=
  (((((date.year * 12 + date.month) * 31 + date.day) * 24 + date.hour) * 60 + date.minute) * 60 +
    date.second) * 1000 + date.millisecond

def UtcDate.toISOString (date : UtcDate) : String := String.ofList date.chars

theorem UtcDate.chars_injective {d e : UtcDate} (h : d.chars = e.chars) : d = e := by
  obtain ⟨year, _, _, _, _, _, _⟩ := d
  obtain ⟨year', _, _, _, _, _, _⟩ := e
  dsimp only [UtcDate.chars] at h
  obtain ⟨_, h⟩ := padded_cancel year.isLt year'.isLt h
  obtain ⟨_, h⟩ := padded_cancel (by omega) (by omega) (List.cons.inj h).2
  obtain ⟨_, h⟩ := padded_cancel (by omega) (by omega) (List.cons.inj h).2
  obtain ⟨_, h⟩ := padded_cancel (by omega) (by omega) (List.cons.inj h).2
  obtain ⟨_, h⟩ := padded_cancel (by omega) (by omega) (List.cons.inj h).2
  obtain ⟨_, h⟩ := padded_cancel (by omega) (by omega) (List.cons.inj h).2
  obtain ⟨_, -⟩ := padded_cancel (by omega) (by omega) (List.cons.inj h).2
  congr <;> apply Fin.ext <;> omega

theorem UtcDate.toISOString_injective {d e : UtcDate} (h : d.toISOString = e.toISOString) : d = e :=
  UtcDate.chars_injective (by simpa [UtcDate.toISOString] using congrArg String.toList h)
