import Mathlib.Data.List.MinMax
import Mathlib.Data.List.Sort

/-!
# The first of the highest

`List.argmax` picks the first element of the highest rank.
-/

namespace Ranking

variable {α β γ : Type} [LinearOrder γ] {f : α → γ}

theorem argmax_of_split {m : α} {before after : List α} (hbef : ∀ b ∈ before, f b < f m)
    (hafter : ∀ b ∈ after, f b ≤ f m) : (before ++ m :: after).argmax f = some m := by
  induction before with
  | nil =>
    rw [List.nil_append, List.argmax_cons]
    cases hmax : after.argmax f with
    | none => rfl
    | some c => exact if_neg (not_lt.mpr (hafter c (List.argmax_mem hmax)))
  | cons b before ih =>
    rw [List.cons_append, List.argmax_cons, ih fun b hb => hbef b (List.mem_cons_of_mem _ hb)]
    exact if_pos (hbef b List.mem_cons_self)

theorem argmax_eq_some_iff_split {l : List α} {m : α} :
    l.argmax f = some m ↔ ∃ before after, l = before ++ m :: after ∧
      (∀ b ∈ before, f b < f m) ∧ ∀ b ∈ after, f b ≤ f m := by
  constructor
  · intro h
    induction l generalizing m with
    | nil => cases h
    | cons a l ih =>
      rw [List.argmax_cons] at h
      cases hmax : l.argmax f with
      | none =>
        rw [hmax] at h
        cases h
        exact ⟨[], l, rfl, by simp, by simp [List.argmax_eq_none.mp hmax]⟩
      | some =>
        rw [hmax] at h
        dsimp only at h
        split_ifs at h with hlt
        · cases h
          obtain ⟨before, after, hsplit, hbef, hafter⟩ := ih hmax
          refine ⟨a :: before, after, by rw [hsplit, List.cons_append], ?_, hafter⟩
          exact List.forall_mem_cons.mpr ⟨hlt, hbef⟩
        · cases h
          refine ⟨[], l, rfl, by simp, fun b hb => ?_⟩
          exact (List.le_of_mem_argmax hb hmax).trans (not_lt.mp hlt)
  · rintro ⟨_, _, rfl, hbef, hafter⟩
    exact argmax_of_split hbef hafter

theorem argmax_map (f : β → γ) (g : α → β) (l : List α) :
    (l.map g).argmax f = (l.argmax (f ∘ g)).map g := by
  induction l with
  | nil => rfl
  | cons a l ih =>
    rw [List.map_cons, List.argmax_cons, ih, List.argmax_cons]
    cases l.argmax (f ∘ g) with
    | none => rfl
    | some c => exact (apply_ite (Option.map g) (f (g a) < f (g c)) (some c) (some a)).symm

theorem head?_insertionSort (f : α → γ) (l : List α) :
    (l.insertionSort fun a b => f b ≤ f a).head? = l.argmax f := by
  induction l with
  | nil => rfl
  | cons a l ih =>
    rw [List.insertionSort_cons, List.argmax_cons, ← ih]
    cases l.insertionSort (fun a b => f b ≤ f a) with
    | nil => rfl
    | cons b =>
      rw [List.orderedInsert_cons, List.head?_cons]
      by_cases hlt : f a < f b
      · simp [hlt, not_le.mpr hlt]
      · simp [hlt, not_lt.mp hlt]

theorem exists_split_of_filter {p : α → Bool} {l before after : List α} {a : α}
    (h : l.filter p = before ++ a :: after) :
    ∃ l₁ l₂, l = l₁ ++ a :: l₂ ∧ p a = true ∧ ∀ b ∈ l₁, p b = true → b ∈ before := by
  obtain ⟨l₁, _, rfl, rfl, hl₂⟩ := List.filter_eq_append_iff.mp h
  obtain ⟨l₃, l₄, rfl, hnone, hkeep, -⟩ := List.filter_eq_cons_iff.mp hl₂
  refine ⟨l₁ ++ l₃, l₄, by rw [List.append_assoc], hkeep, fun b hb hp => ?_⟩
  rcases List.mem_append.mp hb with hb | hb
  · exact List.mem_filter.mpr ⟨hb, hp⟩
  · exact absurd hp (hnone b hb)

theorem argmax_filter_iff {l : List α} {marked : α → Prop} :
    (∀ m, l.argmax f = some m → marked m) ↔
      ∀ before a after, l = before ++ a :: after → ¬ marked a →
        (∃ b ∈ l, marked b ∧ f a < f b) ∨ ∃ b ∈ before, marked b ∧ f b = f a := by
  constructor
  · rintro h before a after rfl hmark
    cases hmax : (before ++ a :: after).argmax f with
    | none => cases before <;> cases List.argmax_eq_none.mp hmax
    | some m =>
      have hm := h m hmax
      have hmem := List.argmax_mem hmax
      rcases (List.le_of_mem_argmax (by simp : a ∈ before ++ a :: after) hmax).lt_or_eq with
        hlt | heq
      · exact .inl ⟨m, hmem, hm, hlt⟩
      · right
        obtain ⟨_, _, hsplit, hbef', _⟩ := argmax_eq_some_iff_split.mp hmax
        refine ⟨m, ?_, hm, heq.symm⟩
        rcases List.append_eq_append_iff.mp hsplit with ⟨rest, hrest, hrest'⟩ | ⟨rest, rfl, hrest'⟩
        · -- the highest comes after `a`, which it must exceed then
          cases rest with
          | nil =>
            cases hrest'
            exact absurd hm hmark
          | cons =>
            cases hrest'
            exact absurd heq (hbef' a (by simp [hrest])).ne
        · cases rest with
          | nil =>
            cases hrest'
            exact absurd hm hmark
          | cons =>
            cases hrest'
            simp
  · intro h m hmax
    by_contra hmark
    obtain ⟨before, after, rfl, hbef, _⟩ := argmax_eq_some_iff_split.mp hmax
    rcases h before m after rfl hmark with ⟨b, hb, -, hlt⟩ | ⟨b, hb, -, heq⟩
    · exact absurd hlt (not_lt.mpr (List.le_of_mem_argmax hb hmax))
    · exact absurd heq (hbef b hb).ne

theorem exists_first {r : α → α → Prop} (hirrefl : ∀ a, ¬ r a a)
    (htrans : ∀ a b c, r a b → r b c → r a c) {l : List α} (hl : l ≠ []) :
    ∃ a ∈ l, ∀ b ∈ l, ¬ r b a := by
  induction l with
  | nil => exact absurd rfl hl
  | cons a l ih =>
    rcases eq_or_ne l [] with rfl | hl
    · exact ⟨a, List.mem_singleton_self a, by simpa using hirrefl a⟩
    obtain ⟨m, hm, hfirst⟩ := ih hl
    by_cases ham : r a m
    · refine ⟨a, List.mem_cons_self, List.forall_mem_cons.2 ⟨hirrefl a, fun b hb hba => ?_⟩⟩
      exact hfirst b hb (htrans b a m hba ham)
    · exact ⟨m, List.mem_cons_of_mem _ hm, List.forall_mem_cons.2 ⟨ham, hfirst⟩⟩

end Ranking
