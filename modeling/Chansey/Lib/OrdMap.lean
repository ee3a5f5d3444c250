import Mathlib.Data.List.Nodup
import Mathlib.Algebra.BigOperators.Group.List.Basic
import Mathlib.Tactic.Abel

/-!
# Insertion-ordered maps

A map that iterates its entries in the order in which their keys were first inserted. The keys of
the entries are distinct by construction.

* `sumBy`: the sum of a weight over the entries; **`sumBy_set`**, **`sumBy_erase`** and
  `sumBy_map` say what a write does to it.
* **`ofEntries_entries`**, `ofEntries_map`: inserting entries one by one rebuilds the map.
-/

/-- A list of entries with distinct keys, oldest key first. -/
structure OrdMap (κ α : Type) where
  entries : List (κ × α)
  nodup : (entries.map Prod.fst).Nodup

namespace OrdMap

variable {κ α β : Type}

theorem ext_entries {m n : OrdMap κ α} (h : m.entries = n.entries) : m = n := by
  cases m; cases n; cases h; rfl

instance [DecidableEq κ] [DecidableEq α] : DecidableEq (OrdMap κ α) := fun m n =>
  decidable_of_iff (m.entries = n.entries) ⟨ext_entries, fun h => h ▸ rfl⟩

def empty : OrdMap κ α := ⟨[], List.nodup_nil⟩

def keys (m : OrdMap κ α) : List κ := m.entries.map Prod.fst

def size (m : OrdMap κ α) : Nat := m.entries.length

def map (f : κ → α → β) (m : OrdMap κ α) : OrdMap κ β where
  entries := m.entries.map fun e => (e.1, f e.1 e.2)
  nodup := by simpa [Function.comp_def] using m.nodup

def filter (p : κ → α → Bool) (m : OrdMap κ α) : OrdMap κ α where
  entries := m.entries.filter fun e => p e.1 e.2
  nodup := m.nodup.sublist (List.filter_sublist.map _)

@[simp] theorem keys_map (f : κ → α → β) (m : OrdMap κ α) : (m.map f).keys = m.keys := by
  simp [keys, map, Function.comp_def]

theorem filterMap_keys_sublist {f : κ × α → Option β} {key : β → κ}
    (h : ∀ e b, f e = some b → key b = e.1) (es : List (κ × α)) :
    ((es.filterMap f).map key).Sublist (es.map Prod.fst) := by
  induction es with
  | nil => exact List.Sublist.slnil
  | cons e es ih =>
    cases hf : f e with
    | none =>
      rw [List.filterMap_cons_none hf]
      exact ih.cons _
    | some b =>
      rw [List.filterMap_cons_some hf, List.map_cons, List.map_cons, h e b hf]
      exact ih.cons_cons _

theorem nodup_filterMap (m : OrdMap κ α) {f : κ × α → Option β} {key : β → κ}
    (h : ∀ e b, f e = some b → key b = e.1) : ((m.entries.filterMap f).map key).Nodup :=
  m.nodup.sublist (filterMap_keys_sublist h m.entries)

section Access

variable [DecidableEq κ]

def find (k : κ) : List (κ × α) → Option α
  | [] => none
  | e :: es => if e.1 = k then some e.2 else find k es

def get? (m : OrdMap κ α) (k : κ) : Option α := find k m.entries

def has (m : OrdMap κ α) (k : κ) : Bool := (m.get? k).isSome

/-- Replace the value of `k` where it stands, or append it at the end. -/
def put (k : κ) (a : α) : List (κ × α) → List (κ × α)
  | [] => [(k, a)]
  | e :: es => if e.1 = k then (k, a) :: es else e :: put k a es

variable {a : α} {es : List (κ × α)} {k : κ} {m : OrdMap κ α}

theorem mem_keys_put {k k' : κ} (h : k' ∈ (put k a es).map Prod.fst) :
    k' = k ∨ k' ∈ es.map Prod.fst := by
  induction es with
  | nil => simpa [put] using h
  | cons e es ih =>
    unfold put at h
    split_ifs at h with he
    · simp only [List.map_cons, List.mem_cons] at h ⊢
      tauto
    · simp only [List.map_cons, List.mem_cons] at h ⊢
      rcases h with h | h
      · exact .inr (Or.inl h)
      · rcases ih h with h | h <;> tauto

theorem nodup_put (k : κ) (a : α) (h : (es.map Prod.fst).Nodup) :
    ((put k a es).map Prod.fst).Nodup := by
  induction es with
  | nil => simp [put]
  | cons e es ih =>
    simp only [List.map_cons, List.nodup_cons] at h
    unfold put
    split_ifs with he
    · simpa [← he] using h
    · simp only [List.map_cons, List.nodup_cons]
      refine ⟨fun hm => ?_, ih h.2⟩
      rcases mem_keys_put hm with hk | hk
      · exact he hk
      · exact h.1 hk

def set (m : OrdMap κ α) (k : κ) (a : α) : OrdMap κ α := ⟨put k a m.entries, nodup_put k a m.nodup⟩

def erase (m : OrdMap κ α) (k : κ) : OrdMap κ α where
  entries := m.entries.filter fun e => e.1 ≠ k
  nodup := m.nodup.sublist (List.filter_sublist.map _)

/-- Insert entries one by one, first to last. -/
def ofEntries (es : List (κ × α)) : OrdMap κ α := es.foldl (fun m e => m.set e.1 e.2) empty

def ofKeys (f : κ → α) (ks : List κ) : OrdMap κ α := ks.foldl (fun m k => m.set k (f k)) empty

/-! ## Reading after a write -/

theorem find_put (k k' : κ) (a : α) (es : List (κ × α)) :
    find k' (put k a es) = if k = k' then some a else find k' es := by
  induction es with
  | nil => simp [put, find]
  | cons e es ih =>
    unfold put
    split_ifs with he hk hk
    · simp [find, hk]
    · simp [find, hk, he]
    · have : e.1 ≠ k' := fun h => he (h.trans hk.symm)
      rw [find, if_neg this, ih, if_pos hk]
    · rw [find, find, ih, if_neg hk]

theorem get?_set (m : OrdMap κ α) (k k' : κ) (a : α) :
    (m.set k a).get? k' = if k = k' then some a else m.get? k' := find_put k k' a m.entries

@[simp] theorem get?_set_self (m : OrdMap κ α) (k : κ) (a : α) : (m.set k a).get? k = some a := by
  simp [get?_set]

theorem get?_set_of_ne (m : OrdMap κ α) {k k' : κ} (a : α) (h : k ≠ k') :
    (m.set k a).get? k' = m.get? k' := by
  simp [get?_set, h]

theorem find_filter (k k' : κ) (es : List (κ × α)) :
    find k' (es.filter fun e => e.1 ≠ k) = if k = k' then none else find k' es := by
  induction es with
  | nil => simp [find]
  | cons e es ih =>
    by_cases he : e.1 = k
    · rw [List.filter_cons_of_neg (by simpa using he), ih]
      split_ifs with hk
      · rfl
      · have : e.1 ≠ k' := fun h => hk (he.symm.trans h)
        simp [find, this]
    · rw [List.filter_cons_of_pos (by simpa using he)]
      by_cases he' : e.1 = k'
      · have : k ≠ k' := fun h => he (he'.trans h.symm)
        simp [find, he', this]
      · simp only [find, he', if_false, ih]

theorem get?_erase (m : OrdMap κ α) (k k' : κ) :
    (m.erase k).get? k' = if k = k' then none else m.get? k' := find_filter k k' m.entries

@[simp] theorem get?_erase_self (m : OrdMap κ α) (k : κ) : (m.erase k).get? k = none := by
  simp [get?_erase]

theorem get?_erase_of_ne (m : OrdMap κ α) {k k' : κ} (h : k ≠ k') :
    (m.erase k).get? k' = m.get? k' := by
  simp [get?_erase, h]

theorem put_put (k : κ) (a b : α) (es : List (κ × α)) : put k b (put k a es) = put k b es := by
  induction es with
  | nil => simp [put]
  | cons e es ih =>
    by_cases he : e.1 = k
    · simp [put, he]
    · simp [put, he, ih]

theorem set_set (m : OrdMap κ α) (k : κ) (a b : α) : (m.set k a).set k b = m.set k b :=
  ext_entries (put_put k a b m.entries)

theorem filter_put (k : κ) (a : α) (es : List (κ × α)) :
    ((put k a es).filter fun e => e.1 ≠ k) = es.filter fun e => e.1 ≠ k := by
  induction es with
  | nil => simp [put]
  | cons e es ih =>
    by_cases he : e.1 = k
    · simp [put, he]
    · simp only [put, he, if_false, List.filter_cons]
      rw [ih]

theorem erase_set (m : OrdMap κ α) (k : κ) (a : α) : (m.set k a).erase k = m.erase k :=
  ext_entries (filter_put k a m.entries)

@[simp] theorem get?_empty (k : κ) : (empty : OrdMap κ α).get? k = none := rfl

@[simp] theorem get?_map (f : κ → α → β) (m : OrdMap κ α) (k : κ) :
    (m.map f).get? k = (m.get? k).map (f k) := by
  rcases m with ⟨es, hes⟩
  simp only [get?, map]
  clear hes
  induction es with
  | nil => rfl
  | cons e es ih =>
    by_cases he : e.1 = k
    · simp [find, he]
    · simpa [find, he] using ih

/-! ## Entries and reads -/

theorem find_eq_some_iff (h : (es.map Prod.fst).Nodup) : find k es = some a ↔ (k, a) ∈ es := by
  induction es with
  | nil => simp [find]
  | cons e es ih =>
    obtain ⟨k₀, _⟩ := e
    simp only [List.map_cons, List.nodup_cons] at h
    by_cases he : k₀ = k
    · subst he
      have hno : (k₀, a) ∉ es := fun hm => h.1 (List.mem_map_of_mem hm)
      simp [find, hno, eq_comm]
    · simp [find, he, ih h.2, Ne.symm he]

theorem get?_eq_some_iff :
    m.get? k = some a ↔ (k, a) ∈ m.entries := find_eq_some_iff m.nodup

theorem get?_isSome_iff : (m.get? k).isSome ↔ k ∈ m.keys := by
  constructor
  · intro h
    obtain ⟨a, ha⟩ := Option.isSome_iff_exists.mp h
    exact List.mem_map_of_mem (get?_eq_some_iff.mp ha)
  · intro h
    obtain ⟨⟨_, a⟩, he, rfl⟩ := List.mem_map.mp h
    exact Option.isSome_iff_exists.mpr ⟨a, get?_eq_some_iff.mpr he⟩

theorem get?_eq_none_iff : m.get? k = none ↔ k ∉ m.keys := by
  rw [← get?_isSome_iff, Option.not_isSome_iff_eq_none]

theorem ext_get? {m n : OrdMap κ α} (hkeys : m.keys = n.keys) (h : ∀ k, m.get? k = n.get? k) :
    m = n := by
  have hread : ∀ m : OrdMap κ α,
      m.entries.map (fun e => (e.1, some e.2)) = m.keys.map fun k => (k, m.get? k) := by
    intro m
    rw [keys, List.map_map]
    refine List.map_congr_left fun e he => ?_
    rw [Function.comp_apply, get?_eq_some_iff.mpr he]
  have hinj : Function.Injective fun e : κ × α => (e.1, some e.2) := by
    rintro ⟨k, a⟩ ⟨_, _⟩ heq
    simpa using heq
  apply ext_entries
  apply List.map_injective_iff.mpr hinj
  rw [hread, hread, hkeys]
  exact List.map_congr_left fun k _ => by rw [h]

theorem keys_put_of_mem (h : k ∈ es.map Prod.fst) :
    (put k a es).map Prod.fst = es.map Prod.fst := by
  induction es with
  | nil => cases h
  | cons e es ih =>
    unfold put
    split_ifs with he
    · rw [List.map_cons, List.map_cons, he]
    · rw [List.map_cons, List.mem_cons] at h
      rw [List.map_cons, List.map_cons, ih (h.resolve_left fun hk => he hk.symm)]

theorem keys_set_of_get? (b : α) (h : m.get? k = some a) : (m.set k b).keys = m.keys :=
  keys_put_of_mem (List.mem_map_of_mem (get?_eq_some_iff.mp h))

theorem get?_ofKeys (f : κ → α) (ks : List κ) (k : κ) :
    (ofKeys f ks).get? k = if k ∈ ks then some (f k) else none := by
  have key : ∀ m : OrdMap κ α, (ks.foldl (fun m k => m.set k (f k)) m).get? k =
      if k ∈ ks then some (f k) else m.get? k := by
    induction ks with
    | nil => exact fun m => rfl
    | cons k₀ ks ih =>
      intro m
      rw [List.foldl_cons, ih, get?_set]
      by_cases hk : k₀ = k
      · simp [hk]
      · have hne : k ≠ k₀ := fun h => hk h.symm
        simp only [hk, if_false, List.mem_cons, hne, false_or]
  exact key empty

theorem get?_foldl_set (m n : OrdMap κ α) (k : κ) :
    (n.entries.foldl (fun m e => m.set e.1 e.2) m).get? k = (n.get? k).or (m.get? k) := by
  have key : ∀ (es : List (κ × α)) (m : OrdMap κ α), (es.map Prod.fst).Nodup →
      (es.foldl (fun m e => m.set e.1 e.2) m).get? k = (find k es).or (m.get? k) := by
    intro es
    induction es with
    | nil => exact fun m _ => rfl
    | cons e es ih =>
      intro m hnodup
      simp only [List.map_cons, List.nodup_cons] at hnodup
      rw [List.foldl_cons, ih _ hnodup.2, get?_set, find]
      split_ifs with he
      · have hnone : find k es = none := by
          refine Option.eq_none_iff_forall_ne_some.mpr fun a ha => hnodup.1 ?_
          rw [he]
          exact List.mem_map_of_mem ((find_eq_some_iff hnodup.2).mp ha)
        rw [hnone]
        rfl
      · rfl
  exact key n.entries m n.nodup

theorem get?_foldl_eraseIf (p : κ × α → Prop) [DecidablePred p] (m : OrdMap κ α) (k : κ)
    (es : List (κ × α)) :
    (es.foldl (fun n e => if p e then n.erase e.1 else n) m).get? k =
      if ∃ e ∈ es, e.1 = k ∧ p e then none else m.get? k := by
  induction es generalizing m with
  | nil => simp
  | cons e es ih =>
    rw [List.foldl_cons, ih]
    by_cases hlater : ∃ e ∈ es, e.1 = k ∧ p e
    · obtain ⟨e', he', hkey, hp⟩ := hlater
      rw [if_pos ⟨e', he', hkey, hp⟩, if_pos ⟨e', List.mem_cons_of_mem e he', hkey, hp⟩]
    · rw [if_neg hlater]
      by_cases hp : p e
      · rw [if_pos hp, get?_erase]
        by_cases hk : e.1 = k
        · rw [if_pos hk, if_pos ⟨e, List.mem_cons_self, hk, hp⟩]
        · rw [if_neg hk, if_neg]
          rintro ⟨e', he', hkey, hp'⟩
          rcases List.mem_cons.mp he' with rfl | hmem
          · exact hk hkey
          · exact hlater ⟨e', hmem, hkey, hp'⟩
      · rw [if_neg hp, if_neg]
        rintro ⟨e', he', hkey, hp'⟩
        rcases List.mem_cons.mp he' with rfl | hmem
        · exact hp hp'
        · exact hlater ⟨e', hmem, hkey, hp'⟩

theorem get?_eraseIf (p : κ × α → Prop) [DecidablePred p] (m : OrdMap κ α) (k : κ) :
    (m.entries.foldl (fun n e => if p e then n.erase e.1 else n) m).get? k =
      (m.get? k).filter fun a => ¬ p (k, a) := by
  rw [get?_foldl_eraseIf]
  cases hget : m.get? k with
  | none => split_ifs <;> rfl
  | some a =>
    have hmem : (∃ e ∈ m.entries, e.1 = k ∧ p e) ↔ p (k, a) := by
      constructor
      · rintro ⟨⟨_, _⟩, he, rfl, hp⟩
        have hread := get?_eq_some_iff.mpr he
        rw [hget] at hread
        cases hread
        exact hp
      · exact fun hp => ⟨(k, a), get?_eq_some_iff.mp hget, rfl, hp⟩
    by_cases hp : p (k, a)
    · rw [if_pos (hmem.mpr hp)]
      simp [Option.filter, hp]
    · rw [if_neg fun h => hp (hmem.mp h)]
      simp [Option.filter, hp]

theorem get?_ofEntries_isSome (es : List (κ × α)) (k : κ) :
    ((ofEntries es).get? k).isSome ↔ k ∈ es.map Prod.fst := by
  have key : ∀ m : OrdMap κ α, ((es.foldl (fun m e => m.set e.1 e.2) m).get? k).isSome ↔
      k ∈ es.map Prod.fst ∨ (m.get? k).isSome := by
    induction es with
    | nil => exact fun m => by simp
    | cons e es ih =>
      intro m
      rw [List.foldl_cons, ih, get?_set, List.map_cons, List.mem_cons]
      by_cases he : e.1 = k
      · simp [he]
      · have hne : k ≠ e.1 := fun hk => he hk.symm
        simp [he, hne]
  exact (key empty).trans (by simp)

theorem get?_ofEntries_values (f : α → β) (es : List (κ × α)) (k : κ) :
    (ofEntries (es.map fun e => (e.1, f e.2))).get? k = ((ofEntries es).get? k).map f := by
  have key : ∀ (m : OrdMap κ α) (n : OrdMap κ β), (∀ k, n.get? k = (m.get? k).map f) →
      ((es.map fun e => (e.1, f e.2)).foldl (fun m e => m.set e.1 e.2) n).get? k =
        ((es.foldl (fun m e => m.set e.1 e.2) m).get? k).map f := by
    induction es with
    | nil => exact fun m n h => h k
    | cons e es ih =>
      intro m n h
      rw [List.map_cons, List.foldl_cons, List.foldl_cons]
      refine ih _ _ fun k' => ?_
      rw [get?_set, get?_set]
      split_ifs
      · rfl
      · exact h k'
  exact key empty empty fun _ => rfl

theorem put_append_new (h : k ∉ es.map Prod.fst) : put k a es = es ++ [(k, a)] := by
  induction es with
  | nil => rfl
  | cons e es ih =>
    simp only [List.map_cons, List.mem_cons, not_or] at h
    have : e.1 ≠ k := fun h' => h.1 h'.symm
    simp [put, this, ih h.2]

theorem keys_set_new (a : α) (h : m.get? k = none) : (m.set k a).keys = m.keys ++ [k] := by
  change (put k a m.entries).map Prod.fst = _
  rw [put_append_new (get?_eq_none_iff.mp h), List.map_append]
  rfl

theorem entries_ofEntries (h : (es.map Prod.fst).Nodup) : (ofEntries es).entries = es := by
  have key : ∀ (m : OrdMap κ α) (es : List (κ × α)),
      ((m.entries ++ es).map Prod.fst).Nodup →
      (es.foldl (fun m e => m.set e.1 e.2) m).entries = m.entries ++ es := by
    intro m es
    induction es generalizing m with
    | nil => simp
    | cons e es ih =>
      intro hd
      have hnew : e.1 ∉ m.entries.map Prod.fst := by
        rw [List.map_append, List.nodup_append] at hd
        exact fun hm => hd.2.2 _ hm e.1 (by simp) rfl
      have hset : (m.set e.1 e.2).entries = m.entries ++ [e] := put_append_new hnew
      rw [List.foldl_cons, ih _ (by simpa [hset] using hd), hset]
      simp
  simpa [ofEntries, empty] using key empty es (by simpa [empty] using h)

theorem ofEntries_entries (m : OrdMap κ α) : ofEntries m.entries = m :=
  ext_entries (entries_ofEntries m.nodup)

theorem ofEntries_map (f : κ → α → β) (m : OrdMap κ α) :
    ofEntries (m.entries.map fun e => (e.1, f e.1 e.2)) = m.map f :=
  ofEntries_entries (m.map f)

end Access

/-! ## Maps that agree up to a relation of their values -/

/-- The same keys in the same order, with related values. -/
def Rel (r : α → β → Prop) (m : OrdMap κ α) (n : OrdMap κ β) : Prop :=
  List.Forall₂ (fun e e' => e.1 = e'.1 ∧ r e.2 e'.2) m.entries n.entries

section Rel

variable {r : α → β → Prop} {m : OrdMap κ α} {n : OrdMap κ β}

theorem Rel.size_eq (h : Rel r m n) : m.size = n.size := h.length_eq

theorem Rel.mono {r' : α → β → Prop} (h : Rel r m n) (hr : ∀ a b, r a b → r' a b) : Rel r' m n :=
  List.Forall₂.imp (fun _ _ he => ⟨he.1, hr _ _ he.2⟩) h

theorem Rel.filter {p : κ → α → Bool} {q : κ → β → Bool} (h : Rel r m n)
    (hpq : ∀ k a b, r a b → p k a = q k b) : Rel r (m.filter p) (n.filter q) := by
  obtain ⟨es, hes⟩ := m
  obtain ⟨es', hes'⟩ := n
  unfold Rel OrdMap.filter at *
  dsimp only at *
  clear hes hes'
  induction h with
  | nil => exact .nil
  | @cons e e' es es' he _ ih =>
    have heq : p e.1 e.2 = q e'.1 e'.2 := he.1 ▸ hpq e.1 e.2 e'.2 he.2
    rw [List.filter_cons, List.filter_cons, heq]
    split_ifs
    · exact .cons he ih
    · exact ih

variable [DecidableEq κ]

theorem Rel.get? (h : Rel r m n) (k : κ) : Option.Rel r (m.get? k) (n.get? k) := by
  obtain ⟨es, hes⟩ := m
  obtain ⟨es', hes'⟩ := n
  unfold Rel OrdMap.get? at *
  dsimp only at *
  clear hes hes'
  induction h with
  | nil => exact .none
  | @cons e e' es es' he _ ih =>
    rw [find, find, he.1]
    split_ifs
    · exact .some he.2
    · exact ih

theorem Rel.get?_cases (h : Rel r m n) (k : κ) :
    (m.get? k = none ∧ n.get? k = none) ∨ ∃ a b, m.get? k = some a ∧ n.get? k = some b ∧ r a b := by
  have hget := h.get? k
  revert hget
  cases m.get? k <;> cases n.get? k <;> intro hget
  · exact .inl ⟨rfl, rfl⟩
  · cases hget
  · cases hget
  · cases hget with
    | some hab => exact .inr ⟨_, _, rfl, rfl, hab⟩

theorem Rel.set (h : Rel r m n) {k : κ} {a : α} {b : β} (hab : r a b) :
    Rel r (m.set k a) (n.set k b) := by
  obtain ⟨es, hes⟩ := m
  obtain ⟨es', hes'⟩ := n
  unfold Rel OrdMap.set at *
  dsimp only at *
  clear hes hes'
  induction h with
  | nil => exact .cons ⟨rfl, hab⟩ .nil
  | @cons e e' es es' he hes ih =>
    rw [put, put, he.1]
    split_ifs
    · exact .cons ⟨rfl, hab⟩ hes
    · exact .cons he ih

theorem put_of_find {k : κ} {b : β} {es : List (κ × β)} (h : find k es = some b) :
    put k b es = es := by
  induction es with
  | nil => cases h
  | cons e es ih =>
    rw [find] at h
    rw [put]
    split_ifs at h ⊢ with he
    · cases h
      rw [← he]
    · rw [ih h]

theorem Rel.set_left (h : Rel r m n) {k : κ} {a : α} {b : β} (hb : n.get? k = some b)
    (hab : r a b) : Rel r (m.set k a) n := by
  have hset := h.set (k := k) hab
  rwa [show n.set k b = n from ext_entries (put_of_find hb)] at hset

end Rel

/-! ## Sums over the entries -/

section Sum

variable {M : Type} [AddCommMonoid M]

def sumBy (f : κ → α → M) (m : OrdMap κ α) : M := (m.entries.map fun e => f e.1 e.2).sum

theorem sumBy_map (f : κ → β → M) (g : κ → α → β) (m : OrdMap κ α) :
    sumBy f (m.map g) = sumBy (fun k a => f k (g k a)) m := by
  simp [sumBy, map, Function.comp_def]

theorem sumBy_congr {f g : κ → α → M} {m : OrdMap κ α}
    (h : ∀ e ∈ m.entries, f e.1 e.2 = g e.1 e.2) : sumBy f m = sumBy g m := by
  unfold sumBy
  rw [List.map_congr_left h]

theorem sumBy_add (f g : κ → α → M) (m : OrdMap κ α) :
    sumBy (fun k a => f k a + g k a) m = sumBy f m + sumBy g m := List.sum_map_add

variable [DecidableEq κ]

theorem sum_put (f : κ → α → M) (k : κ) (a : α) (es : List (κ × α)) :
    ((put k a es).map fun e => f e.1 e.2).sum + (find k es).elim 0 (f k) =
      (es.map fun e => f e.1 e.2).sum + f k a := by
  induction es with
  | nil => simp [put, find]
  | cons e es ih =>
    unfold put
    split_ifs with he
    · subst he
      simp only [find, List.map_cons, List.sum_cons, if_true, Option.elim_some]
      abel
    · simp only [find, List.map_cons, List.sum_cons, he, if_false]
      rw [add_assoc, ih]
      abel

theorem sumBy_set (f : κ → α → M) (m : OrdMap κ α) (k : κ) (a : α) :
    sumBy f (m.set k a) + (m.get? k).elim 0 (f k) = sumBy f m + f k a :=
  sum_put f k a m.entries

theorem length_filter_set (p : α → Bool) (m : OrdMap κ α) (k : κ) (a : α) :
    ((m.set k a).entries.filter fun e => p e.2).length + (m.get? k).elim 0 (fun b => (p b).toNat) =
      (m.entries.filter fun e => p e.2).length + (p a).toNat := by
  have hcount : ∀ n : OrdMap κ α,
      (n.entries.filter fun e => p e.2).length = sumBy (fun _ b => (p b).toNat) n := by
    intro n
    unfold sumBy
    induction n.entries with
    | nil => rfl
    | cons e es ih => cases hp : p e.2 <;> simp [hp, ih, add_comm]
  rw [hcount, hcount]
  exact sumBy_set (fun _ b => (p b).toNat) m k a

theorem sum_filter_ne (f : κ → α → M) (k : κ) {es : List (κ × α)} (h : (es.map Prod.fst).Nodup) :
    ((es.filter fun e => e.1 ≠ k).map fun e => f e.1 e.2).sum + (find k es).elim 0 (f k) =
      (es.map fun e => f e.1 e.2).sum := by
  induction es with
  | nil => simp [find]
  | cons e es ih =>
    simp only [List.map_cons, List.nodup_cons] at h
    by_cases he : e.1 = k
    · subst he
      have hall : es.filter (fun e' => e'.1 ≠ e.1) = es := by
        refine List.filter_eq_self.mpr fun e' he' => ?_
        simp only [ne_eq, decide_eq_true_eq]
        intro h'
        exact h.1 (h' ▸ List.mem_map_of_mem he')
      rw [List.filter_cons_of_neg (by simp), hall]
      simp [find, add_comm]
    · rw [List.filter_cons_of_pos (by simpa using he)]
      simp only [find, he, if_false, List.map_cons, List.sum_cons]
      rw [add_assoc, ih h.2]

theorem sumBy_erase (f : κ → α → M) (m : OrdMap κ α) (k : κ) :
    sumBy f (m.erase k) + (m.get? k).elim 0 (f k) = sumBy f m := sum_filter_ne f k m.nodup

end Sum

end OrdMap
