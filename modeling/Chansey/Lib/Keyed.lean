import Chansey.Lib.OrdMap

/-!
# Filing elements under their keys

A list is filed into a map one element after the other, each under its key and together with what is
there.

* `groupBy key`: the list of the elements of each key. **`mem_groupBy`**, `group_mem`: the groups are
  the elements of one key each; **`flatten_groupBy`**: together they are the list.
-/

namespace OrdMap

variable {κ α β : Type} [DecidableEq κ]

/-- File `x` under its key. -/
def upsert (key : α → κ) (f : Option β → α → β) (m : OrdMap κ β) (x : α) : OrdMap κ β :=
  m.set (key x) (f (m.get? (key x)) x)

theorem get?_foldl_upsert (key : α → κ) (f : Option β → α → β) (m : OrdMap κ β) (xs : List α) (k : κ) :
    (xs.foldl (upsert key f) m).get? k =
      (xs.filter (key · = k)).foldl (fun b x => some (f b x)) (m.get? k) := by
  induction xs generalizing m with
  | nil => rfl
  | cons x xs ih =>
    rw [List.foldl_cons, ih, List.filter_cons, upsert, get?_set]
    by_cases hk : key x = k
    · subst hk
      rw [if_pos rfl, if_pos (by simp), List.foldl_cons]
    · rw [if_neg hk, if_neg (by simpa using hk)]

def groupBy (key : α → κ) (xs : List α) : OrdMap κ (List α) :=
  xs.foldl (upsert key fun group x => group.getD [] ++ [x]) empty

theorem foldl_append_some (xs : List α) (ys : List α) :
    xs.foldl (fun (group : Option (List α)) x => some (group.getD [] ++ [x])) (some ys) =
      some (ys ++ xs) := by
  induction xs generalizing ys with
  | nil => rw [List.append_nil]; rfl
  | cons x xs ih => rw [List.foldl_cons, ih]; simp

theorem get?_groupBy (key : α → κ) (xs : List α) (k : κ) :
    (groupBy key xs).get? k =
      if xs.filter (key · = k) = [] then none else some (xs.filter (key · = k)) := by
  rw [groupBy, get?_foldl_upsert, get?_empty]
  cases xs.filter (key · = k) with
  | nil => rfl
  | cons =>
    rw [List.foldl_cons, foldl_append_some]
    rfl

theorem mem_groupBy {key : α → κ} {xs : List α} {k : κ} {group : List α}
    (h : (k, group) ∈ (groupBy key xs).entries) : group = xs.filter (key · = k) ∧ group ≠ [] := by
  have hget := get?_eq_some_iff.mpr h
  rw [get?_groupBy] at hget
  split at hget
  · cases hget
  · rename_i hne
    cases hget
    exact ⟨rfl, hne⟩

theorem group_mem {key : α → κ} {xs : List α} {x : α} (h : x ∈ xs) :
    (key x, xs.filter (key · = key x)) ∈ (groupBy key xs).entries := by
  refine get?_eq_some_iff.mp ?_
  rw [get?_groupBy, if_neg]
  exact List.ne_nil_of_mem (List.mem_filter.mpr ⟨h, by simp⟩)

theorem flatten_put (k : κ) (x : α) (es : List (κ × List α)) :
    ((put k ((find k es).getD [] ++ [x]) es).map Prod.snd).flatten.Perm
      ((es.map Prod.snd).flatten ++ [x]) := by
  induction es with
  | nil => exact List.Perm.refl _
  | cons e es ih =>
    unfold put find
    split
    · simp only [List.map_cons, List.flatten_cons, Option.getD_some, List.append_assoc]
      exact List.Perm.append_left e.2 List.perm_append_comm
    · simp only [List.map_cons, List.flatten_cons, List.append_assoc]
      exact List.Perm.append_left e.2 ih

theorem flatten_groupBy (key : α → κ) (xs : List α) :
    ((groupBy key xs).entries.map Prod.snd).flatten.Perm xs := by
  have hgeneral : ∀ (xs : List α) (m : OrdMap κ (List α)),
      ((xs.foldl (upsert key fun group x => group.getD [] ++ [x]) m).entries.map
        Prod.snd).flatten.Perm ((m.entries.map Prod.snd).flatten ++ xs) := by
    intro xs
    induction xs with
    | nil =>
      intro m
      rw [List.append_nil]
      exact List.Perm.refl _
    | cons x xs ih =>
      intro m
      rw [List.foldl_cons]
      refine (ih _).trans ?_
      rw [show x :: xs = [x] ++ xs from rfl, ← List.append_assoc]
      exact List.Perm.append_right xs (flatten_put (key x) x m.entries)
  exact hgeneral xs empty

/-! ## New keys only -/

theorem get?_foldl_setNew (f : κ → α) {keys : List κ}
    {m : OrdMap κ α} {k : κ} (hk : k ∈ keys ∨ m.get? k = some (f k))
    (hm : ∀ a, m.get? k = some a → a = f k) :
    (keys.foldl (fun m key => if m.has key then m else m.set key (f key)) m).get? k =
      some (f k) := by
  induction keys generalizing m with
  | nil => exact hk.resolve_left (List.not_mem_nil)
  | cons key keys ih =>
    rw [List.foldl_cons]
    by_cases hkey : key = k
    · subst hkey
      have hset : (if m.has key then m else m.set key (f key)).get? key = some (f key) := by
        cases hget : m.get? key with
        | none => simp [has, hget]
        | some a => simp [has, hget, hm a hget]
      refine ih (Or.inr hset) fun a ha => ?_
      rw [hset] at ha
      exact (Option.some.inj ha).symm
    · have hkeep : (if m.has key then m else m.set key (f key)).get? k = m.get? k := by
        split_ifs
        · rfl
        · exact get?_set_of_ne m _ hkey
      refine ih ?_ ?_
      · rw [hkeep]
        exact hk.imp_left fun h => (List.mem_cons.mp h).resolve_left fun h => hkey h.symm
      · rw [hkeep]
        exact hm

end OrdMap
