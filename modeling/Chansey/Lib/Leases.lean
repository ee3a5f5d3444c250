import Mathlib.Data.List.Basic
import Mathlib.Tactic.Linarith

/-!
# Values that stand until a deadline

A store whose values expire, and a ledger of the leases it granted.

* `get`, `claim`, `drop`, `dropOwn`, `extendOwn`, `pass`: the commands of the store. A value is read
  while its deadline is ahead of the clock.
* `Kept`: every unexpired grant is still stored, and no key has two. **`Kept.grant`**,
  **`Kept.renew`**, `Kept.drop`, `Kept.sublist`, `Kept.pass`: the commands that keep this.
-/

structure Lease (ν : Type) where
  value : ν
  deadline : ℕ

structure Leases (κ ν : Type) where
  now : ℕ
  cells : κ → Option (Lease ν)

structure Grant (κ ν : Type) where
  key : κ
  lease : Lease ν

namespace Leases

variable {κ ν : Type}

def empty : Leases κ ν := ⟨0, fun _ => none⟩

def pass (s : Leases κ ν) (ms : ℕ) : Leases κ ν := { s with now := s.now + ms }

def get (s : Leases κ ν) (k : κ) : Option ν :=
  ((s.cells k).filter fun l => s.now < l.deadline).map (·.value)

variable [DecidableEq κ]

def put (s : Leases κ ν) (k : κ) (v : ν) (ttl : ℕ) : Leases κ ν :=
  { s with cells := Function.update s.cells k (some ⟨v, s.now + ttl⟩) }

def drop (s : Leases κ ν) (k : κ) : Leases κ ν :=
  { s with cells := Function.update s.cells k none }

/-- Put a value on a key that has none, or answer the one it has. -/
def claim (s : Leases κ ν) (k : κ) (v : ν) (ttl : ℕ) : Leases κ ν × Option ν :=
  match s.get k with
  | some held => (s, some held)
  | none => (s.put k v ttl, none)

def dropOwn [DecidableEq ν] (s : Leases κ ν) (k : κ) (v : ν) : Leases κ ν × Bool :=
  if s.get k = some v then (s.drop k, true) else (s, false)

def extendOwn [DecidableEq ν] (s : Leases κ ν) (k : κ) (v : ν) (ttl : ℕ) : Leases κ ν × Bool :=
  if s.get k = some v then (s.put k v ttl, true) else (s, false)

section Commands

omit [DecidableEq κ] in
@[simp] theorem pass_now (s : Leases κ ν) (ms : ℕ) : (s.pass ms).now = s.now + ms := rfl

variable (s : Leases κ ν) (k k' : κ) (v : ν) (ttl : ℕ)

@[simp] theorem put_cells_self : (s.put k v ttl).cells k = some ⟨v, s.now + ttl⟩ := by simp [put]

@[simp] theorem drop_cells_self : (s.drop k).cells k = none := by simp [drop]

variable {k k'}

@[simp] theorem put_cells_of_ne (h : k' ≠ k) : (s.put k v ttl).cells k' = s.cells k' := by
  simp [put, h]

@[simp] theorem drop_cells_of_ne (h : k' ≠ k) : (s.drop k).cells k' = s.cells k' := by
  simp [drop, h]

variable {s v}

omit [DecidableEq κ] in
theorem get_eq_some_iff :
    s.get k = some v ↔ ∃ deadline, s.cells k = some ⟨v, deadline⟩ ∧ s.now < deadline := by
  unfold get
  cases h : s.cells k with
  | none => simp
  | some l =>
    obtain ⟨_, deadline⟩ := l
    by_cases hlive : s.now < deadline
    · simp [Option.filter, hlive]
    · simp [Option.filter, hlive]

omit [DecidableEq κ] in
theorem get_congr {t : Leases κ ν} (hnow : t.now = s.now) (h : t.cells k = s.cells k) :
    t.get k = s.get k := by
  simp only [get, hnow, h]

theorem get_drop_of_ne (h : k' ≠ k) : (s.drop k).get k' = s.get k' :=
  get_congr rfl (drop_cells_of_ne s h)

theorem get_put_of_ne (h : k' ≠ k) : (s.put k v ttl).get k' = s.get k' :=
  get_congr rfl (put_cells_of_ne s v ttl h)

@[simp] theorem get_drop_self : (s.drop k).get k = none := by simp [get]

end Commands

/-! ## The ledger -/

def runs (s : Leases κ ν) (k : κ) (g : Grant κ ν) : Bool :=
  decide (g.key = k ∧ s.now < g.lease.deadline)

def unexpired (s : Leases κ ν) (granted : List (Grant κ ν)) (k : κ) : ℕ := granted.countP (s.runs k)

/-- Every unexpired grant is still stored, and no key has two of them. -/
structure Kept (s : Leases κ ν) (granted : List (Grant κ ν)) : Prop where
  stored : ∀ g ∈ granted, s.now < g.lease.deadline → s.cells g.key = some g.lease
  single : ∀ k, s.unexpired granted k ≤ 1

/-- The grants of a value on a key get a new deadline, if they have not expired. -/
def renew [DecidableEq ν] (s : Leases κ ν) (granted : List (Grant κ ν)) (k : κ) (v : ν)
    (ttl : ℕ) : List (Grant κ ν) :=
  granted.map fun g =>
    if s.runs k g ∧ g.lease.value = v then { g with lease := ⟨v, s.now + ttl⟩ } else g

variable {s : Leases κ ν} {granted : List (Grant κ ν)} {k : κ} {v : ν} {ttl : ℕ}

theorem runs_iff {g : Grant κ ν} : s.runs k g = true ↔ g.key = k ∧ s.now < g.lease.deadline := by
  simp [runs]

theorem unexpired_eq_zero_iff :
    s.unexpired granted k = 0 ↔ ∀ g ∈ granted, g.key = k → ¬ s.now < g.lease.deadline := by
  rw [unexpired, List.countP_eq_zero]
  constructor
  · intro h g hg hk hlive
    exact h g hg (runs_iff.mpr ⟨hk, hlive⟩)
  · intro h g hg hruns
    obtain ⟨hk, hlive⟩ := runs_iff.mp hruns
    exact h g hg hk hlive

namespace Kept

theorem nil (s : Leases κ ν) : Kept s [] :=
  ⟨fun _ hg => absurd hg List.not_mem_nil, fun _ => Nat.zero_le 1⟩

section

variable (h : Kept s granted)

include h

theorem get {g : Grant κ ν} (hg : g ∈ granted) (hlive : s.now < g.lease.deadline) :
    s.get g.key = some g.lease.value :=
  get_eq_some_iff.mpr ⟨g.lease.deadline, h.stored g hg hlive, hlive⟩

theorem unique {g g' : Grant κ ν} (hg : g ∈ granted) (hg' : g' ∈ granted) (hkey : g.key = g'.key)
    (hlive : s.now < g.lease.deadline) (hlive' : s.now < g'.lease.deadline) :
    g.lease = g'.lease := by
  have hcell := h.stored g hg hlive
  rw [hkey, h.stored g' hg' hlive'] at hcell
  exact (Option.some.inj hcell).symm

theorem unexpired_of_get (hget : s.get k = none) : s.unexpired granted k = 0 := by
  rw [unexpired_eq_zero_iff]
  rintro g hg rfl hlive
  rw [h.get hg hlive] at hget
  cases hget

theorem pass (ms : ℕ) : Kept (s.pass ms) granted := by
  refine ⟨fun g hg hlive => h.stored g hg ?_, fun k => le_trans ?_ (h.single k)⟩
  · rw [pass_now] at hlive
    omega
  · refine List.countP_mono_left fun g _ hruns => ?_
    obtain ⟨hkey, hlive⟩ := runs_iff.mp hruns
    rw [pass_now] at hlive
    exact runs_iff.mpr ⟨hkey, by omega⟩

theorem sublist {fewer : List (Grant κ ν)} (hsub : fewer.Sublist granted) : Kept s fewer :=
  ⟨fun g hg => h.stored g (hsub.subset hg), fun k => le_trans (hsub.countP_le) (h.single k)⟩

theorem put (hnone : s.unexpired granted k = 0) : Kept (s.put k v ttl) granted := by
  refine ⟨fun g hg hlive => ?_, h.single⟩
  have hkey : g.key ≠ k := fun hkey => unexpired_eq_zero_iff.mp hnone g hg hkey hlive
  rw [put_cells_of_ne s v ttl hkey]
  exact h.stored g hg hlive

theorem drop (hnone : s.unexpired granted k = 0) : Kept (s.drop k) granted := by
  refine ⟨fun g hg hlive => ?_, h.single⟩
  have hkey : g.key ≠ k := fun hkey => unexpired_eq_zero_iff.mp hnone g hg hkey hlive
  rw [drop_cells_of_ne s hkey]
  exact h.stored g hg hlive

theorem grant (hnone : s.unexpired granted k = 0) :
    Kept (s.put k v ttl) (⟨k, ⟨v, s.now + ttl⟩⟩ :: granted) := by
  refine ⟨fun g hg hlive => ?_, fun k' => ?_⟩
  · rcases List.mem_cons.mp hg with rfl | hg
    · exact put_cells_self s k v ttl
    · exact (h.put hnone).stored g hg hlive
  · show List.countP (s.runs k') _ ≤ 1
    rw [List.countP_cons]
    by_cases hk : k = k'
    · subst hk
      have : List.countP (s.runs k) granted = 0 := hnone
      rw [this]
      split <;> omega
    · have : s.runs k' ⟨k, ⟨v, s.now + ttl⟩⟩ = false := by simp [runs, hk]
      rw [this]
      exact h.single k'

end

theorem renew [DecidableEq ν] (h : Kept s granted) (hget : s.get k = some v) :
    Kept (s.put k v ttl) (s.renew granted k v ttl) := by
  obtain ⟨deadline, hcell, -⟩ := get_eq_some_iff.mp hget
  have hvalue : ∀ g ∈ granted, s.runs k g = true → g.lease.value = v := by
    intro g hg hruns
    obtain ⟨rfl, hlive⟩ := runs_iff.mp hruns
    have := h.stored g hg hlive
    rw [hcell] at this
    rw [← Option.some.inj this]
  refine ⟨fun g' hg' hlive => ?_, fun k' => le_trans ?_ (h.single k')⟩
  · obtain ⟨g, hg, rfl⟩ := List.mem_map.mp hg'
    by_cases hruns : s.runs k g ∧ g.lease.value = v
    · obtain ⟨rfl, -⟩ := runs_iff.mp hruns.1
      rw [if_pos hruns]
      exact put_cells_self s g.key v ttl
    · rw [if_neg hruns] at hlive ⊢
      have hkey : g.key ≠ k := by
        intro hkey
        have := runs_iff.mpr ⟨hkey, hlive⟩
        exact hruns ⟨this, hvalue g hg this⟩
      rw [put_cells_of_ne s v ttl hkey]
      exact h.stored g hg hlive
  · show List.countP (s.runs k') (granted.map _) ≤ List.countP (s.runs k') granted
    rw [List.countP_map]
    refine List.countP_mono_left fun g _ hruns => ?_
    simp only [Function.comp_apply] at hruns
    split at hruns
    · rename_i hold
      obtain ⟨hkey, hlive⟩ := runs_iff.mp hold.1
      obtain ⟨hkey', -⟩ := runs_iff.mp hruns
      exact runs_iff.mpr ⟨hkey', hlive⟩
    · exact hruns

end Kept

end Leases
