import Chansey.Lib.Tasks

/-!
# Tasks as lists of operations

A task is the list of the operations it has still to do. Executing the first may put others in
front of the rest, or give the rest up.

* `Script`: what a request starts and what an operation does. `Script.program`: the program of it.
* `Holds Inv Each`: the shared state meets `Inv` and each operation still to do `Each`.
  **`Script.holds`**: this holds in every pool reached if requests and operations keep it.
-/

namespace Tasks

variable {σ ο κ ι : Type}

structure Script (σ ο κ ι : Type) where
  receive : σ → κ → σ × List ο
  exec : σ → ι → ο → List ο → σ × List ο

def taskOf : List ο → Option (List ο)
  | [] => none
  | op :: rest => some (op :: rest)

theorem mem_taskOf {ops task : List ο} (h : task ∈ (taskOf ops).toList) : task = ops := by
  cases ops with
  | nil => cases h
  | cons => exact List.mem_singleton.mp h

namespace Script

variable (script : Script σ ο κ ι)

def program : Program σ (List ο) κ ι where
  call s request := ((script.receive s request).1, taskOf (script.receive s request).2)
  advance s task answer :=
    match task with
    | [] => (s, none)
    | op :: rest => ((script.exec s answer op rest).1, taskOf (script.exec s answer op rest).2)

theorem step_cases (pool : Pool σ (List ο)) (move : Move κ ι) :
    (∃ request, move = .call request ∧
      script.program.step pool move =
        ⟨(script.receive pool.shared request).1,
          pool.inFlight ++ (taskOf (script.receive pool.shared request).2).toList⟩) ∨
    (∃ position answer op rest before after, move = .advance position answer ∧
      pool.inFlight[position]? = some (op :: rest) ∧
      pool.inFlight = before ++ (op :: rest) :: after ∧
      script.program.step pool move =
        ⟨(script.exec pool.shared answer op rest).1,
          before ++ ((taskOf (script.exec pool.shared answer op rest).2).toList ++ after)⟩) ∨
    ((script.program.step pool move).shared = pool.shared ∧
      ∀ task, task ≠ [] →
        (task ∈ (script.program.step pool move).inFlight ↔ task ∈ pool.inFlight)) := by
  obtain ⟨request, hmove, hres⟩ | ⟨position, answer, task, before, after, hmove, htask, hsplit,
    hres⟩ | hres := script.program.step_cases pool move
  · exact .inl ⟨request, hmove, hres⟩
  · cases task with
    | nil =>
      refine .inr (Or.inr ⟨by rw [hres]; rfl, fun task hne => ?_⟩)
      rw [hres, hsplit]
      change task ∈ before ++ ([] ++ after) ↔ _
      simp [hne]
    | cons op rest =>
      exact .inr (Or.inl ⟨position, answer, op, rest, before, after, hmove, htask, hsplit, hres⟩)
  · exact .inr (Or.inr ⟨by rw [hres], fun task _ => by rw [hres]⟩)

def OpMeets (P : σ → ι → ο → List ο → Prop) (pool : Pool σ (List ο)) : Move κ ι → Prop
  | .call _ => True
  | .advance position answer =>
    ∀ op rest, pool.inFlight[position]? = some (op :: rest) → P pool.shared answer op rest

instance (P : σ → ι → ο → List ο → Prop) [∀ s answer op rest, Decidable (P s answer op rest)]
    (pool : Pool σ (List ο)) : (move : Move κ ι) → Decidable (OpMeets P pool move)
  | .call _ => isTrue trivial
  | .advance position answer =>
    match htask : pool.inFlight[position]? with
    | none => isTrue fun op rest h => by rw [htask] at h; cases h
    | some [] => isTrue fun op rest h => by rw [htask] at h; cases h
    | some (op :: rest) =>
      decidable_of_iff (P pool.shared answer op rest)
        ⟨fun hop op' rest' h => by rw [htask] at h; cases h; exact hop,
          fun hmeets => hmeets op rest htask⟩

variable {script}

end Script

/-! ## What every operation still to do meets -/

section Holds

variable (Inv : σ → Prop) (Each : σ → ο → Prop)

def Holds (pool : Pool σ (List ο)) : Prop :=
  Inv pool.shared ∧ ∀ task ∈ pool.inFlight, ∀ op ∈ task, Each pool.shared op

structure KeepsEach (pool : Pool σ (List ο)) (result : σ × List ο) : Prop where
  inv : Inv result.1
  next : ∀ op ∈ result.2, Each result.1 op
  others : ∀ task ∈ pool.inFlight, ∀ op ∈ task, Each pool.shared op → Each result.1 op

variable {Inv Each} {script : Script σ ο κ ι} {ok : Pool σ (List ο) → Move κ ι → Prop}

theorem Holds.step {pool : Pool σ (List ο)} {move : Move κ ι} (h : Holds Inv Each pool)
    (hcall : ∀ request, move = .call request →
      KeepsEach Inv Each pool (script.receive pool.shared request))
    (hexec : ∀ position answer op rest, move = .advance position answer →
      pool.inFlight[position]? = some (op :: rest) →
        KeepsEach Inv Each pool (script.exec pool.shared answer op rest)) :
    Holds Inv Each (script.program.step pool move) := by
  obtain ⟨request, hmove, hres⟩ | ⟨position, answer, op, rest, before, after, hmove, htask,
    hsplit, hres⟩ | ⟨hshared, htasks⟩ := script.step_cases pool move
  · have hkeeps := hcall request hmove
    rw [hres]
    refine ⟨hkeeps.inv, fun task htask other hother => ?_⟩
    rcases List.mem_append.mp htask with htask | htask
    · exact hkeeps.others task htask other hother (h.2 task htask other hother)
    · rw [mem_taskOf htask] at hother
      exact hkeeps.next other hother
  · have hkeeps := hexec position answer op rest hmove htask
    have hbeside : ∀ task ∈ before ++ after, task ∈ pool.inFlight := by
      intro task hmem
      rw [hsplit]
      rcases List.mem_append.mp hmem with hmem | hmem
      · exact List.mem_append_left _ hmem
      · exact List.mem_append_right _ (List.mem_cons_of_mem _ hmem)
    rw [hres]
    refine ⟨hkeeps.inv, fun task htask other hother => ?_⟩
    simp only [List.mem_append] at htask
    obtain htask | htask | htask := htask
    · have hmem := hbeside task (List.mem_append_left _ htask)
      exact hkeeps.others task hmem other hother (h.2 task hmem other hother)
    · rw [mem_taskOf htask] at hother
      exact hkeeps.next other hother
    · have hmem := hbeside task (List.mem_append_right _ htask)
      exact hkeeps.others task hmem other hother (h.2 task hmem other hother)
  · refine ⟨hshared ▸ h.1, fun task htask other hother => ?_⟩
    have hmem := (htasks task (List.ne_nil_of_mem hother)).mp htask
    rw [hshared]
    exact h.2 task hmem other hother

theorem Script.holds (hcall : ∀ pool request, Holds Inv Each pool → ok pool (.call request) →
      KeepsEach Inv Each pool (script.receive pool.shared request))
    (hexec : ∀ pool position answer op rest, Holds Inv Each pool →
      pool.inFlight[position]? = some (op :: rest) → ok pool (.advance position answer) →
        KeepsEach Inv Each pool (script.exec pool.shared answer op rest))
    {start pool : Pool σ (List ο)} (hstart : Holds Inv Each start)
    (h : script.program.Reached ok start pool) : Holds Inv Each pool := by
  refine h.invariant (fun pool move hholds hok => hholds.step ?_ ?_) hstart
  · rintro request rfl
    exact hcall pool request hholds hok
  · rintro position answer op rest rfl htask
    exact hexec pool position answer op rest hholds htask hok

end Holds

end Tasks
