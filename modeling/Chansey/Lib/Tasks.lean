import Mathlib.Data.List.Basic

/-!
# Tasks that take turns

Tasks share a state and are interrupted between their steps, at every call they wait for. A call
from outside starts a task with its first step; a task in flight takes its next step with an answer
of its environment.

* `Program.step`, `Reached`: the moves of a pool, and the pools that moves meeting `ok` reach.
  `reached_run`: those of a run all of whose moves meet it.
  **`step_cases`**: a move is a call, a step of one task beside the others, or nothing.
* `Sound Inv Held`: the shared state meets `Inv` and each task in flight what it holds.
  **`Program.Reached.sound`**: this is kept if every step keeps it for its own task and interferes with no
  other.
-/

namespace Tasks

variable {σ τ κ ι : Type}

structure Pool (σ τ : Type) where
  shared : σ
  inFlight : List τ

inductive Move (κ ι : Type) where
  | call (request : κ)
  /-- The task at a position takes its next step. -/
  | advance (position : ℕ) (answer : ι)

/-- What a call does at once and what a task in flight does next. Each leaves at most one task. -/
structure Program (σ τ κ ι : Type) where
  call : σ → κ → σ × Option τ
  advance : σ → τ → ι → σ × Option τ

namespace Program

variable (program : Program σ τ κ ι)

def step (pool : Pool σ τ) : Move κ ι → Pool σ τ
  | .call request =>
    { shared := (program.call pool.shared request).1
      inFlight := pool.inFlight ++ (program.call pool.shared request).2.toList }
  | .advance position answer =>
    match pool.inFlight[position]? with
    | none => pool
    | some task =>
      { shared := (program.advance pool.shared task answer).1
        inFlight := pool.inFlight.take position ++
          ((program.advance pool.shared task answer).2.toList ++
            pool.inFlight.drop (position + 1)) }

def run (pool : Pool σ τ) (moves : List (Move κ ι)) : Pool σ τ := moves.foldl program.step pool

def AllMeet (ok : Pool σ τ → Move κ ι → Prop) : Pool σ τ → List (Move κ ι) → Prop
  | _, [] => True
  | pool, move :: moves => ok pool move ∧ AllMeet ok (program.step pool move) moves

instance decidableAllMeet (ok : Pool σ τ → Move κ ι → Prop)
    [∀ pool move, Decidable (ok pool move)] :
    (pool : Pool σ τ) → (moves : List (Move κ ι)) → Decidable (program.AllMeet ok pool moves)
  | _, [] => isTrue trivial
  | pool, move :: moves =>
    have := decidableAllMeet ok (program.step pool move) moves
    inferInstanceAs (Decidable (ok pool move ∧ program.AllMeet ok (program.step pool move) moves))

theorem step_cases (pool : Pool σ τ) (move : Move κ ι) :
    (∃ request, move = .call request ∧
      program.step pool move =
        ⟨(program.call pool.shared request).1,
          pool.inFlight ++ (program.call pool.shared request).2.toList⟩) ∨
    (∃ position answer task before after, move = .advance position answer ∧
      pool.inFlight[position]? = some task ∧ pool.inFlight = before ++ task :: after ∧
      program.step pool move =
        ⟨(program.advance pool.shared task answer).1,
          before ++ ((program.advance pool.shared task answer).2.toList ++ after)⟩) ∨
    program.step pool move = pool := by
  cases move with
  | call request => exact .inl ⟨request, rfl, rfl⟩
  | advance position answer =>
    refine .inr ?_
    cases htask : pool.inFlight[position]? with
    | none =>
      right
      simp only [step, htask]
    | some task =>
      left
      obtain ⟨hlt, hget⟩ := List.getElem?_eq_some_iff.mp htask
      refine ⟨position, answer, task, pool.inFlight.take position,
        pool.inFlight.drop (position + 1), rfl, htask, ?_, ?_⟩
      · rw [← hget, ← List.drop_eq_getElem_cons hlt, List.take_append_drop]
      · simp only [step, htask]

variable (ok : Pool σ τ → Move κ ι → Prop) (start : Pool σ τ)

inductive Reached : Pool σ τ → Prop
  | start : Reached start
  | step {pool : Pool σ τ} {move : Move κ ι} (hreached : Reached pool) (hok : ok pool move) :
      Reached (program.step pool move)

variable {program ok start}

theorem Reached.trans {pool later : Pool σ τ} (h : program.Reached ok start pool)
    (hlater : program.Reached ok pool later) : program.Reached ok start later := by
  induction hlater with
  | start => exact h
  | step _ hok ih => exact ih.step hok

theorem reached_run {moves : List (Move κ ι)} (h : program.AllMeet ok start moves) :
    program.Reached ok start (program.run start moves) := by
  induction moves generalizing start with
  | nil => exact .start
  | cons move moves ih =>
    have hfirst : program.Reached ok start (program.step start move) := .step .start h.1
    exact hfirst.trans (ih h.2)

theorem Reached.invariant {Inv : Pool σ τ → Prop}
    (hstep : ∀ pool move, Inv pool → ok pool move → Inv (program.step pool move))
    (hstart : Inv start) {pool : Pool σ τ} (h : program.Reached ok start pool) : Inv pool := by
  induction h with
  | start => exact hstart
  | step _ hok ih => exact hstep _ _ ih hok

end Program

/-! ## What tasks hold -/

section Sound

variable (Inv : σ → Prop) (Held : σ → τ → Prop)

/-- The shared state meets `Inv`, and every task in flight what it holds. -/
def Sound (pool : Pool σ τ) : Prop :=
  Inv pool.shared ∧ ∀ task ∈ pool.inFlight, Held pool.shared task

/-- A step from `s` keeps the invariant, what it leaves holds its own, and no other task loses what
it holds. -/
structure Keeps (s : σ) (result : σ × Option τ) : Prop where
  inv : Inv result.1
  held : ∀ next ∈ result.2, Held result.1 next
  others : ∀ task, Held s task → Held result.1 task

variable {Inv Held} {program : Program σ τ κ ι} {ok : Pool σ τ → Move κ ι → Prop}

theorem Sound.step {pool : Pool σ τ} {move : Move κ ι} (h : Sound Inv Held pool)
    (hcall : ∀ request, move = .call request →
      Keeps Inv Held pool.shared (program.call pool.shared request))
    (hadv : ∀ position answer task, move = .advance position answer →
      pool.inFlight[position]? = some task → Held pool.shared task →
        Keeps Inv Held pool.shared (program.advance pool.shared task answer)) :
    Sound Inv Held (program.step pool move) := by
  obtain ⟨request, hmove, hres⟩ | ⟨position, answer, task, _, _, hmove, htask, hsplit,
    hres⟩ | hres := program.step_cases pool move
  · have hkeeps := hcall request hmove
    rw [hres]
    refine ⟨hkeeps.inv, fun other hother => ?_⟩
    rcases List.mem_append.mp hother with hother | hother
    · exact hkeeps.others other (h.2 other hother)
    · exact hkeeps.held other (Option.mem_toList.mp hother)
  · have hheld := h.2 task (List.mem_of_getElem? htask)
    have hkeeps := hadv position answer task hmove htask hheld
    rw [hres]
    refine ⟨hkeeps.inv, fun other hother => ?_⟩
    rcases List.mem_append.mp hother with hother | hother
    · exact hkeeps.others other (h.2 other (hsplit ▸ List.mem_append_left _ hother))
    · rcases List.mem_append.mp hother with hother | hother
      · exact hkeeps.held other (Option.mem_toList.mp hother)
      · exact hkeeps.others other
          (h.2 other (hsplit ▸ List.mem_append_right _ (List.mem_cons_of_mem _ hother)))
  · rw [hres]
    exact h

theorem Program.Reached.sound (hcall : ∀ pool request, Inv pool.shared → ok pool (.call request) →
      Keeps Inv Held pool.shared (program.call pool.shared request))
    (hadv : ∀ pool position answer task, Inv pool.shared → Held pool.shared task →
      pool.inFlight[position]? = some task → ok pool (.advance position answer) →
        Keeps Inv Held pool.shared (program.advance pool.shared task answer))
    {start pool : Pool σ τ} (hstart : Sound Inv Held start)
    (h : program.Reached ok start pool) : Sound Inv Held pool := by
  refine h.invariant (fun pool move hsound hok => hsound.step ?_ ?_) hstart
  · rintro request rfl
    exact hcall pool request hsound.1 hok
  · rintro position answer task rfl htask hheld
    exact hadv pool position answer task hsound.1 hheld htask hok

end Sound

end Tasks
