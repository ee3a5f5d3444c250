import Chansey.Lib.Result

/-!
# Runs of a step function

A program that takes step after step and may throw: `run step s es` takes the steps of the events
`es` from `s`.

* **`run_invariant`**: an invariant of the steps that meet `ok` holds at the end of a run.
* `Kept next P R s es`: every state of the run meets `P`, and any later one is related to it by `R`.
  **`kept_iff`**: this is decided step by step.
-/

namespace Run

open Result

variable {σ ε err : Type} {step : σ → ε → Except err σ} {ok : σ → ε → Prop} {s t : σ}
  {es fs : List ε}

/-- Take the steps of `es`, first to last. -/
def run (step : σ → ε → Except err σ) (s : σ) (es : List ε) : Except err σ := es.foldlM step s

@[simp] theorem run_nil : run step s [] = .ok s := rfl

@[simp] theorem run_cons (e : ε) : run step s (e :: es) = step s e >>= fun s' => run step s' es :=
  List.foldlM_cons

theorem run_append : run step s (es ++ fs) = run step s es >>= fun s' => run step s' fs :=
  List.foldlM_append

theorem run_append_eq_ok :
    run step s (es ++ fs) = .ok t ↔ ∃ u, run step s es = .ok u ∧ run step u fs = .ok t := by
  rw [run_append, bind_eq_ok]

/-- Every step of the run is taken from a state that meets `ok`. -/
def StepsMeet (step : σ → ε → Except err σ) (ok : σ → ε → Prop) : σ → List ε → Prop
  | _, [] => True
  | s, e :: es => ok s e ∧ ∀ s', step s e = .ok s' → StepsMeet step ok s' es

instance decidableStepsMeet (step : σ → ε → Except err σ) (ok : σ → ε → Prop)
    [∀ s e, Decidable (ok s e)] : (s : σ) → (es : List ε) → Decidable (StepsMeet step ok s es)
  | _, [] => isTrue trivial
  | s, e :: es =>
    have : Decidable (∀ s', step s e = .ok s' → StepsMeet step ok s' es) :=
      match hstep : step s e with
      | .error _ => isTrue fun _ h => by cases h
      | .ok s' =>
        have := decidableStepsMeet step ok s' es
        decidable_of_iff (StepsMeet step ok s' es) (by simp)
    inferInstanceAs (Decidable (ok s e ∧ _))

theorem StepsMeet.imp {ok' : σ → ε → Prop} (himp : ∀ s e, ok s e → ok' s e)
    (h : StepsMeet step ok s es) : StepsMeet step ok' s es := by
  induction es generalizing s with
  | nil => trivial
  | cons e es ih => exact ⟨himp s e h.1, fun s' hs' => ih (h.2 s' hs')⟩

/-- **What every step that meets `ok` preserves holds at the end of every such run.** -/
theorem run_invariant (Inv : σ → Prop)
    (hstep : ∀ s e s', Inv s → ok s e → step s e = .ok s' → Inv s') (hs : Inv s)
    (hok : StepsMeet step ok s es) (h : run step s es = .ok t) : Inv t := by
  induction es generalizing s with
  | nil =>
    cases h
    exact hs
  | cons e es ih =>
    rw [run_cons, bind_eq_ok] at h
    obtain ⟨s', hs', h⟩ := h
    exact ih (hstep s e s' hs hok.1 hs') (hok.2 s' hs') h

/-! ## Steps that never throw -/

section Total

variable {next : σ → ε → σ} {P Q : σ → ε → Prop}

/-- `P` holds at every step of the run. -/
def Throughout (next : σ → ε → σ) (P : σ → ε → Prop) : σ → List ε → Prop
  | _, [] => True
  | s, e :: es => P s e ∧ Throughout next P (next s e) es

instance decidableThroughout (next : σ → ε → σ) (P : σ → ε → Prop) [∀ s e, Decidable (P s e)] :
    (s : σ) → (es : List ε) → Decidable (Throughout next P s es)
  | _, [] => isTrue trivial
  | s, e :: es =>
    have := decidableThroughout next P (next s e) es
    inferInstanceAs (Decidable (P s e ∧ Throughout next P (next s e) es))

/-- **Conditions that agree where `Q` has held so far hold throughout the same runs.** -/
theorem throughout_iff (Inv : σ → Prop) (hiff : ∀ s e, Inv s → (P s e ↔ Q s e))
    (hnext : ∀ s e, Inv s → Q s e → Inv (next s e)) (hs : Inv s) :
    Throughout next P s es ↔ Throughout next Q s es := by
  induction es generalizing s with
  | nil => exact Iff.rfl
  | cons e es ih =>
    constructor
    · rintro ⟨hP, hrest⟩
      have hQ := (hiff s e hs).mp hP
      exact ⟨hQ, (ih (hnext s e hs hQ)).mp hrest⟩
    · rintro ⟨hQ, hrest⟩
      exact ⟨(hiff s e hs).mpr hQ, (ih (hnext s e hs hQ)).mpr hrest⟩

/-- **Steps that agree on the states of a run, on events that meet `ok`, meet the same conditions.** -/
theorem throughout_congr {next' : σ → ε → σ} {ok : ε → Prop} (Inv : σ → Prop)
    (hnext : ∀ s e, Inv s → ok e → next s e = next' s e ∧ Inv (next' s e))
    (hiff : ∀ s e, Inv s → ok e → (P s e ↔ Q s e)) (hs : Inv s) (hes : ∀ e ∈ es, ok e) :
    Throughout next P s es ↔ Throughout next' Q s es := by
  induction es generalizing s with
  | nil => exact Iff.rfl
  | cons e es ih =>
    have he := hes e List.mem_cons_self
    obtain ⟨hsame, hinv⟩ := hnext s e hs he
    refine and_congr (hiff s e hs he) ?_
    rw [hsame]
    exact ih hinv fun e' he' => hes e' (List.mem_cons_of_mem e he')

/-- What every step that meets `P` preserves holds at the end of a run that meets it throughout. -/
theorem Throughout.invariant (Inv : σ → Prop)
    (hnext : ∀ s e, Inv s → P s e → Inv (next s e)) (hs : Inv s) (h : Throughout next P s es) :
    Inv (es.foldl next s) := by
  induction es generalizing s with
  | nil => exact hs
  | cons e es ih => exact ih (hnext s e hs h.1) h.2

theorem Throughout.imp (Inv : σ → Prop) (himp : ∀ s e, Inv s → P s e → Q s e)
    (hnext : ∀ s e, Inv s → P s e → Inv (next s e)) (hs : Inv s) (h : Throughout next P s es) :
    Throughout next Q s es := by
  induction es generalizing s with
  | nil => trivial
  | cons e es ih => exact ⟨himp s e hs h.1, ih (hnext s e hs h.1) h.2⟩

theorem Throughout.and (hP : Throughout next P s es) (hQ : Throughout next Q s es) :
    Throughout next (fun s e => P s e ∧ Q s e) s es := by
  induction es generalizing s with
  | nil => trivial
  | cons e es ih => exact ⟨⟨hP.1, hQ.1⟩, ih hP.2 hQ.2⟩

theorem Throughout.left (h : Throughout next P s (es ++ fs)) : Throughout next P s es := by
  induction es generalizing s with
  | nil => trivial
  | cons e es ih => exact ⟨h.1, ih h.2⟩

theorem Throughout.at_append {before after : List ε} {e : ε}
    (h : Throughout next P s (before ++ e :: after)) : P (before.foldl next s) e := by
  induction before generalizing s with
  | nil => exact h.1
  | cons e' before ih => exact ih h.2

/-! ### Every state and any two states of a run -/

variable {A : σ → Prop} {R : σ → σ → Prop}

/-- Every state of the run meets `A`, and any two are related by `R`, the earlier one first. -/
def Kept (next : σ → ε → σ) (A : σ → Prop) (R : σ → σ → Prop) (s : σ) (es : List ε) : Prop :=
  ∀ before middle after, es = before ++ (middle ++ after) →
    A ((before ++ middle).foldl next s) ∧ R (before.foldl next s) ((before ++ middle).foldl next s)

theorem kept_nil (hrefl : ∀ s, R s s) : Kept next A R s [] ↔ A s := by
  constructor
  · intro h
    exact (h [] [] [] rfl).1
  · intro hs before middle after hes
    obtain ⟨rfl, hrest⟩ := List.append_eq_nil_iff.mp hes.symm
    obtain ⟨rfl, -⟩ := List.append_eq_nil_iff.mp hrest
    exact ⟨hs, hrefl s⟩

theorem Kept.start (h : Kept next A R s es) : A s := (h [] [] es rfl).1

theorem Kept.tail {e : ε} (h : Kept next A R s (e :: es)) : Kept next A R (next s e) es := by
  rintro before middle after rfl
  exact h (e :: before) middle after rfl

theorem Kept.head {e : ε} (h : Kept next A R s (e :: es)) : R s (next s e) :=
  (h [] [e] es rfl).2

theorem kept_iff (hrefl : ∀ s, R s s) (htrans : ∀ s t u, R s t → R t u → R s u) :
    Kept next A R s es ↔ A s ∧ Throughout next (fun s e => A (next s e) ∧ R s (next s e)) s es := by
  induction es generalizing s with
  | nil => exact (kept_nil hrefl).trans (and_iff_left trivial).symm
  | cons e es ih =>
    constructor
    · intro h
      exact ⟨h.start, ⟨h.tail.start, h.head⟩, (ih.mp h.tail).2⟩
    · rintro ⟨hs, ⟨hnext, hstep⟩, hrest⟩
      have htail : Kept next A R (next s e) es := ih.mpr ⟨hnext, hrest⟩
      -- a state of the run is its start, or one of the run after the first step
      have hafter : ∀ middle after, es = middle ++ after →
          A (middle.foldl next (next s e)) ∧ R s (middle.foldl next (next s e)) := by
        intro middle after hes
        obtain ⟨hA, hR⟩ := htail [] middle after hes
        exact ⟨hA, htrans _ _ _ hstep hR⟩
      rintro before middle after hes
      cases before with
      | nil =>
        cases middle with
        | nil => exact ⟨hs, hrefl s⟩
        | cons e' middle =>
          obtain ⟨rfl, hrun⟩ := List.cons.inj hes
          exact hafter middle after hrun
      | cons e' before =>
        obtain ⟨rfl, hrun⟩ := List.cons.inj hes
        exact htail before middle after hrun

end Total

end Run
