import Mathlib.Data.List.Basic

/-!
# Remote calls that may fail after they took effect

A request to a remote system is answered, refused before it takes effect, or takes effect while its
answer is lost. The caller cannot tell the last two apart.
-/

namespace Remote

variable {σ ρ ε : Type}

inductive Fate (ε : Type) where
  | answered
  /-- The request took effect, but its answer never arrived. -/
  | lost (error : ε)
  | refused (error : ε)
  deriving DecidableEq

namespace Fate

def reached : Fate ε → Bool
  | answered => true
  | lost _ => true
  | refused _ => false

def error? : Fate ε → Option ε
  | answered => none
  | lost e => some e
  | refused e => some e

/-- The request failed with an error that is worth another attempt. -/
def retried (retryable : ε → Bool) (fate : Fate ε) : Bool := fate.error?.any retryable

end Fate

/-- One request: what it does to the remote system, and what the caller sees. -/
def call (effect : σ → σ × ρ) (s : σ) : Fate ε → σ × Except ε ρ
  | .answered => ((effect s).1, .ok (effect s).2)
  | .lost e => ((effect s).1, .error e)
  | .refused e => (s, .error e)

/-- A request and at most `n` retries. The `k`-th attempt meets the fate `fates k`. The last
component counts the attempts. -/
def retry (retryable : ε → Bool) (effect : σ → σ × ρ) :
    (ℕ → Fate ε) → ℕ → σ → σ × Except ε ρ × ℕ
  | fates, 0, s => ((call effect s (fates 0)).1, (call effect s (fates 0)).2, 1)
  | fates, n + 1, s =>
    match call effect s (fates 0) with
    | (s', .ok v) => (s', .ok v, 1)
    | (s', .error e) =>
      if retryable e then
        let (final, result, attempts) := retry retryable effect (fun k => fates (k + 1)) n s'
        (final, result, attempts + 1)
      else (s', .error e, 1)

/-- The fates of the attempts that `retry` makes. -/
def tried (retryable : ε → Bool) : (ℕ → Fate ε) → ℕ → List (Fate ε)
  | fates, 0 => [fates 0]
  | fates, n + 1 =>
    fates 0 ::
      if (fates 0).retried retryable then tried retryable (fun k => fates (k + 1)) n else []

/-- The remote system after attempts of these fates, and the answers it gave, first to last. -/
def performed (effect : σ → σ × ρ) : σ → List (Fate ε) → σ × List ρ
  | s, [] => (s, [])
  | s, fate :: fates =>
    if fate.reached then
      let (final, answers) := performed effect (effect s).1 fates
      (final, (effect s).2 :: answers)
    else performed effect s fates

section Retry

variable (retryable : ε → Bool) (effect : σ → σ × ρ) (fates : ℕ → Fate ε) (n : ℕ) (s : σ)

theorem performed_length (l : List (Fate ε)) :
    (performed effect s l).2.length = l.countP Fate.reached := by
  induction l generalizing s with
  | nil => rfl
  | cons fate l ih => cases h : fate.reached <;> simp [performed, h, ih]

theorem mem_performed {l : List (Fate ε)} {v : ρ} (h : v ∈ (performed effect s l).2) :
    ∃ s', v = (effect s').2 := by
  induction l generalizing s with
  | nil => simp [performed] at h
  | cons fate l ih =>
    cases hf : fate.reached with
    | false => exact ih s (by simpa [performed, hf] using h)
    | true =>
      simp only [performed, hf, if_true, List.mem_cons] at h
      rcases h with rfl | h
      · exact ⟨s, rfl⟩
      · exact ih (effect s).1 h

theorem call_fst (fate : Fate ε) (l : List (Fate ε)) :
    (performed effect (call effect s fate).1 l).1 = (performed effect s (fate :: l)).1 := by
  cases fate <;> rfl

theorem retry_state :
    (retry retryable effect fates n s).1 = (performed effect s (tried retryable fates n)).1 := by
  induction n generalizing fates s with
  | zero =>
    rw [tried, ← call_fst]
    rfl
  | succ n ih =>
    rw [tried, ← call_fst, retry]
    cases h : fates 0 with
    | answered => rfl
    | lost e | refused e =>
      cases hr : retryable e <;> simp [call, hr, Fate.retried, Fate.error?, ih, performed]

theorem retry_ok {v : ρ} (h : (retry retryable effect fates n s).2.1 = .ok v) :
    (performed effect s (tried retryable fates n)).2.getLast? = some v := by
  induction n generalizing fates s with
  | zero =>
    rw [retry] at h
    cases hf : fates 0 with
    | answered =>
      rw [hf] at h
      cases h
      simp [tried, hf, performed, Fate.reached]
    | lost | refused => simp [hf, call] at h
  | succ n ih =>
    rw [retry] at h
    cases hf : fates 0 with
    | answered =>
      rw [hf] at h
      cases h
      simp [tried, hf, performed, Fate.reached, Fate.retried, Fate.error?]
    | lost e =>
      cases hr : retryable e with
      | false => simp [hf, call, hr] at h
      | true =>
        have hrest := ih (fun k => fates (k + 1)) (effect s).1 (by simpa [hf, call, hr] using h)
        simp [tried, hf, performed, Fate.reached, Fate.retried, Fate.error?, hr,
          List.getLast?_cons, hrest]
    | refused e =>
      cases hr : retryable e with
      | false => simp [hf, call, hr] at h
      | true =>
        have hrest := ih (fun k => fates (k + 1)) s (by simpa [hf, call, hr] using h)
        simp [tried, hf, performed, Fate.reached, Fate.retried, Fate.error?, hr, hrest]

end Retry

/-! ## At most once -/

section Once

variable {retryable : ε → Bool} {effect : σ → σ × ρ} {fates : ℕ → Fate ε} {n : ℕ} {s : σ}

/-- Attempt `j` is made: every attempt before it failed with a retryable error. -/
def Made (retryable : ε → Bool) (fates : ℕ → Fate ε) (n j : ℕ) : Prop :=
  j ≤ n ∧ ∀ k < j, (fates k).retried retryable = true

/-- An attempt that reached the remote system is followed by another that does. -/
def ReachedAgain (retryable : ε → Bool) (fates : ℕ → Fate ε) (n : ℕ) : Prop :=
  ∃ i j, i < j ∧ Made retryable fates n j ∧ (fates i).reached = true ∧ (fates j).reached = true

theorem made_zero : Made retryable fates n 0 := ⟨Nat.zero_le n, fun k hk => absurd hk (by omega)⟩

theorem made_succ {j : ℕ} :
    Made retryable fates (n + 1) (j + 1) ↔
      (fates 0).retried retryable = true ∧ Made retryable (fun k => fates (k + 1)) n j := by
  constructor
  · rintro ⟨_, hall⟩
    exact ⟨hall 0 (by omega), by omega, fun k hk => hall (k + 1) (by omega)⟩
  · rintro ⟨h0, _, hall⟩
    refine ⟨by omega, fun k hk => ?_⟩
    cases k with
    | zero => exact h0
    | succ k => exact hall k (by omega)

theorem countP_tried_eq_zero :
    (tried retryable fates n).countP Fate.reached = 0 ↔
      ∀ j, Made retryable fates n j → (fates j).reached = false := by
  induction n generalizing fates with
  | zero =>
    rw [tried, List.countP_eq_zero]
    constructor
    · rintro h j ⟨_, -⟩
      obtain rfl : j = 0 := by omega
      simpa using h
    · intro h
      simpa using h 0 made_zero
  | succ n ih =>
    rw [tried, List.countP_cons, Nat.add_eq_zero_iff]
    constructor
    · rintro ⟨hrest, h0⟩ j hj
      cases j with
      | zero => simpa using h0
      | succ j =>
        obtain ⟨hretr, hj⟩ := made_succ.mp hj
        rw [if_pos hretr] at hrest
        exact ih.mp hrest j hj
    · intro h
      refine ⟨?_, by simpa using h 0 made_zero⟩
      split_ifs with hretr
      · exact ih.mpr fun j hj => h (j + 1) (made_succ.mpr ⟨hretr, hj⟩)
      · rfl

theorem countP_tried_le_one :
    (tried retryable fates n).countP Fate.reached ≤ 1 ↔ ¬ ReachedAgain retryable fates n := by
  induction n generalizing fates with
  | zero =>
    refine iff_of_true ?_ ?_
    · exact List.countP_le_length
    · rintro ⟨i, j, _, ⟨_, -⟩, -⟩
      omega
  | succ n ih =>
    have hagain : ReachedAgain retryable fates (n + 1) ↔
        (fates 0).retried retryable = true ∧
          (((fates 0).reached = true ∧ ∃ j, Made retryable (fun k => fates (k + 1)) n j ∧
            (fates (j + 1)).reached = true) ∨ ReachedAgain retryable (fun k => fates (k + 1)) n) := by
      constructor
      · rintro ⟨i, j, _, hj, hi, hrch⟩
        obtain ⟨j, rfl⟩ : ∃ j', j = j' + 1 := ⟨j - 1, by omega⟩
        obtain ⟨hretr, hj⟩ := made_succ.mp hj
        refine ⟨hretr, ?_⟩
        cases i with
        | zero => exact .inl ⟨hi, j, hj, hrch⟩
        | succ i => exact .inr ⟨i, j, by omega, hj, hi, hrch⟩
      · rintro ⟨hretr, ⟨h0, j, hj, hrch⟩ | ⟨i, j, _, hj, hi, hrch⟩⟩
        · exact ⟨0, j + 1, by omega, made_succ.mpr ⟨hretr, hj⟩, h0, hrch⟩
        · exact ⟨i + 1, j + 1, by omega, made_succ.mpr ⟨hretr, hj⟩, hi, hrch⟩
    rw [hagain, tried, List.countP_cons]
    by_cases hretr : (fates 0).retried retryable = true
    · rw [if_pos hretr]
      cases hrch : (fates 0).reached with
      | false => simpa [hretr, hrch] using ih
      | true =>
        have hnone : (tried retryable (fun k => fates (k + 1)) n).countP Fate.reached = 0 ↔ _ :=
          countP_tried_eq_zero
        have hcount : (tried retryable (fun k => fates (k + 1)) n).countP Fate.reached + 1 ≤ 1 ↔
            (tried retryable (fun k => fates (k + 1)) n).countP Fate.reached = 0 := by omega
        simp only [hretr, true_and, if_true]
        rw [hcount, hnone]
        constructor
        · rintro hall (⟨j, hj, hjr⟩ | ⟨i, j, -, hj, -, hjr⟩) <;> simp [hall j hj] at hjr
        · intro h j hj
          rw [← Bool.not_eq_true]
          exact fun hjr => h (Or.inl ⟨j, hj, hjr⟩)
    · rw [if_neg hretr]
      simp [hretr]
      split_ifs <;> omega

theorem eq_singleton_of_getLast? {l : List ρ} {v : ρ} (hle : l.length ≤ 1)
    (hlast : l.getLast? = some v) : l = [v] := by
  cases l with
  | nil => simp at hlast
  | cons v' rest =>
    obtain rfl : rest = [] := List.eq_nil_of_length_eq_zero (by simpa using hle)
    simpa using hlast

def PerformsOnce (retryable : ε → Bool) (effect : σ → σ × ρ) (fates : ℕ → Fate ε) (n : ℕ)
    (s : σ) : Prop :=
  (performed effect s (tried retryable fates n)).2.length ≤ 1 ∧
    ∀ v, (retry retryable effect fates n s).2.1 = .ok v →
      (performed effect s (tried retryable fates n)).2 = [v]

theorem performs_once_iff :
    PerformsOnce retryable effect fates n s ↔ ¬ ReachedAgain retryable fates n := by
  rw [PerformsOnce, performed_length, countP_tried_le_one]
  refine and_iff_left_of_imp fun hagain v hv => ?_
  have hle : (performed effect s (tried retryable fates n)).2.length ≤ 1 := by
    rw [performed_length]
    exact countP_tried_le_one.mpr hagain
  exact eq_singleton_of_getLast? hle (retry_ok retryable effect fates n s hv)

/-! ## Exactly once -/

def Reached (retryable : ε → Bool) (fates : ℕ → Fate ε) (n : ℕ) : Prop :=
  ∃ j, Made retryable fates n j ∧ (fates j).reached = true

/-- An attempt is answered, and none before it reached the remote system. -/
def AnsweredOnce (retryable : ε → Bool) (fates : ℕ → Fate ε) (n : ℕ) : Prop :=
  ∃ j, Made retryable fates n j ∧ fates j = .answered ∧ ∀ i < j, (fates i).reached = false

theorem performed_eq_nil_iff :
    (performed effect s (tried retryable fates n)).2 = [] ↔ ¬ Reached retryable fates n := by
  rw [← List.length_eq_zero_iff, performed_length, countP_tried_eq_zero, Reached]
  push Not
  simp

theorem answeredOnce_of_answered (h : fates 0 = .answered) : AnsweredOnce retryable fates n :=
  ⟨0, made_zero, h, fun i hi => absurd hi (Nat.not_lt_zero i)⟩

theorem answeredOnce_succ (h : (fates 0).reached = false) :
    AnsweredOnce retryable fates (n + 1) ↔
      (fates 0).retried retryable = true ∧ AnsweredOnce retryable (fun k => fates (k + 1)) n := by
  constructor
  · rintro ⟨j, hmade, hansd, hbef⟩
    cases j with
    | zero => simp [hansd, Fate.reached] at h
    | succ j =>
      obtain ⟨hretr, hmade⟩ := made_succ.mp hmade
      exact ⟨hretr, j, hmade, hansd, fun i hi => hbef (i + 1) (by omega)⟩
  · rintro ⟨hretr, j, hmade, hansd, hbef⟩
    refine ⟨j + 1, made_succ.mpr ⟨hretr, hmade⟩, hansd, fun i hi => ?_⟩
    cases i with
    | zero => exact h
    | succ i => exact hbef i (by omega)

theorem not_answeredOnce_of_lost {e : ε} (h : fates 0 = .lost e) :
    ¬ AnsweredOnce retryable fates n := by
  rintro ⟨j, -, hansd, hbef⟩
  cases j with
  | zero => simp [h] at hansd
  | succ j => simpa [h, Fate.reached] using hbef 0 (Nat.succ_pos j)

theorem answered_once_iff :
    (∃ v, (retry retryable effect fates n s).2.1 = .ok v ∧
        (performed effect s (tried retryable fates n)).2 = [v]) ↔
      AnsweredOnce retryable fates n := by
  induction n generalizing fates s with
  | zero =>
    cases hf : fates 0 with
    | answered =>
      refine iff_of_true ⟨(effect s).2, ?_, ?_⟩ (answeredOnce_of_answered hf)
      · simp [retry, hf, call]
      · simp [tried, hf, performed, Fate.reached]
    | lost =>
      refine iff_of_false ?_ (not_answeredOnce_of_lost hf)
      simp [retry, hf, call]
    | refused =>
      refine iff_of_false (by simp [retry, hf, call]) ?_
      rintro ⟨j, ⟨_, -⟩, hansd, -⟩
      obtain rfl : j = 0 := by omega
      simp [hf] at hansd
  | succ n ih =>
    cases hf : fates 0 with
    | answered =>
      refine iff_of_true ⟨(effect s).2, ?_, ?_⟩ (answeredOnce_of_answered hf)
      · simp [retry, hf, call]
      · simp [tried, hf, performed, Fate.reached, Fate.retried, Fate.error?]
    | lost e =>
      refine iff_of_false ?_ (not_answeredOnce_of_lost hf)
      rintro ⟨v, hok, hlist⟩
      cases hr : retryable e with
      | false => simp [retry, hf, call, hr] at hok
      | true =>
        -- the lost attempt took effect, and so did the one whose answer is returned
        have hlast := retry_ok retryable effect (fun k => fates (k + 1)) n (effect s).1
          (by simpa [retry, hf, call, hr] using hok)
        have hrest : (performed effect (effect s).1
            (tried retryable (fun k => fates (k + 1)) n)).2 = [] := by
          simpa [tried, hf, performed, Fate.reached, Fate.retried, Fate.error?, hr] using
            congrArg List.tail hlist
        simp [hrest] at hlast
    | refused e =>
      rw [answeredOnce_succ (by simp [hf, Fate.reached]), ← ih (s := s)]
      cases hr : retryable e with
      | false => simp [retry, hf, call, hr, Fate.retried, Fate.error?]
      | true =>
        simp [retry, hf, call, hr, Fate.retried, Fate.error?, tried, performed, Fate.reached]

end Once

end Remote
