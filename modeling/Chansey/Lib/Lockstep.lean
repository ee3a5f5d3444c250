import Mathlib.Logic.Basic

/-!
# Two machines in lockstep

A machine reads inputs one by one and shows something after each. It stops when what it shows is
final.

* `trace step closed s as`: what a machine shows on the inputs `as`.
* `AllMeet step closed ok s as`: every input a machine reads before it stops meets `ok`.
* **`trace_eq_iff`**: if related states show the same exactly on inputs that meet `ok`, and stay
  related on them, two machines show the same exactly when all inputs meet `ok`.
-/

namespace Lockstep

variable {σ τ α ω : Type}

def trace (step : σ → α → σ × ω) (closed : ω → Bool) : σ → List α → List ω
  | _, [] => []
  | s, a :: as =>
    (step s a).2 :: if closed (step s a).2 then [] else trace step closed (step s a).1 as

def AllMeet (step : τ → α → τ × ω) (closed : ω → Bool) (ok : τ → α → Prop) : τ → List α → Prop
  | _, [] => True
  | t, a :: as =>
    ok t a ∧ (closed (step t a).2 = false → AllMeet step closed ok (step t a).1 as)

theorem trace_eq_iff {step : σ → α → σ × ω} {step' : τ → α → τ × ω} {closed : ω → Bool}
    {ok : τ → α → Prop} (R : σ → τ → Prop)
    (hshow : ∀ s t a, R s t → ((step s a).2 = (step' t a).2 ↔ ok t a))
    (hnext : ∀ s t a, R s t → ok t a → closed (step' t a).2 = false →
      R (step s a).1 (step' t a).1) {s : σ} {t : τ} (hst : R s t) (as : List α) :
    trace step closed s as = trace step' closed t as ↔ AllMeet step' closed ok t as := by
  induction as generalizing s t with
  | nil => simp [trace, AllMeet]
  | cons a as ih =>
    rw [trace, trace, AllMeet, List.cons.injEq, hshow s t a hst]
    refine and_congr_right fun hok => ?_
    rw [(hshow s t a hst).mpr hok]
    cases hclos : closed (step' t a).2 with
    | true => simp
    | false => simpa using ih (hnext s t a hst hok hclos)

theorem trace_congr {step step' : σ → α → σ × ω} {closed : ω → Bool} (Inv : σ → Prop)
    {ok : α → Prop} (heq : ∀ s a, Inv s → ok a → step s a = step' s a)
    (hnext : ∀ s a, Inv s → ok a → Inv (step' s a).1) {s : σ} (hs : Inv s) {as : List α}
    (has : ∀ a ∈ as, ok a) : trace step closed s as = trace step' closed s as := by
  induction as generalizing s with
  | nil => rfl
  | cons a as ih =>
    have ha := has a List.mem_cons_self
    rw [trace, trace, heq s a hs ha,
      ih (hnext s a hs ha) fun b hb => has b (List.mem_cons_of_mem a hb)]

end Lockstep
