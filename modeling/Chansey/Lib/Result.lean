import Mathlib.Tactic.Basic

/-!
# Computations that may throw

Rules for `Except` computations and for loops that carry a state through a list.

* **`bind_eq_ok`**: a sequence succeeds exactly when both parts do.
-/

namespace Result

variable {ε α β σ : Type}

theorem bind_eq_ok {x : Except ε α} {f : α → Except ε β} {b : β} :
    (x >>= f) = .ok b ↔ ∃ a, x = .ok a ∧ f a = .ok b := by
  cases x <;> simp [Bind.bind, Except.bind]

theorem map_eq_ok {x : Except ε α} {f : α → β} {b : β} :
    (f <$> x) = .ok b ↔ ∃ a, x = .ok a ∧ f a = b := by
  cases x <;> simp [Functor.map, Except.map]

@[simp] theorem ok_bind (a : α) (f : α → Except ε β) : (Except.ok a >>= f) = f a := rfl

@[simp] theorem error_bind (e : ε) (f : α → Except ε β) :
    ((Except.error e : Except ε α) >>= f) = .error e := rfl

@[simp] theorem pure_eq_ok (a : α) : (pure a : Except ε α) = .ok a := rfl

theorem foldlM_invariant {f : σ → α → Except ε σ} {P : σ → Prop} {as : List α} {s t : σ}
    (hstep : ∀ a ∈ as, ∀ s s', P s → f s a = .ok s' → P s') (hs : P s)
    (h : as.foldlM f s = .ok t) : P t := by
  induction as generalizing s with
  | nil =>
    simp only [List.foldlM_nil, pure_eq_ok, Except.ok.injEq] at h
    exact h ▸ hs
  | cons a as ih =>
    rw [List.foldlM_cons, bind_eq_ok] at h
    obtain ⟨s', hs', h⟩ := h
    exact ih (fun b hb => hstep b (List.mem_cons_of_mem a hb))
      (hstep a List.mem_cons_self s s' hs hs') h

theorem foldlM_congr {f g : σ → α → Except ε σ} {as : List α} {s : σ}
    (h : ∀ a ∈ as, ∀ s, f s a = g s a) : as.foldlM f s = as.foldlM g s := by
  induction as generalizing s with
  | nil => rfl
  | cons a as ih =>
    rw [List.foldlM_cons, List.foldlM_cons, h a List.mem_cons_self]
    refine bind_congr fun s' => ih fun b hb => h b (List.mem_cons_of_mem a hb)

end Result
