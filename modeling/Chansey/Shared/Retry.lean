import Chansey.Lib.Number
import Mathlib.Algebra.Order.Ring.Unbundled.Rat
import Mathlib.Tactic.Linarith
import Mathlib.Tactic.Ring

/-!
# Retried operations

An operation is called until it succeeds, fails for good or has used up its retries, with a wait
before each retry.

* `leadingFailures`: how many of the attempts allowed fail retryably in a row.
-/

namespace Chansey.Retry

/-- The options, with their defaults. The callback may give a delay of its own. -/
structure RetryOptions (E : Type) where
  maxRetries : ℤ := 3
  initialDelayMs : ℚ := 1000
  maxDelayMs : ℚ := 30000
  backoffMultiplier : ℚ := 2
  isRetryable : E → Bool
  onRetry : Option (E → ℕ → ℚ → Option ℚ) := none

structure RetryResult (T E : Type) where
  success : Bool
  result : Option T := none
  error : Option E := none
  attempts : ℕ
  totalDelayMs : ℚ

/-- The draws of `Math.random`, one before each retry. -/
structure Draws where
  value : ℕ → ℚ
  nonneg : ∀ n, 0 ≤ value n
  lt_one : ∀ n, value n < 1

/-- The variables of the loop, the calls made and the waits. -/
structure LoopState (T E : Type) where
  result : Option T := none
  lastError : Option E := none
  attempts : ℕ := 0
  totalDelayMs : ℚ := 0
  calls : ℕ := 0
  waits : List ℚ := []

variable {T E : Type} (options : RetryOptions E) (draws : Draws) (operation : ℕ → Except E T)

def cappedDelay (attempt : ℕ) : ℚ :=
  min (options.initialDelayMs * options.backoffMultiplier ^ attempt) options.maxDelayMs

def calculateDelay (attempt : ℕ) : ℤ :=
  Js.round (cappedDelay options attempt +
    cappedDelay options attempt * (1 / 4) * (draws.value attempt * 2 - 1))

def delayOf (attempt : ℕ) (error : E) : ℚ :=
  (options.onRetry.bind fun onRetry =>
    onRetry error (attempt + 1) (calculateDelay options draws attempt)).getD
      (calculateDelay options draws attempt)

def loop : ℕ → ℕ → LoopState T E → LoopState T E
  | 0, _, s => s
  | left + 1, attempt, s =>
    let s := { s with attempts := attempt + 1, calls := s.calls + 1 }
    match operation attempt with
    | .ok result => { s with result := some result }
    | .error error =>
      let s := { s with lastError := some error }
      if attempt < options.maxRetries ∧ options.isRetryable error then
        let delay := delayOf options draws attempt error
        loop left (attempt + 1)
          { s with totalDelayMs := s.totalDelayMs + delay, waits := s.waits ++ [delay] }
      else s

def allowed : ℕ := (options.maxRetries + 1).toNat

def runLoop : LoopState T E := loop options draws operation (allowed options) 0 {}

/-- What is returned: in the loop after a success, else behind it. -/
def LoopState.toResult (s : LoopState T E) : RetryResult T E where
  success := s.result.isSome
  result := s.result
  error := if s.result.isSome then none else s.lastError
  attempts := s.attempts
  totalDelayMs := s.totalDelayMs

def withRetry : RetryResult T E := (runLoop options draws operation).toResult

def failsRetryably (attempt : ℕ) : Bool :=
  match operation attempt with
  | .ok _ => false
  | .error error => options.isRetryable error

def leadingFailures : ℕ :=
  ((List.range (allowed options)).takeWhile (failsRetryably options operation)).length

/-- A wait before the retry after an attempt: the delay that the callback gives, else one within a
quarter of the capped delay, rounded. -/
def WaitOf (attempt : ℕ) (wait : ℚ) : Prop :=
  ∃ error, operation attempt = .error error ∧
    ((∃ onRetry ∈ options.onRetry, ∃ delay, onRetry error (attempt + 1) delay = some wait) ∨
      ∃ delay, |delay - cappedDelay options attempt| ≤ |cappedDelay options attempt| / 4 ∧
        wait = Js.round delay)

/-- **The law of a run.** -/
structure RetryLaw (s : LoopState T E) (result : RetryResult T E) : Prop where
  calls : s.calls = min (leadingFailures options operation + 1) (allowed options)
  attempts : result.attempts = s.calls
  none : s.calls = 0 → result.success = false ∧ result.error = none
  ok : ∀ n value, s.calls = n + 1 → operation n = .ok value →
    result.success = true ∧ result.result = some value
  error : ∀ n error, s.calls = n + 1 → operation n = .error error →
    result.success = false ∧ result.error = some error
  total : result.totalDelayMs = s.waits.sum
  waits_length : s.waits.length = s.calls - 1
  waits : ∀ n wait, s.waits[n]? = some wait → WaitOf options operation n wait

/-! ## The loop -/

variable {options draws operation}

theorem cappedDelay_le (attempt : ℕ) : cappedDelay options attempt ≤ options.maxDelayMs :=
  min_le_right _ _

theorem waitOf_delayOf {attempt : ℕ} {error : E} (h : operation attempt = .error error) :
    WaitOf options operation attempt (delayOf options draws attempt error) := by
  refine ⟨error, h, ?_⟩
  unfold delayOf
  cases hcustom : options.onRetry.bind fun onRetry =>
      onRetry error (attempt + 1) (calculateDelay options draws attempt) with
  | some =>
    obtain ⟨onRetry, hmem, hdelay⟩ := Option.bind_eq_some_iff.mp hcustom
    exact .inl ⟨onRetry, hmem, _, hdelay⟩
  | none =>
    refine .inr ⟨_, ?_, rfl⟩
    have hlow := draws.nonneg attempt
    have hhigh := draws.lt_one attempt
    have hdraw : |draws.value attempt * 2 - 1| ≤ 1 := abs_le.mpr ⟨by linarith, by linarith⟩
    rw [add_sub_cancel_left, abs_mul, abs_mul]
    have := mul_le_mul_of_nonneg_left hdraw
      (mul_nonneg (abs_nonneg (cappedDelay options attempt)) (abs_nonneg (1 / 4 : ℚ)))
    rw [abs_of_pos (by norm_num : (0 : ℚ) < 1 / 4)] at this ⊢
    linarith

theorem leadingFailures_eq {n : ℕ} (hn : n ≤ allowed options)
    (hall : ∀ i < n, failsRetryably options operation i = true)
    (hstop : n = allowed options ∨ failsRetryably options operation n = false) :
    leadingFailures options operation = n := by
  obtain ⟨k, hk⟩ := Nat.exists_eq_add_of_le hn
  rw [leadingFailures, hk, List.range_add, List.takeWhile_append_of_pos
    fun i hi => hall i (List.mem_range.mp hi), List.length_append, List.length_range]
  cases k with
  | zero => simp
  | succ =>
    have hfails : failsRetryably options operation n = false := hstop.resolve_left fun h => by omega
    rw [List.range_succ_eq_map, List.map_cons, List.takeWhile_cons_of_neg (by simp [hfails])]
    rfl

/-- The state at the head of the loop, after `n` attempts that failed retryably. -/
structure Turned (options : RetryOptions E) (draws : Draws) (operation : ℕ → Except E T) (n : ℕ)
    (s : LoopState T E) : Prop where
  result : s.result = none
  lastError : n = 0 → s.lastError = none
  attempts : s.attempts = n
  calls : s.calls = n
  failed : ∀ i < n, failsRetryably options operation i = true
  total : s.totalDelayMs = s.waits.sum
  waits_length : s.waits.length = n
  waits : ∀ i wait, s.waits[i]? = some wait → WaitOf options operation i wait

theorem Turned.retry {n : ℕ} {s : LoopState T E} {error : E}
    (h : Turned options draws operation n s) (herr : operation n = .error error)
    (hretry : options.isRetryable error = true) :
    Turned options draws operation (n + 1)
      { s with
        attempts := n + 1
        calls := s.calls + 1
        lastError := some error
        totalDelayMs := s.totalDelayMs + delayOf options draws n error
        waits := s.waits ++ [delayOf options draws n error] } where
  result := h.result
  lastError := fun hzero => absurd hzero n.succ_ne_zero
  attempts := rfl
  calls := congrArg (· + 1) h.calls
  failed i hi := by
    rcases Nat.lt_succ_iff_lt_or_eq.mp hi with hi | rfl
    · exact h.failed i hi
    · rw [failsRetryably, herr]
      exact hretry
  total := by
    change s.totalDelayMs + _ = (s.waits ++ [_]).sum
    rw [List.sum_append, List.sum_singleton, h.total]
  waits_length := by
    change (s.waits ++ [_]).length = n + 1
    rw [List.length_append, List.length_singleton, h.waits_length]
  waits i wait hi := by
    change (s.waits ++ [_])[i]? = some wait at hi
    rw [List.getElem?_append] at hi
    split_ifs at hi with hlt
    · exact h.waits i wait hi
    · obtain ⟨hle, hget⟩ := List.getElem?_eq_some_iff.mp hi
      rw [List.length_singleton] at hle
      obtain rfl : i = n := by
        have := h.waits_length
        omega
      rw [List.getElem_singleton] at hget
      exact hget ▸ waitOf_delayOf herr

theorem Turned.law {n : ℕ} {s t : LoopState T E} (h : Turned options draws operation n s)
    (hcalls : t.calls = n + 1) (hattempts : t.attempts = n + 1)
    (htotal : t.totalDelayMs = s.totalDelayMs) (hwaits : t.waits = s.waits)
    (hmin : n + 1 = min (leadingFailures options operation + 1) (allowed options))
    (hok : ∀ value, operation n = .ok value → t.result = some value)
    (herr : ∀ error, operation n = .error error → t.result = none ∧ t.lastError = some error) :
    RetryLaw options operation t t.toResult where
  calls := hcalls.trans hmin
  attempts := hattempts.trans hcalls.symm
  none hzero := absurd (hcalls.symm.trans hzero) n.succ_ne_zero
  ok m value hm hvalue := by
    obtain rfl : n = m := Nat.succ.inj (hcalls.symm.trans hm)
    have hres := hok value hvalue
    exact ⟨by rw [LoopState.toResult, hres]; rfl, hres⟩
  error m error hm herror := by
    obtain rfl : n = m := Nat.succ.inj (hcalls.symm.trans hm)
    obtain ⟨hres, hlast⟩ := herr error herror
    rw [LoopState.toResult, hres, hlast]
    exact ⟨rfl, rfl⟩
  total := htotal.trans (h.total.trans (congrArg List.sum hwaits.symm))
  waits_length := by rw [hwaits, h.waits_length, hcalls, Nat.add_sub_cancel]
  waits i wait hi := h.waits i wait (hwaits ▸ hi)

theorem Turned.loop_law {left n : ℕ} {s : LoopState T E} (h : Turned options draws operation n s)
    (hleft : left + n = allowed options) (hzero : left = 0 → n = 0) :
    RetryLaw options operation (loop options draws operation left n s)
      (loop options draws operation left n s).toResult := by
  have hmax : (allowed options : ℤ) = max (options.maxRetries + 1) 0 := Int.toNat_eq_max _
  induction left generalizing n s with
  | zero =>
    obtain rfl := hzero rfl
    have hcalls := h.calls
    rw [loop]
    exact
      { calls := by rw [hcalls, ← hleft, Nat.zero_add, Nat.min_zero]
        attempts := h.attempts.trans hcalls.symm
        none := fun _ => by rw [LoopState.toResult, h.result, h.lastError rfl]; exact ⟨rfl, rfl⟩
        ok := fun m _ hm => absurd (hcalls.symm.trans hm) m.succ_ne_zero.symm
        error := fun m _ hm => absurd (hcalls.symm.trans hm) m.succ_ne_zero.symm
        total := h.total
        waits_length := h.waits_length.trans (by rw [hcalls])
        waits := h.waits }
  | succ left ih =>
    have hlast : failsRetryably options operation n = false →
        n + 1 = min (leadingFailures options operation + 1) (allowed options) := by
      intro hfails
      rw [leadingFailures_eq (by omega) h.failed (.inr hfails)]
      omega
    rw [loop]
    cases hop : operation n with
    | ok =>
      refine h.law (congrArg (· + 1) h.calls) rfl rfl rfl (hlast (by rw [failsRetryably, hop]))
        (fun v hv => ?_) fun e he => ?_
      · rw [hop, Except.ok.injEq] at hv
        exact congrArg some hv
      · rw [hop] at he
        cases he
    | error error =>
      dsimp only
      split_ifs with hcond
      · exact ih (h.retry hop hcond.2) (by omega) (by omega)
      · refine h.law (congrArg (· + 1) h.calls) rfl rfl rfl ?_ (fun v hv => ?_) fun e he => ?_
        · by_cases hretry : options.isRetryable error = true
          · -- the last attempt allowed
            have hlim : ¬ (n : ℤ) < options.maxRetries := fun hlt => hcond ⟨hlt, hretry⟩
            have hn : n + 1 = allowed options := by omega
            rw [leadingFailures_eq le_rfl (fun i hi => ?_) (.inl rfl)]
            · omega
            · rcases Nat.lt_succ_iff_lt_or_eq.mp (hn ▸ hi) with hi | rfl
              · exact h.failed i hi
              · rw [failsRetryably, hop]
                exact hretry
          · exact hlast (by rw [failsRetryably, hop]; exact Bool.eq_false_iff.mpr hretry)
        · rw [hop] at hv
          cases hv
        · rw [hop, Except.error.injEq] at he
          exact ⟨h.result, congrArg some he⟩

/-- **Every run obeys the law.** -/
theorem retry_law (options : RetryOptions E) (draws : Draws) (operation : ℕ → Except E T) :
    RetryLaw options operation (runLoop options draws operation)
        (withRetry options draws operation) ∧
      ∀ attempt, cappedDelay options attempt ≤ options.maxDelayMs := by
  have hstart : Turned options draws operation 0 ({} : LoopState T E) :=
    { result := rfl
      lastError := fun _ => rfl
      attempts := rfl
      calls := rfl
      failed := fun i hi => absurd hi i.not_lt_zero
      total := List.sum_nil.symm
      waits_length := rfl
      waits := fun i wait hi => by simp at hi }
  exact ⟨hstart.loop_law rfl fun _ => rfl, cappedDelay_le⟩

theorem waits_beyond_maximum :
    ∃ (options : RetryOptions Unit) (draws : Draws) (operation : ℕ → Except Unit Unit),
      ∃ wait ∈ (runLoop options draws operation).waits, options.maxDelayMs < wait := by
  refine ⟨{ maxRetries := 1, maxDelayMs := 1000, isRetryable := fun _ => true },
    { value := fun _ => 9 / 10, nonneg := fun _ => by norm_num,
      lt_one := fun _ => by norm_num },
    fun _ => .error (), 1200, ?_, ?_⟩
  · decide +kernel
  · decide +kernel

end Chansey.Retry
