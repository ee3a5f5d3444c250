import Chansey.Lib.RingBuffer
import Mathlib.Data.List.GetD
import Mathlib.Tactic.Ring

/-!
# Buffers as bounded histories

A caller of `RingBuffer` sees the last `capacity` elements it pushed, whatever it calls in between,
and a caller of `IncrementalSma` their mean.

* `RingBuffer.answers`: what a buffer answers to calls made one after another. `historyAnswers`: the
  same of the list of everything pushed.
* `IncrementalSma.Sums`: what a moving average holds after some values. **`Sums.push`**.
-/

namespace RingBuffer

variable {α : Type} {b : RingBuffer α} {xs : List α}

/-- A call of a public method. -/
inductive Call (α : Type) where
  | push (item : α)
  | toArray
  | get (index : ℤ)
  | last
  | length

inductive Answer (α : Type) where
  | done
  | array (items : List α)
  | item (item : Option α)
  | length (n : ℕ)
  deriving DecidableEq

def call (b : RingBuffer α) : Call α → RingBuffer α × Answer α
  | .push item => (b.push item, .done)
  | .toArray => (b, .array b.toArray)
  | .get index => (b, .item (if index < 0 then none else b.get index.toNat))
  | .last => (b, .item b.last)
  | .length => (b, .length b.count)

def answers (b : RingBuffer α) : List (Call α) → List (Answer α)
  | [] => []
  | c :: cs => (b.call c).2 :: answers (b.call c).1 cs

/-- A call on the list of everything pushed, of which the last `capacity` elements are seen. -/
def historyCall (capacity : ℕ) (xs : List α) : Call α → List α × Answer α
  | .push item => (xs ++ [item], .done)
  | .toArray => (xs, .array (xs.rtake capacity))
  | .get index => (xs, .item (if index < 0 then none else (xs.rtake capacity)[index.toNat]?))
  | .last => (xs, .item (xs.rtake capacity).getLast?)
  | .length => (xs, .length (xs.rtake capacity).length)

def historyAnswers (capacity : ℕ) (xs : List α) : List (Call α) → List (Answer α)
  | [] => []
  | c :: cs => (historyCall capacity xs c).2 :: historyAnswers capacity (historyCall capacity xs c).1 cs

/-! ## Reads -/

theorem length_rtake (xs : List α) (n : ℕ) : (xs.rtake n).length = min xs.length n := by
  rw [List.rtake, List.length_drop]
  omega

theorem Holds.length_eq (h : Holds b xs) : (xs.rtake b.capacity).length = b.count := by
  rw [length_rtake, h.count]

theorem Holds.get (h : Holds b xs) (i : ℕ) : b.get i = (xs.rtake b.capacity)[i]? := by
  rw [RingBuffer.get]
  split_ifs with hi
  · rw [h.read hi, List.rtake, List.getElem?_drop]
  · rw [List.getElem?_eq_none (by rw [h.length_eq]; omega)]

theorem Holds.last (h : Holds b xs) : b.last = (xs.rtake b.capacity).getLast? := by
  rw [List.getLast?_eq_getElem?, h.length_eq, ← h.get, RingBuffer.last, RingBuffer.get]
  split_ifs with hzero hlt hlt
  · omega
  · rfl
  · rw [show b.head + b.capacity - b.count + (b.count - 1) = b.head + b.capacity - 1 by
      have := h.count
      omega]
  · omega

/-- **One call.** A buffer that holds `xs` answers from `xs`, and holds the new history. -/
theorem Holds.call (h : Holds b xs) (c : Call α) :
    (b.call c).2 = (historyCall b.capacity xs c).2 ∧
      Holds (b.call c).1 (historyCall b.capacity xs c).1 ∧ (b.call c).1.capacity = b.capacity := by
  cases c with
  | push item => exact ⟨rfl, h.push item, rfl⟩
  | toArray => exact ⟨congrArg Answer.array h.toArray, h, rfl⟩
  | get => exact ⟨by rw [RingBuffer.call, historyCall, h.get], h, rfl⟩
  | last => exact ⟨congrArg Answer.item h.last, h, rfl⟩
  | length => exact ⟨congrArg Answer.length h.length_eq.symm, h, rfl⟩

theorem answers_eq_history (h : Holds b xs) (calls : List (Call α)) :
    b.answers calls = historyAnswers b.capacity xs calls := by
  induction calls generalizing b xs with
  | nil => rfl
  | cons c cs ih =>
    obtain ⟨hans, hnext, hcap⟩ := h.call c
    rw [answers, historyAnswers, hans, ih hnext, hcap]

end RingBuffer

/-! ## Moving averages -/

namespace IncrementalSma

variable {sma : IncrementalSma} {values : List ℚ}

/-- The cells of a moving average. -/
def window (sma : IncrementalSma) (h : 0 < sma.period) : RingBuffer ℚ where
  capacity := sma.period
  capacity_pos := h
  buf := sma.buf.map some
  head := sma.head
  count := sma.count

/-- The average after `values`: its cells hold them, its sum is that of the last ones. -/
structure Sums (sma : IncrementalSma) (values : List ℚ) : Prop where
  period_pos : 0 < sma.period
  holds : (sma.window period_pos).Holds values
  sum : sma.sum = (values.rtake sma.period).sum

theorem sums_new {period : ℕ} (h : 0 < period) :
    Sums ({ period := period } : IncrementalSma) [] where
  period_pos := h
  holds :=
    { length := by rw [window, List.length_map, List.length_replicate]
      head := (Nat.zero_mod period).symm
      count := (Nat.zero_min period).symm
      cell := fun j hj => absurd hj (Nat.not_lt_zero j) }
  sum := by simp

theorem sum_rtake_concat (values : List ℚ) {n : ℕ} (hn : 0 < n) (value : ℚ) :
    ((values ++ [value]).rtake n).sum =
      (values.rtake n).sum - (if n ≤ values.length then values.getD (values.length - n) 0 else 0) +
        value := by
  have hdrop : (values ++ [value]).rtake n = values.drop (values.length + 1 - n) ++ [value] := by
    rw [List.rtake, List.length_append, List.length_singleton,
      List.drop_append_of_le_length (by omega)]
  rw [hdrop, List.sum_append, List.sum_singleton, List.rtake]
  split_ifs with hle
  · -- the oldest of the last values leaves
    have hlt : values.length - n < values.length := by omega
    rw [List.drop_eq_getElem_cons hlt, List.sum_cons, List.getD_eq_getElem _ _ hlt,
      show values.length + 1 - n = values.length - n + 1 by omega]
    ring
  · rw [show values.length + 1 - n = values.length - n by omega, sub_zero]

theorem Sums.push (h : Sums sma values) (value : ℚ) :
    Sums (sma.push value) (values ++ [value]) where
  period_pos := h.period_pos
  holds := by
    have hpush : (sma.push value).window h.period_pos = (sma.window h.period_pos).push value := by
      simp only [window, RingBuffer.push, IncrementalSma.push, List.map_set]
      rfl
    rw [hpush]
    exact h.holds.push value
  sum := by
    have hcount : sma.count = min values.length sma.period := h.holds.count
    have hpos := h.period_pos
    change (if sma.period ≤ sma.count then sma.sum - sma.buf.getD sma.head 0 else sma.sum) + value =
      ((values ++ [value]).rtake sma.period).sum
    rw [sum_rtake_concat values hpos, h.sum]
    by_cases hfull : sma.period ≤ values.length
    · have hcell := h.holds.cell (values.length - sma.period) (by omega)
        (by change _ ≤ _ + sma.period; omega)
      have hhead : sma.head = (values.length - sma.period) % sma.period := by
        rw [← Nat.mod_eq_sub_mod hfull]
        exact h.holds.head
      change (sma.buf.map some)[(values.length - sma.period) % sma.period]? = _ at hcell
      rw [← hhead, List.getElem?_map, Option.map_eq_some_iff] at hcell
      obtain ⟨v, hv, hsome⟩ := hcell
      rw [if_pos (by omega), if_pos hfull, List.getD_eq_getElem?_getD, hv,
        List.getD_eq_getElem _ _ (by omega), ← Option.some.inj hsome, Option.getD_some]
    · rw [if_neg (by omega), if_neg hfull, sub_zero]

theorem Sums.foldl_push (h : Sums sma values) (more : List ℚ) :
    Sums (more.foldl IncrementalSma.push sma) (values ++ more) := by
  induction more generalizing sma values with
  | nil => rwa [List.append_nil]
  | cons value more ih =>
    rw [← List.singleton_append, ← List.append_assoc]
    exact ih (h.push value)

theorem period_foldl_push (sma : IncrementalSma) (values : List ℚ) :
    (values.foldl IncrementalSma.push sma).period = sma.period := by
  induction values generalizing sma with
  | nil => rfl
  | cons value values ih => exact ih (sma.push value)

theorem Sums.value (h : Sums sma values) :
    sma.value = if values = [] then none
      else some ((values.rtake sma.period).sum / (min values.length sma.period : ℕ)) := by
  have hcount : sma.count = min values.length sma.period := h.holds.count
  rw [IncrementalSma.value, h.sum, ← hcount]
  exact if_congr h.holds.count_eq_zero rfl rfl

end IncrementalSma

namespace Chansey.Window

open RingBuffer

/-- **Buffers and averages refine the bounded history.** -/
theorem refine_history {α : Type} {capacity period : ℕ} (hcap : 0 < capacity)
    (hper : 0 < period) (calls : List (Call α)) (values : List ℚ) :
    ({ capacity := capacity, capacity_pos := hcap } : RingBuffer α).answers calls =
        historyAnswers capacity [] calls ∧
      (values.foldl IncrementalSma.push { period := period }).value =
        if values = [] then none
        else some ((values.rtake period).sum / (min values.length period : ℕ)) := by
  refine ⟨answers_eq_history (holds_new hcap) calls, ?_⟩
  have hval := ((IncrementalSma.sums_new hper).foldl_push values).value
  rwa [List.nil_append, IncrementalSma.period_foldl_push] at hval

theorem refine_history_wrapped :
    ({ capacity := 3, capacity_pos := by decide } : RingBuffer ℕ).answers
        [.push 1, .push 2, .push 3, .push 4, .toArray, .get 0, .get (-1), .last, .length] =
      [.done, .done, .done, .done, .array [2, 3, 4], .item (some 2), .item none, .item (some 4),
        .length 3] ∧
      ([1, 2, 6].foldl IncrementalSma.push { period := 2 }).value = some 4 := by
  have h := @refine_history ℕ 3 2 (by decide) (by decide)
    [.push 1, .push 2, .push 3, .push 4, .toArray, .get 0, .get (-1), .last, .length] [1, 2, 6]
  rw [h.1, h.2]
  decide +kernel

end Chansey.Window
