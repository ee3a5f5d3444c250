import Chansey.Lib.Number
import Mathlib.Data.Int.ModEq
import Mathlib.Data.List.DropRight

/-!
# Circular buffers

A buffer of fixed capacity that overwrites its oldest element when it is full, and a cursor that
moves through a list and keeps the elements it passed in such a buffer.

* **`Holds.toArray`**: after the elements `xs` were pushed, the contents are the last of them.
-/

/-- A circular buffer: its cells, the next cell to write and the number of elements. -/
structure RingBuffer (α : Type) where
  capacity : ℕ
  capacity_pos : 0 < capacity
  buf : List (Option α) := List.replicate capacity none
  head : ℕ := 0
  count : ℕ := 0

namespace RingBuffer

variable {α : Type} (b : RingBuffer α)

def push (item : α) : RingBuffer α :=
  { b with
    buf := b.buf.set b.head (some item)
    head := (b.head + 1) % b.capacity
    count := if b.count < b.capacity then b.count + 1 else b.count }

def get (index : ℕ) : Option α :=
  if index < b.count then
    (b.buf[(b.head + b.capacity - b.count + index) % b.capacity]?).join
  else none

def last : Option α :=
  if b.count = 0 then none else (b.buf[(b.head + b.capacity - 1) % b.capacity]?).join

def toArray : List α :=
  let start := (b.head + b.capacity - b.count) % b.capacity
  (List.range b.count).filterMap fun i => (b.buf[(start + i) % b.capacity]?).join

@[simp] theorem push_capacity (item : α) : (b.push item).capacity = b.capacity := rfl

/-- The buffer after the elements `xs` were pushed: cell `j % capacity` holds the `j`-th of them
until it is overwritten. -/
structure Holds (b : RingBuffer α) (xs : List α) : Prop where
  length : b.buf.length = b.capacity
  head : b.head = xs.length % b.capacity
  count : b.count = min xs.length b.capacity
  cell : ∀ j (hj : j < xs.length), xs.length ≤ j + b.capacity →
    b.buf[j % b.capacity]? = some (some xs[j])

variable {b} {xs : List α}

theorem holds_new {capacity : ℕ} (h : 0 < capacity) :
    Holds ({ capacity := capacity, capacity_pos := h } : RingBuffer α) [] where
  length := List.length_replicate
  head := (Nat.zero_mod capacity).symm
  count := (Nat.zero_min capacity).symm
  cell j hj := absurd hj (Nat.not_lt_zero j)

theorem Holds.push (h : Holds b xs) (x : α) : Holds (b.push x) (xs ++ [x]) where
  length := by
    change (b.buf.set b.head (some x)).length = b.capacity
    rw [List.length_set, h.length]
  head := by
    change (b.head + 1) % b.capacity = _
    rw [h.head, List.length_append, List.length_singleton, Nat.mod_add_mod]
    rfl
  count := by
    have hcount := h.count
    change (if b.count < b.capacity then b.count + 1 else b.count) = min _ b.capacity
    rw [List.length_append, List.length_singleton]
    split_ifs <;> omega
  cell j hj hkept := by
    rw [List.length_append, List.length_singleton] at hj hkept
    rw [push_capacity] at hkept
    have hhead : xs.length % b.capacity < b.buf.length := by
      rw [h.length]
      exact Nat.mod_lt _ b.capacity_pos
    change (b.buf.set b.head (some x))[j % b.capacity]? = _
    rw [h.head]
    by_cases hnew : j = xs.length
    · subst hnew
      rw [List.getElem?_set_self hhead, List.getElem_concat_length rfl]
    · -- an older element whose cell is not the one written
      have hold : j < xs.length := by omega
      have hcell : xs.length % b.capacity ≠ j % b.capacity := by
        intro heq
        have hdvd : b.capacity ∣ xs.length - j := (Nat.modEq_iff_dvd' hold.le).mp heq.symm
        have hle := Nat.le_of_dvd (by omega) hdvd
        omega
      rw [List.getElem?_set_ne hcell, h.cell j hold (by omega), List.getElem_append_left hold]

theorem Holds.foldl_push (h : Holds b xs) (ys : List α) :
    Holds (ys.foldl RingBuffer.push b) (xs ++ ys) := by
  induction ys generalizing b xs with
  | nil => rwa [List.append_nil]
  | cons y ys ih =>
    rw [← List.singleton_append, ← List.append_assoc]
    exact ih (h.push y)

theorem foldl_push_capacity (b : RingBuffer α) (ys : List α) :
    (ys.foldl RingBuffer.push b).capacity = b.capacity := by
  induction ys generalizing b with
  | nil => rfl
  | cons y ys ih => exact ih (b.push y)

theorem filterMap_getElem?_range (l : List α) (n : ℕ) :
    (List.range n).filterMap (fun i => l[i]?) = l.take n := by
  induction n with
  | zero => rfl
  | succ n ih =>
    rw [List.range_succ, List.filterMap_append, ih, List.take_add_one]
    cases hn : l[n]? <;> simp [hn]

theorem Holds.read (h : Holds b xs) {i : ℕ} (hi : i < b.count) :
    (b.buf[(b.head + b.capacity - b.count + i) % b.capacity]?).join =
      xs[xs.length - b.capacity + i]? := by
  have hcount := h.count
  have hj : xs.length - b.capacity + i < xs.length := by omega
  have hcell : (b.head + b.capacity - b.count + i) % b.capacity =
      (xs.length - b.capacity + i) % b.capacity := by
    rw [h.head]
    by_cases hfull : xs.length < b.capacity
    · rw [hcount, min_eq_left hfull.le, Nat.mod_eq_of_lt hfull, Nat.add_sub_cancel_left,
        Nat.add_mod_left, Nat.sub_eq_zero_of_le hfull.le, Nat.zero_add]
    · have hle : b.capacity ≤ xs.length := not_lt.mp hfull
      rw [hcount, min_eq_right hle, Nat.add_sub_cancel, Nat.mod_add_mod]
      conv_lhs => rw [← Nat.sub_add_cancel hle, Nat.add_right_comm, Nat.add_mod_right]
  rw [hcell, h.cell _ hj (by omega), List.getElem?_eq_getElem hj]
  rfl

theorem Holds.toArray (h : Holds b xs) : b.toArray = xs.rtake b.capacity := by
  have hcount := h.count
  have hlen : (xs.drop (xs.length - b.capacity)).length = b.count := by
    rw [List.length_drop, hcount]
    omega
  rw [RingBuffer.toArray, List.rtake, ← List.take_of_length_le hlen.le, ← filterMap_getElem?_range]
  refine List.filterMap_congr fun i hi => ?_
  rw [List.getElem?_drop, Nat.mod_add_mod]
  exact h.read (List.mem_range.mp hi)

theorem Holds.count_eq_zero (h : Holds b xs) : b.count = 0 ↔ xs = [] := by
  have hcount := h.count
  have hpos := b.capacity_pos
  rw [← List.length_eq_zero_iff]
  omega

end RingBuffer

/-! ## Cursors -/

/-- A position in a list, and the window of the elements passed last. -/
structure Cursor (α : Type) where
  items : List α
  index : ℕ := 0
  window : RingBuffer α

namespace Cursor

variable {α : Type} {c : Cursor α} {p q : α → Bool}

/-- The next elements that satisfy `p`. -/
def pending (c : Cursor α) (p : α → Bool) : List α := (c.items.drop c.index).takeWhile p

def advance (c : Cursor α) (p : α → Bool) : Cursor α :=
  { c with
    index := c.index + (c.pending p).length
    window := (c.pending p).foldl RingBuffer.push c.window }

@[simp] theorem advance_window_capacity (c : Cursor α) (p : α → Bool) :
    (c.advance p).window.capacity = c.window.capacity :=
  RingBuffer.foldl_push_capacity _ _

theorem drop_length_takeWhile (l : List α) (p : α → Bool) :
    l.drop (l.takeWhile p).length = l.dropWhile p := by
  conv_lhs =>
    arg 2
    rw [← List.takeWhile_append_dropWhile (p := p) (l := l)]
  exact List.drop_left

theorem takeWhile_append_takeWhile_dropWhile (l : List α) (hpq : ∀ a, p a → q a) :
    l.takeWhile p ++ (l.dropWhile p).takeWhile q = l.takeWhile q := by
  induction l with
  | nil => rfl
  | cons a l ih =>
    by_cases hp : p a
    · rw [List.takeWhile_cons_of_pos hp, List.dropWhile_cons_of_pos hp,
        List.takeWhile_cons_of_pos (hpq a hp), List.cons_append, ih]
    · rw [List.takeWhile_cons_of_neg hp, List.dropWhile_cons_of_neg hp, List.nil_append]

theorem pending_advance (c : Cursor α) (hpq : ∀ a, p a → q a) :
    c.pending p ++ (c.advance p).pending q = c.pending q := by
  unfold pending advance
  rw [← List.drop_drop, pending, drop_length_takeWhile, takeWhile_append_takeWhile_dropWhile _ hpq]

theorem advance_advance (c : Cursor α) (hpq : ∀ a, p a → q a) :
    (c.advance p).advance q = c.advance q := by
  have hpend := c.pending_advance hpq
  have hindex : (c.advance p).index + ((c.advance p).pending q).length =
      c.index + (c.pending q).length := by
    rw [← hpend, List.length_append, ← Nat.add_assoc]
    rfl
  have hwin : ((c.advance p).pending q).foldl RingBuffer.push (c.advance p).window =
      (c.pending q).foldl RingBuffer.push c.window := by
    rw [← hpend, List.foldl_append]
    rfl
  rw [Cursor.advance, hindex, hwin]
  rfl

def new (items : List α) (capacity : ℕ) (h : 0 < capacity) : Cursor α where
  items := items
  window := { capacity := capacity, capacity_pos := h }

section

variable {l : List α} (h : l.Pairwise fun a b => p b = true → p a = true)

include h

theorem takeWhile_eq_filter : l.takeWhile p = l.filter p := by
  induction l with
  | nil => rfl
  | cons a l ih =>
    rw [List.pairwise_cons] at h
    by_cases ha : p a = true
    · rw [List.takeWhile_cons_of_pos ha, List.filter_cons_of_pos ha, ih h.2]
    · rw [List.takeWhile_cons_of_neg ha, List.filter_cons_of_neg ha]
      refine (List.filter_eq_nil_iff.mpr fun b hb hpb => ?_).symm
      exact ha (h.1 b hb hpb)

theorem dropWhile_eq_filter_not : l.dropWhile p = l.filter (fun a => !p a) := by
  induction l with
  | nil => rfl
  | cons a l ih =>
    rw [List.pairwise_cons] at h
    by_cases ha : p a = true
    · rw [List.dropWhile_cons_of_pos ha, List.filter_cons_of_neg (by simp [ha]), ih h.2]
    · have hall : ∀ b ∈ a :: l, (!p b) = true := by
        intro b hb
        rcases List.mem_cons.mp hb with rfl | hb
        · simpa using ha
        · simpa using fun hpb => ha (h.1 b hb hpb)
      rw [List.dropWhile_cons_of_neg ha, List.filter_eq_self.mpr hall]

theorem filter_append_filter_not : l.filter p ++ l.filter (fun a => !p a) = l := by
  rw [← takeWhile_eq_filter h, ← dropWhile_eq_filter_not h, List.takeWhile_append_dropWhile]

end

theorem holds_advance_new (items : List α) {capacity : ℕ} (h : 0 < capacity) (p : α → Bool) :
    ((new items capacity h).advance p).window.Holds (items.takeWhile p) :=
  (RingBuffer.holds_new h).foldl_push _

end Cursor

/-! ## Moving averages -/

/-- A moving average: the last `period` values in a circular buffer, and their sum. -/
structure IncrementalSma where
  period : ℕ
  buf : List ℚ := List.replicate period 0
  head : ℕ := 0
  count : ℕ := 0
  sum : ℚ := 0

namespace IncrementalSma

variable (sma : IncrementalSma)

def push (value : ℚ) : IncrementalSma :=
  let evicted := if sma.period ≤ sma.count then sma.sum - sma.buf.getD sma.head 0 else sma.sum
  { sma with
    buf := sma.buf.set sma.head value
    sum := evicted + value
    head := (sma.head + 1) % sma.period
    count := if sma.count < sma.period then sma.count + 1 else sma.count }

def value : Option ℚ := if sma.count = 0 then none else some (sma.sum / sma.count)

def filled : Bool := sma.period ≤ sma.count

end IncrementalSma
