import Mathlib.Data.Rat.Defs

/-!
# The seeded random generator

A 32-bit hash of a seed string, mixed at every draw. Its whole state is one 32-bit number.

* **`SeededRandom.fromState_getState`**: a generator is restored from its state.
-/

namespace Chansey

structure SeededRandom where
  h : BitVec 32

namespace SeededRandom

/-- The UTF-16 code units of a string, as `charCodeAt` gives them. -/
def charCodes (seed : String) : List ℕ :=
  seed.toList.flatMap fun c =>
    if c.toNat < 0x10000 then [c.toNat]
    else [0xD800 + (c.toNat - 0x10000) / 0x400, 0xDC00 + (c.toNat - 0x10000) % 0x400]

def ofSeed (seed : String) : SeededRandom where
  h := (charCodes seed).foldl
    (fun h code => ((h ^^^ BitVec.ofNat 32 code) * 3432918353#32).rotateLeft 13)
    (1779033703#32 ^^^ BitVec.ofNat 32 (charCodes seed).length)

def next (rng : SeededRandom) : ℚ × SeededRandom :=
  let h := (rng.h ^^^ (rng.h >>> 16)) * 2246822507#32
  let h := (h ^^^ (h >>> 13)) * 3266489909#32
  let h := h ^^^ (h >>> 16)
  ((h.toNat : ℚ) / 4294967296, ⟨h⟩)

/-- The signed 32-bit number the generator holds. -/
def getState (rng : SeededRandom) : ℤ := rng.h.toInt

def fromState (state : ℤ) : SeededRandom := ⟨BitVec.ofInt 32 state⟩

theorem fromState_getState (rng : SeededRandom) : fromState rng.getState = rng := by
  simp [fromState, getState]

end SeededRandom

end Chansey
