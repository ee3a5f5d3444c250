import Chansey.Optimization.Orchestrator

/-!
# The combinations a run starts with

A grid search enumerates the reachable combinations, or a random sample of them; a random search
draws them one by one. The baseline comes first.

* **`generateCombinations_indices`**: the combinations are numbered from zero.
-/

namespace Chansey.Optimization

variable {P R α : Type}

/-- `{ ...c, index: idx }` -/
def reindex (combinations : List (Combination P)) : List (Combination P) :=
  combinations.mapIdx fun idx combination => { combination with index := idx }

/-- One exchange of `shuffleArray`: the elements at two positions. -/
def swapAt (array : List α) (i j : ℕ) : List α :=
  match array[i]?, array[j]? with
  | some a, some b => (array.set i b).set j a
  | _, _ => array

/-- `draw i` is `Math.floor(random() * (i + 1))`. -/
def shuffleArray (draw : ℕ → R → ℕ × R) (array : List α) (random : R) : List α × R :=
  (List.range' 1 (array.length - 1)).reverse.foldl (fun (array, random) i =>
    let (j, random) := draw i random
    (swapAt array i j, random)) (array, random)

def sampleCombinations (draw : ℕ → R → ℕ × R) (combinations : List (Combination P))
    (maxCombinations : ℕ) (random : R) : List (Combination P) :=
  match combinations with
  | [] => []
  | baseline :: rest =>
    let sampled := (shuffleArray draw rest random).1.take (maxCombinations - 1)
    reindex (baseline :: sampled)

/-- `reachable` are the combinations of the product that meet the constraints and can be reached. -/
def generateCombinations (draw : ℕ → R → ℕ × R) (isBaselineCombination : P → Bool)
    (reachable : List P) (baselineValues : P) (maxCombinations : Option ℕ) (random : R) :
    List (Combination P) :=
  let combinations := reachable.mapIdx fun index values =>
    (⟨index, values, isBaselineCombination values⟩ : Combination P)
  let combinations :=
    match combinations.find? (·.isBaseline) with
    | none => ⟨0, baselineValues, true⟩ :: combinations
    | some baseline =>
      baseline :: combinations.eraseIdx (combinations.findIdx (·.isBaseline))
  let combinations := reindex combinations
  match maxCombinations.filter (· ≠ 0) with
  | some maxCombinations =>
    if maxCombinations < combinations.length then
      sampleCombinations draw combinations maxCombinations random
    else combinations
  | none => combinations

/-- The loop of `generateRandomCombinations`, for a number of attempts. -/
def drawCombinations [DecidableEq P] (generateRandomCombination : R → P × R) (accepts : P → Bool)
    (numCombinations : ℕ) : ℕ → List (Combination P) → R → List (Combination P)
  | 0, combinations, _ => combinations
  | attempts + 1, combinations, random =>
    if combinations.length < numCombinations then
      let (randomCombo, random) := generateRandomCombination random
      let combinations :=
        if combinations.any (·.values = randomCombo) ∨ ¬ accepts randomCombo then combinations
        else combinations ++ [⟨combinations.length, randomCombo, false⟩]
      drawCombinations generateRandomCombination accepts numCombinations attempts combinations random
    else combinations

/-- `accepts` are the constraints and the reachability of a combination. -/
def generateRandomCombinations [DecidableEq P] (generateRandomCombination : R → P × R)
    (accepts : P → Bool) (baseline : P) (numCombinations : ℕ) (random : R) : List (Combination P) :=
  drawCombinations generateRandomCombination accepts numCombinations (numCombinations * 10)
    [⟨0, baseline, true⟩] random

/-! ## Indices -/

def Numbered (combinations : List (Combination P)) : Prop :=
  combinations.map (·.index) = List.range combinations.length

theorem reindex_numbered (combinations : List (Combination P)) : Numbered (reindex combinations) := by
  refine List.ext_getElem? fun i => ?_
  rw [reindex, List.getElem?_map, List.getElem?_mapIdx, List.length_mapIdx]
  rcases lt_or_ge i combinations.length with h | h
  · rw [List.getElem?_eq_getElem h, List.getElem?_range h]
    rfl
  · rw [List.getElem?_eq_none h, List.getElem?_eq_none (by simpa using h)]
    rfl

theorem generateCombinations_indices (draw : ℕ → R → ℕ × R) (isBaselineCombination : P → Bool)
    (reachable : List P) (baselineValues : P) (maxCombinations : Option ℕ) (random : R) :
    Numbered (generateCombinations draw isBaselineCombination reachable baselineValues
      maxCombinations random) := by
  unfold generateCombinations sampleCombinations
  dsimp only
  split
  · split_ifs
    · split
      · rfl
      · exact reindex_numbered _
    · exact reindex_numbered _
  · exact reindex_numbered _

end Chansey.Optimization
