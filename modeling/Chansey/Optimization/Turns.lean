import Chansey.Lib.Ranking
import Chansey.Optimization.Orchestrator

/-!
# The turns of an optimization loop

A job evaluates batch after batch, and what it takes up next depends on what it keeps in memory.

* `Loop.turn`: a batch and the loop after it. `Turns`: the combinations evaluated by a number of
  turns. `Ends`: no turn follows.
-/

namespace Chansey.Optimization

variable {P R : Type} {search : Search P R}

/-! ## Scores in their columns -/

def rowScore (score : ℚ) : ℚ := storedScore ((sanitizeNumericValue score).getD 0)

def FitsColumn (score : ℚ) : Prop := (sanitizeNumericValue (rowScore score)).isSome = true

instance (score : ℚ) : Decidable (FitsColumn score) := by
  unfold FitsColumn
  infer_instance

theorem rowScore_rowScore {score : ℚ} (h : FitsColumn score) :
    rowScore (rowScore score) = rowScore score := by
  obtain ⟨_, hvalue⟩ := Option.isSome_iff_exists.1 h
  have hsame : sanitizeNumericValue (rowScore score) = some (rowScore score) := by
    unfold sanitizeNumericValue at hvalue ⊢
    split_ifs at hvalue ⊢
    rfl
  rw [rowScore, hsame, Option.getD_some]
  exact Js.decimalColumn_decimalColumn _ _

/-! ## A turn -/

def Loop.turn (search : Search P R) (loop : Loop P R) : Option (List (Combination P) × Loop P R) :=
  if loop.combinationsProcessed < loop.run.totalCombinations then
    (nextBatch search loop).map fun (batch, loop) => (batch, batch.foldl (Loop.record search) loop)
  else none

@[simp] theorem record_run (loop : Loop P R) (combination : Combination P) :
    (loop.record search combination).run = loop.run := by
  unfold Loop.record
  dsimp only
  split <;> rfl

@[simp] theorem record_combinations (loop : Loop P R) (combination : Combination P) :
    (loop.record search combination).combinations = loop.combinations := by
  unfold Loop.record
  dsimp only
  split <;> rfl

@[simp] theorem record_random (loop : Loop P R) (combination : Combination P) :
    (loop.record search combination).random = loop.random := by
  unfold Loop.record
  dsimp only
  split <;> rfl

@[simp] theorem record_history (loop : Loop P R) (combination : Combination P) :
    (loop.record search combination).history = loop.history ++ [⟨combination.index,
      combination.values, (sanitizeNumericValue
        (search.evaluateCombination combination.values).avgTestScore).getD 0,
      combination.isBaseline⟩] := by
  unfold Loop.record
  dsimp only
  split <;> rfl

@[simp] theorem record_noImprovementCount (loop : Loop P R) (combination : Combination P) :
    (loop.record search combination).noImprovementCount =
      noImprovementAfter loop.run.config loop.bestScore loop.noImprovementCount
        (search.evaluateCombination combination.values).avgTestScore := by
  unfold Loop.record
  dsimp only
  split <;> rfl

@[simp] theorem record_bestScore (loop : Loop P R) (combination : Combination P) :
    (loop.record search combination).bestScore =
      if loop.bestScore.all (· < (search.evaluateCombination combination.values).avgTestScore) then
        some (search.evaluateCombination combination.values).avgTestScore
      else loop.bestScore := by
  unfold Loop.record
  dsimp only
  split <;> rfl

@[simp] theorem record_combinationsProcessed (loop : Loop P R) (combination : Combination P) :
    (loop.record search combination).combinationsProcessed = loop.combinationsProcessed + 1 := by
  unfold Loop.record
  dsimp only
  split <;> rfl

@[simp] theorem record_baselineScore (loop : Loop P R) (combination : Combination P) :
    (loop.record search combination).baselineScore =
      if combination.isBaseline then (search.evaluateCombination combination.values).avgTestScore
      else loop.baselineScore := by
  unfold Loop.record
  dsimp only
  split <;> rfl

theorem record_with (loop : Loop P R) (combination : Combination P)
    (combinations : List (Combination P)) (random : R) :
    Loop.record search { loop with combinations := combinations, random := random } combination =
      { loop.record search combination with combinations := combinations, random := random } := by
  unfold Loop.record
  dsimp only
  split <;> rfl

theorem foldl_record_with (loop : Loop P R) (batch combinations : List (Combination P))
    (random : R) :
    batch.foldl (Loop.record search)
        { loop with combinations := combinations, random := random } =
      { batch.foldl (Loop.record search) loop with
        combinations := combinations
        random := random } := by
  induction batch generalizing loop with
  | nil => rfl
  | cons combination batch ih => rw [List.foldl_cons, record_with, ih, List.foldl_cons]

theorem foldl_record_run (loop : Loop P R) (batch : List (Combination P)) :
    (batch.foldl (Loop.record search) loop).run = loop.run := by
  induction batch generalizing loop with
  | nil => rfl
  | cons combination batch ih => rw [List.foldl_cons, ih, record_run]

theorem foldl_record_combinationsProcessed (loop : Loop P R) (batch : List (Combination P)) :
    (batch.foldl (Loop.record search) loop).combinationsProcessed =
      loop.combinationsProcessed + batch.length := by
  induction batch generalizing loop with
  | nil => rfl
  | cons combination batch ih =>
    rw [List.foldl_cons, ih, record_combinationsProcessed, List.length_cons]
    omega

theorem maxConcurrent_pos (config : OptimizationConfig) : 0 < maxConcurrent config := by
  unfold maxConcurrent
  cases h : config.maxConcurrentBacktests.filter (· ≠ 0) with
  | none => exact Nat.succ_pos 2
  | some =>
    obtain ⟨-, hcount⟩ := Option.filter_eq_some_iff.1 h
    exact Nat.pos_of_ne_zero (of_decide_eq_true hcount)

structure TurnSpec (search : Search P R) (loop : Loop P R) (batch : List (Combination P))
    (later : Loop P R) : Prop where
  unfinished : loop.combinationsProcessed < loop.run.totalCombinations
  nonempty : batch ≠ []
  recorded : ∃ random, later =
    { batch.foldl (Loop.record search) loop with
      combinations := loop.combinations.drop batch.length
      random := random } ∧
    (loop.combinations ≠ [] → random = loop.random)
  batch : batch <+: loop.combinations ∨
    loop.combinations = [] ∧ ∃ history batchSize remaining random,
      batch = (search.generateNextBatch history batchSize remaining loop.combinationsProcessed
        random).1

theorem turn_spec {loop later : Loop P R} {batch : List (Combination P)}
    (h : loop.turn search = some (batch, later)) : TurnSpec search loop batch later := by
  unfold Loop.turn at h
  split_ifs at h with hunf
  obtain ⟨⟨_, _⟩, hnext, heq⟩ := Option.map_eq_some_iff.1 h
  obtain ⟨rfl, rfl⟩ := Prod.mk.inj heq
  unfold nextBatch at hnext
  dsimp only at hnext
  split_ifs at hnext with hcombs hstc hbatch
  · obtain ⟨rfl, rfl⟩ := Prod.mk.inj (Option.some.inj hnext)
    have hdrop : loop.combinations.drop (maxConcurrent loop.run.config) =
        loop.combinations.drop (loop.combinations.take (maxConcurrent loop.run.config)).length := by
      rw [List.length_take]
      rcases le_total (maxConcurrent loop.run.config) loop.combinations.length with hle | hle
      · rw [min_eq_left hle]
      · rw [min_eq_right hle, List.drop_length, List.drop_eq_nil_of_le hle]
    refine ⟨hunf, ?_, ⟨loop.random, ?_, fun _ => rfl⟩, .inl (List.take_prefix _ _)⟩
    · rw [Ne, List.take_eq_nil_iff, not_or]
      exact ⟨(maxConcurrent_pos _).ne', hcombs⟩
    · rw [← hdrop]
      exact foldl_record_with loop _ _ loop.random
  · obtain ⟨rfl, rfl⟩ := Prod.mk.inj (Option.some.inj hnext)
    have hnil : loop.combinations = [] := not_not.1 hcombs
    refine ⟨hunf, hbatch, ⟨(search.generateNextBatch loop.history
      (maxConcurrent loop.run.config) (loop.run.totalCombinations - loop.combinationsProcessed)
      loop.combinationsProcessed loop.random).2, ?_, fun hne => absurd hnil hne⟩,
      .inr ⟨hnil, _, _, _, _, rfl⟩⟩
    refine (foldl_record_with loop _ loop.combinations _).trans ?_
    simp only [hnil, List.drop_nil]

/-! ## Turn after turn -/

inductive Turns (search : Search P R) (start : Loop P R) : List (Combination P) → Loop P R → Prop
  | start : Turns search start [] start
  | turn {evaluated batch : List (Combination P)} {loop later : Loop P R}
      (h : Turns search start evaluated loop) (hgoes : evaluated = [] ∨ stopsEarly loop = false)
      (hturn : loop.turn search = some (batch, later)) :
      Turns search start (evaluated ++ batch) later

def Ends (search : Search P R) (evaluated : List (Combination P)) (loop : Loop P R) : Prop :=
  loop.turn search = none ∨ evaluated ≠ [] ∧ stopsEarly loop = true

variable {start loop : Loop P R} {evaluated : List (Combination P)}

section

variable (h : Turns search start evaluated loop)

include h

theorem Turns.recorded :
    ∃ random, loop =
      { evaluated.foldl (Loop.record search) start with
        combinations := start.combinations.drop evaluated.length
        random := random } ∧
      (evaluated.length ≤ start.combinations.length → random = start.random) := by
  induction h with
  | start => exact ⟨start.random, rfl, fun _ => rfl⟩
  | @turn evaluated batch loop later _ _ hturn ih =>
    obtain ⟨_, rfl, hrnd⟩ := ih
    have hspec := turn_spec hturn
    obtain ⟨random', rfl, hrnd'⟩ := hspec.recorded
    refine ⟨random', ?_, fun hle => ?_⟩
    · rw [foldl_record_with, List.foldl_append, List.length_append, List.drop_drop]
    · have hpos := List.length_pos_iff.2 hspec.nonempty
      rw [List.length_append] at hle
      rw [hrnd' (List.drop_eq_nil_iff.not.2 (by omega)), hrnd (by omega)]

theorem Turns.run : loop.run = start.run := by
  obtain ⟨_, rfl, -⟩ := h.recorded
  exact foldl_record_run start evaluated

theorem Turns.combinationsProcessed :
    loop.combinationsProcessed = start.combinationsProcessed + evaluated.length := by
  obtain ⟨_, rfl, -⟩ := h.recorded
  exact foldl_record_combinationsProcessed start evaluated

theorem Turns.combinations : loop.combinations = start.combinations.drop evaluated.length := by
  obtain ⟨_, rfl, -⟩ := h.recorded
  rfl

end

/-- A search generates combinations of the next indices. -/
def Search.Numbers (search : Search P R) : Prop :=
  ∀ history batchSize remaining startIndex random,
    ((search.generateNextBatch history batchSize remaining startIndex random).1.map (·.index)) =
      List.range' startIndex
        (search.generateNextBatch history batchSize remaining startIndex random).1.length

theorem Turns.indices (hsrch : search.Numbers) (h : Turns search start evaluated loop)
    (hproc : start.combinationsProcessed = 0)
    (hstart : start.combinations.map (·.index) = List.range start.combinations.length) :
    evaluated.map (·.index) = List.range evaluated.length := by
  induction h with
  | start => rfl
  | @turn evaluated batch loop later h _ hturn ih =>
    rw [List.map_append, ih, List.length_append, List.range_eq_range', List.range_eq_range',
      ← List.range'_append_1, Nat.zero_add]
    congr 1
    rcases (turn_spec hturn).batch with ⟨_, hrest⟩ | ⟨-, _, _, _, _, rfl⟩
    · have hinds := congrArg (List.map (·.index)) hrest
      have hlen := congrArg List.length hrest
      rw [h.combinations, List.length_append, List.length_drop] at hlen
      have hcount : start.combinations.length - evaluated.length =
          batch.length + (start.combinations.length - evaluated.length - batch.length) := by omega
      rw [h.combinations, List.map_append, List.map_drop, hstart, List.range_eq_range',
        List.drop_range', hcount, ← List.range'_append_1] at hinds
      have hbatch := List.append_inj_left hinds (by simp)
      simpa using hbatch
    · rw [hsrch, h.combinationsProcessed, hproc, Nat.zero_add]

/-! ## Loops that take up the same -/

/-- A loop takes up what another one does. What is not used any more may differ. -/
structure Agrees (loop direct : Loop P R) : Prop where
  config : loop.run.config = direct.run.config
  totalCombinations : loop.run.totalCombinations = direct.run.totalCombinations
  combinations : loop.combinations = direct.combinations
  combinationsProcessed : loop.combinationsProcessed = direct.combinationsProcessed
  baselineScore : rowScore loop.baselineScore = rowScore direct.baselineScore
  adaptive : direct.combinationsProcessed < direct.run.totalCombinations →
    direct.run.config.isStatic = false → loop.history = direct.history ∧ loop.random = direct.random
  earlyStop : direct.combinationsProcessed < direct.run.totalCombinations →
    (∃ earlyStop ∈ direct.run.config.earlyStop, earlyStop.enabled = true) →
      loop.bestScore = direct.bestScore ∧ loop.noImprovementCount = direct.noImprovementCount

variable {direct later : Loop P R}

section

variable (h : Agrees loop direct)

include h

theorem Agrees.symm : Agrees direct loop where
  config := h.config.symm
  totalCombinations := h.totalCombinations.symm
  combinations := h.combinations.symm
  combinationsProcessed := h.combinationsProcessed.symm
  baselineScore := h.baselineScore.symm
  adaptive hunf hstc := by
    rw [h.combinationsProcessed, h.totalCombinations] at hunf
    exact (h.adaptive hunf (h.config ▸ hstc)).imp Eq.symm Eq.symm
  earlyStop hunf hen := by
    rw [h.combinationsProcessed, h.totalCombinations] at hunf
    exact (h.earlyStop hunf (h.config ▸ hen)).imp Eq.symm Eq.symm

theorem Agrees.stopsEarly (hunf : direct.combinationsProcessed < direct.run.totalCombinations) :
    stopsEarly loop = stopsEarly direct := by
  unfold Optimization.stopsEarly
  rw [h.config]
  cases hcfg : direct.run.config.earlyStop with
  | none => rfl
  | some earlyStop =>
    cases hen : earlyStop.enabled with
    | false => simp [hen]
    | true =>
      have hcount := (h.earlyStop hunf ⟨earlyStop, hcfg, hen⟩).2
      simp only [Option.any_some, hen, hcount]

theorem Agrees.record (combination : Combination P) :
    Agrees (loop.record search combination) (direct.record search combination) := by
  have hunf : direct.combinationsProcessed + 1 < direct.run.totalCombinations →
      direct.combinationsProcessed < direct.run.totalCombinations := fun hlt => by omega
  refine ⟨?_, ?_, ?_, ?_, ?_, fun hlt hstc => ?_, fun hlt hen => ?_⟩
  · rw [record_run, record_run, h.config]
  · rw [record_run, record_run, h.totalCombinations]
  · rw [record_combinations, record_combinations, h.combinations]
  · rw [record_combinationsProcessed, record_combinationsProcessed, h.combinationsProcessed]
  · rw [record_baselineScore, record_baselineScore]
    split
    · rfl
    · exact h.baselineScore
  · rw [record_combinationsProcessed, record_run] at hlt
    rw [record_run] at hstc
    obtain ⟨hhist, hrnd⟩ := h.adaptive (hunf hlt) hstc
    rw [record_history, record_history, record_random, record_random, hhist, hrnd]
    exact ⟨rfl, rfl⟩
  · rw [record_combinationsProcessed, record_run] at hlt
    rw [record_run] at hen
    obtain ⟨hbest, hcount⟩ := h.earlyStop (hunf hlt) hen
    rw [record_bestScore, record_bestScore, record_noImprovementCount, record_noImprovementCount,
      hbest, hcount, h.config]
    exact ⟨rfl, rfl⟩

theorem Agrees.foldl_record (batch : List (Combination P)) :
    Agrees (batch.foldl (Loop.record search) loop) (batch.foldl (Loop.record search) direct) := by
  induction batch generalizing loop direct with
  | nil => exact h
  | cons combination batch ih => exact ih (h.record combination)

theorem Agrees.turn {batch : List (Combination P)}
    (hturn : direct.turn search = some (batch, later)) :
    ∃ next, nextBatch search loop = some (batch, next) ∧
      loop.turn search = some (batch, batch.foldl (Loop.record search) next) ∧
      Agrees (batch.foldl (Loop.record search) next) later := by
  unfold Loop.turn at hturn
  split_ifs at hturn with hunf
  obtain ⟨⟨batch', middle⟩, hnext, heq⟩ := Option.map_eq_some_iff.1 hturn
  obtain ⟨rfl, rfl⟩ := Prod.mk.inj heq
  have hbatch : ∃ next, nextBatch search loop = some (batch', next) ∧ Agrees next middle := by
    unfold nextBatch at hnext ⊢
    rw [h.config, h.combinations, h.totalCombinations, h.combinationsProcessed]
    dsimp only at hnext ⊢
    split_ifs at hnext ⊢ with hcombs hstc hbatch hbatch'
    · obtain ⟨rfl, rfl⟩ := Prod.mk.inj (Option.some.inj hnext)
      exact ⟨_, rfl, h.config, h.totalCombinations, rfl, rfl, h.baselineScore, h.adaptive,
        h.earlyStop⟩
    · obtain ⟨hhist, hrnd⟩ := h.adaptive hunf (by simpa using hstc)
      rw [hhist, hrnd] at hbatch
      exact absurd hbatch hbatch'
    · obtain ⟨rfl, rfl⟩ := Prod.mk.inj (Option.some.inj hnext)
      obtain ⟨hhist, hrnd⟩ := h.adaptive hunf (by simpa using hstc)
      rw [hhist, hrnd]
      exact ⟨_, rfl, h.config, h.totalCombinations, rfl, rfl, h.baselineScore,
        fun _ _ => ⟨rfl, rfl⟩, h.earlyStop⟩
  obtain ⟨next, hnext', hagrees⟩ := hbatch
  refine ⟨next, hnext', ?_, hagrees.foldl_record batch'⟩
  unfold Loop.turn
  rw [h.combinationsProcessed, h.totalCombinations, if_pos hunf, hnext']
  rfl

theorem Agrees.turn_none (hturn : loop.turn search = none) : direct.turn search = none := by
  cases hdirect : direct.turn search with
  | none => rfl
  | some =>
    obtain ⟨_, -, hsome, -⟩ := h.turn hdirect
    rw [hsome] at hturn
    cases hturn

end

/-! ## What a run stores in the end -/

theorem ranksBefore_irrefl (ties : ℕ → ℕ) (scores : EvaluationResult × ℕ) :
    ¬ ranksBefore ties scores scores = true := by
  unfold ranksBefore
  split <;> simp_all

theorem ranksBefore_trans (ties : ℕ → ℕ) (a b c : EvaluationResult × ℕ)
    (hab : ranksBefore ties a b = true) (hbc : ranksBefore ties b c = true) :
    ranksBefore ties a c = true := by
  unfold ranksBefore at *
  cases ha : rankingScore a.1 <;> cases hb : rankingScore b.1 <;> cases hc : rankingScore c.1 <;>
    simp only [ha, hb, hc, decide_eq_true_eq, reduceCtorEq] at hab hbc ⊢ <;> grind

theorem exists_rank_one (ties : ℕ → ℕ) {results : List (OptimizationResult P)}
    (h : results ≠ []) : ∃ best, (ranked ties results).find? (·.rank = some 1) = some best := by
  have hposs : results.zipIdx ≠ [] := by simpa using h
  obtain ⟨⟨_, i⟩, hmem, hfirst⟩ := Ranking.exists_first
    (r := fun a b => ranksBefore ties (a.1.scores, a.2) (b.1.scores, b.2) = true)
    (fun a => ranksBefore_irrefl ties _) (fun a b c => ranksBefore_trans ties _ _ _) hposs
  refine Option.isSome_iff_exists.1 (List.find?_isSome.2 ?_)
  refine ⟨_, List.mem_map_of_mem hmem, ?_⟩
  have hnone := List.filter_eq_nil_iff.2 fun other hother => hfirst other hother
  exact decide_eq_true (congrArg (fun before => some (1 + before.length)) hnone)

def finished (search : Search P R) (ties : ℕ → ℕ) (evaluated : List (Combination P))
    (baselineScore : ℚ) : Option P × Option ℚ × Option ℚ :=
  let best := (ranked ties (evaluated.map (resultOf search))).find? (·.rank = some 1)
  (best.map (·.parameters),
    some (storedScore (((best.map (·.scores.avgTestScore)).bind sanitizeNumericValue).getD 0)),
    some (rowScore baselineScore))

end Chansey.Optimization
