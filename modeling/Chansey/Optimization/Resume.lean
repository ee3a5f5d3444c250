import Chansey.Optimization.Combinations
import Chansey.Optimization.EndsOnce
import Chansey.Optimization.Turns

/-!
# An optimization that is interrupted

A job keeps its random generator, its history and its count of results without an improvement in
memory. After a crash, or an error, the next job has the stored results and the progress, which is
written after them.

* `AsUninterrupted`: each combination has one result, and a completed run is that of a job that was
  never interrupted.
* `Continues`: a loop goes on where an uninterrupted one would. **`resume_continues`**: so does a
  loop that is rebuilt from the results.
-/

namespace Chansey.Optimization

open Tasks

variable {P R : Type}

/-! ## Runs that resume -/

/-- A row without what the ranking adds to it. -/
def OptimizationResult.unranked (result : OptimizationResult P) : OptimizationResult P :=
  { result with rank := none, isBest := false }

def Stored.evaluated (s : Stored P) : List (Combination P) :=
  s.results.map fun result => ⟨result.combinationIndex, result.parameters, result.isBaseline⟩

def OptimizationRun.finals (run : OptimizationRun P) : Option P × Option ℚ × Option ℚ :=
  (run.bestParameters, run.bestScore, run.baselineScore)

def uninterrupted (search : Search P R) (start : Stored P) (answers : List Answer) :
    Pool (Stored P) (Task P R) :=
  (optimizationProgram search).run ⟨start, []⟩
    (.call .executeOptimization :: answers.map (.advance 0))

def Task.isJob : Task P R → Bool
  | .emitFailed _ | .findCancelled | .saveCancelled _ | .findStale | .checkQueued _ | .markStale _
  | .findOrphaned | .getJob _ | .forceRemoveJob _ | .markPending _ | .addJob
  | .markUnrecovered _ => false
  | _ => true

/-- What a job had in memory that has evaluated the combinations with results one by one. -/
def inMemory (search : Search P R) (run : OptimizationRun P) (s : Stored P) : Loop P R :=
  s.evaluated.foldl (Loop.record search) (Loop.start search run s.combinations)

def priorHistory (results : List (OptimizationResult P)) : List (SearchHistoryRecord P) :=
  results.map fun result =>
    ⟨result.combinationIndex, result.parameters, result.scores.avgTestScore, result.isBaseline⟩

structure Restores (search : Search P R) (run : OptimizationRun P) (s : Stored P) : Prop where
  /-- The generator has not been used, and the history has the scores that were tried. -/
  adaptive : run.config.isStatic = false → s.results.length ≤ s.combinations.length ∧
    priorHistory s.results = (inMemory search run s).history
  earlyStop : (∃ earlyStop ∈ run.config.earlyStop, earlyStop.enabled = true) →
    (inMemory search run s).noImprovementCount = 0 ∧
      (Loop.resume search run s.combinations s.results).bestScore =
        (inMemory search run s).bestScore ∧
      stopsEarly (inMemory search run s) = false

/-- A job that starts when there are results finds its progress, and goes on with what was in memory
unless all combinations are tested. A column takes only what fits. -/
def Task.Resumes (search : Search P R) (s : Stored P) : Task P R → Prop
  | .findRun => s.results ≠ [] → 0 < s.run.combinationsTested
  | .findExistingResults run =>
    s.results ≠ [] ∧ s.results.length < run.totalCombinations → Restores search run s
  | .saveResults _ batch =>
    ∀ combination ∈ batch, FitsColumn (search.evaluateCombination combination.values).avgTestScore
  | _ => True

def Resumes (search : Search P R) (pool : Pool (Stored P) (Task P R)) : Move Request Answer → Prop
  | .call .executeOptimization => ∀ task ∈ pool.inFlight, task.isJob = false
  | .call _ => True
  | .advance position answer => ∀ task ∈ pool.inFlight[position]?,
    answer.outcome.succeeds = true → task.Resumes search pool.shared

section Decidable

variable [DecidableEq P] (search : Search P R)

instance (run : OptimizationRun P) (s : Stored P) : Decidable (Restores search run s) :=
  decidable_of_iff
    ((run.config.isStatic = false → s.results.length ≤ s.combinations.length ∧
        priorHistory s.results = (inMemory search run s).history) ∧
      ((∃ earlyStop ∈ run.config.earlyStop, earlyStop.enabled = true) →
        (inMemory search run s).noImprovementCount = 0 ∧
          (Loop.resume search run s.combinations s.results).bestScore =
            (inMemory search run s).bestScore ∧
          stopsEarly (inMemory search run s) = false))
    ⟨fun h => ⟨h.1, h.2⟩, fun h => ⟨h.1, h.2⟩⟩

instance (s : Stored P) : (task : Task P R) → Decidable (task.Resumes search s)
  | .findRun => inferInstanceAs (Decidable (s.results ≠ [] → 0 < s.run.combinationsTested))
  | .findExistingResults run => inferInstanceAs (Decidable
      (s.results ≠ [] ∧ s.results.length < run.totalCombinations → Restores search run s))
  | .saveResults _ batch => inferInstanceAs (Decidable (∀ combination ∈ batch,
      FitsColumn (search.evaluateCombination combination.values).avgTestScore))
  | .saveRunning .. | .loadCoins .. | .prepareWalkForwardData .. | .findPriorResults _
  | .findCurrentRun _ | .evaluateBatch .. | .updateProgress _ | .rankResults _ | .findRank1 _
  | .saveCompleted .. | .markBest .. | .computeSummary _ | .emitCompleted _ | .saveFailed ..
  | .emitFailed _ | .findCancelled | .saveCancelled _ | .findStale | .checkQueued _
  | .markStale _ | .findOrphaned | .getJob _ | .forceRemoveJob _ | .markPending _ | .addJob
  | .markUnrecovered _ => isTrue trivial

instance (pool : Pool (Stored P) (Task P R)) : (move : Move Request Answer) →
    Decidable (Resumes search pool move)
  | .call .executeOptimization =>
    inferInstanceAs (Decidable (∀ task ∈ pool.inFlight, task.isJob = false))
  | .call .cancelOptimization | .call .detectStaleOptimizationRuns
  | .call .recoverOrphanedOptimizationRuns => isTrue trivial
  | .advance position answer => inferInstanceAs (Decidable (∀ task ∈ pool.inFlight[position]?,
      answer.outcome.succeeds = true → task.Resumes search pool.shared))

end Decidable

/-! ## What ranking leaves -/

variable {search : Search P R}

theorem evaluated_eq_of_unranked {s t : Stored P}
    (h : s.results.map (·.unranked) = t.results.map (·.unranked)) : s.evaluated = t.evaluated := by
  have hcombs := congrArg (List.map fun result : OptimizationResult P =>
    (⟨result.combinationIndex, result.parameters, result.isBaseline⟩ : Combination P)) h
  rwa [List.map_map, List.map_map] at hcombs

theorem map_modify_unranked (results : List (OptimizationResult P)) (position : ℕ) :
    (results.modify position fun result => { result with isBest := true }).map (·.unranked) =
      results.map (·.unranked) := by
  refine List.ext_getElem? fun i => ?_
  rw [List.getElem?_map, List.getElem?_map, List.getElem?_modify]
  split <;> cases results[i]? <;> rfl

theorem map_unranked_ranked (ties : ℕ → ℕ) (results : List (OptimizationResult P)) :
    (ranked ties results).map (·.unranked) = results.map (·.unranked) := by
  conv_rhs => rw [← List.zipIdx_map_fst 0 results]
  simp only [ranked, List.map_map]
  rfl

theorem ranked_unranked (ties : ℕ → ℕ) (results : List (OptimizationResult P)) :
    (ranked ties results).map (fun row => { row with isBest := false }) =
      ranked ties (results.map (·.unranked)) := by
  simp only [ranked, List.zipIdx_map, List.map_map, List.filter_map, List.length_map]
  rfl

/-! ## Loops that go on -/

variable (search) (start : Stored P)

def startLoop : Loop P R := Loop.start search start.run start.combinations

/-- A copy of the run that has what a job does not change. -/
structure Copied (run : OptimizationRun P) : Prop where
  config : run.config = start.run.config
  totalCombinations : run.totalCombinations = start.run.totalCombinations

structure Continues (evaluated : List (Combination P)) (loop direct : Loop P R) : Prop where
  turns : Turns search (startLoop search start) evaluated direct
  agrees : Agrees loop direct
  nothing : evaluated = [] → loop.bestScore = none ∧ loop.bestParameters = none

def Goes (evaluated : List (Combination P)) (direct : Loop P R) : Prop :=
  direct.combinationsProcessed < direct.run.totalCombinations →
    evaluated = [] ∨ stopsEarly direct = false

def FinishedAs (evaluated : List (Combination P))
    (finals : Option P × Option ℚ × Option ℚ) : Prop :=
  ∃ (direct : Loop P R) (ties : ℕ → ℕ), Turns search (startLoop search start) evaluated direct ∧
    Ends search evaluated direct ∧ finals = finished search ties evaluated direct.baselineScore

structure Sofar (s : Stored P) : Prop where
  combinations : s.combinations = start.combinations
  copied : Copied start s.run
  rows : s.results.map (·.unranked) = s.evaluated.map (resultOf search)
  turns : ∃ direct, Turns search (startLoop search start) s.evaluated direct
  fits : ∀ combination ∈ s.evaluated,
    FitsColumn (search.evaluateCombination combination.values).avgTestScore
  completed : s.run.status = .completed → FinishedAs search start s.evaluated s.run.finals

variable {search start} {s : Stored P} {evaluated : List (Combination P)} {loop direct : Loop P R}

theorem Continues.copied (h : Continues search start evaluated loop direct) :
    Copied start loop.run where
  config := by rw [h.agrees.config, h.turns.run]; rfl
  totalCombinations := by rw [h.agrees.totalCombinations, h.turns.run]; rfl

variable {run : OptimizationRun P} {results : List (OptimizationResult P)} {task : Task P R}
  {next : Option (Task P R)} {answers : List Answer}

theorem Copied.agrees (h : Copied start run) :
    Agrees (Loop.start search run start.combinations) (startLoop search start) where
  config := h.config
  totalCombinations := h.totalCombinations
  combinations := rfl
  combinationsProcessed := rfl
  baselineScore := rfl
  adaptive _ _ :=
    ⟨rfl, congrArg (fun config : OptimizationConfig => search.makeRandom config.seed) h.config⟩
  earlyStop _ _ := ⟨rfl, rfl⟩

theorem foldl_takeExisting (loop : Loop P R) (results : List (OptimizationResult P)) :
    ∃ bestScore bestParameters, results.foldl Loop.takeExisting loop =
      { loop with
        bestScore := bestScore
        bestParameters := bestParameters
        baselineScore := results.foldl (fun baselineScore result =>
          if result.isBaseline then result.scores.avgTestScore else baselineScore)
          loop.baselineScore } := by
  induction results generalizing loop with
  | nil => exact ⟨loop.bestScore, loop.bestParameters, rfl⟩
  | cons result results ih =>
    obtain ⟨bestScore, bestParameters, hrest⟩ := ih (loop.takeExisting result)
    refine ⟨bestScore, bestParameters, ?_⟩
    rw [List.foldl_cons, hrest, List.foldl_cons]
    unfold Loop.takeExisting
    dsimp only
    split_ifs <;> rfl

theorem foldl_record_baselineScore (loop : Loop P R) (batch : List (Combination P)) :
    (batch.foldl (Loop.record search) loop).baselineScore =
      batch.foldl (fun baselineScore combination =>
        if combination.isBaseline then
          (search.evaluateCombination combination.values).avgTestScore
        else baselineScore) loop.baselineScore := by
  induction batch generalizing loop with
  | nil => rfl
  | cons combination batch ih => rw [List.foldl_cons, ih, record_baselineScore, List.foldl_cons]

theorem rowScore_baselineScore (hrows : results.map (·.unranked) = evaluated.map (resultOf search))
    (hfits : ∀ combination ∈ evaluated,
      FitsColumn (search.evaluateCombination combination.values).avgTestScore) {stored exact : ℚ}
    (h : rowScore stored = rowScore exact) :
    rowScore (results.foldl (fun baselineScore result =>
        if result.isBaseline then result.scores.avgTestScore else baselineScore) stored) =
      rowScore (evaluated.foldl (fun baselineScore combination =>
        if combination.isBaseline then
          (search.evaluateCombination combination.values).avgTestScore
        else baselineScore) exact) := by
  induction results generalizing evaluated stored exact with
  | nil =>
    obtain rfl := List.map_eq_nil_iff.1 hrows.symm
    exact h
  | cons result results ih =>
    obtain ⟨combination, _, rfl, hres, hrest⟩ := List.map_eq_cons_iff.1 hrows.symm
    have hbaseline : result.isBaseline = combination.isBaseline :=
      (congrArg OptimizationResult.isBaseline hres).symm
    have hscore : result.scores.avgTestScore =
        rowScore (search.evaluateCombination combination.values).avgTestScore :=
      (congrArg (fun row => row.scores.avgTestScore) hres).symm
    rw [List.foldl_cons, List.foldl_cons, hbaseline, hscore]
    refine ih hrest.symm (fun c hc => hfits c (List.mem_cons_of_mem _ hc)) ?_
    split
    · exact rowScore_rowScore (hfits combination List.mem_cons_self)
    · exact h

theorem stopsEarly_eq_false
    (h : ¬ ∃ earlyStop ∈ loop.run.config.earlyStop, earlyStop.enabled = true) :
    stopsEarly loop = false := by
  unfold stopsEarly
  cases hcfg : loop.run.config.earlyStop with
  | none => rfl
  | some earlyStop =>
    have hdisabled : earlyStop.enabled = false := by
      rw [← Bool.not_eq_true]
      exact fun hen => h ⟨earlyStop, hcfg, hen⟩
    simp [hdisabled]

theorem filter_index_eq_drop {combinations : List (Combination P)} (count : ℕ)
    (h : combinations.map (·.index) = List.range combinations.length) :
    combinations.filter (·.index ∉ List.range count) = combinations.drop count := by
  have hindex : ∀ (offset : ℕ) (rest : List (Combination P)),
      rest.map (·.index) = List.range' offset rest.length →
        rest.filter (·.index ∉ List.range (offset + count)) = rest.drop count := by
    intro offset rest
    induction count generalizing offset rest with
    | zero =>
      intro hrest
      refine List.filter_eq_self.2 fun combination hmem => ?_
      have hrange : combination.index ∈ rest.map (·.index) := List.mem_map_of_mem hmem
      rw [hrest, List.mem_range'_1] at hrange
      simp only [List.mem_range, decide_not, Bool.not_eq_true', decide_eq_false_iff_not]
      omega
    | succ count ih =>
      intro hrest
      cases rest with
      | nil => rfl
      | cons =>
        rw [List.map_cons, List.length_cons, List.range'_succ] at hrest
        obtain ⟨hhead, htail⟩ := List.cons.inj hrest
        have hcount : offset + (count + 1) = offset + 1 + count := by omega
        rw [hcount, List.filter_cons_of_neg (by simp [hhead]; omega), List.drop_succ_cons,
          ← ih _ _ htail]
  have h0 := hindex 0 combinations (by rw [h, List.range_eq_range'])
  rwa [Nat.zero_add] at h0

theorem resume_continues (hsrch : search.Numbers) (hinds : Numbered start.combinations)
    (h : Sofar search start s) (hrun : Copied start run)
    (hrestores : s.results ≠ [] ∧ s.results.length < run.totalCombinations →
      Restores search run s) (history : List (SearchHistoryRecord P))
    (hhist : run.config.isStatic = false → history = priorHistory s.results) :
    ∃ direct, Continues search start s.evaluated
      { Loop.resume search run s.combinations s.results with history := history } direct ∧
        Goes s.evaluated direct := by
  obtain ⟨direct, hturns⟩ := h.turns
  obtain ⟨bestScore, bestParameters, hresm⟩ := foldl_takeExisting
    { (Loop.start search run (s.combinations.filter
        (·.index ∉ s.results.map (·.combinationIndex))) : Loop P R) with
      combinationsProcessed := s.results.length } s.results
  have hlen : s.evaluated.length = s.results.length := List.length_map _
  have hproc : direct.combinationsProcessed = s.results.length := by
    rw [hturns.combinationsProcessed, hlen]
    exact Nat.zero_add _
  have htotal : direct.run.totalCombinations = run.totalCombinations := by
    rw [hturns.run, hrun.totalCombinations]
    rfl
  have hcfg : direct.run.config = run.config := by
    rw [hturns.run, hrun.config]
    rfl
  have hnumbers : s.results.map (·.combinationIndex) = List.range s.results.length := by
    have hrange := hturns.indices hsrch rfl hinds
    rw [hlen] at hrange
    rw [← hrange, Stored.evaluated, List.map_map]
    rfl
  have hleft : s.combinations.filter (·.index ∉ s.results.map (·.combinationIndex)) =
      direct.combinations := by
    rw [hnumbers, h.combinations, filter_index_eq_drop _ hinds, hturns.combinations, hlen]
    rfl
  -- the memory that is lost is that of the uninterrupted loop
  obtain ⟨_, hdirect, hrnd⟩ := hturns.recorded
  have hmemory : Agrees (inMemory search run s)
      (s.evaluated.foldl (Loop.record search) (startLoop search start)) := by
    rw [inMemory, h.combinations]
    exact hrun.agrees.foldl_record s.evaluated
  have hlost : direct.combinationsProcessed < direct.run.totalCombinations →
      (direct.run.config.isStatic = false → (inMemory search run s).history = direct.history) ∧
      ((∃ earlyStop ∈ direct.run.config.earlyStop, earlyStop.enabled = true) →
        (inMemory search run s).bestScore = direct.bestScore ∧
          (inMemory search run s).noImprovementCount = direct.noImprovementCount) ∧
      stopsEarly (inMemory search run s) = stopsEarly direct := by
    rw [hdirect]
    exact fun hlt => ⟨fun hstc => (hmemory.adaptive hlt hstc).1, hmemory.earlyStop hlt,
      hmemory.stopsEarly hlt⟩
  have hempty : s.results = [] → s.evaluated = [] := fun hnil => by rw [Stored.evaluated, hnil]; rfl
  have hunf : direct.combinationsProcessed < direct.run.totalCombinations →
      s.results ≠ [] → Restores search run s := fun hlt hne =>
    hrestores ⟨hne, by rwa [hproc, htotal] at hlt⟩
  have hnothing : s.results = [] →
      (Loop.resume search run s.combinations s.results).bestScore = none ∧
        (Loop.resume search run s.combinations s.results).bestParameters = none := fun hnil => by
    rw [hnil]
    exact ⟨rfl, rfl⟩
  change Loop.resume search run s.combinations s.results = _ at hresm
  refine ⟨direct, ⟨hturns, ⟨?_, ?_, ?_, ?_, ?_, fun hlt hstc => ?_, fun hlt hen => ?_⟩,
    fun hnil => hnothing (List.map_eq_nil_iff.1 hnil)⟩, fun hlt => ?_⟩
  · rw [hresm]
    exact hcfg.symm
  · rw [hresm]
    exact htotal.symm
  · rw [hresm]
    exact hleft
  · rw [hresm]
    exact hproc.symm
  · rw [hresm, hdirect]
    refine (rowScore_baselineScore h.rows h.fits rfl).trans ?_
    exact (congrArg rowScore (foldl_record_baselineScore (startLoop search start) _)).symm
  · rw [hcfg] at hstc
    have hrest : s.results.length ≤ s.combinations.length ∧
        priorHistory s.results = (inMemory search run s).history := by
      rcases eq_or_ne s.results [] with hnil | hne
      · rw [inMemory, hempty hnil, hnil]
        exact ⟨Nat.zero_le _, rfl⟩
      · exact (hunf hlt hne).adaptive hstc
    rw [hresm]
    refine ⟨?_, ?_⟩
    · rw [hhist hstc, hrest.2]
      exact (hlost hlt).1 (hcfg ▸ hstc)
    · rw [hdirect]
      refine Eq.trans ?_ (hrnd ?_).symm
      · exact congrArg (fun config : OptimizationConfig => search.makeRandom config.seed)
          hrun.config
      · rw [hlen, startLoop, Loop.start, ← h.combinations]
        exact hrest.1
  · obtain ⟨hbest, hcount⟩ := (hlost hlt).2.1 hen
    have hrest : (inMemory search run s).noImprovementCount = 0 ∧
        (Loop.resume search run s.combinations s.results).bestScore =
          (inMemory search run s).bestScore := by
      rcases eq_or_ne s.results [] with hnil | hne
      · rw [(hnothing hnil).1, inMemory, hempty hnil]
        exact ⟨rfl, rfl⟩
      · obtain ⟨hzero, hsame, -⟩ := (hunf hlt hne).earlyStop (hcfg ▸ hen)
        exact ⟨hzero, hsame⟩
    refine ⟨hrest.2.trans hbest, ?_⟩
    rw [hresm]
    exact hrest.1.symm.trans hcount
  · rcases eq_or_ne s.results [] with hnil | hne
    · exact .inl (hempty hnil)
    · right
      by_cases hen : ∃ earlyStop ∈ direct.run.config.earlyStop, earlyStop.enabled = true
      · rw [← (hlost hlt).2.2]
        exact ((hunf hlt hne).earlyStop (hcfg ▸ hen)).2.2
      · exact stopsEarly_eq_false hen

/-! ## What tasks hold -/

variable (search start)

def RankedRows (s : Stored P) : Prop :=
  ∃ ties : ℕ → ℕ, s.results.map (fun row => { row with isBest := false }) =
    ranked ties (s.evaluated.map (resultOf search))

def Held (s : Stored P) : Task P R → Prop
  | .saveRunning run isResume =>
    Copied start run ∧ run.status = .running ∧ (s.results ≠ [] → isResume = true)
  | .loadCoins run isResume | .prepareWalkForwardData run isResume =>
    Copied start run ∧ s.run.status ≠ .completed ∧ (s.results ≠ [] → isResume = true)
  | .findExistingResults run => Copied start run ∧ s.run.status ≠ .completed
  | .findPriorResults loop =>
    s.run.status ≠ .completed ∧ Copied start loop.run ∧ ∃ direct,
      Continues search start s.evaluated { loop with history := priorHistory s.results } direct ∧
        Goes s.evaluated direct
  | .findCurrentRun loop =>
    s.run.status ≠ .completed ∧ loop.combinationsProcessed < loop.run.totalCombinations ∧
      ∃ direct, Continues search start s.evaluated loop direct ∧ Goes s.evaluated direct
  | .evaluateBatch loop batch | .saveResults loop batch =>
    s.run.status ≠ .completed ∧ Copied start loop.run ∧ batch ≠ [] ∧
      ∃ direct, Continues search start (s.evaluated ++ batch)
        (batch.foldl (Loop.record search) loop) direct
  | .updateProgress loop =>
    s.run.status ≠ .completed ∧ s.evaluated ≠ [] ∧
      ∃ direct, Continues search start s.evaluated loop direct
  | .rankResults loop =>
    s.run.status ≠ .completed ∧ ∃ direct,
      Continues search start s.evaluated loop direct ∧ Ends search s.evaluated direct
  | .findRank1 loop =>
    s.run.status ≠ .completed ∧ RankedRows search s ∧ ∃ direct,
      Continues search start s.evaluated loop direct ∧ Ends search s.evaluated direct
  | .saveCompleted run _ _ => Copied start run ∧ FinishedAs search start s.evaluated run.finals
  | .markBest run _ _ => Copied start run
  | .saveFailed run _ | .saveCancelled run => Copied start run ∧ run.status ≠ .completed
  | _ => True

variable {search start}

theorem Held.tries (h : Held search start s task) : ∀ run ∈ task.tries, Copied start run := by
  intro run hrun
  cases task with
  | prepareWalkForwardData | findExistingResults
  | saveCompleted =>
    cases hrun
    exact h.1
  | markBest =>
    cases hrun
    exact h
  | findPriorResults | evaluateBatch | saveResults =>
    cases hrun
    exact h.2.1
  | findCurrentRun | updateProgress =>
    cases hrun
    obtain ⟨-, -, _, hcont⟩ := h
    first | exact hcont.copied | exact hcont.1.copied
  | rankResults =>
    cases hrun
    obtain ⟨-, _, hcont, -⟩ := h
    exact ⟨hcont.copied.config, hcont.copied.totalCombinations⟩
  | findRank1 =>
    cases hrun
    obtain ⟨-, -, _, hcont, -⟩ := h
    exact ⟨hcont.copied.config, hcont.copied.totalCombinations⟩
  | _ => cases hrun

theorem Held.of_isJob {t : Stored P} (h : Held search start s task) (hjob : task.isJob = false) :
    Held search start t task := by
  cases task <;> first | exact h | cases hjob

theorem Held.mono {t : Stored P} (h : Held search start s task) (hress : t.results = s.results)
    (hstat : s.run.status ≠ .completed → t.run.status ≠ .completed) : Held search start t task := by
  have heval : t.evaluated = s.evaluated := by
    rw [Stored.evaluated, hress, ← Stored.evaluated]
  cases task <;> simp only [Held, RankedRows, hress, heval] at h ⊢ <;> tauto

theorem held_whileLoop (hstat : s.run.status ≠ .completed)
    (h : Continues search start s.evaluated loop direct) (hgoes : Goes s.evaluated direct) :
    Held search start s (whileLoop loop) := by
  unfold whileLoop
  split_ifs with hlt
  · exact ⟨hstat, hlt, direct, h, hgoes⟩
  · refine ⟨hstat, direct, h, .inl ?_⟩
    unfold Loop.turn
    rw [← h.agrees.combinationsProcessed, ← h.agrees.totalCombinations, if_neg hlt]

theorem Continues.turn (h : Continues search start evaluated loop direct)
    (hgoes : Goes evaluated direct) (hlt : loop.combinationsProcessed < loop.run.totalCombinations)
    {batch : List (Combination P)} {next : Loop P R}
    (hnext : nextBatch search loop = some (batch, next)) :
    batch ≠ [] ∧ ∃ later, Continues search start (evaluated ++ batch)
      (batch.foldl (Loop.record search) next) later := by
  have hturn : loop.turn search = some (batch, batch.foldl (Loop.record search) next) := by
    unfold Loop.turn
    rw [if_pos hlt, hnext]
    rfl
  obtain ⟨_, -, hdirect, hagrees⟩ := h.agrees.symm.turn hturn
  have hbatch := (turn_spec hturn).nonempty
  refine ⟨hbatch, _, h.turns.turn (hgoes (turn_spec hdirect).unfinished) hdirect, hagrees.symm,
    fun hnil => absurd (List.append_eq_nil_iff.1 hnil).2 hbatch⟩

theorem held_afterBatch (hstat : s.run.status ≠ .completed) (heval : s.evaluated ≠ [])
    (h : Continues search start s.evaluated loop direct) :
    Held search start s (if stopsEarly loop then .rankResults loop else whileLoop loop) := by
  split_ifs with hstops
  · refine ⟨hstat, direct, h, ?_⟩
    by_cases hlt : direct.combinationsProcessed < direct.run.totalCombinations
    · exact .inr ⟨heval, (h.agrees.stopsEarly hlt).symm.trans hstops⟩
    · left
      unfold Loop.turn
      rw [if_neg hlt]
  · refine held_whileLoop hstat h fun hlt => .inr ?_
    rw [← h.agrees.stopsEarly hlt]
    exact Bool.not_eq_true _ ▸ hstops

theorem finalizeOptimization_finals (h : Continues search start evaluated loop direct)
    {ties : ℕ → ℕ} (hranked : results.map (fun row => { row with isBest := false }) =
      ranked ties (evaluated.map (resultOf search))) (now : Instant) :
    ∃ run rank1 event,
      finalizeOptimization loop (results.zipIdx.find? (·.1.rank = some 1)) now =
        (.saveCompleted run rank1 event : Task P R) ∧
      Copied start run ∧ run.status = .completed ∧
      run.finals = finished search ties evaluated direct.baselineScore := by
  refine ⟨_, _, _, rfl, ⟨h.copied.config, h.copied.totalCombinations⟩, rfl, ?_⟩
  have hposn : (results.zipIdx.find? (·.1.rank = some 1)).map (·.1) =
      results.find? (·.rank = some 1) := by
    conv_rhs => rw [← List.zipIdx_map_fst 0 results, List.find?_map]
    rfl
  have hfind : (ranked ties (evaluated.map (resultOf search))).find? (·.rank = some 1) =
      (results.find? (·.rank = some 1)).map fun row => { row with isBest := false } := by
    rw [← hranked, List.find?_map]
    rfl
  unfold finished OptimizationRun.finals
  rw [hfind, ← hposn]
  dsimp only
  cases hrank1 : results.zipIdx.find? (·.1.rank = some 1) with
  | none =>
    -- only an empty list has no first
    have hnil : evaluated = [] := by
      by_contra hne
      obtain ⟨_, hbest⟩ := exists_rank_one ties
        (List.map_eq_nil_iff.not.2 hne : evaluated.map (resultOf search) ≠ [])
      rw [hfind, ← hposn, hrank1] at hbest
      cases hbest
    obtain ⟨hbest, hpars⟩ := h.nothing hnil
    rw [Option.elim_none, Option.elim_none, hbest, hpars]
    exact congrArg (fun score => (none, some (storedScore 0), some score)) h.agrees.baselineScore
  | some row =>
    exact congrArg (fun score => (some row.1.parameters,
      some (storedScore ((sanitizeNumericValue row.1.scores.avgTestScore).getD 0)), some score))
        h.agrees.baselineScore

/-! ## Steps -/

theorem Sofar.setRun (h : Sofar search start s) (hrun : Copied start run)
    (hcomp : run.status = .completed → FinishedAs search start s.evaluated run.finals) :
    Sofar search start { s with run := run } :=
  ⟨h.combinations, hrun, h.rows, h.turns, h.fits, hcomp⟩

theorem Sofar.setResults (h : Sofar search start s)
    (hress : results.map (·.unranked) = s.results.map (·.unranked)) :
    Sofar search start { s with results := results } ∧
      ({ s with results := results } : Stored P).evaluated = s.evaluated := by
  have heval : ({ s with results := results } : Stored P).evaluated = s.evaluated :=
    evaluated_eq_of_unranked hress
  refine ⟨⟨h.combinations, h.copied, ?_, ?_, ?_, ?_⟩, heval⟩
  · rw [heval]
    exact hress.trans h.rows
  · rw [heval]
    exact h.turns
  · rw [heval]
    exact h.fits
  · rw [heval]
    exact h.completed

theorem evaluated_append (search : Search P R) (s : Stored P) (batch : List (Combination P)) :
    ({ s with results := s.results ++ batch.map (resultOf search) } : Stored P).evaluated =
      s.evaluated ++ batch := by
  simp only [Stored.evaluated, List.map_append, List.map_map]
  congr 1
  exact List.map_id batch

structure StepInv (search : Search P R) (start s : Stored P) (task : Task P R)
    (result : Stored P × Option (Task P R)) : Prop where
  sofar : Sofar search start result.1
  held : ∀ next ∈ result.2, Held search start result.1 next
  others : task.isJob = false → result.1.results = s.results ∧
    (s.run.status ≠ .completed → result.1.run.status ≠ .completed) ∧
    ∀ next ∈ result.2, next.isJob = false

theorem StepInv.of_quiet (h : Sofar search start s) (hnext : ∀ t ∈ next, Held search start s t)
    (hjob : task.isJob = false → ∀ t ∈ next, t.isJob = false) :
    StepInv search start s task (s, next) :=
  ⟨h, hnext, fun hnot => ⟨rfl, id, hjob hnot⟩⟩

theorem StepInv.of_job {s' : Stored P} {task next : Task P R} (hjob : task.isJob = true)
    (h : Sofar search start s') (hnext : Held search start s' next) :
    StepInv search start s task (s', some next) := by
  refine ⟨h, fun t ht => ?_, fun hnot => ?_⟩
  · cases ht
    exact hnext
  · rw [hjob] at hnot
    cases hnot

theorem StepInv.of_update (h : Sofar search start s) (hrun : Copied start run)
    (hstat : run.status ≠ .completed)
    (hnext : ∀ t ∈ next, Held search start { s with run := run } t ∧ t.isJob = false) :
    StepInv search start s task ({ s with run := run }, next) :=
  ⟨h.setRun hrun fun hcomp => absurd hcomp hstat, fun t ht => (hnext t ht).1,
    fun _ => ⟨rfl, fun _ => hstat, fun t ht => (hnext t ht).2⟩⟩

theorem onError_stepInv (h : Sofar search start s) (hheld : Held search start s task)
    (message : String) (now : Instant) :
    StepInv search start s task (s, task.onError message now) := by
  have htries := hheld.tries
  refine .of_quiet h (fun t ht => ?_) fun hjob t ht => ?_
  · cases task with
    | computeSummary | getJob | forceRemoveJob | markPending | addJob => cases ht; trivial
    | markUnrecovered reason => cases reason <;> cases ht; trivial
    | _ =>
      rw [Option.mem_def] at ht
      simp only [Task.onError] at ht
      obtain ⟨run, hrun, rfl⟩ := Option.map_eq_some_iff.1 ht
      have hcopied := htries run hrun
      exact ⟨⟨hcopied.config, hcopied.totalCombinations⟩, by simp⟩
  · cases task with
    | markUnrecovered reason => cases reason <;> cases ht; rfl
    | _ => first | (cases ht <;> rfl) | cases hjob

theorem recoverSingleRun_held (search : Search P R) (start s : Stored P) (run : OptimizationRun P)
    (now : Instant) :
    ∀ t ∈ recoverSingleRun (R := R) run now, Held search start s t ∧ t.isJob = false := by
  intro t ht
  unfold recoverSingleRun at ht
  dsimp only at ht
  split_ifs at ht <;> cases ht <;> exact ⟨trivial, rfl⟩

theorem prepareWalkForwardData_stepInv (h : Sofar search start s) {isResume : Bool}
    (hheld : Held search start s (.prepareWalkForwardData run isResume : Task P R))
    (answer : Answer) :
    StepInv search start s (.prepareWalkForwardData run isResume : Task P R)
      (exec search s answer (.prepareWalkForwardData run isResume)) := by
  obtain ⟨hcopied, hstat, hresm⟩ := hheld
  refine .of_job rfl h ?_
  split_ifs with hisResume
  · exact ⟨hcopied, hstat⟩
  · have hnil : s.results = [] := by
      by_contra hne
      exact hisResume (hresm hne)
    have heval : s.evaluated = [] := by rw [Stored.evaluated, hnil]; rfl
    have hcont : Continues search start s.evaluated
        (Loop.start search run s.combinations) (startLoop search start) := by
      rw [heval, h.combinations]
      exact ⟨.start, hcopied.agrees, fun _ => ⟨rfl, rfl⟩⟩
    exact held_whileLoop hstat hcont fun _ => .inl heval

theorem findCurrentRun_stepInv (h : Sofar search start s) {loop : Loop P R}
    (hheld : Held search start s (.findCurrentRun loop)) (answer : Answer) :
    StepInv search start s (.findCurrentRun loop) (exec search s answer (.findCurrentRun loop)) := by
  obtain ⟨hstat, hlt, direct, hcont, hgoes⟩ := hheld
  simp only [exec]
  split
  · exact .of_quiet h (fun t ht => by cases ht) fun hjob => by cases hjob
  · split
    · rename_i hnone
      refine .of_job rfl h ⟨hstat, direct, hcont, .inl (hcont.agrees.turn_none ?_)⟩
      unfold Loop.turn
      rw [if_pos hlt, hnone]
      rfl
    · rename_i batch next hnext
      obtain ⟨hbatch, later, hlater⟩ := hcont.turn hgoes hlt hnext
      refine .of_job rfl h ⟨hstat, ?_, hbatch, later, hlater⟩
      have hcopied := hlater.copied
      rwa [foldl_record_run] at hcopied

theorem saveResults_stepInv (h : Sofar search start s) {loop : Loop P R} {batch : List (Combination P)}
    (hheld : Held search start s (.saveResults loop batch))
    (hresms : (Task.saveResults loop batch).Resumes search s) (answer : Answer) :
    StepInv search start s (.saveResults loop batch)
      (exec search s answer (.saveResults loop batch)) := by
  obtain ⟨hstat, _, hbatch, direct, hcont⟩ := hheld
  have heval := evaluated_append search s batch
  refine .of_job rfl
    ⟨h.combinations, h.copied, ?_, ?_, ?_, fun hcomp => absurd hcomp hstat⟩
    ⟨hstat, ?_, direct, ?_⟩
  · rw [heval, List.map_append, List.map_append, h.rows, List.map_map]
    rfl
  · rw [heval]
    exact ⟨direct, hcont.turns⟩
  · rw [heval]
    exact List.forall_mem_append.2 ⟨h.fits, hresms⟩
  · rw [heval]
    exact fun hnil => hbatch (List.append_eq_nil_iff.1 hnil).2
  · rw [heval]
    exact hcont

theorem exec_stepInv (hsrch : search.Numbers) (hinds : Numbered start.combinations)
    (h : Sofar search start s) (hheld : Held search start s task) (hresms : task.Resumes search s)
    (answer : Answer) : StepInv search start s task (exec search s answer task) := by
  have hrun : Copied start s.run := h.copied
  cases task with
  | findRun =>
    refine .of_job rfl h ⟨⟨hrun.config, hrun.totalCombinations⟩, rfl, fun hne => ?_⟩
    exact decide_eq_true (hresms hne)
  | saveRunning run =>
    obtain ⟨hcopied, hstat, hresm⟩ := hheld
    have hne : run.status ≠ .completed := by rw [hstat]; simp
    exact .of_job rfl (h.setRun hcopied fun hcomp => absurd hcomp hne)
      ⟨hcopied, hne, hresm⟩
  | loadCoins => exact .of_job rfl h hheld
  | prepareWalkForwardData => exact prepareWalkForwardData_stepInv h hheld answer
  | findExistingResults run =>
    obtain ⟨hcopied, hstat⟩ := hheld
    refine .of_job rfl h ?_
    split_ifs with hstc
    · obtain ⟨direct, hcont, hgoes⟩ := resume_continues hsrch hinds h hcopied hresms
        (Loop.resume search run s.combinations s.results).history
        fun hdynamic => by rw [hstc] at hdynamic; cases hdynamic
      exact held_whileLoop hstat hcont hgoes
    · obtain ⟨direct, hcont, hgoes⟩ := resume_continues hsrch hinds h hcopied hresms
        (priorHistory s.results) fun _ => rfl
      exact ⟨hstat, hcont.copied, direct, hcont, hgoes⟩
  | findPriorResults =>
    obtain ⟨hstat, -, _, hcont, hgoes⟩ := hheld
    exact .of_job rfl h (held_whileLoop hstat hcont hgoes)
  | findCurrentRun => exact findCurrentRun_stepInv h hheld answer
  | evaluateBatch =>
    simp only [exec]
    split
    · exact .of_job rfl (h.setRun ⟨hrun.config, hrun.totalCombinations⟩ h.completed) hheld
    · exact .of_job rfl h hheld
  | saveResults => exact saveResults_stepInv h hheld hresms answer
  | updateProgress =>
    obtain ⟨hstat, heval, _, hcont⟩ := hheld
    exact .of_job rfl (h.setRun ⟨hrun.config, hrun.totalCombinations⟩ h.completed)
      (held_afterBatch hstat heval hcont)
  | rankResults =>
    obtain ⟨hstat, direct, hcont, hends⟩ := hheld
    obtain ⟨hsofar, heval⟩ := h.setResults (map_unranked_ranked answer.ties s.results)
    refine .of_job rfl hsofar ⟨hstat, ⟨answer.ties, ?_⟩, direct, ?_⟩
    · rw [heval, ← h.rows]
      exact ranked_unranked answer.ties s.results
    · rw [heval]
      exact ⟨hcont, hends⟩
  | findRank1 =>
    obtain ⟨_, ⟨ties, hranked⟩, direct, hcont, hends⟩ := hheld
    obtain ⟨_, _, _, hres, hcopied, -, hfinals⟩ :=
      finalizeOptimization_finals hcont hranked answer.now
    refine .of_job rfl h ?_
    rw [hres]
    exact ⟨hcopied, direct, ties, hcont.turns, hends, hfinals⟩
  | saveCompleted run rank1 =>
    refine .of_job rfl (h.setRun hheld.1 fun _ => hheld.2) ?_
    cases rank1
    · trivial
    · exact hheld.1
  | markBest run position =>
    refine .of_job rfl (h.setResults ?_).1 trivial
    exact map_modify_unranked s.results position
  | computeSummary => exact .of_job rfl h trivial
  | emitCompleted =>
    exact ⟨⟨h.combinations, hrun, h.rows, h.turns, h.fits, h.completed⟩,
      fun t ht => (by cases ht), fun hjob => (by cases hjob)⟩
  | saveFailed =>
    exact .of_job rfl (h.setRun hheld.1 fun hcomp => absurd hcomp hheld.2) trivial
  | emitFailed =>
    exact ⟨⟨h.combinations, hrun, h.rows, h.turns, h.fits, h.completed⟩,
      fun t ht => (by cases ht), fun _ => ⟨rfl, id, fun t ht => (by cases ht)⟩⟩
  | findCancelled =>
    simp only [exec]
    split
    · refine .of_quiet h (fun t ht => ?_) fun _ t ht => by cases ht; rfl
      cases ht
      exact ⟨⟨hrun.config, hrun.totalCombinations⟩, by simp⟩
    · exact .of_quiet h (fun t ht => by cases ht) fun _ t ht => by cases ht
  | saveCancelled => exact .of_update h hheld.1 hheld.2 fun t ht => by cases ht
  | findStale =>
    simp only [exec]
    split
    · split <;> exact .of_quiet h (fun t ht => by cases ht; trivial) fun _ t ht => by cases ht; rfl
    · exact .of_quiet h (fun t ht => by cases ht) fun _ t ht => by cases ht
  | checkQueued =>
    simp only [exec]
    split
    · exact .of_quiet h (fun t ht => by cases ht) fun _ t ht => by cases ht
    · exact .of_quiet h (fun t ht => by cases ht; trivial) fun _ t ht => by cases ht; rfl
  | findOrphaned =>
    simp only [exec]
    split
    · exact .of_quiet h (fun t ht => by cases ht; trivial) fun _ t ht => by cases ht; rfl
    · have hrecover := recoverSingleRun_held search start s s.run answer.now
      exact .of_quiet h (fun t ht => (hrecover t ht).1) fun _ t ht => (hrecover t ht).2
    · exact .of_quiet h (fun t ht => by cases ht) fun _ t ht => by cases ht
  | getJob run =>
    simp only [exec]
    split
    · exact .of_quiet h (fun t ht => by cases ht) fun _ t ht => by cases ht
    · have hrecover := recoverSingleRun_held search start s run answer.now
      exact .of_quiet h (fun t ht => (hrecover t ht).1) fun _ t ht => (hrecover t ht).2
  | forceRemoveJob =>
    exact .of_quiet h (fun t ht => by cases ht; trivial) fun _ t ht => by cases ht; rfl
  | addJob => exact .of_quiet h (fun t ht => by cases ht) fun _ t ht => by cases ht
  | _ =>
    simp only [exec]
    split
    · refine .of_update h ⟨hrun.config, hrun.totalCombinations⟩ (by simp) fun t ht => ?_
      cases ht <;> exact ⟨trivial, rfl⟩
    · exact .of_quiet h (fun t ht => by cases ht) fun _ t ht => by cases ht

/-! ## Runs -/

structure SofarAll (search : Search P R) (start : Stored P) (pool : Pool (Stored P) (Task P R)) :
    Prop where
  sofar : Sofar search start pool.shared
  held : ∀ task ∈ pool.inFlight, Held search start pool.shared task
  oneJob : (pool.inFlight.filter Task.isJob).length ≤ 1

theorem advance_stepInv (hsrch : search.Numbers) (hinds : Numbered start.combinations)
    (h : Sofar search start s) (hheld : Held search start s task) {answer : Answer}
    (hresms : answer.outcome.succeeds = true → task.Resumes search s) :
    StepInv search start s task ((optimizationProgram search).advance s task answer) := by
  cases hout : answer.outcome with
  | crash =>
    simp only [optimizationProgram, hout]
    exact .of_quiet h (fun t ht => by cases ht) fun _ t ht => by cases ht
  | throws message =>
    simp only [optimizationProgram, hout]
    exact onError_stepInv h hheld message answer.now
  | ok | heartbeat =>
    simp only [optimizationProgram, hout]
    exact exec_stepInv hsrch hinds h hheld (hresms (by rw [hout]; rfl)) answer

theorem SofarAll.step (hsrch : search.Numbers) (hinds : Numbered start.combinations)
    {pool : Pool (Stored P) (Task P R)} {move : Move Request Answer}
    (h : SofarAll search start pool) (hresms : Resumes search pool move) :
    SofarAll search start ((optimizationProgram search).step pool move) := by
  obtain ⟨request, rfl, hres⟩ | ⟨_, answer, task, before, after, rfl, htask, hsplit,
    hres⟩ | hres := (optimizationProgram search).step_cases pool move
  · rw [hres]
    refine ⟨h.sofar, fun task htask => ?_, ?_⟩
    · rcases List.mem_append.1 htask with htask | htask
      · exact h.held task htask
      · obtain rfl := List.mem_singleton.1 htask
        cases request <;> trivial
    · rw [List.filter_append, List.length_append]
      have hone := h.oneJob
      cases request with
      | executeOptimization =>
        have hnone : pool.inFlight.filter Task.isJob = [] :=
          List.filter_eq_nil_iff.2 fun task htask => by rw [hresms task htask]; simp
        rw [hnone]
        exact le_rfl
      | _ => exact hone
  · rw [hres]
    have hheld := h.held task (List.mem_of_getElem? htask)
    have hstep := advance_stepInv hsrch hinds h.sofar hheld (hresms task htask)
    have hone := h.oneJob
    rw [hsplit, List.filter_append, List.length_append] at hone
    -- the other tasks are not jobs, or nothing they hold is touched
    have hoths : ∀ other, other ∈ before ∨ other ∈ after → Held search start
        ((optimizationProgram search).advance pool.shared task answer).1 other := by
      intro other hother
      have hmem : other ∈ pool.inFlight := by
        rw [hsplit]
        exact List.mem_append.2 (hother.imp_right (List.mem_cons_of_mem _))
      cases hjob : task.isJob with
      | false =>
        obtain ⟨hress, hstat, -⟩ := hstep.others hjob
        exact (h.held other hmem).mono hress hstat
      | true =>
        refine (h.held other hmem).of_isJob ?_
        rw [List.filter_cons_of_pos hjob, List.length_cons] at hone
        rw [← Bool.not_eq_true]
        intro hother'
        rcases hother with hother | hother
        all_goals
          have := List.length_pos_of_mem (List.mem_filter.2 ⟨hother, hother'⟩)
          omega
    refine ⟨hstep.sofar, fun other hother => ?_, ?_⟩
    · simp only [List.mem_append, Option.mem_toList] at hother
      rcases hother with hother | hother | hother
      · exact hoths other (.inl hother)
      · exact hstep.held other hother
      · exact hoths other (.inr hother)
    · rw [List.filter_append, List.filter_append, List.length_append, List.length_append]
      cases hjob : task.isJob with
      | false =>
        have hnone : ((optimizationProgram search).advance pool.shared task answer).2.toList.filter
            Task.isJob = [] := List.filter_eq_nil_iff.2 fun other hother => by
          rw [(hstep.others hjob).2.2 other (Option.mem_toList.1 hother)]
          simp
        rw [hnone, List.length_nil]
        rw [List.filter_cons_of_neg (by rw [hjob]; simp)] at hone
        omega
      | true =>
        rw [List.filter_cons_of_pos hjob, List.length_cons] at hone
        have hle := (List.length_filter_le Task.isJob
          ((optimizationProgram search).advance pool.shared task answer).2.toList).trans
            Option.length_toList_le
        omega
  · rw [hres]
    exact h

/-! ## A run that nothing interrupts -/

def nextTask (evaluated : List (Combination P)) (loop : Loop P R) : Task P R :=
  if evaluated ≠ [] ∧ stopsEarly loop = true then .rankResults loop else whileLoop loop

theorem uninterrupted_append (answers : List Answer) (answer : Answer) :
    uninterrupted search start (answers ++ [answer]) =
      (optimizationProgram search).step (uninterrupted search start answers)
        (.advance 0 answer) := by
  simp only [uninterrupted, Program.run, List.map_append, ← List.cons_append, List.foldl_append]
  rfl

def answered (ties : ℕ → ℕ) : Answer := ⟨.ok, 0, false, ties⟩

theorem uninterrupted_answered (h : uninterrupted search start answers = ⟨s, [task]⟩) (ties : ℕ → ℕ)
    :
    uninterrupted search start (answers ++ [answered ties]) =
      ⟨(exec search s (answered ties) task).1, (exec search s (answered ties) task).2.toList⟩ := by
  rw [uninterrupted_append, h]
  simp only [Program.step, optimizationProgram, answered, List.getElem?_cons_zero]
  exact congrArg (Pool.mk _) (List.append_nil _)

structure Fresh (start : Stored P) : Prop where
  results : start.results = []
  combinationsTested : start.run.combinationsTested = 0
  status : start.run.status ≠ .completed

variable (search) in
def Reaches (start : Stored P) (evaluated : List (Combination P)) (direct : Loop P R) : Prop :=
  ∃ answers s loop, (∀ answer ∈ answers, answer.outcome = .ok) ∧
    uninterrupted search start answers = ⟨s, [nextTask evaluated loop]⟩ ∧
    Continues search start evaluated loop direct ∧
    s.results = evaluated.map (resultOf search) ∧ s.run.status = .running

theorem answered_ok (h : ∀ answer ∈ answers, answer.outcome = .ok) (ties : ℕ → ℕ) :
    ∀ answer ∈ answers ++ [answered ties], answer.outcome = .ok := by
  refine List.forall_mem_append.2 ⟨h, fun answer hans => ?_⟩
  obtain rfl := List.mem_singleton.1 hans
  rfl

theorem Reaches.turn (h : Reaches search start evaluated direct)
    (hgoes : evaluated = [] ∨ stopsEarly direct = false) {batch : List (Combination P)}
    {later : Loop P R} (hturn : direct.turn search = some (batch, later)) (ties : ℕ → ℕ) :
    Reaches search start (evaluated ++ batch) later := by
  obtain ⟨_, s, loop, hanss, hpool, hcont, hress, hstat⟩ := h
  have hlt := (turn_spec hturn).unfinished
  obtain ⟨next, hnext, -, hagrees⟩ := hcont.agrees.turn hturn
  have hbatch := (turn_spec hturn).nonempty
  have htask : nextTask evaluated loop = .findCurrentRun loop := by
    unfold nextTask whileLoop
    rw [if_neg, if_pos]
    · rwa [hcont.agrees.combinationsProcessed, hcont.agrees.totalCombinations]
    · rintro ⟨hne, hstops⟩
      rw [hcont.agrees.stopsEarly hlt, hgoes.resolve_left hne] at hstops
      cases hstops
  rw [htask] at hpool
  have hevaluate := uninterrupted_answered hpool ties
  simp only [exec, hstat, hnext, reduceCtorEq, if_false, Option.toList_some] at hevaluate
  have hsave := uninterrupted_answered hevaluate ties
  have hprog := uninterrupted_answered hsave ties
  have hloop := uninterrupted_answered hprog ties
  have hnonempty : evaluated ++ batch ≠ [] := fun hnil => hbatch (List.append_eq_nil_iff.1 hnil).2
  refine ⟨_, _, batch.foldl (Loop.record search) next,
    answered_ok (answered_ok (answered_ok (answered_ok hanss ties) ties) ties) ties,
    hloop.trans (congrArg (fun task => Pool.mk _ [task]) ?_),
    ⟨hcont.turns.turn hgoes hturn, hagrees, fun hnil => absurd hnil hnonempty⟩, ?_, hstat⟩
  · simp only [nextTask, hnonempty, ne_eq, not_false_eq_true, true_and]
  · rw [List.map_append, ← hress]
    rfl

end Chansey.Optimization
