import Chansey.Domain
import Chansey.Lib.Tasks

/-!
# Optimization runs

A run tests combinations of parameters batch by batch and keeps the result of each. The queue starts
the job of the run, again after a failure or a crash, and the job goes on from the results there are.
A user cancels the run, a watchdog fails it when its heartbeat stops, and a restart of the service
puts it back in the queue.

* `OptimizationRun`, `OptimizationResult`: the rows. `Loop`: what the job keeps in memory.
-/

namespace Chansey.Optimization

open Tasks

inductive OptimizationStatus where
  | pending
  | running
  | completed
  | failed
  | cancelled
  deriving DecidableEq

structure Combination (P : Type) where
  index : ℕ
  values : P
  isBaseline : Bool
  deriving DecidableEq

structure EarlyStopConfig where
  enabled : Bool
  patience : ℕ
  minImprovement : Option ℚ

structure OptimizationConfig where
  /-- Whether the method enumerates all combinations when the run is created. -/
  isStatic : Bool
  seed : ℕ
  maxConcurrentBacktests : Option ℕ
  earlyStop : Option EarlyStopConfig

/-- Why a run failed: the message of an error, or what the watchdog or the recovery found. -/
inductive FailureReason where
  | error (message : String)
  | stalePending (createdAt : Instant)
  | staleHeartbeat (combinationsTested totalCombinations : ℕ)
  | recoveryFailed (message : String)
  | recoveriesExceeded

structure OptimizationRun (P : Type) where
  status : OptimizationStatus
  config : OptimizationConfig
  totalCombinations : ℕ
  combinationsTested : ℕ
  bestParameters : Option P
  bestScore : Option ℚ
  baselineScore : Option ℚ
  improvement : Option ℚ
  /-- `progressDetails?.autoResumeCount` -/
  autoResumeCount : Option ℕ
  errorMessage : Option FailureReason
  createdAt : Instant
  startedAt : Option Instant
  completedAt : Option Instant
  lastHeartbeatAt : Option Instant

structure EvaluationResult where
  avgTrainScore : ℚ
  avgTestScore : ℚ
  avgDegradation : ℚ
  consistencyScore : ℚ
  overfittingWindows : ℕ
  tradeCount : ℕ

structure OptimizationResult (P : Type) where
  combinationIndex : ℕ
  parameters : P
  scores : EvaluationResult
  isBaseline : Bool
  rank : Option ℕ
  isBest : Bool

structure SearchHistoryRecord (P : Type) where
  combinationIndex : ℕ
  values : P
  avgTestScore : ℚ
  isBaseline : Bool
  deriving DecidableEq

/-- What a run relies on: the evaluation of parameters, the generator of a seed, and the
combinations an adaptive search generates. -/
structure Search (P R : Type) where
  evaluateCombination : P → EvaluationResult
  makeRandom : ℕ → R
  generateNextBatch : (history : List (SearchHistoryRecord P)) →
    (batchSize remaining startIndex : ℕ) → R → List (Combination P) × R

/-! ## Scores -/

/-- `sanitizeNumericValue` with 14 integer digits, for a number. -/
def sanitizeNumericValue (value : ℚ) : Option ℚ :=
  if ⌊|value|⌋ < 10 ^ 14 then some value else none

def storedScore (value : ℚ) : ℚ := Js.decimalColumn value 4

def EvaluationResult.stored (result : EvaluationResult) : EvaluationResult :=
  { result with
    avgTrainScore := storedScore ((sanitizeNumericValue result.avgTrainScore).getD 0)
    avgTestScore := storedScore ((sanitizeNumericValue result.avgTestScore).getD 0)
    avgDegradation := storedScore ((sanitizeNumericValue result.avgDegradation).getD 0)
    consistencyScore := storedScore ((sanitizeNumericValue result.consistencyScore).getD 0) }

/-- A score of `-Infinity` is none. -/
def calculateImprovement (bestScore : Option ℚ) (baselineScore : ℚ) : ℚ :=
  match bestScore with
  | none => if baselineScore = 0 then 0 else -500
  | some bestScore =>
    if baselineScore = 0 then if 0 < bestScore then min (bestScore * 100) 500 else 0
    else
      let denominator := if baselineScore < 0 then max |baselineScore| 1 else |baselineScore|
      max (-500) (min 500 ((bestScore - baselineScore) / denominator * 100))

def rankingScore (scores : EvaluationResult) : Option ℚ :=
  if scores.tradeCount = 0 then none
  else some (scores.avgTestScore * (6 / 10 + 4 / 10 * scores.consistencyScore / 100) *
    max (1 / 2) (1 - 1 / 10 * scores.overfittingWindows) * min 1 (scores.tradeCount / 30))

/-- A result is ranked before another one: `DESC NULLS LAST`, and rows of one score by `ties`. -/
def ranksBefore (ties : ℕ → ℕ) (scores other : EvaluationResult × ℕ) : Bool :=
  match rankingScore scores.1, rankingScore other.1 with
  | some score, some score' =>
    score' < score ∨ score = score' ∧
      (ties scores.2 < ties other.2 ∨ ties scores.2 = ties other.2 ∧ scores.2 < other.2)
  | some _, none => true
  | none, some _ => false
  | none, none =>
    ties scores.2 < ties other.2 ∨ ties scores.2 = ties other.2 ∧ scores.2 < other.2

/-! ## The loop of a job -/

structure Loop (P R : Type) where
  run : OptimizationRun P
  combinations : List (Combination P)
  history : List (SearchHistoryRecord P)
  random : R
  /-- None is `-Infinity`. -/
  bestScore : Option ℚ
  bestParameters : Option P
  baselineScore : ℚ
  noImprovementCount : ℕ
  combinationsProcessed : ℕ

section Loop

variable {P R : Type} (search : Search P R)

def Loop.start (run : OptimizationRun P) (combinations : List (Combination P)) : Loop P R where
  run := run
  combinations := combinations
  history := []
  random := search.makeRandom run.config.seed
  bestScore := none
  bestParameters := none
  baselineScore := 0
  noImprovementCount := 0
  combinationsProcessed := 0

def Loop.takeExisting (loop : Loop P R) (result : OptimizationResult P) : Loop P R :=
  let score := result.scores.avgTestScore
  let loop := if result.isBaseline then { loop with baselineScore := score } else loop
  if loop.bestScore.all (· < score) then
    { loop with bestScore := some score, bestParameters := some result.parameters }
  else loop

def Loop.resume (run : OptimizationRun P) (combinations : List (Combination P))
    (existingResults : List (OptimizationResult P)) : Loop P R :=
  let processedIndices := existingResults.map (·.combinationIndex)
  let loop := Loop.start search run (combinations.filter (·.index ∉ processedIndices))
  existingResults.foldl Loop.takeExisting { loop with combinationsProcessed := existingResults.length }

def noImprovementAfter (config : OptimizationConfig) (bestScore : Option ℚ) (count : ℕ) (score : ℚ) :
    ℕ :=
  match bestScore with
  | none => 0
  | some bestScore =>
    if bestScore < score then
      let improvementPct := if bestScore ≠ 0 then (score - bestScore) / |bestScore| * 100 else 100
      if (config.earlyStop.bind (·.minImprovement)).getD 0 ≤ improvementPct then 0 else count + 1
    else count + 1

def Loop.record (loop : Loop P R) (combination : Combination P) : Loop P R :=
  let evaluation := search.evaluateCombination combination.values
  let score := evaluation.avgTestScore
  let tried : SearchHistoryRecord P := ⟨combination.index, combination.values,
    (sanitizeNumericValue score).getD 0, combination.isBaseline⟩
  let loop := { loop with
    history := loop.history ++ [tried]
    baselineScore := if combination.isBaseline then score else loop.baselineScore
    noImprovementCount :=
      noImprovementAfter loop.run.config loop.bestScore loop.noImprovementCount score
    combinationsProcessed := loop.combinationsProcessed + 1 }
  if loop.bestScore.all (· < score) then
    { loop with bestScore := some score, bestParameters := some combination.values }
  else loop

def resultOf (combination : Combination P) : OptimizationResult P where
  combinationIndex := combination.index
  parameters := combination.values
  scores := (search.evaluateCombination combination.values).stored
  isBaseline := combination.isBaseline
  rank := none
  isBest := false

/-- `run.config.parallelism?.maxConcurrentBacktests || 3` -/
def maxConcurrent (config : OptimizationConfig) : ℕ :=
  (config.maxConcurrentBacktests.filter (· ≠ 0)).getD 3

def nextBatch (loop : Loop P R) : Option (List (Combination P) × Loop P R) :=
  let batchSize := maxConcurrent loop.run.config
  if loop.combinations ≠ [] then
    some (loop.combinations.take batchSize,
      { loop with combinations := loop.combinations.drop batchSize })
  else if loop.run.config.isStatic then none
  else
    let remaining := loop.run.totalCombinations - loop.combinationsProcessed
    let (batch, random) := search.generateNextBatch loop.history batchSize remaining
      loop.combinationsProcessed loop.random
    if batch = [] then none else some (batch, { loop with random := random })

def stopsEarly (loop : Loop P R) : Bool :=
  loop.run.config.earlyStop.any fun earlyStop =>
    earlyStop.enabled ∧ earlyStop.patience ≤ loop.noImprovementCount

end Loop

/-! ## Tasks -/

inductive Event (P : Type) where
  | completed (bestParameters : Option P) (bestScore : Option ℚ) (improvement : ℚ)
  | failed (reason : FailureReason)

/-- The stored run with its results, and the events that were emitted for it. -/
structure Stored (P : Type) where
  run : OptimizationRun P
  combinations : List (Combination P)
  results : List (OptimizationResult P)
  events : List (Event P)

/-- A task, at the query it waits for next, with what it keeps in memory. -/
inductive Task (P R : Type) where
  /-- `executeOptimization` -/
  | findRun
  | saveRunning (run : OptimizationRun P) (isResume : Bool)
  | loadCoins (run : OptimizationRun P) (isResume : Bool)
  | prepareWalkForwardData (run : OptimizationRun P) (isResume : Bool)
  | findExistingResults (run : OptimizationRun P)
  | findPriorResults (loop : Loop P R)
  | findCurrentRun (loop : Loop P R)
  | evaluateBatch (loop : Loop P R) (batch : List (Combination P))
  | saveResults (loop : Loop P R) (batch : List (Combination P))
  | updateProgress (loop : Loop P R)
  /-- `finalizeOptimization` -/
  | rankResults (loop : Loop P R)
  | findRank1 (loop : Loop P R)
  | saveCompleted (run : OptimizationRun P) (rank1 : Option ℕ) (event : Event P)
  | markBest (run : OptimizationRun P) (rank1 : ℕ) (event : Event P)
  | computeSummary (event : Event P)
  | emitCompleted (event : Event P)
  /-- The catch clause of `executeOptimization`. -/
  | saveFailed (run : OptimizationRun P) (reason : FailureReason)
  | emitFailed (reason : FailureReason)
  /-- `cancelOptimization` -/
  | findCancelled
  | saveCancelled (run : OptimizationRun P)
  /-- `detectStaleOptimizationRuns` -/
  | findStale
  | checkQueued (run : OptimizationRun P)
  | markStale (reason : FailureReason)
  /-- `recoverOrphanedOptimizationRuns` -/
  | findOrphaned
  | getJob (run : OptimizationRun P)
  | forceRemoveJob (autoResumeCount : ℕ)
  | markPending (autoResumeCount : ℕ)
  | addJob
  | markUnrecovered (reason : FailureReason)

inductive Request where
  | executeOptimization
  | cancelOptimization
  | detectStaleOptimizationRuns
  | recoverOrphanedOptimizationRuns

inductive Outcome where
  | ok
  | throws (message : String)
  | crash
  /-- The evaluation of a batch goes on. -/
  | heartbeat
  deriving DecidableEq

structure Answer where
  outcome : Outcome
  now : Instant
  queued : Bool
  /-- The order of rows with one score. -/
  ties : ℕ → ℕ

/-- A watchdog's or the recovery's threshold: six hours. -/
def optimizationThresholdMs : ℤ := 360 * 60 * 1000

/-- `In([RUNNING, PENDING])` -/
def OptimizationStatus.isActive : OptimizationStatus → Bool
  | .running | .pending => true
  | _ => false

def OptimizationRun.isStale {P : Type} (run : OptimizationRun P) (now : Instant) : Bool :=
  let runningCutoff := now - optimizationThresholdMs
  match run.status with
  | .running =>
    match run.lastHeartbeatAt with
    | some lastHeartbeatAt => lastHeartbeatAt < runningCutoff
    | none => run.startedAt.any (· < runningCutoff)
  | .pending => run.createdAt < now - optimizationThresholdMs
  | _ => false

section Exec

variable {P R : Type} (search : Search P R)

def Task.tries : Task P R → Option (OptimizationRun P)
  | .prepareWalkForwardData run _ | .findExistingResults run => some run
  | .findPriorResults loop | .findCurrentRun loop | .evaluateBatch loop _ | .saveResults loop _
  | .updateProgress loop => some loop.run
  | .rankResults loop | .findRank1 loop =>
    some { loop.run with combinationsTested := loop.combinationsProcessed }
  | .saveCompleted run _ _ | .markBest run _ _ => some run
  | _ => none

def Task.onError (message : String) (now : Instant) : Task P R → Option (Task P R)
  | .computeSummary event => some (.emitCompleted event)
  | .getJob _ | .forceRemoveJob _ | .markPending _ | .addJob
  | .markUnrecovered .recoveriesExceeded => some (.markUnrecovered (.recoveryFailed message))
  | task => task.tries.map fun run => .saveFailed
      { run with
        status := .failed
        errorMessage := some (.error message)
        completedAt := some now } (.error message)

def whileLoop (loop : Loop P R) : Task P R :=
  if loop.combinationsProcessed < loop.run.totalCombinations then .findCurrentRun loop
  else .rankResults loop

/-- `finalizeOptimization`, up to the save. -/
def finalizeOptimization (loop : Loop P R) (rank1 : Option (OptimizationResult P × ℕ))
    (now : Instant) : Task P R :=
  let bestScore := rank1.elim loop.bestScore fun result => some result.1.scores.avgTestScore
  let bestParameters := rank1.elim loop.bestParameters fun result => some result.1.parameters
  let improvement : ℚ :=
    Js.round (calculateImprovement bestScore loop.baselineScore * 100) / 100
  let run := { loop.run with
    combinationsTested := loop.combinationsProcessed
    status := .completed
    bestScore := some (storedScore ((bestScore.bind sanitizeNumericValue).getD 0))
    bestParameters := bestParameters
    baselineScore := some (storedScore ((sanitizeNumericValue loop.baselineScore).getD 0))
    improvement := some (storedScore ((sanitizeNumericValue improvement).getD 0))
    completedAt := some now }
  .saveCompleted run (rank1.map (·.2))
    (.completed bestParameters bestScore ((sanitizeNumericValue improvement).getD 0))

def ranked (ties : ℕ → ℕ) (results : List (OptimizationResult P)) : List (OptimizationResult P) :=
  let positions := results.zipIdx
  positions.map fun (result, i) =>
    { result with
      rank := some (1 + (positions.filter fun (other, j) =>
        ranksBefore ties (other.scores, j) (result.scores, i)).length) }

/-- `recoverSingleRun`, when the queue holds no job of a pending run. -/
def recoverSingleRun (run : OptimizationRun P) (now : Instant) : Option (Task P R) :=
  let fresh := run.lastHeartbeatAt.any (now - · < optimizationThresholdMs)
  let autoResumeCount := run.autoResumeCount.getD 0
  if run.status = .running ∧ fresh then none
  else if 3 ≤ autoResumeCount then some (.markUnrecovered .recoveriesExceeded)
  else some (.forceRemoveJob autoResumeCount)

def exec (s : Stored P) (answer : Answer) : Task P R → Stored P × Option (Task P R)
  | .findRun =>
    let isResume := 0 < s.run.combinationsTested
    let run := { s.run with
      status := .running
      startedAt := if isResume then s.run.startedAt else some answer.now
      lastHeartbeatAt := some answer.now }
    (s, some (.saveRunning run isResume))
  | .saveRunning run isResume => ({ s with run := run }, some (.loadCoins run isResume))
  | .loadCoins run isResume => (s, some (.prepareWalkForwardData run isResume))
  | .prepareWalkForwardData run isResume =>
    (s, some (if isResume then .findExistingResults run
      else whileLoop (Loop.start search run s.combinations)))
  | .findExistingResults run =>
    let loop := Loop.resume search run s.combinations s.results
    (s, some (if run.config.isStatic then whileLoop loop else .findPriorResults loop))
  | .findPriorResults loop =>
    let history := s.results.map fun result => ⟨result.combinationIndex, result.parameters,
      result.scores.avgTestScore, result.isBaseline⟩
    (s, some (whileLoop { loop with history := history }))
  | .findCurrentRun loop =>
    if s.run.status = .cancelled then (s, none)
    else
      match nextBatch search loop with
      | none => (s, some (.rankResults loop))
      | some (batch, loop) => (s, some (.evaluateBatch loop batch))
  | .evaluateBatch loop batch =>
    if answer.outcome = .heartbeat then
      ({ s with run := { s.run with lastHeartbeatAt := some answer.now } },
        some (.evaluateBatch loop batch))
    else (s, some (.saveResults loop batch))
  | .saveResults loop batch =>
    ({ s with results := s.results ++ batch.map (resultOf search) },
      some (.updateProgress (batch.foldl (Loop.record search) loop)))
  | .updateProgress loop =>
    ({ s with
        run := { s.run with
          combinationsTested := loop.combinationsProcessed
          autoResumeCount := loop.run.autoResumeCount
          lastHeartbeatAt := some answer.now } },
      some (if stopsEarly loop then .rankResults loop else whileLoop loop))
  | .rankResults loop =>
    ({ s with results := ranked answer.ties s.results }, some (.findRank1 loop))
  | .findRank1 loop =>
    let rank1 := s.results.zipIdx.find? (·.1.rank = some 1)
    (s, some (finalizeOptimization loop rank1 answer.now))
  | .saveCompleted run rank1 event =>
    ({ s with run := run },
      some (rank1.elim (.computeSummary event) fun position => .markBest run position event))
  | .markBest _ position event =>
    ({ s with
        results := s.results.modify position fun result => { result with isBest := true } },
      some (.computeSummary event))
  | .computeSummary event => (s, some (.emitCompleted event))
  | .emitCompleted event => ({ s with events := s.events ++ [event] }, none)
  | .saveFailed run reason => ({ s with run := run }, some (.emitFailed reason))
  | .emitFailed reason => ({ s with events := s.events ++ [.failed reason] }, none)
  | .findCancelled =>
    if s.run.status.isActive then
      (s, some (.saveCancelled { s.run with status := .cancelled, completedAt := some answer.now }))
    else (s, none)
  | .saveCancelled run => ({ s with run := run }, none)
  | .findStale =>
    if s.run.isStale answer.now then
      if s.run.status = .pending then (s, some (.checkQueued s.run))
      else (s, some (.markStale (.staleHeartbeat s.run.combinationsTested s.run.totalCombinations)))
    else (s, none)
  | .checkQueued run =>
    if answer.queued then (s, none) else (s, some (.markStale (.stalePending run.createdAt)))
  | .markStale reason =>
    if s.run.status.isActive then
      ({ s with
          run := { s.run with
            status := .failed
            errorMessage := some reason
            completedAt := some answer.now } },
        some (.emitFailed reason))
    else (s, none)
  | .findOrphaned =>
    match s.run.status with
    | .pending => (s, some (.getJob s.run))
    | .running => (s, recoverSingleRun s.run answer.now)
    | _ => (s, none)
  | .getJob run => (s, if answer.queued then none else recoverSingleRun run answer.now)
  | .forceRemoveJob autoResumeCount => (s, some (.markPending autoResumeCount))
  | .markPending autoResumeCount =>
    if s.run.status.isActive then
      ({ s with
          run := { s.run with
            status := .pending
            autoResumeCount := some (autoResumeCount + 1) } },
        some .addJob)
    else (s, none)
  | .addJob => (s, none)
  | .markUnrecovered reason =>
    if s.run.status.isActive then
      ({ s with
          run := { s.run with
            status := .failed
            errorMessage := some reason
            completedAt := some answer.now } },
        none)
    else (s, none)

def optimizationProgram : Program (Stored P) (Task P R) Request Answer where
  call s request :=
    (s, some (match request with
      | .executeOptimization => .findRun
      | .cancelOptimization => .findCancelled
      | .detectStaleOptimizationRuns => .findStale
      | .recoverOrphanedOptimizationRuns => .findOrphaned))
  advance s task answer :=
    match answer.outcome with
    | .crash => (s, none)
    | .throws message => (s, task.onError message answer.now)
    | _ => exec search s answer task

end Exec

def startOptimization {P : Type} (config : OptimizationConfig)
    (combinations : List (Combination P)) (targetCount : ℕ) (now : Instant) : Stored P where
  run :=
    { status := .pending
      config := config
      totalCombinations := if config.isStatic then combinations.length else targetCount
      combinationsTested := 0
      bestParameters := none
      bestScore := none
      baselineScore := none
      improvement := none
      autoResumeCount := none
      errorMessage := none
      createdAt := now
      startedAt := none
      completedAt := none
      lastHeartbeatAt := none }
  combinations := combinations
  results := []
  events := []

end Chansey.Optimization
