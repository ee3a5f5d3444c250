import Chansey.Lib.Tasks
import Chansey.Pipeline.Progression

/-!
# A pipeline and what changes it

A pipeline is read, changed and saved by the requests of its user, by the handlers of the events of
its stages and by the jobs of its queue, all at once. Each of them reads a copy, waits for other
services, and saves the copy with every column it has.
-/

namespace Chansey.Pipelines

open Tasks

/-- `COMPLETED`, `FAILED`, `REJECTED` and `CANCELLED`. -/
def PipelineStatus.isTerminal : PipelineStatus → Bool
  | .completed | .failed | .rejected | .cancelled => true
  | _ => false

/-- `In([RUNNING, PAUSED])` -/
def PipelineStatus.isActive : PipelineStatus → Bool
  | .running | .paused => true
  | _ => false

/-- The place of a stage in `stageOrder`. -/
def PipelineStage.index : PipelineStage → ℕ
  | .optimize => 0
  | .historical => 1
  | .liveReplay => 2
  | .paperTrade => 3
  | .completed => 4

/-- The stage after it in `stageOrder`. -/
def PipelineStage.next : PipelineStage → Option PipelineStage
  | .optimize => some .historical
  | .historical => some .liveReplay
  | .liveReplay => some .paperTrade
  | .paperTrade => some .completed
  | .completed => none

inductive BacktestType where
  | historical | liveReplay
  deriving DecidableEq

def BacktestType.stage : BacktestType → PipelineStage
  | .historical => .historical
  | .liveReplay => .liveReplay

inductive OptimizationFailure where
  | bestScore (value min : ℚ)
  | improvement (value min : ℚ)
  deriving DecidableEq

inductive StageError where
  | error (message : String)
  | stillPending (status : PipelineStatus)
  | unknownStage (stage : PipelineStage)
  deriving DecidableEq

inductive FailureReason where
  | cancelledByUser
  | cancelledByAdmin
  | optimizationThresholds (failures : List OptimizationFailure)
  | optimizationFailed (reason : String)
  | noTrades (type : BacktestType)
  | backtestFailed (type : BacktestType) (reason : String)
  | scoreBelowMinimum (score min : ℚ)
  | paperTradingThresholds (failures : List ProgressionFailure)
  | paperTradingFailed (reason : String)
  | enqueueFailed (error : StageError)
  | stageFailed (error : StageError)
  | watchdog (stage : PipelineStage) (orphaned : Bool)
  deriving DecidableEq

/-- `stageConfig` and `progressionRules`, as far as they decide. -/
structure PipelineConfig where
  historicalCapital : ℚ
  liveReplayCapital : ℚ
  minImprovement : ℚ
  minAbsoluteScore : Option ℚ
  minimumPipelineScore : Option ℚ
  paperTrading : StageProgressionThresholds

/-- The row of a pipeline. Runs of stages have ids in `I`, strategies parameters in `P`. -/
structure Pipeline (I P : Type) where
  status : PipelineStatus
  currentStage : PipelineStage
  optimizationRunId : Option I
  historicalBacktestId : Option I
  liveReplayBacktestId : Option I
  paperTradingSessionId : Option I
  optimizedParameters : Option P
  stageResults : Option PipelineStageResults
  recommendation : Option DeploymentRecommendation
  pipelineScore : Option ℚ
  failureReason : Option FailureReason
  deriving DecidableEq

variable {I P : Type}

def Pipeline.runId (pipeline : Pipeline I P) : PipelineStage → Option I
  | .optimize => pipeline.optimizationRunId
  | .historical => pipeline.historicalBacktestId
  | .liveReplay => pipeline.liveReplayBacktestId
  | .paperTrade => pipeline.paperTradingSessionId
  | .completed => none

/-! ## What is saved -/

inductive Change (I P : Type) where
  | startPipeline
  | pausePipeline
  | resumePipeline
  | cancelPipeline (byAdmin : Bool)
  | advanceToNextStage
  | completePipeline
  | failPipeline (reason : FailureReason)
  | rejectPipeline (reason : FailureReason)
  | markInconclusiveAndComplete
  | optimizationResult (runId : I) (bestParameters : P) (bestScore improvement : ℚ)
  | historicalResult (metrics : BacktestMetrics)
  | liveReplayResult (metrics : BacktestMetrics) (score : PipelineScoreResult)
  | paperTradingResult (metrics : PaperTradingMetrics) (stoppedReason : Option StoppedReason)
  | optimizationSkipped
  | attachRun (stage : PipelineStage) (id : I)
  deriving DecidableEq

def evaluateOptimizationProgression (config : PipelineConfig) (improvement bestScore : ℚ) :
    List OptimizationFailure :=
  let minAbsoluteScore := config.minAbsoluteScore.getD 0
  (if bestScore < minAbsoluteScore then [.bestScore bestScore minAbsoluteScore] else []) ++
    (if improvement < config.minImprovement then [.improvement improvement config.minImprovement]
    else [])

def optimizationStageResult (bestScore improvement : ℚ) : OptimizationStageResult where
  status := .completed
  bestScore := bestScore
  baselineScore := if improvement ≤ -100 then 0 else bestScore / (1 + improvement / 100)
  improvement := improvement

def Change.apply (config : PipelineConfig) (pipeline : Pipeline I P) : Change I P → Pipeline I P
  | .startPipeline => { pipeline with status := .running }
  | .pausePipeline => { pipeline with status := .paused }
  | .resumePipeline => { pipeline with status := .running }
  | .cancelPipeline byAdmin =>
    { pipeline with
      status := .cancelled
      failureReason := some (if byAdmin then .cancelledByAdmin else .cancelledByUser) }
  | .advanceToNextStage =>
    { pipeline with currentStage := pipeline.currentStage.next.getD pipeline.currentStage }
  | .completePipeline =>
    { pipeline with
      status := .completed
      currentStage := .completed
      recommendation := some (generateRecommendation pipeline.stageResults)
      pipelineScore := ((pipeline.stageResults.bind (·.scoring)).map
        (Js.decimalColumn ·.overallScore 2)).or pipeline.pipelineScore }
  | .failPipeline reason =>
    { pipeline with
      status := .failed
      failureReason := some reason
      recommendation := some .doNotDeploy }
  | .rejectPipeline reason =>
    { pipeline with
      status := .rejected
      failureReason := some reason
      recommendation := some .doNotDeploy }
  | .markInconclusiveAndComplete =>
    { pipeline with
      status := .completed
      currentStage := .completed
      recommendation := some .inconclusiveRetry
      pipelineScore := none
      failureReason := none }
  | .optimizationResult runId bestParameters bestScore improvement =>
    { pipeline with
      optimizationRunId := some runId
      optimizedParameters := some bestParameters
      stageResults := some
        { pipeline.stageResults.getD {} with
          optimization := some (optimizationStageResult bestScore improvement) } }
  | .historicalResult metrics =>
    { pipeline with
      stageResults := some
        { pipeline.stageResults.getD {} with
          historical := some (historicalStageResult config.historicalCapital metrics) } }
  | .liveReplayResult metrics score =>
    { pipeline with
      stageResults := some
        { pipeline.stageResults.getD {} with
          liveReplay := some
            (liveReplayStageResult pipeline.stageResults config.liveReplayCapital metrics)
          scoring := some score }
      pipelineScore := some (Js.decimalColumn score.overallScore 2) }
  | .paperTradingResult metrics stoppedReason =>
    { pipeline with
      stageResults := some
        { pipeline.stageResults.getD {} with
          paperTrading := some
            (paperTradingStageResult pipeline.stageResults metrics stoppedReason) } }
  | .optimizationSkipped =>
    { pipeline with
      stageResults := some
        { pipeline.stageResults.getD {} with
          optimization := some ⟨.completed, 0, 0, 0⟩ } }
  | .attachRun stage id =>
    match stage with
    | .optimize => { pipeline with optimizationRunId := some id }
    | .historical => { pipeline with historicalBacktestId := some id }
    | .liveReplay => { pipeline with liveReplayBacktestId := some id }
    | .paperTrade => { pipeline with paperTradingSessionId := some id }
    | .completed => pipeline

inductive PipelineEvent where
  | statusChange (previousStatus newStatus : PipelineStatus)
  | stageTransition (previousStage newStage : PipelineStage)
  | completed (recommendation : Option DeploymentRecommendation)
  | failed (reason : FailureReason)
  | rejected (reason : FailureReason)

def Change.events (before after : Pipeline I P) : Change I P → List PipelineEvent
  | .startPipeline => [.statusChange before.status after.status]
  | .advanceToNextStage => [.stageTransition before.currentStage after.currentStage]
  | .completePipeline | .markInconclusiveAndComplete => [.completed after.recommendation]
  | .failPipeline reason => [.failed reason]
  | .rejectPipeline reason => [.rejected reason]
  | _ => []

/-! ## Tasks -/

inductive RunStatus where
  | pending | running | active | paused | completed | failed | stopped | cancelled
  deriving DecidableEq

def RunStatus.ended : RunStatus → Bool
  | .completed | .failed | .stopped | .cancelled => true
  | _ => false

inductive RunCommand where
  | cancelOptimization | cancelBacktest | pauseBacktest | resumeBacktest
  | pauseSession | resumeSession | stopSession

/-- The statuses in which a run does what it is asked. In others the command throws. -/
def RunCommand.accepts : RunCommand → RunStatus → Bool
  | .cancelOptimization, status | .cancelBacktest, status =>
    status = .running ∨ status = .pending
  | .pauseBacktest, status => status = .running
  | .resumeBacktest, status => status = .paused ∨ status = .cancelled ∨ status = .failed
  | .pauseSession, status => status = .active
  | .resumeSession, status => status = .paused
  | .stopSession, status => ¬ status.ended

def RunCommand.saves : RunCommand → Option RunStatus
  | .cancelOptimization | .cancelBacktest => some .cancelled
  | .pauseBacktest => none
  | .resumeBacktest => some .pending
  | .pauseSession => some .paused
  | .resumeSession => some .active
  | .stopSession => some .stopped

/-- The checks of the watchdog for pipelines whose stage has failed or never began. -/
inductive Detector where
  | orphanedOptimize | failedOptimization | failedBacktest | failedPaperTrading
  | orphanedPaperTrade
  deriving DecidableEq

def Detector.stages : Detector → List PipelineStage
  | .orphanedOptimize | .failedOptimization => [.optimize]
  | .failedBacktest => [.historical, .liveReplay]
  | .failedPaperTrading | .orphanedPaperTrade => [.paperTrade]

def Detector.orphaned : Detector → Bool
  | .orphanedOptimize | .orphanedPaperTrade => true
  | _ => false

/-- Whether its update names the stage it found. -/
def Detector.checksStage : Detector → Bool
  | .orphanedOptimize | .failedOptimization => false
  | _ => true

/-- A request of the user, a job of the queue, an event of a stage or a check of the watchdog. -/
inductive Request (I P : Type) where
  | startPipeline
  | pausePipeline
  | resumePipeline
  | cancelPipeline (byAdmin : Bool)
  | skipStage
  | recordOptimizationSkipped
  | process (stage : PipelineStage)
  | optimizationComplete (runId : I) (bestParameters : P) (bestScore improvement : ℚ)
  | optimizationFailed (runId : I) (reason : String)
  | backtestComplete (backtestId : I) (type : BacktestType) (metrics : BacktestMetrics)
  | backtestFailed (backtestId : I) (type : BacktestType) (reason : String)
  | paperTradingComplete (sessionId : I) (metrics : PaperTradingMetrics)
    (stoppedReason : Option StoppedReason)
  | paperTradingFailed (sessionId : I) (reason : String)
  | detect (detector : Detector)
  | runChanges (id : I) (status : RunStatus)
  deriving DecidableEq

/-- The query a task waits for, with what it keeps in memory. -/
inductive Op (I P : Type) where
  | find
  /-- The second look of a job that found the pipeline pending. -/
  | findRetried
  /-- The look of `executeStage`. -/
  | findToExecute
  /-- `pipelineRepository.save` of a copy with a change. -/
  | save (pipeline : Pipeline I P) (change : Change I P)
  /-- `calculatePipelineScore` -/
  | score (pipeline : Pipeline I P) (metrics : BacktestMetrics)
  | enqueueStageJob (stage : PipelineStage)
  /-- `pipelineRepository.update(id, { status: FAILED })` -/
  | markFailed (reason : FailureReason)
  | createRun (pipeline : Pipeline I P) (stage : PipelineStage)
  | getBacktest (pipeline : Pipeline I P) (id : I)
  | findRun (command : RunCommand) (id : I) (after : Option (Pipeline I P × Change I P))
  | saveRun (command : RunCommand) (id : I) (after : Option (Pipeline I P × Change I P))
  | findLinkedRun (detector : Detector) (stage : PipelineStage) (id : I)
  | failRunning (detector : Detector) (stage : PipelineStage)

structure Task (I P : Type) where
  request : Request I P
  op : Op I P

/-- The pipeline, the runs of its stages and the events that were emitted for it. -/
structure Stored (I P : Type) where
  pipeline : Pipeline I P
  runs : OrdMap I RunStatus
  events : List PipelineEvent

inductive Outcome where
  | ok
  | throws (message : String)
  | crash
  deriving DecidableEq

structure Answer (I : Type) where
  outcome : Outcome
  newId : I
  score : PipelineScoreResult

section Exec

variable [DecidableEq I] (config : PipelineConfig)

/-- `advanceToNextStage` throws at the last stage. -/
def advanceToNextStage (pipeline : Pipeline I P) : Option (Op I P) :=
  if pipeline.currentStage = .completed then none
  else some (.save pipeline .advanceToNextStage)

def pauseCurrentStage (pipeline : Pipeline I P) : Option (Op I P) :=
  match pipeline.currentStage with
  | .liveReplay => pipeline.liveReplayBacktestId.map (.findRun .pauseBacktest · none)
  | .paperTrade => pipeline.paperTradingSessionId.map (.findRun .pauseSession · none)
  | _ => none

def resumeCurrentStage (pipeline : Pipeline I P) : Option (Op I P) :=
  match pipeline.runId pipeline.currentStage with
  | none => some (.enqueueStageJob pipeline.currentStage)
  | some id =>
    match pipeline.currentStage with
    | .optimize =>
      if (pipeline.stageResults.bind (·.optimization)).any (·.status = .completed) then
        advanceToNextStage pipeline
      else none
    | .historical | .liveReplay => some (.getBacktest pipeline id)
    | .paperTrade => some (.findRun .resumeSession id none)
    | .completed => some (.enqueueStageJob .completed)

def cancelCommand : PipelineStage → RunCommand
  | .optimize => .cancelOptimization
  | .historical | .liveReplay => .cancelBacktest
  | .paperTrade | .completed => .stopSession

/-- `cancelCurrentStage`, and the change that is saved after it. -/
def cancelCurrentStage (pipeline : Pipeline I P) (change : Change I P) : Op I P :=
  match pipeline.runId pipeline.currentStage with
  | none => .save pipeline change
  | some id => .findRun (cancelCommand pipeline.currentStage) id (some (pipeline, change))

def onFind (pipeline : Pipeline I P) : Request I P → Option (Op I P)
  | .startPipeline =>
    if pipeline.status = .running ∨ pipeline.status = .completed ∨ pipeline.status = .cancelled ∨
        pipeline.status = .rejected then none
    else some (.save pipeline .startPipeline)
  | .pausePipeline =>
    if pipeline.status = .running then some (.save pipeline .pausePipeline) else none
  | .resumePipeline =>
    if pipeline.status = .paused then some (.save pipeline .resumePipeline) else none
  | .cancelPipeline byAdmin =>
    if pipeline.status.isTerminal then none
    else some (cancelCurrentStage pipeline (.cancelPipeline byAdmin))
  | .skipStage =>
    if pipeline.status.isActive ∧ pipeline.currentStage ≠ .completed then
      some (cancelCurrentStage pipeline .advanceToNextStage)
    else none
  | .recordOptimizationSkipped => some (.save pipeline .optimizationSkipped)
  | .process _ =>
    match pipeline.status with
    | .pending => some .findRetried
    | .running => some .findToExecute
    | _ => none
  | .optimizationComplete runId bestParameters bestScore improvement =>
    if pipeline.optimizationRunId = some runId ∧ pipeline.currentStage = .optimize ∧
        pipeline.status.isActive then
      some (.save pipeline (.optimizationResult runId bestParameters bestScore improvement))
    else none
  | .optimizationFailed runId reason =>
    if pipeline.optimizationRunId = some runId ∧ pipeline.currentStage = .optimize ∧
        pipeline.status.isActive then
      some (.save pipeline (.failPipeline (.optimizationFailed reason)))
    else none
  | .backtestComplete backtestId type metrics =>
    if pipeline.runId type.stage = some backtestId ∧ pipeline.status.isActive then
      if metrics.totalTrades = 0 then some (.save pipeline (.rejectPipeline (.noTrades type)))
      else
        match type with
        | .historical => some (.save pipeline (.historicalResult metrics))
        | .liveReplay => some (.score pipeline metrics)
    else none
  | .backtestFailed backtestId type reason =>
    if pipeline.runId type.stage = some backtestId ∧ pipeline.currentStage = type.stage ∧
        pipeline.status.isActive then
      some (.save pipeline (.failPipeline (.backtestFailed type reason)))
    else none
  | .paperTradingComplete _ metrics stoppedReason =>
    some (.save pipeline (.paperTradingResult metrics stoppedReason))
  | .paperTradingFailed _ reason =>
    if pipeline.currentStage = .paperTrade ∧ pipeline.status.isActive then
      some (.save pipeline (.failPipeline (.paperTradingFailed reason)))
    else none
  | .detect detector =>
    if pipeline.status = .running ∧ pipeline.currentStage ∈ detector.stages then
      match pipeline.runId pipeline.currentStage with
      | none =>
        if detector.orphaned then some (.failRunning detector pipeline.currentStage) else none
      | some id =>
        if detector.orphaned then none
        else some (.findLinkedRun detector pipeline.currentStage id)
    else none
  | .runChanges _ _ => none

def afterSave (pipeline : Pipeline I P) : Change I P → Option (Op I P)
  | .startPipeline => some (.enqueueStageJob pipeline.currentStage)
  | .pausePipeline => pauseCurrentStage pipeline
  | .resumePipeline => resumeCurrentStage pipeline
  | .advanceToNextStage =>
    if pipeline.currentStage = .completed then some (.save pipeline .completePipeline)
    else if pipeline.status = .running then some (.enqueueStageJob pipeline.currentStage)
    else none
  | .optimizationResult _ _ bestScore improvement =>
    let failures := evaluateOptimizationProgression config improvement bestScore
    if failures ≠ [] then
      some (.save pipeline (.rejectPipeline (.optimizationThresholds failures)))
    else if pipeline.status ≠ .running then none
    else advanceToNextStage pipeline
  | .historicalResult _ =>
    if pipeline.status ≠ .running then none else advanceToNextStage pipeline
  | .liveReplayResult _ score =>
    let minimumScore := config.minimumPipelineScore.getD 30
    if score.overallScore < minimumScore then
      some (.save pipeline (.rejectPipeline (.scoreBelowMinimum score.overallScore minimumScore)))
    else if pipeline.status ≠ .running then none
    else advanceToNextStage pipeline
  | .paperTradingResult metrics stoppedReason =>
    let failures := evaluateStageProgression metrics.stageMetrics config.paperTrading
    if stoppedReason = some .insufficientSignals then
      some (.save pipeline .markInconclusiveAndComplete)
    else if failures ≠ [] then
      some (.save pipeline (.rejectPipeline (.paperTradingThresholds failures)))
    else if pipeline.status ≠ .running then none
    else some (.save pipeline .completePipeline)
  | _ => none

def Task.onError (error : StageError) (task : Task I P) : Option (Op I P) :=
  match task.request, task.op with
  | .startPipeline, .enqueueStageJob _ => some (.markFailed (.enqueueFailed error))
  | .process _, .markFailed _ => none
  | .process _, _ => some (.markFailed (.stageFailed error))
  -- a pipeline is cancelled even if the run of its stage is not
  | .cancelPipeline _, .findRun _ _ (some (pipeline, change))
  | .cancelPipeline _, .saveRun _ _ (some (pipeline, change)) => some (.save pipeline change)
  | _, _ => none

def createdStatus : PipelineStage → RunStatus
  | .paperTrade => .active
  | _ => .pending

/-- The query of a task is answered, and it goes on to the next. -/
def exec (s : Stored I P) (answer : Answer I) (task : Task I P) : Stored I P × Option (Op I P) :=
  match task.op with
  | .find => (s, onFind s.pipeline task.request)
  | .findRetried =>
    if s.pipeline.status = .running then (s, some .findToExecute)
    else (s, task.onError (.stillPending s.pipeline.status))
  | .findToExecute =>
    match task.request with
    | .process stage =>
      if s.pipeline.status ≠ .running then (s, none)
      else if stage = .completed then (s, task.onError (.unknownStage stage))
      else (s, some (.createRun s.pipeline stage))
    | _ => (s, none)
  | .save pipeline change =>
    let saved := change.apply config pipeline
    ({ s with pipeline := saved, events := s.events ++ change.events pipeline saved },
      afterSave config saved change)
  | .score pipeline metrics =>
    (s, some (.save pipeline (.liveReplayResult metrics answer.score)))
  | .enqueueStageJob _ => (s, none)
  | .markFailed reason =>
    ({ s with
        pipeline := { s.pipeline with status := .failed, failureReason := some reason } }, none)
  | .createRun pipeline stage =>
    ({ s with runs := s.runs.set answer.newId (createdStatus stage) },
      some (.save pipeline (.attachRun stage answer.newId)))
  | .getBacktest pipeline id =>
    match s.runs.get? id with
    | none => (s, none)
    | some status =>
      if status.ended then (s, advanceToNextStage pipeline)
      else (s, some (.findRun .resumeBacktest id none))
  | .findRun command id after =>
    if (s.runs.get? id).any command.accepts then (s, some (.saveRun command id after))
    else (s, task.onError (.error "Invalid status"))
  | .saveRun command id after =>
    ({ s with runs := command.saves.elim s.runs (s.runs.set id ·) },
      after.map fun next => .save next.1 next.2)
  | .findLinkedRun detector stage id =>
    if (s.runs.get? id).all fun status => status = .failed ∨ status = .stopped then
      (s, some (.failRunning detector stage))
    else (s, none)
  | .failRunning detector stage =>
    if s.pipeline.status = .running ∧
        (detector.checksStage → s.pipeline.currentStage = stage) then
      ({ s with
          pipeline := { s.pipeline with
            status := .failed
            failureReason := some (.watchdog stage detector.orphaned) } }, none)
    else (s, none)

def pipelineProgram : Program (Stored I P) (Task I P) (Request I P) (Answer I) where
  call s request :=
    match request with
    | .runChanges id status =>
      (if (s.runs.get? id).any (! ·.ended) then { s with runs := s.runs.set id status } else s, none)
    | request => (s, some ⟨request, .find⟩)
  advance s task answer :=
    let (s', op) :=
      match answer.outcome with
      | .ok => exec config s answer task
      | .throws message => (s, task.onError (.error message))
      | .crash => (s, none)
    (s', op.map (⟨task.request, ·⟩))

end Exec

end Chansey.Pipelines
