import Chansey.Pipeline.StageMachine

/-!
# Stages that complete while their pipeline is paused

The handler of a completion records the results of the stage whatever the status is, and leaves a
paused pipeline where it is. The resume looks at what is stored, once for each stage: at the results
of optimization, at the backtest whatever it ended with, and at paper trading not at all.

* `recorded`: whether the results of a stage are stored. `Request.result`: what a completion records.
* `InProgress`: a running pipeline at a stage whose run goes on. `OfStage`: its pauses, its resumes
  and what its stage reports. `DeferredOnce`: a completion is not left behind, counts once, and only
  a completed run is passed.
-/

namespace Chansey.Pipelines

open Tasks

variable {I P : Type}

/-! ## Results of a stage -/

def recorded (stageResults : Option PipelineStageResults) : PipelineStage → Bool
  | .optimize => (stageResults.bind (·.optimization)).any (·.status = .completed)
  | .historical => (stageResults.bind (·.historical)).isSome
  | .liveReplay => (stageResults.bind (·.liveReplay)).isSome
  | .paperTrade => (stageResults.bind (·.paperTrading)).isSome
  | .completed => false

def Request.runId : Request I P → Option I
  | .optimizationComplete runId _ _ _ | .optimizationFailed runId _ => some runId
  | .backtestComplete backtestId _ _ | .backtestFailed backtestId _ _ => some backtestId
  | .paperTradingComplete sessionId _ _ | .paperTradingFailed sessionId _ => some sessionId
  | _ => none

/-- What a completion records. A live replay is scored. -/
def Request.result (score : PipelineScoreResult) : Request I P → Option (Change I P)
  | .optimizationComplete runId bestParameters bestScore improvement =>
    some (.optimizationResult runId bestParameters bestScore improvement)
  | .backtestComplete _ .historical metrics => some (.historicalResult metrics)
  | .backtestComplete _ .liveReplay metrics => some (.liveReplayResult metrics score)
  | .paperTradingComplete _ metrics stoppedReason =>
    some (.paperTradingResult metrics stoppedReason)
  | _ => none

/-- The results are those of `first` with what the completion records. -/
def HasResult (config : PipelineConfig) (first : Pipeline I P) (completion : Request I P)
    (pipeline : Pipeline I P) : Prop :=
  ∃ score change, completion.result score = some change ∧
    pipeline.stageResults = (change.apply config first).stageResults ∧
    pipeline.optimizedParameters = (change.apply config first).optimizedParameters

/-- The results are those of `first`. -/
def HasNone (first pipeline : Pipeline I P) : Prop :=
  pipeline.stageResults = first.stageResults ∧
    pipeline.optimizedParameters = first.optimizedParameters

def PipelineEvent.leaves (stage : PipelineStage) : PipelineEvent → Bool
  | .stageTransition previousStage _ => previousStage = stage
  | .completed _ => stage = .paperTrade
  | _ => false

def Request.isCompletion (request : Request I P) : Bool := request.completes.isSome

def Request.isResume : Request I P → Bool
  | .resumePipeline => true
  | _ => false

def Request.isFailure : Request I P → Bool
  | .optimizationFailed .. | .backtestFailed .. | .paperTradingFailed .. => true
  | _ => false

section Statement

variable [DecidableEq I] (config : PipelineConfig) (first : Stored I P) (id : I)
  (completion : Request I P)

/-- A pipeline is running at a stage. The run of the stage goes on, and its completion, when it
comes, will be reported by `completion`. -/
structure InProgress : Prop where
  status : first.pipeline.status = .running
  runId : first.pipeline.runId first.pipeline.currentStage = some id
  run : ∃ status, first.runs.get? id = some status ∧ status.ended = false
  completes : completion.completes = some first.pipeline.currentStage
  reports : completion.runId = some id
  unrecorded : ∀ stage, first.pipeline.currentStage.index ≤ stage.index →
    recorded first.pipeline.stageResults stage = false
  left : first.events.countP (·.leaves first.pipeline.currentStage) = 0

def OfStage (pool : Pool (Stored I P) (Task I P)) : Move (Request I P) (Answer I) → Prop
  | .call .pausePipeline | .call .resumePipeline | .call (.runChanges _ _) => True
  | .call request =>
    request.isFailure = true ∧ request.runId = some id ∧
        pool.shared.runs.get? id = some .failed ∨
      request = completion ∧ pool.shared.runs.get? id = some .completed
  | .advance _ _ => True

instance [DecidableEq P] (pool : Pool (Stored I P) (Task I P)) :
    (move : Move (Request I P) (Answer I)) → Decidable (OfStage id completion pool move)
  | .advance _ _ => isTrue trivial
  | .call request => by
    cases request <;> unfold OfStage <;> infer_instance

/-- A state in which the completion of the stage, if there is one, has been treated once. -/
structure DeferredOnce (pool : Pool (Stored I P) (Task I P)) : Prop where
  /-- When no resume and no completion is under way, no completion is left behind. -/
  advanced : (∀ task ∈ pool.inFlight,
      task.request.isResume = false ∧ task.request.isCompletion = false) →
    pool.shared.pipeline.status = .running →
      pool.shared.pipeline.currentStage = first.pipeline.currentStage →
        recorded pool.shared.pipeline.stageResults first.pipeline.currentStage = false
  once : pool.shared.events.countP (·.leaves first.pipeline.currentStage) ≤ 1
  passed : pool.shared.pipeline.currentStage ≠ first.pipeline.currentStage →
    pool.shared.runs.get? id = some .completed ∧
      HasResult config first.pipeline completion pool.shared.pipeline

def Op.Undisturbed (s : Stored I P) (request : Request I P) : Op I P → Prop
  | .find => (∀ stage ∈ request.completes, (onFind s.pipeline request).isSome = true →
      s.pipeline.currentStage = stage) ∧
    (request.isResume = true → s.pipeline.status = .paused →
      s.pipeline.currentStage = .paperTrade → recorded s.pipeline.stageResults .paperTrade = false)
  | .save copy _ => s.pipeline = copy
  | .getBacktest copy backtestId => ∀ status ∈ s.runs.get? backtestId, status.ended = true →
    recorded copy.stageResults copy.currentStage = true
  | .saveRun command runId _ => ∀ status ∈ s.runs.get? runId, command.accepts status = true
  | _ => True

/-- No query of a resume or a completion fails, and each query finds what its task relies on. -/
def Undisturbed (pool : Pool (Stored I P) (Task I P)) : Move (Request I P) (Answer I) → Prop
  | .call _ => True
  | .advance position answer => ∀ task ∈ pool.inFlight[position]?,
    ((task.request.isResume = true ∨ task.request.isCompletion = true) → answer.outcome = .ok) ∧
      (answer.outcome = .ok → task.op.Undisturbed pool.shared task.request)

instance [DecidableEq P] (s : Stored I P) (request : Request I P) : (op : Op I P) →
    Decidable (op.Undisturbed s request)
  | .find | .save _ _ | .getBacktest _ _ | .saveRun _ _ _ => by
    unfold Op.Undisturbed
    infer_instance
  | .findRetried | .findToExecute | .score _ _ | .enqueueStageJob _ | .markFailed _
  | .createRun _ _ | .findRun _ _ _ | .findLinkedRun _ _ _ | .failRunning _ _ => isTrue trivial

instance [DecidableEq P] (pool : Pool (Stored I P) (Task I P)) :
    (move : Move (Request I P) (Answer I)) → Decidable (Undisturbed pool move)
  | .call _ => isTrue trivial
  | .advance _ _ => by
    unfold Undisturbed
    infer_instance

end Statement

/-! ## What a completion records -/

section Results

variable {config : PipelineConfig} {completion : Request I P} {stage : PipelineStage}
  {score : PipelineScoreResult} {change : Change I P}

theorem Change.apply_results_congr {copy copy' : Pipeline I P}
    (h : copy.stageResults = copy'.stageResults)
    (h' : copy.optimizedParameters = copy'.optimizedParameters) (change : Change I P) :
    (change.apply config copy).stageResults = (change.apply config copy').stageResults ∧
      (change.apply config copy).optimizedParameters =
        (change.apply config copy').optimizedParameters := by
  cases change with
  | attachRun stage => cases stage <;> exact ⟨h, h'⟩
  | _ => simp only [Change.apply, h, h', and_self]

theorem recorded_apply_result (copy : Pipeline I P) (hstage : completion.completes = some stage)
    (hres : completion.result score = some change) :
    recorded (change.apply config copy).stageResults stage = true := by
  cases completion with
  | backtestComplete id type => cases type <;> cases hstage <;> cases hres <;> rfl
  | optimizationComplete | paperTradingComplete => cases hstage; cases hres; rfl
  | _ => cases hstage

theorem recorded_apply_result_of_ne (copy : Pipeline I P) {other : PipelineStage}
    (hstage : completion.completes = some stage) (hres : completion.result score = some change)
    (hne : other ≠ stage) :
    recorded (change.apply config copy).stageResults other = recorded copy.stageResults other := by
  cases completion with
  | backtestComplete id type =>
    cases type <;> cases hstage <;> cases hres <;> cases other <;>
      first
        | exact absurd rfl hne
        | cases hcopy : copy.stageResults <;> simp [Change.apply, recorded, hcopy]
  | optimizationComplete | paperTradingComplete =>
    cases hstage
    cases hres
    cases other <;>
      first
        | exact absurd rfl hne
        | cases hcopy : copy.stageResults <;> simp [Change.apply, recorded, hcopy]
  | _ => cases hstage

theorem apply_result_twice (first copy : Pipeline I P) {score' : PipelineScoreResult}
    {change' : Change I P} (hres : completion.result score = some change)
    (hres' : completion.result score' = some change')
    (h : copy.stageResults = (change.apply config first).stageResults)
    (h' : copy.optimizedParameters = (change.apply config first).optimizedParameters) :
    (change'.apply config copy).stageResults = (change'.apply config first).stageResults ∧
      (change'.apply config copy).optimizedParameters =
        (change'.apply config first).optimizedParameters := by
  cases completion with
  | backtestComplete id type =>
    cases type <;> cases hres <;> cases hres' <;>
      simp only [Change.apply, h, h', Option.getD_some, liveReplayStageResult, and_true]
    cases first.stageResults <;> rfl
  | optimizationComplete | paperTradingComplete =>
    cases hres
    cases hres'
    simp only [Change.apply, h, h', Option.getD_some, paperTradingStageResult, and_true]
    try cases first.stageResults <;> rfl
  | _ => cases hres

end Results

/-! ## What is kept -/

section Kept

variable [DecidableEq I] (config : PipelineConfig) (first : Stored I P) (id : I)
  (completion : Request I P)

/-- The pipeline is at the stage, or at the next with the results of a completed run. -/
structure RowInv (s : Stored I P) : Prop where
  stage : s.pipeline.currentStage = first.pipeline.currentStage ∨
    first.pipeline.currentStage.next = some s.pipeline.currentStage
  results : HasNone first.pipeline s.pipeline ∨
    HasResult config first.pipeline completion s.pipeline ∧ s.runs.get? id = some .completed
  left : s.pipeline.currentStage ≠ first.pipeline.currentStage →
    HasResult config first.pipeline completion s.pipeline
  count : s.events.countP (·.leaves first.pipeline.currentStage) =
    if s.pipeline.currentStage = first.pipeline.currentStage then 0 else 1
  runId : s.pipeline.runId first.pipeline.currentStage = some id

/-- What a save relies on. -/
def Change.Held (s : Stored I P) (request : Request I P) (copy : Pipeline I P)
    (change : Change I P) : Prop :=
  match change with
  | .pausePipeline | .failPipeline _ | .rejectPipeline _ => True
  | .resumePipeline => request.isResume = true ∧
    (copy.currentStage = .paperTrade → recorded copy.stageResults .paperTrade = false)
  | .advanceToNextStage =>
    copy.currentStage ≠ .paperTrade ∧ recorded copy.stageResults copy.currentStage = true
  | .completePipeline | .markInconclusiveAndComplete =>
    copy.currentStage = .paperTrade ∧ recorded copy.stageResults .paperTrade = true
  | .optimizationResult .. | .historicalResult _ | .liveReplayResult .. | .paperTradingResult .. =>
    request.isCompletion = true ∧ copy.currentStage = first.pipeline.currentStage ∧
      (∃ score, completion.result score = some change) ∧ s.runs.get? id = some .completed
  | _ => False

def Op.Held (s : Stored I P) (request : Request I P) : Op I P → Prop
  | .find | .enqueueStageJob _ => True
  | .save copy change => change.Held first id completion s request copy
  | .score copy metrics => request.isCompletion = true ∧
    copy.currentStage = first.pipeline.currentStage ∧
      (∃ backtestId, completion = .backtestComplete backtestId .liveReplay metrics) ∧
        s.runs.get? id = some .completed
  | .getBacktest copy backtestId =>
    (copy.currentStage = .historical ∨ copy.currentStage = .liveReplay) ∧
      (copy.currentStage = first.pipeline.currentStage → backtestId = id ∧
        (recorded copy.stageResults copy.currentStage = true → s.runs.get? id = some .completed))
  | .findRun _ _ after | .saveRun _ _ after => after = none
  | _ => False

/-- A task of a pause, a resume, a failure, or the completion of a completed run. -/
structure Held (s : Stored I P) (task : Task I P) : Prop where
  request : task.request = .pausePipeline ∨ task.request.isResume = true ∨
    task.request.isFailure = true ∨
    task.request = completion ∧ s.runs.get? id = some .completed
  op : task.op.Held first id completion s task.request

def Change.settles : Change I P → Bool
  | .advanceToNextStage | .completePipeline | .markInconclusiveAndComplete
  | .rejectPipeline _ => true
  | _ => false

def Settles (task : Task I P) : Prop :=
  (task.request.isResume = true ∨ task.request.isCompletion = true) ∧
    match task.op with
    | .save _ change => change.settles = true
    | .getBacktest copy _ => copy.currentStage = first.pipeline.currentStage ∧
      recorded copy.stageResults copy.currentStage = true
    | _ => False

/-- The completion of the stage is recorded, and the pipeline is running there. -/
def Unsettled (s : Stored I P) : Prop :=
  s.pipeline.status = .running ∧ s.pipeline.currentStage = first.pipeline.currentStage ∧
    recorded s.pipeline.stageResults first.pipeline.currentStage = true

structure Inv (pool : Pool (Stored I P) (Task I P)) : Prop where
  row : RowInv config first id completion pool.shared
  held : ∀ task ∈ pool.inFlight, Held first id completion pool.shared task
  settles : Unsettled first pool.shared → ∃ task ∈ pool.inFlight, Settles first task

structure StepInv (s : Stored I P) (task : Task I P) (result : Stored I P × Option (Op I P)) :
    Prop where
  row : RowInv config first id completion result.1
  completed : s.runs.get? id = some .completed → result.1.runs.get? id = some .completed
  next : ∀ op ∈ result.2, op.Held first id completion result.1 task.request
  settles : Unsettled first result.1 → (∃ op ∈ result.2, Settles first ⟨task.request, op⟩) ∨
    Unsettled first s ∧ ¬ Settles first task

variable {config first id completion}

variable {s : Stored I P}

section

variable (h : InProgress first id completion) (hrow : RowInv config first id completion s)

include h hrow

theorem RowInv.recorded_iff
    (hrec : recorded s.pipeline.stageResults first.pipeline.currentStage = true) :
    HasResult config first.pipeline completion s.pipeline ∧ s.runs.get? id = some .completed := by
  refine hrow.results.resolve_left fun hnone => ?_
  rw [hnone.1, h.unrecorded _ le_rfl] at hrec
  cases hrec

theorem RowInv.recorded_later {stage : PipelineStage}
    (hlater : first.pipeline.currentStage.index < stage.index) :
    recorded s.pipeline.stageResults stage = false := by
  have hnone := h.unrecorded stage hlater.le
  obtain ⟨hress, -⟩ | ⟨⟨_, _, hres, hress, -⟩, -⟩ := hrow.results
  · rw [hress, hnone]
  · rw [hress, recorded_apply_result_of_ne _ h.completes hres, hnone]
    rintro rfl
    exact lt_irrefl _ hlater

theorem RowInv.at_first (hrec : recorded s.pipeline.stageResults s.pipeline.currentStage = true) :
    s.pipeline.currentStage = first.pipeline.currentStage := by
  refine hrow.stage.resolve_right fun hnext => ?_
  rw [hrow.recorded_later h (PipelineStage.index_lt_of_next hnext)] at hrec
  cases hrec

end

theorem Op.Held.mono {s s' : Stored I P} {request : Request I P} {op : Op I P}
    (hcomp : s.runs.get? id = some .completed → s'.runs.get? id = some .completed)
    (h : op.Held first id completion s request) : op.Held first id completion s' request := by
  cases op with
  | save copy change =>
    cases change with
    | optimizationResult | historicalResult | liveReplayResult | paperTradingResult =>
      exact ⟨h.1, h.2.1, h.2.2.1, hcomp h.2.2.2⟩
    | _ => exact h
  | score => exact ⟨h.1, h.2.1, h.2.2.1, hcomp h.2.2.2⟩
  | getBacktest =>
    exact ⟨h.1, fun hat => ⟨(h.2 hat).1, fun hrec => hcomp ((h.2 hat).2 hrec)⟩⟩
  | _ => exact h

theorem Held.mono {s s' : Stored I P} {task : Task I P}
    (hcomp : s.runs.get? id = some .completed → s'.runs.get? id = some .completed)
    (h : Held first id completion s task) : Held first id completion s' task := by
  refine ⟨?_, h.op.mono hcomp⟩
  exact h.request.imp_right fun h => h.imp_right fun h => h.imp_right fun ⟨h, hrun⟩ =>
    ⟨h, hcomp hrun⟩

end Kept

/-! ## Steps -/

section Steps

variable [DecidableEq I] {config : PipelineConfig} {first : Stored I P} {id : I}
  {completion : Request I P}

variable {s : Stored I P} {task : Task I P} {next : Option (Op I P)} {request : Request I P}
  {score : PipelineScoreResult} {change : Change I P} {saved : Pipeline I P}
  {pool : Pool (Stored I P) (Task I P)}

theorem StepInv.of_same (hrow : RowInv config first id completion s)
    (hnext : ∀ op ∈ next, op.Held first id completion s task.request) (hsets : ¬ Settles first task)
    : StepInv config first id completion s task (s, next) :=
  ⟨hrow, fun hrun => hrun, hnext, fun huns => .inr ⟨huns, hsets⟩⟩

theorem StepInv.of_settled {s s' : Stored I P} (hruns : s'.runs = s.runs)
    (hrow : RowInv config first id completion s')
    (hnext : ∀ op ∈ next, op.Held first id completion s' task.request) (hset : ¬ Unsettled first s')
    : StepInv config first id completion s task (s', next) :=
  ⟨hrow, fun hrun => hruns ▸ hrun, hnext, fun huns => absurd huns hset⟩

theorem RowInv.of_status {s s' : Stored I P} (hrow : RowInv config first id completion s)
    (hruns : s'.runs = s.runs) (hstage : s'.pipeline.currentStage = s.pipeline.currentStage)
    (hress : s'.pipeline.stageResults = s.pipeline.stageResults)
    (hpars : s'.pipeline.optimizedParameters = s.pipeline.optimizedParameters)
    (hrunId : s'.pipeline.runId = s.pipeline.runId)
    (hcount : s'.events.countP (·.leaves first.pipeline.currentStage) =
      s.events.countP (·.leaves first.pipeline.currentStage)) :
    RowInv config first id completion s' where
  stage := by rw [hstage]; exact hrow.stage
  results := by
    unfold HasNone HasResult
    rw [hress, hpars, hruns]
    exact hrow.results
  left hne := by
    unfold HasResult
    rw [hress, hpars]
    exact hrow.left (hstage ▸ hne)
  count := by rw [hcount, hstage]; exact hrow.count
  runId := by rw [hrunId]; exact hrow.runId

theorem onFind_held (h : InProgress first id completion)
    (hrow : RowInv config first id completion s)
    (hheld : Held first id completion s ⟨request, .find⟩)
    (hfind : Op.Undisturbed s request (.find : Op I P)) :
    ∀ op ∈ onFind s.pipeline request, op.Held first id completion s request := by
  intro op hop
  have hat : ∀ stage ∈ request.completes, s.pipeline.currentStage = stage := fun stage hstage =>
    hfind.1 stage hstage (by rw [Option.mem_def.1 hop]; rfl)
  obtain hpause | hresm | hfailure | ⟨hcompl, hrun⟩ := hheld.request
  · cases hpause
    simp only [onFind] at hop
    split at hop <;> cases hop
    trivial
  · cases request with
    | resumePipeline =>
      simp only [onFind] at hop
      split at hop <;> cases hop
      rename_i hpsd
      exact ⟨rfl, fun hpaper => hfind.2 rfl hpsd hpaper⟩
    | _ => cases hresm
  · cases request with
    | optimizationFailed | backtestFailed | paperTradingFailed =>
      simp only [onFind] at hop
      split at hop <;> cases hop
      trivial
    | _ => cases hfailure
  · obtain rfl : completion = request := hcompl.symm
    have hstage := hat _ h.completes
    have hcomps : completion.isCompletion = true := by
      rw [Request.isCompletion, h.completes]
      rfl
    cases completion with
    | optimizationComplete =>
      simp only [onFind] at hop
      split at hop <;> cases hop
      exact ⟨hcomps, hstage, ⟨⟨0, 0⟩, rfl⟩, hrun⟩
    | backtestComplete backtestId type =>
      simp only [onFind] at hop
      split at hop
      · split at hop
        · cases hop
          trivial
        · cases type <;> cases hop
          · exact ⟨hcomps, hstage, ⟨⟨0, 0⟩, rfl⟩, hrun⟩
          · exact ⟨hcomps, hstage, ⟨backtestId, rfl⟩, hrun⟩
      · cases hop
    | paperTradingComplete =>
      cases hop
      exact ⟨hcomps, hstage, ⟨⟨0, 0⟩, rfl⟩, hrun⟩
    | _ => cases h.completes

theorem RowInv.of_result {s s' : Stored I P} (hrow : RowInv config first id completion s)
    (hres : completion.result score = some change) (hruns : s'.runs = s.runs)
    (hrun : s.runs.get? id = some .completed)
    (hstage : s'.pipeline.currentStage = s.pipeline.currentStage)
    (hress : s'.pipeline.stageResults = (change.apply config s.pipeline).stageResults)
    (hpars : s'.pipeline.optimizedParameters = (change.apply config s.pipeline).optimizedParameters)
    (hrunId : s'.pipeline.runId first.pipeline.currentStage = some id) (hevs : s'.events = s.events)
    : RowInv config first id completion s' := by
  have hhas : HasResult config first.pipeline completion s'.pipeline := by
    refine ⟨score, change, hres, ?_⟩
    rw [hress, hpars]
    obtain ⟨hress, hpars⟩ | ⟨⟨_, _, hres', hress, hpars⟩, -⟩ := hrow.results
    · exact change.apply_results_congr hress hpars
    · exact apply_result_twice first.pipeline s.pipeline hres' hres hress hpars
  exact
    { stage := by rw [hstage]; exact hrow.stage
      results := .inr ⟨hhas, hruns ▸ hrun⟩
      left := fun _ => hhas
      count := by rw [hevs, hstage]; exact hrow.count
      runId := hrunId }

theorem RowInv.of_left (s' : Stored I P) (h : InProgress first id completion)
    (hrow : RowInv config first id completion s) (hruns : s'.runs = s.runs)
    (hrec : recorded s.pipeline.stageResults s.pipeline.currentStage = true)
    (hnext : s.pipeline.currentStage.next = some s'.pipeline.currentStage)
    (hress : s'.pipeline.stageResults = s.pipeline.stageResults)
    (hpars : s'.pipeline.optimizedParameters = s.pipeline.optimizedParameters)
    (hrunId : s'.pipeline.runId = s.pipeline.runId)
    (hcount : s'.events.countP (·.leaves s.pipeline.currentStage) =
      s.events.countP (·.leaves s.pipeline.currentStage) + 1) :
    RowInv config first id completion s' ∧
      s'.pipeline.currentStage ≠ first.pipeline.currentStage := by
  have hat := hrow.at_first h hrec
  have hne : s'.pipeline.currentStage ≠ first.pipeline.currentStage := by
    intro heq
    rw [hat, ← heq] at hnext
    exact lt_irrefl _ (PipelineStage.index_lt_of_next hnext)
  obtain ⟨hhas, hrun⟩ := hrow.recorded_iff h (hat ▸ hrec)
  have hhas' : HasResult config first.pipeline completion s'.pipeline := by
    unfold HasResult
    rw [hress, hpars]
    exact hhas
  refine ⟨⟨.inr (hat ▸ hnext), .inr ⟨hhas', hruns ▸ hrun⟩, fun _ => hhas', ?_, ?_⟩, hne⟩
  · have hzero := hrow.count
    rw [if_pos hat] at hzero
    rw [hat, hzero] at hcount
    rw [if_neg hne, hcount]
  · rw [hrunId]
    exact hrow.runId

theorem advanceToNextStage_held {copy : Pipeline I P} (hpaper : copy.currentStage ≠ .paperTrade)
    (hrec : recorded copy.stageResults copy.currentStage = true) :
    ∀ op ∈ advanceToNextStage copy, op.Held first id completion s request := by
  intro op hop
  unfold advanceToNextStage at hop
  split at hop <;> cases hop
  exact ⟨hpaper, hrec⟩

omit [DecidableEq I] in
theorem exists_advance {copy : Pipeline I P}
    (hrec : recorded copy.stageResults copy.currentStage = true) :
    advanceToNextStage copy = some (.save copy .advanceToNextStage) := by
  refine if_neg fun hlast => ?_
  rw [hlast] at hrec
  cases hrec

theorem resumeCurrentStage_held (h : InProgress first id completion)
    (hrow : RowInv config first id completion s) :
    ∀ op ∈ resumeCurrentStage s.pipeline, op.Held first id completion s request := by
  intro op hop
  unfold resumeCurrentStage at hop
  split at hop
  · cases hop
    trivial
  · rename_i runId hrunId
    -- the run of the stage the pipeline was at first
    have hfirst : s.pipeline.currentStage = first.pipeline.currentStage → runId = id ∧
        (recorded s.pipeline.stageResults s.pipeline.currentStage = true →
          s.runs.get? id = some .completed) := by
      intro hat
      refine ⟨?_, fun hrec => (hrow.recorded_iff h (hat ▸ hrec)).2⟩
      have hrun := hrow.runId
      rw [← hat, hrunId] at hrun
      exact Option.some.inj hrun
    split at hop
    · rename_i hstage
      split at hop
      · rename_i hcomp
        refine advanceToNextStage_held (by rw [hstage]; decide) ?_ op hop
        rw [hstage]
        exact hcomp
      · cases hop
    · rename_i hstage
      cases hop
      exact ⟨.inl hstage, hfirst⟩
    · rename_i hstage
      cases hop
      exact ⟨.inr hstage, hfirst⟩
    · cases hop
      rfl
    · cases hop
      trivial

omit [DecidableEq I] in
theorem resumeCurrentStage_settles {pipeline : Pipeline I P} (hresm : request.isResume = true)
    {runId : I} (hrunId : pipeline.runId pipeline.currentStage = some runId)
    (hat : pipeline.currentStage = first.pipeline.currentStage)
    (hrec : recorded pipeline.stageResults pipeline.currentStage = true)
    (hpaper : pipeline.currentStage ≠ .paperTrade) :
    ∃ op ∈ resumeCurrentStage pipeline, Settles first ⟨request, op⟩ := by
  cases hstage : pipeline.currentStage with
  | optimize =>
    have hcomp : (pipeline.stageResults.bind (·.optimization)).any (·.status = .completed) =
        true := by
      rw [hstage] at hrec
      exact hrec
    refine ⟨.save pipeline .advanceToNextStage, ?_, .inl hresm, rfl⟩
    rw [hstage] at hrunId
    simp only [resumeCurrentStage, hstage, hrunId, hcomp, if_true, exists_advance hrec,
      Option.mem_def]
  | historical | liveReplay =>
    refine ⟨.getBacktest pipeline runId, ?_, .inl hresm, hat, hrec⟩
    rw [hstage] at hrunId
    simp only [resumeCurrentStage, hstage, hrunId, Option.mem_def]
  | paperTrade => exact absurd hstage hpaper
  | completed =>
    rw [hstage] at hrec
    cases hrec

theorem pauseCurrentStage_held (pipeline : Pipeline I P) :
    ∀ op ∈ pauseCurrentStage pipeline, op.Held first id completion s request := by
  intro op hop
  unfold pauseCurrentStage at hop
  split at hop
  · obtain ⟨_, -, rfl⟩ := Option.map_eq_some_iff.1 hop
    rfl
  · obtain ⟨_, -, rfl⟩ := Option.map_eq_some_iff.1 hop
    rfl
  · cases hop

theorem settles_save {p : Prop} (hreq : request.isCompletion = true)
    (hheld : change.Held first id completion s request saved) (hsets : change.settles = true) :
    (∀ op ∈ some (Op.save saved change), op.Held first id completion s request) ∧
      (p → ∃ op ∈ some (Op.save saved change), Settles first ⟨request, op⟩) := by
  refine ⟨fun op hop => ?_, fun _ => ⟨_, rfl, .inr hreq, hsets⟩⟩
  cases hop
  exact hheld

theorem settles_none {p : Prop} (hp : ¬ p) :
    (∀ op ∈ (none : Option (Op I P)), op.Held first id completion s request) ∧
      (p → ∃ op ∈ (none : Option (Op I P)), Settles first ⟨request, op⟩) :=
  ⟨(fun _ hop => nomatch hop), fun h => absurd h hp⟩

theorem afterSave_result (config : PipelineConfig) (s : Stored I P)
    (h : InProgress first id completion) (hreq : request.isCompletion = true)
    (hres : completion.result score = some change)
    (hat : saved.currentStage = first.pipeline.currentStage)
    (hrec : recorded saved.stageResults saved.currentStage = true) :
    (∀ op ∈ afterSave config saved change, op.Held first id completion s request) ∧
      (saved.status = .running →
        ∃ op ∈ afterSave config saved change, Settles first ⟨request, op⟩) := by
  have hadv := exists_advance hrec
  cases completion with
  | optimizationComplete =>
    cases hres
    have hpaper : saved.currentStage ≠ .paperTrade := by
      rw [hat, ← Option.some.inj h.completes]
      decide
    simp only [afterSave, hadv]
    split
    · exact settles_save hreq trivial rfl
    · split
      · exact settles_none (by assumption)
      · exact settles_save hreq ⟨hpaper, hrec⟩ rfl
  | backtestComplete backtestId type =>
    have hpaper : saved.currentStage ≠ .paperTrade := by
      rw [hat, ← Option.some.inj h.completes]
      cases type <;> decide
    cases type with
    | historical =>
      cases hres
      simp only [afterSave, hadv]
      split
      · exact settles_none (by assumption)
      · exact settles_save hreq ⟨hpaper, hrec⟩ rfl
    | liveReplay =>
      cases hres
      simp only [afterSave, hadv]
      split
      · exact settles_save hreq trivial rfl
      · split
        · exact settles_none (by assumption)
        · exact settles_save hreq ⟨hpaper, hrec⟩ rfl
  | paperTradingComplete =>
    cases hres
    have hpaper : saved.currentStage = .paperTrade := by
      rw [hat, ← Option.some.inj h.completes]
    rw [hpaper] at hrec
    simp only [afterSave]
    split
    · exact settles_save hreq ⟨hpaper, hrec⟩ rfl
    · split
      · exact settles_save hreq trivial rfl
      · split
        · exact settles_none (by assumption)
        · exact settles_save hreq ⟨hpaper, hrec⟩ rfl
  | _ => cases hres

theorem save_result (h : InProgress first id completion)
    (hrow : RowInv config first id completion s) (hreq : request.isCompletion = true)
    (hat : s.pipeline.currentStage = first.pipeline.currentStage)
    (hres : completion.result score = some change) (hrun : s.runs.get? id = some .completed)
    (answer : Answer I) : StepInv config first id completion s ⟨request, .save s.pipeline change⟩
      (exec config s answer ⟨request, .save s.pipeline change⟩) := by
  have hstage : (change.apply config s.pipeline).currentStage = s.pipeline.currentStage := by
    cases completion with
    | backtestComplete backtestId type => cases type <;> cases hres <;> rfl
    | optimizationComplete | paperTradingComplete => cases hres; rfl
    | _ => cases hres
  have hrunId : (change.apply config s.pipeline).runId first.pipeline.currentStage = some id := by
    cases completion with
    | backtestComplete backtestId type =>
      cases type <;> cases hres <;> exact hrow.runId
    | optimizationComplete =>
      cases hres
      rw [← Option.some.inj h.completes]
      exact h.reports
    | paperTradingComplete =>
      cases hres
      exact hrow.runId
    | _ => cases hres
  have hevs : change.events s.pipeline (change.apply config s.pipeline) = [] := by
    cases completion with
    | backtestComplete backtestId type => cases type <;> cases hres <;> rfl
    | optimizationComplete | paperTradingComplete => cases hres; rfl
    | _ => cases hres
  have hrec : recorded (change.apply config s.pipeline).stageResults
      first.pipeline.currentStage = true := recorded_apply_result s.pipeline h.completes hres
  rw [← hat, ← hstage] at hrec
  obtain ⟨hheld, hsets⟩ := afterSave_result config
    (exec config s answer ⟨request, .save s.pipeline change⟩).1 h hreq hres
    (hstage.trans hat) hrec
  refine ⟨?_, fun hrun => hrun, hheld, fun huns => .inl (hsets huns.1)⟩
  exact hrow.of_result hres rfl hrun hstage rfl rfl hrunId (by simp [exec, hevs])

theorem StepInv.of_ended (answer : Answer I)
    (hstat : (change.apply config s.pipeline).status ≠ .running)
    (hnext : ∀ op ∈ afterSave config (change.apply config s.pipeline) change,
      op.Held first id completion (exec config s answer ⟨request, .save s.pipeline change⟩).1 request)
    (hsame : RowInv config first id completion
      (exec config s answer ⟨request, .save s.pipeline change⟩).1) :
    StepInv config first id completion s ⟨request, .save s.pipeline change⟩
      (exec config s answer ⟨request, .save s.pipeline change⟩) :=
  ⟨hsame, fun hrun => hrun, hnext, fun huns => absurd huns.1 hstat⟩

theorem save_stepInv (h : InProgress first id completion)
    (hrow : RowInv config first id completion s)
    (hheld : change.Held first id completion s request s.pipeline) (answer : Answer I) :
    StepInv config first id completion s ⟨request, .save s.pipeline change⟩
      (exec config s answer ⟨request, .save s.pipeline change⟩) := by
  cases change with
  | pausePipeline =>
    exact .of_ended answer (by simp [Change.apply]) (pauseCurrentStage_held _)
      (hrow.of_status rfl rfl rfl rfl rfl (by simp [exec, Change.events]))
  | failPipeline | rejectPipeline =>
    exact .of_ended answer (by simp [Change.apply]) (fun op hop => by cases hop)
      (hrow.of_status rfl rfl rfl rfl rfl (by simp [exec, Change.events, PipelineEvent.leaves]))
  | resumePipeline =>
    have hsame : RowInv config first id completion
        (exec config s answer ⟨request, .save s.pipeline .resumePipeline⟩).1 :=
      hrow.of_status rfl rfl rfl rfl rfl (by simp [exec, Change.events])
    refine ⟨hsame, fun hrun => hrun, resumeCurrentStage_held h hsame, fun huns => .inl ?_⟩
    obtain ⟨-, hat, hrec⟩ := huns
    have hrunId := hsame.runId
    rw [← hat] at hrunId hrec
    refine resumeCurrentStage_settles hheld.1 hrunId hat hrec fun hpaper => ?_
    have hnone := hheld.2 hpaper
    have hpresent : recorded s.pipeline.stageResults s.pipeline.currentStage = true := hrec
    rw [show s.pipeline.currentStage = .paperTrade from hpaper, hnone] at hpresent
    cases hpresent
  | advanceToNextStage =>
    obtain ⟨hpaper, hrec⟩ := hheld
    -- neither the stage nor the next one is the last
    obtain ⟨next, hnext, hlast⟩ :
        ∃ next, s.pipeline.currentStage.next = some next ∧ next ≠ .completed := by
      cases hstage : s.pipeline.currentStage with
      | paperTrade => exact absurd hstage hpaper
      | completed =>
        rw [hstage] at hrec
        cases hrec
      | _ => exact ⟨_, rfl, by decide⟩
    have hsaved : (Change.advanceToNextStage.apply config s.pipeline).currentStage = next := by
      simp only [Change.apply, hnext, Option.getD_some]
    obtain ⟨hleft, hne⟩ := hrow.of_left
      (exec config s answer ⟨request, .save s.pipeline .advanceToNextStage⟩).1 h rfl hrec
      (hnext.trans (congrArg some hsaved.symm)) rfl rfl rfl
      (by simp [exec, Change.events, PipelineEvent.leaves])
    refine .of_settled rfl hleft (fun op hop => ?_) fun huns => hne huns.2.1
    simp only [afterSave, hsaved, if_neg hlast] at hop
    split at hop <;> cases hop
    trivial
  | completePipeline | markInconclusiveAndComplete =>
    obtain ⟨hpaper, hrec⟩ := hheld
    refine .of_ended answer (by simp [Change.apply]) (fun op hop => by cases hop) ?_
    have hlast : s.pipeline.currentStage.next = some .completed := by
      rw [hpaper]
      rfl
    refine And.left (hrow.of_left _ h rfl (by rw [hpaper, hrec]) hlast rfl rfl rfl ?_)
    simp [exec, Change.events, PipelineEvent.leaves, hpaper]
  | optimizationResult | historicalResult | liveReplayResult | paperTradingResult =>
    obtain ⟨hreq, hat, ⟨_, hres⟩, hrun⟩ := hheld
    exact save_result h hrow hreq hat hres hrun answer
  | _ => exact hheld.elim

omit [DecidableEq I] in
theorem Held.onError [DecidableEq I] (h : InProgress first id completion)
    (hheld : Held first id completion s task) (error : StageError) : task.onError error = none := by
  obtain ⟨request, _⟩ := task
  obtain hpause | hresm | hfailure | ⟨hcompl, -⟩ := hheld.request
  · cases hpause
    rfl
  · cases request <;> first | rfl | cases hresm
  · cases request <;> first | rfl | cases hfailure
  · exact onError_of_completes error (hcompl ▸ h.completes)

theorem exec_stepInv (h : InProgress first id completion)
    (hrow : RowInv config first id completion s) (hheld : Held first id completion s task)
    (hfinds : task.op.Undisturbed s task.request) (answer : Answer I) :
    StepInv config first id completion s task (exec config s answer task) := by
  obtain ⟨request, op⟩ := task
  cases op with
  | find =>
    exact .of_same hrow (onFind_held h hrow hheld hfinds) (fun hsets => hsets.2)
  | save copy =>
    obtain rfl : s.pipeline = copy := hfinds
    exact save_stepInv h hrow hheld.op answer
  | score =>
    obtain ⟨hreq, hat, ⟨backtestId, rfl⟩, hrun⟩ := hheld.op
    refine .of_same hrow (fun op hop => ?_) (fun hsets => hsets.2)
    cases hop
    exact ⟨hreq, hat, ⟨answer.score, rfl⟩, hrun⟩
  | enqueueStageJob =>
    exact .of_same hrow (fun op hop => by cases hop) (fun hsets => hsets.2)
  | getBacktest copy backtestId =>
    obtain ⟨hstage, hrun⟩ := hheld.op
    have hpaper : copy.currentStage ≠ .paperTrade := by
      rcases hstage with hstage | hstage <;> rw [hstage] <;> decide
    simp only [exec]
    cases hstat : s.runs.get? backtestId with
    | none =>
      refine .of_same hrow (fun op hop => by cases hop) fun hsets => ?_
      obtain ⟨-, hat, hrec⟩ := hsets
      obtain ⟨rfl, hcomp⟩ := hrun hat
      rw [hcomp hrec] at hstat
      cases hstat
    | some status =>
      dsimp only
      split
      · rename_i hended
        have hrec := hfinds status hstat hended
        refine ⟨hrow, fun hrun => hrun, advanceToNextStage_held hpaper hrec, fun huns => ?_⟩
        by_cases hsets : Settles first ⟨request, .getBacktest copy backtestId⟩
        · exact .inl ⟨_, exists_advance hrec, hsets.1, rfl⟩
        · exact .inr ⟨huns, hsets⟩
      · rename_i hended
        refine .of_same hrow (fun op hop => by cases hop; rfl) fun hsets => ?_
        obtain ⟨-, hat, hrec⟩ := hsets
        obtain ⟨rfl, hcomp⟩ := hrun hat
        rw [hcomp hrec] at hstat
        cases hstat
        exact hended rfl
  | findRun =>
    simp only [exec]
    split
    · exact .of_same hrow (fun op hop => by cases hop; exact hheld.op)
        (fun hsets => hsets.2)
    · rw [hheld.onError h]
      exact .of_same hrow (fun op hop => by cases hop) (fun hsets => hsets.2)
  | saveRun command runId after =>
    have hafter : after = none := hheld.op
    -- no command accepts a run that is completed
    have hcomp : s.runs.get? id = some .completed →
        (command.saves.elim s.runs (s.runs.set runId ·)).get? id = some .completed := by
      intro hrun
      cases hsaves : command.saves with
      | none => exact hrun
      | some =>
        rw [Option.elim_some, OrdMap.get?_set_of_ne _ _ ?_]
        · exact hrun
        · rintro rfl
          have haccepts := hfinds _ hrun
          cases command <;> simp [RunCommand.accepts, RunStatus.ended] at haccepts hsaves
    refine ⟨⟨hrow.stage, hrow.results.imp_right fun h => ⟨h.1, hcomp h.2⟩, hrow.left,
      hrow.count, hrow.runId⟩, hcomp, fun op hop => ?_, fun huns => .inr ⟨huns, ?_⟩⟩
    · subst hafter
      cases hop
    · exact fun hsets => hsets.2
  | _ => exact hheld.op.elim

theorem advance_stepInv {answer : Answer I} (h : InProgress first id completion)
    (hrow : RowInv config first id completion s) (hheld : Held first id completion s task)
    (hok : task.request.isResume = true ∨ task.request.isCompletion = true → answer.outcome = .ok)
    (hfinds : answer.outcome = .ok → task.op.Undisturbed s task.request) :
    ∃ result, StepInv config first id completion s task result ∧
      (pipelineProgram config).advance s task answer =
        (result.1, result.2.map (⟨task.request, ·⟩)) := by
  have hsame : answer.outcome ≠ .ok → StepInv config first id completion s task (s, none) :=
    fun hout => .of_same hrow (fun op hop => by cases hop)
      fun hsets => hout (hok hsets.1)
  cases hout : answer.outcome with
  | ok =>
    refine ⟨_, exec_stepInv h hrow hheld (hfinds hout) answer, ?_⟩
    simp only [pipelineProgram, hout]
  | throws =>
    refine ⟨_, hsame (by rw [hout]; exact Outcome.noConfusion), ?_⟩
    simp only [pipelineProgram, hout, hheld.onError h]
  | crash =>
    refine ⟨_, hsame (by rw [hout]; exact Outcome.noConfusion), ?_⟩
    simp only [pipelineProgram, hout]

theorem runChanges_completed (runId : I) (status : RunStatus) (h : s.runs.get? id = some .completed)
    :
    (if (s.runs.get? runId).any (! ·.ended) then { s with runs := s.runs.set runId status }
      else s).runs.get? id = some .completed := by
  split
  · rename_i hact
    rw [OrdMap.get?_set_of_ne, h]
    rintro rfl
    rw [h] at hact
    cases hact
  · exact h

theorem Inv.call (hinv : Inv config first id completion pool)
    (hheld : Held first id completion pool.shared ⟨request, .find⟩) :
    Inv config first id completion ⟨pool.shared, pool.inFlight ++ [⟨request, .find⟩]⟩ := by
  refine ⟨hinv.row, fun task htask => ?_, fun huns => ?_⟩
  · rcases List.mem_append.1 htask with htask | htask
    · exact hinv.held task htask
    · obtain rfl := List.mem_singleton.1 htask
      exact hheld
  · obtain ⟨task, htask, hsets⟩ := hinv.settles huns
    exact ⟨task, List.mem_append_left _ htask, hsets⟩

theorem Inv.runChanges (runId : I) (status : RunStatus) (hinv : Inv config first id completion pool)
    :
    Inv config first id completion
      ⟨if (pool.shared.runs.get? runId).any (! ·.ended) then
          { pool.shared with runs := pool.shared.runs.set runId status } else pool.shared,
        pool.inFlight⟩ := by
  have hcomp : pool.shared.runs.get? id = some .completed → _ := runChanges_completed runId status
  have hpipe : (if (pool.shared.runs.get? runId).any (! ·.ended) then
      { pool.shared with runs := pool.shared.runs.set runId status } else pool.shared).pipeline =
        pool.shared.pipeline := by
    split <;> rfl
  have hevs : (if (pool.shared.runs.get? runId).any (! ·.ended) then
      { pool.shared with runs := pool.shared.runs.set runId status } else pool.shared).events =
        pool.shared.events := by
    split <;> rfl
  generalize (if (pool.shared.runs.get? runId).any (! ·.ended) then
    { pool.shared with runs := pool.shared.runs.set runId status } else pool.shared) = s' at *
  obtain ⟨_, hress, _, _, _⟩ := hinv.row
  refine ⟨⟨?_, ?_, ?_, ?_, ?_⟩, fun task htask => (hinv.held task htask).mono hcomp,
    fun huns => hinv.settles ?_⟩
  · rwa [hpipe]
  · rw [hpipe]
    exact hress.imp_right fun h => ⟨h.1, hcomp h.2⟩
  · rwa [hpipe]
  · rwa [hpipe, hevs]
  · rwa [hpipe]
  · unfold Unsettled at huns
    rwa [hpipe] at huns

theorem Inv.step {move : Move (Request I P) (Answer I)} (h : InProgress first id completion)
    (hinv : Inv config first id completion pool) (hstage : OfStage id completion pool move)
    (hfinds : Undisturbed pool move) :
    Inv config first id completion ((pipelineProgram config).step pool move) := by
  obtain ⟨request, rfl, hres⟩ | ⟨_, _, task, _, _, rfl, htask, hsplit,
    hres⟩ | hres := (pipelineProgram config).step_cases pool move
  · rw [hres]
    cases request with
    | runChanges runId status =>
      have hsame := hinv.runChanges runId status
      rwa [← List.append_nil pool.inFlight] at hsame
    | pausePipeline => exact hinv.call ⟨.inl rfl, trivial⟩
    | resumePipeline => exact hinv.call ⟨.inr (.inl rfl), trivial⟩
    | _ =>
      rcases hstage with ⟨hfailure, -⟩ | hcompl
      · exact hinv.call ⟨.inr (.inr (.inl hfailure)), trivial⟩
      · exact hinv.call ⟨.inr (.inr (.inr hcompl)), trivial⟩
  · have hheld := hinv.held task (List.mem_of_getElem? htask)
    obtain ⟨hok, hop⟩ := hfinds task htask
    obtain ⟨_, hkept, hadv⟩ := advance_stepInv h hinv.row hheld hok hop
    rw [hres, hadv]
    refine ⟨hkept.row, fun other hother => ?_, fun huns => ?_⟩
    · simp only [List.mem_append, Option.mem_toList] at hother
      rcases hother with hother | hother | hother
      · exact (hinv.held other (hsplit ▸ List.mem_append_left _ hother)).mono hkept.completed
      · obtain ⟨op, hmem, rfl⟩ := Option.mem_map.1 hother
        refine ⟨?_, hkept.next op hmem⟩
        exact hheld.request.imp_right fun h => h.imp_right fun h => h.imp_right fun ⟨h, hrun⟩ =>
          ⟨h, hkept.completed hrun⟩
      · exact (hinv.held other (hsplit ▸ List.mem_append_right _
          (List.mem_cons_of_mem _ hother))).mono hkept.completed
    · rcases hkept.settles huns with ⟨op, hmem, hsets⟩ | ⟨huns, hnot⟩
      · exact ⟨⟨task.request, op⟩, by simp [Option.mem_def.1 hmem], hsets⟩
      · -- the task that settles the stage is another one
        obtain ⟨other, hother, hsets⟩ := hinv.settles huns
        rw [hsplit, List.mem_append, List.mem_cons] at hother
        rcases hother with hother | rfl | hother
        · exact ⟨other, List.mem_append_left _ hother, hsets⟩
        · exact absurd hsets hnot
        · exact ⟨other, List.mem_append_right _ (List.mem_append_right _ hother), hsets⟩
  · rw [hres]
    exact hinv

theorem Inv.eachDeferredOnce (h : InProgress first id completion)
    (hinv : Inv config first id completion pool) :
    DeferredOnce config first id completion pool := by
  refine ⟨fun hquiet hrunn hat => ?_, ?_, fun hne => ?_⟩
  · refine Bool.eq_false_iff.2 fun hrec => ?_
    obtain ⟨task, htask, hreq, -⟩ := hinv.settles ⟨hrunn, hat, hrec⟩
    obtain ⟨hresm, hcompl⟩ := hquiet task htask
    rw [hresm, hcompl] at hreq
    exact hreq.elim Bool.false_ne_true Bool.false_ne_true
  · rw [hinv.row.count]
    split <;> omega
  · have hhas := hinv.row.left hne
    refine ⟨?_, hhas⟩
    obtain ⟨_, _, hres, hress, -⟩ := hhas
    refine (hinv.row.recorded_iff h ?_).2
    rw [hress]
    exact recorded_apply_result _ h.completes hres

end Steps

/-- **In undisturbed runs a completion is deferred once.** -/
theorem deferredOnce [DecidableEq I] (config : PipelineConfig) (first : Stored I P) (id : I)
    (completion : Request I P) (moves : List (Move (Request I P) (Answer I)))
    (h : InProgress first id completion)
    (hstage : Run.Throughout (pipelineProgram config).step (OfStage id completion) ⟨first, []⟩ moves)
    (hfinds : Run.Throughout (pipelineProgram config).step Undisturbed ⟨first, []⟩ moves) :
    Run.Kept (pipelineProgram config).step (DeferredOnce config first id completion)
      (fun _ _ => True) ⟨first, []⟩ moves := by
  have hstart : Inv config first id completion ⟨first, []⟩ := by
    refine ⟨⟨.inl rfl, .inl ⟨rfl, rfl⟩, fun hne => absurd rfl hne, ?_, h.runId⟩,
      List.forall_mem_nil _, fun hunsettled => ?_⟩
    · rw [if_pos rfl]
      exact h.left
    · have hnone := h.unrecorded _ le_rfl
      rw [hunsettled.2.2] at hnone
      cases hnone
  refine (Run.kept_iff (fun _ => trivial) fun _ _ _ _ _ => trivial).mpr
    ⟨hstart.eachDeferredOnce h, ?_⟩
  exact (hstage.and hfinds).imp (Inv config first id completion)
    (fun pool move hinv hmove => ⟨(hinv.step h hmove.1 hmove.2).eachDeferredOnce h, trivial⟩)
    (fun pool move hinv hmove => hinv.step h hmove.1 hmove.2) hstart

/-! ## Pauses during a backtest and a session -/

def atHistorical : Stored ℕ ℕ :=
  ⟨⟨.running, .historical, some 1, some 2, none, none, some 7,
      some { optimization := some (optimizationStageResult 5 10) }, none, none, none⟩,
    .ofEntries [(1, .completed), (2, .running)], []⟩

def historicalComplete : Request ℕ ℕ := .backtestComplete 2 .historical goodMetrics

theorem inProgress_historical : InProgress atHistorical 2 historicalComplete where
  status := rfl
  runId := rfl
  run := ⟨.running, rfl, rfl⟩
  completes := rfl
  reports := rfl
  unrecorded stage := by cases stage <;> decide
  left := rfl

def completedWhilePaused : List (Move (Request ℕ ℕ) (Answer ℕ)) :=
  serve .pausePipeline 2 ++ .call (.runChanges 2 .completed) :: serve historicalComplete 2 ++
    serve .resumePipeline 5

theorem deferredOnce_historical :
    Run.Kept (pipelineProgram defaultConfig).step
      (DeferredOnce defaultConfig atHistorical 2 historicalComplete) (fun _ _ => True)
      ⟨atHistorical, []⟩ completedWhilePaused :=
  deferredOnce defaultConfig atHistorical 2 historicalComplete _ inProgress_historical
    (by decide +kernel) (by decide +kernel)

def cancelledWhilePaused : List (Move (Request ℕ ℕ) (Answer ℕ)) :=
  serve .pausePipeline 2 ++ .call (.runChanges 2 .cancelled) :: serve .resumePipeline 5

def atPaperTrade : Stored ℕ ℕ :=
  ⟨⟨.running, .paperTrade, some 1, some 2, some 3, some 4, some 7, none, none, none, none⟩,
    .ofEntries [(4, .active)], []⟩

def paperComplete : Request ℕ ℕ := .paperTradingComplete 4 paperMetrics (some .durationReached)

theorem inProgress_paperTrade : InProgress atPaperTrade 4 paperComplete where
  status := rfl
  runId := rfl
  run := ⟨.active, rfl, rfl⟩
  completes := rfl
  reports := rfl
  unrecorded stage := by cases stage <;> decide
  left := rfl

def sessionCompletes : List (Move (Request ℕ ℕ) (Answer ℕ)) :=
  serve .pausePipeline 2 ++ .call (.runChanges 4 .completed) :: .advance 0 ⟨.ok, 0, ⟨50, 0⟩⟩ ::
    serve paperComplete 2 ++ serve .resumePipeline 3

/-- **A cancelled backtest is passed on resume, and a completed session is left behind.** -/
theorem deferral_fails :
    InProgress atHistorical 2 historicalComplete ∧
      Run.Throughout (pipelineProgram defaultConfig).step (OfStage 2 historicalComplete)
        ⟨atHistorical, []⟩ cancelledWhilePaused ∧
      ¬ Run.Kept (pipelineProgram defaultConfig).step
        (DeferredOnce defaultConfig atHistorical 2 historicalComplete) (fun _ _ => True)
        ⟨atHistorical, []⟩ cancelledWhilePaused ∧
      InProgress atPaperTrade 4 paperComplete ∧
      Run.Throughout (pipelineProgram defaultConfig).step (OfStage 4 paperComplete)
        ⟨atPaperTrade, []⟩ sessionCompletes ∧
      ¬ Run.Kept (pipelineProgram defaultConfig).step
        (DeferredOnce defaultConfig atPaperTrade 4 paperComplete) (fun _ _ => True)
        ⟨atPaperTrade, []⟩ sessionCompletes := by
  refine ⟨inProgress_historical, by decide +kernel, fun h => ?_, inProgress_paperTrade,
    by decide +kernel, fun h => ?_⟩
  · have hpassed := ((h [] cancelledWhilePaused [] (by simp)).1.passed (by decide +kernel)).1
    exact absurd hpassed (by decide +kernel)
  · have hbehind := (h [] sessionCompletes [] (by simp)).1.advanced (by decide +kernel)
      (by decide +kernel) (by decide +kernel)
    exact absurd hbehind (by decide +kernel)

end Chansey.Pipelines
