import Chansey.Lib.Run
import Chansey.Pipeline.Orchestrator

/-!
# The stages of a pipeline

A task saves the copy it read, whatever has become of the pipeline since then. Most handlers look for
a pipeline at the stage of their event, but that of a completed backtest takes one at any stage, and
that of a completed paper trading session one in any status.

* `Onward`: a status that has ended stays until the pipeline is restarted, and no stage comes back.
  `StageMachine`: this holds in a run, and a completed stage is left once and while it is current.
-/

namespace Chansey.Pipelines

open Tasks

variable {I P : Type}

/-! ## What a run keeps -/

def Request.completes : Request I P → Option PipelineStage
  | .optimizationComplete .. => some .optimize
  | .backtestComplete _ type _ => some type.stage
  | .paperTradingComplete .. => some .paperTrade
  | _ => none

def Change.advances : Change I P → Bool
  | .advanceToNextStage | .completePipeline | .markInconclusiveAndComplete => true
  | _ => false

def Op.advances : Op I P → Bool
  | .save _ change => change.advances
  | _ => false

def AdvancesFor (stage : PipelineStage) (pool : Pool (Stored I P) (Task I P)) :
    Move (Request I P) (Answer I) → Prop
  | .call _ => False
  | .advance position answer => answer.outcome = .ok ∧
    ∃ task ∈ pool.inFlight[position]?, task.request.completes = some stage ∧ task.op.advances = true

instance (stage : PipelineStage) (pool : Pool (Stored I P) (Task I P)) :
    (move : Move (Request I P) (Answer I)) → Decidable (AdvancesFor stage pool move)
  | .call _ => isFalse id
  | .advance _ _ => by
    unfold AdvancesFor
    infer_instance

def PipelineEvent.isRestart : PipelineEvent → Bool
  | .statusChange previousStatus _ => previousStatus.isTerminal
  | _ => false

def Stored.restarts (s : Stored I P) : ℕ := s.events.countP (·.isRestart)

/-- What a state is to a later one. -/
structure Onward (before after : Stored I P) : Prop where
  restarts : before.restarts ≤ after.restarts
  status : before.pipeline.status.isTerminal = true → after.restarts = before.restarts →
    after.pipeline.status = before.pipeline.status
  stage : before.pipeline.currentStage.index ≤ after.pipeline.currentStage.index

section Machine

variable [DecidableEq I] [DecidableEq P] (config : PipelineConfig)

structure StageMachine (start : Pool (Stored I P) (Task I P))
    (moves : List (Move (Request I P) (Answer I))) : Prop where
  onward : Run.Kept (pipelineProgram config).step (fun _ => True)
    (fun before after => Onward before.shared after.shared) start moves
  inPlace : Run.Throughout (pipelineProgram config).step (fun pool move => ∀ stage,
    AdvancesFor stage pool move → pool.shared.pipeline.currentStage = stage) start moves
  once : ∀ before first middle second after stage,
    moves = before ++ first :: (middle ++ second :: after) →
      AdvancesFor stage (before.foldl (pipelineProgram config).step start) first →
        ¬ AdvancesFor stage
          ((before ++ first :: middle).foldl (pipelineProgram config).step start) second

def Change.finds (pipeline : Pipeline I P) (change : Change I P) : PipelineStatus :=
  if change = .startPipeline then pipeline.status else (change.apply config pipeline).status

/-- A query finds the pipeline as its task expects it. -/
def Op.Timely (pipeline : Pipeline I P) (request : Request I P) : Op I P → Prop
  | .find => ∀ stage ∈ request.completes, (onFind pipeline request).isSome = true →
    pipeline.currentStage = stage
  | .save copy change => pipeline.currentStage = copy.currentStage ∧
    (pipeline.status.isTerminal = true → pipeline.status = change.finds config copy)
  | .markFailed _ => pipeline.status.isTerminal = true → pipeline.status = .failed
  | _ => True

instance (pipeline : Pipeline I P) (request : Request I P) : (op : Op I P) →
    Decidable (op.Timely config pipeline request)
  | .find | .save _ _ | .markFailed _ => by
    unfold Op.Timely
    infer_instance
  | .findRetried | .findToExecute | .score _ _ | .enqueueStageJob _ | .createRun _ _
  | .getBacktest _ _ | .findRun _ _ _ | .saveRun _ _ _ | .findLinkedRun _ _ _
  | .failRunning _ _ => isTrue trivial

def Timely (pool : Pool (Stored I P) (Task I P)) : Move (Request I P) (Answer I) → Prop
  | .call _ => True
  | .advance position answer => answer.outcome = .ok → ∀ task ∈ pool.inFlight[position]?,
    task.op.Timely config pool.shared.pipeline task.request

instance (pool : Pool (Stored I P) (Task I P)) : (move : Move (Request I P) (Answer I)) →
    Decidable (Timely config pool move)
  | .call _ => isTrue trivial
  | .advance _ _ => by
    unfold Timely
    infer_instance

end Machine

/-! ## What a step does to the pipeline -/

theorem Onward.refl (s : Stored I P) : Onward s s := ⟨le_rfl, fun _ _ => rfl, le_rfl⟩

theorem Onward.trans {s t u : Stored I P} (hst : Onward s t) (htu : Onward t u) : Onward s u := by
  refine ⟨hst.restarts.trans htu.restarts, fun hterm hrestarts => ?_, hst.stage.trans htu.stage⟩
  have hle := hst.restarts
  have hle' := htu.restarts
  have hsame := hst.status hterm (by omega)
  exact (htu.status (hsame ▸ hterm) (by omega)).trans hsame

theorem Onward.of_eq {s t : Stored I P} (hpipe : t.pipeline = s.pipeline)
    (hevs : t.events = s.events) : Onward s t := by
  refine ⟨?_, fun _ _ => by rw [hpipe], by rw [hpipe]⟩
  rw [Stored.restarts, Stored.restarts, hevs]

variable {s : Stored I P} {change : Change I P} {copy : Pipeline I P} {answer : Answer I}
  {task : Task I P} {request : Request I P} {stage : PipelineStage}
  {pool : Pool (Stored I P) (Task I P)} {move : Move (Request I P) (Answer I)}

theorem Onward.of_failed (reason : FailureReason)
    (h : s.pipeline.status.isTerminal = true → s.pipeline.status = .failed) :
    Onward s { s with
      pipeline := { s.pipeline with status := .failed, failureReason := some reason } } :=
  ⟨le_rfl, fun hterm _ => (h hterm).symm, le_rfl⟩

theorem PipelineStage.index_lt_of_next {stage next : PipelineStage} (h : stage.next = some next) :
    stage.index < next.index := by
  cases stage <;> cases h <;> decide

theorem PipelineStage.index_le_completed (stage : PipelineStage) :
    stage.index ≤ PipelineStage.completed.index := by
  cases stage <;> decide

variable (config : PipelineConfig)

theorem Change.index_le_apply (pipeline : Pipeline I P) (change : Change I P) :
    pipeline.currentStage.index ≤ (change.apply config pipeline).currentStage.index := by
  cases change with
  | advanceToNextStage =>
    cases hnext : pipeline.currentStage.next with
    | none => simp only [Change.apply, hnext, Option.getD_none, le_refl]
    | some =>
      simp only [Change.apply, hnext, Option.getD_some]
      exact (PipelineStage.index_lt_of_next hnext).le
  | completePipeline | markInconclusiveAndComplete => exact PipelineStage.index_le_completed _
  | attachRun stage => cases stage <;> exact le_rfl
  | _ => exact le_rfl

theorem Change.index_lt_apply {pipeline : Pipeline I P} (h : change.advances = true)
    (hstage : pipeline.currentStage ≠ .completed) :
    pipeline.currentStage.index < (change.apply config pipeline).currentStage.index := by
  have hlt : pipeline.currentStage.index < PipelineStage.completed.index := by
    cases hcur : pipeline.currentStage <;> first | decide | exact absurd hcur hstage
  cases change with
  | advanceToNextStage =>
    cases hnext : pipeline.currentStage.next with
    | none => cases hcur : pipeline.currentStage <;> simp_all [PipelineStage.next]
    | some =>
      simp only [Change.apply, hnext, Option.getD_some]
      exact PipelineStage.index_lt_of_next hnext
  | completePipeline | markInconclusiveAndComplete => exact hlt
  | _ => cases h

variable [DecidableEq I] [DecidableEq P]

theorem Onward.of_save (hstage : s.pipeline.currentStage = copy.currentStage)
    (hstat : s.pipeline.status.isTerminal = true → s.pipeline.status = change.finds config copy) :
    Onward s { s with
      pipeline := change.apply config copy
      events := s.events ++ change.events copy (change.apply config copy) } := by
  refine ⟨?_, fun hterm hrestarts => ?_, hstage ▸ change.index_le_apply config copy⟩
  · simp only [Stored.restarts, List.countP_append]
    omega
  · have hfinds := hstat hterm
    by_cases hstart : change = .startPipeline
    · -- a pipeline that has ended is restarted
      subst hstart
      rw [Change.finds, if_pos rfl] at hfinds
      simp [Stored.restarts, Change.events, PipelineEvent.isRestart, ← hfinds, hterm] at hrestarts
    · rw [Change.finds, if_neg hstart] at hfinds
      exact hfinds.symm

theorem exec_onward (h : task.op.Timely config s.pipeline task.request) :
    Onward s (exec config s answer task).1 := by
  obtain ⟨request, op⟩ := task
  cases op with
  | save => exact .of_save config h.1 h.2
  | markFailed reason => exact .of_failed reason h
  | failRunning =>
    simp only [exec]
    split
    · rename_i hrunn
      exact .of_failed _ fun hterm => by rw [hrunn.1] at hterm; cases hterm
    · exact .refl s
  | findRetried | getBacktest | findRun | findLinkedRun | findToExecute =>
    simp only [exec]
    repeat' split
    all_goals exact .refl s
  | createRun | saveRun => exact .of_eq rfl rfl
  | _ => exact .refl s

theorem advance_onward (h : answer.outcome = .ok → task.op.Timely config s.pipeline task.request) :
    Onward s ((pipelineProgram config).advance s task answer).1 := by
  cases hout : answer.outcome with
  | ok =>
    simp only [pipelineProgram, hout]
    exact exec_onward config (h hout)
  | throws | crash =>
    simp only [pipelineProgram, hout]
    exact .refl s

/-! ## What a completion does next -/

def Change.OfCompletion (stage : PipelineStage) : Change I P → Prop
  | .optimizationResult .. => stage = .optimize
  | .historicalResult _ => stage = .historical
  | .liveReplayResult .. => stage = .liveReplay
  | .paperTradingResult .. => stage = .paperTrade
  | .advanceToNextStage => stage ≠ .paperTrade
  | .completePipeline | .rejectPipeline _ | .markInconclusiveAndComplete => True
  | _ => False

def Op.OfCompletion (stage : PipelineStage) : Op I P → Prop
  | .find | .enqueueStageJob _ => True
  | .save copy change => copy.currentStage = stage ∧ change.OfCompletion stage
  | .score copy _ => copy.currentStage = stage ∧ stage = .liveReplay
  | _ => False

omit [DecidableEq I] [DecidableEq P] in
theorem Request.completes_ne_completed (h : request.completes = some stage) :
    stage ≠ .completed := by
  rintro rfl
  cases request with
  | backtestComplete id type => cases type <;> cases h
  | _ => cases h

omit [DecidableEq I] [DecidableEq P] in
theorem advanceToNextStage_ofCompletion (hstage : copy.currentStage = stage)
    (hpaper : stage ≠ .paperTrade) : ∀ op ∈ advanceToNextStage copy, op.OfCompletion stage := by
  intro op hop
  unfold advanceToNextStage at hop
  split at hop
  · cases hop
  · cases hop
    exact ⟨hstage, hpaper⟩

omit [DecidableEq P] in
theorem onFind_ofCompletion {row : Pipeline I P} (hcomps : request.completes = some stage)
    (hstage : (onFind row request).isSome = true → row.currentStage = stage) :
    ∀ op ∈ onFind row request, op.OfCompletion stage := by
  intro op hop
  have hat := hstage (by rw [Option.mem_def.1 hop]; rfl)
  cases request with
  | optimizationComplete =>
    simp only [onFind] at hop
    split at hop <;> cases hop
    exact ⟨hat, (Option.some.inj hcomps).symm⟩
  | backtestComplete backtestId type =>
    simp only [onFind] at hop
    split at hop
    · split at hop
      · cases hop
        exact ⟨hat, trivial⟩
      · cases type <;> cases hop <;> exact ⟨hat, (Option.some.inj hcomps).symm⟩
    · cases hop
  | paperTradingComplete =>
    cases hop
    exact ⟨hat, (Option.some.inj hcomps).symm⟩
  | _ => cases hcomps

omit [DecidableEq I] [DecidableEq P] in
theorem afterSave_ofCompletion (hne : stage ≠ .completed) (hstage : copy.currentStage = stage)
    (hchange : change.OfCompletion stage) :
    ∀ op ∈ afterSave config (change.apply config copy) change, op.OfCompletion stage := by
  intro op hop
  cases change with
  | optimizationResult | liveReplayResult =>
    simp only [afterSave] at hop
    split at hop
    · cases hop
      exact ⟨hstage, trivial⟩
    · split at hop
      · cases hop
      · exact advanceToNextStage_ofCompletion (by exact hstage) (by rw [hchange]; decide) op hop
  | historicalResult =>
    simp only [afterSave] at hop
    split at hop
    · cases hop
    · exact advanceToNextStage_ofCompletion (by exact hstage) (by rw [hchange]; decide) op hop
  | paperTradingResult =>
    simp only [afterSave] at hop
    split at hop
    · cases hop
      exact ⟨hstage, trivial⟩
    · split at hop
      · cases hop
        exact ⟨hstage, trivial⟩
      · split at hop <;> cases hop
        exact ⟨hstage, trivial⟩
  | advanceToNextStage =>
    -- only paper trading is followed by the last stage
    have hlast : (Change.advanceToNextStage.apply config copy).currentStage ≠ .completed := by
      subst hstage
      simp only [Change.OfCompletion] at hchange
      simp only [Change.apply]
      cases hcur : copy.currentStage <;> simp_all [PipelineStage.next]
    simp only [afterSave, if_neg hlast] at hop
    split at hop <;> cases hop
    trivial
  | completePipeline | rejectPipeline | markInconclusiveAndComplete => cases hop
  | _ => exact hchange.elim

theorem exec_ofCompletion (hcomps : task.request.completes = some stage)
    (h : task.op.OfCompletion stage) (htime : task.op.Timely config s.pipeline task.request) :
    ∀ op ∈ (exec config s answer task).2, op.OfCompletion stage := by
  obtain ⟨_, op⟩ := task
  cases op with
  | find => exact onFind_ofCompletion hcomps (htime stage hcomps)
  | save =>
    exact afterSave_ofCompletion config (Request.completes_ne_completed hcomps) h.1 h.2
  | score =>
    intro op hop
    cases hop
    exact h
  | enqueueStageJob => exact fun op hop => by cases hop
  | _ => exact h.elim

def OfCompletion (task : Task I P) : Prop :=
  ∀ stage ∈ task.request.completes, task.op.OfCompletion stage

omit [DecidableEq I] [DecidableEq P] in
theorem onError_of_completes (error : StageError) (h : task.request.completes = some stage) :
    task.onError error = none := by
  obtain ⟨request, _⟩ := task
  cases request <;> first | rfl | cases h

theorem advance_ofCompletion (h : OfCompletion task)
    (htime : answer.outcome = .ok → task.op.Timely config s.pipeline task.request) :
    ∀ next ∈ ((pipelineProgram config).advance s task answer).2, OfCompletion next := by
  intro next hnext stage hcomps
  cases hout : answer.outcome with
  | ok =>
    simp only [pipelineProgram, hout] at hnext
    obtain ⟨op, hop, rfl⟩ := Option.mem_map.1 hnext
    have hreq : task.request.completes = some stage := hcomps
    exact exec_ofCompletion config hreq (h stage hreq) (htime hout) op hop
  | throws =>
    simp only [pipelineProgram, hout] at hnext
    obtain ⟨_, hop, rfl⟩ := Option.mem_map.1 hnext
    have hreq : task.request.completes = some stage := hcomps
    rw [onError_of_completes _ hreq] at hop
    cases hop
  | crash =>
    simp only [pipelineProgram, hout] at hnext
    cases hnext

/-! ## Runs -/

/-- Every completion in flight has its copy at its stage. -/
def Sound (pool : Pool (Stored I P) (Task I P)) : Prop := ∀ task ∈ pool.inFlight, OfCompletion task

theorem Sound.step (h : Sound pool) (htime : Timely config pool move) :
    Sound ((pipelineProgram config).step pool move) ∧
      Onward pool.shared ((pipelineProgram config).step pool move).shared := by
  obtain ⟨request, rfl, hres⟩ | ⟨_, _, task, _, _, rfl, htask, hsplit,
    hres⟩ | hres := (pipelineProgram config).step_cases pool move
  · rw [hres]
    refine ⟨fun task htask => ?_, ?_⟩
    · rcases List.mem_append.1 htask with htask | htask
      · exact h task htask
      · cases request with
        | runChanges => cases htask
        | _ =>
          cases List.mem_singleton.1 htask
          exact fun _ _ => trivial
    · cases request with
      | runChanges =>
        simp only [pipelineProgram]
        split <;> exact .of_eq rfl rfl
      | _ => exact .refl _
  · have hop := fun hout => htime hout task htask
    rw [hres]
    refine ⟨fun other hother => ?_, advance_onward config hop⟩
    simp only [List.mem_append, Option.mem_toList] at hother
    rcases hother with hother | hother | hother
    · exact h other (hsplit ▸ List.mem_append_left _ hother)
    · exact advance_ofCompletion config (h task (List.mem_of_getElem? htask)) hop other hother
    · exact h other (hsplit ▸ List.mem_append_right _ (List.mem_cons_of_mem _ hother))
  · rw [hres]
    exact ⟨h, .refl _⟩

theorem Sound.advances (stage : PipelineStage) (h : Sound pool) (htime : Timely config pool move)
    (hadvances : AdvancesFor stage pool move) :
    pool.shared.pipeline.currentStage = stage ∧
      stage.index <
        ((pipelineProgram config).step pool move).shared.pipeline.currentStage.index := by
  cases move with
  | call => exact hadvances.elim
  | advance =>
    obtain ⟨hout, ⟨_, op⟩, htask, hcomps, hop⟩ := hadvances
    cases op with
    | save copy change =>
      obtain ⟨hstage, _⟩ := htime hout _ htask
      obtain ⟨hcopy, -⟩ := h _ (List.mem_of_getElem? htask) stage hcomps
      have hne : copy.currentStage ≠ .completed := by
        rw [hcopy]
        exact Request.completes_ne_completed hcomps
      refine ⟨hstage.trans hcopy, ?_⟩
      have hlt := change.index_lt_apply config hop hne
      simp only [Program.step, Option.mem_def.1 htask, pipelineProgram, hout, exec]
      rwa [hcopy] at hlt
    | _ => cases hop

/-- **A run of timely steps keeps to the stages.** -/
theorem stageMachine (start : Stored I P) (moves : List (Move (Request I P) (Answer I)))
    (htimely : Run.Throughout (pipelineProgram config).step (Timely config) ⟨start, []⟩ moves) :
    StageMachine config ⟨start, []⟩ moves := by
  have hstart : Sound (⟨start, []⟩ : Pool (Stored I P) (Task I P)) := List.forall_mem_nil _
  have hadvances := htimely.imp Sound (fun pool move hsound htimely stage =>
    hsound.advances config stage htimely)
    (fun pool move hsound htimely => (hsound.step config htimely).1) hstart
  have honward : Run.Kept (pipelineProgram config).step (fun _ => True)
      (fun before after => Onward before.shared after.shared) ⟨start, []⟩ moves := by
    refine (Run.kept_iff (fun _ => .refl _) fun _ _ _ => .trans).mpr ⟨trivial, ?_⟩
    exact htimely.imp Sound
      (fun pool move hsound htimely => ⟨trivial, (hsound.step config htimely).2⟩)
      (fun pool move hsound htimely => (hsound.step config htimely).1) hstart
  refine ⟨honward, ?_, ?_⟩
  · exact hadvances.imp (fun _ => True) (fun pool move _ h stage hmove => (h stage hmove).1)
      (fun _ _ _ _ => trivial) trivial
  · rintro before first middle second after stage rfl hfirst hsecond
    -- the stage is behind the pipeline after the first advance, and current at the second
    have hleft := (hadvances.at_append stage hfirst).2
    have hat := hadvances
    rw [← List.cons_append, ← List.append_assoc] at hat
    have hcurrent := (hat.at_append stage hsecond).1
    have hkept := (honward (before ++ [first]) middle (second :: after) (by simp)).2.stage
    simp only [List.foldl_append, List.foldl_cons, List.foldl_nil] at hkept hcurrent hleft
    rw [hcurrent] at hkept
    exact absurd (hleft.trans_le hkept) (lt_irrefl _)

/-! ## A pipeline that completes, and others that should not -/

def defaultConfig : PipelineConfig := ⟨1000, 1000, 3, some 0, some 30, {}⟩

def newPipeline : Stored ℕ ℕ :=
  ⟨⟨.pending, .optimize, none, none, none, none, none, none, none, none, none⟩, .empty, []⟩

def serve (request : Request ℕ ℕ) (count : ℕ) (newId : ℕ := 0) :
    List (Move (Request ℕ ℕ) (Answer ℕ)) :=
  .call request :: List.replicate count (.advance 0 ⟨.ok, newId, ⟨50, 0⟩⟩)

def goodMetrics : BacktestMetrics := ⟨⟨1, 1 / 10, 1 / 10, 1 / 2, 40⟩, 20, 20, 3 / 2, 1 / 5⟩

def paperMetrics : PaperTradingMetrics :=
  ⟨1000, 1100, 100, 10, 1 / 10, some 1, 1 / 2, 40, 20, 20, 4, 24⟩

def toHistorical : List (Move (Request ℕ ℕ) (Answer ℕ)) :=
  serve .startPipeline 3 ++ serve (.process .optimize) 4 1 ++
    serve (.optimizationComplete 1 7 5 10) 4 ++ serve (.process .historical) 4 2

def toLiveReplay : List (Move (Request ℕ ℕ) (Answer ℕ)) :=
  toHistorical ++ serve (.backtestComplete 2 .historical goodMetrics) 4 ++
    serve (.process .liveReplay) 4 3

def toPaperTrade : List (Move (Request ℕ ℕ) (Answer ℕ)) :=
  toLiveReplay ++ serve (.backtestComplete 3 .liveReplay goodMetrics) 5 ++
    serve (.process .paperTrade) 4 4

theorem stageMachine_completed :
    StageMachine defaultConfig ⟨newPipeline, []⟩
      (toPaperTrade ++ serve (.paperTradingComplete 4 paperMetrics (some .durationReached)) 3) :=
  stageMachine defaultConfig newPipeline _ (by decide +kernel)

def cancelledDuringJob : List (Move (Request ℕ ℕ) (Answer ℕ)) :=
  [.call (.cancelPipeline false), .advance 1 ⟨.ok, 0, ⟨50, 0⟩⟩, .advance 1 ⟨.ok, 0, ⟨50, 0⟩⟩]

def jobFails : List (Move (Request ℕ ℕ) (Answer ℕ)) :=
  [.advance 0 ⟨.throws "timeout", 0, ⟨50, 0⟩⟩, .advance 0 ⟨.ok, 0, ⟨50, 0⟩⟩]

/-- **A late completion skips a stage, a completed session revives a cancelled pipeline, and a job
fails one.** -/
theorem stages_skipped :
    ¬ StageMachine defaultConfig ⟨newPipeline, []⟩
        (toLiveReplay ++ serve (.backtestComplete 2 .historical goodMetrics) 4) ∧
      ¬ StageMachine defaultConfig ⟨newPipeline, []⟩
        (toPaperTrade ++ serve (.cancelPipeline false) 4 ++
          serve (.paperTradingComplete 4 paperMetrics (some .insufficientSignals)) 3) ∧
      ¬ StageMachine defaultConfig ⟨newPipeline, []⟩
        (serve .startPipeline 3 ++ serve (.process .optimize) 1 ++ cancelledDuringJob ++
          jobFails) := by
  refine ⟨fun h => ?_, fun h => ?_, fun h => ?_⟩
  · have hat := (show Run.Throughout _ _ _ ((toLiveReplay ++
      serve (.backtestComplete 2 .historical goodMetrics) 2) ++
        .advance 0 ⟨.ok, 0, ⟨50, 0⟩⟩ :: [.advance 0 ⟨.ok, 0, ⟨50, 0⟩⟩]) from h.inPlace).at_append
      .historical (by decide +kernel)
    exact absurd hat (by decide +kernel)
  · have hsame := (h.onward (toPaperTrade ++ serve (.cancelPipeline false) 4)
      (serve (.paperTradingComplete 4 paperMetrics (some .insufficientSignals)) 3) []
      (by simp)).2.status (by decide +kernel) (by decide +kernel)
    exact absurd hsame (by decide +kernel)
  · have hsame := (h.onward (serve .startPipeline 3 ++ serve (.process .optimize) 1 ++
      cancelledDuringJob) jobFails [] (by simp)).2.status (by decide +kernel) (by decide +kernel)
    exact absurd hsame (by decide +kernel)

end Chansey.Pipelines
