import Chansey.Lib.Remote
import Chansey.Lib.Tasks

/-!
# The status of a backtest

The worker that executes a backtest, its user, a watchdog and the recovery after a restart read the
status and write it later, whatever it has become since then.

* `backtestProgram`: the program of these tasks. A call may fail before or after it took effect, and a
  task may die with its process.
* **`advance_cases`**: a step writes a status, emits an event or changes neither.
-/

namespace Chansey.BacktestRun

open Remote Tasks

inductive BacktestStatus where
  | pending | running | paused | completed | failed | cancelled
  deriving DecidableEq

inductive BacktestType where
  | historical | liveReplay | paperTrading | strategyOptimization
  deriving DecidableEq

/-- `typeMapping`: the types of which events are emitted. -/
def BacktestType.mapped : BacktestType → Bool
  | .historical | .liveReplay => true
  | .paperTrading | .strategyOptimization => false

inductive Processor where
  | historical | liveReplay

inductive Author where
  /-- The save with which an execution begins. -/
  | start (run : ℕ)
  | worker (run : ℕ)
  | user
  | markFailed
  | recovery
  deriving DecidableEq

inductive Entry where
  | wrote (author : Author) (former status : BacktestStatus)
  /-- `BACKTEST_COMPLETED`, with the status that is stored then. -/
  | emitted (run : ℕ) (status : BacktestStatus)

structure Backtest where
  status : BacktestStatus
  type : BacktestType
  autoResumeCount : ℕ := 0
  pauseFlag : Bool := false
  started : ℕ := 0
  /-- Latest first. -/
  record : List Entry := []

def Backtest.store (backtest : Backtest) (author : Author) (status : BacktestStatus) : Backtest :=
  { backtest with
    status := status
    record := .wrote author backtest.status status :: backtest.record }

def MAX_AUTO_RESUME_COUNT : ℕ := 10

/-! ## Tasks -/

inductive Stage where
  | clearPauseFlag (completed : Bool)
  | resolveCoins
  | saveWarnings
  | execute (heartbeatCallCount : ℕ)
  | checkFailed (heartbeatCallCount : ℕ)
  | heartbeat (heartbeatCallCount : ℕ)
  | checkpoint (heartbeatCallCount : ℕ)
  | shouldPause (heartbeatCallCount : ℕ)
  | savePaused
  | clearCheckpoint
  | commit
  /-- The results are committed: the status is published and the summary computed. -/
  | publish

abbrev Cancellable := {status : BacktestStatus // status = .running ∨ status = .pending}

abbrev Resumable :=
  {status : BacktestStatus // status = .paused ∨ status = .cancelled ∨ status = .failed}

/-- A status that the recovery looks for. -/
abbrev Orphaned :=
  {status : BacktestStatus // status = .running ∨ status = .paused ∨ status = .pending}

inductive Task where
  | findBacktest (processor : Processor) (mode : BacktestType)
  /-- The dataset is found, and results beyond the checkpoint are deleted. -/
  | prepare (processor : Processor)
  | saveRunning (processor : Processor)
  | working (processor : Processor) (run : ℕ) (stage : Stage)
  | clearPaused
  | recordMetrics
  /-- The `catch` of a processor reads the status. -/
  | caught
  /-- `markFailed` reads the row, inside the `try` of a processor or elsewhere. -/
  | findFailing (inTry : Bool)
  | writeFailed (inTry : Bool) (found : BacktestStatus)
  | removeJob (found : Cancellable)
  | saveCancelled (found : Cancellable)
  | setPauseFlag
  | saveQueued (found : Resumable)
  | checkQueued
  /-- The recovery asks the queue. -/
  | getJob (found : Orphaned) (autoResumeCount : ℕ) (related : Bool)
  | writeExceeded (found : Orphaned)
  | requeue (found : Orphaned) (autoResumeCount : ℕ)
  | addJob
  | writeUnrecovered (left : BacktestStatus)

inductive EngineCall where
  | bar | heartbeat | checkpoint
  /-- The emergency checkpoint of a shutdown. -/
  | abort
  | finish

structure Answer where
  fate : Fate Unit := .answered
  died : Bool := false
  engine : EngineCall := .bar
  warnings : Bool := false
  queued : Bool := false

inductive Request where
  | process (processor : Processor) (mode : BacktestType)
  | cancel
  | pause
  | resume
  | detectStale
  /-- After a restart, with the user, the dataset and the algorithm, or without. -/
  | recover (related : Bool)

/-- A status, who writes it, and the status its author goes by. -/
structure Write where
  author : Author
  expects : BacktestStatus
  status : BacktestStatus

def Stage.write? (run : ℕ) : Stage → Option Write
  | .saveWarnings => some ⟨.worker run, .running, .running⟩
  | .savePaused => some ⟨.worker run, .running, .paused⟩
  | .commit => some ⟨.worker run, .running, .completed⟩
  | .clearPauseFlag _ | .resolveCoins | .execute _ | .checkFailed _ | .heartbeat _ | .checkpoint _
  | .shouldPause _ | .clearCheckpoint | .publish => none

def Task.write? (backtest : Backtest) : Task → Option Write
  | .saveRunning _ => some ⟨.start backtest.started, .pending, .running⟩
  | .working _ run stage => stage.write? run
  | .writeFailed _ found => some ⟨.markFailed, found, .failed⟩
  | .saveCancelled found => some ⟨.user, found, .cancelled⟩
  | .saveQueued found => some ⟨.user, found, .pending⟩
  | .writeExceeded found => some ⟨.recovery, found, .failed⟩
  | .requeue found _ => some ⟨.recovery, found, .pending⟩
  | .writeUnrecovered left => some ⟨.recovery, left, .failed⟩
  | .findBacktest _ _ | .prepare _ | .clearPaused | .recordMetrics | .caught | .findFailing _
  | .removeJob _ | .setPauseFlag | .checkQueued | .getJob _ _ _ | .addJob => none

/-! ## The program -/

def Task.effect (backtest : Backtest) (task : Task) : Backtest :=
  let stored := (task.write? backtest).elim backtest fun w => backtest.store w.author w.status
  match task with
  | .saveRunning _ => { stored with started := backtest.started + 1 }
  | .requeue _ autoResumeCount => { stored with autoResumeCount := autoResumeCount + 1 }
  | .setPauseFlag => { stored with pauseFlag := true }
  | .clearPaused | .working _ _ (.clearPauseFlag _) => { stored with pauseFlag := false }
  | .working _ run .publish =>
    if backtest.type.mapped then
      { stored with record := .emitted run backtest.status :: backtest.record }
    else stored
  | _ => stored

def Stage.next (backtest : Backtest) (answer : Answer) (processor : Processor) (run : ℕ) :
    Stage → Option Task
  | .clearPauseFlag true => some (.working processor run .commit)
  | .clearPauseFlag false => some (.working processor run .resolveCoins)
  | .resolveCoins =>
    if answer.warnings then some (.working processor run .saveWarnings)
    else some (.working processor run (.execute 0))
  | .saveWarnings => some (.working processor run (.execute 0))
  | .execute heartbeatCallCount =>
    match answer.engine, processor with
    | .bar, .historical => some (.working processor run (.execute heartbeatCallCount))
    | .bar, .liveReplay => some (.working processor run (.shouldPause heartbeatCallCount))
    | .heartbeat, _ =>
      -- a failure from outside is looked for at every third heartbeat
      if (heartbeatCallCount + 1) % 3 = 0 then
        some (.working processor run (.checkFailed (heartbeatCallCount + 1)))
      else some (.working processor run (.heartbeat (heartbeatCallCount + 1)))
    | .checkpoint, _ => some (.working processor run (.checkpoint heartbeatCallCount))
    | .abort, _ => none
    | .finish, .historical => some (.working processor run .clearCheckpoint)
    | .finish, .liveReplay => some (.working processor run (.clearPauseFlag true))
  | .checkFailed heartbeatCallCount =>
    if backtest.status = .failed then some .caught
    else some (.working processor run (.heartbeat heartbeatCallCount))
  | .heartbeat heartbeatCallCount | .checkpoint heartbeatCallCount =>
    some (.working processor run (.execute heartbeatCallCount))
  | .shouldPause heartbeatCallCount =>
    if backtest.pauseFlag then some (.working processor run .savePaused)
    else some (.working processor run (.execute heartbeatCallCount))
  | .savePaused => some .clearPaused
  | .clearCheckpoint => some (.working processor run .commit)
  | .commit => some (.working processor run .publish)
  | .publish => some .recordMetrics

/-- `recoverSingleBacktest`, once the queue has no job for it. -/
def recoverSingleBacktest (found : Orphaned) (autoResumeCount : ℕ) (related : Bool) : Task :=
  if MAX_AUTO_RESUME_COUNT ≤ autoResumeCount then .writeExceeded found
  else if related then .requeue found autoResumeCount
  else .writeUnrecovered found

def Task.next (backtest : Backtest) (answer : Answer) : Task → Option Task
  | .findBacktest .historical mode =>
    if backtest.status ≠ .pending then none
    else if mode ≠ .historical then some (.findFailing true)
    else some (.prepare .historical)
  | .findBacktest .liveReplay _ =>
    if backtest.type ≠ .liveReplay then some (.findFailing true)
    else if backtest.status ≠ .pending then none
    else some (.prepare .liveReplay)
  | .prepare processor => some (.saveRunning processor)
  | .saveRunning .historical => some (.working .historical backtest.started .resolveCoins)
  | .saveRunning .liveReplay =>
    some (.working .liveReplay backtest.started (.clearPauseFlag false))
  | .working processor run stage => stage.next backtest answer processor run
  | .caught => if backtest.status = .failed then none else some (.findFailing false)
  | .findFailing inTry =>
    if backtest.status = .failed then none else some (.writeFailed inTry backtest.status)
  | .removeJob found => some (.saveCancelled found)
  | .checkQueued => if answer.queued then none else some (.findFailing false)
  | .getJob found autoResumeCount related =>
    if answer.queued then none else some (recoverSingleBacktest found autoResumeCount related)
  | .requeue _ _ => some .addJob
  | .clearPaused | .recordMetrics | .writeFailed _ _ | .saveCancelled _ | .setPauseFlag
  | .saveQueued _ | .writeExceeded _ | .addJob | .writeUnrecovered _ => none

def Stage.thrown (processor : Processor) (run : ℕ) : Stage → Task
  | .clearPauseFlag true => .working processor run .commit
  | .clearPauseFlag false => .working processor run .resolveCoins
  | .shouldPause heartbeatCallCount => .working processor run (.execute heartbeatCallCount)
  | .resolveCoins | .saveWarnings | .execute _ | .checkFailed _ | .heartbeat _ | .checkpoint _
  | .savePaused | .clearCheckpoint | .commit | .publish => .caught

def Task.thrown (took : Bool) : Task → Option Task
  | .findBacktest _ _ | .prepare _ | .saveRunning _ | .recordMetrics => some .caught
  | .working processor run stage => some (stage.thrown processor run)
  | .findFailing inTry | .writeFailed inTry _ => if inTry then some .caught else none
  | .getJob found _ _ => some (.writeUnrecovered found)
  | .writeExceeded found => some (.writeUnrecovered (if took then .failed else found))
  | .requeue found _ => some (.writeUnrecovered (if took then .pending else found))
  | .addJob => some (.writeUnrecovered .pending)
  | .clearPaused | .caught | .removeJob _ | .saveCancelled _ | .setPauseFlag
  | .saveQueued _ | .checkQueued | .writeUnrecovered _ => none

/-- The status stream and the summary never fail. -/
def Task.fate (answer : Answer) : Task → Fate Unit
  | .working _ _ .publish => .answered
  | _ => answer.fate

def Task.advance (backtest : Backtest) (task : Task) (answer : Answer) : Backtest × Option Task :=
  if answer.died then (backtest, none)
  else
    match task.fate answer with
    | .answered => (task.effect backtest, task.next backtest answer)
    | .lost _ => (task.effect backtest, task.thrown true)
    | .refused _ => (backtest, task.thrown false)

def Request.start (backtest : Backtest) : Request → Option Task
  | .process processor mode => some (.findBacktest processor mode)
  | .cancel =>
    if h : backtest.status = .running ∨ backtest.status = .pending then
      some (.removeJob ⟨backtest.status, h⟩)
    else none
  | .pause =>
    if backtest.status = .running ∧ backtest.type = .liveReplay then some .setPauseFlag else none
  | .resume =>
    if h : backtest.status = .paused ∨ backtest.status = .cancelled ∨ backtest.status = .failed then
      some (.saveQueued ⟨backtest.status, h⟩)
    else none
  | .detectStale =>
    if backtest.type.mapped then
      match backtest.status with
      | .running => some (.findFailing false)
      | .pending => some .checkQueued
      | .paused | .completed | .failed | .cancelled => none
    else none
  | .recover related =>
    if h : backtest.status = .running ∨ backtest.status = .paused ∨ backtest.status = .pending then
      if backtest.type.mapped then
        if backtest.status = .pending then
          some (.getJob ⟨backtest.status, h⟩ backtest.autoResumeCount related)
        else some (recoverSingleBacktest ⟨backtest.status, h⟩ backtest.autoResumeCount related)
      else none
    else none

def backtestProgram : Program Backtest Task Request Answer where
  call backtest request := (backtest, request.start backtest)
  advance := Task.advance

def createBacktest (type : BacktestType) : Pool Backtest Task where
  shared := { status := .pending, type := type }
  inFlight := []

/-! ## What a step does -/

def Task.run? : Task → Option ℕ
  | .working _ run _ => some run
  | _ => none

/-- The results are committed, and the event is not emitted yet. -/
def Task.publishes : Task → Bool
  | .working _ _ .publish => true
  | _ => false

variable {backtest : Backtest} {task next : Task} {answer : Answer}

theorem write_cases {w : Write} (h : task.write? backtest = some w) :
    (∃ processor, task = .saveRunning processor ∧ w = ⟨.start backtest.started, .pending, .running⟩) ∨
    (∃ processor run stage, task = .working processor run stage ∧ w.author = .worker run ∧
      w.expects = .running ∧ w.status ≠ .failed ∧ w.status ≠ .pending) ∨
    (w.author = .user ∧ w.expects ≠ .completed ∧ (w.status = .cancelled ∨ w.status = .pending) ∧
      task.run? = none) ∨
    ((w.author = .markFailed ∨ w.author = .recovery) ∧ (w.status = .failed ∨ w.status = .pending) ∧
      task.run? = none) := by
  cases task with
  | saveRunning processor =>
    cases h
    exact .inl ⟨processor, rfl, rfl⟩
  | working processor run stage =>
    refine .inr (.inl ⟨processor, run, stage, rfl, ?_⟩)
    cases stage <;> cases h <;> exact ⟨rfl, rfl, nofun, nofun⟩
  | saveCancelled found =>
    cases h
    refine .inr (.inr (.inl ⟨rfl, ?_, .inl rfl, rfl⟩))
    rcases found with ⟨_, rfl | rfl⟩ <;> exact nofun
  | saveQueued found =>
    cases h
    refine .inr (.inr (.inl ⟨rfl, ?_, .inr rfl, rfl⟩))
    rcases found with ⟨_, rfl | rfl | rfl⟩ <;> exact nofun
  | writeFailed =>
    cases h
    exact .inr (.inr (.inr ⟨.inl rfl, .inl rfl, rfl⟩))
  | writeExceeded | writeUnrecovered =>
    cases h
    exact .inr (.inr (.inr ⟨.inr rfl, .inl rfl, rfl⟩))
  | requeue =>
    cases h
    exact .inr (.inr (.inr ⟨.inr rfl, .inr rfl, rfl⟩))
  | _ => cases h

theorem effect_cases (backtest : Backtest) (task : Task) :
    (∃ w, task.write? backtest = some w ∧ (task.effect backtest).status = w.status ∧
      (task.effect backtest).record = .wrote w.author backtest.status w.status :: backtest.record) ∨
    (task.write? backtest = none ∧ (task.effect backtest).status = backtest.status ∧
      ((task.effect backtest).record = backtest.record ∨
        ∃ processor run, task = .working processor run .publish ∧
          (task.effect backtest).record = .emitted run backtest.status :: backtest.record)) := by
  cases task with
  | working processor run stage =>
    cases stage with
    | saveWarnings | savePaused | commit => exact .inl ⟨_, rfl, rfl, rfl⟩
    | publish =>
      refine .inr ⟨rfl, ?_⟩
      simp only [Task.effect, Task.write?, Stage.write?, Option.elim_none]
      split
      · exact ⟨rfl, .inr ⟨processor, run, rfl, rfl⟩⟩
      · exact ⟨rfl, .inl rfl⟩
    | _ => exact .inr ⟨rfl, rfl, .inl rfl⟩
  | saveRunning | writeFailed | saveCancelled | saveQueued | writeExceeded | requeue
  | writeUnrecovered => exact .inl ⟨_, rfl, rfl, rfl⟩
  | _ => exact .inr ⟨rfl, rfl, .inl rfl⟩

theorem stage_next {processor : Processor} {run : ℕ} {stage : Stage}
    (hnext : next ∈ stage.next backtest answer processor run) :
    (next.run? = none ∨ next.run? = some run) ∧ (next.publishes = true → stage = .commit) := by
  cases stage with
  | clearPauseFlag completed =>
    cases completed <;> cases hnext <;> exact ⟨.inr rfl, nofun⟩
  | resolveCoins | shouldPause =>
    simp only [Stage.next] at hnext
    split at hnext <;> cases hnext <;> exact ⟨.inr rfl, nofun⟩
  | execute =>
    simp only [Stage.next] at hnext
    split at hnext
    case h_3 => split at hnext <;> cases hnext <;> exact ⟨.inr rfl, nofun⟩
    case h_5 => cases hnext
    all_goals
      cases hnext
      exact ⟨.inr rfl, nofun⟩
  | checkFailed =>
    simp only [Stage.next] at hnext
    split at hnext <;> cases hnext
    · exact ⟨.inl rfl, nofun⟩
    · exact ⟨.inr rfl, nofun⟩
  | savePaused | publish =>
    cases hnext
    exact ⟨.inl rfl, nofun⟩
  | commit =>
    cases hnext
    exact ⟨.inr rfl, fun _ => rfl⟩
  | _ =>
    cases hnext
    exact ⟨.inr rfl, nofun⟩

theorem task_next (hnext : next ∈ task.next backtest answer) :
    (next.run? = none ∨ next.run? = task.run? ∨
      ∃ processor, task = .saveRunning processor ∧ next.run? = some backtest.started) ∧
    (next.publishes = true → ∃ processor run, task = .working processor run .commit) := by
  cases task with
  | working processor run =>
    obtain ⟨hrun, hpub⟩ := stage_next hnext
    exact ⟨hrun.imp_right .inl, fun h => ⟨processor, run, by rw [hpub h]⟩⟩
  | saveRunning processor =>
    cases processor <;> cases hnext <;> exact ⟨.inr (.inr ⟨_, rfl, rfl⟩), nofun⟩
  | findBacktest processor =>
    cases processor <;> simp only [Task.next] at hnext <;> split_ifs at hnext <;> cases hnext <;>
      exact ⟨.inl rfl, nofun⟩
  | caught | findFailing | checkQueued =>
    simp only [Task.next] at hnext
    split at hnext <;> cases hnext
    exact ⟨.inl rfl, nofun⟩
  | getJob =>
    simp only [Task.next, recoverSingleBacktest] at hnext
    split_ifs at hnext <;> cases hnext <;> exact ⟨.inl rfl, nofun⟩
  | prepare | removeJob | requeue =>
    cases hnext
    exact ⟨.inl rfl, nofun⟩
  | _ => cases hnext

theorem task_thrown {took : Bool} (hnext : next ∈ task.thrown took) :
    (next.run? = none ∨ next.run? = task.run?) ∧ next.publishes = false := by
  cases task with
  | working processor run stage =>
    cases hnext
    cases stage with
    | clearPauseFlag completed => cases completed <;> exact ⟨.inr rfl, rfl⟩
    | shouldPause => exact ⟨.inr rfl, rfl⟩
    | _ => exact ⟨.inl rfl, rfl⟩
  | findFailing inTry | writeFailed inTry =>
    cases inTry <;> cases hnext
    exact ⟨.inl rfl, rfl⟩
  | _ =>
    cases hnext <;> exact ⟨.inl rfl, rfl⟩

inductive Steps (backtest : Backtest) (task : Task) (answer : Answer)
    (result : Backtest × Option Task) : Prop
  | kept (status : result.1.status = backtest.status) (record : result.1.record = backtest.record)
      (next : ∀ next ∈ result.2,
        (next.run? = none ∨ next.run? = task.run?) ∧ next.publishes = false)
  | wrote (w : Write) (writes : task.write? backtest = some w) (alive : answer.died = false)
      (took : (task.fate answer).reached = true) (status : result.1.status = w.status)
      (record : result.1.record = .wrote w.author backtest.status w.status :: backtest.record)
      (next : ∀ next ∈ result.2,
        (next.run? = none ∨ next.run? = task.run? ∨
          w.author = .start backtest.started ∧ next.run? = some backtest.started) ∧
        (next.publishes = true → w.status = .completed))
  | emitted (processor : Processor) (run : ℕ) (publishes : task = .working processor run .publish)
      (status : result.1.status = backtest.status)
      (record : result.1.record = .emitted run backtest.status :: backtest.record)
      (next : ∀ next ∈ result.2, next.run? = none)

theorem advance_cases (backtest : Backtest) (task : Task) (answer : Answer) :
    Steps backtest task answer (task.advance backtest answer) := by
  unfold Task.advance
  split
  · exact .kept rfl rfl fun next hnext => nomatch hnext
  rename_i hdied
  have halive : answer.died = false := by simpa using hdied
  cases hfate : task.fate answer with
  | refused => exact .kept rfl rfl fun next hnext => task_thrown hnext
  | lost =>
    obtain ⟨w, hw, hstat, hrec⟩ | ⟨-, hstat, hrec | ⟨processor, run, rfl, -⟩⟩ :=
      effect_cases backtest task
    · refine .wrote w hw halive (by rw [hfate]; rfl) hstat hrec fun next hnext => ?_
      obtain ⟨hrun, hpub⟩ := task_thrown hnext
      exact ⟨hrun.imp_right .inl, fun h => by rw [hpub] at h; cases h⟩
    · exact .kept hstat hrec fun next hnext => task_thrown hnext
    · cases hfate
  | answered =>
    obtain ⟨w, hw, hstat, hrec⟩ | ⟨hnone, hstat, hrec | ⟨processor, run, rfl, hrec⟩⟩ :=
      effect_cases backtest task
    · refine .wrote w hw halive (by rw [hfate]; rfl) hstat hrec fun next hnext => ?_
      obtain ⟨hrun, hpub⟩ := task_next hnext
      refine ⟨hrun.imp_right (Or.imp_right ?_), fun h => ?_⟩
      · rintro ⟨processor, rfl, hbegun⟩
        cases hw
        exact ⟨rfl, hbegun⟩
      · obtain ⟨processor, run, rfl⟩ := hpub h
        cases hw
        rfl
    · refine .kept hstat hrec fun next hnext => ?_
      obtain ⟨hrun, hpub⟩ := task_next hnext
      -- a task that begins an execution or commits it writes
      refine ⟨?_, Bool.eq_false_iff.mpr fun h => ?_⟩
      · obtain hrun | hrun | ⟨processor, rfl, -⟩ := hrun
        · exact .inl hrun
        · exact .inr hrun
        · cases hnone
      · obtain ⟨processor, run, rfl⟩ := hpub h
        cases hnone
    · refine .emitted processor run rfl hstat hrec fun next hnext => ?_
      cases hnext
      rfl

end Chansey.BacktestRun
