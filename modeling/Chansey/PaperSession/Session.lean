import Chansey.Domain
import Chansey.Lib.Scripts

/-!
# Ticks and commands of a paper trading session

A session's row is read, changed and saved by its ticks, by the commands of its user and by the
watchdog, all at once. Each of them is a list of operations, interrupted between any two.

* `SessionRow`: the columns they read and write; `SessionMark`: those a command decides.
-/

namespace Chansey.PaperSession

open Tasks

inductive PaperTradingStatus where
  | active | paused | stopped | completed | failed
  deriving DecidableEq

/-- `STOPPED`, `COMPLETED` and `FAILED`. -/
def PaperTradingStatus.ended : PaperTradingStatus → Bool
  | .stopped | .completed | .failed => true
  | _ => false

/-- The columns that say whether a session runs, and when and why it ended. -/
structure SessionMark where
  status : PaperTradingStatus
  stoppedReason : Option String := none
  stoppedAt : Option Instant := none
  completedAt : Option Instant := none
  deriving DecidableEq

structure SessionRow extends SessionMark where
  initialCapital : ℚ
  currentPortfolioValue : Option ℚ := none
  peakPortfolioValue : Option ℚ := none
  maxDrawdown : Option ℚ := none
  totalReturn : Option ℚ := none
  sharpeRatio : Option ℚ := none
  winRate : Option ℚ := none
  totalTrades : ℕ := 0
  winningTrades : ℕ := 0
  losingTrades : ℕ := 0
  throttleState : Option String := none
  exitTrackerState : Option String := none
  lastTickAt : Option Instant := none
  tickCount : ℕ := 0
  consecutiveErrors : ℕ := 0
  retryAttempts : ℕ := 0
  deriving DecidableEq

/-- What `processTick` returns of a processed tick, and the engine's states after it. -/
structure TickResult where
  portfolioValue : ℚ
  ordersExecuted : ℕ
  throttleState : Option String := none
  exitTrackerState : Option String := none

def applySuccessfulTickResult (session : SessionRow) (result : TickResult) (now : Instant) :
    SessionRow × ℚ :=
  let totalTrades :=
    if 0 < result.ordersExecuted then session.totalTrades + result.ordersExecuted
    else session.totalTrades
  let peakPortfolioValue :=
    if session.peakPortfolioValue.getD session.initialCapital < result.portfolioValue then
      some result.portfolioValue
    else session.peakPortfolioValue
  let peak := peakPortfolioValue.getD 0
  let currentDrawdown := if 0 < peak then (peak - result.portfolioValue) / peak else 0
  let maxDrawdown :=
    if session.maxDrawdown.getD 0 < currentDrawdown then some currentDrawdown
    else session.maxDrawdown
  ({ session with
      consecutiveErrors := 0
      retryAttempts := 0
      tickCount := session.tickCount + 1
      lastTickAt := some now
      currentPortfolioValue := some result.portfolioValue
      totalTrades := totalTrades
      peakPortfolioValue := peakPortfolioValue
      maxDrawdown := maxDrawdown
      totalReturn :=
        some ((result.portfolioValue - session.initialCapital) / session.initialCapital) },
    currentDrawdown)

/-- What awaiting `processTick` comes to. `stopCondition` is the stop condition that the session's
settings and the clock meet after the tick. -/
inductive TickOutcome where
  | processed (result : TickResult) (stopCondition : Option String)
  | notProcessed
  | recoverable
  | unrecoverable

def evaluateStopReason (session : SessionRow) (stopCondition : Option String) : Option String :=
  if session.status = .active then stopCondition else none

structure SessionMetrics where
  sharpeRatio : Option ℚ
  winRate : Option ℚ
  totalTrades : ℕ
  winningTrades : ℕ
  losingTrades : ℕ
  maxDrawdown : Option ℚ

/-! ## Commands -/

inductive Command where
  | start
  | pause
  | resume
  | stop (reason : String) (now : Instant)

namespace Command

def accepts : Command → PaperTradingStatus → Bool
  | .start, status => status = .paused ∨ status = .stopped
  | .pause, status => status = .active
  | .resume, status => status = .paused
  | .stop .., status => ¬ status.ended

def write (session : SessionRow) : Command → SessionRow
  | .start => { session with status := .active, consecutiveErrors := 0, retryAttempts := 0 }
  | .pause => { session with status := .paused }
  | .resume => { session with status := .active, consecutiveErrors := 0, retryAttempts := 0 }
  | .stop reason now =>
    { session with status := .stopped, stoppedAt := some now, stoppedReason := some reason }

def target : Command → PaperTradingStatus
  | .start | .resume => .active
  | .pause => .paused
  | .stop .. => .stopped

/-- A command decides its columns of a mark it accepts, and no others. -/
def decide (mark : SessionMark) (command : Command) : SessionMark :=
  if command.accepts mark.status then
    match command with
    | .start | .resume => { mark with status := .active }
    | .pause => { mark with status := .paused }
    | .stop reason now =>
      { mark with status := .stopped, stoppedAt := some now, stoppedReason := some reason }
  else mark

end Command

def SessionMark.complete (mark : SessionMark) (reason : String) (now : Instant) : SessionMark :=
  if mark.status.ended then mark
  else { mark with status := .completed, completedAt := some now, stoppedReason := some reason }

def SessionMark.fail (mark : SessionMark) (now : Instant) : SessionMark :=
  if mark.status.ended then mark
  else { mark with status := .failed, stoppedAt := some now, stoppedReason := some "error" }

/-! ## Operations -/

inductive TickJob where
  | tick | retry
  deriving DecidableEq

/-- The stored row, whether a transaction has it locked, and the jobs in the queue. `decided` is the
mark the commands, completions and failures decided on, each in its turn. -/
structure Sessions where
  row : SessionRow
  locked : Bool := false
  jobs : TickJob → Bool := fun _ => false
  decided : SessionMark

structure PaperTradingConfig where
  maxConsecutiveErrors : ℕ := 3
  maxRetryAttempts : ℕ := 5

/-- What the environment answers: the clock, the outcome of a tick, whether the end of
`markCompleted` throws and what kind of error, and the metrics of a finished session. -/
structure Answer where
  now : Instant
  outcome : TickOutcome := .notProcessed
  error : Option Bool := none
  metrics : SessionMetrics := ⟨none, none, 0, 0, 0, none⟩

/-- The calls a task waits for. `process` and `finish` carry the copy of the row. -/
inductive Op where
  /-- `processTick`, of a tick or of a retry. -/
  | process (retry : Bool) (session : SessionRow)
  | save (session : SessionRow)
  /-- The metrics at the end of `markCompleted`, still within the `try` of the tick. -/
  | finish (retry : Bool) (session : SessionRow)
  | markCompleted (reason : String)
  | saveCompleted (session : SessionRow) (reason : String) (now : Instant)
  | markFailed
  | removeJob (job : TickJob)
  | scheduleJob (job : TickJob)
  | touch
  | calculateMetrics (session : SessionRow)
  | beginCommand (command : Command) (session : SessionRow)
  | commit (command : Command) (session : SessionRow)

def removeTickJobs : List Op := [.removeJob .tick, .removeJob .retry]

variable (config : PaperTradingConfig)

/-- A retry with backoff while there are attempts left, else the session fails. -/
def handleConsecutiveErrors (session : SessionRow) : List Op :=
  if session.retryAttempts < config.maxRetryAttempts then
    .save { session with retryAttempts := session.retryAttempts + 1, consecutiveErrors := 0 } ::
      removeTickJobs ++ [.removeJob .retry, .scheduleJob .retry]
  else [.markFailed]

def countError (session : SessionRow) : List Op :=
  let counted := { session with consecutiveErrors := session.consecutiveErrors + 1 }
  .save counted ::
    if config.maxConsecutiveErrors ≤ counted.consecutiveErrors then
      handleConsecutiveErrors config counted
    else []

def recover (retry : Bool) (session : SessionRow) : List Op :=
  if retry then handleConsecutiveErrors config session else countError config session

/-- `handleTick` and `handleRetryTick` from the result of `processTick` on. -/
def afterTick (retry : Bool) (session : SessionRow) (answer : Answer) : List Op :=
  match answer.outcome with
  | .processed result stopCondition =>
    let persisted :=
      if retry then session
      else
        { session with
          throttleState := result.throttleState.or session.throttleState
          exitTrackerState := result.exitTrackerState.or session.exitTrackerState }
    let applied := (applySuccessfulTickResult persisted result answer.now).1
    .save applied ::
      match evaluateStopReason applied stopCondition with
      | some reason => [.markCompleted reason, .finish retry applied]
      | none => if retry then [.scheduleJob .tick] else []
  | .notProcessed | .recoverable => recover config retry session
  | .unrecoverable => [.markFailed]

/-- One call, and the operations it leads to. A write waits while the row is locked. -/
def exec (s : Sessions) (answer : Answer) : Op → Sessions × List Op
  | .process retry session => (s, afterTick config retry session answer)
  | .save session => if s.locked then (s, [.save session]) else ({ s with row := session }, [])
  | .finish retry session =>
    (s,
      match answer.error with
      | none => []
      | some true => recover config retry session
      | some false => [.markFailed])
  | .markCompleted reason =>
    (s, [.saveCompleted
      { s.row with
        status := .completed
        completedAt := some answer.now
        stoppedReason := some reason } reason answer.now])
  | .saveCompleted session reason now =>
    if s.locked then (s, [.saveCompleted session reason now])
    else ({ s with row := session, decided := s.decided.complete reason now }, removeTickJobs)
  | .markFailed =>
    if s.locked then (s, [.markFailed])
    else
      ({ s with
          row :=
            { s.row with
              status := .failed
              stoppedAt := some answer.now
              stoppedReason := some "error" }
          decided := s.decided.fail answer.now },
        removeTickJobs)
  | .removeJob job => ({ s with jobs := Function.update s.jobs job false }, [])
  | .scheduleJob job => ({ s with jobs := Function.update s.jobs job true }, [])
  | .touch =>
    if s.locked then (s, [.touch])
    else ({ s with row := { s.row with lastTickAt := some answer.now } }, [])
  | .calculateMetrics session =>
    (s, [.save
      { session with
        sharpeRatio := answer.metrics.sharpeRatio
        winRate := answer.metrics.winRate
        totalTrades := answer.metrics.totalTrades
        winningTrades := answer.metrics.winningTrades
        losingTrades := answer.metrics.losingTrades
        maxDrawdown := answer.metrics.maxDrawdown }])
  | .beginCommand command session =>
    if s.locked then (s, [.beginCommand command session])
    else
      ({ s with locked := true },
        match command with
        | .start => [.commit command session]
        | .resume => [.scheduleJob .tick, .commit command session]
        | .pause | .stop .. => removeTickJobs ++ [.commit command session])
  | .commit command session =>
    ({ s with locked := false, row := session, decided := command.decide s.decided }, [])

/-! ## Jobs and requests -/

inductive SessionCall where
  /-- Whether the processor has removed the session's jobs before (`cleanedUpSessions`). -/
  | tick (cleanedUp : Bool)
  | retryTick
  | command (command : Command)
  | startSession
  | stopSession
  /-- The watchdog finds the session active but stale, for too long or for a while; a restart
  recovers every active session. -/
  | failStale
  | recoverStale

def receive (s : Sessions) : SessionCall → List Op
  | .tick cleanedUp =>
    if s.row.status = .failed then if cleanedUp then [] else removeTickJobs
    else if s.row.status ≠ .active then []
    else [.process false s.row]
  | .retryTick => if s.row.status ≠ .active then [] else [.process true s.row]
  | .command command =>
    if command.accepts s.row.status then [.beginCommand command (command.write s.row)] else []
  | .startSession =>
    if s.row.status ≠ .active then []
    else [.save
        { s.row with
          currentPortfolioValue := some s.row.initialCapital
          peakPortfolioValue := some s.row.initialCapital
          maxDrawdown := some 0
          totalReturn := some 0 },
        .scheduleJob .tick]
  | .stopSession => [.calculateMetrics s.row]
  | .failStale => if s.row.status = .active then [.markFailed] else []
  | .recoverStale =>
    if s.row.status = .active then removeTickJobs ++ [.scheduleJob .tick, .touch] else []

def sessionScript : Script Sessions Op SessionCall Answer where
  receive s request := (s, receive s request)
  exec s answer op rest := ((exec config s answer op).1, (exec config s answer op).2 ++ rest)

def sessionProgram : Program Sessions (List Op) SessionCall Answer := (sessionScript config).program

/-- `create`: a new session is paused. -/
def createSession (initialCapital : ℚ) : Sessions where
  row := { status := .paused, initialCapital := initialCapital }
  decided := { status := .paused }

end Chansey.PaperSession
