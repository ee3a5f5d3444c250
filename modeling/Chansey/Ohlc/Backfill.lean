import Chansey.Domain
import Chansey.Lib.Scripts

/-!
# The back-fill of candles

The candles of a coin are fetched from the first exchange that has some, page by page, and stored.
The progress is saved after each page, so that an interrupted back-fill can be resumed.

* `Backfills`: what is kept of one coin: the progress, whether its jobs are cancelled, the jobs of
  the queue, the candles stored, the iterations that moved the cursor of a back-fill, and the number
  of cancellations.
-/

namespace Chansey.Backfill

open Tasks

structure OHLCRawData where
  timestamp : Instant
  openPrice : ℚ
  high : ℚ
  low : ℚ
  close : ℚ
  volume : ℚ
  deriving DecidableEq

inductive OHLCFetchErrorType where
  | noData | requestFailed | noExchangesAvailable
  deriving DecidableEq

inductive ClientAnswer where
  /-- It does not support `fetchOHLCV`. -/
  | noFetchOHLCV
  | noMarket
  | ohlcv (candles : List OHLCRawData)
  | throws
  deriving DecidableEq

inductive OHLCFetchResult (E : Type) where
  | success (exchangeSlug : E) (candles : List OHLCRawData)
  | failure (errorType : OHLCFetchErrorType)

section Fetch

variable {E : Type}

def fetchOHLC (exchangeSlug : E) : ClientAnswer → OHLCFetchResult E
  | .noFetchOHLCV | .noMarket => .failure .noData
  | .ohlcv [] => .failure .noData
  | .ohlcv (candle :: candles) => .success exchangeSlug (candle :: candles)
  | .throws => .failure .requestFailed

def fetchFrom (sawNoData : Bool) :
    List (E × ClientAnswer) → List (E × ClientAnswer) × OHLCFetchResult E
  | [] => ([], .failure (if sawNoData then .noData else .requestFailed))
  | attempt :: attempts =>
    match fetchOHLC attempt.1 attempt.2 with
    | .success exchangeSlug candles => ([attempt], .success exchangeSlug candles)
    | .failure errorType =>
      let later := fetchFrom (sawNoData || errorType = .noData) attempts
      (attempt :: later.1, later.2)

def fetchOHLCWithFallback (exchangePriority : List E) (client : ℕ → ClientAnswer) :
    List (E × ClientAnswer) × OHLCFetchResult E :=
  if exchangePriority = [] then ([], .failure .noExchangesAvailable)
  else fetchFrom false (exchangePriority.mapIdx fun attempt slug => (slug, client attempt))

end Fetch

/-! ## The state of a coin -/

inductive BackfillStatus where
  | pending | inProgress | completed | failed | cancelled
  deriving DecidableEq

structure BackfillProgress where
  startDate : Instant
  endDate : Instant
  currentDate : Instant
  candlesBackfilled : ℕ := 0
  percentComplete : ℤ := 0
  status : BackfillStatus
  deriving DecidableEq

/-- The fields that are given replace those of the progress. -/
structure ProgressUpdates where
  currentDate : Option Instant := none
  candlesBackfilled : Option ℕ := none
  percentComplete : Option ℤ := none
  status : Option BackfillStatus := none
  deriving DecidableEq

def BackfillProgress.update (progress : BackfillProgress) (updates : ProgressUpdates) :
    BackfillProgress :=
  { progress with
    currentDate := updates.currentDate.getD progress.currentDate
    candlesBackfilled := updates.candlesBackfilled.getD progress.candlesBackfilled
    percentComplete := updates.percentComplete.getD progress.percentComplete
    status := updates.status.getD progress.status }

structure BackfillJob where
  startDate : Instant
  endDate : Instant
  cancellations : ℕ
  deriving DecidableEq

/-- A call of `performBackfill`, for a range that begins at `startDate`, and the cancellations before
it was asked for. -/
structure BackfillRun where
  startDate : Instant
  fromDate : Instant
  toDate : Instant
  cancellations : ℕ
  deriving DecidableEq

/-- An iteration that moved the cursor from `since` to `next`, and whom it asked. -/
structure Iteration (E : Type) where
  since : Instant
  next : Instant
  asked : List (E × ClientAnswer)
  deriving DecidableEq

structure Backfills (E : Type) where
  progress : Option BackfillProgress := none
  /-- The coin is in `cancelledJobs`. -/
  cancelled : Bool := false
  cancellations : ℕ := 0
  queue : List BackfillJob := []
  candles : OrdMap (E × Instant) OHLCRawData
  iterations : List (Iteration E) := []

/-! ## Operations -/

/-- Who updates the progress. The loop of a back-fill catches what is thrown. -/
inductive Caller where
  | request
  | backfill (run : BackfillRun) (inLoop : Bool)
  deriving DecidableEq

inductive Op (E : Type) where
  | findCoin (job : BackfillJob)
  | saveProgress (progress : BackfillProgress)
  | addJob (job : BackfillJob)
  | getProgress
  | findMapping (progress : BackfillProgress) (cancellations : ℕ)
  /-- `updateProgress`, in two steps. -/
  | readProgress (caller : Caller) (updates : ProgressUpdates)
  | writeProgress (caller : Caller) (progress : BackfillProgress)
  | loop (run : BackfillRun) (currentDate : Instant) (totalCandles : ℕ)
  | findExchange (run : BackfillRun) (currentDate : Instant) (totalCandles : ℕ)
      (asked : List (E × ClientAnswer)) (exchangeSlug : E) (candles : List OHLCRawData)
  | upsertCandles (run : BackfillRun) (currentDate : Instant) (totalCandles : ℕ)
      (asked : List (E × ClientAnswer)) (exchangeSlug : E) (candles : List OHLCRawData)
  deriving DecidableEq

structure Answer (E : Type) where
  throws : Bool := false
  symbolChanged : Bool := false
  /-- What each attempt to fetch candles meets. -/
  client : ℕ → ClientAnswer := fun _ => .throws
  supported : List E := []

variable {E : Type} [DecidableEq E]

/-- `upsertCandles` -/
def storeCandles (stored : OrdMap (E × Instant) OHLCRawData) (exchangeSlug : E)
    (candles : List OHLCRawData) : OrdMap (E × Instant) OHLCRawData :=
  candles.foldl (fun stored candle => stored.set (exchangeSlug, candle.timestamp) candle) stored

def calculateProgress (start current stop : Instant) : ℤ :=
  min 100 ⌊((current - start : ℤ) : ℚ) / ((stop - start : ℤ) : ℚ) * 100⌋

/-- The rest of an iteration after the cursor has moved. -/
def advance (run : BackfillRun) (currentDate : Instant) (totalCandles : ℕ) : List (Op E) :=
  [.readProgress (.backfill run true)
      { currentDate := some currentDate
        candlesBackfilled := some totalCandles
        percentComplete := some (calculateProgress run.fromDate currentDate run.toDate) },
    .loop run currentDate totalCandles]

/-- The back-fill has failed and keeps its cursor. -/
def giveUp (run : BackfillRun) : List (Op E) :=
  [.readProgress (.backfill run false) { status := some .failed }]

def performBackfill (run : BackfillRun) : List (Op E) :=
  [.readProgress (.backfill run false) { status := some .inProgress }, .loop run run.fromDate 0]

def Caller.rejected : Caller → List (Op E)
  | .backfill run true => giveUp run
  | _ => []

def exec (exchangePriority : List E) (s : Backfills E) (answer : Answer E) (rest : List (Op E)) :
    Op E → Backfills E × List (Op E)
  | .findCoin job =>
    -- the coin and its symbol
    (s,
      if answer.throws then []
      else .saveProgress ⟨job.startDate, job.endDate, job.startDate, 0, 0, .pending⟩ ::
        .addJob job :: rest)
  | .saveProgress progress =>
    if answer.throws then (s, []) else ({ s with progress := some progress }, rest)
  | .addJob job => if answer.throws then (s, []) else ({ s with queue := s.queue ++ [job] }, rest)
  | .getProgress =>
    match s.progress with
    | none => (s, [])
    | some progress =>
      if answer.throws ∨ progress.status = .completed ∨ progress.status = .inProgress then (s, [])
      else ({ s with cancelled := false }, .findMapping progress s.cancellations :: rest)
  | .findMapping progress cancellations =>
    (s,
      if answer.throws then []
      else
        (if answer.symbolChanged then [.readProgress .request {}] else []) ++
          .readProgress .request { status := some .inProgress } ::
          performBackfill ⟨progress.startDate, progress.currentDate, progress.endDate, cancellations⟩)
  | .readProgress caller updates =>
    if answer.throws then (s, caller.rejected)
    else
      match s.progress with
      | none => (s, rest)
      | some progress => (s, .writeProgress caller (progress.update updates) :: rest)
  | .writeProgress caller progress =>
    if answer.throws then (s, caller.rejected) else ({ s with progress := some progress }, rest)
  | .loop run currentDate totalCandles =>
    if currentDate < run.toDate then
      if s.cancelled then (s, [])
      else
        match fetchOHLCWithFallback exchangePriority answer.client with
        | (asked, .success exchangeSlug candles) =>
          (s, .findExchange run currentDate totalCandles asked exchangeSlug candles :: rest)
        | (asked, .failure .noData) =>
          ({ s with
              iterations := s.iterations ++ [⟨currentDate, currentDate + HOUR_MS, asked⟩] },
            advance run (currentDate + HOUR_MS) totalCandles ++ rest)
        | (_, .failure _) => (s, giveUp run)
    else if totalCandles = 0 then
      (s,
        [.readProgress (.backfill run false)
          { status := some .failed
            currentDate := some run.fromDate
            percentComplete := some 0 }])
    else
      (s,
        [.readProgress (.backfill run false)
          { status := some .completed
            percentComplete := some 100 }])
  | .findExchange run currentDate totalCandles asked exchangeSlug candles =>
    if answer.throws then (s, giveUp run)
    else if exchangeSlug ∈ answer.supported then
      (s, .upsertCandles run currentDate totalCandles asked exchangeSlug candles :: rest)
    else (s, advance run currentDate totalCandles ++ rest)
  | .upsertCandles run currentDate totalCandles asked exchangeSlug candles =>
    match candles.getLast? with
    | none => (s, rest)
    | some lastCandle =>
      if answer.throws then (s, giveUp run)
      else
        let next := lastCandle.timestamp + HOUR_MS
        ({ s with
            candles := storeCandles s.candles exchangeSlug candles
            iterations := s.iterations ++ [⟨currentDate, next, asked⟩] },
          advance run next (totalCandles + candles.length) ++ rest)

/-- The requests of a coin. The worker runs a job of the queue, and may run it again. -/
inductive Request where
  | startBackfill (startDate endDate : Option Instant) (now : Instant)
  | runBackfill (position : ℕ)
  | resumeBackfill
  | cancelBackfill

def ONE_YEAR_MS : ℤ := 365 * 24 * HOUR_MS

def receive (s : Backfills E) : Request → Backfills E × List (Op E)
  | .startBackfill startDate endDate now =>
    (s, [.findCoin ⟨startDate.getD (now - ONE_YEAR_MS), endDate.getD now, s.cancellations⟩])
  | .runBackfill position =>
    match s.queue[position]? with
    | none => (s, [])
    | some job =>
      (s, performBackfill ⟨job.startDate, job.startDate, job.endDate, job.cancellations⟩)
  | .resumeBackfill => (s, [.getProgress])
  | .cancelBackfill =>
    ({ s with cancelled := true, cancellations := s.cancellations + 1 },
      [.readProgress .request { status := some .cancelled }])

def backfillScript (exchangePriority : List E) :
    Script (Backfills E) (Op E) Request (Answer E) where
  receive := receive
  exec s answer op rest := exec exchangePriority s answer rest op

def backfillProgram (exchangePriority : List E) :
    Program (Backfills E) (List (Op E)) Request (Answer E) :=
  (backfillScript exchangePriority).program

def idlePool (candles : OrdMap (E × Instant) OHLCRawData) : Pool (Backfills E) (List (Op E)) :=
  ⟨{ candles := candles }, []⟩

end Chansey.Backfill
