import Chansey.Lib.Leases
import Chansey.Lib.Remote
import Mathlib.Data.List.Nodup

/-!
# Buying new listings

Announcements and candidates are fanned out to the users as jobs. A job takes the user's lock, checks
what the user holds, buys at the exchange and saves a position.

* `enqueueTrade`, `process`: the dispatch and the job, interrupted between its calls. A queued job is
  processed any number of times, as retries and stalled workers have it.
-/

namespace Chansey.Listing

open Remote

inductive ListingStrategyType where
  | preListing | postAnnouncement
  deriving DecidableEq

inductive ListingPositionStatus where
  | open | closed | exitedTimeStop | exitedSl | exitedTp
  deriving DecidableEq

/-! ## Risk levels -/

structure ListingStrategyConfig where
  maxConcurrent : ℕ

structure ListingRiskLevelConfig where
  preListing : Option ListingStrategyConfig
  postAnnouncement : Option ListingStrategyConfig

/-- `LISTING_RISK_CONFIG`, by level. -/
def getListingRiskConfig (riskLevel : ℤ) : Option ListingRiskLevelConfig :=
  if riskLevel = 4 then some { preListing := some ⟨2⟩, postAnnouncement := none }
  else if riskLevel = 5 then some { preListing := some ⟨3⟩, postAnnouncement := some ⟨5⟩ }
  else none

def strategyConfig (riskLevel : ℤ) (strategyType : ListingStrategyType) :
    Option ListingStrategyConfig :=
  (getListingRiskConfig riskLevel).bind fun riskConfig =>
    match strategyType with
    | .postAnnouncement => riskConfig.postAnnouncement
    | .preListing => riskConfig.preListing

/-! ## State -/

structure ListingTradeExecutionJobData where
  userId : String
  coinId : String
  strategyType : ListingStrategyType
  announcementId : Option String := none
  candidateId : Option String := none
  deriving DecidableEq

abbrev ListingOrderId := ℕ

structure ListingTradePosition where
  userId : String
  orderId : ListingOrderId
  strategyType : ListingStrategyType
  coinId : String
  announcementId : Option String
  candidateId : Option String
  status : ListingPositionStatus

/-- Where a worker is in `process` and `executeBuy`: the call it waits for. -/
inductive ListingPhase where
  | loading
  | acquiring
  | checkingHolding
  | countingActive
  /-- The portfolio value and the exchange that lists the coin. -/
  | preparing
  | executingTradeSignal
  | savingPosition (orderId : ListingOrderId)
  /-- The announcement or candidate, the recorded outcome and the hedge. -/
  | updatingSource
  | releasing

structure ListingWorker where
  job : ListingTradeExecutionJobData
  phase : ListingPhase

structure Listings where
  /-- The locks, each with the number of its worker as token. -/
  redis : Leases String ℕ := Leases.empty
  queue : List ListingTradeExecutionJobData := []
  positions : List ListingTradePosition := []
  workers : ℕ → Option ListingWorker := fun _ => none
  started : ℕ := 0
  /-- The jobs that the exchange's orders were placed for, by order number. -/
  buys : List ListingTradeExecutionJobData := []

structure ListingAnswer where
  found : Bool := true
  /-- `SET NX` or the release script in Redis. -/
  redis : Fate String := .answered
  /-- There is a portfolio, and an exchange of the user lists the coin. -/
  prepared : Bool := true
  order : Fate String := .answered
  saved : Bool := true

inductive ListingEvent where
  | pass (ms : ℕ)
  /-- An announcement or a candidate reaches an eligible user. -/
  | enqueue (job : ListingTradeExecutionJobData)
  /-- A worker takes a queued job, for the first time or again. -/
  | start (position : ℕ)
  | advance (number : ℕ) (answer : ListingAnswer)
  | close (index : ℕ) (status : ListingPositionStatus)

/-! ## The dispatch and the job -/

def lockKey (userId : String) : String := "listing-trade:user:" ++ userId

def LOCK_TTL_MS : ℕ := 60000

def ListingTradePosition.holds (p : ListingTradePosition) (userId coinId : String) : Bool :=
  p.status = .open ∧ p.userId = userId ∧ p.coinId = coinId

def ListingTradePosition.counts (p : ListingTradePosition) (userId : String)
    (strategyType : ListingStrategyType) : Bool :=
  p.status = .open ∧ p.userId = userId ∧ p.strategyType = strategyType

namespace Listings

def hasOpenPositionForCoin (s : Listings) (userId coinId : String) : Bool :=
  s.positions.any (·.holds userId coinId)

def countActivePositions (s : Listings) (userId : String) (strategyType : ListingStrategyType) : ℕ :=
  s.positions.countP (·.counts userId strategyType)

variable (riskLevel : String → ℤ)

def maxConcurrent (userId : String) (strategyType : ListingStrategyType) : Option ℕ :=
  (strategyConfig (riskLevel userId) strategyType).map (·.maxConcurrent)

def enqueueTrade (s : Listings) (job : ListingTradeExecutionJobData) : Listings :=
  match maxConcurrent riskLevel job.userId job.strategyType with
  | none => s
  | some limit =>
    if s.hasOpenPositionForCoin job.userId job.coinId then s
    else if limit ≤ s.countActivePositions job.userId job.strategyType then s
    else { s with queue := s.queue ++ [job] }

def goTo (s : Listings) (number : ℕ) (job : ListingTradeExecutionJobData) (phase : ListingPhase) :
    Listings :=
  { s with workers := Function.update s.workers number (some ⟨job, phase⟩) }

def finish (s : Listings) (number : ℕ) : Listings :=
  { s with workers := Function.update s.workers number none }

def buy (s : Listings) (job : ListingTradeExecutionJobData) : Listings :=
  { s with buys := s.buys ++ [job] }

def savePosition (s : Listings) (job : ListingTradeExecutionJobData) (orderId : ListingOrderId) :
    Listings :=
  { s with
    positions := s.positions ++
      [{ userId := job.userId
         orderId := orderId
         strategyType := job.strategyType
         coinId := job.coinId
         announcementId := job.announcementId
         candidateId := job.candidateId
         status := .open }] }

/-- `process`, from one call to the next. Errors and early returns release the lock in `finally`. -/
def process (s : Listings) (number : ℕ) (answer : ListingAnswer)
    (job : ListingTradeExecutionJobData) : ListingPhase → Listings
  | .loading =>
    if answer.found && (maxConcurrent riskLevel job.userId job.strategyType).isSome then
      s.goTo number job .acquiring
    else s.finish number
  | .acquiring =>
    match call (fun redis => redis.claim (lockKey job.userId) number LOCK_TTL_MS) s.redis
        answer.redis with
    | (redis, .ok none) => { s with redis := redis }.goTo number job .checkingHolding
    | (redis, .ok (some _)) | (redis, .error _) => { s with redis := redis }.finish number
  | .checkingHolding =>
    s.goTo number job
      (if s.hasOpenPositionForCoin job.userId job.coinId then .releasing else .countingActive)
  | .countingActive =>
    s.goTo number job
      (if (maxConcurrent riskLevel job.userId job.strategyType).any
          (s.countActivePositions job.userId job.strategyType < ·) then .preparing
        else .releasing)
  | .preparing => s.goTo number job (if answer.prepared then .executingTradeSignal else .releasing)
  | .executingTradeSignal =>
    match answer.order with
    | .answered => (s.buy job).goTo number job (.savingPosition s.buys.length)
    -- an error of any kind counts as no order
    | .lost _ => (s.buy job).goTo number job .releasing
    | .refused _ => s.goTo number job .releasing
  | .savingPosition orderId =>
    if answer.saved then (s.savePosition job orderId).goTo number job .updatingSource
    else s.goTo number job .releasing
  | .updatingSource => s.goTo number job .releasing
  | .releasing =>
    let redis :=
      if answer.redis.reached then (s.redis.dropOwn (lockKey job.userId) number).1 else s.redis
    { s with redis := redis }.finish number

def step (s : Listings) : ListingEvent → Listings
  | .pass ms => { s with redis := s.redis.pass ms }
  | .enqueue job => s.enqueueTrade riskLevel job
  | .start position =>
    match s.queue[position]? with
    | none => s
    | some job =>
      { s with
        workers := Function.update s.workers s.started (some ⟨job, .loading⟩)
        started := s.started + 1 }
  | .advance number answer =>
    match s.workers number with
    | none => s
    | some worker => s.process riskLevel number answer worker.job worker.phase
  | .close index status =>
    if status = .open then s
    else { s with positions := s.positions.modify index fun p => { p with status := status } }

end Listings

end Chansey.Listing
