import Chansey.Domain
import Chansey.Lib.Remote
import Mathlib.Data.String.Basic

/-!
# Digests of pipeline events

The events of a user's pipelines are buffered in a list in Redis, one list for each bucket, and a job
that is debounced drains the list and sends one notification. The list and the job are two stores:
every call to either of them may fail, and other calls come in between.

* `Digest`: one bucket of one user, with the calls of `enqueue` and of the workers under way. The
  buckets share nothing.
-/

namespace Chansey

open Remote

inductive DigestBucket where
  | started | stage | terminal

def DIGEST_DEBOUNCE_MS : DigestBucket → ℤ
  | .started => 5 * 60 * 1000
  | .stage => 15 * 60 * 1000
  | .terminal => 2 * 60 * 60 * 1000

def SAFETY_TTL_EXTENSION_MS : ℤ := 60 * 60 * 1000

/-- How often a job is tried, and the delay before the second time. -/
def FLUSH_ATTEMPTS : ℕ := 3

def FLUSH_BACKOFF_MS : ℤ := 5000

inductive DigestEntrySubType where
  | started | stage | completed | rejected | failed
  deriving DecidableEq

structure DigestEntry where
  pipelineId : String
  strategyName : String
  subType : DigestEntrySubType
  reason : Option String := none
  /-- `at`, an ISO time, which is compared as a text. -/
  atTime : String
  deriving DecidableEq

/-- One turn of `parseAndDedupe`: the later event of a pipeline stays, in the place of its first. -/
def keepLatest (byPipelineId : OrdMap String DigestEntry) (parsed : DigestEntry) :
    OrdMap String DigestEntry :=
  if (byPipelineId.get? parsed.pipelineId).all (·.atTime ≤ parsed.atTime) then
    byPipelineId.set parsed.pipelineId parsed
  else byPipelineId

def parseAndDedupe (rawEntries : List DigestEntry) : List DigestEntry :=
  ((rawEntries.foldl keepLatest OrdMap.empty).entries).map Prod.snd

/-! ## The queue -/

/-- The lock of an active job: of the worker, or of a call of `forceRemoveJob`. -/
inductive JobLock where
  | worker (number : ℕ)
  | recovery (number : ℕ)
  deriving DecidableEq

inductive FlushJobState where
  | delayed
  | waiting
  | active (worker : ℕ) (lock : JobLock)
  | completed
  | failed
  deriving DecidableEq

def FlushJobState.isActive : FlushJobState → Bool
  | .active _ _ => true
  | .delayed | .waiting | .completed | .failed => false

structure FlushJob where
  state : FlushJobState := .delayed
  /-- When the job was to flush first. -/
  due : Instant
  /-- When it may be taken up, later than `due` after a failure. -/
  readyAt : Instant
  attemptsMade : ℕ := 0

/-- A call that `enqueue` waits for once its event is in the list, and when it was put there. -/
inductive ArmingPhase where
  | getting
  | changing
  /-- `forceRemoveJob` reads the job. -/
  | finding
  | removing
  | locking
  | failing
  | removingFailed
  | adding

inductive DigestTask where
  | pushing (entry : DigestEntry)
  | arming (phase : ArmingPhase) (pushedAt : Instant)
  | draining
  /-- A worker sends the notification of a list that it drained. -/
  | sending (index : ℕ)
  | finishing

structure DrainedList where
  entries : List DigestEntry
  notifications : List (List DigestEntry) := []

structure Digest where
  now : Instant := 0
  pending : List DigestEntry := []
  expiresAt : Option Instant := none
  job : Option FlushJob := none
  tasks : ℕ → Option DigestTask := fun _ => none
  started : ℕ := 0
  /-- The events that were put into the list, first to last. -/
  enqueued : List DigestEntry := []
  drained : List DrainedList := []

inductive DigestEvent where
  | pass (ms : ℕ)
  | enqueue (entry : DigestEntry)
  | take
  | advance (number : ℕ) (fate : Fate String)
  | crash (number : ℕ)
  /-- The lock of a worker has run out: the job waits again, or it has failed too often so. -/
  | stall (fails : Bool)

namespace Digest

variable (bucket : DigestBucket)

def delayMs : ℤ := DIGEST_DEBOUNCE_MS bucket

def setTask (s : Digest) (number : ℕ) (task : Option DigestTask) : Digest :=
  { s with tasks := Function.update s.tasks number task }

def finish (s : Digest) (number : ℕ) : Digest := s.setTask number none

def goTo (s : Digest) (number : ℕ) (phase : ArmingPhase) (pushedAt : Instant) : Digest :=
  s.setTask number (some (.arming phase pushedAt))

/-- `rpush` and `pexpire` in one transaction. -/
def push (s : Digest) (entry : DigestEntry) : Digest :=
  { s with
    pending := s.pending ++ [entry]
    expiresAt := some (s.now + delayMs bucket + SAFETY_TTL_EXTENSION_MS)
    enqueued := s.enqueued ++ [entry] }

/-- `lrange` and `del` in one transaction. -/
def drain (s : Digest) : Digest :=
  { s with
    pending := []
    expiresAt := none
    drained := if s.pending = [] then s.drained else s.drained ++ [{ entries := s.pending }] }

def newJob (s : Digest) : FlushJob where
  due := s.now + delayMs bucket
  readyAt := s.now + delayMs bucket

/-- `changeDelay` finds only a delayed job. -/
def changeDelay (s : Digest) : Option Digest :=
  match s.job with
  | none => none
  | some job =>
    if job.state = .delayed then
      some { s with job := some { job with
        due := s.now + delayMs bucket
        readyAt := s.now + delayMs bucket } }
    else none

/-- `add` leaves a job as it is that has the id already. -/
def addJob (s : Digest) : Digest :=
  match s.job with
  | none => { s with job := some (newJob bucket s) }
  | some _ => s

/-- `remove` fails when the job is locked. -/
def removeJob (s : Digest) : Option Digest :=
  if s.job.any (·.state.isActive) then none else some { s with job := none }

/-- `set` of the lock of the job. -/
def replaceLock (s : Digest) (number : ℕ) : Digest :=
  match s.job with
  | none => s
  | some job =>
    match job.state with
    | .active worker _ =>
      { s with job := some { job with state := .active worker (.recovery number) } }
    | .delayed | .waiting | .completed | .failed => s

/-- `moveToFailed` by `forceRemoveJob` needs an active job under its lock. -/
def moveToFailed (s : Digest) (number : ℕ) : Option Digest :=
  match s.job with
  | none => none
  | some job =>
    match job.state with
    | .active _ (.recovery holder) =>
      if holder = number then some { s with job := some { job with state := .failed } } else none
    | .active _ (.worker _) | .delayed | .waiting | .completed | .failed => none

/-- What a worker reports of its job, as long as it has its lock. -/
def report (s : Digest) (number : ℕ) (f : FlushJob → FlushJob) : Digest :=
  match s.job with
  | none => s
  | some job =>
    if job.state = .active number (.worker number) then { s with job := some (f job) } else s

def retried (s : Digest) (job : FlushJob) : FlushJob :=
  if job.attemptsMade + 1 < FLUSH_ATTEMPTS then
    { job with
      state := .delayed
      readyAt := s.now + FLUSH_BACKOFF_MS * 2 ^ job.attemptsMade
      attemptsMade := job.attemptsMade + 1 }
  else { job with state := .failed, attemptsMade := job.attemptsMade + 1 }

/-- `enqueue`, from one call to the next. An error is logged, and the call ends. -/
def arm (s : Digest) (number : ℕ) (fate : Fate String) (pushedAt : Instant) :
    ArmingPhase → Digest
  | .getting =>
    if fate ≠ .answered then s.finish number
    else s.goTo number (if s.job.isSome then .changing else .adding) pushedAt
  | .changing =>
    match fate, s.changeDelay bucket with
    | .answered, some changed => changed.finish number
    | .lost _, some changed => changed.goTo number .finding pushedAt
    | _, _ => s.goTo number .finding pushedAt
  | .finding =>
    if fate ≠ .answered then s.finish number
    else s.goTo number (if s.job.isSome then .removing else .adding) pushedAt
  | .removing =>
    match fate, s.removeJob with
    | .answered, some removed => removed.goTo number .adding pushedAt
    | .lost _, some removed => removed.goTo number .locking pushedAt
    | _, _ => s.goTo number .locking pushedAt
  | .locking =>
    match fate with
    | .answered => (s.replaceLock number).goTo number .failing pushedAt
    | .lost _ => (s.replaceLock number).goTo number .adding pushedAt
    | .refused _ => s.goTo number .adding pushedAt
  | .failing =>
    match fate, s.moveToFailed number with
    | .answered, some failed => failed.goTo number .removingFailed pushedAt
    | .lost _, some failed => failed.goTo number .adding pushedAt
    | _, _ => s.goTo number .adding pushedAt
  | .removingFailed =>
    (if fate.reached then (s.removeJob).getD s else s).goTo number .adding pushedAt
  | .adding => (if fate.reached then s.addJob bucket else s).finish number

def advance (s : Digest) (number : ℕ) (fate : Fate String) : DigestTask → Digest
  | .pushing entry =>
    match fate with
    | .answered => (s.push bucket entry).goTo number .getting s.now
    | .lost _ => (s.push bucket entry).finish number
    | .refused _ => s.finish number
  | .arming phase pushedAt => s.arm bucket number fate pushedAt phase
  | .draining =>
    match fate with
    | .answered =>
      if s.pending = [] then s.drain.setTask number (some .finishing)
      else s.drain.setTask number (some (.sending s.drained.length))
    -- the attempt fails, and the job is tried again
    | .lost _ => (s.drain.report number s.retried).finish number
    | .refused _ => (s.report number s.retried).finish number
  | .sending index =>
    -- `send` logs what fails
    let sent :=
      if fate.reached then
        { s with
          drained := s.drained.modify index fun list =>
            { list with notifications := list.notifications ++ [parseAndDedupe list.entries] } }
      else s
    sent.setTask number (some .finishing)
  | .finishing =>
    (if fate.reached then s.report number fun job => { job with state := .completed } else s).finish
      number

/-- Time passes, and Redis drops a list that has expired. -/
def pass (s : Digest) (ms : ℕ) : Digest :=
  if s.expiresAt.any (· ≤ s.now + ms) then
    { s with now := s.now + ms, pending := [], expiresAt := none }
  else { s with now := s.now + ms }

def start (s : Digest) (task : DigestTask) : Digest :=
  { s.setTask s.started (some task) with started := s.started + 1 }

/-- A worker takes up a job that waits, or whose delay is over. -/
def take (s : Digest) : Digest :=
  match s.job with
  | none => s
  | some job =>
    if job.state = .waiting ∨ job.state = .delayed ∧ job.readyAt ≤ s.now then
      { s with job := some { job with state := .active s.started (.worker s.started) } }.start
        .draining
    else s

def stall (s : Digest) (fails : Bool) : Digest :=
  match s.job with
  | none => s
  | some job =>
    match job.state with
    | .active _ (.worker _) =>
      { s with job := some { job with state := if fails then .failed else .waiting } }
    | .active _ (.recovery _) | .delayed | .waiting | .completed | .failed => s

def step (s : Digest) : DigestEvent → Digest
  | .pass ms => s.pass ms
  | .enqueue entry => s.start (.pushing entry)
  | .take => s.take
  | .advance number fate =>
    match s.tasks number with
    | none => s
    | some task => s.advance bucket number fate task
  | .crash number => s.finish number
  | .stall fails => s.stall fails

end Digest

end Chansey
