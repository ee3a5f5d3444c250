import Chansey.PaperSession.Session

/-!
# The watchdog of paper trading sessions

Every five minutes a watchdog compares the heartbeat of an active session, its last successful tick,
with the clock. A stale session is re-queued, one that is stale for too long is marked as failed.

* `Watched`: a session with its clock times, and the record of what the watchdog found.
* `Escalates`: heartbeats are ticks, sessions are re-queued once and inside the window and failed after
  it, pending retries stay, and ended sessions are not failed.
-/

namespace Chansey.PaperSession

open Tasks

/-! ## The clock of a session -/

def BOOT_GRACE_PERIOD_MS : Instant := 10 * 60 * 1000

def STALE_RECOVERY_THRESHOLD_MS : Instant := 10 * 60 * 1000

def STALE_FAIL_THRESHOLD_MS : Instant := 20 * 60 * 1000

inductive Verdict where
  | healthy | requeue | fail
  deriving DecidableEq

def Verdict.ops : Verdict → List Op
  | .healthy => []
  | .requeue => removeTickJobs ++ [.scheduleJob .tick, .touch]
  | .fail => [.markFailed]

/-- `session.lastTickAt ?? session.updatedAt` -/
def heartbeatOf (lastTickAt : Option Instant) (updatedAt : Instant) : Instant :=
  lastTickAt.getD updatedAt

def verdictAt (heartbeat now : Instant) : Verdict :=
  if heartbeat < now - STALE_FAIL_THRESHOLD_MS then .fail
  else if heartbeat < now - STALE_RECOVERY_THRESHOLD_MS then .requeue
  else .healthy

/-- One run of the watchdog on an active session, with the ticks that were processed before. -/
structure Watch where
  now : Instant
  lastTickAt : Option Instant
  updatedAt : Instant
  ticks : List Instant
  verdict : Verdict

def Watch.heartbeat (w : Watch) : Instant := heartbeatOf w.lastTickAt w.updatedAt

structure Watched where
  sessions : Sessions
  updatedAt : Instant
  bootedAt : Instant
  retryDue : Option Instant := none
  ticks : List Instant := []
  watches : List Watch := []
  droppedRetries : List Instant := []
  failedFrom : List PaperTradingStatus := []

def Watched.heartbeat (s : Watched) : Instant := heartbeatOf s.sessions.row.lastTickAt s.updatedAt

/-! ## Ticks, commands and the watchdog -/

inductive WatchedCall where
  /-- A job or a request; the watchdog's own decisions are not among them. -/
  | session (call : SessionCall)
  | watchdog (now : Instant)

structure WatchedAnswer extends Answer where
  retryDelay : Instant := 0

def detectStaleSession (s : Watched) (now : Instant) : Watched × List Op :=
  if now - s.bootedAt < BOOT_GRACE_PERIOD_MS then (s, [])
  else if s.sessions.row.status ≠ .active then (s, [])
  else
    let verdict := verdictAt s.heartbeat now
    ({ s with
        watches :=
          { now := now
            lastTickAt := s.sessions.row.lastTickAt
            updatedAt := s.updatedAt
            ticks := s.ticks
            verdict := verdict } :: s.watches },
      verdict.ops)

def receiveWatched (s : Watched) : WatchedCall → Watched × List Op
  | .watchdog now => detectStaleSession s now
  | .session call =>
    match call with
    | .failStale | .recoverStale => (s, [])
    -- a retry that runs is no longer pending
    | .retryTick => ({ s with retryDue := none }, receive s.sessions .retryTick)
    | .tick cleanedUp => (s, receive s.sessions (.tick cleanedUp))
    | .command command => (s, receive s.sessions (.command command))
    | .startSession => (s, receive s.sessions .startSession)
    | .stopSession => (s, receive s.sessions .stopSession)

def recovers (rest : List Op) : Bool :=
  rest.any fun
    | .touch => true
    | _ => false

variable (config : PaperTradingConfig)

def execWatched (s : Watched) (answer : WatchedAnswer) (op : Op) (rest : List Op) :
    Watched × List Op :=
  let (sessions, ops) := exec config s.sessions answer.toAnswer op
  let moved :=
    { s with
      sessions := sessions
      updatedAt := if sessions.row = s.sessions.row then s.updatedAt else answer.now }
  (match op with
    | .process .. =>
      match answer.outcome with
      | .processed .. => { moved with ticks := answer.now :: s.ticks }
      | .notProcessed | .recoverable | .unrecoverable => moved
    | .scheduleJob .retry => { moved with retryDue := some (answer.now + answer.retryDelay) }
    | .removeJob .retry =>
      { moved with
        retryDue := none
        droppedRetries :=
          if recovers rest then s.retryDue.toList ++ s.droppedRetries else s.droppedRetries }
    | .markFailed =>
      { moved with
        failedFrom :=
          if s.sessions.locked then s.failedFrom else s.sessions.row.status :: s.failedFrom }
    | _ => moved,
    ops ++ rest)

def watchedScript : Script Watched Op WatchedCall WatchedAnswer where
  receive := receiveWatched
  exec := execWatched config

def watchedProgram : Program Watched (List Op) WatchedCall WatchedAnswer :=
  (watchedScript config).program

def watchedSession (initialCapital : ℚ) (now : Instant) : Pool Watched (List Op) where
  shared := { sessions := createSession initialCapital, updatedAt := now, bootedAt := now }
  inFlight := []

/-! ## What the watchdog is for -/

def Beats (ticks : List Instant) (lastTickAt : Option Instant) : Prop :=
  ∀ t, lastTickAt = some t → t ∈ ticks

structure Escalates (s : Watched) : Prop where
  heartbeat : Beats s.ticks s.sessions.row.lastTickAt
  watched : ∀ w ∈ s.watches, Beats w.ticks w.lastTickAt
  /-- A session is re-queued inside the window, and failed after it. -/
  window : ∀ w ∈ s.watches, w.verdict = .requeue →
    STALE_RECOVERY_THRESHOLD_MS < w.now - w.heartbeat ∧ w.now - w.heartbeat ≤ STALE_FAIL_THRESHOLD_MS
  failed : ∀ w ∈ s.watches, STALE_FAIL_THRESHOLD_MS < w.now - w.heartbeat → w.verdict = .fail
  once : ((s.watches.filter (·.verdict = .requeue)).map (·.heartbeat)).Nodup
  retries : s.droppedRetries = []
  ended : ∀ status ∈ s.failedFrom, status ≠ .completed ∧ status ≠ .stopped

def Op.Undisturbing (s : Watched) (rest : List Op) : Op → Prop
  | .touch => s.sessions.locked = true
  | .removeJob .retry => recovers rest = true → s.retryDue = none
  | .markFailed =>
    s.sessions.locked = false → s.sessions.row.status ≠ .completed ∧ s.sessions.row.status ≠ .stopped
  | _ => True

instance (s : Watched) (rest : List Op) : (op : Op) → Decidable (op.Undisturbing s rest)
  | .touch => inferInstanceAs (Decidable (_ = true))
  | .removeJob .retry => inferInstanceAs (Decidable (_ → _))
  | .markFailed => inferInstanceAs (Decidable (_ → _))
  | .process .. | .save _ | .finish .. | .markCompleted _ | .saveCompleted .. | .removeJob .tick
  | .scheduleJob _ | .calculateMetrics _ | .beginCommand .. | .commit .. => isTrue trivial

/-- The watchdog finds no session stale that it has re-queued for the same heartbeat, and the next
operation does not disturb. -/
def Undisturbed (pool : Pool Watched (List Op)) : Move WatchedCall WatchedAnswer → Prop
  | .call (.watchdog now) => verdictAt pool.shared.heartbeat now = .requeue →
    ∀ w ∈ pool.shared.watches, w.verdict = .requeue → w.heartbeat ≠ pool.shared.heartbeat
  | .call (.session _) => True
  | .advance position _ =>
    ∀ op rest, pool.inFlight[position]? = some (op :: rest) → op.Undisturbing pool.shared rest

instance (pool : Pool Watched (List Op)) :
    (move : Move WatchedCall WatchedAnswer) → Decidable (Undisturbed pool move)
  | .call (.watchdog _) => inferInstanceAs (Decidable (_ → _))
  | .call (.session _) => isTrue trivial
  | .advance position answer =>
    inferInstanceAs (Decidable (Script.OpMeets (fun s _ op rest => Op.Undisturbing s rest op) pool
      (.advance position answer : Move WatchedCall WatchedAnswer)))

/-- The next run of the watchdog fails a session that is stale for too long: its task is to mark the
session, and does so unless a transaction has the row locked. -/
def FailsNext (config : PaperTradingConfig) (pool : Pool Watched (List Op)) : Prop :=
  ∀ now, BOOT_GRACE_PERIOD_MS ≤ now - pool.shared.bootedAt →
    pool.shared.sessions.row.status = .active →
    STALE_FAIL_THRESHOLD_MS < now - pool.shared.heartbeat →
      ((watchedProgram config).step pool (.call (.watchdog now))).inFlight =
          pool.inFlight ++ [[.markFailed]] ∧
        ∀ answer, pool.shared.sessions.locked = false →
          ((watchedProgram config).step ((watchedProgram config).step pool (.call (.watchdog now)))
            (.advance pool.inFlight.length answer)).shared.sessions.row.status = .failed

variable {config : PaperTradingConfig} {s : Watched} {answer : WatchedAnswer} {op : Op}
  {rest : List Op} {ticks : List Instant}

/-! ### The verdict -/

variable {heartbeat now : Instant} {session : SessionRow} {sessions : Sessions}

theorem verdictAt_requeue (h : verdictAt heartbeat now = .requeue) :
    STALE_RECOVERY_THRESHOLD_MS < now - heartbeat ∧ now - heartbeat ≤ STALE_FAIL_THRESHOLD_MS := by
  unfold verdictAt at h
  split_ifs at h with hfail hrecover
  exact ⟨lt_sub_comm.1 hrecover, sub_le_comm.1 (not_lt.1 hfail)⟩

theorem verdictAt_fail (h : STALE_FAIL_THRESHOLD_MS < now - heartbeat) :
    verdictAt heartbeat now = .fail :=
  if_pos (lt_sub_comm.1 h)

theorem failsNext (pool : Pool Watched (List Op)) : FailsNext config pool := by
  intro now hgrace hact hstale
  have hfound : (watchedProgram config).step pool (.call (.watchdog now)) =
      ⟨(detectStaleSession pool.shared now).1, pool.inFlight ++ [[.markFailed]]⟩ := by
    have hops : (detectStaleSession pool.shared now).2 = [.markFailed] := by
      unfold detectStaleSession
      rw [if_neg (not_lt.2 hgrace), if_neg (not_not.2 hact)]
      simp only [verdictAt_fail hstale, Verdict.ops]
    change Pool.mk (detectStaleSession pool.shared now).1
      (pool.inFlight ++ (taskOf (detectStaleSession pool.shared now).2).toList) = _
    rw [hops]
    rfl
  have hsessions : (detectStaleSession pool.shared now).1.sessions = pool.shared.sessions := by
    unfold detectStaleSession
    split_ifs <;> rfl
  have hnext : (pool.inFlight ++ [[Op.markFailed]])[pool.inFlight.length]? = some [.markFailed] :=
    List.getElem?_concat_length
  refine ⟨by rw [hfound], fun answer hfree => ?_⟩
  rw [hfound]
  simp only [Program.step, hnext]
  change (execWatched config (detectStaleSession pool.shared now).1 answer .markFailed
    []).1.sessions.row.status = .failed
  simp only [execWatched, exec, hsessions, hfree, Bool.false_eq_true, if_false]

/-! ### Heartbeats are ticks -/

def Op.copy? : Op → Option SessionRow
  | .process _ session | .save session | .finish _ session | .saveCompleted session .. |
    .calculateMetrics session | .beginCommand _ session | .commit _ session => some session
  | .markCompleted _ | .markFailed | .removeJob _ | .scheduleJob _ | .touch => none

def Op.Beats (ticks : List Instant) (op : Op) : Prop :=
  ∀ session, op.copy? = some session → PaperSession.Beats ticks session.lastTickAt

theorem Beats.cons {lastTickAt : Option Instant} (h : Beats ticks lastTickAt) (t : Instant) :
    Beats (t :: ticks) lastTickAt := fun t' ht' => List.mem_cons_of_mem _ (h t' ht')

theorem Op.beats_of_copy (hcopy : op.copy? = some session)
    (h : PaperSession.Beats ticks session.lastTickAt) : op.Beats ticks := by
  intro other hother
  cases hcopy.symm.trans hother
  exact h

theorem Op.beats_of_none (hcopy : op.copy? = none) : op.Beats ticks := fun _ h =>
  nomatch hcopy.symm.trans h

theorem beats_removeTickJobs : ∀ op ∈ removeTickJobs, op.Beats ticks := by
  intro op hop
  simp only [removeTickJobs, List.mem_cons, List.not_mem_nil, or_false] at hop
  rcases hop with rfl | rfl <;> exact Op.beats_of_none rfl

theorem beats_handleConsecutiveErrors (h : Beats ticks session.lastTickAt) :
    ∀ op ∈ handleConsecutiveErrors config session, op.Beats ticks := by
  intro op hop
  unfold handleConsecutiveErrors at hop
  split at hop
  · simp only [removeTickJobs, List.cons_append, List.nil_append, List.mem_cons, List.not_mem_nil,
      or_false] at hop
    rcases hop with rfl | rfl | rfl | rfl | rfl
    · exact Op.beats_of_copy rfl h
    all_goals exact Op.beats_of_none rfl
  · rw [List.mem_singleton] at hop
    subst hop
    exact Op.beats_of_none rfl

theorem beats_recover {retry : Bool} (h : Beats ticks session.lastTickAt) :
    ∀ op ∈ recover config retry session, op.Beats ticks := by
  intro op hop
  unfold recover at hop
  split at hop
  · exact beats_handleConsecutiveErrors h op hop
  · unfold countError at hop
    rcases List.mem_cons.1 hop with rfl | hop
    · exact Op.beats_of_copy rfl h
    · split at hop
      · have hcounted : Beats ticks ({ session with
            consecutiveErrors := session.consecutiveErrors + 1 } : SessionRow).lastTickAt := h
        exact beats_handleConsecutiveErrors hcounted op hop
      · cases hop

theorem beats_afterTick {retry : Bool} {answer : Answer} (h : Beats ticks session.lastTickAt)
    (hproc : ∀ result stopCondition, answer.outcome = .processed result stopCondition →
      answer.now ∈ ticks) : ∀ op ∈ afterTick config retry session answer, op.Beats ticks := by
  intro op hop
  unfold afterTick at hop
  split at hop
  · rename_i result stopCondition hout
    have hbeat : Beats ticks (some answer.now) := by
      intro t ht
      cases ht
      exact hproc result stopCondition hout
    rcases List.mem_cons.1 hop with rfl | hop
    · exact Op.beats_of_copy rfl hbeat
    · split at hop
      · simp only [List.mem_cons, List.not_mem_nil, or_false] at hop
        rcases hop with rfl | rfl
        · exact Op.beats_of_none rfl
        · exact Op.beats_of_copy rfl hbeat
      · split at hop
        · rw [List.mem_singleton] at hop
          subst hop
          exact Op.beats_of_none rfl
        · cases hop
  · exact beats_recover h op hop
  · exact beats_recover h op hop
  · rw [List.mem_singleton] at hop
    subst hop
    exact Op.beats_of_none rfl

structure LeavesBeats (ticks : List Instant) (result : Sessions × List Op) : Prop where
  row : Beats ticks result.1.row.lastTickAt
  next : ∀ op ∈ result.2, op.Beats ticks

theorem LeavesBeats.single (hrow : Beats ticks sessions.row.lastTickAt) (hop : op.Beats ticks) :
    LeavesBeats ticks (sessions, [op]) :=
  ⟨hrow, fun _ hother => List.mem_singleton.1 hother ▸ hop⟩

theorem LeavesBeats.nil (hrow : Beats ticks sessions.row.lastTickAt) :
    LeavesBeats ticks (sessions, []) :=
  ⟨hrow, fun _ h => nomatch h⟩

theorem exec_beats {answer : Answer} (hrow : Beats ticks sessions.row.lastTickAt)
    (hop : op.Beats ticks) (htouch : op = .touch → sessions.locked = true)
    (hproc : ∀ retry session result stopCondition, op = .process retry session →
      answer.outcome = .processed result stopCondition → answer.now ∈ ticks) :
    LeavesBeats ticks (exec config sessions answer op) := by
  cases op with
  | process retry session =>
    exact ⟨hrow, beats_afterTick (hop session rfl) fun result stopCondition =>
      hproc retry session result stopCondition rfl⟩
  | save session =>
    simp only [exec]
    split
    · exact .single hrow hop
    · exact .nil (hop session rfl)
  | finish retry session =>
    refine ⟨hrow, fun other hother => ?_⟩
    simp only [exec] at hother
    split at hother
    · cases hother
    · exact beats_recover (hop session rfl) other hother
    · rw [List.mem_singleton] at hother
      subst hother
      exact Op.beats_of_none rfl
  | markCompleted => exact .single hrow (Op.beats_of_copy rfl hrow)
  | saveCompleted session =>
    simp only [exec]
    split
    · exact .single hrow hop
    · exact ⟨hop session rfl, beats_removeTickJobs⟩
  | markFailed =>
    simp only [exec]
    split
    · exact .single hrow hop
    · exact ⟨hrow, beats_removeTickJobs⟩
  | removeJob | scheduleJob => exact .nil hrow
  | touch =>
    simp only [exec]
    rw [if_pos (htouch rfl)]
    exact .single hrow hop
  | calculateMetrics session => exact .single hrow (Op.beats_of_copy rfl (hop session rfl))
  | beginCommand command session =>
    simp only [exec]
    split
    · exact .single hrow hop
    · refine ⟨hrow, fun other hother => ?_⟩
      have hcommit : (Op.commit command session).Beats ticks := Op.beats_of_copy rfl (hop session rfl)
      cases command with
      | start =>
        rw [List.mem_singleton] at hother
        exact hother ▸ hcommit
      | resume =>
        simp only [List.mem_cons, List.not_mem_nil, or_false] at hother
        rcases hother with rfl | rfl
        · exact Op.beats_of_none rfl
        · exact hcommit
      | pause | stop =>
        rcases List.mem_append.1 hother with hother | hother
        · exact beats_removeTickJobs other hother
        · rw [List.mem_singleton] at hother
          exact hother ▸ hcommit
  | commit command session => exact .nil (hop session rfl)

theorem Command.write_lastTickAt (command : Command) (session : SessionRow) :
    (command.write session).lastTickAt = session.lastTickAt := by
  cases command <;> rfl

theorem receive_beats (hrow : Beats ticks sessions.row.lastTickAt) (call : SessionCall) :
    ∀ op ∈ receive sessions call, op.Beats ticks := by
  intro op hop
  cases call with
  | tick =>
    simp only [receive] at hop
    split_ifs at hop
    · cases hop
    · exact beats_removeTickJobs op hop
    · cases hop
    · rw [List.mem_singleton] at hop
      exact hop ▸ Op.beats_of_copy rfl hrow
  | retryTick =>
    simp only [receive] at hop
    split_ifs at hop
    · cases hop
    · rw [List.mem_singleton] at hop
      exact hop ▸ Op.beats_of_copy rfl hrow
  | command =>
    simp only [receive] at hop
    split_ifs at hop
    · rw [List.mem_singleton] at hop
      subst hop
      refine Op.beats_of_copy rfl ?_
      rw [Command.write_lastTickAt]
      exact hrow
    · cases hop
  | startSession =>
    simp only [receive] at hop
    split_ifs at hop
    · cases hop
    · simp only [List.mem_cons, List.not_mem_nil, or_false] at hop
      rcases hop with rfl | rfl
      · exact Op.beats_of_copy rfl hrow
      · exact Op.beats_of_none rfl
  | stopSession =>
    rw [receive, List.mem_singleton] at hop
    exact hop ▸ Op.beats_of_copy rfl hrow
  | failStale =>
    simp only [receive] at hop
    split_ifs at hop
    · rw [List.mem_singleton] at hop
      exact hop ▸ Op.beats_of_none rfl
    · cases hop
  | recoverStale =>
    simp only [receive] at hop
    split_ifs at hop
    · have hnone : ∀ op ∈ Verdict.requeue.ops, op.copy? = none := by decide
      exact Op.beats_of_none (hnone op hop)
    · cases hop

/-! ### Runs -/

def CopiesBeat (s : Watched) (op : Op) : Prop := op.Beats s.ticks

theorem Escalates.of_eq {t : Watched} (h : Escalates s)
    (hrow : Beats t.ticks t.sessions.row.lastTickAt) (hwatches : t.watches = s.watches)
    (hdropped : t.droppedRetries = [])
    (hfail : ∀ status ∈ t.failedFrom, status ≠ .completed ∧ status ≠ .stopped) : Escalates t where
  heartbeat := hrow
  watched := hwatches ▸ h.watched
  window := hwatches ▸ h.window
  failed := hwatches ▸ h.failed
  once := hwatches ▸ h.once
  retries := hdropped
  ended := hfail

theorem verdict_beats (verdict : Verdict) : ∀ op ∈ verdict.ops, op.Beats ticks := by
  intro op hop
  have hnone : ∀ op ∈ verdict.ops, op.copy? = none := by cases verdict <;> decide
  exact Op.beats_of_none (hnone op hop)

theorem escalates_watch (h : Escalates s) (now : Instant)
    (hund : verdictAt s.heartbeat now = .requeue →
      ∀ w ∈ s.watches, w.verdict = .requeue → w.heartbeat ≠ s.heartbeat) :
    Escalates (detectStaleSession s now).1 ∧
      (detectStaleSession s now).1.ticks = s.ticks ∧
      ∀ op ∈ (detectStaleSession s now).2, op.Beats s.ticks := by
  unfold detectStaleSession
  split_ifs with hgrace hinact
  · exact ⟨h, rfl, fun _ hop => nomatch hop⟩
  · exact ⟨h, rfl, fun _ hop => nomatch hop⟩
  refine ⟨⟨h.heartbeat, ?_, ?_, ?_, ?_, h.retries, h.ended⟩, rfl, verdict_beats _⟩
  · exact List.forall_mem_cons.2 ⟨h.heartbeat, h.watched⟩
  · exact List.forall_mem_cons.2 ⟨fun hrequeue => verdictAt_requeue hrequeue, h.window⟩
  · exact List.forall_mem_cons.2 ⟨fun hstale => verdictAt_fail hstale, h.failed⟩
  · cases hverdict : verdictAt s.heartbeat now with
    | requeue =>
      simp only [List.filter_cons, decide_true, if_true, List.map_cons, List.nodup_cons]
      refine ⟨fun hmem => ?_, h.once⟩
      obtain ⟨w, hw, hsame⟩ := List.mem_map.1 hmem
      obtain ⟨hw, hrequeue⟩ := List.mem_filter.1 hw
      exact hund hverdict w hw (of_decide_eq_true hrequeue) hsame
    | healthy | fail => exact h.once

theorem escalates_exec (config : PaperTradingConfig) (answer : WatchedAnswer) (h : Escalates s)
    (hop : op.Beats s.ticks) (hundisturbing : op.Undisturbing s rest) :
    Escalates (execWatched config s answer op rest).1 ∧
      (∀ other, Op.Beats s.ticks other → Op.Beats (execWatched config s answer op rest).1.ticks other) ∧
      ∀ other ∈ (exec config s.sessions answer.toAnswer op).2,
        Op.Beats (execWatched config s answer op rest).1.ticks other := by
  have hkept : (∀ retry session result stopCondition, op = .process retry session →
      answer.outcome = .processed result stopCondition → answer.now ∈ s.ticks) →
      LeavesBeats s.ticks (exec config s.sessions answer.toAnswer op) := by
    intro hproc
    refine exec_beats h.heartbeat hop ?_ hproc
    rintro rfl
    exact hundisturbing
  have hplain : (∀ retry session, op ≠ .process retry session) →
      LeavesBeats s.ticks (exec config s.sessions answer.toAnswer op) :=
    fun hne => hkept fun retry session _ _ heq => absurd heq (hne retry session)
  cases op with
  | process retry session =>
    cases hout : answer.outcome with
    | processed =>
      have hgrown : LeavesBeats (answer.now :: s.ticks)
          (exec config s.sessions answer.toAnswer (.process retry session)) :=
        exec_beats (h.heartbeat.cons answer.now)
          (fun copy hcopy => (hop copy hcopy).cons answer.now) (fun heq => nomatch heq)
          fun _ _ _ _ _ _ => List.mem_cons_self
      simp only [execWatched, hout]
      exact ⟨⟨hgrown.row, h.watched, h.window, h.failed, h.once, h.retries, h.ended⟩,
        fun other hother copy hcopy => (hother copy hcopy).cons answer.now, hgrown.next⟩
    | _ =>
      have hleav := hkept fun _ _ result stopCondition _ hproc => by
        rw [hout] at hproc
        cases hproc
      simp only [execWatched, hout]
      exact ⟨h.of_eq hleav.row rfl h.retries h.ended, fun _ => id, hleav.next⟩
  | scheduleJob job =>
    have hleav := hplain fun _ _ heq => nomatch heq
    cases job <;>
      exact ⟨h.of_eq hleav.row rfl h.retries h.ended, fun _ => id, hleav.next⟩
  | removeJob job =>
    have hleav := hplain fun _ _ heq => nomatch heq
    cases job with
    | tick => exact ⟨h.of_eq hleav.row rfl h.retries h.ended, fun _ => id, hleav.next⟩
    | retry =>
      refine ⟨h.of_eq hleav.row rfl ?_ h.ended, fun _ => id, hleav.next⟩
      simp only [execWatched]
      split
      · rename_i hrecovers
        rw [hundisturbing hrecovers, h.retries]
        rfl
      · exact h.retries
  | markFailed =>
    have hleav := hplain fun _ _ heq => nomatch heq
    refine ⟨h.of_eq hleav.row rfl h.retries ?_, fun _ => id, hleav.next⟩
    simp only [execWatched]
    split
    · exact h.ended
    · rename_i hfree
      exact List.forall_mem_cons.2 ⟨hundisturbing (Bool.eq_false_iff.2 hfree), h.ended⟩
  | _ =>
    have hleav := hplain fun _ _ heq => nomatch heq
    exact ⟨h.of_eq hleav.row rfl h.retries h.ended, fun _ => id, hleav.next⟩

theorem receiveWatched_keeps {pool : Pool Watched (List Op)} {call : WatchedCall}
    (h : Escalates pool.shared) (hund : Undisturbed pool (.call call)) :
    KeepsEach Escalates CopiesBeat pool (receiveWatched pool.shared call) := by
  cases call with
  | watchdog now =>
    obtain ⟨hinv, hticks, hnext⟩ := escalates_watch h now hund
    unfold CopiesBeat
    exact ⟨hinv, fun op hop => hticks ▸ hnext op hop, fun _ _ op _ hbeats => hticks ▸ hbeats⟩
  | session call =>
    have hreceived := receive_beats h.heartbeat
    have hoths : ∀ task ∈ pool.inFlight, ∀ op ∈ task, CopiesBeat pool.shared op →
        CopiesBeat pool.shared op := fun _ _ _ _ => id
    cases call with
    | failStale | recoverStale => exact ⟨h, fun _ hop => (nomatch hop), hoths⟩
    | retryTick =>
      exact ⟨h.of_eq h.heartbeat rfl h.retries h.ended, hreceived .retryTick, hoths⟩
    | tick cleanedUp => exact ⟨h, hreceived (.tick cleanedUp), hoths⟩
    | command command => exact ⟨h, hreceived (.command command), hoths⟩
    | startSession => exact ⟨h, hreceived .startSession, hoths⟩
    | stopSession => exact ⟨h, hreceived .stopSession, hoths⟩

/-- **In every run that is not disturbed, stale sessions are re-queued once inside the window and failed
after it, heartbeats are ticks, pending retries stay and ended sessions are not failed.** -/
theorem watchdog_escalates (config : PaperTradingConfig) (initialCapital : ℚ) (now : Instant)
    (pool : Pool Watched (List Op))
    (hreached : (watchedProgram config).Reached Undisturbed (watchedSession initialCapital now) pool) :
    Escalates pool.shared ∧ FailsNext config pool := by
  have hholds : Holds Escalates CopiesBeat pool := by
    refine Script.holds ?_ ?_ ?_ hreached
    · intro pool call hholds hundisturbed
      exact receiveWatched_keeps hholds.1 hundisturbed
    · intro pool position answer op rest hholds htask hundisturbed
      have hmem := List.mem_of_getElem? htask
      obtain ⟨hinv, hmono, hnext⟩ := escalates_exec config answer hholds.1
        (hholds.2 _ hmem op List.mem_cons_self) (hundisturbed op rest htask)
      refine ⟨hinv, fun other hother => ?_, fun _ _ other _ => hmono other⟩
      rcases List.mem_append.1 hother with hother | hother
      · exact hnext other hother
      · exact hmono other (hholds.2 _ hmem other (List.mem_cons_of_mem op hother))
    · refine ⟨⟨fun t ht => (nomatch ht), ?_, ?_, ?_, List.nodup_nil, rfl, ?_⟩, ?_⟩
      all_goals exact fun _ hmem => nomatch hmem
  exact ⟨hholds.1, failsNext pool⟩

/-! ## A session whose ticks stop -/

def MINUTE_MS : Instant := 60 * 1000

def tickedMoves : List (Move WatchedCall WatchedAnswer) :=
  [.call (.session (.command .start)), .advance 0 { now := 0 }, .advance 0 { now := 0 },
    .call (.session .startSession), .advance 0 { now := 0 }, .advance 0 { now := 0 },
    .call (.session (.tick false)),
    .advance 0 { now := 0, outcome := .processed ⟨1000, 0, none, none⟩ none },
    .advance 0 { now := 0 }]

def next (position : ℕ) (minutes : Instant) : Move WatchedCall WatchedAnswer :=
  .advance position { now := minutes * MINUTE_MS }

/-- A tick fails beside a recovery, and its retry succeeds. The recovery waits for its last write
while the session is paused and resumed, until the watchdog finds no tick for too long. -/
def failedMoves : List (Move WatchedCall WatchedAnswer) :=
  [.call (.watchdog (11 * MINUTE_MS)), .call (.session (.tick false)), next 0 11, next 0 11,
    .advance 1 { now := 11 * MINUTE_MS, outcome := .recoverable }, next 1 11, next 0 11, next 1 11,
    next 1 11, next 1 11, next 1 11, .advance 1 { now := 11 * MINUTE_MS, retryDelay := MINUTE_MS },
    .call (.session .retryTick),
    .advance 1 { now := 13 * MINUTE_MS, outcome := .processed ⟨1000, 0, none, none⟩ none },
    next 1 13, next 1 13, .call (.session (.command .pause)), next 1 13, next 0 13, next 1 13,
    next 1 13, next 1 13, .call (.session (.command .resume)), next 1 14, next 1 14, next 1 14,
    .call (.watchdog (34 * MINUTE_MS)), next 1 34]

theorem watchdog_escalates_failed :
    let config : PaperTradingConfig := { maxConsecutiveErrors := 1 }
    let pool := (watchedProgram config).run (watchedSession 1000 0) (tickedMoves ++ failedMoves)
    pool.shared.sessions.row.status = .failed ∧ pool.shared.ticks = [13 * MINUTE_MS, 0] ∧
      pool.shared.watches.map (·.verdict) = [.fail, .requeue] ∧
      Escalates pool.shared ∧ FailsNext config pool := by
  intro config pool
  have hundisturbed : (watchedProgram config).AllMeet Undisturbed (watchedSession 1000 0)
      (tickedMoves ++ failedMoves) := by decide +kernel
  obtain ⟨hescalates, hfails⟩ :=
    watchdog_escalates config 1000 0 pool (Program.reached_run hundisturbed)
  exact ⟨by decide +kernel, by decide +kernel, by decide +kernel, hescalates, hfails⟩

def recoveredMoves : List (Move WatchedCall WatchedAnswer) :=
  [.call (.watchdog (11 * MINUTE_MS)), .advance 0 { now := 11 * MINUTE_MS },
    .advance 0 { now := 11 * MINUTE_MS }, .advance 0 { now := 11 * MINUTE_MS },
    .advance 0 { now := 11 * MINUTE_MS }, .call (.watchdog (22 * MINUTE_MS))]

/-- **A recovery writes the heartbeat: 22 minutes after its only tick the session is active and is
re-queued again.** -/
theorem recovery_refreshes :
    let s := ((watchedProgram {}).run (watchedSession 1000 0) (tickedMoves ++ recoveredMoves)).shared
    s.ticks = [0] ∧ s.sessions.row.status = .active ∧
      s.watches.map (fun w => (w.now, w.verdict)) =
        [(22 * MINUTE_MS, .requeue), (11 * MINUTE_MS, .requeue)] ∧
      ¬ Escalates s := by
  refine ⟨rfl, rfl, by decide +kernel, fun h => ?_⟩
  have hbeat : 11 * MINUTE_MS ∈ ([0] : List Instant) := h.heartbeat _ rfl
  exact absurd hbeat (by decide)

end Chansey.PaperSession
