import Chansey.Notification.Digest

/-!
# A list has a job

* **`Watched.step`**: a step that is spared leaves no list unseen.
-/

namespace Chansey.Digest

open Remote

/-- The worker of the job will drain the list. If its process has ended, the lock that it left runs
out, and the job waits again. -/
def Flushes (s : Digest) (job : FlushJob) : Prop :=
  match job.state with
  | .delayed | .waiting => True
  | .active worker lock =>
    s.tasks worker = some .draining ∨ s.tasks worker = none ∧ lock = .worker worker
  | .completed | .failed => False

/-- A call of `enqueue` has put its event into the list, and is at the job. -/
def Arming (s : Digest) (number : ℕ) : Prop :=
  ∃ phase pushedAt, s.tasks number = some (.arming phase pushedAt)

/-- The job of the bucket is waiting, delayed or active. -/
def JobStands (s : Digest) : Prop :=
  ∃ job, s.job = some job ∧ job.state ≠ .completed ∧ job.state ≠ .failed

/-! ## The steps that are spared -/

variable (bucket : DigestBucket)

def HALF_SAFETY_MS : ℤ := SAFETY_TTL_EXTENSION_MS / 2

/-- There is nothing to flush, or a job or another call of `enqueue` than `number` sees to it. -/
def Covered (s : Digest) (number : ℕ) : Prop :=
  s.pending = [] ∨ (∃ job, s.job = some job ∧ s.Flushes job) ∨
    ∃ other, other ≠ number ∧ s.Arming other

/-- There is nothing to flush, or a call of `enqueue` sees to it, or the job does, also when the
worker `number` is lost; `again` says what is left of a job that it holds. -/
def Outlasts (s : Digest) (number : ℕ) (again : FlushJob → Prop) : Prop :=
  s.pending = [] ∨ (∃ other, s.Arming other) ∨ ∃ job, s.job = some job ∧ s.Flushes job ∧
    ∀ lock, job.state = .active number lock → lock = .worker number ∧ again job

def PhaseSpared (s : Digest) (number : ℕ) (fate : Fate String) : ArmingPhase → Prop
  | .getting | .finding => fate ≠ .answered → s.Covered number
  | .adding => fate.reached = false ∨ s.job.isSome → s.Covered number
  | .changing | .removing | .locking | .failing | .removingFailed => True

def TaskSpared (s : Digest) (number : ℕ) (fate : Fate String) : DigestTask → Prop
  | .pushing _ => ∀ error, fate = .lost error →
      (∃ job, s.job = some job ∧ s.Flushes job) ∨ ∃ other, other ≠ number ∧ s.Arming other
  | .arming phase _ => s.PhaseSpared number fate phase
  | .draining => match fate with
    | .answered => True
    | .lost _ => s.pending = []
    | .refused _ => s.Outlasts number fun job => job.attemptsMade + 1 < FLUSH_ATTEMPTS
  | .sending _ => fate.reached = true
  | .finishing => True

/-- **No call is lost that the events of the list depend on**, and no call and no flush comes so late
that the list expires. -/
def Spared (s : Digest) : DigestEvent → Prop
  | .pass ms =>
    (∀ number phase pushedAt, s.tasks number = some (.arming phase pushedAt) →
      s.now + ms ≤ pushedAt + HALF_SAFETY_MS) ∧
    (s.pending ≠ [] → ∀ job, s.job = some job → s.Flushes job → s.now + ms < job.due + HALF_SAFETY_MS)
  | .enqueue _ => True
  | .take => True
  | .advance number fate => ∀ task, s.tasks number = some task → s.TaskSpared number fate task
  | .crash number => ∀ task, s.tasks number = some task →
      match task with
      | .pushing _ => True
      | .arming _ _ => s.Covered number
      | .draining => s.Outlasts number fun _ => True
      | .sending _ => False
      | .finishing => True
  | .stall fails => fails = true → s.pending = [] ∨ ∃ number, s.Arming number

/-! ## The invariant -/

/-- The job is due within the debounce, and its worker has started. -/
def SoundJob (s : Digest) : Prop :=
  ∀ job, s.job = some job → job.due ≤ s.now + delayMs bucket ∧
    ∀ worker lock, job.state = .active worker lock → worker < s.started

/-- Who sees to a list that is not empty, in time. -/
structure Watched (s : Digest) : Prop where
  fresh : ∀ number, s.started ≤ number → s.tasks number = none
  job : s.SoundJob bucket
  pushed : ∀ number phase pushedAt, s.tasks number = some (.arming phase pushedAt) →
    pushedAt ≤ s.now ∧ s.now ≤ pushedAt + HALF_SAFETY_MS ∧
      ∀ e ∈ s.expiresAt, pushedAt + delayMs bucket + SAFETY_TTL_EXTENSION_MS ≤ e
  covered : s.pending ≠ [] →
    (∃ job, s.job = some job ∧ s.Flushes job ∧ ∀ e ∈ s.expiresAt, job.due + HALF_SAFETY_MS ≤ e) ∨
      ∃ number, s.Arming number

section Steps

variable {bucket} {s t : Digest} {number : ℕ} {task : Option DigestTask} {job : FlushJob}

theorem two_half_safety : HALF_SAFETY_MS + HALF_SAFETY_MS = SAFETY_TTL_EXTENSION_MS := by decide

theorem Flushes.jobStands (h : s.Flushes job) (hjob : s.job = some job) : s.JobStands := by
  refine ⟨job, hjob, ?_, ?_⟩
  all_goals
    intro hstate
    simp [Flushes, hstate] at h

theorem Watched.inTime (h : Watched bucket s) (hpend : s.pending ≠ []) (hjob : s.job = some job) :
    ∀ e ∈ s.expiresAt, job.due + HALF_SAFETY_MS ≤ e := by
  intro e he
  rcases h.covered hpend with ⟨job', hjob', -, hle⟩ | ⟨number, phase, pushedAt, htask⟩
  · obtain rfl : job = job' := Option.some_inj.mp (hjob.symm.trans hjob')
    exact hle e he
  · obtain ⟨-, _, hexpi⟩ := h.pushed number phase pushedAt htask
    have hdue := (h.job job hjob).1
    have hend := hexpi e he
    have htwo := two_half_safety
    linarith

/-! ### What a step changes -/

theorem Flushes.update (h : s.Flushes job) (htasks : t.tasks = Function.update s.tasks number task)
    (hwork : ∀ lock, job.state = .active number lock →
      task = some .draining ∨ task = none ∧ lock = .worker number) : t.Flushes job := by
  unfold Flushes at h ⊢
  cases hstate : job.state with
  | delayed | waiting => trivial
  | active worker lock =>
    rw [hstate] at h
    show t.tasks worker = some .draining ∨ t.tasks worker = none ∧ lock = .worker worker
    rw [htasks]
    by_cases hnum : worker = number
    · subst hnum
      rw [Function.update_self]
      exact hwork lock hstate
    · rw [Function.update_of_ne hnum]
      exact h
  | completed | failed =>
    rw [hstate] at h
    exact h.elim

variable {old : DigestTask} {fate : Fate String}

theorem Flushes.update_other (h : s.Flushes job)
    (htasks : t.tasks = Function.update s.tasks number task) (hold : s.tasks number = some old)
    (hdraining : old ≠ .draining) : t.Flushes job := by
  refine h.update htasks fun lock hstate => ?_
  unfold Flushes at h
  rw [hstate] at h
  rcases h with htask | ⟨htask, -⟩
  · exact absurd (Option.some_inj.mp (hold.symm.trans htask)) hdraining
  · cases hold.symm.trans htask

theorem Arming.update (h : s.Arming number) {number' : ℕ} (hne : number ≠ number')
    (htasks : t.tasks = Function.update s.tasks number' task) : t.Arming number := by
  obtain ⟨phase, pushedAt, htask⟩ := h
  exact ⟨phase, pushedAt, by rw [htasks, Function.update_of_ne hne, htask]⟩

theorem Watched.update (h : Watched bucket s) (hnow : t.now = s.now)
    (hstd : s.started ≤ t.started) (hnum : number < t.started)
    (htasks : t.tasks = Function.update s.tasks number task) (hjob : t.SoundJob bucket)
    (hexpi : ∀ e ∈ t.expiresAt,
      e ∈ s.expiresAt ∨ e = s.now + delayMs bucket + SAFETY_TTL_EXTENSION_MS)
    (hpushed : ∀ phase pushedAt, task = some (.arming phase pushedAt) →
      (∃ phase', s.tasks number = some (.arming phase' pushedAt)) ∨
        pushedAt = s.now ∧ t.expiresAt = some (s.now + delayMs bucket + SAFETY_TTL_EXTENSION_MS))
    (hcovered : t.pending ≠ [] →
      (∃ job, t.job = some job ∧ t.Flushes job ∧
        ∀ e ∈ t.expiresAt, job.due + HALF_SAFETY_MS ≤ e) ∨ ∃ number, t.Arming number) :
    Watched bucket t := by
  have hold : ∀ {number' phase pushedAt}, s.tasks number' = some (.arming phase pushedAt) →
      pushedAt ≤ t.now ∧ t.now ≤ pushedAt + HALF_SAFETY_MS ∧
        ∀ e ∈ t.expiresAt, pushedAt + delayMs bucket + SAFETY_TTL_EXTENSION_MS ≤ e := by
    intro number' phase pushedAt htask
    obtain ⟨hle, hnow', hend⟩ := h.pushed number' phase pushedAt htask
    rw [hnow]
    refine ⟨hle, hnow', fun e he => ?_⟩
    rcases hexpi e he with hbef | rfl
    · exact hend e hbef
    · linarith
  refine ⟨fun number' hfresh => ?_, hjob, fun number' phase pushedAt htask => ?_, hcovered⟩
  · rw [htasks, Function.update_of_ne (by omega)]
    exact h.fresh number' (hstd.trans hfresh)
  · rw [htasks] at htask
    by_cases hsame : number' = number
    · subst hsame
      rw [Function.update_self] at htask
      rcases hpushed phase pushedAt htask with ⟨_, hbef⟩ | ⟨rfl, hend⟩
      · exact hold hbef
      · rw [hnow, hend]
        have hhalf : 0 ≤ HALF_SAFETY_MS := by decide
        refine ⟨le_rfl, by linarith, fun e he => ?_⟩
        exact (Option.mem_some_iff.mp he).le
    · rw [Function.update_of_ne hsame] at htask
      exact hold htask

/-! ### A call of `enqueue` at the job -/

/-- What a call of `enqueue` may do at the job: it goes on, it has seen to the job, or it gives up. -/
inductive Arms (bucket : DigestBucket) (s : Digest) (number : ℕ) (pushedAt : Instant) :
    Digest → Prop
  | goesOn (job : Option FlushJob) (phase : ArmingPhase)
      (hjob : SoundJob bucket { s with job := job }) :
      Arms bucket s number pushedAt ({ s with job := job }.goTo number phase pushedAt)
  | armed (job : FlushJob) (hstate : job.state = .delayed)
      (hdue : job.due = s.now + delayMs bucket) :
      Arms bucket s number pushedAt ({ s with job := some job }.finish number)
  | gaveUp (hcovered : s.Covered number) : Arms bucket s number pushedAt (s.finish number)

theorem SoundJob.none : SoundJob bucket { s with job := none } := by
  intro job hjob
  cases hjob

theorem SoundJob.delayed (hstate : job.state = .delayed) (hdue : job.due = s.now + delayMs bucket) :
    SoundJob bucket { s with job := some job } := by
  intro job' hjob'
  cases hjob'
  refine ⟨hdue.le, fun worker lock hact => ?_⟩
  cases hstate.symm.trans hact

theorem changeDelay_some (h : s.changeDelay bucket = some t) :
    ∃ job : FlushJob, job.state = .delayed ∧ job.due = s.now + delayMs bucket ∧
      t = { s with job := some job } := by
  unfold changeDelay at h
  cases hjob : s.job with
  | none => simp [hjob] at h
  | some job =>
    simp only [hjob] at h
    split_ifs at h with hstate
    cases h
    exact ⟨{ job with due := s.now + delayMs bucket, readyAt := s.now + delayMs bucket }, hstate, rfl,
      rfl⟩

theorem removeJob_some (h : s.removeJob = some t) : t = { s with job := none } := by
  unfold removeJob at h
  split_ifs at h
  exact (Option.some_inj.mp h).symm

theorem replaceLock_eq (h : s.SoundJob bucket) (number : ℕ) :
    ∃ job, SoundJob bucket { s with job := job } ∧ s.replaceLock number = { s with job := job } := by
  unfold replaceLock
  cases hjob : s.job with
  | none => exact ⟨s.job, h, rfl⟩
  | some job =>
    dsimp only
    cases hstate : job.state with
    | active worker lock =>
      refine ⟨some { job with state := .active worker (.recovery number) }, ?_, rfl⟩
      intro job' hjob'
      cases hjob'
      refine ⟨(h job hjob).1, fun worker' lock' hact => ?_⟩
      obtain ⟨rfl, -⟩ := FlushJobState.active.inj hact
      exact (h job hjob).2 worker lock hstate
    | _ => exact ⟨s.job, h, rfl⟩

theorem moveToFailed_some (h : s.SoundJob bucket) (hmoved : s.moveToFailed number = some t) :
    ∃ job, SoundJob bucket { s with job := job } ∧ t = { s with job := job } := by
  unfold moveToFailed at hmoved
  cases hjob : s.job with
  | none => simp [hjob] at hmoved
  | some job =>
    simp only [hjob] at hmoved
    cases hstate : job.state with
    | active worker lock =>
      cases lock with
      | recovery =>
        simp only [hstate] at hmoved
        split_ifs at hmoved
        cases hmoved
        refine ⟨some { job with state := .failed }, ?_, rfl⟩
        intro job' hjob'
        cases hjob'
        refine ⟨(h job hjob).1, fun worker' lock' hact => ?_⟩
        cases hact
      | worker => simp [hstate] at hmoved
    | _ => simp [hstate] at hmoved

/-- **A call of `enqueue`, from one call to the next.** -/
theorem arms_arm (h : s.SoundJob bucket) {phase : ArmingPhase} {pushedAt : Instant}
    (hspar : s.PhaseSpared number fate phase) :
    Arms bucket s number pushedAt (s.arm bucket number fate pushedAt phase) := by
  have hstays : ∀ phase', Arms bucket s number pushedAt (s.goTo number phase' pushedAt) :=
    fun phase' => .goesOn s.job phase' h
  cases phase with
  | getting | finding =>
    dsimp only [arm]
    by_cases hfate : fate = .answered
    · rw [if_neg (not_not.mpr hfate)]
      exact hstays _
    · rw [if_pos hfate]
      exact .gaveUp (hspar hfate)
  | changing =>
    dsimp only [arm]
    cases hchange : s.changeDelay bucket with
    | none => cases fate <;> exact hstays .finding
    | some =>
      obtain ⟨job, hstate, hdue, rfl⟩ := changeDelay_some hchange
      cases fate with
      | answered => exact .armed job hstate hdue
      | lost => exact .goesOn (some job) .finding (.delayed hstate hdue)
      | refused => exact hstays .finding
  | removing =>
    dsimp only [arm]
    cases hremove : s.removeJob with
    | none => cases fate <;> exact hstays .locking
    | some =>
      obtain rfl := removeJob_some hremove
      cases fate with
      | answered => exact .goesOn none .adding .none
      | lost => exact .goesOn none .locking .none
      | refused => exact hstays .locking
  | locking =>
    obtain ⟨job, hjob, hlocked⟩ := replaceLock_eq h number
    dsimp only [arm]
    rw [hlocked]
    cases fate with
    | answered => exact .goesOn job .failing hjob
    | lost => exact .goesOn job .adding hjob
    | refused => exact hstays .adding
  | failing =>
    dsimp only [arm]
    cases hmove : s.moveToFailed number with
    | none => cases fate <;> exact hstays .adding
    | some =>
      obtain ⟨job, hjob, rfl⟩ := moveToFailed_some h hmove
      cases fate with
      | answered => exact .goesOn job .removingFailed hjob
      | lost => exact .goesOn job .adding hjob
      | refused => exact hstays .adding
  | removingFailed =>
    dsimp only [arm]
    split_ifs with hrch
    · cases hremove : s.removeJob with
      | none => exact hstays .adding
      | some =>
        obtain rfl := removeJob_some hremove
        exact .goesOn none .adding .none
    · exact hstays .adding
  | adding =>
    dsimp only [arm]
    split_ifs with hrch
    · unfold addJob
      cases hjob : s.job with
      | none => exact .armed (newJob bucket s) rfl rfl
      | some => exact .gaveUp (hspar (.inr (by rw [hjob]; rfl)))
    · exact .gaveUp (hspar (.inl (Bool.eq_false_iff.mpr hrch)))

theorem Covered.update (h : s.Covered number) (hwat : Watched bucket s)
    (hold : s.tasks number = some old) (hdraining : old ≠ .draining)
    (htasks : t.tasks = Function.update s.tasks number task) (hjob : t.job = s.job)
    (hexpi : t.expiresAt = s.expiresAt) (hpend : s.pending ≠ []) :
    (∃ job, t.job = some job ∧ t.Flushes job ∧ ∀ e ∈ t.expiresAt, job.due + HALF_SAFETY_MS ≤ e) ∨
      ∃ number', t.Arming number' := by
  rw [hjob, hexpi]
  rcases h with hnone | ⟨job, hjob', hflush⟩ | ⟨other, hother, harm⟩
  · exact absurd hnone hpend
  · exact .inl ⟨job, hjob', hflush.update_other htasks hold hdraining, hwat.inTime hpend hjob'⟩
  · exact .inr ⟨other, harm.update hother htasks⟩

theorem Watched.covered_others (h : Watched bucket s) (hold : s.tasks number = some old)
    (harm : ∀ phase pushedAt, old ≠ .arming phase pushedAt) : s.Covered number := by
  by_cases hpend : s.pending = []
  · exact .inl hpend
  rcases h.covered hpend with ⟨job, hjob, hflush, -⟩ | ⟨other, phase, pushedAt, htask⟩
  · exact .inr (.inl ⟨job, hjob, hflush⟩)
  · refine .inr (.inr ⟨other, ?_, phase, pushedAt, htask⟩)
    rintro rfl
    exact harm phase pushedAt (Option.some_inj.mp (hold.symm.trans htask))

theorem Watched.lt_started (h : Watched bucket s) (hold : s.tasks number = some old) :
    number < s.started := by
  by_contra hle
  cases hold.symm.trans (h.fresh number (not_lt.mp hle))

theorem Watched.arms (h : Watched bucket s) {phase : ArmingPhase} {pushedAt : Instant}
    (htask : s.tasks number = some (.arming phase pushedAt)) (harms : Arms bucket s number pushedAt t) :
    Watched bucket t := by
  have hlt := h.lt_started htask
  cases harms with
  | goesOn job phase' hjob =>
    refine h.update rfl le_rfl hlt rfl hjob (fun e he => .inl he) ?_ fun _ => ?_
    · intro phase'' pushedAt' heq
      obtain ⟨-, rfl⟩ := DigestTask.arming.inj (Option.some_inj.mp heq)
      exact .inl ⟨phase, htask⟩
    · exact .inr ⟨number, phase', pushedAt, Function.update_self _ _ _⟩
  | armed job hstate hdue =>
    refine h.update rfl le_rfl hlt rfl (SoundJob.delayed hstate hdue) (fun e he => .inl he)
      (fun _ _ heq => by cases heq) fun _ => .inl ⟨job, rfl, ?_, fun e he => ?_⟩
    · simp [Flushes, hstate]
    · obtain ⟨-, _, hend⟩ := h.pushed number phase pushedAt htask
      have hle := hend e he
      have htwo := two_half_safety
      rw [hdue]
      linarith
  | gaveUp hcovered =>
    exact h.update rfl le_rfl hlt rfl h.job (fun e he => .inl he) (fun _ _ heq => by cases heq)
      (hcovered.update h htask (by simp) rfl rfl rfl)

/-! ### The other tasks -/

theorem Watched.pushing (h : Watched bucket s) {entry : DigestEntry}
    (htask : s.tasks number = some (.pushing entry))
    (hspar : s.TaskSpared number fate (.pushing entry)) :
    Watched bucket (s.advance bucket number fate (.pushing entry)) := by
  have hlt := h.lt_started htask
  cases fate with
  | answered =>
    refine h.update rfl le_rfl hlt rfl h.job (fun e he => .inr (Option.mem_some_iff.mp he).symm) ?_
      fun _ => .inr ⟨number, .getting, s.now, Function.update_self _ _ _⟩
    intro phase pushedAt heq
    obtain ⟨-, rfl⟩ := DigestTask.arming.inj (Option.some_inj.mp heq)
    exact .inr ⟨rfl, rfl⟩
  | lost error =>
    refine h.update rfl le_rfl hlt rfl h.job (fun e he => .inr (Option.mem_some_iff.mp he).symm)
      (fun _ _ heq => by cases heq) fun _ => ?_
    rcases hspar error rfl with ⟨job, hjob, hflush⟩ | ⟨other, hother, harm⟩
    · refine .inl ⟨job, hjob, hflush.update_other rfl htask (by simp), fun e he => ?_⟩
      have hdue := (h.job job hjob).1
      have hend : s.now + delayMs bucket + SAFETY_TTL_EXTENSION_MS = e := Option.mem_some_iff.mp he
      have htwo := two_half_safety
      have hhalf : 0 ≤ HALF_SAFETY_MS := by decide
      linarith
    · exact .inr ⟨other, harm.update hother rfl⟩
  | refused =>
    exact h.update rfl le_rfl hlt rfl h.job (fun e he => .inl he) (fun _ _ heq => by cases heq)
      ((h.covered_others htask (by simp)).update h htask (by simp) rfl rfl rfl)

theorem report_cases (s : Digest) (number : ℕ) (f : FlushJob → FlushJob) :
    (s.report number f = s ∧
      ∀ job, s.job = some job → job.state ≠ .active number (.worker number)) ∨
    ∃ job, s.job = some job ∧ job.state = .active number (.worker number) ∧
      s.report number f = { s with job := some (f job) } := by
  unfold report
  cases hjob : s.job with
  | none => exact .inl ⟨rfl, fun job hjob' => by cases hjob'⟩
  | some job =>
    dsimp only
    split_ifs with hstate
    · exact .inr ⟨job, rfl, hstate, rfl⟩
    · refine .inl ⟨rfl, fun job' hjob' => ?_⟩
      cases hjob'
      exact hstate

theorem SoundJob.report (h : s.SoundJob bucket) (number : ℕ) {f : FlushJob → FlushJob}
    (hdue : ∀ job, (f job).due = job.due) (hact : ∀ job, (f job).state.isActive = false) :
    ∃ job, s.report number f = { s with job := job } ∧ SoundJob bucket { s with job := job } := by
  rcases report_cases s number f with ⟨hsame, -⟩ | ⟨job, hjob, -, hrepd⟩
  · exact ⟨s.job, hsame, h⟩
  · refine ⟨some (f job), hrepd, ?_⟩
    intro job' hjob'
    cases hjob'
    refine ⟨(hdue job).trans_le (h job hjob).1, fun worker lock hstate => ?_⟩
    have hno := hact job
    rw [hstate] at hno
    cases hno

@[simp] theorem retried_due (s : Digest) (job : FlushJob) : (s.retried job).due = job.due := by
  unfold retried
  split_ifs <;> rfl

@[simp] theorem retried_isActive (s : Digest) (job : FlushJob) :
    (s.retried job).state.isActive = false := by
  unfold retried
  split_ifs <;> rfl

section

variable (h : Watched bucket s)

include h

theorem Watched.drained (hlt : number < s.started) (hnow : t.now = s.now)
    (hstd : t.started = s.started) (htasks : t.tasks = Function.update s.tasks number task)
    (hjob : t.SoundJob bucket) (hexpi : t.expiresAt = none) (hpend : t.pending = [])
    (harm : ∀ phase pushedAt, task ≠ some (.arming phase pushedAt)) : Watched bucket t := by
  refine h.update hnow hstd.ge (hstd ▸ hlt) htasks hjob (fun e he => ?_)
    (fun phase pushedAt heq => absurd heq (harm phase pushedAt)) fun hne => absurd hpend hne
  rw [hexpi] at he
  cases he

theorem Outlasts.refused (htask : s.tasks number = some .draining)
    (houtlasts : s.Outlasts number fun job => job.attemptsMade + 1 < FLUSH_ATTEMPTS) :
    Watched bucket ((s.report number s.retried).finish number) := by
  have hlt := h.lt_started htask
  obtain ⟨after, hrep, hsound⟩ := h.job.report number (retried_due s) (retried_isActive s)
  rw [hrep]
  refine h.update rfl le_rfl hlt rfl hsound (fun e he => .inl he) (fun _ _ heq => by cases heq)
    fun hpend => ?_
  rcases houtlasts with hnone | ⟨other, harm⟩ | ⟨job, hjob, hflush, hagain⟩
  · exact absurd hnone hpend
  · have hother : other ≠ number := by
      rintro rfl
      obtain ⟨_, _, harm⟩ := harm
      cases htask.symm.trans harm
    exact .inr ⟨other, harm.update hother rfl⟩
  · refine .inl ?_
    rcases report_cases s number s.retried with ⟨hsame, hnot⟩ | ⟨job', hjob', hstate, hretr⟩
    · have hafter : after = s.job := congrArg Digest.job (hrep.symm.trans hsame)
      refine ⟨job, hafter.trans hjob, hflush.update rfl fun lock hact => ?_, h.inTime hpend hjob⟩
      obtain ⟨rfl, -⟩ := hagain lock hact
      exact absurd hact (hnot job hjob)
    · have hafter : after = some (s.retried job') := congrArg Digest.job (hrep.symm.trans hretr)
      obtain rfl : job' = job := Option.some_inj.mp (hjob'.symm.trans hjob)
      have hdelayed : (s.retried job').state = .delayed := by
        rw [retried, if_pos (hagain _ hstate).2]
      refine ⟨s.retried job', hafter, ?_, ?_⟩
      · simp [Flushes, hdelayed]
      · rw [retried_due]
        exact h.inTime hpend hjob

theorem Outlasts.crash (htask : s.tasks number = some .draining)
    (houtlasts : s.Outlasts number fun _ => True) : Watched bucket (s.finish number) := by
  refine h.update rfl le_rfl (h.lt_started htask) rfl h.job (fun e he => .inl he)
    (fun _ _ heq => by cases heq) fun hpend => ?_
  rcases houtlasts with hnone | ⟨other, harm⟩ | ⟨job, hjob, hflush, hagain⟩
  · exact absurd hnone hpend
  · have hother : other ≠ number := by
      rintro rfl
      obtain ⟨_, _, harm⟩ := harm
      cases htask.symm.trans harm
    exact .inr ⟨other, harm.update hother rfl⟩
  · refine .inl ⟨job, hjob, hflush.update rfl fun lock hact => ?_, h.inTime hpend hjob⟩
    exact .inr ⟨rfl, (hagain lock hact).1⟩

theorem Watched.draining (htask : s.tasks number = some .draining)
    (hspar : s.TaskSpared number fate .draining) :
    Watched bucket (s.advance bucket number fate .draining) := by
  have hlt := h.lt_started htask
  cases fate with
  | answered =>
    dsimp only [advance]
    split_ifs with hpend
    all_goals exact h.drained hlt rfl rfl rfl h.job rfl rfl (by simp)
  | lost =>
    have hsound : s.drain.SoundJob bucket := h.job
    obtain ⟨_, hrep, hafter⟩ := hsound.report number (retried_due s) (retried_isActive s)
    dsimp only [advance]
    rw [hrep]
    exact h.drained hlt rfl rfl rfl hafter rfl rfl (by simp)
  | refused => exact Outlasts.refused h htask hspar

theorem Watched.sending {index : ℕ} (htask : s.tasks number = some (.sending index)) :
    Watched bucket (s.advance bucket number fate (.sending index)) := by
  have hcovered := h.covered_others htask (by simp)
  dsimp only [advance]
  split_ifs with hrch
  all_goals
    exact h.update rfl le_rfl (h.lt_started htask) rfl h.job (fun e he => .inl he)
      (fun _ _ heq => by cases heq) (hcovered.update h htask (by simp) rfl rfl rfl)

theorem Watched.finishing (htask : s.tasks number = some .finishing) :
    Watched bucket (s.advance bucket number fate .finishing) := by
  have hlt := h.lt_started htask
  have hcovered := h.covered_others htask (by simp)
  dsimp only [advance]
  split_ifs with hrch
  · obtain ⟨_, hrep, hsound⟩ := h.job.report number
      (f := fun job => { job with state := .completed }) (fun _ => rfl) fun _ => rfl
    rcases report_cases s number fun job => { job with state := .completed } with
      ⟨hsame, -⟩ | ⟨job, hjob, hstate, hrepd⟩
    · rw [hsame]
      exact h.update rfl le_rfl hlt rfl h.job (fun e he => .inl he)
        (fun _ _ heq => by cases heq) (hcovered.update h htask (by simp) rfl rfl rfl)
    · rw [hrep]
      refine h.update rfl le_rfl hlt rfl hsound (fun e he => .inl he)
        (fun _ _ heq => by cases heq) fun hpend => ?_
      rcases hcovered with hnone | ⟨job', hjob', hflush⟩ | ⟨other, hother, harm⟩
      · exact absurd hnone hpend
      · -- a worker that finishes its own job has drained the list
        obtain rfl : job' = job := Option.some_inj.mp (hjob'.symm.trans hjob)
        unfold Flushes at hflush
        rw [hstate] at hflush
        rcases hflush with hdraining | ⟨hended, -⟩
        · cases htask.symm.trans hdraining
        · cases htask.symm.trans hended
      · exact .inr ⟨other, harm.update hother rfl⟩
  · exact h.update rfl le_rfl hlt rfl h.job (fun e he => .inl he)
      (fun _ _ heq => by cases heq) (hcovered.update h htask (by simp) rfl rfl rfl)

end

/-! ### Time, and the workers -/

section

variable (h : Watched bucket s) {ms : ℕ} (hspar : s.Spared (.pass ms))

include h hspar

theorem Watched.not_expired (hpend : s.pending ≠ []) : ∀ e ∈ s.expiresAt, s.now + ms < e := by
  intro e he
  rcases h.covered hpend with ⟨job, hjob, hflush, hend⟩ | ⟨number, phase, pushedAt, htask⟩
  · have hlate := hspar.2 hpend job hjob hflush
    have hle := hend e he
    linarith
  · have hlate := hspar.1 number phase pushedAt htask
    have hle := (h.pushed number phase pushedAt htask).2.2 e he
    have hdelay : 0 ≤ delayMs bucket := by cases bucket <;> decide
    have htwo := two_half_safety
    have hhalf : 0 < HALF_SAFETY_MS := by decide
    linarith

theorem Watched.pass_eq :
    (s.pass ms).pending = s.pending ∧
      s.pass ms = { s with now := s.now + ms, expiresAt := (s.pass ms).expiresAt } ∧
        ∀ e ∈ (s.pass ms).expiresAt, e ∈ s.expiresAt := by
  unfold pass
  split_ifs with hexpired
  · have hempty : s.pending = [] := by
      by_contra hpend
      cases hend : s.expiresAt with
      | none => simp [hend] at hexpired
      | some e =>
        rw [hend, Option.any_some, decide_eq_true_eq] at hexpired
        exact absurd (h.not_expired hspar hpend e hend) (not_lt.mpr hexpired)
    refine ⟨hempty.symm, ?_, fun e he => by cases he⟩
    simp [hempty]
  · exact ⟨rfl, rfl, fun e he => he⟩

theorem Watched.pass : Watched bucket (s.pass ms) := by
  obtain ⟨-, hpass, hexpi⟩ := h.pass_eq hspar
  rw [hpass]
  refine ⟨h.fresh, fun job hjob => ?_, fun number phase pushedAt htask => ?_, fun hpend => ?_⟩
  · obtain ⟨_, hwork⟩ := h.job job hjob
    refine ⟨?_, hwork⟩
    show job.due ≤ s.now + ms + delayMs bucket
    have hms : (0 : ℤ) ≤ ms := Int.natCast_nonneg ms
    linarith
  · obtain ⟨_, -, hend⟩ := h.pushed number phase pushedAt htask
    refine ⟨?_, hspar.1 number phase pushedAt htask, fun e he => hend e (hexpi e he)⟩
    show pushedAt ≤ s.now + ms
    have hms : (0 : ℤ) ≤ ms := Int.natCast_nonneg ms
    linarith
  · rcases h.covered hpend with ⟨job, hjob, hflush, hend⟩ | harm
    · exact .inl ⟨job, hjob, hflush, fun e he => hend e (hexpi e he)⟩
    · exact .inr harm

end

theorem Watched.start (h : Watched bucket s) {task : DigestTask} (hjob : t.SoundJob bucket)
    (hnow : t.now = s.now) (hstd : t.started = s.started + 1)
    (htasks : t.tasks = Function.update s.tasks s.started (some task))
    (hexpi : t.expiresAt = s.expiresAt) (hpend : t.pending = s.pending)
    (htask : ∀ phase pushedAt, task ≠ .arming phase pushedAt)
    (hflushes : ∀ job, s.job = some job → s.Flushes job →
      ∃ job', t.job = some job' ∧ t.Flushes job' ∧ job'.due = job.due) : Watched bucket t := by
  have hlt : s.started < t.started := by omega
  refine h.update hnow hlt.le hlt htasks hjob (fun e he => .inl (hexpi ▸ he))
    (fun phase pushedAt heq => absurd (Option.some_inj.mp heq) (htask phase pushedAt))
    fun hne => ?_
  rcases h.covered (hpend ▸ hne) with ⟨job, hjob, hflush, hend⟩ | ⟨number, harm⟩
  · obtain ⟨job', hjob', hflush', hdue⟩ := hflushes job hjob hflush
    refine .inl ⟨job', hjob', hflush', fun e he => ?_⟩
    rw [hdue]
    exact hend e (hexpi ▸ he)
  · have hne' : number ≠ s.started := by
      rintro rfl
      obtain ⟨_, _, harm⟩ := harm
      cases harm.symm.trans (h.fresh s.started le_rfl)
    exact .inr ⟨number, harm.update hne' htasks⟩

theorem SoundJob.worker_ne (h : s.SoundJob bucket) (hjob : s.job = some job) {lock : JobLock} :
    job.state ≠ .active s.started lock :=
  fun hstate => absurd ((h job hjob).2 s.started lock hstate) (lt_irrefl _)

theorem Watched.enqueue (h : Watched bucket s) (entry : DigestEntry) :
    Watched bucket (s.start (.pushing entry)) := by
  refine h.start (fun job hjob => ?_) rfl rfl rfl rfl rfl (by simp) fun job hjob hflush => ?_
  · exact ⟨(h.job job hjob).1,
      fun worker lock hstate => Nat.lt_succ_of_lt ((h.job job hjob).2 worker lock hstate)⟩
  · refine ⟨job, hjob, hflush.update rfl fun lock hstate => ?_, rfl⟩
    exact absurd hstate (h.job.worker_ne hjob)

theorem Watched.take (h : Watched bucket s) : Watched bucket s.take := by
  unfold Digest.take
  cases hjob : s.job with
  | none => exact h
  | some job =>
    dsimp only
    split_ifs with hready
    · refine h.start (fun job' hjob' => ?_) rfl rfl rfl rfl rfl (by simp)
        fun job' hjob' hflush => ?_
      · cases hjob'
        refine ⟨(h.job job hjob).1, fun worker lock hstate => ?_⟩
        obtain ⟨rfl, -⟩ := FlushJobState.active.inj hstate
        exact Nat.lt_succ_self _
      · obtain rfl : job = job' := Option.some_inj.mp (hjob.symm.trans hjob')
        exact ⟨_, rfl, .inl (Function.update_self _ _ _), rfl⟩
    · exact h

theorem Watched.stall (h : Watched bucket s) {fails : Bool} (hspar : s.Spared (.stall fails)) :
    Watched bucket (s.stall fails) := by
  unfold Digest.stall
  cases hjob : s.job with
  | none => exact h
  | some job =>
    dsimp only
    cases hstate : job.state with
    | active worker lock =>
      cases lock with
      | recovery => exact h
      | worker =>
        refine ⟨h.fresh, fun job' hjob' => ?_, h.pushed, fun hpend => ?_⟩
        · cases hjob'
          refine ⟨(h.job job hjob).1, fun worker lock hact => ?_⟩
          cases fails <;> cases hact
        · cases fails with
          | true =>
            rcases hspar rfl with hnone | harm
            · exact absurd hnone hpend
            · exact .inr harm
          | false =>
            have hend := h.inTime hpend hjob
            exact .inl ⟨_, rfl, trivial, hend⟩
    | _ => exact h

theorem Watched.crash (h : Watched bucket s) (hspar : s.Spared (.crash number)) :
    Watched bucket (s.finish number) := by
  cases htask : s.tasks number with
  | none =>
    have hsame : s.finish number = s := by
      unfold finish setTask
      rw [Function.update_eq_self_iff.mpr htask.symm]
    rw [hsame]
    exact h
  | some task =>
    have hspar := hspar task htask
    cases task with
    | draining => exact Outlasts.crash h htask hspar
    | sending => exact hspar.elim
    | arming =>
      have hcovered : s.Covered number := hspar
      exact h.update rfl le_rfl (h.lt_started htask) rfl h.job (fun e he => .inl he)
        (fun _ _ heq => by cases heq) (hcovered.update h htask (by simp) rfl rfl rfl)
    | pushing | finishing =>
      exact h.update rfl le_rfl (h.lt_started htask) rfl h.job (fun e he => .inl he)
        (fun _ _ heq => by cases heq)
        ((h.covered_others htask (by simp)).update h htask (by simp) rfl rfl rfl)

theorem Watched.step (h : Watched bucket s) {e : DigestEvent} (hspar : s.Spared e) :
    Watched bucket (s.step bucket e) := by
  cases e with
  | pass => exact h.pass hspar
  | enqueue entry => exact h.enqueue entry
  | take => exact h.take
  | stall => exact h.stall hspar
  | crash => exact h.crash hspar
  | advance number fate =>
    cases htask : s.tasks number with
    | none =>
      have hsame : s.step bucket (.advance number fate) = s := by simp only [Digest.step, htask]
      rw [hsame]
      exact h
    | some task =>
      have hadv : s.step bucket (.advance number fate) = s.advance bucket number fate task := by
        simp only [Digest.step, htask]
      have hspar := hspar task htask
      rw [hadv]
      cases task with
      | pushing => exact h.pushing htask hspar
      | arming => exact h.arms htask (arms_arm h.job hspar)
      | draining => exact h.draining htask hspar
      | sending => exact h.sending htask
      | finishing => exact h.finishing htask

end Steps

theorem watched_empty : Watched bucket {} := by
  refine ⟨fun _ _ => rfl, fun job hjob => ?_, fun number phase pushedAt htask => ?_,
    fun hpend => absurd rfl hpend⟩
  · cases hjob
  · cases htask

theorem taskSpared_answered {s : Digest} (number : ℕ) {task : DigestTask}
    (hadding : ∀ pushedAt, task = .arming .adding pushedAt → s.job = none) :
    s.TaskSpared number .answered task := by
  cases task with
  | pushing => exact fun error heq => by cases heq
  | arming phase pushedAt =>
    cases phase with
    | getting | finding => exact fun hne => absurd rfl hne
    | adding =>
      rintro (hrch | hsome)
      · cases hrch
      · rw [hadding pushedAt rfl] at hsome
        cases hsome
    | _ => trivial
  | draining | finishing => trivial
  | sending => rfl

end Chansey.Digest
