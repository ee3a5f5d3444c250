import Chansey.BacktestRun.Lifecycle

/-!
# How a backtest run ends

* `Lawful`: what the record of a backtest is to be. A run that was stopped is not completed by the
  execution it stopped, a completed run does not fail, only the user ends a pause, and a completion is
  announced once, while it is stored.
-/

namespace Chansey.BacktestRun

open Remote Tasks

/-! ## The record -/

def BacktestStatus.stopped : BacktestStatus → Bool
  | .cancelled | .failed => true
  | .pending | .running | .paused | .completed => false

def Author.run? : Author → Option ℕ
  | .worker run => some run
  | .start _ | .user | .markFailed | .recovery => none

def stoppedSince (run : ℕ) : List Entry → Bool
  | [] => false
  | .wrote author _ status :: earlier =>
    if author = .start run then false else status.stopped || stoppedSince run earlier
  | .emitted _ _ :: earlier => stoppedSince run earlier

def Entry.completes : Entry → Bool
  | .wrote _ _ status => status = .completed
  | .emitted _ _ => false

def Entry.announces (run : ℕ) : Entry → Bool
  | .wrote _ _ _ => false
  | .emitted other _ => other = run

def Entry.Lawful (earlier : List Entry) : Entry → Prop
  | .wrote author former status =>
    (status = .completed → ∀ run ∈ author.run?, stoppedSince run earlier = false) ∧
      (status = .failed → earlier.any Entry.completes = false) ∧
      (former = .paused → status ≠ .paused → author = .user)
  | .emitted run status => status = .completed ∧ earlier.any (Entry.announces run) = false

instance (earlier : List Entry) : (entry : Entry) → Decidable (entry.Lawful earlier)
  | .wrote _ _ _ => inferInstanceAs (Decidable (_ ∧ _ ∧ _))
  | .emitted _ _ => inferInstanceAs (Decidable (_ ∧ _))

def Lawful : List Entry → Prop
  | [] => True
  | entry :: earlier => entry.Lawful earlier ∧ Lawful earlier

instance decidableLawful : (record : List Entry) → Decidable (Lawful record)
  | [] => isTrue trivial
  | entry :: earlier =>
    have := decidableLawful earlier
    inferInstanceAs (Decidable (entry.Lawful earlier ∧ Lawful earlier))

/-- A worker executes the backtest, until its result is committed. -/
def Task.executes (task : Task) : Bool := task.run?.isSome && !task.publishes

/-- The record is lawful, and one worker at a time executes the backtest. -/
def LawfulRun (pool : Pool Backtest Task) : Prop :=
  Lawful pool.shared.record ∧ (pool.inFlight.filter Task.executes).length ≤ 1

instance (pool : Pool Backtest Task) : Decidable (LawfulRun pool) :=
  inferInstanceAs (Decidable (_ ∧ _))

/-! ## Undisturbed steps -/

/-- A status is written over the one its author goes by. That is neither paused nor completed when a
failure or the recovery writes, and no worker executes a backtest that is queued. -/
def Write.Lands (pool : Pool Backtest Task) (w : Write) : Prop :=
  pool.shared.status = w.expects ∧
    (w.author = .markFailed ∨ w.author = .recovery → w.expects ≠ .paused ∧ w.expects ≠ .completed) ∧
    (w.status = .pending → ∀ task ∈ pool.inFlight, task.executes = false)

instance (pool : Pool Backtest Task) (w : Write) : Decidable (w.Lands pool) :=
  inferInstanceAs (Decidable (_ ∧ _ ∧ _))

/-- The status that a step writes, if it writes one, lands. -/
def Undisturbed (pool : Pool Backtest Task) : Move Request Answer → Prop
  | .call _ => True
  | .advance position answer =>
    ∀ task ∈ pool.inFlight[position]?, answer.died = false → (task.fate answer).reached = true →
      ∀ w ∈ task.write? pool.shared, w.Lands pool

instance (pool : Pool Backtest Task) : (move : Move Request Answer) →
    Decidable (Undisturbed pool move)
  | .call _ => isTrue trivial
  | .advance position answer => by
    unfold Undisturbed
    infer_instance

structure Orderly (backtest : Backtest) (tasks : List Task) : Prop where
  lawful : Lawful backtest.record
  single : (tasks.filterMap Task.run?).length ≤ 1
  idle : backtest.status = .pending → ∀ task ∈ tasks, task.run? = none
  published : ∀ task ∈ tasks, task.publishes = true → backtest.status = .completed
  completed : backtest.record.any Entry.completes = true → backtest.status = .completed
  announced : ∀ run, backtest.record.any (Entry.announces run) = true →
    backtest.status = .completed ∧ ∀ task ∈ tasks, task.run? = none
  unstopped : ∀ task ∈ tasks, ∀ run ∈ task.run?, backtest.status = .running →
    stoppedSince run backtest.record = false

def OrderlyPool (pool : Pool Backtest Task) : Prop := Orderly pool.shared pool.inFlight

/-! ## The step lemma -/

section Step

variable {backtest after : Backtest} {task : Task} {answer : Answer} {others : List Task} {w : Write}

theorem publishes_run (h : task.publishes = true) : task.run?.isSome := by
  cases task with
  | working => rfl
  | _ => cases h

theorem publishes_false (h : task.run? = none) : task.publishes = false :=
  Bool.eq_false_iff.mpr fun hpub => by
    have hrun := publishes_run hpub
    rw [h] at hrun
    cases hrun

variable {tasks : List Task} {processor : Processor}

theorem Orderly.perm (h : Orderly backtest tasks) (hperm : tasks.Perm others) :
    Orderly backtest others where
  lawful := h.lawful
  single := (hperm.filterMap Task.run?).length_eq ▸ h.single
  idle hpend task htask := h.idle hpend task (hperm.mem_iff.mpr htask)
  published task htask := h.published task (hperm.mem_iff.mpr htask)
  completed := h.completed
  announced run hrun :=
    ⟨(h.announced run hrun).1, fun task htask => (h.announced run hrun).2 task (hperm.mem_iff.mpr htask)⟩
  unstopped task htask := h.unstopped task (hperm.mem_iff.mpr htask)

theorem Orderly.alone (h : Orderly backtest (task :: others)) (hrun : task.run?.isSome) :
    ∀ other ∈ others, other.run? = none := by
  obtain ⟨_, hrun⟩ := Option.isSome_iff_exists.mp hrun
  have hsing := h.single
  rw [List.filterMap_cons_some hrun, List.length_cons, Nat.succ_le_succ_iff, Nat.le_zero,
    List.length_eq_zero_iff, List.filterMap_eq_nil_iff] at hsing
  exact hsing

theorem Orderly.tail (h : Orderly backtest (task :: others)) : Orderly backtest others where
  lawful := h.lawful
  single := Nat.le_trans ((List.sublist_cons_self task others).filterMap Task.run?).length_le h.single
  idle hpend other hother := h.idle hpend other (List.mem_cons_of_mem _ hother)
  published other hother := h.published other (List.mem_cons_of_mem _ hother)
  completed := h.completed
  announced run hrun :=
    ⟨(h.announced run hrun).1, fun other hother =>
      (h.announced run hrun).2 other (List.mem_cons_of_mem _ hother)⟩
  unstopped other hother := h.unstopped other (List.mem_cons_of_mem _ hother)

theorem Orderly.cons (h : Orderly backtest others) (hrun : task.run? = none) :
    Orderly backtest (task :: others) where
  lawful := h.lawful
  single := by
    rw [List.filterMap_cons_none hrun]
    exact h.single
  idle hpend := List.forall_mem_cons.mpr ⟨hrun, h.idle hpend⟩
  published := by
    refine List.forall_mem_cons.mpr ⟨fun hpub => ?_, h.published⟩
    rw [publishes_false hrun] at hpub
    cases hpub
  completed := h.completed
  announced run hann :=
    ⟨(h.announced run hann).1, List.forall_mem_cons.mpr ⟨hrun, (h.announced run hann).2⟩⟩
  unstopped := by
    refine List.forall_mem_cons.mpr ⟨fun run hmem => ?_, h.unstopped⟩
    rw [hrun] at hmem
    cases hmem

theorem Orderly.cons_alone (h : Orderly backtest others)
    (halone : ∀ other ∈ others, other.run? = none) (hpend : backtest.status ≠ .pending)
    (hpublished : task.publishes = true → backtest.status = .completed)
    (hann : ∀ run, backtest.record.any (Entry.announces run) = false)
    (hunstopped : ∀ run ∈ task.run?, backtest.status = .running →
      stoppedSince run backtest.record = false) : Orderly backtest (task :: others) where
  lawful := h.lawful
  single := by
    have hnone : others.filterMap Task.run? = [] := List.filterMap_eq_nil_iff.mpr halone
    cases hrun : task.run? with
    | none => simp [List.filterMap_cons_none hrun, hnone]
    | some => simp [List.filterMap_cons_some hrun, hnone]
  idle h := absurd h hpend
  published := List.forall_mem_cons.mpr ⟨hpublished, h.published⟩
  completed := h.completed
  announced run hrun := by
    rw [hann run] at hrun
    cases hrun
  unstopped := List.forall_mem_cons.mpr ⟨hunstopped, h.unstopped⟩

theorem Orderly.unannounced (h : Orderly backtest (task :: others)) (hrun : task.run?.isSome)
    (run : ℕ) : backtest.record.any (Entry.announces run) = false := by
  rw [Bool.eq_false_iff]
  intro hann
  rw [(h.announced run hann).2 task List.mem_cons_self] at hrun
  cases hrun

theorem Orderly.started (h : Orderly backtest (task :: others)) (hrun : task.run?.isSome) :
    backtest.status ≠ .pending := fun hpend => by
  rw [h.idle hpend task List.mem_cons_self] at hrun
  cases hrun

theorem Orderly.of_eq (h : Orderly backtest others) (hstat : after.status = backtest.status)
    (hrec : after.record = backtest.record) : Orderly after others where
  lawful := hrec ▸ h.lawful
  single := h.single
  idle := hstat ▸ h.idle
  published := hstat ▸ h.published
  completed := by rw [hstat, hrec]; exact h.completed
  announced := by rw [hstat, hrec]; exact h.announced
  unstopped := by rw [hstat, hrec]; exact h.unstopped

theorem Orderly.wrote (h : Orderly backtest others) (hstat : after.status = w.status)
    (hrec : after.record = .wrote w.author backtest.status w.status :: backtest.record)
    (hlawful : (Entry.wrote w.author backtest.status w.status).Lawful backtest.record)
    (hover : backtest.status ≠ .completed)
    (hidle : w.status = .pending ∨ w.status = .running → ∀ other ∈ others, other.run? = none) :
    Orderly after others where
  lawful := by
    rw [hrec]
    exact ⟨hlawful, h.lawful⟩
  single := h.single
  idle hpend := hidle (.inl (hstat ▸ hpend))
  published other hother hpub := absurd (h.published other hother hpub) hover
  completed := by
    rw [hrec, hstat, List.any_cons, Bool.or_eq_true]
    rintro (hcomps | hearl)
    · exact of_decide_eq_true hcomps
    · exact absurd (h.completed hearl) hover
  announced run hann := by
    rw [hrec, List.any_cons, Entry.announces, Bool.false_or] at hann
    exact absurd (h.announced run hann).1 hover
  unstopped other hother run hrun hrunn := by
    rw [hidle (.inr (hstat ▸ hrunn)) other hother] at hrun
    cases hrun

theorem Orderly.emitted {run : ℕ} (h : Orderly backtest (.working processor run .publish :: others))
    (hstat : after.status = backtest.status)
    (hrec : after.record = .emitted run backtest.status :: backtest.record) :
    Orderly after others := by
  have hcomp : backtest.status = .completed := h.published _ List.mem_cons_self rfl
  have halone := h.alone rfl
  refine ⟨?_, h.tail.single, ?_, ?_, fun _ => hstat.trans hcomp,
    fun _ _ => ⟨hstat.trans hcomp, halone⟩, ?_⟩
  · rw [hrec]
    exact ⟨⟨hcomp, h.unannounced rfl run⟩, h.lawful⟩
  · exact fun _ => halone
  · exact fun _ _ _ => hstat.trans hcomp
  · intro other hother run hrun
    rw [halone other hother] at hrun
    cases hrun

theorem Orderly.kept (h : Orderly backtest (task :: others)) {next : Task}
    (hrun : next.run? = none ∨ next.run? = task.run?) (hpub : next.publishes = false) :
    Orderly backtest (next :: others) := by
  cases htask : task.run? with
  | none => exact h.tail.cons (by rw [htask] at hrun; exact hrun.elim id id)
  | some =>
    have hsome : task.run?.isSome := by rw [htask]; rfl
    refine h.tail.cons_alone (h.alone hsome) (h.started hsome) (fun hnext => ?_)
      (h.unannounced hsome) (fun other hother => ?_)
    · rw [hpub] at hnext
      cases hnext
    · obtain hrun | hrun := hrun
      · rw [hrun] at hother
        cases hother
      · rw [hrun] at hother
        exact h.unstopped task List.mem_cons_self other hother

theorem lawful_outside (h : Orderly backtest others) (hover : backtest.status ≠ .completed)
    (hauth : w.author.run? = none) (hpsd : backtest.status = .paused → w.author = .user) :
    (Entry.wrote w.author backtest.status w.status).Lawful backtest.record := by
  refine ⟨fun _ run hrun => ?_, fun _ => ?_, fun hpause _ => hpsd hpause⟩
  · rw [hauth] at hrun
    cases hrun
  · rw [Bool.eq_false_iff]
    exact fun hcomp => hover (h.completed hcomp)

theorem Orderly.run_none (h : Orderly backtest others) (hover : backtest.status ≠ .completed)
    {other : Task} (hother : other ∈ others) (hexecutes : other.executes = false) :
    other.run? = none := by
  rw [Task.executes, Bool.and_eq_false_iff, Bool.not_eq_false', Option.isSome_eq_false_iff,
    Option.isNone_iff_eq_none] at hexecutes
  exact hexecutes.resolve_right fun hpub => hover (h.published other hother hpub)

theorem Orderly.begin (h : Orderly backtest (task :: others)) (hpend : backtest.status = .pending)
    (hstat : after.status = .running)
    (hrec : after.record = .wrote (.start backtest.started) backtest.status .running ::
      backtest.record) :
    Orderly after others ∧ ∀ next : Task, (next.run? = none ∨ next.run? = some backtest.started) →
      next.publishes = false → Orderly after (next :: others) := by
  have halone := h.tail.idle hpend
  have hover : backtest.status ≠ .completed := by rw [hpend]; decide
  have hafter : Orderly after others := by
    refine h.tail.wrote (w := ⟨.start backtest.started, .pending, .running⟩) hstat hrec ?_ hover
      fun _ => halone
    refine lawful_outside h.tail hover rfl fun hpsd => ?_
    rw [hpend] at hpsd
    cases hpsd
  refine ⟨hafter, fun next hrun hpub => ?_⟩
  obtain hrun | hrun := hrun
  · exact hafter.cons hrun
  refine hafter.cons_alone halone (by rw [hstat]; decide) (fun hnext => ?_) (fun run => ?_)
    (fun run hmem _ => ?_)
  · rw [hpub] at hnext
    cases hnext
  · rw [Bool.eq_false_iff]
    intro hann
    have hcomp := (hafter.announced run hann).1
    rw [hstat] at hcomp
    cases hcomp
  · rw [hrun, Option.mem_def, Option.some_inj] at hmem
    rw [hrec, stoppedSince, if_pos (by rw [hmem])]

theorem Orderly.work {run : ℕ} {stage : Stage}
    (h : Orderly backtest (.working processor run stage :: others))
    (hrunn : backtest.status = .running) (hauth : w.author = .worker run)
    (hfail : w.status ≠ .failed) (hpend : w.status ≠ .pending) (hstat : after.status = w.status)
    (hrec : after.record = .wrote w.author backtest.status w.status :: backtest.record) :
    Orderly after others ∧ ∀ next : Task, (next.run? = none ∨ next.run? = some run) →
      (next.publishes = true → w.status = .completed) → Orderly after (next :: others) := by
  have halone := h.alone rfl
  have hunstopped : stoppedSince run backtest.record = false :=
    h.unstopped _ List.mem_cons_self run rfl hrunn
  have hafter : Orderly after others := by
    refine h.tail.wrote hstat hrec ⟨fun _ other hother => ?_, fun h => absurd h hfail,
      fun hpsd => ?_⟩ (by rw [hrunn]; decide) fun _ => halone
    · rw [hauth, Author.run?, Option.mem_def, Option.some_inj] at hother
      exact hother ▸ hunstopped
    · rw [hrunn] at hpsd
      cases hpsd
  refine ⟨hafter, fun next hrun hpub => ?_⟩
  obtain hrun | hrun := hrun
  · exact hafter.cons hrun
  refine hafter.cons_alone halone (by rw [hstat]; exact hpend)
    (fun hnext => hstat.trans (hpub hnext)) (fun other => ?_) (fun other hmem hafter => ?_)
  · rw [hrec, List.any_cons, Entry.announces, Bool.false_or]
    exact h.unannounced rfl other
  · rw [hrun, Option.mem_def, Option.some_inj] at hmem
    rw [hrec, stoppedSince, hauth, if_neg (by nofun), ← hstat, hafter, ← hmem, hunstopped]
    rfl

theorem Orderly.toList {next : Option Task} (h : Orderly backtest others)
    (hnext : ∀ task ∈ next, Orderly backtest (task :: others)) :
    Orderly backtest (next.toList ++ others) := by
  cases next with
  | none => exact h
  | some task => exact hnext task rfl

theorem Orderly.lands {next : Option Task} (h : Orderly backtest (task :: others))
    (hoths : ∀ other ∈ others, other ∈ tasks) (hwrites : task.write? backtest = some w)
    (hlands : w.Lands ⟨backtest, tasks⟩) (hstat : after.status = w.status)
    (hrec : after.record = .wrote w.author backtest.status w.status :: backtest.record)
    (hnext : ∀ task' ∈ next,
      (task'.run? = none ∨ task'.run? = task.run? ∨
        w.author = .start backtest.started ∧ task'.run? = some backtest.started) ∧
      (task'.publishes = true → w.status = .completed)) :
    Orderly after (next.toList ++ others) := by
  obtain ⟨hexpects, hleav, hqueued⟩ := hlands
  -- a user, a failure or the recovery
  have houtside : w.expects ≠ .completed → w.status ≠ .running → w.author.run? = none →
      (backtest.status = .paused → w.author = .user) → task.run? = none →
      (∀ run, w.author ≠ .start run) → Orderly after (next.toList ++ others) := by
    intro hcomp hrunn hauth hpsd hrun hstart
    have hover : backtest.status ≠ .completed := hexpects ▸ hcomp
    have hafter : Orderly after others := by
      refine h.tail.wrote hstat hrec (lawful_outside h.tail hover hauth hpsd) hover ?_
      rintro (hpend | hresumed) other hother
      · exact h.tail.run_none hover hother (hqueued hpend other (hoths other hother))
      · exact absurd hresumed hrunn
    refine hafter.toList fun task' htask' => hafter.cons ?_
    obtain hnone | hsame | ⟨hbegins, -⟩ := (hnext task' htask').1
    · exact hnone
    · exact hsame.trans hrun
    · exact absurd hbegins (hstart _)
  obtain ⟨processor, rfl, rfl⟩ | ⟨processor, run, _, rfl, hauth, hrunn, hfail, hpend⟩ |
    ⟨hauth, hcomp, hnew, hrun⟩ | ⟨hauth, hnew, hrun⟩ := write_cases hwrites
  · obtain ⟨hafter, hbegun⟩ := h.begin hexpects hstat hrec
    refine hafter.toList fun task' htask' => ?_
    obtain ⟨hrun, hpub⟩ := hnext task' htask'
    refine hbegun task' ?_ (Bool.eq_false_iff.mpr fun hp => nomatch hpub hp)
    obtain hnone | hsame | ⟨-, hbegins⟩ := hrun
    · exact .inl hnone
    · exact .inl hsame
    · exact .inr hbegins
  · obtain ⟨hafter, hgoes⟩ := h.work (hexpects.trans hrunn) hauth hfail hpend hstat hrec
    refine hafter.toList fun task' htask' => ?_
    obtain ⟨hrun, hpub⟩ := hnext task' htask'
    refine hgoes task' (hrun.imp_right fun hrun => hrun.elim id fun ⟨hstart, _⟩ => ?_) hpub
    rw [hauth] at hstart
    cases hstart
  · refine houtside hcomp ?_ (by rw [hauth]; rfl) (fun _ => hauth) hrun
      fun run => by rw [hauth]; nofun
    rcases hnew with hnew | hnew <;> rw [hnew] <;> decide
  · obtain ⟨hpsd, hcomp⟩ := hleav hauth
    refine houtside hcomp ?_ ?_ (fun h => absurd (hexpects.symm.trans h) hpsd) hrun ?_
    · rcases hnew with hnew | hnew <;> rw [hnew] <;> decide
    · rcases hauth with hauth | hauth <;> rw [hauth] <;> rfl
    · rcases hauth with hauth | hauth <;> rw [hauth] <;> nofun

theorem orderly_advance (h : Orderly backtest (task :: others))
    (hoths : ∀ other ∈ others, other ∈ tasks)
    (hlands : answer.died = false → (task.fate answer).reached = true →
      ∀ w ∈ task.write? backtest, w.Lands ⟨backtest, tasks⟩) :
    Orderly (task.advance backtest answer).1 ((task.advance backtest answer).2.toList ++ others) := by
  cases advance_cases backtest task answer with
  | kept hstat hrec hnext =>
    refine (h.tail.of_eq hstat hrec).toList fun next hmem => ?_
    obtain ⟨hrun, hpub⟩ := hnext next hmem
    exact (h.kept hrun hpub).of_eq hstat hrec
  | wrote w hwrites halive htook hstat hrec hnext =>
    exact h.lands hoths hwrites (hlands halive htook w hwrites) hstat hrec hnext
  | emitted processor run htask hstat hrec hnext =>
    subst htask
    have hafter := h.emitted hstat hrec
    exact hafter.toList fun next hmem => hafter.cons (hnext next hmem)

end Step

theorem Orderly.executes {backtest : Backtest} {tasks : List Task} (h : Orderly backtest tasks) :
    (tasks.filter Task.executes).length ≤ 1 := by
  refine Nat.le_trans ?_ h.single
  rw [List.length_filterMap_eq_countP, ← List.countP_eq_length_filter]
  refine List.countP_mono_left fun task _ hexecutes => ?_
  exact (Bool.and_eq_true_iff.mp hexecutes).1

/-! ## Runs -/

theorem start_run {backtest : Backtest} (request : Request) :
    ∀ task ∈ request.start backtest, task.run? = none := by
  intro task htask
  cases request with
  | process =>
    cases htask
    rfl
  | detectStale =>
    simp only [Request.start] at htask
    split at htask
    · split at htask <;> cases htask <;> rfl
    · cases htask
  | recover =>
    simp only [Request.start, recoverSingleBacktest] at htask
    split_ifs at htask <;> cases htask <;> rfl
  | _ =>
    simp only [Request.start] at htask
    split at htask <;> cases htask
    rfl

theorem orderly_step {pool : Pool Backtest Task} {move : Move Request Answer}
    (h : OrderlyPool pool) (hund : Undisturbed pool move) :
    OrderlyPool (backtestProgram.step pool move) := by
  obtain ⟨request, rfl, hres⟩ | ⟨_, _, task, before, after, rfl, htask, hsplit,
    hres⟩ | hres := backtestProgram.step_cases pool move
  · rw [hres]
    refine Orderly.perm ?_ List.perm_append_comm
    exact Orderly.toList h fun task htask => Orderly.cons h (start_run request task htask)
  · rw [hres]
    have hperm : pool.inFlight.Perm (task :: (before ++ after)) := hsplit ▸ List.perm_middle
    have hstep := orderly_advance (Orderly.perm h hperm)
      (fun other hother => hperm.mem_iff.mpr (List.mem_cons_of_mem _ hother))
      (hund task htask)
    refine hstep.perm ?_
    rw [← List.append_assoc, ← List.append_assoc]
    exact List.perm_append_comm.append_right after
  · rw [hres]
    exact h

/-- **Every run of undisturbed steps has a lawful record and one execution at a time.** -/
theorem backtest_lifecycle (type : BacktestType) (moves : List (Move Request Answer))
    (h : backtestProgram.AllMeet Undisturbed (createBacktest type) moves) :
    LawfulRun (backtestProgram.run (createBacktest type) moves) := by
  have hstart : OrderlyPool (createBacktest type) := by
    refine ⟨trivial, Nat.zero_le 1, fun _ _ htask => ?_, fun _ htask => ?_, fun h => ?_,
      fun _ h => ?_, fun _ htask => ?_⟩
    · cases htask
    · cases htask
    · cases h
    · cases h
    · cases htask
  have horderly : OrderlyPool (backtestProgram.run (createBacktest type) moves) :=
    (Program.reached_run h).invariant (fun _ _ hpool hmove => orderly_step hpool hmove) hstart
  exact ⟨horderly.lawful, horderly.executes⟩

/-! ## Runs that are lawful, and runs that are not -/

def steps (position count : ℕ) : List (Move Request Answer) :=
  List.replicate count (.advance position {})

def executes (processor : Processor) (mode : BacktestType) (calls : ℕ) :
    List (Move Request Answer) :=
  .call (.process processor mode) :: steps 0 calls

def paused : List (Move Request Answer) :=
  executes .liveReplay .liveReplay 4 ++ .advance 0 { warnings := true } ::
    (steps 0 1 ++ .call .pause :: (steps 1 1 ++ steps 0 4))

def resumed : List (Move Request Answer) :=
  paused ++ .call .resume :: (steps 0 1 ++ executes .liveReplay .liveReplay 5 ++
    .advance 0 { engine := .finish } :: steps 0 4)

theorem backtest_lifecycle_resumed :
    LawfulRun (backtestProgram.run (createBacktest .liveReplay) resumed) :=
  backtest_lifecycle .liveReplay resumed (by decide +kernel)

def stale : List (Move Request Answer) :=
  executes .historical .historical 4 ++ .call .detectStale :: steps 1 2

/-- **A failed run is completed by its worker, a completed one fails when its metrics are recorded, a
restart queues a paused replay, and a failed run that is resumed has two workers.** -/
theorem lifecycle_broken :
    ¬ LawfulRun (backtestProgram.run (createBacktest .historical)
      (stale ++ .advance 0 { engine := .finish } :: steps 0 2)) ∧
    ¬ LawfulRun (backtestProgram.run (createBacktest .historical)
      (executes .historical .historical 4 ++ .advance 0 { engine := .finish } :: (steps 0 3 ++
        .advance 0 { fate := .refused () } :: steps 0 3))) ∧
    ¬ LawfulRun (backtestProgram.run (createBacktest .liveReplay)
      (paused ++ .call (.recover true) :: steps 0 1)) ∧
    ¬ LawfulRun (backtestProgram.run (createBacktest .historical)
      (stale ++ .call .resume :: (steps 1 1 ++ .call (.process .historical .historical) ::
        steps 1 4))) := by
  decide +kernel

end Chansey.BacktestRun
