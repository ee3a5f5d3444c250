import Chansey.Lib.Run
import Chansey.Optimization.Orchestrator

/-!
# How often an optimization run ends

A job reads its run once and saves the copy when it starts, completes or fails, whatever has become
of the run since then. The watchdog and the recovery update the run only while it is active.

* `EndsOnce`: in a run of the tasks no status that has ended changes, there is at most one event, and
  a completion is announced only of a run that is completed.
* **`advance_cases`**: a step keeps the status, or ends an active run or saves a copy of it.
-/

namespace Chansey.Optimization

open Tasks

variable {P R : Type} {search : Search P R}

def Event.status : Event P → OptimizationStatus
  | .completed .. => .completed
  | .failed _ => .failed

def Task.announces : Task P R → Option OptimizationStatus
  | .markBest _ _ event | .computeSummary event | .emitCompleted event => some event.status
  | .emitFailed _ => some .failed
  | _ => none

def Task.saves : Task P R → Option OptimizationStatus
  | .saveRunning run _ | .saveCompleted run _ _ | .saveFailed run _ | .saveCancelled run =>
    some run.status
  | _ => none

def Outcome.succeeds : Outcome → Bool
  | .ok | .heartbeat => true
  | _ => false

def announced (s : Stored P) (tasks : List (Task P R)) : List OptimizationStatus :=
  s.events.map (·.status) ++ tasks.filterMap Task.announces

/-- A copy is saved over an active run, or over one of the same status of which nothing is
announced. -/
def SavesTimely (pool : Pool (Stored P) (Task P R)) : Move Request Answer → Prop
  | .call _ => True
  | .advance position answer =>
    ∀ task ∈ pool.inFlight[position]?, answer.outcome.succeeds = true → ∀ status ∈ task.saves,
      pool.shared.run.status.isActive = true ∨
        pool.shared.run.status = status ∧ announced pool.shared pool.inFlight = []

instance (pool : Pool (Stored P) (Task P R)) : (move : Move Request Answer) →
    Decidable (SavesTimely pool move)
  | .call _ => isTrue trivial
  | .advance position answer => by
    unfold SavesTimely
    infer_instance

/-- At most one event, and of a completion only when the run is completed. -/
structure AnnouncedOnce (s : Stored P) : Prop where
  once : s.events.length ≤ 1
  completed : ∀ event ∈ s.events, event.status = .completed → s.run.status = .completed

def EndsOnce (search : Search P R) (start : Pool (Stored P) (Task P R))
    (moves : List (Move Request Answer)) : Prop :=
  Run.Kept (optimizationProgram search).step (fun pool => AnnouncedOnce pool.shared)
    (fun before after => before.shared.run.status.isActive = false →
      after.shared.run.status = before.shared.run.status) start moves

/-! ## The steps of a task -/

def Task.Consistent : Task P R → Prop
  | .saveCompleted run _ event => run.status = event.status
  | .saveFailed run _ => run.status = .failed
  | _ => True

theorem whileLoop_announces (loop : Loop P R) : (whileLoop loop).announces = none := by
  unfold whileLoop
  split <;> rfl

theorem whileLoop_consistent (loop : Loop P R) : (whileLoop loop).Consistent := by
  unfold whileLoop
  split <;> trivial

inductive Steps (s : Stored P) (task : Task P R) (saves : Prop) (result : Stored P × Option (Task P R)) :
    Prop
  /-- The status stays, and nothing else is announced. -/
  | kept (status : result.1.run.status = s.run.status)
      (announced : (result.1.events.map (·.status) ++ (result.2.bind Task.announces).toList).Sublist
        (s.events.map (·.status) ++ task.announces.toList))
  | changed (active : s.run.status.isActive = true ∨
        saves ∧ task.saves = some result.1.run.status)
      (events : result.1.events = s.events) (announces : task.announces = none)
      (next : ∀ status ∈ result.2.bind Task.announces, status = result.1.run.status)

variable {task : Task P R} {saves : Prop} {next : Option (Task P R)}
  {pool : Pool (Stored P) (Task P R)}

theorem Steps.of_quiet {s s' : Stored P} (hstat : s'.run.status = s.run.status)
    (hevs : s'.events = s.events)
    (hnext : ∀ status ∈ next.bind Task.announces, status ∈ task.announces) :
    Steps s task saves (s', next) := by
  refine .kept hstat ?_
  rw [hevs]
  refine List.Sublist.append_left ?_ _
  cases hbind : next.bind Task.announces with
  | none => exact List.nil_sublist _
  | some status => rw [hnext status hbind]

theorem Steps.of_silent {s s' : Stored P} (hstat : s'.run.status = s.run.status)
    (hevs : s'.events = s.events) (hnext : next.bind Task.announces = none) :
    Steps s task saves (s', next) :=
  .of_quiet hstat hevs fun status hmem => by rw [hnext] at hmem; cases hmem

theorem recoverSingleRun_announces (run : OptimizationRun P) (now : Instant) :
    (recoverSingleRun (R := R) run now).bind Task.announces = none := by
  unfold recoverSingleRun
  dsimp only
  split_ifs <;> rfl

theorem exec_cases (s : Stored P) (answer : Answer) (task : Task P R) (h : task.Consistent)
    (hsaves : saves) : Steps s task saves (exec search s answer task) := by
  cases task with
  | saveRunning | saveCancelled =>
    exact .changed (.inr ⟨hsaves, rfl⟩) rfl rfl (fun status hmem => by cases hmem)
  | saveCompleted run rank1 =>
    refine .changed (.inr ⟨hsaves, rfl⟩) rfl rfl fun status hmem => ?_
    cases rank1 <;> exact (Option.some.inj hmem).symm.trans h.symm
  | saveFailed =>
    refine .changed (.inr ⟨hsaves, rfl⟩) rfl rfl fun status hmem => ?_
    exact (Option.some.inj hmem).symm.trans h.symm
  | markStale | markPending | markUnrecovered =>
    simp only [exec]
    split
    · rename_i hact
      exact .changed (.inl hact) rfl rfl (by simp [Task.announces])
    · exact .of_silent rfl rfl rfl
  | emitCompleted | emitFailed =>
    refine .kept rfl ?_
    simp [exec, Task.announces, Event.status]
  | markBest | computeSummary =>
    exact .of_quiet rfl rfl fun status hmem => hmem
  | prepareWalkForwardData run isResume =>
    cases isResume
    · exact .of_silent rfl rfl (whileLoop_announces _)
    · exact .of_silent rfl rfl rfl
  | findExistingResults | updateProgress =>
    simp only [exec]
    refine .of_silent rfl rfl ?_
    split <;> first | rfl | exact whileLoop_announces _
  | findPriorResults => exact .of_silent rfl rfl (whileLoop_announces _)
  | findCurrentRun =>
    simp only [exec]
    split
    · exact .of_silent rfl rfl rfl
    · split <;> exact .of_silent rfl rfl rfl
  | evaluateBatch | findCancelled | checkQueued =>
    simp only [exec]
    split <;> exact .of_silent rfl rfl rfl
  | findStale =>
    simp only [exec]
    split
    · split <;> exact .of_silent rfl rfl rfl
    · exact .of_silent rfl rfl rfl
  | findOrphaned =>
    simp only [exec]
    split
    · exact .of_silent rfl rfl rfl
    · exact .of_silent rfl rfl (recoverSingleRun_announces _ _)
    · exact .of_silent rfl rfl rfl
  | getJob =>
    simp only [exec]
    refine .of_silent rfl rfl ?_
    split
    · rfl
    · exact recoverSingleRun_announces _ _
  | _ => exact .of_silent rfl rfl rfl

theorem onError_announces (task : Task P R) (message : String) (now : Instant) :
    ∀ status ∈ (task.onError message now).bind Task.announces, status ∈ task.announces := by
  intro status hmem
  cases task with
  | computeSummary => exact hmem
  | markUnrecovered reason => cases reason <;> cases hmem
  | _ => cases hmem

theorem onError_consistent (task : Task P R) (message : String) (now : Instant) :
    ∀ next ∈ task.onError message now, next.Consistent := by
  intro next hnext
  cases task with
  | markUnrecovered reason =>
    cases reason <;> cases hnext
    trivial
  | _ => cases hnext <;> trivial

theorem recoverSingleRun_consistent (run : OptimizationRun P) (now : Instant) :
    ∀ next ∈ recoverSingleRun (R := R) run now, next.Consistent := by
  unfold recoverSingleRun
  dsimp only
  split_ifs <;> simp [Task.Consistent]

theorem exec_consistent (s : Stored P) (answer : Answer) (task : Task P R) :
    ∀ next ∈ (exec search s answer task).2, next.Consistent := by
  intro next hnext
  cases task with
  | prepareWalkForwardData run isResume =>
    cases isResume <;> cases hnext
    · exact whileLoop_consistent _
    · trivial
  | findExistingResults | updateProgress =>
    cases hnext
    split
    all_goals first | trivial | exact whileLoop_consistent _
  | findPriorResults =>
    cases hnext
    exact whileLoop_consistent _
  | findCurrentRun =>
    simp only [exec] at hnext
    split at hnext
    · cases hnext
    · split at hnext <;> cases hnext <;> trivial
  | saveCompleted run rank1 => cases rank1 <;> cases hnext <;> trivial
  | findStale =>
    simp only [exec] at hnext
    split at hnext
    · split at hnext <;> cases hnext <;> trivial
    · cases hnext
  | findOrphaned =>
    simp only [exec] at hnext
    split at hnext
    · cases hnext
      trivial
    · exact recoverSingleRun_consistent _ _ next hnext
    · cases hnext
  | getJob =>
    simp only [exec] at hnext
    split at hnext
    · cases hnext
    · exact recoverSingleRun_consistent _ _ next hnext
  | evaluateBatch | findCancelled | checkQueued | markStale
  | markPending | markUnrecovered =>
    simp only [exec] at hnext
    split at hnext <;> cases hnext <;> trivial
  | _ => cases hnext <;> trivial

/-! ## Runs -/

/-- What is announced is the status of the run, once. -/
structure Sound (pool : Pool (Stored P) (Task P R)) : Prop where
  consistent : ∀ task ∈ pool.inFlight, task.Consistent
  once : (announced pool.shared pool.inFlight).length ≤ 1
  same : ∀ status ∈ announced pool.shared pool.inFlight, status = pool.shared.run.status

theorem announced_perm (s : Stored P) (task : Option (Task P R)) (before after : List (Task P R)) :
    (announced s (before ++ (task.toList ++ after))).Perm
      ((s.events.map (·.status) ++ (task.bind Task.announces).toList) ++
        (before.filterMap Task.announces ++ after.filterMap Task.announces)) := by
  have htask : task.toList.filterMap Task.announces = (task.bind Task.announces).toList := by
    cases task with
    | none => rfl
    | some task => cases hstat : task.announces <;> simp [hstat]
  rw [announced, List.filterMap_append, List.filterMap_append, htask, List.append_assoc,
    List.perm_append_left_iff, ← List.append_assoc, ← List.append_assoc]
  exact List.perm_append_comm.append_right _

theorem Event.status_ended (event : Event P) : event.status.isActive = false := by
  cases event <;> rfl

theorem announced_ended {s : Stored P} {tasks : List (Task P R)} {status : OptimizationStatus}
    (h : status ∈ announced s tasks) : status.isActive = false := by
  rcases List.mem_append.1 h with h | h
  · obtain ⟨event, -, rfl⟩ := List.mem_map.1 h
    exact event.status_ended
  · obtain ⟨task, -, hstat⟩ := List.mem_filterMap.1 h
    cases task with
    | markBest run position event | computeSummary event | emitCompleted event =>
      cases hstat
      exact event.status_ended
    | emitFailed =>
      cases hstat
      rfl
    | _ => cases hstat

theorem Sound.announced_eq_nil (h : Sound pool) (hact : pool.shared.run.status.isActive = true) :
    announced pool.shared pool.inFlight = [] := by
  refine List.eq_nil_iff_forall_not_mem.2 fun status hmem => ?_
  rw [← h.same status hmem, announced_ended hmem] at hact
  cases hact

theorem Sound.replace {before after : List (Task P R)} {result : Stored P × Option (Task P R)}
    (h : Sound pool) (hsplit : pool.inFlight = before ++ task :: after)
    (hconsistent : ∀ next ∈ result.2, next.Consistent) (hstep : Steps pool.shared task saves result)
    (htime : saves → ∀ status ∈ task.saves, pool.shared.run.status.isActive = true ∨
      pool.shared.run.status = status ∧ announced pool.shared pool.inFlight = []) :
    Sound ⟨result.1, before ++ (result.2.toList ++ after)⟩ ∧
      (pool.shared.run.status.isActive = false → result.1.run.status = pool.shared.run.status) := by
  have hold := announced_perm pool.shared (some task) before after
  rw [Option.toList_some, List.singleton_append, ← hsplit, Option.bind_some] at hold
  have hnew := announced_perm result.1 result.2 before after
  have htasks : ∀ other ∈ before ++ (result.2.toList ++ after), other.Consistent := by
    intro other hother
    simp only [List.mem_append, Option.mem_toList] at hother
    rcases hother with hother | hother | hother
    · exact h.consistent other (hsplit ▸ List.mem_append_left _ hother)
    · exact hconsistent other hother
    · exact h.consistent other (hsplit ▸ List.mem_append_right _ (List.mem_cons_of_mem _ hother))
  cases hstep with
  | kept hstat hann =>
    have hsub := (hann.append_right
      (before.filterMap Task.announces ++ after.filterMap Task.announces))
    refine ⟨⟨htasks, ?_, fun status hmem => ?_⟩, fun _ => hstat⟩
    · rw [hnew.length_eq]
      exact hsub.length_le.trans (hold.length_eq ▸ h.once)
    · rw [hstat]
      exact h.same status (hold.mem_iff.2 (hsub.subset (hnew.mem_iff.1 hmem)))
  | changed hact hevs hannounces hnext =>
    have hfree : pool.shared.run.status.isActive = true ∨
        result.1.run.status = pool.shared.run.status ∧
          announced pool.shared pool.inFlight = [] := by
      rcases hact with hact | ⟨hsaves, hstat⟩
      · exact .inl hact
      · exact (htime hsaves _ hstat).imp id fun ⟨heq, hnil⟩ => ⟨heq.symm, hnil⟩
    have hnil : announced pool.shared pool.inFlight = [] := hfree.elim h.announced_eq_nil And.right
    rw [hnil] at hold
    obtain ⟨hshared, hoths⟩ := List.append_eq_nil_iff.1 hold.symm.eq_nil
    rw [hoths, List.append_nil, hevs, (List.append_eq_nil_iff.1 hshared).1, List.nil_append] at hnew
    refine ⟨⟨htasks, ?_, fun status hmem => ?_⟩, fun hended => ?_⟩
    · rw [hnew.length_eq]
      cases result.2.bind Task.announces <;> simp
    · exact hnext status (Option.mem_toList.1 (hnew.mem_iff.1 hmem))
    · exact hfree.elim (fun hact => by rw [hended] at hact; cases hact) And.left

theorem advance_cases (search : Search P R) (s : Stored P) (answer : Answer) (task : Task P R)
    (h : task.Consistent) :
    Steps s task (answer.outcome.succeeds = true)
        ((optimizationProgram search).advance s task answer) ∧
      ∀ next ∈ ((optimizationProgram search).advance s task answer).2, next.Consistent := by
  cases hout : answer.outcome with
  | crash =>
    simp only [optimizationProgram, hout]
    exact ⟨.of_silent rfl rfl rfl, fun next hnext => by cases hnext⟩
  | throws message =>
    simp only [optimizationProgram, hout]
    exact ⟨.of_quiet rfl rfl (onError_announces task message answer.now),
      onError_consistent task message answer.now⟩
  | ok | heartbeat =>
    simp only [optimizationProgram, hout]
    exact ⟨exec_cases s answer task h rfl, exec_consistent s answer task⟩

theorem Sound.step {move : Move Request Answer} (h : Sound pool) (htime : SavesTimely pool move) :
    Sound ((optimizationProgram search).step pool move) ∧
      (pool.shared.run.status.isActive = false →
        ((optimizationProgram search).step pool move).shared.run.status =
          pool.shared.run.status) := by
  obtain ⟨request, rfl, hres⟩ | ⟨_, answer, task, _, _, rfl, htask, hsplit,
    hres⟩ | hres := (optimizationProgram search).step_cases pool move
  · rw [hres]
    have hsame : announced pool.shared
        (pool.inFlight ++ ((optimizationProgram search).call pool.shared request).2.toList) =
          announced pool.shared pool.inFlight := by
      rw [announced, List.filterMap_append]
      cases request <;> exact congrArg _ (List.append_nil _)
    refine ⟨⟨fun task htask => ?_, hsame ▸ h.once, hsame ▸ h.same⟩, fun _ => rfl⟩
    rcases List.mem_append.1 htask with htask | htask
    · exact h.consistent task htask
    · obtain rfl := List.mem_singleton.1 htask
      cases request <;> trivial
  · rw [hres]
    have hconsistent := h.consistent task (List.mem_of_getElem? htask)
    obtain ⟨hstep, hnext⟩ := advance_cases search pool.shared answer task hconsistent
    exact h.replace hsplit hnext hstep (htime task htask)
  · rw [hres]
    exact ⟨h, fun _ => rfl⟩

theorem sound_start (s : Stored P) (hevs : s.events = []) :
    Sound (⟨s, []⟩ : Pool (Stored P) (Task P R)) := by
  have hnil : announced s ([] : List (Task P R)) = [] := by rw [announced, hevs]; rfl
  exact ⟨List.forall_mem_nil _, by rw [hnil]; exact Nat.zero_le 1,
    fun status hmem => by rw [hnil] at hmem; cases hmem⟩

theorem Sound.announcedOnce (h : Sound pool) : AnnouncedOnce pool.shared := by
  refine ⟨?_, fun event hevent hstat => ?_⟩
  · have hlen := h.once
    rw [announced, List.length_append, List.length_map] at hlen
    omega
  · rw [← hstat]
    exact (h.same _ (List.mem_append_left _ (List.mem_map_of_mem hevent))).symm

/-- **A run ends once if every copy of it is saved in time.** -/
theorem endsOnce (search : Search P R) (config : OptimizationConfig)
    (combinations : List (Combination P)) (targetCount : ℕ) (now : Instant)
    (moves : List (Move Request Answer))
    (htimely : Run.Throughout (optimizationProgram search).step SavesTimely
      ⟨startOptimization config combinations targetCount now, []⟩ moves) :
    EndsOnce search ⟨startOptimization config combinations targetCount now, []⟩ moves := by
  have hstart := sound_start (R := R) (startOptimization config combinations targetCount now) rfl
  refine (Run.kept_iff (fun _ _ => rfl) fun s t u hst htu hended => ?_).mpr
    ⟨hstart.announcedOnce, htimely.imp Sound (fun pool move hsound htimely => ?_)
      (fun pool move hsound htimely => (hsound.step htimely).1) hstart⟩
  · have hsame := hst hended
    exact (htu (hsame ▸ hended)).trans hsame
  · exact ⟨(hsound.step htimely).1.announcedOnce, (hsound.step htimely).2⟩

/-! ## Runs that end, and end again -/

def evenSearch : Search ℕ Unit where
  evaluateCombination _ := ⟨1, 1, 0, 100, 0, 30⟩
  makeRandom _ := ()
  generateNextBatch _ _ _ _ random := ([], random)

def newRun : Pool (Stored ℕ) (Task ℕ Unit) :=
  ⟨startOptimization ⟨true, 0, none, none⟩ [⟨0, 14, true⟩] 1 0, []⟩

def steps (position count : ℕ) (now : Instant) : List (Move Request Answer) :=
  List.replicate count (.advance position ⟨.ok, now, false, fun _ => 0⟩)

def evaluates : List (Move Request Answer) := .call .executeOptimization :: steps 0 5 0

theorem endsOnce_completed : EndsOnce evenSearch newRun (evaluates ++ steps 0 9 1) :=
  endsOnce evenSearch _ _ _ _ _ (by decide +kernel)

def cancelled : List (Move Request Answer) :=
  evaluates ++ .call .cancelOptimization :: steps 1 2 1

def foundStale : List (Move Request Answer) :=
  evaluates ++ .call .detectStaleOptimizationRuns :: steps 1 3 30000000

def unprepared : List (Move Request Answer) :=
  .call .executeOptimization :: steps 0 3 0 ++
    .advance 0 ⟨.throws "Insufficient windows", 0, false, fun _ => 0⟩ :: steps 0 2 0

/-- **A cancelled run is completed by its job, a stale one too, and a failed one is started again by
its queue.** -/
theorem ends_twice :
    ¬ EndsOnce evenSearch newRun (cancelled ++ steps 0 9 1) ∧
      ¬ EndsOnce evenSearch newRun (foundStale ++ steps 0 9 30000000) ∧
      ¬ EndsOnce evenSearch newRun (unprepared ++ evaluates) := by
  refine ⟨fun h => ?_, fun h => ?_, fun h => ?_⟩
  · have hsame := (h cancelled (steps 0 9 1) [] (by simp)).2 (by decide +kernel)
    exact absurd hsame (by decide +kernel)
  · have honce := (h [] (foundStale ++ steps 0 9 30000000) [] (by simp)).1.once
    exact absurd honce (by decide +kernel)
  · have hsame := (h unprepared evaluates [] (by simp)).2 (by decide +kernel)
    exact absurd hsame (by decide +kernel)

end Chansey.Optimization
