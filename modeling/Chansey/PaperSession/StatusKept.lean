import Chansey.PaperSession.Session

/-!
# No status update is lost

* `Intact`: the stored mark is the one the commands, completions and failures decided on, and a job
  of a session that is not active is on its way out.
-/

namespace Chansey.PaperSession

open Tasks

def Op.clears (job : TickJob) : Op → Bool
  | .removeJob removed => removed = job
  | .commit command _ => command.target = .active
  | _ => false

def Clears (job : TickJob) (task : List Op) : Prop := ∃ op ∈ task, op.clears job = true

/-- No decision on the session's status is lost, and no job stays scheduled for a session that is
not active. -/
structure Intact (pool : Pool Sessions (List Op)) : Prop where
  mark : pool.shared.row.toSessionMark = pool.shared.decided
  jobs : ∀ job, pool.shared.jobs job = true →
    pool.shared.row.status = .active ∨ ∃ task ∈ pool.inFlight, Clears job task

/-- An operation is current: it leaves the stored mark as it is, but for what it decides. -/
def Op.Current (s : Sessions) (rest : List Op) : Op → Prop
  | .save session => s.locked = false → session.toSessionMark = s.row.toSessionMark
  | .saveCompleted session reason now =>
    s.locked = false → session.toSessionMark = s.row.toSessionMark.complete reason now
  | .markFailed => s.locked = false → s.row.status.ended = false
  | .commit command session =>
    command.accepts s.row.status = true ∧
      session.toSessionMark = command.decide s.row.toSessionMark ∧
      (command.target ≠ .active → ∀ job, s.jobs job = false)
  | .scheduleJob _ =>
    s.row.status = .active ∨
      ∃ command session, command.target = .active ∧ .commit command session ∈ rest
  | _ => True

/-- The next operation of the task that moves is current. -/
def Current (pool : Pool Sessions (List Op)) : Move SessionCall Answer → Prop
  | .call _ => True
  | .advance position _ =>
    ∀ op rest, pool.inFlight[position]? = some (op :: rest) → op.Current pool.shared rest

variable {config : PaperTradingConfig} {s : Sessions} {answer : Answer} {op : Op}
  {rest : List Op} {job : TickJob}

theorem Command.decide_status {command : Command} {mark : SessionMark}
    (h : command.accepts mark.status = true) : (command.decide mark).status = command.target := by
  unfold Command.decide
  rw [if_pos h]
  cases command <;> rfl

theorem Clears.append {task : List Op} (h : Clears job task) (ops : List Op) :
    Clears job (ops ++ task) := by
  obtain ⟨op, hmem, hclr⟩ := h
  exact ⟨op, List.mem_append_right ops hmem, hclr⟩

theorem clears_removeTickJobs (job : TickJob) (rest : List Op) :
    Clears job (removeTickJobs ++ rest) := by
  refine ⟨.removeJob job, List.mem_append_left rest ?_, by simp [Op.clears]⟩
  cases job <;> simp [removeTickJobs]

def Op.waits : Op → Bool
  | .save _ | .saveCompleted .. | .markFailed | .touch | .beginCommand .. => true
  | _ => false

theorem exec_of_locked (hlocked : s.locked = true) (hop : op.waits = true) :
    exec config s answer op = (s, [op]) := by
  cases op <;> first
    | exact if_pos hlocked
    | cases hop

theorem exec_mark (hmark : s.row.toSessionMark = s.decided) (hcur : op.Current s rest) :
    (exec config s answer op).1.row.toSessionMark = (exec config s answer op).1.decided := by
  by_cases hwaits : s.locked = true ∧ op.waits = true
  · rw [exec_of_locked hwaits.1 hwaits.2]
    exact hmark
  have hfree : op.waits = true → s.locked = false := fun hop =>
    Bool.eq_false_iff.mpr fun hlocked => hwaits ⟨hlocked, hop⟩
  cases op with
  | save =>
    simp only [exec, hfree rfl, Bool.false_eq_true, if_false]
    exact (hcur (hfree rfl)).trans hmark
  | saveCompleted =>
    simp only [exec, hfree rfl, Bool.false_eq_true, if_false]
    exact (hcur (hfree rfl)).trans (by rw [hmark])
  | markFailed =>
    simp only [exec, hfree rfl, Bool.false_eq_true, if_false]
    rw [← hmark, SessionMark.fail, if_neg (by simp [hcur (hfree rfl)])]
  | touch | beginCommand =>
    simp only [exec, hfree rfl, Bool.false_eq_true, if_false]
    exact hmark
  | commit =>
    obtain ⟨-, hwritten, -⟩ := hcur
    exact hwritten.trans (by rw [hmark]; rfl)
  | _ => exact hmark

theorem exec_jobs {Others : Prop} (hcur : op.Current s rest)
    (hjob : (exec config s answer op).1.jobs job = true)
    (hbef : s.jobs job = true → s.row.status = .active ∨ Clears job (op :: rest) ∨ Others) :
    (exec config s answer op).1.row.status = .active ∨
      Clears job ((exec config s answer op).2 ++ rest) ∨ Others := by
  by_cases hwaits : s.locked = true ∧ op.waits = true
  · rw [exec_of_locked hwaits.1 hwaits.2] at hjob ⊢
    exact hbef hjob
  have hfree : op.waits = true → s.locked = false := fun hop =>
    Bool.eq_false_iff.mpr fun hlocked => hwaits ⟨hlocked, hop⟩
  -- what the operation does not clear itself is cleared as before
  have hkept : ∀ ops, s.jobs job = true → op.clears job = false →
      s.row.status = .active ∨ Clears job (ops ++ rest) ∨ Others := by
    intro ops hjob hop
    obtain hact | ⟨other, hmem, hclr⟩ | hoths := hbef hjob
    · exact .inl hact
    · refine .inr (Or.inl (Clears.append ⟨other, ?_, hclr⟩ ops))
      obtain rfl | hmem := List.mem_cons.mp hmem
      · rw [hop] at hclr
        cases hclr
      · exact hmem
    · exact .inr (Or.inr hoths)
  cases op with
  | save session =>
    simp only [exec, hfree rfl, Bool.false_eq_true, if_false] at hjob ⊢
    have hstat : session.status = s.row.status := congrArg SessionMark.status (hcur (hfree rfl))
    rw [hstat]
    exact hkept [] hjob rfl
  | touch =>
    simp only [exec, hfree rfl, Bool.false_eq_true, if_false] at hjob ⊢
    exact hkept [] hjob rfl
  | beginCommand =>
    simp only [exec, hfree rfl, Bool.false_eq_true, if_false] at hjob ⊢
    exact hkept _ hjob rfl
  | saveCompleted | markFailed =>
    simp only [exec, hfree rfl, Bool.false_eq_true, if_false]
    exact .inr (Or.inl (clears_removeTickJobs job rest))
  | removeJob removed =>
    unfold exec at hjob ⊢
    dsimp only at hjob ⊢
    by_cases heq : job = removed
    · subst heq
      rw [Function.update_self] at hjob
      cases hjob
    · rw [Function.update_of_ne heq] at hjob
      exact hkept [] hjob (decide_eq_false (Ne.symm heq))
  | scheduleJob scheduled =>
    unfold exec at hjob ⊢
    dsimp only at hjob ⊢
    by_cases heq : job = scheduled
    · obtain hact | ⟨command, session, htgt, hmem⟩ := hcur
      · exact .inl hact
      · exact .inr (Or.inl ⟨.commit command session, hmem, decide_eq_true htgt⟩)
    · rw [Function.update_of_ne heq] at hjob
      exact hkept [] hjob rfl
  | commit command =>
    obtain ⟨haccepts, hwritten, hempty⟩ := hcur
    by_cases htgt : command.target = .active
    · refine .inl ?_
      have hstat := congrArg SessionMark.status hwritten
      exact hstat.trans ((Command.decide_status haccepts).trans htgt)
    · have hnone := hempty htgt job
      change s.jobs job = true at hjob
      rw [hnone] at hjob
      cases hjob
  | _ => exact hkept _ hjob rfl

theorem Clears.mem_taskOf {ops : List Op} (h : Clears job ops) :
    ∃ task ∈ (taskOf ops).toList, Clears job task := by
  cases ops with
  | nil =>
    obtain ⟨_, hmem, -⟩ := h
    cases hmem
  | cons op rest => exact ⟨op :: rest, List.mem_singleton.mpr rfl, h⟩

theorem intact_step {pool : Pool Sessions (List Op)} {move : Move SessionCall Answer}
    (h : Intact pool) (hcur : Current pool move) :
    Intact ((sessionProgram config).step pool move) := by
  obtain ⟨_, -, hres⟩ | ⟨_, _, op, rest, before, after, hmove, htask, hsplit,
    hres⟩ | ⟨hshared, htasks⟩ := (sessionScript config).step_cases pool move
  · rw [sessionProgram, hres]
    refine ⟨h.mark, fun job hjob => ?_⟩
    obtain hact | ⟨task, hmem, hclr⟩ := h.jobs job hjob
    · exact .inl hact
    · exact .inr ⟨task, List.mem_append_left _ hmem, hclr⟩
  · rw [sessionProgram, hres]
    subst hmove
    have hop : op.Current pool.shared rest := hcur op rest htask
    refine ⟨exec_mark h.mark hop, fun job hjob => ?_⟩
    -- a job that is cleared is cleared by this task or by one beside it
    have hbef : pool.shared.jobs job = true → pool.shared.row.status = .active ∨
        Clears job (op :: rest) ∨ ∃ other ∈ before ++ after, Clears job other := by
      intro hjob
      obtain hact | ⟨other, hmem, hclr⟩ := h.jobs job hjob
      · exact .inl hact
      · rw [hsplit] at hmem
        simp only [List.mem_append, List.mem_cons] at hmem
        obtain hmem | rfl | hmem := hmem
        · exact .inr (Or.inr ⟨other, List.mem_append_left _ hmem, hclr⟩)
        · exact .inr (Or.inl hclr)
        · exact .inr (Or.inr ⟨other, List.mem_append_right _ hmem, hclr⟩)
    obtain hact | hclr | ⟨other, hmem, hclr⟩ := exec_jobs hop hjob hbef
    · exact .inl hact
    · obtain ⟨next, hmem, hclr⟩ := hclr.mem_taskOf
      exact .inr ⟨next, List.mem_append_right _ (List.mem_append_left _ hmem), hclr⟩
    · refine .inr ⟨other, ?_, hclr⟩
      simp only [List.mem_append] at hmem ⊢
      exact hmem.imp_right Or.inr
  · rw [sessionProgram]
    refine ⟨?_, fun job hjob => ?_⟩
    · rw [hshared]
      exact h.mark
    · rw [hshared] at hjob ⊢
      obtain hact | ⟨task, hmem, hclr⟩ := h.jobs job hjob
      · exact .inl hact
      · obtain ⟨_, hop, -⟩ := id hclr
        exact .inr ⟨task, (htasks task (List.ne_nil_of_mem hop)).mpr hmem, hclr⟩

def created (initialCapital : ℚ) : Pool Sessions (List Op) := ⟨createSession initialCapital, []⟩

/-- **If every operation of a run is current, no decision on the session's status is lost, and once
no task is in flight no job is scheduled for a session that is not active.** -/
theorem status_kept (config : PaperTradingConfig) (initialCapital : ℚ)
    (pool : Pool Sessions (List Op))
    (hreached : (sessionProgram config).Reached Current (created initialCapital) pool) :
    Intact pool ∧
      (pool.inFlight = [] → pool.shared.row.status ≠ .active →
        ∀ job, pool.shared.jobs job = false) := by
  have hintact : Intact pool := hreached.invariant (fun _ _ => intact_step)
    ⟨rfl, fun job hjob => by cases hjob⟩
  refine ⟨hintact, fun hidle hinactive job => ?_⟩
  by_contra hjob
  obtain hactive | ⟨_, hmem, -⟩ := hintact.jobs job (by simpa using hjob)
  · exact hinactive hactive
  · rw [hidle] at hmem
    cases hmem

/-! ## A session that is paused between its ticks, and within one -/

def startMoves : List (Move SessionCall Answer) :=
  [.call (.command .start), .advance 0 { now := 0 },
    .advance 0 { now := 0 }, .call .startSession, .advance 0 { now := 1 }, .advance 0 { now := 2 }]

def commandMoves (command : Command) (position : ℕ) : List (Move SessionCall Answer) :=
  [.call (.command command), .advance position { now := 60 }, .advance position { now := 61 },
    .advance position { now := 62 }, .advance position { now := 63 }]

theorem status_kept_paused :
    ((sessionProgram {}).run (created 1000) (startMoves ++ commandMoves .pause 0)).shared.row.status =
        .paused ∧
      Intact ((sessionProgram {}).run (created 1000) (startMoves ++ commandMoves .pause 0)) ∧
      ∀ job, ((sessionProgram {}).run (created 1000)
        (startMoves ++ commandMoves .pause 0)).shared.jobs job = false := by
  have hcurrent : (sessionProgram {}).AllMeet Current (created 1000)
      (startMoves ++ commandMoves .pause 0) := by
    refine ⟨trivial, ?_, ?_, trivial, ?_, ?_, trivial, ?_, ?_, ?_, ?_, trivial⟩
    all_goals
      intro op rest h
      cases h
    · trivial
    · exact ⟨rfl, rfl, fun h => absurd rfl h⟩
    · exact fun _ => rfl
    · exact .inl rfl
    · trivial
    · trivial
    · trivial
    · exact ⟨rfl, rfl, fun _ job => by cases job <;> rfl⟩
  obtain ⟨hintact, hidle⟩ := status_kept {} 1000 _ (Program.reached_run hcurrent)
  exact ⟨rfl, hintact, hidle rfl (by decide)⟩

def commandBesideTick (command : Command) : Pool Sessions (List Op) :=
  (sessionProgram {}).run (created 1000)
    (startMoves ++ [.call (.tick false)] ++ commandMoves command 1 ++
      [.advance 0 { now := 70, outcome := .processed ⟨1000, 0, none, none⟩ none },
        .advance 0 { now := 71 }])

/-- The session is active again, without a tick job, and no reason of a stop is stored. -/
structure Reactivated (pool : Pool Sessions (List Op)) : Prop where
  idle : pool.inFlight = []
  status : pool.shared.row.status = .active
  reason : pool.shared.row.stoppedReason = none
  tick : pool.shared.jobs .tick = false

/-- **A tick saves the row it read before a pause or a stop.** -/
theorem stale_save :
    (Reactivated (commandBesideTick .pause) ∧ ¬ Intact (commandBesideTick .pause)) ∧
      Reactivated (commandBesideTick (.stop "user_cancelled" 60)) ∧
        ¬ Intact (commandBesideTick (.stop "user_cancelled" 60)) := by
  refine ⟨⟨⟨rfl, rfl, rfl, rfl⟩, fun h => ?_⟩, ⟨rfl, rfl, rfl, rfl⟩, fun h => ?_⟩
  all_goals
    have hstatus := congrArg SessionMark.status h.mark
    cases hstatus

end Chansey.PaperSession
