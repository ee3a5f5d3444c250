import Chansey.Lib.Run
import Chansey.Notification.Deduped
import Chansey.Notification.FlushWatch

/-!
# Digests lose and repeat nothing

* **`losesNothing`**: nothing is lost in a run whose steps are spared. **`raced_expires`**: an event that
  comes while its job sends is left without one.
-/

namespace Chansey.Digest

open Remote Run

/-! ## What a bucket is for -/

def Sending (s : Digest) (number index : ℕ) : Prop := s.tasks number = some (.sending index)

def Notified (s : Digest) (index : ℕ) (list : DrainedList) : Prop :=
  (∃ sent, list.notifications = [sent] ∧ Digests list.entries sent) ∨
    list.notifications = [] ∧ ∃ number, s.Sending number index

/-- **What a bucket promises.** Each event that was put into the list is in one list that was drained,
or is still there; each list that was drained is notified once; and a list that is not empty has a
job, or a call of `enqueue` is at it. -/
structure LosesNothing (s : Digest) : Prop where
  account : s.enqueued = (s.drained.map (·.entries)).flatten ++ s.pending
  notified : ∀ (index : ℕ) list, s.drained[index]? = some list → s.Notified index list
  armed : s.pending ≠ [] → s.JobStands ∨ ∃ number, s.Arming number

/-! ## The lists -/

/-- What is in the lists. A list that is being sent was not notified, and by nobody else. -/
structure Ledger (s : Digest) : Prop where
  account : s.enqueued = (s.drained.map (·.entries)).flatten ++ s.pending
  notified : ∀ (index : ℕ) list, s.drained[index]? = some list → s.Notified index list
  sending : ∀ number index, s.Sending number index →
    ∃ list, s.drained[index]? = some list ∧ list.notifications = []
  alone : ∀ number number' index, s.Sending number index → s.Sending number' index →
    number = number'

section Lists

variable {bucket : DigestBucket} {s t : Digest} {number : ℕ} {task : Option DigestTask}

theorem Ledger.keepsPromise (hledger : Ledger s) (hwat : Watched bucket s) : LosesNothing s := by
  refine ⟨hledger.account, hledger.notified, fun hpend => ?_⟩
  rcases hwat.covered hpend with ⟨_, hjob, hflush, -⟩ | harm
  · exact .inl (hflush.jobStands hjob)
  · exact .inr harm

theorem Ledger.frame (h : Ledger s) (henqueued : t.enqueued = s.enqueued)
    (hpend : t.pending = s.pending) (hdrained : t.drained = s.drained)
    (hsending : ∀ number index, t.Sending number index ↔ s.Sending number index) : Ledger t := by
  refine ⟨?_, fun index list hlist => ?_, fun number index hsend => ?_,
    fun number number' index hsend hsend' => ?_⟩
  · rw [henqueued, hdrained, hpend]
    exact h.account
  · rw [hdrained] at hlist
    rcases h.notified index list hlist with hsent | ⟨hnone, number, hsend⟩
    · exact .inl hsent
    · exact .inr ⟨hnone, number, (hsending _ _).mpr hsend⟩
  · rw [hdrained]
    exact h.sending number index ((hsending _ _).mp hsend)
  · exact h.alone number number' index ((hsending _ _).mp hsend) ((hsending _ _).mp hsend')

theorem sending_update (htasks : t.tasks = Function.update s.tasks number task)
    (hbef : ∀ index, ¬ s.Sending number index) (hafter : ∀ index, task ≠ some (.sending index))
    (number' index : ℕ) : t.Sending number' index ↔ s.Sending number' index := by
  unfold Sending
  rw [htasks]
  by_cases hnum : number' = number
  · subst hnum
    rw [Function.update_self]
    exact iff_of_false (hafter index) (hbef index)
  · rw [Function.update_of_ne hnum]

theorem Ledger.arms (h : Ledger s) {phase : ArmingPhase} {pushedAt : Instant}
    (htask : s.tasks number = some (.arming phase pushedAt)) (harms : Arms bucket s number pushedAt t) :
    Ledger t := by
  have hbef : ∀ index, ¬ s.Sending number index := by
    intro index hsend
    cases htask.symm.trans hsend
  cases harms with
  | goesOn | armed | gaveUp => exact h.frame rfl rfl rfl (sending_update rfl hbef (by simp))

theorem not_sending_of {old : DigestTask} (htask : s.tasks number = some old)
    (hne : ∀ index, old ≠ .sending index) (index : ℕ) : ¬ s.Sending number index :=
  fun hsend => hne index (Option.some_inj.mp (htask.symm.trans hsend))

theorem Ledger.drained (h : Ledger s) (hbef : ∀ index, ¬ s.Sending number index)
    (hpend : s.pending ≠ []) :
    Ledger (s.drain.setTask number (some (.sending s.drained.length))) := by
  have hlist : (s.drain.setTask number (some (.sending s.drained.length))).drained =
      s.drained ++ [{ entries := s.pending }] := by
    show (if s.pending = [] then s.drained else _) = _
    rw [if_neg hpend]
  have hsending : ∀ number' index,
      (s.drain.setTask number (some (.sending s.drained.length))).Sending number' index ↔
        number' = number ∧ index = s.drained.length ∨ s.Sending number' index := by
    intro number' index
    show Function.update s.tasks number _ number' = _ ↔ _
    by_cases hnum : number' = number
    · subst hnum
      rw [Function.update_self]
      constructor
      · intro heq
        exact .inl ⟨rfl, (DigestTask.sending.inj (Option.some_inj.mp heq)).symm⟩
      · rintro (⟨-, rfl⟩ | hsend)
        · rfl
        · exact absurd hsend (hbef index)
    · rw [Function.update_of_ne hnum]
      exact ⟨.inr, fun hor => hor.resolve_left fun hnew => hnum hnew.1⟩
  -- nobody sends a list that was not drained yet
  have hlt : ∀ {number' index}, s.Sending number' index → index < s.drained.length := by
    intro number' index hsend
    obtain ⟨_, hget, -⟩ := h.sending number' index hsend
    exact (List.getElem?_eq_some_iff.mp hget).1
  refine ⟨?_, fun index list hget => ?_, fun number' index hsend => ?_,
    fun number' number'' index hsend hsend' => ?_⟩
  · rw [hlist, List.map_append, List.flatten_append]
    show s.enqueued = _ ++ [s.pending].flatten ++ []
    rw [List.flatten_singleton, List.append_nil]
    exact h.account
  · rw [hlist] at hget
    by_cases hindex : index < s.drained.length
    · rw [List.getElem?_append_left hindex] at hget
      rcases h.notified index list hget with hsent | ⟨hnone, number', hsend⟩
      · exact .inl hsent
      · exact .inr ⟨hnone, number', (hsending _ _).mpr (.inr hsend)⟩
    · have hlast : index = s.drained.length ∧ list = { entries := s.pending } := by
        rw [List.getElem?_append_right (not_lt.mp hindex), List.getElem?_singleton] at hget
        split_ifs at hget with hzero
        exact ⟨by omega, (Option.some_inj.mp hget).symm⟩
      obtain ⟨rfl, rfl⟩ := hlast
      exact .inr ⟨rfl, number, (hsending _ _).mpr (.inl ⟨rfl, rfl⟩)⟩
  · rw [hlist]
    rcases (hsending _ _).mp hsend with ⟨-, rfl⟩ | hsend
    · exact ⟨{ entries := s.pending }, by simp, rfl⟩
    · obtain ⟨list, hget, hnone⟩ := h.sending number' index hsend
      exact ⟨list, (List.getElem?_append_left (hlt hsend)).trans hget, hnone⟩
  · rcases (hsending _ _).mp hsend with ⟨hnum, hindex⟩ | hbef
    · rcases (hsending _ _).mp hsend' with ⟨hnum', -⟩ | hbef'
      · exact hnum.trans hnum'.symm
      · exact absurd (hlt hbef') (by omega)
    · rcases (hsending _ _).mp hsend' with ⟨-, _⟩ | hbef'
      · exact absurd (hlt hbef) (by omega)
      · exact h.alone number' number'' index hbef hbef'

theorem Ledger.sent (h : Ledger s) {index : ℕ} (hsend : s.Sending number index)
    (hdrained : t.drained = s.drained.modify index fun list =>
      { list with notifications := list.notifications ++ [parseAndDedupe list.entries] })
    (htasks : t.tasks = Function.update s.tasks number (some .finishing))
    (henqueued : t.enqueued = s.enqueued) (hpend : t.pending = s.pending) : Ledger t := by
  have hsending : ∀ number' index', t.Sending number' index' ↔
      number' ≠ number ∧ s.Sending number' index' := by
    intro number' index'
    unfold Sending
    rw [htasks]
    by_cases hnum : number' = number
    · subst hnum
      rw [Function.update_self]
      exact iff_of_false (by simp) fun hand => hand.1 rfl
    · rw [Function.update_of_ne hnum]
      exact (and_iff_right hnum).symm
  refine ⟨?_, fun index' list hget => ?_, fun number' index' hsend' => ?_,
    fun number' number'' index' hsend' hsend'' => ?_⟩
  · have hents : t.drained.map (·.entries) = s.drained.map (·.entries) := by
      rw [hdrained]
      refine List.ext_getElem? fun i => ?_
      rw [List.getElem?_map, List.getElem?_map, List.getElem?_modify]
      cases s.drained[i]? with
      | none => rfl
      | some => by_cases hi : index = i <;> simp [hi]
    rw [henqueued, hpend, hents]
    exact h.account
  · rw [hdrained, List.getElem?_modify] at hget
    obtain ⟨list', hget', heq⟩ := Option.map_eq_some_iff.mp hget
    by_cases hindex : index = index'
    · subst hindex
      rw [if_pos rfl] at heq
      obtain ⟨list'', hget'', hnone⟩ := h.sending number index hsend
      obtain rfl : list'' = list' := Option.some_inj.mp (hget''.symm.trans hget')
      subst heq
      refine .inl ⟨parseAndDedupe list''.entries, ?_, digests_parseAndDedupe _⟩
      show list''.notifications ++ _ = _
      rw [hnone, List.nil_append]
    · rw [if_neg hindex] at heq
      obtain rfl : list' = list := heq
      rcases h.notified index' list' hget' with hsent | ⟨hnone, number', hsend'⟩
      · exact .inl hsent
      · refine .inr ⟨hnone, number', (hsending _ _).mpr ⟨?_, hsend'⟩⟩
        rintro rfl
        exact hindex (DigestTask.sending.inj (Option.some_inj.mp (hsend.symm.trans hsend')))
  · obtain ⟨hnum, hbef⟩ := (hsending _ _).mp hsend'
    obtain ⟨list, hget, hnone⟩ := h.sending number' index' hbef
    have hindex : index ≠ index' := by
      rintro rfl
      exact hnum (h.alone number' number index hbef hsend)
    refine ⟨list, ?_, hnone⟩
    rw [hdrained, List.getElem?_modify, hget]
    exact congrArg some (if_neg hindex)
  · exact h.alone number' number'' index' ((hsending _ _).mp hsend').2 ((hsending _ _).mp hsend'').2

theorem Ledger.pushed (h : Ledger s) {entry : DigestEntry} {number : ℕ} {task' : Option DigestTask}
    (hbef : ∀ index, ¬ s.Sending number index) (hafter : ∀ index, task' ≠ some (.sending index)) :
    Ledger ((s.push bucket entry).setTask number task') := by
  have hsending : ∀ number' index,
      ((s.push bucket entry).setTask number task').Sending number' index ↔
        s.Sending number' index := sending_update rfl hbef hafter
  refine ⟨?_, fun index list hget => ?_, fun number' index hsend => ?_,
    fun number' number'' index hsend hsend' => ?_⟩
  · show s.enqueued ++ [entry] = _ ++ (s.pending ++ [entry])
    rw [h.account, List.append_assoc]
    rfl
  · rcases h.notified index list hget with hsent | ⟨hnone, number', hsend⟩
    · exact .inl hsent
    · exact .inr ⟨hnone, number', (hsending _ _).mpr hsend⟩
  · exact h.sending number' index ((hsending _ _).mp hsend)
  · exact h.alone number' number'' index ((hsending _ _).mp hsend)
      ((hsending _ _).mp hsend')

theorem Ledger.advance (h : Ledger s) (hwat : Watched bucket s) {number : ℕ} {fate : Fate String}
    {task : DigestTask} (htask : s.tasks number = some task)
    (hspar : s.TaskSpared number fate task) : Ledger (s.advance bucket number fate task) := by
  cases task with
  | pushing =>
    have hbef := not_sending_of htask (by simp)
    cases fate with
    | answered | lost => exact h.pushed hbef (by simp)
    | refused => exact h.frame rfl rfl rfl (sending_update rfl hbef (by simp))
  | arming => exact h.arms htask (arms_arm hwat.job hspar)
  | draining =>
    have hbef := not_sending_of htask (by simp)
    cases fate with
    | answered =>
      dsimp only [Digest.advance]
      by_cases hpend : s.pending = []
      · rw [if_pos hpend]
        refine h.frame rfl hpend.symm ?_ (sending_update rfl hbef (by simp))
        exact if_pos hpend
      · rw [if_neg hpend]
        exact h.drained hbef hpend
    | lost =>
      have hpend : s.pending = [] := hspar
      have hsound : s.drain.SoundJob bucket := hwat.job
      obtain ⟨_, hrep, -⟩ := hsound.report number (retried_due s) (retried_isActive s)
      dsimp only [Digest.advance]
      rw [hrep]
      refine h.frame rfl hpend.symm ?_ (sending_update rfl hbef (by simp))
      exact if_pos hpend
    | refused =>
      obtain ⟨_, hrep, -⟩ := hwat.job.report number (retried_due s) (retried_isActive s)
      dsimp only [Digest.advance]
      rw [hrep]
      exact h.frame rfl rfl rfl (sending_update rfl hbef (by simp))
  | sending =>
    have hrch : fate.reached = true := hspar
    dsimp only [Digest.advance]
    rw [if_pos hrch]
    exact h.sent htask rfl rfl rfl rfl
  | finishing =>
    have hbef := not_sending_of htask (by simp)
    obtain ⟨_, hrep, -⟩ := hwat.job.report number
      (f := fun job => { job with state := .completed }) (fun _ => rfl) fun _ => rfl
    dsimp only [Digest.advance]
    rw [hrep]
    split_ifs with hrch
    all_goals exact h.frame rfl rfl rfl (sending_update rfl hbef (by simp))

theorem Ledger.step (h : Ledger s) (hwat : Watched bucket s) {e : DigestEvent}
    (hspar : s.Spared e) : Ledger (s.step bucket e) := by
  have hstart : ∀ index, ¬ s.Sending s.started index := by
    intro index hsend
    cases hsend.symm.trans (hwat.fresh s.started le_rfl)
  cases e with
  | pass ms =>
    obtain ⟨hpend, hpass, -⟩ := hwat.pass_eq hspar
    show Ledger (s.pass ms)
    refine h.frame ?_ hpend ?_ fun number index => ?_
    · rw [hpass]
    · rw [hpass]
    · rw [hpass]
      rfl
  | enqueue => exact h.frame rfl rfl rfl (sending_update rfl hstart (by simp))
  | take =>
    show Ledger s.take
    unfold take
    cases hjob : s.job with
    | none => exact h
    | some =>
      dsimp only
      split_ifs with hready
      · exact h.frame rfl rfl rfl (sending_update rfl hstart (by simp))
      · exact h
  | stall fails =>
    show Ledger (s.stall fails)
    unfold stall
    cases hjob : s.job with
    | none => exact h
    | some job =>
      dsimp only
      cases hstate : job.state with
      | active worker lock =>
        cases lock with
        | recovery => exact h
        | worker => exact h.frame rfl rfl rfl fun _ _ => Iff.rfl
      | _ => exact h
  | crash number =>
    show Ledger (s.finish number)
    refine h.frame rfl rfl rfl (sending_update rfl (fun index hsend => ?_) (by simp))
    exact hspar _ hsend
  | advance number fate =>
    cases htask : s.tasks number with
    | none =>
      have hsame : s.step bucket (.advance number fate) = s := by simp only [Digest.step, htask]
      rw [hsame]
      exact h
    | some task =>
      have hadv : s.step bucket (.advance number fate) = s.advance bucket number fate task := by
        simp only [Digest.step, htask]
      rw [hadv]
      exact h.advance hwat htask (hspar task htask)

end Lists

/-! ## Every run -/

variable (bucket : DigestBucket)

theorem ledger_empty : Ledger {} := by
  refine ⟨rfl, fun index list hget => ?_, fun number index hsend => ?_,
    fun number number' index hsend => ?_⟩
  · cases hget
  · cases hsend
  · cases hsend

/-- **In every run whose steps are spared, digests lose and repeat nothing.** -/
theorem losesNothing (es : List DigestEvent)
    (hspared : Throughout (step bucket) Spared {} es) (before after : List DigestEvent)
    (hes : es = before ++ after) : LosesNothing (before.foldl (step bucket) {}) := by
  subst hes
  have hinv := Throughout.invariant (fun s => Ledger s ∧ Watched bucket s)
    (fun s e h hstep => ⟨h.1.step h.2 hstep, h.2.step hstep⟩) ⟨ledger_empty, watched_empty bucket⟩
    hspared.left
  exact hinv.1.keepsPromise hinv.2

def startedEntry (pipelineId : String) : DigestEntry where
  pipelineId := pipelineId
  strategyName := "Trend"
  subType := .started
  atTime := "2025-01-01T00:00:00.000Z"

def oneDigest : List DigestEvent :=
  [.enqueue (startedEntry "p1"), .advance 0 .answered, .advance 0 .answered, .advance 0 .answered,
    .pass 300000, .take, .advance 1 .answered, .advance 1 .answered, .advance 1 .answered]

theorem oneDigest_losesNothing : LosesNothing (oneDigest.foldl (step .started) {}) := by
  refine losesNothing .started oneDigest ⟨trivial, ?_, ?_, ?_, ⟨?_, ?_⟩, trivial, ?_, ?_, ?_, trivial⟩
    oneDigest [] (List.append_nil _).symm
  · exact fun task htask => taskSpared_answered 0 fun _ _ => rfl
  · exact fun task htask => taskSpared_answered 0 fun _ _ => rfl
  · exact fun task htask => taskSpared_answered 0 fun _ _ => rfl
  · intro number phase pushedAt htask
    cases number <;> cases htask
  · intro _ job hjob _
    cases hjob
    decide
  all_goals
    refine fun task htask => taskSpared_answered 1 ?_
    rintro pushedAt rfl
    cases htask

def raced : List DigestEvent :=
  [.enqueue (startedEntry "p1"), .advance 0 .answered, .advance 0 .answered, .advance 0 .answered,
    .pass 300000, .take, .advance 1 .answered,
    .enqueue (startedEntry "p2"), .advance 2 .answered, .advance 2 .answered, .advance 2 .answered,
    .advance 2 .answered, .advance 2 .answered,
    .advance 1 .answered, .advance 1 .answered,
    .advance 2 .answered, .advance 2 .answered, .advance 2 .answered]

def racedAndExpired : List DigestEvent := raced ++ [.pass 3900000]

/-- **An event is left without a job**, with every call answered, until its list expires. -/
theorem raced_expires :
    (raced.foldl (step .started) {}).pending = [startedEntry "p2"] ∧
      (raced.foldl (step .started) {}).job.map (·.state) = some .completed ∧
      (racedAndExpired.foldl (step .started) {}).pending = [] ∧
      ¬ ∀ (bucket : DigestBucket) (es before after : List DigestEvent), es = before ++ after →
        LosesNothing (before.foldl (step bucket) {}) := by
  have hpending : (racedAndExpired.foldl (step .started) {}).pending = [] := by
    decide +kernel
  refine ⟨by decide +kernel, by decide +kernel, hpending, fun h => ?_⟩
  have haccount := (h .started _ racedAndExpired [] (List.append_nil _).symm).account
  rw [hpending] at haccount
  revert haccount
  decide +kernel

end Chansey.Digest
