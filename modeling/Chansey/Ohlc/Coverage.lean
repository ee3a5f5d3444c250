import Chansey.Ohlc.Backfill

/-!
# What a back-fill has covered

* `Orderly`: a page to be stored comes from a supported exchange and ends after the cursor, no
  exchange fails beside one that answers, a back-fill writes the progress of its own range, and none
  is asked for while a cancellation is not cleared.
-/

namespace Chansey.Backfill

open Tasks

variable {E : Type} [DecidableEq E]

def Returned (iterations : List (Iteration E)) (exchangeSlug : E) (timestamp : Instant)
    (candle : OHLCRawData) : Prop :=
  candle.timestamp = timestamp ∧ ∃ iteration ∈ iterations, ∃ page,
    (exchangeSlug, .ohlcv page) ∈ iteration.asked ∧ candle ∈ page

/-- For every candle of its page the table has one that the exchange returned for the same time: this
one, or a later one. -/
def PageStored (s : Backfills E) (attempt : E × ClientAnswer) : Prop :=
  ∀ page, attempt.2 = .ohlcv page → ∀ candle ∈ page, ∃ kept,
    s.candles.get? (attempt.1, candle.timestamp) = some kept ∧
      Returned s.iterations attempt.1 candle.timestamp kept

/-- The cursor moved forward, all candles returned are stored, and every exchange asked answered. -/
structure Iteration.Sound (s : Backfills E) (iteration : Iteration E) : Prop where
  forward : iteration.since < iteration.next
  stored : ∀ attempt ∈ iteration.asked, PageStored s attempt
  answered : ∀ attempt ∈ iteration.asked, attempt.2 ≠ .throws

/-- The cursor was moved over every instant from `start` to `stop`. -/
def Covered (iterations : List (Iteration E)) (start stop : Instant) : Prop :=
  ∀ instant, start ≤ instant → instant < stop →
    ∃ iteration ∈ iterations, iteration.since ≤ instant ∧ instant < iteration.next

/-- The range of the progress is covered up to its cursor, and whole if it is completed. -/
structure BackfillProgress.Covered (s : Backfills E) (progress : BackfillProgress) : Prop where
  cursor : Backfill.Covered s.iterations progress.startDate progress.currentDate
  completed : progress.status = .completed →
    Backfill.Covered s.iterations progress.startDate progress.endDate

structure Fresh (s : Backfills E) (cancellations : ℕ) : Prop where
  le : cancellations ≤ s.cancellations
  lt : s.cancelled = true → cancellations < s.cancellations

structure Backfills.Sound (s : Backfills E) : Prop where
  iterations : ∀ iteration ∈ s.iterations, iteration.Sound s
  progress : ∀ progress ∈ s.progress, progress.Covered s
  queue : ∀ job ∈ s.queue, Fresh s job.cancellations

def Op.Orderly (exchangePriority : List E) (s : Backfills E) (answer : Answer E) : Op E → Prop
  | .loop _ currentDate _ =>
    match fetchOHLCWithFallback exchangePriority answer.client with
    | (asked, .success _ candles) =>
      (∀ lastCandle ∈ candles.getLast?, currentDate < lastCandle.timestamp + HOUR_MS) ∧
        ∀ attempt ∈ asked, attempt.2 ≠ .throws
    | (asked, .failure .noData) => ∀ attempt ∈ asked, attempt.2 ≠ .throws
    | (_, .failure _) => True
  | .findExchange _ _ _ _ exchangeSlug _ => answer.throws = false → exchangeSlug ∈ answer.supported
  | .readProgress (.backfill run _) _ => ∀ progress ∈ s.progress,
    progress.startDate = run.startDate ∧ progress.endDate = run.toDate
  | _ => True

instance (exchangePriority : List E) (s : Backfills E) (answer : Answer E) (op : Op E) :
    Decidable (op.Orderly exchangePriority s answer) := by
  unfold Op.Orderly
  split <;> (try split) <;> infer_instance

def Orderly (exchangePriority : List E) (pool : Pool (Backfills E) (List (Op E))) :
    Move Request (Answer E) → Prop
  | .call (.startBackfill ..) => pool.shared.cancelled = false
  | move => Script.OpMeets (fun s answer op _ => op.Orderly exchangePriority s answer) pool move

instance (exchangePriority : List E) (pool : Pool (Backfills E) (List (Op E)))
    (move : Move Request (Answer E)) : Decidable (Orderly exchangePriority pool move) := by
  unfold Orderly
  split <;> infer_instance

/-! ## Asking the exchanges -/

variable {candles : List OHLCRawData} {exchangeSlug : E} {client : ℕ → ClientAnswer}
  {asked : List (E × ClientAnswer)} {stored : OrdMap (E × Instant) OHLCRawData}
  {iteration : Iteration E} {iterations : List (Iteration E)} {updates : ProgressUpdates}

omit [DecidableEq E] in
theorem fetchOHLC_success {slug exchangeSlug : E} {answer : ClientAnswer}
    (h : fetchOHLC slug answer = .success exchangeSlug candles) :
    exchangeSlug = slug ∧ answer = .ohlcv candles ∧ candles ≠ [] := by
  cases answer with
  | ohlcv page =>
    cases page with
    | nil => cases h
    | cons =>
      cases h
      exact ⟨rfl, rfl, List.cons_ne_nil _ _⟩
  | _ => cases h

omit [DecidableEq E] in
theorem fetchOHLC_failure {slug : E} {answer : ClientAnswer} {errorType : OHLCFetchErrorType}
    (h : fetchOHLC slug answer = .failure errorType) :
    ∀ candles, answer = .ohlcv candles → candles = [] := by
  rintro (_ | ⟨candle, candles⟩) rfl
  · rfl
  · cases h

structure PageOf (asked : List (E × ClientAnswer)) (exchangeSlug : E)
    (candles : List OHLCRawData) : Prop where
  nonempty : candles ≠ []
  mem : (exchangeSlug, .ohlcv candles) ∈ asked
  only : ∀ attempt ∈ asked, ∀ page, attempt.2 = .ohlcv page →
    page = [] ∨ attempt = (exchangeSlug, .ohlcv candles)

omit [DecidableEq E] in
theorem fetchFrom_success {sawNoData : Bool} {attempts asked : List (E × ClientAnswer)}
    (h : fetchFrom sawNoData attempts = (asked, .success exchangeSlug candles)) :
    PageOf asked exchangeSlug candles := by
  induction attempts generalizing sawNoData asked with
  | nil => cases h
  | cons attempt attempts ih =>
    unfold fetchFrom at h
    split at h
    · rename_i slug page hfetch
      cases h
      obtain ⟨rfl, hans, hne⟩ := fetchOHLC_success hfetch
      refine ⟨hne, ?_, fun other hother page hpage => ?_⟩
      · rw [List.mem_singleton, ← hans]
      · obtain rfl := List.mem_singleton.mp hother
        exact .inr (by rw [← hans])
    · rename_i errorType hfetch
      obtain ⟨rfl, hlater⟩ := Prod.mk.inj h
      have hpage := ih (Prod.ext rfl hlater)
      refine ⟨hpage.nonempty, List.mem_cons_of_mem _ hpage.mem, fun other hother page heq => ?_⟩
      rcases List.mem_cons.mp hother with rfl | hother
      · exact .inl (fetchOHLC_failure hfetch page heq)
      · exact hpage.only other hother page heq

omit [DecidableEq E] in
theorem fetchFrom_failure {sawNoData : Bool} {errorType : OHLCFetchErrorType}
    {attempts asked : List (E × ClientAnswer)}
    (h : fetchFrom sawNoData attempts = (asked, .failure errorType)) :
    ∀ attempt ∈ asked, ∀ page, attempt.2 = .ohlcv page → page = [] := by
  induction attempts generalizing sawNoData asked with
  | nil =>
    obtain ⟨rfl, -⟩ := Prod.mk.inj h
    exact fun attempt hmem => by cases hmem
  | cons attempt attempts ih =>
    unfold fetchFrom at h
    split at h
    · cases h
    · rename_i hfetch
      obtain ⟨rfl, hlater⟩ := Prod.mk.inj h
      intro other hother
      rcases List.mem_cons.mp hother with rfl | hother
      · exact fetchOHLC_failure hfetch
      · exact ih (Prod.ext rfl hlater) other hother

omit [DecidableEq E] in
theorem fetchOHLCWithFallback_success {exchangePriority : List E}
    (h : fetchOHLCWithFallback exchangePriority client = (asked, .success exchangeSlug candles)) :
    PageOf asked exchangeSlug candles := by
  unfold fetchOHLCWithFallback at h
  split at h
  · cases h
  · exact fetchFrom_success h

omit [DecidableEq E] in
theorem fetchOHLCWithFallback_failure {exchangePriority : List E} {errorType : OHLCFetchErrorType}
    (h : fetchOHLCWithFallback exchangePriority client = (asked, .failure errorType)) :
    ∀ attempt ∈ asked, ∀ page, attempt.2 = .ohlcv page → page = [] := by
  unfold fetchOHLCWithFallback at h
  split at h
  · obtain ⟨rfl, -⟩ := Prod.mk.inj h
    exact fun attempt hmem => by cases hmem
  · exact fetchFrom_failure h

/-! ## Storing a page -/

theorem get?_storeCandles (key : E × Instant) :
    (∃ candle ∈ candles, (exchangeSlug, candle.timestamp) = key ∧
        (storeCandles stored exchangeSlug candles).get? key = some candle) ∨
      (∀ candle ∈ candles, (exchangeSlug, candle.timestamp) ≠ key) ∧
        (storeCandles stored exchangeSlug candles).get? key = stored.get? key := by
  induction candles generalizing stored with
  | nil => exact .inr ⟨fun candle hmem => (by cases hmem), rfl⟩
  | cons candle candles ih =>
    obtain ⟨other, hmem, hkey, hget⟩ | ⟨hnone, hget⟩ :=
      @ih (stored.set (exchangeSlug, candle.timestamp) candle)
    · exact .inl ⟨other, List.mem_cons_of_mem _ hmem, hkey, hget⟩
    · rw [OrdMap.get?_set] at hget
      by_cases hkey : (exchangeSlug, candle.timestamp) = key
      · rw [if_pos hkey] at hget
        exact .inl ⟨candle, List.mem_cons_self, hkey, hget⟩
      · rw [if_neg hkey] at hget
        exact .inr ⟨List.forall_mem_cons.mpr ⟨hkey, hnone⟩, hget⟩

omit [DecidableEq E] in
theorem Returned.mono {timestamp : Instant} {candle : OHLCRawData} {later : List (Iteration E)}
    (h : Returned iterations exchangeSlug timestamp candle) (hsub : iterations ⊆ later) :
    Returned later exchangeSlug timestamp candle := by
  obtain ⟨htime, iteration, hmem, hpage⟩ := h
  exact ⟨htime, iteration, hsub hmem, hpage⟩

structure Stores (before after : OrdMap (E × Instant) OHLCRawData) (iteration : Iteration E) :
    Prop where
  kept : ∀ key, after.get? key = before.get? key ∨
    ∃ candle, after.get? key = some candle ∧ Returned [iteration] key.1 key.2 candle
  page : ∀ attempt ∈ iteration.asked, ∀ page, attempt.2 = .ohlcv page → ∀ candle ∈ page, ∃ kept,
    after.get? (attempt.1, candle.timestamp) = some kept ∧
      Returned [iteration] attempt.1 candle.timestamp kept

theorem stores_none (h : ∀ attempt ∈ iteration.asked, ∀ page, attempt.2 = .ohlcv page → page = []) :
    Stores stored stored iteration := by
  refine ⟨fun _ => .inl rfl, fun attempt hattempt page hpage candle hcan => ?_⟩
  rw [h attempt hattempt page hpage] at hcan
  cases hcan

theorem PageOf.stores (h : PageOf iteration.asked exchangeSlug candles) :
    Stores stored (storeCandles stored exchangeSlug candles) iteration := by
  have hret : ∀ candle ∈ candles, Returned [iteration] exchangeSlug candle.timestamp candle :=
    fun candle hmem => ⟨rfl, iteration, List.mem_singleton.mpr rfl, candles, h.mem, hmem⟩
  refine ⟨fun key => ?_, fun attempt hattempt page hpage candle hcan => ?_⟩
  · obtain ⟨candle, hmem, rfl, hget⟩ | ⟨-, hget⟩ :=
      @get?_storeCandles E _ candles exchangeSlug stored key
    · exact .inr ⟨candle, hget, hret candle hmem⟩
    · exact .inl hget
  · obtain rfl | rfl := h.only attempt hattempt page hpage
    · cases hcan
    cases hpage
    obtain ⟨kept, hmem, hkey, hget⟩ | ⟨hnone, -⟩ :=
      @get?_storeCandles E _ candles exchangeSlug stored (exchangeSlug, candle.timestamp)
    · exact ⟨kept, hget, (Prod.mk.inj hkey).2 ▸ hret kept hmem⟩
    · exact absurd rfl (hnone candle hcan)

/-! ## Covering a range -/

omit [DecidableEq E] in
theorem Covered.mono {iterations later : List (Iteration E)} {start stop : Instant}
    (h : Covered iterations start stop) (hsub : iterations ⊆ later) : Covered later start stop := by
  intro instant hstart hstop
  obtain ⟨iteration, hmem, hbounds⟩ := h instant hstart hstop
  exact ⟨iteration, hsub hmem, hbounds⟩

omit [DecidableEq E] in
theorem Covered.of_le {start stop stop' : Instant} (h : Covered iterations start stop)
    (hle : stop' ≤ stop) : Covered iterations start stop' :=
  fun instant hstart hstop => h instant hstart (hstop.trans_le hle)

omit [DecidableEq E] in
theorem covered_self (iterations : List (Iteration E)) (start : Instant) :
    Covered iterations start start :=
  fun _ hstart hstop => absurd hstart (not_le.mpr hstop)

omit [DecidableEq E] in
theorem Covered.advance {start since next : Instant} (h : Covered iterations start since)
    (asked : List (E × ClientAnswer)) :
    Covered (iterations ++ [⟨since, next, asked⟩]) start next := by
  intro instant hstart hstop
  by_cases hbef : instant < since
  · obtain ⟨iteration, hmem, hbounds⟩ := h instant hstart hbef
    exact ⟨iteration, List.mem_append_left _ hmem, hbounds⟩
  · exact ⟨⟨since, next, asked⟩, List.mem_append_right _ (List.mem_singleton.mpr rfl),
      not_lt.mp hbef, hstop⟩

/-! ## Steps -/

/-- A back-fill whose cursor is at `currentDate` in a page of the loop. -/
structure BackfillRun.AtPage (s : Backfills E) (run : BackfillRun) (currentDate : Instant)
    (asked : List (E × ClientAnswer)) (exchangeSlug : E) (candles : List OHLCRawData) : Prop where
  fresh : Fresh s run.cancellations
  started : Covered s.iterations run.startDate run.fromDate
  covered : Covered s.iterations run.startDate currentDate
  unfinished : currentDate < run.toDate
  page : PageOf asked exchangeSlug candles
  forward : ∀ lastCandle ∈ candles.getLast?, currentDate < lastCandle.timestamp + HOUR_MS
  answered : ∀ attempt ∈ asked, attempt.2 ≠ .throws

def Op.Sound (s : Backfills E) : Op E → Prop
  | .findCoin job => Fresh s job.cancellations
  | .saveProgress progress => progress.Covered s
  | .addJob job => Fresh s job.cancellations
  | .findMapping progress cancellations => Fresh s cancellations ∧ progress.Covered s
  | .readProgress .request updates =>
    updates.currentDate = none ∧ updates.status ≠ some .completed
  | .readProgress (.backfill run _) updates =>
    (∀ currentDate ∈ updates.currentDate, Covered s.iterations run.startDate currentDate) ∧
      (updates.status = some .completed → Covered s.iterations run.startDate run.toDate)
  | .writeProgress _ progress => progress.Covered s
  | .loop run currentDate _ =>
    Fresh s run.cancellations ∧ Covered s.iterations run.startDate run.fromDate ∧
      Covered s.iterations run.startDate currentDate
  | .findExchange run currentDate _ asked exchangeSlug candles =>
    run.AtPage s currentDate asked exchangeSlug candles
  | .upsertCandles run currentDate _ asked exchangeSlug candles =>
    run.AtPage s currentDate asked exchangeSlug candles
  | .getProgress => True

/-- What a step may change: iterations are added, and a coin is cancelled by a cancellation. -/
structure Later (s t : Backfills E) : Prop where
  iterations : s.iterations ⊆ t.iterations
  cancellations : s.cancellations ≤ t.cancellations
  cancelled : t.cancelled = true → s.cancelled = true ∨ s.cancellations < t.cancellations

variable {exchangePriority : List E} {s t : Backfills E} {answer : Answer E} {op : Op E}
  {rest : List (Op E)} {run : BackfillRun} {progress : BackfillProgress} {cancellations : ℕ}

omit [DecidableEq E] in
theorem Later.refl (s : Backfills E) : Later s s :=
  ⟨List.Subset.refl _, le_rfl, Or.inl⟩

omit [DecidableEq E] in
theorem Fresh.later (h : Fresh s cancellations) (hlater : Later s t) : Fresh t cancellations := by
  refine ⟨h.le.trans hlater.cancellations, fun hcancelled => ?_⟩
  obtain hbefore | hlt := hlater.cancelled hcancelled
  · exact (h.lt hbefore).trans_le hlater.cancellations
  · exact h.le.trans_lt hlt

omit [DecidableEq E] in
theorem BackfillProgress.Covered.later (h : progress.Covered s) (hlater : Later s t) :
    progress.Covered t :=
  ⟨h.cursor.mono hlater.iterations, fun hstat => (h.completed hstat).mono hlater.iterations⟩

omit [DecidableEq E] in
theorem Op.Sound.later (h : op.Sound s) (hlater : Later s t) : op.Sound t := by
  have hsub := hlater.iterations
  cases op with
  | findCoin | addJob => exact Fresh.later h hlater
  | saveProgress | writeProgress => exact BackfillProgress.Covered.later h hlater
  | findMapping => exact ⟨h.1.later hlater, h.2.later hlater⟩
  | readProgress caller =>
    cases caller with
    | request => exact h
    | backfill =>
      exact ⟨fun currentDate hmem => (h.1 currentDate hmem).mono hsub,
        fun hstat => (h.2 hstat).mono hsub⟩
  | loop => exact ⟨h.1.later hlater, h.2.1.mono hsub, h.2.2.mono hsub⟩
  | findExchange
  | upsertCandles =>
    exact ⟨h.fresh.later hlater, h.started.mono hsub, h.covered.mono hsub, h.unfinished, h.page,
      h.forward, h.answered⟩
  | getProgress => trivial

omit [DecidableEq E] in
theorem BackfillProgress.Covered.update (h : progress.Covered s)
    (hcursor : ∀ currentDate ∈ updates.currentDate,
      Backfill.Covered s.iterations progress.startDate currentDate)
    (hcomp : updates.status = some .completed →
      Backfill.Covered s.iterations progress.startDate progress.endDate) :
    (progress.update updates).Covered s := by
  refine ⟨?_, fun hstat => ?_⟩
  · change Backfill.Covered s.iterations progress.startDate
      (updates.currentDate.getD progress.currentDate)
    cases hdate : updates.currentDate with
    | none => exact h.cursor
    | some currentDate => exact hcursor currentDate hdate
  · change updates.status.getD progress.status = .completed at hstat
    cases hupd : updates.status with
    | none =>
      rw [hupd] at hstat
      exact h.completed hstat
    | some =>
      rw [hupd] at hstat
      exact hcomp (hupd.trans (congrArg some hstat))

omit [DecidableEq E] in
theorem giveUp_sound : ∀ next ∈ giveUp run, next.Sound s := by
  intro next hnext
  obtain rfl := List.mem_singleton.mp hnext
  exact ⟨fun currentDate hmem => (by cases hmem), fun hstat => by cases hstat⟩

omit [DecidableEq E] in
theorem rejected_sound (caller : Caller) : ∀ next ∈ caller.rejected, next.Sound s := by
  intro next hnext
  cases caller with
  | request => cases hnext
  | backfill run inLoop =>
    cases inLoop with
    | false => cases hnext
    | true => exact giveUp_sound next hnext

omit [DecidableEq E] in
theorem advance_sound {currentDate : Instant} {totalCandles : ℕ} (hfresh : Fresh s run.cancellations)
    (hstd : Covered s.iterations run.startDate run.fromDate)
    (hcov : Covered s.iterations run.startDate currentDate) :
    ∀ next ∈ advance run currentDate totalCandles, next.Sound s := by
  intro next hnext
  simp only [advance, List.mem_cons, List.not_mem_nil, or_false] at hnext
  obtain rfl | rfl := hnext
  · refine ⟨fun date hdate => ?_, fun hstat => by cases hstat⟩
    obtain rfl := Option.mem_some_iff.mp hdate
    exact hcov
  · exact ⟨hfresh, hstd, hcov⟩

omit [DecidableEq E] in
theorem performBackfill_sound (hfresh : Fresh s run.cancellations)
    (h : Covered s.iterations run.startDate run.fromDate) :
    ∀ next ∈ performBackfill run, next.Sound s := by
  intro next hnext
  simp only [performBackfill, List.mem_cons, List.not_mem_nil, or_false] at hnext
  obtain rfl | rfl := hnext
  · exact ⟨fun currentDate hmem => (by cases hmem), fun hstat => by cases hstat⟩
  · exact ⟨hfresh, h, h⟩

structure KeepsSound (s : Backfills E) (rest : List (Op E)) (result : Backfills E × List (Op E)) :
    Prop where
  sound : result.1.Sound
  later : Later s result.1
  next : ∀ op ∈ result.2, op ∈ rest ∨ op.Sound result.1

theorem KeepsSound.same (h : s.Sound) {ops : List (Op E)} (hops : ∀ op ∈ ops, op ∈ rest ∨ op.Sound s) :
    KeepsSound s rest (s, ops) := ⟨h, .refl s, hops⟩

theorem KeepsSound.append (h : s.Sound) (ops : List (Op E)) (hops : ∀ op ∈ ops, op.Sound s) :
    KeepsSound s rest (s, ops ++ rest) :=
  .same h fun op hop => (List.mem_append.mp hop).symm.imp_right (hops op)

theorem KeepsSound.only (h : s.Sound) {ops : List (Op E)} (hops : ∀ op ∈ ops, op.Sound s) :
    KeepsSound s rest (s, ops) := .same h fun op hop => Or.inr (hops op hop)

theorem Backfills.Sound.keep (h : s.Sound) (hcandles : t.candles = s.candles)
    (hiterations : t.iterations = s.iterations) (hqueue : ∀ job ∈ t.queue, Fresh t job.cancellations)
    (hprog : ∀ progress ∈ t.progress, progress.Covered t) : t.Sound := by
  refine ⟨fun other hother => ?_, hprog, hqueue⟩
  obtain ⟨hforward, hstored, hanswered⟩ := h.iterations other (hiterations ▸ hother)
  refine ⟨hforward, fun attempt hattempt => ?_, hanswered⟩
  unfold PageStored
  rw [hcandles, hiterations]
  exact hstored attempt hattempt

theorem Backfills.Sound.write (h : s.Sound) (hprog : progress.Covered s) :
    ({ s with progress := some progress } : Backfills E).Sound := by
  have hlater : Later s { s with progress := some progress } :=
    ⟨List.Subset.refl _, le_rfl, Or.inl⟩
  refine h.keep rfl rfl (fun job hjob => (h.queue job hjob).later hlater) fun other hother => ?_
  obtain rfl := Option.mem_some_iff.mp hother
  exact hprog.later hlater

theorem Backfills.Sound.iterate (h : s.Sound) (hstores : Stores s.candles stored iteration)
    (hforward : iteration.since < iteration.next)
    (hanswered : ∀ attempt ∈ iteration.asked, attempt.2 ≠ .throws) {t : Backfills E}
    (ht : t = { s with candles := stored, iterations := s.iterations ++ [iteration] }) :
    t.Sound ∧ Later s t := by
  subst ht
  have hlater : Later s { s with candles := stored, iterations := s.iterations ++ [iteration] } :=
    ⟨List.subset_append_left _ _, le_rfl, Or.inl⟩
  have hold := List.subset_append_left s.iterations [iteration]
  have hnew := List.subset_append_right s.iterations [iteration]
  refine ⟨⟨fun other hother => ?_, fun progress hprog => (h.progress progress hprog).later hlater,
    fun job hjob => (h.queue job hjob).later hlater⟩, hlater⟩
  rcases List.mem_append.mp hother with hother | hother
  · obtain ⟨hforward', hstored, hanswered'⟩ := h.iterations other hother
    refine ⟨hforward', fun attempt hattempt page hpage candle hcan => ?_, hanswered'⟩
    obtain ⟨kept, hget, hret⟩ := hstored attempt hattempt page hpage candle hcan
    obtain hsame | ⟨later, hlater, hret'⟩ := hstores.kept (attempt.1, candle.timestamp)
    · exact ⟨kept, hsame.trans hget, hret.mono hold⟩
    · exact ⟨later, hlater, hret'.mono hnew⟩
  · obtain rfl := List.mem_singleton.mp hother
    refine ⟨hforward, fun attempt hattempt page hpage candle hcan => ?_, hanswered⟩
    obtain ⟨kept, hget, hret⟩ := hstores.page attempt hattempt page hpage candle hcan
    exact ⟨kept, hget, hret.mono hnew⟩

theorem findMapping_sound (h : s.Sound)
    (hop : (Op.findMapping progress cancellations : Op E).Sound s) :
    KeepsSound s rest (exec exchangePriority s answer rest (.findMapping progress cancellations)) := by
  simp only [exec]
  split
  · exact .only h fun op hop => by cases hop
  · refine .only h fun next hnext => ?_
    have hreq : ∀ status : Option BackfillStatus, status ≠ some .completed →
        Op.Sound s (.readProgress .request { status := status }) :=
      fun status hstat => ⟨rfl, hstat⟩
    rcases List.mem_append.mp hnext with hnext | hnext
    · split at hnext
      · obtain rfl := List.mem_singleton.mp hnext
        exact hreq none (by simp)
      · cases hnext
    · rcases List.mem_cons.mp hnext with rfl | hnext
      · exact hreq (some .inProgress) (by simp)
      · exact performBackfill_sound hop.1 hop.2.cursor next hnext

theorem readProgress_sound (h : s.Sound) {caller : Caller}
    (hop : (Op.readProgress caller updates : Op E).Sound s)
    (hord : (Op.readProgress caller updates).Orderly exchangePriority s answer) :
    KeepsSound s rest (exec exchangePriority s answer rest (.readProgress caller updates)) := by
  simp only [exec]
  split
  · exact .only h (rejected_sound caller)
  · split
    · exact .same h fun op hmem => Or.inl hmem
    · rename_i progress hprog
      have hcov := h.progress progress hprog
      refine .append h [_] fun next hnext => ?_
      obtain rfl := List.mem_singleton.mp hnext
      cases caller with
      | request =>
        obtain ⟨hdate, hstat⟩ := hop
        exact hcov.update (fun date hmem => by rw [hdate] at hmem; cases hmem)
          fun heq => absurd heq hstat
      | backfill =>
        obtain ⟨hstart, hend⟩ := hord progress hprog
        exact hcov.update (by rw [hstart]; exact hop.1) (by rw [hstart, hend]; exact hop.2)

section Steps

variable {currentDate : Instant} {totalCandles : ℕ}

theorem loop_sound (h : s.Sound) (hop : (Op.loop run currentDate totalCandles : Op E).Sound s)
    (hord : (Op.loop run currentDate totalCandles).Orderly exchangePriority s answer) :
    KeepsSound s rest (exec exchangePriority s answer rest (.loop run currentDate totalCandles)) := by
  obtain ⟨hfresh, hstd, hcov⟩ := hop
  simp only [exec]
  split
  · rename_i hunf
    split
    · exact .only h fun op hop => by cases hop
    · split
      · rename_i asked exchangeSlug candles hfetch
        refine .append h [_] fun next hnext => ?_
        obtain rfl := List.mem_singleton.mp hnext
        simp only [Op.Orderly, hfetch] at hord
        exact ⟨hfresh, hstd, hcov, hunf, fetchOHLCWithFallback_success hfetch, hord.1, hord.2⟩
      · rename_i asked hfetch
        simp only [Op.Orderly, hfetch] at hord
        have hforward : currentDate < currentDate + HOUR_MS :=
          lt_add_of_pos_right currentDate (by decide)
        have hstores : Stores s.candles s.candles ⟨currentDate, currentDate + HOUR_MS, asked⟩ :=
          stores_none (fetchOHLCWithFallback_failure hfetch)
        obtain ⟨hsound, hlater⟩ := h.iterate hstores hforward hord rfl
        refine ⟨hsound, hlater, fun next hnext => ?_⟩
        refine (List.mem_append.mp hnext).symm.imp_right ?_
        exact advance_sound (hfresh.later hlater) (hstd.mono hlater.iterations)
          (hcov.advance asked) next
      · exact .only h giveUp_sound
  · rename_i hfinished
    split
    · refine .only h fun next hnext => ?_
      obtain rfl := List.mem_singleton.mp hnext
      refine ⟨fun date hdate => ?_, fun hstat => by cases hstat⟩
      obtain rfl := Option.mem_some_iff.mp hdate
      exact hstd
    · refine .only h fun next hnext => ?_
      obtain rfl := List.mem_singleton.mp hnext
      exact ⟨fun date hdate => (by cases hdate), fun _ => hcov.of_le (not_lt.mp hfinished)⟩

theorem upsertCandles_sound (h : s.Sound) {asked : List (E × ClientAnswer)} {exchangeSlug : E}
    {candles : List OHLCRawData}
    (hop : (Op.upsertCandles run currentDate totalCandles asked exchangeSlug candles).Sound s) :
    KeepsSound s rest (exec exchangePriority s answer rest
      (.upsertCandles run currentDate totalCandles asked exchangeSlug candles)) := by
  simp only [exec]
  split
  · exact .same h fun op hmem => Or.inl hmem
  · rename_i lastCandle hlast
    split
    · exact .only h giveUp_sound
    · have hstores : Stores s.candles (storeCandles s.candles exchangeSlug candles)
          ⟨currentDate, lastCandle.timestamp + HOUR_MS, asked⟩ := PageOf.stores hop.page
      obtain ⟨hsound, hlater⟩ := h.iterate hstores (hop.forward lastCandle hlast) hop.answered rfl
      refine ⟨hsound, hlater, fun next hnext => ?_⟩
      refine (List.mem_append.mp hnext).symm.imp_right ?_
      exact advance_sound (hop.fresh.later hlater) (hop.started.mono hlater.iterations)
        (hop.covered.advance asked) next

end Steps

theorem exec_sound (h : s.Sound) (hop : op.Sound s) (hord : op.Orderly exchangePriority s answer) :
    KeepsSound s rest (exec exchangePriority s answer rest op) := by
  cases op with
  | findCoin =>
    simp only [exec]
    split
    · exact .only h fun op hop => by cases hop
    · refine .append h [_, _] fun next hnext => ?_
      simp only [List.mem_cons, List.not_mem_nil, or_false] at hnext
      obtain rfl | rfl := hnext
      · exact ⟨covered_self _ _, fun hstat => by cases hstat⟩
      · exact hop
  | saveProgress =>
    simp only [exec]
    split
    · exact .only h fun op hop => by cases hop
    · exact ⟨h.write hop, ⟨List.Subset.refl _, le_rfl, Or.inl⟩, fun op hmem => Or.inl hmem⟩
  | addJob job =>
    simp only [exec]
    split
    · exact .only h fun op hop => by cases hop
    · have hlater : Later s { s with queue := s.queue ++ [job] } :=
        ⟨List.Subset.refl _, le_rfl, Or.inl⟩
      refine ⟨h.keep rfl rfl (fun other hother => ?_) fun p hp =>
        (h.progress p hp).later hlater, hlater, fun op hmem => Or.inl hmem⟩
      rcases List.mem_append.mp hother with hother | hother
      · exact (h.queue other hother).later hlater
      · obtain rfl := List.mem_singleton.mp hother
        exact Fresh.later hop hlater
  | getProgress =>
    simp only [exec]
    split
    · exact .only h fun op hop => by cases hop
    · rename_i progress hprog
      have hcov := h.progress progress hprog
      split
      · exact .only h fun op hop => by cases hop
      · have hlater : Later s { s with cancelled := false } :=
          ⟨List.Subset.refl _, le_rfl, fun hcancelled => by cases hcancelled⟩
        refine ⟨h.keep rfl rfl (fun job hjob => (h.queue job hjob).later hlater) fun p hp =>
          (h.progress p hp).later hlater, hlater, fun next hnext => ?_⟩
        rcases List.mem_cons.mp hnext with rfl | hnext
        · exact .inr ⟨⟨le_rfl, fun hcancelled => by cases hcancelled⟩, hcov.later hlater⟩
        · exact .inl hnext
  | findMapping => exact findMapping_sound h hop
  | readProgress => exact readProgress_sound h hop hord
  | writeProgress caller =>
    simp only [exec]
    split
    · exact .only h (rejected_sound caller)
    · exact ⟨h.write hop, ⟨List.Subset.refl _, le_rfl, Or.inl⟩, fun op hmem => Or.inl hmem⟩
  | loop => exact loop_sound h hop hord
  | findExchange =>
    simp only [exec]
    split
    · exact .only h giveUp_sound
    · rename_i hthrows
      rw [if_pos (hord (Bool.eq_false_iff.mpr hthrows))]
      refine .append h [_] fun next hnext => ?_
      obtain rfl := List.mem_singleton.mp hnext
      exact hop
  | upsertCandles =>
    exact upsertCandles_sound h hop

/-! ## The end of a back-fill -/

def Op.runs : Op E → Bool
  | .readProgress .. | .writeProgress .. | .loop .. | .findExchange .. | .upsertCandles .. => true
  | _ => false

def Op.remaining : Op E → ℕ
  | .readProgress (.backfill _ true) _ => 4
  | .writeProgress (.backfill _ true) _ => 3
  | .readProgress .. => 2
  | .writeProgress .. => 1
  | .loop run currentDate _ => 8 * (run.toDate - currentDate).toNat + 3
  | .findExchange run currentDate .. => 8 * (run.toDate - currentDate).toNat + 2
  | .upsertCandles run currentDate .. => 8 * (run.toDate - currentDate).toNat + 1
  | _ => 0

def remaining (ops : List (Op E)) : ℕ := (ops.map Op.remaining).sum

omit [DecidableEq E] in
theorem remaining_append (ops others : List (Op E)) :
    remaining (ops ++ others) = remaining ops + remaining others := by
  unfold remaining
  rw [List.map_append, List.sum_append]

omit [DecidableEq E] in
theorem remaining_advance {currentDate next : Instant} (totalCandles : ℕ)
    (hforward : currentDate < next) (hunf : currentDate < run.toDate) :
    remaining (advance run next totalCandles : List (Op E)) <
      8 * (run.toDate - currentDate).toNat := by
  have hadv : remaining (advance run next totalCandles : List (Op E)) =
      4 + (8 * (run.toDate - next).toNat + 3 + 0) := rfl
  have hpos : (0 : ℤ) < run.toDate - currentDate := sub_pos.mpr hunf
  have hcloser : (run.toDate - next : ℤ) < run.toDate - currentDate :=
    sub_lt_sub_left hforward run.toDate
  have hnat : (run.toDate - next).toNat < (run.toDate - currentDate).toNat :=
    (Int.toNat_lt_toNat hpos).mpr hcloser
  omega

omit [DecidableEq E] in
theorem remaining_rejected (caller : Caller) (progress : BackfillProgress) :
    remaining (caller.rejected : List (Op E)) < (Op.writeProgress caller progress : Op E).remaining := by
  cases caller with
  | request => exact Nat.zero_lt_one
  | backfill run inLoop =>
    cases inLoop with
    | false => exact Nat.zero_lt_one
    | true => exact Nat.lt_succ_self 2

omit [DecidableEq E] in
theorem remaining_readProgress (caller : Caller) (updates : ProgressUpdates)
    (progress : BackfillProgress) : (Op.readProgress caller updates : Op E).remaining =
      (Op.writeProgress caller progress : Op E).remaining + 1 := by
  cases caller with
  | request => rfl
  | backfill run inLoop => cases inLoop <;> rfl

theorem exec_remaining (hruns : op.runs = true) (hop : op.Sound s)
    (hord : op.Orderly exchangePriority s answer) :
    remaining (exec exchangePriority s answer rest op).2 < remaining (op :: rest) := by
  have hcons : remaining (op :: rest) = op.remaining + remaining rest := rfl
  have hgiveUp : ∀ run : BackfillRun, remaining (giveUp run : List (Op E)) = 2 := fun _ => rfl
  cases op with
  | readProgress caller updates =>
    have hwrite := remaining_readProgress (E := E) caller updates
    have hrejd := remaining_rejected (E := E) caller
    simp only [exec]
    split
    · have := hwrite ⟨0, 0, 0, 0, 0, .pending⟩
      have := hrejd ⟨0, 0, 0, 0, 0, .pending⟩
      change remaining (caller.rejected : List (Op E)) < _
      omega
    · split
      · have := hwrite ⟨0, 0, 0, 0, 0, .pending⟩
        change remaining rest < _
        omega
      · rename_i progress _
        have := hwrite (progress.update updates)
        change (Op.writeProgress caller (progress.update updates) : Op E).remaining + remaining rest < _
        omega
  | writeProgress caller progress =>
    have hrejd := remaining_rejected (E := E) caller progress
    simp only [exec]
    split
    · change remaining (caller.rejected : List (Op E)) < _
      omega
    · change remaining rest < _
      omega
  | loop run currentDate totalCandles =>
    have hloop : (Op.loop run currentDate totalCandles : Op E).remaining =
        8 * (run.toDate - currentDate).toNat + 3 := rfl
    simp only [exec]
    split
    · rename_i hunf
      split
      · change 0 < _
        omega
      · split
        · change 8 * (run.toDate - currentDate).toNat + 2 + remaining rest < _
          omega
        · have hforward : currentDate < currentDate + HOUR_MS :=
            lt_add_of_pos_right currentDate (by decide)
          have hadv := remaining_advance (E := E) totalCandles hforward hunf
          rw [remaining_append]
          omega
        · rw [hgiveUp]
          omega
    · split
      · change 2 < _
        omega
      · change 2 < _
        omega
  | findExchange run currentDate totalCandles asked exchangeSlug candles =>
    have hpos : (0 : ℤ) < run.toDate - currentDate := sub_pos.mpr hop.unfinished
    have hfind : (Op.findExchange run currentDate totalCandles asked exchangeSlug candles).remaining =
        8 * (run.toDate - currentDate).toNat + 2 := rfl
    simp only [exec]
    split
    · rw [hgiveUp]
      omega
    · rename_i hthrows
      rw [if_pos (hord (Bool.eq_false_iff.mpr hthrows))]
      change 8 * (run.toDate - currentDate).toNat + 1 + remaining rest < _
      omega
  | upsertCandles run currentDate totalCandles asked exchangeSlug candles =>
    have hpos : (0 : ℤ) < run.toDate - currentDate := sub_pos.mpr hop.unfinished
    have hupsert :
        (Op.upsertCandles run currentDate totalCandles asked exchangeSlug candles).remaining =
          8 * (run.toDate - currentDate).toNat + 1 := rfl
    simp only [exec]
    split
    · change remaining rest < _
      omega
    · rename_i lastCandle hlast
      split
      · rw [hgiveUp]
        omega
      · have hadv := remaining_advance (E := E) (totalCandles + candles.length)
          (hop.forward lastCandle hlast) hop.unfinished
        rw [remaining_append]
        omega
  | _ => cases hruns

/-! ## Runs -/

theorem receive_sound (h : s.Sound) (request : Request)
    (hcalm : ∀ start stop now, request = .startBackfill start stop now → s.cancelled = false) :
    KeepsSound s [] (receive s request) := by
  cases request with
  | startBackfill =>
    refine .only h fun next hnext => ?_
    obtain rfl := List.mem_singleton.mp hnext
    exact ⟨le_rfl, fun hcancelled => by rw [hcalm _ _ _ rfl] at hcancelled; cases hcancelled⟩
  | resumeBackfill =>
    refine .only h fun next hnext => ?_
    obtain rfl := List.mem_singleton.mp hnext
    trivial
  | runBackfill =>
    simp only [receive]
    split
    · exact .only h fun op hop => by cases hop
    · rename_i job hjob
      exact .only h (performBackfill_sound (h.queue job (List.mem_of_getElem? hjob))
        (covered_self _ _))
  | cancelBackfill =>
    have hlater : Later s { s with cancelled := true, cancellations := s.cancellations + 1 } :=
      ⟨List.Subset.refl _, Nat.le_succ _, fun _ => .inr (Nat.lt_succ_self _)⟩
    refine ⟨h.keep rfl rfl (fun job hjob => (h.queue job hjob).later hlater) fun p hp =>
      (h.progress p hp).later hlater, hlater, fun next hnext => ?_⟩
    obtain rfl := List.mem_singleton.mp hnext
    exact .inr ⟨rfl, by simp⟩

/-- **In every state that orderly steps reach, each iteration has moved the cursor forward, stored
all it was returned and met no exchange that failed; the saved progress is covered up to its cursor,
and to its end once it is completed; a back-fill finds its coin cancelled only after a cancellation
that came later than it; and each step of a back-fill brings it closer to its end.** -/
theorem backfill_covers (exchangePriority : List E) (candles : OrdMap (E × Instant) OHLCRawData)
    (pool : Pool (Backfills E) (List (Op E)))
    (hreached : (backfillProgram exchangePriority).Reached (Orderly exchangePriority)
      (idlePool candles) pool) :
    pool.shared.Sound ∧
      (∀ run currentDate totalCandles, (∃ task ∈ pool.inFlight,
        .loop run currentDate totalCandles ∈ task) → pool.shared.cancelled = true →
          run.cancellations < pool.shared.cancellations) ∧
      ∀ (position : ℕ) answer op rest,
        pool.inFlight[position]? = some (op :: rest) → op.runs = true →
          Orderly exchangePriority pool (.advance position answer) →
            remaining (exec exchangePriority pool.shared answer rest op).2 <
              remaining (op :: rest) := by
  have hsound : Tasks.Holds Backfills.Sound Op.Sound pool := by
    change (backfillScript exchangePriority).program.Reached _ _ _ at hreached
    refine Script.holds ?_ ?_ ?_ hreached
    · intro pool request h hcalm
      have hkeeps := receive_sound h.1 request fun _ _ _ heq => by
        subst heq
        exact hcalm
      refine ⟨hkeeps.sound, fun next hnext => ?_, fun task htask other hother hsound =>
        hsound.later hkeeps.later⟩
      exact (hkeeps.next next hnext).resolve_left (List.not_mem_nil)
    · intro pool position answer op rest h htask horderly
      have hops := h.2 _ (List.mem_of_getElem? htask)
      have hkeeps : KeepsSound pool.shared rest (exec exchangePriority pool.shared answer rest op) :=
        exec_sound h.1 (hops op List.mem_cons_self) (horderly op rest htask)
      refine ⟨hkeeps.sound, fun next hnext => ?_, fun task htask other hother hsound =>
        hsound.later hkeeps.later⟩
      obtain hmem | hnext := hkeeps.next next hnext
      · exact (hops next (List.mem_cons_of_mem _ hmem)).later hkeeps.later
      · exact hnext
    · exact ⟨⟨fun iteration hmem => (by cases hmem), fun progress hmem => (by cases hmem),
        fun job hmem => by cases hmem⟩, fun task htask => by cases htask⟩
  refine ⟨hsound.1, fun run currentDate totalCandles ⟨task, htask, hloop⟩ hcancelled => ?_,
    fun position answer op rest htask hruns horderly => ?_⟩
  · exact (hsound.2 task htask _ hloop).1.lt hcancelled
  · exact exec_remaining hruns (hsound.2 _ (List.mem_of_getElem? htask) op List.mem_cons_self)
      (horderly op rest htask)

def candleAt (hour : ℤ) : OHLCRawData := ⟨hour * HOUR_MS, 100, 110, 90, 105, 10⟩

/-- A job for `hours` hours is asked for, and run up to its loop. -/
def beginMoves (hours : ℤ) (position : ℕ) : List (Move Request (Answer ℕ)) :=
  [.call (.startBackfill (some 0) (some (hours * HOUR_MS)) 0), .advance 0 {}, .advance 0 {},
    .advance 0 {}, .call (.runBackfill position), .advance 0 {}, .advance 0 {}]

def pageMoves (hour : ℤ) : List (Move Request (Answer ℕ)) :=
  [.advance 0 { client := fun attempt => if attempt = 0 then .noMarket else .ohlcv [candleAt hour] },
    .advance 0 { supported := [0, 1] }, .advance 0 {}, .advance 0 {}, .advance 0 {}]

/-- The job is cancelled after its first page and resumed; the last hour has no candle. -/
def resumedMoves : List (Move Request (Answer ℕ)) :=
  beginMoves 3 0 ++ pageMoves 0 ++
    [.call .cancelBackfill, .advance 0 {}, .advance 0 {}, .advance 0 {}, .call .resumeBackfill] ++
    List.replicate 6 (.advance 0 {}) ++ pageMoves 1 ++
    [.advance 0 { client := fun _ => .noMarket }, .advance 0 {}, .advance 0 {}, .advance 0 {},
      .advance 0 {}, .advance 0 {}]

def resumedPool : Pool (Backfills ℕ) (List (Op ℕ)) :=
  (backfillProgram [0, 1]).run (idlePool OrdMap.empty) resumedMoves

theorem backfill_covers_resumed :
    resumedPool.shared.progress = some ⟨0, 3 * HOUR_MS, 3 * HOUR_MS, 1, 100, .completed⟩ ∧
      resumedPool.shared.cancellations = 1 ∧ resumedPool.shared.Sound := by
  have horderly : (backfillProgram [0, 1]).AllMeet (Orderly [0, 1]) (idlePool OrdMap.empty)
      resumedMoves := by decide +kernel
  exact ⟨by decide +kernel, by decide +kernel,
    (backfill_covers [0, 1] OrdMap.empty resumedPool (Program.reached_run horderly)).1⟩

/-! ## Stuck, moved back, cancelled -/

def unsupportedMoves : List (Move Request (Answer ℕ)) :=
  [.advance 0 { client := fun _ => .ohlcv [candleAt 0] }, .advance 0 {}, .advance 0 {}, .advance 0 {}]

/-- A job is cancelled and stops, and another one is asked for and run. -/
def laterMoves : List (Move Request (Answer ℕ)) :=
  beginMoves 2 0 ++ [.call .cancelBackfill, .advance 0 {}, .advance 0 {}, .advance 0 {}] ++
    beginMoves 2 1

/-- **A page of an exchange that is not supported leaves the back-fill where it was, a page from
before the cursor moves it back; and a back-fill asked for after a cancellation ends at once, in
progress for ever.** -/
theorem stuck_and_cancelled :
    let began := (backfillProgram [0, 1]).run (idlePool OrdMap.empty) (beginMoves 2 0)
    let unsupported := (backfillProgram [0, 1]).run began unsupportedMoves
    let later := (backfillProgram [0, 1]).run (idlePool OrdMap.empty) laterMoves
    let stopped := (backfillProgram [0, 1]).step later (.advance 0 {})
    (began.inFlight = [[.loop ⟨0, 0, 2 * HOUR_MS, 0⟩ 0 0]] ∧
        unsupported.inFlight = [[.loop ⟨0, 0, 2 * HOUR_MS, 0⟩ 0 0]] ∧
        unsupported.shared.candles.entries = []) ∧
      ((backfillProgram [0, 1]).run began (pageMoves (-5))).inFlight =
        [[.loop ⟨0, 0, 2 * HOUR_MS, 0⟩ (-4 * HOUR_MS) 1]] ∧
      (later.inFlight = [[.loop ⟨0, 0, 2 * HOUR_MS, 1⟩ 0 0]] ∧ later.shared.cancellations = 1 ∧
        stopped.inFlight = [] ∧
        stopped.shared.progress = some ⟨0, 2 * HOUR_MS, 0, 0, 0, .inProgress⟩) := by
  decide +kernel

end Chansey.Backfill
