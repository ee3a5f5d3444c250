import Chansey.Lib.Tasks

/-!
# Token refresh

A request that is answered 401 refreshes the token and is sent once more. Requests share the refresh
under way; if it fails, the session is marked as expired.

* `authenticatedFetch`: the requests as tasks, interrupted wherever they wait. A refresh is settled
  by its last step, which also clears the shared promise.
-/

namespace Chansey.TokenRefresh

open Tasks

/-- A refresh: its request is under way, answered, or its promise is settled. -/
inductive RefreshPhase where
  | inFlight
  | answered (refreshed : Bool)
  | settled (refreshed : Bool)
  deriving DecidableEq

/-- Where a request waits: for its answer, for the body of a 401, or for a refresh. -/
inductive RequestPhase where
  | inFlight
  | refused
  | waiting (refresh : ℕ)

structure Request where
  isRefreshEndpoint : Bool
  isRetry : Bool := false
  phase : RequestPhase := .inFlight
  sent : ℕ := 1

/-- The state of the module. The refreshes are all that were started; the last two fields count. -/
structure Session where
  refreshPromise : Option ℕ := none
  sessionExpired : Bool := false
  refreshes : List RefreshPhase := []
  /-- The events dispatched since the flag was reset. -/
  dispatched : ℕ := 0
  /-- The refreshes started while the session was marked. -/
  startedExpired : ℕ := 0

inductive Outside where
  | fetch (isRefreshEndpoint : Bool)
  | refreshAnswered (refresh : ℕ) (ok : Bool)
  | refreshFinally (refresh : ℕ)
  | resetSessionExpiredFlag

def attemptTokenRefresh (s : Session) : Session × ℕ :=
  s.refreshPromise.elim
    ({ s with
        refreshPromise := some s.refreshes.length
        refreshes := s.refreshes ++ [.inFlight]
        startedExpired := s.startedExpired + if s.sessionExpired then 1 else 0 },
      s.refreshes.length)
    fun refresh => (s, refresh)

def refreshFinally (s : Session) (refresh : ℕ) : Option RefreshPhase → Session
  | some (.answered ok) =>
    { s with refreshPromise := none, refreshes := s.refreshes.set refresh (.settled ok) }
  | some .inFlight | some (.settled _) | none => s

def outside (s : Session) : Outside → Session × Option Request
  | .fetch isRefreshEndpoint => (s, some { isRefreshEndpoint := isRefreshEndpoint })
  | .refreshAnswered refresh ok =>
    (if s.refreshes[refresh]? = some .inFlight then
      { s with refreshes := s.refreshes.set refresh (.answered ok) }
    else s, none)
  | .refreshFinally refresh => (refreshFinally s refresh s.refreshes[refresh]?, none)
  | .resetSessionExpiredFlag => ({ s with sessionExpired := false, dispatched := 0 }, none)

def resume (s : Session) (r : Request) : Option RefreshPhase → Session × Option Request
  | some (.settled true) =>
    (s, some { r with isRetry := true, phase := .inFlight, sent := r.sent + 1 })
  | some (.settled false) =>
    ({ s with sessionExpired := true, dispatched := s.dispatched + 1 }, none)
  | some .inFlight | some (.answered _) | none => (s, some r)

/-- The next step of a request; `unauthorized` is the answer to one that was sent. -/
def advance (s : Session) (r : Request) (unauthorized : Bool) : Session × Option Request :=
  match r.phase with
  | .inFlight => (s, if unauthorized then some { r with phase := .refused } else none)
  | .refused =>
    if r.isRetry = false ∧ s.sessionExpired = false ∧ r.isRefreshEndpoint = false then
      ((attemptTokenRefresh s).1, some { r with phase := .waiting (attemptTokenRefresh s).2 })
    else (s, none)
  | .waiting refresh => resume s r s.refreshes[refresh]?

def authenticatedFetch : Program Session Request Outside Bool where
  call := outside
  advance := advance

abbrev World := Pool Session Request

def start : World := { shared := {}, inFlight := [] }

/-- **Refreshing is single-flight** in a state. -/
structure SingleFlight (world : World) : Prop where
  single : ∀ n m : ℕ, world.shared.refreshes[n]? = some RefreshPhase.inFlight →
    world.shared.refreshes[m]? = some RefreshPhase.inFlight → n = m
  sent : ∀ r ∈ world.inFlight, r.sent ≤ 2
  started : world.shared.startedExpired = 0
  dispatched : world.shared.dispatched ≤ 1

/-- A request that learns of a failed refresh finds the session unmarked. -/
def Unmarked (world : World) (move : Move Outside Bool) : Prop :=
  ∀ position answer r refresh, move = .advance position answer →
    world.inFlight[position]? = some r → r.phase = .waiting refresh →
      world.shared.refreshes[refresh]? = some (.settled false) → world.shared.sessionExpired = false

/-! ## What the steps keep -/

/-- The shared promise is the refresh that is not settled, and the mark counts the events. -/
structure Inv (s : Session) : Prop where
  promise : ∀ n phase, s.refreshes[n]? = some phase → (∀ ok, phase ≠ .settled ok) →
    s.refreshPromise = some n
  started : s.startedExpired = 0
  dispatched : s.dispatched = if s.sessionExpired then 1 else 0

/-- A request that is no retry was sent once, and a retry twice. -/
structure Held (_ : Session) (r : Request) : Prop where
  sent : r.sent = if r.isRetry then 2 else 1
  waiting : ∀ n, r.phase = .waiting n → r.isRetry = false

variable {s : Session} {r : Request}

theorem keeps_of_inv {result : Session × Option Request} (hinv : Inv result.1)
    (hheld : ∀ next ∈ result.2, Held result.1 next) : Keeps Inv Held s result where
  inv := hinv
  held := hheld
  others _ h := ⟨h.sent, h.waiting⟩

theorem Inv.setRefresh (h : Inv s) {n : ℕ} {old phase : RefreshPhase} {promise : Option ℕ}
    (hold : s.refreshes[n]? = some old) (hopen : ∀ ok, old ≠ .settled ok)
    (hpromise : (∀ ok, phase ≠ .settled ok) → promise = some n) :
    Inv { s with refreshPromise := promise, refreshes := s.refreshes.set n phase } where
  promise m p hm hp := by
    have hn := h.promise n old hold hopen
    change (s.refreshes.set n phase)[m]? = some p at hm
    change promise = some m
    rcases eq_or_ne n m with rfl | hne
    · rw [List.getElem?_set_self (List.getElem?_eq_some_iff.mp hold).1, Option.some.injEq] at hm
      exact hpromise (hm ▸ hp)
    · rw [List.getElem?_set_ne hne] at hm
      exact absurd (Option.some.inj (hn.symm.trans (h.promise m p hm hp))) hne
  started := h.started
  dispatched := h.dispatched

theorem keeps_outside (h : Inv s) (event : Outside) : Keeps Inv Held s (outside s event) := by
  cases event with
  | fetch =>
    refine keeps_of_inv h fun next hnext => ?_
    cases hnext
    exact ⟨rfl, fun n hn => by cases hn⟩
  | refreshAnswered n ok =>
    refine keeps_of_inv ?_ fun next hnext => by cases hnext
    dsimp only [outside]
    split_ifs with hphase
    · have hpromise := h.promise n _ hphase fun ok hok => by cases hok
      have hset := @Inv.setRefresh s h n _ (.answered ok) s.refreshPromise hphase
        (fun ok hok => by cases hok) fun _ => hpromise
      exact hset
    · exact h
  | refreshFinally n =>
    refine keeps_of_inv ?_ fun next hnext => by cases hnext
    change Inv (refreshFinally s n s.refreshes[n]?)
    cases hphase : s.refreshes[n]? with
    | none => exact h
    | some phase =>
      cases phase with
      | answered ok =>
        exact h.setRefresh hphase (fun ok hok => by cases hok) fun hopen => absurd rfl (hopen ok)
      | inFlight | settled => exact h
  | resetSessionExpiredFlag =>
    exact keeps_of_inv ⟨h.promise, h.started, rfl⟩ fun next hnext => by cases hnext

theorem inv_attemptTokenRefresh (h : Inv s) (hexp : s.sessionExpired = false) :
    Inv (attemptTokenRefresh s).1 := by
  unfold attemptTokenRefresh
  cases hpromise : s.refreshPromise with
  | some => exact h
  | none =>
    refine ⟨fun n phase hn hopen => ?_, ?_, h.dispatched⟩
    · -- the refreshes before it are settled, as nothing was shared
      change some s.refreshes.length = some n
      change (s.refreshes ++ [.inFlight])[n]? = some phase at hn
      rw [List.getElem?_append] at hn
      split_ifs at hn with hlt
      · exact absurd ((h.promise n phase hn hopen).symm.trans hpromise) (by simp)
      · obtain ⟨hle, -⟩ := List.getElem?_eq_some_iff.mp hn
        rw [List.length_singleton] at hle
        exact congrArg some (by omega)
    · change s.startedExpired + (if s.sessionExpired then 1 else 0) = 0
      rw [h.started, hexp]
      rfl

theorem keeps_advance (h : Inv s) (hheld : Held s r) (unauthorized : Bool)
    (hmark : ∀ n, r.phase = .waiting n → s.refreshes[n]? = some (.settled false) →
      s.sessionExpired = false) : Keeps Inv Held s (advance s r unauthorized) := by
  unfold advance
  cases hphase : r.phase with
  | inFlight =>
    refine keeps_of_inv h fun next hnext => ?_
    cases unauthorized with
    | true =>
      cases hnext
      exact ⟨hheld.sent, fun n hn => by cases hn⟩
    | false => cases hnext
  | refused =>
    dsimp only
    split_ifs with hcond
    · refine keeps_of_inv (inv_attemptTokenRefresh h hcond.2.1) fun next hnext => ?_
      cases hnext
      exact ⟨hheld.sent, fun _ _ => hcond.1⟩
    · exact keeps_of_inv h fun next hnext => by cases hnext
  | waiting n =>
    dsimp only
    have hsame : Keeps Inv Held s (s, some r) := keeps_of_inv h fun next hnext =>
      Option.some.inj hnext ▸ hheld
    cases hrefresh : s.refreshes[n]? with
    | none => exact hsame
    | some phase =>
      cases phase with
      | inFlight | answered => exact hsame
      | settled ok =>
        cases ok with
        | true =>
          refine keeps_of_inv h fun next hnext => ?_
          cases hnext
          have hsent := hheld.sent
          rw [hheld.waiting n hphase] at hsent
          exact ⟨congrArg (· + 1) hsent, fun m hm => by cases hm⟩
        | false =>
          refine keeps_of_inv ⟨h.promise, h.started, ?_⟩ fun next hnext => by cases hnext
          change s.dispatched + 1 = 1
          rw [h.dispatched, hmark n hphase hrefresh]
          rfl

/-! ## Runs -/

variable {world : World} {move : Move Outside Bool}

theorem Sound.singleFlight (h : Sound Inv Held world) : SingleFlight world where
  single n m hn hm := by
    have hpromise := h.1.promise n _ hn fun ok hok => by cases hok
    exact Option.some.inj (hpromise.symm.trans (h.1.promise m _ hm fun ok hok => by cases hok))
  sent r hr := by
    rw [(h.2 r hr).sent]
    split_ifs <;> decide
  started := h.1.started
  dispatched := by
    rw [h.1.dispatched]
    split_ifs <;> decide

theorem sound_step (h : Sound Inv Held world) (hmark : Unmarked world move) :
    Sound Inv Held (authenticatedFetch.step world move) :=
  h.step (fun event _ => keeps_outside h.1 event) fun position answer r hmove hr hheld =>
    keeps_advance h.1 hheld answer fun n => hmark position answer r n hmove hr

theorem unmarked_of_singleFlight (h : Sound Inv Held world)
    (hnext : SingleFlight (authenticatedFetch.step world move)) : Unmarked world move := by
  rintro position answer r n rfl hr hphase hrefresh
  by_contra hexp
  rw [Bool.not_eq_false] at hexp
  have hdisp := hnext.dispatched
  have hcount : (authenticatedFetch.step world (.advance position answer)).shared.dispatched =
      world.shared.dispatched + 1 := by
    simp [Program.step, hr, authenticatedFetch, advance, hphase, hrefresh, resume]
  rw [hcount, h.1.dispatched, hexp] at hdisp
  exact absurd hdisp (by decide)

theorem singleFlight_iff_of_sound (h : Sound Inv Held world) (moves : List (Move Outside Bool)) :
    (∀ before after, moves = before ++ after →
      SingleFlight (authenticatedFetch.run world before)) ↔
        authenticatedFetch.AllMeet Unmarked world moves := by
  induction moves generalizing world with
  | nil =>
    refine iff_of_true (fun before after hsplit => ?_) trivial
    obtain ⟨rfl, -⟩ := List.append_eq_nil_iff.mp hsplit.symm
    exact Sound.singleFlight h
  | cons move moves ih =>
    constructor
    · intro hall
      have hmark := unmarked_of_singleFlight h (hall [move] moves rfl)
      refine ⟨hmark, (ih (sound_step h hmark)).mp fun before after hsplit => ?_⟩
      exact hall (move :: before) after (congrArg (move :: ·) hsplit)
    · rintro ⟨hmark, hrest⟩ before after hsplit
      cases before with
      | nil => exact Sound.singleFlight h
      | cons first before =>
        obtain ⟨rfl, htail⟩ := List.cons.inj hsplit
        exact (ih (sound_step h hmark)).mpr hrest before after htail

theorem sound_start : Sound Inv Held start :=
  ⟨⟨fun n phase hn => by simp [start] at hn, rfl, rfl⟩, fun r hr => by simp [start] at hr⟩

/-- **When refreshing is single-flight throughout a run.** -/
theorem singleFlight_iff (moves : List (Move Outside Bool)) :
    (∀ before after, moves = before ++ after →
      SingleFlight (authenticatedFetch.run start before)) ↔
        authenticatedFetch.AllMeet Unmarked start moves :=
  singleFlight_iff_of_sound sound_start moves

theorem event_dispatched_twice :
    ¬ (∀ moves before after, moves = before ++ after →
      SingleFlight (authenticatedFetch.run start before)) := by
  intro h
  have hdisp := (h _ [.call (.fetch false), .call (.fetch false), .advance 0 true, .advance 1 true,
    .advance 0 true, .advance 1 true, .call (.refreshAnswered 0 false), .call (.refreshFinally 0),
    .advance 0 true, .advance 0 true] [] rfl).dispatched
  exact absurd hdisp (by decide)

end Chansey.TokenRefresh
