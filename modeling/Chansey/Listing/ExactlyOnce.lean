import Chansey.Lib.Run
import Chansey.Listing.Execution

/-!
# Listings are bought once

* `ExactlyOnce`: one open position and one unclosed buy for a coin, no more positions than the
  strategy allows, and a row for every buy.
* `Undisturbed`: a buy is made under its lock and answered, its position is saved, and the lock
  stands until then. `Guarded`: the invariant, with what a worker knows under its lock.
-/

namespace Chansey.Listing

open Remote Run

/-! ## What the jobs are for -/

namespace Listings

def HasRow (s : Listings) (orderId : ListingOrderId) (job : ListingTradeExecutionJobData) : Prop :=
  ∃ p ∈ s.positions, p.orderId = orderId ∧ p.userId = job.userId ∧ p.coinId = job.coinId ∧
    p.strategyType = job.strategyType

def Unclosed (s : Listings) (orderId : ListingOrderId) : Prop :=
  ∀ p ∈ s.positions, p.orderId = orderId → p.status = .open

/-- Some worker is about to save the position of the buy. -/
def Saving (s : Listings) (orderId : ListingOrderId) (job : ListingTradeExecutionJobData) : Prop :=
  ∃ number, s.workers number = some ⟨job, .savingPosition orderId⟩

def HasLock (s : Listings) (number : ℕ) (userId : String) : Prop :=
  s.redis.get (lockKey userId) = some number

instance (s : Listings) (number : ℕ) (userId : String) : Decidable (s.HasLock number userId) :=
  inferInstanceAs (Decidable (s.redis.get (lockKey userId) = some number))

end Listings

variable (riskLevel : String → ℤ)

structure ExactlyOnce (s : Listings) : Prop where
  position : ∀ (i j : ℕ) p q, s.positions[i]? = some p → s.positions[j]? = some q →
    p.status = .open → q.status = .open → p.userId = q.userId → p.coinId = q.coinId → i = j
  buy : ∀ (i j : ℕ) job job', s.buys[i]? = some job → s.buys[j]? = some job' →
    job.userId = job'.userId → job.coinId = job'.coinId → s.Unclosed i → s.Unclosed j → i = j
  limit : ∀ userId strategyType, s.countActivePositions userId strategyType ≤
    (Listings.maxConcurrent riskLevel userId strategyType).getD 0
  row : ∀ (i : ℕ) job, s.buys[i]? = some job → s.HasRow i job ∨ s.Saving i job

def Undisturbed (s : Listings) : ListingEvent → Prop
  | .pass ms => ∀ number job orderId, s.workers number = some ⟨job, .savingPosition orderId⟩ →
    (s.redis.pass ms).get (lockKey job.userId) = some number
  | .advance number answer =>
    (∀ job, s.workers number = some ⟨job, .executingTradeSignal⟩ → answer.order.reached = true →
      s.HasLock number job.userId ∧ answer.order = .answered) ∧
    ∀ job orderId, s.workers number = some ⟨job, .savingPosition orderId⟩ → answer.saved = true
  | .enqueue _ | .start _ | .close .. => True

/-! ## The invariant -/

structure Room (s : Listings) (job : ListingTradeExecutionJobData) : Prop where
  holding : s.hasOpenPositionForCoin job.userId job.coinId = false
  active : s.countActivePositions job.userId job.strategyType <
    (Listings.maxConcurrent riskLevel job.userId job.strategyType).getD 0

/-- The buy of a worker that saves its position: made under the lock, and there is room for it. -/
structure Owned (s : Listings) (number : ℕ) (job : ListingTradeExecutionJobData)
    (orderId : ListingOrderId) : Prop where
  lock : s.HasLock number job.userId
  buy : s.buys[orderId]? = some job
  unsaved : ∀ p ∈ s.positions, p.orderId ≠ orderId
  room : Room riskLevel s job

def Knows (s : Listings) (number : ℕ) (job : ListingTradeExecutionJobData) : ListingPhase → Prop
  | .countingActive =>
    s.HasLock number job.userId → s.hasOpenPositionForCoin job.userId job.coinId = false
  | .preparing | .executingTradeSignal => s.HasLock number job.userId → Room riskLevel s job
  | .savingPosition orderId => Owned riskLevel s number job orderId
  | .loading | .acquiring | .checkingHolding | .updatingSource | .releasing => True

/-- The rows: one open for a coin, within the limits, each of a buy of its own. -/
structure Rows (s : Listings) : Prop where
  position : ∀ (i j : ℕ) p q, s.positions[i]? = some p → s.positions[j]? = some q →
    p.status = .open → q.status = .open → p.userId = q.userId → p.coinId = q.coinId → i = j
  limit : ∀ userId strategyType, s.countActivePositions userId strategyType ≤
    (Listings.maxConcurrent riskLevel userId strategyType).getD 0
  own : (s.positions.map (·.orderId)).Nodup
  bought : ∀ p ∈ s.positions, p.orderId < s.buys.length

structure Guarded (s : Listings) : Prop where
  fresh : ∀ number, s.started ≤ number → s.workers number = none
  locks : ∀ key number, s.redis.get key = some number → number < s.started
  knows : ∀ number job phase, s.workers number = some ⟨job, phase⟩ →
    Knows riskLevel s number job phase
  rows : Rows riskLevel s
  row : ∀ (i : ℕ) job, s.buys[i]? = some job → s.HasRow i job ∨ s.Saving i job

variable {riskLevel} {s : Listings} {number : ℕ} {job : ListingTradeExecutionJobData}

theorem hasOpenPositionForCoin_iff {userId coinId : String} :
    s.hasOpenPositionForCoin userId coinId = true ↔
      ∃ p ∈ s.positions, p.status = .open ∧ p.userId = userId ∧ p.coinId = coinId := by
  simp [Listings.hasOpenPositionForCoin, ListingTradePosition.holds]

theorem Guarded.exactlyOnce (h : Guarded riskLevel s) : ExactlyOnce riskLevel s where
  position := h.rows.position
  limit := h.rows.limit
  row := h.row
  buy := by
    intro i j job job' hi hj huser hcoin hopeni hopenj
    -- a row of an unclosed buy leaves no room for a buy of its coin
    have hnoroom : ∀ {i k : ℕ} {job job' : ListingTradeExecutionJobData},
        job.userId = job'.userId → job.coinId = job'.coinId → s.Unclosed i →
        s.HasRow i job → ¬ s.Saving k job' := by
      rintro i k job job' huser hcoin hopen ⟨p, hp, horder, hpuser, hpcoin, -⟩ ⟨number, hsav⟩
      have hholds := hasOpenPositionForCoin_iff.2
        ⟨p, hp, hopen p hp horder, hpuser.trans huser, hpcoin.trans hcoin⟩
      have hroom := (h.knows number job' _ hsav).room.holding
      rw [hroom] at hholds
      cases hholds
    rcases h.row i job hi with hrow | ⟨number, hsav⟩ <;>
      rcases h.row j job' hj with hrow' | ⟨number', hsav'⟩
    · obtain ⟨p, hp, rfl, hpuser, hpcoin, -⟩ := hrow
      obtain ⟨q, hq, rfl, hquser, hqcoin, -⟩ := hrow'
      obtain ⟨m, hm⟩ := List.mem_iff_getElem?.1 hp
      obtain ⟨n, hn⟩ := List.mem_iff_getElem?.1 hq
      have hmn := h.rows.position m n p q hm hn (hopeni p hp rfl) (hopenj q hq rfl)
        (hpuser.trans (huser.trans hquser.symm)) (hpcoin.trans (hcoin.trans hqcoin.symm))
      rw [hmn, hn] at hm
      rw [Option.some.inj hm]
    · exact absurd ⟨number', hsav'⟩ (hnoroom huser hcoin hopeni hrow)
    · exact absurd ⟨number, hsav⟩ (hnoroom huser.symm hcoin.symm hopenj hrow')
    · have hlock := (h.knows number job _ hsav).lock
      have hlock' := (h.knows number' job' _ hsav').lock
      unfold Listings.HasLock at hlock hlock'
      rw [huser, hlock', Option.some.injEq] at hlock
      rw [hlock, hsav] at hsav'
      cases hsav'
      rfl

/-! ## What the steps keep -/

section Steps

variable {t : Listings} {number' : ℕ} {phase : ListingPhase} {w : Option ListingWorker}
  {redis : Leases String ℕ}

theorem Room.of_eq (h : Room riskLevel s job) (hposs : t.positions = s.positions) :
    Room riskLevel t job := by
  obtain ⟨hhold, hact⟩ := h
  unfold Listings.hasOpenPositionForCoin at hhold
  unfold Listings.countActivePositions at hact
  rw [← hposs] at hhold hact
  exact ⟨hhold, hact⟩

theorem Rows.of_eq (h : Rows riskLevel s) (hposs : t.positions = s.positions)
    (hbuys : t.buys = s.buys) : Rows riskLevel t := by
  obtain ⟨hposn, hlimit, hown, hbght⟩ := h
  unfold Listings.countActivePositions at hlimit
  rw [← hposs] at hposn hown hbght
  rw [← hbuys] at hbght
  simp only [← hposs] at hlimit
  exact ⟨hposn, hlimit, hown, hbght⟩

theorem Knows.of_eq (h : Knows riskLevel s number job phase)
    (hposs : t.positions = s.positions) (hbuys : t.buys = s.buys)
    (hlock : t.HasLock number job.userId ↔ s.HasLock number job.userId) :
    Knows riskLevel t number job phase := by
  cases phase with
  | countingActive =>
    intro hheld
    have hhold := h (hlock.1 hheld)
    unfold Listings.hasOpenPositionForCoin at hhold
    rw [← hposs] at hhold
    exact hhold
  | preparing | executingTradeSignal => exact fun hheld => (h (hlock.1 hheld)).of_eq hposs
  | savingPosition =>
    exact ⟨hlock.2 h.lock, hbuys ▸ h.buy, hposs ▸ h.unsaved, h.room.of_eq hposs⟩
  | _ => trivial

theorem guarded_update (hstd : number < s.started)
    (hfresh : ∀ number, s.started ≤ number → s.workers number = none)
    (hlocks : ∀ key number, s.redis.get key = some number → number < s.started)
    (hoths : ∀ other job phase, other ≠ number → s.workers other = some ⟨job, phase⟩ →
      Knows riskLevel s other job phase)
    (hnext : ∀ job phase, w = some ⟨job, phase⟩ → Knows riskLevel s number job phase)
    (hrows : Rows riskLevel s) (hrow : ∀ (i : ℕ) job, s.buys[i]? = some job → s.HasRow i job ∨
      (∃ other, other ≠ number ∧ s.workers other = some ⟨job, .savingPosition i⟩) ∨
        w = some ⟨job, .savingPosition i⟩) :
    Guarded riskLevel { s with workers := Function.update s.workers number w } where
  fresh other hother := by
    have hne : other ≠ number := ne_of_gt (lt_of_lt_of_le hstd hother)
    exact (Function.update_of_ne hne _ _).trans (hfresh other hother)
  locks := hlocks
  knows other job phase hwork := by
    refine Knows.of_eq (?_ : Knows riskLevel s other job phase) rfl rfl Iff.rfl
    dsimp only at hwork
    by_cases hne : other = number
    · subst hne
      rw [Function.update_self] at hwork
      exact hnext job phase hwork
    · rw [Function.update_of_ne hne] at hwork
      exact hoths other job phase hne hwork
  rows := hrows.of_eq rfl rfl
  row i job hbuy := by
    refine (hrow i job hbuy).imp_right ?_
    rintro (⟨other, hne, hsav⟩ | hsav)
    · exact ⟨other, (Function.update_of_ne hne _ _).trans hsav⟩
    · exact ⟨number, (Function.update_self ..).trans hsav⟩

theorem Guarded.row_beside (h : Guarded riskLevel s)
    (hnot : ∀ job orderId, s.workers number ≠ some ⟨job, .savingPosition orderId⟩) (i : ℕ)
    (hbuy : s.buys[i]? = some job) :
    s.HasRow i job ∨ (∃ other, other ≠ number ∧ s.workers other = some ⟨job, .savingPosition i⟩) ∨
      w = some ⟨job, .savingPosition i⟩ := by
  refine (h.row i job hbuy).imp_right fun ⟨other, hsav⟩ => .inl ⟨other, ?_, hsav⟩
  rintro rfl
  exact hnot job i hsav

variable {worker : ListingWorker} {leases : Leases String ℕ} {key : String}

theorem Guarded.started (h : Guarded riskLevel s) (hwork : s.workers number = some worker) :
    number < s.started := by
  by_contra hle
  rw [h.fresh number (not_lt.1 hle)] at hwork
  cases hwork

theorem Guarded.goOn (h : Guarded riskLevel s) (hwork : s.workers number = some worker)
    (hnot : ∀ job orderId, worker ≠ ⟨job, .savingPosition orderId⟩)
    (hnext : ∀ job phase, w = some ⟨job, phase⟩ → Knows riskLevel s number job phase) :
    Guarded riskLevel { s with workers := Function.update s.workers number w } := by
  refine guarded_update (h.started hwork) h.fresh h.locks
    (fun other job phase _ => h.knows other job phase) hnext h.rows fun i job hbuy =>
    h.row_beside (fun job orderId hsav => ?_) i hbuy
  rw [hwork, Option.some.injEq] at hsav
  exact hnot job orderId hsav

/-! ### Locks -/

theorem Guarded.goOnWith (h : Guarded riskLevel s) (hwork : s.workers number = some worker)
    (hnot : ∀ job orderId, worker ≠ ⟨job, .savingPosition orderId⟩)
    (hlocks : ∀ key other, other ≠ number →
      (redis.get key = some other ↔ s.redis.get key = some other))
    (hnext : ∀ job phase, w = some ⟨job, phase⟩ →
      Knows riskLevel { s with redis := redis } number job phase) :
    Guarded riskLevel
      { s with
        redis := redis
        workers := Function.update s.workers number w } := by
  have hstd := h.started hwork
  refine guarded_update (s := { s with redis := redis }) hstd h.fresh (fun key other hheld => ?_)
    (fun other job phase hne hother => ?_) hnext
    (h.rows.of_eq rfl rfl) fun i job hbuy =>
    h.row_beside (fun job orderId hsav => ?_) i hbuy
  · by_cases hne : other = number
    · exact hne ▸ hstd
    · exact h.locks key other ((hlocks key other hne).1 hheld)
  · exact (h.knows other job phase hother).of_eq rfl rfl (hlocks _ other hne)
  · rw [hwork, Option.some.injEq] at hsav
    exact hnot job orderId hsav

theorem get_put_other {ttl : ℕ} (hfree : leases.get key = none) (other : String)
    (hne : number' ≠ number) :
    (leases.put key number ttl).get other = some number' ↔ leases.get other = some number' := by
  by_cases hkey : other = key
  · subst hkey
    rw [hfree]
    refine iff_of_false (fun hget => ?_) (fun hget => nomatch hget)
    obtain ⟨_, hcell, -⟩ := Leases.get_eq_some_iff.1 hget
    rw [Leases.put_cells_self] at hcell
    cases hcell
    exact hne rfl
  · rw [Leases.get_put_of_ne _ hkey]

theorem get_dropOwn_other (other : String) (hne : number' ≠ number) :
    (leases.dropOwn key number).1.get other = some number' ↔ leases.get other = some number' := by
  unfold Leases.dropOwn
  split
  · rename_i hown
    by_cases hkey : other = key
    · subst hkey
      rw [Leases.get_drop_self, hown]
      exact iff_of_false (fun hget => nomatch hget) fun hget => hne (Option.some.inj hget).symm
    · rw [Leases.get_drop_of_ne hkey]
  · exact Iff.rfl

theorem claim_cases (leases : Leases String ℕ) (key : String) (number : ℕ) (fate : Fate String) :
    (∃ result, call (fun redis => redis.claim key number LOCK_TTL_MS) leases fate =
        (leases, result) ∧ (∀ held, result = .ok held → held ≠ none)) ∨
      (leases.get key = none ∧ ∃ result, call (fun redis => redis.claim key number LOCK_TTL_MS)
        leases fate = (leases.put key number LOCK_TTL_MS, result)) := by
  cases hget : leases.get key with
  | some =>
    left
    cases fate <;>
      simp [call, Leases.claim, hget]
  | none =>
    cases fate with
    | refused e =>
      left
      exact ⟨.error e, rfl, fun held h => (by cases h)⟩
    | answered | lost =>
      right
      simp [call, Leases.claim, hget]

theorem Guarded.acquire (h : Guarded riskLevel s)
    (hwork : s.workers number = some ⟨job, .acquiring⟩) (answer : ListingAnswer) :
    Guarded riskLevel (s.process riskLevel number answer job .acquiring) := by
  have hnot : ∀ job' orderId,
      (⟨job, .acquiring⟩ : ListingWorker) ≠ ⟨job', .savingPosition orderId⟩ :=
    fun _ _ heq => nomatch heq
  obtain ⟨result, hcall, hheld⟩ | ⟨hfree, result, hcall⟩ :=
    claim_cases s.redis (lockKey job.userId) number answer.redis
  · have hfinish : Guarded riskLevel (s.finish number) :=
      h.goOn hwork hnot fun _ _ hnone => nomatch hnone
    unfold Listings.process
    rw [hcall]
    cases result with
    | error => exact hfinish
    | ok held =>
      cases held with
      | none => exact absurd rfl (hheld none rfl)
      | some => exact hfinish
  · have hgo : ∀ w : Option ListingWorker, (∀ job' phase, w = some ⟨job', phase⟩ →
          phase = .checkingHolding) →
        Guarded riskLevel
          { s with
            redis := s.redis.put (lockKey job.userId) number LOCK_TTL_MS
            workers := Function.update s.workers number w } := by
      intro w hw
      refine h.goOnWith hwork hnot (fun key other hne => get_put_other hfree key hne) ?_
      intro job' phase heq
      rw [hw job' phase heq]
      trivial
    unfold Listings.process
    rw [hcall]
    cases result with
    | error => exact hgo none fun _ _ hnone => nomatch hnone
    | ok held =>
      cases held with
      | none => exact hgo (some ⟨job, .checkingHolding⟩) fun _ _ heq => by cases heq; rfl
      | some => exact hgo none fun _ _ hnone => nomatch hnone

theorem Guarded.release (h : Guarded riskLevel s)
    (hwork : s.workers number = some ⟨job, .releasing⟩) (answer : ListingAnswer) :
    Guarded riskLevel (s.process riskLevel number answer job .releasing) := by
  refine h.goOnWith hwork (fun _ _ heq => nomatch heq) (fun key other hne => ?_)
    fun _ _ hnone => nomatch hnone
  split
  · exact get_dropOwn_other key hne
  · exact Iff.rfl

/-! ### Checks -/

theorem Guarded.check (h : Guarded riskLevel s) (hwork : s.workers number = some worker)
    (hnot : ∀ job orderId, worker ≠ ⟨job, .savingPosition orderId⟩)
    (hnext : Knows riskLevel s number job phase) : Guarded riskLevel (s.goTo number job phase) :=
  h.goOn hwork hnot fun job' phase' heq => by
    cases heq
    exact hnext

theorem lt_of_any {limit : Option ℕ} {count : ℕ} (h : limit.any (count < ·) = true) :
    count < limit.getD 0 := by
  cases limit with
  | none => cases h
  | some => exact of_decide_eq_true h

theorem Guarded.process_checks (h : Guarded riskLevel s) (answer : ListingAnswer)
    (hwork : s.workers number = some ⟨job, phase⟩)
    (hchecks : phase = .loading ∨ phase = .checkingHolding ∨ phase = .countingActive ∨
      phase = .preparing ∨ phase = .updatingSource) :
    Guarded riskLevel (s.process riskLevel number answer job phase) := by
  have hnot : ∀ job' orderId, (⟨job, phase⟩ : ListingWorker) ≠ ⟨job', .savingPosition orderId⟩ := by
    intro job' orderId heq
    cases heq
    simp at hchecks
  have hknows := h.knows number job phase hwork
  rcases hchecks with rfl | rfl | rfl | rfl | rfl
  · simp only [Listings.process]
    split
    · exact h.check hwork hnot trivial
    · exact h.goOn hwork hnot fun _ _ hnone => nomatch hnone
  · refine h.check hwork hnot ?_
    split
    · trivial
    · rename_i hhold
      exact fun _ => Bool.eq_false_iff.2 hhold
  · refine h.check hwork hnot ?_
    split
    · rename_i hroom
      exact fun hlock => ⟨hknows hlock, lt_of_any hroom⟩
    · trivial
  · refine h.check hwork hnot ?_
    split
    · exact hknows
    · trivial
  · exact h.check hwork hnot trivial

/-! ### The buy -/

theorem HasRow.of_eq {i : ℕ} (h : s.HasRow i job) (hposs : t.positions = s.positions) :
    t.HasRow i job := by
  unfold Listings.HasRow at h ⊢
  rw [hposs]
  exact h

theorem Knows.buy (h : Knows riskLevel s number' job phase) (other : ListingTradeExecutionJobData) :
    Knows riskLevel (s.buy other) number' job phase := by
  cases phase with
  | savingPosition =>
    exact ⟨h.lock, List.getElem?_append_left (List.getElem?_eq_some_iff.1 h.buy).1 ▸ h.buy, h.unsaved,
      h.room.of_eq rfl⟩
  | countingActive => exact h
  | preparing | executingTradeSignal => exact fun hlock => (h hlock).of_eq rfl
  | _ => trivial

theorem Guarded.execute (h : Guarded riskLevel s) (answer : ListingAnswer)
    (hwork : s.workers number = some ⟨job, .executingTradeSignal⟩)
    (hund : answer.order.reached = true → s.HasLock number job.userId ∧ answer.order = .answered) :
    Guarded riskLevel (s.process riskLevel number answer job .executingTradeSignal) := by
  have hnot : ∀ job' orderId,
      (⟨job, .executingTradeSignal⟩ : ListingWorker) ≠ ⟨job', .savingPosition orderId⟩ :=
    fun _ _ heq => nomatch heq
  unfold Listings.process
  cases horder : answer.order with
  | refused => exact h.check hwork hnot trivial
  | lost =>
    obtain ⟨-, hansd⟩ := hund (by rw [horder]; rfl)
    rw [horder] at hansd
    cases hansd
  | answered =>
    obtain ⟨hlock, -⟩ := hund (by rw [horder]; rfl)
    have hroom : Room riskLevel s job := h.knows number job _ hwork hlock
    have hbght : (s.buy job).buys[s.buys.length]? = some job := List.getElem?_concat_length
    refine guarded_update (s := s.buy job) (h.started hwork) h.fresh h.locks
      (fun other job' phase _ hother => (h.knows other job' phase hother).buy job) ?_ ?_ ?_
    · intro job' phase heq
      cases heq
      exact ⟨hlock, hbght, fun p hp => ne_of_lt (h.rows.bought p hp), hroom.of_eq rfl⟩
    · obtain ⟨hposn, hlimit, hown, hrows⟩ := h.rows
      refine ⟨hposn, hlimit, hown, fun p hp => lt_trans (hrows p hp) ?_⟩
      simp [Listings.buy]
    · intro i job' hi
      by_cases hlt : i < s.buys.length
      · rw [Listings.buy, List.getElem?_append_left hlt] at hi
        refine (h.row_beside (w := some ⟨job, .savingPosition s.buys.length⟩) ?_ i hi).imp_left
          fun hrow => HasRow.of_eq hrow rfl
        intro job'' orderId hsav
        rw [hwork] at hsav
        cases hsav
      · obtain ⟨hlen, -⟩ := List.getElem?_eq_some_iff.1 hi
        have hlast : i = s.buys.length := by
          simp only [Listings.buy, List.length_append, List.length_singleton] at hlen
          omega
        subst hlast
        rw [hbght, Option.some.injEq] at hi
        exact .inr (.inr (by rw [hi]))

/-! ### The position -/

section Save

variable {orderId : ListingOrderId} {userId coinId : String} {strategyType : ListingStrategyType}

theorem hasOpen_savePosition :
    (s.savePosition job orderId).hasOpenPositionForCoin userId coinId =
      (s.hasOpenPositionForCoin userId coinId ||
        decide (job.userId = userId ∧ job.coinId = coinId)) := by
  simp [Listings.savePosition, Listings.hasOpenPositionForCoin, ListingTradePosition.holds]

theorem countActive_savePosition :
    (s.savePosition job orderId).countActivePositions userId strategyType =
      s.countActivePositions userId strategyType +
        if job.userId = userId ∧ job.strategyType = strategyType then 1 else 0 := by
  simp [Listings.savePosition, Listings.countActivePositions, ListingTradePosition.counts,
    List.countP_append, List.countP_cons]

variable {job' : ListingTradeExecutionJobData}

theorem Room.savePosition (h : Room riskLevel s job') (hne : job.userId ≠ job'.userId) :
    Room riskLevel (s.savePosition job orderId) job' := by
  refine ⟨?_, ?_⟩
  · rw [hasOpen_savePosition, h.holding, Bool.false_or]
    exact decide_eq_false fun hsame => hne hsame.1
  · rw [countActive_savePosition, if_neg fun hsame => hne hsame.1]
    exact h.active

theorem Knows.savePosition (h : Knows riskLevel s number' job' phase)
    (hlock : s.HasLock number job.userId) (hne : number' ≠ number)
    (hbuy : s.buys[orderId]? = some job) :
    Knows riskLevel (s.savePosition job orderId) number' job' phase := by
  -- one user's lock is not held by two workers
  have huser : s.HasLock number' job'.userId → job.userId ≠ job'.userId := by
    intro hlock' hsame
    unfold Listings.HasLock at hlock hlock'
    rw [hsame, hlock', Option.some.injEq] at hlock
    exact hne hlock
  cases phase with
  | countingActive =>
    intro hlock'
    rw [hasOpen_savePosition, h hlock', Bool.false_or]
    exact decide_eq_false fun hsame => huser hlock' hsame.1
  | preparing | executingTradeSignal =>
    exact fun hlock' => (h hlock').savePosition (huser hlock')
  | savingPosition =>
    obtain ⟨hlock', hbuy', hunsaved, hroom⟩ := h
    refine ⟨hlock', hbuy', fun p hp => ?_, hroom.savePosition (huser hlock')⟩
    rcases List.mem_append.1 hp with hp | hp
    · exact hunsaved p hp
    · rw [List.mem_singleton.1 hp]
      rintro rfl
      have hsame := hbuy.symm.trans hbuy'
      cases hsame
      exact huser hlock' rfl
  | _ => trivial

theorem Rows.savePosition (h : Rows riskLevel s) (hroom : Room riskLevel s job)
    (hbuy : s.buys[orderId]? = some job) (hunsaved : ∀ p ∈ s.positions, p.orderId ≠ orderId) :
    Rows riskLevel (s.savePosition job orderId) where
  position i j p q hi hj hp hq huser hcoin := by
    -- no open position of the coin was there before
    have hnone : ∀ p ∈ s.positions, p.status = .open → p.userId = job.userId →
        p.coinId ≠ job.coinId := by
      intro p hmem hopen huser hcoin
      have hholds := hasOpenPositionForCoin_iff.2 ⟨p, hmem, hopen, huser, hcoin⟩
      rw [hroom.holding] at hholds
      cases hholds
    have hcases : ∀ {k : ℕ} {r : ListingTradePosition},
        (s.savePosition job orderId).positions[k]? = some r →
        s.positions[k]? = some r ∨ (k = s.positions.length ∧ r.userId = job.userId ∧
          r.coinId = job.coinId) := by
      intro k r hk
      rcases lt_or_ge k s.positions.length with hlt | hge
      · rw [Listings.savePosition, List.getElem?_append_left hlt] at hk
        exact .inl hk
      · have hlen := (List.getElem?_eq_some_iff.1 hk).1
        simp only [Listings.savePosition, List.length_append, List.length_singleton] at hlen
        have hlast : k = s.positions.length := by omega
        subst hlast
        rw [Listings.savePosition, List.getElem?_concat_length, Option.some.injEq] at hk
        subst hk
        exact .inr ⟨rfl, rfl, rfl⟩
    rcases hcases hi with hi | ⟨rfl, hpuser, hpcoin⟩ <;>
      rcases hcases hj with hj | ⟨rfl, hquser, hqcoin⟩
    · exact h.position i j p q hi hj hp hq huser hcoin
    · exact absurd (hcoin.trans hqcoin)
        (hnone p (List.mem_of_getElem? hi) hp (huser.trans hquser))
    · exact absurd (hcoin.symm.trans hpcoin)
        (hnone q (List.mem_of_getElem? hj) hq (huser.symm.trans hpuser))
    · rfl
  limit userId strategyType := by
    rw [countActive_savePosition]
    split
    · rename_i hsame
      obtain ⟨rfl, rfl⟩ := hsame
      exact hroom.active
    · exact h.limit userId strategyType
  own := by
    simp only [Listings.savePosition, List.map_append, List.map_singleton]
    refine h.own.append (List.nodup_singleton orderId) fun other hother hmem => ?_
    obtain ⟨p, hp, rfl⟩ := List.mem_map.1 hother
    exact hunsaved p hp (List.mem_singleton.1 hmem)
  bought p hp := by
    rcases List.mem_append.1 hp with hp | hp
    · exact h.bought p hp
    · rw [List.mem_singleton.1 hp]
      exact (List.getElem?_eq_some_iff.1 hbuy).1

theorem Guarded.save (h : Guarded riskLevel s) (answer : ListingAnswer)
    (hwork : s.workers number = some ⟨job, .savingPosition orderId⟩)
    (hsaved : answer.saved = true) :
    Guarded riskLevel (s.process riskLevel number answer job (.savingPosition orderId)) := by
  obtain ⟨hlock, hbuy, hunsaved, hroom⟩ := h.knows number job _ hwork
  simp only [Listings.process, if_pos hsaved]
  refine guarded_update (s := s.savePosition job orderId) (h.started hwork) h.fresh h.locks ?_ ?_
    (h.rows.savePosition hroom hbuy hunsaved) ?_
  · intro other job' phase hne hother
    exact (h.knows other job' phase hother).savePosition hlock hne hbuy
  · intro job' phase heq
    cases heq
    trivial
  · intro i job' hi
    have hold : s.HasRow i job' → (s.savePosition job orderId).HasRow i job' :=
      fun ⟨p, hp, hrow⟩ => ⟨p, List.mem_append_left _ hp, hrow⟩
    rcases h.row i job' hi with hrow | ⟨other, hsav⟩
    · exact .inl (hold hrow)
    · by_cases hne : other = number
      · subst hne
        rw [hwork] at hsav
        cases hsav
        exact .inl ⟨_, List.mem_append_right _ (List.mem_singleton_self _), rfl, rfl, rfl, rfl⟩
      · exact .inr (.inl ⟨other, hne, hsav⟩)

end Save

/-! ### Time, the queue, and positions that close -/

theorem get_of_pass {ms : ℕ} (h : (leases.pass ms).get key = some number) :
    leases.get key = some number := by
  obtain ⟨deadline, hcell, hlive⟩ := Leases.get_eq_some_iff.1 h
  rw [Leases.pass_now] at hlive
  exact Leases.get_eq_some_iff.2 ⟨deadline, hcell, by omega⟩

theorem Guarded.pass (h : Guarded riskLevel s) {ms : ℕ}
    (hund : Undisturbed s (.pass ms)) : Guarded riskLevel (s.step riskLevel (.pass ms)) where
  fresh := h.fresh
  locks key number hheld := h.locks key number (get_of_pass hheld)
  rows := h.rows.of_eq rfl rfl
  row := h.row
  knows number job phase hwork := by
    have hknows := h.knows number job phase hwork
    cases phase with
    | countingActive => exact fun hlock => hknows (get_of_pass hlock)
    | preparing | executingTradeSignal => exact fun hlock => (hknows (get_of_pass hlock)).of_eq rfl
    | savingPosition orderId =>
      obtain ⟨-, hbuy, hunsaved, hroom⟩ := hknows
      exact ⟨hund number job orderId hwork, hbuy, hunsaved, hroom.of_eq rfl⟩
    | _ => trivial

theorem Guarded.enqueue (h : Guarded riskLevel s) (job : ListingTradeExecutionJobData) :
    Guarded riskLevel (s.enqueueTrade riskLevel job) := by
  have hqueue : ∀ queue, Guarded riskLevel { s with queue := queue } := fun queue =>
    { fresh := h.fresh
      locks := h.locks
      knows := fun number job phase hwork =>
        (h.knows number job phase hwork).of_eq rfl rfl Iff.rfl
      rows := h.rows.of_eq rfl rfl
      row := h.row }
  unfold Listings.enqueueTrade
  split
  · exact h
  · split_ifs
    · exact h
    · exact h
    · exact hqueue _

theorem Guarded.start (h : Guarded riskLevel s) (position : ℕ) :
    Guarded riskLevel (s.step riskLevel (.start position)) := by
  simp only [Listings.step]
  cases hjob : s.queue[position]? with
  | none => exact h
  | some job =>
    have hfresh := h.fresh s.started le_rfl
    have hmore : Guarded riskLevel { s with started := s.started + 1 } :=
      { fresh := fun number hle => h.fresh number (Nat.le_of_succ_le hle)
        locks := fun key number hheld => Nat.lt_succ_of_lt (h.locks key number hheld)
        knows := fun number job phase hwork =>
          (h.knows number job phase hwork).of_eq rfl rfl Iff.rfl
        rows := h.rows.of_eq rfl rfl
        row := h.row }
    refine guarded_update (s := { s with started := s.started + 1 }) (Nat.lt_succ_self _)
      hmore.fresh hmore.locks (fun other job' phase _ => hmore.knows other job' phase) ?_ hmore.rows
      fun i job' hbuy => hmore.row_beside ?_ i hbuy
    · intro job' phase heq
      cases heq
      trivial
    · intro job' orderId hsav
      rw [hfresh] at hsav
      cases hsav

section Close

variable {index : ℕ} {status : ListingPositionStatus} {p : ListingTradePosition}

theorem getElem?_close {i : ℕ}
    (h : (s.positions.modify index fun p => { p with status := status })[i]? = some p) :
    ∃ q, s.positions[i]? = some q ∧ p = { q with status := p.status } ∧
      (status ≠ .open → p.status = .open → p = q) := by
  rw [List.getElem?_modify] at h
  obtain ⟨q, hq, hp⟩ := Option.map_eq_some_iff.1 h
  refine ⟨q, hq, ?_⟩
  split at hp
  · subst hp
    exact ⟨rfl, fun hne hopen => absurd hopen hne⟩
  · subst hp
    exact ⟨rfl, fun _ _ => rfl⟩

theorem mem_close (h : p ∈ s.positions.modify index fun p => { p with status := status }) :
    ∃ q ∈ s.positions, p = { q with status := p.status } ∧
      (status ≠ .open → p.status = .open → p = q) := by
  obtain ⟨i, hi⟩ := List.mem_iff_getElem?.1 h
  obtain ⟨q, hq, hp⟩ := getElem?_close hi
  exact ⟨q, List.mem_of_getElem? hq, hp⟩

theorem countP_modify_le {α : Type} {f : α → Bool} {g : α → α} (hfg : ∀ a, f (g a) = true → f a = true)
    (l : List α) (i : ℕ) : (l.modify i g).countP f ≤ l.countP f := by
  induction l generalizing i with
  | nil => simp
  | cons a l ih =>
    cases i with
    | zero =>
      simp only [List.modify_zero_cons, List.countP_cons]
      by_cases hga : f (g a) = true
      · rw [if_pos hga, if_pos (hfg a hga)]
      · rw [if_neg hga]
        exact Nat.le_add_right _ _
    | succ i =>
      simp only [List.modify_succ_cons, List.countP_cons]
      exact Nat.add_le_add_right (ih i) _

theorem map_modify_of_eq {α β : Type} {f : α → β} {g : α → α} (hfg : ∀ a, f (g a) = f a)
    (l : List α) (i : ℕ) : (l.modify i g).map f = l.map f := by
  induction l generalizing i with
  | nil => simp
  | cons a l ih =>
    cases i with
    | zero => simp [hfg]
    | succ => simp [ih]

theorem Guarded.close (h : Guarded riskLevel s) (index : ℕ) (hstat : status ≠ .open) :
    Guarded riskLevel
      { s with positions := s.positions.modify index fun p => { p with status := status } } := by
  have hcount : ∀ f : ListingTradePosition → Bool,
      (∀ p, f p = true → p.status = .open) →
      (s.positions.modify index fun p => { p with status := status }).countP f ≤
        s.positions.countP f := by
    intro f hopen
    refine countP_modify_le (fun p hp => ?_) _ _
    exact absurd (hopen _ hp) hstat
  have hhold : ∀ userId coinId, s.hasOpenPositionForCoin userId coinId = false →
      ({ s with positions := s.positions.modify index fun p => { p with status := status } } :
        Listings).hasOpenPositionForCoin userId coinId = false := by
    intro userId coinId hnone
    rw [Bool.eq_false_iff] at hnone ⊢
    intro hholds
    obtain ⟨p, hp, hopen, huser, hcoin⟩ := hasOpenPositionForCoin_iff.1 hholds
    obtain ⟨q, hq, -, hsame⟩ := mem_close hp
    obtain rfl := hsame hstat hopen
    exact hnone (hasOpenPositionForCoin_iff.2 ⟨p, hq, hopen, huser, hcoin⟩)
  have hroom : ∀ {job : ListingTradeExecutionJobData}, Room riskLevel s job → Room riskLevel
      { s with positions := s.positions.modify index fun p => { p with status := status } } job :=
    fun h => ⟨hhold _ _ h.holding,
      lt_of_le_of_lt (hcount _ fun p hp => (of_decide_eq_true hp).1) h.active⟩
  refine ⟨h.fresh, h.locks, ?_, ⟨?_, ?_, ?_, ?_⟩, ?_⟩
  · intro number job phase hwork
    have hknows := h.knows number job phase hwork
    cases phase with
    | countingActive => exact fun hlock => hhold _ _ (hknows hlock)
    | preparing | executingTradeSignal => exact fun hlock => hroom (hknows hlock)
    | savingPosition =>
      obtain ⟨hlock, hbuy, hunsaved, hfree⟩ := hknows
      refine ⟨hlock, hbuy, fun p hp => ?_, hroom hfree⟩
      obtain ⟨q, hq, hp, -⟩ := mem_close hp
      rw [hp]
      exact hunsaved q hq
    | _ => trivial
  · intro i j p q hi hj hp hq huser hcoin
    obtain ⟨_, hi', -, hsamep⟩ := getElem?_close hi
    obtain ⟨_, hj', -, hsameq⟩ := getElem?_close hj
    obtain rfl := hsamep hstat hp
    obtain rfl := hsameq hstat hq
    exact h.rows.position i j p q hi' hj' hp hq huser hcoin
  · intro userId strategyType
    exact (hcount _ fun p hp => (of_decide_eq_true hp).1).trans (h.rows.limit userId strategyType)
  · have hords := map_modify_of_eq (f := fun p : ListingTradePosition => p.orderId)
      (g := fun p => { p with status := status }) (fun _ => rfl) s.positions index
    exact hords ▸ h.rows.own
  · intro p hp
    obtain ⟨q, hq, hp, -⟩ := mem_close hp
    rw [hp]
    exact h.rows.bought q hq
  · intro i job hbuy
    refine (h.row i job hbuy).imp_left ?_
    rintro ⟨p, hp, horder, huser, hcoin, hstrat⟩
    obtain ⟨n, hn⟩ := List.mem_iff_getElem?.1 hp
    refine ⟨if index = n then { p with status := status } else p, ?_, ?_⟩
    · refine List.mem_of_getElem? (i := n) ?_
      rw [List.getElem?_modify, hn]
      split <;> rfl
    · split <;> exact ⟨horder, huser, hcoin, hstrat⟩

end Close

theorem Guarded.step (h : Guarded riskLevel s) {event : ListingEvent}
    (hund : Undisturbed s event) : Guarded riskLevel (s.step riskLevel event) := by
  cases event with
  | pass => exact h.pass hund
  | enqueue job => exact h.enqueue job
  | start position => exact h.start position
  | close index =>
    simp only [Listings.step]
    split
    · exact h
    · rename_i hstat
      exact h.close index hstat
  | advance number answer =>
    simp only [Listings.step]
    cases hwork : s.workers number with
    | none => exact h
    | some worker =>
      obtain ⟨job, phase⟩ := worker
      cases phase with
      | acquiring => exact h.acquire hwork answer
      | releasing => exact h.release hwork answer
      | executingTradeSignal => exact h.execute answer hwork (hund.1 job hwork)
      | savingPosition orderId =>
        exact h.save answer hwork (hund.2 job orderId hwork)
      | _ =>
        exact h.process_checks answer hwork (by simp)

end Steps

theorem guarded_start (riskLevel : String → ℤ) : Guarded riskLevel {} where
  fresh _ _ := rfl
  locks _ _ h := nomatch h
  knows _ _ _ h := nomatch h
  rows := ⟨fun _ _ _ _ h => (nomatch h), fun _ _ => Nat.zero_le _, List.nodup_nil,
    fun _ h => nomatch h⟩
  row _ _ h := nomatch h

/-- **In every run whose steps are undisturbed, a coin has at most one open position and one unclosed
buy, the strategy's limit is kept, and every buy has a row or is just being saved.** -/
theorem listing_exactlyOnce (riskLevel : String → ℤ) (events : List ListingEvent)
    (hundisturbed : Throughout (Listings.step riskLevel) Undisturbed {} events) :
    ExactlyOnce riskLevel (events.foldl (Listings.step riskLevel) {}) :=
  (hundisturbed.invariant (Guarded riskLevel) (fun _ _ h hevent => h.step hevent)
    (guarded_start riskLevel)).exactlyOnce

/-! ## A position that is not saved -/

def pepeJob : ListingTradeExecutionJobData where
  userId := "alice"
  coinId := "pepe"
  strategyType := .postAnnouncement
  announcementId := some "announcement"

def workerEvents (number : ℕ) (saved : Bool) : List ListingEvent :=
  [.start 0, .advance number {}, .advance number {}, .advance number {}, .advance number {},
    .advance number {}, .advance number {}, .advance number { saved := saved }, .advance number {},
    .advance number {}]

theorem listing_exactlyOnce_pepe :
    ((.enqueue pepeJob :: workerEvents 0 true).foldl (Listings.step fun _ => 5) {}).buys.length = 1 ∧
      ExactlyOnce (fun _ => 5)
        ((.enqueue pepeJob :: workerEvents 0 true).foldl (Listings.step fun _ => 5) {}) := by
  refine ⟨by decide +kernel, listing_exactlyOnce (fun _ => 5) (.enqueue pepeJob :: workerEvents 0 true)
    ⟨trivial, trivial, ?_, ?_, ?_, ?_, ?_, ?_, ?_, ?_, ?_, trivial⟩⟩
  all_goals
    refine ⟨fun job hworker hreached => ?_, fun job orderId hworker => ?_⟩ <;> cases hworker
  · exact ⟨by decide +kernel, rfl⟩
  · rfl

/-- **The position of a buy cannot be saved, and the job is tried again: the coin is bought twice, and
one buy has no position.** -/
theorem listing_bought_twice :
    let s := (.enqueue pepeJob :: (workerEvents 0 false ++ workerEvents 1 true)).foldl
      (Listings.step fun _ => 5) {}
    s.buys = [pepeJob, pepeJob] ∧ s.positions.map (·.orderId) = [1] ∧
      ¬ ExactlyOnce (fun _ => 5) s := by
  refine ⟨by decide +kernel, by decide +kernel, fun h => ?_⟩
  have hopen : ∀ p ∈ ((.enqueue pepeJob :: (workerEvents 0 false ++ workerEvents 1 true)).foldl
      (Listings.step fun _ => 5) {}).positions, p.status = .open := by decide +kernel
  have hsame := h.buy 0 1 pepeJob pepeJob (by decide +kernel) (by decide +kernel) rfl rfl
    (fun p hp _ => hopen p hp) fun p hp _ => hopen p hp
  cases hsame

end Chansey.Listing
