import Chansey.Lib.Leases
import Chansey.Lib.Remote
import Chansey.Lib.Run

/-!
# The trade cooldown

Pipelines claim a user's trade in a symbol and direction before they place it, and clear the claim
when the trade fails.
-/

namespace Chansey.Shared

open Remote

structure CooldownClaim where
  pipeline : String
  claimedAt : ℕ
  deriving DecidableEq

structure CooldownCheckResult where
  allowed : Bool
  existingClaim : Option CooldownClaim := none

def COOLDOWN_TTL_MS : ℕ := 11 * 60 * 1000

def buildKey (userId symbol direction : String) : String :=
  s!"trade-cd:{userId}:{symbol}:{direction}"

/-- `now` is the caller's clock; only Redis's own clock expires a claim. -/
def checkAndClaim (redis : Leases String CooldownClaim) (userId symbol direction pipeline : String)
    (now : ℕ) (fate : Fate String) : Leases String CooldownClaim × CooldownCheckResult :=
  let key := buildKey userId symbol direction
  let claim : CooldownClaim := { pipeline := pipeline, claimedAt := now }
  match call (fun redis => redis.claim key claim COOLDOWN_TTL_MS) redis fate with
  | (redis, .ok none) => (redis, { allowed := true })
  | (redis, .ok (some existingClaim)) =>
    (redis, { allowed := false, existingClaim := some existingClaim })
  -- fail open: the trade goes through when Redis does not answer
  | (redis, .error _) => (redis, { allowed := true })

def clearCooldown (redis : Leases String CooldownClaim) (userId symbol direction : String)
    (fate : Fate String) : Leases String CooldownClaim :=
  (call (fun redis => (redis.drop (buildKey userId symbol direction), ())) redis fate).1

/-! ## Pipelines -/

/-- Redis, and the claims that were set there. A claim leaves the ledger when the pipeline that
made it clears its key. -/
structure Cooldowns where
  redis : Leases String CooldownClaim
  claims : List (Grant String CooldownClaim)

inductive CooldownEvent where
  | pass (ms : ℕ)
  | checkAndClaim (userId symbol direction pipeline : String) (now : ℕ) (fate : Fate String)
  /-- The pipeline is the caller: the call itself does not say who makes it. -/
  | clearCooldown (userId symbol direction pipeline : String) (fate : Fate String)

namespace Cooldowns

def empty : Cooldowns := ⟨Leases.empty, []⟩

def Sets (redis : Leases String CooldownClaim) (key : String) (fate : Fate String) : Prop :=
  fate.reached = true ∧ redis.get key = none

instance (redis : Leases String CooldownClaim) (key : String) (fate : Fate String) :
    Decidable (Sets redis key fate) := inferInstanceAs (Decidable (_ ∧ _))

/-- The claims a cleanup of `key` by `pipeline` leaves in the ledger. -/
def others (claims : List (Grant String CooldownClaim)) (key pipeline : String) :
    List (Grant String CooldownClaim) :=
  claims.filter fun g => ¬ (g.key = key ∧ g.lease.value.pipeline = pipeline)

def step (s : Cooldowns) : CooldownEvent → Cooldowns
  | .pass ms => { s with redis := s.redis.pass ms }
  | .checkAndClaim userId symbol direction pipeline now fate =>
    let key := buildKey userId symbol direction
    { redis := (checkAndClaim s.redis userId symbol direction pipeline now fate).1
      claims :=
        if Sets s.redis key fate then
          ⟨key, ⟨⟨pipeline, now⟩, s.redis.now + COOLDOWN_TTL_MS⟩⟩ :: s.claims
        else s.claims }
  | .clearCooldown userId symbol direction pipeline fate =>
    { redis := clearCooldown s.redis userId symbol direction fate
      claims :=
        if fate.reached then others s.claims (buildKey userId symbol direction) pipeline
        else s.claims }

def SparesOthers (s : Cooldowns) : CooldownEvent → Prop
  | .clearCooldown userId symbol direction pipeline fate =>
    ∀ key claim, s.redis.get key = some claim → claim.pipeline ≠ pipeline →
      (s.step (.clearCooldown userId symbol direction pipeline fate)).redis.get key = some claim
  | _ => True

/-- After the step no key has two unexpired claims, and the step removed no claim of another
pipeline. -/
def Exclusive (s : Cooldowns) (event : CooldownEvent) : Prop :=
  (∀ key, (s.step event).redis.unexpired (s.step event).claims key ≤ 1) ∧ s.SparesOthers event

/-- A cleanup that reaches Redis does so while a claim of its own pipeline on the key is unexpired,
or while none is. -/
def OwnsCleared (s : Cooldowns) : CooldownEvent → Prop
  | .clearCooldown userId symbol direction pipeline fate =>
    fate.reached = true →
      (∃ g ∈ s.claims, s.redis.runs (buildKey userId symbol direction) g = true ∧
        g.lease.value.pipeline = pipeline) ∨
      s.redis.unexpired s.claims (buildKey userId symbol direction) = 0
  | _ => True

/-- The ledger is kept, and it holds what Redis holds. -/
structure Inv (s : Cooldowns) : Prop where
  kept : Leases.Kept s.redis s.claims
  recorded : ∀ key claim, s.redis.get key = some claim →
    ∃ g ∈ s.claims, s.redis.runs key g = true ∧ g.lease.value = claim

/-! ## What the calls do to Redis -/

section Redis

variable (redis : Leases String CooldownClaim) (userId symbol direction pipeline : String) (now : ℕ)
  (fate : Fate String)

theorem checkAndClaim_redis :
    (checkAndClaim redis userId symbol direction pipeline now fate).1 =
      if Sets redis (buildKey userId symbol direction) fate then
        redis.put (buildKey userId symbol direction) ⟨pipeline, now⟩ COOLDOWN_TTL_MS
      else redis := by
  cases hget : redis.get (buildKey userId symbol direction) with
  | none =>
    cases fate <;> simp [checkAndClaim, call, Leases.claim, Sets, hget, Fate.reached]
  | some claim =>
    cases fate <;> simp [checkAndClaim, call, Leases.claim, Sets, hget]

theorem clearCooldown_redis :
    clearCooldown redis userId symbol direction fate =
      if fate.reached then redis.drop (buildKey userId symbol direction) else redis := by
  cases fate <;> rfl

end Redis

namespace Inv

variable {s : Cooldowns}

theorem empty : Inv Cooldowns.empty := by
  refine ⟨Leases.Kept.nil _, fun key claim h => ?_⟩
  simp [Cooldowns.empty, Leases.empty, Leases.get] at h

theorem pass (h : Inv s) (ms : ℕ) : Inv (s.step (.pass ms)) := by
  refine ⟨h.kept.pass ms, fun key claim hget => ?_⟩
  obtain ⟨deadline, hcell, hlive⟩ := Leases.get_eq_some_iff.mp hget
  have hnow : s.redis.now + ms < deadline := hlive
  obtain ⟨g, hg, hruns, hvalue⟩ :=
    h.recorded key claim (Leases.get_eq_some_iff.mpr ⟨deadline, hcell, by omega⟩)
  obtain ⟨hkey, hlive⟩ := Leases.runs_iff.mp hruns
  have hlease : g.lease = ⟨claim, deadline⟩ := by
    have hstd := h.kept.stored g hg hlive
    rw [hkey] at hstd
    exact Option.some.inj (hstd.symm.trans hcell)
  refine ⟨g, hg, Leases.runs_iff.mpr ⟨hkey, ?_⟩, hvalue⟩
  rw [hlease]
  exact hnow

theorem checkAndClaim (h : Inv s) (userId symbol direction pipeline : String) (now : ℕ)
    (fate : Fate String) :
    Inv (s.step (.checkAndClaim userId symbol direction pipeline now fate)) := by
  simp only [step]
  rw [checkAndClaim_redis]
  set key := buildKey userId symbol direction
  by_cases hsets : Sets s.redis key fate
  · rw [if_pos hsets, if_pos hsets]
    refine ⟨h.kept.grant (h.kept.unexpired_of_get hsets.2), fun key' claim hget => ?_⟩
    by_cases hkey : key' = key
    · subst hkey
      refine ⟨_, List.mem_cons_self, ?_, ?_⟩
      · refine Leases.runs_iff.mpr ⟨rfl, ?_⟩
        show s.redis.now < s.redis.now + COOLDOWN_TTL_MS
        simp [COOLDOWN_TTL_MS]
      · obtain ⟨_, hcell, -⟩ := Leases.get_eq_some_iff.mp hget
        rw [Leases.put_cells_self] at hcell
        cases hcell
        rfl
    · rw [Leases.get_put_of_ne _ hkey] at hget
      obtain ⟨g, hg, hruns, hvalue⟩ := h.recorded key' claim hget
      exact ⟨g, List.mem_cons_of_mem _ hg, hruns, hvalue⟩
  · rw [if_neg hsets, if_neg hsets]
    exact h

theorem unexpired_others (h : Inv s) {key pipeline : String} {g : Grant String CooldownClaim}
    (hg : g ∈ s.claims) (hruns : s.redis.runs key g = true)
    (hown : g.lease.value.pipeline = pipeline) :
    s.redis.unexpired (others s.claims key pipeline) key = 0 := by
  rw [Leases.unexpired_eq_zero_iff]
  intro g' hg' hkey' hlive'
  obtain ⟨hg', hother⟩ := List.mem_filter.mp hg'
  obtain ⟨hkey, hlive⟩ := Leases.runs_iff.mp hruns
  have hsame : g.lease = g'.lease := h.kept.unique hg hg' (hkey.trans hkey'.symm) hlive hlive'
  have : g'.lease.value.pipeline = pipeline := by rw [← hsame, hown]
  simp [hkey', this] at hother

theorem clearCooldown (h : Inv s) {userId symbol direction pipeline : String} {fate : Fate String}
    (hown : s.OwnsCleared (.clearCooldown userId symbol direction pipeline fate)) :
    Inv (s.step (.clearCooldown userId symbol direction pipeline fate)) ∧
      s.SparesOthers (.clearCooldown userId symbol direction pipeline fate) := by
  simp only [SparesOthers, step, OwnsCleared] at hown ⊢
  rw [clearCooldown_redis]
  set key := buildKey userId symbol direction
  cases hrch : fate.reached with
  | false =>
    simp only [Bool.false_eq_true, if_false]
    exact ⟨h, fun _ _ hget _ => hget⟩
  | true =>
    simp only [if_true]
    have hnone : s.redis.unexpired (others s.claims key pipeline) key = 0 := by
      rcases hown hrch with ⟨g, hg, hruns, hpipe⟩ | hzero
      · exact h.unexpired_others hg hruns hpipe
      · rw [Leases.unexpired_eq_zero_iff] at hzero ⊢
        exact fun g hg => hzero g (List.mem_of_mem_filter hg)
    refine ⟨⟨(h.kept.sublist List.filter_sublist).drop hnone, fun key' claim hget => ?_⟩,
      fun key' claim hget hother => ?_⟩
    · have hkey : key' ≠ key := by
        rintro rfl
        rw [Leases.get_drop_self] at hget
        cases hget
      rw [Leases.get_drop_of_ne hkey] at hget
      obtain ⟨g, hg, hruns, hvalue⟩ := h.recorded key' claim hget
      refine ⟨g, List.mem_filter.mpr ⟨hg, ?_⟩, hruns, hvalue⟩
      simp [(Leases.runs_iff.mp hruns).1, hkey]
    · -- a claim on this key is recorded, so it is the pipeline's own
      have hkey : key' ≠ key := by
        rintro rfl
        obtain ⟨g, hg, hruns, hvalue⟩ := h.recorded _ claim hget
        obtain ⟨hkey, hlive⟩ := Leases.runs_iff.mp hruns
        refine (Leases.unexpired_eq_zero_iff.mp hnone) g (List.mem_filter.mpr ⟨hg, ?_⟩) hkey hlive
        simp [hvalue, hother]
      rw [Leases.get_drop_of_ne hkey]
      exact hget

theorem exclusive_iff (h : Inv s) (event : CooldownEvent) :
    s.Exclusive event ↔ s.OwnsCleared event := by
  cases event with
  | pass ms => exact iff_of_true ⟨(h.pass ms).kept.single, trivial⟩ trivial
  | checkAndClaim userId symbol direction pipeline now fate =>
    exact iff_of_true
      ⟨(h.checkAndClaim userId symbol direction pipeline now fate).kept.single, trivial⟩ trivial
  | clearCooldown =>
    constructor
    · rintro ⟨-, hspares⟩ hrch
      by_contra hlate
      push Not at hlate
      obtain ⟨hnone, hsome⟩ := hlate
      rw [ne_eq, Leases.unexpired_eq_zero_iff] at hsome
      push Not at hsome
      obtain ⟨g, hg, hkey, hlive⟩ := hsome
      have hother := hnone g hg (Leases.runs_iff.mpr ⟨hkey, hlive⟩)
      have hkept := hspares g.key g.lease.value (h.kept.get hg hlive) hother
      simp only [step] at hkept
      rw [clearCooldown_redis, if_pos hrch, hkey, Leases.get_drop_self] at hkept
      cases hkept
    · intro hown
      obtain ⟨hinv, hspares⟩ := h.clearCooldown hown
      exact ⟨hinv.kept.single, hspares⟩

theorem step (h : Inv s) {event : CooldownEvent} (hown : s.OwnsCleared event) :
    Inv (s.step event) := by
  cases event with
  | pass ms => exact h.pass ms
  | checkAndClaim => exact h.checkAndClaim _ _ _ _ _ _
  | clearCooldown => exact (h.clearCooldown hown).1

end Inv

/-- **In every run, each key has at most one unexpired claim and no cleanup removes another
pipeline's, exactly when every cleanup reaches Redis while a claim of its own pipeline on the key is
unexpired, or none is.** -/
theorem cooldown_exclusive_iff (events : List CooldownEvent) :
    Run.Throughout Cooldowns.step Exclusive Cooldowns.empty events ↔
      Run.Throughout Cooldowns.step OwnsCleared Cooldowns.empty events :=
  Run.throughout_iff Inv (fun _ event h => h.exclusive_iff event) (fun _ _ h hown => h.step hown)
    Inv.empty

def lateCleanup : List CooldownEvent :=
  [.checkAndClaim "u" "BTC/USDT" "BUY" "strategy:1" 0 .answered,
    .pass 660000,
    .checkAndClaim "u" "BTC/USDT" "BUY" "strategy:2" 660000 .answered,
    .clearCooldown "u" "BTC/USDT" "BUY" "strategy:1" .answered,
    .checkAndClaim "u" "BTC/USDT" "BUY" "strategy:3" 660000 .answered]

/-- **A late cleanup removes the claim of the pipeline that took over, and a third may claim beside
it.** -/
theorem late_cleanup :
    ¬ Run.Throughout Cooldowns.step Exclusive Cooldowns.empty lateCleanup ∧
      (lateCleanup.foldl Cooldowns.step Cooldowns.empty).redis.unexpired
        (lateCleanup.foldl Cooldowns.step Cooldowns.empty).claims
          (buildKey "u" "BTC/USDT" "BUY") = 2 := by
  constructor
  · rintro ⟨-, -, -, ⟨-, hspares⟩, -⟩
    have h := hspares (buildKey "u" "BTC/USDT" "BUY") ⟨"strategy:2", 660000⟩ (by decide +kernel)
      (by decide)
    revert h
    decide +kernel
  · decide +kernel

end Cooldowns

end Chansey.Shared
