import Chansey.Lib.Leases
import Chansey.Lib.OrdMap
import Chansey.Lib.Remote
import Chansey.Lib.Tasks

/-!
# The distributed lock

Processes take locks with a deadline in Redis, extend them and release them, each by one command
that Redis runs whole. A token, with a lock id of its own, tells whose lock it is.

* An exclusive call is the block in which the scheduled tasks work: acquire, run the body, release in
  `finally`. Nothing extends the lock while the body runs.
-/

namespace Chansey.Shared

open Remote

structure Process where
  hostname : String
  pid : ℕ
  deriving DecidableEq

structure LockOptions where
  key : String
  ttlMs : ℤ
  maxRetries : Option ℤ := none

def DEFAULT_MAX_RETRIES : ℤ := 0

def LockOptions.attemptsAllowed (options : LockOptions) : ℤ :=
  max 0 (options.maxRetries.getD DEFAULT_MAX_RETRIES)

/-- What a token says, and Redis stores. -/
structure LockValueMetadata where
  lockId : String
  hostname : String
  pid : ℕ
  acquiredAt : ℕ
  deriving DecidableEq

structure LockResult where
  acquired : Bool
  lockId : Option String
  token : Option LockValueMetadata

def notAcquired : LockResult := ⟨false, none, none⟩

abbrev LockStore := Leases String LockValueMetadata

/-! ## Commands -/

/-- `SET key token PX ttl NX`: whether the key was free. Redis refuses a deadline that is not
ahead. -/
def trySet (redis : LockStore) (key : String) (token : LockValueMetadata) (ttlMs : ℤ)
    (fate : Fate String) : LockStore × Except String Bool :=
  let effect (redis : LockStore) : LockStore × Except String Bool :=
    if ttlMs ≤ 0 then (redis, .error "ERR invalid expire time")
    else
      match redis.claim key token ttlMs.toNat with
      | (redis, none) => (redis, .ok true)
      | (redis, some _) => (redis, .ok false)
  match call effect redis fate with
  | (redis, .ok answer) => (redis, answer)
  | (redis, .error e) => (redis, .error e)

/-- The answer of a script, `false` where it did not arrive. -/
def answer : Except String Bool → Bool
  | .ok result => result
  | .error _ => false

def releaseScript (redis : LockStore) (key : String) (token : LockValueMetadata)
    (fate : Fate String) : LockStore × Except String Bool :=
  call (fun redis => redis.dropOwn key token) redis fate

def extendScript (redis : LockStore) (key : String) (token : LockValueMetadata) (ttlMs : ℤ)
    (fate : Fate String) : LockStore × Except String Bool :=
  call (fun redis => redis.extendOwn key token ttlMs.toNat) redis fate

/-! ## The service -/

/-- Redis, and the tokens each process holds. `drawn` counts the lock ids drawn so far; `held` is
the ledger of the locks whose callers were told so, until they are released. -/
structure Locks where
  redis : LockStore
  heldTokens : Process → OrdMap String LockValueMetadata
  drawn : ℕ
  held : List (Grant String LockValueMetadata)

namespace Locks

def empty : Locks := ⟨Leases.empty, fun _ => OrdMap.empty, 0, []⟩

def without (held : List (Grant String LockValueMetadata)) (key : String)
    (token : LockValueMetadata) : List (Grant String LockValueMetadata) :=
  held.filter fun g => ¬ (g.key = key ∧ g.lease.value = token)

def forgetToken (s : Locks) (process : Process) (key : String) (token : LockValueMetadata) :
    Process → OrdMap String LockValueMetadata :=
  if (s.heldTokens process).get? key = some token then
    Function.update s.heldTokens process ((s.heldTokens process).erase key)
  else s.heldTokens

def release (s : Locks) (process : Process) (key : String) (token : Option LockValueMetadata)
    (fate : Fate String) : Locks × Bool :=
  match token with
  | none => (s, false)
  | some token =>
    let (redis, result) := releaseScript s.redis key token fate
    ({ s with
        redis := redis
        heldTokens := if result.isOk then s.forgetToken process key token else s.heldTokens
        held := if fate.reached then without s.held key token else s.held },
      answer result)

def extend (s : Locks) (key : String) (token : LockValueMetadata) (ttlMs : ℤ)
    (fate : Fate String) : Locks × Bool :=
  let (redis, result) := extendScript s.redis key token ttlMs fate
  ({ s with
      redis := redis
      held :=
        if fate.reached = true ∧ s.redis.get key = some token then
          s.redis.renew s.held key token ttlMs.toNat
        else s.held },
    answer result)

/-- One of the releases of a shutdown. -/
def onModuleDestroy (s : Locks) (process : Process) (key : String) (fate : Fate String) : Locks :=
  match (s.heldTokens process).get? key with
  | none => s
  | some token => (s.release process key (some token) fate).1

/-- An attempt of `acquire` found the key free: the caller is told, and has the lock. -/
def grantLock (s : Locks) (process : Process) (options : LockOptions)
    (token : LockValueMetadata) (redis : LockStore) : Locks :=
  { s with
    redis := redis
    heldTokens := Function.update s.heldTokens process
      ((s.heldTokens process).set options.key token)
    held := ⟨options.key, ⟨token, s.redis.now + options.ttlMs.toNat⟩⟩ :: s.held }

end Locks

/-! ## Callers -/

/-- A call in flight. An exclusive one is a block that runs a body under its lock. -/
inductive LockTask where
  | acquiring (process : Process) (options : LockOptions) (token : LockValueMetadata)
      (attempt : ℕ) (exclusive : Bool)
  | running (process : Process) (key : String) (token : LockValueMetadata)
  | releasing (process : Process) (key : String) (token : LockValueMetadata)

namespace LockTask

def token : LockTask → LockValueMetadata
  | acquiring _ _ token _ _ => token
  | running _ _ token => token
  | releasing _ _ token => token

def key? : LockTask → Option String
  | acquiring _ _ _ _ _ => none
  | running _ key _ => some key
  | releasing _ key _ => some key

end LockTask

inductive LockCall where
  | pass (ms : ℕ)
  | acquire (process : Process) (options : LockOptions) (exclusive : Bool) (now : ℕ)
  | release (process : Process) (key : String) (token : Option LockValueMetadata)
      (fate : Fate String)
  | extend (key : String) (token : LockValueMetadata) (ttlMs : ℤ) (fate : Fate String)
  | onModuleDestroy (process : Process) (key : String) (fate : Fate String)

/-- Redis answers a command, or a body returns or throws. -/
inductive LockAnswer where
  | redis (fate : Fate String)
  | body (returned : Bool)

namespace Locks

/-- One attempt of `acquire`. Without a result it sleeps and tries again. -/
def attempt (s : Locks) (process : Process) (options : LockOptions) (token : LockValueMetadata)
    (attempt : ℕ) (fate : Fate String) : Locks × Option LockResult :=
  match trySet s.redis options.key token options.ttlMs fate with
  | (redis, .error _) => ({ s with redis := redis }, some notAcquired)
  | (redis, .ok true) =>
    (s.grantLock process options token redis, some ⟨true, some token.lockId, some token⟩)
  | (redis, .ok false) =>
    ({ s with redis := redis },
      if attempt < options.attemptsAllowed then none else some notAcquired)

end Locks

def afterAttempt (process : Process) (options : LockOptions) (token : LockValueMetadata)
    (attempt : ℕ) (exclusive : Bool) : Option LockResult → Option LockTask
  | none => some (.acquiring process options token (attempt + 1) exclusive)
  | some lock =>
    if exclusive && lock.acquired then lock.token.map (.running process options.key) else none

/-- Callers of the lock service. `randomUUID n` is the `n`-th lock id drawn. -/
def lockProgram (randomUUID : ℕ → String) : Tasks.Program Locks LockTask LockCall LockAnswer where
  call s
    | .pass ms => ({ s with redis := s.redis.pass ms }, none)
    | .acquire process options exclusive now =>
      ({ s with drawn := s.drawn + 1 },
        some (.acquiring process options
          ⟨randomUUID s.drawn, process.hostname, process.pid, now⟩ 0 exclusive))
    | .release process key token fate => ((s.release process key token fate).1, none)
    | .extend key token ttlMs fate => ((s.extend key token ttlMs fate).1, none)
    | .onModuleDestroy process key fate => (s.onModuleDestroy process key fate, none)
  advance s
    | .acquiring process options token attempt exclusive, .redis fate =>
      let (s', lock) := s.attempt process options token attempt fate
      (s', afterAttempt process options token attempt exclusive lock)
    -- `finally` runs whether the body returned or threw
    | .running process key token, .body _ => (s, some (.releasing process key token))
    | .releasing process key token, .redis fate =>
      ((s.release process key (some token) fate).1, none)
    | task, _ => (s, some task)

namespace Locks

/-! ## What the commands move -/

structure OnlyOwn (redis redis' : LockStore) (key : String) (token : LockValueMetadata)
    (done : Bool) : Prop where
  clock : redis'.now = redis.now
  done : done = true → redis.get key = some token
  cells : ∀ key', redis'.cells key' ≠ redis.cells key' → key' = key ∧ redis.get key = some token

section Commands

variable {s : Locks} {process : Process} {key : String} {token : LockValueMetadata} {ttlMs : ℤ}
  {fate : Fate String}

theorem release_redis :
    (s.release process key (some token) fate).1.redis =
      if fate.reached = true ∧ s.redis.get key = some token then s.redis.drop key
      else s.redis := by
  cases fate <;> by_cases h : s.redis.get key = some token <;>
    simp [release, releaseScript, call, Leases.dropOwn, Fate.reached, h]

theorem release_held :
    (s.release process key (some token) fate).1.held =
      if fate.reached then without s.held key token else s.held := rfl

theorem release_done :
    (s.release process key (some token) fate).2 = true ↔
      fate = .answered ∧ s.redis.get key = some token := by
  cases fate <;> by_cases h : s.redis.get key = some token <;>
    simp [release, releaseScript, call, Leases.dropOwn, answer, h]

theorem extend_redis :
    (s.extend key token ttlMs fate).1.redis =
      if fate.reached = true ∧ s.redis.get key = some token then
        s.redis.put key token ttlMs.toNat
      else s.redis := by
  cases fate <;> by_cases h : s.redis.get key = some token <;>
    simp [extend, extendScript, call, Leases.extendOwn, Fate.reached, h]

theorem extend_held :
    (s.extend key token ttlMs fate).1.held =
      if fate.reached = true ∧ s.redis.get key = some token then
        s.redis.renew s.held key token ttlMs.toNat
      else s.held := rfl

theorem extend_done :
    (s.extend key token ttlMs fate).2 = true ↔ fate = .answered ∧ s.redis.get key = some token := by
  cases fate <;> by_cases h : s.redis.get key = some token <;>
    simp [extend, extendScript, call, Leases.extendOwn, answer, h]

theorem release_onlyOwn :
    OnlyOwn s.redis (s.release process key (some token) fate).1.redis key token
      (s.release process key (some token) fate).2 := by
  refine ⟨?_, fun h => (release_done.mp h).2, fun key' h => ?_⟩
  · rw [release_redis]
    split <;> rfl
  · rw [release_redis] at h
    split at h
    · rename_i hown
      refine ⟨?_, hown.2⟩
      by_contra hne
      exact h (Leases.drop_cells_of_ne s.redis hne)
    · exact absurd rfl h

theorem extend_onlyOwn :
    OnlyOwn s.redis (s.extend key token ttlMs fate).1.redis key token
      (s.extend key token ttlMs fate).2 := by
  refine ⟨?_, fun h => (extend_done.mp h).2, fun key' h => ?_⟩
  · rw [extend_redis]
    split <;> rfl
  · rw [extend_redis] at h
    split at h
    · rename_i hown
      refine ⟨?_, hown.2⟩
      by_contra hne
      exact h (Leases.put_cells_of_ne s.redis token ttlMs.toNat hne)
    · exact absurd rfl h

end Commands

/-! ## The ledger over a step -/

/-- A step that grants nobody a lock: the ledger is kept, and loses locks or moves deadlines. -/
structure Ages (s s' : Locks) : Prop where
  kept : Leases.Kept s'.redis s'.held
  drawn : s'.drawn = s.drawn
  held : ∀ g' ∈ s'.held, ∃ g ∈ s.held, g.key = g'.key ∧ g.lease.value = g'.lease.value

section Ages

variable {s : Locks} (h : Leases.Kept s.redis s.held) (process : Process) (key : String)
  (token : LockValueMetadata) (fate : Fate String)

include h

theorem Ages.refl : Ages s s := ⟨h, rfl, fun g hg => ⟨g, hg, rfl, rfl⟩⟩

theorem ages_pass (ms : ℕ) : Ages s { s with redis := s.redis.pass ms } :=
  ⟨h.pass ms, rfl, fun g hg => ⟨g, hg, rfl, rfl⟩⟩

theorem unexpired_without (hget : s.redis.get key = some token) :
    s.redis.unexpired (without s.held key token) key = 0 := by
  rw [Leases.unexpired_eq_zero_iff]
  intro g hg hkey hlive
  obtain ⟨hg, hother⟩ := List.mem_filter.mp hg
  have hvalue := h.get hg hlive
  rw [hkey, hget] at hvalue
  simp [hkey, ← Option.some.inj hvalue] at hother

theorem ages_release : Ages s (s.release process key (some token) fate).1 := by
  refine ⟨?_, rfl, fun g hg => ?_⟩
  · rw [release_redis, release_held]
    cases hrch : fate.reached with
    | false => simpa using h
    | true =>
      simp only [true_and, if_true]
      have hfewer : Leases.Kept s.redis (without s.held key token) := h.sublist List.filter_sublist
      split
      · rename_i hget
        exact hfewer.drop (unexpired_without h key token hget)
      · exact hfewer
  · rw [release_held] at hg
    split at hg
    · exact ⟨g, List.mem_of_mem_filter hg, rfl, rfl⟩
    · exact ⟨g, hg, rfl, rfl⟩

theorem ages_extend (ttlMs : ℤ) : Ages s (s.extend key token ttlMs fate).1 := by
  refine ⟨?_, rfl, fun g' hg' => ?_⟩
  · rw [extend_redis, extend_held]
    split
    · rename_i hown
      exact h.renew hown.2
    · exact h
  · rw [extend_held] at hg'
    split at hg'
    · obtain ⟨g, hg, rfl⟩ := List.mem_map.mp hg'
      refine ⟨g, hg, ?_⟩
      split
      · rename_i hown
        exact ⟨rfl, hown.2⟩
      · exact ⟨rfl, rfl⟩
    · exact ⟨g', hg', rfl, rfl⟩

theorem ages_onModuleDestroy : Ages s (s.onModuleDestroy process key fate) := by
  unfold onModuleDestroy
  split
  · exact Ages.refl h
  · exact ages_release h process key _ fate

theorem attempt_cases (options : LockOptions) (n : ℕ) :
    (Ages s (s.attempt process options token n fate).1 ∧
      ∀ lock ∈ (s.attempt process options token n fate).2, lock = notAcquired) ∨
    (s.redis.get options.key = none ∧
      s.attempt process options token n fate =
        (s.grantLock process options token
          (s.redis.put options.key token options.ttlMs.toNat),
          some ⟨true, some token.lockId, some token⟩)) := by
  by_cases httl : options.ttlMs ≤ 0
  · left
    cases fate <;> simp [attempt, trySet, call, httl] <;> exact Ages.refl h
  · cases hget : s.redis.get options.key with
    | some =>
      left
      cases fate with
      | refused | lost =>
        simp [attempt, trySet, call, httl, Leases.claim, hget]
        exact Ages.refl h
      | answered =>
        simp only [attempt, trySet, call, httl, Leases.claim, hget, if_false]
        refine ⟨Ages.refl h, fun lock hlock => ?_⟩
        split at hlock
        · cases hlock
        · exact (Option.mem_some_iff.mp hlock).symm
    | none =>
      cases fate with
      | refused =>
        left
        simp [attempt, trySet, call]
        exact Ages.refl h
      | lost =>
        -- the key is taken, but its caller believes it is not
        left
        simp only [attempt, trySet, call, httl, Leases.claim, hget, if_false]
        exact ⟨⟨h.put (h.unexpired_of_get hget), rfl, fun g hg => ⟨g, hg, rfl, rfl⟩⟩,
          fun lock hlock => (Option.mem_some_iff.mp hlock).symm⟩
      | answered =>
        right
        simp [attempt, trySet, call, httl, Leases.claim, hget]

end Ages

end Locks

/-! ## Callers that take turns -/

open Tasks

/-- The ledger is kept, every token was drawn, no two calls in flight share one, and a lock in the
ledger under a call's token is the one it has. -/
structure LocksInv (randomUUID : ℕ → String) (pool : Pool Locks LockTask) : Prop where
  kept : Leases.Kept pool.shared.redis pool.shared.held
  drawn : ∀ task ∈ pool.inFlight, ∃ n < pool.shared.drawn, task.token.lockId = randomUUID n
  drawn_held : ∀ g ∈ pool.shared.held, ∃ n < pool.shared.drawn, g.lease.value.lockId = randomUUID n
  nodup : (pool.inFlight.map LockTask.token).Nodup
  own : ∀ task ∈ pool.inFlight, ∀ g ∈ pool.shared.held, g.lease.value = task.token →
    task.key? = some g.key

namespace LocksInv

variable {randomUUID : ℕ → String} {pool : Pool Locks LockTask} {s : Locks}

theorem empty : LocksInv randomUUID ⟨Locks.empty, []⟩ :=
  ⟨Leases.Kept.nil _, nofun, nofun, List.nodup_nil, nofun⟩

theorem ages (h : LocksInv randomUUID pool) (hages : Locks.Ages pool.shared s)
    {inFlight : List LockTask} (htask : ∀ task ∈ inFlight, ∃ old ∈ pool.inFlight,
      task.token = old.token ∧ task.key? = old.key?)
    (hnodup : (inFlight.map LockTask.token).Nodup) : LocksInv randomUUID ⟨s, inFlight⟩ := by
  refine ⟨hages.kept, fun task ht => ?_, fun g' hg' => ?_, hnodup, fun task ht g' hg' hvalue => ?_⟩
  · obtain ⟨old, hold, htoken, -⟩ := htask task ht
    rw [htoken]
    show ∃ n < s.drawn, _
    rw [hages.drawn]
    exact h.drawn old hold
  · obtain ⟨g, hg, -, hvalue⟩ := hages.held g' hg'
    rw [← hvalue]
    show ∃ n < s.drawn, _
    rw [hages.drawn]
    exact h.drawn_held g hg
  · obtain ⟨old, hold, htoken, hkey⟩ := htask task ht
    obtain ⟨g, hg, hgkey, hgvalue⟩ := hages.held g' hg'
    rw [hkey, ← hgkey]
    exact h.own old hold g hg (by rw [hgvalue, hvalue, htoken])

theorem acquire (hfresh : Function.Injective randomUUID) (h : LocksInv randomUUID pool)
    (process : Process) (options : LockOptions) (exclusive : Bool) (now : ℕ) :
    LocksInv randomUUID
      ((lockProgram randomUUID).step pool (.call (.acquire process options exclusive now))) := by
  have hlater : ∀ {n : ℕ}, n < pool.shared.drawn → randomUUID n ≠ randomUUID pool.shared.drawn :=
    fun hn heq => absurd (hfresh heq) (by omega)
  refine ⟨h.kept, fun task ht => ?_, fun g hg => ?_, ?_, fun task ht g hg hvalue => ?_⟩
  · rcases List.mem_append.mp ht with ht | ht
    · obtain ⟨n, hn, hid⟩ := h.drawn task ht
      exact ⟨n, Nat.lt_succ_of_lt hn, hid⟩
    · obtain rfl := List.mem_singleton.mp ht
      exact ⟨pool.shared.drawn, Nat.lt_succ_self _, rfl⟩
  · obtain ⟨n, hn, hid⟩ := h.drawn_held g hg
    exact ⟨n, Nat.lt_succ_of_lt hn, hid⟩
  · show (List.map LockTask.token (pool.inFlight ++ [_])).Nodup
    rw [List.map_append]
    refine List.Nodup.append h.nodup (List.nodup_singleton _) fun token hold hnew => ?_
    obtain ⟨task, ht, rfl⟩ := List.mem_map.mp hold
    obtain ⟨n, hn, hid⟩ := h.drawn task ht
    rw [List.map_singleton, List.mem_singleton] at hnew
    rw [hnew] at hid
    exact hlater hn hid.symm
  · rcases List.mem_append.mp ht with ht | ht
    · exact h.own task ht g hg hvalue
    · obtain rfl := List.mem_singleton.mp ht
      obtain ⟨n, hn, hid⟩ := h.drawn_held g hg
      rw [hvalue] at hid
      exact absurd hid.symm (hlater hn)

variable {before after : List LockTask} {next : Option LockTask}

theorem grantLock (h : LocksInv randomUUID pool) {process : Process} {options : LockOptions}
    {token : LockValueMetadata} {attempt : ℕ} {exclusive : Bool} (hsplit : pool.inFlight =
      before ++ .acquiring process options token attempt exclusive :: after)
    (hget : pool.shared.redis.get options.key = none)
    (hnext : ∀ task ∈ next, task = .running process options.key token) :
    LocksInv randomUUID
      ⟨pool.shared.grantLock process options token
        (pool.shared.redis.put options.key token options.ttlMs.toNat),
        before ++ (next.toList ++ after)⟩ := by
  have hmem : .acquiring process options token attempt exclusive ∈ pool.inFlight := by
    rw [hsplit]
    exact List.mem_append_right _ List.mem_cons_self
  have hnodup := h.nodup
  rw [hsplit, List.map_append, List.map_cons, List.nodup_middle] at hnodup
  have hother : ∀ task ∈ before ++ after, task.token ≠ token := by
    intro task ht heq
    refine (List.nodup_cons.mp hnodup).1 ?_
    rw [← List.map_append]
    exact List.mem_map.mpr ⟨task, ht, heq⟩
  have hcases : ∀ task ∈ before ++ (next.toList ++ after),
      task ∈ before ++ after ∨ task = .running process options.key token := by
    intro task ht
    simp only [List.mem_append, Option.mem_toList] at ht ⊢
    rcases ht with ht | ht | ht
    · exact .inl (Or.inl ht)
    · exact .inr (hnext task ht)
    · exact .inl (Or.inr ht)
  have hold : ∀ task ∈ before ++ after, task ∈ pool.inFlight := by
    intro task ht
    rw [hsplit]
    rcases List.mem_append.mp ht with ht | ht
    · exact List.mem_append_left _ ht
    · exact List.mem_append_right _ (List.mem_cons_of_mem _ ht)
  refine ⟨h.kept.grant (h.kept.unexpired_of_get hget), fun task ht => ?_, fun g hg => ?_, ?_,
    fun task ht g hg hvalue => ?_⟩
  · rcases hcases task ht with ht | rfl
    · exact h.drawn task (hold task ht)
    · exact h.drawn (.acquiring process options token attempt exclusive) hmem
  · rcases List.mem_cons.mp hg with rfl | hg
    · exact h.drawn _ hmem
    · exact h.drawn_held g hg
  · show (List.map LockTask.token (before ++ (next.toList ++ after))).Nodup
    cases next with
    | none =>
      rw [Option.toList_none, List.nil_append, List.map_append]
      exact (List.nodup_cons.mp hnodup).2
    | some task =>
      obtain rfl := hnext task rfl
      rw [List.map_append, Option.toList_some, List.singleton_append, List.map_cons,
        List.nodup_middle]
      exact hnodup
  · rcases hcases task ht with ht | rfl
    · rcases List.mem_cons.mp hg with rfl | hg
      · exact absurd hvalue.symm (hother task ht)
      · exact h.own task (hold task ht) g hg hvalue
    · rcases List.mem_cons.mp hg with rfl | hg
      · rfl
      · exact absurd (h.own _ hmem g hg hvalue) nofun

theorem goesOn (h : LocksInv randomUUID pool) (hages : Locks.Ages pool.shared s) {task : LockTask}
    (hsplit : pool.inFlight = before ++ task :: after)
    (hnext : ∀ later ∈ next, later.token = task.token ∧ later.key? = task.key?) :
    LocksInv randomUUID ⟨s, before ++ (next.toList ++ after)⟩ := by
  have hnodup := h.nodup
  rw [hsplit, List.map_append, List.map_cons, List.nodup_middle] at hnodup
  refine h.ages hages (fun later hlater => ?_) ?_
  · simp only [List.mem_append, Option.mem_toList] at hlater
    rw [hsplit]
    rcases hlater with hlater | hlater | hlater
    · exact ⟨later, List.mem_append_left _ hlater, rfl, rfl⟩
    · exact ⟨task, List.mem_append_right _ List.mem_cons_self, hnext later hlater⟩
    · exact ⟨later, List.mem_append_right _ (List.mem_cons_of_mem _ hlater), rfl, rfl⟩
  · cases next with
    | none =>
      rw [Option.toList_none, List.nil_append, List.map_append]
      exact (List.nodup_cons.mp hnodup).2
    | some later =>
      rw [List.map_append, Option.toList_some, List.singleton_append, List.map_cons,
        List.nodup_middle, (hnext later rfl).1]
      exact hnodup

theorem step (hfresh : Function.Injective randomUUID) (h : LocksInv randomUUID pool)
    (move : Move LockCall LockAnswer) :
    LocksInv randomUUID ((lockProgram randomUUID).step pool move) := by
  obtain ⟨request, rfl, hres⟩ | ⟨_, answer, task, before, after, rfl, -, hsplit,
    hres⟩ | hres := (lockProgram randomUUID).step_cases pool move
  · have hsame {s : Locks} (hages : Locks.Ages pool.shared s) :
        LocksInv randomUUID ⟨s, pool.inFlight ++ (none : Option LockTask).toList⟩ := by
      rw [Option.toList_none, List.append_nil]
      exact h.ages hages (fun task ht => ⟨task, ht, rfl, rfl⟩) h.nodup
    cases request with
    | acquire process options exclusive now => exact h.acquire hfresh process options exclusive now
    | pass ms =>
      rw [hres]
      exact hsame (Locks.ages_pass h.kept ms)
    | release process key token fate =>
      rw [hres]
      cases token with
      | none => exact hsame (Locks.Ages.refl h.kept)
      | some token => exact hsame (Locks.ages_release h.kept process key token fate)
    | extend key token ttlMs fate =>
      rw [hres]
      exact hsame (Locks.ages_extend h.kept key token fate ttlMs)
    | onModuleDestroy process key fate =>
      rw [hres]
      exact hsame (Locks.ages_onModuleDestroy h.kept process key fate)
  · rw [hres]
    have hidle : LocksInv randomUUID
        ⟨pool.shared, before ++ ((some task).toList ++ after)⟩ :=
      h.goesOn (Locks.Ages.refl h.kept) hsplit fun later hlater => by cases hlater; exact ⟨rfl, rfl⟩
    cases task with
    | acquiring process options token attempt exclusive =>
      cases answer with
      | body => exact hidle
      | redis fate =>
        simp only [lockProgram]
        obtain ⟨hages, hfail⟩ | ⟨hget, hgranted⟩ :=
          Locks.attempt_cases h.kept process token fate options attempt
        · refine h.goesOn hages hsplit fun later hlater => ?_
          cases hlock : (pool.shared.attempt process options token attempt fate).2 with
          | none =>
            rw [hlock] at hlater
            cases hlater
            exact ⟨rfl, rfl⟩
          | some lock =>
            obtain rfl := hfail lock hlock
            rw [hlock] at hlater
            simp [afterAttempt, notAcquired] at hlater
        · rw [hgranted]
          refine h.grantLock hsplit hget fun later hlater => ?_
          cases exclusive <;> simp [afterAttempt] at hlater
          exact hlater.symm
    | running =>
      cases answer with
      | redis => exact hidle
      | body =>
        refine h.goesOn (Locks.Ages.refl h.kept) hsplit fun later hlater => ?_
        cases hlater
        exact ⟨rfl, rfl⟩
    | releasing process key token =>
      cases answer with
      | body => exact hidle
      | redis fate =>
        exact h.goesOn (Locks.ages_release h.kept process key token fate) hsplit nofun
  · rw [hres]
    exact h

end LocksInv

/-! ## Safety -/

/-- A block at its `finally` releases the lock it acquired if that has not expired, and no other
call in flight has its token. -/
structure ReleasesOwn (pool : Pool Locks LockTask) (process : Process) (key : String)
    (token : LockValueMetadata) : Prop where
  released : ∀ g ∈ pool.shared.held, g.lease.value = token →
    pool.shared.redis.now < g.lease.deadline →
      g.key = key ∧ (pool.shared.release process key (some token) .answered).2 = true ∧
        (pool.shared.release process key (some token) .answered).1.redis.get key = none
  only : ∀ before task after, pool.inFlight = before ++ task :: after → task.token = token →
    ∀ other ∈ before ++ after, other.token ≠ token

/-- What holds of the lock service in every pool of callers. -/
structure LocksSafe (randomUUID : ℕ → String) (pool : Pool Locks LockTask) : Prop where
  exclusive : ∀ key, pool.shared.redis.unexpired pool.shared.held key ≤ 1
  stored : ∀ g ∈ pool.shared.held, pool.shared.redis.now < g.lease.deadline →
    pool.shared.redis.get g.key = some g.lease.value
  release : ∀ process key token fate,
    Locks.OnlyOwn pool.shared.redis (pool.shared.release process key (some token) fate).1.redis
      key token (pool.shared.release process key (some token) fate).2
  extend : ∀ key token ttlMs fate,
    Locks.OnlyOwn pool.shared.redis (pool.shared.extend key token ttlMs fate).1.redis
      key token (pool.shared.extend key token ttlMs fate).2
  /-- A body that has its lock is followed by the release of that lock, however it ends. -/
  finally_ : ∀ process key token returned,
    (lockProgram randomUUID).advance pool.shared (.running process key token) (.body returned) =
      (pool.shared, some (.releasing process key token))
  block : ∀ process key token, .running process key token ∈ pool.inFlight ∨
    .releasing process key token ∈ pool.inFlight → ReleasesOwn pool process key token

/-- **Whatever the order of the steps of any callers, and whenever locks expire, no key has two
unexpired locks, a release or an extension moves no lock but its own token's, and a block releases
the lock it acquired if that has not expired, and no other.** -/
theorem locks_safe {randomUUID : ℕ → String} (hfresh : Function.Injective randomUUID)
    {pool : Pool Locks LockTask}
    (h : (lockProgram randomUUID).Reached (fun _ _ => True) ⟨Locks.empty, []⟩ pool) :
    LocksSafe randomUUID pool := by
  have hinv : LocksInv randomUUID pool :=
    h.invariant (fun _ move hinv _ => hinv.step hfresh move) LocksInv.empty
  refine ⟨hinv.kept.single, fun g hg hlive => hinv.kept.get hg hlive,
    fun _ _ _ _ => Locks.release_onlyOwn, fun _ _ _ _ => Locks.extend_onlyOwn,
    fun _ _ _ _ => rfl, fun process key token hblock => ⟨fun g hg hvalue hlive => ?_, ?_⟩⟩
  · have hkey : key = g.key := by
      rcases hblock with ht | ht
      all_goals exact Option.some.inj (hinv.own _ ht g hg hvalue)
    have hget : pool.shared.redis.get key = some token := by
      rw [hkey, ← hvalue]
      exact hinv.kept.get hg hlive
    refine ⟨hkey.symm, Locks.release_done.mpr ⟨rfl, hget⟩, ?_⟩
    rw [Locks.release_redis, if_pos ⟨rfl, hget⟩, Leases.get_drop_self]
  · intro before task after hsplit htoken other hother heq
    have hnodup := hinv.nodup
    rw [hsplit, List.map_append, List.map_cons, List.nodup_middle, ← List.map_append] at hnodup
    refine (List.nodup_cons.mp hnodup).1 ?_
    rw [htoken, ← heq]
    exact List.mem_map.mpr ⟨other, hother, rfl⟩

/-! ## A body that outlives its lock -/

def sampleUUID (n : ℕ) : String := String.ofList (List.replicate n 'a')

theorem sampleUUID_injective : Function.Injective sampleUUID := by
  intro m n h
  simpa [sampleUUID] using congrArg (fun s => s.toList.length) h

def syncOptions : LockOptions := { key := "category-sync:lock", ttlMs := 120000 }

def syncToken (n : ℕ) : LockValueMetadata := ⟨sampleUUID n, "worker", 7, 0⟩

def outlivingMoves : List (Move LockCall LockAnswer) :=
  [.call (.acquire ⟨"worker", 7⟩ syncOptions true 0), .advance 0 (.redis .answered),
    .call (.pass 120000),
    .call (.acquire ⟨"worker", 7⟩ syncOptions true 0), .advance 1 (.redis .answered),
    .advance 0 (.body true)]

def outlived : Pool Locks LockTask :=
  (lockProgram sampleUUID).run ⟨Locks.empty, []⟩ outlivingMoves

theorem outlived_reached :
    (lockProgram sampleUUID).Reached (fun _ _ => True) ⟨Locks.empty, []⟩ outlived :=
  Tasks.Program.reached_run (by simp [outlivingMoves, Tasks.Program.AllMeet])

theorem outlived_inFlight : outlived.inFlight =
    [.releasing ⟨"worker", 7⟩ "category-sync:lock" (syncToken 0),
      .running ⟨"worker", 7⟩ "category-sync:lock" (syncToken 1)] := rfl

theorem locks_safe_outlived : LocksSafe sampleUUID outlived :=
  locks_safe sampleUUID_injective outlived_reached

/-- **No lock is extended while its body runs: a second body starts beside the first, whose release
finds a lock that is not its own.** -/
theorem outlived_lock :
    (lockProgram sampleUUID).Reached (fun _ _ => True) ⟨Locks.empty, []⟩ outlived ∧
      outlived.inFlight =
        [.releasing ⟨"worker", 7⟩ "category-sync:lock" (syncToken 0),
          .running ⟨"worker", 7⟩ "category-sync:lock" (syncToken 1)] ∧
      (outlived.shared.release ⟨"worker", 7⟩ "category-sync:lock" (some (syncToken 0))
        .answered).2 = false :=
  ⟨outlived_reached, outlived_inFlight, by decide +kernel⟩

end Chansey.Shared
