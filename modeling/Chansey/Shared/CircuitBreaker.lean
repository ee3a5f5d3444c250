import Chansey.Lib.OrdMap
import Mathlib.Algebra.Order.Ring.Int
import Mathlib.Data.List.Induction

/-!
# The circuit breaker

Calls to an exchange are recorded as failures and successes under its key; too many failures open
the key's circuit, and an open circuit refuses calls for a while.

* `run`: the calls of a history. `spell`: the calls on a key since its circuit last changed its
  state; `lastFailure`: when the last failure on a key was recorded.
-/

namespace Chansey.Shared

inductive CircuitState where
  | closed
  | open
  | halfOpen
  deriving DecidableEq

structure CircuitBreakerOptions where
  failureThreshold : ℤ := 5
  successThreshold : ℤ := 2
  resetTimeoutMs : ℤ := 30000
  failureWindowMs : ℤ := 60000

/-- What `configure` is given: the options it leaves out stay as they are. -/
structure CircuitBreakerConfig where
  failureThreshold : Option ℤ := none
  successThreshold : Option ℤ := none
  resetTimeoutMs : Option ℤ := none
  failureWindowMs : Option ℤ := none

def CircuitBreakerOptions.with (options : CircuitBreakerOptions) (config : CircuitBreakerConfig) :
    CircuitBreakerOptions where
  failureThreshold := config.failureThreshold.getD options.failureThreshold
  successThreshold := config.successThreshold.getD options.successThreshold
  resetTimeoutMs := config.resetTimeoutMs.getD options.resetTimeoutMs
  failureWindowMs := config.failureWindowMs.getD options.failureWindowMs

structure CircuitData where
  state : CircuitState := .closed
  failures : List ℤ := []
  consecutiveSuccesses : ℤ := 0
  lastFailureTime : Option ℤ := none
  openedAt : Option ℤ := none
  options : CircuitBreakerOptions := {}

structure CircuitOpenError where
  circuitKey : String
  timeUntilHalfOpen : ℤ

def CircuitOpenError.message (e : CircuitOpenError) : String :=
  "Circuit breaker '" ++ e.circuitKey ++ "' is OPEN. Retry in " ++
    toString (-(-e.timeUntilHalfOpen / 1000)) ++ "s"

abbrev Circuits := OrdMap String CircuitData

def getCircuit (circuits : Circuits) (key : String) : CircuitData := (circuits.get? key).getD {}

def configure (circuits : Circuits) (key : String) (config : CircuitBreakerConfig) : Circuits :=
  circuits.set key
    { getCircuit circuits key with options := (getCircuit circuits key).options.with config }

section Calls

variable (circuits : Circuits) (key : String) (now : ℤ)

/-- A circuit that was open for the reset timeout becomes half-open. -/
def checkCircuit : Circuits × Except CircuitOpenError Unit :=
  let circuit := getCircuit circuits key
  match circuit.state with
  | .closed => (circuits.set key circuit, .ok ())
  | .open =>
    let timeSinceOpen := now - circuit.openedAt.getD 0
    if timeSinceOpen ≥ circuit.options.resetTimeoutMs then
      (circuits.set key { circuit with state := .halfOpen, consecutiveSuccesses := 0 }, .ok ())
    else
      (circuits.set key circuit, .error ⟨key, circuit.options.resetTimeoutMs - timeSinceOpen⟩)
  | .halfOpen => (circuits.set key circuit, .ok ())

def recordSuccess : Circuits :=
  let circuit := getCircuit circuits key
  match circuit.state with
  | .closed => circuits.set key circuit
  | .halfOpen =>
    let consecutiveSuccesses := circuit.consecutiveSuccesses + 1
    if consecutiveSuccesses ≥ circuit.options.successThreshold then
      circuits.set key
        { circuit with state := .closed, failures := [], consecutiveSuccesses := 0, openedAt := none }
    else circuits.set key { circuit with consecutiveSuccesses := consecutiveSuccesses }
  | .open => circuits.set key circuit

def CircuitData.failed (circuit : CircuitData) (now : ℤ) : CircuitData :=
  { circuit with
    failures :=
      circuit.failures.filter (fun timestamp => now - timestamp < circuit.options.failureWindowMs)
        ++ [now]
    lastFailureTime := some now }

def recordFailure : Circuits :=
  let circuit := (getCircuit circuits key).failed now
  match circuit.state with
  | .closed =>
    if (circuit.failures.length : ℤ) ≥ circuit.options.failureThreshold then
      circuits.set key { circuit with state := .open, openedAt := some now }
    else circuits.set key circuit
  | .halfOpen =>
    circuits.set key { circuit with state := .open, openedAt := some now, consecutiveSuccesses := 0 }
  -- a failure while open extends the cooldown
  | .open => circuits.set key { circuit with openedAt := some now }

end Calls

/-! ## Histories -/

inductive CircuitCall where
  | checkCircuit
  | recordSuccess
  | recordFailure
  deriving DecidableEq

structure TimedCall where
  key : String
  now : ℤ
  call : CircuitCall

def step (circuits : Circuits) (c : TimedCall) : Circuits :=
  match c.call with
  | .checkCircuit => (checkCircuit circuits c.key c.now).1
  | .recordSuccess => recordSuccess circuits c.key
  | .recordFailure => recordFailure circuits c.key c.now

def run (circuits : Circuits) (history : List TimedCall) : Circuits := history.foldl step circuits

/-- Circuits that were configured and not called yet. -/
def configured (configs : List (String × CircuitBreakerConfig)) : Circuits :=
  configs.foldl (fun circuits c => configure circuits c.1 c.2) OrdMap.empty

def lastFailure (key : String) (history : List TimedCall) : Option ℤ :=
  ((history.filter fun c => c.key = key ∧ c.call = .recordFailure).map (·.now)).getLast?

def follow (key : String) (p : Circuits × List TimedCall) (c : TimedCall) :
    Circuits × List TimedCall :=
  (step p.1 c,
    if c.key = key then
      if (getCircuit (step p.1 c) key).state = (getCircuit p.1 key).state then p.2 ++ [c] else []
    else p.2)

def spell (key : String) (circuits : Circuits) (history : List TimedCall) : List TimedCall :=
  (history.foldl (follow key) (circuits, [])).2

def failureTimes (calls : List TimedCall) : List ℤ :=
  (calls.filter fun c => c.call = .recordFailure).map (·.now)

def successes (calls : List TimedCall) : ℕ := calls.countP fun c => c.call = .recordSuccess

/-- What the next call does, in terms of the calls before it. -/
structure CircuitLaw (start : Circuits) (history : List TimedCall) (c : TimedCall)
    (before after : CircuitData) : Prop where
  /-- A check throws exactly while the circuit is open and the reset timeout has not passed since
  the last failure, the one that opened it or a later one. -/
  throws : (∃ e, (checkCircuit (run start history) c.key c.now).2 = .error e) ↔
    before.state = .open ∧ ∃ failedAt, lastFailure c.key history = some failedAt ∧
      c.now - failedAt < before.options.resetTimeoutMs
  halfOpens : (before.state ≠ .halfOpen ∧ after.state = .halfOpen) ↔
    c.call = .checkCircuit ∧ before.state = .open ∧
      ∃ failedAt, lastFailure c.key history = some failedAt ∧
        before.options.resetTimeoutMs ≤ c.now - failedAt
  /-- It opens exactly when a failure occurs half-open, or makes the failures within the window
  since it last closed reach the threshold. -/
  opens : (before.state ≠ .open ∧ after.state = .open) ↔
    c.call = .recordFailure ∧
      (before.state = .halfOpen ∨ before.state = .closed ∧
        before.options.failureThreshold ≤
          (((failureTimes (spell c.key start history)).filter fun failedAt =>
            c.now - failedAt < before.options.failureWindowMs).length : ℤ) + 1)
  /-- It closes exactly at the last of `successThreshold` successes since it became half-open. -/
  closes : (before.state ≠ .closed ∧ after.state = .closed) ↔
    c.call = .recordSuccess ∧ before.state = .halfOpen ∧
      before.options.successThreshold ≤ (successes (spell c.key start history) : ℤ) + 1
  noFailure : before.state = .halfOpen → failureTimes (spell c.key start history) = []
  /-- The circuits of other keys stay as they are, and calls on them leave this one alone. -/
  others : ∀ key, key ≠ c.key → (step (run start history) c).get? key = (run start history).get? key
  alone : before = getCircuit (run start (history.filter fun earlier => earlier.key = c.key)) c.key

/-! ## One circuit -/

def CircuitData.next (circuit : CircuitData) (now : ℤ) : CircuitCall → CircuitData
  | .checkCircuit =>
    if circuit.state = .open ∧ circuit.options.resetTimeoutMs ≤ now - circuit.openedAt.getD 0 then
      { circuit with state := .halfOpen, consecutiveSuccesses := 0 }
    else circuit
  | .recordSuccess =>
    if circuit.state = .halfOpen then
      if circuit.options.successThreshold ≤ circuit.consecutiveSuccesses + 1 then
        { circuit with state := .closed, failures := [], consecutiveSuccesses := 0, openedAt := none }
      else { circuit with consecutiveSuccesses := circuit.consecutiveSuccesses + 1 }
    else circuit
  | .recordFailure =>
    match circuit.state with
    | .closed =>
      if circuit.options.failureThreshold ≤ ((circuit.failed now).failures.length : ℤ) then
        { circuit.failed now with state := .open, openedAt := some now }
      else circuit.failed now
    | .halfOpen =>
      { circuit.failed now with state := .open, openedAt := some now, consecutiveSuccesses := 0 }
    | .open => { circuit.failed now with openedAt := some now }

section Keys

variable (circuits : Circuits) (c : TimedCall) (key : String)

theorem step_eq : step circuits c =
    circuits.set c.key ((getCircuit circuits c.key).next c.now c.call) := by
  cases hcall : c.call with
  | checkCircuit =>
    simp only [step, hcall, checkCircuit, CircuitData.next]
    split
    · rename_i hstate
      simp [hstate]
    · rename_i hstate
      simp only [hstate, true_and, ge_iff_le]
      split <;> rfl
    · rename_i hstate
      simp [hstate]
  | recordSuccess =>
    simp only [step, hcall, recordSuccess, CircuitData.next]
    split
    · rename_i hstate
      simp [hstate]
    · rename_i hstate
      simp only [hstate, if_true, ge_iff_le]
      split <;> rfl
    · rename_i hstate
      simp [hstate]
  | recordFailure =>
    simp only [step, hcall, recordFailure, CircuitData.next]
    cases hstate : (getCircuit circuits c.key).state <;>
      simp only [CircuitData.failed, hstate, ge_iff_le]
    split <;> rfl

theorem getCircuit_step : getCircuit (step circuits c) key =
    if c.key = key then (getCircuit circuits key).next c.now c.call
    else getCircuit circuits key := by
  rw [step_eq, getCircuit, OrdMap.get?_set]
  split
  · rename_i h
    subst h
    rfl
  · rfl

theorem step_other {key : String} (h : key ≠ c.key) :
    (step circuits c).get? key = circuits.get? key := by
  rw [step_eq, OrdMap.get?_set_of_ne _ _ h.symm]

theorem run_key (history : List TimedCall) :
    getCircuit (run circuits history) key =
      (history.filter fun c => c.key = key).foldl (fun circuit c => circuit.next c.now c.call)
        (getCircuit circuits key) := by
  induction history generalizing circuits with
  | nil => rfl
  | cons c history ih =>
    show getCircuit (run (step circuits c) history) key = _
    rw [ih, getCircuit_step]
    by_cases hkey : c.key = key
    · simp [hkey]
    · simp [hkey]

end Keys

/-! ## What a circuit remembers -/

/-- A circuit remembers of its history what the next call needs: its failures since it last closed
that are still in the window, its successes since it became half-open, or its last failure. -/
structure Remembers (key : String) (start : Circuits) (history : List TimedCall)
    (circuit : CircuitData) : Prop where
  closed : circuit.state = .closed → ∀ now, (∀ c ∈ history, c.now ≤ now) →
    circuit.failures.filter (fun t => now - t < circuit.options.failureWindowMs) =
      (failureTimes (spell key start history)).filter fun t =>
        now - t < circuit.options.failureWindowMs
  halfOpen : circuit.state = .halfOpen →
    circuit.consecutiveSuccesses = successes (spell key start history) ∧
      failureTimes (spell key start history) = []
  open_ : circuit.state = .open →
    ∃ failedAt, lastFailure key history = some failedAt ∧ circuit.openedAt = some failedAt

section Concat

variable (key : String) (start : Circuits) (history : List TimedCall) (c : TimedCall)

theorem run_concat : run start (history ++ [c]) = step (run start history) c := by
  simp [run]

theorem follow_fst (p : Circuits × List TimedCall) :
    (history.foldl (follow key) p).1 = run p.1 history := by
  induction history generalizing p with
  | nil => rfl
  | cons c history ih => exact ih (follow key p c)

theorem spell_concat : spell key start (history ++ [c]) =
    if c.key = key then
      if (getCircuit (step (run start history) c) key).state =
          (getCircuit (run start history) key).state then
        spell key start history ++ [c]
      else []
    else spell key start history := by
  simp only [spell, List.foldl_append, List.foldl_cons, List.foldl_nil, follow]
  rw [follow_fst]

theorem failureTimes_concat (calls : List TimedCall) : failureTimes (calls ++ [c]) =
    if c.call = .recordFailure then failureTimes calls ++ [c.now] else failureTimes calls := by
  by_cases h : c.call = .recordFailure <;> simp [failureTimes, h]

theorem successes_concat (calls : List TimedCall) : successes (calls ++ [c]) =
    if c.call = .recordSuccess then successes calls + 1 else successes calls := by
  by_cases h : c.call = .recordSuccess <;> simp [successes, h]

theorem lastFailure_concat : lastFailure key (history ++ [c]) =
    if c.key = key ∧ c.call = .recordFailure then some c.now else lastFailure key history := by
  by_cases h : c.key = key ∧ c.call = .recordFailure <;> simp [lastFailure, h]

end Concat

section Remembers

variable {key : String} {start : Circuits} {history : List TimedCall} {c : TimedCall}
  {circuit : CircuitData}

theorem filter_failed {circuit : CircuitData} {now later : ℤ} (h : now ≤ later) :
    (circuit.failed now).failures.filter (fun t => later - t < circuit.options.failureWindowMs) =
      circuit.failures.filter (fun t => later - t < circuit.options.failureWindowMs) ++
        [now].filter (fun t => later - t < circuit.options.failureWindowMs) := by
  rw [CircuitData.failed, List.filter_append, List.filter_filter]
  congr 1
  refine List.filter_congr fun t _ => ?_
  simp only [Bool.and_eq_decide, decide_eq_true_eq]
  rw [decide_eq_decide]
  omega

theorem Remembers.other (h : Remembers key start history circuit) (hkey : c.key ≠ key) :
    Remembers key start (history ++ [c]) circuit := by
  have hspell : spell key start (history ++ [c]) = spell key start history := by
    rw [spell_concat, if_neg hkey]
  refine ⟨fun hstate now hnow => ?_, fun hstate => ?_, fun hstate => ?_⟩
  · rw [hspell]
    exact h.closed hstate now fun c' hc' => hnow c' (List.mem_append_left _ hc')
  · rw [hspell]
    exact h.halfOpen hstate
  · rw [lastFailure_concat, if_neg fun hc => hkey hc.1]
    exact h.open_ hstate

theorem Remembers.next (h : Remembers c.key start history circuit)
    (hcircuit : getCircuit (run start history) c.key = circuit) :
    Remembers c.key start (history ++ [c]) (circuit.next c.now c.call) := by
  have hspell : spell c.key start (history ++ [c]) =
      if (circuit.next c.now c.call).state = circuit.state then spell c.key start history ++ [c]
      else [] := by
    rw [spell_concat, if_pos rfl, getCircuit_step, if_pos rfl, hcircuit]
  have hlast : lastFailure c.key (history ++ [c]) =
      if c.call = .recordFailure then some c.now else lastFailure c.key history := by
    simp [lastFailure_concat]
  have hearl {now : ℤ} (hnow : ∀ c' ∈ history ++ [c], c'.now ≤ now) :
      c.now ≤ now ∧ ∀ c' ∈ history, c'.now ≤ now :=
    ⟨hnow c (by simp), fun c' hc' => hnow c' (List.mem_append_left _ hc')⟩
  cases hcall : c.call with
  | checkCircuit =>
    simp only [hcall, CircuitData.next] at hspell hlast ⊢
    split
    · -- the reset timeout has passed
      rename_i hreset
      rw [if_pos hreset, if_neg (by rw [hreset.1]; nofun)] at hspell
      refine ⟨nofun, fun _ => ?_, nofun⟩
      rw [hspell]
      exact ⟨rfl, rfl⟩
    · rename_i hkept
      simp only [if_neg hkept, if_true] at hspell
      refine ⟨fun hstate now hnow => ?_, fun hstate => ?_, fun hstate => ?_⟩
      · rw [hspell, failureTimes_concat, if_neg (by simp [hcall])]
        exact h.closed hstate now (hearl hnow).2
      · rw [hspell, successes_concat, if_neg (by simp [hcall]), failureTimes_concat,
          if_neg (by simp [hcall])]
        exact h.halfOpen hstate
      · rw [hlast, if_neg nofun]
        exact h.open_ hstate
  | recordSuccess =>
    simp only [hcall, CircuitData.next] at hspell hlast ⊢
    split
    · rename_i hhalf
      obtain ⟨hsuccesses, hfailures⟩ := h.halfOpen hhalf
      split
      · rename_i henough
        rw [if_pos hhalf, if_pos henough, if_neg (by rw [hhalf]; nofun)] at hspell
        refine ⟨fun _ now _ => ?_, nofun, nofun⟩
        rw [hspell]
        rfl
      · rename_i hfew
        simp only [if_pos hhalf, if_neg hfew, if_true] at hspell
        refine ⟨fun hstate => absurd (hhalf.symm.trans hstate) nofun, fun _ => ?_,
          fun hstate => absurd (hhalf.symm.trans hstate) nofun⟩
        rw [hspell, successes_concat, if_pos hcall, failureTimes_concat, if_neg (by simp [hcall])]
        refine ⟨?_, hfailures⟩
        push_cast
        rw [hsuccesses]
    · rename_i hhalf
      simp only [if_neg hhalf, if_true] at hspell
      refine ⟨fun hstate now hnow => ?_, fun hstate => absurd hstate hhalf, fun hstate => ?_⟩
      · rw [hspell, failureTimes_concat, if_neg (by simp [hcall])]
        exact h.closed hstate now (hearl hnow).2
      · rw [hlast, if_neg nofun]
        exact h.open_ hstate
  | recordFailure =>
    simp only [hcall, CircuitData.next] at hspell hlast ⊢
    rw [if_pos trivial] at hlast
    cases hstate : circuit.state with
    | closed =>
      simp only [hstate] at hspell ⊢
      split
      · refine ⟨nofun, nofun, fun _ => ⟨c.now, hlast, rfl⟩⟩
      · rename_i hfew
        rw [if_neg hfew] at hspell
        have hsame : (circuit.failed c.now).state = .closed := hstate
        rw [if_pos hsame] at hspell
        refine ⟨fun _ now hnow => ?_, fun hhalf => absurd (hsame.symm.trans hhalf) nofun,
          fun hopen => absurd (hsame.symm.trans hopen) nofun⟩
        obtain ⟨hlater, hall⟩ := hearl hnow
        rw [hspell, failureTimes_concat, if_pos hcall, List.filter_append]
        show List.filter (fun t => decide (now - t < circuit.options.failureWindowMs)) _ = _
        rw [filter_failed hlater, h.closed hstate now hall]
        rfl
    | halfOpen => exact ⟨nofun, nofun, fun _ => ⟨c.now, hlast, rfl⟩⟩
    | «open» =>
      refine ⟨fun hclos => absurd (hstate.symm.trans hclos) nofun,
        fun hhalf => absurd (hstate.symm.trans hhalf) nofun, fun _ => ⟨c.now, hlast, rfl⟩⟩

end Remembers

/-! ## The law -/

theorem getCircuit_configured (configs : List (String × CircuitBreakerConfig)) (key : String) :
    (getCircuit (configured configs) key).state = .closed ∧
      (getCircuit (configured configs) key).failures = [] := by
  induction configs using List.reverseRecOn with
  | nil => exact ⟨rfl, rfl⟩
  | append_singleton configs config ih =>
    rw [configured, List.foldl_append, List.foldl_cons, List.foldl_nil, ← configured, configure,
      getCircuit, OrdMap.get?_set]
    split
    · rename_i hkey
      rw [hkey]
      exact ih
    · exact ih

theorem remembers_run (configs : List (String × CircuitBreakerConfig)) (history : List TimedCall)
    (key : String) : Remembers key (configured configs) history
      (getCircuit (run (configured configs) history) key) := by
  induction history using List.reverseRecOn with
  | nil =>
    obtain ⟨hstate, hfailures⟩ := getCircuit_configured configs key
    refine ⟨fun _ now _ => ?_, fun h => absurd (hstate.symm.trans h) nofun,
      fun h => absurd (hstate.symm.trans h) nofun⟩
    show List.filter _ (getCircuit (configured configs) key).failures = _
    rw [hfailures]
    rfl
  | append_singleton history c ih =>
    rw [run_concat, getCircuit_step]
    split
    · rename_i hkey
      subst hkey
      exact ih.next rfl
    · rename_i hkey
      exact ih.other hkey

section Law

variable {start : Circuits} {history : List TimedCall} {c : TimedCall} {circuit : CircuitData}

section

variable (h : Remembers c.key start history circuit)

include h

theorem failures_length (htime : ∀ earlier ∈ history, earlier.now ≤ c.now)
    (hclos : circuit.state = .closed) :
    ((circuit.failed c.now).failures.length : ℤ) =
      (((failureTimes (spell c.key start history)).filter fun failedAt =>
        c.now - failedAt < circuit.options.failureWindowMs).length : ℤ) + 1 := by
  simp only [CircuitData.failed, List.length_append, List.length_singleton]
  rw [h.closed hclos c.now htime]
  push_cast
  rfl

theorem Remembers.openFor (hopen : circuit.state = .open) (p : ℤ → Prop) :
    (∃ failedAt, lastFailure c.key history = some failedAt ∧ p (c.now - failedAt)) ↔
      p (c.now - circuit.openedAt.getD 0) := by
  obtain ⟨_, hlast, hopened⟩ := h.open_ hopen
  simp [hlast, hopened]

theorem check_throws_iff (hcircuit : getCircuit (run start history) c.key = circuit) :
    (∃ e, (checkCircuit (run start history) c.key c.now).2 = .error e) ↔
      circuit.state = .open ∧ ∃ failedAt, lastFailure c.key history = some failedAt ∧
        c.now - failedAt < circuit.options.resetTimeoutMs := by
  rw [checkCircuit, hcircuit]
  cases hstate : circuit.state with
  | closed | halfOpen => simp
  | «open» =>
    rw [h.openFor hstate (· < circuit.options.resetTimeoutMs)]
    by_cases hreset : circuit.options.resetTimeoutMs ≤ c.now - circuit.openedAt.getD 0
    · simp [hreset]
    · simp [hreset]
      omega

theorem halfOpens_iff :
    (circuit.state ≠ .halfOpen ∧ (circuit.next c.now c.call).state = .halfOpen) ↔
      c.call = .checkCircuit ∧ circuit.state = .open ∧
        ∃ failedAt, lastFailure c.key history = some failedAt ∧
          circuit.options.resetTimeoutMs ≤ c.now - failedAt := by
  cases hstate : circuit.state with
  | closed =>
    cases c.call <;> simp [CircuitData.next, hstate]
    split <;> simp [CircuitData.failed, hstate]
  | halfOpen => simp
  | «open» =>
    rw [h.openFor hstate (circuit.options.resetTimeoutMs ≤ ·)]
    cases c.call <;> simp [CircuitData.next, hstate, CircuitData.failed]
    split <;> simp_all

theorem opens_iff (htime : ∀ earlier ∈ history, earlier.now ≤ c.now) :
    (circuit.state ≠ .open ∧ (circuit.next c.now c.call).state = .open) ↔
      c.call = .recordFailure ∧
        (circuit.state = .halfOpen ∨ circuit.state = .closed ∧
          circuit.options.failureThreshold ≤
            (((failureTimes (spell c.key start history)).filter fun failedAt =>
              c.now - failedAt < circuit.options.failureWindowMs).length : ℤ) + 1) := by
  cases hstate : circuit.state with
  | «open» => simp
  | closed =>
    rw [← failures_length h htime hstate]
    cases c.call <;> simp [CircuitData.next, hstate]
    split <;> simp_all [CircuitData.failed]
  | halfOpen =>
    cases c.call <;> simp [CircuitData.next, hstate]
    split <;> simp

theorem closes_iff :
    (circuit.state ≠ .closed ∧ (circuit.next c.now c.call).state = .closed) ↔
      c.call = .recordSuccess ∧ circuit.state = .halfOpen ∧
        circuit.options.successThreshold ≤ (successes (spell c.key start history) : ℤ) + 1 := by
  cases hstate : circuit.state with
  | closed => simp
  | halfOpen =>
    rw [← (h.halfOpen hstate).1]
    cases c.call <;> simp [CircuitData.next, hstate]
    split <;> simp_all
  | «open» =>
    cases c.call <;> simp [CircuitData.next, hstate, CircuitData.failed]
    split <;> simp_all

end

end Law

/-- **After every history in which time does not go back, the next call throws, opens, half-opens
and closes its circuit as the law says, and leaves the other circuits alone.** -/
theorem circuit_law (configs : List (String × CircuitBreakerConfig)) (history : List TimedCall)
    (c : TimedCall)
    (htime : (history ++ [c]).Pairwise fun earlier later => earlier.now ≤ later.now) :
    CircuitLaw (configured configs) history c
      (getCircuit (run (configured configs) history) c.key)
      (getCircuit (step (run (configured configs) history) c) c.key) := by
  have h := remembers_run configs history c.key
  have hbefore : ∀ earlier ∈ history, earlier.now ≤ c.now := fun earlier hearlier =>
    (List.pairwise_append.mp htime).2.2 earlier hearlier c List.mem_cons_self
  rw [getCircuit_step, if_pos rfl]
  refine ⟨check_throws_iff h rfl, halfOpens_iff h, opens_iff h hbefore, closes_iff h,
    fun hstate => (h.halfOpen hstate).2, fun key hkey => step_other _ c hkey, ?_⟩
  rw [run_key, run_key, List.filter_filter]
  simp

/-! ## Two histories -/

def failure (now : ℤ) : TimedCall := ⟨"binance", now, .recordFailure⟩

def success (now : ℤ) : TimedCall := ⟨"binance", now, .recordSuccess⟩

def check (now : ℤ) : TimedCall := ⟨"binance", now, .checkCircuit⟩

def extendedCooldown : List TimedCall :=
  [failure 0, failure 0, failure 0, failure 0, failure 0, failure 20000]

def recovery : List TimedCall :=
  [failure 0, failure 0, failure 0, failure 0, failure 0, check 30000, success 31000, success 32000]

/-- **A failure while open extends the cooldown, and recovery forgets the failures in the window.**
The first circuit throws 35 seconds after it opened, with a reset timeout of 30. The second has six
failures within its window and a threshold of five, and stays closed. -/
theorem cooldown_extends_and_recovery_forgets :
    ((getCircuit (run (configured []) (extendedCooldown.take 4)) "binance").state = .closed ∧
      (getCircuit (run (configured []) (extendedCooldown.take 5)) "binance").state = .open ∧
      (getCircuit (configured []) "binance").options.resetTimeoutMs ≤ 35000 - 0 ∧
      (checkCircuit (run (configured []) extendedCooldown) "binance" 35000).2 =
        .error ⟨"binance", 15000⟩) ∧
    ((failureTimes (recovery ++ [failure 40000])).filter (fun t =>
        40000 - t < (getCircuit (configured []) "binance").options.failureWindowMs)).length = 6 ∧
      (getCircuit (run (configured []) (recovery ++ [failure 40000])) "binance").state =
        .closed := by
  refine ⟨⟨?_, ?_, ?_, ?_⟩, ?_, ?_⟩
  · decide +kernel
  · decide +kernel
  · decide +kernel
  · rfl
  · decide +kernel
  · decide +kernel

theorem circuit_law_extended :
    CircuitLaw (configured []) extendedCooldown (check 35000)
      (getCircuit (run (configured []) extendedCooldown) "binance")
      (getCircuit (step (run (configured []) extendedCooldown) (check 35000)) "binance") :=
  circuit_law [] extendedCooldown (check 35000) (by decide +kernel)

end Chansey.Shared
