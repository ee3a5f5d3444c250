import Chansey.Loop.Throttle

/-!
# The limits of the throttle over a run

The throttle seen from outside: what it admits is decided by what it admitted before. The ledgers are
a summary of that history.
-/

namespace Chansey

/-! ## The history of a run -/

structure Execution where
  time : Instant
  key : CooldownKey
  deriving DecidableEq

def TradingSignal.cooldownKey (signal : TradingSignal) : CooldownKey :=
  (signal.coinId, signal.action)

/-- The executions in the 24 hours up to a time. -/
def recent (history : List Execution) (now : Instant) : List Execution :=
  history.filter (now - 24 * HOUR_MS < ·.time)

structure Admits (config : SignalThrottleConfig) (history : List Execution) (now : Instant)
    (earlier : List CooldownKey) (signal : TradingSignal) : Prop where
  action : signal.action ≠ .hold
  cooldown : 0 < config.cooldownMs → signal.cooldownKey ∉ earlier ∧
    ∀ e ∈ history, e.key = signal.cooldownKey → (e.time : ℚ) + config.cooldownMs ≤ now
  cap : isThrottleBypass signal = false → 0 < config.maxTradesPerDay →
    ((recent history now).length : ℚ) < config.maxTradesPerDay

/-- The verdicts on a batch are those of the history and of the signals admitted before in it. -/
def Judged (config : SignalThrottleConfig) (history : List Execution) (now : Instant) :
    List CooldownKey → List (TradingSignal × Bool) → Prop
  | _, [] => True
  | earlier, (signal, ok) :: rest =>
    (ok = true ↔ Admits config history now earlier signal) ∧
      Judged config history now (if ok then signal.cooldownKey :: earlier else earlier) rest

/-- An admitted signal, whose share may be raised. -/
def admitted (config : SignalThrottleConfig) (signal : TradingSignal) : TradingSignal :=
  if isThrottleBypass signal then signal else raiseSellPercent config signal

def executionsAt (now : Instant) (accepted : List TradingSignal) : List Execution :=
  (accepted.filter (¬ isThrottleBypass ·)).map fun s => ⟨now, s.cooldownKey⟩

section Admitted

variable (config : SignalThrottleConfig) (signal : TradingSignal)

@[simp] theorem admitted_cooldownKey : (admitted config signal).cooldownKey = signal.cooldownKey := by
  unfold admitted raiseSellPercent
  split_ifs <;> rfl

@[simp] theorem isThrottleBypass_admitted :
    isThrottleBypass (admitted config signal) = isThrottleBypass signal := by
  unfold admitted raiseSellPercent
  split_ifs <;> rfl

@[simp] theorem admitted_action : (admitted config signal).action = signal.action := by
  unfold admitted raiseSellPercent
  split_ifs <;> rfl

end Admitted

/-! ## Batches -/

section Batch

variable (state : ThrottleState) (config : SignalThrottleConfig) (now : Instant)

def acceptsSignal (batchAccepted : List CooldownKey) (signal : TradingSignal) : Bool :=
  signal.action ≠ .hold ∧ ¬ inCooldown state config now batchAccepted signal.cooldownKey ∧
    (isThrottleBypass signal ∨
      ¬ (0 < config.maxTradesPerDay ∧ config.maxTradesPerDay ≤ (state.tradeTimestamps.length : ℚ)))

def verdicts : List CooldownKey → List TradingSignal → List (TradingSignal × Bool)
  | _, [] => []
  | batchAccepted, signal :: signals =>
    let ok := acceptsSignal state config now batchAccepted signal
    (signal, ok) :: verdicts
      (if ok ∧ 0 < config.cooldownMs then signal.cooldownKey :: batchAccepted else batchAccepted)
      signals

def byVerdicts (vs : List (TradingSignal × Bool)) : ThrottleResult where
  accepted := (vs.filter (·.2)).map fun v => admitted config v.1
  rejected := (vs.filter (¬ ·.2)).map (·.1)

theorem verdicts_map_fst (batchAccepted : List CooldownKey) (signals : List TradingSignal) :
    (verdicts state config now batchAccepted signals).map (·.1) = signals := by
  induction signals generalizing batchAccepted with
  | nil => rfl
  | cons signal signals ih =>
    unfold verdicts
    rw [List.map_cons, ih]

theorem throttleSignal_eq (result : ThrottleResult) (batchAccepted : List CooldownKey)
    (signal : TradingSignal) :
    throttleSignal state config now (result, batchAccepted) signal =
      if acceptsSignal state config now batchAccepted signal then
        ({ result with accepted := result.accepted ++ [admitted config signal] },
          if 0 < config.cooldownMs then signal.cooldownKey :: batchAccepted else batchAccepted)
      else ({ result with rejected := result.rejected ++ [signal] }, batchAccepted) := by
  unfold throttleSignal acceptsSignal admitted TradingSignal.cooldownKey
  by_cases hhold : signal.action = .hold
  · simp [hhold]
  by_cases hcool : inCooldown state config now batchAccepted (signal.coinId, signal.action) = true
  · simp [hhold, hcool]
  by_cases hbypass : isThrottleBypass signal = true
  · simp [hhold, hcool, hbypass]
  by_cases hcap : 0 < config.maxTradesPerDay ∧
      config.maxTradesPerDay ≤ (state.tradeTimestamps.length : ℚ)
  · simp [hhold, hcool, hbypass, hcap]
  · simp [hhold, hcool, hbypass, hcap]

theorem foldl_throttleSignal (result : ThrottleResult) (batchAccepted : List CooldownKey)
    (signals : List TradingSignal) :
    (signals.foldl (throttleSignal state config now) (result, batchAccepted)).1 =
      { accepted := result.accepted ++
          (byVerdicts config (verdicts state config now batchAccepted signals)).accepted
        rejected := result.rejected ++
          (byVerdicts config (verdicts state config now batchAccepted signals)).rejected } := by
  induction signals generalizing result batchAccepted with
  | nil => simp [byVerdicts, verdicts]
  | cons signal signals ih =>
    rw [List.foldl_cons, throttleSignal_eq]
    unfold verdicts
    by_cases hok : acceptsSignal state config now batchAccepted signal = true
    · by_cases hcool : 0 < config.cooldownMs
      · simp [hok, hcool, ih, byVerdicts]
      · simp [hok, hcool, ih, byVerdicts]
    · simp [hok, ih, byVerdicts]

theorem filterSignals_eq (signals : List TradingSignal) :
    filterSignals signals state config now =
      (byVerdicts config (verdicts (pruneThrottle state config now) config now [] signals),
        pruneThrottle state config now) := by
  unfold filterSignals
  dsimp only
  rw [foldl_throttleSignal]
  simp

end Batch

/-! ## The ledgers -/

/-- The ledgers at a time hold what the history says. -/
structure Summarises (config : SignalThrottleConfig) (history : List Execution) (clock : Instant)
    (state : ThrottleState) : Prop where
  times : ∀ e ∈ history, e.time ≤ clock
  trades : state.tradeTimestamps = (recent history clock).map (·.time)
  sound : ∀ k t, state.lastSignalTime.get? k = some t → ∃ e ∈ history, e.key = k ∧ e.time = t
  complete : ∀ e ∈ history, 0 < config.cooldownMs →
    (e.time : ℚ) + config.cooldownMs ≤ clock ∨
      ∃ t, state.lastSignalTime.get? e.key = some t ∧ e.time ≤ t

section Ledgers

variable {config : SignalThrottleConfig} {history : List Execution} {clock now : Instant}
  {state : ThrottleState}

theorem summarises_start : Summarises config [] clock {} where
  times := by simp
  trades := rfl
  sound k t h := by cases h
  complete := by simp

theorem filter_recent (h : clock ≤ now) (history : List Execution) :
    (recent history clock).filter (now - 24 * HOUR_MS < ·.time) = recent history now := by
  unfold recent
  rw [List.filter_filter]
  refine List.filter_congr fun e _ => ?_
  rw [← Bool.decide_and]
  refine decide_eq_decide.mpr ⟨fun hboth => hboth.1, fun hnow => ⟨hnow, ?_⟩⟩
  have hle : clock - 24 * HOUR_MS ≤ now - 24 * HOUR_MS := sub_le_sub_right h _
  exact lt_of_le_of_lt hle hnow

theorem Summarises.prune (hs : Summarises config history clock state) (hnow : clock ≤ now) :
    Summarises config history now (pruneThrottle state config now) where
  times e he := (hs.times e he).trans hnow
  trades := by
    unfold pruneThrottle
    rw [hs.trades, List.filter_map, ← filter_recent hnow]
    rfl
  sound k t h := by
    refine hs.sound k t ?_
    unfold pruneThrottle at h
    dsimp only at h
    split_ifs at h with hcool
    · rw [OrdMap.get?_eraseIf fun e => ((e.2 : ℤ) : ℚ) ≤ now - config.cooldownMs] at h
      exact (Option.filter_eq_some_iff.mp h).1
    · exact h
  complete e he hcool := by
    have hclock : ((clock : ℤ) : ℚ) ≤ now := Int.cast_le.mpr hnow
    rcases hs.complete e he hcool with hover | ⟨t, hget, hle⟩
    · exact .inl (hover.trans hclock)
    by_cases hold : ((t : ℤ) : ℚ) ≤ now - config.cooldownMs
    · have hcast : ((e.time : ℤ) : ℚ) ≤ t := Int.cast_le.mpr hle
      exact .inl (by linarith)
    · refine .inr ⟨t, ?_, hle⟩
      unfold pruneThrottle
      dsimp only
      rw [if_pos hcool, OrdMap.get?_eraseIf fun e => ((e.2 : ℤ) : ℚ) ≤ now - config.cooldownMs, hget]
      simp [Option.filter, hold]

theorem Summarises.markExecuted (hs : Summarises config history now state) {signal : TradingSignal}
    (hact : signal.action ≠ .hold) :
    Summarises config (history ++ [⟨now, signal.cooldownKey⟩]) now
      (markExecuted state signal now) := by
  unfold Chansey.markExecuted
  rw [if_neg hact]
  refine ⟨fun e he => ?_, ?_, fun k t h => ?_, fun e he hcool => ?_⟩
  · rcases List.mem_append.mp he with hold | hnew
    · exact hs.times e hold
    · rw [List.mem_singleton.mp hnew]
  · have hday : now - 24 * HOUR_MS < now := sub_lt_self now (by decide)
    unfold recent
    rw [hs.trades, List.filter_append, List.map_append]
    unfold recent
    simp [hday]
  · change (state.lastSignalTime.set signal.cooldownKey now).get? k = some t at h
    rw [OrdMap.get?_set] at h
    split_ifs at h with hk
    · cases h
      exact ⟨⟨now, signal.cooldownKey⟩, by simp, hk, rfl⟩
    · obtain ⟨e, he, hkey, htime⟩ := hs.sound k t h
      exact ⟨e, List.mem_append_left _ he, hkey, htime⟩
  · change _ ∨ ∃ t, (state.lastSignalTime.set signal.cooldownKey now).get? e.key = some t ∧ _
    by_cases hk : signal.cooldownKey = e.key
    · refine .inr ⟨now, by rw [hk, OrdMap.get?_set_self], ?_⟩
      rcases List.mem_append.mp he with hold | hnew
      · exact hs.times e hold
      · rw [List.mem_singleton.mp hnew]
    · have hold : e ∈ history := by
        rcases List.mem_append.mp he with hold | hnew
        · exact hold
        · rw [List.mem_singleton.mp hnew] at hk
          exact absurd rfl hk
      rw [OrdMap.get?_set_of_ne _ _ hk]
      exact hs.complete e hold hcool

variable {earlier batchAccepted : List CooldownKey}

theorem acceptsSignal_iff (hs : Summarises config history now state) (signal : TradingSignal)
    (hbatch : 0 < config.cooldownMs → batchAccepted = earlier) :
    acceptsSignal state config now batchAccepted signal = true ↔
      Admits config history now earlier signal := by
  have hlen : state.tradeTimestamps.length = (recent history now).length := by
    rw [hs.trades, List.length_map]
  have hcooling : 0 < config.cooldownMs →
      ((state.lastSignalTime.get? signal.cooldownKey).any
          (fun last => ((now - last : ℤ) : ℚ) < config.cooldownMs) = false ↔
        ∀ e ∈ history, e.key = signal.cooldownKey → (e.time : ℚ) + config.cooldownMs ≤ now) := by
    intro hcool
    constructor
    · intro hany e he hkey
      rcases hs.complete e he hcool with hover | ⟨t, hget, hle⟩
      · exact hover
      · rw [hkey] at hget
        rw [hget] at hany
        have hlast : ¬ ((now - t : ℤ) : ℚ) < config.cooldownMs := by simpa using hany
        have hcast : ((e.time : ℤ) : ℚ) ≤ t := Int.cast_le.mpr hle
        rw [Int.cast_sub] at hlast
        linarith
    · intro hall
      cases hget : state.lastSignalTime.get? signal.cooldownKey with
      | none => rfl
      | some t =>
        obtain ⟨e, he, hkey, htime⟩ := hs.sound _ _ hget
        have hover := hall e he hkey
        rw [htime] at hover
        have hnot : ¬ ((now - t : ℤ) : ℚ) < config.cooldownMs := by
          rw [Int.cast_sub]
          linarith
        simpa using hnot
  constructor
  · intro hok
    simp only [acceptsSignal, inCooldown, hlen, decide_eq_true_eq] at hok
    obtain ⟨hact, hcool, hcap⟩ := hok
    refine ⟨hact, fun hpos => ?_, fun hbypass hmax => ?_⟩
    · have hnot : ¬ ((state.lastSignalTime.get? signal.cooldownKey).any
          (fun last => ((now - last : ℤ) : ℚ) < config.cooldownMs) = true ∨
          signal.cooldownKey ∈ batchAccepted) := fun h => hcool ⟨hpos, h⟩
      rw [hbatch hpos] at hnot
      refine ⟨fun hmem => hnot (.inr hmem), (hcooling hpos).mp ?_⟩
      exact Bool.eq_false_iff.mpr fun h => hnot (.inl h)
    · by_contra hfull
      rcases hcap with h | h
      · rw [hbypass] at h
        cases h
      · exact h ⟨hmax, not_lt.mp hfull⟩
  · intro hadmits
    simp only [acceptsSignal, inCooldown, hlen, decide_eq_true_eq]
    refine ⟨hadmits.action, fun hcool => ?_, ?_⟩
    · obtain ⟨hpos, h⟩ := hcool
      obtain ⟨hearl, hall⟩ := hadmits.cooldown hpos
      rw [hbatch hpos] at h
      rcases h with h | h
      · rw [(hcooling hpos).mpr hall] at h
        cases h
      · exact hearl h
    · cases hbypass : isThrottleBypass signal with
      | true => exact .inl rfl
      | false => exact .inr fun hfull => absurd (hadmits.cap hbypass hfull.1) (not_lt.mpr hfull.2)

theorem judged_verdicts (hs : Summarises config history now state) (signals : List TradingSignal)
    (hbatch : 0 < config.cooldownMs → batchAccepted = earlier) :
    Judged config history now earlier (verdicts state config now batchAccepted signals) := by
  induction signals generalizing earlier batchAccepted with
  | nil => trivial
  | cons signal signals ih =>
    refine ⟨acceptsSignal_iff hs signal hbatch, ih fun hpos => ?_⟩
    cases acceptsSignal state config now batchAccepted signal <;> simp [hpos, hbatch hpos]

theorem Summarises.foldl_markExecuted (hs : Summarises config history now state)
    {signals : List TradingSignal} (hall : ∀ s ∈ signals, s.action ≠ .hold) :
    Summarises config (history ++ signals.map fun s => ⟨now, s.cooldownKey⟩) now
      (signals.foldl (fun st s => Chansey.markExecuted st s now) state) := by
  induction signals generalizing history state with
  | nil =>
    rw [List.map_nil, List.append_nil]
    exact hs
  | cons signal signals ih =>
    have hmrk := hs.markExecuted (hall signal List.mem_cons_self)
    have hrest := ih hmrk fun s hs' => hall s (List.mem_cons_of_mem signal hs')
    rw [List.append_assoc] at hrest
    exact hrest

end Ledgers

/-! ## Limits -/

/-- The limits that a history keeps: executions of one coin and direction are a cooldown apart, and
at each there was room under the cap for the day before it. -/
structure Limited (config : SignalThrottleConfig) (history : List Execution) : Prop where
  sorted : history.Pairwise fun a b => a.time ≤ b.time
  cooldown : history.Pairwise fun a b =>
    a.key = b.key → (a.time : ℚ) + config.cooldownMs ≤ b.time
  cap : 0 < config.maxTradesPerDay → ∀ before e after, history = before ++ e :: after →
    (((recent before e.time).filter (·.time < e.time)).length : ℚ) < config.maxTradesPerDay

section Limits

variable {config : SignalThrottleConfig} {history : List Execution} {clock now : Instant}
  {state : ThrottleState} {earlier : List CooldownKey} {vs : List (TradingSignal × Bool)}

theorem Judged.admits (h : Judged config history now earlier vs) :
    ∀ v ∈ vs, v.2 = true → ∃ before, Admits config history now before v.1 := by
  induction vs generalizing earlier with
  | nil => simp
  | cons v vs ih =>
    intro u hu hok
    rcases List.mem_cons.mp hu with rfl | hmem
    · exact ⟨earlier, h.1.mp hok⟩
    · exact ih h.2 u hmem hok

theorem Judged.nodup (h : Judged config history now earlier vs) (hcool : 0 < config.cooldownMs) :
    ((vs.filter (·.2)).map (·.1.cooldownKey)).Nodup ∧
      ∀ k ∈ (vs.filter (·.2)).map (·.1.cooldownKey), k ∉ earlier := by
  induction vs generalizing earlier with
  | nil => simp
  | cons v vs ih =>
    obtain ⟨_, ok⟩ := v
    obtain ⟨hverdict, hrest⟩ := h
    obtain ⟨hnodup, hfresh⟩ := ih hrest
    cases ok with
    | false => exact ⟨hnodup, hfresh⟩
    | true =>
      have hkey := ((hverdict.mp rfl).cooldown hcool).1
      rw [List.filter_cons_of_pos rfl, List.map_cons, List.nodup_cons]
      refine ⟨⟨fun hmem => hfresh _ hmem (by simp), hnodup⟩, fun k hk => ?_⟩
      rcases List.mem_cons.mp hk with rfl | hmem
      · exact hkey
      · exact fun hk' => hfresh k hmem (by simp [hk'])

structure Extends (config : SignalThrottleConfig) (history : List Execution) (now : Instant)
    (added : List Execution) : Prop where
  times : ∀ e ∈ added, e.time = now
  keys : 0 < config.cooldownMs → (added.map (·.key)).Nodup
  cooldown : 0 < config.cooldownMs → ∀ e ∈ added, ∀ a ∈ history, a.key = e.key →
    (a.time : ℚ) + config.cooldownMs ≤ now
  cap : 0 < config.maxTradesPerDay → added ≠ [] →
    ((recent history now).length : ℚ) < config.maxTradesPerDay

theorem Judged.extends (h : Judged config history now [] vs) :
    Extends config history now (executionsAt now (byVerdicts config vs).accepted) := by
  have hfrom : ∀ e ∈ executionsAt now (byVerdicts config vs).accepted, ∃ v ∈ vs, v.2 = true ∧
      isThrottleBypass v.1 = false ∧ e = ⟨now, v.1.cooldownKey⟩ := by
    intro e he
    obtain ⟨s, hs, rfl⟩ := List.mem_map.mp he
    obtain ⟨hacc, hbypass⟩ := List.mem_filter.mp hs
    obtain ⟨v, hv, rfl⟩ := List.mem_map.mp hacc
    obtain ⟨hmem, hok⟩ := List.mem_filter.mp hv
    rw [isThrottleBypass_admitted] at hbypass
    refine ⟨v, hmem, hok, by simpa using hbypass, ?_⟩
    rw [admitted_cooldownKey]
  refine ⟨fun e he => ?_, fun hcool => ?_, fun hcool e he a ha hkey => ?_, fun hcap hne => ?_⟩
  · obtain ⟨v, -, -, -, rfl⟩ := hfrom e he
    rfl
  · refine List.Nodup.sublist ?_ (h.nodup hcool).1
    have hkeys : (vs.filter (·.2)).map (·.1.cooldownKey) =
        ((byVerdicts config vs).accepted).map (·.cooldownKey) := by
      unfold byVerdicts
      rw [List.map_map]
      exact List.map_congr_left fun v _ => (admitted_cooldownKey config v.1).symm
    rw [hkeys, executionsAt, List.map_map]
    exact List.filter_sublist.map _
  · obtain ⟨v, hv, hok, -, rfl⟩ := hfrom e he
    obtain ⟨_, hadmits⟩ := h.admits v hv hok
    exact (hadmits.cooldown hcool).2 a ha hkey
  · obtain ⟨e, he⟩ := List.exists_mem_of_ne_nil _ hne
    obtain ⟨v, hv, hok, hbypass, -⟩ := hfrom e he
    obtain ⟨_, hadmits⟩ := h.admits v hv hok
    exact hadmits.cap hbypass hcap

theorem Limited.append (hl : Limited config history) (htimes : ∀ e ∈ history, e.time ≤ now)
    {added : List Execution} (hadd : Extends config history now added) :
    Limited config (history ++ added) := by
  refine ⟨?_, ?_, fun hcap before e after hsplit => ?_⟩
  · refine List.pairwise_append.mpr ⟨hl.sorted, ?_, fun a ha b hb => ?_⟩
    · refine List.pairwise_of_forall_mem_list fun a ha b hb => ?_
      rw [hadd.times a ha, hadd.times b hb]
    · rw [hadd.times b hb]
      exact htimes a ha
  · by_cases hcool : 0 < config.cooldownMs
    · refine List.pairwise_append.mpr ⟨hl.cooldown, ?_, fun a ha b hb hkey => ?_⟩
      · refine (List.pairwise_map.mp (hadd.keys hcool)).imp fun hne hkey => absurd hkey hne
      · rw [hadd.times b hb]
        exact hadd.cooldown hcool b hb a ha hkey
    · refine List.pairwise_append.mpr ⟨hl.cooldown, ?_, fun a ha b hb _ => ?_⟩
      · refine List.pairwise_of_forall_mem_list fun a ha b hb _ => ?_
        rw [hadd.times a ha, hadd.times b hb]
        linarith
      · have hle : ((a.time : ℤ) : ℚ) ≤ b.time := by
          rw [hadd.times b hb]
          exact Int.cast_le.mpr (htimes a ha)
        linarith
  · rcases List.append_eq_append_iff.mp hsplit with ⟨more, hbef, hadded⟩ | ⟨more, hhist, hrest⟩
    · -- the execution is one of the batch: those before it are of earlier batches, or of its time
      have htime : e.time = now := hadd.times e (by rw [hadded]; simp)
      have hmore : ∀ a ∈ more, a.time = now := fun a ha =>
        hadd.times a (by rw [hadded]; exact List.mem_append_left _ ha)
      have hroom := hadd.cap hcap (by rw [hadded]; simp)
      have hnone : (recent more now).filter (·.time < now) = [] := by
        refine List.filter_eq_nil_iff.mpr fun a ha => ?_
        rw [hmore a (List.mem_of_mem_filter ha)]
        simp
      have hlen : ((recent before now).filter (·.time < now)).length ≤
          (recent history now).length := by
        unfold recent at hnone ⊢
        rw [hbef, List.filter_append, List.filter_append, hnone, List.append_nil]
        exact List.length_filter_le _ _
      rw [htime]
      exact lt_of_le_of_lt (Nat.cast_le.mpr hlen) hroom
    · cases more with
      | nil =>
        -- the first execution of the batch
        rw [List.append_nil] at hhist
        have hadded : added = e :: after := hrest.symm
        have htime : e.time = now := hadd.times e (by rw [hadded]; simp)
        have hroom := hadd.cap hcap (by rw [hadded]; simp)
        rw [htime, ← hhist]
        exact lt_of_le_of_lt (Nat.cast_le.mpr (List.length_filter_le _ _)) hroom
      | cons x more =>
        obtain ⟨rfl, -⟩ := List.cons.inj hrest
        exact hl.cap hcap before e more hhist

/-- The executions in the 24 hours that end at a time. -/
def dayUpTo (history : List Execution) (t : Instant) : List Execution :=
  (recent history t).filter (·.time ≤ t)

theorem Limited.day_le (hl : Limited config history) {n : ℕ} (hn : config.maxTradesPerDay = n)
    (hpos : 0 < n) (htimes : history.Pairwise fun a b => a.time ≠ b.time) (t : Instant) :
    (dayUpTo history t).length ≤ n := by
  induction history using List.reverseRecOn with
  | nil => exact Nat.zero_le n
  | append_singleton history e ih =>
    have hinit : Limited config history := by
      refine ⟨(List.pairwise_append.mp hl.sorted).1, (List.pairwise_append.mp hl.cooldown).1, ?_⟩
      intro hcap before e' after hsplit
      exact hl.cap hcap before e' (after ++ [e]) (by rw [hsplit, List.append_assoc]; rfl)
    have hbef := ih hinit (List.pairwise_append.mp htimes).1
    have hday : dayUpTo (history ++ [e]) t = dayUpTo history t ++ dayUpTo [e] t := by
      unfold dayUpTo recent
      rw [List.filter_append, List.filter_append]
    by_cases hin : t - 24 * HOUR_MS < e.time ∧ e.time ≤ t
    · -- the executions of the day before it are among those the cap was checked against
      have hcap : 0 < config.maxTradesPerDay := by
        rw [hn]
        exact Nat.cast_pos.mpr hpos
      have hroom := hl.cap hcap history e [] rfl
      have hsub : (dayUpTo history t).length ≤
          ((recent history e.time).filter (·.time < e.time)).length := by
        unfold dayUpTo recent
        rw [List.filter_filter, List.filter_filter, ← List.countP_eq_length_filter,
          ← List.countP_eq_length_filter]
        refine List.countP_mono_left fun a ha hwin => ?_
        simp only [Bool.and_eq_true, decide_eq_true_eq] at hwin ⊢
        have hle := (List.pairwise_append.mp hl.sorted).2.2 a ha e (by simp)
        have hne := (List.pairwise_append.mp htimes).2.2 a ha e (by simp)
        have hstart : e.time - 24 * HOUR_MS ≤ t - 24 * HOUR_MS := sub_le_sub_right hin.2 _
        exact ⟨lt_of_le_of_ne hle hne, lt_of_le_of_lt hstart hwin.2⟩
      rw [hn, Nat.cast_lt] at hroom
      have hone : (dayUpTo [e] t).length ≤ 1 := by
        refine (List.length_filter_le _ _).trans ?_
        exact List.length_filter_le _ _
      rw [hday, List.length_append]
      omega
    · have hnone : dayUpTo [e] t = [] := by
        unfold dayUpTo recent
        rw [List.filter_filter, List.filter_eq_nil_iff]
        intro a ha
        rw [List.mem_singleton.mp ha]
        simp only [Bool.and_eq_true, decide_eq_true_eq]
        exact fun h => hin ⟨h.2, h.1⟩
      rw [hday, hnone, List.append_nil]
      exact hbef

end Limits

/-! ## Runs -/

/-- What a run of batches reaches, at times that do not decrease and with checkpoints between them:
the time of the last batch, the ledgers, and the executions so far. -/
inductive ThrottleReach (config : SignalThrottleConfig) :
    Instant → ThrottleState → List Execution → Prop
  | start (clock : Instant) : ThrottleReach config clock {} []
  | batch {clock : Instant} {state : ThrottleState} {history : List Execution}
      (h : ThrottleReach config clock state history) (signals : List TradingSignal) (now : Instant)
      (hnow : clock ≤ now) :
      ThrottleReach config now (throttleBar signals state config now).2
        (history ++ executionsAt now (throttleBar signals state config now).1)
  | checkpoint {clock : Instant} {state : ThrottleState} {history : List Execution}
      (h : ThrottleReach config clock state history) :
      ThrottleReach config clock (deserializeThrottle (serializeThrottle state)) history

section Runs

variable {config : SignalThrottleConfig} {history : List Execution} {clock now : Instant}
  {state : ThrottleState}

theorem throttleBar_spec (hs : Summarises config history clock state) (hnow : clock ≤ now)
    (signals : List TradingSignal) :
    ∃ vs, vs.map (·.1) = signals ∧ (filterSignals signals state config now).1 = byVerdicts config vs ∧
      Judged config history now [] vs ∧
      (throttleBar signals state config now).1 = (byVerdicts config vs).accepted ∧
      Summarises config
        (history ++ executionsAt now (throttleBar signals state config now).1) now
        (throttleBar signals state config now).2 := by
  have hpruned := hs.prune hnow
  refine ⟨verdicts (pruneThrottle state config now) config now [] signals,
    verdicts_map_fst _ _ _ _ _, by rw [filterSignals_eq], ?_, ?_, ?_⟩
  · exact judged_verdicts hpruned signals fun _ => rfl
  · unfold throttleBar
    rw [filterSignals_eq]
  · have hjudged : Judged config history now []
        (verdicts (pruneThrottle state config now) config now [] signals) :=
      judged_verdicts hpruned signals fun _ => rfl
    unfold throttleBar
    rw [filterSignals_eq]
    refine hpruned.foldl_markExecuted fun s hmem => ?_
    obtain ⟨v, hv, rfl⟩ := List.mem_map.mp (List.mem_of_mem_filter hmem)
    obtain ⟨hv, hok⟩ := List.mem_filter.mp hv
    obtain ⟨_, hadmits⟩ := hjudged.admits v hv hok
    rw [admitted_action]
    exact hadmits.action

theorem ThrottleReach.limited (h : ThrottleReach config clock state history) :
    Summarises config history clock state ∧ Limited config history := by
  induction h with
  | start =>
    refine ⟨summarises_start, .nil, .nil, fun _ before e after hsplit => ?_⟩
    cases before <;> cases hsplit
  | batch h signals now hnow ih =>
    obtain ⟨hs, hl⟩ := ih
    obtain ⟨_, -, -, hjudged, hacc, hnext⟩ := throttleBar_spec hs hnow signals
    refine ⟨hnext, hl.append (fun e he => (hs.times e he).trans hnow) ?_⟩
    rw [hacc]
    exact hjudged.extends
  | checkpoint h ih =>
    rw [deserialize_serializeThrottle]
    exact ih

/-- **The limits of the throttle**, over every run of batches and checkpoints: executions of one coin
and direction are a cooldown apart; a signal is executed only while the day before it has room under
the cap; and every batch is split in order, by what the history admits. -/
theorem throttle_limits (h : ThrottleReach config clock state history) :
    (history.Pairwise fun a b => a.key = b.key → (a.time : ℚ) + config.cooldownMs ≤ b.time) ∧
    (0 < config.maxTradesPerDay → ∀ before e after, history = before ++ e :: after →
      (((recent before e.time).filter (·.time < e.time)).length : ℚ) < config.maxTradesPerDay) ∧
    (∀ n : ℕ, config.maxTradesPerDay = n → 0 < n →
      history.Pairwise (fun a b => a.time ≠ b.time) → ∀ t, (dayUpTo history t).length ≤ n) ∧
    (∀ signals now, clock ≤ now → ∃ vs, vs.map (·.1) = signals ∧
      (filterSignals signals state config now).1.accepted =
        (vs.filter (·.2)).map (fun v => admitted config v.1) ∧
      (filterSignals signals state config now).1.rejected = (vs.filter (¬ ·.2)).map (·.1) ∧
      Judged config history now [] vs) := by
  obtain ⟨hs, hl⟩ := h.limited
  refine ⟨hl.cooldown, hl.cap, fun n hn hpos htimes t => hl.day_le hn hpos htimes t, ?_⟩
  intro signals now hnow
  obtain ⟨vs, hsignals, hfilter, hjudged, -, -⟩ := throttleBar_spec hs hnow signals
  exact ⟨vs, hsignals, by rw [hfilter]; rfl, by rw [hfilter]; rfl, hjudged⟩

def sellSignal (type : AlgoSignalType) : TradingSignal where
  action := .sell
  coinId := "btc"
  originalType := some type

def throttledSales : List Execution :=
  [⟨0, ("btc", .sell)⟩, ⟨HOUR_MS, ("eth", .sell)⟩, ⟨24 * HOUR_MS, ("btc", .sell)⟩]

theorem throttle_limits_sales :
    (throttledSales.Pairwise fun a b => a.key = b.key → (a.time : ℚ) + 86400000 ≤ b.time) ∧
      (dayUpTo throttledSales (24 * HOUR_MS)).length ≤ 6 := by
  -- the second sale of each of the first two batches is rejected
  have hreach : ThrottleReach DEFAULT_THROTTLE_CONFIG (24 * HOUR_MS) _ _ :=
    .batch (.checkpoint (.batch (.checkpoint
          (.batch (.start 0) [sellSignal .sell, sellSignal .sell] 0 (le_refl 0)))
        [{ sellSignal .sell with coinId := "eth" }, sellSignal .sell] HOUR_MS (by decide)))
      [sellSignal .sell] (24 * HOUR_MS) (by decide)
  obtain ⟨_, rfl, state, h⟩ : ∃ history, history = throttledSales ∧
      ∃ state, ThrottleReach DEFAULT_THROTTLE_CONFIG (24 * HOUR_MS) state history :=
    ⟨_, by decide +kernel, _, hreach⟩
  obtain ⟨hcooldown, -, hday, -⟩ := throttle_limits h
  exact ⟨hcooldown, hday 6 rfl (by decide) (by decide) _⟩

/-- **An hour after a sell, the stop loss of the same coin is rejected.** -/
theorem stopLoss_cools_down :
    (filterSignals [sellSignal .stopLoss]
        (throttleBar [sellSignal .sell] {} DEFAULT_THROTTLE_CONFIG 0).2 DEFAULT_THROTTLE_CONFIG
        HOUR_MS).1.accepted.length = 0 ∧
      ¬ ∀ (config : SignalThrottleConfig) (clock : Instant) (state : ThrottleState)
          (history : List Execution), ThrottleReach config clock state history →
        ∀ signals now, clock ≤ now → ∀ s ∈ signals, isThrottleBypass s →
          s ∈ (filterSignals signals state config now).1.accepted := by
  have hnone : (filterSignals [sellSignal .stopLoss]
      (throttleBar [sellSignal .sell] {} DEFAULT_THROTTLE_CONFIG 0).2 DEFAULT_THROTTLE_CONFIG
      HOUR_MS).1.accepted.length = 0 := by decide +kernel
  refine ⟨hnone, fun h => ?_⟩
  have hmem := h DEFAULT_THROTTLE_CONFIG 0 _ _
    (ThrottleReach.batch (.start 0) [sellSignal .sell] 0 (le_refl 0)) [sellSignal .stopLoss] HOUR_MS
    (by decide) (sellSignal .stopLoss) (by simp) rfl
  exact List.ne_nil_of_mem hmem (List.length_eq_zero_iff.mp hnone)

end Runs

end Chansey
