import Chansey.Lib.Run
import Chansey.Live.AcceptedOnly

/-!
# Two users of one strategy

The ledgers of the throttle are kept by strategy configuration, so the orders of one user stamp the
ledger that another user's signals are filtered with. A run is compared with the same run without one
user's orders.

* `twin`: a run beside the same run in which no order of the user `b` is placed.
-/

namespace Chansey

open Run

variable {U : Type}

/-! ## Interleaved cycles -/

/-- The ledgers, and for each user the signal that its last cycle has returned. -/
structure Desk (U : Type) where
  states : ThrottleStates := OrdMap.empty
  pending : U → Option (String × LiveTradingSignal) := fun _ => none

inductive DeskEvent (U : Type) where
  | cycle (user : U) (cycle : StrategyCycle) (now : Instant)
  | placed (user : U) (now : Instant)

def DeskEvent.now : DeskEvent U → Instant
  | .cycle _ _ now => now
  | .placed _ now => now

variable [DecidableEq U]

def Desk.step (desk : Desk U) : DeskEvent U → Desk U
  | .cycle user cycle now =>
    let (signal, states) := executeStrategy desk.states cycle now
    { states
      pending := Function.update desk.pending user (signal.map (cycle.strategyId, ·)) }
  | .placed user now =>
    match desk.pending user with
    | none => desk
    | some (strategyId, signal) =>
      { states := markThrottle desk.states strategyId signal now
        pending := Function.update desk.pending user none }

/-- A run, and the same run in which no order of `b` is placed. -/
structure Twins (U : Type) where
  full : Desk U := {}
  without : Desk U := {}

def twin (b : U) (twins : Twins U) (event : DeskEvent U) : Twins U where
  full := twins.full.step event
  without :=
    match event with
    | .placed user _ => if user = b then twins.without else twins.without.step event
    | .cycle _ _ _ => twins.without.step event

def SameAccepted (b : U) (twins : Twins U) : DeskEvent U → Prop
  | .cycle user cycle now => user ≠ b →
      (throttleCycle twins.full.states cycle now).1 =
        (throttleCycle twins.without.states cycle now).1
  | .placed _ _ => True

def cycleLedger (states : ThrottleStates) (cycle : StrategyCycle) (now : Instant) : ThrottleState :=
  (getThrottleState states cycle.strategyId now).1

/-- What the ledger without the orders of `b` lets through, the ledger with them does not hold back:
it neither cools the coin and direction down nor has the day's cap filled. -/
def Unhindered (b : U) (twins : Twins U) : DeskEvent U → Prop
  | .cycle user cycle now => user ≠ b → cycle.success = true →
      let config := resolveThrottleConfig cycle.parameters
      let ledger := pruneThrottle (cycleLedger twins.full.states cycle now) config now
      ∀ v ∈ judge (cycleLedger twins.without.states cycle now) config now
          (StrategyExecutor.actionable cycle.signals), v.2 = true →
        inCooldown ledger config now [] (toThrottleSignal v.1).cooldownKey = false ∧
          (isThrottleBypass (toThrottleSignal v.1) = true ∨
            ¬ (0 < config.maxTradesPerDay ∧
              config.maxTradesPerDay ≤ (ledger.tradeTimestamps.length : ℚ)))
  | .placed _ _ => True

/-! ## Ledgers that hold more -/

/-- The ledger holds every trade of the other one, and for every coin and direction a stamp as
late. -/
structure Covers (clock : Instant) (ledger other : ThrottleState) : Prop where
  stamps : ∀ k t, other.lastSignalTime.get? k = some t →
    t ≤ clock ∧ ∃ t', ledger.lastSignalTime.get? k = some t' ∧ t ≤ t'
  trades : other.tradeTimestamps.Sublist ledger.tradeTimestamps

section Ledgers

variable {clock now : Instant} {ledger other : ThrottleState} {config : SignalThrottleConfig}

theorem Covers.refl_empty (clock : Instant) : Covers clock {} {} where
  stamps := fun _ _ h => by cases h
  trades := List.Sublist.refl _

theorem Covers.mono (h : Covers clock ledger other) (hclock : clock ≤ now) :
    Covers now ledger other where
  stamps := fun k t ht => ⟨(h.stamps k t ht).1.trans hclock, (h.stamps k t ht).2⟩
  trades := h.trades

theorem pruneThrottle_get? (state : ThrottleState) (k : CooldownKey) :
    (pruneThrottle state config now).lastSignalTime.get? k =
      (state.lastSignalTime.get? k).filter fun t =>
        ¬ (0 < config.cooldownMs ∧ ((t : ℤ) : ℚ) ≤ now - config.cooldownMs) := by
  unfold pruneThrottle
  dsimp only
  split_ifs with hcool
  · rw [OrdMap.get?_eraseIf fun e => ((e.2 : ℤ) : ℚ) ≤ now - config.cooldownMs]
    simp [hcool]
  · cases state.lastSignalTime.get? k <;> simp [hcool, Option.filter]

theorem Covers.prune (h : Covers clock ledger other) :
    Covers clock (pruneThrottle ledger config now) (pruneThrottle other config now) where
  stamps := by
    intro k t ht
    rw [pruneThrottle_get?, Option.filter_eq_some_iff] at ht
    obtain ⟨hle, t', ht', htt'⟩ := h.stamps k t ht.1
    refine ⟨hle, t', ?_, htt'⟩
    rw [pruneThrottle_get?, Option.filter_eq_some_iff]
    refine ⟨ht', ?_⟩
    have hkept := of_decide_eq_true ht.2
    have hcast : ((t : ℤ) : ℚ) ≤ t' := Int.cast_le.mpr htt'
    exact decide_eq_true fun hold => hkept ⟨hold.1, hcast.trans hold.2⟩
  trades := h.trades.filter _

variable {batchAccepted : List CooldownKey} {signal : TradingSignal} {state : ThrottleState}
  {signals : List LiveSignal}

theorem Covers.inCooldown (h : Covers clock ledger other) {key : CooldownKey}
    (hcool : inCooldown other config now batchAccepted key = true) :
    inCooldown ledger config now batchAccepted key = true := by
  unfold Chansey.inCooldown at *
  simp only [decide_eq_true_eq] at *
  refine ⟨hcool.1, hcool.2.imp_left fun hstamp => ?_⟩
  obtain ⟨t, ht, hlt⟩ := (Option.any_eq_true _ _).mp hstamp
  obtain ⟨-, t', ht', hle⟩ := h.stamps key t ht
  refine (Option.any_eq_true _ _).mpr ⟨t', ht', ?_⟩
  have hcast : ((now - t' : ℤ) : ℚ) ≤ (now - t : ℤ) := Int.cast_le.mpr (sub_le_sub_left hle now)
  exact decide_eq_true (hcast.trans_lt (of_decide_eq_true hlt))

theorem Covers.acceptsSignal (h : Covers clock ledger other)
    (haccepts : acceptsSignal ledger config now batchAccepted signal = true) :
    acceptsSignal other config now batchAccepted signal = true := by
  unfold Chansey.acceptsSignal at *
  simp only [decide_eq_true_eq] at *
  refine ⟨haccepts.1, fun hcool => haccepts.2.1 (h.inCooldown hcool),
    haccepts.2.2.imp_right fun hroom hfull => hroom ⟨hfull.1, hfull.2.trans ?_⟩⟩
  exact_mod_cast h.trades.length_le

/-! ### One batch -/

theorem acceptsSignal_congr {signal signal' : TradingSignal} (hact : signal.action = signal'.action)
    (hkey : signal.cooldownKey = signal'.cooldownKey)
    (hbypass : isThrottleBypass signal = isThrottleBypass signal') :
    acceptsSignal state config now batchAccepted signal =
      acceptsSignal state config now batchAccepted signal' := by
  unfold acceptsSignal
  rw [hact, hkey, hbypass]

theorem accepts_of_judgeFrom {signal : LiveSignal}
    (h : (signal, true) ∈ judgeFrom state config now batchAccepted signals) :
    acceptsSignal state config now batchAccepted (toThrottleSignal signal) = true := by
  by_contra hrej
  exact judgeFrom_rejects state config now (Bool.eq_false_iff.mpr hrej) signals h

theorem acceptsSignal_of_open {ledger other : ThrottleState}
    (hopen : acceptsSignal other config now batchAccepted signal = true)
    (h : acceptsSignal ledger config now [] signal = true) :
    acceptsSignal ledger config now batchAccepted signal = true := by
  unfold acceptsSignal inCooldown at *
  simp only [decide_eq_true_eq] at *
  refine ⟨h.1, fun hcool => ?_, h.2.2⟩
  rcases hcool.2 with hstamp | hbatch
  · exact h.2.1 ⟨hcool.1, Or.inl hstamp⟩
  · exact hopen.2.1 ⟨hcool.1, Or.inr hbatch⟩

theorem judgeFrom_eq (hcovers : Covers clock ledger other)
    (h : ∀ v ∈ judgeFrom other config now batchAccepted signals, v.2 = true →
      acceptsSignal ledger config now [] (toThrottleSignal v.1) = true) :
    judgeFrom ledger config now batchAccepted signals =
      judgeFrom other config now batchAccepted signals := by
  induction signals generalizing batchAccepted with
  | nil => rfl
  | cons signal signals ih =>
    unfold judgeFrom at h ⊢
    have hverdict : acceptsSignal ledger config now batchAccepted (toThrottleSignal signal) =
        acceptsSignal other config now batchAccepted (toThrottleSignal signal) := by
      rw [Bool.eq_iff_iff]
      refine ⟨hcovers.acceptsSignal, fun hopen => acceptsSignal_of_open hopen ?_⟩
      exact h _ List.mem_cons_self hopen
    dsimp only at h ⊢
    rw [hverdict, ih fun v hv => h v (List.mem_cons_of_mem _ hv)]

theorem accepted_eq_iff (hcovers : Covers clock ledger other) (signals : List LiveSignal) :
    (filterSignals (signals.map toThrottleSignal) ledger config now).1.accepted =
        (filterSignals (signals.map toThrottleSignal) other config now).1.accepted ↔
      ∀ v ∈ judge other config now signals, v.2 = true →
        acceptsSignal (pruneThrottle ledger config now) config now [] (toThrottleSignal v.1) =
          true := by
  rw [filterSignals_judge, filterSignals_judge]
  dsimp only
  constructor
  · intro heq v hv hok
    have hmem : admitted config (toThrottleSignal v.1) ∈
        ((judge ledger config now signals).filter (·.2)).map
          fun v => admitted config (toThrottleSignal v.1) := by
      rw [heq]
      exact List.mem_map_of_mem (List.mem_filter.mpr ⟨hv, hok⟩)
    obtain ⟨w, hw, hsame⟩ := List.mem_map.mp hmem
    obtain ⟨hw, hwok⟩ := List.mem_filter.mp hw
    obtain ⟨_, ok⟩ := w
    obtain rfl : ok = true := hwok
    refine (acceptsSignal_congr ?_ ?_ ?_).symm.trans (accepts_of_judgeFrom hw)
    · simpa using congrArg TradingSignal.action hsame
    · simpa using congrArg TradingSignal.cooldownKey hsame
    · simpa using congrArg isThrottleBypass hsame
  · intro h
    have hjudge : judge ledger config now signals = judge other config now signals :=
      judgeFrom_eq hcovers.prune h
    rw [hjudge]

/-! ### Stamps -/

theorem Covers.markExecuted (h : Covers clock ledger other) (hclock : clock ≤ now)
    (signal : TradingSignal) :
    Covers now (markExecuted ledger signal now) (markExecuted other signal now) := by
  unfold Chansey.markExecuted
  split_ifs
  · exact h.mono hclock
  · refine ⟨fun k t ht => ?_, h.trades.append (List.Sublist.refl _)⟩
    rw [OrdMap.get?_set] at ht ⊢
    split_ifs at ht ⊢
    · cases ht
      exact ⟨le_rfl, now, rfl, le_rfl⟩
    · exact (h.mono hclock).stamps k t ht

theorem Covers.markExecuted_left (h : Covers clock ledger other) (hclock : clock ≤ now)
    (signal : TradingSignal) : Covers now (Chansey.markExecuted ledger signal now) other := by
  unfold Chansey.markExecuted
  split_ifs
  · exact h.mono hclock
  · refine ⟨fun k t ht => ?_, h.trades.trans (List.sublist_append_left _ _)⟩
    obtain ⟨hle, t', ht', hle'⟩ := (h.mono hclock).stamps k t ht
    rw [OrdMap.get?_set]
    split_ifs
    · exact ⟨hle, now, rfl, hle⟩
    · exact ⟨hle, t', ht', hle'⟩

end Ledgers

/-! ## The two runs -/

section Runs

variable {clock now : Instant} {b : U}

/-- Two entries accessed at the same time, of which the first holds more. -/
structure EntryCovers (clock : Instant) (entry other : ThrottleEntry) : Prop where
  lastAccessedAt : entry.lastAccessedAt = other.lastAccessedAt
  state : Covers clock entry.state other.state

/-- The runs agree but for what the orders of `b` have left. -/
structure Beside (b : U) (clock : Instant) (twins : Twins U) : Prop where
  states : OrdMap.Rel (EntryCovers clock) twins.full.states twins.without.states
  pending : ∀ user, user ≠ b → twins.full.pending user = twins.without.pending user

variable {twins : Twins U} {state other : ThrottleState}

omit [DecidableEq U] in
theorem Beside.mono (h : Beside b clock twins) (hclock : clock ≤ now) : Beside b now twins where
  states := h.states.mono fun _ _ he => ⟨he.lastAccessedAt, he.state.mono hclock⟩
  pending := h.pending

variable {states others : ThrottleStates}

section

variable (h : OrdMap.Rel (EntryCovers clock) states others)

include h

variable (now) in
theorem getThrottleState_covers (strategyId : String) :
    Covers clock (getThrottleState states strategyId now).1
        (getThrottleState others strategyId now).1 ∧
      OrdMap.Rel (EntryCovers clock) (getThrottleState states strategyId now).2
        (getThrottleState others strategyId now).2 := by
  have hentry : EntryCovers clock
      ((states.get? strategyId).elim { lastAccessedAt := now } ({ · with lastAccessedAt := now }))
      ((others.get? strategyId).elim { lastAccessedAt := now }
        ({ · with lastAccessedAt := now })) := by
    rcases h.get?_cases strategyId with ⟨hstates, hoths⟩ | ⟨_, _, hstates, hoths, he⟩
    · rw [hstates, hoths]
      exact ⟨rfl, Covers.refl_empty clock⟩
    · rw [hstates, hoths]
      exact ⟨rfl, he.state⟩
  have haccessed := h.set (k := strategyId) hentry
  refine ⟨hentry.state, ?_⟩
  unfold getThrottleState
  dsimp only
  rw [haccessed.size_eq]
  split_ifs
  · exact haccessed.filter fun _ _ _ he => by rw [he.lastAccessedAt]
  · exact haccessed

theorem updateThrottleState_covers (strategyId : String) (hstate : Covers clock state other) :
    OrdMap.Rel (EntryCovers clock) (updateThrottleState states strategyId state)
      (updateThrottleState others strategyId other) := by
  unfold updateThrottleState
  rcases h.get?_cases strategyId with ⟨hstates, hoths⟩ | ⟨_, _, hstates, hoths, he⟩
  · rw [hstates, hoths]
    exact h
  · rw [hstates, hoths]
    exact h.set ⟨he.lastAccessedAt, hstate⟩

theorem throttleCycle_covers (cycle : StrategyCycle) :
    OrdMap.Rel (EntryCovers clock) (throttleCycle states cycle now).2
      (throttleCycle others cycle now).2 := by
  unfold throttleCycle
  split_ifs
  · exact h
  · obtain ⟨hledger, haccessed⟩ := getThrottleState_covers now h cycle.strategyId
    exact updateThrottleState_covers haccessed cycle.strategyId hledger.prune

end

theorem markExecutedFromAlgo_covers (h : Covers clock state other) (hclock : clock ≤ now)
    (signalType : AlgoSignalType) (coinId : CoinId) :
    Covers now (markExecutedFromAlgo state signalType coinId now)
      (markExecutedFromAlgo other signalType coinId now) := by
  unfold markExecutedFromAlgo
  split_ifs
  · exact h.mono hclock
  · exact h.mono hclock
  · exact h.markExecuted hclock _

theorem markExecutedFromAlgo_covers_left (h : Covers clock state other) (hclock : clock ≤ now)
    (signalType : AlgoSignalType) (coinId : CoinId) :
    Covers now (markExecutedFromAlgo state signalType coinId now) other := by
  unfold markExecutedFromAlgo
  split_ifs
  · exact h.mono hclock
  · exact h.mono hclock
  · exact h.markExecuted_left hclock _

section

variable (h : OrdMap.Rel (EntryCovers clock) states others) (hclock : clock ≤ now)
  (strategyId : String) (signal : LiveTradingSignal)

include h hclock strategyId signal

theorem markThrottle_covers :
    OrdMap.Rel (EntryCovers now) (markThrottle states strategyId signal now)
      (markThrottle others strategyId signal now) := by
  have hlater : OrdMap.Rel (EntryCovers now) states others :=
    h.mono fun _ _ he => ⟨he.lastAccessedAt, he.state.mono hclock⟩
  unfold markThrottle
  rcases h.get?_cases strategyId with ⟨hstates, hoths⟩ | ⟨_, _, hstates, hoths, he⟩
  · rw [hstates, hoths]
    exact hlater
  · rw [hstates, hoths]
    exact hlater.set ⟨he.lastAccessedAt, markExecutedFromAlgo_covers he.state hclock _ _⟩

theorem markThrottle_covers_left :
    OrdMap.Rel (EntryCovers now) (markThrottle states strategyId signal now) others := by
  have hlater : OrdMap.Rel (EntryCovers now) states others :=
    h.mono fun _ _ he => ⟨he.lastAccessedAt, he.state.mono hclock⟩
  unfold markThrottle
  rcases h.get?_cases strategyId with ⟨hstates, -⟩ | ⟨_, _, hstates, hoths, he⟩
  · rw [hstates]
    exact hlater
  · rw [hstates]
    exact hlater.set_left hoths
      ⟨he.lastAccessedAt, markExecutedFromAlgo_covers_left he.state hclock _ _⟩

end

theorem acceptsSignal_nil_iff {state : ThrottleState} {config : SignalThrottleConfig}
    {signal : TradingSignal} (hact : signal.action ≠ .hold) :
    acceptsSignal state config now [] signal = true ↔
      inCooldown state config now [] signal.cooldownKey = false ∧
        (isThrottleBypass signal = true ∨
          ¬ (0 < config.maxTradesPerDay ∧
            config.maxTradesPerDay ≤ (state.tradeTimestamps.length : ℚ))) := by
  unfold acceptsSignal
  rw [decide_eq_true_eq, Bool.not_eq_true]
  exact and_iff_right hact

omit [DecidableEq U] in
theorem sameAccepted_iff (h : Beside b clock twins) (event : DeskEvent U) :
    SameAccepted b twins event ↔ Unhindered b twins event := by
  cases event with
  | placed => exact Iff.rfl
  | cycle user cycle now =>
    refine forall_congr' fun _ => ?_
    cases hsucc : cycle.success with
    | false => simp [throttleCycle, hsucc]
    | true =>
      by_cases hnone : StrategyExecutor.actionable cycle.signals = []
      · simp [throttleCycle, hnone, judge, judgeFrom]
      · have hledger : Covers clock (cycleLedger twins.full.states cycle now)
            (cycleLedger twins.without.states cycle now) :=
          (getThrottleState_covers now h.states cycle.strategyId).1
        have hcycle : ∀ states : ThrottleStates, (throttleCycle states cycle now).1 =
            (filterSignals ((StrategyExecutor.actionable cycle.signals).map toThrottleSignal)
              (cycleLedger states cycle now) (resolveThrottleConfig cycle.parameters)
              now).1.accepted := by
          intro states
          rw [throttleCycle, if_neg (by simp [hsucc, hnone])]
          rfl
        rw [hcycle, hcycle, accepted_eq_iff hledger, forall_prop_of_true rfl]
        refine forall_congr' fun v => forall_congr' fun hv => forall_congr' fun hok => ?_
        obtain ⟨_, ok⟩ := v
        obtain rfl : ok = true := hok
        have haccepts := accepts_of_judgeFrom hv
        unfold acceptsSignal at haccepts
        exact acceptsSignal_nil_iff (of_decide_eq_true haccepts).1

theorem executeStrategy_congr {states others : ThrottleStates} {cycle : StrategyCycle}
    (h : (throttleCycle states cycle now).1 = (throttleCycle others cycle now).1) :
    (executeStrategy states cycle now).1 = (executeStrategy others cycle now).1 := by
  unfold executeStrategy
  rw [← Prod.mk.eta (p := throttleCycle states cycle now),
    ← Prod.mk.eta (p := throttleCycle others cycle now), h]

theorem Beside.step {event : DeskEvent U} (h : Beside b clock twins) (hclock : clock ≤ event.now)
    (hsame : SameAccepted b twins event) : Beside b event.now (twin b twins event) := by
  cases event with
  | cycle user cycle =>
    refine ⟨(throttleCycle_covers h.states cycle).mono fun _ _ he =>
      ⟨he.lastAccessedAt, he.state.mono hclock⟩, fun other hother => ?_⟩
    simp only [twin, Desk.step, Function.update_apply]
    split_ifs with huser
    · rw [executeStrategy_congr (hsame (huser ▸ hother))]
    · exact h.pending other hother
  | placed user =>
    by_cases huser : user = b
    · simp only [twin, if_pos huser, Desk.step]
      cases hpend : twins.full.pending user with
      | none => exact h.mono hclock
      | some =>
        refine ⟨markThrottle_covers_left h.states hclock _ _, fun other hother => ?_⟩
        dsimp only
        rw [Function.update_of_ne fun heq => hother (heq.trans huser)]
        exact h.pending other hother
    · simp only [twin, if_neg huser, Desk.step, ← h.pending user huser]
      cases hpend : twins.full.pending user with
      | none => exact h.mono hclock
      | some =>
        refine ⟨markThrottle_covers h.states hclock _ _, fun other hother => ?_⟩
        simp only [Function.update_apply]
        split_ifs
        · rfl
        · exact h.pending other hother

/-- **The throttle is private to a user** in a run iff it is unhindered throughout: the signals
accepted for every user but `b` are then those of the run in which no order of `b` is placed. -/
theorem privateThrottle_iff (b : U) (events : List (DeskEvent U))
    (hordered : (events.map DeskEvent.now).Pairwise (· ≤ ·)) :
    Throughout (twin b) (SameAccepted b) {} events ↔ Throughout (twin b) (Unhindered b) {} events := by
  suffices key : ∀ clock twins, Beside b clock twins →
      (∀ event ∈ events, clock ≤ event.now) → (Throughout (twin b) (SameAccepted b) twins events ↔
        Throughout (twin b) (Unhindered b) twins events) by
    cases events with
    | nil => exact Iff.rfl
    | cons event =>
      refine key event.now {} ⟨.nil, fun _ _ => rfl⟩ fun later hlater => ?_
      rcases List.mem_cons.mp hlater with rfl | hlater
      · exact le_rfl
      · exact (List.pairwise_cons.mp hordered).1 _ (List.mem_map_of_mem hlater)
  induction events with
  | nil => exact fun _ _ _ _ => Iff.rfl
  | cons event events ih =>
    intro clock twins h hclock
    rw [List.map_cons, List.pairwise_cons] at hordered
    rw [Throughout, Throughout, sameAccepted_iff h event]
    refine and_congr_right fun hunhindered => ?_
    refine ih hordered.2 event.now _ ?_ fun later hlater =>
      hordered.1 _ (List.mem_map_of_mem hlater)
    exact h.step (hclock event List.mem_cons_self) ((sameAccepted_iff h event).mpr hunhindered)

def buyCycle (coin : Coin) : StrategyCycle where
  strategyId := "trend"
  parameters := OrdMap.empty
  success := true
  signals := [{ type := .buy, coinId := coin.id, strength := 1, confidence := 9 / 10 }]
  exitConfig := none
  coins := [coin]
  marketData := [⟨coin.symbol ++ "/USDT", 100⟩]
  availableCapital := 1000

theorem privateThrottle_iff_otherCoin : let events : List (DeskEvent Bool) :=
      [.cycle true (buyCycle ⟨"eth", "ETH"⟩) 0, .placed true 1,
        .cycle false (buyCycle ⟨"btc", "BTC"⟩) 2]
    Throughout (twin true) (SameAccepted true) {} events := by
  intro events
  refine (privateThrottle_iff true events (by decide)).mpr
    ⟨fun h => absurd rfl h, trivial, fun _ _ => ?_, trivial⟩
  decide +kernel

/-- **A user's order closes the strategy for the other user.** Both buy the same coin. -/
theorem order_throttles_other : let events : List (DeskEvent Bool) :=
      [.cycle true (buyCycle ⟨"btc", "BTC"⟩) 0, .placed true 1]
    let twins := events.foldl (twin true) {}
    (throttleCycle twins.without.states (buyCycle ⟨"btc", "BTC"⟩) 2).1.length = 1 ∧
      (throttleCycle twins.full.states (buyCycle ⟨"btc", "BTC"⟩) 2).1.length = 0 ∧
      ¬ Throughout (twin true) (SameAccepted true) {}
        (events ++ [.cycle false (buyCycle ⟨"btc", "BTC"⟩) 2]) := by
  intro events twins
  have hwithout : (throttleCycle twins.without.states (buyCycle ⟨"btc", "BTC"⟩) 2).1.length = 1 := by
    decide +kernel
  have hfull : (throttleCycle twins.full.states (buyCycle ⟨"btc", "BTC"⟩) 2).1.length = 0 := by
    decide +kernel
  refine ⟨hwithout, hfull, fun h => ?_⟩
  have hsame := congrArg List.length (h.2.2.1 (by decide))
  exact absurd (hfull.symm.trans (hsame.trans hwithout)) (by decide)

end Runs

end Chansey
