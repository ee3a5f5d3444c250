import Chansey.Domain

/-!
# The signal throttle

Cooldowns for each coin and direction, a cap on the trades of a day, and a floor on the share a
sell gives up. The ledgers are pruned when signals are filtered and written by `markExecuted`.

* **`deserialize_serializeThrottle`**: the state is restored from its serialized form.
-/

namespace Chansey

structure SignalThrottleConfig where
  cooldownMs : ℚ := 86400000
  maxTradesPerDay : ℚ := 6
  minSellPercent : ℚ := 1 / 2

def DEFAULT_THROTTLE_CONFIG : SignalThrottleConfig := {}

def resolveThrottleConfig (params : Metadata) : SignalThrottleConfig :=
  let clamp (val : Option ℚ) (fallback lo hi : ℚ) : ℚ := max lo (min hi (val.getD fallback))
  { cooldownMs := clamp (Metadata.number? params "cooldownMs")
      DEFAULT_THROTTLE_CONFIG.cooldownMs 0 604800000
    maxTradesPerDay := clamp (Metadata.number? params "maxTradesPerDay")
      DEFAULT_THROTTLE_CONFIG.maxTradesPerDay 0 50
    minSellPercent := clamp (Metadata.number? params "minSellPercent")
      DEFAULT_THROTTLE_CONFIG.minSellPercent 0 1 }

abbrev CooldownKey := CoinId × Action

instance : LawfulBEq CooldownKey := inferInstance

structure ThrottleState where
  lastSignalTime : OrdMap CooldownKey Instant := OrdMap.empty
  tradeTimestamps : List Instant := []

structure ThrottleResult where
  accepted : List TradingSignal := []
  rejected : List TradingSignal := []

/-- `THROTTLE_BYPASS_TYPES` -/
def isThrottleBypass (signal : TradingSignal) : Bool :=
  signal.originalType = some .stopLoss ∨ signal.originalType = some .takeProfit ∨
    signal.originalType = some .shortExit

/-- Drop the trades older than a day and the cooldowns that have run out. -/
def pruneThrottle (state : ThrottleState) (config : SignalThrottleConfig) (now : Instant) :
    ThrottleState where
  lastSignalTime :=
    if 0 < config.cooldownMs then
      state.lastSignalTime.entries.foldl
        (fun m e => if (e.2 : ℚ) ≤ now - config.cooldownMs then m.erase e.1 else m)
        state.lastSignalTime
    else state.lastSignalTime
  tradeTimestamps := state.tradeTimestamps.filter (now - 24 * HOUR_MS < ·)

def inCooldown (state : ThrottleState) (config : SignalThrottleConfig) (now : Instant)
    (batchAccepted : List CooldownKey) (key : CooldownKey) : Bool :=
  0 < config.cooldownMs ∧
    ((state.lastSignalTime.get? key).any (fun last => ((now - last : ℤ) : ℚ) < config.cooldownMs) ∨
      key ∈ batchAccepted)

def raiseSellPercent (config : SignalThrottleConfig) (signal : TradingSignal) : TradingSignal :=
  if signal.action = .sell ∧ signal.quantity = none ∧ 0 < config.minSellPercent ∧
      signal.percentage.getD 0 < config.minSellPercent then
    { signal with percentage := some config.minSellPercent }
  else signal

def throttleSignal (state : ThrottleState) (config : SignalThrottleConfig) (now : Instant)
    (acc : ThrottleResult × List CooldownKey) (signal : TradingSignal) :
    ThrottleResult × List CooldownKey :=
  let (result, batchAccepted) := acc
  let key : CooldownKey := (signal.coinId, signal.action)
  let reject := ({ result with rejected := result.rejected ++ [signal] }, batchAccepted)
  let accept (s : TradingSignal) :=
    ({ result with accepted := result.accepted ++ [s] },
      if 0 < config.cooldownMs then key :: batchAccepted else batchAccepted)
  if signal.action = .hold then reject
  else if inCooldown state config now batchAccepted key then reject
  -- risk control is neither capped nor raised
  else if isThrottleBypass signal then accept signal
  else if 0 < config.maxTradesPerDay ∧
      config.maxTradesPerDay ≤ (state.tradeTimestamps.length : ℚ) then reject
  else accept (raiseSellPercent config signal)

def filterSignals (signals : List TradingSignal) (state : ThrottleState)
    (config : SignalThrottleConfig) (now : Instant) : ThrottleResult × ThrottleState :=
  let pruned := pruneThrottle state config now
  ((signals.foldl (throttleSignal pruned config now) ({}, [])).1, pruned)

def markExecuted (state : ThrottleState) (signal : TradingSignal) (now : Instant) : ThrottleState :=
  if signal.action = .hold then state
  else
    { lastSignalTime := state.lastSignalTime.set (signal.coinId, signal.action) now
      tradeTimestamps := state.tradeTimestamps ++ [now] }

/-- Filter the signals of a bar and mark those executed that do not bypass the throttle. -/
def throttleBar (signals : List TradingSignal) (state : ThrottleState)
    (config : SignalThrottleConfig) (now : Instant) : List TradingSignal × ThrottleState :=
  let (result, pruned) := filterSignals signals state config now
  (result.accepted,
    (result.accepted.filter (¬ isThrottleBypass ·)).foldl (fun s a => markExecuted s a now) pruned)

/-! ## Serialization -/

structure SerializableThrottleState where
  lastSignalTime : List (CooldownKey × Instant)
  tradeTimestamps : List Instant

def serializeThrottle (state : ThrottleState) : SerializableThrottleState where
  lastSignalTime := state.lastSignalTime.entries
  tradeTimestamps := state.tradeTimestamps

def deserializeThrottle (serialized : SerializableThrottleState) : ThrottleState where
  lastSignalTime := OrdMap.ofEntries serialized.lastSignalTime
  tradeTimestamps := serialized.tradeTimestamps

theorem deserialize_serializeThrottle (state : ThrottleState) :
    deserializeThrottle (serializeThrottle state) = state := by
  simp [deserializeThrottle, serializeThrottle, OrdMap.ofEntries_entries]

end Chansey
