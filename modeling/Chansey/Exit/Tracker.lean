import Chansey.Exit.Price

/-!
# The exit tracker

The tracker keeps the exit levels of the open long positions of a run and the re-entry cooldown of
the coins that were stopped out.

* `onBuy`, `onSell`, `removePosition`: the three updates. **`quantity?_onBuy`**,
  **`quantity?_onSell`** and **`quantity?_removePosition`** say what they do to tracked quantities.
* `checkExits`: one bar's exits. **`checkExits_spec`**: it changes no tracked quantity and signals
  each coin at most once.
-/

namespace Chansey

inductive ExitType where
  | stopLoss | takeProfit | trailingStop
  deriving DecidableEq

def ExitType.text : ExitType → String
  | .stopLoss => "STOP_LOSS"
  | .takeProfit => "TAKE_PROFIT"
  | .trailingStop => "TRAILING_STOP"

structure ExitSignal where
  coinId : CoinId
  quantity : ℚ
  exitType : ExitType
  executionPrice : ℚ
  reason : String
  metadata : Metadata

/-- The exit levels of a position. The coin is the key it is stored under. -/
structure TrackedExit where
  entryPrice : ℚ
  quantity : ℚ
  side : ExitSide
  stopLossPrice : Option ℚ := none
  takeProfitPrice : Option ℚ := none
  trailingStopPrice : Option ℚ := none
  trailingActivationPrice : Option ℚ := none
  trailingActivated : Bool
  highWaterMark : ℚ
  entryAtr : Option ℚ
  ocoLinked : Bool
  positionConfig : Option ExitConfig := none
  deriving DecidableEq

def DEFAULT_EXIT_COOLDOWN_BARS : ℚ := 10

structure BacktestExitTracker where
  config : ExitConfig
  positions : OrdMap CoinId TrackedExit := OrdMap.empty
  exitCooldowns : OrdMap CoinId ℚ := OrdMap.empty
  deriving DecidableEq

namespace BacktestExitTracker

variable (tracker : BacktestExitTracker)

def quantity? (coinId : CoinId) : Option ℚ := (tracker.positions.get? coinId).map (·.quantity)

def recalcTrailingStop (tracked : TrackedExit) : ℚ :=
  let cfg := tracked.positionConfig.getD tracker.config
  tracked.side.below tracked.highWaterMark
    (trailingDistance tracked.highWaterMark cfg tracked.entryAtr)

/-! ## Updates -/

/-- The levels of an existing position, from its new average entry. -/
def relevel (cfg : ExitConfig) (tracked : TrackedExit) : TrackedExit :=
  let stopped :=
    if cfg.enableStopLoss then
      { tracked with
        stopLossPrice :=
          some (calculateStopLossPrice tracked.entryPrice tracked.side cfg tracked.entryAtr) }
    else tracked
  let profited :=
    if cfg.enableTakeProfit then
      { stopped with
        takeProfitPrice :=
          some (calculateTakeProfitPrice stopped.entryPrice stopped.side cfg
            stopped.stopLossPrice) }
    else stopped
  if cfg.enableTrailingStop then
    { profited with
      trailingStopPrice := some <|
        if profited.trailingActivated then tracker.recalcTrailingStop profited
        else calculateTrailingStopPrice profited.entryPrice profited.side cfg profited.entryAtr
      trailingActivationPrice :=
        some (calculateTrailingActivationPrice profited.entryPrice profited.side cfg) }
  else profited

def scaleIn (existing : TrackedExit) (entryPrice quantity : ℚ) (currentAtr : Option ℚ)
    (override? : Option ExitConfig) : TrackedExit :=
  let positionConfig := override?.or existing.positionConfig
  let totalQty := existing.quantity + quantity
  tracker.relevel (positionConfig.getD tracker.config)
    { existing with
      positionConfig := positionConfig
      entryPrice := (existing.entryPrice * existing.quantity + entryPrice * quantity) / totalQty
      quantity := totalQty
      highWaterMark := max existing.highWaterMark entryPrice
      entryAtr := currentAtr.or existing.entryAtr }

def newTracked (entryPrice quantity : ℚ) (currentAtr : Option ℚ) (effectiveConfig : ExitConfig)
    (override? : Option ExitConfig) : TrackedExit :=
  let stopLossPrice :=
    if effectiveConfig.enableStopLoss then
      some (calculateStopLossPrice entryPrice .buy effectiveConfig currentAtr)
    else none
  let takeProfitPrice :=
    if effectiveConfig.enableTakeProfit then
      some (calculateTakeProfitPrice entryPrice .buy effectiveConfig stopLossPrice)
    else none
  { entryPrice := entryPrice
    quantity := quantity
    side := .buy
    stopLossPrice := stopLossPrice
    takeProfitPrice := takeProfitPrice
    trailingStopPrice :=
      if effectiveConfig.enableTrailingStop then
        some (calculateTrailingStopPrice entryPrice .buy effectiveConfig currentAtr)
      else none
    trailingActivationPrice :=
      if effectiveConfig.enableTrailingStop then
        some (calculateTrailingActivationPrice entryPrice .buy effectiveConfig)
      else none
    trailingActivated :=
      effectiveConfig.enableTrailingStop ∧ effectiveConfig.trailingActivation = .immediate
    highWaterMark := entryPrice
    entryAtr := currentAtr
    ocoLinked := effectiveConfig.useOco
    positionConfig := override? }

def onBuy (coinId : CoinId) (entryPrice quantity : ℚ) (currentAtr : Option ℚ)
    (overrideExitConfig : Option PartialExitConfig) : BacktestExitTracker :=
  let override? := overrideExitConfig.map fun layer =>
    resolveExitConfig [tracker.config.toLayer, layer]
  let tracked :=
    match tracker.positions.get? coinId with
    | some existing => tracker.scaleIn existing entryPrice quantity currentAtr override?
    | none => newTracked entryPrice quantity currentAtr (override?.getD tracker.config) override?
  { tracker with positions := tracker.positions.set coinId tracked }

def onSell (coinId : CoinId) (quantitySold : ℚ) : BacktestExitTracker :=
  match tracker.positions.get? coinId with
  | none => tracker
  | some tracked =>
    let remaining := tracked.quantity - quantitySold
    { tracker with
      positions :=
        if remaining ≤ 0 then tracker.positions.erase coinId
        else tracker.positions.set coinId { tracked with quantity := remaining } }

def removePosition (coinId : CoinId) : BacktestExitTracker :=
  { tracker with positions := tracker.positions.erase coinId }

/-! ## Cooldowns -/

def registerExitCooldown (coinId : CoinId) (tracked : TrackedExit) (currentBar : ℕ) :
    BacktestExitTracker :=
  let cfg := tracked.positionConfig.getD tracker.config
  let cooldownBars :=
    (cfg.exitCooldownBars.or tracker.config.exitCooldownBars).getD DEFAULT_EXIT_COOLDOWN_BARS
  if cooldownBars ≤ 0 then tracker
  else { tracker with exitCooldowns := tracker.exitCooldowns.set coinId (currentBar + cooldownBars) }

/-- Whether a buy is allowed, and the tracker without the cooldown if that has expired. -/
def canEnter (coinId : CoinId) (currentBar : ℕ) : Bool × BacktestExitTracker :=
  match tracker.exitCooldowns.get? coinId with
  | none => (true, tracker)
  | some expiry =>
    if expiry ≤ currentBar then
      (true, { tracker with exitCooldowns := tracker.exitCooldowns.erase coinId })
    else (false, tracker)

/-! ## The exits of a bar -/

/-- What one bar does to a tracked position: its trailing state and the exit it triggers. -/
structure ExitCheck where
  tracked : TrackedExit
  signal : Option ExitSignal := none

def fixed2 (q : ℚ) : String := Js.toFixed q 2

def trail (tracked : TrackedExit) (highPrice : ℚ) : TrackedExit :=
  let activated :=
    if ¬ tracked.trailingActivated ∧ tracked.side = .buy ∧
        tracked.trailingActivationPrice.any (· ≤ highPrice) then
      { tracked with trailingActivated := true }
    else tracked
  if activated.trailingActivated ∧ activated.highWaterMark < highPrice then
    let raised := { activated with highWaterMark := highPrice }
    { raised with trailingStopPrice := some (tracker.recalcTrailingStop raised) }
  else activated

/-- Stop-loss before take-profit before trailing stop: one exit a bar at most. -/
def checkPosition (coinId : CoinId) (tracked : TrackedExit) (lowPrice highPrice : ℚ) : ExitCheck :=
  let entry := OrdMap.empty.set "entryPrice" (MetaValue.num tracked.entryPrice)
  match tracked.stopLossPrice.filter fun sl => tracked.side = .buy ∧ lowPrice ≤ sl with
  | some sl =>
    { tracked := tracked
      signal := some
        { coinId := coinId
          quantity := tracked.quantity
          exitType := .stopLoss
          executionPrice := sl
          reason := "Stop-loss triggered: low " ++ fixed2 lowPrice ++ " breached SL at " ++ fixed2 sl
          metadata := (entry.set "stopLossPrice" (.num sl)).set "lowPrice" (.num lowPrice) } }
  | none =>
    match tracked.takeProfitPrice.filter fun tp => tracked.side = .buy ∧ tp ≤ highPrice with
    | some tp =>
      { tracked := tracked
        signal := some
          { coinId := coinId
            quantity := tracked.quantity
            exitType := .takeProfit
            executionPrice := tp
            reason := "Take-profit triggered: high " ++ fixed2 highPrice ++ " breached TP at " ++
              fixed2 tp
            metadata :=
              (entry.set "takeProfitPrice" (.num tp)).set "highPrice" (.num highPrice) } }
    | none =>
      let posConfig := tracked.positionConfig.getD tracker.config
      if posConfig.enableTrailingStop ∧ tracked.trailingStopPrice.isSome then
        let trailed := tracker.trail tracked highPrice
        match trailed.trailingStopPrice.filter fun ts =>
            trailed.trailingActivated ∧ trailed.side = .buy ∧ lowPrice ≤ ts with
        | some ts =>
          { tracked := trailed
            signal := some
              { coinId := coinId
                quantity := trailed.quantity
                exitType := .trailingStop
                executionPrice := ts
                reason := "Trailing stop triggered: low " ++ fixed2 lowPrice ++
                  " breached trailing at " ++ fixed2 ts
                metadata := ((entry.set "highWaterMark" (.num trailed.highWaterMark)).set
                  "trailingStopPrice" (.num ts)).set "lowPrice" (.num lowPrice) } }
        | none => { tracked := trailed }
      else { tracked := tracked }

def checkEntry (closePrices lowPrices highPrices : OrdMap CoinId ℚ) (currentBar : ℕ)
    (state : BacktestExitTracker × List ExitSignal) (entry : CoinId × TrackedExit) :
    BacktestExitTracker × List ExitSignal :=
  let (tracker, signals) := state
  let (coinId, tracked) := entry
  match (closePrices.get? coinId).filter (0 < ·) with
  | none => state
  | some closePrice =>
    let check := tracker.checkPosition coinId tracked
      ((lowPrices.get? coinId).getD closePrice) ((highPrices.get? coinId).getD closePrice)
    let checked := { tracker with positions := tracker.positions.set coinId check.tracked }
    match check.signal with
    | none => (checked, signals)
    | some signal =>
      let cooled :=
        if signal.exitType = .takeProfit then checked
        else checked.registerExitCooldown coinId tracked currentBar
      (cooled, signals ++ [signal])

def checkExits (closePrices lowPrices highPrices : OrdMap CoinId ℚ) (currentBar : ℕ) :
    BacktestExitTracker × List ExitSignal :=
  tracker.positions.entries.foldl (checkEntry closePrices lowPrices highPrices currentBar)
    (tracker, [])

/-! ## Tracked quantities -/

section Quantities

variable (coinId : CoinId) (c : CoinId)

@[simp] theorem relevel_quantity (cfg : ExitConfig) (tracked : TrackedExit) :
    (tracker.relevel cfg tracked).quantity = tracked.quantity := by
  unfold relevel
  dsimp only
  split_ifs <;> rfl

theorem quantity?_onBuy (entryPrice quantity : ℚ) (currentAtr : Option ℚ)
    (layer : Option PartialExitConfig) :
    (tracker.onBuy coinId entryPrice quantity currentAtr layer).quantity? c =
      if coinId = c then some ((tracker.quantity? coinId).getD 0 + quantity)
      else tracker.quantity? c := by
  unfold onBuy quantity?
  simp only [OrdMap.get?_set]
  split_ifs with hc
  · cases tracker.positions.get? coinId <;> simp [newTracked, scaleIn]
  · rfl

theorem quantity?_onSell (sold : ℚ) :
    (tracker.onSell coinId sold).quantity? c =
      if coinId = c then (tracker.quantity? coinId).bind fun held =>
        if held - sold ≤ 0 then none else some (held - sold)
      else tracker.quantity? c := by
  unfold onSell quantity?
  cases hget : tracker.positions.get? coinId with
  | none =>
    by_cases hc : coinId = c
    · subst hc
      simp [hget]
    · simp [hc]
  | some =>
    dsimp only [Option.map_some, Option.bind_some]
    split_ifs with hr hc hc <;> simp_all [OrdMap.get?_set, OrdMap.get?_erase]

theorem quantity?_removePosition :
    (tracker.removePosition coinId).quantity? c =
      if coinId = c then none else tracker.quantity? c := by
  unfold removePosition quantity?
  rw [OrdMap.get?_erase]
  split_ifs <;> rfl

@[simp] theorem quantity?_registerExitCooldown (tracked : TrackedExit) (currentBar : ℕ) :
    (tracker.registerExitCooldown coinId tracked currentBar).quantity? c = tracker.quantity? c := by
  unfold registerExitCooldown
  dsimp only
  split_ifs <;> rfl

@[simp] theorem quantity?_canEnter (currentBar : ℕ) :
    (tracker.canEnter coinId currentBar).2.quantity? c = tracker.quantity? c := by
  unfold canEnter
  split
  · rfl
  · split_ifs <;> rfl

@[simp] theorem trail_quantity (tracked : TrackedExit) (highPrice : ℚ) :
    (tracker.trail tracked highPrice).quantity = tracked.quantity := by
  unfold trail
  dsimp only
  split_ifs <;> rfl

theorem checkPosition_spec (tracked : TrackedExit) (lowPrice highPrice : ℚ) :
    (tracker.checkPosition coinId tracked lowPrice highPrice).tracked.quantity =
        tracked.quantity ∧
      ∀ signal ∈ (tracker.checkPosition coinId tracked lowPrice highPrice).signal,
        signal.coinId = coinId ∧ signal.quantity = tracked.quantity := by
  unfold checkPosition
  dsimp only
  split
  · simp
  split
  · simp
  split_ifs
  · split <;> simp
  · simp

end Quantities

section CheckExits

variable (closePrices lowPrices highPrices : OrdMap CoinId ℚ) (currentBar : ℕ)

theorem checkEntry_spec {state : BacktestExitTracker × List ExitSignal}
    {entry : CoinId × TrackedExit} (hentry : state.1.quantity? entry.1 = some entry.2.quantity) :
    let next := checkEntry closePrices lowPrices highPrices currentBar state entry
    (∀ c, next.1.quantity? c = state.1.quantity? c) ∧
      (next.2 = state.2 ∨ ∃ signal, next.2 = state.2 ++ [signal] ∧ signal.coinId = entry.1 ∧
        signal.quantity = entry.2.quantity) := by
  intro next
  have hset : ∀ (t : TrackedExit) (cds : OrdMap CoinId ℚ) c, t.quantity = entry.2.quantity →
      ({ state.1 with positions := state.1.positions.set entry.1 t } :
        BacktestExitTracker).quantity? c = state.1.quantity? c := by
    intro t _ c ht
    by_cases hc : entry.1 = c
    · subst hc
      simpa [quantity?, ht] using hentry.symm
    · simp [quantity?, OrdMap.get?_set_of_ne _ _ hc]
  simp only [next, checkEntry]
  split
  · exact ⟨fun c => rfl, Or.inl rfl⟩
  · rename_i closePrice hclose
    have hspec := state.1.checkPosition_spec entry.1 entry.2
      ((lowPrices.get? entry.1).getD closePrice) ((highPrices.get? entry.1).getD closePrice)
    split
    · exact ⟨fun c => hset _ OrdMap.empty c hspec.1, Or.inl rfl⟩
    · rename_i signal hsig
      refine ⟨fun c => ?_, Or.inr ⟨signal, rfl, hspec.2 signal hsig⟩⟩
      split_ifs
      · exact hset _ OrdMap.empty c hspec.1
      · rw [quantity?_registerExitCooldown]
        exact hset _ OrdMap.empty c hspec.1

theorem foldl_checkEntry_spec {entries : List (CoinId × TrackedExit)}
    (state : BacktestExitTracker × List ExitSignal)
    (hents : ∀ e ∈ entries, state.1.quantity? e.1 = some e.2.quantity) :
    let final := entries.foldl (checkEntry closePrices lowPrices highPrices currentBar) state
    (∀ c, final.1.quantity? c = state.1.quantity? c) ∧
      ∃ signals, final.2 = state.2 ++ signals ∧
        (signals.map (·.coinId)).Sublist (entries.map Prod.fst) ∧
        ∀ s ∈ signals, state.1.quantity? s.coinId = some s.quantity := by
  induction entries generalizing state with
  | nil => exact ⟨fun c => rfl, [], by simp, by simp, by simp⟩
  | cons e es ih =>
    intro final
    obtain ⟨hq, hsig⟩ := checkEntry_spec closePrices lowPrices highPrices currentBar
      (hents e List.mem_cons_self)
    obtain ⟨hq', signals, hs, hsub, hall⟩ :=
      ih (checkEntry closePrices lowPrices highPrices currentBar state e)
        (fun e' he' => (hq e'.1).trans (hents e' (List.mem_cons_of_mem e he')))
    refine ⟨fun c => (hq' c).trans (hq c), ?_⟩
    rcases hsig with hsame | ⟨signal, happ, hcoin, hqty⟩
    · refine ⟨signals, hs.trans (by rw [hsame]), hsub.trans (List.sublist_cons_self ..), ?_⟩
      exact fun s hsm => (hq s.coinId).symm.trans (hall s hsm)
    · refine ⟨signal :: signals, hs.trans (by rw [happ]; simp), ?_, ?_⟩
      · rw [List.map_cons, List.map_cons, hcoin]
        exact hsub.cons_cons e.1
      · intro s hsm
        rcases List.mem_cons.mp hsm with rfl | hsm
        · rw [hcoin, hqty]
          exact hents e List.mem_cons_self
        · exact (hq s.coinId).symm.trans (hall s hsm)

theorem checkExits_spec :
    (∀ c, (tracker.checkExits closePrices lowPrices highPrices currentBar).1.quantity? c =
      tracker.quantity? c) ∧
    ((tracker.checkExits closePrices lowPrices highPrices currentBar).2.map (·.coinId)).Nodup ∧
    ∀ s ∈ (tracker.checkExits closePrices lowPrices highPrices currentBar).2,
      tracker.quantity? s.coinId = some s.quantity := by
  have hents : ∀ e ∈ tracker.positions.entries,
      tracker.quantity? e.1 = some e.2.quantity := by
    intro e he
    rw [quantity?, OrdMap.get?_eq_some_iff.mpr he]
    rfl
  obtain ⟨hq, _, hs, hsub, hall⟩ :=
    foldl_checkEntry_spec closePrices lowPrices highPrices currentBar (tracker, []) hents
  rw [List.nil_append] at hs
  rw [checkExits, hs]
  exact ⟨hq, hsub.nodup tracker.positions.nodup, hall⟩

end CheckExits

/-! ## The configuration -/

section Config

@[simp] theorem config_onSell (coinId : CoinId) (sold : ℚ) :
    (tracker.onSell coinId sold).config = tracker.config := by
  unfold onSell
  split <;> rfl

@[simp] theorem config_onBuy (coinId : CoinId) (entryPrice quantity : ℚ) (currentAtr : Option ℚ)
    (overrideExitConfig : Option PartialExitConfig) :
    (tracker.onBuy coinId entryPrice quantity currentAtr overrideExitConfig).config =
      tracker.config := rfl

@[simp] theorem config_removePosition (coinId : CoinId) :
    (tracker.removePosition coinId).config = tracker.config := rfl

@[simp] theorem config_registerExitCooldown (coinId : CoinId) (tracked : TrackedExit)
    (currentBar : ℕ) :
    (tracker.registerExitCooldown coinId tracked currentBar).config = tracker.config := by
  unfold registerExitCooldown
  dsimp only
  split_ifs <;> rfl

@[simp] theorem config_canEnter (coinId : CoinId) (currentBar : ℕ) :
    (tracker.canEnter coinId currentBar).2.config = tracker.config := by
  unfold canEnter
  split
  · rfl
  · split_ifs <;> rfl

@[simp] theorem config_checkEntry (closePrices lowPrices highPrices : OrdMap CoinId ℚ)
    (currentBar : ℕ) (state : BacktestExitTracker × List ExitSignal)
    (entry : CoinId × TrackedExit) :
    (checkEntry closePrices lowPrices highPrices currentBar state entry).1.config =
      state.1.config := by
  unfold checkEntry
  dsimp only
  split
  · rfl
  · split
    · rfl
    · split_ifs
      · rfl
      · rw [config_registerExitCooldown]

@[simp] theorem config_checkExits (closePrices lowPrices highPrices : OrdMap CoinId ℚ)
    (currentBar : ℕ) :
    (tracker.checkExits closePrices lowPrices highPrices currentBar).1.config = tracker.config := by
  have hfold : ∀ (entries : List (CoinId × TrackedExit))
      (state : BacktestExitTracker × List ExitSignal),
      (entries.foldl (checkEntry closePrices lowPrices highPrices currentBar) state).1.config =
        state.1.config := by
    intro entries
    induction entries with
    | nil => exact fun state => rfl
    | cons entry entries ih =>
      intro state
      rw [List.foldl_cons, ih, config_checkEntry]
  exact hfold tracker.positions.entries (tracker, [])

end Config

/-! ## Serialization -/

structure SerializableState where
  positions : List (CoinId × TrackedExit)
  cooldowns : List (CoinId × ℚ)

def serialize : SerializableState where
  positions := tracker.positions.entries
  cooldowns := tracker.exitCooldowns.entries

def deserialize (state : SerializableState) (config : ExitConfig) : BacktestExitTracker where
  config := config
  positions := OrdMap.ofEntries state.positions
  exitCooldowns := OrdMap.ofEntries state.cooldowns

theorem deserialize_serialize : deserialize tracker.serialize tracker.config = tracker := by
  simp [deserialize, serialize, OrdMap.ofEntries_entries]

end BacktestExitTracker

end Chansey
