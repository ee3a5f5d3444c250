import Chansey.Paper.SignalSide

/-!
# Candles that have been processed

A session remembers the last candle of each symbol it ran the strategy on, and runs it again when a
symbol shows a newer one. What it remembers is replaced as a whole.

* `strategyRuns`: whether a step runs the strategy. **`sessionStep_lastProcessedCandleTs`**: what is
  remembered afterwards; nothing else in a tick touches it.
* `GatedStep`, **`gatedStep_run`**: no candle is skipped, and none is run on twice while its symbol
  stays in view.
-/

namespace Chansey.Paper

/-! ## What a tick remembers -/

section Remembered

variable {session : PaperTradingSession} {quote : String} {world : World} {market : Market}

theorem remembers (candles : Option (OrdMap String Instant)) :
    KeptByOrders session quote world market
      fun state => state.lastProcessedCandleTs = candles where
  order ctx state _ h := by
    unfold runOrder
    dsimp only
    split <;> exact h
  tracker _ _ h := h
  throttle _ _ h := h

@[simp] theorem getOrCreate_lastProcessedCandleTs (state : EngineState) :
    (getOrCreate session state).lastProcessedCandleTs = state.lastProcessedCandleTs := by
  unfold getOrCreate
  split <;> rfl

@[simp] theorem checkAndExecute_lastProcessedCandleTs (state : EngineState) :
    (checkAndExecute session quote world market state).2.lastProcessedCandleTs =
      state.lastProcessedCandleTs :=
  (remembers _).checkAndExecute rfl

@[simp] theorem tradeSignals_lastProcessedCandleTs (signals : List TradingSignal)
    (state : EngineState) :
    (tradeSignals session quote world market signals state).state.lastProcessedCandleTs =
      state.lastProcessedCandleTs :=
  (remembers _).tradeSignals signals rfl

end Remembered

/-! ## Steps of a session -/

def PaperEvent.market? : PaperEvent → Option Market
  | .tick world | .retryTick world => world.market.toOption
  | .restart => none

/-- The last candle of each symbol that a step shows. -/
def PaperEvent.shown (event : PaperEvent) : OrdMap String Instant :=
  event.market?.elim OrdMap.empty latestTimestamps

def strategyRuns (session : PaperTradingSession) (state : EngineState) : PaperEvent → Bool
  | .tick world | .retryTick world =>
    match world.market with
    | .error _ => false
    | .ok market =>
      let restored := restoreThrottleStateIfNeeded state
      (tickSignals session (getQuoteCurrency restored.accounts.keys) world market
        (exitedState session world market restored)).isSome
  | .restart => false

section Steps

variable {session : PaperTradingSession} {state : EngineState} {event : PaperEvent}

theorem tickSignals_isSome (quote : String) (world : World) (market : Market)
    (state : EngineState) :
    (tickSignals session quote world market state).isSome = true ↔
      (latestTimestamps market).size = 0 ∨
        hasAnySymbolAdvanced (latestTimestamps market) state.lastProcessedCandleTs = true := by
  unfold tickSignals
  dsimp only
  split_ifs with h
  · exact ⟨fun _ => h, fun _ => rfl⟩
  · exact ⟨fun hsome => absurd hsome (by simp), fun hrun => absurd hrun h⟩

theorem strategyRuns_iff : strategyRuns session state event = true ↔
    event.market?.isSome ∧ (event.shown.size = 0 ∨
      hasAnySymbolAdvanced event.shown state.lastProcessedCandleTs = true) := by
  have hkept : ∀ world market, (exitedState session world market
      (restoreThrottleStateIfNeeded state)).lastProcessedCandleTs = state.lastProcessedCandleTs := by
    intro world market
    rw [exitedState, checkAndExecute_lastProcessedCandleTs, getOrCreate_lastProcessedCandleTs]
    rfl
  cases event with
  | restart => simp [strategyRuns, PaperEvent.market?]
  | tick world | retryTick world =>
    cases hmkt : world.market with
    | error => simp [strategyRuns, PaperEvent.market?, hmkt, Except.toOption]
    | ok =>
      simp only [strategyRuns, PaperEvent.market?, PaperEvent.shown, hmkt, Except.toOption,
        tickSignals_isSome, hkept, Option.isSome_some, Option.elim_some, true_and]

theorem runTick_lastProcessedCandleTs (world : World) (market : Market) (state : EngineState) :
    (runTick session world market state).2.lastProcessedCandleTs =
      if (tickSignals session (getQuoteCurrency state.accounts.keys) world market
          (exitedState session world market state)).isSome ∧ (latestTimestamps market).size ≠ 0
      then some (latestTimestamps market) else state.lastProcessedCandleTs := by
  have hextd : (exitedState session world market state).lastProcessedCandleTs =
      state.lastProcessedCandleTs := by
    rw [exitedState, checkAndExecute_lastProcessedCandleTs, getOrCreate_lastProcessedCandleTs]
  cases htick : tickSignals session (getQuoteCurrency state.accounts.keys) world market
      (exitedState session world market state) with
  | none =>
    have hafter : (runTick session world market state).2 = exitedState session world market state := by
      unfold exitedState at htick ⊢
      simp only [runTick, htick]
      split <;> rfl
    simpa [hafter] using hextd
  | some signals =>
    have hafter : (runTick session world market state).2 = rememberCandles market
        (tradeSignals session (getQuoteCurrency state.accounts.keys) world market signals
          (exitedState session world market state)).state := by
      unfold exitedState at htick ⊢
      simp only [runTick, htick]
      split <;> rfl
    rw [hafter]
    by_cases hsize : (latestTimestamps market).size = 0
    · simp [rememberCandles, hsize, hextd]
    · simp [rememberCandles, hsize]

theorem sessionStep_lastProcessedCandleTs :
    (sessionStep session state event).lastProcessedCandleTs =
      if strategyRuns session state event = true ∧ event.shown.size ≠ 0 then some event.shown
      else state.lastProcessedCandleTs := by
  cases event with
  | restart => rfl
  | tick world | retryTick world =>
    cases hmkt : world.market with
    | error =>
      simp [sessionStep, handleTick, handleRetryTick, processTick, strategyRuns, hmkt,
        restoreThrottleStateIfNeeded]
    | ok market =>
      have htick := @runTick_lastProcessedCandleTs session world market
        (restoreThrottleStateIfNeeded state)
      have hstep : (sessionStep session state (.tick world)).lastProcessedCandleTs =
            (runTick session world market
              (restoreThrottleStateIfNeeded state)).2.lastProcessedCandleTs ∧
          (sessionStep session state (.retryTick world)).lastProcessedCandleTs =
            (runTick session world market
              (restoreThrottleStateIfNeeded state)).2.lastProcessedCandleTs := by
        constructor
        · simp only [sessionStep, handleTick, processTick, hmkt]
          split_ifs <;> rfl
        · simp only [sessionStep, handleRetryTick, processTick, hmkt]
          split_ifs <;> rfl
      simp only [hstep, htick, strategyRuns, PaperEvent.shown, PaperEvent.market?, hmkt,
        Except.toOption, Option.elim_some]
      rfl

end Steps

/-! ## Runs -/

/-- A session with the candles that its strategy has run on, and those of the last such tick that
showed any. -/
structure Gating where
  state : EngineState
  processed : List (String × Instant) := []
  lastShown : Option (OrdMap String Instant) := none

def gate (session : PaperTradingSession) (g : Gating) (event : PaperEvent) : Gating :=
  let runs := strategyRuns session g.state event
  { state := sessionStep session g.state event
    processed := if runs then g.processed ++ event.shown.entries else g.processed
    lastShown := if runs ∧ event.shown.size ≠ 0 then some event.shown else g.lastShown }

def gateRun (session : PaperTradingSession) (quote : String) (events : List PaperEvent) :
    Gating :=
  events.foldl (gate session) { state := openSession session quote }

/-- Each symbol shows candles that never go back in time. It may be out of view in between. -/
def CandlesAdvance (events : List PaperEvent) : Prop :=
  ∀ symbol, (events.filterMap (·.shown.get? symbol)).Pairwise (· ≤ ·)

/-- The step shows a candle newer than any that was processed of its symbol. -/
def ShowsNew (g : Gating) (event : PaperEvent) : Prop :=
  ∃ symbol t, event.shown.get? symbol = some t ∧ ∀ u, (symbol, u) ∈ g.processed → u < t

/-- What is remembered, in terms of what was processed. -/
structure Gated (events : List PaperEvent) (g : Gating) : Prop where
  remembered : g.state.lastProcessedCandleTs = g.lastShown
  start : g.lastShown = none → g.processed = []
  kept : ∀ last symbol u, g.lastShown = some last → last.get? symbol = some u →
    (symbol, u) ∈ g.processed
  shown : ∀ symbol v, (symbol, v) ∈ g.processed → ∃ e ∈ events, e.shown.get? symbol = some v
  latest : ∀ last symbol u v, g.lastShown = some last → last.get? symbol = some u →
    (symbol, v) ∈ g.processed → v ≤ u

structure GatedStep (session : PaperTradingSession) (g : Gating) (event : PaperEvent) : Prop where
  runs : event.market?.isSome → ShowsNew g event → strategyRuns session g.state event = true
  processes : ∀ symbol t, event.shown.get? symbol = some t →
    (symbol, t) ∈ (gate session g event).processed
  /-- The strategy does not run on candles again while their symbols stay in view. -/
  once : strategyRuns session g.state event = true → event.shown.size ≠ 0 →
    (∀ symbol t v, event.shown.get? symbol = some t → (symbol, v) ∈ g.processed →
      ∃ last u, g.lastShown = some last ∧ last.get? symbol = some u) → ShowsNew g event
  /-- A tick that finds a market without candles runs the strategy and processes none. -/
  candleless : event.market?.isSome → event.shown.size = 0 →
    strategyRuns session g.state event = true ∧ (gate session g event).processed = g.processed
  marketless : event.market? = none → strategyRuns session g.state event = false

section Runs

variable {session : PaperTradingSession} {quote : String} {events : List PaperEvent}
  {event : PaperEvent} {g : Gating}

theorem CandlesAdvance.le (h : CandlesAdvance (events ++ [event])) {earlier : PaperEvent}
    (hmem : earlier ∈ events) {symbol : String} {v t : Instant}
    (hv : earlier.shown.get? symbol = some v) (ht : event.shown.get? symbol = some t) : v ≤ t := by
  have hpw := h symbol
  rw [List.filterMap_append, List.pairwise_append] at hpw
  refine hpw.2.2 v (List.mem_filterMap.mpr ⟨earlier, hmem, hv⟩) t ?_
  exact List.mem_filterMap.mpr ⟨event, List.mem_singleton_self event, ht⟩

theorem CandlesAdvance.prefix (h : CandlesAdvance (events ++ [event])) : CandlesAdvance events := by
  intro symbol
  have hpw := h symbol
  rw [List.filterMap_append, List.pairwise_append] at hpw
  exact hpw.1

theorem market_of_shown {symbol : String} {t : Instant} (h : event.shown.get? symbol = some t) :
    event.market?.isSome := by
  cases hmkt : event.market? with
  | none =>
    rw [PaperEvent.shown, hmkt] at h
    cases h
  | some => rfl

theorem hasAnySymbolAdvanced_iff {current : OrdMap String Instant}
    {previous : Option (OrdMap String Instant)} :
    hasAnySymbolAdvanced current previous = true ↔
      previous = none ∨ ∃ last symbol t, previous = some last ∧ current.get? symbol = some t ∧
        ∀ u, last.get? symbol = some u → u < t := by
  cases previous with
  | none => exact ⟨fun _ => Or.inl rfl, fun _ => rfl⟩
  | some last =>
    simp only [hasAnySymbolAdvanced, List.any_eq_true, Option.all_eq_true, decide_eq_true_eq,
      reduceCtorEq, false_or]
    constructor
    · rintro ⟨entry, hentry, hnewer⟩
      exact ⟨last, entry.1, entry.2, rfl, OrdMap.get?_eq_some_iff.mpr hentry, hnewer⟩
    · rintro ⟨_, symbol, t, hlast, ht, hnewer⟩
      cases hlast
      exact ⟨(symbol, t), OrdMap.get?_eq_some_iff.mp ht, hnewer⟩

theorem Gated.gate (h : Gated events g) (hadv : CandlesAdvance (events ++ [event])) :
    Gated (events ++ [event]) (gate session g event) := by
  have hshown : ∀ symbol v, (symbol, v) ∈ g.processed →
      ∃ e ∈ events ++ [event], e.shown.get? symbol = some v := by
    intro symbol v hv
    obtain ⟨e, he, hget⟩ := h.shown symbol v hv
    exact ⟨e, List.mem_append_left _ he, hget⟩
  have hremembered : (sessionStep session g.state event).lastProcessedCandleTs =
      (Chansey.Paper.gate session g event).lastShown := by
    rw [sessionStep_lastProcessedCandleTs, h.remembered]
    rfl
  by_cases hruns : strategyRuns session g.state event = true
  · have hproc : (Chansey.Paper.gate session g event).processed =
        g.processed ++ event.shown.entries := if_pos hruns
    by_cases hsize : event.shown.size = 0
    · have hnone : event.shown.entries = [] := List.length_eq_zero_iff.mp hsize
      have hlast : (Chansey.Paper.gate session g event).lastShown = g.lastShown :=
        if_neg fun hboth => hboth.2 hsize
      rw [hnone, List.append_nil] at hproc
      refine ⟨hremembered, ?_, ?_, ?_, ?_⟩ <;> rw [hproc]
      · exact hlast ▸ h.start
      · exact hlast ▸ h.kept
      · exact hshown
      · exact hlast ▸ h.latest
    · have hlast : (Chansey.Paper.gate session g event).lastShown = some event.shown :=
        if_pos ⟨hruns, hsize⟩
      refine ⟨hremembered, fun hnone => ?_, ?_, ?_, ?_⟩ <;> rw [hproc]
      · rw [hlast] at hnone
        cases hnone
      · intro last symbol u hsome hget
        cases (hlast.symm.trans hsome)
        exact List.mem_append_right _ (OrdMap.get?_eq_some_iff.mp hget)
      · intro symbol v hv
        rcases List.mem_append.mp hv with hv | hv
        · exact hshown symbol v hv
        · exact ⟨event, List.mem_append_right _ (List.mem_singleton_self event),
            OrdMap.get?_eq_some_iff.mpr hv⟩
      · intro last symbol u v hsome hget hv
        cases (hlast.symm.trans hsome)
        rcases List.mem_append.mp hv with hv | hv
        · obtain ⟨e, he, hold⟩ := h.shown symbol v hv
          exact hadv.le he hold hget
        · rw [OrdMap.get?_eq_some_iff.mpr hv] at hget
          exact (Option.some.inj hget).le
  · have hproc : (Chansey.Paper.gate session g event).processed = g.processed := if_neg hruns
    have hlast : (Chansey.Paper.gate session g event).lastShown = g.lastShown :=
      if_neg fun hboth => hruns hboth.1
    refine ⟨hremembered, ?_, ?_, ?_, ?_⟩ <;> rw [hproc]
    · exact hlast ▸ h.start
    · exact hlast ▸ h.kept
    · exact hshown
    · exact hlast ▸ h.latest

theorem gated_run (hadv : CandlesAdvance events) :
    Gated events (gateRun session quote events) := by
  induction events using List.reverseRecOn with
  | nil =>
    refine ⟨rfl, fun _ => rfl, ?_, ?_, ?_⟩
    · rintro last symbol u h
      cases h
    · rintro symbol v h
      cases h
    · rintro last symbol u v h
      cases h
  | append_singleton events event ih =>
    rw [gateRun, List.foldl_append]
    exact (ih hadv.prefix).gate hadv

theorem gatedStep (h : Gated events g) (hadv : CandlesAdvance (events ++ [event])) :
    GatedStep session g event := by
  have hiff := @strategyRuns_iff session g.state event
  rw [h.remembered, hasAnySymbolAdvanced_iff] at hiff
  refine ⟨fun hmkt hnew => ?_, fun symbol t ht => ?_, fun hruns hsize hview => ?_,
    fun hmkt hsize => ?_, fun hmkt => ?_⟩
  · obtain ⟨symbol, t, ht, hnewer⟩ := hnew
    refine hiff.mpr ⟨hmkt, Or.inr ?_⟩
    cases hlast : g.lastShown with
    | none => exact .inl rfl
    | some last =>
      exact .inr ⟨last, symbol, t, rfl, ht, fun u hu => hnewer u (h.kept last symbol u hlast hu)⟩
  · by_cases hruns : strategyRuns session g.state event = true
    · have hproc : (Chansey.Paper.gate session g event).processed =
          g.processed ++ event.shown.entries := if_pos hruns
      rw [hproc]
      exact List.mem_append_right _ (OrdMap.get?_eq_some_iff.mp ht)
    · have hproc : (Chansey.Paper.gate session g event).processed = g.processed := if_neg hruns
      have hstale := fun hnew => hruns (hiff.mpr ⟨market_of_shown ht, Or.inr (Or.inr hnew)⟩)
      rw [hproc]
      cases hlast : g.lastShown with
      | none => exact absurd (hiff.mpr ⟨market_of_shown ht, Or.inr (Or.inl hlast)⟩) hruns
      | some last =>
        -- the candle that is remembered of the symbol is the one that is shown
        by_contra hmiss
        refine hstale ⟨last, symbol, t, hlast, ht, fun u hu => ?_⟩
        have hu' := h.kept last symbol u hlast hu
        obtain ⟨e, he, hold⟩ := h.shown symbol u hu'
        refine lt_of_le_of_ne (hadv.le he hold ht) fun heq => hmiss (heq ▸ hu')
  · obtain ⟨-, hempty | hnone | ⟨last, symbol, t, hlast, ht, hnewer⟩⟩ := hiff.mp hruns
    · exact absurd hempty hsize
    · obtain ⟨entry, hentry⟩ := List.exists_mem_of_length_pos (Nat.pos_of_ne_zero hsize)
      refine ⟨entry.1, entry.2, OrdMap.get?_eq_some_iff.mpr hentry, fun u hu => ?_⟩
      rw [h.start hnone] at hu
      cases hu
    · refine ⟨symbol, t, ht, fun v hv => ?_⟩
      obtain ⟨_, u, hlast', hu⟩ := hview symbol t v ht hv
      cases (hlast.symm.trans hlast')
      exact (h.latest last symbol u v hlast hu hv).trans_lt (hnewer u hu)
  · have hruns := hiff.mpr ⟨hmkt, Or.inl hsize⟩
    refine ⟨hruns, ?_⟩
    have hnone : event.shown.entries = [] := List.length_eq_zero_iff.mp hsize
    have hproc : (Chansey.Paper.gate session g event).processed =
        g.processed ++ event.shown.entries := if_pos hruns
    rw [hproc, hnone, List.append_nil]
  · refine Bool.eq_false_iff.mpr fun hruns => ?_
    have hsome := (hiff.mp hruns).1
    rw [hmkt] at hsome
    cases hsome

/-- **After any run, a step that shows a new candle runs the strategy, and leaves no candle that it
shows unprocessed; while symbols stay in view, it runs for new candles only.** -/
theorem gatedStep_run (session : PaperTradingSession) (quote : String)
    (hadvance : CandlesAdvance (events ++ [event])) :
    GatedStep session (gateRun session quote events) event :=
  gatedStep (gated_run hadvance.prefix) hadvance

end Runs

/-! ## Ticks of an hour -/

def candleWorld (t : Instant) : World :=
  { signalWorld t .buy with
    market := .ok { bitcoinMarket with
      historicalCandles := OrdMap.empty.set "BTC/USDT" [⟨100, 100, 100, t⟩] } }

/-- A candle is shown, none is, the same one is, and the process restarts. -/
def hourEvents : List PaperEvent :=
  [.tick (candleWorld 0), .tick (signalWorld 1000 .sell), .retryTick (candleWorld 0), .restart]

theorem shown_candleWorld (t : Instant) (symbol : String) :
    (PaperEvent.tick (candleWorld t)).shown.get? symbol =
      if "BTC/USDT" = symbol then some t else none := OrdMap.get?_set ..

theorem shown_hourEvents (symbol : String) :
    hourEvents.filterMap (·.shown.get? symbol) = if "BTC/USDT" = symbol then [0, 0] else [] := by
  have hshown := shown_candleWorld 0 symbol
  by_cases h : "BTC/USDT" = symbol
  · subst h
    decide
  · rw [if_neg h] at hshown ⊢
    rw [List.filterMap_eq_nil_iff]
    simp only [hourEvents, List.forall_mem_cons]
    exact ⟨hshown, rfl, hshown, rfl, by simp⟩

theorem gatedStep_run_nextHour :
    let event := PaperEvent.tick (candleWorld HOUR_MS)
    let g := gateRun sideSession "USDT" hourEvents
    strategyRuns sideSession g.state event = true ∧
      ("BTC/USDT", HOUR_MS) ∈ (gate sideSession g event).processed := by
  intro event g
  have hadvance : CandlesAdvance (hourEvents ++ [event]) := fun symbol => by
    rw [List.filterMap_append, shown_hourEvents, List.filterMap_cons, List.filterMap_nil,
      shown_candleWorld]
    split <;> decide
  have hstep : GatedStep sideSession g event := gatedStep_run sideSession "USDT" hadvance
  refine ⟨hstep.runs rfl ⟨"BTC/USDT", HOUR_MS, by decide, fun u hu => ?_⟩,
    hstep.processes "BTC/USDT" HOUR_MS (by decide)⟩
  obtain ⟨e, he, hshown⟩ := (gated_run hadvance.prefix).shown _ u hu
  have hmem : u ∈ hourEvents.filterMap (·.shown.get? "BTC/USDT") :=
    List.mem_filterMap.mpr ⟨e, he, hshown⟩
  rw [shown_hourEvents, if_pos rfl] at hmem
  obtain rfl : u = 0 := by simpa using hmem
  decide

/-- **A tick without candles runs the strategy**, though no symbol shows a new one. -/
theorem candleless_tick_runs :
    ¬∀ (session : PaperTradingSession) (quote : String) (events : List PaperEvent)
        (event : PaperEvent), CandlesAdvance (events ++ [event]) →
      (strategyRuns session (gateRun session quote events).state event = true ↔
        ShowsNew (gateRun session quote events) event) := by
  intro hclaim
  have hshown : (PaperEvent.tick (signalWorld 0 .buy)).shown = OrdMap.empty := rfl
  have hadvance : CandlesAdvance ([] ++ [.tick (signalWorld 0 .buy)]) := fun symbol => by
    rw [List.nil_append, List.filterMap_cons, List.filterMap_nil, hshown]
    exact List.Pairwise.nil
  have hruns : strategyRuns sideSession (gateRun sideSession "USDT" []).state
      (.tick (signalWorld 0 .buy)) = true := strategyRuns_iff.mpr ⟨rfl, Or.inl rfl⟩
  obtain ⟨_, t, ht, -⟩ := (hclaim _ _ _ _ hadvance).mp hruns
  rw [hshown] at ht
  cases ht

end Chansey.Paper
