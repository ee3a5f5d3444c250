import Chansey.Exit.Range
import Chansey.Paper.SignalSide

/-!
# The exit tracker agrees with the paper balances

A run of a session: ticks, retried ticks and restarts. The tracker is kept in memory and stored by
the ticks that are processed; the exits of a tick see the last candle of each coin, which may have
begun before the position was entered.
-/

namespace Chansey.Paper

open Run

/-! ## Old candles -/

section OldCandles

variable (accounts : Accounts) (market : Market) (tracker : BacktestExitTracker)

def enteredAt (coin : String) : Option Instant := (accounts.get? coin).bind (·.entryDate)

/-- A candle that began before the position of its coin was entered. -/
def isOld (symbol : String) (candle : CandleData) : Bool :=
  (enteredAt accounts (baseCurrency symbol)).any (candle.date < ·)

/-- The last candles that are not older than the position of their coin. -/
def currentMarket : Market :=
  { market with
    historicalCandles := market.historicalCandles.map fun symbol candles =>
      (candles.getLast?.filter fun candle => !isOld accounts symbol candle).toList }

/-- With and without the old candles, the same levels of the tracked positions are reached. -/
def SeesCurrentPrices : Prop :=
  let prices := checkPrices market
  let current := checkPrices (currentMarket accounts market)
  tracker.SameBars prices.closePrices prices.lowPrices prices.highPrices
    current.lowPrices current.highPrices

structure CurrentExits : Prop where
  exits : (checkSignals market tracker).2.map ExitSignal.trigger =
    (checkSignals (currentMarket accounts market) tracker).2.map ExitSignal.trigger
  levels : ∀ coin, (checkSignals market tracker).1.positions.get? coin =
    (checkSignals (currentMarket accounts market) tracker).1.positions.get? coin

variable {accounts market tracker}

theorem closePrices_foldl (candles candles' : OrdMap String (List CandleData))
    (entries : List (String × ℚ)) {prices prices' : CheckPrices}
    (h : prices.closePrices = prices'.closePrices) :
    (entries.foldl (addPrice candles) prices).closePrices =
      (entries.foldl (addPrice candles') prices').closePrices := by
  induction entries generalizing prices prices' with
  | nil => exact h
  | cons entry entries ih => exact ih (congrArg (·.set (baseCurrency entry.1) entry.2) h)

theorem closePrices_currentMarket :
    (checkPrices (currentMarket accounts market)).closePrices = (checkPrices market).closePrices :=
  closePrices_foldl _ _ _ rfl

theorem SeesCurrentPrices.currentExits (h : SeesCurrentPrices accounts market tracker) :
    CurrentExits accounts market tracker := by
  obtain ⟨hlevs, hexits⟩ := BacktestExitTracker.checkExits_alike 0 h
  have hcur : checkSignals (currentMarket accounts market) tracker =
      ({ (tracker.checkExits (checkPrices market).closePrices
            (checkPrices (currentMarket accounts market)).lowPrices
            (checkPrices (currentMarket accounts market)).highPrices 0).1 with
          exitCooldowns := tracker.exitCooldowns },
        (tracker.checkExits (checkPrices market).closePrices
          (checkPrices (currentMarket accounts market)).lowPrices
          (checkPrices (currentMarket accounts market)).highPrices 0).2) := by
    rw [← closePrices_currentMarket]
    rfl
  refine ⟨?_, fun coin => ?_⟩
  · rw [hcur]
    exact hexits
  · rw [hcur]
    exact hlevs coin

end OldCandles

/-! ## What a tick keeps -/

def WasBought (state : EngineState) (coin : String) : Prop :=
  ∃ m ∈ state.orders, m.2.side = .buy ∧ m.2.baseCurrency = coin

def OpenedByBuys (quoteCurrency : String) (state : EngineState) : Prop :=
  ∀ coin, WasBought state coin ↔ coin ≠ quoteCurrency ∧ (state.accounts.get? coin).isSome

/-- The books of a tick: sound accounts, opened by buys, with the tracker in agreement. -/
structure InAgreement (session : PaperTradingSession) (quoteCurrency : String)
    (state : EngineState) : Prop where
  sound : SoundAccounts state.accounts
  opened : OpenedByBuys quoteCurrency state
  tracks : ∀ tracker, state.exitTracker = some tracker → Tracks quoteCurrency state.accounts tracker
  created : session.exitConfig.isSome → state.exitTracker.isSome

section Tick

variable {session : PaperTradingSession} {quoteCurrency : String} {world : World}
  {market : Market} {allocation : AllocationLimits}

variable {before after : EngineState} {orders : List (TradingSignal × PaperTradingOrder)}

theorem wasBought_append (h : after.orders = before.orders ++ orders) (coin : String) :
    WasBought after coin ↔ WasBought before coin ∨
      ∃ m ∈ orders, m.2.side = .buy ∧ m.2.baseCurrency = coin := by
  simp only [WasBought, h, List.mem_append, or_and_right, exists_or]

theorem OpenedByBuys.next (h : OpenedByBuys quoteCurrency before)
    (hords : after.orders = before.orders ++ orders)
    (hopened : ∀ coin, (after.accounts.get? coin).isSome ↔ (before.accounts.get? coin).isSome ∨
      ∃ m ∈ orders, m.2.side = .buy ∧ m.2.baseCurrency = coin)
    (hquote : ∀ m ∈ orders, m.2.side = .buy → m.2.baseCurrency ≠ quoteCurrency) :
    OpenedByBuys quoteCurrency after := by
  intro coin
  rw [wasBought_append hords, h coin, hopened coin, and_or_left]
  refine or_congr_right ⟨fun hbght => ⟨?_, hbght⟩, And.right⟩
  obtain ⟨m, hm, hside, rfl⟩ := hbght
  exact hquote m hm hside

theorem InAgreement.congr (h : InAgreement session quoteCurrency before)
    (hbooks : SameBooks before after) : InAgreement session quoteCurrency after := by
  refine ⟨hbooks.accounts ▸ h.sound, fun coin => ?_, ?_, ?_⟩
  · rw [WasBought, hbooks.orders, hbooks.accounts]
    exact h.opened coin
  · rw [hbooks.exitTracker, hbooks.accounts]
    exact h.tracks
  · rw [hbooks.exitTracker]
    exact h.created

theorem InAgreement.processSignal {loop : LoopState} {signal : TradingSignal}
    (h : InAgreement session quoteCurrency loop.state) (hquote : quoteCurrency ∉ loop.heldCoins)
    (hfol : SignalFollows session quoteCurrency world market allocation loop signal) :
    let next := processSignal session quoteCurrency world market allocation loop signal
    InAgreement session quoteCurrency next.state ∧ quoteCurrency ∉ next.heldCoins := by
  intro next
  rcases processSignal_cases h.sound hfol with ⟨p, hfill⟩ | ⟨hbooks, hheld⟩
  · have hfollowed := (hfol hfill.takenUp).1
    obtain ⟨atr, htold⟩ := hfill.exitTracker
    have hnotQuote : p.order.side = .buy → p.order.baseCurrency ≠ quoteCurrency := by
      intro hside
      by_cases hbuy : signal.action = .buy
      · rw [hfill.filled.base]
        exact (hfollowed.of_buy hfill.goes hbuy).1
      · rw [hfill.filled.side_sell hbuy] at hside
        cases hside
    refine ⟨⟨hfill.filled.sound, ?_, fun tracker htr => ?_, fun hcfg => ?_⟩, ?_⟩
    · refine h.opened.next hfill.orders (fun coin => ?_) (by simpa using hnotQuote)
      simpa using hfill.filled.opened coin
    · obtain ⟨tracker', htr', rfl⟩ := Option.map_eq_some_iff.mp (htold.symm.trans htr)
      exact hfill.tracks h.sound hquote hfollowed (h.tracks tracker' htr') atr
    · rw [htold, Option.isSome_map]
      exact h.created hcfg
    · rw [hfill.heldCoins]
      by_cases hbuy : signal.action = .buy
      · rw [heldAfter_buy hbuy, Finset.mem_insert, not_or]
        exact ⟨(hfollowed.of_buy hfill.goes hbuy).1.symm, hquote⟩
      · by_cases hsell : signal.action = .sell
        · rw [heldAfter_sell hsell]
          exact fun hmem => hquote (Finset.mem_of_mem_erase hmem)
        · rwa [heldAfter_other hbuy hsell]
  · rw [show next.heldCoins = loop.heldCoins from hheld]
    exact ⟨h.congr hbooks, hquote⟩

/-- What holds between ticks. The tracker is in memory, or restored by the next tick. -/
structure Settled (session : PaperTradingSession) (quoteCurrency : String)
    (state : EngineState) : Prop where
  sound : SoundAccounts state.accounts
  opened : OpenedByBuys quoteCurrency state
  tracks : TracksMemory session quoteCurrency state

structure TickFollows (session : PaperTradingSession) (quoteCurrency : String) (world : World)
    (market : Market) (state : EngineState) : Prop where
  quote : getQuoteCurrency state.accounts.keys = quoteCurrency
  signals : SignalsMeet session world market state
    (SignalFollows session quoteCurrency world market)
  prices : ∀ tracker, (getOrCreate session state).exitTracker = some tracker →
    SeesCurrentPrices state.accounts market tracker

variable {state : EngineState}

theorem exitTracker_getOrCreate (session : PaperTradingSession) (state : EngineState) :
    (getOrCreate session state).exitTracker =
      state.exitTracker.or (session.exitConfig.map fun exitConfig =>
        state.exitTrackerState.elim { config := resolveExitConfig [exitConfig] } fun stored =>
          BacktestExitTracker.deserialize stored (resolveExitConfig [exitConfig])) := by
  unfold getOrCreate
  cases session.exitConfig <;> cases htr : state.exitTracker <;>
    cases state.exitTrackerState <;> simp [htr]

theorem getOrCreate_isSome (hcfg : session.exitConfig.isSome) :
    (getOrCreate session state).exitTracker.isSome := by
  rw [exitTracker_getOrCreate, Option.isSome_or, Option.isSome_map, hcfg, Bool.or_true]

theorem InAgreement.of_exits (h : Settled session quoteCurrency state)
    (hquote : getQuoteCurrency state.accounts.keys = quoteCurrency) :
    InAgreement session quoteCurrency (exitedState session world market state) := by
  subst hquote
  obtain ⟨hsound, htrks, hsome, _, hmoves, hsells⟩ :=
    @exits_sell session world market state h.sound h.tracks
  refine ⟨hsound, h.opened.next hmoves.orders (fun coin => ?_) fun m hm hside => ?_, htrks,
    fun hcfg => hsome ▸ getOrCreate_isSome hcfg⟩
  · rw [hmoves.opened coin]
    simp
  · obtain ⟨move, hmove, rfl⟩ := List.mem_map.mp hm
    rw [hmoves.side move hmove, orderSide, if_neg (by simp [(hsells move hmove).1])] at hside
    cases hside

theorem runTick_agrees (h : Settled session quoteCurrency state)
    (hfol : TickFollows session quoteCurrency world market state) :
    InAgreement session quoteCurrency (runTick session world market state).2 := by
  obtain ⟨rfl, hsigs, -⟩ := hfol
  have hloop := tickLoop_invariant
    (fun loop => InAgreement session (getQuoteCurrency state.accounts.keys) loop.state ∧
      getQuoteCurrency state.accounts.keys ∉ loop.heldCoins)
    (fun throttled hbooks => ⟨?_, ?_⟩)
    (fun allocation loop signal hkept => hkept.1.processSignal hkept.2) hsigs
  · exact hloop.1.congr runTick_books
  · exact (InAgreement.of_exits h rfl).congr hbooks
  · exact fun hmem => (mem_heldCoinsOf.mp hmem).1 rfl

end Tick

/-! ## Between ticks -/

section Steps

variable {session : PaperTradingSession} {quoteCurrency : String} {state next : EngineState}

theorem getOrCreate_of_created (h : session.exitConfig.isSome → state.exitTracker.isSome) :
    (getOrCreate session state).exitTracker = state.exitTracker := by
  rw [exitTracker_getOrCreate]
  cases hkept : state.exitTracker with
  | some => rw [Option.some_or]
  | none =>
    cases hcfg : session.exitConfig with
    | some =>
      rw [hkept, hcfg] at h
      cases h rfl
    | none => rfl

theorem InAgreement.settled (h : InAgreement session quoteCurrency state)
    (hbooks : SameBooks state next) : Settled session quoteCurrency next := by
  obtain ⟨hsound, hopened, htrks, hcre⟩ := h.congr hbooks
  refine ⟨hsound, hopened, fun tracker htr => ?_⟩
  rw [getOrCreate_of_created hcre] at htr
  exact htrks tracker htr

theorem getOrCreate_restore (state : EngineState) :
    (getOrCreate session (restoreThrottleStateIfNeeded state)).exitTracker =
      (getOrCreate session state).exitTracker := by
  rw [exitTracker_getOrCreate, exitTracker_getOrCreate]
  rfl

theorem Settled.restore (h : Settled session quoteCurrency state) :
    Settled session quoteCurrency (restoreThrottleStateIfNeeded state) := by
  refine ⟨h.sound, h.opened, fun tracker htr => ?_⟩
  rw [getOrCreate_restore] at htr
  exact h.tracks tracker htr

def Restorable (session : PaperTradingSession) (state : EngineState) : Prop :=
  ∀ tracker restored, state.exitTracker = some tracker →
    (getOrCreate session (restart state)).exitTracker = some restored →
      ∀ coin, restored.quantity? coin = tracker.quantity? coin

theorem Restorable.restored (h : Restorable session state) {restored : BacktestExitTracker}
    (hrest : (getOrCreate session (restart state)).exitTracker = some restored) :
    ∃ tracker, (getOrCreate session state).exitTracker = some tracker ∧
      ∀ coin, restored.quantity? coin = tracker.quantity? coin := by
  cases hkept : state.exitTracker with
  | some tracker =>
    refine ⟨tracker, ?_, h tracker restored hkept hrest⟩
    rw [exitTracker_getOrCreate, hkept, Option.some_or]
  | none =>
    refine ⟨restored, ?_, fun coin => rfl⟩
    rw [exitTracker_getOrCreate] at hrest ⊢
    rw [hkept]
    exact hrest

theorem Settled.restart (h : Settled session quoteCurrency state)
    (hstd : Restorable session state) : Settled session quoteCurrency (restart state) := by
  refine ⟨h.sound, h.opened, fun restored hrest coin => ?_⟩
  obtain ⟨tracker, htr, hsame⟩ := hstd.restored hrest
  exact (hsame coin).trans (h.tracks tracker htr coin)

theorem restorable_handleTick {world : World}
    (h : (processTick session world (restoreThrottleStateIfNeeded state)).1.processed = true) :
    Restorable session (handleTick session world state) := by
  intro tracker restored htr hrest coin
  unfold handleTick at htr hrest
  generalize processTick session world (restoreThrottleStateIfNeeded state) = ticked at *
  obtain ⟨_, after⟩ := ticked
  dsimp only at h htr hrest
  rw [if_pos h] at htr hrest
  have hafter : after.exitTracker = some tracker := htr
  simp only [exitTracker_getOrCreate, Paper.restart, applySuccessfulTickResult, hafter,
    Option.map_some, Option.some_or, Option.none_or, Option.elim_some] at hrest
  obtain ⟨_, -, rfl⟩ := Option.map_eq_some_iff.mp hrest
  simp [BacktestExitTracker.quantity?, BacktestExitTracker.deserialize,
    BacktestExitTracker.serialize, OrdMap.ofEntries_entries]

end Steps

/-! ## A session that never trades -/

structure Idle (session : PaperTradingSession) (accounts : Accounts) (state : EngineState) :
    Prop where
  accounts : state.accounts = accounts
  orders : state.orders = []
  tracked : ∀ tracker, (getOrCreate session state).exitTracker = some tracker →
    ∀ coin, tracker.quantity? coin = none

section Idle

variable {session : PaperTradingSession} {world : World} {market : Market} {state : EngineState}
  {accounts : Accounts}

theorem checkSignals_nil {tracker : BacktestExitTracker}
    (h : ∀ coin, tracker.quantity? coin = none) :
    (checkSignals market tracker).2 = [] ∧
      ∀ coin, (checkSignals market tracker).1.quantity? coin = none := by
  obtain ⟨hsame, -, hall⟩ := tracker.checkExits_spec (checkPrices market).closePrices
    (checkPrices market).lowPrices (checkPrices market).highPrices 0
  refine ⟨List.eq_nil_iff_forall_not_mem.mpr fun exit hexit => ?_, fun coin => ?_⟩
  · have hqty := hall exit hexit
    rw [h exit.coinId] at hqty
    cases hqty
  · exact (hsame coin).trans (h coin)

theorem Idle.exited (h : Idle session accounts state) :
    let exited := exitedState session world market state
    exited.accounts = accounts ∧ exited.orders = [] ∧
      exited.exitTracker.isSome = (getOrCreate session state).exitTracker.isSome ∧
      ∀ tracker, exited.exitTracker = some tracker → ∀ coin, tracker.quantity? coin = none := by
  intro exited
  obtain ⟨haccs, hords⟩ := getOrCreate_books session state
  unfold exited exitedState checkAndExecute
  cases htr : (getOrCreate session state).exitTracker with
  | none =>
    refine ⟨haccs.trans h.accounts, hords.trans h.orders, by rw [htr], ?_⟩
    intro tracker hsome
    rw [htr] at hsome
    cases hsome
  | some tracker =>
    obtain ⟨hnone, hempty⟩ := @checkSignals_nil market tracker (h.tracked tracker htr)
    dsimp only
    rw [hnone, List.foldl_nil]
    refine ⟨haccs.trans h.accounts, hords.trans h.orders, rfl, fun checked hchk => ?_⟩
    cases hchk
    exact hempty

theorem processSignal_noQuote {quoteCurrency : String} {allocation : AllocationLimits}
    {loop : LoopState} (h : loop.state.accounts.get? quoteCurrency = none)
    (signal : TradingSignal) :
    SameBooks loop.state
      (processSignal session quoteCurrency world market allocation loop signal).state := by
  refine (processSignal_refused fun _ => tradeSignal_refused ?_ fun _ => ?_).1
  · rintro ⟨-, _, -, hquote, -⟩
    rw [h] at hquote
    cases hquote
  · rintro ⟨-, _, -, hquote, -⟩
    rw [h] at hquote
    cases hquote

theorem Idle.runTick (h : Idle session accounts state)
    (hnone : accounts.get? (getQuoteCurrency accounts.keys) = none) {next : EngineState}
    {P : AllocationLimits → LoopState → TradingSignal → Prop}
    (hsigs : SignalsMeet session world market state P)
    (hbooks : SameBooks (runTick session world market state).2 next) :
    Idle session accounts next := by
  obtain ⟨haccs, hords, hsome, htrd⟩ := @Idle.exited session world market state accounts h
  have hloop := tickLoop_invariant
    (fun loop => SameBooks (exitedState session world market state) loop.state)
    (fun throttled hsame => hsame)
    (fun allocation loop signal hsame _ => hsame.trans (processSignal_noQuote ?_ signal)) hsigs
  · have hafter := hloop.trans (runTick_books.trans hbooks)
    refine ⟨hafter.accounts.trans haccs, hafter.orders.trans hords, fun tracker htr => ?_⟩
    rw [getOrCreate_of_created fun hcfg => ?_, hafter.exitTracker] at htr
    · exact htrd tracker htr
    · rw [hafter.exitTracker, hsome]
      exact getOrCreate_isSome hcfg
  · rw [hsame.accounts, haccs, h.accounts]
    exact hnone

end Idle

/-! ## Runs -/

def PaperEvent.Ticks (event : PaperEvent) (world : World) (market : Market) : Prop :=
  (event = .tick world ∨ event = .retryTick world) ∧ world.market = .ok market

section Runs

variable {session : PaperTradingSession} {quoteCurrency : String} {state : EngineState}

theorem sessionStep_cases (session : PaperTradingSession) (state : EngineState)
    (event : PaperEvent) :
    (∃ world market, event.Ticks world market ∧
      SameBooks (runTick session world market (restoreThrottleStateIfNeeded state)).2
        (sessionStep session state event)) ∨
    sessionStep session state event = restoreThrottleStateIfNeeded state ∨
    (event = .restart ∧ sessionStep session state event = restart state) := by
  cases event with
  | restart => exact .inr (Or.inr ⟨rfl, rfl⟩)
  | tick world =>
    cases hmkt : world.market with
    | error =>
      refine .inr (Or.inl ?_)
      simp [sessionStep, handleTick, processTick, hmkt]
    | ok market =>
      refine .inl ⟨world, market, ⟨Or.inl rfl, hmkt⟩, ?_⟩
      simp only [sessionStep, handleTick, processTick, hmkt]
      split_ifs <;> exact ⟨rfl, rfl, rfl⟩
  | retryTick world =>
    cases hmkt : world.market with
    | error =>
      refine .inr (Or.inl ?_)
      simp [sessionStep, handleRetryTick, processTick, hmkt]
    | ok market =>
      refine .inl ⟨world, market, ⟨Or.inr rfl, hmkt⟩, ?_⟩
      simp only [sessionStep, handleRetryTick, processTick, hmkt]
      split_ifs <;> exact ⟨rfl, rfl, rfl⟩

/-- A step that the tracker can follow: a tick as above, or a restart that restores what was in
memory. -/
structure StepFollows (session : PaperTradingSession) (quoteCurrency : String)
    (state : EngineState) (event : PaperEvent) : Prop where
  tick : ∀ world market, event.Ticks world market →
    TickFollows session quoteCurrency world market (restoreThrottleStateIfNeeded state)
  restart : event = .restart → Restorable session state

def TrackerAgrees (session : PaperTradingSession) (state : EngineState) : Prop :=
  ∀ tracker, (getOrCreate session state).exitTracker = some tracker → ∀ coin quantity,
    tracker.quantity? coin = some quantity ↔
      0 < balance state.accounts coin ∧ WasBought state coin ∧
        quantity = balance state.accounts coin

/-- The tracker agrees after the step, and its exits are those of the current prices. -/
structure StepAgrees (session : PaperTradingSession) (state : EngineState) (event : PaperEvent) :
    Prop where
  tracker : TrackerAgrees session (sessionStep session state event)
  exits : ∀ world market, event.Ticks world market →
    ∀ tracker, (getOrCreate session state).exitTracker = some tracker →
      CurrentExits state.accounts market tracker

theorem Settled.agrees (h : Settled session quoteCurrency state) : TrackerAgrees session state := by
  intro tracker htr coin quantity
  rw [h.tracks tracker htr coin, h.opened coin]
  constructor
  · intro htrd
    split_ifs at htrd with hheld
    obtain ⟨hne, hpos⟩ := hheld
    refine ⟨hpos, ⟨hne, ?_⟩, (Option.some.inj htrd).symm⟩
    by_contra hnone
    rw [Option.not_isSome_iff_eq_none] at hnone
    rw [balance, hnone, Option.elim_none] at hpos
    exact lt_irrefl _ hpos
  · rintro ⟨hpos, ⟨hne, -⟩, rfl⟩
    rw [if_pos ⟨hne, hpos⟩]

variable {event : PaperEvent} {accounts : Accounts}

theorem settled_step (h : Settled session quoteCurrency state)
    (hfol : StepFollows session quoteCurrency state event) :
    Settled session quoteCurrency (sessionStep session state event) := by
  rcases sessionStep_cases session state event with
    ⟨world, market, hticks, hbooks⟩ | hsame | ⟨hrestart, heq⟩
  · exact (runTick_agrees h.restore (hfol.tick world market hticks)).settled hbooks
  · rw [hsame]
    exact h.restore
  · rw [heq]
    exact h.restart (hfol.restart hrestart)

theorem Idle.agrees (h : Idle session accounts state) : TrackerAgrees session state := by
  intro tracker htr coin quantity
  refine iff_of_false ?_ ?_
  · rw [h.tracked tracker htr coin]
    exact nofun
  · rintro ⟨-, ⟨m, hm, -⟩, -⟩
    rw [h.orders] at hm
    cases hm

theorem Idle.restore (h : Idle session accounts state) :
    Idle session accounts (restoreThrottleStateIfNeeded state) := by
  refine ⟨h.accounts, h.orders, fun tracker htr => ?_⟩
  rw [getOrCreate_restore] at htr
  exact h.tracked tracker htr

theorem idle_step (h : Idle session accounts state)
    (hnone : accounts.get? (getQuoteCurrency accounts.keys) = none)
    (hfol : StepFollows session quoteCurrency state event) :
    Idle session accounts (sessionStep session state event) := by
  rcases sessionStep_cases session state event with
    ⟨world, market, hticks, hbooks⟩ | hsame | ⟨hrestart, heq⟩
  · exact h.restore.runTick hnone (hfol.tick world market hticks).signals hbooks
  · rw [hsame]
    exact h.restore
  · rw [heq]
    refine ⟨h.accounts, h.orders, fun restored hrest coin => ?_⟩
    obtain ⟨tracker, htr, hsame⟩ := (hfol.restart hrestart).restored hrest
    exact (hsame coin).trans (h.tracked tracker htr coin)

theorem StepFollows.agrees (h : StepFollows session quoteCurrency state event)
    (hnext : TrackerAgrees session (sessionStep session state event)) :
    StepAgrees session state event := by
  refine ⟨hnext, fun world market hticks tracker htr => ?_⟩
  refine ((h.tick world market hticks).prices tracker ?_).currentExits
  rw [getOrCreate_restore]
  exact htr

theorem keys_openSession (session : PaperTradingSession) (quoteCurrency : String) :
    (openSession session quoteCurrency).accounts.keys = [quoteCurrency] := rfl

theorem quoteCurrency_listed (h : quoteCurrency ∈ QUOTE_CURRENCY_PRIORITY) :
    getQuoteCurrency [quoteCurrency] = quoteCurrency := by
  obtain ⟨found, hfound⟩ : ∃ found, QUOTE_CURRENCY_PRIORITY.find? (· ∈ [quoteCurrency]) =
      some found := Option.isSome_iff_exists.mp (by simpa using h)
  have hsame := List.find?_some hfound
  rw [getQuoteCurrency, hfound]
  simpa using hsame

theorem settled_open (session : PaperTradingSession) (h : quoteCurrency ∈ QUOTE_CURRENCY_PRIORITY) :
    Settled session quoteCurrency (openSession session quoteCurrency) := by
  have hcurrency : ∀ currency ∈ QUOTE_CURRENCY_PRIORITY, IsCurrency currency := by
    simp [QUOTE_CURRENCY_PRIORITY, IsCurrency]
  refine ⟨soundAccounts_open session (hcurrency quoteCurrency h), fun coin => ?_,
    tracksMemory_open session quoteCurrency⟩
  refine iff_of_false ?_ ?_
  · rintro ⟨m, hm, -⟩
    cases hm
  · rintro ⟨hne, hsome⟩
    rw [openSession, OrdMap.get?_set_of_ne _ _ hne.symm] at hsome
    cases hsome

theorem idle_open (session : PaperTradingSession) (quoteCurrency : String) :
    Idle session (openSession session quoteCurrency).accounts
      (openSession session quoteCurrency) := by
  refine ⟨rfl, rfl, fun tracker htr coin => ?_⟩
  rw [exitTracker_getOrCreate] at htr
  obtain ⟨_, -, rfl⟩ := Option.map_eq_some_iff.mp htr
  rfl

theorem noQuote_open (session : PaperTradingSession) (h : quoteCurrency ∉ QUOTE_CURRENCY_PRIORITY) :
    (openSession session quoteCurrency).accounts.get? (getQuoteCurrency [quoteCurrency]) =
      none := by
  have hnone : QUOTE_CURRENCY_PRIORITY.find? (· ∈ [quoteCurrency]) = none := by
    rw [List.find?_eq_none]
    intro listed hlst
    simpa using fun heq : listed = quoteCurrency => h (heq ▸ hlst)
  have hne : quoteCurrency ≠ "USD" := fun heq => h (by simp [heq, QUOTE_CURRENCY_PRIORITY])
  rw [getQuoteCurrency, hnone, Option.getD_none, openSession, OrdMap.get?_set_of_ne _ _ hne]
  rfl

/-- **The exit tracker agrees with the paper balances throughout a run** of steps that it can
follow, and no exit is due at prices from before its position was entered. -/
theorem tracker_agrees {events : List PaperEvent}
    (h : Throughout (sessionStep session) (StepFollows session (getQuoteCurrency [quoteCurrency]))
      (openSession session quoteCurrency) events) :
    Throughout (sessionStep session) (StepAgrees session) (openSession session quoteCurrency)
      events := by
  by_cases hlisted : quoteCurrency ∈ QUOTE_CURRENCY_PRIORITY
  · rw [quoteCurrency_listed hlisted] at h
    exact h.imp (Settled session quoteCurrency)
      (fun state event hsettled hfollows => hfollows.agrees (settled_step hsettled hfollows).agrees)
      (fun state event => settled_step) (settled_open session hlisted)
  · have hnone := noQuote_open session hlisted
    rw [← keys_openSession session quoteCurrency] at hnone
    exact h.imp (Idle session (openSession session quoteCurrency).accounts)
      (fun state event hidle hfollows => hfollows.agrees (idle_step hidle hnone hfollows).agrees)
      (fun state event hidle => idle_step hidle hnone) (idle_open session quoteCurrency)

end Runs

theorem tracker_agrees_restarted :
    Throughout (sessionStep sideSession) (StepAgrees sideSession) (openSession sideSession "USDT")
      [.tick (signalWorld 0 .buy), .restart] := by
  refine tracker_agrees
    ⟨⟨?_, nofun⟩, ⟨?_, fun _ => restorable_handleTick (by decide +kernel)⟩, trivial⟩
  · rintro world market ⟨hevent, hmarket⟩
    obtain rfl : signalWorld 0 .buy = world := by simpa using hevent
    obtain rfl : bitcoinMarket = market := Except.ok.inj hmarket
    refine ⟨by decide, bitcoinBuy_honourable.imp fun _ _ _ => And.left, ?_⟩
    -- nothing is tracked yet
    intro tracker htracker coin tracked hget
    have hnone := (idle_open sideSession "USDT").tracked tracker htracker coin
    rw [BacktestExitTracker.quantity?, hget] at hnone
    cases hnone
  · rintro world market ⟨hevent, -⟩
    rcases hevent with hevent | hevent <;> cases hevent

/-! ## A dip before the entry -/

def guardedSession : PaperTradingSession :=
  { roundTripSession with
    exitConfig := some { enableStopLoss := some true, stopLossValue := some 5 } }

def dippedMarket : Market :=
  { bitcoinMarket with
    historicalCandles :=
      OrdMap.empty.set "BTC/USDT" [{ avg := 100, high := 100, low := 50, date := 0 }] }

def dippedWorld (now : Instant) : World :=
  { signalWorld now .buy with market := .ok dippedMarket }

def boughtAfterDip : EngineState :=
  handleTick guardedSession (dippedWorld (HOUR_MS / 2)) (openSession guardedSession "USDT")

/-- **A low from before the entry triggers a stop-loss**: bitcoin is bought at 100 in the hour
whose candle has a low of 50, and the next tick, still at 100, finds its stop at 95 breached. -/
theorem old_candle_exits :
    ¬ Throughout (sessionStep guardedSession) (StepAgrees guardedSession)
      (openSession guardedSession "USDT")
      [.tick (dippedWorld (HOUR_MS / 2)), .tick (dippedWorld (3 * HOUR_MS / 4))] := by
  rintro ⟨-, hsecond, -⟩
  have hexits := fun tracker => hsecond.exits (dippedWorld (3 * HOUR_MS / 4)) dippedMarket
    ⟨Or.inl rfl, rfl⟩ tracker
  have hdiffers : (getOrCreate guardedSession boughtAfterDip).exitTracker.map (fun tracker =>
      decide ((checkSignals dippedMarket tracker).2.map ExitSignal.trigger =
        (checkSignals (currentMarket boughtAfterDip.accounts dippedMarket) tracker).2.map
          ExitSignal.trigger)) = some false := by
    decide +kernel
  obtain ⟨tracker, htracker, hfalse⟩ := Option.map_eq_some_iff.mp hdiffers
  exact of_decide_eq_false hfalse (hexits tracker htracker).exits

end Chansey.Paper
