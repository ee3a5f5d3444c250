import Chansey.Loop.OpportunitySell
import Chansey.Loop.Regime
import Chansey.Paper.Exits

/-!
# A tick of a paper session

Fetch the market, check the exits, run the strategy when a candle has advanced, filter its signals
and trade them one after another, then value the portfolio.
-/

namespace Chansey.Paper

section Tick

variable (session : PaperTradingSession) (quote : String) (world : World)
  (market : Market)

/-! ## Opportunity selling -/

def clampNum (val : Option ℚ) (fallback lo hi : ℚ) : ℚ := max lo (min hi (val.getD fallback))

def resolveOpportunitySellingConfig : Option OpportunitySellingUserConfig :=
  if session.algorithmConfig.get? "enableOpportunitySelling" = some (.bool true) then
    let defaults : OpportunitySellingUserConfig := {}
    match session.opportunitySellingConfig with
    | none => some defaults
    | some user => some
      { minOpportunityConfidence :=
          clampNum user.minOpportunityConfidence defaults.minOpportunityConfidence 0 1
        minHoldingPeriodHours :=
          clampNum user.minHoldingPeriodHours defaults.minHoldingPeriodHours 0 8760
        protectGainsAbovePercent :=
          clampNum user.protectGainsAbovePercent defaults.protectGainsAbovePercent 0 1000
        protectedCoins := user.protectedCoins.getD []
        maxLiquidationPercent :=
          clampNum user.maxLiquidationPercent defaults.maxLiquidationPercent 1 100
        useAlgorithmRanking := user.useAlgorithmRanking.getD defaults.useAlgorithmRanking }
  else none

def eligiblePositions (config : OpportunitySellingUserConfig) (buySignal : TradingSignal)
    (buyConfidence : ℚ) (accounts : Accounts) (portfolio : Portfolio) : List SellCandidate :=
  let eligible := portfolio.positions.entries.filterMap fun e =>
    if e.1 = buySignal.coinId ∨ e.1 ∈ config.protectedCoins then none
    else
      match (market.priceMap.get? (pairSymbol e.1 quote)).filter (0 < ·) with
      | none => none
      | some currentPrice =>
        let account := accounts.get? e.1
        let score := calculatePositionSellScore
          { e.2 with
            averagePrice := (account.bind (·.averageCost)).getD e.2.averagePrice
            entryDate := account.bind (·.entryDate) }
          currentPrice buyConfidence config world.now
        if score.eligible then some ⟨e.1, score.totalScore, e.2.quantity, currentPrice⟩ else none
  eligible.insertionSort fun a b => a.score ≤ b.score

structure OpportunityPlan where
  candidates : List SellCandidate
  shortfall : ℚ
  maxSellValue : ℚ
  portfolio : Portfolio
  buyConfidence : ℚ

def requiredAmount (buySignal : TradingSignal) (portfolio : Portfolio) (buyPrice : ℚ)
    (allocation : AllocationLimits) : ℚ :=
  match Js.truthy? buySignal.quantity, Js.truthy? buySignal.percentage, buySignal.confidence with
  | some quantity, _, _ => quantity * buyPrice
  | none, some percentage, _ => portfolio.totalValue * min percentage allocation.maxAllocation
  | none, none, some confidence =>
    portfolio.totalValue * (allocation.minAllocation +
      confidence * (allocation.maxAllocation - allocation.minAllocation))
  | none, none, none => portfolio.totalValue * allocation.minAllocation

/-- None when there is nothing to do. -/
def opportunityPlan (buySignal : TradingSignal) (allocation : AllocationLimits)
    (accounts : Accounts) : Except LoopError (Option OpportunityPlan) :=
  let buyConfidence := buySignal.confidence.getD 0
  match (resolveOpportunitySellingConfig session).filter
      (·.minOpportunityConfidence ≤ buyConfidence),
    Js.truthy? (market.priceMap.get? (pairSymbol buySignal.coinId quote)) with
  | some config, some buyPrice => do
    let portfolio := refresh accounts market.priceMap quote
    let required := requiredAmount buySignal portfolio buyPrice allocation
    let estFee ← flatFee required session.tradingFee
    let totalRequired := required + estFee
    if totalRequired ≤ portfolio.cashBalance then return none
    return some
      { candidates := eligiblePositions quote world market config buySignal buyConfidence
          accounts portfolio
        shortfall := totalRequired - portfolio.cashBalance
        maxSellValue := portfolio.totalValue * config.maxLiquidationPercent / 100
        portfolio := portfolio
        buyConfidence := buyConfidence }
  | _, _ => return none

def opportunitySellOrder (buySignal : TradingSignal) (plan : OpportunityPlan)
    (candidate : SellCandidate) (sellQuantity : ℚ) : ExecuteOrderContext where
  signal :=
    { action := .sell
      coinId := candidate.coinId
      quantity := some sellQuantity
      reason := "Opportunity sell: freeing cash for " ++ buySignal.coinId ++ " BUY (confidence " ++
        Js.toFixed plan.buyConfidence 2 ++ ")"
      confidence := some plan.buyConfidence
      metadata := OrdMap.ofEntries
        [("opportunitySell", .bool true), ("targetBuyCoinId", .str buySignal.coinId)] }
  symbol := pairSymbol candidate.coinId quote
  portfolio := plan.portfolio
  prices := market.priceMap
  timestamp := world.now
  allocation := sessionAllocationLimits session

structure SellProgress where
  coveredAmount : ℚ := 0
  sellCount : ℕ := 0
  state : EngineState

def sellCandidate (buySignal : TradingSignal) (plan : OpportunityPlan) (progress : SellProgress)
    (candidate : SellCandidate) : SellProgress :=
  if plan.shortfall ≤ progress.coveredAmount ∨ plan.maxSellValue ≤ progress.coveredAmount then
    progress
  else
    let remainingNeeded := min (plan.shortfall - progress.coveredAmount)
      (plan.maxSellValue - progress.coveredAmount)
    let sellQuantity := min candidate.quantity (remainingNeeded / candidate.price)
    if sellQuantity ≤ 0 then progress
    else
      match runOrder world session quote
          (opportunitySellOrder session quote world market buySignal plan candidate
            sellQuantity) progress.state with
      | (.ok ⟨_, some order⟩, after) =>
        { coveredAmount := progress.coveredAmount + (order.totalValue - order.fee)
          sellCount := progress.sellCount + 1
          state := after }
      | (_, after) => { progress with state := after }

/-- How many positions were sold for a buy. -/
def attemptOpportunitySells (buySignal : TradingSignal) (allocation : AllocationLimits)
    (state : EngineState) : Except LoopError ℕ × EngineState :=
  match opportunityPlan session quote world market buySignal allocation state.accounts with
  | .error e => (.error e, state)
  | .ok none => (.ok 0, state)
  | .ok (some plan) =>
    let progress := plan.candidates.foldl
      (sellCandidate session quote world market buySignal plan) { state := state }
    (.ok progress.sellCount, progress.state)

/-! ## The signal loop -/

structure LoopState where
  state : EngineState
  portfolio : Portfolio
  heldCoins : Finset String
  ordersExecuted : ℕ := 0
  errors : List String := []

def signalOrder (portfolio : Portfolio) (allocation : AllocationLimits) (signal : TradingSignal) :
    ExecuteOrderContext where
  signal := signal
  symbol := pairSymbol signal.coinId quote
  portfolio := portfolio
  prices := market.priceMap
  timestamp := world.now
  allocation := allocation

/-- The outcome of a signal's order, and how many positions were sold for it. -/
structure Traded where
  result : Except LoopError ExecuteOrderResult
  opportunitySells : ℕ := 0
  state : EngineState

/-- Try the order; a buy without funds is tried again after opportunity sales. -/
def tradeSignal (allocation : AllocationLimits) (portfolio : Portfolio) (signal : TradingSignal)
    (state : EngineState) : Traded :=
  let order (portfolio : Portfolio) :=
    signalOrder quote world market portfolio allocation signal
  match runOrder world session quote (order portfolio) state with
  | (.error e, after) => { result := .error e, state := after }
  | (.ok result, after) =>
    if result.status = .insufficientFunds ∧ signal.action = .buy then
      match attemptOpportunitySells session quote world market signal allocation after with
      | (.error e, sold) => { result := .error e, state := sold }
      | (.ok 0, sold) => { result := .ok result, state := sold }
      | (.ok (n + 1), sold) =>
        let retried := runOrder world session quote
          (order (refresh sold.accounts market.priceMap quote)) sold
        { result := retried.1, opportunitySells := n + 1, state := retried.2 }
    else { result := .ok result, state := after }

def markThrottle (signal : TradingSignal) (state : EngineState) : EngineState :=
  if isThrottleBypass signal then state
  else { state with throttle := state.throttle.map (markExecuted · signal world.now) }

/-- What the loop does after a fill: only `BUY` and `SELL` reach the held coins and the tracker. -/
def recordFill (signal : TradingSignal) (order : PaperTradingOrder) (loop : LoopState) :
    LoopState :=
  let symbol := pairSymbol signal.coinId quote
  let marked := markThrottle world signal loop.state
  let told :=
    match signal.action with
    | .buy =>
      { loop with
        heldCoins := insert (baseCurrency symbol) loop.heldCoins
        state := onBuyFill world market symbol order marked }
    | .sell =>
      { loop with
        heldCoins := loop.heldCoins.erase (baseCurrency symbol)
        state := onSellFill symbol order marked }
    | _ => { loop with state := marked }
  { told with
    ordersExecuted := loop.ordersExecuted + 1
    portfolio := refresh marked.accounts market.priceMap quote }

def actionText : Action → String
  | .buy => "BUY"
  | .sell => "SELL"
  | .hold => "HOLD"
  | .openShort => "OPEN_SHORT"
  | .closeShort => "CLOSE_SHORT"

def isSkipped (heldCoins : Finset String) (signal : TradingSignal) : Bool :=
  let coin := baseCurrency (pairSymbol signal.coinId quote)
  (signal.action = .buy ∧ coin ∈ heldCoins) ∨ (signal.action = .sell ∧ coin ∉ heldCoins) ∨
    signal.action = .hold

def processSignal (allocation : AllocationLimits) (loop : LoopState) (signal : TradingSignal) :
    LoopState :=
  if isSkipped quote loop.heldCoins signal then loop
  else
    let traded :=
      tradeSignal session quote world market allocation loop.portfolio signal loop.state
    let counted :=
      { loop with
        state := traded.state
        ordersExecuted := loop.ordersExecuted + traded.opportunitySells }
    match traded.result with
    | .error e =>
      { counted with
        errors := loop.errors ++
          ["Failed to execute " ++ actionText signal.action ++ " order for " ++
            pairSymbol signal.coinId quote ++ ": " ++ e.message] }
    | .ok result => result.order.elim counted fun order =>
        recordFill quote world market signal order counted

/-! ## Signals -/

/-- `mapStrategySignal` of the paper engine: no exit configuration is carried over. -/
def mapStrategySignal (signal : StrategySignal) : TradingSignal :=
  { Chansey.mapStrategySignal signal none with exitConfig := none }

/-- `resolveConfig` over `PAPER_TRADING_DEFAULT_THROTTLE_CONFIG`, whose cooldown is an hour. -/
def resolvePaperThrottleConfig : SignalThrottleConfig :=
  { resolveThrottleConfig session.algorithmConfig with
    cooldownMs := clampNum (Metadata.number? session.algorithmConfig "cooldownMs") HOUR_MS 0
      604800000 }

/-- Signals without a price are rejected before the throttle. The regime never gates a paper
session, it scales its orders. -/
def filterPaperSignals (signals : List TradingSignal) (state : EngineState) :
    FilteredSignals × EngineState :=
  let resolvable := signals.filter fun signal =>
    (market.priceMap.get? (pairSymbol signal.coinId quote)).isSome
  let (throttled, throttle) := filterSignals resolvable (state.throttle.getD {})
    (resolvePaperThrottleConfig session) world.now
  let limits := sessionAllocationLimits session
  let riskLevel := session.riskLevel.getD DEFAULT_RISK_LEVEL
  let regime : RegimeConfig :=
    { enableRegimeScaledSizing := true, riskLevel := riskLevel, regimeGateEnabled := false,
      btcCoin := none }
  (concentrationFilter riskLevel none <| regimeFilter regime world.compositeRegime
      { signals := throttled.accepted
        maxAllocation := limits.maxAllocation
        minAllocation := limits.minAllocation },
    { state with throttle := some throttle })

/-- `extractCoinsFromPrices`: the base currencies, each once. -/
def extractCoinsFromPrices : List Coin :=
  ((market.priceMap.keys.map baseCurrency).foldl
    (fun seen coin => if coin ∈ seen then seen else seen ++ [coin]) []).map fun coin => ⟨coin, coin⟩

/-- The candles of each base currency with the current price last; the longest series wins. -/
def buildPriceDataContext : OrdMap CoinId (List CandleData) :=
  market.priceMap.entries.foldl
    (fun priceData e =>
      let coin := baseCurrency e.1
      let candidate := (market.historicalCandles.get? e.1).getD [] ++
        [{ avg := e.2, high := e.2, low := e.2, date := world.now }]
      if (priceData.get? coin).all (·.length < candidate.length) then priceData.set coin candidate
      else priceData)
    OrdMap.empty

def buildPositionsContext (accounts : Accounts) : OrdMap CoinId ℚ :=
  OrdMap.ofEntries <|
    (accounts.entries.filter fun e => e.1 ≠ quote ∧ 0 < e.2.total).map fun e =>
      (e.1, e.2.total)

def runAlgorithm (portfolio : Portfolio) (accounts : Accounts) : List TradingSignal :=
  match world.algorithm
      { coins := extractCoinsFromPrices market
        priceData := buildPriceDataContext world market
        timestamp := world.now
        config := session.algorithmConfig
        positions := buildPositionsContext quote accounts
        availableBalance := portfolio.cashBalance
        compositeRegime := world.compositeRegime
        volatilityRegime := world.volatilityRegime } with
  | .error _ => []
  | .ok result =>
    if result.success then (result.signals.map mapStrategySignal).filter (·.action ≠ .hold) else []

/-! ## The tick -/

/-- `getPerSymbolLatestTimestamps` -/
def latestTimestamps : OrdMap String Instant :=
  OrdMap.ofEntries <| market.historicalCandles.entries.filterMap fun e =>
    e.2.getLast?.map fun candle => (e.1, candle.date)

def hasAnySymbolAdvanced (current : OrdMap String Instant)
    (previous : Option (OrdMap String Instant)) : Bool :=
  match previous with
  | none => true
  | some previous => current.entries.any fun e => (previous.get? e.1).all (· < e.2)

def heldCoinsOf (accounts : Accounts) : Finset String :=
  ((accounts.entries.filter fun e => e.1 ≠ quote ∧ DUST < e.2.total).map Prod.fst).toFinset

def startLoop (state : EngineState) : LoopState where
  state := state
  portfolio := refresh state.accounts market.priceMap quote
  heldCoins := heldCoinsOf quote state.accounts

def tickSignals (state : EngineState) : Option (List TradingSignal) :=
  let current := latestTimestamps market
  if current.size = 0 ∨ hasAnySymbolAdvanced current state.lastProcessedCandleTs then
    some (runAlgorithm session quote world market
      (refresh state.accounts market.priceMap quote) state.accounts)
  else none

def tradeSignals (signals : List TradingSignal) (state : EngineState) : LoopState :=
  let (filtered, throttled) := filterPaperSignals session quote world market signals state
  filtered.signals.foldl
    (processSignal session quote world market ⟨filtered.maxAllocation, filtered.minAllocation⟩)
    (startLoop quote market throttled)

def rememberCandles (state : EngineState) : EngineState :=
  let current := latestTimestamps market
  if current.size = 0 then state else { state with lastProcessedCandleTs := some current }

end Tick

structure TickResult where
  processed : Bool
  signalsReceived : ℕ := 0
  ordersExecuted : ℕ := 0
  errors : List String := []
  portfolioValue : ℚ

section Session

variable (session : PaperTradingSession)

def runTick (world : World) (market : Market) (state : EngineState) : TickResult × EngineState :=
  let quote := getQuoteCurrency state.accounts.keys
  let (exits, exited) :=
    checkAndExecute session quote world market (getOrCreate session state)
  let signals := tickSignals session quote world market exited
  let loop := signals.elim (startLoop quote market exited) fun signals =>
    tradeSignals session quote world market signals exited
  let after := if signals.isSome then rememberCandles market loop.state else loop.state
  let received := signals.elim 0 List.length
  let executed := exits + loop.ordersExecuted
  match world.finalize with
  | .error e =>
    ({ processed := false, signalsReceived := received, ordersExecuted := executed
       errors := loop.errors ++ [e.message]
       portfolioValue := state.currentPortfolioValue.getD session.initialCapital }, after)
  | .ok () =>
    ({ processed := true, signalsReceived := received, ordersExecuted := executed
       errors := loop.errors
       portfolioValue := (refresh after.accounts market.priceMap quote).totalValue }, after)

def processTick (world : World) (state : EngineState) : TickResult × EngineState :=
  match world.market with
  | .ok market => runTick session world market state
  | .error e =>
    ({ processed := false
       errors := [e.message]
       portfolioValue := state.currentPortfolioValue.getD session.initialCapital }, state)

/-! ## The jobs of a session -/

def restoreThrottleStateIfNeeded (state : EngineState) : EngineState :=
  { state with throttle := state.throttle.or (state.throttleState.map deserializeThrottle) }

def applySuccessfulTickResult (result : TickResult) (state : EngineState) : EngineState :=
  { state with
    tickCount := state.tickCount + 1
    currentPortfolioValue := some result.portfolioValue }

/-- A processed tick stores the throttle and the tracker. -/
def handleTick (world : World) (state : EngineState) : EngineState :=
  let (result, after) := processTick session world (restoreThrottleStateIfNeeded state)
  if result.processed then
    applySuccessfulTickResult result
      { after with
        throttleState := (after.throttle.map serializeThrottle).or after.throttleState
        exitTrackerState := (after.exitTracker.map (·.serialize)).or after.exitTrackerState }
  else after

def handleRetryTick (world : World) (state : EngineState) : EngineState :=
  let (result, after) := processTick session world (restoreThrottleStateIfNeeded state)
  if result.processed then applySuccessfulTickResult result after else after

/-- The process starts again: what it kept in memory is gone. -/
def restart (state : EngineState) : EngineState :=
  { state with exitTracker := none, throttle := none }

inductive PaperEvent where
  | tick (world : World)
  | retryTick (world : World)
  | restart

def sessionStep (state : EngineState) : PaperEvent → EngineState
  | .tick world => handleTick session world state
  | .retryTick world => handleRetryTick session world state
  | .restart => restart state

def openSession (quote : String) : EngineState where
  accounts := OrdMap.empty.set quote { available := session.initialCapital }

end Session

/-! ## What the orders of a tick keep -/

/-- Only orders can break `P`: not what is tracked or throttled. A buy is priced by the market. -/
structure KeptByOrders (session : PaperTradingSession) (quote : String) (world : World)
    (market : Market) (P : EngineState → Prop) : Prop where
  order : ∀ ctx state, (ctx.signal.action = .buy → ctx.prices = market.priceMap) → P state →
    P (runOrder world session quote ctx state).2
  tracker : ∀ (state : EngineState) tracker, P state → P { state with exitTracker := tracker }
  throttle : ∀ (state : EngineState) throttle, P state → P { state with throttle := throttle }

namespace KeptByOrders

variable {session : PaperTradingSession} {quote : String} {world : World} {market : Market}
  {P : EngineState → Prop} {state : EngineState}
  (h : KeptByOrders session quote world market P)

include h

theorem getOrCreate (hs : P state) : P (getOrCreate session state) := by
  unfold Paper.getOrCreate
  split
  · exact h.tracker _ _ hs
  · exact hs

theorem executeExit (portfolio : Portfolio) {acc : ℕ × EngineState} (exit : ExitSignal)
    (hs : P acc.2) :
    P (executeExit session quote world market portfolio acc exit).2 := by
  have hrun := h.order (exitOrder session quote world market portfolio exit) acc.2
    (fun hbuy => by cases hbuy) hs
  unfold Paper.executeExit
  dsimp only
  split
  · rename_i hres
    rwa [hres] at hrun
  · rename_i hres
    rw [hres] at hrun
    split
    · exact h.tracker _ _ hrun
    · exact h.tracker _ _ hrun
    · exact hrun

theorem checkAndExecute (hs : P state) :
    P (checkAndExecute session quote world market state).2 := by
  unfold Paper.checkAndExecute
  split
  · exact hs
  · exact List.foldlRecOn (motive := fun acc : ℕ × EngineState => P acc.2) _ _
      (h.tracker _ _ hs) fun _ hacc exit _ => h.executeExit _ exit hacc

theorem sellCandidate (buySignal : TradingSignal) (plan : OpportunityPlan)
    {progress : SellProgress} (candidate : SellCandidate) (hs : P progress.state) :
    P (sellCandidate session quote world market buySignal plan progress candidate).state := by
  unfold Paper.sellCandidate
  dsimp only
  split_ifs
  · exact hs
  · exact hs
  · have hrun := h.order (opportunitySellOrder session quote world market buySignal plan
      candidate (min candidate.quantity (min (plan.shortfall - progress.coveredAmount)
        (plan.maxSellValue - progress.coveredAmount) / candidate.price))) progress.state
      (fun hbuy => by cases hbuy) hs
    split
    all_goals
      rename_i hres
      rwa [hres] at hrun

theorem attemptOpportunitySells (buySignal : TradingSignal) (allocation : AllocationLimits)
    (hs : P state) :
    P (attemptOpportunitySells session quote world market buySignal allocation state).2 := by
  unfold Paper.attemptOpportunitySells
  split
  · exact hs
  · exact hs
  · exact List.foldlRecOn (motive := fun progress : SellProgress => P progress.state) _ _ hs
      fun _ hacc candidate _ => h.sellCandidate _ _ candidate hacc

theorem tradeSignal (allocation : AllocationLimits) (portfolio : Portfolio)
    (signal : TradingSignal) (hs : P state) :
    P (tradeSignal session quote world market allocation portfolio signal state).state := by
  have hrun := h.order (signalOrder quote world market portfolio allocation signal) state
    (fun _ => rfl) hs
  unfold Paper.tradeSignal
  dsimp only
  split
  · rename_i hres
    rwa [hres] at hrun
  · rename_i after hres
    rw [hres] at hrun
    split_ifs
    · have hsold := h.attemptOpportunitySells signal allocation hrun
      split <;> rename_i hattempt <;> rw [hattempt] at hsold
      · exact hsold
      · exact hsold
      · exact h.order _ _ (fun _ => rfl) hsold
    · exact hrun

theorem recordFill (signal : TradingSignal) (order : PaperTradingOrder) {loop : LoopState}
    (hs : P loop.state) : P (recordFill quote world market signal order loop).state := by
  have hmark : P (markThrottle world signal loop.state) := by
    unfold markThrottle
    split_ifs
    · exact hs
    · exact h.throttle _ _ hs
  unfold Paper.recordFill onBuyFill
  dsimp only
  split
  · split
    · exact hmark
    · split_ifs
      · exact h.tracker _ _ hmark
      · exact hmark
  · exact h.tracker _ _ hmark
  · exact hmark

theorem processSignal (allocation : AllocationLimits) {loop : LoopState} (signal : TradingSignal)
    (hs : P loop.state) :
    P (processSignal session quote world market allocation loop signal).state := by
  have htraded := h.tradeSignal allocation loop.portfolio signal hs
  unfold Paper.processSignal
  dsimp only
  split_ifs
  · exact hs
  · split
    · exact htraded
    · rename_i result _
      cases result.order with
      | none => exact htraded
      | some order => exact h.recordFill signal order htraded

theorem tradeSignals (signals : List TradingSignal) (hs : P state) :
    P (tradeSignals session quote world market signals state).state :=
  List.foldlRecOn (motive := fun loop : LoopState => P loop.state) _ _ (h.throttle _ _ hs)
    fun _ hloop signal _ => h.processSignal _ signal hloop

end KeptByOrders

end Chansey.Paper
