import Chansey.Algorithm
import Chansey.Paper.Executor

/-!
# The state of a paper session and its exits

What a session stores, what the process keeps in memory for it, and what the outside answers
during a tick. The exit executor checks the tracked positions and sells those whose exit triggers.

* `runOrder`: execute an order and store what it wrote; **`runOrder_cases`**.
-/

namespace Chansey.Paper

/-! ## State and answers -/

structure CandleData where
  avg : ℚ
  high : ℚ
  low : ℚ
  date : Instant

/-- What the session has stored, and what the process keeps in memory for it. -/
structure EngineState where
  accounts : Accounts
  orders : List (TradingSignal × PaperTradingOrder) := []
  exitTrackerState : Option BacktestExitTracker.SerializableState := none
  throttleState : Option SerializableThrottleState := none
  lastProcessedCandleTs : Option (OrdMap String Instant) := none
  tickCount : ℕ := 0
  currentPortfolioValue : Option ℚ := none
  /-- `exitTrackers.get(session.id)` -/
  exitTracker : Option BacktestExitTracker := none
  /-- `throttleStates.get(session.id)` -/
  throttle : Option ThrottleState := none
  /-- How many orders have been tried: what is asked next for an order book and a commit. -/
  executions : ℕ := 0

/-- Prices and candles of a tick. Market prices are not negative. -/
structure Market where
  priceMap : Prices
  historicalCandles : OrdMap String (List CandleData)
  price_nonneg : ∀ symbol price, priceMap.get? symbol = some price → 0 ≤ price

structure AlgorithmContext where
  coins : List Coin
  priceData : OrdMap CoinId (List CandleData)
  timestamp : Instant
  config : Metadata
  positions : OrdMap CoinId ℚ
  availableBalance : ℚ
  compositeRegime : CompositeRegimeType
  volatilityRegime : MarketRegimeType

/-- What a tick asks of the outside, with the answers it gets. -/
structure World where
  now : Instant
  market : Except LoopError Market
  /-- Order book and commit of the `n`-th order that is tried. -/
  orderBook : ℕ → Option RawOrderBook := fun _ => none
  commit : ℕ → Except LoopError Unit := fun _ => .ok ()
  algorithm : AlgorithmContext → Except LoopError AlgorithmResult
  compositeRegime : CompositeRegimeType := .bull
  volatilityRegime : MarketRegimeType := .normal
  /-- `computeAtrFromOHLC` of the candles. -/
  computeAtr : List CandleData → Option ℚ := fun _ => none
  /-- The last read of the accounts, and the snapshot when one is due. -/
  finalize : Except LoopError Unit := .ok ()

/-! ## Running an order -/

def answered (world : World) (ctx : ExecuteOrderContext) (state : EngineState) :
    ExecuteOrderContext :=
  { ctx with
    orderBook := world.orderBook state.executions
    commit := world.commit state.executions }

def runOrder (world : World) (session : PaperTradingSession) (quote : String)
    (ctx : ExecuteOrderContext) (state : EngineState) :
    Except LoopError ExecuteOrderResult × EngineState :=
  let tried := { state with executions := state.executions + 1 }
  match execute session quote (answered world ctx state) state.accounts with
  | .error e => (.error e, tried)
  | .ok (result, accounts) =>
    (.ok result,
      { tried with
        accounts := accounts
        orders := state.orders ++ (result.order.map fun order => (ctx.signal, order)).toList })

theorem runOrder_cases (world : World) (session : PaperTradingSession) (quote : String)
    (ctx : ExecuteOrderContext) (state : EngineState) :
    (GoesThrough session quote (answered world ctx state) state.accounts ∧
      ∃ order accounts, runOrder world session quote ctx state =
          (.ok ⟨.success, some order⟩,
            { state with
              executions := state.executions + 1
              accounts := accounts
              orders := state.orders ++ [(ctx.signal, order)] }) ∧
        (Bought session quote (answered world ctx state) state.accounts accounts order ∨
          ∃ account, Sold session quote (answered world ctx state) state.accounts accounts
            order account)) ∨
    (¬ GoesThrough session quote (answered world ctx state) state.accounts ∧
      (runOrder world session quote ctx state).2 =
        { state with executions := state.executions + 1 } ∧
      ∀ result, (runOrder world session quote ctx state).1 = .ok result →
        result.status ≠ .success ∧ result.order = none) := by
  unfold runOrder
  cases hexe : execute session quote (answered world ctx state) state.accounts with
  | error =>
    refine .inr ⟨fun hgoes => ?_, rfl, fun result h => by cases h⟩
    obtain ⟨_, _, h⟩ := goesThrough_iff.mp hgoes
    rw [hexe] at h
    cases h
  | ok outcome =>
    obtain ⟨_, accounts⟩ := outcome
    rcases execute_cases hexe with ⟨hstat, horder, rfl⟩ | ⟨order, rfl, hside⟩
    · refine .inr ⟨fun hgoes => ?_, by simp [horder], fun result' h => ?_⟩
      · obtain ⟨_, _, h⟩ := goesThrough_iff.mp hgoes
        rw [hexe] at h
        cases h
        exact hstat rfl
      · cases h
        exact ⟨hstat, horder⟩
    · exact .inl ⟨goesThrough_iff.mpr ⟨order, accounts, hexe⟩, order, accounts, rfl, hside⟩

/-! ## The tracker of a session -/

/-- A session without an exit configuration has no tracker. -/
def getOrCreate (session : PaperTradingSession) (state : EngineState) : EngineState :=
  match session.exitConfig, state.exitTracker with
  | some exitConfig, none =>
    let config := resolveExitConfig [exitConfig]
    { state with
      exitTracker := some <|
        match state.exitTrackerState with
        | some stored => BacktestExitTracker.deserialize stored config
        | none => { config := config } }
  | _, _ => state

/-- Track a buy. The signal's own exit configuration is not handed on. -/
def onBuyFill (world : World) (market : Market) (symbol : String) (order : PaperTradingOrder)
    (state : EngineState) : EngineState :=
  match state.exitTracker with
  | none => state
  | some tracker =>
    let candles := (market.historicalCandles.get? symbol).filter (· ≠ [])
    if 0 < order.executedPrice then
      { state with
        exitTracker := some (tracker.onBuy (baseCurrency symbol) order.executedPrice
          order.filledQuantity (candles.bind world.computeAtr) none) }
    else state

def onSellFill (symbol : String) (order : PaperTradingOrder) (state : EngineState) : EngineState :=
  { state with
    exitTracker := state.exitTracker.map fun tracker =>
      tracker.onSell (baseCurrency symbol) order.filledQuantity }

/-! ## Exits -/

structure CheckPrices where
  closePrices : OrdMap CoinId ℚ := OrdMap.empty
  lowPrices : OrdMap CoinId ℚ := OrdMap.empty
  highPrices : OrdMap CoinId ℚ := OrdMap.empty

def addPrice (historicalCandles : OrdMap String (List CandleData)) (prices : CheckPrices)
    (entry : String × ℚ) : CheckPrices :=
  let (symbol, price) := entry
  let coin := baseCurrency symbol
  let lastCandle := (historicalCandles.get? symbol).bind (·.getLast?)
  { closePrices := prices.closePrices.set coin price
    lowPrices := prices.lowPrices.set coin (lastCandle.elim price fun c => min c.low price)
    highPrices := prices.highPrices.set coin (lastCandle.elim price fun c => max c.high price) }

def checkPrices (market : Market) : CheckPrices :=
  market.priceMap.entries.foldl (addPrice market.historicalCandles) {}

/-- The exits that trigger. Without a bar number no cooldown is registered. -/
def checkSignals (market : Market) (tracker : BacktestExitTracker) :
    BacktestExitTracker × List ExitSignal :=
  let prices := checkPrices market
  let (checked, signals) :=
    tracker.checkExits prices.closePrices prices.lowPrices prices.highPrices 0
  ({ checked with exitCooldowns := tracker.exitCooldowns }, signals)

def exitTradingSignal (exit : ExitSignal) : TradingSignal where
  action := .sell
  coinId := exit.coinId
  quantity := some exit.quantity
  reason := exit.reason
  metadata := exit.metadata
  originalType :=
    match exit.exitType with
    | .takeProfit => some .takeProfit
    | _ => some .stopLoss

/-- `getAllocationLimits(PipelineStage.PAPER_TRADE, session.riskLevel ?? DEFAULT_RISK_LEVEL)` -/
def sessionAllocationLimits (session : PaperTradingSession) : AllocationLimits :=
  getAllocationLimits (some .paperTrade) (some (session.riskLevel.getD DEFAULT_RISK_LEVEL)) {}

def exitOrder (session : PaperTradingSession) (quote : String) (world : World)
    (market : Market) (portfolio : Portfolio) (exit : ExitSignal) : ExecuteOrderContext where
  signal := exitTradingSignal exit
  symbol := pairSymbol exit.coinId quote
  portfolio := portfolio
  prices := market.priceMap.set (pairSymbol exit.coinId quote) exit.executionPrice
  timestamp := world.now
  allocation := sessionAllocationLimits session
  exitType := some exit.exitType

/-- Sell one triggered exit. A position that is sold or gone is no longer tracked; any other
outcome is retried on the next tick. -/
def executeExit (session : PaperTradingSession) (quote : String) (world : World)
    (market : Market) (portfolio : Portfolio) (acc : ℕ × EngineState) (exit : ExitSignal) :
    ℕ × EngineState :=
  let (executed, state) := acc
  match runOrder world session quote
      (exitOrder session quote world market portfolio exit) state with
  | (.error _, after) => (executed, after)
  | (.ok result, after) =>
    let removed :=
      { after with exitTracker := after.exitTracker.map (·.removePosition exit.coinId) }
    match result.status with
    | .success => (executed + 1, removed)
    | .noPosition => (executed, removed)
    | _ => (executed, after)

def checkAndExecute (session : PaperTradingSession) (quote : String) (world : World)
    (market : Market) (state : EngineState) : ℕ × EngineState :=
  match state.exitTracker with
  | none => (0, state)
  | some tracker =>
    let (checked, signals) := checkSignals market tracker
    let portfolio := refresh state.accounts market.priceMap quote
    signals.foldl (executeExit session quote world market portfolio)
      (0, { state with exitTracker := some checked })

end Chansey.Paper
