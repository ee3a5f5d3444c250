import Chansey.Loop.Context
import Mathlib.Data.List.Sort

/-!
# Opportunity selling

When a buy fails for lack of cash, positions are scored and sold, worst first, until the shortfall
is covered or the share that may be liquidated is used up.

* `calculatePositionSellScore`, `scoreEligiblePositions`: the candidates, lowest score first.
-/

namespace Chansey

structure PositionSellScore where
  eligible : Bool
  totalScore : ℚ

/-- The score of a position. No algorithm rank is passed, so the ranking score is `0`. -/
def calculatePositionSellScore (position : Position) (currentPrice buyConfidence : ℚ)
    (config : OpportunitySellingUserConfig) (now : Instant) : PositionSellScore :=
  let pnlPercent :=
    if 0 < position.averagePrice then
      (currentPrice - position.averagePrice) / position.averagePrice * 100
    else 0
  let holdingHours : ℚ := position.entryDate.elim 0 fun d => ((now - d : ℤ) : ℚ) / HOUR_MS
  let unrealizedPnLScore := max 0 (min 30 ((pnlPercent + 50) / 100 * 30))
  let protectedGainsScore : ℚ := if config.protectGainsAbovePercent < pnlPercent then 100 else 0
  let holdingPeriodScore : ℚ :=
    if holdingHours < config.minHoldingPeriodHours then 100 else min 20 (holdingHours / 720 * 20)
  let opportunityAdvantageScore := max 0 (min 30 ((1 - buyConfidence) * 30))
  { eligible := protectedGainsScore < 100 ∧ holdingPeriodScore < 100
    totalScore := unrealizedPnLScore + opportunityAdvantageScore + holdingPeriodScore }

structure SellCandidate where
  coinId : CoinId
  score : ℚ
  quantity : ℚ
  price : ℚ

def scoreEligiblePositions (portfolio : Portfolio) (buyCoinId : CoinId) (buyConfidence : ℚ)
    (config : OpportunitySellingUserConfig) (marketData : MarketData) : List SellCandidate :=
  let eligible := portfolio.positions.entries.filterMap fun e =>
    if e.1 = buyCoinId ∨ e.1 ∈ config.protectedCoins then none
    else
      match (marketData.prices.get? e.1).filter (0 < ·) with
      | none => none
      | some price =>
        let score := calculatePositionSellScore e.2 price buyConfidence config marketData.timestamp
        if score.eligible then some ⟨e.1, score.totalScore, e.2.quantity, price⟩ else none
  eligible.insertionSort fun a b => a.score ≤ b.score

structure SellPlan where
  buySignal : TradingSignal
  buyConfidence : ℚ
  shortfall : ℚ
  maxSellValue : ℚ
  totalRequired : ℚ
  eligibleCount : ℕ

structure SellProgress where
  remainingShortfall : ℚ
  totalSellValue : ℚ := 0
  sellExecuted : Bool := false
  books : Books

def opportunitySellSignal (plan : SellPlan) (candidate : SellCandidate)
    (remainingShortfall quantity : ℚ) : TradingSignal where
  action := .sell
  coinId := candidate.coinId
  quantity := some quantity
  reason := "Opportunity sell: freeing cash for " ++ plan.buySignal.coinId ++ " buy (confidence=" ++
    Js.toFixed (plan.buyConfidence * 100) 0 ++ "%)"
  confidence := some plan.buyConfidence
  metadata := OrdMap.ofEntries
    [("opportunitySell", .bool true), ("buyTargetCoin", .str plan.buySignal.coinId),
      ("buyConfidence", .num plan.buyConfidence), ("shortfall", .num plan.shortfall),
      ("totalRequired", .num plan.totalRequired), ("eligibleCount", .num plan.eligibleCount),
      ("candidateScore", .num candidate.score), ("remainingShortfall", .num remainingShortfall)]

/-- Record the outcome of a sale. The exit tracker is left as it is. -/
def bookSale (cfg : TradingConfig) (market : BarMarket) (signal : TradingSignal) (books : Books) :
    Option ExecuteTradeResult → Books
  | none => books
  | some result =>
    let timestamp := market.marketData.timestamp
    let metadata := result.trade.metadata.set "opportunitySell" (.bool true)
    if result.fillStatus = .cancelled then
      { books with
        simulatedFills := books.simulatedFills ++
          [cancelledFill cfg timestamp signal.coinId result metadata] }
    else
      { books with
        trades := books.trades ++
          [executedTrade cfg timestamp (cfg.coinMap.get? signal.coinId) result]
        simulatedFills := books.simulatedFills ++
          [executedFill cfg timestamp signal.coinId result metadata] }

/-- The order of a sale. The hold period was already checked when the position was scored. -/
def opportunityOrder (cfg : TradingConfig) (market : BarMarket) (signal : TradingSignal) :
    ExecuteTradeParams :=
  let limits := getAllocationLimits none none {}
  cfg.order market signal 0 limits.maxAllocation limits.minAllocation

/-- Sell by `signal`. The result is the executed trade, if there is one. -/
def opportunitySale (math : Js.Math) (cfg : TradingConfig) (market : BarMarket)
    (signal : TradingSignal) (books : Books) :
    Except LoopError (Option ExecuteTradeResult × Books) := do
  let (result?, portfolio) ← executeTrade math (opportunityOrder cfg market signal) books.portfolio
  return (result?.filter (·.fillStatus ≠ .cancelled),
    bookSale cfg market signal { books with portfolio := portfolio } result?)

def sellCandidate (math : Js.Math) (cfg : TradingConfig) (market : BarMarket) (plan : SellPlan)
    (progress : SellProgress) (candidate : SellCandidate) : Except LoopError SellProgress := do
  if progress.remainingShortfall ≤ 0 ∨ plan.maxSellValue ≤ progress.totalSellValue then
    return progress
  let maxByShortfall := progress.remainingShortfall / candidate.price
  let maxByLiquidation := (plan.maxSellValue - progress.totalSellValue) / candidate.price
  let quantity := min candidate.quantity (min maxByShortfall maxByLiquidation)
  if quantity ≤ 0 then return progress
  let signal := opportunitySellSignal plan candidate progress.remainingShortfall quantity
  match ← opportunitySale math cfg market signal progress.books with
  | (none, books) => return { progress with books := books }
  | (some result, books) =>
    let proceeds := result.trade.quantity * result.trade.price
    return { remainingShortfall := progress.remainingShortfall - proceeds
             totalSellValue := progress.totalSellValue + proceeds
             sellExecuted := true
             books := books }

def executeSellPlan (math : Js.Math) (cfg : TradingConfig) (market : BarMarket) (plan : SellPlan)
    (candidates : List SellCandidate) (books : Books) : Except LoopError (Bool × Books) := do
  let progress ← candidates.foldlM (sellCandidate math cfg market plan)
    { remainingShortfall := plan.shortfall, books := books }
  return (progress.sellExecuted, progress.books)

/-- The value of the buy that cash has to cover, before its fee. -/
def requiredBuyAmount (signal : TradingSignal) (portfolioTotalValue buyPrice maxAllocation
    minAllocation : ℚ) : ℚ :=
  match Js.truthy? signal.quantity, Js.truthy? signal.percentage, signal.confidence with
  | some quantity, _, _ => quantity * buyPrice
  | none, some percentage, _ => portfolioTotalValue * percentage
  | none, none, some confidence =>
    portfolioTotalValue * (minAllocation + confidence * (maxAllocation - minAllocation))
  | none, none, none => portfolioTotalValue * minAllocation

/-- Whether positions were sold, so that the buy is to be tried again, and the books after it. -/
def attemptOpportunitySelling (math : Js.Math) (cfg : TradingConfig) (market : BarMarket)
    (buySignal : TradingSignal) (maxAllocation minAllocation : ℚ) (books : Books) :
    Except LoopError (Bool × Books) := do
  let config := cfg.oppSellingConfig
  let buyConfidence := buySignal.confidence.getD 0
  if buyConfidence < config.minOpportunityConfidence then return (false, books)
  match Js.truthy? (market.marketData.prices.get? buySignal.coinId) with
  | none => return (false, books)
  | some buyPrice =>
    let portfolio := books.portfolio
    let requiredAmount := requiredBuyAmount buySignal portfolio.totalValue buyPrice maxAllocation
      minAllocation
    let estFee ← flatFee requiredAmount cfg.backtest.tradingFee
    let totalRequired := requiredAmount + estFee
    if totalRequired ≤ portfolio.cashBalance then return (false, books)
    let eligible := scoreEligiblePositions portfolio buySignal.coinId buyConfidence config
      market.marketData
    if eligible.isEmpty then return (false, books)
    executeSellPlan math cfg market
      { buySignal := buySignal
        buyConfidence := buyConfidence
        shortfall := totalRequired - portfolio.cashBalance
        maxSellValue := portfolio.totalValue * config.maxLiquidationPercent / 100
        totalRequired := totalRequired
        eligibleCount := eligible.length }
      eligible books

end Chansey
