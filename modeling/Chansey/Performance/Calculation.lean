import Chansey.Domain

/-!
# Daily performance of a deployment

A run for a day adds the profit of the day's filled orders to the cumulative figures of the newest
row, and writes a row for the day. A day that has a row is skipped.

* `Order`, `Deployment`, `PerformanceMetric`: the rows. `History`: the tables.
-/

namespace Chansey.Performance

inductive OrderSide where
  | buy
  | sell
  deriving DecidableEq

structure Order (S : Type) where
  strategyConfigId : S
  isAlgorithmicTrade : Bool
  filled : Bool
  side : OrderSide
  createdAt : Instant
  price : ℚ
  executedQuantity : ℚ
  gainLoss : Option ℚ

structure Deployment (S : Type) where
  strategyConfigId : S
  /-- `strategyConfig?.createdBy` -/
  createdBy : Option String
  deployedAt : Option Instant

/-- A row for one date. Dates are days since the epoch. -/
structure PerformanceMetric where
  dailyPnl : ℚ
  dailyReturn : ℚ
  cumulativePnl : ℚ
  cumulativeReturn : ℚ
  tradesCount : ℕ
  cumulativeTradesCount : ℕ
  winningTrades : ℕ
  losingTrades : ℕ
  winRate : Option ℚ
  profitFactor : Option ℚ
  avgWinAmount : Option ℚ
  avgLossAmount : Option ℚ
  /-- `metadata.totalCapitalDeployed` -/
  totalCapitalDeployed : ℚ

/-- The orders of the table, the rows of the deployment and the figures kept in it. -/
structure History (S O : Type) where
  orders : OrdMap O (Order S)
  metrics : OrdMap ℤ PerformanceMetric
  realizedPnl : ℚ
  totalTrades : ℕ

def DAY_MS : ℤ := 24 * HOUR_MS

def dateOf (instant : Instant) : ℤ := instant / DAY_MS

def dayStart (date : ℤ) : Instant := date * DAY_MS

def dayEnd (date : ℤ) : Instant := date * DAY_MS + (DAY_MS - 1)

section Calculation

variable {S O : Type} [DecidableEq S]

def Order.isFilledOf (order : Order S) (strategyConfigId : S) : Bool :=
  order.strategyConfigId = strategyConfigId ∧ order.isAlgorithmicTrade ∧ order.filled

def sinceDeployment (deployedAt : Option Instant) (order : Order S) : Bool :=
  deployedAt.all (· ≤ order.createdAt)

structure DailyMetrics where
  dailyPnl : ℚ
  tradesCount : ℕ
  winningTrades : ℕ
  losingTrades : ℕ

def Order.gain (order : Order S) : ℚ :=
  if order.side = .sell then order.gainLoss.getD 0 else 0

def calculateDailyMetrics (orders : List (Order S)) : DailyMetrics where
  dailyPnl := (orders.map Order.gain).sum
  tradesCount := orders.length
  winningTrades := (orders.filter (0 < ·.gain)).length
  losingTrades := (orders.filter (·.gain < 0)).length

variable (orders : OrdMap O (Order S)) (deployment : Deployment S)

/-- The filled orders of the day, no earlier than the deployment. -/
def todaysOrders (today : ℤ) : List (Order S) :=
  let effectiveStart := deployment.deployedAt.elim (dayStart today) (max (dayStart today))
  (orders.entries.map (·.2)).filter fun order =>
    order.isFilledOf deployment.strategyConfigId ∧ effectiveStart ≤ order.createdAt ∧
      order.createdAt ≤ dayEnd today

def sumBuyOrderCost : ℚ :=
  OrdMap.sumBy (fun _ order =>
    if order.isFilledOf deployment.strategyConfigId ∧ order.side = .buy ∧
        sinceDeployment deployment.deployedAt order then order.price * order.executedQuantity
    else 0) orders

/-- The capital of the newest row, or that of the buys there are. -/
def totalCapitalDeployed (previousMetric : Option PerformanceMetric) : ℚ :=
  previousMetric.elim (sumBuyOrderCost orders deployment) (·.totalCapitalDeployed)

def calculatePortfolioValue (previousMetric : Option PerformanceMetric) : ℚ :=
  totalCapitalDeployed orders deployment previousMetric + previousMetric.elim 0 (·.cumulativePnl)

structure CumulativeTradeStats where
  winRate : Option ℚ
  profitFactor : Option ℚ
  avgWinAmount : Option ℚ
  avgLossAmount : Option ℚ

def calculateCumulativeTradeStats : CumulativeTradeStats :=
  let gains := ((orders.entries.map (·.2)).filter fun order =>
    order.isFilledOf deployment.strategyConfigId ∧ order.side = .sell ∧
      sinceDeployment deployment.deployedAt order).map (·.gainLoss.getD 0)
  let wins := gains.filter (0 < ·)
  let losses := gains.filter (· < 0)
  let grossProfit := wins.sum
  let grossLoss := (losses.map (|·|)).sum
  if gains = [] then ⟨none, none, none, none⟩
  else
    { winRate := some (wins.length / gains.length)
      profitFactor := if 0 < grossLoss then some (grossProfit / grossLoss) else none
      avgWinAmount := if wins = [] then none else some (grossProfit / wins.length)
      avgLossAmount := if losses = [] then none else some (grossLoss / losses.length) }

end Calculation

def newestMetric (metrics : OrdMap ℤ PerformanceMetric) : Option (ℤ × PerformanceMetric) :=
  metrics.entries.find? fun entry => metrics.entries.all (·.1 ≤ entry.1)

section Run

variable {S O : Type} [DecidableEq S]

/-- The row of a day, as its columns keep it. -/
def metricOf (s : History S O) (deployment : Deployment S) (today : ℤ) : PerformanceMetric :=
  let previousMetric := (newestMetric s.metrics).map (·.2)
  let daily := calculateDailyMetrics (todaysOrders s.orders deployment today)
  let portfolioValue := calculatePortfolioValue s.orders deployment previousMetric
  let dailyReturn := if 0 < portfolioValue then daily.dailyPnl / portfolioValue else 0
  let cumulativePnl := previousMetric.elim 0 (·.cumulativePnl) + daily.dailyPnl
  let cumulativeReturn := (1 + previousMetric.elim 0 (·.cumulativeReturn)) * (1 + dailyReturn) - 1
  let stats := calculateCumulativeTradeStats s.orders deployment
  { dailyPnl := Js.decimalColumn daily.dailyPnl 4
    dailyReturn := Js.decimalColumn dailyReturn 6
    cumulativePnl := Js.decimalColumn cumulativePnl 4
    cumulativeReturn := Js.decimalColumn cumulativeReturn 6
    tradesCount := daily.tradesCount
    cumulativeTradesCount :=
      previousMetric.elim 0 (·.cumulativeTradesCount) + daily.tradesCount
    winningTrades := daily.winningTrades
    losingTrades := daily.losingTrades
    winRate := stats.winRate.map (Js.decimalColumn · 6)
    profitFactor := stats.profitFactor.map (Js.decimalColumn · 4)
    avgWinAmount := stats.avgWinAmount.map (Js.decimalColumn · 4)
    avgLossAmount := stats.avgLossAmount.map (Js.decimalColumn · 4)
    totalCapitalDeployed := totalCapitalDeployed s.orders deployment previousMetric }

/-- A run for the date of `ref`. Without a user of the strategy it throws. -/
def calculateMetrics (s : History S O) (deployment : Deployment S) (ref : Instant) : History S O :=
  let today := dateOf ref
  if deployment.createdBy.all (· = "") ∨ s.metrics.has today then s
  else
    let metric := metricOf s deployment today
    { s with
      metrics := s.metrics.set today metric
      realizedPnl := metric.cumulativePnl
      totalTrades := metric.cumulativeTradesCount }

inductive Event (S O : Type) where
  | saveOrder (id : O) (order : Order S)
  /-- A daily run, a back-fill or one on demand. -/
  | calculateMetrics (ref : Instant)

def step [DecidableEq O] (deployment : Deployment S) (s : History S O) : Event S O → History S O
  | .saveOrder id order => { s with orders := s.orders.set id order }
  | .calculateMetrics ref => calculateMetrics s deployment ref

/-- A deployment without rows. -/
def History.start (orders : OrdMap O (Order S)) : History S O := ⟨orders, .empty, 0, 0⟩

end Run

end Chansey.Performance
