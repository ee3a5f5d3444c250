import Chansey.Domain

/-!
# Return statistics

Mean and variance of a series, the returns of a value series, and the figures derived from them.
-/

namespace Chansey

def mean (values : List ℚ) : ℚ := values.sum / values.length

def variance (values : List ℚ) : ℚ := mean (values.map fun v => (v - mean values) ^ 2)

def seriesReturns (values : List ℚ) : List ℚ :=
  (values.zip values.tail).map fun p => if p.1 = 0 then 0 else (p.2 - p.1) / p.1

def MAX_SHARPE : ℚ := 100

/-- `SharpeRatioCalculator.calculate` for daily returns over 365 days at a risk-free rate of 2%. -/
def sharpeRatio (math : Js.Math) (returns : List ℚ) : ℚ :=
  if returns = [] then 0
  else
    let excessReturns := returns.map (· - 2 / 100 / 365)
    let stdDev := math.sqrt (variance excessReturns)
    -- near-zero volatility has no ratio
    if stdDev < 1 / 10 ^ 10 then 0
    else max (-MAX_SHARPE) (min MAX_SHARPE (mean excessReturns / stdDev * math.sqrt 365))

def annualizedVolatility (math : Js.Math) (returns : List ℚ) : ℚ :=
  math.sqrt (variance returns) * math.sqrt 365

def durationDays (startDate endDate : Instant) : ℤ := (endDate - startDate).tdiv (24 * HOUR_MS)

def annualize (math : Js.Math) (totalReturn : ℚ) (startDate endDate : Instant) : ℚ :=
  let days := durationDays startDate endDate
  if 0 < days then math.pow (1 + totalReturn) (365 / days) - 1 else totalReturn

/-- Profit per loss, at most 10. Profit without loss counts as 10, neither as 1. -/
def profitFactor (grossProfit grossLoss : ℚ) : ℚ :=
  min 10 (if 0 < grossLoss then grossProfit / grossLoss else if 0 < grossProfit then 10 else 1)

end Chansey
