import Chansey.Checkpoint.State
import Chansey.Metrics.Calculator

/-!
# The metrics accumulator

Counters harvested from the rows of a run before they are cleared, carried over checkpoints, and
turned into the final metrics.

* **`countSells_profit_sub_loss`**: profit less loss is what all sells earned.
-/

namespace Chansey

/-! ## Counting sells -/

structure SellCounts where
  sells : ℕ := 0
  winningSells : ℕ := 0
  grossProfit : ℚ := 0
  grossLoss : ℚ := 0
  deriving DecidableEq

/-- The profit of a trade, zero when it has none recorded. -/
def BacktestTrade.pnl (trade : BacktestTrade) : ℚ := trade.realizedPnL.getD 0

def countSell (counts : SellCounts) (trade : BacktestTrade) : SellCounts :=
  if trade.type = some .sell then
    let pnl := trade.pnl
    { sells := counts.sells + 1
      winningSells := if 0 < pnl then counts.winningSells + 1 else counts.winningSells
      grossProfit := if 0 < pnl then counts.grossProfit + pnl else counts.grossProfit
      grossLoss := if pnl < 0 then counts.grossLoss + |pnl| else counts.grossLoss }
  else counts

def countSells (trades : List BacktestTrade) : SellCounts := trades.foldl countSell {}

instance : Add SellCounts where
  add a b :=
    { sells := a.sells + b.sells
      winningSells := a.winningSells + b.winningSells
      grossProfit := a.grossProfit + b.grossProfit
      grossLoss := a.grossLoss + b.grossLoss }

section CountSells

variable (a b c : SellCounts)

theorem SellCounts.ext_fields {a b : SellCounts} (h1 : a.sells = b.sells)
    (h2 : a.winningSells = b.winningSells) (h3 : a.grossProfit = b.grossProfit)
    (h4 : a.grossLoss = b.grossLoss) : a = b := by
  cases a
  cases b
  simp_all

@[simp] theorem add_sells : (a + b).sells = a.sells + b.sells := rfl

@[simp] theorem add_winningSells : (a + b).winningSells = a.winningSells + b.winningSells := rfl

@[simp] theorem add_grossProfit : (a + b).grossProfit = a.grossProfit + b.grossProfit := rfl

@[simp] theorem add_grossLoss : (a + b).grossLoss = a.grossLoss + b.grossLoss := rfl

theorem add_assoc_counts : a + b + c = a + (b + c) :=
  SellCounts.ext_fields (Nat.add_assoc ..) (Nat.add_assoc ..) (add_assoc ..) (add_assoc ..)

theorem add_empty_counts : a + {} = a :=
  SellCounts.ext_fields rfl rfl (add_zero _) (add_zero _)

theorem countSell_eq_add (trade : BacktestTrade) : countSell a trade = a + countSell {} trade := by
  unfold countSell
  split_ifs with hsell
  · refine SellCounts.ext_fields rfl ?_ ?_ ?_
    · by_cases hwin : 0 < trade.pnl <;> simp [add_winningSells, hwin]
    · by_cases hwin : 0 < trade.pnl <;> simp [hwin]
    · by_cases hloss : trade.pnl < 0 <;> simp [hloss]
  · exact (add_empty_counts a).symm

theorem foldl_countSell (trades : List BacktestTrade) :
    trades.foldl countSell a = a + countSells trades := by
  unfold countSells
  induction trades generalizing a with
  | nil => exact (add_empty_counts a).symm
  | cons trade trades ih =>
    rw [List.foldl_cons, List.foldl_cons, ih, ih (countSell {} trade), countSell_eq_add,
      add_assoc_counts]

theorem countSells_append (xs ys : List BacktestTrade) :
    countSells (xs ++ ys) = countSells xs + countSells ys := by
  rw [countSells, List.foldl_append, foldl_countSell]
  rfl

theorem countSells_cons (trade : BacktestTrade) (trades : List BacktestTrade) :
    countSells (trade :: trades) = countSell {} trade + countSells trades :=
  foldl_countSell _ trades

theorem countSells_profit_sub_loss (trades : List BacktestTrade) :
    (countSells trades).grossProfit - (countSells trades).grossLoss =
      ((trades.filter (·.type = some .sell)).map (·.pnl)).sum := by
  induction trades with
  | nil => simp [countSells]
  | cons trade trades ih =>
    rw [countSells_cons, add_grossProfit, add_grossLoss, add_sub_add_comm, ih]
    by_cases hsell : trade.type = some .sell
    · have hkept : (trade :: trades).filter (·.type = some .sell) =
          trade :: trades.filter (·.type = some .sell) := by simp [hsell]
      rw [hkept, List.map_cons, List.sum_cons]
      congr 1
      rcases lt_trichotomy trade.pnl 0 with hpnl | hpnl | hpnl
      · simp [countSell, hsell, hpnl, hpnl.not_gt, abs_of_neg hpnl]
      · simp [countSell, hsell, hpnl]
      · simp [countSell, hsell, hpnl, hpnl.not_gt]
    · simp [countSell, hsell]

theorem countSells_sells (trades : List BacktestTrade) :
    (countSells trades).sells = (trades.filter (·.type = some .sell)).length := by
  induction trades with
  | nil => rfl
  | cons trade trades ih =>
    rw [countSells_cons, add_sells, ih]
    by_cases hsell : trade.type = some .sell
    · simp [countSell, hsell, Nat.add_comm]
    · simp [countSell, hsell]

end CountSells

/-! ## Accumulating -/

structure MetricsAccumulator where
  totalTradeCount : ℕ := 0
  sellCounts : SellCounts := {}
  snapshotValues : List ℚ := []

def PersistedCounts.sellCounts (counts : PersistedCounts) : SellCounts where
  sells := counts.sells
  winningSells := counts.winningSells
  grossProfit := counts.grossProfit
  grossLoss := counts.grossLoss

def createMetricsAccumulator (counts : PersistedCounts) : MetricsAccumulator where
  totalTradeCount := counts.trades
  sellCounts := counts.sellCounts

def harvestMetrics (trades : List BacktestTrade) (snapshots : List PerformanceSnapshot)
    (acc : MetricsAccumulator) : MetricsAccumulator where
  totalTradeCount := acc.totalTradeCount + trades.length
  sellCounts := acc.sellCounts + countSells trades
  snapshotValues := acc.snapshotValues ++ snapshots.map (·.portfolioValue)

/-! ## Final metrics -/

structure BacktestFinalMetrics where
  finalValue : ℚ
  totalReturn : ℚ
  annualizedReturn : ℚ
  sharpeRatio : ℚ
  maxDrawdown : ℚ
  totalTrades : ℕ
  winningTrades : ℕ
  losingTrades : ℤ
  winRate : ℚ
  profitFactor : ℚ
  volatility : ℚ

def calculateFinalMetricsFromAccumulators (math : Js.Math) (initialCapital : ℚ)
    (startDate endDate : Instant) (finalValue maxDrawdown : ℚ) (acc : MetricsAccumulator) :
    BacktestFinalMetrics :=
  let totalReturn := (finalValue - initialCapital) / initialCapital
  let returns := seriesReturns acc.snapshotValues
  let counts := acc.sellCounts
  { finalValue := finalValue
    totalReturn := totalReturn
    annualizedReturn := annualize math totalReturn startDate endDate
    sharpeRatio := sharpeRatio math returns
    maxDrawdown := maxDrawdown
    totalTrades := acc.totalTradeCount
    winningTrades := counts.winningSells
    losingTrades := (counts.sells : ℤ) - counts.winningSells
    winRate := if 0 < counts.sells then counts.winningSells / counts.sells else 0
    profitFactor := profitFactor counts.grossProfit counts.grossLoss
    volatility := if returns = [] then 0 else annualizedVolatility math returns }

end Chansey
