import Chansey.Exit.Signals
import Chansey.Loop.Bar

/-!
# The price an exit fills at

The tracker gives each exit the level it is due at. The executor is handed a plain sell and fills
it from the price of the market it is handed, the close of the bar.
-/

namespace Chansey

open BacktestExitTracker

/-! ## The price an exit should fill at -/

def TrackedExit.levelAtOpen (tracked : TrackedExit) : ExitType → Option ℚ
  | .stopLoss => tracked.stopLossPrice
  | .takeProfit => tracked.takeProfitPrice
  | .trailingStop => if tracked.trailingActivated then tracked.trailingStopPrice else none

def opensBeyond (tracked : TrackedExit) (candle : OHLCCandle) (exitType : ExitType) : Bool :=
  (tracked.levelAtOpen exitType).any fun level =>
    if exitType = .takeProfit then level < candle.openPrice else candle.openPrice < level

def clampToBar (candle : OHLCCandle) (level : ℚ) : ℚ :=
  if level < candle.low then candle.low
  else if candle.high < level then candle.high
  else level

def exitFillPrice (tracked : TrackedExit) (candle : OHLCCandle) (exitType : ExitType)
    (level : ℚ) : ℚ :=
  if opensBeyond tracked candle exitType then candle.openPrice else clampToBar candle level

def LevelTraded (tracked : TrackedExit) (candle : OHLCCandle) (exitType : ExitType)
    (level : ℚ) : Prop :=
  if opensBeyond tracked candle exitType then candle.openPrice = level
  else candle.low ≤ level ∧ level ≤ candle.high

theorem clampToBar_eq_iff {candle : OHLCCandle} {level : ℚ} :
    clampToBar candle level = level ↔ candle.low ≤ level ∧ level ≤ candle.high := by
  unfold clampToBar
  split_ifs with hlow hhigh
  · exact iff_of_false hlow.ne' fun h => absurd h.1 (not_le.mpr hlow)
  · exact iff_of_false hhigh.ne fun h => absurd h.2 (not_le.mpr hhigh)
  · exact iff_of_true rfl ⟨not_lt.mp hlow, not_lt.mp hhigh⟩

variable {tracked : TrackedExit} {tracker : BacktestExitTracker} {lowPrice highPrice : ℚ}
  {signal : ExitSignal}

theorem exitFillPrice_eq_iff {candle : OHLCCandle} {exitType : ExitType} {level : ℚ} :
    exitFillPrice tracked candle exitType level = level ↔
      LevelTraded tracked candle exitType level := by
  unfold exitFillPrice LevelTraded
  split_ifs
  · exact Iff.rfl
  · exact clampToBar_eq_iff

/-! ## The price an exit does fill at -/

def ExecuteTradeParams.basePrice? (order : ExecuteTradeParams) : Option ℚ :=
  (order.marketData.prices.get? order.signal.coinId).map (resolveBasePrice order.signal)

section

variable {coinId : CoinId}
  (h : (tracker.checkPosition coinId tracked lowPrice highPrice).signal = some signal)

include h

theorem checkPosition_metadata : signal.metadata.get? "hardStopLoss" = none := by
  unfold checkPosition at h
  dsimp only at h
  split at h
  · cases h
    rfl
  split at h
  · cases h
    rfl
  split_ifs at h
  · split at h
    · cases h
      rfl
    · cases h

theorem checkPosition_coinId : signal.coinId = coinId :=
  ((tracker.checkPosition_spec coinId tracked lowPrice highPrice).2 signal h).1

end

theorem exitTradingSignal_basePrice (fullFidelity : Bool)
    (h : signal.metadata.get? "hardStopLoss" = none) (marketPrice : ℚ) :
    resolveBasePrice (exitTradingSignal fullFidelity signal) marketPrice = marketPrice := by
  have habsent : (exitTradingSignal fullFidelity signal).metadata.get? "hardStopLoss" = none := by
    rw [exitTradingSignal, OrdMap.get?_set_of_ne _ _ (by decide)]
    cases fullFidelity with
    | true => exact h
    | false => rfl
  rw [resolveBasePrice, if_neg]
  simp [Metadata.truthy, habsent]

section Bar

variable (cfg : TradingConfig) (fullFidelity : Bool) (bar : Bar)
  (prevCandleMap : OrdMap CoinId OHLCCandle) (tracker : BacktestExitTracker)

def Bar.exitMarket : BarMarket := bar.marketAt getPriceValue prevCandleMap

def Bar.candle? (coinId : CoinId) : Option OHLCCandle := (candleMap bar.currentPrices).get? coinId

variable {bar prevCandleMap tracker}

theorem get?_priceMap (value : OHLCCandle → ℚ) (candles : List OHLCCandle) (coinId : CoinId) :
    (priceMap value candles).get? coinId = ((candleMap candles).get? coinId).map value := by
  unfold priceMap candleMap
  rw [← OrdMap.get?_ofEntries_values value, List.map_map]
  rfl

theorem mem_triggeredExits {signal : ExitSignal} :
    signal ∈ (triggeredExits (bar.exitMarket prevCandleMap) tracker bar.index).2 ↔
      ∃ c tracked candle, tracker.positions.get? c = some tracked ∧ bar.candle? c = some candle ∧
        0 < candle.close ∧
          (tracker.checkPosition c tracked candle.low candle.high).signal = some signal := by
  have hvalue : ∀ (value : OHLCCandle → ℚ) c, (OrdMap.ofEntries
      ((bar.exitMarket prevCandleMap).currentPrices.map fun k => (k.coinId, value k))).get? c =
        (bar.candle? c).map value := fun value c => get?_priceMap value bar.currentPrices c
  have hclose : ∀ c, (bar.exitMarket prevCandleMap).marketData.prices.get? c =
      (bar.candle? c).map (·.close) := fun c => get?_priceMap getPriceValue bar.currentPrices c
  refine (tracker.mem_checkExits _ _ _ bar.index).trans ?_
  refine exists_congr fun c => exists_congr fun tracked => ?_
  simp only [barSignal, barCheck]
  rw [hvalue (·.low), hvalue (·.high), hclose]
  cases bar.candle? c with
  | none => simp
  | some candle =>
    by_cases hpos : 0 < candle.close
    · simp [Option.filter, hpos]
    · simp [Option.filter, hpos]

theorem exitOrder_basePrice {signal : ExitSignal}
    (h : signal ∈ (triggeredExits (bar.exitMarket prevCandleMap) tracker bar.index).2) :
    (exitOrder cfg fullFidelity (bar.exitMarket prevCandleMap) signal).basePrice? =
      (bar.candle? signal.coinId).map (·.close) := by
  obtain ⟨c, _, _, -, -, -, hsig⟩ := mem_triggeredExits.mp h
  have hbase : resolveBasePrice
      (exitOrder cfg fullFidelity (bar.exitMarket prevCandleMap) signal).signal = id := by
    funext price
    exact exitTradingSignal_basePrice fullFidelity (checkPosition_metadata hsig) price
  rw [ExecuteTradeParams.basePrice?, hbase, Option.map_id, id]
  exact get?_priceMap getPriceValue bar.currentPrices signal.coinId

theorem filled_basePrice {math : Js.Math} {order : ExecuteTradeParams}
    {portfolio after : Portfolio} {result : ExecuteTradeResult}
    (h : FilledTrade math order portfolio result after) :
    Metadata.number? result.trade.metadata "basePrice" = order.basePrice? := by
  obtain ⟨_, booked, _, _, hprice, -, -, -, -, rfl, -⟩ := h.exists_booking
  rw [ExecuteTradeParams.basePrice?, hprice, Option.map_some]
  have hbase : ∀ (m : Metadata) (k : String) (v : MetaValue), k ≠ "basePrice" →
      Metadata.number? (m.set k v) "basePrice" = Metadata.number? m "basePrice" := by
    intro m k v hk
    rw [Metadata.number?, OrdMap.get?_set_of_ne _ _ hk, Metadata.number?]
  simp only [tradeRow, tradeMetadata]
  cases booked.holdTimeMs <;> cases booked.requestedQuantity <;> split_ifs <;>
    simp only [Option.elim_none, Option.elim_some, hbase, ne_eq, not_false_eq_true,
      String.reduceEq] <;>
    simp [Metadata.number?]

variable (bar prevCandleMap tracker)

/-- An exit fills from `price`: the price it asks for, the base price of its order, and the base
price that its trade records. -/
structure FillsAt (signal : ExitSignal) (price : ℚ) : Prop where
  asked : signal.executionPrice = price
  base : (exitOrder cfg fullFidelity (bar.exitMarket prevCandleMap) signal).basePrice? = some price
  recorded : ∀ math portfolio result after,
    executeTrade math (exitOrder cfg fullFidelity (bar.exitMarket prevCandleMap) signal)
        portfolio = .ok (some result, after) →
      result.fillStatus ≠ .cancelled →
        Metadata.number? result.trade.metadata "basePrice" = some price

/-- **Every exit of the bar fills at its price**: its level as the bar can trade it. -/
def ExitFillsAtLevel : Prop :=
  ∀ signal ∈ (triggeredExits (bar.exitMarket prevCandleMap) tracker bar.index).2,
    ∀ tracked candle level, tracker.positions.get? signal.coinId = some tracked →
      bar.candle? signal.coinId = some candle →
        DueExit tracker tracked candle.low candle.high signal.exitType level →
          FillsAt cfg fullFidelity bar prevCandleMap signal
            (exitFillPrice tracked candle signal.exitType level)

/-- **The bar closes at every level that is due on it**, and trades there without a gap. -/
def ClosesAtLevels : Prop :=
  ∀ c tracked candle exitType level, tracker.positions.get? c = some tracked →
    bar.candle? c = some candle → 0 < candle.close →
      DueExit tracker tracked candle.low candle.high exitType level →
        candle.close = level ∧ LevelTraded tracked candle exitType level

/-- **Exits fill at their price exactly on bars that close at the levels due.** -/
theorem exitFillsAtLevel_iff :
    ExitFillsAtLevel cfg fullFidelity bar prevCandleMap tracker ↔ ClosesAtLevels bar tracker := by
  constructor
  · intro h c tracked candle exitType level hget hcandle hclose hdue
    obtain ⟨signal, hsignal, rfl, rfl⟩ := (checkPosition_signal_iff c).mpr hdue
    have hcoin := checkPosition_coinId hsignal
    have hmem : signal ∈ (triggeredExits (bar.exitMarket prevCandleMap) tracker bar.index).2 :=
      mem_triggeredExits.mpr ⟨c, tracked, candle, hget, hcandle, hclose, hsignal⟩
    rw [← hcoin] at hget hcandle
    obtain ⟨hasked, hbase, -⟩ := h signal hmem tracked candle _ hget hcandle hdue
    rw [← hasked, exitOrder_basePrice cfg fullFidelity hmem, hcandle] at hbase
    exact ⟨Option.some_inj.mp hbase, exitFillPrice_eq_iff.mp hasked.symm⟩
  · intro h signal hmem tracked candle level hget hcandle hdue
    obtain ⟨c, _, _, hget', hcandle', hclose, hsignal⟩ := mem_triggeredExits.mp hmem
    obtain rfl := checkPosition_coinId hsignal
    rw [hget] at hget'
    rw [hcandle] at hcandle'
    cases hget'
    cases hcandle'
    obtain ⟨hlevel, htraded⟩ := h _ tracked candle _ level hget hcandle hclose hdue
    have hasked : signal.executionPrice = level :=
      (dueExit_unique ((checkPosition_signal_iff _).mp ⟨signal, hsignal, rfl, rfl⟩) hdue).2
    have hbase : (exitOrder cfg fullFidelity (bar.exitMarket prevCandleMap) signal).basePrice? =
        some level := by
      rw [exitOrder_basePrice cfg fullFidelity hmem, hcandle, Option.map_some, hlevel]
    rw [exitFillPrice_eq_iff.mpr htraded]
    refine ⟨hasked, hbase, fun math portfolio result after hexec hstatus => ?_⟩
    rcases executeTrade_some hexec with ⟨hcancelled, -⟩ | ⟨-, hfilled⟩
    · exact absurd hcancelled.status hstatus
    · rw [filled_basePrice hfilled, hbase]

end Bar

def stoppedAt95 : BacktestExitTracker where
  config := DEFAULT_BACKTEST_EXIT_CONFIG
  positions := OrdMap.empty.set "btc"
    (newTracked 100 1 none DEFAULT_BACKTEST_EXIT_CONFIG none)

def fallingBar : Bar where
  index := 1
  timestamp := HOUR_MS
  currentPrices := [⟨"btc", HOUR_MS, 100, 101, 90, 92, 0, none⟩]

def feelessConfig : TradingConfig where
  backtest := ⟨"backtest", 0, 1000, 0, 0, OrdMap.empty, none, none⟩
  slippageConfig := { DEFAULT_SLIPPAGE_CONFIG with type := .none }
  minHoldMs := 0
  maxAllocation := 1
  minAllocation := 0
  oppSellingEnabled := false
  oppSellingConfig := {}
  coinMap := OrdMap.empty
  quoteCoin := ⟨"usd", "USD"⟩

/-- **A stop-loss at 95 fills from the close at 92.** -/
theorem stop_fillsAtClose :
    ¬ ExitFillsAtLevel feelessConfig true fallingBar OrdMap.empty stoppedAt95 := by
  rw [exitFillsAtLevel_iff]
  intro h
  have hstop := h "btc" (newTracked 100 1 none DEFAULT_BACKTEST_EXIT_CONFIG none)
    ⟨"btc", HOUR_MS, 100, 101, 90, 92, 0, none⟩ .stopLoss 95 rfl rfl (by norm_num)
    (.stopLoss rfl (by norm_num [newTracked, DEFAULT_BACKTEST_EXIT_CONFIG,
      calculateStopLossPrice, ExitSide.below]) (by norm_num))
  norm_num at hstop

end Chansey
