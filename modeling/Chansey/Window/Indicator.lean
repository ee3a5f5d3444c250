import Chansey.Algorithm
import Chansey.Window.Price

/-!
# Precomputed indicators

Indicator series are computed once over the whole series of each coin. On a bar a strategy reads
the slice that ends at the index of the bar on the merged timeline of all coins.
-/

namespace Chansey

/-! ## The timeline -/

def groupPricesByTimestamp (candles : List OHLCCandle) : OrdMap Instant (List OHLCCandle) :=
  candles.foldl
    (fun grouped candle =>
      grouped.set candle.timestamp ((grouped.get? candle.timestamp).getD [] ++ [candle]))
    OrdMap.empty

/-- The times of all candles, in order, each once. -/
def timeline (candles : List OHLCCandle) : List Instant :=
  (groupPricesByTimestamp candles).keys.insertionSort (· ≤ ·)

/-! ## Precomputing -/

inductive IndicatorType where
  | ema | sma | rsi | macd | bollingerBands | atr | adx

structure IndicatorRequirement where
  type : IndicatorType
  paramKeys : List String
  defaultParams : OrdMap String ℚ

structure MACDPoint where
  macd : Option ℚ
  signal : Option ℚ
  histogram : Option ℚ

structure BollingerPoint where
  upper : ℚ
  middle : ℚ
  lower : ℚ
  pb : Option ℚ

structure ADXSeries where
  adx : List ℚ
  pdi : List ℚ
  mdi : List ℚ

/-- The indicator calculators. They rest on a package, so nothing is assumed of them; `none` when
one throws. -/
structure Calculators where
  ema : List ℚ → ℚ → Option (List ℚ)
  sma : List ℚ → ℚ → Option (List ℚ)
  rsi : List ℚ → ℚ → Option (List ℚ)
  macd : List ℚ → (fastPeriod slowPeriod signalPeriod : ℚ) → Option (List MACDPoint)
  bollinger : List ℚ → (period stdDev : ℚ) → Option (List BollingerPoint)
  atr : (high low close : List ℚ) → ℚ → Option (List ℚ)
  adx : (high low close : List ℚ) → ℚ → Option ADXSeries

/-- The values at the end of `targetLength` places, not yet defined before. -/
def padIndicatorArray (values : List (Option ℚ)) (targetLength : ℕ) : List (Option ℚ) :=
  if values.length < targetLength then
    List.replicate (targetLength - values.length) none ++ values
  else values.take targetLength

abbrev CoinIndicators := OrdMap String (List (Option ℚ))

/-- Write padded series under keys that start with `key`. -/
def setSeries (targetLength : ℕ) (key : String) (series : List (String × List (Option ℚ)))
    (indicators : CoinIndicators) : CoinIndicators :=
  series.foldl (fun m e => m.set (key ++ e.1) (padIndicatorArray e.2 targetLength)) indicators

/-- Compute a requirement unless its first key is there or the series is too short for it. -/
def addIndicator (targetLength : ℕ) (key : String) (probe : String) (enough : Bool)
    (series : Option (List (String × List (Option ℚ)))) (indicators : CoinIndicators) :
    CoinIndicators :=
  if indicators.has (key ++ probe) ∨ ¬ enough then indicators
  else
    match series with
    | none => indicators
    | some series => setSeries targetLength key series indicators

def periodIndicator (targetLength : ℕ) (name : String) (period : ℚ) (enough : Bool)
    (raw : Option (List ℚ)) (indicators : CoinIndicators) : CoinIndicators :=
  addIndicator targetLength (name ++ "_" ++ Js.numberText period) "" enough
    (raw.map fun values => [("", values.map some)]) indicators

def resolveParam (parameters : Metadata) (req : IndicatorRequirement) (index : ℕ) : Option ℚ :=
  req.paramKeys[index]?.bind fun key =>
    (Metadata.number? parameters key).or (req.defaultParams.get? key)

def computeRequirement (calculators : Calculators) (parameters : Metadata) (summaries : List PriceSummary)
    (indicators : CoinIndicators) (req : IndicatorRequirement) : CoinIndicators :=
  let avgPrices := summaries.map (·.avg)
  let highPrices := summaries.map (·.high)
  let lowPrices := summaries.map (·.low)
  let length := avgPrices.length
  let param (index : ℕ) := resolveParam parameters req index
  match req.type, param 0, param 1, param 2 with
  | .ema, some period, _, _ =>
    periodIndicator length "ema" period (period ≤ length) (calculators.ema avgPrices period) indicators
  | .sma, some period, _, _ =>
    periodIndicator length "sma" period (period ≤ length) (calculators.sma avgPrices period) indicators
  | .rsi, some period, _, _ =>
    periodIndicator length "rsi" period (period < length) (calculators.rsi avgPrices period) indicators
  | .macd, some fast, some slow, some signal =>
    addIndicator length
      ("macd_" ++ Js.numberText fast ++ "_" ++ Js.numberText slow ++ "_" ++ Js.numberText signal)
      "_macd" (slow + signal - 1 ≤ length)
      ((calculators.macd avgPrices fast slow signal).map fun raw =>
        [("_macd", raw.map (·.macd)), ("_signal", raw.map (·.signal)),
          ("_histogram", raw.map (·.histogram))]) indicators
  | .bollingerBands, some period, some stdDev, _ =>
    addIndicator length ("bb_" ++ Js.numberText period ++ "_" ++ Js.numberText stdDev) "_upper"
      (period ≤ length)
      ((calculators.bollinger avgPrices period stdDev).map fun raw =>
        [("_upper", raw.map fun r => some r.upper), ("_middle", raw.map fun r => some r.middle),
          ("_lower", raw.map fun r => some r.lower), ("_pb", raw.map (·.pb)),
          ("_bandwidth", raw.map fun r =>
            if r.middle ≠ 0 then some ((r.upper - r.lower) / r.middle) else none)]) indicators
  | .atr, some period, _, _ =>
    periodIndicator length "atr" period (period < length)
      (calculators.atr highPrices lowPrices avgPrices period) indicators
  | .adx, some period, _, _ =>
    addIndicator length ("adx_" ++ Js.numberText period) "" (period * 2 ≤ length)
      ((calculators.adx highPrices lowPrices avgPrices period).map fun raw =>
        [("", raw.adx.map some), ("_pdi", raw.pdi.map some), ("_mdi", raw.mdi.map some)]) indicators
  | _, _, _, _ => indicators

def precomputeIndicators (calculators : Calculators) (requirements : Option (List IndicatorRequirement))
    (parameters : Metadata) (coins : List Coin) (ctx : PriceTrackingContext) :
    Option PrecomputedIndicators :=
  match requirements with
  | none | some [] => none
  | some requirements =>
    let result := coins.foldl (fun result coin =>
      let summaries := (ctx.summariesByCoin.get? coin.id).getD []
      if summaries.isEmpty then result
      else
        let indicators := requirements.foldl (computeRequirement calculators parameters summaries)
          OrdMap.empty
        if indicators.size = 0 then result else result.set coin.id indicators) OrdMap.empty
    if result.size = 0 then none else some result

theorem length_padIndicatorArray (values : List (Option ℚ)) (n : ℕ) :
    (padIndicatorArray values n).length = n := by
  unfold padIndicatorArray
  split_ifs with h
  · rw [List.length_append, List.length_replicate]
    omega
  · rw [List.length_take]
    omega

/-! ## The slice of a bar -/

def indicatorSeries (context : AlgorithmContext) (coinId : CoinId) (key : String) :
    Option (List (Option ℚ)) :=
  context.precomputedIndicators.bind fun m => (m.get? coinId).bind (·.get? key)

/-- `BaseAlgorithmStrategy.getPrecomputedSlice` -/
def getPrecomputedSlice (context : AlgorithmContext) (coinId : CoinId) (key : String)
    (windowLength : ℕ) : Option (List (Option ℚ)) :=
  (indicatorSeries context coinId key).map fun fullSeries =>
    let idx := context.currentTimestampIndex
    let start := idx + 1 - windowLength
    (fullSeries.take (idx + 1)).drop start

/-- The candles of a coin, and those dated at or before a time. -/
def barsOf (candles : List OHLCCandle) (coinId : CoinId) : ℕ :=
  (candles.filter fun c => c.coinId = coinId).length

def barsUpTo (candles : List OHLCCandle) (coinId : CoinId) (timestamp : Instant) : ℕ :=
  (candles.filter fun c => c.coinId = coinId ∧ c.timestamp ≤ timestamp).length

/-- The windows of bar `i`, at the time `timestamp`, of a run on `candles`. -/
def windowsAt (candles : List OHLCCandle) (coins : List Coin) (i : ℕ) (timestamp : Instant) :
    PriceSummaryByPeriod :=
  (advancePriceWindows
    (fastForward (initPriceTracking candles (coins.map (·.id))) coins ((timeline candles).take i))
    coins timestamp).2

section Aligned

variable {candles : List OHLCCandle} {coins : List Coin} {coinId : CoinId} {timestamp : Instant}
  {i windowLength : ℕ} {window : List PriceSummary}

theorem groupAndSortByCoins_counts {coinIds : List CoinId} {summaries : List PriceSummary}
    (h : (groupAndSortByCoins candles coinIds).get? coinId = some summaries) :
    summaries.length = barsOf candles coinId ∧
      (summaries.takeWhile (reached timestamp)).length = barsUpTo candles coinId timestamp := by
  let own := candles.filter fun c => c.coinId = coinId
  let sorted := own.insertionSort fun a b => a.timestamp ≤ b.timestamp
  have hsummaries : summaries = sorted.map buildPriceSummary := by
    rw [groupAndSortByCoins, OrdMap.get?_ofKeys] at h
    split_ifs at h
    exact (Option.some.inj h).symm
  have hperm : sorted.Perm own := List.perm_insertionSort _ own
  have hsort : sorted.Pairwise fun a b => a.timestamp ≤ b.timestamp := by
    have htrans : IsTrans OHLCCandle fun a b => a.timestamp ≤ b.timestamp := ⟨fun _ _ _ => le_trans⟩
    have htotal : Std.Total fun a b : OHLCCandle => a.timestamp ≤ b.timestamp :=
      ⟨fun a b => le_total a.timestamp b.timestamp⟩
    exact List.pairwise_insertionSort _ own
  constructor
  · rw [hsummaries, List.length_map, hperm.length_eq]
    rfl
  · have hmono : summaries.Pairwise fun a b =>
        reached timestamp b = true → reached timestamp a = true := by
      rw [hsummaries, List.pairwise_map]
      refine hsort.imp fun hab hb => ?_
      exact decide_eq_true (hab.trans (of_decide_eq_true hb))
    rw [Cursor.takeWhile_eq_filter hmono, hsummaries, List.filter_map, List.length_map,
      (hperm.filter _).length_eq, List.filter_filter, barsUpTo]
    refine congrArg List.length (List.filter_congr fun c _ => ?_)
    rw [Bool.eq_iff_iff, Bool.and_eq_true]
    constructor
    · rintro ⟨hdate, hcoin⟩
      exact decide_eq_true ⟨of_decide_eq_true hcoin, of_decide_eq_true hdate⟩
    · intro hboth
      obtain ⟨hcoin, hdate⟩ := of_decide_eq_true hboth
      exact ⟨decide_eq_true hdate, decide_eq_true hcoin⟩

theorem timeline_take_le (hi : (timeline candles)[i]? = some timestamp) :
    ∀ t ∈ (timeline candles).take i, t ≤ timestamp := by
  have hsort : (timeline candles).Pairwise (· ≤ ·) :=
    List.pairwise_insertionSort (· ≤ ·) (groupPricesByTimestamp candles).keys
  intro t ht
  obtain ⟨hlt, hget⟩ := List.getElem?_eq_some_iff.mp hi
  have hdrop : timestamp ∈ (timeline candles).drop i := by
    rw [List.drop_eq_getElem_cons hlt, hget]
    exact List.mem_cons_self
  rw [← List.take_append_drop i (timeline candles), List.pairwise_append] at hsort
  exact hsort.2.2 t ht timestamp hdrop

theorem barsUpTo_pos (hi : (timeline candles)[i]? = some timestamp)
    (hwin : (windowsAt candles coins i timestamp).get? coinId = some window) :
    0 < barsUpTo candles coinId timestamp := by
  rw [windowsAt] at hwin
  change (advanceWindows _ _ _).2.get? coinId = _ at hwin
  rw [fastForward_tracking, advanceWindows_advanceTracking (timeline_take_le hi),
    initPriceTracking, advanceWindows_initTracking] at hwin
  split_ifs at hwin
  obtain ⟨_, hget, hsome⟩ := Option.bind_eq_some_iff.mp hwin
  split_ifs at hsome with hnil
  rw [← (groupAndSortByCoins_counts hget).2]
  exact List.length_pos_of_ne_nil hnil

theorem barsUpTo_le (candles : List OHLCCandle) (coinId : CoinId) (timestamp : Instant) :
    barsUpTo candles coinId timestamp ≤ barsOf candles coinId := by
  refine (List.monotone_filter_right candles fun c hc => ?_).length_le
  have hboth := of_decide_eq_true hc
  exact decide_eq_true hboth.1

theorem getLast?_slice (series : List (Option ℚ)) (i windowLength : ℕ) :
    ((series.take (i + 1)).drop (i + 1 - windowLength)).getLast? =
      if min (i + 1) series.length ≤ i + 1 - windowLength then none
      else series[min i (series.length - 1)]? := by
  rw [List.getLast?_drop, List.length_take]
  split_ifs with hempty
  · rfl
  · rw [List.getLast?_take, if_neg (Nat.succ_ne_zero i), Nat.add_sub_cancel]
    by_cases hi : i < series.length
    · rw [List.getElem?_eq_getElem hi, Option.some_or, min_eq_left (by omega),
        List.getElem?_eq_getElem hi]
    · rw [List.getElem?_eq_none (not_lt.mp hi), Option.none_or, min_eq_right (by omega),
        List.getLast?_eq_getElem?]

/-- **The slice of a bar ends at the coin's latest candle exactly when the coin has had one candle
for every bar so far, or when all its candles are past and the window still reaches the last one.**
-/
theorem getPrecomputedSlice_aligned_iff (hi : (timeline candles)[i]? = some timestamp)
    (hwindow : (windowsAt candles coins i timestamp).get? coinId = some window) (windowLength : ℕ) :
    (∀ (context : AlgorithmContext) key raw, context.currentTimestampIndex = i →
        indicatorSeries context coinId key = some (padIndicatorArray raw (barsOf candles coinId)) →
        (getPrecomputedSlice context coinId key windowLength).bind (·.getLast?) =
          (padIndicatorArray raw (barsOf candles coinId))[
            barsUpTo candles coinId timestamp - 1]?) ↔
      0 < windowLength ∧ (barsUpTo candles coinId timestamp = i + 1 ∨
        (barsUpTo candles coinId timestamp = barsOf candles coinId ∧
          barsOf candles coinId ≤ i + 1 ∧ i + 1 < barsOf candles coinId + windowLength)) := by
  have hpos := barsUpTo_pos hi hwindow
  have hle := barsUpTo_le candles coinId timestamp
  let n := barsUpTo candles coinId timestamp
  let total := barsOf candles coinId
  change 0 < n at hpos
  change n ≤ total at hle
  change _ ↔ 0 < windowLength ∧ (n = i + 1 ∨ (n = total ∧ total ≤ i + 1 ∧
    i + 1 < total + windowLength))
  have hslice : ∀ (context : AlgorithmContext) key raw, context.currentTimestampIndex = i →
      indicatorSeries context coinId key = some (padIndicatorArray raw total) →
      (getPrecomputedSlice context coinId key windowLength).bind (·.getLast?) =
        if min (i + 1) total ≤ i + 1 - windowLength then none
        else (padIndicatorArray raw total)[min i (total - 1)]? := by
    intro context key raw hindex hseries
    rw [getPrecomputedSlice, hseries, hindex, Option.map_some, Option.bind_some, getLast?_slice,
      length_padIndicatorArray]
  constructor
  · intro haligned
    -- the series that has its own index at every place
    let raw := (List.range total).map fun j : ℕ => some (j : ℚ)
    have hraw : padIndicatorArray raw total = raw := by
      have hlength : raw.length = total := by rw [List.length_map, List.length_range]
      rw [padIndicatorArray, if_neg (by omega), ← hlength, List.take_length]
    let context : AlgorithmContext :=
      { coins := [], priceData := OrdMap.empty, timestamp := timestamp, config := OrdMap.empty
        positions := OrdMap.empty, availableBalance := 0, metadata := OrdMap.empty
        precomputedIndicators :=
          some (OrdMap.empty.set coinId (OrdMap.empty.set "index" (padIndicatorArray raw total)))
        currentTimestampIndex := i, priceDataByTimeframe := none, compositeRegime := none
        volatilityRegime := none }
    have hseries : indicatorSeries context coinId "index" = some (padIndicatorArray raw total) := by
      simp [indicatorSeries, context]
    have hread := haligned context "index" raw rfl hseries
    rw [hslice context "index" raw rfl hseries, hraw] at hread
    have hat : ∀ j < total, raw[j]? = some (some (j : ℚ)) := by
      intro j hj
      simp [raw, hj]
    change _ = raw[n - 1]? at hread
    rw [hat (n - 1) (by omega)] at hread
    split_ifs at hread with hempty
    · rw [hat (min i (total - 1)) (by omega)] at hread
      have hindex : min i (total - 1) = n - 1 := by
        have hcast := Option.some.inj (Option.some.inj hread)
        exact_mod_cast hcast
      omega
  · rintro ⟨_, _⟩ context key raw hindex hseries
    rw [hslice context key raw hindex hseries, if_neg (by omega)]
    have hsame : min i (total - 1) = n - 1 := by omega
    rw [hsame]

end Aligned

def lateCandles : List OHLCCandle :=
  let candle (coinId : CoinId) (hour : ℤ) (price : ℚ) : OHLCCandle :=
    { coinId := coinId, timestamp := hour * HOUR_MS, openPrice := price, high := price,
      low := price, close := price }
  [candle "btc" 0 100, candle "btc" 1 101, candle "btc" 2 102, candle "eth" 1 10, candle "eth" 2 20]

def lateCoins : List Coin := [⟨"btc", "BTC"⟩, ⟨"eth", "ETH"⟩]

theorem getPrecomputedSlice_aligned_btc :
    barsUpTo lateCandles "btc" HOUR_MS = 2 ∧
      ∀ (context : AlgorithmContext) key raw, context.currentTimestampIndex = 1 →
        indicatorSeries context "btc" key =
          some (padIndicatorArray raw (barsOf lateCandles "btc")) →
        (getPrecomputedSlice context "btc" key 2).bind (·.getLast?) =
          (padIndicatorArray raw (barsOf lateCandles "btc"))[
            barsUpTo lateCandles "btc" HOUR_MS - 1]? := by
  have hi : (timeline lateCandles)[1]? = some HOUR_MS := by decide +kernel
  have hwindow : ((windowsAt lateCandles lateCoins 1 HOUR_MS).get? "btc").isSome := by
    decide +kernel
  obtain ⟨_, hwindow⟩ := Option.isSome_iff_exists.mp hwindow
  refine ⟨by decide +kernel, (getPrecomputedSlice_aligned_iff hi hwindow 2).mpr ?_⟩
  decide +kernel

def lateContext : AlgorithmContext where
  coins := lateCoins
  priceData := windowsAt lateCandles lateCoins 1 HOUR_MS
  timestamp := HOUR_MS
  config := OrdMap.empty
  positions := OrdMap.empty
  availableBalance := 0
  metadata := OrdMap.empty
  precomputedIndicators :=
    some (OrdMap.empty.set "eth" (OrdMap.empty.set "sma_1" (padIndicatorArray [some 10, some 20] 2)))
  currentTimestampIndex := 1
  priceDataByTimeframe := none
  compositeRegime := none
  volatilityRegime := none

/-- **On the first bar of a coin that starts late, the slice ends at its second candle**: `20`, from
an hour ahead, where its window ends at `10`. -/
theorem lateCoin_reads_ahead :
    (lateContext.priceData.get? "eth").map (·.map (·.avg)) = some [10] ∧
      getPrecomputedSlice lateContext "eth" "sma_1" 1 = some [some 20] ∧
      ¬ ∀ candles coins i timestamp coinId window windowLength,
        (timeline candles)[i]? = some timestamp →
        (windowsAt candles coins i timestamp).get? coinId = some window → 0 < windowLength →
        ∀ (context : AlgorithmContext) key raw, context.currentTimestampIndex = i →
          indicatorSeries context coinId key =
            some (padIndicatorArray raw (barsOf candles coinId)) →
          (getPrecomputedSlice context coinId key windowLength).bind (·.getLast?) =
            (padIndicatorArray raw (barsOf candles coinId))[
              barsUpTo candles coinId timestamp - 1]? := by
  have hwindow : (lateContext.priceData.get? "eth").map (·.map (·.avg)) = some [10] := by
    decide +kernel
  have hslice : getPrecomputedSlice lateContext "eth" "sma_1" 1 = some [some 20] := by decide +kernel
  refine ⟨hwindow, hslice, fun h => ?_⟩
  obtain ⟨window, hget, -⟩ := Option.map_eq_some_iff.mp hwindow
  have hread := h lateCandles lateCoins 1 HOUR_MS "eth" window 1 (by decide +kernel) hget
    Nat.one_pos lateContext "sma_1" [some 10, some 20] rfl (by decide +kernel)
  rw [hslice] at hread
  revert hread
  decide +kernel

end Chansey
