import Chansey.Lib.BinarySearch
import Chansey.Lib.Keyed
import Chansey.Scoring.WalkForward
import Chansey.Window.Indicator
import Chansey.Window.Timeframe

/-!
# The data of an evaluation window

The candles of an optimization run are loaded once. The bars of a window are cut from them, together
with a warm-up before the window, and the index is searched from which on bars are traded.

* `extractCandleSegments`: the candles of a range, by binary search;
  **`mem_extractCandleSegments`**.
* `MarksBars`: exactly the bars from the start on are tradable. **`marksBars_iff`**: there is one, or
  no bar at all.
-/

namespace Chansey.Optimization

open WalkForward

/-! ## Candles -/

structure PreloadedCandles where
  byCoin : OrdMap CoinId (List OHLCCandle)
  ascending : ∀ coinId candles, byCoin.get? coinId = some candles →
    candles.Pairwise fun a b => a.timestamp ≤ b.timestamp

def loadAndIndexCandles (allCandles : List OHLCCandle)
    (hsorted : allCandles.Pairwise fun a b => a.timestamp ≤ b.timestamp) : PreloadedCandles where
  byCoin := OrdMap.groupBy (·.coinId) allCandles
  ascending coinId candles h := by
    rw [OrdMap.get?_groupBy] at h
    split_ifs at h
    cases h
    exact hsorted.sublist List.filter_sublist

def binarySearchLeft (candles : List OHLCCandle) (targetTime : Instant) : ℕ :=
  BinarySearch.search (fun c => c.timestamp < targetTime) candles

def binarySearchRight (candles : List OHLCCandle) (targetTime : Instant) : ℕ :=
  BinarySearch.search (fun c => c.timestamp ≤ targetTime) candles

def candleSegment (candlesByCoin : OrdMap CoinId (List OHLCCandle)) (startTime endTime : Instant)
    (coinId : CoinId) : List OHLCCandle :=
  let coinCandles := (candlesByCoin.get? coinId).getD []
  let left := binarySearchLeft coinCandles startTime
  let right := binarySearchRight coinCandles endTime
  if left < right then (coinCandles.take right).drop left else []

def extractCandleSegments (coins : List Coin) (candlesByCoin : OrdMap CoinId (List OHLCCandle))
    (startTime endTime : Instant) : List OHLCCandle :=
  (coins.map (·.id)).eraseDups.flatMap (candleSegment candlesByCoin startTime endTime)

/-! ## Windows -/

structure PrecomputedWindowData where
  pricesByTimestamp : OrdMap Instant (List OHLCCandle)
  timestamps : List Instant
  summariesByCoin : OrdMap CoinId (List PriceSummary)
  volumeMap : OrdMap (Instant × CoinId) ℚ
  filteredCandles : List OHLCCandle
  tradingStartIndex : ℕ
  aggregatedTimeframes : AggregatedTimeframes

def quoteVolumeOf (candle : OHLCCandle) : ℚ :=
  candle.quoteVolume.getD (candle.volume * candle.close)

def buildVolumeMap (pricesByTimestamp : OrdMap Instant (List OHLCCandle))
    (timestamps : List Instant) : OrdMap (Instant × CoinId) ℚ :=
  OrdMap.ofEntries <| timestamps.flatMap fun timestamp =>
    ((pricesByTimestamp.get? timestamp).getD []).map fun candle =>
      ((timestamp, candle.coinId), quoteVolumeOf candle)

def precomputeWindowData (coins : List Coin) (candlesByCoin : OrdMap CoinId (List OHLCCandle))
    (startDate endDate : Instant) : PrecomputedWindowData :=
  let filteredCandles := extractCandleSegments coins candlesByCoin startDate endDate
  let pricesByTimestamp := groupPricesByTimestamp filteredCandles
  let timestamps := timeline filteredCandles
  let summariesByCoin := groupAndSortByCoins filteredCandles (coins.map (·.id))
  { pricesByTimestamp := pricesByTimestamp
    timestamps := timestamps
    summariesByCoin := summariesByCoin
    volumeMap := buildVolumeMap pricesByTimestamp timestamps
    filteredCandles := filteredCandles
    tradingStartIndex := 0
    aggregatedTimeframes := aggregate summariesByCoin }

/-- The first bar at or after the start. The search begins with index 0, which stays if there is
none. -/
def tradingStartIdx (timestamps : List Instant) (start : Instant) : ℕ :=
  (timestamps.findIdx? (start ≤ ·)).getD 0

section Precompute

variable (coins : List Coin) (candlesByCoin : OrdMap CoinId (List OHLCCandle)) (warmupDays : ℕ)
  (extendedMinDate : Instant)

def warmupStart (start : Instant) : Instant :=
  max (start - warmupDays * oneDay) extendedMinDate

def precomputeRange (range : Instant × Instant) : PrecomputedWindowData :=
  let precomputed := precomputeWindowData coins candlesByCoin
    (warmupStart warmupDays extendedMinDate range.1) range.2
  { precomputed with tradingStartIndex := tradingStartIdx precomputed.timestamps range.1 }

def ranges (window : WalkForwardWindowConfig) : List (Instant × Instant) :=
  [(window.trainStartDate, window.trainEndDate), (window.testStartDate, window.testEndDate)]

def precomputeAllWindowData (windows : List WalkForwardWindowConfig) :
    OrdMap (Instant × Instant) PrecomputedWindowData :=
  (windows.flatMap ranges).foldl
    (fun precomputedWindows range =>
      if precomputedWindows.has range then precomputedWindows
      else precomputedWindows.set range
        (precomputeRange coins candlesByCoin warmupDays extendedMinDate range))
    OrdMap.empty

end Precompute

/-! ## The bars of a window -/

section Bars

variable {coins : List Coin} {preloaded : PreloadedCandles} {startTime endTime : Instant}
  {candle : OHLCCandle}

theorem PreloadedCandles.getD_ascending (preloaded : PreloadedCandles) (coinId : CoinId) :
    ((preloaded.byCoin.get? coinId).getD []).Pairwise fun a b => a.timestamp ≤ b.timestamp := by
  cases h : preloaded.byCoin.get? coinId with
  | none => exact List.Pairwise.nil
  | some candles => exact preloaded.ascending coinId candles h

theorem mem_candleSegment {coinId : CoinId} :
    candle ∈ candleSegment preloaded.byCoin startTime endTime coinId ↔
      candle ∈ (preloaded.byCoin.get? coinId).getD [] ∧ startTime ≤ candle.timestamp ∧
        candle.timestamp ≤ endTime := by
  have hascending := preloaded.getD_ascending coinId
  unfold candleSegment
  dsimp only
  generalize (preloaded.byCoin.get? coinId).getD [] = candles at hascending ⊢
  have hleft : BinarySearch.Ends (fun c : OHLCCandle => decide (c.timestamp < startTime)) candles :=
    hascending.imp fun hab hb => decide_eq_true (lt_of_le_of_lt hab (of_decide_eq_true hb))
  have hright : BinarySearch.Ends (fun c : OHLCCandle => decide (c.timestamp ≤ endTime)) candles :=
    hascending.imp fun hab hb => decide_eq_true (le_trans hab (of_decide_eq_true hb))
  have hslice := @BinarySearch.mem_drop_take _ _ _ _ hleft hright candle
  rw [decide_eq_false_iff_not, not_lt, decide_eq_true_eq] at hslice
  rw [← hslice]
  split_ifs with hlt
  · rfl
  · rw [List.drop_eq_nil_of_le]
    exact le_trans (List.length_take_le _ _) (not_lt.mp hlt)

theorem mem_extractCandleSegments :
    candle ∈ extractCandleSegments coins preloaded.byCoin startTime endTime ↔
      ∃ coin ∈ coins, candle ∈ (preloaded.byCoin.get? coin.id).getD [] ∧
        startTime ≤ candle.timestamp ∧ candle.timestamp ≤ endTime := by
  simp only [extractCandleSegments, List.mem_flatMap, List.mem_eraseDups, List.mem_map,
    mem_candleSegment, exists_exists_and_eq_and]

theorem timeline_sorted (candles : List OHLCCandle) : (timeline candles).Pairwise (· ≤ ·) :=
  List.pairwise_insertionSort (· ≤ ·) (groupPricesByTimestamp candles).keys

theorem mem_timeline {candles : List OHLCCandle} {t : Instant} :
    t ∈ timeline candles ↔ ∃ c ∈ candles, c.timestamp = t := by
  have hgroup : groupPricesByTimestamp candles = OrdMap.groupBy (·.timestamp) candles := rfl
  rw [timeline, List.mem_insertionSort, ← OrdMap.get?_isSome_iff, hgroup, OrdMap.get?_groupBy]
  constructor
  · intro h
    split_ifs at h with hnil
    · cases h
    · obtain ⟨c, hc⟩ := List.exists_mem_of_ne_nil _ hnil
      rw [List.mem_filter, decide_eq_true_eq] at hc
      exact ⟨c, hc⟩
  · rintro ⟨c, hc, rfl⟩
    rw [if_neg]
    · rfl
    · refine List.ne_nil_of_mem (List.mem_filter.mpr ⟨hc, ?_⟩)
      exact decide_eq_true rfl

end Bars

/-! ## Tradable bars -/

def MarksBars (data : PrecomputedWindowData) (start : Instant) : Prop :=
  ∀ i t, data.timestamps[i]? = some t → (data.tradingStartIndex ≤ i ↔ start ≤ t)

theorem tradingStartIdx_iff {timestamps : List Instant} (hsorted : timestamps.Pairwise (· ≤ ·))
    (start : Instant) :
    (∀ i t, timestamps[i]? = some t → (tradingStartIdx timestamps start ≤ i ↔ start ≤ t)) ↔
      (∃ t ∈ timestamps, start ≤ t) ∨ timestamps = [] := by
  unfold tradingStartIdx
  cases hfind : timestamps.findIdx? (start ≤ ·) with
  | none =>
    have hnone : ∀ t ∈ timestamps, ¬ start ≤ t := fun t ht =>
      of_decide_eq_false (List.findIdx?_eq_none_iff.mp hfind t ht)
    constructor
    · intro h
      refine .inr (List.eq_nil_iff_forall_not_mem.mpr fun t ht => hnone t ht ?_)
      obtain ⟨i, hi⟩ := List.mem_iff_getElem?.mp ht
      exact (h i t hi).mp (Nat.zero_le i)
    · rintro (⟨t, ht, hle⟩ | rfl)
      · exact absurd hle (hnone t ht)
      · intro i t hi
        cases hi
  | some n =>
    obtain ⟨hn, hfirst, hbef⟩ := List.findIdx?_eq_some_iff_getElem.mp hfind
    have hstart : start ≤ timestamps[n] := of_decide_eq_true hfirst
    refine iff_of_true ?_ (Or.inl ⟨_, List.getElem_mem hn, hstart⟩)
    intro i t hi
    obtain ⟨hlt, rfl⟩ := List.getElem?_eq_some_iff.mp hi
    rw [Option.getD_some]
    constructor
    · intro hle
      rcases hle.eq_or_lt with rfl | hni
      · exact hstart
      · exact le_trans hstart (List.pairwise_iff_getElem.mp hsorted n i hn hlt hni)
    · intro hle
      by_contra hni
      exact hbef i (not_le.mp hni) (decide_eq_true hle)

def HasBar (coins : List Coin) (preloaded : PreloadedCandles) (startTime endTime : Instant) : Prop :=
  ∃ coin ∈ coins, ∃ candle ∈ (preloaded.byCoin.get? coin.id).getD [],
    startTime ≤ candle.timestamp ∧ candle.timestamp ≤ endTime

section Marks

variable {coins : List Coin} {preloaded : PreloadedCandles} {warmupDays : ℕ}
  {extendedMinDate : Instant}

theorem exists_timestamp_iff (range : Instant × Instant) (p : Instant → Prop) :
    (∃ t ∈ (precomputeRange coins preloaded.byCoin warmupDays extendedMinDate range).timestamps,
        p t) ↔
      ∃ coin ∈ coins, ∃ candle ∈ (preloaded.byCoin.get? coin.id).getD [],
        (warmupStart warmupDays extendedMinDate range.1 ≤ candle.timestamp ∧
          candle.timestamp ≤ range.2) ∧ p candle.timestamp := by
  constructor
  · rintro ⟨t, ht, hp⟩
    obtain ⟨candle, hcan, rfl⟩ := mem_timeline.mp ht
    obtain ⟨coin, hcoin, hmem, hrange⟩ := mem_extractCandleSegments.mp hcan
    exact ⟨coin, hcoin, candle, hmem, hrange, hp⟩
  · rintro ⟨coin, hcoin, candle, hmem, hrange, hp⟩
    refine ⟨candle.timestamp, mem_timeline.mpr ⟨candle, ?_, rfl⟩, hp⟩
    exact mem_extractCandleSegments.mpr ⟨coin, hcoin, hmem, hrange⟩

theorem marksBars_iff (range : Instant × Instant) :
    MarksBars (precomputeRange coins preloaded.byCoin warmupDays extendedMinDate range) range.1 ↔
      HasBar coins preloaded (max range.1 (warmupStart warmupDays extendedMinDate range.1)) range.2 ∨
        ¬ HasBar coins preloaded (warmupStart warmupDays extendedMinDate range.1) range.2 := by
  have hsrch := tradingStartIdx_iff (timeline_sorted (extractCandleSegments coins preloaded.byCoin
    (warmupStart warmupDays extendedMinDate range.1) range.2)) range.1
  refine hsrch.trans (or_congr ?_ ?_)
  · refine (exists_timestamp_iff range _).trans ?_
    unfold HasBar
    simp only [max_le_iff, and_left_comm, and_comm]
  · have hany := @exists_timestamp_iff coins preloaded warmupDays extendedMinDate range fun _ => True
    simp only [and_true] at hany
    rw [List.eq_nil_iff_forall_not_mem, HasBar, ← hany, not_exists]
    rfl

theorem get?_precomputeAllWindowData {windows : List WalkForwardWindowConfig}
    (candlesByCoin : OrdMap CoinId (List OHLCCandle)) {range : Instant × Instant}
    (hrange : range ∈ windows.flatMap ranges) :
    (precomputeAllWindowData coins candlesByCoin warmupDays extendedMinDate windows).get? range =
      some (precomputeRange coins candlesByCoin warmupDays extendedMinDate range) := by
  refine OrdMap.get?_foldl_setNew (precomputeRange coins candlesByCoin warmupDays extendedMinDate)
    (Or.inl hrange) fun a ha => ?_
  rw [OrdMap.get?_empty] at ha
  cases ha

end Marks

end Chansey.Optimization
