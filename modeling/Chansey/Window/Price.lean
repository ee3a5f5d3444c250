import Chansey.Domain
import Chansey.Lib.RingBuffer
import Mathlib.Data.List.Sort

/-!
# Price windows

Each coin has its own price series, and a window of the bars that the loop has reached. The loop
moves all windows up to the time of a bar.
-/

namespace Chansey

def MAX_WINDOW_SIZE : ℕ := 500

theorem MAX_WINDOW_SIZE_pos : 0 < MAX_WINDOW_SIZE := by decide

def PriceTimeframe.windowSize : PriceTimeframe → ℕ
  | .hourly => 500
  | .fourHour => 500
  | .daily => 400
  | .weekly => 150

theorem PriceTimeframe.windowSize_pos (tf : PriceTimeframe) : 0 < tf.windowSize := by
  cases tf <;> decide

def getPriceValue (candle : OHLCCandle) : ℚ := candle.close

def getOpenPriceValue (candle : OHLCCandle) : ℚ := candle.openPrice

def buildPriceSummary (candle : OHLCCandle) : PriceSummary where
  coin := candle.coinId
  date := candle.timestamp
  avg := candle.close
  high := candle.high
  low := candle.low
  openPrice := some candle.openPrice
  close := some candle.close
  volume := some candle.volume

/-! ## Tracking -/

/-- The series of a coin, how many of its bars the loop has reached (the pointer of the source and
one), and the window of the last of them. -/
abbrev CoinTracking := Cursor PriceSummary

/-- `TimeframeTrackingState`: the four maps of the source have the same keys. -/
abbrev TimeframeTrackingState := OrdMap CoinId CoinTracking

structure PriceTrackingContext where
  tracking : TimeframeTrackingState
  higherTimeframes : Option (OrdMap PriceTimeframe TimeframeTrackingState) := none
  btcRegimeSma : Option IncrementalSma := none
  btcCoinId : Option CoinId := none

abbrev AggregatedTimeframes := OrdMap PriceTimeframe (OrdMap CoinId (List PriceSummary))

/-- The series of each coin, in the order of time. The order of equal times is kept. -/
def groupAndSortByCoins (historicalPrices : List OHLCCandle) (coinIds : List CoinId) :
    OrdMap CoinId (List PriceSummary) :=
  OrdMap.ofKeys
    (fun coinId =>
      ((historicalPrices.filter (·.coinId = coinId)).insertionSort
        fun a b => a.timestamp ≤ b.timestamp).map buildPriceSummary) coinIds

def initTracking (summariesByCoin : OrdMap CoinId (List PriceSummary)) (size : ℕ) (h : 0 < size) :
    TimeframeTrackingState :=
  summariesByCoin.map fun _ summaries => Cursor.new summaries size h

def initPriceTracking (historicalPrices : List OHLCCandle) (coinIds : List CoinId) :
    PriceTrackingContext where
  tracking := initTracking (groupAndSortByCoins historicalPrices coinIds) MAX_WINDOW_SIZE
    MAX_WINDOW_SIZE_pos

/-- The series that the windows run over. -/
def PriceTrackingContext.summariesByCoin (ctx : PriceTrackingContext) :
    OrdMap CoinId (List PriceSummary) :=
  ctx.tracking.map fun _ tracking => tracking.items

def initMultiTimeframe (ctx : PriceTrackingContext) (aggregated : AggregatedTimeframes) :
    PriceTrackingContext :=
  { ctx with
    higherTimeframes := some <|
      aggregated.map fun tf perCoin => initTracking perCoin tf.windowSize tf.windowSize_pos }

/-! ## Advancing -/

def reached (timestamp : Instant) (summary : PriceSummary) : Bool := summary.date ≤ timestamp

/-- Move the window of one coin, and give it to the strategy unless it is empty. -/
def advanceCoin (timestamp : Instant) (state : TimeframeTrackingState × PriceSummaryByPeriod)
    (coin : Coin) : TimeframeTrackingState × PriceSummaryByPeriod :=
  match state.1.get? coin.id with
  | none => state
  | some tracking =>
    let advanced := tracking.advance (reached timestamp)
    (state.1.set coin.id advanced,
      if 0 < advanced.window.count then state.2.set coin.id advanced.window.toArray else state.2)

def advanceWindows (tracking : TimeframeTrackingState) (coins : List Coin) (timestamp : Instant) :
    TimeframeTrackingState × PriceSummaryByPeriod :=
  coins.foldl (advanceCoin timestamp) (tracking, OrdMap.empty)

/-- The closes that the moving average of the regime has not seen yet. -/
def btcCloses (ctx : PriceTrackingContext) (coins : List Coin) (timestamp : Instant) : List ℚ :=
  match ctx.btcCoinId with
  | none => []
  | some btcCoinId =>
    if btcCoinId ∈ coins.map (·.id) then
      ((ctx.tracking.get? btcCoinId).elim [] (·.pending (reached timestamp))).map fun s =>
        s.close.getD s.avg
    else []

def advancePriceWindows (ctx : PriceTrackingContext) (coins : List Coin) (timestamp : Instant) :
    PriceTrackingContext × PriceSummaryByPeriod :=
  let (tracking, priceData) := advanceWindows ctx.tracking coins timestamp
  ({ ctx with
      tracking := tracking
      btcRegimeSma := ctx.btcRegimeSma.map fun sma =>
        (btcCloses ctx coins timestamp).foldl IncrementalSma.push sma },
    priceData)

def advanceMultiTimeframeWindows (ctx : PriceTrackingContext) (coins : List Coin)
    (timestamp : Instant) : PriceTrackingContext × OrdMap PriceTimeframe PriceSummaryByPeriod :=
  match ctx.higherTimeframes with
  | none => (ctx, OrdMap.empty)
  | some timeframes =>
    let advanced := timeframes.map fun _ tracking => advanceWindows tracking coins timestamp
    ({ ctx with higherTimeframes := some (advanced.map fun _ a => a.1) }, advanced.map fun _ a => a.2)

/-! ## What a move gives -/

section Advance

variable {tracking : TimeframeTrackingState} {coins : List Coin} {timestamp : Instant}

def windowArray (tracking : CoinTracking) : Option (List PriceSummary) :=
  if 0 < tracking.window.count then some tracking.window.toArray else none

section

variable (state : TimeframeTrackingState × PriceSummaryByPeriod) (coin : Coin)

include state coin

theorem keys_advanceCoin : (advanceCoin timestamp state coin).1.keys = state.1.keys := by
  unfold advanceCoin
  split
  · rfl
  · rename_i t ht
    exact OrdMap.keys_set_of_get? _ ht

theorem get?_advanceCoin (c : CoinId) :
    (advanceCoin timestamp state coin).1.get? c =
      if coin.id = c then (state.1.get? c).map (·.advance (reached timestamp))
      else state.1.get? c := by
  unfold advanceCoin
  split
  · rename_i ht
    split_ifs with hc
    · rw [← hc, ht, Option.map_none]
    · rfl
  · rename_i t ht
    rw [OrdMap.get?_set]
    split_ifs with hc
    · rw [← hc, ht, Option.map_some]
    · rfl

theorem priceData_advanceCoin (c : CoinId) :
    (advanceCoin timestamp state coin).2.get? c =
      if coin.id = c then
        (((state.1.get? c).map (·.advance (reached timestamp))).bind windowArray).or (state.2.get? c)
      else state.2.get? c := by
  unfold advanceCoin
  split
  · rename_i ht
    split_ifs with hc
    · rw [← hc, ht]
      rfl
    · rfl
  · rename_i t ht
    by_cases hc : coin.id = c
    · subst hc
      simp only [ht, Option.map_some, Option.bind_some, windowArray, if_true]
      split_ifs <;> simp
    · simp only [hc, if_false]
      split_ifs
      · rw [OrdMap.get?_set_of_ne _ _ hc]
      · rfl

end

theorem foldl_advanceCoin (coins : List Coin) (timestamp : Instant)
    (state : TimeframeTrackingState × PriceSummaryByPeriod) :
    let final := coins.foldl (advanceCoin timestamp) state
    final.1.keys = state.1.keys ∧
      ∀ c, final.1.get? c =
          (if c ∈ coins.map (·.id) then (state.1.get? c).map (·.advance (reached timestamp))
            else state.1.get? c) ∧
        final.2.get? c =
          (if c ∈ coins.map (·.id) then
            (((state.1.get? c).map (·.advance (reached timestamp))).bind windowArray).or
              (state.2.get? c)
            else state.2.get? c) := by
  induction coins generalizing state with
  | nil => exact ⟨rfl, fun c => ⟨rfl, rfl⟩⟩
  | cons coin coins ih =>
    intro final
    obtain ⟨hkeys, hread⟩ := ih (advanceCoin timestamp state coin)
    refine ⟨hkeys.trans (keys_advanceCoin state coin), fun c => ?_⟩
    obtain ⟨htrack, hdata⟩ := hread c
    rw [get?_advanceCoin] at htrack hdata
    rw [priceData_advanceCoin] at hdata
    -- a coin listed twice is moved once
    have hagain : (state.1.get? c).map (fun t => (t.advance (reached timestamp)).advance
        (reached timestamp)) = (state.1.get? c).map (·.advance (reached timestamp)) := by
      congr 1
      funext t
      exact t.advance_advance fun _ h => h
    constructor
    · refine htrack.trans ?_
      by_cases hc : coin.id = c
      · simp [hc, Function.comp_def, hagain]
      · have hne : c ≠ coin.id := fun h => hc h.symm
        simp [hc, hne]
    · refine hdata.trans ?_
      by_cases hc : coin.id = c
      · simp only [hc, if_true, Option.map_map, Function.comp_def, hagain, List.map_cons,
          List.mem_cons, true_or]
        split_ifs
        · cases ((state.1.get? c).map (·.advance (reached timestamp))).bind windowArray <;> rfl
        · rfl
      · have hne : c ≠ coin.id := fun h => hc h.symm
        simp [hc, hne]

theorem advanceWindows_get? (c : CoinId) :
    (advanceWindows tracking coins timestamp).2.get? c =
      if c ∈ coins.map (·.id) then
        ((tracking.get? c).map (·.advance (reached timestamp))).bind windowArray
      else none := by
  obtain ⟨-, hread⟩ := foldl_advanceCoin coins timestamp (tracking, OrdMap.empty)
  rw [advanceWindows, (hread c).2]
  simp

theorem advanceWindows_tracking :
    (advanceWindows tracking coins timestamp).1 =
      tracking.map fun c t => if c ∈ coins.map (·.id) then t.advance (reached timestamp) else t := by
  obtain ⟨hkeys, hread⟩ := foldl_advanceCoin coins timestamp (tracking, OrdMap.empty)
  refine OrdMap.ext_get? (hkeys.trans (OrdMap.keys_map _ _).symm) fun c => ?_
  rw [OrdMap.get?_map, advanceWindows, (hread c).1]
  split_ifs
  · rfl
  · rw [Option.map_id']

theorem windowArray_new (summaries : List PriceSummary) {size : ℕ} (h : 0 < size) :
    windowArray ((Cursor.new summaries size h).advance (reached timestamp)) =
      if summaries.takeWhile (reached timestamp) = [] then none
      else some ((summaries.takeWhile (reached timestamp)).rtake size) := by
  have hholds := Cursor.holds_advance_new summaries h (reached timestamp)
  have hcapacity : ((Cursor.new summaries size h).advance (reached timestamp)).window.capacity =
      size := Cursor.advance_window_capacity _ _
  rw [windowArray, hholds.toArray, hcapacity]
  by_cases hnil : summaries.takeWhile (reached timestamp) = []
  · rw [if_pos hnil, if_neg (by rw [hholds.count_eq_zero.mpr hnil]; exact lt_irrefl 0)]
  · rw [if_neg hnil, if_pos (Nat.pos_of_ne_zero (mt hholds.count_eq_zero.mp hnil))]

theorem advanceWindows_initTracking (summariesByCoin : OrdMap CoinId (List PriceSummary)) {size : ℕ}
    (h : 0 < size) (c : CoinId) :
    (advanceWindows (initTracking summariesByCoin size h) coins timestamp).2.get? c =
      if c ∈ coins.map (·.id) then
        (summariesByCoin.get? c).bind fun summaries =>
          if summaries.takeWhile (reached timestamp) = [] then none
          else some ((summaries.takeWhile (reached timestamp)).rtake size)
      else none := by
  rw [advanceWindows_get?, initTracking, OrdMap.get?_map, Option.map_map]
  cases summariesByCoin.get? c with
  | none => rfl
  | some =>
    rw [Option.map_some, Option.bind_some, Option.bind_some, Function.comp_apply, windowArray_new]

end Advance

/-! ## Bar by bar -/

section Run

variable {tracking : TimeframeTrackingState} {coins : List Coin}

/-- The windows after the bars at `timestamps`. -/
def advanceTracking (tracking : TimeframeTrackingState) (coins : List Coin)
    (timestamps : List Instant) : TimeframeTrackingState :=
  timestamps.foldl (fun tracking t => (advanceWindows tracking coins t).1) tracking

/-- The context after the bars at `timestamps` (`fastForwardForResume`). -/
def fastForward (ctx : PriceTrackingContext) (coins : List Coin) (timestamps : List Instant) :
    PriceTrackingContext :=
  timestamps.foldl
    (fun ctx t => (advanceMultiTimeframeWindows (advancePriceWindows ctx coins t).1 coins t).1) ctx

theorem advanceTracking_cons (tracking : TimeframeTrackingState) (t : Instant)
    (timestamps : List Instant) :
    advanceTracking tracking coins (t :: timestamps) =
      advanceTracking (advanceWindows tracking coins t).1 coins timestamps := rfl

theorem advanceWindows_advanceTracking {timestamps : List Instant} {timestamp : Instant}
    (h : ∀ t ∈ timestamps, t ≤ timestamp) (c : CoinId) :
    (advanceWindows (advanceTracking tracking coins timestamps) coins timestamp).2.get? c =
      (advanceWindows tracking coins timestamp).2.get? c := by
  induction timestamps generalizing tracking with
  | nil => rfl
  | cons t timestamps ih =>
    rw [advanceTracking_cons, ih fun s hs => h s (List.mem_cons_of_mem t hs)]
    rw [advanceWindows_get?, advanceWindows_get?, advanceWindows_tracking, OrdMap.get?_map]
    split_ifs
    · rw [Option.map_map]
      congr 2
      funext tracked
      refine tracked.advance_advance fun summary hrch => ?_
      have hdate : summary.date ≤ t := of_decide_eq_true hrch
      exact decide_eq_true (hdate.trans (h t List.mem_cons_self))
    · rfl

theorem advanceMultiTimeframeWindows_tracking (ctx : PriceTrackingContext) (t : Instant) :
    (advanceMultiTimeframeWindows ctx coins t).1.tracking = ctx.tracking := by
  unfold advanceMultiTimeframeWindows
  split <;> rfl

theorem advanceMultiTimeframeWindows_higherTimeframes (ctx : PriceTrackingContext) (t : Instant) :
    (advanceMultiTimeframeWindows ctx coins t).1.higherTimeframes =
      ctx.higherTimeframes.map fun timeframes =>
        timeframes.map fun _ tracking => (advanceWindows tracking coins t).1 := by
  unfold advanceMultiTimeframeWindows
  split
  · rename_i hctx
    rw [hctx, Option.map_none]
  · rename_i timeframes hctx
    rw [hctx, Option.map_some]
    refine congrArg some (OrdMap.ext_get? ?_ fun tf => ?_)
    · simp only [OrdMap.keys_map]
    · simp only [OrdMap.get?_map, Option.map_map]
      rfl

theorem fastForward_tracking (ctx : PriceTrackingContext) (timestamps : List Instant) :
    (fastForward ctx coins timestamps).tracking =
      advanceTracking ctx.tracking coins timestamps := by
  induction timestamps generalizing ctx with
  | nil => rfl
  | cons t timestamps ih =>
    refine (ih _).trans ?_
    rw [advanceMultiTimeframeWindows_tracking]
    rfl

theorem fastForward_higherTimeframes (ctx : PriceTrackingContext) (timestamps : List Instant) :
    (fastForward ctx coins timestamps).higherTimeframes =
      ctx.higherTimeframes.map fun timeframes =>
        timeframes.map fun _ tracking => advanceTracking tracking coins timestamps := by
  induction timestamps generalizing ctx with
  | nil =>
    cases hctx : ctx.higherTimeframes with
    | none => exact hctx
    | some =>
      refine hctx.trans (congrArg some (OrdMap.ext_get? (OrdMap.keys_map _ _).symm fun tf => ?_))
      rw [OrdMap.get?_map]
      exact Option.map_id'.symm
  | cons t timestamps ih =>
    refine (ih _).trans ?_
    rw [advanceMultiTimeframeWindows_higherTimeframes, Option.map_map]
    refine congrFun (congrArg Option.map ?_) ctx.higherTimeframes
    funext timeframes
    refine OrdMap.ext_get? (by simp only [Function.comp_apply, OrdMap.keys_map]) fun tf => ?_
    simp only [Function.comp_apply, OrdMap.get?_map, Option.map_map]
    rfl

end Run

end Chansey
