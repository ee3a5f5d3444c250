import Chansey.Window.Price

/-!
# What the price windows hold

The loop moves the windows call by call, each with its own coins, to times that never go back.
-/

namespace Chansey

/-! ## Calls -/

/-- The coins of a bar and its time. -/
abbrev WindowCall := List Coin × Instant

/-- The context after the calls. -/
def advanceCalls (ctx : PriceTrackingContext) (calls : List WindowCall) : PriceTrackingContext :=
  calls.foldl (fun ctx call => (advancePriceWindows ctx call.1 call.2).1) ctx

/-- The bars dated at or before a time. -/
def datedUntil (summaries : List PriceSummary) (timestamp : Instant) : List PriceSummary :=
  summaries.filter (reached timestamp)

/-- A cursor that has passed the bars dated at or before a time: they are what was pushed, in their
order, and the window holds the last of them. -/
structure WindowSpec (summaries : List PriceSummary) (size : ℕ) (timestamp : Instant)
    (tracking : CoinTracking) : Prop where
  items : tracking.items = summaries
  index : tracking.index = (datedUntil summaries timestamp).length
  pushed : tracking.window.Holds (datedUntil summaries timestamp)
  window : tracking.window.toArray = (datedUntil summaries timestamp).rtake size

section Calls

variable {ctx : PriceTrackingContext} {coins : List Coin} {timestamp later : Instant}
  {calls : List WindowCall} {c : CoinId} {tracked : CoinTracking}

theorem reached_mono (h : timestamp ≤ later) (summary : PriceSummary)
    (hrch : reached timestamp summary = true) : reached later summary = true :=
  decide_eq_true ((of_decide_eq_true hrch : summary.date ≤ timestamp).trans h)

section

variable (ctx coins timestamp)

theorem advancePriceWindows_tracking :
    (advancePriceWindows ctx coins timestamp).1.tracking =
      (advanceWindows ctx.tracking coins timestamp).1 := rfl

theorem advancePriceWindows_priceData :
    (advancePriceWindows ctx coins timestamp).2 =
      (advanceWindows ctx.tracking coins timestamp).2 := rfl

theorem advancePriceWindows_btcRegimeSma :
    (advancePriceWindows ctx coins timestamp).1.btcRegimeSma =
      ctx.btcRegimeSma.map fun sma =>
        (btcCloses ctx coins timestamp).foldl IncrementalSma.push sma := rfl

theorem get?_advancePriceWindows (c : CoinId) :
    (advancePriceWindows ctx coins timestamp).1.tracking.get? c =
      (ctx.tracking.get? c).map fun t =>
        if c ∈ coins.map (·.id) then t.advance (reached timestamp) else t := by
  rw [advancePriceWindows_tracking, advanceWindows_tracking, OrdMap.get?_map]

end

theorem advance_advanceCalls (hcalls : ∀ call ∈ calls, call.2 ≤ timestamp) (c : CoinId) :
    ((advanceCalls ctx calls).tracking.get? c).map (·.advance (reached timestamp)) =
      (ctx.tracking.get? c).map (·.advance (reached timestamp)) := by
  induction calls generalizing ctx with
  | nil => rfl
  | cons call calls ih =>
    have hcall := hcalls call List.mem_cons_self
    refine (ih fun other h => hcalls other (List.mem_cons_of_mem _ h)).trans ?_
    rw [get?_advancePriceWindows, Option.map_map]
    congr 1
    funext tracked
    rw [Function.comp_apply]
    split_ifs
    · exact tracked.advance_advance (reached_mono hcall)
    · rfl

theorem advanceCalls_get? (hcalls : ∀ call ∈ calls, call.2 ≤ timestamp)
    (hc : c ∈ coins.map (·.id)) :
    (advancePriceWindows (advanceCalls ctx calls) coins timestamp).1.tracking.get? c =
        (ctx.tracking.get? c).map (·.advance (reached timestamp)) ∧
      (advancePriceWindows (advanceCalls ctx calls) coins timestamp).2.get? c =
        ((ctx.tracking.get? c).map (·.advance (reached timestamp))).bind windowArray := by
  constructor
  · rw [get?_advancePriceWindows]
    simp only [if_pos hc]
    exact advance_advanceCalls hcalls c
  · rw [advancePriceWindows_priceData, advanceWindows_get?, if_pos hc, advance_advanceCalls hcalls]

/-! ## One jump -/

theorem btcCloses_append (h : timestamp ≤ later) :
    btcCloses ctx coins timestamp ++
        btcCloses (advancePriceWindows ctx coins timestamp).1 coins later =
      btcCloses ctx coins later := by
  have hbtc : (advancePriceWindows ctx coins timestamp).1.btcCoinId = ctx.btcCoinId := rfl
  rw [btcCloses, btcCloses, btcCloses, hbtc]
  cases ctx.btcCoinId with
  | none => rfl
  | some btc =>
    by_cases hmem : btc ∈ coins.map (·.id)
    · simp only [if_pos hmem, get?_advancePriceWindows, ← List.map_append]
      refine congrArg (List.map _) ?_
      cases ctx.tracking.get? btc with
      | none => rfl
      | some tracked => exact tracked.pending_advance (reached_mono h)
    · simp only [if_neg hmem, List.append_nil]

theorem advancePriceWindows_advance (h : timestamp ≤ later) :
    (advancePriceWindows (advancePriceWindows ctx coins timestamp).1 coins later).1 =
      (advancePriceWindows ctx coins later).1 := by
  have htrkg : (advancePriceWindows (advancePriceWindows ctx coins timestamp).1 coins
      later).1.tracking = (advancePriceWindows ctx coins later).1.tracking := by
    simp only [advancePriceWindows_tracking, advanceWindows_tracking]
    refine OrdMap.ext_get? (by simp only [OrdMap.keys_map]) fun c => ?_
    rw [OrdMap.get?_map, OrdMap.get?_map, OrdMap.get?_map, Option.map_map]
    congr 1
    funext tracked
    rw [Function.comp_apply]
    split_ifs
    · exact tracked.advance_advance (reached_mono h)
    · rfl
  have hsma : (advancePriceWindows (advancePriceWindows ctx coins timestamp).1 coins
      later).1.btcRegimeSma = (advancePriceWindows ctx coins later).1.btcRegimeSma := by
    rw [advancePriceWindows_btcRegimeSma, advancePriceWindows_btcRegimeSma,
      advancePriceWindows_btcRegimeSma, Option.map_map, ← @btcCloses_append ctx coins _ _ h]
    congr 1
    funext sma
    exact List.foldl_append.symm
  calc (advancePriceWindows (advancePriceWindows ctx coins timestamp).1 coins later).1
      = { ctx with
          tracking := (advancePriceWindows (advancePriceWindows ctx coins timestamp).1 coins
            later).1.tracking
          btcRegimeSma := (advancePriceWindows (advancePriceWindows ctx coins timestamp).1 coins
            later).1.btcRegimeSma } := rfl
    _ = (advancePriceWindows ctx coins later).1 := by rw [htrkg, hsma]; rfl

theorem fastForward_jump {times : List Instant} (h : ∀ t ∈ times, t ≤ timestamp) :
    (advancePriceWindows (advanceCalls ctx (times.map (coins, ·))) coins timestamp).1 =
      (advancePriceWindows ctx coins timestamp).1 := by
  induction times generalizing ctx with
  | nil => rfl
  | cons t times ih =>
    refine (ih fun s hs => h s (List.mem_cons_of_mem t hs)).trans ?_
    exact advancePriceWindows_advance (h t List.mem_cons_self)

end Calls

/-! ## The windows -/

section Windows

variable {summaries : List PriceSummary} {size : ℕ} {timestamp : Instant}

theorem windowSpec_new (h : 0 < size) (hsort : summaries.Pairwise fun a b => a.date ≤ b.date) :
    WindowSpec summaries size timestamp
      ((Cursor.new summaries size h).advance (reached timestamp)) := by
  have hdated : summaries.takeWhile (reached timestamp) = datedUntil summaries timestamp :=
    Cursor.takeWhile_eq_filter <| hsort.imp fun {_ _} hle hrch =>
      decide_eq_true (hle.trans (of_decide_eq_true hrch))
  have hholds := Cursor.holds_advance_new summaries h (reached timestamp)
  rw [hdated] at hholds
  refine ⟨rfl, ?_, hholds, ?_⟩
  · rw [← hdated]
    exact Nat.zero_add _
  · rw [hholds.toArray, Cursor.advance_window_capacity]
    rfl

theorem windowArray_of_spec {tracking : CoinTracking}
    (h : WindowSpec summaries size timestamp tracking) :
    windowArray tracking =
      if datedUntil summaries timestamp = [] then none
      else some ((datedUntil summaries timestamp).rtake size) := by
  rw [windowArray, h.window]
  by_cases hnil : datedUntil summaries timestamp = []
  · rw [if_pos hnil, if_neg (by rw [h.pushed.count_eq_zero.mpr hnil]; exact lt_irrefl 0)]
  · rw [if_neg hnil, if_pos (Nat.pos_of_ne_zero (mt h.pushed.count_eq_zero.mp hnil))]

theorem groupAndSortByCoins_sorted {candles : List OHLCCandle} {coinIds : List CoinId} {c : CoinId}
    (h : (groupAndSortByCoins candles coinIds).get? c = some summaries) :
    summaries.Pairwise fun a b => a.date ≤ b.date := by
  rw [groupAndSortByCoins, OrdMap.get?_ofKeys] at h
  split_ifs at h
  rw [← Option.some.inj h]
  have htotal : Std.Total fun a b : OHLCCandle => a.timestamp ≤ b.timestamp :=
    ⟨fun a b => le_total a.timestamp b.timestamp⟩
  have htrans : IsTrans OHLCCandle fun a b => a.timestamp ≤ b.timestamp := ⟨fun _ _ _ => le_trans⟩
  exact List.pairwise_map.mpr (List.pairwise_insertionSort _ _)

/-- **After each call the window of a coin holds the last bars dated at or before the time of the
bar**, each pushed once, and the calls that were skipped make no difference. -/
theorem windows_match_spec {ctx : PriceTrackingContext} {series : OrdMap CoinId (List PriceSummary)}
    {h : 0 < size} {calls : List WindowCall} {coins : List Coin} {c : CoinId}
    (hctx : ctx.tracking = initTracking series size h) (hseries : series.get? c = some summaries)
    (hsorted : summaries.Pairwise fun a b => a.date ≤ b.date)
    (htimes : (calls.map Prod.snd ++ [timestamp]).Pairwise (· ≤ ·)) (hc : c ∈ coins.map (·.id)) :
    (∃ tracking, WindowSpec summaries size timestamp tracking ∧
      (advancePriceWindows (advanceCalls ctx calls) coins timestamp).1.tracking.get? c =
        some tracking ∧
      (advancePriceWindows ctx coins timestamp).1.tracking.get? c = some tracking) ∧
    (advancePriceWindows (advanceCalls ctx calls) coins timestamp).2.get? c =
      (if datedUntil summaries timestamp = [] then none
        else some ((datedUntil summaries timestamp).rtake size)) ∧
    ((∀ call ∈ calls, call.1 = coins) →
      (advancePriceWindows (advanceCalls ctx calls) coins timestamp).1 =
        (advancePriceWindows ctx coins timestamp).1) := by
  have hcalls : ∀ call ∈ calls, call.2 ≤ timestamp := fun call hcall =>
    (List.pairwise_append.mp htimes).2.2 call.2 (List.mem_map_of_mem hcall) timestamp
      (List.mem_singleton_self _)
  have hstart : ctx.tracking.get? c = some (Cursor.new summaries size h) := by
    rw [hctx, initTracking, OrdMap.get?_map, hseries]
    rfl
  have hspec := @windowSpec_new summaries size timestamp h hsorted
  obtain ⟨htracking, hdata⟩ := @advanceCalls_get? ctx coins timestamp calls c hcalls hc
  have hjump := (@advanceCalls_get? ctx coins timestamp [] c (by simp) hc).1
  rw [hstart, Option.map_some] at htracking hdata hjump
  refine ⟨⟨_, hspec, htracking, hjump⟩, ?_, fun hsame => ?_⟩
  · rw [hdata, Option.bind_some, windowArray_of_spec hspec]
  · have hcoins : calls = (calls.map Prod.snd).map (coins, ·) := by
      rw [List.map_map]
      refine (List.map_id' calls).symm.trans (List.map_congr_left fun call hcall => ?_)
      exact Prod.ext (hsame call hcall) rfl
    rw [hcoins]
    refine fastForward_jump fun t ht => ?_
    obtain ⟨call, hcall, rfl⟩ := List.mem_map.mp ht
    exact hcalls call hcall

theorem windows_match_spec_two_hours :
    (advancePriceWindows
      (advanceCalls
        (initPriceTracking [⟨"btc", 0, 1, 2, 1, 2, 0, none⟩, ⟨"btc", HOUR_MS, 2, 3, 2, 3, 0, none⟩]
          ["btc"]) [([⟨"btc", "BTC"⟩], 0)]) [⟨"btc", "BTC"⟩] HOUR_MS).2.get? "btc" =
    some ([⟨"btc", 0, 1, 2, 1, 2, 0, none⟩, ⟨"btc", HOUR_MS, 2, 3, 2, 3, 0, none⟩].map
      buildPriceSummary) := by
  have hseries : (groupAndSortByCoins [⟨"btc", 0, 1, 2, 1, 2, 0, none⟩,
      ⟨"btc", HOUR_MS, 2, 3, 2, 3, 0, none⟩] ["btc"]).get? "btc" =
      some ([⟨"btc", 0, 1, 2, 1, 2, 0, none⟩, ⟨"btc", HOUR_MS, 2, 3, 2, 3, 0, none⟩].map
        buildPriceSummary) := by decide
  have htimes : (([([⟨"btc", "BTC"⟩], 0)] : List WindowCall).map Prod.snd ++ [HOUR_MS]).Pairwise
      (· ≤ ·) := by decide
  have hctx : (initPriceTracking [⟨"btc", 0, 1, 2, 1, 2, 0, none⟩,
      ⟨"btc", HOUR_MS, 2, 3, 2, 3, 0, none⟩] ["btc"]).tracking =
      initTracking _ MAX_WINDOW_SIZE MAX_WINDOW_SIZE_pos := rfl
  have hmem : "btc" ∈ ([⟨"btc", "BTC"⟩] : List Coin).map (·.id) := List.mem_singleton_self "btc"
  exact (windows_match_spec hctx hseries (groupAndSortByCoins_sorted hseries) htimes hmem).2.1

end Windows

end Chansey
