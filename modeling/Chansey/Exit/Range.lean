import Chansey.Exit.Signals

/-!
# Two ranges of a bar

A tracked position is checked against the range of a bar. Two ranges that reach the same of its
levels trigger the same exit and leave the same position.
-/

namespace Chansey

structure Trigger where
  coinId : CoinId
  quantity : ℚ
  exitType : ExitType
  executionPrice : ℚ
  deriving DecidableEq

def ExitSignal.trigger (signal : ExitSignal) : Trigger :=
  ⟨signal.coinId, signal.quantity, signal.exitType, signal.executionPrice⟩

namespace BacktestExitTracker

/-! ## Levels -/

section Levels

variable (tracker : BacktestExitTracker) (tracked : TrackedExit)
  (lowPrice highPrice lowPrice' highPrice' : ℚ)

def Stopped : Prop := tracked.side = .buy ∧ StopBreached tracked lowPrice

def Profited : Prop := tracked.side = .buy ∧ TargetReached tracked highPrice

structure SameTrail : Prop where
  activation : tracked.side = .buy → tracked.trailingActivated = false →
    (tracked.trailingActivationPrice.any (· ≤ highPrice) ↔
      tracked.trailingActivationPrice.any (· ≤ highPrice'))
  mark : (tracker.trail tracked highPrice').trailingActivated →
    max tracked.highWaterMark highPrice = max tracked.highWaterMark highPrice'
  breach : (tracker.trail tracked highPrice').trailingActivated →
    ∀ ts ∈ (tracker.trail tracked highPrice').trailingStopPrice, lowPrice ≤ ts ↔ lowPrice' ≤ ts

structure SameLevels : Prop where
  stopLoss : Stopped tracked lowPrice ↔ Stopped tracked lowPrice'
  takeProfit : ¬ Stopped tracked lowPrice' →
    (Profited tracked highPrice ↔ Profited tracked highPrice')
  trailing : ¬ Stopped tracked lowPrice' → ¬ Profited tracked highPrice' →
    tracker.Trails tracked → SameTrail tracker tracked lowPrice highPrice lowPrice' highPrice'

variable {tracker tracked lowPrice highPrice lowPrice' highPrice'}

theorem trail_alike (h : SameTrail tracker tracked lowPrice highPrice lowPrice' highPrice') :
    tracker.trail tracked highPrice = tracker.trail tracked highPrice' := by
  have hmark := h.mark
  unfold trail at hmark ⊢
  dsimp only at hmark ⊢
  have hactv : (¬ tracked.trailingActivated ∧ tracked.side = .buy ∧
        tracked.trailingActivationPrice.any (· ≤ highPrice)) ↔
      (¬ tracked.trailingActivated ∧ tracked.side = .buy ∧
        tracked.trailingActivationPrice.any (· ≤ highPrice')) := by
    refine and_congr_right fun hnot => and_congr_right fun hside => ?_
    exact h.activation hside (Bool.eq_false_iff.mpr hnot)
  rw [if_congr hactv rfl rfl]
  have hwater : (if ¬ tracked.trailingActivated ∧ tracked.side = .buy ∧
      tracked.trailingActivationPrice.any (· ≤ highPrice') then
        { tracked with trailingActivated := true } else tracked).highWaterMark =
      tracked.highWaterMark := by
    split_ifs <;> rfl
  generalize (if ¬ tracked.trailingActivated ∧ tracked.side = .buy ∧
    tracked.trailingActivationPrice.any (· ≤ highPrice') then
      { tracked with trailingActivated := true } else tracked) = activated at hmark hwater ⊢
  by_cases hon : activated.trailingActivated = true
  · have hmax := hmark (by split_ifs <;> exact hon)
    rw [← hwater] at hmax
    rcases lt_or_ge activated.highWaterMark highPrice with hup | hup
    · -- the high of one range is the mark, so it is the high of the other
      rw [max_eq_right hup.le] at hmax
      rcases max_choice activated.highWaterMark highPrice' with hmax' | hmax'
      · rw [hmax'] at hmax
        exact absurd hmax hup.ne'
      · rw [hmax'] at hmax
        rw [hmax]
    · rw [max_eq_left hup] at hmax
      have hup' : highPrice' ≤ activated.highWaterMark := hmax ▸ le_max_right _ _
      rw [if_neg fun hraised => absurd hraised.2 (not_lt.mpr hup),
        if_neg fun hraised => absurd hraised.2 (not_lt.mpr hup')]
  · rw [if_neg fun hraised => hon hraised.1, if_neg fun hraised => hon hraised.1]

theorem profit_filter_eq (h : Profited tracked highPrice) :
    ∃ tp, tracked.takeProfitPrice = some tp ∧
      tracked.takeProfitPrice.filter (fun tp => tracked.side = .buy ∧ tp ≤ highPrice) =
        some tp := by
  obtain ⟨hside, tp, htp, hle⟩ := h
  exact ⟨tp, htp, by simp [htp, hside, hle]⟩

theorem checkPosition_alike (coinId : CoinId)
    (h : SameLevels tracker tracked lowPrice highPrice lowPrice' highPrice') :
    (tracker.checkPosition coinId tracked lowPrice highPrice).tracked =
        (tracker.checkPosition coinId tracked lowPrice' highPrice').tracked ∧
      (tracker.checkPosition coinId tracked lowPrice highPrice).signal.map ExitSignal.trigger =
        (tracker.checkPosition coinId tracked lowPrice' highPrice').signal.map
          ExitSignal.trigger := by
  unfold checkPosition
  dsimp only
  by_cases hstop : Stopped tracked lowPrice'
  · obtain ⟨_, hsl, -, hfil⟩ := stop_filter_eq (h.stopLoss.mpr hstop)
    obtain ⟨_, hsl', -, hfil'⟩ := stop_filter_eq hstop
    rw [hsl] at hsl'
    cases hsl'
    rw [hfil, hfil']
    refine ⟨rfl, ?_⟩
    simp only [Option.map_some, ExitSignal.trigger]
  rw [stop_filter_none hstop, stop_filter_none fun hstop' => hstop (h.stopLoss.mp hstop')]
  dsimp only
  by_cases htgt : Profited tracked highPrice'
  · obtain ⟨_, htp, hfil⟩ := profit_filter_eq ((h.takeProfit hstop).mpr htgt)
    obtain ⟨_, htp', hfil'⟩ := profit_filter_eq htgt
    rw [htp] at htp'
    cases htp'
    rw [hfil, hfil']
    refine ⟨rfl, ?_⟩
    simp only [Option.map_some, ExitSignal.trigger]
  rw [target_filter_none htgt, target_filter_none fun htgt' => htgt ((h.takeProfit hstop).mp htgt')]
  dsimp only
  by_cases htrails : (tracked.positionConfig.getD tracker.config).enableTrailingStop = true ∧
      tracked.trailingStopPrice.isSome
  · have hsame := h.trailing hstop htgt htrails
    rw [if_pos htrails, if_pos htrails, trail_alike hsame]
    have hbreach : (tracker.trail tracked highPrice').trailingStopPrice.filter (fun ts =>
          (tracker.trail tracked highPrice').trailingActivated ∧
            (tracker.trail tracked highPrice').side = .buy ∧ lowPrice ≤ ts) =
        (tracker.trail tracked highPrice').trailingStopPrice.filter (fun ts =>
          (tracker.trail tracked highPrice').trailingActivated ∧
            (tracker.trail tracked highPrice').side = .buy ∧ lowPrice' ≤ ts) := by
      cases hts : (tracker.trail tracked highPrice').trailingStopPrice with
      | none => rfl
      | some ts =>
        simp only [Option.filter_some, decide_eq_true_eq]
        exact if_congr (and_congr_right fun hactv => and_congr_right fun _ =>
          hsame.breach hactv ts hts) rfl rfl
    rw [hbreach]
    split
    · refine ⟨rfl, ?_⟩
      simp only [Option.map_some, ExitSignal.trigger]
    · exact ⟨rfl, rfl⟩
  · rw [if_neg htrails, if_neg htrails]
    exact ⟨rfl, rfl⟩

end Levels

/-! ## Bars -/

section Bars

variable (tracker : BacktestExitTracker)
  {closePrices lowPrices highPrices lowPrices' highPrices' : OrdMap CoinId ℚ} (currentBar : ℕ)

def SameBars (closePrices lowPrices highPrices lowPrices' highPrices' : OrdMap CoinId ℚ) : Prop :=
  ∀ coinId tracked, tracker.positions.get? coinId = some tracked →
    ∀ closePrice, closePrices.get? coinId = some closePrice → 0 < closePrice →
      SameLevels tracker tracked
        ((lowPrices.get? coinId).getD closePrice) ((highPrices.get? coinId).getD closePrice)
        ((lowPrices'.get? coinId).getD closePrice) ((highPrices'.get? coinId).getD closePrice)

variable {tracker}

theorem SameBars.barCheck
    (h : SameBars tracker closePrices lowPrices highPrices lowPrices' highPrices')
    {coinId : CoinId} {tracked : TrackedExit}
    (hget : tracker.positions.get? coinId = some tracked) :
    tracker.afterBar closePrices lowPrices highPrices coinId tracked =
        tracker.afterBar closePrices lowPrices' highPrices' coinId tracked ∧
      (tracker.barSignal closePrices lowPrices highPrices coinId tracked).map ExitSignal.trigger =
        (tracker.barSignal closePrices lowPrices' highPrices' coinId tracked).map
          ExitSignal.trigger := by
  unfold afterBar barSignal BacktestExitTracker.barCheck
  cases hclose : (closePrices.get? coinId).filter (0 < ·) with
  | none => exact ⟨rfl, rfl⟩
  | some closePrice =>
    obtain ⟨hprice, hpos⟩ := Option.filter_eq_some_iff.mp hclose
    exact checkPosition_alike coinId (h coinId tracked hget closePrice hprice (by simpa using hpos))

theorem checkExits_alike
    (h : SameBars tracker closePrices lowPrices highPrices lowPrices' highPrices') :
    (∀ coinId,
      (tracker.checkExits closePrices lowPrices highPrices currentBar).1.positions.get? coinId =
        (tracker.checkExits closePrices lowPrices' highPrices' currentBar).1.positions.get?
          coinId) ∧
      (tracker.checkExits closePrices lowPrices highPrices currentBar).2.map ExitSignal.trigger =
        (tracker.checkExits closePrices lowPrices' highPrices' currentBar).2.map
          ExitSignal.trigger := by
  constructor
  · intro coinId
    rw [get?_checkExits, get?_checkExits]
    cases hget : tracker.positions.get? coinId with
    | none => rfl
    | some => exact congrArg some (h.barCheck hget).1
  · rw [signals_checkExits, signals_checkExits, List.map_filterMap, List.map_filterMap]
    refine List.filterMap_congr fun e he => ?_
    exact (h.barCheck (OrdMap.get?_eq_some_iff.mpr he)).2

end Bars

end BacktestExitTracker

end Chansey
