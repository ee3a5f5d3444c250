import Chansey.Exit.Signals
import Chansey.Lib.Lockstep
import Chansey.Live.Trailing

/-!
# The trailing stop of the monitor and of the exit tracker

One price path is fed tick by tick to the monitor and bar by bar, with four equal prices, to the
exit tracker of a backtest. After each tick the two are compared by their activation, their stop
price and whether they triggered.
-/

namespace Chansey

open BacktestExitTracker

/-- The trailing part of a configuration, without stop-loss and take-profit. -/
def ExitConfig.trailingOnly (config : ExitConfig) : ExitConfig :=
  { config with enableStopLoss := false, enableTakeProfit := false, enableTrailingStop := true }

structure PriceTick where
  time : Instant
  price : ℚ

structure TrailingView where
  activated : Bool
  stop : Option ℚ
  triggered : Bool
  deriving DecidableEq

section Machines

variable (replaceStop : PositionExit → PositionExit → ℚ → PositionExit × PositionExit)

def tickSaving (save : PositionExit → PositionExit → PositionExit) (row : PositionExit)
    (tick : PriceTick) : PositionExit × TrailingView :=
  let (saved, result) :=
    if 0 < tick.price then
      updateTrailingStop replaceStop save tick.time row row tick.price
    else (row, { updated := false, triggered := false })
  (saved,
    { activated := saved.trailingActivated
      stop := saved.currentTrailingStopPrice
      triggered := result.triggered })

def monitorTick : PositionExit → PriceTick → PositionExit × TrailingView :=
  tickSaving replaceStop PositionExit.savedOver

/-- A pass as if the row had columns of every precision. -/
def exactTick : PositionExit → PriceTick → PositionExit × TrailingView :=
  tickSaving replaceStop fun _ position => position

def trackerBar (coinId : CoinId) (state : BacktestExitTracker × ℕ) (tick : PriceTick) :
    (BacktestExitTracker × ℕ) × TrailingView :=
  let prices := OrdMap.empty.set coinId tick.price
  let (tracker, signals) := state.1.checkExits prices prices prices state.2
  let levels := tracker.positions.get? coinId
  ((tracker, state.2 + 1),
    { activated := (levels.map (·.trailingActivated)).getD false
      stop := levels.bind (·.trailingStopPrice)
      triggered := signals ≠ [] })

def trackedEntry (coinId : CoinId) (entryOrder : EntryOrder) (config : ExitConfig)
    (currentAtr : Option ℚ) : BacktestExitTracker :=
  let tracker : BacktestExitTracker := { config := config }
  match entryOrder.side with
  | .buy => tracker.onBuy coinId entryOrder.entryPrice entryOrder.quantity currentAtr none
  | .sell => tracker

end Machines

def reachesActivation (tracked : TrackedExit) (price : ℚ) : Bool :=
  tracked.trailingActivationPrice.any (· ≤ price)

/-- A tick on which the tracked position behaves like the monitored one. A new high needs a positive
distance and, for an ATR distance, an ATR. Before the activation both thresholds must say the same,
and the price that activates must not be a new high. -/
def TrailsAlike (config : ExitConfig) (tracked : TrackedExit) (price : ℚ) : Prop :=
  if tracked.trailingActivated then
    tracked.highWaterMark < price →
      (config.trailingType = .atr → (Js.truthy? tracked.entryAtr).isSome) ∧
        0 < trailingDistance price config tracked.entryAtr
  else
    shouldActivateTrailing config tracked.entryPrice .buy price =
        reachesActivation tracked price ∧
      (reachesActivation tracked price → price ≤ tracked.highWaterMark)

/-- A tick on which the coin is tracked and behaves like the monitored position. -/
def BarAlike (coinId : CoinId) (state : BacktestExitTracker × ℕ) (tick : PriceTick) : Prop :=
  ∃ tracked, state.1.positions.get? coinId = some tracked ∧
    (0 < tick.price → TrailsAlike state.1.config tracked tick.price)

/-! ## Distances -/

section Distances

variable {config : ExitConfig} {atr : Option ℚ}

def AcceptedDistance (config : ExitConfig) (atr : Option ℚ) : Prop :=
  ∃ r c : ℚ, 0 ≤ r ∧ r < 1 ∧ 0 ≤ c ∧ ∀ x, trailingDistance x config atr = x * r + c

theorem trailingDistance_affine (config : ExitConfig) (atr : Option ℚ) :
    ∃ r c : ℚ, (r = 0 ∨ c = 0) ∧ ∀ x, trailingDistance x config atr = x * r + c := by
  unfold trailingDistance
  cases config.trailingType with
  | amount => exact ⟨0, config.trailingValue, Or.inl rfl, fun x => by simp⟩
  | percentage => exact ⟨config.trailingValue / 100, 0, Or.inr rfl, fun x => by simp⟩
  | atr =>
    cases Js.truthy? atr with
    | none => exact ⟨1 / 100, 0, Or.inr rfl, fun x => by simp⟩
    | some atr => exact ⟨0, atr * config.trailingValue, Or.inl rfl, fun x => by simp⟩

theorem acceptedDistance_of_stop {entryPrice : ℚ}
    (hpos : 0 < calculateTrailingStopPrice entryPrice .buy config atr)
    (hle : calculateTrailingStopPrice entryPrice .buy config atr ≤ entryPrice) :
    AcceptedDistance config atr := by
  obtain ⟨r, c, hrc, hd⟩ := trailingDistance_affine config atr
  simp only [calculateTrailingStopPrice, ExitSide.below, hd] at hpos hle
  have hentry : 0 < entryPrice := lt_of_lt_of_le hpos hle
  rcases hrc with rfl | rfl
  · exact ⟨0, c, le_rfl, zero_lt_one, by linarith, hd⟩
  · have hr : 0 ≤ entryPrice * r := by linarith
    have hr' : entryPrice * r < entryPrice * 1 := by linarith
    exact ⟨r, 0, nonneg_of_mul_nonneg_right hr hentry, lt_of_mul_lt_mul_left hr' hentry.le,
      le_rfl, hd⟩

theorem AcceptedDistance.nonneg (h : AcceptedDistance config atr) {x : ℚ} (hx : 0 < x) :
    0 ≤ trailingDistance x config atr := by
  obtain ⟨r, c, _, -, _, hd⟩ := h
  rw [hd]
  positivity

theorem AcceptedDistance.stop_lt (h : AcceptedDistance config atr) {x y : ℚ} (hxy : x < y) :
    calculateTrailingStopPrice x .buy config atr < calculateTrailingStopPrice y .buy config atr := by
  obtain ⟨r, c, _, _, _, hd⟩ := h
  simp only [calculateTrailingStopPrice, ExitSide.below, hd]
  nlinarith

theorem AcceptedDistance.stop_le (h : AcceptedDistance config atr) {x y : ℚ} (hxy : x ≤ y) :
    calculateTrailingStopPrice x .buy config atr ≤ calculateTrailingStopPrice y .buy config atr := by
  rcases hxy.eq_or_lt with rfl | hlt
  · exact le_rfl
  · exact (h.stop_lt hlt).le

theorem monitorTrailingDistance_eq (x : ℚ)
    (h : config.trailingType = .atr → (Js.truthy? atr).isSome) :
    monitorTrailingDistance x config atr = trailingDistance x config atr := by
  unfold monitorTrailingDistance trailingDistance
  cases htype : config.trailingType with
  | amount | percentage => rfl
  | atr =>
    obtain ⟨a, ha⟩ := Option.isSome_iff_exists.mp (h htype)
    simp [ha]

theorem trailingDistance_missing (x : ℚ)
    (h : ¬ (config.trailingType = .atr → (Js.truthy? atr).isSome)) :
    monitorTrailingDistance x config atr = x * (2 / 100) ∧
      trailingDistance x config atr = x * (1 / 100) := by
  obtain ⟨htype, hnone⟩ := Classical.not_imp.mp h
  have htruthy : Js.truthy? atr = none := by simpa using hnone
  simp [monitorTrailingDistance, trailingDistance, htype, htruthy, TRAILING_FALLBACK_PERCENTAGE]

theorem AcceptedDistance.monitor_le (h : AcceptedDistance config atr) {x y : ℚ} (hx : 0 < x)
    (hxy : x ≤ y) :
    monitorTrailingStopPrice x config .buy atr ≤ calculateTrailingStopPrice y .buy config atr := by
  by_cases hatr : config.trailingType = .atr → (Js.truthy? atr).isSome
  · have hsame : monitorTrailingStopPrice x config .buy atr =
        calculateTrailingStopPrice x .buy config atr := by
      rw [monitorTrailingStopPrice, monitorTrailingDistance_eq x hatr, calculateTrailingStopPrice]
    rw [hsame]
    exact h.stop_le hxy
  · rw [monitorTrailingStopPrice, calculateTrailingStopPrice, (trailingDistance_missing x hatr).1,
      (trailingDistance_missing y hatr).2]
    simp only [ExitSide.below]
    linarith

end Distances

/-! ## One tick of either machine -/

section Ticks

variable (replaceStop : PositionExit → PositionExit → ℚ → PositionExit × PositionExit)
  {row : PositionExit} {tick : PriceTick} {stop : ℚ}

@[simp] theorem truthy?_some_getD (q : ℚ) : (Js.truthy? (some q)).getD 0 = q := by
  rw [Js.truthy?_some]
  split_ifs with h <;> simp [h]

theorem exactTick_skip (hprice : ¬ 0 < tick.price) :
    exactTick replaceStop row tick =
      (row, { activated := row.trailingActivated, stop := row.currentTrailingStopPrice,
              triggered := false }) := by
  simp [exactTick, tickSaving, hprice]

/-- The stop moves: the price is a new water mark of an active stop and asks for a better one. -/
def PositionExit.Moves (row : PositionExit) (price : ℚ) : Prop :=
  row.trailingActivated = true ∧ isNewWaterMark price row.waterMark row.side = true ∧
    isNewWaterMark (row.stopAt price) row.currentTrailingStopPrice row.side = true

instance (row : PositionExit) (price : ℚ) : Decidable (row.Moves price) :=
  inferInstanceAs (Decidable (_ ∧ _))

/-- **What a tick makes of a row without a stop order.** `stop` is in force before it. -/
structure TickedTo (row : PositionExit) (price stop : ℚ) (ticked : PositionExit × TrailingView) :
    Prop where
  terms : SameTerms row ticked.1
  activated : ticked.1.trailingActivated = (row.trailingActivated ||
    shouldActivateTrailing row.exitConfig row.entryPrice row.side price)
  stop_eq : ticked.1.currentTrailingStopPrice =
    some (if row.Moves price then row.stopAt price else stop)
  view : ticked.2 =
    { activated := ticked.1.trailingActivated
      stop := ticked.1.currentTrailingStopPrice
      triggered := ticked.1.trailingActivated && shouldTriggerStop price (some stop) row.side }
  status : ticked.1.status = if ticked.2.triggered then .trailingTriggered else row.status
  mark : ticked.2.triggered = false →
    ticked.1.waterMark = some price ∧ ticked.1.trailingActivated = true ∨
      ticked.1.waterMark = row.waterMark ∧ ticked.1.trailingActivated = row.trailingActivated

theorem TickedTo.view_eq {price : ℚ} {ticked : PositionExit × TrailingView} {active : Bool}
    (h : TickedTo row price stop ticked) (hactive : (row.trailingActivated ||
      shouldActivateTrailing row.exitConfig row.entryPrice row.side price) = active) :
    ticked.2 =
      { activated := active
        stop := some (if row.Moves price then row.stopAt price else stop)
        triggered := active && shouldTriggerStop price (some stop) row.side } := by
  rw [h.view, h.stop_eq, h.activated, hactive]

theorem isNewWaterMark_self {price : ℚ} (hprice : 0 < price) (side : ExitSide) :
    isNewWaterMark price (some price) side = false := by
  have htruthy : Js.truthy? (some price) = some price := by
    rw [Js.truthy?_some, if_neg hprice.ne']
  cases side <;> simp [isNewWaterMark, htruthy]

structure RatchetedTo (row : PositionExit) (price stop : ℚ)
    (ratcheted : PositionExit × PositionExit × Ratchet) (saved : PositionExit) : Prop where
  world : ratcheted.1 = saved
  found : ratcheted.2.2 ≠ .lost
  terms : SameTerms row ratcheted.2.1
  activated : ratcheted.2.1.trailingActivated = row.trailingActivated
  status : ratcheted.2.1.status = row.status
  moved : ratcheted.2.2 = .moved ↔ row.Moves price
  stop_eq : ratcheted.2.1.currentTrailingStopPrice =
    some (if row.Moves price then row.stopAt price else stop)
  mark : ratcheted.2.1.waterMark = some price ∨ ratcheted.2.1.waterMark = row.waterMark

theorem ratchetStop_spec {price : ℚ} (horder : row.trailingStopOrderId = none)
    (hstop : row.currentTrailingStopPrice = some stop) (hact : row.trailingActivated = true)
    (saved : PositionExit) :
    RatchetedTo row price stop (ratchetStop replaceStop saved row price) saved := by
  obtain ⟨hterms, hon, hsame, hstat, hwater⟩ := setWaterMark_terms row price
  have hstopAt : monitorTrailingStopPrice price (row.setWaterMark price).exitConfig
      (row.setWaterMark price).side (row.setWaterMark price).entryAtr = row.stopAt price :=
    hterms.stopAt price
  unfold ratchetStop
  by_cases hmark : isNewWaterMark price row.waterMark row.side = true
  · rw [if_pos hmark]
    dsimp only
    rw [hstopAt]
    by_cases hnew : isNewWaterMark (row.stopAt price) row.currentTrailingStopPrice row.side = true
    · have hmoves : row.Moves price := ⟨hact, hmark, hnew⟩
      rw [if_pos hnew, moveStop_of_no_order (hterms.order.trans horder)]
      exact ⟨rfl, by simp, hterms.trans ⟨rfl, rfl, rfl, rfl, rfl⟩, hon, hstat,
        iff_of_true rfl hmoves, (congrArg some (if_pos hmoves)).symm, .inl hwater⟩
    · have hkept : ¬ row.Moves price := fun hmoves => hnew hmoves.2.2
      rw [if_neg hnew]
      exact ⟨rfl, by simp, hterms, hon, hstat, iff_of_false (by simp) hkept,
        hsame.trans (hstop.trans (congrArg some (if_neg hkept)).symm), .inl hwater⟩
  · have hkept : ¬ row.Moves price := fun hmoves => hmark hmoves.2.1
    rw [if_neg hmark]
    exact ⟨rfl, by simp, .refl row, rfl, rfl, iff_of_false (by simp) hkept,
      hstop.trans (congrArg some (if_neg hkept)).symm, .inr rfl⟩

theorem activateTrailing_spec (row : PositionExit) (price : ℚ) :
    (activateTrailing row price = (row, false) ∧ (row.trailingActivated ||
      shouldActivateTrailing row.exitConfig row.entryPrice row.side price) =
        row.trailingActivated) ∨
      ∃ position, activateTrailing row price = (position, true) ∧ SameTerms row position ∧
        position.trailingActivated = true ∧ row.trailingActivated = false ∧
        shouldActivateTrailing row.exitConfig row.entryPrice row.side price = true ∧
        position.currentTrailingStopPrice = row.currentTrailingStopPrice ∧
        position.status = row.status ∧ position.waterMark = some price := by
  obtain ⟨hterms, -, hsame, hstat, hwater⟩ := setWaterMark_terms row price
  unfold activateTrailing
  split
  · rename_i hfires
    exact .inr ⟨_, rfl, ⟨hterms.side, hterms.config, hterms.entry, hterms.atr, hterms.order⟩, rfl,
      Bool.not_eq_true _ ▸ hfires.1, hfires.2, hsame, hstat, hwater⟩
  · rename_i hwaits
    refine .inl ⟨rfl, ?_⟩
    cases hact : row.trailingActivated with
    | true => rfl
    | false => exact Bool.not_eq_true _ ▸ fun hon => hwaits ⟨by simp [hact], hon⟩

section Saved

variable {position : PositionExit} {price : ℚ}

theorem tickedTo_kept (hstop : row.currentTrailingStopPrice = some stop)
    (hwaits : (row.trailingActivated ||
      shouldActivateTrailing row.exitConfig row.entryPrice row.side price) = row.trailingActivated)
    (hkept : ¬ row.Moves price)
    (hquiet : (row.trailingActivated && shouldTriggerStop price (some stop) row.side) = false) :
    TickedTo row price stop (row,
      { activated := row.trailingActivated, stop := row.currentTrailingStopPrice
        triggered := false }) :=
  ⟨.refl row, hwaits.symm, hstop.trans (congrArg some (if_neg hkept)).symm, by rw [hquiet], rfl,
    fun _ => .inr ⟨rfl, rfl⟩⟩

theorem tickedTo_triggerStop (now : Instant) (hterms : SameTerms row position)
    (hon : position.trailingActivated = true) (hact : (row.trailingActivated ||
      shouldActivateTrailing row.exitConfig row.entryPrice row.side price) = true)
    (hstat : position.status = row.status) (hcur : position.currentTrailingStopPrice =
      some (if row.Moves price then row.stopAt price else stop))
    (hmark : position.waterMark = some price ∨
      position.waterMark = row.waterMark ∧ row.trailingActivated = true) :
    let final := triggerStop now position (some stop) price
    TickedTo row price stop (final.1,
      { activated := final.1.trailingActivated, stop := final.1.currentTrailingStopPrice
        triggered := final.2 }) := by
  intro final
  obtain ⟨hfired, hsame, hkept, hstop, hwater, hset⟩ :=
    triggerStop_spec now position (some stop) price
  rw [hterms.side] at hfired hset
  refine ⟨hterms.trans hsame, (hkept.trans hon).trans hact.symm, hstop.trans hcur, ?_, ?_,
    fun _ => ?_⟩
  · rw [hkept, hon, Bool.true_and, ← hfired]
  · rw [hset, hstat, ← hfired]
  · dsimp only
    rw [hwater, hkept, hon]
    rcases hmark with hprice | ⟨hold, hrow⟩
    · exact .inl ⟨hprice, rfl⟩
    · exact .inr ⟨hold, hrow.symm⟩

end Saved

theorem exactTick_spec (hprice : 0 < tick.price) (horder : row.trailingStopOrderId = none)
    (hstop : row.currentTrailingStopPrice = some stop) :
    TickedTo row tick.price stop (exactTick replaceStop row tick) := by
  unfold exactTick tickSaving
  rw [if_pos hprice]
  unfold updateTrailingStop
  rcases activateTrailing_spec row tick.price with ⟨hactivate, hwaits⟩ |
    ⟨position, hactivate, hterms, hon, hoff, hsh, hcur, hstat, hwater⟩
  · rw [hactivate]
    cases hact : row.trailingActivated with
    | true =>
      have hratchet : RatchetedTo row tick.price stop _ row :=
        ratchetStop_spec replaceStop horder hstop hact row
      dsimp only
      rw [if_pos hact, hstop]
      generalize ratchetStop replaceStop row row tick.price = ratcheted at *
      obtain ⟨world, position, ratchet⟩ := ratcheted
      obtain ⟨hworld, hfound, hterms, hon, hstat, hmoved, hcur, hmark⟩ := hratchet
      obtain rfl : row = world := hworld.symm
      have hsaved := tickedTo_triggerStop tick.time hterms (hon.trans hact) (hwaits.trans hact)
        hstat hcur (hmark.imp_right fun hold => ⟨hold, hact⟩)
      have htriggers := (triggerStop_spec tick.time position (some stop) tick.price).1
      cases ratchet with
      | lost => exact absurd rfl hfound
      | moved => simpa using hsaved
      | kept =>
        have hkept : ¬ row.Moves tick.price := fun hmoves => by simpa using hmoved.mpr hmoves
        cases hfires : (triggerStop tick.time position (some stop) tick.price).2 with
        | true => simpa [hfires] using hsaved
        | false =>
          have hquiet : (row.trailingActivated &&
              shouldTriggerStop tick.price (some stop) row.side) = false := by
            rw [hact, Bool.true_and, ← hterms.side, ← htriggers, hfires]
          simpa [hfires, hstop] using tickedTo_kept hstop hwaits hkept hquiet
    | false =>
      simpa [hact] using tickedTo_kept hstop hwaits (fun hmoves => Bool.false_ne_true (hact.symm.trans hmoves.1))
        (by rw [hact, Bool.false_and])
  · have hkept : ¬ position.Moves tick.price := by
      rintro ⟨-, hmark, -⟩
      rw [hwater, isNewWaterMark_self hprice] at hmark
      exact Bool.false_ne_true hmark
    have hrow : ¬ row.Moves tick.price := fun hmoves =>
      Bool.false_ne_true (hoff.symm.trans hmoves.1)
    have hratchet : RatchetedTo position tick.price stop _ row :=
      ratchetStop_spec replaceStop (hterms.order.trans horder) (hcur.trans hstop) hon row
    rw [hactivate]
    dsimp only
    rw [if_pos hon, hcur, hstop]
    generalize ratchetStop replaceStop row position tick.price = ratcheted at *
    obtain ⟨world, ratcheted, ratchet⟩ := ratcheted
    obtain ⟨-, hfound, hterms', hon', hstat', -, hcur', hmark⟩ := hratchet
    dsimp only at hterms' hon' hstat' hcur' hmark
    rw [if_neg hkept] at hcur'
    rw [hwater, or_self] at hmark
    have hsaved := tickedTo_triggerStop tick.time (hterms.trans hterms') (hon'.trans hon)
      (by rw [hsh, Bool.or_true]) (hstat'.trans hstat)
      (hcur'.trans (congrArg some (if_neg hrow).symm)) (.inl hmark)
    cases ratchet with
    | lost => exact absurd rfl hfound
    | kept | moved => simpa using hsaved

structure TrailingOnly (config : ExitConfig) (tracked : TrackedExit) : Prop where
  side : tracked.side = .buy
  positionConfig : tracked.positionConfig = none
  stopLoss : tracked.stopLossPrice = none
  takeProfit : tracked.takeProfitPrice = none
  trailing : tracked.trailingStopPrice =
    some (calculateTrailingStopPrice tracked.highWaterMark .buy config tracked.entryAtr)

variable {coinId : CoinId} {state : BacktestExitTracker × ℕ} {tracked : TrackedExit}

theorem trackerBar_skip (hposs : state.1.positions.entries = [(coinId, tracked)])
    (hprice : ¬ 0 < tick.price) :
    trackerBar coinId state tick =
      ((state.1, state.2 + 1), { activated := tracked.trailingActivated,
                                  stop := tracked.trailingStopPrice, triggered := false }) := by
  have hget : state.1.positions.get? coinId = some tracked := by
    rw [OrdMap.get?_eq_some_iff, hposs]
    exact List.mem_singleton_self _
  simp [trackerBar, checkExits, hposs, checkEntry, Option.filter, hprice, hget]

variable {tracker : BacktestExitTracker}

variable (coinId) in
theorem checkPosition_trailing (hen : tracker.config.enableTrailingStop = true)
    (honly : TrailingOnly tracker.config tracked) (price : ℚ) :
    (tracker.checkPosition coinId tracked price price).tracked = tracker.trail tracked price ∧
      (tracker.checkPosition coinId tracked price price).signal.isSome =
        ((tracker.trail tracked price).trailingActivated &&
          (tracker.trail tracked price).trailingStopPrice.any (price ≤ ·)) := by
  have hside : (tracker.trail tracked price).side = .buy := by simp [honly.side]
  unfold checkPosition
  simp only [honly.stopLoss, honly.takeProfit, honly.positionConfig, Option.filter_none,
    Option.getD_none, hen, honly.trailing, Option.isSome_some, and_self, if_true]
  generalize tracker.trail tracked price = trailed at hside
  cases hstop : trailed.trailingStopPrice with
  | none => simp
  | some stop =>
    cases hact : trailed.trailingActivated <;> by_cases hhit : price ≤ stop <;>
      simp [Option.filter, hside, hhit]

theorem trackerBar_trailing (hposs : state.1.positions.entries = [(coinId, tracked)])
    (hen : state.1.config.enableTrailingStop = true)
    (honly : TrailingOnly state.1.config tracked) (hprice : 0 < tick.price) :
    let trailed := state.1.trail tracked tick.price
    (trackerBar coinId state tick).2 =
        { activated := trailed.trailingActivated
          stop := trailed.trailingStopPrice
          triggered :=
            trailed.trailingActivated && trailed.trailingStopPrice.any (tick.price ≤ ·) } ∧
      ((trackerBar coinId state tick).2.triggered = false →
        (trackerBar coinId state tick).1.1.positions.entries = [(coinId, trailed)] ∧
          (trackerBar coinId state tick).1.1.config = state.1.config) := by
  intro trailed
  obtain ⟨htrd, hsig⟩ := checkPosition_trailing coinId hen honly tick.price
  have hset : (state.1.positions.set coinId trailed).entries = [(coinId, trailed)] := by
    simp [OrdMap.set, hposs, OrdMap.put]
  have hget : (state.1.positions.set coinId trailed).get? coinId = some trailed :=
    OrdMap.get?_set_self ..
  cases hs : (state.1.checkPosition coinId tracked tick.price tick.price).signal with
  | none =>
    rw [hs] at hsig
    simp [trackerBar, checkExits, hposs, checkEntry, Option.filter, hprice, htrd, hs, hget,
      hset, ← hsig, trailed]
  | some signal =>
    rw [hs] at hsig
    by_cases htype : signal.exitType = .takeProfit <;>
      simp [trackerBar, checkExits, hposs, checkEntry, Option.filter, hprice, htrd, hs,
        hget, ← hsig, trailed, htype]

theorem trail_eq (honly : TrailingOnly tracker.config tracked) (price : ℚ) :
    tracker.trail tracked price =
      if tracked.trailingActivated = true ∨ reachesActivation tracked price = true then
        { tracked with
          trailingActivated := true
          highWaterMark := max tracked.highWaterMark price
          trailingStopPrice :=
            some (calculateTrailingStopPrice (max tracked.highWaterMark price) .buy tracker.config
              tracked.entryAtr) }
      else tracked := by
  have hside := honly.side
  have hcfg := honly.positionConfig
  have hstop := honly.trailing
  obtain ⟨_, _, _, _, _, _, activation, active, mark, _, _, _⟩ := tracked
  dsimp only at hside hcfg hstop
  subst hside hcfg hstop
  unfold trail reachesActivation recalcTrailingStop
  rcases le_or_gt price mark with hle | hlt
  · cases active <;> cases activation.any (· ≤ price) <;> simp [hle, not_lt.mpr]
  · cases active <;> cases activation.any (· ≤ price) <;>
      simp [hlt, hlt.le, calculateTrailingStopPrice]

theorem TrailingOnly.trail (honly : TrailingOnly tracker.config tracked) (price : ℚ) :
    TrailingOnly tracker.config (tracker.trail tracked price) := by
  rw [trail_eq honly]
  split_ifs
  · exact ⟨honly.side, honly.positionConfig, honly.stopLoss, honly.takeProfit, rfl⟩
  · exact honly

@[simp] theorem trail_entryAtr (tracker : BacktestExitTracker) (tracked : TrackedExit) (price : ℚ) :
    (tracker.trail tracked price).entryAtr = tracked.entryAtr := by
  unfold trail
  dsimp only
  split_ifs <;> rfl

@[simp] theorem trail_entryPrice (tracker : BacktestExitTracker) (tracked : TrackedExit)
    (price : ℚ) : (tracker.trail tracked price).entryPrice = tracked.entryPrice := by
  unfold trail
  dsimp only
  split_ifs <;> rfl

theorem price_le_trail_mark (honly : TrailingOnly tracker.config tracked) {price : ℚ}
    (hactive : (tracker.trail tracked price).trailingActivated = true) :
    price ≤ (tracker.trail tracked price).highWaterMark := by
  rw [trail_eq honly] at hactive ⊢
  split_ifs at hactive ⊢ with hon
  · exact le_max_right ..
  · exact absurd (.inl hactive) hon

theorem le_trail_mark (honly : TrailingOnly tracker.config tracked) (price : ℚ) :
    tracked.highWaterMark ≤ (tracker.trail tracked price).highWaterMark := by
  rw [trail_eq honly]
  split_ifs
  · exact le_max_left ..
  · exact le_rfl

end Ticks

/-! ## Rows of at most eight decimals -/

section Columns

/-- The numbers that an entry starts with have at most eight decimals. -/
structure FitsTrailing (entryOrder : EntryOrder) (config : ExitConfig) (currentAtr : Option ℚ) : Prop where
  price : InColumn entryOrder.entryPrice
  atr : ∀ atr ∈ currentAtr, InColumn atr
  distance : InColumn (trailingDistance entryOrder.entryPrice config currentAtr)

/-- A row of a run, whose columns keep what the monitor reads and writes. -/
structure InRow (config : ExitConfig) (currentAtr : Option ℚ) (row : PositionExit) : Prop where
  kept : KeptOver row row
  config_eq : row.exitConfig = config
  atr_eq : row.entryAtr = currentAtr

variable (replaceStop : PositionExit → PositionExit → ℚ → PositionExit × PositionExit)
  {config : ExitConfig} {currentAtr : Option ℚ} {row : PositionExit} {tick : PriceTick}
  {entryOrder : EntryOrder}

theorem FitsTrailing.trailingOnly (h : FitsTrailing entryOrder config currentAtr) :
    FitsTrailing entryOrder config.trailingOnly currentAtr := ⟨h.price, h.atr, h.distance⟩

theorem FitsColumns.trailingOnly {price : ℚ} (h : FitsColumns config currentAtr price) :
    FitsColumns config.trailingOnly currentAtr price := ⟨h.price, h.distance⟩

theorem FitsTrailing.initialStop (h : FitsTrailing entryOrder config currentAtr) :
    priceColumn (calculateTrailingStopPrice entryOrder.entryPrice entryOrder.side config
      currentAtr) = calculateTrailingStopPrice entryOrder.entryPrice entryOrder.side config
        currentAtr := by
  refine priceColumn_eq ?_
  unfold calculateTrailingStopPrice
  cases entryOrder.side with
  | buy => exact h.price.sub h.distance
  | sell => exact h.price.add h.distance

theorem FitsTrailing.atr_eq (h : FitsTrailing entryOrder config currentAtr) :
    currentAtr.map priceColumn = currentAtr := by
  cases currentAtr with
  | none => rfl
  | some atr => exact congrArg some (priceColumn_eq (h.atr atr rfl))

theorem monitorTick_eq (hrow : InRow config currentAtr row)
    (hfits : 0 < tick.price → FitsColumns config currentAtr tick.price) :
    monitorTick replaceStop row tick = exactTick replaceStop row tick ∧
      InRow config currentAtr (exactTick replaceStop row tick).1 := by
  unfold monitorTick exactTick tickSaving
  split_ifs with hprice
  · have hcolumns : FitsColumns row.exitConfig row.entryAtr tick.price := by
      rw [hrow.config_eq, hrow.atr_eq]
      exact hfits hprice
    obtain ⟨hsame, hkept⟩ := updateTrailingStop_savedOver replaceStop hrow.kept tick.time hcolumns
    rw [hsame]
    exact ⟨rfl, hkept.self, hkept.terms.config.trans hrow.config_eq,
      hkept.terms.atr.trans hrow.atr_eq⟩
  · exact ⟨rfl, hrow⟩

theorem inRow_inserted (id : String) (orders : AttachedOrders)
    (h : FitsTrailing entryOrder config currentAtr) :
    InRow config currentAtr (newPositionExit id entryOrder config currentAtr orders).inserted := by
  have hkept : ∀ x : Option ℚ, (x.map priceColumn).map priceColumn = x.map priceColumn := by
    intro x
    cases x with
    | none => rfl
    | some x => exact congrArg some (Js.decimalColumn_decimalColumn x 8)
  exact ⟨⟨.refl _, rfl, hkept _, hkept _, hkept _, rfl⟩, rfl, h.atr_eq⟩

end Columns

/-! ## Lockstep -/

section Agreement

variable (replaceStop : PositionExit → PositionExit → ℚ → PositionExit × PositionExit)
  {coinId : CoinId} {row : PositionExit} {state : BacktestExitTracker × ℕ} {tick : PriceTick}

structure MatchedLong (coinId : CoinId) (row : PositionExit) (state : BacktestExitTracker × ℕ)
    (tracked : TrackedExit) : Prop where
  positions : state.1.positions.entries = [(coinId, tracked)]
  config : row.exitConfig = state.1.config
  enabled : state.1.config.enableTrailingStop = true
  only : TrailingOnly state.1.config tracked
  distance : AcceptedDistance state.1.config tracked.entryAtr
  side : row.side = .buy
  order : row.trailingStopOrderId = none
  entry : row.entryPrice = tracked.entryPrice
  atr : row.entryAtr = tracked.entryAtr
  activated : row.trailingActivated = tracked.trailingActivated
  stop : row.currentTrailingStopPrice = tracked.trailingStopPrice
  mark : (Js.truthy? row.trailingHighWaterMark).getD 0 ≤ tracked.highWaterMark
  positive : 0 < tracked.highWaterMark

structure MatchedShort (row : PositionExit) (state : BacktestExitTracker × ℕ) : Prop where
  positions : state.1.positions.entries = []
  order : row.trailingStopOrderId = none
  stop : row.currentTrailingStopPrice.isSome

def Matched (coinId : CoinId) (row : PositionExit) (state : BacktestExitTracker × ℕ) : Prop :=
  (∃ tracked, MatchedLong coinId row state tracked) ∨ MatchedShort row state

namespace MatchedLong

variable {tracked : TrackedExit} (h : MatchedLong coinId row state tracked)

include h

theorem get? : state.1.positions.get? coinId = some tracked := by
  rw [OrdMap.get?_eq_some_iff, h.positions]
  exact List.mem_singleton_self _

theorem barAlike_iff :
    BarAlike coinId state tick ↔
      (0 < tick.price → TrailsAlike state.1.config tracked tick.price) := by
  simp [BarAlike, h.get?]

theorem stop_le_mark :
    calculateTrailingStopPrice tracked.highWaterMark .buy state.1.config tracked.entryAtr ≤
      tracked.highWaterMark := by
  have hd := h.distance.nonneg h.positive
  simp only [calculateTrailingStopPrice, ExitSide.below]
  linarith

theorem rowStop : row.currentTrailingStopPrice =
    some (calculateTrailingStopPrice tracked.highWaterMark .buy state.1.config tracked.entryAtr) :=
  h.stop.trans h.only.trailing

theorem rowActivates (tick : PriceTick) :
    shouldActivateTrailing row.exitConfig row.entryPrice row.side tick.price =
      shouldActivateTrailing state.1.config tracked.entryPrice .buy tick.price := by
  rw [h.config, h.entry, h.side]

theorem tracker_active (hprice : 0 < tick.price)
    (hact : tracked.trailingActivated = true ∨ reachesActivation tracked tick.price = true) :
    let stop := calculateTrailingStopPrice (max tracked.highWaterMark tick.price) .buy
      state.1.config tracked.entryAtr
    (trackerBar coinId state tick).2 =
      { activated := true, stop := some stop, triggered := tick.price ≤ stop } := by
  intro stop
  rw [(trackerBar_trailing h.positions h.enabled h.only hprice).1, trail_eq h.only, if_pos hact]
  simp [stop]

theorem tracker_inactive (hprice : 0 < tick.price) (hact : tracked.trailingActivated = false)
    (hreach : reachesActivation tracked tick.price = false) :
    (trackerBar coinId state tick).2 =
      { activated := false, stop := tracked.trailingStopPrice, triggered := false } := by
  rw [(trackerBar_trailing h.positions h.enabled h.only hprice).1, trail_eq h.only,
    if_neg (by simp [hact, hreach])]
  simp [hact]

theorem ticked (hprice : 0 < tick.price) :
    TickedTo row tick.price (calculateTrailingStopPrice tracked.highWaterMark .buy state.1.config
      tracked.entryAtr) (exactTick replaceStop row tick) :=
  exactTick_spec replaceStop hprice h.order h.rowStop

theorem show_active_iff (hprice : 0 < tick.price) (hact : tracked.trailingActivated = true) :
    (exactTick replaceStop row tick).2 = (trackerBar coinId state tick).2 ↔
      (tracked.highWaterMark < tick.price →
        (state.1.config.trailingType = .atr → (Js.truthy? tracked.entryAtr).isSome) ∧
          0 < trailingDistance tick.price state.1.config tracked.entryAtr) := by
  have hmoves : row.Moves tick.price ↔ (Js.truthy? row.trailingHighWaterMark).getD 0 < tick.price ∧
      calculateTrailingStopPrice tracked.highWaterMark .buy state.1.config tracked.entryAtr <
        row.stopAt tick.price := by
    simp [PositionExit.Moves, h.activated.trans hact, h.side, h.rowStop, isNewWaterMark,
      PositionExit.waterMark]
  have hstopAt : row.stopAt tick.price =
      monitorTrailingStopPrice tick.price state.1.config .buy tracked.entryAtr := by
    rw [PositionExit.stopAt, h.config, h.side, h.atr]
  rw [h.tracker_active hprice (Or.inl hact), (h.ticked replaceStop hprice).view_eq
    (by rw [h.activated, hact, Bool.true_or]), h.side, if_congr hmoves rfl rfl, hstopAt]
  have hbelow := h.stop_le_mark
  rcases le_or_gt tick.price tracked.highWaterMark with hle | hlt
  · -- no new high: neither stop moves
    have hkept : ¬ calculateTrailingStopPrice tracked.highWaterMark .buy state.1.config
        tracked.entryAtr < monitorTrailingStopPrice tick.price state.1.config .buy
          tracked.entryAtr := not_lt.mpr (h.distance.monitor_le hprice hle)
    simp [hkept, max_eq_left hle, not_lt.mpr hle, shouldTriggerStop]
  · have hmark := h.mark.trans_lt hlt
    have hquiet : ¬ tick.price ≤ calculateTrailingStopPrice tracked.highWaterMark .buy
        state.1.config tracked.entryAtr := not_le.mpr (hbelow.trans_lt hlt)
    have htriggers : tick.price ≤ calculateTrailingStopPrice tick.price .buy state.1.config
        tracked.entryAtr ↔ ¬ 0 < trailingDistance tick.price state.1.config tracked.entryAtr := by
      simp only [calculateTrailingStopPrice, ExitSide.below, not_lt, le_sub_self_iff]
    by_cases hatr : state.1.config.trailingType = .atr → (Js.truthy? tracked.entryAtr).isSome
    · have hsame : monitorTrailingStopPrice tick.price state.1.config .buy tracked.entryAtr =
          calculateTrailingStopPrice tick.price .buy state.1.config tracked.entryAtr := by
        rw [monitorTrailingStopPrice, monitorTrailingDistance_eq _ hatr, calculateTrailingStopPrice]
      simpa [hmark, hsame, h.distance.stop_lt hlt, max_eq_right hlt.le, hquiet, htriggers, hlt,
        shouldTriggerStop] using fun _ => hatr
    · -- without an ATR the stops are 2 % and 1 % away
      obtain ⟨hmonitor, htr⟩ := trailingDistance_missing tick.price hatr
      have hold := (trailingDistance_missing tracked.highWaterMark hatr).2
      refine iff_of_false (fun heq => ?_) fun hall => hatr (hall hlt).1
      have hstops := congrArg TrailingView.stop heq
      simp only [max_eq_right hlt.le, monitorTrailingStopPrice, calculateTrailingStopPrice,
        ExitSide.below, hmonitor, htr, hold, Option.some.injEq] at hstops
      split_ifs at hstops <;> linarith

theorem show_inactive_iff (hprice : 0 < tick.price) (hact : tracked.trailingActivated = false) :
    (exactTick replaceStop row tick).2 = (trackerBar coinId state tick).2 ↔
      shouldActivateTrailing state.1.config tracked.entryPrice .buy tick.price =
          reachesActivation tracked tick.price ∧
        (reachesActivation tracked tick.price → tick.price ≤ tracked.highWaterMark) := by
  have hrow := h.activated.trans hact
  have hstays : ¬ row.Moves tick.price := fun hmoves =>
    Bool.false_ne_true (hrow.symm.trans hmoves.1)
  rw [(h.ticked replaceStop hprice).view_eq (by rw [hrow, h.rowActivates, Bool.false_or]), h.side,
    if_neg hstays]
  cases hsh : shouldActivateTrailing state.1.config tracked.entryPrice .buy tick.price with
  | false =>
    cases hreach : reachesActivation tracked tick.price with
    | false => simp [h.tracker_inactive hprice hact hreach, h.only.trailing]
    | true => simp [h.tracker_active hprice (Or.inr hreach)]
  | true =>
    cases hreach : reachesActivation tracked tick.price with
    | false => simp [h.tracker_inactive hprice hact hreach]
    | true =>
      rw [h.tracker_active hprice (Or.inr hreach)]
      rcases le_or_gt tick.price tracked.highWaterMark with hle | hlt
      · simp [hle, shouldTriggerStop]
      · simp [max_eq_right hlt.le, (h.distance.stop_lt hlt).ne, not_le.mpr hlt]

theorem show_iff :
    (exactTick replaceStop row tick).2 = (trackerBar coinId state tick).2 ↔
      BarAlike coinId state tick := by
  rw [h.barAlike_iff]
  by_cases hprice : 0 < tick.price
  · simp only [hprice, forall_const, TrailsAlike]
    cases hact : tracked.trailingActivated with
    | true => simpa using h.show_active_iff replaceStop hprice hact
    | false => simpa using h.show_inactive_iff replaceStop hprice hact
  · rw [exactTick_skip replaceStop hprice, trackerBar_skip h.positions hprice, h.activated, h.stop]
    simp [hprice]

theorem next (halike : BarAlike coinId state tick)
    (hopen : (trackerBar coinId state tick).2.triggered = false) :
    ∃ tracked, MatchedLong coinId (exactTick replaceStop row tick).1
      (trackerBar coinId state tick).1 tracked := by
  have hshow := (h.show_iff replaceStop).mpr halike
  by_cases hprice : 0 < tick.price
  · obtain ⟨hview, htracked⟩ := trackerBar_trailing h.positions h.enabled h.only hprice
    obtain ⟨hposs, hcfg⟩ := htracked hopen
    have hticked := h.ticked replaceStop hprice
    have hside := hticked.terms.side.trans h.side
    have hviews := hticked.view.symm.trans (hshow.trans hview)
    have hactv := congrArg TrailingView.activated hviews
    have hstop := congrArg TrailingView.stop hviews
    refine ⟨state.1.trail tracked tick.price, hposs, ?_, ?_, ?_, ?_, hside,
      hticked.terms.order.trans h.order, ?_, ?_, hactv, hstop, ?_, ?_⟩
    · rw [hcfg, hticked.terms.config, h.config]
    · rw [hcfg, h.enabled]
    · rw [hcfg]
      exact h.only.trail tick.price
    · rw [hcfg, trail_entryAtr]
      exact h.distance
    · rw [hticked.terms.entry, h.entry, trail_entryPrice]
    · rw [hticked.terms.atr, h.atr, trail_entryAtr]
    · have hwater : ∀ row : PositionExit, row.side = .buy → row.waterMark = row.trailingHighWaterMark :=
        fun row hbuy => by rw [PositionExit.waterMark, hbuy]
      have hquiet := (congrArg TrailingView.triggered hshow).trans hopen
      rw [← hwater _ hside]
      rcases hticked.mark hquiet with ⟨hnew, hon⟩ | ⟨hold, -⟩
      · rw [hnew, truthy?_some_getD]
        exact price_le_trail_mark h.only (hactv.symm.trans hon)
      · rw [hold, hwater row h.side]
        exact h.mark.trans (le_trail_mark h.only tick.price)
    · exact h.positive.trans_le (le_trail_mark h.only tick.price)
  · rw [exactTick_skip replaceStop hprice, trackerBar_skip h.positions hprice]
    exact ⟨tracked, { h with }⟩

end MatchedLong

namespace MatchedShort

variable (h : MatchedShort row state)

include h

theorem get? : state.1.positions.get? coinId = none := by
  rw [OrdMap.get?_eq_none_iff, OrdMap.keys, h.positions]
  exact List.not_mem_nil

theorem show_ne :
    (exactTick replaceStop row tick).2 ≠ (trackerBar coinId state tick).2 := by
  intro heq
  obtain ⟨stop, hstop⟩ := Option.isSome_iff_exists.mp h.stop
  have htr : (trackerBar coinId state tick).2.stop = none := by
    simp [trackerBar, checkExits, h.positions, h.get?]
  have hnone := (congrArg TrailingView.stop heq).trans htr
  by_cases hprice : 0 < tick.price
  · have hticked := exactTick_spec replaceStop hprice h.order hstop
    rw [hticked.view_eq rfl] at hnone
    exact Option.some_ne_none _ hnone
  · rw [exactTick_skip replaceStop hprice] at hnone
    exact Option.some_ne_none _ (hstop.symm.trans hnone)

end MatchedShort

theorem matched_entry (id : String) (entryOrder : EntryOrder) (config : ExitConfig)
    (currentAtr : Option ℚ) (orders : AttachedOrders) (limits : ExitPriceValidationLimits) (bar : ℕ)
    (hfits : FitsTrailing entryOrder config currentAtr) (hvalid : validateExitPrices (calculateExitPrices entryOrder.entryPrice entryOrder.side
      config.trailingOnly currentAtr) entryOrder.side limits = []) :
    Matched coinId (newPositionExit id entryOrder config.trailingOnly currentAtr orders).inserted
      (trackedEntry coinId entryOrder config.trailingOnly currentAtr, bar) := by
  cases hside : entryOrder.side with
  | buy =>
    rw [hside] at hvalid
    obtain ⟨hpos, hle⟩ := validateExitPrices_trailing hvalid rfl
    refine .inl ⟨newTracked entryOrder.entryPrice entryOrder.quantity currentAtr
      config.trailingOnly none, ?_⟩
    have htr : trackedEntry coinId entryOrder config.trailingOnly currentAtr =
        { config := config.trailingOnly
          positions := OrdMap.empty.set coinId (newTracked entryOrder.entryPrice
            entryOrder.quantity currentAtr config.trailingOnly none) } := by
      simp [trackedEntry, hside, onBuy]
    rw [htr]
    exact
      { positions := rfl
        config := rfl
        enabled := rfl
        only := ⟨rfl, rfl, rfl, rfl, rfl⟩
        distance := acceptedDistance_of_stop hpos hle
        side := hside
        order := rfl
        entry := priceColumn_eq hfits.price
        atr := hfits.atr_eq
        activated := decide_eq_decide.mpr (by simp [ExitConfig.trailingOnly])
        stop := by
          have hstop := hfits.initialStop
          rw [hside] at hstop
          have hrounded : (some (calculateTrailingStopPrice entryOrder.entryPrice .buy
              config.trailingOnly currentAtr)).map priceColumn =
              some (calculateTrailingStopPrice entryOrder.entryPrice .buy config.trailingOnly
                currentAtr) := congrArg some hstop
          simpa [PositionExit.inserted, newPositionExit, calculateExitPrices, newTracked, hside,
            ExitConfig.trailingOnly] using hrounded
        mark := by
          simp [PositionExit.inserted, newPositionExit, newTracked, hside, priceColumn_eq hfits.price]
        positive := hpos.trans_le hle }
  | sell =>
    refine .inr ⟨?_, rfl, ?_⟩
    · simp [trackedEntry, hside, OrdMap.empty]
    · simp [PositionExit.inserted, newPositionExit, calculateExitPrices, ExitConfig.trailingOnly]

/-- **The two agree on a path of at most eight decimals exactly when each of its ticks trails
alike.** -/
theorem trailing_agrees_iff (id : String) (entryOrder : EntryOrder) (config : ExitConfig)
    (currentAtr : Option ℚ) (orders : AttachedOrders) (limits : ExitPriceValidationLimits) (bar : ℕ)
    (ticks : List PriceTick) (hentry : FitsTrailing entryOrder config currentAtr)
    (hticks : ∀ tick ∈ ticks, 0 < tick.price → FitsColumns config currentAtr tick.price)
    (hvalid : validateExitPrices (calculateExitPrices entryOrder.entryPrice entryOrder.side
      config.trailingOnly currentAtr) entryOrder.side limits = []) :
    Lockstep.trace (monitorTick replaceStop) TrailingView.triggered
        (newPositionExit id entryOrder config.trailingOnly currentAtr orders).inserted ticks =
      Lockstep.trace (trackerBar coinId) TrailingView.triggered
        (trackedEntry coinId entryOrder config.trailingOnly currentAtr, bar) ticks ↔
    Lockstep.AllMeet (trackerBar coinId) TrailingView.triggered (BarAlike coinId)
      (trackedEntry coinId entryOrder config.trailingOnly currentAtr, bar) ticks := by
  rw [Lockstep.trace_congr (InRow config.trailingOnly currentAtr)
    (fun _ _ hrow hfits => (monitorTick_eq replaceStop hrow hfits).1)
    (fun _ _ hrow hfits => (monitorTick_eq replaceStop hrow hfits).2)
    (inRow_inserted id orders hentry.trailingOnly)
    fun tick htick hprice => (hticks tick htick hprice).trailingOnly]
  -- on exact numbers
  refine Lockstep.trace_eq_iff (Matched coinId) ?_ ?_ ?_ ticks
  · rintro row state tick (⟨tracked, hlong⟩ | hshort)
    · exact hlong.show_iff replaceStop
    · refine iff_of_false (hshort.show_ne replaceStop) ?_
      rintro ⟨_, hget, -⟩
      simp [hshort.get?] at hget
  · rintro row state tick (⟨tracked, hlong⟩ | hshort) halike hopen
    · exact .inl (hlong.next replaceStop halike hopen)
    · obtain ⟨_, hget, -⟩ := halike
      simp [hshort.get?] at hget
  · exact matched_entry id entryOrder config currentAtr orders limits bar hentry hvalid

end Agreement

def trailingEntry : EntryOrder where
  id := "entry"
  userId := "user"
  symbol := "BTC/USDT"
  side := .buy
  entryPrice := 100
  quantity := 1

def trailFivePercent : ExitConfig := { DEFAULT_EXIT_CONFIG with trailingValue := 5 }

def trailFromOnePercent : ExitConfig :=
  { trailFivePercent with trailingActivation := .percentage, trailingActivationValue := some 1 }

def upAndBack : List PriceTick := [{ time := 0, price := 110 }, { time := 1, price := 104 }]

theorem trailingEntry_fits : FitsTrailing trailingEntry trailFivePercent none where
  price := by decide +kernel
  atr atr hatr := absurd hatr (Option.not_mem_none atr)
  distance := by decide +kernel

theorem upAndBack_fits (tick : PriceTick) (htick : tick ∈ upAndBack) (_ : 0 < tick.price) :
    FitsColumns trailFivePercent none tick.price := by
  have hall : ∀ tick ∈ upAndBack, InColumn tick.price ∧
      InColumn (monitorTrailingDistance tick.price trailFivePercent none) := by decide +kernel
  exact ⟨(hall tick htick).1, (hall tick htick).2⟩

theorem trailing_agrees_immediate :
    Lockstep.AllMeet (trackerBar "BTC") TrailingView.triggered (BarAlike "BTC")
      (trackedEntry "BTC" trailingEntry trailFivePercent.trailingOnly none, 0) upAndBack :=
  (trailing_agrees_iff (fun row _ _ => (row, row)) "exit" trailingEntry trailFivePercent none {}
    DEFAULT_EXIT_PRICE_VALIDATION_LIMITS 0 upAndBack
    trailingEntry_fits upAndBack_fits (by decide +kernel)).mp (by decide +kernel)

theorem trailing_disagrees :
    validateExitPrices (calculateExitPrices trailingEntry.entryPrice trailingEntry.side
        trailFromOnePercent.trailingOnly none) trailingEntry.side
        DEFAULT_EXIT_PRICE_VALIDATION_LIMITS = [] ∧
      Lockstep.trace (monitorTick fun row _ _ => (row, row)) TrailingView.triggered
          (newPositionExit "exit" trailingEntry trailFromOnePercent.trailingOnly none {}).inserted
          upAndBack ≠
        Lockstep.trace (trackerBar "BTC") TrailingView.triggered
          (trackedEntry "BTC" trailingEntry trailFromOnePercent.trailingOnly none, 0) upAndBack := by
  decide +kernel

/-- A stop of more decimals is rounded. -/
example :
    let entry : EntryOrder := { trailingEntry with entryPrice := 1 / 10 ^ 6 }
    Lockstep.trace (monitorTick fun row _ _ => (row, row)) TrailingView.triggered
        (newPositionExit "exit" entry trailFivePercent.trailingOnly none {}).inserted
        [⟨0, 123 / 10 ^ 8⟩] ≠
      Lockstep.trace (trackerBar "BTC") TrailingView.triggered
        (trackedEntry "BTC" entry trailFivePercent.trailingOnly none, 0) [⟨0, 123 / 10 ^ 8⟩] := by
  decide +kernel

end Chansey
