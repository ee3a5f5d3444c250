import Mathlib.Algebra.GroupWithZero.NeZero
import Chansey.Exit.Signals
import Chansey.Lib.Run

/-!
# The trailing stop over a run

A run buys, sells and checks in any order. A further buy computes the trailing stop anew, from the
latest volatility and configuration.
-/

namespace Chansey

namespace BacktestExitTracker

open Run

/-! ## Runs of a tracker -/

inductive TrackerEvent where
  | buy (coinId : CoinId) (entryPrice : ℚ) (quantity : {q : ℚ // 0 < q}) (currentAtr : Option ℚ)
      (overrideExitConfig : Option PartialExitConfig)
  | sell (coinId : CoinId) (quantitySold : ℚ)
  | bar (closePrices lowPrices highPrices : OrdMap CoinId ℚ) (currentBar : ℕ)

def trackerStep (tracker : BacktestExitTracker) : TrackerEvent → BacktestExitTracker
  | .buy coinId entryPrice quantity currentAtr overrideExitConfig =>
    tracker.onBuy coinId entryPrice quantity currentAtr overrideExitConfig
  | .sell coinId quantitySold => tracker.onSell coinId quantitySold
  | .bar closePrices lowPrices highPrices currentBar =>
    (tracker.checkExits closePrices lowPrices highPrices currentBar).1

def configOf (tracker : BacktestExitTracker) (tracked : TrackedExit) : ExitConfig :=
  tracked.positionConfig.getD tracker.config

/-- The trailing stop that a bar would be checked against. -/
def effectiveStop (tracker : BacktestExitTracker) (tracked : TrackedExit) : Option ℚ :=
  if (tracker.configOf tracked).enableTrailingStop ∧ tracked.trailingActivated then
    tracked.trailingStopPrice
  else none

/-- A stop that was in force still is, at its level or a tighter one. -/
def Ratchets (old new : Option ℚ) : Prop := ∀ s, old = some s → ∃ s', new = some s' ∧ s ≤ s'

/-! ## What every step should keep -/

/-- **What a step keeps**: the trailing stop of a position that stays open never loosens; a bar
signals a coin once, its stop-loss first, at a price within the bar. -/
structure TrackerKeeps (tracker : BacktestExitTracker) (event : TrackerEvent) : Prop where
  ratchet : ∀ c tracked tracked', tracker.positions.get? c = some tracked →
    (trackerStep tracker event).positions.get? c = some tracked' →
      Ratchets (tracker.effectiveStop tracked)
        ((trackerStep tracker event).effectiveStop tracked')
  single : ∀ closes lows highs currentBar, event = .bar closes lows highs currentBar →
    ((tracker.checkExits closes lows highs currentBar).2.map (·.coinId)).Nodup
  stopFirst : ∀ closes lows highs currentBar, event = .bar closes lows highs currentBar →
    ∀ signal ∈ (tracker.checkExits closes lows highs currentBar).2, ∀ tracked close,
      tracker.positions.get? signal.coinId = some tracked →
        closes.get? signal.coinId = some close →
          StopBreached tracked ((lows.get? signal.coinId).getD close) → signal.exitType = .stopLoss
  within : ∀ closes lows highs currentBar, event = .bar closes lows highs currentBar →
    ∀ signal ∈ (tracker.checkExits closes lows highs currentBar).2, ∀ close,
      closes.get? signal.coinId = some close →
        (lows.get? signal.coinId).getD close ≤ signal.executionPrice ∧
          signal.executionPrice ≤ (highs.get? signal.coinId).getD close

def markDistance (tracker : BacktestExitTracker) (tracked : TrackedExit) : ℚ :=
  trailingDistance tracked.highWaterMark (tracker.configOf tracked) tracked.entryAtr

/-- The position a further buy averages into, before its levels are computed. -/
def averaged (existing : TrackedExit) (entryPrice quantity : ℚ) (currentAtr : Option ℚ)
    (override? : Option ExitConfig) : TrackedExit :=
  { existing with
    positionConfig := override?.or existing.positionConfig
    entryPrice :=
      (existing.entryPrice * existing.quantity + entryPrice * quantity) /
        (existing.quantity + quantity)
    quantity := existing.quantity + quantity
    highWaterMark := max existing.highWaterMark entryPrice
    entryAtr := currentAtr.or existing.entryAtr }

/-- **A step that loosens nothing and triggers no level outside its bar.** -/
def StepSafe (tracker : BacktestExitTracker) : TrackerEvent → Prop
  | .buy coinId entryPrice quantity currentAtr overrideExitConfig =>
    ∀ existing, tracker.positions.get? coinId = some existing →
      existing.trailingActivated = true →
        let bought := averaged existing entryPrice quantity currentAtr
          (overrideExitConfig.map fun layer => resolveExitConfig [tracker.config.toLayer, layer])
        (tracker.configOf bought).enableTrailingStop = true ∧
          tracker.markDistance bought - tracker.markDistance existing ≤
            bought.highWaterMark - existing.highWaterMark
  | .sell _ _ => True
  | .bar closes lows highs _ =>
    ∀ c tracked close, tracker.positions.get? c = some tracked → closes.get? c = some close →
      0 < close →
        ((tracker.configOf tracked).trailingType = .percentage →
          (tracker.configOf tracked).trailingValue ≤ 100) ∧
        ∀ exitType level, DueExit tracker tracked ((lows.get? c).getD close)
            ((highs.get? c).getD close) exitType level →
          (lows.get? c).getD close ≤ level ∧ level ≤ (highs.get? c).getD close

/-! ## The invariant -/

/-- **The levels of a tracked position**: a trailing stop was computed from a price that is not
above the mark, and an active one is not above the mark less the distance. -/
structure Levelled (tracker : BacktestExitTracker) (tracked : TrackedExit) : Prop where
  side : tracked.side = .buy
  quantity_pos : 0 < tracked.quantity
  entry_le : tracked.entryPrice ≤ tracked.highWaterMark
  waiting : tracked.trailingActivated = false →
    (tracker.configOf tracked).enableTrailingStop = true → ∃ reference,
      reference ≤ tracked.highWaterMark ∧ tracked.trailingStopPrice =
        some (reference - trailingDistance reference (tracker.configOf tracked) tracked.entryAtr)
  active : tracked.trailingActivated = true →
    (tracker.configOf tracked).enableTrailingStop = true ∧ ∃ stop,
      tracked.trailingStopPrice = some stop ∧
        stop ≤ tracked.highWaterMark - tracker.markDistance tracked

def AllLevelled (tracker : BacktestExitTracker) : Prop :=
  ∀ c tracked, tracker.positions.get? c = some tracked → tracker.Levelled tracked

theorem below_mono {config : ExitConfig} {atr : Option ℚ} {low high : ℚ}
    (hpct : config.trailingType = .percentage → config.trailingValue ≤ 100) (hle : low ≤ high) :
    low - trailingDistance low config atr ≤ high - trailingDistance high config atr := by
  unfold trailingDistance
  cases htype : config.trailingType with
  | amount => linarith
  | percentage =>
    have hvalue := hpct htype
    nlinarith
  | atr =>
    cases Js.truthy? atr with
    | none =>
      simp only [Option.elim_none]
      linarith
    | some =>
      simp only [Option.elim_some]
      linarith

/-! ## What each operation leaves -/

section Operations

variable {tracker : BacktestExitTracker} {tracked existing : TrackedExit}

variable {t t' : BacktestExitTracker} {quantity : ℚ}

theorem effectiveStop_congr (h : t.config = t'.config) :
    t.effectiveStop tracked = t'.effectiveStop tracked := by
  unfold effectiveStop configOf
  rw [h]

theorem levelled_congr (h : t.config = t'.config) (hl : t.Levelled tracked) :
    t'.Levelled tracked := by
  have hcfg : t'.configOf tracked = t.configOf tracked := by
    unfold configOf
    rw [h]
  have hdis : t'.markDistance tracked = t.markDistance tracked := by
    unfold markDistance
    rw [hcfg]
  exact ⟨hl.side, hl.quantity_pos, hl.entry_le, by rw [hcfg]; exact hl.waiting, by
    rw [hcfg, hdis]
    exact hl.active⟩

theorem Ratchets.refl (s : Option ℚ) : Ratchets s s := fun q hq => ⟨q, hq, le_refl q⟩

theorem effectiveStop_eq_some {stop : ℚ} :
    tracker.effectiveStop tracked = some stop ↔
      (tracker.configOf tracked).enableTrailingStop = true ∧ tracked.trailingActivated = true ∧
        tracked.trailingStopPrice = some stop := by
  unfold effectiveStop
  split_ifs with h
  · exact ⟨fun hs => ⟨h.1, h.2, hs⟩, fun hs => hs.2.2⟩
  · exact iff_of_false (by simp) fun hs => h ⟨hs.1, hs.2.1⟩

/-! ### A first buy -/

theorem levelled_newTracked (entryPrice : ℚ) (hq : 0 < quantity) (currentAtr : Option ℚ)
    (override? : Option ExitConfig) :
    tracker.Levelled
      (newTracked entryPrice quantity currentAtr (override?.getD tracker.config) override?) where
  side := rfl
  quantity_pos := hq
  entry_le := le_refl entryPrice
  waiting := by
    intro _ hen
    change (override?.getD tracker.config).enableTrailingStop = true at hen
    refine ⟨entryPrice, le_refl _, ?_⟩
    simp only [newTracked, hen, if_true]
    rfl
  active := by
    intro hact
    simp only [newTracked, decide_eq_true_eq] at hact
    refine ⟨hact.1, _, ?_, le_refl _⟩
    simp only [newTracked, hact.1, if_true]
    rfl

/-! ### A further buy -/

theorem scaleIn_eq (entryPrice quantity : ℚ) (currentAtr : Option ℚ)
    (override? : Option ExitConfig) :
    tracker.scaleIn existing entryPrice quantity currentAtr override? =
      tracker.relevel
        (tracker.configOf (averaged existing entryPrice quantity currentAtr override?))
        (averaged existing entryPrice quantity currentAtr override?) := rfl

theorem relevel_kept (tracker : BacktestExitTracker) (tracked : TrackedExit) (cfg : ExitConfig) :
    (tracker.relevel cfg tracked).side = tracked.side ∧
      (tracker.relevel cfg tracked).entryPrice = tracked.entryPrice ∧
      (tracker.relevel cfg tracked).highWaterMark = tracked.highWaterMark ∧
      (tracker.relevel cfg tracked).entryAtr = tracked.entryAtr ∧
      (tracker.relevel cfg tracked).positionConfig = tracked.positionConfig ∧
      (tracker.relevel cfg tracked).trailingActivated = tracked.trailingActivated := by
  unfold relevel
  dsimp only
  split_ifs <;> exact ⟨rfl, rfl, rfl, rfl, rfl, rfl⟩

theorem relevel_trailingStopPrice {cfg : ExitConfig} (hen : cfg.enableTrailingStop = true) :
    (tracker.relevel cfg tracked).trailingStopPrice =
      some (if tracked.trailingActivated then tracker.recalcTrailingStop tracked
        else calculateTrailingStopPrice tracked.entryPrice tracked.side cfg tracked.entryAtr) := by
  unfold relevel
  dsimp only
  rw [if_pos hen]
  split_ifs <;> rfl

theorem recalcTrailingStop_buy (tracked : TrackedExit) (hside : tracked.side = .buy) :
    tracker.recalcTrailingStop tracked = tracked.highWaterMark - tracker.markDistance tracked := by
  unfold recalcTrailingStop
  rw [hside]
  rfl

theorem configOf_relevel (cfg : ExitConfig) :
    tracker.configOf (tracker.relevel cfg tracked) = tracker.configOf tracked := by
  unfold configOf
  rw [(relevel_kept tracker tracked cfg).2.2.2.2.1]

theorem markDistance_relevel (cfg : ExitConfig) :
    tracker.markDistance (tracker.relevel cfg tracked) = tracker.markDistance tracked := by
  unfold markDistance
  rw [configOf_relevel, (relevel_kept tracker tracked cfg).2.2.1,
    (relevel_kept tracker tracked cfg).2.2.2.1]

theorem averaged_entry_le (h : tracker.Levelled existing) (entryPrice : ℚ) (hq : 0 < quantity)
    (currentAtr : Option ℚ) (override? : Option ExitConfig) :
    (averaged existing entryPrice quantity currentAtr override?).entryPrice ≤
      (averaged existing entryPrice quantity currentAtr override?).highWaterMark := by
  have hpos := h.quantity_pos
  have hold : existing.entryPrice ≤ max existing.highWaterMark entryPrice :=
    h.entry_le.trans (le_max_left _ _)
  have hnew : entryPrice ≤ max existing.highWaterMark entryPrice := le_max_right _ _
  change (existing.entryPrice * existing.quantity + entryPrice * quantity) /
    (existing.quantity + quantity) ≤ max existing.highWaterMark entryPrice
  rw [div_le_iff₀ (by linarith)]
  nlinarith

theorem levelled_scaleIn (h : tracker.Levelled existing) (entryPrice : ℚ) (hq : 0 < quantity)
    (currentAtr : Option ℚ) (override? : Option ExitConfig)
    (hkeeps : existing.trailingActivated = true →
      (tracker.configOf (averaged existing entryPrice quantity currentAtr
        override?)).enableTrailingStop = true) :
    tracker.Levelled
      (tracker.scaleIn existing entryPrice quantity currentAtr override?) := by
  rw [scaleIn_eq]
  set bought := averaged existing entryPrice quantity currentAtr override?
  have hside : bought.side = .buy := h.side
  have hentry := averaged_entry_le h entryPrice hq currentAtr override?
  obtain ⟨kside, kentry, kmark, katr, -, kactivated⟩ :=
    relevel_kept tracker bought (tracker.configOf bought)
  refine ⟨kside.trans hside, ?_, ?_, fun hwait hen => ?_, fun hact => ?_⟩
  · rw [relevel_quantity]
    exact add_pos h.quantity_pos hq
  · rw [kentry, kmark]
    exact hentry
  · rw [configOf_relevel] at hen ⊢
    rw [kactivated] at hwait
    refine ⟨bought.entryPrice, kmark.symm ▸ hentry, ?_⟩
    rw [relevel_trailingStopPrice hen, katr, hwait, hside]
    rfl
  · rw [configOf_relevel, markDistance_relevel, kmark]
    rw [kactivated] at hact
    have hen := hkeeps hact
    refine ⟨hen, _, relevel_trailingStopPrice hen, ?_⟩
    rw [if_pos hact, recalcTrailingStop_buy _ hside]

theorem ratchets_scaleIn (h : tracker.Levelled existing) (entryPrice quantity : ℚ)
    (currentAtr : Option ℚ) (override? : Option ExitConfig)
    (hsafe : existing.trailingActivated = true →
      let bought := averaged existing entryPrice quantity currentAtr override?
      (tracker.configOf bought).enableTrailingStop = true ∧
        tracker.markDistance bought - tracker.markDistance existing ≤
          bought.highWaterMark - existing.highWaterMark) :
    Ratchets (tracker.effectiveStop existing)
      (tracker.effectiveStop
        (tracker.scaleIn existing entryPrice quantity currentAtr override?)) := by
  intro stop hstop
  obtain ⟨-, hact, hlevel⟩ := effectiveStop_eq_some.mp hstop
  obtain ⟨hen, _⟩ := hsafe hact
  obtain ⟨-, _, hlevel', _⟩ := h.active hact
  rw [hlevel] at hlevel'
  cases hlevel'
  rw [scaleIn_eq]
  set bought := averaged existing entryPrice quantity currentAtr override?
  have hboughtActive : bought.trailingActivated = true := hact
  refine ⟨bought.highWaterMark - tracker.markDistance bought,
    effectiveStop_eq_some.mpr ⟨?_, ?_, ?_⟩, ?_⟩
  · rw [configOf_relevel]
    exact hen
  · rw [(relevel_kept tracker bought _).2.2.2.2.2]
    exact hboughtActive
  · rw [relevel_trailingStopPrice hen, if_pos hboughtActive, recalcTrailingStop_buy bought h.side]
  · linarith

/-! ### A bar -/

def activate (tracked : TrackedExit) (highPrice : ℚ) : TrackedExit :=
  if ¬ tracked.trailingActivated ∧ tracked.side = .buy ∧
      tracked.trailingActivationPrice.any (· ≤ highPrice) then
    { tracked with trailingActivated := true }
  else tracked

theorem trail_activated (highPrice : ℚ) :
    tracker.trail tracked highPrice =
      if (activate tracked highPrice).trailingActivated ∧
          (activate tracked highPrice).highWaterMark < highPrice then
        { activate tracked highPrice with
          highWaterMark := highPrice
          trailingStopPrice := some (tracker.recalcTrailingStop
            { activate tracked highPrice with highWaterMark := highPrice }) }
      else activate tracked highPrice := rfl

theorem levelled_activate (h : tracker.Levelled tracked) (highPrice : ℚ)
    (hen : (tracker.configOf tracked).enableTrailingStop = true)
    (hpct : (tracker.configOf tracked).trailingType = .percentage →
      (tracker.configOf tracked).trailingValue ≤ 100) :
    tracker.Levelled (activate tracked highPrice) := by
  unfold activate
  split_ifs with hactivates
  · obtain ⟨hwait, -, -⟩ := hactivates
    obtain ⟨_, hle, hstop⟩ := h.waiting (Bool.not_eq_true _ ▸ hwait) hen
    refine ⟨h.side, h.quantity_pos, h.entry_le, fun hfalse => absurd hfalse (by simp),
      fun _ => ⟨hen, _, hstop, ?_⟩⟩
    exact below_mono hpct hle
  · exact h

theorem effectiveStop_activate {stop : ℚ} (highPrice : ℚ)
    (hstop : tracker.effectiveStop tracked = some stop) : activate tracked highPrice = tracked := by
  obtain ⟨-, hact, -⟩ := effectiveStop_eq_some.mp hstop
  exact if_neg fun h => h.1 hact

theorem levelled_trail (h : tracker.Levelled tracked) (highPrice : ℚ)
    (hen : (tracker.configOf tracked).enableTrailingStop = true)
    (hpct : (tracker.configOf tracked).trailingType = .percentage →
      (tracker.configOf tracked).trailingValue ≤ 100) :
    tracker.Levelled (tracker.trail tracked highPrice) := by
  have hactv := levelled_activate h highPrice hen hpct
  rw [trail_activated]
  split_ifs with hraises
  · obtain ⟨hact, hlt⟩ := hraises
    obtain ⟨hon, -⟩ := hactv.active hact
    refine ⟨hactv.side, hactv.quantity_pos, hactv.entry_le.trans hlt.le,
      fun hfalse => absurd hact (by rw [hfalse]; simp), fun _ => ⟨hon, _, rfl, ?_⟩⟩
    exact (recalcTrailingStop_buy { activate tracked highPrice with highWaterMark := highPrice }
      hactv.side).le
  · exact hactv

theorem ratchets_trail (h : tracker.Levelled tracked) (highPrice : ℚ)
    (hpct : (tracker.configOf tracked).trailingType = .percentage →
      (tracker.configOf tracked).trailingValue ≤ 100) :
    Ratchets (tracker.effectiveStop tracked)
      (tracker.effectiveStop (tracker.trail tracked highPrice)) := by
  intro stop hstop
  rw [trail_activated, effectiveStop_activate highPrice hstop]
  obtain ⟨hen, hact, hlevel⟩ := effectiveStop_eq_some.mp hstop
  obtain ⟨-, _, hlevel', hbelow⟩ := h.active hact
  rw [hlevel] at hlevel'
  cases hlevel'
  split_ifs with hraises
  · refine ⟨_, effectiveStop_eq_some.mpr ⟨hen, hact, rfl⟩, hbelow.trans ?_⟩
    rw [recalcTrailingStop_buy { tracked with highWaterMark := highPrice } h.side]
    exact below_mono hpct hraises.2.le
  · exact ⟨stop, hstop, le_refl _⟩

theorem checkPosition_tracked (coinId : CoinId) (lowPrice highPrice : ℚ) :
    (tracker.checkPosition coinId tracked lowPrice highPrice).tracked = tracked ∨
      (tracker.configOf tracked).enableTrailingStop = true ∧
        (tracker.checkPosition coinId tracked lowPrice highPrice).tracked =
          tracker.trail tracked highPrice := by
  unfold checkPosition
  dsimp only
  split
  · exact .inl rfl
  split
  · exact .inl rfl
  split_ifs with htrails
  · refine .inr ⟨htrails.1, ?_⟩
    split <;> rfl
  · exact .inl rfl

end Operations

/-! ## Steps and runs -/

section Runs

variable {tracker : BacktestExitTracker} {event : TrackerEvent}

@[simp] theorem config_trackerStep (tracker : BacktestExitTracker) (event : TrackerEvent) :
    (trackerStep tracker event).config = tracker.config := by
  cases event <;> simp [trackerStep, config_onBuy]

theorem afterBar_cases (closes lows highs : OrdMap CoinId ℚ) (c : CoinId) (tracked : TrackedExit) :
    tracker.afterBar closes lows highs c tracked = tracked ∨
      ∃ close, closes.get? c = some close ∧ 0 < close ∧
        (tracker.configOf tracked).enableTrailingStop = true ∧
        tracker.afterBar closes lows highs c tracked =
          tracker.trail tracked ((highs.get? c).getD close) := by
  unfold afterBar barCheck
  cases hclose : (closes.get? c).filter (0 < ·) with
  | none => exact .inl rfl
  | some close =>
    obtain ⟨hget, hpos⟩ := Option.filter_eq_some_iff.mp hclose
    rcases checkPosition_tracked c ((lows.get? c).getD close) ((highs.get? c).getD close) with
      hsame | ⟨hen, htrail⟩
    · exact .inl hsame
    · exact .inr ⟨close, hget, by simpa using hpos, hen, htrail⟩

theorem trackerStep_position (h : tracker.AllLevelled) (hsafe : tracker.StepSafe event)
    {c : CoinId} {tracked' : TrackedExit}
    (hget : (trackerStep tracker event).positions.get? c = some tracked') :
    tracker.Levelled tracked' ∧ ∀ tracked, tracker.positions.get? c = some tracked →
      Ratchets (tracker.effectiveStop tracked) (tracker.effectiveStop tracked') := by
  have hsame : tracker.positions.get? c = some tracked' → tracker.Levelled tracked' ∧
      ∀ tracked, tracker.positions.get? c = some tracked →
        Ratchets (tracker.effectiveStop tracked) (tracker.effectiveStop tracked') := by
    intro hold
    refine ⟨h c tracked' hold, fun tracked ht => ?_⟩
    rw [hold] at ht
    cases ht
    exact Ratchets.refl _
  cases event with
  | buy coinId entryPrice quantity currentAtr =>
    simp only [trackerStep, onBuy, OrdMap.get?_set] at hget
    split_ifs at hget with hc
    · subst hc
      cases hex : tracker.positions.get? coinId with
      | none =>
        simp only [hex, Option.some_inj] at hget
        subst hget
        exact ⟨levelled_newTracked entryPrice quantity.2 currentAtr _,
          fun tracked ht => by cases ht⟩
      | some existing =>
        simp only [hex, Option.some_inj] at hget
        subst hget
        refine ⟨levelled_scaleIn (h _ _ hex) entryPrice quantity.2 currentAtr _
          fun hact => (hsafe existing hex hact).1, fun tracked ht => ?_⟩
        cases ht
        exact ratchets_scaleIn (h _ _ hex) entryPrice quantity currentAtr _
          fun hact => hsafe existing hex hact
    · exact hsame hget
  | sell coinId =>
    simp only [trackerStep, onSell] at hget
    cases hex : tracker.positions.get? coinId with
    | none =>
      simp only [hex] at hget
      exact hsame hget
    | some =>
      simp only [hex] at hget
      split_ifs at hget with hleft
      · rw [OrdMap.get?_erase] at hget
        split_ifs at hget
        exact hsame hget
      · rw [OrdMap.get?_set] at hget
        split_ifs at hget with hc
        · cases hget
          subst hc
          obtain ⟨hside, -, hentry, hwait, hact⟩ := h _ _ hex
          refine ⟨⟨hside, not_le.mp hleft, hentry, hwait, hact⟩, fun tracked ht => ?_⟩
          rw [hex] at ht
          cases ht
          exact Ratchets.refl _
        · exact hsame hget
  | bar closes lows highs =>
    simp only [trackerStep, get?_checkExits, Option.map_eq_some_iff] at hget
    obtain ⟨tracked, hold, rfl⟩ := hget
    rcases @afterBar_cases tracker closes lows highs c tracked with hkept |
      ⟨close, hclose, hpos, hen, htrail⟩
    · rw [hkept] at hsame ⊢
      exact hsame hold
    · have hpct := (hsafe c tracked close hold hclose hpos).1
      rw [htrail]
      refine ⟨levelled_trail (h c tracked hold) _ hen hpct, fun tracked' ht => ?_⟩
      rw [hold] at ht
      cases ht
      exact ratchets_trail (h c tracked hold) _ hpct

theorem allLevelled_step (h : tracker.AllLevelled) (hsafe : tracker.StepSafe event) :
    (trackerStep tracker event).AllLevelled := fun _ _ hget =>
  levelled_congr (config_trackerStep tracker event).symm (trackerStep_position h hsafe hget).1

theorem due_of_mem_checkExits {closes lows highs : OrdMap CoinId ℚ} {currentBar : ℕ}
    {signal : ExitSignal} (h : signal ∈ (tracker.checkExits closes lows highs currentBar).2) :
    ∃ tracked close, tracker.positions.get? signal.coinId = some tracked ∧
      closes.get? signal.coinId = some close ∧ 0 < close ∧
      DueExit tracker tracked ((lows.get? signal.coinId).getD close)
        ((highs.get? signal.coinId).getD close) signal.exitType signal.executionPrice := by
  obtain ⟨c, tracked, hget, hsig⟩ := (tracker.mem_checkExits closes lows highs currentBar).mp h
  unfold barSignal barCheck at hsig
  cases hclose : (closes.get? c).filter (0 < ·) with
  | none => simp [hclose] at hsig
  | some close =>
    rw [hclose, Option.map_some, Option.bind_some] at hsig
    obtain ⟨hprice, hpos⟩ := Option.filter_eq_some_iff.mp hclose
    obtain rfl := ((tracker.checkPosition_spec c tracked _ _).2 signal hsig).1
    exact ⟨tracked, close, hget, hprice, by simpa using hpos,
      (checkPosition_signal_iff _).mp ⟨signal, hsig, rfl, rfl⟩⟩

theorem trackerKeeps_step (h : tracker.AllLevelled) (hsafe : tracker.StepSafe event) :
    TrackerKeeps tracker event where
  ratchet := by
    intro c tracked tracked' hold hnew
    rw [effectiveStop_congr (config_trackerStep tracker event)]
    exact (trackerStep_position h hsafe hnew).2 tracked hold
  single := fun closes lows highs currentBar _ =>
    (tracker.checkExits_spec closes lows highs currentBar).2.1
  stopFirst := by
    intro closes lows highs currentBar _ signal hmem tracked close hget hclose hbreached
    obtain ⟨_, _, hget', hclose', -, hdue⟩ := due_of_mem_checkExits hmem
    rw [hget] at hget'
    rw [hclose] at hclose'
    cases hget'
    cases hclose'
    generalize signal.exitType = exitType at hdue ⊢
    cases hdue with
    | stopLoss => rfl
    | takeProfit side level reached noStop
    | trailingStop side trails activated level breached noStop => exact absurd hbreached noStop
  within := by
    intro closes lows highs currentBar hevent signal hmem close hclose
    subst hevent
    obtain ⟨tracked, _, hget, hclose', hpos, hdue⟩ := due_of_mem_checkExits hmem
    rw [hclose] at hclose'
    cases hclose'
    exact (hsafe _ tracked close hget hclose hpos).2 _ _ hdue

/-- **In a run of safe steps, no trailing stop loosens, and every bar exits a coin once, at its
stop-loss first, within its range.** -/
theorem tracker_keeps_run (config : ExitConfig) (events : List TrackerEvent)
    (hsafe : Throughout trackerStep StepSafe { config := config } events) :
    Throughout trackerStep TrackerKeeps { config := config } events :=
  hsafe.imp AllLevelled (fun _ _ => trackerKeeps_step) (fun _ _ => allLevelled_step)
    fun _ _ hget => by simp at hget

end Runs

/-! ## A buy, and what follows it -/

def atrTrailing : ExitConfig :=
  { DEFAULT_EXIT_CONFIG with enableTrailingStop := true, trailingType := .atr, trailingValue := 1 }

def buyAt100 : TrackerEvent := .buy "btc" 100 ⟨1, one_pos⟩ (some 2) none

def boughtAt100 : TrackedExit := newTracked 100 1 (some 2) atrTrailing none

def risingBar : TrackerEvent :=
  .bar (OrdMap.empty.set "btc" 105) (OrdMap.empty.set "btc" 103) (OrdMap.empty.set "btc" 106) 1

theorem get?_buyAt100 (c : CoinId) :
    (trackerStep { config := atrTrailing } buyAt100).positions.get? c =
      if "btc" = c then some boughtAt100 else none := OrdMap.get?_set _ _ _ _

theorem boughtAt100_due {low : ℚ} {exitType : ExitType} {level : ℚ}
    (h : DueExit (trackerStep { config := atrTrailing } buyAt100) boughtAt100 low 106 exitType
      level) : low ≤ level ∧ level = 104 := by
  cases h with
  | stopLoss side hlevel | takeProfit side hlevel => cases hlevel
  | trailingStop side trails activated hlevel breached =>
    refine ⟨breached, ?_⟩
    have htrail : (trail (trackerStep { config := atrTrailing } buyAt100) boughtAt100
        106).trailingStopPrice = some 104 := by
      norm_num [trail, boughtAt100, newTracked, atrTrailing, DEFAULT_EXIT_CONFIG,
        recalcTrailingStop, trailingDistance, ExitSide.below, Js.truthy?_some, trackerStep,
        buyAt100]
    rw [htrail] at hlevel
    cases hlevel
    rfl

theorem buyAt100_risingBar_safe :
    Throughout trackerStep StepSafe { config := atrTrailing } [buyAt100, risingBar] := by
  refine ⟨fun existing hget => by simp at hget, fun c tracked close hget hclose hpos => ?_, trivial⟩
  rw [get?_buyAt100] at hget
  split_ifs at hget with hc
  subst hc
  cases hget
  cases hclose
  refine ⟨fun h => absurd h (by decide), fun exitType level hdue => ?_⟩
  obtain ⟨hlow, rfl⟩ := boughtAt100_due hdue
  exact ⟨hlow, by norm_num⟩

theorem tracker_keeps_risingBar :
    Throughout trackerStep TrackerKeeps { config := atrTrailing } [buyAt100, risingBar] :=
  tracker_keeps_run atrTrailing [buyAt100, risingBar] buyAt100_risingBar_safe

/-- **A further buy in a wilder market loosens the stop**: at an average range of 5 it falls from
98 to 95. -/
theorem furtherBuy_loosens :
    ¬ Throughout trackerStep TrackerKeeps { config := atrTrailing }
      [buyAt100, .buy "btc" 100 ⟨1, one_pos⟩ (some 5) none] := by
  rintro ⟨-, hkeeps, -⟩
  obtain ⟨stop, hstop, hle⟩ := hkeeps.ratchet "btc" boughtAt100
    ((trackerStep { config := atrTrailing } buyAt100).scaleIn boughtAt100 100 1 (some 5) none)
    (get?_buyAt100 "btc") (OrdMap.get?_set_self _ _ _) 98
    (effectiveStop_eq_some.mpr ⟨rfl, rfl, by
      norm_num [boughtAt100, newTracked, atrTrailing, calculateTrailingStopPrice,
        trailingDistance, ExitSide.below, Js.truthy?_some]⟩)
  obtain ⟨-, -, hlevel⟩ := effectiveStop_eq_some.mp hstop
  have hactive : (averaged boughtAt100 100 1 (some 5) none).trailingActivated = true := rfl
  rw [scaleIn_eq, relevel_trailingStopPrice rfl, if_pos hactive, recalcTrailingStop_buy _ rfl]
    at hlevel
  have hnew : stop = 95 := by
    rw [← Option.some_inj.mp hlevel]
    norm_num [markDistance, configOf, averaged, boughtAt100, newTracked, atrTrailing,
      trailingDistance, Js.truthy?_some, trackerStep, onBuy, buyAt100]
  rw [hnew] at hle
  norm_num at hle

end BacktestExitTracker

end Chansey
