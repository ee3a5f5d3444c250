import Chansey.Lib.Run
import Chansey.Live.ExitSides
import Chansey.Live.TrailingAgreement

/-!
# The trailing stop of the monitor over a run

The monitor is called with one price after another. It should keep the tightest of the initial stop
and of the stops at the trailing distance from every price since the activation.

* `tightest`, `sinceActivation`: the stop in closed form.
-/

namespace Chansey

open Run

/-! ## Tighter stops -/

def ExitSide.TightAs (side : ExitSide) (stop other : ℚ) : Prop :=
  match side with
  | .buy => other ≤ stop
  | .sell => stop ≤ other

def ExitSide.tighter (side : ExitSide) (a b : ℚ) : ℚ :=
  match side with
  | .buy => max a b
  | .sell => min a b

section Tighter

variable {side : ExitSide} {a b c : ℚ}

theorem ExitSide.TightAs.refl (side : ExitSide) (a : ℚ) : side.TightAs a a := by
  cases side <;> exact le_refl a

theorem ExitSide.TightAs.trans (h : side.TightAs a b) (h' : side.TightAs b c) :
    side.TightAs a c := by
  cases side with
  | buy => exact le_trans (b := b) h' h
  | sell => exact le_trans (b := b) h h'

theorem ExitSide.tighter_tightAs_left : side.TightAs (side.tighter a b) a := by
  cases side with
  | buy => exact le_max_left a b
  | sell => exact min_le_left a b

theorem ExitSide.tighter_tightAs_right : side.TightAs (side.tighter a b) b := by
  cases side with
  | buy => exact le_max_right a b
  | sell => exact min_le_right a b

theorem ExitSide.tighter_eq_left_iff : side.tighter a b = a ↔ side.TightAs a b := by
  cases side with
  | buy => exact max_eq_left_iff
  | sell => exact min_eq_left_iff

theorem ExitSide.tighter_eq_right (h : ¬ side.TightAs a b) : side.tighter a b = b := by
  cases side with
  | buy => exact max_eq_right (le_of_lt (not_le.mp h))
  | sell => exact min_eq_right (le_of_lt (not_le.mp h))

theorem ExitSide.tighter_pos (ha : 0 < a) (hb : side = .sell → 0 < b) : 0 < side.tighter a b := by
  cases side with
  | buy => exact lt_max_of_lt_left ha
  | sell => exact lt_min ha (hb rfl)

end Tighter

theorem isNewWaterMark_stop {side : ExitSide} {stop newStop : ℚ} (hstop : 0 < stop) :
    isNewWaterMark newStop (some stop) side = true ↔ ¬ side.TightAs stop newStop := by
  have htruthy : Js.truthy? (some stop) = some stop := by
    rw [Js.truthy?_some, if_neg hstop.ne']
  cases side <;> simp [isNewWaterMark, htruthy, ExitSide.TightAs]

/-! ## Runs of the monitor -/

section Runs

variable (replaceStop : PositionExit → PositionExit → ℚ → PositionExit × PositionExit)

def passOf (tickOf : PositionExit → PriceTick → PositionExit × TrailingView) (row : PositionExit)
    (tick : PriceTick) : PositionExit × Bool :=
  if row.status = .active ∧ row.exitConfig.enableTrailingStop then
    ((tickOf row tick).1, (tickOf row tick).2.triggered)
  else (row, false)

/-- One pass of the monitor over a saved row. -/
def monitorPass : PositionExit → PriceTick → PositionExit × Bool :=
  passOf (monitorTick replaceStop)

def exactPass : PositionExit → PriceTick → PositionExit × Bool :=
  passOf (exactTick replaceStop)

/-- The saved row, and the prices that it was monitored at. -/
structure MonitorRun where
  row : PositionExit
  prices : List ℚ := []

def MonitorRun.next (pass : PositionExit → PriceTick → PositionExit × Bool) (run : MonitorRun)
    (tick : PriceTick) : MonitorRun where
  row := (pass run.row tick).1
  prices := if 0 < tick.price then run.prices ++ [tick.price] else run.prices

def MonitorRun.exactNext (run : MonitorRun) (tick : PriceTick) : MonitorRun :=
  run.next (exactPass replaceStop) tick

end Runs

/-! ## The stop in closed form -/

section ClosedForm

variable (row : PositionExit)

def PositionExit.sinceActivation (prices : List ℚ) : List ℚ :=
  prices.dropWhile fun price =>
    !shouldActivateTrailing row.exitConfig row.entryPrice row.side price

def PositionExit.tightest (initial : ℚ) (prices : List ℚ) : ℚ :=
  (row.sinceActivation prices).foldl (fun stop price => row.side.tighter stop (row.stopAt price))
    initial

end ClosedForm

/-! ## One pass -/

namespace SameTerms

variable {row row' : PositionExit} (h : SameTerms row row')

include h

theorem sinceActivation (prices : List ℚ) :
    row'.sinceActivation prices = row.sinceActivation prices := by
  unfold PositionExit.sinceActivation
  rw [h.side, h.config, h.entry]

theorem tightest (initial : ℚ) (prices : List ℚ) :
    row'.tightest initial prices = row.tightest initial prices := by
  have hstops : row'.stopAt = row.stopAt := funext h.stopAt
  unfold PositionExit.tightest
  rw [h.sinceActivation, h.side, hstops]

end SameTerms

section Pass

variable (replaceStop : PositionExit → PositionExit → ℚ → PositionExit × PositionExit)
  {row : PositionExit} {tick : PriceTick} {stop : ℚ}

structure Monitored (row : PositionExit) (stop : ℚ) : Prop where
  status : row.status = .active
  enabled : row.exitConfig.enableTrailingStop = true
  order : row.trailingStopOrderId = none
  stop_eq : row.currentTrailingStopPrice = some stop
  positive : 0 < stop

/-- **What a pass makes of a monitored row.** `stop` is in force before it. -/
structure PassedTo (row : PositionExit) (tick : PriceTick) (stop : ℚ)
    (passed : PositionExit × Bool) : Prop where
  terms : SameTerms row passed.1
  activated : passed.1.trailingActivated = (row.trailingActivated ||
    shouldActivateTrailing row.exitConfig row.entryPrice row.side tick.price)
  stop_eq : passed.1.currentTrailingStopPrice =
    some (if row.trailingActivated then row.side.tighter stop (row.stopAt tick.price) else stop)
  triggered : passed.2 =
    (passed.1.trailingActivated && shouldTriggerStop tick.price (some stop) row.side)
  status : passed.1.status = if passed.2 then .trailingTriggered else .active
  mark : passed.2 = false → passed.1.waterMark = some tick.price ∨
    passed.1.waterMark = row.waterMark ∧ passed.1.trailingActivated = row.trailingActivated

theorem exactPass_spec (h : Monitored row stop) (hprice : 0 < tick.price)
    (hcov : row.trailingActivated = true →
      isNewWaterMark tick.price row.waterMark row.side = false →
        row.side.TightAs stop (row.stopAt tick.price)) :
    PassedTo row tick stop (exactPass replaceStop row tick) := by
  have hticked := exactTick_spec replaceStop hprice h.order h.stop_eq
  have hstop : (if row.Moves tick.price then row.stopAt tick.price else stop) =
      if row.trailingActivated then row.side.tighter stop (row.stopAt tick.price) else stop := by
    cases hact : row.trailingActivated with
    | false => exact if_neg fun hmoves => Bool.false_ne_true (hact.symm.trans hmoves.1)
    | true =>
      by_cases htight : row.side.TightAs stop (row.stopAt tick.price)
      · have hstays : ¬ row.Moves tick.price := fun hmoves => by
          have hloose := hmoves.2.2
          rw [h.stop_eq, isNewWaterMark_stop h.positive] at hloose
          exact hloose htight
        rw [if_neg hstays, if_pos rfl, ExitSide.tighter_eq_left_iff.mpr htight]
      · have hmark : isNewWaterMark tick.price row.waterMark row.side = true := by
          by_contra hold
          exact htight (hcov hact (Bool.not_eq_true _ ▸ hold))
        have hmoves : row.Moves tick.price :=
          ⟨hact, hmark, h.stop_eq ▸ (isNewWaterMark_stop h.positive).mpr htight⟩
        rw [if_pos hmoves, if_pos rfl, ExitSide.tighter_eq_right htight]
  rw [exactPass, passOf, if_pos ⟨h.status, h.enabled⟩]
  exact
    { terms := hticked.terms
      activated := hticked.activated
      stop_eq := hticked.stop_eq.trans (congrArg some hstop)
      triggered := congrArg TrailingView.triggered hticked.view
      status := by rw [hticked.status, h.status]
      mark := fun hquiet => (hticked.mark hquiet).imp_left And.left }

end Pass

/-! ## The stop after one more price -/

section Append

variable (row : PositionExit)

theorem sinceActivation_append (prices : List ℚ) (price : ℚ) :
    row.sinceActivation (prices ++ [price]) =
      if row.sinceActivation prices ≠ [] ∨
          shouldActivateTrailing row.exitConfig row.entryPrice row.side price = true then
        row.sinceActivation prices ++ [price]
      else [] := by
  unfold PositionExit.sinceActivation
  rw [List.dropWhile_append]
  by_cases hsince : prices.dropWhile (fun price =>
      !shouldActivateTrailing row.exitConfig row.entryPrice row.side price) = []
  · cases hsh : shouldActivateTrailing row.exitConfig row.entryPrice row.side price <;>
      simp [hsince, hsh]
  · simp [hsince]

theorem tightest_append (initial : ℚ) (prices : List ℚ) (price : ℚ) :
    row.tightest initial (prices ++ [price]) =
      if row.sinceActivation prices ≠ [] ∨
          shouldActivateTrailing row.exitConfig row.entryPrice row.side price = true then
        row.side.tighter (row.tightest initial prices) (row.stopAt price)
      else row.tightest initial prices := by
  unfold PositionExit.tightest
  rw [sinceActivation_append]
  split_ifs with h
  · rw [List.foldl_append, List.foldl_cons, List.foldl_nil]
  · have hnone : row.sinceActivation prices = [] := by
      by_contra hsome
      exact h (.inl hsome)
    rw [hnone]

end Append

/-! ## What a pass keeps -/

section Keeps

variable (replaceStop : PositionExit → PositionExit → ℚ → PositionExit × PositionExit)

/-- **A pass keeps the ratchet**: the recorded stop never loosens; once active it is the tightest
of the initial one and of those at all prices since the activation; and an active row is triggered
exactly by a price at or beyond the stop from before the pass. -/
structure KeepsRatchet (pass : PositionExit → PriceTick → PositionExit × Bool) (initial : ℚ)
    (run : MonitorRun) (tick : PriceTick) : Prop where
  idle : ¬ (run.row.status = .active ∧ 0 < tick.price) → pass run.row tick = (run.row, false)
  ratchets : ∀ before, run.row.currentTrailingStopPrice = some before →
    ∃ after, (run.next pass tick).row.currentTrailingStopPrice = some after ∧
      run.row.side.TightAs after before
  closed : run.row.status = .active → 0 < tick.price →
    (run.next pass tick).row.trailingActivated = true →
      (run.next pass tick).row.currentTrailingStopPrice =
        some (run.row.tightest initial (run.next pass tick).prices)
  triggers : run.row.status = .active → 0 < tick.price →
    ((pass run.row tick).2 = true ↔ (run.next pass tick).row.trailingActivated = true ∧
      shouldTriggerStop tick.price run.row.currentTrailingStopPrice run.row.side = true)
  status : run.row.status = .active → 0 < tick.price →
    (run.next pass tick).row.status = if (pass run.row tick).2 then .trailingTriggered else .active

/-- **The stop activates calmly**: the price that activates it asks for no tighter stop than the
one there is. -/
def ActivatesCalmly (run : MonitorRun) (tick : PriceTick) : Prop :=
  run.row.status = .active → 0 < tick.price → run.row.trailingActivated = false →
    shouldActivateTrailing run.row.exitConfig run.row.entryPrice run.row.side tick.price = true →
      ∀ stop, run.row.currentTrailingStopPrice = some stop →
        run.row.side.TightAs stop (run.row.stopAt tick.price)

/-- An active row follows the closed form, and no price up to its water mark asks for more. -/
structure Ratcheting (initial : ℚ) (run : MonitorRun) : Prop where
  monitored : Monitored run.row (run.row.tightest initial run.prices)
  activated_iff : run.row.trailingActivated = true ↔
    run.row.exitConfig.trailingActivation = .immediate ∨ run.row.sinceActivation run.prices ≠ []
  marked : ∃ mark, run.row.waterMark = some mark ∧ 0 < mark ∧
    (run.row.trailingActivated = true →
      run.row.side.TightAs (run.row.tightest initial run.prices) (run.row.stopAt mark))
  monotone : ∀ p q, run.row.side.TightAs p q →
    run.row.side.TightAs (run.row.stopAt p) (run.row.stopAt q)
  positive : run.row.side = .sell → ∀ p, 0 < p → 0 < run.row.stopAt p

variable {initial : ℚ} {run : MonitorRun} {tick : PriceTick}

section

variable (h : Ratcheting initial run)

include h

theorem Ratcheting.covered (hact : run.row.trailingActivated = true) {price : ℚ}
    (hold : isNewWaterMark price run.row.waterMark run.row.side = false) :
    run.row.side.TightAs (run.row.tightest initial run.prices) (run.row.stopAt price) := by
  obtain ⟨mark, hmark, hpos, htight⟩ := h.marked
  have hle : run.row.side.TightAs mark price := by
    by_contra hloose
    rw [hmark, (isNewWaterMark_stop hpos).mpr hloose] at hold
    exact Bool.noConfusion hold
  exact (htight hact).trans (h.monotone _ _ hle)

theorem Ratcheting.passed (hprice : 0 < tick.price) :
    PassedTo run.row tick (run.row.tightest initial run.prices)
      (exactPass replaceStop run.row tick) :=
  exactPass_spec replaceStop h.monitored hprice fun hact hold =>
    h.covered hact hold

theorem Ratcheting.joins_iff :
    (run.row.sinceActivation run.prices ≠ [] ∨ shouldActivateTrailing run.row.exitConfig
        run.row.entryPrice run.row.side tick.price = true) ↔
      (run.row.trailingActivated || shouldActivateTrailing run.row.exitConfig
        run.row.entryPrice run.row.side tick.price) = true := by
  rw [Bool.or_eq_true, h.activated_iff]
  constructor
  · rintro (hsince | hsh)
    · exact .inl (.inr hsince)
    · exact .inr hsh
  · rintro ((himmediate | hsince) | hsh)
    · refine .inr ?_
      rw [shouldActivateTrailing, himmediate]
    · exact .inl hsince
    · exact .inr hsh

theorem Ratcheting.tightest_next (hprice : 0 < tick.price) :
    run.row.tightest initial (run.exactNext replaceStop tick).prices =
      if (run.row.trailingActivated || shouldActivateTrailing run.row.exitConfig
          run.row.entryPrice run.row.side tick.price) = true then
        run.row.side.tighter (run.row.tightest initial run.prices) (run.row.stopAt tick.price)
      else run.row.tightest initial run.prices := by
  rw [MonitorRun.exactNext, MonitorRun.next, if_pos hprice, tightest_append]
  simp only [h.joins_iff]

theorem Ratcheting.closed_iff (hprice : 0 < tick.price) :
    ((run.exactNext replaceStop tick).row.trailingActivated = true →
        (run.exactNext replaceStop tick).row.currentTrailingStopPrice =
          some (run.row.tightest initial (run.exactNext replaceStop tick).prices)) ↔
      ActivatesCalmly run tick := by
  have hpass := h.passed replaceStop hprice
  have hstop := hpass.stop_eq
  rw [h.tightest_next replaceStop hprice]
  change ((exactPass replaceStop run.row tick).1.trailingActivated = true →
    (exactPass replaceStop run.row tick).1.currentTrailingStopPrice = _) ↔ _
  rw [hpass.activated, hstop]
  cases hact : run.row.trailingActivated with
  | true =>
    refine iff_of_true (fun _ => by simp) fun _ _ hinact => ?_
    rw [hact] at hinact
    exact Bool.noConfusion hinact
  | false =>
    cases hsh : shouldActivateTrailing run.row.exitConfig run.row.entryPrice run.row.side
        tick.price with
    | false =>
      refine iff_of_true (fun hon => Bool.noConfusion hon) fun _ _ _ hon => ?_
      rw [hsh] at hon
      exact Bool.noConfusion hon
    | true =>
      have htight : (some (run.row.tightest initial run.prices) =
          some (run.row.side.tighter (run.row.tightest initial run.prices)
            (run.row.stopAt tick.price))) ↔
          run.row.side.TightAs (run.row.tightest initial run.prices)
            (run.row.stopAt tick.price) := by
        rw [Option.some_inj, eq_comm, ExitSide.tighter_eq_left_iff]
      simp only [Bool.false_or, if_true, Bool.false_eq_true, if_false, true_imp_iff]
      rw [htight]
      constructor
      · intro hcalm _ _ _ _ stop hcur
        rw [h.monitored.stop_eq] at hcur
        cases hcur
        exact hcalm
      · intro hcalm
        exact hcalm h.monitored.status hprice hact hsh _ h.monitored.stop_eq

theorem Ratcheting.pass_keeps_iff :
    KeepsRatchet (exactPass replaceStop) initial run tick ↔ ActivatesCalmly run tick := by
  have hact : run.row.status = .active := h.monitored.status
  by_cases hprice : 0 < tick.price
  · have hpass := h.passed replaceStop hprice
    constructor
    · intro hkeeps
      exact (h.closed_iff replaceStop hprice).mp (hkeeps.closed hact hprice)
    · intro hcalm
      refine ⟨fun hidle => absurd ⟨hact, hprice⟩ hidle, ?_, fun _ _ =>
        (h.closed_iff replaceStop hprice).mpr hcalm, fun _ _ => ?_,
        fun _ _ => hpass.status⟩
      · intro before hbef
        rw [h.monitored.stop_eq] at hbef
        cases hbef
        refine ⟨_, hpass.stop_eq, ?_⟩
        split_ifs
        · exact ExitSide.tighter_tightAs_left
        · exact .refl _ _
      · rw [hpass.triggered, Bool.and_eq_true, h.monitored.stop_eq]
        rfl
  · have hskip : exactPass replaceStop run.row tick = (run.row, false) := by
      rw [exactPass, passOf, if_pos ⟨hact, h.monitored.enabled⟩, exactTick_skip replaceStop hprice]
    refine iff_of_true ⟨fun _ => hskip, fun before hbef => ⟨before, ?_, .refl _ _⟩,
      fun _ hpos => absurd hpos hprice, fun _ hpos => absurd hpos hprice,
      fun _ hpos => absurd hpos hprice⟩ fun _ hpos => absurd hpos hprice
    rw [MonitorRun.next, hskip]
    exact hbef

end

theorem keepsRatchet_of_idle (hidle : run.row.status ≠ .active) :
    KeepsRatchet (exactPass replaceStop) initial run tick := by
  have hskip : exactPass replaceStop run.row tick = (run.row, false) :=
    if_neg fun hboth => hidle hboth.1
  refine ⟨fun _ => hskip, fun before hbef => ⟨before, ?_, .refl _ _⟩,
    fun hact => absurd hact hidle, fun hact => absurd hact hidle,
    fun hact => absurd hact hidle⟩
  rw [MonitorRun.next, hskip]
  exact hbef

theorem Ratcheting.next (h : Ratcheting initial run) (hcalm : ActivatesCalmly run tick)
    (hstill : (run.exactNext replaceStop tick).row.status = .active) :
    Ratcheting initial (run.exactNext replaceStop tick) := by
  by_cases hprice : 0 < tick.price
  · have hpass := h.passed replaceStop hprice
    have hclos := (h.closed_iff replaceStop hprice).mpr hcalm
    have hterms : SameTerms run.row (run.exactNext replaceStop tick).row := hpass.terms
    have hjoined := h.tightest_next replaceStop hprice
    generalize hrun : run.exactNext replaceStop tick = run' at *
    have hrow : (exactPass replaceStop run.row tick).1 = run'.row := by
      rw [← hrun]
      rfl
    have hprs : run'.prices = run.prices ++ [tick.price] := by
      rw [← hrun, MonitorRun.exactNext, MonitorRun.next, if_pos hprice]
    have hquiet : (exactPass replaceStop run.row tick).2 = false := by
      have hstat := hpass.status
      rw [hrow, hstill] at hstat
      by_contra hfired
      rw [if_pos (Bool.not_eq_false _ ▸ hfired)] at hstat
      cases hstat
    have hactv := hpass.activated
    have hcur := hpass.stop_eq
    have hmark := hpass.mark hquiet
    rw [hrow] at hactv hcur hmark
    -- the recorded stop is the closed form, active or not
    have hstop : run'.row.currentTrailingStopPrice = some (run'.row.tightest initial run'.prices) := by
      rw [hterms.tightest]
      cases hon : run'.row.trailingActivated with
      | true => exact hclos hon
      | false =>
        rw [hactv] at hon
        have hoff := (Bool.or_eq_false_iff.mp hon).1
        rw [hjoined, hon, hcur, hoff]
    have hsell : ∀ {price : ℚ}, run.row.side = .sell → 0 < price → 0 < run.row.stopAt price :=
      fun hside hpos => h.positive hside _ hpos
    refine ⟨⟨hstill, ?_, hterms.order.trans h.monitored.order, hstop, ?_⟩, ?_, ?_, ?_, ?_⟩
    · rw [hterms.config]
      exact h.monitored.enabled
    · rw [hterms.tightest, hjoined]
      split_ifs
      · exact ExitSide.tighter_pos h.monitored.positive fun hside => hsell hside hprice
      · exact h.monitored.positive
    · rw [hactv, ← h.joins_iff, hterms.config, hterms.sinceActivation, hprs, sinceActivation_append]
      split_ifs with hjoins
      · exact iff_of_true hjoins (.inr (by simp))
      · refine iff_of_false hjoins ?_
        rintro (himmediate | hnone)
        · exact hjoins (.inr (by rw [shouldActivateTrailing, himmediate]))
        · exact hnone rfl
    · rw [hterms.side, hterms.tightest]
      rcases hmark with hnew | ⟨hold, hsame⟩
      · refine ⟨tick.price, hnew, hprice, fun hon => ?_⟩
        rw [hterms.stopAt, hjoined, ← hactv, if_pos hon]
        exact ExitSide.tighter_tightAs_right
      · obtain ⟨mark, hmark, hpos, htight⟩ := h.marked
        refine ⟨mark, hold.trans hmark, hpos, fun hon => ?_⟩
        rw [hterms.stopAt, hjoined, ← hactv, if_pos hon]
        exact ExitSide.tighter_tightAs_left.trans (htight (hsame ▸ hon))
    · intro p q hpq
      rw [hterms.side] at hpq ⊢
      rw [hterms.stopAt, hterms.stopAt]
      exact h.monotone p q hpq
    · intro hside p hp
      rw [hterms.stopAt]
      exact hsell (hterms.side ▸ hside) hp
  · have hsame : run.exactNext replaceStop tick = run := by
      rw [MonitorRun.exactNext, MonitorRun.next, if_neg hprice, exactPass, passOf,
        if_pos ⟨h.monitored.status, h.monitored.enabled⟩,
        exactTick_skip replaceStop hprice]
    rw [hsame]
    exact h

end Keeps

/-! ## From an accepted entry -/

section Entry

/-- The distance of the monitor is a share of the price or an amount. -/
structure FollowingDistance (side : ExitSide) (config : ExitConfig) (atr : Option ℚ) (r c : ℚ) :
    Prop where
  distance : ∀ x, monitorTrailingDistance x config atr = x * r + c
  share : 0 ≤ r
  amount : 0 ≤ c
  below : side = .buy → r ≤ 1

variable {side : ExitSide} {config : ExitConfig} {atr : Option ℚ} {entryPrice : ℚ}

theorem acceptedTrailing_spec (hentry : validateExitPrices
      (calculateExitPrices entryPrice side config atr) side DEFAULT_EXIT_PRICE_VALIDATION_LIMITS =
        []) (hen : config.enableTrailingStop = true) :
    0 < entryPrice ∧ 0 < calculateTrailingStopPrice entryPrice side config atr ∧
      0 ≤ trailingDistance entryPrice config atr := by
  have hpass := (accepted_passes hentry).2.2
    (calculateTrailingStopPrice entryPrice side config atr)
    (by simp only [calculateExitPrices, hen, if_true])
  obtain ⟨hpos, hside, -⟩ := validateSingleExitPrice_nil_iff.mp hpass
  rw [show (calculateExitPrices entryPrice side config atr).entryPrice = entryPrice from rfl]
    at hside
  by_cases heq : calculateTrailingStopPrice entryPrice side config atr = entryPrice
  · refine ⟨heq ▸ hpos, hpos, le_of_eq ?_⟩
    exact (ExitSide.below_eq_self.mp heq).symm
  · obtain ⟨hholds, hfar⟩ := hside heq
    have hpositive : 0 < entryPrice := by
      by_contra hneg
      have hshare : |calculateTrailingStopPrice entryPrice side config atr - entryPrice| /
          entryPrice * 100 ≤ 0 :=
        mul_nonpos_of_nonpos_of_nonneg
          (div_nonpos_of_nonneg_of_nonpos (abs_nonneg _) (not_lt.mp hneg)) (by norm_num)
      have hmin : (0 : ℚ) < DEFAULT_EXIT_PRICE_VALIDATION_LIMITS.minTrailingStopPercentage := by
        norm_num [DEFAULT_EXIT_PRICE_VALIDATION_LIMITS]
      exact absurd (hmin.trans_le hfar) (not_lt.mpr hshare)
    refine ⟨hpositive, hpos, ?_⟩
    cases side with
    | buy => exact le_of_lt (sub_lt_self_iff _ |>.mp hholds)
    | sell => exact le_of_lt (lt_add_iff_pos_right _ |>.mp hholds)

theorem followingDistance_of_accepted (hpos : 0 < entryPrice)
    (hstop : 0 < calculateTrailingStopPrice entryPrice side config atr)
    (hdis : 0 ≤ trailingDistance entryPrice config atr) :
    (∃ r c, FollowingDistance side config atr r c) ∧
      trailingDistance entryPrice config atr ≤ monitorTrailingDistance entryPrice config atr := by
  unfold trailingDistance at hdis
  unfold calculateTrailingStopPrice trailingDistance at hstop
  cases htype : config.trailingType with
  | amount =>
    rw [htype] at hdis
    refine ⟨⟨0, config.trailingValue, ?_, le_rfl, hdis, fun _ => zero_le_one⟩, ?_⟩
    · intro x
      simp [monitorTrailingDistance, htype]
    · simp [monitorTrailingDistance, trailingDistance, htype]
  | percentage =>
    rw [htype] at hdis hstop
    dsimp only at hdis hstop
    have hshare : 0 ≤ config.trailingValue / 100 := nonneg_of_mul_nonneg_right hdis hpos
    refine ⟨⟨config.trailingValue / 100, 0, ?_, hshare, le_rfl, ?_⟩, ?_⟩
    · intro x
      simp [monitorTrailingDistance, htype]
    · rintro rfl
      have hless : entryPrice * (config.trailingValue / 100) < entryPrice * 1 := by
        rw [mul_one]
        exact sub_pos.mp hstop
      exact (lt_of_mul_lt_mul_left hless hpos.le).le
    · simp [monitorTrailingDistance, trailingDistance, htype]
  | atr =>
    rw [htype] at hdis
    cases hatr : Js.truthy? atr with
    | none =>
      refine ⟨⟨2 / 100, 0, ?_, by norm_num, le_rfl, fun _ => by norm_num⟩, ?_⟩
      · intro x
        simp [monitorTrailingDistance, htype, hatr, TRAILING_FALLBACK_PERCENTAGE]
      · simp only [monitorTrailingDistance, trailingDistance, htype, hatr, Option.elim,
          TRAILING_FALLBACK_PERCENTAGE]
        linarith
    | some value =>
      rw [hatr] at hdis
      refine ⟨⟨0, value * config.trailingValue, ?_, le_rfl, hdis, fun _ => zero_le_one⟩, ?_⟩
      · intro x
        simp [monitorTrailingDistance, htype, hatr]
      · simp [monitorTrailingDistance, trailingDistance, htype, hatr]

theorem FollowingDistance.monotone {r c : ℚ} (h : FollowingDistance side config atr r c) {p q : ℚ}
    (hpq : side.TightAs p q) :
    side.TightAs (monitorTrailingStopPrice p config side atr)
      (monitorTrailingStopPrice q config side atr) := by
  unfold monitorTrailingStopPrice
  rw [h.distance, h.distance]
  cases side with
  | buy =>
    have hle : q ≤ p := hpq
    have hr := h.below rfl
    show q - (q * r + c) ≤ p - (p * r + c)
    nlinarith
  | sell =>
    have hle : p ≤ q := hpq
    have hr := h.share
    show p + (p * r + c) ≤ q + (q * r + c)
    nlinarith

theorem FollowingDistance.positive {r c : ℚ} (h : FollowingDistance .sell config atr r c) {p : ℚ}
    (hp : 0 < p) : 0 < monitorTrailingStopPrice p config .sell atr := by
  unfold monitorTrailingStopPrice
  rw [h.distance]
  have hr := h.share
  have hc := h.amount
  show 0 < p + (p * r + c)
  positivity

variable (id : String) (entryOrder : EntryOrder) (config : ExitConfig) (currentAtr : Option ℚ)
  (orders : AttachedOrders)

/-- The run of an entry before its first price. -/
def MonitorRun.opened : MonitorRun where
  row := (newPositionExit id entryOrder config currentAtr orders).inserted

def initialStop : ℚ :=
  calculateTrailingStopPrice entryOrder.entryPrice entryOrder.side config currentAtr

variable {entryOrder config currentAtr}

theorem ratcheting_opened (hfits : FitsTrailing entryOrder config currentAtr)
    (hen : config.enableTrailingStop = true) (hacc : validateExitPrices
      (calculateExitPrices entryOrder.entryPrice entryOrder.side config currentAtr)
        entryOrder.side DEFAULT_EXIT_PRICE_VALIDATION_LIMITS = []) :
    Ratcheting (initialStop entryOrder config currentAtr)
      (.opened id entryOrder config currentAtr orders) := by
  obtain ⟨hpos, hstop, hdis⟩ := acceptedTrailing_spec hacc hen
  obtain ⟨⟨r, c, hfol⟩, hle⟩ := followingDistance_of_accepted hpos hstop hdis
  have hstopAt : (MonitorRun.opened id entryOrder config currentAtr orders).row.stopAt =
      fun price => monitorTrailingStopPrice price config entryOrder.side currentAtr := by
    funext price
    exact congrArg (monitorTrailingStopPrice price config entryOrder.side) hfits.atr_eq
  refine ⟨⟨rfl, hen, rfl, ?_, hstop⟩, ?_, ⟨entryOrder.entryPrice, ?_, hpos, fun _ => ?_⟩,
    fun p q hpq => ?_, fun hside p hp => ?_⟩
  · show (calculateExitPrices _ _ _ _).trailingStopPrice.map priceColumn = _
    simp only [calculateExitPrices, hen, if_true]
    exact congrArg some hfits.initialStop
  · show decide (config.trailingActivation = .immediate) = true ↔ _ ∨ [] ≠ []
    simp [MonitorRun.opened, PositionExit.inserted, newPositionExit]
  · have hcolumn := priceColumn_eq hfits.price
    unfold PositionExit.waterMark
    simp only [MonitorRun.opened, PositionExit.inserted, newPositionExit]
    cases entryOrder.side <;> exact congrArg some hcolumn
  · rw [hstopAt]
    show entryOrder.side.TightAs
      (entryOrder.side.below entryOrder.entryPrice
        (trailingDistance entryOrder.entryPrice config currentAtr))
      (entryOrder.side.below entryOrder.entryPrice
        (monitorTrailingDistance entryOrder.entryPrice config currentAtr))
    cases entryOrder.side with
    | buy => exact sub_le_sub_left hle _
    | sell => exact add_le_add_right hle _
  · rw [hstopAt]
    exact hfol.monotone hpq
  · have hsell : entryOrder.side = .sell := hside
    rw [hstopAt]
    rw [hsell] at hfol ⊢
    exact hfol.positive hp

theorem KeepsRatchet.congr {pass pass' : PositionExit → PriceTick → PositionExit × Bool}
    {initial : ℚ} {run : MonitorRun} {tick : PriceTick} (h : pass run.row tick = pass' run.row tick)
    (hkeeps : KeepsRatchet pass initial run tick) : KeepsRatchet pass' initial run tick := by
  have hnext : run.next pass tick = run.next pass' tick := by
    unfold MonitorRun.next
    rw [h]
  obtain ⟨hidle, hratchets, hclosed, htriggers, hstatus⟩ := hkeeps
  rw [h] at hidle htriggers hstatus
  rw [hnext] at hratchets hclosed htriggers hstatus
  exact ⟨hidle, hratchets, hclosed, htriggers, hstatus⟩

theorem monitorPass_eq
    (replaceStop : PositionExit → PositionExit → ℚ → PositionExit × PositionExit)
    {row : PositionExit} {tick : PriceTick} (hrow : InRow config currentAtr row)
    (hfits : 0 < tick.price → FitsColumns config currentAtr tick.price) :
    monitorPass replaceStop row tick = exactPass replaceStop row tick ∧
      InRow config currentAtr (exactPass replaceStop row tick).1 := by
  obtain ⟨hsame, hkept⟩ := monitorTick_eq replaceStop hrow hfits
  unfold monitorPass exactPass passOf
  rw [hsame]
  split
  · exact ⟨rfl, hkept⟩
  · exact ⟨rfl, hrow⟩

theorem next_eq_exactNext
    (replaceStop : PositionExit → PositionExit → ℚ → PositionExit × PositionExit)
    (run : MonitorRun) (tick : PriceTick)
    (hrow : InRow config currentAtr run.row)
    (hfits : 0 < tick.price → FitsColumns config currentAtr tick.price) :
    run.next (monitorPass replaceStop) tick = run.exactNext replaceStop tick ∧
      InRow config currentAtr (run.exactNext replaceStop tick).row := by
  obtain ⟨hsame, hkept⟩ := monitorPass_eq replaceStop hrow hfits
  refine ⟨?_, hkept⟩
  unfold MonitorRun.exactNext MonitorRun.next
  rw [hsame]

/-- **On prices of at most eight decimals every pass of a run keeps the ratchet exactly when it
activates calmly.** -/
theorem keepsRatchet_iff
    (replaceStop : PositionExit → PositionExit → ℚ → PositionExit × PositionExit)
    (ticks : List PriceTick) (hentry : FitsTrailing entryOrder config currentAtr)
    (hticks : ∀ tick ∈ ticks, 0 < tick.price → FitsColumns config currentAtr tick.price)
    (henabled : config.enableTrailingStop = true) (haccepted : validateExitPrices
      (calculateExitPrices entryOrder.entryPrice entryOrder.side config currentAtr)
        entryOrder.side DEFAULT_EXIT_PRICE_VALIDATION_LIMITS = []) :
    Throughout (MonitorRun.next (monitorPass replaceStop))
        (KeepsRatchet (monitorPass replaceStop) (initialStop entryOrder config currentAtr))
        (.opened id entryOrder config currentAtr orders) ticks ↔
      Throughout (MonitorRun.next (monitorPass replaceStop)) ActivatesCalmly
        (.opened id entryOrder config currentAtr orders) ticks := by
  have hopened : InRow config currentAtr
      (MonitorRun.opened id entryOrder config currentAtr orders).row := inRow_inserted id orders hentry
  rw [throughout_congr _ (next_eq_exactNext replaceStop) (fun run tick hrow hfits =>
      ⟨KeepsRatchet.congr (monitorPass_eq replaceStop hrow hfits).1,
        KeepsRatchet.congr (monitorPass_eq replaceStop hrow hfits).1.symm⟩) hopened hticks,
    throughout_congr _ (next_eq_exactNext replaceStop) (fun _ _ _ _ => Iff.rfl) hopened hticks]
  refine throughout_iff (fun run => run.row.status = .active →
      Ratcheting (initialStop entryOrder config currentAtr) run) ?_ ?_ ?_
  · intro run tick hrun
    by_cases hactive : run.row.status = .active
    · exact (hrun hactive).pass_keeps_iff replaceStop
    · exact iff_of_true (keepsRatchet_of_idle replaceStop hactive)
        fun hon => absurd hon hactive
  · intro run tick hrun hcalm hstill
    by_cases hactive : run.row.status = .active
    · exact (hrun hactive).next replaceStop hcalm hstill
    · have hskip : exactPass replaceStop run.row tick = (run.row, false) :=
        if_neg fun hboth => hactive hboth.1
      rw [MonitorRun.exactNext, MonitorRun.next, hskip] at hstill
      exact absurd hstill hactive
  · exact fun _ => ratcheting_opened id orders hentry henabled haccepted

end Entry

theorem keepsRatchet_upAndBack :
    Throughout (MonitorRun.next (monitorPass fun row _ _ => (row, row)))
      (KeepsRatchet (monitorPass fun row _ _ => (row, row))
        (initialStop trailingEntry trailFivePercent.trailingOnly none))
      (.opened "exit" trailingEntry trailFivePercent.trailingOnly none {}) upAndBack :=
  (keepsRatchet_iff "exit" {} (fun row _ _ => (row, row)) upAndBack
    trailingEntry_fits.trailingOnly
    (fun tick htick hprice => (upAndBack_fits tick htick hprice).trailingOnly) rfl
    (by decide +kernel)).mpr
    ⟨fun _ _ hinactive => absurd hinactive (by decide +kernel),
      fun _ _ hinactive => absurd hinactive (by decide +kernel), trivial⟩

/-- **The price that activates the stop is left out**: active from a gain of 1 % on, the stop is at
95 after a price of 110, and 5 % below that is 104.5. -/
theorem activatingPrice_leftOut :
    validateExitPrices (calculateExitPrices trailingEntry.entryPrice trailingEntry.side
        trailFromOnePercent.trailingOnly none) trailingEntry.side
        DEFAULT_EXIT_PRICE_VALIDATION_LIMITS = [] ∧
      ¬ Throughout (MonitorRun.next (monitorPass fun row _ _ => (row, row)))
        (KeepsRatchet (monitorPass fun row _ _ => (row, row))
          (initialStop trailingEntry trailFromOnePercent.trailingOnly none))
        (.opened "exit" trailingEntry trailFromOnePercent.trailingOnly none {}) upAndBack := by
  refine ⟨by decide +kernel, fun h => ?_⟩
  have hclosed := h.1.closed (by decide +kernel) (by decide +kernel) (by decide +kernel)
  exact absurd hclosed (by decide +kernel)

end Chansey
