import Chansey.Checkpoint.Resume

/-!
# What secures a short

A short is opened against a margin and with the price at which it is liquidated. Nothing that happens
in a run, a plain sell of a part of it included, takes the margin below its share.
-/

namespace Chansey

open Result Run

structure Position.CoveredBy (p : Position) (leverage margin : ℚ) : Prop where
  quantity_pos : 0 < p.quantity
  price_pos : 0 < p.averagePrice
  covers : p.quantity * p.averagePrice ≤ margin * leverage
  liquidation : p.liquidationPrice = some (calculateShortLiquidationPrice p.averagePrice leverage)

structure Position.SecuredBy (p : Position) (leverage margin : ℚ) : Prop where
  leverage_eq : p.leverage = some leverage
  margin_eq : p.marginAmount = some margin
  one_le : 1 ≤ leverage
  le_cap : leverage ≤ MAX_LEVERAGE_CAP
  nonneg : 0 ≤ margin
  covered : margin ≠ 0 → p.CoveredBy leverage margin

def Secured (positions : OrdMap CoinId Position) : Prop :=
  ∀ c p, positions.get? c = some p → p.side = some .short → ∃ leverage margin,
    p.SecuredBy leverage margin

/-- **What is promised of a short**: a leverage of at most `10`, a margin and, while there is margin,
a liquidation price above the entry. At any price below it the short is worth at least the
maintenance margin of its entry value. -/
def Position.Outlasting (p : Position) : Prop :=
  ∃ leverage margin, p.leverage = some leverage ∧ p.marginAmount = some margin ∧ 1 ≤ leverage ∧
    leverage ≤ 10 ∧ 0 ≤ margin ∧
    (margin ≠ 0 → ∃ liquidationPrice, p.liquidationPrice = some liquidationPrice ∧
      p.averagePrice < liquidationPrice ∧ ∀ price < liquidationPrice,
        MAINTENANCE_MARGIN_RATE * (p.quantity * p.averagePrice) ≤
          getPositionValue p (some price) true)

section Position

variable {p : Position} {leverage margin : ℚ}

theorem Position.CoveredBy.averagePrice_lt (h : p.CoveredBy leverage margin) (hone : 1 ≤ leverage)
    (hcap : leverage ≤ MAX_LEVERAGE_CAP) :
    p.averagePrice < calculateShortLiquidationPrice p.averagePrice leverage := by
  have hshare : (1 : ℚ) / 10 ≤ 1 / leverage :=
    one_div_le_one_div_of_le (lt_of_lt_of_le one_pos hone) hcap
  refine lt_mul_of_one_lt_right h.price_pos ?_
  rw [MAINTENANCE_MARGIN_RATE]
  linarith

theorem Position.CoveredBy.value_ge (h : p.CoveredBy leverage margin) (hone : 1 ≤ leverage)
    (hside : p.side = some .short) (hmargin : p.marginAmount = some margin) {price : ℚ}
    (hprice : price < calculateShortLiquidationPrice p.averagePrice leverage) :
    MAINTENANCE_MARGIN_RATE * (p.quantity * p.averagePrice) ≤
      getPositionValue p (some price) true := by
  have hshare : p.quantity * p.averagePrice / leverage ≤ margin :=
    (div_le_iff₀ (lt_of_lt_of_le one_pos hone)).mpr h.covers
  have hloss : p.quantity * price ≤
      p.quantity * calculateShortLiquidationPrice p.averagePrice leverage :=
    mul_le_mul_of_nonneg_left hprice.le h.quantity_pos.le
  have hliq : p.quantity * calculateShortLiquidationPrice p.averagePrice leverage =
      p.quantity * p.averagePrice + p.quantity * p.averagePrice / leverage -
        MAINTENANCE_MARGIN_RATE * (p.quantity * p.averagePrice) := by
    unfold calculateShortLiquidationPrice
    ring
  unfold getPositionValue
  rw [hside, hmargin]
  refine le_trans ?_ (le_max_right _ _)
  linarith

theorem Position.SecuredBy.outlasting (h : p.SecuredBy leverage margin)
    (hside : p.side = some .short) : p.Outlasting := by
  refine ⟨leverage, margin, h.leverage_eq, h.margin_eq, h.one_le, h.le_cap, h.nonneg, fun hne => ?_⟩
  have hcov := h.covered hne
  exact ⟨_, hcov.liquidation, hcov.averagePrice_lt h.one_le h.le_cap,
    fun price hprice => hcov.value_ge h.one_le hside h.margin_eq hprice⟩

end Position

/-! ## What each action leaves -/

section Step

variable {env : PortfolioEnv} {portfolio after : Portfolio} {order : ExecuteTradeParams}
  {positions next : OrdMap CoinId Position} {coinId : CoinId} {quantity price leverage : ℚ}

theorem Secured.ite {q : Option Position} (h : Secured positions)
    (hq : ∀ p, q = some p → p.side = some .short → ∃ leverage margin, p.SecuredBy leverage margin)
    (hget : ∀ c, next.get? c = if coinId = c then q else positions.get? c) : Secured next := by
  intro c p hp
  rw [hget] at hp
  split_ifs at hp
  · exact hq p hp
  · exact h c p hp

variable (h : Secured portfolio.positions)

include h

theorem Secured.bookBuy (timestamp : Instant)
    (hvalid : ∀ p, portfolio.positions.get? coinId = some p → ¬ 0 < p.quantity) :
    Secured (bookBuy portfolio coinId quantity price timestamp).positions := by
  refine h.ite (fun p hp hside => ?_) fun c => bookBuy_get? portfolio coinId quantity price c timestamp
  cases hget : portfolio.positions.get? coinId with
  | none =>
    rw [hget] at hp
    cases hp
    cases hside
  | some e =>
    rw [hget] at hp
    cases hp
    obtain ⟨leverage, margin, hs⟩ := h coinId e hget hside
    exact ⟨leverage, margin, hs.leverage_eq, hs.margin_eq, hs.one_le, hs.le_cap, hs.nonneg,
      fun hne => absurd (hs.covered hne).quantity_pos (hvalid e hget)⟩

theorem Secured.bookSell {e : Position} (hget : portfolio.positions.get? coinId = some e)
    (hq : 0 ≤ quantity) (hle : quantity ≤ e.quantity) :
    Secured (bookSell portfolio coinId e quantity price).positions := by
  refine h.ite (fun p hp hside => ?_) fun c => bookSell_get? portfolio coinId e quantity price c
  split_ifs at hp with hall
  cases hp
  obtain ⟨leverage, margin, hs⟩ := h coinId e hget hside
  refine ⟨leverage, margin, hs.leverage_eq, hs.margin_eq, hs.one_le, hs.le_cap, hs.nonneg,
    fun hne => ?_⟩
  have hcov := hs.covered hne
  refine ⟨lt_of_le_of_ne (sub_nonneg.mpr hle) (Ne.symm hall), hcov.price_pos, ?_, hcov.liquidation⟩
  exact (mul_le_mul_of_nonneg_right (sub_le_self _ hq) hcov.price_pos.le).trans hcov.covers

theorem Secured.bookOpenShort (timestamp : Instant) (hprice : 0 < price)
    (hvalue : 0 ≤ quantity * price) (hone : 1 ≤ leverage) (hcap : leverage ≤ MAX_LEVERAGE_CAP) :
    Secured (bookOpenShort portfolio coinId quantity price leverage timestamp).positions := by
  have hlev : 0 < leverage := lt_of_lt_of_le one_pos hone
  refine h.ite (fun p hp _ => ?_)
    fun c => bookOpenShort_get? portfolio coinId quantity price c leverage timestamp
  cases hp
  refine ⟨leverage, quantity * price / leverage, rfl, rfl, hone, hcap, div_nonneg hvalue hlev.le,
    fun hne => ⟨?_, hprice, (div_mul_cancel₀ _ hlev.ne').ge, rfl⟩⟩
  refine lt_of_le_of_ne (nonneg_of_mul_nonneg_left hvalue hprice) fun hzero => hne ?_
  change 0 = quantity at hzero
  rw [← hzero, zero_mul, zero_div]

theorem Secured.bookCloseShort {e : Position} (hget : portfolio.positions.get? coinId = some e)
    (hle : quantity ≤ e.quantity) :
    Secured (bookCloseShort portfolio coinId e quantity price).positions := by
  refine h.ite (fun p hp hside => ?_)
    fun c => bookCloseShort_get? portfolio coinId e quantity price c
  split_ifs at hp with hall
  cases hp
  obtain ⟨leverage, margin, hs⟩ := h coinId e hget hside
  have hmargin : e.marginAmount.getD 0 - returnedMargin e quantity =
      margin * (1 - quantity / e.quantity) := by
    rw [returnedMargin, hs.margin_eq, Option.getD_some]
    ring
  have hleft : margin ≠ 0 → 0 ≤ 1 - quantity / e.quantity := fun hne =>
    sub_nonneg.mpr ((div_le_one (hs.covered hne).quantity_pos).mpr hle)
  refine ⟨leverage, margin * (1 - quantity / e.quantity), hs.leverage_eq, congrArg some hmargin,
    hs.one_le, hs.le_cap, ?_, fun hkept => ?_⟩
  · by_cases hne : margin = 0
    · rw [hne, zero_mul]
    · exact mul_nonneg hs.nonneg (hleft hne)
  · have hne := left_ne_zero_of_mul hkept
    have hcov := hs.covered hne
    refine ⟨not_le.mp hall, hcov.price_pos, ?_, hcov.liquidation⟩
    have hpos := hcov.quantity_pos
    calc (e.quantity - quantity) * e.averagePrice
        = e.quantity * e.averagePrice * (1 - quantity / e.quantity) := by field_simp
      _ ≤ margin * leverage * (1 - quantity / e.quantity) :=
        mul_le_mul_of_nonneg_right hcov.covers (hleft hne)
      _ = margin * (1 - quantity / e.quantity) * leverage := by ring

theorem secured_signal (hstep : portfolioStep env portfolio (.signal order) = .ok after) :
    Secured after.positions := by
  obtain ⟨⟨result?, _⟩, hrun, rfl⟩ := map_eq_ok.mp hstep
  cases result? with
  | none => exact executeTrade_none hrun ▸ h
  | some =>
    rcases executeTrade_some hrun with ⟨-, rfl⟩ | ⟨-, hfld⟩
    · exact h
    obtain ⟨market, result, booked, _, -, -, hvalid, hbkd, hfee, -, rfl⟩ := hfld.exists_booking
    change Secured booked.positions
    cases hbkd with
    | buy fill estimate ha =>
      refine h.bookBuy _ fun p hp => ?_
      simpa [validatePositionConflicts, ha, hp] using hvalid
    | sell e fill ha hget hq hfill hle hquantity hprice hvalue =>
      obtain ⟨hbase, hslipped, -, -⟩ := applySlippageAndFill_filled hfill
      have hpos : 0 < fill.price := hslipped ▸ env_sell_pos hbase
      rw [ha] at hfee
      have htraded : 0 ≤ result.totalValue := (flatFee_eq_ok.mp hfee).2.1
      rw [hvalue] at htraded
      exact h.bookSell hget (nonneg_of_mul_nonneg_left htraded hpos) hle
    | openShort fill estimate ha hfill hestimate _ _ _ _ _ hleverage =>
      obtain ⟨hbase, hslipped, -, -⟩ := applySlippageAndFill_filled hfill
      obtain ⟨hone, hcap⟩ := resolveShortLeverage_mem hleverage
      exact h.bookOpenShort _ (hslipped ▸ env_sell_pos hbase) (flatFee_eq_ok.mp hestimate).2.1 hone
        hcap
    | closeShort e fill ha hget hside hq hfill hle => exact h.bookCloseShort hget hle

theorem secured_step (event : PortfolioEvent)
    (hstep : portfolioStep env portfolio event = .ok after) : Secured after.positions := by
  cases event with
  | signal => exact secured_signal h hstep
  | liquidations =>
    cases hstep
    intro c p hp
    rw [liquidations_get?, Option.filter_eq_some_iff] at hp
    exact h c p hp.1
  | delistingExits =>
    cases hstep
    intro c p hp
    rw [delistingExits_get?] at hp
    split_ifs at hp
    exact h c p hp
  | revaluation prices =>
    cases hstep
    intro c p hp hside
    rw [updateValues_get?] at hp
    obtain ⟨q, hq, rfl⟩ := Option.map_eq_some_iff.mp hp
    obtain ⟨leverage, margin, hs⟩ := h c q hq hside
    exact ⟨leverage, margin, { hs with covered := fun hne => { hs.covered hne with } }⟩

end Step

/-! ## Runs -/

section Run

variable {setup : RunSetup}

theorem slipped_createConfig (setup : RunSetup) : setup.createConfig.toLoopEnv.Slipped
    { math := setup.data.math
      slippage := setup.backtest.slippage
      regimeRiskLevel := setup.backtest.regimeRiskLevel
      coinMap := setup.tradingConfig.coinMap
      quoteCoin := setup.data.quoteCoin
      delistingDates := setup.createConfig.delistingDates
      delistingPenalty := setup.createConfig.delistingPenalty } :=
  ⟨rfl, rfl, rfl, rfl, rfl, rfl⟩

theorem secured_createState (resumeFrom : Option BacktestCheckpointState) :
    Secured (setup.createState resumeFrom).portfolio.positions := by
  intro c p hp hside
  cases resumeFrom with
  | none => cases hp
  | some checkpoint =>
    -- a checkpoint keeps no side: what it restores is no short
    have hrestored := OrdMap.get?_ofEntries_values (fun pos : CheckpointPosition =>
      pos.toSerializable.toPosition (pos.toSerializable.value OrdMap.empty))
      (checkpoint.portfolio.positions.map fun pos => (pos.coinId, pos)) c
    change (OrdMap.ofEntries _).get? c = some p at hp
    rw [List.map_map] at hp hrestored
    obtain ⟨_, -, rfl⟩ := Option.map_eq_some_iff.mp (hrestored.symm.trans hp)
    cases hside

theorem secured_barStep {i : ℕ} {state next : LoopState} (h : Secured state.portfolio.positions)
    (hstep : barStep setup.createConfig state i = .ok next) : Secured next.portfolio.positions := by
  obtain ⟨_, hbar⟩ := barStep_eq_ok.mp hstep
  obtain ⟨_, hevents, -⟩ := processBar_reaches hbar
  refine foldlM_invariant (P := fun b : Books => Secured b.portfolio.positions) ?_ h hevents
  intro event _ b b' hb hev
  obtain ⟨_, hrun⟩ := loopStep_portfolio (slipped_createConfig setup) hev
  exact foldlM_invariant (P := fun q : Portfolio => Secured q.positions)
    (fun e _ _ _ hq hqstep => secured_step hq e hqstep) hb hrun

/-- **In every state of a backtest, fresh or resumed, the margin of a short outlasts its liquidation
price.** A leverage that is `NaN` ends the run. -/
theorem outlasting_run (setup : RunSetup) (resumeFrom : Option BacktestCheckpointState)
    (is : List ℕ) (final : LoopState)
    (hrun : run (barStep setup.createConfig) (setup.createState resumeFrom) is = .ok final)
    (c : CoinId) (p : Position) (hget : final.portfolio.positions.get? c = some p)
    (hside : p.side = some .short) : p.Outlasting := by
  have hsecured := foldlM_invariant (P := fun s : LoopState => Secured s.portfolio.positions)
    (fun _ _ _ _ hs hstep => secured_barStep hs hstep) (secured_createState resumeFrom) hrun
  obtain ⟨_, _, h⟩ := hsecured c p hget hside
  exact h.outlasting hside

theorem outlasting_entryRun :
    ∃ final p, run (barStep (entryRun .shortEntry).createConfig)
        ((entryRun .shortEntry).createState none) (List.range 2) = .ok final ∧
      final.portfolio.positions.get? "eth" = some p ∧ p.marginAmount = some 50 ∧
      p.Outlasting := by
  have hdecided : (run (barStep (entryRun .shortEntry).createConfig)
      (entryRun .shortEntry).startState (List.range 2)).map (fun s =>
        (s.portfolio.positions.get? "eth").map fun p => (p.side, p.marginAmount)) =
      .ok (some (some .short, some 50)) := by decide +kernel
  obtain ⟨final, hrun, hheld⟩ := exists_run_of_map hdecided
  obtain ⟨p, hget, hp⟩ := Option.map_eq_some_iff.mp hheld
  obtain ⟨hside, hmargin⟩ := Prod.mk.inj hp
  exact ⟨final, p, hrun, hget, hmargin,
    outlasting_run (entryRun .shortEntry) none _ final hrun "eth" p hget hside⟩

end Run

end Chansey
