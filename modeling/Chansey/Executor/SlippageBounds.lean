import Chansey.Executor.TradeSpec

/-!
# Bounds of slippage and fills

An order slips against its side by at most the configured maximum, and a volume limit shrinks or
cancels it.

* `FillBounded`, **`applySlippageAndFill_bounded`**.
-/

namespace Chansey

/-! ## Configurations -/

/-- A configuration without negative numbers, whose maximum leaves a sale a price. -/
structure SlippageConfig.Bounded (config : SlippageConfig) : Prop where
  fixedBps : ∀ x ∈ config.fixedBps, 0 ≤ x
  baseSlippageBps : ∀ x ∈ config.baseSlippageBps, 0 ≤ x
  maxSlippageBps : ∀ x ∈ config.maxSlippageBps, 0 ≤ x ∧ x ≤ 10000
  participationRateLimit : ∀ x ∈ config.participationRateLimit, 0 ≤ x
  volatilityFactor : ∀ x ∈ config.volatilityFactor, 0 ≤ x
  minSpreadBps : ∀ x ∈ config.minSpreadBps, 0 ≤ x

def SlippageConfig.limitBps (config : SlippageConfig) : ℚ := config.maxSlippageBps.getD 500

theorem getD_nonneg {x : Option ℚ} {y : ℚ} (h : ∀ v ∈ x, 0 ≤ v) (hy : 0 ≤ y) : 0 ≤ x.getD y := by
  cases x with
  | none => exact hy
  | some v => exact h v rfl

theorem SlippageConfig.Bounded.limitBps {config : SlippageConfig} (h : config.Bounded) :
    0 ≤ config.limitBps ∧ config.limitBps ≤ 10000 := by
  unfold SlippageConfig.limitBps
  cases hmax : config.maxSlippageBps with
  | none => norm_num
  | some x => exact h.maxSlippageBps x hmax

theorem SlippageConfig.Bounded.build {config : SlippageConfig} (h : config.Bounded) :
    config.build.Bounded where
  fixedBps x hx := by
    cases hx
    exact getD_nonneg h.fixedBps (by norm_num)
  baseSlippageBps x hx := by
    cases hx
    exact getD_nonneg h.baseSlippageBps (by norm_num)
  maxSlippageBps x hx := by
    cases hx
    exact h.limitBps
  participationRateLimit := h.participationRateLimit
  volatilityFactor x hx := by
    cases hx
    exact getD_nonneg h.volatilityFactor (by norm_num)
  minSpreadBps x hx := by
    cases hx
    exact getD_nonneg h.minSpreadBps (by norm_num)

/-! ## Slippage -/

section Slippage

variable {math : Js.Math} {config : SlippageConfig} {quantity price bps : ℚ}
  {dailyVolume : Option ℚ} {spreadContext : Option SpreadEstimationContext}

theorem positiveVolume_eq_some {volume : ℚ} :
    positiveVolume dailyVolume = some volume ↔ dailyVolume = some volume ∧ 0 < volume := by
  rw [positiveVolume, Option.filter_eq_some_iff, decide_eq_true_eq]

theorem minSpreadBps_le (math : Js.Math) (ctx : SpreadEstimationContext)
    (calibrationFactor minSpreadBps : ℚ) :
    minSpreadBps ≤ estimateSpreadBps math ctx calibrationFactor minSpreadBps := by
  unfold estimateSpreadBps
  dsimp only
  split_ifs
  · exact le_rfl
  · exact le_max_right _ _

theorem calculateSlippageBps_mem (hsqrt : ∀ x, 0 ≤ x → 0 ≤ math.sqrt x) (h : config.Bounded)
    (hqty : 0 ≤ quantity) (hprice : 0 ≤ price) :
    0 ≤ calculateSlippageBps math quantity price config dailyVolume spreadContext ∧
      calculateSlippageBps math quantity price config dailyVolume spreadContext ≤
        config.limitBps := by
  have hbuild := h.build
  have hfixed : 0 ≤ config.build.fixedBps.getD 5 := getD_nonneg hbuild.fixedBps (by norm_num)
  have hbase : 0 ≤ config.build.baseSlippageBps.getD 5 :=
    getD_nonneg hbuild.baseSlippageBps (by norm_num)
  have hsigma : 0 ≤ config.build.volatilityFactor.getD (1 / 10) :=
    getD_nonneg hbuild.volatilityFactor (by norm_num)
  have hmin : 0 ≤ config.build.minSpreadBps.getD 2 := getD_nonneg hbuild.minSpreadBps (by norm_num)
  have hhistorical : 0 ≤ config.fixedBps.getD 10 := getD_nonneg h.fixedBps (by norm_num)
  have hrate : ∀ volume, positiveVolume dailyVolume = some volume →
      0 ≤ quantity * price / volume := fun volume hvol =>
    div_nonneg (mul_nonneg hqty hprice) (positiveVolume_eq_some.mp hvol).2.le
  refine ⟨le_min ?_ h.limitBps.1, min_le_right _ _⟩
  cases config.build.type with
  | none => exact le_rfl
  | fixed => exact hfixed
  | historical => exact hhistorical
  | volumeBased =>
    cases hvol : positiveVolume dailyVolume with
    | none => exact hbase
    | some volume =>
      have himpact := mul_nonneg hsigma (hsqrt _ (hrate volume hvol))
      exact add_nonneg hbase (mul_nonneg himpact (by norm_num))
  | spreadAdjusted =>
    cases spreadContext with
    | none => exact hfixed
    | some ctx =>
      have hspread := hmin.trans (minSpreadBps_le math ctx
        (config.build.spreadCalibrationFactor.getD 1) (config.build.minSpreadBps.getD 2))
      cases hvol : positiveVolume dailyVolume with
      | none => exact div_nonneg hspread (by norm_num)
      | some volume =>
        exact add_nonneg (div_nonneg hspread (by norm_num))
          (mul_nonneg (hrate volume hvol) (by norm_num))

theorem le_applySlippage_buy (hprice : 0 ≤ price) (hbps : 0 ≤ bps) :
    price ≤ applySlippage price bps true := by
  have hpart := mul_nonneg hprice (div_nonneg hbps (by norm_num : (0 : ℚ) ≤ 10000))
  simp only [applySlippage, if_true]
  linarith

theorem applySlippage_sell_mem (hprice : 0 ≤ price) (hbps : 0 ≤ bps) (hmax : bps ≤ 10000) :
    0 ≤ applySlippage price bps false ∧ applySlippage price bps false ≤ price := by
  have hfactor : bps / 10000 ≤ 1 := by
    rw [div_le_one (by norm_num)]
    exact hmax
  have hpart := mul_nonneg hprice (div_nonneg hbps (by norm_num : (0 : ℚ) ≤ 10000))
  simp only [applySlippage, Bool.false_eq_true, if_false]
  exact ⟨mul_nonneg hprice (sub_nonneg.mpr hfactor), by linarith⟩

end Slippage

/-! ## Fills -/

def limitingVolume (config : SlippageConfig) (dailyVolume : Option ℚ) : Option ℚ :=
  if config.type = .volumeBased then positiveVolume dailyVolume else none

def participation (config : SlippageConfig) (orderValue : ℚ) (dailyVolume : Option ℚ) : Option ℚ :=
  (limitingVolume config dailyVolume).map (orderValue / ·)

def FillOutcome.price : FillOutcome → ℚ
  | .cancelled result => result.trade.price
  | .filled fill => fill.price

def FillOutcome.slippageBps : FillOutcome → ℚ
  | .cancelled result => result.slippageBps
  | .filled fill => fill.slippageBps

structure FillBounded (params : ExecuteTradeParams) (basePrice quantity : ℚ) (isBuy : Bool)
    (outcome : FillOutcome) : Prop where
  slippage : 0 ≤ outcome.slippageBps ∧ outcome.slippageBps ≤ params.slippageConfig.limitBps
  buy : isBuy = true → basePrice ≤ outcome.price
  sell : isBuy = false → 0 ≤ outcome.price ∧ outcome.price ≤ basePrice
  requested : ∀ fill, outcome = .filled fill → fill.quantity ≤ quantity
  limited : ∀ fill limit volume, outcome = .filled fill →
    params.slippageConfig.participationRateLimit = some limit →
    limitingVolume params.slippageConfig params.dailyVolume = some volume →
    fill.quantity * fill.price ≤ limit * volume
  cancelled : (∃ result, outcome = .cancelled result) ↔
    ∃ rate threshold,
      participation params.slippageConfig (quantity * outcome.price) params.dailyVolume = some rate ∧
      params.slippageConfig.rejectParticipationRate = some threshold ∧ threshold ≤ rate

section Fills

variable {math : Js.Math} {params : ExecuteTradeParams} {config : SlippageConfig}
  {basePrice quantity price : ℚ} {dailyVolume : Option ℚ} {isBuy : Bool} {cap : Option ℚ}

theorem assessFillability_cases (orderValue price : ℚ) (dailyVolume : Option ℚ)
    (config : SlippageConfig) :
    let assessment := assessFillability orderValue price dailyVolume config
    (assessment.fillStatus = .cancelled ∧
      ∃ volume threshold, limitingVolume config dailyVolume = some volume ∧
        config.rejectParticipationRate = some threshold ∧ threshold ≤ orderValue / volume) ∨
    ((∀ volume threshold, limitingVolume config dailyVolume = some volume →
        config.rejectParticipationRate = some threshold → orderValue / volume < threshold) ∧
      ((∃ volume limit, limitingVolume config dailyVolume = some volume ∧
          config.participationRateLimit = some limit ∧ limit < orderValue / volume ∧
          assessment.fillStatus = .partialFill ∧
          assessment.fillableQuantity = limit * volume / price) ∨
        (assessment.fillStatus = .filled ∧
          ∀ volume limit, limitingVolume config dailyVolume = some volume →
            config.participationRateLimit = some limit → orderValue / volume ≤ limit))) := by
  have hvolume? : (if config.build.type = .volumeBased then positiveVolume dailyVolume else none) =
      limitingVolume config dailyVolume := rfl
  have hreject? : config.build.rejectParticipationRate = config.rejectParticipationRate := rfl
  have hlimit? : config.build.participationRateLimit = config.participationRateLimit := rfl
  simp only [assessFillability, hvolume?, hreject?, hlimit?]
  cases hvol : limitingVolume config dailyVolume with
  | none => simp
  | some volume =>
    cases hrej : config.rejectParticipationRate.filter (· ≤ orderValue / volume) with
    | some threshold =>
      obtain ⟨hset, hle⟩ := Option.filter_eq_some_iff.mp hrej
      exact .inl ⟨by simp only [hrej], volume, threshold, rfl, hset, of_decide_eq_true hle⟩
    | none =>
      have hbelow : ∀ volume' threshold, some volume = some volume' →
          config.rejectParticipationRate = some threshold → orderValue / volume' < threshold := by
        intro volume' threshold hsame hset
        cases hsame
        simpa using Option.filter_eq_none_iff.mp hrej threshold hset
      refine .inr ⟨hbelow, ?_⟩
      cases hlimit : config.participationRateLimit.filter (· < orderValue / volume) with
      | some limit =>
        obtain ⟨hset, hlt⟩ := Option.filter_eq_some_iff.mp hlimit
        exact .inl ⟨volume, limit, rfl, hset, of_decide_eq_true hlt,
          by simp only [hrej, hlimit], by simp only [hrej, hlimit]⟩
      | none =>
        refine .inr ⟨by simp only [hrej, hlimit], fun volume' limit hsame hset => ?_⟩
        cases hsame
        simpa using Option.filter_eq_none_iff.mp hlimit limit hset

theorem limitingVolume_pos {volume : ℚ} (h : limitingVolume config dailyVolume = some volume) :
    0 < volume := by
  unfold limitingVolume at h
  split_ifs at h
  exact (positiveVolume_eq_some.mp h).2

theorem cappedFill_mul_le {limit volume : ℚ} (hprice : 0 < price) :
    (Js.truthy? cap).elim (limit * volume / price) (fun c => min (limit * volume / price) c) * price ≤
      limit * volume := by
  have hle := mul_le_mul_of_nonneg_right (cappedFill_le (limit * volume / price) (Js.truthy? cap))
    hprice.le
  rwa [div_mul_cancel₀ _ hprice.ne'] at hle

def slippedBps (math : Js.Math) (params : ExecuteTradeParams) (basePrice quantity : ℚ) : ℚ :=
  calculateSlippageBps math quantity basePrice params.slippageConfig.build params.dailyVolume
    params.spreadContext

def assessedOutcome (assessment : FillAssessment) (bps price quantity : ℚ) (cap : Option ℚ) :
    FillOutcome :=
  match assessment.fillStatus with
  | .cancelled => .cancelled (buildCancelledResult price bps quantity assessment.reason)
  | .partialFill =>
    .filled ⟨bps, price, (Js.truthy? cap).elim assessment.fillableQuantity
      fun c => min assessment.fillableQuantity c, .partialFill, some quantity⟩
  | .filled => .filled ⟨bps, price, quantity, .filled, none⟩

theorem applySlippageAndFill_eq (math : Js.Math) (params : ExecuteTradeParams)
    (hbase : 0 < basePrice) (quantity : ℚ) (isBuy : Bool) (cap : Option ℚ) :
    let price := slippedPrice math params basePrice quantity isBuy
    applySlippageAndFill math params basePrice quantity isBuy cap =
      .ok (assessedOutcome
        (assessFillability (quantity * price) price params.dailyVolume params.slippageConfig)
        (slippedBps math params basePrice quantity) price quantity cap) := by
  intro price
  have hok : calculateSlippage math
      { price := basePrice, quantity := quantity, isBuy := isBuy, dailyVolume := params.dailyVolume,
        spreadContext := params.spreadContext } params.slippageConfig =
      .ok ⟨slippedBps math params basePrice quantity, price, |price - basePrice| / basePrice,
        basePrice⟩ :=
    if_neg (not_le.mpr hbase)
  unfold applySlippageAndFill assessedOutcome
  rw [hok]
  dsimp only [Bind.bind, Except.bind]
  cases (assessFillability (quantity * price) price params.dailyVolume
    params.slippageConfig).fillStatus <;> rfl

/-- A price against the side of the order, within the maximum. -/
structure Slipped (params : ExecuteTradeParams) (basePrice : ℚ) (isBuy : Bool) (bps price : ℚ) :
    Prop where
  slippage : 0 ≤ bps ∧ bps ≤ params.slippageConfig.limitBps
  buy : isBuy = true → basePrice ≤ price
  sell : isBuy = false → 0 ≤ price ∧ price ≤ basePrice

theorem slipped_order (hsqrt : ∀ x, 0 ≤ x → 0 ≤ math.sqrt x) (hcfg : params.slippageConfig.Bounded)
    (hbase : 0 < basePrice) (hqty : 0 ≤ quantity) (isBuy : Bool) :
    Slipped params basePrice isBuy (slippedBps math params basePrice quantity)
      (slippedPrice math params basePrice quantity isBuy) := by
  have hbps : 0 ≤ slippedBps math params basePrice quantity ∧
      slippedBps math params basePrice quantity ≤ params.slippageConfig.limitBps :=
    calculateSlippageBps_mem hsqrt hcfg.build hqty hbase.le
  refine ⟨hbps, ?_, ?_⟩ <;> rintro rfl
  · exact le_applySlippage_buy hbase.le hbps.1
  · exact applySlippage_sell_mem hbase.le hbps.1 (hbps.2.trans hcfg.limitBps.2)

theorem Slipped.price_nonneg {bps : ℚ} (h : Slipped params basePrice isBuy bps price)
    (hbase : 0 < basePrice) : 0 ≤ price := by
  cases isBuy with
  | false => exact (h.sell rfl).1
  | true => exact hbase.le.trans (h.buy rfl)

theorem reaches_iff {orderValue : ℚ} :
    (∃ rate threshold, participation config orderValue dailyVolume = some rate ∧
        config.rejectParticipationRate = some threshold ∧ threshold ≤ rate) ↔
      ∃ volume threshold, limitingVolume config dailyVolume = some volume ∧
        config.rejectParticipationRate = some threshold ∧ threshold ≤ orderValue / volume := by
  constructor
  · rintro ⟨_, threshold, hrate, hset, hle⟩
    obtain ⟨volume, hvol, rfl⟩ := Option.map_eq_some_iff.mp hrate
    exact ⟨volume, threshold, hvol, hset, hle⟩
  · rintro ⟨volume, threshold, hvol, hset, hle⟩
    exact ⟨_, threshold, Option.map_eq_some_iff.mpr ⟨volume, hvol, rfl⟩, hset, hle⟩

theorem Slipped.cancelled {result : ExecuteTradeResult}
    (h : Slipped params basePrice isBuy result.slippageBps result.trade.price)
    (hrch : ∃ volume threshold,
      limitingVolume params.slippageConfig params.dailyVolume = some volume ∧
        params.slippageConfig.rejectParticipationRate = some threshold ∧
        threshold ≤ quantity * result.trade.price / volume) :
    FillBounded params basePrice quantity isBuy (.cancelled result) where
  slippage := h.slippage
  buy := h.buy
  sell := h.sell
  requested fill hfill := by cases hfill
  limited fill _ _ hfill := by cases hfill
  cancelled := ⟨fun _ => reaches_iff.mpr hrch, fun _ => ⟨result, rfl⟩⟩

theorem Slipped.filled {fill : SlippageFillResult}
    (h : Slipped params basePrice isBuy fill.slippageBps fill.price) (hbelow : ∀ volume threshold,
      limitingVolume params.slippageConfig params.dailyVolume = some volume →
        params.slippageConfig.rejectParticipationRate = some threshold →
        quantity * fill.price / volume < threshold) (hqty : fill.quantity ≤ quantity)
    (hlimited : ∀ volume limit,
      limitingVolume params.slippageConfig params.dailyVolume = some volume →
        params.slippageConfig.participationRateLimit = some limit →
        fill.quantity * fill.price ≤ limit * volume) :
    FillBounded params basePrice quantity isBuy (.filled fill) where
  slippage := h.slippage
  buy := h.buy
  sell := h.sell
  requested fill' hfill := by
    cases hfill
    exact hqty
  limited fill' limit volume hfill hlimit hvol := by
    cases hfill
    exact hlimited volume limit hvol hlimit
  cancelled := by
    constructor
    · rintro ⟨_, hres⟩
      cases hres
    · intro hreaches
      obtain ⟨volume, threshold, hvol, hset, hle⟩ := reaches_iff.mp hreaches
      exact absurd (hbelow volume threshold hvol hset) (not_lt.mpr hle)

/-- **An order slips against its side and within the maximum, a fill stays within the order and the
volume limit, and an order is cancelled just when its share of the volume reaches the threshold.** -/
theorem applySlippageAndFill_bounded (hsqrt : ∀ x, 0 ≤ x → 0 ≤ math.sqrt x)
    (hconfig : params.slippageConfig.Bounded) (hbase : 0 < basePrice) (hquantity : 0 ≤ quantity) :
    ∃ outcome, applySlippageAndFill math params basePrice quantity isBuy cap = .ok outcome ∧
      FillBounded params basePrice quantity isBuy outcome := by
  refine ⟨_, applySlippageAndFill_eq math params hbase quantity isBuy cap, ?_⟩
  have hslipped := slipped_order hsqrt hconfig hbase hquantity isBuy
  generalize slippedBps math params basePrice quantity = bps at *
  generalize slippedPrice math params basePrice quantity isBuy = price at *
  unfold assessedOutcome
  rcases assessFillability_cases (quantity * price) price params.dailyVolume params.slippageConfig
    with ⟨hstatus, hreached⟩ |
      ⟨hbelow, ⟨volume, limit, hvolume, hlimit, hlt, hstatus, hfillable⟩ | ⟨hstatus, hwithin⟩⟩
  · rw [hstatus]
    exact hslipped.cancelled hreached
  · have hpos := limitingVolume_pos hvolume
    have hmore : limit * volume < quantity * price := (lt_div_iff₀ hpos).mp hlt
    have hnonneg : 0 ≤ limit * volume :=
      mul_nonneg (hconfig.participationRateLimit limit hlimit) hpos.le
    have hprice : 0 < price := by
      refine (hslipped.price_nonneg hbase).lt_of_ne fun hzero => ?_
      rw [← hzero, mul_zero] at hmore
      exact absurd hmore (not_lt.mpr hnonneg)
    rw [hstatus]
    refine hslipped.filled hbelow ?_ fun volume' limit' hvolume' hlimit' => ?_
    · refine (cappedFill_le _ _).trans ?_
      rw [hfillable, div_le_iff₀ hprice]
      exact hmore.le
    · cases (hlimit.symm.trans hlimit')
      cases (hvolume.symm.trans hvolume')
      dsimp only
      rw [hfillable]
      exact cappedFill_mul_le hprice
  · rw [hstatus]
    refine hslipped.filled hbelow le_rfl fun volume limit hvolume hlimit => ?_
    exact (div_le_iff₀ (limitingVolume_pos hvolume)).mp (hwithin volume limit hvolume hlimit)

end Fills

/-! ## Whole volumes -/

def wholeVolumeParams (config : SlippageConfig) : ExecuteTradeParams where
  signal := { action := .buy, coinId := "btc", quantity := some 1, reason := "" }
  marketData := ⟨0, OrdMap.empty.set "btc" 100⟩
  tradingFee := 0
  slippageConfig := config
  dailyVolume := some 100

theorem applySlippageAndFill_bounded_wholeVolume :
    ∃ outcome, applySlippageAndFill ⟨id, id, id, fun base _ => base⟩
        (wholeVolumeParams { type := .volumeBased, participationRateLimit := some (1 / 20) }) 100 1
        true none = .ok outcome ∧
      FillBounded
        (wholeVolumeParams { type := .volumeBased, participationRateLimit := some (1 / 20) }) 100 1
        true outcome := by
  refine applySlippageAndFill_bounded (fun x hx => hx) ⟨?_, ?_, ?_, ?_, ?_, ?_⟩ (by norm_num)
    (by norm_num) <;> intro x hx <;> cases hx
  norm_num

/-- **A fixed slippage never cancels an order**, not even one of more than the daily volume. -/
theorem fixed_not_cancelled :
    ¬∀ (math : Js.Math) (params : ExecuteTradeParams) (basePrice quantity volume threshold : ℚ)
        (outcome : FillOutcome),
      params.dailyVolume = some volume → 0 < volume →
      params.slippageConfig.rejectParticipationRate = some threshold →
      applySlippageAndFill math params basePrice quantity true none = .ok outcome →
      ((∃ result, outcome = .cancelled result) ↔ threshold ≤ quantity * outcome.price / volume) := by
  intro hclaim
  have hfill : applySlippageAndFill ⟨id, id, id, fun base _ => base⟩
      (wholeVolumeParams { rejectParticipationRate := some (1 / 2) }) 100 1 true none =
      .ok (.filled ⟨5, 100 * (1 + 5 / 10000), 1, .filled, none⟩) := by
    have hbps : (calculateSlippageBps ⟨id, id, id, fun base _ => base⟩ 1 100
        (SlippageConfig.build { rejectParticipationRate := some (1 / 2) }) (some 100) none) = 5 := by
      norm_num [calculateSlippageBps, SlippageConfig.build]
    have hslippage : calculateSlippage ⟨id, id, id, fun base _ => base⟩
        { price := 100, quantity := 1, isBuy := true, dailyVolume := some 100 }
        { rejectParticipationRate := some (1 / 2) } =
        .ok ⟨5, 100 * (1 + 5 / 10000), |100 * (1 + 5 / 10000) - 100| / 100, 100⟩ := by
      simp only [calculateSlippage, hbps, applySlippage, if_true]
      exact if_neg (by norm_num)
    unfold applySlippageAndFill wholeVolumeParams
    rw [hslippage]
    rfl
  obtain ⟨_, hcancelled⟩ := (hclaim _ _ 100 1 100 (1 / 2) _ rfl (by norm_num) rfl hfill).mpr
    (by norm_num [FillOutcome.price])
  cases hcancelled

end Chansey
