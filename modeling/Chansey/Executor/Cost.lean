import Chansey.Domain

/-!
# Trading costs

Fees, the spread estimate from candles, and the slippage of a simulated order.

* `calculateFee`: a rate on the traded value; **`flatFee_eq_ok`** says what a flat rate charges and
  when it throws.
* **`calculateSlippage_spreadContext`**: only the spread-adjusted model reads the candle context.
-/

namespace Chansey

def DEFAULT_RISK_LEVEL : ℤ := 3

/-! ## Fees -/

inductive FeeType where
  | flat | makerTaker

structure FeeConfig where
  type : FeeType
  flatRate : Option ℚ := none
  makerRate : Option ℚ := none
  takerRate : Option ℚ := none

structure FeeResult where
  fee : ℚ
  rate : ℚ
  orderType : Option String := none

def FeeConfig.build (config : FeeConfig) : FeeConfig where
  type := config.type
  flatRate := some (config.flatRate.getD (1 / 1000))
  makerRate := some (config.makerRate.getD (5 / 10000))
  takerRate := some (config.takerRate.getD (1 / 1000))

def getRate (config : FeeConfig) (isMaker : Bool) : ℚ :=
  match config.build.type with
  | .flat => config.build.flatRate.getD (1 / 1000)
  | .makerTaker =>
    if isMaker then config.build.makerRate.getD (5 / 10000)
    else config.build.takerRate.getD (1 / 1000)

def calculateFee (tradeValue : ℚ) (isMaker : Bool) (config : FeeConfig) :
    Except LoopError FeeResult :=
  if tradeValue < 0 then .error (.error "Trade value cannot be negative")
  else
    let rate := getRate config.build isMaker
    let orderType :=
      match config.build.type with
      | .makerTaker => some (if isMaker then "maker" else "taker")
      | .flat => none
    .ok { fee := tradeValue * rate, rate := rate, orderType := orderType }

def fromFlatRate (rate : ℚ) : Except LoopError FeeConfig :=
  if rate < 0 then .error (.error "Fee rate must be a non-negative finite number")
  else .ok { type := .flat, flatRate := some rate }

/-- `calculateFee({ tradeValue }, fromFlatRate(rate))`, as every trade of a run is charged. -/
def flatFee (tradeValue rate : ℚ) : Except LoopError ℚ := do
  let config ← fromFlatRate rate
  let result ← calculateFee tradeValue false config
  return result.fee

theorem flatFee_eq_ok {tradeValue rate fee : ℚ} :
    flatFee tradeValue rate = .ok fee ↔ 0 ≤ rate ∧ 0 ≤ tradeValue ∧ fee = tradeValue * rate := by
  unfold flatFee fromFlatRate calculateFee
  by_cases hr : rate < 0
  · simp [hr, Bind.bind, Except.bind]
  · by_cases hv : tradeValue < 0
    · simp [hr, hv, Bind.bind, Except.bind]
    · simp [hr, hv, Bind.bind, Except.bind, pure, Except.pure, getRate, FeeConfig.build,
        not_lt.mp hr, not_lt.mp hv, eq_comm]

/-! ## Spread -/

structure SpreadEstimationContext where
  high : ℚ
  low : ℚ
  close : ℚ
  volume : Option ℚ := none
  prevHigh : Option ℚ := none
  prevLow : Option ℚ := none

def estimateSpreadCorwinSchultz (math : Js.Math) (high low prevHigh prevLow : ℚ) : ℚ :=
  if high ≤ low ∨ prevHigh ≤ prevLow then 0
  else
    let logCurrHL := math.log (high / low)
    let logPrevHL := math.log (prevHigh / prevLow)
    let beta := logCurrHL * logCurrHL + logPrevHL * logPrevHL
    let combined := math.log (max high prevHigh / min low prevLow)
    let gamma := combined * combined
    let sqrt2 := math.sqrt 2
    let denom := 3 - 2 * sqrt2
    let alpha := (sqrt2 * math.sqrt beta - math.sqrt beta) / denom - math.sqrt (gamma / denom)
    if alpha ≤ 0 then 0
    else
      let eAlpha := math.exp alpha
      let spread := 2 * (eAlpha - 1) / (1 + eAlpha)
      if spread < 0 then 0 else spread

def estimateSpreadHighLow (math : Js.Math) (high low close : ℚ) (volume : Option ℚ) : ℚ :=
  let referenceVolume : ℚ := 1000000
  if high ≤ low ∨ close ≤ 0 then 0
  else
    let spread := (high - low) / close * (3 / 10)
    match volume with
    | some v =>
      if 0 < v then spread / min 3 (max (33 / 100) (math.sqrt (v / referenceVolume))) else spread
    | none => spread

def estimateSpreadBps (math : Js.Math) (ctx : SpreadEstimationContext)
    (calibrationFactor minSpreadBps : ℚ) : ℚ :=
  let highLow := estimateSpreadHighLow math ctx.high ctx.low ctx.close ctx.volume
  let spreadFraction :=
    match ctx.prevHigh, ctx.prevLow with
    | some prevHigh, some prevLow =>
      let csSpread := estimateSpreadCorwinSchultz math ctx.high ctx.low prevHigh prevLow
      if 0 < csSpread then csSpread else highLow
    | _, _ => highLow
  let spreadBps := spreadFraction * 10000 * calibrationFactor
  if spreadBps < 0 then minSpreadBps else max spreadBps minSpreadBps

/-- `new Map(currentPrices.map((c) => [c.coinId, c]))` -/
def candleMap (currentPrices : List OHLCCandle) : OrdMap CoinId OHLCCandle :=
  OrdMap.ofEntries (currentPrices.map fun c => (c.coinId, c))

/-- `extractDailyVolume`: the candle's quote volume, else its base volume at the close. -/
def extractDailyVolume (priceMap : OrdMap CoinId OHLCCandle) (coinId : CoinId) : Option ℚ :=
  match priceMap.get? coinId with
  | none => none
  | some candle =>
    match candle.quoteVolume with
    | some v => some v
    | none => if candle.volume ≠ 0 then some (candle.volume * candle.close) else none

def buildSpreadContext (priceMap : OrdMap CoinId OHLCCandle) (coinId : CoinId)
    (prevCandleMap : OrdMap CoinId OHLCCandle) : Option SpreadEstimationContext :=
  match priceMap.get? coinId with
  | none => none
  | some candle =>
    if candle.high ≤ 0 ∨ candle.low ≤ 0 ∨ candle.close ≤ 0 ∨ candle.high ≤ candle.low then none
    else
      let prev := prevCandleMap.get? coinId
      some
        { high := candle.high
          low := candle.low
          close := candle.close
          volume := some candle.volume
          prevHigh := prev.map (·.high)
          prevLow := prev.map (·.low) }

def updatePrevCandleMap (prevCandleMap : OrdMap CoinId OHLCCandle)
    (currentPrices : List OHLCCandle) : OrdMap CoinId OHLCCandle :=
  currentPrices.foldl (fun m candle => m.set candle.coinId candle) prevCandleMap

structure ParticipationDefaults where
  participationRateLimit : ℚ
  rejectParticipationRate : ℚ

/-- `getParticipationDefaults`: the table of the five risk levels, clamped at both ends. -/
def getParticipationDefaults (riskLevel : ℤ) : ParticipationDefaults :=
  match max 0 (min 4 (riskLevel - 1)) with
  | 0 => ⟨2 / 100, 25 / 100⟩
  | 1 => ⟨3 / 100, 30 / 100⟩
  | 2 => ⟨5 / 100, 50 / 100⟩
  | 3 => ⟨8 / 100, 60 / 100⟩
  | _ => ⟨10 / 100, 75 / 100⟩

/-! ## Slippage -/

inductive SlippageModelType where
  | none | fixed | volumeBased | historical | spreadAdjusted
  deriving DecidableEq

def mapSlippageModelType : Option String → SlippageModelType
  | some "none" => .none
  | some "volume-based" => .volumeBased
  | some "historical" => .historical
  | some "spread-adjusted" => .spreadAdjusted
  | _ => .fixed

structure SlippageConfig where
  type : SlippageModelType := .fixed
  fixedBps : Option ℚ := Option.none
  baseSlippageBps : Option ℚ := Option.none
  maxSlippageBps : Option ℚ := Option.none
  participationRateLimit : Option ℚ := Option.none
  rejectParticipationRate : Option ℚ := Option.none
  volatilityFactor : Option ℚ := Option.none
  spreadCalibrationFactor : Option ℚ := Option.none
  minSpreadBps : Option ℚ := Option.none

def DEFAULT_SLIPPAGE_CONFIG : SlippageConfig where
  type := .fixed
  fixedBps := some 5
  maxSlippageBps := some 500
  volatilityFactor := some (1 / 10)

def SlippageConfig.build (config : SlippageConfig) : SlippageConfig where
  type := config.type
  fixedBps := some (config.fixedBps.getD 5)
  baseSlippageBps := some (config.baseSlippageBps.getD 5)
  maxSlippageBps := some (config.maxSlippageBps.getD 500)
  participationRateLimit := config.participationRateLimit
  rejectParticipationRate := config.rejectParticipationRate
  volatilityFactor := some (config.volatilityFactor.getD (1 / 10))
  spreadCalibrationFactor := some (config.spreadCalibrationFactor.getD 1)
  minSpreadBps := some (config.minSpreadBps.getD 2)

/-- The `slippage` section of a configuration snapshot. -/
structure SlippageSnapshot where
  model : Option String := Option.none
  fixedBps : Option ℚ := Option.none
  baseSlippageBps : Option ℚ := Option.none
  participationRateLimit : Option ℚ := Option.none
  rejectParticipationRate : Option ℚ := Option.none
  volatilityFactor : Option ℚ := Option.none
  spreadCalibrationFactor : Option ℚ := Option.none
  minSpreadBps : Option ℚ := Option.none

/-- `buildSlippageConfig`: the slippage of a run. A snapshot has no say in the maximum. -/
def buildSlippageConfig (snapshot : Option SlippageSnapshot) (regimeRiskLevel : Option ℤ) :
    SlippageConfig :=
  match snapshot with
  | none => DEFAULT_SLIPPAGE_CONFIG
  | some s =>
    let model := mapSlippageModelType s.model
    let riskDefaults :=
      if model = .volumeBased then
        some (getParticipationDefaults (regimeRiskLevel.getD DEFAULT_RISK_LEVEL))
      else none
    SlippageConfig.build
      { type := model
        fixedBps := some (s.fixedBps.getD 5)
        baseSlippageBps := some (s.baseSlippageBps.getD 5)
        participationRateLimit :=
          s.participationRateLimit.or (riskDefaults.map (·.participationRateLimit))
        rejectParticipationRate :=
          s.rejectParticipationRate.or (riskDefaults.map (·.rejectParticipationRate))
        volatilityFactor := s.volatilityFactor
        spreadCalibrationFactor := some (s.spreadCalibrationFactor.getD 1)
        minSpreadBps := some (s.minSpreadBps.getD 2) }

theorem buildSlippageConfig_maxSlippageBps (snapshot : Option SlippageSnapshot)
    (regimeRiskLevel : Option ℤ) :
    (buildSlippageConfig snapshot regimeRiskLevel).maxSlippageBps = some 500 := by
  cases snapshot <;> rfl

def positiveVolume (dailyVolume : Option ℚ) : Option ℚ := dailyVolume.filter (0 < ·)

def calculateSlippageBps (math : Js.Math) (quantity price : ℚ) (config : SlippageConfig)
    (dailyVolume : Option ℚ) (spreadContext : Option SpreadEstimationContext) : ℚ :=
  let effectiveConfig := config.build
  let maxSlippage := effectiveConfig.maxSlippageBps.getD 500
  let slippageBps :=
    match effectiveConfig.type with
    | .none => 0
    | .fixed => effectiveConfig.fixedBps.getD 5
    | .volumeBased =>
      let baseSlippage := effectiveConfig.baseSlippageBps.getD 5
      match positiveVolume dailyVolume with
      | none => baseSlippage
      | some volume =>
        let participationRate := quantity * price / volume
        let sigma := effectiveConfig.volatilityFactor.getD (1 / 10)
        baseSlippage + sigma * math.sqrt participationRate * 10000
    -- the caller's config, not the effective one
    | .historical => config.fixedBps.getD 10
    | .spreadAdjusted =>
      match spreadContext with
      | none => effectiveConfig.fixedBps.getD 5
      | some ctx =>
        let fullSpreadBps := estimateSpreadBps math ctx
          (effectiveConfig.spreadCalibrationFactor.getD 1) (effectiveConfig.minSpreadBps.getD 2)
        match positiveVolume dailyVolume with
        | none => fullSpreadBps / 2
        | some volume => fullSpreadBps / 2 + quantity * price / volume * 100
  min slippageBps maxSlippage

def applySlippage (price slippageBps : ℚ) (isBuy : Bool) : ℚ :=
  let slippageFactor := slippageBps / 10000
  if isBuy then price * (1 + slippageFactor) else price * (1 - slippageFactor)

structure SlippageInput where
  price : ℚ
  quantity : ℚ
  isBuy : Bool
  dailyVolume : Option ℚ := Option.none
  spreadContext : Option SpreadEstimationContext := Option.none

structure SlippageResult where
  slippageBps : ℚ
  executionPrice : ℚ
  priceImpact : ℚ
  originalPrice : ℚ

def calculateSlippage (math : Js.Math) (input : SlippageInput) (config : SlippageConfig) :
    Except LoopError SlippageResult :=
  if input.price ≤ 0 then .error (.error "Price must be a positive finite number")
  else
    let slippageBps := calculateSlippageBps math input.quantity input.price config.build
      input.dailyVolume input.spreadContext
    let executionPrice := applySlippage input.price slippageBps input.isBuy
    .ok
      { slippageBps := slippageBps
        executionPrice := executionPrice
        priceImpact := |executionPrice - input.price| / input.price
        originalPrice := input.price }

theorem calculateSlippage_spreadContext (math : Js.Math) (input : SlippageInput)
    (config : SlippageConfig) (h : config.type ≠ .spreadAdjusted)
    (ctx : Option SpreadEstimationContext) :
    calculateSlippage math { input with spreadContext := ctx } config =
      calculateSlippage math input config := by
  have hbps : calculateSlippageBps math input.quantity input.price config.build
        input.dailyVolume ctx =
      calculateSlippageBps math input.quantity input.price config.build
        input.dailyVolume input.spreadContext := by
    unfold calculateSlippageBps
    cases htype : config.type <;> simp_all [SlippageConfig.build]
  simp only [calculateSlippage, hbps]

structure FillAssessment where
  fillable : Bool
  fillableQuantity : ℚ
  fillStatus : SimulatedOrderStatus
  participationRate : ℚ
  reason : Option String := Option.none

def assessFillability (orderValue price : ℚ) (dailyVolume : Option ℚ) (config : SlippageConfig) :
    FillAssessment :=
  let effectiveConfig := config.build
  let orderQuantity := if 0 < price then orderValue / price else 0
  let volume? :=
    if effectiveConfig.type = .volumeBased then positiveVolume dailyVolume else Option.none
  match volume? with
  | none =>
    { fillable := true, fillableQuantity := orderQuantity, fillStatus := .filled,
      participationRate := 0 }
  | some volume =>
    let rate := orderValue / volume
    let percent (q : ℚ) := Js.toFixed (q * 100) 1
    match effectiveConfig.rejectParticipationRate.filter (· ≤ rate) with
    | some reject =>
      { fillable := false, fillableQuantity := 0, fillStatus := .cancelled,
        participationRate := rate,
        reason := some ("Order participation rate " ++ percent rate ++
          "% exceeds rejection threshold " ++ percent reject ++ "%") }
    | none =>
      match effectiveConfig.participationRateLimit.filter (· < rate) with
      | some limit =>
        { fillable := true, fillableQuantity := limit * volume / price, fillStatus := .partialFill,
          participationRate := rate,
          reason := some ("Order capped to " ++ percent limit ++ "% participation rate") }
      | none =>
        { fillable := true, fillableQuantity := orderQuantity, fillStatus := .filled,
          participationRate := rate }

end Chansey
