import Chansey.Executor.Trade

/-!
# What a trade reads of its bar

Beside prices, an order carries the volume of its coin on the bar and the candles its spread is
estimated from. Which of them a trade depends on is decided by the slippage model.
-/

namespace Chansey

open Result

section Context

variable {math : Js.Math} {params : ExecuteTradeParams} {portfolio : Portfolio}
  {volume : Option ℚ} {spread : Option SpreadEstimationContext}

def ExecuteTradeParams.withContext (params : ExecuteTradeParams) (volume : Option ℚ)
    (spread : Option SpreadEstimationContext) : ExecuteTradeParams :=
  { params with dailyVolume := volume, spreadContext := spread }

theorem executeTrade_withContext (h : applySlippageAndFill math (params.withContext volume spread) =
      applySlippageAndFill math params) :
    executeTrade math (params.withContext volume spread) portfolio =
      executeTrade math params portfolio := by
  have hact : ∀ base, executeAction math (params.withContext volume spread) base portfolio =
      executeAction math params base portfolio := by
    intro base
    have hsig : (params.withContext volume spread).signal = params.signal := rfl
    unfold executeAction
    rw [hsig]
    cases params.signal.action with
    | hold => rfl
    | buy =>
      simp only [executeBuy, h]
      rfl
    | sell =>
      simp only [executeSell, h]
      rfl
    | openShort =>
      simp only [executeOpenShort, h]
      rfl
    | closeShort =>
      simp only [executeCloseShort, h]
      rfl
  simp only [executeTrade, hact]
  rfl

theorem executeTrade_spreadContext (h : params.slippageConfig.type ≠ .spreadAdjusted)
    (spread : Option SpreadEstimationContext) :
    executeTrade math { params with spreadContext := spread } portfolio =
      executeTrade math params portfolio := by
  suffices hfill : applySlippageAndFill math (params.withContext params.dailyVolume spread) =
      applySlippageAndFill math params from executeTrade_withContext hfill
  funext base quantity isBuy cap
  have hslip := calculateSlippage_spreadContext math
    { price := base, quantity := quantity, isBuy := isBuy, dailyVolume := params.dailyVolume,
      spreadContext := params.spreadContext } params.slippageConfig h spread
  unfold applySlippageAndFill
  change (calculateSlippage math
    { price := base, quantity := quantity, isBuy := isBuy, dailyVolume := params.dailyVolume,
      spreadContext := spread } params.slippageConfig >>= _) = _
  rw [hslip]
  rfl

/-- The models that look at the candle of the bar an order fills on. -/
def SlippageModelType.readsCandle (type : SlippageModelType) : Bool :=
  type = .volumeBased ∨ type = .spreadAdjusted

theorem executeTrade_candleFree (h : params.slippageConfig.type.readsCandle = false)
    (volume : Option ℚ) (spread : Option SpreadEstimationContext) :
    executeTrade math (params.withContext volume spread) portfolio =
      executeTrade math params portfolio := by
  refine executeTrade_withContext ?_
  funext base quantity isBuy cap
  have hbps : ∀ v c, calculateSlippageBps math quantity base params.slippageConfig.build v c =
      calculateSlippageBps math quantity base params.slippageConfig.build none none := by
    intro v c
    unfold calculateSlippageBps
    cases htype : params.slippageConfig.type <;>
      simp_all [SlippageConfig.build, SlippageModelType.readsCandle]
  have hassess : ∀ value price v, assessFillability value price v params.slippageConfig =
      assessFillability value price none params.slippageConfig := by
    intro value price v
    unfold assessFillability
    cases htype : params.slippageConfig.type <;>
      simp_all [SlippageConfig.build, SlippageModelType.readsCandle]
  unfold applySlippageAndFill calculateSlippage
  simp only [ExecuteTradeParams.withContext, hbps volume spread,
    hbps params.dailyVolume params.spreadContext, hassess _ _ volume, hassess _ _ params.dailyVolume]

end Context

end Chansey
