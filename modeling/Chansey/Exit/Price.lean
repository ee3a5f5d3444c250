import Chansey.Domain

/-!
# Exit configuration and exit prices

How configuration layers merge, and the stop-loss, take-profit and trailing levels that follow from
an entry price.

* `resolveExitConfig`: layers over the system defaults; a field that a layer leaves out keeps the
  value below it.
-/

namespace Chansey

def DEFAULT_EXIT_CONFIG : ExitConfig where
  enableStopLoss := false
  stopLossType := .percentage
  stopLossValue := 35 / 10
  enableTakeProfit := false
  takeProfitType := .riskReward
  takeProfitValue := 2
  enableTrailingStop := false
  trailingType := .percentage
  trailingValue := 1
  trailingActivation := .immediate
  useOco := true
  exitCooldownBars := some 10

/-- The legacy hard stop at 5 %, without take-profit and trailing stop. -/
def DEFAULT_BACKTEST_EXIT_CONFIG : ExitConfig where
  enableStopLoss := true
  stopLossType := .percentage
  stopLossValue := 5
  enableTakeProfit := false
  takeProfitType := .riskReward
  takeProfitValue := 2
  enableTrailingStop := false
  trailingType := .percentage
  trailingValue := 1
  trailingActivation := .immediate
  useOco := false

def ExitConfig.toLayer (config : ExitConfig) : PartialExitConfig where
  enableStopLoss := some config.enableStopLoss
  stopLossType := some config.stopLossType
  stopLossValue := some config.stopLossValue
  enableTakeProfit := some config.enableTakeProfit
  takeProfitType := some config.takeProfitType
  takeProfitValue := some config.takeProfitValue
  enableTrailingStop := some config.enableTrailingStop
  trailingType := some config.trailingType
  trailingValue := some config.trailingValue
  trailingActivation := some config.trailingActivation
  trailingActivationValue := config.trailingActivationValue
  useOco := some config.useOco
  exitCooldownBars := config.exitCooldownBars

def applyLayer (config : ExitConfig) (layer : PartialExitConfig) : ExitConfig where
  enableStopLoss := layer.enableStopLoss.getD config.enableStopLoss
  stopLossType := layer.stopLossType.getD config.stopLossType
  stopLossValue := layer.stopLossValue.getD config.stopLossValue
  enableTakeProfit := layer.enableTakeProfit.getD config.enableTakeProfit
  takeProfitType := layer.takeProfitType.getD config.takeProfitType
  takeProfitValue := layer.takeProfitValue.getD config.takeProfitValue
  enableTrailingStop := layer.enableTrailingStop.getD config.enableTrailingStop
  trailingType := layer.trailingType.getD config.trailingType
  trailingValue := layer.trailingValue.getD config.trailingValue
  trailingActivation := layer.trailingActivation.getD config.trailingActivation
  trailingActivationValue := layer.trailingActivationValue.or config.trailingActivationValue
  useOco := layer.useOco.getD config.useOco
  exitCooldownBars := layer.exitCooldownBars.or config.exitCooldownBars

def resolveExitConfig (layers : List PartialExitConfig) : ExitConfig :=
  layers.foldl applyLayer DEFAULT_EXIT_CONFIG

/-! ## Levels -/

inductive ExitSide where
  | buy | sell
  deriving DecidableEq

/-- `distance` away from `price`, below it for a long and above it for a short. -/
def ExitSide.below (side : ExitSide) (price distance : ℚ) : ℚ :=
  match side with
  | .buy => price - distance
  | .sell => price + distance

def ExitSide.above (side : ExitSide) (price distance : ℚ) : ℚ :=
  match side with
  | .buy => price + distance
  | .sell => price - distance

def calculateStopLossPrice (entryPrice : ℚ) (side : ExitSide) (config : ExitConfig)
    (currentAtr : Option ℚ) : ℚ :=
  match config.stopLossType with
  | .fixed => config.stopLossValue
  | .percentage => side.below entryPrice (entryPrice * (config.stopLossValue / 100))
  | .atr =>
    side.below entryPrice <| (Js.truthy? currentAtr).elim (entryPrice * (2 / 100))
      fun atr => atr * config.stopLossValue

def calculateTakeProfitPrice (entryPrice : ℚ) (side : ExitSide) (config : ExitConfig)
    (stopLossPrice : Option ℚ) : ℚ :=
  match config.takeProfitType with
  | .fixed => config.takeProfitValue
  | .percentage => side.above entryPrice (entryPrice * (config.takeProfitValue / 100))
  | .riskReward =>
    side.above entryPrice <| (Js.truthy? stopLossPrice).elim (entryPrice * (4 / 100))
      fun stop => |entryPrice - stop| * config.takeProfitValue

def trailingDistance (reference : ℚ) (config : ExitConfig) (atr : Option ℚ) : ℚ :=
  match config.trailingType with
  | .amount => config.trailingValue
  | .percentage => reference * (config.trailingValue / 100)
  | .atr => (Js.truthy? atr).elim (reference * (1 / 100)) fun atr => atr * config.trailingValue

def calculateTrailingStopPrice (entryPrice : ℚ) (side : ExitSide) (config : ExitConfig)
    (currentAtr : Option ℚ) : ℚ :=
  side.below entryPrice (trailingDistance entryPrice config currentAtr)

def calculateTrailingActivationPrice (entryPrice : ℚ) (side : ExitSide) (config : ExitConfig) : ℚ :=
  match config.trailingActivation with
  | .price => (Js.truthy? config.trailingActivationValue).getD entryPrice
  | .percentage =>
    side.above entryPrice
      (entryPrice * ((Js.truthy? config.trailingActivationValue).getD 1 / 100))
  | .immediate => entryPrice

end Chansey
