import Chansey.Loop.Regime
import Chansey.Live.PositionTracking
import Chansey.Live.StrategyExecutor

/-!
# The concentration gate

An entry is refused, or reduced, when it would make one asset too large a part of the user's
portfolio. All entries of a cycle are checked against the allocations its balances gave.
-/

namespace Chansey

/-! ## Allocations -/

structure AssetAllocation where
  symbol : String
  usdValue : ℚ

def STABLECOIN_SYMBOLS : List String :=
  ["USDT", "USDC", "DAI", "BUSD", "USD", "TUSD", "USDP", "FDUSD", "PYUSD"]

def isStablecoin (symbol : String) : Bool := symbol.toUpper ∈ STABLECOIN_SYMBOLS

def extractBaseSymbol (symbol : String) : String :=
  String.ofList ((symbol.toList.takeWhile (· ≠ '/')).map Char.toUpper)

def aggregateByBaseSymbol (assets : List AssetAllocation) : OrdMap String ℚ :=
  assets.foldl
    (fun aggregated asset =>
      aggregated.set (extractBaseSymbol asset.symbol)
        ((aggregated.get? (extractBaseSymbol asset.symbol)).getD 0 + asset.usdValue))
    OrdMap.empty

def totalAssetValue (assets : List AssetAllocation) : ℚ := (assets.map (·.usdValue)).sum

/-! ## The check -/

def resolveLimits (riskLevel : ℤ) (overrideLimit : Option ℚ) : ConcentrationLimits :=
  match overrideLimit.filter (0 < ·) with
  | some limit =>
    let clamped := min (max limit (1 / 10)) (8 / 10)
    ⟨clamped, max 0 (clamped - 5 / 100)⟩
  | none => CONCENTRATION_LIMITS riskLevel

inductive ConcentrationReason where
  | atHardLimit (symbol : String) (concentration hard : ℚ)
  | noRoom (symbol : String) (hard : ℚ)
  | reduced (symbol : String) (adjustedQuantity hard : ℚ)
  | softWarning (symbol : String) (concentration soft : ℚ)

structure ConcentrationGateResult where
  allowed : Bool
  adjustedQuantity : Option ℚ := none
  reason : Option ConcentrationReason := none

def calculateMaxAdditionalUsd (assets : List AssetAllocation) (targetSymbol : String)
    (riskLevel : ℤ) (overrideLimit : Option ℚ) : ℚ :=
  let totalValue := totalAssetValue assets
  if totalValue ≤ 0 then 0
  else
    let hard := (resolveLimits riskLevel overrideLimit).hard
    let currentValue :=
      ((aggregateByBaseSymbol assets).get? (extractBaseSymbol targetSymbol)).getD 0
    let numerator := hard * totalValue - currentValue
    let denominator := 1 - hard
    if denominator ≤ 0 then 0 else max 0 (numerator / denominator)

def checkTradeAllowed (assets : List AssetAllocation) (tradeSymbol : String) (tradeUsdValue : ℚ)
    (riskLevel : ℤ) (action : LiveAction) (overrideLimit : Option ℚ) : ConcentrationGateResult :=
  let baseSymbol := extractBaseSymbol tradeSymbol
  let totalValue := totalAssetValue assets
  let limits := resolveLimits riskLevel overrideLimit
  let currentValue := ((aggregateByBaseSymbol assets).get? baseSymbol).getD 0
  let currentConcentration := currentValue / totalValue
  let postTradeTotal := totalValue + tradeUsdValue
  let postTradeConcentration := (currentValue + tradeUsdValue) / postTradeTotal
  if action = .sell ∨ action = .shortExit then { allowed := true }
  else if isStablecoin baseSymbol then { allowed := true }
  else if totalValue ≤ 0 then { allowed := true }
  else if limits.hard ≤ currentConcentration then
    { allowed := false, reason := some (.atHardLimit baseSymbol currentConcentration limits.hard) }
  else if limits.hard < postTradeConcentration then
    let maxAdditionalUsd := calculateMaxAdditionalUsd assets baseSymbol riskLevel overrideLimit
    if maxAdditionalUsd ≤ 0 then
      { allowed := false, reason := some (.noRoom baseSymbol limits.hard) }
    else
      let adjustedQuantity := maxAdditionalUsd / tradeUsdValue
      { allowed := true
        adjustedQuantity := some (min adjustedQuantity 1)
        reason := some (.reduced baseSymbol adjustedQuantity limits.hard) }
  else if limits.soft < postTradeConcentration then
    { allowed := true
      reason := some (.softWarning baseSymbol postTradeConcentration limits.soft) }
  else { allowed := true }

/-- The part of a trade that an answer lets through, none when it is refused. -/
def ConcentrationGateResult.part (result : ConcentrationGateResult) : Option ℚ :=
  if result.allowed then some ((result.adjustedQuantity.filter (· < 1)).getD 1) else none

/-! ## Live trading -/

def concentrationGate (assets : List AssetAllocation) (riskLevel : ℤ)
    (signal : LiveTradingSignal) : Option LiveTradingSignal :=
  if signal.action = .buy ∨ signal.action = .shortEntry then
    let tradeUsdValue := signal.quantity * signal.price
    (checkTradeAllowed assets signal.symbol tradeUsdValue riskLevel signal.action none).part.map
      fun part => { signal with quantity := signal.quantity * part }
  else some signal

/-- The signals of a cycle that the gate lets through. Where positions are sold for an entry the
allocations are built anew, and the cycle goes on with those. -/
def gatedSignals (assets : List AssetAllocation) (riskLevel : ℤ)
    (signals : List LiveTradingSignal) : List LiveTradingSignal :=
  signals.filterMap (concentrationGate assets riskLevel)

/-! ## Algorithm activations -/

inductive SignalReasonCode where
  | dailyLossLimit | existingHolding | concentrationLimit | tradeCooldown

structure EntryGateContext where
  symbol : String
  action : TradeSide
  positionSide : Option PositionSide
  portfolioValue : ℚ
  allocationPercentage : ℚ
  riskLevel : ℤ
  assets : List AssetAllocation
  isDailyLossBlocked : Bool

structure EntryGateResult where
  allowed : Bool
  reasonCode : Option SignalReasonCode := none
  adjustedQuantity : Option ℚ := none

def TradeSide.toAction : TradeSide → LiveAction
  | .buy => .buy
  | .sell => .sell

def EntryGateContext.IsEntry (ctx : EntryGateContext) : Prop :=
  (ctx.action = .buy ∧ ctx.positionSide ≠ some .short) ∨
    (ctx.action = .sell ∧ ctx.positionSide = some .short)

instance (ctx : EntryGateContext) : Decidable ctx.IsEntry :=
  inferInstanceAs (Decidable (_ ∨ _))

def EntryGateContext.existingHolding (ctx : EntryGateContext) : Option AssetAllocation :=
  ctx.assets.find? fun a =>
    a.symbol.toUpper = (String.ofList (ctx.symbol.toList.takeWhile (· ≠ '/'))).toUpper ∧
      1 < a.usdValue

def EntryGateContext.estimatedTradeUsd (ctx : EntryGateContext) : ℚ :=
  ctx.portfolioValue * (ctx.allocationPercentage / 100)

/-- The action is passed as the exchange knows it, so a short entry is passed as a sale. -/
def EntryGateContext.concCheck (ctx : EntryGateContext) : ConcentrationGateResult :=
  checkTradeAllowed ctx.assets ctx.symbol ctx.estimatedTradeUsd ctx.riskLevel ctx.action.toAction none

def checkCooldown (cooldownAllowed : Bool) : EntryGateResult :=
  if cooldownAllowed then { allowed := true }
  else { allowed := false, reasonCode := some .tradeCooldown }

/-- Daily loss, existing holding, concentration, cooldown. Exits meet the cooldown only. -/
def checkEntryGates (ctx : EntryGateContext) (cooldownAllowed : Bool) : EntryGateResult :=
  if ctx.IsEntry then
    if ctx.isDailyLossBlocked then { allowed := false, reasonCode := some .dailyLossLimit }
    else if ctx.action = .buy ∧ ctx.existingHolding.isSome then
      { allowed := false, reasonCode := some .existingHolding }
    else if ctx.concCheck.allowed = false then
      { allowed := false, reasonCode := some .concentrationLimit }
    else
      match ctx.concCheck.adjustedQuantity.filter (· < 1) with
      | some adjustedQuantity =>
        if (checkCooldown cooldownAllowed).allowed then
          { allowed := true, adjustedQuantity := some adjustedQuantity }
        else checkCooldown cooldownAllowed
      | none => checkCooldown cooldownAllowed
  else checkCooldown cooldownAllowed

/-- What is gathered once for all activations of a user. -/
structure UserPreflight where
  portfolioValue : ℚ
  assets : List AssetAllocation
  riskLevel : ℤ
  isDailyLossBlocked : Bool

/-- The signal of an activation. It is sized as a part of the portfolio. -/
structure ActivationSignal where
  symbol : String
  action : TradeSide
  positionSide : Option PositionSide
  allocationPercentage : ℚ

def UserPreflight.context (user : UserPreflight) (signal : ActivationSignal) : EntryGateContext where
  symbol := signal.symbol
  action := signal.action
  positionSide := signal.positionSide
  portfolioValue := user.portfolioValue
  allocationPercentage := signal.allocationPercentage
  riskLevel := user.riskLevel
  assets := user.assets
  isDailyLossBlocked := user.isDailyLossBlocked

def gateActivation (user : UserPreflight) (signal : ActivationSignal) (cooldownAllowed : Bool) :
    Option ActivationSignal :=
  let gateResult := checkEntryGates (user.context signal) cooldownAllowed
  if gateResult.allowed then
    some { signal with
      allocationPercentage := signal.allocationPercentage *
        (gateResult.adjustedQuantity.filter (· < 1)).getD 1 }
  else none

def tradeSizeUsd (user : UserPreflight) (signal : ActivationSignal) : ℚ :=
  user.portfolioValue * signal.allocationPercentage / 100

/-- The signals of a cycle that are executed, each with the answer of the cooldown. -/
def gatedActivations (user : UserPreflight) (signals : List (ActivationSignal × Bool)) :
    List ActivationSignal :=
  signals.filterMap fun s => gateActivation user s.1 s.2

end Chansey
