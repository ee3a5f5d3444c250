import Chansey.Executor.Sizing
import Chansey.Portfolio
import Chansey.Lib.Result

/-!
# The trade executor

`executeTrade` fills one signal against the portfolio: sizing, slippage and fill, the change of
cash, positions and margin, and the fee. It returns the trade and the portfolio after it.
-/

namespace Chansey

structure ExecuteTradeParams where
  signal : TradingSignal
  marketData : MarketData
  tradingFee : ℚ
  slippageConfig : SlippageConfig := DEFAULT_SLIPPAGE_CONFIG
  dailyVolume : Option ℚ := none
  minHoldMs : ℤ := getMinHoldMs DEFAULT_RISK_LEVEL
  maxAllocation : ℚ := (getAllocationLimits none none {}).maxAllocation
  minAllocation : ℚ := (getAllocationLimits none none {}).minAllocation
  defaultLeverage : ℚ := 1
  spreadContext : Option SpreadEstimationContext := none

structure ExecuteTradeResult where
  trade : BacktestTrade
  slippageBps : ℚ
  fillStatus : SimulatedOrderStatus
  requestedQuantity : Option ℚ := none
  deriving DecidableEq

structure ActionResult where
  quantity : ℚ
  totalValue : ℚ
  slippageBps : ℚ
  price : ℚ
  fillStatus : SimulatedOrderStatus
  requestedQuantity : Option ℚ
  realizedPnL : Option ℚ := none
  realizedPnLPercent : Option ℚ := none
  costBasis : Option ℚ := none
  holdTimeMs : Option ℤ := none
  positionSide : Option PositionSide := none
  leverage : Option ℚ := none
  liquidationPrice : Option ℚ := none
  marginUsed : Option ℚ := none

/-- An action gives no trade, a cancelled fill, or a result and the portfolio it leaves. -/
inductive ActionOutcome where
  | noTrade
  | cancelled (result : ExecuteTradeResult)
  | filled (result : ActionResult) (portfolio : Portfolio)

structure SlippageFillResult where
  slippageBps : ℚ
  price : ℚ
  quantity : ℚ
  fillStatus : SimulatedOrderStatus
  requestedQuantity : Option ℚ

inductive FillOutcome where
  | cancelled (result : ExecuteTradeResult)
  | filled (fill : SlippageFillResult)

def buildCancelledResult (price slippageBps requestedQuantity : ℚ) (reason : Option String) :
    ExecuteTradeResult where
  trade :=
    { quantity := 0
      price := price
      metadata := reason.elim (OrdMap.empty.set "volumeRejection" (.bool true))
        fun text => (OrdMap.empty.set "volumeRejection" (.bool true)).set "reason" (.str text) }
  slippageBps := slippageBps
  fillStatus := .cancelled
  requestedQuantity := some requestedQuantity

def validatePositionConflicts (signal : TradingSignal) (portfolio : Portfolio) : Bool :=
  match signal.action, portfolio.positions.get? signal.coinId with
  | .buy, some existing => ¬ 0 < existing.quantity
  | .openShort, some existing => existing.side = some .short ∨ ¬ 0 < existing.quantity
  | _, _ => true

/-! ## What a fill changes -/

section Booking

variable (portfolio : Portfolio) (coinId : CoinId) (existing : Position) (quantity price : ℚ)

/-- Spend cash and add to the coin's position, which is created when it is missing. -/
def bookBuy (timestamp : Instant) : Portfolio :=
  let existing := (portfolio.positions.get? coinId).getD
    { quantity := 0, averagePrice := 0, totalValue := 0 }
  let newQuantity := existing.quantity + quantity
  let averagePrice :=
    if existing.quantity ≠ 0 then
      (existing.averagePrice * existing.quantity + price * quantity) / newQuantity
    else price
  { portfolio with
    cashBalance := portfolio.cashBalance - quantity * price
    positions := portfolio.positions.set coinId
      { existing with
        averagePrice := averagePrice
        quantity := newQuantity
        totalValue := newQuantity * price
        entryDate := some (existing.entryDate.getD timestamp) } }

/-- Credit the proceeds and take the quantity off the position, whatever its side. -/
def bookSell : Portfolio :=
  let remaining := existing.quantity - quantity
  { portfolio with
    cashBalance := portfolio.cashBalance + quantity * price
    positions :=
      if remaining = 0 then portfolio.positions.erase coinId
      else portfolio.positions.set coinId
        { existing with quantity := remaining, totalValue := remaining * price } }

/-- Lock the margin. The new short replaces whatever entry the coin has. -/
def bookOpenShort (leverage : ℚ) (timestamp : Instant) : Portfolio :=
  let marginAmount := quantity * price / leverage
  { portfolio with
    cashBalance := portfolio.cashBalance - marginAmount
    positions := portfolio.positions.set coinId
      { quantity := quantity
        averagePrice := price
        totalValue := marginAmount
        side := some .short
        leverage := some leverage
        marginAmount := some marginAmount
        liquidationPrice := some (calculateShortLiquidationPrice price leverage)
        entryDate := some timestamp }
    totalMarginUsed := portfolio.totalMarginUsed + marginAmount }

/-- The share of the margin that comes back when `quantity` of a short is closed. -/
def returnedMargin : ℚ := existing.marginAmount.getD 0 * (quantity / existing.quantity)

/-- Return the margin of the closed part with its profit, capped at losing that margin. -/
def bookCloseShort : Portfolio :=
  let returned := returnedMargin existing quantity
  let pnl := calculateShortPnL price existing.averagePrice quantity returned
  let remaining := existing.quantity - quantity
  let remainingMargin := existing.marginAmount.getD 0 - returned
  { portfolio with
    cashBalance := portfolio.cashBalance + (returned + pnl.realizedPnL)
    positions :=
      if remaining ≤ 0 then portfolio.positions.erase coinId
      else portfolio.positions.set coinId
        { existing with
          quantity := remaining
          marginAmount := some remainingMargin
          totalValue := remainingMargin + (existing.averagePrice - price) * remaining }
    totalMarginUsed := max 0 (portfolio.totalMarginUsed - returned) }

variable (c : CoinId)

theorem bookBuy_get? (timestamp : Instant) :
    (bookBuy portfolio coinId quantity price timestamp).positions.get? c =
      if coinId = c then
        let e := (portfolio.positions.get? coinId).getD
          { quantity := 0, averagePrice := 0, totalValue := 0 }
        some
          { e with
            averagePrice :=
              if e.quantity ≠ 0 then
                (e.averagePrice * e.quantity + price * quantity) / (e.quantity + quantity)
              else price
            quantity := e.quantity + quantity
            totalValue := (e.quantity + quantity) * price
            entryDate := some (e.entryDate.getD timestamp) }
      else portfolio.positions.get? c := OrdMap.get?_set ..

theorem bookSell_get? :
    (bookSell portfolio coinId existing quantity price).positions.get? c =
      if coinId = c then
        if existing.quantity - quantity = 0 then none
        else some
          { existing with
            quantity := existing.quantity - quantity
            totalValue := (existing.quantity - quantity) * price }
      else portfolio.positions.get? c := by
  unfold bookSell
  dsimp only
  split_ifs <;> simp [*, OrdMap.get?_set, OrdMap.get?_erase]

theorem bookOpenShort_get? (leverage : ℚ) (timestamp : Instant) :
    (bookOpenShort portfolio coinId quantity price leverage timestamp).positions.get? c =
      if coinId = c then some
        { quantity := quantity
          averagePrice := price
          totalValue := quantity * price / leverage
          side := some .short
          leverage := some leverage
          marginAmount := some (quantity * price / leverage)
          liquidationPrice := some (calculateShortLiquidationPrice price leverage)
          entryDate := some timestamp }
      else portfolio.positions.get? c := OrdMap.get?_set ..

theorem bookCloseShort_get? :
    (bookCloseShort portfolio coinId existing quantity price).positions.get? c =
      if coinId = c then
        if existing.quantity - quantity ≤ 0 then none
        else some
          { existing with
            quantity := existing.quantity - quantity
            marginAmount :=
              some (existing.marginAmount.getD 0 - returnedMargin existing quantity)
            totalValue := existing.marginAmount.getD 0 - returnedMargin existing quantity +
              (existing.averagePrice - price) * (existing.quantity - quantity) }
      else portfolio.positions.get? c := by
  unfold bookCloseShort
  dsimp only
  split_ifs <;> simp [*, OrdMap.get?_set, OrdMap.get?_erase]

end Booking

/-! ## The four actions -/

def deploymentRatio (portfolio : Portfolio) : ℚ :=
  if 0 < portfolio.totalValue then
    (portfolio.totalValue - portfolio.cashBalance) / portfolio.totalValue
  else 0

section Actions

variable (math : Js.Math) (params : ExecuteTradeParams) (basePrice : ℚ)

/-- Slippage and volume-aware fill. A partial fill is capped at `quantityCap` when it is given. -/
def applySlippageAndFill (quantity : ℚ) (isBuy : Bool) (quantityCap : Option ℚ) :
    Except LoopError FillOutcome := do
  let slippage ← calculateSlippage math
    { price := basePrice, quantity := quantity, isBuy := isBuy,
      dailyVolume := params.dailyVolume, spreadContext := params.spreadContext }
    params.slippageConfig
  let price := slippage.executionPrice
  let assessment := assessFillability (quantity * price) price params.dailyVolume
    params.slippageConfig
  match assessment.fillStatus with
  | .cancelled =>
    return .cancelled (buildCancelledResult price slippage.slippageBps quantity assessment.reason)
  | .partialFill =>
    let filledQuantity := (Js.truthy? quantityCap).elim assessment.fillableQuantity
      fun cap => min assessment.fillableQuantity cap
    return .filled ⟨slippage.slippageBps, price, filledQuantity, .partialFill, some quantity⟩
  | .filled => return .filled ⟨slippage.slippageBps, price, quantity, .filled, none⟩

def executeBuy (portfolio : Portfolio) : Except LoopError ActionOutcome := do
  let signal := params.signal
  -- cash is reserved for later signals once enough of the portfolio is deployed
  if MAX_PORTFOLIO_DEPLOYMENT ≤ deploymentRatio portfolio then return .noTrade
  let sized := calculateBuyQuantity signal portfolio.totalValue basePrice params.maxAllocation
    params.minAllocation
  match ← applySlippageAndFill math params basePrice sized.quantity true none with
  | .cancelled result => return .cancelled result
  | .filled fill =>
    let totalValue := fill.quantity * fill.price
    let estimatedFee ← flatFee totalValue params.tradingFee
    if portfolio.cashBalance < totalValue + estimatedFee then return .noTrade
    return .filled
      { quantity := fill.quantity, totalValue := totalValue, slippageBps := fill.slippageBps,
        price := fill.price, fillStatus := fill.fillStatus,
        requestedQuantity := fill.requestedQuantity }
      (bookBuy portfolio signal.coinId fill.quantity fill.price params.marketData.timestamp)

/-- The side of the position is not looked at. -/
def executeSell (portfolio : Portfolio) : Except LoopError ActionOutcome := do
  let signal := params.signal
  match portfolio.positions.get? signal.coinId with
  | none => return .noTrade
  | some existing =>
    if existing.quantity = 0 then return .noTrade
    let holdTimeMs := existing.entryDate.map (params.marketData.timestamp - ·)
    if ¬ isRiskControlSignal signal ∧ 0 < params.minHoldMs ∧
        holdTimeMs.any (· < params.minHoldMs) then
      return .noTrade
    let costBasis := existing.averagePrice
    let sized := calculateSellQuantity signal existing.quantity
    match ← applySlippageAndFill math params basePrice sized.quantity false
        (some existing.quantity) with
    | .cancelled result => return .cancelled result
    | .filled fill =>
      let totalValue := fill.quantity * fill.price
      let pnl := calculateLongPnL fill.price costBasis fill.quantity
      return .filled
        { quantity := fill.quantity, totalValue := totalValue, slippageBps := fill.slippageBps,
          price := fill.price, fillStatus := fill.fillStatus,
          requestedQuantity := fill.requestedQuantity, realizedPnL := some pnl.realizedPnL,
          realizedPnLPercent := some pnl.realizedPnLPercent, costBasis := some costBasis,
          holdTimeMs := holdTimeMs }
        (bookSell portfolio signal.coinId existing fill.quantity fill.price)

def executeOpenShort (portfolio : Portfolio) : Except LoopError ActionOutcome := do
  let signal := params.signal
  let sized := calculateBuyQuantity signal portfolio.totalValue basePrice params.maxAllocation
    params.minAllocation
  match ← applySlippageAndFill math params basePrice sized.quantity false none with
  | .cancelled result => return .cancelled result
  | .filled fill =>
    let estimatedFee ← flatFee (fill.quantity * fill.price) params.tradingFee
    match resolveShortLeverage signal params.defaultLeverage with
    | none => throw .notANumber
    | some leverage =>
      let marginAmount := fill.quantity * fill.price / leverage
      if portfolio.cashBalance < marginAmount + estimatedFee then return .noTrade
      return .filled
        { quantity := fill.quantity, totalValue := marginAmount, slippageBps := fill.slippageBps,
          price := fill.price, fillStatus := fill.fillStatus,
          requestedQuantity := fill.requestedQuantity, positionSide := some .short,
          leverage := some leverage,
          liquidationPrice := some (calculateShortLiquidationPrice fill.price leverage),
          marginUsed := some marginAmount }
        (bookOpenShort portfolio signal.coinId fill.quantity fill.price leverage
          params.marketData.timestamp)

def executeCloseShort (portfolio : Portfolio) : Except LoopError ActionOutcome := do
  let signal := params.signal
  match portfolio.positions.get? signal.coinId with
  | none => return .noTrade
  | some existing =>
    if existing.side ≠ some .short ∨ existing.quantity = 0 then return .noTrade
    let costBasis := existing.averagePrice
    let sized := calculateSellQuantity signal existing.quantity
    match ← applySlippageAndFill math params basePrice sized.quantity true
        (some existing.quantity) with
    | .cancelled result => return .cancelled result
    | .filled fill =>
      let returned := returnedMargin existing fill.quantity
      let pnl := calculateShortPnL fill.price costBasis fill.quantity returned
      return .filled
        { quantity := fill.quantity, totalValue := returned, slippageBps := fill.slippageBps,
          price := fill.price, fillStatus := fill.fillStatus,
          requestedQuantity := fill.requestedQuantity, realizedPnL := some pnl.realizedPnL,
          realizedPnLPercent := some pnl.realizedPnLPercent, costBasis := some costBasis,
          positionSide := some .short, leverage := existing.leverage,
          liquidationPrice := existing.liquidationPrice, marginUsed := some returned }
        (bookCloseShort portfolio signal.coinId existing fill.quantity fill.price)

def executeAction (portfolio : Portfolio) : Except LoopError ActionOutcome :=
  match params.signal.action with
  | .hold => .ok .noTrade
  | .buy => executeBuy math params basePrice portfolio
  | .sell => executeSell math params basePrice portfolio
  | .openShort => executeOpenShort math params basePrice portfolio
  | .closeShort => executeCloseShort math params basePrice portfolio

end Actions

def feeBaseValue (action : Action) (result : ActionResult) : ℚ :=
  match action with
  | .openShort | .closeShort => result.quantity * result.price
  | _ => result.totalValue

def tradeMetadata (signal : TradingSignal) (basePrice : ℚ) (result : ActionResult) : Metadata :=
  let base := (((signal.metadata.set "reason" (.str signal.reason)).set "confidence"
    (.num (signal.confidence.getD 0))).set "basePrice" (.num basePrice)).set "slippageBps"
    (.num result.slippageBps)
  let held := result.holdTimeMs.elim base fun ms => base.set "holdTimeMs" (.num ms)
  if result.fillStatus = .partialFill then
    result.requestedQuantity.elim (held.set "fillStatus" (.str "PARTIAL")) fun quantity =>
      (held.set "fillStatus" (.str "PARTIAL")).set "requestedQuantity" (.num quantity)
  else held

def tradeRow (signal : TradingSignal) (basePrice fee : ℚ) (result : ActionResult) :
    BacktestTrade where
  type := some (inferTradeType signal.action)
  quantity := result.quantity
  price := result.price
  totalValue := some result.totalValue
  fee := some fee
  realizedPnL := result.realizedPnL
  realizedPnLPercent := result.realizedPnLPercent
  costBasis := result.costBasis
  positionSide := result.positionSide
  leverage := result.leverage
  liquidationPrice := result.liquidationPrice
  marginUsed := result.marginUsed
  metadata := tradeMetadata signal basePrice result

def settleFee (portfolio : Portfolio) (fee : ℚ) (prices : OrdMap CoinId ℚ) : Portfolio :=
  { portfolio with
    cashBalance := portfolio.cashBalance - fee
    totalValue := portfolio.cashBalance - fee + calculatePositionsValue portfolio.positions prices }

/-- The result is `none` where the source returns `null`. -/
def executeTrade (math : Js.Math) (params : ExecuteTradeParams) (portfolio : Portfolio) :
    Except LoopError (Option ExecuteTradeResult × Portfolio) := do
  let signal := params.signal
  match Js.truthy? (params.marketData.prices.get? signal.coinId) with
  | none => return (none, portfolio)
  | some marketPrice =>
    if signal.action = .hold then return (none, portfolio)
    if ¬ validatePositionConflicts signal portfolio then return (none, portfolio)
    let basePrice := resolveBasePrice signal marketPrice
    match ← executeAction math params basePrice portfolio with
    | .noTrade => return (none, portfolio)
    | .cancelled result => return (some result, portfolio)
    | .filled result after =>
      let fee ← flatFee (feeBaseValue signal.action result) params.tradingFee
      return (some
        { trade := tradeRow signal basePrice fee result
          slippageBps := result.slippageBps
          fillStatus := result.fillStatus
          requestedQuantity := result.requestedQuantity },
        settleFee after fee params.marketData.prices)

end Chansey
