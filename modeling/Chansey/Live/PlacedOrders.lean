import Chansey.Live.AcceptedOnly
import Chansey.Live.Concentration
import Chansey.Live.OpportunitySelling
import Chansey.Live.PlacementRoutes

/-!
# The orders the live pipelines ask for

One turn of a strategy in live trading, and one of an algorithm activation: from the signals of the
algorithm to the order that is created on the exchange.

* `StrategyTurn.order`: one turn of a strategy. Its quantity comes from the signal or the capital.
* `ActivationTurn.order`: one turn of an activation. Its quantity comes from the portfolio.
-/

namespace Chansey

/-! ## What the exchange is asked for -/

/-- An order that is created on the exchange, and how much of it the answer says is filled. -/
structure AskedOrder where
  side : TradeSide
  positionSide : Option PositionSide
  quantity : ℚ
  filled : ℚ

structure AutoSize where
  portfolioValue : ℚ
  allocationPercentage : ℚ

/-- The quantity of a trade signal, none when it is refused. -/
def resolveQuantity (quantity : ℚ) (autoSize : Option AutoSize) (expectedPrice : ℚ) : Option ℚ :=
  match autoSize.filter fun a => 0 < a.portfolioValue ∧ 0 < a.allocationPercentage with
  | some a =>
    if expectedPrice ≤ 0 then none
    else (some (a.portfolioValue * a.allocationPercentage / 100 / expectedPrice)).filter (0 < ·)
  | none => (some quantity).filter (0 < ·)

/-- `executeTradeSignal` up to the answer of the exchange. -/
def tradeSignalOrder (futures : Bool) (quantity : ℚ) (autoSize : Option AutoSize)
    (answers : PlacementAnswers) : Option (ℚ × OrderReport) := do
  guard (answers.keyFound && answers.userFound && (!futures || answers.futuresEnabled))
  let limits ← answers.limits
  let expectedPrice ← answers.expectedPrice
  let quantity ← resolveQuantity quantity autoSize expectedPrice
  guard (validateAlgorithmicOrderSize quantity expectedPrice limits)
  guard answers.slippageAccepted
  let ccxtOrder ← answers.ccxtOrder
  return (quantity, ccxtOrder)

/-- `placeAlgorithmicOrder` up to the answer of the exchange. -/
def spotOrder (signal : AlgorithmicSignal) (answers : PlacementAnswers) : Option OrderReport := do
  guard answers.keyFound
  let limits ← answers.limits
  guard (validateAlgorithmicOrderSize signal.quantity signal.price limits)
  answers.ccxtOrder

/-- `placeOrder` up to the answer of the exchange. -/
def LivePlacement.asked (placement : LivePlacement) (answers : PlacementAnswers) :
    Option AskedOrder := do
  let exchangeKey ← answers.exchangeKey
  guard answers.cooldownAllowed
  if placement.isFutures then
    let signal ← placement.futuresSignal exchangeKey
    let (quantity, ccxtOrder) ← tradeSignalOrder true signal.quantity none answers
    return {
      side := signal.action
      positionSide := signal.positionSide
      quantity := quantity
      filled := ccxtOrder.filled.getD 0 }
  else
    let ccxtOrder ← spotOrder placement.spotSignal answers
    return {
      side := placement.spotSignal.action
      positionSide := none
      quantity := placement.spotSignal.quantity
      filled := ccxtOrder.filled.getD 0 }

section Asked

variable {placement : LivePlacement} {answers : PlacementAnswers} {asked : AskedOrder}

theorem resolveQuantity_pos {quantity resolved : ℚ} {autoSize : Option AutoSize} {expectedPrice : ℚ}
    (h : resolveQuantity quantity autoSize expectedPrice = some resolved) : 0 < resolved := by
  unfold resolveQuantity at h
  split at h
  · split at h
    · cases h
    · simpa using (Option.filter_eq_some_iff.mp h).2
  · simpa using (Option.filter_eq_some_iff.mp h).2

theorem resolveQuantity_none {quantity resolved expectedPrice : ℚ} :
    resolveQuantity quantity none expectedPrice = some resolved ↔
      resolved = quantity ∧ 0 < quantity := by
  unfold resolveQuantity
  rw [Option.filter_none]
  dsimp only
  rw [Option.filter_eq_some_iff]
  constructor
  · rintro ⟨heq, hpos⟩
    cases heq
    exact ⟨rfl, by simpa using hpos⟩
  · rintro ⟨rfl, hpos⟩
    exact ⟨rfl, by simpa using hpos⟩

theorem tradeSignalOrder_eq_some {futures : Bool} {quantity : ℚ} {autoSize : Option AutoSize}
    {order : ℚ × OrderReport} (h : tradeSignalOrder futures quantity autoSize answers = some order) :
    ∃ expectedPrice, answers.expectedPrice = some expectedPrice ∧
      resolveQuantity quantity autoSize expectedPrice = some order.1 := by
  simp only [tradeSignalOrder, Option.bind_eq_bind, Option.bind_eq_some_iff] at h
  obtain ⟨-, -, _, -, expectedPrice, hprice, _, hresolved, -, -, -, -, _, -, horder⟩ := h
  cases horder
  exact ⟨expectedPrice, hprice, hresolved⟩

theorem asked_spec (h : placement.asked answers = some asked) :
    asked.quantity = placement.signal.quantity ∧
      (placement.isFutures = true →
        mapLiveSignalToTradeAction placement.signal.action placement.marketType =
          some (asked.side, asked.positionSide)) ∧
      (placement.isFutures = false →
        asked.side = placement.spotSignal.action ∧ asked.positionSide = none) := by
  simp only [LivePlacement.asked, Option.bind_eq_bind, Option.bind_eq_some_iff] at h
  obtain ⟨_, -, -, -, h⟩ := h
  cases hfut : placement.isFutures with
  | true =>
    rw [hfut, if_pos rfl] at h
    simp only [Option.bind_eq_some_iff] at h
    obtain ⟨_, hsig, _, horder, hasked⟩ := h
    cases hasked
    obtain ⟨_, htrade, rfl⟩ := Option.map_eq_some_iff.mp hsig
    obtain ⟨_, -, hqty⟩ := tradeSignalOrder_eq_some horder
    exact ⟨(resolveQuantity_none.mp hqty).1, fun _ => htrade, fun hspot => by cases hspot⟩
  | false =>
    rw [hfut, if_neg Bool.false_ne_true] at h
    simp only [Option.bind_eq_some_iff] at h
    obtain ⟨_, -, hasked⟩ := h
    cases hasked
    exact ⟨rfl, fun hspot => (by cases hspot), fun _ => ⟨rfl, rfl⟩⟩

end Asked

/-! ## A turn of a strategy -/

def LiveAction.isEntry (action : LiveAction) : Bool := action = .buy ∨ action = .shortEntry

/-- An entry must not need more than the capital. -/
def validateSignal (signal : LiveTradingSignal) (availableCapital : ℚ) : Bool :=
  signal.action = .hold ∨
    (0 < signal.quantity ∧ 0 < signal.price ∧
      (signal.action.isEntry → signal.quantity * signal.price ≤ availableCapital))

structure StrategyTurn where
  userId : String
  cycle : StrategyCycle
  marketType : MarketType
  positions : List LivePosition
  dailyLossBlocked : Bool
  /-- The answers of the regime gate and of the drawdown gate. -/
  regimeAllows : LiveAction → Bool
  drawdownAllows : LiveAction → Bool
  assets : List AssetAllocation
  riskLevel : ℤ
  /-- There is enough cash for the entry, or enough was freed by sales. -/
  fundsReady : Bool
  answers : PlacementAnswers
  now : Instant

namespace StrategyTurn

def strategyPositions (turn : StrategyTurn) : List LivePosition :=
  turn.positions.filter (·.strategyConfigId = turn.cycle.strategyId)

def holdsLong (turn : StrategyTurn) (symbol : String) : Bool :=
  turn.strategyPositions.any fun p =>
    p.positionSide ≠ .short ∧ 0 < p.quantity ∧
      extractCoinIdFromSymbol p.symbol = extractCoinIdFromSymbol symbol

/-- The gates in front of a placement. Only entries are checked against positions, losses, the
concentration and the cash. -/
def gate (turn : StrategyTurn) (signal : LiveTradingSignal) : Option LiveTradingSignal :=
  if signal.action = .hold then none
  else if !validateSignal signal turn.cycle.availableCapital then none
  else if signal.action = .buy ∧ turn.holdsLong signal.symbol then none
  else if turn.dailyLossBlocked && signal.action.isEntry then none
  else if !turn.regimeAllows signal.action then none
  else if !turn.drawdownAllows signal.action then none
  else
    (concentrationGate turn.assets turn.riskLevel signal).filter
      fun signal => !signal.action.isEntry || turn.fundsReady

def gated (states : ThrottleStates) (turn : StrategyTurn) : Option LiveTradingSignal :=
  (executeStrategy states turn.cycle turn.now).1.bind turn.gate

def placement (turn : StrategyTurn) (signal : LiveTradingSignal) : LivePlacement where
  userId := turn.userId
  strategyConfigId := turn.cycle.strategyId
  marketType := turn.marketType
  signal := signal

def throttles (states : ThrottleStates) (turn : StrategyTurn) : ThrottleStates :=
  let after := (executeStrategy states turn.cycle turn.now).2
  ((turn.gated states).filter
    fun signal => (placeOrder (turn.placement signal) turn.answers).status = .placed).elim after
      fun signal => markThrottle after turn.cycle.strategyId signal turn.now

end StrategyTurn

/-! ## A turn of an activation -/

abbrev ActivationThrottles := OrdMap String ThrottleState

/-- What `generateTradeSignal` reads of an activation, its algorithm and the markets. -/
structure ActivationCycle where
  activationId : String
  userId : String
  config : Metadata
  allocationPercentage : Option ℚ
  /-- The algorithm has a strategy, and its context is valid. -/
  ready : Bool
  success : Bool
  signals : List LiveSignal
  exitConfig : Option PartialExitConfig
  resolveTradingSymbol : CoinId → Option String → Option String
  marketType : MarketType

structure GeneratedSignal extends ActivationSignal where
  marketType : MarketType
  exitConfig : Option PartialExitConfig
  coinId : CoinId
  originalType : AlgoSignalType

namespace TradeSignalGenerator

def MAX_THROTTLE_STATES : ℕ := 1000

/-- The ledger of an activation. When there are too many, the older half is dropped. -/
def getThrottleState (states : ActivationThrottles) (activationId : String) :
    ThrottleState × ActivationThrottles :=
  let kept :=
    if MAX_THROTTLE_STATES < states.size then
      let dropped := (states.keys.filter (· ≠ activationId)).take (states.size / 2)
      states.filter fun id _ => id ∉ dropped
    else states
  match kept.get? activationId with
  | some state => (state, kept)
  | none => ({}, kept.set activationId {})

def mapSignalToAction (signalType : AlgoSignalType) (marketType : MarketType) :
    Option (TradeSide × Option PositionSide) :=
  let long := if marketType = .futures then some PositionSide.long else none
  match signalType with
  | .shortEntry => some (.sell, some .short)
  | .shortExit => some (.buy, some .short)
  | .buy => some (.buy, long)
  | .sell => some (.sell, long)
  | .stopLoss | .takeProfit | .hold => none

def throttleActivation (states : ActivationThrottles) (cycle : ActivationCycle) (now : Instant) :
    List TradingSignal × ActivationThrottles :=
  if !cycle.ready || !cycle.success || (actionable cycle.signals).isEmpty then ([], states)
  else
    let (throttleState, accessed) := getThrottleState states cycle.activationId
    let (result, pruned) :=
      filterSignals ((actionable cycle.signals).map toThrottleSignal) throttleState
        (resolveThrottleConfig cycle.config) now
    (result.accepted, accessed.set cycle.activationId pruned)

def generateTradeSignal (states : ActivationThrottles) (cycle : ActivationCycle)
    (exchangeKey : Option SelectedKey) (now : Instant) : Option GeneratedSignal := do
  let bestSignal ← chooseSignal (actionable cycle.signals) (throttleActivation states cycle now).1
  let symbol ← cycle.resolveTradingSymbol bestSignal.coinId none
  let (action, positionSide) ← mapSignalToAction bestSignal.type cycle.marketType
  let exchangeKey ← exchangeKey
  return {
    symbol :=
      if exchangeKey.exchangeSlug = "" then symbol
      else (cycle.resolveTradingSymbol bestSignal.coinId exchangeKey.exchangeSlug).getD symbol
    action := action
    positionSide := positionSide
    allocationPercentage := (Js.truthy? cycle.allocationPercentage).getD 5
    marketType := cycle.marketType
    exitConfig := bestSignal.exitConfig.or cycle.exitConfig
    coinId := bestSignal.coinId
    originalType := bestSignal.type }

end TradeSignalGenerator

structure ActivationTurn where
  cycle : ActivationCycle
  user : UserPreflight
  answers : PlacementAnswers
  now : Instant

namespace ActivationTurn

open TradeSignalGenerator

def signal (states : ActivationThrottles) (turn : ActivationTurn) : Option GeneratedSignal :=
  if turn.user.portfolioValue ≤ 0 then none
  else generateTradeSignal states turn.cycle turn.answers.exchangeKey turn.now

def gated (states : ActivationThrottles) (turn : ActivationTurn) : Option GeneratedSignal :=
  (turn.signal states).bind fun signal =>
    (gateActivation turn.user signal.toActivationSignal turn.answers.cooldownAllowed).map
      fun gated => { signal with toActivationSignal := gated }

def autoSize (turn : ActivationTurn) (signal : GeneratedSignal) : AutoSize where
  portfolioValue := turn.user.portfolioValue
  allocationPercentage := signal.allocationPercentage

def asked (turn : ActivationTurn) (signal : GeneratedSignal) : Option AskedOrder :=
  (tradeSignalOrder (signal.marketType = .futures) 0 (turn.autoSize signal) turn.answers).map
    fun order =>
      { side := signal.action
        positionSide := signal.positionSide
        quantity := order.1
        filled := order.2.filled.getD 0 }

def throttles (states : ActivationThrottles) (turn : ActivationTurn) : ActivationThrottles :=
  if turn.user.portfolioValue ≤ 0 then states
  else
    let after := (throttleActivation states turn.cycle turn.now).2
    ((turn.gated states).filter fun signal =>
      (turn.asked signal).isSome && turn.answers.saved && turn.answers.transitionRecorded).elim after
        fun signal =>
          (after.get? turn.cycle.activationId).elim after fun state =>
            after.set turn.cycle.activationId
              (markExecutedFromAlgo state signal.originalType signal.coinId turn.now)

end ActivationTurn

end Chansey
