import Chansey.Live.OrderRows

/-!
# The two routes of a live signal

A spot signal is placed by the order service, a futures signal by the trade execution. The two build
their rows separately, and only the second one attaches exits.
-/

namespace Chansey

/-! ## What the calls answer -/

structure SelectedKey where
  id : String
  exchangeSlug : String

structure MarketLimits where
  amountMin : Option ℚ := none
  amountMax : Option ℚ := none
  costMin : Option ℚ := none

structure PlacementAnswers where
  exchangeKey : Option SelectedKey
  cooldownAllowed : Bool
  keyFound : Bool
  userFound : Bool
  futuresEnabled : Bool
  limits : Option MarketLimits
  expectedPrice : Option ℚ
  slippageAccepted : Bool
  ccxtOrder : Option OrderReport
  saved : Bool
  transitionRecorded : Bool
  positionUpdated : Bool
  id : OrderId
  now : Instant

structure LivePlacement where
  userId : String
  strategyConfigId : String
  marketType : MarketType
  signal : LiveTradingSignal

def validateAlgorithmicOrderSize (quantity price : ℚ) (limits : MarketLimits) : Bool :=
  (Js.truthy? limits.amountMin).all (· ≤ quantity) &&
    (Js.truthy? limits.amountMax).all (quantity ≤ ·) &&
    (Js.truthy? limits.costMin).all (· ≤ quantity * price)

/-! ## The spot route -/

def LivePlacement.spotSignal (placement : LivePlacement) : AlgorithmicSignal where
  action := if placement.signal.action = .buy then .buy else .sell
  symbol := placement.signal.symbol
  quantity := placement.signal.quantity
  price := placement.signal.price

/-- The row that is stored, none when an earlier call fails. -/
def placeAlgorithmicOrder (userId strategyConfigId : String) (signal : AlgorithmicSignal)
    (exchangeKey : SelectedKey) (answers : PlacementAnswers) : Option StoredOrder := do
  guard answers.keyFound
  let limits ← answers.limits
  guard (validateAlgorithmicOrderSize signal.quantity signal.price limits)
  let ccxtOrder ← answers.ccxtOrder
  guard answers.saved
  return algorithmicOrder userId strategyConfigId signal exchangeKey.id exchangeKey.exchangeSlug
    ccxtOrder answers.id answers.now

/-! ## The futures route -/

structure FuturesSignal where
  algorithmActivationId : Option String
  userId : String
  exchangeKey : SelectedKey
  action : TradeSide
  symbol : String
  quantity : ℚ
  positionSide : Option PositionSide
  exitConfig : Option PartialExitConfig

def mapLiveSignalToTradeAction (action : LiveAction) (marketType : MarketType) :
    Option (TradeSide × Option PositionSide) :=
  match action with
  | .shortEntry => some (.sell, some .short)
  | .shortExit => some (.buy, some .short)
  | .buy => some (.buy, if marketType = .futures then some .long else none)
  | .sell => some (.sell, if marketType = .futures then some .long else none)
  | .hold => none

def PartialExitConfig.enablesExit (config : PartialExitConfig) : Bool :=
  config.enableStopLoss.getD false || config.enableTakeProfit.getD false ||
    config.enableTrailingStop.getD false

structure ExitAttachment where
  entry : StoredOrder
  exitConfig : PartialExitConfig

structure ExecutedSignal where
  order : Option StoredOrder := none
  attachments : List ExitAttachment := []
  returned : Bool := false

def tryAttachExitOrders (order : StoredOrder) (exitConfig : Option PartialExitConfig) :
    List ExitAttachment :=
  ((exitConfig.filter (·.enablesExit)).map fun config => ⟨order, config⟩).toList

/-- The row that `executeTradeSignal` stores, none when an earlier call fails. -/
def executedOrder (signal : FuturesSignal) (answers : PlacementAnswers) : Option StoredOrder := do
  guard (answers.keyFound && answers.userFound && answers.futuresEnabled)
  let limits ← answers.limits
  let expectedPrice ← answers.expectedPrice
  guard (0 < signal.quantity)
  guard (validateAlgorithmicOrderSize signal.quantity expectedPrice limits)
  guard answers.slippageAccepted
  let ccxtOrder ← answers.ccxtOrder
  guard answers.saved
  return convertCcxtOrderToEntity ccxtOrder signal.userId signal.exchangeKey.exchangeSlug
    signal.algorithmActivationId (some signal.positionSide) answers.id answers.now

def executeTradeSignal (signal : FuturesSignal) (answers : PlacementAnswers) : ExecutedSignal :=
  match executedOrder signal answers with
  | none => {}
  | some order =>
    if answers.transitionRecorded then
      { order := some order
        attachments := tryAttachExitOrders order signal.exitConfig
        returned := true }
    else { order := some order }

/-! ## The choice -/

inductive PlaceOrderStatus where
  | placed | blocked | failed
  deriving DecidableEq

structure PlaceOrderResult where
  status : PlaceOrderStatus
  order : Option StoredOrder := none
  attachments : List ExitAttachment := []

def LivePlacement.isFutures (placement : LivePlacement) : Bool :=
  placement.signal.action = .shortEntry ∨ placement.signal.action = .shortExit ∨
    placement.marketType = .futures

def LivePlacement.futuresSignal (placement : LivePlacement) (exchangeKey : SelectedKey) :
    Option FuturesSignal :=
  (mapLiveSignalToTradeAction placement.signal.action placement.marketType).map fun trade =>
    { algorithmActivationId := some placement.strategyConfigId
      userId := placement.userId
      exchangeKey := exchangeKey
      action := trade.1
      symbol := placement.signal.symbol
      quantity := placement.signal.quantity
      positionSide := trade.2
      exitConfig := placement.signal.exitConfig }

def LivePlacement.finish (executed : ExecutedSignal) (answers : PlacementAnswers) :
    PlaceOrderResult where
  status := if executed.returned && answers.positionUpdated then .placed else .failed
  order := executed.order
  attachments := executed.attachments

def LivePlacement.execute (placement : LivePlacement) (exchangeKey : SelectedKey)
    (answers : PlacementAnswers) : ExecutedSignal :=
  if placement.isFutures then
    ((placement.futuresSignal exchangeKey).map (executeTradeSignal · answers)).getD {}
  else
    let order := placeAlgorithmicOrder placement.userId placement.strategyConfigId
      placement.spotSignal exchangeKey answers
    { order := order, returned := order.isSome }

def placeOrder (placement : LivePlacement) (answers : PlacementAnswers) : PlaceOrderResult :=
  match answers.exchangeKey with
  | none => { status := .blocked }
  | some exchangeKey =>
    if answers.cooldownAllowed then
      LivePlacement.finish (placement.execute exchangeKey answers) answers
    else { status := .blocked }

/-! ## What a placed order is owed -/

def LivePlacement.enablesExit (placement : LivePlacement) : Bool :=
  placement.signal.exitConfig.any (·.enablesExit)

/-- The row is the strategy's, is marked as algorithmic and names its key, and exits are attached to
it through that key where the signal enables one. -/
def Agrees (placement : LivePlacement) (answers : PlacementAnswers) : Prop :=
  ∀ order, (placeOrder placement answers).order = some order →
    order.strategyConfigId = some placement.strategyConfigId ∧ order.isAlgorithmicTrade = true ∧
      order.exchangeKeyId = answers.exchangeKey.map (·.id) ∧
      (placement.enablesExit = true →
        ∃ attachment ∈ (placeOrder placement answers).attachments, attachment.entry = order)

/-! ## Which signals agree -/

section Routes

variable {placement : LivePlacement} {answers : PlacementAnswers}

variable {exchangeKey : SelectedKey} {order : StoredOrder} {signal : FuturesSignal}

theorem placeAlgorithmicOrder_row {userId strategyConfigId : String} {signal : AlgorithmicSignal}
    (h : placeAlgorithmicOrder userId strategyConfigId signal exchangeKey answers = some order) :
    order.strategyConfigId = some strategyConfigId ∧ order.isAlgorithmicTrade = true ∧
      order.exchangeKeyId = some exchangeKey.id := by
  simp only [placeAlgorithmicOrder, Option.bind_eq_bind, Option.bind_eq_some_iff] at h
  obtain ⟨-, -, _, -, -, -, _, -, -, -, hrow⟩ := h
  cases hrow
  exact ⟨rfl, rfl, rfl⟩

theorem executedOrder_row (h : executedOrder signal answers = some order) :
    order.strategyConfigId = none ∧ 0 < signal.quantity := by
  simp only [executedOrder, Option.bind_eq_bind, Option.bind_eq_some_iff,
    Option.guard_eq_some'] at h
  obtain ⟨-, -, _, -, _, -, -, hpos, -, -, -, -, _, -, -, -, hrow⟩ := h
  cases hrow
  exact ⟨rfl, hpos⟩

theorem executeTradeSignal_order (signal : FuturesSignal) (answers : PlacementAnswers) :
    (executeTradeSignal signal answers).order = executedOrder signal answers := by
  unfold executeTradeSignal
  cases executedOrder signal answers with
  | none => rfl
  | some =>
    dsimp only
    split <;> rfl

theorem placeOrder_order (placement : LivePlacement) (answers : PlacementAnswers) :
    (placeOrder placement answers).order = some order ↔
      ∃ exchangeKey, answers.exchangeKey = some exchangeKey ∧ answers.cooldownAllowed = true ∧
        (placement.execute exchangeKey answers).order = some order := by
  unfold placeOrder
  cases answers.exchangeKey with
  | none => simp
  | some =>
    dsimp only
    split
    · rename_i hcooldown
      simp [hcooldown, LivePlacement.finish]
    · rename_i hcooldown
      simp [hcooldown]

theorem placeOrder_attachments_spot (hspot : placement.isFutures = false) :
    (placeOrder placement answers).attachments = [] := by
  unfold placeOrder
  cases answers.exchangeKey with
  | none => rfl
  | some =>
    dsimp only
    split
    · rw [LivePlacement.finish, LivePlacement.execute, hspot]
      rfl
    · rfl

theorem execute_spot (hspot : placement.isFutures = false) (exchangeKey : SelectedKey) :
    (placement.execute exchangeKey answers).order =
      placeAlgorithmicOrder placement.userId placement.strategyConfigId placement.spotSignal
        exchangeKey answers := by
  rw [LivePlacement.execute, hspot]
  rfl

theorem futuresSignal_of_action (hact : placement.signal.action ≠ .hold)
    (exchangeKey : SelectedKey) :
    ∃ signal, placement.futuresSignal exchangeKey = some signal ∧
      signal.quantity = placement.signal.quantity := by
  unfold LivePlacement.futuresSignal mapLiveSignalToTradeAction
  cases h : placement.signal.action with
  | hold => exact absurd h hact
  | _ => exact ⟨_, rfl, rfl⟩

theorem execute_futures (hfut : placement.isFutures = true)
    (hsig : placement.futuresSignal exchangeKey = some signal) :
    (placement.execute exchangeKey answers).order = executedOrder signal answers := by
  rw [LivePlacement.execute, if_pos hfut, hsig]
  exact executeTradeSignal_order signal answers

end Routes

/-- Every call goes through. -/
def goodAnswers (report : OrderReport) : PlacementAnswers where
  exchangeKey := some ⟨"key", "kraken"⟩
  cooldownAllowed := true
  keyFound := true
  userFound := true
  futuresEnabled := true
  limits := some {}
  expectedPrice := some 1
  slippageAccepted := true
  ccxtOrder := some report
  saved := true
  transitionRecorded := true
  positionUpdated := true
  id := "1"
  now := 0

def anyReport : OrderReport where
  id := "1"
  timestamp := 1
  symbol := "BTC/USDT"
  side := none

theorem executedOrder_good {signal : FuturesSignal} (hpos : 0 < signal.quantity) :
    ∃ order, executedOrder signal (goodAnswers anyReport) = some order := by
  unfold executedOrder goodAnswers
  simp [validateAlgorithmicOrderSize, hpos, Js.truthy?_none, guard]

/-- **Which signals get what they are owed**: spot signals without an exit. -/
theorem routes_agree_iff (placement : LivePlacement) (haction : placement.signal.action ≠ .hold) :
    (∀ answers, Agrees placement answers) ↔
      (placement.isFutures = false ∧ placement.enablesExit = false) ∨
        (placement.isFutures = true ∧ placement.signal.quantity ≤ 0) := by
  constructor
  · intro hagrees
    have hgood := hagrees (goodAnswers anyReport)
    cases hfutures : placement.isFutures with
    | false =>
      refine .inl ⟨rfl, Bool.eq_false_iff.mpr fun hexit => ?_⟩
      obtain ⟨_, hattached, -⟩ := (hgood _ ((placeOrder_order _ _).mpr
        ⟨_, rfl, rfl, by rw [execute_spot hfutures]; rfl⟩)).2.2.2 hexit
      rw [placeOrder_attachments_spot hfutures] at hattached
      cases hattached
    | true =>
      refine .inr ⟨rfl, not_lt.mp fun hpos => ?_⟩
      obtain ⟨_, hsignal, hquantity⟩ := futuresSignal_of_action haction ⟨"key", "kraken"⟩
      obtain ⟨order, horder⟩ := executedOrder_good (hquantity ▸ hpos)
      have hstrategy := (hgood order ((placeOrder_order _ _).mpr
        ⟨_, rfl, rfl, by rw [execute_futures hfutures hsignal, horder]⟩)).1
      rw [(executedOrder_row horder).1] at hstrategy
      cases hstrategy
  · rintro (⟨hspot, hexit⟩ | ⟨hfutures, hzero⟩) answers order horder
    · obtain ⟨_, hkey, -, hplaced⟩ := (placeOrder_order _ _).mp horder
      rw [execute_spot hspot] at hplaced
      obtain ⟨hstrategy, hmarked, hrow⟩ := placeAlgorithmicOrder_row hplaced
      rw [hkey, Option.map_some]
      refine ⟨hstrategy, hmarked, hrow, fun h => ?_⟩
      rw [hexit] at h
      cases h
    · obtain ⟨exchangeKey, -, -, hplaced⟩ := (placeOrder_order _ _).mp horder
      obtain ⟨_, hsignal, hquantity⟩ := futuresSignal_of_action haction exchangeKey
      rw [execute_futures hfutures hsignal] at hplaced
      exact absurd hzero (not_le.mpr (hquantity ▸ (executedOrder_row hplaced).2))

def bitcoinPlacement (action : LiveAction) (exitConfig : Option PartialExitConfig) :
    LivePlacement where
  userId := "alice"
  strategyConfigId := "trend"
  marketType := .spot
  signal :=
    { action := action
      symbol := "BTC/USDT"
      quantity := 1
      price := 100
      reason := ""
      confidence := 1
      exitConfig := exitConfig
      coinId := "bitcoin"
      originalType := .buy }

theorem routes_agree_iff_bitcoin :
    (∀ answers, Agrees (bitcoinPlacement .buy none) answers) ↔
      ((bitcoinPlacement .buy none).isFutures = false ∧
        (bitcoinPlacement .buy none).enablesExit = false) ∨
        ((bitcoinPlacement .buy none).isFutures = true ∧
          (bitcoinPlacement .buy none).signal.quantity ≤ 0) :=
  routes_agree_iff (bitcoinPlacement .buy none) (by decide)

theorem routes_disagree :
    ¬ Agrees (bitcoinPlacement .buy (some { enableStopLoss := some true }))
        (goodAnswers anyReport) ∧
      ¬ Agrees (bitcoinPlacement .shortEntry none) (goodAnswers anyReport) := by
  constructor
  · intro hagrees
    obtain ⟨_, hattached, -⟩ := (hagrees _ rfl).2.2.2 rfl
    cases hattached
  · intro hagrees
    have hstrategy := (hagrees _ rfl).1
    cases hstrategy

end Chansey
