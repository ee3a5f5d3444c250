import Chansey.Live.PlacedOrders

/-!
# Exits and what is held

Over runs of both live pipelines: what a strategy or an activation holds of a symbol from its own
entries, and the exits that are placed for it. Nothing compares the two.

* `BoundedExit`: an exit is at most what is held. `FittingExit`: the signal, the capital and the
  portfolio of the turn are such that it is.
-/

namespace Chansey

open Run

inductive Owner where
  | strategy (userId strategyConfigId : String)
  | activation (id : String)
  deriving DecidableEq

structure HeldPosition where
  owner : Owner
  symbol : String
  side : PositionSide
  deriving DecidableEq

structure PlacedOrder where
  position : HeldPosition
  isExit : Bool
  quantity : ℚ
  filled : ℚ
  deriving DecidableEq

/-- Sales leave a long position, purchases for a short one leave that. -/
def AskedOrder.isExit (asked : AskedOrder) : Bool :=
  (asked.side = .sell ∧ asked.positionSide ≠ some .short) ∨
    (asked.side = .buy ∧ asked.positionSide = some .short)

def AskedOrder.placedFor (asked : AskedOrder) (owner : Owner) (symbol : String) : PlacedOrder where
  position := ⟨owner, symbol, asked.positionSide.getD .long⟩
  isExit := asked.isExit
  quantity := asked.quantity
  filled := asked.filled

def StrategyTurn.order (states : ThrottleStates) (turn : StrategyTurn) : Option PlacedOrder :=
  (turn.gated states).bind fun signal =>
    ((turn.placement signal).asked turn.answers).map
      (·.placedFor (.strategy turn.userId turn.cycle.strategyId) signal.symbol)

def ActivationTurn.order (states : ActivationThrottles) (turn : ActivationTurn) :
    Option PlacedOrder :=
  (turn.gated states).bind fun signal =>
    (turn.asked signal).map (·.placedFor (.activation turn.cycle.activationId) signal.symbol)

/-! ## Runs -/

structure LiveRun where
  /-- What has been filled of the entries and of the exits of a position. -/
  entered : HeldPosition → ℚ := fun _ => 0
  exited : HeldPosition → ℚ := fun _ => 0
  strategyThrottles : ThrottleStates := OrdMap.empty
  activationThrottles : ActivationThrottles := OrdMap.empty

/-- What is filled after the answer of the exchange: the rest of an order, an attached exit, a sale
that frees capital. -/
structure LaterFill where
  position : HeldPosition
  isExit : Bool
  amount : ℚ

inductive LiveEvent where
  | strategy (turn : StrategyTurn)
  | activation (turn : ActivationTurn)
  | fill (fill : LaterFill)

namespace LiveRun

/-- What an owner still holds from its own entries. -/
def held (run : LiveRun) (position : HeldPosition) : ℚ := run.entered position - run.exited position

def book (run : LiveRun) (position : HeldPosition) (isExit : Bool) (amount : ℚ) : LiveRun :=
  if isExit then
    { run with exited := Function.update run.exited position (run.exited position + amount) }
  else { run with entered := Function.update run.entered position (run.entered position + amount) }

def placed (run : LiveRun) : LiveEvent → Option PlacedOrder
  | .strategy turn => turn.order run.strategyThrottles
  | .activation turn => turn.order run.activationThrottles
  | .fill _ => none

def bookOrder (run : LiveRun) (order : Option PlacedOrder) : LiveRun :=
  order.elim run fun order => run.book order.position order.isExit order.filled

def next (run : LiveRun) : LiveEvent → LiveRun
  | .strategy turn =>
    { run.bookOrder (turn.order run.strategyThrottles) with
      strategyThrottles := turn.throttles run.strategyThrottles }
  | .activation turn =>
    { run.bookOrder (turn.order run.activationThrottles) with
      activationThrottles := turn.throttles run.activationThrottles }
  | .fill fill => run.book fill.position fill.isExit fill.amount

end LiveRun

/-! ## Bounds -/

/-- An exit is placed only for what is held, and for no more of it. -/
def BoundedExit (run : LiveRun) (event : LiveEvent) : Prop :=
  ∀ order, run.placed event = some order → order.isExit = true →
    0 < run.held order.position ∧ order.quantity ≤ run.held order.position

def LiveAction.positionSide : LiveAction → PositionSide
  | .shortEntry | .shortExit => .short
  | .buy | .sell | .hold => .long

def LiveAction.isExit (action : LiveAction) : Bool := action = .sell ∨ action = .shortExit

def LiveSignal.FitsHolding (signal : LiveSignal) (availableCapital price held : ℚ) : Prop :=
  match Js.truthy? signal.quantity with
  | some quantity => quantity ≤ held
  | none => availableCapital * signal.strength ≤ held * price

namespace StrategyTurn

def best (states : ThrottleStates) (turn : StrategyTurn) : Option LiveSignal :=
  StrategyExecutor.chooseSignal (StrategyExecutor.actionable turn.cycle.signals)
    (throttleCycle states turn.cycle turn.now).1

def exitOf (turn : StrategyTurn) (signal : LiveSignal) (coin : Coin) (price : ℚ) :
    LiveTradingSignal where
  action := mapSignalType signal.type
  symbol := ((findMarketEntry coin turn.cycle.marketData).map (·.symbol)).getD
    (coin.symbol ++ "/USDT")
  quantity := (Js.truthy? signal.quantity).getD (turn.cycle.availableCapital * signal.strength / price)
  price := price
  reason := signal.reason
  confidence := signal.confidence
  exitConfig := signal.exitConfig.or turn.cycle.exitConfig
  coinId := signal.coinId
  originalType := signal.type

def LetsThrough (turn : StrategyTurn) (signal : LiveTradingSignal) : Prop :=
  (turn.gate signal).isSome ∧ ((turn.placement signal).asked turn.answers).isSome

def Fits (run : LiveRun) (turn : StrategyTurn) : Prop :=
  ∀ signal coin price, turn.best run.strategyThrottles = some signal →
    turn.cycle.coins.find? (·.id = signal.coinId) = some coin →
    (Js.truthy? signal.price).or ((findMarketEntry coin turn.cycle.marketData).map (·.price)) =
      some price → 0 < price → (mapSignalType signal.type).isExit = true →
    turn.LetsThrough (turn.exitOf signal coin price) →
    signal.FitsHolding turn.cycle.availableCapital price
      (run.held ⟨.strategy turn.userId turn.cycle.strategyId, (turn.exitOf signal coin price).symbol,
        (mapSignalType signal.type).positionSide⟩)

end StrategyTurn

/-- An exit that is let through: the part of the portfolio is worth at most what the activation
holds. -/
def ActivationTurn.Fits (run : LiveRun) (turn : ActivationTurn) : Prop :=
  ∀ signal expectedPrice, turn.signal run.activationThrottles = some signal →
    ¬ (turn.user.context signal.toActivationSignal).IsEntry →
    turn.answers.cooldownAllowed = true → (turn.asked signal).isSome = true →
    turn.answers.expectedPrice = some expectedPrice →
    turn.user.portfolioValue * signal.allocationPercentage / 100 ≤
      run.held ⟨.activation turn.cycle.activationId, signal.symbol,
        signal.positionSide.getD .long⟩ * expectedPrice

def FittingExit (run : LiveRun) : LiveEvent → Prop
  | .strategy turn => turn.Fits run
  | .activation turn => turn.Fits run
  | .fill _ => True

/-! ## One turn of a strategy -/

section Strategy

variable {turn : StrategyTurn} {states : ThrottleStates} {signal gated : LiveTradingSignal}
  {best : LiveSignal}

theorem concentrationGate_keeps {assets : List AssetAllocation} {riskLevel : ℤ}
    (h : concentrationGate assets riskLevel signal = some gated) :
    gated.action = signal.action ∧ (signal.action.isExit = true → gated = signal) := by
  unfold concentrationGate at h
  split at h
  · rename_i hentry
    obtain ⟨part, -, rfl⟩ := Option.map_eq_some_iff.mp h
    refine ⟨rfl, fun hexit => ?_⟩
    rcases hentry with hentry | hentry <;> simp [LiveAction.isExit, hentry] at hexit
  · cases h
    exact ⟨rfl, fun _ => rfl⟩

theorem gate_spec (h : turn.gate signal = some gated) :
    gated.action = signal.action ∧ gated.action ≠ .hold ∧
      (signal.action.isExit = true → gated = signal) ∧ 0 < signal.quantity := by
  unfold StrategyTurn.gate at h
  split at h
  · cases h
  rename_i hhold
  split at h
  · cases h
  rename_i hvalid
  split at h
  · cases h
  split at h
  · cases h
  split at h
  · cases h
  split at h
  · cases h
  obtain ⟨hgated, -⟩ := Option.filter_eq_some_iff.mp h
  obtain ⟨hact, hexit⟩ := concentrationGate_keeps hgated
  have hqty : 0 < signal.quantity := by
    simp [validateSignal, hhold] at hvalid
    exact hvalid.1
  exact ⟨hact, hact ▸ hhold, hexit, hqty⟩

theorem asked_exit {answers : PlacementAnswers} {asked : AskedOrder}
    (h : (turn.placement signal).asked answers = some asked) (hact : signal.action ≠ .hold) :
    asked.isExit = signal.action.isExit ∧
      asked.positionSide.getD .long = signal.action.positionSide := by
  obtain ⟨-, hfut, hspot⟩ := asked_spec h
  cases hroute : (turn.placement signal).isFutures with
  | true =>
    have htrade := hfut hroute
    unfold mapLiveSignalToTradeAction at htrade
    cases hsig : signal.action with
    | hold => exact absurd hsig hact
    | buy | sell =>
      simp only [StrategyTurn.placement, hsig, Option.some.injEq, Prod.mk.injEq] at htrade
      obtain ⟨hside, hposn⟩ := htrade
      unfold AskedOrder.isExit
      rw [← hside, ← hposn]
      by_cases hmkt : turn.marketType = .futures <;>
        simp [hmkt, LiveAction.isExit, LiveAction.positionSide]
    | shortEntry | shortExit =>
      simp only [StrategyTurn.placement, hsig, Option.some.injEq, Prod.mk.injEq] at htrade
      obtain ⟨hside, hposn⟩ := htrade
      unfold AskedOrder.isExit
      rw [← hside, ← hposn]
      decide
  | false =>
    obtain ⟨hside, hposn⟩ := hspot hroute
    unfold AskedOrder.isExit
    rw [hside, hposn]
    unfold LivePlacement.isFutures at hroute
    cases hsig : signal.action <;>
      simp_all [StrategyTurn.placement, LivePlacement.spotSignal, LiveAction.isExit,
        LiveAction.positionSide]

theorem fitsHolding_iff {coin : Coin} {price : ℚ} (hprice : 0 < price) (held : ℚ) :
    best.FitsHolding turn.cycle.availableCapital price held ↔
      (turn.exitOf best coin price).quantity ≤ held := by
  unfold LiveSignal.FitsHolding StrategyTurn.exitOf
  cases Js.truthy? best.quantity with
  | some => exact Iff.rfl
  | none => exact (div_le_iff₀ hprice).symm

theorem mapAlgorithmSignal_exit (hexit : (mapSignalType best.type).isExit = true) :
    mapAlgorithmSignal best turn.cycle.coins turn.cycle.marketData turn.cycle.availableCapital
        turn.cycle.exitConfig = some signal ↔
      ∃ coin price, turn.cycle.coins.find? (·.id = best.coinId) = some coin ∧
        (Js.truthy? best.price).or ((findMarketEntry coin turn.cycle.marketData).map (·.price)) =
          some price ∧ 0 < price ∧ turn.exitOf best coin price = signal := by
  have hbound : ¬ (mapSignalType best.type = .buy ∨ mapSignalType best.type = .shortEntry) := by
    rintro (hentry | hentry) <;> simp [LiveAction.isExit, hentry] at hexit
  unfold mapAlgorithmSignal boundQuantity
  simp only [Option.bind_eq_some_iff, if_neg hbound]
  refine exists_congr fun coin => ?_
  rw [← exists_and_left]
  refine exists_congr fun price => and_congr_right fun _ => and_congr_right fun _ => ?_
  by_cases hprice : price ≤ 0
  · simp [hprice]
  · simp [not_le.mp hprice, hprice, StrategyTurn.exitOf]

theorem mapped_action (h : mapAlgorithmSignal best turn.cycle.coins turn.cycle.marketData
    turn.cycle.availableCapital turn.cycle.exitConfig = some signal) :
    signal.action = mapSignalType best.type := by
  unfold mapAlgorithmSignal at h
  obtain ⟨coin, -, h⟩ := Option.bind_eq_some_iff.mp h
  obtain ⟨price, -, h⟩ := Option.bind_eq_some_iff.mp h
  split at h
  · cases h
  · cases h
    rfl

theorem executeStrategy_fst :
    (executeStrategy states turn.cycle turn.now).1 = (turn.best states).bind fun signal =>
      mapAlgorithmSignal signal turn.cycle.coins turn.cycle.marketData turn.cycle.availableCapital
        turn.cycle.exitConfig := rfl

theorem strategy_bounded_iff (run : LiveRun) :
    BoundedExit run (.strategy turn) ↔ turn.Fits run := by
  constructor
  · intro hbdd best coin price hbest hcoin hprice hpos hexit hthrough
    obtain ⟨gated, hgate⟩ := Option.isSome_iff_exists.mp hthrough.1
    obtain ⟨asked, hasked⟩ := Option.isSome_iff_exists.mp hthrough.2
    obtain ⟨-, hhold, hkeeps, -⟩ := gate_spec hgate
    obtain rfl := hkeeps hexit
    have horder : turn.order run.strategyThrottles = some (asked.placedFor
        (.strategy turn.userId turn.cycle.strategyId) (turn.exitOf best coin price).symbol) := by
      have hmapped := (mapAlgorithmSignal_exit hexit).mpr ⟨coin, price, hcoin, hprice, hpos, rfl⟩
      rw [StrategyTurn.order, StrategyTurn.gated, executeStrategy_fst, hbest, Option.bind_some,
        hmapped, Option.bind_some, hgate, Option.bind_some, hasked, Option.map_some]
    obtain ⟨hisExit, hside⟩ := asked_exit hasked hhold
    have hqty := (hbdd _ horder (hisExit.trans hexit)).2
    simp only [AskedOrder.placedFor, hside, (asked_spec hasked).1] at hqty
    exact (@fitsHolding_iff turn best coin price hpos _).mpr hqty
  · intro hfits order horder hisExit
    obtain ⟨gated, hgated, horderOf⟩ := Option.bind_eq_some_iff.mp horder
    obtain ⟨_, hasked, rfl⟩ := Option.map_eq_some_iff.mp horderOf
    rw [StrategyTurn.gated, executeStrategy_fst] at hgated
    obtain ⟨signal, hsig, hgate⟩ := Option.bind_eq_some_iff.mp hgated
    obtain ⟨best, hbest, hmapped⟩ := Option.bind_eq_some_iff.mp hsig
    obtain ⟨hact, hhold, hkeeps, hpos⟩ := gate_spec hgate
    obtain ⟨hexit, hside⟩ := asked_exit hasked hhold
    have hexit' : signal.action.isExit = true := by
      rw [← hact, ← hexit]
      exact hisExit
    obtain rfl := hkeeps hexit'
    obtain ⟨coin, price, hcoin, hprice, hpositive, rfl⟩ :=
      (mapAlgorithmSignal_exit (mapped_action hmapped ▸ hexit')).mp hmapped
    have hthrough : turn.LetsThrough (turn.exitOf best coin price) :=
      ⟨Option.isSome_iff_exists.mpr ⟨_, hgate⟩, Option.isSome_iff_exists.mpr ⟨_, hasked⟩⟩
    have hle := (@fitsHolding_iff turn best coin price hpositive _).mp
      (hfits best coin price hbest hcoin hprice hpositive hexit' hthrough)
    have hqty := (asked_spec hasked).1
    simp only [AskedOrder.placedFor, hside, hqty]
    exact ⟨hpos.trans_le hle, hle⟩

end Strategy

/-! ## One turn of an activation -/

section Activation

variable {turn : ActivationTurn} {states : ActivationThrottles} {signal gated : GeneratedSignal}

variable {user : UserPreflight} {activation reduced : ActivationSignal} {cooldownAllowed : Bool}

theorem gateActivation_exit (hexit : ¬ (user.context activation).IsEntry) :
    gateActivation user activation cooldownAllowed =
      if cooldownAllowed then some activation else none := by
  unfold gateActivation checkEntryGates checkCooldown
  rw [if_neg hexit]
  cases cooldownAllowed <;> simp

theorem gateActivation_keeps (h : gateActivation user activation cooldownAllowed = some reduced) :
    reduced.symbol = activation.symbol ∧ reduced.action = activation.action ∧
      reduced.positionSide = activation.positionSide := by
  unfold gateActivation at h
  dsimp only at h
  split at h
  · cases h
    exact ⟨rfl, rfl, rfl⟩
  · cases h

theorem isExit_iff_not_isEntry {activation : ActivationSignal} {asked : AskedOrder}
    (hside : asked.side = activation.action) (hposn : asked.positionSide = activation.positionSide)
    : asked.isExit = true ↔ ¬ (user.context activation).IsEntry := by
  unfold AskedOrder.isExit EntryGateContext.IsEntry UserPreflight.context
  rw [hside, hposn]
  cases activation.action <;> simp

theorem resolveQuantity_autoSize {a : AutoSize} {expectedPrice quantity : ℚ}
    (h : resolveQuantity 0 (some a) expectedPrice = some quantity) (held : ℚ) :
    a.portfolioValue * a.allocationPercentage / 100 ≤ held * expectedPrice ↔ quantity ≤ held := by
  unfold resolveQuantity at h
  split at h
  · rename_i a' hsize
    obtain ⟨heq, -⟩ := Option.filter_eq_some_iff.mp hsize
    cases heq
    split at h
    · cases h
    · rename_i hprice
      obtain ⟨heq, -⟩ := Option.filter_eq_some_iff.mp h
      cases heq
      exact (div_le_iff₀ (not_le.mp hprice)).symm
  · obtain ⟨heq, hpos⟩ := Option.filter_eq_some_iff.mp h
    cases heq
    simp at hpos

theorem activation_bounded_iff (run : LiveRun) :
    BoundedExit run (.activation turn) ↔ turn.Fits run := by
  constructor
  · intro hbdd signal expectedPrice hsig hexit hallowed hplac hprice
    obtain ⟨asked, hasked⟩ := Option.isSome_iff_exists.mp hplac
    have horder : turn.order run.activationThrottles =
        some (asked.placedFor (.activation turn.cycle.activationId) signal.symbol) := by
      rw [ActivationTurn.order, ActivationTurn.gated, hsig, Option.bind_some,
        gateActivation_exit hexit, if_pos hallowed, Option.map_some, Option.bind_some]
      exact congrArg (Option.map _) hasked
    obtain ⟨_, hfld, rfl⟩ := Option.map_eq_some_iff.mp hasked
    obtain ⟨_, hprice', hqty⟩ := tradeSignalOrder_eq_some hfld
    cases (hprice.symm.trans hprice')
    have hbound := hbdd _ horder ((isExit_iff_not_isEntry rfl rfl).mpr hexit)
    exact (resolveQuantity_autoSize hqty _).mpr hbound.2
  · intro hfits order horder hisExit
    obtain ⟨_, hgated, horderOf⟩ := Option.bind_eq_some_iff.mp horder
    obtain ⟨_, hasked, rfl⟩ := Option.map_eq_some_iff.mp horderOf
    obtain ⟨signal, hsig, hgate⟩ := Option.bind_eq_some_iff.mp hgated
    obtain ⟨_, hreduced, rfl⟩ := Option.map_eq_some_iff.mp hgate
    obtain ⟨_, hfld, rfl⟩ := Option.map_eq_some_iff.mp hasked
    obtain ⟨price, hprice, hqty⟩ := tradeSignalOrder_eq_some hfld
    obtain ⟨-, hact, hside⟩ := gateActivation_keeps hreduced
    have hexit : ¬ (turn.user.context signal.toActivationSignal).IsEntry :=
      (isExit_iff_not_isEntry hact hside).mp hisExit
    rw [gateActivation_exit hexit] at hreduced
    obtain ⟨hallowed, hsame⟩ := Option.ite_none_right_eq_some.mp hreduced
    cases hsame
    have hle := (resolveQuantity_autoSize hqty _).mp
      (hfits signal price hsig hexit hallowed (Option.isSome_iff_exists.mpr ⟨_, hasked⟩) hprice)
    exact ⟨(resolveQuantity_pos hqty).trans_le hle, hle⟩

end Activation

/-! ## Runs -/

theorem bounded_iff_fitting (run : LiveRun) (event : LiveEvent) :
    BoundedExit run event ↔ FittingExit run event := by
  cases event with
  | strategy => exact strategy_bounded_iff run
  | activation => exact activation_bounded_iff run
  | fill => exact iff_of_true (fun order h => by cases h) trivial

/-- **Every exit of a run is of what its owner still holds exactly when every turn fits.** -/
theorem exits_bounded_iff (run : LiveRun) (events : List LiveEvent) :
    Throughout LiveRun.next BoundedExit run events ↔
      Throughout LiveRun.next FittingExit run events :=
  throughout_iff (fun _ => True) (fun run event _ => bounded_iff_fitting run event)
    (fun _ _ _ _ => trivial) trivial

/-! ## A sale of what was never bought -/

def halfSale : LiveSignal where
  type := .sell
  coinId := "bitcoin"
  strength := 1 / 2
  confidence := 9 / 10

def unheldSale : StrategyTurn where
  userId := "user"
  cycle :=
    { strategyId := "trend"
      parameters := OrdMap.empty
      success := true
      signals := [halfSale]
      exitConfig := none
      coins := [⟨"bitcoin", "BTC"⟩]
      marketData := [⟨"BTC/USDT", 100⟩]
      availableCapital := 1000 }
  marketType := .spot
  positions := []
  dailyLossBlocked := false
  regimeAllows _ := true
  drawdownAllows _ := true
  assets := []
  riskLevel := 3
  fundsReady := true
  answers := goodAnswers anyReport
  now := 0

def unheldActivationSale : ActivationTurn where
  cycle :=
    { activationId := "activation"
      userId := "user"
      config := OrdMap.empty
      allocationPercentage := some 5
      ready := true
      success := true
      signals := [halfSale]
      exitConfig := none
      resolveTradingSymbol := fun _ _ => some "BTC/USDT"
      marketType := .spot }
  user := { portfolioValue := 10000, assets := [], riskLevel := 3, isDailyLossBlocked := false }
  answers := goodAnswers anyReport
  now := 0

theorem unheld_sale_placed :
    ¬ Throughout LiveRun.next BoundedExit {} [.strategy unheldSale] ∧
      ¬ Throughout LiveRun.next BoundedExit {} [.activation unheldActivationSale] := by
  have hstrategy : unheldSale.order OrdMap.empty = some
      { position := ⟨.strategy "user" "trend", "BTC/USDT", .long⟩
        isExit := true
        quantity := 5
        filled := 0 } := by
    decide +kernel
  have hactivation : unheldActivationSale.order OrdMap.empty = some
      { position := ⟨.activation "activation", "BTC/USDT", .long⟩
        isExit := true
        quantity := 500
        filled := 0 } := by
    decide +kernel
  constructor
  · rintro ⟨hbounded, -⟩
    exact absurd (hbounded _ hstrategy rfl).1 (by simp [LiveRun.held])
  · rintro ⟨hbounded, -⟩
    exact absurd (hbounded _ hactivation rfl).1 (by simp [LiveRun.held])

end Chansey
