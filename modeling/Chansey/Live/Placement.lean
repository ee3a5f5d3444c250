import Chansey.Live.Exchange

/-!
# Placing an exit order

A stop-loss or take-profit is placed through a circuit breaker and a retry. If the placement fails,
an order row without an order on the exchange is saved for local tracking.
-/

namespace Chansey

open Remote

structure CircuitBreaker (κ : Type) where
  checkCircuit : κ → Except RemoteError κ
  recordSuccess : κ → κ
  recordFailure : κ → κ

def MAX_RETRIES : ℕ := 3

section Calls

variable {σ κ ρ : Type}

/-- One operation with up to three retries of transient errors. The `k`-th attempt meets the fate
`fates k`. -/
def withRetry (operation : σ → σ × ρ) (fates : ℕ → Fate RemoteError) (remote : σ) :
    σ × Except RemoteError ρ × ℕ :=
  retry isTransientError operation fates MAX_RETRIES remote

/-- What is left of the remote system and the breaker after an operation, and its result. -/
structure Executed (σ κ ρ : Type) where
  remote : σ
  circuit : κ
  result : Except RemoteError ρ

def executeWithResilience (breaker : CircuitBreaker κ) (operation : σ → σ × ρ)
    (fates : ℕ → Fate RemoteError) (circuit : κ) (remote : σ) : Executed σ κ ρ :=
  match breaker.checkCircuit circuit with
  | .error e => { remote := remote, circuit := circuit, result := .error e }
  | .ok checked =>
    match withRetry operation fates remote with
    | (remote, .ok v, _) =>
      { remote := remote, circuit := breaker.recordSuccess checked, result := .ok v }
    | (remote, .error e, _) =>
      { remote := remote, circuit := breaker.recordFailure checked, result := .error e }

end Calls

/-! ## The placement -/

structure PlaceExitOrderParams where
  userId : String
  exchangeKeyId : Option String := none
  symbol : String
  side : OrderSide
  quantity : ℚ
  price : ℚ
  stopPrice : Option ℚ := none

/-- What the placement reads besides its parameters: whether there is a client for the exchange, the
slug, the exchange of the key, the coins of the symbol, fresh ids and the time. -/
structure PlacementContext where
  hasClient : Bool
  exchangeSlug : Option String
  exchange : Option String
  baseCoin : Option CoinId
  quoteCoin : Option CoinId
  id : OrderId
  orderUuid : String
  clientUuid : String
  now : Instant

/-- An order is requested from the exchange when there is a client and a slug. -/
def PlacementContext.requests (context : PlacementContext) : Bool :=
  context.hasClient && (context.exchangeSlug.filter (· ≠ "")).isSome

structure Placement (σ κ : Type) where
  remote : σ
  circuit : κ
  /-- The exchange's answer, absent when the placement failed. -/
  ccxtOrder : Option CreatedOrder
  order : Order

/-- How a stop-loss and a take-profit differ. -/
structure ExitOrderForm where
  type : OrderType
  pendingPrefix : String
  request : PlaceExitOrderParams → OrderRequest
  price : PlaceExitOrderParams → ℚ
  stopPrice : PlaceExitOrderParams → Option ℚ
  stopLossPrice : PlaceExitOrderParams → Option ℚ
  takeProfitPrice : PlaceExitOrderParams → Option ℚ

section Placing

variable {σ κ : Type} (exchange : Exchange σ) (breaker : CircuitBreaker κ)

def placeExitOrder (form : ExitOrderForm) (params : PlaceExitOrderParams)
    (context : PlacementContext) (fates : ℕ → Fate RemoteError) (circuit : κ) (remote : σ) :
    Placement σ κ :=
  let (remote, circuit, ccxtOrder) :=
    if context.requests then
      let executed := executeWithResilience breaker (exchange.createOrder (form.request params)) fates
        circuit remote
      (executed.remote, executed.circuit, executed.result.toOption)
    else (remote, circuit, none)
  { remote := remote
    circuit := circuit
    ccxtOrder := ccxtOrder
    order :=
      { id := context.id
        orderId := ((ccxtOrder.map (·.id)).filter (· ≠ "")).getD
          (form.pendingPrefix ++ context.orderUuid)
        clientOrderId := ((ccxtOrder.bind (·.clientOrderId)).filter (· ≠ "")).getD
          (form.pendingPrefix ++ context.clientUuid)
        symbol := params.symbol
        side := params.side
        type := form.type
        quantity := params.quantity
        price := form.price params
        executedQuantity := 0
        status := .new
        transactTime := context.now
        isManual := false
        exchangeKeyId := params.exchangeKeyId.filter (· ≠ "")
        stopPrice := form.stopPrice params
        stopLossPrice := form.stopLossPrice params
        takeProfitPrice := form.takeProfitPrice params
        baseCoin := context.baseCoin
        quoteCoin := context.quoteCoin
        exchange := context.exchange
        userId := params.userId } }

def stopLossForm : ExitOrderForm where
  type := .stopLoss
  pendingPrefix := "sl_pending_"
  request params :=
    { symbol := params.symbol
      type := "stop_loss"
      side := params.side
      amount := params.quantity
      stopPrice := params.stopPrice }
  price _ := 0
  stopPrice params := params.stopPrice
  stopLossPrice params := params.stopPrice
  takeProfitPrice _ := none

def takeProfitForm : ExitOrderForm where
  type := .takeProfit
  pendingPrefix := "tp_pending_"
  request params :=
    { symbol := params.symbol
      type := "limit"
      side := params.side
      amount := params.quantity
      price := some params.price }
  price params := params.price
  stopPrice _ := none
  stopLossPrice _ := none
  takeProfitPrice params := some params.price

def placeStopLossOrder (params : PlaceExitOrderParams) (context : PlacementContext)
    (fates : ℕ → Fate RemoteError) (circuit : κ) (remote : σ) : Placement σ κ :=
  placeExitOrder exchange breaker stopLossForm params context fates circuit remote

def placeTakeProfitOrder (params : PlaceExitOrderParams) (context : PlacementContext)
    (fates : ℕ → Fate RemoteError) (circuit : κ) (remote : σ) : Placement σ κ :=
  placeExitOrder exchange breaker takeProfitForm params context fates circuit remote

/-! ## At most one order -/

/-- The placement left at most one new live order, and if the exchange answered, it is that order
and the row carries its id. -/
def PlacedOnce (remote : σ) (placement : Placement σ κ) : Prop :=
  ∃ placed, exchange.live placement.remote = placed ++ exchange.live remote ∧ placed.length ≤ 1 ∧
    ∀ ccxtOrder, placement.ccxtOrder = some ccxtOrder →
      placed.map (·.1) = [ccxtOrder.id] ∧ placement.order.orderId = ccxtOrder.id

def AsksExchange (context : PlacementContext) (circuit : κ) : Prop :=
  context.requests = true ∧ ∃ checked, breaker.checkCircuit circuit = .ok checked

theorem live_performed (request : OrderRequest) (remote : σ) (fates : List (Fate RemoteError)) :
    exchange.live (performed (exchange.createOrder request) remote fates).1 =
      ((performed (exchange.createOrder request) remote fates).2.map
        fun created => (created.id, request)).reverse ++ exchange.live remote := by
  induction fates generalizing remote with
  | nil => rfl
  | cons fate fates ih =>
    cases h : fate.reached with
    | false => simpa [performed, h] using ih remote
    | true => simp [performed, h, ih, exchange.live_createOrder]

section OnceIff

variable {exchange breaker} {form : ExitOrderForm} {params : PlaceExitOrderParams}
  {context : PlacementContext} {fates : ℕ → Fate RemoteError} {circuit : κ} {remote : σ}

variable (exchange form params fates remote) in
theorem placeExitOrder_asks (hasks : AsksExchange breaker context circuit) :
    let placement := placeExitOrder exchange breaker form params context fates circuit remote
    let created := retry isTransientError (exchange.createOrder (form.request params)) fates
      MAX_RETRIES remote
    placement.remote = created.1 ∧ placement.ccxtOrder = created.2.1.toOption := by
  obtain ⟨hreqs, checked, hchk⟩ := hasks
  intro placement created
  simp only [placement, placeExitOrder, hreqs, if_true, executeWithResilience, hchk, withRetry]
  split <;> rename_i hretry <;> simp [created, hretry]

variable (exchange form params fates remote) in
theorem placeExitOrder_silent (hasks : ¬ AsksExchange breaker context circuit) :
    let placement := placeExitOrder exchange breaker form params context fates circuit remote
    placement.remote = remote ∧ placement.ccxtOrder = none := by
  intro placement
  simp only [placement, placeExitOrder]
  cases hreqs : context.requests with
  | false => simp
  | true =>
    cases hchk : breaker.checkCircuit circuit with
    | ok checked => exact absurd ⟨hreqs, checked, hchk⟩ hasks
    | error => simp [executeWithResilience, hchk, Except.toOption]

theorem placeExitOrder_orderId {ccxtOrder : CreatedOrder} (hid : ccxtOrder.id ≠ "")
    (h : (placeExitOrder exchange breaker form params context fates circuit remote).ccxtOrder =
      some ccxtOrder) :
    (placeExitOrder exchange breaker form params context fates circuit remote).order.orderId =
      ccxtOrder.id := by
  unfold placeExitOrder at h ⊢
  dsimp only at h ⊢
  rw [h]
  simp [Option.filter, hid]

theorem placeExitOrder_pendingId
    (h : (placeExitOrder exchange breaker form params context fates circuit remote).ccxtOrder =
      none) :
    (placeExitOrder exchange breaker form params context fates circuit remote).order.orderId =
      form.pendingPrefix ++ context.orderUuid := by
  unfold placeExitOrder at h ⊢
  dsimp only at h ⊢
  rw [h]
  rfl

theorem placeExitOrder_once_iff :
    PlacedOnce exchange remote
        (placeExitOrder exchange breaker form params context fates circuit remote) ↔
      ¬ (AsksExchange breaker context circuit ∧
        ReachedAgain isTransientError fates MAX_RETRIES) := by
  by_cases hasks : AsksExchange breaker context circuit
  · obtain ⟨hremote, hans⟩ := placeExitOrder_asks exchange form params fates remote hasks
    have hlive := live_performed exchange (form.request params) remote
      (tried isTransientError fates MAX_RETRIES)
    rw [← retry_state isTransientError (exchange.createOrder (form.request params)) fates
      MAX_RETRIES remote, ← hremote] at hlive
    have hok : ∀ v, (retry isTransientError (exchange.createOrder (form.request params)) fates
        MAX_RETRIES remote).2.1 = .ok v ↔
        (placeExitOrder exchange breaker form params context fates circuit remote).ccxtOrder =
          some v := by
      intro v
      rw [hans]
      cases (retry isTransientError (exchange.createOrder (form.request params)) fates MAX_RETRIES
        remote).2.1 <;> simp [Except.toOption]
    have honce : PerformsOnce isTransientError (exchange.createOrder (form.request params)) fates
        MAX_RETRIES remote ↔ ¬ ReachedAgain isTransientError fates MAX_RETRIES := performs_once_iff
    rw [and_iff_right hasks, ← honce]
    constructor
    · rintro ⟨_, hplac, hlen, -⟩
      have hanss := List.append_cancel_right (hplac.symm.trans hlive)
      have hle : (performed (exchange.createOrder (form.request params)) remote
          (tried isTransientError fates MAX_RETRIES)).2.length ≤ 1 := by
        simpa [hanss] using hlen
      refine ⟨hle, fun v hv => ?_⟩
      exact eq_singleton_of_getLast? hle (retry_ok _ _ _ _ _ hv)
    · rintro ⟨hle, hv⟩
      refine ⟨_, hlive, by simpa using hle, fun ccxtOrder hcre => ?_⟩
      rw [hv ccxtOrder ((hok ccxtOrder).mpr hcre)]
      refine ⟨rfl, placeExitOrder_orderId ?_ hcre⟩
      have hanss := hv ccxtOrder ((hok ccxtOrder).mpr hcre)
      obtain ⟨s', rfl⟩ := mem_performed (exchange.createOrder (form.request params)) remote
        (hanss ▸ List.mem_singleton_self ccxtOrder)
      exact exchange.id_createOrder (form.request params) s'
  · obtain ⟨hremote, hans⟩ := placeExitOrder_silent exchange form params fates remote hasks
    refine iff_of_true ⟨[], ?_, by simp, ?_⟩ fun h => hasks h.1
    · rw [hremote]
      rfl
    · simp [hans]

end OnceIff

/-- **A placement leaves at most one new live order, the one it returns, exactly when no attempt that
reached the exchange is followed by another that does.** -/
theorem placement_once_iff (params : PlaceExitOrderParams) (context : PlacementContext)
    (fates : ℕ → Fate RemoteError) (circuit : κ) (remote : σ) :
    (PlacedOnce exchange remote
        (placeStopLossOrder exchange breaker params context fates circuit remote) ↔
      ¬ (AsksExchange breaker context circuit ∧ ReachedAgain isTransientError fates MAX_RETRIES)) ∧
    (PlacedOnce exchange remote
        (placeTakeProfitOrder exchange breaker params context fates circuit remote) ↔
      ¬ (AsksExchange breaker context circuit ∧ ReachedAgain isTransientError fates MAX_RETRIES)) :=
  ⟨placeExitOrder_once_iff, placeExitOrder_once_iff⟩

end Placing

def closedCircuit : CircuitBreaker Unit where
  checkCircuit _ := .ok ()
  recordSuccess _ := ()
  recordFailure _ := ()

def lostThenAnswered : ℕ → Fate RemoteError
  | 0 => .lost { name := "RequestTimeout", message := "binance request timed out" }
  | _ => .answered

def protectiveStop : PlaceExitOrderParams where
  userId := "user"
  symbol := "BTC/USDT"
  side := .sell
  quantity := 1
  price := 95
  stopPrice := some 95

def placementContext : PlacementContext where
  hasClient := true
  exchangeSlug := some "binance"
  exchange := some "binance"
  baseCoin := some "BTC"
  quoteCoin := some "USDT"
  id := "order"
  orderUuid := "a"
  clientUuid := "b"
  now := 0

theorem placement_twice :
    ¬ PlacedOnce numberedExchange noOrders
      (placeStopLossOrder numberedExchange closedCircuit protectiveStop placementContext
        lostThenAnswered () noOrders) := by
  rintro ⟨_, hplaced, _, -⟩
  have hlive : (numberedExchange.live (placeStopLossOrder numberedExchange closedCircuit
      protectiveStop placementContext lostThenAnswered () noOrders).remote).length = 2 := by
    decide +kernel
  have hnone : numberedExchange.live noOrders = [] := rfl
  rw [hplaced, hnone, List.append_nil] at hlive
  omega

end Chansey
