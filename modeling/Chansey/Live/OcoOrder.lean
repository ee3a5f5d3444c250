import Chansey.Live.OrderRows

/-!
# A take-profit and a stop-loss placed by hand

Both legs are created at the exchange, then their rows are written in one transaction. What fails is
undone by hand: legs are cancelled, the transaction is rolled back.
-/

namespace Chansey

open Remote

/-! ## The creation -/

structure OcoAnswers where
  takeProfit : Fate RemoteError := .answered
  stopLoss : Fate RemoteError := .answered
  connected : Except RemoteError Unit := .ok ()
  transactionStarted : Except RemoteError Unit := .ok ()
  takeProfitSaved : Except RemoteError Unit := .ok ()
  stopLossSaved : Except RemoteError Unit := .ok ()
  linkSaved : Except RemoteError Unit := .ok ()
  committed : Fate RemoteError := .answered
  rolledBack : Except RemoteError Unit := .ok ()
  takeProfitCanceled : Fate RemoteError := .answered
  stopLossCanceled : Fate RemoteError := .answered
  takeProfitId : OrderId
  stopLossId : OrderId
  takeProfitAt : Instant
  stopLossAt : Instant

inductive OcoException where
  /-- `mapCcxtError` -/
  | mapped (error : RemoteError) (exchangeName : String)
  | rollback (error : RemoteError)

structure OcoOutcome (σ : Type) where
  remote : σ
  /-- The rows of a transaction that was committed. -/
  stored : List StoredOrder
  result : Except OcoException StoredOrder

namespace PlaceManualOrderDto

def takeProfitRequest (dto : PlaceManualOrderDto) : OrderRequest where
  symbol := dto.symbol
  type := "limit"
  side := dto.side
  amount := dto.quantity
  price := dto.takeProfitPrice

def stopLossRequest (dto : PlaceManualOrderDto) : OrderRequest where
  symbol := dto.symbol
  type := "stop_loss"
  side := dto.side
  amount := dto.quantity
  stopPrice := dto.stopLossPrice

end PlaceManualOrderDto

/-- Of an answer, the rows keep the ids. -/
def CreatedOrder.toReport (ccxtOrder : CreatedOrder) (request : OrderRequest) : OrderReport :=
  { id := ccxtOrder.id
    clientOrderId := ccxtOrder.clientOrderId
    timestamp := ccxtOrder.timestamp.getD 0
    symbol := request.symbol
    side := none }

namespace OcoAnswers

def begun (answers : OcoAnswers) : Except RemoteError Unit := do
  answers.connected
  answers.transactionStarted

def saved (answers : OcoAnswers) : Except RemoteError Unit := do
  answers.begun
  answers.takeProfitSaved
  answers.stopLossSaved
  answers.linkSaved

def persisted (answers : OcoAnswers) : Except RemoteError Unit := do
  answers.saved
  (call (fun _ => ((), ())) () answers.committed).2

/-- The rows are in the database, whether or not the commit was answered. -/
def stores (answers : OcoAnswers) : Bool :=
  match answers.saved with
  | .ok _ => answers.committed.reached
  | .error _ => false

def TransactionNotStartedError : RemoteError where
  name := "TransactionNotStartedError"
  message :=
    "Transaction is not started yet, start transaction before committing or rolling it back."

def rollbackTransaction (answers : OcoAnswers) : Except RemoteError Unit :=
  match answers.begun with
  | .ok _ => answers.rolledBack
  | .error _ => .error TransactionNotStartedError

end OcoAnswers

section OcoOrder

variable {σ : Type} (exchange : Exchange σ)

def cancelLeg (id : ExchangeOrderId) (fate : Fate RemoteError) (remote : σ) : σ :=
  (call (fun s => (exchange.cancelOrder id s, ())) remote fate).1

def createOcoOrder (dto : PlaceManualOrderDto) (userId exchangeSlug exchangeName : String)
    (answers : OcoAnswers) (remote : σ) : OcoOutcome σ :=
  match call (exchange.createOrder dto.takeProfitRequest) remote answers.takeProfit with
  | (remote, .error exchangeError) =>
    { remote := remote, stored := [], result := .error (.mapped exchangeError exchangeName) }
  | (remote, .ok takeProfit) =>
    match call (exchange.createOrder dto.stopLossRequest) remote answers.stopLoss with
    | (remote, .error stopLossError) =>
      { remote := cancelLeg exchange takeProfit.id answers.takeProfitCanceled remote
        stored := []
        result := .error (.mapped stopLossError exchangeName) }
    | (remote, .ok stopLoss) =>
      let tpOrder := ocoTakeProfit dto userId exchangeSlug
        (takeProfit.toReport dto.takeProfitRequest) answers.takeProfitId answers.stopLossId
        answers.takeProfitAt
      let slOrder := ocoStopLoss dto userId exchangeSlug (stopLoss.toReport dto.stopLossRequest)
        answers.stopLossId answers.takeProfitId answers.stopLossAt
      let stored := if answers.stores then [tpOrder, slOrder] else []
      match answers.persisted with
      | .ok _ => { remote := remote, stored := stored, result := .ok tpOrder }
      | .error dbError =>
        -- the rollback comes first: its error skips the cancels
        match answers.rollbackTransaction with
        | .error e => { remote := remote, stored := stored, result := .error (.rollback e) }
        | .ok _ =>
          { remote := cancelLeg exchange stopLoss.id answers.stopLossCanceled
              (cancelLeg exchange takeProfit.id answers.takeProfitCanceled remote)
            stored := stored
            result := .error (.mapped dbError exchangeName) }

/-! ## When it is atomic -/

/-- **Both legs are live, stored and linked to each other, or an error leaves neither live and neither
stored.** -/
def OcoAtomic (dto : PlaceManualOrderDto) (remote : σ) (outcome : OcoOutcome σ) : Prop :=
  match outcome.result with
  | .ok order => ∃ takeProfit stopLoss,
      outcome.stored = [takeProfit, stopLoss] ∧ order = takeProfit ∧
      takeProfit.ocoLinkedOrderId = some stopLoss.id ∧
      stopLoss.ocoLinkedOrderId = some takeProfit.id ∧
      exchange.live outcome.remote = (stopLoss.orderId, dto.stopLossRequest) ::
        (takeProfit.orderId, dto.takeProfitRequest) :: exchange.live remote
  | .error _ => outcome.stored = [] ∧ exchange.live outcome.remote = exchange.live remote

end OcoOrder

structure OcoAnswers.CancelsSucceed (answers : OcoAnswers) : Prop where
  takeProfit : answers.takeProfitCanceled = .answered
  stopLoss : answers.stopLossCanceled = .answered

/-- The exchange answers for what it creates, and with both legs created the transaction is begun. It is
committed then, or it is known not to be and is rolled back. -/
structure OcoClean (answers : OcoAnswers) : Prop where
  takeProfit : ∀ e, answers.takeProfit ≠ .lost e
  stopLoss : answers.takeProfit = .answered → ∀ e, answers.stopLoss ≠ .lost e
  begun : answers.takeProfit = .answered → answers.stopLoss = .answered → answers.begun = .ok ()
  ended : answers.takeProfit = .answered → answers.stopLoss = .answered →
    answers.saved = .ok () ∧ answers.committed = .answered ∨
      ¬ (answers.saved = .ok () ∧ answers.committed.reached = true) ∧ answers.rolledBack = .ok ()

section OcoOrder

variable {σ : Type} (exchange : Exchange σ)

theorem live_filter_createOrder (request : OrderRequest) (s : σ) :
    (exchange.live (exchange.createOrder request s).1).filter
      (·.1 ≠ (exchange.createOrder request s).2.id) = exchange.live s := by
  rw [exchange.live_createOrder, List.filter_cons_of_neg (by simp), List.filter_eq_self]
  intro order hmem
  have hne : order.1 ≠ (exchange.createOrder request s).2.id := fun heq =>
    exchange.fresh_createOrder request s (heq ▸ exchange.known_of_live s order hmem)
  simpa using hne

theorem live_cancelLeg (id : ExchangeOrderId) (remote : σ) :
    exchange.live (cancelLeg exchange id .answered remote) =
      (exchange.live remote).filter (·.1 ≠ id) :=
  exchange.live_cancelOrder id remote

theorem live_cancelBoth (first second : OrderRequest) (s : σ) :
    let created := exchange.createOrder first s
    let created' := exchange.createOrder second created.1
    exchange.live (cancelLeg exchange created'.2.id .answered
      (cancelLeg exchange created.2.id .answered created'.1)) = exchange.live s := by
  intro created created'
  rw [live_cancelLeg, live_cancelLeg, List.filter_comm]
  rw [live_filter_createOrder exchange second created.1, live_filter_createOrder exchange first s]

theorem live_cancelFirst (first second : OrderRequest) (s : σ) :
    let created := exchange.createOrder first s
    let created' := exchange.createOrder second created.1
    exchange.live (cancelLeg exchange created.2.id .answered created'.1) =
      (created'.2.id, second) :: exchange.live s := by
  intro created created'
  have hknown : exchange.known created.1 created.2.id := by
    refine exchange.known_of_live created.1 (created.2.id, first) ?_
    rw [exchange.live_createOrder]
    exact List.mem_cons_self
  have hne : created'.2.id ≠ created.2.id := fun heq =>
    exchange.fresh_createOrder second created.1 (heq ▸ hknown)
  rw [live_cancelLeg, exchange.live_createOrder, List.filter_cons_of_pos (by simpa using hne),
    live_filter_createOrder exchange first s]

theorem live_createOrder_ne (request : OrderRequest) (s : σ) :
    exchange.live (exchange.createOrder request s).1 ≠ exchange.live s := by
  rw [exchange.live_createOrder]
  exact List.cons_ne_self _ _

variable {answers : OcoAnswers}

theorem persisted_eq_ok_iff :
    answers.persisted = .ok () ↔ answers.saved = .ok () ∧ answers.committed = .answered := by
  unfold OcoAnswers.persisted
  cases answers.saved with
  | error => simp [Bind.bind, Except.bind]
  | ok => cases answers.committed <;> simp [Bind.bind, Except.bind, call]

theorem stores_iff :
    answers.stores = true ↔ answers.saved = .ok () ∧ answers.committed.reached = true := by
  unfold OcoAnswers.stores
  cases answers.saved <;> simp

theorem rollback_eq_ok_iff :
    answers.rollbackTransaction = .ok () ↔ answers.begun = .ok () ∧ answers.rolledBack = .ok () := by
  unfold OcoAnswers.rollbackTransaction
  cases answers.begun <;> simp

theorem begun_of_saved (h : answers.saved = .ok ()) : answers.begun = .ok () := by
  unfold OcoAnswers.saved at h
  cases hbegun : answers.begun with
  | error => rw [hbegun] at h; cases h
  | ok => rfl

theorem ocoClean_of_created (htp : answers.takeProfit = .answered)
    (hsl : answers.stopLoss = .answered) :
    OcoClean answers ↔ answers.persisted = .ok () ∨
      answers.stores = false ∧ answers.rollbackTransaction = .ok () := by
  rw [persisted_eq_ok_iff, rollback_eq_ok_iff, ← Bool.not_eq_true, stores_iff]
  constructor
  · intro h
    rcases h.ended htp hsl with hended | ⟨hnot, hrolled⟩
    · exact .inl hended
    · exact .inr ⟨hnot, h.begun htp hsl, hrolled⟩
  · intro h
    refine ⟨by simp [htp], by simp [hsl], fun _ _ => ?_, fun _ _ => ?_⟩
    · exact h.elim (fun h => begun_of_saved h.1) fun h => h.2.1
    · exact h.imp_right fun h => ⟨h.1, h.2.2⟩

/-- **The creation is all or nothing on exactly the clean answers.** -/
theorem createOcoOrder_atomic_iff (dto : PlaceManualOrderDto)
    (userId exchangeSlug exchangeName : String) (answers : OcoAnswers) (remote : σ)
    (hcancels : answers.CancelsSucceed) :
    OcoAtomic exchange dto remote
        (createOcoOrder exchange dto userId exchangeSlug exchangeName answers remote) ↔
      OcoClean answers := by
  obtain ⟨hcancelProfit, hcancelStop⟩ := hcancels
  unfold createOcoOrder
  cases htakeProfit : answers.takeProfit with
  | refused =>
    refine iff_of_true ⟨rfl, rfl⟩ ?_
    constructor <;> simp [htakeProfit]
  | lost e =>
    refine iff_of_false ?_ fun h => h.takeProfit e htakeProfit
    exact fun h => live_createOrder_ne exchange _ remote h.2
  | answered =>
    cases hstopLoss : answers.stopLoss with
    | refused =>
      refine iff_of_true ?_ ?_
      · simp only [call, OcoAtomic, hcancelProfit, live_cancelLeg, true_and]
        exact live_filter_createOrder exchange _ remote
      · constructor <;> simp [htakeProfit, hstopLoss]
    | lost e =>
      refine iff_of_false ?_ fun h => h.stopLoss htakeProfit e hstopLoss
      simp only [call, OcoAtomic, hcancelProfit, true_and]
      rw [live_cancelFirst exchange _ _ remote]
      exact List.cons_ne_self _ _
    | answered =>
      rw [ocoClean_of_created htakeProfit hstopLoss]
      cases hpersisted : answers.persisted with
      | ok =>
        have hended := persisted_eq_ok_iff.1 hpersisted
        have hstores : answers.stores = true := stores_iff.2 ⟨hended.1, by rw [hended.2]; rfl⟩
        refine iff_of_true ?_ (.inl rfl)
        simp only [call, OcoAtomic, hstores, if_true]
        refine ⟨_, _, rfl, rfl, rfl, rfl, ?_⟩
        rw [exchange.live_createOrder, exchange.live_createOrder]
        rfl
      | error =>
        cases hrollback : answers.rollbackTransaction with
        | error =>
          refine iff_of_false ?_ (by simp)
          simp only [call, OcoAtomic, not_and]
          intro _ heq
          have hlength := congrArg List.length heq
          rw [exchange.live_createOrder, exchange.live_createOrder, List.length_cons,
            List.length_cons] at hlength
          omega
        | ok =>
          simp only [call, OcoAtomic, hcancelProfit, hcancelStop]
          rw [live_cancelBoth exchange _ _ remote]
          cases answers.stores <;> simp

end OcoOrder

def bitcoinOco : PlaceManualOrderDto where
  symbol := "BTC/USDT"
  side := .sell
  orderType := .oco
  quantity := 1
  takeProfitPrice := some 110
  stopLossPrice := some 90
  exchangeKeyId := "key"

def ocoAnswers (connected : Except RemoteError Unit) : OcoAnswers where
  connected := connected
  takeProfitId := "profit"
  stopLossId := "stop"
  takeProfitAt := 1
  stopLossAt := 2

def refusedConnection : RemoteError where
  name := "Error"
  message := "connect ECONNREFUSED"

theorem createOcoOrder_atomic_iff_answered :
    OcoAtomic numberedExchange bitcoinOco noOrders
      (createOcoOrder numberedExchange bitcoinOco "user" "binance" "Binance" (ocoAnswers (.ok ()))
        noOrders) := by
  refine (createOcoOrder_atomic_iff numberedExchange bitcoinOco "user" "binance" "Binance"
    (ocoAnswers (.ok ())) noOrders ⟨rfl, rfl⟩).2 ?_
  exact (ocoClean_of_created rfl rfl).2 (.inl rfl)

/-- **Without a connection to the database, the rollback throws before the cancels: both legs stay live,
and no row names them.** -/
theorem createOcoOrder_orphans :
    (ocoAnswers (.error refusedConnection)).CancelsSucceed ∧
    ¬ OcoAtomic numberedExchange bitcoinOco noOrders
      (createOcoOrder numberedExchange bitcoinOco "user" "binance" "Binance"
        (ocoAnswers (.error refusedConnection)) noOrders) := by
  refine ⟨⟨rfl, rfl⟩, fun h => ?_⟩
  have hlive : (numberedExchange.live (createOcoOrder numberedExchange bitcoinOco "user" "binance"
      "Binance" (ocoAnswers (.error refusedConnection)) noOrders).remote).length = 2 := by
    decide +kernel
  exact absurd (congrArg List.length h.2) (by rw [hlive]; decide)

end Chansey
