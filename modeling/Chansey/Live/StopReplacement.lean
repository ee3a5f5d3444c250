import Chansey.Live.Exchange
import Chansey.Live.Trailing

/-!
# Replacing the stop order of a trailing position

The monitor moves the stop order of a position by cancelling it on the exchange and creating a new
one, and then records the change in one transaction.

* `Guarded`: the position is protected by exactly the stop it refers to, or is recorded as in error
  or without a stop order.
-/

namespace Chansey

open Remote

structure StopWorld (σ : Type) where
  exchange : σ
  orders : OrdMap OrderId Order
  position : PositionExit

inductive TransactionFate where
  | committed
  | committedLost (error : RemoteError)
  /-- Rolled back before the new order was saved. -/
  | failedEarly (error : RemoteError)
  /-- Rolled back after the position in memory refers to the new order. -/
  | failedLate (error : RemoteError)

def TransactionFate.recorded : TransactionFate → Bool
  | .committed => true
  | .committedLost _ => true
  | .failedEarly _ => false
  | .failedLate _ => false

structure ReplacementFates where
  /-- `has['createStopOrder'] || has['createOrder']` -/
  capable : Bool
  cancel : Fate RemoteError
  create : Fate RemoteError
  saveOrder : Fate RemoteError
  savePosition : Fate RemoteError
  transaction : TransactionFate

inductive CancelError where
  | orderNotFound
  | other (error : RemoteError)

section Replacement

variable {σ : Type} (exchange : Exchange σ)

/-- `cancelOrder` of the exchange client. An order that is not live is not found. -/
def requestCancel (remote : σ) (id : ExchangeOrderId) :
    Fate RemoteError → σ × Except CancelError Unit
  | .answered =>
    if ∃ order ∈ exchange.live remote, order.1 = id then (exchange.cancelOrder id remote, .ok ())
    else (remote, .error .orderNotFound)
  | .lost e => (exchange.cancelOrder id remote, .error (.other e))
  | .refused e => (remote, .error (.other e))

def stopRequest (position : PositionExit) (newStopPrice : ℚ) : OrderRequest where
  symbol := position.symbol
  type := "stop_loss"
  side := position.side.opposite
  amount := position.quantity
  stopPrice := some newStopPrice

def newStopOrder (position : PositionExit) (newStopPrice : ℚ) (ccxtOrder : CreatedOrder)
    (id : OrderId) (now : Instant) : Order where
  id := id
  orderId := ccxtOrder.id
  clientOrderId := (ccxtOrder.clientOrderId.filter (· ≠ "")).getD ccxtOrder.id
  symbol := position.symbol
  side := position.side.opposite
  type := .stopLoss
  quantity := position.quantity
  price := 0
  status := .new
  transactTime := (ccxtOrder.timestamp.filter (· ≠ 0)).getD now
  isManual := false
  isAlgorithmicTrade := true
  exchangeKeyId := position.exchangeKeyId
  stopPrice := some newStopPrice
  userId := position.userId

/-- `orderRepo.save` or `positionExitRepo.save`: an update that takes effect unless it is refused. -/
def saved {α : Type} (update : α → α) (a : α) (fate : Fate RemoteError) : α :=
  if fate.reached then update a else a

variable (fates : ReplacementFates) (newId : OrderId) (now : Instant)

def StopWorld.cancelRow (world : StopWorld σ) (order : Order) : StopWorld σ :=
  { world with orders := world.orders.set order.id { order with status := .canceled } }

def StopWorld.savePosition (world : StopWorld σ) (position : PositionExit) : StopWorld σ :=
  if position.trailingStopOrderId = world.position.trailingStopOrderId ∨
      position.trailingStopOrderId.all world.orders.has then
    { world with position := world.position.savedOver position }
  else world

def unprotected (position : PositionExit) (newStopPrice : ℚ) (error : RemoteError) : PositionExit :=
  { position with
    status := .error
    trailingStopOrderId := none
    warnings := position.warnings ++
      ["Failed to place replacement stop order at " ++ Js.numberText newStopPrice ++ ": " ++
        error.message] }

theorem unprotected_status (position : PositionExit) (newStopPrice : ℚ) (error : RemoteError) :
    (unprotected position newStopPrice error).status = .error := rfl

def recordReplacement (world : StopWorld σ) (position : PositionExit) (existing : Order)
    (newStopPrice : ℚ) (ccxtOrder : CreatedOrder) : StopWorld σ × PositionExit :=
  let cancelled := world.cancelRow existing
  let recorded :=
    { cancelled with
      orders := cancelled.orders.set newId
        (newStopOrder position newStopPrice ccxtOrder newId now) }
  let referring := { position with trailingStopOrderId := some newId }
  match fates.transaction with
  | .committed => (recorded, referring)
  | .committedLost _ => (recorded, referring)
  | .failedEarly _ => (world, position)
  | .failedLate _ => (world, referring)

theorem recordReplacement_status (world : StopWorld σ) (position : PositionExit) (existing : Order)
    (newStopPrice : ℚ) (ccxtOrder : CreatedOrder) : (recordReplacement fates newId now world position
      existing newStopPrice ccxtOrder).2.status = position.status := by
  unfold recordReplacement
  split <;> rfl

def updateStopOrderOnExchange (world : StopWorld σ) (position : PositionExit) (newStopPrice : ℚ) :
    StopWorld σ × PositionExit :=
  if fates.capable then
    match position.trailingStopOrderId.bind world.orders.get? with
    | none => (world, { position with trailingStopOrderId := none })
    | some existing =>
      match requestCancel exchange world.exchange existing.orderId fates.cancel with
      | (_, .error .orderNotFound) =>
        (saved (·.cancelRow existing) world fates.saveOrder,
          { position with trailingStopOrderId := none })
      | (remote, .error (.other _)) => ({ world with exchange := remote }, position)
      | (remote, .ok ()) =>
        match call (exchange.createOrder (stopRequest position newStopPrice)) remote fates.create with
        | (remote, .error e) =>
          let failed := unprotected position newStopPrice e
          (saved (·.savePosition failed) { world with exchange := remote } fates.savePosition, failed)
        | (remote, .ok ccxtOrder) =>
          recordReplacement fates newId now { world with exchange := remote } position existing
            newStopPrice ccxtOrder
  else (world, position)

def monitorStopTick (world : StopWorld σ) (currentPrice : ℚ) : StopWorld σ :=
  (updateTrailingStop (updateStopOrderOnExchange exchange fates newId now) StopWorld.savePosition now
    world world.position currentPrice).1

/-! ## Guarded positions -/

def StopWorld.stopOrder (world : StopWorld σ) : Option Order :=
  world.position.trailingStopOrderId.bind world.orders.get?

/-- The stop order the position refers to is live at the recorded price; besides it only `others`
are live. -/
def Protected (others : List LiveOrder) (world : StopWorld σ) : Prop :=
  ∃ order request, world.stopOrder = some order ∧
    (order.orderId, request) ∈ exchange.live world.exchange ∧
    (exchange.live world.exchange).filter (·.1 ≠ order.orderId) = others ∧
    request.stopPrice = world.position.currentTrailingStopPrice

def RecordedUnprotected (world : StopWorld σ) : Prop :=
  world.position.status = .error ∨ world.position.trailingStopOrderId = none

def Guarded (others : List LiveOrder) (world : StopWorld σ) : Prop :=
  Protected exchange others world ∨ RecordedUnprotected world

/-- A position before its stop is moved. If its stop order is still live, it is so at the recorded
price; `others` are the orders of the exchange that are not this stop. -/
structure Trailed (others : List LiveOrder) (id : OrderId) (world : StopWorld σ) : Prop where
  refers : world.position.trailingStopOrderId = some id
  id_ne : id ≠ ""
  status : world.position.status ≠ .error
  others : ∀ order, world.orders.get? id = some order →
    (exchange.live world.exchange).filter (·.1 ≠ order.orderId) = others
  price : ∀ order request, world.orders.get? id = some order →
    (order.orderId, request) ∈ exchange.live world.exchange →
      request.stopPrice = world.position.currentTrailingStopPrice

def StopLive (id : OrderId) (world : StopWorld σ) : Prop :=
  ∃ order request, world.orders.get? id = some order ∧
    (order.orderId, request) ∈ exchange.live world.exchange

/-- The tick finds a new water mark and a better stop. -/
structure MovesStop (position : PositionExit) (currentPrice newStopPrice : ℚ) : Prop where
  active : (activateTrailing position currentPrice).1.trailingActivated = true
  mark : isNewWaterMark currentPrice (activateTrailing position currentPrice).1.waterMark
    position.side = true
  stop : newStopPrice =
    monitorTrailingStopPrice currentPrice position.exitConfig position.side position.entryAtr
  better : isNewWaterMark newStopPrice position.currentTrailingStopPrice position.side = true

/-- The failures after which the position is still guarded. Either its live stop stays, and the column
rounds the new price to the recorded one; or the cancellation is answered, and the replacement is
created and recorded at a price that the column keeps, or the failure to create it is saved. -/
def KeepsGuarded (id : OrderId) (world : StopWorld σ) (newStopPrice : ℚ) : Prop :=
  StopLive exchange id world ∧
    ((fates.capable = false ∨ ∃ e, fates.cancel = .refused e) ∧
        world.position.currentTrailingStopPrice = some (priceColumn newStopPrice) ∨
      fates.capable = true ∧ fates.cancel = .answered ∧
        (fates.create = .answered ∧ fates.transaction.recorded = true ∧
            priceColumn newStopPrice = newStopPrice ∨
          fates.create ≠ .answered ∧ fates.savePosition.reached = true))

/-! ## The tick -/

structure SameStop (position marked : PositionExit) : Prop extends SameTerms position marked where
  stop : marked.currentTrailingStopPrice = position.currentTrailingStopPrice
  status : marked.status = position.status

theorem sameStop_setWaterMark (position : PositionExit) (price : ℚ) :
    SameStop position (position.setWaterMark price) := by
  obtain ⟨hterms, -, hstop, hstat, -⟩ := setWaterMark_terms position price
  exact ⟨hterms, hstop, hstat⟩

theorem sameStop_activate (position : PositionExit) (price : ℚ) :
    SameStop position (activateTrailing position price).1 := by
  have hmarked := sameStop_setWaterMark position price
  unfold activateTrailing
  split
  · exact ⟨⟨hmarked.side, hmarked.config, hmarked.entry, hmarked.atr, hmarked.order⟩, hmarked.stop,
      hmarked.status⟩
  · exact ⟨.refl position, rfl, rfl⟩

theorem SameStop.trans {position marked final : PositionExit} (h : SameStop position marked)
    (h' : SameStop marked final) : SameStop position final :=
  ⟨h.toSameTerms.trans h'.toSameTerms, h'.stop.trans h.stop, h'.status.trans h.status⟩

def markedPosition (position : PositionExit) (currentPrice : ℚ) : PositionExit :=
  (activateTrailing position currentPrice).1.setWaterMark currentPrice

theorem sameStop_marked (position : PositionExit) (currentPrice : ℚ) :
    SameStop position (markedPosition position currentPrice) :=
  (sameStop_activate position currentPrice).trans (sameStop_setWaterMark _ currentPrice)

theorem monitorStopTick_moves {world : StopWorld σ} {currentPrice newStopPrice : ℚ} {id : OrderId}
    (hmoves : MovesStop world.position currentPrice newStopPrice)
    (href : world.position.trailingStopOrderId = some id) (hid : id ≠ "") :
    let replaced := updateStopOrderOnExchange exchange fates newId now world
      (markedPosition world.position currentPrice) newStopPrice
    ∃ final : PositionExit,
      final.trailingStopOrderId = replaced.2.trailingStopOrderId ∧
      final.currentTrailingStopPrice = some newStopPrice ∧
      (replaced.2.status ≠ .error → final.status ≠ .error) ∧
      monitorStopTick exchange fates newId now world currentPrice =
        if replaced.2.status = .error then replaced.1 else replaced.1.savePosition final := by
  intro replaced
  have hactv := sameStop_activate world.position currentPrice
  have hmrk := sameStop_marked world.position currentPrice
  have hactivatedMarked := sameStop_setWaterMark (activateTrailing world.position currentPrice).1
    currentPrice
  have hratchet : ratchetStop (updateStopOrderOnExchange exchange fates newId now) world
      (activateTrailing world.position currentPrice).1 currentPrice =
      if replaced.2.status = .error then (replaced.1, replaced.2, .lost)
      else (replaced.1, { replaced.2 with currentTrailingStopPrice := some newStopPrice },
        .moved) := by
    have hstop : monitorTrailingStopPrice currentPrice
        ((activateTrailing world.position currentPrice).1.setWaterMark currentPrice).exitConfig
        ((activateTrailing world.position currentPrice).1.setWaterMark currentPrice).side
        ((activateTrailing world.position currentPrice).1.setWaterMark currentPrice).entryAtr =
        newStopPrice := (hmrk.stopAt currentPrice).trans hmoves.stop.symm
    unfold ratchetStop
    rw [if_pos (by rw [hactv.side]; exact hmoves.mark)]
    dsimp only
    rw [hstop, hactv.side, hactv.stop, if_pos hmoves.better, moveStop]
    have horder : ((activateTrailing world.position currentPrice).1.setWaterMark
        currentPrice).trailingStopOrderId = some id := hmrk.order.trans href
    rw [if_pos (by simp [horder, Option.filter, hid])]
    rfl
  unfold monitorStopTick updateTrailingStop
  simp only [hmoves.active, if_true, hratchet]
  by_cases herror : replaced.2.status = .error
  · refine ⟨{ replaced.2 with currentTrailingStopPrice := some newStopPrice }, rfl, rfl,
      fun h => absurd herror h, ?_⟩
    simp [herror]
  · refine ⟨(triggerStop now { replaced.2 with currentTrailingStopPrice := some newStopPrice }
      (activateTrailing world.position currentPrice).1.currentTrailingStopPrice currentPrice).1,
      ?_, ?_, ?_, ?_⟩
    · unfold triggerStop
      split <;> rfl
    · unfold triggerStop
      split <;> rfl
    · unfold triggerStop
      split
      · exact fun _ => PositionExitStatus.noConfusion
      · exact fun hstat => hstat
    · simp [herror]

/-! ## Where a position stays guarded -/

variable {exchange fates newId now}

section Outcomes

variable {world : StopWorld σ} {others : List LiveOrder} {id : OrderId} {final : PositionExit}
  {order : Order}

theorem savePosition_refers (href : world.position.trailingStopOrderId = some id)
    (hfinal : final.trailingStopOrderId = none ∨ final.trailingStopOrderId = some id) :
    world.savePosition final = { world with position := world.position.savedOver final } ∧
      (world.position.savedOver final).trailingStopOrderId = some id := by
  unfold StopWorld.savePosition PositionExit.savedOver
  rcases hfinal with hnone | hsame
  · simp [hnone, href]
  · simp [hsame, href]

theorem guarded_iff (href : world.position.trailingStopOrderId = some id)
    (hstat : world.position.status ≠ .error) :
    Guarded exchange others world ↔ ∃ order request, world.orders.get? id = some order ∧
      (order.orderId, request) ∈ exchange.live world.exchange ∧
      (exchange.live world.exchange).filter (·.1 ≠ order.orderId) = others ∧
      request.stopPrice = world.position.currentTrailingStopPrice := by
  have hrow : world.stopOrder = world.orders.get? id := by simp [StopWorld.stopOrder, href]
  unfold Guarded Protected
  rw [hrow]
  refine or_iff_left ?_
  rintro (herror | hnone)
  · exact hstat herror
  · simp [href] at hnone

theorem not_guarded (href : world.position.trailingStopOrderId = some id)
    (hstat : world.position.status ≠ .error)
    (hlive : ∀ order, world.orders.get? id = some order →
      ∀ request, (order.orderId, request) ∉ exchange.live world.exchange) :
    ¬ Guarded exchange others world := by
  rw [guarded_iff href hstat]
  rintro ⟨order, request, hrow, hmem, -⟩
  exact hlive order hrow request hmem

theorem cancel_not_live (remote : σ) (cancelled : ExchangeOrderId) (request : OrderRequest) :
    (cancelled, request) ∉ exchange.live (exchange.cancelOrder cancelled remote) := by
  rw [exchange.live_cancelOrder]
  simp

variable {position : PositionExit} {currentPrice newStopPrice : ℚ} {remote : σ}

theorem guarded_kept_iff (htrl : Trailed exchange others id world)
    (href : final.trailingStopOrderId = some id) (hstat : final.status ≠ .error)
    (hstop : final.currentTrailingStopPrice = some newStopPrice) :
    Guarded exchange others (world.savePosition final) ↔ StopLive exchange id world ∧
      world.position.currentTrailingStopPrice = some (priceColumn newStopPrice) := by
  obtain ⟨hsaved, hrefers⟩ := savePosition_refers htrl.refers (.inr href)
  have hrecorded : (world.position.savedOver final).currentTrailingStopPrice =
      some (priceColumn newStopPrice) := by
    simp [PositionExit.savedOver, hstop]
  rw [hsaved, guarded_iff hrefers hstat]
  dsimp only
  rw [hrecorded]
  constructor
  · rintro ⟨order, request, hrow, hmem, -, hprice⟩
    exact ⟨⟨order, request, hrow, hmem⟩, (htrl.price order request hrow hmem).symm.trans hprice⟩
  · rintro ⟨⟨order, request, hrow, hmem⟩, hprice⟩
    exact ⟨order, request, hrow, hmem, htrl.others order hrow,
      (htrl.price order request hrow hmem).trans hprice⟩

theorem guarded_recorded_iff {newStopPrice : ℚ}
    (hlive : exchange.live (exchange.cancelOrder order.orderId world.exchange) = others)
    (href : final.trailingStopOrderId = some newId) (hstat : final.status ≠ .error)
    (hstop : final.currentTrailingStopPrice = some newStopPrice) :
    let created := exchange.createOrder (stopRequest position newStopPrice)
      (exchange.cancelOrder order.orderId world.exchange)
    Guarded exchange others (StopWorld.savePosition
      { world with
        exchange := created.1
        orders := (world.orders.set order.id { order with status := .canceled }).set newId
          (newStopOrder position newStopPrice created.2 newId now) } final) ↔
      priceColumn newStopPrice = newStopPrice := by
  intro created
  have hreferred : (world.position.savedOver final).trailingStopOrderId = some newId := by
    simp [PositionExit.savedOver, href]
  have hrecorded : (world.position.savedOver final).currentTrailingStopPrice =
      some (priceColumn newStopPrice) := by
    simp [PositionExit.savedOver, hstop]
  have hcreated := exchange.live_createOrder (stopRequest position newStopPrice)
    (exchange.cancelOrder order.orderId world.exchange)
  have hfresh := exchange.fresh_createOrder (stopRequest position newStopPrice)
    (exchange.cancelOrder order.orderId world.exchange)
  have hothers : ∀ live ∈ others, live.1 ≠ created.2.id := by
    intro live hmem heq
    exact hfresh (heq ▸ exchange.known_of_live _ live (hlive ▸ hmem))
  have hrow := OrdMap.get?_set_self (world.orders.set order.id { order with status := .canceled })
    newId (newStopOrder position newStopPrice created.2 newId now)
  unfold StopWorld.savePosition
  rw [if_pos (.inr (by simp [href, OrdMap.has, hrow])), guarded_iff hreferred hstat]
  dsimp only
  rw [hrecorded, hrow, hcreated, hlive]
  constructor
  · rintro ⟨stored, request, hstored, hmem, -, hprice⟩
    cases hstored
    rcases List.mem_cons.mp hmem with hnew | hold
    · cases hnew
      exact (Option.some.inj hprice).symm
    · exact absurd rfl (hothers _ hold)
  · intro hcolumn
    refine ⟨_, _, rfl, List.mem_cons_self, ?_, congrArg some hcolumn.symm⟩
    rw [List.filter_cons_of_neg (by simp [newStopOrder, created]), List.filter_eq_self.mpr]
    exact fun live hmem => decide_eq_true (hothers live hmem)

theorem not_guarded_dead (href : world.position.trailingStopOrderId = some id)
    (hfinal : final.trailingStopOrderId = none ∨ final.trailingStopOrderId = some id)
    (hstat : final.status ≠ .error)
    (hlive : ∀ order, world.orders.get? id = some order →
      ∀ request, (order.orderId, request) ∉ exchange.live world.exchange) :
    ¬ Guarded exchange others (world.savePosition final) := by
  obtain ⟨hsaved, hrefers⟩ := savePosition_refers href hfinal
  rw [hsaved]
  exact not_guarded hrefers hstat hlive

theorem created_not_cancelled {newStopPrice : ℚ}
    (hknown : exchange.known world.exchange order.orderId) (request : OrderRequest) :
    (order.orderId, request) ∉ exchange.live (exchange.createOrder
      (stopRequest position newStopPrice)
        (exchange.cancelOrder order.orderId world.exchange)).1 := by
  rw [exchange.live_createOrder, List.mem_cons]
  rintro (heq | hmem)
  · refine exchange.fresh_createOrder (stopRequest position newStopPrice)
      (exchange.cancelOrder order.orderId world.exchange) ?_
    rw [← (Prod.mk.inj heq).1]
    exact exchange.known_cancelOrder _ _ _ hknown
  · exact cancel_not_live world.exchange order.orderId request hmem

theorem unreplaced_guarded_iff (currentPrice newStopPrice : ℚ) (error : RemoteError)
    (htrl : Trailed exchange others id world) (hrow : world.orders.get? id = some order)
    (hlive : ∀ request, (order.orderId, request) ∉ exchange.live remote) :
    Guarded exchange others
        (saved (·.savePosition
          (unprotected (markedPosition world.position currentPrice) newStopPrice error))
          { world with exchange := remote } fates.savePosition) ↔
      fates.savePosition.reached = true := by
  cases hrch : fates.savePosition.reached with
  | true =>
    simp only [saved, hrch, if_true, iff_true]
    exact .inr (.inl (by simp [StopWorld.savePosition, PositionExit.savedOver, unprotected]))
  | false =>
    simp only [saved, hrch]
    refine iff_of_false (not_guarded htrl.refers htrl.status fun order' hget request => ?_) (by simp)
    obtain rfl : order = order' := Option.some.inj (hrow.symm.trans hget)
    exact hlive request

/-- A cancellation that finds no order clears the reference in memory only. -/
theorem not_guarded_gone {fate : Fate RemoteError}
    (href : world.position.trailingStopOrderId = some id) (hfinal : final.trailingStopOrderId = none)
    (hstat : final.status ≠ .error) (hrow : world.orders.get? id = some order)
    (hdead : ∀ request, (order.orderId, request) ∉ exchange.live world.exchange) :
    ¬ Guarded exchange others ((saved (·.cancelRow order) world fate).savePosition final) := by
  unfold saved
  split_ifs
  · refine not_guarded_dead href (.inl hfinal) hstat fun order' hget request => ?_
    replace hget := (OrdMap.get?_set world.orders order.id id _).symm.trans hget
    split_ifs at hget
    · cases hget
      exact hdead request
    · obtain rfl := Option.some.inj (hrow.symm.trans hget)
      exact hdead request
  · refine not_guarded_dead href (.inl hfinal) hstat fun order' hget request => ?_
    obtain rfl := Option.some.inj (hrow.symm.trans hget)
    exact hdead request

theorem recorded_guarded_iff (htrl : Trailed exchange others id world)
    (hrow : world.orders.get? id = some order) (hnew : world.orders.get? newId = none)
    (hlive : exchange.live (exchange.cancelOrder order.orderId world.exchange) = others)
    (hknown : exchange.known world.exchange order.orderId)
    (href : position.trailingStopOrderId = some id) :
    let created := exchange.createOrder (stopRequest position newStopPrice)
      (exchange.cancelOrder order.orderId world.exchange)
    let recorded := recordReplacement fates newId now { world with exchange := created.1 } position
      order newStopPrice created.2
    final.trailingStopOrderId = recorded.2.trailingStopOrderId → final.status ≠ .error →
      final.currentTrailingStopPrice = some newStopPrice →
        (Guarded exchange others (recorded.1.savePosition final) ↔
          fates.transaction.recorded = true ∧ priceColumn newStopPrice = newStopPrice) := by
  intro created recorded hrefers hstat hstop
  have hdead : ∀ order', world.orders.get? id = some order' → ∀ request,
      (order'.orderId, request) ∉ exchange.live created.1 := by
    intro order' hget request
    obtain rfl := Option.some.inj (hrow.symm.trans hget)
    exact created_not_cancelled hknown request
  cases htransaction : fates.transaction with
  | committed | committedLost =>
    simp only [recorded, recordReplacement, htransaction] at hrefers ⊢
    exact (guarded_recorded_iff hlive hrefers hstat hstop).trans (by simp [TransactionFate.recorded])
  | failedEarly =>
    -- the position still refers to the cancelled order
    simp only [recorded, recordReplacement, htransaction] at hrefers ⊢
    refine iff_of_false ?_ (by simp [TransactionFate.recorded])
    exact not_guarded_dead htrl.refers (.inr (hrefers.trans href)) hstat hdead
  | failedLate =>
    -- the position cannot be saved: the new row it refers to was rolled back
    simp only [recorded, recordReplacement, htransaction] at hrefers ⊢
    refine iff_of_false ?_ (by simp [TransactionFate.recorded])
    have hne : ¬ (some newId = some id ∨ world.orders.has newId = true) := by
      rintro (heq | hhas)
      · cases heq
        exact absurd (hrow.symm.trans hnew) (by simp)
      · rw [OrdMap.has, hnew] at hhas
        exact Bool.noConfusion hhas
    unfold StopWorld.savePosition
    rw [hrefers, if_neg (by rw [htrl.refers]; exact hne)]
    exact not_guarded htrl.refers htrl.status hdead

end Outcomes

section Theorem

variable {world : StopWorld σ} {others : List LiveOrder} {id : OrderId} {currentPrice newStopPrice : ℚ}

/-- **Which patterns of failures keep a position guarded.** -/
theorem replacement_guarded_iff (htrailed : Trailed exchange others id world)
    (hmoves : MovesStop world.position currentPrice newStopPrice)
    (hnew : world.orders.get? newId = none) :
    Guarded exchange others (monitorStopTick exchange fates newId now world currentPrice) ↔
      KeepsGuarded exchange fates id world newStopPrice := by
  obtain ⟨_, hrefers, hstop, hstatus, htick⟩ := monitorStopTick_moves exchange fates newId
    now hmoves htrailed.refers htrailed.id_ne
  rw [htick]
  have hmarked := sameStop_marked world.position currentPrice
  have hmarkedRefers := hmarked.order.trans htrailed.refers
  have hmarkedStatus : (markedPosition world.position currentPrice).status ≠ .error := by
    rw [hmarked.status]
    exact htrailed.status
  generalize hreplaced : updateStopOrderOnExchange exchange fates newId now world
    (markedPosition world.position currentPrice) newStopPrice = replaced at *
  unfold updateStopOrderOnExchange at hreplaced
  unfold KeepsGuarded
  cases hcapable : fates.capable with
  | false =>
    rw [if_neg (by simp [hcapable])] at hreplaced
    subst hreplaced
    rw [if_neg hmarkedStatus, guarded_kept_iff htrailed (hrefers.trans hmarkedRefers)
      (hstatus hmarkedStatus) hstop]
    simp
  | true =>
    cases hrow : world.orders.get? id with
    | none =>
      -- the row still refers to an order that is not there
      simp only [hcapable, if_true, hmarkedRefers, Option.bind_some, hrow] at hreplaced
      subst hreplaced
      rw [if_neg hmarkedStatus]
      refine iff_of_false (not_guarded_dead htrailed.refers (.inl hrefers) (hstatus hmarkedStatus)
        fun order hget => absurd (hrow.symm.trans hget) (by simp)) ?_
      rintro ⟨⟨order, _, hget, -⟩, -⟩
      exact absurd (hrow.symm.trans hget) (by simp)
    | some order =>
      simp only [hcapable, if_true, hmarkedRefers, Option.bind_some, hrow] at hreplaced
      cases hcancel : fates.cancel with
      | refused =>
        simp only [hcancel, requestCancel] at hreplaced
        subst hreplaced
        rw [if_neg hmarkedStatus, guarded_kept_iff htrailed (hrefers.trans hmarkedRefers)
          (hstatus hmarkedStatus) hstop]
        simp
      | lost =>
        -- the order is cancelled, but the row keeps it
        simp only [hcancel, requestCancel] at hreplaced
        subst hreplaced
        rw [if_neg hmarkedStatus]
        refine iff_of_false (not_guarded_dead htrailed.refers (.inr (hrefers.trans hmarkedRefers))
          (hstatus hmarkedStatus) fun order' hget request => ?_) (by simp)
        obtain rfl := Option.some.inj (hrow.symm.trans hget)
        exact cancel_not_live world.exchange order.orderId request
      | answered =>
        rw [hcancel] at hreplaced
        by_cases hlive : StopLive exchange id world
        · have hlive' := hlive
          obtain ⟨order', request, hrow', hmem⟩ := hlive'
          obtain rfl : order = order' := Option.some.inj (hrow.symm.trans hrow')
          have hfound : ∃ live ∈ exchange.live world.exchange, live.1 = order.orderId :=
            ⟨_, hmem, rfl⟩
          simp only [requestCancel, if_pos hfound] at hreplaced
          have hknown := exchange.known_of_live world.exchange _ hmem
          have hafter := exchange.live_cancelOrder order.orderId world.exchange
          rw [htrailed.others order hrow] at hafter
          cases hcreate : fates.create with
          | refused e =>
            simp only [hcreate, call] at hreplaced
            subst hreplaced
            rw [if_pos (unprotected_status ..)]
            simpa [hlive] using unreplaced_guarded_iff currentPrice newStopPrice e htrailed hrow
              fun request => cancel_not_live world.exchange order.orderId request
          | lost e =>
            simp only [hcreate, call] at hreplaced
            subst hreplaced
            rw [if_pos (unprotected_status ..)]
            simpa [hlive] using unreplaced_guarded_iff currentPrice newStopPrice e htrailed hrow
              fun request => created_not_cancelled hknown request
          | answered =>
            simp only [hcreate, call] at hreplaced
            subst hreplaced
            rw [if_neg (by rwa [recordReplacement_status])]
            simpa [hlive] using recorded_guarded_iff htrailed hrow hnew hafter hknown hmarkedRefers
              hrefers (hstatus (by rwa [recordReplacement_status])) hstop
        · have hfound : ¬ ∃ live ∈ exchange.live world.exchange, live.1 = order.orderId := by
            rintro ⟨live, hmem, hid⟩
            exact hlive ⟨order, live.2, hrow, hid ▸ hmem⟩
          simp only [requestCancel, if_neg hfound] at hreplaced
          subst hreplaced
          rw [if_neg hmarkedStatus]
          refine iff_of_false ?_ fun hkeeps => hlive hkeeps.1
          exact not_guarded_gone htrailed.refers hrefers (hstatus hmarkedStatus) hrow
            fun request hmem => hfound ⟨_, hmem, rfl⟩

end Theorem

end Replacement

/-! ## A stop that moves from 95 to 104.5 -/

def movingConfig : ExitConfig := { DEFAULT_EXIT_CONFIG with enableTrailingStop := true, trailingValue := 5 }

def movingEntry : EntryOrder where
  id := "entry"
  userId := "user"
  symbol := "BTC/USDT"
  side := .buy
  entryPrice := 100
  quantity := 1

def movingPosition : PositionExit :=
  { newPositionExit "exit" movingEntry movingConfig none {} with trailingStopOrderId := some "stop" }

def movingWorld : StopWorld NumberedOrders where
  exchange :=
    { orders := [(0, stopRequest movingPosition 95)]
      accepted := 1
      bounded := by simp }
  orders := OrdMap.empty.set "stop" (newStopOrder movingPosition 95 { id := orderNumber 0 } "stop" 0)
  position := movingPosition

def noFailures : ReplacementFates where
  capable := true
  cancel := .answered
  create := .answered
  saveOrder := .answered
  savePosition := .answered
  transaction := .committed

def cancelLost : ReplacementFates :=
  { noFailures with cancel := .lost { name := "RequestTimeout", message := "request timed out" } }

theorem movingWorld_row : movingWorld.orders.get? "stop" =
    some (newStopOrder movingPosition 95 { id := orderNumber 0 } "stop" 0) := rfl

theorem movingWorld_trailed : Trailed numberedExchange [] "stop" movingWorld where
  refers := rfl
  id_ne := by decide
  status := by decide
  others order horder := by
    cases (movingWorld_row.symm.trans horder)
    decide +kernel
  price order request horder hlive := by
    cases (movingWorld_row.symm.trans horder)
    obtain rfl : request = stopRequest movingPosition 95 := by
      simpa [numberedExchange, movingWorld, newStopOrder] using hlive
    decide +kernel

theorem movingWorld_moves : MovesStop movingWorld.position 110 (209 / 2) where
  active := by decide +kernel
  mark := by decide +kernel
  stop := by decide +kernel
  better := by decide +kernel

theorem replacement_guarded :
    Guarded numberedExchange []
      (monitorStopTick numberedExchange noFailures "next" 0 movingWorld 110) :=
  (replacement_guarded_iff movingWorld_trailed movingWorld_moves rfl).mpr
    ⟨⟨_, stopRequest movingPosition 95, movingWorld_row, List.mem_singleton_self _⟩,
      .inr ⟨rfl, rfl, .inl ⟨rfl, rfl, by decide +kernel⟩⟩⟩

theorem replacement_unguarded :
    ¬ Guarded numberedExchange []
      (monitorStopTick numberedExchange cancelLost "next" 0 movingWorld 110) := by
  have hlive : numberedExchange.live
      (monitorStopTick numberedExchange cancelLost "next" 0 movingWorld 110).exchange = [] := by
    decide +kernel
  have hposition :
      (monitorStopTick numberedExchange cancelLost "next" 0 movingWorld 110).position.status =
          .active ∧
        (monitorStopTick numberedExchange cancelLost "next" 0
          movingWorld 110).position.trailingStopOrderId = some "stop" := by
    decide +kernel
  rintro (⟨order, request, -, hmem, -⟩ | herror | hnone)
  · rw [hlive] at hmem
    exact absurd hmem List.not_mem_nil
  · rw [hposition.1] at herror
    exact PositionExitStatus.noConfusion herror
  · rw [hposition.2] at hnone
    exact absurd hnone (by decide)

end Chansey
