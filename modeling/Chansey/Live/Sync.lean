import Chansey.Lib.Tasks
import Chansey.Live.Calculation
import Chansey.Live.Exchange
import Chansey.Live.Position

/-!
# Reports, fills and cancels

The services that write the status of an order, as tasks that take turns at every call to the
database or to the exchange. Each such call may fail before or after it took effect.
-/

namespace Chansey

open Remote Tasks

/-! ## Rows and events -/

structure PositionExitFilledPayload where
  positionExitId : String
  entryOrderId : OrderId
  userId : String
  status : PositionExitStatus
  exitPrice : Option ℚ
  realizedPnL : Option ℚ

structure LiveWorld where
  orders : OrdMap OrderId Order
  positionExits : OrdMap String PositionExit
  history : List OrderStatusHistory := []
  emitted : List PositionExitFilledPayload := []
  /-- The reports that were handled, latest first. -/
  reported : List ExchangeOrder := []
  cancelled : List ExchangeOrderId := []

def LiveWorld.statusOf (world : LiveWorld) (id : OrderId) : Option OrderStatus :=
  (world.orders.get? id).map Order.status

/-! ## Synchronisation -/

structure OrderUpdate where
  status : Option OrderStatus := none
  executedQuantity : Option ℚ := none
  price : Option ℚ := none
  fee : Option ℚ := none
  commission : Option ℚ := none
  feeCurrency : Option String := none
  cost : Option ℚ := none
  averagePrice : Option ℚ := none
  deriving DecidableEq

def OrderUpdate.hasChanges (updateData : OrderUpdate) : Bool := updateData ≠ {}

def OrderUpdate.apply (updateData : OrderUpdate) (order : Order) : Order :=
  { order with
    status := updateData.status.getD order.status
    executedQuantity := updateData.executedQuantity.getD order.executedQuantity
    price := updateData.price.getD order.price
    fee := updateData.fee.getD order.fee
    commission := updateData.commission.getD order.commission
    feeCurrency := updateData.feeCurrency.or order.feeCurrency
    cost := updateData.cost.or order.cost
    averagePrice := updateData.averagePrice.or order.averagePrice }

def PRICE_TOLERANCE : ℚ := 1 / 100000000

def movedFrom (stored : Option ℚ) (new : ℚ) : Bool :=
  (Js.truthy? stored).all fun value => PRICE_TOLERANCE < |value - new|

/-- What a report changes of the row that was read. -/
def orderUpdate (existing : Order) (exchangeOrder : ExchangeOrder) : OrderUpdate :=
  let newStatus := exchangeOrder.orderStatus
  let newExecutedQuantity := reportedQuantity exchangeOrder
  let feeData := extractFeeData exchangeOrder
  let newPrice := calculateOrderPrice exchangeOrder
  let newCost := calculateOrderCost exchangeOrder
  let feeChanged : Bool := 0 < feeData.fee ∧ existing.fee ≠ feeData.fee
  { status := if existing.status ≠ newStatus then some newStatus else none
    executedQuantity :=
      if existing.executedQuantity ≠ newExecutedQuantity then some newExecutedQuantity
      else none
    price := if PRICE_TOLERANCE < |existing.price - newPrice| then some newPrice else none
    fee := if feeChanged then some feeData.fee else none
    commission := if feeChanged then some feeData.commission else none
    feeCurrency := if feeChanged then feeData.feeCurrency.filter (· ≠ "") else none
    cost := if 0 < newCost ∧ movedFrom existing.cost newCost then some newCost else none
    averagePrice := (Js.truthy? exchangeOrder.average).filter (movedFrom existing.averagePrice) }

/-- What the history says of a report besides the transition. -/
def syncMetadata (existing : Order) (exchangeOrder : ExchangeOrder) (now : Instant) :
    Metadata :=
  let base : Metadata := OrdMap.empty.set "exchangeOrderId" (.str exchangeOrder.id)
  let withStatus := exchangeOrder.status.elim base fun status =>
    base.set "exchangeStatus" (.str status)
  ((withStatus.set "previousExecutedQuantity" (.num existing.executedQuantity)).set
    "newExecutedQuantity" (.num (reportedQuantity exchangeOrder))).set "syncTimestamp" (.num now)

def syncTransition (existing : Order) (exchangeOrder : ExchangeOrder) (now : Instant) :
    OrderStatusHistory :=
  transitionStatus existing.id (some existing.status) exchangeOrder.orderStatus
    .exchangeSync (syncMetadata existing exchangeOrder now)

theorem syncMetadata_free (existing : Order) (exchangeOrder : ExchangeOrder) (now : Instant) :
    (syncMetadata existing exchangeOrder now).get? "invalidTransition" = none := by
  unfold syncMetadata
  cases exchangeOrder.status <;> simp [OrdMap.get?_set]

theorem syncTransition_flagged (existing : Order) (exchangeOrder : ExchangeOrder)
    (now : Instant) :
    (syncTransition existing exchangeOrder now).flagged =
      !isValidTransition (some existing.status) exchangeOrder.orderStatus :=
  transitionStatus_flag _ _ _ _ (syncMetadata_free existing exchangeOrder now)

/-! ## Tasks -/

inductive Task where
  /-- `updateExistingOrder` records the transition. -/
  | record (existing : Order) (exchangeOrder : ExchangeOrder)
  /-- `updateExistingOrder` updates the row. -/
  | update (existing : Order) (exchangeOrder : ExchangeOrder)
  /-- `handleOcoFill` reads the position. -/
  | findPosition (filledId : OrderId)
  /-- `cancelOrderById`, on behalf of a fill, reads the other leg. -/
  | findOther (exit : PositionExit) (filledId otherOrderId : OrderId)
  /-- `cancelOrderById` asks the exchange. -/
  | cancelOther (exit : PositionExit) (filledId : OrderId) (order : Order)
  /-- `cancelOrderById` saves the other leg. -/
  | saveOther (exit : PositionExit) (filledId : OrderId) (order : Order)
  /-- `handleOcoFill` reads the filled order. -/
  | findFilled (exit : PositionExit) (filledId : OrderId)
  /-- `handleOcoFill` saves the position. -/
  | savePosition (exit : PositionExit) (filledId : OrderId)
  /-- `handleOcoFill` emits the event, which is no call that can fail. -/
  | emit (exit : PositionExit) (filledId : OrderId)
  /-- `cancelManualOrderInternal` reads the linked order. -/
  | findLinked (orderId : OrderId) (userId : String)
  /-- `cancelManualOrderInternal` asks the exchange. -/
  | cancelManual (order : Order) (skipLinked : Bool)
  /-- `cancelManualOrderInternal` saves the row. -/
  | saveManual (order : Order) (skipLinked : Bool)

inductive Request where
  | report (userId : String) (exchangeOrder : ExchangeOrder)
  | cancelManualOrder (orderId : OrderId) (userId : String)

structure Answer where
  fate : Fate RemoteError
  now : Instant := 0

def findExistingOrder (world : LiveWorld) (exchangeOrder : ExchangeOrder) (userId : String) :
    Option Order :=
  (world.orders.entries.find? fun entry =>
    entry.2.orderId = exchangeOrder.id ∧ entry.2.userId = userId).map Prod.snd

/-- `updateExistingOrder` up to its first call. -/
def updateExistingOrder (existing : Order) (exchangeOrder : ExchangeOrder) : Option Task :=
  if existing.status ≠ exchangeOrder.orderStatus then some (.record existing exchangeOrder)
  else if (orderUpdate existing exchangeOrder).hasChanges then
    some (.update existing exchangeOrder)
  else none

/-- The guards of `cancelManualOrderInternal`, up to its call of the exchange. -/
def cancelManualOrderInternal (world : LiveWorld) (orderId : OrderId) (userId : String)
    (skipLinked : Bool) : Option Task :=
  ((world.orders.get? orderId).filter fun order =>
    order.userId = userId ∧ !isTerminalState order.status ∧
      !order.exchangeKeyId.all (· = "")).map fun order => .cancelManual order skipLinked

def findPositionOf (world : LiveWorld) (filledId : OrderId) : Option PositionExit :=
  (world.positionExits.entries.find? fun entry =>
    entry.2.stopLossOrderId = some filledId ∨
      entry.2.takeProfitOrderId = some filledId).map Prod.snd

def otherLeg (exit : PositionExit) (filledId : OrderId) : Option OrderId :=
  (if exit.stopLossOrderId = some filledId then exit.takeProfitOrderId
    else exit.stopLossOrderId).filter (· ≠ "")

def calculateRealizedPnL (entryPrice exitPrice quantity : ℚ) (side : ExitSide) : ℚ :=
  (match side with
    | .buy => exitPrice - entryPrice
    | .sell => entryPrice - exitPrice) * quantity

def triggeredBy (exit : PositionExit) (filledId : OrderId) (filledOrder : Option Order)
    (now : Instant) : PositionExit :=
  let triggered : PositionExit :=
    { exit with
      status :=
        if exit.stopLossOrderId = some filledId then .stopLossTriggered
        else .takeProfitTriggered
      triggeredAt := some now }
  match filledOrder with
  | none => triggered
  | some order =>
    let exitPrice := (Js.truthy? order.averagePrice).getD order.price
    { triggered with
      exitPrice := some exitPrice
      realizedPnL := some (calculateRealizedPnL exit.entryPrice exitPrice
        exit.quantity exit.side) }

def filledPayload (exit : PositionExit) : PositionExitFilledPayload where
  positionExitId := exit.id
  entryOrderId := exit.entryOrderId
  userId := exit.userId
  status := exit.status
  exitPrice := exit.exitPrice
  realizedPnL := exit.realizedPnL

/-- `save` of an order that was read as `order`: the whole row is written back. -/
def LiveWorld.saveCanceled (world : LiveWorld) (order : Order) : LiveWorld :=
  { world with orders := world.orders.set order.id { order with status := .canceled } }

/-- `update` of a row. An order without a row is not inserted. -/
def LiveWorld.updateOrder (world : LiveWorld) (id : OrderId) (updateData : OrderUpdate) : LiveWorld :=
  match world.orders.get? id with
  | none => world
  | some row => { world with orders := world.orders.set id (updateData.apply row) }

/-! ## The program -/

def Task.effect (world : LiveWorld) (now : Instant) : Task → LiveWorld
  | .record existing exchangeOrder =>
    { world with history := world.history ++ [syncTransition existing exchangeOrder now] }
  | .update existing exchangeOrder =>
    world.updateOrder existing.id (orderUpdate existing exchangeOrder)
  | .cancelOther _ _ order => { world with cancelled := order.orderId :: world.cancelled }
  | .saveOther _ _ order => world.saveCanceled order
  | .savePosition exit _ =>
    { world with positionExits := world.positionExits.set exit.id exit }
  | .emit exit _ =>
    { world with emitted := world.emitted ++ [filledPayload exit] }
  | .cancelManual order _ => { world with cancelled := order.orderId :: world.cancelled }
  | .saveManual order _ => world.saveCanceled order
  | .findPosition _ => world
  | .findOther _ _ _ => world
  | .findFilled _ _ => world
  | .findLinked _ _ => world

def Task.next (world : LiveWorld) (now : Instant) : Task → Option Task
  | .record existing exchangeOrder =>
    if (orderUpdate existing exchangeOrder).hasChanges then
      some (.update existing exchangeOrder)
    else none
  | .update existing exchangeOrder =>
    if existing.status ≠ .filled ∧ exchangeOrder.orderStatus = .filled then
      some (.findPosition existing.id)
    else none
  | .findPosition filledId =>
    (findPositionOf world filledId).bind fun exit =>
      if exit.ocoLinked then
        match otherLeg exit filledId with
        | some otherOrderId => some (.findOther exit filledId otherOrderId)
        | none => some (.findFilled exit filledId)
      else none
  | .findOther exit filledId otherOrderId =>
    match world.orders.get? otherOrderId with
    | none => some (.findFilled exit filledId)
    | some order =>
      if !order.exchangeKeyId.all (· = "") ∧ order.exchange.isSome then
        some (.cancelOther exit filledId order)
      else some (.saveOther exit filledId order)
  | .cancelOther exit filledId order =>
    some (.saveOther exit filledId order)
  | .saveOther exit filledId _ => some (.findFilled exit filledId)
  | .findFilled exit filledId =>
    some (.savePosition
      (triggeredBy exit filledId (world.orders.get? filledId) now) filledId)
  | .savePosition exit filledId => some (.emit exit filledId)
  | .emit _ _ => none
  | .findLinked orderId userId => cancelManualOrderInternal world orderId userId true
  | .cancelManual order skipLinked => some (.saveManual order skipLinked)
  | .saveManual order skipLinked =>
    if skipLinked then none
    else (order.ocoLinkedOrderId.filter (· ≠ "")).map fun linked => .findLinked linked order.userId

/-- The task after its call failed. Only `cancelOrderById` goes on, whatever failed in it. -/
def Task.caught : Task → Option Task
  | .findOther exit filledId _ => some (.findFilled exit filledId)
  | .cancelOther exit filledId order =>
    some (.saveOther exit filledId order)
  | .saveOther exit filledId _ => some (.findFilled exit filledId)
  | _ => none

def Task.canFail : Task → Bool
  | .emit _ _ => false
  | _ => true

def Task.advance (world : LiveWorld) (task : Task) (answer : Answer) : LiveWorld × Option Task :=
  if task.canFail then
    (if answer.fate.reached then task.effect world answer.now else world,
      if answer.fate = .answered then task.next world answer.now else task.caught)
  else (task.effect world answer.now, task.next world answer.now)

def Request.start (world : LiveWorld) : Request → LiveWorld × Option Task
  | .report userId exchangeOrder =>
    ({ world with reported := exchangeOrder :: world.reported },
      (findExistingOrder world exchangeOrder userId).bind fun existing =>
        updateExistingOrder existing exchangeOrder)
  | .cancelManualOrder orderId userId =>
    (world, cancelManualOrderInternal world orderId userId false)

def orderTasks : Program LiveWorld Task Request Answer where
  call := Request.start
  advance := Task.advance

/-! ## What a call starts -/

variable {world : LiveWorld} {task : Task} {answer : Answer}

theorem cancelManualOrderInternal_order {orderId : OrderId} {userId : String} {skipLinked : Bool}
    (h : cancelManualOrderInternal world orderId userId skipLinked = some task) :
    ∃ order, task = .cancelManual order skipLinked ∧ world.orders.get? orderId = some order ∧
      isTerminalState order.status = false := by
  unfold cancelManualOrderInternal at h
  obtain ⟨order, horder, rfl⟩ := Option.map_eq_some_iff.mp h
  obtain ⟨hrow, hguard⟩ := Option.filter_eq_some_iff.mp horder
  simp only [decide_eq_true_eq] at hguard
  exact ⟨order, rfl, hrow, by simpa using hguard.2.1⟩

theorem updateExistingOrder_task {existing : Order} {exchangeOrder : ExchangeOrder}
    (h : updateExistingOrder existing exchangeOrder = some task) :
    task = .record existing exchangeOrder ∨
      (task = .update existing exchangeOrder ∧
        existing.status = exchangeOrder.orderStatus) := by
  unfold updateExistingOrder at h
  split_ifs at h with hdiff hchanges
  · exact .inl (Option.some.inj h).symm
  · exact .inr ⟨(Option.some.inj h).symm, not_not.mp hdiff⟩

theorem start_task {request : Request} (h : task ∈ (request.start world).2) :
    (∃ userId exchangeOrder existing, request = .report userId exchangeOrder ∧
      findExistingOrder world exchangeOrder userId = some existing ∧
      (task = .record existing exchangeOrder ∨
        (task = .update existing exchangeOrder ∧
          existing.status = exchangeOrder.orderStatus))) ∨
    ∃ orderId userId order, request = .cancelManualOrder orderId userId ∧
      task = .cancelManual order false ∧ world.orders.get? orderId = some order ∧
      isTerminalState order.status = false := by
  cases request with
  | report userId exchangeOrder =>
    obtain ⟨existing, hfind, htask⟩ := Option.bind_eq_some_iff.mp h
    exact .inl ⟨userId, exchangeOrder, existing, rfl, hfind, updateExistingOrder_task htask⟩
  | cancelManualOrder orderId userId =>
    obtain ⟨order, htask, hrow, hterm⟩ := cancelManualOrderInternal_order h
    exact .inr ⟨orderId, userId, order, rfl, htask, hrow, hterm⟩

/-! ## What a step writes -/

theorem advance_shared (world : LiveWorld) (task : Task) (answer : Answer) :
    (task.advance world answer).1 = world ∨
      ((task.canFail = true → answer.fate.reached = true) ∧
        (task.advance world answer).1 = task.effect world answer.now) := by
  unfold Task.advance
  cases task.canFail <;> cases answer.fate.reached <;> simp

theorem advance_of_reached (world : LiveWorld) (task : Task) (h : answer.fate.reached = true) :
    (task.advance world answer).1 = task.effect world answer.now := by
  unfold Task.advance
  cases task.canFail <;> simp [h]

theorem advance_next {task next : Task} (h : next ∈ (task.advance world answer).2) :
    (next ∈ task.next world answer.now ∧ (task.canFail = true → answer.fate = .answered) ∧
        (task.advance world answer).1 = task.effect world answer.now) ∨
      next ∈ task.caught := by
  unfold Task.advance at h ⊢
  cases hfail : task.canFail with
  | false =>
    simp only [hfail, Bool.false_eq_true, if_false] at h ⊢
    exact .inl ⟨h, False.elim, trivial⟩
  | true =>
    simp only [hfail, if_true] at h ⊢
    by_cases hans : answer.fate = .answered
    · rw [if_pos hans] at h
      rw [hans]
      exact .inl ⟨h, fun _ => rfl, rfl⟩
    · rw [if_neg hans] at h
      exact .inr h

/-- The row a step writes back as a whole, cancelled. -/
def Task.savedOrder : Task → Option Order
  | .saveOther _ _ order => some order
  | .saveManual order _ => some order
  | _ => none

theorem get?_updateOrder (world : LiveWorld) (id id' : OrderId) (updateData : OrderUpdate) :
    (world.updateOrder id updateData).orders.get? id' =
      if id = id' then (world.orders.get? id').map updateData.apply
      else world.orders.get? id' := by
  unfold LiveWorld.updateOrder
  cases hrow : world.orders.get? id with
  | none =>
    split_ifs with heq
    · subst heq
      rw [hrow]
      rfl
    · rfl
  | some row =>
    show (world.orders.set id (updateData.apply row)).get? id' = _
    rw [OrdMap.get?_set]
    split_ifs with heq
    · subst heq
      rw [hrow]
      rfl
    · rfl

theorem get?_saveCanceled (world : LiveWorld) (order : Order) (id : OrderId) :
    (world.saveCanceled order).orders.get? id =
      if order.id = id then some { order with status := .canceled } else world.orders.get? id :=
  OrdMap.get?_set world.orders order.id id _

theorem effect_order (world : LiveWorld) (now : Instant) (task : Task) (id : OrderId) :
    (task.effect world now).orders.get? id = world.orders.get? id ∨
    (∃ existing exchangeOrder row, task = .update existing exchangeOrder ∧
      existing.id = id ∧ world.orders.get? id = some row ∧
      (task.effect world now).orders.get? id =
        some ((orderUpdate existing exchangeOrder).apply row)) ∨
    ∃ order, task.savedOrder = some order ∧ order.id = id ∧
      (task.effect world now).orders.get? id = some { order with status := .canceled } := by
  cases task with
  | update existing exchangeOrder =>
    by_cases hid : existing.id = id
    · cases hrow : world.orders.get? id with
      | none =>
        left
        rw [Task.effect, get?_updateOrder, if_pos hid, hrow]
        rfl
      | some row =>
        right; left
        refine ⟨existing, exchangeOrder, row, rfl, hid, rfl, ?_⟩
        rw [Task.effect, get?_updateOrder, if_pos hid, hrow]
        rfl
    · left
      rw [Task.effect, get?_updateOrder, if_neg hid]
  | saveOther exit filledId order | saveManual order =>
    by_cases hid : order.id = id
    · right; right
      refine ⟨order, rfl, hid, ?_⟩
      rw [Task.effect, get?_saveCanceled, if_pos hid]
    · left
      rw [Task.effect, get?_saveCanceled, if_neg hid]
  | _ => exact .inl rfl

@[simp] theorem apply_status (updateData : OrderUpdate) (order : Order) :
    (updateData.apply order).status = updateData.status.getD order.status := rfl

@[simp] theorem apply_orderId (updateData : OrderUpdate) (order : Order) :
    (updateData.apply order).orderId = order.orderId := rfl

theorem orderUpdate_status (existing : Order) (exchangeOrder : ExchangeOrder) :
    (orderUpdate existing exchangeOrder).status =
      if existing.status ≠ exchangeOrder.orderStatus then some exchangeOrder.orderStatus
      else none := rfl

theorem advance_status {id : OrderId} {before after : OrderStatus}
    (hold : world.statusOf id = some before)
    (hnew : (task.advance world answer).1.statusOf id = some after) (hne : before ≠ after) :
    (∃ existing exchangeOrder, task = .update existing exchangeOrder ∧
      existing.id = id ∧ existing.status ≠ exchangeOrder.orderStatus ∧
      after = exchangeOrder.orderStatus) ∨
    ∃ order, task.savedOrder = some order ∧ order.id = id ∧ after = .canceled := by
  rcases advance_shared world task answer with hsame | ⟨-, heff⟩
  · rw [hsame, hold] at hnew
    exact absurd (Option.some.inj hnew) hne
  · rw [heff] at hnew
    unfold LiveWorld.statusOf at hold hnew
    rcases effect_order world answer.now task id with hsame | hupd | hsave
    · rw [hsame, hold] at hnew
      exact absurd (Option.some.inj hnew) hne
    · obtain ⟨existing, exchangeOrder, row, htask, hid, hrow, hafter⟩ := hupd
      rw [hrow] at hold
      rw [hafter] at hnew
      have hold : row.status = before := Option.some.inj hold
      have hnew : (orderUpdate existing exchangeOrder).status.getD row.status = after :=
        Option.some.inj hnew
      rw [orderUpdate_status] at hnew
      split_ifs at hnew with hdiff
      · exact .inl ⟨existing, exchangeOrder, htask, hid, hdiff, hnew.symm⟩
      · exact absurd (hold.symm.trans hnew) hne
    · obtain ⟨order, htask, hid, hafter⟩ := hsave
      rw [hafter] at hnew
      exact .inr ⟨order, htask, hid, (Option.some.inj hnew).symm⟩

theorem effect_reported (world : LiveWorld) (now : Instant) (task : Task) :
    (task.effect world now).reported = world.reported := by
  cases task with
  | update =>
    show (world.updateOrder _ _).reported = _
    unfold LiveWorld.updateOrder
    split <;> rfl
  | _ => rfl

def Task.asksCancel : Task → Option Order
  | .cancelOther _ _ order => some order
  | .cancelManual order _ => some order
  | _ => none

theorem effect_cancelled (world : LiveWorld) (now : Instant) (task : Task) :
    (task.effect world now).cancelled =
      task.asksCancel.elim world.cancelled fun order => order.orderId :: world.cancelled := by
  cases task with
  | update =>
    show (world.updateOrder _ _).cancelled = _
    unfold LiveWorld.updateOrder
    split <;> rfl
  | _ => rfl

/-! ## Copies of rows -/

def ReadRow (world : LiveWorld) (order : Order) : Prop :=
  ∃ row, world.orders.get? order.id = some row ∧ row.orderId = order.orderId

theorem readRow_effect {now : Instant}
    (hsaved : ∀ saved, task.savedOrder = some saved → ReadRow world saved) {order : Order}
    (h : ReadRow world order) : ReadRow (task.effect world now) order := by
  obtain ⟨row, hrow, horder⟩ := h
  rcases effect_order world now task order.id with hsame | hupd | hsave
  · exact ⟨row, by rwa [hsame], horder⟩
  · obtain ⟨_, _, _, -, -, hrow', hafter⟩ := hupd
    rw [hrow] at hrow'
    cases hrow'
    exact ⟨_, hafter, by rwa [apply_orderId]⟩
  · obtain ⟨saved, htask, hid, hafter⟩ := hsave
    obtain ⟨_, hrow', horder'⟩ := hsaved saved htask
    rw [hid, hrow] at hrow'
    cases hrow'
    exact ⟨_, hafter, horder'.symm.trans horder⟩

end Chansey
