import Chansey.Live.Sync

/-!
# The life of an order

Which writes of the order tasks move the stored status of an order, and when these moves stay on the
state machine.

* `ConsistentReport`: what the exchange reports of an order never shrinks and never leaves a final
  status. `AcceptedCancel`: the exchange takes a cancellation only of an order that is not done, and
  takes every cancellation of a linked leg.
* `DoneAs`: the exchange has said or accepted that the order is done.
-/

namespace Chansey

open Remote Tasks

abbrev OrderPool := Pool LiveWorld Task

/-! ## What the exchange may say -/

def FitsReports (reported : List ExchangeOrder) (exchangeOrder : ExchangeOrder) : Prop :=
  ∀ earlier ∈ reported, earlier.id = exchangeOrder.id →
    earlier.filled.getD 0 ≤ exchangeOrder.filled.getD 0 ∧
      (earlier.final = true → exchangeOrder.orderStatus = earlier.orderStatus)

def ConsistentReport (pool : OrderPool) : Move Request Answer → Prop
  | .call (.report _ exchangeOrder) => FitsReports pool.shared.reported exchangeOrder
  | _ => True

def MayCancel (world : LiveWorld) (order : Order) : Prop :=
  ∀ earlier ∈ world.reported, earlier.id = order.orderId → earlier.final = true →
    earlier.orderStatus = .canceled

def AcceptedAnswer (world : LiveWorld) (answer : Answer) : Task → Prop
  | .cancelManual order _ => answer.fate.reached = true → MayCancel world order
  | .cancelOther _ _ order => answer.fate.reached = true ∧ MayCancel world order
  | .findOther _ _ otherOrderId =>
    ∀ order, world.orders.get? otherOrderId = some order →
      (!order.exchangeKeyId.all (· = "")) = true ∧ order.exchange.isSome = true
  | _ => True

def AcceptedCancel (pool : OrderPool) : Move Request Answer → Prop
  | .call (.report _ exchangeOrder) =>
    exchangeOrder.id ∈ pool.shared.cancelled → exchangeOrder.orderStatus = .canceled
  | .call (.cancelManualOrder _ _) => True
  | .advance position answer =>
    ∀ task, pool.inFlight[position]? = some task → AcceptedAnswer pool.shared answer task

def ConsistentMove (pool : OrderPool) (move : Move Request Answer) : Prop :=
  ConsistentReport pool move ∧ AcceptedCancel pool move

def DoneAs (world : LiveWorld) (orderId : ExchangeOrderId) (status : OrderStatus) : Prop :=
  (status = .canceled ∧ orderId ∈ world.cancelled) ∨
    ∃ exchangeOrder ∈ world.reported, exchangeOrder.id = orderId ∧ exchangeOrder.final = true ∧
      exchangeOrder.orderStatus = status

/-- The rows are filed under their ids, an order is done in one way only, and a stored status is
`NEW` or the one with which the order is done. -/
structure Coherent (world : LiveWorld) : Prop where
  filed : ∀ id row, world.orders.get? id = some row → row.id = id
  once : ∀ orderId status status', DoneAs world orderId status → DoneAs world orderId status' →
    status = status'
  agrees : ∀ id row, world.orders.get? id = some row →
    row.status = .new ∨ DoneAs world row.orderId row.status

/-! ## What explains a change -/

/-- The step that moves the stored status of `id` to `status`. A report does so after its history is
saved, a user cancel after it has read a status that is not terminal. -/
def Explains (world : LiveWorld) (id : OrderId) (status : OrderStatus) : Task → Prop
  | .update existing exchangeOrder =>
    existing.id = id ∧ status = exchangeOrder.orderStatus ∧
      ∃ record ∈ world.history, record.orderId = id ∧
        record.fromStatus = some existing.status ∧ record.toStatus = status ∧
        record.reason = .exchangeSync ∧
        record.flagged = !isValidTransition (some existing.status) status
  | .saveOther _ _ order => order.id = id ∧ status = .canceled
  | .saveManual order _ =>
    order.id = id ∧ status = .canceled ∧ isTerminalState order.status = false ∧
      isValidTransition (some order.status) status = true
  | _ => False

def MovesStatus (pool : OrderPool) (move : Move Request Answer) (id : OrderId)
    (before after : OrderStatus) : Prop :=
  pool.shared.statusOf id = some before ∧
    (orderTasks.step pool move).shared.statusOf id = some after ∧ before ≠ after

variable {pool : OrderPool} {move : Move Request Answer} {id : OrderId} {before after : OrderStatus}

theorem MovesStatus.task (h : MovesStatus pool move id before after) :
    ∃ position answer task, move = .advance position answer ∧
      pool.inFlight[position]? = some task ∧
      (task.advance pool.shared answer).1.statusOf id = some after := by
  obtain ⟨hbef, hafter, hne⟩ := h
  obtain ⟨request, -, hstep⟩ | ⟨position, answer, task, _, _, hmove, htask, -, hstep⟩ | hstep :=
    orderTasks.step_cases pool move
  · rw [hstep] at hafter
    refine absurd (Option.some.inj (hbef.symm.trans (Eq.trans ?_ hafter))) hne
    cases request <;> rfl
  · rw [hstep] at hafter
    exact ⟨position, answer, task, hmove, htask, hafter⟩
  · rw [hstep, hbef] at hafter
    exact absurd (Option.some.inj hafter) hne

/-! ## Every change is explained -/

variable {status : OrderStatus} {task : Task} {record : OrderStatusHistory} {world : LiveWorld}
  {exchangeOrder : ExchangeOrder}

theorem isValidTransition_canceled (h : isTerminalState status = false) :
    isValidTransition (some status) .canceled = true := by
  revert h
  cases status <;> decide

/-- What a task has checked or recorded before its next call. -/
def Prepared (world : LiveWorld) : Task → Prop
  | .update existing exchangeOrder =>
    existing.status ≠ exchangeOrder.orderStatus →
      ∃ now, syncTransition existing exchangeOrder now ∈ world.history
  | .cancelManual order _ => isTerminalState order.status = false
  | .saveManual order _ => isTerminalState order.status = false
  | _ => True

theorem Prepared.mono {world world' : LiveWorld}
    (hhist : ∀ record ∈ world.history, record ∈ world'.history) (h : Prepared world task) :
    Prepared world' task := by
  cases task with
  | update =>
    intro hne
    obtain ⟨now, hmem⟩ := h hne
    exact ⟨now, hhist _ hmem⟩
  | cancelManual | saveManual => exact h
  | _ => trivial

theorem effect_history (world : LiveWorld) (now : Instant) (task : Task)
    (h : record ∈ world.history) : record ∈ (task.effect world now).history := by
  cases task with
  | record => exact List.mem_append_left _ h
  | update =>
    show record ∈ (world.updateOrder _ _).history
    unfold LiveWorld.updateOrder
    split <;> exact h
  | _ => exact h

theorem advance_history (world : LiveWorld) (task : Task) (answer : Answer)
    (h : record ∈ world.history) : record ∈ (task.advance world answer).1.history := by
  rcases advance_shared world task answer with hsame | ⟨-, heff⟩
  · rwa [hsame]
  · rw [heff]
    exact effect_history world answer.now task h

theorem prepared_start (world : LiveWorld) (request : Request) :
    Keeps (fun _ => True) Prepared world (request.start world) := by
  refine ⟨trivial, fun task htask => ?_, fun task hheld => ?_⟩
  · obtain ⟨_, _, _, rfl, _, rfl | ⟨rfl, hsame⟩⟩ | ⟨_, _, _, rfl, rfl, _, hterm⟩ := start_task htask
    · trivial
    · exact fun hne => absurd hsame hne
    · exact hterm
  · refine hheld.mono fun record hrec => ?_
    cases request <;> exact hrec

theorem prepared_advance (world : LiveWorld) (task : Task) (answer : Answer)
    (hheld : Prepared world task) :
    Keeps (fun _ => True) Prepared world (task.advance world answer) := by
  refine ⟨trivial, fun next hnext => ?_, fun other hother =>
    hother.mono fun record hrec => advance_history world task answer hrec⟩
  rcases advance_next hnext with ⟨hnext, -, heff⟩ | hcaught
  · rw [heff]
    cases task with
    | record =>
      simp only [Task.next, Option.mem_def] at hnext
      split_ifs at hnext
      cases hnext
      exact fun _ => ⟨answer.now, List.mem_append_right _ List.mem_cons_self⟩
    | update =>
      simp only [Task.next, Option.mem_def] at hnext
      split_ifs at hnext
      cases hnext
      trivial
    | findPosition =>
      obtain ⟨_, -, hnext⟩ := Option.bind_eq_some_iff.mp hnext
      split_ifs at hnext
      split at hnext <;> (cases hnext; trivial)
    | findOther =>
      simp only [Task.next, Option.mem_def] at hnext
      split at hnext
      · cases hnext
        trivial
      · split_ifs at hnext <;> (cases hnext; trivial)
    | emit => cases hnext
    | findLinked =>
      obtain ⟨_, rfl, -, hterm⟩ := cancelManualOrderInternal_order hnext
      exact hterm
    | cancelManual =>
      cases hnext
      exact hheld
    | saveManual =>
      simp only [Task.next, Option.mem_def] at hnext
      split_ifs at hnext
      obtain ⟨_, -, rfl⟩ := Option.map_eq_some_iff.mp hnext
      trivial
    | _ => cases hnext; trivial
  · cases task <;> (try cases hcaught) <;> trivial

theorem moves_explained {start pool : OrderPool} (hidle : start.inFlight = [])
    (hrch : orderTasks.Reached (fun _ _ => True) start pool)
    (hmoves : MovesStatus pool move id before after) :
    ∃ position answer task, move = .advance position answer ∧
      pool.inFlight[position]? = some task ∧ Explains pool.shared id after task := by
  have hstart : Sound (fun _ => True) Prepared start :=
    ⟨trivial, fun task htask => by rw [hidle] at htask; cases htask⟩
  have hsound : Sound (fun _ => True) Prepared pool :=
    Program.Reached.sound (fun pool request _ _ => prepared_start pool.shared request)
      (fun pool position answer task _ hheld _ _ => prepared_advance pool.shared task answer hheld)
      hstart hrch
  obtain ⟨position, answer, task, hmove, htask, hafter⟩ := hmoves.task
  have hprepared := hsound.2 task (List.mem_of_getElem? htask)
  refine ⟨position, answer, task, hmove, htask, ?_⟩
  obtain ⟨_, _, rfl, rfl, hdiff, rfl⟩ | ⟨_, hsaved, rfl, rfl⟩ :=
    advance_status hmoves.1 hafter hmoves.2.2
  · obtain ⟨_, hmem⟩ := hprepared hdiff
    exact ⟨rfl, rfl, _, hmem, rfl, rfl, rfl, rfl, syncTransition_flagged _ _ _⟩
  · cases task with
    | saveOther =>
      cases hsaved
      exact ⟨rfl, rfl⟩
    | saveManual =>
      cases hsaved
      exact ⟨rfl, rfl, hprepared, isValidTransition_canceled hprepared⟩
    | _ => cases hsaved

/-! ## Consistent runs -/

theorem DoneAs.mono {world world' : LiveWorld} {orderId : ExchangeOrderId}
    (hrepd : ∀ exchangeOrder ∈ world.reported, exchangeOrder ∈ world'.reported)
    (hcancelled : ∀ id ∈ world.cancelled, id ∈ world'.cancelled) (h : DoneAs world orderId status) :
    DoneAs world' orderId status := by
  rcases h with ⟨hstat, hmem⟩ | ⟨exchangeOrder, hmem, h⟩
  · exact .inl ⟨hstat, hcancelled _ hmem⟩
  · exact .inr ⟨exchangeOrder, hrepd _ hmem, h⟩

def Informed (world : LiveWorld) : Task → Prop
  | .record existing exchangeOrder =>
    ReadRow world existing ∧ (existing.status ≠ exchangeOrder.orderStatus →
      DoneAs world existing.orderId exchangeOrder.orderStatus)
  | .update existing exchangeOrder =>
    ReadRow world existing ∧ (existing.status ≠ exchangeOrder.orderStatus →
      DoneAs world existing.orderId exchangeOrder.orderStatus)
  | .cancelOther _ _ order => ReadRow world order
  | .cancelManual order _ => ReadRow world order
  | .saveOther _ _ order => ReadRow world order ∧ DoneAs world order.orderId .canceled
  | .saveManual order _ => ReadRow world order ∧ DoneAs world order.orderId .canceled
  | _ => True

theorem Informed.mono {world world' : LiveWorld}
    (hset : ∀ orderId status, DoneAs world orderId status → DoneAs world' orderId status)
    (hread : ∀ order, ReadRow world order → ReadRow world' order) (h : Informed world task) :
    Informed world' task := by
  cases task with
  | record | update => exact ⟨hread _ h.1, fun hne => hset _ _ (h.2 hne)⟩
  | cancelOther | cancelManual => exact hread _ h
  | saveOther | saveManual => exact ⟨hread _ h.1, hset _ _ h.2⟩
  | _ => trivial

/-! ### Reports -/

theorem findExistingOrder_row {userId : String} {existing : Order}
    (h : findExistingOrder world exchangeOrder userId = some existing) :
    ∃ id, world.orders.get? id = some existing ∧ existing.orderId = exchangeOrder.id := by
  obtain ⟨⟨id, _⟩, hfind, rfl⟩ := Option.map_eq_some_iff.mp h
  have hmatch := List.find?_some hfind
  simp only [decide_eq_true_eq] at hmatch
  exact ⟨id, OrdMap.get?_eq_some_iff.mpr (List.mem_of_find?_eq_some hfind), hmatch.1⟩

theorem doneAs_agrees (hfits : FitsReports world.reported exchangeOrder)
    (hcancelled : exchangeOrder.id ∈ world.cancelled → exchangeOrder.orderStatus = .canceled)
    (h : DoneAs world exchangeOrder.id status) : exchangeOrder.orderStatus = status := by
  rcases h with ⟨rfl, hmem⟩ | ⟨earlier, hmem, hid, hfinal, rfl⟩
  · exact hcancelled hmem
  · exact (hfits earlier hmem hid).2 hfinal

section Report

variable {world : LiveWorld} {exchangeOrder : ExchangeOrder} {userId : String}
  (hfits : FitsReports world.reported exchangeOrder)
  (hcancelled : exchangeOrder.id ∈ world.cancelled → exchangeOrder.orderStatus = .canceled)

theorem doneAs_report {orderId : ExchangeOrderId} {status : OrderStatus}
    (h : DoneAs (Request.start world (.report userId exchangeOrder)).1 orderId status) :
    DoneAs world orderId status ∨
      (exchangeOrder.id = orderId ∧ exchangeOrder.final = true ∧
        exchangeOrder.orderStatus = status) := by
  rcases h with ⟨hstat, hmem⟩ | ⟨earlier, hmem, h⟩
  · exact .inl (Or.inl ⟨hstat, hmem⟩)
  · rcases List.mem_cons.mp hmem with rfl | hmem
    · exact .inr h
    · exact .inl (Or.inr ⟨earlier, hmem, h⟩)

theorem doneAs_mono_report {orderId : ExchangeOrderId} {status : OrderStatus}
    (h : DoneAs world orderId status) :
    DoneAs (Request.start world (.report userId exchangeOrder)).1 orderId status :=
  h.mono (fun _ hmem => List.mem_cons_of_mem _ hmem) fun _ hmem => hmem

include hfits hcancelled

theorem coherent_report (hcoh : Coherent world) :
    Coherent (Request.start world (.report userId exchangeOrder)).1 := by
  refine ⟨hcoh.filed, fun orderId status status' h h' => ?_, fun id row hrow => ?_⟩
  · rcases doneAs_report h with h | ⟨rfl, -, rfl⟩
    · rcases doneAs_report h' with h' | ⟨rfl, -, rfl⟩
      · exact hcoh.once orderId status status' h h'
      · exact (doneAs_agrees hfits hcancelled h).symm
    · rcases doneAs_report h' with h' | ⟨-, -, rfl⟩
      · exact doneAs_agrees hfits hcancelled h'
      · rfl
  · exact (hcoh.agrees id row hrow).imp_right doneAs_mono_report

theorem doneAs_of_differs (hcoh : Coherent world) {id : OrderId} {existing : Order}
    (hrow : world.orders.get? id = some existing)
    (horder : existing.orderId = exchangeOrder.id)
    (hne : existing.status ≠ exchangeOrder.orderStatus) :
    DoneAs (Request.start world (.report userId exchangeOrder)).1 existing.orderId
      exchangeOrder.orderStatus := by
  rcases orderStatus_cases exchangeOrder with hnew | hfinal
  · rcases hcoh.agrees id existing hrow with hstd | hset
    · exact absurd (hstd.trans hnew.symm) hne
    · rw [horder] at hset
      exact absurd (doneAs_agrees hfits hcancelled hset).symm hne
  · exact .inr ⟨exchangeOrder, List.mem_cons_self, horder.symm, hfinal, rfl⟩

end Report

theorem informed_start {request : Request} (hcoh : Coherent world)
    (hok : ∀ userId exchangeOrder, request = .report userId exchangeOrder →
      FitsReports world.reported exchangeOrder ∧
        (exchangeOrder.id ∈ world.cancelled → exchangeOrder.orderStatus = .canceled)) :
    Keeps Coherent Informed world (request.start world) := by
  cases request with
  | report userId exchangeOrder =>
    obtain ⟨hfits, hcancelled⟩ := hok userId exchangeOrder rfl
    refine ⟨coherent_report hfits hcancelled hcoh, fun task htask => ?_, fun task hheld =>
      hheld.mono (fun _ _ => doneAs_mono_report) fun _ hread => hread⟩
    obtain ⟨_, _, existing, hreq, hfind, htask⟩ | ⟨_, _, _, hreq, -⟩ := start_task htask
    · cases hreq
      obtain ⟨id, hrow, horder⟩ := findExistingOrder_row hfind
      have hread : ReadRow world existing :=
        ⟨existing, by rwa [hcoh.filed id existing hrow], rfl⟩
      have hset : existing.status ≠ exchangeOrder.orderStatus →
          DoneAs (Request.start world (.report userId exchangeOrder)).1 existing.orderId
            exchangeOrder.orderStatus :=
        doneAs_of_differs hfits hcancelled hcoh hrow horder
      rcases htask with rfl | ⟨rfl, -⟩
      · exact ⟨hread, hset⟩
      · exact ⟨hread, hset⟩
    · cases hreq
  | cancelManualOrder orderId =>
    refine ⟨hcoh, fun task htask => ?_, fun _ hheld => hheld⟩
    obtain ⟨_, _, _, hreq, -⟩ | ⟨_, _, order, hreq, rfl, hrow, -⟩ := start_task htask
    · cases hreq
    · cases hreq
      exact ⟨order, by rwa [hcoh.filed orderId order hrow], rfl⟩

/-! ### Steps of a task -/

section Advance

variable {world : LiveWorld} {now : Instant} {task : Task}

theorem doneAs_effect_mono {orderId : ExchangeOrderId} {status : OrderStatus}
    (h : DoneAs world orderId status) : DoneAs (task.effect world now) orderId status := by
  refine h.mono (fun exchangeOrder hmem => by rwa [effect_reported]) fun id hmem => ?_
  rw [effect_cancelled]
  cases task.asksCancel with
  | none => exact hmem
  | some => exact List.mem_cons_of_mem _ hmem

theorem doneAs_effect {orderId : ExchangeOrderId} {status : OrderStatus}
    (h : DoneAs (task.effect world now) orderId status) :
    DoneAs world orderId status ∨
      ∃ order, task.asksCancel = some order ∧ orderId = order.orderId ∧ status = .canceled := by
  rcases h with ⟨rfl, hmem⟩ | hrepd
  · rw [effect_cancelled] at hmem
    cases hasks : task.asksCancel with
    | none =>
      rw [hasks] at hmem
      exact .inl (Or.inl ⟨rfl, hmem⟩)
    | some order =>
      rw [hasks] at hmem
      rcases List.mem_cons.mp hmem with rfl | hmem
      · exact .inr ⟨order, rfl, rfl, rfl⟩
      · exact .inl (Or.inl ⟨rfl, hmem⟩)
  · rw [effect_reported] at hrepd
    exact .inl (Or.inr hrepd)

theorem informed_saved (h : Informed world task) {order : Order}
    (hsaved : task.savedOrder = some order) :
    ReadRow world order ∧ DoneAs world order.orderId .canceled := by
  cases task with
  | saveOther | saveManual =>
    cases hsaved
    exact h
  | _ => cases hsaved

theorem coherent_effect (hcoh : Coherent world) (hinf : Informed world task)
    (hcancel : ∀ order, task.asksCancel = some order → MayCancel world order) :
    Coherent (task.effect world now) := by
  -- An order whose cancellation is asked for is not done otherwise.
  have honly : ∀ order status, task.asksCancel = some order →
      DoneAs world order.orderId status → status = .canceled := by
    intro order status hasks hset
    rcases hset with ⟨rfl, -⟩ | ⟨earlier, hmem, hid, hfinal, rfl⟩
    · rfl
    · exact hcancel order hasks earlier hmem hid hfinal
  refine ⟨fun id row hrow => ?_, fun orderId status status' h h' => ?_, fun id row hrow => ?_⟩
  · rcases effect_order world now task id with hsame | hupd | hsave
    · exact hcoh.filed id row (by rwa [hsame] at hrow)
    · obtain ⟨_, _, row', -, -, hrow', hafter⟩ := hupd
      rw [hafter] at hrow
      cases hrow
      exact hcoh.filed id row' hrow'
    · obtain ⟨_, -, hid, hafter⟩ := hsave
      rw [hafter] at hrow
      cases hrow
      exact hid
  · rcases doneAs_effect h with h | ⟨order, hasks, rfl, rfl⟩
    · rcases doneAs_effect h' with h' | ⟨order, hasks, rfl, rfl⟩
      · exact hcoh.once orderId status status' h h'
      · exact honly order status hasks h
    · rcases doneAs_effect h' with h' | ⟨_, -, -, rfl⟩
      · exact (honly order status' hasks h').symm
      · rfl
  · rcases effect_order world now task id with hsame | hupd | hsave
    · rw [hsame] at hrow
      exact (hcoh.agrees id row hrow).imp_right doneAs_effect_mono
    · obtain ⟨_, _, row', rfl, hid, hrow', hafter⟩ := hupd
      rw [hafter] at hrow
      cases hrow
      obtain ⟨⟨_, hknown, horder⟩, hset⟩ := hinf
      rw [hid, hrow'] at hknown
      cases hknown
      rw [apply_status, apply_orderId, orderUpdate_status]
      split_ifs with hdiff
      · right
        rw [horder]
        exact doneAs_effect_mono (hset hdiff)
      · exact (hcoh.agrees id row' hrow').imp_right doneAs_effect_mono
    · obtain ⟨_, hsaved, -, hafter⟩ := hsave
      rw [hafter] at hrow
      cases hrow
      exact .inr (doneAs_effect_mono (informed_saved hinf hsaved).2)

end Advance

theorem informed_next {task next : Task} {answer : Answer} (hcoh : Coherent world)
    (hinf : Informed world task) (hacc : AcceptedAnswer world answer task)
    (hnext : next ∈ (task.advance world answer).2) :
    Informed (task.advance world answer).1 next := by
  rcases advance_next hnext with ⟨hnext, -, heff⟩ | hcaught
  · rw [heff]
    cases task with
    | record =>
      simp only [Task.next, Option.mem_def] at hnext
      split_ifs at hnext
      cases hnext
      exact ⟨hinf.1, fun hne => doneAs_effect_mono (hinf.2 hne)⟩
    | update =>
      simp only [Task.next, Option.mem_def] at hnext
      split_ifs at hnext
      cases hnext
      trivial
    | findPosition =>
      obtain ⟨exit, -, hnext⟩ := Option.bind_eq_some_iff.mp hnext
      split_ifs at hnext
      split at hnext <;> (cases hnext; trivial)
    | findOther exit filledId otherOrderId =>
      simp only [Task.next, Option.mem_def] at hnext
      split at hnext
      · cases hnext
        trivial
      · rename_i order hrow
        rw [if_pos (hacc order hrow)] at hnext
        cases hnext
        exact ⟨order, by rwa [hcoh.filed otherOrderId order hrow], rfl⟩
    | cancelOther | cancelManual =>
      cases hnext
      exact ⟨hinf, Or.inl ⟨rfl, List.mem_cons_self⟩⟩
    | emit => cases hnext
    | findLinked orderId =>
      obtain ⟨order, rfl, hrow, -⟩ := cancelManualOrderInternal_order hnext
      exact ⟨order, by rwa [hcoh.filed orderId order hrow], rfl⟩
    | saveManual =>
      simp only [Task.next, Option.mem_def] at hnext
      split_ifs at hnext
      obtain ⟨linked, -, rfl⟩ := Option.map_eq_some_iff.mp hnext
      trivial
    | _ => cases hnext; trivial
  · cases task with
    | cancelOther =>
      -- The failure is only logged, but the cancellation did take effect.
      cases hcaught
      rw [advance_of_reached world _ hacc.1]
      exact ⟨hinf, Or.inl ⟨rfl, List.mem_cons_self⟩⟩
    | findOther | saveOther => cases hcaught; trivial
    | _ => cases hcaught

theorem informed_advance {answer : Answer} (hcoh : Coherent world) (hinf : Informed world task)
    (hacc : AcceptedAnswer world answer task) :
    Keeps Coherent Informed world (task.advance world answer) := by
  have hcancel : (task.canFail = true → answer.fate.reached = true) →
      ∀ order, task.asksCancel = some order → MayCancel world order := by
    intro hrch order hasks
    cases task with
    | cancelOther =>
      cases hasks
      exact hacc.2
    | cancelManual =>
      cases hasks
      exact hacc (hrch rfl)
    | _ => cases hasks
  refine ⟨?_, fun next hnext => informed_next hcoh hinf hacc hnext, ?_⟩
  · rcases advance_shared world task answer with hsame | ⟨hrch, heff⟩
    · rwa [hsame]
    · rw [heff]
      exact coherent_effect hcoh hinf (hcancel hrch)
  · intro other hother
    rcases advance_shared world task answer with hsame | ⟨-, heff⟩
    · rwa [hsame]
    · rw [heff]
      exact hother.mono (fun _ _ => doneAs_effect_mono) fun _ hread =>
        readRow_effect (fun _ hsaved => (informed_saved hinf hsaved).1) hread

/-! ### Runs -/

theorem ConsistentMove.report {userId : String}
    (h : ConsistentMove pool (.call (.report userId exchangeOrder))) :
    FitsReports pool.shared.reported exchangeOrder ∧
      (exchangeOrder.id ∈ pool.shared.cancelled → exchangeOrder.orderStatus = .canceled) := h

theorem sound_step (hsound : Sound Coherent Informed pool) (hmove : ConsistentMove pool move) :
    Sound Coherent Informed (orderTasks.step pool move) := by
  refine hsound.step ?_ ?_
  · rintro request rfl
    refine informed_start hsound.1 ?_
    rintro userId exchangeOrder rfl
    exact hmove.report
  · rintro position answer task rfl htask hinf
    exact informed_advance hsound.1 hinf (hmove.2 task htask)

theorem sound_start {start : OrderPool} (hidle : start.inFlight = [])
    (hcoh : Coherent start.shared) : Sound Coherent Informed start := by
  refine ⟨hcoh, fun task htask => ?_⟩
  rw [hidle] at htask
  cases htask

/-- **A consistent move of a status leaves `NEW`, along a declared transition.** -/
theorem moves_declared (hsound : Sound Coherent Informed pool) (hmove : ConsistentMove pool move)
    (hmoves : MovesStatus pool move id before after) :
    before = .new ∧ isValidTransition (some before) after = true := by
  obtain ⟨_, _, task, rfl, htask, hafter⟩ := hmoves.task
  have hinf := hsound.2 task (List.mem_of_getElem? htask)
  obtain ⟨row, hrow, hstat⟩ := Option.map_eq_some_iff.mp hmoves.1
  -- The status it moves to is settled for the order, so the one it leaves is not.
  have hleav : ∀ order, ReadRow pool.shared order → order.id = id →
      DoneAs pool.shared order.orderId after → before = .new := by
    rintro order ⟨_, hrow', horder⟩ hid hset
    rw [hid, hrow] at hrow'
    cases hrow'
    rcases hsound.1.agrees id row hrow with hnew | hdone
    · exact hstat.symm.trans hnew
    · rw [horder, hstat] at hdone
      exact absurd (hsound.1.once _ _ _ hdone hset) hmoves.2.2
  obtain ⟨existing, exchangeOrder, rfl, hid, hdiff, rfl⟩ | ⟨order, hsaved, hid, rfl⟩ :=
    advance_status hmoves.1 hafter hmoves.2.2
  · have hnew := hleav existing hinf.1 hid (hinf.2 hdiff)
    exact ⟨hnew, by rw [hnew]; exact isValidTransition_orderStatus exchangeOrder⟩
  · obtain ⟨hread, hset⟩ := informed_saved hinf hsaved
    have hnew := hleav order hread hid hset
    exact ⟨hnew, by rw [hnew]; decide⟩

theorem statusOf_step (move : Move Request Answer) (h : pool.shared.statusOf id = some status) :
    ∃ after, (orderTasks.step pool move).shared.statusOf id = some after := by
  obtain ⟨row, hrow, -⟩ := Option.map_eq_some_iff.mp h
  have hkept : ∃ row', (orderTasks.step pool move).shared.orders.get? id = some row' := by
    obtain ⟨request, -, hstep⟩ | ⟨_, answer, task, _, _, -, -, -, hstep⟩ | hstep :=
      orderTasks.step_cases pool move
    · rw [hstep]
      cases request <;> exact ⟨row, hrow⟩
    · rw [hstep]
      rcases advance_shared pool.shared task answer with hsame | ⟨-, heff⟩
      · exact ⟨row, by rwa [← hsame] at hrow⟩
      · show ∃ row', (task.advance pool.shared answer).1.orders.get? id = some row'
        rw [heff]
        rcases effect_order pool.shared answer.now task id with hsame | hupd | hsave
        · exact ⟨row, by rwa [hsame]⟩
        · obtain ⟨_, _, _, _, _, _, hafter⟩ := hupd
          exact ⟨_, hafter⟩
        · obtain ⟨_, _, _, hafter⟩ := hsave
          exact ⟨_, hafter⟩
    · exact ⟨row, by rwa [hstep]⟩
  obtain ⟨row', hrow'⟩ := hkept
  exact ⟨row'.status, by rw [LiveWorld.statusOf, hrow']; rfl⟩

theorem terminal_final {pool later : OrderPool} (hsound : Sound Coherent Informed pool)
    (hlater : orderTasks.Reached ConsistentMove pool later) (hterm : isTerminalState status = true)
    (hstat : pool.shared.statusOf id = some status) : later.shared.statusOf id = some status := by
  have hstep : ∀ pool move,
      Sound Coherent Informed pool ∧ pool.shared.statusOf id = some status →
        ConsistentMove pool move →
          Sound Coherent Informed (orderTasks.step pool move) ∧
            (orderTasks.step pool move).shared.statusOf id = some status := by
    intro pool move h hmove
    refine ⟨sound_step h.1 hmove, ?_⟩
    obtain ⟨after, hafter⟩ := statusOf_step move h.2
    by_cases heq : status = after
    · rwa [heq]
    · have hnew := (moves_declared h.1 hmove ⟨h.2, hafter, heq⟩).1
      rw [hnew] at hterm
      exact absurd hterm (by decide)
  exact (hlater.invariant hstep ⟨hsound, hstat⟩).2

/-- **The life of an order.** A stored status is moved only by a step that explains it: a report to
the status it asks for, recorded and flagged exactly when the transition is not declared, and a user
cancel from a status that was not terminal. In a run whose reports and accepted cancellations fit
each other, a status moves only along declared transitions and a terminal one never moves. -/
theorem status_lifecycle {start : OrderPool} (hidle : start.inFlight = []) :
    (∀ pool, orderTasks.Reached (fun _ _ => True) start pool →
      ∀ move id before after, MovesStatus pool move id before after →
        ∃ position answer task, move = .advance position answer ∧
          pool.inFlight[position]? = some task ∧ Explains pool.shared id after task) ∧
    (Coherent start.shared → ∀ pool, orderTasks.Reached ConsistentMove start pool →
      (∀ move id before after, ConsistentMove pool move →
        MovesStatus pool move id before after →
          isValidTransition (some before) after = true ∧ isTerminalState before = false) ∧
      ∀ later, orderTasks.Reached ConsistentMove pool later → ∀ id status,
        isTerminalState status = true → pool.shared.statusOf id = some status →
          later.shared.statusOf id = some status) := by
  refine ⟨fun pool hreached move id before after hmoves =>
    moves_explained hidle hreached hmoves, fun hcoherent pool hreached => ?_⟩
  have hsound : Sound Coherent Informed pool :=
    hreached.invariant (fun _ _ hsound hmove => sound_step hsound hmove)
      (sound_start hidle hcoherent)
  refine ⟨fun move id before after hmove hmoves => ?_, fun later hlater id status hterminal
    hstatus => terminal_final hsound hlater hterminal hstatus⟩
  obtain ⟨hnew, hvalid⟩ := moves_declared hsound hmove hmoves
  exact ⟨hvalid, by rw [hnew]; decide⟩

/-! ## A cancelled order -/

def cancellableOrder : Order where
  id := "order"
  orderId := "exchange-order"
  clientOrderId := "exchange-order"
  symbol := "BTC/USDT"
  side := .buy
  type := .limit
  quantity := 1
  price := 100
  status := .new
  transactTime := 0
  isManual := true
  exchangeKeyId := some "key"
  exchange := some "binance"
  userId := "user"

def oneOrder : OrderPool where
  shared :=
    { orders := OrdMap.empty.set "order" cancellableOrder
      positionExits := OrdMap.empty }
  inFlight := []

def openReport : ExchangeOrder where
  id := "exchange-order"
  status := some "open"
  amount := some 1
  price := some 100

def answered : Answer where
  fate := .answered

def staleReport : List (Move Request Answer) :=
  [.call (.cancelManualOrder "order" "user"), .advance 0 answered, .advance 0 answered,
    .call (.report "user" openReport), .advance 0 answered]

theorem oneOrder_rows {row : Order} (h : oneOrder.shared.orders.get? id = some row) :
    id = "order" ∧ row = cancellableOrder := by
  have hget := OrdMap.get?_set (OrdMap.empty : OrdMap OrderId Order) "order" id cancellableOrder
  rw [show (OrdMap.empty.set "order" cancellableOrder).get? id = some row from h] at hget
  split_ifs at hget with hid
  · exact ⟨hid.symm, Option.some.inj hget⟩
  · cases hget

theorem oneOrder_coherent : Coherent oneOrder.shared := by
  refine ⟨fun id row hrow => ?_, fun orderId status status' h => ?_, fun id row hrow => ?_⟩
  · obtain ⟨rfl, rfl⟩ := oneOrder_rows hrow
    rfl
  · rcases h with ⟨-, hmem⟩ | ⟨_, hmem, -⟩ <;> cases hmem
  · obtain ⟨-, rfl⟩ := oneOrder_rows hrow
    exact .inl rfl

def userCancels : List (Move Request Answer) :=
  [.call (.cancelManualOrder "order" "user"), .advance 0 answered, .advance 0 answered]

def canceledReport : ExchangeOrder where
  id := "exchange-order"
  status := some "canceled"
  amount := some 1
  price := some 100

theorem userCancels_consistent : orderTasks.AllMeet ConsistentMove oneOrder userCancels := by
  refine ⟨⟨trivial, trivial⟩, ⟨trivial, ?_⟩, ⟨trivial, ?_⟩, trivial⟩
  · rintro task htask
    cases htask
    exact fun _ earlier hmem => absurd hmem List.not_mem_nil
  · rintro task htask
    cases htask
    trivial

theorem status_lifecycle_canceled :
    (orderTasks.run (orderTasks.run oneOrder userCancels)
      [.call (.report "user" canceledReport)]).shared.statusOf "order" = some .canceled := by
  have hreport : ConsistentMove (orderTasks.run oneOrder userCancels)
      (.call (.report "user" canceledReport)) := by
    refine ⟨fun earlier hmem => absurd hmem List.not_mem_nil, fun _ => ?_⟩
    show canceledReport.orderStatus = .canceled
    decide
  have hlater : orderTasks.Reached ConsistentMove (orderTasks.run oneOrder userCancels)
      (orderTasks.run (orderTasks.run oneOrder userCancels)
        [.call (.report "user" canceledReport)]) :=
    Program.reached_run ⟨hreport, trivial⟩
  exact ((@status_lifecycle oneOrder rfl).2 oneOrder_coherent _
    (Program.reached_run userCancels_consistent)).2 _ hlater "order" .canceled (by decide)
      (by decide +kernel)

/-- **The status of a cancelled order moves back.** The reports of the run are consistent. -/
theorem status_leaves_machine :
    orderTasks.AllMeet ConsistentReport oneOrder staleReport ∧
      MovesStatus (orderTasks.run oneOrder staleReport) (.advance 0 answered) "order" .canceled
        .new ∧
      isValidTransition (some .canceled) .new = false ∧ isTerminalState .canceled = true := by
  refine ⟨⟨trivial, trivial, trivial, ?_, trivial, trivial⟩, ?_, by decide, by decide⟩
  · exact fun earlier hmem => absurd hmem List.not_mem_nil
  · unfold MovesStatus
    decide +kernel

end Chansey
