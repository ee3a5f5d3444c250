import Chansey.Live.Sync

/-!
# One cancels the other

A position whose stop-loss and take-profit orders are linked: when one is filled, the other is to be
cancelled.

* `LinkedLegs`, `Linked`: the two legs, and the rows that link them.
* `HandlesOnce`: no fill of a leg is delivered to a position that is being handled or was, and what
  is done for a fill succeeds.
-/

namespace Chansey

open Remote Tasks

inductive Leg where
  | stopLoss | takeProfit

def Leg.other : Leg → Leg
  | .stopLoss => .takeProfit
  | .takeProfit => .stopLoss

def Leg.status : Leg → PositionExitStatus
  | .stopLoss => .stopLossTriggered
  | .takeProfit => .takeProfitTriggered

structure LinkedLegs where
  position : String
  stopLoss : OrderId
  takeProfit : OrderId
  distinct : stopLoss ≠ takeProfit
  stopLoss_ne : stopLoss ≠ ""
  takeProfit_ne : takeProfit ≠ ""

def PositionExit.refersTo (exit : PositionExit) (orderId : OrderId) : Prop :=
  exit.stopLossOrderId = some orderId ∨ exit.takeProfitOrderId = some orderId

structure SameLegs (exit changed : PositionExit) : Prop where
  id : changed.id = exit.id
  stopLoss : changed.stopLossOrderId = exit.stopLossOrderId
  takeProfit : changed.takeProfitOrderId = exit.takeProfitOrderId
  linked : changed.ocoLinked = exit.ocoLinked

namespace LinkedLegs

variable (legs : LinkedLegs)

def order : Leg → OrderId
  | .stopLoss => legs.stopLoss
  | .takeProfit => legs.takeProfit

def Has (orderId : OrderId) : Prop := ∃ leg, orderId = legs.order leg

def events (world : LiveWorld) : List PositionExitFilledPayload :=
  world.emitted.filter (·.positionExitId = legs.position)

structure Linked (world : LiveWorld) : Prop where
  filed : ∀ id exit, world.positionExits.get? id = some exit → exit.id = id
  position : ∃ exit, world.positionExits.get? legs.position = some exit ∧
    exit.ocoLinked = true ∧ exit.stopLossOrderId = some legs.stopLoss ∧
      exit.takeProfitOrderId = some legs.takeProfit
  only : ∀ id exit, world.positionExits.get? id = some exit →
    ∀ leg, exit.refersTo (legs.order leg) → id = legs.position
  orders : ∀ id row, world.orders.get? id = some row → row.id = id
  rows : ∀ leg, ∃ row, world.orders.get? (legs.order leg) = some row

end LinkedLegs

theorem SameLegs.refl (exit : PositionExit) : SameLegs exit exit :=
  ⟨rfl, rfl, rfl, rfl⟩

theorem SameLegs.refersTo {exit changed : PositionExit} (h : SameLegs exit changed)
    (orderId : OrderId) : changed.refersTo orderId ↔ exit.refersTo orderId := by
  unfold PositionExit.refersTo
  rw [h.stopLoss, h.takeProfit]

theorem sameLegs_triggeredBy (exit : PositionExit) (filledId : OrderId)
    (filledOrder : Option Order) (now : Instant) :
    SameLegs exit (triggeredBy exit filledId filledOrder now) := by
  unfold triggeredBy
  cases filledOrder <;> exact ⟨rfl, rfl, rfl, rfl⟩

theorem triggeredBy_status (exit : PositionExit) (filledId : OrderId)
    (filledOrder : Option Order) (now : Instant) :
    (triggeredBy exit filledId filledOrder now).status =
      if exit.stopLossOrderId = some filledId then .stopLossTriggered
      else .takeProfitTriggered := by
  unfold triggeredBy
  cases filledOrder <;> rfl

/-! ## The legs stay linked -/

def Task.handled : Task → Option (PositionExit × OrderId)
  | .findOther exit filledId _ => some (exit, filledId)
  | .cancelOther exit filledId _ => some (exit, filledId)
  | .saveOther exit filledId _ => some (exit, filledId)
  | .findFilled exit filledId => some (exit, filledId)
  | .savePosition exit filledId => some (exit, filledId)
  | .emit exit filledId => some (exit, filledId)
  | _ => none

def ReadPosition (world : LiveWorld) (exit : PositionExit) : Prop :=
  ∃ row, world.positionExits.get? exit.id = some row ∧ SameLegs row exit

/-- What a task has read is still there, with the same ids. -/
structure Copies (world : LiveWorld) (task : Task) : Prop where
  asked : ∀ order, task.asksCancel = some order → ReadRow world order
  saved : ∀ order, task.savedOrder = some order → ReadRow world order
  position : ∀ exit filledId, task.handled = some (exit, filledId) →
    ReadPosition world exit ∧ exit.refersTo filledId

theorem effect_positionExits (world : LiveWorld) (now : Instant) (task : Task) :
    (task.effect world now).positionExits = world.positionExits ∨
      ∃ exit filledId, task = .savePosition exit filledId ∧
        (task.effect world now).positionExits =
          world.positionExits.set exit.id exit := by
  cases task with
  | update =>
    left
    show (world.updateOrder _ _).positionExits = _
    unfold LiveWorld.updateOrder
    split <;> rfl
  | savePosition exit filledId => exact .inr ⟨exit, filledId, rfl, rfl⟩
  | _ => exact .inl rfl

theorem effect_emitted (world : LiveWorld) (now : Instant) (task : Task) :
    (task.effect world now).emitted = world.emitted ∨
      ∃ exit filledId, task = .emit exit filledId ∧
        (task.effect world now).emitted = world.emitted ++ [filledPayload exit] := by
  cases task with
  | update =>
    left
    show (world.updateOrder _ _).emitted = _
    unfold LiveWorld.updateOrder
    split <;> rfl
  | emit exit filledId => exact .inr ⟨exit, filledId, rfl, rfl⟩
  | _ => exact .inl rfl

section Linked

variable {legs : LinkedLegs} {world : LiveWorld} {now : Instant} {task : Task}

variable {exit : PositionExit} {filledId : OrderId} {next : Task}

theorem readPosition_effect (hcop : Copies world task) (h : ReadPosition world exit) :
    ReadPosition (task.effect world now) exit := by
  obtain ⟨row, hrow, hsame⟩ := h
  rcases effect_positionExits world now task with heq | ⟨saved, filledId, rfl, heq⟩
  · exact ⟨row, by rwa [heq], hsame⟩
  · by_cases hid : saved.id = exit.id
    · obtain ⟨_, hrow', hsaved⟩ := (hcop.position saved filledId rfl).1
      rw [hid, hrow] at hrow'
      cases hrow'
      refine ⟨saved, by rw [heq, hid, OrdMap.get?_set_self], ?_⟩
      exact ⟨hid.symm, hsame.stopLoss.trans hsaved.stopLoss.symm,
        hsame.takeProfit.trans hsaved.takeProfit.symm, hsame.linked.trans hsaved.linked.symm⟩
    · exact ⟨row, by rwa [heq, OrdMap.get?_set_of_ne _ _ hid], hsame⟩

theorem copies_effect (hcop : Copies world task) {other : Task} (h : Copies world other) :
    Copies (task.effect world now) other where
  asked order horder := readRow_effect hcop.saved (h.asked order horder)
  saved order horder := readRow_effect hcop.saved (h.saved order horder)
  position exit filledId hhand :=
    ⟨readPosition_effect hcop (h.position exit filledId hhand).1,
      (h.position exit filledId hhand).2⟩

theorem linked_effect (hlink : legs.Linked world) (hcop : Copies world task) :
    legs.Linked (task.effect world now) := by
  -- A position of the new table has the legs of one of the old table.
  have hold : ∀ id exit, (task.effect world now).positionExits.get? id = some exit →
      exit.id = id ∧
        ∃ row, world.positionExits.get? id = some row ∧ SameLegs row exit := by
    intro id exit hget
    rcases effect_positionExits world now task with heq | ⟨_, filledId, rfl, heq⟩
    · rw [heq] at hget
      exact ⟨hlink.filed id exit hget, exit, hget, SameLegs.refl exit⟩
    · rw [heq, OrdMap.get?_set] at hget
      split_ifs at hget with hid
      · cases hget
        obtain ⟨row, _, hsame⟩ := (hcop.position exit filledId rfl).1
        exact ⟨hid, row, by rwa [← hid], hsame⟩
      · exact ⟨hlink.filed id exit hget, exit, hget, SameLegs.refl exit⟩
  refine ⟨fun id exit hget => (hold id exit hget).1, ?_, ?_, ?_, ?_⟩
  · obtain ⟨exit, hget, hoco, hstop, hprof⟩ := hlink.position
    have hread : ReadPosition (task.effect world now) exit :=
      readPosition_effect hcop ⟨exit, by
        rwa [hlink.filed _ _ hget], SameLegs.refl exit⟩
    obtain ⟨row, hrow, hsame⟩ := hread
    rw [hlink.filed _ _ hget] at hrow
    exact ⟨row, hrow, hsame.linked.symm.trans hoco, hsame.stopLoss.symm.trans hstop,
      hsame.takeProfit.symm.trans hprof⟩
  · intro id exit hget leg href
    obtain ⟨-, row, hrow, hsame⟩ := hold id exit hget
    exact hlink.only id row hrow leg ((hsame.refersTo _).mp href)
  · intro id row hrow
    rcases effect_order world now task id with heq | hupd | hsave
    · exact hlink.orders id row (by rwa [heq] at hrow)
    · obtain ⟨_, _, row', -, -, hrow', hafter⟩ := hupd
      rw [hafter] at hrow
      cases hrow
      exact hlink.orders id row' hrow'
    · obtain ⟨_, -, hid, hafter⟩ := hsave
      rw [hafter] at hrow
      cases hrow
      exact hid
  · intro leg
    obtain ⟨row, hrow⟩ := hlink.rows leg
    have hread : ReadRow world row := ⟨row, by rwa [hlink.orders _ _ hrow], rfl⟩
    have hkept : ReadRow (task.effect world now) row := readRow_effect hcop.saved hread
    obtain ⟨row', hrow', -⟩ := hkept
    exact ⟨row', by rwa [hlink.orders _ _ hrow] at hrow'⟩

theorem findPositionOf_row (h : findPositionOf world filledId = some exit) :
    (∃ id, world.positionExits.get? id = some exit) ∧
      exit.refersTo filledId := by
  obtain ⟨⟨id, _⟩, hfind, rfl⟩ := Option.map_eq_some_iff.mp h
  have hmatch := List.find?_some hfind
  rw [decide_eq_true_eq] at hmatch
  exact ⟨⟨id, OrdMap.get?_eq_some_iff.mpr (List.mem_of_find?_eq_some hfind)⟩, hmatch⟩

theorem next_findPosition (h : next ∈ Task.next world now (.findPosition filledId)) :
    ∃ exit, findPositionOf world filledId = some exit ∧
      (next = .findFilled exit filledId ∧
          otherLeg exit filledId = none ∨
        ∃ otherOrderId, next = .findOther exit filledId otherOrderId ∧
          otherLeg exit filledId = some otherOrderId) := by
  obtain ⟨exit, hfind, hnext⟩ := Option.bind_eq_some_iff.mp h
  refine ⟨exit, hfind, ?_⟩
  split_ifs at hnext
  split at hnext
  · rename_i otherOrderId hother
    cases hnext
    exact .inr ⟨otherOrderId, rfl, hother⟩
  · rename_i hother
    cases hnext
    exact .inl ⟨rfl, hother⟩

theorem next_findOther {filledId otherOrderId : OrderId}
    (h : next ∈ Task.next world now (.findOther exit filledId otherOrderId)) :
    (next = .findFilled exit filledId ∧ world.orders.get? otherOrderId = none) ∨
      ∃ order, world.orders.get? otherOrderId = some order ∧
        (next = .cancelOther exit filledId order ∨
          next = .saveOther exit filledId order ∧
            ¬ ((!order.exchangeKeyId.all (· = "")) = true ∧ order.exchange.isSome = true)) := by
  simp only [Task.next, Option.mem_def] at h
  split at h
  · rename_i hrow
    cases h
    exact .inl ⟨rfl, hrow⟩
  · rename_i order hrow
    right
    refine ⟨order, hrow, ?_⟩
    split_ifs at h with hkey
    · cases h
      exact .inl rfl
    · cases h
      exact .inr ⟨rfl, hkey⟩

theorem copies_of_none (hasked : next.asksCancel = none) (hsaved : next.savedOrder = none)
    (hhand : next.handled = none) : Copies world next where
  asked order horder := by rw [hasked] at horder; cases horder
  saved order horder := by rw [hsaved] at horder; cases horder
  position exit filledId h := by rw [hhand] at h; cases h

theorem copies_of_position (hposn : ReadPosition world exit)
    (href : exit.refersTo filledId) (hasked : next.asksCancel = none)
    (hsaved : next.savedOrder = none) (hhand : next.handled = some (exit, filledId)) :
    Copies world next where
  asked order horder := by rw [hasked] at horder; cases horder
  saved order horder := by rw [hsaved] at horder; cases horder
  position copy orderId h := by
    rw [hhand] at h
    cases h
    exact ⟨hposn, href⟩

theorem copies_of_handled (hcop : Copies world task)
    (hhand : ∀ exit filledId, next.handled = some (exit, filledId) →
      ∃ copy, task.handled = some (copy, filledId) ∧ SameLegs copy exit)
    (hasked : next.asksCancel = none) (hsaved : next.savedOrder = none) : Copies world next where
  asked order horder := by rw [hasked] at horder; cases horder
  saved order horder := by rw [hsaved] at horder; cases horder
  position exit filledId h := by
    obtain ⟨copy, hcopy, hsame⟩ := hhand exit filledId h
    obtain ⟨⟨row, _, hlegs⟩, href⟩ := hcop.position copy filledId hcopy
    refine ⟨⟨row, by rwa [hsame.id], ?_⟩, (hsame.refersTo filledId).mpr href⟩
    exact ⟨hsame.id.trans hlegs.id, hsame.stopLoss.trans hlegs.stopLoss,
      hsame.takeProfit.trans hlegs.takeProfit, hsame.linked.trans hlegs.linked⟩

theorem copies_next (hlink : legs.Linked world) (hcop : Copies world task)
    (h : next ∈ task.next world now ∨ next ∈ task.caught) : Copies world next := by
  have hread : ∀ id order, world.orders.get? id = some order → ReadRow world order :=
    fun id order horder => ⟨order, by rwa [hlink.orders id order horder], rfl⟩
  -- Going on with the same copy of the position.
  have hsame : ∀ exit filledId,
      task.handled = some (exit, filledId) → ∀ copy orderId,
        some (exit, filledId) = some (copy, orderId) →
          ∃ read, task.handled = some (read, orderId) ∧ SameLegs read copy := by
    rintro exit filledId hhand copy orderId heq
    cases heq
    exact ⟨exit, hhand, SameLegs.refl exit⟩
  cases task with
  | record | update =>
    rcases h with h | h
    · simp only [Task.next, Option.mem_def] at h
      split_ifs at h
      cases h
      exact copies_of_none rfl rfl rfl
    · cases h
  | findPosition =>
    rcases h with h | h
    · obtain ⟨exit, hfind, hnext⟩ := next_findPosition h
      obtain ⟨⟨id, hid⟩, href⟩ := findPositionOf_row hfind
      have hposn : ReadPosition world exit :=
        ⟨exit, by rwa [hlink.filed id exit hid], SameLegs.refl exit⟩
      rcases hnext with ⟨rfl, -⟩ | ⟨_, rfl, -⟩
      all_goals exact copies_of_position hposn href rfl rfl rfl
    · cases h
  | findOther =>
    rcases h with h | h
    · obtain ⟨rfl, -⟩ | ⟨order, horder, rfl | ⟨rfl, -⟩⟩ := next_findOther h
      · exact copies_of_handled hcop (hsame _ _ rfl) rfl rfl
      · refine ⟨?_, (by intro _ h; cases h), hcop.position⟩
        rintro _ ⟨⟩
        exact hread _ order horder
      · refine ⟨(by intro _ h; cases h), ?_, hcop.position⟩
        rintro _ ⟨⟩
        exact hread _ order horder
    · cases h
      exact copies_of_handled hcop (hsame _ _ rfl) rfl rfl
  | cancelOther =>
    rcases h with h | h <;> cases h <;> exact ⟨(by intro _ h; cases h), hcop.asked, hcop.position⟩
  | saveOther =>
    rcases h with h | h <;> cases h <;> exact copies_of_handled hcop (hsame _ _ rfl) rfl rfl
  | findFilled exit =>
    rcases h with h | h
    · cases h
      refine copies_of_handled hcop ?_ rfl rfl
      rintro _ _ ⟨⟩
      exact ⟨exit, rfl, sameLegs_triggeredBy _ _ _ _⟩
    · cases h
  | savePosition =>
    rcases h with h | h
    · cases h
      exact copies_of_handled hcop (hsame _ _ rfl) rfl rfl
    · cases h
  | emit => rcases h with h | h <;> cases h
  | findLinked =>
    rcases h with h | h
    · obtain ⟨order, rfl, horder, -⟩ := cancelManualOrderInternal_order h
      exact ⟨(by rintro _ ⟨⟩; exact hread _ order horder), (by intro _ h; cases h),
        (by intro _ _ h; cases h)⟩
    · cases h
  | cancelManual =>
    rcases h with h | h
    · cases h
      exact ⟨(by intro _ h; cases h), hcop.asked, (by intro _ _ h; cases h)⟩
    · cases h
  | saveManual =>
    rcases h with h | h
    · simp only [Task.next, Option.mem_def] at h
      split_ifs at h
      obtain ⟨_, -, rfl⟩ := Option.map_eq_some_iff.mp h
      exact copies_of_none rfl rfl rfl
    · cases h

theorem linked_step {pool : Pool LiveWorld Task} {move : Move Request Answer}
    (h : Sound legs.Linked Copies pool) : Sound legs.Linked Copies (orderTasks.step pool move) := by
  refine h.step ?_ ?_
  · rintro request -
    have hlink : legs.Linked (request.start pool.shared).1 := by
      cases request <;> exact ⟨h.1.filed, h.1.position, h.1.only, h.1.orders, h.1.rows⟩
    refine ⟨hlink, fun task htask => ?_, fun other hother => ?_⟩
    · obtain ⟨_, _, _, rfl, _, rfl | ⟨rfl, -⟩⟩ | ⟨orderId, _, order, rfl, rfl, horder, -⟩ :=
        start_task htask
      · exact copies_of_none rfl rfl rfl
      · exact copies_of_none rfl rfl rfl
      · refine ⟨?_, (by intro _ h; cases h), (by intro _ _ h; cases h)⟩
        rintro _ ⟨⟩
        exact ⟨order, by rwa [h.1.orders orderId order horder], rfl⟩
    · cases request <;> exact ⟨hother.asked, hother.saved, hother.position⟩
  · rintro position answer task - - hcop
    refine ⟨?_, fun next hnext => ?_, fun other hother => ?_⟩
    · show legs.Linked (task.advance pool.shared answer).1
      rcases advance_shared pool.shared task answer with hsame | ⟨-, heff⟩
      · rw [hsame]
        exact h.1
      · rw [heff]
        exact linked_effect h.1 hcop
    · have hread : Copies pool.shared next := by
        have hgoes : next ∈ task.next pool.shared answer.now ∨ next ∈ task.caught :=
          (advance_next hnext).imp_left And.left
        exact copies_next h.1 hcop hgoes
      show Copies (task.advance pool.shared answer).1 next
      rcases advance_shared pool.shared task answer with hsame | ⟨-, heff⟩
      · rwa [hsame]
      · rw [heff]
        exact copies_effect hcop hread
    · show Copies (task.advance pool.shared answer).1 other
      rcases advance_shared pool.shared task answer with hsame | ⟨-, heff⟩
      · rwa [hsame]
      · rw [heff]
        exact copies_effect hcop hother

end Linked

/-! ## Handling a fill -/

def Task.fill : Task → Option OrderId
  | .findPosition filledId => some filledId
  | task => task.handled.map Prod.snd

namespace LinkedLegs

variable (legs : LinkedLegs)

def handles (task : Task) : Bool :=
  task.fill = some legs.stopLoss || task.fill = some legs.takeProfit

def Untouched (world : LiveWorld) : Prop :=
  (∃ exit, world.positionExits.get? legs.position = some exit ∧
    exit.status = .active) ∧ legs.events world = []

/-- The leg is cancelled or recorded as filled, and the exchange has accepted its cancellation. -/
def LegClosed (world : LiveWorld) (leg : Leg) : Prop :=
  ∃ row, world.orders.get? (legs.order leg) = some row ∧
    (row.status = .filled ∨ row.status = .canceled) ∧ row.orderId ∈ world.cancelled

/-- The fill of `leg` has been handled: the position has the status of the leg, and its event was
sent once. -/
def Handled (world : LiveWorld) (leg : Leg) : Prop :=
  legs.LegClosed world leg.other ∧
    (∃ exit, world.positionExits.get? legs.position = some exit ∧
      exit.status = leg.status) ∧
    ∃ event, legs.events world = [event] ∧ event.status = leg.status

/-- How far the handling of a fill of `leg` has come. -/
def At (world : LiveWorld) (leg : Leg) : Task → Prop
  | .findPosition filledId => filledId = legs.order leg ∧ legs.Untouched world
  | .findOther exit filledId otherOrderId =>
    exit.id = legs.position ∧ filledId = legs.order leg ∧
      otherOrderId = legs.order leg.other ∧ legs.Untouched world
  | .cancelOther exit filledId order =>
    exit.id = legs.position ∧ filledId = legs.order leg ∧
      order.id = legs.order leg.other ∧ legs.Untouched world
  | .saveOther exit filledId order =>
    exit.id = legs.position ∧ filledId = legs.order leg ∧
      order.id = legs.order leg.other ∧ order.orderId ∈ world.cancelled ∧ legs.Untouched world
  | .findFilled exit filledId =>
    exit.id = legs.position ∧ filledId = legs.order leg ∧
      legs.LegClosed world leg.other ∧ legs.Untouched world
  | .savePosition exit filledId =>
    exit.id = legs.position ∧ filledId = legs.order leg ∧
      exit.status = leg.status ∧ legs.LegClosed world leg.other ∧ legs.Untouched world
  | .emit exit filledId =>
    world.positionExits.get? legs.position = some exit ∧ filledId = legs.order leg ∧
      exit.status = leg.status ∧ legs.LegClosed world leg.other ∧ legs.events world = []
  | _ => False

/-- The fills of the legs are handled one at a time, and only one of them ever. -/
def Phase (pool : Pool LiveWorld Task) : Prop :=
  match pool.inFlight.filter legs.handles with
  | [] => legs.Untouched pool.shared ∨ ∃ leg, legs.Handled pool.shared leg
  | [task] => ∃ leg, legs.At pool.shared leg task
  | _ => False

/-! ### Deliveries that are handled once -/

/-- What a step for a leg may meet. A report that newly marks the leg as filled finds the position
untouched and no fill of it being handled; it does not reopen a leg that is filled or cancelled; what
is done for a fill succeeds. -/
def AnswersOnce (pool : Pool LiveWorld Task) (answer : Answer) (task : Task) : Prop :=
  (legs.handles task = true → task.canFail = true → answer.fate = .answered) ∧
  match task with
  | .update existing exchangeOrder =>
    legs.Has existing.id →
      (answer.fate = .answered → existing.status ≠ .filled →
        exchangeOrder.orderStatus = .filled →
          legs.Untouched pool.shared ∧ ∀ other ∈ pool.inFlight, legs.handles other = false) ∧
      (answer.fate.reached = true → existing.status ≠ exchangeOrder.orderStatus →
        ∀ row, pool.shared.orders.get? existing.id = some row →
          row.status = .filled ∨ row.status = .canceled →
            exchangeOrder.orderStatus = .filled ∨ exchangeOrder.orderStatus = .canceled)
  | .findOther _ filledId otherOrderId =>
    legs.Has filledId → ∀ order, pool.shared.orders.get? otherOrderId = some order →
      (!order.exchangeKeyId.all (· = "")) = true ∧ order.exchange.isSome = true
  | _ => True

def HandlesOnce (pool : Pool LiveWorld Task) : Move Request Answer → Prop
  | .call _ => True
  | .advance position answer =>
    ∀ task, pool.inFlight[position]? = some task → legs.AnswersOnce pool answer task

variable {legs}

variable {task : Task} {world : LiveWorld} {leg : Leg} {exit : PositionExit}
  {filledId : OrderId} {answer : Answer} {pool : Pool LiveWorld Task}
  {move : Move Request Answer}

theorem handles_iff : legs.handles task = true ↔ ∃ leg, task.fill = some (legs.order leg) := by
  unfold handles
  rw [Bool.or_eq_true, decide_eq_true_eq, decide_eq_true_eq]
  constructor
  · rintro (h | h)
    · exact ⟨.stopLoss, h⟩
    · exact ⟨.takeProfit, h⟩
  · rintro ⟨leg, h⟩
    cases leg with
    | stopLoss => exact .inl h
    | takeProfit => exact .inr h

theorem At.handles (h : legs.At world leg task) : legs.handles task = true := by
  refine handles_iff.mpr ⟨leg, ?_⟩
  cases task with
  | findPosition => exact congrArg some h.1
  | findOther | cancelOther | saveOther | findFilled | savePosition | emit =>
    exact congrArg some h.2.1
  | _ => exact False.elim h

/-! ### Steps beside the handling -/

/-- What a step that handles no fill of the legs leaves as it is. -/
structure Frame (world world' : LiveWorld) : Prop where
  position : world'.positionExits.get? legs.position = world.positionExits.get? legs.position
  events : legs.events world' = legs.events world
  closed : ∀ leg, legs.LegClosed world leg → legs.LegClosed world' leg
  cancelled : ∀ id ∈ world.cancelled, id ∈ world'.cancelled

theorem Untouched.frame {world world' : LiveWorld} (h : legs.Untouched world)
    (hframe : legs.Frame world world') : legs.Untouched world' := by
  unfold Untouched
  rw [hframe.position, hframe.events]
  exact h

theorem Handled.frame {world world' : LiveWorld} (h : legs.Handled world leg)
    (hframe : legs.Frame world world') : legs.Handled world' leg := by
  refine ⟨hframe.closed _ h.1, ?_, ?_⟩
  · rw [hframe.position]
    exact h.2.1
  · rw [hframe.events]
    exact h.2.2

theorem At.frame {world world' : LiveWorld} (h : legs.At world leg task)
    (hframe : legs.Frame world world') : legs.At world' leg task := by
  cases task with
  | findPosition => exact ⟨h.1, h.2.frame hframe⟩
  | findOther | cancelOther => exact ⟨h.1, h.2.1, h.2.2.1, h.2.2.2.frame hframe⟩
  | saveOther =>
    exact ⟨h.1, h.2.1, h.2.2.1, hframe.cancelled _ h.2.2.2.1, h.2.2.2.2.frame hframe⟩
  | findFilled => exact ⟨h.1, h.2.1, hframe.closed _ h.2.2.1, h.2.2.2.frame hframe⟩
  | savePosition =>
    exact ⟨h.1, h.2.1, h.2.2.1, hframe.closed _ h.2.2.2.1, h.2.2.2.2.frame hframe⟩
  | emit =>
    refine ⟨by rw [hframe.position]; exact h.1, h.2.1, h.2.2.1, hframe.closed _ h.2.2.2.1, ?_⟩
    rw [hframe.events]
    exact h.2.2.2.2
  | _ => exact False.elim h

theorem Linked.position_legs (hlink : legs.Linked world)
    (hrow : world.positionExits.get? legs.position = some exit) :
    exit.ocoLinked = true ∧ exit.stopLossOrderId = some legs.stopLoss ∧
      exit.takeProfitOrderId = some legs.takeProfit := by
  obtain ⟨_, hrow', hlegs⟩ := hlink.position
  rw [hrow] at hrow'
  cases hrow'
  exact hlegs

theorem handles_of_position (hlink : legs.Linked world) (hcop : Copies world task)
    (hhand : task.handled = some (exit, filledId))
    (hfill : task.fill = some filledId) (hid : exit.id = legs.position) :
    legs.handles task = true := by
  obtain ⟨⟨_, hrow, hsame⟩, href⟩ := hcop.position exit filledId hhand
  rw [hid] at hrow
  obtain ⟨-, hstop, hprof⟩ := hlink.position_legs hrow
  rcases (hsame.refersTo filledId).mp href with hleg | hleg
  · rw [hstop] at hleg
    exact handles_iff.mpr ⟨.stopLoss, by rw [hfill, ← hleg]; rfl⟩
  · rw [hprof] at hleg
    exact handles_iff.mpr ⟨.takeProfit, by rw [hfill, ← hleg]; rfl⟩

theorem frame_refl (world : LiveWorld) : legs.Frame world world :=
  ⟨rfl, rfl, fun _ h => h, fun _ h => h⟩

theorem frame_effect {now : Instant} (hlink : legs.Linked world) (hcop : Copies world task)
    (hother : legs.handles task = false)
    (hreopen : ∀ existing exchangeOrder, task = .update existing exchangeOrder →
      legs.Has existing.id → existing.status ≠ exchangeOrder.orderStatus →
        ∀ row, world.orders.get? existing.id = some row →
          row.status = .filled ∨ row.status = .canceled →
            exchangeOrder.orderStatus = .filled ∨ exchangeOrder.orderStatus = .canceled) :
    legs.Frame world (task.effect world now) := by
  have hcanc : ∀ id ∈ world.cancelled, id ∈ (task.effect world now).cancelled := by
    intro id hmem
    rw [effect_cancelled]
    cases task.asksCancel with
    | none => exact hmem
    | some => exact List.mem_cons_of_mem _ hmem
  refine ⟨?_, ?_, fun leg hclos => ?_, hcanc⟩
  · rcases effect_positionExits world now task with heq | ⟨_, _, rfl, heq⟩
    · rw [heq]
    · rw [heq, OrdMap.get?_set_of_ne]
      intro hid
      rw [handles_of_position hlink hcop rfl rfl hid] at hother
      cases hother
  · unfold events
    rcases effect_emitted world now task with heq | ⟨exit, _, rfl, heq⟩
    · rw [heq]
    · have hne : (filledPayload exit).positionExitId ≠ legs.position := by
        intro hid
        rw [handles_of_position hlink hcop rfl rfl hid] at hother
        cases hother
      rw [heq, List.filter_append, List.filter_cons_of_neg (by simpa using hne), List.filter_nil,
        List.append_nil]
  · obtain ⟨row, hrow, hstat, hmem⟩ := hclos
    rcases effect_order world now task (legs.order leg) with heq | hupd | hsave
    · exact ⟨row, by rwa [heq], hstat, hcanc _ hmem⟩
    · obtain ⟨existing, exchangeOrder, _, rfl, hid, hrow', hafter⟩ := hupd
      rw [hrow] at hrow'
      cases hrow'
      refine ⟨_, hafter, ?_, hcanc _ hmem⟩
      rw [apply_status, orderUpdate_status]
      split_ifs with hdiff
      · exact hreopen existing exchangeOrder rfl ⟨leg, hid⟩ hdiff row (by rwa [hid]) hstat
      · exact hstat
    · obtain ⟨order, hsaved, hid, hafter⟩ := hsave
      obtain ⟨_, hrow', horder⟩ := hcop.saved order hsaved
      rw [hid, hrow] at hrow'
      cases hrow'
      refine ⟨_, hafter, Or.inr rfl, ?_⟩
      show order.orderId ∈ _
      rw [← horder]
      exact hcanc _ hmem

/-! ### Steps of the handling -/

theorem findPositionOf_leg (hlink : legs.Linked world) (leg : Leg) :
    ∃ exit, findPositionOf world (legs.order leg) = some exit ∧
      world.positionExits.get? legs.position = some exit := by
  obtain ⟨row, hrow, -, hstop, hprof⟩ := hlink.position
  have href : row.refersTo (legs.order leg) := by
    cases leg with
    | stopLoss => exact .inl hstop
    | takeProfit => exact .inr hprof
  cases hfind : findPositionOf world (legs.order leg) with
  | none =>
    have hmem := OrdMap.get?_eq_some_iff.mp hrow
    have hno := List.find?_eq_none.mp (Option.map_eq_none_iff.mp hfind) _ hmem
    rw [decide_eq_true_eq] at hno
    exact absurd href hno
  | some exit =>
    obtain ⟨⟨id, hid⟩, href'⟩ := findPositionOf_row hfind
    refine ⟨exit, rfl, ?_⟩
    rwa [hlink.only id exit hid leg href'] at hid

theorem otherLeg_leg (leg : Leg) (hstop : exit.stopLossOrderId = some legs.stopLoss)
    (hprof : exit.takeProfitOrderId = some legs.takeProfit) :
    otherLeg exit (legs.order leg) = some (legs.order leg.other) := by
  unfold otherLeg
  cases leg with
  | stopLoss =>
    show (if exit.stopLossOrderId = some legs.stopLoss then exit.takeProfitOrderId
      else exit.stopLossOrderId).filter (· ≠ "") = some legs.takeProfit
    rw [if_pos hstop, hprof]
    simp [legs.takeProfit_ne]
  | takeProfit =>
    show (if exit.stopLossOrderId = some legs.takeProfit then exit.takeProfitOrderId
      else exit.stopLossOrderId).filter (· ≠ "") = some legs.stopLoss
    rw [if_neg, hstop]
    · simp [legs.stopLoss_ne]
    · rw [hstop]
      exact fun h => legs.distinct (Option.some.inj h)

theorem triggeredBy_leg (leg : Leg) (hstop : exit.stopLossOrderId = some legs.stopLoss)
    (filledOrder : Option Order) (now : Instant) :
    (triggeredBy exit (legs.order leg) filledOrder now).status = leg.status := by
  rw [triggeredBy_status, hstop]
  cases leg with
  | stopLoss => exact if_pos rfl
  | takeProfit => exact if_neg fun h => legs.distinct (Option.some.inj h)

theorem copy_legs (hlink : legs.Linked world) (hcop : Copies world task)
    (hhand : task.handled = some (exit, filledId))
    (hid : exit.id = legs.position) :
    exit.stopLossOrderId = some legs.stopLoss := by
  obtain ⟨⟨_, hrow, hsame⟩, -⟩ := hcop.position exit filledId hhand
  rw [hid] at hrow
  exact hsame.stopLoss.trans (hlink.position_legs hrow).2.1

theorem advance_answered (h : task.canFail = true → answer.fate = .answered) :
    task.advance world answer = (task.effect world answer.now, task.next world answer.now) := by
  unfold Task.advance
  cases hfail : task.canFail with
  | false => rfl
  | true =>
    rw [if_pos rfl, h hfail]
    rfl

theorem at_step (hlink : legs.Linked pool.shared) (hcop : Copies pool.shared task)
    (hat : legs.At pool.shared leg task) (hok : legs.AnswersOnce pool answer task) :
    (∃ next, (task.advance pool.shared answer).2 = some next ∧
        legs.At (task.advance pool.shared answer).1 leg next) ∨
      (task.advance pool.shared answer).2 = none ∧
        legs.Handled (task.advance pool.shared answer).1 leg := by
  rw [advance_answered (hok.1 hat.handles)]
  cases task with
  | findPosition =>
    obtain ⟨rfl, hunt⟩ := hat
    obtain ⟨exit, hfind, hrow⟩ := findPositionOf_leg hlink leg
    obtain ⟨hoco, hstop, hprof⟩ := hlink.position_legs hrow
    refine .inl ⟨.findOther exit (legs.order leg) (legs.order leg.other), ?_,
      hlink.filed _ _ hrow, rfl, rfl, hunt⟩
    simp only [Task.next, hfind, Option.bind_some, hoco, if_true, otherLeg_leg leg hstop hprof]
  | findOther exit =>
    obtain ⟨hid, rfl, rfl, hunt⟩ := hat
    obtain ⟨row, hrow⟩ := hlink.rows leg.other
    have hkey := hok.2 ⟨leg, rfl⟩ row hrow
    refine .inl ⟨.cancelOther exit (legs.order leg) row, ?_, hid, rfl,
      hlink.orders _ _ hrow, hunt⟩
    simp only [Task.next, hrow]
    rw [if_pos hkey]
  | cancelOther =>
    obtain ⟨hid, rfl, horder, hunt⟩ := hat
    exact .inl ⟨_, rfl, hid, rfl, horder, List.mem_cons_self, hunt⟩
  | saveOther exit filledId order =>
    obtain ⟨hid, rfl, horder, hmem, hunt⟩ := hat
    refine .inl ⟨_, rfl, hid, rfl, ⟨{ order with status := .canceled }, ?_, Or.inr rfl, hmem⟩, hunt⟩
    show (pool.shared.saveCanceled order).orders.get? _ = _
    rw [get?_saveCanceled, if_pos horder]
  | findFilled exit =>
    obtain ⟨hid, rfl, hclos, hunt⟩ := hat
    have hstop := copy_legs hlink hcop rfl hid
    refine .inl ⟨_, rfl, ?_, rfl, triggeredBy_leg leg hstop _ _, hclos, hunt⟩
    exact (sameLegs_triggeredBy exit _ _ _).id.trans hid
  | savePosition exit =>
    obtain ⟨hid, rfl, hstat, hclos, hunt⟩ := hat
    refine .inl ⟨_, rfl, ?_, rfl, hstat, hclos, hunt.2⟩
    show (pool.shared.positionExits.set exit.id exit).get? _ = _
    rw [hid, OrdMap.get?_set_self]
  | emit exit =>
    obtain ⟨hrow, rfl, hstat, hclos, hevs⟩ := hat
    refine .inr ⟨rfl, hclos, ⟨exit, hrow, hstat⟩, filledPayload exit, ?_, hstat⟩
    have hid : (filledPayload exit).positionExitId = legs.position := hlink.filed _ _ hrow
    unfold events at hevs ⊢
    show (pool.shared.emitted ++ [filledPayload exit]).filter _ = _
    rw [List.filter_append, hevs, List.nil_append]
    exact List.filter_cons_of_pos (by simpa using hid)
  | _ => exact False.elim hat

/-! ### Runs -/

theorem phase_iff :
    legs.Phase pool ↔
      (pool.inFlight.filter legs.handles = [] ∧
        (legs.Untouched pool.shared ∨ ∃ leg, legs.Handled pool.shared leg)) ∨
      ∃ task, pool.inFlight.filter legs.handles = [task] ∧ ∃ leg, legs.At pool.shared leg task := by
  unfold Phase
  cases hhandlers : pool.inFlight.filter legs.handles with
  | nil => simp
  | cons task rest =>
    cases rest with
    | nil | cons => simp

theorem Phase.frame {pool pool' : Pool LiveWorld Task} (h : legs.Phase pool)
    (hframe : legs.Frame pool.shared pool'.shared)
    (heq : pool'.inFlight.filter legs.handles = pool.inFlight.filter legs.handles) :
    legs.Phase pool' := by
  rw [phase_iff] at h ⊢
  rw [heq]
  rcases h with ⟨hnone, hunt | ⟨leg, hhand⟩⟩ | ⟨task, hone, leg, hat⟩
  · exact .inl ⟨hnone, Or.inl (hunt.frame hframe)⟩
  · exact .inl ⟨hnone, Or.inr ⟨leg, hhand.frame hframe⟩⟩
  · exact .inr ⟨task, hone, leg, hat.frame hframe⟩

theorem next_handles {task next : Task} (hother : legs.handles task = false)
    (hnext : next ∈ (task.advance world answer).2) (hhands : legs.handles next = true) :
    ∃ existing exchangeOrder, task = .update existing exchangeOrder ∧
      legs.Has existing.id ∧ existing.status ≠ .filled ∧
      exchangeOrder.orderStatus = .filled ∧ next = .findPosition existing.id ∧
      answer.fate = .answered := by
  -- A task that goes on with the same fill handles it already.
  have hsame : next.fill = task.fill → False := by
    intro hfill
    obtain ⟨leg, hleg⟩ := handles_iff.mp hhands
    rw [handles_iff.mpr ⟨leg, hfill.symm.trans hleg⟩] at hother
    cases hother
  have hnone : next.fill = none → False := by
    intro hfill
    obtain ⟨_, hleg⟩ := handles_iff.mp hhands
    rw [hfill] at hleg
    cases hleg
  rcases advance_next hnext with ⟨hgoes, hansd, -⟩ | hcaught
  · cases task with
    | record =>
      simp only [Task.next, Option.mem_def] at hgoes
      split_ifs at hgoes
      cases hgoes
      exact (hnone rfl).elim
    | update existing exchangeOrder =>
      simp only [Task.next, Option.mem_def] at hgoes
      split_ifs at hgoes with hfld
      cases hgoes
      obtain ⟨leg, hleg⟩ := handles_iff.mp hhands
      refine ⟨existing, exchangeOrder, rfl, ⟨leg, Option.some.inj hleg⟩, hfld.1, hfld.2,
        rfl, hansd rfl⟩
    | findPosition =>
      obtain ⟨_, -, ⟨rfl, -⟩ | ⟨_, rfl, -⟩⟩ := next_findPosition hgoes
      · exact (hsame rfl).elim
      · exact (hsame rfl).elim
    | findOther =>
      obtain ⟨rfl, -⟩ | ⟨_, -, rfl | ⟨rfl, -⟩⟩ := next_findOther hgoes
      all_goals exact (hsame rfl).elim
    | emit => cases hgoes
    | findLinked =>
      obtain ⟨_, rfl, -⟩ := cancelManualOrderInternal_order hgoes
      exact (hnone rfl).elim
    | cancelManual => cases hgoes; exact (hnone rfl).elim
    | saveManual =>
      simp only [Task.next, Option.mem_def] at hgoes
      split_ifs at hgoes
      obtain ⟨_, -, rfl⟩ := Option.map_eq_some_iff.mp hgoes
      exact (hnone rfl).elim
    | _ => cases hgoes; exact (hsame rfl).elim
  · cases task with
    | findOther | cancelOther | saveOther => cases hcaught; exact (hsame rfl).elim
    | _ => cases hcaught

theorem frame_advance (hlink : legs.Linked pool.shared) (hcop : Copies pool.shared task)
    (hother : legs.handles task = false) (hok : legs.AnswersOnce pool answer task) :
    legs.Frame pool.shared (task.advance pool.shared answer).1 := by
  rcases advance_shared pool.shared task answer with hsame | ⟨hrch, heff⟩
  · rw [hsame]
    exact frame_refl pool.shared
  · rw [heff]
    refine frame_effect hlink hcop hother ?_
    rintro existing exchangeOrder rfl hleg hdiff
    exact (hok.2 hleg).2 (hrch rfl) hdiff

theorem filter_next (next : Option Task) :
    next.toList.filter legs.handles = (next.filter legs.handles).toList := by
  cases next with
  | none => rfl
  | some task => cases h : legs.handles task <;> simp [Option.filter, h]

theorem phase_step (hsound : Sound legs.Linked Copies pool) (hphase : legs.Phase pool)
    (hok : legs.HandlesOnce pool move) : legs.Phase (orderTasks.step pool move) := by
  obtain ⟨request, -, hstep⟩ | ⟨_, answer, task, before, after, rfl, htask, hsplit, hstep⟩ |
    hstep := orderTasks.step_cases pool move
  · rw [hstep]
    have hframe : legs.Frame pool.shared (request.start pool.shared).1 := by
      cases request <;> exact ⟨rfl, rfl, fun _ h => h, fun _ h => h⟩
    refine hphase.frame hframe ?_
    have hnone : (request.start pool.shared).2.toList.filter legs.handles = [] := by
      rw [List.filter_eq_nil_iff]
      intro next hnext
      obtain ⟨_, _, _, -, -, rfl | ⟨rfl, -⟩⟩ | ⟨_, _, _, -, rfl, -⟩ :=
        start_task (Option.mem_toList.mp hnext)
      all_goals exact Bool.false_ne_true
    show (pool.inFlight ++ (request.start pool.shared).2.toList).filter legs.handles = _
    rw [List.filter_append, hnone, List.append_nil]
  · rw [hstep]
    have hcop := hsound.2 task (List.mem_of_getElem? htask)
    have hanss := hok task htask
    have hnew : (before ++ ((task.advance pool.shared answer).2.toList ++ after)).filter
        legs.handles = before.filter legs.handles ++
          (((task.advance pool.shared answer).2.filter legs.handles).toList ++
            after.filter legs.handles) := by
      rw [List.filter_append, List.filter_append, filter_next]
    cases hhands : legs.handles task with
    | true =>
      -- The task is the only one that handles a fill of the legs.
      have hold : pool.inFlight.filter legs.handles =
          before.filter legs.handles ++ task :: after.filter legs.handles := by
        rw [hsplit, List.filter_append, List.filter_cons_of_pos hhands]
      obtain ⟨hnone, -⟩ | ⟨only, hone, leg, hat⟩ := phase_iff.mp hphase
      · rw [hold] at hnone
        simp at hnone
      · rw [hold] at hone
        obtain ⟨hbef, hrest⟩ : before.filter legs.handles = [] ∧
            task :: after.filter legs.handles = [only] := by
          rcases List.append_eq_singleton_iff.mp hone with h | ⟨-, h⟩
          · exact h
          · cases h
        obtain ⟨rfl, hafter⟩ := List.cons.inj hrest
        rw [hbef, hafter, List.nil_append, List.append_nil] at hnew
        rw [phase_iff]
        rcases at_step hsound.1 hcop hat hanss with ⟨next, hnext, hat'⟩ | ⟨hend, hhand⟩
        · right
          refine ⟨next, Eq.trans hnew ?_, leg, hat'⟩
          rw [hnext]
          simp [Option.filter, hat'.handles]
        · left
          refine ⟨Eq.trans hnew ?_, Or.inr ⟨leg, hhand⟩⟩
          rw [hend]
          rfl
    | false =>
      have hframe := frame_advance hsound.1 hcop hhands hanss
      have hold : pool.inFlight.filter legs.handles =
          before.filter legs.handles ++ after.filter legs.handles := by
        rw [hsplit, List.filter_append, List.filter_cons_of_neg (by simp [hhands])]
      cases hnext : (task.advance pool.shared answer).2.filter legs.handles with
      | none =>
        refine hphase.frame hframe ?_
        rw [hold]
        rw [hnext] at hnew
        exact hnew
      | some =>
        obtain ⟨hmem, hnexthandles⟩ := Option.filter_eq_some_iff.mp hnext
        obtain ⟨existing, _, rfl, hleg, hnot, hfld, rfl, hansd⟩ :=
          next_handles hhands hmem hnexthandles
        obtain ⟨hunt, hfree⟩ := (hanss.2 hleg).1 hansd hnot hfld
        have hempty : pool.inFlight.filter legs.handles = [] := by
          rw [List.filter_eq_nil_iff]
          intro other hother
          rw [hfree other hother]
          exact Bool.false_ne_true
        obtain ⟨hbef, hafter⟩ := List.append_eq_nil_iff.mp (hold.symm.trans hempty)
        obtain ⟨leg, hid⟩ := hleg
        rw [phase_iff]
        right
        refine ⟨.findPosition existing.id, ?_, leg, hid, hunt.frame hframe⟩
        rw [hnext, hbef, hafter] at hnew
        exact hnew
  · rwa [hstep]

theorem position_kept (hsound : Sound legs.Linked Copies pool) (hphase : legs.Phase pool)
    (hok : legs.HandlesOnce pool move)
    (hrow : pool.shared.positionExits.get? legs.position = some exit)
    (hstat : exit.status ≠ .active) :
    (orderTasks.step pool move).shared.positionExits.get? legs.position = some exit := by
  obtain ⟨request, -, hstep⟩ | ⟨position, answer, task, _, _, rfl, htask, _, hstep⟩ |
    hstep := orderTasks.step_cases pool move
  · rw [hstep]
    cases request <;> exact hrow
  · rw [hstep]
    show (task.advance pool.shared answer).1.positionExits.get? legs.position = some exit
    have hcop := hsound.2 task (List.mem_of_getElem? htask)
    cases hhands : legs.handles task with
    | false =>
      rw [(frame_advance hsound.1 hcop hhands (hok task htask)).position]
      exact hrow
    | true =>
      rcases advance_shared pool.shared task answer with hsame | ⟨-, heff⟩
      · rwa [hsame]
      · rw [heff]
        rcases effect_positionExits pool.shared answer.now task with heq | ⟨saved, _, rfl, -⟩
        · rwa [heq]
        · -- Only an active position is saved.
          have hmem := List.mem_filter.mpr ⟨List.mem_of_getElem? htask, hhands⟩
          obtain ⟨hnone, -⟩ | ⟨_, hone, _, hat⟩ := phase_iff.mp hphase
          · rw [hnone] at hmem
            cases hmem
          · rw [hone] at hmem
            rw [← List.mem_singleton.mp hmem] at hat
            obtain ⟨_, hact, hrowactive⟩ := hat.2.2.2.2.1
            rw [hrow] at hact
            cases hact
            exact absurd hrowactive hstat
  · rwa [hstep]

/-! ### Exclusion -/

variable (legs) in
/-- The position is active, or one leg determines its status and the other leg is closed; its event
was sent at most once, and with that status. -/
def Exclusive (world : LiveWorld) : Prop :=
  ∃ exit, world.positionExits.get? legs.position = some exit ∧
    (exit.status = .active ∨
      ∃ leg : Leg, exit.status = leg.status ∧ legs.LegClosed world leg.other) ∧
    (legs.events world).length ≤ 1 ∧
    ∀ event ∈ legs.events world, event.status = exit.status

theorem Untouched.exclusive (h : legs.Untouched world) : legs.Exclusive world := by
  obtain ⟨⟨exit, hrow, hact⟩, hevs⟩ := h
  refine ⟨exit, hrow, Or.inl hact, ?_, ?_⟩
  · rw [hevs]
    exact Nat.zero_le 1
  · rw [hevs]
    exact fun _ hmem => absurd hmem List.not_mem_nil

theorem Handled.exclusive (h : legs.Handled world leg) : legs.Exclusive world := by
  obtain ⟨hclos, ⟨exit, hrow, hstat⟩, _, hevs, heventstatus⟩ := h
  refine ⟨exit, hrow, Or.inr ⟨leg, hstat, hclos⟩, ?_, ?_⟩
  · rw [hevs]
    exact le_rfl
  · rw [hevs]
    intro other hmem
    rw [List.mem_singleton.mp hmem]
    exact heventstatus.trans hstat.symm

theorem At.exclusive (h : legs.At world leg task) : legs.Exclusive world := by
  cases task with
  | findPosition => exact h.2.exclusive
  | findOther | cancelOther | findFilled => exact h.2.2.2.exclusive
  | saveOther | savePosition => exact h.2.2.2.2.exclusive
  | emit exit =>
    obtain ⟨hrow, -, hstat, hclos, hevs⟩ := h
    refine ⟨exit, hrow, Or.inr ⟨leg, hstat, hclos⟩, ?_, ?_⟩
    · rw [hevs]
      exact Nat.zero_le 1
    · rw [hevs]
      exact fun _ hmem => absurd hmem List.not_mem_nil
  | _ => exact False.elim h

theorem Phase.exclusive (h : legs.Phase pool) : legs.Exclusive pool.shared := by
  obtain ⟨-, hunt | ⟨leg, hhand⟩⟩ | ⟨_, -, leg, hat⟩ := phase_iff.mp h
  · exact hunt.exclusive
  · exact hhand.exclusive
  · exact hat.exclusive

end LinkedLegs

/-- **One cancels the other.** In every state of a run whose moves all handle once, one leg at most
has determined the status of the position, its event was emitted at most once, and the other leg is
closed; a position that is no longer active is not written again. -/
theorem oco_exclusive {legs : LinkedLegs} {start : Pool LiveWorld Task}
    (hlinked : legs.Linked start.shared) (hidle : start.inFlight = [])
    (huntouched : legs.Untouched start.shared) {pool : Pool LiveWorld Task}
    (hreached : orderTasks.Reached legs.HandlesOnce start pool) :
    legs.Exclusive pool.shared ∧
      ∀ exit, pool.shared.positionExits.get? legs.position = some exit →
        exit.status ≠ .active →
          ∀ later, orderTasks.Reached legs.HandlesOnce pool later →
            later.shared.positionExits.get? legs.position = some exit := by
  have hstart : Sound legs.Linked Copies start ∧ legs.Phase start := by
    refine ⟨⟨hlinked, fun task htask => ?_⟩, ?_⟩
    · rw [hidle] at htask
      cases htask
    · rw [LinkedLegs.phase_iff, hidle]
      exact .inl ⟨rfl, Or.inl huntouched⟩
  have hkept : ∀ pool move, Sound legs.Linked Copies pool ∧ legs.Phase pool →
      legs.HandlesOnce pool move →
        Sound legs.Linked Copies (orderTasks.step pool move) ∧
          legs.Phase (orderTasks.step pool move) :=
    fun pool move h hok => ⟨linked_step h.1, LinkedLegs.phase_step h.1 h.2 hok⟩
  have hreach := hreached.invariant hkept hstart
  refine ⟨hreach.2.exclusive, fun exit hrow hstatus later hlater => ?_⟩
  have hstep : ∀ pool move,
      (Sound legs.Linked Copies pool ∧ legs.Phase pool) ∧
          pool.shared.positionExits.get? legs.position = some exit →
        legs.HandlesOnce pool move →
          (Sound legs.Linked Copies (orderTasks.step pool move) ∧
              legs.Phase (orderTasks.step pool move)) ∧
            (orderTasks.step pool move).shared.positionExits.get? legs.position =
              some exit :=
    fun pool move h hok => ⟨hkept pool move h.1 hok,
      LinkedLegs.position_kept h.1.1 h.1.2 hok h.2 hstatus⟩
  exact (hlater.invariant hstep ⟨hreach, hrow⟩).2

/-! ## Both legs fill -/

def legOrder (id exchangeOrderId : String) (type : OrderType) : Order where
  id := id
  orderId := exchangeOrderId
  clientOrderId := exchangeOrderId
  symbol := "BTC/USDT"
  side := .sell
  type := type
  quantity := 1
  price := 100
  status := .new
  transactTime := 0
  isManual := false
  exchangeKeyId := some "key"
  exchange := some "binance"
  userId := "user"

def filledEntry : EntryOrder where
  id := "entry"
  userId := "user"
  symbol := "BTC/USDT"
  side := .buy
  entryPrice := 100
  quantity := 1

def linkedPosition : PositionExit :=
  newPositionExit "position" filledEntry DEFAULT_EXIT_CONFIG none
    { stopLossOrderId := some "stop", takeProfitOrderId := some "profit", ocoLinked := true }

def bothLegs : LinkedLegs where
  position := "position"
  stopLoss := "stop"
  takeProfit := "profit"
  distinct := by decide
  stopLoss_ne := by decide
  takeProfit_ne := by decide

def linkedStart : Pool LiveWorld Task where
  shared :=
    { orders := (OrdMap.empty.set "stop" (legOrder "stop" "exchange-stop" .stopLoss)).set "profit"
        (legOrder "profit" "exchange-profit" .takeProfit)
      positionExits := OrdMap.empty.set "position" linkedPosition }
  inFlight := []

def closedReport (id : ExchangeOrderId) (price : ℚ) : ExchangeOrder where
  id := id
  status := some "closed"
  filled := some 1
  average := some price

def accepted : Answer where
  fate := .answered

def refused : Answer where
  fate := .refused ⟨"OrderNotFound", "order is closed"⟩

def stopFills : List (Move Request Answer) :=
  .call (.report "user" (closedReport "exchange-stop" 95)) :: List.replicate 9 (.advance 0 accepted)

theorem linkedStart_positions {id : String} {exit : PositionExit}
    (h : linkedStart.shared.positionExits.get? id = some exit) :
    id = "position" ∧ exit = linkedPosition := by
  change (OrdMap.empty.set "position" linkedPosition).get? id = some exit at h
  rw [OrdMap.get?_set] at h
  split_ifs at h with hid
  · exact ⟨hid.symm, (Option.some.inj h).symm⟩
  · cases h

theorem linkedStart_linked : bothLegs.Linked linkedStart.shared where
  filed id exit h := by
    obtain ⟨rfl, rfl⟩ := linkedStart_positions h
    rfl
  position := ⟨linkedPosition, rfl, rfl, rfl, rfl⟩
  only id exit h _ _ := (linkedStart_positions h).1
  orders id row h := by
    change ((OrdMap.empty.set "stop" _).set "profit" _).get? id = some row at h
    rw [OrdMap.get?_set, OrdMap.get?_set] at h
    split_ifs at h with hprof hstop
    · rw [← hprof, ← Option.some.inj h]
      rfl
    · rw [← hstop, ← Option.some.inj h]
      rfl
    · cases h
  rows leg := by
    cases leg with
    | stopLoss => exact ⟨legOrder "stop" "exchange-stop" .stopLoss, by decide⟩
    | takeProfit => exact ⟨legOrder "profit" "exchange-profit" .takeProfit, by decide⟩

theorem linkedStart_untouched : bothLegs.Untouched linkedStart.shared :=
  ⟨⟨linkedPosition, rfl, rfl⟩, rfl⟩

theorem handlesOnce_only {legs : LinkedLegs} {pool : Pool LiveWorld Task} {task : Task}
    (honly : pool.inFlight = [task]) (hok : legs.AnswersOnce pool accepted task) :
    legs.HandlesOnce pool (.advance 0 accepted) := by
  intro other hother
  rw [honly] at hother
  cases hother
  exact hok

theorem stopFills_once : orderTasks.AllMeet bothLegs.HandlesOnce linkedStart stopFills := by
  have hclos : (closedReport "exchange-stop" 95).orderStatus = .filled := by decide
  refine ⟨trivial, handlesOnce_only rfl ⟨fun _ _ => rfl, trivial⟩,
    handlesOnce_only rfl ⟨fun _ _ => rfl, fun _ => ⟨fun _ _ _ => ⟨?_, ?_⟩, fun _ _ _ _ _ => ?_⟩⟩,
    handlesOnce_only rfl ⟨fun _ _ => rfl, trivial⟩,
    handlesOnce_only rfl ⟨fun _ _ => rfl, fun _ order horder => ?_⟩,
    handlesOnce_only rfl ⟨fun _ _ => rfl, trivial⟩,
    handlesOnce_only rfl ⟨fun _ _ => rfl, trivial⟩,
    handlesOnce_only rfl ⟨fun _ _ => rfl, trivial⟩,
    handlesOnce_only rfl ⟨fun _ _ => rfl, trivial⟩,
    handlesOnce_only rfl ⟨fun _ _ => rfl, trivial⟩, trivial⟩
  · exact linkedStart_untouched
  · intro other hother
    rw [List.mem_singleton.mp hother]
    rfl
  · exact .inl hclos
  · have hprof : legOrder "profit" "exchange-profit" .takeProfit = order := Option.some.inj horder
    rw [← hprof]
    exact ⟨by decide, rfl⟩

theorem oco_exclusive_stopFills :
    bothLegs.Exclusive (orderTasks.run linkedStart stopFills).shared :=
  (oco_exclusive linkedStart_linked rfl linkedStart_untouched
    (Program.reached_run stopFills_once)).1

def stopFillsFirst : List (Move Request Answer) :=
  .call (.report "user" (closedReport "exchange-stop" 95)) ::
    (List.replicate 4 (.advance 0 accepted) ++ .advance 0 refused ::
      List.replicate 4 (.advance 0 accepted))

def bothFill : List (Move Request Answer) :=
  stopFillsFirst ++ .call (.report "user" (closedReport "exchange-profit" 110)) ::
    (List.replicate 4 (.advance 0 accepted) ++ .advance 0 refused ::
      List.replicate 4 (.advance 0 accepted))

def statusAfter (moves : List (Move Request Answer)) : Option PositionExitStatus :=
  ((orderTasks.run linkedStart moves).shared.positionExits.get? "position").map PositionExit.status

/-- **Both legs determine the status, one after the other, and each emits the event.** -/
theorem oco_overwritten :
    statusAfter stopFillsFirst = some .stopLossTriggered ∧
      statusAfter bothFill = some .takeProfitTriggered ∧
      (bothLegs.events (orderTasks.run linkedStart bothFill).shared).length = 2 := by
  decide +kernel

end Chansey
