import Chansey.Listing.Execution
import Chansey.Live.Position

/-!
# Selling listing positions

A listing position is sold by the exit orders that were attached to its entry, or at the market by the
hourly time stop. The fill of an exit order is announced by an event, perhaps more than once.

* `ListingExit`: a position with its entry order, its exit orders and what the exchange was asked.
-/

namespace Chansey.Listing

open Remote

abbrev ListingPositionId := ℕ

structure ExitLeg where
  quantity : ℚ
  filled : ℚ := 0
  live : Bool := true

inductive ExitLegKind where
  | stopLoss | takeProfit
  deriving DecidableEq

def ExitLegKind.other : ExitLegKind → ExitLegKind
  | .stopLoss => .takeProfit
  | .takeProfit => .stopLoss

structure ListingExit where
  status : ListingPositionStatus := .open
  closedReason : Option String := none
  expiresAt : Instant
  executedQuantity : ℚ
  quantity : ℚ
  hedged : Bool := false
  legs : ExitLegKind → Option ExitLeg := fun _ => none
  soldAtMarket : ℚ := 0
  hedgeCloses : ℕ := 0
  /-- The exit events that were delivered. -/
  announced : ℕ := 0

namespace ListingExit

variable (p : ListingExit)

def filledBy (kind : ExitLegKind) : ℚ := (p.legs kind).elim 0 ExitLeg.filled

def liveLeg (kind : ExitLegKind) : Bool := (p.legs kind).any ExitLeg.live

def sold : ℚ := p.soldAtMarket + p.filledBy .stopLoss + p.filledBy .takeProfit

/-- `executedQuantity || quantity` -/
def quantityToSell : ℚ := if p.executedQuantity ≠ 0 then p.executedQuantity else p.quantity

/-- A live exit order is filled by `amount`, as far as it is not yet. -/
def fill (kind : ExitLegKind) (amount : ℚ) : ListingExit :=
  { p with
    legs := Function.update p.legs kind ((p.legs kind).map fun leg =>
      if leg.live ∧ 0 < amount ∧ leg.filled + amount ≤ leg.quantity then
        { leg with filled := leg.filled + amount, live := leg.filled + amount < leg.quantity }
      else leg) }

def cancel (kind : ExitLegKind) : ListingExit :=
  { p with
    legs := Function.update p.legs kind ((p.legs kind).map fun leg => { leg with live := false }) }

/-- `save` of the status and the reason. -/
def leave (status : ListingPositionStatus) (reason : Option String) : ListingExit :=
  { p with status := status, closedReason := reason.or p.closedReason }

end ListingExit

/-! ## Sweeps and listeners -/

inductive ListingExitPhase where
  | finding (status : ListingPositionStatus) (reason : String)
  /-- `closePosition` reads the entry order. -/
  | reading
  | selling (quantity : ℚ)
  | saving (status : ListingPositionStatus) (reason : Option String)
  /-- The hedge order and the user are read. -/
  | loading
  | closing

/-- A task has a position in hand, a sweep some more after it. -/
structure ListingExitTask where
  id : ListingPositionId
  phase : ListingExitPhase
  rest : List ListingPositionId := []

structure ListingExits where
  positions : OrdMap ListingPositionId ListingExit
  tasks : ℕ → Option ListingExitTask := fun _ => none
  started : ℕ := 0

structure ListingExitAnswer where
  fate : Fate String := .answered
  found : Bool := true

/-- What the exchange, the queue and the event bus do. -/
inductive ListingExitEvent where
  | fill (id : ListingPositionId) (kind : ExitLegKind) (amount : ℚ)
  | cancel (id : ListingPositionId) (kind : ExitLegKind)
  /-- The time stop runs, on its hour or as a retry. -/
  | sweep (now : Instant)
  | deliver (id : ListingPositionId) (status : PositionExitStatus)
  | advance (number : ℕ) (answer : ListingExitAnswer)
  | crash (number : ℕ)

/-- `mapStatus`, with the reason. -/
def mapStatus : PositionExitStatus → Option (ListingPositionStatus × String)
  | .stopLossTriggered => some (.exitedSl, "sl_triggered")
  | .takeProfitTriggered => some (.exitedTp, "tp_triggered")
  | .trailingTriggered => some (.exitedTp, "trailing_triggered")
  | .active | .cancelled | .expired | .error => none

namespace ListingExits

def modify (s : ListingExits) (id : ListingPositionId) (f : ListingExit → ListingExit) :
    ListingExits :=
  match s.positions.get? id with
  | none => s
  | some p => { s with positions := s.positions.set id (f p) }

def setTask (s : ListingExits) (number : ℕ) (task : Option ListingExitTask) : ListingExits :=
  { s with tasks := Function.update s.tasks number task }

def goTo (s : ListingExits) (number : ℕ) (task : ListingExitTask) (phase : ListingExitPhase) :
    ListingExits :=
  s.setTask number (some { task with phase := phase })

def finish (s : ListingExits) (number : ℕ) : ListingExits := s.setTask number none

def sweepOf : List ListingPositionId → Option ListingExitTask
  | [] => none
  | id :: rest => some { id := id, phase := .reading, rest := rest }

def next (s : ListingExits) (number : ℕ) (task : ListingExitTask) : ListingExits :=
  s.setTask number (sweepOf task.rest)

def expired (s : ListingExits) (now : Instant) : List ListingPositionId :=
  (s.positions.entries.filter fun entry =>
    entry.2.status = .open ∧ entry.2.expiresAt < now).map Prod.fst

/-- A task from one call to the next. What is thrown ends it, and a sweep with it. -/
def advance (s : ListingExits) (number : ℕ) (answer : ListingExitAnswer)
    (task : ListingExitTask) : ListingExits :=
  match task.phase with
  | .finding status reason =>
    if answer.fate = .answered ∧ (s.positions.get? task.id).isSome then
      s.goTo number task (.saving status (some reason))
    else s.finish number
  | .reading =>
    if answer.fate ≠ .answered then s.finish number
    else
      match s.positions.get? task.id with
      | none => s.next number task
      | some p =>
        if ¬ answer.found then s.next number task
        else if p.quantityToSell ≤ 0 then s.goTo number task (.saving .closed none)
        else s.goTo number task (.selling p.quantityToSell)
  | .selling quantity =>
    let sold := s.modify task.id fun p => { p with soldAtMarket := p.soldAtMarket + quantity }
    match answer.fate with
    | .answered => sold.goTo number task (.saving .exitedTimeStop (some "time_stop"))
    -- an error of any kind counts as no sale
    | .lost _ => sold.next number task
    | .refused _ => s.next number task
  | .saving status reason =>
    let saved := s.modify task.id fun p => p.leave status reason
    match answer.fate with
    | .answered =>
      if (s.positions.get? task.id).any ListingExit.hedged then saved.goTo number task .loading
      else saved.next number task
    | .lost _ => saved.finish number
    | .refused _ => s.finish number
  | .loading =>
    if answer.fate ≠ .answered then s.finish number
    else if answer.found then s.goTo number task .closing
    else s.next number task
  | .closing =>
    -- `closeShort` logs what fails
    (if answer.fate.reached then
      s.modify task.id fun p => { p with hedgeCloses := p.hedgeCloses + 1 }
    else s).next number task

def start (s : ListingExits) (task : Option ListingExitTask) : ListingExits :=
  { s.setTask s.started task with started := s.started + 1 }

def step (s : ListingExits) : ListingExitEvent → ListingExits
  | .fill id kind amount => s.modify id fun p => p.fill kind amount
  | .cancel id kind => s.modify id fun p => p.cancel kind
  | .sweep now => s.start (sweepOf (s.expired now))
  | .deliver id status =>
    match mapStatus status with
    | none => s
    | some (status, reason) =>
      (s.modify id fun p => { p with announced := p.announced + 1 }).start
        (some { id := id, phase := .finding status reason })
  | .advance number answer =>
    match s.tasks number with
    | none => s
    | some task => s.advance number answer task
  | .crash number => s.finish number

end ListingExits

end Chansey.Listing
