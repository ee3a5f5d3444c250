import Chansey.Lib.Run
import Chansey.Listing.Exits

/-!
# Listing positions are sold once

* `ExitsOnce`: no more is sold than was bought, the hedge is closed once, and a position that was
  sold or announced has left `OPEN`. `KeepsReason`: it keeps the reason that it left with.
-/

namespace Chansey.Listing

open Remote Run

/-! ## What exits are for -/

def ListingExitTask.held (task : ListingExitTask) : List ListingPositionId := task.id :: task.rest

/-- The task has the position in hand, or will take it up. -/
def ListingExits.Holds (s : ListingExits) (number : ℕ) (id : ListingPositionId) : Prop :=
  ∃ task, s.tasks number = some task ∧ id ∈ task.held

def ListingExits.Unheld (s : ListingExits) (id : ListingPositionId) : Prop :=
  ∀ number, ¬ s.Holds number id

structure ExitedOnce (s : ListingExits) (id : ListingPositionId) (p : ListingExit) : Prop where
  sold : p.sold ≤ p.executedQuantity
  hedge : p.hedgeCloses ≤ 1
  left : s.Unheld id → 0 < p.soldAtMarket ∨ 0 < p.announced → p.status ≠ .open
  closed : s.Unheld id → p.status ≠ .open → p.hedgeCloses = if p.hedged then 1 else 0

def ExitsOnce (s : ListingExits) : Prop :=
  ∀ id p, s.positions.get? id = some p → ExitedOnce s id p

/-- **A position that has left `OPEN` keeps its status and its reason.** -/
def KeepsReason (s t : ListingExits) : Prop :=
  ∀ id p, s.positions.get? id = some p → p.status ≠ .open →
    ∃ q, t.positions.get? id = some q ∧ q.status = p.status ∧ q.closedReason = p.closedReason

/-- What a call may be answered with. Before a sale anything may fail; a sale is not lost; after it,
the position is saved, and what closes the hedge is found and reached. -/
def ListingExitPhase.Undisturbed (answer : ListingExitAnswer) : ListingExitPhase → Prop
  | .finding _ _ => answer.fate = .answered
  | .reading => True
  | .selling _ => ∀ error, answer.fate ≠ .lost error
  | .saving _ _ => answer.fate = .answered
  | .loading => answer.fate = .answered ∧ answer.found = true
  | .closing => answer.fate.reached = true

/-- **A position is sold in one way.** An exit order fills no more than was bought, and only one of
the two does; the time stop takes up what no exit order has sold or can sell, and no other task has in
hand; an event finds its position open and in no hand. -/
def Exclusive (s : ListingExits) : ListingExitEvent → Prop
  | .fill id kind _ => ∀ p leg, s.positions.get? id = some p → p.legs kind = some leg →
      leg.live = true → leg.quantity ≤ p.executedQuantity ∧ p.filledBy kind.other = 0
  | .cancel _ _ => True
  | .sweep now => ∀ id ∈ s.expired now, s.Unheld id ∧
      ∀ p, s.positions.get? id = some p → 0 < p.executedQuantity ∧
        ∀ kind, p.liveLeg kind = false ∧ p.filledBy kind = 0
  | .deliver id status => mapStatus status ≠ none → s.Unheld id ∧
      ∀ p, s.positions.get? id = some p → p.status = .open
  | .advance number answer =>
      ∀ task, s.tasks number = some task → task.phase.Undisturbed answer
  | .crash number => ∀ task, s.tasks number = some task →
      task.phase = .reading ∨ ∃ quantity, task.phase = .selling quantity

/-! ## The invariant -/

structure Untouched (p : ListingExit) : Prop where
  status : p.status = .open
  market : p.soldAtMarket = 0
  hedge : p.hedgeCloses = 0
  announced : p.announced = 0

structure Sweepable (p : ListingExit) : Prop extends Untouched p where
  bought : 0 < p.executedQuantity
  legs : ∀ kind, p.liveLeg kind = false ∧ p.filledBy kind = 0

/-- The position has left `OPEN`, and its hedge is closed. -/
structure HasLeft (p : ListingExit) : Prop where
  status : p.status ≠ .open
  hedge : p.hedgeCloses = if p.hedged then 1 else 0

def InPhase (p : ListingExit) : ListingExitPhase → Prop
  | .finding status _ => status ≠ .open ∧ p.status = .open ∧ p.hedgeCloses = 0
  | .reading => Sweepable p
  | .selling quantity => Sweepable p ∧ quantity = p.executedQuantity
  | .saving status _ => status ≠ .open ∧ p.status = .open ∧ p.hedgeCloses = 0
  | .loading | .closing => p.status ≠ .open ∧ p.hedged = true ∧ p.hedgeCloses = 0

structure SoldInOneWay (p : ListingExit) : Prop where
  bought : 0 ≤ p.executedQuantity
  way : (p.soldAtMarket = 0 ∧ ∃ kind : ExitLegKind, p.filledBy kind.other = 0 ∧
      0 ≤ p.filledBy kind ∧ p.filledBy kind ≤ p.executedQuantity) ∨
    (p.soldAtMarket = p.executedQuantity ∧ ∀ kind, p.liveLeg kind = false ∧ p.filledBy kind = 0)

/-- **Every task has its positions to itself**, and knows what was done about them. -/
structure Handled (s : ListingExits) : Prop where
  fresh : ∀ number, s.started ≤ number → s.tasks number = none
  nodup : ∀ number task, s.tasks number = some task → task.held.Nodup
  alone : ∀ number number' id, s.Holds number id → s.Holds number' id → number = number'
  sold : ∀ id p, s.positions.get? id = some p → SoldInOneWay p
  free : ∀ id p, s.positions.get? id = some p → s.Unheld id → Untouched p ∨ HasLeft p
  hand : ∀ number task p, s.tasks number = some task → s.positions.get? task.id = some p →
    InPhase p task.phase
  waits : ∀ number task id p, s.tasks number = some task → id ∈ task.rest →
    s.positions.get? id = some p → Sweepable p

theorem SoldInOneWay.sold_le {p : ListingExit} (h : SoldInOneWay p) : p.sold ≤ p.executedQuantity := by
  unfold ListingExit.sold
  rcases h.way with ⟨hmkt, kind, hother, -, _⟩ | ⟨hmkt, hlegs⟩
  · cases kind with
    | stopLoss =>
      have htp : p.filledBy .takeProfit = 0 := hother
      linarith
    | takeProfit =>
      have hsl : p.filledBy .stopLoss = 0 := hother
      linarith
  · have hsl := (hlegs .stopLoss).2
    have htp := (hlegs .takeProfit).2
    linarith

theorem InPhase.hedge_le {p : ListingExit} {phase : ListingExitPhase} (h : InPhase p phase) :
    p.hedgeCloses ≤ 1 := by
  have hzero : p.hedgeCloses = 0 := by
    cases phase with
    | reading => exact h.hedge
    | selling => exact h.1.hedge
    | _ => exact h.2.2
  omega

theorem Handled.exitedOnce {s : ListingExits} (h : Handled s) : ExitsOnce s := by
  intro id p hp
  have hhedge : p.hedgeCloses ≤ 1 := by
    by_cases hfree : s.Unheld id
    · rcases h.free id p hp hfree with hunt | hleft
      · rw [hunt.hedge]
        exact Nat.zero_le 1
      · rw [hleft.hedge]
        split_ifs <;> omega
    · obtain ⟨number, task, htask, hmem⟩ : ∃ number, s.Holds number id := by
        by_contra hnone
        exact hfree fun number hholds => hnone ⟨number, hholds⟩
      rcases List.mem_cons.mp hmem with rfl | hrest
      · exact (h.hand number task p htask hp).hedge_le
      · rw [(h.waits number task id p htask hrest hp).hedge]
        exact Nat.zero_le 1
  refine ⟨(h.sold id p hp).sold_le, hhedge, fun hfree hdone => ?_, fun hfree hstat => ?_⟩
  · rcases h.free id p hp hfree with hunt | hleft
    · rw [hunt.market, hunt.announced] at hdone
      rcases hdone with hmkt | hann
      · exact absurd hmkt (lt_irrefl 0)
      · exact absurd hann (lt_irrefl 0)
    · exact hleft.status
  · rcases h.free id p hp hfree with hunt | hleft
    · exact absurd hunt.status hstat
    · exact hleft.hedge

/-! ## What a step changes -/

section Steps

variable {s t : ListingExits} {number : ℕ} {task : ListingExitTask} {id : ListingPositionId}
  {f : ListingExit → ListingExit}

theorem get?_modify (s : ListingExits) (id : ListingPositionId) (f : ListingExit → ListingExit)
    (id' : ListingPositionId) :
    (s.modify id f).positions.get? id' =
      if id = id' then (s.positions.get? id').map f else s.positions.get? id' := by
  unfold ListingExits.modify
  cases hp : s.positions.get? id with
  | none =>
    split_ifs with hid
    · rw [← hid, hp]
      rfl
    · rfl
  | some =>
    rw [OrdMap.get?_set]
    split_ifs with hid
    · rw [← hid, hp]
      rfl
    · rfl

@[simp] theorem modify_tasks (s : ListingExits) (id : ListingPositionId)
    (f : ListingExit → ListingExit) : (s.modify id f).tasks = s.tasks := by
  unfold ListingExits.modify
  split <;> rfl

@[simp] theorem modify_started (s : ListingExits) (id : ListingPositionId)
    (f : ListingExit → ListingExit) : (s.modify id f).started = s.started := by
  unfold ListingExits.modify
  split <;> rfl

def RowChanged (s t : ListingExits) (id : ListingPositionId) (f : ListingExit → ListingExit) : Prop :=
  ∀ id', t.positions.get? id' =
    if id = id' then (s.positions.get? id').map f else s.positions.get? id'

theorem RowChanged.self (h : RowChanged s t id f) {p : ListingExit}
    (hp : t.positions.get? id = some p) : ∃ p₀, s.positions.get? id = some p₀ ∧ f p₀ = p := by
  rw [h id, if_pos rfl] at hp
  exact Option.map_eq_some_iff.mp hp

theorem RowChanged.of_ne (h : RowChanged s t id f) {id' : ListingPositionId} (hne : id ≠ id') :
    t.positions.get? id' = s.positions.get? id' := by
  rw [h id', if_neg hne]

theorem rowChanged_id (h : t.positions = s.positions) (id : ListingPositionId) :
    RowChanged s t id fun p => p := by
  intro id'
  rw [h]
  split_ifs <;> simp

theorem KeepsReason.refl (s : ListingExits) : KeepsReason s s :=
  fun _ p hp _ => ⟨p, hp, rfl, rfl⟩

theorem KeepsReason.trans {u : ListingExits} (h : KeepsReason s t) (h' : KeepsReason t u) :
    KeepsReason s u := by
  intro id p hp hleft
  obtain ⟨q, hq, hstat, hreason⟩ := h id p hp hleft
  obtain ⟨r, hr, hstat', hreason'⟩ := h' id q hq (hstat ▸ hleft)
  exact ⟨r, hr, hstat'.trans hstat, hreason'.trans hreason⟩

theorem KeepsReason.of_rowChanged (h : RowChanged s t id f)
    (hf : ∀ p, s.positions.get? id = some p → p.status ≠ .open →
      (f p).status = p.status ∧ (f p).closedReason = p.closedReason) : KeepsReason s t := by
  intro id' p hp hleft
  by_cases hid : id = id'
  · subst hid
    refine ⟨f p, ?_, hf p hp hleft⟩
    rw [h id, if_pos rfl, hp]
    rfl
  · exact ⟨p, (h.of_ne hid).trans hp, rfl, rfl⟩

theorem Handled.modify (h : Handled s) (id : ListingPositionId)
    (hf : ∀ p, s.positions.get? id = some p → SoldInOneWay (f p) ∧
      (Untouched p → Untouched (f p)) ∧ (HasLeft p → HasLeft (f p)) ∧
        ∀ phase, InPhase p phase → InPhase (f p) phase) : Handled (s.modify id f) := by
  have hrow : RowChanged s (s.modify id f) id f := get?_modify s id f
  have hholds : ∀ number id', (s.modify id f).Holds number id' ↔ s.Holds number id' := by
    intro number id'
    unfold ListingExits.Holds
    rw [modify_tasks]
  refine ⟨?_, ?_, ?_, ?_, ?_, ?_, ?_⟩
  · rw [modify_tasks, modify_started]
    exact h.fresh
  · rw [modify_tasks]
    exact h.nodup
  · intro number number' id' hheld hheld'
    exact h.alone number number' id' ((hholds _ _).mp hheld) ((hholds _ _).mp hheld')
  · intro id' p hp
    by_cases hid : id = id'
    · subst hid
      obtain ⟨p₀, hp₀, rfl⟩ := hrow.self hp
      exact (hf p₀ hp₀).1
    · exact h.sold id' p ((hrow.of_ne hid).symm.trans hp)
  · intro id' p hp hfree
    have hfree' : s.Unheld id' := fun number hheld => hfree number ((hholds _ _).mpr hheld)
    by_cases hid : id = id'
    · subst hid
      obtain ⟨p₀, hp₀, rfl⟩ := hrow.self hp
      rcases h.free id p₀ hp₀ hfree' with hunt | hleft
      · exact .inl ((hf p₀ hp₀).2.1 hunt)
      · exact .inr ((hf p₀ hp₀).2.2.1 hleft)
    · exact h.free id' p ((hrow.of_ne hid).symm.trans hp) hfree'
  · intro number task p htask hp
    rw [modify_tasks] at htask
    by_cases hid : id = task.id
    · rw [← hid] at hp
      obtain ⟨p₀, hp₀, rfl⟩ := hrow.self hp
      exact (hf p₀ hp₀).2.2.2 _ (h.hand number task p₀ htask (hid ▸ hp₀))
    · exact h.hand number task p htask ((hrow.of_ne hid).symm.trans hp)
  · intro number task id' p htask hmem hp
    rw [modify_tasks] at htask
    by_cases hid : id = id'
    · subst hid
      obtain ⟨p₀, hp₀, rfl⟩ := hrow.self hp
      exact (hf p₀ hp₀).2.2.2 .reading (h.waits number task id p₀ htask hmem hp₀)
    · exact h.waits number task id' p htask hmem ((hrow.of_ne hid).symm.trans hp)

theorem sweepOf_eq_some {ids : List ListingPositionId}
    (h : ListingExits.sweepOf ids = some task) : task.held = ids ∧ task.phase = .reading := by
  cases ids with
  | nil => cases h
  | cons =>
    cases h
    exact ⟨rfl, rfl⟩

def GoesOn (s : ListingExits) (task : ListingExitTask) (f : ListingExit → ListingExit)
    (after : Option ListingExitTask) : Prop :=
  (∃ phase, after = some { task with phase := phase } ∧
      ∀ p, s.positions.get? task.id = some p → InPhase (f p) phase) ∨
    (after = ListingExits.sweepOf task.rest ∨ after = none) ∧
      ∀ p, s.positions.get? task.id = some p → Untouched (f p) ∨ HasLeft (f p)

theorem GoesOn.held {after : ListingExitTask} (h : GoesOn s task f (some after)) :
    after.held.Sublist task.held := by
  rcases h with ⟨_, hafter, -⟩ | ⟨hafter | hafter, -⟩
  · cases hafter
    exact List.Sublist.refl _
  · rw [ListingExitTask.held, ListingExitTask.held, ← (sweepOf_eq_some hafter.symm).1]
    exact List.sublist_cons_self _ _
  · cases hafter

theorem Handled.goesOn (h : Handled s) (htask : s.tasks number = some task)
    (hrow : RowChanged s t task.id f) {after : Option ListingExitTask}
    (htasks : t.tasks = Function.update s.tasks number after) (hstd : t.started = s.started)
    (hsold : ∀ p, s.positions.get? task.id = some p → SoldInOneWay (f p))
    (hgoes : GoesOn s task f after) : Handled t := by
  have hnodup := h.nodup number task htask
  have hother : ∀ {number'}, number' ≠ number → t.tasks number' = s.tasks number' := by
    intro number' hne
    rw [htasks, Function.update_of_ne hne]
  have hsame : t.tasks number = after := by rw [htasks, Function.update_self]
  -- the task has no position that it had not
  have hmono : ∀ number' id', t.Holds number' id' → s.Holds number' id' := by
    rintro number' id' ⟨task', htask', hmem⟩
    by_cases hnum : number' = number
    · subst hnum
      rw [hsame] at htask'
      subst htask'
      exact ⟨task, htask, hgoes.held.subset hmem⟩
    · exact ⟨task', (hother hnum).symm.trans htask', hmem⟩
  have hrest : ∀ {id' p}, id' ∈ task.rest → t.positions.get? id' = some p → Sweepable p := by
    intro id' p hmem hp
    have hne : task.id ≠ id' := fun heq => (List.nodup_cons.mp hnodup).1 (heq ▸ hmem)
    exact h.waits number task id' p htask hmem ((hrow.of_ne hne).symm.trans hp)
  refine ⟨?_, ?_, ?_, ?_, ?_, ?_, ?_⟩
  · intro number' hle
    have hne : number' ≠ number := by
      rintro rfl
      rw [h.fresh _ (hstd ▸ hle)] at htask
      cases htask
    rw [hother hne]
    exact h.fresh number' (hstd ▸ hle)
  · intro number' task' htask'
    by_cases hnum : number' = number
    · subst hnum
      rw [hsame] at htask'
      subst htask'
      exact hgoes.held.nodup hnodup
    · exact h.nodup number' task' ((hother hnum).symm.trans htask')
  · intro number₁ number₂ id' hheld hheld'
    exact h.alone number₁ number₂ id' (hmono _ _ hheld) (hmono _ _ hheld')
  · intro id' p hp
    by_cases hid : task.id = id'
    · subst hid
      obtain ⟨p₀, hp₀, rfl⟩ := hrow.self hp
      exact hsold p₀ hp₀
    · exact h.sold id' p ((hrow.of_ne hid).symm.trans hp)
  · intro id' p hp hfree
    by_cases hid : task.id = id'
    · subst hid
      obtain ⟨p₀, hp₀, rfl⟩ := hrow.self hp
      rcases hgoes with ⟨_, hafter, -⟩ | ⟨-, hgiven⟩
      · exact absurd ⟨_, hsame.trans hafter, List.mem_cons_self⟩ (hfree number)
      · exact hgiven p₀ hp₀
    · by_cases hfree' : s.Unheld id'
      · exact h.free id' p ((hrow.of_ne hid).symm.trans hp) hfree'
      · -- the task had the position in wait, and has ended
        obtain ⟨number', hheld⟩ : ∃ number', s.Holds number' id' := by
          by_contra hnone
          exact hfree' fun number' hheld => hnone ⟨number', hheld⟩
        have hnum : number' = number := by
          by_contra hne
          obtain ⟨task', htask', hmem⟩ := hheld
          exact hfree number' ⟨task', (hother hne).trans htask', hmem⟩
        subst hnum
        obtain ⟨_, htask', hmem⟩ := hheld
        cases (htask.symm.trans htask')
        rcases List.mem_cons.mp hmem with heq | hwait
        · exact absurd heq.symm hid
        · exact .inl (hrest hwait hp).toUntouched
  · intro number' task' p htask' hp
    by_cases hnum : number' = number
    · subst hnum
      rw [hsame] at htask'
      subst htask'
      rcases hgoes with ⟨_, hafter, hphase⟩ | ⟨hafter | hafter, -⟩
      · cases hafter
        obtain ⟨p₀, hp₀, rfl⟩ := hrow.self hp
        exact hphase p₀ hp₀
      · obtain ⟨hheld, hphase⟩ := sweepOf_eq_some hafter.symm
        rw [hphase]
        exact hrest (hheld ▸ List.mem_cons_self) hp
      · cases hafter
    · have hne : task.id ≠ task'.id := by
        intro heq
        refine hnum (h.alone number' number task.id ⟨task', (hother hnum).symm.trans htask', ?_⟩
          ⟨task, htask, List.mem_cons_self⟩)
        rw [heq]
        exact List.mem_cons_self
      exact h.hand number' task' p ((hother hnum).symm.trans htask')
        ((hrow.of_ne hne).symm.trans hp)
  · intro number' task' id' p htask' hmem hp
    by_cases hnum : number' = number
    · subst hnum
      rw [hsame] at htask'
      subst htask'
      refine hrest ?_ hp
      rcases hgoes with ⟨_, hafter, -⟩ | ⟨hafter | hafter, -⟩
      · cases hafter
        exact hmem
      · exact (sweepOf_eq_some hafter.symm).1 ▸ List.mem_cons_of_mem _ hmem
      · cases hafter
    · have hne : task.id ≠ id' := by
        intro heq
        refine hnum (h.alone number' number task.id ⟨task', (hother hnum).symm.trans htask', ?_⟩
          ⟨task, htask, List.mem_cons_self⟩)
        rw [heq]
        exact List.mem_cons_of_mem _ hmem
      exact h.waits number' task' id' p ((hother hnum).symm.trans htask') hmem
        ((hrow.of_ne hne).symm.trans hp)

theorem Handled.start (h : Handled s) {started : ListingExitTask}
    (hrow : RowChanged s t started.id f)
    (htasks : t.tasks = Function.update s.tasks s.started (some started))
    (hstd : t.started = s.started + 1) (hnodup : started.held.Nodup)
    (hunheld : ∀ id ∈ started.held, s.Unheld id)
    (hself : ∀ p, s.positions.get? started.id = some p →
      SoldInOneWay (f p) ∧ InPhase (f p) started.phase)
    (hwaits : ∀ id ∈ started.rest, ∀ p, s.positions.get? id = some p → Sweepable p) :
    Handled t := by
  have hother : ∀ {number'}, number' ≠ s.started → t.tasks number' = s.tasks number' := by
    intro number' hne
    rw [htasks, Function.update_of_ne hne]
  have hsame : t.tasks s.started = some started := by rw [htasks, Function.update_self]
  have hmono : ∀ number' id', s.Holds number' id' → t.Holds number' id' := by
    rintro number' id' ⟨task', htask', hmem⟩
    have hne : number' ≠ s.started := by
      rintro rfl
      rw [h.fresh _ le_rfl] at htask'
      cases htask'
    exact ⟨task', (hother hne).trans htask', hmem⟩
  -- another task has none of its positions
  have hapart : ∀ {number' task' id'}, number' ≠ s.started → t.tasks number' = some task' →
      id' ∈ task'.held → id' ∉ started.held := by
    intro number' task' id' hne htask' hmem hmem'
    exact hunheld id' hmem' number' ⟨task', (hother hne).symm.trans htask', hmem⟩
  have hrest : started.id ∉ started.rest := (List.nodup_cons.mp hnodup).1
  refine ⟨?_, ?_, ?_, ?_, ?_, ?_, ?_⟩
  · intro number' hle
    rw [hother (by omega)]
    exact h.fresh number' (by omega)
  · intro number' task' htask'
    by_cases hnum : number' = s.started
    · subst hnum
      cases (hsame.symm.trans htask')
      exact hnodup
    · exact h.nodup number' task' ((hother hnum).symm.trans htask')
  · rintro number₁ number₂ id' ⟨task₁, htask₁, hmem₁⟩ ⟨task₂, htask₂, hmem₂⟩
    by_cases hone : number₁ = s.started <;> by_cases htwo : number₂ = s.started
    · exact hone.trans htwo.symm
    · subst hone
      cases (hsame.symm.trans htask₁)
      exact absurd hmem₁ (hapart htwo htask₂ hmem₂)
    · subst htwo
      cases (hsame.symm.trans htask₂)
      exact absurd hmem₂ (hapart hone htask₁ hmem₁)
    · exact h.alone number₁ number₂ id' ⟨task₁, (hother hone).symm.trans htask₁, hmem₁⟩
        ⟨task₂, (hother htwo).symm.trans htask₂, hmem₂⟩
  · intro id' p hp
    by_cases hid : started.id = id'
    · subst hid
      obtain ⟨p₀, hp₀, rfl⟩ := hrow.self hp
      exact (hself p₀ hp₀).1
    · exact h.sold id' p ((hrow.of_ne hid).symm.trans hp)
  · intro id' p hp hfree
    have hid : started.id ≠ id' := by
      rintro rfl
      exact hfree s.started ⟨started, hsame, List.mem_cons_self⟩
    exact h.free id' p ((hrow.of_ne hid).symm.trans hp) fun number' hheld =>
      hfree number' (hmono _ _ hheld)
  · intro number' task' p htask' hp
    by_cases hnum : number' = s.started
    · subst hnum
      cases (hsame.symm.trans htask')
      obtain ⟨p₀, hp₀, rfl⟩ := hrow.self hp
      exact (hself p₀ hp₀).2
    · have hid : started.id ≠ task'.id := fun heq =>
        hapart hnum htask' List.mem_cons_self (heq ▸ List.mem_cons_self)
      exact h.hand number' task' p ((hother hnum).symm.trans htask')
        ((hrow.of_ne hid).symm.trans hp)
  · intro number' task' id' p htask' hmem hp
    by_cases hnum : number' = s.started
    · subst hnum
      cases (hsame.symm.trans htask')
      have hid : started.id ≠ id' := fun heq => hrest (heq ▸ hmem)
      exact hwaits id' hmem p ((hrow.of_ne hid).symm.trans hp)
    · have hid : started.id ≠ id' := fun heq =>
        hapart hnum htask' (List.mem_cons_of_mem _ hmem) (heq ▸ List.mem_cons_self)
      exact h.waits number' task' id' p ((hother hnum).symm.trans htask') hmem
        ((hrow.of_ne hid).symm.trans hp)

end Steps

/-! ## Steps -/

section Rows

variable {p : ListingExit} {kind : ExitLegKind} {amount : ℚ}

theorem fill_of_not_live (h : p.liveLeg kind = false) : p.fill kind amount = p := by
  have hlegs : (p.legs kind).map (fun leg =>
      if leg.live ∧ 0 < amount ∧ leg.filled + amount ≤ leg.quantity then
        { leg with filled := leg.filled + amount, live := leg.filled + amount < leg.quantity }
      else leg) = p.legs kind := by
    unfold ListingExit.liveLeg at h
    cases hleg : p.legs kind with
    | none => rfl
    | some leg =>
      rw [hleg] at h
      have hdead : leg.live = false := h
      simp [hdead]
  unfold ListingExit.fill
  rw [hlegs, Function.update_eq_self]

theorem filledBy_fill_self {leg : ExitLeg} (hleg : p.legs kind = some leg) :
    (p.fill kind amount).filledBy kind =
      if leg.live ∧ 0 < amount ∧ leg.filled + amount ≤ leg.quantity then leg.filled + amount
      else leg.filled := by
  simp only [ListingExit.filledBy, ListingExit.fill, Function.update_self, hleg, Option.map_some,
    Option.elim_some]
  split_ifs <;> rfl

theorem filledBy_fill_of_ne {other : ExitLegKind} (hne : other ≠ kind) :
    (p.fill kind amount).filledBy other = p.filledBy other := by
  simp only [ListingExit.filledBy, ListingExit.fill, Function.update_of_ne hne]

theorem ExitLegKind.other_ne (kind : ExitLegKind) : kind.other ≠ kind := by cases kind <;> decide

theorem ExitLegKind.eq_or_other (kind other : ExitLegKind) : other = kind ∨ other.other = kind := by
  cases kind <;> cases other <;> decide

theorem SoldInOneWay.fill (h : SoldInOneWay p) (amount : ℚ)
    (hex : ∀ leg, p.legs kind = some leg → leg.live = true →
      leg.quantity ≤ p.executedQuantity ∧ p.filledBy kind.other = 0) :
    SoldInOneWay (p.fill kind amount) := by
  cases hlive : p.liveLeg kind with
  | false =>
    rw [fill_of_not_live hlive]
    exact h
  | true =>
    obtain ⟨leg, hleg, hon⟩ : ∃ leg, p.legs kind = some leg ∧ leg.live = true := by
      unfold ListingExit.liveLeg at hlive
      cases hleg : p.legs kind with
      | none =>
        rw [hleg] at hlive
        cases hlive
      | some leg => exact ⟨leg, rfl, by rw [hleg] at hlive; exact hlive⟩
    obtain ⟨hqty, hother⟩ := hex leg hleg hon
    refine ⟨h.bought, ?_⟩
    rcases h.way with ⟨hmkt, kind₀, hzero, hnn, hle⟩ | ⟨-, hdead⟩
    · have hfld : p.filledBy kind = leg.filled := by
        rw [ListingExit.filledBy, hleg]
        rfl
      have hold : 0 ≤ leg.filled ∧ leg.filled ≤ p.executedQuantity := by
        rw [← hfld]
        rcases kind.eq_or_other kind₀ with rfl | rfl
        · exact ⟨hnn, hle⟩
        · rw [hzero]
          exact ⟨le_rfl, h.bought⟩
      refine .inl ⟨hmkt, kind, ?_, ?_⟩
      · rw [filledBy_fill_of_ne kind.other_ne]
        exact hother
      · rw [filledBy_fill_self hleg]
        split_ifs with hfits
        · exact ⟨by linarith [hfits.2.1], hfits.2.2.trans hqty⟩
        · exact hold
    · rw [(hdead kind).1] at hlive
      cases hlive

theorem filledBy_cancel (other : ExitLegKind) :
    (p.cancel kind).filledBy other = p.filledBy other := by
  by_cases hne : other = kind
  · subst hne
    simp only [ListingExit.filledBy, ListingExit.cancel, Function.update_self]
    cases p.legs other <;> rfl
  · simp only [ListingExit.filledBy, ListingExit.cancel, Function.update_of_ne hne]

theorem liveLeg_cancel {other : ExitLegKind} (h : p.liveLeg other = false) :
    (p.cancel kind).liveLeg other = false := by
  by_cases hne : other = kind
  · subst hne
    simp only [ListingExit.liveLeg, ListingExit.cancel, Function.update_self]
    cases p.legs other <;> rfl
  · simp only [ListingExit.liveLeg, ListingExit.cancel, Function.update_of_ne hne]
    exact h

theorem SoldInOneWay.cancel (h : SoldInOneWay p) (kind : ExitLegKind) :
    SoldInOneWay (p.cancel kind) := by
  refine ⟨h.bought, ?_⟩
  simp only [filledBy_cancel]
  rcases h.way with hleg | ⟨hmkt, hlegs⟩
  · exact .inl hleg
  · exact .inr ⟨hmkt, fun other => ⟨liveLeg_cancel (hlegs other).1, (hlegs other).2⟩⟩

theorem InPhase.of_legs {q : ListingExit} {phase : ListingExitPhase} (h : InPhase p phase)
    (hstat : q.status = p.status) (hhedge : q.hedgeCloses = p.hedgeCloses)
    (hhedged : q.hedged = p.hedged) (hexd : q.executedQuantity = p.executedQuantity)
    (hsweep : Sweepable p → Sweepable q) : InPhase q phase := by
  cases phase with
  | finding | saving =>
    exact ⟨h.1, hstat.trans h.2.1, hhedge.trans h.2.2⟩
  | reading => exact hsweep h
  | selling => exact ⟨hsweep h.1, h.2.trans hexd.symm⟩
  | loading | closing =>
    exact ⟨fun heq => h.1 (hstat.symm.trans heq), hhedged.trans h.2.1, hhedge.trans h.2.2⟩

theorem Sweepable.sell (h : Sweepable p) :
    SoldInOneWay { p with soldAtMarket := p.soldAtMarket + p.executedQuantity } := by
  refine ⟨h.bought.le, .inr ⟨?_, h.legs⟩⟩
  show p.soldAtMarket + p.executedQuantity = p.executedQuantity
  rw [h.market, zero_add]

theorem Sweepable.quantityToSell (h : Sweepable p) : p.quantityToSell = p.executedQuantity :=
  if_pos h.bought.ne'

theorem SoldInOneWay.leave (h : SoldInOneWay p) (status : ListingPositionStatus)
    (reason : Option String) : SoldInOneWay (p.leave status reason) := ⟨h.bought, h.way⟩

end Rows

section Advance

variable {s : ListingExits} {number : ℕ} {task : ListingExitTask} {answer : ListingExitAnswer}

variable {after : Option ListingExitTask}

section

variable (h : Handled s) (htask : s.tasks number = some task)

include h htask

theorem Handled.kept (hgoes : GoesOn s task (fun p => p) after) :
    Handled (s.setTask number after) ∧ KeepsReason s (s.setTask number after) := by
  refine ⟨h.goesOn htask (rowChanged_id rfl task.id) rfl rfl (h.sold task.id) hgoes, ?_⟩
  exact .of_rowChanged (rowChanged_id rfl task.id) fun _ _ _ => ⟨rfl, rfl⟩

theorem Handled.changed {f : ListingExit → ListingExit}
    (hsold : ∀ p, s.positions.get? task.id = some p → SoldInOneWay (f p))
    (hkeeps : ∀ p, s.positions.get? task.id = some p → p.status ≠ .open →
      (f p).status = p.status ∧ (f p).closedReason = p.closedReason) (hgoes : GoesOn s task f after)
    :
    Handled ((s.modify task.id f).setTask number after) ∧
      KeepsReason s ((s.modify task.id f).setTask number after) := by
  have hrow : RowChanged s ((s.modify task.id f).setTask number after) task.id f :=
    get?_modify s task.id f
  refine ⟨h.goesOn htask hrow ?_ (modify_started _ _ _) hsold hgoes, .of_rowChanged hrow hkeeps⟩
  show Function.update (s.modify task.id f).tasks number after = _
  rw [modify_tasks]

theorem Handled.inPhase {phase : ListingExitPhase} (hphase : task.phase = phase) {p : ListingExit}
    (hp : s.positions.get? task.id = some p) : InPhase p phase :=
  hphase ▸ h.hand number task p htask hp

theorem Handled.advance_reading (hphase : task.phase = .reading) :
    Handled (s.advance number answer task) ∧ KeepsReason s (s.advance number answer task) := by
  have hsweep : ∀ p, s.positions.get? task.id = some p → Sweepable p :=
    fun p hp => h.inPhase htask hphase hp
  have hfree : ∀ p, s.positions.get? task.id = some p → Untouched p ∨ HasLeft p :=
    fun p hp => .inl (hsweep p hp).toUntouched
  unfold ListingExits.advance
  rw [hphase]
  dsimp only
  by_cases hansd : answer.fate ≠ .answered
  · rw [if_pos hansd]
    exact h.kept htask (.inr ⟨.inr rfl, hfree⟩)
  · rw [if_neg hansd]
    cases hp : s.positions.get? task.id with
    | none => exact h.kept htask (.inr ⟨.inl rfl, hfree⟩)
    | some p =>
      dsimp only
      have hqty := (hsweep p hp).quantityToSell
      split_ifs with hfound hzero
      · rw [hqty] at hzero
        exact absurd (hsweep p hp).bought (not_lt.mpr hzero)
      · refine h.kept htask (.inl ⟨.selling p.quantityToSell, rfl, fun p' hp' => ?_⟩)
        cases (hp.symm.trans hp')
        exact ⟨hsweep p hp, hqty⟩
      · exact h.kept htask (.inr ⟨.inl rfl, hfree⟩)

theorem Handled.advance_selling {quantity : ℚ} (hphase : task.phase = .selling quantity)
    (hund : (ListingExitPhase.selling quantity).Undisturbed answer) :
    Handled (s.advance number answer task) ∧ KeepsReason s (s.advance number answer task) := by
  have hsweepable : ∀ p, s.positions.get? task.id = some p →
      Sweepable p ∧ quantity = p.executedQuantity := fun p hp => h.inPhase htask hphase hp
  unfold ListingExits.advance
  rw [hphase]
  dsimp only
  cases hfate : answer.fate with
  | answered =>
    refine h.changed htask (fun p hp => ?_) (fun p _ _ => ⟨rfl, rfl⟩)
      (.inl ⟨_, rfl, fun p hp => ?_⟩)
    · obtain ⟨hsweep, rfl⟩ := hsweepable p hp
      exact hsweep.sell
    · have hsweep := (hsweepable p hp).1
      exact ⟨by decide, hsweep.status, hsweep.hedge⟩
  | lost error => exact absurd hfate (hund error)
  | refused =>
    exact h.kept htask (.inr ⟨.inl rfl, fun p hp => .inl (hsweepable p hp).1.toUntouched⟩)

theorem Handled.advance_saving {status : ListingPositionStatus} {reason : Option String}
    (hphase : task.phase = .saving status reason) (hansd : answer.fate = .answered) :
    Handled (s.advance number answer task) ∧ KeepsReason s (s.advance number answer task) := by
  have hopen : ∀ p, s.positions.get? task.id = some p →
      status ≠ .open ∧ p.status = .open ∧ p.hedgeCloses = 0 :=
    fun p hp => h.inPhase htask hphase hp
  have hsold : ∀ p, s.positions.get? task.id = some p → SoldInOneWay (p.leave status reason) :=
    fun p hp => (h.sold task.id p hp).leave status reason
  have hkeeps : ∀ p, s.positions.get? task.id = some p → p.status ≠ .open →
      (p.leave status reason).status = p.status ∧
        (p.leave status reason).closedReason = p.closedReason :=
    fun p hp hleft => absurd (hopen p hp).2.1 hleft
  unfold ListingExits.advance
  rw [hphase]
  dsimp only
  rw [hansd]
  dsimp only
  split_ifs with hhedged
  · refine h.changed htask hsold hkeeps (.inl ⟨_, rfl, fun p hp => ?_⟩)
    rw [hp] at hhedged
    exact ⟨(hopen p hp).1, hhedged, (hopen p hp).2.2⟩
  · refine h.changed htask hsold hkeeps (.inr ⟨.inl rfl, fun p hp => .inr ⟨(hopen p hp).1, ?_⟩⟩)
    rw [hp] at hhedged
    have hunhedged : ¬ p.hedged = true := hhedged
    show p.hedgeCloses = if p.hedged then 1 else 0
    rw [if_neg hunhedged]
    exact (hopen p hp).2.2

theorem Handled.advance (hund : task.phase.Undisturbed answer) :
    Handled (s.advance number answer task) ∧ KeepsReason s (s.advance number answer task) := by
  cases hphase : task.phase with
  | finding =>
    rw [hphase] at hund
    have hansd : answer.fate = .answered := hund
    unfold ListingExits.advance
    rw [hphase]
    dsimp only
    by_cases hfound : (s.positions.get? task.id).isSome = true
    · rw [if_pos ⟨hansd, hfound⟩]
      exact h.kept htask (.inl ⟨_, rfl, fun p hp => h.inPhase htask hphase hp⟩)
    · rw [if_neg fun hboth => hfound hboth.2]
      refine h.kept htask (.inr ⟨.inr rfl, fun p hp => ?_⟩)
      rw [hp] at hfound
      exact absurd rfl hfound
  | reading => exact h.advance_reading htask hphase
  | selling => exact h.advance_selling htask hphase (hphase ▸ hund)
  | saving =>
    rw [hphase] at hund
    exact h.advance_saving htask hphase hund
  | loading =>
    rw [hphase] at hund
    obtain ⟨hansd, hfound⟩ : answer.fate = .answered ∧ answer.found = true := hund
    unfold ListingExits.advance
    rw [hphase]
    dsimp only
    rw [if_neg (not_not.mpr hansd), if_pos hfound]
    exact h.kept htask (.inl ⟨_, rfl, fun p hp => h.inPhase htask hphase hp⟩)
  | closing =>
    rw [hphase] at hund
    have hrch : answer.fate.reached = true := hund
    unfold ListingExits.advance
    rw [hphase]
    dsimp only
    rw [if_pos hrch]
    refine h.changed htask (fun p hp => ?_) (fun p _ _ => ⟨rfl, rfl⟩)
      (.inr ⟨.inl rfl, fun p hp => ?_⟩)
    · exact ⟨(h.sold task.id p hp).bought, (h.sold task.id p hp).way⟩
    · obtain ⟨hleft, hhedged, hzero⟩ := h.inPhase htask hphase hp
      refine .inr ⟨hleft, ?_⟩
      show p.hedgeCloses + 1 = if p.hedged then 1 else 0
      rw [if_pos hhedged, hzero]

end

end Advance

section Run

variable {s : ListingExits}

theorem mapStatus_ne_open {status : PositionExitStatus} {next : ListingPositionStatus}
    {reason : String} (h : mapStatus status = some (next, reason)) : next ≠ .open := by
  cases status with
  | active | cancelled | expired | error => cases h
  | _ =>
    cases h
    decide

theorem mem_expired {now : Instant} {id : ListingPositionId} (h : id ∈ s.expired now) :
    ∃ p, s.positions.get? id = some p ∧ p.status = .open := by
  obtain ⟨⟨_, p⟩, hentry, rfl⟩ := List.mem_map.mp h
  obtain ⟨hmem, hopen⟩ := List.mem_filter.mp hentry
  have hboth : p.status = .open ∧ p.expiresAt < now := by simpa using hopen
  exact ⟨p, OrdMap.get?_eq_some_iff.mpr hmem, hboth.1⟩

theorem nodup_expired (s : ListingExits) (now : Instant) : (s.expired now).Nodup :=
  (List.Sublist.map Prod.fst List.filter_sublist).nodup s.positions.nodup

theorem Handled.sweep (h : Handled s) {now : Instant} (hex : Exclusive s (.sweep now)) :
    Handled (s.start (ListingExits.sweepOf (s.expired now))) := by
  have hsweep : ∀ id ∈ s.expired now, ∀ p, s.positions.get? id = some p → Sweepable p := by
    intro id hid p hp
    obtain ⟨hunheld, hlegs⟩ := hex id hid
    obtain ⟨_, hp', hopen⟩ := mem_expired hid
    cases (hp.symm.trans hp')
    rcases h.free id p hp hunheld with hunt | hleft
    · exact ⟨hunt, (hlegs p hp).1, (hlegs p hp).2⟩
    · exact absurd hopen hleft.status
  cases hids : ListingExits.sweepOf (s.expired now) with
  | none =>
    -- nothing has expired, and no task is started
    have htasks : Function.update s.tasks s.started none = s.tasks := by
      rw [Function.update_eq_self_iff]
      exact (h.fresh _ le_rfl).symm
    have hsame : (s.start none).tasks = s.tasks := htasks
    have hholds : ∀ number id, (s.start none).Holds number id ↔ s.Holds number id := by
      intro number id
      unfold ListingExits.Holds
      rw [hsame]
    refine ⟨fun number hle => ?_, fun number task htask => ?_, fun number number' id hheld hheld' => ?_,
      h.sold, fun id p hp hfree => ?_, fun number task p htask => ?_,
      fun number task id p htask => ?_⟩
    · rw [hsame]
      exact h.fresh number ((Nat.le_succ _).trans hle)
    · exact h.nodup number task (hsame ▸ htask)
    · exact h.alone number number' id ((hholds _ _).mp hheld) ((hholds _ _).mp hheld')
    · exact h.free id p hp fun number hheld => hfree number ((hholds _ _).mpr hheld)
    · exact h.hand number task p (hsame ▸ htask)
    · exact h.waits number task id p (hsame ▸ htask)
  | some task =>
    obtain ⟨hheld, hphase⟩ := sweepOf_eq_some hids
    have hmem : ∀ id ∈ task.held, id ∈ s.expired now := fun id hid => hheld ▸ hid
    refine h.start (rowChanged_id rfl task.id) rfl rfl (hheld ▸ nodup_expired s now)
      (fun id hid => (hex id (hmem id hid)).1) (fun p hp => ⟨h.sold task.id p hp, ?_⟩) ?_
    · rw [hphase]
      exact hsweep task.id (hmem _ List.mem_cons_self) p hp
    · exact fun id hid => hsweep id (hmem _ (List.mem_cons_of_mem _ hid))

theorem Handled.step (h : Handled s) {e : ListingExitEvent} (hex : Exclusive s e) :
    Handled (s.step e) ∧ KeepsReason s (s.step e) := by
  cases e with
  | fill id kind amount =>
    refine ⟨h.modify id fun p hp => ⟨(h.sold id p hp).fill amount fun leg hleg hlive =>
      hex p leg hp hleg hlive, ?_, ?_, ?_⟩, .of_rowChanged (get?_modify s id _) fun _ _ _ => ⟨rfl, rfl⟩⟩
    · exact fun hunt =>
        ⟨hunt.status, hunt.market, hunt.hedge, hunt.announced⟩
    · exact fun hleft => ⟨hleft.status, hleft.hedge⟩
    · intro phase hphase
      refine hphase.of_legs rfl rfl rfl rfl fun hsweep => ?_
      rw [fill_of_not_live (hsweep.legs kind).1]
      exact hsweep
  | cancel id kind =>
    refine ⟨h.modify id fun p hp => ⟨(h.sold id p hp).cancel kind, ?_, ?_, ?_⟩,
      .of_rowChanged (get?_modify s id _) fun _ _ _ => ⟨rfl, rfl⟩⟩
    · exact fun hunt =>
        ⟨hunt.status, hunt.market, hunt.hedge, hunt.announced⟩
    · exact fun hleft => ⟨hleft.status, hleft.hedge⟩
    · intro phase hphase
      refine hphase.of_legs rfl rfl rfl rfl fun hsweep => ?_
      exact ⟨⟨hsweep.status, hsweep.market, hsweep.hedge, hsweep.announced⟩, hsweep.bought,
        fun other => ⟨liveLeg_cancel (hsweep.legs other).1,
          (filledBy_cancel other).trans (hsweep.legs other).2⟩⟩
  | sweep =>
    exact ⟨h.sweep hex, .of_rowChanged (rowChanged_id rfl 0) fun _ _ _ => ⟨rfl, rfl⟩⟩
  | deliver id status =>
    cases hmap : mapStatus status with
    | none =>
      have hsame : s.step (.deliver id status) = s := by simp only [ListingExits.step, hmap]
      rw [hsame]
      exact ⟨h, .refl s⟩
    | some next =>
      obtain ⟨next, reason⟩ := next
      have hstd : s.step (.deliver id status) =
          (s.modify id fun p => { p with announced := p.announced + 1 }).start
            (some { id := id, phase := .finding next reason }) := by
        simp only [ListingExits.step, hmap]
      rw [hstd]
      obtain ⟨hunheld, hopen⟩ := hex (by rw [hmap]; exact Option.some_ne_none _)
      have hrow : RowChanged s ((s.modify id fun p => { p with announced := p.announced + 1 }).start
          (some { id := id, phase := .finding next reason }))
          (ListingExitTask.mk id (.finding next reason) []).id
          fun p => { p with announced := p.announced + 1 } := get?_modify s id _
      have hnodup : (ListingExitTask.mk id (.finding next reason) []).held.Nodup :=
        List.nodup_singleton id
      refine ⟨h.start hrow ?_ ?_ hnodup ?_ ?_ ?_, .of_rowChanged hrow fun _ _ _ => ⟨rfl, rfl⟩⟩
      · show Function.update (s.modify id _).tasks (s.modify id _).started _ = _
        rw [modify_tasks, modify_started]
      · show (s.modify id _).started + 1 = _
        rw [modify_started]
      · intro id' hid'
        obtain rfl := List.mem_singleton.mp hid'
        exact hunheld
      · intro p hp
        refine ⟨⟨(h.sold id p hp).bought, (h.sold id p hp).way⟩, mapStatus_ne_open hmap,
          hopen p hp, ?_⟩
        rcases h.free id p hp hunheld with hunt | hleft
        · exact hunt.hedge
        · exact absurd (hopen p hp) hleft.status
      · exact fun id' hid' => absurd hid' List.not_mem_nil
  | advance number answer =>
    cases htask : s.tasks number with
    | none =>
      have hsame : s.step (.advance number answer) = s := by simp only [ListingExits.step, htask]
      rw [hsame]
      exact ⟨h, .refl s⟩
    | some task =>
      have hadv : s.step (.advance number answer) = s.advance number answer task := by
        simp only [ListingExits.step, htask]
      rw [hadv]
      exact h.advance htask (hex task htask)
  | crash number =>
    show Handled (s.setTask number none) ∧ KeepsReason s (s.setTask number none)
    cases htask : s.tasks number with
    | none =>
      have hsame : s.setTask number none = s := by
        unfold ListingExits.setTask
        rw [Function.update_eq_self_iff.mpr htask.symm]
      rw [hsame]
      exact ⟨h, .refl s⟩
    | some task =>
      -- a sweep that has not sold gives its position up
      refine ⟨h.goesOn htask (rowChanged_id rfl task.id) rfl rfl (h.sold task.id)
        (.inr ⟨.inr rfl, fun p hp => ?_⟩),
        .of_rowChanged (rowChanged_id rfl task.id) fun _ _ _ => ⟨rfl, rfl⟩⟩
      have hphase := h.hand number task p htask hp
      rcases hex task htask with hreading | ⟨_, hselling⟩
      · rw [hreading] at hphase
        exact .inl (Sweepable.toUntouched hphase)
      · rw [hselling] at hphase
        exact .inl hphase.1.toUntouched

structure JustBought (s : ListingExits) : Prop where
  tasks : ∀ number, s.tasks number = none
  rows : ∀ id p, s.positions.get? id = some p →
    Untouched p ∧ 0 ≤ p.executedQuantity ∧ ∀ kind, p.filledBy kind = 0

theorem JustBought.handled (h : JustBought s) : Handled s := by
  have hnone : ∀ {number task}, s.tasks number = some task → False := by
    intro number task htask
    rw [h.tasks] at htask
    cases htask
  refine ⟨fun number _ => h.tasks number, fun _ _ htask => (hnone htask).elim, ?_, fun id p hp => ?_,
    fun id p hp _ => .inl (h.rows id p hp).1, fun _ _ _ htask _ => (hnone htask).elim,
    fun _ _ _ _ htask _ _ => (hnone htask).elim⟩
  · rintro number number' id ⟨_, htask, -⟩ -
    exact (hnone htask).elim
  · obtain ⟨hunt, hbght, hlegs⟩ := h.rows id p hp
    refine ⟨hbght, .inl ⟨hunt.market, .stopLoss, hlegs _, ?_⟩⟩
    rw [hlegs]
    exact ⟨le_rfl, hbght⟩

/-- **In every run whose steps are exclusive, positions are exited once and keep their reasons.** -/
theorem exitsOnce (es : List ListingExitEvent) (h : JustBought s)
    (hex : Throughout ListingExits.step Exclusive s es) :
    Kept ListingExits.step ExitsOnce KeepsReason s es := by
  refine (kept_iff KeepsReason.refl fun _ _ _ => KeepsReason.trans).mpr ⟨h.handled.exitedOnce, ?_⟩
  refine hex.imp Handled (fun s e hhandled hstep => ?_) (fun s e hhandled hstep => ?_) h.handled
  · exact ⟨(hhandled.step hstep).1.exitedOnce, (hhandled.step hstep).2⟩
  · exact (hhandled.step hstep).1

end Run

theorem undisturbed_answered (phase : ListingExitPhase) : phase.Undisturbed {} := by
  cases phase with
  | reading => trivial
  | selling => exact fun error => by simp
  | loading => exact ⟨rfl, rfl⟩
  | _ => rfl

def hedgedUnit : ListingExit where
  expiresAt := 0
  executedQuantity := 1
  quantity := 1
  hedged := true
  legs := fun kind => if kind = .stopLoss then some { quantity := 1 } else none

def hedgedUnits : ListingExits where
  positions := OrdMap.ofEntries [(0, hedgedUnit)]

theorem justBought_hedgedUnits : JustBought hedgedUnits := by
  refine ⟨fun _ => rfl, fun id p hp => ?_⟩
  have hmem : (id, p) ∈ [(0, hedgedUnit)] := OrdMap.get?_eq_some_iff.mp hp
  obtain ⟨rfl, rfl⟩ := Prod.ext_iff.mp (List.mem_singleton.mp hmem)
  refine ⟨⟨rfl, rfl, rfl, rfl⟩, zero_le_one, fun kind => ?_⟩
  cases kind <;> rfl

def stoppedOut : List ListingExitEvent :=
  [.fill 0 .stopLoss 1, .deliver 0 .stopLossTriggered, .advance 0 {}, .advance 0 {}, .advance 0 {},
    .advance 0 {}]

theorem stoppedOut_once : Kept ListingExits.step ExitsOnce KeepsReason hedgedUnits stoppedOut := by
  refine exitsOnce stoppedOut justBought_hedgedUnits ⟨?_, ?_, fun task _ => undisturbed_answered _,
    fun task _ => undisturbed_answered _, fun task _ => undisturbed_answered _,
    fun task _ => undisturbed_answered _, trivial⟩
  · intro p leg hp hleg _
    have hmem : (0, p) ∈ [(0, hedgedUnit)] := OrdMap.get?_eq_some_iff.mp hp
    obtain ⟨-, rfl⟩ := Prod.ext_iff.mp (List.mem_singleton.mp hmem)
    cases hleg
    exact ⟨le_rfl, rfl⟩
  · intro _
    refine ⟨fun number hheld => ?_, fun p hp => ?_⟩
    · obtain ⟨_, htask, -⟩ := hheld
      cases htask
    · obtain ⟨p₀, hp₀, rfl⟩ := RowChanged.self (get?_modify hedgedUnits 0 _) hp
      exact (justBought_hedgedUnits.rows 0 p₀ hp₀).1.status

def stoppedAndSwept : List ListingExitEvent :=
  [.fill 0 .stopLoss 1, .sweep 1, .advance 0 {}, .advance 0 {}, .advance 0 {}, .advance 0 {},
    .advance 0 {}, .deliver 0 .stopLossTriggered, .advance 1 {}, .advance 1 {}, .advance 1 {},
    .advance 1 {}]

/-- **The time stop sells what the stop-loss has sold**: it takes up the position before the event is
delivered. The event then overwrites its reason and closes the hedge again. -/
theorem soldTwice :
    ((stoppedAndSwept.foldl ListingExits.step hedgedUnits).positions.get? 0).map
        (fun p => (p.sold, p.executedQuantity, p.closedReason, p.hedgeCloses)) =
        some (2, 1, some "sl_triggered", 2) ∧
      ¬ ∀ (s : ListingExits) (es : List ListingExitEvent), JustBought s →
        Kept ListingExits.step ExitsOnce KeepsReason s es := by
  have hfinal : ((stoppedAndSwept.foldl ListingExits.step hedgedUnits).positions.get? 0).map
      (fun p => (p.sold, p.executedQuantity, p.closedReason, p.hedgeCloses)) =
      some (2, 1, some "sl_triggered", 2) := by
    decide +kernel
  refine ⟨hfinal, fun h => ?_⟩
  have hkept := (h hedgedUnits stoppedAndSwept justBought_hedgedUnits [] stoppedAndSwept [] rfl).1
  obtain ⟨p, hp, hvalues⟩ := Option.map_eq_some_iff.mp hfinal
  have hcloses : p.hedgeCloses = 2 := congrArg (fun values => values.2.2.2) hvalues
  have hle := (hkept 0 p hp).hedge
  omega

end Chansey.Listing
