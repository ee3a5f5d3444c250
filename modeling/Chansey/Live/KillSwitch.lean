import Chansey.Lib.Scripts

/-!
# The kill switch

An admin halts and resumes trading. Three automatic paths send orders: the live trading cycle, the
trade execution job and the listing trade job, in any number of processes, each of which caches the
trading state.

* `isTradingEnabled`, `Op`, `exec`, `receive`: the flag and its cache, and the calls of the paths as
  lists of operations. What a strategy, an activation or a listing comes to is an answer.
* `sent`: the orders sent so far, each with whether a halt had returned and no resume been called.
* `Orderly`: a halt returns when its flag has reached every process and no path is past its check;
  no listing job starts while trading is halted.
-/

namespace Chansey.KillSwitch

open Tasks

inductive OrderAction where
  | buy | sell | shortEntry | shortExit
  deriving DecidableEq

def OrderAction.opens : OrderAction → Bool
  | .buy | .shortEntry => true
  | .sell | .shortExit => false

structure SentOrder where
  action : OrderAction
  whileHalted : Bool
  deriving DecidableEq

/-- The stored flag, the state each process has cached, and the orders sent. `halted`: a halt has
returned, and no resume has been called since. -/
structure Trading (P : Type) where
  tradingEnabled : Bool := true
  cachedState : P → Option Bool
  halted : Bool := false
  sent : List SentOrder := []

section Model

variable {P : Type} [DecidableEq P]

def isTradingEnabled (s : Trading P) (process : P) : Bool := (s.cachedState process).getD true

inductive StateRequest where
  | halt | resume

/-- The conditions a listing job waits for, in their order. -/
inductive ListingCheck where
  | userCoinAndRisk | lockAcquired | notHolding | belowMaxConcurrent | executable | hedged

inductive Op (P : Type) where
  /-- `getState`, and what a halt or a resume does at once when it returns. -/
  | getState (process : P) (request : StateRequest)
  | saveState (tradingEnabled : Bool)
  | refreshCache (process : P)
  | haltReturns
  | acquireLock
  | findUsers
  | executeUserStrategies
  | executeStrategy
  | executeTrades
  /-- A chunk of users processed side by side: the activations left of each. -/
  | activations (groups : List ℕ)
  | check (condition : ListingCheck)
  | placeOrder (action : OrderAction)

structure Answer where
  proceeds : Bool := true
  /-- How many users, or strategies, there are. -/
  count : ℕ := 0
  groups : List ℕ := []
  /-- The user of the chunk that moves on. -/
  position : ℕ := 0
  /-- The positions sold to free cash. -/
  sales : ℕ := 0
  order : Option OrderAction := none

def CONCURRENCY_LIMIT : ℕ := 5

/-- One call, and the operations left after it. A halt and a resume change the cached state before
they save it. -/
def exec (s : Trading P) (answer : Answer) (rest : List (Op P)) : Op P → Trading P × List (Op P)
  | .getState process .halt =>
    if s.tradingEnabled then
      ({ s with cachedState := Function.update s.cachedState process (some false) },
        .saveState false :: .refreshCache process :: .haltReturns :: rest)
    else
      ({ s with cachedState := Function.update s.cachedState process (some s.tradingEnabled) },
        .haltReturns :: rest)
  | .getState process .resume =>
    if s.tradingEnabled then
      ({ s with cachedState := Function.update s.cachedState process (some s.tradingEnabled) }, rest)
    else
      ({ s with cachedState := Function.update s.cachedState process (some true) },
        .saveState true :: .refreshCache process :: rest)
  | .saveState tradingEnabled => ({ s with tradingEnabled := tradingEnabled }, rest)
  | .refreshCache process =>
    ({ s with cachedState := Function.update s.cachedState process (some s.tradingEnabled) }, rest)
  | .haltReturns => ({ s with halted := true }, rest)
  | .acquireLock => (s, if answer.proceeds then .findUsers :: rest else rest)
  | .findUsers => (s, List.replicate answer.count .executeUserStrategies ++ rest)
  | .executeUserStrategies => (s, List.replicate answer.count .executeStrategy ++ rest)
  | .executeStrategy =>
    (s, List.replicate answer.sales (.placeOrder .sell) ++
      (answer.order.toList.map .placeOrder ++ rest))
  | .executeTrades => (s, (answer.groups.toChunks CONCURRENCY_LIMIT).map .activations ++ rest)
  | .activations groups =>
    match groups[answer.position]? with
    | some (left + 1) =>
      (s, answer.order.toList.map .placeOrder ++
        .activations (groups.set answer.position left) :: rest)
    | _ => if groups.all (· = 0) then (s, rest) else (s, .activations groups :: rest)
  | .check _ => (s, if answer.proceeds then rest else [])
  | .placeOrder action => ({ s with sent := s.sent ++ [⟨action, s.halted⟩] }, rest)

/-- What starts a task: the requests of an admin, and the crons and jobs of the paths. A process that
starts, or is asked for the state, reads it. -/
inductive Request (P : Type) where
  | haltTrading (process : P)
  | resumeTrading (process : P)
  | readState (process : P)
  | executeLiveTrading (process : P)
  | processTradeExecution (process : P) (jobName : String)
  | processListingTrade

def receive (s : Trading P) : Request P → Trading P × List (Op P)
  | .haltTrading process => (s, [.getState process .halt])
  | .resumeTrading process => ({ s with halted := false }, [.getState process .resume])
  | .readState process => (s, [.refreshCache process])
  | .executeLiveTrading process => (s, if isTradingEnabled s process then [.acquireLock] else [])
  | .processTradeExecution process jobName =>
    (s,
      if isTradingEnabled s process then if jobName = "execute-trades" then [.executeTrades] else []
      else [])
  -- the flag is not looked at
  | .processListingTrade =>
    (s, [.check .userCoinAndRisk, .check .lockAcquired, .check .notHolding,
      .check .belowMaxConcurrent, .check .executable, .placeOrder .buy, .check .hedged,
      .placeOrder .shortEntry])

def tradingScript : Script (Trading P) (Op P) (Request P) Answer where
  receive := receive
  exec s answer op rest := exec s answer rest op

def tradingProgram : Program (Trading P) (List (Op P)) (Request P) Answer := tradingScript.program

def enabledPool : Pool (Trading P) (List (Op P)) := ⟨{ cachedState := fun _ => some true }, []⟩

end Model

/-! ## Nothing is opened while trading is halted -/

def Op.halting {P : Type} : Op P → Bool
  | .getState _ .halt | .saveState false | .refreshCache _ | .haltReturns => true
  | _ => false

section Safety

variable {P : Type} [DecidableEq P]

/-- The halt has reached every process, and nothing else is under way. -/
structure Quiet (pool : Pool (Trading P) (List (Op P))) : Prop where
  stored : pool.shared.tradingEnabled = false
  cached : ∀ process, pool.shared.cachedState process = some false
  inFlight : ∀ task ∈ pool.inFlight, ∀ op ∈ task, op.halting = true

def Orderly (pool : Pool (Trading P) (List (Op P))) : Move (Request P) Answer → Prop
  | .call .processListingTrade => pool.shared.halted = false
  | .advance position _ =>
    ∀ rest, pool.inFlight[position]? = some (.haltReturns :: rest) → Quiet pool
  | _ => True

def OpensNothing (sent : List SentOrder) : Prop :=
  ∀ order ∈ sent, order.whileHalted = true → order.action.opens = false

/-- While trading is halted the stored and the cached flags are down, and nothing has been opened in
such a time. -/
structure Halted (s : Trading P) : Prop where
  stored : s.halted = true → s.tradingEnabled = false
  cached : s.halted = true → ∀ process, s.cachedState process = some false
  sent : OpensNothing s.sent

def Op.Halts (s : Trading P) (op : Op P) : Prop := s.halted = true → op.halting = true

variable {s : Trading P} {answer : Answer} {rest : List (Op P)} {op : Op P}
  {pool : Pool (Trading P) (List (Op P))}

theorem exec_halted (hop : op ≠ .haltReturns) : (exec s answer rest op).1.halted = s.halted := by
  cases op with
  | getState process request => cases request <;> simp only [exec] <;> split <;> rfl
  | haltReturns => exact absurd rfl hop
  | activations =>
    simp only [exec]
    split
    · rfl
    · split <;> rfl
  | _ => rfl

theorem exec_sent (hsafe : OpensNothing s.sent)
    (hplac : ∀ action, op = .placeOrder action → s.halted = true → action.opens = false) :
    OpensNothing (exec s answer rest op).1.sent := by
  cases op with
  | getState process request => cases request <;> simp only [exec] <;> split <;> exact hsafe
  | activations =>
    simp only [exec]
    split
    · exact hsafe
    · split <;> exact hsafe
  | placeOrder action =>
    intro order horder hhalt
    rcases List.mem_append.mp horder with horder | horder
    · exact hsafe order horder hhalt
    · rw [List.mem_singleton] at horder
      subst horder
      exact hplac action rfl hhalt
  | _ => exact hsafe

theorem exec_halting (answer : Answer) (hop : op.halting = true) (hstd : s.tradingEnabled = false)
    (hcached : ∀ process, s.cachedState process = some false)
    (hrest : ∀ next ∈ rest, next.halting = true) :
    (exec s answer rest op).1.tradingEnabled = false ∧
      (∀ process, (exec s answer rest op).1.cachedState process = some false) ∧
      ∀ next ∈ (exec s answer rest op).2, next.halting = true := by
  have hupdated : ∀ process other,
      Function.update s.cachedState process (some s.tradingEnabled) other = some false := by
    intro process other
    rw [hstd, Function.update_apply]
    split
    · rfl
    · exact hcached other
  cases op with
  | getState process request =>
    cases request with
    | resume => cases hop
    | halt =>
      simp only [exec, hstd, Bool.false_eq_true, if_false]
      rw [hstd] at hupdated
      exact ⟨trivial, hupdated process, List.forall_mem_cons.mpr ⟨rfl, hrest⟩⟩
  | saveState tradingEnabled =>
    cases tradingEnabled with
    | true => cases hop
    | false => exact ⟨rfl, hcached, hrest⟩
  | refreshCache process => exact ⟨hstd, hupdated process, hrest⟩
  | haltReturns => exact ⟨hstd, hcached, hrest⟩
  | _ => cases hop

omit [DecidableEq P] in
theorem halted_call {request : Request P} (h : Holds Halted Op.Halts pool)
    (hord : Orderly pool (.call request)) :
    KeepsEach Halted Op.Halts pool (receive pool.shared request) := by
  -- a request that leaves the state and starts calls of halts only, if trading is halted
  have hkept : ∀ ops : List (Op P), (pool.shared.halted = true → ∀ op ∈ ops, op.halting = true) →
      KeepsEach Halted Op.Halts pool (pool.shared, ops) := fun ops hops =>
    ⟨h.1, fun op hop hhalt => hops hhalt op hop, fun _ _ _ _ hhalts => hhalts⟩
  have hdisabled : ∀ process, pool.shared.halted = true →
      isTradingEnabled pool.shared process = false := by
    intro process hhalt
    rw [isTradingEnabled, h.1.cached hhalt process]
    rfl
  cases request with
  | haltTrading | readState => exact hkept _ fun _ => by simp [Op.halting]
  | resumeTrading =>
    exact ⟨⟨fun hhalt => (by cases hhalt), fun hhalt => (by cases hhalt), h.1.sent⟩,
      fun _ _ hhalt => (by cases hhalt), fun _ _ _ _ _ hhalt => (by cases hhalt)⟩
  | executeLiveTrading process | processTradeExecution process =>
    refine hkept _ fun hhalt => ?_
    simp [hdisabled process hhalt]
  | processListingTrade =>
    refine hkept _ fun hhalt => ?_
    rw [show pool.shared.halted = false from hord] at hhalt
    cases hhalt

theorem halted_exec {position : ℕ} (h : Holds Halted Op.Halts pool)
    (htask : pool.inFlight[position]? = some (op :: rest))
    (hord : Orderly pool (.advance position answer)) :
    KeepsEach Halted Op.Halts pool (exec pool.shared answer rest op) := by
  have hmem : op :: rest ∈ pool.inFlight := List.mem_of_getElem? htask
  by_cases hhalt : (exec pool.shared answer rest op).1.halted = true
  · -- the pool was quiet: it was halted before, or the halt returns now
    have hquiet : Quiet pool := by
      by_cases hop : op = .haltReturns
      · exact hord rest (hop ▸ htask)
      · have hbef := (exec_halted hop).symm.trans hhalt
        exact ⟨h.1.stored hbef, h.1.cached hbef,
          fun task htask op hop => h.2 task htask op hop hbef⟩
    obtain ⟨hstd, hcached, hnext⟩ := exec_halting answer
      (hquiet.inFlight _ hmem op List.mem_cons_self) hquiet.stored hquiet.cached
      fun next hnext => hquiet.inFlight _ hmem next (List.mem_cons_of_mem op hnext)
    refine ⟨⟨fun _ => hstd, fun _ => hcached, exec_sent h.1.sent ?_⟩,
      fun next hmem _ => hnext next hmem, fun task htask op hop _ _ => ?_⟩
    · rintro action rfl -
      have hplac := hquiet.inFlight _ hmem (.placeOrder action) List.mem_cons_self
      cases hplac
    · exact hquiet.inFlight task htask op hop
  · refine ⟨⟨fun h => absurd h hhalt, fun h => absurd h hhalt, exec_sent h.1.sent ?_⟩,
      fun _ _ h => absurd h hhalt, fun _ _ _ _ _ h => absurd h hhalt⟩
    rintro action rfl hbef
    exact absurd hbef hhalt

/-- **In an orderly run no automatic path opens a position after a halt has returned and before a
resume is called.** -/
theorem halted_opens_nothing (pool : Pool (Trading P) (List (Op P)))
    (hreached : tradingProgram.Reached Orderly enabledPool pool) :
    OpensNothing pool.shared.sent := by
  have hhalted : Holds Halted Op.Halts pool := by
    refine Script.holds (fun pool request h => halted_call h)
      (fun pool position answer op rest h => halted_exec h) ⟨⟨?_, ?_, ?_⟩, ?_⟩ hreached
    · intro hhalted
      cases hhalted
    · intro hhalted
      cases hhalted
    · intro order horder
      cases horder
    · intro task htask
      cases htask
  exact hhalted.1.sent

end Safety

/-! ## A halt beside running work -/

def quietHalt : List (Move (Request Unit) Answer) :=
  [.call (.haltTrading ()), .advance 0 {}, .advance 0 {}, .advance 0 {}, .advance 0 {},
    .call (.executeLiveTrading ()), .call (.resumeTrading ()), .advance 0 {}, .advance 0 {},
    .advance 0 {}, .call (.executeLiveTrading ()), .advance 0 {}, .advance 0 { count := 1 },
    .advance 0 { count := 1 }, .advance 0 { order := some .buy }, .advance 0 {}]

theorem halted_opens_nothing_quiet :
    (tradingProgram.run enabledPool quietHalt).shared.sent = [⟨.buy, false⟩] ∧
      OpensNothing (tradingProgram.run enabledPool quietHalt).shared.sent := by
  have horderly : tradingProgram.AllMeet Orderly enabledPool quietHalt := by
    refine ⟨trivial, ?_, ?_, ?_, ?_, trivial, trivial, ?_, ?_, ?_, trivial, ?_, ?_, ?_, ?_, ?_,
      trivial⟩
    all_goals
      intro rest h
      cases h
    refine ⟨rfl, fun _ => rfl, fun task htask op hop => ?_⟩
    obtain rfl := List.mem_singleton.mp htask
    obtain rfl := List.mem_singleton.mp hop
    rfl
  exact ⟨by decide, halted_opens_nothing _ (Program.reached_run horderly)⟩

/-- **A live trading cycle that passed its check before a halt, and a listing job received after it,
buy while trading is halted.** -/
theorem opened_while_halted :
    ¬ OpensNothing (tradingProgram.run (enabledPool : Pool (Trading Unit) _)
      [.call (.executeLiveTrading ()), .advance 0 {}, .advance 0 { count := 1 },
        .advance 0 { count := 1 }, .call (.haltTrading ()), .advance 1 {}, .advance 1 {},
        .advance 1 {}, .advance 1 {}, .advance 0 { order := some .buy },
        .advance 0 {}]).shared.sent ∧
    ¬ OpensNothing (tradingProgram.run (enabledPool : Pool (Trading Unit) _)
      [.call (.haltTrading ()), .advance 0 {}, .advance 0 {}, .advance 0 {}, .advance 0 {},
        .call .processListingTrade, .advance 0 {}, .advance 0 {}, .advance 0 {}, .advance 0 {},
        .advance 0 {}, .advance 0 {}]).shared.sent := by
  constructor
  all_goals
    intro h
    have hbuy := h ⟨.buy, true⟩ (by decide) rfl
    cases hbuy

end Chansey.KillSwitch
