import Chansey.Live.Deployment

/-!
# Trading only while deployed

* **`entries_deployed`**: if the cycles of a run select deployed strategies only, no entry order is
  placed for an undeployed one. **`entered_undeployed`**: after a pause, a demotion, a termination or
  a failed risk evaluation the next cycle buys.
-/

namespace Chansey.Deployments

open Tasks
open KillSwitch (OrderAction)

variable {S D R : Type} [DecidableEq S] [DecidableEq D] [DecidableEq R]

/-- A strategy inactive since `inactiveSince` had lost its last active deployment when a cycle began
at `startedAt`. -/
def Undeployed (inactiveSince : Option ℕ) (startedAt : ℕ) : Prop :=
  ∃ since ∈ inactiveSince, since ≤ startedAt

instance (inactiveSince : Option ℕ) (startedAt : ℕ) :
    Decidable (Undeployed inactiveSince startedAt) :=
  inferInstanceAs (Decidable (∃ since ∈ inactiveSince, since ≤ startedAt))

def EntriesDeployed (placed : List (PlacedOrder S)) : Prop :=
  ∀ order ∈ placed, order.action.opens = true → ¬ Undeployed order.inactiveSince order.startedAt

/-- A cycle that reads the strategies of a user finds none that is undeployed. -/
def Op.SelectsDeployed (s : Strategies S D R) : Op S D R → Prop
  | .findStrategies user startedAt =>
    ∀ strategy ∈ getActiveStrategiesForUser s user,
      ¬ Undeployed (s.inactiveSince strategy) startedAt
  | _ => True

instance (s : Strategies S D R) (op : Op S D R) : Decidable (op.SelectsDeployed s) := by
  cases op <;> unfold Op.SelectsDeployed <;> infer_instance

def SelectsDeployed (pool : Pool (Strategies S D R) (List (Op S D R))) :
    Move (Request S D R) (Answer S D R) → Prop
  | .advance position _ =>
    ∀ op ∈ pool.inFlight[position]?.bind List.head?, op.SelectsDeployed pool.shared
  | .call _ => True

/-! ## Time passes -/

/-- A cycle that began at `startedAt`, in the past, found the strategy deployed. -/
structure DeployedSince (s : Strategies S D R) (strategy : S) (startedAt : ℕ) : Prop where
  past : startedAt < s.clock
  deployed : ¬ Undeployed (s.inactiveSince strategy) startedAt

def Op.Deployed (s : Strategies S D R) : Op S D R → Prop
  | .findUsers startedAt | .findStrategies _ startedAt => startedAt < s.clock
  | .executeStrategy strategy startedAt => DeployedSince s strategy startedAt
  | .checkDrawdown strategy _ startedAt => DeployedSince s strategy startedAt
  | .placeOrder strategy action startedAt => action.opens = true → DeployedSince s strategy startedAt
  | _ => True

/-- The clock does not go back, and deployments are lost at its present time. -/
structure Later (s t : Strategies S D R) : Prop where
  clock : s.clock ≤ t.clock
  inactiveSince : ∀ strategy since, t.inactiveSince strategy = some since →
    s.inactiveSince strategy = some since ∨ s.clock ≤ since

variable {s t : Strategies S D R} {answer : Answer S D R} {rest : List (Op S D R)} {op : Op S D R}
  {pool : Pool (Strategies S D R) (List (Op S D R))}

omit [DecidableEq S] [DecidableEq D] [DecidableEq R] in
theorem Later.refl (s : Strategies S D R) : Later s s := ⟨le_rfl, fun _ _ => Or.inl⟩

omit [DecidableEq S] [DecidableEq D] [DecidableEq R] in
theorem DeployedSince.later {strategy : S} {startedAt : ℕ} (h : DeployedSince s strategy startedAt)
    (hlater : Later s t) : DeployedSince t strategy startedAt := by
  refine ⟨h.past.trans_le hlater.clock, ?_⟩
  rintro ⟨since, hsince, hle⟩
  obtain hbef | hnow := hlater.inactiveSince strategy since hsince
  · exact h.deployed ⟨since, hbef, hle⟩
  · exact absurd (hnow.trans hle) (Nat.not_le.mpr h.past)

omit [DecidableEq S] [DecidableEq D] [DecidableEq R] in
theorem Op.Deployed.later (h : op.Deployed s) (hlater : Later s t) : op.Deployed t := by
  cases op with
  | findUsers | findStrategies => exact Nat.lt_of_lt_of_le h hlater.clock
  | executeStrategy | checkDrawdown => exact DeployedSince.later h hlater
  | placeOrder => exact fun hopens => (h hopens).later hlater
  | _ => trivial

omit [DecidableEq D] [DecidableEq R] in
theorem later_writeDeployments (deployments : OrdMap D (Deployment S)) :
    Later s (s.writeDeployments deployments) := by
  refine ⟨Nat.le_succ s.clock, fun strategy since hsince => ?_⟩
  simp only [Strategies.writeDeployments] at hsince
  split at hsince
  · cases hsince
  · split at hsince
    · cases hsince
      exact .inr le_rfl
    · exact .inl hsince

theorem exec_later : Later s (exec s answer rest op).1 := by
  cases op with
  | insertDeployment =>
    simp only [exec]
    split
    · exact Later.refl s
    · split
      · exact Later.refl s
      · exact later_writeDeployments _
  | findDeployment =>
    simp only [exec]
    split
    · exact Later.refl s
    · split <;> exact Later.refl s
  | saveDeployment => exact later_writeDeployments _
  | updateConfigStatus =>
    simp only [exec]
    split <;> exact ⟨le_rfl, fun _ _ => Or.inl⟩
  | updateDrawdown =>
    simp only [exec]
    split
    · exact Later.refl s
    · exact later_writeDeployments _
  | saveConfig | placeOrder => exact ⟨le_rfl, fun _ _ => Or.inl⟩
  | findEvaluated | checkDrawdown =>
    simp only [exec]
    split <;> exact Later.refl s
  | _ => exact Later.refl s

/-! ## What a cycle does -/

theorem exec_placed (h : EntriesDeployed s.placed) (hop : op.Deployed s) :
    EntriesDeployed (exec s answer rest op).1.placed := by
  cases op with
  | insertDeployment | findDeployment =>
    simp only [exec]
    split
    · exact h
    · split <;> exact h
  | updateConfigStatus | updateDrawdown | findEvaluated
  | checkDrawdown =>
    simp only [exec]
    split <;> exact h
  | placeOrder =>
    intro order horder hopens
    rcases List.mem_append.mp horder with horder | horder
    · exact h order horder hopens
    · rw [List.mem_singleton] at horder
      subst horder
      exact (hop hopens).deployed
  | _ => exact h

omit [DecidableEq S] in
theorem Op.Starts.deployed {next : Op S D R} (h : op.Starts s next) (hop : op.Deployed s)
    (hselects : op.SelectsDeployed s) : next.Deployed s := by
  cases next with
  | findStrategies | checkDrawdown =>
    subst h
    exact hop
  | executeStrategy strategy =>
    obtain ⟨_, rfl, hmem⟩ := h
    exact ⟨hop, hselects strategy hmem⟩
  | placeOrder =>
    intro hopens
    obtain rfl := h hopens
    exact hop
  | findUsers => exact absurd h id
  | _ => trivial

/-! ## Runs -/

theorem deployed_exec {position : ℕ}
    (h : Holds (fun s => EntriesDeployed s.placed) Op.Deployed pool)
    (htask : pool.inFlight[position]? = some (op :: rest))
    (hselects : SelectsDeployed pool (.advance position answer)) :
    KeepsEach (fun s => EntriesDeployed s.placed) Op.Deployed pool
      (exec pool.shared answer rest op) := by
  have hops : ∀ other ∈ op :: rest, other.Deployed pool.shared := h.2 _ (List.mem_of_getElem? htask)
  have hop : op.Deployed pool.shared := hops op List.mem_cons_self
  refine ⟨exec_placed h.1 hop, fun next hnext => ?_, fun _ _ _ _ hother => hother.later exec_later⟩
  have hselected : op.SelectsDeployed pool.shared := hselects op (by rw [htask]; rfl)
  obtain hmem | hstart := exec_next next hnext
  · exact (hops next (List.mem_cons_of_mem _ hmem)).later exec_later
  · exact (hstart.deployed hop hselected).later exec_later

omit [DecidableEq S] [DecidableEq D] [DecidableEq R] in
theorem deployed_receive {request : Request S D R}
    (h : Holds (fun s => EntriesDeployed s.placed) Op.Deployed pool) :
    KeepsEach (fun s => EntriesDeployed s.placed) Op.Deployed pool
      (receive pool.shared request) := by
  cases request with
  | executeLiveTrading =>
    have hlater : Later pool.shared { pool.shared with clock := pool.shared.clock + 1 } :=
      ⟨Nat.le_succ _, fun _ _ => Or.inl⟩
    refine ⟨h.1, fun op hop => ?_, fun _ _ _ _ hother => hother.later hlater⟩
    obtain rfl := List.mem_singleton.mp hop
    exact Nat.lt_succ_self pool.shared.clock
  | _ =>
    refine ⟨h.1, fun op hop => ?_, fun _ _ _ _ hother => hother⟩
    obtain rfl := List.mem_singleton.mp hop
    trivial

/-- **If the cycles of a run select deployed strategies only, no cycle that began after a strategy
lost its last active deployment places an entry order for it before one is active again.** -/
theorem entries_deployed (strategyConfigs : OrdMap S (StrategyConfig R))
    (deployments : OrdMap D (Deployment S)) (risks : ℕ → Option R)
    (pool : Pool (Strategies S D R) (List (Op S D R)))
    (hreached : strategyProgram.Reached SelectsDeployed
      (tablesPool strategyConfigs deployments risks) pool) :
    EntriesDeployed pool.shared.placed := by
  have hdeployed : Holds (fun s => EntriesDeployed s.placed) Op.Deployed pool :=
    Script.holds (fun pool request h _ => deployed_receive h)
      (fun pool position answer op rest h => deployed_exec h)
      ⟨fun order horder => (by cases horder), fun task htask => (by cases htask)⟩ hreached
  exact hdeployed.1

/-! ## A cycle after the last deployment was lost -/

def approvalPool : Pool (Strategies ℕ ℕ ℕ) (List (Op ℕ ℕ ℕ)) :=
  tablesPool
    (OrdMap.empty.set 0 { riskPoolId := some 0, shadowStatus := .live, status := .validated })
    (OrdMap.empty.set 0
      { strategyConfigId := 0, status := .pendingApproval, maxDrawdownLimit := 2 / 5 })
    fun _ => none

def commandMoves (command : Command) : List (Move (Request ℕ ℕ ℕ) (Answer ℕ ℕ ℕ)) :=
  [.call (.command 0 command), .advance 0 {}, .advance 0 {}, .advance 0 {}]

def breachMoves : List (Move (Request ℕ ℕ ℕ) (Answer ℕ ℕ ℕ)) :=
  [.call (.evaluateRisks 0), .advance 0 {},
    .advance 0
      { checkResults := fun check =>
          some (if check = .drawdownBreach then (false, .critical) else (true, .low)) },
    .advance 0 {}, .advance 0 {}, .advance 0 {}]

def cycleMoves : List (Move (Request ℕ ℕ ℕ) (Answer ℕ ℕ ℕ)) :=
  [.call .executeLiveTrading,
    .advance 0
      { users := [{ coinRisk := some { id := 0, level := 3 }, effectiveCalculationRiskLevel := 3 }] },
    .advance 0 {}, .advance 0 { signal := some .buy }, .advance 0 {}, .advance 0 {}]

theorem entries_deployed_retired : let retire : List (Move (Request ℕ ℕ ℕ) (Answer ℕ ℕ ℕ)) :=
      [.call (.saveConfig 0 { riskPoolId := none, shadowStatus := .retired, status := .live }),
        .advance 0 {}]
    let moves := commandMoves .activate ++ cycleMoves ++ commandMoves .pause ++ retire ++ cycleMoves
    (strategyProgram.run approvalPool moves).shared.placed = [⟨0, .buy, 1, none⟩] ∧
      EntriesDeployed (strategyProgram.run approvalPool moves).shared.placed := by
  intro retire moves
  have hselects : strategyProgram.AllMeet SelectsDeployed approvalPool moves := by
    refine ⟨trivial, ?_, ?_, ?_, trivial, ?_, ?_, ?_, ?_, ?_, trivial, ?_, ?_, ?_, trivial, ?_,
      trivial, ?_, ?_, ?_, ?_, ?_, trivial⟩ <;>
      (unfold SelectsDeployed; decide +kernel)
  exact ⟨by decide +kernel, entries_deployed _ _ _ _ (Program.reached_run hselects)⟩

def placedAfter (lost : List (Move (Request ℕ ℕ ℕ) (Answer ℕ ℕ ℕ))) : List (PlacedOrder ℕ) :=
  (strategyProgram.run approvalPool (commandMoves .activate ++ lost ++ cycleMoves)).shared.placed

theorem not_entriesDeployed_buy : ¬ EntriesDeployed [(⟨0, .buy, 2, some 1⟩ : PlacedOrder ℕ)] :=
  fun h => h _ List.mem_cons_self rfl ⟨1, rfl, by decide⟩

/-- **A deployed strategy is bought for by the cycle after its only deployment was paused, demoted,
terminated or demoted by a risk evaluation.** -/
theorem entered_undeployed :
    ¬ EntriesDeployed (placedAfter (commandMoves .pause)) ∧
      ¬ EntriesDeployed (placedAfter (commandMoves .demote)) ∧
      ¬ EntriesDeployed (placedAfter (commandMoves .terminate)) ∧
      ¬ EntriesDeployed (placedAfter breachMoves) := by
  have hpause : placedAfter (commandMoves .pause) = [⟨0, .buy, 2, some 1⟩] := by decide +kernel
  have hdemote : placedAfter (commandMoves .demote) = [⟨0, .buy, 2, some 1⟩] := by decide +kernel
  have hterminate : placedAfter (commandMoves .terminate) = [⟨0, .buy, 2, some 1⟩] := by
    decide +kernel
  have hbreach : placedAfter breachMoves = [⟨0, .buy, 2, some 1⟩] := by decide +kernel
  rw [hpause, hdemote, hterminate, hbreach]
  exact ⟨not_entriesDeployed_buy, not_entriesDeployed_buy, not_entriesDeployed_buy,
    not_entriesDeployed_buy⟩

end Chansey.Deployments
