import Chansey.Lib.OrdMap
import Chansey.Live.KillSwitch
import Mathlib.Algebra.Order.Ring.Unbundled.Rat

/-!
# Deployments and the strategies that trade

A strategy is deployed, activated, paused, resumed, demoted and terminated. The live trading cycle
reads the strategies of the risk pool of each user and sends their orders.

* `Op`, `exec`, `receive`: the requests as lists of operations. What a strategy signals, the scores
  and the results of the risk checks are answers.
-/

namespace Chansey.Deployments

open Tasks
open KillSwitch (OrderAction)

inductive DeploymentStatus where
  | testing | validated | pendingApproval | active | paused | deactivated | demoted | terminated
  deriving DecidableEq

inductive StrategyStatus where
  | draft | testing | validated | live | deprecated | failed | rejected | deactivated

inductive ShadowStatus where
  | testing | shadow | live | retired
  deriving DecidableEq

structure Deployment (S : Type) where
  strategyConfigId : S
  status : DeploymentStatus
  currentDrawdown : ℚ := 0
  maxDrawdownLimit : ℚ
  deriving DecidableEq

def Deployment.isActive {S : Type} (deployment : Deployment S) : Bool := deployment.status = .active

def Deployment.isPaused {S : Type} (deployment : Deployment S) : Bool := deployment.status = .paused

structure StrategyConfig (R : Type) where
  riskPoolId : Option R
  shadowStatus : ShadowStatus
  status : StrategyStatus

structure CoinRisk (R : Type) where
  id : R
  level : ℕ

structure User (R : Type) where
  coinRisk : Option (CoinRisk R)
  effectiveCalculationRiskLevel : ℕ

/-- An order of a cycle that began at `startedAt`, and since when its strategy has had no active
deployment. -/
structure PlacedOrder (S : Type) where
  strategy : S
  action : OrderAction
  startedAt : ℕ
  inactiveSince : Option ℕ
  deriving DecidableEq

/-- The tables, oldest row first. The clock moves when a cycle begins and when a deployment is
written. -/
structure Strategies (S D R : Type) where
  strategyConfigs : OrdMap S (StrategyConfig R)
  deployments : OrdMap D (Deployment S)
  risks : ℕ → Option R
  clock : ℕ := 0
  inactiveSince : S → Option ℕ := fun _ => none
  placed : List (PlacedOrder S) := []

section Reads

variable {S D R : Type} [DecidableEq S] [DecidableEq D] [DecidableEq R]

def findByStrategy (s : Strategies S D R) (strategyConfigId : S) : List (Deployment S) :=
  (s.deployments.entries.reverse.map Prod.snd).filter (·.strategyConfigId = strategyConfigId)

def hasActive (deployments : OrdMap D (Deployment S)) (strategyConfigId : S) : Bool :=
  deployments.entries.any fun row => row.2.strategyConfigId = strategyConfigId ∧ row.2.isActive

def CUSTOM_RISK_LEVEL : ℕ := 6

def getRiskIdForUser (s : Strategies S D R) (user : User R) : Option R :=
  match user.coinRisk with
  | none => none
  | some coinRisk =>
    if coinRisk.level = CUSTOM_RISK_LEVEL then s.risks user.effectiveCalculationRiskLevel
    else some coinRisk.id

def getActiveStrategiesForUser (s : Strategies S D R) (user : User R) : List S :=
  match getRiskIdForUser s user with
  | none => []
  | some riskId =>
    (s.strategyConfigs.entries.reverse.filter fun row =>
      row.2.shadowStatus = .live ∧ row.2.riskPoolId = some riskId).map Prod.fst

def checkDrawdown (s : Strategies S D R) (strategyConfigId : S) (action : OrderAction) : Bool :=
  if action = .sell ∨ action = .shortExit then true
  else
    match (findByStrategy s strategyConfigId).find? (·.status = .active) with
    | none => true
    | some activeDeployment =>
      ¬activeDeployment.maxDrawdownLimit ≤ activeDeployment.currentDrawdown

/-! ## Risk checks -/

inductive Severity where
  | low | medium | high | critical
  deriving DecidableEq

inductive RiskCheck where
  | drawdownBreach | dailyLossLimit | consecutiveLosses | volatilitySpike | sharpeDegradation
  | concentrationRisk
  deriving DecidableEq

def RiskCheck.autoDemote : RiskCheck → Bool
  | .drawdownBreach | .dailyLossLimit | .consecutiveLosses | .volatilitySpike => true
  | .sharpeDegradation | .concentrationRisk => false

def checks : List RiskCheck :=
  [.drawdownBreach, .dailyLossLimit, .consecutiveLosses, .volatilitySpike, .sharpeDegradation,
    .concentrationRisk]

structure RiskCheckResult where
  checkName : RiskCheck
  passed : Bool
  severity : Severity

def evaluateCheck (check : RiskCheck) (result : Option (Bool × Severity)) : RiskCheckResult :=
  match result with
  | some (passed, severity) => ⟨check, passed, severity⟩
  | none => ⟨check, false, .critical⟩

def shouldDemote (checkResults : List RiskCheckResult) : Bool :=
  checkResults.any fun r =>
    !r.passed && r.severity = .critical && (checks.filter (·.autoDemote)).any (· = r.checkName)

end Reads

/-! ## Operations -/

section Model

variable (S D R : Type)

inductive Command where
  | activate | pause | resume | demote | terminate
  /-- `updateAllocation` and `updateDeploymentDriftStatus` save the row they have read. -/
  | saveOther

inductive Op where
  /-- `createDeployment`, up to its insertion. -/
  | findScore (strategyConfigId : S)
  | findExisting (strategyConfigId : S) (maxDrawdownLimit : ℚ)
  | countActive (strategyConfigId : S) (maxDrawdownLimit : ℚ)
  | insertDeployment (strategyConfigId : S) (maxDrawdownLimit : ℚ)
  | findDeployment (id : D) (command : Command)
  | saveDeployment (id : D) (deployment : Deployment S)
  | updateConfigStatus (strategyConfigId : S) (status : StrategyStatus)
  | updateDrawdown (id : D) (drawdown : ℚ)
  | saveConfig (strategyConfigId : S) (config : StrategyConfig R)
  | getActiveDeployments (evaluates : Bool)
  | findEvaluated (id : D)
  | evaluateChecks (id : D)
  | findUsers (startedAt : ℕ)
  | findStrategies (user : User R) (startedAt : ℕ)
  | executeStrategy (strategy : S) (startedAt : ℕ)
  | checkDrawdown (strategy : S) (action : OrderAction) (startedAt : ℕ)
  | placeOrder (strategy : S) (action : OrderAction) (startedAt : ℕ)

structure Answer where
  proceeds : Bool := true
  sharpeRatio : ℚ := 0
  id : Option D := none
  /-- The active deployments in the order in which they were deployed. -/
  ids : List D := []
  checkResults : RiskCheck → Option (Bool × Severity) := fun _ => none
  users : List (User R) := []
  /-- The signal of the strategy that passes the gates before the drawdown gate. -/
  signal : Option OrderAction := none
  /-- The strategies whose positions are sold to free cash. -/
  sales : List S := []

variable {S D R} [DecidableEq S] [DecidableEq D] [DecidableEq R]

def Strategies.writeDeployments (s : Strategies S D R) (deployments : OrdMap D (Deployment S)) :
    Strategies S D R :=
  { s with
    deployments := deployments
    inactiveSince := fun strategy =>
      if hasActive deployments strategy then none
      else if hasActive s.deployments strategy then some s.clock
      else s.inactiveSince strategy
    clock := s.clock + 1 }

/-- What a command does with the row it has read: the guard, the row saved, and the status the
strategy gets after it. -/
def Command.run (deployment : Deployment S) :
    Command → Option (Deployment S × Option StrategyStatus)
  | .activate =>
    if deployment.status ≠ .pendingApproval then none
    else some ({ deployment with status := .active }, some .live)
  | .pause =>
    if deployment.isActive then some ({ deployment with status := .paused }, none) else none
  | .resume =>
    if deployment.isPaused then some ({ deployment with status := .active }, none) else none
  | .demote => some ({ deployment with status := .demoted }, some .deprecated)
  | .terminate => some ({ deployment with status := .terminated }, some .deprecated)
  | .saveOther => if deployment.isActive then some (deployment, none) else none

def exec (s : Strategies S D R) (answer : Answer S D R) (rest : List (Op S D R)) :
    Op S D R → Strategies S D R × List (Op S D R)
  | .findScore strategyConfigId =>
    -- the strategy, its score and the promotion
    (s,
      if answer.proceeds then
        .findExisting strategyConfigId (min (answer.sharpeRatio * (3 / 2)) (2 / 5)) :: rest
      else rest)
  | .findExisting strategyConfigId maxDrawdownLimit =>
    (s,
      if hasActive s.deployments strategyConfigId then rest
      else .countActive strategyConfigId maxDrawdownLimit :: rest)
  | .countActive strategyConfigId maxDrawdownLimit =>
    (s,
      if 35 ≤ (s.deployments.entries.filter (·.2.isActive)).length then rest
      else .insertDeployment strategyConfigId maxDrawdownLimit :: rest)
  | .insertDeployment strategyConfigId maxDrawdownLimit =>
    match answer.id with
    | none => (s, rest)
    | some id =>
      if s.deployments.has id then (s, rest)
      else
        (s.writeDeployments (s.deployments.set id
          { strategyConfigId := strategyConfigId, status := .pendingApproval
            maxDrawdownLimit := maxDrawdownLimit }), rest)
  | .findDeployment id command =>
    match s.deployments.get? id with
    | none => (s, rest)
    | some deployment =>
      match command.run deployment with
      | none => (s, rest)
      | some (saved, status) =>
        (s, .saveDeployment id saved ::
          (status.toList.map (.updateConfigStatus deployment.strategyConfigId) ++ rest))
  | .saveDeployment id deployment =>
    (s.writeDeployments (s.deployments.set id deployment), rest)
  | .updateConfigStatus strategyConfigId status =>
    match s.strategyConfigs.get? strategyConfigId with
    | none => (s, rest)
    | some config =>
      ({ s with
          strategyConfigs := s.strategyConfigs.set strategyConfigId { config with status := status } },
        rest)
  | .updateDrawdown id drawdown =>
    match s.deployments.get? id with
    | none => (s, rest)
    | some deployment =>
      (s.writeDeployments
        (s.deployments.set id { deployment with currentDrawdown := drawdown }), rest)
  | .saveConfig strategyConfigId config =>
    ({ s with strategyConfigs := s.strategyConfigs.set strategyConfigId config }, rest)
  | .getActiveDeployments evaluates =>
    let active := answer.ids.filter fun id =>
      match s.deployments.get? id with
      | none => false
      | some deployment => deployment.isActive
    (s, active.map (fun id => if evaluates then .findEvaluated id else .findDeployment id .pause) ++
      rest)
  | .findEvaluated id =>
    match s.deployments.get? id with
    | none => (s, rest)
    | some deployment => (s, if deployment.isActive then .evaluateChecks id :: rest else rest)
  | .evaluateChecks id =>
    let checkResults := checks.map fun check => evaluateCheck check (answer.checkResults check)
    (s, if shouldDemote checkResults then .findDeployment id .demote :: rest else rest)
  | .findUsers startedAt =>
    -- the lock and the users
    (s, if answer.proceeds then answer.users.map (.findStrategies · startedAt) ++ rest else rest)
  | .findStrategies user startedAt =>
    -- the balances, and what is read between the strategies and the first of them
    (s,
      if answer.proceeds then
        (getActiveStrategiesForUser s user).map (.executeStrategy · startedAt) ++ rest
      else rest)
  | .executeStrategy strategy startedAt =>
    (s, answer.signal.toList.map (.checkDrawdown strategy · startedAt) ++ rest)
  | .checkDrawdown strategy action startedAt =>
    if checkDrawdown s strategy action then
      -- the concentration gate and the sales that free cash
      (s, answer.sales.map (.placeOrder · .sell startedAt) ++
        if answer.proceeds then .placeOrder strategy action startedAt :: rest else rest)
    else (s, rest)
  | .placeOrder strategy action startedAt =>
    ({ s with placed := s.placed ++ [⟨strategy, action, startedAt, s.inactiveSince strategy⟩] },
      rest)

/-- The operations an operation starts, and what the arguments of these are. -/
def Op.Starts (s : Strategies S D R) (op : Op S D R) : Op S D R → Prop
  | .saveDeployment id deployment => ∃ stored, s.deployments.get? id = some stored ∧
    ∃ (command : Command) (status : Option StrategyStatus),
      command.run stored = some (deployment, status)
  | .findStrategies _ startedAt => op = .findUsers startedAt
  | .executeStrategy strategy startedAt => ∃ user,
    op = .findStrategies user startedAt ∧ strategy ∈ getActiveStrategiesForUser s user
  | .checkDrawdown strategy _ startedAt => op = .executeStrategy strategy startedAt
  | .placeOrder strategy action startedAt =>
    action.opens = true → op = .checkDrawdown strategy action startedAt
  | .findUsers _ => False
  | _ => True

theorem exec_next {s : Strategies S D R} {answer : Answer S D R} {op : Op S D R}
    {rest : List (Op S D R)} :
    ∀ next ∈ (exec s answer rest op).2, next ∈ rest ∨ op.Starts s next := by
  intro next hnext
  have hcons : ∀ {other : Op S D R}, next ∈ other :: rest → op.Starts s other →
      next ∈ rest ∨ op.Starts s next := by
    intro other hmem hother
    rcases List.mem_cons.mp hmem with rfl | hmem
    · exact .inr hother
    · exact .inl hmem
  have happ : ∀ others : List (Op S D R), (∀ other ∈ others, op.Starts s other) →
      next ∈ others ++ rest → next ∈ rest ∨ op.Starts s next := by
    intro others hoths hmem
    exact (List.mem_append.mp hmem).symm.imp_right (hoths next)
  cases op with
  | findScore | evaluateChecks =>
    simp only [exec] at hnext
    split at hnext
    · exact hcons hnext trivial
    · exact .inl hnext
  | findExisting | countActive =>
    simp only [exec] at hnext
    split at hnext
    · exact .inl hnext
    · exact hcons hnext trivial
  | insertDeployment =>
    simp only [exec] at hnext
    split at hnext
    · exact .inl hnext
    · split at hnext <;> exact .inl hnext
  | findDeployment id command =>
    simp only [exec] at hnext
    split at hnext
    · exact .inl hnext
    · split at hnext
      · exact .inl hnext
      · rename_i stored hget _ _ status hrun
        rcases List.mem_cons.mp hnext with rfl | hnext
        · exact .inr ⟨stored, hget, command, status, hrun⟩
        · refine happ _ (fun other hother => ?_) hnext
          obtain ⟨status, -, rfl⟩ := List.mem_map.mp hother
          trivial
  | updateConfigStatus | updateDrawdown =>
    simp only [exec] at hnext
    split at hnext <;> exact .inl hnext
  | getActiveDeployments evaluates =>
    refine happ _ (fun other hother => ?_) hnext
    obtain ⟨id, -, rfl⟩ := List.mem_map.mp hother
    cases evaluates <;> trivial
  | findEvaluated =>
    simp only [exec] at hnext
    split at hnext
    · exact .inl hnext
    · dsimp only at hnext
      split at hnext
      · exact hcons hnext trivial
      · exact .inl hnext
  | findUsers =>
    simp only [exec] at hnext
    split at hnext
    · refine happ _ (fun other hother => ?_) hnext
      obtain ⟨user, -, rfl⟩ := List.mem_map.mp hother
      rfl
    · exact .inl hnext
  | findStrategies user =>
    simp only [exec] at hnext
    split at hnext
    · refine happ _ (fun other hother => ?_) hnext
      obtain ⟨strategy, hmem, rfl⟩ := List.mem_map.mp hother
      exact ⟨user, rfl, hmem⟩
    · exact .inl hnext
  | executeStrategy =>
    refine happ _ (fun other hother => ?_) hnext
    obtain ⟨action, -, rfl⟩ := List.mem_map.mp hother
    rfl
  | checkDrawdown =>
    simp only [exec] at hnext
    split at hnext
    · rcases List.mem_append.mp hnext with hnext | hnext
      · -- a sale opens nothing
        obtain ⟨sold, -, rfl⟩ := List.mem_map.mp hnext
        exact .inr fun hopens => by cases hopens
      · split at hnext
        · exact hcons hnext fun _ => rfl
        · exact .inl hnext
    · exact .inl hnext
  | _ =>
    exact .inl hnext

/-- The requests of users and admins, and the crons. -/
inductive Request (S D R : Type) where
  | createDeployment (strategyConfigId : S)
  | command (id : D) (command : Command)
  | recordPerformanceMetric (id : D) (drawdown : ℚ)
  | saveConfig (strategyConfigId : S) (config : StrategyConfig R)
  | pauseAllDeployments
  | evaluateRisks (id : D)
  | evaluateAllDeployments
  | executeLiveTrading

def receive (s : Strategies S D R) :
    Request S D R → Strategies S D R × List (Op S D R)
  | .createDeployment strategyConfigId => (s, [.findScore strategyConfigId])
  | .command id command => (s, [.findDeployment id command])
  | .recordPerformanceMetric id drawdown => (s, [.updateDrawdown id drawdown])
  | .saveConfig strategyConfigId config => (s, [.saveConfig strategyConfigId config])
  | .pauseAllDeployments => (s, [.getActiveDeployments false])
  | .evaluateRisks id => (s, [.findEvaluated id])
  | .evaluateAllDeployments => (s, [.getActiveDeployments true])
  | .executeLiveTrading => ({ s with clock := s.clock + 1 }, [.findUsers s.clock])

def strategyScript : Script (Strategies S D R) (Op S D R) (Request S D R) (Answer S D R) where
  receive := receive
  exec s answer op rest := exec s answer rest op

def strategyProgram : Program (Strategies S D R) (List (Op S D R)) (Request S D R) (Answer S D R) :=
  strategyScript.program

def tablesPool (strategyConfigs : OrdMap S (StrategyConfig R))
    (deployments : OrdMap D (Deployment S)) (risks : ℕ → Option R) :
    Pool (Strategies S D R) (List (Op S D R)) :=
  ⟨{ strategyConfigs := strategyConfigs, deployments := deployments, risks := risks }, []⟩

end Model

end Chansey.Deployments
