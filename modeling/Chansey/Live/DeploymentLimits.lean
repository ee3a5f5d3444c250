import Chansey.Lib.Run
import Chansey.Live.Deployment

/-!
# Limits on active deployments

* `ReadsTimely`: a request reads its row while no other is about to save it, and asks for what the
  statuses allow.
-/

namespace Chansey.Deployments

open Tasks

variable {S D R : Type} [DecidableEq S] [DecidableEq D] [DecidableEq R]

def activeCount (deployments : OrdMap D (Deployment S)) : ℕ :=
  (deployments.entries.filter (·.2.isActive)).length

/-- At most 35 deployments are active, and at most one of a strategy. -/
structure WithinLimits (deployments : OrdMap D (Deployment S)) : Prop where
  portfolio : activeCount deployments ≤ 35
  strategy : ∀ id id' deployment deployment', deployments.get? id = some deployment →
    deployments.get? id' = some deployment' → deployment.isActive = true →
    deployment'.isActive = true → deployment.strategyConfigId = deployment'.strategyConfigId →
    id = id'

def DeploymentStatus.ended : DeploymentStatus → Bool
  | .demoted | .terminated => true
  | _ => false

/-- A deployment that was demoted or terminated has the same status later. -/
def EndedKept (before after : OrdMap D (Deployment S)) : Prop :=
  ∀ id deployment, before.get? id = some deployment → deployment.status.ended = true →
    ∃ later, after.get? id = some later ∧ later.status = deployment.status

/-- In every state of a run the limits hold, and what has ended stays so. -/
def LimitsKept (start : Pool (Strategies S D R) (List (Op S D R)))
    (moves : List (Move (Request S D R) (Answer S D R))) : Prop :=
  Run.Kept strategyProgram.step (fun pool => WithinLimits pool.shared.deployments)
    (fun before after => EndedKept before.shared.deployments after.shared.deployments) start moves

variable {s : Strategies S D R} {answer : Answer S D R} {rest : List (Op S D R)} {op : Op S D R}
  {pool : Pool (Strategies S D R) (List (Op S D R))} {move : Move (Request S D R) (Answer S D R)}
  {deployments : OrdMap D (Deployment S)} {stored deployment : Deployment S} {id : D}

/-! ## Requests that take turns -/

def Command.activates : Command → Bool
  | .activate | .resume => true
  | _ => false

def Command.MayRun (deployments : OrdMap D (Deployment S)) (stored : Deployment S) :
    Command → Prop
  | .activate | .resume =>
    activeCount deployments < 35 ∧ hasActive deployments stored.strategyConfigId = false
  | .demote => stored.status ≠ .terminated
  | .terminate => stored.status ≠ .demoted
  | .pause | .saveOther => True

instance : (command : Command) → Decidable (command.MayRun deployments stored)
  | .activate | .resume => inferInstanceAs (Decidable (_ ∧ _))
  | .demote | .terminate => inferInstanceAs (Decidable (_ ≠ _))
  | .pause | .saveOther => isTrue trivial

def Op.copy? : Op S D R → Option (D × Deployment S)
  | .saveDeployment id deployment => some (id, deployment)
  | _ => none

/-- The rows that were read and will be saved next. -/
def unsaved (tasks : List (List (Op S D R))) : List (D × Deployment S) :=
  tasks.filterMap fun task => task.head?.bind Op.copy?

/-- A row that will become active by its save. -/
def activating (deployments : OrdMap D (Deployment S)) (copy : D × Deployment S) : Bool :=
  copy.2.isActive && !(deployments.get? copy.1).any (·.isActive)

/-- A request that passes the guard of its row may ask for it, no other is about to save the row, and
no two are about to activate one. -/
def Op.ReadsTimely (s : Strategies S D R) (copies : List (D × Deployment S)) : Op S D R → Prop
  | .findDeployment id command => ∀ stored ∈ s.deployments.get? id,
    (command.run stored).isSome = true → command.MayRun s.deployments stored ∧
      ∀ copy ∈ copies, copy.1 ≠ id ∧
        (command.activates = true → activating s.deployments copy = false)
  | _ => True

instance (s : Strategies S D R) (copies : List (D × Deployment S)) :
    (op : Op S D R) → Decidable (op.ReadsTimely s copies)
  | .findDeployment id _ => inferInstanceAs (Decidable (∀ stored ∈ s.deployments.get? id, _ → _))
  | .findScore .. | .findExisting .. | .countActive .. | .insertDeployment .. | .saveDeployment ..
  | .updateConfigStatus .. | .updateDrawdown .. | .saveConfig .. | .getActiveDeployments _
  | .findEvaluated _ | .evaluateChecks _ | .findUsers _ | .findStrategies .. | .executeStrategy ..
  | .checkDrawdown .. | .placeOrder .. => isTrue trivial

def ReadsTimely (pool : Pool (Strategies S D R) (List (Op S D R)))
    (move : Move (Request S D R) (Answer S D R)) : Prop :=
  Script.OpMeets (fun s _ op _ => op.ReadsTimely s (unsaved pool.inFlight)) pool move

instance (pool : Pool (Strategies S D R) (List (Op S D R)))
    (move : Move (Request S D R) (Answer S D R)) : Decidable (ReadsTimely pool move) :=
  inferInstanceAs (Decidable (Script.OpMeets _ pool move))

/-! ## One row is written -/

omit [DecidableEq S] in
theorem EndedKept.refl (deployments : OrdMap D (Deployment S)) : EndedKept deployments deployments :=
  fun _ deployment hget _ => ⟨deployment, hget, rfl⟩

omit [DecidableEq S] in
theorem EndedKept.trans {before after last : OrdMap D (Deployment S)} (h : EndedKept before after)
    (hlast : EndedKept after last) : EndedKept before last := by
  intro id deployment hget hended
  obtain ⟨later, hlater, hstat⟩ := h id deployment hget hended
  obtain ⟨final, hfinal, hsame⟩ := hlast id later hlater (by rw [hstat, hended])
  exact ⟨final, hfinal, hsame.trans hstat⟩

omit [DecidableEq S] in
theorem endedKept_set (h : ∀ stored, deployments.get? id = some stored → stored.status.ended = true →
    deployment.status = stored.status) : EndedKept deployments (deployments.set id deployment) := by
  intro id' deployment' hget' hended
  rw [OrdMap.get?_set]
  split
  · rename_i heq
    exact ⟨deployment, rfl, h deployment' (heq ▸ hget') hended⟩
  · exact ⟨deployment', hget', rfl⟩

omit [DecidableEq S] in
theorem activeCount_set (deployments : OrdMap D (Deployment S)) (id : D) (deployment : Deployment S) :
    activeCount (deployments.set id deployment) +
        (deployments.get? id).elim 0 (fun stored => stored.isActive.toNat) =
      activeCount deployments + deployment.isActive.toNat :=
  OrdMap.length_filter_set Deployment.isActive deployments id deployment

theorem hasActive_eq_false_iff {strategyConfigId : S} :
    hasActive deployments strategyConfigId = false ↔ ∀ id deployment,
      deployments.get? id = some deployment → deployment.strategyConfigId = strategyConfigId →
        deployment.isActive = false := by
  unfold hasActive
  rw [List.any_eq_false]
  constructor
  · intro h id deployment hget hstrat
    have hrow := h (id, deployment) (OrdMap.get?_eq_some_iff.mp hget)
    simpa [hstrat] using hrow
  · rintro h ⟨id, deployment⟩ hmem
    have hinact := h id deployment (OrdMap.get?_eq_some_iff.mpr hmem)
    by_cases hstrat : deployment.strategyConfigId = strategyConfigId
    · simp [hinact hstrat]
    · simp [hstrat]

omit [DecidableEq S] in
theorem WithinLimits.set_inactive (h : WithinLimits deployments)
    (hinact : deployment.isActive = false) : WithinLimits (deployments.set id deployment) := by
  have hcount := activeCount_set deployments id deployment
  rw [hinact, Bool.toNat_false, Nat.add_zero] at hcount
  refine ⟨(Nat.le.intro hcount).trans h.portfolio, ?_⟩
  intro id₁ id₂ first second hfirst hsec hact₁ hact₂ hstrat
  rw [OrdMap.get?_set] at hfirst hsec
  split at hfirst
  · cases hfirst
    rw [hinact] at hact₁
    cases hact₁
  · split at hsec
    · cases hsec
      rw [hinact] at hact₂
      cases hact₂
    · exact h.strategy id₁ id₂ first second hfirst hsec hact₁ hact₂ hstrat

def Free (deployments : OrdMap D (Deployment S)) (strategyConfigId : S) : Prop :=
  activeCount deployments < 35 ∧ hasActive deployments strategyConfigId = false

/-- A row may be saved over the stored one: an ended one keeps its status, and one that becomes
active finds a place. -/
structure Saves (deployments : OrdMap D (Deployment S)) (stored deployment : Deployment S) :
    Prop where
  strategy : deployment.strategyConfigId = stored.strategyConfigId
  ended : stored.status.ended = true → deployment.status = stored.status
  active : deployment.isActive = true →
    stored.isActive = true ∨ Free deployments stored.strategyConfigId

theorem WithinLimits.set (h : WithinLimits deployments) (hget : deployments.get? id = some stored)
    (hsaves : Saves deployments stored deployment) :
    WithinLimits (deployments.set id deployment) := by
  cases hact : deployment.isActive with
  | false => exact h.set_inactive hact
  | true =>
    have hfree := hsaves.active hact
    have hcount := activeCount_set deployments id deployment
    rw [hget, hact, Bool.toNat_true, Option.elim_some] at hcount
    -- no other row of the strategy is active
    have hoths : ∀ id' other, id ≠ id' → deployments.get? id' = some other →
        other.isActive = true → other.strategyConfigId ≠ deployment.strategyConfigId := by
      intro id' other hne hother hact' hsame
      obtain hstd | ⟨-, hnone⟩ := hfree
      · exact hne (h.strategy id id' stored other hget hother hstd hact'
          (by rw [hsame, hsaves.strategy]))
      · rw [hasActive_eq_false_iff.mp hnone id' other hother (by rw [hsame, hsaves.strategy])]
          at hact'
        cases hact'
    refine ⟨?_, ?_⟩
    · obtain hstd | ⟨_, -⟩ := hfree
      · rw [hstd, Bool.toNat_true] at hcount
        have := h.portfolio
        omega
      · omega
    · intro id₁ id₂ first second hfirst hsec hact₁ hact₂ hsame
      by_cases h₁ : id = id₁ <;> by_cases h₂ : id = id₂
      · exact h₁.symm.trans h₂
      · subst h₁
        rw [OrdMap.get?_set_self, Option.some_inj] at hfirst
        rw [OrdMap.get?_set_of_ne deployments deployment h₂] at hsec
        exact absurd (hfirst ▸ hsame.symm) (hoths id₂ second h₂ hsec hact₂)
      · subst h₂
        rw [OrdMap.get?_set_self, Option.some_inj] at hsec
        rw [OrdMap.get?_set_of_ne deployments deployment h₁] at hfirst
        exact absurd (hsec ▸ hsame) (hoths id₁ first h₁ hfirst hact₁)
      · rw [OrdMap.get?_set_of_ne deployments deployment h₁] at hfirst
        rw [OrdMap.get?_set_of_ne deployments deployment h₂] at hsec
        exact h.strategy id₁ id₂ first second hfirst hsec hact₁ hact₂ hsame

/-! ## What an operation writes -/

omit [DecidableEq S] in
theorem Command.run_strategy {command : Command} {saved : Deployment S}
    {status : Option StrategyStatus} (h : command.run deployment = some (saved, status)) :
    saved.strategyConfigId = deployment.strategyConfigId := by
  cases command <;> simp only [Command.run, Option.ite_none_left_eq_some,
    Option.ite_none_right_eq_some, Option.some_inj, Prod.mk.injEq] at h <;> grind

theorem exec_deployments (s : Strategies S D R) (answer : Answer S D R) (rest : List (Op S D R))
    (op : Op S D R) :
    (exec s answer rest op).1.deployments = s.deployments ∨
    (∃ id deployment, s.deployments.get? id = none ∧ deployment.isActive = false ∧
      (exec s answer rest op).1.deployments = s.deployments.set id deployment) ∨
    (∃ id stored deployment, s.deployments.get? id = some stored ∧
      deployment.strategyConfigId = stored.strategyConfigId ∧ deployment.status = stored.status ∧
      (exec s answer rest op).1.deployments = s.deployments.set id deployment) ∨
    ∃ id deployment, op = .saveDeployment id deployment ∧
      (exec s answer rest op).1.deployments = s.deployments.set id deployment := by
  cases op with
  | insertDeployment =>
    simp only [exec]
    split
    · exact .inl rfl
    · rename_i id _
      split
      · exact .inl rfl
      · rename_i hnew
        have hnone : s.deployments.get? id = none := Option.not_isSome_iff_eq_none.mp hnew
        exact .inr (Or.inl ⟨id, _, hnone, rfl, rfl⟩)
  | findDeployment =>
    simp only [exec]
    split
    · exact .inl rfl
    · split <;> exact .inl rfl
  | saveDeployment id deployment => exact .inr (Or.inr (Or.inr ⟨id, deployment, rfl, rfl⟩))
  | updateDrawdown id drawdown =>
    simp only [exec]
    split
    · exact .inl rfl
    · rename_i stored hstd
      exact .inr (Or.inr (Or.inl
        ⟨id, stored, { stored with currentDrawdown := drawdown }, hstd, rfl, rfl, rfl⟩))
  | updateConfigStatus | findEvaluated
  | checkDrawdown =>
    simp only [exec]
    split <;> exact .inl rfl
  | _ => exact .inl rfl

theorem exec_limits (h : WithinLimits s.deployments)
    (hsaves : ∀ copy ∈ op.copy?, ∃ stored, s.deployments.get? copy.1 = some stored ∧
      Saves s.deployments stored copy.2) :
    WithinLimits (exec s answer rest op).1.deployments ∧
      EndedKept s.deployments (exec s answer rest op).1.deployments := by
  have hwrite : ∀ {id : D} {stored row : Deployment S}, s.deployments.get? id = some stored →
      Saves s.deployments stored row → WithinLimits (s.deployments.set id row) ∧
        EndedKept s.deployments (s.deployments.set id row) := by
    intro id stored row hget hsave
    refine ⟨h.set hget hsave, endedKept_set fun other hother => ?_⟩
    cases (hget.symm.trans hother)
    exact hsave.ended
  obtain hsame | ⟨id, row, hnew, hinact, hres⟩ | ⟨id, _, row, hold, hstrat, hstat, hres⟩ |
    ⟨id, row, rfl, hres⟩ := exec_deployments s answer rest op
  · rw [hsame]
    exact ⟨h, EndedKept.refl _⟩
  · rw [hres]
    refine ⟨h.set_inactive hinact, endedKept_set fun other hother => ?_⟩
    rw [hnew] at hother
    cases hother
  · rw [hres]
    refine hwrite hold ⟨hstrat, fun _ => hstat, fun hact => .inl ?_⟩
    unfold Deployment.isActive at hact ⊢
    rwa [hstat] at hact
  · rw [hres]
    obtain ⟨_, hget, hsave⟩ := hsaves _ rfl
    exact hwrite hget hsave

/-! ## Copies that wait for their save -/

/-- The copies are of different rows, and not both activate one. -/
def Apart (deployments : OrdMap D (Deployment S)) (a b : D × Deployment S) : Prop :=
  a.1 ≠ b.1 ∧ ¬ (activating deployments a = true ∧ activating deployments b = true)

def MaySave (deployments : OrdMap D (Deployment S)) (copy : D × Deployment S) : Prop :=
  ∃ stored, deployments.get? copy.1 = some stored ∧ Saves deployments stored copy.2

omit [DecidableEq S] in
theorem Apart.symm {x y : D × Deployment S} (h : Apart deployments x y) : Apart deployments y x :=
  ⟨h.1.symm, fun hact => h.2 hact.symm⟩

omit [DecidableEq S] [DecidableEq D] [DecidableEq R] in
theorem unsaved_append (tasks tasks' : List (List (Op S D R))) :
    unsaved (tasks ++ tasks') = unsaved tasks ++ unsaved tasks' := List.filterMap_append

omit [DecidableEq S] [DecidableEq D] [DecidableEq R] in
theorem unsaved_taskOf {ops : List (Op S D R)} (h : ∀ op ∈ ops, op.copy? = none) :
    unsaved (taskOf ops).toList = [] := by
  cases ops with
  | nil => rfl
  | cons op => simp [unsaved, taskOf, h op List.mem_cons_self]

theorem exec_copies (hrest : ∀ op ∈ rest, op.copy? = none) :
    (∀ next ∈ (exec s answer rest op).2, next.copy? = none) ∨
      ∃ id command stored saved status next, op = .findDeployment id command ∧
        s.deployments.get? id = some stored ∧ command.run stored = some (saved, status) ∧
        exec s answer rest op = (s, .saveDeployment id saved :: next) ∧
        ∀ op ∈ next, op.copy? = none := by
  cases op with
  | findDeployment id command =>
    cases hget : s.deployments.get? id with
    | none => exact .inl (by simpa [exec, hget] using hrest)
    | some stored =>
      cases hrun : command.run stored with
      | none => exact .inl (by simpa [exec, hget, hrun] using hrest)
      | some result =>
        obtain ⟨saved, status⟩ := result
        refine .inr ⟨id, command, stored, saved, status, _, rfl, hget, hrun,
          by simp only [exec, hget, hrun]; rfl, fun op hop => ?_⟩
        rcases List.mem_append.mp hop with hop | hop
        · obtain ⟨_, -, rfl⟩ := List.mem_map.mp hop
          rfl
        · exact hrest op hop
  | getActiveDeployments evaluates =>
    refine .inl fun next hnext => ?_
    rcases List.mem_append.mp hnext with hnext | hnext
    · obtain ⟨_, -, rfl⟩ := List.mem_map.mp hnext
      cases evaluates <;> rfl
    · exact hrest next hnext
  | _ =>
    left
    grind [exec, Op.copy?]

theorem Free.set {strategyConfigId : S} (h : Free deployments strategyConfigId)
    (hcalm : deployment.isActive = true → ∃ stored, deployments.get? id = some stored ∧
      stored.isActive = true ∧ stored.strategyConfigId = deployment.strategyConfigId) :
    Free (deployments.set id deployment) strategyConfigId := by
  obtain ⟨hlt, hnone⟩ := h
  have hcount := activeCount_set deployments id deployment
  refine ⟨?_, hasActive_eq_false_iff.mpr fun id' other hother hstrat => ?_⟩
  · cases hact : deployment.isActive with
    | false =>
      rw [hact, Bool.toNat_false] at hcount
      omega
    | true =>
      obtain ⟨stored, hget, hstd, -⟩ := hcalm hact
      rw [hget, hact, Option.elim_some, hstd] at hcount
      omega
  · rw [OrdMap.get?_set] at hother
    split at hother
    · cases hother
      cases hact : deployment.isActive with
      | false => rfl
      | true =>
        obtain ⟨stored, hget, hstd, hsame⟩ := hcalm hact
        rw [hasActive_eq_false_iff.mp hnone id stored hget (hsame.trans hstrat)] at hstd
        cases hstd
    · exact hasActive_eq_false_iff.mp hnone id' other hother hstrat

/-- A row is written that was not there, with its status, or by a save that activates nothing. -/
structure Calm (before after : OrdMap D (Deployment S)) (copies : List (D × Deployment S)) :
    Prop where
  rows : ∀ copy ∈ copies, ∀ stored, before.get? copy.1 = some stored → ∃ later,
    after.get? copy.1 = some later ∧ later.status = stored.status ∧
      later.strategyConfigId = stored.strategyConfigId
  free : ∀ copy ∈ copies, activating before copy = true →
    ∀ strategyConfigId, Free before strategyConfigId → Free after strategyConfigId

section Calm

variable {before after : OrdMap D (Deployment S)} {copies : List (D × Deployment S)}
  {copy : D × Deployment S}

theorem Calm.activating_eq (h : Calm before after copies) (hmem : copy ∈ copies)
    (hget : before.get? copy.1 = some stored) : activating after copy = activating before copy := by
  obtain ⟨later, hlater, hstat, -⟩ := h.rows copy hmem stored hget
  simp [activating, hget, hlater, Deployment.isActive, hstat]

theorem Calm.saves (h : Calm before after copies) (hmem : copy ∈ copies)
    (hget : before.get? copy.1 = some stored) (hsaves : Saves before stored copy.2) :
    MaySave after copy := by
  obtain ⟨later, hlater, hstat, hstrat⟩ := h.rows copy hmem stored hget
  refine ⟨later, hlater, hsaves.strategy.trans hstrat.symm, fun hended => ?_, fun hact => ?_⟩
  · rw [hstat] at hended ⊢
    exact hsaves.ended hended
  · have hsame : later.isActive = stored.isActive := by simp [Deployment.isActive, hstat]
    rw [hsame, hstrat]
    cases hstd : stored.isActive with
    | true => exact .inl rfl
    | false =>
      have hfree := (hsaves.active hact).resolve_left (by simp [hstd])
      exact .inr (h.free copy hmem (by simp [activating, hact, hget, hstd]) _ hfree)

theorem Calm.keeps (h : Calm before after copies) (hapart : copies.Pairwise (Apart before))
    (hsaves : ∀ copy ∈ copies, MaySave before copy) :
    copies.Pairwise (Apart after) ∧ ∀ copy ∈ copies, MaySave after copy := by
  refine ⟨hapart.imp_of_mem fun {a b} ha hb hab => ?_, fun copy hmem => ?_⟩
  · obtain ⟨_, hgeta, -⟩ := hsaves a ha
    obtain ⟨_, hgetb, -⟩ := hsaves b hb
    unfold Apart at hab ⊢
    rwa [h.activating_eq ha hgeta, h.activating_eq hb hgetb]
  · obtain ⟨stored, hget, hsave⟩ := hsaves copy hmem
    exact h.saves hmem hget hsave

end Calm

theorem calm_set {copies : List (D × Deployment S)}
    (hrow : ∀ copy ∈ copies, copy.1 = id → ∀ stored, deployments.get? id = some stored →
      deployment.status = stored.status ∧ deployment.strategyConfigId = stored.strategyConfigId)
    (hcalm : ∀ copy ∈ copies, activating deployments copy = true → deployment.isActive = true →
      ∃ stored, deployments.get? id = some stored ∧ stored.isActive = true ∧
        stored.strategyConfigId = deployment.strategyConfigId) :
    Calm deployments (deployments.set id deployment) copies := by
  refine ⟨fun copy hmem stored hget => ?_, fun copy hmem hact _ hfree =>
    hfree.set (hcalm copy hmem hact)⟩
  rw [OrdMap.get?_set]
  split
  · rename_i heq
    obtain ⟨hstat, hstrat⟩ := hrow copy hmem heq.symm stored (heq ▸ hget)
    exact ⟨deployment, rfl, hstat, hstrat⟩
  · exact ⟨stored, hget, rfl, rfl⟩

theorem calm_exec {copies : List (D × Deployment S)}
    (hsaves : ∀ copy ∈ op.copy?, MaySave s.deployments copy)
    (hapart : ∀ copy ∈ op.copy?, ∀ other ∈ copies, Apart s.deployments copy other) :
    Calm s.deployments (exec s answer rest op).1.deployments copies := by
  obtain hsame | ⟨id, row, hnew, hinact, hres⟩ | ⟨id, stored, row, hold, hstrat, hstat, hres⟩ |
    ⟨id, row, rfl, hres⟩ := exec_deployments s answer rest op
  · rw [hsame]
    exact ⟨fun _ _ stored hget => ⟨stored, hget, rfl, rfl⟩, fun _ _ _ _ hfree => hfree⟩
  · rw [hres]
    refine calm_set (fun _ _ _ stored hget => ?_) fun _ _ _ hact => ?_
    · rw [hnew] at hget
      cases hget
    · rw [hinact] at hact
      cases hact
  · rw [hres]
    refine calm_set (fun _ _ _ old hget => ?_) fun _ _ _ hact => ⟨stored, hold, ?_, hstrat.symm⟩
    · cases (hold.symm.trans hget)
      exact ⟨hstat, hstrat⟩
    · unfold Deployment.isActive at hact ⊢
      rwa [hstat] at hact
  · rw [hres]
    obtain ⟨stored, hget, hsave⟩ := hsaves _ rfl
    refine calm_set (fun other hmem heq => absurd heq.symm (hapart _ rfl other hmem).1)
      fun other hmem hother hact => ⟨stored, hget, ?_, hsave.strategy.symm⟩
    by_contra hstd
    exact (hapart _ rfl other hmem).2 ⟨by simpa [activating, hact, hget] using hstd, hother⟩

omit [DecidableEq D] [DecidableEq R] in
theorem Command.MayRun.saves {command : Command} {status : Option StrategyStatus}
    (hrun : command.run stored = some (deployment, status))
    (hmay : command.MayRun deployments stored) : Saves deployments stored deployment := by
  have hstrat := Command.run_strategy hrun
  cases command <;>
    simp only [Command.run, Option.ite_none_left_eq_some, Option.ite_none_right_eq_some,
      Option.some_inj, Prod.mk.injEq, not_not] at hrun
  case activate =>
    obtain ⟨hguard, rfl, -⟩ := hrun
    exact ⟨hstrat, fun hended => by simp [hguard, DeploymentStatus.ended] at hended, fun _ => .inr hmay⟩
  case resume =>
    obtain ⟨hguard, rfl, -⟩ := hrun
    refine ⟨hstrat, fun hended => ?_, fun _ => .inr hmay⟩
    unfold Deployment.isPaused at hguard
    rw [of_decide_eq_true hguard] at hended
    cases hended
  case saveOther =>
    obtain ⟨hact, rfl, -⟩ := hrun
    exact ⟨hstrat, fun _ => rfl, fun _ => .inl hact⟩
  case pause =>
    obtain ⟨hact, rfl, -⟩ := hrun
    refine ⟨hstrat, fun hended => ?_, fun _ => .inl hact⟩
    unfold Deployment.isActive at hact
    rw [of_decide_eq_true hact] at hended
    cases hended
  case demote | terminate =>
    obtain ⟨rfl, -⟩ := hrun
    refine ⟨hstrat, fun hended => ?_, fun hact => by simp [Deployment.isActive] at hact⟩
    unfold Command.MayRun at hmay
    cases hstat : stored.status <;> simp_all [DeploymentStatus.ended]

omit [DecidableEq S] [DecidableEq R] in
theorem Command.activates_of_run {command : Command} {status : Option StrategyStatus}
    (hget : deployments.get? id = some stored)
    (hrun : command.run stored = some (deployment, status))
    (h : activating deployments (id, deployment) = true) : command.activates = true := by
  cases command <;> simp_all [Command.run, Command.activates, activating, Deployment.isActive] <;>
    grind

/-! ## Runs -/

/-- What a pool of requests that take turns keeps: the limits, and copies of different rows, at most
one of them activating, each of which may be saved. -/
structure InTurn (pool : Pool (Strategies S D R) (List (Op S D R))) : Prop where
  limits : WithinLimits pool.shared.deployments
  tails : ∀ task ∈ pool.inFlight, ∀ op ∈ task.tail, op.copy? = none
  apart : (unsaved pool.inFlight).Pairwise (Apart pool.shared.deployments)
  saves : ∀ copy ∈ unsaved pool.inFlight, MaySave pool.shared.deployments copy

theorem inTurn_exec {before after : List (List (Op S D R))} (h : InTurn pool)
    (hsplit : pool.inFlight = before ++ (op :: rest) :: after)
    (hread : op.ReadsTimely pool.shared (unsaved pool.inFlight)) :
    let result := exec pool.shared answer rest op
    InTurn ⟨result.1, before ++ ((taskOf result.2).toList ++ after)⟩ ∧
      EndedKept pool.shared.deployments result.1.deployments := by
  intro result
  have hrest : ∀ other ∈ rest, other.copy? = none := h.tails (op :: rest) (by simp [hsplit])
  -- the copies of this task and of the others
  have hcopies : unsaved pool.inFlight = unsaved before ++ (op.copy?.toList ++ unsaved after) := by
    rw [hsplit, unsaved_append]
    cases hcopy : op.copy? <;> simp [unsaved, hcopy]
  have hothers : (unsaved before ++ unsaved after).Sublist (unsaved pool.inFlight) := by
    rw [hcopies]
    exact List.Sublist.append_left (List.sublist_append_right _ _) _
  have hsaved : ∀ copy ∈ op.copy?, MaySave pool.shared.deployments copy := fun copy hcopy => by
    refine h.saves copy ?_
    rw [hcopies, Option.mem_def.mp hcopy]
    simp
  obtain ⟨hlimits, hended⟩ : WithinLimits result.1.deployments ∧ EndedKept _ _ :=
    exec_limits h.limits hsaved
  have hcalm : Calm pool.shared.deployments result.1.deployments
      (unsaved before ++ unsaved after) := by
    refine calm_exec hsaved fun copy hcopy => ?_
    have hpair := h.apart
    rw [hcopies, Option.mem_def.mp hcopy, Option.toList_some, List.singleton_append,
      List.pairwise_middle Apart.symm] at hpair
    exact fun other hother => List.rel_of_pairwise_cons hpair hother
  obtain ⟨hapart, hsaves⟩ := hcalm.keeps (h.apart.sublist hothers)
    fun copy hcopy => h.saves copy (hothers.subset hcopy)
  have htails : ∀ task ∈ before ++ after, ∀ other ∈ task.tail, other.copy? = none := by
    intro task htask
    refine h.tails task (hsplit ▸ ?_)
    simp only [List.mem_append, List.mem_cons] at htask ⊢
    tauto
  -- the task goes on without a copy, or with the one it has read
  obtain ⟨htail, hpair, hown⟩ : (∀ other ∈ result.2.tail, other.copy? = none) ∧
      (unsaved before ++ (unsaved (taskOf result.2).toList ++ unsaved after)).Pairwise
        (Apart result.1.deployments) ∧
      ∀ copy ∈ unsaved (taskOf result.2).toList, MaySave result.1.deployments copy := by
    have hnext : (∀ next ∈ result.2, next.copy? = none) ∨ _ := exec_copies hrest
    obtain hnone | ⟨id, command, stored, saved, status, next, rfl, hget, hrun, hexe, hnocopy⟩ :=
      hnext
    · rw [unsaved_taskOf hnone]
      exact ⟨fun other hother => hnone other (List.mem_of_mem_tail hother), hapart,
        fun copy hcopy => by cases hcopy⟩
    · obtain ⟨hmay, hapart'⟩ := hread stored hget (by rw [hrun]; rfl)
      have hresult : result = _ := hexe
      rw [hresult] at hapart ⊢
      have hcopy : unsaved (taskOf (Op.saveDeployment id saved :: next)).toList =
          [(id, saved)] := rfl
      rw [hcopy, List.singleton_append, List.pairwise_middle Apart.symm]
      refine ⟨hnocopy, List.pairwise_cons.mpr ⟨fun other hother => ?_, hapart⟩, fun copy hcopy => ?_⟩
      · obtain ⟨hne, hactive⟩ := hapart' other (hothers.subset hother)
        refine ⟨hne.symm, fun hact => ?_⟩
        rw [hactive (Command.activates_of_run hget hrun hact.1)] at hact
        cases hact.2
      · cases List.mem_singleton.mp hcopy
        exact ⟨stored, hget, hmay.saves hrun⟩
  refine ⟨⟨hlimits, fun task htask => ?_, ?_, fun copy hcopy => ?_⟩, hended⟩
  · simp only [List.mem_append] at htask
    obtain htask | htask | htask := htask
    · exact htails task (List.mem_append_left _ htask)
    · exact mem_taskOf htask ▸ htail
    · exact htails task (List.mem_append_right _ htask)
  · simpa only [unsaved_append] using hpair
  · simp only [unsaved_append, List.mem_append] at hcopy
    obtain hcopy | hcopy | hcopy := hcopy
    · exact hsaves copy (List.mem_append_left _ hcopy)
    · exact hown copy hcopy
    · exact hsaves copy (List.mem_append_right _ hcopy)

theorem inTurn_step (h : InTurn pool) (hread : ReadsTimely pool move) :
    InTurn (strategyProgram.step pool move) ∧ EndedKept pool.shared.deployments
      (strategyProgram.step pool move).shared.deployments := by
  obtain ⟨request, rfl, hres⟩ | ⟨position, answer, task, before, after, rfl, htask, hsplit,
    hres⟩ | hres := strategyProgram.step_cases pool move
  · have hdeployments :
        (strategyScript.receive pool.shared request).1.deployments = pool.shared.deployments := by
      cases request <;> rfl
    have hnone : ∀ op ∈ (strategyScript.receive pool.shared request).2, op.copy? = none := by
      intro op hop
      cases request <;> (obtain rfl := List.mem_singleton.mp hop; rfl)
    rw [hres]
    have hunsaved : unsaved (pool.inFlight ++
        (strategyProgram.call pool.shared request).2.toList) = unsaved pool.inFlight := by
      rw [unsaved_append]
      exact (congrArg _ (unsaved_taskOf hnone)).trans (List.append_nil _)
    refine ⟨⟨hdeployments ▸ h.limits, fun other hother => ?_, ?_, ?_⟩,
      hdeployments ▸ EndedKept.refl _⟩
    · rcases List.mem_append.mp hother with hother | hother
      · exact h.tails other hother
      · rw [mem_taskOf hother]
        exact fun op hop => hnone op (List.mem_of_mem_tail hop)
    · rw [hunsaved]
      exact hdeployments ▸ h.apart
    · rw [hunsaved]
      exact hdeployments ▸ h.saves
  · rw [hres]
    cases task with
    | nil =>
      have hunsaved : unsaved (before ++ ([] ++ after)) = unsaved pool.inFlight := by
        rw [hsplit, unsaved_append, unsaved_append]
        simp [unsaved, List.filterMap_cons]
      refine ⟨⟨h.limits, fun other hother => h.tails other ?_, ?_, ?_⟩, EndedKept.refl _⟩
      · rw [hsplit]
        exact List.mem_append.mpr ((List.mem_append.mp hother).imp_right (List.mem_cons_of_mem _))
      · exact hunsaved ▸ h.apart
      · exact hunsaved ▸ h.saves
    | cons op rest =>
      exact inTurn_exec h hsplit (hread op rest htask)
  · rw [hres]
    exact ⟨h, EndedKept.refl _⟩

/-- **Requests that take turns and ask for what the statuses allow keep the limits**, and what was
demoted or terminated. -/
theorem limits_kept (strategyConfigs : OrdMap S (StrategyConfig R))
    (deployments : OrdMap D (Deployment S)) (risks : ℕ → Option R)
    (moves : List (Move (Request S D R) (Answer S D R))) (hlimits : WithinLimits deployments)
    (hread : Run.Throughout strategyProgram.step ReadsTimely
      (tablesPool strategyConfigs deployments risks) moves) :
    LimitsKept (tablesPool strategyConfigs deployments risks) moves := by
  have hturn : InTurn (tablesPool strategyConfigs deployments risks) :=
    { limits := hlimits
      tails := fun task htask => by cases htask
      apart := List.Pairwise.nil
      saves := fun copy hcopy => by cases hcopy }
  have hkept : LimitsKept (tablesPool strategyConfigs deployments risks) moves ↔ _ :=
    Run.kept_iff (fun pool => EndedKept.refl pool.shared.deployments)
      fun _ _ _ => EndedKept.trans
  refine hkept.mpr ⟨hlimits, hread.imp InTurn (fun _ _ h htimely => ?_)
    (fun _ _ h htimely => (inTurn_step h htimely).1) hturn⟩
  obtain ⟨hnext, hended⟩ := inTurn_step h htimely
  exact ⟨hnext.limits, hended⟩

/-! ## Nothing is looked at -/

def noDeployments : Pool (Strategies ℕ ℕ ℕ) (List (Op ℕ ℕ ℕ)) :=
  tablesPool OrdMap.empty OrdMap.empty fun _ => none

def createMoves (strategyConfigId id : ℕ) : List (Move (Request ℕ ℕ ℕ) (Answer ℕ ℕ ℕ)) :=
  [.call (.createDeployment strategyConfigId), .advance 0 { sharpeRatio := 1 }, .advance 0 {},
    .advance 0 {}, .advance 0 { id := some id }]

def requestMoves (id : ℕ) (command : Command) : List (Move (Request ℕ ℕ ℕ) (Answer ℕ ℕ ℕ)) :=
  [.call (.command id command), .advance 0 {}, .advance 0 {}, .advance 0 {}]

def twiceMoves : List (Move (Request ℕ ℕ ℕ) (Answer ℕ ℕ ℕ)) :=
  createMoves 0 0 ++ createMoves 0 1 ++ requestMoves 0 .activate ++ requestMoves 1 .activate

def crowdMoves : List (Move (Request ℕ ℕ ℕ) (Answer ℕ ℕ ℕ)) :=
  (List.range 36).flatMap (fun k => createMoves k k) ++
    (List.range 36).flatMap fun k => requestMoves k .activate

def overtakenMoves : List (Move (Request ℕ ℕ ℕ) (Answer ℕ ℕ ℕ)) :=
  createMoves 0 0 ++ requestMoves 0 .activate ++
    [.call (.command 0 .pause), .advance 0 {}, .call (.command 0 .demote), .advance 1 {},
      .advance 1 {}]

def pauseSaves : Move (Request ℕ ℕ ℕ) (Answer ℕ ℕ ℕ) := .advance 0 {}

/-- One deployment is paused while the other is terminated, and resumed after it. -/
def turnMoves : List (Move (Request ℕ ℕ ℕ) (Answer ℕ ℕ ℕ)) :=
  createMoves 0 0 ++ createMoves 1 1 ++ requestMoves 0 .activate ++ requestMoves 1 .activate ++
    [.call (.command 0 .pause), .call (.command 1 .terminate), .advance 0 {}, .advance 1 {},
      .advance 0 {}, .advance 0 {}, .advance 0 {}] ++ requestMoves 0 .resume

theorem limits_kept_turns : LimitsKept noDeployments turnMoves :=
  limits_kept _ _ _ _ ⟨Nat.zero_le 35, fun _ _ _ _ hget => by cases hget⟩ (by decide +kernel)

/-- **Two deployments of one strategy become active, 36 deployments become active, and a demoted
deployment is paused.** -/
theorem limits_exceeded :
    ¬ LimitsKept noDeployments twiceMoves ∧ ¬ LimitsKept noDeployments crowdMoves ∧
      ¬ LimitsKept noDeployments (overtakenMoves ++ [pauseSaves]) := by
  refine ⟨fun h => ?_, fun h => ?_, fun h => ?_⟩
  · have hstrategy := (h [] twiceMoves [] (by simp)).1.strategy 0 1
      ⟨0, .active, 0, 2 / 5⟩ ⟨0, .active, 0, 2 / 5⟩
    exact absurd (hstrategy (by decide +kernel) (by decide +kernel) rfl rfl rfl) (by decide)
  · have hportfolio := (h [] crowdMoves [] (by simp)).1.portfolio
    exact absurd hportfolio (by decide +kernel)
  · obtain ⟨_, hlater, hstatus⟩ := (h overtakenMoves [pauseSaves] [] (by simp)).2
      0 ⟨0, .demoted, 0, 2 / 5⟩ (by decide +kernel) rfl
    have hpaused : ((overtakenMoves ++ [pauseSaves]).foldl strategyProgram.step
        noDeployments).shared.deployments.get? 0 = some ⟨0, .paused, 0, 2 / 5⟩ := by
      decide +kernel
    rw [hpaused] at hlater
    cases hlater
    cases hstatus

end Chansey.Deployments
