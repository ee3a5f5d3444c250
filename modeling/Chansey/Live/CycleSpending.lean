import Chansey.Live.CapitalAllocation
import Chansey.Live.PlacedOrders

/-!
# What a user's cycle spends

A cycle of live trading gives each strategy of a user its allocation, and each strategy trades with
a part of it only.

* `StrategyTurn.sized`: the signal of a turn after the cap of a trade, the check against the capital
  and the reduction for the concentration. **`sized_entry`**: an entry needs at most a fifth of the
  capital.
-/

namespace Chansey

/-! ## One turn -/

def LiveTradingSignal.value (signal : LiveTradingSignal) : ℚ := signal.quantity * signal.price

def StrategyTurn.sized (states : ThrottleStates) (turn : StrategyTurn) : Option LiveTradingSignal :=
  ((executeStrategy states turn.cycle turn.now).1.filter
    (validateSignal · turn.cycle.availableCapital)).bind
      (concentrationGate turn.assets turn.riskLevel)

section Turn

theorem isEntry_iff {action : LiveAction} :
    action.isEntry = true ↔ action = .buy ∨ action = .shortEntry := by
  rw [LiveAction.isEntry, decide_eq_true_eq]

theorem boundQuantity_mul_le {action : LiveAction} (hentry : action.isEntry = true)
    {availableCapital price : ℚ} (hcap : 0 ≤ availableCapital) (hprice : 0 < price)
    (quantity : ℚ) : boundQuantity action availableCapital price quantity * price ≤
      MAX_PER_TRADE_ALLOCATION * availableCapital := by
  have hfloor : MIN_PER_TRADE_ALLOCATION ≤ MAX_PER_TRADE_ALLOCATION := by
    norm_num [MIN_PER_TRADE_ALLOCATION, MAX_PER_TRADE_ALLOCATION]
  rw [boundQuantity, if_pos (isEntry_iff.mp hentry), mul_comm MAX_PER_TRADE_ALLOCATION]
  dsimp only
  split_ifs with hover hunder
  · rw [div_mul_cancel₀ _ hprice.ne']
  · rw [div_mul_cancel₀ _ hprice.ne']
    exact mul_le_mul_of_nonneg_left hfloor hcap
  · exact (le_div_iff₀ hprice).mp (not_lt.mp hover)

theorem mapAlgorithmSignal_entry {signal : LiveSignal} {coins : List Coin}
    {marketData : List PairPrice} {availableCapital : ℚ}
    {resultExitConfig : Option PartialExitConfig} {mapped : LiveTradingSignal}
    (h : mapAlgorithmSignal signal coins marketData availableCapital resultExitConfig =
      some mapped) (hcap : 0 ≤ availableCapital) (hentry : mapped.action.isEntry = true) :
    mapped.value ≤ MAX_PER_TRADE_ALLOCATION * availableCapital := by
  obtain ⟨_, -, h⟩ := Option.bind_eq_some_iff.mp h
  obtain ⟨_, -, h⟩ := Option.bind_eq_some_iff.mp h
  split_ifs at h with hprice
  cases h
  exact boundQuantity_mul_le hentry hcap (not_le.mp hprice) _

theorem executeStrategy_entry {states : ThrottleStates} {cycle : StrategyCycle} {now : Instant}
    {signal : LiveTradingSignal} (h : (executeStrategy states cycle now).1 = some signal)
    (hcap : 0 ≤ cycle.availableCapital) (hentry : signal.action.isEntry = true) :
    signal.value ≤ MAX_PER_TRADE_ALLOCATION * cycle.availableCapital := by
  obtain ⟨_, -, hmapped⟩ := Option.bind_eq_some_iff.mp h
  exact mapAlgorithmSignal_entry hmapped hcap hentry

theorem part_le_one {result : ConcentrationGateResult} {part : ℚ} (h : result.part = some part) :
    part ≤ 1 := by
  unfold ConcentrationGateResult.part at h
  split_ifs at h
  cases h
  cases hreduced : result.adjustedQuantity.filter (· < 1) with
  | none => exact le_rfl
  | some => exact (of_decide_eq_true (Option.filter_eq_some_iff.mp hreduced).2).le

theorem concentrationGate_spec {assets : List AssetAllocation} {riskLevel : ℤ}
    {signal reduced : LiveTradingSignal}
    (h : concentrationGate assets riskLevel signal = some reduced) (hvalue : 0 < signal.value) :
    reduced.action = signal.action ∧ reduced.value ≤ signal.value := by
  unfold concentrationGate at h
  split_ifs at h
  · obtain ⟨part, hpart, rfl⟩ := Option.map_eq_some_iff.mp h
    refine ⟨rfl, ?_⟩
    show signal.quantity * part * signal.price ≤ signal.quantity * signal.price
    rw [mul_right_comm]
    exact mul_le_of_le_one_right hvalue.le (part_le_one hpart)
  · cases h
    exact ⟨rfl, le_rfl⟩

theorem validateSignal_value {signal : LiveTradingSignal} {availableCapital : ℚ}
    (h : validateSignal signal availableCapital = true) :
    signal.action = .hold ∨ 0 < signal.value := by
  rw [validateSignal, decide_eq_true_eq] at h
  exact h.imp_right fun h => mul_pos h.1 h.2.1

variable {states : ThrottleStates} {turn : StrategyTurn} {signal : LiveTradingSignal}

theorem sized_entry (h : turn.sized states = some signal)
    (hcap : 0 ≤ turn.cycle.availableCapital) (hentry : signal.action.isEntry = true) :
    signal.value ≤ MAX_PER_TRADE_ALLOCATION * turn.cycle.availableCapital ∧
      turn.cycle.availableCapital ≠ 0 := by
  obtain ⟨_, hraw, hgate⟩ := Option.bind_eq_some_iff.mp h
  obtain ⟨hexd, hvalid⟩ := Option.filter_eq_some_iff.mp hraw
  rcases validateSignal_value hvalid with hhold | hvalue
  · rw [concentrationGate, if_neg (by rw [hhold]; decide)] at hgate
    cases hgate
    rw [hhold] at hentry
    cases hentry
  · obtain ⟨hact, hreduced⟩ := concentrationGate_spec hgate hvalue
    have hle := executeStrategy_entry hexd hcap (hact ▸ hentry)
    refine ⟨hreduced.trans hle, fun hzero => ?_⟩
    rw [hzero, mul_zero] at hle
    exact absurd hvalue (not_lt.mpr hle)

theorem gated_sized (h : turn.gated states = some signal) : turn.sized states = some signal := by
  obtain ⟨raw, hexd, hgate⟩ := Option.bind_eq_some_iff.mp h
  unfold StrategyTurn.gate at hgate
  split_ifs at hgate with hhold hinvalid
  have hvalid : validateSignal raw turn.cycle.availableCapital = true := by
    simpa using hinvalid
  rw [StrategyTurn.sized, hexd, Option.filter_some, if_pos hvalid, Option.bind_some]
  exact (Option.filter_eq_some_iff.mp hgate).1

end Turn

/-! ## One cycle -/

/-- A cycle of one user: what the capital is allocated by, and the turns of the strategies. The
strategies are rows of one table. -/
structure UserCycle where
  userCapital : ℚ
  allOrders : List AlgorithmicFill
  scores : List (String × ℚ)
  regimeContext : Option RegimeContext
  turns : List StrategyTurn
  distinct : (turns.map (·.cycle.strategyId)).Nodup

namespace UserCycle

variable (cycle : UserCycle)

def strategyIds : List String := cycle.turns.map (·.cycle.strategyId)

def effectiveCapital : ℚ := effectiveCapitalOf cycle.userCapital cycle.regimeContext

def capitalMap : OrdMap String ℚ :=
  allocateCapitalByKelly cycle.userCapital cycle.strategyIds cycle.allOrders cycle.scores
    cycle.regimeContext

/-- `capitalMap.get(strategy.id) || 0` -/
def allocatedCapital (strategyId : String) : ℚ := shareOf cycle.capitalMap strategyId

def funded (turn : StrategyTurn) : StrategyTurn :=
  { turn with
    cycle := { turn.cycle with availableCapital := cycle.allocatedCapital turn.cycle.strategyId } }

/-- The throttle ledgers pass from one strategy to the next. `select` is what is kept of a turn. -/
def collect (select : ThrottleStates → StrategyTurn → Option LiveTradingSignal)
    (states : ThrottleStates) : List StrategyTurn → List (String × LiveTradingSignal)
  | [] => []
  | turn :: turns =>
    (((select states (cycle.funded turn)).filter (·.action.isEntry)).map
      fun signal => (turn.cycle.strategyId, signal)).toList ++
      collect select ((cycle.funded turn).throttles states) turns

def entries (states : ThrottleStates) : List (String × LiveTradingSignal) :=
  cycle.collect (fun states turn => turn.sized states) states cycle.turns

def placed (states : ThrottleStates) : List (String × LiveTradingSignal) :=
  cycle.collect (fun states turn => turn.gated states) states cycle.turns

def spent (entries : List (String × LiveTradingSignal)) : ℚ :=
  (entries.map fun entry => entry.2.value).sum

variable {cycle}

/-! ### Allocations -/

theorem allocations_nonneg : ∀ e ∈ cycle.capitalMap.entries, 0 ≤ e.2 := by
  unfold capitalMap allocateCapitalByKelly
  dsimp only
  split_ifs with hnone
  · exact fun e he => by cases he
  · simp only [not_or, not_le] at hnone
    rw [entries_keepAboveMinimum]
    exact fun e he => fitAllocations_nonneg hnone.2.2.1.le (kellyFractions_nonneg _ _ _) e
      (List.mem_of_mem_filter he)

theorem allocatedCapital_nonneg (strategyId : String) : 0 ≤ cycle.allocatedCapital strategyId :=
  shareOf_nonneg allocations_nonneg strategyId

theorem totalOf_capitalMap_le : totalOf cycle.capitalMap ≤ max 0 cycle.effectiveCapital := by
  by_cases hcap : cycle.effectiveCapital ≤ 0
  · have hempty : cycle.capitalMap = OrdMap.empty := by
      unfold effectiveCapital at hcap
      rw [capitalMap, allocateCapitalByKelly, if_pos (Or.inr (Or.inr (Or.inl hcap)))]
    rw [hempty]
    exact le_max_left _ _
  · have hpos := (not_le.mp hcap).le
    have hfr := kellyFractions_nonneg cycle.strategyIds cycle.allOrders cycle.scores
    have hsub := entries_allocateCapitalByKelly_sublist cycle.userCapital cycle.strategyIds
      cycle.allOrders cycle.scores cycle.regimeContext
    calc totalOf cycle.capitalMap
        ≤ totalOf (fitAllocations cycle.effectiveCapital
            (kellyFractions cycle.strategyIds cycle.allOrders cycle.scores)) :=
          totalOf_le_of_sublist hsub (fitAllocations_nonneg hpos hfr)
      _ ≤ cycle.effectiveCapital :=
          (totalOf_fitAllocations hpos hfr).trans_le (min_le_left _ _)
      _ ≤ max 0 cycle.effectiveCapital := le_max_right _ _

theorem strategiesOf_capitalMap_subset :
    strategiesOf cycle.capitalMap ⊆ cycle.strategyIds.toFinset := by
  intro id hid
  unfold capitalMap allocateCapitalByKelly at hid
  dsimp only at hid
  split_ifs at hid with hnone
  · cases hid
  · simp only [not_or, not_le] at hnone
    have halloc := allocated_fitAllocations hnone.2.2.1.le
      (kellyFractions_nonneg cycle.strategyIds cycle.allOrders cycle.scores)
    have hfitted : id ∈ strategiesOf (fitAllocations cycle.effectiveCapital
        (kellyFractions cycle.strategyIds cycle.allOrders cycle.scores)) := by
      rw [strategiesOf, List.mem_toFinset, OrdMap.keys, entries_keepAboveMinimum] at hid
      rw [strategiesOf, List.mem_toFinset]
      exact (List.filter_sublist.map Prod.fst).subset hid
    have hfrac := mem_strategiesOf.mp (halloc.subset hfitted)
    rw [kellyFractions_get?] at hfrac
    split_ifs at hfrac with hmem
    · exact List.mem_toFinset.mpr hmem
    · cases hfrac

theorem sum_allocatedCapital :
    (cycle.turns.map fun turn => cycle.allocatedCapital turn.cycle.strategyId).sum =
      totalOf cycle.capitalMap := by
  have hdist : cycle.strategyIds.Nodup := cycle.distinct
  rw [totalOf_eq_sum strategiesOf_capitalMap_subset, List.sum_toFinset _ hdist, strategyIds,
    List.map_map]
  rfl

/-! ### Spending -/

theorem spent_le (states : ThrottleStates) (turns : List StrategyTurn) :
    spent (cycle.collect (fun states turn => turn.sized states) states turns) ≤
      MAX_PER_TRADE_ALLOCATION *
        (turns.map fun turn => cycle.allocatedCapital turn.cycle.strategyId).sum := by
  induction turns generalizing states with
  | nil => exact (mul_zero _).ge
  | cons turn turns ih =>
    have hshare : 0 ≤ MAX_PER_TRADE_ALLOCATION *
        cycle.allocatedCapital turn.cycle.strategyId :=
      mul_nonneg (by norm_num [MAX_PER_TRADE_ALLOCATION]) (allocatedCapital_nonneg _)
    have hrest := ih ((cycle.funded turn).throttles states)
    rw [collect, List.map_cons, List.sum_cons, mul_add]
    cases hentry : ((cycle.funded turn).sized states).filter (·.action.isEntry) with
    | none => exact hrest.trans (le_add_of_nonneg_left hshare)
    | some =>
      obtain ⟨hsized, hisEntry⟩ := Option.filter_eq_some_iff.mp hentry
      exact add_le_add (sized_entry hsized (allocatedCapital_nonneg _) hisEntry).1 hrest

theorem allocated_of_mem {states : ThrottleStates} {turns : List StrategyTurn}
    {entry : String × LiveTradingSignal}
    (h : entry ∈ cycle.collect (fun states turn => turn.sized states) states turns) :
    cycle.allocatedCapital entry.1 ≠ 0 := by
  induction turns generalizing states with
  | nil => cases h
  | cons turn turns ih =>
    rw [collect, List.mem_append] at h
    rcases h with h | h
    · obtain ⟨_, hsig, rfl⟩ := Option.map_eq_some_iff.mp (Option.mem_toList.mp h)
      obtain ⟨hsized, hisEntry⟩ := Option.filter_eq_some_iff.mp hsig
      exact (sized_entry hsized (allocatedCapital_nonneg _) hisEntry).2
    · exact ih h

theorem placed_sublist (states : ThrottleStates) :
    (cycle.placed states).Sublist (cycle.entries states) := by
  unfold placed entries
  induction cycle.turns generalizing states with
  | nil => exact List.Sublist.refl _
  | cons turn turns ih =>
    refine List.Sublist.append ?_ (ih _)
    dsimp only
    cases hgated : (cycle.funded turn).gated states with
    | none => exact List.nil_sublist _
    | some => rw [gated_sized hgated]

/-- **A cycle spends at most a fifth of what is allocated**, and so of what the regime leaves of the
capital, and nothing for a strategy without an allocation. -/
theorem spending_bounded (cycle : UserCycle) (states : ThrottleStates) :
    spent (cycle.entries states) ≤ 20 / 100 * totalOf cycle.capitalMap ∧
      spent (cycle.entries states) ≤ 20 / 100 * max 0 cycle.effectiveCapital ∧
      (∀ entry ∈ cycle.entries states, cycle.allocatedCapital entry.1 ≠ 0) ∧
      (cycle.placed states).Sublist (cycle.entries states) := by
  have hle := @spent_le cycle states cycle.turns
  rw [sum_allocatedCapital, show MAX_PER_TRADE_ALLOCATION = 20 / 100 by
    norm_num [MAX_PER_TRADE_ALLOCATION]] at hle
  exact ⟨hle, hle.trans (mul_le_mul_of_nonneg_left totalOf_capitalMap_le (by norm_num)),
    fun _ => allocated_of_mem, placed_sublist states⟩

/-! ## Two strategies -/

def buyTurn (strategyId : String) : StrategyTurn where
  userId := "user"
  cycle :=
    { strategyId := strategyId
      parameters := OrdMap.empty
      success := true
      signals := [{ type := .buy, coinId := "bitcoin", strength := 1, confidence := 9 / 10 }]
      exitConfig := none
      coins := [⟨"bitcoin", "BTC"⟩]
      marketData := [⟨"BTC/USDT", 100⟩]
      availableCapital := 0 }
  marketType := .spot
  positions := []
  dailyLossBlocked := false
  regimeAllows _ := true
  drawdownAllows _ := true
  assets := []
  riskLevel := 3
  fundsReady := true
  answers := goodAnswers anyReport
  now := 0

def twoStrategies : UserCycle where
  userCapital := 1000
  allOrders := []
  scores := [("trend", 80), ("momentum", 60)]
  regimeContext := none
  turns := [buyTurn "trend", buyTurn "momentum"]
  distinct := by decide

theorem spending_bounded_twoStrategies :
    (twoStrategies.entries OrdMap.empty).map (·.1) = ["trend", "momentum"] ∧
      spent (twoStrategies.entries OrdMap.empty) = 200 ∧
      200 ≤ 20 / 100 * totalOf twoStrategies.capitalMap := by
  have hspent : spent (twoStrategies.entries OrdMap.empty) = 200 := by decide +kernel
  exact ⟨by decide +kernel, hspent, hspent ▸ (spending_bounded twoStrategies OrdMap.empty).1⟩

end UserCycle

end Chansey
