import Chansey.Lib.WaterFilling
import Chansey.Loop.Regime

/-!
# Capital allocation across strategies

A user's capital is shared among the strategies in proportion to their Kelly fractions, with a cap
for each of them and a minimum below which a strategy gets nothing.
-/

namespace Chansey

open Finset WaterFilling

/-! ## Kelly fractions -/

structure AlgorithmicFill where
  strategyConfigId : Option String
  gainLoss : Option ℚ

def MAX_ALLOCATION_PERCENTAGE : ℚ := 15 / 100

def MIN_SCORE_THRESHOLD : ℚ := 50

def KELLY_MULTIPLIER : ℚ := 1 / 4

def MIN_TRADES_FOR_KELLY : ℕ := 30

def resolvedResults (allOrders : List AlgorithmicFill) (strategyId : String) : List ℚ :=
  (allOrders.filter fun o => o.strategyConfigId = some strategyId ∧ strategyId ≠ "").filterMap
    fun o => Js.truthy? o.gainLoss

def quarterKelly (resolved : List ℚ) : Option ℚ :=
  if resolved.length < MIN_TRADES_FOR_KELLY then none
  else
    let wins := resolved.filter (0 < ·)
    let losses := resolved.filter (· < 0)
    let p : ℚ := wins.length / resolved.length
    let avgWin := if wins = [] then 0 else wins.sum / wins.length
    let avgLoss := if losses = [] then 0 else (losses.map (|·|)).sum / losses.length
    if losses = [] then some KELLY_MULTIPLIER
    else
      let b := avgWin / avgLoss
      some (if 0 < b then max ((b * p - (1 - p)) / b * KELLY_MULTIPLIER) 0 else 0)

/-- The score of a strategy as a fraction at even odds. None when it is too low. -/
def kellyEquivalent (score : ℚ) : Option ℚ :=
  if score < MIN_SCORE_THRESHOLD then none
  else
    let equivalent := max ((2 * score / 100 - 1) * KELLY_MULTIPLIER) 0
    if 0 < equivalent then some equivalent else none

/-- `buildScoreMap`: the latest score of a strategy. The scores come latest first. -/
def latestScore (scores : List (String × ℚ)) (strategyId : String) : ℚ :=
  ((scores.find? (·.1 = strategyId)).map Prod.snd).getD 0

/-- Strategies with a history first, then those that fall back on their score. -/
def kellyFractions (strategyIds : List String) (allOrders : List AlgorithmicFill)
    (scores : List (String × ℚ)) : OrdMap String ℚ :=
  let fromHistory := strategyIds.foldl
    (fun m id => (quarterKelly (resolvedResults allOrders id)).elim m (m.set id)) OrdMap.empty
  let fallbackStrategyIds :=
    strategyIds.filter fun id => quarterKelly (resolvedResults allOrders id) = none
  fallbackStrategyIds.foldl
    (fun m id => (kellyEquivalent (latestScore scores id)).elim m (m.set id)) fromHistory

/-! ## Iterative proportional fitting -/

/-- The cap of a strategy: 15%, or an equal share if that is more. -/
def getMaxAllocationPerStrategy (userCapital : ℚ) (eligibleCount : ℕ) : ℚ :=
  userCapital * max MAX_ALLOCATION_PERCENTAGE (1 / eligibleCount)

structure FitState where
  remainingFractions : OrdMap String ℚ
  lockedAllocations : OrdMap String ℚ := OrdMap.empty
  remainingCapital : ℚ

def totalOf (fractions : OrdMap String ℚ) : ℚ := fractions.sumBy fun _ fraction => fraction

/-- Cap one strategy whose share of the pool is over the cap. The pool is that of the round's
start, the capital what earlier caps of the round have left. -/
def fitEntry (maxPerStrategy poolTotal : ℚ) (state : FitState) (entry : String × ℚ) : FitState :=
  if maxPerStrategy < entry.2 / poolTotal * state.remainingCapital then
    { remainingFractions := state.remainingFractions.erase entry.1
      lockedAllocations := state.lockedAllocations.set entry.1 maxPerStrategy
      remainingCapital := state.remainingCapital - maxPerStrategy }
  else state

def fitRound (maxPerStrategy : ℚ) (state : FitState) : FitState :=
  state.remainingFractions.entries.foldl
    (fitEntry maxPerStrategy (totalOf state.remainingFractions)) state

/-- The capital that is left is shared in proportion. -/
def distribute (state : FitState) : FitState :=
  { state with
    lockedAllocations := state.remainingFractions.entries.foldl
      (fun m e =>
        m.set e.1 (e.2 / totalOf state.remainingFractions * state.remainingCapital))
      state.lockedAllocations }

/-- The rounds of the fitting. It ends when nothing is left to share in, or when a round has capped
nobody and what is left has been shared. -/
def fit (maxPerStrategy : ℚ) : ℕ → FitState → FitState
  | 0, state => state
  | rounds + 1, state =>
    if totalOf state.remainingFractions = 0 then state
    else
      let capped := fitRound maxPerStrategy state
      if capped.remainingFractions.size = state.remainingFractions.size then distribute state
      else fit maxPerStrategy rounds capped

def fitAllocations (effectiveCapital : ℚ) (fractions : OrdMap String ℚ) : OrdMap String ℚ :=
  (fit (getMaxAllocationPerStrategy effectiveCapital fractions.size) fractions.size
    { remainingFractions := fractions, remainingCapital := effectiveCapital }).lockedAllocations

/-! ## The allocation -/

def MIN_CAPITAL_PER_STRATEGY (riskLevel : ℤ) : ℚ :=
  match riskLevel with
  | 1 | 2 => 15
  | 3 => 25
  | 4 => 35
  | _ => 50

def getMinCapitalPerStrategy (riskLevel : ℤ) : ℚ := MIN_CAPITAL_PER_STRATEGY (max 1 (min 5 riskLevel))

structure RegimeContext where
  compositeRegime : CompositeRegimeType
  riskLevel : ℤ

def keepAboveMinimum (minAllocation : ℚ) (allocations : OrdMap String ℚ) : OrdMap String ℚ :=
  OrdMap.ofEntries (allocations.entries.filter fun e => ¬ e.2 < minAllocation)

def effectiveCapitalOf (userCapital : ℚ) (regimeContext : Option RegimeContext) : ℚ :=
  userCapital * regimeContext.elim 1 fun r => getRegimeMultiplier r.riskLevel r.compositeRegime

def minAllocationOf (regimeContext : Option RegimeContext) : ℚ :=
  getMinCapitalPerStrategy (regimeContext.elim DEFAULT_RISK_LEVEL (·.riskLevel))

def allocateCapitalByKelly (userCapital : ℚ) (strategyIds : List String)
    (allOrders : List AlgorithmicFill) (scores : List (String × ℚ))
    (regimeContext : Option RegimeContext) : OrdMap String ℚ :=
  let effectiveCapital := effectiveCapitalOf userCapital regimeContext
  let fractions := kellyFractions strategyIds allOrders scores
  if strategyIds = [] ∨ userCapital ≤ 0 ∨ effectiveCapital ≤ 0 ∨ totalOf fractions = 0 then
    OrdMap.empty
  else
    keepAboveMinimum (minAllocationOf regimeContext) (fitAllocations effectiveCapital fractions)

/-! ## What a strategy has in a map -/

def shareOf (m : OrdMap String ℚ) (id : String) : ℚ := (m.get? id).getD 0

def strategiesOf (m : OrdMap String ℚ) : Finset String := m.keys.toFinset

variable {m : OrdMap String ℚ}

theorem mem_strategiesOf {id : String} : id ∈ strategiesOf m ↔ (m.get? id).isSome := by
  rw [strategiesOf, List.mem_toFinset, OrdMap.get?_isSome_iff]

theorem shareOf_of_get? {id : String} {a : ℚ} (h : m.get? id = some a) : shareOf m id = a := by
  rw [shareOf, h, Option.getD_some]

theorem shareOf_of_notMem {id : String} (h : id ∉ strategiesOf m) : shareOf m id = 0 := by
  rw [mem_strategiesOf, Option.not_isSome_iff_eq_none] at h
  rw [shareOf, h, Option.getD_none]

theorem totalOf_eq_sum {s : Finset String} (h : strategiesOf m ⊆ s) :
    totalOf m = ∑ id ∈ s, shareOf m id := by
  rw [← Finset.sum_subset h fun id _ hid => shareOf_of_notMem hid, strategiesOf,
    List.sum_toFinset _ (show m.keys.Nodup from m.nodup), totalOf, OrdMap.sumBy, OrdMap.keys, List.map_map]
  refine congrArg List.sum (List.map_congr_left fun e he => ?_)
  exact (shareOf_of_get? (OrdMap.get?_eq_some_iff.mpr he)).symm

theorem card_positive (m : OrdMap String ℚ) :
    #{id ∈ strategiesOf m | 0 < shareOf m id} = m.entries.countP fun e => 0 < e.2 := by
  have hread : ∀ e ∈ m.entries, shareOf m e.1 = e.2 := fun e he =>
    shareOf_of_get? (OrdMap.get?_eq_some_iff.mpr he)
  have hset : {id ∈ strategiesOf m | 0 < shareOf m id} =
      ((m.entries.filter fun e => 0 < e.2).map Prod.fst).toFinset := by
    ext id
    simp only [strategiesOf, OrdMap.keys, Finset.mem_filter, List.mem_toFinset, List.mem_map,
      List.mem_filter, decide_eq_true_eq]
    constructor
    · rintro ⟨⟨e, he, rfl⟩, hpos⟩
      exact ⟨e, ⟨he, hread e he ▸ hpos⟩, rfl⟩
    · rintro ⟨e, ⟨he, hpos⟩, rfl⟩
      exact ⟨⟨e, he, rfl⟩, (hread e he).symm ▸ hpos⟩
  rw [hset, List.toFinset_card_of_nodup (m.nodup.sublist (List.filter_sublist.map _)),
    List.length_map, List.countP_eq_length_filter]

/-! ## The invariant of the fitting -/

section Fitting

variable {fractions : OrdMap String ℚ} {cap capital : ℚ} {state : FitState}

/-- The fractions that remain are those of the strategies that are not capped, the others have the
cap, and they have it rightly. -/
structure Fits (fractions : OrdMap String ℚ) (cap capital : ℚ) (state : FitState) : Prop where
  remaining : ∀ id a, state.remainingFractions.get? id = some a → fractions.get? id = some a
  locked : ∀ id, state.lockedAllocations.get? id =
    if id ∈ strategiesOf fractions \ strategiesOf state.remainingFractions then some cap else none
  capping : Capping (strategiesOf fractions) (shareOf fractions) cap capital
    (strategiesOf state.remainingFractions) state.remainingCapital

theorem Fits.start (hcap : 0 ≤ capital) :
    Fits fractions cap capital { remainingFractions := fractions, remainingCapital := capital } where
  remaining := fun _ _ h => h
  locked := by simp
  capping := Capping.start hcap

variable {id : String} {entry : String × ℚ} {poolTotal : ℚ}

theorem Fits.shareOf_remaining (h : Fits fractions cap capital state)
    (hid : id ∈ strategiesOf state.remainingFractions) :
    shareOf state.remainingFractions id = shareOf fractions id := by
  obtain ⟨a, ha⟩ := Option.isSome_iff_exists.mp (mem_strategiesOf.mp hid)
  rw [shareOf_of_get? ha, shareOf_of_get? (h.remaining id a ha)]

theorem Fits.totalOf_remaining (h : Fits fractions cap capital state) :
    totalOf state.remainingFractions =
      ∑ id ∈ strategiesOf state.remainingFractions, shareOf fractions id := by
  rw [totalOf_eq_sum (Finset.Subset.refl _)]
  exact Finset.sum_congr rfl fun _ => h.shareOf_remaining

theorem strategiesOf_erase (m : OrdMap String ℚ) (id : String) :
    strategiesOf (m.erase id) = (strategiesOf m).erase id := by
  ext id'
  rw [Finset.mem_erase, mem_strategiesOf, mem_strategiesOf, OrdMap.get?_erase]
  split_ifs with hid
  · simp [hid]
  · simp [Ne.symm hid]

variable (hfractions : ∀ id ∈ strategiesOf fractions, 0 ≤ shareOf fractions id) (hcap : 0 ≤ cap)

/-! ### One round -/

include hfractions hcap in
theorem Fits.fitEntry (h : Fits fractions cap capital state)
    (hentry : state.remainingFractions.get? entry.1 = some entry.2)
    (hpool : totalOf state.remainingFractions ≤ poolTotal) :
    Fits fractions cap capital (fitEntry cap poolTotal state entry) ∧
      totalOf (Chansey.fitEntry cap poolTotal state entry).remainingFractions ≤ poolTotal := by
  have hread : shareOf fractions entry.1 = entry.2 := shareOf_of_get? (h.remaining _ _ hentry)
  have hmem : entry.1 ∈ strategiesOf state.remainingFractions := by
    rw [mem_strategiesOf, hentry, Option.isSome_some]
  unfold Chansey.fitEntry
  split_ifs with hover
  · refine ⟨⟨fun id a hid => ?_, fun id => ?_, ?_⟩, ?_⟩
    · rw [OrdMap.get?_erase] at hid
      split_ifs at hid
      exact h.remaining id a hid
    · rw [OrdMap.get?_set, h.locked, strategiesOf_erase, sdiff_erase (h.capping.subset hmem)]
      simp only [mem_insert]
      by_cases hid : entry.1 = id
      · simp [hid]
      · simp [hid, Ne.symm hid]
    · rw [strategiesOf_erase]
      refine h.capping.lock hfractions hcap hmem ?_ (hread.symm ▸ hover)
      exact h.totalOf_remaining ▸ hpool
    · have herase := OrdMap.sumBy_erase (fun _ fraction => fraction) state.remainingFractions entry.1
      rw [hentry, Option.elim_some] at herase
      have hnn := hfractions entry.1 (h.capping.subset hmem)
      rw [hread] at hnn
      unfold totalOf at hpool ⊢
      linarith
  · exact ⟨h, hpool⟩

theorem fitEntry_get?_of_ne (hne : entry.1 ≠ id) :
    (fitEntry cap poolTotal state entry).remainingFractions.get? id =
      state.remainingFractions.get? id := by
  unfold fitEntry
  split_ifs
  · exact OrdMap.get?_erase_of_ne _ hne
  · rfl

include hfractions hcap in
theorem Fits.foldl_fitEntry (es : List (String × ℚ)) (hnodup : (es.map Prod.fst).Nodup)
    (h : Fits fractions cap capital state)
    (hes : ∀ e ∈ es, state.remainingFractions.get? e.1 = some e.2)
    (hpool : totalOf state.remainingFractions ≤ poolTotal) :
    Fits fractions cap capital (es.foldl (Chansey.fitEntry cap poolTotal) state) := by
  induction es generalizing state with
  | nil => exact h
  | cons e es ih =>
    rw [List.map_cons, List.nodup_cons] at hnodup
    obtain ⟨hkeep, hless⟩ := h.fitEntry hfractions hcap (hes e List.mem_cons_self) hpool
    refine ih hnodup.2 hkeep (fun e' he' => ?_) hless
    rw [fitEntry_get?_of_ne fun heq => hnodup.1 (heq ▸ List.mem_map_of_mem he')]
    exact hes e' (List.mem_cons_of_mem e he')

include hfractions hcap in
theorem Fits.fitRound (h : Fits fractions cap capital state) :
    Fits fractions cap capital (fitRound cap state) :=
  h.foldl_fitEntry hfractions hcap _ state.remainingFractions.nodup
    (fun _ he => OrdMap.get?_eq_some_iff.mpr he) le_rfl

/-! ### When a round ends the loop -/

theorem fitEntry_size_le (poolTotal : ℚ) (entry : String × ℚ) :
    (fitEntry cap poolTotal state entry).remainingFractions.size ≤
      state.remainingFractions.size := by
  unfold fitEntry
  split_ifs
  · exact List.length_filter_le _ _
  · exact le_rfl

theorem foldl_fitEntry_size_le (poolTotal : ℚ) (es : List (String × ℚ)) :
    (es.foldl (fitEntry cap poolTotal) state).remainingFractions.size ≤
      state.remainingFractions.size := by
  induction es generalizing state with
  | nil => exact le_rfl
  | cons e es ih => exact ih.trans (fitEntry_size_le poolTotal e)

theorem fitRound_size_le : (fitRound cap state).remainingFractions.size ≤
    state.remainingFractions.size :=
  foldl_fitEntry_size_le _ _

theorem fitEntry_size_lt (hentry : state.remainingFractions.get? entry.1 = some entry.2)
    (hover : cap < entry.2 / poolTotal * state.remainingCapital) :
    (fitEntry cap poolTotal state entry).remainingFractions.size <
      state.remainingFractions.size := by
  rw [fitEntry, if_pos hover]
  refine List.length_filter_lt_length_iff_exists.mpr ⟨entry, ?_, by simp⟩
  exact OrdMap.get?_eq_some_iff.mp hentry

theorem le_cap_of_foldl_size (es : List (String × ℚ))
    (hes : ∀ e ∈ es, state.remainingFractions.get? e.1 = some e.2)
    (hsize : (es.foldl (fitEntry cap poolTotal) state).remainingFractions.size =
      state.remainingFractions.size) :
    ∀ e ∈ es, e.2 / poolTotal * state.remainingCapital ≤ cap := by
  induction es with
  | nil => simp
  | cons e es ih =>
    rw [List.foldl_cons] at hsize
    by_cases hover : cap < e.2 / poolTotal * state.remainingCapital
    · have hlt := fitEntry_size_lt (hes e List.mem_cons_self) hover
      exact absurd hsize ((foldl_fitEntry_size_le poolTotal es).trans_lt hlt).ne
    · rw [fitEntry, if_neg hover] at hsize
      intro e' he'
      rcases List.mem_cons.mp he' with rfl | hmem
      · exact not_lt.mp hover
      · exact ih (fun e hmem => hes e (List.mem_cons_of_mem _ hmem)) hsize e' hmem

theorem totalOf_of_size {m : OrdMap String ℚ} (hsize : m.size ≤ 0) : totalOf m = 0 := by
  have hnil : m.entries = [] := List.length_eq_zero_iff.mp (Nat.le_zero.mp hsize)
  rw [totalOf, OrdMap.sumBy, hnil, List.map_nil, List.sum_nil]

theorem fit_rounds (rounds rounds' : ℕ) (h : state.remainingFractions.size ≤ rounds)
    (h' : state.remainingFractions.size ≤ rounds') :
    fit cap rounds state = fit cap rounds' state := by
  induction rounds generalizing rounds' state with
  | zero =>
    cases rounds' with
    | zero => rfl
    | succ => rw [fit, fit, if_pos (totalOf_of_size h)]
  | succ rounds ih =>
    cases rounds' with
    | zero => rw [fit, fit, if_pos (totalOf_of_size h')]
    | succ rounds' =>
      rw [fit, fit]
      refine if_congr Iff.rfl rfl ?_
      dsimp only
      split_ifs with hsize
      · rfl
      · -- a round that does not end the loop has capped somebody
        have hlt : (fitRound cap state).remainingFractions.size < state.remainingFractions.size :=
          lt_of_le_of_ne fitRound_size_le hsize
        exact ih rounds' (by omega) (by omega)

/-! ### The end of the fitting -/

theorem distribute_get? (state : FitState) (id : String) :
    (distribute state).lockedAllocations.get? id =
      ((state.remainingFractions.get? id).map fun fraction =>
        fraction / totalOf state.remainingFractions * state.remainingCapital).or
          (state.lockedAllocations.get? id) := by
  rw [← OrdMap.get?_map fun _ fraction =>
    fraction / totalOf state.remainingFractions * state.remainingCapital, ← OrdMap.get?_foldl_set,
    distribute, OrdMap.map, List.foldl_map]

theorem Fits.shareOf_locked (h : Fits fractions cap capital state)
    (hid : id ∈ strategiesOf fractions \ strategiesOf state.remainingFractions) :
    shareOf state.lockedAllocations id = cap :=
  shareOf_of_get? (by rw [h.locked, if_pos hid])

theorem Fits.shareOf_locked_rest (h : Fits fractions cap capital state)
    (hid : id ∈ strategiesOf state.remainingFractions) :
    shareOf state.lockedAllocations id = 0 := by
  rw [shareOf, h.locked, if_neg fun hmem => (mem_sdiff.mp hmem).2 hid, Option.getD_none]

/-- The allocations of capped fitting: filled shares, for nobody else. -/
structure Allocated (fractions : OrdMap String ℚ) (cap capital : ℚ)
    (allocations : OrdMap String ℚ) : Prop where
  filled : Filled (strategiesOf fractions) (shareOf fractions) cap capital (shareOf allocations)
  subset : strategiesOf allocations ⊆ strategiesOf fractions

include hfractions hcap in
theorem Fits.allocated_of_empty (h : Fits fractions cap capital state)
    (htotal : totalOf state.remainingFractions = 0) :
    Allocated fractions cap capital state.lockedAllocations where
  filled := h.capping.filled_of_empty hfractions hcap (h.totalOf_remaining ▸ htotal)
    (fun _ => h.shareOf_locked_rest) (fun _ => h.shareOf_locked)
  subset := by
    intro id hid
    rw [mem_strategiesOf, h.locked] at hid
    split_ifs at hid with hmem
    · exact (mem_sdiff.mp hmem).1
    · cases hid

include hfractions hcap in
theorem Fits.allocated_distribute (h : Fits fractions cap capital state)
    (htotal : totalOf state.remainingFractions ≠ 0) (hfits : ∀ e ∈ state.remainingFractions.entries,
      e.2 / totalOf state.remainingFractions * state.remainingCapital ≤ cap) :
    Allocated fractions cap capital (distribute state).lockedAllocations := by
  have hread := distribute_get? state
  have hnn : ∀ id ∈ strategiesOf state.remainingFractions, 0 ≤ shareOf fractions id :=
    fun id hid => hfractions id (h.capping.subset hid)
  have hrest : ∀ id ∈ strategiesOf state.remainingFractions,
      state.remainingFractions.get? id = some (shareOf fractions id) := by
    intro id hid
    obtain ⟨a, ha⟩ := Option.isSome_iff_exists.mp (mem_strategiesOf.mp hid)
    rw [ha, shareOf_of_get? (h.remaining id a ha)]
  rw [h.totalOf_remaining] at htotal hread hfits
  refine ⟨h.capping.filled_of_fits hfractions hcap ?_ (fun id hid => ?_) (fun id hid => ?_)
    (fun id hid => ?_), fun id hid => ?_⟩
  · exact lt_of_le_of_ne (sum_nonneg hnn) htotal.symm
  · exact hfits _ (OrdMap.get?_eq_some_iff.mp (hrest id hid))
  · rw [shareOf, hread, hrest id hid]
    rfl
  · have hnone : state.remainingFractions.get? id = none := by
      rw [← Option.not_isSome_iff_eq_none, ← mem_strategiesOf]
      exact (mem_sdiff.mp hid).2
    rw [shareOf, hread, hnone, h.locked, if_pos hid]
    rfl
  · rw [mem_strategiesOf, hread, h.locked] at hid
    by_cases hmem : id ∈ strategiesOf state.remainingFractions
    · exact h.capping.subset hmem
    · rw [mem_strategiesOf, Option.not_isSome_iff_eq_none] at hmem
      rw [hmem, Option.map_none, Option.none_or] at hid
      split_ifs at hid with hcapd
      · exact (mem_sdiff.mp hcapd).1
      · cases hid

include hfractions hcap in
theorem Fits.allocated_fit (rounds : ℕ) (h : Fits fractions cap capital state)
    (hsize : state.remainingFractions.size ≤ rounds) :
    Allocated fractions cap capital (fit cap rounds state).lockedAllocations := by
  induction rounds generalizing state with
  | zero => exact h.allocated_of_empty hfractions hcap (totalOf_of_size hsize)
  | succ rounds ih =>
    rw [fit]
    by_cases htotal : totalOf state.remainingFractions = 0
    · rw [if_pos htotal]
      exact h.allocated_of_empty hfractions hcap htotal
    · rw [if_neg htotal]
      dsimp only
      split_ifs with hcapd
      · refine h.allocated_distribute hfractions hcap htotal ?_
        exact le_cap_of_foldl_size _ (fun _ he => OrdMap.get?_eq_some_iff.mpr he) hcapd
      · have hle : (Chansey.fitRound cap state).remainingFractions.size ≤
            state.remainingFractions.size := fitRound_size_le
        have hlt := lt_of_le_of_ne hle hcapd
        exact ih (h.fitRound hfractions hcap) (by omega)

end Fitting

/-! ## The fractions -/

theorem quarterKelly_nonneg {resolved : List ℚ} {fraction : ℚ}
    (h : quarterKelly resolved = some fraction) : 0 ≤ fraction := by
  have hquarter : ∀ odds kelly : ℚ, 0 ≤ if 0 < odds then max kelly 0 else 0 := by
    intro odds kelly
    split_ifs
    · exact le_max_right _ _
    · exact le_rfl
  unfold quarterKelly at h
  split at h
  · cases h
  · dsimp only at h
    split at h
    · cases h
      decide +kernel
    · cases h
      exact hquarter _ _

theorem kellyEquivalent_nonneg {score fraction : ℚ} (h : kellyEquivalent score = some fraction) :
    0 ≤ fraction := by
  unfold kellyEquivalent at h
  split at h
  · cases h
  · dsimp only at h
    split at h
    · cases h
      exact le_max_right _ _
    · cases h

theorem get?_foldl_elim (f : String → Option ℚ) (ids : List String) (m : OrdMap String ℚ)
    (id : String) :
    (ids.foldl (fun m id => (f id).elim m (m.set id)) m).get? id =
      if id ∈ ids then (f id).or (m.get? id) else m.get? id := by
  induction ids generalizing m with
  | nil => rfl
  | cons id' ids ih =>
    rw [List.foldl_cons, ih]
    by_cases heq : id' = id
    · subst heq
      cases f id' <;> simp
    · have hskip : ((f id').elim m (m.set id')).get? id = m.get? id := by
        cases f id' with
        | none => rfl
        | some a => exact OrdMap.get?_set_of_ne m a heq
      simp [hskip, Ne.symm heq]

theorem kellyFractions_get? (strategyIds : List String) (allOrders : List AlgorithmicFill)
    (scores : List (String × ℚ)) (id : String) :
    (kellyFractions strategyIds allOrders scores).get? id =
      if id ∈ strategyIds then
        (quarterKelly (resolvedResults allOrders id)).or (kellyEquivalent (latestScore scores id))
      else none := by
  rw [kellyFractions, get?_foldl_elim, get?_foldl_elim]
  by_cases hid : id ∈ strategyIds
  · cases hkelly : quarterKelly (resolvedResults allOrders id) <;> simp [hid, hkelly]
  · simp [hid]

theorem kellyFractions_nonneg (strategyIds : List String) (allOrders : List AlgorithmicFill)
    (scores : List (String × ℚ)) :
    ∀ e ∈ (kellyFractions strategyIds allOrders scores).entries, 0 ≤ e.2 := by
  intro e he
  have hget := OrdMap.get?_eq_some_iff.mpr he
  rw [kellyFractions_get?] at hget
  split_ifs at hget
  rcases Option.or_eq_some_iff.mp hget with hkelly | ⟨-, hscore⟩
  · exact quarterKelly_nonneg hkelly
  · exact kellyEquivalent_nonneg hscore

/-! ## What the allocation guarantees -/

section Guarantees

variable {effectiveCapital : ℚ} {fractions other : OrdMap String ℚ}

theorem getMaxAllocationPerStrategy_nonneg (hcap : 0 ≤ effectiveCapital) (count : ℕ) :
    0 ≤ getMaxAllocationPerStrategy effectiveCapital count :=
  mul_nonneg hcap ((by decide +kernel : (0 : ℚ) ≤ MAX_ALLOCATION_PERCENTAGE).trans
    (le_max_left _ _))

theorem shareOf_nonneg (hfractions : ∀ e ∈ fractions.entries, 0 ≤ e.2) (id : String) :
    0 ≤ shareOf fractions id := by
  unfold shareOf
  cases hget : fractions.get? id with
  | none => exact le_rfl
  | some => exact hfractions _ (OrdMap.get?_eq_some_iff.mp hget)

theorem allocated_fitAllocations (hcap : 0 ≤ effectiveCapital)
    (hfractions : ∀ e ∈ fractions.entries, 0 ≤ e.2) :
    Allocated fractions (getMaxAllocationPerStrategy effectiveCapital fractions.size)
      effectiveCapital (fitAllocations effectiveCapital fractions) :=
  (Fits.start hcap).allocated_fit (fun id _ => shareOf_nonneg hfractions id)
    (getMaxAllocationPerStrategy_nonneg hcap _) _ le_rfl

theorem strategiesOf_congr (h : ∀ id, other.get? id = fractions.get? id) :
    strategiesOf other = strategiesOf fractions := by
  ext id
  rw [mem_strategiesOf, mem_strategiesOf, h]

theorem size_eq_card (m : OrdMap String ℚ) : m.size = #(strategiesOf m) := by
  have hnodup : m.keys.Nodup := m.nodup
  rw [strategiesOf, List.toFinset_card_of_nodup hnodup, OrdMap.keys, List.length_map, OrdMap.size]

theorem shareOf_congr (h : ∀ id, other.get? id = fractions.get? id) :
    shareOf other = shareOf fractions := by
  funext id
  rw [shareOf, shareOf, h]

theorem totalOf_congr (h : ∀ id, other.get? id = fractions.get? id) :
    totalOf other = totalOf fractions := by
  rw [totalOf_eq_sum (Finset.Subset.refl _), totalOf_eq_sum (Finset.Subset.refl _),
    strategiesOf_congr h, shareOf_congr h]

theorem shareOf_fitAllocations_congr (hcap : 0 ≤ effectiveCapital)
    (hfractions : ∀ e ∈ fractions.entries, 0 ≤ e.2) (h : ∀ id, other.get? id = fractions.get? id)
    (id : String) :
    shareOf (fitAllocations effectiveCapital other) id =
      shareOf (fitAllocations effectiveCapital fractions) id := by
  have hother : ∀ e ∈ other.entries, 0 ≤ e.2 := fun e he =>
    hfractions e (OrdMap.get?_eq_some_iff.mp (h e.1 ▸ OrdMap.get?_eq_some_iff.mpr he))
  have ha := allocated_fitAllocations hcap hfractions
  have hb := allocated_fitAllocations hcap hother
  rw [size_eq_card, strategiesOf_congr h, ← size_eq_card] at hb
  by_cases hid : id ∈ strategiesOf fractions
  · have hfld := hb.filled
    rw [strategiesOf_congr h, shareOf_congr h] at hfld
    exact hfld.unique (fun id _ => shareOf_nonneg hfractions id) ha.filled id hid
  · rw [shareOf_of_notMem fun hmem => hid (ha.subset hmem),
      shareOf_of_notMem fun hmem => hid (strategiesOf_congr h ▸ hb.subset hmem)]

theorem entries_keepAboveMinimum (minAllocation : ℚ) (m : OrdMap String ℚ) :
    (keepAboveMinimum minAllocation m).entries = m.entries.filter fun e => ¬ e.2 < minAllocation :=
  OrdMap.entries_ofEntries (m.nodup.sublist (List.filter_sublist.map _))

theorem keepAboveMinimum_get? {minAllocation : ℚ} (hmin : 0 < minAllocation)
    (m : OrdMap String ℚ) (id : String) :
    (keepAboveMinimum minAllocation m).get? id =
      if shareOf m id < minAllocation then none else some (shareOf m id) := by
  ext a
  rw [OrdMap.get?_eq_some_iff, entries_keepAboveMinimum, List.mem_filter,
    ← OrdMap.get?_eq_some_iff, decide_eq_true_eq]
  unfold shareOf
  cases m.get? id with
  | none => simp [hmin]
  | some b =>
    rw [Option.getD_some]
    by_cases hb : b < minAllocation
    · simp only [hb, if_true, Option.some.injEq, reduceCtorEq, iff_false]
      rintro ⟨rfl, hna⟩
      exact hna hb
    · simp only [hb, if_false, Option.some.injEq]
      exact ⟨And.left, fun hab => ⟨hab, hab ▸ hb⟩⟩

theorem totalOf_le_of_sublist {kept m : OrdMap String ℚ} (h : kept.entries.Sublist m.entries)
    (hm : ∀ e ∈ m.entries, 0 ≤ e.2) : totalOf kept ≤ totalOf m := by
  refine (h.map fun e => e.2).sum_le_sum fun a ha => ?_
  obtain ⟨e, he, rfl⟩ := List.mem_map.mp ha
  exact hm e he

theorem minAllocationOf_pos (regimeContext : Option RegimeContext) :
    0 < minAllocationOf regimeContext := by
  unfold minAllocationOf getMinCapitalPerStrategy MIN_CAPITAL_PER_STRATEGY
  split <;> norm_num

theorem entries_allocateCapitalByKelly_sublist (userCapital : ℚ) (strategyIds : List String)
    (allOrders : List AlgorithmicFill) (scores : List (String × ℚ))
    (regimeContext : Option RegimeContext) :
    (allocateCapitalByKelly userCapital strategyIds allOrders scores regimeContext).entries.Sublist
      (fitAllocations (effectiveCapitalOf userCapital regimeContext)
        (kellyFractions strategyIds allOrders scores)).entries := by
  unfold allocateCapitalByKelly
  dsimp only
  split_ifs
  · exact List.nil_sublist _
  · rw [entries_keepAboveMinimum]
    exact List.filter_sublist

theorem allocateCapitalByKelly_congr (userCapital : ℚ) {strategyIds strategyIds' : List String}
    (allOrders : List AlgorithmicFill) (scores : List (String × ℚ))
    (regimeContext : Option RegimeContext) (h : ∀ id, id ∈ strategyIds' ↔ id ∈ strategyIds)
    (id : String) :
    (allocateCapitalByKelly userCapital strategyIds' allOrders scores regimeContext).get? id =
      (allocateCapitalByKelly userCapital strategyIds allOrders scores regimeContext).get? id := by
  have hread : ∀ id, (kellyFractions strategyIds' allOrders scores).get? id =
      (kellyFractions strategyIds allOrders scores).get? id := by
    intro id
    rw [kellyFractions_get?, kellyFractions_get?]
    exact if_congr (h id) rfl rfl
  have hnil : strategyIds' = [] ↔ strategyIds = [] := by
    rw [List.eq_nil_iff_forall_not_mem, List.eq_nil_iff_forall_not_mem]
    exact forall_congr' fun id => not_congr (h id)
  unfold allocateCapitalByKelly
  simp only [hnil, totalOf_congr hread]
  split_ifs with hguard
  · rfl
  · simp only [not_or, not_le] at hguard
    have hmin := minAllocationOf_pos regimeContext
    rw [keepAboveMinimum_get? hmin, keepAboveMinimum_get? hmin, shareOf_fitAllocations_congr
      hguard.2.2.1.le (kellyFractions_nonneg strategyIds allOrders scores) hread]

theorem totalOf_fitAllocations (hcap : 0 ≤ effectiveCapital)
    (hfractions : ∀ e ∈ fractions.entries, 0 ≤ e.2) :
    totalOf (fitAllocations effectiveCapital fractions) =
      min effectiveCapital ((fractions.entries.countP fun e => 0 < e.2) *
        getMaxAllocationPerStrategy effectiveCapital fractions.size) := by
  have halloc := allocated_fitAllocations hcap hfractions
  rw [totalOf_eq_sum halloc.subset, halloc.filled.sum, card_positive]

theorem fitAllocations_nonneg (hcap : 0 ≤ effectiveCapital)
    (hfractions : ∀ e ∈ fractions.entries, 0 ≤ e.2) :
    ∀ e ∈ (fitAllocations effectiveCapital fractions).entries, 0 ≤ e.2 := by
  intro e he
  have halloc := allocated_fitAllocations hcap hfractions
  have hread := OrdMap.get?_eq_some_iff.mpr he
  have hmem : e.1 ∈ strategiesOf (fitAllocations effectiveCapital fractions) :=
    mem_strategiesOf.mpr (Option.isSome_of_eq_some hread)
  rw [← shareOf_of_get? hread]
  exact halloc.filled.nonneg (fun id _ => shareOf_nonneg hfractions id)
    (getMaxAllocationPerStrategy_nonneg hcap _) hcap _ (halloc.subset hmem)

/-- **Capital allocation is capped water-filling.** -/
theorem fitAllocations_waterFilling (hcapital : 0 ≤ effectiveCapital)
    (hfractions : ∀ e ∈ fractions.entries, 0 ≤ e.2) :
    -- one level for all strategies
    (∃ lam : ℚ, ∀ id ∈ fractions.keys, shareOf (fitAllocations effectiveCapital fractions) id =
      min (getMaxAllocationPerStrategy effectiveCapital fractions.size)
        (lam * shareOf fractions id)) ∧
    totalOf (fitAllocations effectiveCapital fractions) =
      min effectiveCapital ((fractions.entries.countP fun e => 0 < e.2) *
        getMaxAllocationPerStrategy effectiveCapital fractions.size) ∧
    -- any order of the strategies
    (∀ other, other.entries.Perm fractions.entries → ∀ id,
      shareOf (fitAllocations effectiveCapital other) id =
        shareOf (fitAllocations effectiveCapital fractions) id) ∧
    -- rounds after as many as there are strategies find the loop ended
    (∀ rounds, fractions.size ≤ rounds →
      (fit (getMaxAllocationPerStrategy effectiveCapital fractions.size) rounds
        { remainingFractions := fractions, remainingCapital := effectiveCapital }).lockedAllocations
      = fitAllocations effectiveCapital fractions) ∧
    -- what is paid
    ∀ userCapital strategyIds allOrders scores regimeContext,
      effectiveCapitalOf userCapital regimeContext = effectiveCapital →
      kellyFractions strategyIds allOrders scores = fractions →
      (allocateCapitalByKelly userCapital strategyIds allOrders scores
        regimeContext).entries.Sublist (fitAllocations effectiveCapital fractions).entries ∧
      totalOf (allocateCapitalByKelly userCapital strategyIds allOrders scores regimeContext) ≤
        effectiveCapital ∧
      ∀ strategyIds', (∀ id, id ∈ strategyIds' ↔ id ∈ strategyIds) → ∀ id,
        (allocateCapitalByKelly userCapital strategyIds' allOrders scores regimeContext).get? id =
          (allocateCapitalByKelly userCapital strategyIds allOrders scores
            regimeContext).get? id := by
  have hallocated := allocated_fitAllocations hcapital hfractions
  have htotal := totalOf_fitAllocations hcapital hfractions
  refine ⟨?_, htotal, fun other hperm id => ?_, fun rounds hrounds => ?_, ?_⟩
  · obtain ⟨lam, hlam⟩ := hallocated.filled.level
    exact ⟨lam, fun id hid => hlam id (List.mem_toFinset.mpr hid)⟩
  · refine shareOf_fitAllocations_congr hcapital hfractions (fun id => ?_) id
    ext a
    rw [OrdMap.get?_eq_some_iff, OrdMap.get?_eq_some_iff, hperm.mem_iff]
  · rw [fit_rounds rounds fractions.size hrounds le_rfl, fitAllocations]
  · rintro userCapital strategyIds allOrders scores regimeContext rfl rfl
    have hsub := entries_allocateCapitalByKelly_sublist userCapital strategyIds allOrders scores
      regimeContext
    refine ⟨hsub, ?_, fun strategyIds' h =>
      allocateCapitalByKelly_congr userCapital allOrders scores regimeContext h⟩
    exact (totalOf_le_of_sublist hsub (fitAllocations_nonneg hcapital hfractions)).trans
      (htotal.trans_le (min_le_left _ _))

theorem fitAllocations_waterFilling_four :
    let fractions := OrdMap.ofEntries [("a", 1 / 5), ("b", 1 / 5), ("c", 1 / 10), ("d", 1 / 100)]
    totalOf (fitAllocations 1000 fractions) = min 1000
      ((fractions.entries.countP fun e => 0 < e.2) *
        getMaxAllocationPerStrategy 1000 fractions.size) :=
  (fitAllocations_waterFilling (by decide +kernel) (by decide +kernel)).2.1

end Guarantees

end Chansey
