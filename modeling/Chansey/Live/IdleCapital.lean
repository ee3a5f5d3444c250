import Chansey.Live.CapitalAllocation

/-!
# Capital that the caps leave idle

The cap of a strategy is 15%, or an equal share of the strategies that have a fraction. A strategy
with enough trades and a fraction of zero counts among those, a strategy with a low score does not.
-/

namespace Chansey

open Finset

section Idle

variable (strategyIds : List String) (allOrders : List AlgorithmicFill)
  (scores : List (String × ℚ))

/-- The fraction of a strategy by its trades, where there are enough, or else by its score. -/
def fractionOf (id : String) : Option ℚ :=
  (quarterKelly (resolvedResults allOrders id)).or (kellyEquivalent (latestScore scores id))

def earning : Finset String :=
  {id ∈ strategyIds.toFinset | 0 < (fractionOf allOrders scores id).getD 0}

def HasZeroFraction : Prop :=
  ∃ id ∈ strategyIds, quarterKelly (resolvedResults allOrders id) = some 0

instance : Decidable (HasZeroFraction strategyIds allOrders) :=
  inferInstanceAs (Decidable (∃ id ∈ strategyIds, _))

end Idle

variable {strategyIds : List String} {allOrders : List AlgorithmicFill}
  {scores : List (String × ℚ)}

/-! ## The strategies that count -/

theorem kellyFractions_get?_eq (id : String) :
    (kellyFractions strategyIds allOrders scores).get? id =
      if id ∈ strategyIds then fractionOf allOrders scores id else none :=
  kellyFractions_get? strategyIds allOrders scores id

theorem earning_subset :
    earning strategyIds allOrders scores ⊆
      strategiesOf (kellyFractions strategyIds allOrders scores) := by
  intro id hid
  obtain ⟨hmem, hpos⟩ := mem_filter.mp hid
  rw [mem_strategiesOf, kellyFractions_get?_eq, if_pos (List.mem_toFinset.mp hmem)]
  cases hfrac : fractionOf allOrders scores id with
  | none =>
    rw [hfrac] at hpos
    exact absurd hpos (lt_irrefl 0)
  | some => rfl

theorem positive_eq_earning :
    {id ∈ strategiesOf (kellyFractions strategyIds allOrders scores) |
      0 < shareOf (kellyFractions strategyIds allOrders scores) id} =
      earning strategyIds allOrders scores := by
  have hshare : ∀ id ∈ strategyIds, shareOf (kellyFractions strategyIds allOrders scores) id =
      (fractionOf allOrders scores id).getD 0 := by
    intro id hid
    rw [shareOf, kellyFractions_get?_eq, if_pos hid]
  ext id
  rw [mem_filter]
  constructor
  · rintro ⟨hmem, hpos⟩
    rw [mem_strategiesOf, kellyFractions_get?_eq] at hmem
    split_ifs at hmem with hid
    · exact mem_filter.mpr ⟨List.mem_toFinset.mpr hid, hshare id hid ▸ hpos⟩
    · cases hmem
  · intro hid
    obtain ⟨hmem, hpos⟩ := mem_filter.mp hid
    exact ⟨earning_subset hid, (hshare id (List.mem_toFinset.mp hmem)).symm ▸ hpos⟩

theorem kellyEquivalent_pos {score fraction : ℚ} (h : kellyEquivalent score = some fraction) :
    0 < fraction := by
  unfold kellyEquivalent at h
  split at h
  · cases h
  · dsimp only at h
    split at h
    · rename_i hpos
      cases h
      exact hpos
    · cases h

theorem earning_eq_iff :
    earning strategyIds allOrders scores =
        strategiesOf (kellyFractions strategyIds allOrders scores) ↔
      ¬ HasZeroFraction strategyIds allOrders := by
  constructor
  · rintro heq ⟨id, hid, hzero⟩
    have hfrac : fractionOf allOrders scores id = some 0 := by
      rw [fractionOf, hzero, Option.some_or]
    have hcnt : id ∈ strategiesOf (kellyFractions strategyIds allOrders scores) := by
      rw [mem_strategiesOf, kellyFractions_get?_eq, if_pos hid, hfrac, Option.isSome_some]
    rw [← heq, earning, mem_filter, hfrac] at hcnt
    exact lt_irrefl 0 hcnt.2
  · intro hnone
    refine Finset.Subset.antisymm earning_subset fun id hid => ?_
    rw [mem_strategiesOf, kellyFractions_get?_eq] at hid
    split_ifs at hid with hmem
    · obtain ⟨_, hfrac⟩ := Option.isSome_iff_exists.mp hid
      refine mem_filter.mpr ⟨List.mem_toFinset.mpr hmem, ?_⟩
      rw [hfrac, Option.getD_some]
      rcases Option.or_eq_some_iff.mp hfrac with hkelly | ⟨-, hscore⟩
      · refine lt_of_le_of_ne (quarterKelly_nonneg hkelly) fun hzero => hnone ⟨id, hmem, ?_⟩
        rw [hkelly, hzero]
      · exact kellyEquivalent_pos hscore
    · cases hid

/-! ## What is allocated -/

theorem le_caps_iff {capital : ℚ} (hcap : 0 < capital) {positive count : ℕ}
    (hpos : 0 < positive) (hle : positive ≤ count) :
    capital ≤ positive * getMaxAllocationPerStrategy capital count ↔
      positive = count ∨ 7 ≤ positive := by
  have hpositive : (0 : ℚ) < positive := Nat.cast_pos.mpr hpos
  have hcount : (0 : ℚ) < count := Nat.cast_pos.mpr (hpos.trans_le hle)
  have hform : capital ≤ positive * getMaxAllocationPerStrategy capital count ↔
      1 ≤ (positive : ℚ) * MAX_ALLOCATION_PERCENTAGE ∨ 1 ≤ (positive : ℚ) * (1 / count) := by
    rw [getMaxAllocationPerStrategy, mul_left_comm, le_mul_iff_one_le_right hcap,
      mul_max_of_nonneg _ _ hpositive.le, le_max_iff]
  rw [hform, mul_one_div, le_div_iff₀ hcount, one_mul, Nat.cast_le, or_comm]
  refine or_congr ⟨fun h => le_antisymm hle h, fun h => h.ge⟩ ?_
  rw [MAX_ALLOCATION_PERCENTAGE]
  constructor
  · intro h
    by_contra hlt
    have hsix : (positive : ℚ) ≤ 6 := by exact_mod_cast Nat.lt_succ_iff.mp (not_le.mp hlt)
    linarith
  · intro h
    have hseven : (7 : ℚ) ≤ positive := by exact_mod_cast h
    linarith

/-- **The caps leave no capital idle just when no strategy with enough trades has a fraction of
zero, or seven strategies have a positive one.** -/
theorem nothingIdle_iff {userCapital : ℚ} {regimeContext : Option RegimeContext}
    (hcapital : 0 < userCapital) (heffective : 0 < effectiveCapitalOf userCapital regimeContext)
    (hpositive : (earning strategyIds allOrders scores).Nonempty) :
    let allocations := fitAllocations (effectiveCapitalOf userCapital regimeContext)
      (kellyFractions strategyIds allOrders scores)
    -- what is allocated, before the minimum
    allocateCapitalByKelly userCapital strategyIds allOrders scores regimeContext =
      keepAboveMinimum (minAllocationOf regimeContext) allocations ∧
    (totalOf allocations = effectiveCapitalOf userCapital regimeContext ↔
      ¬ HasZeroFraction strategyIds allOrders ∨ 7 ≤ #(earning strategyIds allOrders scores)) := by
  intro allocations
  have hnonneg := kellyFractions_nonneg strategyIds allOrders scores
  have hallocated := allocated_fitAllocations heffective.le hnonneg
  have hpos : 0 < #(earning strategyIds allOrders scores) := hpositive.card_pos
  have hle : #(earning strategyIds allOrders scores) ≤
      (kellyFractions strategyIds allOrders scores).size := by
    rw [size_eq_card]
    exact card_le_card earning_subset
  constructor
  · obtain ⟨id, hid⟩ := hpositive
    have hids : strategyIds ≠ [] := by
      rintro rfl
      cases hid
    have htotal : totalOf (kellyFractions strategyIds allOrders scores) ≠ 0 := by
      rw [← positive_eq_earning, mem_filter] at hid
      rw [totalOf_eq_sum (Finset.Subset.refl _)]
      exact (hid.2.trans_le (single_le_sum (fun id _ => shareOf_nonneg hnonneg id) hid.1)).ne'
    rw [allocateCapitalByKelly, if_neg]
    simp only [not_or, not_le]
    exact ⟨hids, hcapital, heffective, htotal⟩
  · have htotal : totalOf allocations = min (effectiveCapitalOf userCapital regimeContext)
        (#(earning strategyIds allOrders scores) *
          getMaxAllocationPerStrategy (effectiveCapitalOf userCapital regimeContext)
            (kellyFractions strategyIds allOrders scores).size) := by
      rw [totalOf_eq_sum hallocated.subset, hallocated.filled.sum, positive_eq_earning]
    rw [htotal, min_eq_left_iff, le_caps_iff heffective hpos hle, ← earning_eq_iff, size_eq_card]
    refine or_congr ⟨fun h => ?_, fun h => by rw [h]⟩ Iff.rfl
    exact eq_of_subset_of_card_le earning_subset h.ge

def thirtyTrades (strategyId : String) (gainLoss : ℚ) : List AlgorithmicFill :=
  List.replicate 30 ⟨some strategyId, some gainLoss⟩

def sevenWinners : List String := ["a", "b", "c", "d", "e", "f", "g"]

theorem nothingIdle_iff_seven :
    totalOf (fitAllocations (effectiveCapitalOf 1000 none)
      (kellyFractions ("loser" :: sevenWinners)
        (thirtyTrades "loser" (-1) ++ sevenWinners.flatMap (thirtyTrades · 1)) [])) =
      effectiveCapitalOf 1000 none :=
  (nothingIdle_iff (by norm_num) (by decide +kernel) (by decide +kernel)).2.mpr
    (Or.inr (by decide +kernel))

theorem loser_leaves_idle :
    (earning ["winner", "loser"] (thirtyTrades "winner" 1 ++ thirtyTrades "loser" (-1))
      []).Nonempty ∧
    totalOf (fitAllocations (effectiveCapitalOf 1000 none)
      (kellyFractions ["winner", "loser"]
        (thirtyTrades "winner" 1 ++ thirtyTrades "loser" (-1)) [])) ≠
      effectiveCapitalOf 1000 none := by
  decide +kernel

end Chansey
