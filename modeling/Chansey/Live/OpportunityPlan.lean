import Chansey.Lib.Greedy
import Chansey.Live.OpportunitySelling

/-!
# The plan of an opportunity sale

The evaluation with all that it records: the scores of the positions, the orders, the decision and
its reason.
-/

namespace Chansey

namespace Opportunity

inductive OpportunitySellDecision where
  | approved
  | rejectedDisabled
  | rejectedLowConfidence
  | rejectedNoEligible
  | rejectedInsufficientProceeds
  | rejectedMaxLiquidation
  deriving DecidableEq

/-! ## Scores -/

structure PositionSellScore where
  coinId : CoinId
  eligible : Bool
  unrealizedPnLScore : ℚ := 0
  protectedGainsScore : ℚ := 0
  holdingPeriodScore : ℚ := 0
  opportunityAdvantageScore : ℚ := 0
  algorithmRankingScore : ℚ := 0
  totalScore : ℚ
  ineligibleReason : Option String := none
  unrealizedPnLPercent : ℚ := 0
  holdingPeriodHours : ℚ := 0

def MAX_SAFE_INTEGER : ℚ := 9007199254740991

def unrealizedPnLPercent (avgPrice currentPrice : ℚ) : ℚ :=
  if 0 < avgPrice then (currentPrice - avgPrice) / avgPrice * 100 else 0

def calculateHoldingPeriodHours (entryDate now : Instant) : ℚ := ((now - entryDate : ℤ) : ℚ) / HOUR_MS

def holdingHours (entryDate : Option Instant) (now : Instant) : ℚ :=
  entryDate.elim 0 fun d => calculateHoldingPeriodHours d now

/-- The first rank gives 20 points of protection, the fifth and all later ones give none. -/
def algorithmRankingScore (config : OpportunitySellingUserConfig) (algoRank : Option ℚ) : ℚ :=
  match algoRank with
  | some rank => if config.useAlgorithmRanking ∧ 1 ≤ rank then max 0 (20 - (rank - 1) * 5) else 0
  | none => 0

def calculatePositionSellScore (coinId : CoinId) (position : MergedPosition)
    (currentPrice buyConfidence : ℚ) (config : OpportunitySellingUserConfig) (now : Instant)
    (algoRank : Option ℚ) : PositionSellScore :=
  let pnlPercent := unrealizedPnLPercent position.averagePrice currentPrice
  let holdingHours := holdingHours position.entryDate now
  let unrealizedPnLScore := max 0 (min 30 ((pnlPercent + 50) / 100 * 30))
  let protectedGainsScore : ℚ := if config.protectGainsAbovePercent < pnlPercent then 100 else 0
  let holdingPeriodScore : ℚ :=
    if holdingHours < config.minHoldingPeriodHours then 100 else min 20 (holdingHours / 720 * 20)
  let opportunityAdvantageScore := max 0 (min 30 ((1 - buyConfidence) * 30))
  let algorithmRankingScore := algorithmRankingScore config algoRank
  let eligible : Bool := protectedGainsScore < 100 ∧ holdingPeriodScore < 100
  let ineligibleReason :=
    if eligible then none
    else if 100 ≤ protectedGainsScore then
      some ("Position has " ++ Js.toFixed pnlPercent 1 ++ "% gains (protected above " ++
        Js.numberText config.protectGainsAbovePercent ++ "%)")
    else
      some ("Position held " ++ Js.toFixed holdingHours 0 ++ "h (minimum " ++
        Js.numberText config.minHoldingPeriodHours ++ "h)")
  { coinId, eligible, unrealizedPnLScore, protectedGainsScore, holdingPeriodScore
    opportunityAdvantageScore, algorithmRankingScore
    totalScore :=
      if eligible then unrealizedPnLScore + opportunityAdvantageScore + holdingPeriodScore +
        algorithmRankingScore
      else MAX_SAFE_INTEGER
    ineligibleReason
    unrealizedPnLPercent := pnlPercent
    holdingPeriodHours := holdingHours }

def protectedScore (coinId : CoinId) : PositionSellScore where
  coinId := coinId
  eligible := false
  totalScore := MAX_SAFE_INTEGER
  ineligibleReason := some "Coin is in the protected list"

/-! ## The plan -/

structure EvaluateOpportunitySellParams extends OpportunityRequest where
  positions : OrdMap CoinId MergedPosition
  currentPrices : OrdMap CoinId ℚ
  algoRankings : Option (OrdMap CoinId ℚ) := none

structure OpportunitySellOrder where
  coinId : CoinId
  quantity : ℚ
  currentPrice : ℚ
  estimatedProceeds : ℚ
  score : PositionSellScore

structure OpportunitySellPlan where
  buySignalCoinId : CoinId
  buySignalConfidence : ℚ
  shortfall : ℚ
  availableCash : ℚ
  portfolioValue : ℚ
  projectedProceeds : ℚ := 0
  decision : OpportunitySellDecision
  reason : String
  evaluatedPositions : List PositionSellScore := []
  sellOrders : List OpportunitySellOrder := []
  liquidationPercent : ℚ := 0

namespace EvaluateOpportunitySellParams

variable (params : EvaluateOpportunitySellParams)

def shortfall : ℚ := params.requiredBuyAmount - params.availableCash

def maxSellValue : ℚ := params.portfolioValue * params.config.maxLiquidationPercent / 100

def score (coinId : CoinId) (position : MergedPosition) (currentPrice : ℚ) : PositionSellScore :=
  calculatePositionSellScore coinId position currentPrice params.buySignalConfidence params.config
    params.now (params.algoRankings.bind (·.get? coinId))

def basePlan (decision : OpportunitySellDecision) (reason : String) : OpportunitySellPlan where
  buySignalCoinId := params.buySignalCoinId
  buySignalConfidence := params.buySignalConfidence
  shortfall := params.shortfall
  availableCash := params.availableCash
  portfolioValue := params.portfolioValue
  decision := decision
  reason := reason

end EvaluateOpportunitySellParams

def evaluatePosition (params : EvaluateOpportunitySellParams) (entry : CoinId × MergedPosition) :
    Option PositionSellScore :=
  if entry.1 = params.buySignalCoinId then none
  else if entry.1 ∈ params.config.protectedCoins then some (protectedScore entry.1)
  else ((params.currentPrices.get? entry.1).filter (0 < ·)).map (params.score entry.1 entry.2)

def evaluatePositions (params : EvaluateOpportunitySellParams) : List PositionSellScore :=
  params.positions.entries.filterMap (evaluatePosition params)

def sortedEligible (params : EvaluateOpportunitySellParams) : List PositionSellScore :=
  ((evaluatePositions params).filter (·.eligible)).insertionSort
    fun a b => a.totalScore ≤ b.totalScore

structure SaleProgress where
  remainingShortfall : ℚ
  totalSellValue : ℚ := 0
  sellOrders : List OpportunitySellOrder := []

/-- One round of the loop. Where the loop has ended, later positions change nothing. -/
def planSale (params : EvaluateOpportunitySellParams) (progress : SaleProgress)
    (scored : PositionSellScore) : SaleProgress :=
  if progress.remainingShortfall ≤ 0 then progress
  else if params.maxSellValue ≤ progress.totalSellValue then progress
  else
    match params.positions.get? scored.coinId,
      Js.truthy? (params.currentPrices.get? scored.coinId) with
    | some position, some currentPrice =>
      let maxSellByShortfall := progress.remainingShortfall / currentPrice
      let maxSellByLiquidation := (params.maxSellValue - progress.totalSellValue) / currentPrice
      let quantityToSell := min position.quantity (min maxSellByShortfall maxSellByLiquidation)
      if quantityToSell ≤ 0 then progress
      else
        let estimatedProceeds := quantityToSell * currentPrice
        { remainingShortfall := progress.remainingShortfall - estimatedProceeds
          totalSellValue := progress.totalSellValue + estimatedProceeds
          sellOrders := progress.sellOrders ++
            [⟨scored.coinId, quantityToSell, currentPrice, estimatedProceeds, scored⟩] }
    | _, _ => progress

def planSales (params : EvaluateOpportunitySellParams) : SaleProgress :=
  (sortedEligible params).foldl (planSale params) { remainingShortfall := params.shortfall }

def liquidationPercent (params : EvaluateOpportunitySellParams) (totalSellValue : ℚ) : ℚ :=
  if 0 < params.portfolioValue then totalSellValue / params.portfolioValue * 100 else 0

/-- The gates after the loop. -/
def concludePlan (params : EvaluateOpportunitySellParams) (progress : SaleProgress) :
    OpportunitySellPlan :=
  let percent := liquidationPercent params progress.totalSellValue
  if params.config.maxLiquidationPercent < percent then
    { params.basePlan .rejectedMaxLiquidation
        ("Liquidation would require " ++ Js.toFixed percent 1 ++ "% of portfolio (max: " ++
          Js.numberText params.config.maxLiquidationPercent ++ "%)") with
      evaluatedPositions := evaluatePositions params
      liquidationPercent := percent }
  else
    let plan := if 0 < progress.remainingShortfall then
        params.basePlan .rejectedInsufficientProceeds
          ("Eligible positions can raise $" ++ Js.toFixed progress.totalSellValue 2 ++
            " but shortfall is $" ++ Js.toFixed params.shortfall 2)
      else
        params.basePlan .approved
          ("Selling " ++ toString progress.sellOrders.length ++ " position(s) for $" ++
            Js.toFixed progress.totalSellValue 2 ++ " to fund " ++ params.buySignalCoinId ++ " buy")
    { plan with
      evaluatedPositions := evaluatePositions params
      sellOrders := progress.sellOrders
      projectedProceeds := progress.totalSellValue
      liquidationPercent := percent }

def evaluateOpportunitySell (params : EvaluateOpportunitySellParams) : OpportunitySellPlan :=
  if params.enabled = false then
    params.basePlan .rejectedDisabled "Opportunity selling is disabled for this user"
  else if params.buySignalConfidence < params.config.minOpportunityConfidence then
    params.basePlan .rejectedLowConfidence
      ("Buy signal confidence " ++ Js.toFixed (params.buySignalConfidence * 100) 1 ++
        "% is below minimum " ++ Js.toFixed (params.config.minOpportunityConfidence * 100) 1 ++ "%")
  else if params.shortfall ≤ 0 then
    { params.basePlan .approved "Sufficient cash available — no selling needed" with shortfall := 0 }
  else if (sortedEligible params).isEmpty then
    { params.basePlan .rejectedNoEligible
        "No eligible positions to sell (all protected, too new, or have large gains)" with
      evaluatedPositions := evaluatePositions params }
  else concludePlan params (planSales params)

/-! ## Eligible positions -/

/-- Not the coin to be bought and not protected, priced, held long enough, and without gains that
are to be kept. -/
structure Eligible (params : EvaluateOpportunitySellParams) (coinId : CoinId)
    (position : MergedPosition) (currentPrice : ℚ) : Prop where
  other : coinId ≠ params.buySignalCoinId
  unprotected : coinId ∉ params.config.protectedCoins
  priced : params.currentPrices.get? coinId = some currentPrice
  price_pos : 0 < currentPrice
  old : params.config.minHoldingPeriodHours ≤ holdingHours position.entryDate params.now
  gain : unrealizedPnLPercent position.averagePrice currentPrice ≤
    params.config.protectGainsAbovePercent

theorem eligible_iff_and {params : EvaluateOpportunitySellParams} {coinId : CoinId}
    {position : MergedPosition} {currentPrice : ℚ} :
    Eligible params coinId position currentPrice ↔
      coinId ≠ params.buySignalCoinId ∧ coinId ∉ params.config.protectedCoins ∧
      params.currentPrices.get? coinId = some currentPrice ∧ 0 < currentPrice ∧
      params.config.minHoldingPeriodHours ≤ holdingHours position.entryDate params.now ∧
      unrealizedPnLPercent position.averagePrice currentPrice ≤
        params.config.protectGainsAbovePercent :=
  ⟨fun ⟨h₁, h₂, h₃, h₄, h₅, h₆⟩ => ⟨h₁, h₂, h₃, h₄, h₅, h₆⟩,
    fun ⟨h₁, h₂, h₃, h₄, h₅, h₆⟩ => ⟨h₁, h₂, h₃, h₄, h₅, h₆⟩⟩

instance instDecidableEligible (params : EvaluateOpportunitySellParams) (coinId : CoinId)
    (position : MergedPosition) (currentPrice : ℚ) :
    Decidable (Eligible params coinId position currentPrice) :=
  decidable_of_iff _ eligible_iff_and.symm

def saleValue (params : EvaluateOpportunitySellParams) (coinId : CoinId)
    (position : MergedPosition) : ℚ :=
  (params.currentPrices.get? coinId).elim 0 fun currentPrice =>
    if Eligible params coinId position currentPrice then max 0 (position.quantity * currentPrice)
    else 0

/-- All that may be sold is worth this much. -/
def eligibleValue (params : EvaluateOpportunitySellParams) : ℚ :=
  params.positions.sumBy (saleValue params)

/-- The most that may be liquidated. A negative percentage counts as nothing. -/
def liquidationCap (params : EvaluateOpportunitySellParams) : ℚ :=
  params.portfolioValue * max 0 params.config.maxLiquidationPercent / 100

section Scores

variable {params : EvaluateOpportunitySellParams} {coinId : CoinId} {position : MergedPosition}
  {currentPrice : ℚ}

theorem score_eligible : (params.score coinId position currentPrice).eligible = true ↔
    params.config.minHoldingPeriodHours ≤ holdingHours position.entryDate params.now ∧
      unrealizedPnLPercent position.averagePrice currentPrice ≤
        params.config.protectGainsAbovePercent := by
  simp only [EvaluateOpportunitySellParams.score, calculatePositionSellScore, decide_eq_true_eq]
  have htwenty : ∀ x : ℚ, min 20 x < 100 := fun x => (min_le_left _ _).trans_lt (by norm_num)
  constructor
  · rintro ⟨hgain, hold⟩
    refine ⟨not_lt.mp fun h => ?_, not_lt.mp fun h => ?_⟩
    · rw [if_pos h] at hold
      exact absurd hold (lt_irrefl _)
    · rw [if_pos h] at hgain
      exact absurd hgain (lt_irrefl _)
  · rintro ⟨hold, hgain⟩
    rw [if_neg (not_lt.mpr hgain), if_neg (not_lt.mpr hold)]
    exact ⟨by norm_num, htwenty _⟩

theorem eligible_iff {scored : PositionSellScore} :
    evaluatePosition params (coinId, position) = some scored ∧ scored.eligible = true ↔
      ∃ currentPrice, Eligible params coinId position currentPrice ∧
        scored = params.score coinId position currentPrice := by
  unfold evaluatePosition
  constructor
  · rintro ⟨h, helig⟩
    split_ifs at h with hbuy hprot
    · cases h
      cases helig
    · obtain ⟨price, hprice, rfl⟩ := Option.map_eq_some_iff.mp h
      obtain ⟨hget, hpos⟩ := Option.filter_eq_some_iff.mp hprice
      obtain ⟨hold, hgain⟩ := score_eligible.mp helig
      exact ⟨price, ⟨hbuy, hprot, hget, of_decide_eq_true hpos, hold, hgain⟩, rfl⟩
  · rintro ⟨_, h, rfl⟩
    rw [if_neg h.other, if_neg h.unprotected, h.priced, Option.filter_some,
      if_pos (decide_eq_true h.price_pos)]
    exact ⟨rfl, score_eligible.mpr ⟨h.old, h.gain⟩⟩

theorem mem_sortedEligible {scored : PositionSellScore} : scored ∈ sortedEligible params ↔
    ∃ coinId position currentPrice, params.positions.get? coinId = some position ∧
      Eligible params coinId position currentPrice ∧
      scored = params.score coinId position currentPrice := by
  simp only [sortedEligible, evaluatePositions, List.mem_insertionSort, List.mem_filter,
    List.mem_filterMap]
  constructor
  · rintro ⟨⟨⟨coinId, position⟩, hentry, hsco⟩, helig⟩
    obtain ⟨price, h⟩ := eligible_iff.mp ⟨hsco, helig⟩
    exact ⟨coinId, position, price, OrdMap.get?_eq_some_iff.mpr hentry, h⟩
  · rintro ⟨coinId, position, price, hget, h⟩
    obtain ⟨hsco, helig⟩ := eligible_iff.mpr ⟨price, h⟩
    exact ⟨⟨⟨coinId, position⟩, OrdMap.get?_eq_some_iff.mp hget, hsco⟩, helig⟩

end Scores

/-! ## The loop -/

section Loop

variable (params : EvaluateOpportunitySellParams)

def heldAt (scored : PositionSellScore) : ℚ × ℚ :=
  (((params.positions.get? scored.coinId).map (·.quantity)).getD 0,
    (params.currentPrices.get? scored.coinId).getD 0)

def worth (scored : PositionSellScore) : ℚ :=
  (heldAt params scored).1 * (heldAt params scored).2

def orderOf (taken : PositionSellScore × ℚ) : OpportunitySellOrder where
  coinId := taken.1.coinId
  quantity := taken.2 / (heldAt params taken.1).2
  currentPrice := (heldAt params taken.1).2
  estimatedProceeds := taken.2
  score := taken.1

def SaleProgress.budget (progress : SaleProgress) : ℚ :=
  min progress.remainingShortfall (params.maxSellValue - progress.totalSellValue)

def SaleProgress.add (progress : SaleProgress) (taken : List (PositionSellScore × ℚ)) :
    SaleProgress where
  remainingShortfall := progress.remainingShortfall - (taken.map Prod.snd).sum
  totalSellValue := progress.totalSellValue + (taken.map Prod.snd).sum
  sellOrders := progress.sellOrders ++ taken.map (orderOf params)

variable {params}

theorem SaleProgress.add_nil (progress : SaleProgress) : progress.add params [] = progress := by
  simp [SaleProgress.add]

theorem SaleProgress.add_cons (progress : SaleProgress) (x : PositionSellScore × ℚ)
    (taken : List (PositionSellScore × ℚ)) :
    progress.add params (x :: taken) = (progress.add params [x]).add params taken := by
  simp [SaleProgress.add, sub_sub, add_assoc]

theorem SaleProgress.budget_add (progress : SaleProgress) (x : PositionSellScore × ℚ) :
    (progress.add params [x]).budget params = progress.budget params - x.2 := by
  simp only [SaleProgress.budget, SaleProgress.add, List.map_cons, List.map_nil, List.sum_cons,
    List.sum_nil, add_zero]
  rw [← sub_sub, min_sub_sub_right]

theorem heldAt_score {coinId : CoinId} {position : MergedPosition} {price : ℚ}
    (hget : params.positions.get? coinId = some position)
    (h : Eligible params coinId position price) :
    heldAt params (params.score coinId position price) = (position.quantity, price) := by
  show (((params.positions.get? coinId).map (·.quantity)).getD 0,
    (params.currentPrices.get? coinId).getD 0) = _
  rw [hget, h.priced]
  rfl

theorem quantityToSell_mul {quantity remaining left price : ℚ} (hprice : 0 < price) :
    min quantity (min (remaining / price) (left / price)) =
      min (quantity * price) (min remaining left) / price := by
  rw [min_div_div_right hprice.le]
  nth_rewrite 1 [← mul_div_cancel_right₀ quantity hprice.ne']
  exact min_div_div_right hprice.le _ _

theorem planSale_eq {progress : SaleProgress} {scored : PositionSellScore}
    (hsco : scored ∈ sortedEligible params) : planSale params progress scored =
      if min (worth params scored) (progress.budget params) ≤ 0 then progress
      else progress.add params [(scored, min (worth params scored) (progress.budget params))] := by
  obtain ⟨coinId, position, price, hget, helig, rfl⟩ := mem_sortedEligible.mp hsco
  have hheld := heldAt_score hget helig
  have hcoin : (params.score coinId position price).coinId = coinId := rfl
  have htruthy : Js.truthy? (params.currentPrices.get? coinId) = some price :=
    Js.truthy?_eq_some.mpr ⟨helig.priced, helig.price_pos.ne'⟩
  have hprice := helig.price_pos
  unfold planSale worth
  rw [hcoin, hget, htruthy, hheld]
  dsimp only
  rw [quantityToSell_mul hprice, div_mul_cancel₀ _ hprice.ne']
  by_cases hshort : progress.remainingShortfall ≤ 0
  · rw [if_pos hshort, if_pos]
    exact (min_le_right _ _).trans ((min_le_left _ _).trans hshort)
  rw [if_neg hshort]
  by_cases hcap : params.maxSellValue ≤ progress.totalSellValue
  · rw [if_pos hcap, if_pos]
    exact (min_le_right _ _).trans ((min_le_right _ _).trans (sub_nonpos.mpr hcap))
  rw [if_neg hcap]
  simp only [div_le_iff₀ hprice, zero_mul]
  refine if_congr Iff.rfl rfl ?_
  simp only [SaleProgress.add, SaleProgress.budget, orderOf, hheld, List.map_cons, List.map_nil,
    List.sum_cons, List.sum_nil, add_zero]
  rfl

theorem planSale_foldl {scored : List PositionSellScore} (h : scored ⊆ sortedEligible params)
    (progress : SaleProgress) : scored.foldl (planSale params) progress =
      progress.add params (Greedy.take (worth params) (progress.budget params) scored) := by
  induction scored generalizing progress with
  | nil => exact progress.add_nil.symm
  | cons c scored ih =>
    obtain ⟨hc, hrest⟩ := List.cons_subset.mp h
    rw [List.foldl_cons, planSale_eq hc]
    by_cases hskip : min (worth params c) (progress.budget params) ≤ 0
    · rw [if_pos hskip, Greedy.take_cons_skip hskip, ih hrest]
    · rw [if_neg hskip, Greedy.take_cons_some (not_le.mp hskip), ih hrest, SaleProgress.budget_add,
        ← SaleProgress.add_cons]

end Loop

/-! ## What the plan raises -/

section Totals

variable {params : EvaluateOpportunitySellParams}

theorem sum_filterMap {α β : Type} (f : β → ℚ) (g : α → Option β) (es : List α) :
    ((es.filterMap g).map f).sum = (es.map fun e => (g e).elim 0 f).sum := by
  induction es with
  | nil => rfl
  | cons e es ih =>
    rw [List.map_cons, List.sum_cons, ← ih]
    cases hg : g e with
    | none => rw [List.filterMap_cons_none hg]; exact (zero_add _).symm
    | some => rw [List.filterMap_cons_some hg, List.map_cons, List.sum_cons]; rfl

theorem saleValue_eq {coinId : CoinId} {position : MergedPosition}
    (hget : params.positions.get? coinId = some position) :
    (((evaluatePosition params (coinId, position)).filter (·.eligible)).elim 0 fun scored =>
      max 0 (worth params scored)) = saleValue params coinId position := by
  cases hsco : (evaluatePosition params (coinId, position)).filter (·.eligible) with
  | some =>
    obtain ⟨_, h, rfl⟩ := eligible_iff.mp (Option.filter_eq_some_iff.mp hsco)
    unfold saleValue worth
    rw [h.priced, Option.elim_some, Option.elim_some, if_pos h, heldAt_score hget h]
  | none =>
    unfold saleValue
    cases hprice : params.currentPrices.get? coinId with
    | none => rfl
    | some price =>
      rw [Option.elim_some, if_neg, Option.elim_none]
      intro h
      rw [Option.filter_eq_some_iff.mpr (eligible_iff.mpr ⟨price, h, rfl⟩)] at hsco
      cases hsco

theorem sum_worth : ((sortedEligible params).map fun scored => max 0 (worth params scored)).sum =
    eligibleValue params := by
  unfold sortedEligible evaluatePositions eligibleValue OrdMap.sumBy
  rw [((List.perm_insertionSort _ _).map _).sum_eq, List.filter_filterMap, sum_filterMap]
  refine congrArg List.sum (List.map_congr_left fun e he => ?_)
  exact saleValue_eq (OrdMap.get?_eq_some_iff.mpr he)

theorem eligibleValue_nonneg : 0 ≤ eligibleValue params := by
  rw [← sum_worth]
  refine List.sum_nonneg fun y hy => ?_
  obtain ⟨_, -, rfl⟩ := List.mem_map.mp hy
  exact le_max_left _ _

def taken (params : EvaluateOpportunitySellParams) : List (PositionSellScore × ℚ) :=
  Greedy.take (worth params) (min params.shortfall params.maxSellValue) (sortedEligible params)

theorem planSales_eq : planSales params =
    SaleProgress.add params { remainingShortfall := params.shortfall } (taken params) := by
  unfold planSales taken
  rw [planSale_foldl (List.Subset.refl _), SaleProgress.budget, sub_zero]

theorem sum_taken : ((taken params).map Prod.snd).sum =
    min (max 0 (min params.shortfall params.maxSellValue)) (eligibleValue params) := by
  rw [taken, Greedy.sum_take, sum_worth]

theorem totalSellValue_planSales : (planSales params).totalSellValue =
    min (max 0 (min params.shortfall params.maxSellValue)) (eligibleValue params) := by
  rw [planSales_eq, ← sum_taken]
  exact zero_add _

theorem remainingShortfall_planSales : (planSales params).remainingShortfall =
    params.shortfall - (planSales params).totalSellValue := by
  rw [planSales_eq]
  show params.shortfall - _ = params.shortfall - (0 + _)
  rw [zero_add]

theorem sellOrders_planSales :
    (planSales params).sellOrders = (taken params).map (orderOf params) := by
  rw [planSales_eq]
  exact List.nil_append _

end Totals

/-! ## The decision -/

/-- **What a plan promises.** A shortfall or cap below nothing counts as nothing. -/
structure SoundPlan (params : EvaluateOpportunitySellParams) (plan : OpportunitySellPlan) : Prop where
  within_shortfall :
    (plan.sellOrders.map fun o => o.quantity * o.currentPrice).sum ≤ max 0 params.shortfall
  within_cap :
    (plan.sellOrders.map fun o => o.quantity * o.currentPrice).sum ≤ max 0 (liquidationCap params)
  held : ∀ o ∈ plan.sellOrders, ∃ position, params.positions.get? o.coinId = some position ∧
    Eligible params o.coinId position o.currentPrice ∧ 0 < o.quantity ∧
    o.quantity ≤ position.quantity ∧ o.score = params.score o.coinId position o.currentPrice
  once : (plan.sellOrders.map (·.coinId)).Nodup
  ordered : plan.sellOrders.Pairwise fun o o' => o.score.totalScore ≤ o'.score.totalScore
  whole : ∀ o ∈ plan.sellOrders, ∀ coinId position currentPrice,
    params.positions.get? coinId = some position → Eligible params coinId position currentPrice →
    0 < position.quantity →
    (params.score coinId position currentPrice).totalScore < o.score.totalScore →
    ∃ o' ∈ plan.sellOrders, o'.coinId = coinId ∧ o'.quantity = position.quantity
  approved : plan.decision = .approved ↔ params.enabled = true ∧
    params.config.minOpportunityConfidence ≤ params.buySignalConfidence ∧
    (params.shortfall ≤ 0 ∨ params.shortfall ≤ min (liquidationCap params) (eligibleValue params))

section Decision

variable {params : EvaluateOpportunitySellParams}

theorem liquidationCap_of_nonneg (h : 0 ≤ params.config.maxLiquidationPercent) :
    liquidationCap params = params.maxSellValue := by
  rw [liquidationCap, max_eq_right h, EvaluateOpportunitySellParams.maxSellValue]

theorem liquidationCap_of_neg (h : params.config.maxLiquidationPercent < 0) :
    liquidationCap params = 0 := by
  rw [liquidationCap, max_eq_left h.le, mul_zero, zero_div]

theorem liquidationPercent_le_iff {total : ℚ} (htotal : 0 ≤ total)
    (hcap : total ≤ max 0 params.maxSellValue) :
    liquidationPercent params total ≤ params.config.maxLiquidationPercent ↔
      0 ≤ params.config.maxLiquidationPercent := by
  unfold liquidationPercent
  split_ifs with hvalue
  · constructor
    · exact (mul_nonneg (div_nonneg htotal hvalue.le) (by norm_num)).trans
    · intro hpct
      have hmax : 0 ≤ params.maxSellValue := div_nonneg (mul_nonneg hvalue.le hpct) (by norm_num)
      rw [max_eq_right hmax, EvaluateOpportunitySellParams.maxSellValue,
        le_div_iff₀ (by norm_num)] at hcap
      rw [div_mul_eq_mul_div, div_le_iff₀ hvalue, mul_comm params.config.maxLiquidationPercent]
      exact hcap
  · exact Iff.rfl

theorem totalSellValue_bounds : 0 ≤ (planSales params).totalSellValue ∧
    (planSales params).totalSellValue ≤ max 0 params.shortfall ∧
    (planSales params).totalSellValue ≤ max 0 params.maxSellValue := by
  rw [totalSellValue_planSales]
  exact ⟨le_min (le_max_left _ _) eligibleValue_nonneg,
    (min_le_left _ _).trans (max_le_max_left 0 (min_le_left _ _)),
    (min_le_left _ _).trans (max_le_max_left 0 (min_le_right _ _))⟩

theorem sortedEligible_ne_nil (h : 0 < eligibleValue params) : sortedEligible params ≠ [] := by
  intro hnil
  rw [← sum_worth, hnil] at h
  exact absurd h (lt_irrefl _)

theorem covers_iff (hshort : 0 < params.shortfall) :
    sortedEligible params ≠ [] ∧
        liquidationPercent params (planSales params).totalSellValue ≤
          params.config.maxLiquidationPercent ∧
        (planSales params).remainingShortfall ≤ 0 ↔
      params.shortfall ≤ min (liquidationCap params) (eligibleValue params) := by
  rw [liquidationPercent_le_iff totalSellValue_bounds.1 totalSellValue_bounds.2.2,
    remainingShortfall_planSales, sub_nonpos, totalSellValue_planSales, le_min_iff, le_min_iff,
    le_max_iff, or_iff_right (not_le.mpr hshort), le_min_iff]
  constructor
  · rintro ⟨-, hpct, ⟨-, hcap⟩, hvalue⟩
    exact ⟨(liquidationCap_of_nonneg hpct).symm ▸ hcap, hvalue⟩
  · rintro ⟨hcap, hvalue⟩
    have hpct : 0 ≤ params.config.maxLiquidationPercent := by
      by_contra hneg
      rw [liquidationCap_of_neg (not_le.mp hneg)] at hcap
      exact absurd hcap (not_le.mpr hshort)
    exact ⟨sortedEligible_ne_nil (hshort.trans_le hvalue), hpct,
      ⟨le_rfl, liquidationCap_of_nonneg hpct ▸ hcap⟩, hvalue⟩

theorem concludePlan_approved {progress : SaleProgress} :
    (concludePlan params progress).decision = .approved ↔
      liquidationPercent params progress.totalSellValue ≤ params.config.maxLiquidationPercent ∧
        progress.remainingShortfall ≤ 0 := by
  unfold concludePlan
  dsimp only
  split_ifs with hpct hrem
  · exact ⟨(fun h => by cases h), fun h => absurd hpct (not_lt.mpr h.1)⟩
  · exact ⟨(fun h => by cases h), fun h => absurd hrem (not_lt.mpr h.2)⟩
  · exact ⟨fun _ => ⟨not_lt.mp hpct, not_lt.mp hrem⟩, fun _ => rfl⟩

theorem decision_approved : (evaluateOpportunitySell params).decision = .approved ↔
    params.enabled = true ∧
    params.config.minOpportunityConfidence ≤ params.buySignalConfidence ∧
    (params.shortfall ≤ 0 ∨
      params.shortfall ≤ min (liquidationCap params) (eligibleValue params)) := by
  unfold evaluateOpportunitySell
  split_ifs with hen hconf hshort hnone
  · exact ⟨(fun h => by cases h), fun h => absurd h.1 (hen ▸ Bool.false_ne_true)⟩
  · exact ⟨(fun h => by cases h), fun h => absurd hconf (not_lt.mpr h.2.1)⟩
  · exact ⟨fun _ => ⟨Bool.of_not_eq_false hen, not_lt.mp hconf, Or.inl hshort⟩, fun _ => rfl⟩
  · refine ⟨(fun h => by cases h), fun h => ?_⟩
    have hcovers := (covers_iff (not_le.mp hshort)).mpr (h.2.2.resolve_left hshort)
    exact absurd (List.isEmpty_iff.mp hnone) hcovers.1
  · rw [concludePlan_approved, ← covers_iff (not_le.mp hshort)]
    constructor
    · exact fun h => ⟨Bool.of_not_eq_false hen, not_lt.mp hconf,
        Or.inr ⟨fun hnil => hnone (List.isEmpty_iff.mpr hnil), h⟩⟩
    · exact fun h => (h.2.2.resolve_left hshort).2

theorem sellOrders_cases : (evaluateOpportunitySell params).sellOrders = [] ∨
    (evaluateOpportunitySell params).sellOrders = (taken params).map (orderOf params) ∧
      0 ≤ params.config.maxLiquidationPercent := by
  unfold evaluateOpportunitySell
  split_ifs with hen hconf hshort hnone
  · exact .inl rfl
  · exact .inl rfl
  · exact .inl rfl
  · exact .inl rfl
  · unfold concludePlan
    dsimp only
    split_ifs with hpct
    · exact .inl rfl
    all_goals
      refine .inr ⟨sellOrders_planSales, ?_⟩
      exact (liquidationPercent_le_iff totalSellValue_bounds.1 totalSellValue_bounds.2.2).mp
        (not_lt.mp hpct)

/-! ## Soundness -/

variable {x : PositionSellScore × ℚ}

theorem orderOf_spec (hx : x ∈ taken params) :
    ∃ position, params.positions.get? x.1.coinId = some position ∧
      Eligible params x.1.coinId position (orderOf params x).currentPrice ∧
      x.1 = params.score x.1.coinId position (orderOf params x).currentPrice ∧
      0 < (orderOf params x).quantity ∧ (orderOf params x).quantity ≤ position.quantity ∧
      (orderOf params x).quantity * (orderOf params x).currentPrice = x.2 := by
  obtain ⟨hmem, hpos, hle⟩ := Greedy.mem_take hx
  obtain ⟨_, _⟩ := x
  obtain ⟨_, position, _, hget, h, rfl⟩ := mem_sortedEligible.mp hmem
  have hheld := heldAt_score hget h
  dsimp only [orderOf] at hle ⊢
  rw [worth, hheld] at hle
  rw [hheld]
  exact ⟨position, hget, h, rfl, div_pos hpos h.price_pos, (div_le_iff₀ h.price_pos).mpr hle,
    div_mul_cancel₀ _ h.price_pos.ne'⟩

theorem value_taken : (((taken params).map (orderOf params)).map fun o =>
    o.quantity * o.currentPrice).sum = (planSales params).totalSellValue := by
  rw [totalSellValue_planSales, ← sum_taken, List.map_map]
  refine congrArg List.sum (List.map_congr_left fun x hx => ?_)
  obtain ⟨-, -, -, -, -, -, hvalue⟩ := orderOf_spec hx
  exact hvalue

theorem sortedEligible_pairwise :
    (sortedEligible params).Pairwise fun a b => a.totalScore ≤ b.totalScore :=
  List.pairwise_insertionSort _ _

theorem sortedEligible_nodup : ((sortedEligible params).map (·.coinId)).Nodup := by
  unfold sortedEligible evaluatePositions
  rw [((List.perm_insertionSort _ _).map _).nodup_iff, List.filter_filterMap]
  refine params.positions.nodup_filterMap fun e scored h => ?_
  obtain ⟨_, _⟩ := e
  obtain ⟨-, -, rfl⟩ := eligible_iff.mp (Option.filter_eq_some_iff.mp h)
  rfl

theorem taken_whole (hx : x ∈ taken params) {coinId : CoinId} {position : MergedPosition}
    {price : ℚ} (hget : params.positions.get? coinId = some position)
    (h : Eligible params coinId position price) (hqty : 0 < position.quantity)
    (hscore : (params.score coinId position price).totalScore < x.1.totalScore) :
    ∃ y ∈ taken params, (orderOf params y).coinId = coinId ∧
      (orderOf params y).quantity = position.quantity := by
  have hheld := heldAt_score hget h
  have hworth : worth params (params.score coinId position price) = position.quantity * price := by
    rw [worth, hheld]
  have hmem : params.score coinId position price ∈ sortedEligible params :=
    mem_sortedEligible.mpr ⟨coinId, position, price, hget, h, rfl⟩
  have hpos : 0 < worth params (params.score coinId position price) := by
    rw [hworth]
    exact mul_pos hqty h.price_pos
  have hwhole := Greedy.take_whole (r := fun a b : PositionSellScore => a.totalScore ≤ b.totalScore)
    (fun a => le_rfl) sortedEligible_pairwise hx hmem (not_le.mpr hscore) hpos
  refine ⟨_, hwhole, rfl, ?_⟩
  show worth params _ / (heldAt params _).2 = _
  rw [hworth, hheld, mul_div_cancel_right₀ _ h.price_pos.ne']

/-- **The plan of an evaluation is sound**, and it is approved whenever the gates of the feature let
it through and what is short can be covered. -/
theorem evaluateOpportunitySell_sound (params : EvaluateOpportunitySellParams) :
    SoundPlan params (evaluateOpportunitySell params) := by
  obtain horders | ⟨horders, hpercent⟩ := @sellOrders_cases params
  · constructor
    case approved => exact decision_approved
    all_goals simp [horders]
  · obtain ⟨-, hshort, hcap⟩ := @totalSellValue_bounds params
    have hsorted : ((taken params).map Prod.fst).Sublist (sortedEligible params) :=
      Greedy.take_sublist
    refine ⟨?_, ?_, ?_, ?_, ?_, ?_, decision_approved⟩ <;> rw [horders]
    · rw [value_taken]
      exact hshort
    · rw [value_taken, liquidationCap_of_nonneg hpercent]
      exact hcap
    · intro o ho
      obtain ⟨x, hx, rfl⟩ := List.mem_map.mp ho
      obtain ⟨position, hget, h, hscore, hpos, hle, -⟩ := orderOf_spec hx
      exact ⟨position, hget, h, hpos, hle, hscore⟩
    · rw [List.map_map]
      have hcoins := sortedEligible_nodup.sublist (hsorted.map (·.coinId))
      rwa [List.map_map] at hcoins
    · have hpairwise := (@sortedEligible_pairwise params).sublist hsorted
      rw [List.pairwise_map] at hpairwise ⊢
      exact hpairwise
    · intro o ho coinId position price hget h hquantity hscore
      obtain ⟨x, hx, rfl⟩ := List.mem_map.mp ho
      obtain ⟨y, hy, hcoin, hwhole⟩ := taken_whole hx hget h hquantity hscore
      exact ⟨_, List.mem_map_of_mem hy, hcoin, hwhole⟩

end Decision

def disabledParams : EvaluateOpportunitySellParams where
  buySignalCoinId := "BTC"
  buySignalConfidence := 9 / 10
  requiredBuyAmount := 160
  availableCash := 100
  portfolioValue := 250
  config := {}
  enabled := false
  now := 180000000
  positions := OrdMap.ofEntries [("ADA", ⟨20, 15, some 0, []⟩)]
  currentPrices := OrdMap.ofEntries [("BTC", 1000), ("ADA", 10)]

/-- **A shortfall that could be covered is not covered for a user who has not asked for it.** -/
theorem coverable_not_approved :
    ¬ ∀ params : EvaluateOpportunitySellParams,
      (evaluateOpportunitySell params).decision = .approved ↔
        params.shortfall ≤ min (liquidationCap params) (eligibleValue params) := by
  intro h
  have hcoverable : disabledParams.shortfall ≤
      min (liquidationCap disabledParams) (eligibleValue disabledParams) := by
    decide +kernel
  have hrejected : (evaluateOpportunitySell disabledParams).decision = .rejectedDisabled := by
    decide +kernel
  rw [(h disabledParams).mpr hcoverable] at hrejected
  cases hrejected

/-! ## The orders that are executed -/

section Executed

variable {params : EvaluateOpportunitySellParams}

def candidateOf (params : EvaluateOpportunitySellParams) (scored : PositionSellScore) :
    SellCandidate where
  coinId := scored.coinId
  score := scored.totalScore
  quantity := (heldAt params scored).1
  price := (heldAt params scored).2

def OpportunitySellOrder.toLive (order : OpportunitySellOrder) : LiveSellOrder where
  coinId := order.coinId
  quantity := order.quantity
  currentPrice := order.currentPrice

def SaleProgress.toPlan (progress : SaleProgress) : PlanProgress where
  remainingShortfall := progress.remainingShortfall
  totalSellValue := progress.totalSellValue
  sellOrders := progress.sellOrders.map (·.toLive)

theorem scorePosition_eq (hrank : params.algoRankings = none) {coinId : CoinId}
    {position : MergedPosition} (hget : params.positions.get? coinId = some position) :
    scorePosition params.toOpportunityRequest params.currentPrices (coinId, position) =
      ((evaluatePosition params (coinId, position)).filter (·.eligible)).map
        (candidateOf params) := by
  unfold scorePosition evaluatePosition
  dsimp only
  by_cases hbuy : coinId = params.buySignalCoinId
  · rw [if_pos (Or.inl hbuy), if_pos hbuy]
    rfl
  rw [if_neg hbuy]
  by_cases hprot : coinId ∈ params.config.protectedCoins
  · rw [if_pos (Or.inr hprot), if_pos hprot]
    rfl
  rw [if_neg hprot, if_neg (not_or.mpr ⟨hbuy, hprot⟩)]
  cases hprice : (params.currentPrices.get? coinId).filter (0 < ·) with
  | none => rfl
  | some price =>
    obtain ⟨hpriced, hpos⟩ := Option.filter_eq_some_iff.mp hprice
    rw [Option.bind_some, Option.map_some, Option.filter_some]
    by_cases helig : (params.score coinId position price).eligible = true
    · obtain ⟨hold, hgain⟩ := score_eligible.mp helig
      have h : Eligible params coinId position price :=
        ⟨hbuy, hprot, hpriced, of_decide_eq_true hpos, hold, hgain⟩
      rw [if_pos helig, Option.map_some, candidateOf, heldAt_score hget h]
      refine (if_pos helig).trans (congrArg some ?_)
      have htotal : (params.score coinId position price).totalScore = _ := if_pos helig
      rw [htotal, hrank]
      show SellCandidate.mk _ _ _ _ = SellCandidate.mk coinId (_ + (0 : ℚ)) position.quantity price
      rw [add_zero]
      rfl
    · rw [if_neg helig]
      exact if_neg helig

theorem scoreMergedPositions_eq (hrank : params.algoRankings = none) :
    scoreMergedPositions params.toOpportunityRequest params.positions params.currentPrices =
      (sortedEligible params).map (candidateOf params) := by
  unfold scoreMergedPositions sortedEligible evaluatePositions
  rw [List.map_insertionSort (fun a b : PositionSellScore => a.totalScore ≤ b.totalScore)
      (fun a b : SellCandidate => a.score ≤ b.score) (candidateOf params) _
      (fun _ _ _ _ => Iff.rfl), List.filter_filterMap, List.map_filterMap]
  refine congrArg _ (List.filterMap_congr fun e he => ?_)
  exact scorePosition_eq hrank (OrdMap.get?_eq_some_iff.mpr he)

theorem planSellOrder_eq {scored : PositionSellScore} (hsco : scored ∈ sortedEligible params)
    (progress : SaleProgress) :
    planSellOrder params.maxSellValue progress.toPlan (candidateOf params scored) =
      (planSale params progress scored).toPlan := by
  obtain ⟨coinId, position, price, hget, h, rfl⟩ := mem_sortedEligible.mp hsco
  have htruthy : Js.truthy? (params.currentPrices.get? coinId) = some price :=
    Js.truthy?_eq_some.mpr ⟨h.priced, h.price_pos.ne'⟩
  have hcoin : (params.score coinId position price).coinId = coinId := rfl
  obtain ⟨remaining, total, orders⟩ := progress
  have hstart : SaleProgress.toPlan ⟨remaining, total, orders⟩ =
      ⟨remaining, total, orders.map (·.toLive)⟩ := rfl
  unfold planSellOrder planSale candidateOf
  rw [heldAt_score hget h, hcoin, hget, htruthy, hstart]
  dsimp only
  by_cases hdone : remaining ≤ 0 ∨ params.maxSellValue ≤ total
  · rw [if_pos hdone, ← hstart]
    split_ifs
    · rfl
    · rfl
    · tauto
    · tauto
  · obtain ⟨hshort, hcap⟩ := not_or.mp hdone
    rw [if_neg hdone, if_neg hshort, if_neg hcap]
    split_ifs
    · rfl
    · simp only [SaleProgress.toPlan, List.map_append, List.map_cons, List.map_nil]
      rfl

theorem planSellOrder_foldl {scored : List PositionSellScore}
    (h : scored ⊆ sortedEligible params) (progress : SaleProgress) :
    (scored.map (candidateOf params)).foldl (planSellOrder params.maxSellValue) progress.toPlan =
      (scored.foldl (planSale params) progress).toPlan := by
  induction scored generalizing progress with
  | nil => rfl
  | cons c scored ih =>
    obtain ⟨hc, hrest⟩ := List.cons_subset.mp h
    rw [List.map_cons, List.foldl_cons, List.foldl_cons, planSellOrder_eq hc, ih hrest]

theorem evaluateOpportunitySell_gates (hrank : params.algoRankings = none) :
    Chansey.evaluateOpportunitySell params.toOpportunityRequest params.positions
        params.currentPrices =
      if params.enabled = false then none
      else if params.buySignalConfidence < params.config.minOpportunityConfidence then none
      else if params.shortfall ≤ 0 then some []
      else if sortedEligible params = [] then none
      else if params.config.maxLiquidationPercent <
        liquidationPercent params (planSales params).totalSellValue then none
      else if 0 < (planSales params).remainingShortfall then none
      else some ((planSales params).sellOrders.map (·.toLive)) := by
  have hplan : (scoreMergedPositions params.toOpportunityRequest params.positions
      params.currentPrices).foldl (planSellOrder params.maxSellValue)
        { remainingShortfall := params.shortfall } = (planSales params).toPlan := by
    rw [scoreMergedPositions_eq hrank]
    exact planSellOrder_foldl (List.Subset.refl _) { remainingShortfall := params.shortfall }
  unfold EvaluateOpportunitySellParams.maxSellValue EvaluateOpportunitySellParams.shortfall at hplan
  unfold Chansey.evaluateOpportunitySell
  dsimp only
  rw [hplan, scoreMergedPositions_eq hrank]
  simp only [List.map_eq_nil_iff]
  rfl

theorem evaluateOpportunitySell_orders (hrank : params.algoRankings = none) :
    Chansey.evaluateOpportunitySell params.toOpportunityRequest params.positions
        params.currentPrices =
      if (evaluateOpportunitySell params).decision = .approved then
        some ((evaluateOpportunitySell params).sellOrders.map (·.toLive))
      else none := by
  rw [evaluateOpportunitySell_gates hrank]
  unfold evaluateOpportunitySell
  simp only [List.isEmpty_iff]
  by_cases hen : params.enabled = false
  · rw [if_pos hen, if_pos hen]
    rfl
  rw [if_neg hen, if_neg hen]
  by_cases hconf : params.buySignalConfidence < params.config.minOpportunityConfidence
  · rw [if_pos hconf, if_pos hconf]
    rfl
  rw [if_neg hconf, if_neg hconf]
  by_cases hshort : params.shortfall ≤ 0
  · rw [if_pos hshort, if_pos hshort]
    rfl
  rw [if_neg hshort, if_neg hshort]
  by_cases hnone : sortedEligible params = []
  · rw [if_pos hnone, if_pos hnone]
    rfl
  rw [if_neg hnone, if_neg hnone]
  unfold concludePlan
  dsimp only
  by_cases hpct : params.config.maxLiquidationPercent <
      liquidationPercent params (planSales params).totalSellValue
  · rw [if_pos hpct, if_pos hpct]
    rfl
  rw [if_neg hpct, if_neg hpct]
  by_cases hrem : 0 < (planSales params).remainingShortfall
  · rw [if_pos hrem, if_pos hrem]
    rfl
  · rw [if_neg hrem, if_neg hrem]
    rfl

theorem sellOrders_of_shortfall (hshort : params.shortfall ≤ 0) :
    (evaluateOpportunitySell params).sellOrders = [] := by
  unfold evaluateOpportunitySell
  split_ifs <;> rfl

end Executed

/-! ## What a live call sells -/

section Live

variable {call : OpportunityCall} {orders : List LiveSellOrder}

/-- The evaluation that is recorded for a call. -/
def recorded (call : OpportunityCall) : EvaluateOpportunitySellParams where
  buySignalCoinId := extractCoinIdFromSymbol call.buySymbol
  buySignalConfidence := call.buyConfidence.getD (7 / 10)
  requiredBuyAmount := call.requiredBuyAmount
  availableCash := call.availableCash
  portfolioValue := call.availableCash +
    (mergePositions call.positions).sumBy fun coinId pos =>
      pos.quantity * (call.priceMap.get? coinId).getD 0
  config := call.config
  enabled := call.enabled
  now := call.now
  positions := mergePositions call.positions
  currentPrices := call.priceMap

theorem approved_eq (h : call.approved = some orders) :
    (evaluateOpportunitySell (recorded call)).decision = .approved ∧
      (evaluateOpportunitySell (recorded call)).sellOrders.map (·.toLive) = orders ∧
      orders ≠ [] := by
  unfold OpportunityCall.approved at h
  split_ifs at h
  obtain ⟨heval, hne⟩ := Option.filter_eq_some_iff.mp h
  change Chansey.evaluateOpportunitySell (recorded call).toOpportunityRequest
    (recorded call).positions (recorded call).currentPrices = some orders at heval
  rw [evaluateOpportunitySell_orders rfl] at heval
  split_ifs at heval with happ
  exact ⟨happ, Option.some.inj heval, of_decide_eq_true hne⟩

/-- **The sales of a live call raise exactly what is short, within the liquidation cap.** Each coin is
sold once, for a price it has, out of what is held long of it; neither the coin to be bought nor a
protected one is sold. -/
theorem approved_sound (call : OpportunityCall) (orders : List LiveSellOrder)
    (h : call.approved = some orders) :
    (orders.map fun o => o.quantity * o.currentPrice).sum =
        call.requiredBuyAmount - call.availableCash ∧
      call.requiredBuyAmount - call.availableCash ≤
        (recorded call).portfolioValue * call.config.maxLiquidationPercent / 100 ∧
      (orders.map (·.coinId)).Nodup ∧
      ∀ o ∈ orders, o.coinId ≠ extractCoinIdFromSymbol call.buySymbol ∧
        o.coinId ∉ call.config.protectedCoins ∧
        call.priceMap.get? o.coinId = some o.currentPrice ∧ 0 < o.currentPrice ∧ 0 < o.quantity ∧
        ∃ position, (mergePositions call.positions).get? o.coinId = some position ∧
          o.quantity ≤ position.quantity := by
  obtain ⟨happ, rfl, hne⟩ := approved_eq h
  have hshort : 0 < (recorded call).shortfall := by
    by_contra hcovered
    exact hne (List.map_eq_nil_iff.mpr (sellOrders_of_shortfall (not_lt.mp hcovered)))
  have hfits := (decision_approved.mp happ).2.2.resolve_left (not_le.mpr hshort)
  obtain hnone | ⟨htaken, hpct⟩ := @sellOrders_cases (recorded call)
  · rw [hnone] at hne
    exact absurd rfl hne
  rw [liquidationCap_of_nonneg hpct, le_min_iff] at hfits
  have hvalue := @value_taken (recorded call)
  rw [totalSellValue_planSales, min_eq_left hfits.1, max_eq_right hshort.le,
    min_eq_left hfits.2] at hvalue
  have hlive : (evaluateOpportunitySell (recorded call)).sellOrders.map (·.toLive) =
      (taken (recorded call)).map fun x => (orderOf (recorded call) x).toLive := by
    rw [htaken, List.map_map]
    rfl
  rw [hlive]
  refine ⟨?_, hfits.1, ?_, fun o ho => ?_⟩
  · rw [List.map_map] at hvalue ⊢
    exact hvalue
  · have hsorted : ((taken (recorded call)).map Prod.fst).Sublist (sortedEligible (recorded call)) :=
      Greedy.take_sublist
    have hcoins := sortedEligible_nodup.sublist (hsorted.map (·.coinId))
    rw [List.map_map] at hcoins ⊢
    exact hcoins
  · obtain ⟨x, hx, rfl⟩ := List.mem_map.mp ho
    obtain ⟨position, hget, helig, -, hpos, hle, -⟩ := orderOf_spec hx
    exact ⟨helig.other, helig.unprotected, helig.priced, helig.price_pos, hpos, position, hget, hle⟩

def shortOfCash : OpportunityCall where
  buySymbol := "BTC/USDT"
  buyConfidence := some (9 / 10)
  strategyConfigId := "s"
  compositeRegime := .bull
  positions := [⟨"s", "ADA/USDT", .long, 20, 15, some 0⟩, ⟨"t", "ADA/USDT", .long, 10, 15, some 0⟩]
  marketData := [⟨"ADA/USDT", 10⟩]
  requiredBuyAmount := 160
  availableCash := 100
  config := {}
  enabled := true
  now := 180000000

theorem approved_sound_shortOfCash : shortOfCash.approved = some [⟨"ADA", 6, 10⟩] ∧
    6 * 10 ≤ (recorded shortOfCash).portfolioValue *
      shortOfCash.config.maxLiquidationPercent / 100 := by
  have happ : shortOfCash.approved = some [⟨"ADA", 6, 10⟩] := by decide +kernel
  obtain ⟨hraised, hcap, -⟩ := approved_sound shortOfCash _ happ
  exact ⟨happ, hcap.trans' (hraised.symm.trans (by simp)).ge⟩

end Live

end Opportunity

end Chansey
