import Chansey.Live.PositionTracking
import Chansey.Live.StrategyExecutor
import Chansey.Loop.OpportunitySell

/-!
# Opportunity selling in live trading

When a buy lacks cash, positions of the user are sold one after the other. The positions of all
strategies are merged by coin, and what is sold of a coin is taken from the rows it was merged from.
-/

namespace Chansey

/-! ## Positions by coin -/

def extractCoinIdFromSymbol (symbol : String) : CoinId :=
  String.ofList (symbol.toList.takeWhile (· ≠ '/'))

structure LivePosition where
  strategyConfigId : String
  symbol : String
  positionSide : PositionSide
  quantity : ℚ
  avgEntryPrice : ℚ
  createdAt : Option Instant := none

structure SourcePosition where
  strategyConfigId : String
  quantity : ℚ
  symbol : String

structure MergedPosition where
  averagePrice : ℚ
  quantity : ℚ
  entryDate : Option Instant
  sourcePositions : List SourcePosition

def sourceOf (pos : LivePosition) : SourcePosition :=
  ⟨pos.strategyConfigId, pos.quantity, pos.symbol⟩

def earlierOf (entryDate createdAt : Option Instant) : Option Instant :=
  match createdAt, entryDate with
  | some created, some entry => some (min created entry)
  | some created, none => some created
  | none, entry => entry

def mergePosition (positionsMap : OrdMap CoinId MergedPosition) (pos : LivePosition) :
    OrdMap CoinId MergedPosition :=
  let coinId := extractCoinIdFromSymbol pos.symbol
  positionsMap.set coinId
    (match positionsMap.get? coinId with
    | some existing =>
      let totalQty := existing.quantity + pos.quantity
      { averagePrice := (existing.averagePrice * existing.quantity +
          pos.avgEntryPrice * pos.quantity) / totalQty
        quantity := totalQty
        entryDate := earlierOf existing.entryDate pos.createdAt
        sourcePositions := existing.sourcePositions ++ [sourceOf pos] }
    | none =>
      { averagePrice := pos.avgEntryPrice
        quantity := pos.quantity
        entryDate := pos.createdAt
        sourcePositions := [sourceOf pos] })

/-- Short positions are not sold. -/
def mergePositions (positions : List LivePosition) : OrdMap CoinId MergedPosition :=
  (positions.filter (·.positionSide = .long)).foldl mergePosition OrdMap.empty

/-! ## The plan -/

structure LiveSellOrder where
  coinId : CoinId
  quantity : ℚ
  currentPrice : ℚ
  deriving DecidableEq

structure PlanProgress where
  remainingShortfall : ℚ
  totalSellValue : ℚ := 0
  sellOrders : List LiveSellOrder := []

structure OpportunityRequest where
  buySignalCoinId : CoinId
  buySignalConfidence : ℚ
  requiredBuyAmount : ℚ
  availableCash : ℚ
  portfolioValue : ℚ
  config : OpportunitySellingUserConfig
  enabled : Bool
  now : Instant

/-- A position that may be sold, none when it is protected, unpriced, too new or too far ahead. -/
def scorePosition (request : OpportunityRequest) (currentPrices : OrdMap CoinId ℚ)
    (entry : CoinId × MergedPosition) : Option SellCandidate :=
  if entry.1 = request.buySignalCoinId ∨ entry.1 ∈ request.config.protectedCoins then none
  else
    ((currentPrices.get? entry.1).filter (0 < ·)).bind fun currentPrice =>
      let score := calculatePositionSellScore
        { quantity := entry.2.quantity
          averagePrice := entry.2.averagePrice
          totalValue := 0
          entryDate := entry.2.entryDate }
        currentPrice request.buySignalConfidence request.config request.now
      if score.eligible then some ⟨entry.1, score.totalScore, entry.2.quantity, currentPrice⟩
      else none

def scoreMergedPositions (request : OpportunityRequest) (positions : OrdMap CoinId MergedPosition)
    (currentPrices : OrdMap CoinId ℚ) : List SellCandidate :=
  (positions.entries.filterMap (scorePosition request currentPrices)).insertionSort
    fun a b => a.score ≤ b.score

/-- Enough to cover what is short, but no more than is held and may be liquidated. -/
def planSellOrder (maxSellValue : ℚ) (progress : PlanProgress) (scored : SellCandidate) :
    PlanProgress :=
  if progress.remainingShortfall ≤ 0 ∨ maxSellValue ≤ progress.totalSellValue then progress
  else
    let maxSellByShortfall := progress.remainingShortfall / scored.price
    let maxSellByLiquidation := (maxSellValue - progress.totalSellValue) / scored.price
    let quantityToSell := min scored.quantity (min maxSellByShortfall maxSellByLiquidation)
    if quantityToSell ≤ 0 then progress
    else
      let estimatedProceeds := quantityToSell * scored.price
      { remainingShortfall := progress.remainingShortfall - estimatedProceeds
        totalSellValue := progress.totalSellValue + estimatedProceeds
        sellOrders := progress.sellOrders ++ [⟨scored.coinId, quantityToSell, scored.price⟩] }

/-- The orders of an approved plan, none when it is rejected. -/
def evaluateOpportunitySell (request : OpportunityRequest)
    (positions : OrdMap CoinId MergedPosition) (currentPrices : OrdMap CoinId ℚ) :
    Option (List LiveSellOrder) :=
  let shortfall := request.requiredBuyAmount - request.availableCash
  let eligible := scoreMergedPositions request positions currentPrices
  let maxSellValue := request.portfolioValue * request.config.maxLiquidationPercent / 100
  let plan := eligible.foldl (planSellOrder maxSellValue) { remainingShortfall := shortfall }
  let liquidationPercent :=
    if 0 < request.portfolioValue then plan.totalSellValue / request.portfolioValue * 100 else 0
  if request.enabled = false then none
  else if request.buySignalConfidence < request.config.minOpportunityConfidence then none
  else if shortfall ≤ 0 then some []
  else if eligible = [] then none
  else if request.config.maxLiquidationPercent < liquidationPercent then none
  else if 0 < plan.remainingShortfall then none
  else some plan.sellOrders

/-! ## The sales -/

/-- The rows of the user's long positions, by strategy and symbol. -/
abbrev PositionRows := OrdMap (String × String) UserStrategyPosition

inductive CooldownAnswer where
  | claimed
  /-- Redis does not answer, and the trade goes through without a claim. -/
  | failedOpen
  | blocked
  deriving DecidableEq

/-- How the calls of one sale end. `updates`: which of its position updates go through. -/
structure SaleFate where
  exchangeKey : Bool := true
  cooldown : CooldownAnswer := .claimed
  placed : Bool := true
  updates : ℕ → Bool := fun _ => true

/-- A decrement of a row that held `held`. -/
structure Decrement where
  strategyConfigId : String
  symbol : String
  quantity : ℚ
  held : ℚ

structure SellingState where
  rows : PositionRows
  /-- The symbols whose sales are on cooldown. -/
  claims : String → Bool
  executedSells : List (String × ℚ) := []
  remainingQtyByCoin : OrdMap CoinId (OrdMap String ℚ) := OrdMap.empty
  decrements : List Decrement := []

structure Booking where
  rows : PositionRows
  decrements : List Decrement
  remainingQty : OrdMap String ℚ
  remainingSellQty : ℚ
  calls : ℕ := 0
  failed : Bool := false

def heldQuantity (rows : PositionRows) (strategyConfigId symbol : String) : ℚ :=
  (rows.get? (strategyConfigId, symbol)).elim 0 (·.quantity)

def bookDecrement (sellSymbol : String) (price : ℚ) (updates : ℕ → Bool) (booking : Booking)
    (strategyConfigId : String) (quantity : ℚ) : Booking :=
  if updates booking.calls then
    { booking with
      rows := booking.rows.set (strategyConfigId, sellSymbol)
        (updatePosition .long { quantity, price, side := .sell }
          (booking.rows.get? (strategyConfigId, sellSymbol)))
      decrements := booking.decrements ++ [{
        strategyConfigId
        symbol := sellSymbol
        quantity
        held := heldQuantity booking.rows strategyConfigId sellSymbol }]
      calls := booking.calls + 1 }
  else { booking with failed := true }

def bookSource (sellSymbol : String) (price : ℚ) (updates : ℕ → Bool) (booking : Booking)
    (srcPos : SourcePosition) : Booking :=
  if booking.failed ∨ booking.remainingSellQty ≤ 0 then booking
  else
    let available := (booking.remainingQty.get? srcPos.strategyConfigId).getD 0
    let decrementQty := min available booking.remainingSellQty
    let booked := bookDecrement sellSymbol price updates booking srcPos.strategyConfigId decrementQty
    if booked.failed then booked
    else
      { booked with
        remainingQty := booking.remainingQty.set srcPos.strategyConfigId (available - decrementQty)
        remainingSellQty := booking.remainingSellQty - decrementQty }

def bookSources (sellSymbol primaryStrategyConfigId : String) (sellOrder : LiveSellOrder)
    (updates : ℕ → Bool) (coinSourcePositions : List SourcePosition) (booking : Booking) :
    Booking :=
  if coinSourcePositions = [] then
    bookDecrement sellSymbol sellOrder.currentPrice updates booking primaryStrategyConfigId
      sellOrder.quantity
  else coinSourcePositions.foldl (bookSource sellSymbol sellOrder.currentPrice updates) booking

def clearCooldown (claims : String → Bool) (symbol : String) : String → Bool :=
  Function.update claims symbol false

structure SellingContext where
  strategyConfigId : String
  positionsMap : OrdMap CoinId MergedPosition
  marketData : List PairPrice

def findSymbolForCoinId (coinId : CoinId) (marketData : List PairPrice) : Option String :=
  (marketData.find? fun m => extractCoinIdFromSymbol m.symbol = coinId).map (·.symbol)

inductive SaleOutcome where
  | executed (state : SellingState)
  | aborted (state : SellingState)

def bookPlacedSale (context : SellingContext) (sellSymbol : String) (sellOrder : LiveSellOrder)
    (updates : ℕ → Bool) (state : SellingState) : SaleOutcome :=
  let coinSourcePositions :=
    ((context.positionsMap.get? sellOrder.coinId).map (·.sourcePositions)).getD []
  let primaryStrategyConfigId :=
    (coinSourcePositions.head?.map (·.strategyConfigId)).getD context.strategyConfigId
  let remainingQty := (state.remainingQtyByCoin.get? sellOrder.coinId).getD
    (OrdMap.ofEntries (coinSourcePositions.map fun sp => (sp.strategyConfigId, sp.quantity)))
  let booking := bookSources sellSymbol primaryStrategyConfigId sellOrder updates
    coinSourcePositions
    { rows := state.rows
      decrements := state.decrements
      remainingQty := remainingQty
      remainingSellQty := sellOrder.quantity }
  let booked :=
    { state with
      rows := booking.rows
      decrements := booking.decrements
      executedSells := state.executedSells ++ [(sellSymbol, sellOrder.quantity)]
      remainingQtyByCoin := state.remainingQtyByCoin.set sellOrder.coinId booking.remainingQty }
  if booking.failed then .aborted { booked with claims := clearCooldown state.claims sellSymbol }
  else .executed booked

def executeSale (context : SellingContext) (state : SellingState) (sellOrder : LiveSellOrder)
    (fate : SaleFate) : SaleOutcome :=
  match findSymbolForCoinId sellOrder.coinId context.marketData with
  | none => .aborted state
  | some sellSymbol =>
    if fate.exchangeKey = false then .aborted state
    else if fate.cooldown = .blocked then .aborted state
    else if fate.placed = false then
      .aborted { state with claims := clearCooldown state.claims sellSymbol }
    else
      bookPlacedSale context sellSymbol sellOrder fate.updates
        { state with
          claims := if fate.cooldown = .claimed then Function.update state.claims sellSymbol true
            else state.claims }

/-- When a sequence is aborted the cooldowns of the sales that went through are cleared. -/
def cleanupOrphanedSells (state : SellingState) : SellingState :=
  { state with
    claims := state.executedSells.foldl (fun claims sell => clearCooldown claims sell.1)
      state.claims }

def executeSells (context : SellingContext) (state : SellingState) :
    List (LiveSellOrder × SaleFate) → SellingState × Bool
  | [] => (state, true)
  | (sellOrder, fate) :: rest =>
    match executeSale context state sellOrder fate with
    | .executed state' => executeSells context state' rest
    | .aborted state' => (cleanupOrphanedSells state', false)

structure OpportunityCall where
  buySymbol : String
  buyConfidence : Option ℚ
  strategyConfigId : String
  compositeRegime : CompositeRegimeType
  positions : List LivePosition
  marketData : List PairPrice
  requiredBuyAmount : ℚ
  availableCash : ℚ
  config : OpportunitySellingUserConfig
  enabled : Bool
  now : Instant

def OpportunityCall.context (call : OpportunityCall) : SellingContext where
  strategyConfigId := call.strategyConfigId
  positionsMap := mergePositions call.positions
  marketData := call.marketData

def OpportunityCall.priceMap (call : OpportunityCall) : OrdMap CoinId ℚ :=
  OrdMap.ofEntries (call.marketData.map fun md => (extractCoinIdFromSymbol md.symbol, md.price))

/-- The orders of the approved plan, none when there is no plan or nothing to sell. The market data
are the fresh ones where there are any. -/
def OpportunityCall.approved (call : OpportunityCall) : Option (List LiveSellOrder) :=
  if call.compositeRegime = .extreme ∨ call.compositeRegime = .bear then none
  else
    (evaluateOpportunitySell
      { buySignalCoinId := extractCoinIdFromSymbol call.buySymbol
        buySignalConfidence := call.buyConfidence.getD (7 / 10)
        requiredBuyAmount := call.requiredBuyAmount
        availableCash := call.availableCash
        portfolioValue := call.availableCash +
          (mergePositions call.positions).sumBy fun coinId pos =>
            pos.quantity * (call.priceMap.get? coinId).getD 0
        config := call.config
        enabled := call.enabled
        now := call.now }
      (mergePositions call.positions) call.priceMap).filter (· ≠ [])

end Chansey
