import Chansey.Lib.Result
import Chansey.Paper.Account

/-!
# The paper order executor

One order is executed in one transaction on the accounts. Slippage comes from the order book, when
there is one. Everything but a `BUY` is sold.

* `calculateBuyQuantity`, `calculateSellQuantity`: the size of an order;
  **`calculateSellQuantity_le_held`**.
-/

namespace Chansey.Paper

open Result

/-! ## Slippage -/

structure OrderBookLevel where
  price : ℚ
  quantity : ℚ
  price_pos : 0 < price
  quantity_pos : 0 < quantity

/-- The levels of one side as the exchange sends them: price and quantity. -/
def readLevels (raw : List (ℚ × ℚ)) : List OrderBookLevel :=
  raw.filterMap fun l => if h : 0 < l.1 ∧ 0 < l.2 then some ⟨l.1, l.2, h.1, h.2⟩ else none

structure RawOrderBook where
  bids : List (ℚ × ℚ) := []
  asks : List (ℚ × ℚ) := []

structure RealisticSlippageResult where
  estimatedPrice : ℚ
  slippageBps : ℚ
  marketImpact : ℚ

structure BookFill where
  remainingQuantity : ℚ
  totalCost : ℚ := 0
  levelsFilled : ℕ := 0

def takeLevel (fill : BookFill) (level : OrderBookLevel) : BookFill :=
  if fill.remainingQuantity ≤ 0 then fill
  else
    let fillQuantity := min fill.remainingQuantity level.quantity
    { remainingQuantity := fill.remainingQuantity - fillQuantity
      totalCost := fill.totalCost + fillQuantity * level.price
      levelsFilled := fill.levelsFilled + 1 }

/-- A book that cannot be read counts as an empty one. -/
def calculateRealisticSlippage (book : Option RawOrderBook) (quantity : ℚ)
    (side : PaperTradingOrderSide) : RealisticSlippageResult :=
  let levels := readLevels <| book.elim [] fun b =>
    match side with
    | .buy => b.asks
    | .sell => b.bids
  match levels with
  | [] => ⟨0, 10, 0⟩
  | best :: _ =>
    let fill := levels.foldl takeLevel { remainingQuantity := quantity }
    let filledQuantity := quantity - fill.remainingQuantity
    if filledQuantity = 0 then ⟨best.price, 50, 0⟩
    else
      let avgPrice := fill.totalCost / filledQuantity
      let marketImpact : ℚ := min (fill.levelsFilled * 2) 50
      ⟨avgPrice, |(avgPrice - best.price) / best.price * 10000| + marketImpact, marketImpact⟩

def executionPrice (basePrice : ℚ) (side : PaperTradingOrderSide)
    (slippage : RealisticSlippageResult) : ℚ :=
  let direction : ℚ :=
    match side with
    | .buy => 1
    | .sell => -1
  (Js.truthy? (some slippage.estimatedPrice)).getD
    (basePrice * (1 + direction * slippage.slippageBps / 10000))

theorem foldl_takeLevel_cost (quantity : ℚ) (levels : List OrderBookLevel) (fill : BookFill)
    (h : quantity - fill.remainingQuantity = 0 ∧ fill.totalCost = 0 ∨
      0 < quantity - fill.remainingQuantity ∧ 0 < fill.totalCost) :
    let final := levels.foldl takeLevel fill
    quantity - final.remainingQuantity = 0 ∧ final.totalCost = 0 ∨
      0 < quantity - final.remainingQuantity ∧ 0 < final.totalCost := by
  induction levels generalizing fill with
  | nil => exact h
  | cons level levels ih =>
    apply ih
    unfold takeLevel
    split_ifs with hdone
    · exact h
    · have hfill : 0 < min fill.remainingQuantity level.quantity :=
        lt_min (not_le.mp hdone) level.quantity_pos
      have hcost := mul_pos hfill level.price_pos
      refine .inr ⟨?_, ?_⟩ <;> dsimp only <;> rcases h with ⟨h, h'⟩ | ⟨h, h'⟩ <;> linarith

theorem calculateRealisticSlippage_price (book : Option RawOrderBook) (quantity : ℚ)
    (side : PaperTradingOrderSide) :
    let slippage := calculateRealisticSlippage book quantity side
    slippage.estimatedPrice = 0 ∧ slippage.slippageBps = 10 ∨ 0 < slippage.estimatedPrice := by
  simp only [calculateRealisticSlippage]
  generalize readLevels _ = levels
  cases levels with
  | nil => exact .inl ⟨rfl, rfl⟩
  | cons best rest =>
    dsimp only
    split_ifs with hfld
    · exact .inr best.price_pos
    · rcases foldl_takeLevel_cost quantity (best :: rest)
        { remainingQuantity := quantity } (Or.inl ⟨sub_self quantity, rfl⟩) with h | h
      · exact absurd h.1 hfld
      · exact .inr (div_pos h.2 h.1)

theorem executionPrice_pos {basePrice : ℚ} (hbase : 0 < basePrice) (book : Option RawOrderBook)
    (quantity : ℚ) (side : PaperTradingOrderSide) :
    0 < executionPrice basePrice side (calculateRealisticSlippage book quantity side) := by
  unfold executionPrice
  rcases calculateRealisticSlippage_price book quantity side with ⟨hprice, hbps⟩ | hprice
  · rw [hprice, hbps, Js.truthy?_some, if_pos rfl]
    cases side <;> exact mul_pos hbase (by norm_num)
  · rw [Js.truthy?_some, if_neg hprice.ne']
    exact hprice

/-! ## Orders -/

inductive ExecuteOrderStatus where
  | success | insufficientFunds | noPrice | noPosition | holdPeriod | deploymentCap
  deriving DecidableEq

structure ExecuteOrderResult where
  status : ExecuteOrderStatus
  order : Option PaperTradingOrder

/-- What an order is executed from, and what the order book and the database answer to it. -/
structure ExecuteOrderContext where
  signal : TradingSignal
  symbol : String
  portfolio : Portfolio
  prices : Prices
  timestamp : Instant
  allocation : AllocationLimits
  exitType : Option ExitType := none
  orderBook : Option RawOrderBook := none
  /-- What the database answers to the transaction. One that fails is rolled back. -/
  commit : Except LoopError Unit := .ok ()

structure OrderArgs where
  baseCurrency : String
  basePrice : ℚ
  executionPrice : ℚ
  slippageBps : ℚ
  quoteAccount : PaperTradingAccount
  baseAccount : Option PaperTradingAccount

def calculateBuyQuantity (signal : TradingSignal) (portfolio : Portfolio) (executionPrice : ℚ)
    (allocation : AllocationLimits) : ℚ :=
  match Js.truthy? signal.quantity, Js.truthy? signal.percentage, signal.confidence with
  | some quantity, _, _ =>
    let maxQuantity := portfolio.totalValue * allocation.maxAllocation / executionPrice
    if maxQuantity < quantity then maxQuantity else quantity
  | none, some percentage, _ =>
    portfolio.totalValue * min percentage allocation.maxAllocation / executionPrice
  | none, none, some confidence =>
    let alloc := allocation.minAllocation +
      confidence * (allocation.maxAllocation - allocation.minAllocation)
    portfolio.totalValue * alloc / executionPrice
  | none, none, none => portfolio.totalValue * allocation.minAllocation / executionPrice

def calculateSellQuantity (signal : TradingSignal) (heldQty : ℚ) : ℚ :=
  match Js.truthy? signal.quantity, Js.truthy? signal.percentage, signal.confidence with
  | some quantity, _, _ => min quantity heldQty
  | none, some percentage, _ => heldQty * min percentage 1
  | none, none, some confidence => heldQty * min (max confidence 0) 1
  | none, none, none => heldQty

theorem calculateSellQuantity_le_held (signal : TradingSignal) {heldQty : ℚ} (h : 0 ≤ heldQty) :
    calculateSellQuantity signal heldQty ≤ heldQty := by
  unfold calculateSellQuantity
  split
  · exact min_le_right _ _
  · exact mul_le_of_le_one_right h (min_le_right _ _)
  · exact mul_le_of_le_one_right h (min_le_right _ _)
  · exact le_rfl

def filledOrder (quote : String) (ctx : ExecuteOrderContext) (args : OrderArgs)
    (side : PaperTradingOrderSide) (quantity totalValue fee : ℚ) : PaperTradingOrder where
  side := side
  symbol := ctx.symbol
  baseCurrency := args.baseCurrency
  quoteCurrency := quote
  requestedQuantity := quantity
  filledQuantity := quantity
  executedPrice := args.executionPrice
  averagePrice := args.executionPrice
  slippageBps := args.slippageBps
  fee := fee
  feeAsset := quote
  totalValue := totalValue
  executedAt := ctx.timestamp
  exitType := ctx.exitType
  metadata :=
    { reason := ctx.signal.reason
      confidence := ctx.signal.confidence
      basePrice := args.basePrice }

def soldOrder (quote : String) (ctx : ExecuteOrderContext) (args : OrderArgs)
    (costBasis quantity totalValue fee : ℚ) : PaperTradingOrder :=
  let costBasisTotal := costBasis * quantity
  { filledOrder quote ctx args .sell quantity totalValue fee with
    realizedPnL := some ((args.executionPrice - costBasis) * quantity - fee)
    realizedPnLPercent := some <|
      if 0 < costBasisTotal then (totalValue - fee - costBasisTotal) / costBasisTotal else 0
    costBasis := some costBasis }

def deploymentRatio (portfolio : Portfolio) : ℚ :=
  if 0 < portfolio.totalValue then
    (portfolio.totalValue - portfolio.cashBalance) / portfolio.totalValue
  else 0

def boughtAccount (account : Option PaperTradingAccount) (quantity executionPrice : ℚ)
    (timestamp : Instant) : PaperTradingAccount :=
  let acct := account.getD { available := 0, entryDate := some timestamp }
  let oldQuantity := acct.available
  let newQuantity := oldQuantity + quantity
  { available := newQuantity
    averageCost :=
      if 0 < oldQuantity then
        some ((acct.averageCost.getD 0 * oldQuantity + executionPrice * quantity) / newQuantity)
      else some executionPrice
    entryDate := if acct.entryDate = none ∨ oldQuantity = 0 then some timestamp else acct.entryDate }

/-- Balances below this are emptied by a sale. -/
def DUST : ℚ := 1 / 100000000

/-- The base account after a sale. What is left of less than `DUST` is dropped; the cost and the
entry date become undefined then, and a save of undefined leaves what is stored. -/
def soldAccount (account : PaperTradingAccount) (quantity : ℚ) : PaperTradingAccount :=
  if account.available - quantity < DUST then { account with available := 0 }
  else { account with available := account.available - quantity }

def executeBuy (session : PaperTradingSession) (quote : String) (ctx : ExecuteOrderContext)
    (args : OrderArgs) (accounts : Accounts) :
    Except LoopError (ExecuteOrderResult × Accounts) := do
  if MAX_PORTFOLIO_DEPLOYMENT ≤ deploymentRatio ctx.portfolio then
    return (⟨.deploymentCap, none⟩, accounts)
  let quantity := calculateBuyQuantity ctx.signal ctx.portfolio args.executionPrice ctx.allocation
  let totalValue := quantity * args.executionPrice
  let fee ← flatFee totalValue session.tradingFee
  let totalCost := totalValue + fee
  if args.quoteAccount.available < totalCost then
    return (⟨.insufficientFunds, none⟩, accounts)
  let quoteAccount :=
    { args.quoteAccount with available := args.quoteAccount.available - totalCost }
  -- the base row is saved after the quote row and wins if they are one
  return (⟨.success, some (filledOrder quote ctx args .buy quantity totalValue fee)⟩,
    (accounts.set quote quoteAccount).set args.baseCurrency
      (boughtAccount args.baseAccount quantity args.executionPrice ctx.timestamp))

/-- A position is kept for a while unless its exit is risk control. -/
def underHoldPeriod (session : PaperTradingSession) (ctx : ExecuteOrderContext)
    (account : PaperTradingAccount) : Bool :=
  let minHoldMs := resolveMinHoldMs session
  ¬ isRiskControlSignal ctx.signal ∧ 0 < minHoldMs ∧
    account.entryDate.any fun entryDate => ((ctx.timestamp - entryDate : ℤ) : ℚ) < minHoldMs

def executeSell (session : PaperTradingSession) (quote : String)
    (ctx : ExecuteOrderContext) (args : OrderArgs) (accounts : Accounts) :
    Except LoopError (ExecuteOrderResult × Accounts) := do
  match args.baseAccount.filter (0 < ·.available) with
  | none => return (⟨.noPosition, none⟩, accounts)
  | some baseAccount =>
    if underHoldPeriod session ctx baseAccount then return (⟨.holdPeriod, none⟩, accounts)
    let costBasis := baseAccount.averageCost.getD 0
    let quantity := calculateSellQuantity ctx.signal baseAccount.available
    let totalValue := quantity * args.executionPrice
    let fee ← flatFee totalValue session.tradingFee
    let quoteAccount :=
      { args.quoteAccount with available := args.quoteAccount.available + (totalValue - fee) }
    return (⟨.success, some (soldOrder quote ctx args costBasis quantity totalValue fee)⟩,
      (accounts.set args.baseCurrency (soldAccount baseAccount quantity)).set quote
        quoteAccount)

def orderSide (signal : TradingSignal) : PaperTradingOrderSide :=
  if signal.action = .buy then .buy else .sell

/-- The slippage is estimated for the quantity asked for, else for a tenth of the portfolio. -/
def orderSlippage (ctx : ExecuteOrderContext) (basePrice : ℚ) : RealisticSlippageResult :=
  calculateRealisticSlippage ctx.orderBook
    (ctx.signal.quantity.getD (ctx.portfolio.totalValue * (1 / 10) / basePrice))
    (orderSide ctx.signal)

def execute (session : PaperTradingSession) (quote : String) (ctx : ExecuteOrderContext)
    (accounts : Accounts) : Except LoopError (ExecuteOrderResult × Accounts) :=
  match Js.truthy? (ctx.prices.get? ctx.symbol) with
  | none => .ok (⟨.noPrice, none⟩, accounts)
  | some basePrice =>
    let slippage := orderSlippage ctx basePrice
    match accounts.get? quote with
    | none => .error (.error ("Quote currency account (" ++ quote ++ ") not found"))
    | some quoteAccount => do
      ctx.commit
      let args : OrderArgs :=
        { baseCurrency := baseCurrency ctx.symbol
          basePrice := basePrice
          executionPrice := executionPrice basePrice (orderSide ctx.signal) slippage
          slippageBps := slippage.slippageBps
          quoteAccount := quoteAccount
          baseAccount := accounts.get? (baseCurrency ctx.symbol) }
      if ctx.signal.action = .buy then executeBuy session quote ctx args accounts
      else executeSell session quote ctx args accounts

/-! ## What an order does -/

section Cases

variable (session : PaperTradingSession) (quote : String) (ctx : ExecuteOrderContext)

structure Executed (order : PaperTradingOrder) : Prop where
  side : order.side = orderSide ctx.signal
  base : order.baseCurrency = baseCurrency ctx.symbol
  price : ∃ basePrice, basePrice ≠ 0 ∧ ctx.prices.get? ctx.symbol = some basePrice ∧
    order.executedPrice =
      executionPrice basePrice (orderSide ctx.signal) (orderSlippage ctx basePrice)
  value : order.totalValue = order.filledQuantity * order.executedPrice
  fee : order.fee = order.totalValue * session.tradingFee
  value_nonneg : 0 ≤ order.totalValue
  rate_nonneg : 0 ≤ session.tradingFee

/-- A buy: the quote account pays value and fee, the base account takes the quantity. -/
structure Bought (accounts after : Accounts) (order : PaperTradingOrder) : Prop
    extends Executed session ctx order where
  action : ctx.signal.action = .buy
  quantity : order.filledQuantity =
    calculateBuyQuantity ctx.signal ctx.portfolio order.executedPrice ctx.allocation
  realizedPnL : order.realizedPnL = none
  accounts_eq : ∃ quoteAccount, accounts.get? quote = some quoteAccount ∧
    order.totalValue + order.fee ≤ quoteAccount.available ∧
    after = (accounts.set quote
      { quoteAccount with
        available := quoteAccount.available - (order.totalValue + order.fee) }).set
        (baseCurrency ctx.symbol)
        (boughtAccount (accounts.get? (baseCurrency ctx.symbol)) order.filledQuantity
          order.executedPrice ctx.timestamp)

/-- A sale out of `account`: the quote account takes value less fee. -/
structure Sold (accounts after : Accounts) (order : PaperTradingOrder)
    (account : PaperTradingAccount) : Prop extends Executed session ctx order where
  action : ctx.signal.action ≠ .buy
  held : accounts.get? (baseCurrency ctx.symbol) = some account
  held_pos : 0 < account.available
  quantity : order.filledQuantity = calculateSellQuantity ctx.signal account.available
  costBasis : order.costBasis = some (account.averageCost.getD 0)
  realizedPnL : order.realizedPnL = some
    ((order.executedPrice - account.averageCost.getD 0) * order.filledQuantity - order.fee)
  accounts_eq : ∃ quoteAccount, accounts.get? quote = some quoteAccount ∧
    after = (accounts.set (baseCurrency ctx.symbol)
      (soldAccount account order.filledQuantity)).set quote
        { quoteAccount with
          available := quoteAccount.available + (order.totalValue - order.fee) }

variable {session quote ctx} {accounts after : Accounts} {result : ExecuteOrderResult}

variable {args : OrderArgs}

theorem executeBuy_cases
    (h : executeBuy session quote ctx args accounts = .ok (result, after)) :
    (result.status ≠ .success ∧ result.order = none ∧ after = accounts) ∨
      let quantity :=
        calculateBuyQuantity ctx.signal ctx.portfolio args.executionPrice ctx.allocation
      let totalValue := quantity * args.executionPrice
      ∃ fee, flatFee totalValue session.tradingFee = .ok fee ∧
        totalValue + fee ≤ args.quoteAccount.available ∧
        result = ⟨.success, some (filledOrder quote ctx args .buy quantity totalValue fee)⟩ ∧
        after = (accounts.set quote
          { args.quoteAccount with
            available := args.quoteAccount.available - (totalValue + fee) }).set
            args.baseCurrency
            (boughtAccount args.baseAccount quantity args.executionPrice ctx.timestamp) := by
  unfold executeBuy at h
  split_ifs at h
  · cases h
    exact .inl ⟨by simp, rfl, rfl⟩
  obtain ⟨fee, hfee, h⟩ := bind_eq_ok.mp h
  dsimp only at h
  split_ifs at h with hfunds
  · cases h
    exact .inl ⟨by simp, rfl, rfl⟩
  · cases h
    exact .inr ⟨fee, hfee, not_lt.mp hfunds, rfl, rfl⟩

theorem executeSell_cases
    (h : executeSell session quote ctx args accounts = .ok (result, after)) :
    (result.status ≠ .success ∧ result.order = none ∧ after = accounts) ∨
      ∃ account fee, args.baseAccount = some account ∧ 0 < account.available ∧
        let costBasis := account.averageCost.getD 0
        let quantity := calculateSellQuantity ctx.signal account.available
        let totalValue := quantity * args.executionPrice
        flatFee totalValue session.tradingFee = .ok fee ∧
        result = ⟨.success, some (soldOrder quote ctx args costBasis quantity totalValue fee)⟩ ∧
        after = (accounts.set args.baseCurrency (soldAccount account quantity)).set quote
          { args.quoteAccount with
            available := args.quoteAccount.available + (totalValue - fee) } := by
  unfold executeSell at h
  split at h
  · cases h
    exact .inl ⟨by simp, rfl, rfl⟩
  rename_i account haccount
  obtain ⟨hheld, hpos⟩ := Option.filter_eq_some_iff.mp haccount
  dsimp only at h
  split_ifs at h
  · cases h
    exact .inl ⟨by simp, rfl, rfl⟩
  obtain ⟨fee, hfee, h⟩ := bind_eq_ok.mp h
  cases h
  exact .inr ⟨account, fee, hheld, by simpa using hpos, hfee, rfl, rfl⟩

theorem executeBuy_noPosition
    (h : executeBuy session quote ctx args accounts = .ok (result, after)) :
    result.status ≠ .noPosition := by
  unfold executeBuy at h
  split_ifs at h
  · cases h
    simp
  obtain ⟨_, _, h⟩ := bind_eq_ok.mp h
  dsimp only at h
  split_ifs at h <;> cases h <;> simp

theorem execute_cases (h : execute session quote ctx accounts = .ok (result, after)) :
    (result.status ≠ .success ∧ result.order = none ∧ after = accounts) ∨
      ∃ order, result = ⟨.success, some order⟩ ∧
        (Bought session quote ctx accounts after order ∨
          ∃ account, Sold session quote ctx accounts after order account) := by
  unfold execute at h
  split at h
  · cases h
    exact .inl ⟨by simp, rfl, rfl⟩
  rename_i basePrice hprice
  obtain ⟨hprice, hbase⟩ := Js.truthy?_eq_some.mp hprice
  split at h
  · cases h
  rename_i quoteAccount hquote
  obtain ⟨_, _, h⟩ := bind_eq_ok.mp h
  dsimp only at h
  split_ifs at h with hbuy
  · rcases executeBuy_cases h with h | ⟨fee, hfee, hfunds, rfl, rfl⟩
    · exact .inl h
    obtain ⟨hrate, hvalue, rfl⟩ := flatFee_eq_ok.mp hfee
    have hside : orderSide ctx.signal = .buy := if_pos hbuy
    refine .inr ⟨_, rfl, Or.inl ?_⟩
    exact
      { side := hside.symm
        base := rfl
        price := ⟨basePrice, hbase, hprice, rfl⟩
        value := rfl
        fee := rfl
        value_nonneg := hvalue
        rate_nonneg := hrate
        action := hbuy
        quantity := rfl
        realizedPnL := rfl
        accounts_eq := ⟨quoteAccount, hquote, hfunds, rfl⟩ }
  · rcases executeSell_cases h with h | ⟨account, fee, hheld, hpos, hfee, rfl, rfl⟩
    · exact .inl h
    obtain ⟨hrate, hvalue, rfl⟩ := flatFee_eq_ok.mp hfee
    have hside : orderSide ctx.signal = .sell := if_neg hbuy
    refine .inr ⟨_, rfl, Or.inr ⟨account, ?_⟩⟩
    exact
      { side := hside.symm
        base := rfl
        price := ⟨basePrice, hbase, hprice, rfl⟩
        value := rfl
        fee := rfl
        value_nonneg := hvalue
        rate_nonneg := hrate
        action := hbuy
        held := hheld
        held_pos := hpos
        quantity := rfl
        costBasis := rfl
        realizedPnL := rfl
        accounts_eq := ⟨quoteAccount, hquote, rfl⟩ }

theorem execute_noPosition (h : execute session quote ctx accounts = .ok (result, after))
    (hstat : result.status = .noPosition) : balance accounts (baseCurrency ctx.symbol) ≤ 0 := by
  unfold execute at h
  split at h
  · cases h
    cases hstat
  split at h
  · cases h
  obtain ⟨_, _, h⟩ := bind_eq_ok.mp h
  dsimp only at h
  split_ifs at h
  · exact absurd hstat (executeBuy_noPosition h)
  · unfold executeSell at h
    split at h
    · rename_i hnone
      cases hget : accounts.get? (baseCurrency ctx.symbol) with
      | none => simp [balance, hget]
      | some =>
        rw [hget] at hnone
        simpa [balance, hget, Option.filter_eq_none_iff] using hnone
    · dsimp only at h
      split_ifs at h
      · cases h
        cases hstat
      obtain ⟨fee, _, h⟩ := bind_eq_ok.mp h
      cases h
      cases hstat

end Cases

/-! ## When an order goes through -/

section GoesThrough

variable (session : PaperTradingSession) (quote : String) (ctx : ExecuteOrderContext)
  (accounts : Accounts)

/-- A buy needs a portfolio below the deployment cap and funds for its value and fee, a sale a
position past its hold period. Both need a price, the quote account and the commit. -/
def GoesThrough : Prop :=
  ∃ basePrice quoteAccount, Js.truthy? (ctx.prices.get? ctx.symbol) = some basePrice ∧
    accounts.get? quote = some quoteAccount ∧ ctx.commit = .ok () ∧
    0 ≤ session.tradingFee ∧
    let price := executionPrice basePrice (orderSide ctx.signal) (orderSlippage ctx basePrice)
    if ctx.signal.action = .buy then
      let totalValue := calculateBuyQuantity ctx.signal ctx.portfolio price ctx.allocation * price
      deploymentRatio ctx.portfolio < MAX_PORTFOLIO_DEPLOYMENT ∧ 0 ≤ totalValue ∧
        totalValue + totalValue * session.tradingFee ≤ quoteAccount.available
    else
      ∃ account, accounts.get? (baseCurrency ctx.symbol) = some account ∧ 0 < account.available ∧
        underHoldPeriod session ctx account = false ∧
        0 ≤ calculateSellQuantity ctx.signal account.available * price

variable {session quote ctx accounts}

theorem executeBuy_goes {args : OrderArgs}
    (hdep : deploymentRatio ctx.portfolio < MAX_PORTFOLIO_DEPLOYMENT)
    (hrate : 0 ≤ session.tradingFee)
    (hvalue : 0 ≤ calculateBuyQuantity ctx.signal ctx.portfolio args.executionPrice
      ctx.allocation * args.executionPrice)
    (hfunds : calculateBuyQuantity ctx.signal ctx.portfolio args.executionPrice ctx.allocation *
        args.executionPrice + calculateBuyQuantity ctx.signal ctx.portfolio args.executionPrice
          ctx.allocation * args.executionPrice * session.tradingFee ≤ args.quoteAccount.available) :
    ∃ order after, executeBuy session quote ctx args accounts =
      .ok (⟨.success, some order⟩, after) := by
  have hfee := flatFee_eq_ok.mpr ⟨hrate, hvalue, rfl⟩
  unfold executeBuy
  simp only [if_neg (not_le.mpr hdep), hfee, ok_bind, if_neg (not_lt.mpr hfunds)]
  exact ⟨_, _, rfl⟩

theorem executeSell_goes {args : OrderArgs} {account : PaperTradingAccount}
    (haccount : args.baseAccount = some account) (hpos : 0 < account.available)
    (hhold : underHoldPeriod session ctx account = false) (hrate : 0 ≤ session.tradingFee)
    (hvalue : 0 ≤ calculateSellQuantity ctx.signal account.available * args.executionPrice) :
    ∃ order after, executeSell session quote ctx args accounts =
      .ok (⟨.success, some order⟩, after) := by
  have hfee := flatFee_eq_ok.mpr ⟨hrate, hvalue, rfl⟩
  have hfil : args.baseAccount.filter (0 < ·.available) = some account := by
    simp [haccount, Option.filter, hpos]
  unfold executeSell
  simp only [hfil, hhold, hfee, ok_bind]
  exact ⟨_, _, rfl⟩

theorem goesThrough_iff : GoesThrough session quote ctx accounts ↔
    ∃ order after, execute session quote ctx accounts = .ok (⟨.success, some order⟩, after) := by
  constructor
  · rintro ⟨basePrice, quoteAccount, hprice, hquote, hcommit, hrate, h⟩
    unfold execute
    simp only [hprice, hquote, hcommit, ok_bind]
    dsimp only at h
    split_ifs at h ⊢ with hbuy
    · exact executeBuy_goes h.1 hrate h.2.1 h.2.2
    · obtain ⟨account, haccount, hpos, hhold, hvalue⟩ := h
      exact executeSell_goes haccount hpos hhold hrate hvalue
  · rintro ⟨order, after, h⟩
    unfold execute at h
    split at h
    · cases h
    rename_i basePrice hprice
    split at h
    · cases h
    rename_i quoteAccount hquote
    obtain ⟨_, hcommit, h⟩ := bind_eq_ok.mp h
    dsimp only at h
    split_ifs at h with hbuy
    · unfold executeBuy at h
      split_ifs at h with hdep
      · cases h
      obtain ⟨fee, hfee, h⟩ := bind_eq_ok.mp h
      obtain ⟨hrate, hvalue, rfl⟩ := flatFee_eq_ok.mp hfee
      dsimp only at h
      split_ifs at h with hfunds
      · cases h
      refine ⟨basePrice, quoteAccount, hprice, hquote, hcommit, hrate, ?_⟩
      dsimp only
      rw [if_pos hbuy]
      exact ⟨not_le.mp hdep, hvalue, not_lt.mp hfunds⟩
    · unfold executeSell at h
      split at h
      · cases h
      rename_i account haccount
      obtain ⟨hheld, hpos⟩ := Option.filter_eq_some_iff.mp haccount
      dsimp only at h
      split_ifs at h with hhold
      · cases h
      obtain ⟨fee, hfee, h⟩ := bind_eq_ok.mp h
      obtain ⟨hrate, hvalue, rfl⟩ := flatFee_eq_ok.mp hfee
      refine ⟨basePrice, quoteAccount, hprice, hquote, hcommit, hrate, ?_⟩
      dsimp only
      rw [if_neg hbuy]
      exact ⟨account, hheld, by simpa using hpos, Bool.eq_false_iff.mpr hhold, hvalue⟩

variable (session quote ctx accounts) in
def LacksFunds : Prop :=
  ∃ basePrice quoteAccount, Js.truthy? (ctx.prices.get? ctx.symbol) = some basePrice ∧
    accounts.get? quote = some quoteAccount ∧ ctx.commit = .ok () ∧
    0 ≤ session.tradingFee ∧ deploymentRatio ctx.portfolio < MAX_PORTFOLIO_DEPLOYMENT ∧
    let price := executionPrice basePrice (orderSide ctx.signal) (orderSlippage ctx basePrice)
    let totalValue := calculateBuyQuantity ctx.signal ctx.portfolio price ctx.allocation * price
    0 ≤ totalValue ∧ quoteAccount.available < totalValue + totalValue * session.tradingFee

end GoesThrough

end Chansey.Paper
