import Chansey.Exit.Tracker
import Chansey.Executor.Sizing
import Chansey.Loop.Throttle

/-!
# Accounts of a paper trading session

A session holds one account for each currency. Its portfolio is built from them: cash is the
account of the quote currency, every other account that is not empty is a position.
-/

namespace Chansey.Paper

/-! ## Rows -/

/-- A row of `paper_trading_accounts`, stored under its currency. `locked` is `0` in every row. -/
structure PaperTradingAccount where
  available : ℚ
  averageCost : Option ℚ := none
  entryDate : Option Instant := none

/-- A row as it is read again: its columns have eight decimals. -/
def PaperTradingAccount.stored (account : PaperTradingAccount) : PaperTradingAccount :=
  { account with
    available := Js.decimalColumn account.available 8
    averageCost := account.averageCost.map (Js.decimalColumn · 8) }

/-- `available + locked` -/
def PaperTradingAccount.total (account : PaperTradingAccount) : ℚ := account.available

abbrev Accounts := OrdMap String PaperTradingAccount

def storedAccounts (accounts : Accounts) : Accounts := accounts.map fun _ account => account.stored

def balance (accounts : Accounts) (currency : String) : ℚ :=
  (accounts.get? currency).elim 0 (·.available)

inductive PaperTradingOrderSide where
  | buy | sell
  deriving DecidableEq

structure OrderMetadata where
  reason : String
  confidence : Option ℚ
  basePrice : ℚ

/-- A row of `paper_trading_orders`. Every order is a filled market order. -/
structure PaperTradingOrder where
  side : PaperTradingOrderSide
  symbol : String
  baseCurrency : String
  quoteCurrency : String
  requestedQuantity : ℚ
  filledQuantity : ℚ
  executedPrice : ℚ
  averagePrice : ℚ
  slippageBps : ℚ
  fee : ℚ
  feeAsset : String
  totalValue : ℚ
  realizedPnL : Option ℚ := none
  realizedPnLPercent : Option ℚ := none
  costBasis : Option ℚ := none
  executedAt : Instant
  exitType : Option ExitType := none
  metadata : OrderMetadata

/-- `opportunitySellingConfig` of the algorithm configuration, before it is checked. -/
structure OpportunitySellingOptions where
  minOpportunityConfidence : Option ℚ := none
  minHoldingPeriodHours : Option ℚ := none
  protectGainsAbovePercent : Option ℚ := none
  protectedCoins : Option (List CoinId) := none
  maxLiquidationPercent : Option ℚ := none
  useAlgorithmRanking : Option Bool := none

/-- What the engine reads of a session and never writes. The fee is a share of the value. -/
structure PaperTradingSession where
  initialCapital : ℚ
  initialCapital_nonneg : 0 ≤ initialCapital
  tradingFee : ℚ
  tradingFee_le : tradingFee ≤ 1
  algorithmConfig : Metadata := OrdMap.empty
  /-- `algorithmConfig?.opportunitySellingConfig` -/
  opportunitySellingConfig : Option OpportunitySellingOptions := none
  riskLevel : Option ℤ := none
  exitConfig : Option PartialExitConfig := none

def resolveMinHoldMs (session : PaperTradingSession) : ℚ :=
  match (Metadata.number? session.algorithmConfig "minHoldMs").filter (0 ≤ ·) with
  | some val => val
  | none => getMinHoldMs (session.riskLevel.getD DEFAULT_RISK_LEVEL)

/-! ## Currencies and symbols -/

/-- `symbol.split('/')[0]` -/
def baseCurrency (symbol : String) : String :=
  String.ofList (symbol.toList.takeWhile (· ≠ '/'))

def pairSymbol (coinId quote : String) : String := coinId ++ "/" ++ quote

def IsCurrency (currency : String) : Prop := ∀ c ∈ currency.toList, c ≠ '/'

theorem baseCurrency_pairSymbol {coinId : String} (h : IsCurrency coinId)
    (quote : String) : baseCurrency (pairSymbol coinId quote) = coinId := by
  have htake : (coinId.toList ++ '/' :: quote.toList).takeWhile (· ≠ '/') =
      coinId.toList := by
    rw [List.takeWhile_append_of_pos (by simpa [IsCurrency] using h)]
    simp
  have hlist : (pairSymbol coinId quote).toList =
      coinId.toList ++ '/' :: quote.toList := by
    simp [pairSymbol, String.toList_append]
  rw [baseCurrency, hlist, htake, String.ofList_toList]

def QUOTE_CURRENCY_PRIORITY : List String :=
  ["USD", "EUR", "GBP", "USDT", "USDC", "BUSD", "DAI", "BTC", "ETH"]

/-- The first currency of the priority list that the session has an account for. -/
def getQuoteCurrency (currencies : List String) : String :=
  (QUOTE_CURRENCY_PRIORITY.find? (· ∈ currencies)).getD "USD"

/-! ## The portfolio service -/

abbrev Prices := OrdMap String ℚ

def buildFromAccounts (accounts : Accounts) (quote : String) : Portfolio where
  cashBalance := balance accounts quote
  positions := OrdMap.ofEntries <|
    (accounts.entries.filter fun e => e.1 ≠ quote ∧ 0 < e.2.total).map fun e =>
      (e.1, { quantity := e.2.total, averagePrice := e.2.averageCost.getD 0, totalValue := 0 })
  totalValue := balance accounts quote

def updateWithPrices (portfolio : Portfolio) (prices : Prices) (quote : String) :
    Portfolio :=
  let priced := portfolio.positions.map fun coinId position =>
    { position with
      totalValue :=
        position.quantity * (prices.get? (pairSymbol coinId quote)).getD 0 }
  { portfolio with
    positions := priced
    totalValue := portfolio.cashBalance + priced.sumBy fun _ position => position.totalValue }

def refresh (accounts : Accounts) (prices : Prices) (quote : String) : Portfolio :=
  updateWithPrices (buildFromAccounts accounts quote) prices quote

end Chansey.Paper
