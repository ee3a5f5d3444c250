import Chansey.Lib.Lots
import Chansey.Paper.Executor

/-!
# Paper accounts conserve money

The ledger of a session: its accounts after any sequence of orders, and a posting for every order
that was executed. A posting records the order, the dust that a sale dropped, and what was rounded:
an account is read from columns of eight decimals before every order.
-/

namespace Chansey.Paper

/-! ## Postings -/

structure Posting where
  order : PaperTradingOrder
  /-- The quantity that a sale left behind and the account dropped. -/
  dust : ℚ
  /-- What the account of the coin held before its row was rounded, and the cost in its row. -/
  held : ℚ
  cost : ℚ
  quoteRounding : ℚ
  baseRounding : ℚ
  costRounding : ℚ

def halfUnit : ℚ := 1 / (2 * 10 ^ 8)

namespace Posting

def quoteFlow (p : Posting) : ℚ :=
  match p.order.side with
  | .buy => -(p.order.totalValue + p.order.fee)
  | .sell => p.order.totalValue - p.order.fee

def baseFlow (p : Posting) : ℚ :=
  match p.order.side with
  | .buy => p.order.filledQuantity
  | .sell => -(p.order.filledQuantity + p.dust)

/-- What the cost of the holding takes: the value of a buy, fees aside, and the cost of what a sale
gives up. -/
def bookFlow (p : Posting) : ℚ :=
  match p.order.side with
  | .buy => p.order.totalValue
  | .sell => -(p.order.filledQuantity + p.dust) * p.order.costBasis.getD 0

def isBuy (p : Posting) : Bool := p.order.side = .buy

def isSell (p : Posting) : Bool := p.order.side = .sell

def bookRounding (p : Posting) : ℚ := p.baseRounding * p.cost + p.costRounding * p.held

/-- The profit in the row of the order. -/
def recordedPnL (p : Posting) : ℚ := Js.decimalColumn (p.order.realizedPnL.getD 0) 8

def profitRounding (p : Posting) : ℚ :=
  match p.order.side with
  | .buy => -p.bookRounding
  | .sell => p.recordedPnL - p.order.realizedPnL.getD 0 - p.bookRounding

/-- What is rounded of a quantity is rounded of all its lots alike. -/
def lots (held : Lots ℚ) (p : Posting) : Lots ℚ :=
  match p.order.side with
  | .buy => (held.buy p.order.filledQuantity p.order.executedPrice).sell (-p.baseRounding)
  | .sell => held.sell (p.order.filledQuantity + p.dust - p.baseRounding)

/-- An order rounds by no more than half a unit in a column. -/
structure Rounded (p : Posting) : Prop where
  quote : |p.quoteRounding| ≤ halfUnit
  base : |p.baseRounding| ≤ halfUnit
  cost : |p.costRounding| ≤ halfUnit
  profit : |p.profitRounding| ≤ halfUnit * (1 + |p.cost| + p.held)

end Posting

def ofCoin (postings : List Posting) (coin : String) : List Posting :=
  postings.filter (·.order.baseCurrency = coin)

def sumOf (select : Posting → Bool) (f : Posting → ℚ) (postings : List Posting) : ℚ :=
  ((postings.filter select).map f).sum

def heldLots (postings : List Posting) (coin : String) : Lots ℚ :=
  (ofCoin postings coin).foldl Posting.lots []

section Sums

variable (select : Posting → Bool) (f : Posting → ℚ) (postings : List Posting) (p : Posting)

@[simp] theorem sumOf_nil : sumOf select f [] = 0 := rfl

theorem sumOf_cons :
    sumOf select f (p :: postings) = (if select p then f p else 0) + sumOf select f postings := by
  unfold sumOf
  by_cases h : select p <;> simp [h]

theorem sum_eq_buys_add_sells :
    (postings.map f).sum = sumOf Posting.isBuy f postings + sumOf Posting.isSell f postings := by
  induction postings with
  | nil => simp [sumOf_nil]
  | cons p postings ih =>
    rw [sumOf_cons, sumOf_cons, List.map_cons, List.sum_cons, ih]
    cases hside : p.order.side <;> simp [Posting.isBuy, Posting.isSell, hside] <;> ring

theorem sumOf_congr {f g : Posting → ℚ} (h : ∀ p, select p → f p = g p) :
    sumOf select f postings = sumOf select g postings := by
  unfold sumOf
  rw [List.map_congr_left fun p hp => h p (List.mem_filter.mp hp).2]

theorem sumOf_neg : sumOf select (fun p => -f p) postings = -sumOf select f postings := by
  simp [sumOf, List.sum_neg, Function.comp_def]

end Sums

/-! ## The ledger of a session -/

structure Ledger where
  accounts : Accounts
  postings : List Posting := []

def droppedDust (accounts : Accounts) (order : PaperTradingOrder) : ℚ :=
  match order.side with
  | .buy => 0
  | .sell =>
    let remaining := balance accounts order.baseCurrency - order.filledQuantity
    if remaining < DUST then remaining else 0

def averageCost (accounts : Accounts) (coin : String) : Option ℚ :=
  (accounts.get? coin).bind (·.averageCost)

def bookValue (accounts : Accounts) (coin : String) : ℚ :=
  balance accounts coin * (averageCost accounts coin).getD 0

section Trade

variable (session : PaperTradingSession) (quoteCurrency : String)

def posting (before after : Accounts) (order : PaperTradingOrder) : Posting :=
  let coin := order.baseCurrency
  let cost := (averageCost (storedAccounts after) coin).getD 0
  { order
    dust := droppedDust before order
    held := balance after coin
    cost
    quoteRounding := balance (storedAccounts after) quoteCurrency - balance after quoteCurrency
    baseRounding := balance (storedAccounts after) coin - balance after coin
    costRounding := cost - (averageCost after coin).getD 0 }

def trade (ledger : Ledger) (ctx : ExecuteOrderContext) : Ledger :=
  match execute session quoteCurrency ctx ledger.accounts with
  | .ok (⟨_, some order⟩, after) =>
    { accounts := storedAccounts after
      postings := ledger.postings ++ [posting quoteCurrency ledger.accounts after order] }
  | _ => ledger

def tradeAll (ledger : Ledger) (ctxs : List ExecuteOrderContext) : Ledger :=
  ctxs.foldl (trade session quoteCurrency) ledger

end Trade

def openLedger (quoteCurrency : String) (initialCapital : ℚ) : Ledger where
  accounts := storedAccounts (OrdMap.empty.set quoteCurrency { available := initialCapital })

/-- An order of a coin other than the quote currency, at a market price that is not negative. -/
def Tradable (quoteCurrency : String) (ctx : ExecuteOrderContext) : Prop :=
  baseCurrency ctx.symbol ≠ quoteCurrency ∧ ∀ price ∈ ctx.prices.get? ctx.symbol, 0 ≤ price

/-! ## What one order moves -/

section Accounts

variable {account : Option PaperTradingAccount} {held : PaperTradingAccount} {quantity price : ℚ}
  {timestamp : Instant}

theorem boughtAccount_available :
    (boughtAccount account quantity price timestamp).available =
      account.elim 0 (·.available) + quantity := by
  cases account <;> rfl

theorem boughtAccount_book (hold : 0 ≤ account.elim 0 (·.available)) (hqty : 0 ≤ quantity) :
    (boughtAccount account quantity price timestamp).available *
        (boughtAccount account quantity price timestamp).averageCost.getD 0 =
      account.elim 0 (fun a => a.available * a.averageCost.getD 0) + quantity * price := by
  rw [boughtAccount_available]
  cases account with
  | none => simp [boughtAccount]
  | some account =>
    simp only [boughtAccount, Option.getD_some, Option.elim_some] at hold ⊢
    split_ifs with hpos
    · have hne : account.available + quantity ≠ 0 := by positivity
      rw [Option.getD_some, mul_div_cancel₀ _ hne]
      ring
    · have hzero : account.available = 0 := le_antisymm (not_lt.mp hpos) hold
      simp [hzero]

theorem soldAccount_available :
    (soldAccount held quantity).available =
      held.available - quantity -
        if held.available - quantity < DUST then held.available - quantity else 0 := by
  unfold soldAccount
  split_ifs <;> simp

theorem soldAccount_averageCost : (soldAccount held quantity).averageCost = held.averageCost := by
  unfold soldAccount
  split_ifs <;> rfl

end Accounts

structure Posts (quoteCurrency : String) (before after : Accounts) (p : Posting) : Prop where
  base_ne : p.order.baseCurrency ≠ quoteCurrency
  value : p.order.totalValue = p.order.filledQuantity * p.order.executedPrice
  quote : balance after quoteCurrency = balance before quoteCurrency + p.quoteFlow
  quote_nonneg : 0 ≤ balance after quoteCurrency
  bought : p.order.side = .buy → 0 ≤ p.order.filledQuantity
  base : balance after p.order.baseCurrency = balance before p.order.baseCurrency + p.baseFlow
  base_nonneg : 0 ≤ balance after p.order.baseCurrency
  book : bookValue after p.order.baseCurrency = bookValue before p.order.baseCurrency + p.bookFlow
  cost : p.order.side = .buy → (averageCost after p.order.baseCurrency).isSome
  dust_nonneg : 0 ≤ p.dust
  dust_lt : p.dust < DUST
  dropped : p.dust ≠ 0 → balance after p.order.baseCurrency = 0
  sale : p.order.side = .sell → 0 < balance before p.order.baseCurrency ∧
    p.order.costBasis = some ((averageCost before p.order.baseCurrency).getD 0) ∧
    averageCost after p.order.baseCurrency = averageCost before p.order.baseCurrency
  profit : p.order.side = .sell →
    p.order.realizedPnL.getD 0 = p.quoteFlow + p.bookFlow + p.dust * p.order.costBasis.getD 0
  other : ∀ currency, currency ≠ quoteCurrency → currency ≠ p.order.baseCurrency →
    after.get? currency = before.get? currency

theorem Posts.balance_other {quoteCurrency : String} {before after : Accounts} {p : Posting}
    (h : Posts quoteCurrency before after p) {currency : String} (hq : currency ≠ quoteCurrency)
    (hb : currency ≠ p.order.baseCurrency) : balance after currency = balance before currency := by
  rw [balance, h.other currency hq hb, balance]

section Step

variable {session : PaperTradingSession} {quoteCurrency : String} {ctx : ExecuteOrderContext}
  {before after : Accounts} {order : PaperTradingOrder}

theorem Executed.price_pos (h : Executed session ctx order)
    (hprs : ∀ price ∈ ctx.prices.get? ctx.symbol, 0 ≤ price) : 0 < order.executedPrice := by
  obtain ⟨basePrice, hne, hprice, heq⟩ := h.price
  rw [heq]
  exact executionPrice_pos (lt_of_le_of_ne (hprs basePrice hprice) hne.symm) _ _ _

theorem Executed.quantity_nonneg (h : Executed session ctx order)
    (hprs : ∀ price ∈ ctx.prices.get? ctx.symbol, 0 ≤ price) : 0 ≤ order.filledQuantity :=
  nonneg_of_mul_nonneg_left (h.value ▸ h.value_nonneg) (h.price_pos hprs)

theorem Executed.fee_le (h : Executed session ctx order) : order.fee ≤ order.totalValue := by
  rw [h.fee]
  exact mul_le_of_le_one_right h.value_nonneg session.tradingFee_le

variable {account : PaperTradingAccount} {p : Posting}

theorem balance_of_get? {accounts : Accounts} {currency : String}
    (h : accounts.get? currency = some account) :
    balance accounts currency = account.available := by
  rw [balance, h]
  rfl

theorem posts_bought (hdust : p.dust = droppedDust before p.order)
    (hnn : ∀ currency, 0 ≤ balance before currency)
    (htrade : Tradable quoteCurrency ctx)
    (h : Bought session quoteCurrency ctx before after p.order) :
    Posts quoteCurrency before after p := by
  obtain ⟨quoteAccount, hquote, hfunds, hafter⟩ := h.accounts_eq
  have hside : p.order.side = .buy := h.side.trans (if_pos h.action)
  have hbase := h.base
  have hne := htrade.1
  have hqty := h.quantity_nonneg htrade.2
  have hold := hnn (baseCurrency ctx.symbol)
  have hpaid : after.get? quoteCurrency = some
      { quoteAccount with
        available := quoteAccount.available - (p.order.totalValue + p.order.fee) } := by
    rw [hafter, OrdMap.get?_set_of_ne _ _ hne, OrdMap.get?_set_self]
  have htook : after.get? (baseCurrency ctx.symbol) = some
      (boughtAccount (before.get? (baseCurrency ctx.symbol)) p.order.filledQuantity
        p.order.executedPrice ctx.timestamp) := by
    rw [hafter, OrdMap.get?_set_self]
  have havailable : balance after (baseCurrency ctx.symbol) =
      balance before (baseCurrency ctx.symbol) + p.order.filledQuantity := by
    rw [balance_of_get? htook, boughtAccount_available, balance]
  have hdust : p.dust = 0 := by simp [hdust, droppedDust, hside]
  refine
    { base_ne := hbase.symm ▸ hne
      value := h.value
      quote := ?_
      quote_nonneg := ?_
      bought := fun _ => hqty
      base := ?_
      base_nonneg := ?_
      book := ?_
      cost := ?_
      dust_nonneg := hdust.ge
      dust_lt := hdust.trans_lt (by norm_num [DUST])
      dropped := fun hdrop => absurd hdust hdrop
      sale := fun hsell => absurd (hside.symm.trans hsell) (by decide)
      profit := fun hsell => absurd (hside.symm.trans hsell) (by decide)
      other := fun currency hq hb => ?_ }
  · rw [balance_of_get? hpaid, balance_of_get? hquote]
    simp only [Posting.quoteFlow, hside]
    ring
  · rw [balance_of_get? hpaid]
    exact sub_nonneg.mpr hfunds
  · simpa only [Posting.baseFlow, hside, hbase] using havailable
  · rw [hbase, havailable]
    positivity
  · simp only [Posting.bookFlow, hside, hbase]
    rw [bookValue, balance_of_get? htook, averageCost, htook, Option.bind_some,
      boughtAccount_book hold hqty, h.value]
    cases hget : before.get? (baseCurrency ctx.symbol) <;>
      simp [bookValue, balance, averageCost, hget]
  · intro _
    rw [hbase, averageCost, htook, Option.bind_some, boughtAccount]
    dsimp only
    split_ifs <;> rfl
  · rw [hafter, OrdMap.get?_set_of_ne _ _ (Ne.symm (hbase ▸ hb)),
      OrdMap.get?_set_of_ne _ _ (Ne.symm hq)]

theorem posts_sold (hdrop : p.dust = droppedDust before p.order)
    (hnn : ∀ currency, 0 ≤ balance before currency)
    (hne : baseCurrency ctx.symbol ≠ quoteCurrency)
    (h : Sold session quoteCurrency ctx before after p.order account) :
    Posts quoteCurrency before after p := by
  obtain ⟨quoteAccount, hquote, hafter⟩ := h.accounts_eq
  have hside : p.order.side = .sell := h.side.trans (if_neg h.action)
  have hbase := h.base
  have htook : after.get? quoteCurrency = some
      { quoteAccount with
        available := quoteAccount.available + (p.order.totalValue - p.order.fee) } := by
    rw [hafter, OrdMap.get?_set_self]
  have hgave : after.get? (baseCurrency ctx.symbol) = some
      (soldAccount account p.order.filledQuantity) := by
    rw [hafter, OrdMap.get?_set_of_ne _ _ hne.symm, OrdMap.get?_set_self]
  have hheld : balance before (baseCurrency ctx.symbol) = account.available :=
    balance_of_get? h.held
  have hcost : averageCost before (baseCurrency ctx.symbol) = account.averageCost := by
    rw [averageCost, h.held, Option.bind_some]
  have hle : p.order.filledQuantity ≤ account.available :=
    h.quantity ▸ calculateSellQuantity_le_held ctx.signal h.held_pos.le
  have hdust : p.dust =
      if account.available - p.order.filledQuantity < DUST then
        account.available - p.order.filledQuantity else 0 := by
    simp only [hdrop, droppedDust, hside, hbase, hheld]
  have hpos : (0 : ℚ) < DUST := by norm_num [DUST]
  have hleft : balance after (baseCurrency ctx.symbol) =
      account.available - p.order.filledQuantity - p.dust := by
    rw [balance_of_get? hgave, soldAccount_available, hdust]
  have hdust_nonneg : 0 ≤ p.dust := by
    rw [hdust]
    split_ifs <;> linarith
  have hleft_nonneg : 0 ≤ account.available - p.order.filledQuantity - p.dust := by
    rw [hdust]
    split_ifs <;> linarith
  refine
    { base_ne := hbase.symm ▸ hne
      value := h.value
      quote := ?_
      quote_nonneg := ?_
      bought := fun hbuy => absurd (hside.symm.trans hbuy) (by decide)
      base := ?_
      base_nonneg := ?_
      book := ?_
      cost := ?_
      dust_nonneg := hdust_nonneg
      dust_lt := ?_
      dropped := ?_
      sale := fun _ => ⟨?_, ?_, ?_⟩
      profit := fun _ => ?_
      other := fun currency hq hb => ?_ }
  · rw [balance_of_get? htook, balance_of_get? hquote]
    simp only [Posting.quoteFlow, hside]
  · have := hnn quoteCurrency
    rw [balance_of_get? hquote] at this
    rw [balance_of_get? htook]
    have := h.fee_le
    dsimp only
    linarith
  · simp only [Posting.baseFlow, hside, hbase, hleft, hheld]
    ring
  · rw [hbase, hleft]
    exact hleft_nonneg
  · have hbook : bookValue after (baseCurrency ctx.symbol) =
        (account.available - p.order.filledQuantity - p.dust) * account.averageCost.getD 0 := by
      rw [bookValue, hleft, averageCost, hgave, Option.bind_some, soldAccount_averageCost]
    simp only [Posting.bookFlow, hside, hbase, hbook, h.costBasis, Option.getD_some]
    rw [bookValue, hheld, hcost]
    ring
  · exact fun hbuy => absurd (hside.symm.trans hbuy) (by decide)
  · rw [hdust]
    split_ifs with hlt
    · exact hlt
    · exact hpos
  · intro hdrop
    have hdrop : p.dust ≠ 0 := hdrop
    rw [hbase, hleft]
    rw [hdust] at hdrop ⊢
    split_ifs at hdrop ⊢
    · exact sub_self _
    · exact absurd rfl hdrop
  · rw [hbase, hheld]
    exact h.held_pos
  · rw [hbase, hcost]
    exact h.costBasis
  · rw [hbase, hcost, averageCost, hgave, Option.bind_some, soldAccount_averageCost]
  · simp only [Posting.quoteFlow, Posting.bookFlow, hside, h.realizedPnL, h.costBasis,
      Option.getD_some, h.value]
    ring
  · rw [hafter, OrdMap.get?_set_of_ne _ _ (Ne.symm hq),
      OrdMap.get?_set_of_ne _ _ (Ne.symm (hbase ▸ hb))]

end Step

/-! ## What is rounded -/

section Rounding

variable (accounts : Accounts) (currency : String)

theorem balance_stored :
    balance (storedAccounts accounts) currency = Js.decimalColumn (balance accounts currency) 8 := by
  unfold balance storedAccounts
  rw [OrdMap.get?_map]
  cases accounts.get? currency <;> simp [PaperTradingAccount.stored]

theorem averageCost_stored : averageCost (storedAccounts accounts) currency =
    (averageCost accounts currency).map (Js.decimalColumn · 8) := by
  unfold averageCost storedAccounts
  rw [OrdMap.get?_map]
  cases accounts.get? currency <;> rfl

theorem stored_stored (account : PaperTradingAccount) : account.stored.stored = account.stored := by
  unfold PaperTradingAccount.stored
  simp only [Js.decimalColumn_decimalColumn, Option.map_map, Function.comp_def]

theorem abs_column_sub_le (x : ℚ) : |Js.decimalColumn x 8 - x| ≤ halfUnit :=
  Js.abs_decimalColumn_sub_le x 8

variable {accounts currency} {quoteCurrency : String} {before after : Accounts}
  {order : PaperTradingOrder}

theorem abs_cost_stored_le : |(averageCost (storedAccounts accounts) currency).getD 0 -
    (averageCost accounts currency).getD 0| ≤ halfUnit := by
  rw [averageCost_stored]
  cases averageCost accounts currency with
  | none => simp [halfUnit]
  | some cost => exact abs_column_sub_le cost

theorem rounded_posting (hnn : 0 ≤ balance after order.baseCurrency) :
    (posting quoteCurrency before after order).Rounded := by
  have hbase : |(posting quoteCurrency before after order).baseRounding| ≤ halfUnit := by
    show |balance (storedAccounts after) _ - _| ≤ _
    rw [balance_stored]
    exact abs_column_sub_le _
  have hcost : |(posting quoteCurrency before after order).costRounding| ≤ halfUnit :=
    abs_cost_stored_le
  generalize hp : posting quoteCurrency before after order = p at hbase hcost ⊢
  have hheld : 0 ≤ p.held := hp ▸ hnn
  have hbook : |p.bookRounding| ≤ halfUnit * (|p.cost| + p.held) := by
    refine (abs_add_le _ _).trans ?_
    rw [abs_mul, abs_mul, abs_of_nonneg hheld, mul_add]
    exact add_le_add (mul_le_mul_of_nonneg_right hbase (abs_nonneg _))
      (mul_le_mul_of_nonneg_right hcost hheld)
  refine ⟨?_, hbase, hcost, ?_⟩
  · rw [← hp]
    show |balance (storedAccounts after) _ - _| ≤ _
    rw [balance_stored]
    exact abs_column_sub_le _
  · have hhalf : 0 ≤ halfUnit := by norm_num [halfUnit]
    unfold Posting.profitRounding
    split
    · rw [abs_neg]
      linarith
    · have hrecorded := abs_column_sub_le (p.order.realizedPnL.getD 0)
      have hsub := abs_sub (p.recordedPnL - p.order.realizedPnL.getD 0) p.bookRounding
      rw [Posting.recordedPnL] at hsub ⊢
      linarith

/-- The rows after an order, from what it left. -/
structure Rounds (quoteCurrency : String) (after : Accounts) (p : Posting) : Prop where
  quote : balance (storedAccounts after) quoteCurrency = balance after quoteCurrency + p.quoteRounding
  base : balance (storedAccounts after) p.order.baseCurrency =
    balance after p.order.baseCurrency + p.baseRounding
  cost : (averageCost (storedAccounts after) p.order.baseCurrency).getD 0 =
    (averageCost after p.order.baseCurrency).getD 0 + p.costRounding
  book : bookValue (storedAccounts after) p.order.baseCurrency =
    bookValue after p.order.baseCurrency + p.bookRounding
  rounded : p.Rounded

theorem rounds_posting (hnn : 0 ≤ balance after order.baseCurrency) :
    Rounds quoteCurrency after (posting quoteCurrency before after order) where
  quote := (add_sub_cancel _ _).symm
  base := (add_sub_cancel _ _).symm
  cost := (add_sub_cancel _ _).symm
  book := by
    unfold bookValue Posting.bookRounding posting
    dsimp only
    ring
  rounded := rounded_posting hnn

end Rounding

/-! ## What a sequence of orders moves -/

theorem ofCoin_append (postings postings' : List Posting) (coin : String) :
    ofCoin (postings ++ postings') coin = ofCoin postings coin ++ ofCoin postings' coin :=
  List.filter_append ..

theorem ofCoin_singleton (p : Posting) (coin : String) :
    ofCoin [p] coin = if p.order.baseCurrency = coin then [p] else [] := by
  by_cases h : p.order.baseCurrency = coin <;> simp [ofCoin, h]

theorem ofCoin_append_singleton (postings : List Posting) (p : Posting) (coin : String) :
    ofCoin (postings ++ [p]) coin =
      ofCoin postings coin ++ if p.order.baseCurrency = coin then [p] else [] := by
  rw [ofCoin_append, ofCoin_singleton]

theorem heldLots_append_singleton (postings : List Posting) (p : Posting) (coin : String) :
    heldLots (postings ++ [p]) coin =
      if p.order.baseCurrency = coin then p.lots (heldLots postings coin)
      else heldLots postings coin := by
  unfold heldLots
  rw [ofCoin_append_singleton]
  split_ifs
  · rw [List.foldl_append]
    rfl
  · rw [List.append_nil]

/-- The lots of a holding: their quantity is what is held, and their mean is its average cost, but
for what `buys` buys have rounded of it. -/
structure LotsKept (lots : Lots ℚ) (held cost : ℚ) (buys : ℕ) : Prop where
  quantity : lots.quantity = held
  empty : held = 0 → lots.cost = 0
  mean : 0 < held → |cost - lots.mean| ≤ halfUnit * buys

structure Booked (quoteCurrency : String) (initial : ℚ) (ledger : Ledger) : Prop where
  stored : ∀ currency, (storedAccounts ledger.accounts).get? currency = ledger.accounts.get? currency
  nonneg : ∀ currency, 0 ≤ balance ledger.accounts currency
  value : ∀ p ∈ ledger.postings, p.order.totalValue = p.order.filledQuantity * p.order.executedPrice
  dust : ∀ p ∈ ledger.postings, 0 ≤ p.dust ∧ p.dust < DUST
  rounding : ∀ p ∈ ledger.postings, p.Rounded
  profit : ∀ p ∈ ledger.postings, p.order.side = .sell →
    p.order.realizedPnL.getD 0 = p.quoteFlow + p.bookFlow + p.dust * p.order.costBasis.getD 0
  quote : balance ledger.accounts quoteCurrency =
    initial + (ledger.postings.map fun p => p.quoteFlow + p.quoteRounding).sum
  base : ∀ coin, coin ≠ quoteCurrency → balance ledger.accounts coin =
    ((ofCoin ledger.postings coin).map fun p => p.baseFlow + p.baseRounding).sum
  book : ∀ coin, coin ≠ quoteCurrency → bookValue ledger.accounts coin =
    ((ofCoin ledger.postings coin).map fun p => p.bookFlow + p.bookRounding).sum
  cost : ∀ coin, coin ≠ quoteCurrency → 0 < balance ledger.accounts coin →
    (averageCost ledger.accounts coin).isSome
  lots : ∀ coin, coin ≠ quoteCurrency →
    LotsKept (heldLots ledger.postings coin) (balance ledger.accounts coin)
      ((averageCost ledger.accounts coin).getD 0)
      ((ofCoin ledger.postings coin).countP Posting.isBuy)

theorem storedAccounts_storedAccounts (accounts : Accounts) (currency : String) :
    (storedAccounts (storedAccounts accounts)).get? currency =
      (storedAccounts accounts).get? currency := by
  unfold storedAccounts
  simp only [OrdMap.get?_map, Option.map_map, Function.comp_def, stored_stored]

theorem LotsKept.post {quoteCurrency : String} {before after : Accounts} {p : Posting}
    {lots : Lots ℚ} {buys : ℕ}
    (h : LotsKept lots (balance before p.order.baseCurrency)
      ((averageCost before p.order.baseCurrency).getD 0) buys)
    (hstored : averageCost (storedAccounts before) p.order.baseCurrency =
      averageCost before p.order.baseCurrency)
    (hnn : 0 ≤ balance before p.order.baseCurrency) (hp : Posts quoteCurrency before after p)
    (hr : Rounds quoteCurrency after p) :
    LotsKept (p.lots lots) (balance (storedAccounts after) p.order.baseCurrency)
      ((averageCost (storedAccounts after) p.order.baseCurrency).getD 0)
      (buys + if p.isBuy then 1 else 0) := by
  have hhalf : (0 : ℚ) ≤ halfUnit * buys := by
    rw [halfUnit]
    positivity
  -- an account that holds nothing before rounding holds nothing after it
  have hempty : balance after p.order.baseCurrency = 0 →
      balance (storedAccounts after) p.order.baseCurrency = 0 := fun hzero => by
    rw [balance_stored, hzero, Js.decimalColumn_zero]
  have hleft : 0 < balance (storedAccounts after) p.order.baseCurrency →
      0 < balance after p.order.baseCurrency := fun hpos =>
    hp.base_nonneg.lt_of_ne fun hzero => hpos.ne' (hempty hzero.symm)
  have hbase := hp.base
  cases hside : p.order.side with
  | buy =>
    have hbook := hp.book
    have hqty := hp.bought hside
    simp only [Posting.baseFlow, Posting.bookFlow, hside] at hbase hbook
    have hbought : (lots.buy p.order.filledQuantity p.order.executedPrice).quantity =
        balance after p.order.baseCurrency := by
      rw [Lots.quantity_buy, h.quantity, hbase]
    have hquantity : (p.lots lots).quantity =
        balance (storedAccounts after) p.order.baseCurrency := by
      simp only [Posting.lots, hside]
      by_cases hzero : balance after p.order.baseCurrency = 0
      · rw [Lots.sell, Lots.quantity_scale, hbought, hzero, mul_zero, hempty hzero]
      · rw [Lots.quantity_sell (hbought ▸ hzero), hbought, sub_neg_eq_add, hr.base]
    refine ⟨hquantity, fun hzero => ?_, fun hpos => ?_⟩
    · simp only [Posting.lots, hside]
      rw [Lots.cost_sell, hbought, sub_neg_eq_add, ← hr.base, hzero, zero_mul]
    · have hsome := hleft hpos
      have hmean : (p.lots lots).mean =
          (lots.buy p.order.filledQuantity p.order.executedPrice).mean := by
        simp only [Posting.lots, hside]
        refine Lots.mean_sell (hbought ▸ hsome.ne') ?_
        rw [hbought, sub_neg_eq_add, ← hr.base]
        exact hpos.ne'
      have haverage : (averageCost after p.order.baseCurrency).getD 0 =
          (lots.quantity * (averageCost before p.order.baseCurrency).getD 0 +
            p.order.filledQuantity * p.order.executedPrice) /
            (lots.quantity + p.order.filledQuantity) := by
        rw [h.quantity, ← hbase, eq_div_iff hsome.ne', ← hp.value, mul_comm]
        exact hbook
      have herror : |(averageCost after p.order.baseCurrency).getD 0 -
          (lots.buy p.order.filledQuantity p.order.executedPrice).mean| ≤ halfUnit * buys := by
        rw [haverage]
        exact Lots.abs_average_sub_mean_le (h.quantity ▸ hnn) hqty (by rwa [h.quantity, ← hbase])
          (fun hzero => h.empty (h.quantity ▸ hzero)) hhalf fun hheld => h.mean (h.quantity ▸ hheld)
      rw [hmean, hr.cost, add_sub_right_comm]
      refine (abs_add_le _ _).trans ((add_le_add herror hr.rounded.cost).trans_eq ?_)
      simp [Posting.isBuy, hside, mul_add]
  | sell =>
    obtain ⟨hheld, -, hkept⟩ := hp.sale hside
    simp only [Posting.baseFlow, hside] at hbase
    have hne : lots.quantity ≠ 0 := h.quantity ▸ hheld.ne'
    have hrest : lots.quantity - (p.order.filledQuantity + p.dust - p.baseRounding) =
        balance (storedAccounts after) p.order.baseCurrency := by
      rw [hr.base, hbase, h.quantity]
      ring
    simp only [Posting.lots, hside]
    refine ⟨by rw [Lots.quantity_sell hne, hrest], fun hzero => ?_, fun hpos => ?_⟩
    · rw [Lots.cost_sell, hrest, hzero, zero_mul]
    · have hcost : averageCost (storedAccounts after) p.order.baseCurrency =
          averageCost before p.order.baseCurrency := by
        rw [averageCost_stored, hkept, ← averageCost_stored, hstored]
      rw [Lots.mean_sell hne (hrest ▸ hpos.ne'), hcost]
      simpa [Posting.isBuy, hside] using h.mean hheld

section Run

variable (session : PaperTradingSession) {quoteCurrency : String} {initial : ℚ}
  {ledger : Ledger}

theorem booked_open {initialCapital : ℚ} (hcap : 0 ≤ initialCapital) :
    Booked quoteCurrency (balance (openLedger quoteCurrency initialCapital).accounts quoteCurrency)
      (openLedger quoteCurrency initialCapital) := by
  have hget : ∀ currency, (openLedger quoteCurrency initialCapital).accounts.get? currency =
      if quoteCurrency = currency then
        some ({ available := initialCapital } : PaperTradingAccount).stored else none := by
    intro currency
    unfold openLedger storedAccounts
    rw [OrdMap.get?_map, OrdMap.get?_set, OrdMap.get?_empty]
    split_ifs <;> rfl
  have hnone : ∀ coin, coin ≠ quoteCurrency →
      balance (openLedger quoteCurrency initialCapital).accounts coin = 0 := fun coin h => by
    rw [balance, hget, if_neg h.symm]
    rfl
  have hbook : ∀ coin, coin ≠ quoteCurrency →
      bookValue (openLedger quoteCurrency initialCapital).accounts coin = 0 := fun coin h => by
    rw [bookValue, hnone coin h, zero_mul]
  refine
    { stored := storedAccounts_storedAccounts _
      nonneg := fun currency => ?_
      value := by simp [openLedger]
      dust := by simp [openLedger]
      rounding := by simp [openLedger]
      profit := by simp [openLedger]
      quote := by simp [openLedger]
      base := fun coin h => (hnone coin h).trans rfl
      book := fun coin h => (hbook coin h).trans rfl
      cost := fun coin h hpos => absurd (hnone coin h) hpos.ne'
      lots := fun coin h => ⟨(hnone coin h).symm, fun _ => rfl, fun hpos =>
        absurd (hnone coin h) hpos.ne'⟩ }
  rw [balance, hget]
  split_ifs
  · exact Js.decimalColumn_nonneg hcap 8
  · exact le_rfl

theorem Booked.post {after : Accounts} {p : Posting} (h : Booked quoteCurrency initial ledger)
    (hp : Posts quoteCurrency ledger.accounts after p) (hr : Rounds quoteCurrency after p) :
    Booked quoteCurrency initial ⟨storedAccounts after, ledger.postings ++ [p]⟩ := by
  -- a coin that is not traded keeps its account
  have hother : ∀ coin, coin ≠ quoteCurrency → p.order.baseCurrency ≠ coin →
      (storedAccounts after).get? coin = ledger.accounts.get? coin := by
    intro coin hq hb
    rw [← h.stored coin, storedAccounts, storedAccounts, OrdMap.get?_map, OrdMap.get?_map,
      hp.other coin hq hb.symm]
  have hbalance : ∀ coin, coin ≠ quoteCurrency → p.order.baseCurrency ≠ coin →
      balance (storedAccounts after) coin = balance ledger.accounts coin := fun coin hq hb => by
    rw [balance, hother coin hq hb, balance]
  have haverage : ∀ coin, coin ≠ quoteCurrency → p.order.baseCurrency ≠ coin →
      averageCost (storedAccounts after) coin = averageCost ledger.accounts coin :=
    fun coin hq hb => by rw [averageCost, hother coin hq hb, averageCost]
  have hmem : ∀ {P : Posting → Prop}, (∀ q ∈ ledger.postings, P q) → P p →
      ∀ q ∈ ledger.postings ++ [p], P q := by
    intro P hall hlast q hq
    rcases List.mem_append.mp hq with hq | hq
    · exact hall q hq
    · exact List.mem_singleton.mp hq ▸ hlast
  refine
    { stored := storedAccounts_storedAccounts after
      nonneg := fun currency => ?_
      value := hmem h.value hp.value
      dust := hmem h.dust ⟨hp.dust_nonneg, hp.dust_lt⟩
      rounding := hmem h.rounding hr.rounded
      profit := hmem h.profit hp.profit
      quote := ?_
      base := fun coin hq => ?_
      book := fun coin hq => ?_
      cost := fun coin hq hpos => ?_
      lots := fun coin hq => ?_ }
  · rcases eq_or_ne currency quoteCurrency with rfl | hq
    · rw [balance_stored]
      exact Js.decimalColumn_nonneg hp.quote_nonneg 8
    rcases eq_or_ne p.order.baseCurrency currency with rfl | hb
    · rw [balance_stored]
      exact Js.decimalColumn_nonneg hp.base_nonneg 8
    · rw [hbalance currency hq hb]
      exact h.nonneg currency
  · rw [hr.quote, hp.quote, h.quote, List.map_append, List.sum_append]
    simp [add_assoc]
  · rw [ofCoin_append_singleton, List.map_append, List.sum_append, ← h.base coin hq]
    split_ifs with hb
    · subst hb
      simpa [add_assoc] using hr.base.trans (congrArg (· + _) hp.base)
    · simpa using hbalance coin hq hb
  · rw [ofCoin_append_singleton, List.map_append, List.sum_append, ← h.book coin hq]
    split_ifs with hb
    · subst hb
      simpa [add_assoc] using hr.book.trans (congrArg (· + _) hp.book)
    · simp [bookValue, hbalance coin hq hb, haverage coin hq hb]
  · rcases eq_or_ne p.order.baseCurrency coin with rfl | hb
    · rw [averageCost_stored, Option.isSome_map]
      cases hside : p.order.side with
      | buy => exact hp.cost hside
      | sell =>
        obtain ⟨hheld, -, hkept⟩ := hp.sale hside
        rw [hkept]
        exact h.cost _ hq hheld
    · rw [haverage coin hq hb]
      exact h.cost coin hq (hbalance coin hq hb ▸ hpos)
  · rw [heldLots_append_singleton, ofCoin_append_singleton, List.countP_append]
    split_ifs with hb
    · subst hb
      rw [List.countP_singleton]
      refine (h.lots _ hq).post ?_ (h.nonneg _) hp hr
      rw [averageCost, h.stored, averageCost]
    · rw [hbalance coin hq hb, haverage coin hq hb]
      exact h.lots coin hq

theorem posts_trade (hnn : ∀ currency, 0 ≤ balance ledger.accounts currency)
    {ctx : ExecuteOrderContext} (htrade : Tradable quoteCurrency ctx) :
    trade session quoteCurrency ledger ctx = ledger ∨
      ∃ after p, trade session quoteCurrency ledger ctx =
          ⟨storedAccounts after, ledger.postings ++ [p]⟩ ∧
        p.order.side = orderSide ctx.signal ∧ Posts quoteCurrency ledger.accounts after p ∧
        Rounds quoteCurrency after p := by
  unfold trade
  split
  · rename_i order after hexe
    rcases execute_cases hexe with ⟨-, horder, -⟩ | ⟨_, horder, hside⟩
    · cases horder
    cases horder
    refine .inr ⟨after, posting quoteCurrency ledger.accounts after order, rfl, ?_⟩
    rcases hside with hbght | ⟨account, hsold⟩
    · have hposts := posts_bought (p := posting quoteCurrency ledger.accounts after order) rfl hnn
        htrade hbght
      exact ⟨hbght.side, hposts, rounds_posting hposts.base_nonneg⟩
    · have hposts := posts_sold (p := posting quoteCurrency ledger.accounts after order) rfl hnn
        htrade.1 hsold
      exact ⟨hsold.side, hposts, rounds_posting hposts.base_nonneg⟩
  · exact .inl rfl

theorem booked_trade (h : Booked quoteCurrency initial ledger) {ctx : ExecuteOrderContext}
    (htrade : Tradable quoteCurrency ctx) :
    Booked quoteCurrency initial (trade session quoteCurrency ledger ctx) := by
  rcases posts_trade session h.nonneg htrade with heq | ⟨_, _, heq, -, hposts, hrounds⟩
  · rw [heq]
    exact h
  · rw [heq]
    exact h.post hposts hrounds

theorem booked_run (h : Booked quoteCurrency initial ledger)
    {ctxs : List ExecuteOrderContext} (htrade : ∀ ctx ∈ ctxs, Tradable quoteCurrency ctx) :
    Booked quoteCurrency initial (tradeAll session quoteCurrency ledger ctxs) := by
  induction ctxs generalizing ledger with
  | nil => exact h
  | cons ctx ctxs ih =>
    exact ih (booked_trade session h (htrade ctx List.mem_cons_self))
      fun ctx' hmem => htrade ctx' (List.mem_cons_of_mem ctx hmem)

theorem postings_tradeAll (quoteCurrency : String) (ledger : Ledger)
    (ctxs : List ExecuteOrderContext) :
    ∃ new, (tradeAll session quoteCurrency ledger ctxs).postings = ledger.postings ++ new := by
  induction ctxs generalizing ledger with
  | nil => exact ⟨[], (List.append_nil _).symm⟩
  | cons ctx ctxs ih =>
    obtain ⟨new, hnew⟩ := ih (trade session quoteCurrency ledger ctx)
    have hfirst : ∃ first, (trade session quoteCurrency ledger ctx).postings =
        ledger.postings ++ first := by
      unfold trade
      split
      · exact ⟨_, rfl⟩
      · exact ⟨[], (List.append_nil _).symm⟩
    obtain ⟨first, hfirst⟩ := hfirst
    exact ⟨first ++ new, by rw [← List.append_assoc, ← hfirst]; exact hnew⟩

end Run

/-! ## Conservation -/

section Conservation

variable (session : PaperTradingSession) (quoteCurrency : String)

def sessionLedger (ctxs : List ExecuteOrderContext) : Ledger :=
  tradeAll session quoteCurrency (openLedger quoteCurrency session.initialCapital) ctxs

/-- The accounts of a session conserve money over a sequence of orders. -/
structure Conserves (ctxs : List ExecuteOrderContext) : Prop where
  nonneg : ∀ pre, pre <+: ctxs → ∀ currency,
    0 ≤ balance (sessionLedger session quoteCurrency pre).accounts currency
  value : ∀ p ∈ (sessionLedger session quoteCurrency ctxs).postings,
    p.order.totalValue = p.order.filledQuantity * p.order.executedPrice
  /-- The quote balance pays for the buys and takes in the sales, fees included. -/
  quote :
    let ledger := sessionLedger session quoteCurrency ctxs
    balance ledger.accounts quoteCurrency =
      balance (openLedger quoteCurrency session.initialCapital).accounts quoteCurrency
      - sumOf Posting.isBuy (fun p => p.order.totalValue + p.order.fee) ledger.postings
      + sumOf Posting.isSell (fun p => p.order.totalValue - p.order.fee) ledger.postings
      + (ledger.postings.map (·.quoteRounding)).sum
  /-- A base balance is what was bought less what was sold and the dust of the sales. -/
  base : ∀ coin, coin ≠ quoteCurrency →
    let ledger := sessionLedger session quoteCurrency ctxs
    balance ledger.accounts coin =
      sumOf Posting.isBuy (fun p => p.order.filledQuantity) (ofCoin ledger.postings coin)
      - sumOf Posting.isSell (fun p => p.order.filledQuantity + p.dust)
          (ofCoin ledger.postings coin)
      + ((ofCoin ledger.postings coin).map (·.baseRounding)).sum
  dust : ∀ p ∈ (sessionLedger session quoteCurrency ctxs).postings, 0 ≤ p.dust ∧ p.dust < DUST
  rounding : ∀ p ∈ (sessionLedger session quoteCurrency ctxs).postings, p.Rounded
  /-- The average cost is the mean price of the lots held, rounded once for each buy. -/
  cost : ∀ coin, coin ≠ quoteCurrency →
    let ledger := sessionLedger session quoteCurrency ctxs
    0 < balance ledger.accounts coin →
      (heldLots ledger.postings coin).quantity = balance ledger.accounts coin ∧
        ∃ cost, averageCost ledger.accounts coin = some cost ∧
          |cost - (heldLots ledger.postings coin).mean| ≤
            halfUnit * (ofCoin ledger.postings coin).countP Posting.isBuy
  /-- A sale keeps the average cost of what it leaves, and drops dust only when it leaves
  nothing. -/
  sale : ∀ pre ctx, pre ++ [ctx] <+: ctxs → ctx.signal.action ≠ .buy →
    ∀ coin, coin ≠ quoteCurrency →
      let before := sessionLedger session quoteCurrency pre
      let after := sessionLedger session quoteCurrency (pre ++ [ctx])
      averageCost after.accounts coin = averageCost before.accounts coin ∧
      ∀ p, after.postings = before.postings ++ [p] → p.order.baseCurrency = coin →
        p.dust ≠ 0 → balance after.accounts coin = 0
  /-- The profit that is recorded of a position that is opened and closed is the change of the quote
  balance it caused, with the fees of its buys and the cost of its dust added back. -/
  profit : ∀ pre, pre <+: ctxs → ∀ coin, coin ≠ quoteCurrency →
    let before := sessionLedger session quoteCurrency pre
    let after := sessionLedger session quoteCurrency ctxs
    balance before.accounts coin = 0 → balance after.accounts coin = 0 →
      ∃ new, after.postings = before.postings ++ new ∧
        sumOf Posting.isSell Posting.recordedPnL (ofCoin new coin) =
          ((ofCoin new coin).map Posting.quoteFlow).sum
          + sumOf Posting.isBuy (fun p => p.order.fee) (ofCoin new coin)
          + sumOf Posting.isSell (fun p => p.dust * p.order.costBasis.getD 0) (ofCoin new coin)
          + ((ofCoin new coin).map Posting.profitRounding).sum

variable {session quoteCurrency}

theorem sum_quoteFlow (postings : List Posting) :
    (postings.map Posting.quoteFlow).sum =
      -sumOf Posting.isBuy (fun p => p.order.totalValue + p.order.fee) postings +
        sumOf Posting.isSell (fun p => p.order.totalValue - p.order.fee) postings := by
  rw [sum_eq_buys_add_sells, ← sumOf_neg]
  congr 1
  all_goals
    refine sumOf_congr _ _ fun p hp => ?_
    simp [Posting.quoteFlow, of_decide_eq_true hp]

theorem sum_baseFlow (postings : List Posting) :
    (postings.map Posting.baseFlow).sum =
      sumOf Posting.isBuy (fun p => p.order.filledQuantity) postings -
        sumOf Posting.isSell (fun p => p.order.filledQuantity + p.dust) postings := by
  rw [sum_eq_buys_add_sells, sub_eq_add_neg, ← sumOf_neg]
  congr 1
  all_goals
    refine sumOf_congr _ _ fun p hp => ?_
    simp [Posting.baseFlow, of_decide_eq_true hp]

theorem sum_recordedPnL {postings : List Posting} (hprof : ∀ p ∈ postings, p.order.side = .sell →
      p.order.realizedPnL.getD 0 = p.quoteFlow + p.bookFlow + p.dust * p.order.costBasis.getD 0) :
    sumOf Posting.isSell Posting.recordedPnL postings =
      (postings.map Posting.quoteFlow).sum
      + (postings.map fun p => p.bookFlow + p.bookRounding).sum
      + sumOf Posting.isBuy (fun p => p.order.fee) postings
      + sumOf Posting.isSell (fun p => p.dust * p.order.costBasis.getD 0) postings
      + (postings.map Posting.profitRounding).sum := by
  induction postings with
  | nil => simp [sumOf_nil]
  | cons p postings ih =>
    simp only [sumOf_cons, List.map_cons, List.sum_cons,
      ih fun q hq => hprof q (List.mem_cons_of_mem p hq)]
    cases hside : p.order.side with
    | buy =>
      simp [Posting.isBuy, Posting.isSell, Posting.quoteFlow, Posting.bookFlow,
        Posting.profitRounding, hside]
      ring
    | sell =>
      simp only [Posting.isBuy, Posting.isSell, Posting.profitRounding, hside,
        hprof p List.mem_cons_self hside]
      simp
      ring

theorem sale_keeps_cost {pre : List ExecuteOrderContext} {ctx : ExecuteOrderContext} {initial : ℚ}
    (hbkd : Booked quoteCurrency initial (sessionLedger session quoteCurrency pre))
    (htrade : Tradable quoteCurrency ctx) (hsell : ctx.signal.action ≠ .buy) {coin : String}
    (hcoin : coin ≠ quoteCurrency) :
    let before := sessionLedger session quoteCurrency pre
    let after := sessionLedger session quoteCurrency (pre ++ [ctx])
    averageCost after.accounts coin = averageCost before.accounts coin ∧
    ∀ p, after.postings = before.postings ++ [p] → p.order.baseCurrency = coin →
      p.dust ≠ 0 → balance after.accounts coin = 0 := by
  intro before after
  have hafter : after = trade session quoteCurrency before ctx := by
    simp only [after, before, sessionLedger, tradeAll, List.foldl_append, List.foldl_cons,
      List.foldl_nil]
  rcases posts_trade session hbkd.nonneg htrade with heq | ⟨exact', p', heq, hside, hposts, -⟩
  · rw [hafter, heq]
    exact ⟨rfl, fun p hp => absurd (List.self_eq_append_right.mp hp) (List.cons_ne_nil p [])⟩
  · rw [hafter, heq]
    refine ⟨?_, fun p hp hbase hdust => ?_⟩
    · have hkept : averageCost exact' coin = averageCost before.accounts coin := by
        rcases eq_or_ne p'.order.baseCurrency coin with rfl | hb
        · exact (hposts.sale (hside.trans (if_neg hsell))).2.2
        · rw [averageCost, hposts.other coin hcoin hb.symm, averageCost]
      rw [averageCost_stored, hkept, ← averageCost_stored, averageCost, hbkd.stored, averageCost]
    · obtain rfl := List.cons.inj (List.append_cancel_left hp) |>.1
      subst hbase
      rw [balance_stored, hposts.dropped hdust, Js.decimalColumn_zero]

/-- **Paper accounts conserve money.** At market prices that are not negative, over every sequence
of orders of coins other than the quote currency. -/
theorem accounts_conserved {ctxs : List ExecuteOrderContext}
    (htrade : ∀ ctx ∈ ctxs, Tradable quoteCurrency ctx) : Conserves session quoteCurrency ctxs := by
  have hbooked : ∀ pre, pre <+: ctxs → Booked quoteCurrency
      (balance (openLedger quoteCurrency session.initialCapital).accounts quoteCurrency)
      (sessionLedger session quoteCurrency pre) := fun pre hpre =>
    booked_run session (booked_open session.initialCapital_nonneg) fun ctx hmem =>
      htrade ctx (hpre.subset hmem)
  have hall := hbooked ctxs (List.prefix_refl ctxs)
  refine
    { nonneg := fun pre hpre => (hbooked pre hpre).nonneg
      value := hall.value
      quote := ?_
      base := fun coin hcoin => ?_
      dust := hall.dust
      rounding := hall.rounding
      cost := fun coin hcoin hpos => ?_
      sale := fun pre ctx hpre hsell coin hcoin => ?_
      profit := fun pre hpre coin hcoin hopened hclosed => ?_ }
  · exact hall.quote.trans (by rw [List.sum_map_add, sum_quoteFlow]; ring)
  · exact (hall.base coin hcoin).trans (by rw [List.sum_map_add, sum_baseFlow])
  · obtain ⟨_, haverage⟩ := Option.isSome_iff_exists.mp (hall.cost coin hcoin hpos)
    have hmean := (hall.lots coin hcoin).mean hpos
    rw [haverage, Option.getD_some] at hmean
    exact ⟨(hall.lots coin hcoin).quantity, _, haverage, hmean⟩
  · have hprefix : pre <+: ctxs := (List.prefix_append pre [ctx]).trans hpre
    have hmem : ctx ∈ ctxs := hpre.subset (List.mem_append_right pre List.mem_cons_self)
    exact sale_keeps_cost (hbooked pre hprefix) (htrade ctx hmem) hsell hcoin
  · obtain ⟨rest, rfl⟩ := hpre
    have hsplit : sessionLedger session quoteCurrency (pre ++ rest) =
        tradeAll session quoteCurrency (sessionLedger session quoteCurrency pre)
          rest := List.foldl_append
    obtain ⟨new, hnew⟩ := postings_tradeAll session quoteCurrency
      (sessionLedger session quoteCurrency pre) rest
    rw [← hsplit] at hnew
    have hcoinNew : ofCoin (sessionLedger session quoteCurrency
        (pre ++ rest)).postings coin =
        ofCoin (sessionLedger session quoteCurrency pre).postings coin ++ ofCoin new coin := by
      rw [hnew, ofCoin, List.filter_append]
      rfl
    -- the cost held is zero before and after, so the new postings move none
    have hbook : ((ofCoin new coin).map fun p => p.bookFlow + p.bookRounding).sum = 0 := by
      have hbefore := (hbooked pre (List.prefix_append pre rest)).book coin hcoin
      have hafter := hall.book coin hcoin
      rw [bookValue, hopened, zero_mul] at hbefore
      rw [bookValue, hclosed, zero_mul, hcoinNew, List.map_append, List.sum_append, ← hbefore,
        zero_add] at hafter
      exact hafter.symm
    refine ⟨new, hnew, ?_⟩
    rw [sum_recordedPnL, hbook, add_zero]
    intro p hp
    refine hall.profit p ?_
    rw [hnew]
    exact List.mem_append_right _ (List.mem_filter.mp hp).1

end Conservation

/-! ## A round trip -/

def roundTripSession : PaperTradingSession where
  initialCapital := 1000
  initialCapital_nonneg := by norm_num
  tradingFee := 1 / 1000
  tradingFee_le := by norm_num

def roundTripOrder (action : Action) : ExecuteOrderContext where
  signal := { action := action, coinId := "BTC", quantity := some 1 }
  symbol := "BTC/USDT"
  portfolio := { cashBalance := 1000, positions := OrdMap.empty, totalValue := 1000 }
  prices := OrdMap.empty.set "BTC/USDT" 100
  timestamp := match action with
    | .buy => 0
    | _ => 24 * HOUR_MS
  allocation := ⟨25 / 100, 2 / 100⟩
  orderBook := some { bids := [(100, 5)], asks := [(100, 5)] }

theorem roundTripOrder_tradable (action : Action) : Tradable "USDT" (roundTripOrder action) := by
  refine ⟨?_, fun price hprice => ?_⟩
  · show baseCurrency "BTC/USDT" ≠ "USDT"
    decide
  have h : price = 100 := (Option.some.inj hprice).symm
  rw [h]
  norm_num

theorem accounts_conserved_roundTrip :
    Conserves roundTripSession "USDT" [roundTripOrder .buy, roundTripOrder .sell] :=
  accounts_conserved (by
    intro ctx hctx
    simp only [List.mem_cons, List.not_mem_nil, or_false] at hctx
    rcases hctx with rfl | rfl <;> exact roundTripOrder_tradable _)

/-- **The profit of a closed position is not the change of the quote balance it caused**: one coin
is bought and sold at 100, the balance falls by both fees and the profit is short of one. -/
theorem profit_without_buyFee :
    let ledger := sessionLedger roundTripSession "USDT"
      [roundTripOrder .buy, roundTripOrder .sell]
    balance ledger.accounts "BTC" = 0 ∧
      sumOf Posting.isSell Posting.recordedPnL ledger.postings = -(1 / 10) ∧
      balance ledger.accounts "USDT" - 1000 = -(2 / 10) := by
  decide +kernel

end Chansey.Paper
