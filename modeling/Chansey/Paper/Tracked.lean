import Mathlib.Data.List.TakeWhile
import Chansey.Paper.Exits
import Chansey.Paper.Ledger

/-!
# Tracked exits and balances

The exit tracker of a session is told of fills, the accounts are written by every order. Both agree
when the tracked quantities are the base balances.

* **`tracks_onBuy`**, **`tracks_onSell`**, **`tracks_removePosition`**: when a fill that the
  tracker is told of is tracked as it should.
-/

namespace Chansey.Paper

/-! ## Accounts -/

theorem isCurrency_baseCurrency (symbol : String) : IsCurrency (baseCurrency symbol) := by
  intro c hc
  rw [baseCurrency, String.toList_ofList] at hc
  simpa using List.mem_takeWhile_imp hc

/-- Balances are not negative, and every account is that of a currency code. -/
structure SoundAccounts (accounts : Accounts) : Prop where
  nonneg : ∀ currency, 0 ≤ balance accounts currency
  currency : ∀ currency account, accounts.get? currency = some account → IsCurrency currency

theorem SoundAccounts.of_pos {accounts : Accounts} (h : SoundAccounts accounts) {coin : String}
    (hpos : 0 < balance accounts coin) : IsCurrency coin := by
  cases hget : accounts.get? coin with
  | none => simp [balance, hget] at hpos
  | some account => exact h.currency coin account hget

theorem SoundAccounts.set {accounts : Accounts} (h : SoundAccounts accounts) {currency : String}
    {account : PaperTradingAccount} (hcurrency : IsCurrency currency)
    (havailable : 0 ≤ account.available) : SoundAccounts (accounts.set currency account) := by
  refine ⟨fun c => ?_, fun c row hrow => ?_⟩
  · rw [balance, OrdMap.get?_set]
    split_ifs
    · exact havailable
    · exact h.nonneg c
  · rw [OrdMap.get?_set] at hrow
    split_ifs at hrow with hc
    · exact hc ▸ hcurrency
    · exact h.currency c row hrow

section Orders

variable {session : PaperTradingSession} {quote : String} {ctx : ExecuteOrderContext}
  {before after : Accounts} {order : PaperTradingOrder} {account : PaperTradingAccount}

theorem SoundAccounts.bought (h : SoundAccounts before)
    (hprs : ∀ price ∈ ctx.prices.get? ctx.symbol, 0 ≤ price)
    (hbght : Bought session quote ctx before after order) : SoundAccounts after := by
  obtain ⟨_, hquote, hfunds, rfl⟩ := hbght.accounts_eq
  refine (h.set (h.currency _ _ hquote) (sub_nonneg.mpr hfunds)).set
    (isCurrency_baseCurrency ctx.symbol) ?_
  rw [boughtAccount_available]
  exact add_nonneg (h.nonneg _) (hbght.quantity_nonneg hprs)

theorem SoundAccounts.sold (h : SoundAccounts before)
    (hsold : Sold session quote ctx before after order account) : SoundAccounts after := by
  obtain ⟨_, hquote, rfl⟩ := hsold.accounts_eq
  have hle : order.filledQuantity ≤ account.available :=
    hsold.quantity ▸ calculateSellQuantity_le_held ctx.signal hsold.held_pos.le
  refine (h.set (isCurrency_baseCurrency ctx.symbol) ?_).set (h.currency _ _ hquote) ?_
  · rw [soldAccount_available]
    split_ifs <;> linarith
  · have hquote_nonneg := h.nonneg quote
    rw [balance_of_get? hquote] at hquote_nonneg
    have hfee := hsold.fee_le
    dsimp only
    linarith

theorem SoundAccounts.execute (h : SoundAccounts before)
    (hprs : ctx.signal.action = .buy → ∀ price ∈ ctx.prices.get? ctx.symbol, 0 ≤ price)
    (hside : Bought session quote ctx before after order ∨
      ∃ account, Sold session quote ctx before after order account) :
    SoundAccounts after := by
  rcases hside with hbght | ⟨_, hsold⟩
  · exact h.bought (hprs hbght.action) hbght
  · exact h.sold hsold

theorem Bought.get?_other (h : Bought session quote ctx before after order)
    (hbase : order.baseCurrency = quote) {coin : String} (hq : coin ≠ quote) :
    after.get? coin = before.get? coin := by
  obtain ⟨_, -, -, rfl⟩ := h.accounts_eq
  have hne : baseCurrency ctx.symbol ≠ coin := h.base ▸ hbase ▸ hq.symm
  rw [OrdMap.get?_set_of_ne _ _ hne, OrdMap.get?_set_of_ne _ _ hq.symm]

theorem Sold.get?_other (h : Sold session quote ctx before after order account)
    (hbase : order.baseCurrency = quote) {coin : String} (hq : coin ≠ quote) :
    after.get? coin = before.get? coin := by
  obtain ⟨_, -, rfl⟩ := h.accounts_eq
  have hne : baseCurrency ctx.symbol ≠ coin := h.base ▸ hbase ▸ hq.symm
  rw [OrdMap.get?_set_of_ne _ _ hq.symm, OrdMap.get?_set_of_ne _ _ hne]

theorem Bought.opened (h : Bought session quote ctx before after order)
    (currency : String) : (after.get? currency).isSome ↔
      (before.get? currency).isSome ∨ baseCurrency ctx.symbol = currency := by
  obtain ⟨_, hquote, -, rfl⟩ := h.accounts_eq
  rw [OrdMap.get?_set, OrdMap.get?_set]
  split_ifs with hbase hq
  · simp [hbase]
  · subst hq
    simp [hquote]
  · simp [hbase]

theorem Sold.opened (h : Sold session quote ctx before after order account)
    (currency : String) : (after.get? currency).isSome ↔ (before.get? currency).isSome := by
  obtain ⟨_, hquote, rfl⟩ := h.accounts_eq
  rw [OrdMap.get?_set, OrdMap.get?_set]
  split_ifs with hq hbase
  · subst hq
    simp [hquote]
  · subst hbase
    simp [h.held]
  · rfl

end Orders

/-! ## Tracked quantities -/

def Tracks (quote : String) (accounts : Accounts) (tracker : BacktestExitTracker) : Prop :=
  ∀ coin, tracker.quantity? coin =
    if coin ≠ quote ∧ 0 < balance accounts coin then some (balance accounts coin) else none

section Tracking

variable {quote : String} {before after : Accounts} {p : Posting}
  {tracker : BacktestExitTracker}

theorem Tracks.congr (h : Tracks quote before tracker)
    (hbalance : ∀ coin, coin ≠ quote → balance after coin = balance before coin) :
    Tracks quote after tracker := by
  intro coin
  rw [h coin]
  rcases eq_or_ne coin quote with rfl | hq
  · simp
  · rw [hbalance coin hq]

variable {coin : String}

theorem Tracks.eq_some (h : Tracks quote before tracker) {quantity : ℚ}
    (hqty : tracker.quantity? coin = some quantity) :
    coin ≠ quote ∧ 0 < balance before coin ∧ quantity = balance before coin := by
  rw [h coin] at hqty
  split_ifs at hqty with hheld
  exact ⟨hheld.1, hheld.2, (Option.some.inj hqty).symm⟩

theorem Tracks.getD (h : Tracks quote before tracker) (hcoin : coin ≠ quote)
    (hnn : 0 ≤ balance before coin) : (tracker.quantity? coin).getD 0 = balance before coin := by
  rw [h coin]
  split_ifs with hpos
  · rfl
  · exact le_antisymm hnn (not_lt.mp fun hlt => hpos ⟨hcoin, hlt⟩)

theorem tracks_other (h : Tracks quote before tracker)
    (hp : Posts quote before after p) (hb : coin ≠ p.order.baseCurrency) :
    tracker.quantity? coin =
      if coin ≠ quote ∧ 0 < balance after coin then some (balance after coin)
      else none := by
  rw [h coin]
  rcases eq_or_ne coin quote with rfl | hq
  · simp
  · rw [hp.balance_other hq hb]

theorem Posts.base_buy (hp : Posts quote before after p) (hside : p.order.side = .buy) :
    balance after p.order.baseCurrency =
      balance before p.order.baseCurrency + p.order.filledQuantity := by
  rw [hp.base, Posting.baseFlow, hside]

theorem Posts.base_sell (hp : Posts quote before after p) (hside : p.order.side = .sell) :
    balance after p.order.baseCurrency =
      balance before p.order.baseCurrency - (p.order.filledQuantity + p.dust) := by
  rw [hp.base, Posting.baseFlow, hside, sub_eq_add_neg]

theorem tracks_onBuy (hnn : ∀ currency, 0 ≤ balance before currency)
    (h : Tracks quote before tracker) (hp : Posts quote before after p)
    (hside : p.order.side = .buy) (hpos : 0 < balance after p.order.baseCurrency) (price : ℚ)
    (atr : Option ℚ) :
    Tracks quote after
      (tracker.onBuy p.order.baseCurrency price p.order.filledQuantity atr none) := by
  intro coin
  rw [BacktestExitTracker.quantity?_onBuy]
  rcases eq_or_ne p.order.baseCurrency coin with rfl | hc
  · rw [if_pos rfl, if_pos ⟨hp.base_ne, hpos⟩, h.getD hp.base_ne (hnn _), hp.base_buy hside]
  · rw [if_neg hc, tracks_other h hp hc.symm]

theorem tracks_onSell (h : Tracks quote before tracker)
    (hp : Posts quote before after p) (hside : p.order.side = .sell) (hdust : p.dust = 0) :
    Tracks quote after
      (tracker.onSell p.order.baseCurrency p.order.filledQuantity) := by
  intro coin
  rw [BacktestExitTracker.quantity?_onSell]
  rcases eq_or_ne p.order.baseCurrency coin with rfl | hc
  · have hleft := hp.base_sell hside
    rw [hdust, add_zero] at hleft
    rw [if_pos rfl, h, if_pos ⟨hp.base_ne, (hp.sale hside).1⟩, Option.bind_some, ← hleft]
    by_cases hpos : 0 < balance after p.order.baseCurrency
    · rw [if_neg (not_le.mpr hpos), if_pos ⟨hp.base_ne, hpos⟩]
    · rw [if_pos (not_lt.mp hpos), if_neg fun hheld => hpos hheld.2]
  · rw [if_neg hc, tracks_other h hp hc.symm]

theorem tracks_removePosition (h : Tracks quote before tracker)
    (hp : Posts quote before after p) (hzero : balance after p.order.baseCurrency = 0) :
    Tracks quote after (tracker.removePosition p.order.baseCurrency) := by
  intro coin
  rw [BacktestExitTracker.quantity?_removePosition]
  rcases eq_or_ne p.order.baseCurrency coin with rfl | hc
  · simp [hzero]
  · rw [if_neg hc, tracks_other h hp hc.symm]

end Tracking

/-! ## What orders move -/

/-- `moves` are the orders that lead from one state to another, each with the dust it dropped. -/
structure Moved (quote : String) (before after : EngineState)
    (moves : List (TradingSignal × Posting)) : Prop where
  orders : after.orders = before.orders ++ moves.map fun m => (m.1, m.2.order)
  side : ∀ m ∈ moves, m.2.order.side = orderSide m.1
  dust_nonneg : ∀ m ∈ moves, 0 ≤ m.2.dust
  opened : ∀ currency, (after.accounts.get? currency).isSome ↔
    (before.accounts.get? currency).isSome ∨
      ∃ m ∈ moves, m.2.order.side = .buy ∧ m.2.order.baseCurrency = currency
  balance : ∀ coin, coin ≠ quote → balance after.accounts coin =
    balance before.accounts coin + ((ofCoin (moves.map Prod.snd) coin).map Posting.baseFlow).sum

section Moves

variable {quote : String} {a b c : EngineState}
  {moves moves' : List (TradingSignal × Posting)}

theorem Moved.of_eq (haccs : b.accounts = a.accounts) (hords : b.orders = a.orders) :
    Moved quote a b [] :=
  ⟨by simp [hords], by simp, by simp, by simp [haccs], fun coin _ => by
    simp [haccs, ofCoin]⟩

theorem Moved.trans (h : Moved quote a b moves) (h' : Moved quote b c moves') :
    Moved quote a c (moves ++ moves') := by
  refine ⟨?_, fun m hm => ?_, fun m hm => ?_, fun currency => ?_, fun coin hq => ?_⟩
  · rw [h'.orders, h.orders, List.map_append, List.append_assoc]
  · exact (List.mem_append.mp hm).elim (h.side m) (h'.side m)
  · exact (List.mem_append.mp hm).elim (h.dust_nonneg m) (h'.dust_nonneg m)
  · simp only [h'.opened, h.opened, List.mem_append, or_and_right, exists_or, or_assoc]
  · rw [h'.balance coin hq, h.balance coin hq, List.map_append, ofCoin_append, List.map_append,
      List.sum_append, add_assoc]

theorem Moved.congr (h : Moved quote a b moves) (haccs : c.accounts = b.accounts)
    (hords : c.orders = b.orders) : Moved quote a c moves := by
  have hsame : Moved quote b c [] := Moved.of_eq haccs hords
  exact List.append_nil moves ▸ h.trans hsame

end Moves

/-! ## An order that goes through -/

def fillPrice (ctx : ExecuteOrderContext) : ℚ :=
  let basePrice := (ctx.prices.get? ctx.symbol).getD 0
  executionPrice basePrice (orderSide ctx.signal) (orderSlippage ctx basePrice)

def boughtQuantity (ctx : ExecuteOrderContext) : ℚ :=
  calculateBuyQuantity ctx.signal ctx.portfolio (fillPrice ctx) ctx.allocation

def soldQuantity (ctx : ExecuteOrderContext) (accounts : Accounts) : ℚ :=
  calculateSellQuantity ctx.signal (balance accounts (baseCurrency ctx.symbol))

/-- What a sale leaves of its coin before dust is dropped. -/
def remaining (ctx : ExecuteOrderContext) (accounts : Accounts) : ℚ :=
  balance accounts (baseCurrency ctx.symbol) - soldQuantity ctx accounts

structure Filled (quote : String) (ctx : ExecuteOrderContext) (before after : Accounts)
    (p : Posting) : Prop where
  side : p.order.side = orderSide ctx.signal
  base : p.order.baseCurrency = baseCurrency ctx.symbol
  price_pos : ctx.signal.action = .buy → 0 < p.order.executedPrice
  quantity_nonneg : (∀ price ∈ ctx.prices.get? ctx.symbol, 0 ≤ price) → 0 ≤ p.order.filledQuantity
  bought : ctx.signal.action = .buy → p.order.filledQuantity = boughtQuantity ctx
  sold : ctx.signal.action ≠ .buy → 0 < balance before (baseCurrency ctx.symbol) ∧
    p.order.filledQuantity = soldQuantity ctx before
  dust_nonneg : 0 ≤ p.dust
  dust : ctx.signal.action ≠ .buy →
    p.dust = if remaining ctx before < DUST then remaining ctx before else 0
  opened : ∀ currency, (after.get? currency).isSome ↔ (before.get? currency).isSome ∨
    (p.order.side = .buy ∧ p.order.baseCurrency = currency)
  posts : baseCurrency ctx.symbol ≠ quote → Posts quote before after p
  other : baseCurrency ctx.symbol = quote → ∀ coin, coin ≠ quote →
    after.get? coin = before.get? coin
  sound : SoundAccounts after

section Fills

variable {session : PaperTradingSession} {quote : String} {ctx : ExecuteOrderContext}
  {before after : Accounts} {order : PaperTradingOrder} {p : Posting}

theorem Executed.price_eq (h : Executed session ctx order) :
    order.executedPrice = fillPrice ctx := by
  obtain ⟨_, -, hprice, heq⟩ := h.price
  rw [heq, fillPrice, hprice]
  rfl

theorem filled_of_side (hdust : p.dust = droppedDust before p.order)
    (hsound : SoundAccounts before)
    (hprs : ctx.signal.action = .buy → ∀ price ∈ ctx.prices.get? ctx.symbol, 0 ≤ price)
    (hside : Bought session quote ctx before after p.order ∨
      ∃ account, Sold session quote ctx before after p.order account) :
    Filled quote ctx before after p := by
  have hafter := hsound.execute hprs hside
  rcases hside with h | ⟨_, h⟩
  · have hside : p.order.side = .buy := h.side.trans (if_pos h.action)
    exact
      { side := h.side
        base := h.base
        price_pos := fun hbuy => h.price_pos (hprs hbuy)
        quantity_nonneg := h.quantity_nonneg
        bought := fun _ => h.quantity.trans (by rw [h.price_eq, boughtQuantity])
        sold := fun hne => absurd h.action hne
        dust_nonneg := by simp [hdust, droppedDust, hside]
        dust := fun hne => absurd h.action hne
        opened := fun currency => by
          rw [h.opened, h.base, hside]
          simp
        posts := fun hne => posts_bought hdust hsound.nonneg ⟨hne, hprs h.action⟩ h
        other := fun hq coin => h.get?_other (h.base.trans hq)
        sound := hafter }
  · have hside : p.order.side = .sell := h.side.trans (if_neg h.action)
    have hheld := balance_of_get? h.held
    have hqty : p.order.filledQuantity = soldQuantity ctx before := by
      rw [h.quantity, soldQuantity, hheld]
    have hle : p.order.filledQuantity ≤ balance before p.order.baseCurrency := by
      rw [h.base, hheld, h.quantity]
      exact calculateSellQuantity_le_held ctx.signal h.held_pos.le
    exact
      { side := h.side
        base := h.base
        price_pos := fun hbuy => absurd hbuy h.action
        quantity_nonneg := h.quantity_nonneg
        bought := fun hbuy => absurd hbuy h.action
        sold := fun _ => ⟨hheld ▸ h.held_pos, hqty⟩
        dust_nonneg := by
          simp only [hdust, droppedDust, hside]
          split_ifs <;> linarith
        dust := fun _ => by
          simp only [hdust, droppedDust, hside, remaining, hqty, h.base]
          rfl
        opened := fun currency => by
          rw [h.opened, hside]
          simp
        posts := fun hne => posts_sold hdust hsound.nonneg hne h
        other := fun hq coin => h.get?_other (h.base.trans hq)
        sound := hafter }

section

variable (h : Filled quote ctx before after p)

include h

theorem Filled.side_buy (hbuy : ctx.signal.action = .buy) :
    p.order.side = .buy := h.side.trans (if_pos hbuy)

theorem Filled.side_sell (hsell : ctx.signal.action ≠ .buy) :
    p.order.side = .sell := h.side.trans (if_neg hsell)

theorem Filled.balance_other {coin : String} (hq : coin ≠ quote)
    (hb : coin ≠ baseCurrency ctx.symbol) : balance after coin = balance before coin := by
  by_cases hbase : baseCurrency ctx.symbol = quote
  · rw [balance, h.other hbase coin hq, balance]
  · exact (h.posts hbase).balance_other hq (h.base ▸ hb)

theorem Filled.balance_buy (hne : baseCurrency ctx.symbol ≠ quote)
    (hbuy : ctx.signal.action = .buy) :
    balance after (baseCurrency ctx.symbol) =
      balance before (baseCurrency ctx.symbol) + boughtQuantity ctx := by
  have hbase := (h.posts hne).base_buy (h.side_buy hbuy)
  rwa [h.base, h.bought hbuy] at hbase

theorem Filled.balance_sell (hne : baseCurrency ctx.symbol ≠ quote)
    (hsell : ctx.signal.action ≠ .buy) :
    balance after (baseCurrency ctx.symbol) = remaining ctx before - p.dust := by
  have hbase := (h.posts hne).base_sell (h.side_sell hsell)
  rw [h.base, (h.sold hsell).2] at hbase
  rw [hbase, remaining]
  ring

end

theorem Filled.moved {state next : EngineState} (h : Filled quote ctx state.accounts
    next.accounts p) (hords : next.orders = state.orders ++ [(ctx.signal, p.order)]) :
    Moved quote state next [(ctx.signal, p)] := by
  refine ⟨by simpa using hords, by simpa using h.side, by simpa using h.dust_nonneg,
    by simpa using h.opened, fun coin hq => ?_⟩
  rw [List.map_cons, List.map_nil, ofCoin_singleton]
  split_ifs with hb
  · subst hb
    simpa using (h.posts (h.base ▸ hq)).base
  · simpa using h.balance_other hq (h.base ▸ Ne.symm hb)

end Fills

structure SameBooks (before after : EngineState) : Prop where
  accounts : after.accounts = before.accounts
  orders : after.orders = before.orders
  exitTracker : after.exitTracker = before.exitTracker

theorem SameBooks.refl (state : EngineState) : SameBooks state state := ⟨rfl, rfl, rfl⟩

theorem SameBooks.trans {a b c : EngineState} (h : SameBooks a b) (h' : SameBooks b c) :
    SameBooks a c :=
  ⟨h'.accounts.trans h.accounts, h'.orders.trans h.orders, h'.exitTracker.trans h.exitTracker⟩

/-- An order that goes through is stored and filled, and leaves the tracker to its caller. -/
structure Ran (quote : String) (ctx : ExecuteOrderContext) (before after : EngineState)
    (p : Posting) : Prop where
  filled : Filled quote ctx before.accounts after.accounts p
  orders : after.orders = before.orders ++ [(ctx.signal, p.order)]
  exitTracker : after.exitTracker = before.exitTracker

section RunOrder

variable (session : PaperTradingSession) (quote : String) (world : World)
  (ctx : ExecuteOrderContext) {state : EngineState}

theorem runOrder_ran (hsound : SoundAccounts state.accounts)
    (hprs : ctx.signal.action = .buy → ∀ price ∈ ctx.prices.get? ctx.symbol, 0 ≤ price) :
    let run := runOrder world session quote ctx state
    let goes := GoesThrough session quote (answered world ctx state) state.accounts
    (goes ∧ ∃ p, run.1 = .ok ⟨.success, some p.order⟩ ∧
      Ran quote (answered world ctx state) state run.2 p) ∨
    (¬ goes ∧ run.2 = { state with executions := state.executions + 1 } ∧
      ∀ result, run.1 = .ok result → result.status ≠ .success ∧ result.order = none) := by
  intro run goes
  rcases runOrder_cases world session quote ctx state with
    ⟨hgoes, order, accounts, hrun, hside⟩ | hrefu
  · refine .inl ⟨hgoes, posting quote state.accounts accounts order, ?_, ?_⟩
    · rw [show run = _ from hrun]
      rfl
    · rw [show run = _ from hrun]
      exact ⟨filled_of_side rfl hsound hprs hside, rfl, rfl⟩
  · exact .inr hrefu

theorem runOrder_result : (runOrder world session quote ctx state).1 =
    Prod.fst <$> execute session quote (answered world ctx state) state.accounts := by
  unfold runOrder
  cases execute session quote (answered world ctx state) state.accounts <;> rfl

variable {session quote world ctx} in
theorem runOrder_noPosition {result : ExecuteOrderResult}
    (h : (runOrder world session quote ctx state).1 = .ok result)
    (hstat : result.status = .noPosition) :
    balance state.accounts (baseCurrency ctx.symbol) ≤ 0 := by
  rw [runOrder_result] at h
  obtain ⟨⟨_, _⟩, hexe, rfl⟩ := Result.map_eq_ok.mp h
  have hheld := execute_noPosition hexe hstat
  exact hheld

end RunOrder

/-! ## The exits of a tick -/

section Exits

variable (session : PaperTradingSession) {quote : String} (world : World)
  (market : Market) (portfolio : Portfolio) {state : EngineState} {tracker : BacktestExitTracker}

structure Exited (quote : String) (before after : EngineState)
    (tracker : BacktestExitTracker) : Prop where
  sound : SoundAccounts after.accounts
  exitTracker : after.exitTracker = some tracker
  tracks : Tracks quote after.accounts tracker
  moved : ∃ moves, Moved quote before after moves ∧
    ∀ m ∈ moves, m.1.action = .sell ∧ m.2.baseFlow < 0

theorem remaining_exit (quote : String) (state : EngineState) {exit : ExitSignal}
    {accounts : Accounts} (hcoin : IsCurrency exit.coinId) (hpos : 0 < balance accounts exit.coinId)
    (hqty : exit.quantity = balance accounts exit.coinId) :
    let ctx := exitOrder session quote world market portfolio exit
    baseCurrency ctx.symbol = exit.coinId ∧ remaining (answered world ctx state) accounts = 0 := by
  intro ctx
  have hbase : baseCurrency ctx.symbol = exit.coinId := baseCurrency_pairSymbol hcoin quote
  refine ⟨hbase, ?_⟩
  have hsold : soldQuantity (answered world ctx state) accounts = balance accounts exit.coinId := by
    have hasked : Js.truthy? (answered world ctx state).signal.quantity =
        some (balance accounts exit.coinId) := by
      show Js.truthy? (some exit.quantity) = _
      rw [hqty, Js.truthy?_some, if_neg hpos.ne']
    have hheld : balance accounts (baseCurrency (answered world ctx state).symbol) =
        balance accounts exit.coinId := congrArg (balance accounts) hbase
    rw [soldQuantity, calculateSellQuantity, hasked, hheld]
    exact min_self _
  have hheld : balance accounts (baseCurrency (answered world ctx state).symbol) =
      balance accounts exit.coinId := congrArg (balance accounts) hbase
  rw [remaining, hsold, hheld, sub_self]

theorem exited_executeExit {exit : ExitSignal} (hsound : SoundAccounts state.accounts)
    (htr : state.exitTracker = some tracker) (htrks : Tracks quote state.accounts tracker)
    (hexit : tracker.quantity? exit.coinId = some exit.quantity) (executed : ℕ) :
    ∃ tracker', Exited quote state
        (executeExit session quote world market portfolio (executed, state) exit).2
        tracker' ∧
      ∀ coin, coin ≠ exit.coinId → tracker'.quantity? coin = tracker.quantity? coin := by
  obtain ⟨hne, hpos, hqty⟩ := htrks.eq_some hexit
  obtain ⟨hbase, hrem⟩ := remaining_exit session world market
    portfolio quote state (hsound.of_pos hpos) hpos hqty
  have hsell : (exitOrder session quote world market portfolio exit).signal.action = .sell := rfl
  unfold executeExit
  dsimp only
  generalize exitOrder session quote world market portfolio exit = ctx at *
  have hnotBuy : ctx.signal.action ≠ .buy := by simp [hsell]
  rcases runOrder_ran session quote world ctx hsound
      (fun hbuy => absurd hbuy hnotBuy) with ⟨-, p, hok, hran⟩ | ⟨-, hstate, hnone⟩
  · -- the whole position is sold, so nothing is left to track
    rw [← Prod.eta (runOrder world session quote ctx state), hok]
    dsimp only
    have hposts := hran.filled.posts (hbase ▸ hne)
    have hbase' : p.order.baseCurrency = exit.coinId := hran.filled.base.trans hbase
    have hleft := hran.filled.balance_sell (hbase ▸ hne) hnotBuy
    have hzero : balance (runOrder world session quote ctx state).2.accounts
        p.order.baseCurrency = 0 := by
      refine le_antisymm ?_ (hran.filled.sound.nonneg _)
      rw [hran.filled.base, hleft, hrem]
      linarith [hran.filled.dust_nonneg]
    refine ⟨tracker.removePosition exit.coinId, ⟨hran.filled.sound, ?_, ?_, ?_⟩, fun coin hc => ?_⟩
    · rw [hran.exitTracker, htr, Option.map_some]
    · rw [← hbase']
      exact tracks_removePosition htrks hposts hzero
    · refine ⟨_, (hran.filled.moved hran.orders).congr rfl rfl, fun m hm => ?_⟩
      obtain rfl := List.mem_singleton.mp hm
      refine ⟨hsell, ?_⟩
      have := hposts.base
      have := (hposts.sale (hran.filled.side_sell hnotBuy)).1
      linarith
    · rw [BacktestExitTracker.quantity?_removePosition, if_neg (Ne.symm hc)]
  · -- nothing is sold; a held position is never reported as gone
    have hkept : Exited quote state (runOrder world session quote ctx state).2
        tracker := by
      rw [hstate]
      exact ⟨hsound, htr, htrks, [], Moved.of_eq rfl rfl, by simp⟩
    refine ⟨tracker, ?_, fun _ _ => rfl⟩
    have hgone : ∀ result, (runOrder world session quote ctx state).1 = .ok result →
        result.status ≠ .noPosition := fun result hres hstat => by
      have := runOrder_noPosition hres hstat
      rw [hbase] at this
      exact absurd hpos (not_lt.mpr this)
    cases hrun : runOrder world session quote ctx state with
    | mk outcome =>
      rw [hrun] at hkept hgone hnone
      cases outcome with
      | error => exact hkept
      | ok result =>
        have hsucc := (hnone result rfl).1
        have hfound := hgone result rfl
        dsimp only
        cases hstat : result.status with
        | success => exact absurd hstat hsucc
        | noPosition => exact absurd hstat hfound
        | _ => exact hkept

theorem Exited.trans {a b c : EngineState} {tracker' : BacktestExitTracker}
    (h : Exited quote a b tracker) (h' : Exited quote b c tracker') :
    Exited quote a c tracker' := by
  obtain ⟨_, hmoves, hsells⟩ := h.moved
  obtain ⟨_, hmoves', hsells'⟩ := h'.moved
  exact ⟨h'.sound, h'.exitTracker, h'.tracks, _, hmoves.trans hmoves',
    fun m hm => (List.mem_append.mp hm).elim (hsells m) (hsells' m)⟩

theorem exited_foldl {exits : List ExitSignal} (hsound : SoundAccounts state.accounts)
    (htr : state.exitTracker = some tracker) (htrks : Tracks quote state.accounts tracker)
    (hexits : ∀ exit ∈ exits, tracker.quantity? exit.coinId = some exit.quantity)
    (hnodup : (exits.map (·.coinId)).Nodup) (executed : ℕ) :
    ∃ tracker', Exited quote state
      (exits.foldl (executeExit session quote world market portfolio)
        (executed, state)).2 tracker' := by
  induction exits generalizing state tracker executed with
  | nil => exact ⟨tracker, hsound, htr, htrks, [], Moved.of_eq rfl rfl, by simp⟩
  | cons exit exits ih =>
    obtain ⟨hnew, hnodup⟩ := List.nodup_cons.mp hnodup
    obtain ⟨tracker', hextd, hother⟩ := exited_executeExit session world market portfolio
      hsound htr htrks (hexits exit List.mem_cons_self) executed
    have hrest : ∀ exit' ∈ exits, tracker'.quantity? exit'.coinId = some exit'.quantity := by
      intro exit' hmem
      rw [hother exit'.coinId fun heq => hnew (List.mem_map.mpr ⟨exit', hmem, heq⟩)]
      exact hexits exit' (List.mem_cons_of_mem exit hmem)
    obtain ⟨tracker'', hlast⟩ := ih hextd.sound hextd.exitTracker hextd.tracks hrest hnodup _
    exact ⟨tracker'', hextd.trans hlast⟩

theorem exited_checkAndExecute (hsound : SoundAccounts state.accounts)
    (htr : state.exitTracker = some tracker) (htrks : Tracks quote state.accounts tracker) :
    ∃ tracker', Exited quote state
      (checkAndExecute session quote world market state).2 tracker' := by
  unfold checkAndExecute
  rw [htr]
  dsimp only
  obtain ⟨hsame, hnodup, hall⟩ := tracker.checkExits_spec (checkPrices market).closePrices
    (checkPrices market).lowPrices (checkPrices market).highPrices 0
  have hchk : Tracks quote state.accounts (checkSignals market tracker).1 := fun coin =>
    (hsame coin).trans (htrks coin)
  have hexits : ∀ exit ∈ (checkSignals market tracker).2,
      (checkSignals market tracker).1.quantity? exit.coinId = some exit.quantity :=
    fun exit hmem => (hsame exit.coinId).trans (hall exit hmem)
  have hstart : SoundAccounts
      { state with exitTracker := some (checkSignals market tracker).1 }.accounts := hsound
  obtain ⟨tracker', hextd⟩ := exited_foldl session world market
    (refresh state.accounts market.priceMap quote) hstart rfl hchk hexits hnodup 0
  obtain ⟨moves, hmoves, hsells⟩ := hextd.moved
  exact ⟨tracker', hextd.sound, hextd.exitTracker, hextd.tracks, moves,
    ⟨hmoves.orders, hmoves.side, hmoves.dust_nonneg, hmoves.opened, hmoves.balance⟩, hsells⟩

end Exits

end Chansey.Paper
