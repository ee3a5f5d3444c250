import Chansey.Lib.Run
import Chansey.Paper.Tick
import Chansey.Paper.Tracked

/-!
# Paper orders honour the side of their signal

The executor knows two sides: everything but a `BUY` is sold. The tracker and the held coins are
told of the fills of `BUY` and `SELL` only, and of opportunity sales not at all.

* **`tick_honours_sides`**: a tick honours its signals where each of them can be.
  **`short_sells_long`**: an `OPEN_SHORT` sells a long that is held.
-/

namespace Chansey.Paper

open Run

/-! ## Opportunity sales -/

section Sales

variable (session : PaperTradingSession) (quote : String) (world : World)
  (market : Market) (buySignal : TradingSignal) (plan : OpportunityPlan)

def plannedQuantity (coveredAmount : ℚ) (candidate : SellCandidate) : ℚ :=
  min candidate.quantity
    (min (plan.shortfall - coveredAmount) (plan.maxSellValue - coveredAmount) / candidate.price)

def Wanted (coveredAmount : ℚ) (candidate : SellCandidate) : Prop :=
  coveredAmount < plan.shortfall ∧ coveredAmount < plan.maxSellValue ∧
    0 < plannedQuantity plan coveredAmount candidate

def Sells (progress : SellProgress) (candidate : SellCandidate) : Prop :=
  Wanted plan progress.coveredAmount candidate ∧
    GoesThrough session quote
      (answered world (opportunitySellOrder session quote world market buySignal plan
        candidate (plannedQuantity plan progress.coveredAmount candidate)) progress.state)
      progress.state.accounts

def SalesFail (state : EngineState) : Prop :=
  Throughout (sellCandidate session quote world market buySignal plan)
    (fun progress candidate =>
      ¬ Sells session quote world market buySignal plan progress candidate)
    { state := state } plan.candidates

variable {session quote world market buySignal plan}

variable {progress : SellProgress} {candidate : SellCandidate}

theorem sellCandidate_unwanted (h : ¬ Wanted plan progress.coveredAmount candidate) :
    sellCandidate session quote world market buySignal plan progress candidate = progress := by
  by_cases hdone : plan.shortfall ≤ progress.coveredAmount ∨
      plan.maxSellValue ≤ progress.coveredAmount
  · exact if_pos hdone
  · refine (if_neg hdone).trans (if_pos ?_)
    obtain ⟨hshort, hmax⟩ := not_or.mp hdone
    exact not_lt.mp fun hsome => h ⟨not_le.mp hshort, not_le.mp hmax, hsome⟩

theorem sellCandidate_wanted (h : Wanted plan progress.coveredAmount candidate) :
    sellCandidate session quote world market buySignal plan progress candidate =
      match runOrder world session quote (opportunitySellOrder session quote world
          market buySignal plan candidate
          (plannedQuantity plan progress.coveredAmount candidate)) progress.state with
      | (.ok ⟨_, some order⟩, after) =>
        { coveredAmount := progress.coveredAmount + (order.totalValue - order.fee)
          sellCount := progress.sellCount + 1
          state := after }
      | (_, after) => { progress with state := after } := by
  obtain ⟨hshort, hmax, hsome⟩ := h
  exact (if_neg (not_or.mpr ⟨not_le.mpr hshort, not_le.mpr hmax⟩)).trans
    (if_neg (not_le.mpr hsome))

theorem sellCandidate_fails
    (h : ¬ Sells session quote world market buySignal plan progress candidate) :
    let next := sellCandidate session quote world market buySignal plan progress candidate
    next.sellCount = progress.sellCount ∧ SameBooks progress.state next.state := by
  intro next
  by_cases hwanted : Wanted plan progress.coveredAmount candidate
  · have hnext : next = _ := sellCandidate_wanted hwanted
    rcases runOrder_cases world session quote (opportunitySellOrder session quote
        world market buySignal plan candidate
          (plannedQuantity plan progress.coveredAmount candidate)) progress.state with
      ⟨hgoes, -⟩ | ⟨-, hstate, hres⟩
    · exact absurd ⟨hwanted, hgoes⟩ h
    rw [hnext]
    generalize runOrder world session quote (opportunitySellOrder session quote
      world market buySignal plan candidate
        (plannedQuantity plan progress.coveredAmount candidate)) progress.state = run at hstate hres ⊢
    obtain ⟨outcome, after⟩ := run
    obtain rfl : after = _ := hstate
    have hbooks : SameBooks progress.state { progress.state with
      executions := progress.state.executions + 1 } := ⟨rfl, rfl, rfl⟩
    cases outcome with
    | error => exact ⟨rfl, hbooks⟩
    | ok result =>
      obtain ⟨_, order⟩ := result
      obtain rfl : order = none := (hres _ rfl).2
      exact ⟨rfl, hbooks⟩
  · have hnext : next = progress := sellCandidate_unwanted hwanted
    rw [hnext]
    exact ⟨rfl, SameBooks.refl _⟩

theorem sales_fail {state : EngineState}
    (h : SalesFail session quote world market buySignal plan state) :
    let progress := plan.candidates.foldl
      (sellCandidate session quote world market buySignal plan) { state := state }
    progress.sellCount = 0 ∧ SameBooks state progress.state := by
  refine Throughout.invariant
    (fun progress => progress.sellCount = 0 ∧ SameBooks state progress.state)
    (fun progress candidate hkept hfails => ?_) ⟨rfl, SameBooks.refl state⟩ h
  obtain ⟨hcount, hbooks⟩ := sellCandidate_fails hfails
  exact ⟨hcount.trans hkept.1, hkept.2.trans hbooks⟩

end Sales

/-! ## One trade -/

section LacksFunds

variable {session : PaperTradingSession} {quote : String} {ctx : ExecuteOrderContext}
  {accounts after : Accounts} {result : ExecuteOrderResult}

theorem executeSell_notLacking {args : OrderArgs}
    (h : executeSell session quote ctx args accounts = .ok (result, after)) :
    result.status ≠ .insufficientFunds := by
  unfold executeSell at h
  split at h
  · cases h
    simp
  dsimp only at h
  split_ifs at h
  · cases h
    simp
  obtain ⟨_, _, h⟩ := Result.bind_eq_ok.mp h
  cases h
  simp

theorem lacksFunds_of_execute (h : execute session quote ctx accounts = .ok (result, after))
    (hstat : result.status = .insufficientFunds) :
    LacksFunds session quote ctx accounts := by
  unfold execute at h
  split at h
  · cases h
    cases hstat
  rename_i basePrice hprice
  split at h
  · cases h
  rename_i quoteAccount hquote
  obtain ⟨_, hcommit, h⟩ := Result.bind_eq_ok.mp h
  dsimp only at h
  split_ifs at h
  · unfold executeBuy at h
    split_ifs at h with hdep
    · cases h
      cases hstat
    obtain ⟨fee, hfee, h⟩ := Result.bind_eq_ok.mp h
    obtain ⟨hrate, hvalue, rfl⟩ := flatFee_eq_ok.mp hfee
    dsimp only at h
    split_ifs at h with hfunds
    · exact ⟨basePrice, quoteAccount, hprice, hquote, hcommit, hrate, not_le.mp hdep, hvalue,
        hfunds⟩
    · cases h
      cases hstat
  · exact absurd hstat (executeSell_notLacking h)

end LacksFunds

section Trade

variable (session : PaperTradingSession) (quote : String) (world : World)
  (market : Market) (allocation : AllocationLimits)

def signalContext (portfolio : Portfolio) (signal : TradingSignal) (state : EngineState) :
    ExecuteOrderContext :=
  answered world (signalOrder quote world market portfolio allocation signal) state

/-- Whatever is planned to be sold for a buy, no sale goes through. -/
def NoSales (signal : TradingSignal) (state : EngineState) : Prop :=
  ∀ plan, opportunityPlan session quote world market signal allocation state.accounts =
      .ok (some plan) →
    SalesFail session quote world market signal plan
      { state with executions := state.executions + 1 }

structure TradeFilled (ctx : ExecuteOrderContext) (before : EngineState) (traded : Traded)
    (p : Posting) : Prop where
  result : traded.result = .ok ⟨.success, some p.order⟩
  ran : Ran quote ctx before traded.state p

structure TradeRefused (before : EngineState) (traded : Traded) : Prop where
  result : ∀ result, traded.result = .ok result → result.order = none
  books : SameBooks before traded.state

variable {session quote world market allocation} {portfolio : Portfolio}
  {signal : TradingSignal} {state : EngineState}

theorem attemptOpportunitySells_fail
    (hnone : NoSales session quote world market allocation signal state) :
    let attempt := attemptOpportunitySells session quote world market signal allocation
      { state with executions := state.executions + 1 }
    SameBooks state attempt.2 ∧ ∀ n, attempt.1 = .ok n → n = 0 := by
  intro attempt
  have htried : SameBooks state { state with executions := state.executions + 1 } := ⟨rfl, rfl, rfl⟩
  unfold attempt attemptOpportunitySells
  dsimp only
  cases hplan : opportunityPlan session quote world market signal allocation
      state.accounts with
  | error => exact ⟨htried, nofun⟩
  | ok plan? =>
    cases plan? with
    | none => exact ⟨htried, fun n hn => (Except.ok.inj hn).symm⟩
    | some plan =>
      obtain ⟨hcount, hbooks⟩ := sales_fail (hnone plan hplan)
      exact ⟨htried.trans hbooks, fun n hn => (Except.ok.inj hn).symm.trans hcount⟩

/-! ### The branches of a trade -/

theorem tradeSignal_error {e : LoopError} {after : EngineState}
    (hrun : runOrder world session quote
      (signalOrder quote world market portfolio allocation signal) state = (.error e, after)) :
    tradeSignal session quote world market allocation portfolio signal state =
      { result := .error e, state := after } := by
  unfold tradeSignal
  dsimp only
  rw [hrun]

theorem tradeSignal_ok {result : ExecuteOrderResult} {after : EngineState}
    (hrun : runOrder world session quote
      (signalOrder quote world market portfolio allocation signal) state = (.ok result, after))
    (hdone : ¬ (result.status = .insufficientFunds ∧ signal.action = .buy)) :
    tradeSignal session quote world market allocation portfolio signal state =
      { result := .ok result, state := after } := by
  unfold tradeSignal
  dsimp only
  rw [hrun]
  dsimp only
  rw [if_neg hdone]

theorem tradeSignal_lacks {result : ExecuteOrderResult} (hrun : runOrder world session quote
      (signalOrder quote world market portfolio allocation signal) state =
        (.ok result, { state with executions := state.executions + 1 }))
    (hlacks : result.status = .insufficientFunds ∧ signal.action = .buy)
    (hnone : NoSales session quote world market allocation signal state) :
    let traded := tradeSignal session quote world market allocation portfolio signal state
    SameBooks state traded.state ∧ ∀ result', traded.result = .ok result' → result' = result := by
  intro traded
  obtain ⟨hsold, hcount⟩ := attemptOpportunitySells_fail hnone
  unfold traded tradeSignal
  dsimp only
  rw [hrun]
  dsimp only
  rw [if_pos hlacks]
  generalize attemptOpportunitySells session quote world market signal allocation
    { state with executions := state.executions + 1 } = attempt at hsold hcount ⊢
  obtain ⟨count, _⟩ := attempt
  cases count with
  | error => exact ⟨hsold, fun result' h => by cases h⟩
  | ok n =>
    obtain rfl := hcount n rfl
    exact ⟨hsold, fun result' h => (Except.ok.inj h).symm⟩

theorem noSales_of_off (h : resolveOpportunitySellingConfig session = none) :
    NoSales session quote world market allocation signal state := by
  intro plan hplan
  rw [opportunityPlan, h] at hplan
  cases hplan

theorem tradeSignal_refused (hrefu : ¬ GoesThrough session quote
      (signalContext quote world market allocation portfolio signal state) state.accounts)
    (hsales : signal.action = .buy → LacksFunds session quote
        (signalContext quote world market allocation portfolio signal state)
        state.accounts → NoSales session quote world market allocation signal state) :
    TradeRefused state
      (tradeSignal session quote world market allocation portfolio signal state) := by
  have htried : SameBooks state { state with executions := state.executions + 1 } := ⟨rfl, rfl, rfl⟩
  have hres : (runOrder world session quote
      (signalOrder quote world market portfolio allocation signal) state).1 = _ :=
    runOrder_result session quote world _
  rcases runOrder_cases world session quote
      (signalOrder quote world market portfolio allocation signal) state with
    ⟨hgoes, -⟩ | ⟨-, hstate, hnone⟩
  · exact absurd hgoes hrefu
  cases hrun : (runOrder world session quote
      (signalOrder quote world market portfolio allocation signal) state).1 with
  | error =>
    rw [tradeSignal_error (Prod.ext hrun hstate)]
    exact ⟨fun result h => (by cases h), htried⟩
  | ok result =>
    have hempty := (hnone result hrun).2
    by_cases hlacks : result.status = .insufficientFunds ∧ signal.action = .buy
    · obtain ⟨⟨_, _⟩, hexe, heq⟩ := Result.map_eq_ok.mp (hres.symm.trans hrun)
      have hfunds := lacksFunds_of_execute hexe ((congrArg (·.status) heq).trans hlacks.1)
      obtain ⟨hbooks, hsame⟩ := tradeSignal_lacks (Prod.ext hrun hstate) hlacks
        (hsales hlacks.2 hfunds)
      exact ⟨fun result' h => (hsame result' h) ▸ hempty, hbooks⟩
    · rw [tradeSignal_ok (Prod.ext hrun hstate) hlacks]
      refine ⟨fun result' h => ?_, htried⟩
      cases h
      exact hempty

theorem tradeSignal_filled (hsound : SoundAccounts state.accounts)
    (hgoes : GoesThrough session quote
      (signalContext quote world market allocation portfolio signal state)
      state.accounts) :
    ∃ p, TradeFilled quote
      (signalContext quote world market allocation portfolio signal state) state
      (tradeSignal session quote world market allocation portfolio signal state) p := by
  rcases runOrder_ran session quote world
      (signalOrder quote world market portfolio allocation signal) hsound
      (fun _ price hprice => market.price_nonneg _ price hprice) with
    ⟨-, p, hok, hran⟩ | ⟨hrefu, -⟩
  · refine ⟨p, ?_⟩
    rw [tradeSignal_ok (Prod.ext hok rfl) (by simp)]
    exact ⟨rfl, hran⟩
  · exact absurd hgoes hrefu

end Trade

/-! ## What a fill tells -/

section RecordFill

variable (quote : String) (world : World) (market : Market) (signal : TradingSignal)
  (order : PaperTradingOrder)

def told (atr : Option ℚ) (tracker : BacktestExitTracker) : BacktestExitTracker :=
  let coin := baseCurrency (pairSymbol signal.coinId quote)
  match signal.action with
  | .buy => tracker.onBuy coin order.executedPrice order.filledQuantity atr none
  | .sell => tracker.onSell coin order.filledQuantity
  | _ => tracker

def heldAfter (heldCoins : Finset String) : Finset String :=
  let coin := baseCurrency (pairSymbol signal.coinId quote)
  match signal.action with
  | .buy => insert coin heldCoins
  | .sell => heldCoins.erase coin
  | _ => heldCoins

variable (loop : LoopState) (state : EngineState)

theorem sameBooks_markThrottle : SameBooks state (markThrottle world signal state) := by
  unfold markThrottle
  split_ifs
  · exact SameBooks.refl state
  · exact ⟨rfl, rfl, rfl⟩

theorem onBuyFill_books (symbol : String) :
    (onBuyFill world market symbol order state).accounts = state.accounts ∧
      (onBuyFill world market symbol order state).orders = state.orders := by
  unfold onBuyFill
  split
  · exact ⟨rfl, rfl⟩
  · dsimp only
    split_ifs <;> exact ⟨rfl, rfl⟩

theorem onBuyFill_exitTracker (symbol : String) (hprice : 0 < order.executedPrice) :
    ∃ atr, (onBuyFill world market symbol order state).exitTracker =
      state.exitTracker.map fun tracker =>
        tracker.onBuy (baseCurrency symbol) order.executedPrice order.filledQuantity atr none := by
  unfold onBuyFill
  cases htr : state.exitTracker with
  | none => exact ⟨none, by simpa using htr⟩
  | some =>
    dsimp only
    rw [if_pos hprice]
    exact ⟨_, rfl⟩

variable {quote world market signal order loop}

theorem told_buy (h : signal.action = .buy) (atr : Option ℚ) :
    told quote signal order atr = fun tracker =>
      tracker.onBuy (baseCurrency (pairSymbol signal.coinId quote)) order.executedPrice
        order.filledQuantity atr none := by
  funext tracker
  simp [told, h]

theorem told_sell (h : signal.action = .sell) (atr : Option ℚ) :
    told quote signal order atr = fun tracker =>
      tracker.onSell (baseCurrency (pairSymbol signal.coinId quote))
        order.filledQuantity := by
  funext tracker
  simp [told, h]

theorem told_other (hbuy : signal.action ≠ .buy) (hsell : signal.action ≠ .sell)
    (atr : Option ℚ) : told quote signal order atr = id := by
  funext tracker
  unfold told
  cases hact : signal.action with
  | buy => exact absurd hact hbuy
  | sell => exact absurd hact hsell
  | _ => rfl

section HeldAfter

variable {heldCoins : Finset String}

theorem heldAfter_buy (h : signal.action = .buy) : heldAfter quote signal heldCoins =
    insert (baseCurrency (pairSymbol signal.coinId quote)) heldCoins := by
  simp [heldAfter, h]

theorem heldAfter_sell (h : signal.action = .sell) : heldAfter quote signal heldCoins =
    heldCoins.erase (baseCurrency (pairSymbol signal.coinId quote)) := by
  simp [heldAfter, h]

theorem heldAfter_other (hbuy : signal.action ≠ .buy) (hsell : signal.action ≠ .sell) :
    heldAfter quote signal heldCoins = heldCoins := by
  unfold heldAfter
  cases hact : signal.action with
  | buy => exact absurd hact hbuy
  | sell => exact absurd hact hsell
  | _ => rfl

theorem mem_heldAfter_of_ne {coin : String}
    (h : coin ≠ baseCurrency (pairSymbol signal.coinId quote)) :
    coin ∈ heldAfter quote signal heldCoins ↔ coin ∈ heldCoins := by
  unfold heldAfter
  cases signal.action <;> simp [h]

end HeldAfter

theorem recordFill_spec (hprice : signal.action = .buy → 0 < order.executedPrice) :
    let next := recordFill quote world market signal order loop
    next.state.accounts = loop.state.accounts ∧ next.state.orders = loop.state.orders ∧
      next.heldCoins = heldAfter quote signal loop.heldCoins ∧
      ∃ atr, next.state.exitTracker = loop.state.exitTracker.map (told quote signal order atr) := by
  intro next
  have hmrk := sameBooks_markThrottle world signal loop.state
  cases hact : signal.action with
  | buy =>
    have hnext : next.state = onBuyFill world market (pairSymbol signal.coinId quote) order
        (markThrottle world signal loop.state) := by simp [next, recordFill, hact]
    have hheld : next.heldCoins = heldAfter quote signal loop.heldCoins := by
      simp [next, recordFill, heldAfter, hact]
    obtain ⟨haccs, hords⟩ := onBuyFill_books world market order
      (markThrottle world signal loop.state) (pairSymbol signal.coinId quote)
    obtain ⟨atr, htr⟩ := onBuyFill_exitTracker world market order
      (markThrottle world signal loop.state) (pairSymbol signal.coinId quote)
      (hprice hact)
    rw [hnext]
    refine ⟨haccs.trans hmrk.accounts, hords.trans hmrk.orders, hheld, atr, ?_⟩
    rw [htr, hmrk.exitTracker, told_buy hact]
  | sell =>
    have hnext : next.state = onSellFill (pairSymbol signal.coinId quote) order
        (markThrottle world signal loop.state) := by simp [next, recordFill, hact]
    have hheld : next.heldCoins = heldAfter quote signal loop.heldCoins := by
      simp [next, recordFill, heldAfter, hact]
    rw [hnext]
    refine ⟨hmrk.accounts, hmrk.orders, hheld, none, ?_⟩
    rw [told_sell hact, onSellFill, hmrk.exitTracker]
  | _ =>
    have hnext : next.state = markThrottle world signal loop.state := by
      simp [next, recordFill, hact]
    have hheld : next.heldCoins = heldAfter quote signal loop.heldCoins := by
      simp [next, recordFill, heldAfter, hact]
    rw [hnext]
    refine ⟨hmrk.accounts, hmrk.orders, hheld, none, ?_⟩
    rw [told_other (by simp [hact]) (by simp [hact]), Option.map_id, hmrk.exitTracker]
    rfl

end RecordFill

/-! ## One signal -/

section Signal

variable (session : PaperTradingSession) (quote : String) (world : World)
  (market : Market) (allocation : AllocationLimits)

def loopContext (loop : LoopState) (signal : TradingSignal) : ExecuteOrderContext :=
  signalContext quote world market allocation loop.portfolio signal loop.state

/-- An order that goes through is one the tracker can follow: a buy leaves something of a coin, a
sale leaves nothing or no dust, and the others sell nothing. -/
def Follows (ctx : ExecuteOrderContext) (accounts : Accounts) : Prop :=
  GoesThrough session quote ctx accounts →
    match ctx.signal.action with
    | .buy => baseCurrency ctx.symbol ≠ quote ∧
        0 < balance accounts (baseCurrency ctx.symbol) + boughtQuantity ctx
    | .sell => remaining ctx accounts = 0 ∨ DUST ≤ remaining ctx accounts
    | _ => soldQuantity ctx accounts = 0 ∧ DUST ≤ balance accounts (baseCurrency ctx.symbol)

def SignalFollows (loop : LoopState) (signal : TradingSignal) : Prop :=
  isSkipped quote loop.heldCoins signal = false →
    Follows session quote (loopContext quote world market allocation loop signal)
        loop.state.accounts ∧
      (signal.action = .buy → LacksFunds session quote
          (loopContext quote world market allocation loop signal) loop.state.accounts →
        NoSales session quote world market allocation signal loop.state)

structure SignalFilled (loop next : LoopState) (signal : TradingSignal) (p : Posting) : Prop where
  takenUp : isSkipped quote loop.heldCoins signal = false
  goes : GoesThrough session quote
    (loopContext quote world market allocation loop signal) loop.state.accounts
  filled : Filled quote (loopContext quote world market allocation loop signal)
    loop.state.accounts next.state.accounts p
  orders : next.state.orders = loop.state.orders ++ [(signal, p.order)]
  exitTracker : ∃ atr, next.state.exitTracker =
    loop.state.exitTracker.map (told quote signal p.order atr)
  heldCoins : next.heldCoins = heldAfter quote signal loop.heldCoins

variable {session quote world market allocation} {loop : LoopState}
  {signal : TradingSignal}

section Follows

variable {ctx : ExecuteOrderContext} {accounts : Accounts}
  (h : Follows session quote ctx accounts)
  (hgoes : GoesThrough session quote ctx accounts)

include h hgoes

theorem Follows.of_buy (hact : ctx.signal.action = .buy) :
    baseCurrency ctx.symbol ≠ quote ∧
      0 < balance accounts (baseCurrency ctx.symbol) + boughtQuantity ctx := by
  have hfit := h hgoes
  rwa [hact] at hfit

theorem Follows.of_sell (hact : ctx.signal.action = .sell) :
    remaining ctx accounts = 0 ∨ DUST ≤ remaining ctx accounts := by
  have hfit := h hgoes
  rwa [hact] at hfit

theorem Follows.of_other (hbuy : ctx.signal.action ≠ .buy) (hsell : ctx.signal.action ≠ .sell) :
    soldQuantity ctx accounts = 0 ∧ DUST ≤ remaining ctx accounts := by
  have hfit := h hgoes
  have hnone : soldQuantity ctx accounts = 0 ∧
      DUST ≤ balance accounts (baseCurrency ctx.symbol) := by
    cases hact : ctx.signal.action with
    | buy => exact absurd hact hbuy
    | sell => exact absurd hact hsell
    | _ => rwa [hact] at hfit
  refine ⟨hnone.1, ?_⟩
  rw [remaining, hnone.1, sub_zero]
  exact hnone.2

end Follows

theorem processSignal_skipped (h : isSkipped quote loop.heldCoins signal = true) :
    processSignal session quote world market allocation loop signal = loop := if_pos h

theorem processSignal_takenUp (h : isSkipped quote loop.heldCoins signal = false) :
    let traded :=
      tradeSignal session quote world market allocation loop.portfolio signal loop.state
    let counted :=
      { loop with
        state := traded.state
        ordersExecuted := loop.ordersExecuted + traded.opportunitySells }
    (∀ result order, traded.result = .ok result → result.order = some order →
      processSignal session quote world market allocation loop signal =
        recordFill quote world market signal order counted) ∧
    ((∀ result, traded.result = .ok result → result.order = none) →
      (processSignal session quote world market allocation loop signal).state =
          traded.state ∧
        (processSignal session quote world market allocation loop signal).heldCoins =
          loop.heldCoins) := by
  intro traded counted
  unfold processSignal
  rw [if_neg (Bool.eq_false_iff.mp h)]
  dsimp only
  refine ⟨fun result order hres horder => ?_, fun hnone => ?_⟩
  · rw [hres]
    dsimp only
    rw [horder, Option.elim_some]
  · cases hres : traded.result with
    | error => exact ⟨rfl, rfl⟩
    | ok result =>
      dsimp only
      rw [hnone result hres, Option.elim_none]
      exact ⟨rfl, rfl⟩

theorem processSignal_refused
    (h : isSkipped quote loop.heldCoins signal = false → TradeRefused loop.state
      (tradeSignal session quote world market allocation loop.portfolio signal loop.state)) :
    let next := processSignal session quote world market allocation loop signal
    SameBooks loop.state next.state ∧ next.heldCoins = loop.heldCoins := by
  intro next
  cases hskipped : isSkipped quote loop.heldCoins signal with
  | true =>
    rw [show next = loop from processSignal_skipped hskipped]
    exact ⟨SameBooks.refl _, rfl⟩
  | false =>
    obtain ⟨hnone, hbooks⟩ := h hskipped
    obtain ⟨hstate, hheld⟩ := (processSignal_takenUp hskipped).2 hnone
    rw [show next.state = _ from hstate]
    exact ⟨hbooks, hheld⟩

theorem processSignal_cases (hsound : SoundAccounts loop.state.accounts)
    (hfol : SignalFollows session quote world market allocation loop signal) :
    let next := processSignal session quote world market allocation loop signal
    (∃ p, SignalFilled session quote world market allocation loop next signal p) ∨
      SameBooks loop.state next.state ∧ next.heldCoins = loop.heldCoins := by
  intro next
  by_cases hfill : isSkipped quote loop.heldCoins signal = false ∧
      GoesThrough session quote
        (loopContext quote world market allocation loop signal) loop.state.accounts
  · obtain ⟨htaken, hgoes⟩ := hfill
    obtain ⟨p, hres, hran⟩ := tradeSignal_filled hsound hgoes
    have hnext : next = _ := (processSignal_takenUp htaken).1 _ p.order hres rfl
    obtain ⟨haccs, hords, hheld, atr, htr⟩ := @recordFill_spec quote world
      market signal p.order _ hran.filled.price_pos
    rw [← hnext] at haccs hords hheld htr
    refine .inl ⟨p, htaken, hgoes, ?_, hords.trans hran.orders, ⟨atr, ?_⟩, hheld⟩
    · rw [haccs]
      exact hran.filled
    · rw [htr]
      exact congrArg _ hran.exitTracker
  · exact .inr (processSignal_refused fun htaken =>
      tradeSignal_refused (fun hgoes => hfill ⟨htaken, hgoes⟩) (hfol htaken).2)

/-! ### What a fill leaves -/

section Filled

variable {next : LoopState} {p : Posting}

section

variable {ctx : ExecuteOrderContext} {before after : Accounts}
  (h : Filled quote ctx before after p) (hsell : ctx.signal.action ≠ .buy)

include h hsell

theorem Filled.dust_eq_zero (hleft : remaining ctx before = 0 ∨ DUST ≤ remaining ctx before) :
    p.dust = 0 := by
  rw [h.dust hsell]
  rcases hleft with hleft | hleft
  · simp [hleft]
  · rw [if_neg (not_lt.mpr hleft)]

theorem Filled.balance_unsold (hnone : soldQuantity ctx before = 0 ∧ DUST ≤ remaining ctx before)
    {coin : String} (hq : coin ≠ quote) : balance after coin = balance before coin := by
  by_cases hb : coin = baseCurrency ctx.symbol
  · subst hb
    rw [h.balance_sell hq hsell, h.dust_eq_zero hsell (Or.inr hnone.2), remaining, hnone.1,
      sub_zero, sub_zero]
  · exact h.balance_other hq hb

end

theorem mem_heldCoins_of_sell (hsell : signal.action = .sell)
    (h : isSkipped quote loop.heldCoins signal = false) :
    baseCurrency (pairSymbol signal.coinId quote) ∈ loop.heldCoins := by
  by_contra hmem
  simp [isSkipped, hsell, hmem] at h

theorem SignalFilled.tracks {tracker : BacktestExitTracker}
    (h : SignalFilled session quote world market allocation loop next signal p)
    (hsound : SoundAccounts loop.state.accounts) (hquote : quote ∉ loop.heldCoins)
    (hfol : Follows session quote
      (loopContext quote world market allocation loop signal) loop.state.accounts)
    (htrks : Tracks quote loop.state.accounts tracker) (atr : Option ℚ) :
    Tracks quote next.state.accounts (told quote signal p.order atr tracker) := by
  have hfld := h.filled
  have hbase : p.order.baseCurrency = baseCurrency (pairSymbol signal.coinId quote) :=
    hfld.base
  by_cases hbuy : signal.action = .buy
  · obtain ⟨hne, hleft⟩ := hfol.of_buy h.goes hbuy
    rw [told_buy hbuy, ← hbase]
    refine tracks_onBuy hsound.nonneg htrks (hfld.posts hne) (hfld.side_buy hbuy) ?_ _ _
    rw [hfld.base, hfld.balance_buy hne hbuy]
    exact hleft
  by_cases hsell : signal.action = .sell
  · have hne : baseCurrency (loopContext quote world market allocation loop signal).symbol ≠
        quote := fun heq => hquote (heq ▸ mem_heldCoins_of_sell hsell h.takenUp)
    rw [told_sell hsell, ← hbase]
    exact tracks_onSell htrks (hfld.posts hne) (hfld.side_sell hbuy)
      (hfld.dust_eq_zero hbuy (hfol.of_sell h.goes hsell))
  · rw [told_other hbuy hsell]
    exact htrks.congr fun coin hq =>
      hfld.balance_unsold hbuy (hfol.of_other h.goes hbuy hsell) hq

end Filled

end Signal

/-! ## The signals of a tick -/

section Tick

variable (session : PaperTradingSession) (world : World) (market : Market) (state : EngineState)

def exitedState : EngineState :=
  (checkAndExecute session (getQuoteCurrency state.accounts.keys) world market
    (getOrCreate session state)).2

def tickLoop : LoopState :=
  let quote := getQuoteCurrency state.accounts.keys
  let exited := exitedState session world market state
  (tickSignals session quote world market exited).elim
    (startLoop quote market exited) fun signals =>
      tradeSignals session quote world market signals exited

/-- `P` holds of each signal of a tick where the loop comes to it. -/
def SignalsMeet (P : AllocationLimits → LoopState → TradingSignal → Prop) : Prop :=
  let quote := getQuoteCurrency state.accounts.keys
  let exited := exitedState session world market state
  ∀ signals, tickSignals session quote world market exited = some signals →
    let filtered := filterPaperSignals session quote world market signals exited
    let allocation : AllocationLimits := ⟨filtered.1.maxAllocation, filtered.1.minAllocation⟩
    Throughout (processSignal session quote world market allocation) (P allocation)
      (startLoop quote market filtered.2) filtered.1.signals

variable {session world market state}

theorem tickLoop_invariant {P : AllocationLimits → LoopState → TradingSignal → Prop}
    (Inv : LoopState → Prop)
    (hstart : ∀ throttled, SameBooks (exitedState session world market state) throttled →
      Inv (startLoop (getQuoteCurrency state.accounts.keys) market throttled))
    (hnext : ∀ allocation loop signal, Inv loop → P allocation loop signal →
      Inv (processSignal session (getQuoteCurrency state.accounts.keys) world market allocation
        loop signal))
    (h : SignalsMeet session world market state P) : Inv (tickLoop session world market state) := by
  unfold tickLoop
  dsimp only
  cases hsigs : tickSignals session (getQuoteCurrency state.accounts.keys) world market
      (exitedState session world market state) with
  | none => exact hstart _ (SameBooks.refl _)
  | some signals =>
    exact Throughout.invariant Inv (hnext _) (hstart _ ⟨rfl, rfl, rfl⟩) (h signals hsigs)

theorem SignalsMeet.imp {P Q : AllocationLimits → LoopState → TradingSignal → Prop}
    (h : SignalsMeet session world market state P)
    (himp : ∀ allocation loop signal, P allocation loop signal → Q allocation loop signal) :
    SignalsMeet session world market state Q := fun signals hsigs =>
  (h signals hsigs).imp (fun _ => True) (fun loop signal _ => himp _ loop signal)
    (fun _ _ _ _ => trivial) trivial

theorem runTick_books : SameBooks (tickLoop session world market state).state
    (runTick session world market state).2 := by
  have hremember : ∀ loop : LoopState, SameBooks loop.state (rememberCandles market loop.state) := by
    intro loop
    unfold rememberCandles
    dsimp only
    split_ifs <;> exact ⟨rfl, rfl, rfl⟩
  have hafter : (runTick session world market state).2 =
      if (tickSignals session (getQuoteCurrency state.accounts.keys) world market
        (exitedState session world market state)).isSome then
          rememberCandles market (tickLoop session world market state).state
      else (tickLoop session world market state).state := by
    unfold runTick
    dsimp only
    cases world.finalize <;> rfl
  rw [hafter]
  split_ifs
  · exact hremember _
  · exact SameBooks.refl _

end Tick

/-! ## The side of a signal -/

/-- What an order may do to the balance of its coin: a buy raises it, a sale lowers it, and the
others leave it. -/
def Allowed (m : TradingSignal × Posting) : Prop :=
  match m.1.action with
  | .buy => 0 < m.2.baseFlow
  | .sell => m.2.baseFlow < 0
  | _ => m.2.baseFlow = 0

section Allowed

variable {m : TradingSignal × Posting}

theorem Allowed.of_buy (hact : m.1.action = .buy) (h : 0 < m.2.baseFlow) : Allowed m := by
  rwa [Allowed, hact]

theorem Allowed.of_sell (hact : m.1.action = .sell) (h : m.2.baseFlow < 0) : Allowed m := by
  rwa [Allowed, hact]

theorem Allowed.of_other (hbuy : m.1.action ≠ .buy) (hsell : m.1.action ≠ .sell)
    (h : m.2.baseFlow = 0) : Allowed m := by
  unfold Allowed
  cases hact : m.1.action with
  | buy => exact absurd hact hbuy
  | sell => exact absurd hact hsell
  | _ => exact h

end Allowed

/-- The orders between two states moved what their signals allow, and tracked exits and held coins
match the balances they leave. -/
structure SideHonoured (quote : String) (before after : EngineState)
    (heldCoins : Finset String) : Prop where
  moved : ∃ moves, Moved quote before after moves ∧ ∀ m ∈ moves, Allowed m
  tracks : ∀ tracker, after.exitTracker = some tracker → Tracks quote after.accounts tracker
  heldCoins : ∀ coin, coin ∈ heldCoins ↔ coin ≠ quote ∧ DUST < balance after.accounts coin

def LeavesHeld (session : PaperTradingSession) (quote : String)
    (ctx : ExecuteOrderContext) (accounts : Accounts) : Prop :=
  GoesThrough session quote ctx accounts →
    match ctx.signal.action with
    | .buy => 0 < boughtQuantity ctx ∧
        DUST < balance accounts (baseCurrency ctx.symbol) + boughtQuantity ctx
    | .sell => remaining ctx accounts ≤ DUST
    | _ => True

section LeavesHeld

variable {session : PaperTradingSession} {quote : String} {ctx : ExecuteOrderContext}
  {accounts : Accounts} (h : LeavesHeld session quote ctx accounts)
  (hgoes : GoesThrough session quote ctx accounts)

include h hgoes

theorem LeavesHeld.of_buy (hact : ctx.signal.action = .buy) : 0 < boughtQuantity ctx ∧
    DUST < balance accounts (baseCurrency ctx.symbol) + boughtQuantity ctx := by
  have hleav := h hgoes
  rwa [hact] at hleav

theorem LeavesHeld.of_sell (hact : ctx.signal.action = .sell) : remaining ctx accounts ≤ DUST := by
  have hleav := h hgoes
  rwa [hact] at hleav

end LeavesHeld

section Side

variable (session : PaperTradingSession) (quote : String) (world : World)
  (market : Market) (allocation : AllocationLimits)

/-- Where the loop takes a signal up, its order can be followed, is filled for the whole holding,
and nothing else is sold for it. -/
def SignalHonourable (loop : LoopState) (signal : TradingSignal) : Prop :=
  SignalFollows session quote world market allocation loop signal ∧
    (isSkipped quote loop.heldCoins signal = false →
      LeavesHeld session quote
        (loopContext quote world market allocation loop signal) loop.state.accounts)

variable {session quote world market allocation}

theorem mem_heldCoinsOf {accounts : Accounts} {coin : String} :
    coin ∈ heldCoinsOf quote accounts ↔ coin ≠ quote ∧ DUST < balance accounts coin := by
  simp only [heldCoinsOf, List.mem_toFinset, List.mem_map, List.mem_filter, decide_eq_true_eq]
  constructor
  · rintro ⟨e, ⟨hmem, hne, _⟩, rfl⟩
    refine ⟨hne, ?_⟩
    rwa [balance_of_get? (OrdMap.get?_eq_some_iff.mpr hmem)]
  · rintro ⟨hne, hheld⟩
    cases hget : accounts.get? coin with
    | none =>
      rw [balance, hget, Option.elim_none] at hheld
      exact absurd hheld (by norm_num [DUST])
    | some account =>
      refine ⟨(coin, account), ⟨OrdMap.get?_eq_some_iff.mp hget, hne, ?_⟩, rfl⟩
      rwa [balance_of_get? hget] at hheld

theorem SideHonoured.congr {before after after' : EngineState} {heldCoins : Finset String}
    (h : SideHonoured quote before after heldCoins) (hbooks : SameBooks after after') :
    SideHonoured quote before after' heldCoins := by
  obtain ⟨moves, hmoves, hall⟩ := h.moved
  refine ⟨⟨moves, hmoves.congr hbooks.accounts hbooks.orders, hall⟩, ?_, ?_⟩
  · rw [hbooks.exitTracker, hbooks.accounts]
    exact h.tracks
  · rw [hbooks.accounts]
    exact h.heldCoins

section Fill

variable {loop next : LoopState} {signal : TradingSignal} {p : Posting}

section

variable (h : SignalFilled session quote world market allocation loop next signal p)
  (hheld : ∀ coin, coin ∈ loop.heldCoins ↔ coin ≠ quote ∧ DUST < balance loop.state.accounts coin)
  (hsig : SignalHonourable session quote world market allocation loop signal)

include h hheld hsig

theorem SignalFilled.allowed : Allowed (signal, p) := by
  have hfld := h.filled
  have hfol := (hsig.1 h.takenUp).1
  have hleav := hsig.2 h.takenUp
  by_cases hbuy : signal.action = .buy
  · refine Allowed.of_buy hbuy ?_
    simp only [Posting.baseFlow, hfld.side_buy hbuy, hfld.bought hbuy]
    exact (hleav.of_buy h.goes hbuy).1
  obtain ⟨-, hsold⟩ := hfld.sold hbuy
  by_cases hsell : signal.action = .sell
  · refine Allowed.of_sell hsell ?_
    -- more than dust is held, and no more than that is left
    have hmore := ((hheld _).mp (mem_heldCoins_of_sell hsell h.takenUp)).2
    have hleft : balance loop.state.accounts (baseCurrency (pairSymbol signal.coinId quote))
        - p.order.filledQuantity ≤ DUST := by
      rw [hsold]
      exact hleav.of_sell h.goes hsell
    simp only [Posting.baseFlow, hfld.side_sell hbuy,
      hfld.dust_eq_zero hbuy (hfol.of_sell h.goes hsell)]
    linarith
  · refine Allowed.of_other hbuy hsell ?_
    obtain ⟨hnone, hleft⟩ := hfol.of_other h.goes hbuy hsell
    simp only [Posting.baseFlow, hfld.side_sell hbuy, hsold, hnone,
      hfld.dust_eq_zero hbuy (Or.inr hleft), add_zero, neg_zero]

theorem SignalFilled.heldCoins_iff (coin : String) : coin ∈ next.heldCoins ↔
      coin ≠ quote ∧ DUST < balance next.state.accounts coin := by
  have hfld := h.filled
  have hfol := (hsig.1 h.takenUp).1
  have hleav := hsig.2 h.takenUp
  rw [h.heldCoins]
  by_cases hb : coin = baseCurrency (pairSymbol signal.coinId quote)
  · subst hb
    by_cases hbuy : signal.action = .buy
    · obtain ⟨hne, -⟩ := hfol.of_buy h.goes hbuy
      rw [heldAfter_buy hbuy]
      refine iff_of_true (Finset.mem_insert_self _ _) ⟨hne, ?_⟩
      exact (hfld.balance_buy hne hbuy).symm ▸ (hleav.of_buy h.goes hbuy).2
    by_cases hsell : signal.action = .sell
    · rw [heldAfter_sell hsell]
      refine iff_of_false (Finset.notMem_erase _ _) fun hmore => ?_
      have hleft : balance next.state.accounts (baseCurrency (pairSymbol signal.coinId
          quote)) = _ - p.dust := hfld.balance_sell hmore.1 hbuy
      have hless := hleav.of_sell h.goes hsell
      linarith [hfld.dust_nonneg, hmore.2]
    · rw [heldAfter_other hbuy hsell, hheld]
      refine and_congr_right fun hq => ?_
      rw [hfld.balance_unsold hbuy (hfol.of_other h.goes hbuy hsell) hq]
  · rw [mem_heldAfter_of_ne hb, hheld]
    refine and_congr_right fun hq => ?_
    rw [hfld.balance_other hq hb]

end

end Fill

theorem SideHonoured.processSignal {before : EngineState} {loop : LoopState}
    {signal : TradingSignal} (hsound : SoundAccounts loop.state.accounts)
    (h : SideHonoured quote before loop.state loop.heldCoins)
    (hsig : SignalHonourable session quote world market allocation loop signal) :
    let next := processSignal session quote world market allocation loop signal
    SoundAccounts next.state.accounts ∧ SideHonoured quote before next.state next.heldCoins := by
  intro next
  have hquote : quote ∉ loop.heldCoins := fun hmem => ((h.heldCoins _).mp hmem).1 rfl
  rcases processSignal_cases hsound hsig.1 with ⟨p, hfill⟩ | ⟨hbooks, hheld⟩
  · refine ⟨hfill.filled.sound, ?_, fun tracker htr => ?_, hfill.heldCoins_iff h.heldCoins hsig⟩
    · obtain ⟨moves, hmoves, hall⟩ := h.moved
      refine ⟨moves ++ [(signal, p)], hmoves.trans (hfill.filled.moved hfill.orders), ?_⟩
      intro m hm
      rcases List.mem_append.mp hm with hm | hm
      · exact hall m hm
      · exact List.mem_singleton.mp hm ▸ hfill.allowed h.heldCoins hsig
    · obtain ⟨atr, htold⟩ := hfill.exitTracker
      obtain ⟨tracker', htr', rfl⟩ := Option.map_eq_some_iff.mp (htold.symm.trans htr)
      exact hfill.tracks hsound hquote (hsig.1 hfill.takenUp).1 (h.tracks tracker' htr') atr
  · rw [show next.heldCoins = loop.heldCoins from hheld]
    exact ⟨hbooks.accounts ▸ hsound, h.congr hbooks⟩

end Side

section Tick

variable {session : PaperTradingSession} {world : World} {market : Market} {state : EngineState}

def TracksMemory (session : PaperTradingSession) (quote : String)
    (state : EngineState) : Prop :=
  ∀ tracker, (getOrCreate session state).exitTracker = some tracker →
    Tracks quote state.accounts tracker

theorem getOrCreate_books (session : PaperTradingSession) (state : EngineState) :
    (getOrCreate session state).accounts = state.accounts ∧
      (getOrCreate session state).orders = state.orders := by
  unfold getOrCreate
  split <;> exact ⟨rfl, rfl⟩

section

variable (hsound : SoundAccounts state.accounts)
  (htrks : TracksMemory session (getQuoteCurrency state.accounts.keys) state)

include hsound htrks

theorem exits_sell :
    let quote := getQuoteCurrency state.accounts.keys
    let exited := exitedState session world market state
    SoundAccounts exited.accounts ∧
      (∀ tracker, exited.exitTracker = some tracker → Tracks quote exited.accounts tracker) ∧
      exited.exitTracker.isSome = (getOrCreate session state).exitTracker.isSome ∧
      ∃ moves, Moved quote state exited moves ∧
        ∀ m ∈ moves, m.1.action = .sell ∧ m.2.baseFlow < 0 := by
  intro quote exited
  obtain ⟨haccs, hords⟩ := getOrCreate_books session state
  cases htr : (getOrCreate session state).exitTracker with
  | none =>
    have hextd : exited = getOrCreate session state := by
      unfold exited exitedState checkAndExecute
      rw [htr]
    rw [hextd]
    refine ⟨haccs ▸ hsound, fun tracker h => ?_, by rw [htr], [], Moved.of_eq haccs hords, by simp⟩
    rw [htr] at h
    cases h
  | some tracker =>
    have hcre : SoundAccounts (getOrCreate session state).accounts := haccs ▸ hsound
    have hagree : Tracks quote (getOrCreate session state).accounts tracker := by
      rw [haccs]
      exact htrks tracker htr
    obtain ⟨tracker', hextd⟩ := exited_checkAndExecute session world market hcre htr hagree
    obtain ⟨moves, hmoves, hsells⟩ := hextd.moved
    have hsome : exited.exitTracker = some tracker' := hextd.exitTracker
    refine ⟨hextd.sound, fun tracker'' h => ?_, by rw [hsome]; rfl,
      moves, (Moved.of_eq haccs hords).trans hmoves, hsells⟩
    cases (hsome.symm.trans h)
    exact hextd.tracks

theorem exits_honoured :
    let quote := getQuoteCurrency state.accounts.keys
    let exited := exitedState session world market state
    SoundAccounts exited.accounts ∧
      SideHonoured quote state exited (heldCoinsOf quote exited.accounts) := by
  intro quote exited
  obtain ⟨hextd, htrd, -, moves, hmoves, hsells⟩ := exits_sell hsound htrks
  exact ⟨hextd, ⟨moves, hmoves, fun m hm => Allowed.of_sell (hsells m hm).1 (hsells m hm).2⟩,
    htrd, fun coin => mem_heldCoinsOf⟩

end

/-- **A paper tick honours the side of its signals** where each of them can be honoured: it starts
with tracker and balances in agreement, no short order sells, buys and sales fill whole positions,
and no opportunity sale is made. -/
theorem tick_honours_sides (hsound : SoundAccounts state.accounts)
    (htracks : TracksMemory session (getQuoteCurrency state.accounts.keys) state)
    (hsignals : SignalsMeet session world market state
      (SignalHonourable session (getQuoteCurrency state.accounts.keys) world market)) :
    SideHonoured (getQuoteCurrency state.accounts.keys) state
      (runTick session world market state).2
      (tickLoop session world market state).heldCoins := by
  obtain ⟨hexited, hstart⟩ := exits_honoured hsound htracks
  have hloop := tickLoop_invariant
    (fun loop => SoundAccounts loop.state.accounts ∧
      SideHonoured (getQuoteCurrency state.accounts.keys) state loop.state loop.heldCoins)
    (fun throttled hbooks => ⟨?_, ?_⟩)
    (fun allocation loop signal hkept => hkept.2.processSignal hkept.1) hsignals
  · exact hloop.2.congr runTick_books
  · exact (hbooks.accounts.symm ▸ hexited : SoundAccounts throttled.accounts)
  · have hheld : (startLoop (getQuoteCurrency state.accounts.keys) market throttled).heldCoins =
        heldCoinsOf (getQuoteCurrency state.accounts.keys)
          (exitedState session world market state).accounts := by
      rw [← hbooks.accounts]
      rfl
    rw [hheld]
    exact hstart.congr hbooks

end Tick

/-! ## A buy and a short -/

def sideSession : PaperTradingSession :=
  { roundTripSession with exitConfig := some {} }

def bitcoinMarket : Market where
  priceMap := OrdMap.empty.set "BTC/USDT" 100
  historicalCandles := OrdMap.empty
  price_nonneg := fun symbol price h => by
    rw [OrdMap.get?_set] at h
    split_ifs at h
    · cases h
      norm_num
    · cases h

def signalWorld (now : Instant) (type : AlgoSignalType) : World where
  now := now
  market := .ok bitcoinMarket
  algorithm := fun _ => .ok
    { success := true
      signals := [{ type := type, coinId := "BTC", strength := 1, quantity := some 1,
                    confidence := 1 }] }

theorem soundAccounts_open (session : PaperTradingSession) {quote : String}
    (h : IsCurrency quote) :
    SoundAccounts (openSession session quote).accounts := by
  have hempty : SoundAccounts OrdMap.empty := ⟨fun currency => le_rfl, nofun⟩
  exact hempty.set h session.initialCapital_nonneg

theorem tracksMemory_open (session : PaperTradingSession) (quote : String) :
    TracksMemory session quote (openSession session quote) := by
  intro tracker htr coin
  have hnone : tracker.quantity? coin = none := by
    unfold getOrCreate at htr
    split at htr
    · cases htr
      rfl
    · cases htr
  rw [hnone]
  refine (if_neg ?_).symm
  rintro ⟨hne, hpos⟩
  rw [balance, openSession, OrdMap.get?_set_of_ne _ _ hne.symm] at hpos
  exact lt_irrefl _ hpos

def bitcoinSignal (type : AlgoSignalType) : TradingSignal :=
  mapStrategySignal
    { type := type, coinId := "BTC", strength := 1, quantity := some 1, confidence := 1 }

theorem quote_openSession :
    getQuoteCurrency (openSession sideSession "USDT").accounts.keys = "USDT" := by decide

theorem bitcoinBuy_honourable :
    SignalsMeet sideSession (signalWorld 0 .buy) bitcoinMarket (openSession sideSession "USDT")
      (SignalHonourable sideSession "USDT" (signalWorld 0 .buy) bitcoinMarket) := by
  intro signals hsigs
  rw [quote_openSession] at hsigs ⊢
  obtain rfl : [bitcoinSignal .buy] = signals :=
    Option.some.inj (Eq.trans (by decide +kernel) hsigs)
  have hbuy : (filterPaperSignals sideSession "USDT" (signalWorld 0 .buy) bitcoinMarket
      [bitcoinSignal .buy] (exitedState sideSession (signalWorld 0 .buy) bitcoinMarket
        (openSession sideSession "USDT"))).1.signals = [bitcoinSignal .buy] := by decide +kernel
  dsimp only
  rw [hbuy]
  refine ⟨⟨fun _ => ⟨fun _ => ?_, fun _ _ => noSales_of_off (by decide)⟩, fun _ _ => ?_⟩, trivial⟩
  · exact ⟨by decide, by decide +kernel⟩
  · exact ⟨by decide +kernel, by decide +kernel⟩

theorem tick_honours_sides_buy :
    SideHonoured "USDT" (openSession sideSession "USDT")
      (runTick sideSession (signalWorld 0 .buy) bitcoinMarket (openSession sideSession "USDT")).2
      (tickLoop sideSession (signalWorld 0 .buy) bitcoinMarket
        (openSession sideSession "USDT")).heldCoins := by
  have htick := @tick_honours_sides sideSession (signalWorld 0 .buy) bitcoinMarket
    (openSession sideSession "USDT")
    (soundAccounts_open sideSession (show IsCurrency "USDT" by simp [IsCurrency]))
  rw [quote_openSession] at htick
  exact htick (tracksMemory_open sideSession "USDT") bitcoinBuy_honourable

def bitcoinBought : EngineState :=
  handleTick sideSession (signalWorld 0 .buy) (openSession sideSession "USDT")

def shortWorld : World := signalWorld (24 * HOUR_MS) .shortEntry

/-- **A paper tick sells a held long for an `OPEN_SHORT`**: a bitcoin position is bought, and a day
later the short sells it, while it stays tracked and held. -/
theorem short_sells_long :
    ¬ SideHonoured "USDT" bitcoinBought
      (runTick sideSession shortWorld bitcoinMarket bitcoinBought).2
      (tickLoop sideSession shortWorld bitcoinMarket bitcoinBought).heldCoins := by
  intro h
  have hheld : "BTC" ∈
      (tickLoop sideSession shortWorld bitcoinMarket bitcoinBought).heldCoins := by
    decide +kernel
  have hsold : balance (runTick sideSession shortWorld bitcoinMarket bitcoinBought).2.accounts
      "BTC" = 0 := by
    decide +kernel
  have hleft := ((h.heldCoins "BTC").mp hheld).2
  rw [hsold] at hleft
  exact absurd hleft (by norm_num [DUST])

end Chansey.Paper
