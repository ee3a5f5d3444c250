import Chansey.Paper.Ledger
import Chansey.Paper.Tick

/-!
# Paper sessions stay solvent

An order pays before it books, and charges no more than a part of its value. Over a whole session no
account is overdrawn, whatever market, strategy and database answer.
-/

namespace Chansey.Paper

def Solvent (accounts : Accounts) : Prop := ∀ currency, 0 ≤ balance accounts currency

section Execute

variable {session : PaperTradingSession} {quote : String} {ctx : ExecuteOrderContext}
  {accounts after : Accounts} {order : PaperTradingOrder} {account : PaperTradingAccount}

theorem balance_set (currency c : String) :
    balance (accounts.set currency account) c =
      if currency = c then account.available else balance accounts c := by
  unfold balance
  rw [OrdMap.get?_set]
  split_ifs <;> rfl

theorem soldAccount_nonneg (quantity : ℚ) : 0 ≤ (soldAccount account quantity).available := by
  unfold soldAccount
  split_ifs with hdust
  · exact le_rfl
  · exact (by norm_num [DUST] : (0 : ℚ) ≤ DUST).trans (not_lt.mp hdust)

theorem Solvent.bought (hs : Solvent accounts)
    (hprices : ∀ price ∈ ctx.prices.get? ctx.symbol, 0 ≤ price)
    (h : Bought session quote ctx accounts after order) : Solvent after := by
  obtain ⟨quoteAccount, -, hfunds, rfl⟩ := h.accounts_eq
  intro c
  rw [balance_set, balance_set]
  split_ifs with hbase hquote
  · rw [boughtAccount_available]
    exact add_nonneg (hs (baseCurrency ctx.symbol)) (h.toExecuted.quantity_nonneg hprices)
  · exact sub_nonneg.mpr hfunds
  · exact hs c

theorem Solvent.sold (hs : Solvent accounts)
    (h : Sold session quote ctx accounts after order account) : Solvent after := by
  obtain ⟨quoteAccount, hget, rfl⟩ := h.accounts_eq
  intro c
  rw [balance_set, balance_set]
  split_ifs with hquote hbase
  · exact add_nonneg (balance_of_get? hget ▸ hs quote)
      (sub_nonneg.mpr h.toExecuted.fee_le)
  · exact soldAccount_nonneg _
  · exact hs c

theorem Solvent.execute {result : ExecuteOrderResult} (hs : Solvent accounts)
    (hprices : ctx.signal.action = .buy → ∀ price ∈ ctx.prices.get? ctx.symbol, 0 ≤ price)
    (h : execute session quote ctx accounts = .ok (result, after)) : Solvent after := by
  rcases execute_cases h with ⟨-, -, rfl⟩ | ⟨_, -, hbought | ⟨_, hsold⟩⟩
  · exact hs
  · exact hs.bought (hprices hbought.action) hbought
  · exact hs.sold hsold

end Execute

/-! ## Sessions -/

section Session

variable {session : PaperTradingSession}

theorem solvent_kept (quote : String) (world : World) (market : Market) :
    KeptByOrders session quote world market fun state => Solvent state.accounts where
  order ctx state hprices hs := by
    unfold runOrder
    dsimp only
    split
    · exact hs
    · rename_i result after hexe
      refine hs.execute (fun hbuy price hprice => ?_) hexe
      exact market.price_nonneg _ price ((hprices hbuy) ▸ hprice)
  tracker _ _ hs := hs
  throttle _ _ hs := hs

theorem solvent_runTick (world : World) (market : Market) {state : EngineState}
    (hs : Solvent state.accounts) : Solvent (runTick session world market state).2.accounts := by
  have hkept := @solvent_kept session (getQuoteCurrency state.accounts.keys) world market
  have hexits := hkept.checkAndExecute (hkept.getOrCreate hs)
  have hafter : ∀ signals : Option (List TradingSignal), Solvent
      (signals.elim (startLoop (getQuoteCurrency state.accounts.keys) market
        (checkAndExecute session (getQuoteCurrency state.accounts.keys) world market
          (getOrCreate session state)).2) fun signals =>
        tradeSignals session (getQuoteCurrency state.accounts.keys) world market signals
          (checkAndExecute session (getQuoteCurrency state.accounts.keys) world market
            (getOrCreate session state)).2).state.accounts := by
    rintro (_ | signals)
    · exact hexits
    · exact hkept.tradeSignals signals hexits
  unfold runTick rememberCandles
  dsimp only
  split <;> split_ifs <;> exact hafter _

theorem solvent_processTick (world : World) {state : EngineState} (hs : Solvent state.accounts) :
    Solvent (processTick session world (restoreThrottleStateIfNeeded state)).2.accounts := by
  unfold processTick
  split
  · exact solvent_runTick world _ hs
  · exact hs

theorem solvent_step (event : PaperEvent) {state : EngineState} (hs : Solvent state.accounts) :
    Solvent (sessionStep session state event).accounts := by
  cases event with
  | restart => exact hs
  | tick world =>
    simp only [sessionStep, handleTick]
    split_ifs <;> exact solvent_processTick world hs
  | retryTick world =>
    simp only [sessionStep, handleRetryTick]
    split_ifs <;> exact solvent_processTick world hs

/-- **No balance of a paper session is ever negative**: after any ticks, retried ticks and restarts,
with any answers of markets, order books, strategies and the database. -/
theorem session_solvent (quote : String) (events : List PaperEvent) (currency : String) :
    0 ≤ balance (events.foldl (sessionStep session)
      (openSession session quote)).accounts currency := by
  refine List.foldlRecOn (motive := fun state : EngineState => Solvent state.accounts) events _ ?_
    (fun _ hs event _ => solvent_step event hs) currency
  intro c
  unfold openSession
  rw [balance_set]
  split_ifs
  · exact session.initialCapital_nonneg
  · exact le_rfl

end Session

end Chansey.Paper
