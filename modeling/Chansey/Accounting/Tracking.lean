import Chansey.Loop.Events

/-!
# Exit tracker and portfolio

The exit tracker and the portfolio both describe the long positions of a run. `Tracked` says that
they agree: the tracked coins are those held long, each with the quantity held.

* `longQuantity`: the quantity of a coin held long; `tracked_booked` says what a trade does to it
  and to the tracker.
-/

namespace Chansey

open Result Run

def longQuantity (portfolio : Portfolio) (coinId : CoinId) : Option ℚ :=
  (portfolio.positions.get? coinId).bind fun p =>
    if p.side = some .short then none else some p.quantity

/-- **The tracked coins are the coins held long, each with its quantity.** -/
def Tracked (books : Books) : Prop :=
  ∀ tracker, books.exitTracker = some tracker →
    ∀ coinId, tracker.quantity? coinId = longQuantity books.portfolio coinId

/-- Only shorts are leveraged, so no long position is ever liquidated. -/
def LongUnleveraged (portfolio : Portfolio) : Prop :=
  ∀ coinId p, portfolio.positions.get? coinId = some p → p.side ≠ some .short → p.leverage = none

section LongQuantity

variable {portfolio : Portfolio} {coinId : CoinId} {p : Position}

theorem longQuantity_of_long (hget : portfolio.positions.get? coinId = some p)
    (hside : p.side ≠ some .short) : longQuantity portfolio coinId = some p.quantity := by
  rw [longQuantity, hget, Option.bind_some, if_neg hside]

theorem longQuantity_of_short (hget : portfolio.positions.get? coinId = some p)
    (hside : p.side = some .short) : longQuantity portfolio coinId = none := by
  rw [longQuantity, hget, Option.bind_some, if_pos hside]

theorem longQuantity_of_none (hget : portfolio.positions.get? coinId = none) :
    longQuantity portfolio coinId = none := by
  rw [longQuantity, hget, Option.bind_none]

theorem longQuantity_updateValues (prices : OrdMap CoinId ℚ) (c : CoinId) :
    longQuantity (updateValues portfolio prices) c = longQuantity portfolio c := by
  rw [longQuantity, longQuantity, updateValues_get?]
  cases portfolio.positions.get? c <;> rfl

theorem longQuantity_bookSell (quantity price : ℚ) (hside : p.side ≠ some .short) (c : CoinId) :
    longQuantity (bookSell portfolio coinId p quantity price) c =
      if coinId = c then (if p.quantity - quantity = 0 then none else some (p.quantity - quantity))
      else longQuantity portfolio c := by
  rw [longQuantity, bookSell_get?]
  split_ifs with hc hr
  · rfl
  · simp [hside]
  · rfl

theorem longQuantity_of_others {after : Portfolio} (coinId : CoinId)
    (hbef : ∀ p, portfolio.positions.get? coinId = some p → p.side = some .short)
    (hafter : ∀ p, after.positions.get? coinId = some p → p.side = some .short)
    (hoths : ∀ c, coinId ≠ c → after.positions.get? c = portfolio.positions.get? c) (c : CoinId) :
    longQuantity after c = longQuantity portfolio c := by
  have hnone : ∀ {portfolio : Portfolio},
      (∀ p, portfolio.positions.get? coinId = some p → p.side = some .short) →
        longQuantity portfolio coinId = none := by
    intro portfolio hshort
    cases hget : portfolio.positions.get? coinId with
    | none => exact longQuantity_of_none hget
    | some p => exact longQuantity_of_short hget (hshort p hget)
  by_cases hc : coinId = c
  · subst hc
    rw [hnone hbef, hnone hafter]
  · rw [longQuantity, longQuantity, hoths c hc]

variable {quantity price : ℚ}

theorem longQuantity_bookSell_short (hget : portfolio.positions.get? coinId = some p)
    (hside : p.side = some .short) (c : CoinId) :
    longQuantity (bookSell portfolio coinId p quantity price) c = longQuantity portfolio c := by
  refine longQuantity_of_others coinId (fun q hq => ?_) (fun q hq => ?_) (fun c hc => ?_) c
  · rw [Option.some.inj (hq.symm.trans hget), hside]
  · rw [bookSell_get?, if_pos rfl] at hq
    split at hq <;> cases hq
    exact hside
  · rw [bookSell_get?, if_neg hc]

theorem longQuantity_bookCloseShort (hget : portfolio.positions.get? coinId = some p)
    (hside : p.side = some .short) (c : CoinId) :
    longQuantity (bookCloseShort portfolio coinId p quantity price) c =
      longQuantity portfolio c := by
  refine longQuantity_of_others coinId (fun q hq => ?_) (fun q hq => ?_) (fun c hc => ?_) c
  · rw [Option.some.inj (hq.symm.trans hget), hside]
  · rw [bookCloseShort_get?, if_pos rfl] at hq
    split at hq <;> cases hq
    exact hside
  · rw [bookCloseShort_get?, if_neg hc]

theorem longQuantity_bookBuy (timestamp : Instant)
    (hside : ∀ p, portfolio.positions.get? coinId = some p → p.side ≠ some .short) (c : CoinId) :
    longQuantity (bookBuy portfolio coinId quantity price timestamp) c =
      if coinId = c then some ((longQuantity portfolio coinId).getD 0 + quantity)
      else longQuantity portfolio c := by
  rw [longQuantity, bookBuy_get?]
  split_ifs with hc
  · cases hget : portfolio.positions.get? coinId with
    | none =>
      rw [longQuantity_of_none hget]
      rfl
    | some p =>
      rw [longQuantity_of_long hget (hside p hget)]
      simp [hside p hget]
  · rfl

theorem longQuantity_bookOpenShort {quantity price leverage : ℚ} (timestamp : Instant)
    (hside : ∀ p, portfolio.positions.get? coinId = some p → p.side = some .short) (c : CoinId) :
    longQuantity (bookOpenShort portfolio coinId quantity price leverage timestamp) c =
      longQuantity portfolio c := by
  refine longQuantity_of_others coinId hside (fun q hq => ?_) (fun c hc => ?_) c
  · rw [bookOpenShort_get?, if_pos rfl] at hq
    cases hq
    rfl
  · rw [bookOpenShort_get?, if_neg hc]

end LongQuantity

/-! ## No leverage on long positions -/

section Leverage

variable {math : Js.Math} {order : ExecuteTradeParams} {base : ℚ} {portfolio after : Portfolio}
  {result : ActionResult}

theorem LongUnleveraged.of_get? (h : LongUnleveraged portfolio)
    (hget : ∀ coinId p, after.positions.get? coinId = some p → p.side ≠ some .short →
      p.leverage = none ∨ portfolio.positions.get? coinId = some p) : LongUnleveraged after := by
  intro coinId p hp hside
  rcases hget coinId p hp hside with hnone | hold
  · exact hnone
  · exact h coinId p hold hside

theorem longUnleveraged_booked (h : LongUnleveraged portfolio)
    (hbkd : BookedAction math order base portfolio result after) : LongUnleveraged after := by
  refine h.of_get? fun c p hp hside => ?_
  cases hbkd with
  | buy =>
    rw [bookBuy_get?] at hp
    split_ifs at hp with hc
    · left
      cases hget : portfolio.positions.get? order.signal.coinId with
      | none =>
        rw [hget] at hp
        cases hp
        rfl
      | some e =>
        rw [hget] at hp
        cases hp
        exact h _ e hget hside
    · exact .inr hp
  | sell e fill ha hget =>
    rw [bookSell_get?] at hp
    split_ifs at hp with hc hr
    · cases hp
      exact .inl (h _ e hget hside)
    · exact .inr hp
  | openShort =>
    rw [bookOpenShort_get?] at hp
    split_ifs at hp with hc
    · cases hp
      exact absurd rfl hside
    · exact .inr hp
  | closeShort e fill ha hget hs =>
    rw [bookCloseShort_get?] at hp
    split_ifs at hp with hc hr
    · cases hp
      exact absurd hs hside
    · exact .inr hp

theorem isLiquidated_of_unleveraged {p : Position} (h : p.leverage = none) (prices : OrdMap CoinId ℚ)
    (coinId : CoinId) : liquidationAt prices coinId p = none := by
  rw [liquidationAt, h]
  rfl

end Leverage

/-! ## What an event does to both -/

/-- **The events that tell the tracker what they do to a long position**: no buy into a short and no
short over a long, which only an entry without quantity allows; no opportunity sale of a long; no
triggered exit that the market fills in part. -/
def TrackingSafe (env : LoopEnv) (books : Books) (event : LoopEvent) : Prop :=
  ∀ tracker, books.exitTracker = some tracker →
    match event with
    | .trade _ _ _ signal =>
      ∀ p, books.portfolio.positions.get? signal.coinId = some p → ¬ 0 < p.quantity →
        (signal.action = .buy → p.side ≠ some .short) ∧
          (signal.action = .openShort → p.side = some .short)
    | .opportunitySale market plan candidate remainingShortfall quantity =>
      let signal := opportunitySellSignal plan candidate remainingShortfall quantity
      ∀ p price, books.portfolio.positions.get? candidate.coinId = some p → p.quantity ≠ 0 →
        p.side ≠ some .short → market.marketData.prices.get? candidate.coinId = some price →
          assessedStatus env.math (opportunityOrder env.cfg market signal)
            (resolveBasePrice signal price) (calculateSellQuantity signal p.quantity).quantity
              false = .cancelled
    | .exits market currentBar =>
      ∀ exit ∈ (triggeredExits market tracker currentBar).2, ∀ price,
        market.marketData.prices.get? exit.coinId = some price →
          assessedStatus env.math (exitOrder env.cfg env.fullFidelity market exit)
            (resolveBasePrice (exitTradingSignal env.fullFidelity exit) price) exit.quantity false ≠
              .partialFill
    | _ => True

/-- The invariant of a run: agreement, and no leverage on long positions. -/
structure TrackedBooks (books : Books) : Prop where
  tracked : Tracked books
  unleveraged : LongUnleveraged books.portfolio

section Step

variable {env : LoopEnv} {math : Js.Math} {order : ExecuteTradeParams} {base : ℚ}
  {portfolio booked after : Portfolio} {result : ActionResult} {tracker : BacktestExitTracker}

theorem longUnleveraged_executeTrade (h : LongUnleveraged portfolio)
    {result? : Option ExecuteTradeResult}
    (htrade : executeTrade math order portfolio = .ok (result?, after)) : LongUnleveraged after := by
  cases result? with
  | none =>
    rw [executeTrade_none htrade]
    exact h
  | some =>
    rcases executeTrade_some htrade with ⟨-, rfl⟩ | ⟨-, hfld⟩
    · exact h
    · obtain ⟨_, _, _, _, -, -, -, hbkd, -, -, rfl⟩ := hfld.exists_booking
      have hkept := longUnleveraged_booked h hbkd
      exact fun coinId p hp hside => hkept coinId p hp hside

theorem tracked_booked (fee : ℚ) (hagree : ∀ c, tracker.quantity? c = longQuantity portfolio c)
    (hvalid : validatePositionConflicts order.signal portfolio = true)
    (hbkd : BookedAction math order base portfolio result booked)
    (hsafe : ∀ p, portfolio.positions.get? order.signal.coinId = some p → ¬ 0 < p.quantity →
      (order.signal.action = .buy → p.side ≠ some .short) ∧
        (order.signal.action = .openShort → p.side = some .short)) (c : CoinId) :
    (trackTrade tracker order.signal (tradeRow order.signal base fee result)).quantity? c =
      longQuantity booked c := by
  cases hbkd with
  | buy fill estimate ha hfill hdeploy hfee hcash hres =>
    have hside : ∀ p, portfolio.positions.get? order.signal.coinId = some p →
        p.side ≠ some .short := by
      intro p hp
      refine (hsafe p hp ?_).1 ha
      simpa [validatePositionConflicts, ha, hp] using hvalid
    rw [longQuantity_bookBuy _ hside, ← hagree, ← hagree, trackTrade, ha]
    dsimp only
    rw [BacktestExitTracker.quantity?_onBuy, tradeRow, hres]
  | sell e fill ha hget hq hfill hle hqty =>
    have htrack : trackTrade tracker order.signal (tradeRow order.signal base fee result) =
        tracker.onSell order.signal.coinId fill.quantity := by
      rw [trackTrade, ha, tradeRow, hqty]
    rw [htrack, BacktestExitTracker.quantity?_onSell]
    by_cases hside : e.side = some .short
    · -- a coin held short is not tracked
      rw [longQuantity_bookSell_short hget hside, hagree, hagree, longQuantity_of_short hget hside]
      split_ifs with hc
      · rw [← hc, longQuantity_of_short hget hside, Option.bind_none]
      · rfl
    · rw [longQuantity_bookSell _ _ hside, hagree, hagree, longQuantity_of_long hget hside]
      have hzero : e.quantity - fill.quantity ≤ 0 ↔ e.quantity - fill.quantity = 0 := by
        constructor
        · intro hle'
          linarith
        · intro heq
          exact heq.le
      simp only [Option.bind_some, hzero]
  | openShort fill estimate ha =>
    have hside : ∀ p, portfolio.positions.get? order.signal.coinId = some p →
        p.side = some .short := by
      intro p hp
      by_contra hs
      refine hs ((hsafe p hp ?_).2 ha)
      simpa [validatePositionConflicts, ha, hp, hs] using hvalid
    rw [longQuantity_bookOpenShort _ hside, ← hagree, trackTrade, ha]
  | closeShort e fill ha hget hside =>
    rw [longQuantity_bookCloseShort hget hside, ← hagree, trackTrade, ha]

variable {market : BarMarket} {books next : Books}

theorem trackedBooks_trade {maxAllocation minAllocation : ℚ} {signal : TradingSignal}
    {traded : Bool} (h : TrackedBooks books)
    (hsafe : TrackingSafe env books (.trade market maxAllocation minAllocation signal))
    (hstep : tradeSignal env.math env.cfg market maxAllocation minAllocation signal books =
      .ok (traded, next)) : TrackedBooks next := by
  unfold tradeSignal at hstep
  obtain ⟨⟨result?, _⟩, htrade, hstep⟩ := bind_eq_ok.mp hstep
  have hlev := longUnleveraged_executeTrade h.unleveraged htrade
  cases result? with
  | none =>
    cases hstep
    rw [executeTrade_none htrade]
    exact h
  | some =>
    obtain ⟨_, hrec, hstep⟩ := bind_eq_ok.mp hstep
    cases hstep
    unfold recordTradeResult at hrec
    rcases executeTrade_some htrade with ⟨hcanc, rfl⟩ | ⟨hstat, hfld⟩
    · rw [if_pos hcanc.status] at hrec
      cases hrec
      exact ⟨h.tracked, hlev⟩
    · rw [if_neg hstat] at hrec
      split at hrec
      · cases hrec
      · cases hrec
        refine ⟨fun tracker htr => ?_, hlev⟩
        obtain ⟨old, hold, rfl⟩ := Option.map_eq_some_iff.mp htr
        obtain ⟨_, _, _, fee, -, -, hvalid, hbkd, -, rfl, rfl⟩ := hfld.exists_booking
        have hkept := tracked_booked fee (h.tracked old hold) hvalid hbkd (hsafe old hold)
        exact fun c => hkept c

theorem trackedBooks_opportunitySale {plan : SellPlan} {candidate : SellCandidate}
    {remainingShortfall quantity : ℚ} {sold : Option ExecuteTradeResult} (h : TrackedBooks books)
    (hsafe : TrackingSafe env books
      (.opportunitySale market plan candidate remainingShortfall quantity))
    (hstep : opportunitySale env.math env.cfg market
      (opportunitySellSignal plan candidate remainingShortfall quantity) books =
        .ok (sold, next)) : TrackedBooks next := by
  unfold opportunitySale at hstep
  obtain ⟨⟨result?, _⟩, htrade, hstep⟩ := bind_eq_ok.mp hstep
  cases hstep
  have htr : ∀ b r?, (bookSale env.cfg market (opportunitySellSignal plan candidate
      remainingShortfall quantity) b r?).exitTracker = b.exitTracker := by
    intro b r?
    cases r? with
    | none => rfl
    | some =>
      unfold bookSale
      dsimp only
      split_ifs <;> rfl
  refine ⟨fun tracker ht c => ?_, ?_⟩
  · rw [htr] at ht
    rw [bookSale_portfolio, h.tracked tracker ht]
    -- the sale leaves every long quantity, since only shorts are sold
    cases result? with
    | none => rw [executeTrade_none htrade]
    | some =>
      rcases executeTrade_some htrade with ⟨-, rfl⟩ | ⟨hstat, hfld⟩
      · rfl
      · obtain ⟨price, _, _, _, hprice, -, -, hbkd, -, rfl, rfl⟩ := hfld.exists_booking
        cases hbkd with
        | sell e fill ha hget hq hfill hle hqty hp hvalue hs =>
          have hside : e.side = some .short := by
            by_contra hlong
            have hcanc := hsafe tracker ht e price hget hq hlong hprice
            have hfillStatus := (applySlippageAndFill_status hfill).1
            exact hstat ((hs.trans hfillStatus).trans hcanc)
          exact (longQuantity_bookSell_short hget hside c).symm
        | buy fill estimate ha | openShort fill estimate ha | closeShort e fill ha => cases ha
  · rw [bookSale_portfolio]
    exact longUnleveraged_executeTrade h.unleveraged htrade

theorem trackedBooks_fillExit {exit : ExitSignal} (h : TrackedBooks books)
    (htrd : books.exitTracker = some tracker)
    (hquantity : tracker.quantity? exit.coinId = some exit.quantity)
    (hsafe : ∀ price, market.marketData.prices.get? exit.coinId = some price →
      assessedStatus env.math (exitOrder env.cfg env.fullFidelity market exit)
        (resolveBasePrice (exitTradingSignal env.fullFidelity exit) price) exit.quantity false ≠
          .partialFill)
    (hstep : fillExit env.math env.cfg env.fullFidelity market books exit = .ok next) :
    TrackedBooks next ∧
      (next.exitTracker = some tracker ∨
        next.exitTracker = some (tracker.removePosition exit.coinId)) := by
  unfold fillExit at hstep
  obtain ⟨⟨result?, portfolio⟩, htrade, hstep⟩ := bind_eq_ok.mp hstep
  cases hstep
  have hlev := longUnleveraged_executeTrade h.unleveraged htrade
  have hkept : ∀ b : Books, b.exitTracker = some tracker → b.portfolio = books.portfolio →
      TrackedBooks b := by
    intro b hb hp
    refine ⟨fun t ht c => ?_, by rw [hp]; exact h.unleveraged⟩
    rw [hp]
    exact h.tracked t (by rw [htrd, ← hb, ht]) c
  cases result? with
  | none =>
    rw [executeTrade_none htrade]
    unfold bookExit
    split_ifs
    all_goals exact ⟨hkept _ htrd rfl, Or.inl htrd⟩
  | some r =>
    rcases executeTrade_some htrade with ⟨hcanc, rfl⟩ | ⟨hstat, hfld⟩
    · unfold bookExit
      simp only [hcanc.status, if_true]
      split_ifs
      all_goals exact ⟨hkept _ htrd rfl, Or.inl htrd⟩
    · have hnext : (bookExit env.cfg env.fullFidelity market exit
          { (if env.fullFidelity = true then
              { books with
                signals := books.signals ++
                  [exitSignalRecord env.cfg market.marketData.timestamp exit] }
              else books) with portfolio := portfolio } (some r)).exitTracker =
          some (tracker.removePosition exit.coinId) := by
        unfold bookExit
        simp only [hstat, if_false]
        split_ifs <;> simp [htrd]
      refine ⟨⟨fun t ht c => ?_, ?_⟩, Or.inr hnext⟩
      · cases hnext.symm.trans ht
        rw [bookExit_portfolio, BacktestExitTracker.quantity?_removePosition]
        obtain ⟨price, _, _, _, hprice, -, -, hbkd, -, rfl, rfl⟩ := hfld.exists_booking
        cases hbkd with
        | sell e fill ha hget hq hfill =>
          replace hget : books.portfolio.positions.get? exit.coinId = some e := hget
          have hlong : longQuantity books.portfolio exit.coinId = some exit.quantity := by
            rw [← h.tracked tracker htrd, hquantity]
          have hside : e.side ≠ some .short := by
            intro hshort
            rw [longQuantity_of_short hget hshort] at hlong
            cases hlong
          have hsame : e.quantity = exit.quantity := by
            rw [longQuantity_of_long hget hside] at hlong
            exact Option.some.inj hlong
          have hsize : (calculateSellQuantity (exitTradingSignal env.fullFidelity exit)
              e.quantity).quantity = e.quantity := by
            have htruthy : Js.truthy? (some exit.quantity) = some exit.quantity :=
              Js.truthy?_eq_some.mpr ⟨rfl, hsame ▸ hq⟩
            rw [calculateSellQuantity, exitTradingSignal]
            simp only [htruthy]
            exact min_eq_right hsame.le
          -- the fill is neither cancelled nor partial, so it is the whole position
          have hall : fill.quantity = e.quantity := by
            obtain ⟨hfillStatus, -⟩ := applySlippageAndFill_status hfill
            obtain ⟨-, -, -, hfull | ⟨hcapd, -⟩⟩ := applySlippageAndFill_filled hfill
            · exact hfull.trans hsize
            · refine absurd ?_ (hsafe price hprice)
              rw [← hcapd, hfillStatus, ← hsame]
              exact congrArg (fun q => assessedStatus _ _ _ q false) hsize.symm
          refine Eq.trans ?_ (longQuantity_bookSell fill.quantity fill.price hside c).symm
          rw [hall, sub_self, if_pos rfl, h.tracked tracker htrd]
          rfl
        | buy fill estimate ha | openShort fill estimate ha | closeShort e fill ha => cases ha
      · rw [bookExit_portfolio]
        exact hlev

theorem trackedBooks_fillExits {exits : List ExitSignal} {books after : Books}
    (h : TrackedBooks books) (htrd : books.exitTracker = some tracker)
    (hnodup : (exits.map (·.coinId)).Nodup)
    (hqty : ∀ exit ∈ exits, tracker.quantity? exit.coinId = some exit.quantity)
    (hsafe : ∀ exit ∈ exits, ∀ price, market.marketData.prices.get? exit.coinId = some price →
      assessedStatus env.math (exitOrder env.cfg env.fullFidelity market exit)
        (resolveBasePrice (exitTradingSignal env.fullFidelity exit) price) exit.quantity false ≠
          .partialFill)
    (hfold : exits.foldlM (fillExit env.math env.cfg env.fullFidelity market) books = .ok after) :
    TrackedBooks after := by
  induction exits generalizing books tracker with
  | nil =>
    cases hfold
    exact h
  | cons exit exits ih =>
    rw [List.foldlM_cons] at hfold
    obtain ⟨_, hfill, hfold⟩ := bind_eq_ok.mp hfold
    rw [List.map_cons, List.nodup_cons] at hnodup
    obtain ⟨hnext, hnextTracker⟩ := trackedBooks_fillExit h htrd
      (hqty exit List.mem_cons_self) (hsafe exit List.mem_cons_self) hfill
    have hrest : ∀ e ∈ exits, tracker.quantity? e.coinId = some e.quantity :=
      fun e he => hqty e (List.mem_cons_of_mem exit he)
    have hsafeRest := fun e he => hsafe e (List.mem_cons_of_mem exit he)
    rcases hnextTracker with hsame | hremoved
    · exact ih hnext hsame hnodup.2 hrest hsafeRest hfold
    · refine ih hnext hremoved hnodup.2 (fun e he => ?_) hsafeRest hfold
      have hne : exit.coinId ≠ e.coinId := by
        intro heq
        exact hnodup.1 (heq ▸ List.mem_map_of_mem he)
      rw [BacktestExitTracker.quantity?_removePosition, if_neg hne]
      exact hrest e he

theorem trackedBooks_exits {currentBar : ℕ} {books after : Books} (h : TrackedBooks books)
    (hsafe : TrackingSafe env books (.exits market currentBar))
    (hstep : processExitSignals env.math env.cfg env.fullFidelity market currentBar books =
      .ok after) : TrackedBooks after := by
  unfold processExitSignals at hstep
  split at hstep
  · cases hstep
    exact h
  · rename_i tracker htrd
    obtain ⟨hkept, hnodup, hqty⟩ := tracker.checkExits_spec market.marketData.prices
      (OrdMap.ofEntries (market.currentPrices.map fun c => (c.coinId, c.low)))
      (OrdMap.ofEntries (market.currentPrices.map fun c => (c.coinId, c.high))) currentBar
    -- the bar's check moves trailing stops, but no quantity
    have hchk : TrackedBooks
        { books with exitTracker := some (triggeredExits market tracker currentBar).1 } := by
      refine ⟨fun t ht c => ?_, h.unleveraged⟩
      cases ht
      exact (hkept c).trans (h.tracked tracker htrd c)
    refine trackedBooks_fillExits hchk rfl hnodup (fun exit he => ?_)
      (hsafe tracker htrd) hstep
    exact (hkept exit.coinId).trans (hqty exit he)

theorem trackedBooks_liquidations (marketData : MarketData) {books : Books}
    (h : TrackedBooks books) : TrackedBooks (applyLiquidations env.cfg marketData books) := by
  have hget := liquidations_get? books.portfolio marketData env.cfg.coinMap env.cfg.quoteCoin
  constructor
  · intro tracker ht c
    rw [h.tracked tracker ht c]
    change longQuantity books.portfolio c = longQuantity (checkAndApplyLiquidations
      books.portfolio marketData env.cfg.coinMap env.cfg.quoteCoin).2 c
    rw [longQuantity, longQuantity, hget]
    cases hp : books.portfolio.positions.get? c with
    | none => rfl
    | some p =>
      by_cases hside : p.side = some .short
      · -- a short counts for nothing, liquidated or not
        cases hl : (liquidationAt marketData.prices c p).isNone <;> simp [Option.filter, hl, hside]
      · have hnone := isLiquidated_of_unleveraged (h.unleveraged c p hp hside)
          marketData.prices c
        simp [Option.filter, hnone]
  · refine h.unleveraged.of_get? fun c p hp hside => Or.inr ?_
    have hfil := (hget c).symm.trans hp
    exact (Option.filter_eq_some_iff.mp hfil).1

theorem quantity?_removePositions {β : Type} (tracker : BacktestExitTracker)
    (es : List (CoinId × β)) (c : CoinId) :
    (es.foldl (fun t e => t.removePosition e.1) tracker).quantity? c =
      if c ∈ es.map Prod.fst then none else tracker.quantity? c := by
  induction es generalizing tracker with
  | nil => rfl
  | cons e es ih =>
    rw [List.foldl_cons, ih, BacktestExitTracker.quantity?_removePosition]
    by_cases heq : e.1 = c
    · simp [heq]
    · have hne : c ≠ e.1 := fun h => heq h.symm
      simp only [heq, if_false, List.map_cons, List.mem_cons, hne, false_or]

theorem trackedBooks_delistingExits (lastKnownPrices : OrdMap CoinId ℚ) (timestamp : Instant)
    {books : Books} (h : TrackedBooks books) :
    TrackedBooks (applyDelistingExits env.cfg env.delistingDates env.delistingPenalty
      lastKnownPrices timestamp books) := by
  unfold applyDelistingExits
  split_ifs with hsize
  · exact h
  · have hget := delistingExits_get? books.portfolio env.delistingDates lastKnownPrices timestamp
      env.delistingPenalty books.exitTracker env.cfg.coinMap env.cfg.quoteCoin
    constructor
    · intro tracker ht c
      obtain ⟨old, hold, rfl⟩ := Option.map_eq_some_iff.mp ht
      rw [quantity?_removePositions, h.tracked old hold c]
      change _ = longQuantity (checkAndApplyDelistingExits books.portfolio env.delistingDates
        lastKnownPrices timestamp env.delistingPenalty books.exitTracker env.cfg.coinMap
        env.cfg.quoteCoin).2.1 c
      rw [longQuantity, longQuantity, hget]
      have hmem : c ∈ (delistedPositions books.portfolio env.delistingDates timestamp).map
          Prod.fst ↔ (books.portfolio.positions.get? c).isSome ∧
            (delistedSince env.delistingDates timestamp c).isSome := by
        simp [List.mem_map, mem_delistedPositions, Option.isSome_iff_exists]
      cases hp : books.portfolio.positions.get? c <;>
        cases hd : delistedSince env.delistingDates timestamp c <;> simp [hmem, hp, hd]
    · refine h.unleveraged.of_get? fun c p hp hside => Or.inr ?_
      have hkept := (hget c).symm.trans hp
      split_ifs at hkept
      exact hkept

theorem trackedBooks_entryCheck (currentBar : ℕ) (signal : TradingSignal) {books : Books}
    (h : TrackedBooks books) : TrackedBooks (passesCooldown currentBar books signal).2 := by
  unfold passesCooldown
  cases htrd : books.exitTracker with
  | none => exact h
  | some tracker =>
    dsimp only
    split_ifs with ha
    · refine ⟨fun t ht c => ?_, h.unleveraged⟩
      cases ht
      rw [BacktestExitTracker.quantity?_canEnter]
      exact h.tracked tracker htrd c
    · exact h

theorem trackedBooks_step {event : LoopEvent} {books after : Books} (h : TrackedBooks books)
    (hsafe : TrackingSafe env books event) (hstep : loopStep env books event = .ok after) :
    TrackedBooks after := by
  cases event with
  | revaluation =>
    cases hstep
    refine ⟨fun tracker ht c => ?_, fun c p hp hside => ?_⟩
    · rw [Books.revalue_portfolio, longQuantity_updateValues]
      exact h.tracked tracker ht c
    · rw [Books.revalue_portfolio, updateValues_get?] at hp
      obtain ⟨old, hold, rfl⟩ := Option.map_eq_some_iff.mp hp
      exact h.unleveraged c old hold hside
  | signalRow =>
    cases hstep
    exact ⟨h.tracked, h.unleveraged⟩
  | trade =>
    obtain ⟨⟨_, _⟩, htrade, rfl⟩ := map_eq_ok.mp hstep
    exact trackedBooks_trade h hsafe htrade
  | opportunitySale =>
    obtain ⟨⟨_, _⟩, hsale, rfl⟩ := map_eq_ok.mp hstep
    exact trackedBooks_opportunitySale h hsafe hsale
  | exits => exact trackedBooks_exits h hsafe hstep
  | liquidations marketData =>
    cases hstep
    exact trackedBooks_liquidations marketData h
  | delistingExits lastKnownPrices timestamp =>
    cases hstep
    exact trackedBooks_delistingExits lastKnownPrices timestamp h
  | entryCheck currentBar signal =>
    cases hstep
    exact trackedBooks_entryCheck currentBar signal h

end Step

/-! ## Runs -/

def startBooks (initialCapital : ℚ) (exitConfig : Option ExitConfig) : Books where
  portfolio := startPortfolio initialCapital
  exitTracker := exitConfig.map fun config => { config := config }

theorem trackedBooks_start (initialCapital : ℚ) (exitConfig : Option ExitConfig) :
    TrackedBooks (startBooks initialCapital exitConfig) := by
  refine ⟨fun tracker ht c => ?_, fun c p hp => by cases hp⟩
  obtain ⟨_, -, rfl⟩ := Option.map_eq_some_iff.mp ht
  rfl

/-- **Tracker and portfolio agree in every state of a run whose events tell the tracker what they do
to a long position.** -/
theorem tracked_run (env : LoopEnv) (initialCapital : ℚ) (exitConfig : Option ExitConfig)
    (events : List LoopEvent) (after : Books)
    (hsafe : StepsMeet (loopStep env) (TrackingSafe env) (startBooks initialCapital exitConfig)
      events)
    (hrun : run (loopStep env) (startBooks initialCapital exitConfig) events = .ok after) :
    Tracked after := by
  refine TrackedBooks.tracked ?_
  refine run_invariant TrackedBooks (fun books event next h hok hstep => ?_)
    (trackedBooks_start initialCapital exitConfig) hsafe hrun
  exact trackedBooks_step h hok hstep

def btcEnv (slippage : SlippageSnapshot) : LoopEnv where
  math := ⟨id, id, id, fun base _ => base⟩
  cfg :=
    { backtest :=
        { id := "b1", tradingFee := 0, initialCapital := 1000, startDate := 0, endDate := 0 }
      slippageConfig := buildSlippageConfig (some slippage) none
      minHoldMs := 0
      maxAllocation := 1 / 4
      minAllocation := 1 / 4
      oppSellingEnabled := false
      oppSellingConfig := {}
      coinMap := OrdMap.empty.set "btc" ⟨"btc", "BTC"⟩
      quoteCoin := ⟨"usd", "USD"⟩ }

def flatBar (timestamp : Instant) (price volume : ℚ) : BarMarket where
  marketData := { timestamp := timestamp, prices := OrdMap.empty.set "btc" price }
  currentPrices :=
    [{ coinId := "btc", timestamp := timestamp, openPrice := price, high := price, low := price,
       close := price, quoteVolume := some volume }]
  prevCandleMap := OrdMap.empty

def buyAndStopOut : List LoopEvent :=
  [.trade (flatBar 0 100 100000) (1 / 4) (1 / 4)
      { action := .buy, coinId := "btc", quantity := some 2 },
    .exits (flatBar HOUR_MS 90 900) 1]

theorem assessedStatus_of_not_volumeBased (math : Js.Math) {order : ExecuteTradeParams}
    (h : order.slippageConfig.type ≠ .volumeBased) (base quantity : ℚ) (isBuy : Bool) :
    assessedStatus math order base quantity isBuy = .filled := by
  have htype : order.slippageConfig.build.type ≠ .volumeBased := h
  rw [assessedStatus, assessFillability]
  simp only [if_neg htype]

theorem tracked_buyAndStopOut :
    ∃ after, run (loopStep (btcEnv { model := some "none" }))
        (startBooks 1000 (some DEFAULT_BACKTEST_EXIT_CONFIG)) buyAndStopOut = .ok after ∧
      Tracked after := by
  have hrun : (run (loopStep (btcEnv { model := some "none" }))
      (startBooks 1000 (some DEFAULT_BACKTEST_EXIT_CONFIG)) buyAndStopOut).map
        (fun b => b.trades.length) = .ok 2 := by decide +kernel
  obtain ⟨after, hafter, -⟩ := map_eq_ok.mp hrun
  refine ⟨after, hafter, tracked_run _ 1000 (some DEFAULT_BACKTEST_EXIT_CONFIG) _ after ?_ hafter⟩
  refine ⟨fun _ _ p hp => (by cases hp), fun next _ => ⟨?_, fun _ _ => trivial⟩⟩
  intro tracker _ exit _ price _
  have htype : (btcEnv { model := some "none" }).cfg.slippageConfig.type ≠ .volumeBased := by decide
  rw [assessedStatus_of_not_volumeBased _ htype]
  decide

def thinMarket : SlippageSnapshot where
  model := some "volume-based"
  baseSlippageBps := some 0
  volatilityFactor := some 0
  participationRateLimit := some (1 / 10)
  rejectParticipationRate := some (1 / 2)

/-- **A stop that is filled in part leaves a position that nothing tracks**: one of two coins. -/
theorem partialStop_untracked :
    (run (loopStep (btcEnv thinMarket))
        (startBooks 1000 (some DEFAULT_BACKTEST_EXIT_CONFIG)) buyAndStopOut).map
        (fun b => (longQuantity b.portfolio "btc", b.exitTracker.map (·.quantity? "btc"))) =
      .ok (some 1, some none) ∧
    ¬ ∀ env initialCapital exitConfig events after,
      run (loopStep env) (startBooks initialCapital exitConfig) events = .ok after →
        Tracked after := by
  have hrun : (run (loopStep (btcEnv thinMarket))
        (startBooks 1000 (some DEFAULT_BACKTEST_EXIT_CONFIG)) buyAndStopOut).map
        (fun b => (longQuantity b.portfolio "btc", b.exitTracker.map (·.quantity? "btc"))) =
      .ok (some 1, some none) := by decide +kernel
  refine ⟨hrun, fun h => ?_⟩
  obtain ⟨after, hafter, heq⟩ := map_eq_ok.mp hrun
  obtain ⟨hlong, htracker⟩ := Prod.mk.inj heq
  obtain ⟨tracker, ht, hnone⟩ := Option.map_eq_some_iff.mp htracker
  have hagree := h _ _ _ _ after hafter tracker ht "btc"
  rw [hnone, hlong] at hagree
  cases hagree

end Chansey
