import Chansey.PortfolioService.Apply

/-!
# The portfolio under the service's trades

Runs of the portfolio service's operations, each applied to what the last one returned.

* `PortfolioOp`, `PortfolioOp.apply`: the operations. `LotPortfolio`: a portfolio beside the lots
  its longs were bought in, a sale taking the same share of each.
-/

namespace Chansey

inductive PortfolioOp where
  | buy (coinId : CoinId) (quantity price fee : ℚ) (currentPrices : Option (OrdMap CoinId ℚ))
  | sell (coinId : CoinId) (quantity price fee : ℚ) (currentPrices : Option (OrdMap CoinId ℚ))
  | openShort (coinId : CoinId) (quantity price fee leverage : ℚ)
      (currentPrices : Option (OrdMap CoinId ℚ))
  | closeShort (coinId : CoinId) (quantity price fee : ℚ)
      (currentPrices : Option (OrdMap CoinId ℚ))
  | updateValues (prices : OrdMap CoinId ℚ)

namespace PortfolioOp

def apply (portfolio : Portfolio) : PortfolioOp → ApplyTradeResult
  | buy coinId quantity price fee currentPrices =>
    applyBuy portfolio coinId quantity price fee currentPrices
  | sell coinId quantity price fee currentPrices =>
    applySell portfolio coinId quantity price fee currentPrices
  | openShort coinId quantity price fee leverage currentPrices =>
    applyOpenShort portfolio coinId quantity price fee leverage currentPrices
  | closeShort coinId quantity price fee currentPrices =>
    applyCloseShort portfolio coinId quantity price fee currentPrices
  | updateValues prices => { portfolio := Chansey.updateValues portfolio prices, success := true }

def Amounts : PortfolioOp → Prop
  | buy _ quantity price fee _ => 0 < quantity ∧ 0 ≤ price ∧ 0 ≤ fee
  | sell _ quantity price fee _ => 0 < quantity ∧ 0 ≤ price ∧ 0 ≤ fee
  | openShort _ quantity price fee leverage _ =>
    0 < quantity ∧ 0 ≤ price ∧ 0 ≤ fee ∧ 0 < leverage
  | closeShort _ quantity price fee _ => 0 < quantity ∧ 0 ≤ price ∧ 0 ≤ fee
  | updateValues _ => True

/-- The lots of the longs once the operation went through. -/
def bookLots (portfolio : Portfolio) (lots : CoinId → Lots ℚ) : PortfolioOp → CoinId → Lots ℚ
  | buy coinId quantity price _ _ =>
    Function.update lots coinId (Lots.buy (lots coinId) quantity price)
  | sell coinId quantity _ _ _ =>
    match portfolio.positions.get? coinId with
    | none => lots
    | some p =>
      Function.update lots coinId
        (if p.quantity ≤ quantity then [] else Lots.sell (lots coinId) quantity)
  | _ => lots

end PortfolioOp

/-- A portfolio, and the lots its longs hold of their buys since they were last flat. -/
structure LotPortfolio where
  portfolio : Portfolio
  lots : CoinId → Lots ℚ

namespace LotPortfolio

def step (s : LotPortfolio) (op : PortfolioOp) : LotPortfolio where
  portfolio := (op.apply s.portfolio).portfolio
  lots := if (op.apply s.portfolio).success then op.bookLots s.portfolio s.lots else s.lots

/-- `initialize` -/
def start (initialCapital : ℚ) : LotPortfolio := ⟨startPortfolio initialCapital, fun _ => []⟩

def AveragesLots (s : LotPortfolio) : Prop :=
  ∀ coinId p, s.portfolio.positions.get? coinId = some p → p.isShort = false →
    p.averagePrice = (s.lots coinId).mean

/-- A coin that stays keeps its side. A buy or a sell leaves every short as it is, and a short is
opened where the coin has no position. -/
def KeepsSides (before after : Portfolio) (op : PortfolioOp) : Prop :=
  (∀ coinId p p', before.positions.get? coinId = some p → after.positions.get? coinId = some p' →
    p'.isShort = p.isShort) ∧
  match op with
  | .buy .. | .sell .. =>
    ∀ coinId p, before.positions.get? coinId = some p → p.isShort = true →
      after.positions.get? coinId = some p
  | .openShort coinId .. => before.positions.get? coinId = none
  | _ => True

/-- A failed operation returns the portfolio as it was; a successful one keeps cash, sides, the
margin in use and the average prices in order. -/
structure Keeps (s : LotPortfolio) (op : PortfolioOp) : Prop where
  failure : (op.apply s.portfolio).success = false → (op.apply s.portfolio).portfolio = s.portfolio
  cash : (op.apply s.portfolio).success = true → 0 ≤ (s.step op).portfolio.cashBalance
  sides : (op.apply s.portfolio).success = true → KeepsSides s.portfolio (s.step op).portfolio op
  margin : (op.apply s.portfolio).success = true →
    (s.step op).portfolio.totalMarginUsed = openMargin (s.step op).portfolio.positions
  averages : (op.apply s.portfolio).success = true → (s.step op).AveragesLots

/-- What the coin's short returns to cash when `quantity` of it is closed. -/
def closeProceeds (p : Position) (quantity price : ℚ) : ℚ :=
  returnedMargin p (min quantity p.quantity) +
    max (-returnedMargin p (min quantity p.quantity))
      ((p.averagePrice - price) * min quantity p.quantity)

/-- The states in which an operation is safe. -/
def Allowed (s : LotPortfolio) : PortfolioOp → Prop
  | .buy coinId quantity price fee _ =>
    quantity * price + fee ≤ s.portfolio.cashBalance → ¬ HoldsShort s.portfolio coinId →
      openMargin s.portfolio.positions = 0
  | .sell coinId quantity price fee _ =>
    ∀ p, s.portfolio.positions.get? coinId = some p →
      p.isShort = false ∧ openMargin s.portfolio.positions = 0 ∧
        fee ≤ s.portfolio.cashBalance + min quantity p.quantity * price
  | .openShort coinId quantity price fee leverage _ =>
    HoldsShort s.portfolio coinId → s.portfolio.cashBalance < quantity * price / leverage + fee
  | .closeShort coinId quantity price fee _ =>
    ∀ p, s.portfolio.positions.get? coinId = some p → p.isShort = true →
      fee ≤ s.portfolio.cashBalance + closeProceeds p quantity price
  | .updateValues _ => True

/-- The positions are in order: only shorts have margin, every position has a quantity, and a long
is what its lots say. -/
structure Sound (positions : OrdMap CoinId Position) (lots : CoinId → Lots ℚ) : Prop where
  marginOk : ∀ coinId p, positions.get? coinId = some p → p.MarginOk
  quantity_pos : ∀ coinId p, positions.get? coinId = some p → 0 < p.quantity
  long : ∀ coinId p, positions.get? coinId = some p → p.isShort = false →
    p.quantity = (lots coinId).quantity ∧ p.averagePrice = (lots coinId).mean
  flat : ∀ coinId, (∀ p, positions.get? coinId = some p → p.isShort = true) → lots coinId = []

/-- **The invariant.** -/
structure Inv (s : LotPortfolio) : Prop where
  sound : Sound s.portfolio.positions s.lots
  margin : s.portfolio.totalMarginUsed = openMargin s.portfolio.positions
  cash : 0 ≤ s.portfolio.cashBalance

/-! ## Positions that change -/

section Positions

variable {positions : OrdMap CoinId Position} {lots : CoinId → Lots ℚ} {coinId : CoinId}
  {p : Position}

theorem openMargin_set : openMargin (positions.set coinId p) =
    openMargin positions - entryMargin positions coinId + p.shortMargin := by
  have hsum := OrdMap.sumBy_set (fun _ (p : Position) => p.shortMargin) positions coinId p
  rw [openMargin, openMargin, entryMargin]
  linarith

theorem openMargin_erase : openMargin (positions.erase coinId) =
    openMargin positions - entryMargin positions coinId := by
  have hsum := OrdMap.sumBy_erase (fun _ (p : Position) => p.shortMargin) positions coinId
  rw [openMargin, openMargin, entryMargin]
  linarith

theorem isShort_iff : p.isShort = true ↔ p.side = some .short := by simp [Position.isShort]

theorem shortMargin_of_long (h : p.isShort = false) : p.shortMargin = 0 := by
  rw [Position.shortMargin, if_neg]
  rw [← isShort_iff, h]
  exact Bool.false_ne_true

theorem entryMargin_of_no_short (h : ∀ p, positions.get? coinId = some p → p.isShort = false) :
    entryMargin positions coinId = 0 := by
  cases hget : positions.get? coinId with
  | none => rw [entryMargin, hget, Option.elim_none]
  | some p => rw [entryMargin_of_get? hget, shortMargin_of_long (h p hget)]

namespace Sound

theorem set (h : Sound positions lots) (hok : p.MarginOk) (hqty : 0 < p.quantity)
    {l : Lots ℚ} (hlong : p.isShort = false → p.quantity = l.quantity ∧ p.averagePrice = l.mean)
    (hshort : p.isShort = true → l = []) :
    Sound (positions.set coinId p) (Function.update lots coinId l) := by
  refine ⟨fun c q hq => ?_, fun c q hq => ?_, fun c q hq hside => ?_, fun c hall => ?_⟩
  · rw [OrdMap.get?_set] at hq
    split_ifs at hq with hc
    · cases hq
      exact hok
    · exact h.marginOk c q hq
  · rw [OrdMap.get?_set] at hq
    split_ifs at hq with hc
    · cases hq
      exact hqty
    · exact h.quantity_pos c q hq
  · rw [OrdMap.get?_set] at hq
    split_ifs at hq with hc
    · cases hq
      subst hc
      rw [Function.update_self]
      exact hlong hside
    · rw [Function.update_of_ne (Ne.symm hc)]
      exact h.long c q hq hside
  · by_cases hc : coinId = c
    · subst hc
      rw [Function.update_self]
      exact hshort (hall p (OrdMap.get?_set_self _ _ _))
    · rw [Function.update_of_ne (Ne.symm hc)]
      exact h.flat c fun q hq => hall q (by rw [OrdMap.get?_set_of_ne _ _ hc, hq])

theorem erase (h : Sound positions lots) :
    Sound (positions.erase coinId) (Function.update lots coinId []) := by
  refine ⟨fun c q hq => ?_, fun c q hq => ?_, fun c q hq hside => ?_, fun c hall => ?_⟩
  · rw [OrdMap.get?_erase] at hq
    split_ifs at hq
    exact h.marginOk c q hq
  · rw [OrdMap.get?_erase] at hq
    split_ifs at hq
    exact h.quantity_pos c q hq
  · rw [OrdMap.get?_erase] at hq
    split_ifs at hq with hc
    rw [Function.update_of_ne (Ne.symm hc)]
    exact h.long c q hq hside
  · by_cases hc : coinId = c
    · subst hc
      exact Function.update_self ..
    · rw [Function.update_of_ne (Ne.symm hc)]
      exact h.flat c fun q hq => hall q (by rw [OrdMap.get?_erase_of_ne _ hc, hq])

theorem map (h : Sound positions lots) (f : CoinId → Position → ℚ) :
    Sound (positions.map fun c p => { p with totalValue := f c p }) lots := by
  refine ⟨fun c q hq => ?_, fun c q hq => ?_, fun c q hq hside => ?_, fun c hall => ?_⟩
  · obtain ⟨p, hp, rfl⟩ := Option.map_eq_some_iff.mp ((OrdMap.get?_map _ _ _).symm.trans hq)
    have hok := h.marginOk c p hp
    exact ⟨hok.margin_eq, hok.nonneg, hok.quantity_pos⟩
  · obtain ⟨p, hp, rfl⟩ := Option.map_eq_some_iff.mp ((OrdMap.get?_map _ _ _).symm.trans hq)
    exact h.quantity_pos c p hp
  · obtain ⟨p, hp, rfl⟩ := Option.map_eq_some_iff.mp ((OrdMap.get?_map _ _ _).symm.trans hq)
    exact h.long c p hp hside
  · refine h.flat c fun p hp => ?_
    exact hall { p with totalValue := f c p } (by rw [OrdMap.get?_map, hp, Option.map_some])

end Sound

end Positions

/-! ## One operation -/

section Operations

variable {s : LotPortfolio} {op : PortfolioOp}

/-- The operation is safe exactly when it is allowed, and then the invariant goes on. -/
structure Decided (s : LotPortfolio) (op : PortfolioOp) : Prop where
  keeps_iff : s.Keeps op ↔ s.Allowed op
  inv : s.Allowed op → (s.step op).Inv

theorem step_of_fails (h : Fails s.portfolio (op.apply s.portfolio)) : s.step op = s := by
  obtain ⟨hsucc, hport⟩ := h
  simp only [step, hsucc, hport, Bool.false_eq_true, if_false]

theorem keeps_of_fails (h : Fails s.portfolio (op.apply s.portfolio)) : s.Keeps op := by
  have hsucc {P : Prop} (htrue : (op.apply s.portfolio).success = true) : P := by
    rw [h.1] at htrue
    cases htrue
  exact ⟨fun _ => h.2, hsucc, hsucc, hsucc, hsucc⟩

theorem decided_of_fails (hinv : s.Inv) (h : Fails s.portfolio (op.apply s.portfolio))
    (hall : s.Allowed op) : s.Decided op := by
  refine ⟨iff_of_true (keeps_of_fails h) hall, fun _ => ?_⟩
  rw [step_of_fails h]
  exact hinv

theorem decided_of_success (hsucc : (op.apply s.portfolio).success = true)
    (hsound : Sound (s.step op).portfolio.positions (s.step op).lots)
    (hsides : KeepsSides s.portfolio (s.step op).portfolio op)
    (hiff : (0 ≤ (s.step op).portfolio.cashBalance ∧
      (s.step op).portfolio.totalMarginUsed = openMargin (s.step op).portfolio.positions) ↔
        s.Allowed op) : s.Decided op := by
  refine ⟨⟨fun h => hiff.mp ⟨h.cash hsucc, h.margin hsucc⟩, fun h => ?_⟩, fun h => ?_⟩
  · obtain ⟨hcash, hmarg⟩ := hiff.mpr h
    refine ⟨fun hfail => ?_, fun _ => hcash, fun _ => hsides, fun _ => hmarg,
      fun _ coinId p hp hlong => (hsound.long coinId p hp hlong).2⟩
    rw [hsucc] at hfail
    cases hfail
  · obtain ⟨hcash, hmarg⟩ := hiff.mpr h
    exact ⟨hsound, hmarg, hcash⟩

theorem decided_of_broken (hsucc : (op.apply s.portfolio).success = true)
    (hsides : ¬ KeepsSides s.portfolio (s.step op).portfolio op) (hall : ¬ s.Allowed op) :
    s.Decided op :=
  ⟨iff_of_false (fun h => hsides (h.sides hsucc)) hall, fun h => absurd h hall⟩

theorem step_of_success (s : LotPortfolio) (op : PortfolioOp) {cashBalance price : ℚ}
    {positions : OrdMap CoinId Position} {coinId : CoinId}
    {currentPrices : Option (OrdMap CoinId ℚ)} {totalMarginUsed : Option ℚ}
    (h : op.apply s.portfolio =
      buildSuccessResult cashBalance positions coinId price currentPrices totalMarginUsed) :
    (op.apply s.portfolio).success = true ∧
      (s.step op).portfolio.cashBalance = cashBalance ∧
      (s.step op).portfolio.positions = positions ∧
      (s.step op).portfolio.totalMarginUsed = totalMarginUsed.getD 0 ∧
      (s.step op).lots = op.bookLots s.portfolio s.lots := by
  simp [step, h, buildSuccessResult]

variable (hinv : s.Inv) (coinId : CoinId) (quantity price fee leverage : ℚ)
  (currentPrices : Option (OrdMap CoinId ℚ))

include hinv

theorem increasedPosition_lots (hqty : 0 < quantity)
    (hlong : ∀ p, s.portfolio.positions.get? coinId = some p → p.isShort = false) :
    let p := increasedPosition quantity price (s.portfolio.positions.get? coinId)
    let l := Lots.buy (s.lots coinId) quantity price
    p.isShort = false ∧ p.margin = 0 ∧ 0 < p.quantity ∧ p.quantity = l.quantity ∧
      p.averagePrice = l.mean := by
  cases hget : s.portfolio.positions.get? coinId with
  | none =>
    have hlots : s.lots coinId = [] := hinv.sound.flat coinId fun p hp => by
      rw [hget] at hp
      cases hp
    simp only [increasedPosition, Option.filter_none, hlots]
    refine ⟨rfl, rfl, hqty, ?_, ?_⟩
    · simp
    · simp [Lots.mean, hqty.ne']
  | some p =>
    have hpos := hinv.sound.quantity_pos coinId p hget
    obtain ⟨hq, havg⟩ := hinv.sound.long coinId p hget (hlong p hget)
    have hne : (s.lots coinId).quantity ≠ 0 := hq ▸ hpos.ne'
    simp only [increasedPosition, Option.filter, hpos, decide_true, if_true]
    refine ⟨rfl, rfl, by linarith, ?_, ?_⟩
    · rw [Lots.quantity_buy, hq]
    · rw [Lots.mean, Lots.cost_buy, Lots.quantity_buy, ← hq, havg, Lots.mean, ← hq,
        div_mul_cancel₀ _ hpos.ne', mul_comm price]

theorem decided_buy (hqty : 0 < quantity) :
    s.Decided (.buy coinId quantity price fee currentPrices) := by
  obtain ⟨hfails, hrefu⟩ | ⟨hcost, hshort, heq⟩ :=
    applyBuy_cases s.portfolio coinId quantity price fee currentPrices
  · exact decided_of_fails hinv hfails fun hcost hshort => absurd ⟨hcost, hshort⟩ hrefu
  · obtain ⟨hsucc, hcash, hposs, hmarg, hlots⟩ :=
      step_of_success s (.buy coinId quantity price fee currentPrices) heq
    have hlong : ∀ p, s.portfolio.positions.get? coinId = some p → p.isShort = false := by
      intro p hp
      by_contra hside
      exact hshort ⟨p, hp, by simpa using hside, hinv.sound.quantity_pos coinId p hp⟩
    obtain ⟨hside, hzero, hpos, hq, havg⟩ :=
      increasedPosition_lots hinv coinId quantity price hqty hlong
    refine decided_of_success hsucc ?_ ⟨fun c p p' hp hp' => ?_, fun c p hp hc => ?_⟩ ?_
    · rw [hposs, hlots]
      refine hinv.sound.set (.of_zero hzero) hpos (fun _ => ⟨hq, havg⟩) fun h => ?_
      rw [hside] at h
      cases h
    · rw [hposs, OrdMap.get?_set] at hp'
      split_ifs at hp' with hcoin
      · subst hcoin
        cases hp'
        rw [hside, hlong p hp]
      · rw [hp] at hp'
        cases hp'
        rfl
    · have hcoin : coinId ≠ c := by
        rintro rfl
        rw [hlong p hp] at hc
        cases hc
      rw [hposs, OrdMap.get?_set_of_ne _ _ hcoin]
      exact hp
    · rw [hcash, hmarg, hposs, openMargin_set, entryMargin_of_no_short hlong,
        shortMargin_of_long hside, Option.getD_none, sub_zero, add_zero]
      constructor
      · rintro ⟨-, htotal⟩ - -
        exact htotal.symm
      · intro hall
        exact ⟨by linarith, (hall hcost hshort).symm⟩

theorem lots_sell {p : Position} (hget : s.portfolio.positions.get? coinId = some p)
    (hside : p.isShort = false) (hleft : 0 < p.quantity - quantity) :
    p.quantity - quantity = (Lots.sell (s.lots coinId) quantity).quantity ∧
      p.averagePrice = (Lots.sell (s.lots coinId) quantity).mean := by
  have hpos := hinv.sound.quantity_pos coinId p hget
  obtain ⟨hq, havg⟩ := hinv.sound.long coinId p hget hside
  have hne : (s.lots coinId).quantity ≠ 0 := hq ▸ hpos.ne'
  rw [Lots.quantity_sell hne, Lots.mean_sell hne (hq ▸ hleft.ne'), hq, havg]
  exact ⟨rfl, rfl⟩

theorem decided_sell (hqty : 0 < quantity) :
    s.Decided (.sell coinId quantity price fee currentPrices) := by
  obtain ⟨hfails, hnone⟩ | ⟨p, hget, _, heq⟩ :=
    applySell_cases s.portfolio coinId quantity price fee currentPrices
  · refine decided_of_fails hinv hfails fun p hp => ?_
    exact absurd (hnone p hp) (hinv.sound.quantity_pos coinId p hp).ne'
  · obtain ⟨hsucc, hcash, hposs, hmarg, hlots⟩ :=
      step_of_success s (.sell coinId quantity price fee currentPrices) heq
    have hpos := hinv.sound.quantity_pos coinId p hget
    cases hside : p.isShort with
    | true =>
      -- a short is sold as if it were a long
      refine decided_of_broken hsucc (fun hkept => ?_) fun hallowed => ?_
      · have hsame := hkept.2 coinId p hget hside
        rw [hposs] at hsame
        split_ifs at hsame
        · rw [OrdMap.get?_erase_self] at hsame
          cases hsame
        · rw [OrdMap.get?_set_self] at hsame
          have hquantities := congrArg Position.quantity (Option.some.inj hsame)
          have : 0 < min quantity p.quantity := lt_min hqty hpos
          dsimp only at hquantities
          linarith
      · have hlong := (hallowed p hget).1
        rw [hside] at hlong
        cases hlong
    | false =>
      have hlong : ∀ p', s.portfolio.positions.get? coinId = some p' → p'.isShort = false := by
        intro p' hp'
        rw [hget] at hp'
        cases hp'
        exact hside
      refine decided_of_success hsucc ?_ ⟨fun c q q' hq hq' => ?_, fun c q hq hc => ?_⟩ ?_
      · rw [hposs, hlots]
        simp only [PortfolioOp.bookLots, hget]
        by_cases hall : p.quantity ≤ quantity
        · rw [min_eq_right hall, if_pos (sub_self _).le, if_pos hall]
          exact hinv.sound.erase
        · have hleft : 0 < p.quantity - quantity := by linarith
          rw [min_eq_left (not_le.mp hall).le, if_neg (not_le.mpr hleft), if_neg hall]
          exact hinv.sound.set (.of_zero rfl) hleft
            (fun _ => lots_sell hinv coinId quantity hget hside hleft) fun hshort =>
              Bool.noConfusion hshort
      · rw [hposs] at hq'
        by_cases hcoin : coinId = c
        · subst hcoin
          rw [hlong q hq]
          split_ifs at hq'
          · rw [OrdMap.get?_erase_self] at hq'
            cases hq'
          · rw [OrdMap.get?_set_self] at hq'
            cases hq'
            rfl
        · have hother : s.portfolio.positions.get? c = some q' := by
            split_ifs at hq'
            · rwa [OrdMap.get?_erase_of_ne _ hcoin] at hq'
            · rwa [OrdMap.get?_set_of_ne _ _ hcoin] at hq'
          rw [hq] at hother
          cases hother
          rfl
      · have hcoin : coinId ≠ c := by
          rintro rfl
          rw [hlong q hq] at hc
          cases hc
        rw [hposs]
        split_ifs
        · rw [OrdMap.get?_erase_of_ne _ hcoin, hq]
        · rw [OrdMap.get?_set_of_ne _ _ hcoin, hq]
      · have htotal : openMargin (s.step (.sell coinId quantity price fee
            currentPrices)).portfolio.positions = openMargin s.portfolio.positions := by
          rw [hposs]
          split_ifs
          · rw [openMargin_erase, entryMargin_of_no_short hlong, sub_zero]
          · rw [openMargin_set, entryMargin_of_no_short hlong, sub_zero, shortMargin_of_long rfl,
              add_zero]
        rw [hcash, hmarg, htotal, Option.getD_none]
        constructor
        · rintro ⟨_, hzero⟩ p' hp'
          rw [hget] at hp'
          cases hp'
          exact ⟨hside, hzero.symm, by linarith⟩
        · intro hallowed
          obtain ⟨-, hzero, _⟩ := hallowed p hget
          exact ⟨by linarith, hzero.symm⟩

theorem lots_of_no_long (hnone : ∀ p, s.portfolio.positions.get? coinId = some p →
    p.isShort = true) : Function.update s.lots coinId [] = s.lots := by
  rw [← hinv.sound.flat coinId hnone]
  exact Function.update_eq_self ..

theorem decided_openShort (hqty : 0 < quantity) (hprice : 0 ≤ price) (hleverage : 0 < leverage) :
    s.Decided (.openShort coinId quantity price fee leverage currentPrices) := by
  obtain ⟨hfails, hrefu⟩ | ⟨hlong, hcost, heq⟩ :=
    applyOpenShort_cases s.portfolio coinId quantity price fee currentPrices leverage
  · refine decided_of_fails hinv hfails ?_
    rintro ⟨p, hp, hside, -⟩
    by_contra hcash
    refine hrefu ⟨fun p' hp' hlong => ?_, not_lt.mp hcash⟩
    obtain rfl : p = p' := Option.some.inj (hp.symm.trans hp')
    rw [hside] at hlong
    cases hlong
  · obtain ⟨hsucc, hcash, hposs, hmarg, hlots⟩ :=
      step_of_success s (.openShort coinId quantity price fee leverage currentPrices) heq
    cases hget : s.portfolio.positions.get? coinId with
    | some p =>
      -- the coin is held short, and its position is replaced
      have hpos := hinv.sound.quantity_pos coinId p hget
      have hside : p.isShort = true := by
        by_contra hside
        exact absurd (hlong p hget (by simpa using hside)) (not_le.mpr hpos)
      refine decided_of_broken hsucc (fun hkept => ?_) fun hall => ?_
      · have hnone : s.portfolio.positions.get? coinId = none := hkept.2
        rw [hget] at hnone
        cases hnone
      · exact absurd (hall ⟨p, hget, hside, hpos⟩) (not_lt.mpr hcost)
    | none =>
      have hnone {P : Position → Prop} (p : Position)
          (hp : s.portfolio.positions.get? coinId = some p) : P p := by
        rw [hget] at hp
        cases hp
      have hmarginAmount : 0 ≤ quantity * price / leverage :=
        div_nonneg (mul_nonneg hqty.le hprice) hleverage.le
      refine decided_of_success hsucc ?_ ⟨fun c p p' hp hp' => ?_, hget⟩ ?_
      · rw [hposs, hlots]
        simp only [PortfolioOp.bookLots]
        rw [← lots_of_no_long hinv coinId hnone]
        refine hinv.sound.set ?_ hqty (fun hlong => Bool.noConfusion hlong) fun _ => rfl
        exact ⟨rfl, hmarginAmount, fun _ => hqty⟩
      · rw [hposs, OrdMap.get?_set] at hp'
        split_ifs at hp' with hcoin
        · subst hcoin
          rw [hget] at hp
          cases hp
        · rw [hp] at hp'
          cases hp'
          rfl
      · refine iff_of_true ⟨?_, ?_⟩ fun hheld => ?_
        · rw [hcash]
          linarith
        · rw [hmarg, hposs, openMargin_set, entryMargin_of_no_short hnone, hinv.margin, sub_zero]
          rfl
        · obtain ⟨p, hp, -⟩ := hheld
          exact absurd (hget.symm.trans hp) (by simp)

theorem decided_closeShort : s.Decided (.closeShort coinId quantity price fee currentPrices) := by
  obtain ⟨hfails, hnone⟩ | ⟨p, hget, hside, hne, heq⟩ :=
    applyCloseShort_cases s.portfolio coinId quantity price fee currentPrices
  · refine decided_of_fails hinv hfails fun p hp hshort => ?_
    exact absurd (hnone p hp (isShort_iff.mp hshort)) (hinv.sound.quantity_pos coinId p hp).ne'
  · obtain ⟨hsucc, hcash, hposs, hmarg, hlots⟩ :=
      step_of_success s (.closeShort coinId quantity price fee currentPrices) heq
    set closed := min quantity p.quantity with hclos
    have hpos : 0 < p.quantity := hinv.sound.quantity_pos coinId p hget
    have hbkd : MarginBooked (bookCloseShort s.portfolio coinId p closed price).positions
        (bookCloseShort s.portfolio coinId p closed price).totalMarginUsed :=
      marginBooked_closeShort ⟨hinv.margin, hinv.sound.marginOk⟩ hget hside hne
        (min_le_right quantity p.quantity)
    have hshort : ∀ p', s.portfolio.positions.get? coinId = some p' → p'.isShort = true := by
      intro p' hp'
      rw [hget] at hp'
      cases hp'
      exact isShort_iff.mpr hside
    have hrem : ∀ q, (bookCloseShort s.portfolio coinId p closed price).positions.get? coinId =
        some q → 0 < q.quantity ∧ q.isShort = true := by
      intro q hq
      rw [bookCloseShort_get?, if_pos rfl] at hq
      split_ifs at hq with hdone
      cases hq
      exact ⟨not_le.mp hdone, isShort_iff.mpr hside⟩
    have hother : ∀ c, coinId ≠ c →
        (bookCloseShort s.portfolio coinId p closed price).positions.get? c =
          s.portfolio.positions.get? c := fun c hc => by rw [bookCloseShort_get?, if_neg hc]
    refine decided_of_success hsucc ?_ ⟨fun c q q' hq hq' => ?_, trivial⟩ ?_
    · rw [hposs, hlots]
      refine ⟨hbkd.marginOk, fun c q hq => ?_, fun c q hq hlong => ?_, fun c hall => ?_⟩
      · by_cases hc : coinId = c
        · subst hc
          exact (hrem q hq).1
        · rw [hother c hc] at hq
          exact hinv.sound.quantity_pos c q hq
      · by_cases hc : coinId = c
        · subst hc
          rw [(hrem q hq).2] at hlong
          cases hlong
        · rw [hother c hc] at hq
          exact hinv.sound.long c q hq hlong
      · by_cases hc : coinId = c
        · subst hc
          exact hinv.sound.flat coinId hshort
        · exact hinv.sound.flat c fun q hq => hall q (by rw [hother c hc, hq])
    · rw [hposs] at hq'
      by_cases hc : coinId = c
      · subst hc
        rw [hshort q hq, (hrem q' hq').2]
      · rw [hother c hc, hq] at hq'
        cases hq'
        rfl
    · have hcashAfter : (bookCloseShort s.portfolio coinId p closed price).cashBalance - fee =
          s.portfolio.cashBalance + closeProceeds p quantity price - fee := rfl
      rw [hcash, hmarg, hposs, Option.getD_some, hcashAfter]
      constructor
      · rintro ⟨_, -⟩ p' hp' -
        rw [hget] at hp'
        cases hp'
        linarith
      · intro hallowed
        have hfee := hallowed p hget (isShort_iff.mpr hside)
        exact ⟨by linarith, hbkd.total_eq⟩

theorem decided_updateValues (prices : OrdMap CoinId ℚ) : s.Decided (.updateValues prices) := by
  have hbkd : MarginBooked s.portfolio.positions s.portfolio.totalMarginUsed :=
    ⟨hinv.margin, hinv.sound.marginOk⟩
  have hmap : MarginBooked (s.portfolio.positions.map fun c p =>
      { p with totalValue := getPositionValue p (prices.get? c) true })
      s.portfolio.totalMarginUsed := hbkd.map (fun _ _ => rfl) (fun _ _ => rfl) fun _ _ => rfl
  have hsound : Sound (s.portfolio.positions.map fun c p =>
      { p with totalValue := getPositionValue p (prices.get? c) true }) s.lots :=
    hinv.sound.map fun c p => getPositionValue p (prices.get? c) true
  refine decided_of_success rfl hsound ⟨fun c p p' hp hp' => ?_, trivial⟩
    (iff_of_true ⟨hinv.cash, hmap.total_eq⟩ trivial)
  obtain ⟨q, hq, rfl⟩ :=
    Option.map_eq_some_iff.mp ((updateValues_get? s.portfolio prices c).symm.trans hp')
  rw [hp] at hq
  cases hq
  rfl

theorem decided (op : PortfolioOp) (hamounts : op.Amounts) : s.Decided op := by
  cases op with
  | buy => exact decided_buy hinv _ _ _ _ _ hamounts.1
  | sell => exact decided_sell hinv _ _ _ _ _ hamounts.1
  | openShort =>
    exact decided_openShort hinv _ _ _ _ _ _ hamounts.1 hamounts.2.1 hamounts.2.2.2
  | closeShort =>
    exact decided_closeShort hinv _ _ _ _ _
  | updateValues prices => exact decided_updateValues hinv prices

end Operations

theorem inv_start (initialCapital : NNRat) : (start initialCapital).Inv := by
  have hnone {P : CoinId → Position → Prop} (c : CoinId) (p : Position)
      (hp : (OrdMap.empty : OrdMap CoinId Position).get? c = some p) : P c p := by
    rw [OrdMap.get?_empty] at hp
    cases hp
  exact ⟨⟨hnone, hnone, hnone, fun _ _ => rfl⟩, rfl, initialCapital.2⟩

/-- **Every operation of a run of trades keeps the portfolio in order, exactly when every one of
them is allowed.** -/
theorem keeps_iff_allowed (initialCapital : NNRat) (ops : List PortfolioOp) :
    Run.Throughout step (fun s op => op.Amounts ∧ s.Keeps op) (start initialCapital) ops ↔
      Run.Throughout step (fun s op => op.Amounts ∧ s.Allowed op) (start initialCapital) ops :=
  Run.throughout_iff Inv
    (fun _ op hinv => and_congr_right fun hamounts => (decided hinv op hamounts).keeps_iff)
    (fun _ op hinv hop => (decided hinv op hop.1).inv hop.2) (inv_start initialCapital)

def mixedOps : List PortfolioOp :=
  [.openShort "btc" 1 100 0 1 none, .buy "eth" 1 100 0 none, .openShort "btc" 2 100 0 1 none,
    .sell "btc" 1 100 0 none]

/-- **A buy loses the margin in use**: a short is open with a margin of `100`, and the total is
`0`. -/
theorem buy_drops_margin :
    ¬ Run.Throughout step (fun s op => op.Amounts ∧ s.Keeps op) (start 1000) mixedOps := by
  rintro ⟨-, ⟨-, hkeeps⟩, -⟩
  have hmargin := hkeeps.margin (by decide +kernel)
  revert hmargin
  decide +kernel

end LotPortfolio

end Chansey
