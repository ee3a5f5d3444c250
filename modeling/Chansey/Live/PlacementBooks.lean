import Chansey.Live.PlacedOrders
import Chansey.Shared.TradeCooldown

/-!
# What a placement leaves in the books

A placement claims the cooldown, creates an order at the exchange, stores its row, books it on the
tracked position and counts it. One `catch` treats a failure of any of these as one of the order.

* `BookAnswers`: what the calls answer. `LivePlacement.place`: what is left in Redis, on the tracked
  position and at the exchange.
* `BooksClean`: the answers for which it is so. **`place_follows_iff`**: no others are.
  **`place_forgets`**: the row of a placed order cannot be saved.
-/

namespace Chansey

open Remote Shared.Cooldowns
open Shared (CooldownClaim CooldownCheckResult buildKey)

/-! ## The placement -/

structure BookAnswers where
  exchangeKey : Option SelectedKey
  /-- `checkAndClaim` and `clearCooldown` in Redis. -/
  claimed : Fate String
  cleared : Fate String
  /-- The counters of a claim and of a placed order, and the one of a blocked signal. -/
  claimRecorded : Bool
  placedRecorded : Bool
  blockRecorded : Bool
  keyFound : Bool
  userFound : Bool
  futuresEnabled : Bool
  limits : Option MarketLimits
  expectedPrice : Option ℚ
  slippageAccepted : Bool
  created : Fate RemoteError
  ccxtOrder : OrderReport
  saved : Bool
  transitionRecorded : Bool
  positionUpdated : Bool
  id : OrderId
  now : Instant
  nowMs : ℕ

def BookAnswers.route (answers : BookAnswers) (ccxtOrder : Option OrderReport) : PlacementAnswers where
  exchangeKey := answers.exchangeKey
  cooldownAllowed := true
  keyFound := answers.keyFound
  userFound := answers.userFound
  futuresEnabled := answers.futuresEnabled
  limits := answers.limits
  expectedPrice := answers.expectedPrice
  slippageAccepted := answers.slippageAccepted
  ccxtOrder := ccxtOrder
  saved := answers.saved
  transitionRecorded := answers.transitionRecorded
  positionUpdated := answers.positionUpdated
  id := answers.id
  now := answers.now

/-- The order that reaches the service. -/
def BookAnswers.answered (answers : BookAnswers) : Option OrderReport :=
  match answers.created with
  | .answered => some answers.ccxtOrder
  | .lost _ | .refused _ => none

/-- `mapSignalActionToDirection` -/
def LiveAction.direction : LiveAction → String
  | .buy | .shortExit => "BUY"
  | .sell | .shortEntry => "SELL"
  | .hold => "HOLD"

/-- `mapSignalToPositionTracking`, which throws for any other action. -/
def LiveAction.tracking : LiveAction → Option (TradeSide × PositionSide)
  | .buy => some (.buy, .long)
  | .sell => some (.sell, .long)
  | .shortEntry => some (.buy, .short)
  | .shortExit => some (.sell, .short)
  | .hold => none

structure PlacementBooks where
  status : PlaceOrderStatus
  redis : Leases String CooldownClaim
  booked : Option (PositionUpdate × PositionSide) := none
  order : Option OrderReport := none

namespace LivePlacement

def pipeline (placement : LivePlacement) : String := "strategy:" ++ placement.strategyConfigId

def cooldownKey (placement : LivePlacement) : String :=
  buildKey placement.userId placement.signal.symbol placement.signal.action.direction

def claim (placement : LivePlacement) (answers : BookAnswers)
    (redis : Leases String CooldownClaim) : Leases String CooldownClaim × CooldownCheckResult :=
  Shared.checkAndClaim redis placement.userId placement.signal.symbol
    placement.signal.action.direction placement.pipeline answers.nowMs answers.claimed

/-- The route gets as far as creating an order at the exchange. -/
def creates (placement : LivePlacement) (answers : BookAnswers) : Bool :=
  (placement.asked (answers.route (some answers.ccxtOrder))).isSome

/-- What is booked for a signal: its own quantity and price. -/
def signalUpdate (placement : LivePlacement) (exchangeKey : SelectedKey) :
    Option (PositionUpdate × PositionSide) :=
  placement.signal.action.tracking.map fun tracking =>
    ({ quantity := placement.signal.quantity
       price := placement.signal.price
       side := tracking.1
       exchangeKeyId := if tracking.1 = .buy then some exchangeKey.id else none }, tracking.2)

/-- The inner `try`: the order, its counter, the position. Then the `catch`, which clears the cooldown. -/
def bookOrder (placement : LivePlacement) (exchangeKey : SelectedKey) (answers : BookAnswers)
    (redis : Leases String CooldownClaim) : PlacementBooks :=
  let executed := placement.execute exchangeKey (answers.route answers.answered)
  let order :=
    if placement.creates answers && answers.created.reached then some answers.ccxtOrder else none
  match if executed.returned && answers.placedRecorded && answers.positionUpdated then
      placement.signalUpdate exchangeKey else none with
  | some update => { status := .placed, redis := redis, booked := some update, order := order }
  | none =>
    { status := .failed
      redis := Shared.clearCooldown redis placement.userId placement.signal.symbol
        placement.signal.action.direction answers.cleared
      order := order }

def place (placement : LivePlacement) (answers : BookAnswers) (redis : Leases String CooldownClaim) :
    PlacementBooks :=
  match answers.exchangeKey with
  | none => { status := .blocked, redis := redis }
  | some exchangeKey =>
    let (claimed, check) := placement.claim answers redis
    if check.allowed then
      if answers.claimRecorded then placement.bookOrder exchangeKey answers claimed
      -- thrown outside the inner `try`: the claim is not cleared
      else { status := .failed, redis := claimed }
    else { status := if answers.blockRecorded then .blocked else .failed, redis := claimed }

end LivePlacement

/-! ## Following the exchange -/

def OrderReport.executedQuantity (report : OrderReport) : ℚ := report.filled.getD 0

def OrderReport.executedPrice (report : OrderReport) : ℚ :=
  (Js.truthy? report.average).getD (report.price.getD 0)

/-- **An order that exists at the exchange is placed, its claim stays, and the position changes by what
was executed. Without one the position is unchanged, and the cooldown is free or as it was before.** -/
def FollowsExchange (placement : LivePlacement) (answers : BookAnswers)
    (before : Leases String CooldownClaim) (books : PlacementBooks) : Prop :=
  match books.order with
  | some report =>
    books.status = .placed ∧
      books.redis.get placement.cooldownKey = some ⟨placement.pipeline, answers.nowMs⟩ ∧
      ∃ update, books.booked = some update ∧
        placement.signal.action.tracking = some (update.1.side, update.2) ∧
        update.1.quantity = report.executedQuantity ∧ update.1.price = report.executedPrice
  | none =>
    books.booked = none ∧ (books.redis.get placement.cooldownKey = none ∨
      books.redis.get placement.cooldownKey = before.get placement.cooldownKey)

/-- The order is created at the exchange: a key is chosen, the cooldown allows the trade, and the route
gets as far. -/
def LivePlacement.reaches (placement : LivePlacement) (answers : BookAnswers)
    (before : Leases String CooldownClaim) : Bool :=
  answers.exchangeKey.isSome && (placement.claim answers before).2.allowed &&
    answers.claimRecorded && placement.creates answers && answers.created.reached

/-- The claim is set now, or it is there already. -/
def LivePlacement.HoldsClaim (placement : LivePlacement) (answers : BookAnswers)
    (before : Leases String CooldownClaim) : Prop :=
  Sets before placement.cooldownKey answers.claimed ∨
    before.get placement.cooldownKey = some ⟨placement.pipeline, answers.nowMs⟩

/-- The answers that a placement is made for: an order that is created is answered, stored, counted and
booked under a claim, and it was executed as the signal says; and a claim that was set for
nothing is counted and cleared. -/
structure BooksClean (placement : LivePlacement) (answers : BookAnswers)
    (before : Leases String CooldownClaim) : Prop where
  created : placement.reaches answers before = true →
    placement.HoldsClaim answers before ∧ answers.created = .answered ∧ answers.saved = true ∧
      (placement.isFutures = true → answers.transitionRecorded = true) ∧
      answers.placedRecorded = true ∧ answers.positionUpdated = true ∧
      placement.signal.action ≠ .hold ∧
      placement.signal.quantity = answers.ccxtOrder.executedQuantity ∧
      placement.signal.price = answers.ccxtOrder.executedPrice
  released : placement.reaches answers before = false → answers.exchangeKey.isSome = true →
    Sets before placement.cooldownKey answers.claimed →
      answers.claimRecorded = true ∧ answers.cleared.reached = true

/-! ## The routes -/

section Routes

variable {placement : LivePlacement} {answers : BookAnswers} {exchangeKey : SelectedKey}

theorem answered_isSome : answers.answered.isSome = true ↔ answers.created = .answered := by
  unfold BookAnswers.answered
  cases answers.created <;> simp

theorem any_guard {p : Prop} [Decidable p] (f : Unit → Bool) :
    (guard p : Option Unit).any f = (decide p && f ()) := by
  unfold guard
  split <;> simp [*]

def spotChecked (signal : AlgorithmicSignal) (answers : PlacementAnswers) : Bool :=
  answers.keyFound && answers.limits.any fun limits =>
    validateAlgorithmicOrderSize signal.quantity signal.price limits

def futuresChecked (signal : FuturesSignal) (answers : PlacementAnswers) : Bool :=
  (answers.keyFound && answers.userFound && answers.futuresEnabled) &&
    answers.limits.any fun limits => answers.expectedPrice.any fun expectedPrice =>
      0 < signal.quantity && (validateAlgorithmicOrderSize signal.quantity expectedPrice limits &&
        answers.slippageAccepted)

theorem spotOrder_isSome (signal : AlgorithmicSignal) (answers : PlacementAnswers) :
    (spotOrder signal answers).isSome = (spotChecked signal answers && answers.ccxtOrder.isSome) := by
  simp only [spotOrder, spotChecked, Option.bind_eq_bind, Option.isSome_bind, any_guard]
  cases answers.limits <;> simp [Bool.and_assoc]

theorem placeAlgorithmicOrder_isSome (userId strategyConfigId : String) (signal : AlgorithmicSignal)
    (exchangeKey : SelectedKey) (answers : PlacementAnswers) :
    (placeAlgorithmicOrder userId strategyConfigId signal exchangeKey answers).isSome =
      (spotChecked signal answers && answers.ccxtOrder.isSome && answers.saved) := by
  simp only [placeAlgorithmicOrder, spotChecked, Option.bind_eq_bind, Option.isSome_bind, any_guard]
  cases answers.limits <;> cases answers.ccxtOrder <;> simp [Bool.and_assoc]

theorem tradeSignalOrder_isSome (signal : FuturesSignal) (answers : PlacementAnswers) :
    (tradeSignalOrder true signal.quantity none answers).isSome =
      (futuresChecked signal answers && answers.ccxtOrder.isSome) := by
  simp only [tradeSignalOrder, futuresChecked, Option.bind_eq_bind, Option.isSome_bind, any_guard]
  cases answers.limits with
  | none => simp
  | some =>
    cases answers.expectedPrice with
    | none => simp
    | some =>
      by_cases hpos : 0 < signal.quantity
      · cases answers.ccxtOrder <;> simp [resolveQuantity, Option.filter, hpos, Bool.and_assoc]
      · simp [resolveQuantity, Option.filter, hpos]

theorem executedOrder_isSome (signal : FuturesSignal) (answers : PlacementAnswers) :
    (executedOrder signal answers).isSome =
      (futuresChecked signal answers && answers.ccxtOrder.isSome && answers.saved) := by
  simp only [executedOrder, futuresChecked, Option.bind_eq_bind, Option.isSome_bind, any_guard]
  cases answers.limits <;> cases answers.expectedPrice <;> cases answers.ccxtOrder <;>
    simp [Bool.and_assoc]

theorem executeTradeSignal_returned (signal : FuturesSignal) (answers : PlacementAnswers) :
    (executeTradeSignal signal answers).returned =
      ((executedOrder signal answers).isSome && answers.transitionRecorded) := by
  unfold executeTradeSignal
  cases executedOrder signal answers with
  | none => rfl
  | some => cases answers.transitionRecorded <;> rfl

theorem creates_eq (hkey : answers.exchangeKey = some exchangeKey) :
    placement.creates answers =
      if placement.isFutures then (placement.futuresSignal exchangeKey).any
        (futuresChecked · (answers.route (some answers.ccxtOrder)))
      else spotChecked placement.spotSignal (answers.route (some answers.ccxtOrder)) := by
  simp only [LivePlacement.creates, LivePlacement.asked, Option.bind_eq_bind, Option.isSome_bind,
    show (answers.route (some answers.ccxtOrder)).exchangeKey = some exchangeKey from hkey,
    Option.any_some, any_guard]
  rw [show (answers.route (some answers.ccxtOrder)).cooldownAllowed = true from rfl]
  split
  · cases placement.futuresSignal exchangeKey with
    | none => simp
    | some signal =>
      have horder := tradeSignalOrder_isSome signal (answers.route (some answers.ccxtOrder))
      rw [show (answers.route (some answers.ccxtOrder)).ccxtOrder.isSome = true from rfl,
        Bool.and_true] at horder
      simp only [Option.isSome_bind, Option.any_some, decide_true, Bool.true_and]
      rw [← horder]
      cases tradeSignalOrder true signal.quantity none (answers.route (some answers.ccxtOrder)) <;> rfl
  · have horder := spotOrder_isSome placement.spotSignal (answers.route (some answers.ccxtOrder))
    rw [show (answers.route (some answers.ccxtOrder)).ccxtOrder.isSome = true from rfl,
      Bool.and_true] at horder
    simp only [Option.isSome_bind, decide_true, Bool.true_and]
    rw [← horder]
    cases spotOrder placement.spotSignal (answers.route (some answers.ccxtOrder)) <;> rfl

theorem returned_iff (placement : LivePlacement) (hkey : answers.exchangeKey = some exchangeKey) :
    (placement.execute exchangeKey (answers.route answers.answered)).returned = true ↔
      placement.creates answers = true ∧ answers.created = .answered ∧ answers.saved = true ∧
        (placement.isFutures = true → answers.transitionRecorded = true) := by
  rw [creates_eq hkey, LivePlacement.execute, ← answered_isSome]
  cases hfut : placement.isFutures with
  | false =>
    simp only [Bool.false_eq_true, if_false, placeAlgorithmicOrder_isSome]
    rw [show spotChecked placement.spotSignal (answers.route answers.answered) =
      spotChecked placement.spotSignal (answers.route (some answers.ccxtOrder)) from rfl]
    simp [BookAnswers.route, and_assoc]
  | true =>
    simp only [if_true]
    cases placement.futuresSignal exchangeKey with
    | none => simp
    | some signal =>
      simp only [Option.map_some, Option.getD_some, executeTradeSignal_returned,
        executedOrder_isSome, Option.any_some]
      rw [show futuresChecked signal (answers.route answers.answered) =
        futuresChecked signal (answers.route (some answers.ccxtOrder)) from rfl]
      simp [BookAnswers.route, and_assoc]

end Routes

/-! ## When the books follow -/

section Books

variable {placement : LivePlacement} {answers : BookAnswers} {before : Leases String CooldownClaim}

theorem claim_of_sets (h : Sets before placement.cooldownKey answers.claimed) :
    (placement.claim answers before).2.allowed = true ∧
      (placement.claim answers before).1.get placement.cooldownKey =
        some ⟨placement.pipeline, answers.nowMs⟩ := by
  constructor
  · obtain ⟨hrch, hnone⟩ := h
    unfold LivePlacement.claim Shared.checkAndClaim
    rw [show buildKey placement.userId placement.signal.symbol placement.signal.action.direction =
      placement.cooldownKey from rfl]
    cases hfate : answers.claimed with
    | answered => simp [call, Leases.claim, hnone]
    | lost => rfl
    | refused => rw [hfate] at hrch; cases hrch
  · unfold LivePlacement.claim
    rw [checkAndClaim_redis, show buildKey placement.userId placement.signal.symbol
      placement.signal.action.direction = placement.cooldownKey from rfl, if_pos h]
    refine Leases.get_eq_some_iff.2 ⟨_, Leases.put_cells_self _ _ _ _, ?_⟩
    exact Nat.lt_add_of_pos_right (by decide)

theorem claim_of_not_sets (h : ¬ Sets before placement.cooldownKey answers.claimed) :
    (placement.claim answers before).1 = before := by
  unfold LivePlacement.claim
  rw [checkAndClaim_redis]
  exact if_neg h

theorem claim_get_iff :
    (placement.claim answers before).1.get placement.cooldownKey =
        some ⟨placement.pipeline, answers.nowMs⟩ ↔ placement.HoldsClaim answers before := by
  by_cases hsets : Sets before placement.cooldownKey answers.claimed
  · exact iff_of_true (claim_of_sets hsets).2 (.inl hsets)
  · rw [claim_of_not_sets hsets]
    exact ⟨.inr, fun h => h.resolve_left hsets⟩

theorem claim_released_iff :
    ((placement.claim answers before).1.get placement.cooldownKey = none ∨
      (placement.claim answers before).1.get placement.cooldownKey =
        before.get placement.cooldownKey) ↔
      ¬ Sets before placement.cooldownKey answers.claimed := by
  by_cases hsets : Sets before placement.cooldownKey answers.claimed
  · refine iff_of_false ?_ (not_not.2 hsets)
    rw [(claim_of_sets hsets).2, hsets.2]
    simp
  · rw [claim_of_not_sets hsets]
    exact iff_of_true (.inr rfl) hsets

theorem clearCooldown_get (redis : Leases String CooldownClaim) (hcleared : answers.cleared.reached = true) :
    (Shared.clearCooldown redis placement.userId placement.signal.symbol
      placement.signal.action.direction answers.cleared).get placement.cooldownKey = none := by
  rw [clearCooldown_redis, if_pos hcleared]
  exact Leases.get_drop_self

theorem clearCooldown_refused (redis : Leases String CooldownClaim)
    (hcleared : answers.cleared.reached = false) :
    Shared.clearCooldown redis placement.userId placement.signal.symbol
      placement.signal.action.direction answers.cleared = redis := by
  rw [clearCooldown_redis, hcleared]
  rfl

variable {exchangeKey : SelectedKey}

theorem booked_iff (hkey : answers.exchangeKey = some exchangeKey)
    (hcreates : placement.creates answers = true) (update : PositionUpdate × PositionSide) :
    (if (placement.execute exchangeKey (answers.route answers.answered)).returned &&
        answers.placedRecorded && answers.positionUpdated then
      placement.signalUpdate exchangeKey else none) = some update ↔
      (answers.created = .answered ∧ answers.saved = true ∧
        (placement.isFutures = true → answers.transitionRecorded = true) ∧
        answers.placedRecorded = true ∧ answers.positionUpdated = true) ∧
        placement.signalUpdate exchangeKey = some update := by
  have hretd := returned_iff placement hkey
  rw [hcreates] at hretd
  simp only [true_and] at hretd
  split
  · rename_i hall
    simp only [Bool.and_eq_true, hretd] at hall
    tauto
  · rename_i hall
    simp only [Bool.and_eq_true, hretd] at hall
    refine iff_of_false (fun h => nomatch h) fun h => hall ?_
    tauto

theorem bookOrder_created_iff (hkey : answers.exchangeKey = some exchangeKey)
    (hcreates : placement.creates answers = true) (hrch : answers.created.reached = true) :
    FollowsExchange placement answers before
        (placement.bookOrder exchangeKey answers (placement.claim answers before).1) ↔
      placement.HoldsClaim answers before ∧ answers.created = .answered ∧ answers.saved = true ∧
        (placement.isFutures = true → answers.transitionRecorded = true) ∧
        answers.placedRecorded = true ∧ answers.positionUpdated = true ∧
        placement.signal.action ≠ .hold ∧
        placement.signal.quantity = answers.ccxtOrder.executedQuantity ∧
        placement.signal.price = answers.ccxtOrder.executedPrice := by
  have hbkd := booked_iff hkey hcreates
  unfold LivePlacement.bookOrder FollowsExchange
  simp only [hcreates, hrch, Bool.and_self, if_true]
  generalize (if (placement.execute exchangeKey (answers.route answers.answered)).returned &&
    answers.placedRecorded && answers.positionUpdated then
      placement.signalUpdate exchangeKey else none) = booked at hbkd
  cases booked with
  | none =>
    refine iff_of_false (fun h => nomatch h.1) ?_
    rintro ⟨-, hcre, hsaved, htransition, hplac, hposn, hact, -⟩
    obtain ⟨update, hupd⟩ : ∃ update, placement.signalUpdate exchangeKey = some update := by
      unfold LivePlacement.signalUpdate
      cases hact' : placement.signal.action with
      | hold => exact absurd hact' hact
      | _ => exact ⟨_, rfl⟩
    exact nomatch (hbkd update).2 ⟨⟨hcre, hsaved, htransition, hplac, hposn⟩, hupd⟩
  | some update =>
    obtain ⟨⟨hcre, hsaved, _, hplac, hposn⟩, hupd⟩ := (hbkd update).1 rfl
    obtain ⟨_, htrkg, rfl⟩ := Option.map_eq_some_iff.1 hupd
    have hact : placement.signal.action ≠ .hold := by
      intro hhold
      rw [hhold] at htrkg
      cases htrkg
    simp only [claim_get_iff, true_and, Option.some.injEq, exists_eq_left', htrkg]
    simp only [hcre, hsaved, hplac, hposn, true_and, ne_eq, hact, not_false_eq_true]
    tauto

theorem bookOrder_none_iff (hkey : answers.exchangeKey = some exchangeKey)
    (hnone : (placement.creates answers && answers.created.reached) = false) :
    FollowsExchange placement answers before
        (placement.bookOrder exchangeKey answers (placement.claim answers before).1) ↔
      (Sets before placement.cooldownKey answers.claimed → answers.cleared.reached = true) := by
  have hretd : (placement.execute exchangeKey (answers.route answers.answered)).returned =
      false := by
    rw [← Bool.not_eq_true, returned_iff placement hkey]
    rintro ⟨hcreates, hcre, -⟩
    rw [hcreates, hcre] at hnone
    cases hnone
  unfold LivePlacement.bookOrder FollowsExchange
  simp only [hretd, hnone, Bool.false_and, Bool.false_eq_true, if_false, true_and]
  cases hcleared : answers.cleared.reached with
  | true => exact iff_of_true (.inl (clearCooldown_get _ hcleared)) fun _ => rfl
  | false =>
    rw [clearCooldown_refused _ hcleared, claim_released_iff]
    exact ⟨fun h hsets => absurd hsets h, fun h hsets => nomatch h hsets⟩

/-- **The books follow the exchange on exactly the clean answers.** -/
theorem place_follows_iff (placement : LivePlacement) (answers : BookAnswers)
    (before : Leases String CooldownClaim) :
    FollowsExchange placement answers before (placement.place answers before) ↔
      BooksClean placement answers before := by
  unfold LivePlacement.place
  cases hkey : answers.exchangeKey with
  | none =>
    refine iff_of_true ⟨rfl, .inr rfl⟩ ⟨fun h => ?_, fun _ h => ?_⟩
    · simp [LivePlacement.reaches, hkey] at h
    · simp [hkey] at h
  | some =>
    simp only
    split
    · rename_i hallowed
      split
      · rename_i hrecorded
        have hreaches : placement.reaches answers before =
            (placement.creates answers && answers.created.reached) := by
          simp [LivePlacement.reaches, hkey, hallowed, hrecorded]
        cases hcreated : placement.creates answers && answers.created.reached with
        | true =>
          obtain ⟨hcreates, hreached⟩ := Bool.and_eq_true_iff.1 hcreated
          rw [bookOrder_created_iff hkey hcreates hreached]
          refine ⟨fun h => ⟨fun _ => h, fun hnone => ?_⟩, fun h => h.created (hreaches.trans hcreated)⟩
          rw [hreaches, hcreated] at hnone
          cases hnone
        | false =>
          rw [bookOrder_none_iff hkey hcreated]
          refine ⟨fun h => ⟨fun hsome => ?_, fun _ _ hsets => ⟨hrecorded, h hsets⟩⟩, fun h hsets => ?_⟩
          · rw [hreaches, hcreated] at hsome
            cases hsome
          · exact (h.released (hreaches.trans hcreated) (by rw [hkey]; rfl) hsets).2
      · rename_i hrecorded
        have hreaches : placement.reaches answers before = false := by
          simp [LivePlacement.reaches, hrecorded]
        refine (and_iff_right rfl).trans (claim_released_iff.trans ⟨fun h => ⟨fun hsome => ?_,
          fun _ _ hsets => absurd hsets h⟩, fun h hsets => ?_⟩)
        · rw [hreaches] at hsome
          cases hsome
        · exact hrecorded (h.released hreaches (by rw [hkey]; rfl) hsets).1
    · rename_i hblocked
      have hsets : ¬ Sets before placement.cooldownKey answers.claimed := fun hsets =>
        hblocked (claim_of_sets hsets).1
      refine iff_of_true ⟨rfl, claim_released_iff.2 hsets⟩ ⟨fun hsome => ?_, fun _ _ h => absurd h hsets⟩
      simp [LivePlacement.reaches, hblocked] at hsome

end Books

/-! ## A row that is not saved -/

def anyBooks : BookAnswers where
  exchangeKey := some ⟨"kraken-key", "kraken"⟩
  claimed := .answered
  cleared := .answered
  claimRecorded := true
  placedRecorded := true
  blockRecorded := true
  keyFound := true
  userFound := true
  futuresEnabled := true
  limits := some {}
  expectedPrice := some 100
  slippageAccepted := true
  created := .answered
  ccxtOrder := { anyReport with filled := some 1, average := some 100 }
  saved := true
  transitionRecorded := true
  positionUpdated := true
  id := "1"
  now := 0
  nowMs := 0

theorem place_forgets :
    (let placement := bitcoinPlacement .buy none
      let books := placement.place { anyBooks with saved := false } Leases.empty
      books.order.isSome = true ∧ books.status = .failed ∧
        (books.redis.get placement.cooldownKey).isNone = true ∧ books.booked.isNone = true) ∧
      ¬ FollowsExchange (bitcoinPlacement .buy none) { anyBooks with saved := false } Leases.empty
        ((bitcoinPlacement .buy none).place { anyBooks with saved := false } Leases.empty) := by
  have hfailed : ((bitcoinPlacement .buy none).place { anyBooks with saved := false }
      Leases.empty).status = .failed := by decide +kernel
  refine ⟨by decide +kernel, fun h => ?_⟩
  unfold FollowsExchange at h
  split at h
  · rw [hfailed] at h
    cases h.1
  · rename_i hnone
    revert hnone
    decide +kernel

end Chansey
