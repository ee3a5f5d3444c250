import Chansey.Live.Position

/-!
# The position monitor

The monitor feeds each new price of a symbol to the positions that trail it.
-/

namespace Chansey

def TRAILING_FALLBACK_PERCENTAGE : ℚ := 2 / 100

/-- `price` is a new high for a long and a new low for a short. A mark that is missing or zero is
`0` for a long and `Infinity` for a short. -/
def isNewWaterMark (price : ℚ) (waterMark : Option ℚ) : ExitSide → Bool
  | .buy => (Js.truthy? waterMark).getD 0 < price
  | .sell => (Js.truthy? waterMark).all (price < ·)

def shouldTriggerStop (price : ℚ) (stopPrice : Option ℚ) : ExitSide → Bool
  | .buy => stopPrice.any (price ≤ ·)
  | .sell => stopPrice.any (· ≤ price)

/-- `price` is at or beyond `level` in the favourable direction. -/
def ExitSide.reaches (side : ExitSide) (price level : ℚ) : Bool :=
  match side with
  | .buy => level ≤ price
  | .sell => price ≤ level

def shouldActivateTrailing (config : ExitConfig) (entryPrice : ℚ) (side : ExitSide)
    (currentPrice : ℚ) : Bool :=
  match config.trailingActivation with
  | .immediate => true
  | .price => side.reaches currentPrice ((Js.truthy? config.trailingActivationValue).getD 0)
  | .percentage =>
    let pctFactor := (Js.truthy? config.trailingActivationValue).getD 0 / 100
    let targetPrice :=
      match side with
      | .buy => entryPrice * (1 + pctFactor)
      | .sell => entryPrice * (1 - pctFactor)
    side.reaches currentPrice targetPrice

/-- The distance the monitor keeps: like `trailingDistance`, but 2 % when the ATR is missing. -/
def monitorTrailingDistance (currentPrice : ℚ) (config : ExitConfig) (entryAtr : Option ℚ) : ℚ :=
  match config.trailingType with
  | .amount => config.trailingValue
  | .percentage => currentPrice * (config.trailingValue / 100)
  | .atr =>
    (Js.truthy? entryAtr).elim (currentPrice * TRAILING_FALLBACK_PERCENTAGE)
      fun atr => atr * config.trailingValue

/-- `PositionMonitorService.calculateTrailingStopPrice` -/
def monitorTrailingStopPrice (currentPrice : ℚ) (config : ExitConfig) (side : ExitSide)
    (entryAtr : Option ℚ) : ℚ :=
  side.below currentPrice (monitorTrailingDistance currentPrice config entryAtr)

def PositionExit.waterMark (position : PositionExit) : Option ℚ :=
  match position.side with
  | .buy => position.trailingHighWaterMark
  | .sell => position.trailingLowWaterMark

def PositionExit.setWaterMark (position : PositionExit) (price : ℚ) : PositionExit :=
  match position.side with
  | .buy => { position with trailingHighWaterMark := some price }
  | .sell => { position with trailingLowWaterMark := some price }

/-- Activate an inactive trailing stop at its threshold, with the water mark at the price. The mark of
the other side becomes undefined, and its column stays as it is. -/
def activateTrailing (position : PositionExit) (currentPrice : ℚ) : PositionExit × Bool :=
  if ¬ position.trailingActivated ∧
      shouldActivateTrailing position.exitConfig position.entryPrice position.side currentPrice then
    ({ position.setWaterMark currentPrice with trailingActivated := true }, true)
  else (position, false)

structure MonitorResult where
  updated : Bool
  triggered : Bool

/-- The stop stays, moves, or is lost because its order could not be replaced. -/
inductive Ratchet where
  | kept | moved | lost
  deriving DecidableEq

section Update

-- `σ` is the world outside the row: the exchange and the database.
variable {σ : Type} (replaceStop : σ → PositionExit → ℚ → σ × PositionExit)
  (save : σ → PositionExit → σ)

/-- Replace the stop order on the exchange, if the position has one, and record the new stop. Only
an `ERROR` status keeps it from being recorded. -/
def moveStop (world : σ) (position : PositionExit) (newStopPrice : ℚ) :
    σ × PositionExit × Ratchet :=
  let recorded (position : PositionExit) : PositionExit :=
    { position with currentTrailingStopPrice := some newStopPrice }
  if (position.trailingStopOrderId.filter (· ≠ "")).isSome then
    let (world, replaced) := replaceStop world position newStopPrice
    if replaced.status = .error then (world, replaced, .lost)
    else (world, recorded replaced, .moved)
  else (world, recorded position, .moved)

/-- At a new water mark, move the stop to its distance if that is an improvement. -/
def ratchetStop (world : σ) (position : PositionExit) (currentPrice : ℚ) :
    σ × PositionExit × Ratchet :=
  if isNewWaterMark currentPrice position.waterMark position.side then
    let marked := position.setWaterMark currentPrice
    let newStopPrice :=
      monitorTrailingStopPrice currentPrice marked.exitConfig marked.side marked.entryAtr
    if isNewWaterMark newStopPrice position.currentTrailingStopPrice position.side then
      moveStop replaceStop world marked newStopPrice
    else (world, marked, .kept)
  else (world, position, .kept)

def triggerStop (now : Instant) (position : PositionExit) (currentStop : Option ℚ)
    (currentPrice : ℚ) : PositionExit × Bool :=
  if shouldTriggerStop currentPrice currentStop position.side then
    ({ position with
        status := .trailingTriggered
        triggeredAt := some now
        exitPrice := some currentPrice }, true)
  else (position, false)

/-- One tick of one position. A lost stop order ends the tick: that row is saved already. -/
def updateTrailingStop (now : Instant) (world : σ) (position : PositionExit) (currentPrice : ℚ) :
    σ × MonitorResult :=
  let (activated, updated) := activateTrailing position currentPrice
  if activated.trailingActivated then
    match ratchetStop replaceStop world activated currentPrice with
    | (world, _, .lost) => (world, { updated := true, triggered := false })
    | (world, ratcheted, ratchet) =>
      let (final, triggered) :=
        triggerStop now ratcheted activated.currentTrailingStopPrice currentPrice
      let updated := updated || ratchet = .moved
      ((if updated ∨ triggered then save world final else world),
        { updated := updated, triggered := triggered })
  else ((if updated then save world activated else world), { updated := updated, triggered := false })

variable {replaceStop}

theorem moveStop_of_no_order {position : PositionExit}
    (horder : position.trailingStopOrderId = none) (world : σ) (newStopPrice : ℚ) :
    moveStop replaceStop world position newStopPrice =
      (world, { position with currentTrailingStopPrice := some newStopPrice }, .moved) := by
  simp [moveStop, horder]

end Update

/-! ## What a tick never changes -/

def PositionExit.stopAt (row : PositionExit) (price : ℚ) : ℚ :=
  monitorTrailingStopPrice price row.exitConfig row.side row.entryAtr

structure SameTerms (row row' : PositionExit) : Prop where
  side : row'.side = row.side
  config : row'.exitConfig = row.exitConfig
  entry : row'.entryPrice = row.entryPrice
  atr : row'.entryAtr = row.entryAtr
  order : row'.trailingStopOrderId = row.trailingStopOrderId

namespace SameTerms

variable {row row' : PositionExit}

theorem refl (row : PositionExit) : SameTerms row row := ⟨rfl, rfl, rfl, rfl, rfl⟩

theorem trans {row'' : PositionExit} (h : SameTerms row row') (h' : SameTerms row' row'') :
    SameTerms row row'' :=
  ⟨h'.side.trans h.side, h'.config.trans h.config, h'.entry.trans h.entry, h'.atr.trans h.atr,
    h'.order.trans h.order⟩

theorem stopAt (h : SameTerms row row') (price : ℚ) : row'.stopAt price = row.stopAt price := by
  unfold PositionExit.stopAt
  rw [h.side, h.config, h.atr]

end SameTerms

theorem setWaterMark_terms (row : PositionExit) (price : ℚ) :
    SameTerms row (row.setWaterMark price) ∧
      (row.setWaterMark price).trailingActivated = row.trailingActivated ∧
      (row.setWaterMark price).currentTrailingStopPrice = row.currentTrailingStopPrice ∧
      (row.setWaterMark price).status = row.status ∧
      (row.setWaterMark price).waterMark = some price := by
  unfold PositionExit.setWaterMark PositionExit.waterMark
  cases hside : row.side <;>
    refine ⟨⟨?_, rfl, rfl, rfl, rfl⟩, rfl, rfl, rfl, ?_⟩ <;> simp [hside]

theorem triggerStop_spec (now : Instant) (position : PositionExit) (currentStop : Option ℚ)
    (price : ℚ) :
    (triggerStop now position currentStop price).2 =
        shouldTriggerStop price currentStop position.side ∧
      SameTerms position (triggerStop now position currentStop price).1 ∧
      (triggerStop now position currentStop price).1.trailingActivated =
        position.trailingActivated ∧
      (triggerStop now position currentStop price).1.currentTrailingStopPrice =
        position.currentTrailingStopPrice ∧
      (triggerStop now position currentStop price).1.waterMark = position.waterMark ∧
      (triggerStop now position currentStop price).1.status =
        if shouldTriggerStop price currentStop position.side then .trailingTriggered
        else position.status := by
  unfold triggerStop
  split_ifs with h
  · exact ⟨h.symm, ⟨rfl, rfl, rfl, rfl, rfl⟩, rfl, rfl, rfl, rfl⟩
  · exact ⟨(Bool.not_eq_true _ ▸ h).symm, ⟨rfl, rfl, rfl, rfl, rfl⟩, rfl, rfl, rfl, rfl⟩

/-! ## Numbers that the columns keep -/

/-- The price of a tick and its distance have at most eight decimals. -/
structure FitsColumns (config : ExitConfig) (entryAtr : Option ℚ) (x : ℚ) : Prop where
  price : InColumn x
  distance : InColumn (monitorTrailingDistance x config entryAtr)

theorem FitsColumns.stop {config : ExitConfig} {entryAtr : Option ℚ} {price : ℚ}
    (h : FitsColumns config entryAtr price) (side : ExitSide) :
    InColumn (monitorTrailingStopPrice price config side entryAtr) := by
  cases side with
  | buy => exact h.price.sub h.distance
  | sell => exact h.price.add h.distance

/-- `position` has the terms of `row` and no stop order, and its columns keep what the monitor
writes. -/
structure KeptOver (row position : PositionExit) : Prop where
  terms : SameTerms row position
  order : row.trailingStopOrderId = none
  stop : position.currentTrailingStopPrice.map priceColumn = position.currentTrailingStopPrice
  high : position.trailingHighWaterMark.map priceColumn = position.trailingHighWaterMark
  low : position.trailingLowWaterMark.map priceColumn = position.trailingLowWaterMark
  exit : position.exitPrice.map priceColumn = position.exitPrice

namespace KeptOver

variable {row position : PositionExit} {price : ℚ} (h : KeptOver row position)

include h

theorem savedOver_eq : row.savedOver position = position := by
  have horder : position.trailingStopOrderId.or row.trailingStopOrderId =
      position.trailingStopOrderId := by rw [h.order, Option.or_none]
  unfold PositionExit.savedOver
  rw [horder, h.stop, h.high, h.low, h.exit]

theorem self : KeptOver position position :=
  { h with terms := .refl position, order := h.terms.order.trans h.order }

variable (hprice : InColumn price)

include hprice

theorem setWaterMark : KeptOver row (position.setWaterMark price) := by
  unfold PositionExit.setWaterMark
  split
  · exact { h with
      terms := h.terms.trans ⟨rfl, rfl, rfl, rfl, rfl⟩, high := congrArg some (priceColumn_eq hprice) }
  · exact { h with
      terms := h.terms.trans ⟨rfl, rfl, rfl, rfl, rfl⟩, low := congrArg some (priceColumn_eq hprice) }

theorem activate : KeptOver row (activateTrailing position price).1 := by
  unfold activateTrailing
  split
  · exact { h.setWaterMark hprice with
      terms := (h.setWaterMark hprice).terms.trans ⟨rfl, rfl, rfl, rfl, rfl⟩ }
  · exact h

theorem setStop : KeptOver row { position with currentTrailingStopPrice := some price } :=
  { h with
    terms := h.terms.trans ⟨rfl, rfl, rfl, rfl, rfl⟩, stop := congrArg some (priceColumn_eq hprice) }

theorem trigger (now : Instant) (currentStop : Option ℚ) :
    KeptOver row (triggerStop now position currentStop price).1 := by
  unfold triggerStop
  split
  · exact { h with
      terms := h.terms.trans ⟨rfl, rfl, rfl, rfl, rfl⟩, exit := congrArg some (priceColumn_eq hprice) }
  · exact h

end KeptOver

section Saves

variable (replaceStop : PositionExit → PositionExit → ℚ → PositionExit × PositionExit)
  {row position : PositionExit} {price : ℚ}

theorem KeptOver.ratchet (h : KeptOver row position)
    (hfits : FitsColumns row.exitConfig row.entryAtr price) :
    (ratchetStop replaceStop row position price).1 = row ∧
      KeptOver row (ratchetStop replaceStop row position price).2.1 := by
  have hmarked := h.setWaterMark hfits.price
  have hstop : InColumn (monitorTrailingStopPrice price (position.setWaterMark price).exitConfig
      (position.setWaterMark price).side (position.setWaterMark price).entryAtr) := by
    rw [hmarked.terms.config, hmarked.terms.atr]
    exact hfits.stop _
  unfold ratchetStop
  split_ifs
  · dsimp only
    split_ifs
    · rw [moveStop_of_no_order (hmarked.terms.order.trans h.order)]
      exact ⟨rfl, hmarked.setStop hstop⟩
    · exact ⟨rfl, hmarked⟩
  · exact ⟨rfl, h⟩

theorem updateTrailingStop_savedOver (h : KeptOver row row) (now : Instant)
    (hfits : FitsColumns row.exitConfig row.entryAtr price) :
    updateTrailingStop replaceStop PositionExit.savedOver now row row price =
        updateTrailingStop replaceStop (fun _ position => position) now row row price ∧
      KeptOver row (updateTrailingStop replaceStop (fun _ position => position) now row
        row price).1 := by
  have hactivated := h.activate hfits.price
  obtain ⟨hworld, hratchet⟩ := hactivated.ratchet replaceStop hfits
  unfold updateTrailingStop
  dsimp only
  split_ifs with hactive hupdated
  · generalize ratchetStop replaceStop row (activateTrailing row price).1 price = ratcheted at *
    obtain ⟨world, position, ratchet⟩ := ratcheted
    obtain rfl : world = row := hworld
    have htriggered := hratchet.trigger hfits.price now
      (activateTrailing world price).1.currentTrailingStopPrice
    cases ratchet with
    | lost => exact ⟨rfl, h⟩
    | kept | moved =>
      refine ⟨Prod.ext (if_congr Iff.rfl htriggered.savedOver_eq rfl) rfl, ?_⟩
      dsimp only
      split
      · exact htriggered
      · exact h
  · exact ⟨Prod.ext hactivated.savedOver_eq rfl, hactivated⟩
  · exact ⟨rfl, h⟩

end Saves

end Chansey
