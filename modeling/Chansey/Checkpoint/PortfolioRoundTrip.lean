import Chansey.Checkpoint.State
import Chansey.Executor.Trade

/-!
# The portfolio section of a checkpoint

`SamePortfolio` says what a restored portfolio must share with the saved one. The checkpoint keeps
neither the side of a position nor its leverage, margin and liquidation price, so a short comes
back as a long.
-/

namespace Chansey

/-- The fields of a position that a round trip must keep. -/
structure SamePosition (p q : Position) : Prop where
  quantity : p.quantity = q.quantity
  averagePrice : p.averagePrice = q.averagePrice
  entryDate : p.entryDate = q.entryDate
  side : p.side = q.side
  leverage : p.leverage = q.leverage
  marginAmount : p.marginAmount = q.marginAmount
  liquidationPrice : p.liquidationPrice = q.liquidationPrice

/-- Same cash, same coins, same positions but for their stored value, same margin in use. -/
structure SamePortfolio (p q : Portfolio) : Prop where
  cashBalance : p.cashBalance = q.cashBalance
  coins : ∀ coinId, coinId ∈ p.positions.keys ↔ coinId ∈ q.positions.keys
  positions : ∀ coinId a b, p.positions.get? coinId = some a → q.positions.get? coinId = some b →
    SamePosition a b
  totalMarginUsed : p.totalMarginUsed = q.totalMarginUsed

/-- A position without any field of a short or leveraged one. -/
structure Position.IsPlain (p : Position) : Prop where
  side : p.side = none
  leverage : p.leverage = none
  marginAmount : p.marginAmount = none
  liquidationPrice : p.liquidationPrice = none

/-- What is left of a position in a checkpoint, valued at its average price. -/
def Position.restored (p : Position) : Position where
  quantity := p.quantity
  averagePrice := p.averagePrice
  totalValue := p.quantity * p.averagePrice
  entryDate := p.entryDate

theorem restorePortfolio_positions (portfolio : Portfolio) :
    (restorePortfolio (checkpointPortfolio portfolio)).positions =
      portfolio.positions.map fun _ p => p.restored := by
  rw [← OrdMap.ofEntries_map]
  simp only [restorePortfolio, checkpointPortfolio, deserializePortfolio, List.map_map]
  rfl

theorem restorePortfolio_totalMarginUsed (checkpoint : CheckpointPortfolio) :
    (restorePortfolio checkpoint).totalMarginUsed = 0 := by
  refine List.sum_eq_zero fun m hm => ?_
  obtain ⟨_, hpos, rfl⟩ := List.mem_map.mp hm
  obtain ⟨_, -, rfl⟩ := List.mem_map.mp hpos
  rfl

theorem Position.samePosition_restored_iff (p : Position) :
    SamePosition p.restored p ↔ p.IsPlain := by
  constructor
  · intro h
    exact ⟨h.side.symm, h.leverage.symm, h.marginAmount.symm, h.liquidationPrice.symm⟩
  · intro h
    exact ⟨rfl, rfl, rfl, h.side.symm, h.leverage.symm, h.marginAmount.symm,
      h.liquidationPrice.symm⟩

/-- **A portfolio survives the checkpoint exactly when every position is plain and no margin is in
use.** -/
theorem samePortfolio_restore_iff (portfolio : Portfolio) :
    SamePortfolio (restorePortfolio (checkpointPortfolio portfolio)) portfolio ↔
      (∀ coinId p, portfolio.positions.get? coinId = some p → p.IsPlain) ∧
        portfolio.totalMarginUsed = 0 := by
  have hget : ∀ coinId, (restorePortfolio (checkpointPortfolio portfolio)).positions.get? coinId =
      (portfolio.positions.get? coinId).map Position.restored := by
    intro coinId
    rw [restorePortfolio_positions, OrdMap.get?_map]
  constructor
  · intro h
    refine ⟨fun coinId p hp => ?_, ?_⟩
    · rw [← p.samePosition_restored_iff]
      exact h.positions coinId p.restored p (by rw [hget, hp]; rfl) hp
    · rw [← h.totalMarginUsed, restorePortfolio_totalMarginUsed]
  · rintro ⟨hplain, hmargin⟩
    refine ⟨rfl, fun coinId => ?_, fun coinId a b ha hb => ?_, ?_⟩
    · rw [restorePortfolio_positions, OrdMap.keys_map]
    · rw [hget, hb] at ha
      cases ha
      exact b.samePosition_restored_iff.mpr (hplain coinId b hb)
    · rw [restorePortfolio_totalMarginUsed, hmargin]

def unusedMath : Js.Math := ⟨id, id, id, fun base _ => base⟩

def shortEntry : ExecuteTradeParams where
  signal :=
    { action := .openShort, coinId := "eth", quantity := some 1
      metadata := OrdMap.empty.set "leverage" (.num 2) }
  marketData := { timestamp := 0, prices := OrdMap.empty.set "eth" 100 }
  tradingFee := 0
  slippageConfig := { type := .none }

/-- **A short opened by one trade is restored as a long of the same quantity, without its margin.** -/
theorem short_restored_as_long :
    (executeTrade unusedMath shortEntry (startPortfolio 1000)).map
        (fun x => (x.2.positions.get? "eth").map fun p => (p.side, p.quantity, p.marginAmount)) =
      .ok (some (some .short, 1, some 50)) ∧
    (executeTrade unusedMath shortEntry (startPortfolio 1000)).map
        (fun x => ((restorePortfolio (checkpointPortfolio x.2)).positions.get? "eth").map
          fun p => (p.side, p.quantity, p.marginAmount)) = .ok (some (none, 1, none)) ∧
    ¬ ∀ after, (executeTrade unusedMath shortEntry (startPortfolio 1000)).map (·.2) = .ok after →
      SamePortfolio (restorePortfolio (checkpointPortfolio after)) after := by
  refine ⟨by decide +kernel, by decide +kernel, fun h => ?_⟩
  have hrun : ∃ after, (executeTrade unusedMath shortEntry (startPortfolio 1000)).map (·.2) =
      .ok after ∧ after.totalMarginUsed = 50 := by
    cases hx : executeTrade unusedMath shortEntry (startPortfolio 1000) with
    | error =>
      have hne : (executeTrade unusedMath shortEntry (startPortfolio 1000)).isOk = true := by
        decide +kernel
      rw [hx] at hne
      cases hne
    | ok x =>
      have hm : (executeTrade unusedMath shortEntry (startPortfolio 1000)).map
          (·.2.totalMarginUsed) = .ok 50 := by decide +kernel
      rw [hx] at hm
      exact ⟨x.2, rfl, by simpa [Except.map] using hm⟩
  obtain ⟨after, hafter, hmargin⟩ := hrun
  have hzero := (h after hafter).totalMarginUsed
  rw [restorePortfolio_totalMarginUsed, hmargin] at hzero
  norm_num at hzero

end Chansey
