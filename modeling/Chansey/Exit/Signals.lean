import Chansey.Exit.Tracker

/-!
# Which exits a bar triggers

* **`checkPosition_signal_iff`**: the check of a position signals exactly the due exit.
* **`dueExit_unique`**: one exit is due at most, the stop-loss before the others.
-/

namespace Chansey

namespace BacktestExitTracker

variable (tracker : BacktestExitTracker) (coinId : CoinId) (tracked : TrackedExit)
  (lowPrice highPrice : ℚ)

def StopBreached : Prop := ∃ sl, tracked.stopLossPrice = some sl ∧ lowPrice ≤ sl

def TargetReached : Prop := ∃ tp, tracked.takeProfitPrice = some tp ∧ tp ≤ highPrice

def Trails : Prop :=
  (tracked.positionConfig.getD tracker.config).enableTrailingStop = true ∧
    tracked.trailingStopPrice.isSome

inductive DueExit : ExitType → ℚ → Prop
  | stopLoss {sl : ℚ} (side : tracked.side = .buy) (level : tracked.stopLossPrice = some sl)
      (breached : lowPrice ≤ sl) : DueExit .stopLoss sl
  | takeProfit {tp : ℚ} (side : tracked.side = .buy) (level : tracked.takeProfitPrice = some tp)
      (reached : tp ≤ highPrice) (noStop : ¬ StopBreached tracked lowPrice) :
      DueExit .takeProfit tp
  | trailingStop {ts : ℚ} (side : tracked.side = .buy) (trails : tracker.Trails tracked)
      (activated : (tracker.trail tracked highPrice).trailingActivated = true)
      (level : (tracker.trail tracked highPrice).trailingStopPrice = some ts)
      (breached : lowPrice ≤ ts) (noStop : ¬ StopBreached tracked lowPrice)
      (noTarget : ¬ TargetReached tracked highPrice) : DueExit .trailingStop ts

variable {tracker coinId tracked lowPrice highPrice}

@[simp] theorem side_trail : (tracker.trail tracked highPrice).side = tracked.side := by
  unfold trail
  dsimp only
  split_ifs <;> rfl

theorem stop_filter_eq (h : tracked.side = .buy ∧ StopBreached tracked lowPrice) :
    ∃ sl, tracked.stopLossPrice = some sl ∧ lowPrice ≤ sl ∧
      tracked.stopLossPrice.filter (fun sl => tracked.side = .buy ∧ lowPrice ≤ sl) = some sl := by
  obtain ⟨hside, sl, hsl, hle⟩ := h
  exact ⟨sl, hsl, hle, by simp [hsl, hside, hle]⟩

theorem stop_filter_none (h : ¬ (tracked.side = .buy ∧ StopBreached tracked lowPrice)) :
    tracked.stopLossPrice.filter (fun sl => tracked.side = .buy ∧ lowPrice ≤ sl) = none := by
  cases hsl : tracked.stopLossPrice with
  | none => rfl
  | some sl =>
    refine Option.filter_eq_none_iff.mpr fun q hq => ?_
    cases hq
    simp only [decide_eq_true_eq]
    exact fun hboth => h ⟨hboth.1, sl, hsl, hboth.2⟩

theorem target_filter_none (h : ¬ (tracked.side = .buy ∧ TargetReached tracked highPrice)) :
    tracked.takeProfitPrice.filter (fun tp => tracked.side = .buy ∧ tp ≤ highPrice) = none := by
  cases htp : tracked.takeProfitPrice with
  | none => rfl
  | some tp =>
    refine Option.filter_eq_none_iff.mpr fun q hq => ?_
    cases hq
    simp only [decide_eq_true_eq]
    exact fun hboth => h ⟨hboth.1, tp, htp, hboth.2⟩

theorem checkPosition_signal_iff (coinId : CoinId) {exitType : ExitType} {level : ℚ} :
    (∃ signal, (tracker.checkPosition coinId tracked lowPrice highPrice).signal = some signal ∧
        signal.exitType = exitType ∧ signal.executionPrice = level) ↔
      DueExit tracker tracked lowPrice highPrice exitType level := by
  unfold checkPosition
  dsimp only
  by_cases hstop : tracked.side = .buy ∧ StopBreached tracked lowPrice
  · obtain ⟨sl, hsl, hle, hfil⟩ := stop_filter_eq hstop
    rw [hfil]
    constructor
    · rintro ⟨signal, hsig, rfl, rfl⟩
      cases hsig
      exact .stopLoss hstop.1 hsl hle
    · intro hdue
      cases hdue with
      | stopLoss side hlevel =>
        rw [hsl] at hlevel
        cases hlevel
        exact ⟨_, rfl, rfl, rfl⟩
      | takeProfit side hlevel reached noStop
      | trailingStop side trails activated hlevel breached noStop => exact absurd hstop.2 noStop
  rw [stop_filter_none hstop]
  dsimp only
  by_cases htgt : tracked.side = .buy ∧ TargetReached tracked highPrice
  · obtain ⟨hside, tp, htp, hle⟩ := htgt
    have hno : ¬ StopBreached tracked lowPrice := fun h => hstop ⟨hside, h⟩
    have hfil : tracked.takeProfitPrice.filter
        (fun tp => tracked.side = .buy ∧ tp ≤ highPrice) = some tp := by
      simp [htp, hside, hle]
    rw [hfil]
    constructor
    · rintro ⟨signal, hsig, rfl, rfl⟩
      cases hsig
      exact .takeProfit hside htp hle hno
    · intro hdue
      cases hdue with
      | stopLoss side hlevel breached => exact absurd ⟨_, hlevel, breached⟩ hno
      | takeProfit side hlevel =>
        rw [htp] at hlevel
        cases hlevel
        exact ⟨_, rfl, rfl, rfl⟩
      | trailingStop side trails activated hlevel breached noStop noTarget =>
        exact absurd ⟨tp, htp, hle⟩ noTarget
  rw [target_filter_none htgt]
  dsimp only
  by_cases htrails : (tracked.positionConfig.getD tracker.config).enableTrailingStop = true ∧
      tracked.trailingStopPrice.isSome
  · rw [if_pos htrails]
    constructor
    · rintro ⟨signal, hsig, rfl, rfl⟩
      split at hsig
      · rename_i ts hts
        cases hsig
        obtain ⟨hlevel, hmet⟩ := Option.filter_eq_some_iff.mp hts
        simp only [decide_eq_true_eq, side_trail] at hmet
        obtain ⟨hactv, hside, hbreached⟩ := hmet
        exact .trailingStop hside htrails hactv hlevel hbreached
          (fun h => hstop ⟨hside, h⟩) (fun h => htgt ⟨hside, h⟩)
      · cases hsig
    · intro hdue
      cases hdue with
      | stopLoss side hlevel breached => exact absurd ⟨side, _, hlevel, breached⟩ hstop
      | takeProfit side hlevel reached => exact absurd ⟨side, _, hlevel, reached⟩ htgt
      | trailingStop side trails activated hlevel breached =>
        have hfil : (tracker.trail tracked highPrice).trailingStopPrice.filter
            (fun ts => (tracker.trail tracked highPrice).trailingActivated ∧
              (tracker.trail tracked highPrice).side = .buy ∧ lowPrice ≤ ts) = some level := by
          simp [hlevel, activated, side, breached]
        rw [hfil]
        exact ⟨_, rfl, rfl, rfl⟩
  · rw [if_neg htrails]
    constructor
    · rintro ⟨signal, hsig, -⟩
      cases hsig
    · intro hdue
      cases hdue with
      | stopLoss side hlevel breached => exact absurd ⟨side, _, hlevel, breached⟩ hstop
      | takeProfit side hlevel reached => exact absurd ⟨side, _, hlevel, reached⟩ htgt
      | trailingStop side trails =>
        exact absurd trails htrails

theorem dueExit_unique {exitType exitType' : ExitType} {level level' : ℚ}
    (h : DueExit tracker tracked lowPrice highPrice exitType level)
    (h' : DueExit tracker tracked lowPrice highPrice exitType' level') :
    exitType = exitType' ∧ level = level' := by
  obtain ⟨_, hsig, rfl, rfl⟩ := (checkPosition_signal_iff "").mpr h
  obtain ⟨_, hsig', rfl, rfl⟩ := (checkPosition_signal_iff "").mpr h'
  rw [hsig] at hsig'
  cases hsig'
  exact ⟨rfl, rfl⟩

/-! ## All positions of a bar -/

theorem trail_congr {t t' : BacktestExitTracker} (h : t.config = t'.config) :
    t.trail tracked highPrice = t'.trail tracked highPrice := by
  unfold trail recalcTrailingStop
  rw [h]

theorem checkPosition_congr {t t' : BacktestExitTracker} (h : t.config = t'.config) :
    t.checkPosition coinId tracked lowPrice highPrice =
      t'.checkPosition coinId tracked lowPrice highPrice := by
  unfold checkPosition
  rw [h, trail_congr h]

section CheckExits

variable (tracker) (closePrices lowPrices highPrices : OrdMap CoinId ℚ) (currentBar : ℕ)

def barCheck (coinId : CoinId) (tracked : TrackedExit) : Option ExitCheck :=
  ((closePrices.get? coinId).filter (0 < ·)).map fun closePrice =>
    tracker.checkPosition coinId tracked ((lowPrices.get? coinId).getD closePrice)
      ((highPrices.get? coinId).getD closePrice)

def afterBar (coinId : CoinId) (tracked : TrackedExit) : TrackedExit :=
  ((tracker.barCheck closePrices lowPrices highPrices coinId tracked).map (·.tracked)).getD tracked

def barSignal (coinId : CoinId) (tracked : TrackedExit) : Option ExitSignal :=
  (tracker.barCheck closePrices lowPrices highPrices coinId tracked).bind (·.signal)

@[simp] theorem positions_registerExitCooldown (coinId : CoinId) (tracked : TrackedExit) :
    (tracker.registerExitCooldown coinId tracked currentBar).positions = tracker.positions := by
  unfold registerExitCooldown
  dsimp only
  split_ifs <;> rfl

/-- One step of `checkExits`: it writes what the bar leaves of the position and adds its exit. -/
theorem checkEntry_eq {state : BacktestExitTracker × List ExitSignal}
    {entry : CoinId × TrackedExit} (hcfg : state.1.config = tracker.config)
    (hentry : state.1.positions.get? entry.1 = some entry.2) :
    let next := checkEntry closePrices lowPrices highPrices currentBar state entry
    (∀ c, next.1.positions.get? c =
        if entry.1 = c then
          some (tracker.afterBar closePrices lowPrices highPrices entry.1 entry.2)
        else state.1.positions.get? c) ∧
      next.2 = state.2 ++
        (tracker.barSignal closePrices lowPrices highPrices entry.1 entry.2).toList := by
  simp only [checkEntry, afterBar, barSignal, barCheck]
  cases hclose : (closePrices.get? entry.1).filter (0 < ·) with
  | none =>
    refine ⟨fun c => ?_, by simp⟩
    split_ifs with hc
    · subst hc
      simpa using hentry
    · rfl
  | some closePrice =>
    dsimp only
    rw [checkPosition_congr hcfg]
    simp only [Option.map_some, Option.getD_some, Option.bind_some]
    cases hsig : (tracker.checkPosition entry.1 entry.2
        ((lowPrices.get? entry.1).getD closePrice)
        ((highPrices.get? entry.1).getD closePrice)).signal with
    | none => exact ⟨fun c => OrdMap.get?_set _ _ _ _, by simp⟩
    | some =>
      refine ⟨fun c => ?_, by simp⟩
      dsimp only
      split_ifs with htype hc hc
      · subst hc
        simp
      · exact OrdMap.get?_set_of_ne _ _ hc
      · subst hc
        simp
      · rw [positions_registerExitCooldown]
        exact OrdMap.get?_set_of_ne _ _ hc

theorem foldl_checkEntry_eq {entries : List (CoinId × TrackedExit)}
    (hnodup : (entries.map Prod.fst).Nodup) (state : BacktestExitTracker × List ExitSignal)
    (hcfg : state.1.config = tracker.config)
    (hents : ∀ e ∈ entries, state.1.positions.get? e.1 = some e.2) :
    let final := entries.foldl (checkEntry closePrices lowPrices highPrices currentBar) state
    (∀ c t, state.1.positions.get? c = some t → c ∈ entries.map Prod.fst →
        final.1.positions.get? c = some (tracker.afterBar closePrices lowPrices highPrices c t)) ∧
      (∀ c, c ∉ entries.map Prod.fst → final.1.positions.get? c = state.1.positions.get? c) ∧
      final.2 = state.2 ++ entries.filterMap fun e =>
        tracker.barSignal closePrices lowPrices highPrices e.1 e.2 := by
  induction entries generalizing state with
  | nil => exact ⟨fun c t _ hc => absurd hc (by simp), fun c _ => rfl, by simp⟩
  | cons e es ih =>
    rw [List.map_cons, List.nodup_cons] at hnodup
    obtain ⟨hget, hsigs⟩ := checkEntry_eq tracker closePrices lowPrices highPrices currentBar
      hcfg (hents e List.mem_cons_self)
    have hne : ∀ d ∈ es, e.1 ≠ d.1 := fun d hd h => hnodup.1 (h ▸ List.mem_map_of_mem hd)
    obtain ⟨hin, hout, hall⟩ := ih hnodup.2
      (checkEntry closePrices lowPrices highPrices currentBar state e)
      (by rw [config_checkEntry, hcfg])
      (fun d hd => by
        rw [hget, if_neg (hne d hd)]
        exact hents d (List.mem_cons_of_mem _ hd))
    refine ⟨fun c t ht hc => ?_, fun c hc => ?_, ?_⟩
    · rw [List.map_cons, List.mem_cons] at hc
      by_cases he : e.1 = c
      · subst he
        have htrd : t = e.2 := Option.some_inj.mp (ht.symm.trans (hents e List.mem_cons_self))
        rw [List.foldl_cons, hout _ hnodup.1, hget, if_pos rfl, htrd]
      · rw [List.foldl_cons]
        refine hin c t ?_ (hc.resolve_left fun h => he h.symm)
        rw [hget, if_neg he]
        exact ht
    · rw [List.map_cons, List.mem_cons, not_or] at hc
      rw [List.foldl_cons, hout c hc.2, hget, if_neg fun h => hc.1 h.symm]
    · rw [List.foldl_cons, hall, hsigs]
      cases h : tracker.barSignal closePrices lowPrices highPrices e.1 e.2 with
      | none => simp only [List.filterMap_cons, h, Option.toList_none, List.append_nil]
      | some =>
        simp only [List.filterMap_cons, h, Option.toList_some, List.append_assoc,
          List.singleton_append]

theorem get?_checkExits (c : CoinId) :
    (tracker.checkExits closePrices lowPrices highPrices currentBar).1.positions.get? c =
      (tracker.positions.get? c).map
        (tracker.afterBar closePrices lowPrices highPrices c) := by
  obtain ⟨hin, hout, -⟩ := foldl_checkEntry_eq tracker closePrices lowPrices highPrices currentBar
    tracker.positions.nodup (tracker, []) rfl fun e he => OrdMap.get?_eq_some_iff.mpr he
  cases hget : tracker.positions.get? c with
  | none =>
    exact (hout c (OrdMap.get?_eq_none_iff.mp hget)).trans hget
  | some t =>
    exact hin c t hget (OrdMap.get?_isSome_iff.mp (by rw [hget]; rfl))

theorem signals_checkExits :
    (tracker.checkExits closePrices lowPrices highPrices currentBar).2 =
      tracker.positions.entries.filterMap fun e =>
        tracker.barSignal closePrices lowPrices highPrices e.1 e.2 := by
  obtain ⟨-, -, hall⟩ := foldl_checkEntry_eq tracker closePrices lowPrices highPrices currentBar
    tracker.positions.nodup (tracker, []) rfl fun e he => OrdMap.get?_eq_some_iff.mpr he
  rw [checkExits, hall, List.nil_append]

theorem mem_checkExits {signal : ExitSignal} :
    signal ∈ (tracker.checkExits closePrices lowPrices highPrices currentBar).2 ↔
      ∃ c t, tracker.positions.get? c = some t ∧
        tracker.barSignal closePrices lowPrices highPrices c t = some signal := by
  rw [signals_checkExits, List.mem_filterMap]
  constructor
  · rintro ⟨e, he, hsig⟩
    exact ⟨e.1, e.2, OrdMap.get?_eq_some_iff.mpr he, hsig⟩
  · rintro ⟨c, t, hget, hsig⟩
    exact ⟨(c, t), OrdMap.get?_eq_some_iff.mp hget, hsig⟩

end CheckExits

end BacktestExitTracker

end Chansey
