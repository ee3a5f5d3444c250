import Chansey.Live.Trailing

/-!
# The side of accepted exit prices

An exit price is validated by its sign, its side and its distance from the entry. A price that
equals the entry is neither on the wrong side nor too close.
-/

namespace Chansey

def ExpectedSide.Holds (side : ExpectedSide) (price entryPrice : ℚ) : Prop :=
  match side with
  | .above => entryPrice < price
  | .below => price < entryPrice

variable {price entryPrice : ℚ} {side : ExitSide}

theorem validateSingleExitPrice_nil_iff {exitType : ExitKind} {minPercentage maxPercentage : ℚ}
    {expectedSide : ExpectedSide} :
    validateSingleExitPrice exitType price entryPrice side minPercentage maxPercentage
        expectedSide = [] ↔
      0 < price ∧
        (price ≠ entryPrice → expectedSide.Holds price entryPrice ∧
          minPercentage ≤ |price - entryPrice| / entryPrice * 100) ∧
        |price - entryPrice| / entryPrice * 100 ≤ maxPercentage := by
  have hiff : ∀ (p : Prop) [Decidable p] (e : ExitPriceValidationError),
      (if p then [e] else []) = [] ↔ ¬ p := by
    intro p _ e
    split_ifs with h <;> simp [h]
  unfold validateSingleExitPrice
  dsimp only
  by_cases hpos : price ≤ 0
  · rw [if_pos hpos]
    exact iff_of_false (by simp) fun h => absurd h.1 (not_lt.mpr hpos)
  · rw [if_neg hpos, List.append_eq_nil_iff, List.append_eq_nil_iff, hiff, hiff, hiff]
    have hkey : ∀ onSide : Bool, (onSide = true ↔ expectedSide.Holds price entryPrice) →
        ((¬ (¬ onSide = true ∧ price ≠ entryPrice) ∧
            ¬ (|price - entryPrice| / entryPrice * 100 < minPercentage ∧ price ≠ entryPrice)) ∧
          ¬ maxPercentage < |price - entryPrice| / entryPrice * 100 ↔
        0 < price ∧
          (price ≠ entryPrice → expectedSide.Holds price entryPrice ∧
            minPercentage ≤ |price - entryPrice| / entryPrice * 100) ∧
          |price - entryPrice| / entryPrice * 100 ≤ maxPercentage) := by
      intro onSide hside
      rw [hside, not_lt]
      constructor
      · rintro ⟨⟨hwrong, hclose⟩, hfar⟩
        refine ⟨not_le.mp hpos, fun hne => ⟨?_, ?_⟩, hfar⟩
        · by_contra hnot
          exact hwrong ⟨hnot, hne⟩
        · by_contra hnot
          exact hclose ⟨not_le.mp hnot, hne⟩
      · rintro ⟨-, hboth, hfar⟩
        exact ⟨⟨fun h => h.1 (hboth h.2).1, fun h => absurd (hboth h.2).2 (not_le.mpr h.1)⟩, hfar⟩
    cases expectedSide with
    | above | below => exact hkey _ decide_eq_true_iff

/-! ## Exits on their side -/

structure ExitAt (expectedSide : ExpectedSide) (entryPrice price : ℚ) : Prop where
  positive : 0 < price
  holds : expectedSide.Holds price entryPrice

/-- **The exits of a position are on their sides**: stops on the protective side, the target on the
other; at the entry price itself nothing triggers. -/
structure OnRightSide (prices : CalculatedExitPrices) (side : ExitSide) : Prop where
  stopLoss : ∀ sl, prices.stopLossPrice = some sl → ExitAt side.stopSide prices.entryPrice sl
  takeProfit : ∀ tp, prices.takeProfitPrice = some tp → ExitAt side.profitSide prices.entryPrice tp
  trailingStop : ∀ ts, prices.trailingStopPrice = some ts →
    ExitAt side.stopSide prices.entryPrice ts
  stopQuiet : shouldTriggerStop prices.entryPrice prices.stopLossPrice side = false
  targetQuiet : ∀ tp, prices.takeProfitPrice = some tp → side.reaches prices.entryPrice tp = false
  trailingQuiet : shouldTriggerStop prices.entryPrice prices.trailingStopPrice side = false

structure NoneAtEntry (prices : CalculatedExitPrices) : Prop where
  stopLoss : prices.stopLossPrice ≠ some prices.entryPrice
  takeProfit : prices.takeProfitPrice ≠ some prices.entryPrice
  trailingStop : prices.trailingStopPrice ≠ some prices.entryPrice

theorem stop_quiet {entryPrice : ℚ} {stop : Option ℚ}
    (h : ∀ s, stop = some s → ExitAt side.stopSide entryPrice s) :
    shouldTriggerStop entryPrice stop side = false := by
  cases stop with
  | none => cases side <;> rfl
  | some s =>
    have hs := (h s rfl).holds
    cases side with
    | buy | sell => exact decide_eq_false (not_le.mpr hs)

theorem target_quiet {entryPrice tp : ℚ} (h : ExitAt side.profitSide entryPrice tp) :
    side.reaches entryPrice tp = false := by
  have htp := h.holds
  cases side with
  | buy | sell => exact decide_eq_false (not_le.mpr htp)

theorem ExpectedSide.Holds.ne {side : ExpectedSide} (h : side.Holds price entryPrice) :
    price ≠ entryPrice := by
  cases side with
  | above => exact ne_of_gt h
  | below => exact ne_of_lt h

section Accepted

variable {prices : CalculatedExitPrices} {side : ExitSide} {limits : ExitPriceValidationLimits}

theorem accepted_passes (h : validateExitPrices prices side limits = []) :
    (∀ sl, prices.stopLossPrice = some sl →
        validateSingleExitPrice .stopLoss sl prices.entryPrice side limits.minStopLossPercentage
          limits.maxStopLossPercentage side.stopSide = []) ∧
      (∀ tp, prices.takeProfitPrice = some tp →
        validateSingleExitPrice .takeProfit tp prices.entryPrice side
          limits.minTakeProfitPercentage limits.maxTakeProfitPercentage side.profitSide = []) ∧
      ∀ ts, prices.trailingStopPrice = some ts →
        validateSingleExitPrice .trailingStop ts prices.entryPrice side
          limits.minTrailingStopPercentage limits.maxTrailingStopPercentage side.stopSide = [] := by
  unfold validateExitPrices at h
  obtain ⟨hfirst, htrlg⟩ := List.append_eq_nil_iff.mp h
  obtain ⟨hstop, htgt⟩ := List.append_eq_nil_iff.mp hfirst
  refine ⟨fun sl hsl => ?_, fun tp htp => ?_, fun ts hts => ?_⟩
  · rwa [hsl] at hstop
  · rwa [htp] at htgt
  · rwa [hts] at htrlg

theorem accepted_onRightSide_of_noneAtEntry (h : validateExitPrices prices side limits = []) :
    OnRightSide prices side ↔ NoneAtEntry prices := by
  obtain ⟨hstop, htgt, htrlg⟩ := accepted_passes h
  constructor
  · intro hright
    exact ⟨fun hsl => (hright.stopLoss _ hsl).holds.ne rfl,
      fun htp => (hright.takeProfit _ htp).holds.ne rfl,
      fun hts => (hright.trailingStop _ hts).holds.ne rfl⟩
  · intro hnone
    have hsl : ∀ sl, prices.stopLossPrice = some sl →
        ExitAt side.stopSide prices.entryPrice sl := by
      intro sl hsl
      obtain ⟨hpos, hside, -⟩ := validateSingleExitPrice_nil_iff.mp (hstop sl hsl)
      exact ⟨hpos, (hside fun heq => hnone.stopLoss (heq ▸ hsl)).1⟩
    have htp : ∀ tp, prices.takeProfitPrice = some tp →
        ExitAt side.profitSide prices.entryPrice tp := by
      intro tp htp
      obtain ⟨hpos, hside, -⟩ := validateSingleExitPrice_nil_iff.mp (htgt tp htp)
      exact ⟨hpos, (hside fun heq => hnone.takeProfit (heq ▸ htp)).1⟩
    have hts : ∀ ts, prices.trailingStopPrice = some ts →
        ExitAt side.stopSide prices.entryPrice ts := by
      intro ts hts
      obtain ⟨hpos, hside, -⟩ := validateSingleExitPrice_nil_iff.mp (htrlg ts hts)
      exact ⟨hpos, (hside fun heq => hnone.trailingStop (heq ▸ hts)).1⟩
    exact ⟨hsl, htp, hts, stop_quiet hsl, fun tp h => target_quiet (htp tp h), stop_quiet hts⟩

end Accepted

/-! ## Distances of zero -/

section AtEntry

variable (config : ExitConfig) (entryPrice : ℚ) (currentAtr : Option ℚ)

def StopAtEntry : Prop :=
  match config.stopLossType with
  | .fixed => config.stopLossValue = entryPrice
  | .percentage => config.stopLossValue = 0
  | .atr => (Js.truthy? currentAtr).isSome ∧ config.stopLossValue = 0

/-- The target is configured at the entry. Without a stop-loss a reward falls back to a share of the
price. -/
def TargetAtEntry : Prop :=
  match config.takeProfitType with
  | .fixed => config.takeProfitValue = entryPrice
  | .percentage => config.takeProfitValue = 0
  | .riskReward => config.enableStopLoss = true ∧ config.takeProfitValue = 0

def TrailingAtEntry : Prop :=
  match config.trailingType with
  | .amount => config.trailingValue = 0
  | .percentage => config.trailingValue = 0
  | .atr => (Js.truthy? currentAtr).isSome ∧ config.trailingValue = 0

/-- **An enabled exit has a distance of zero.** -/
def AtEntry : Prop :=
  config.enableStopLoss = true ∧ StopAtEntry config entryPrice currentAtr ∨
    config.enableTakeProfit = true ∧ TargetAtEntry config entryPrice ∨
    config.enableTrailingStop = true ∧ TrailingAtEntry config currentAtr

variable {config entryPrice currentAtr}

@[simp] theorem ExitSide.below_eq_self {side : ExitSide} {price distance : ℚ} :
    side.below price distance = price ↔ distance = 0 := by
  cases side <;> simp [ExitSide.below]

@[simp] theorem ExitSide.above_eq_self {side : ExitSide} {price distance : ℚ} :
    side.above price distance = price ↔ distance = 0 := by
  cases side <;> simp [ExitSide.above]

theorem stopAtEntry_price (side : ExitSide) (h : StopAtEntry config entryPrice currentAtr) :
    calculateStopLossPrice entryPrice side config currentAtr = entryPrice := by
  unfold StopAtEntry at h
  unfold calculateStopLossPrice
  cases htype : config.stopLossType with
  | fixed =>
    rw [htype] at h
    exact h
  | percentage =>
    rw [htype] at h
    simpa using Or.inr h
  | atr =>
    rw [htype] at h
    obtain ⟨hsome, hzero⟩ := h
    obtain ⟨_, hatr⟩ := Option.isSome_iff_exists.mp hsome
    simp [hatr, hzero]

theorem price_stopAtEntry (hentry : entryPrice ≠ 0) {side : ExitSide}
    (h : calculateStopLossPrice entryPrice side config currentAtr = entryPrice) :
    StopAtEntry config entryPrice currentAtr := by
  unfold calculateStopLossPrice at h
  unfold StopAtEntry
  cases htype : config.stopLossType with
  | fixed =>
    rw [htype] at h
    exact h
  | percentage =>
    rw [htype] at h
    simpa [hentry] using h
  | atr =>
    rw [htype] at h
    cases hatr : Js.truthy? currentAtr with
    | none => simp [hatr, hentry] at h
    | some =>
      have hne := (Js.truthy?_eq_some.mp hatr).2
      simpa [hatr, hne] using h

theorem trailingAtEntry_distance (h : TrailingAtEntry config currentAtr) :
    trailingDistance entryPrice config currentAtr = 0 := by
  unfold TrailingAtEntry at h
  unfold trailingDistance
  cases htype : config.trailingType with
  | amount =>
    rw [htype] at h
    exact h
  | percentage =>
    rw [htype] at h
    simpa using Or.inr h
  | atr =>
    rw [htype] at h
    obtain ⟨hsome, hzero⟩ := h
    obtain ⟨_, hatr⟩ := Option.isSome_iff_exists.mp hsome
    simp [hatr, hzero]

theorem distance_trailingAtEntry (hentry : entryPrice ≠ 0)
    (h : trailingDistance entryPrice config currentAtr = 0) :
    TrailingAtEntry config currentAtr := by
  unfold trailingDistance at h
  unfold TrailingAtEntry
  cases htype : config.trailingType with
  | amount =>
    rw [htype] at h
    exact h
  | percentage =>
    rw [htype] at h
    simpa [hentry] using h
  | atr =>
    rw [htype] at h
    cases hatr : Js.truthy? currentAtr with
    | none => simp [hatr, hentry] at h
    | some =>
      have hne := (Js.truthy?_eq_some.mp hatr).2
      simpa [hatr, hne] using h

theorem targetAtEntry_price (side : ExitSide) {stopLossPrice : Option ℚ}
    (hsome : config.enableStopLoss = true → ∃ sl, stopLossPrice = some sl ∧ sl ≠ 0)
    (h : TargetAtEntry config entryPrice) :
    calculateTakeProfitPrice entryPrice side config stopLossPrice = entryPrice := by
  unfold TargetAtEntry at h
  unfold calculateTakeProfitPrice
  cases htype : config.takeProfitType with
  | fixed =>
    rw [htype] at h
    exact h
  | percentage =>
    rw [htype] at h
    simpa using Or.inr h
  | riskReward =>
    rw [htype] at h
    obtain ⟨_, rfl, hne⟩ := hsome h.1
    simp [Js.truthy?_some, hne, h.2]

theorem price_targetAtEntry (hentry : entryPrice ≠ 0) {side : ExitSide}
    {stopLossPrice : Option ℚ} (hen : stopLossPrice.isSome = true → config.enableStopLoss = true)
    (hstop : stopLossPrice ≠ some entryPrice)
    (h : calculateTakeProfitPrice entryPrice side config stopLossPrice = entryPrice) :
    TargetAtEntry config entryPrice := by
  unfold calculateTakeProfitPrice at h
  unfold TargetAtEntry
  cases htype : config.takeProfitType with
  | fixed =>
    rw [htype] at h
    exact h
  | percentage =>
    rw [htype] at h
    simpa [hentry] using h
  | riskReward =>
    rw [htype] at h
    cases hsl : Js.truthy? stopLossPrice with
    | none => simp [hsl, hentry] at h
    | some sl =>
      obtain ⟨rfl, -⟩ := Js.truthy?_eq_some.mp hsl
      have hne : entryPrice - sl ≠ 0 := fun heq => hstop (by rw [sub_eq_zero.mp heq])
      refine ⟨hen rfl, ?_⟩
      simpa [hsl, hne] using h

variable (config currentAtr) {limits : ExitPriceValidationLimits} {side : ExitSide}

theorem accepted_noneAtEntry_iff
    (hacc : validateExitPrices (calculateExitPrices entryPrice side config currentAtr) side
      limits = []) :
    NoneAtEntry (calculateExitPrices entryPrice side config currentAtr) ↔
      ¬ AtEntry config entryPrice currentAtr := by
  obtain ⟨hstop, htgt, htrlg⟩ := accepted_passes hacc
  -- an accepted exit at the entry is positive, and so is the entry
  have hentry : ∀ {exitType : ExitKind} {price low high : ℚ} {expected : ExpectedSide},
      validateSingleExitPrice exitType price entryPrice side low high expected = [] →
        price = entryPrice → entryPrice ≠ 0 := fun hpass heq =>
    heq ▸ (validateSingleExitPrice_nil_iff.mp hpass).1.ne'
  constructor
  · rintro ⟨hsl, htp, hts⟩ (⟨hon, hat⟩ | ⟨hon, hat⟩ | ⟨hon, hat⟩)
    · refine hsl ?_
      simp only [calculateExitPrices, hon, if_true]
      rw [stopAtEntry_price side hat]
    · refine htp ?_
      simp only [calculateExitPrices, hon, if_true]
      rw [targetAtEntry_price side (fun hstopOn => ?_) hat]
      rw [if_pos hstopOn]
      refine ⟨_, rfl, ?_⟩
      have hpass := hstop (calculateStopLossPrice entryPrice side config currentAtr)
        (by simp only [calculateExitPrices, hstopOn, if_true])
      exact (validateSingleExitPrice_nil_iff.mp hpass).1.ne'
    · refine hts ?_
      simp only [calculateExitPrices, hon, if_true]
      rw [calculateTrailingStopPrice, ExitSide.below_eq_self.mpr (trailingAtEntry_distance hat)]
  · intro hnot
    have hsl : (calculateExitPrices entryPrice side config currentAtr).stopLossPrice ≠
        some entryPrice := by
      intro hsl
      have hne := hentry (hstop _ hsl) rfl
      simp only [calculateExitPrices] at hsl
      split_ifs at hsl with hon
      exact hnot (.inl ⟨hon, price_stopAtEntry hne (Option.some_inj.mp hsl)⟩)
    refine ⟨hsl, fun htp => ?_, fun hts => ?_⟩
    · have hne := hentry (htgt _ htp) rfl
      simp only [calculateExitPrices] at htp hsl
      split_ifs at htp with hon hstopOn
      · rw [if_pos hstopOn] at hsl
        exact hnot (.inr (.inl ⟨hon, price_targetAtEntry hne (fun _ => hstopOn) hsl
          (Option.some_inj.mp htp)⟩))
      · exact hnot (.inr (.inl ⟨hon, price_targetAtEntry hne (fun h => by simp at h) (by simp)
          (Option.some_inj.mp htp)⟩))
    · have hne := hentry (htrlg _ hts) rfl
      simp only [calculateExitPrices] at hts
      split_ifs at hts with hon
      exact hnot (.inr (.inr ⟨hon, distance_trailingAtEntry hne
        (ExitSide.below_eq_self.mp (Option.some_inj.mp hts))⟩))

/-- **Accepted exits are on their sides exactly when no enabled exit has a distance of zero.** -/
theorem accepted_onRightSide_iff
    (haccepted : validateExitPrices (calculateExitPrices entryPrice side config currentAtr) side
      limits = []) :
    OnRightSide (calculateExitPrices entryPrice side config currentAtr) side ↔
      ¬ AtEntry config entryPrice currentAtr :=
  (accepted_onRightSide_of_noneAtEntry haccepted).trans
    (accepted_noneAtEntry_iff config currentAtr haccepted)

end AtEntry

def percentExits (stop : ℚ) : ExitConfig :=
  { DEFAULT_EXIT_CONFIG with
    enableStopLoss := true
    stopLossValue := stop
    enableTakeProfit := true
    enableTrailingStop := true }

theorem fivePercent_onRightSide :
    OnRightSide (calculateExitPrices 100 .buy (percentExits 5) none) .buy :=
  (@accepted_onRightSide_iff (percentExits 5) 100 none DEFAULT_EXIT_PRICE_VALIDATION_LIMITS .buy
    (by decide +kernel)).mpr (by
      rintro (⟨-, hat⟩ | ⟨-, hat⟩ | ⟨-, hat⟩)
      · norm_num [StopAtEntry, percentExits, DEFAULT_EXIT_CONFIG] at hat
      · norm_num [TargetAtEntry, percentExits, DEFAULT_EXIT_CONFIG] at hat
      · norm_num [TrailingAtEntry, percentExits, DEFAULT_EXIT_CONFIG] at hat)

/-- **A stop-loss of 0 % is accepted**: bought at 100, the stop-loss is at 100. -/
theorem zeroPercent_atEntry :
    validateExitPrices (calculateExitPrices 100 .buy (percentExits 0) none) .buy
        DEFAULT_EXIT_PRICE_VALIDATION_LIMITS = [] ∧
      ¬ OnRightSide (calculateExitPrices 100 .buy (percentExits 0) none) .buy := by
  refine ⟨by decide +kernel, fun h => ?_⟩
  have hstop := (h.stopLoss 100 (by decide +kernel)).holds
  exact absurd hstop (lt_irrefl 100)

end Chansey
