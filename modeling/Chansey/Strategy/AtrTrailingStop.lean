import Chansey.Live.TrailingRatchet

/-!
# The ATR trailing stop of a strategy

On each bar the stop is computed anew: a multiple of the average true range away from the extremum of
a window of bars, and not looser than what the bar before gives over the same window.
-/

namespace Chansey.AtrTrailingStop

inductive Direction where
  | long
  | short

/-- The side of the position that is protected. -/
def Direction.side : Direction → ExitSide
  | .long => .buy
  | .short => .sell

structure AtrTrailingStopConfig where
  atrPeriod : ℕ
  atrMultiplier : ℚ
  useHighLow : Bool

abbrev CandleData := PriceSummary

section Calculation

variable (config : AtrTrailingStopConfig) (direction : Direction)

def extremeValue (candle : CandleData) : ℚ :=
  if config.useHighLow then
    match direction with
    | .long => candle.high
    | .short => candle.low
  else candle.avg

def triggerPrice (candle : CandleData) : ℚ :=
  if config.useHighLow then
    match direction with
    | .long => candle.low
    | .short => candle.high
  else candle.avg

/-- `value > extremum` for a long, `value < extremum` for a short. -/
def Direction.beats : Direction → ℚ → ℚ → Bool
  | .long, value, extremum => extremum < value
  | .short, value, extremum => value < extremum

def Direction.update (direction : Direction) : Option ℚ → ℚ → Option ℚ
  | none, value => some value
  | some best, value => if direction.beats value best then some value else some best

def extremumOf (values : List ℚ) : Option ℚ := values.foldl direction.update none

/-- The bars from `first` on, up to and without `stop`. -/
def findExtremum (prices : List CandleData) (first stop : ℕ) : Option ℚ :=
  extremumOf direction (((prices.take stop).drop first).map (extremeValue config direction))

structure TrailingStopState where
  stopLevel : Option ℚ
  previousStopLevel : Option ℚ
  isTriggered : Bool

def levelAt (extremum atr : ℚ) : ℚ :=
  direction.side.below extremum (atr * config.atrMultiplier)

def ratcheted (previousStopLevel stopLevel : Option ℚ) : Option ℚ :=
  match previousStopLevel, stopLevel with
  | none, stop => stop
  | some previous, none => some previous
  | some previous, some stop => some (direction.side.tighter stop previous)

/-- The range of the bar before, or of the bar itself when there is none. -/
def previousAtr (atr : List ℚ) (currentAtr : ℚ) : ℕ → ℚ
  | 0 => currentAtr
  | i + 1 => atr.getD i currentAtr

def calculateTrailingStop (prices : List CandleData) (atr : List ℚ)
    (lookbackStart currentIndex : ℕ) : TrailingStopState :=
  let extremum := findExtremum config direction prices lookbackStart (currentIndex + 1)
  let currentAtr := atr.getD currentIndex 0
  let currentPrice := (prices[currentIndex]?).elim 0 (triggerPrice config direction)
  let stopLevel := extremum.map fun e => levelAt config direction e currentAtr
  let prevExtremum := findExtremum config direction prices lookbackStart currentIndex
  let prevAtr := previousAtr atr currentAtr currentIndex
  let previousStopLevel := prevExtremum.map fun e => levelAt config direction e prevAtr
  let ratchetedStopLevel := ratcheted direction previousStopLevel stopLevel
  { stopLevel := ratchetedStopLevel
    previousStopLevel := previousStopLevel
    isTriggered := ratchetedStopLevel.any fun stop =>
      match direction with
      | .long => currentPrice < stop
      | .short => stop < currentPrice }

end Calculation

/-! ## The extremum -/

section Extremum

variable {direction : Direction} {values : List ℚ} {value best : ℚ}

theorem beats_iff : direction.beats value best = true ↔ ¬ direction.side.TightAs best value := by
  cases direction with
  | long | short => exact decide_eq_true_iff.trans not_le.symm

theorem tightAs_of_not (h : ¬ direction.side.TightAs best value) :
    direction.side.TightAs value best := by
  cases direction with
  | long | short => exact (not_le.mp h).le

theorem foldl_update (direction : Direction) (values : List ℚ) (start : ℚ) :
    ∃ best, values.foldl direction.update (some start) = some best ∧ best ∈ start :: values ∧
      ∀ v ∈ start :: values, direction.side.TightAs best v := by
  induction values generalizing start with
  | nil => exact ⟨start, rfl, List.mem_singleton.mpr rfl, fun v hv => by
      rw [List.mem_singleton.mp hv]
      exact ExitSide.TightAs.refl _ _⟩
  | cons value values ih =>
    rw [List.foldl_cons, Direction.update]
    by_cases hbeats : direction.beats value start = true
    · obtain ⟨best, hfold, hmem, htight⟩ := ih value
      rw [if_pos hbeats]
      refine ⟨best, hfold, List.mem_cons_of_mem _ hmem, fun v hv => ?_⟩
      rcases List.mem_cons.mp hv with rfl | hv
      · exact (htight value List.mem_cons_self).trans (tightAs_of_not (beats_iff.mp hbeats))
      · exact htight v hv
    · obtain ⟨best, hfold, hmem, htight⟩ := ih start
      rw [if_neg hbeats]
      refine ⟨best, hfold, ?_, fun v hv => ?_⟩
      · rcases List.mem_cons.mp hmem with rfl | hmem
        · exact List.mem_cons_self
        · exact List.mem_cons_of_mem _ (List.mem_cons_of_mem _ hmem)
      · rcases List.mem_cons.mp hv with rfl | hv
        · exact htight v List.mem_cons_self
        · rcases List.mem_cons.mp hv with rfl | hv
          · exact (htight start List.mem_cons_self).trans
              (not_not.mp fun h => hbeats (beats_iff.mpr h))
          · exact htight v (List.mem_cons_of_mem _ hv)

theorem tightAs_antisymm {a b : ℚ} (h : direction.side.TightAs a b)
    (h' : direction.side.TightAs b a) : a = b := by
  cases direction with
  | long => exact le_antisymm h' h
  | short => exact le_antisymm h h'

theorem extremumOf_eq_some_iff :
    extremumOf direction values = some best ↔
      best ∈ values ∧ ∀ v ∈ values, direction.side.TightAs best v := by
  cases values with
  | nil =>
    constructor
    · intro h
      cases h
    · rintro ⟨h, -⟩
      cases h
  | cons value values =>
    obtain ⟨found, hfold, hmem, htight⟩ := foldl_update direction values value
    have hfound : extremumOf direction (value :: values) = some found := hfold
    rw [hfound, Option.some.injEq]
    constructor
    · rintro rfl
      exact ⟨hmem, htight⟩
    · rintro ⟨hbest, hall⟩
      exact tightAs_antisymm (htight best hbest) (hall found hmem)

theorem exists_extremumOf (h : values ≠ []) : ∃ best, extremumOf direction values = some best := by
  cases values with
  | nil => exact absurd rfl h
  | cons value values =>
    obtain ⟨found, hfold, -⟩ := foldl_update direction values value
    exact ⟨found, hfold⟩

end Extremum

/-! ## Stops that are no looser -/

/-- Whatever stop there was, there is one that is at least as tight. -/
def NoLooser (direction : Direction) (old new : Option ℚ) : Prop :=
  ∀ a, old = some a → ∃ b, new = some b ∧ direction.side.TightAs b a

section NoLooser

variable {direction : Direction} {old new previous stop : Option ℚ} {a b : ℚ}

theorem noLooser_none (new : Option ℚ) : NoLooser direction none new := by
  intro a h
  cases h

theorem not_noLooser_some_none : ¬ NoLooser direction (some a) none := by
  intro h
  obtain ⟨b, hb, -⟩ := h a rfl
  cases hb

theorem noLooser_some_some : NoLooser direction (some a) (some b) ↔ direction.side.TightAs b a := by
  constructor
  · intro h
    obtain ⟨_, hb', htight⟩ := h a rfl
    cases hb'
    exact htight
  · intro h a' ha'
    cases ha'
    exact ⟨b, rfl, h⟩

theorem NoLooser.refl (direction : Direction) (old : Option ℚ) : NoLooser direction old old :=
  fun a ha => ⟨a, ha, ExitSide.TightAs.refl _ a⟩

theorem NoLooser.trans {newer : Option ℚ} (h : NoLooser direction old new)
    (h' : NoLooser direction new newer) : NoLooser direction old newer := by
  intro a ha
  obtain ⟨b, hb, hab⟩ := h a ha
  obtain ⟨c, hc, hbc⟩ := h' b hb
  exact ⟨c, hc, hbc.trans hab⟩

theorem tightAs_tighter_iff {c : ℚ} :
    direction.side.TightAs (direction.side.tighter a b) c ↔
      direction.side.TightAs a c ∨ direction.side.TightAs b c := by
  cases direction with
  | long => exact le_max_iff
  | short => exact min_le_iff

theorem tightAs_iff_of_tighter {c : ℚ} :
    direction.side.TightAs c (direction.side.tighter a b) ↔
      direction.side.TightAs c a ∧ direction.side.TightAs c b := by
  cases direction with
  | long => exact max_le_iff
  | short => exact le_min_iff

theorem noLooser_ratcheted_iff :
    NoLooser direction old (ratcheted direction previous stop) ↔
      NoLooser direction old previous ∨ NoLooser direction old stop := by
  cases old with
  | none => exact iff_of_true (noLooser_none _) (Or.inl (noLooser_none _))
  | some =>
    cases previous with
    | none => exact (or_iff_right not_noLooser_some_none).symm
    | some =>
      cases stop with
      | none => exact (or_iff_left not_noLooser_some_none).symm
      | some =>
        rw [ratcheted, noLooser_some_some, noLooser_some_some, noLooser_some_some,
          tightAs_tighter_iff, or_comm]

theorem ratcheted_noLooser_iff :
    NoLooser direction (ratcheted direction previous stop) new ↔
      NoLooser direction previous new ∧ NoLooser direction stop new := by
  cases previous with
  | none => exact (and_iff_right (noLooser_none new)).symm
  | some =>
    cases stop with
    | none => exact (and_iff_left (noLooser_none new)).symm
    | some =>
      cases new with
      | none => exact iff_of_false not_noLooser_some_none fun h => not_noLooser_some_none h.1
      | some =>
        rw [ratcheted, noLooser_some_some, noLooser_some_some, noLooser_some_some,
          tightAs_iff_of_tighter, and_comm]

end NoLooser

/-! ## The stop of each bar -/

/-- Candles, and the range at each of them. -/
structure Series where
  prices : List CandleData
  atr : List ℚ
  length_eq : atr.length = prices.length

namespace Series

variable (series : Series) (config : AtrTrailingStopConfig) (direction : Direction)

def lookbackStart (config : AtrTrailingStopConfig) (i : ℕ) : ℕ := i - config.atrPeriod

def stopAt (i : ℕ) : TrailingStopState :=
  calculateTrailingStop config direction series.prices series.atr (lookbackStart config i) i

/-- The bars that the extremum of bar `i` is taken of. -/
def window (config : AtrTrailingStopConfig) (i : ℕ) : List CandleData :=
  (series.prices.take (i + 1)).drop (lookbackStart config i)

/-- The window of bar `i` without the bar. -/
def priorWindow (config : AtrTrailingStopConfig) (i : ℕ) : List CandleData :=
  (series.prices.take i).drop (lookbackStart config i)

def atrAt (i : ℕ) : ℚ := series.atr.getD i 0

end Series

def stopOf (config : AtrTrailingStopConfig) (direction : Direction) (bars : List CandleData)
    (atr : ℚ) : Option ℚ :=
  (extremumOf direction (bars.map (extremeValue config direction))).map fun e =>
    levelAt config direction e atr

/-- Bars one after the other on which no stop is triggered. -/
structure UntriggeredRun (series : Series) (config : AtrTrailingStopConfig)
    (direction : Direction) where
  first : ℕ
  last : ℕ
  inside : last < series.prices.length
  untriggered : ∀ i, first ≤ i → i ≤ last → (series.stopAt config direction i).isTriggered = false

/-- The stop of a later bar is no looser. -/
def UntriggeredRun.Ratchets {series : Series} {config : AtrTrailingStopConfig}
    {direction : Direction} (run : UntriggeredRun series config direction) : Prop :=
  ∀ i j, run.first ≤ i → i ≤ j → j ≤ run.last →
    NoLooser direction (series.stopAt config direction i).stopLevel
      (series.stopAt config direction j).stopLevel

def Outdoes (config : AtrTrailingStopConfig) (direction : Direction) (atr laterAtr : ℚ)
    (candle later : CandleData) : Prop :=
  direction.side.TightAs (extremeValue config direction later)
    (direction.side.below (extremeValue config direction candle)
      ((atr - laterAtr) * config.atrMultiplier))

/-- What makes up for the candle that leaves the window of bar `i`, and for a range that has widened
since the bar before. -/
structure StepKept (series : Series) (config : AtrTrailingStopConfig) (direction : Direction)
    (i : ℕ) : Prop where
  -- a candle that stays is as extreme as the one that leaves, or one of the next window outdoes it
  leaving : config.atrPeriod ≤ i → ∀ candle, series.prices[i - config.atrPeriod]? = some candle →
    (∃ stays ∈ series.priorWindow config (i + 1), direction.side.TightAs
      (extremeValue config direction stays) (extremeValue config direction candle)) ∨
      ∃ next ∈ series.window config (i + 1),
        Outdoes config direction (series.atrAt i) (series.atrAt (i + 1)) candle next
  widening : ∀ j, j + 1 = i → ∀ candle ∈ series.priorWindow config i,
    (∃ stays ∈ series.priorWindow config (i + 1),
      Outdoes config direction (series.atrAt j) (series.atrAt i) candle stays) ∨
      ∃ next ∈ series.window config (i + 1),
        Outdoes config direction (series.atrAt j) (series.atrAt (i + 1)) candle next

section Steps

variable {series : Series} {config : AtrTrailingStopConfig} {direction : Direction} {i : ℕ}

theorem tightAs_levelAt {a b atr : ℚ} (h : direction.side.TightAs a b) :
    direction.side.TightAs (levelAt config direction a atr) (levelAt config direction b atr) := by
  cases direction with
  | long => exact sub_le_sub_right h _
  | short => exact add_le_add_left h _

theorem outdoes_iff {atr laterAtr : ℚ} {candle later : CandleData} :
    Outdoes config direction atr laterAtr candle later ↔ direction.side.TightAs
      (levelAt config direction (extremeValue config direction later) laterAtr)
      (levelAt config direction (extremeValue config direction candle) atr) := by
  cases direction <;>
    simp only [Outdoes, levelAt, Direction.side, ExitSide.TightAs, ExitSide.below] <;>
    constructor <;> intro h <;> linarith

theorem outdoes_self_iff {atr : ℚ} {candle later : CandleData} :
    Outdoes config direction atr atr candle later ↔ direction.side.TightAs
      (extremeValue config direction later) (extremeValue config direction candle) := by
  cases direction <;> simp [Outdoes, Direction.side, ExitSide.below]

theorem noLooser_ratcheted_stopOf_iff {bars kept later : List CandleData}
    {atr keptAtr laterAtr : ℚ} :
    NoLooser direction (stopOf config direction bars atr) (ratcheted direction
        (stopOf config direction kept keptAtr) (stopOf config direction later laterAtr)) ↔
      ∀ candle ∈ bars, (∃ stays ∈ kept, Outdoes config direction atr keptAtr candle stays) ∨
        ∃ next ∈ later, Outdoes config direction atr laterAtr candle next := by
  have hstop : ∀ (bars' : List CandleData) (atr' level : ℚ),
      NoLooser direction (some level) (stopOf config direction bars' atr') ↔
        ∃ later ∈ bars', direction.side.TightAs
          (levelAt config direction (extremeValue config direction later) atr') level := by
    intro bars' atr' level
    constructor
    · intro h
      obtain ⟨_, hb, htight⟩ := h level rfl
      obtain ⟨_, hfound, rfl⟩ := Option.map_eq_some_iff.mp hb
      obtain ⟨candle, hcan, rfl⟩ := List.mem_map.mp (extremumOf_eq_some_iff.mp hfound).1
      exact ⟨candle, hcan, htight⟩
    · rintro ⟨candle, hcan, htight⟩ _ ⟨⟩
      have hvalue := List.mem_map_of_mem (f := extremeValue config direction) hcan
      obtain ⟨found, hfound⟩ := @exists_extremumOf direction _ (List.ne_nil_of_mem hvalue)
      refine ⟨levelAt config direction found atr', by rw [stopOf, hfound]; rfl, ?_⟩
      exact (tightAs_levelAt ((extremumOf_eq_some_iff.mp hfound).2 _ hvalue)).trans htight
  simp only [outdoes_iff, noLooser_ratcheted_iff]
  constructor
  · intro h candle hcan
    have hvalue := List.mem_map_of_mem (f := extremeValue config direction) hcan
    obtain ⟨best, hbest⟩ := @exists_extremumOf direction _ (List.ne_nil_of_mem hvalue)
    have hle := @tightAs_levelAt config direction _ _ atr
      ((extremumOf_eq_some_iff.mp hbest).2 _ hvalue)
    rw [stopOf, hbest, Option.map_some, hstop, hstop] at h
    refine h.imp ?_ ?_
    all_goals exact fun ⟨candle', hcan', htight⟩ => ⟨candle', hcan', htight.trans hle⟩
  · intro h
    cases hold : stopOf config direction bars atr with
    | none => exact .inl (noLooser_none _)
    | some level =>
      obtain ⟨_, hbest, rfl⟩ := Option.map_eq_some_iff.mp hold
      obtain ⟨candle, hcan, rfl⟩ := List.mem_map.mp (extremumOf_eq_some_iff.mp hbest).1
      exact (h candle hcan).imp (hstop _ _ _).mpr (hstop _ _ _).mpr

theorem mem_window_iff (hi : i < series.prices.length) {candle : CandleData} :
    candle ∈ series.window config i ↔
      config.atrPeriod ≤ i ∧ series.prices[i - config.atrPeriod]? = some candle ∨
        candle ∈ series.priorWindow config (i + 1) := by
  unfold Series.window Series.priorWindow Series.lookbackStart
  by_cases hleaves : config.atrPeriod ≤ i
  · have hlt : i - config.atrPeriod < (series.prices.take (i + 1)).length := by
      rw [List.length_take]
      omega
    have hget : series.prices[i - config.atrPeriod]? =
        some ((series.prices.take (i + 1)).get ⟨_, hlt⟩) := by
      rw [← List.getElem?_take_of_lt (by omega : i - config.atrPeriod < i + 1)]
      exact List.getElem?_eq_getElem hlt
    rw [List.drop_eq_getElem_cons hlt, Nat.sub_add_comm hleaves, List.mem_cons, hget,
      Option.some.injEq, and_iff_right hleaves, eq_comm]
    rfl
  · have hstart : i + 1 - config.atrPeriod = i - config.atrPeriod := by omega
    rw [hstart]
    exact (or_iff_right fun h => hleaves h.1).symm

theorem stopLevel_zero (series : Series) :
    (series.stopAt config direction 0).stopLevel =
      stopOf config direction (series.window config 0) (series.atrAt 0) := by
  have hprior : series.priorWindow config 0 = [] := by
    rw [Series.priorWindow, List.take_zero, List.drop_nil]
  show ratcheted direction
      (stopOf config direction (series.priorWindow config 0) (series.atrAt 0))
      (stopOf config direction (series.window config 0) (series.atrAt 0)) = _
  rw [hprior]
  rfl

theorem stopLevel_succ (hi : i < series.prices.length) :
    (series.stopAt config direction (i + 1)).stopLevel =
      ratcheted direction
        (stopOf config direction (series.priorWindow config (i + 1)) (series.atrAt i))
        (stopOf config direction (series.window config (i + 1)) (series.atrAt (i + 1))) := by
  have hatr : ∀ other : ℚ, series.atr.getD i other = series.atrAt i := by
    intro other
    have hlt : i < series.atr.length := series.length_eq.symm ▸ hi
    rw [Series.atrAt, List.getD_eq_getElem?_getD, List.getD_eq_getElem?_getD,
      List.getElem?_eq_getElem hlt, Option.getD_some, Option.getD_some]
  unfold Series.stopAt calculateTrailingStop previousAtr
  dsimp only
  rw [hatr]
  rfl

theorem noLooser_iff_stepKept (hi : i < series.prices.length) :
    NoLooser direction (series.stopAt config direction i).stopLevel
        (series.stopAt config direction (i + 1)).stopLevel ↔
      StepKept series config direction i := by
  have hleaving : NoLooser direction
      (stopOf config direction (series.window config i) (series.atrAt i))
      (series.stopAt config direction (i + 1)).stopLevel ↔
      (config.atrPeriod ≤ i → ∀ candle, series.prices[i - config.atrPeriod]? = some candle →
        (∃ stays ∈ series.priorWindow config (i + 1), direction.side.TightAs
          (extremeValue config direction stays) (extremeValue config direction candle)) ∨
          ∃ next ∈ series.window config (i + 1),
            Outdoes config direction (series.atrAt i) (series.atrAt (i + 1)) candle next) := by
    rw [stopLevel_succ hi, noLooser_ratcheted_stopOf_iff]
    simp only [outdoes_self_iff]
    constructor
    · exact fun h hleaves candle hget => h candle ((mem_window_iff hi).mpr (.inl ⟨hleaves, hget⟩))
    · intro h candle hcan
      rcases (mem_window_iff hi).mp hcan with ⟨hleaves, hget⟩ | hstays
      · exact h hleaves candle hget
      · exact .inl ⟨candle, hstays, ExitSide.TightAs.refl _ _⟩
  cases i with
  | zero =>
    rw [stopLevel_zero, hleaving]
    exact ⟨fun h => ⟨h, fun j hj => absurd hj (Nat.succ_ne_zero j)⟩, fun h => h.leaving⟩
  | succ j =>
    rw [stopLevel_succ (Nat.lt_of_succ_lt hi), ratcheted_noLooser_iff, hleaving, stopLevel_succ hi,
      noLooser_ratcheted_stopOf_iff]
    constructor
    · rintro ⟨hwidening, hleaving⟩
      refine ⟨hleaving, fun j' hj' => ?_⟩
      obtain rfl := Nat.succ.inj hj'
      exact hwidening
    · exact fun h => ⟨h.widening j rfl, h.leaving⟩

/-- **The stop of an untriggered run ratchets** exactly if every step of the run is kept. -/
theorem ratchets_iff (run : UntriggeredRun series config direction) :
    run.Ratchets ↔ ∀ i, run.first ≤ i → i < run.last → StepKept series config direction i := by
  constructor
  · intro h i hfirst hlast
    refine (noLooser_iff_stepKept (lt_trans hlast run.inside)).mp ?_
    exact h i (i + 1) hfirst (Nat.le_succ i) hlast
  · intro h i j hfirst hij hlast
    induction j, hij using Nat.le_induction with
    | base => exact NoLooser.refl _ _
    | succ j hij ih =>
      have hlt : j < run.last := hlast
      refine (ih hlt.le).trans ?_
      exact (noLooser_iff_stepKept (lt_trans hlt run.inside)).mpr (h j (hfirst.trans hij) hlt)

end Steps

def falling : Series where
  prices := (List.range 11).map fun k : ℕ =>
    { coin := "btc", date := k, avg := 99 - k, high := 100 - k, low := 98 - k }
  atr := List.replicate 11 2
  length_eq := by rw [List.length_replicate, List.length_map, List.length_range]

def fallingConfig : AtrTrailingStopConfig where
  atrPeriod := 8
  atrMultiplier := 6
  useHighLow := true

def fallingRun : UntriggeredRun falling fallingConfig .long where
  first := 8
  last := 10
  inside := by decide
  untriggered := by
    intro i hfirst hlast
    obtain rfl | rfl | rfl : i = 8 ∨ i = 9 ∨ i = 10 := by omega
    all_goals decide +kernel

theorem falling_loosened :
    (falling.stopAt fallingConfig .long 8).stopLevel = some 88 ∧
      (falling.stopAt fallingConfig .long 9).stopLevel = some 87 ∧
      (falling.stopAt fallingConfig .long 10).stopLevel = some 86 ∧
      ¬ fallingRun.Ratchets := by
  have hfirst : (falling.stopAt fallingConfig .long 8).stopLevel = some 88 := by decide +kernel
  have hnext : (falling.stopAt fallingConfig .long 9).stopLevel = some 87 := by decide +kernel
  have hlast : (falling.stopAt fallingConfig .long 10).stopLevel = some 86 := by decide +kernel
  refine ⟨hfirst, hnext, hlast, fun h => ?_⟩
  have hkept := h 8 9 (Nat.le_refl 8) (Nat.le_succ 8) (Nat.le_succ 9)
  rw [hfirst, hnext] at hkept
  have hle : (88 : ℚ) ≤ 87 := noLooser_some_some.mp hkept
  exact absurd hle (by decide +kernel)

end Chansey.AtrTrailingStop
