import Chansey.Ohlc.CandleReads

/-!
# Gaps in the stored candles

One pass over the candles of a coin compares each timestamp with the one expected after the last,
and tolerates a difference of one hour.

* `ExactGaps`: the gaps are in order, disjoint and in the range, and cover an hour exactly if no
  candle is stored for it.
-/

namespace Chansey.Ohlc

structure GapInfo where
  start : ℤ
  stop : ℤ

def GapInfo.Covers (gap : GapInfo) (hour : ℤ) : Prop :=
  gap.start ≤ hour ∧ hour ≤ gap.stop

instance (gap : GapInfo) (hour : ℤ) : Decidable (gap.Covers hour) := by
  unfold GapInfo.Covers
  infer_instance

def scanGaps (endDate : ℤ) : ℤ → List ℤ → List GapInfo
  | expectedTime, [] => if expectedTime < endDate then [⟨expectedTime, endDate⟩] else []
  | expectedTime, candleTime :: candles =>
    if candleTime - expectedTime > HOUR_MS then
      ⟨expectedTime, candleTime - HOUR_MS⟩ :: scanGaps endDate (candleTime + HOUR_MS) candles
    else scanGaps endDate (candleTime + HOUR_MS) candles

def detectGaps (repository : CandleRepository) (coinId : CoinId) (startDate endDate : Instant) :
    List GapInfo :=
  scanGaps endDate startDate
    ((repository.getMany [coinId] startDate endDate).map fun row => row.candle.timestamp)

/-! ## The pass -/

/-- The timestamps that are left, when the next is expected at `expectedTime`. -/
structure Left (endDate expectedTime : ℤ) (candles : List ℤ) : Prop where
  sorted : candles.Pairwise (· ≤ ·)
  hourly : ∀ candle ∈ candles, HOUR_MS ∣ candle
  expected : ∀ candle ∈ candles, expectedTime - HOUR_MS ≤ candle
  le_end : ∀ candle ∈ candles, candle ≤ endDate

variable {candles : List ℤ} {endDate expectedTime candleTime hour : ℤ}

theorem Left.tail {endDate expectedTime candleTime : ℤ}
    (h : Left endDate expectedTime (candleTime :: candles)) :
    Left endDate (candleTime + HOUR_MS) candles where
  sorted := h.sorted.of_cons
  hourly candle hmem := h.hourly candle (List.mem_cons_of_mem _ hmem)
  expected candle hmem := by
    rw [add_sub_cancel_right]
    exact List.rel_of_pairwise_cons h.sorted hmem
  le_end candle hmem := h.le_end candle (List.mem_cons_of_mem _ hmem)

theorem mem_scanGaps {endDate expectedTime : ℤ} {gap : GapInfo}
    (h : Left endDate expectedTime candles) (hgap : gap ∈ scanGaps endDate expectedTime candles) :
    expectedTime ≤ gap.start ∧ gap.start ≤ gap.stop ∧ gap.stop ≤ endDate := by
  induction candles generalizing expectedTime gap with
  | nil =>
    rw [scanGaps] at hgap
    split at hgap
    · obtain rfl := List.mem_singleton.mp hgap
      exact ⟨le_refl _, le_of_lt ‹_›, le_refl _⟩
    · cases hgap
  | cons candleTime candles ih =>
    have hexp := h.expected candleTime List.mem_cons_self
    have hend := h.le_end candleTime List.mem_cons_self
    have hrest : ∀ gap ∈ scanGaps endDate (candleTime + HOUR_MS) candles,
        expectedTime ≤ gap.start ∧ gap.start ≤ gap.stop ∧ gap.stop ≤ endDate := by
      intro gap hgap
      have hlater := ih h.tail hgap
      exact ⟨by linarith [hlater.1], hlater.2⟩
    rw [scanGaps] at hgap
    split at hgap
    · rename_i hwide
      rcases List.mem_cons.mp hgap with rfl | hgap
      · unfold HOUR_MS at *
        dsimp only
        omega
      · exact hrest gap hgap
    · exact hrest gap hgap

theorem pairwise_scanGaps {endDate expectedTime : ℤ} (h : Left endDate expectedTime candles) :
    (scanGaps endDate expectedTime candles).Pairwise fun a b => a.stop < b.start := by
  induction candles generalizing expectedTime with
  | nil =>
    rw [scanGaps]
    split
    · exact List.pairwise_singleton _ _
    · exact List.Pairwise.nil
  | cons candleTime candles ih =>
    rw [scanGaps]
    split
    · refine (ih h.tail).cons fun gap hgap => ?_
      have := (mem_scanGaps h.tail hgap).1
      unfold HOUR_MS at *
      dsimp only
      omega
    · exact ih h.tail

/-- The pass tolerates that an hour is missing: the one before it was there, or it is the first,
and the one after it is there, or it is the last. -/
def Tolerated (endDate expectedTime : ℤ) (candles : List ℤ) (hour : ℤ) : Prop :=
  (hour = expectedTime ∨ hour - HOUR_MS ∈ candles) ∧ (hour + HOUR_MS ∈ candles ∨ hour = endDate)

theorem add_hour_le {a b : ℤ} (ha : HOUR_MS ∣ a) (hb : HOUR_MS ∣ b) (hlt : a < b) :
    a + HOUR_MS ≤ b := by
  have := Int.le_of_dvd (sub_pos.mpr hlt) (dvd_sub hb ha)
  omega

theorem covers_head_iff (h : Left endDate expectedTime (candleTime :: candles))
    (hhour : HOUR_MS ∣ hour) (hfrom : expectedTime ≤ hour) (hto : hour ≤ candleTime) :
    (candleTime - expectedTime > HOUR_MS ∧ hour ≤ candleTime - HOUR_MS) ↔
      hour ∉ candleTime :: candles ∧ hour ≤ endDate ∧
        ¬ Tolerated endDate expectedTime (candleTime :: candles) hour := by
  have hpos : 0 < HOUR_MS := by decide
  rcases hto.eq_or_lt with rfl | hlt
  · refine iff_of_false (fun hcovers => by omega) fun hmiss => ?_
    exact hmiss.1 List.mem_cons_self
  have hend := h.le_end candleTime List.mem_cons_self
  have hbef := add_hour_le hhour (h.hourly candleTime List.mem_cons_self) hlt
  have hge : ∀ candle ∈ candleTime :: candles, candleTime ≤ candle := fun candle hmem => by
    rcases List.mem_cons.mp hmem with rfl | hmem
    · exact le_refl _
    · exact List.rel_of_pairwise_cons h.sorted hmem
  have hmiss : hour ∉ candleTime :: candles := fun hmem => absurd (hge hour hmem) (by omega)
  have hprev : hour - HOUR_MS ∉ candleTime :: candles := fun hmem =>
    absurd (hge _ hmem) (by omega)
  have hnext : hour + HOUR_MS ∈ candleTime :: candles ↔ hour + HOUR_MS = candleTime := by
    constructor
    · exact fun hmem => le_antisymm hbef (hge _ hmem)
    · rintro hmem
      rw [hmem]
      exact List.mem_cons_self
  simp only [Tolerated, hprev, hnext, hmiss, not_false_eq_true, or_false, true_and]
  omega

theorem tolerated_tail_iff (h : Left endDate expectedTime (candleTime :: candles))
    (hafter : candleTime + HOUR_MS ≤ hour) :
    Tolerated endDate expectedTime (candleTime :: candles) hour ↔
      Tolerated endDate (candleTime + HOUR_MS) candles hour := by
  have hpos : 0 < HOUR_MS := by decide
  have hexp := h.expected candleTime List.mem_cons_self
  simp only [Tolerated, List.mem_cons]
  refine and_congr ?_ (or_congr_left (or_iff_right (by omega)))
  constructor
  · rintro (hfirst | hprev | hmem)
    · exact .inl (by omega)
    · exact .inl (by omega)
    · exact .inr hmem
  · rintro (hfirst | hmem)
    · exact .inr (Or.inl (by omega))
    · exact .inr (Or.inr hmem)

theorem scanGaps_covers_iff {endDate expectedTime hour : ℤ} (h : Left endDate expectedTime candles)
    (hhour : HOUR_MS ∣ hour) (hfrom : expectedTime ≤ hour) :
    (∃ gap ∈ scanGaps endDate expectedTime candles, gap.Covers hour) ↔
      hour ∉ candles ∧ hour ≤ endDate ∧ ¬ Tolerated endDate expectedTime candles hour := by
  have hpos : 0 < HOUR_MS := by decide
  induction candles generalizing expectedTime with
  | nil =>
    simp only [scanGaps, Tolerated, List.not_mem_nil, or_false, false_or, not_false_eq_true,
      true_and]
    split
    · simp only [List.mem_singleton, exists_eq_left, GapInfo.Covers]
      omega
    · simp only [List.not_mem_nil, false_and, exists_false, false_iff]
      omega
  | cons candleTime candles ih =>
    -- the hours up to this candle are those of its own gap, the later ones those of the rest
    have hcons : (∃ gap ∈ scanGaps endDate expectedTime (candleTime :: candles),
        gap.Covers hour) ↔
        (candleTime - expectedTime > HOUR_MS ∧ hour ≤ candleTime - HOUR_MS) ∨
          ∃ gap ∈ scanGaps endDate (candleTime + HOUR_MS) candles, gap.Covers hour := by
      rw [scanGaps]
      split
      · simp only [List.mem_cons, exists_eq_or_imp, GapInfo.Covers]
        tauto
      · tauto
    rw [hcons]
    by_cases hto : hour ≤ candleTime
    · rw [← covers_head_iff h hhour hfrom hto]
      refine or_iff_left ?_
      rintro ⟨_, hgap, hcovers⟩
      have := (mem_scanGaps h.tail hgap).1
      have := hcovers.1
      omega
    · have hafter := add_hour_le (h.hourly candleTime List.mem_cons_self) hhour (by omega)
      have hne : hour ≠ candleTime := by omega
      rw [tolerated_tail_iff h hafter, List.mem_cons, or_iff_right hne]
      exact (or_iff_right fun hcovers => hto (by omega)).trans (ih h.tail hafter)

/-! ## The gaps of a range -/

structure HourlyRepository extends CandleRepository where
  hourly : ∀ row ∈ rows, HOUR_MS ∣ row.candle.timestamp

section Exact

variable (repository : CandleRepository) (coinId : CoinId) (startDate endDate : ℤ)

/-- A candle of the coin is stored for the hour, by any exchange. -/
def Stored (hour : ℤ) : Prop :=
  ∃ row ∈ repository.rows, row.candle.coinId = coinId ∧ row.candle.timestamp = hour

instance (hour : ℤ) : Decidable (Stored repository coinId hour) := by
  unfold Stored
  infer_instance

structure ExactGaps (hours : ℤ → Prop) (gaps : List GapInfo) : Prop where
  ordered : gaps.Pairwise fun a b => a.stop < b.start
  within : ∀ gap ∈ gaps, startDate ≤ gap.start ∧ gap.start ≤ gap.stop ∧ gap.stop ≤ endDate
  covers : ∀ hour, hours hour → ((∃ gap ∈ gaps, gap.Covers hour) ↔ ¬ Stored repository coinId hour)

def HourBefore (hour : ℤ) : Prop :=
  HOUR_MS ∣ hour ∧ startDate ≤ hour ∧ hour < endDate

/-- The hours that begin in the range, at its end as well. -/
def HourUpTo (hour : ℤ) : Prop :=
  HOUR_MS ∣ hour ∧ startDate ≤ hour ∧ hour ≤ endDate

def FirstMissing (hour : ℤ) : Prop :=
  HOUR_MS ∣ hour ∧ ¬ Stored repository coinId hour ∧
    (hour = startDate ∨ startDate ≤ hour - HOUR_MS ∧ Stored repository coinId (hour - HOUR_MS))

/-- The hour is missing, and the next is stored in the range. -/
def SingleMissing (hour : ℤ) : Prop :=
  FirstMissing repository coinId startDate hour ∧
    hour + HOUR_MS ≤ endDate ∧ Stored repository coinId (hour + HOUR_MS)

/-- Of the hours up to the end of the range, that at the end alone is missing. -/
def LastMissing : Prop :=
  startDate ≤ endDate ∧ FirstMissing repository coinId startDate endDate

theorem mem_timestamps_iff {hour : ℤ} :
    hour ∈ (repository.getMany [coinId] startDate endDate).map
        (fun row => row.candle.timestamp) ↔
      Stored repository coinId hour ∧ startDate ≤ hour ∧ hour ≤ endDate := by
  rw [((repository.getMany_perm [coinId] startDate endDate).map _).mem_iff]
  simp only [CandleTable.inRange, List.mem_map, List.mem_filter, decide_eq_true_eq,
    StoredCandle.InRange, List.mem_singleton, Stored]
  constructor
  · rintro ⟨row, ⟨hrow, hcoin, hfrom, hto⟩, rfl⟩
    exact ⟨⟨row, hrow, hcoin, rfl⟩, hfrom, hto⟩
  · rintro ⟨⟨row, hrow, hcoin, rfl⟩, hfrom, hto⟩
    exact ⟨row, ⟨hrow, hcoin, hfrom, hto⟩, rfl⟩

end Exact

section Hourly

variable (repository : HourlyRepository) (coinId : CoinId) (startDate endDate : ℤ)

theorem left_timestamps : Left endDate startDate
    ((repository.getMany [coinId] startDate endDate).map fun row => row.candle.timestamp) where
  sorted := List.pairwise_map.mpr (repository.getMany_sorted [coinId] startDate endDate)
  hourly candle hmem := by
    obtain ⟨⟨row, hrow, -, rfl⟩, -⟩ := (mem_timestamps_iff _ _ _ _).mp hmem
    exact repository.hourly row hrow
  expected candle hmem := by
    have hfrom := ((mem_timestamps_iff _ _ _ _).mp hmem).2.1
    have hpos : 0 < HOUR_MS := by decide
    omega
  le_end candle hmem := ((mem_timestamps_iff _ _ _ _).mp hmem).2.2

theorem tolerated_iff {hour : ℤ} (hhour : HourUpTo startDate endDate hour)
    (hmissing : ¬ Stored repository.toCandleRepository coinId hour) :
    Tolerated endDate startDate ((repository.getMany [coinId] startDate endDate).map
        fun row => row.candle.timestamp) hour ↔
      SingleMissing repository.toCandleRepository coinId startDate endDate hour ∨
        hour = endDate ∧ LastMissing repository.toCandleRepository coinId startDate endDate := by
  have hpos : 0 < HOUR_MS := by decide
  obtain ⟨hgrid, hfrom, _⟩ := hhour
  have hfirst : FirstMissing repository.toCandleRepository coinId startDate hour ↔
      (hour = startDate ∨ hour - HOUR_MS ∈ (repository.getMany [coinId] startDate endDate).map
        fun row => row.candle.timestamp) := by
    rw [mem_timestamps_iff, FirstMissing, and_iff_right hgrid, and_iff_right hmissing]
    refine or_congr_right ⟨fun h => ⟨h.2, h.1, by omega⟩, fun h => ⟨h.2.1, h.1⟩⟩
  have hnext : hour + HOUR_MS ∈ (repository.getMany [coinId] startDate endDate).map
        (fun row => row.candle.timestamp) ↔
      hour + HOUR_MS ≤ endDate ∧ Stored repository.toCandleRepository coinId (hour + HOUR_MS) := by
    rw [mem_timestamps_iff]
    exact ⟨fun h => ⟨h.2.2, h.1⟩, fun h => ⟨h.2, by omega, h.1⟩⟩
  rw [Tolerated, hnext, ← hfirst, SingleMissing, LastMissing, and_or_left]
  refine or_congr_right ?_
  constructor
  · rintro ⟨hmiss, rfl⟩
    exact ⟨rfl, hfrom, hmiss⟩
  · rintro ⟨rfl, -, hmiss⟩
    exact ⟨hmiss, rfl⟩

theorem detectGaps_covers_iff {hour : ℤ} (hhour : HourUpTo startDate endDate hour) :
    (∃ gap ∈ detectGaps repository.toCandleRepository coinId startDate endDate,
        gap.Covers hour) ↔
      ¬ Stored repository.toCandleRepository coinId hour ∧
        ¬ (SingleMissing repository.toCandleRepository coinId startDate endDate hour ∨
          hour = endDate ∧ LastMissing repository.toCandleRepository coinId startDate endDate) := by
  rw [detectGaps, scanGaps_covers_iff (left_timestamps repository coinId startDate endDate)
    hhour.1 hhour.2.1, mem_timestamps_iff, and_iff_left hhour.2]
  refine and_congr_right fun hmiss => ?_
  rw [and_iff_right hhour.2.2, tolerated_iff repository coinId startDate endDate hhour hmiss]

theorem exactGaps_iff {hours : ℤ → Prop}
    (hhours : ∀ hour, hours hour → HourUpTo startDate endDate hour) :
    ExactGaps repository.toCandleRepository coinId startDate endDate hours
        (detectGaps repository.toCandleRepository coinId startDate endDate) ↔
      ∀ hour, hours hour →
        ¬ (SingleMissing repository.toCandleRepository coinId startDate endDate hour ∨
          hour = endDate ∧ LastMissing repository.toCandleRepository coinId startDate endDate) := by
  have hleft := left_timestamps repository coinId startDate endDate
  constructor
  · intro h hour hhour htolerated
    have hmiss : ¬ Stored repository.toCandleRepository coinId hour := by
      rcases htolerated with hsing | ⟨rfl, hlast⟩
      · exact hsing.1.2.1
      · exact hlast.2.2.1
    have hcov := (h.covers hour hhour).mpr hmiss
    exact ((detectGaps_covers_iff _ _ _ _ (hhours hour hhour)).mp hcov).2 htolerated
  · intro h
    refine ⟨pairwise_scanGaps hleft, fun gap hgap => mem_scanGaps hleft hgap, ?_⟩
    intro hour hhour
    rw [detectGaps_covers_iff _ _ _ _ (hhours hour hhour)]
    exact and_iff_left (h hour hhour)

/-- **The gaps are exact** exactly if no single hour is missing; if the end of the range counts as
an hour of it, it is not the only one missing at the end either. -/
theorem detectGaps_exact_iff :
    (ExactGaps repository.toCandleRepository coinId startDate endDate
        (HourBefore startDate endDate)
        (detectGaps repository.toCandleRepository coinId startDate endDate) ↔
      ∀ hour, ¬ SingleMissing repository.toCandleRepository coinId startDate endDate hour) ∧
    (ExactGaps repository.toCandleRepository coinId startDate endDate
        (HourUpTo startDate endDate)
        (detectGaps repository.toCandleRepository coinId startDate endDate) ↔
      (∀ hour, ¬ SingleMissing repository.toCandleRepository coinId startDate endDate hour) ∧
        ¬ LastMissing repository.toCandleRepository coinId startDate endDate) := by
  have hpos : 0 < HOUR_MS := by decide
  have hsingle : ∀ hour,
      SingleMissing repository.toCandleRepository coinId startDate endDate hour →
        HourBefore startDate endDate hour := fun hour h => by
    obtain ⟨⟨hgrid, -, _⟩, _, -⟩ := h
    exact ⟨hgrid, by omega, by omega⟩
  have hbefore : ∀ hour, HourBefore startDate endDate hour →
      HourUpTo startDate endDate hour := fun hour h => ⟨h.1, h.2.1, h.2.2.le⟩
  constructor
  · rw [exactGaps_iff _ _ _ _ hbefore]
    constructor
    · exact fun h hour hmissing => h hour (hsingle hour hmissing) (Or.inl hmissing)
    · rintro h hour hhour (hmissing | hlast)
      · exact h hour hmissing
      · exact absurd hlast.1 hhour.2.2.ne
  · rw [exactGaps_iff _ _ _ _ fun hour => id]
    constructor
    · refine fun h => ⟨fun hour hmissing => ?_, fun hlast => ?_⟩
      · exact h hour (hbefore hour (hsingle hour hmissing)) (Or.inl hmissing)
      · exact h endDate ⟨hlast.2.1, hlast.1, le_refl _⟩ (Or.inr ⟨rfl, hlast⟩)
    · rintro ⟨hnosingle, hnolast⟩ hour - (hmissing | hlast)
      · exact hnosingle hour hmissing
      · exact hnolast hlast.2

end Hourly

/-! ## A single missing hour -/

def missingHourTable : CandleTable where
  rows := [⟨"binance", hourlyCandle "btc" 0⟩, ⟨"binance", hourlyCandle "btc" (2 * HOUR_MS)⟩]
  unique := by decide

def missingHourRepository : HourlyRepository where
  toCandleRepository := missingHourTable.repository
  hourly := by decide

theorem single_hour_not_reported :
    detectGaps missingHourRepository.toCandleRepository "btc" 0 (2 * HOUR_MS) = [] ∧
      ¬ ExactGaps missingHourRepository.toCandleRepository "btc" 0 (2 * HOUR_MS)
        (HourBefore 0 (2 * HOUR_MS))
        (detectGaps missingHourRepository.toCandleRepository "btc" 0 (2 * HOUR_MS)) := by
  have hnone : detectGaps missingHourRepository.toCandleRepository "btc" 0 (2 * HOUR_MS) = [] := by
    decide +kernel
  refine ⟨hnone, fun h => ?_⟩
  have hhour : HourBefore 0 (2 * HOUR_MS) HOUR_MS := ⟨dvd_refl _, by decide, by decide⟩
  have hcovered := (h.covers HOUR_MS hhour).mpr (by decide)
  rw [hnone] at hcovered
  obtain ⟨_, hgap, -⟩ := hcovered
  cases hgap

end Chansey.Ohlc
