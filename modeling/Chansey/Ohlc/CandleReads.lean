import Mathlib.Data.List.Sort
import Chansey.Domain
import Chansey.Lib.Chunks

/-!
# Reading the stored candles of a range

A wide range is read in chunks of `CHUNK_DAYS` days, one query after the other.
-/

namespace Chansey.Ohlc

open Chunks

abbrev ExchangeId := String

structure StoredCandle where
  exchangeId : ExchangeId
  candle : OHLCCandle

/-- The columns of the unique constraint. -/
def StoredCandle.key (row : StoredCandle) : CoinId × Instant × ExchangeId :=
  (row.candle.coinId, row.candle.timestamp, row.exchangeId)

structure CandleTable where
  rows : List StoredCandle
  unique : (rows.map StoredCandle.key).Nodup

def StoredCandle.InRange (coinIds : List CoinId) (startDate endDate : Instant)
    (row : StoredCandle) : Prop :=
  row.candle.coinId ∈ coinIds ∧ startDate ≤ row.candle.timestamp ∧ row.candle.timestamp ≤ endDate

instance (coinIds : List CoinId) (startDate endDate : Instant) (row : StoredCandle) :
    Decidable (row.InRange coinIds startDate endDate) := by
  unfold StoredCandle.InRange
  infer_instance

def CandleTable.inRange (table : CandleTable) (coinIds : List CoinId)
    (startDate endDate : Instant) : List StoredCandle :=
  table.rows.filter fun row => row.InRange coinIds startDate endDate

/-- The query answers with the rows of the range, ordered by their timestamps. -/
structure CandleRepository extends CandleTable where
  getMany : List CoinId → Instant → Instant → List StoredCandle
  getMany_perm : ∀ coinIds startDate endDate,
    (getMany coinIds startDate endDate).Perm (toCandleTable.inRange coinIds startDate endDate)
  getMany_sorted : ∀ coinIds startDate endDate, (getMany coinIds startDate endDate).Pairwise
    fun a b => a.candle.timestamp ≤ b.candle.timestamp

abbrev StoredCandle.Before (a b : StoredCandle) : Prop :=
  a.candle.timestamp ≤ b.candle.timestamp

instance : Std.Total StoredCandle.Before := ⟨fun _ _ => le_total _ _⟩

instance : IsTrans StoredCandle StoredCandle.Before := ⟨fun _ _ _ hab hbc => le_trans hab hbc⟩

def CandleTable.repository (table : CandleTable) : CandleRepository where
  toCandleTable := table
  getMany coinIds startDate endDate :=
    (table.inRange coinIds startDate endDate).insertionSort StoredCandle.Before
  getMany_perm _ _ _ := List.perm_insertionSort _ _
  getMany_sorted _ _ _ := List.pairwise_insertionSort StoredCandle.Before _

/-! ## The service -/

def CHUNK_DAYS : ℕ := 90

def MS_PER_DAY : ℕ := 24 * 60 * 60 * 1000

def chunkMs : ℕ := CHUNK_DAYS * MS_PER_DAY

section Service

variable (repository : CandleRepository) (coinIds : List CoinId) (startDate endDate : Instant)

def fetchCandleChunk : List OHLCCandle :=
  (repository.getMany coinIds startDate endDate).map StoredCandle.candle

def fetchChunks (cursor : Instant) : List (List OHLCCandle) :=
  if cursor < endDate then
    fetchCandleChunk repository coinIds cursor (chunkEnd chunkMs endDate cursor) ::
      fetchChunks (chunkEnd chunkMs endDate cursor + 1)
  else []
termination_by Int.toNat (endDate - cursor)
decreasing_by
  have := @lt_chunkEnd_succ chunkMs endDate cursor ‹_›
  have : cursor < endDate := ‹_›
  exact (Int.toNat_lt_toNat (sub_pos.mpr this)).mpr (by linarith)

def getCandlesByDateRange : List OHLCCandle :=
  if coinIds.isEmpty then []
  else if endDate - startDate ≤ (chunkMs : ℤ) then
    fetchCandleChunk repository coinIds startDate endDate
  else (fetchChunks repository coinIds endDate startDate).flatten

/-- What one query for the whole range answers, one candle for each coin and timestamp. -/
structure ReadsExactly (candles : List OHLCCandle) : Prop where
  rows : candles.Perm
    ((repository.inRange coinIds startDate endDate).map StoredCandle.candle)
  sorted : candles.Pairwise fun a b => a.timestamp ≤ b.timestamp
  unique : (candles.map fun candle => (candle.coinId, candle.timestamp)).Nodup

/-- The last chunk would be the one instant of the end of the range. -/
def EndsInOneInstant : Prop :=
  startDate < endDate ∧ ((chunkMs : ℤ) + 1) ∣ endDate - startDate

/-- No listed coin has candles of two exchanges at one timestamp of the range. -/
def OneExchange : Prop :=
  ∀ a ∈ repository.inRange coinIds startDate endDate,
    ∀ b ∈ repository.inRange coinIds startDate endDate,
      a.candle.coinId = b.candle.coinId → a.candle.timestamp = b.candle.timestamp →
        a.exchangeId = b.exchangeId

instance : Decidable (EndsInOneInstant startDate endDate) := by
  unfold EndsInOneInstant
  infer_instance

instance : Decidable (OneExchange repository coinIds startDate endDate) := by
  unfold OneExchange
  infer_instance

/-! ## What is read -/

theorem fetchChunks_eq_map (cursor : Instant) :
    fetchChunks repository coinIds endDate cursor = (chunks chunkMs endDate cursor).map
      fun chunk => fetchCandleChunk repository coinIds chunk.1 chunk.2 := by
  induction cursor using fetchChunks.induct endDate with
  | case1 cursor hlt ih => rw [fetchChunks, if_pos hlt, chunks_of_lt hlt, List.map_cons, ih]
  | case2 cursor hle => rw [fetchChunks, if_neg hle, chunks_of_le (not_lt.mp hle), List.map_nil]

/-- The end of the range is read unless the range is cut and ends in one instant. -/
def Reads (row : StoredCandle) : Prop :=
  row.InRange coinIds startDate endDate ∧
    ¬ (row.candle.timestamp = endDate ∧ EndsInOneInstant startDate endDate)

instance (row : StoredCandle) : Decidable (Reads coinIds startDate endDate row) := by
  unfold Reads
  infer_instance

theorem fetchCandleChunk_perm :
    (fetchCandleChunk repository coinIds startDate endDate).Perm
      ((repository.inRange coinIds startDate endDate).map StoredCandle.candle) :=
  (repository.getMany_perm coinIds startDate endDate).map _

theorem fetchCandleChunk_sorted :
    (fetchCandleChunk repository coinIds startDate endDate).Pairwise
      fun a b => a.timestamp ≤ b.timestamp :=
  List.pairwise_map.mpr (repository.getMany_sorted coinIds startDate endDate)

theorem mem_fetchCandleChunk {candle : OHLCCandle}
    (h : candle ∈ fetchCandleChunk repository coinIds startDate endDate) :
    startDate ≤ candle.timestamp ∧ candle.timestamp ≤ endDate := by
  have hmem := (fetchCandleChunk_perm repository coinIds startDate endDate).subset h
  obtain ⟨_, hrow, rfl⟩ := List.mem_map.mp hmem
  have hrange := of_decide_eq_true (List.mem_filter.mp hrow).2
  exact hrange.2

variable {startDate endDate} in
theorem not_endsInOneInstant (h : endDate - startDate ≤ (chunkMs : ℤ)) :
    ¬ EndsInOneInstant startDate endDate := by
  rintro ⟨hlt, hdvd⟩
  have := Int.le_of_dvd (sub_pos.mpr hlt) hdvd
  linarith

theorem flatten_fetchChunks_perm (cursor : Instant) :
    (fetchChunks repository coinIds endDate cursor).flatten.Perm
      ((repository.rows.filter fun row => decide (row.candle.coinId ∈ coinIds) &&
        decide (Chunks.Covers chunkMs endDate cursor row.candle.timestamp)).map
          StoredCandle.candle) := by
  rw [fetchChunks_eq_map, ← List.flatMap_def]
  refine (List.Perm.flatMap_left _ fun chunk _ =>
    fetchCandleChunk_perm repository coinIds chunk.1 chunk.2).trans ?_
  rw [← List.map_flatMap]
  simp only [Bool.and_comm (decide (_ ∈ coinIds)), ← List.filter_filter]
  refine List.Perm.map _ (.trans (.of_eq ?_) (flatMap_chunks_perm chunkMs endDate cursor
    (fun row : StoredCandle => row.candle.timestamp)
    (repository.rows.filter fun row => decide (row.candle.coinId ∈ coinIds))))
  refine List.flatMap_congr fun chunk _ => ?_
  rw [List.filter_filter]
  refine List.filter_congr fun row _ => ?_
  rw [← Bool.decide_and, decide_eq_decide, StoredCandle.InRange]
  tauto

theorem flatten_fetchChunks_sorted (cursor : Instant) :
    (fetchChunks repository coinIds endDate cursor).flatten.Pairwise
      fun a b => a.timestamp ≤ b.timestamp := by
  rw [fetchChunks_eq_map, ← List.flatMap_def]
  exact flatMap_chunks_sorted chunkMs endDate cursor OHLCCandle.timestamp
    (fun chunk => fetchCandleChunk_sorted repository coinIds chunk.1 chunk.2)
    fun chunk _ => mem_fetchCandleChunk repository coinIds chunk.1 chunk.2

theorem getCandlesByDateRange_perm :
    (getCandlesByDateRange repository coinIds startDate endDate).Perm
      ((repository.rows.filter fun row => Reads coinIds startDate endDate row).map
        StoredCandle.candle) := by
  unfold getCandlesByDateRange
  split
  · rename_i hempty
    obtain rfl := List.isEmpty_iff.mp hempty
    simp [Reads, StoredCandle.InRange]
  split
  · rename_i hshort
    refine (fetchCandleChunk_perm repository coinIds startDate endDate).trans
      (.of_eq (congrArg _ (List.filter_congr fun row _ => ?_)))
    simp [Reads, not_endsInOneInstant hshort]
  · rename_i hlong
    refine (flatten_fetchChunks_perm repository coinIds endDate startDate).trans
      (.of_eq (congrArg _ (List.filter_congr fun row _ => ?_)))
    have hlt : startDate < endDate := by
      have : (0 : ℤ) ≤ chunkMs := Int.natCast_nonneg _
      linarith [not_le.mp hlong]
    have hdropped : Dropped chunkMs endDate startDate ↔ EndsInOneInstant startDate endDate :=
      and_congr_left fun _ => iff_of_true hlt.le hlt
    rw [← Bool.decide_and, decide_eq_decide, Reads, StoredCandle.InRange, Chunks.Covers, hdropped]
    tauto

theorem getCandlesByDateRange_sorted :
    (getCandlesByDateRange repository coinIds startDate endDate).Pairwise
      fun a b => a.timestamp ≤ b.timestamp := by
  unfold getCandlesByDateRange
  split
  · exact List.Pairwise.nil
  split
  · exact fetchCandleChunk_sorted repository coinIds startDate endDate
  · exact flatten_fetchChunks_sorted repository coinIds endDate startDate

theorem nodup_iff_oneExchange :
    ((repository.inRange coinIds startDate endDate).map
        fun row => (row.candle.coinId, row.candle.timestamp)).Nodup ↔
      OneExchange repository coinIds startDate endDate := by
  have hinj := List.inj_on_of_nodup_map repository.unique
  have hmem : ∀ row ∈ repository.inRange coinIds startDate endDate, row ∈ repository.rows :=
    fun row hrow => (List.mem_filter.mp hrow).1
  have hnodup : (repository.inRange coinIds startDate endDate).Nodup :=
    (List.Nodup.of_map _ repository.unique).filter _
  rw [List.nodup_map_iff_inj_on hnodup]
  refine forall₄_congr fun a ha b hb => ?_
  constructor
  · intro h hcoin htime
    rw [h (Prod.ext hcoin htime)]
  · intro h hpair
    have hcoin : a.candle.coinId = b.candle.coinId := congrArg Prod.fst hpair
    have htime : a.candle.timestamp = b.candle.timestamp := congrArg Prod.snd hpair
    have hexch := h hcoin htime
    exact hinj (hmem a ha) (hmem b hb) (Prod.ext hcoin (Prod.ext htime hexch))

theorem filter_reads_eq_iff :
    (repository.rows.filter fun row => Reads coinIds startDate endDate row) =
        repository.inRange coinIds startDate endDate ↔
      (EndsInOneInstant startDate endDate →
        ∀ row ∈ repository.rows, row.candle.coinId ∈ coinIds → row.candle.timestamp ≠ endDate) := by
  constructor
  · rintro heq hends row hrow hcoin rfl
    have hin : row ∈ repository.inRange coinIds startDate row.candle.timestamp :=
      List.mem_filter.mpr ⟨hrow, decide_eq_true ⟨hcoin, hends.1.le, le_refl _⟩⟩
    rw [← heq] at hin
    exact (of_decide_eq_true (List.mem_filter.mp hin).2).2 ⟨rfl, hends⟩
  · refine fun h => List.filter_congr fun row hrow => decide_eq_decide.mpr ?_
    exact and_iff_left_of_imp fun hrange hlast => h hlast.2 row hrow hrange.1 hlast.1

theorem filter_reads_sublist :
    (repository.rows.filter fun row => Reads coinIds startDate endDate row).Sublist
      (repository.inRange coinIds startDate endDate) :=
  List.monotone_filter_right _ fun _ hreads => decide_eq_true (of_decide_eq_true hreads).1

/-- **The candles of a range** are read exactly, unless a row is stored at the one instant at the
end of the range, or a coin has candles of two exchanges at one timestamp. -/
theorem getCandlesByDateRange_exact_iff :
    ReadsExactly repository coinIds startDate endDate
        (getCandlesByDateRange repository coinIds startDate endDate) ↔
      (EndsInOneInstant startDate endDate → ∀ row ∈ repository.rows,
        row.candle.coinId ∈ coinIds → row.candle.timestamp ≠ endDate) ∧
      OneExchange repository coinIds startDate endDate := by
  have hperm := getCandlesByDateRange_perm repository coinIds startDate endDate
  have hkeys : ∀ candles : List OHLCCandle, candles.Perm
      ((repository.inRange coinIds startDate endDate).map StoredCandle.candle) →
      ((candles.map fun candle => (candle.coinId, candle.timestamp)).Nodup ↔
        OneExchange repository coinIds startDate endDate) := fun candles hrows => by
    rw [(hrows.map _).nodup_iff, List.map_map]
    exact nodup_iff_oneExchange repository coinIds startDate endDate
  rw [← filter_reads_eq_iff]
  constructor
  · intro h
    have hlength := (hperm.symm.trans h.rows).length_eq
    rw [List.length_map, List.length_map] at hlength
    refine ⟨?_, (hkeys _ h.rows).mp h.unique⟩
    exact (filter_reads_sublist repository coinIds startDate endDate).eq_of_length hlength
  · rintro ⟨heq, hone⟩
    rw [heq] at hperm
    exact ⟨hperm, getCandlesByDateRange_sorted repository coinIds startDate endDate,
      (hkeys _ hperm).mpr hone⟩

end Service

/-! ## A row at the end of the range -/

def hourlyCandle (coinId : CoinId) (timestamp : Instant) : OHLCCandle where
  coinId := coinId
  timestamp := timestamp
  openPrice := 100
  high := 110
  low := 90
  close := 105

def lastInstantTable : CandleTable where
  rows := [⟨"binance", hourlyCandle "btc" (chunkMs + 1)⟩]
  unique := List.nodup_singleton _

def twoExchangesTable : CandleTable where
  rows := [⟨"binance", hourlyCandle "btc" 0⟩, ⟨"kraken", hourlyCandle "btc" 0⟩]
  unique := by decide

theorem candles_of_range_wrong :
    (getCandlesByDateRange lastInstantTable.repository ["btc"] 0 (chunkMs + 1) = [] ∧
      ¬ ReadsExactly lastInstantTable.repository ["btc"] 0 (chunkMs + 1)
        (getCandlesByDateRange lastInstantTable.repository ["btc"] 0 (chunkMs + 1))) ∧
    ¬ ReadsExactly twoExchangesTable.repository ["btc"] 0 HOUR_MS
      (getCandlesByDateRange twoExchangesTable.repository ["btc"] 0 HOUR_MS) := by
  have hnone : getCandlesByDateRange lastInstantTable.repository ["btc"] 0 (chunkMs + 1) = [] :=
    (getCandlesByDateRange_perm lastInstantTable.repository ["btc"] 0 (chunkMs + 1)).eq_nil
  refine ⟨⟨hnone, fun h => ?_⟩, fun h => ?_⟩
  · have hrows := h.rows
    rw [hnone] at hrows
    exact absurd hrows.length_eq (by decide)
  · have hrows := (h.rows.map fun candle => (candle.coinId, candle.timestamp)).nodup_iff.mp h.unique
    exact absurd hrows (by decide)

end Chansey.Ohlc
