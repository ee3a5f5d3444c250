import Chansey.Window.Price
import Mathlib.Data.Int.ConditionallyCompleteOrder

/-!
# Timeframe aggregation

Hourly bars are grouped into buckets of four hours, a day and a week. A bucket is emitted when it
has as many bars as its timeframe has hours, dated at its start.

* `bucketKey`, `bucketStart`: the bucket of a time; **`bucketKey_eq_iff`** says what times it has.
-/

namespace Chansey

def FOUR_HOUR_MS : ℤ := 4 * HOUR_MS
def DAY_MS : ℤ := 24 * HOUR_MS
def WEEK_MS : ℤ := 7 * DAY_MS

/-- `EXPECTED_BUCKET_SIZE`: the hours of a bucket. -/
def PriceTimeframe.expectedSize : PriceTimeframe → ℕ
  | .hourly => 1
  | .fourHour => 4
  | .daily => 24
  | .weekly => 168

/-! ## Buckets -/

def bucketKey (timestampMs : ℤ) : PriceTimeframe → ℤ
  | .hourly => timestampMs / HOUR_MS
  | .fourHour => timestampMs / FOUR_HOUR_MS
  | .daily => timestampMs / DAY_MS
  | .weekly => (timestampMs - 4 * DAY_MS) / WEEK_MS

def bucketStart (key : ℤ) : PriceTimeframe → ℤ
  | .hourly => key * HOUR_MS
  | .fourHour => key * FOUR_HOUR_MS
  | .daily => key * DAY_MS
  | .weekly => key * WEEK_MS + 4 * DAY_MS

theorem bucketKey_eq_iff (tf : PriceTimeframe) (t key : ℤ) :
    bucketKey t tf = key ↔
      bucketStart key tf ≤ t ∧ t < bucketStart key tf + tf.expectedSize * HOUR_MS := by
  cases tf <;>
    simp only [bucketKey, bucketStart, PriceTimeframe.expectedSize, WEEK_MS, DAY_MS, FOUR_HOUR_MS,
      HOUR_MS] <;> omega

theorem bucketStart_add (tf : PriceTimeframe) (key : ℤ) :
    bucketStart (key + 1) tf = bucketStart key tf + tf.expectedSize * HOUR_MS := by
  cases tf <;>
    simp only [bucketStart, PriceTimeframe.expectedSize, WEEK_MS, DAY_MS, FOUR_HOUR_MS,
      HOUR_MS] <;> omega

theorem bucketKey_mono (tf : PriceTimeframe) {t u : ℤ} (h : t ≤ u) :
    bucketKey t tf ≤ bucketKey u tf := by
  cases tf <;> simp only [bucketKey, WEEK_MS, DAY_MS, FOUR_HOUR_MS, HOUR_MS] <;> omega

theorem bucketStart_strictMono (tf : PriceTimeframe) : StrictMono fun key => bucketStart key tf := by
  intro key key' h
  cases tf <;> simp only [bucketStart, WEEK_MS, DAY_MS, FOUR_HOUR_MS, HOUR_MS] <;> omega

theorem hour_dvd_bucketStart (tf : PriceTimeframe) (key : ℤ) : HOUR_MS ∣ bucketStart key tf := by
  cases tf <;> simp only [bucketStart, WEEK_MS, DAY_MS, FOUR_HOUR_MS, HOUR_MS] <;> omega

/-! ## Aggregation -/

structure Bucket where
  key : ℤ
  openPrice : ℚ
  high : ℚ
  low : ℚ
  close : ℚ
  volume : Option ℚ
  count : ℕ
  coin : CoinId

def addVolume (volume added : Option ℚ) : Option ℚ :=
  match added with
  | none => volume
  | some v => some (volume.getD 0 + v)

def Bucket.first (key : ℤ) (summary : PriceSummary) : Bucket where
  key := key
  openPrice := summary.openPrice.getD summary.avg
  high := summary.high
  low := summary.low
  close := summary.close.getD summary.avg
  volume := addVolume none summary.volume
  count := 1
  coin := summary.coin

def Bucket.add (bucket : Bucket) (summary : PriceSummary) : Bucket :=
  { bucket with
    high := if bucket.high < summary.high then summary.high else bucket.high
    low := if summary.low < bucket.low then summary.low else bucket.low
    close := summary.close.getD summary.avg
    volume := addVolume bucket.volume summary.volume
    count := bucket.count + 1 }

/-- The bar of a bucket (`emitCurrent`). A bucket without a coin emits nothing. -/
def Bucket.emit (tf : PriceTimeframe) (bucket : Bucket) : List PriceSummary :=
  if bucket.coin = "" then []
  else
    [{ coin := bucket.coin
       date := bucketStart bucket.key tf
       openPrice := some bucket.openPrice
       high := bucket.high
       low := bucket.low
       close := some bucket.close
       avg := bucket.close
       volume := bucket.volume }]

/-- What is emitted when a bucket is left: its bar, if it is complete. -/
def flush (tf : PriceTimeframe) (bucket : Option Bucket) : List PriceSummary :=
  match bucket with
  | none => []
  | some b => if tf.expectedSize ≤ b.count then b.emit tf else []

structure AggregateState where
  buckets : List PriceSummary := []
  current : Option Bucket := none

def aggregateStep (tf : PriceTimeframe) (state : AggregateState) (summary : PriceSummary) :
    AggregateState :=
  let key := bucketKey summary.date tf
  match state.current.filter (·.key = key) with
  | some bucket => { state with current := some (bucket.add summary) }
  | none =>
    { buckets := state.buckets ++ flush tf state.current
      current := some (Bucket.first key summary) }

def AggregateState.finish (tf : PriceTimeframe) (state : AggregateState) : List PriceSummary :=
  state.buckets ++ flush tf state.current

def aggregateCoin (tf : PriceTimeframe) (summaries : List PriceSummary) : List PriceSummary :=
  if tf = .hourly then summaries
  else (summaries.foldl (aggregateStep tf) {}).finish tf

def HIGHER_TIMEFRAMES : List PriceTimeframe := [.fourHour, .daily, .weekly]

def aggregate (summariesByCoin : OrdMap CoinId (List PriceSummary)) : AggregatedTimeframes :=
  OrdMap.ofKeys (fun tf => summariesByCoin.map fun _ summaries => aggregateCoin tf summaries)
    HIGHER_TIMEFRAMES

/-! ## One bucket after the other -/

section Aggregate

variable {tf : PriceTimeframe}

theorem aggregateStep_new {state : AggregateState} {summary : PriceSummary}
    (h : ∀ b, state.current = some b → b.key ≠ bucketKey summary.date tf) :
    aggregateStep tf state summary =
      { buckets := state.finish tf
        current := some (Bucket.first (bucketKey summary.date tf) summary) } := by
  unfold aggregateStep
  have hnone : state.current.filter (·.key = bucketKey summary.date tf) = none := by
    rw [Option.filter_eq_none_iff]
    intro b hb
    simpa using h b hb
  simp only [hnone]
  rfl

theorem foldl_aggregateStep_buckets (emitted : List PriceSummary) (current : Option Bucket)
    (summaries : List PriceSummary) :
    summaries.foldl (aggregateStep tf) { buckets := emitted, current := current } =
      { buckets := emitted ++
          (summaries.foldl (aggregateStep tf) { buckets := [], current := current }).buckets,
        current :=
          (summaries.foldl (aggregateStep tf) { buckets := [], current := current }).current } := by
  induction summaries generalizing emitted current with
  | nil =>
    rw [List.foldl_nil, List.foldl_nil, List.append_nil]
  | cons s summaries ih =>
    rw [List.foldl_cons, List.foldl_cons]
    cases hcur : current.filter (·.key = bucketKey s.date tf) with
    | some bucket =>
      have hstep : ∀ out, aggregateStep tf { buckets := out, current := current } s =
          { buckets := out, current := some (bucket.add s) } := by
        intro out
        simp only [aggregateStep, hcur]
      rw [hstep, hstep]
      exact ih emitted _
    | none =>
      have hstep : ∀ out, aggregateStep tf { buckets := out, current := current } s =
          { buckets := out ++ flush tf current,
            current := some (Bucket.first (bucketKey s.date tf) s) } := by
        intro out
        simp only [aggregateStep, hcur]
      rw [hstep, hstep, ih (emitted ++ flush tf current), ih ([] ++ flush tf current)]
      simp only [List.nil_append, List.append_assoc]

variable {summaries : List PriceSummary}

theorem foldl_aggregateStep_key {b : Bucket}
    (h : (summaries.foldl (aggregateStep tf) {}).current = some b) :
    ∃ s ∈ summaries, b.key = bucketKey s.date tf := by
  have key : ∀ (state : AggregateState) (summaries : List PriceSummary),
      (summaries.foldl (aggregateStep tf) state).current = some b →
      (∃ s ∈ summaries, b.key = bucketKey s.date tf) ∨ summaries = [] := by
    intro state summaries
    induction summaries using List.reverseRecOn with
    | nil => exact fun _ => Or.inr rfl
    | append_singleton summaries s =>
      intro hcur
      refine .inl ⟨s, by simp, ?_⟩
      rw [List.foldl_append, List.foldl_cons, List.foldl_nil] at hcur
      unfold aggregateStep at hcur
      dsimp only at hcur
      split at hcur
      · rename_i bucket hbucket
        cases hcur
        have hsame := (Option.filter_eq_some_iff.mp hbucket).2
        exact of_decide_eq_true hsame
      · cases hcur
        rfl
  rcases key {} summaries h with hmem | rfl
  · exact hmem
  · cases h

theorem aggregateCoin_append (htf : tf ≠ .hourly) {xs ys : List PriceSummary}
    (h : ∀ x ∈ xs, ∀ y ∈ ys, bucketKey x.date tf ≠ bucketKey y.date tf) :
    aggregateCoin tf (xs ++ ys) = aggregateCoin tf xs ++ aggregateCoin tf ys := by
  rw [aggregateCoin, aggregateCoin, aggregateCoin, if_neg htf, if_neg htf, if_neg htf,
    List.foldl_append]
  cases ys with
  | nil =>
    rw [List.foldl_nil, List.foldl_nil]
    exact (List.append_nil _).symm
  | cons y =>
    have hnew : ∀ b, (xs.foldl (aggregateStep tf) {}).current = some b →
        b.key ≠ bucketKey y.date tf := by
      intro b hb
      obtain ⟨x, hx, hkey⟩ := foldl_aggregateStep_key hb
      rw [hkey]
      exact h x hx y List.mem_cons_self
    rw [List.foldl_cons, List.foldl_cons, aggregateStep_new hnew,
      aggregateStep_new (fun b hb => by cases hb), foldl_aggregateStep_buckets]
    exact List.append_assoc _ _ _

theorem date_of_mem_aggregateCoin (htf : tf ≠ .hourly) {bar : PriceSummary}
    (h : bar ∈ aggregateCoin tf summaries) :
    ∃ s ∈ summaries, bar.date = bucketStart (bucketKey s.date tf) tf := by
  have hflush : ∀ (xs : List PriceSummary) (bar : PriceSummary),
      bar ∈ flush tf (xs.foldl (aggregateStep tf) {}).current →
      ∃ s ∈ xs, bar.date = bucketStart (bucketKey s.date tf) tf := by
    intro xs bar hbar
    cases hcur : (xs.foldl (aggregateStep tf) {}).current with
    | none =>
      rw [hcur] at hbar
      cases hbar
    | some =>
      obtain ⟨s, hs, hkey⟩ := foldl_aggregateStep_key hcur
      rw [hcur] at hbar
      unfold flush Bucket.emit at hbar
      dsimp only at hbar
      split_ifs at hbar
      · cases hbar
      · refine ⟨s, hs, ?_⟩
        rw [List.mem_singleton.mp hbar, ← hkey]
      · cases hbar
  have key : ∀ xs : List PriceSummary, ∀ bar ∈ (xs.foldl (aggregateStep tf) {}).buckets,
      ∃ s ∈ xs, bar.date = bucketStart (bucketKey s.date tf) tf := by
    intro xs
    induction xs using List.reverseRecOn with
    | nil =>
      intro bar hbar
      cases hbar
    | append_singleton xs s ih =>
      intro bar hbar
      have hmem : bar ∈ (xs.foldl (aggregateStep tf) {}).finish tf := by
        rw [List.foldl_append, List.foldl_cons, List.foldl_nil] at hbar
        unfold aggregateStep at hbar
        dsimp only at hbar
        split at hbar
        · exact List.mem_append_left _ hbar
        · exact hbar
      obtain ⟨x, hx, hdate⟩ : ∃ x ∈ xs, bar.date = bucketStart (bucketKey x.date tf) tf := by
        rcases List.mem_append.mp hmem with hold | hnew
        · exact ih bar hold
        · exact hflush xs bar hnew
      exact ⟨x, List.mem_append_left _ hx, hdate⟩
  rw [aggregateCoin, if_neg htf] at h
  rcases List.mem_append.mp h with hold | hnew
  · exact key summaries bar hold
  · exact hflush summaries bar hnew

theorem aggregateCoin_bucket (htf : tf ≠ .hourly) {coinId : CoinId} {key : ℤ}
    (hcoin : ∀ s ∈ summaries, s.coin = coinId) (hkey : ∀ s ∈ summaries, bucketKey s.date tf = key) :
    (tf.expectedSize ≤ summaries.length ∧ coinId ≠ "" →
      ∃ bar, aggregateCoin tf summaries = [bar] ∧ bar.date = bucketStart key tf) ∧
    (¬ (tf.expectedSize ≤ summaries.length ∧ coinId ≠ "") → aggregateCoin tf summaries = []) := by
  have hpos : 0 < tf.expectedSize := by cases tf <;> decide
  have hfold : summaries = [] ∨ ∃ b : Bucket, summaries.foldl (aggregateStep tf) {} =
      { buckets := [], current := some b } ∧ b.key = key ∧ b.coin = coinId ∧
        b.count = summaries.length := by
    induction summaries using List.reverseRecOn with
    | nil => exact .inl rfl
    | append_singleton xs s ih =>
      right
      have hs := hkey s (by simp)
      rw [List.foldl_append, List.foldl_cons, List.foldl_nil]
      rcases ih (fun x hx => hcoin x (by simp [hx])) (fun x hx => hkey x (by simp [hx])) with
        rfl | ⟨b, hb, hbkey, hbcoin, hbcount⟩
      · exact ⟨_, rfl, hs, hcoin s (by simp), rfl⟩
      · have hsame : (some b).filter (fun b : Bucket => b.key = bucketKey s.date tf) = some b := by
          rw [Option.filter_some, if_pos]
          exact decide_eq_true (hbkey.trans hs.symm)
        refine ⟨b.add s, ?_, hbkey, hbcoin, ?_⟩
        · rw [hb, aggregateStep]
          simp only [hsame]
        · rw [Bucket.add, hbcount, List.length_append]
          rfl
  rw [aggregateCoin, if_neg htf]
  rcases hfold with rfl | ⟨b, hb, hbkey, hbcoin, hbcount⟩
  · refine ⟨fun h => absurd h.1 (Nat.not_le.mpr hpos), fun _ => rfl⟩
  · rw [hb, AggregateState.finish, List.nil_append, flush]
    simp only [hbcount, Bucket.emit, hbcoin, hbkey]
    constructor
    · rintro ⟨hsize, hne⟩
      rw [if_pos hsize, if_neg hne]
      exact ⟨_, rfl, rfl⟩
    · intro h
      split_ifs with hsize hempty
      · rfl
      · exact absurd ⟨hsize, hempty⟩ h
      · rfl

end Aggregate

end Chansey
