import Chansey.Window.Lookahead
import Mathlib.Data.List.ReduceOption

/-!
# Exactness of the aggregation

A bar of a higher timeframe sums up the hourly bars of its bucket, and is emitted when the bucket has
as many bars as it has hours.
-/

namespace Chansey

/-! ## Bars of a bucket -/

def totalVolume (bars : List PriceSummary) : Option ℚ :=
  let volumes := (bars.map (·.volume)).reduceOption
  if volumes = [] then none else some volumes.sum

/-- The bar of a bucket that has the hourly bars `bars`. -/
structure ExactBar (tf : PriceTimeframe) (key : ℤ) (bars : List PriceSummary) (bar : PriceSummary) :
    Prop where
  date : bar.date = bucketStart key tf
  coin : ∀ s ∈ bars, bar.coin = s.coin
  opens : ∃ first, bars.head? = some first ∧ bar.openPrice = some (first.openPrice.getD first.avg)
  closes : ∃ last, bars.getLast? = some last ∧ bar.close = some (last.close.getD last.avg) ∧
    bar.avg = last.close.getD last.avg
  high : IsGreatest {h | ∃ s ∈ bars, s.high = h} bar.high
  low : IsLeast {l | ∃ s ∈ bars, s.low = l} bar.low
  volume : bar.volume = totalVolume bars

/-- What the variables of the pass are while the bucket of `bars` is being filled. -/
structure Filling (key : ℤ) (coinId : CoinId) (bars : List PriceSummary) (bucket : Bucket) :
    Prop where
  key : bucket.key = key
  coin : bucket.coin = coinId
  count : bucket.count = bars.length
  opens : ∃ first, bars.head? = some first ∧ bucket.openPrice = first.openPrice.getD first.avg
  closes : ∃ last, bars.getLast? = some last ∧ bucket.close = last.close.getD last.avg
  high : IsGreatest {h | ∃ s ∈ bars, s.high = h} bucket.high
  low : IsLeast {l | ∃ s ∈ bars, s.low = l} bucket.low
  volume : bucket.volume = totalVolume bars

section Bars

variable {tf : PriceTimeframe} {key : ℤ} {coinId : CoinId} {bars summaries : List PriceSummary}
  {bucket : Bucket} {s bar : PriceSummary}

theorem totalVolume_concat (bars : List PriceSummary) (s : PriceSummary) :
    totalVolume (bars ++ [s]) = addVolume (totalVolume bars) s.volume := by
  rw [totalVolume, totalVolume, List.map_append, List.reduceOption_append, List.map_singleton]
  cases s.volume with
  | none =>
    rw [List.reduceOption_cons_of_none, List.reduceOption_nil, List.append_nil]
    rfl
  | some =>
    rw [List.reduceOption_cons_of_some, List.reduceOption_nil, addVolume]
    by_cases hnil : (bars.map (·.volume)).reduceOption = []
    · rw [hnil, if_pos rfl]
      simp
    · rw [if_neg hnil, if_neg (List.append_ne_nil_of_right_ne_nil _ (List.cons_ne_nil _ _)),
        List.sum_append, List.sum_singleton]
      rfl

theorem filling_first (hkey : bucketKey s.date tf = key) (hcoin : s.coin = coinId) :
    Filling key coinId [s] (Bucket.first (bucketKey s.date tf) s) where
  key := hkey
  coin := hcoin
  count := rfl
  opens := ⟨s, rfl, rfl⟩
  closes := ⟨s, rfl, rfl⟩
  high := ⟨⟨s, List.mem_singleton_self s, rfl⟩, by
    rintro _ ⟨t, ht, rfl⟩
    rw [List.mem_singleton.mp ht]
    exact le_rfl⟩
  low := ⟨⟨s, List.mem_singleton_self s, rfl⟩, by
    rintro _ ⟨t, ht, rfl⟩
    rw [List.mem_singleton.mp ht]
    exact le_rfl⟩
  volume := (totalVolume_concat [] s).symm

theorem Filling.add (h : Filling key coinId bars bucket) (s : PriceSummary) :
    Filling key coinId (bars ++ [s]) (bucket.add s) where
  key := h.key
  coin := h.coin
  count := by
    rw [Bucket.add, h.count, List.length_append]
    rfl
  opens := by
    obtain ⟨first, hfirst, hopen⟩ := h.opens
    exact ⟨first, by rw [List.head?_append, hfirst]; rfl, hopen⟩
  closes := ⟨s, List.getLast?_concat, rfl⟩
  high := by
    obtain ⟨⟨t, ht, hthigh⟩, hbound⟩ := h.high
    simp only [Bucket.add]
    split_ifs with hlt
    · refine ⟨⟨s, by simp, rfl⟩, ?_⟩
      rintro _ ⟨u, hu, rfl⟩
      rcases List.mem_append.mp hu with hu | hu
      · exact (hbound ⟨u, hu, rfl⟩).trans hlt.le
      · rw [List.mem_singleton.mp hu]
    · refine ⟨⟨t, List.mem_append_left _ ht, hthigh⟩, ?_⟩
      rintro _ ⟨u, hu, rfl⟩
      rcases List.mem_append.mp hu with hu | hu
      · exact hbound ⟨u, hu, rfl⟩
      · rw [List.mem_singleton.mp hu]
        exact not_lt.mp hlt
  low := by
    obtain ⟨⟨t, ht, htlow⟩, hbound⟩ := h.low
    simp only [Bucket.add]
    split_ifs with hlt
    · refine ⟨⟨s, by simp, rfl⟩, ?_⟩
      rintro _ ⟨u, hu, rfl⟩
      rcases List.mem_append.mp hu with hu | hu
      · exact hlt.le.trans (hbound ⟨u, hu, rfl⟩)
      · rw [List.mem_singleton.mp hu]
    · refine ⟨⟨t, List.mem_append_left _ ht, htlow⟩, ?_⟩
      rintro _ ⟨u, hu, rfl⟩
      rcases List.mem_append.mp hu with hu | hu
      · exact hbound ⟨u, hu, rfl⟩
      · rw [List.mem_singleton.mp hu]
        exact not_lt.mp hlt
  volume := by
    rw [totalVolume_concat, ← h.volume]
    rfl

theorem filling_foldl (hne : bars ≠ []) (hcoin : ∀ s ∈ bars, s.coin = coinId)
    (hkey : ∀ s ∈ bars, bucketKey s.date tf = key) :
    ∃ bucket, bars.foldl (aggregateStep tf) {} = { buckets := [], current := some bucket } ∧
      Filling key coinId bars bucket := by
  induction bars using List.reverseRecOn with
  | nil => exact absurd rfl hne
  | append_singleton bars s ih =>
    have hs : s ∈ bars ++ [s] := List.mem_append_right _ (List.mem_singleton_self s)
    rw [List.foldl_append, List.foldl_cons, List.foldl_nil]
    by_cases hbars : bars = []
    · subst hbars
      exact ⟨_, rfl, filling_first (hkey s hs) (hcoin s hs)⟩
    · obtain ⟨bucket, hfold, hfilling⟩ := ih hbars
        (fun t ht => hcoin t (List.mem_append_left _ ht))
        (fun t ht => hkey t (List.mem_append_left _ ht))
      have hsame : (some bucket).filter (fun b : Bucket => b.key = bucketKey s.date tf) =
          some bucket := by
        rw [Option.filter_some, if_pos]
        exact decide_eq_true (hfilling.key.trans (hkey s hs).symm)
      refine ⟨bucket.add s, ?_, hfilling.add s⟩
      rw [hfold, aggregateStep]
      simp only [hsame]

theorem exactBar_of_mem (htf : tf ≠ .hourly) (hcoin : ∀ s ∈ bars, s.coin = coinId)
    (hkey : ∀ s ∈ bars, bucketKey s.date tf = key) (hbar : bar ∈ aggregateCoin tf bars) :
    ExactBar tf key bars bar := by
  by_cases hne : bars = []
  · rw [hne, aggregateCoin, if_neg htf] at hbar
    exact absurd hbar List.not_mem_nil
  obtain ⟨_, hfold, hfilling⟩ := filling_foldl hne hcoin hkey
  rw [aggregateCoin, if_neg htf, hfold, AggregateState.finish, List.nil_append, flush] at hbar
  simp only [Bucket.emit] at hbar
  split_ifs at hbar
  · exact absurd hbar List.not_mem_nil
  · rw [List.mem_singleton.mp hbar]
    obtain ⟨first, hfirst, hopen⟩ := hfilling.opens
    obtain ⟨last, hlast, hclose⟩ := hfilling.closes
    exact {
      date := by rw [hfilling.key]
      coin := fun s hs => hfilling.coin.trans (hcoin s hs).symm
      opens := ⟨first, hfirst, congrArg some hopen⟩
      closes := ⟨last, hlast, congrArg some hclose, hclose⟩
      high := hfilling.high
      low := hfilling.low
      volume := hfilling.volume }
  · exact absurd hbar List.not_mem_nil

/-! ## Bucket by bucket -/

theorem inBucket_filter_ne {other : ℤ} (h : other ≠ key) :
    inBucket tf other (summaries.filter fun s => !decide (bucketKey s.date tf = key)) =
      inBucket tf other summaries := by
  rw [inBucket, inBucket, List.filter_filter]
  refine List.filter_congr fun s _ => ?_
  by_cases hs : bucketKey s.date tf = other
  · simp [hs, h]
  · simp [hs]

theorem aggregateCoin_flatMap (htf : tf ≠ .hourly)
    (hsort : summaries.Pairwise fun a b => a.date ≤ b.date) {keys : List ℤ}
    (hkeys : keys.Pairwise (· < ·)) (hmem : ∀ s ∈ summaries, bucketKey s.date tf ∈ keys) :
    aggregateCoin tf summaries = keys.flatMap fun key => aggregateCoin tf (inBucket tf key summaries) := by
  induction keys generalizing summaries with
  | nil =>
    have hnil : summaries = [] := List.eq_nil_iff_forall_not_mem.mpr fun s hs =>
      absurd (hmem s hs) List.not_mem_nil
    rw [hnil, aggregateCoin, if_neg htf]
    rfl
  | cons key keys ih =>
    rw [List.pairwise_cons] at hkeys
    have hfirst : summaries.Pairwise fun a b =>
        decide (bucketKey b.date tf = key) = true → decide (bucketKey a.date tf = key) = true := by
      refine hsort.imp_of_mem fun {a b} ha _ hab hb => decide_eq_true ?_
      have hle := bucketKey_mono tf hab
      rw [of_decide_eq_true hb] at hle
      rcases List.mem_cons.mp (hmem a ha) with heq | hin
      · exact heq
      · exact absurd (hkeys.1 _ hin) (not_lt.mpr hle)
    let rest := summaries.filter fun s => !decide (bucketKey s.date tf = key)
    have hsplit : inBucket tf key summaries ++ rest = summaries :=
      Cursor.filter_append_filter_not hfirst
    have hother : ∀ s ∈ rest, bucketKey s.date tf ≠ key := fun s hs => by
      simpa using (List.mem_filter.mp hs).2
    have hrest : aggregateCoin tf rest =
        keys.flatMap fun other => aggregateCoin tf (inBucket tf other rest) := by
      refine ih (hsort.filter _) hkeys.2 fun s hs => ?_
      exact (List.mem_cons.mp (hmem s (List.mem_of_mem_filter hs))).resolve_left (hother s hs)
    have hbuckets : (keys.flatMap fun other => aggregateCoin tf (inBucket tf other rest)) =
        keys.flatMap fun other => aggregateCoin tf (inBucket tf other summaries) :=
      List.flatMap_congr fun other hin => by
        rw [inBucket_filter_ne (hkeys.1 other hin).ne']
    conv_lhs => rw [← hsplit]
    rw [List.flatMap_cons, ← hbuckets, ← hrest]
    refine aggregateCoin_append htf fun x hx y hy => ?_
    rw [key_of_mem_inBucket hx]
    exact (hother y hy).symm

theorem exists_keys (tf : PriceTimeframe) (hsort : summaries.Pairwise fun a b => a.date ≤ b.date) :
    ∃ keys : List ℤ, keys.Pairwise (· < ·) ∧ ∀ key, key ∈ keys ↔
      ∃ s ∈ summaries, bucketKey s.date tf = key := by
  have hle : (summaries.map fun s => bucketKey s.date tf).dedup.Pairwise (· ≤ ·) :=
    (List.pairwise_map.mpr (hsort.imp fun {_ _} h => bucketKey_mono tf h)).sublist
      (List.dedup_sublist _)
  refine ⟨_, hle.imp₂ (fun _ _ hle hne => lt_of_le_of_ne hle hne) (List.nodup_dedup _), fun key => ?_⟩
  rw [List.mem_dedup, List.mem_map]

theorem mem_aggregateCoin (htf : tf ≠ .hourly)
    (hsort : summaries.Pairwise fun a b => a.date ≤ b.date) :
    bar ∈ aggregateCoin tf summaries ↔ ∃ key, bar ∈ aggregateCoin tf (inBucket tf key summaries) := by
  obtain ⟨_, hkeys, hmem⟩ := exists_keys tf hsort
  rw [aggregateCoin_flatMap htf hsort hkeys fun s hs => (hmem _).mpr ⟨s, hs, rfl⟩, List.mem_flatMap]
  constructor
  · rintro ⟨key, -, hbar⟩
    exact ⟨key, hbar⟩
  · rintro ⟨key, hbar⟩
    obtain ⟨s, hs, -⟩ := date_of_mem_aggregateCoin htf hbar
    exact ⟨key, (hmem key).mpr ⟨s, List.mem_of_mem_filter hs, key_of_mem_inBucket hs⟩, hbar⟩

end Bars

/-! ## The promise -/

/-- A bar of the series begins within the hour. -/
def HourPresent (summaries : List PriceSummary) (hour : ℤ) : Prop :=
  ∃ s ∈ summaries, hour ≤ s.date ∧ s.date < hour + HOUR_MS

/-- What the aggregation of a series promises. -/
structure Exact (tf : PriceTimeframe) (summaries : List PriceSummary) : Prop where
  bars : ∀ bar ∈ aggregateCoin tf summaries, ∃ key, ExactBar tf key (inBucket tf key summaries) bar
  complete : ∀ key, (∃ bar ∈ aggregateCoin tf summaries, bar.date = bucketStart key tf) ↔
    ∀ hour ∈ hoursOf tf key, HourPresent summaries hour
  increasing : (aggregateCoin tf summaries).Pairwise fun a b => a.date < b.date
  perBucket : ∀ keys : List ℤ, keys.Pairwise (· < ·) →
    (∀ s ∈ summaries, bucketKey s.date tf ∈ keys) →
    aggregateCoin tf summaries = keys.flatMap fun key => aggregateCoin tf (inBucket tf key summaries)

/-- A bucket that has as many bars as hours has a bar in each of its hours: no second bar of an hour
stands in for a missing one. -/
def NoDoubles (tf : PriceTimeframe) (summaries : List PriceSummary) : Prop :=
  ∀ key, tf.expectedSize ≤ (inBucket tf key summaries).length →
    ∀ hour ∈ hoursOf tf key, HourPresent summaries hour

section Promise

variable {tf : PriceTimeframe} {key : ℤ} {coinId : CoinId} {summaries : List PriceSummary}

theorem emitted_iff (htf : tf ≠ .hourly) (hcoin : ∀ s ∈ summaries, s.coin = coinId)
    (hname : coinId ≠ "") (hsort : summaries.Pairwise fun a b => a.date ≤ b.date) (key : ℤ) :
    (∃ bar ∈ aggregateCoin tf summaries, bar.date = bucketStart key tf) ↔
      tf.expectedSize ≤ (inBucket tf key summaries).length := by
  have hbucket : ∀ key, ∀ s ∈ inBucket tf key summaries, s.coin = coinId := fun key s hs =>
    hcoin s (List.mem_of_mem_filter hs)
  constructor
  · rintro ⟨_, hbar, hdate⟩
    obtain ⟨key', hmem⟩ := (mem_aggregateCoin htf hsort).mp hbar
    have hexact := exactBar_of_mem htf (hbucket key') (fun _ hs => key_of_mem_inBucket hs) hmem
    obtain rfl : key' = key := (bucketStart_strictMono tf).injective (hexact.date.symm.trans hdate)
    by_contra hfew
    have hnone := (aggregateCoin_bucket htf (hbucket key')
      (fun _ hs => key_of_mem_inBucket hs)).2 fun h => hfew h.1
    rw [hnone] at hmem
    exact absurd hmem List.not_mem_nil
  · intro hmany
    obtain ⟨bar, hbars, hdate⟩ := (aggregateCoin_bucket htf (hbucket key)
      (fun _ hs => key_of_mem_inBucket hs)).1 ⟨hmany, hname⟩
    refine ⟨bar, (mem_aggregateCoin htf hsort).mpr ⟨key, ?_⟩, hdate⟩
    rw [hbars]
    exact List.mem_singleton_self bar

theorem floor_hour {hour date : ℤ} (hhour : HOUR_MS ∣ hour) (hle : hour ≤ date)
    (hlt : date < hour + HOUR_MS) : date / HOUR_MS * HOUR_MS = hour := by
  obtain ⟨n, rfl⟩ := hhour
  simp only [HOUR_MS] at *
  omega

theorem bucketKey_of_hour {hour date : ℤ} (hhour : hour ∈ hoursOf tf key) (hle : hour ≤ date)
    (hlt : date < hour + HOUR_MS) : bucketKey date tf = key := by
  obtain ⟨⟨n, rfl⟩, hkey⟩ := mem_hoursOf.mp hhour
  obtain ⟨hstart, _⟩ := (bucketKey_eq_iff tf _ key).mp hkey
  obtain ⟨m, _⟩ := hour_dvd_bucketStart tf key
  refine (bucketKey_eq_iff tf date key).mpr ⟨hstart.trans hle, ?_⟩
  simp only [HOUR_MS] at *
  omega

theorem expectedSize_le (h : ∀ hour ∈ hoursOf tf key, HourPresent summaries hour) :
    tf.expectedSize ≤ (inBucket tf key summaries).length := by
  have hnodup : (hoursOf tf key).Nodup := (pairwise_hoursOf key).imp ne_of_lt
  have hsub : hoursOf tf key ⊆
      (inBucket tf key summaries).map fun s => s.date / HOUR_MS * HOUR_MS := by
    intro hour hhour
    obtain ⟨s, hs, hle, hlt⟩ := h hour hhour
    have hbucket := bucketKey_of_hour hhour hle hlt
    exact List.mem_map.mpr ⟨s, List.mem_filter.mpr ⟨hs, decide_eq_true hbucket⟩,
      floor_hour (mem_hoursOf.mp hhour).1 hle hlt⟩
  have hlen := (List.subperm_of_subset hnodup hsub).length_le
  rwa [List.length_map, length_hoursOf] at hlen

theorem aggregateCoin_increasing (htf : tf ≠ .hourly) (hcoin : ∀ s ∈ summaries, s.coin = coinId)
    (hsort : summaries.Pairwise fun a b => a.date ≤ b.date) :
    (aggregateCoin tf summaries).Pairwise fun a b => a.date < b.date := by
  obtain ⟨_, hkeys, hmem⟩ := exists_keys tf hsort
  have hbucket : ∀ key, ∀ s ∈ inBucket tf key summaries, s.coin = coinId := fun key s hs =>
    hcoin s (List.mem_of_mem_filter hs)
  have hdate : ∀ key, ∀ bar ∈ aggregateCoin tf (inBucket tf key summaries),
      bar.date = bucketStart key tf := fun key bar hbar =>
    (exactBar_of_mem htf (hbucket key) (fun _ hs => key_of_mem_inBucket hs) hbar).date
  rw [aggregateCoin_flatMap htf hsort hkeys fun s hs => (hmem _).mpr ⟨s, hs, rfl⟩,
    List.pairwise_flatMap]
  constructor
  · intro key _
    have hspec := aggregateCoin_bucket htf (hbucket key) (fun _ hs => key_of_mem_inBucket hs)
    by_cases hmany : tf.expectedSize ≤ (inBucket tf key summaries).length ∧ coinId ≠ ""
    · obtain ⟨bar, hbars, -⟩ := hspec.1 hmany
      rw [hbars]
      exact List.pairwise_singleton _ bar
    · rw [hspec.2 hmany]
      exact List.Pairwise.nil
  · refine hkeys.imp fun {a b} hab x hx y hy => ?_
    rw [hdate a x hx, hdate b y hy]
    exact bucketStart_strictMono tf hab

/-- **The aggregation is exact just when every bucket with enough bars has all its hours.** -/
theorem exact_iff (htf : tf ≠ .hourly) (hcoin : ∀ s ∈ summaries, s.coin = coinId)
    (hname : coinId ≠ "") (hsorted : summaries.Pairwise fun a b => a.date ≤ b.date) :
    Exact tf summaries ↔ NoDoubles tf summaries := by
  constructor
  · intro hexact key hmany
    exact (hexact.complete key).mp ((emitted_iff htf hcoin hname hsorted key).mpr hmany)
  · intro hdoubles
    refine ⟨fun bar hbar => ?_, fun key => ?_, aggregateCoin_increasing htf hcoin hsorted,
      fun keys hkeys hmem => aggregateCoin_flatMap htf hsorted hkeys hmem⟩
    · obtain ⟨key, hmem⟩ := (mem_aggregateCoin htf hsorted).mp hbar
      exact ⟨key, exactBar_of_mem htf (fun s hs => hcoin s (List.mem_of_mem_filter hs))
        (fun _ hs => key_of_mem_inBucket hs) hmem⟩
    · rw [emitted_iff htf hcoin hname hsorted]
      exact ⟨hdoubles key, expectedSize_le⟩

/-- The first bucket is cut off, the second one is complete, and the third one has a gap. -/
def barsWithGap : List PriceSummary :=
  [2, 3, 4, 5, 6, 7, 8, 9, 11].map fun hour : ℤ =>
    { coin := "btc", date := hour * HOUR_MS, avg := hour, high := hour + 1, low := hour }

theorem exact_barsWithGap :
    (aggregateCoin .fourHour barsWithGap).map (·.date) = [4 * HOUR_MS] ∧
      Exact .fourHour barsWithGap := by
  have hcoin : ∀ s ∈ barsWithGap, s.coin = "btc" := by decide +kernel
  refine ⟨by decide +kernel, (exact_iff (by decide) hcoin (by decide) (by decide +kernel)).mpr
    fun key hmany => ?_⟩
  obtain ⟨s, hs⟩ := List.exists_mem_of_length_pos (Nat.lt_of_lt_of_le (by decide) hmany)
  have hkeys : ∀ s ∈ barsWithGap, bucketKey s.date .fourHour = 0 ∨ bucketKey s.date .fourHour = 1 ∨
      bucketKey s.date .fourHour = 2 := by decide +kernel
  have hkey := hkeys s (List.mem_of_mem_filter hs)
  rw [key_of_mem_inBucket hs] at hkey
  rcases hkey with rfl | rfl | rfl
  · exact absurd hmany (by decide +kernel)
  · have hpresent : ∀ hour ∈ hoursOf .fourHour 1, ∃ s ∈ barsWithGap,
        hour ≤ s.date ∧ s.date < hour + HOUR_MS := by decide +kernel
    exact hpresent
  · exact absurd hmany (by decide +kernel)

theorem double_stands_in :
    ¬Exact .fourHour ([0, 0, 1, 2].map fun hour : ℤ =>
      { coin := "btc", date := hour * HOUR_MS, avg := 1, high := 1, low := 1 }) := by
  intro hexact
  have hmissing : ¬∀ hour ∈ hoursOf .fourHour 0,
      ∃ s ∈ ([0, 0, 1, 2].map fun hour : ℤ =>
        { coin := "btc", date := hour * HOUR_MS, avg := 1, high := 1, low := 1 } :
          List PriceSummary), hour ≤ s.date ∧ s.date < hour + HOUR_MS := by decide
  exact hmissing ((hexact.complete 0).mp ⟨_, List.mem_singleton_self _, rfl⟩)

end Promise

end Chansey
