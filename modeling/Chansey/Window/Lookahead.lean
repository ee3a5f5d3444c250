import Chansey.Window.Timeframe

/-!
# Lookahead through higher timeframes

Two runs whose hourly bars agree up to a time should be given the same higher-timeframe windows at
that time. A bucket is dated at its start, so its bar is given as soon as the bucket is entered,
with the hours that are still to come.
-/

namespace Chansey

/-! ## Hourly data -/

structure HourlySeries (coinId : CoinId) (summaries : List PriceSummary) : Prop where
  coin : ∀ s ∈ summaries, s.coin = coinId
  aligned : ∀ s ∈ summaries, HOUR_MS ∣ s.date
  increasing : summaries.Pairwise fun a b => a.date < b.date

def HourlyData (data : OrdMap CoinId (List PriceSummary)) : Prop :=
  ∀ coinId summaries, data.get? coinId = some summaries → HourlySeries coinId summaries

/-- The same coins with the same bars dated up to `t`. -/
def AgreeUpTo (t : Instant) (data data' : OrdMap CoinId (List PriceSummary)) : Prop :=
  ∀ coinId, (data.get? coinId).map (·.filter (reached t)) =
    (data'.get? coinId).map (·.filter (reached t))

/-- The windows of a run that has not begun. -/
def startTracking (data : OrdMap CoinId (List PriceSummary)) : PriceTrackingContext :=
  initMultiTimeframe { tracking := initTracking data MAX_WINDOW_SIZE MAX_WINDOW_SIZE_pos }
    (aggregate data)

/-- The higher-timeframe window of a coin at `t`, after the bars at `timestamps`. -/
def higherWindow (data : OrdMap CoinId (List PriceSummary)) (coins : List Coin)
    (timestamps : List Instant) (t : Instant) (tf : PriceTimeframe) (coinId : CoinId) :
    Option (List PriceSummary) :=
  let ctx := fastForward (startTracking data) coins timestamps
  ((advanceMultiTimeframeWindows (advancePriceWindows ctx coins t).1 coins t).2.get? tf).bind
    (·.get? coinId)

/-- The bars of a timeframe dated up to `t`. -/
def visible (tf : PriceTimeframe) (t : Instant) (summaries : List PriceSummary) :
    List PriceSummary :=
  (aggregateCoin tf summaries).takeWhile (reached t)

theorem higherWindow_eq {data : OrdMap CoinId (List PriceSummary)} {coins : List Coin}
    {timestamps : List Instant} {t : Instant} (h : ∀ s ∈ timestamps, s ≤ t) (tf : PriceTimeframe)
    (coinId : CoinId) :
    higherWindow data coins timestamps t tf coinId =
      if tf ∈ HIGHER_TIMEFRAMES ∧ coinId ∈ coins.map (·.id) then
        (data.get? coinId).bind fun summaries =>
          if visible tf t summaries = [] then none
          else some ((visible tf t summaries).rtake tf.windowSize)
      else none := by
  have hread : ∀ ctx : PriceTrackingContext,
      (advanceMultiTimeframeWindows ctx coins t).2.get? tf =
        (ctx.higherTimeframes.bind (·.get? tf)).map fun tracking =>
          (advanceWindows tracking coins t).2 := by
    intro ctx
    unfold advanceMultiTimeframeWindows
    cases ctx.higherTimeframes with
    | none => rfl
    | some => simp [Function.comp_def]
  rw [higherWindow, hread]
  have htrd : (advancePriceWindows (fastForward (startTracking data) coins timestamps) coins
      t).1.higherTimeframes = (fastForward (startTracking data) coins timestamps).higherTimeframes :=
    rfl
  rw [htrd, fastForward_higherTimeframes, startTracking, initMultiTimeframe, Option.map_some,
    Option.bind_some, OrdMap.get?_map, OrdMap.get?_map, aggregate, OrdMap.get?_ofKeys]
  by_cases htf : tf ∈ HIGHER_TIMEFRAMES
  · rw [if_pos htf]
    simp only [Option.map_some, Option.bind_some, htf, true_and]
    rw [advanceWindows_advanceTracking h, advanceWindows_initTracking, OrdMap.get?_map]
    cases data.get? coinId <;> rfl
  · simp [htf]

/-! ## The bucket of a time -/

/-- The bars of the buckets before `key`, and those of `key`. -/
def beforeBucket (tf : PriceTimeframe) (key : ℤ) (summaries : List PriceSummary) :
    List PriceSummary :=
  summaries.filter fun s => bucketKey s.date tf < key

def inBucket (tf : PriceTimeframe) (key : ℤ) (summaries : List PriceSummary) : List PriceSummary :=
  summaries.filter fun s => bucketKey s.date tf = key

def hoursOf (tf : PriceTimeframe) (key : ℤ) : List ℤ :=
  (List.range tf.expectedSize).map fun j : ℕ => bucketStart key tf + (j : ℤ) * HOUR_MS

section Bucket

variable {tf : PriceTimeframe} {t : Instant} {coinId : CoinId} {summaries : List PriceSummary}

/-- **What is visible at `t`: the buckets before that of `t`, and that bucket if it is complete.** -/
theorem visible_eq (htf : tf ≠ .hourly) (h : HourlySeries coinId summaries) :
    visible tf t summaries =
      aggregateCoin tf (beforeBucket tf (bucketKey t tf) summaries) ++
        aggregateCoin tf (inBucket tf (bucketKey t tf) summaries) := by
  let key := bucketKey t tf
  let after := summaries.filter fun s => key < bucketKey s.date tf
  have hsplit : summaries =
      beforeBucket tf key summaries ++ (inBucket tf key summaries ++ after) := by
    have hmono : ∀ {a b : PriceSummary}, a.date < b.date →
        bucketKey a.date tf ≤ bucketKey b.date tf := fun hab => bucketKey_mono tf hab.le
    have hfirst : summaries.Pairwise fun a b =>
        decide (bucketKey b.date tf < key) = true → decide (bucketKey a.date tf < key) = true := by
      refine h.increasing.imp fun hab hb => ?_
      exact decide_eq_true ((hmono hab).trans_lt (of_decide_eq_true hb))
    have hsec : (summaries.filter fun s => !decide (bucketKey s.date tf < key)).Pairwise
        fun a b => decide (bucketKey b.date tf = key) = true →
          decide (bucketKey a.date tf = key) = true := by
      rw [List.pairwise_filter]
      refine h.increasing.imp fun hab ha _ hb => ?_
      have hle := hmono hab
      rw [Bool.not_eq_true', decide_eq_false_iff_not, not_lt] at ha
      exact decide_eq_true (le_antisymm (hle.trans (of_decide_eq_true hb).le) ha)
    have hin : (summaries.filter fun s => !decide (bucketKey s.date tf < key)).filter
        (fun s => bucketKey s.date tf = key) = inBucket tf key summaries := by
      rw [List.filter_filter]
      refine List.filter_congr fun s _ => ?_
      by_cases hs : bucketKey s.date tf = key <;> simp [hs]
    have hafter : (summaries.filter fun s => !decide (bucketKey s.date tf < key)).filter
        (fun s => !decide (bucketKey s.date tf = key)) = after := by
      rw [List.filter_filter]
      refine List.filter_congr fun s _ => ?_
      rw [Bool.eq_iff_iff]
      simp only [Bool.and_eq_true, Bool.not_eq_true', decide_eq_false_iff_not, decide_eq_true_eq,
        not_lt]
      omega
    rw [← hin, ← hafter, Cursor.filter_append_filter_not hsec]
    exact (Cursor.filter_append_filter_not hfirst).symm
  have hbef : ∀ s ∈ beforeBucket tf key summaries, bucketKey s.date tf < key :=
    fun s hs => of_decide_eq_true (List.mem_filter.mp hs).2
  have hat : ∀ s ∈ inBucket tf key summaries, bucketKey s.date tf = key :=
    fun s hs => of_decide_eq_true (List.mem_filter.mp hs).2
  have hlater : ∀ s ∈ after, key < bucketKey s.date tf :=
    fun s hs => of_decide_eq_true (List.mem_filter.mp hs).2
  have hstart : bucketStart key tf ≤ t := ((bucketKey_eq_iff tf t key).mp rfl).1
  have hend : t < bucketStart (key + 1) tf := by
    rw [bucketStart_add]
    exact ((bucketKey_eq_iff tf t key).mp rfl).2
  have hmonoStart := (bucketStart_strictMono tf).monotone
  have hlast : aggregateCoin tf (inBucket tf key summaries ++ after) =
      aggregateCoin tf (inBucket tf key summaries) ++ aggregateCoin tf after := by
    refine aggregateCoin_append htf fun x hx y hy => ?_
    rw [hat x hx]
    exact (hlater y hy).ne
  rw [visible]
  conv_lhs => rw [hsplit]
  rw [aggregateCoin_append htf, hlast, ← List.append_assoc, List.takeWhile_append_of_pos,
    List.append_right_eq_self]
  · -- the buckets after that of `t` start after `t`
    cases hagg : aggregateCoin tf after with
    | nil => rfl
    | cons bar =>
      obtain ⟨s, hs, hdate⟩ := date_of_mem_aggregateCoin htf (hagg ▸ List.mem_cons_self)
      refine List.takeWhile_cons_of_neg fun hbar => ?_
      have hle : bar.date ≤ t := of_decide_eq_true hbar
      rw [hdate] at hle
      have hge := hmonoStart (Int.add_one_le_iff.mpr (hlater s hs))
      exact absurd (hend.trans_le hge) (not_lt.mpr hle)
  · intro bar hbar
    refine decide_eq_true ?_
    have hle : ∀ s : PriceSummary, bucketKey s.date tf ≤ key →
        bar.date = bucketStart (bucketKey s.date tf) tf → bar.date ≤ t :=
      fun s hs hdate => hdate.trans_le ((hmonoStart hs).trans hstart)
    rcases List.mem_append.mp hbar with hb | hb
    · obtain ⟨s, hs, hdate⟩ := date_of_mem_aggregateCoin htf hb
      exact hle s (hbef s hs).le hdate
    · obtain ⟨s, hs, hdate⟩ := date_of_mem_aggregateCoin htf hb
      exact hle s (hat s hs).le hdate
  · intro x hx y hy
    have hxkey := hbef x hx
    rcases List.mem_append.mp hy with hy | hy
    · rw [hat y hy]
      exact hxkey.ne
    · exact (hxkey.trans (hlater y hy)).ne

theorem mem_hoursOf {key h : ℤ} : h ∈ hoursOf tf key ↔ HOUR_MS ∣ h ∧ bucketKey h tf = key := by
  have hdvd := hour_dvd_bucketStart tf key
  rw [bucketKey_eq_iff]
  simp only [hoursOf, List.mem_map, List.mem_range]
  constructor
  · rintro ⟨j, _, rfl⟩
    refine ⟨hdvd.add (Dvd.intro_left _ rfl), ?_, ?_⟩ <;> simp only [HOUR_MS] <;> omega
  · rintro ⟨⟨m, _⟩, _, _⟩
    obtain ⟨n, _⟩ := hdvd
    refine ⟨(m - n).toNat, ?_, ?_⟩ <;> simp only [HOUR_MS] at * <;> omega

theorem pairwise_hoursOf (key : ℤ) : (hoursOf tf key).Pairwise (· < ·) := by
  rw [hoursOf, List.pairwise_map]
  refine List.pairwise_lt_range.imp fun hij => ?_
  simp only [HOUR_MS]
  omega

theorem length_hoursOf (key : ℤ) : (hoursOf tf key).length = tf.expectedSize := by
  rw [hoursOf, List.length_map, List.length_range]

theorem HourlySeries.filter (h : HourlySeries coinId summaries) (p : PriceSummary → Bool) :
    HourlySeries coinId (summaries.filter p) where
  coin s hs := h.coin s (List.mem_of_mem_filter hs)
  aligned s hs := h.aligned s (List.mem_of_mem_filter hs)
  increasing := h.increasing.filter p

theorem key_of_mem_inBucket {key : ℤ} {s : PriceSummary} (h : s ∈ inBucket tf key summaries) :
    bucketKey s.date tf = key := of_decide_eq_true (List.mem_filter.mp h).2

theorem HourlySeries.inBucket (h : HourlySeries coinId summaries) (key : ℤ) :
    HourlySeries coinId (inBucket tf key summaries) := h.filter _

theorem length_inBucket_lt (h : HourlySeries coinId summaries) {key hour : ℤ}
    (hhour : hour ∈ hoursOf tf key) (hmiss : ∀ s ∈ summaries, s.date ≠ hour) :
    (inBucket tf key summaries).length < tf.expectedSize := by
  have hser : HourlySeries coinId (inBucket tf key summaries) := h.inBucket key
  have hnodup : (hour :: (inBucket tf key summaries).map (·.date)).Nodup := by
    refine List.nodup_cons.mpr ⟨fun hmem => ?_, ?_⟩
    · obtain ⟨s, hs, hdate⟩ := List.mem_map.mp hmem
      exact hmiss s (List.mem_of_mem_filter hs) hdate
    · exact List.Pairwise.map _ (fun _ _ => ne_of_lt) hser.increasing
  have hsub : hour :: (inBucket tf key summaries).map (·.date) ⊆ hoursOf tf key := by
    intro d hd
    rcases List.mem_cons.mp hd with rfl | hd
    · exact hhour
    · obtain ⟨s, hs, rfl⟩ := List.mem_map.mp hd
      exact mem_hoursOf.mpr ⟨hser.aligned s hs, key_of_mem_inBucket hs⟩
  have hle := (List.subperm_of_subset hnodup hsub).length_le
  rw [List.length_cons, List.length_map, length_hoursOf] at hle
  exact hle

end Bucket

/-! ## Settled buckets -/

/-- What the bucket of `t` emits does not depend on hours after `t`: it has none, one of its earlier
hours is missing, or its bars name no coin. -/
def Settled (tf : PriceTimeframe) (t : Instant) (coinId : CoinId) (summaries : List PriceSummary) :
    Prop :=
  coinId = "" ∨ (∀ hour ∈ hoursOf tf (bucketKey t tf), hour ≤ t) ∨
    ∃ hour ∈ hoursOf tf (bucketKey t tf), hour ≤ t ∧ ∀ s ∈ summaries, s.date ≠ hour

section Settled

variable {tf : PriceTimeframe} {t : Instant} {coinId : CoinId} {summaries summaries' : List PriceSummary}

section

variable (htf : tf ≠ .hourly) (h : HourlySeries coinId summaries)
  (h' : HourlySeries coinId summaries')
  (hagree : summaries.filter (reached t) = summaries'.filter (reached t))
  (hset : Settled tf t coinId summaries)

include htf h h' hagree hset

theorem inBucket_settled :
    aggregateCoin tf (inBucket tf (bucketKey t tf) summaries) =
      aggregateCoin tf (inBucket tf (bucketKey t tf) summaries') := by
  have hempty : ∀ xs, HourlySeries coinId xs →
      ¬ (tf.expectedSize ≤ (inBucket tf (bucketKey t tf) xs).length ∧ coinId ≠ "") →
      aggregateCoin tf (inBucket tf (bucketKey t tf) xs) = [] :=
    fun xs hxs =>
      (aggregateCoin_bucket htf (hxs.inBucket _).coin fun _ hs => key_of_mem_inBucket hs).2
  rcases hset with hname | hpast | ⟨hour, hhour, hle, hmiss⟩
  · rw [hempty summaries h fun hn => hn.2 hname, hempty summaries' h' fun hn => hn.2 hname]
  · -- the whole bucket is dated up to `t`
    have hfil : ∀ xs, HourlySeries coinId xs → inBucket tf (bucketKey t tf) xs =
        inBucket tf (bucketKey t tf) (xs.filter (reached t)) := by
      intro xs hxs
      rw [inBucket, inBucket, List.filter_filter]
      refine List.filter_congr fun s hs => ?_
      by_cases hk : bucketKey s.date tf = bucketKey t tf
      · have hdate := hpast s.date (mem_hoursOf.mpr ⟨hxs.aligned s hs, hk⟩)
        have hrch : reached t s = true := decide_eq_true hdate
        rw [hrch, Bool.and_true]
      · simp [hk]
    rw [hfil summaries h, hfil summaries' h', hagree]
  · have hmiss' : ∀ s ∈ summaries', s.date ≠ hour := by
      intro s hs hdate
      have hrch : s ∈ summaries'.filter (reached t) :=
        List.mem_filter.mpr ⟨hs, decide_eq_true (hdate.trans_le hle)⟩
      rw [← hagree] at hrch
      exact hmiss s (List.mem_of_mem_filter hrch) hdate
    rw [hempty summaries h fun hn => (length_inBucket_lt h hhour hmiss).not_ge hn.1,
      hempty summaries' h' fun hn => (length_inBucket_lt h' hhour hmiss').not_ge hn.1]

theorem visible_settled : visible tf t summaries = visible tf t summaries' := by
  have hbef : ∀ xs : List PriceSummary, beforeBucket tf (bucketKey t tf) xs =
      beforeBucket tf (bucketKey t tf) (xs.filter (reached t)) := by
    intro xs
    rw [beforeBucket, beforeBucket, List.filter_filter]
    refine List.filter_congr fun s _ => ?_
    by_cases hk : bucketKey s.date tf < bucketKey t tf
    · have hdate : s.date ≤ t := by
        by_contra hlt
        exact absurd (bucketKey_mono tf (not_le.mp hlt).le) (not_le.mpr hk)
      have hrch : reached t s = true := decide_eq_true hdate
      rw [hrch, Bool.and_true]
    · simp [hk]
  rw [visible_eq htf h, visible_eq htf h', hbef summaries, hbef summaries', hagree,
    inBucket_settled htf h h' hagree hset]

end

/-- The hours of the bucket of `t` that are still to come, as bars. -/
def laterBars (tf : PriceTimeframe) (t : Instant) (coinId : CoinId) : List PriceSummary :=
  ((hoursOf tf (bucketKey t tf)).filter (t < ·)).map fun hour =>
    { coin := coinId, date := hour, avg := 0, high := 0, low := 0 }

theorem mem_laterBars {s : PriceSummary} (h : s ∈ laterBars tf t coinId) :
    s.coin = coinId ∧ t < s.date ∧ s.date ∈ hoursOf tf (bucketKey t tf) := by
  obtain ⟨_, hhour, rfl⟩ := List.mem_map.mp h
  obtain ⟨hmem, hlt⟩ := List.mem_filter.mp hhour
  exact ⟨rfl, of_decide_eq_true hlt, hmem⟩

theorem hourlySeries_append_laterBars (tf : PriceTimeframe) (t : Instant)
    (h : HourlySeries coinId summaries) :
    HourlySeries coinId (summaries.filter (reached t) ++ laterBars tf t coinId) where
  coin s hs := by
    rcases List.mem_append.mp hs with hs | hs
    · exact h.coin s (List.mem_of_mem_filter hs)
    · exact (mem_laterBars hs).1
  aligned s hs := by
    rcases List.mem_append.mp hs with hs | hs
    · exact h.aligned s (List.mem_of_mem_filter hs)
    · exact (mem_hoursOf.mp (mem_laterBars hs).2.2).1
  increasing := by
    refine List.pairwise_append.mpr ⟨h.increasing.filter _, ?_, fun a ha b hb => ?_⟩
    · rw [laterBars, List.pairwise_map]
      exact (pairwise_hoursOf _).filter _
    · have hle : a.date ≤ t := of_decide_eq_true (List.mem_filter.mp ha).2
      exact hle.trans_lt (mem_laterBars hb).2.1

theorem filter_reached_append_laterBars :
    (summaries.filter (reached t) ++ laterBars tf t coinId).filter (reached t) =
      summaries.filter (reached t) := by
  have hnone : (laterBars tf t coinId).filter (reached t) = [] := by
    rw [List.filter_eq_nil_iff]
    intro s hs hrch
    exact absurd (of_decide_eq_true hrch) (not_le.mpr (mem_laterBars hs).2.1)
  rw [List.filter_append, List.filter_filter, hnone, List.append_nil]
  exact List.filter_congr fun s _ => Bool.and_self _

/-- **An unsettled bucket shows its bar at `t` when its later hours come, and only then.** -/
theorem visible_unsettled (htf : tf ≠ .hourly) (h : HourlySeries coinId summaries)
    (huns : ¬ Settled tf t coinId summaries) :
    ∃ bar, visible tf t (summaries.filter (reached t) ++ laterBars tf t coinId) =
        visible tf t (summaries.filter (reached t)) ++ [bar] ∧
      bar ∉ visible tf t (summaries.filter (reached t)) := by
  rw [Settled, not_or, not_or] at huns
  obtain ⟨hname, hfuture, hpresent⟩ := huns
  push Not at hfuture hpresent
  obtain ⟨later, hlater, hlt⟩ := hfuture
  have hpast := h.filter (reached t)
  have hwhole := hourlySeries_append_laterBars tf t h
  have hkeyLater : ∀ s ∈ laterBars tf t coinId, bucketKey s.date tf = bucketKey t tf :=
    fun s hs => (mem_hoursOf.mp (mem_laterBars hs).2.2).2
  have hsame : beforeBucket tf (bucketKey t tf)
      (summaries.filter (reached t) ++ laterBars tf t coinId) =
        beforeBucket tf (bucketKey t tf) (summaries.filter (reached t)) := by
    have hnone : beforeBucket tf (bucketKey t tf) (laterBars tf t coinId) = [] := by
      rw [beforeBucket, List.filter_eq_nil_iff]
      intro s hs hk
      exact absurd (of_decide_eq_true hk) (hkeyLater s hs ▸ lt_irrefl _)
    rw [beforeBucket, List.filter_append]
    exact (congrArg _ hnone).trans (List.append_nil _)
  -- without the later hours the bucket is incomplete
  have hincomplete : aggregateCoin tf
      (inBucket tf (bucketKey t tf) (summaries.filter (reached t))) = [] := by
    refine (aggregateCoin_bucket htf (hpast.inBucket _).coin
      fun _ hs => key_of_mem_inBucket hs).2 fun hn => ?_
    refine (length_inBucket_lt hpast hlater fun s hs hdate => ?_).not_ge hn.1
    have hle : s.date ≤ t := of_decide_eq_true (List.mem_filter.mp hs).2
    exact absurd (hdate ▸ hlt) (not_lt.mpr hle)
  -- with them it has every hour
  have hcomplete : tf.expectedSize ≤ (inBucket tf (bucketKey t tf)
      (summaries.filter (reached t) ++ laterBars tf t coinId)).length := by
    have hsub : hoursOf tf (bucketKey t tf) ⊆ (inBucket tf (bucketKey t tf)
        (summaries.filter (reached t) ++ laterBars tf t coinId)).map (·.date) := by
      intro hour hhour
      have hk := (mem_hoursOf.mp hhour).2
      by_cases hle : hour ≤ t
      · obtain ⟨s, hs, hdate⟩ := hpresent hour hhour hle
        refine List.mem_map.mpr ⟨s, List.mem_filter.mpr ⟨?_, ?_⟩, hdate⟩
        · exact List.mem_append_left _ (List.mem_filter.mpr ⟨hs, decide_eq_true (hdate ▸ hle)⟩)
        · exact decide_eq_true (hdate ▸ hk)
      · refine List.mem_map.mpr ⟨{ coin := coinId, date := hour, avg := 0, high := 0, low := 0 },
          List.mem_filter.mpr ⟨List.mem_append_right _ (List.mem_map.mpr ⟨hour, ?_, rfl⟩), ?_⟩, rfl⟩
        · exact List.mem_filter.mpr ⟨hhour, decide_eq_true (not_le.mp hle)⟩
        · exact decide_eq_true hk
    have hnodup : (hoursOf tf (bucketKey t tf)).Nodup := (pairwise_hoursOf _).imp ne_of_lt
    have hle := (List.subperm_of_subset hnodup hsub).length_le
    rwa [length_hoursOf, List.length_map] at hle
  obtain ⟨bar, hbar, hdate⟩ := (aggregateCoin_bucket htf (hwhole.inBucket _).coin
    fun _ hs => key_of_mem_inBucket hs).1 ⟨hcomplete, hname⟩
  refine ⟨bar, ?_, fun hmem => ?_⟩
  · rw [visible_eq htf hwhole, visible_eq htf hpast, hsame, hincomplete, List.append_nil, hbar]
  · rw [visible_eq htf hpast, hincomplete, List.append_nil] at hmem
    obtain ⟨s, hs, hold⟩ := date_of_mem_aggregateCoin htf hmem
    have hkey : bucketKey s.date tf < bucketKey t tf := of_decide_eq_true (List.mem_filter.mp hs).2
    exact absurd (hold.symm.trans hdate) (bucketStart_strictMono tf hkey).ne

end Settled

/-- **The higher-timeframe windows at `t` are the same whatever bars come later exactly when every
bucket of `t` is settled.** -/
theorem noLookahead_iff {data : OrdMap CoinId (List PriceSummary)} (hdata : HourlyData data)
    (coins : List Coin) {timestamps : List Instant} {t : Instant} (h : ∀ s ∈ timestamps, s ≤ t) :
    (∀ data', HourlyData data' → AgreeUpTo t data data' → ∀ tf coinId,
        higherWindow data coins timestamps t tf coinId =
          higherWindow data' coins timestamps t tf coinId) ↔
      ∀ tf ∈ HIGHER_TIMEFRAMES, ∀ coinId ∈ coins.map (·.id), ∀ summaries,
        data.get? coinId = some summaries → Settled tf t coinId summaries := by
  have hne : ∀ tf ∈ HIGHER_TIMEFRAMES, tf ≠ .hourly := by decide
  constructor
  · intro hsame tf htf coinId hcoin summaries hget
    by_contra hunsettled
    have hseries := hdata coinId summaries hget
    obtain ⟨bar, hbar, hnew⟩ := visible_unsettled (hne tf htf) hseries hunsettled
    have hwindow : ∀ later : List PriceSummary, HourlySeries coinId later →
        later.filter (reached t) = summaries.filter (reached t) →
        higherWindow data coins timestamps t tf coinId =
          if visible tf t later = [] then none
          else some ((visible tf t later).rtake tf.windowSize) := by
      intro later hlater hagree
      rw [hsame (data.set coinId later) ?_ ?_ tf coinId, higherWindow_eq h,
        if_pos ⟨htf, hcoin⟩, OrdMap.get?_set_self, Option.bind_some]
      · intro c xs hxs
        rw [OrdMap.get?_set] at hxs
        split_ifs at hxs with hc
        · cases hxs
          exact hc ▸ hlater
        · exact hdata c xs hxs
      · intro c
        rw [OrdMap.get?_set]
        split_ifs with hc
        · rw [← hc, hget, Option.map_some, Option.map_some, hagree]
        · rfl
    have hshort := hwindow _ (hseries.filter (reached t))
      (by rw [List.filter_filter]; exact List.filter_congr fun s _ => Bool.and_self _)
    have hlong := hwindow _ (hourlySeries_append_laterBars tf t hseries)
      filter_reached_append_laterBars
    rw [hshort, hbar, if_neg (List.append_ne_nil_of_right_ne_nil _ (List.cons_ne_nil bar []))]
      at hlong
    split_ifs at hlong
    -- the later hours put their bar at the end of the window
    have hlast : bar ∈ (visible tf t (summaries.filter (reached t)) ++ [bar]).rtake
        tf.windowSize := by
      obtain ⟨n, hn⟩ := Nat.exists_eq_succ_of_ne_zero tf.windowSize_pos.ne'
      rw [hn, List.rtake_concat_succ]
      exact List.mem_append_right _ (List.mem_singleton.mpr rfl)
    rw [← Option.some.inj hlong, List.rtake] at hlast
    exact hnew (List.mem_of_mem_drop hlast)
  · intro hsettled data' hdata' hagree tf coinId
    rw [higherWindow_eq h, higherWindow_eq h]
    split_ifs with hactive
    · cases hget : data.get? coinId with
      | none =>
        have hnone := hagree coinId
        rw [hget, Option.map_none] at hnone
        rw [Option.map_eq_none_iff.mp hnone.symm]
      | some summaries =>
        obtain ⟨summaries', hget', hfilter⟩ :=
          Option.map_eq_some_iff.mp ((hagree coinId).symm.trans (by rw [hget, Option.map_some]))
        rw [hget', Option.bind_some, Option.bind_some,
          visible_settled (hne tf hactive.1) (hdata coinId summaries hget)
            (hdata' coinId summaries' hget') hfilter.symm
            (hsettled tf hactive.1 coinId hactive.2 summaries hget)]
    · rfl

def firstHours (n : ℕ) : OrdMap CoinId (List PriceSummary) :=
  OrdMap.empty.set "btc" <| (List.range n).map fun j : ℕ =>
    { coin := "btc", date := j * HOUR_MS, avg := 100, high := 100 + j, low := 100 }

theorem hourlyData_firstHours (n : ℕ) : HourlyData (firstHours n) := by
  intro coinId summaries hget
  rw [firstHours, OrdMap.get?_set] at hget
  split_ifs at hget with hcoin
  · cases hget
    subst hcoin
    refine ⟨?_, ?_, ?_⟩
    · intro s hs
      obtain ⟨j, -, rfl⟩ := List.mem_map.mp hs
      rfl
    · intro s hs
      obtain ⟨j, -, rfl⟩ := List.mem_map.mp hs
      exact Dvd.intro_left _ rfl
    · rw [List.pairwise_map]
      refine List.pairwise_lt_range.imp fun {i j} hij => ?_
      have hcast : (i : ℤ) < j := Int.ofNat_lt.mpr hij
      exact mul_lt_mul_of_pos_right hcast (by decide)
  · cases hget

theorem noLookahead_firstHour :
    (∀ data', HourlyData data' → AgreeUpTo 0 (firstHours 1) data' → ∀ tf coinId,
        higherWindow (firstHours 1) [⟨"btc", "BTC"⟩] [0] 0 tf coinId =
          higherWindow data' [⟨"btc", "BTC"⟩] [0] 0 tf coinId) ↔
      ∀ tf ∈ HIGHER_TIMEFRAMES, ∀ coinId ∈ [(⟨"btc", "BTC"⟩ : Coin)].map (·.id), ∀ summaries,
        (firstHours 1).get? coinId = some summaries → Settled tf 0 coinId summaries :=
  noLookahead_iff (hourlyData_firstHours 1) _ (by decide)

/-- **At 00:00 the bar of the first four hours is visible, with the high of 03:00.** -/
theorem fourHourBar_visible_early :
    (higherWindow (firstHours 4) [⟨"btc", "BTC"⟩] [] 0 .fourHour "btc").map (·.map (·.high)) =
        some [103] ∧
      higherWindow (firstHours 1) [⟨"btc", "BTC"⟩] [] 0 .fourHour "btc" = none ∧
      ¬ ∀ data data', HourlyData data → HourlyData data' → ∀ coins timestamps t,
        (∀ s ∈ timestamps, s ≤ t) → AgreeUpTo t data data' → ∀ tf coinId,
          higherWindow data coins timestamps t tf coinId =
            higherWindow data' coins timestamps t tf coinId := by
  have hfour : (higherWindow (firstHours 4) [⟨"btc", "BTC"⟩] [] 0 .fourHour "btc").map
      (·.map (·.high)) = some [103] := by decide +kernel
  have hone : higherWindow (firstHours 1) [⟨"btc", "BTC"⟩] [] 0 .fourHour "btc" = none := by
    decide +kernel
  refine ⟨hfour, hone, fun h => ?_⟩
  have hagree : AgreeUpTo 0 (firstHours 4) (firstHours 1) := by
    intro coinId
    rw [firstHours, firstHours, OrdMap.get?_set, OrdMap.get?_set]
    split_ifs
    · decide +kernel
    · rfl
  have hsame := h _ _ (hourlyData_firstHours 4) (hourlyData_firstHours 1) [⟨"btc", "BTC"⟩] [] 0
    (by decide) hagree .fourHour "btc"
  rw [hsame, hone] at hfour
  cases hfour

end Chansey
