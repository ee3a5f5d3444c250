import Chansey.Lib.Cells
import Mathlib.Algebra.Order.Field.Basic
import Mathlib.Data.List.ReduceOption
import Mathlib.Tactic.Linarith

/-!
# Histograms of a summary

Hold times and slippages are kept as counts in fixed buckets, with the smallest sample, the largest,
their number and their sum.

* `histogramOf`: what the loop of `buildHistogram` has counted. **`mergeHistograms_build`**: merging
  is concatenating.
-/

namespace Chansey

open Cell

/-! ## Buckets -/

def SUMMARY_HISTOGRAM_VERSION : ℕ := 1

/-- The edges of the buckets. The last edge of the source is `Infinity`, and is not listed. -/
structure BucketEdges where
  first : ℚ
  rest : List ℚ
  increasing : (first :: rest).Pairwise (· < ·)

def BucketEdges.edges (edges : BucketEdges) : List ℚ := edges.first :: edges.rest

def ONE_SEC : ℚ := 1000

def ONE_MIN : ℚ := 60 * ONE_SEC

def ONE_HOUR : ℚ := 60 * ONE_MIN

def ONE_DAY : ℚ := 24 * ONE_HOUR

def HOLD_TIME_BUCKET_EDGES : BucketEdges where
  first := 0
  rest := [ONE_SEC, 10 * ONE_SEC, ONE_MIN, 10 * ONE_MIN, ONE_HOUR, 6 * ONE_HOUR, ONE_DAY,
    3 * ONE_DAY, 7 * ONE_DAY, 14 * ONE_DAY, 30 * ONE_DAY, 60 * ONE_DAY, 100 * ONE_DAY]
  increasing := by decide +kernel

/-- `[lo, hi, count]`, with no `hi` for `Infinity`. -/
structure HistogramBucket where
  lo : ℚ
  hi : Option ℚ
  count : ℕ

def HistogramBucket.cell (bucket : HistogramBucket) : Cell ℚ := ⟨bucket.lo, bucket.hi⟩

structure SummaryHistogram where
  version : ℕ := SUMMARY_HISTOGRAM_VERSION
  buckets : List HistogramBucket
  min : Option ℚ := none
  max : Option ℚ := none
  count : ℕ := 0
  sum : ℚ := 0

def buildEmptyBuckets (edges : BucketEdges) : List HistogramBucket :=
  edges.edges.zipWith (fun lo hi => ⟨lo, hi, 0⟩) (edges.rest.map some ++ [none])

/-! ## Building -/

def countIn (value : ℚ) : List HistogramBucket → List HistogramBucket
  | [] => []
  | bucket :: buckets =>
    if bucket.cell.Contains value then { bucket with count := bucket.count + 1 } :: buckets
    else bucket :: countIn value buckets

def addSample (h : SummaryHistogram) (value : ℚ) : SummaryHistogram :=
  { h with
    buckets := countIn value h.buckets
    min := h.min.merge Min.min (some value)
    max := h.max.merge Max.max (some value)
    count := h.count + 1
    sum := h.sum + value }

/-- A sample that is `null`, `undefined` or not finite is `none`. -/
def buildHistogram (samples : List (Option ℚ)) (edges : BucketEdges) : Option SummaryHistogram :=
  let h := samples.reduceOption.foldl addSample { buckets := buildEmptyBuckets edges }
  if h.count = 0 then none else some h

/-! ## Merging -/

def addBuckets : ℕ → List HistogramBucket → List HistogramBucket →
    Except String (List HistogramBucket)
  | _, [], _ => .ok []
  | _, merged, [] => .ok merged
  | i, t :: merged, b :: buckets =>
    if b.lo ≠ t.lo ∨ b.hi ≠ t.hi then .error s!"Histogram bucket edge mismatch at index {i}"
    else (addBuckets (i + 1) merged buckets).map ({ t with count := t.count + b.count } :: ·)

def addHistogram (merged h : SummaryHistogram) : Except String SummaryHistogram :=
  if h.buckets.length ≠ merged.buckets.length then
    .error (s!"Histogram bucket count mismatch (expected {merged.buckets.length}, " ++
      s!"got {h.buckets.length}) — version bump required")
  else
    (addBuckets 0 merged.buckets h.buckets).map fun buckets =>
      { merged with
        buckets := buckets
        min := merged.min.merge Min.min h.min
        max := merged.max.merge Max.max h.max
        count := merged.count + h.count
        sum := merged.sum + h.sum }

def mergeHistograms (histograms : List (Option SummaryHistogram)) :
    Except String (Option SummaryHistogram) :=
  let valid := histograms.reduceOption.filter (·.version = SUMMARY_HISTOGRAM_VERSION)
  match valid.head? with
  | none => .ok none
  | some template =>
    (valid.foldlM addHistogram { buckets := template.buckets.map ({ · with count := 0 }) }).map
      fun merged => if merged.count = 0 then none else some merged

/-! ## Percentiles -/

def percentileScan (max : Option ℚ) (target : ℚ) : ℕ → List HistogramBucket → Option ℚ
  | _, [] => max
  | cumulative, bucket :: buckets =>
    if bucket.count = 0 then percentileScan max target cumulative buckets
    else if target ≤ cumulative + bucket.count then
      let fraction := (target - cumulative) / bucket.count
      let upper := bucket.hi.getD (max.getD bucket.lo)
      some (bucket.lo + fraction * (upper - bucket.lo))
    else percentileScan max target (cumulative + bucket.count) buckets

def percentileFromHistogram (histogram : Option SummaryHistogram) (percentile : ℚ) : Option ℚ :=
  match histogram with
  | none => none
  | some h =>
    let p := Max.max 0 (Min.min 1 percentile)
    if h.count = 0 then none
    else if p ≤ 0 then h.min
    else if 1 ≤ p then h.max
    else percentileScan h.max (p * h.count) 0 h.buckets

/-! ## What the loops count -/

def extreme (pick : ℚ → ℚ → ℚ) (values : List ℚ) : Option ℚ :=
  (values.map some).foldl (Option.merge pick) none

def bucketOf (values : List ℚ) (c : Cell ℚ) : HistogramBucket := ⟨c.lo, c.hi, tally values c⟩

@[simp] theorem bucketOf_cell (values : List ℚ) (c : Cell ℚ) : (bucketOf values c).cell = c := rfl

def histogramOf (edges : BucketEdges) (values : List ℚ) : SummaryHistogram where
  buckets := (cells edges.edges).map (bucketOf values)
  min := extreme min values
  max := extreme max values
  count := values.length
  sum := values.sum

section Counting

variable {edges : BucketEdges} {xs ys : List ℚ} {value : ℚ}

theorem extreme_concat (pick : ℚ → ℚ → ℚ) (values : List ℚ) (value : ℚ) :
    extreme pick (values ++ [value]) = (extreme pick values).merge pick (some value) := by
  rw [extreme, List.map_append, List.foldl_append]
  rfl

theorem extreme_append (pick : ℚ → ℚ → ℚ) [Std.Associative pick] (xs ys : List ℚ) :
    extreme pick (xs ++ ys) = (extreme pick xs).merge pick (extreme pick ys) := by
  rw [extreme, List.map_append, List.foldl_append]
  conv_lhs =>
    arg 2
    rw [← @Option.merge_none_right _ pick ((xs.map some).foldl (Option.merge pick) none)]
  exact List.foldl_assoc

theorem extreme_append_comm (pick : ℚ → ℚ → ℚ) [Std.Associative pick] [Std.Commutative pick]
    (xs ys : List ℚ) : extreme pick (xs ++ ys) = extreme pick (ys ++ xs) := by
  rw [extreme_append, extreme_append]
  exact Std.Commutative.comm _ _

theorem isLeast_extreme (hne : xs ≠ []) : ∃ m, extreme min xs = some m ∧ IsLeast {x | x ∈ xs} m := by
  induction xs using List.reverseRecOn with
  | nil => exact absurd rfl hne
  | append_singleton xs value ih =>
    rw [extreme_concat]
    by_cases hxs : xs = []
    · subst hxs
      refine ⟨value, rfl, List.mem_singleton_self _, fun x hx => ?_⟩
      exact (List.mem_singleton.mp hx).ge
    · obtain ⟨m, hm, hmem, hle⟩ := ih hxs
      refine ⟨min m value, by rw [hm]; rfl, ?_, fun x hx => ?_⟩
      · rcases min_choice m value with h | h <;> rw [h]
        · exact List.mem_append_left _ hmem
        · exact List.mem_append_right _ (List.mem_singleton_self _)
      · rcases List.mem_append.mp hx with hx | hx
        · exact (min_le_left _ _).trans (hle hx)
        · exact (min_le_right _ _).trans (List.mem_singleton.mp hx).ge

theorem isGreatest_extreme (hne : xs ≠ []) :
    ∃ m, extreme max xs = some m ∧ IsGreatest {x | x ∈ xs} m := by
  induction xs using List.reverseRecOn with
  | nil => exact absurd rfl hne
  | append_singleton xs value ih =>
    rw [extreme_concat]
    by_cases hxs : xs = []
    · subst hxs
      refine ⟨value, rfl, List.mem_singleton_self _, fun x hx => ?_⟩
      exact (List.mem_singleton.mp hx).le
    · obtain ⟨m, hm, hmem, hle⟩ := ih hxs
      refine ⟨max m value, by rw [hm]; rfl, ?_, fun x hx => ?_⟩
      · rcases max_choice m value with h | h <;> rw [h]
        · exact List.mem_append_left _ hmem
        · exact List.mem_append_right _ (List.mem_singleton_self _)
      · rcases List.mem_append.mp hx with hx | hx
        · exact (hle hx).trans (le_max_left _ _)
        · exact (List.mem_singleton.mp hx).le.trans (le_max_right _ _)

theorem buildEmptyBuckets_eq (edges : BucketEdges) :
    buildEmptyBuckets edges = (cells edges.edges).map (bucketOf []) := by
  rw [cells, List.map_zipWith]
  rfl

theorem countIn_map {cs : List (Cell ℚ)} (h : cs.Pairwise fun c d => ∃ e, c.hi = some e ∧ e ≤ d.lo) :
    countIn value (cs.map (bucketOf xs)) = cs.map (bucketOf (xs ++ [value])) := by
  induction cs with
  | nil => rfl
  | cons c cs ih =>
    rw [List.pairwise_cons] at h
    rw [List.map_cons, List.map_cons, countIn]
    have htally : bucketOf (xs ++ [value]) c = ⟨c.lo, c.hi, tally xs c + tally [value] c⟩ := by
      rw [bucketOf, tally_append]
    by_cases hc : c.Contains value
    · have hoths : ∀ d ∈ cs, bucketOf (xs ++ [value]) d = bucketOf xs d := by
        intro d hd
        obtain ⟨e, he, hle⟩ := h.1 d hd
        have hout : ¬d.Contains value := fun hd => absurd (hle.trans hd.1) (not_le.mpr (hc.2 e he))
        have hzero : tally [value] d = 0 := by simp [tally, hout]
        rw [bucketOf, tally_append, hzero]
        rfl
      have hone : tally [value] c = 1 := by simp [tally, hc]
      rw [bucketOf_cell, if_pos hc, htally, hone, List.map_congr_left hoths]
      rfl
    · have hzero : tally [value] c = 0 := by simp [tally, hc]
      rw [bucketOf_cell, if_neg hc, htally, hzero, ih h.2]
      rfl

theorem foldl_addSample (edges : BucketEdges) (values : List ℚ) :
    values.foldl addSample { buckets := buildEmptyBuckets edges } = histogramOf edges values := by
  induction values using List.reverseRecOn with
  | nil => rw [buildEmptyBuckets_eq]; rfl
  | append_singleton values value ih =>
    have hbuckets : countIn value (histogramOf edges values).buckets =
        (histogramOf edges (values ++ [value])).buckets :=
      countIn_map (cells_pairwise edges.increasing)
    rw [List.foldl_append, ih, List.foldl_cons, List.foldl_nil, addSample, hbuckets]
    simp only [histogramOf, extreme_concat, List.length_append, List.length_singleton,
      List.sum_append, List.sum_singleton]

theorem buildHistogram_eq (samples : List (Option ℚ)) (edges : BucketEdges) :
    buildHistogram samples edges =
      if samples.reduceOption = [] then none else some (histogramOf edges samples.reduceOption) := by
  rw [buildHistogram, foldl_addSample]
  exact if_congr List.length_eq_zero_iff rfl rfl

theorem addBuckets_map (cs : List (Cell ℚ)) (i : ℕ) :
    addBuckets i (cs.map (bucketOf xs)) (cs.map (bucketOf ys)) =
      .ok (cs.map (bucketOf (xs ++ ys))) := by
  induction cs generalizing i with
  | nil => rfl
  | cons c cs ih =>
    have hedges : ¬((bucketOf ys c).lo ≠ (bucketOf xs c).lo ∨ (bucketOf ys c).hi ≠
        (bucketOf xs c).hi) := by
      rintro (h | h) <;> exact h rfl
    have hbucket : bucketOf (xs ++ ys) c =
        { bucketOf xs c with count := (bucketOf xs c).count + (bucketOf ys c).count } := by
      rw [bucketOf, tally_append]
      rfl
    rw [List.map_cons, List.map_cons, List.map_cons, addBuckets, if_neg hedges, ih, hbucket]
    rfl

theorem addHistogram_histogramOf (edges : BucketEdges) (xs ys : List ℚ) :
    addHistogram (histogramOf edges xs) (histogramOf edges ys) =
      .ok (histogramOf edges (xs ++ ys)) := by
  have hlen : (histogramOf edges ys).buckets.length = (histogramOf edges xs).buckets.length := by
    simp [histogramOf]
  have hbuckets : addBuckets 0 (histogramOf edges xs).buckets (histogramOf edges ys).buckets =
      .ok (histogramOf edges (xs ++ ys)).buckets := addBuckets_map _ 0
  rw [addHistogram, if_neg (not_not.mpr hlen), hbuckets]
  refine congrArg Except.ok ?_
  rw [histogramOf, histogramOf, histogramOf, extreme_append, extreme_append, List.length_append,
    List.sum_append]

theorem foldlM_addHistogram (edges : BucketEdges) (values : List ℚ) (lists : List (List ℚ)) :
    (lists.map (histogramOf edges)).foldlM addHistogram (histogramOf edges values) =
      .ok (histogramOf edges (values ++ lists.flatten)) := by
  induction lists generalizing values with
  | nil => rw [List.flatten_nil, List.append_nil]; rfl
  | cons xs lists ih =>
    rw [List.map_cons, List.foldlM_cons, addHistogram_histogramOf, List.flatten_cons,
      ← List.append_assoc]
    exact ih (values ++ xs)

theorem template_histogramOf (edges : BucketEdges) (values : List ℚ) :
    ({ buckets := (histogramOf edges values).buckets.map ({ · with count := 0 }) } :
      SummaryHistogram) = histogramOf edges [] := by
  rw [histogramOf, histogramOf, List.map_map]
  rfl

theorem mergeHistograms_build (edges : BucketEdges) (lists : List (List (Option ℚ))) :
    mergeHistograms (lists.map (buildHistogram · edges)) =
      .ok (buildHistogram lists.flatten edges) := by
  have hvalid : ((lists.map (buildHistogram · edges)).reduceOption.filter
      (·.version = SUMMARY_HISTOGRAM_VERSION)) =
      ((lists.map List.reduceOption).filter fun l => l ≠ []).map (histogramOf edges) := by
    induction lists with
    | nil => rfl
    | cons samples lists ih =>
      rw [List.map_cons, buildHistogram_eq, List.map_cons]
      by_cases hnil : samples.reduceOption = []
      · rw [if_pos hnil, List.reduceOption_cons_of_none, ih,
          List.filter_cons_of_neg (by simp [hnil])]
      · rw [if_neg hnil, List.reduceOption_cons_of_some, List.filter_cons_of_pos (by rfl), ih,
          List.filter_cons_of_pos (by simp [hnil]), List.map_cons]
  have hflatten : ((lists.map List.reduceOption).filter fun l => l ≠ []).flatten =
      lists.flatten.reduceOption := by
    rw [List.flatten_filter_ne_nil, List.reduceOption, List.filterMap_flatten]
  have hne : ∀ l ∈ (lists.map List.reduceOption).filter fun l => l ≠ [], l ≠ [] := fun l hl => by
    simpa using (List.mem_filter.mp hl).2
  rw [mergeHistograms, hvalid, buildHistogram_eq, ← hflatten]
  generalize (lists.map List.reduceOption).filter (fun l => l ≠ []) = full at hne
  cases full with
  | nil => rfl
  | cons values others =>
    have hflat : (values :: others).flatten ≠ [] := by
      rw [List.flatten_cons]
      exact List.append_ne_nil_of_left_ne_nil (hne values List.mem_cons_self) _
    rw [if_neg hflat, List.map_cons, List.head?_cons]
    change Except.map _ (List.foldlM addHistogram { buckets := _ } _) = _
    rw [template_histogramOf, ← List.map_cons, foldlM_addHistogram, List.nil_append]
    exact congrArg Except.ok (if_neg (mt List.length_eq_zero_iff.mp hflat))

end Counting

/-! ## What is estimated -/

def upper (highest : Option ℚ) (c : Cell ℚ) : ℚ := c.hi.getD (highest.getD c.lo)

def estimate (values : List ℚ) (highest : Option ℚ) (target : ℚ) (c : Cell ℚ) : ℚ :=
  c.lo + (target - rank values (some c.lo)) / tally values c * (upper highest c - c.lo)

def FallsIn (values : List ℚ) (target : ℚ) (c : Cell ℚ) : Prop :=
  rank values (some c.lo) < target ∧ target ≤ rank values c.hi

section Estimating

variable {edges : BucketEdges} {values : List ℚ} {highest : Option ℚ} {target : ℚ} {c d : Cell ℚ}
  {cs : List (Cell ℚ)}

theorem rank_lo_add_tally_of_mem (hc : c ∈ cells edges.edges) :
    rank values (some c.lo) + tally values c = rank values c.hi :=
  rank_lo_add_tally fun e he => (lo_lt_hi edges.increasing hc e he).le

theorem FallsIn.tally_pos (h : FallsIn values target c) (hc : c ∈ cells edges.edges) :
    0 < tally values c := by
  have hlt : rank values (some c.lo) < rank values c.hi := by exact_mod_cast h.1.trans_le h.2
  have hsum := @rank_lo_add_tally_of_mem edges values c hc
  omega

theorem FallsIn.exists_mem (h : FallsIn values target c) (hc : c ∈ cells edges.edges) :
    ∃ x ∈ values, c.Contains x := by
  obtain ⟨x, hx, hin⟩ := List.countP_pos_iff.mp (h.tally_pos hc)
  exact ⟨x, hx, of_decide_eq_true hin⟩

theorem percentileScan_of_fallsIn (hc : c ∈ cells edges.edges) (h : FallsIn values target c)
    (cs : List (Cell ℚ)) :
    percentileScan highest target (rank values (some c.lo)) ((c :: cs).map (bucketOf values)) =
      some (estimate values highest target c) := by
  have htally := h.tally_pos hc
  have hrch : target ≤ rank values (some c.lo) + (bucketOf values c).count := by
    have hsum := @rank_lo_add_tally_of_mem edges values c hc
    have hcast : (rank values c.hi : ℚ) = rank values (some c.lo) + tally values c := by
      exact_mod_cast hsum.symm
    exact h.2.trans_eq hcast
  have hcount : (bucketOf values c).count ≠ 0 := htally.ne'
  rw [List.map_cons, percentileScan, if_neg hcount, if_pos hrch]
  rfl

theorem percentileScan_of_lt (hc : c ∈ cells edges.edges) (h : rank values c.hi < target) :
    percentileScan highest target (rank values (some c.lo)) ((c :: cs).map (bucketOf values)) =
      percentileScan highest target (rank values c.hi) (cs.map (bucketOf values)) := by
  have hsum := @rank_lo_add_tally_of_mem edges values c hc
  have hcount : (bucketOf values c).count = tally values c := rfl
  rw [List.map_cons, percentileScan, hcount]
  by_cases hzero : tally values c = 0
  · rw [if_pos hzero, ← hsum, hzero, Nat.add_zero]
  · have hpast : ¬target ≤ rank values (some c.lo) + tally values c := by
      have hcast : (rank values (some c.lo) : ℚ) + tally values c = rank values c.hi := by
        exact_mod_cast hsum
      rw [hcast]
      exact not_le.mpr h
    rw [if_neg hzero, if_neg hpast, hsum]

theorem percentileScan_cells (htgt : target ≤ values.length) (edge : ℚ) (rest : List ℚ)
    (hcells : ∀ c ∈ cells (edge :: rest), c ∈ cells edges.edges)
    (hedge : rank values (some edge) < target) :
    ∃ c ∈ cells (edge :: rest), FallsIn values target c ∧
      percentileScan highest target (rank values (some edge))
        ((cells (edge :: rest)).map (bucketOf values)) = some (estimate values highest target c) := by
  induction rest generalizing edge with
  | nil =>
    have hfalls : FallsIn values target ⟨edge, none⟩ := ⟨hedge, by rwa [rank_none]⟩
    have hmem : (⟨edge, none⟩ : Cell ℚ) ∈ cells [edge] := List.mem_singleton_self _
    exact ⟨_, hmem, hfalls, percentileScan_of_fallsIn (hcells _ hmem) hfalls []⟩
  | cons next rest ih =>
    rw [cells_cons_cons] at hcells ⊢
    have hmem := hcells _ List.mem_cons_self
    by_cases hrch : target ≤ rank values (some next)
    · have hfalls : FallsIn values target ⟨edge, some next⟩ := ⟨hedge, hrch⟩
      exact ⟨_, List.mem_cons_self, hfalls, percentileScan_of_fallsIn hmem hfalls _⟩
    · obtain ⟨c, hc, hfalls, hscan⟩ := ih next (fun c hc => hcells c (List.mem_cons_of_mem _ hc))
        (not_le.mp hrch)
      refine ⟨c, List.mem_cons_of_mem _ hc, hfalls, ?_⟩
      exact (percentileScan_of_lt hmem (not_le.mp hrch)).trans hscan

theorem lo_le_upper (hc : c ∈ cells edges.edges) (h : FallsIn values target c)
    (hhighest : ∀ x ∈ values, ∃ m, highest = some m ∧ x ≤ m) : c.lo ≤ upper highest c := by
  cases hhi : c.hi with
  | none =>
    obtain ⟨x, hx, hin⟩ := h.exists_mem hc
    obtain ⟨m, hm, hle⟩ := hhighest x hx
    rw [upper, hhi, hm]
    exact hin.1.trans hle
  | some e =>
    rw [upper, hhi]
    exact (lo_lt_hi edges.increasing hc e hhi).le

theorem estimate_mem (hc : c ∈ cells edges.edges) (h : FallsIn values target c)
    (hle : c.lo ≤ upper highest c) :
    c.lo ≤ estimate values highest target c ∧
      estimate values highest target c ≤ upper highest c := by
  have hpos : (0 : ℚ) < tally values c := by exact_mod_cast h.tally_pos hc
  have hsum : (rank values (some c.lo) : ℚ) + tally values c = rank values c.hi := by
    exact_mod_cast rank_lo_add_tally_of_mem hc
  have hlow : 0 ≤ (target - rank values (some c.lo)) / tally values c :=
    div_nonneg (sub_nonneg.mpr h.1.le) hpos.le
  have hhigh : (target - rank values (some c.lo)) / tally values c ≤ 1 := by
    rw [div_le_one hpos]
    linarith [h.2]
  have hwidth : 0 ≤ upper highest c - c.lo := sub_nonneg.mpr hle
  have hpart := mul_nonneg hlow hwidth
  have hwhole := mul_le_mul_of_nonneg_right hhigh hwidth
  unfold estimate
  constructor <;> linarith

theorem estimate_le_estimate {target' : ℚ} (hc : c ∈ cells edges.edges)
    (hd : d ∈ cells edges.edges) (hle : target ≤ target') (h : FallsIn values target c)
    (h' : FallsIn values target' d) (hhighest : ∀ x ∈ values, ∃ m, highest = some m ∧ x ≤ m) :
    estimate values highest target c ≤ estimate values highest target' d := by
  have hupper := lo_le_upper hc h hhighest
  by_cases hcd : c = d
  · subst hcd
    have hpos : (0 : ℚ) < tally values c := by exact_mod_cast h.tally_pos hc
    have hfrac : (target - rank values (some c.lo)) / tally values c ≤
        (target' - rank values (some c.lo)) / tally values c :=
      div_le_div_of_nonneg_right (sub_le_sub_right hle _) hpos.le
    exact add_le_add_right (mul_le_mul_of_nonneg_right hfrac (sub_nonneg.mpr hupper)) _
  · -- the cells are in order, so one of them ends before the other begins
    rcases cells_separate edges.increasing hc hd hcd with ⟨e, he, hed⟩ | ⟨e, he, hec⟩
    · have hlast := (estimate_mem hc h hupper).2
      have hfirst := (estimate_mem hd h' (lo_le_upper hd h' hhighest)).1
      rw [upper, he, Option.getD_some] at hlast
      exact hlast.trans (hed.trans hfirst)
    · have hback := h'.2
      rw [he] at hback
      have hrank : (rank values (some e) : ℚ) ≤ rank values (some c.lo) := by
        exact_mod_cast rank_some_mono hec
      linarith [h.1]

end Estimating

/-! ## The laws -/

/-- Merging is concatenating, so its order does not matter and the empty histogram adds nothing. -/
structure MergeLaws (edges : BucketEdges) : Prop where
  concatenates : ∀ lists : List (List (Option ℚ)), mergeHistograms (lists.map (buildHistogram · edges)) =
    .ok (buildHistogram lists.flatten edges)
  assoc : ∀ xs ys zs xys yzs,
    mergeHistograms [buildHistogram xs edges, buildHistogram ys edges] = .ok xys →
    mergeHistograms [buildHistogram ys edges, buildHistogram zs edges] = .ok yzs →
    mergeHistograms [xys, buildHistogram zs edges] = mergeHistograms [buildHistogram xs edges, yzs]
  comm : ∀ xs ys, mergeHistograms [buildHistogram xs edges, buildHistogram ys edges] =
    mergeHistograms [buildHistogram ys edges, buildHistogram xs edges]
  empty : ∀ xs, mergeHistograms [none, buildHistogram xs edges] = .ok (buildHistogram xs edges) ∧
    mergeHistograms [buildHistogram xs edges, none] = .ok (buildHistogram xs edges)

/-- The percentiles of a histogram: the smallest sample and the largest at the ends, and between
them what rises with the percentile and stays in the bucket of the sample of that rank. -/
structure PercentileLaws (edges : BucketEdges) (values : List ℚ) (h : SummaryHistogram) : Prop where
  lowest : ∃ m, IsLeast {x | x ∈ values} m ∧ ∀ p ≤ 0, percentileFromHistogram (some h) p = some m
  highest : ∃ m, IsGreatest {x | x ∈ values} m ∧
    ∀ p ≥ 1, percentileFromHistogram (some h) p = some m
  rises : ∀ p q x y, 0 < p → p ≤ q → q < 1 → percentileFromHistogram (some h) p = some x →
    percentileFromHistogram (some h) q = some y → x ≤ y
  stays : ∀ p, 0 < p → p < 1 → ∃ x, percentileFromHistogram (some h) p = some x ∧
    ∃ c ∈ cells edges.edges, (∃ sample ∈ values, c.Contains sample) ∧
      rank values (some c.lo) < p * values.length ∧ p * values.length ≤ rank values c.hi ∧
      c.lo ≤ x ∧ ∃ top, c.hi.or h.max = some top ∧ x ≤ top

section Laws

variable {edges : BucketEdges} {values : List ℚ}

theorem buildHistogram_append_comm (xs ys : List (Option ℚ)) :
    buildHistogram (xs ++ ys) edges = buildHistogram (ys ++ xs) edges := by
  have hswap : ∀ xs ys : List ℚ, histogramOf edges (xs ++ ys) = histogramOf edges (ys ++ xs) := by
    intro xs ys
    have hbuckets : bucketOf (xs ++ ys) = bucketOf (ys ++ xs) := by
      funext c
      rw [bucketOf, bucketOf, tally_append, tally_append, Nat.add_comm]
    rw [histogramOf, histogramOf, hbuckets, extreme_append_comm min, extreme_append_comm max,
      List.length_append, List.length_append, Nat.add_comm, List.sum_append, List.sum_append,
      add_comm xs.sum]
  have hnil : (xs ++ ys).reduceOption = [] ↔ (ys ++ xs).reduceOption = [] := by
    rw [List.reduceOption_append, List.reduceOption_append, List.append_eq_nil_iff,
      List.append_eq_nil_iff, and_comm]
  rw [buildHistogram_eq, buildHistogram_eq, if_congr hnil rfl rfl, List.reduceOption_append,
    List.reduceOption_append, hswap]

theorem mergeLaws (edges : BucketEdges) : MergeLaws edges := by
  have hpair : ∀ xs ys, mergeHistograms [buildHistogram xs edges, buildHistogram ys edges] =
      .ok (buildHistogram (xs ++ ys) edges) := by
    intro xs ys
    have h := mergeHistograms_build edges [xs, ys]
    rwa [List.flatten_cons, List.flatten_singleton] at h
  refine ⟨mergeHistograms_build edges, fun xs ys zs xys yzs hxys hyzs => ?_, fun xs ys => ?_,
    fun xs => ⟨?_, ?_⟩⟩
  · rw [hpair] at hxys hyzs
    rw [← Except.ok.inj hxys, ← Except.ok.inj hyzs, hpair, hpair, List.append_assoc]
  · rw [hpair, hpair, buildHistogram_append_comm]
  · exact hpair [] xs
  · have h := hpair xs []
    rwa [List.append_nil] at h

theorem percentileFromHistogram_of_mem {p : ℚ} (hne : values ≠ []) (hpos : 0 < p) (hlt : p < 1) :
    percentileFromHistogram (some (histogramOf edges values)) p =
      percentileScan (extreme max values) (p * values.length) 0
        ((cells edges.edges).map (bucketOf values)) := by
  have hcount : (histogramOf edges values).count ≠ 0 := mt List.length_eq_zero_iff.mp hne
  have hclamp : max 0 (min 1 p) = p := by rw [min_eq_right hlt.le, max_eq_right hpos.le]
  simp only [percentileFromHistogram, hclamp, if_neg hcount, if_neg (not_le.mpr hpos),
    if_neg (not_le.mpr hlt)]
  rfl

theorem exists_estimate {p : ℚ} (hfirst : ∀ x ∈ values, edges.first ≤ x) (hne : values ≠ [])
    (hpos : 0 < p) (hlt : p < 1) :
    ∃ c ∈ cells edges.edges, FallsIn values (p * values.length) c ∧
      percentileFromHistogram (some (histogramOf edges values)) p =
        some (estimate values (extreme max values) (p * values.length) c) := by
  have hlen : (0 : ℚ) < values.length := by exact_mod_cast List.length_pos_iff.mpr hne
  have hle : p * values.length ≤ values.length := mul_le_of_le_one_left hlen.le hlt.le
  have hstart : (rank values (some edges.first) : ℚ) < p * values.length := by
    rw [rank_eq_zero hfirst, Nat.cast_zero]
    exact mul_pos hpos hlen
  obtain ⟨c, hc, hfalls, hscan⟩ := @percentileScan_cells edges values (extreme max values) _ hle
    edges.first edges.rest (fun c hc => hc) hstart
  refine ⟨c, hc, hfalls, ?_⟩
  rw [rank_eq_zero hfirst] at hscan
  rw [percentileFromHistogram_of_mem hne hpos hlt]
  exact hscan

theorem percentileLaws (hfirst : ∀ x ∈ values, edges.first ≤ x) (hne : values ≠ []) :
    PercentileLaws edges values (histogramOf edges values) := by
  obtain ⟨least, hleast, hisLeast⟩ := isLeast_extreme hne
  obtain ⟨greatest, hgr, hisGreatest⟩ := isGreatest_extreme hne
  have hcount : (histogramOf edges values).count ≠ 0 := mt List.length_eq_zero_iff.mp hne
  have hhighest : ∀ x ∈ values, ∃ m, extreme max values = some m ∧ x ≤ m := fun x hx =>
    ⟨greatest, hgr, hisGreatest.2 hx⟩
  refine ⟨⟨least, hisLeast, fun p hp => ?_⟩, ⟨greatest, hisGreatest, fun p hp => ?_⟩,
    fun p q x y hp hpq hq hx hy => ?_, fun p hp hp1 => ?_⟩
  · have hclamp : max 0 (min 1 p) ≤ 0 := max_le le_rfl ((min_le_right _ _).trans hp)
    simp only [percentileFromHistogram, if_neg hcount, if_pos hclamp]
    exact hleast
  · have hclamp : max 0 (min 1 p) = 1 := by rw [min_eq_left hp, max_eq_right zero_le_one]
    simp only [percentileFromHistogram, hclamp, if_neg hcount, if_neg (not_le.mpr one_pos),
      if_pos le_rfl]
    exact hgr
  · obtain ⟨c, hc, hfalls, hestimate⟩ := exists_estimate hfirst hne hp (hpq.trans_lt hq)
    obtain ⟨d, hd, hfalls', hestimate'⟩ := exists_estimate hfirst hne (hp.trans_le hpq) hq
    rw [← Option.some.inj (hestimate.symm.trans hx), ← Option.some.inj (hestimate'.symm.trans hy)]
    have hle : p * values.length ≤ q * values.length :=
      mul_le_mul_of_nonneg_right hpq (Nat.cast_nonneg _)
    exact estimate_le_estimate hc hd hle hfalls hfalls' hhighest
  · obtain ⟨c, hc, hfalls, hestimate⟩ := exists_estimate hfirst hne hp hp1
    obtain ⟨hlow, hhigh⟩ := estimate_mem hc hfalls (lo_le_upper hc hfalls hhighest)
    refine ⟨_, hestimate, c, hc, hfalls.exists_mem hc, hfalls.1, hfalls.2, hlow, _, ?_, hhigh⟩
    have hmax : (histogramOf edges values).max = some greatest := hgr
    rw [hmax, upper, hgr]
    cases c.hi <;> rfl

/-- **A histogram loses no sample, merges as its samples concatenate, and estimates a percentile
within the bucket of the sample of that rank.** -/
theorem buildHistogram_laws (edges : BucketEdges) :
    MergeLaws edges ∧
      ∀ samples h, (∀ x ∈ samples.reduceOption, edges.first ≤ x) →
        buildHistogram samples edges = some h →
        (h.buckets.map (·.count)).sum = h.count ∧ h.count = samples.reduceOption.length ∧
          PercentileLaws edges samples.reduceOption h := by
  refine ⟨mergeLaws edges, fun samples h hfirst hbuilt => ?_⟩
  rw [buildHistogram_eq] at hbuilt
  by_cases hne : samples.reduceOption = []
  · rw [if_pos hne] at hbuilt
    cases hbuilt
  · rw [if_neg hne] at hbuilt
    cases hbuilt
    refine ⟨?_, rfl, percentileLaws hfirst hne⟩
    have hsum := @sum_tally ℚ _ samples.reduceOption _ _ edges.increasing
    rw [rank_eq_zero hfirst, Nat.zero_add] at hsum
    rw [histogramOf, List.map_map]
    exact hsum

theorem buildHistogram_laws_fourTrades :
    let h := histogramOf HOLD_TIME_BUCKET_EDGES [500, 90000, 700, 5000]
    buildHistogram [some 500, none, some 90000, some 700, some 5000] HOLD_TIME_BUCKET_EDGES =
        some h ∧
      (h.buckets.map (·.count)).sum = 4 ∧
      PercentileLaws HOLD_TIME_BUCKET_EDGES [500, 90000, 700, 5000] h := by
  intro h
  have hbuilt : buildHistogram [some 500, none, some 90000, some 700, some 5000]
      HOLD_TIME_BUCKET_EDGES = some h := buildHistogram_eq _ _
  have hfirst : ∀ x ∈ [some (500 : ℚ), none, some 90000, some 700, some 5000].reduceOption,
      HOLD_TIME_BUCKET_EDGES.first ≤ x := by decide +kernel
  obtain ⟨hsum, hcount, hlaws⟩ := (buildHistogram_laws HOLD_TIME_BUCKET_EDGES).2 _ _ hfirst hbuilt
  exact ⟨hbuilt, hsum.trans hcount, hlaws⟩

theorem estimate_passes_max :
    ¬∀ samples h p x, buildHistogram samples HOLD_TIME_BUCKET_EDGES = some h →
      percentileFromHistogram (some h) p = some x → ∃ m, h.max = some m ∧ x ≤ m := by
  intro hclaim
  have hbuilt : buildHistogram [some 500] HOLD_TIME_BUCKET_EDGES =
      some (histogramOf HOLD_TIME_BUCKET_EDGES [500]) := buildHistogram_eq _ _
  have hestimate : percentileFromHistogram (some (histogramOf HOLD_TIME_BUCKET_EDGES [500]))
      (99 / 100) = some 990 := by decide +kernel
  obtain ⟨m, hm, hle⟩ := hclaim _ _ _ _ hbuilt hestimate
  have hmax : (histogramOf HOLD_TIME_BUCKET_EDGES [500]).max = some 500 := rfl
  rw [hmax] at hm
  rw [← Option.some.inj hm] at hle
  exact absurd hle (by norm_num)

end Laws

end Chansey
