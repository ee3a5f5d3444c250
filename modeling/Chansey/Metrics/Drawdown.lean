import Chansey.Lib.Falls
import Mathlib.Tactic.Linarith
import Mathlib.Tactic.Positivity

/-!
# Drawdown analysis

One pass over an equity curve keeps the highest value so far, and the largest drawdown from it in
units of the curve.
-/

namespace Chansey

open Falls

/-! ## The calculator -/

structure DrawdownResult where
  maxDrawdown : ℚ := 0
  maxDrawdownPercentage : ℚ := 0
  currentDrawdown : ℚ := 0
  currentDrawdownPercentage : ℚ := 0
  drawdownDuration : ℤ := 0
  peakDate : Option ℕ := none
  troughDate : Option ℕ := none
  recoveryDate : Option ℕ := none

structure DrawdownScan where
  maxDrawdown : ℚ := 0
  maxDrawdownPercentage : ℚ := 0
  peak : ℚ
  peakIndex : ℕ := 0
  troughIndex : ℕ := 0
  currentDrawdown : ℚ := 0

/-- The relative measure is taken where the absolute one is largest, and the trough with it. -/
def drawdownStep (scan : DrawdownScan) (entry : ℚ × ℕ) : DrawdownScan :=
  let value := entry.1
  let i := entry.2
  let peak := if scan.peak < value then value else scan.peak
  let peakIndex := if scan.peak < value then i else scan.peakIndex
  let drawdown := peak - value
  let drawdownPercentage := if peak ≠ 0 then drawdown / peak * 100 else 0
  let advanced := { scan with peak := peak, peakIndex := peakIndex, currentDrawdown := drawdown }
  if scan.maxDrawdown < drawdown then
    { advanced with
      maxDrawdown := drawdown
      maxDrawdownPercentage := drawdownPercentage
      troughIndex := i }
  else advanced

def drawdownScan (first : ℚ) (rest : List ℚ) : DrawdownScan :=
  (rest.zipIdx 1).foldl drawdownStep { peak := first }

def calculateMaxDrawdown (cumulativeReturns : List ℚ) : DrawdownResult :=
  match cumulativeReturns with
  | [] => {}
  | first :: rest =>
    let scan := drawdownScan first rest
    let currentValue := rest.getLast?.getD first
    let currentDrawdownPercentage :=
      if scan.peak ≠ 0 then (scan.peak - currentValue) / scan.peak * 100 else 0
    { maxDrawdown := scan.maxDrawdown
      maxDrawdownPercentage := scan.maxDrawdownPercentage
      currentDrawdown := scan.currentDrawdown
      currentDrawdownPercentage := max 0 currentDrawdownPercentage
      drawdownDuration := scan.troughIndex - scan.peakIndex
      peakDate := some scan.peakIndex
      troughDate := some scan.troughIndex
      recoveryDate := if scan.peak ≤ currentValue then some rest.length else none }

structure UnderwaterScan where
  peak : ℚ
  underwater : List ℚ := []

def underwaterStep (scan : UnderwaterScan) (value : ℚ) : UnderwaterScan :=
  let peak := if scan.peak < value then value else scan.peak
  let drawdown := if peak ≠ 0 then (peak - value) / peak * 100 else 0
  { peak := peak, underwater := scan.underwater ++ [-drawdown] }

def calculateUnderwaterPlot (cumulativeReturns : List ℚ) : List ℚ :=
  match cumulativeReturns with
  | [] => []
  | first :: _ => (cumulativeReturns.foldl underwaterStep { peak := first }).underwater

/-! ## What the passes know -/

section Passes

variable {values : List ℚ} {peak value : ℚ}

structure PeakOf (values : List ℚ) (peak : ℚ) : Prop where
  mem : peak ∈ values
  highest : ∀ x ∈ values, x ≤ peak

theorem PeakOf.concat (h : PeakOf values peak) (value : ℚ) :
    PeakOf (values ++ [value]) (if peak < value then value else peak) := by
  split_ifs with hlt
  · refine ⟨by simp, fun x hx => ?_⟩
    rcases List.mem_append.mp hx with hx | hx
    · exact (h.highest x hx).trans hlt.le
    · exact (List.mem_singleton.mp hx).le
  · refine ⟨List.mem_append_left _ h.mem, fun x hx => ?_⟩
    rcases List.mem_append.mp hx with hx | hx
    · exact h.highest x hx
    · exact (List.mem_singleton.mp hx).trans_le (not_lt.mp hlt)

theorem PeakOf.tops (h : PeakOf (values ++ [value]) peak) :
    Tops (values ++ [value]) values.length peak := by
  obtain ⟨i, hi⟩ := List.mem_iff_getElem?.mp h.mem
  have hlt := (List.getElem?_eq_some_iff.mp hi).1
  rw [List.length_append, List.length_singleton] at hlt
  exact ⟨⟨i, Nat.lt_succ_iff.mp hlt, hi⟩, fun k z _ hz => h.highest z (List.mem_of_getElem? hz)⟩

/-- What the loop of `calculateMaxDrawdown` knows of the values it has seen. -/
structure Scanned (values : List ℚ) (scan : DrawdownScan) : Prop where
  peakOf : PeakOf values scan.peak
  peakAt : values[scan.peakIndex]? = some scan.peak
  first : ∀ (i : ℕ) (x : ℚ), i < scan.peakIndex → values[i]? = some x → x < scan.peak
  largest : ∀ (i j : ℕ) (x y : ℚ), i ≤ j → values[i]? = some x → values[j]? = some y →
    x - y ≤ scan.maxDrawdown
  /-- The trough ends a fall of the largest size, from the top before it. -/
  trough : scan.maxDrawdown = 0 ∧ scan.maxDrawdownPercentage = 0 ∧ scan.troughIndex = 0 ∨
    ∃ x y, Tops values scan.troughIndex x ∧ values[scan.troughIndex]? = some y ∧
      scan.maxDrawdown = x - y ∧ 0 < x - y ∧ scan.maxDrawdownPercentage = (x - y) / x * 100

theorem Scanned.nonneg {scan : DrawdownScan} (h : Scanned values scan) : 0 ≤ scan.maxDrawdown := by
  have hself := h.largest _ _ _ _ le_rfl h.peakAt h.peakAt
  rwa [sub_self] at hself

theorem Scanned.step {scan : DrawdownScan} (h : Scanned values scan) (hvalue : 0 < value)
    (hpeak : 0 < scan.peak) :
    Scanned (values ++ [value]) (drawdownStep scan (value, values.length)) := by
  have hlast : (values ++ [value])[values.length]? = some value :=
    getElem?_concat_eq_some.mpr (Or.inr ⟨rfl, rfl⟩)
  have hpeakOf := h.peakOf.concat value
  have htops := hpeakOf.tops
  have hold : ∀ (i : ℕ) (x : ℚ), values[i]? = some x → (values ++ [value])[i]? = some x :=
    fun i x hx => getElem?_concat_eq_some.mpr (Or.inl hx)
  -- the peak and its place, whatever becomes of the trough
  have hnew : (values ++ [value])[if scan.peak < value then values.length else scan.peakIndex]? =
        some (if scan.peak < value then value else scan.peak) ∧
      ∀ (i : ℕ) (x : ℚ), i < (if scan.peak < value then values.length else scan.peakIndex) →
        (values ++ [value])[i]? = some x → x < if scan.peak < value then value else scan.peak := by
    split_ifs with hlt
    · refine ⟨hlast, fun i x hi hx => ?_⟩
      rcases getElem?_concat_eq_some.mp hx with hx | ⟨rfl, -⟩
      · exact (h.peakOf.highest x (List.mem_of_getElem? hx)).trans_lt hlt
      · exact absurd hi (lt_irrefl _)
    · refine ⟨hold _ _ h.peakAt, fun i x hi hx => ?_⟩
      have hbound := (List.getElem?_eq_some_iff.mp h.peakAt).1
      rcases getElem?_concat_eq_some.mp hx with hx | ⟨rfl, -⟩
      · exact h.first i x hi hx
      · exact absurd (hi.trans hbound) (lt_irrefl _)
  have hnewPeak : 0 < if scan.peak < value then value else scan.peak := by
    split_ifs
    · exact hvalue
    · exact hpeak
  generalize hp : (if scan.peak < value then value else scan.peak) = peak at *
  generalize hi : (if scan.peak < value then values.length else scan.peakIndex) = peakIndex at *
  have hstep : drawdownStep scan (value, values.length) =
      if scan.maxDrawdown < peak - value then
        { maxDrawdown := peak - value
          maxDrawdownPercentage := (peak - value) / peak * 100
          peak := peak
          peakIndex := peakIndex
          troughIndex := values.length
          currentDrawdown := peak - value }
      else { scan with peak := peak, peakIndex := peakIndex, currentDrawdown := peak - value } := by
    simp only [drawdownStep, hp, hi, if_pos hnewPeak.ne']
  -- a fall that ends at the new value starts no higher than the peak
  have hends : ∀ (i j : ℕ) (x y : ℚ), i ≤ j → (values ++ [value])[i]? = some x →
      (values ++ [value])[j]? = some y → x - y ≤ max scan.maxDrawdown (peak - value) := by
    intro i j x y hij hx hy
    rcases getElem?_concat_eq_some.mp hy with hy | ⟨-, rfl⟩
    · rcases getElem?_concat_eq_some.mp hx with hx | ⟨rfl, -⟩
      · exact (h.largest i j x y hij hx hy).trans (le_max_left _ _)
      · exact absurd (List.getElem?_eq_some_iff.mp hy).1 (not_lt.mpr hij)
    · refine le_trans ?_ (le_max_right _ _)
      exact sub_le_sub_right (hpeakOf.highest x (List.mem_of_getElem? hx)) _
  rw [hstep]
  split_ifs with hdeeper
  · rw [max_eq_right hdeeper.le] at hends
    exact ⟨hpeakOf, hnew.1, hnew.2, hends, Or.inr ⟨peak, value, htops, hlast, rfl,
      h.nonneg.trans_lt hdeeper, rfl⟩⟩
  · rw [max_eq_left (not_lt.mp hdeeper)] at hends
    refine ⟨hpeakOf, hnew.1, hnew.2, hends, h.trough.imp id ?_⟩
    rintro ⟨x, y, htop, hy, hrest⟩
    exact ⟨x, y, (Tops.concat_of_lt (List.getElem?_eq_some_iff.mp hy).1).mpr htop, hold _ _ hy, hrest⟩

theorem scanned_scan {first : ℚ} {rest : List ℚ} (hpos : ∀ x ∈ first :: rest, 0 < x) :
    Scanned (first :: rest) (drawdownScan first rest) := by
  induction rest using List.reverseRecOn with
  | nil =>
    have hsing : ∀ (i : ℕ) (x : ℚ), [first][i]? = some x → i = 0 ∧ x = first := by
      intro i x hx
      obtain ⟨hi, rfl⟩ := List.getElem?_eq_some_iff.mp hx
      rw [List.length_singleton, Nat.lt_one_iff] at hi
      subst hi
      exact ⟨rfl, rfl⟩
    refine ⟨⟨List.mem_singleton_self _, fun x hx => (List.mem_singleton.mp hx).le⟩, rfl,
      fun i x hi => absurd hi (Nat.not_lt_zero i), fun i j x y _ hx hy => ?_, Or.inl ⟨rfl, rfl, rfl⟩⟩
    rw [(hsing i x hx).2, (hsing j y hy).2, sub_self]
    exact le_rfl
  | append_singleton rest value ih =>
    have hscan : drawdownScan first (rest ++ [value]) =
        drawdownStep (drawdownScan first rest) (value, (first :: rest).length) := by
      rw [drawdownScan, List.zipIdx_append, List.foldl_append, drawdownScan, List.length_cons,
        Nat.add_comm]
      rfl
    rw [hscan, ← List.cons_append]
    have hrest : ∀ x ∈ first :: rest, 0 < x := fun x hx => hpos x <| by
      rw [← List.cons_append]
      exact List.mem_append_left _ hx
    have hscanned := ih hrest
    exact hscanned.step (hpos value (by simp)) (hrest _ hscanned.peakOf.mem)

/-- What the loop of `calculateUnderwaterPlot` knows of the values it has seen. -/
structure Plotted (values : List ℚ) (scan : UnderwaterScan) : Prop where
  peakOf : PeakOf values scan.peak
  entries : ∀ u, u ∈ scan.underwater ↔
    ∃ j x y, Tops values j x ∧ values[j]? = some y ∧ u = -((x - y) / x * 100)

theorem Plotted.step {scan : UnderwaterScan} (h : Plotted values scan) (hvalue : 0 < value)
    (hpeak : 0 < scan.peak) : Plotted (values ++ [value]) (underwaterStep scan value) := by
  have hpeakOf := h.peakOf.concat value
  have hnewPeak : 0 < if scan.peak < value then value else scan.peak := by
    split_ifs
    · exact hvalue
    · exact hpeak
  refine ⟨hpeakOf, fun u => ?_⟩
  have hlast : (values ++ [value])[values.length]? = some value :=
    getElem?_concat_eq_some.mpr (Or.inr ⟨rfl, rfl⟩)
  simp only [underwaterStep, if_pos hnewPeak.ne', List.mem_append, List.mem_singleton, h.entries]
  constructor
  · rintro (⟨j, x, y, htop, hy, rfl⟩ | rfl)
    · exact ⟨j, x, y, (Tops.concat_of_lt (List.getElem?_eq_some_iff.mp hy).1).mpr htop,
        getElem?_concat_eq_some.mpr (Or.inl hy), rfl⟩
    · exact ⟨values.length, _, value, hpeakOf.tops, hlast, rfl⟩
  · rintro ⟨j, x, y, htop, hy, rfl⟩
    rcases getElem?_concat_eq_some.mp hy with hy | ⟨rfl, rfl⟩
    · exact .inl ⟨j, x, y, (Tops.concat_of_lt (List.getElem?_eq_some_iff.mp hy).1).mp htop, hy, rfl⟩
    · rw [htop.unique hpeakOf.tops]
      exact .inr rfl

theorem plotted_plot {first : ℚ} {rest : List ℚ} (hpos : ∀ x ∈ first :: rest, 0 < x) :
    Plotted (first :: rest)
      ((first :: rest).foldl underwaterStep { peak := first }) := by
  induction rest using List.reverseRecOn with
  | nil =>
    have hfirst : (0 : ℚ) < first := hpos first List.mem_cons_self
    have hpeak : PeakOf [first] first :=
      ⟨List.mem_singleton_self _, fun x hx => (List.mem_singleton.mp hx).le⟩
    have htop : Tops [first] 0 first := @PeakOf.tops [] first first hpeak
    refine ⟨by simpa [underwaterStep] using hpeak, fun u => ?_⟩
    simp only [List.foldl_cons, List.foldl_nil, underwaterStep, lt_irrefl, if_false,
      if_pos hfirst.ne', List.nil_append, List.mem_singleton]
    constructor
    · rintro rfl
      exact ⟨0, first, first, htop, rfl, rfl⟩
    · rintro ⟨j, x, y, htopx, hy, rfl⟩
      obtain ⟨hj, rfl⟩ := List.getElem?_eq_some_iff.mp hy
      rw [List.length_singleton, Nat.lt_one_iff] at hj
      subst hj
      rw [htopx.unique htop]
      rfl
  | append_singleton rest value ih =>
    have hrest : ∀ x ∈ first :: rest, 0 < x := fun x hx => hpos x <| by
      rw [← List.cons_append]
      exact List.mem_append_left _ hx
    have hplotted := ih hrest
    rw [← List.cons_append, List.foldl_append]
    exact hplotted.step (hpos value (by simp)) (hrest _ hplotted.peakOf.mem)

theorem least_underwater {d : ℚ} (hpos : ∀ x ∈ values, 0 < x) (hd : IsGreatest (falls values) d) :
    IsLeast {u | u ∈ calculateUnderwaterPlot values} (-(d * 100)) := by
  have hents : ∀ u, u ∈ calculateUnderwaterPlot values ↔
      ∃ j x y, Tops values j x ∧ values[j]? = some y ∧ u = -((x - y) / x * 100) := by
    cases values with
    | nil =>
      obtain ⟨i, j, x, y, -, hx, -⟩ := hd.1
      cases hx
    | cons => exact (plotted_plot hpos).entries
  constructor
  · obtain ⟨j, x, y, htop, hy, rfl⟩ := deepest_from_top hpos hd
    exact (hents _).mpr ⟨j, x, y, htop, hy, rfl⟩
  · intro u hu
    obtain ⟨j, x, y, htop, hy, rfl⟩ := (hents u).mp hu
    obtain ⟨i, hij, hx⟩ := htop.reached
    have hle := hd.2 ⟨i, j, x, y, hij, hx, hy, rfl⟩
    exact neg_le_neg (mul_le_mul_of_nonneg_right hle (by norm_num))

end Passes

/-! ## What is reported -/

section Reported

variable {values : List ℚ}

/-- The reported drawdown is the deepest fall of the series, and the reported places are its ends. -/
structure MeetsDefinition (values : List ℚ) : Prop where
  percentage : IsGreatest (falls values) ((calculateMaxDrawdown values).maxDrawdownPercentage / 100)
  attained : ∃ p t x y, (calculateMaxDrawdown values).peakDate = some p ∧
    (calculateMaxDrawdown values).troughDate = some t ∧ p ≤ t ∧ values[p]? = some x ∧
    values[t]? = some y ∧ (calculateMaxDrawdown values).maxDrawdownPercentage = (x - y) / x * 100
  duration : 0 ≤ (calculateMaxDrawdown values).drawdownDuration
  underwater : IsLeast {u | u ∈ calculateUnderwaterPlot values}
    (-(calculateMaxDrawdown values).maxDrawdownPercentage)

/-- A deepest fall starts from the highest value of all, and a series that never falls is constant. -/
structure DeepestFromTop (values : List ℚ) : Prop where
  fall : ∃ (i j : ℕ) (x y : ℚ), i ≤ j ∧ values[i]? = some x ∧ values[j]? = some y ∧
    (∀ z ∈ values, z ≤ x) ∧ ∀ d ∈ falls values, d ≤ (x - y) / x
  flat : (∀ d ∈ falls values, d ≤ 0) → ∀ x ∈ values, ∀ y ∈ values, x = y

theorem calculateMaxDrawdown_cons (first : ℚ) (rest : List ℚ) :
    (calculateMaxDrawdown (first :: rest)).maxDrawdownPercentage =
        (drawdownScan first rest).maxDrawdownPercentage ∧
      (calculateMaxDrawdown (first :: rest)).peakDate = some (drawdownScan first rest).peakIndex ∧
      (calculateMaxDrawdown (first :: rest)).troughDate =
        some (drawdownScan first rest).troughIndex ∧
      (calculateMaxDrawdown (first :: rest)).drawdownDuration =
        (drawdownScan first rest).troughIndex - (drawdownScan first rest).peakIndex :=
  ⟨rfl, rfl, rfl, rfl⟩

variable {scan : DrawdownScan}

theorem Scanned.of_flat (h : Scanned values scan) (hflat : ∀ x ∈ values, ∀ y ∈ values, x = y) :
    scan.maxDrawdownPercentage = 0 ∧ scan.troughIndex = 0 ∧ scan.peakIndex = 0 := by
  have hpeak : scan.peakIndex = 0 := by
    by_contra hne
    have hlt := (List.getElem?_eq_some_iff.mp h.peakAt).1
    have hzero : 0 < values.length := (Nat.zero_le _).trans_lt hlt
    have hbelow := h.first 0 _ (Nat.pos_of_ne_zero hne) (List.getElem?_eq_getElem hzero)
    exact hbelow.ne (hflat _ (List.getElem_mem hzero) _ h.peakOf.mem)
  rcases h.trough with ⟨-, hpctg, htrough⟩ | ⟨x, y, htop, hy, -, hpos, -⟩
  · exact ⟨hpctg, htrough, hpeak⟩
  · obtain ⟨i, -, hx⟩ := htop.reached
    have hsame := hflat x (List.mem_of_getElem? hx) y (List.mem_of_getElem? hy)
    rw [hsame, sub_self] at hpos
    exact absurd hpos (lt_irrefl 0)

theorem Scanned.of_fall {i j : ℕ} {x y : ℚ} (h : Scanned values scan) (hpos : ∀ z ∈ values, 0 < z)
    (hij : i ≤ j) (hx : values[i]? = some x) (hy : values[j]? = some y)
    (hhigh : ∀ z ∈ values, z ≤ x) (hdeepest : ∀ d ∈ falls values, d ≤ (x - y) / x)
    (hfalls : 0 < (x - y) / x) :
    scan.peakIndex ≤ scan.troughIndex ∧ scan.peak = x ∧ values[scan.troughIndex]? = some y ∧
      scan.maxDrawdownPercentage = (x - y) / x * 100 := by
  have hxpos := hpos x (List.mem_of_getElem? hx)
  have hpeak : scan.peak = x :=
    le_antisymm (hhigh _ h.peakOf.mem) (h.peakOf.highest x (List.mem_of_getElem? hx))
  have hsize : 0 < x - y := (div_pos_iff_of_pos_right hxpos).mp hfalls
  have hlargest := h.largest i j x y hij hx hy
  rcases h.trough with ⟨hzero, -⟩ | ⟨x', y', htop, hy', hmax, hsize', hpctg⟩
  · rw [hzero] at hlargest
    exact absurd hsize (not_lt.mpr hlargest)
  obtain ⟨k, hk, hx'⟩ := htop.reached
  have hx'pos := hpos x' (List.mem_of_getElem? hx')
  have hx'le := hhigh x' (List.mem_of_getElem? hx')
  have hdepth := hdeepest _ ⟨k, scan.troughIndex, x', y', hk, hx', hy', rfl⟩
  -- it is no larger than the deepest fall, which starts from higher up
  have hsame : x - y = x' - y' := by
    refine le_antisymm (hmax ▸ hlargest) ?_
    have hbound := (div_le_iff₀ hx'pos).mp hdepth
    calc x' - y' ≤ (x - y) / x * x' := hbound
      _ ≤ (x - y) / x * x := mul_le_mul_of_nonneg_left hx'le hfalls.le
      _ = x - y := div_mul_cancel₀ _ hxpos.ne'
  obtain rfl : x' = x := le_antisymm hx'le (le_of_fall_le hx'pos hxpos hsame hsize' hdepth)
  obtain rfl : y' = y := by linarith
  refine ⟨?_, hpeak, hy', hpctg⟩
  by_contra hlt
  exact absurd (h.first k x' (hk.trans_lt (not_le.mp hlt)) hx') (hpeak ▸ lt_irrefl _)

theorem Scanned.trough_eq_zero (h : Scanned values scan) (hpos : ∀ x ∈ values, 0 < x)
    (hnone : ∀ d ∈ falls values, d ≤ 0) : scan.troughIndex = 0 := by
  rcases h.trough with ⟨-, -, hzero⟩ | ⟨x, y, htop, hy, -, hsize, -⟩
  · exact hzero
  · obtain ⟨k, hk, hx⟩ := htop.reached
    have hle := hnone _ ⟨k, _, x, y, hk, hx, hy, rfl⟩
    exact absurd (div_pos hsize (hpos x (List.mem_of_getElem? hx))) (not_lt.mpr hle)

theorem Scanned.flat (h : Scanned values scan) (hpos : ∀ x ∈ values, 0 < x)
    (hnone : ∀ d ∈ falls values, d ≤ 0) (hstart : scan.peakIndex = 0) :
    ∀ x ∈ values, ∀ y ∈ values, x = y := by
  have hpeak := h.peakAt
  rw [hstart] at hpeak
  have hall : ∀ z ∈ values, z = scan.peak := by
    intro z hz
    obtain ⟨k, hk⟩ := List.mem_iff_getElem?.mp hz
    have hle := hnone _ ⟨0, k, scan.peak, z, Nat.zero_le k, hpeak, hk, rfl⟩
    refine le_antisymm (h.peakOf.highest z hz) ?_
    exact sub_nonpos.mp (by simpa using (div_le_iff₀ (hpos _ h.peakOf.mem)).mp hle)
  exact fun x hx y hy => (hall x hx).trans (hall y hy).symm

theorem MeetsDefinition.deepestFromTop (h : MeetsDefinition values)
    (hpos : ∀ x ∈ values, 0 < x) : DeepestFromTop values := by
  obtain ⟨hgr, ⟨p, t, x, y, hp, ht, hpt, hx, hy, hattained⟩, -, -⟩ := h
  obtain ⟨first, rest, rfl⟩ :=
    List.exists_cons_of_ne_nil (List.ne_nil_of_mem (List.mem_of_getElem? hx))
  have hscan := scanned_scan hpos
  obtain ⟨-, hpeakDate, htroughDate, -⟩ := calculateMaxDrawdown_cons first rest
  obtain rfl : (drawdownScan first rest).peakIndex = p := Option.some.inj (hpeakDate.symm.trans hp)
  obtain rfl : (drawdownScan first rest).troughIndex = t :=
    Option.some.inj (htroughDate.symm.trans ht)
  obtain rfl : (drawdownScan first rest).peak = x := Option.some.inj (hscan.peakAt.symm.trans hx)
  refine ⟨⟨_, _, _, y, hpt, hx, hy, hscan.peakOf.highest, fun d hd => ?_⟩, fun hnone => ?_⟩
  · have hle := hgr.2 hd
    rwa [hattained, mul_div_cancel_right₀ _ (by norm_num)] at hle
  · have htrough := hscan.trough_eq_zero hpos hnone
    exact hscan.flat hpos hnone (Nat.le_zero.mp (htrough ▸ hpt))

theorem Scanned.found (h : Scanned values scan) (hpos : ∀ x ∈ values, 0 < x) {i j : ℕ} {x y : ℚ}
    (hij : i ≤ j) (hx : values[i]? = some x) (hy : values[j]? = some y)
    (hhigh : ∀ z ∈ values, z ≤ x) (hdeepest : ∀ d ∈ falls values, d ≤ (x - y) / x)
    (hflat : (∀ d ∈ falls values, d ≤ 0) → ∀ x ∈ values, ∀ y ∈ values, x = y) :
    scan.peakIndex ≤ scan.troughIndex ∧ scan.maxDrawdownPercentage = (x - y) / x * 100 ∧
      ∃ x' y', values[scan.peakIndex]? = some x' ∧ values[scan.troughIndex]? = some y' ∧
        scan.maxDrawdownPercentage = (x' - y') / x' * 100 := by
  rcases le_or_gt ((x - y) / x) 0 with hnone | hfalls
  · have hsame := hflat fun d hd => (hdeepest d hd).trans hnone
    obtain ⟨hzero, htrough, hpeak⟩ := h.of_flat hsame
    have heq := hsame x (List.mem_of_getElem? hx) y (List.mem_of_getElem? hy)
    refine ⟨by rw [hpeak, htrough], by rw [hzero, heq, sub_self, zero_div, zero_mul], scan.peak,
      scan.peak, h.peakAt, ?_, by rw [hzero, sub_self, zero_div, zero_mul]⟩
    rw [htrough, ← hpeak]
    exact h.peakAt
  · obtain ⟨hle, hpeak, htrough, hdepth⟩ := h.of_fall hpos hij hx hy hhigh hdeepest hfalls
    exact ⟨hle, hdepth, x, y, hpeak ▸ h.peakAt, htrough, hdepth⟩

/-- **The reported drawdown is the deepest fall just when a deepest fall starts from the highest
value of all**, and a series that never falls is constant. -/
theorem meetsDefinition_iff (hne : values ≠ []) (hpos : ∀ x ∈ values, 0 < x) :
    MeetsDefinition values ↔ DeepestFromTop values := by
  refine ⟨fun h => h.deepestFromTop hpos, ?_⟩
  rintro ⟨⟨i, j, x, y, hij, hx, hy, hhigh, hdeepest⟩, hflat⟩
  obtain ⟨first, rest, rfl⟩ := List.exists_cons_of_ne_nil hne
  obtain ⟨hpercentage, hpeakDate, htroughDate, hduration⟩ := calculateMaxDrawdown_cons first rest
  obtain ⟨hordered, hdepth, x', y', hx', hy', hends⟩ :=
    (scanned_scan hpos).found hpos hij hx hy hhigh hdeepest hflat
  have hgreatest : IsGreatest (falls (first :: rest)) ((x - y) / x) :=
    ⟨⟨i, j, x, y, hij, hx, hy, rfl⟩, hdeepest⟩
  refine ⟨?_, ⟨_, _, x', y', hpeakDate, htroughDate, hordered, hx', hy',
    hpercentage.trans hends⟩, ?_, ?_⟩
  · rw [hpercentage, hdepth, mul_div_cancel_right₀ _ (by norm_num)]
    exact hgreatest
  · rw [hduration]
    omega
  · rw [hpercentage, hdepth]
    exact least_underwater hpos hgreatest

theorem meetsDefinition_oneFall : MeetsDefinition [100, 80] := by
  refine (meetsDefinition_iff (by simp) (by simp)).mpr
    ⟨⟨0, 1, 100, 80, Nat.zero_le 1, rfl, rfl, by norm_num, ?_⟩, ?_⟩
  · rintro d ⟨i, j, x, y, -, hx, hy, rfl⟩
    have hx' : x ∈ [(100 : ℚ), 80] := List.mem_of_getElem? hx
    have hy' : y ∈ [(100 : ℚ), 80] := List.mem_of_getElem? hy
    simp only [List.mem_cons, List.not_mem_nil, or_false] at hx' hy'
    rcases hx' with rfl | rfl <;> rcases hy' with rfl | rfl <;> norm_num
  · intro hnone
    have hfall := hnone _ ⟨0, 1, 100, 80, Nat.zero_le 1, rfl, rfl, rfl⟩
    norm_num at hfall

theorem largest_not_deepest :
    ¬ MeetsDefinition [10, 5, 100, 80] ∧
      (calculateMaxDrawdown [10, 5, 100, 80]).maxDrawdownPercentage = 20 ∧
      (calculateMaxDrawdown [10, 5, 20]).drawdownDuration = -1 := by
  have hreported : (calculateMaxDrawdown [10, 5, 100, 80]).maxDrawdownPercentage = 20 := by
    decide +kernel
  refine ⟨fun h => ?_, hreported, by decide +kernel⟩
  have hle := h.percentage.2 ⟨0, 1, 10, 5, Nat.zero_le 1, rfl, rfl, rfl⟩
  rw [hreported] at hle
  norm_num at hle

end Reported

end Chansey
