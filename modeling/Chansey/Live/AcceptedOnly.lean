import Chansey.Live.StrategyExecutor

/-!
# Which signal of a batch is executed

The signals that survive the throttle are those of an accepted coin and action, and the best of them
is executed. A signal the throttle has rejected survives beside an accepted one of the same coin and
action.

* `ExecutesAccepted`: an accepted signal of the highest rank is executed. `Outranked`: no rejected
  one stands in its way.
-/

namespace Chansey

/-! ## The trade-signal generator -/

namespace TradeSignalGenerator

def MIN_CONFIDENCE_THRESHOLD : ℚ := 3 / 5

/-- `ACTIONABLE_SIGNAL_TYPES` at the confidence threshold. -/
def actionable (signals : List LiveSignal) : List LiveSignal :=
  signals.filter fun s =>
    (s.type = .buy ∨ s.type = .sell ∨ s.type = .shortEntry ∨ s.type = .shortExit) ∧
      MIN_CONFIDENCE_THRESHOLD ≤ s.confidence

def score (signal : LiveSignal) : ℚ := signal.strength * signal.confidence

/-- The strongest of the surviving signals, the first of equals. -/
def chooseSignal (actionableSignals : List LiveSignal) (throttleOutput : List TradingSignal) :
    Option LiveSignal :=
  match surviving actionableSignals throttleOutput with
  | [] => none
  | first :: rest =>
    some (rest.foldl (fun best current => if score best < score current then current else best) first)

theorem chooseSignal_eq (actionableSignals : List LiveSignal)
    (throttleOutput : List TradingSignal) :
    chooseSignal actionableSignals throttleOutput =
      (surviving actionableSignals throttleOutput).argmax score := by
  have hfold : ∀ (rest : List LiveSignal) (best : LiveSignal),
      rest.foldl (List.argAux fun b c => score c < score b) (some best) =
        some (rest.foldl
          (fun best current => if score best < score current then current else best) best) := by
    intro rest
    induction rest with
    | nil => exact fun _ => rfl
    | cons current rest ih =>
      intro best
      rw [List.foldl_cons, List.foldl_cons, ← ih]
      exact congrArg (List.foldl _ · rest) (apply_ite some _ _ _).symm
  unfold chooseSignal
  cases surviving actionableSignals throttleOutput with
  | nil => rfl
  | cons first rest => exact (hfold rest first).symm

end TradeSignalGenerator

theorem StrategyExecutor.chooseSignal_eq (actionableSignals : List LiveSignal)
    (throttleOutput : List TradingSignal) :
    chooseSignal actionableSignals throttleOutput =
      (surviving actionableSignals throttleOutput).argmax (·.confidence) :=
  Ranking.head?_insertionSort _ _

/-! ## The verdicts -/

section Judged

variable (state : ThrottleState) (config : SignalThrottleConfig) (now : Instant)

def judgeFrom : List CooldownKey → List LiveSignal → List (LiveSignal × Bool)
  | _, [] => []
  | batchAccepted, signal :: signals =>
    let ok := acceptsSignal state config now batchAccepted (toThrottleSignal signal)
    (signal, ok) :: judgeFrom
      (if ok ∧ 0 < config.cooldownMs then (toThrottleSignal signal).cooldownKey :: batchAccepted
        else batchAccepted)
      signals

def judge (signals : List LiveSignal) : List (LiveSignal × Bool) :=
  judgeFrom (pruneThrottle state config now) config now [] signals

theorem judgeFrom_map_fst (batchAccepted : List CooldownKey) (signals : List LiveSignal) :
    (judgeFrom state config now batchAccepted signals).map Prod.fst = signals := by
  induction signals generalizing batchAccepted with
  | nil => rfl
  | cons signal signals ih =>
    unfold judgeFrom
    rw [List.map_cons, ih]

theorem judgeFrom_map (batchAccepted : List CooldownKey) (signals : List LiveSignal) :
    (judgeFrom state config now batchAccepted signals).map
        (fun v => (toThrottleSignal v.1, v.2)) =
      verdicts state config now batchAccepted (signals.map toThrottleSignal) := by
  induction signals generalizing batchAccepted with
  | nil => rfl
  | cons signal signals ih =>
    unfold judgeFrom
    rw [List.map_cons, ih, List.map_cons, verdicts]

/-- **The verdicts are those of `filterSignals`.** -/
theorem filterSignals_judge (signals : List LiveSignal) :
    (filterSignals (signals.map toThrottleSignal) state config now).1 =
      { accepted := ((judge state config now signals).filter (·.2)).map
          fun v => admitted config (toThrottleSignal v.1)
        rejected := ((judge state config now signals).filter (¬ ·.2)).map
          fun v => toThrottleSignal v.1 } := by
  rw [filterSignals_eq, ← judgeFrom_map]
  unfold byVerdicts judge
  simp only [List.filter_map, List.map_map]
  rfl

theorem acceptsSignal_of_subset {earlier later : List CooldownKey} (hsub : earlier ⊆ later)
    {signal : TradingSignal} (h : acceptsSignal state config now later signal = true) :
    acceptsSignal state config now earlier signal = true := by
  unfold acceptsSignal inCooldown at h ⊢
  simp only [decide_eq_true_eq] at h ⊢
  refine ⟨h.1, fun hcool => h.2.1 ⟨hcool.1, hcool.2.imp_right (@hsub _)⟩, h.2.2⟩

variable {batchAccepted : List CooldownKey}

theorem judgeFrom_rejects {signal : LiveSignal}
    (h : acceptsSignal state config now batchAccepted (toThrottleSignal signal) = false)
    (signals : List LiveSignal) :
    (signal, true) ∉ judgeFrom state config now batchAccepted signals := by
  induction signals generalizing batchAccepted with
  | nil => simp [judgeFrom]
  | cons first signals ih =>
    unfold judgeFrom
    rw [List.mem_cons, not_or]
    constructor
    · intro heq
      rw [Prod.mk.injEq] at heq
      rw [← heq.1, h] at heq
      cases heq.2
    · refine ih (Bool.eq_false_iff.mpr fun hok => ?_)
      refine Bool.eq_false_iff.mp h (acceptsSignal_of_subset state config now ?_ hok)
      split_ifs
      · exact List.subset_cons_self _ _
      · exact List.Subset.refl _

theorem judgeFrom_split {signals : List LiveSignal} {before after : List (LiveSignal × Bool)}
    {signal : LiveSignal}
    (h : judgeFrom state config now batchAccepted signals = before ++ (signal, false) :: after) :
    (signal, true) ∉ after := by
  induction before generalizing batchAccepted signals with
  | nil =>
    cases signals with
    | nil => cases h
    | cons first signals =>
      unfold judgeFrom at h
      rw [List.nil_append, List.cons.injEq, Prod.mk.injEq] at h
      obtain ⟨⟨rfl, hrej⟩, rfl⟩ := h
      rw [hrej]
      exact judgeFrom_rejects state config now (by simpa using hrej) signals
  | cons v before ih =>
    cases signals with
    | nil => cases h
    | cons =>
      unfold judgeFrom at h
      rw [List.cons_append, List.cons.injEq] at h
      exact ih h.2

/-! ## The choice -/

/-- Its coin and action are those of an accepted signal. -/
def Survives (judged : List (LiveSignal × Bool)) (v : LiveSignal × Bool) : Prop :=
  ∃ w ∈ judged, w.2 = true ∧ (toThrottleSignal w.1).cooldownKey = (toThrottleSignal v.1).cooldownKey

instance (judged : List (LiveSignal × Bool)) (v : LiveSignal × Bool) :
    Decidable (Survives judged v) :=
  inferInstanceAs (Decidable (∃ w ∈ judged, _))

theorem surviving_eq (signals : List LiveSignal) :
    surviving signals (filterSignals (signals.map toThrottleSignal) state config now).1.accepted =
      ((judge state config now signals).filter (Survives (judge state config now signals))).map
        Prod.fst := by
  have hfst := judgeFrom_map_fst (pruneThrottle state config now) config now [] signals
  have hjudge : (judge state config now signals).map Prod.fst = signals := hfst
  rw [filterSignals_judge]
  generalize judge state config now signals = judged at hjudge ⊢
  subst hjudge
  unfold surviving
  rw [List.filter_map]
  refine congrArg (List.map Prod.fst) (List.filter_congr fun v _ => decide_eq_decide.mpr ?_)
  simp only [List.map_map, List.mem_map, List.mem_filter, Function.comp_apply,
    admitted_cooldownKey, Survives, and_assoc]

def ExecutesAccepted (rank : LiveSignal → ℚ) (judged : List (LiveSignal × Bool))
    (chosen : Option LiveSignal) : Prop :=
  ∀ best, chosen = some best →
    (best, true) ∈ judged ∧ ∀ v ∈ judged, v.2 = true → rank v.1 ≤ rank best

/-- A rejected signal of the coin and action of an accepted one has an accepted one above it: higher,
or as high and before it. -/
def Outranked (rank : LiveSignal → ℚ) (judged : List (LiveSignal × Bool)) : Prop :=
  ∀ before signal after, judged = before ++ (signal, false) :: after →
    Survives judged (signal, false) →
      (∃ v ∈ judged, v.2 = true ∧ rank signal < rank v.1) ∨
        ∃ v ∈ before, v.2 = true ∧ rank v.1 = rank signal

theorem outranked_iff (rank : LiveSignal → ℚ) (judged : List (LiveSignal × Bool)) :
    Outranked rank judged ↔
      ∀ m, (judged.filter (Survives judged)).argmax (rank ∘ Prod.fst) = some m → m.2 = true := by
  have hkeep : ∀ v ∈ judged, v.2 = true → Survives judged v := fun v hv hok => ⟨v, hv, hok, rfl⟩
  rw [Ranking.argmax_filter_iff]
  constructor
  · intro h before v after hsplit hrej
    obtain ⟨signal, ok⟩ := v
    obtain rfl : ok = false := Bool.eq_false_iff.mpr hrej
    obtain ⟨l₁, l₂, hjudged, hsurvives, hbef⟩ := Ranking.exists_split_of_filter hsplit
    rcases h l₁ signal l₂ hjudged (of_decide_eq_true hsurvives) with
      ⟨w, hw, hok, hlt⟩ | ⟨w, hw, hok, heq⟩
    · exact .inl ⟨w, List.mem_filter.mpr ⟨hw, decide_eq_true (hkeep w hw hok)⟩, hok, hlt⟩
    · have hmem : w ∈ judged := hjudged ▸ List.mem_append_left _ hw
      exact .inr ⟨w, hbef w hw (decide_eq_true (hkeep w hmem hok)), hok, heq⟩
  · intro h before signal after hjudged hsurvives
    have hsplit : judged.filter (Survives judged) =
        before.filter (Survives judged) ++ (signal, false) :: after.filter (Survives judged) := by
      conv_lhs => rw [hjudged]
      rw [List.filter_append, List.filter_cons_of_pos (by simpa [hjudged] using hsurvives)]
      simp only [hjudged]
    rcases h _ _ _ hsplit (by simp) with ⟨w, hw, hok, hlt⟩ | ⟨w, hw, hok, heq⟩
    · exact .inl ⟨w, List.mem_of_mem_filter hw, hok, hlt⟩
    · exact .inr ⟨w, List.mem_of_mem_filter hw, hok, heq⟩

theorem executesAccepted_argmax_iff (rank : LiveSignal → ℚ) (signals : List LiveSignal) :
    ExecutesAccepted rank (judge state config now signals)
        ((surviving signals
          (filterSignals (signals.map toThrottleSignal) state config now).1.accepted).argmax rank) ↔
      Outranked rank (judge state config now signals) := by
  rw [outranked_iff, surviving_eq, Ranking.argmax_map]
  have hequal : ∀ before signal after, judge state config now signals =
      before ++ (signal, false) :: after → (signal, true) ∉ after :=
    fun before signal after h => judgeFrom_split _ config now h
  generalize judge state config now signals = judged at hequal ⊢
  constructor
  · rintro h ⟨best, ok⟩ hmax
    by_contra hrej
    obtain rfl : ok = false := Bool.eq_false_iff.mpr hrej
    obtain ⟨hacc, -⟩ := h best (by rw [hmax]; rfl)
    -- the best is rejected where it is chosen, so an equal one is accepted elsewhere
    obtain ⟨_, _, hsplit, hlower, -⟩ := Ranking.argmax_eq_some_iff_split.mp hmax
    obtain ⟨l₁, l₂, hjudged, -, hbef⟩ := Ranking.exists_split_of_filter hsplit
    have hmem := hacc
    rw [hjudged, List.mem_append, List.mem_cons] at hmem
    rcases hmem with hearl | hsame | hlater
    · have hkept := hbef _ hearl (decide_eq_true ⟨_, hacc, rfl, rfl⟩)
      exact lt_irrefl (rank best) (hlower (best, true) hkept)
    · cases hsame
    · exact hequal l₁ best l₂ hjudged hlater
  · intro h best hbest
    obtain ⟨⟨_, ok⟩, hmax, rfl⟩ := Option.map_eq_some_iff.mp hbest
    have hok : ok = true := h _ hmax
    subst hok
    refine ⟨List.mem_of_mem_filter (List.argmax_mem hmax), fun v hv hv' => ?_⟩
    refine List.le_of_mem_argmax (f := rank ∘ Prod.fst) (List.mem_filter.mpr ⟨hv, ?_⟩) hmax
    exact decide_eq_true ⟨v, hv, hv', rfl⟩

end Judged

/-- **What is executed is what the throttle accepts**, iff each rejected signal of an accepted coin
and action is outranked: in the executor by confidence, in the generator by strength times
confidence. -/
theorem executesAccepted_iff (state : ThrottleState) (config : SignalThrottleConfig) (now : Instant)
    (signals : List LiveSignal) :
    let executorSignals := StrategyExecutor.actionable signals
    let generatorSignals := TradeSignalGenerator.actionable signals
    let accepted (batch : List LiveSignal) :=
      (filterSignals (batch.map toThrottleSignal) state config now).1.accepted
    (ExecutesAccepted (·.confidence) (judge state config now executorSignals)
        (StrategyExecutor.chooseSignal executorSignals (accepted executorSignals)) ↔
      Outranked (·.confidence) (judge state config now executorSignals)) ∧
    (ExecutesAccepted TradeSignalGenerator.score (judge state config now generatorSignals)
        (TradeSignalGenerator.chooseSignal generatorSignals (accepted generatorSignals)) ↔
      Outranked TradeSignalGenerator.score (judge state config now generatorSignals)) := by
  refine ⟨?_, ?_⟩
  · rw [StrategyExecutor.chooseSignal_eq]
    exact executesAccepted_argmax_iff state config now _ _
  · rw [TradeSignalGenerator.chooseSignal_eq]
    exact executesAccepted_argmax_iff state config now _ _

theorem rejected_duplicate_executed : let accepted : LiveSignal :=
      { type := .buy, coinId := "btc", strength := 1 / 2, confidence := 7 / 10 }
    let duplicate : LiveSignal :=
      { type := .buy, coinId := "btc", strength := 1, confidence := 9 / 10 }
    let judged := judge {} DEFAULT_THROTTLE_CONFIG 0 [accepted, duplicate]
    let output := (filterSignals ([accepted, duplicate].map toThrottleSignal) {}
      DEFAULT_THROTTLE_CONFIG 0).1.accepted
    judged.map (·.2) = [true, false] ∧
      ¬ ExecutesAccepted (·.confidence) judged
        (StrategyExecutor.chooseSignal [accepted, duplicate] output) ∧
      ¬ ExecutesAccepted TradeSignalGenerator.score judged
        (TradeSignalGenerator.chooseSignal [accepted, duplicate] output) := by
  intro accepted duplicate judged output
  have hnone : ∀ v ∈ judged, v.2 = true → v.1.confidence ≠ 9 / 10 := by decide +kernel
  have hexecutor : (StrategyExecutor.chooseSignal [accepted, duplicate] output).map
      (·.confidence) = some (9 / 10) := by decide +kernel
  have hgenerator : (TradeSignalGenerator.chooseSignal [accepted, duplicate] output).map
      (·.confidence) = some (9 / 10) := by decide +kernel
  refine ⟨by decide +kernel, fun h => ?_, fun h => ?_⟩
  · obtain ⟨best, hbest, hconfidence⟩ := Option.map_eq_some_iff.mp hexecutor
    exact hnone _ (h best hbest).1 rfl hconfidence
  · obtain ⟨best, hbest, hconfidence⟩ := Option.map_eq_some_iff.mp hgenerator
    exact hnone _ (h best hbest).1 rfl hconfidence

end Chansey
