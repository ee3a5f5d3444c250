import Chansey.Live.Concentration
import Mathlib.Algebra.Notation.Lemmas

/-!
# The concentration of an asset after a cycle

Entries are paid from cash that the portfolio already counts, so the total stays what it was, and an
asset has room for `hard · total - holding`.
-/

namespace Chansey

/-! ## One trade -/

def holdingOf (assets : List AssetAllocation) (base : String) : ℚ :=
  ((aggregateByBaseSymbol assets).get? base).getD 0

def hardLimit (riskLevel : ℤ) : ℚ := (resolveLimits riskLevel none).hard

theorem hardLimit_mem (riskLevel : ℤ) : 0 < hardLimit riskLevel ∧ hardLimit riskLevel < 1 := by
  unfold hardLimit resolveLimits CONCENTRATION_LIMITS
  rw [Option.filter_none]
  dsimp only
  split <;> norm_num

theorem toUpper_cases (c : Char) :
    c.toUpper = c ∨ (65 ≤ c.toUpper.val.toNat ∧ c.toUpper.val.toNat ≤ 90) := by
  delta Char.toUpper
  split
  · rename_i h
    right
    have hlower : 97 ≤ c.val.toNat := UInt32.le_iff_toNat_le.mp h.1
    have hupper : c.val.toNat ≤ 122 := UInt32.le_iff_toNat_le.mp h.2
    have hshift : ('A'.val - 'a'.val).toNat = 4294967264 := by decide
    dsimp only
    rw [UInt32.toNat_add, hshift]
    omega
  · exact .inl rfl

theorem toUpper_toUpper (c : Char) : c.toUpper.toUpper = c.toUpper := by
  rcases toUpper_cases c with h | ⟨-, _⟩
  · rw [h, h]
  · refine dif_neg ?_
    rintro ⟨h, -⟩
    have hge : 97 ≤ c.toUpper.val.toNat := UInt32.le_iff_toNat_le.mp h
    omega

theorem toUpper_ne_slash {c : Char} (h : c ≠ '/') : c.toUpper ≠ '/' := by
  rcases toUpper_cases c with heq | ⟨hge, -⟩
  · rwa [heq]
  · intro heq
    rw [heq] at hge
    exact absurd hge (by decide)

theorem extractBaseSymbol_idem (symbol : String) :
    extractBaseSymbol (extractBaseSymbol symbol) = extractBaseSymbol symbol := by
  unfold extractBaseSymbol
  rw [String.toList_ofList]
  congr 1
  have hall : ∀ c ∈ (symbol.toList.takeWhile (· ≠ '/')).map Char.toUpper,
      (decide (c ≠ '/')) = true := by
    intro c hc
    obtain ⟨d, hd, rfl⟩ := List.mem_map.mp hc
    have hne := List.mem_takeWhile_imp hd
    exact decide_eq_true (toUpper_ne_slash (of_decide_eq_true hne))
  rw [List.takeWhile_eq_self_iff.mpr hall, List.map_map]
  exact List.map_congr_left fun c _ => toUpper_toUpper c

section Rule

variable (assets : List AssetAllocation) (riskLevel : ℤ)

def AtLimit (base : String) : Prop :=
  isStablecoin base = false ∧ 0 < totalAssetValue assets ∧
    hardLimit riskLevel * totalAssetValue assets ≤ holdingOf assets base

instance (base : String) : Decidable (AtLimit assets riskLevel base) :=
  inferInstanceAs (Decidable (_ ∧ _ ∧ _))

def Unrestricted (base : String) (usdValue : ℚ) : Prop :=
  isStablecoin base = true ∨ totalAssetValue assets ≤ 0 ∨
    (holdingOf assets base < hardLimit riskLevel * totalAssetValue assets ∧
      holdingOf assets base + usdValue ≤ hardLimit riskLevel * (totalAssetValue assets + usdValue))

instance (base : String) (usdValue : ℚ) : Decidable (Unrestricted assets riskLevel base usdValue) :=
  inferInstanceAs (Decidable (_ ∨ _ ∨ _))

def ruleOf (base : String) (usdValue : ℚ) : Option ℚ :=
  if AtLimit assets riskLevel base then none
  else if Unrestricted assets riskLevel base usdValue then some 1
  else some ((hardLimit riskLevel * totalAssetValue assets - holdingOf assets base) /
    (1 - hardLimit riskLevel) / usdValue)

end Rule

variable {assets : List AssetAllocation} {riskLevel : ℤ}

variable {base : String} {usdValue : ℚ} {symbol : String} {trades : List (String × ℚ)}
  {request purchase : String × ℚ}

theorem ruleOf_atLimit (h : AtLimit assets riskLevel base) (usdValue : ℚ) :
    ruleOf assets riskLevel base usdValue = none := by
  rw [ruleOf, if_pos h]

theorem ruleOf_unrestricted (h : Unrestricted assets riskLevel base usdValue) :
    ruleOf assets riskLevel base usdValue = some 1 := by
  rw [ruleOf, if_neg, if_pos h]
  rintro ⟨hstable, htotal, hfull⟩
  rcases h with h | h | ⟨h, -⟩
  · rw [hstable] at h
    cases h
  · exact not_lt.mpr h htotal
  · exact not_lt.mpr hfull h

theorem ruleOf_reduced (hpos : 0 < usdValue) (hlimit : ¬ AtLimit assets riskLevel base)
    (hrestr : ¬ Unrestricted assets riskLevel base usdValue) :
    ∃ part, ruleOf assets riskLevel base usdValue = some part ∧ 0 < part ∧ part < 1 ∧
      hardLimit riskLevel * totalAssetValue assets - holdingOf assets base < usdValue * part := by
  obtain ⟨hpositive, hone⟩ := hardLimit_mem riskLevel
  rw [ruleOf, if_neg hlimit, if_neg hrestr]
  unfold Unrestricted at hrestr
  simp only [not_or, not_and, not_le, Bool.not_eq_true] at hrestr
  obtain ⟨hstable, htotal, hover⟩ := hrestr
  have hroom : holdingOf assets base < hardLimit riskLevel * totalAssetValue assets :=
    not_le.mp fun hfull => hlimit ⟨hstable, htotal, hfull⟩
  have hsub : 0 < hardLimit riskLevel * totalAssetValue assets - holdingOf assets base :=
    sub_pos.mpr hroom
  have hden : 0 < 1 - hardLimit riskLevel := sub_pos.mpr hone
  refine ⟨_, rfl, div_pos (div_pos hsub hden) hpos, ?_, ?_⟩
  · rw [div_lt_one hpos, div_lt_iff₀ hden]
    have := hover hroom
    linarith
  · rw [mul_div_cancel₀ _ hpos.ne', lt_div_iff₀ hden]
    have := mul_pos hsub hpositive
    linarith

theorem maxAdditional_of_rule {usdValue part : ℚ} (hpos : 0 < usdValue)
    (htotal : 0 < totalAssetValue assets) (hpart : 0 < part)
    (hrule : ruleOf assets riskLevel (extractBaseSymbol symbol) usdValue = some part)
    (hlimit : ¬ AtLimit assets riskLevel (extractBaseSymbol symbol))
    (hrestr : ¬ Unrestricted assets riskLevel (extractBaseSymbol symbol) usdValue) :
    calculateMaxAdditionalUsd assets (extractBaseSymbol symbol) riskLevel none =
      part * usdValue := by
  have hden : ¬ (1 - hardLimit riskLevel ≤ 0) := by
    rw [not_le, sub_pos]
    exact (hardLimit_mem riskLevel).2
  have hhard : (resolveLimits riskLevel none).hard = hardLimit riskLevel := rfl
  have hhold : ((aggregateByBaseSymbol assets).get? (extractBaseSymbol symbol)).getD 0 =
      holdingOf assets (extractBaseSymbol symbol) := rfl
  rw [ruleOf, if_neg hlimit, if_neg hrestr] at hrule
  have hadditional : (hardLimit riskLevel * totalAssetValue assets -
      holdingOf assets (extractBaseSymbol symbol)) / (1 - hardLimit riskLevel) = part * usdValue :=
    (div_eq_iff hpos.ne').mp (Option.some.inj hrule)
  rw [calculateMaxAdditionalUsd, if_neg (not_le.mpr htotal), extractBaseSymbol_idem, hhard,
    hhold, if_neg hden, hadditional, max_eq_right (mul_pos hpart hpos).le]

theorem part_checkTradeAllowed {action : LiveAction} (hact : action = .buy ∨ action = .shortEntry)
    (hpos : 0 < usdValue) :
    (checkTradeAllowed assets symbol usdValue riskLevel action none).part =
      ruleOf assets riskLevel (extractBaseSymbol symbol) usdValue := by
  have hexit : ¬ (action = .sell ∨ action = .shortExit) := by
    rcases hact with rfl | rfl <;> decide
  have hhard : (resolveLimits riskLevel none).hard = hardLimit riskLevel := rfl
  have hhold : ((aggregateByBaseSymbol assets).get? (extractBaseSymbol symbol)).getD 0 =
      holdingOf assets (extractBaseSymbol symbol) := rfl
  rw [checkTradeAllowed, if_neg hexit, hhard, hhold]
  by_cases hstable : isStablecoin (extractBaseSymbol symbol) = true
  · rw [if_pos hstable, ruleOf_unrestricted (Or.inl hstable)]
    rfl
  rw [if_neg hstable]
  by_cases htotal : totalAssetValue assets ≤ 0
  · rw [if_pos htotal, ruleOf_unrestricted (Or.inr (Or.inl htotal))]
    rfl
  rw [if_neg htotal]
  rw [Bool.not_eq_true] at hstable
  rw [not_le] at htotal
  by_cases hfull : hardLimit riskLevel * totalAssetValue assets ≤
      holdingOf assets (extractBaseSymbol symbol)
  · rw [if_pos ((le_div_iff₀ htotal).mpr hfull), ruleOf_atLimit ⟨hstable, htotal, hfull⟩]
    rfl
  rw [if_neg fun h => hfull ((le_div_iff₀ htotal).mp h)]
  have hlimit : ¬ AtLimit assets riskLevel (extractBaseSymbol symbol) := fun h => hfull h.2.2
  have hpost : 0 < totalAssetValue assets + usdValue := add_pos htotal hpos
  by_cases hover : hardLimit riskLevel * (totalAssetValue assets + usdValue) <
      holdingOf assets (extractBaseSymbol symbol) + usdValue
  · rw [if_pos ((lt_div_iff₀ hpost).mpr hover)]
    have hrestr : ¬ Unrestricted assets riskLevel (extractBaseSymbol symbol) usdValue := by
      rintro (h | h | ⟨-, h⟩)
      · rw [hstable] at h
        cases h
      · exact not_lt.mpr h htotal
      · exact not_lt.mpr h hover
    obtain ⟨part, hpart, hpartPos, hpartLt, -⟩ := ruleOf_reduced hpos hlimit hrestr
    have hmax : calculateMaxAdditionalUsd assets (extractBaseSymbol symbol) riskLevel none =
        part * usdValue := maxAdditional_of_rule hpos htotal hpartPos hpart hlimit hrestr
    rw [hmax, if_neg (not_le.mpr (mul_pos hpartPos hpos)), hpart, mul_div_cancel_right₀ _ hpos.ne']
    simp [ConcentrationGateResult.part, min_eq_left hpartLt.le, Option.filter_some, hpartLt]
  · rw [if_neg fun h => hover ((lt_div_iff₀ hpost).mp h), ruleOf_unrestricted
      (Or.inr (Or.inr ⟨not_le.mp hfull, not_lt.mp hover⟩))]
    split <;> rfl

theorem part_checkTradeAllowed_sell :
    (checkTradeAllowed assets symbol usdValue riskLevel .sell none).part = some 1 := by
  rw [checkTradeAllowed, if_pos (Or.inl rfl)]
  rfl

/-! ## A cycle -/

def boughtUsd (trades : List (String × ℚ)) (base : String) : ℚ :=
  (trades.map fun t => if t.1 = base then t.2 else 0).sum

section Cycle

variable (assets : List AssetAllocation) (riskLevel : ℤ)

/-- Paid from cash, no asset bought takes more than the hard limit of the portfolio. -/
def WithinLimit (purchases : List (String × ℚ)) : Prop :=
  ∀ p ∈ purchases, holdingOf assets p.1 + boughtUsd purchases p.1 ≤
    hardLimit riskLevel * totalAssetValue assets

/-- Of each asset asked for, the portfolio is at the limit already, or it has room for all that is
asked for. -/
def RequestsFit (requests : List (String × ℚ)) : Prop :=
  ∀ r ∈ requests, AtLimit assets riskLevel r.1 ∨
    holdingOf assets r.1 + boughtUsd requests r.1 ≤ hardLimit riskLevel * totalAssetValue assets

def purchaseOf (request : String × ℚ) : Option (String × ℚ) :=
  (ruleOf assets riskLevel request.1 request.2).map fun part => (request.1, request.2 * part)

end Cycle

theorem boughtUsd_cons (trade : String × ℚ) (trades : List (String × ℚ)) (base : String) :
    boughtUsd (trade :: trades) base =
      (if trade.1 = base then trade.2 else 0) + boughtUsd trades base := rfl

theorem boughtUsd_nonneg (h : ∀ t ∈ trades, 0 ≤ t.2) (base : String) : 0 ≤ boughtUsd trades base :=
  List.sum_nonneg fun q hq => by
    obtain ⟨t, ht, rfl⟩ := List.mem_map.mp hq
    exact ite_nonneg (h t ht) le_rfl

theorem boughtUsd_le_cons (trade : String × ℚ) (h : 0 ≤ trade.2) (trades : List (String × ℚ))
    (base : String) : boughtUsd trades base ≤ boughtUsd (trade :: trades) base := by
  rw [boughtUsd_cons]
  exact le_add_of_nonneg_left (ite_nonneg h le_rfl)

theorem le_boughtUsd (h : ∀ t ∈ trades, 0 ≤ t.2) {t : String × ℚ} (ht : t ∈ trades) :
    t.2 ≤ boughtUsd trades t.1 := by
  induction trades with
  | nil => cases ht
  | cons head trades ih =>
    have hrest : ∀ t ∈ trades, 0 ≤ t.2 := fun t ht => h t (List.mem_cons_of_mem _ ht)
    rcases List.mem_cons.mp ht with rfl | ht
    · rw [boughtUsd_cons, if_pos rfl]
      exact le_add_of_nonneg_right (boughtUsd_nonneg hrest _)
    · exact (ih hrest ht).trans (boughtUsd_le_cons head (h head List.mem_cons_self) trades _)

theorem purchaseOf_base (h : purchaseOf assets riskLevel request = some purchase) :
    purchase.1 = request.1 := by
  obtain ⟨_, -, rfl⟩ := Option.map_eq_some_iff.mp h
  rfl

theorem purchaseOf_le (hpos : 0 < request.2)
    (h : purchaseOf assets riskLevel request = some purchase) :
    0 < purchase.2 ∧ purchase.2 ≤ request.2 := by
  obtain ⟨part, hpart, rfl⟩ := Option.map_eq_some_iff.mp h
  have hbounds : 0 < part ∧ part ≤ 1 := by
    by_cases hlimit : AtLimit assets riskLevel request.1
    · rw [ruleOf_atLimit hlimit] at hpart
      cases hpart
    by_cases hfree : Unrestricted assets riskLevel request.1 request.2
    · rw [ruleOf_unrestricted hfree] at hpart
      cases hpart
      exact ⟨one_pos, le_rfl⟩
    · obtain ⟨_, hpart', hpartPos, hpartLt, -⟩ := ruleOf_reduced hpos hlimit hfree
      rw [hpart] at hpart'
      cases hpart'
      exact ⟨hpartPos, hpartLt.le⟩
  exact ⟨mul_pos hpos hbounds.1, mul_le_of_le_one_right hpos.le hbounds.2⟩

variable {requests : List (String × ℚ)}

theorem purchases_pos (hpos : ∀ r ∈ requests, 0 < r.2) :
    ∀ p ∈ requests.filterMap (purchaseOf assets riskLevel), 0 ≤ p.2 := by
  intro p hp
  obtain ⟨r, hr, hpurchase⟩ := List.mem_filterMap.mp hp
  exact (purchaseOf_le (hpos r hr) hpurchase).1.le

theorem boughtUsd_filterMap_le (hpos : ∀ r ∈ requests, 0 < r.2) (base : String) :
    boughtUsd (requests.filterMap (purchaseOf assets riskLevel)) base ≤
      boughtUsd requests base := by
  induction requests with
  | nil => exact le_rfl
  | cons r requests ih =>
    have hrest := ih fun r hr => hpos r (List.mem_cons_of_mem _ hr)
    have hr := hpos r List.mem_cons_self
    rw [List.filterMap_cons]
    split
    · exact hrest.trans (boughtUsd_le_cons r hr.le requests base)
    · rename_i p hp
      have hle := (purchaseOf_le hr hp).2
      rw [boughtUsd_cons, boughtUsd_cons, purchaseOf_base hp]
      refine add_le_add ?_ hrest
      split
      · exact hle
      · exact le_rfl

theorem boughtUsd_filterMap_eq
    (h : ∀ r ∈ requests, r.1 = base → purchaseOf assets riskLevel r = some r) :
    boughtUsd (requests.filterMap (purchaseOf assets riskLevel)) base =
      boughtUsd requests base := by
  induction requests with
  | nil => rfl
  | cons r requests ih =>
    have hrest := ih fun r hr => h r (List.mem_cons_of_mem _ hr)
    rw [List.filterMap_cons, boughtUsd_cons]
    by_cases hbase : r.1 = base
    · rw [h r List.mem_cons_self hbase]
      dsimp only
      rw [boughtUsd_cons, hrest]
    · rw [if_neg hbase, zero_add]
      split
      · exact hrest
      · rename_i p hp
        rw [boughtUsd_cons, purchaseOf_base hp, if_neg hbase, zero_add, hrest]

theorem withinLimit_iff (hpos : ∀ r ∈ requests, 0 < r.2) :
    WithinLimit assets riskLevel (requests.filterMap (purchaseOf assets riskLevel)) ↔
      RequestsFit assets riskLevel requests := by
  constructor
  · intro hwith r hr
    by_cases hlimit : AtLimit assets riskLevel r.1
    · exact .inl hlimit
    refine .inr ?_
    have hwhole : ∀ r' ∈ requests, r'.1 = r.1 → purchaseOf assets riskLevel r' = some r' := by
      intro r' hr' hbase
      by_cases hfree : Unrestricted assets riskLevel r'.1 r'.2
      · rw [purchaseOf, ruleOf_unrestricted hfree, Option.map_some, mul_one]
      · obtain ⟨part, hpart, -, -, _⟩ := ruleOf_reduced (hpos r' hr') (hbase ▸ hlimit) hfree
        have hmem : (r'.1, r'.2 * part) ∈
            requests.filterMap (purchaseOf assets riskLevel) :=
          List.mem_filterMap.mpr ⟨r', hr', by rw [purchaseOf, hpart]; rfl⟩
        have hbght := le_boughtUsd (purchases_pos hpos) hmem
        have hle := hwith _ hmem
        dsimp only at hbght hle
        linarith
    have hmem : r ∈ requests.filterMap (purchaseOf assets riskLevel) :=
      List.mem_filterMap.mpr ⟨r, hr, hwhole r hr rfl⟩
    rw [← boughtUsd_filterMap_eq hwhole]
    exact hwith r hmem
  · intro hfits p hp
    obtain ⟨r, hr, hpurchase⟩ := List.mem_filterMap.mp hp
    rw [purchaseOf_base hpurchase]
    rcases hfits r hr with hlimit | hroom
    · rw [purchaseOf, ruleOf_atLimit hlimit] at hpurchase
      cases hpurchase
    · exact (add_le_add_right (boughtUsd_filterMap_le hpos _) _).trans hroom

/-! ## Live trading -/

def liveRequest (signal : LiveTradingSignal) : Option (String × ℚ) :=
  if signal.action = .buy then
    some (extractBaseSymbol signal.symbol, signal.quantity * signal.price)
  else none

theorem concentrationGate_entry {signal : LiveTradingSignal}
    (hact : signal.action = .buy ∨ signal.action = .shortEntry)
    (hpos : 0 < signal.quantity * signal.price) :
    concentrationGate assets riskLevel signal =
      (ruleOf assets riskLevel (extractBaseSymbol signal.symbol)
        (signal.quantity * signal.price)).map fun part =>
          { signal with quantity := signal.quantity * part } := by
  unfold concentrationGate
  rw [if_pos hact]
  dsimp only
  rw [part_checkTradeAllowed hact hpos]

theorem concentrationGate_request {signal : LiveTradingSignal}
    (hpos : 0 < signal.quantity * signal.price) :
    (concentrationGate assets riskLevel signal).bind liveRequest =
      (liveRequest signal).bind (purchaseOf assets riskLevel) := by
  by_cases hbuy : signal.action = .buy
  · rw [concentrationGate_entry (Or.inl hbuy) hpos, liveRequest, if_pos hbuy, Option.bind_some,
      purchaseOf]
    cases ruleOf assets riskLevel (extractBaseSymbol signal.symbol)
      (signal.quantity * signal.price) with
    | none => rfl
    | some =>
      rw [Option.map_some, Option.bind_some, liveRequest, if_pos hbuy, Option.map_some,
        mul_right_comm]
  · rw [liveRequest, if_neg hbuy, Option.bind_none]
    unfold concentrationGate
    split
    · refine Option.bind_eq_none_iff.mpr fun gated hgated => ?_
      obtain ⟨_, -, rfl⟩ := Option.map_eq_some_iff.mp hgated
      rw [liveRequest, if_neg hbuy]
    · rw [Option.bind_some, liveRequest, if_neg hbuy]

/-- The entries of a cycle are paid within the limit, and a short entry is let through at the size
of a long one. -/
def LiveTradingKeeps (assets : List AssetAllocation) (riskLevel : ℤ)
    (signals : List LiveTradingSignal) : Prop :=
  WithinLimit assets riskLevel ((gatedSignals assets riskLevel signals).filterMap liveRequest) ∧
    ∀ s ∈ signals, s.action = .shortEntry →
      (concentrationGate assets riskLevel s).map (·.quantity) =
        (concentrationGate assets riskLevel { s with action := .buy }).map (·.quantity)

theorem liveTradingKeeps_iff {signals : List LiveTradingSignal}
    (hpos : ∀ s ∈ signals, 0 < s.quantity * s.price) :
    LiveTradingKeeps assets riskLevel signals ↔
      RequestsFit assets riskLevel (signals.filterMap liveRequest) := by
  have hpurchases : (gatedSignals assets riskLevel signals).filterMap liveRequest =
      (signals.filterMap liveRequest).filterMap (purchaseOf assets riskLevel) := by
    rw [gatedSignals, List.filterMap_filterMap, List.filterMap_filterMap]
    exact List.filterMap_congr fun s hs => concentrationGate_request (hpos s hs)
  have hreqs : ∀ r ∈ signals.filterMap liveRequest, 0 < r.2 := by
    intro r hr
    obtain ⟨s, hs, hreq⟩ := List.mem_filterMap.mp hr
    unfold liveRequest at hreq
    split at hreq
    · cases hreq
      exact hpos s hs
    · cases hreq
  have hshort : ∀ s ∈ signals, s.action = .shortEntry →
      (concentrationGate assets riskLevel s).map (·.quantity) =
        (concentrationGate assets riskLevel { s with action := .buy }).map (·.quantity) := by
    intro s hs hact
    have hbuy : concentrationGate assets riskLevel { s with action := .buy } =
        (ruleOf assets riskLevel (extractBaseSymbol s.symbol) (s.quantity * s.price)).map
          fun part => { s with action := .buy, quantity := s.quantity * part } :=
      concentrationGate_entry (Or.inl rfl) (hpos s hs)
    rw [concentrationGate_entry (Or.inr hact) (hpos s hs), hbuy, Option.map_map, Option.map_map]
    rfl
  rw [LiveTradingKeeps, hpurchases, withinLimit_iff hreqs]
  exact and_iff_left hshort

/-! ## Algorithm activations -/

section Activations

variable {user : UserPreflight}

def activationRequest (user : UserPreflight) (signal : ActivationSignal) : Option (String × ℚ) :=
  if signal.action = .buy ∧ signal.positionSide ≠ some .short then
    some (extractBaseSymbol signal.symbol, tradeSizeUsd user signal)
  else none

/-- The gates beside the concentration gate. -/
def PassesOthers (user : UserPreflight) (signal : ActivationSignal × Bool) : Prop :=
  user.isDailyLossBlocked = false ∧ (user.context signal.1).existingHolding = none ∧ signal.2 = true

instance (signal : ActivationSignal × Bool) : Decidable (PassesOthers user signal) :=
  inferInstanceAs (Decidable (_ ∧ _ ∧ _))

/-- What is asked for by the signals that the other gates let through. -/
def activationRequests (user : UserPreflight) (signals : List (ActivationSignal × Bool)) :
    List (String × ℚ) :=
  signals.filterMap fun s => if PassesOthers user s then activationRequest user s.1 else none

theorem estimatedTradeUsd_context (signal : ActivationSignal) :
    (user.context signal).estimatedTradeUsd = tradeSizeUsd user signal := by
  rw [tradeSizeUsd, mul_div_assoc]
  rfl

theorem checkEntryGates_long {ctx : EntryGateContext} (cooldownAllowed : Bool)
    (hlong : ctx.action = .buy ∧ ctx.positionSide ≠ some .short) :
    ((checkEntryGates ctx cooldownAllowed).allowed = true ↔
      (ctx.isDailyLossBlocked = false ∧ ctx.existingHolding = none ∧ cooldownAllowed = true) ∧
        ctx.concCheck.allowed = true) ∧
    ((checkEntryGates ctx cooldownAllowed).allowed = true →
      (checkEntryGates ctx cooldownAllowed).adjustedQuantity =
        ctx.concCheck.adjustedQuantity.filter (· < 1)) := by
  have hentry : ctx.IsEntry := Or.inl hlong
  unfold checkEntryGates
  rw [if_pos hentry]
  cases ctx.isDailyLossBlocked with
  | true => simp
  | false =>
    cases ctx.existingHolding with
    | some => simp [hlong.1]
    | none =>
      cases ctx.concCheck.allowed with
      | false => simp
      | true =>
        cases ctx.concCheck.adjustedQuantity.filter (· < 1) with
        | none | some => cases cooldownAllowed <;> simp [checkCooldown]

variable {signal : ActivationSignal} {cooldownAllowed : Bool}

theorem gateActivation_long (hlong : signal.action = .buy ∧ signal.positionSide ≠ some .short) :
    gateActivation user signal cooldownAllowed =
      if PassesOthers user (signal, cooldownAllowed) then
        (user.context signal).concCheck.part.map fun part =>
          { signal with allocationPercentage := signal.allocationPercentage * part }
      else none := by
  have hctx : (user.context signal).action = .buy ∧
      (user.context signal).positionSide ≠ some .short := hlong
  obtain ⟨hall, hadj⟩ := checkEntryGates_long cooldownAllowed hctx
  unfold gateActivation
  dsimp only
  by_cases hpass : PassesOthers user (signal, cooldownAllowed)
  · rw [if_pos hpass]
    cases hconc : (user.context signal).concCheck.allowed with
    | false =>
      have hrefu : ¬ (checkEntryGates (user.context signal) cooldownAllowed).allowed = true := by
        rw [hall, hconc]
        exact fun h => by cases h.2
      have hnone : (user.context signal).concCheck.part = none := by
        rw [ConcentrationGateResult.part, hconc]
        rfl
      rw [if_neg hrefu, hnone]
      rfl
    | true =>
      have h := hall.mpr ⟨hpass, hconc⟩
      rw [if_pos h, hadj h, Option.filter_filter, ConcentrationGateResult.part, if_pos hconc]
      simp
  · rw [if_neg hpass, if_neg fun h => hpass (hall.mp h).1]

theorem gateActivation_action {signal gated : ActivationSignal}
    (h : gateActivation user signal cooldownAllowed = some gated) :
    gated.action = signal.action ∧ gated.positionSide = signal.positionSide := by
  unfold gateActivation at h
  dsimp only at h
  split at h
  · cases h
    exact ⟨rfl, rfl⟩
  · cases h

theorem concCheck_long (hbuy : signal.action = .buy) (hpos : 0 < tradeSizeUsd user signal) :
    (user.context signal).concCheck.part =
      ruleOf user.assets user.riskLevel (extractBaseSymbol signal.symbol)
        (tradeSizeUsd user signal) := by
  have hact : (user.context signal).action.toAction = .buy := by
    rw [show (user.context signal).action = .buy from hbuy]
    rfl
  rw [EntryGateContext.concCheck, estimatedTradeUsd_context, hact]
  exact part_checkTradeAllowed (Or.inl rfl) hpos

theorem gateActivation_request (hpos : 0 < tradeSizeUsd user signal) :
    (gateActivation user signal cooldownAllowed).bind (activationRequest user) =
      (if PassesOthers user (signal, cooldownAllowed) then activationRequest user signal
        else none).bind (purchaseOf user.assets user.riskLevel) := by
  by_cases hlong : signal.action = .buy ∧ signal.positionSide ≠ some .short
  · have hrule : (user.context signal).concCheck.part =
        ruleOf user.assets user.riskLevel (extractBaseSymbol signal.symbol)
          (tradeSizeUsd user signal) := concCheck_long hlong.1 hpos
    rw [gateActivation_long hlong, hrule]
    by_cases hpass : PassesOthers user (signal, cooldownAllowed)
    · rw [if_pos hpass, if_pos hpass, activationRequest, if_pos hlong, Option.bind_some, purchaseOf]
      cases ruleOf user.assets user.riskLevel (extractBaseSymbol signal.symbol)
        (tradeSizeUsd user signal) with
      | none => rfl
      | some part =>
        have hsize : user.portfolioValue * (signal.allocationPercentage * part) / 100 =
            user.portfolioValue * signal.allocationPercentage / 100 * part := by ring
        rw [Option.map_some, Option.bind_some, activationRequest, if_pos hlong, Option.map_some,
          tradeSizeUsd, tradeSizeUsd, hsize]
    · rw [if_neg hpass, if_neg hpass]
      rfl
  · have hnone : (if PassesOthers user (signal, cooldownAllowed) then activationRequest user signal
        else none) = none := by
      rw [activationRequest, if_neg hlong, ite_self]
    rw [hnone, Option.bind_none]
    refine Option.bind_eq_none_iff.mpr fun gated hgated => ?_
    obtain ⟨hact, hside⟩ := gateActivation_action hgated
    rw [activationRequest, hact, hside, if_neg hlong]

/-- The entries of a cycle are paid within the limit, and the check lets a short entry through at the
size of a long one. -/
def ActivationsKeep (user : UserPreflight) (signals : List (ActivationSignal × Bool)) : Prop :=
  WithinLimit user.assets user.riskLevel
      ((gatedActivations user signals).filterMap (activationRequest user)) ∧
    ∀ s ∈ signals, s.1.action = .sell → s.1.positionSide = some .short →
      (user.context s.1).concCheck.part =
        (user.context { s.1 with action := .buy, positionSide := some .long }).concCheck.part

/-- No short entry asks for more than a long entry would get. -/
def ShortsUnrestricted (user : UserPreflight) (signals : List (ActivationSignal × Bool)) : Prop :=
  ∀ s ∈ signals, s.1.action = .sell → s.1.positionSide = some .short →
    Unrestricted user.assets user.riskLevel (extractBaseSymbol s.1.symbol) (tradeSizeUsd user s.1)

theorem concCheck_short (hsell : signal.action = .sell) :
    (user.context signal).concCheck.part = some 1 := by
  have hact : (user.context signal).action.toAction = .sell := by
    rw [show (user.context signal).action = .sell from hsell]
    rfl
  rw [EntryGateContext.concCheck, hact]
  exact part_checkTradeAllowed_sell

theorem ruleOf_eq_one_iff {base : String} {usdValue : ℚ} (hpos : 0 < usdValue) :
    ruleOf assets riskLevel base usdValue = some 1 ↔
      Unrestricted assets riskLevel base usdValue := by
  refine ⟨fun h => ?_, ruleOf_unrestricted⟩
  by_contra hrestr
  by_cases hlimit : AtLimit assets riskLevel base
  · rw [ruleOf_atLimit hlimit] at h
    cases h
  · obtain ⟨_, hpart, -, hlt, -⟩ := ruleOf_reduced hpos hlimit hrestr
    rw [h] at hpart
    cases hpart
    exact lt_irrefl _ hlt

theorem activationsKeep_iff {signals : List (ActivationSignal × Bool)}
    (hpos : ∀ s ∈ signals, 0 < tradeSizeUsd user s.1) :
    ActivationsKeep user signals ↔
      RequestsFit user.assets user.riskLevel (activationRequests user signals) ∧
        ShortsUnrestricted user signals := by
  have hpurchases : (gatedActivations user signals).filterMap (activationRequest user) =
      (activationRequests user signals).filterMap
        (purchaseOf user.assets user.riskLevel) := by
    rw [gatedActivations, activationRequests, List.filterMap_filterMap, List.filterMap_filterMap]
    exact List.filterMap_congr fun s hs => gateActivation_request (hpos s hs)
  have hreqs : ∀ r ∈ activationRequests user signals, 0 < r.2 := by
    intro r hr
    obtain ⟨s, hs, hreq⟩ := List.mem_filterMap.mp hr
    split at hreq
    · unfold activationRequest at hreq
      split at hreq
      · cases hreq
        exact hpos s hs
      · cases hreq
    · cases hreq
  rw [ActivationsKeep, hpurchases, withinLimit_iff hreqs]
  refine and_congr_right fun _ => forall₂_congr fun s hs => forall₂_congr fun hsell _ => ?_
  have hlong :
      (user.context { s.1 with action := .buy, positionSide := some .long }).concCheck.part =
        ruleOf user.assets user.riskLevel (extractBaseSymbol s.1.symbol) (tradeSizeUsd user s.1) :=
    concCheck_long rfl (hpos s hs)
  rw [concCheck_short hsell, hlong, eq_comm]
  exact ruleOf_eq_one_iff (hpos s hs)

end Activations

/-! ## Both pipelines -/

/-- **When a cycle keeps the concentration limit**: in live trading just when all that it asks for of
an asset fits into the room, or the asset is at its limit already; among activations if moreover no
short entry asks for more than a long one would get. -/
theorem concentration_limit_iff (assets : List AssetAllocation) (riskLevel : ℤ)
    (signals : List LiveTradingSignal) (hsignals : ∀ s ∈ signals, 0 < s.quantity * s.price)
    (user : UserPreflight) (activations : List (ActivationSignal × Bool))
    (hactivations : ∀ s ∈ activations, 0 < tradeSizeUsd user s.1) :
    (LiveTradingKeeps assets riskLevel signals ↔
      RequestsFit assets riskLevel (signals.filterMap liveRequest)) ∧
    (ActivationsKeep user activations ↔
      RequestsFit user.assets user.riskLevel (activationRequests user activations) ∧
        ShortsUnrestricted user activations) :=
  ⟨liveTradingKeeps_iff hsignals, activationsKeep_iff hactivations⟩

def bitcoinUser : UserPreflight where
  portfolioValue := 10000
  assets := [⟨"USDT", 7000⟩, ⟨"BTC", 3000⟩]
  riskLevel := 3
  isDailyLossBlocked := false

def bitcoinBuy (quantity : ℚ) : LiveTradingSignal where
  action := .buy
  symbol := "BTC/USDT"
  quantity := quantity
  price := 100
  reason := ""
  confidence := 1
  exitConfig := none
  coinId := "bitcoin"
  originalType := .buy

theorem concentration_limit_iff_bitcoin :
    (LiveTradingKeeps bitcoinUser.assets 3 [bitcoinBuy 4] ↔
      RequestsFit bitcoinUser.assets 3 ([bitcoinBuy 4].filterMap liveRequest)) ∧
    (ActivationsKeep bitcoinUser [(⟨"ETH/USDT", .buy, none, 5⟩, true)] ↔
      RequestsFit bitcoinUser.assets 3
          (activationRequests bitcoinUser [(⟨"ETH/USDT", .buy, none, 5⟩, true)]) ∧
        ShortsUnrestricted bitcoinUser [(⟨"ETH/USDT", .buy, none, 5⟩, true)]) :=
  concentration_limit_iff bitcoinUser.assets 3 [bitcoinBuy 4] (by decide +kernel) bitcoinUser
    [(⟨"ETH/USDT", .buy, none, 5⟩, true)] (by decide +kernel)

theorem reduced_entry_exceeds_limit :
    ¬ LiveTradingKeeps bitcoinUser.assets 3 [bitcoinBuy 10] ∧
      ¬ ActivationsKeep bitcoinUser [(⟨"ETH/USDT", .sell, some .short, 60⟩, true)] := by
  unfold LiveTradingKeeps ActivationsKeep WithinLimit
  decide +kernel

end Chansey
