import Chansey.Live.OrderRows

/-!
# Three readings of one report

An executed signal, an order placed by hand and a synchronisation each build a row from the report
of the exchange, with tests of their own.

* `ConversionPath`: the paths. `ConvertersAgree`: each path stores the same status, executed
  quantity, cost and fee, a filled order has a filled quantity, and a cancelled one has ended.
-/

namespace Chansey

/-- A path by which the report of an order is stored, with what else it is given. -/
inductive ConversionPath where
  /-- `convertCcxtOrderToEntity` -/
  | executed (userId exchangeSlug : String) (algorithmActivationId : Option String)
      (futuresSignal : Option (Option PositionSide)) (id : OrderId) (now : Instant)
  | manual (dto : PlaceManualOrderDto) (userId exchangeSlug : String) (id : OrderId) (now : Instant)
  /-- `createNewOrder` of a synchronisation. -/
  | synced (target : SyncTarget) (now : Instant)

def ConversionPath.row (ccxtOrder : OrderReport) : ConversionPath → StoredOrder
  | .executed userId exchangeSlug algorithmActivationId futuresSignal id now =>
    convertCcxtOrderToEntity ccxtOrder userId exchangeSlug algorithmActivationId futuresSignal id now
  | .manual dto userId exchangeSlug id now => manualOrder dto userId exchangeSlug ccxtOrder id now
  | .synced target now => syncedOrder target ccxtOrder now

structure Conversion where
  status : OrderStatus
  executedQuantity : ℚ
  cost : Option ℚ
  fee : ℚ

def StoredOrder.conversion (order : StoredOrder) : Conversion where
  status := order.status
  executedQuantity := order.executedQuantity
  cost := order.cost
  fee := order.fee

def OrderReport.CanceledPart (ccxtOrder : OrderReport) : Prop :=
  (ccxtOrder.status = some "canceled" ∨ ccxtOrder.status = some "cancelled") ∧
    0 < ccxtOrder.filled.getD 0 ∧ ccxtOrder.filled.getD 0 < ccxtOrder.amount.getD 0

structure ConvertersAgree (ccxtOrder : OrderReport) : Prop where
  same : ∀ path path' : ConversionPath,
    (path.row ccxtOrder).conversion = (path'.row ccxtOrder).conversion
  filled : ∀ path : ConversionPath,
    (path.row ccxtOrder).status = .filled → 0 < ccxtOrder.filled.getD 0
  canceled : ccxtOrder.CanceledPart → ∀ path : ConversionPath,
    isTerminalState (path.row ccxtOrder).status = true

/-! ## When they agree -/

def STATUS_WORDS : List String :=
  ["closed", "canceled", "cancelled", "expired", "rejected", "partial", "partially_filled"]

/-- An order that is closed has a filled quantity. Any other one has none, as far as the report tells,
and the word for its status is read by all paths, or by none. -/
def StatusReadAlike (ccxtOrder : OrderReport) : Prop :=
  ccxtOrder.status = some "closed" ∧ 0 < ccxtOrder.filled.getD 0 ∨
    ¬ 0 < ccxtOrder.filled.getD 0 ∧ ccxtOrder.filled ≠ ccxtOrder.amount ∧
      (ccxtOrder.status = some "canceled" ∨ ccxtOrder.status = some "rejected" ∨
        ∀ word ∈ ccxtOrder.status, word.toLower ∉ STATUS_WORDS)

/-- Neither the trades nor the exchange's own fields name a higher fee. -/
def FeeReadAlike (ccxtOrder : OrderReport) : Prop :=
  (ccxtOrder.trades ≠ [] → (extractFeesFromTrades ccxtOrder.trades).fee ≤ ccxtOrder.feeCost) ∧
    (0 < (extractFeeFromOrderInfo ccxtOrder.info).fee →
      (extractFeeFromOrderInfo ccxtOrder.info).fee ≤ ccxtOrder.feeCost)

variable {ccxtOrder : OrderReport}

def OrderReport.syncStatus (ccxtOrder : OrderReport) : OrderStatus :=
  mapCcxtStatusToOrderStatus (ccxtOrder.status.getD "open")

theorem mapExchangeStatus_eq_new {status : Option String}
    (h : ∀ word ∈ status, word.toLower ∉ STATUS_WORDS) :
    mapExchangeStatusToOrderStatus status = .new := by
  cases status with
  | none => rfl
  | some word =>
    have hword := h word rfl
    simp only [STATUS_WORDS, List.mem_cons, List.not_mem_nil, or_false, not_or] at hword
    unfold mapExchangeStatusToOrderStatus
    rw [Option.map_some]
    split <;> simp_all

theorem status_words_of_new {status : Option String}
    (h : mapExchangeStatusToOrderStatus status = .new) :
    ∀ word ∈ status, word.toLower ∉ STATUS_WORDS := by
  rintro word hword hmem
  obtain rfl := Option.mem_def.1 hword
  simp only [STATUS_WORDS, List.mem_cons, List.not_mem_nil, or_false] at hmem
  unfold mapExchangeStatusToOrderStatus at h
  rw [Option.map_some] at h
  rcases hmem with heq | heq | heq | heq | heq | heq | heq <;> rw [heq] at h <;> cases h

theorem mapExchangeStatus_of_word :
    mapExchangeStatusToOrderStatus (some "closed") = .filled ∧
      mapExchangeStatusToOrderStatus (some "canceled") = .canceled ∧
      mapExchangeStatusToOrderStatus (some "expired") = .expired ∧
      mapExchangeStatusToOrderStatus (some "rejected") = .rejected := by
  decide +kernel

theorem syncStatus_eq_filled :
    ccxtOrder.syncStatus = .filled ↔ ccxtOrder.status = some "closed" := by
  refine ⟨fun h => ?_, fun h => ?_⟩
  · unfold OrderReport.syncStatus mapCcxtStatusToOrderStatus at h
    split at h
    · rename_i hclos
      cases hstat : ccxtOrder.status with
      | none => rw [hstat] at hclos; exact absurd hclos (by decide)
      | some => rw [hstat, Option.getD_some] at hclos; rw [hclos]
    · split_ifs at h
  · simp [OrderReport.syncStatus, h, mapCcxtStatusToOrderStatus]

theorem syncStatus_ne_partiallyFilled : ccxtOrder.syncStatus ≠ .partiallyFilled := by
  unfold OrderReport.syncStatus mapCcxtStatusToOrderStatus
  split_ifs <;> exact fun h => nomatch h

theorem status_unknown (hword : ∀ word ∈ ccxtOrder.status, word.toLower ∉ STATUS_WORDS) :
    ccxtOrder.syncStatus = .new ∧ ∀ word ∈ ["closed", "canceled", "rejected"],
      ccxtOrder.status ≠ some word := by
  have hne : ∀ word ∈ ["closed", "canceled", "expired", "rejected"],
      ccxtOrder.status ≠ some word := by
    intro word hmem hstat
    refine hword word hstat ?_
    simp only [List.mem_cons, List.not_mem_nil, or_false] at hmem
    rcases hmem with rfl | rfl | rfl | rfl <;> decide +kernel
  refine ⟨?_, fun word hmem => hne word (by simp at hmem ⊢; tauto)⟩
  cases hstat : ccxtOrder.status with
  | none => simp [OrderReport.syncStatus, hstat, mapCcxtStatusToOrderStatus]
  | some word =>
    have hother : ∀ known ∈ ["closed", "canceled", "expired", "rejected"], word ≠ known :=
      fun known hmem heq => hne known hmem (heq ▸ hstat)
    simp only [List.mem_cons, List.not_mem_nil, or_false, forall_eq_or_imp, forall_eq] at hother
    simp [OrderReport.syncStatus, hstat, mapCcxtStatusToOrderStatus, hother]

theorem status_agree_of_filled (hpos : 0 < ccxtOrder.filled.getD 0) :
    resolveOrderStatus ccxtOrder = ccxtOrder.syncStatus ↔ ccxtOrder.status = some "closed" := by
  refine ⟨fun h => ?_, fun h => ?_⟩
  · by_contra hclos
    unfold resolveOrderStatus at h
    split_ifs at h with hfld
    · exact hclos (syncStatus_eq_filled.1 h.symm)
    · exact syncStatus_ne_partiallyFilled h.symm
  · rw [syncStatus_eq_filled.2 h, resolveOrderStatus, if_pos (.inl h)]

theorem status_agree_iff :
    (resolveOrderStatus ccxtOrder = mapExchangeStatusToOrderStatus ccxtOrder.status ∧
        ccxtOrder.syncStatus = mapExchangeStatusToOrderStatus ccxtOrder.status) ∧
        (ccxtOrder.syncStatus = .filled → 0 < ccxtOrder.filled.getD 0) ↔
      StatusReadAlike ccxtOrder := by
  obtain ⟨hclos, hcanceled, -, hrejd⟩ := mapExchangeStatus_of_word
  by_cases hpos : 0 < ccxtOrder.filled.getD 0
  · have honly : StatusReadAlike ccxtOrder ↔ ccxtOrder.status = some "closed" := by
      simp [StatusReadAlike, hpos]
    rw [honly, ← status_agree_of_filled hpos]
    refine ⟨fun h => h.1.1.trans h.1.2.symm, fun h => ⟨?_, fun _ => hpos⟩⟩
    have hstat := (status_agree_of_filled hpos).1 h
    have hsync : ccxtOrder.syncStatus = mapExchangeStatusToOrderStatus ccxtOrder.status := by
      rw [syncStatus_eq_filled.2 hstat, hstat, hclos]
    exact ⟨h.trans hsync, hsync⟩
  · refine ⟨fun ⟨⟨hresolve, hsync⟩, hfld⟩ => .inr ⟨hpos, ?_⟩, fun h => ?_⟩
    · have hnot : resolveOrderStatus ccxtOrder ≠ .filled := fun heq =>
        hpos (hfld (hsync.trans (hresolve.symm.trans heq)))
      unfold resolveOrderStatus at hnot hresolve
      split_ifs at hnot hresolve with hfull hcancel hrej
      · exact absurd rfl hnot
      · exact ⟨fun heq => hfull (.inr heq), .inl hcancel⟩
      · exact ⟨fun heq => hfull (.inr heq), .inr (.inl hrej)⟩
      · exact ⟨fun heq => hfull (.inr heq), .inr (.inr (status_words_of_new hresolve.symm))⟩
    · obtain ⟨-, hne, hword⟩ := h.resolve_left fun hfull => hpos hfull.2
      rcases hword with hword | hword | hword
      · simp [resolveOrderStatus, OrderReport.syncStatus, hword, hne, hpos, hcanceled,
          mapCcxtStatusToOrderStatus]
      · simp [resolveOrderStatus, OrderReport.syncStatus, hword, hne, hpos, hrejd,
          mapCcxtStatusToOrderStatus]
      · obtain ⟨hsync, hunknown⟩ := status_unknown hword
        have hresolve : resolveOrderStatus ccxtOrder = .new := by
          simp only [List.mem_cons, List.not_mem_nil, or_false, forall_eq_or_imp, forall_eq]
            at hunknown
          simp [resolveOrderStatus, hunknown, hne, hpos]
        rw [hresolve, hsync, mapExchangeStatus_eq_new hword]
        simp

/-! ## Costs and fees -/

theorem row_cost (hcost : 0 < ccxtOrder.cost.getD 0) (path : ConversionPath) :
    (path.row ccxtOrder).cost = some (ccxtOrder.cost.getD 0) := by
  cases hrep : ccxtOrder.cost with
  | none => rw [hrep] at hcost; exact absurd hcost (lt_irrefl _)
  | some =>
    rw [hrep, Option.getD_some] at hcost
    cases path with
    | executed =>
      simp [ConversionPath.row, convertCcxtOrderToEntity, hrep, Js.truthy?, Option.filter,
        hcost.ne']
    | manual => simp [ConversionPath.row, manualOrder, hrep]
    | synced =>
      simp [ConversionPath.row, syncedOrder, createNewOrder, calculateOrderCost, hrep, hcost]

namespace ConversionPath

/-! A path of each kind, for a report alone. -/

def ofSignal : ConversionPath := .executed "" "" none none "" 0

def byHand : ConversionPath :=
  .manual { symbol := "", side := .buy, orderType := .market, quantity := 0, exchangeKeyId := "" }
    "" "" "" 0

def ofSync : ConversionPath := .synced { userId := "", exchangeName := "", newId := id } 0

end ConversionPath

open ConversionPath

theorem cost_agree_iff :
    (∀ path path' : ConversionPath, (path.row ccxtOrder).cost = (path'.row ccxtOrder).cost) ↔
      0 < ccxtOrder.cost.getD 0 := by
  refine ⟨fun h => ?_, fun hcost path path' => by rw [row_cost hcost, row_cost hcost]⟩
  have hsame : some (ccxtOrder.cost.getD 0) =
      if 0 < calculateOrderCost ccxtOrder.toExchangeOrder then
        some (calculateOrderCost ccxtOrder.toExchangeOrder)
      else none := h byHand ofSync
  split_ifs at hsame with hpos
  rwa [← Option.some.inj hsame] at hpos

theorem orderFee_eq :
    ((ccxtOrder.fee.filter fun fee => fee.cost.getD 0 ≠ 0).bind ReportedFee.cost).getD 0 =
      ccxtOrder.feeCost := by
  unfold OrderReport.feeCost
  cases ccxtOrder.fee with
  | none => rfl
  | some fee =>
    by_cases hcost : fee.cost.getD 0 = 0
    · simp [Option.filter, hcost]
    · simp [Option.filter, hcost]

theorem max_max_eq_left {a b c : ℚ} : max (max a b) c = a ↔ b ≤ a ∧ c ≤ a := by
  rw [max_assoc, max_eq_left_iff, max_le_iff]

theorem extractFeeData_fee_iff :
    (extractFeeData ccxtOrder.toCcxtOrder.toExchangeOrder).fee = ccxtOrder.feeCost ↔
      FeeReadAlike ccxtOrder := by
  simp only [extractFeeData, FeeReadAlike, orderFee_eq]
  by_cases htrades : ccxtOrder.trades = [] <;>
    by_cases hinfo : 0 < (extractFeeFromOrderInfo ccxtOrder.info).fee <;>
    simp [htrades, hinfo, max_max_eq_left]

/-! ## The whole row -/

theorem conversion_status (path : ConversionPath) :
    (path.row ccxtOrder).status = match path with
      | .executed .. => resolveOrderStatus ccxtOrder
      | .manual .. => mapExchangeStatusToOrderStatus ccxtOrder.status
      | .synced .. => ccxtOrder.syncStatus := by
  cases path <;> rfl

theorem conversion_fee (path : ConversionPath) :
    (path.row ccxtOrder).fee = match path with
      | .executed .. | .manual .. => ccxtOrder.feeCost
      | .synced .. => (extractFeeData ccxtOrder.toCcxtOrder.toExchangeOrder).fee := by
  cases path <;> rfl

theorem conversion_executedQuantity (path : ConversionPath) :
    (path.row ccxtOrder).executedQuantity = ccxtOrder.filled.getD 0 := by
  cases path <;> rfl

/-- **The paths agree on the reports that name a positive cost and no higher fee elsewhere, and whose
status and filled quantity do not contradict each other.** -/
theorem convertersAgree_iff (ccxtOrder : OrderReport) :
    ConvertersAgree ccxtOrder ↔
      StatusReadAlike ccxtOrder ∧ 0 < ccxtOrder.cost.getD 0 ∧ FeeReadAlike ccxtOrder := by
  rw [← status_agree_iff, ← cost_agree_iff, ← extractFeeData_fee_iff]
  refine ⟨fun h => ?_, fun ⟨⟨⟨hresolve, hsync⟩, hfilled⟩, hcost, hfee⟩ => ?_⟩
  · have hstatus := fun path path' => congrArg Conversion.status (h.same path path')
    refine ⟨⟨⟨hstatus ofSignal byHand, hstatus ofSync byHand⟩, h.filled ofSync⟩, fun path path' => ?_, ?_⟩
    · exact congrArg Conversion.cost (h.same path path')
    · exact congrArg Conversion.fee (h.same ofSync byHand)
  · have hstatus : ∀ path : ConversionPath, (path.row ccxtOrder).status = ccxtOrder.syncStatus := by
      intro path
      rw [conversion_status]
      cases path with
      | executed => exact hresolve.trans hsync.symm
      | manual => exact hsync.symm
      | synced => rfl
    have hfees : ∀ path : ConversionPath, (path.row ccxtOrder).fee = ccxtOrder.feeCost := by
      intro path
      rw [conversion_fee]
      cases path with
      | executed | manual => rfl
      | synced => exact hfee
    refine ⟨fun path path' => ?_, fun path heq => hfilled ((hstatus path).symm.trans heq),
      fun hpart => ?_⟩
    · simp only [StoredOrder.conversion, hstatus, hfees, conversion_executedQuantity,
        hcost path path']
    · -- a cancelled order with a partial fill is not among the reports that are read alike
      have halike := status_agree_iff.1 ⟨⟨hresolve, hsync⟩, hfilled⟩
      rcases halike with ⟨hclosed, -⟩ | ⟨hnone, -⟩
      · rcases hpart.1 with heq | heq <;> rw [hclosed] at heq <;> simp at heq
      · exact absurd hpart.2.1 hnone

def statusReport (status : String) (filled : ℚ) : OrderReport :=
  { id := "7", symbol := "BTC/USDT", side := some "buy", timestamp := 1
    status := some status, filled := some filled, amount := some 3 }

/-- **A cancelled order with a partial fill is `PARTIALLY_FILLED` on one path and `CANCELED` on another,
an expired one is `NEW` or `EXPIRED`, and one that is closed without a fill is `FILLED`.** -/
theorem converters_part :
    ((statusReport "canceled" 1).CanceledPart ∧
      (ofSignal.row (statusReport "canceled" 1)).status = .partiallyFilled ∧
      (ofSync.row (statusReport "canceled" 1)).status = .canceled) ∧
    ((ofSignal.row (statusReport "expired" 0)).status = .new ∧
      (ofSync.row (statusReport "expired" 0)).status = .expired) ∧
    (ofSync.row (statusReport "closed" 0)).status = .filled ∧
    ¬ ∀ report : OrderReport, ConvertersAgree report := by
  have hpart : (ofSignal.row (statusReport "canceled" 1)).status = .partiallyFilled ∧
      (ofSync.row (statusReport "canceled" 1)).status = .canceled := by decide +kernel
  refine ⟨⟨⟨.inl rfl, by decide +kernel⟩, hpart⟩, by decide +kernel, by decide +kernel, fun h => ?_⟩
  have hsame : (ofSignal.row (statusReport "canceled" 1)).status =
      (ofSync.row (statusReport "canceled" 1)).status :=
    congrArg Conversion.status ((h (statusReport "canceled" 1)).same ofSignal ofSync)
  rw [hpart.1, hpart.2] at hsame
  cases hsame

end Chansey
