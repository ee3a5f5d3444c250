import Chansey.Lib.Run
import Chansey.Live.Resync

/-!
# The executed quantity of synchronised orders

Reports of any orders are stored one after the other; some are not, since their processing fails.
-/

namespace Chansey

open Run

structure OrderLedger where
  rows : OrderTable
  last : OrdMap ExchangeOrderId CcxtOrder := OrdMap.empty

structure SyncReport where
  exchangeOrder : CcxtOrder
  processed : Bool := true

/-- One turn of `saveExchangeOrders`, which goes on after a failure. -/
def OrderLedger.store (target : SyncTarget) (ledger : OrderLedger) (report : SyncReport) :
    OrderLedger :=
  if report.processed then
    { rows := saveExchangeOrders target ledger.rows [report.exchangeOrder]
      last := ledger.last.set report.exchangeOrder.id report.exchangeOrder }
  else ledger

structure FollowsReport (row : Order) (report : CcxtOrder) : Prop where
  filled : ∀ filled, report.filled = some filled → row.executedQuantity = filled
  unfilled : report.filled = some 0 → ∀ amount, report.amount = some amount → amount ≠ 0 →
    row.executedQuantity ≠ amount
  bounded : row.executedQuantity ≤ row.quantity

def OrderLedger.Faithful (ledger : OrderLedger) : Prop :=
  ∀ id report, ledger.last.get? id = some report →
    ∃ row, ledger.rows.get? id = some row ∧ FollowsReport row report

def NamesFill (existing : Option Order) (report : CcxtOrder) : Prop :=
  match existing with
  | none => report.filled.getD 0 ≤ report.amount.getD 0
  | some row =>
    (report.filled = some 0 → report.amount.getD 0 = 0) ∧
      report.filled.getD (report.amount.getD 0) ≤ row.quantity

def OrderLedger.Named (ledger : OrderLedger) (report : SyncReport) : Prop :=
  report.processed = true →
    NamesFill (ledger.rows.get? report.exchangeOrder.id) report.exchangeOrder

/-! ## One report -/

section Save

variable (target : SyncTarget) {row : Order} {report : CcxtOrder}

theorem createNewOrder_follows_iff :
    FollowsReport (createNewOrder target report) report ↔ NamesFill none report := by
  have hexd : (createNewOrder target report).executedQuantity = report.filled.getD 0 := rfl
  have hqty : (createNewOrder target report).quantity = report.amount.getD 0 := rfl
  constructor
  · intro h
    have hbdd := h.bounded
    rwa [hexd, hqty] at hbdd
  · intro h
    refine ⟨fun filled hfld => ?_, fun hzero amount _ hne => ?_, ?_⟩
    · rw [hexd, hfld]
      rfl
    · rw [hexd, hzero]
      exact hne.symm
    · rw [hexd, hqty]
      exact h

theorem reportedQuantity_eq (h : report.filled = some 0 → report.amount.getD 0 = 0) :
    reportedQuantity report.toExchangeOrder = report.filled.getD (report.amount.getD 0) := by
  unfold reportedQuantity
  cases hfld : report.filled with
  | none => rfl
  | some filled =>
    by_cases hzero : filled = 0
    · subst hzero
      simp [Js.truthy?_some, h hfld]
    · simp [Js.truthy?_some, hzero]

theorem orderUpdate_follows_iff :
    FollowsReport ((orderUpdate row report.toExchangeOrder).apply row) report ↔
      NamesFill (some row) report := by
  have hexd := apply_executedQuantity row report.toExchangeOrder
  have hqty : ((orderUpdate row report.toExchangeOrder).apply row).quantity = row.quantity := rfl
  constructor
  · intro h
    have hzero : report.filled = some 0 → report.amount.getD 0 = 0 := by
      intro hfld
      have hstd := h.filled 0 hfld
      rw [hexd, reportedQuantity, hfld] at hstd
      simpa [Js.truthy?_some] using hstd
    refine ⟨hzero, ?_⟩
    rw [← reportedQuantity_eq hzero, ← hexd]
    exact h.bounded
  · rintro ⟨hzero, hbdd⟩
    rw [← reportedQuantity_eq hzero] at hbdd
    refine ⟨fun filled hfld => ?_, fun hfld amount hamount hne => ?_, ?_⟩
    · rw [hexd, reportedQuantity_eq hzero, hfld]
      rfl
    · have hamount0 := hzero hfld
      rw [hamount] at hamount0
      exact absurd hamount0 hne
    · rw [hexd, hqty]
      exact hbdd

theorem saveExchangeOrder_follows_iff (existing : Option Order) :
    FollowsReport (saveExchangeOrder target existing report) report ↔
      NamesFill existing report := by
  cases existing with
  | none => exact createNewOrder_follows_iff target
  | some => exact orderUpdate_follows_iff

end Save

/-! ## A run -/

section Run

variable (target : SyncTarget) {ledger : OrderLedger} {report : SyncReport}

theorem OrderLedger.get?_store (hproc : report.processed = true) (id : ExchangeOrderId) :
    (ledger.store target report).rows.get? id =
      if report.exchangeOrder.id = id then
        some (saveExchangeOrder target (ledger.rows.get? id) report.exchangeOrder)
      else ledger.rows.get? id := by
  rw [OrderLedger.store, if_pos hproc]
  show (ledger.rows.set _ _).get? id = _
  rw [OrdMap.get?_set]
  split_ifs with hid
  · rw [hid]
  · rfl

theorem OrderLedger.Faithful.store_iff (h : ledger.Faithful) :
    (ledger.store target report).Faithful ↔ ledger.Named report := by
  by_cases hproc : report.processed = true
  · have hlast : (ledger.store target report).last =
        ledger.last.set report.exchangeOrder.id report.exchangeOrder := by
      rw [OrderLedger.store, if_pos hproc]
    constructor
    · intro hstd _
      obtain ⟨_, hrow, hfol⟩ := hstd report.exchangeOrder.id report.exchangeOrder
        (by rw [hlast, OrdMap.get?_set_self])
      rw [OrderLedger.get?_store target hproc, if_pos rfl] at hrow
      cases hrow
      exact (saveExchangeOrder_follows_iff target _).mp hfol
    · intro hnamed id last hid
      rw [hlast, OrdMap.get?_set] at hid
      rw [OrderLedger.get?_store target hproc]
      split_ifs at hid ⊢ with hsame
      · cases hid
        refine ⟨_, rfl, (saveExchangeOrder_follows_iff target _).mpr ?_⟩
        rw [← hsame]
        exact hnamed hproc
      · exact h id last hid
  · rw [OrderLedger.store, if_neg hproc]
    exact iff_of_true h fun hdone => absurd hdone hproc

/-- **In a run from any rows, every row has what its last report names exactly when each report
names its fill.** -/
theorem faithful_iff (rows : OrderTable) (reports : List SyncReport) :
    Throughout (OrderLedger.store target)
        (fun ledger report => (ledger.store target report).Faithful) { rows := rows } reports ↔
      Throughout (OrderLedger.store target) OrderLedger.Named { rows := rows } reports := by
  refine throughout_iff OrderLedger.Faithful ?_ ?_ ?_
  · exact fun ledger report hfaithful => hfaithful.store_iff target
  · exact fun ledger report hfaithful hnamed => (hfaithful.store_iff target).mpr hnamed
  · intro id report hlast
    rw [show ({ rows := rows } : OrderLedger).last = OrdMap.empty from rfl, OrdMap.get?_empty]
      at hlast
    cases hlast

end Run

def unfilledOrder : CcxtOrder where
  id := "7"
  timestamp := 1
  symbol := "BTC/USDT"
  side := some "buy"
  status := some "open"
  amount := some 3
  filled := some 0

/-- **The second report of an open order stores it as executed**: nothing is filled, and the row has
its whole amount. -/
theorem unfilled_storedAsFull :
    (saveExchangeOrders { userId := "user", exchangeName := "binance", newId := id } OrdMap.empty
        [unfilledOrder, unfilledOrder]).entries.map (fun row => row.2.executedQuantity) = [3] ∧
      ¬ ∀ (target : SyncTarget) (rows : OrderTable) (reports : List SyncReport),
        Throughout (OrderLedger.store target)
          (fun ledger report => (ledger.store target report).Faithful) { rows := rows } reports := by
  refine ⟨by decide +kernel, fun h => ?_⟩
  have hrun := h { userId := "user", exchangeName := "binance", newId := id } OrdMap.empty
    [{ exchangeOrder := unfilledOrder }, { exchangeOrder := unfilledOrder }]
  obtain ⟨row, hrow, hfollows⟩ := hrun.2.1 "7" unfilledOrder (by decide +kernel)
  have hexecuted : row.executedQuantity = 3 := by
    have hstored := congrArg (Option.map Order.executedQuantity) hrow
    have hvalue : ((OrderLedger.store { userId := "user", exchangeName := "binance", newId := id }
        (OrderLedger.store { userId := "user", exchangeName := "binance", newId := id }
          { rows := OrdMap.empty } { exchangeOrder := unfilledOrder })
        { exchangeOrder := unfilledOrder }).rows.get? "7").map Order.executedQuantity = some 3 := by
      decide +kernel
    rw [hvalue] at hstored
    exact (Option.some_inj.mp hstored).symm
  exact hfollows.unfilled rfl 3 rfl (by norm_num) hexecuted

end Chansey
