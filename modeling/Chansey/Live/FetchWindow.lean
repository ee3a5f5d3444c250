import Chansey.Lib.Run
import Chansey.Live.Resync

/-!
# Synchronisations and their fetch windows

A synchronisation fetches the trades since the most recent stored order.
-/

namespace Chansey

/-! ## The fetch window -/

/-- The trade was made at or after the time given to the exchange. -/
def Trade.isSince (since : Option Instant) (trade : Trade) : Bool :=
  since.all fun since => trade.timestamp.any (since ≤ ·)

structure Answers (client : Client) (history : List Trade) : Prop where
  supported : client.hasFetchMyTrades = true
  symbols : client.activeSymbols.Nodup
  trades : ∀ symbol ∈ client.activeSymbols, ∀ since, client.fetchMyTrades symbol since =
    some (history.filter fun trade => trade.symbol = some symbol ∧ trade.isSince since)
  listed : ∀ trade ∈ history, ∃ symbol ∈ client.activeSymbols, trade.symbol = some symbol
  ids : (history.map fun trade => trade.id.getD "").Nodup
  named : ∀ trade ∈ history, trade.id.getD "" ≠ ""

theorem removeDuplicates_eq {α : Type} {getId : α → String} {items : List α} {seen : List String}
    (hnodup : (items.map getId).Nodup) (hnamed : ∀ item ∈ items, getId item ≠ "")
    (hseen : ∀ item ∈ items, getId item ∉ seen) : removeDuplicates getId seen items = items := by
  induction items generalizing seen with
  | nil => rfl
  | cons item items ih =>
    rw [List.map_cons, List.nodup_cons] at hnodup
    rw [removeDuplicates, if_pos ⟨hnamed item List.mem_cons_self, hseen item List.mem_cons_self⟩,
      ih hnodup.2 fun other hother => hnamed other (List.mem_cons_of_mem _ hother)]
    intro other hother hmem
    rcases List.mem_cons.mp hmem with heq | hmem
    · exact hnodup.1 (heq ▸ List.mem_map_of_mem hother)
    · exact hseen other (List.mem_cons_of_mem _ hother) hmem

theorem fetchMyTrades_perm {client : Client} {history : List Trade} (h : Answers client history)
    (since : Option Instant) :
    (fetchMyTrades client since).Perm (history.filter (·.isSince since)) := by
  have hhist : history.Nodup := List.Nodup.of_map _ h.ids
  have hans : (client.activeSymbols.flatMap fun symbol =>
      (client.fetchMyTrades symbol since).getD []) = client.activeSymbols.flatMap fun symbol =>
        history.filter fun trade => trade.symbol = some symbol ∧ trade.isSince since :=
    List.flatMap_congr fun symbol hsym => by rw [h.trades symbol hsym since]; rfl
  have hmem : ∀ trade, trade ∈ (client.activeSymbols.flatMap fun symbol =>
      history.filter fun trade => trade.symbol = some symbol ∧ trade.isSince since) ↔
        trade ∈ history.filter (·.isSince since) := by
    intro trade
    simp only [List.mem_flatMap, List.mem_filter, decide_eq_true_eq]
    constructor
    · rintro ⟨_, -, htrade, -, hsince⟩
      exact ⟨htrade, hsince⟩
    · rintro ⟨htrade, hsince⟩
      obtain ⟨symbol, hsym, heq⟩ := h.listed trade htrade
      exact ⟨symbol, hsym, htrade, heq, hsince⟩
  have hnodup : (client.activeSymbols.flatMap fun symbol =>
      history.filter fun trade => trade.symbol = some symbol ∧ trade.isSince since).Nodup := by
    refine List.nodup_flatMap.mpr ⟨fun symbol _ => hhist.filter _, ?_⟩
    refine h.symbols.imp fun {symbol other} hne trade hmem hother => ?_
    simp only [List.mem_filter, decide_eq_true_eq] at hmem hother
    exact hne (Option.some.inj (hmem.2.1.symm.trans hother.2.1))
  have hin : ∀ trade ∈ (client.activeSymbols.flatMap fun symbol =>
      history.filter fun trade => trade.symbol = some symbol ∧ trade.isSince since),
        trade ∈ history := fun trade htrade => (List.mem_filter.mp ((hmem trade).mp htrade)).1
  rw [fetchMyTrades, fetchFromExchange, if_pos h.supported, hans, removeDuplicates_eq]
  · exact (List.perm_ext_iff_of_nodup hnodup (hhist.filter _)).mpr hmem
  · exact hnodup.map_on fun trade htrade other hother heq =>
      List.inj_on_of_nodup_map h.ids (hin trade htrade) (hin other hother) heq
  · exact fun trade htrade => h.named trade (hin trade htrade)
  · exact fun trade _ => List.not_mem_nil

section Since

variable {target : SyncTarget} {account : Account} {sync : Synchronisation}

structure OneSided (target : SyncTarget) (account : Account) (sync : Synchronisation) : Prop where
  sides : ∀ trade ∈ sync.history, ∀ other ∈ sync.history, trade.syntheticId = other.syntheticId →
    trade.isSince (mostRecentTime target account.orders) =
      other.isSince (mostRecentTime target account.orders)
  grown : ∃ fresh, sync.history = account.history ++ fresh ∧
    ∀ trade ∈ fresh, trade.isSince (mostRecentTime target account.orders) = true

theorem whole_of_oneSided (hanss : Answers sync.client sync.history)
    (hreports : account.reports target sync = []) (h : OneSided target account sync)
    (hkeys : ∀ trade ∈ sync.history, ∀ other ∈ sync.history,
      trade.syntheticId = other.syntheticId ↔ groupKey trade = groupKey other)
    (hpriced : ∀ trade ∈ sync.history, 0 < totalCost (tradesOf trade.syntheticId sync.history))
    (hsets : ∀ trade ∈ sync.history, trade.isSince (mostRecentTime target account.orders) = true →
      Settles ((account.orders.get? trade.syntheticId).bind Order.cost)
        (totalCost (tradesOf trade.syntheticId sync.history))) : Whole target account sync := by
  have hfetched : (account.fetched target sync).Perm
      (sync.history.filter (·.isSince (mostRecentTime target account.orders))) :=
    fetchMyTrades_perm hanss _
  have hmem : ∀ trade ∈ account.fetched target sync, trade ∈ sync.history ∧
      trade.isSince (mostRecentTime target account.orders) = true := fun trade htrade =>
    List.mem_filter.mp (hfetched.subset htrade)
  refine ⟨fun trade htrade => ?_, fun id hid _ => ?_, fun trade htrade other hother => ?_,
    fun trade htrade => hpriced trade (hmem trade htrade).1, fun id hid => ?_, ?_⟩
  · refine (hfetched.filter _).trans ?_
    rw [List.filter_filter]
    refine List.Perm.of_eq (List.filter_congr fun other hother => ?_)
    by_cases hsame : other.syntheticId = trade.syntheticId
    · rw [h.sides other hother trade (hmem trade htrade).1 hsame, (hmem trade htrade).2]
      simp
    · simp [hsame]
  · obtain ⟨fresh, hgrown, hfresh⟩ := h.grown
    have hnone : tradesOf id fresh = [] := by
      rw [tradesOf, List.filter_eq_nil_iff]
      intro trade htrade heq
      refine hid (List.mem_map.mpr ⟨trade, hfetched.symm.subset ?_, by simpa using heq⟩)
      rw [hgrown]
      exact List.mem_filter.mpr ⟨List.mem_append_right _ htrade, hfresh trade htrade⟩
    rw [hgrown, tradesOf, List.filter_append]
    change (_ ++ tradesOf id fresh).Perm _
    rw [hnone, List.append_nil]
    exact List.Perm.refl _
  · exact hkeys trade (hmem trade htrade).1 other (hmem other hother).1
  · rw [hreports, List.map_nil, or_iff_left List.not_mem_nil] at hid
    obtain ⟨trade, htrade, rfl⟩ := List.mem_map.mp hid
    exact hsets trade (hmem trade htrade).1 (hmem trade htrade).2
  · rw [hreports]
    intro report hrep
    cases hrep

end Since

/-! ## Runs -/

/-- **Trades are partitioned into orders with their totals. Along every run of synchronisations that
split no order, the stored executed quantities and costs are the totals of all trades; a repeated
synchronisation changes none of them, and no row if no orders are reported besides the trades.** -/
theorem resync_exact (target : SyncTarget) (start : Account) (hstart : Recorded start)
    (syncs : List Synchronisation)
    (h : Run.Throughout (Account.sync target) (Whole target) start syncs) :
    (∀ trades, ∃ groups, Converted trades groups (convertTradesToOrders trades)) ∧
      Recorded (syncs.foldl (Account.sync target) start) ∧
      ∀ sync again, Whole target (syncs.foldl (Account.sync target) start) sync →
        Whole target ((syncs.foldl (Account.sync target) start).sync target sync) again →
        Repeats target (syncs.foldl (Account.sync target) start) sync again →
        ∀ id,
          let after := (syncs.foldl (Account.sync target) start).sync target sync
          (after.sync target again).executed id = after.executed id ∧
            (after.reports target again = [] →
              (after.sync target again).orders.get? id = after.orders.get? id) := by
  have hrecorded : Recorded (syncs.foldl (Account.sync target) start) :=
    h.invariant Recorded (fun _ _ => recorded_sync) hstart
  refine ⟨convertTradesToOrders_groups, hrecorded, ?_⟩
  intro sync again hsync hagain hrepeats id
  exact ⟨executed_again hrecorded hsync hagain hrepeats id, fun hreports =>
    rows_again hsync hagain hrepeats hreports id⟩

/-! ## Two synchronisations -/

def bitcoinMarket (history : List Trade) : Client where
  hasFetchOrders := false
  markets := some [("BTC/USD", some true)]
  fetchOrders _ _ := none
  fetchMyTrades symbol since :=
    some (history.filter fun trade => trade.symbol = some symbol ∧ trade.isSince since)

def synchroniseAt (history : List Trade) : Synchronisation := ⟨history, bitcoinMarket history⟩

def bitcoinTrade (id order : String) (timestamp : Instant) (amount cost : ℚ) : Trade where
  id := some id
  order := some order
  symbol := some "BTC/USD"
  timestamp := some timestamp
  side := some "buy"
  amount := some amount
  cost := some cost
  price := some (cost / amount)

def coinbase : SyncTarget := ⟨"user", "Coinbase", id⟩

def newAccount : Account := ⟨OrdMap.empty, []⟩

theorem recorded_newAccount : Recorded newAccount := by
  refine ⟨fun id row hget => ?_, fun id row hget => ?_, fun trade htrade => ?_⟩
  · cases hget
  · cases hget
  · cases htrade

def earlyTrades : List Trade := [bitcoinTrade "1" "A" 1 1 100, bitcoinTrade "2" "B" 5 1 100]

def laterTrades : List Trade :=
  earlyTrades ++ [bitcoinTrade "3" "C" 7 1 200, bitcoinTrade "4" "C" 8 2 400]

theorem resync_exact_orders :
    let after := (newAccount.sync coinbase (synchroniseAt earlyTrades)).sync coinbase
      (synchroniseAt laterTrades)
    after.executed "A" = some (1, 100) ∧ after.executed "C" = some (3, 600) ∧
      (after.sync coinbase (synchroniseAt laterTrades)).orders.get? "C" =
        after.orders.get? "C" := by
  have hfirst : Whole coinbase newAccount (synchroniseAt earlyTrades) := by
    refine whole_of_oneSided ⟨rfl, by decide +kernel, fun symbol hsymbol since => rfl, by decide +kernel,
      by decide +kernel, by decide +kernel⟩ rfl ⟨by decide +kernel, ?_⟩ (by decide +kernel)
      (by decide +kernel) (by decide +kernel)
    exact ⟨earlyTrades, rfl, by decide +kernel⟩
  have hlater : ∀ account : Account,
      account = newAccount.sync coinbase (synchroniseAt earlyTrades) ∨
        account = (newAccount.sync coinbase (synchroniseAt earlyTrades)).sync coinbase
          (synchroniseAt laterTrades) →
      Whole coinbase account (synchroniseAt laterTrades) := by
    rintro account (rfl | rfl)
    · refine whole_of_oneSided ⟨rfl, by decide +kernel, fun symbol hsymbol since => rfl,
        by decide +kernel, by decide +kernel, by decide +kernel⟩ rfl ⟨by decide +kernel, ?_⟩
        (by decide +kernel) (by decide +kernel) (by decide +kernel)
      exact ⟨[bitcoinTrade "3" "C" 7 1 200, bitcoinTrade "4" "C" 8 2 400], rfl, by decide +kernel⟩
    · refine whole_of_oneSided ⟨rfl, by decide +kernel, fun symbol hsymbol since => rfl,
        by decide +kernel, by decide +kernel, by decide +kernel⟩ rfl ⟨by decide +kernel, ?_⟩
        (by decide +kernel) (by decide +kernel) (by decide +kernel)
      exact ⟨[], by decide +kernel, by decide +kernel⟩
  have hrepeats : Repeats coinbase (newAccount.sync coinbase (synchroniseAt earlyTrades))
      (synchroniseAt laterTrades) (synchroniseAt laterTrades) :=
    ⟨rfl, by decide +kernel, fun report hreport => by cases hreport⟩
  have hexact := resync_exact coinbase newAccount recorded_newAccount [synchroniseAt earlyTrades]
    ⟨hfirst, trivial⟩
  exact ⟨by decide +kernel, by decide +kernel,
    (hexact.2.2 _ _ (hlater _ (Or.inl rfl)) (hlater _ (Or.inr rfl)) hrepeats "C").2 rfl⟩

/-- **A second trade of the first order, after the order that follows it: the window begins between
the two, and the first is lost.** -/
theorem split_window :
    let more := earlyTrades ++ [bitcoinTrade "3" "A" 10 2 200]
    ¬ Recorded ((newAccount.sync coinbase (synchroniseAt earlyTrades)).sync coinbase
      (synchroniseAt more)) := by
  intro more h
  have hexecuted : ((newAccount.sync coinbase (synchroniseAt earlyTrades)).sync coinbase
      (synchroniseAt more)).executed "A" = some (2, 200) := by decide +kernel
  obtain ⟨row, hrow, hstored⟩ := Option.map_eq_some_iff.mp hexecuted
  have htotal := h.quantity "A" row hrow
  rw [(Prod.mk.inj hstored).1] at htotal
  exact absurd htotal (by decide +kernel)

end Chansey
