import Chansey.Live.FetchWindow

/-!
# What a synchronisation asks for

Every synchronisation asks for the orders and trades since one time, that of the newest stored order.

* **`tracked_step`**: the step lemma. An order is stored as it is, or it is not behind the cursor.
-/

namespace Chansey

/-! ## The exchange and the rows -/

structure Venue where
  hasFetchOrders : Bool
  hasFetchMyTrades : Bool
  markets : List (String × Option Bool)
  orders : List CcxtOrder
  trades : List Trade
  distinct : (orders.map (·.id)).Nodup
  named : ∀ order ∈ orders, order.id ≠ ""

/-- The symbols whose fetch fails: all of them if the markets cannot be loaded. -/
structure Outage where
  orders : List String := []
  trades : List String := []
  deriving DecidableEq

/-- The order was created at the time given to the exchange, or later. -/
def CcxtOrder.isSince (since : Option Instant) (order : CcxtOrder) : Bool :=
  since.all (· ≤ order.timestamp)

/-- The answers of the exchange, which filters by the time of creation. -/
def Venue.client (venue : Venue) (outage : Outage) : Client where
  hasFetchOrders := venue.hasFetchOrders
  hasFetchMyTrades := venue.hasFetchMyTrades
  markets := some venue.markets
  fetchOrders symbol since :=
    if symbol ∈ outage.orders then none
    else some (venue.orders.filter fun order => order.symbol = symbol ∧ order.isSince since)
  fetchMyTrades symbol since :=
    if symbol ∈ outage.trades then none
    else some (venue.trades.filter fun trade => trade.symbol = some symbol ∧ trade.isSince since)

/-- An order is placed, or the exchange says something new of it. -/
def Venue.report (venue : Venue) (order : CcxtOrder) (named : order.id ≠ "") : Venue where
  hasFetchOrders := venue.hasFetchOrders
  hasFetchMyTrades := venue.hasFetchMyTrades
  markets := venue.markets
  orders := order :: venue.orders.filter (·.id ≠ order.id)
  trades := venue.trades
  distinct := by
    rw [List.map_cons, List.nodup_cons]
    refine ⟨fun hmem => ?_, (List.Sublist.map _ List.filter_sublist).nodup venue.distinct⟩
    obtain ⟨other, hother, heq⟩ := List.mem_map.mp hmem
    simp [heq] at hother
  named := by
    intro other hother
    rcases List.mem_cons.mp hother with rfl | hother
    · exact named
    · exact venue.named other (List.mem_filter.mp hother).1

structure Mirror where
  venue : Venue
  rows : OrderTable

inductive SyncEvent where
  | report (order : CcxtOrder) (named : order.id ≠ "")
  | trade (trade : Trade)
  | list (markets : List (String × Option Bool))
  | sync (outage : Outage)

def Mirror.step (target : SyncTarget) (mirror : Mirror) : SyncEvent → Mirror
  | .report order named => { mirror with venue := mirror.venue.report order named }
  | .trade trade =>
    { mirror with venue := { mirror.venue with trades := mirror.venue.trades ++ [trade] } }
  | .list markets => { mirror with venue := { mirror.venue with markets := markets } }
  | .sync outage =>
    { mirror with
      rows := syncOrdersForExchange target (mirror.venue.client outage) mirror.rows }

def Shows (row : Option Order) (order : CcxtOrder) : Prop :=
  row.any (fun row => row.status = order.orderStatus ∧
    row.executedQuantity = order.filled.getD 0) = true

instance (row : Option Order) (order : CcxtOrder) : Decidable (Shows row order) :=
  inferInstanceAs (Decidable (_ = true))

def Mirror.Complete (mirror : Mirror) : Prop :=
  ∀ order ∈ mirror.venue.orders, Shows (mirror.rows.get? order.id) order

instance (mirror : Mirror) : Decidable mirror.Complete :=
  inferInstanceAs (Decidable (∀ order ∈ mirror.venue.orders, _))

/-! ## What a synchronisation may meet -/

section Meets

variable (target : SyncTarget) (mirror : Mirror) (outage : Outage) (order : CcxtOrder)

/-- The cursor: the time since which orders and trades are asked for. -/
def Mirror.since : Option Instant := mostRecentTime target mirror.rows

def Mirror.made : List CcxtOrder :=
  convertTradesToOrders (fetchMyTrades (mirror.venue.client outage) (mirror.since target))

def Mirror.incoming : List CcxtOrder :=
  fetchHistoricalOrders (mirror.venue.client outage) (mirror.since target) ++
    mirror.made target outage

/-- The order is not behind the cursor, and its symbol is asked for and answered. -/
def Mirror.Asked : Prop :=
  mirror.venue.hasFetchOrders = true ∧ order.symbol ∈ (mirror.venue.client outage).activeSymbols ∧
    order.symbol ∉ outage.orders ∧ order.isSince (mirror.since target) = true

instance : Decidable (mirror.Asked target outage order) :=
  inferInstanceAs (Decidable (_ ∧ _ ∧ _ ∧ _))

/-- What is fetched of the order, or is there of it, is what the exchange says of it. Fetched trades are
all of a closed order. Without any, an order that is stored a second time has a fill, or no amount to
take for it, and an order that is not asked for is stored as it is. -/
def Mirror.Noted : Prop :=
  (∀ report ∈ mirror.made target outage, report.id = order.id →
    order.orderStatus = .filled ∧ report.filled.getD 0 = order.filled.getD 0) ∧
  ((∀ report ∈ mirror.made target outage, report.id ≠ order.id) →
    (mirror.Asked target outage order → (mirror.rows.get? order.id).isSome →
      reportedQuantity order.toExchangeOrder = order.filled.getD 0) ∧
    (¬ mirror.Asked target outage order → order.isSince (mirror.since target) = true →
      Shows (mirror.rows.get? order.id) order))

instance : Decidable (mirror.Noted target outage order) := inferInstanceAs (Decidable (_ ∧ _))

/-- Something failed, and no new row is later than the order. -/
def Mirror.Awaits : Prop :=
  outage ≠ {} ∧ order.isSince (mirror.since target) = true ∧
    ∀ report ∈ mirror.incoming target outage, mirror.rows.get? report.id = none →
      report.timestamp ≤ order.timestamp

instance : Decidable (mirror.Awaits target outage order) :=
  inferInstanceAs (Decidable (_ ∧ _ ∧ _))

/-- No news is behind the cursor unless it is no news of status or fill, and a synchronisation stores
an order as it is or does not leave it behind. -/
def Mirror.Follows (mirror : Mirror) : SyncEvent → Prop
  | .report order _ =>
    order.isSince (mirror.since target) = true ∨ Shows (mirror.rows.get? order.id) order
  | .trade _ => True
  | .list _ => True
  | .sync outage => ∀ order ∈ mirror.venue.orders,
      mirror.Noted target outage order ∨ mirror.Awaits target outage order

instance decidableFollows (mirror : Mirror) :
    (event : SyncEvent) → Decidable (mirror.Follows target event)
  | .report _ _ => inferInstanceAs (Decidable (_ ∨ _))
  | .trade _ => isTrue trivial
  | .list _ => isTrue trivial
  | .sync _ => inferInstanceAs (Decidable (∀ order ∈ mirror.venue.orders, _))

end Meets

/-! ## What is fetched -/

theorem filter_removeDuplicates {α : Type} (getId : α → String) (items : List α) (seen : List String)
    {id : String} (hid : id ≠ "") :
    (removeDuplicates getId seen items).filter (getId · = id) =
      if id ∈ seen then [] else (items.find? (getId · = id)).toList := by
  induction items generalizing seen with
  | nil => simp [removeDuplicates]
  | cons item items ih =>
    unfold removeDuplicates
    by_cases heq : getId item = id
    · subst heq
      by_cases hseen : getId item ∈ seen
      · rw [if_neg fun h => h.2 hseen, ih, if_pos hseen, if_pos hseen]
      · rw [if_pos ⟨hid, hseen⟩, List.filter_cons_of_pos (by simp), ih,
          if_pos List.mem_cons_self, if_neg hseen, List.find?_cons_of_pos (by simp)]
        rfl
    · rw [List.find?_cons_of_neg (by simpa using heq)]
      split
      · rw [List.filter_cons_of_neg (by simpa using heq), ih]
        simp [Ne.symm heq]
      · exact ih seen

section Fetch

variable {target : SyncTarget} {mirror : Mirror} {outage : Outage} {order : CcxtOrder}

theorem mem_answers (hsup : mirror.venue.hasFetchOrders = true) :
    order ∈ ((mirror.venue.client outage).activeSymbols.flatMap fun symbol =>
      ((mirror.venue.client outage).fetchOrders symbol (mirror.since target)).getD []) ↔
        order ∈ mirror.venue.orders ∧ mirror.Asked target outage order := by
  rw [List.mem_flatMap]
  constructor
  · rintro ⟨symbol, hsym, horder⟩
    simp only [Venue.client] at horder
    split at horder
    · cases horder
    · rename_i hansd
      obtain ⟨hmem, hfetched⟩ := List.mem_filter.mp horder
      obtain ⟨rfl, hsince⟩ := of_decide_eq_true hfetched
      exact ⟨hmem, hsup, hsym, hansd, hsince⟩
  · rintro ⟨hmem, -, hact, hansd, hsince⟩
    refine ⟨order.symbol, hact, ?_⟩
    simp only [Venue.client, if_neg hansd]
    exact List.mem_filter.mpr ⟨hmem, decide_eq_true ⟨rfl, hsince⟩⟩

theorem fetched_order (horder : order ∈ mirror.venue.orders) :
    (fetchHistoricalOrders (mirror.venue.client outage) (mirror.since target)).filter
        (·.id = order.id) = if mirror.Asked target outage order then [order] else [] := by
  rw [fetchHistoricalOrders, fetchFromExchange]
  split
  · rename_i hsup
    rw [filter_removeDuplicates _ _ _ (mirror.venue.named order horder), if_neg List.not_mem_nil]
    -- the exchange has one order with the id
    have hunique : ∀ other ∈ ((mirror.venue.client outage).activeSymbols.flatMap fun symbol =>
        ((mirror.venue.client outage).fetchOrders symbol (mirror.since target)).getD []),
          other.id = order.id → other = order := fun other hother heq =>
      List.inj_on_of_nodup_map mirror.venue.distinct ((mem_answers hsup).mp hother).1 horder heq
    split
    · rename_i hasked
      cases hfind : List.find? (fun other : CcxtOrder => decide (other.id = order.id)) _ with
      | none =>
        have hnone := List.find?_eq_none.mp hfind order
          ((mem_answers hsup).mpr ⟨horder, hasked⟩)
        simp at hnone
      | some other =>
        rw [hunique other (List.mem_of_find?_eq_some hfind) (by simpa using List.find?_some hfind)]
        rfl
    · rename_i hunasked
      rw [List.find?_eq_none.mpr fun other hother heq => hunasked ?_]
      · rfl
      · rw [← hunique other hother (by simpa using heq)]
        exact ((mem_answers hsup).mp hother).2
  · rename_i hsup
    rw [if_neg fun hasked => hsup hasked.1]
    rfl

theorem get?_syncOrders (id : ExchangeOrderId) :
    (mirror.step target (.sync outage)).rows.get? id =
      ((mirror.incoming target outage).filter (·.id = id)).foldl
        (fun row report => some (saveExchangeOrder target row report)) (mirror.rows.get? id) :=
  @get?_sync target ⟨mirror.rows, []⟩ ⟨[], mirror.venue.client outage⟩ id

end Fetch

/-! ## What is stored -/

section Store

variable {target : SyncTarget} {order report : CcxtOrder}

theorem shows_some {row : Order} :
    Shows (some row) order ↔
      row.status = order.orderStatus ∧ row.executedQuantity = order.filled.getD 0 := by
  simp [Shows]

theorem shows_save (row : Option Order) (hstat : report.orderStatus = order.orderStatus)
    (hfld : report.filled.getD 0 = order.filled.getD 0)
    (hqty : row.isSome → reportedQuantity report.toExchangeOrder = order.filled.getD 0) :
    Shows (some (saveExchangeOrder target row report)) order := by
  rw [shows_some]
  cases row with
  | none => exact ⟨hstat, hfld⟩
  | some row =>
    exact ⟨(reflects_apply row report.toExchangeOrder).status.trans hstat,
      (apply_executedQuantity row report.toExchangeOrder).trans (hqty rfl)⟩

theorem shows_foldl (reports : List CcxtOrder) (row : Option Order)
    (hreports : ∀ report ∈ reports, report.orderStatus = order.orderStatus ∧
      report.filled.getD 0 = order.filled.getD 0 ∧
        reportedQuantity report.toExchangeOrder = order.filled.getD 0)
    (hrow : reports ≠ [] ∨ Shows row order) :
    Shows (reports.foldl (fun row report => some (saveExchangeOrder target row report)) row)
      order := by
  induction reports generalizing row with
  | nil => exact hrow.resolve_left fun h => h rfl
  | cons report reports ih =>
    obtain ⟨hstat, hfld, hqty⟩ := hreports report List.mem_cons_self
    exact ih _ (fun other hother => hreports other (List.mem_cons_of_mem _ hother))
      (Or.inr (shows_save row hstat hfld fun _ => hqty))

theorem made_report {trades : List Trade} (h : report ∈ convertTradesToOrders trades) :
    report.orderStatus = .filled ∧
      reportedQuantity report.toExchangeOrder = report.filled.getD 0 := by
  obtain ⟨_, -, -, rfl⟩ := mem_convertTradesToOrders h
  refine ⟨rfl, ?_⟩
  simp only [reportedQuantity, syntheticOrder, Js.truthy?_some]
  split <;> rfl

theorem foldl_save_some (target : SyncTarget) (reports : List CcxtOrder) (row : Order) :
    ∃ row', reports.foldl (fun row report => some (saveExchangeOrder target row report)) (some row) =
        some row' ∧ row'.exchange = row.exchange ∧ row'.transactTime = row.transactTime := by
  induction reports generalizing row with
  | nil => exact ⟨row, rfl, rfl, rfl⟩
  | cons report reports ih => exact ih ((orderUpdate row report.toExchangeOrder).apply row)

theorem foldl_save_time {reports : List CcxtOrder} {row : Option Order} {row' : Order}
    (h : reports.foldl (fun row report => some (saveExchangeOrder target row report)) row =
      some row') :
    (∃ before, row = some before ∧ row'.exchange = before.exchange ∧
        row'.transactTime = before.transactTime) ∨
      row = none ∧ ∃ report ∈ reports, row'.transactTime = report.timestamp := by
  cases row with
  | some before =>
    obtain ⟨_, hafter, hexch, htime⟩ := foldl_save_some target reports before
    cases (hafter.symm.trans h)
    exact .inl ⟨before, rfl, hexch, htime⟩
  | none =>
    cases reports with
    | nil => cases h
    | cons report reports =>
      obtain ⟨_, hafter, -, htime⟩ := foldl_save_some target reports (createNewOrder target report)
      cases (hafter.symm.trans h)
      exact .inr ⟨rfl, report, List.mem_cons_self, htime⟩

end Store

/-! ## The cursor -/

section Cursor

variable {target : SyncTarget} {mirror : Mirror} {outage : Outage} {order : CcxtOrder}

theorem isSince_since :
    order.isSince (mirror.since target) = true ↔
      ∀ id row, mirror.rows.get? id = some row → row.exchange = some target.exchangeName →
        row.transactTime ≤ order.timestamp := by
  have hmem : ∀ time, time ∈ ((mirror.rows.entries.map Prod.snd).filter
      (·.exchange = some target.exchangeName)).map Order.transactTime ↔
        ∃ id row, mirror.rows.get? id = some row ∧ row.exchange = some target.exchangeName ∧
          row.transactTime = time := by
    intro time
    simp only [List.mem_map, List.mem_filter, decide_eq_true_eq]
    constructor
    · rintro ⟨row, ⟨⟨⟨id, row⟩, hentry, rfl⟩, hexch⟩, rfl⟩
      exact ⟨id, row, OrdMap.get?_eq_some_iff.mpr hentry, hexch, rfl⟩
    · rintro ⟨id, row, hrow, hexch, rfl⟩
      exact ⟨row, ⟨⟨(id, row), OrdMap.get?_eq_some_iff.mp hrow, rfl⟩, hexch⟩, rfl⟩
  unfold CcxtOrder.isSince Mirror.since mostRecentTime
  cases hmax : List.max? (((mirror.rows.entries.map Prod.snd).filter
      (·.exchange = some target.exchangeName)).map Order.transactTime) with
  | none =>
    refine iff_of_true rfl fun id row hrow hexch => ?_
    have hrows := (hmem row.transactTime).mpr ⟨id, row, hrow, hexch, rfl⟩
    rw [List.max?_eq_none_iff.mp hmax] at hrows
    cases hrows
  | some cursor =>
    obtain ⟨hcursor, hlatest⟩ := List.max?_eq_some_iff.mp hmax
    rw [Option.all_some, decide_eq_true_eq]
    constructor
    · intro hle id row hrow hexch
      exact (hlatest _ ((hmem _).mpr ⟨id, row, hrow, hexch, rfl⟩)).trans hle
    · intro hrows
      obtain ⟨id, row, hrow, hexch, rfl⟩ := (hmem cursor).mp hcursor
      exact hrows id row hrow hexch

theorem isSince_sync (hsince : order.isSince (mirror.since target) = true)
    (hnew : ∀ report ∈ mirror.incoming target outage, mirror.rows.get? report.id = none →
      report.timestamp ≤ order.timestamp) :
    order.isSince ((mirror.step target (.sync outage)).since target) = true := by
  rw [isSince_since] at hsince ⊢
  intro id row hrow hexch
  rw [get?_syncOrders] at hrow
  obtain ⟨before, hbef, hsame, htime⟩ | ⟨hnone, report, hrep, htime⟩ := foldl_save_time hrow
  · rw [htime]
    exact hsince id before hbef (hsame.symm.trans hexch)
  · obtain ⟨hmem, hid⟩ := List.mem_filter.mp hrep
    obtain rfl := of_decide_eq_true hid
    rw [htime]
    exact hnew report hmem hnone

end Cursor

/-! ## Runs -/

section Run

variable {target : SyncTarget} {mirror : Mirror} {outage : Outage} {order : CcxtOrder}

/-- Every order is stored as it is, or is not behind the cursor. -/
def Mirror.Tracked (target : SyncTarget) (mirror : Mirror) : Prop :=
  ∀ order ∈ mirror.venue.orders,
    order.isSince (mirror.since target) = true ∨ Shows (mirror.rows.get? order.id) order

theorem shows_sync (htrd : mirror.Tracked target) (horder : order ∈ mirror.venue.orders)
    (h : mirror.Noted target outage order) :
    Shows ((mirror.step target (.sync outage)).rows.get? order.id) order := by
  obtain ⟨hmade, hrepd⟩ := h
  rw [get?_syncOrders, Mirror.incoming, List.filter_append, List.foldl_append, fetched_order horder]
  refine shows_foldl _ _ (fun report hrep => ?_) ?_
  · obtain ⟨hmem, hid⟩ := List.mem_filter.mp hrep
    obtain ⟨hclos, hfld⟩ := hmade report hmem (of_decide_eq_true hid)
    obtain ⟨hstat, hqty⟩ := made_report hmem
    exact ⟨hstat.trans hclos.symm, hfld, hqty.trans hfld⟩
  · rw [Classical.or_iff_not_imp_left, not_not, List.filter_eq_nil_iff]
    intro hnone
    obtain ⟨hasked, hunasked⟩ := hrepd fun report hrep heq =>
      hnone report hrep (decide_eq_true heq)
    split
    · rename_i hask
      exact shows_save _ rfl rfl (hasked hask)
    · rename_i hask
      obtain hsince | hshows := htrd order horder
      · exact hunasked hask hsince
      · exact hshows

theorem tracked_step (event : SyncEvent) (htrd : mirror.Tracked target)
    (h : mirror.Follows target event) : (mirror.step target event).Tracked target := by
  cases event with
  | report =>
    intro order horder
    rcases List.mem_cons.mp horder with rfl | horder
    · exact h
    · exact htrd order (List.mem_filter.mp horder).1
  | trade | list => exact htrd
  | sync =>
    intro order horder
    obtain hnoted | ⟨-, hsince, hnew⟩ := h order horder
    · exact .inr (shows_sync htrd horder hnoted)
    · exact .inl (isSince_sync hsince hnew)

theorem complete_sync (htrd : mirror.Tracked target) (h : mirror.Follows target (.sync {})) :
    (mirror.step target (.sync {})).Complete := by
  intro order horder
  obtain hnoted | ⟨houtage, -⟩ := h order horder
  · exact shows_sync htrd horder hnoted
  · exact absurd rfl houtage

/-- **A synchronisation without an outage leaves every order stored with its status and its executed
quantity, in every run whose steps follow the cursor.** -/
theorem sync_complete (target : SyncTarget) (start : Mirror) (hstart : start.venue.orders = [])
    (before after : List SyncEvent)
    (h : Run.Throughout (Mirror.step target) (Mirror.Follows target) start
      (before ++ .sync {} :: after)) :
    ((before.foldl (Mirror.step target) start).step target (.sync {})).Complete := by
  have htracked : start.Tracked target := fun order horder => by
    rw [hstart] at horder
    cases horder
  have hbefore : (before.foldl (Mirror.step target) start).Tracked target :=
    h.left.invariant (Mirror.Tracked target)
      (fun _ event hmirror hevent => tracked_step event hmirror hevent) htracked
  exact complete_sync hbefore h.at_append

end Run

/-! ## Two markets -/

def bitcoinOrder (timestamp : Instant) (status : String) (filled : ℚ) : CcxtOrder where
  id := "B"
  timestamp := timestamp
  symbol := "BTC/USD"
  side := some "buy"
  status := some status
  amount := some 1
  filled := some filled

def etherOrder (timestamp : Instant) (status : String) (filled : ℚ) : CcxtOrder where
  id := "E"
  timestamp := timestamp
  symbol := "ETH/USD"
  side := some "buy"
  status := some status
  amount := some 1
  filled := some filled

def newMirror : Mirror where
  venue :=
    { hasFetchOrders := true
      hasFetchMyTrades := true
      markets := [("BTC/USD", some true), ("ETH/USD", some true)]
      orders := []
      trades := []
      distinct := List.nodup_nil
      named := fun _ h => nomatch h }
  rows := OrdMap.empty

def etherLater : List SyncEvent :=
  [.report (etherOrder 3 "open" (1 / 2)) (by decide), .report (bitcoinOrder 2 "closed" 1) (by decide),
    .sync { orders := ["ETH/USD"] }, .report (etherOrder 3 "closed" 1) (by decide)]

theorem sync_complete_ether :
    (((etherLater.foldl (Mirror.step coinbase) newMirror).step coinbase (.sync {})).Complete) :=
  sync_complete coinbase newMirror rfl etherLater [] (by decide +kernel)

def etherEarlier : List SyncEvent :=
  [.report (etherOrder 1 "closed" 1) (by decide), .report (bitcoinOrder 2 "closed" 1) (by decide),
    .sync { orders := ["ETH/USD"] }]

def etherFilled : List SyncEvent :=
  [.report (etherOrder 1 "open" 0) (by decide), .report (bitcoinOrder 2 "closed" 1) (by decide),
    .sync {}, .report (etherOrder 1 "closed" 1) (by decide)]

/-- **An order that was not fetched stays behind the cursor, and so does the fill of an older order;
an open order without a fill is stored as wholly executed the second time it is fetched.** -/
theorem behind_cursor :
    ¬ ((etherEarlier.foldl (Mirror.step coinbase) newMirror).step coinbase (.sync {})).Complete ∧
    ¬ ((etherFilled.foldl (Mirror.step coinbase) newMirror).step coinbase (.sync {})).Complete ∧
    ¬ (([.report (etherOrder 1 "open" 0) (by decide), .sync {}].foldl (Mirror.step coinbase)
      newMirror).step coinbase (.sync {})).Complete := by
  decide +kernel

end Chansey
