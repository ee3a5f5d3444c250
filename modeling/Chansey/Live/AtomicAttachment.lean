import Chansey.Live.ExitAttachment

/-!
# When attaching exits is atomic

The exchange is outside the database transaction: a rollback does not cancel what was placed, and a
leg the exchange did not answer is saved like one it did.
-/

namespace Chansey

open Remote

section AtomicAttachment

variable {σ κ : Type}

/-! ## Atomicity -/

def Stands (row : Option Order) (orders : List LiveOrder) : Prop :=
  match row with
  | none => orders = []
  | some row => ∃ request, orders = [(row.orderId, request)] ∧ request.symbol = row.symbol ∧
      request.side = row.side ∧ request.amount = row.quantity

def Passed (entryOrder : Order) (limits : Option ExchangeMarketLimits) (price quantity : ℚ) : Prop :=
  (validateExitOrderQuantity entryOrder.rawQuantity price limits).isValid = true ∧
    quantity = (validateExitOrderQuantity entryOrder.rawQuantity price limits).adjustedQuantity ∧
    quantity ≤ entryOrder.executedQuantity

structure LegSettled (entryOrder : Order) (limits : Option ExchangeMarketLimits)
    (placed : List LiveOrder) (type : String) (row : Option Order) (rowId : Option OrderId)
    (price : Option ℚ) : Prop where
  stands : Stands row (placed.filter (·.2.type = type))
  named : rowId = row.map (·.id)
  passed : ∀ order, row = some order →
    ∃ legPrice, price = some legPrice ∧ Passed entryOrder limits legPrice order.quantity

/-- Either everything is committed and live, or an error leaves nothing of it. -/
def Atomic (exchange : Exchange σ) (entryOrder : Order) (limits : Option ExchangeMarketLimits)
    (remote : σ) (attachment : AttachOutcome σ) : Prop :=
  match attachment.result with
  | .error _ =>
    attachment.stored = none ∧ exchange.live attachment.remote = exchange.live remote
  | .ok result =>
    ∃ stored placed, attachment.stored = some stored ∧
      result.positionExitId = stored.positionExit.id ∧
      exchange.live attachment.remote = placed ++ exchange.live remote ∧
      (∀ order ∈ placed, order.2.type = "stop_loss" ∨ order.2.type = "limit") ∧
      LegSettled entryOrder limits placed "stop_loss" stored.stopLossOrder
        stored.positionExit.stopLossOrderId stored.positionExit.stopLossPrice ∧
      LegSettled entryOrder limits placed "limit" stored.takeProfitOrder
        stored.positionExit.takeProfitOrderId stored.positionExit.takeProfitPrice

/-! ## The condition -/

def LegReaches (breaker : CircuitBreaker κ) (hasClient : Bool) (exchangeSlug : Option String)
    (answers : LegAnswers κ) : Prop :=
  AsksExchange breaker (answers.context hasClient exchangeSlug) answers.call.circuit ∧
    Reached isTransientError answers.call.fates MAX_RETRIES

def LegAnswered (breaker : CircuitBreaker κ) (hasClient : Bool) (exchangeSlug : Option String)
    (answers : LegAnswers κ) : Prop :=
  AsksExchange breaker (answers.context hasClient exchangeSlug) answers.call.circuit ∧
    AnsweredOnce isTransientError answers.call.fates MAX_RETRIES

/-- The quantity of a leg is valid, and in steps of the market it is at most the executed one. -/
def FitsEntry (entryOrder : Order) (limits : Option ExchangeMarketLimits) (price : ℚ) : Prop :=
  let validation := validateExitOrderQuantity entryOrder.rawQuantity price limits
  validation.isValid = true ∧ validation.adjustedQuantity ≤ entryOrder.executedQuantity

def LegKept (breaker : CircuitBreaker κ) (entryOrder : Order) (client : OpenedClient)
    (exchangeSlug : Option String) (leg : ExitLeg) (answers : LegAnswers κ) : Prop :=
  ∀ params, leg.params entryOrder client.marketLimits = some params →
    if answers.saved = .ok () then
      LegAnswered breaker client.hasClient exchangeSlug answers ∧
        FitsEntry entryOrder client.marketLimits params.price
    else ¬ LegReaches breaker client.hasClient exchangeSlug answers

def LegSilent (breaker : CircuitBreaker κ) (entryOrder : Order) (client : OpenedClient)
    (exchangeSlug : Option String) (leg : ExitLeg) (answers : LegAnswers κ) : Prop :=
  ∀ params, leg.params entryOrder client.marketLimits = some params →
    ¬ LegReaches breaker client.hasClient exchangeSlug answers

def LegSaved (entryOrder : Order) (client : OpenedClient) (leg : ExitLeg) (answers : LegAnswers κ) :
    Prop :=
  (leg.params entryOrder client.marketLimits).isSome = true ∧ answers.saved = .ok ()

/-- Every database step after the legs succeeds. Two saved rows are linked when the configuration
asks for it. -/
structure Commits (entryOrder : Order) (prepared : PreparedExits) (client : OpenedClient)
    (answers : AttachAnswers κ) : Prop where
  linked : prepared.config.useOco = true →
    LegSaved entryOrder client (stopLossLeg prepared) answers.stopLoss →
    LegSaved entryOrder client (takeProfitLeg prepared) answers.takeProfit →
    (prepared.exchangeSlug.filter (· ≠ "")).isSome = true →
    answers.stopLossLinked = .ok () ∧ answers.takeProfitLinked = .ok ()
  positionExitSaved : answers.positionExitSaved = .ok ()
  committed : answers.committed = .ok ()

/-- The attachment is refused before anything is placed, or it commits and keeps both legs, or it
fails without having reached the exchange. -/
def AttachesCleanly (breaker : CircuitBreaker κ) (entryOrder : Order)
    (exitConfig : PartialExitConfig) (atr : AtrSettings) (answers : AttachAnswers κ) : Prop :=
  ∀ prepared, prepareExits entryOrder exitConfig atr answers = .ok prepared →
    answers.transactionStarted = .ok () →
    let client := openClient breaker prepared.exchangeSlug answers
    (Commits entryOrder prepared client answers →
      LegKept breaker entryOrder client prepared.exchangeSlug (stopLossLeg prepared)
        answers.stopLoss ∧
      LegKept breaker entryOrder client prepared.exchangeSlug (takeProfitLeg prepared)
        answers.takeProfit) ∧
    (¬ Commits entryOrder prepared client answers →
      LegSilent breaker entryOrder client prepared.exchangeSlug (stopLossLeg prepared)
        answers.stopLoss ∧
      LegSilent breaker entryOrder client prepared.exchangeSlug (takeProfitLeg prepared)
        answers.takeProfit)

/-! ## One leg -/

section Leg

variable (exchange : Exchange σ) (breaker : CircuitBreaker κ) (form : ExitOrderForm)
  (params : PlaceExitOrderParams) (context : PlacementContext) (fates : ℕ → Fate RemoteError)
  (circuit : κ) (remote : σ)

theorem placeExitOrder_live (hpend : ∀ request s, (exchange.createOrder request s).2.id ≠
      form.pendingPrefix ++ context.orderUuid) :
    let placement := placeExitOrder exchange breaker form params context fates circuit remote
    ∃ placed, exchange.live placement.remote = placed ++ exchange.live remote ∧
      (∀ order ∈ placed, order.2 = form.request params) ∧
      (placed = [] ↔ ¬ (AsksExchange breaker context circuit ∧
        Reached isTransientError fates MAX_RETRIES)) ∧
      (placed = [(placement.order.orderId, form.request params)] ↔
        AsksExchange breaker context circuit ∧ AnsweredOnce isTransientError fates MAX_RETRIES) := by
  intro placement
  by_cases hasks : AsksExchange breaker context circuit
  · obtain ⟨hremote, hans⟩ := placeExitOrder_asks exchange form params fates remote hasks
    have hlive := live_performed exchange (form.request params) remote
      (tried isTransientError fates MAX_RETRIES)
    rw [← retry_state isTransientError (exchange.createOrder (form.request params)) fates
      MAX_RETRIES remote, ← hremote] at hlive
    refine ⟨_, hlive, ?_, ?_, ?_⟩
    · simp only [List.mem_reverse, List.mem_map]
      rintro order ⟨_, -, rfl⟩
      rfl
    · rw [List.reverse_eq_nil_iff, List.map_eq_nil_iff, performed_eq_nil_iff]
      simp [hasks]
    · rw [and_iff_right hasks, ← @answered_once_iff σ CreatedOrder RemoteError isTransientError
        (exchange.createOrder (form.request params)) fates MAX_RETRIES remote]
      constructor
      · intro hplac
        obtain ⟨created, hcre, hid⟩ : ∃ created,
            (performed (exchange.createOrder (form.request params)) remote
              (tried isTransientError fates MAX_RETRIES)).2 = [created] ∧
            created.id = placement.order.orderId := by
          rw [List.reverse_eq_iff, List.reverse_singleton, List.map_eq_singleton_iff] at hplac
          obtain ⟨created, hcre, heq⟩ := hplac
          exact ⟨created, hcre, congrArg Prod.fst heq⟩
        obtain ⟨s', hs'⟩ := mem_performed (exchange.createOrder (form.request params)) remote
          (hcre ▸ List.mem_singleton_self created)
        cases hres : (retry isTransientError (exchange.createOrder (form.request params)) fates
            MAX_RETRIES remote).2.1 with
        | ok answer =>
          have hlast := retry_ok _ _ _ _ _ hres
          rw [hcre] at hlast
          obtain rfl : created = answer := by simpa using hlast
          exact ⟨created, rfl, hcre⟩
        | error =>
          -- the row of a placement without an answer has the id that is made up for it
          have hnone : placement.ccxtOrder = none := by
            rw [hans, hres]
            rfl
          have hid' : placement.order.orderId = form.pendingPrefix ++ context.orderUuid :=
            placeExitOrder_pendingId hnone
          exact absurd (hs' ▸ hid.trans hid') (hpend (form.request params) s')
      · rintro ⟨created, hok, hcre⟩
        have hsome : placement.ccxtOrder = some created := by
          rw [hans, hok]
          rfl
        obtain ⟨s', hs'⟩ := mem_performed (exchange.createOrder (form.request params)) remote
          (hcre ▸ List.mem_singleton_self created)
        have hid : placement.order.orderId = created.id :=
          placeExitOrder_orderId (hs' ▸ exchange.id_createOrder (form.request params) s') hsome
        rw [hcre, hid]
        rfl
  · obtain ⟨hremote, _⟩ := placeExitOrder_silent exchange form params fates remote hasks
    refine ⟨[], congrArg exchange.live hremote, by simp, by simp [hasks], ?_⟩
    simp [hasks]

end Leg

structure AsksFor (form : ExitOrderForm) (type : String) : Prop where
  type : ∀ params, (form.request params).type = type
  symbol : ∀ params, (form.request params).symbol = params.symbol
  side : ∀ params, (form.request params).side = params.side
  amount : ∀ params, (form.request params).amount = params.quantity

theorem stopLossForm_asksFor : AsksFor stopLossForm "stop_loss" :=
  ⟨fun _ => rfl, fun _ => rfl, fun _ => rfl, fun _ => rfl⟩

theorem takeProfitForm_asksFor : AsksFor takeProfitForm "limit" :=
  ⟨fun _ => rfl, fun _ => rfl, fun _ => rfl, fun _ => rfl⟩

variable {entryOrder : Order} {limits : Option ExchangeMarketLimits}

theorem ExitLeg.params_eq_some {leg : ExitLeg} {params : PlaceExitOrderParams}
    (h : leg.params entryOrder limits = some params) :
    leg.price = some params.price ∧
      params.quantity = ExitLeg.quantity entryOrder limits params.price := by
  obtain ⟨_, hprice, rfl⟩ := Option.map_eq_some_iff.mp h
  obtain ⟨hwanted, -⟩ := Option.filter_eq_some_iff.mp hprice
  unfold ExitLeg.wantedPrice at hwanted
  split_ifs at hwanted
  exact ⟨(Js.truthy?_eq_some.mp hwanted).1, rfl⟩

theorem passed_quantity_iff {price : ℚ} :
    Passed entryOrder limits price (ExitLeg.quantity entryOrder limits price) ↔
      FitsEntry entryOrder limits price := by
  unfold Passed FitsEntry ExitLeg.quantity
  by_cases hvalid : (validateExitOrderQuantity entryOrder.rawQuantity price limits).isValid = true
  · simp [hvalid]
  · simp [hvalid]

section LegSpec

variable (exchange : Exchange σ) (breaker : CircuitBreaker κ) (leg : ExitLeg) {type : String}
  (entryOrder : Order) (client : OpenedClient) (exchangeSlug : Option String)
  (answers : LegAnswers κ) (remote : σ)

theorem attachLeg_spec (hform : AsksFor leg.form type)
    (hpend : ∀ request s, (exchange.createOrder request s).2.id ≠
      leg.form.pendingPrefix ++ answers.orderUuid) :
    let attached := attachLeg exchange breaker leg (leg.params entryOrder client.marketLimits)
      client.hasClient exchangeSlug answers remote
    ∃ placed, exchange.live attached.remote = placed ++ exchange.live remote ∧
      (∀ order ∈ placed, order.2.type = type) ∧
      (placed = [] ↔ LegSilent breaker entryOrder client exchangeSlug leg answers) ∧
      (Stands attached.order placed ∧ (∀ order, attached.order = some order →
          ∃ legPrice, leg.price = some legPrice ∧
            Passed entryOrder client.marketLimits legPrice order.quantity) ↔
        LegKept breaker entryOrder client exchangeSlug leg answers) := by
  intro attached
  cases hparams : leg.params entryOrder client.marketLimits with
  | none =>
    have hattached : attached = { remote := remote, order := none, warnings := [] } := by
      simp only [attached, hparams, attachLeg]
    refine ⟨[], by simp [hattached], by simp, ?_, ?_⟩
    · simp [LegSilent, hparams]
    · simp [LegKept, hparams, hattached, Stands]
  | some params =>
    obtain ⟨hprice, hqty⟩ := ExitLeg.params_eq_some hparams
    obtain ⟨placed, hlive, htype, hnil, hone⟩ := placeExitOrder_live exchange breaker leg.form params
      (answers.context client.hasClient exchangeSlug) answers.call.fates answers.call.circuit remote
      hpend
    have hremote : attached.remote = (placeExitOrder exchange breaker leg.form params
        (answers.context client.hasClient exchangeSlug) answers.call.fates answers.call.circuit
        remote).remote := by
      simp only [attached, hparams, attachLeg]
      cases answers.saved <;> rfl
    refine ⟨placed, hremote ▸ hlive, fun order hmem => ?_, ?_, ?_⟩
    · rw [htype order hmem, hform.type]
    · simp [LegSilent, hparams, hnil, LegReaches]
    · cases hsaved : answers.saved with
      | error =>
        have horder : attached.order = none := by
          simp only [attached, hparams, attachLeg, hsaved]
        simp [LegKept, hparams, hsaved, horder, Stands, hnil, LegReaches]
      | ok =>
        have horder : attached.order = some (placeExitOrder exchange breaker leg.form params
            (answers.context client.hasClient exchangeSlug) answers.call.fates answers.call.circuit
            remote).order := by
          simp only [attached, hparams, attachLeg, hsaved]
        have hkept : LegKept breaker entryOrder client exchangeSlug leg answers ↔
            LegAnswered breaker client.hasClient exchangeSlug answers ∧
              FitsEntry entryOrder client.marketLimits params.price := by
          simp [LegKept, hparams, hsaved]
        rw [hkept, horder]
        refine and_congr ?_ ?_
        · refine Iff.trans ⟨?_, fun h => ?_⟩ hone
          · rintro ⟨_, hplac, -⟩
            have hreq := htype _ (hplac ▸ List.mem_singleton_self _)
            rw [hplac, ← hreq]
          · exact ⟨leg.form.request params, h, hform.symbol params, hform.side params,
              hform.amount params⟩
        · rw [← passed_quantity_iff, ← hqty]
          constructor
          · intro h
            obtain ⟨legPrice, hlegPrice, hpass⟩ := h _ rfl
            obtain rfl : params.price = legPrice := Option.some.inj (hprice.symm.trans hlegPrice)
            exact hpass
          · intro h order heq
            cases heq
            exact ⟨params.price, hprice, h⟩

theorem attachLeg_isSome {params : Option PlaceExitOrderParams} :
    (attachLeg exchange breaker leg params client.hasClient exchangeSlug answers remote).order.isSome =
      true ↔ params.isSome = true ∧ answers.saved = .ok () := by
  unfold attachLeg
  cases params with
  | none => simp
  | some => cases answers.saved <;> simp

end LegSpec

/-! ## The rest of the transaction -/

theorem checkExchangeOcoSupport_eq (exchangeSlug : String) :
    checkExchangeOcoSupport exchangeSlug = { native := false, simulated := true } := by
  unfold checkExchangeOcoSupport
  cases h : exchangeOcoSupport.lookup exchangeSlug with
  | none => rfl
  | some =>
    have hall : ∀ entry ∈ exchangeOcoSupport,
        entry.2 = { native := false, simulated := true } := by
      simp [exchangeOcoSupport]
    obtain ⟨before, _, heq, -⟩ := List.lookup_eq_some_iff.mp h
    exact hall _ (heq ▸ List.mem_append_right before List.mem_cons_self)

section Store

variable {entryOrder : Order} {prepared : PreparedExits} {hasClient : Bool}
  {stopLossOrder takeProfitOrder : Option Order} {warnings : List String}
  {answers : AttachAnswers κ}

def Links (prepared : PreparedExits) (stopLossOrder takeProfitOrder : Option Order) : Prop :=
  prepared.config.useOco = true ∧ stopLossOrder.isSome = true ∧ takeProfitOrder.isSome = true ∧
    (prepared.exchangeSlug.filter (· ≠ "")).isSome = true

theorem linkOco_ok_iff :
    (∃ linked, linkOco prepared.config.useOco prepared.exchangeSlug hasClient stopLossOrder
        takeProfitOrder answers = .ok linked) ↔
      (Links prepared stopLossOrder takeProfitOrder →
        answers.stopLossLinked = .ok () ∧ answers.takeProfitLinked = .ok ()) := by
  unfold linkOco Links
  cases prepared.config.useOco <;> cases stopLossOrder <;> cases takeProfitOrder <;>
    cases prepared.exchangeSlug.filter (· ≠ "") <;>
    simp [checkExchangeOcoSupport_eq]
  cases answers.stopLossLinked <;> cases answers.takeProfitLinked <;>
    simp [Bind.bind, Except.bind]

/-- The rows differ in their link only. -/
def Relinked (row row' : Option Order) : Prop :=
  ∃ link : Order → Option OrderId,
    row' = row.map fun order => { order with ocoLinkedOrderId := link order }

theorem Relinked.refl (row : Option Order) : Relinked row row :=
  ⟨(·.ocoLinkedOrderId), by cases row <;> rfl⟩

theorem linkOco_rows {linked : LinkedOrders}
    (h : linkOco prepared.config.useOco prepared.exchangeSlug hasClient stopLossOrder takeProfitOrder
      answers = .ok linked) :
    Relinked stopLossOrder linked.stopLossOrder ∧
      Relinked takeProfitOrder linked.takeProfitOrder := by
  unfold linkOco at h
  split at h
  · simp only [checkExchangeOcoSupport_eq, Bool.false_and, Bool.false_eq_true, if_false,
      if_true] at h
    cases hstop : answers.stopLossLinked with
    | error => simp [hstop, Bind.bind, Except.bind] at h
    | ok =>
      cases hprof : answers.takeProfitLinked with
      | error => simp [hstop, hprof, Bind.bind, Except.bind] at h
      | ok =>
        simp only [hstop, hprof, Bind.bind, Except.bind, pure, Except.pure, Except.ok.injEq] at h
        subst h
        exact ⟨⟨fun _ => _, rfl⟩, ⟨fun _ => _, rfl⟩⟩
  · cases h
    exact ⟨Relinked.refl _, Relinked.refl _⟩

theorem storeExits_ok_iff :
    (∃ stored, storeExits entryOrder prepared hasClient stopLossOrder takeProfitOrder warnings
        answers = .ok stored) ↔
      (Links prepared stopLossOrder takeProfitOrder →
        answers.stopLossLinked = .ok () ∧ answers.takeProfitLinked = .ok ()) ∧
      answers.positionExitSaved = .ok () ∧ answers.committed = .ok () := by
  rw [← @linkOco_ok_iff κ prepared hasClient stopLossOrder takeProfitOrder answers]
  unfold storeExits
  cases linkOco prepared.config.useOco prepared.exchangeSlug hasClient stopLossOrder takeProfitOrder
      answers <;>
    cases answers.positionExitSaved <;> cases answers.committed <;>
    simp [Bind.bind, Except.bind, pure, Except.pure]

theorem storeExits_stored {stored : StoredExits}
    (h : storeExits entryOrder prepared hasClient stopLossOrder takeProfitOrder warnings answers =
      .ok stored) :
    Relinked stopLossOrder stored.stopLossOrder ∧
      Relinked takeProfitOrder stored.takeProfitOrder ∧
      stored.positionExit.stopLossOrderId = stored.stopLossOrder.map (·.id) ∧
      stored.positionExit.takeProfitOrderId = stored.takeProfitOrder.map (·.id) ∧
      stored.positionExit.stopLossPrice = (calculateExitPrices entryOrder.entryPrice entryOrder.side
        prepared.config prepared.currentAtr).stopLossPrice ∧
      stored.positionExit.takeProfitPrice = (calculateExitPrices entryOrder.entryPrice
        entryOrder.side prepared.config prepared.currentAtr).takeProfitPrice := by
  unfold storeExits at h
  cases hlink : linkOco prepared.config.useOco prepared.exchangeSlug hasClient stopLossOrder
      takeProfitOrder answers with
  | error => simp [hlink, Bind.bind, Except.bind] at h
  | ok =>
    cases hsaved : answers.positionExitSaved with
    | error => simp [hlink, hsaved, Bind.bind, Except.bind] at h
    | ok =>
      cases hcommitted : answers.committed with
      | error => simp [hlink, hsaved, hcommitted, Bind.bind, Except.bind] at h
      | ok =>
        simp only [hlink, hsaved, hcommitted, Bind.bind, Except.bind, pure, Except.pure,
          Except.ok.injEq] at h
        subst h
        obtain ⟨hstop, hprof⟩ := linkOco_rows hlink
        exact ⟨hstop, hprof, rfl, rfl, rfl, rfl⟩

theorem prepareExits_prices {exitConfig : PartialExitConfig} {atr : AtrSettings}
    (h : prepareExits entryOrder exitConfig atr answers = .ok prepared) :
    prepared.prices = calculateExitPrices entryOrder.entryPrice entryOrder.side prepared.config
      prepared.currentAtr := by
  unfold prepareExits at h
  simp only [Bind.bind, Except.bind, pure, Except.pure, throw, throwThe, MonadExceptOf.throw] at h
  split at h
  · cases h
  split at h
  · cases h
  split at h
  · cases h
  split at h
  · cases h
  split at h
  · cases h
  split at h
  · cases h
    rfl
  · cases h

end Store

/-! ## The whole attachment -/

theorem legSettled_iff {placed orders : List LiveOrder} {type : String} {row row' : Option Order}
    {price : Option ℚ} (hords : placed.filter (·.2.type = type) = orders) (hrow : Relinked row row')
    :
    LegSettled entryOrder limits placed type row' (row'.map (·.id)) price ↔
      Stands row orders ∧ ∀ order, row = some order →
        ∃ legPrice, price = some legPrice ∧ Passed entryOrder limits legPrice order.quantity := by
  obtain ⟨link, rfl⟩ := hrow
  cases row with
  | none =>
    constructor
    · rintro ⟨hstands, -, -⟩
      exact ⟨hords ▸ hstands, by simp⟩
    · rintro ⟨hstands, -⟩
      exact ⟨hords.symm ▸ hstands, rfl, by simp⟩
  | some order =>
    constructor
    · rintro ⟨hstands, -, hpass⟩
      refine ⟨hords ▸ hstands, fun order' heq => ?_⟩
      cases heq
      exact hpass { order with ocoLinkedOrderId := link order } rfl
    · rintro ⟨hstands, hpass⟩
      refine ⟨hords.symm ▸ hstands, rfl, fun order' heq => ?_⟩
      cases heq
      exact hpass order rfl

theorem filter_type_append {stops profits : List LiveOrder}
    (hstops : ∀ order ∈ stops, order.2.type = "stop_loss")
    (hprofits : ∀ order ∈ profits, order.2.type = "limit") :
    (profits ++ stops).filter (·.2.type = "stop_loss") = stops ∧
      (profits ++ stops).filter (·.2.type = "limit") = profits := by
  have hstop : profits.filter (·.2.type = "stop_loss") = [] :=
    List.filter_eq_nil_iff.mpr fun order hmem => by simp [hprofits order hmem]
  have hlimit : stops.filter (·.2.type = "limit") = [] :=
    List.filter_eq_nil_iff.mpr fun order hmem => by simp [hstops order hmem]
  constructor
  · rw [List.filter_append, hstop, List.nil_append]
    exact List.filter_eq_self.mpr fun order hmem => by simp [hstops order hmem]
  · rw [List.filter_append, hlimit, List.append_nil]
    exact List.filter_eq_self.mpr fun order hmem => by simp [hprofits order hmem]

def limitsOf (breaker : CircuitBreaker κ) (entryOrder : Order) (exitConfig : PartialExitConfig)
    (atr : AtrSettings) (answers : AttachAnswers κ) : Option ExchangeMarketLimits :=
  match prepareExits entryOrder exitConfig atr answers with
  | .ok prepared => (openClient breaker prepared.exchangeSlug answers).marketLimits
  | .error _ => none

/-- The exchange never gives an id that is made up for an order without an answer. -/
def GivesOwnIds (exchange : Exchange σ) (answers : AttachAnswers κ) : Prop :=
  ∀ request s,
    (exchange.createOrder request s).2.id ≠ "sl_pending_" ++ answers.stopLoss.orderUuid ∧
      (exchange.createOrder request s).2.id ≠ "tp_pending_" ++ answers.takeProfit.orderUuid

section Legs

variable (exchange : Exchange σ) (breaker : CircuitBreaker κ) (entryOrder : Order)
  (prepared : PreparedExits) (client : OpenedClient) (answers : AttachAnswers κ)
  (stopRemote profitRemote : σ) (warnings : List String)

theorem storeExits_commits_iff :
    (∃ stored, storeExits entryOrder prepared client.hasClient
        (attachLeg exchange breaker (stopLossLeg prepared)
          ((stopLossLeg prepared).params entryOrder client.marketLimits) client.hasClient
          prepared.exchangeSlug answers.stopLoss stopRemote).order
        (attachLeg exchange breaker (takeProfitLeg prepared)
          ((takeProfitLeg prepared).params entryOrder client.marketLimits) client.hasClient
          prepared.exchangeSlug answers.takeProfit profitRemote).order
        warnings answers = .ok stored) ↔
      Commits entryOrder prepared client answers := by
  rw [storeExits_ok_iff, Links, attachLeg_isSome, attachLeg_isSome]
  constructor
  · rintro ⟨hlink, hsaved, hcommitted⟩
    exact ⟨fun hoco hstop hprof hslug => hlink ⟨hoco, hstop, hprof, hslug⟩, hsaved, hcommitted⟩
  · rintro ⟨hlink, hsaved, hcommitted⟩
    exact ⟨fun ⟨hoco, hstop, hprof, hslug⟩ => hlink hoco hstop hprof hslug, hsaved, hcommitted⟩

end Legs

/-- **An attachment is atomic exactly when it is refused before anything is placed, or it commits and
keeps both legs, or it fails without having reached the exchange.** -/
theorem attachExitOrders_atomic_iff (exchange : Exchange σ) (breaker : CircuitBreaker κ)
    (entryOrder : Order) (exitConfig : PartialExitConfig) (atr : AtrSettings)
    (answers : AttachAnswers κ) (remote : σ) (hpending : GivesOwnIds exchange answers) :
    Atomic exchange entryOrder (limitsOf breaker entryOrder exitConfig atr answers) remote
        (attachExitOrders exchange breaker entryOrder exitConfig atr answers remote) ↔
      AttachesCleanly breaker entryOrder exitConfig atr answers := by
  unfold attachExitOrders limitsOf AttachesCleanly
  cases hprepared : prepareExits entryOrder exitConfig atr answers with
  | error => simp [Atomic]
  | ok prepared =>
    cases hstarted : answers.transactionStarted with
    | error => simp [Atomic]
    | ok =>
      simp only [Except.ok.injEq, forall_eq', forall_const]
      generalize hclient : openClient breaker prepared.exchangeSlug answers = client
      obtain ⟨stops, hstops, hstopType, hstopNil, hstopKept⟩ := attachLeg_spec exchange breaker
        (stopLossLeg prepared) entryOrder client prepared.exchangeSlug answers.stopLoss remote
        stopLossForm_asksFor fun request s => (hpending request s).1
      generalize hstopLoss : attachLeg exchange breaker (stopLossLeg prepared)
        ((stopLossLeg prepared).params entryOrder client.marketLimits) client.hasClient
        prepared.exchangeSlug answers.stopLoss remote = stopLoss at *
      obtain ⟨profits, hprofits, hprofitType, hprofitNil, hprofitKept⟩ := attachLeg_spec exchange
        breaker (takeProfitLeg prepared) entryOrder client prepared.exchangeSlug answers.takeProfit
        stopLoss.remote takeProfitForm_asksFor fun request s => (hpending request s).2
      generalize htakeProfit : attachLeg exchange breaker (takeProfitLeg prepared)
        ((takeProfitLeg prepared).params entryOrder client.marketLimits) client.hasClient
        prepared.exchangeSlug answers.takeProfit stopLoss.remote = takeProfit at *
      have hlive : exchange.live takeProfit.remote =
          (profits ++ stops) ++ exchange.live remote := by
        rw [hprofits, hstops, List.append_assoc]
      generalize hwarnings : prepared.warnings ++ client.warnings ++
        (stopLossLeg prepared).quantityWarnings entryOrder client.marketLimits ++
        (takeProfitLeg prepared).quantityWarnings entryOrder client.marketLimits ++
        stopLoss.warnings ++ takeProfit.warnings = warnings
      have hcommits := storeExits_commits_iff exchange breaker entryOrder prepared client answers
        remote stopLoss.remote warnings
      rw [hstopLoss, htakeProfit] at hcommits
      cases hstored : storeExits entryOrder prepared client.hasClient stopLoss.order
          takeProfit.order warnings answers with
      | error =>
        have hfails : ¬ Commits entryOrder prepared client answers := by
          rw [← hcommits, hstored]
          simp
        simp only [Atomic, hlive, hfails, false_imp_iff, true_and, not_false_eq_true,
          forall_const, ← hstopNil, ← hprofitNil]
        rw [List.append_left_eq_self, List.append_eq_nil_iff, and_comm]
      | ok stored =>
        have hmeets : Commits entryOrder prepared client answers := hcommits.mp ⟨stored, hstored⟩
        obtain ⟨hstopRow, hprofitRow, hstopId, hprofitId, hstopPrice, hprofitPrice⟩ :=
          storeExits_stored hstored
        have hprices := prepareExits_prices hprepared
        have hstopSettled : LegSettled entryOrder client.marketLimits (profits ++ stops) "stop_loss"
            stored.stopLossOrder stored.positionExit.stopLossOrderId
            stored.positionExit.stopLossPrice ↔
            LegKept breaker entryOrder client prepared.exchangeSlug (stopLossLeg prepared)
              answers.stopLoss := by
          rw [hstopId, hstopPrice, ← hprices,
            legSettled_iff (filter_type_append hstopType hprofitType).1 hstopRow]
          exact hstopKept
        have hprofitSettled : LegSettled entryOrder client.marketLimits (profits ++ stops) "limit"
            stored.takeProfitOrder stored.positionExit.takeProfitOrderId
            stored.positionExit.takeProfitPrice ↔
            LegKept breaker entryOrder client prepared.exchangeSlug (takeProfitLeg prepared)
              answers.takeProfit := by
          rw [hprofitId, hprofitPrice, ← hprices,
            legSettled_iff (filter_type_append hstopType hprofitType).2 hprofitRow]
          exact hprofitKept
        rw [← hstopSettled, ← hprofitSettled]
        constructor
        · rintro ⟨_, placed, ⟨rfl⟩, -, hplaced, -, hstop, hprofit⟩
          obtain rfl : placed = profits ++ stops :=
            List.append_cancel_right (hplaced.symm.trans hlive)
          exact ⟨fun _ => ⟨hstop, hprofit⟩, fun hfails => absurd hmeets hfails⟩
        · rintro ⟨hsettled, -⟩
          obtain ⟨hstop, hprofit⟩ := hsettled hmeets
          refine ⟨stored, profits ++ stops, rfl, rfl, hlive, fun order hmem => ?_, hstop, hprofit⟩
          rcases List.mem_append.mp hmem with hmem | hmem
          · exact .inr (hprofitType order hmem)
          · exact .inl (hstopType order hmem)

end AtomicAttachment

def filledBuy : Order where
  id := "entry"
  orderId := "1"
  clientOrderId := "1"
  symbol := "BTC/USDT"
  side := .buy
  type := .market
  quantity := 2
  price := 100
  executedQuantity := 2
  averagePrice := some 100
  status := .filled
  transactTime := 0
  isManual := true
  exchangeKeyId := some "key"
  userId := "user"

def stopAndProfit : PartialExitConfig where
  enableStopLoss := some true
  enableTakeProfit := some true

def answeredCall : RemoteCall Unit where
  circuit := ()
  fates _ := .answered

def answeredLeg (id : OrderId) : LegAnswers Unit where
  call := answeredCall
  baseCoin := some "BTC"
  quoteCoin := some "USDT"
  id := id
  orderUuid := "a"
  clientUuid := "b"
  now := 0
  saved := .ok ()

def answeredAttach (committed : Except RemoteError Unit) : AttachAnswers Unit where
  userLoaded := true
  exchangeKey := .ok (some "binance")
  calculatedAtr := none
  transactionStarted := .ok ()
  client := answeredCall
  loadMarkets := answeredCall
  marketLimits :=
    some { minAmount := 1 / 1000, amountStep := 1 / 1000, minCost := 10, amountPrecision := 3 }
  stopLoss := answeredLeg "stop"
  takeProfit := answeredLeg "profit"
  stopLossLinked := .ok ()
  takeProfitLinked := .ok ()
  positionExitId := "exit"
  positionExitSaved := .ok ()
  committed := committed

theorem orderNumber_ne_pending (number : ℕ) (uuid : String) :
    orderNumber number ≠ "sl_pending_" ++ uuid ∧ orderNumber number ≠ "tp_pending_" ++ uuid := by
  constructor <;>
  · intro h
    have hhead := congrArg (fun id => id.toList.head?) h
    simp [orderNumber, List.replicate_succ] at hhead

def bitcoinExits : PreparedExits where
  config := applyLayer DEFAULT_EXIT_CONFIG stopAndProfit
  exchangeSlug := some "binance"
  currentAtr := none
  prices := { entryPrice := 100, stopLossPrice := some (193 / 2), takeProfitPrice := some 107 }
  warnings := []

theorem prepareExits_bitcoin :
    prepareExits filledBuy stopAndProfit {} (answeredAttach (.ok ())) = .ok bitcoinExits := by
  decide +kernel

theorem attachExitOrders_atomic_iff_bitcoin :
    Atomic numberedExchange filledBuy
      (limitsOf closedCircuit filledBuy stopAndProfit {} (answeredAttach (.ok ()))) noOrders
      (attachExitOrders numberedExchange closedCircuit filledBuy stopAndProfit {}
        (answeredAttach (.ok ())) noOrders) := by
  refine (attachExitOrders_atomic_iff numberedExchange closedCircuit filledBuy stopAndProfit {}
    (answeredAttach (.ok ())) noOrders fun _ _ => ?_).mpr fun prepared hprepared _ => ?_
  · exact ⟨(orderNumber_ne_pending _ _).1, (orderNumber_ne_pending _ _).2⟩
  · obtain rfl : bitcoinExits = prepared :=
      Except.ok.inj (prepareExits_bitcoin.symm.trans hprepared)
    refine ⟨fun _ => ⟨fun params hparams => ?_, fun params hparams => ?_⟩, fun hfails => ?_⟩
    · have hprice : 193 / 2 = params.price := Option.some.inj (ExitLeg.params_eq_some hparams).1
      have hsaved : (answeredAttach (.ok ())).stopLoss.saved = .ok () := rfl
      rw [← hprice, if_pos hsaved]
      exact ⟨⟨⟨rfl, (), rfl⟩, answeredOnce_of_answered rfl⟩, by decide +kernel, by decide +kernel⟩
    · have hprice : 107 = params.price := Option.some.inj (ExitLeg.params_eq_some hparams).1
      have hsaved : (answeredAttach (.ok ())).takeProfit.saved = .ok () := rfl
      rw [← hprice, if_pos hsaved]
      exact ⟨⟨⟨rfl, (), rfl⟩, answeredOnce_of_answered rfl⟩, by decide +kernel, by decide +kernel⟩
    · exact absurd ⟨fun _ _ _ _ => ⟨rfl, rfl⟩, rfl, rfl⟩ hfails

def lostConnection : RemoteError where
  name := "QueryFailedError"
  message := "connection lost"

theorem exits_outlive_rollback :
    ¬ Atomic numberedExchange filledBuy
      (limitsOf closedCircuit filledBuy stopAndProfit {} (answeredAttach (.error lostConnection)))
      noOrders
      (attachExitOrders numberedExchange closedCircuit filledBuy stopAndProfit {}
        (answeredAttach (.error lostConnection)) noOrders) := by
  have hlive : (numberedExchange.live (attachExitOrders numberedExchange closedCircuit filledBuy
      stopAndProfit {} (answeredAttach (.error lostConnection)) noOrders).remote).length = 2 := by
    decide +kernel
  have hstored : (attachExitOrders numberedExchange closedCircuit filledBuy stopAndProfit {}
      (answeredAttach (.error lostConnection)) noOrders).stored.isNone = true := by
    decide +kernel
  unfold Atomic
  intro h
  split at h
  · rw [h.2] at hlive
    exact absurd hlive (by decide)
  · obtain ⟨_, _, hsome, -⟩ := h
    simp [hsome] at hstored

end Chansey
