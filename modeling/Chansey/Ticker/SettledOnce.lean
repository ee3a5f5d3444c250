import Chansey.Ticker.Batcher

/-!
# Every ticker request is settled once

* `waitingIds`, `fetchedIds`, `settledIds`: where the requests are. **`total_next`**: a step moves
  requests from one place to another, and adds the one that is made.
* `Owned`: each request is filed under its own symbol and exchange, and what is cached or resolved
  comes from an answer of that exchange. **`Owned.next`**: a step keeps it.
-/

namespace Chansey

/-! ## Where the requests are -/

def pendingIds (pending : Pending) : Multiset RequestId :=
  pending.sumBy fun _ (waiters : List RequestId) => (waiters : Multiset RequestId)

def waitingIds (batches : OrdMap ExchangeSlug BatchState) : Multiset RequestId :=
  batches.sumBy fun _ (state : BatchState) => pendingIds state.pending

def fetchedIds (fetches : List TickerFetch) : Multiset RequestId :=
  (fetches.map fun fetch => pendingIds fetch.pending).sum

def settledIds (settled : List (RequestId × Settlement)) : Multiset RequestId :=
  (settled.map Prod.fst : List RequestId)

@[simp] theorem waitingIds_empty : waitingIds OrdMap.empty = 0 := rfl

theorem pendingIds_set (pending : Pending) (symbol : String) (id : RequestId) :
    pendingIds (pending.set symbol ((pending.get? symbol).getD [] ++ [id])) =
      pendingIds pending + {id} := by
  have hset := pending.sumBy_set (fun _ (waiters : List RequestId) => (waiters : Multiset RequestId))
    symbol ((pending.get? symbol).getD [] ++ [id])
  have hnew : (((pending.get? symbol).getD [] ++ [id] : List RequestId) : Multiset RequestId) =
      (pending.get? symbol).elim 0 (fun waiters => (waiters : Multiset RequestId)) + {id} := by
    rw [← Multiset.coe_add, Multiset.coe_singleton]
    cases pending.get? symbol <;> rfl
  rw [hnew, ← add_assoc, add_right_comm] at hset
  exact add_right_cancel hset

theorem waitingIds_set (batches : OrdMap ExchangeSlug BatchState) (slug : ExchangeSlug)
    (state : BatchState) :
    waitingIds (batches.set slug state) + pendingIds ((batches.get? slug).getD {}).pending =
      waitingIds batches + pendingIds state.pending := by
  have hset := batches.sumBy_set (fun _ (state : BatchState) => pendingIds state.pending) slug state
  have hold : (batches.get? slug).elim 0 (fun state => pendingIds state.pending) =
      pendingIds ((batches.get? slug).getD {}).pending := by
    cases batches.get? slug <;> rfl
  rwa [hold] at hset

@[simp] theorem fetchedIds_append (fetches : List TickerFetch) (fetch : TickerFetch) :
    fetchedIds (fetches ++ [fetch]) = fetchedIds fetches + pendingIds fetch.pending := by
  simp [fetchedIds]

theorem fetchedIds_eraseIdx {fetches : List TickerFetch} {index : ℕ} {fetch : TickerFetch}
    (h : fetches[index]? = some fetch) :
    fetchedIds (fetches.eraseIdx index) + pendingIds fetch.pending = fetchedIds fetches := by
  obtain ⟨hindex, rfl⟩ := List.getElem?_eq_some_iff.1 h
  have hperm := (List.getElem_cons_eraseIdx_perm hindex).map fun fetch => pendingIds fetch.pending
  have hsum := hperm.sum_eq
  rw [List.map_cons, List.sum_cons] at hsum
  rw [fetchedIds, fetchedIds, ← hsum, add_comm]

@[simp] theorem settledIds_append (settled rs : List (RequestId × Settlement)) :
    settledIds (settled ++ rs) = settledIds settled + settledIds rs := by
  simp [settledIds]

@[simp] theorem settledIds_singleton (id : RequestId) (settlement : Settlement) :
    settledIds [(id, settlement)] = {id} := rfl

@[simp] theorem settledIds_settleAll (answer : String → Settlement) (pending : Pending) :
    settledIds (settleAll answer pending) = pendingIds pending := by
  unfold settleAll pendingIds OrdMap.sumBy
  induction pending.entries with
  | nil => rfl
  | cons waiters entries ih =>
    rw [List.flatMap_cons, settledIds_append, ih, List.map_cons, List.sum_cons, settledIds,
      List.map_map]
    congr 2
    exact List.map_id _

theorem settledIds_flatMap (answer : String → Settlement)
    (batches : List (ExchangeSlug × BatchState)) :
    settledIds (batches.flatMap fun batch => settleAll answer batch.2.pending) =
      (batches.map fun batch => pendingIds batch.2.pending).sum := by
  induction batches with
  | nil => rfl
  | cons batch batches ih =>
    rw [List.flatMap_cons, settledIds_append, settledIds_settleAll, ih, List.map_cons, List.sum_cons]

namespace Batcher

def total (s : Batcher) : Multiset RequestId :=
  settledIds s.settled + waitingIds s.batches + fetchedIds s.fetches

theorem total_rejectAll (s : Batcher) (pending : Pending) (error : String) :
    (s.rejectAll pending error).total = s.total + pendingIds pending := by
  simp only [total, rejectAll, settledIds_append, settledIds_settleAll]
  abel

section

variable (s : Batcher) (slug : ExchangeSlug)

include s slug

theorem total_flush (circuitError : Option String) :
    (s.flush slug circuitError).total = s.total := by
  unfold flush
  cases hstate : s.batches.get? slug with
  | none => rfl
  | some state =>
    have hset := waitingIds_set s.batches slug
    rw [hstate, Option.getD_some] at hset
    simp only
    split
    · have hkept := add_right_cancel (hset { state with timer := false })
      simp only [total, hkept]
    · have hmoved : waitingIds (s.batches.set slug {}) + pendingIds state.pending =
          waitingIds s.batches := (hset {}).trans (add_zero _)
      cases circuitError with
      | some =>
        rw [total_rejectAll]
        simp only [total, ← hmoved]
        abel
      | none =>
        simp only [total, fetchedIds_append, ← hmoved]
        abel

theorem total_enqueue (symbol : String) (id : RequestId) (circuitError : Option String) :
    (s.enqueue slug symbol id circuitError).total = s.total + {id} := by
  unfold enqueue
  split
  · simp only [total, settledIds_append, settledIds_singleton]
    abel
  · simp only
    generalize hstate : (s.batches.get? slug).getD {} = state
    have hqueued : ∀ timer, waitingIds (s.batches.set slug
        { pending := state.pending.set symbol ((state.pending.get? symbol).getD [] ++ [id])
          timer := timer }) = waitingIds s.batches + {id} := by
      intro timer
      have hset := waitingIds_set s.batches slug
        { pending := state.pending.set symbol ((state.pending.get? symbol).getD [] ++ [id])
          timer := timer }
      rw [hstate, pendingIds_set, ← add_assoc, add_right_comm] at hset
      exact add_right_cancel hset
    split
    · rw [total_flush]
      simp only [total, hqueued]
      abel
    · simp only [total, hqueued]
      abel

theorem total_readMemCache (symbol : String) (now : Instant) :
    (s.readMemCache slug symbol now).2.total = s.total := by
  unfold readMemCache
  split
  · rfl
  · split <;> rfl

theorem total_getTicker (symbol : String) (now : Instant) (circuitError : Option String) :
    (s.getTicker slug symbol now circuitError).total = s.total + {s.requests.length} := by
  have hread := total_readMemCache { s with requests := s.requests ++ [(slug, symbol)] } slug symbol
    now
  unfold getTicker
  simp only
  split
  · rename_i cached s' heq
    rw [heq] at hread
    rw [← show s'.total = s.total from hread]
    simp only [total, settledIds_append, settledIds_singleton]
    abel
  · rename_i s' heq
    rw [heq] at hread
    rw [total_enqueue, show s'.total = s.total from hread]

end

theorem total_finish (s : Batcher) (fetch : TickerFetch) (answer : Except String Tickers)
    (now : Instant) : (s.finish fetch answer now).total = s.total + pendingIds fetch.pending := by
  unfold finish
  split
  · cases answer with
    | error error => exact total_rejectAll s fetch.pending error
    | ok =>
      simp only [total, resolveFromResponse, settledIds_append, settledIds_settleAll]
      abel
  · exact total_rejectAll s fetch.pending _

theorem total_onModuleDestroy (s : Batcher) : s.onModuleDestroy.total = s.total := by
  simp only [total, onModuleDestroy, settledIds_append, settledIds_flatMap, waitingIds_empty,
    add_zero]
  rfl

def made (s : Batcher) : TickerMove → Multiset RequestId
  | .getTicker .. => {s.requests.length}
  | .timer .. | .fetched .. | .destroy => 0

theorem total_next (s : Batcher) (move : TickerMove) : (s.next move).total = s.total + s.made move := by
  cases move with
  | getTicker slug symbol now circuitError => exact total_getTicker s slug symbol now circuitError
  | timer slug circuitError =>
    rw [made, add_zero, next]
    split
    · exact total_flush s slug circuitError
    · rfl
  | fetched index =>
    rw [made, add_zero, next]
    cases hfetch : s.fetches[index]? with
    | none => rfl
    | some =>
      simp only
      rw [total_finish]
      simp only [total]
      rw [add_assoc, fetchedIds_eraseIdx hfetch]
  | destroy =>
    rw [made, add_zero]
    exact total_onModuleDestroy s

end Batcher

/-! ## Whose ticker it is -/

section Owned

variable (requests : List (ExchangeSlug × String)) (answers : List (ExchangeSlug × Tickers × Instant))

def Quoted (slug : ExchangeSlug) (symbol : String) (ticker : BatchedTicker) : Prop :=
  ∃ tickers now, (slug, tickers, now) ∈ answers ∧
    Batcher.batched slug tickers now symbol = some ticker

def Unlisted (slug : ExchangeSlug) (symbol : String) : Prop :=
  ∃ tickers now, (slug, tickers, now) ∈ answers ∧
    tickers.get? (formatSymbolForExchange slug.text symbol) = none

def Filed (slug : ExchangeSlug) (pending : Pending) : Prop :=
  ∀ symbol waiters, pending.get? symbol = some waiters →
    ∀ id ∈ waiters, requests[id]? = some (slug, symbol)

def OwnAnswer : RequestId × Settlement → Prop
  | (id, .resolved (some ticker)) =>
    ∃ slug symbol, requests[id]? = some (slug, symbol) ∧ Quoted answers slug symbol ticker
  | (id, .resolved none) =>
    ∃ slug symbol, requests[id]? = some (slug, symbol) ∧ Unlisted answers slug symbol
  | (_, .rejected _) => True

end Owned

structure Owned (s : Batcher) : Prop where
  waiting : ∀ slug state, s.batches.get? slug = some state → Filed s.requests slug state.pending
  fetched : ∀ fetch ∈ s.fetches, Filed s.requests fetch.slug fetch.pending
  cached : ∀ slug symbol entry, s.memCache.get? (cacheKey slug symbol) = some entry →
    Quoted s.answers slug symbol entry.1
  settled : ∀ settled ∈ s.settled, OwnAnswer s.requests s.answers settled

theorem append_cons_inj_of_notMem {α : Type} {a : α} {l l' r r' : List α} (hl : a ∉ l)
    (hl' : a ∉ l') (h : l ++ a :: r = l' ++ a :: r') : l = l' ∧ r = r' := by
  induction l generalizing l' with
  | nil =>
    cases l' with
    | nil => exact ⟨rfl, (List.cons.inj h).2⟩
    | cons => exact absurd ((List.cons.inj h).1 ▸ List.mem_cons_self) hl'
  | cons b l ih =>
    cases l' with
    | nil => exact absurd ((List.cons.inj h).1 ▸ List.mem_cons_self) hl
    | cons =>
      obtain ⟨rfl, hrest⟩ := List.cons.inj h
      obtain ⟨rfl, rfl⟩ := ih (fun hmem => hl (List.mem_cons_of_mem b hmem))
        (fun hmem => hl' (List.mem_cons_of_mem b hmem)) hrest
      exact ⟨rfl, rfl⟩

theorem cacheKey_injective {slug slug' : ExchangeSlug} {symbol symbol' : String}
    (h : cacheKey slug symbol = cacheKey slug' symbol') : slug = slug' ∧ symbol = symbol' := by
  have hlist := congrArg String.toList h
  simp only [cacheKey, String.toList_append, List.append_assoc] at hlist
  obtain ⟨hslug, hsym⟩ := append_cons_inj_of_notMem slug.plain slug'.plain hlist
  refine ⟨?_, String.toList_inj.1 hsym⟩
  cases slug
  cases slug'
  cases String.toList_inj.1 hslug
  rfl

variable {requests requests' : List (ExchangeSlug × String)} {slug : ExchangeSlug}
  {pending : Pending} {settled : RequestId × Settlement}

theorem Filed.mono (h : Filed requests slug pending)
    (hmono : ∀ (id : ℕ) request, requests[id]? = some request → requests'[id]? = some request) :
    Filed requests' slug pending :=
  fun symbol waiters hget id hmem => hmono id _ (h symbol waiters hget id hmem)

theorem Filed.set {requests : List (ExchangeSlug × String)} {symbol : String} {id : RequestId}
    (h : Filed requests slug pending) (hid : requests[id]? = some (slug, symbol)) :
    Filed requests slug (pending.set symbol ((pending.get? symbol).getD [] ++ [id])) := by
  intro symbol' waiters hget id' hmem
  rw [OrdMap.get?_set] at hget
  split at hget
  · rename_i heq
    subst heq
    cases hget
    rcases List.mem_append.1 hmem with hmem | hmem
    · cases hold : pending.get? symbol with
      | none => rw [hold] at hmem; cases hmem
      | some waiters => exact h symbol waiters hold id' (by rwa [hold] at hmem)
    · obtain rfl := List.mem_singleton.1 hmem
      exact hid
  · exact h symbol' waiters hget id' hmem

theorem OwnAnswer.mono {answers answers' : List (ExchangeSlug × Tickers × Instant)}
    (h : OwnAnswer requests answers settled)
    (hmono : ∀ (id : ℕ) request, requests[id]? = some request → requests'[id]? = some request)
    (hanss : ∀ answer ∈ answers, answer ∈ answers') : OwnAnswer requests' answers' settled := by
  obtain ⟨id, settlement⟩ := settled
  cases settlement with
  | rejected => trivial
  | resolved ticker =>
    cases ticker with
    | none =>
      obtain ⟨slug, symbol, hid, tickers, now, hmem, hnone⟩ := h
      exact ⟨slug, symbol, hmono id _ hid, tickers, now, hanss _ hmem, hnone⟩
    | some =>
      obtain ⟨slug, symbol, hid, tickers, now, hmem, hsome⟩ := h
      exact ⟨slug, symbol, hmono id _ hid, tickers, now, hanss _ hmem, hsome⟩

theorem mem_settleAll {answer : String → Settlement} (h : settled ∈ settleAll answer pending) :
    ∃ symbol waiters, pending.get? symbol = some waiters ∧ settled.1 ∈ waiters ∧
      settled.2 = answer symbol := by
  obtain ⟨⟨symbol, waiters⟩, hentry, hmem⟩ := List.mem_flatMap.1 h
  obtain ⟨_, hid, rfl⟩ := List.mem_map.1 hmem
  exact ⟨symbol, waiters, OrdMap.get?_eq_some_iff.2 hentry, hid, rfl⟩

namespace Owned

variable {s : Batcher} {slug : ExchangeSlug}

theorem setBatch (h : Owned s) {state : BatchState} (hstate : Filed s.requests slug state.pending) :
    Owned { s with batches := s.batches.set slug state } := by
  refine ⟨fun slug' state' hget => ?_, h.fetched, h.cached, h.settled⟩
  rw [OrdMap.get?_set] at hget
  split at hget
  · rename_i heq
    cases hget
    exact heq ▸ hstate
  · exact h.waiting slug' state' hget

theorem settle (h : Owned s) {rs : List (RequestId × Settlement)}
    (hrs : ∀ r ∈ rs, OwnAnswer s.requests s.answers r) : Owned { s with settled := s.settled ++ rs } :=
  ⟨h.waiting, h.fetched, h.cached, fun r hmem =>
    (List.mem_append.1 hmem).elim (h.settled r) (hrs r)⟩

theorem rejectAll (h : Owned s) (pending : Pending) (error : String) :
    Owned (s.rejectAll pending error) := by
  refine h.settle fun r hmem => ?_
  obtain ⟨_, _, -, -, heq⟩ := mem_settleAll hmem
  obtain ⟨_, _⟩ := r
  cases heq
  trivial

theorem flush (h : Owned s) (slug : ExchangeSlug) (circuitError : Option String) :
    Owned (s.flush slug circuitError) := by
  unfold Batcher.flush
  cases hstate : s.batches.get? slug with
  | none => exact h
  | some state =>
    have hfiled := h.waiting slug state hstate
    simp only
    split
    · exact h.setBatch hfiled
    · have hempty : Owned { s with batches := s.batches.set slug {} } :=
        h.setBatch fun symbol waiters hget => by cases hget
      cases circuitError with
      | some error => exact hempty.rejectAll state.pending error
      | none =>
        refine ⟨hempty.waiting, fun fetch hmem => ?_, hempty.cached, hempty.settled⟩
        rcases List.mem_append.1 hmem with hmem | hmem
        · exact hempty.fetched fetch hmem
        · obtain rfl := List.mem_singleton.1 hmem
          exact hfiled

theorem enqueue (h : Owned s) {symbol : String} {id : RequestId} (circuitError : Option String)
    (hid : s.requests[id]? = some (slug, symbol)) :
    Owned (s.enqueue slug symbol id circuitError) := by
  unfold Batcher.enqueue
  split
  · refine h.settle fun r hmem => ?_
    obtain rfl := List.mem_singleton.1 hmem
    trivial
  · have hold : Filed s.requests slug ((s.batches.get? slug).getD {}).pending := by
      cases hstate : s.batches.get? slug with
      | none => exact fun symbol waiters hget => by cases hget
      | some state => exact h.waiting slug state hstate
    simp only
    split
    · exact (h.setBatch (hold.set hid)).flush slug circuitError
    · exact h.setBatch (hold.set hid)

theorem ask (h : Owned s) (request : ExchangeSlug × String) :
    Owned { s with requests := s.requests ++ [request] } := by
  have hmono : ∀ (id : ℕ) other, s.requests[id]? = some other →
      (s.requests ++ [request])[id]? = some other := by
    intro id other hget
    rw [List.getElem?_append_left (List.getElem?_eq_some_iff.1 hget).1]
    exact hget
  exact ⟨fun slug state hget => (h.waiting slug state hget).mono hmono,
    fun fetch hmem => (h.fetched fetch hmem).mono hmono, h.cached,
    fun r hmem => OwnAnswer.mono (h.settled r hmem) hmono fun _ => id⟩

theorem readMemCache (h : Owned s) (slug : ExchangeSlug) (symbol : String) (now : Instant) :
    Owned (s.readMemCache slug symbol now).2 ∧
      (s.readMemCache slug symbol now).2.requests = s.requests ∧
      ∀ ticker ∈ (s.readMemCache slug symbol now).1,
        Quoted (s.readMemCache slug symbol now).2.answers slug symbol ticker := by
  unfold Batcher.readMemCache
  cases hentry : s.memCache.get? (cacheKey slug symbol) with
  | none => exact ⟨h, rfl, by simp⟩
  | some entry =>
    obtain ⟨_, _⟩ := entry
    simp only
    split
    · refine ⟨⟨h.waiting, h.fetched, fun slug' symbol' entry hget => ?_, h.settled⟩, rfl, by simp⟩
      rw [OrdMap.get?_erase] at hget
      split at hget
      · cases hget
      · exact h.cached slug' symbol' entry hget
    · refine ⟨h, rfl, fun ticker hticker => ?_⟩
      cases Option.mem_def.1 hticker
      exact h.cached slug symbol _ hentry

theorem getTicker (h : Owned s) (slug : ExchangeSlug) (symbol : String) (now : Instant)
    (circuitError : Option String) : Owned (s.getTicker slug symbol now circuitError) := by
  obtain ⟨hread, hreqs, hcached⟩ := (h.ask (slug, symbol)).readMemCache slug symbol now
  unfold Batcher.getTicker
  simp only
  have hid : (s.requests ++ [(slug, symbol)])[s.requests.length]? = some (slug, symbol) := by simp
  split
  · rename_i cached s' heq
    rw [heq] at hread hreqs hcached
    refine hread.settle fun r hmem => ?_
    obtain rfl := List.mem_singleton.1 hmem
    exact ⟨slug, symbol, by rw [hreqs]; exact hid, hcached cached rfl⟩
  · rename_i s' heq
    rw [heq] at hread hreqs
    exact hread.enqueue circuitError (by rw [hreqs]; exact hid)

theorem writeMemCache {config : TickerBatcherConfig} {tickers : Tickers} {now : Instant}
    {answers : List (ExchangeSlug × Tickers × Instant)}
    {memCache : OrdMap String (BatchedTicker × Instant)} (symbols : List String)
    (hans : (slug, tickers, now) ∈ answers)
    (h : ∀ slug symbol entry, memCache.get? (cacheKey slug symbol) = some entry →
      Quoted answers slug symbol entry.1) :
    ∀ slug' symbol entry, (symbols.foldl (Batcher.writeMemCache config slug tickers now)
        memCache).get? (cacheKey slug' symbol) = some entry →
      Quoted answers slug' symbol entry.1 := by
  induction symbols generalizing memCache with
  | nil => exact h
  | cons first symbols ih =>
    refine ih fun slug' symbol entry hget => ?_
    unfold Batcher.writeMemCache at hget
    split at hget
    · rename_i data hdata
      rw [OrdMap.get?_set] at hget
      split at hget
      · rename_i heq
        obtain ⟨rfl, rfl⟩ := cacheKey_injective heq
        cases hget
        exact ⟨tickers, now, hans, hdata⟩
      · exact h slug' symbol entry hget
    · exact h slug' symbol entry hget

theorem finish (h : Owned s) {fetch : TickerFetch} (answer : Except String Tickers) (now : Instant)
    (hfetch : Filed s.requests fetch.slug fetch.pending) : Owned (s.finish fetch answer now) := by
  unfold Batcher.finish
  split
  · cases answer with
    | error error => exact h.rejectAll fetch.pending error
    | ok tickers =>
      have hgrown : ∀ answer ∈ s.answers, answer ∈ s.answers ++ [(fetch.slug, tickers, now)] :=
        fun answer => List.mem_append_left _
      have hlast : (fetch.slug, tickers, now) ∈ s.answers ++ [(fetch.slug, tickers, now)] :=
        List.mem_append_right _ List.mem_cons_self
      refine ⟨h.waiting, h.fetched, ?_, fun r hmem => ?_⟩
      · refine Owned.writeMemCache fetch.pending.keys hlast fun slug symbol entry hget => ?_
        obtain ⟨tickers', now', hmem, hdata⟩ := h.cached slug symbol entry hget
        exact ⟨tickers', now', hgrown _ hmem, hdata⟩
      · rcases List.mem_append.1 hmem with hmem | hmem
        · exact OwnAnswer.mono (h.settled r hmem) (fun _ _ => id) hgrown
        · obtain ⟨symbol, waiters, hget, hid, heq⟩ := mem_settleAll hmem
          obtain ⟨id, _⟩ := r
          simp only at heq hid
          subst heq
          have hreq := hfetch symbol waiters hget id hid
          cases hdata : Batcher.batched fetch.slug tickers now symbol with
          | some => exact ⟨fetch.slug, symbol, hreq, tickers, now, hlast, hdata⟩
          | none =>
            refine ⟨fetch.slug, symbol, hreq, tickers, now, hlast, ?_⟩
            exact Option.map_eq_none_iff.1 hdata
  · exact h.rejectAll fetch.pending _

theorem onModuleDestroy (h : Owned s) : Owned s.onModuleDestroy := by
  refine ⟨fun slug state hget => (by cases hget), h.fetched, h.cached, fun r hmem => ?_⟩
  rcases List.mem_append.1 hmem with hmem | hmem
  · exact h.settled r hmem
  · obtain ⟨_, -, hmem⟩ := List.mem_flatMap.1 hmem
    obtain ⟨_, _, -, -, heq⟩ := mem_settleAll hmem
    obtain ⟨_, _⟩ := r
    cases heq
    trivial

theorem next (h : Owned s) (move : TickerMove) : Owned (s.next move) := by
  cases move with
  | getTicker slug symbol now circuitError => exact h.getTicker slug symbol now circuitError
  | timer slug circuitError =>
    rw [Batcher.next]
    split
    · exact h.flush slug circuitError
    · exact h
  | fetched index answer now =>
    rw [Batcher.next]
    cases hfetch : s.fetches[index]? with
    | none => exact h
    | some fetch =>
      have hrest : Owned { s with fetches := s.fetches.eraseIdx index } :=
        ⟨h.waiting, fun fetch hmem => h.fetched fetch (List.mem_of_mem_eraseIdx hmem), h.cached,
          h.settled⟩
      exact hrest.finish answer now (h.fetched fetch (List.mem_of_getElem? hfetch))
  | destroy => exact h.onModuleDestroy

end Owned

/-! ## A flush for everything that waits -/

def Scheduled (batches : OrdMap ExchangeSlug BatchState) : Prop :=
  ∀ slug state, batches.get? slug = some state → state.pending.size ≠ 0 → state.timer = true

theorem Scheduled.set {batches : OrdMap ExchangeSlug BatchState} (h : Scheduled batches)
    {state : BatchState} (hstate : state.pending.size ≠ 0 → state.timer = true) :
    Scheduled (batches.set slug state) := by
  intro slug' state' hget
  rw [OrdMap.get?_set] at hget
  split at hget
  · cases hget
    exact hstate
  · exact h slug' state' hget

namespace Batcher

variable {s : Batcher}

theorem flush_batches (s : Batcher) (slug : ExchangeSlug) (circuitError : Option String) :
    (s.flush slug circuitError).batches = match s.batches.get? slug with
      | none => s.batches
      | some state =>
        if state.pending.size = 0 then s.batches.set slug { state with timer := false }
        else s.batches.set slug {} := by
  unfold flush
  cases s.batches.get? slug with
  | none => rfl
  | some =>
    simp only
    split
    · rfl
    · cases circuitError <;> rfl

theorem scheduled_flush (slug : ExchangeSlug) (circuitError : Option String)
    (h : ∀ slug', slug' ≠ slug → ∀ state, s.batches.get? slug' = some state →
      state.pending.size ≠ 0 → state.timer = true) :
    Scheduled (s.flush slug circuitError).batches := by
  rw [flush_batches]
  intro slug' state' hget hsize
  by_cases hslug : slug' = slug
  · subst hslug
    cases hstate : s.batches.get? slug' with
    | none =>
      rw [hstate] at hget
      exact absurd (hstate.symm.trans hget) (by simp)
    | some =>
      rw [hstate] at hget
      simp only at hget
      split at hget
      · rename_i hempty
        rw [OrdMap.get?_set_self] at hget
        cases hget
        exact absurd hempty hsize
      · rw [OrdMap.get?_set_self] at hget
        cases hget
        exact absurd rfl hsize
  · refine h slug' hslug state' ?_ hsize
    split at hget
    · exact hget
    · split at hget <;> rwa [OrdMap.get?_set_of_ne _ _ (Ne.symm hslug)] at hget

theorem scheduled_enqueue (h : Scheduled s.batches) (slug : ExchangeSlug) (symbol : String)
    (id : RequestId) (circuitError : Option String) :
    Scheduled (s.enqueue slug symbol id circuitError).batches := by
  unfold enqueue
  split
  · exact h
  · simp only
    split
    · refine scheduled_flush slug circuitError fun slug' hslug state hget => ?_
      rw [OrdMap.get?_set_of_ne _ _ (Ne.symm hslug)] at hget
      exact h slug' state hget
    · exact h.set fun _ => rfl

theorem scheduled_next (h : Scheduled s.batches) (move : TickerMove) :
    Scheduled (s.next move).batches := by
  cases move with
  | getTicker slug symbol now circuitError =>
    have hread : (readMemCache { s with requests := s.requests ++ [(slug, symbol)] } slug symbol
        now).2.batches = s.batches := by
      unfold readMemCache
      split
      · rfl
      · split <;> rfl
    rw [next, getTicker]
    split
    · rename_i cached s' heq
      rw [heq] at hread
      exact hread ▸ h
    · rename_i s' heq
      rw [heq] at hread
      exact scheduled_enqueue (hread ▸ h) slug symbol _ circuitError
  | timer slug circuitError =>
    rw [next]
    split
    · exact scheduled_flush slug circuitError fun slug' _ => h slug'
    · exact h
  | fetched index answer =>
    rw [next]
    split
    · exact h
    · unfold finish
      split
      · cases answer <;> exact h
      · exact h
  | destroy => exact fun slug state hget => by cases hget

/-! ## Everything is settled in the end -/

def armedTimers (batches : OrdMap ExchangeSlug BatchState) : ℕ :=
  (batches.entries.filter fun batch => batch.2.timer).length

/-- How many steps the timers and the answers can still take. -/
def work (s : Batcher) : ℕ := 2 * armedTimers s.batches + s.fetches.length

def Drains (s : Batcher) : TickerMove → Prop
  | .timer slug _ => s.armed slug = true
  | .fetched index _ _ => index < s.fetches.length
  | .getTicker .. | .destroy => False

theorem work_finish (s : Batcher) (fetch : TickerFetch) (answer : Except String Tickers)
    (now : Instant) : (s.finish fetch answer now).work = s.work := by
  unfold finish
  split
  · cases answer <;> rfl
  · rfl

theorem flush_fetches_length (s : Batcher) (slug : ExchangeSlug) (circuitError : Option String) :
    (s.flush slug circuitError).fetches.length ≤ s.fetches.length + 1 := by
  unfold flush
  cases s.batches.get? slug with
  | none => exact Nat.le_succ _
  | some =>
    simp only
    split
    · exact Nat.le_succ _
    · cases circuitError with
      | none => simp
      | some => exact Nat.le_succ _

theorem armedTimers_flush {slug : ExchangeSlug} (h : s.armed slug = true)
    (circuitError : Option String) :
    armedTimers (s.flush slug circuitError).batches + 1 = armedTimers s.batches := by
  unfold armed at h
  rw [flush_batches]
  cases hstate : s.batches.get? slug with
  | none => rw [hstate] at h; cases h
  | some =>
    rw [hstate, Option.any_some] at h
    have hdisarmed : ∀ state' : BatchState, state'.timer = false →
        armedTimers (s.batches.set slug state') + 1 = armedTimers s.batches := by
      intro state' htimer
      have hset := s.batches.length_filter_set BatchState.timer slug state'
      rw [hstate, Option.elim_some, h, htimer] at hset
      exact hset
    simp only
    split
    · exact hdisarmed _ rfl
    · exact hdisarmed _ rfl

theorem work_next {move : TickerMove} (h : s.Drains move) : (s.next move).work < s.work := by
  cases move with
  | getTicker | destroy => exact h.elim
  | timer slug circuitError =>
    have harmed : s.armed slug = true := h
    have htimers := armedTimers_flush harmed circuitError
    have hfetches := flush_fetches_length s slug circuitError
    rw [next, if_pos harmed, work, work]
    omega
  | fetched index =>
    have hindex : index < s.fetches.length := h
    rw [next, List.getElem?_eq_getElem hindex]
    simp only
    rw [work_finish, work, work]
    simp only [List.length_eraseIdx_of_lt hindex]
    omega

/-! ## The runs -/

/-- Everything holds that a step keeps. -/
structure Sound (s : Batcher) : Prop where
  total : s.total = Multiset.range s.requests.length
  owned : Owned s
  scheduled : Scheduled s.batches

/-- What no flush, answer or destruction touches: the requests. What was settled stays settled. -/
structure Onward (s s' : Batcher) : Prop where
  requests : s'.requests = s.requests
  settled : s.settled <+: s'.settled

theorem Onward.refl (s : Batcher) : Onward s s := ⟨rfl, List.prefix_rfl⟩

theorem onward_flush (s : Batcher) (slug : ExchangeSlug) (circuitError : Option String) :
    Onward s (s.flush slug circuitError) := by
  unfold flush
  cases s.batches.get? slug with
  | none => exact .refl s
  | some =>
    simp only
    split
    · exact ⟨rfl, List.prefix_rfl⟩
    · cases circuitError with
      | none => exact ⟨rfl, List.prefix_rfl⟩
      | some => exact ⟨rfl, List.prefix_append _ _⟩

theorem onward_enqueue (s : Batcher) (slug : ExchangeSlug) (symbol : String) (id : RequestId)
    (circuitError : Option String) :
    Onward s (s.enqueue slug symbol id circuitError) := by
  unfold enqueue
  split
  · exact ⟨rfl, List.prefix_append _ _⟩
  · simp only
    split
    · obtain ⟨hreqs, hset⟩ := onward_flush { s with batches := _ } slug circuitError
      exact ⟨hreqs, hset⟩
    · exact ⟨rfl, List.prefix_rfl⟩

theorem onward_readMemCache (s : Batcher) (slug : ExchangeSlug) (symbol : String) (now : Instant) :
    Onward s (s.readMemCache slug symbol now).2 := by
  unfold readMemCache
  split
  · exact .refl s
  · split
    · exact ⟨rfl, List.prefix_rfl⟩
    · exact .refl s

theorem onward_getTicker (s : Batcher) (slug : ExchangeSlug) (symbol : String) (now : Instant)
    (circuitError : Option String) :
    Onward { s with requests := s.requests ++ [(slug, symbol)] }
      (s.getTicker slug symbol now circuitError) := by
  obtain ⟨hreqs, hset⟩ :=
    onward_readMemCache { s with requests := s.requests ++ [(slug, symbol)] } slug symbol now
  unfold getTicker
  simp only
  split
  · rename_i cached s' heq
    rw [heq] at hreqs hset
    exact ⟨hreqs, hset.trans (List.prefix_append _ _)⟩
  · rename_i s' heq
    rw [heq] at hreqs hset
    obtain ⟨hreqs', hset'⟩ := onward_enqueue s' slug symbol s.requests.length circuitError
    exact ⟨hreqs'.trans hreqs, hset.trans hset'⟩

theorem onward_finish (s : Batcher) (fetch : TickerFetch) (answer : Except String Tickers)
    (now : Instant) : Onward s (s.finish fetch answer now) := by
  unfold finish
  split
  · cases answer <;> exact ⟨rfl, List.prefix_append _ _⟩
  · exact ⟨rfl, List.prefix_append _ _⟩

def asked (s : Batcher) : TickerMove → List (ExchangeSlug × String)
  | .getTicker slug symbol _ _ => s.requests ++ [(slug, symbol)]
  | .timer .. | .fetched .. | .destroy => s.requests

theorem onward_next (s : Batcher) (move : TickerMove) :
    (s.next move).requests = s.asked move ∧ s.settled <+: (s.next move).settled := by
  cases move with
  | getTicker slug symbol now circuitError =>
    obtain ⟨hreqs, hset⟩ := onward_getTicker s slug symbol now circuitError
    exact ⟨hreqs, hset⟩
  | timer slug circuitError =>
    rw [next]
    split
    · obtain ⟨hreqs, hset⟩ := onward_flush s slug circuitError
      exact ⟨hreqs, hset⟩
    · exact ⟨rfl, List.prefix_rfl⟩
  | fetched index answer now =>
    rw [next]
    split
    · exact ⟨rfl, List.prefix_rfl⟩
    · rename_i fetch hfetch
      obtain ⟨hreqs, hset⟩ :=
        onward_finish { s with fetches := s.fetches.eraseIdx index } fetch answer now
      exact ⟨hreqs, hset⟩
  | destroy => exact ⟨rfl, List.prefix_append _ _⟩

theorem range_requests_next (s : Batcher) (move : TickerMove) :
    Multiset.range (s.next move).requests.length =
      Multiset.range s.requests.length + s.made move := by
  rw [(onward_next s move).1]
  cases move with
  | getTicker =>
    rw [asked, made, List.length_append, List.length_singleton, Multiset.range_succ, add_comm,
      Multiset.singleton_add]
  | _ => exact (add_zero _).symm

theorem Sound.next {s : Batcher} (h : Sound s) (move : TickerMove) : Sound (s.next move) where
  total := by rw [total_next, h.total, range_requests_next]
  owned := h.owned.next move
  scheduled := scheduled_next h.scheduled move

theorem sound_init (config : TickerBatcherConfig) : Sound { config := config } where
  total := rfl
  owned := ⟨fun slug state hget => (by cases hget), fun _ hmem => (by cases hmem),
    fun _ _ _ hget => (by cases hget), fun _ hmem => (by cases hmem)⟩
  scheduled := fun slug state hget => by cases hget

theorem sound_run (config : TickerBatcherConfig) (moves : List TickerMove) :
    Sound (moves.foldl Batcher.next { config := config }) := by
  have hrun : ∀ s, Sound s → Sound (moves.foldl Batcher.next s) := by
    induction moves with
    | nil => exact fun s h => h
    | cons move moves ih => exact fun s h => ih (s.next move) (h.next move)
  exact hrun _ (sound_init config)

theorem waitingIds_of_work {s : Batcher} (h : Scheduled s.batches) (hwork : s.work = 0) :
    waitingIds s.batches = 0 := by
  have htimers : ∀ batch ∈ s.batches.entries, batch.2.timer ≠ true := by
    have hnone : armedTimers s.batches = 0 := by
      unfold work at hwork
      omega
    exact List.filter_eq_nil_iff.1 (List.eq_nil_of_length_eq_zero hnone)
  have hempty : ∀ batch ∈ s.batches.entries, pendingIds batch.2.pending = 0 := by
    intro batch hmem
    have hsize : batch.2.pending.size = 0 := by
      by_contra hsize
      exact htimers batch hmem (h batch.1 batch.2 (OrdMap.get?_eq_some_iff.2 hmem) hsize)
    unfold pendingIds OrdMap.sumBy
    rw [List.eq_nil_of_length_eq_zero hsize]
    rfl
  have hzero := OrdMap.sumBy_congr (f := fun _ (state : BatchState) => pendingIds state.pending)
    (g := fun _ _ => 0) hempty
  rw [waitingIds, hzero, OrdMap.sumBy]
  simp

end Batcher

/-- **Each request is in exactly one place: settled once, waiting in a batch, or in a fetch under way.
Once settled it stays so. What it is resolved with is the ticker of its own symbol on its own exchange,
or nothing if an answer has none under that name. A batch with waiters has a flush scheduled; timers and
answers leave less and less to do, and when they are done, everything is settled.** -/
structure SettlesOnce (s : Batcher) : Prop where
  one : ∀ id < s.requests.length, (settledIds s.settled).count id + (waitingIds s.batches).count id +
    (fetchedIds s.fetches).count id = 1
  asked : ∀ settled ∈ s.settled, settled.1 < s.requests.length
  kept : ∀ move, s.settled <+: (s.next move).settled
  own : ∀ settled ∈ s.settled, OwnAnswer s.requests s.answers settled
  scheduled : Scheduled s.batches
  drains : ∀ move, s.Drains move → (s.next move).work < s.work
  done : s.work = 0 → ∀ id < s.requests.length, (settledIds s.settled).count id = 1

/-- **Whatever happens, in any order, every request is settled once and with its own ticker.** -/
theorem batcher_settlesOnce (config : TickerBatcherConfig) (moves : List TickerMove) :
    SettlesOnce (moves.foldl Batcher.next { config := config }) := by
  have h := Batcher.sound_run config moves
  generalize moves.foldl Batcher.next { config := config } = s at h
  have hone : ∀ id < s.requests.length, (settledIds s.settled).count id +
      (waitingIds s.batches).count id + (fetchedIds s.fetches).count id = 1 := by
    intro id hid
    have hcount := congrArg (Multiset.count id) h.total
    rwa [Batcher.total, Multiset.count_add, Multiset.count_add,
      Multiset.count_eq_one_of_mem (Multiset.nodup_range _) (Multiset.mem_range.2 hid)] at hcount
  refine ⟨hone, fun settled hmem => ?_, fun move => (Batcher.onward_next s move).2, h.owned.settled,
    h.scheduled, fun move => Batcher.work_next, fun hwork id hid => ?_⟩
  · have hmem' : settled.1 ∈ s.total := by
      refine Multiset.mem_add.2 (.inl (Multiset.mem_add.2 (.inl ?_)))
      exact Multiset.mem_coe.2 (List.mem_map_of_mem hmem)
    rw [h.total] at hmem'
    exact Multiset.mem_range.1 hmem'
  · have hwaiting := Batcher.waitingIds_of_work h.scheduled hwork
    have hfetches : s.fetches = [] := by
      refine List.eq_nil_of_length_eq_zero ?_
      unfold Batcher.work at hwork
      omega
    have hplace := hone id hid
    rwa [hwaiting, hfetches, Multiset.count_zero, show fetchedIds [] = 0 from rfl,
      Multiset.count_zero, add_zero, add_zero] at hplace

def binanceUs : ExchangeSlug where
  text := "binance_us"
  plain := by decide

/-- **A symbol that the answer does not list is resolved without a ticker.** -/
theorem unlisted_resolved :
    ([.getTicker binanceUs "BTC/USDT" 0 none, .timer binanceUs none,
      .fetched 0 (.ok OrdMap.empty) 60].foldl Batcher.next
        { config := { maxBatchSize := 100, memCacheTtlMs := 550 } }).settled = [(0, .resolved none)] ∧
    ¬ ∀ (config : TickerBatcherConfig) (moves : List TickerMove),
      ∀ settled ∈ (moves.foldl Batcher.next { config := config }).settled,
      ∀ ticker, settled.2 = .resolved ticker → ∃ own, ticker = some own := by
  have hsettled : ([.getTicker binanceUs "BTC/USDT" 0 none, .timer binanceUs none,
      .fetched 0 (.ok OrdMap.empty) 60].foldl Batcher.next
        { config := { maxBatchSize := 100, memCacheTtlMs := 550 } }).settled =
        [(0, .resolved none)] := by
    decide +kernel
  refine ⟨hsettled, fun h => ?_⟩
  obtain ⟨_, hown⟩ := h { maxBatchSize := 100, memCacheTtlMs := 550 }
    [.getTicker binanceUs "BTC/USDT" 0 none, .timer binanceUs none, .fetched 0 (.ok OrdMap.empty) 60]
    (0, .resolved none) (by rw [hsettled]; exact List.mem_cons_self) none rfl
  cases hown

end Chansey
