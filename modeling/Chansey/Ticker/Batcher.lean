import Chansey.Domain

/-!
# The ticker batcher

Requests for tickers of one exchange are collected and answered from one `fetchTickers` call. A batch
is flushed when its timer fires or when it has enough symbols.

* `Batcher`: the batches, the cache and the fetches under way; besides, what was asked, answered and
  settled so far. `Move`, `Batcher.next`: what can happen, in any order.
-/

namespace Chansey

/-! ## Symbols of an exchange -/

/-- `String.prototype.replace` of a text: its first occurrence. -/
def replaceFirst (pattern replacement : List Char) : List Char → List Char
  | [] => if pattern = [] then replacement else []
  | c :: cs =>
    if pattern.isPrefixOf (c :: cs) then replacement ++ (c :: cs).drop pattern.length
    else c :: replaceFirst pattern replacement cs

def replaceText (text pattern replacement : String) : String :=
  String.ofList (replaceFirst pattern.toList replacement.toList text.toList)

def KRAKEN_BASE_ALIASES_INVERSE : List (String × String) := [("BTC", "XBT"), ("DOGE", "XDG")]

def KRAKEN_QUOTE_ALIASES_INVERSE : List (String × String) := [("USD", "ZUSD")]

def formatSymbolForExchange (exchangeSlug symbol : String) : String :=
  if exchangeSlug = "kraken" then
    let formatted := KRAKEN_BASE_ALIASES_INVERSE.foldl
      (fun text rule => replaceText text (rule.1 ++ "/") (rule.2 ++ "/")) symbol
    KRAKEN_QUOTE_ALIASES_INVERSE.foldl
      (fun text rule => replaceText text ("/" ++ rule.1) ("/" ++ rule.2)) formatted
  else symbol

example : formatSymbolForExchange "kraken" "BTC/USD" = "XBT/ZUSD" := by decide +kernel

structure ExchangeSlug where
  text : String
  plain : ':' ∉ text.toList
  deriving DecidableEq

/-- The exchanges of `getExchangeService`. -/
def EXCHANGE_SLUGS : List String := ["binance_us", "coinbase", "gdax", "kraken", "kraken_futures"]

/-! ## Tickers -/

structure Ticker where
  last : Option ℚ := none
  close : Option ℚ := none
  bid : Option ℚ := none
  ask : Option ℚ := none
  high : Option ℚ := none
  low : Option ℚ := none
  change : Option ℚ := none
  percentage : Option ℚ := none
  baseVolume : Option ℚ := none
  quoteVolume : Option ℚ := none
  timestamp : Option Instant := none

/-- The answer of `fetchTickers`, under the symbols of the exchange. -/
abbrev Tickers := OrdMap String Ticker

structure BatchedTicker where
  symbol : String
  price : ℚ
  bid : Option ℚ
  ask : Option ℚ
  high : Option ℚ
  low : Option ℚ
  change : Option ℚ
  percentage : Option ℚ
  baseVolume : Option ℚ
  quoteVolume : Option ℚ
  timestamp : Instant
  source : String
  deriving DecidableEq

def toBatchedTicker (symbol source : String) (ticker : Ticker) (now : Instant) : BatchedTicker where
  symbol := symbol
  price := (ticker.last.or ticker.close).getD 0
  bid := ticker.bid
  ask := ticker.ask
  high := ticker.high
  low := ticker.low
  change := ticker.change
  percentage := ticker.percentage
  baseVolume := ticker.baseVolume
  quoteVolume := ticker.quoteVolume
  timestamp := ticker.timestamp.getD now
  source := source

/-! ## The batcher -/

abbrev RequestId := ℕ

/-- The callers that wait for a symbol, in the order of their calls. -/
abbrev Pending := OrdMap String (List RequestId)

structure BatchState where
  pending : Pending := OrdMap.empty
  timer : Bool := false

inductive Settlement where
  | resolved (ticker : Option BatchedTicker)
  | rejected (error : String)
  deriving DecidableEq

/-- A flush that awaits its answer. -/
structure TickerFetch where
  slug : ExchangeSlug
  pending : Pending

structure TickerBatcherConfig where
  maxBatchSize : ℕ
  memCacheTtlMs : ℤ

structure Batcher where
  config : TickerBatcherConfig
  batches : OrdMap ExchangeSlug BatchState := OrdMap.empty
  memCache : OrdMap String (BatchedTicker × Instant) := OrdMap.empty
  destroyed : Bool := false
  fetches : List TickerFetch := []
  requests : List (ExchangeSlug × String) := []
  answers : List (ExchangeSlug × Tickers × Instant) := []
  /-- The calls of `resolve` and `reject` so far. -/
  settled : List (RequestId × Settlement) := []

def SHUTDOWN_ERROR_MESSAGE : String := "ticker-batcher shutting down"

def cacheKey (slug : ExchangeSlug) (symbol : String) : String := slug.text ++ ":" ++ symbol

def settleAll (answer : String → Settlement) (pending : Pending) : List (RequestId × Settlement) :=
  pending.entries.flatMap fun waiters => waiters.2.map fun id => (id, answer waiters.1)

namespace Batcher

def readMemCache (s : Batcher) (slug : ExchangeSlug) (symbol : String) (now : Instant) :
    Option BatchedTicker × Batcher :=
  match s.memCache.get? (cacheKey slug symbol) with
  | none => (none, s)
  | some (data, expiresAt) =>
    if expiresAt ≤ now then
      (none, { s with memCache := s.memCache.erase (cacheKey slug symbol) })
    else (some data, s)

def rejectAll (s : Batcher) (pending : Pending) (error : String) : Batcher :=
  { s with settled := s.settled ++ settleAll (fun _ => .rejected error) pending }

/-- The part of `flush` before its first `await`. `circuitError`: what `checkCircuit` throws. -/
def flush (s : Batcher) (slug : ExchangeSlug) (circuitError : Option String) : Batcher :=
  match s.batches.get? slug with
  | none => s
  | some state =>
    if state.pending.size = 0 then
      { s with batches := s.batches.set slug { state with timer := false } }
    else
      -- new requests that arrive while the fetch is under way open a fresh batch
      let s := { s with batches := s.batches.set slug {} }
      match circuitError with
      | some error => s.rejectAll state.pending error
      | none => { s with fetches := s.fetches ++ [⟨slug, state.pending⟩] }

def enqueue (s : Batcher) (slug : ExchangeSlug) (symbol : String) (id : RequestId)
    (circuitError : Option String) : Batcher :=
  if s.destroyed then
    { s with settled := s.settled ++ [(id, .rejected SHUTDOWN_ERROR_MESSAGE)] }
  else
    let state := (s.batches.get? slug).getD {}
    let pending := state.pending.set symbol ((state.pending.get? symbol).getD [] ++ [id])
    if s.config.maxBatchSize ≤ pending.size then
      flush { s with batches := s.batches.set slug { pending := pending, timer := false } } slug
        circuitError
    else
      -- the timer is armed once and never reset
      { s with batches := s.batches.set slug { pending := pending, timer := true } }

/-- `getTickers` makes several of these calls at once. -/
def getTicker (s : Batcher) (slug : ExchangeSlug) (symbol : String) (now : Instant)
    (circuitError : Option String) : Batcher :=
  let id := s.requests.length
  let s := { s with requests := s.requests ++ [(slug, symbol)] }
  match s.readMemCache slug symbol now with
  | (some cached, s) => { s with settled := s.settled ++ [(id, .resolved (some cached))] }
  | (none, s) => s.enqueue slug symbol id circuitError

def batched (slug : ExchangeSlug) (tickers : Tickers) (now : Instant) (symbol : String) :
    Option BatchedTicker :=
  (tickers.get? (formatSymbolForExchange slug.text symbol)).map fun ticker =>
    toBatchedTicker symbol slug.text ticker now

def writeMemCache (config : TickerBatcherConfig) (slug : ExchangeSlug) (tickers : Tickers)
    (now : Instant) (memCache : OrdMap String (BatchedTicker × Instant)) (symbol : String) :
    OrdMap String (BatchedTicker × Instant) :=
  match batched slug tickers now symbol with
  | some data => memCache.set (cacheKey slug symbol) (data, now + config.memCacheTtlMs)
  | none => memCache

/-- A symbol that the exchange does not list is resolved to nothing. -/
def resolveFromResponse (s : Batcher) (fetch : TickerFetch) (tickers : Tickers) (now : Instant) :
    Batcher :=
  { s with
    memCache := fetch.pending.keys.foldl (writeMemCache s.config fetch.slug tickers now) s.memCache
    settled := s.settled ++ settleAll (fun symbol => .resolved (batched fetch.slug tickers now symbol))
      fetch.pending }

/-- The rest of a flush. An exchange without a service has no client. -/
def finish (s : Batcher) (fetch : TickerFetch) (answer : Except String Tickers) (now : Instant) :
    Batcher :=
  if fetch.slug.text ∈ EXCHANGE_SLUGS then
    match answer with
    | .ok tickers =>
      resolveFromResponse { s with answers := s.answers ++ [(fetch.slug, tickers, now)] } fetch tickers
        now
    | .error error => s.rejectAll fetch.pending error
  else s.rejectAll fetch.pending ("Exchange service not found for: " ++ fetch.slug.text)

def onModuleDestroy (s : Batcher) : Batcher :=
  { s with
    destroyed := true
    batches := OrdMap.empty
    settled := s.settled ++ s.batches.entries.flatMap fun batch =>
      settleAll (fun _ => .rejected SHUTDOWN_ERROR_MESSAGE) batch.2.pending }

end Batcher

inductive TickerMove where
  | getTicker (slug : ExchangeSlug) (symbol : String) (now : Instant) (circuitError : Option String)
  | timer (slug : ExchangeSlug) (circuitError : Option String)
  | fetched (index : ℕ) (answer : Except String Tickers) (now : Instant)
  | destroy

namespace Batcher

def armed (s : Batcher) (slug : ExchangeSlug) : Bool :=
  (s.batches.get? slug).any BatchState.timer

/-- A timer that is not armed does not fire, and only a fetch under way is answered. -/
def next (s : Batcher) : TickerMove → Batcher
  | .getTicker slug symbol now circuitError => s.getTicker slug symbol now circuitError
  | .timer slug circuitError => if s.armed slug then s.flush slug circuitError else s
  | .fetched index answer now =>
    match s.fetches[index]? with
    | none => s
    | some fetch => finish { s with fetches := s.fetches.eraseIdx index } fetch answer now
  | .destroy => s.onModuleDestroy

end Batcher

end Chansey
