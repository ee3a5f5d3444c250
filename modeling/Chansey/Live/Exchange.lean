import Chansey.Lib.Remote
import Chansey.Live.Order

/-!
# The exchange

What the services rely on of a remote exchange, and how they read its errors.

* `Exchange`: a state of the exchange with its live orders; a new order is live under a fresh id, a
  cancelled one is no longer live.
-/

namespace Chansey

/-- The arguments of `createOrder`. -/
structure OrderRequest where
  symbol : String
  type : String
  side : OrderSide
  amount : ℚ
  price : Option ℚ := none
  stopPrice : Option ℚ := none

structure CreatedOrder where
  id : ExchangeOrderId
  clientOrderId : Option String := none
  timestamp : Option Instant := none

abbrev LiveOrder := ExchangeOrderId × OrderRequest

structure Exchange (σ : Type) where
  live : σ → List LiveOrder
  known : σ → ExchangeOrderId → Prop
  createOrder : OrderRequest → σ → σ × CreatedOrder
  cancelOrder : ExchangeOrderId → σ → σ
  live_createOrder : ∀ request s,
    live (createOrder request s).1 = ((createOrder request s).2.id, request) :: live s
  fresh_createOrder : ∀ request s, ¬ known s (createOrder request s).2.id
  id_createOrder : ∀ request s, (createOrder request s).2.id ≠ ""
  live_cancelOrder : ∀ id s, live (cancelOrder id s) = (live s).filter (·.1 ≠ id)
  known_of_live : ∀ s, ∀ order ∈ live s, known s order.1
  known_cancelOrder : ∀ id s known', known s known' → known (cancelOrder id s) known'

def orderNumber (number : ℕ) : ExchangeOrderId := String.ofList (List.replicate (number + 1) '1')

theorem orderNumber_injective : Function.Injective orderNumber := by
  intro m n h
  have hlist := congrArg (fun s => s.toList.length) h
  simpa [orderNumber] using hlist

structure NumberedOrders where
  orders : List (ℕ × OrderRequest)
  accepted : ℕ
  bounded : ∀ order ∈ orders, order.1 < accepted

def numberedExchange : Exchange NumberedOrders where
  live s := s.orders.map fun order => (orderNumber order.1, order.2)
  known s id := ∃ number < s.accepted, id = orderNumber number
  createOrder request s :=
    ({ orders := (s.accepted, request) :: s.orders
       accepted := s.accepted + 1
       bounded := by
         intro order hmem
         rcases List.mem_cons.mp hmem with rfl | hmem
         · exact Nat.lt_succ_self _
         · exact Nat.lt_succ_of_lt (s.bounded order hmem) },
      { id := orderNumber s.accepted })
  cancelOrder id s :=
    { s with
      orders := s.orders.filter (orderNumber ·.1 ≠ id)
      bounded := fun order hmem => s.bounded order (List.mem_of_mem_filter hmem) }
  live_createOrder _ _ := rfl
  fresh_createOrder _ s := by
    rintro ⟨number, hnumber, heq⟩
    exact absurd (orderNumber_injective heq) hnumber.ne'
  id_createOrder _ s h := by
    have hlength := congrArg (fun id => id.toList.length) h
    simp [orderNumber] at hlength
  live_cancelOrder id s := by
    simp [List.filter_map, Function.comp_def]
  known_of_live s live hmem := by
    obtain ⟨order, horder, rfl⟩ := List.mem_map.mp hmem
    exact ⟨order.1, s.bounded order horder, rfl⟩
  known_cancelOrder _ _ _ hknown := hknown

def noOrders : NumberedOrders where
  orders := []
  accepted := 0
  bounded := by simp

/-! ## Errors -/

structure RemoteError where
  name : String
  message : String
  deriving DecidableEq

/-- `String.prototype.includes` -/
def includes (text part : String) : Bool := part.toList <:+: text.toList

/-- `\b` and `\w` of regular expressions: the runs of letters, digits and underscores. -/
def isWordChar (c : Char) : Bool := c.isAlphanum || c = '_'

def words (text : String) : List (List Char) :=
  (text.toList.splitOnP fun c => !isWordChar c).filter (· ≠ [])

/-- `/\bcode\b/.test(text)` for a code of digits. -/
def hasWord (text code : String) : Bool := (words text).contains code.toList

def isClockSkewError (error : RemoteError) : Bool :=
  includes error.message "-1021" || includes error.message.toLower "recvwindow"

/-- The texts that mark a message as transient: network, rate limit, server, database, Redis. -/
def TRANSIENT_TEXTS : List String :=
  ["econnreset", "econnrefused", "etimedout", "enotfound", "network", "socket hang up",
    "fetch failed", "rate limit", "too many requests", "service unavailable", "bad gateway",
    "gateway timeout", "temporarily unavailable", "connection terminated",
    "server closed the connection unexpectedly", "connection is not open", "too many connections",
    "remaining connection slots are reserved",
    "terminating connection due to administrator command", "could not connect to server",
    "the database system is starting up", "the database system is shutting down",
    "timeout exceeded when trying to connect", "connection timeout", "redis is loading",
    "loading the dataset in memory"]

def TRANSIENT_NAMES : List String :=
  ["ratelimit", "networkerror", "exchangenotavailable", "requesttimeout", "ddosprotection"]

def isTransientError (error : RemoteError) : Bool :=
  let message := error.message.toLower
  let name := error.name.toLower
  TRANSIENT_TEXTS.any (includes message) ||
    ["429", "503", "502", "504"].any (hasWord message) ||
    (includes message "canceling statement due to" && includes message "timeout") ||
    TRANSIENT_NAMES.any (includes name) ||
    isClockSkewError error

end Chansey
