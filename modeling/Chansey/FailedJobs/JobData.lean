import Chansey.Lib.Json

/-!
# Failed jobs

A failed job is recorded with its data, in which the values under certain keys are replaced by a
marker.

* `sanitizeJobData`, `recordFailure`: what the service does. `redact`: the marker at every depth.
* **`redacted_iff`**: the two agree exactly when no array in an array holds anything to redact, and
  no other key is `__proto__`.
-/

namespace Chansey.FailedJobs

abbrev Members := List (String × Json)

def SENSITIVE_KEYS : List String :=
  ["apiKey", "apiSecret", "secret", "password", "token", "accessToken", "refreshToken",
    "privateKey", "passphrase"]

def marker : Json := .string "[REDACTED]"

mutual

/-- `sanitizeJobData`. To assign to `__proto__` adds no key to the object. -/
def sanitizeJobData : Members → Members
  | [] => []
  | (key, value) :: rest =>
    if key ∈ SENSITIVE_KEYS then (key, marker) :: sanitizeJobData rest
    else if key = "__proto__" then sanitizeJobData rest
    else (key, sanitizeMember value) :: sanitizeJobData rest

/-- The value of a key that is not sensitive. -/
def sanitizeMember : Json → Json
  | .array items => .array (sanitizeItems items)
  | .object members => .object (sanitizeJobData members)
  | .null => .null
  | .bool b => .bool b
  | .number n => .number n
  | .string s => .string s

def sanitizeItems : List Json → List Json
  | [] => []
  | .object members :: rest => .object (sanitizeJobData members) :: sanitizeItems rest
  | .array items :: rest => .array items :: sanitizeItems rest
  | .null :: rest => .null :: sanitizeItems rest
  | .bool b :: rest => .bool b :: sanitizeItems rest
  | .number n :: rest => .number n :: sanitizeItems rest
  | .string s :: rest => .string s :: sanitizeItems rest

end

inductive FailedJobSeverity where
  | critical
  | high
  | medium
  | low

def SEVERITY_MAP : List (String × FailedJobSeverity) :=
  [("trade-execution", .critical), ("order-queue", .critical), ("live-trading-cron", .critical),
    ("listing-trade-execution", .critical), ("position-monitor", .high),
    ("liquidation-monitor", .high), ("notification", .high)]

def classifySeverity (queueName : String) : FailedJobSeverity :=
  (SEVERITY_MAP.lookup queueName).getD
    (if ["backtest", "pipeline", "optimization"].any
        (fun p => p.toList.isPrefixOf queueName.toList) then .medium
    else .low)

def present (members : Members) (key : String) : Option Json :=
  (members.lookup key).bind fun
    | .null => none
    | v => some v

def extractContext (jobData : Option Members) : Option Json × Option Members :=
  jobData.elim (none, none) fun data =>
    let userId := (present data "userId").or
      ((present data "user").bind fun
        | .object user => present user "id"
        | _ => none)
    let ctx := ["symbol", "action", "exchange", "exchangeKeyId", "strategyId",
      "activationId"].filterMap fun key => (present data key).map (key, ·)
    (userId, if ctx = [] then none else some ctx)

structure FailureParams where
  queueName : String
  jobId : String
  jobName : String
  jobData : Option Members := none
  errorMessage : String
  stackTrace : Option String := none
  attemptsMade : Option ℕ := none
  maxAttempts : Option ℕ := none

/-- The row that `recordFailure` saves; its status is pending. -/
structure FailedJobLog where
  queueName : String
  jobId : String
  jobName : String
  jobData : Option Members
  errorMessage : String
  stackTrace : Option String
  attemptsMade : ℕ
  maxAttempts : ℕ
  userId : Option Json
  severity : FailedJobSeverity
  context : Option Members

def recordFailure (params : FailureParams) : FailedJobLog where
  queueName := params.queueName
  jobId := params.jobId
  jobName := params.jobName
  jobData := params.jobData.map sanitizeJobData
  errorMessage := params.errorMessage
  stackTrace := params.stackTrace
  attemptsMade := params.attemptsMade.getD 0
  maxAttempts := params.maxAttempts.getD 0
  userId := (extractContext params.jobData).1
  severity := classifySeverity params.queueName
  context := (extractContext params.jobData).2

/-! ## Redaction at every depth -/

mutual

/-- The marker under every sensitive key, and everything else as it is. -/
def redact : Json → Json
  | .array items => .array (redactItems items)
  | .object members => .object (redactMembers members)
  | .null => .null
  | .bool b => .bool b
  | .number n => .number n
  | .string s => .string s

def redactItems : List Json → List Json
  | [] => []
  | item :: rest => redact item :: redactItems rest

def redactMembers : Members → Members
  | [] => []
  | (key, value) :: rest =>
    (key, if key ∈ SENSITIVE_KEYS then marker else redact value) :: redactMembers rest

end

mutual

/-- **The payloads that are redacted.** No key that is looked at is `__proto__`, and the arrays in
arrays hold the marker already under every sensitive key. -/
def Reached : Members → Prop
  | [] => True
  | (key, value) :: rest =>
    (key ∈ SENSITIVE_KEYS ∨ key ≠ "__proto__" ∧ ReachedMember value) ∧ Reached rest

def ReachedMember : Json → Prop
  | .array items => ReachedItems items
  | .object members => Reached members
  | .null | .bool _ | .number _ | .string _ => True

def ReachedItems : List Json → Prop
  | [] => True
  | .object members :: rest => Reached members ∧ ReachedItems rest
  | .array items :: rest => redactItems items = items ∧ ReachedItems rest
  | .null :: rest | .bool _ :: rest | .number _ :: rest | .string _ :: rest => ReachedItems rest

end

theorem length_sanitizeJobData (members : Members) :
    (sanitizeJobData members).length ≤ (redactMembers members).length := by
  induction members with
  | nil => simp [sanitizeJobData]
  | cons m rest ih =>
    obtain ⟨_, _⟩ := m
    rw [sanitizeJobData, redactMembers, List.length_cons]
    split_ifs
    · exact Nat.succ_le_succ ih
    · exact ih.trans (Nat.le_succ _)
    · exact Nat.succ_le_succ ih

mutual

theorem sanitizeJobData_iff : ∀ members : Members,
    sanitizeJobData members = redactMembers members ↔ Reached members
  | [] => by simp [sanitizeJobData, redactMembers, Reached]
  | (key, value) :: rest => by
    have hvalue := sanitizeMember_iff value
    have hrest := sanitizeJobData_iff rest
    rw [sanitizeJobData, redactMembers, Reached]
    by_cases hkey : key ∈ SENSITIVE_KEYS
    · rw [if_pos hkey, if_pos hkey, List.cons_inj_right, hrest, and_iff_right (.inl hkey)]
    · by_cases hproto : key = "__proto__"
      · -- one member less
        rw [if_neg hkey, if_pos hproto]
        refine iff_of_false (fun h => ?_) fun h => h.1.elim hkey fun h => h.1 hproto
        have hlen := length_sanitizeJobData rest
        rw [h, List.length_cons] at hlen
        exact Nat.not_succ_le_self _ hlen
      · rw [if_neg hkey, if_neg hproto, if_neg hkey, List.cons.injEq, Prod.mk.injEq,
          and_iff_right rfl, hvalue, hrest, or_iff_right hkey, and_iff_right hproto]

theorem sanitizeMember_iff : ∀ value : Json, sanitizeMember value = redact value ↔
    ReachedMember value
  | .array items => by
    rw [sanitizeMember, redact, Json.array.injEq, ReachedMember, sanitizeItems_iff items]
  | .object members => by
    rw [sanitizeMember, redact, Json.object.injEq, ReachedMember, sanitizeJobData_iff members]
  | .null | .bool _ | .number _ | .string _ => by simp [sanitizeMember, redact, ReachedMember]

theorem sanitizeItems_iff : ∀ items : List Json, sanitizeItems items = redactItems items ↔
    ReachedItems items
  | [] => by simp [sanitizeItems, redactItems, ReachedItems]
  | .object members :: rest => by
    rw [sanitizeItems, redactItems, redact, List.cons.injEq, Json.object.injEq, ReachedItems,
      sanitizeJobData_iff members, sanitizeItems_iff rest]
  | .array items :: rest => by
    rw [sanitizeItems, redactItems, redact, List.cons.injEq, Json.array.injEq, ReachedItems,
      sanitizeItems_iff rest, eq_comm]
  | .null :: rest | .bool _ :: rest | .number _ :: rest | .string _ :: rest => by
    rw [sanitizeItems, redactItems, redact, List.cons_inj_right, ReachedItems,
      sanitizeItems_iff rest]

end

/-- **When the stored data is redacted at every depth.** -/
theorem redacted_iff (params : FailureParams) :
    (recordFailure params).jobData = params.jobData.map redactMembers ↔
      ∀ data ∈ params.jobData, Reached data := by
  change params.jobData.map sanitizeJobData = _ ↔ _
  cases params.jobData with
  | none => simp
  | some data => simpa using sanitizeJobData_iff data

theorem nested_password_stored :
    ¬ (∀ params : FailureParams,
      (recordFailure params).jobData = params.jobData.map redactMembers) ∧
      sanitizeJobData [("rows", .array [.array [.object [("password", .string "hunter2")]]])] =
        [("rows", .array [.array [.object [("password", .string "hunter2")]]])] := by
  have hstored : sanitizeJobData
      [("rows", .array [.array [.object [("password", .string "hunter2")]]])] =
        [("rows", .array [.array [.object [("password", .string "hunter2")]]])] := by
    simp [sanitizeJobData, sanitizeMember, sanitizeItems, SENSITIVE_KEYS]
  refine ⟨fun h => ?_, hstored⟩
  have hrow := h
    { queueName := "order-queue", jobId := "1", jobName := "sync", errorMessage := "timeout"
      jobData := some [("rows", .array [.array [.object [("password", .string "hunter2")]]])] }
  rw [recordFailure, Option.map_some, Option.map_some, Option.some.injEq, hstored] at hrow
  simp [redactMembers, redact, redactItems, SENSITIVE_KEYS, marker] at hrow

end Chansey.FailedJobs
