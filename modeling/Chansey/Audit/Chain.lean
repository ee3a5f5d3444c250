import Chansey.Lib.Json

/-!
# The audit log and its verification

Each entry carries a hash of its fields, and one that links it to the entry before it.
-/

namespace Chansey.Audit

structure Uuid where
  text : String
  ne_empty : text ≠ ""
  deriving DecidableEq

abbrev JsonRecord := List (String × Json)

/-- The fields of an entry that its integrity hash covers. -/
structure AuditFields where
  eventType : String
  entityType : String
  entityId : Uuid
  userId : Option Uuid
  timestamp : UtcDate
  beforeState : Option JsonRecord
  afterState : Option JsonRecord
  metadata : Option JsonRecord

structure AuditLog extends AuditFields where
  id : Uuid
  integrity : String
  chainHash : Option String

section Hashes

variable (digest : String → String)

def generateSHA256Hash (data : Json) : String := digest data.stringify

def stateOrNull : Option JsonRecord → Json
  | none => .null
  | some state => .object state

def userOrNull : Option Uuid → Json
  | none => .null
  | some userId => .string userId.text

def generateAuditIntegrityHash (auditEntry : AuditFields) : String :=
  generateSHA256Hash digest (.object
    [("eventType", .string auditEntry.eventType),
      ("entityType", .string auditEntry.entityType),
      ("entityId", .string auditEntry.entityId.text),
      ("userId", userOrNull auditEntry.userId),
      ("timestamp", .string auditEntry.timestamp.toISOString),
      ("beforeState", stateOrNull auditEntry.beforeState),
      ("afterState", stateOrNull auditEntry.afterState),
      ("metadata", stateOrNull auditEntry.metadata)])

def verifyAuditIntegrity (auditEntry : AuditLog) : Bool :=
  generateAuditIntegrityHash digest auditEntry.toAuditFields = auditEntry.integrity

def truthyHash (hash : Option String) : Option String := hash.filter (· ≠ "")

/-- `previousHash || 'GENESIS'` -/
def previousText (previousHash : Option String) : String := (truthyHash previousHash).getD "GENESIS"

def generateChainHash (currentEntry : AuditLog) (previousHash : Option String) : String :=
  generateSHA256Hash digest (.object
    [("id", .string currentEntry.id.text),
      ("eventType", .string currentEntry.eventType),
      ("entityType", .string currentEntry.entityType),
      ("entityId", .string currentEntry.entityId.text),
      ("timestamp", .string currentEntry.timestamp.toISOString),
      ("integrity", .string currentEntry.integrity),
      ("previousHash", .string (previousText previousHash))])

def verifyChainIntegrity (currentEntry : AuditLog) (previousEntry : Option AuditLog) : Bool :=
  match truthyHash currentEntry.chainHash with
  | none => true
  | some chainHash =>
    generateChainHash digest currentEntry (previousEntry.bind (·.chainHash)) = chainHash

def savedLog (fields : AuditFields) (id : Uuid) : AuditLog where
  toAuditFields := fields
  id := id
  integrity := generateAuditIntegrityHash digest fields
  chainHash := none

/-! ## Verification -/

structure ChainCheck where
  verifiedEntries : ℕ := 0
  brokenChainAt : Option ℕ := none
  tamperedEntries : List Uuid := []

def checkChain (check : ChainCheck) (previousEntry : Option AuditLog) (i : ℕ) :
    List AuditLog → ChainCheck
  | [] => check
  | currentEntry :: entries =>
    let check :=
      if verifyChainIntegrity digest currentEntry previousEntry then
        { check with verifiedEntries := check.verifiedEntries + 1 }
      else
        { check with
          brokenChainAt := check.brokenChainAt.or (some i)
          tamperedEntries := check.tamperedEntries ++ [currentEntry.id] }
    checkChain check (some currentEntry) (i + 1) entries

structure ChainVerificationResult where
  valid : Bool
  totalEntries : ℕ
  verifiedEntries : ℕ
  brokenChainAt : Option ℕ
  tamperedEntries : List Uuid
  integrityFailures : List Uuid

def verifyAuditChain (entries : List AuditLog) : ChainVerificationResult :=
  let chainResult := checkChain digest {} none 0 entries
  let integrityFailures := (entries.filter (!verifyAuditIntegrity digest ·)).map (·.id)
  { valid := chainResult.verifiedEntries = entries.length ∧ integrityFailures.length = 0
    totalEntries := entries.length
    verifiedEntries := chainResult.verifiedEntries
    brokenChainAt := chainResult.brokenChainAt
    tamperedEntries := (chainResult.tamperedEntries ++ integrityFailures).eraseDups
    integrityFailures := integrityFailures }

def links {α : Type} (previous : Option α) : List α → List (Option α × α)
  | [] => []
  | current :: rest => (previous, current) :: links (some current) rest

def Linked (previousEntry : Option AuditLog) (entries : List AuditLog) : Prop :=
  ∀ link ∈ links previousEntry entries, verifyChainIntegrity digest link.2 link.1 = true

end Hashes

variable {digest : String → String}

theorem checkChain_le (check : ChainCheck) (previousEntry : Option AuditLog) (i : ℕ)
    (entries : List AuditLog) :
    (checkChain digest check previousEntry i entries).verifiedEntries ≤
      check.verifiedEntries + entries.length := by
  induction entries generalizing check previousEntry i with
  | nil => exact le_rfl
  | cons entry entries ih =>
    refine (ih _ _ _).trans ?_
    split <;> simp only [List.length_cons] <;> omega

theorem checkChain_eq_iff (check : ChainCheck) (previousEntry : Option AuditLog) (i : ℕ)
    (entries : List AuditLog) :
    (checkChain digest check previousEntry i entries).verifiedEntries =
      check.verifiedEntries + entries.length ↔ Linked digest previousEntry entries := by
  induction entries generalizing check previousEntry i with
  | nil => exact iff_of_true rfl (List.forall_mem_nil _)
  | cons entry entries ih =>
    unfold checkChain
    rw [Linked, links, List.forall_mem_cons]
    cases hlink : verifyChainIntegrity digest entry previousEntry with
    | true =>
      rw [if_pos rfl, List.length_cons, ← Nat.add_assoc, Nat.add_right_comm]
      exact (ih { check with verifiedEntries := check.verifiedEntries + 1 } _ _).trans
        (and_iff_right rfl).symm
    | false =>
      -- one entry fewer is verified
      refine iff_of_false (fun h => ?_) (fun h => by cases h.1)
      have hle := @checkChain_le digest
        { check with
          brokenChainAt := check.brokenChainAt.or (some i)
          tamperedEntries := check.tamperedEntries ++ [entry.id] } (some entry) (i + 1) entries
      simp only [Bool.false_eq_true, if_false, List.length_cons] at h hle
      omega

theorem valid_iff (entries : List AuditLog) :
    (verifyAuditChain digest entries).valid = true ↔
      Linked digest none entries ∧ ∀ entry ∈ entries, verifyAuditIntegrity digest entry = true := by
  unfold verifyAuditChain
  rw [decide_eq_true_eq]
  refine and_congr ?_ ?_
  · have h := @checkChain_eq_iff digest {} none 0 entries
    rwa [Nat.zero_add] at h
  · rw [List.length_map, List.length_eq_zero_iff, List.filter_eq_nil_iff]
    simp

/-! ## What the hashes determine -/

/-- No two texts have the same digest, and a digest is a text of hexadecimal digits. -/
structure CollisionFree (digest : String → String) : Prop where
  injective : Function.Injective digest
  ne_empty : ∀ text, digest text ≠ ""
  ne_genesis : ∀ text, digest text ≠ "GENESIS"

theorem generateSHA256Hash_injective (h : CollisionFree digest) {v w : Json}
    (heq : generateSHA256Hash digest v = generateSHA256Hash digest w) : v = w :=
  Json.stringify_injective (h.injective heq)

theorem stateOrNull_injective {s t : Option JsonRecord} (h : stateOrNull s = stateOrNull t) :
    s = t := by
  cases s <;> cases t <;> cases h <;> rfl

theorem Uuid.ext_text {u v : Uuid} (h : u.text = v.text) : u = v := by
  cases u
  cases v
  cases h
  rfl

theorem userOrNull_injective {u v : Option Uuid} (h : userOrNull u = userOrNull v) : u = v := by
  cases u with
  | none => cases v with
    | none => rfl
    | some v => cases h
  | some => cases v with
    | none => cases h
    | some v => exact congrArg some (Uuid.ext_text (Json.string.inj h))

theorem integrityHash_injective (h : CollisionFree digest) {fields other : AuditFields}
    (heq : generateAuditIntegrityHash digest fields = generateAuditIntegrityHash digest other) :
    fields = other := by
  have hdata := generateSHA256Hash_injective h heq
  simp only [Json.object.injEq, List.cons.injEq, Prod.mk.injEq, Json.string.injEq, true_and,
    and_true] at hdata
  obtain ⟨hevent, htype, hentity, huser, htime, hbef, hafter, hmetadata⟩ := hdata
  cases fields
  cases other
  simp only [AuditFields.mk.injEq]
  exact ⟨hevent, htype, Uuid.ext_text hentity, userOrNull_injective huser,
    UtcDate.toISOString_injective htime, stateOrNull_injective hbef,
    stateOrNull_injective hafter, stateOrNull_injective hmetadata⟩

theorem chainHash_injective (h : CollisionFree digest) {entry other : AuditLog}
    {previousHash otherHash : Option String}
    (heq : generateChainHash digest entry previousHash = generateChainHash digest other otherHash) :
    entry.id = other.id ∧ previousText previousHash = previousText otherHash := by
  have hdata := generateSHA256Hash_injective h heq
  simp only [Json.object.injEq, List.cons.injEq, Prod.mk.injEq, Json.string.injEq, true_and,
    and_true] at hdata
  exact ⟨Uuid.ext_text hdata.1, hdata.2.2.2.2.2.2⟩

theorem truthyHash_digest (h : CollisionFree digest) (text : String) :
    truthyHash (some (digest text)) = some (digest text) := by
  simp [truthyHash, h.ne_empty text]

end Chansey.Audit
