import Chansey.Audit.Tampering
import Chansey.Lib.Tasks

/-!
# The audit service

A call of `createAuditLog` saves its row, looks for the newest other row, and saves the row again with
the chain hash. Calls interleave between these steps. The checks read rows back from the table.
-/

namespace Chansey.Audit

open Tasks

structure CreateAuditLogDto where
  eventType : String
  entityType : String
  entityId : Uuid
  userId : Option Uuid
  beforeState : Option JsonRecord
  afterState : Option JsonRecord
  metadata : Option JsonRecord

structure Row where
  log : AuditLog
  /-- The entry whose chain hash the one of this entry was computed from. -/
  linkedTo : Option Uuid

/-- A call of `createAuditLog`, at the query it waits for next. -/
inductive Call where
  | save (fields : AuditFields)
  | findPrevious (saved : AuditLog)
  | saveChainHash (saved : AuditLog) (linkedTo : Option Uuid)

structure Request where
  dto : CreateAuditLogDto
  contextUserId : Option Uuid
  now : UtcDate

/-- What the database answers: the id of a new row, and which of several newest rows comes first. -/
structure Answer where
  id : Uuid
  tie : ℕ

/-! ## createAuditLog -/

section Service

variable (digest : String → String)

def createAuditLog (request : Request) : AuditFields where
  eventType := request.dto.eventType
  entityType := request.dto.entityType
  entityId := request.dto.entityId
  userId := request.dto.userId.or request.contextUserId
  timestamp := request.now
  beforeState := request.dto.beforeState
  afterState := request.dto.afterState
  metadata := request.dto.metadata

/-- `findOne({ where: { id: Not(saved.id) }, order: { timestamp: 'DESC' } })` -/
def newestOther (rows : List Row) (savedId : Uuid) (tie : ℕ) : Option Row :=
  let others := rows.filter (·.log.id ≠ savedId)
  let newest := others.filter fun row =>
    others.all fun other => other.log.timestamp.rank ≤ row.log.timestamp.rank
  newest[tie]?.or newest.head?

def linkedId (previous : Option Row) : Option Uuid :=
  (previous.filter (·.log.HasChainHash)).map (·.log.id)

/-- `save(saved)`, for one row of the table. -/
def Row.update (saved : AuditLog) (linkedTo : Option Uuid) (row : Row) : Row :=
  if row.log.id = saved.id then ⟨saved, linkedTo⟩ else row

def advance (rows : List Row) (call : Call) (answer : Answer) : List Row × Option Call :=
  match call with
  | .save fields =>
    if rows.any (·.log.id = answer.id) then (rows, none)
    else
      let saved := savedLog digest fields answer.id
      (rows ++ [⟨saved, none⟩], some (.findPrevious saved))
  | .findPrevious saved =>
    let previous := newestOther rows saved.id answer.tie
    let chainHash := generateChainHash digest saved (previous.bind (·.log.chainHash))
    (rows, some (.saveChainHash { saved with chainHash := some chainHash } (linkedId previous)))
  | .saveChainHash saved linkedTo =>
    (rows.map (Row.update saved linkedTo), none)

def auditProgram : Program (List Row) Call Request Answer where
  call rows request := (rows, some (.save (createAuditLog request)))
  advance := advance digest

end Service

/-! ## The checks -/

/-- `verifyEntityAuditChain`, `verifyGlobalAuditChain` and `verifyAuditChainByDateRange`. -/
inductive Check where
  | entity (entityType : String) (entityId : Uuid)
  | global (limit offset : ℕ)
  | dateRange (startDate endDate : UtcDate)

def Check.selects : Check → AuditLog → Bool
  | .entity entityType entityId, log => log.entityType = entityType ∧ log.entityId = entityId
  | .global _ _, _ => true
  | .dateRange startDate endDate, log =>
    startDate.rank ≤ log.timestamp.rank ∧ log.timestamp.rank ≤ endDate.rank

def Check.window : Check → List Row → List Row
  | .global limit offset, rows => (rows.drop offset).take limit
  | _, rows => rows

def Check.Returns (check : Check) (rows page : List Row) : Prop :=
  ∃ sorted : List Row, sorted.Perm (rows.filter (check.selects ·.log)) ∧
    sorted.Pairwise (·.log.timestamp.rank ≤ ·.log.timestamp.rank) ∧ page = check.window sorted

/-- A row as it is read from the table, where a JSON column returns `load` of a record. -/
def Row.reload (load : JsonRecord → JsonRecord) (row : Row) : AuditLog :=
  { row.log with
    beforeState := row.log.beforeState.map load
    afterState := row.log.afterState.map load
    metadata := row.log.metadata.map load }

structure EntriesVerification where
  verified : ℕ
  failed : List Uuid

/-- The loop of `verifyMultipleEntries` over the logs it has found. -/
def verifyMultipleEntries (digest : String → String) (result : EntriesVerification) :
    List AuditLog → EntriesVerification
  | [] => result
  | log :: logs =>
    verifyMultipleEntries digest
      (if verifyAuditIntegrity digest log then { result with verified := result.verified + 1 }
      else { result with failed := result.failed ++ [log.id] }) logs

/-! ## What every run keeps -/

def Call.savedId : Call → Option Uuid
  | .save _ => none
  | .findPrevious saved | .saveChainHash saved _ => some saved.id

section Sound

variable (digest : String → String) (rows : List Row)

/-- The chain hash of an entry, and the entry it is linked to. -/
def LinkedTo (log : AuditLog) (linkedTo : Option Uuid) : Prop :=
  ∃ previous : Option Row, (∀ row ∈ previous, row ∈ rows ∧ row.log.HasChainHash) ∧
    linkedTo = previous.map (·.log.id) ∧
    log.chainHash = some (generateChainHash digest log (previous.bind (·.log.chainHash)))

structure Row.Honest (row : Row) : Prop where
  integrity : verifyAuditIntegrity digest row.log = true
  chain : row.log.HasChainHash → LinkedTo digest rows row.log row.linkedTo

def Call.Waits : Call → Prop
  | .save _ => True
  | .findPrevious saved => ∃ fields id, saved = savedLog digest fields id ∧ ⟨saved, none⟩ ∈ rows
  | .saveChainHash saved linkedTo =>
    LinkedTo digest rows saved linkedTo ∧ verifyAuditIntegrity digest saved = true ∧
      ⟨{ saved with chainHash := none }, none⟩ ∈ rows

end Sound

/-- The rows have different ids and hold their hashes, and each call waits for a row of its own. -/
structure Sound (digest : String → String) (pool : Pool (List Row) Call) : Prop where
  ids : (pool.shared.map (·.log.id)).Nodup
  honest : ∀ row ∈ pool.shared, row.Honest digest pool.shared
  waits : ∀ call ∈ pool.inFlight, call.Waits digest pool.shared
  distinct : (pool.inFlight.filterMap Call.savedId).Nodup

/-! ## The steps keep it -/

section Steps

variable {digest : String → String} {rows later : List Row} {log : AuditLog}
  {linkedTo : Option Uuid} {pool : Pool (List Row) Call}

def Extends (rows later : List Row) : Prop :=
  ∀ row ∈ rows, row.log.HasChainHash → row ∈ later

theorem LinkedTo.mono (h : LinkedTo digest rows log linkedTo) (hlater : Extends rows later) :
    LinkedTo digest later log linkedTo := by
  obtain ⟨previous, hprev, hlink, hhash⟩ := h
  refine ⟨previous, fun row hrow => ?_, hlink, hhash⟩
  obtain ⟨hmem, hchain⟩ := hprev row hrow
  exact ⟨hlater row hmem hchain, hchain⟩

theorem Row.Honest.mono {row : Row} (h : row.Honest digest rows) (hlater : Extends rows later) :
    row.Honest digest later :=
  ⟨h.integrity, fun hchain => (h.chain hchain).mono hlater⟩

variable {call : Call} {before after : List Call}

theorem Call.Waits.mem {id : Uuid} (h : call.Waits digest rows) (hid : call.savedId = some id) :
    ∃ row ∈ rows, row.log.id = id ∧ row.log.chainHash = none := by
  cases call with
  | save => cases hid
  | findPrevious =>
    obtain ⟨_, _, rfl, hmem⟩ := h
    exact ⟨_, hmem, Option.some.inj hid, rfl⟩
  | saveChainHash => exact ⟨_, h.2.2, Option.some.inj hid, rfl⟩

theorem Call.Waits.mono (h : call.Waits digest rows) (hlater : Extends rows later)
    (hrow : ∀ row ∈ rows, call.savedId = some row.log.id → row ∈ later) :
    call.Waits digest later := by
  cases call with
  | save => trivial
  | findPrevious =>
    obtain ⟨fields, id, rfl, hmem⟩ := h
    exact ⟨fields, id, rfl, hrow _ hmem rfl⟩
  | saveChainHash =>
    exact ⟨h.1.mono hlater, h.2.1, hrow _ h.2.2 rfl⟩

theorem newestOther_mem {savedId : Uuid} {tie : ℕ} {row : Row}
    (h : row ∈ newestOther rows savedId tie) : row ∈ rows := by
  unfold newestOther at h
  rcases Option.or_eq_some_iff.1 h with h | ⟨-, h⟩
  · exact List.mem_of_mem_filter (List.mem_of_mem_filter (List.mem_of_getElem? h))
  · exact List.mem_of_mem_filter (List.mem_of_mem_filter (List.mem_of_mem_head? h))

theorem previousText_filter (previous : Option Row) :
    previousText ((previous.filter (·.log.HasChainHash)).bind (·.log.chainHash)) =
      previousText (previous.bind (·.log.chainHash)) := by
  cases previous with
  | none => rfl
  | some row =>
    by_cases hchain : row.log.HasChainHash
    · rw [Option.filter_some, if_pos (decide_eq_true hchain)]
    · rw [Option.filter_some, if_neg (by simpa using hchain)]
      have hlegacy : ¬ ∃ e ∈ some row.log, e.HasChainHash := by simpa using hchain
      exact (linkedText_legacy hlegacy).symm

theorem linkedTo_newest (saved : AuditLog) (tie : ℕ) :
    let previous := newestOther rows saved.id tie
    let chainHash := generateChainHash digest saved (previous.bind (·.log.chainHash))
    LinkedTo digest rows { saved with chainHash := some chainHash } (linkedId previous) := by
  refine ⟨(newestOther rows saved.id tie).filter (·.log.HasChainHash), fun row hrow => ?_, rfl, ?_⟩
  · obtain ⟨hmem, hchain⟩ := Option.mem_filter_iff.1 hrow
    exact ⟨newestOther_mem hmem, of_decide_eq_true hchain⟩
  · exact congrArg some (generateChainHash_congr saved (previousText_filter _).symm)

theorem filterMap_middle (before after : List Call) (call : Option Call) :
    (before ++ (call.toList ++ after)).filterMap Call.savedId =
      before.filterMap Call.savedId ++
        ((call.bind Call.savedId).toList ++ after.filterMap Call.savedId) := by
  rw [List.filterMap_append, List.filterMap_append]
  cases call with
  | none => rfl
  | some call => cases hid : call.savedId <;> simp [hid]

theorem Sound.replace {next : Option Call} (h : Sound digest pool)
    (hcalls : pool.inFlight = before ++ call :: after) (hids : (later.map (·.log.id)).Nodup)
    (hhonest : ∀ row ∈ later, row.Honest digest later) (hextends : Extends pool.shared later)
    (hkept : ∀ row ∈ pool.shared, call.savedId ≠ some row.log.id → row ∈ later)
    (hnext : ∀ waiting ∈ next, waiting.Waits digest later)
    (hnew : ∀ id, next.bind Call.savedId = some id → call.savedId = some id ∨
      ∀ row ∈ pool.shared, row.log.id ≠ id) :
    Sound digest ⟨later, before ++ (next.toList ++ after)⟩ := by
  have hdist := h.distinct
  rw [hcalls, ← List.singleton_append, ← Option.toList_some, filterMap_middle,
    Option.bind_some] at hdist
  have hbeside : ∀ other ∈ before ++ after, other ∈ pool.inFlight := by
    intro other hother
    rw [hcalls]
    rcases List.mem_append.1 hother with hother | hother
    · exact List.mem_append_left _ hother
    · exact List.mem_append_right _ (List.mem_cons_of_mem _ hother)
  -- the ids of the other calls
  have hoths : ∀ id ∈ before.filterMap Call.savedId ++ after.filterMap Call.savedId,
      ∃ other ∈ before ++ after, other.savedId = some id := by
    intro id hid
    rw [← List.filterMap_append] at hid
    exact List.mem_filterMap.1 hid
  have hdisjoint : ∀ other ∈ before ++ after, ∀ id, other.savedId = some id →
      call.savedId ≠ some id := by
    intro other hother id hid hcall
    rw [hcall, Option.toList_some, List.singleton_append, List.nodup_middle,
      ← List.filterMap_append] at hdist
    exact (List.nodup_cons.1 hdist).1 (List.mem_filterMap.2 ⟨other, hother, hid⟩)
  refine ⟨hids, hhonest, fun other hother => ?_, ?_⟩
  · obtain hother | hother : other ∈ before ++ after ∨ other ∈ next := by
      simp only [List.mem_append, Option.mem_toList] at hother ⊢
      tauto
    · refine (h.waits other (hbeside other hother)).mono hextends fun row hrow hid => ?_
      exact hkept row hrow (hdisjoint other hother _ hid)
    · exact hnext other hother
  · change (List.filterMap _ (before ++ (next.toList ++ after))).Nodup
    rw [filterMap_middle]
    cases hid : next.bind Call.savedId with
    | none => exact hdist.sublist (by simp)
    | some id =>
      rcases hnew id hid with hsame | hfresh
      · rwa [hsame] at hdist
      · rw [Option.toList_some, List.singleton_append, List.nodup_middle, List.nodup_cons]
        refine ⟨fun hmem => ?_, hdist.sublist (by simp)⟩
        obtain ⟨other, hother, hsaved⟩ := hoths id hmem
        obtain ⟨row, hrow, hrowId, -⟩ := (h.waits other (hbeside other hother)).mem hsaved
        exact hfresh row hrow hrowId

theorem savedLog_not_hasChainHash (fields : AuditFields) (id : Uuid) :
    ¬ (savedLog digest fields id).HasChainHash := fun h => h rfl

theorem Row.update_id (saved : AuditLog) (linkedTo : Option Uuid) (row : Row) :
    (row.update saved linkedTo).log.id = row.log.id := by
  unfold Row.update
  split
  · rename_i hid
    exact hid.symm
  · rfl

theorem Sound.advance (h : Sound digest pool) (hcalls : pool.inFlight = before ++ call :: after)
    (answer : Answer) :
    Sound digest
      ⟨(Audit.advance digest pool.shared call answer).1,
        before ++ ((Audit.advance digest pool.shared call answer).2.toList ++ after)⟩ := by
  have hwaits : call.Waits digest pool.shared := h.waits call (by simp [hcalls])
  cases call with
  | save fields =>
    simp only [Audit.advance]
    split
    · exact h.replace hcalls h.ids h.honest (fun row hrow _ => hrow) (fun row hrow _ => hrow)
        (fun _ hmem => by cases hmem) (fun _ hid => by cases hid)
    · rename_i hnew
      have hfresh : ∀ row ∈ pool.shared, row.log.id ≠ answer.id := by simpa using hnew
      have hextends : Extends pool.shared
          (pool.shared ++ [⟨savedLog digest fields answer.id, none⟩]) :=
        fun row hrow _ => List.mem_append_left _ hrow
      refine h.replace hcalls ?_ (fun row hrow => ?_) hextends
        (fun row hrow _ => List.mem_append_left _ hrow) ?_ ?_
      · rw [List.map_append, List.map_singleton, List.nodup_append_comm, List.singleton_append,
          List.nodup_cons]
        refine ⟨fun hmem => ?_, h.ids⟩
        obtain ⟨row, hrow, hid⟩ := List.mem_map.1 hmem
        exact hfresh row hrow hid
      · rcases List.mem_append.1 hrow with hrow | hrow
        · exact (h.honest row hrow).mono hextends
        · obtain rfl := List.mem_singleton.1 hrow
          exact ⟨decide_eq_true rfl, fun hchain => absurd hchain (savedLog_not_hasChainHash _ _)⟩
      · rintro waiting hwait
        cases hwait
        exact ⟨fields, answer.id, rfl, List.mem_append_right _ (List.mem_singleton_self _)⟩
      · intro id hid
        cases hid
        exact .inr hfresh
  | findPrevious =>
    obtain ⟨fields, id, rfl, hmem⟩ := hwaits
    refine h.replace hcalls h.ids h.honest (fun row hrow _ => hrow) (fun row hrow _ => hrow) ?_
      (fun _ hid => .inl hid)
    rintro waiting hwait
    cases hwait
    exact ⟨linkedTo_newest _ _, decide_eq_true rfl, hmem⟩
  | saveChainHash saved linkedTo =>
    obtain ⟨hlink, hint, hmem⟩ := hwaits
    -- only the row of the call changes, which has no chain hash
    have hkept : ∀ row ∈ pool.shared, row.log.id ≠ saved.id →
        row ∈ pool.shared.map (Row.update saved linkedTo) :=
      fun row hrow hne => List.mem_map.2 ⟨row, hrow, if_neg hne⟩
    have hextends : Extends pool.shared (pool.shared.map (Row.update saved linkedTo)) := by
      refine fun row hrow hchain => hkept row hrow fun hid => ?_
      obtain rfl := List.inj_on_of_nodup_map h.ids hrow hmem hid
      exact hchain rfl
    simp only [Audit.advance]
    refine h.replace hcalls ?_ (fun row hrow => ?_) hextends (fun row hrow hne => ?_)
      (fun _ hmem => by cases hmem) (fun _ hid => by cases hid)
    · rw [List.map_map]
      exact (List.map_congr_left fun row _ => Row.update_id saved linkedTo row) ▸ h.ids
    · obtain ⟨old, hold, rfl⟩ := List.mem_map.1 hrow
      unfold Row.update
      split
      · exact ⟨hint, fun _ => hlink.mono hextends⟩
      · exact (h.honest old hold).mono hextends
    · exact hkept row hrow fun hid => hne (congrArg some hid.symm)

theorem sound_run (digest : String → String) (moves : List (Move Request Answer)) :
    Sound digest ((auditProgram digest).run ⟨[], []⟩ moves) := by
  have hstep : ∀ (pool : Pool (List Row) Call) (move : Move Request Answer), Sound digest pool →
      Sound digest ((auditProgram digest).step pool move) := by
    intro pool move h
    obtain ⟨_, -, hres⟩ | ⟨_, answer, call, _, _, -, -, hcalls, hres⟩ |
      hres := (auditProgram digest).step_cases pool move
    · rw [hres]
      refine ⟨h.ids, h.honest, fun call hcall => ?_, ?_⟩
      · rcases List.mem_append.1 hcall with hcall | hcall
        · exact h.waits call hcall
        · obtain rfl := List.mem_singleton.1 hcall
          trivial
      · change (List.filterMap _ (pool.inFlight ++ [_])).Nodup
        rw [List.filterMap_append]
        exact (List.append_nil _).symm ▸ h.distinct
    · rw [hres]
      exact h.advance hcalls answer
    · rwa [hres]
  have hstart : Sound digest (⟨[], []⟩ : Pool (List Row) Call) :=
    ⟨List.nodup_nil, List.forall_mem_nil _, List.forall_mem_nil _, List.nodup_nil⟩
  exact List.foldlRecOn moves _ hstart fun pool h move _ => hstep pool move h

end Steps

end Chansey.Audit
