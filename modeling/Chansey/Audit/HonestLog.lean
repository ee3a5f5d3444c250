import Chansey.Audit.AuditService
import Mathlib.Data.List.Sort

/-!
# Which honest logs verify

A log that only `createAuditLog` has written, and nothing has altered, still fails its checks: the
integrity hash is computed from the states as they were given, and a JSON column returns their
members in another order; the chain hash is computed from the newest other row, which need not be
the one before it among the rows a check verifies.

* **`honest_invalid`**: two calls, one after the other, and checks that fail.
-/

namespace Chansey.Audit

open Tasks

variable {digest : String → String} {load : JsonRecord → JsonRecord}

/-- The states of the row are read back as they were given. -/
def Row.Unchanged (load : JsonRecord → JsonRecord) (row : Row) : Prop := row.reload load = row.log

def FoundBefore (link : Option Row × Row) : Prop :=
  link.2.log.HasChainHash → link.2.linkedTo = linkedId link.1

theorem verifyAuditIntegrity_reload_iff (h : CollisionFree digest) {row : Row}
    (hrow : verifyAuditIntegrity digest row.log = true) :
    verifyAuditIntegrity digest (row.reload load) = true ↔ row.Unchanged load := by
  constructor
  · intro hreload
    have hfields := fields_eq_of_verify h hrow hreload rfl
    have hlog : ∀ log : AuditLog, log.toAuditFields = row.log.toAuditFields → log.id = row.log.id →
        log.integrity = row.log.integrity → log.chainHash = row.log.chainHash → log = row.log := by
      rintro ⟨_, _, _, _⟩ h₁ h₂ h₃ h₄
      cases hrowLog : row.log
      simp_all
    exact hlog _ hfields rfl rfl rfl
  · intro hsame
    rwa [hsame]

theorem verifyChainIntegrity_reload (load : JsonRecord → JsonRecord) (row : Row) (previous : Option Row) :
    verifyChainIntegrity digest (row.reload load) (previous.map (·.reload load)) =
      verifyChainIntegrity digest row.log (previous.map (·.log)) := by
  cases previous <;> rfl

theorem linkedId_eq_iff {rows : List Row} (hids : (rows.map (·.log.id)).Nodup)
    {found previous : Option Row} (hfound : ∀ row ∈ found, row ∈ rows ∧ row.log.HasChainHash)
    (hprev : ∀ row ∈ previous, row ∈ rows) :
    (found.map (·.log) = previous.map (·.log) ∨
        ¬ ((∃ e ∈ found.map (·.log), e.HasChainHash) ∨
          ∃ e ∈ previous.map (·.log), e.HasChainHash)) ↔
      found.map (·.log.id) = linkedId previous := by
  unfold linkedId
  cases found with
  | none => cases previous <;> simp
  | some row =>
    obtain ⟨hrow, hchain⟩ := hfound row rfl
    cases previous with
    | none => simp [hchain]
    | some before =>
      by_cases hbef : before.log.HasChainHash
      · have hsame : row.log.id = before.log.id ↔ row.log = before.log := by
          refine ⟨fun hid => ?_, fun hlog => by rw [hlog]⟩
          rw [List.inj_on_of_nodup_map hids hrow (hprev before rfl) hid]
        simp [Option.filter_some, hchain, hbef, hsame]
      · have hne : row.log ≠ before.log := fun heq => hbef (heq ▸ hchain)
        simp [Option.filter_some, hchain, hbef, hne]

theorem verify_row_iff (h : CollisionFree digest) {pool : Pool (List Row) Call}
    (hsound : Sound digest pool) {row : Row} (hrow : row ∈ pool.shared) {previous : Option Row}
    (hprev : ∀ r ∈ previous, r ∈ pool.shared) :
    verifyChainIntegrity digest row.log (previous.map (·.log)) = true ↔
      FoundBefore (previous, row) := by
  by_cases hchain : row.log.HasChainHash
  swap
  · have hlegacy : truthyHash row.log.chainHash = none := not_not.1 hchain
    refine iff_of_true ((verifyChainIntegrity_iff _ _).2 fun hash hmem => ?_)
      (fun hchain' => absurd hchain' hchain)
    rw [hlegacy] at hmem
    cases hmem
  obtain ⟨found, hfound, hlink, hhash⟩ := (hsound.honest row hrow).chain hchain
  have hids : ((pool.shared.map (·.log)).map (·.id)).Nodup := by
    rw [List.map_map]
    exact hsound.ids
  have hcmp : ∀ entry ∈ pool.shared.map (·.log), entry.HasChainHash → ∃ hash,
      truthyHash entry.chainHash = some (generateChainHash digest entry hash) := by
    intro entry hentry hchain
    obtain ⟨r, hr, rfl⟩ := List.mem_map.1 hentry
    obtain ⟨_, -, -, hhash⟩ := (hsound.honest r hr).chain hchain
    rw [hhash]
    exact ⟨_, truthyHash_digest h _⟩
  have hlogs : ∀ {o : Option Row}, (∀ r ∈ o, r ∈ pool.shared) →
      ∀ e ∈ o.map (·.log), e ∈ pool.shared.map (·.log) := by
    intro o ho e he
    obtain ⟨r, hr, rfl⟩ := Option.mem_map.1 he
    exact List.mem_map_of_mem (ho r hr)
  have hbind : ∀ o : Option Row, o.bind (·.log.chainHash) = (o.map (·.log)).bind (·.chainHash) := by
    rintro (_ | _) <;> rfl
  rw [hbind] at hhash
  have hverify : verifyChainIntegrity digest row.log (previous.map (·.log)) = true ↔
      linkedText (previous.map (·.log)) = linkedText (found.map (·.log)) := by
    rw [verifyChainIntegrity_iff, hhash]
    constructor
    · intro hall
      exact (chainHash_injective h (hall _ (truthyHash_digest h _))).2
    · intro htext hash hmem
      cases ((truthyHash_digest h _).symm.trans hmem)
      exact generateChainHash_congr row.log htext
  rw [hverify, linkedText_eq_iff hcmp h hids (hlogs fun r hr => (hfound r hr).1)
    (hlogs hprev), linkedId_eq_iff hsound.ids hfound hprev, FoundBefore,
    imp_iff_right hchain, hlink]

theorem page_valid_iff (load : JsonRecord → JsonRecord) (h : CollisionFree digest)
    {pool : Pool (List Row) Call} (hsound : Sound digest pool) {page : List Row} (hpage : page ⊆ pool.shared) :
    (verifyAuditChain digest (page.map (·.reload load))).valid = true ↔
      (∀ row ∈ page, row.Unchanged load) ∧ ∀ link ∈ links none page, FoundBefore link := by
  rw [valid_iff, and_comm]
  refine and_congr ?_ ?_
  · rw [List.forall_mem_map]
    exact forall₂_congr fun row hrow =>
      verifyAuditIntegrity_reload_iff h (hsound.honest row (hpage hrow)).integrity
  · have hlinks := links_map (fun row : Row => row.reload load) none page
    rw [Option.map_none] at hlinks
    rw [Linked, hlinks, List.forall_mem_map]
    refine forall₂_congr fun link hlink => ?_
    obtain ⟨hrow, hprev⟩ := mem_of_link hlink
    refine Iff.trans ?_ (verify_row_iff h hsound (hpage hrow) fun r hr => hpage (hprev r hr))
    rw [← verifyChainIntegrity_reload load]
    rfl

theorem Check.Returns.subset {check : Check} {rows page : List Row}
    (h : check.Returns rows page) : page ⊆ rows := by
  obtain ⟨sorted, hperm, -, rfl⟩ := h
  have hsort : sorted ⊆ rows := fun row hrow => List.mem_of_mem_filter (hperm.mem_iff.1 hrow)
  cases check with
  | global =>
    exact fun row hrow => hsort (List.mem_of_mem_drop (List.mem_of_mem_take hrow))
  | _ => exact hsort

theorem verifyMultipleEntries_failed (logs : List AuditLog) (result : EntriesVerification) :
    (verifyMultipleEntries digest result logs).failed =
      result.failed ++ (logs.filter (!verifyAuditIntegrity digest ·)).map (·.id) := by
  induction logs generalizing result with
  | nil => simp [verifyMultipleEntries]
  | cons log logs ih =>
    rw [verifyMultipleEntries, ih]
    cases hverify : verifyAuditIntegrity digest log <;> simp [hverify]

/-- **Which checks of an honest log succeed.** After every run of calls of `createAuditLog`, and
however the JSON columns return what was saved: a check finds the log valid if and only if the
states of the rows it verifies come back as they were given, and each row with a chain hash was
linked to the row before it. Entries are verified alone if and only if their states come back. -/
theorem honest_valid_iff (h : CollisionFree digest) (moves : List (Move Request Answer))
    (load : JsonRecord → JsonRecord) :
    let rows := ((auditProgram digest).run ⟨[], []⟩ moves).shared
    (∀ (check : Check) (page : List Row), check.Returns rows page →
      ((verifyAuditChain digest (page.map (·.reload load))).valid = true ↔
        (∀ row ∈ page, row.Unchanged load) ∧ ∀ link ∈ links none page, FoundBefore link)) ∧
    ∀ found, found ⊆ rows →
      ((verifyMultipleEntries digest ⟨0, []⟩ (found.map (·.reload load))).failed = [] ↔
        ∀ row ∈ found, row.Unchanged load) := by
  intro rows
  have hsound := sound_run digest moves
  refine ⟨fun check page hreturns => page_valid_iff load h hsound hreturns.subset,
    fun found hfound => ?_⟩
  rw [verifyMultipleEntries_failed, List.nil_append, List.map_eq_nil_iff, List.filter_eq_nil_iff,
    List.forall_mem_map]
  refine forall₂_congr fun row hrow => ?_
  rw [← verifyAuditIntegrity_reload_iff h (hsound.honest row (hfound hrow)).integrity]
  simp

theorem Check.returns_of_sorted (check : Check) {rows : List Row}
    (hsort : rows.Pairwise (·.log.timestamp.rank ≤ ·.log.timestamp.rank)) :
    check.Returns rows (check.window (rows.filter (check.selects ·.log))) :=
  ⟨_, .refl _, hsort.filter _, rfl⟩

/-! ## Honest logs that are reported -/

def requestOf (fields : AuditFields) : Request where
  dto := { fields with }
  contextUserId := none
  now := fields.timestamp

def oneAfterTheOther (first second : AuditFields) : List (Move Request Answer) :=
  [.call (requestOf first), .advance 0 ⟨firstId, 0⟩, .advance 0 ⟨firstId, 0⟩,
    .advance 0 ⟨firstId, 0⟩, .call (requestOf second), .advance 0 ⟨secondId, 0⟩,
    .advance 0 ⟨secondId, 0⟩, .advance 0 ⟨secondId, 0⟩]

def atTheSameTime (first second : AuditFields) : List (Move Request Answer) :=
  [.call (requestOf first), .call (requestOf second), .advance 0 ⟨firstId, 0⟩,
    .advance 1 ⟨secondId, 0⟩, .advance 1 ⟨secondId, 0⟩, .advance 1 ⟨secondId, 0⟩,
    .advance 0 ⟨firstId, 0⟩, .advance 0 ⟨firstId, 0⟩]

theorem firstId_ne_secondId : firstId ≠ secondId := by decide

theorem oneAfterTheOther_rows (first second : AuditFields) :
    ((auditProgram inHex).run ⟨[], []⟩ (oneAfterTheOther first second)).shared =
      [⟨linkedEntry first firstId none, none⟩,
        ⟨linkedEntry second secondId (linkedEntry first firstId none).chainHash, some firstId⟩] := by
  have hhash := truthyHash_digest inHex_collisionFree
  simp [Program.run, oneAfterTheOther, Program.step, auditProgram, advance, createAuditLog,
    requestOf, savedLog, newestOther, Row.update, linkedId, AuditLog.HasChainHash,
    firstId_ne_secondId, generateChainHash, generateSHA256Hash, hhash, Option.filter_some,
    linkedEntry]

theorem atTheSameTime_rows (first second : AuditFields) :
    ((auditProgram inHex).run ⟨[], []⟩ (atTheSameTime first second)).shared =
      [⟨linkedEntry first firstId (linkedEntry second secondId none).chainHash, some secondId⟩,
        ⟨linkedEntry second secondId none, none⟩] := by
  have hhash := truthyHash_digest inHex_collisionFree
  have hnone : truthyHash none = none := rfl
  simp [Program.run, atTheSameTime, Program.step, auditProgram, advance, createAuditLog,
    requestOf, savedLog, newestOther, Row.update, linkedId, AuditLog.HasChainHash,
    firstId_ne_secondId, firstId_ne_secondId.symm, generateChainHash, generateSHA256Hash, hhash,
    Option.filter_some, linkedEntry, hnone]

def strategyCreated (afterState : JsonRecord) : AuditFields :=
  { strategyUpdated 1 with eventType := "STRATEGY_CREATED", afterState := some afterState }

def deploymentActivated : AuditFields :=
  { strategyUpdated 2 with
    eventType := "DEPLOYMENT_ACTIVATED"
    entityType := "Deployment"
    entityId := otherId }

theorem rows_sorted : ((auditProgram inHex).run ⟨[], []⟩
    (oneAfterTheOther (strategyUpdated 1) deploymentActivated)).shared.Pairwise
      (·.log.timestamp.rank ≤ ·.log.timestamp.rank) := by
  rw [oneAfterTheOther_rows]
  exact List.pairwise_pair.2 (by decide)

theorem honest_valid_iff_two :
    let rows := ((auditProgram inHex).run ⟨[], []⟩
      (oneAfterTheOther (strategyUpdated 1) deploymentActivated)).shared
    (verifyAuditChain inHex (rows.map (·.reload id))).valid = true := by
  intro rows
  have hreturns := Check.returns_of_sorted (.global 1000 0) rows_sorted
  have hpage : (Check.global 1000 0).window (rows.filter ((Check.global 1000 0).selects ·.log)) =
      rows := by
    simp only [rows, oneAfterTheOther_rows]
    rfl
  have hiff := (honest_valid_iff inHex_collisionFree _ id).1 (.global 1000 0) _ hreturns
  rw [hpage] at hiff
  refine hiff.2 ⟨fun row _ => ?_, ?_⟩
  · simp [Row.Unchanged, Row.reload]
  · simp [rows, oneAfterTheOther_rows, links, FoundBefore, linkedId, Option.filter_some,
      linkedEntry_hasChainHash]
    rfl

def shorterFirst : JsonRecord → JsonRecord :=
  List.insertionSort fun member other => member.1.length ≤ other.1.length

theorem honest_invalid :
    let fields := strategyCreated [("status", .string "draft"), ("name", .string "EMA")]
    let rows := ((auditProgram inHex).run ⟨[], []⟩
      (oneAfterTheOther fields deploymentActivated)).shared
    let overlapping := ((auditProgram inHex).run ⟨[], []⟩
      (atTheSameTime fields deploymentActivated)).shared
    CollisionFree inHex ∧
    (∃ page, (Check.global 1000 1).Returns rows page ∧
      (verifyAuditChain inHex (page.map (·.reload id))).valid = false) ∧
    (∃ page, (Check.entity "Deployment" otherId).Returns rows page ∧
      (verifyAuditChain inHex (page.map (·.reload id))).valid = false) ∧
    (∃ page, (Check.global 1000 0).Returns rows page ∧
      (verifyAuditChain inHex (page.map (·.reload shorterFirst))).valid = false) ∧
    ∃ page, (Check.global 1000 0).Returns overlapping page ∧
      (verifyAuditChain inHex (page.map (·.reload id))).valid = false := by
  intro fields rows overlapping
  have hrows : rows = _ := oneAfterTheOther_rows fields deploymentActivated
  have hoverlapping : overlapping = _ := atTheSameTime_rows fields deploymentActivated
  have hsorted : rows.Pairwise (·.log.timestamp.rank ≤ ·.log.timestamp.rank) := by
    rw [hrows]
    exact List.pairwise_pair.2 (by decide)
  have hsorted' : overlapping.Pairwise (·.log.timestamp.rank ≤ ·.log.timestamp.rank) := by
    rw [hoverlapping]
    exact List.pairwise_pair.2 (by decide)
  have hfirst : ∀ fields id hash linkedTo page, ¬ ∀ link ∈
      links none (⟨linkedEntry fields id hash, some linkedTo⟩ :: page), FoundBefore link := by
    intro fields id hash linkedTo page hfound
    cases hfound _ (List.mem_cons_self ..) (linkedEntry_hasChainHash fields id hash)
  have hiff := fun load check => page_valid_iff load inHex_collisionFree
    (sound_run inHex (oneAfterTheOther fields deploymentActivated))
    (Check.returns_of_sorted check hsorted).subset
  have hiff' := page_valid_iff id inHex_collisionFree
    (sound_run inHex (atTheSameTime fields deploymentActivated))
    (Check.returns_of_sorted (.global 1000 0) hsorted').subset
  refine ⟨inHex_collisionFree, ⟨_, Check.returns_of_sorted _ hsorted, ?_⟩,
    ⟨_, Check.returns_of_sorted _ hsorted, ?_⟩, ⟨_, Check.returns_of_sorted _ hsorted, ?_⟩,
    _, Check.returns_of_sorted _ hsorted', ?_⟩
  · rw [← Bool.not_eq_true, hiff id (.global 1000 1), hrows]
    exact fun hvalid => hfirst _ _ _ _ _ hvalid.2
  · rw [← Bool.not_eq_true, hiff id (.entity "Deployment" otherId), hrows]
    exact fun hvalid => hfirst _ _ _ _ _ hvalid.2
  · rw [← Bool.not_eq_true, hiff shorterFirst (.global 1000 0), hrows]
    rintro ⟨hunchanged, -⟩
    have hstate := congrArg (·.afterState) (hunchanged _ (List.mem_cons_self ..))
    simp [Row.reload, linkedEntry, savedLog, fields, strategyCreated, shorterFirst] at hstate
    exact absurd hstate (by decide)
  · rw [← Bool.not_eq_true, hiff', hoverlapping]
    exact fun hvalid => hfirst _ _ _ _ _ hvalid.2

end Chansey.Audit
