import Chansey.Audit.Chain
import Mathlib.Data.List.Nodup

/-!
# What the verification of the audit log detects

The chain hash of an entry determines the one of the entry it was linked to, so a list of entries of
a valid log is itself valid only if every entry with a chain hash stands after the entry it was
linked to. An entry without a chain hash, from before it was introduced, links to nothing, and
nothing links to it.
-/

namespace Chansey.Audit

def AuditLog.HasChainHash (entry : AuditLog) : Prop := truthyHash entry.chainHash ≠ none

instance (entry : AuditLog) : Decidable entry.HasChainHash :=
  inferInstanceAs (Decidable (truthyHash entry.chainHash ≠ none))

/-- The hash that the entry after `previousEntry` is linked to. -/
def linkedText (previousEntry : Option AuditLog) : String :=
  previousText (previousEntry.bind (·.chainHash))

/-- An entry with a chain hash stands in `changed` after another one than in `entries`, and one of
these two has a chain hash. -/
def Relinked (entries changed : List AuditLog) : Prop :=
  ∃ previous current entry, (previous, entry) ∈ links none entries ∧
    (current, entry) ∈ links none changed ∧ entry.HasChainHash ∧ previous ≠ current ∧
    ((∃ e ∈ previous, e.HasChainHash) ∨ ∃ e ∈ current, e.HasChainHash)

variable {digest : String → String}

/-! ## The links of a list -/

section Links

variable {α β : Type}

theorem links_append (previous : Option α) (before rest : List α) :
    links previous (before ++ rest) =
      links previous before ++ links (before.getLast?.or previous) rest := by
  induction before generalizing previous with
  | nil => rfl
  | cons first before ih =>
    rw [List.cons_append, links, links, ih, List.cons_append]
    cases before <;> rfl

theorem mem_links_middle (before after : List α) (current : α) :
    (before.getLast?, current) ∈ links none (before ++ current :: after) := by
  rw [links_append, Option.or_none]
  exact List.mem_append_right _ (List.mem_cons_self ..)

variable {list : List α} {current : α}

theorem exists_link (previous : Option α) (h : current ∈ list) :
    ∃ before, (before, current) ∈ links previous list := by
  induction list generalizing previous with
  | nil => cases h
  | cons first list ih =>
    cases h with
    | head => exact ⟨previous, List.mem_cons_self ..⟩
    | tail _ h =>
      obtain ⟨before, hbef⟩ := ih (some first) h
      exact ⟨before, List.mem_cons_of_mem _ hbef⟩

theorem mem_or_of_link {previous before : Option α} (h : (before, current) ∈ links previous list) :
    current ∈ list ∧ (before = previous ∨ ∃ e ∈ before, e ∈ list) := by
  induction list generalizing previous with
  | nil => cases h
  | cons first list ih =>
    rcases List.mem_cons.1 h with h | h
    · obtain ⟨rfl, rfl⟩ := Prod.mk.inj h
      exact ⟨List.mem_cons_self .., .inl rfl⟩
    · obtain ⟨hcur, hbef⟩ := ih h
      refine ⟨List.mem_cons_of_mem _ hcur, .inr ?_⟩
      rcases hbef with rfl | ⟨e, he, hmem⟩
      · exact ⟨first, rfl, List.mem_cons_self ..⟩
      · exact ⟨e, he, List.mem_cons_of_mem _ hmem⟩

theorem mem_of_link {before : Option α} (h : (before, current) ∈ links none list) :
    current ∈ list ∧ ∀ e ∈ before, e ∈ list := by
  refine ⟨(mem_or_of_link h).1, fun e he => ?_⟩
  rcases (mem_or_of_link h).2 with rfl | ⟨_, he', hmem⟩
  · cases he
  · cases he.symm.trans he'
    exact hmem

theorem links_map (f : α → β) (previous : Option α) (list : List α) :
    links (previous.map f) (list.map f) =
      (links previous list).map (Prod.map (Option.map f) f) := by
  induction list generalizing previous with
  | nil => rfl
  | cons first list ih =>
    rw [List.map_cons, links, links, List.map_cons]
    exact congrArg _ (ih (some first))

end Links

/-! ## The links of a valid log -/

theorem verifyChainIntegrity_iff (entry : AuditLog) (previous : Option AuditLog) :
    verifyChainIntegrity digest entry previous = true ↔
      ∀ hash ∈ truthyHash entry.chainHash,
        generateChainHash digest entry (previous.bind (·.chainHash)) = hash := by
  unfold verifyChainIntegrity
  cases truthyHash entry.chainHash with
  | none | some => simp

variable {entries : List AuditLog} {previous : Option AuditLog} {entry other : AuditLog}
  {before after : List AuditLog}

theorem chainHash_of_link (hlinked : Linked digest none entries) {entry : AuditLog}
    (hlink : (previous, entry) ∈ links none entries) (hchain : entry.HasChainHash) :
    truthyHash entry.chainHash =
      some (generateChainHash digest entry (previous.bind (·.chainHash))) := by
  obtain ⟨hash, hhash⟩ := Option.ne_none_iff_exists'.1 hchain
  rw [hhash, (verifyChainIntegrity_iff entry previous).1 (hlinked _ hlink) hash hhash]

theorem generateChainHash_congr (entry : AuditLog) {hash other : Option String}
    (h : previousText hash = previousText other) :
    generateChainHash digest entry hash = generateChainHash digest entry other := by
  unfold generateChainHash
  rw [h]

theorem linkedText_legacy (h : ¬ ∃ e ∈ previous, e.HasChainHash) :
    linkedText previous = "GENESIS" := by
  cases previous with
  | none => rfl
  | some e =>
    have hnone : truthyHash e.chainHash = none := by
      by_contra hne
      exact h ⟨e, rfl, hne⟩
    change (truthyHash e.chainHash).getD "GENESIS" = _
    rw [hnone, Option.getD_none]

section Computed

variable {entries : List AuditLog}
  (hcomputed : ∀ entry ∈ entries, entry.HasChainHash → ∃ hash,
    truthyHash entry.chainHash = some (generateChainHash digest entry hash))
include hcomputed

theorem eq_of_linkedText_eq (h : CollisionFree digest) (hids : (entries.map (·.id)).Nodup)
    {entry : AuditLog} (hentry : entry ∈ entries) (hchain : entry.HasChainHash)
    {other : Option AuditLog} (hother : ∀ e ∈ other, e ∈ entries)
    (heq : linkedText other = linkedText (some entry)) : other = some entry := by
  have htext : ∀ e ∈ entries, e.HasChainHash → ∃ hash,
      linkedText (some e) = generateChainHash digest e hash := by
    intro e he hchain
    obtain ⟨hash, hhash⟩ := hcomputed e he hchain
    refine ⟨hash, ?_⟩
    change (truthyHash e.chainHash).getD "GENESIS" = _
    rw [hhash, Option.getD_some]
  obtain ⟨_, hhash⟩ := htext entry hentry hchain
  by_cases hlegacy : ∃ e ∈ other, e.HasChainHash
  · obtain ⟨e, rfl, he⟩ := hlegacy
    obtain ⟨_, hotherHash⟩ := htext e (hother e rfl) he
    rw [hhash, hotherHash] at heq
    exact congrArg some (List.inj_on_of_nodup_map hids (hother e rfl) hentry
      (chainHash_injective h heq).1)
  · rw [hhash, linkedText_legacy hlegacy] at heq
    exact absurd heq.symm (h.ne_genesis _)

theorem linkedText_eq_iff (h : CollisionFree digest) (hids : (entries.map (·.id)).Nodup)
    {previous current : Option AuditLog} (hprev : ∀ e ∈ previous, e ∈ entries)
    (hcur : ∀ e ∈ current, e ∈ entries) :
    linkedText current = linkedText previous ↔
      previous = current ∨
        ¬ ((∃ e ∈ previous, e.HasChainHash) ∨ ∃ e ∈ current, e.HasChainHash) := by
  constructor
  · intro heq
    refine or_iff_not_imp_right.2 fun hchain => ?_
    rcases not_not.1 hchain with ⟨e, rfl, he⟩ | ⟨e, rfl, he⟩
    · exact (eq_of_linkedText_eq hcomputed h hids (hprev e rfl) he hcur heq).symm
    · exact eq_of_linkedText_eq hcomputed h hids (hcur e rfl) he hprev heq.symm
  · rintro (rfl | hlegacy)
    · rfl
    · rw [linkedText_legacy (not_or.1 hlegacy).1, linkedText_legacy (not_or.1 hlegacy).2]

end Computed

theorem verify_after_iff (h : CollisionFree digest) (hlinked : Linked digest none entries)
    {previous current : Option AuditLog} {entry : AuditLog}
    (hlink : (previous, entry) ∈ links none entries) :
    verifyChainIntegrity digest entry current = true ↔
      (entry.HasChainHash → linkedText current = linkedText previous) := by
  rw [verifyChainIntegrity_iff]
  constructor
  · intro hverify hchain
    have hhash := hverify _ (Option.mem_def.2 (chainHash_of_link hlinked hlink hchain))
    exact (chainHash_injective h hhash).2
  · intro htext hash hmem
    have hchain : entry.HasChainHash := Option.ne_none_iff_exists'.2 ⟨hash, hmem⟩
    rw [chainHash_of_link hlinked hlink hchain] at hmem
    exact (generateChainHash_congr entry (htext hchain)).trans (Option.some.inj hmem)

theorem rearranged_valid_iff (h : CollisionFree digest) {entries changed : List AuditLog}
    (hvalid : (verifyAuditChain digest entries).valid = true)
    (hids : (entries.map (·.id)).Nodup) (hsub : changed ⊆ entries) :
    (verifyAuditChain digest changed).valid = true ↔ ¬ Relinked entries changed := by
  obtain ⟨hlinked, hint⟩ := (valid_iff entries).1 hvalid
  have hcomputed : ∀ entry ∈ entries, entry.HasChainHash → ∃ hash,
      truthyHash entry.chainHash = some (generateChainHash digest entry hash) := by
    intro entry hentry hchain
    obtain ⟨_, hlink⟩ := exists_link _ hentry
    exact ⟨_, chainHash_of_link hlinked hlink hchain⟩
  rw [valid_iff, and_iff_left fun entry hentry => hint entry (hsub hentry)]
  constructor
  · rintro hchanged ⟨_, _, _, hprev, hcur, hchain, hne, hhas⟩
    have htext := (verify_after_iff h hlinked hprev).1 (hchanged _ hcur) hchain
    rcases (linkedText_eq_iff hcomputed h hids (mem_of_link hprev).2
      fun e he => hsub ((mem_of_link hcur).2 e he)).1 htext with heq | hno
    · exact hne heq
    · exact hno hhas
  · rintro hno ⟨current, entry⟩ hcur
    obtain ⟨previous, hprev⟩ := exists_link none (hsub (mem_of_link hcur).1)
    refine (verify_after_iff h hlinked hprev).2 fun hchain => ?_
    refine (linkedText_eq_iff hcomputed h hids (mem_of_link hprev).2
      fun e he => hsub ((mem_of_link hcur).2 e he)).2 ?_
    by_contra hbad
    obtain ⟨hne, hhas⟩ := not_or.1 hbad
    exact hno ⟨previous, current, entry, hprev, hcur, hchain, hne, not_not.1 hhas⟩

/-! ## Tampering -/

theorem fields_eq_of_verify (h : CollisionFree digest)
    (hentry : verifyAuditIntegrity digest entry = true)
    (hother : verifyAuditIntegrity digest other = true) (hint : other.integrity = entry.integrity) :
    other.toAuditFields = entry.toAuditFields := by
  refine integrityHash_injective h ?_
  rw [of_decide_eq_true hentry, of_decide_eq_true hother, hint]

theorem changed_invalid (h : CollisionFree digest)
    (hvalid : (verifyAuditChain digest (before ++ entry :: after)).valid = true)
    (hint : other.integrity = entry.integrity) (hhash : other.chainHash = entry.chainHash)
    (hchanged : other.toAuditFields ≠ entry.toAuditFields ∨
      entry.HasChainHash ∧ other.id ≠ entry.id) :
    (verifyAuditChain digest (before ++ other :: after)).valid = false := by
  rw [← Bool.not_eq_true]
  intro hvalid'
  obtain ⟨hlink, hfields⟩ := (valid_iff _).1 hvalid
  obtain ⟨hlink', hfields'⟩ := (valid_iff _).1 hvalid'
  rcases hchanged with hne | ⟨hchain, hne⟩
  · exact hne (fields_eq_of_verify h (hfields entry (by simp)) (hfields' other (by simp)) hint)
  · have hchain' : other.HasChainHash := by
      unfold AuditLog.HasChainHash
      rwa [hhash]
    have hentry := chainHash_of_link hlink (mem_links_middle before after entry) hchain
    have hother := chainHash_of_link hlink' (mem_links_middle before after other) hchain'
    rw [hhash, hentry] at hother
    exact hne (chainHash_injective h (Option.some.inj hother)).1.symm

theorem relinked_remove {removed next : AuditLog}
    (hids : ((before ++ removed :: next :: after).map (·.id)).Nodup) (hnext : next.HasChainHash)
    (hremoved : removed.HasChainHash) :
    Relinked (before ++ removed :: next :: after) (before ++ next :: after) := by
  refine ⟨some removed, before.getLast?, next, ?_, mem_links_middle before after next, hnext, ?_,
    .inl ⟨removed, rfl, hremoved⟩⟩
  · have hlink := mem_links_middle (before ++ [removed]) after next
    rwa [List.getLast?_concat, List.append_assoc] at hlink
  · intro hlast
    have hmem : removed ∈ before := List.mem_of_getLast? hlast.symm
    exact (List.disjoint_of_nodup_append (hids.of_map _)) hmem (List.mem_cons_self ..)

theorem relinked_swap {before middle after : List AuditLog} {first second : AuditLog}
    (hids : ((before ++ first :: (middle ++ second :: after)).map (·.id)).Nodup)
    (hall : ∀ entry ∈ before ++ first :: (middle ++ second :: after), entry.HasChainHash) :
    Relinked (before ++ first :: (middle ++ second :: after))
      (before ++ second :: (middle ++ first :: after)) := by
  obtain ⟨previous, hprev⟩ : ∃ previous, (first :: middle).getLast? = some previous :=
    Option.isSome_iff_exists.1 (by simp)
  have hmem : previous ∈ first :: (middle ++ second :: after) :=
    List.mem_append_left (second :: after) (List.mem_of_getLast? hprev)
  refine ⟨some previous, before.getLast?, second, ?_,
    mem_links_middle before (middle ++ first :: after) second, hall second (by simp), ?_,
    .inl ⟨previous, rfl, hall previous (List.mem_append_right _ hmem)⟩⟩
  · have hlink := mem_links_middle (before ++ first :: middle) after second
    rwa [List.getLast?_append, hprev, Option.some_or, List.append_assoc, List.cons_append] at hlink
  · intro hlast
    exact (List.disjoint_of_nodup_append (hids.of_map _)) (List.mem_of_getLast? hlast.symm) hmem

/-- **What the verification detects.** In a valid log: a change of a field that is hashed; a list of
its entries in which one is relinked, and no other; so, where every entry has a chain hash, the
removal of an entry other than the last and the swap of two. -/
theorem tampering_detected (h : CollisionFree digest) {entries : List AuditLog}
    (hvalid : (verifyAuditChain digest entries).valid = true) (hids : (entries.map (·.id)).Nodup) :
    (∀ before entry after other, entries = before ++ entry :: after →
      other.integrity = entry.integrity → other.chainHash = entry.chainHash →
      other.toAuditFields ≠ entry.toAuditFields ∨ entry.HasChainHash ∧ other.id ≠ entry.id →
      (verifyAuditChain digest (before ++ other :: after)).valid = false) ∧
    (∀ changed, changed ⊆ entries →
      ((verifyAuditChain digest changed).valid = false ↔ Relinked entries changed)) ∧
    ((∀ entry ∈ entries, entry.HasChainHash) →
      (∀ before removed next after, entries = before ++ removed :: next :: after →
        (verifyAuditChain digest (before ++ next :: after)).valid = false) ∧
      ∀ before first middle second after,
        entries = before ++ first :: (middle ++ second :: after) →
        (verifyAuditChain digest (before ++ second :: (middle ++ first :: after))).valid =
          false) := by
  have hrelinked : ∀ changed, changed ⊆ entries →
      ((verifyAuditChain digest changed).valid = false ↔ Relinked entries changed) := by
    intro changed hsub
    rw [← Bool.not_eq_true, rearranged_valid_iff h hvalid hids hsub, not_not]
  refine ⟨?_, hrelinked, fun hall => ⟨?_, ?_⟩⟩
  · rintro before entry after other rfl hintegrity hhash hchanged
    exact changed_invalid h hvalid hintegrity hhash hchanged
  · rintro before removed next after rfl
    refine (hrelinked _ fun e he => ?_).2
      (relinked_remove hids (hall next (by simp)) (hall removed (by simp)))
    simp only [List.mem_append, List.mem_cons] at he ⊢
    tauto
  · rintro before first middle second after rfl
    refine (hrelinked _ fun e he => ?_).2 (relinked_swap hids hall)
    simp only [List.mem_append, List.mem_cons] at he ⊢
    tauto

/-! ## Legacy entries -/

theorem legacyEntries_valid (entries : List AuditLog)
    (h : ∀ entry ∈ entries, ¬ entry.HasChainHash ∧ verifyAuditIntegrity digest entry = true) :
    (verifyAuditChain digest entries).valid = true := by
  refine (valid_iff entries).2 ⟨fun link hlink => ?_, fun entry hentry => (h entry hentry).2⟩
  refine (verifyChainIntegrity_iff link.2 link.1).2 fun hash hhash => ?_
  exact absurd (Option.ne_none_iff_exists'.2 ⟨hash, hhash⟩) (h _ (mem_of_link hlink).1).1

/-- A digest of hexadecimal digits: a character is as many `f` as its number, before a `0`. -/
def inHex (text : String) : String :=
  String.ofList ('d' :: text.toList.flatMap fun c => List.replicate c.toNat 'f' ++ ['0'])

theorem eq_of_replicate_f {m n : ℕ} {s t : List Char}
    (h : List.replicate m 'f' ++ '0' :: s = List.replicate n 'f' ++ '0' :: t) : m = n ∧ s = t := by
  induction m generalizing n with
  | zero => cases n <;> simp_all [List.replicate_succ]
  | succ m ih =>
    cases n with
    | zero => simp [List.replicate_succ] at h
    | succ n =>
      obtain ⟨rfl, rfl⟩ := ih (List.cons.inj h).2
      exact ⟨rfl, rfl⟩

theorem inHex_injective : Function.Injective inHex := by
  intro text other h
  have hdigits := (List.cons.inj (String.ofList_injective h)).2
  refine String.toList_injective ?_
  generalize text.toList = s at hdigits ⊢
  generalize other.toList = t at hdigits ⊢
  induction s generalizing t with
  | nil => cases t <;> simp_all
  | cons c s ih =>
    cases t with
    | nil => simp at hdigits
    | cons d t =>
      simp only [List.flatMap_cons, List.append_assoc, List.singleton_append] at hdigits
      obtain ⟨hchar, hrest⟩ := eq_of_replicate_f hdigits
      rw [Char.ext (UInt32.toNat_inj.mp hchar), ih t hrest]

theorem inHex_collisionFree : CollisionFree inHex where
  injective := inHex_injective
  ne_empty text h := by simp [inHex] at h
  ne_genesis text h := by
    have hfirst := congrArg (List.head? ∘ String.toList) h
    simp [inHex] at hfirst

instance neZero_sixty : NeZero (60 : ℕ) := ⟨by decide⟩

def strategyUpdated (second : Fin 60) : AuditFields where
  eventType := "STRATEGY_UPDATED"
  entityType := "StrategyConfig"
  entityId := ⟨"7d444840-9dc0-11d1-b245-5ffdce74fad2", by decide⟩
  userId := none
  timestamp := ⟨2026, 0, 4, 12, 30, second, 0⟩
  beforeState := none
  afterState := none
  metadata := none

def firstId : Uuid := ⟨"a0eebc99-9c0b-4ef8-bb6d-6bb9bd380a11", by decide⟩
def secondId : Uuid := ⟨"b1eebc99-9c0b-4ef8-bb6d-6bb9bd380a12", by decide⟩
def otherId : Uuid := ⟨"c2eebc99-9c0b-4ef8-bb6d-6bb9bd380a13", by decide⟩

def linkedEntry (fields : AuditFields) (id : Uuid) (previousHash : Option String) : AuditLog :=
  let entry := savedLog inHex fields id
  { entry with chainHash := some (generateChainHash inHex entry previousHash) }

theorem linkedEntry_valid (fields : AuditFields) (id : Uuid) (previous : Option AuditLog) :
    let entry := linkedEntry fields id (previous.bind (·.chainHash))
    verifyChainIntegrity inHex entry previous = true ∧ verifyAuditIntegrity inHex entry = true := by
  refine ⟨(verifyChainIntegrity_iff _ _).2 fun hash hmem => ?_, decide_eq_true rfl⟩
  exact Option.some.inj ((truthyHash_digest inHex_collisionFree _).symm.trans hmem)

theorem linkedEntry_hasChainHash (fields : AuditFields) (id : Uuid) (hash : Option String) :
    (linkedEntry fields id hash).HasChainHash := by
  have h := truthyHash_digest inHex_collisionFree
  simp [AuditLog.HasChainHash, linkedEntry, generateChainHash, generateSHA256Hash, h]

def firstLinked : AuditLog := linkedEntry (strategyUpdated 1) firstId none
def secondLinked : AuditLog := linkedEntry (strategyUpdated 2) secondId firstLinked.chainHash

theorem linkedTwo_valid : (verifyAuditChain inHex [firstLinked, secondLinked]).valid = true := by
  have hfirst := linkedEntry_valid (strategyUpdated 1) firstId none
  have hsec := linkedEntry_valid (strategyUpdated 2) secondId (some firstLinked)
  exact (valid_iff _).2 ⟨List.forall_mem_cons.2 ⟨hfirst.1, List.forall_mem_singleton.2 hsec.1⟩,
    List.forall_mem_cons.2 ⟨hfirst.2, List.forall_mem_singleton.2 hsec.2⟩⟩

theorem tampering_detected_two :
    (verifyAuditChain inHex [secondLinked, firstLinked]).valid = false := by
  have hids : ([firstLinked, secondLinked].map (·.id)).Nodup :=
    List.nodup_cons.2 ⟨by decide, List.nodup_singleton _⟩
  have hall : ∀ entry ∈ [firstLinked, secondLinked], entry.HasChainHash :=
    List.forall_mem_cons.2 ⟨linkedEntry_hasChainHash _ _ _, List.forall_mem_singleton.2
      (linkedEntry_hasChainHash _ _ _)⟩
  exact ((tampering_detected inHex_collisionFree linkedTwo_valid hids).2.2 hall).2
    [] firstLinked [] secondLinked [] rfl

theorem legacy_undetected :
    CollisionFree inHex ∧
      let first := savedLog inHex (strategyUpdated 1) firstId
      let second := savedLog inHex (strategyUpdated 2) secondId
      (verifyAuditChain inHex [first, second]).valid = true ∧
      (verifyAuditChain inHex [second]).valid = true ∧
      (verifyAuditChain inHex [second, first]).valid = true ∧
      (verifyAuditChain inHex [first, { second with id := otherId }]).valid = true := by
  have hlegacy : ∀ second id, ¬ (savedLog inHex (strategyUpdated second) id).HasChainHash ∧
      verifyAuditIntegrity inHex (savedLog inHex (strategyUpdated second) id) = true :=
    fun second id => ⟨fun h => h rfl, decide_eq_true rfl⟩
  refine ⟨inHex_collisionFree, legacyEntries_valid [_, _] ?_, legacyEntries_valid [_] ?_,
    legacyEntries_valid [_, _] ?_, legacyEntries_valid [_, savedLog inHex (strategyUpdated 2) otherId] ?_⟩
  all_goals simp [hlegacy]

end Chansey.Audit
