import Chansey.Notification.Digest

/-!
# What a notification makes of a list

* **`digests_parseAndDedupe`**: the notification of a list is a digest of it.
-/

namespace Chansey

structure Digests (entries sent : List DigestEntry) : Prop where
  mem : ∀ entry ∈ sent, entry ∈ entries
  one : (sent.map (·.pipelineId)).Nodup
  all : ∀ before entry after, entries = before ++ entry :: after → entry ∈ sent ∨
    ∃ later ∈ sent, later.pipelineId = entry.pipelineId ∧
      (entry.atTime < later.atTime ∨ entry.atTime = later.atTime ∧ later ∈ after)

structure KeepsLatest (entries : List DigestEntry) (m : OrdMap String DigestEntry) : Prop where
  key : ∀ pipelineId entry, m.get? pipelineId = some entry →
    entry.pipelineId = pipelineId ∧ entry ∈ entries
  all : ∀ before entry after, entries = before ++ entry :: after →
    ∃ kept, m.get? entry.pipelineId = some kept ∧ (kept = entry ∨ entry.atTime < kept.atTime ∨
      entry.atTime = kept.atTime ∧ kept ∈ after)

theorem get?_keepLatest (m : OrdMap String DigestEntry) (parsed : DigestEntry)
    (pipelineId : String) :
    (keepLatest m parsed).get? pipelineId =
      if parsed.pipelineId = pipelineId ∧
          (m.get? parsed.pipelineId).all (·.atTime ≤ parsed.atTime) = true then some parsed
      else m.get? pipelineId := by
  unfold keepLatest
  by_cases hlater : (m.get? parsed.pipelineId).all (·.atTime ≤ parsed.atTime) = true
  · rw [if_pos hlater, OrdMap.get?_set]
    simp only [hlater, and_true]
  · rw [if_neg hlater, if_neg fun h => hlater h.2]

theorem KeepsLatest.append {entries : List DigestEntry} {m : OrdMap String DigestEntry}
    (h : KeepsLatest entries m) (parsed : DigestEntry) :
    KeepsLatest (entries ++ [parsed]) (keepLatest m parsed) := by
  refine ⟨fun pipelineId entry hget => ?_, fun before entry after hsplit => ?_⟩
  · rw [get?_keepLatest] at hget
    split_ifs at hget with hlater
    · cases hget
      exact ⟨hlater.1, List.mem_append_right _ (List.mem_singleton_self _)⟩
    · obtain ⟨hkey, hmem⟩ := h.key pipelineId entry hget
      exact ⟨hkey, List.mem_append_left _ hmem⟩
  · rcases List.eq_nil_or_concat after with rfl | ⟨after, last, rfl⟩
    · -- the event is the one that was read last
      obtain ⟨rfl, hlast⟩ := List.append_inj' hsplit rfl
      obtain rfl : parsed = entry := List.singleton_inj.mp hlast
      rw [get?_keepLatest]
      by_cases hlater : (m.get? parsed.pipelineId).all (·.atTime ≤ parsed.atTime) = true
      · exact ⟨parsed, if_pos ⟨rfl, hlater⟩, .inl rfl⟩
      · cases hget : m.get? parsed.pipelineId with
        | none => exact absurd (by rw [hget]; rfl) hlater
        | some kept =>
          rw [hget, Option.all_some, decide_eq_true_eq, not_le] at hlater
          refine ⟨kept, if_neg fun hle => ?_, .inr (.inl hlater)⟩
          exact absurd (decide_eq_true_eq.mp hle.2) (not_le.mpr hlater)
    · have hsplit' : entries ++ [parsed] = (before ++ entry :: after) ++ [last] := by
        rw [hsplit]
        simp
      obtain ⟨rfl, hlast⟩ := List.append_inj' hsplit' rfl
      obtain rfl : parsed = last := List.singleton_inj.mp hlast
      obtain ⟨kept, hkept, hcase⟩ := h.all before entry after rfl
      rw [get?_keepLatest]
      by_cases hrepl : parsed.pipelineId = entry.pipelineId ∧
          (m.get? parsed.pipelineId).all (·.atTime ≤ parsed.atTime) = true
      · refine ⟨parsed, if_pos hrepl, ?_⟩
        have hle : kept.atTime ≤ parsed.atTime := by
          have hall := hrepl.2
          rw [hrepl.1, hkept, Option.all_some] at hall
          exact decide_eq_true_eq.mp hall
        have hentry : entry.atTime ≤ kept.atTime := by
          rcases hcase with rfl | hlt | ⟨heq, -⟩
          · exact le_rfl
          · exact hlt.le
          · exact heq.le
        rcases (hentry.trans hle).lt_or_eq with hlt | heq
        · exact .inr (.inl hlt)
        · exact .inr (.inr ⟨heq, by simp⟩)
      · refine ⟨kept, (if_neg hrepl).trans hkept, ?_⟩
        rcases hcase with rfl | hlt | ⟨heq, hmem⟩
        · exact .inl rfl
        · exact .inr (.inl hlt)
        · exact .inr (.inr ⟨heq, by simp [hmem]⟩)

theorem keepsLatest_foldl (entries : List DigestEntry) :
    KeepsLatest entries (entries.foldl keepLatest OrdMap.empty) := by
  induction entries using List.reverseRecOn with
  | nil =>
    constructor
    · intro pipelineId entry hget
      cases hget
    · intro before entry after hsplit
      exact absurd hsplit.symm (by simp)
  | append_singleton entries parsed ih =>
    rw [List.foldl_append]
    exact ih.append parsed

theorem digests_parseAndDedupe (entries : List DigestEntry) :
    Digests entries (parseAndDedupe entries) := by
  have h := keepsLatest_foldl entries
  unfold parseAndDedupe
  generalize entries.foldl keepLatest OrdMap.empty = m at h
  have hmem : ∀ entry, entry ∈ m.entries.map Prod.snd ↔ m.get? entry.pipelineId = some entry := by
    intro entry
    rw [List.mem_map]
    constructor
    · rintro ⟨⟨_, _⟩, hkept, rfl⟩
      have hget := OrdMap.get?_eq_some_iff.mpr hkept
      rw [(h.key _ _ hget).1]
      exact hget
    · intro hget
      exact ⟨_, OrdMap.get?_eq_some_iff.mp hget, rfl⟩
  refine ⟨fun entry hentry => (h.key _ _ ((hmem entry).mp hentry)).2, ?_,
    fun before entry after hsplit => ?_⟩
  · have hkeys : (m.entries.map Prod.snd).map (·.pipelineId) = m.entries.map Prod.fst := by
      rw [List.map_map]
      refine List.map_congr_left fun e he => ?_
      exact (h.key _ _ (OrdMap.get?_eq_some_iff.mpr he)).1
    rw [hkeys]
    exact m.nodup
  · obtain ⟨kept, hkept, hcase⟩ := h.all before entry after hsplit
    have hpipe := (h.key _ _ hkept).1
    have hsent : kept ∈ m.entries.map Prod.snd := (hmem kept).mpr (hpipe.symm ▸ hkept)
    rcases hcase with rfl | hlater
    · exact .inl hsent
    · exact .inr ⟨kept, hsent, hpipe, hlater⟩

end Chansey
