import CocoonSit.Dispatch.Enqueue
import CocoonSit.Jobs.Reorganize
import CocoonSit.Jobs.Rollback
import CocoonSit.Tags.Storage
import CocoonSit.Workspace.Memory

/-!
# Who writes the two copies of tags

Messages and memories come with their rows, a memory that gets new tags gets new rows, and rows go
with their message, their memory or their tag.  Each of these keeps the copies in agreement; the
services are put together from them and from steps that are settled.
-/

namespace CocoonSit

open Table Mirror

/-- `_persist_message`: a message of the round on this target. -/
def persistMessage (db : Db) (event : RuntimeEvent) (role : MessageRole) (content : String)
    (isThought : Bool) (retractionNote : Option String) (messageId : RowId) (now : Timestamp) :
    Db :=
  insertMessage db
    { id := messageId, target := event.target, actionId := some event.actionId, role := role
      content := content, isThought := isThought, retractionNote := retractionNote
      tagsJson := activeTags db event.target, createdAt := now }

namespace TagStorage

/-- The step keeps the tables in order, and the copies in agreement. -/
structure Kept (db db' : Db) : Prop where
  inOrder : InOrder db'
  agree : TagsAgree db → TagsAgree db'

variable {db db' : Db} {target : Target} {owner newTagId : RowId} {now : Timestamp}

lemma Kept.refl (ho : InOrder db) : Kept db db := ⟨ho, id⟩

lemma Kept.trans {db₁ db₂ : Db} (h₁ : Kept db db₁) (h₂ : Kept db₁ db₂) : Kept db db₂ :=
  ⟨h₂.inOrder, fun h => h₂.agree (h₁.agree h)⟩

lemma Settled.kept (h : Settled db db') (ho : InOrder db) : Kept db db' :=
  ⟨h.inOrder ho, h.tagsAgree_iff.mpr⟩

lemma settled_of_frame (h : db' = { db with
      actions := db'.actions, jobs := db'.jobs, wakeupTasks := db'.wakeupTasks
      checkpoints := db'.checkpoints, failedRounds := db'.failedRounds
      auditRuns := db'.auditRuns }) : Settled db db' := by
  rw [h]
  exact ⟨rfl, rfl, rfl, rfl, rfl, rfl, targetOwner_congr rfl rfl, rfl,
    fun s hs => .inl ⟨s, hs, rfl⟩, fun _ hb => .inl hb⟩

/-! ## Session states -/

lemma settled_updateStates {f : SessionState → SessionState}
    (hf : ∀ s, (f s).activeTagsJson = s.activeTagsJson) (target : Target) :
    Settled db { db with sessionStates := update db.sessionStates target f } := by
  refine settled_of_tagsOnly ⟨rfl⟩ rfl (fun s hs => ?_) fun _ hb => .inl hb
  rcases mem_update.mp hs with ⟨s₀, hs₀, -, rfl⟩ | ⟨hs, -⟩
  · exact .inl ⟨s₀, hs₀, hf s₀⟩
  · exact .inl ⟨s, hs, rfl⟩

lemma settled_setPointer (target : Target) (pointer : Option RowId) :
    Settled db (setPointer db target pointer) :=
  settled_updateStates (f := fun s => { s with currentWakeupTaskId := pointer }) (fun _ => rfl)
    target

lemma settled_syncCurrentWakeupTaskId (hreg : RegistryInOrder db) (target : Target)
    (newTagId : RowId) (now : Timestamp) :
    Settled db (syncCurrentWakeupTaskId db target newTagId now) := by
  have hget := settled_getSessionState hreg target newTagId now
  unfold syncCurrentWakeupTaskId
  split
  · next heq => rwa [heq] at hget
  · next heq =>
    rw [heq] at hget
    exact hget.trans (settled_setPointer target _)

lemma settled_cancelWakeupTasks (hreg : RegistryInOrder db) (target : Target) (req : CancelRequest)
    (newTagId : RowId) (now : Timestamp) :
    Settled db (cancelWakeupTasks db target req newTagId now).1 := by
  have hloop : ∀ tasks : List WakeupTask,
      Settled db (tasks.foldl (cancelWakeupTask req.cancelledReason now) db) := by
    intro tasks
    induction tasks using List.reverseRecOn with
    | nil => exact .refl db
    | append_singleton tasks t ih =>
      rw [List.foldl_append]
      exact ih.trans (settled_of_frame rfl)
  have hcancel := hloop (tasksToCancel db.wakeupTasks target req)
  exact hcancel.trans
    (settled_syncCurrentWakeupTaskId (hcancel.registry hreg) target newTagId now)

lemma settled_prepareTarget (hreg : RegistryInOrder db) (target : Target) (newTagId : RowId)
    (now : Timestamp) : Settled db (prepareTarget db target newTagId now) := by
  have hstate := settled_ensureSessionState hreg target newTagId now
  exact hstate.trans (settled_cancelWakeupTasks (hstate.registry hreg) target _ newTagId now)

/-! ## Messages -/

lemma InOrder.nodup_activeTags (ho : InOrder db) (target : Target) :
    (CocoonSit.activeTags db target).Nodup := by
  unfold CocoonSit.activeTags
  cases hget : get db.sessionStates target with
  | none => exact List.nodup_nil
  | some s => exact ho.activeTags s (mem_of_get hget)

lemma kept_insertMessage (ho : InOrder db) (message : Message)
    (hnew : message.id ∉ db.messages.map key) (hnodup : message.tagsJson.Nodup) :
    Kept db (insertMessage db message) := by
  have hrows : RowsFor messageLayout message.id message.tagsJson
      (message.tagsJson.map fun tag => (⟨message.id, tag⟩ : MessageTag)) := by
    refine ⟨List.forall_mem_map.mpr fun _ _ => rfl, ?_⟩
    rw [List.map_map]
    exact List.map_id _
  have harrays : ∀ m ∈ db.messages ++ [message], m.tagsJson.Nodup := by
    intro m hm
    rcases List.mem_append.mp hm with hm | hm
    · exact ho.messageArrays m hm
    · rw [List.mem_singleton.mp hm]
      exact hnodup
  refine ⟨⟨?_, ho.memoryKeys, ?_, ho.memoryRows, harrays, ho.memoryArrays, ho.candidateArrays,
    ho.activeTags, ho.registry⟩, fun h => ⟨?_, h.memories, harrays, h.memoryArrays⟩⟩
  · show ((db.messages ++ [message]).map key).Nodup
    rw [List.map_append, List.map_singleton, ← List.concat_eq_append]
    exact ho.messageKeys.concat hnew
  · exact Attached.insert (i := message) ho.messageRows hrows
  · exact h.messages.insert ho.messageRows hnew hnodup hrows

lemma kept_persistMessage (ho : InOrder db) {event : RuntimeEvent} {role : MessageRole}
    {content : String} {isThought : Bool} {retractionNote : Option String} {messageId : RowId}
    (hnew : messageId ∉ db.messages.map key) :
    Kept db (persistMessage db event role content isThought retractionNote messageId now) :=
  kept_insertMessage ho _ hnew (ho.nodup_activeTags event.target)

lemma kept_enqueueChat (ho : InOrder db) {svc : MessageDispatchService} {sub : ChatSubmission}
    {keys : NewKeys} (hnew : keys.messageId ∉ db.messages.map key) {r : Db × ActionDispatch}
    (h : svc.enqueueChat db target sub keys now = .ok r) : Kept db r.1 := by
  have hcommit : ∀ pending, Kept db (svc.commitChat db target pending sub keys now).1 := by
    intro pending
    have hset := settled_prepareTarget ho.registry target keys.tagId now
    have ho₁ := hset.inOrder ho
    have hmessage := kept_insertMessage ho₁
      (svc.chatMessage db target pending sub keys now) (hset.messages ▸ hnew)
      (ho₁.nodup_activeTags target)
    obtain ⟨actions, hactions⟩ := commitChat_frame svc db target pending sub keys now
    rw [hactions]
    exact ((hset.kept ho).trans hmessage).trans
      ((settled_of_frame rfl).kept hmessage.inOrder)
  unfold MessageDispatchService.enqueueChat at h
  split at h
  · cases h
  · cases h
    exact .refl ho
  · split at h
    · cases h
    · cases h
      exact hcommit _

/-! ## Memories -/

/-- A step that inserts at most the memory with this key. -/
structure MemoryKept (db db' : Db) (memoryId : RowId) : Prop extends Kept db db' where
  keys : ∀ k ∈ db'.memories.map key, k ∈ db.memories.map key ∨ k = memoryId
  owners : tagOwners db' = tagOwners db

lemma MemoryKept.refl (ho : InOrder db) (memoryId : RowId) : MemoryKept db db memoryId :=
  ⟨.refl ho, fun _ hk => .inl hk, rfl⟩

lemma MemoryKept.trans {db₁ db₂ : Db} {memoryId : RowId} (h₁ : MemoryKept db db₁ memoryId)
    (h₂ : MemoryKept db₁ db₂ memoryId) : MemoryKept db db₂ memoryId :=
  ⟨h₁.toKept.trans h₂.toKept, fun k hk => (h₂.keys k hk).elim (h₁.keys k) .inr,
    h₂.owners.trans h₁.owners⟩

lemma Settled.memoryKept (h : Settled db db') (ho : InOrder db) (memoryId : RowId) :
    MemoryKept db db' memoryId :=
  ⟨h.kept ho, fun _ hk => .inl (h.memories ▸ hk), h.owners⟩

lemma rowsFor_memory (memoryId : RowId) (tags : List String) :
    RowsFor memoryLayout memoryId tags
      (tags.map fun tag => (⟨memoryId, tag⟩ : MemoryTag)) := by
  refine ⟨List.forall_mem_map.mpr fun _ _ => rfl, ?_⟩
  rw [List.map_map]
  exact List.map_id _

lemma memoryKept_insert (ho : InOrder db) (memory : MemoryChunk)
    (hnew : memory.id ∉ db.memories.map key) (hnodup : memory.tagsJson.Nodup) :
    MemoryKept db
      (addMemoryTags { db with memories := db.memories ++ [memory] } memory.id memory.tagsJson)
      memory.id := by
  have hrows := rowsFor_memory memory.id memory.tagsJson
  have harrays : ∀ m ∈ db.memories ++ [memory], m.tagsJson.Nodup := by
    intro m hm
    rcases List.mem_append.mp hm with hm | hm
    · exact ho.memoryArrays m hm
    · rw [List.mem_singleton.mp hm]
      exact hnodup
  refine ⟨⟨⟨ho.messageKeys, ?_, ho.messageRows, ?_, ho.messageArrays, harrays, ho.candidateArrays,
    ho.activeTags, ho.registry⟩, fun h => ⟨h.messages, ?_, h.messageArrays, harrays⟩⟩, ?_, rfl⟩
  · show ((db.memories ++ [memory]).map key).Nodup
    rw [List.map_append, List.map_singleton, ← List.concat_eq_append]
    exact ho.memoryKeys.concat hnew
  · exact Attached.insert (i := memory) ho.memoryRows hrows
  · exact h.memories.insert ho.memoryRows hnew hnodup hrows
  · intro k hk
    have hk : k ∈ (db.memories ++ [memory]).map key := hk
    simpa using hk

lemma memoryKept_same (ho : InOrder db) {memories : List MemoryChunk}
    (hkeys : memories.map key = db.memories.map key)
    (hsame : ∀ m ∈ memories, ∃ m₀ ∈ db.memories, m₀.id = m.id ∧ m₀.tagsJson = m.tagsJson)
    (memoryId : RowId) : MemoryKept db { db with memories := memories } memoryId := by
  have harrays : ∀ m ∈ memories, m.tagsJson.Nodup := by
    intro m hm
    obtain ⟨m₀, hm₀, -, htags⟩ := hsame m hm
    exact htags ▸ ho.memoryArrays m₀ hm₀
  refine ⟨⟨⟨ho.messageKeys, hkeys ▸ ho.memoryKeys, ho.messageRows, ?_, ho.messageArrays, harrays,
    ho.candidateArrays, ho.activeTags, ho.registry⟩,
    fun h => ⟨h.messages, ?_, h.messageArrays, harrays⟩⟩, ?_, rfl⟩
  · exact ho.memoryRows.sublist hkeys (List.Sublist.refl _)
  · exact h.memories.of_same hsame fun _ _ => rfl
  · intro k hk
    exact .inl (hkeys ▸ hk)

lemma memoryKept_map (ho : InOrder db) {f : MemoryChunk → MemoryChunk}
    (hid : ∀ m, (f m).id = m.id) (htags : ∀ m, (f m).tagsJson = m.tagsJson) (memoryId : RowId) :
    MemoryKept db { db with memories := db.memories.map f } memoryId := by
  refine memoryKept_same ho ?_ (List.forall_mem_map.mpr fun m hm => ?_) memoryId
  · rw [List.map_map]
    exact List.map_congr_left fun m _ => hid m
  · exact ⟨m, hm, (hid m).symm, (htags m).symm⟩

lemma memoryKept_retag (ho : InOrder db) {memory : MemoryChunk} (hmem : memory ∈ db.memories)
    {f : MemoryChunk → MemoryChunk} {tags : List String}
    (hid : ∀ m, m.id = memory.id → (f m).id = memory.id)
    (htags : ∀ m, m.id = memory.id → (f m).tagsJson = tags) (hnodup : tags.Nodup)
    (memoryId : RowId) :
    MemoryKept db
      (addMemoryTags { db with
        memories := update db.memories memory.id f
        memoryTags := db.memoryTags.filter fun t => t.memoryChunkId ≠ memory.id } memory.id tags)
      memoryId := by
  have hkeys : (update db.memories memory.id f).map key = db.memories.map key :=
    map_key_update_of_key hid
  have hitems : ∀ m ∈ update db.memories memory.id f,
      m.id = memory.id ∧ m.tagsJson = tags ∨ m ∈ db.memories ∧ m.id ≠ memory.id := by
    intro m hm
    rcases mem_update.mp hm with ⟨m₀, -, hk, rfl⟩ | hold
    · exact .inl ⟨hid m₀ hk, htags m₀ hk⟩
    · exact .inr hold
  have harrays : ∀ m ∈ update db.memories memory.id f, m.tagsJson.Nodup := by
    intro m hm
    rcases hitems m hm with ⟨-, heq⟩ | ⟨hold, -⟩
    · exact heq ▸ hnodup
    · exact ho.memoryArrays m hold
  have hrows := rowsFor_memory memory.id tags
  refine ⟨⟨⟨ho.messageKeys, hkeys ▸ ho.memoryKeys, ho.messageRows, ?_, ho.messageArrays, harrays,
    ho.candidateArrays, ho.activeTags, ho.registry⟩,
    fun h => ⟨h.messages, ?_, h.messageArrays, harrays⟩⟩, ?_, rfl⟩
  · exact ho.memoryRows.replace (List.mem_map_of_mem hmem) hkeys hrows
  · exact h.memories.replace hnodup hitems hrows
  · intro k hk
    exact .inl (hkeys ▸ hk)

lemma memoryKept_candidates (ho : InOrder db) {candidates : List MemoryCandidate}
    (harrays : ∀ c ∈ candidates, c.tagsJson.Nodup) (memoryId : RowId) :
    MemoryKept db { db with memoryCandidates := candidates } memoryId :=
  ⟨⟨⟨ho.messageKeys, ho.memoryKeys, ho.messageRows, ho.memoryRows, ho.messageArrays,
    ho.memoryArrays, harrays, ho.activeTags, ho.registry⟩, fun h => ⟨h.1, h.2, h.3, h.4⟩⟩,
    fun _ hk => .inl hk, rfl⟩

lemma memoryKept_upsertCandidate (ho : InOrder db) (target : Target) {new : MemoryCandidate}
    (hnodup : new.tagsJson.Nodup) (memoryId : RowId) :
    MemoryKept db (upsertCandidate db target new).1 memoryId ∧
      (upsertCandidate db target new).2.tagsJson.Nodup := by
  have hhit : ∀ item : MemoryCandidate, item.tagsJson.Nodup → (item.hitBy new).tagsJson.Nodup := by
    intro item hitem
    unfold MemoryCandidate.hitBy
    dsimp only
    split
    · exact hitem
    · exact hnodup
  unfold upsertCandidate
  split
  · next item hfind =>
    refine ⟨memoryKept_candidates ho (fun c hc => ?_) memoryId,
      hhit item (ho.candidateArrays item (List.mem_of_find?_eq_some hfind))⟩
    rcases mem_update.mp hc with ⟨c₀, hc₀, -, rfl⟩ | ⟨hc, -⟩
    · exact hhit c₀ (ho.candidateArrays c₀ hc₀)
    · exact ho.candidateArrays c hc
  · refine ⟨memoryKept_candidates ho (fun c hc => ?_) memoryId, hnodup⟩
    rcases List.mem_append.mp hc with hc | hc
    · exact ho.candidateArrays c hc
    · rw [List.mem_singleton.mp hc]
      exact hnodup

lemma memoryKept_promote (ho : InOrder db) {candidate : MemoryCandidate}
    (hnodup : candidate.tagsJson.Nodup) (sourceKind : String) {memoryId : RowId}
    (hnew : memoryId ∉ db.memories.map key) :
    MemoryKept db (promoteCandidateToMemory db candidate sourceKind memoryId) memoryId := by
  have hinsert := memoryKept_insert ho (candidate.toMemory sourceKind memoryId) hnew hnodup
  refine hinsert.trans (memoryKept_candidates hinsert.inOrder (fun c hc => ?_) memoryId)
  exact ho.candidateArrays c (List.mem_filter.mp hc).1

lemma memoryKept_candidate (ho : InOrder db) (target : Target) (new : MemoryCandidate)
    (hnodup : new.tagsJson.Nodup) (promoteHits : ℤ) (sourceKind : String) {memoryId : RowId}
    (hnew : memoryId ∉ db.memories.map key) :
    MemoryKept db
      (if promoteHits ≤ (upsertCandidate db target new).2.hitCount then
        promoteCandidateToMemory (upsertCandidate db target new).1
          (upsertCandidate db target new).2 sourceKind memoryId
      else (upsertCandidate db target new).1) memoryId := by
  obtain ⟨hkept, hcandidate⟩ := memoryKept_upsertCandidate ho target hnodup memoryId
  have hmemories : (upsertCandidate db target new).1.memories = db.memories := by
    unfold upsertCandidate
    split <;> rfl
  split
  · exact hkept.trans
      (memoryKept_promote hkept.inOrder hcandidate sourceKind (hmemories ▸ hnew))
  · exact hkept

/-! ## Loops over memories -/

/-- Drawn keys that differ from each other and from those taken. -/
def FreshKeys (drawn taken : List RowId) : Prop := drawn.Nodup ∧ ∀ k ∈ drawn, k ∉ taken

instance (drawn taken : List RowId) : Decidable (FreshKeys drawn taken) :=
  inferInstanceAs (Decidable (_ ∧ _))

lemma kept_loop {σ α : Type} (db : Db) (view : σ → Db) (turn : σ → α → σ) (memoryId : α → RowId)
    (hturn : ∀ s x, InOrder (view s) → tagOwners (view s) = tagOwners db →
      memoryId x ∉ (view s).memories.map key →
        MemoryKept (view s) (view (turn s x)) (memoryId x)) (items : List α) :
    ∀ s, InOrder (view s) → tagOwners (view s) = tagOwners db →
      FreshKeys (items.map memoryId) ((view s).memories.map key) →
        Kept (view s) (view (items.foldl turn s)) := by
  induction items with
  | nil => exact fun s ho _ _ => .refl ho
  | cons x items ih =>
    intro s ho howners hfresh
    obtain ⟨hnodup, hnew⟩ := hfresh
    obtain ⟨hx, hnodup⟩ := List.nodup_cons.mp hnodup
    have hkept := hturn s x ho howners (hnew _ List.mem_cons_self)
    refine hkept.toKept.trans (ih (turn s x) hkept.inOrder (hkept.owners.trans howners)
      ⟨hnodup, fun k hk htaken => ?_⟩)
    rcases hkept.keys k htaken with hold | rfl
    · exact hnew k (List.mem_cons_of_mem _ hk) hold
    · exact hx hk

end TagStorage

end CocoonSit
