import CocoonSit.Tags.StorageWrites

/-!
# Rounds, jobs and cleanups on the two copies of tags

Memory operations, compactions, reorganisations, rollbacks and cleanups keep the tables in order and
the copies in agreement.  What they draw keys for must not be there already.
-/

namespace CocoonSit

open Table Mirror

namespace TagStorage

variable {db db' : Db} {target : Target} {owner newTagId : RowId} {now : Timestamp}

/-! ## Memory operations -/

lemma nodup_resolveMemoryOpTags (text : TextFunctions) (ctx : MemoryContext)
    (op : MemoryOperation) : (resolveMemoryOpTags text ctx op).Nodup := by
  unfold resolveMemoryOpTags
  refine List.foldlRecOn op.tags _ List.nodup_nil fun resolved hresolved tagRef _ => ?_
  dsimp only
  split
  · next hnew => exact hresolved.append (List.nodup_singleton _) (by simpa using hnew.2)
  · exact hresolved

lemma nodup_memoryOpTags (text : TextFunctions) {ctx : MemoryContext}
    (hactive : ctx.activeTags.Nodup) (op : MemoryOperation) :
    (memoryOpTags text ctx op).Nodup := by
  unfold memoryOpTags
  dsimp only
  split
  · exact hactive
  · exact nodup_resolveMemoryOpTags text ctx op

lemma memoryKept_setMemoryStatus (ho : InOrder db) (status : String) (id : String)
    (memoryId : RowId) : MemoryKept db (setMemoryStatus status db id) memoryId := by
  refine memoryKept_map ho (fun m => ?_) (fun m => ?_) memoryId
  · split <;> rfl
  · split <;> rfl

lemma memoryKept_setMemoryStatuses (ho : InOrder db) (status : String) (ids : List String)
    (memoryId : RowId) : MemoryKept db (ids.foldl (setMemoryStatus status) db) memoryId := by
  induction ids generalizing db with
  | nil => exact .refl ho memoryId
  | cons id ids ih =>
    have hone := memoryKept_setMemoryStatus ho status id memoryId
    exact hone.trans (ih hone.inOrder)

lemma sign_tagsJson (ctx : MemoryContext) (op : MemoryOperation) (memory : MemoryChunk) :
    (op.sign ctx memory).tagsJson = memory.tagsJson := rfl

section MemoryOps

variable (text : TextFunctions) {ctx : MemoryContext} (op : MemoryOperation) {keys : MemoryKeys}

lemma memoryKept_persistMemory (ho : InOrder db) (hactive : ctx.activeTags.Nodup)
    (hnew : keys.memoryId ∉ db.memories.map key) :
    MemoryKept db (persistMemory text ctx db op keys) keys.memoryId := by
  have hnodup := nodup_memoryOpTags text hactive op
  unfold persistMemory
  split
  · next memory hupdated =>
    have hmem : memory ∈ db.memories := by
      unfold updatedMemory at hupdated
      obtain ⟨-, hbind⟩ := Option.ite_none_right_eq_some.mp hupdated
      obtain ⟨id, -, hget⟩ := Option.bind_eq_some_iff.mp hbind
      exact mem_of_get hget
    have hid : ∀ m : MemoryChunk, m.id = memory.id →
        (op.sign ctx (op.update text ctx m)).id = memory.id := by
      intro m hm
      rw [MemoryOperation.sign_id, MemoryOperation.update_id, hm]
    have htags : ∀ m, (op.sign ctx (op.update text ctx m)).tagsJson =
        memoryOpTags text ctx op := by
      intro m
      rw [sign_tagsJson, MemoryOperation.update]
    generalize memoryOpTags text ctx op = tags at hnodup htags ⊢
    exact memoryKept_retag ho hmem hid (fun m _ => htags m) hnodup keys.memoryId
  · have hid : (op.toMemory text ctx (resolveMemoryOwnerUserId db ctx) keys.memoryId).id =
        keys.memoryId := by rw [MemoryOperation.toMemory]
    have htags : (op.toMemory text ctx (resolveMemoryOwnerUserId db ctx) keys.memoryId).tagsJson =
        memoryOpTags text ctx op := by rw [MemoryOperation.toMemory]
    dsimp only
    generalize op.toMemory text ctx (resolveMemoryOwnerUserId db ctx) keys.memoryId = memory
      at hid htags ⊢
    have hinsert := memoryKept_insert ho (op.sign ctx memory)
      (by rw [MemoryOperation.sign_id, hid]; exact hnew)
      (by rw [sign_tagsJson, htags]; exact hnodup)
    rw [sign_tagsJson, htags, MemoryOperation.sign_id, hid] at hinsert
    rw [hid]
    exact hinsert

lemma memoryKept_persistMemoryOp (ho : InOrder db) (hactive : ctx.activeTags.Nodup)
    (hnew : keys.memoryId ∉ db.memories.map key) :
    MemoryKept db (persistMemoryOp text ctx now db op keys) keys.memoryId := by
  unfold persistMemoryOp
  split
  · -- archived memories keep their tags
    cases op.target? with
    | none => exact memoryKept_setMemoryStatuses ho "archived" op.supersedesMemoryIds keys.memoryId
    | some id =>
      have hone := memoryKept_setMemoryStatus ho "archived" id keys.memoryId
      exact hone.trans (memoryKept_setMemoryStatuses hone.inOrder "archived"
        op.supersedesMemoryIds keys.memoryId)
  · split
    · exact .refl ho keys.memoryId
    · split
      · exact memoryKept_candidate ho ctx.event.target
          (op.toCandidate text ctx (resolveMemoryOwnerUserId db ctx) keys.candidateId now)
          (nodup_memoryOpTags text hactive op) ctx.candidatePromoteHits "candidate_promotion" hnew
      · have hmemory := memoryKept_persistMemory text op ho hactive hnew
        exact hmemory.trans (memoryKept_setMemoryStatuses hmemory.inOrder "contradicted"
          op.supersedesMemoryIds keys.memoryId)

end MemoryOps

/-- The keys of the memories that the operations may insert. -/
def opMemoryIds {α : Type} (keys : ℕ → MemoryKeys) (ops : List α) : List RowId :=
  ops.zipIdx.map fun op => (keys op.2).memoryId

lemma kept_persistMemoryOps (ho : InOrder db) (text : TextFunctions) {ctx : MemoryContext}
    (hactive : ctx.activeTags.Nodup) {keys : ℕ → MemoryKeys} {ops : List MemoryOperation}
    (hfresh : FreshKeys (opMemoryIds keys ops) (db.memories.map key)) :
    Kept db (persistMemoryOps text ctx now keys ops db) :=
  kept_loop db id _ (fun op : MemoryOperation × ℕ => (keys op.2).memoryId)
    (fun _ op ho' _ hnew => memoryKept_persistMemoryOp text op.1 ho' hactive hnew) ops.zipIdx db ho
    rfl hfresh

/-! ## Jobs -/

lemma memoryKept_storeItem (source : SummarySource) {ctx : SummaryContext}
    (item : CompactionMemoryItem) {keys : MemoryKeys} (ho : InOrder db)
    (howner : ctx.cocoon.ownerUserId ∈ tagOwners db)
    (hnew : keys.memoryId ∉ db.memories.map key) :
    MemoryKept db (storeItem source ctx db item keys).1 keys.memoryId := by
  unfold storeItem
  split
  · exact .refl ho keys.memoryId
  · have howners : ∀ o ∈ some ctx.cocoon.ownerUserId, o ∈ tagOwners db :=
      fun o h => Option.some.inj h ▸ howner
    obtain ⟨hset, htags⟩ := settled_canonicalizeTagRefs ho.registry howners
      (ctx.defaultTagId :: item.resolvedTags ctx.catalog) true ctx.newTagId
    dsimp only
    generalize canonicalizeTagRefs db (ctx.defaultTagId :: item.resolvedTags ctx.catalog) true
      (some ctx.cocoon.ownerUserId) ctx.newTagId = r at hset htags
    have hkept := hset.memoryKept ho keys.memoryId
    have hnew₁ : keys.memoryId ∉ r.1.memories.map key := hset.memories ▸ hnew
    split
    · have hcandidate := memoryKept_candidate hkept.inOrder (.cocoon ctx.cocoon.id)
        (item.toCandidate source ctx r.2 keys.candidateId) htags.nodup
        ctx.candidatePromoteHits source.promotionKind hnew₁
      refine hkept.trans ?_
      split
      · next hpromote => rwa [if_pos hpromote] at hcandidate
      · next hpromote => rwa [if_neg hpromote] at hcandidate
    · exact hkept.trans (memoryKept_insert hkept.inOrder
        (item.toMemory source ctx r.2 keys.memoryId) hnew₁ htags.nodup)

lemma kept_storeItems (source : SummarySource) {ctx : SummaryContext} {keys : ℕ → MemoryKeys}
    {items : List CompactionMemoryItem} (ho : InOrder db)
    (howner : ctx.cocoon.ownerUserId ∈ tagOwners db)
    (hfresh : FreshKeys (opMemoryIds keys items) (db.memories.map key)) :
    Kept db (storeItems source ctx keys db items).1 := by
  refine kept_loop db Prod.fst (storeNext source ctx keys)
    (fun item : CompactionMemoryItem × ℕ => (keys item.2).memoryId)
    (fun stored item ho' howners hnew => ?_) items.zipIdx (db, []) ho rfl hfresh
  rw [storeNext_fst]
  exact memoryKept_storeItem source item.1 ho' (howners ▸ howner) hnew

lemma mem_tagOwners_of_cocoon {id : RowId} {cocoon : Cocoon} (h : get db.cocoons id = some cocoon) :
    cocoon.ownerUserId ∈ tagOwners db := by
  have howner : resolveTagOwnerUserIdForTarget db (.cocoon id) = some cocoon.ownerUserId := by
    rw [resolveTagOwnerUserIdForTarget, h, Option.map_some]
  exact owner_mem_tagOwners howner

lemma settled_updateCocoons (db : Db) {f : Cocoon → Cocoon} (hid : ∀ c, (f c).id = c.id)
    (hf : ∀ c, (f c).ownerUserId = c.ownerUserId) (id : RowId) :
    Settled db { db with cocoons := update db.cocoons id f } := by
  have howners : (update db.cocoons id f).map Cocoon.ownerUserId =
      db.cocoons.map Cocoon.ownerUserId := by
    rw [update, List.map_map]
    refine List.map_congr_left fun c _ => ?_
    rw [Function.comp_apply]
    split
    · exact hf c
    · rfl
  refine ⟨rfl, rfl, rfl, rfl, rfl, by rw [tagOwners, howners, tagOwners], fun t => ?_, rfl,
    fun s hs => .inl ⟨s, hs, rfl⟩, fun _ hb => .inl hb⟩
  cases t with
  | chatGroup id => rfl
  | cocoon id' =>
    simp only [resolveTagOwnerUserIdForTarget, get_update (f := f) hid, Option.map_map]
    refine Option.map_congr fun c _ => ?_
    rw [Function.comp_apply]
    split
    · exact hf c
    · rfl

lemma kept_storeItems_of_settled (source : SummarySource) (ctx : SummaryContext)
    (newTagId : RowId) {keys : ℕ → MemoryKeys} {items : List CompactionMemoryItem} (ho : InOrder db)
    (hset : Settled db db') (howner : ctx.cocoon.ownerUserId ∈ tagOwners db)
    (hfresh : FreshKeys (opMemoryIds keys items) (db.memories.map key)) :
    Kept db (storeItems source ctx keys
      (ensureUserSystemTag db' ctx.cocoon.ownerUserId newTagId).1 items).1 := by
  have hdefault := (settled_ensureUserSystemTag (hset.registry ho.registry)
    (hset.owners ▸ howner) newTagId).1
  have h := hset.trans hdefault
  exact (h.kept ho).trans
    (kept_storeItems source (h.inOrder ho) (h.owners ▸ howner) (h.memories ▸ hfresh))

lemma storeCompaction_stores (hreg : RegistryInOrder db) (cocoon : Cocoon)
    (selected : List Message) (output : CompactionOutput) (env : JobEnv) :
    ∃ source ctx db₁, Settled db db₁ ∧ ctx.cocoon = cocoon ∧
      (storeCompaction db cocoon selected output env).1 = (storeItems source ctx env.memoryKeys
        (ensureUserSystemTag db₁ ctx.cocoon.ownerUserId env.newTagId).1
        output.longTermMemories).1 := by
  have hstate := settled_ensureSessionState hreg (.cocoon cocoon.id) env.newTagId env.now
  unfold storeCompaction
  dsimp only
  generalize ensureSessionState db (.cocoon cocoon.id) env.newTagId env.now = r at hstate
  have hcatalog := hstate.trans (settled_serializePromptTagCatalog (hstate.registry hreg)
    (.cocoon cocoon.id) env.newTagId env.now)
  generalize serializePromptTagCatalog r.1 (.cocoon cocoon.id) env.newTagId env.now = r' at hcatalog
  exact ⟨_, _, r'.1, hcatalog, rfl, rfl⟩

lemma executeCompaction_stores (hreg : RegistryInOrder db) {cocoonId : RowId}
    {before : Option RowId} {output : CompactionOutput} {env : JobEnv}
    (h : executeCompaction db cocoonId before output env = some db') :
    Settled db db' ∨ ∃ source ctx db₁, Settled db db₁ ∧ ctx.cocoon.ownerUserId ∈ tagOwners db ∧
      Settled (storeItems source ctx env.memoryKeys
        (ensureUserSystemTag db₁ ctx.cocoon.ownerUserId env.newTagId).1
        output.longTermMemories).1 db' := by
  obtain ⟨cocoon, hget, rfl⟩ := Option.map_eq_some_iff.mp h
  have howner := mem_tagOwners_of_cocoon hget
  dsimp only
  have h₀ : Settled db (startRun db (some (.cocoon cocoonId)) "compaction" env.runId) :=
    settled_of_frame rfl
  generalize startRun db (some (.cocoon cocoonId)) "compaction" env.runId = db₀ at h₀ ⊢
  generalize compactionSelection db₀ cocoon before = selection
  obtain ⟨selected, retainedStart⟩ := selection
  dsimp only
  split
  · exact .inl (h₀.trans (settled_of_frame rfl))
  · obtain ⟨source, ctx, db₁, hset, rfl, hstored⟩ :=
      storeCompaction_stores (h₀.registry hreg) cocoon selected output env
    generalize storeCompaction db₀ ctx.cocoon selected output env = r at hstored
    refine .inr ⟨source, ctx, db₁, h₀.trans hset, howner, ?_⟩
    rw [← hstored]
    have hmoved : ∀ id, Settled r.1 (setContextStart r.1 cocoonId id) := fun id =>
      settled_updateCocoons r.1 (f := fun c => { c with contextStartMessageId := some id })
        (fun _ => rfl) (fun _ => rfl) cocoonId
    refine Settled.trans ?_ (settled_of_frame rfl)
    split
    · split
      · exact .refl _
      · exact hmoved _
    · exact .refl _

lemma executeReorganize_stores (hreg : RegistryInOrder db) (cocoonId : RowId)
    (memoryIds : List RowId) (instructions : Option String) (provider : SummaryProvider)
    (env : JobEnv) :
    Settled db (executeReorganize db cocoonId memoryIds instructions provider env).session ∨
      ∃ source ctx db₁ i ms ts output, provider i ms ts = some output ∧ Settled db db₁ ∧
        ctx.cocoon.ownerUserId ∈ tagOwners db ∧
        Settled (archiveMemories (storeItems source ctx env.memoryKeys
            (ensureUserSystemTag db₁ ctx.cocoon.ownerUserId env.newTagId).1
            output.longTermMemories).1 (reorganizedMemories db memoryIds))
          (executeReorganize db cocoonId memoryIds instructions provider env).session := by
  unfold executeReorganize
  split
  · exact .inl (.refl db)
  · next cocoon hget =>
    have howner := mem_tagOwners_of_cocoon hget
    dsimp only
    split
    · exact .inl (.refl db)
    · have h₀ :
          Settled db (startRun db (some (.cocoon cocoonId)) "memory_reorganize" env.runId) :=
        settled_of_frame rfl
      generalize startRun db (some (.cocoon cocoonId)) "memory_reorganize" env.runId = db₀ at h₀ ⊢
      have h₁ := h₀.trans (settled_serializePromptTagCatalog (h₀.registry hreg)
        (.cocoon cocoonId) env.newTagId env.now)
      generalize serializePromptTagCatalog db₀ (.cocoon cocoonId) env.newTagId env.now = r at h₁ ⊢
      split
      · exact .inl h₁
      · next output hanswer =>
        exact .inr ⟨_, _, r.1, _, _, _, output, hanswer, h₁, howner, settled_of_frame rfl⟩

lemma kept_executeCompaction (ho : InOrder db) {cocoonId : RowId} {before : Option RowId}
    {output : CompactionOutput} {env : JobEnv}
    (hfresh : FreshKeys (opMemoryIds env.memoryKeys output.longTermMemories)
      (db.memories.map key))
    (h : executeCompaction db cocoonId before output env = some db') : Kept db db' := by
  obtain hset | ⟨source, ctx, db₁, hset, howner, hend⟩ := executeCompaction_stores ho.registry h
  · exact hset.kept ho
  · have hstore := kept_storeItems_of_settled source ctx env.newTagId ho hset howner hfresh
    exact hstore.trans (hend.kept hstore.inOrder)

lemma memoryKept_archiveMemories (ho : InOrder db) (memories : List MemoryChunk)
    (memoryId : RowId) : MemoryKept db (archiveMemories db memories) memoryId := by
  refine memoryKept_map ho (fun m => ?_) (fun m => ?_) memoryId
  · split <;> rfl
  · split <;> rfl

lemma kept_executeReorganize (ho : InOrder db) {cocoonId : RowId} {memoryIds : List RowId}
    {instructions : Option String} {provider : SummaryProvider} {env : JobEnv}
    (hfresh : ∀ i ms ts output, provider i ms ts = some output →
      FreshKeys (opMemoryIds env.memoryKeys output.longTermMemories) (db.memories.map key)) :
    Kept db (executeReorganize db cocoonId memoryIds instructions provider env).session := by
  obtain hset | ⟨source, ctx, db₁, i, ms, ts, output, hanswer, hset, howner, hend⟩ :=
    executeReorganize_stores ho.registry cocoonId memoryIds instructions provider env
  · exact hset.kept ho
  · have hstore := kept_storeItems_of_settled source ctx env.newTagId ho hset howner
      (hfresh i ms ts output hanswer)
    have harchive := memoryKept_archiveMemories hstore.inOrder
      (reorganizedMemories db memoryIds) ""
    exact (hstore.trans harchive.toKept).trans (hend.kept harchive.inOrder)

/-! ## Cleanups and rollbacks -/

lemma mem_memoryIds_iff (ho : InOrder db) (messageIds : List RowId) {m : MemoryChunk}
    (hm : m ∈ db.memories) : m.id ∈ RoundCleanup.memoryIds db messageIds ↔
      RoundCleanup.removesMemory messageIds m = true := by
  rw [RoundCleanup.memoryIds, List.mem_map]
  constructor
  · rintro ⟨m', hm', hid⟩
    obtain ⟨hmem, hremoves⟩ := List.mem_filter.mp hm'
    have heq : m' = m := List.inj_on_of_nodup_map ho.memoryKeys hmem hm hid
    exact heq ▸ hremoves
  · exact fun h => ⟨m, List.mem_filter.mpr ⟨hm, h⟩, rfl⟩

lemma kept_removal (ho : InOrder db) (keepMessage : Message → Bool)
    (keepMemory : MemoryChunk → Bool) (keepMessageId keepMemoryId : RowId → Bool)
    (hmessage : ∀ m ∈ db.messages, keepMessage m = keepMessageId m.id)
    (hmemory : ∀ m ∈ db.memories, keepMemory m = keepMemoryId m.id) :
    Kept db { db with
      messages := db.messages.filter keepMessage
      messageTags := db.messageTags.filter fun r => keepMessageId r.messageId
      memories := db.memories.filter keepMemory
      memoryTags := db.memoryTags.filter fun r => keepMemoryId r.memoryChunkId } := by
  have hmessageArrays : ∀ m ∈ db.messages.filter keepMessage, m.tagsJson.Nodup :=
    fun m hm => ho.messageArrays m (List.mem_filter.mp hm).1
  have hmemoryArrays : ∀ m ∈ db.memories.filter keepMemory, m.tagsJson.Nodup :=
    fun m hm => ho.memoryArrays m (List.mem_filter.mp hm).1
  refine ⟨⟨?_, ?_, ?_, ?_, hmessageArrays, hmemoryArrays, ho.candidateArrays, ho.activeTags,
    ho.registry⟩, fun h => ⟨?_, ?_, hmessageArrays, hmemoryArrays⟩⟩
  · exact ho.messageKeys.sublist (List.filter_sublist.map key)
  · exact ho.memoryKeys.sublist (List.filter_sublist.map key)
  · exact ho.messageRows.keep hmessage
  · exact ho.memoryRows.keep hmemory
  · exact h.messages.keep hmessage
  · exact h.memories.keep hmemory

lemma kept_deleteMessageRelatedRows (ho : InOrder db) (messageIds : List RowId) :
    Kept db (RoundCleanup.deleteMessageRelatedRows db messageIds) := by
  have hremoval := kept_removal ho (fun m => decide (m.id ∉ messageIds))
    (fun m => !RoundCleanup.removesMemory messageIds m) (fun id => decide (id ∉ messageIds))
    (fun id => decide (id ∉ RoundCleanup.memoryIds db messageIds)) (fun _ _ => rfl) (fun m hm => ?_)
  · exact hremoval.trans ((settled_of_frame rfl).kept hremoval.inOrder)
  · have hiff := mem_memoryIds_iff ho messageIds hm
    by_cases h : RoundCleanup.removesMemory messageIds m = true
    · simp [h, hiff.mpr h]
    · simp [h, mt hiff.mp h]

lemma kept_updateStates (ho : InOrder db) {f : SessionState → SessionState}
    (hf : ∀ s, (f s).activeTagsJson.Nodup) (target : Target) :
    Kept db { db with sessionStates := update db.sessionStates target f } := by
  refine ⟨⟨ho.messageKeys, ho.memoryKeys, ho.messageRows, ho.memoryRows, ho.messageArrays,
    ho.memoryArrays, ho.candidateArrays, fun s hs => ?_, ho.registry⟩,
    fun h => ⟨h.messages, h.memories, h.messageArrays, h.memoryArrays⟩⟩
  rcases mem_update.mp hs with ⟨s₀, -, -, rfl⟩ | ⟨hs, -⟩
  · exact hf s₀
  · exact ho.activeTags s hs

lemma settled_moveToAnchor (db : Db) (request : RollbackRequest) :
    Settled db (moveToAnchor db request) := by
  have hcocoons := settled_updateCocoons db
    (f := fun c => { c with
      contextStartMessageId := some request.checkpoint.anchorMessageId
      rollbackAnchorMsgId := some request.checkpoint.anchorMessageId })
    (fun _ => rfl) (fun _ => rfl) request.checkpoint.cocoonId
  exact hcocoons.trans (settled_of_frame rfl)

lemma kept_rollBack (ho : InOrder db) {request : RollbackRequest} (env : JobEnv)
    (hanchor : request.anchor ∈ db.messages) : Kept db (rollBack db request env) := by
  have hdelete := kept_deleteMessageRelatedRows ho (laterMessageIds db request)
  unfold rollBack
  dsimp only
  generalize RoundCleanup.deleteMessageRelatedRows db (laterMessageIds db request) = db₁
    at hdelete ⊢
  have hmove := settled_moveToAnchor db₁ request
  have hmoved := hdelete.trans (hmove.kept hdelete.inOrder)
  generalize moveToAnchor db₁ request = db₂ at hmoved ⊢
  have hget := settled_getSessionState hmoved.inOrder.registry (.cocoon request.checkpoint.cocoonId)
    env.newTagId env.now
  have hrestored : Kept db (restoreState db₂ request env) := by
    unfold restoreState
    dsimp only
    generalize getSessionState db₂ (.cocoon request.checkpoint.cocoonId) env.newTagId env.now = r
      at hget
    have hlooked := hmoved.trans (hget.kept hmoved.inOrder)
    split
    · exact hlooked
    · exact hlooked.trans (kept_updateStates hlooked.inOrder
        (fun _ => ho.messageArrays request.anchor hanchor) _)
  exact hrestored.trans ((settled_of_frame rfl).kept hrestored.inOrder)

lemma kept_executeRollbackJob (ho : InOrder db) (checkpointId : RowId) (env : JobEnv) :
    Kept db (executeRollbackJob db checkpointId env).session := by
  unfold executeRollbackJob
  split
  · exact .refl ho
  · next checkpoint _ =>
    dsimp only
    have h₀ :
        Settled db (startRun db (some (.cocoon checkpoint.cocoonId)) "rollback" env.runId) :=
      settled_of_frame rfl
    generalize startRun db (some (.cocoon checkpoint.cocoonId)) "rollback" env.runId = db₀ at h₀ ⊢
    have hkept := h₀.kept ho
    split
    · exact hkept
    · next request hresolve =>
      simp only [resolveRollback, Option.bind_eq_bind, Option.bind_eq_some_iff] at hresolve
      obtain ⟨anchor, hanchor, cocoon, -, hrequest⟩ := hresolve
      cases hrequest
      exact hkept.trans (kept_rollBack hkept.inOrder env (mem_of_get hanchor))

end TagStorage

end CocoonSit
