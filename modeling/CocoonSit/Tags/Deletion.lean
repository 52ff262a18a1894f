import CocoonSit.Tags.StorageRuns

/-!
# What is left of a deleted tag

A tag's id is copied into bindings, into the rows and arrays of messages and memories, into memory
candidates and into the active tags of session states.  `delete_tag` passes over the candidates, and
a memory operation stores the references of the model's answer that resolve to no tag as they are.
Apart from these two a deleted tag stays gone.
-/

namespace CocoonSit

open Table TransitionSystem

namespace TagStorage

/-- Nothing names the tag. -/
structure Gone (id : RowId) (db : Db) : Prop where
  registry : ¬ IsTag db id
  bindings : ∀ b ∈ db.tagBindings, b.tagId ≠ id
  messageRows : ∀ r ∈ db.messageTags, r.tagId ≠ id
  memoryRows : ∀ r ∈ db.memoryTags, r.tagId ≠ id
  messages : ∀ m ∈ db.messages, id ∉ m.tagsJson
  memories : ∀ m ∈ db.memories, id ∉ m.tagsJson
  candidates : ∀ c ∈ db.memoryCandidates, id ∉ c.tagsJson
  active : ∀ s ∈ db.sessionStates, id ∉ s.activeTagsJson

/-- The registry reads as before, and what named no tag of this id still names none. -/
structure Quiet (id : RowId) (db db' : Db) : Prop where
  labels : tagLabels db' = tagLabels db
  owners : tagOwners db' = tagOwners db
  gone : Gone id db → Gone id db'

variable {id : RowId} {db db' : Db} {target : Target} {now : Timestamp}

lemma Quiet.refl (id : RowId) (db : Db) : Quiet id db db := ⟨rfl, rfl, fun h => h⟩

lemma Quiet.trans {db₁ db₂ : Db} (h₁ : Quiet id db db₁) (h₂ : Quiet id db₁ db₂) :
    Quiet id db db₂ :=
  ⟨h₂.labels.trans h₁.labels, h₂.owners.trans h₁.owners, fun h => h₂.gone (h₁.gone h)⟩

lemma Quiet.registry (h : Quiet id db db') (hreg : RegistryInOrder db) : RegistryInOrder db' := by
  rw [RegistryInOrder, h.labels, h.owners]
  exact hreg

lemma TagList.notMem {tags : List RowId} (h : TagList db tags) (hid : ¬ IsTag db id) : id ∉ tags :=
  fun hmem => hid (h.isTag id hmem)

lemma Settled.quiet (h : Settled db db') (id : RowId) : Quiet id db db' := by
  refine ⟨h.labels, h.owners, fun hgone => ⟨?_, fun b hb => ?_, ?_, ?_, ?_, ?_, ?_,
    fun s hs => ?_⟩⟩
  · rw [isTag_congr h.labels]
    exact hgone.registry
  · rcases h.bound b hb with hb | htag
    · exact hgone.bindings b hb
    · exact fun heq => hgone.registry (heq ▸ htag)
  · exact h.messageTags ▸ hgone.messageRows
  · exact h.memoryTags ▸ hgone.memoryRows
  · exact h.messages ▸ hgone.messages
  · exact h.memories ▸ hgone.memories
  · exact h.candidates ▸ hgone.candidates
  · rcases h.active s hs with ⟨s₀, hs₀, heq⟩ | hlist
    · exact heq ▸ hgone.active s₀ hs₀
    · exact hlist.notMem hgone.registry

lemma quiet_foldl {σ α : Type} (view : σ → Db) (turn : σ → α → σ) (hreg : RegistryInOrder db)
    (items : List α)
    (hturn : ∀ s x, x ∈ items → RegistryInOrder (view s) → tagOwners (view s) = tagOwners db →
      Quiet id (view s) (view (turn s x))) :
    ∀ s, Quiet id db (view s) → Quiet id db (view (items.foldl turn s)) := by
  induction items with
  | nil => exact fun _ h => h
  | cons x items ih =>
    intro s h
    have hx := hturn s x List.mem_cons_self (h.registry hreg) h.owners
    exact ih (fun s y hy => hturn s y (List.mem_cons_of_mem x hy)) (turn s x) (h.trans hx)

/-! ## Deleting the tag -/

/-- The session states' owners' tags that the active references next to this id resolve to. -/
def scrubbedRefs (db : Db) (id : RowId) (state : SessionState) : List RowId :=
  resolveTagRefs db (resolveTagOwnerUserIdForTarget db state.target)
    (state.activeTagsJson.filter fun item => item ≠ id)

/-- No candidate has the id, and where it is active no reference next to it is the tag's name. -/
structure DeletesCleanly (db : Db) (id : RowId) : Prop where
  candidates : ∀ c ∈ db.memoryCandidates, id ∉ c.tagsJson
  active : ∀ s ∈ db.sessionStates, id ∈ s.activeTagsJson → id ∉ scrubbedRefs db id s

instance (db : Db) (id : RowId) : Decidable (DeletesCleanly db id) :=
  decidable_of_iff
    ((∀ c ∈ db.memoryCandidates, id ∉ c.tagsJson) ∧
      ∀ s ∈ db.sessionStates, id ∈ s.activeTagsJson → id ∉ scrubbedRefs db id s)
    ⟨fun h => ⟨h.1, h.2⟩, fun h => ⟨h.1, h.2⟩⟩

lemma resolveTagRefs_labels (h : tagLabels db' = tagLabels db) (owner : Option RowId)
    (refs : List String) : resolveTagRefs db' owner refs = resolveTagRefs db owner refs := by
  have hcollect : ∀ db : Db, resolveTagRefs db owner refs =
      Collect.collect (resolvedRef db owner) refs :=
    fun _ => resolveTagRefs_eq_collect owner refs
  rw [hcollect, hcollect, funext (resolvedRef_congr h owner)]

lemma notMem_canonicalizeTagRefs (hreg : RegistryInOrder db) {owner : Option RowId}
    (howner : ∀ o ∈ owner, o ∈ tagOwners db) {refs : List String} {newTagId : RowId}
    (hnot : ∀ t ∈ tagLabels db, t.id = id → t.isSystem = false)
    (hrefs : id ∉ resolveTagRefs db owner refs) :
    id ∉ (canonicalizeTagRefs db refs true owner newTagId).2 := by
  unfold canonicalizeTagRefs
  cases owner with
  | none => exact hrefs
  | some owner =>
    obtain ⟨tag, hfind, hmem, hsys⟩ := findSystemTag_of_owner hreg (howner owner rfl)
    dsimp only
    unfold ensureUserSystemTag
    rw [hfind]
    intro hin
    rcases List.mem_cons.mp hin with rfl | hin
    · have hlabel := hnot (tagLabel tag) (List.mem_map_of_mem hmem) rfl
      exact absurd hsys (by simpa [tagLabel] using hlabel)
    · exact hrefs (List.mem_filter.mp hin).1

lemma scrubbed_loop (hreg : RegistryInOrder db)
    (hnot : ∀ t ∈ tagLabels db, t.id = id → t.isSystem = false) (draws : Target → RowId)
    (states : List SessionState)
    (hstates : ∀ s ∈ states, id ∈ s.activeTagsJson → id ∉ scrubbedRefs db id s) :
    ∀ db₁, Settled db db₁ →
      (∀ s ∈ db₁.sessionStates, id ∈ s.activeTagsJson → s ∈ states) →
      ∀ s ∈ (states.foldl (fun db s => scrubState db id s (draws s.target)) db₁).sessionStates,
        id ∉ s.activeTagsJson := by
  induction states with
  | nil => exact fun _ _ h s hs hid => absurd (h s hs hid) List.not_mem_nil
  | cons state states ih =>
    intro db₁ hset h
    have hreg₁ := hset.registry hreg
    refine ih (fun s hs => hstates s (List.mem_cons_of_mem state hs))
      (scrubState db₁ id state (draws state.target))
      (hset.trans (settled_scrubState hreg₁ id state _)) fun s hs hid => ?_
    unfold scrubState at hs
    split at hs
    · next hactive =>
      -- the state, and whatever else has its key, gets the canonical form
      rcases mem_update.mp hs with ⟨s₀, -, -, rfl⟩ | ⟨hs, hne⟩
      · have hrefs := hstates state List.mem_cons_self hactive
        rw [scrubbedRefs, ← hset.targetOwner, ← resolveTagRefs_labels hset.labels] at hrefs
        exact absurd hid (notMem_canonicalizeTagRefs hreg₁
          (fun _ ho => owner_mem_tagOwners ho) (hset.labels ▸ hnot) hrefs)
      · replace hs : s ∈ (canonicalizeTagRefs db₁ (state.activeTagsJson.filter (· ≠ id)) true
            (resolveTagOwnerUserIdForTarget db₁ state.target)
            (draws state.target)).1.sessionStates := hs
        rw [sessionStates_canonicalizeTagRefs] at hs
        refine (List.mem_cons.mp (h s hs hid)).resolve_left ?_
        rintro rfl
        exact hne rfl
    · next hactive =>
      refine (List.mem_cons.mp (h s hs hid)).resolve_left ?_
      rintro rfl
      exact hactive hid

lemma gone_deleteTag (ho : InOrder db) {userId : RowId} {tagRef : String}
    {draws : Target → RowId} {tag : TagRegistry}
    (h : deleteTag db userId tagRef draws = .ok (db', tag)) (hclean : DeletesCleanly db tag.id) :
    Gone tag.id db' := by
  unfold deleteTag at h
  split at h
  · cases h
  · next found hfound =>
    split at h
    · cases h
    · next hsys =>
      cases h
      have hkeys : (db.tags.map key).Nodup := by
        have hnodup := ho.registry.keys
        rw [tagLabels, List.map_map] at hnodup
        exact hnodup
      have hnot : ∀ t ∈ tagLabels db, t.id = tag.id → t.isSystem = false := by
        intro t ht hid
        obtain ⟨t₀, ht₀, rfl⟩ := List.mem_map.mp ht
        have heq : t₀ = tag :=
          List.inj_on_of_nodup_map hkeys ht₀ (ActiveTags.requireCanonicalTag_ok hfound).1 hid
        rw [heq]
        simpa [isSystemTag, tagLabel] using hsys
      have hset : Settled db (db.sessionStates.foldl
          (fun db s => scrubState db tag.id s (draws s.target)) db) :=
        settled_foldl db.sessionStates ho.registry fun _ s _ hreg _ =>
          settled_scrubState hreg tag.id s (draws s.target)
      have hactive := scrubbed_loop ho.registry hnot draws db.sessionStates hclean.active db
        (.refl db) fun _ hs _ => hs
      rw [ActiveTags.foldl_scrubState_dropTagLinks]
      generalize db.sessionStates.foldl
        (fun db s => scrubState db tag.id s (draws s.target)) db = db₁ at hset hactive
      refine ⟨?_, fun b hb => ?_, fun r hr => ?_, fun r hr => ?_, ?_, ?_, ?_, hactive⟩
      · intro hin
        obtain ⟨t, ht, hid⟩ := List.mem_map.mp (isTag_iff.mp hin)
        have hne : t.id ≠ tag.id := by simpa using (List.mem_filter.mp ht).2
        exact hne hid
      · simpa using (List.mem_filter.mp hb).2
      · simpa using (List.mem_filter.mp hr).2
      · simpa using (List.mem_filter.mp hr).2
      · exact List.forall_mem_map.mpr fun m _ => by simp
      · exact List.forall_mem_map.mpr fun m _ => by simp
      · intro c hc
        exact hclean.candidates c (hset.candidates ▸ hc)

/-! ## Writes -/

lemma quiet_insertMessage {message : Message} (h : Gone id db → id ∉ message.tagsJson) :
    Quiet id db (insertMessage db message) := by
  refine ⟨rfl, rfl, fun hgone => ⟨hgone.registry, hgone.bindings, fun r hr => ?_,
    hgone.memoryRows, fun m hm => ?_, hgone.memories, hgone.candidates, hgone.active⟩⟩
  · rcases List.mem_append.mp hr with hr | hr
    · exact hgone.messageRows r hr
    · obtain ⟨tag, htag, rfl⟩ := List.mem_map.mp hr
      rintro rfl
      exact h hgone htag
  · rcases List.mem_append.mp hm with hm | hm
    · exact hgone.messages m hm
    · rw [List.mem_singleton.mp hm]
      exact h hgone

lemma quiet_memories {memories : List MemoryChunk} {rows : List MemoryTag}
    (hmemories : Gone id db → ∀ m ∈ memories, id ∉ m.tagsJson)
    (hrows : Gone id db → ∀ r ∈ rows, r.tagId ≠ id) :
    Quiet id db { db with memories := memories, memoryTags := rows } :=
  ⟨rfl, rfl, fun h => ⟨h.registry, h.bindings, h.messageRows, hrows h, h.messages, hmemories h,
    h.candidates, h.active⟩⟩

lemma quiet_candidates {candidates : List MemoryCandidate}
    (h : Gone id db → ∀ c ∈ candidates, id ∉ c.tagsJson) :
    Quiet id db { db with memoryCandidates := candidates } :=
  ⟨rfl, rfl, fun hgone => ⟨hgone.registry, hgone.bindings, hgone.messageRows, hgone.memoryRows,
    hgone.messages, hgone.memories, h hgone, hgone.active⟩⟩

lemma memoryRows_append {rows : List MemoryTag} {memoryId : RowId} {tags : List String}
    (hrows : ∀ r ∈ rows, r.tagId ≠ id) (htags : id ∉ tags) :
    ∀ r ∈ rows ++ tags.map fun tag => (⟨memoryId, tag⟩ : MemoryTag), r.tagId ≠ id := by
  intro r hr
  rcases List.mem_append.mp hr with hr | hr
  · exact hrows r hr
  · obtain ⟨tag, htag, rfl⟩ := List.mem_map.mp hr
    rintro rfl
    exact htags htag

lemma quiet_insertMemory (memory : MemoryChunk) {memoryId : RowId} {tags : List String}
    (hmemory : Gone id db → id ∉ memory.tagsJson) (htags : Gone id db → id ∉ tags) :
    Quiet id db
      (addMemoryTags { db with memories := db.memories ++ [memory] } memoryId tags) := by
  refine quiet_memories (fun h m hm => ?_) fun h => memoryRows_append h.memoryRows (htags h)
  rcases List.mem_append.mp hm with hm | hm
  · exact h.memories m hm
  · rw [List.mem_singleton.mp hm]
    exact hmemory h

lemma quiet_retag {memoryId : RowId} {f : MemoryChunk → MemoryChunk} {tags : List String}
    (hf : ∀ m, (f m).tagsJson = tags) (htags : Gone id db → id ∉ tags) :
    Quiet id db
      (addMemoryTags { db with
        memories := update db.memories memoryId f
        memoryTags := db.memoryTags.filter fun t => t.memoryChunkId ≠ memoryId }
        memoryId tags) := by
  refine quiet_memories (fun h m hm => ?_) fun h =>
    memoryRows_append (fun r hr => h.memoryRows r (List.mem_filter.mp hr).1) (htags h)
  rcases mem_update.mp hm with ⟨m₀, -, -, rfl⟩ | ⟨hm, -⟩
  · rw [hf]
    exact htags h
  · exact h.memories m hm

lemma quiet_mapMemories {f : MemoryChunk → MemoryChunk} (hf : ∀ m, (f m).tagsJson = m.tagsJson) :
    Quiet id db { db with memories := db.memories.map f } := by
  refine quiet_memories (fun h => List.forall_mem_map.mpr fun m hm => ?_) Gone.memoryRows
  rw [hf]
  exact h.memories m hm

lemma hitBy_notMem {item new : MemoryCandidate} (hitem : id ∉ item.tagsJson)
    (hnew : id ∉ new.tagsJson) : id ∉ (item.hitBy new).tagsJson := by
  unfold MemoryCandidate.hitBy
  dsimp only
  split
  · exact hitem
  · exact hnew

variable (target) in
lemma quiet_upsertCandidate {new : MemoryCandidate} (hnew : Gone id db → id ∉ new.tagsJson) :
    Quiet id db (upsertCandidate db target new).1 ∧
      (Gone id db → id ∉ (upsertCandidate db target new).2.tagsJson) := by
  unfold upsertCandidate
  split
  · next item hfind =>
    have hitem := List.mem_of_find?_eq_some hfind
    refine ⟨quiet_candidates fun h c hc => ?_,
      fun h => hitBy_notMem (h.candidates item hitem) (hnew h)⟩
    rcases mem_update.mp hc with ⟨c₀, hc₀, -, rfl⟩ | ⟨hc, -⟩
    · exact hitBy_notMem (h.candidates c₀ hc₀) (hnew h)
    · exact h.candidates c hc
  · refine ⟨quiet_candidates fun h c hc => ?_, hnew⟩
    rcases List.mem_append.mp hc with hc | hc
    · exact h.candidates c hc
    · rw [List.mem_singleton.mp hc]
      exact hnew h

lemma quiet_candidate (target : Target) {new : MemoryCandidate}
    (hnew : Gone id db → id ∉ new.tagsJson)
    (promoteHits : ℤ) (sourceKind : String) (memoryId : RowId) :
    Quiet id db
      (if promoteHits ≤ (upsertCandidate db target new).2.hitCount then
        promoteCandidateToMemory (upsertCandidate db target new).1
          (upsertCandidate db target new).2 sourceKind memoryId
      else (upsertCandidate db target new).1) := by
  obtain ⟨hupsert, hcandidate⟩ := quiet_upsertCandidate target hnew
  generalize upsertCandidate db target new = r at hupsert hcandidate ⊢
  split
  · refine ⟨hupsert.labels, hupsert.owners, fun h => ?_⟩
    have htags := hcandidate h
    have hinsert : Quiet id r.1 (addMemoryTags
        { r.1 with memories := r.1.memories ++ [r.2.toMemory sourceKind memoryId] } memoryId
        r.2.tagsJson) := quiet_insertMemory _ (fun _ => htags) (fun _ => htags)
    have hdrop : Quiet id _ (promoteCandidateToMemory r.1 r.2 sourceKind memoryId) :=
      quiet_candidates fun h c hc => h.candidates c (List.mem_filter.mp hc).1
    exact (hinsert.trans hdrop).gone (hupsert.gone h)
  · exact hupsert

lemma quiet_removal {messages : List Message} {messageTags : List MessageTag}
    {memories : List MemoryChunk} {memoryTags : List MemoryTag}
    (hmessages : messages ⊆ db.messages) (hmessageTags : messageTags ⊆ db.messageTags)
    (hmemories : memories ⊆ db.memories) (hmemoryTags : memoryTags ⊆ db.memoryTags) :
    Quiet id db { db with
      messages := messages, messageTags := messageTags
      memories := memories, memoryTags := memoryTags } :=
  ⟨rfl, rfl, fun h => ⟨h.registry, h.bindings, fun r hr => h.messageRows r (hmessageTags hr),
    fun r hr => h.memoryRows r (hmemoryTags hr), fun m hm => h.messages m (hmessages hm),
    fun m hm => h.memories m (hmemories hm), h.candidates, h.active⟩⟩

lemma quiet_deleteMessageRelatedRows (messageIds : List RowId) :
    Quiet id db (RoundCleanup.deleteMessageRelatedRows db messageIds) := by
  have hremoval : Quiet id db { db with
      messages := db.messages.filter fun m => m.id ∉ messageIds
      messageTags := db.messageTags.filter fun t => t.messageId ∉ messageIds
      memories := db.memories.filter fun m => !RoundCleanup.removesMemory messageIds m
      memoryTags := db.memoryTags.filter fun t =>
        t.memoryChunkId ∉ RoundCleanup.memoryIds db messageIds } :=
    quiet_removal List.filter_sublist.subset List.filter_sublist.subset
      List.filter_sublist.subset List.filter_sublist.subset
  exact hremoval.trans ((settled_of_frame rfl).quiet id)

/-! ## Rounds and jobs -/

/-- The operation writes tags, and the references it names come to this id. -/
def NamesTag (text : TextFunctions) (ctx : MemoryContext) (id : RowId) (op : MemoryOperation) :
    Prop :=
  op.op ≠ .archive ∧ strip op.content ≠ "" ∧ id ∈ resolveMemoryOpTags text ctx op

instance (text : TextFunctions) (ctx : MemoryContext) (id : RowId) (op : MemoryOperation) :
    Decidable (NamesTag text ctx id op) :=
  inferInstanceAs (Decidable (_ ∧ _ ∧ _))

lemma activeTags_notMem (h : Gone id db) (target : Target) :
    id ∉ CocoonSit.activeTags db target := by
  unfold CocoonSit.activeTags
  cases hget : get db.sessionStates target with
  | none => exact List.not_mem_nil
  | some s => exact h.active s (mem_of_get hget)

lemma memoryOpTags_notMem {text : TextFunctions} {ctx : MemoryContext} {op : MemoryOperation}
    (hactive : id ∉ ctx.activeTags) (hop : id ∉ resolveMemoryOpTags text ctx op) :
    id ∉ memoryOpTags text ctx op := by
  unfold memoryOpTags
  dsimp only
  split
  · exact hactive
  · exact hop

lemma quiet_setMemoryStatus (status : String) (memoryId : String) :
    Quiet id db (setMemoryStatus status db memoryId) := by
  refine quiet_mapMemories fun m => ?_
  split <;> rfl

lemma quiet_setMemoryStatuses (status : String) (ids : List String) :
    Quiet id db (ids.foldl (setMemoryStatus status) db) := by
  induction ids generalizing db with
  | nil => exact .refl id db
  | cons memoryId ids ih => exact (quiet_setMemoryStatus status memoryId).trans ih

section MemoryOps

variable {text : TextFunctions} {ctx : MemoryContext} {op : MemoryOperation}

lemma quiet_persistMemory (keys : MemoryKeys) (htags : id ∉ memoryOpTags text ctx op) :
    Quiet id db (persistMemory text ctx db op keys) := by
  unfold persistMemory
  split
  · next memory _ =>
    have hupdate : ∀ m, (op.sign ctx (op.update text ctx m)).tagsJson =
        memoryOpTags text ctx op := by
      intro m
      rw [sign_tagsJson, MemoryOperation.update]
    generalize memoryOpTags text ctx op = tags at htags hupdate ⊢
    exact quiet_retag hupdate fun _ => htags
  · have hnew : ∀ memoryId, (op.sign ctx
        (op.toMemory text ctx (resolveMemoryOwnerUserId db ctx) memoryId)).tagsJson =
        memoryOpTags text ctx op := by
      intro memoryId
      rw [sign_tagsJson, MemoryOperation.toMemory]
    exact quiet_insertMemory _ (fun _ => (hnew keys.memoryId) ▸ htags) fun _ => htags

lemma quiet_persistMemoryOp (keys : MemoryKeys) (hactive : id ∉ ctx.activeTags)
    (hop : ¬ NamesTag text ctx id op) :
    Quiet id db (persistMemoryOp text ctx now db op keys) := by
  unfold persistMemoryOp
  split
  · cases op.target? with
    | none => exact quiet_setMemoryStatuses "archived" op.supersedesMemoryIds
    | some memoryId =>
      exact (quiet_setMemoryStatus "archived" memoryId).trans
        (quiet_setMemoryStatuses "archived" op.supersedesMemoryIds)
  · next hkind =>
    split
    · exact .refl id db
    · next hcontent =>
      have htags : id ∉ memoryOpTags text ctx op :=
        memoryOpTags_notMem hactive fun h => hop ⟨hkind, hcontent, h⟩
      split
      · have hnew : (op.toCandidate text ctx (resolveMemoryOwnerUserId db ctx)
            keys.candidateId now).tagsJson = memoryOpTags text ctx op := by
          rw [MemoryOperation.toCandidate]
        exact quiet_candidate _ (fun _ => hnew ▸ htags) ctx.candidatePromoteHits
          "candidate_promotion" keys.memoryId
      · exact (quiet_persistMemory keys htags).trans
          (quiet_setMemoryStatuses "contradicted" op.supersedesMemoryIds)

end MemoryOps

lemma quiet_persistMemoryOps {text : TextFunctions} {ctx : MemoryContext}
    (hactive : id ∉ ctx.activeTags) (keys : ℕ → MemoryKeys) {ops : List MemoryOperation}
    (hops : ∀ op ∈ ops, ¬ NamesTag text ctx id op) :
    Quiet id db (persistMemoryOps text ctx now keys ops db) := by
  have hloop : ∀ (items : List (MemoryOperation × ℕ)) (db : Db), (∀ x ∈ items, x.1 ∈ ops) →
      Quiet id db
        (items.foldl (fun db op => persistMemoryOp text ctx now db op.1 (keys op.2)) db) := by
    intro items
    induction items with
    | nil => exact fun db _ => .refl id db
    | cons x items ih =>
      intro db hmem
      have hx := hops x.1 (hmem x List.mem_cons_self)
      exact (quiet_persistMemoryOp (keys x.2) hactive hx).trans
        (ih _ fun y hy => hmem y (List.mem_cons_of_mem x hy))
  refine hloop ops.zipIdx db fun x hx => ?_
  exact List.fst_mem_of_mem_zipIdx hx

lemma quiet_storeItem (source : SummarySource) {ctx : SummaryContext}
    (item : CompactionMemoryItem) (keys : MemoryKeys) (hreg : RegistryInOrder db)
    (howner : ctx.cocoon.ownerUserId ∈ tagOwners db) :
    Quiet id db (storeItem source ctx db item keys).1 := by
  unfold storeItem
  split
  · exact .refl id db
  · have howners : ∀ o ∈ some ctx.cocoon.ownerUserId, o ∈ tagOwners db :=
      fun o h => Option.some.inj h ▸ howner
    obtain ⟨hset, htags⟩ := settled_canonicalizeTagRefs hreg howners
      (ctx.defaultTagId :: item.resolvedTags ctx.catalog) true ctx.newTagId
    dsimp only
    generalize canonicalizeTagRefs db (ctx.defaultTagId :: item.resolvedTags ctx.catalog) true
      (some ctx.cocoon.ownerUserId) ctx.newTagId = r at hset htags
    have hquiet := hset.quiet id
    have hnot : Gone id r.1 → id ∉ r.2 := fun h =>
      (htags.congr hset.labels).notMem h.registry
    split
    · have hcandidate := quiet_candidate (.cocoon ctx.cocoon.id)
        (show Gone id r.1 → id ∉ (item.toCandidate source ctx r.2 keys.candidateId).tagsJson from
          hnot)
        ctx.candidatePromoteHits source.promotionKind keys.memoryId
      refine hquiet.trans ?_
      split
      · next hpromote => rwa [if_pos hpromote] at hcandidate
      · next hpromote => rwa [if_neg hpromote] at hcandidate
    · exact hquiet.trans
        (quiet_insertMemory (item.toMemory source ctx r.2 keys.memoryId) hnot hnot)

lemma quiet_storeItems (source : SummarySource) {ctx : SummaryContext} (keys : ℕ → MemoryKeys)
    (items : List CompactionMemoryItem) (hreg : RegistryInOrder db)
    (howner : ctx.cocoon.ownerUserId ∈ tagOwners db) :
    Quiet id db (storeItems source ctx keys db items).1 := by
  refine quiet_foldl Prod.fst (storeNext source ctx keys) hreg items.zipIdx
    (fun stored item _ hreg' howners => ?_) (db, []) (.refl id db)
  rw [storeNext_fst]
  exact quiet_storeItem source item.1 (keys item.2) hreg' (howners ▸ howner)

variable (id) in
lemma quiet_storeItems_of_settled (source : SummarySource) (ctx : SummaryContext)
    (newTagId : RowId) (keys : ℕ → MemoryKeys) (items : List CompactionMemoryItem)
    (hreg : RegistryInOrder db) (hset : Settled db db')
    (howner : ctx.cocoon.ownerUserId ∈ tagOwners db) :
    Quiet id db (storeItems source ctx keys
      (ensureUserSystemTag db' ctx.cocoon.ownerUserId newTagId).1 items).1 := by
  have hdefault := (settled_ensureUserSystemTag (hset.registry hreg)
    (hset.owners ▸ howner) newTagId).1
  have h := hset.trans hdefault
  exact (h.quiet id).trans
    (quiet_storeItems source keys items (h.registry hreg) (h.owners ▸ howner))

lemma quiet_executeCompaction (hreg : RegistryInOrder db) {cocoonId : RowId}
    {before : Option RowId} {output : CompactionOutput} {env : JobEnv}
    (h : executeCompaction db cocoonId before output env = some db') : Quiet id db db' := by
  obtain hset | ⟨source, ctx, db₁, hset, howner, hend⟩ := executeCompaction_stores hreg h
  · exact hset.quiet id
  · exact (quiet_storeItems_of_settled id source ctx env.newTagId env.memoryKeys
      output.longTermMemories hreg hset howner).trans (hend.quiet id)

lemma quiet_executeReorganize (hreg : RegistryInOrder db) (cocoonId : RowId)
    (memoryIds : List RowId) (instructions : Option String) (provider : SummaryProvider)
    (env : JobEnv) :
    Quiet id db (executeReorganize db cocoonId memoryIds instructions provider env).session := by
  obtain hset | ⟨source, ctx, db₁, i, ms, ts, output, -, hset, howner, hend⟩ :=
    executeReorganize_stores hreg cocoonId memoryIds instructions provider env
  · exact hset.quiet id
  · have hstore := quiet_storeItems_of_settled id source ctx env.newTagId env.memoryKeys
      output.longTermMemories hreg hset howner
    have harchive : ∀ db₁, Quiet id db₁
        (archiveMemories db₁ (reorganizedMemories db memoryIds)) := by
      refine fun db₁ => quiet_mapMemories fun m => ?_
      split <;> rfl
    exact (hstore.trans (harchive _)).trans (hend.quiet id)

lemma quiet_rollBack (hreg : RegistryInOrder db) {request : RollbackRequest} (env : JobEnv)
    (hanchor : request.anchor ∈ db.messages) : Quiet id db (rollBack db request env) := by
  have hdelete : Quiet id db
      (RoundCleanup.deleteMessageRelatedRows db (laterMessageIds db request)) :=
    quiet_deleteMessageRelatedRows _
  unfold rollBack
  dsimp only
  generalize RoundCleanup.deleteMessageRelatedRows db (laterMessageIds db request) = db₁
    at hdelete ⊢
  have hmoved := hdelete.trans ((settled_moveToAnchor db₁ request).quiet id)
  generalize moveToAnchor db₁ request = db₂ at hmoved ⊢
  have hget := settled_getSessionState (hmoved.registry hreg)
    (.cocoon request.checkpoint.cocoonId) env.newTagId env.now
  have hrestored : Quiet id db (restoreState db₂ request env) := by
    unfold restoreState
    dsimp only
    generalize getSessionState db₂ (.cocoon request.checkpoint.cocoonId) env.newTagId env.now = r
      at hget
    have hlooked := hmoved.trans (hget.quiet id)
    split
    · exact hlooked
    · refine ⟨hlooked.labels, hlooked.owners, fun h => ?_⟩
      have hgone := hlooked.gone h
      refine ⟨hgone.registry, hgone.bindings, hgone.messageRows, hgone.memoryRows, hgone.messages,
        hgone.memories, hgone.candidates, fun s hs => ?_⟩
      -- the tags of the anchor, a message of the database the job found
      rcases mem_update.mp hs with ⟨s₀, -, -, rfl⟩ | ⟨hs, -⟩
      · exact h.messages request.anchor hanchor
      · exact hgone.active s hs
  exact hrestored.trans ((settled_of_frame rfl).quiet id)

lemma quiet_executeRollbackJob (hreg : RegistryInOrder db) (checkpointId : RowId) (env : JobEnv) :
    Quiet id db (executeRollbackJob db checkpointId env).session := by
  unfold executeRollbackJob
  split
  · exact .refl id db
  · next checkpoint _ =>
    dsimp only
    have h₀ :
        Settled db (startRun db (some (.cocoon checkpoint.cocoonId)) "rollback" env.runId) :=
      settled_of_frame rfl
    generalize startRun db (some (.cocoon checkpoint.cocoonId)) "rollback" env.runId = db₀ at h₀ ⊢
    split
    · exact h₀.quiet id
    · next request hresolve =>
      simp only [resolveRollback, Option.bind_eq_bind, Option.bind_eq_some_iff] at hresolve
      obtain ⟨anchor, hanchor, cocoon, -, hrequest⟩ := hresolve
      cases hrequest
      exact (h₀.quiet id).trans
        (quiet_rollBack (h₀.registry hreg) env (mem_of_get hanchor))

end TagStorage

end CocoonSit
