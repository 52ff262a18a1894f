import CocoonSit.Tags.Storage

/-!
# Reconciliation at startup

`reconcile_tag_storage` gives users, targets and session states their default tags, resolves the
references in the arrays of messages and memories, and then those in the rows.  An array leaves out
what does not resolve and repeats nothing; a row that does not resolve stays, and two rows may come
to name the same tag.  `tagsAgree_reconcile_iff` says when this keeps the two copies in agreement.
-/

namespace CocoonSit

open Table Mirror

/-- The keys of the default tags that may be created. -/
structure ReconcileDraws where
  user : RowId → RowId
  target : Target → RowId

def ensureAllUsersSystemTags (db : Db) (newTagId : RowId → RowId) : Db :=
  db.users.foldl (fun db userId => (ensureUserSystemTag db userId (newTagId userId)).1) db

/-- The targets with a row: cocoons, then rooms. -/
def allTargets (db : Db) : List Target :=
  db.cocoons.map (fun c => .cocoon c.id) ++ db.rooms.map fun r => .chatGroup r.id

/-- The loops of `reconcile_tag_storage` over cocoons and rooms. -/
def ensureDefaultBindings (db : Db) (newTagId : Target → RowId) (now : Timestamp) : Db :=
  (allTargets db).foldl
    (fun db target => (ensureTargetDefaultBinding db target (newTagId target) now).1) db

/-- The loop over session states. -/
def ensureStatesBoundTags (db : Db) (newTagId : Target → RowId) (now : Timestamp) : Db :=
  db.sessionStates.foldl
    (fun db state => (ensureStateBoundTags db state (newTagId state.target) now).1) db

/-- The user whose tags a message has. -/
def messageTagOwner (db : Db) (message : Message) : Option RowId :=
  resolveTagOwnerUserIdForTarget db message.target

/-- The user whose tags a memory has: its owner, or else its target's. -/
def memoryTagOwner (db : Db) (memory : MemoryChunk) : Option RowId :=
  (memory.ownerUserId.filter (· ≠ "")).or <|
    match memory.cocoonId.filter (· ≠ ""), memory.chatGroupId.filter (· ≠ "") with
    | some id, _ => resolveTagOwnerUserIdForTarget db (.cocoon id)
    | none, some id => resolveTagOwnerUserIdForTarget db (.chatGroup id)
    | none, none => none

/-- `message.tags_json = canonicalize_tag_refs(…)`. -/
def reconcileMessage (db : Db) (message : Message) : Message :=
  { message with
    tagsJson := (canonicalizeTagRefs db message.tagsJson false (messageTagOwner db message) "").2 }

/-- `memory.tags_json = canonicalize_tag_refs(…)`. -/
def reconcileMemory (db : Db) (memory : MemoryChunk) : MemoryChunk :=
  { memory with
    tagsJson := (canonicalizeTagRefs db memory.tagsJson false (memoryTagOwner db memory) "").2 }

/-- The loops over messages and memories. -/
def reconcileArrays (db : Db) : Db :=
  { db with
    messages := db.messages.map (reconcileMessage db)
    memories := db.memories.map (reconcileMemory db) }

/-- What becomes of the tag id of a row: it stays when no tag is found. -/
def reconciledTagId (db : Db) (owner : Option RowId) (tagId : String) : String :=
  ((getTagByAnyRef db tagId owner).map TagRegistry.id).getD tagId

/-- The user whose tags are looked up for the rows of this message. -/
def messageRowOwner (db : Db) (messageId : RowId) : Option RowId :=
  (get db.messages messageId).bind (messageTagOwner db)

/-- The user whose tags are looked up for the rows of this memory. -/
def memoryRowOwner (db : Db) (memoryChunkId : RowId) : Option RowId :=
  (get db.memories memoryChunkId).bind (memoryTagOwner db)

def reconcileMessageTag (db : Db) (row : MessageTag) : MessageTag :=
  { row with tagId := reconciledTagId db (messageRowOwner db row.messageId) row.tagId }

def reconcileMemoryTag (db : Db) (row : MemoryTag) : MemoryTag :=
  { row with tagId := reconciledTagId db (memoryRowOwner db row.memoryChunkId) row.tagId }

lemma reconcileMessageTag_tagId (db : Db) (row : MessageTag) :
    (reconcileMessageTag db row).tagId =
      reconciledTagId db (messageRowOwner db row.messageId) row.tagId := by
  simp only [reconcileMessageTag]

lemma reconcileMemoryTag_tagId (db : Db) (row : MemoryTag) :
    (reconcileMemoryTag db row).tagId =
      reconciledTagId db (memoryRowOwner db row.memoryChunkId) row.tagId := by
  simp only [reconcileMemoryTag]

/-- The loops over the rows. -/
def reconcileRows (db : Db) : Db :=
  { db with
    messageTags := db.messageTags.map (reconcileMessageTag db)
    memoryTags := db.memoryTags.map (reconcileMemoryTag db) }

def reconcileTagStorage (db : Db) (draws : ReconcileDraws) (now : Timestamp) : Db :=
  let db := ensureAllUsersSystemTags db draws.user
  let db := ensureDefaultBindings db draws.target now
  let db := ensureStatesBoundTags db draws.target now
  reconcileRows (reconcileArrays db)

namespace TagStorage

/-- Every reference in an array resolves to a tag of its owner, and no two to the same. -/
def ReconcileFits (db : Db) : Prop :=
  (∀ m ∈ db.messages, Resolves (resolvedRef db (messageTagOwner db m)) m.tagsJson) ∧
    ∀ m ∈ db.memories, Resolves (resolvedRef db (memoryTagOwner db m)) m.tagsJson

instance (db : Db) : Decidable (ReconcileFits db) :=
  have : ∀ (resolve : RowId → Option RowId) values, Decidable (Resolves resolve values) :=
    fun _ _ => inferInstanceAs (Decidable (_ ∧ _))
  inferInstanceAs (Decidable (_ ∧ _))

variable {db db' : Db} {owner : Option RowId} {now : Timestamp}

/-! ## Defaults -/

lemma settled_ensureAllUsersSystemTags (hreg : RegistryInOrder db) (newTagId : RowId → RowId) :
    Settled db (ensureAllUsersSystemTags db newTagId) := by
  refine settled_foldl db.users hreg fun db' userId huser hreg' howners => ?_
  refine (settled_ensureUserSystemTag hreg' ?_ (newTagId userId)).1
  rw [howners, tagOwners]
  exact List.mem_append_left _ (List.mem_append_left _ huser)

lemma settled_ensureDefaultBindings (hreg : RegistryInOrder db) (newTagId : Target → RowId)
    (now : Timestamp) : Settled db (ensureDefaultBindings db newTagId now) :=
  settled_foldl (allTargets db) hreg fun _ target _ hreg' _ =>
    settled_ensureTargetDefaultBinding hreg' target (newTagId target) now

lemma settled_ensureStatesBoundTags (hreg : RegistryInOrder db) (newTagId : Target → RowId)
    (now : Timestamp) : Settled db (ensureStatesBoundTags db newTagId now) :=
  settled_foldl db.sessionStates hreg fun _ state _ hreg' _ =>
    settled_ensureStateBoundTags hreg' state (newTagId state.target) now

/-- The database that the arrays and rows are resolved in. -/
def withDefaults (db : Db) (draws : ReconcileDraws) (now : Timestamp) : Db :=
  ensureStatesBoundTags
    (ensureDefaultBindings (ensureAllUsersSystemTags db draws.user) draws.target now)
    draws.target now

lemma reconcileTagStorage_eq (db : Db) (draws : ReconcileDraws) (now : Timestamp) :
    reconcileTagStorage db draws now =
      reconcileRows (reconcileArrays (withDefaults db draws now)) :=
  rfl

lemma settled_withDefaults (hreg : RegistryInOrder db) (draws : ReconcileDraws) (now : Timestamp) :
    Settled db (withDefaults db draws now) := by
  have h₁ := settled_ensureAllUsersSystemTags hreg draws.user
  have h₂ := settled_ensureDefaultBindings (h₁.registry hreg) draws.target now
  have h₁₂ := h₁.trans h₂
  exact h₁₂.trans (settled_ensureStatesBoundTags (h₁₂.registry hreg) draws.target now)

/-! ## References -/

lemma resolvedRef_eq (owner : Option RowId) (raw : String) :
    resolvedRef db owner raw = (getTagByAnyRef db raw owner).map TagRegistry.id := by
  unfold resolvedRef
  cases hget : getTagByAnyRef db raw owner with
  | none => rfl
  | some tag =>
    rw [Option.filter_some, if_pos]
    rw [Option.all_eq_true]
    exact fun o ho => decide_eq_true ((getTagByAnyRef_spec hget).2 o ho)

lemma reconciledTagId_eq (owner : Option RowId) (tagId : String) :
    reconciledTagId db owner tagId = (resolvedRef db owner tagId).getD tagId := by
  rw [reconciledTagId, resolvedRef_eq]

lemma find_label (h : tagLabels db' = tagLabels db) (p : TagLabel → Bool) :
    (db'.tags.find? fun t => p (tagLabel t)).map tagLabel =
      (db.tags.find? fun t => p (tagLabel t)).map tagLabel := by
  have hmap : ∀ db : Db, (db.tags.find? fun t => p (tagLabel t)).map tagLabel =
      (tagLabels db).find? p := fun db => List.find?_map.symm
  rw [hmap, hmap, h]

lemma getTagByCanonicalId_label (h : tagLabels db' = tagLabels db) (owner : Option RowId)
    (tagId : String) :
    (getTagByCanonicalId db' tagId owner).map tagLabel =
      (getTagByCanonicalId db tagId owner).map tagLabel := by
  have hget := find_label h fun t => t.id = strip tagId
  have hscope : ∀ found : Option TagRegistry,
      (found.filter fun tag => owner.all fun o => tag.ownerUserId = o).map tagLabel =
        (found.map tagLabel).filter fun tag => owner.all fun o => tag.ownerUserId = o := by
    intro found
    rw [Option.filter_map]
    rfl
  unfold getTagByCanonicalId
  dsimp only
  split
  · rfl
  · rw [hscope, hscope]
    exact congrArg _ hget

lemma resolvedRef_congr (h : tagLabels db' = tagLabels db) (owner : Option RowId) (raw : String) :
    resolvedRef db' owner raw = resolvedRef db owner raw := by
  have hlabel : (getTagByAnyRef db' raw owner).map tagLabel =
      (getTagByAnyRef db raw owner).map tagLabel := by
    have hcanon := getTagByCanonicalId_label h owner (strip raw)
    unfold getTagByAnyRef
    dsimp only
    split
    · rfl
    · cases hfound : getTagByCanonicalId db (strip raw) owner with
      | some tag =>
        obtain ⟨tag', hfound', -⟩ := Option.map_eq_some_iff.mp
          (hcanon.trans (by rw [hfound]; rfl))
        rw [hfound, hfound'] at hcanon
        rw [hfound']
        exact hcanon
      | none =>
        rw [hfound, Option.map_none, Option.map_eq_none_iff] at hcanon
        rw [hcanon]
        cases owner with
        | none => rfl
        | some o => exact find_label h fun t => t.ownerUserId = o ∧ t.tagId = strip raw
  have hid : ∀ db : Db, resolvedRef db owner raw =
      ((getTagByAnyRef db raw owner).map tagLabel).map TagLabel.id := by
    intro db
    rw [resolvedRef_eq, Option.map_map]
    rfl
  rw [hid, hid, hlabel]

/-! ## When the copies agree afterwards -/

lemma canonicalizeTagRefs_snd (refs : List String) (owner : Option RowId) :
    (canonicalizeTagRefs db refs false owner "").2 =
      Collect.collect (resolvedRef db owner) refs := by
  rw [← resolveTagRefs_eq_collect]
  rfl

lemma messageRowOwner_of_mem (hkeys : (db.messages.map key).Nodup) {m : Message}
    (hm : m ∈ db.messages) : messageRowOwner db m.id = messageTagOwner db m := by
  rw [messageRowOwner, ← key_message, get_of_mem hkeys hm, Option.bind_some]

lemma memoryRowOwner_of_mem (hkeys : (db.memories.map key).Nodup) {m : MemoryChunk}
    (hm : m ∈ db.memories) : memoryRowOwner db m.id = memoryTagOwner db m := by
  rw [memoryRowOwner, ← key_memoryChunk, get_of_mem hkeys hm, Option.bind_some]

lemma tagOwner_reconcileArrays (target : Target) :
    resolveTagOwnerUserIdForTarget (reconcileArrays db) target =
      resolveTagOwnerUserIdForTarget db target := by
  cases target <;> rfl

lemma memoryTagOwner_reconcileArrays (m : MemoryChunk) :
    memoryTagOwner (reconcileArrays db) m = memoryTagOwner db m := by
  unfold memoryTagOwner
  simp only [tagOwner_reconcileArrays]

lemma messageRowOwner_reconcileArrays (id : RowId) :
    messageRowOwner (reconcileArrays db) id = messageRowOwner db id := by
  have hget : get (reconcileArrays db).messages id =
      (get db.messages id).map (reconcileMessage db) := get_map fun _ => rfl
  rw [messageRowOwner, hget, Option.bind_map]
  exact congrArg _ (funext fun m => tagOwner_reconcileArrays m.target)

lemma memoryRowOwner_reconcileArrays (id : RowId) :
    memoryRowOwner (reconcileArrays db) id = memoryRowOwner db id := by
  have hget : get (reconcileArrays db).memories id =
      (get db.memories id).map (reconcileMemory db) := get_map fun _ => rfl
  rw [memoryRowOwner, hget, Option.bind_map]
  exact congrArg _ (funext fun m => memoryTagOwner_reconcileArrays (reconcileMemory db m))

lemma tagLabels_reconcileArrays : tagLabels (reconcileArrays db) = tagLabels db := rfl

lemma tagId_reconcileMessageTag (row : MessageTag) :
    (reconcileMessageTag (reconcileArrays db) row).tagId =
      (resolvedRef db (messageRowOwner db row.messageId) row.tagId).getD row.tagId := by
  rw [reconcileMessageTag, reconciledTagId_eq, messageRowOwner_reconcileArrays,
    resolvedRef_congr tagLabels_reconcileArrays]

lemma tagId_reconcileMemoryTag (row : MemoryTag) :
    (reconcileMemoryTag (reconcileArrays db) row).tagId =
      (resolvedRef db (memoryRowOwner db row.memoryChunkId) row.tagId).getD row.tagId := by
  rw [reconcileMemoryTag, reconciledTagId_eq, memoryRowOwner_reconcileArrays,
    resolvedRef_congr tagLabels_reconcileArrays]

lemma rowKey_reconcileMessageTag (db : Db) (row : MessageTag) :
    messageLayout.rowKey (reconcileMessageTag db row) = messageLayout.rowKey row := by
  simp only [reconcileMessageTag, messageLayout]

lemma rowKey_reconcileMemoryTag (db : Db) (row : MemoryTag) :
    memoryLayout.rowKey (reconcileMemoryTag db row) = memoryLayout.rowKey row := by
  simp only [reconcileMemoryTag, memoryLayout]

lemma mirrored_messages_iff (hkeys : (db.messages.map key).Nodup)
    (h : Mirrored messageLayout db.messages db.messageTags) :
    Mirrored messageLayout (reconcileRows (reconcileArrays db)).messages
        (reconcileRows (reconcileArrays db)).messageTags ↔
      ∀ m ∈ db.messages, Resolves (resolvedRef db (messageTagOwner db m)) m.tagsJson := by
  have howner : ∀ m ∈ db.messages, messageRowOwner db m.id = messageTagOwner db m :=
    fun m hm => messageRowOwner_of_mem hkeys hm
  refine (mirrored_resolved_iff (fun id => resolvedRef db (messageRowOwner db id))
    (f := reconcileMessage db) (g := reconcileMessageTag (reconcileArrays db)) h (fun _ => rfl)
    (fun m hm y => ?_) (rowKey_reconcileMessageTag _) fun row => ?_).trans ?_
  · show y ∈ (canonicalizeTagRefs db m.tagsJson false (messageTagOwner db m) "").2 ↔ _
    rw [canonicalizeTagRefs_snd, Collect.mem_collect, ← howner m hm]
    rfl
  · simp only [messageLayout]
    exact tagId_reconcileMessageTag row
  · exact forall₂_congr fun m hm => by rw [← howner m hm]; rfl

lemma mirrored_memories_iff (hkeys : (db.memories.map key).Nodup)
    (h : Mirrored memoryLayout db.memories db.memoryTags) :
    Mirrored memoryLayout (reconcileRows (reconcileArrays db)).memories
        (reconcileRows (reconcileArrays db)).memoryTags ↔
      ∀ m ∈ db.memories, Resolves (resolvedRef db (memoryTagOwner db m)) m.tagsJson := by
  have howner : ∀ m ∈ db.memories, memoryRowOwner db m.id = memoryTagOwner db m :=
    fun m hm => memoryRowOwner_of_mem hkeys hm
  refine (mirrored_resolved_iff (fun id => resolvedRef db (memoryRowOwner db id))
    (f := reconcileMemory db) (g := reconcileMemoryTag (reconcileArrays db)) h (fun _ => rfl)
    (fun m hm y => ?_) (rowKey_reconcileMemoryTag _) fun row => ?_).trans ?_
  · show y ∈ (canonicalizeTagRefs db m.tagsJson false (memoryTagOwner db m) "").2 ↔ _
    rw [canonicalizeTagRefs_snd, Collect.mem_collect, ← howner m hm]
    rfl
  · simp only [memoryLayout]
    exact tagId_reconcileMemoryTag row
  · exact forall₂_congr fun m hm => by rw [← howner m hm]; rfl

lemma nodup_reconciled (refs : List String) :
    (canonicalizeTagRefs db refs false owner "").2.Nodup := by
  rw [canonicalizeTagRefs_snd]
  exact Collect.nodup_collect _ refs

lemma tagsAgree_resolved_iff (ho : InOrder db) (hagree : TagsAgree db) :
    TagsAgree (reconcileRows (reconcileArrays db)) ↔ ReconcileFits db := by
  rw [ReconcileFits, ← mirrored_messages_iff ho.messageKeys hagree.messages,
    ← mirrored_memories_iff ho.memoryKeys hagree.memories]
  refine ⟨fun h => ⟨h.messages, h.memories⟩, fun h => ⟨h.1, h.2, ?_, ?_⟩⟩
  · exact List.forall_mem_map.mpr fun m _ => nodup_reconciled m.tagsJson
  · exact List.forall_mem_map.mpr fun m _ => nodup_reconciled m.tagsJson

lemma reconcileFits_congr (h : Settled db db') : ReconcileFits db' ↔ ReconcileFits db := by
  have hmessage : ∀ m, messageTagOwner db' m = messageTagOwner db m :=
    fun m => h.targetOwner m.target
  have hmemory : ∀ m, memoryTagOwner db' m = memoryTagOwner db m := by
    intro m
    simp only [memoryTagOwner, h.targetOwner]
  have hres : resolvedRef db' = resolvedRef db :=
    funext fun owner => funext fun raw => resolvedRef_congr h.labels owner raw
  simp only [ReconcileFits, h.messages, h.memories, hmessage, hmemory, hres]

/-- The reconciliation keeps the copies in agreement when the references fit. -/
theorem tagsAgree_reconcile_iff (ho : InOrder db) (hagree : TagsAgree db) (draws : ReconcileDraws)
    (now : Timestamp) : TagsAgree (reconcileTagStorage db draws now) ↔ ReconcileFits db := by
  have hset := settled_withDefaults ho.registry draws now
  rw [reconcileTagStorage_eq, tagsAgree_resolved_iff (hset.inOrder ho)
    (hset.tagsAgree_iff.mpr hagree), reconcileFits_congr hset]

/-- It keeps the tables in order whatever the references are. -/
theorem inOrder_reconcile (ho : InOrder db) (draws : ReconcileDraws) (now : Timestamp) :
    InOrder (reconcileTagStorage db draws now) := by
  have h := (settled_withDefaults ho.registry draws now).inOrder ho
  rw [reconcileTagStorage_eq]
  generalize withDefaults db draws now = db₁ at h ⊢
  have hmessageKeys : (db₁.messages.map (reconcileMessage db₁)).map key = db₁.messages.map key := by
    rw [List.map_map]
    rfl
  have hmemoryKeys : (db₁.memories.map (reconcileMemory db₁)).map key = db₁.memories.map key := by
    rw [List.map_map]
    rfl
  refine ⟨?_, ?_, ?_, ?_, ?_, ?_, h.candidateArrays, h.activeTags, h.registry⟩
  · exact hmessageKeys ▸ h.messageKeys
  · exact hmemoryKeys ▸ h.memoryKeys
  · refine List.forall_mem_map.mpr fun r hr => ?_
    rw [rowKey_reconcileMessageTag]
    exact hmessageKeys ▸ h.messageRows r hr
  · refine List.forall_mem_map.mpr fun r hr => ?_
    rw [rowKey_reconcileMemoryTag]
    exact hmemoryKeys ▸ h.memoryRows r hr
  · exact List.forall_mem_map.mpr fun m _ => nodup_reconciled m.tagsJson
  · exact List.forall_mem_map.mpr fun m _ => nodup_reconciled m.tagsJson

end TagStorage

end CocoonSit
