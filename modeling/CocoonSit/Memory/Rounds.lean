import CocoonSit.Lib.Owned
import CocoonSit.Memory.Retrieval
import CocoonSit.Runtime.ReplyDelivery
import CocoonSit.Tags.StorageWrites

/-!
# The memories a round leaves alone

A runtime round looks memories up with the visibility filter of its target, but writes to them by
primary key: its memory operations, and `touch_memories` for those the model says it has used, take
their ids from the model's answer.  So nothing but the answer itself keeps a round from changing a
memory its target does not see.  `keepsHidden_iff` says for which answers it does not.
-/

namespace CocoonSit

open Table

namespace MemoryRound

/-! ## A round -/

/-- Text functions of the host. -/
structure Host where
  text : TextFunctions
  pyStr : JsonValue → String

/-- A round: the event it is run for, the model's answer, and what it is configured with and draws.
The scheduler's input gives what the scheduler node looks at apart from these. -/
structure Round where
  event : RuntimeEvent
  decision : MetaDecision := {}
  memoryOps : List MemoryOperationModel := []
  usedMemoryIds : List String := []
  /-- `meta.decision == "silence"`. -/
  silence : Bool := false
  internalThought : String := ""
  eventSummary : Option String := none
  replyText : String := ""
  scheduler : SchedulerInput
  importanceBoost : Option (ℤ → ℤ) := none
  candidatePromoteHits : ℤ := 2
  candidateTtlHours : ℤ := 72
  patchKeys : PatchKeys
  thoughtId : RowId
  replyId : RowId
  memoryKeys : ℕ → MemoryKeys
  now : Timestamp

variable (host : Host) (r : Round)

/-- The decision, with the memory parts of the answer cleaned. -/
def Round.metaDecision : MetaDecision :=
  { r.decision with
    memoryOps := normalizeMemoryOps r.memoryOps
    usedMemoryIds := r.usedMemoryIds.filter fun id => strip id ≠ "" }

/-- The texts `message_id` may hold. -/
def messageIdOf (payload : JsonDict) : Option RowId :=
  match payload "message_id" with
  | some (.str id) => some id
  | _ => none

def Round.removedMessageIds (db : Db) : List RowId :=
  match r.event.eventType with
  | .edit => (messageIdOf r.event.payload).elim []
      (RoundCleanup.editedMessageIds db r.event.target)
  | .retry => RoundCleanup.retriedMessageIds db r.event.target (messageIdOf r.event.payload)
  | _ => []

/-- `RoundPreparationService.prepare`; an edit's payload must have a `message_id`. -/
def Round.prepare (db : Db) : Option Db :=
  match r.event.eventType with
  | .edit =>
    if (r.event.payload "message_id").isSome then
      some ((messageIdOf r.event.payload).elim db
        (RoundCleanup.cleanupForEdit db r.event.target))
    else none
  | .retry => some (RoundCleanup.cleanupForRetry db r.event.target (messageIdOf r.event.payload))
  | _ => some db

/-! ## The context -/

/-- The conversation, as the context builder reads it. -/
def conversationOf (db : Db) (target : Target) : Option Conversation :=
  match target with
  | .cocoon id => (get db.cocoons id).map fun cocoon =>
    { ownerUserId := cocoon.ownerUserId
      visibleMessages := cocoonWindow db cocoon (activeTags db target) }
  | .chatGroup id => (get db.rooms id).map fun room =>
    { ownerUserId := room.ownerUserId
      visibleMessages := listVisibleMessages db room.maxContextMessages (activeTags db target)
        target none }

/-- The database in which the context builder looks things up: the session state is ensured
first. -/
def Round.looked (prepared : Db) : Db :=
  (ensureSessionState prepared r.event.target r.patchKeys.tagId r.now).1

/-- `memory_owner_user_id`. -/
def Round.memoryOwner (prepared : Db) : Option RowId :=
  (conversationOf (r.looked prepared) r.event.target).map
    (ContextBuilder.resolveMemoryOwnerUserId host.pyStr r.event)

/-- The memory is not among those the round's target sees: it is another target's or owner's, or the
tags exclude it. -/
def Round.Hidden (prepared : Db) (memory : MemoryChunk) : Prop :=
  ¬ VisibleTo (r.looked prepared) r.event.target
    ((r.memoryOwner host prepared).bind (ContextBuilder.memoryLookupOwner r.event.target))
    (activeTags (r.looked prepared) r.event.target) memory

instance (prepared : Db) (memory : MemoryChunk) : Decidable (r.Hidden host prepared memory) :=
  inferInstanceAs (Decidable (¬ _))

/-- What the memory operations are carried out with, on the database they find. -/
def Round.memoryContext (prepared found : Db) : MemoryContext where
  event := r.event
  characterId := (targetCharacter (r.looked prepared) r.event.target).getD ""
  memoryOwnerUserId := r.memoryOwner host prepared
  activeTags := activeTags found r.event.target
  tagCatalog := tagCatalogByRef ((r.looked prepared).tags.filter fun t =>
    t.ownerUserId = resolveTagOwnerUserIdForTarget (r.looked prepared) r.event.target)
  candidatePromoteHits := r.candidatePromoteHits
  candidateTtlHours := r.candidateTtlHours
  sourceMessageId := if r.silence then none else some r.replyId

/-! ## The round -/

/-- The messages of the round: the thought, and the reply if there is one. -/
def Round.withMessages (db : Db) : Db :=
  let thoughtText := strip r.internalThought
  let db := persistMessage db r.event .assistant
    (if thoughtText = "" then "Structured meta decision completed." else thoughtText) true
    (r.eventSummary.bind stripOrNone) r.thoughtId r.now
  if r.silence then db
  else persistMessage db r.event (ReplyDelivery.replyRole r.event.eventType) r.replyText false none
    r.replyId r.now

/-- The round up to its memory operations, after the preparation. -/
def Round.untilMemories (prepared : Db) : Option Db := do
  let (db, ctx) ← buildPatchContext prepared r.event r.patchKeys r.now
  let db := applyStatePatch db ctx r.metaDecision r.patchKeys.tagId
  let inp := { r.scheduler with event := r.event, memoryOwnerUserId := r.memoryOwner host prepared }
  let db ← (schedulerOps inp r.metaDecision).foldlM
    (SchedulerOp.exec r.event.target r.patchKeys.tagId r.now) db
  return r.withMessages db

/-- The memory operations, and the accesses. -/
def Round.persistMemories (prepared found : Db) : Db :=
  touchMemories
    (persistMemoryOps host.text (r.memoryContext host prepared found) r.now r.memoryKeys
      r.metaDecision.memoryOps found)
    r.metaDecision.usedMemoryIds r.importanceBoost r.now

/-- `ChatRuntime.run`, for messages whose keys have not been drawn before. -/
def Round.run (db : Db) : Option Db :=
  if r.thoughtId ∈ db.messages.map key ∨ r.replyId ∈ db.messages.map key then none
  else do
    let prepared ← r.prepare db
    let found ← r.untilMemories host prepared
    return r.persistMemories host prepared found

/-! ## What it does to the memories that are there -/

variable {host r} {db db' prepared found : Db} {memoryId : RowId} {memory : MemoryChunk}

lemma memories_prepare (h : r.prepare db = some prepared) :
    prepared.memories = db.memories.filter fun m =>
      !RoundCleanup.removesMemory (r.removedMessageIds db) m := by
  have hnone : db.memories = db.memories.filter fun m => !RoundCleanup.removesMemory [] m := by
    refine (List.filter_eq_self.mpr fun m _ => ?_).symm
    cases hsource : m.sourceMessageId <;> simp [RoundCleanup.removesMemory, hsource]
  unfold Round.prepare at h
  unfold Round.removedMessageIds
  cases htype : r.event.eventType with
  | edit =>
    rw [htype] at h
    dsimp only at h ⊢
    split at h
    · cases hid : messageIdOf r.event.payload with
      | none =>
        rw [hid] at h
        cases h
        exact hnone
      | some id =>
        rw [hid] at h
        cases h
        rfl
    · cases h
  | retry =>
    rw [htype] at h
    cases h
    rfl
  | _ =>
    rw [htype] at h
    cases h
    exact hnone

lemma mem_messages_of_removed (h : memoryId ∈ r.removedMessageIds db) :
    memoryId ∈ db.messages.map key := by
  unfold Round.removedMessageIds at h
  cases htype : r.event.eventType with
  | edit =>
    rw [htype] at h
    cases hid : messageIdOf r.event.payload with
    | none =>
      rw [hid] at h
      cases h
    | some id =>
      rw [hid] at h
      cases hedited : get db.messages id with
      | none =>
        rw [Option.elim_some, RoundCleanup.editedMessageIds, hedited] at h
        cases h
      | some edited =>
        rw [Option.elim_some, RoundCleanup.editedMessageIds, hedited, Option.elim_some] at h
        obtain ⟨m, hm, rfl⟩ := List.mem_map.mp h
        exact List.mem_map_of_mem (List.mem_filter.mp hm).1
  | retry =>
    rw [htype] at h
    obtain ⟨m, hm, rfl⟩ := List.mem_map.mp h
    have hm := mem_orderBy.mp (List.mem_of_mem_take hm)
    exact List.mem_map_of_mem (List.mem_filter.mp hm).1
  | _ =>
    rw [htype] at h
    cases h

lemma get_prepare_iff (h : r.prepare db = some prepared)
    (hmemory : get db.memories memoryId = some memory) :
    get prepared.memories memoryId = some memory ↔
      RoundCleanup.removesMemory (r.removedMessageIds db) memory = false := by
  rw [memories_prepare h]
  constructor
  · intro hkept
    have hmem := List.mem_filter.mp (mem_of_get hkept)
    exact (Bool.not_eq_true' _).mp hmem.2
  · intro hkept
    have hfind : get (db.memories.filter fun m =>
        !RoundCleanup.removesMemory (r.removedMessageIds db) m) memoryId =
        get db.memories memoryId := by
      refine Owned.find?_filter_of_find? fun m hm => ?_
      cases hm.symm.trans hmemory
      rw [hkept, Bool.not_false]
    rw [hfind, hmemory]

lemma memories_scheduleOp {target : Target} {req : WakeupRequest} {keys : WakeupKeys}
    {newTagId : RowId} {now : Timestamp}
    (h : scheduleOp db target req keys newTagId now = some db') :
    db'.memories = db.memories := by
  obtain ⟨-, -, rfl⟩ := scheduleOp_eq_some h
  exact (syncCurrentWakeupTaskId_frame ..).memories

lemma memories_exec {op : SchedulerOp} {target : Target} {newTagId : RowId} {now : Timestamp}
    (h : op.exec target newTagId now db = some db') : db'.memories = db.memories := by
  cases op with
  | cancel req =>
    cases h
    exact (cancelWakeupTasks_frame db target req newTagId now).memories
  | schedule req keys => exact memories_scheduleOp h
  | idle req keys =>
    unfold SchedulerOp.exec at h
    dsimp only at h
    split at h
    · exact memories_scheduleOp h
    · cases h
      rfl
  | compaction cocoonId messageId jobId =>
    cases h
    rfl
  | sync =>
    cases h
    exact (syncCurrentWakeupTaskId_frame ..).memories

lemma memories_foldlM_exec {ops : List SchedulerOp} {target : Target} {newTagId : RowId}
    {now : Timestamp} (h : ops.foldlM (SchedulerOp.exec target newTagId now) db = some db') :
    db'.memories = db.memories := by
  induction ops generalizing db with
  | nil =>
    cases h
    rfl
  | cons op ops ih =>
    obtain ⟨db₁, hop, hrest⟩ := Option.bind_eq_some_iff.mp h
    exact (ih hrest).trans (memories_exec hop)

lemma memories_buildPatchContext {event : RuntimeEvent} {keys : PatchKeys} {now : Timestamp}
    {built : Db × PatchContext} (h : buildPatchContext db event keys now = some built) :
    built.1.memories = db.memories := by
  unfold buildPatchContext at h
  split at h
  · have hsource : ∀ db : Db, (buildSource db event keys.sourceTagId now).1.memories =
        db.memories := by
      intro db
      unfold buildSource
      split
      · split
        · rfl
        · next sourceCocoonId _ =>
          split
          · rw [(getSessionState_frame db (.cocoon sourceCocoonId) keys.sourceTagId now).frame]
          · rfl
      · rfl
    cases h
    exact (serializePromptTagCatalog_frame ..).memories.trans ((hsource _).trans
      (ensureSessionState_frame ..).memories)
  · cases h

lemma memories_applyStatePatch (ctx : PatchContext) (decision : MetaDecision) (newTagId : RowId) :
    (applyStatePatch db ctx decision newTagId).memories = db.memories := by
  unfold applyStatePatch
  split
  · rfl
  · next state _ =>
    exact (ensureStateDefaultTag_frame db state newTagId).memories

lemma memories_untilMemories (h : r.untilMemories host prepared = some found) :
    found.memories = prepared.memories := by
  obtain ⟨built, hbuilt, h⟩ := Option.bind_eq_some_iff.mp h
  obtain ⟨scheduled, hscheduled, h⟩ := Option.bind_eq_some_iff.mp h
  have hmessages : (r.withMessages scheduled).memories = scheduled.memories := by
    unfold Round.withMessages
    dsimp only
    split <;> rfl
  cases h
  rw [hmessages, memories_foldlM_exec hscheduled, memories_applyStatePatch,
    memories_buildPatchContext hbuilt]

/-- No memory was made from one of these messages. -/
def NoneFrom (ids : List RowId) (db : Db) : Prop :=
  ∀ m ∈ db.memories, RoundCleanup.removesMemory ids m = false

section NoneFrom

variable {ids : List RowId} {text : TextFunctions} {ctx : MemoryContext} {now : Timestamp}
  {op : MemoryOperation} {keys : MemoryKeys}

lemma NoneFrom.update (h : NoneFrom ids db) {id : RowId} {f : MemoryChunk → MemoryChunk}
    (hf : ∀ m, (f m).sourceMessageId = m.sourceMessageId) :
    NoneFrom ids { db with memories := Table.update db.memories id f } := by
  intro m hm
  rcases mem_update.mp hm with ⟨m₀, hm₀, -, rfl⟩ | ⟨hm, -⟩
  · rw [RoundCleanup.removesMemory, hf]
    exact h m₀ hm₀
  · exact h m hm

lemma NoneFrom.append (h : NoneFrom ids db) {new : MemoryChunk}
    (hnew : RoundCleanup.removesMemory ids new = false) :
    NoneFrom ids { db with memories := db.memories ++ [new] } := by
  intro m hm
  rcases List.mem_append.mp hm with hm | hm
  · exact h m hm
  · rw [List.mem_singleton.mp hm]
    exact hnew

lemma NoneFrom.setStatus (status : String) (memoryId : String) (h : NoneFrom ids db) :
    NoneFrom ids (setMemoryStatus status db memoryId) := h.update fun _ => rfl

lemma NoneFrom.setStatuses (status : String) (memoryIds : List String) (h : NoneFrom ids db) :
    NoneFrom ids (memoryIds.foldl (setMemoryStatus status) db) := by
  induction memoryIds generalizing db with
  | nil => exact h
  | cons id memoryIds ih => exact ih (h.setStatus status id)

lemma NoneFrom.persistCandidate (h : NoneFrom ids db) :
    NoneFrom ids (persistCandidate text ctx db op keys now) := by
  unfold CocoonSit.persistCandidate
  dsimp only
  split
  · -- a promoted candidate comes from no message
    refine NoneFrom.append ?_ rfl
    intro m hm
    exact h m (Retrieval.memories_upsertCandidate db _ _ ▸ hm)
  · intro m hm
    exact h m (Retrieval.memories_upsertCandidate db _ _ ▸ hm)

lemma NoneFrom.persistMemory (hctx : ∀ id ∈ ctx.sourceMessageId, id ∉ ids) (h : NoneFrom ids db) :
    NoneFrom ids (persistMemory text ctx db op keys) := by
  cases hupdated : updatedMemory db op with
  | some updated =>
    have hkept : NoneFrom ids
        { db with
          memories := Table.update db.memories updated.id fun m =>
            op.sign ctx (op.update text ctx m) } :=
      h.update fun m => by simp only [MemoryOperation.sign, MemoryOperation.update]
    intro m hm
    rw [memories_persistMemory_of_some hupdated] at hm
    exact hkept m hm
  | none =>
    intro m hm
    simp only [CocoonSit.persistMemory, hupdated, addMemoryTags] at hm
    refine h.append ?_ m hm
    cases hsource : ctx.sourceMessageId with
    | none => simp [RoundCleanup.removesMemory, MemoryOperation.sign, MemoryOperation.toMemory,
        hsource]
    | some id => simpa [RoundCleanup.removesMemory, MemoryOperation.sign,
        MemoryOperation.toMemory, hsource] using hctx id hsource

lemma NoneFrom.persistMemoryOp (hctx : ∀ id ∈ ctx.sourceMessageId, id ∉ ids)
    (h : NoneFrom ids db) : NoneFrom ids (persistMemoryOp text ctx now db op keys) := by
  unfold CocoonSit.persistMemoryOp
  generalize strip op.content = content
  by_cases harchive : op.op = .archive
  · rw [if_pos harchive]
    refine NoneFrom.setStatuses _ _ ?_
    cases op.target? with
    | none => exact h
    | some id => exact h.setStatus _ id
  · rw [if_neg harchive]
    by_cases hblank : content = ""
    · rw [if_pos hblank]
      exact h
    · rw [if_neg hblank]
      by_cases hcandidate : op.op = .candidate ∨ op.importance < 3
      · rw [if_pos hcandidate]
        exact h.persistCandidate
      · rw [if_neg hcandidate]
        exact (h.persistMemory hctx).setStatuses _ _

lemma NoneFrom.persistMemoryOps (hctx : ∀ id ∈ ctx.sourceMessageId, id ∉ ids)
    {keys : ℕ → MemoryKeys} {ops : List MemoryOperation} (h : NoneFrom ids db) :
    NoneFrom ids (persistMemoryOps text ctx now keys ops db) := by
  unfold CocoonSit.persistMemoryOps
  induction ops.zipIdx generalizing db with
  | nil => exact h
  | cons op rest ih => exact ih (h.persistMemoryOp hctx)

end NoneFrom

lemma numbered_of_normalized {item : MemoryOperationModel} {op : MemoryOperation}
    (h : normalizeMemoryOp item = some op) : op.Numbered := by
  obtain ⟨kind, -, rfl⟩ := Option.map_eq_some_iff.mp h
  have hintOr : ∀ n : ℤ, intOr n 3 ≠ 0 := by
    intro n
    unfold intOr
    split
    · decide
    · assumption
  exact ⟨hintOr _, hintOr _⟩

lemma mem_writesOn_update {op op' : MemoryOperation}
    (h : ChunkWrite.update op' ∈ op.writesOn memoryId) : op' = op := by
  unfold MemoryOperation.writesOn at h
  generalize strip op.content = content at h
  have hstatus : ∀ status ids, ChunkWrite.update op' ∉ statusWrites memoryId status ids := by
    intro status ids hmem
    obtain ⟨_, -, heq⟩ := List.mem_map.mp hmem
    cases heq
  by_cases harchive : op.op = .archive
  · rw [if_pos harchive] at h
    exact absurd h (hstatus _ _)
  rw [if_neg harchive] at h
  by_cases hnone : content = "" ∨ op.op = .candidate ∨ op.importance < 3
  · rw [if_pos hnone] at h
    cases h
  rw [if_neg hnone] at h
  rcases List.mem_append.mp h with h | h
  · by_cases hself : op.op = .update ∧ op.target? = some memoryId
    · rw [if_pos hself] at h
      exact ChunkWrite.update.inj (List.mem_singleton.mp h)
    · rw [if_neg hself] at h
      cases h
  · exact absurd h (hstatus _ _)

/-- What the memory operations of a round write to a memory. -/
def Round.writesOn (r : Round) (memoryId : RowId) : List ChunkWrite :=
  r.metaDecision.memoryOps.flatMap fun op => op.writesOn memoryId

lemma numbered_of_mem_writesOn {op : MemoryOperation}
    (h : ChunkWrite.update op ∈ r.writesOn memoryId) : op.Numbered := by
  obtain ⟨op', hop', hmem⟩ := List.mem_flatMap.mp h
  obtain ⟨item, -, hitem⟩ := List.mem_filterMap.mp hop'
  rw [mem_writesOn_update hmem]
  exact numbered_of_normalized hitem

lemma get_persistMemories (h : get found.memories memoryId = some memory) :
    get (r.persistMemories host prepared found).memories memoryId =
      some (if memoryId ∈ r.metaDecision.usedMemoryIds then
        ((r.writesOn memoryId).foldl (ChunkWrite.apply host.text
          (r.memoryContext host prepared found)) memory).touched r.importanceBoost r.now
      else
        (r.writesOn memoryId).foldl (ChunkWrite.apply host.text
          (r.memoryContext host prepared found)) memory) := by
  have hops : get (persistMemoryOps host.text (r.memoryContext host prepared found) r.now
      r.memoryKeys r.metaDecision.memoryOps found).memories memoryId =
      some ((r.writesOn memoryId).foldl (ChunkWrite.apply host.text
        (r.memoryContext host prepared found)) memory) := get_persistMemoryOps _ _ h
  unfold Round.persistMemories touchMemories updateIn
  rw [get_map, hops, Option.map_some]
  · rw [key_of_get hops]
  · intro m
    split <;> rfl

lemma accessCount_foldl_apply (text : TextFunctions) (ctx : MemoryContext) (ws : List ChunkWrite) :
    (ws.foldl (ChunkWrite.apply text ctx) memory).accessCount = memory.accessCount := by
  induction ws generalizing memory with
  | nil => rfl
  | cons w ws ih => rw [List.foldl_cons, ih, ChunkWrite.apply_accessCount]

/-! ## What is asked of a round -/

variable (host r)

/-- The round leaves every memory that its target does not see as it was. -/
def Round.KeepsHidden (db db' : Db) : Prop :=
  ∀ prepared, r.prepare db = some prepared → ∀ memoryId memory,
    get db.memories memoryId = some memory → r.Hidden host prepared memory →
      get db'.memories memoryId = some memory

/-- The answer spares a memory: the message it was made from is not removed, the model does not
say that it has used it, and the operations that name it write nothing that is not there already. -/
structure Round.Spares (db prepared found : Db) (memoryId : RowId) (memory : MemoryChunk) :
    Prop where
  source : RoundCleanup.removesMemory (r.removedMessageIds db) memory = false
  unused : memoryId ∉ r.metaDecision.usedMemoryIds
  nothingNew : WritesNothingNew host.text (r.memoryContext host prepared found) memory
    (r.writesOn memoryId)

/-- It spares every memory that the target does not see. -/
def Round.SparesHidden (db : Db) : Prop :=
  ∀ prepared found, r.prepare db = some prepared → r.untilMemories host prepared = some found →
    ∀ memoryId memory, get db.memories memoryId = some memory → r.Hidden host prepared memory →
      r.Spares host db prepared found memoryId memory

variable {host r}

lemma get_run_iff (hreply : r.replyId ∉ db.messages.map key)
    (hprepare : r.prepare db = some prepared) (huntil : r.untilMemories host prepared = some found)
    (hmemory : get db.memories memoryId = some memory) :
    get (r.persistMemories host prepared found).memories memoryId = some memory ↔
      r.Spares host db prepared found memoryId memory := by
  constructor
  · intro hkept
    have hsource : RoundCleanup.removesMemory (r.removedMessageIds db) memory = false := by
      have hprepared : NoneFrom (r.removedMessageIds db) found := by
        intro m hm
        rw [memories_untilMemories huntil, memories_prepare hprepare] at hm
        exact (Bool.not_eq_true' _).mp (List.mem_filter.mp hm).2
      -- what is written later comes from the reply, which is new
      have hreplyOnly : ∀ id ∈ (r.memoryContext host prepared found).sourceMessageId,
          id ∉ r.removedMessageIds db := by
        intro id hid hremoved
        unfold Round.memoryContext at hid
        dsimp only at hid
        split at hid
        · cases hid
        · cases hid
          exact hreply (mem_messages_of_removed hremoved)
      have hwritten : NoneFrom (r.removedMessageIds db)
          (persistMemoryOps host.text (r.memoryContext host prepared found) r.now r.memoryKeys
            r.metaDecision.memoryOps found) := hprepared.persistMemoryOps hreplyOnly
      rcases mem_updateIn.mp (mem_of_get hkept) with ⟨m₀, hm₀, -, rfl⟩ | ⟨hm, -⟩
      · exact hwritten m₀ hm₀
      · exact hwritten memory hm
    have hfound : get found.memories memoryId = some memory := by
      rw [memories_untilMemories huntil]
      exact (get_prepare_iff hprepare hmemory).mpr hsource
    rw [get_persistMemories hfound] at hkept
    have hkept := Option.some.inj hkept
    by_cases hused : memoryId ∈ r.metaDecision.usedMemoryIds
    · -- an access is counted
      rw [if_pos hused] at hkept
      have hcount := congrArg MemoryChunk.accessCount hkept
      simp only [MemoryChunk.touched, accessCount_foldl_apply] at hcount
      omega
    · rw [if_neg hused] at hkept
      exact ⟨hsource, hused,
        (foldl_apply_eq_self_iff fun _ => numbered_of_mem_writesOn).mp hkept⟩
  · intro hspares
    have hfound : get found.memories memoryId = some memory := by
      rw [memories_untilMemories huntil]
      exact (get_prepare_iff hprepare hmemory).mpr hspares.source
    rw [get_persistMemories hfound, if_neg hspares.unused,
      (foldl_apply_eq_self_iff fun _ => numbered_of_mem_writesOn).mpr hspares.nothingNew]

variable (host) in
/-- A round leaves the memories its target does not see alone exactly when the model's answer, and
the removal of messages before it, spares them. -/
theorem keepsHidden_iff (hrun : r.run host db = some db') :
    r.KeepsHidden host db db' ↔ r.SparesHidden host db := by
  unfold Round.run at hrun
  split at hrun
  · cases hrun
  · next hkeys =>
    have hreply : r.replyId ∉ db.messages.map key := fun h => hkeys (.inr h)
    obtain ⟨prepared, hprepare, hrun⟩ := Option.bind_eq_some_iff.mp hrun
    obtain ⟨found, huntil, hrun⟩ := Option.bind_eq_some_iff.mp hrun
    cases hrun
    constructor
    · intro h prepared' found' hprepare' huntil' memoryId memory hmemory hhidden
      cases hprepare.symm.trans hprepare'
      cases huntil.symm.trans huntil'
      exact (get_run_iff hreply hprepare huntil hmemory).mp
        (h prepared hprepare memoryId memory hmemory hhidden)
    · intro h prepared' hprepare' memoryId memory hmemory hhidden
      cases hprepare.symm.trans hprepare'
      exact (get_run_iff hreply hprepare huntil hmemory).mpr
        (h prepared found hprepare huntil memoryId memory hmemory hhidden)

/-! ## Two rounds -/

def plainHost : Host where
  text := { casefold := fun text => text, fromisoformat := fun _ => none }
  pyStr _ := ""

/-- Two users' cocoons; the second has a private memory. -/
def twoCocoons : Db where
  cocoons := [{ id := "c1", ownerUserId := "ada", characterId := "k" },
    { id := "c2", ownerUserId := "bob", characterId := "k" }]
  memories := [{ id := "m", cocoonId := some "c2", scope := "memory", content := "secret" }]
  users := ["ada", "bob"]

/-- A chat round of the first cocoon whose answer has these memory operations. -/
def roundWith (ops : List MemoryOperationModel) : Round where
  event := { eventType := .chat, target := .cocoon "c1", actionId := "a" }
  memoryOps := ops
  silence := true
  scheduler :=
    { event := { eventType := .chat, target := .cocoon "c1", actionId := "a" }
      isoformat := fun _ => ""
      now := 0
      keys := fun _ => { taskId := "task", jobId := "job" }
      compactionJobId := "compaction" }
  patchKeys := { tagId := "t1", sourceTagId := "t2" }
  thoughtId := "thought"
  replyId := "reply"
  memoryKeys _ := { memoryId := "new", candidateId := "candidate" }
  now := 0

/-- The other user's memory is archived by its id. -/
theorem archive_reaches_hidden :
    ∃ db', (roundWith [{ op := some .archive, targetMemoryId := some "m" }]).run plainHost
        twoCocoons = some db' ∧
      ¬ (roundWith [{ op := some .archive, targetMemoryId := some "m" }]).KeepsHidden plainHost
        twoCocoons db' := by
  obtain ⟨db', hrun⟩ := Option.isSome_iff_exists.mp
    (show ((roundWith [{ op := some .archive, targetMemoryId := some "m" }]).run plainHost
      twoCocoons).isSome by decide +kernel)
  refine ⟨db', hrun, fun h => ?_⟩
  have hstatus : (get db'.memories "m").map MemoryChunk.status = some "active" := by
    rw [h twoCocoons rfl "m" _ rfl (by decide +kernel)]
    rfl
  have harchived : ((roundWith [{ op := some .archive, targetMemoryId := some "m" }]).run plainHost
      twoCocoons).bind (fun db => (get db.memories "m").map MemoryChunk.status) =
      some "archived" := by decide +kernel
  rw [hrun, Option.bind_some, hstatus] at harchived
  revert harchived
  decide

/-- A new memory reaches no other. -/
theorem upsert_keepsHidden :
    ∃ db', (roundWith [{ op := some .upsert, content := "likes tea" }]).run plainHost
        twoCocoons = some db' ∧
      (roundWith [{ op := some .upsert, content := "likes tea" }]).KeepsHidden plainHost
        twoCocoons db' := by
  obtain ⟨db', hrun⟩ := Option.isSome_iff_exists.mp
    (show ((roundWith [{ op := some .upsert, content := "likes tea" }]).run plainHost
      twoCocoons).isSome by decide +kernel)
  refine ⟨db', hrun, (keepsHidden_iff plainHost hrun).mpr ?_⟩
  intro prepared found hprepare huntil memoryId memory hmemory hhidden
  have hsource : memory.sourceMessageId = none := by
    rw [List.mem_singleton.mp (mem_of_get hmemory)]
  have hwrites : (roundWith [{ op := some .upsert, content := "likes tea" }]).writesOn memoryId =
      [] := by
    simp [Round.writesOn, Round.metaDecision, roundWith, normalizeMemoryOps, normalizeMemoryOp,
      MemoryOperation.writesOn, statusWrites, stripAll]
  refine ⟨?_, List.not_mem_nil, ?_⟩
  · rw [RoundCleanup.removesMemory, hsource]
    rfl
  · rw [hwrites]
    exact ⟨trivial, trivial⟩

end MemoryRound

end CocoonSit
