import CocoonSit.Memory.Ops

/-!
# Memories made from summaries

A compaction job has a piece of the conversation summarised, a reorganisation job a selection of
memories; both store the model's `long_term_memories` in the same way.  An item of low importance
becomes a candidate, or a memory when it has come up often enough; any other item becomes a memory
of its own.
-/

namespace CocoonSit

open Table

/-- `CompactionMemoryItemModel`. -/
structure CompactionMemoryItem where
  scope : String := "summary"
  summary : String
  content : String
  tagIndexes : List ℤ := []
  importance : ℤ := 5
  confidence : ℤ := 4
  memoryType : String := "summary"
  memoryPool : Option String := none

/-- `CompactionStructuredOutputModel`. -/
structure CompactionOutput where
  summary : String := ""
  longTermMemories : List CompactionMemoryItem := []

/-- What the two jobs write into the rows they store. -/
structure SummarySource where
  sourceKind : String
  promotionKind : String
  candidateMeta : JsonDict
  memoryMeta : CompactionMemoryItem → JsonDict

/-- What the items are stored with: the cocoon, and the ids of the prompt's tag catalog from
index 1 on. -/
structure SummaryContext where
  cocoon : Cocoon
  catalog : List RowId
  defaultTagId : RowId
  candidatePromoteHits : ℤ := 2
  candidateTtlHours : ℤ := 72
  /-- The key of a default tag that has to be created. -/
  newTagId : RowId
  now : Timestamp

/-- `str(s or default)`. -/
def textOr (s default : String) : String := if s = "" then default else s

/-- The tags of the catalog that an item names. -/
def CompactionMemoryItem.resolvedTags (item : CompactionMemoryItem) (catalog : List RowId) :
    List RowId :=
  catalog.zipIdx.filterMap fun entry =>
    if (entry.2 + 1 : ℤ) ∈ item.tagIndexes then some entry.1 else none

/-- The candidate of an item of low importance. -/
def CompactionMemoryItem.toCandidate (item : CompactionMemoryItem) (source : SummarySource)
    (ctx : SummaryContext) (tagIds : List RowId) (candidateId : RowId) : MemoryCandidate :=
  { id := candidateId
    cocoonId := some ctx.cocoon.id
    ownerUserId := some ctx.cocoon.ownerUserId
    characterId := some ctx.cocoon.characterId
    memoryPool := textOr (item.memoryPool.getD "") "tree_private"
    memoryType := textOr item.memoryType "summary"
    summary := some (strip item.summary)
    content := strip item.content
    tagsJson := tagIds
    importance := clamp 0 2 (intOr item.importance 2)
    confidence := clamp 1 5 (intOr item.confidence 3)
    hitCount := 1
    firstSeenAt := ctx.now
    lastSeenAt := ctx.now
    validUntil := some (ctx.now + 3600000000 * (max ctx.candidateTtlHours 1).toNat)
    metaJson := source.candidateMeta }

def CompactionMemoryItem.toMemory (item : CompactionMemoryItem) (source : SummarySource)
    (ctx : SummaryContext) (tagIds : List RowId) (memoryId : RowId) : MemoryChunk :=
  { id := memoryId
    cocoonId := some ctx.cocoon.id
    ownerUserId := some ctx.cocoon.ownerUserId
    characterId := some ctx.cocoon.characterId
    memoryPool := textOr (item.memoryPool.getD "") "tree_private"
    memoryType := textOr item.memoryType "summary"
    scope := textOr item.scope "summary"
    content := strip item.content
    summary := some (strip item.summary)
    tagsJson := tagIds
    importance := clamp 3 5 (intOr item.importance 3)
    confidence := clamp 1 5 (intOr item.confidence 4)
    status := "active"
    sourceKind := source.sourceKind
    metaJson := source.memoryMeta item }

/-- One turn of the loop over `long_term_memories`: the memory it creates, if it does. -/
def storeItem (source : SummarySource) (ctx : SummaryContext) (db : Db)
    (item : CompactionMemoryItem) (keys : MemoryKeys) : Db × Option RowId :=
  if strip item.summary = "" ∨ strip item.content = "" then (db, none)
  else
    let (db, tagIds) := canonicalizeTagRefs db (ctx.defaultTagId :: item.resolvedTags ctx.catalog)
      true (some ctx.cocoon.ownerUserId) ctx.newTagId
    if item.importance < 3 then
      let (db, candidate) := upsertCandidate db (.cocoon ctx.cocoon.id)
        (item.toCandidate source ctx tagIds keys.candidateId)
      if ctx.candidatePromoteHits ≤ candidate.hitCount then
        (promoteCandidateToMemory db candidate source.promotionKind keys.memoryId,
          some keys.memoryId)
      else (db, none)
    else
      let memory := item.toMemory source ctx tagIds keys.memoryId
      (addMemoryTags { db with memories := db.memories ++ [memory] } memory.id tagIds,
        some memory.id)

/-- An item is stored after others that created these memories. -/
def storeNext (source : SummarySource) (ctx : SummaryContext) (keys : ℕ → MemoryKeys)
    (stored : Db × List RowId) (item : CompactionMemoryItem × ℕ) : Db × List RowId :=
  let (db, created) := storeItem source ctx stored.1 item.1 (keys item.2)
  (db, stored.2 ++ created.toList)

lemma storeNext_fst (source : SummarySource) (ctx : SummaryContext) (keys : ℕ → MemoryKeys)
    (stored : Db × List RowId) (item : CompactionMemoryItem × ℕ) :
    (storeNext source ctx keys stored item).1 =
      (storeItem source ctx stored.1 item.1 (keys item.2)).1 := by
  simp only [storeNext]

/-- The loop: the memories created. -/
def storeItems (source : SummarySource) (ctx : SummaryContext) (keys : ℕ → MemoryKeys) (db : Db)
    (items : List CompactionMemoryItem) : Db × List RowId :=
  items.zipIdx.foldl (storeNext source ctx keys) (db, [])

/-! ## What storing items leaves alone -/

/-- `db'` differs from `db` in tags and in what belongs to memories at most. -/
structure MemoriesOnly (db db' : Db) : Prop where
  frame : db' = { db with
    tags := db'.tags, tagBindings := db'.tagBindings, sessionStates := db'.sessionStates
    memories := db'.memories, memoryTags := db'.memoryTags
    memoryCandidates := db'.memoryCandidates }

namespace MemoriesOnly

variable {db db₁ db₂ : Db}

lemma refl (db : Db) : MemoriesOnly db db := ⟨rfl⟩

lemma trans (h₁ : MemoriesOnly db db₁) (h₂ : MemoriesOnly db₁ db₂) : MemoriesOnly db db₂ := by
  refine ⟨?_⟩
  rw [h₂.frame, h₁.frame]

lemma ofTags (h : TagsOnly db db₁) : MemoriesOnly db db₁ := ⟨by rw [h.frame]⟩

lemma messages (h : MemoriesOnly db db₁) : db₁.messages = db.messages := by rw [h.frame]

lemma cocoons (h : MemoriesOnly db db₁) : db₁.cocoons = db.cocoons := by rw [h.frame]

end MemoriesOnly

lemma memoriesOnly_storeItem (source : SummarySource) (ctx : SummaryContext) (db : Db)
    (item : CompactionMemoryItem) (keys : MemoryKeys) :
    MemoriesOnly db (storeItem source ctx db item keys).1 := by
  unfold storeItem
  generalize strip item.summary = summary
  generalize strip item.content = content
  by_cases hblank : summary = "" ∨ content = ""
  · rw [if_pos hblank]
    exact .refl db
  · rw [if_neg hblank]
    have htags := MemoriesOnly.ofTags (canonicalizeTagRefs_frame db
      (ctx.defaultTagId :: item.resolvedTags ctx.catalog) true (some ctx.cocoon.ownerUserId)
      ctx.newTagId)
    dsimp only
    generalize canonicalizeTagRefs db (ctx.defaultTagId :: item.resolvedTags ctx.catalog) true
      (some ctx.cocoon.ownerUserId) ctx.newTagId = r at htags
    have hupsert : ∀ new, MemoriesOnly r.1 (upsertCandidate r.1 (.cocoon ctx.cocoon.id) new).1 := by
      intro new
      unfold upsertCandidate
      split <;> exact ⟨rfl⟩
    generalize item.toCandidate source ctx r.2 keys.candidateId = new
    generalize item.toMemory source ctx r.2 keys.memoryId = memory
    split
    · split
      · exact (htags.trans (hupsert _)).trans ⟨rfl⟩
      · exact htags.trans (hupsert _)
    · exact htags.trans ⟨rfl⟩

lemma memoriesOnly_storeItems (source : SummarySource) (ctx : SummaryContext)
    (keys : ℕ → MemoryKeys) (db : Db) (items : List CompactionMemoryItem) :
    MemoriesOnly db (storeItems source ctx keys db items).1 := by
  have hloop : ∀ (items : List (CompactionMemoryItem × ℕ)) (stored : Db × List RowId),
      MemoriesOnly stored.1 (items.foldl (storeNext source ctx keys) stored).1 := by
    intro items
    induction items with
    | nil => exact fun stored => .refl stored.1
    | cons item items ih =>
      intro stored
      have hone : MemoriesOnly stored.1 (storeNext source ctx keys stored item).1 := by
        unfold storeNext
        exact memoriesOnly_storeItem source ctx stored.1 item.1 (keys item.2)
      rw [List.foldl_cons]
      exact hone.trans (ih _)
  exact hloop items.zipIdx (db, [])

end CocoonSit
