import CocoonSit.Model.Lineage
import CocoonSit.Runtime.Types
import CocoonSit.Tags.Policy

/-!
# The memory service

Long-term memories are pooled: a cocoon sees the private memories of its ancestors, a room its own,
and a user's global ones follow the user.  Memories in sight are filtered by their tags.  The
service also counts accesses, collects candidates and turns a candidate into a memory; the
embeddings, which are derived from a memory's text, are left out.
-/

namespace CocoonSit

open Table

/-! ## What a target sees -/

/-- `_build_visibility_filter`. -/
def visibilityFilter (db : Db) (target : Target) (ownerUserId : Option RowId)
    (memory : MemoryChunk) : Bool :=
  let own := match target with
    | .cocoon cocoonId =>
      let lineage := listCocoonLineageIds db cocoonId
      let lineageIds := if lineage.isEmpty then [cocoonId] else lineage
      memory.memoryPool = "tree_private" && memory.cocoonId.any fun id => id ∈ lineageIds
    | .chatGroup chatGroupId =>
      memory.memoryPool = "room_local" && memory.chatGroupId = some chatGroupId
  own || ownerUserId.any fun owner =>
    owner ≠ "" && memory.memoryPool = "user_global" && memory.ownerUserId = some owner

/-- `_tag_filtered`: whether it keeps the memory.  Rooms look at the owners of its tags as well. -/
def tagFiltered (db : Db) (target : Target) (activeTags : List RowId) (memory : MemoryChunk) :
    Bool :=
  let tagsVisible := match target with
    | .cocoon _ => true
    | .chatGroup _ => memory.tagsJson.all fun tagId =>
      (get db.tags tagId).all fun tag => isTagVisibleInTarget db tag target
  tagsVisible &&
    (activeTags.isEmpty || memory.tagsJson.isEmpty || memory.tagsJson.any fun t => t ∈ activeTags)

/-- The memories a target sees with these active tags, as `retrieve_visible_memories` looks for
them. -/
def VisibleTo (db : Db) (target : Target) (ownerUserId : Option RowId) (activeTags : List RowId)
    (memory : MemoryChunk) : Prop :=
  visibilityFilter db target ownerUserId memory = true ∧
    tagFiltered db target activeTags memory = true

instance (db : Db) (target : Target) (ownerUserId : Option RowId) (activeTags : List RowId)
    (memory : MemoryChunk) : Decidable (VisibleTo db target ownerUserId activeTags memory) :=
  inferInstanceAs (Decidable (_ ∧ _))

/-! ## Accesses -/

/-- What an access writes; `boost` is `int(round(importance + importance_boost))`, and there is
none for a boost of zero. -/
def MemoryChunk.touched (memory : MemoryChunk) (boost : Option (ℤ → ℤ)) (now : Timestamp) :
    MemoryChunk :=
  { memory with
    lastAccessedAt := some now
    accessCount := memory.accessCount + 1
    importance := match boost with
      | some boost => max 0 (min 5 (boost memory.importance))
      | none => memory.importance }

/-- `touch_memories`: by primary key. -/
def touchMemories (db : Db) (memoryIds : List String) (boost : Option (ℤ → ℤ))
    (now : Timestamp) : Db :=
  { db with memories := updateIn db.memories memoryIds fun m => m.touched boost now }

/-! ## Candidates -/

/-- The keys of the rows an operation may insert. -/
structure MemoryKeys where
  memoryId : RowId
  candidateId : RowId

/-- The query of `upsert_candidate`. -/
def findCandidate (db : Db) (target : Target) (content memoryPool : String) :
    Option MemoryCandidate :=
  db.memoryCandidates.find? fun c => c.content = content && c.memoryPool = memoryPool &&
    match target with
    | .cocoon id => c.cocoonId = some id
    | .chatGroup id => c.chatGroupId = some id

/-- What `upsert_candidate` writes into a candidate it finds; `new` is the row it would insert,
whose `meta_json` its caller has filled. -/
def MemoryCandidate.hitBy (item new : MemoryCandidate) : MemoryCandidate :=
  { item with
    summary := new.summary
    tagsJson := if new.tagsJson.isEmpty then item.tagsJson else new.tagsJson
    importance := new.importance
    confidence := new.confidence
    hitCount := item.hitCount + 1
    lastSeenAt := new.lastSeenAt
    validUntil := new.validUntil
    metaJson := new.metaJson }

def upsertCandidate (db : Db) (target : Target) (new : MemoryCandidate) : Db × MemoryCandidate :=
  match findCandidate db target new.content new.memoryPool with
  | some item =>
    ({ db with memoryCandidates := update db.memoryCandidates item.id fun c => c.hitBy new },
      item.hitBy new)
  | none => ({ db with memoryCandidates := db.memoryCandidates ++ [new] }, new)

def MemoryCandidate.toMemory (candidate : MemoryCandidate) (sourceKind : String)
    (memoryId : RowId) : MemoryChunk :=
  { id := memoryId
    cocoonId := candidate.cocoonId
    chatGroupId := candidate.chatGroupId
    ownerUserId := candidate.ownerUserId
    characterId := candidate.characterId
    memoryPool := candidate.memoryPool
    memoryType := candidate.memoryType
    scope := "candidate"
    content := candidate.content
    summary := candidate.summary
    tagsJson := candidate.tagsJson
    importance := max 3 (if candidate.importance = 0 then 3 else candidate.importance)
    confidence := max 1 (if candidate.confidence = 0 then 3 else candidate.confidence)
    sourceKind := sourceKind
    metaJson := candidate.metaJson }

/-- `session.add(MemoryTag(…))` for each of the tags. -/
def addMemoryTags (db : Db) (memoryId : RowId) (tags : List String) : Db :=
  { db with memoryTags := db.memoryTags ++ tags.map fun tag => ⟨memoryId, tag⟩ }

def promoteCandidateToMemory (db : Db) (candidate : MemoryCandidate) (sourceKind : String)
    (memoryId : RowId) : Db :=
  let db := { db with memories := db.memories ++ [candidate.toMemory sourceKind memoryId] }
  let db := addMemoryTags db memoryId candidate.tagsJson
  { db with memoryCandidates := db.memoryCandidates.filter fun c => c.id ≠ candidate.id }

end CocoonSit
