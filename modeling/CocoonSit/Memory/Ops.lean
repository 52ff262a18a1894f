import CocoonSit.Memory.Service

/-!
# Memory operations

`MetaNode._normalize_memory_ops` cleans what the model asks for; `SideEffects.persist_memory_ops`
carries it out: new memories, candidates, updates of memories named by id, and memories archived or
superseded by id.
-/

namespace CocoonSit

open Table

/-! ## Normalisation -/

/-- `MemoryOperationModel`, as the model's answer is parsed; the `op` `"none"` is no kind. -/
structure MemoryOperationModel where
  op : Option MemoryOpKind := none
  content : String := ""
  summary : Option String := none
  memoryType : String := "preference"
  memoryPool : Option String := none
  tags : List String := []
  importance : ℤ := 3
  confidence : ℤ := 3
  reason : Option String := none
  validUntil : Option String := none
  targetMemoryId : Option String := none
  supersedesMemoryIds : List String := []

/-- `int(n or default)`. -/
def intOr (n default : ℤ) : ℤ := if n = 0 then default else n

/-- `str(s).strip()` of those that leave anything. -/
def stripAll (texts : List String) : List String :=
  texts.filterMap stripOrNone

/-- One turn of the loop of `_normalize_memory_ops`. -/
def normalizeMemoryOp (item : MemoryOperationModel) : Option MemoryOperation :=
  item.op.map fun kind =>
    { op := kind
      content := strip item.content
      summary := item.summary.bind stripOrNone
      memoryType := if item.memoryType = "" then "preference" else item.memoryType
      memoryPool := (item.memoryPool.filter (· ≠ "")).map strip
      tags := stripAll item.tags
      importance := intOr item.importance 3
      confidence := intOr item.confidence 3
      reason := item.reason.bind stripOrNone
      validUntil := item.validUntil.bind stripOrNone
      targetMemoryId := item.targetMemoryId.bind stripOrNone
      supersedesMemoryIds := stripAll item.supersedesMemoryIds }

def normalizeMemoryOps (items : List MemoryOperationModel) : List MemoryOperation :=
  items.filterMap normalizeMemoryOp

/-! ## What an operation is carried out with -/

/-- Text functions of the host language. -/
structure TextFunctions where
  /-- `str.casefold`. -/
  casefold : String → String
  /-- `datetime.fromisoformat`, after `Z` has become an offset and without its time zone. -/
  fromisoformat : String → Option Timestamp

/-- What `persist_memory_ops` reads of the context package and of the action. -/
structure MemoryContext where
  event : RuntimeEvent
  characterId : RowId
  memoryOwnerUserId : Option RowId
  /-- The session state's active tags when the operations are carried out. -/
  activeTags : List RowId
  /-- The tags of `tag_catalog_by_ref`, by their keys and names. -/
  tagCatalog : List (String × TagRegistry)
  candidatePromoteHits : ℤ := 2
  candidateTtlHours : ℤ := 72
  /-- The reply, if there is one. -/
  sourceMessageId : Option RowId := none

/-- `d[k] = v` on a dict in insertion order. -/
def dictSet (d : List (String × TagRegistry)) (k : String) (v : TagRegistry) :
    List (String × TagRegistry) :=
  if d.any fun entry => entry.1 = k then
    d.map fun entry => if entry.1 = k then (k, v) else entry
  else d ++ [(k, v)]

/-- `tag_catalog_by_ref` of these tags: by key, and then by name. -/
def tagCatalogByRef (tags : List TagRegistry) : List (String × TagRegistry) :=
  tags.foldl (fun d t => dictSet d t.tagId t) (tags.foldl (fun d t => dictSet d t.id t) [])

/-- `payload.get("id") or payload.get("tag_id") or tag`. -/
def TagRegistry.refOr (t : TagRegistry) (tag : String) : String :=
  if t.id ≠ "" then t.id else if t.tagId ≠ "" then t.tagId else tag

/-- The texts by which `_resolve_tag_reference` recognises a tag. -/
def TagRegistry.labels (t : TagRegistry) : List String :=
  [t.id, t.tagId, t.brief] ++ match t.metaJson "name" with
    | some (.str name) => [name]
    | _ => []

def resolveTagReference (text : TextFunctions) (catalog : List (String × TagRegistry))
    (rawTag : String) : String :=
  let tag := strip rawTag
  if tag = "" then ""
  else match (catalog.find? fun entry => entry.1 = tag).map Prod.snd with
    | some direct => direct.refOr tag
    | none =>
      let named := (catalog.map Prod.snd).find? fun t =>
        t.labels.any fun label => text.casefold (strip label) = text.casefold tag
      named.elim tag fun t => t.refOr tag

def resolveMemoryOpTags (text : TextFunctions) (ctx : MemoryContext) (op : MemoryOperation) :
    List String :=
  op.tags.foldl
    (fun resolved tagRef =>
      let tag := resolveTagReference text ctx.tagCatalog tagRef
      if tag ≠ "" ∧ tag ∉ resolved then resolved ++ [tag] else resolved)
    []

/-- The tags of the operation, or else the active ones. -/
def memoryOpTags (text : TextFunctions) (ctx : MemoryContext) (op : MemoryOperation) :
    List String :=
  let resolved := resolveMemoryOpTags text ctx op
  if resolved.isEmpty then ctx.activeTags else resolved

/-- `_resolve_memory_owner_user_id`, without a candidate. -/
def resolveMemoryOwnerUserId (db : Db) (ctx : MemoryContext) : Option RowId :=
  (ctx.memoryOwnerUserId.bind stripOrNone).filter fun id => id ∈ db.users

def normalizeMemoryPool (target : Target) (rawPool : Option String) : String :=
  let value := strip (rawPool.getD "")
  if value = "tree_private" ∨ value = "user_global" ∨ value = "room_local" then value
  else if value = "public" then "user_global"
  else match target with
    | .chatGroup _ => "room_local"
    | .cocoon _ => "tree_private"

def parseTimestamp (text : TextFunctions) (rawValue : Option String) : Option Timestamp :=
  (rawValue.bind stripOrNone).bind text.fromisoformat

/-- The target's id and its kind, as `meta_json` names them. -/
def Target.typeText : Target → String
  | .cocoon _ => "cocoon"
  | .chatGroup _ => "chat_group"

def Target.id : Target → RowId
  | .cocoon id => id
  | .chatGroup id => id

/-- `str(s or "").strip() or None` of an operation's summary. -/
def MemoryOperation.summary? (op : MemoryOperation) : Option String := op.summary.bind stripOrNone

/-! ## Carrying an operation out -/

/-- `max(lo, min(hi, n))`. -/
def clamp (lo hi n : ℤ) : ℤ := max lo (min hi n)

/-- The memory an operation inserts, its `meta_json` apart. -/
def MemoryOperation.toMemory (text : TextFunctions) (ctx : MemoryContext) (op : MemoryOperation)
    (ownerUserId : Option RowId) (memoryId : RowId) : MemoryChunk :=
  { id := memoryId
    cocoonId := ctx.event.target.cocoonId?
    chatGroupId := ctx.event.target.chatGroupId?
    ownerUserId := ownerUserId
    characterId := some ctx.characterId
    sourceMessageId := ctx.sourceMessageId
    memoryPool := normalizeMemoryPool ctx.event.target op.memoryPool
    memoryType := op.memoryType
    scope := "memory"
    content := strip op.content
    summary := op.summary?
    tagsJson := memoryOpTags text ctx op
    importance := clamp 3 5 (intOr op.importance 3)
    confidence := clamp 1 5 (intOr op.confidence 3)
    status := "active"
    validUntil := parseTimestamp text op.validUntil
    sourceKind := "runtime_analysis" }

/-- What an update writes into the memory it names, its `meta_json` apart. -/
def MemoryOperation.update (text : TextFunctions) (ctx : MemoryContext) (op : MemoryOperation)
    (memory : MemoryChunk) : MemoryChunk :=
  { memory with
    content := strip op.content
    summary := op.summary?
    tagsJson := memoryOpTags text ctx op
    importance := clamp 3 5 (intOr op.importance (intOr memory.importance 3))
    confidence := clamp 1 5 (intOr op.confidence (intOr memory.confidence 3))
    memoryType := op.memoryType
    memoryPool := normalizeMemoryPool ctx.event.target op.memoryPool
    status := "active"
    validUntil := parseTimestamp text op.validUntil }

/-- The fields every operation writes into `meta_json`. -/
def MemoryOperation.sign (ctx : MemoryContext) (op : MemoryOperation) (memory : MemoryChunk) :
    MemoryChunk :=
  { memory with
    metaJson := memory.metaJson.merge (.ofList
      [("action_id", .str ctx.event.actionId),
       ("event_type", .str ctx.event.eventType.text),
       ("target_type", .str ctx.event.target.typeText),
       ("target_id", .str ctx.event.target.id),
       ("source_kind", .str memory.sourceKind),
       ("reason", jsonOfText op.reason)]) }

@[simp] lemma MemoryOperation.sign_id (ctx : MemoryContext) (op : MemoryOperation)
    (memory : MemoryChunk) : (op.sign ctx memory).id = memory.id := rfl

@[simp] lemma MemoryOperation.update_id (text : TextFunctions) (ctx : MemoryContext)
    (op : MemoryOperation) (memory : MemoryChunk) : (op.update text ctx memory).id = memory.id :=
  rfl

def MemoryOperation.toCandidate (text : TextFunctions) (ctx : MemoryContext) (op : MemoryOperation)
    (ownerUserId : Option RowId) (candidateId : RowId) (now : Timestamp) : MemoryCandidate :=
  { id := candidateId
    cocoonId := ctx.event.target.cocoonId?
    chatGroupId := ctx.event.target.chatGroupId?
    ownerUserId := ownerUserId
    characterId := some ctx.characterId
    memoryPool := normalizeMemoryPool ctx.event.target op.memoryPool
    memoryType := op.memoryType
    summary := op.summary?
    content := strip op.content
    tagsJson := memoryOpTags text ctx op
    importance := clamp 0 2 (intOr op.importance 2)
    confidence := clamp 1 5 (intOr op.confidence 2)
    hitCount := 1
    firstSeenAt := now
    lastSeenAt := now
    validUntil := some (now + 3600000000 * (max ctx.candidateTtlHours 1).toNat)
    metaJson := .ofList
      [("action_id", .str ctx.event.actionId), ("reason", jsonOfText op.reason),
       ("source_kind", .str "runtime_analysis")] }

section ToCandidate

variable (text : TextFunctions) (ctx : MemoryContext) (op : MemoryOperation)
  (ownerUserId : Option RowId) (candidateId : RowId) (now : Timestamp)

lemma MemoryOperation.toCandidate_memoryPool :
    (op.toCandidate text ctx ownerUserId candidateId now).memoryPool =
      normalizeMemoryPool ctx.event.target op.memoryPool := by
  simp only [MemoryOperation.toCandidate]

lemma MemoryOperation.toCandidate_tagsJson :
    (op.toCandidate text ctx ownerUserId candidateId now).tagsJson =
      memoryOpTags text ctx op := by
  simp only [MemoryOperation.toCandidate]

end ToCandidate

/-- `memory.status = status`, if there is such a memory. -/
def setMemoryStatus (status : String) (db : Db) (memoryId : String) : Db :=
  { db with memories := Table.update db.memories memoryId fun m => { m with status := status } }

/-- `if op.target_memory_id`. -/
def MemoryOperation.target? (op : MemoryOperation) : Option String :=
  op.targetMemoryId.filter (· ≠ "")

def updatedMemory (db : Db) (op : MemoryOperation) : Option MemoryChunk :=
  if op.op = .update then op.target?.bind (get db.memories) else none

/-- The branch of a candidate. -/
def persistCandidate (text : TextFunctions) (ctx : MemoryContext) (db : Db) (op : MemoryOperation)
    (keys : MemoryKeys) (now : Timestamp) : Db :=
  let new := op.toCandidate text ctx (resolveMemoryOwnerUserId db ctx) keys.candidateId now
  let (db, candidate) := upsertCandidate db ctx.event.target new
  if ctx.candidatePromoteHits ≤ candidate.hitCount then
    promoteCandidateToMemory db candidate "candidate_promotion" keys.memoryId
  else db

/-- The branch of a memory: the one the operation updates, or a new one. -/
def persistMemory (text : TextFunctions) (ctx : MemoryContext) (db : Db) (op : MemoryOperation)
    (keys : MemoryKeys) : Db :=
  match updatedMemory db op with
  | some memory =>
    let db := { db with
      memories := Table.update db.memories memory.id fun m => op.sign ctx (op.update text ctx m)
      memoryTags := db.memoryTags.filter fun t => t.memoryChunkId ≠ memory.id }
    addMemoryTags db memory.id (memoryOpTags text ctx op)
  | none =>
    let memory := op.toMemory text ctx (resolveMemoryOwnerUserId db ctx) keys.memoryId
    let db := { db with memories := db.memories ++ [op.sign ctx memory] }
    addMemoryTags db memory.id (memoryOpTags text ctx op)

/-- One turn of the loop of `persist_memory_ops`. -/
def persistMemoryOp (text : TextFunctions) (ctx : MemoryContext) (now : Timestamp) (db : Db)
    (op : MemoryOperation) (keys : MemoryKeys) : Db :=
  if op.op = .archive then
    let db := op.target?.elim db (setMemoryStatus "archived" db)
    op.supersedesMemoryIds.foldl (setMemoryStatus "archived") db
  else if strip op.content = "" then db
  else if op.op = .candidate ∨ op.importance < 3 then
    persistCandidate text ctx db op keys now
  else
    op.supersedesMemoryIds.foldl (setMemoryStatus "contradicted")
      (persistMemory text ctx db op keys)

/-- `persist_memory_ops`; the operations draw their keys one after the other. -/
def persistMemoryOps (text : TextFunctions) (ctx : MemoryContext) (now : Timestamp)
    (keys : ℕ → MemoryKeys) (ops : List MemoryOperation) (db : Db) : Db :=
  ops.zipIdx.foldl (fun db op => persistMemoryOp text ctx now db op.1 (keys op.2)) db

end CocoonSit
