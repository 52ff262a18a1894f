import CocoonSit.Jobs.Compaction

/-!
# The memory reorganisation job

`MemoryReorganizeJobService.execute` has the active memories of a list of ids rewritten into new
ones of the job's cocoon, and archives them.  The provider's answer is a function of what the prompt
is made of.
-/

namespace CocoonSit

open Table

/-- The provider, for the instructions, the memories and the tags of the prompt; `none` where the
call or the parsing of its answer raises. -/
abbrev SummaryProvider :=
  Option String → List MemoryChunk → List TagRegistry → Option CompactionOutput

/-- What a reorganisation writes into its rows. -/
def reorganizeSource (memories : List MemoryChunk) : SummarySource :=
  { sourceKind := "memory_reorganize"
    promotionKind := "memory_reorganize_candidate_promotion"
    candidateMeta := .ofList [("source_kind", .str "memory_reorganize")]
    memoryMeta := fun _ => .ofList
      [("source_kind", .str "memory_reorganize"),
       ("source_memory_ids", .arr (memories.map fun m => .str m.id))] }

/-- The memories the job takes: by id. -/
def reorganizedMemories (db : Db) (memoryIds : List RowId) : List MemoryChunk :=
  db.memories.filter fun m => m.id ∈ memoryIds && m.status = "active"

/-- `memory.status = "archived"` for the memories taken. -/
def archiveMemories (db : Db) (memories : List MemoryChunk) : Db :=
  { db with memories := updateIn db.memories (memories.map MemoryChunk.id) fun m =>
      { m with status := "archived" } }

/-- The new memories of the model's answer. -/
def storeReorganized (db : Db) (cocoon : Cocoon) (catalog : List RowId)
    (memories : List MemoryChunk) (output : CompactionOutput) (env : JobEnv) : Db :=
  let (db, defaultTagId) := ensureUserSystemTag db cocoon.ownerUserId env.newTagId
  (storeItems (reorganizeSource memories)
    { cocoon := cocoon, catalog := catalog, defaultTagId := defaultTagId
      candidatePromoteHits := env.candidatePromoteHits
      candidateTtlHours := env.candidateTtlHours
      newTagId := env.newTagId, now := env.now }
    env.memoryKeys db output.longTermMemories).1

/-- `MemoryReorganizeJobService.execute`. -/
def executeReorganize (db : Db) (cocoonId : RowId) (memoryIds : List RowId)
    (instructions : Option String) (provider : SummaryProvider) (env : JobEnv) : JobEnd :=
  match get db.cocoons cocoonId with
  | none => .raised db
  | some cocoon =>
    let memories := reorganizedMemories db memoryIds
    if memories.isEmpty then .returned db
    else
      let db := startRun db (some (.cocoon cocoonId)) "memory_reorganize" env.runId
      let (db, catalog) := serializePromptTagCatalog db (.cocoon cocoonId) env.newTagId env.now
      match provider instructions memories (catalog.filterMap (get db.tags)) with
      | none => .raised db
      | some output =>
        let db := storeReorganized db cocoon catalog memories output env
        .returned (finishRun (archiveMemories db memories) env.runId .completed env.now)

end CocoonSit
