import CocoonSit.Tags.Policy
import Mathlib.Data.Bool.Basic
import Mathlib.Data.String.Basic

/-!
# Tag services

`TagService` creates and deletes tags, `CocoonTagService` and `ChatGroupTagService` bind them to
targets and unbind them; the latter two are one definition over the target.  Each keeps the
session states' active tags aligned as it goes.  A request that is refused raises before it writes.

`promptTagCatalog` is the numbered list of tags a round shows to the model.
-/

namespace CocoonSit

open Table

/-- A refused request. -/
structure HTTPException where
  statusCode : ℕ
  detail : String
deriving DecidableEq, Repr

def TAG_NOT_FOUND : HTTPException := ⟨404, "Tag not found"⟩

def TAG_BINDING_NOT_FOUND : HTTPException := ⟨404, "Tag binding not found"⟩

def SYSTEM_TAG_UNBIND : HTTPException := ⟨400, "System tag cannot be unbound"⟩

def SYSTEM_TAG_DELETE : HTTPException := ⟨400, "System tag cannot be deleted"⟩

def requireCanonicalTag (db : Db) (tagId : String) (ownerUserId : Option RowId) :
    Except HTTPException TagRegistry :=
  match getTagByAnyRef db tagId ownerUserId with
  | some tag => .ok tag
  | none => .error TAG_NOT_FOUND

/-! ## Tags -/

structure TagCreate where
  tagId : String
  brief : String
  visibility : String := "private"
  metaJson : JsonDict := .empty

def requireValidVisibility (visibility : String) : Except HTTPException String :=
  let normalized := (stripOrNone visibility).getD TAG_VISIBILITY_PRIVATE
  if normalized = TAG_VISIBILITY_PRIVATE then .ok normalized
  else .error ⟨400, "Tags are private and cannot be shared or published"⟩

/-- The row `create_tag` adds. -/
def TagCreate.toTag (payload : TagCreate) (userId newTagId : RowId) : TagRegistry :=
  { id := newTagId
    ownerUserId := userId
    tagId := strip payload.tagId
    brief := payload.brief
    visibility := "private"
    isIsolated := true
    isSystem := false
    isHidden := false
    metaJson := payload.metaJson }

def createTag (db : Db) (userId : RowId) (payload : TagCreate) (newTagId : RowId) :
    Except HTTPException (Db × TagRegistry) :=
  let normalizedTagId := strip payload.tagId
  if normalizedTagId = "" then .error ⟨400, "Tag name is required"⟩
  else if normalizedTagId = "default" then .error ⟨400, "Reserved system tag name"⟩
  else match requireValidVisibility payload.visibility with
    | .error e => .error e
    | .ok _ =>
      if db.tags.any fun t => t.ownerUserId = userId ∧ t.tagId = normalizedTagId then
        .error ⟨400, "Tag already exists"⟩
      else
        let tag := payload.toTag userId newTagId
        .ok ({ db with tags := db.tags ++ [tag] }, tag)

/-- `state.active_tags_json = canonicalize_tag_refs(refs, …)`, for the owner of the target. -/
def setCanonicalTags (db : Db) (target : Target) (refs : List String) (owner : Option RowId)
    (newTagId : RowId) : Db :=
  let (db, activeTags) := canonicalizeTagRefs db refs true owner newTagId
  setActiveTags db target activeTags

/-- The tag is no longer active in the session state. -/
def deactivateTag (db : Db) (state : SessionState) (tagId : RowId) (owner : Option RowId)
    (newTagId : RowId) : Db :=
  setCanonicalTags db state.target (state.activeTagsJson.filter fun item => item ≠ tagId) owner
    newTagId

/-- One turn of the loop of `delete_tag`. -/
def scrubState (db : Db) (tagId : RowId) (state : SessionState) (newTagId : RowId) : Db :=
  if tagId ∈ state.activeTagsJson then
    deactivateTag db state tagId (resolveTagOwnerUserIdForTarget db state.target) newTagId
  else db

/-- The bindings and other rows that name the tag go first. -/
def dropTagLinks (db : Db) (tagId : RowId) : Db :=
  { db with
    tagBindings := db.tagBindings.filter fun b => b.tagId ≠ tagId
    messageTags := db.messageTags.filter fun t => t.tagId ≠ tagId
    memoryTags := db.memoryTags.filter fun t => t.tagId ≠ tagId }

/-- The arrays of messages and memories, and the tag itself, go last. -/
def dropTag (db : Db) (tagId : RowId) : Db :=
  let keep := fun tags : List String => tags.filter fun item => item ≠ tagId
  { db with
    messages := db.messages.map fun m => { m with tagsJson := keep m.tagsJson }
    memories := db.memories.map fun m => { m with tagsJson := keep m.tagsJson }
    tags := db.tags.filter fun t => t.id ≠ tagId }

/-- `TagService.delete_tag`.  A session state whose owner has no default tag draws `newTagId` of its
target. -/
def deleteTag (db : Db) (userId : RowId) (tagRef : String) (newTagId : Target → RowId) :
    Except HTTPException (Db × TagRegistry) :=
  match requireCanonicalTag db tagRef (some userId) with
  | .error e => .error e
  | .ok tag =>
    if isSystemTag tag then .error SYSTEM_TAG_DELETE
    else
      let scrubbed := db.sessionStates.foldl
        (fun db state => scrubState db tag.id state (newTagId state.target))
        (dropTagLinks db tag.id)
      .ok (dropTag scrubbed tag.id, tag)

/-! ## Bindings -/

/-- The tag becomes active in the session state. -/
def activateTag (db : Db) (state : SessionState) (tagId : RowId) (owner : Option RowId)
    (newTagId : RowId) : Db :=
  if tagId ∈ state.activeTagsJson then db
  else setCanonicalTags db state.target (state.activeTagsJson ++ [tagId]) owner newTagId

/-- The binding of the tag to the target. -/
def findBinding (db : Db) (target : Target) (tagId : RowId) : Option TagBinding :=
  db.tagBindings.find? fun b => b.target = target ∧ b.tagId = tagId

def insertBinding (db : Db) (binding : TagBinding) : Db :=
  { db with tagBindings := db.tagBindings ++ [binding] }

def deleteBinding (db : Db) (binding : TagBinding) : Db :=
  { db with tagBindings := db.tagBindings.erase binding }

/-- `bind_tag` of the two tag services. -/
def bindTargetTag (db : Db) (target : Target) (tagId : String) (newTagId : RowId)
    (now : Timestamp) : Except HTTPException (Db × TagBinding) :=
  let owner := resolveTagOwnerUserIdForTarget db target
  match requireCanonicalTag db tagId owner with
  | .error e => .error e
  | .ok tag =>
    let (db, _) := ensureTargetDefaultBinding db target newTagId now
    let (db, state) := getSessionState db target newTagId now
    match findBinding db target tag.id with
    | some existing => .ok (db, existing)
    | none =>
      let binding : TagBinding := { target := target, tagId := tag.id, createdAt := now }
      let db := insertBinding db binding
      .ok (state.elim db fun state => activateTag db state tag.id owner newTagId, binding)

/-- `unbind_tag` of the two tag services. -/
def unbindTargetTag (db : Db) (target : Target) (tagId : String) (newTagId : RowId)
    (now : Timestamp) : Except HTTPException (Db × TagBinding) :=
  let owner := resolveTagOwnerUserIdForTarget db target
  match requireCanonicalTag db tagId owner with
  | .error e => .error e
  | .ok tag =>
    if isSystemTag tag then .error SYSTEM_TAG_UNBIND
    else match findBinding db target tag.id with
      | none => .error TAG_BINDING_NOT_FOUND
      | some binding =>
        let (db, state) := getSessionState db target newTagId now
        let db := state.elim db fun state => deactivateTag db state tag.id owner newTagId
        .ok (deleteBinding db binding, binding)

def CocoonTagService.bindTag (db : Db) (cocoonId : RowId) (tagId : String) (newTagId : RowId)
    (now : Timestamp) : Except HTTPException (Db × TagBinding) :=
  bindTargetTag db (.cocoon cocoonId) tagId newTagId now

def CocoonTagService.unbindTag (db : Db) (cocoonId : RowId) (tagId : String) (newTagId : RowId)
    (now : Timestamp) : Except HTTPException (Db × TagBinding) :=
  unbindTargetTag db (.cocoon cocoonId) tagId newTagId now

def ChatGroupTagService.bindTag (db : Db) (chatGroupId : RowId) (tagId : String)
    (newTagId : RowId) (now : Timestamp) : Except HTTPException (Db × TagBinding) :=
  bindTargetTag db (.chatGroup chatGroupId) tagId newTagId now

def ChatGroupTagService.unbindTag (db : Db) (chatGroupId : RowId) (tagId : String)
    (newTagId : RowId) (now : Timestamp) : Except HTTPException (Db × TagBinding) :=
  unbindTargetTag db (.chatGroup chatGroupId) tagId newTagId now

/-! ## The numbered catalog -/

/-- The sort key of `list_visible_bound_tags`: system tags first, then by name and key. -/
def TagRegistry.catalogKey (t : TagRegistry) : Bool ×ₗ String ×ₗ String :=
  toLex (!t.isSystem, toLex (t.tagId, t.id))

/-- The owner's tags among the bound ones, in the order of the catalog. -/
def orderedBoundTags (db : Db) (bound : List RowId) (owner : RowId) : List TagRegistry :=
  orderBy TagRegistry.catalogKey
    (db.tags.filter fun t => t.id ∈ bound ∧ t.ownerUserId = owner)

/-- `list_visible_bound_tags` with the system tags.  Tags of the owner are visible in the
target. -/
def listVisibleBoundTags (db : Db) (target : Target) (newTagId : RowId) (now : Timestamp) :
    Db × List TagRegistry :=
  match resolveTagOwnerUserIdForTarget db target with
  | none => (db, [])
  | some owner =>
    let (db, bound) := listTargetBoundTagIds db target newTagId now
    (db, orderedBoundTags db bound owner)

/-- `serialize_prompt_tag_catalog`: the ids by index, from 1 on. -/
def serializePromptTagCatalog (db : Db) (target : Target) (newTagId : RowId) (now : Timestamp) :
    Db × List RowId :=
  let (db, tags) := listVisibleBoundTags db target newTagId now
  (db, tags.map TagRegistry.id)

lemma serializePromptTagCatalog_frame (db : Db) (target : Target) (newTagId : RowId)
    (now : Timestamp) : TagsOnly db (serializePromptTagCatalog db target newTagId now).1 := by
  unfold serializePromptTagCatalog listVisibleBoundTags
  cases resolveTagOwnerUserIdForTarget db target with
  | none => exact .refl db
  | some owner => exact ensureTargetDefaultBinding_frame ..

end CocoonSit
