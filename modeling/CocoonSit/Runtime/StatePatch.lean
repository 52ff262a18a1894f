import CocoonSit.Runtime.Types
import CocoonSit.Tags.Services
import CocoonSit.Wakeup.Tasks

/-!
# State patches

`SideEffects.apply_state_patch` writes a decision into the target's session state: the relation
score and the persona, the tag operations, and in a merge round what the source's state brings
along.  Tags are named by their index in the catalog the context builder has put into the context;
of the builder's work this module has what the patch depends on.
-/

namespace CocoonSit

open Table

/-! ## The context -/

/-- What `apply_state_patch` reads of the context package. -/
structure PatchContext where
  event : RuntimeEvent
  /-- The ids of `prompt_tag_catalog_by_index`, from index 1 on. -/
  tagCatalog : List RowId
  /-- Whose session state `external_context["source_state"]` is. -/
  source : Option Target

/-- The keys of the tags that may be created, for the target and for the source. -/
structure PatchKeys where
  tagId : RowId
  sourceTagId : RowId

/-- `ExternalContextService.build`: the source of a pull or merge round. -/
def buildSource (db : Db) (event : RuntimeEvent) (newTagId : RowId) (now : Timestamp) :
    Db × Option Target :=
  if event.eventType = .pull ∨ event.eventType = .merge then
    match event.payload.text? "source_cocoon_id" with
    | none => (db, none)
    | some sourceCocoonId =>
      if (get db.cocoons sourceCocoonId).isSome then
        let (db, state) := getSessionState db (.cocoon sourceCocoonId) newTagId now
        (db, state.map SessionState.target)
      else (db, none)
  else (db, none)

/-- `ContextBuilder.build`; it raises when the conversation is not found. -/
def buildPatchContext (db : Db) (event : RuntimeEvent) (keys : PatchKeys) (now : Timestamp) :
    Option (Db × PatchContext) :=
  if (resolveTagOwnerUserIdForTarget db event.target).isSome then
    let (db, _) := ensureSessionState db event.target keys.tagId now
    let (db, source) := buildSource db event keys.sourceTagId now
    let (db, catalog) := serializePromptTagCatalog db event.target keys.tagId now
    some (db, { event := event, tagCatalog := catalog, source := source })
  else none

/-! ## The patch -/

def resolveTagIndex (catalog : List RowId) (tagIndex : ℤ) : String :=
  if 1 ≤ tagIndex then strip (catalog[(tagIndex - 1).toNat]?.getD "") else ""

/-- The canonicalisation of the patch, which is not told the owner. -/
def canonicalizeUnowned (db : Db) (refs : List String) : List RowId :=
  (canonicalizeTagRefs db refs true none "").2

/-- One of `meta.tag_ops`. -/
def applyTagOp (db : Db) (catalog : List RowId) (active : List RowId) (op : TagOperation) :
    List RowId :=
  let tag := resolveTagIndex catalog op.tagIndex
  match op.action with
  | .add => if tag ≠ "" ∧ tag ∉ active then canonicalizeUnowned db (active ++ [tag]) else active
  | .remove => canonicalizeUnowned db (active.filter fun item => item ≠ tag)

/-- One of the source's tags. -/
def mergeTag (db : Db) (active : List RowId) (tag : RowId) : List RowId :=
  if tag ∉ active then canonicalizeUnowned db (active ++ [tag]) else active

def clampScore (score : ℤ) : ℤ := max MIN_RELATION_SCORE (min MAX_RELATION_SCORE score)

/-- What a merge round takes from the source's state. -/
def mergeState (db : Db) (state source : SessionState) : SessionState :=
  { state with
    personaJson := source.personaJson.merge state.personaJson
    relationScore := clampScore ((state.relationScore + source.relationScore).tdiv 2)
    activeTagsJson := source.activeTagsJson.foldl (mergeTag db) state.activeTagsJson }

/-- The source's state of a merge round.  It is the same object as the target's when a cocoon is
merged into itself. -/
def mergeSourceState (db : Db) (ctx : PatchContext) (state : SessionState) :
    Option SessionState :=
  if ctx.event.eventType = .merge then
    ctx.source.bind fun source =>
      if source = state.target then some state else get db.sessionStates source
  else none

/-- What the decision itself makes of the target's state. -/
def decidedState (db : Db) (ctx : PatchContext) (decision : MetaDecision) (state : SessionState) :
    SessionState :=
  { state with
    relationScore := clampScore (state.relationScore + decision.relationDelta)
    personaJson := state.personaJson.merge decision.personaPatch
    activeTagsJson := decision.tagOps.foldl (applyTagOp db ctx.tagCatalog) state.activeTagsJson }

/-- What the patch makes of the target's state. -/
def patchedState (db : Db) (ctx : PatchContext) (decision : MetaDecision) (state : SessionState) :
    SessionState :=
  let decided := decidedState db ctx decision state
  let state := match mergeSourceState db ctx decided with
    | some source => mergeState db decided source
    | none => decided
  { state with
    personaJson := match decision.sessionPersonaPatch with
      | some patch => state.personaJson.merge patch
      | none => state.personaJson }

def applyStatePatch (db : Db) (ctx : PatchContext) (decision : MetaDecision) (newTagId : RowId) :
    Db :=
  match get db.sessionStates ctx.event.target with
  | none => db
  | some state =>
    let (db, state) := ensureStateDefaultTag db state newTagId
    { db with sessionStates := update db.sessionStates ctx.event.target fun _ =>
        patchedState db ctx decision state }

/-- A round up to the end of its state patch. -/
def statePatch (db : Db) (event : RuntimeEvent) (decision : MetaDecision) (keys : PatchKeys)
    (now : Timestamp) : Option Db :=
  (buildPatchContext db event keys now).map fun built =>
    applyStatePatch built.1 built.2 decision keys.tagId

end CocoonSit
