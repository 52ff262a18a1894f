import CocoonSit.Model.Entities
import CocoonSit.Model.Python

/-!
# Tag policy

The shared helpers for user-owned tags (`tag_policy.py`) and the session-state lookups built on
them (`targets.py`).  Every user owns one system tag, the *default* tag; a target's session state
lists the tags that are active for it, as ids of `tag_registry` rows.

The helpers that create rows take the key they may draw (`newTagId`) and the current time.  They
write three tables only, which `TagsOnly` records once for all of them.
-/

namespace CocoonSit

open Table

def SYSTEM_TAG_SLUG : String := "default"

def SYSTEM_TAG_BRIEF : String :=
  "Default memory boundary automatically applied to every target."

def TAG_VISIBILITY_PRIVATE : String := "private"

def isSystemTag (tag : TagRegistry) : Bool := tag.isSystem

/-! ## Lookups -/

def resolveTagOwnerUserIdForTarget (db : Db) : Target → Option RowId
  | .cocoon id => (get db.cocoons id).map Cocoon.ownerUserId
  | .chatGroup id => (get db.rooms id).map ChatGroupRoom.ownerUserId

def isTagVisibleInTarget (db : Db) (tag : TagRegistry) (target : Target) : Bool :=
  (resolveTagOwnerUserIdForTarget db target).any fun owner =>
    owner ≠ "" && tag.ownerUserId = owner

/-- The filter of the tags of a room's rows: all of them that are known are visible there. -/
def tagsVisibleInTarget (db : Db) (target : Target) (tagIds : List RowId) : Bool :=
  tagIds.all fun tagId => (get db.tags tagId).all fun tag => isTagVisibleInTarget db tag target

def getTagByCanonicalId (db : Db) (tagId : String) (ownerUserId : Option RowId) :
    Option TagRegistry :=
  let normalized := strip tagId
  if normalized = "" then none
  else (get db.tags normalized).filter fun tag =>
    ownerUserId.all fun owner => tag.ownerUserId = owner

/-- `get_tag_by_any_ref`: by primary key, and for a known owner by name. -/
def getTagByAnyRef (db : Db) (tagRef : String) (ownerUserId : Option RowId) :
    Option TagRegistry :=
  let normalized := strip tagRef
  if normalized = "" then none
  else match getTagByCanonicalId db normalized ownerUserId, ownerUserId with
    | some tag, _ => some tag
    | none, some owner => db.tags.find? fun t => t.ownerUserId = owner ∧ t.tagId = normalized
    | none, none => none

/-! ## The default tag -/

/-- What `ensure_user_system_tag` writes into a system tag it finds. -/
def refreshSystemTag (tag : TagRegistry) : TagRegistry :=
  { tag with
    tagId := SYSTEM_TAG_SLUG
    brief := SYSTEM_TAG_BRIEF
    visibility := TAG_VISIBILITY_PRIVATE
    isIsolated := true
    isHidden := true
    metaJson := tag.metaJson.set "system" (.bool true) }

/-- The user's system tag, if there is one. -/
def findSystemTag (db : Db) (userId : RowId) : Option TagRegistry :=
  db.tags.find? fun t => t.ownerUserId = userId ∧ t.isSystem

/-- `ensure_user_system_tag`: the key of the user's system tag, created when missing. -/
def ensureUserSystemTag (db : Db) (userId newTagId : RowId) : Db × RowId :=
  match findSystemTag db userId with
  | some tag => ({ db with tags := update db.tags tag.id refreshSystemTag }, tag.id)
  | none =>
    ({ db with tags := db.tags ++
        [{ id := newTagId, ownerUserId := userId, tagId := SYSTEM_TAG_SLUG
           brief := SYSTEM_TAG_BRIEF, visibility := TAG_VISIBILITY_PRIVATE
           isIsolated := true, isSystem := true, isHidden := true
           metaJson := .ofList [("system", .bool true)] }] },
      newTagId)

/-- The loop of `canonicalize_tag_refs`: resolve, keep the owner's tags, drop repetitions. -/
def resolveTagRefs (db : Db) (ownerUserId : Option RowId) (refs : List String) : List RowId :=
  refs.foldl
    (fun resolved raw =>
      match getTagByAnyRef db raw ownerUserId with
      | none => resolved
      | some tag =>
        if ownerUserId.any fun owner => tag.ownerUserId ≠ owner then resolved
        else if tag.id ∈ resolved then resolved
        else resolved ++ [tag.id])
    []

/-- `canonicalize_tag_refs`.  The default tag is added only when the owner is given. -/
def canonicalizeTagRefs (db : Db) (refs : List String) (includeDefault : Bool)
    (ownerUserId : Option RowId) (newTagId : RowId) : Db × List RowId :=
  let resolved := resolveTagRefs db ownerUserId refs
  match includeDefault, ownerUserId with
  | true, some owner =>
    let (db, defaultTag) := ensureUserSystemTag db owner newTagId
    (db, defaultTag :: resolved.filter fun item => item ≠ defaultTag)
  | _, _ => (db, resolved)

/-! ## Bindings and session states -/

def ensureTargetDefaultBinding (db : Db) (target : Target) (newTagId : RowId)
    (now : Timestamp) : Db × RowId :=
  match resolveTagOwnerUserIdForTarget db target with
  | none => (db, SYSTEM_TAG_SLUG)
  | some owner =>
    let (db, defaultTag) := ensureUserSystemTag db owner newTagId
    if db.tagBindings.any fun b => b.target = target ∧ b.tagId = defaultTag then
      (db, defaultTag)
    else
      ({ db with tagBindings := db.tagBindings ++
          [{ target := target, tagId := defaultTag, createdAt := now }] }, defaultTag)

/-- `SELECT tag_id FROM …_tag_bindings WHERE target ORDER BY created_at`. -/
def boundTagIds (db : Db) (target : Target) : List RowId :=
  (orderBy TagBinding.createdAt (db.tagBindings.filter fun b => b.target = target)).map
    TagBinding.tagId

def listTargetBoundTagIds (db : Db) (target : Target) (newTagId : RowId) (now : Timestamp) :
    Db × List RowId :=
  let (db, _) := ensureTargetDefaultBinding db target newTagId now
  (db, boundTagIds db target)

/-- `state.active_tags_json = tags`. -/
def setActiveTags (db : Db) (target : Target) (tags : List RowId) : Db :=
  { db with sessionStates :=
      update db.sessionStates target fun s => { s with activeTagsJson := tags } }

def ensureStateDefaultTag (db : Db) (state : SessionState) (newTagId : RowId) :
    Db × SessionState :=
  let owner := resolveTagOwnerUserIdForTarget db state.target
  let (db, activeTags) := canonicalizeTagRefs db state.activeTagsJson true owner newTagId
  (setActiveTags db state.target activeTags, { state with activeTagsJson := activeTags })

def ensureStateBoundTags (db : Db) (state : SessionState) (newTagId : RowId)
    (now : Timestamp) : Db × SessionState :=
  let owner := resolveTagOwnerUserIdForTarget db state.target
  let (db, bound) := listTargetBoundTagIds db state.target newTagId now
  let (db, activeTags) :=
    canonicalizeTagRefs db (state.activeTagsJson ++ bound) true owner newTagId
  (setActiveTags db state.target activeTags, { state with activeTagsJson := activeTags })

/-- `get_session_state`: the lookup also realigns the active tags. -/
def getSessionState (db : Db) (target : Target) (newTagId : RowId) (now : Timestamp) :
    Db × Option SessionState :=
  match get db.sessionStates target with
  | none => (db, none)
  | some state =>
    let (db, state) := ensureStateBoundTags db state newTagId now
    (db, some state)

def ensureSessionState (db : Db) (target : Target) (newTagId : RowId) (now : Timestamp) :
    Db × SessionState :=
  match getSessionState db target newTagId now with
  | (db, some state) => (db, state)
  | (db, none) =>
    let (db, _) := ensureTargetDefaultBinding db target newTagId now
    let state : SessionState := { target := target }
    ensureStateBoundTags { db with sessionStates := db.sessionStates ++ [state] } state
      newTagId now

/-! ## What the helpers leave alone -/

/-- `db'` differs from `db` in tags, bindings and session states at most. -/
structure TagsOnly (db db' : Db) : Prop where
  frame : db' = { db with
    tags := db'.tags, tagBindings := db'.tagBindings, sessionStates := db'.sessionStates }

namespace TagsOnly

variable {db db₁ db₂ : Db}

lemma refl (db : Db) : TagsOnly db db := ⟨rfl⟩

lemma trans (h₁ : TagsOnly db db₁) (h₂ : TagsOnly db₁ db₂) : TagsOnly db db₂ := by
  refine ⟨?_⟩
  rw [h₂.frame, h₁.frame]

lemma jobs (h : TagsOnly db db₁) : db₁.jobs = db.jobs := by rw [h.frame]

lemma wakeupTasks (h : TagsOnly db db₁) : db₁.wakeupTasks = db.wakeupTasks := by rw [h.frame]

lemma messages (h : TagsOnly db db₁) : db₁.messages = db.messages := by rw [h.frame]

lemma cocoons (h : TagsOnly db db₁) : db₁.cocoons = db.cocoons := by rw [h.frame]

lemma rooms (h : TagsOnly db db₁) : db₁.rooms = db.rooms := by rw [h.frame]

lemma memories (h : TagsOnly db db₁) : db₁.memories = db.memories := by rw [h.frame]

end TagsOnly

lemma ensureUserSystemTag_frame (db : Db) (userId newTagId : RowId) :
    TagsOnly db (ensureUserSystemTag db userId newTagId).1 := by
  unfold ensureUserSystemTag
  split <;> exact ⟨rfl⟩

lemma canonicalizeTagRefs_frame (db : Db) (refs : List String) (includeDefault : Bool)
    (owner : Option RowId) (newTagId : RowId) :
    TagsOnly db (canonicalizeTagRefs db refs includeDefault owner newTagId).1 := by
  unfold canonicalizeTagRefs
  split
  · exact ensureUserSystemTag_frame ..
  · exact .refl db

lemma ensureTargetDefaultBinding_frame (db : Db) (target : Target) (newTagId : RowId)
    (now : Timestamp) : TagsOnly db (ensureTargetDefaultBinding db target newTagId now).1 := by
  unfold ensureTargetDefaultBinding
  split
  · exact .refl db
  · next owner _ =>
    have h := ensureUserSystemTag_frame db owner newTagId
    dsimp only
    split
    · exact h
    · exact h.trans ⟨rfl⟩

lemma ensureStateDefaultTag_frame (db : Db) (state : SessionState) (newTagId : RowId) :
    TagsOnly db (ensureStateDefaultTag db state newTagId).1 :=
  (canonicalizeTagRefs_frame ..).trans ⟨rfl⟩

lemma ensureStateBoundTags_frame (db : Db) (state : SessionState) (newTagId : RowId)
    (now : Timestamp) : TagsOnly db (ensureStateBoundTags db state newTagId now).1 :=
  ((ensureTargetDefaultBinding_frame ..).trans (canonicalizeTagRefs_frame ..)).trans ⟨rfl⟩

lemma getSessionState_frame (db : Db) (target : Target) (newTagId : RowId) (now : Timestamp) :
    TagsOnly db (getSessionState db target newTagId now).1 := by
  unfold getSessionState
  split
  · exact .refl db
  · exact ensureStateBoundTags_frame ..

lemma ensureSessionState_frame (db : Db) (target : Target) (newTagId : RowId)
    (now : Timestamp) : TagsOnly db (ensureSessionState db target newTagId now).1 := by
  have h := getSessionState_frame db target newTagId now
  unfold ensureSessionState
  split
  · next heq => rwa [heq] at h
  · next db₁ heq =>
    rw [heq] at h
    have h₂ := ensureTargetDefaultBinding_frame db₁ target newTagId now
    exact ((h.trans h₂).trans ⟨rfl⟩).trans (ensureStateBoundTags_frame ..)

/-! ## Session states -/

section SessionStates

variable (db : Db) (target : Target) (newTagId : RowId) (now : Timestamp)

@[simp] lemma sessionStates_ensureUserSystemTag (userId : RowId) :
    (ensureUserSystemTag db userId newTagId).1.sessionStates = db.sessionStates := by
  unfold ensureUserSystemTag
  split <;> rfl

@[simp] lemma sessionStates_canonicalizeTagRefs (refs : List String) (includeDefault : Bool)
    (owner : Option RowId) :
    (canonicalizeTagRefs db refs includeDefault owner newTagId).1.sessionStates =
      db.sessionStates := by
  unfold canonicalizeTagRefs
  split
  · exact sessionStates_ensureUserSystemTag ..
  · rfl

@[simp] lemma sessionStates_ensureTargetDefaultBinding :
    (ensureTargetDefaultBinding db target newTagId now).1.sessionStates = db.sessionStates := by
  unfold ensureTargetDefaultBinding
  split
  · rfl
  · dsimp only
    split <;> exact sessionStates_ensureUserSystemTag ..

end SessionStates

end CocoonSit
