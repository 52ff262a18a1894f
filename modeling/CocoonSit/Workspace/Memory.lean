import CocoonSit.Memory.Service
import CocoonSit.Security.Authorization

/-!
# The memory routes

A memory is edited and deleted through a cocoon: the caller must be able to write the cocoon, and
the memory must be in the cocoon's sight, that is of its lineage or one of its owner's global ones.
The permission of the route is checked before and is left out.

Next to the conversation tables there is the index over the memories.  A memory's entry is computed
from one text, which stands here for the keywords and the vector made of it.
-/

namespace CocoonSit

open Table

/-- `memory_embeddings`; `memory_chunk_id` is unique. -/
structure MemoryEmbedding where
  id : RowId
  memoryChunkId : RowId
  /-- What the keywords and the vector are computed from. -/
  keywordSource : String
  metaJson : JsonDict := .empty

/-- The tables the routes write. -/
structure IndexedDb extends Db where
  embeddings : List MemoryEmbedding := []

/-! ## Tags of a memory -/

/-- `[0-9a-fA-F]`. -/
def isHexDigit (c : Char) : Bool :=
  ('0' ≤ c && c ≤ '9') || ('a' ≤ c && c ≤ 'f') || ('A' ≤ c && c ≤ 'F')

/-- `_looks_like_internal_tag_ref`: 32 hexadecimal digits, or the five groups of a uuid. -/
def looksLikeInternalTagRef (value : String) : Bool :=
  let groups := (strip value).splitOn "-"
  groups.all (fun group => group.toList.all isHexDigit) &&
    (groups.map String.length = [32] || groups.map String.length = [8, 4, 4, 4, 12])

def shouldExposeTagLabel (tag : TagRegistry) : Bool :=
  (tag.isSystem && strip tag.tagId = SYSTEM_TAG_SLUG) || !tag.isHidden

/-- The tag for one reference, with the key of the row it may take. -/
def findOrCreateMemoryTag (db : Db) (owner : RowId) (tagRef : String)
    (newTagId : RowId) : Db × Option TagRegistry :=
  match getTagByAnyRef db tagRef (some owner) with
  | some tag => (db, some tag)
  | none =>
    if tagRef = SYSTEM_TAG_SLUG then
      let (db, tagId) := ensureUserSystemTag db owner newTagId
      (db, get db.tags tagId)
    else if looksLikeInternalTagRef tagRef then (db, none)
    else
      let tag : TagRegistry :=
        { id := newTagId, ownerUserId := owner, tagId := tagRef, brief := tagRef
          visibility := "private", isIsolated := true }
      ({ db with tags := db.tags ++ [tag] }, some tag)

/-- The loop of `resolve_or_create_memory_tags`; `draws` are the keys of the rows created, by
turn. -/
def resolveTagLoop (owner : RowId) (draws : ℕ → RowId) :
    ℕ → Db → List RowId → List String → Db × List RowId
  | _, db, resolved, [] => (db, resolved)
  | turn, db, resolved, rawTag :: refs =>
    let tagRef := strip rawTag
    if tagRef = "" then resolveTagLoop owner draws (turn + 1) db resolved refs
    else
      let (db, tag) := findOrCreateMemoryTag db owner tagRef (draws turn)
      match tag with
      | none => resolveTagLoop owner draws (turn + 1) db resolved refs
      | some tag =>
        if !shouldExposeTagLabel tag || tag.id ∈ resolved then
          resolveTagLoop owner draws (turn + 1) db resolved refs
        else resolveTagLoop owner draws (turn + 1) db (resolved ++ [tag.id]) refs

def resolveOrCreateMemoryTags (db : Db) (ownerUserId : Option RowId) (tagRefs : List String)
    (draws : ℕ → RowId) : Db × List RowId :=
  match ownerUserId.filter (· ≠ "") with
  | none => (db, [])
  | some owner => resolveTagLoop owner draws 0 db [] tagRefs

/-! ## The index -/

def memoryKeywordSource (memory : MemoryChunk) (sourceText : Option String) : String :=
  match sourceText.bind stripOrNone with
  | some text => text
  | none =>
    "\n".intercalate (([memory.summary.getD "", memory.content].map strip).filter (· ≠ ""))

def indexMemoryChunk (s : IndexedDb) (memory : MemoryChunk) (sourceText : Option String)
    (newId : RowId) : IndexedDb :=
  let entry (e : MemoryEmbedding) : MemoryEmbedding :=
    { e with
      keywordSource := memoryKeywordSource memory sourceText
      metaJson := memory.metaJson }
  if s.embeddings.any fun e => e.memoryChunkId = memory.id then
    { s with embeddings :=
        s.embeddings.map fun e => if e.memoryChunkId = memory.id then entry e else e }
  else
    { s with embeddings := s.embeddings ++
        [entry { id := newId, memoryChunkId := memory.id, keywordSource := "" }] }

/-! ## The routes -/

/-- `MemoryUpdateRequest`: a field is absent, null or has a value. -/
structure MemoryUpdateRequest where
  content : Option (Option String) := none
  summary : Option (Option String) := none
  /-- Null and absent are the same here. -/
  tagsJson : Option (List String) := none
  importance : Option (Option ℤ) := none
  confidence : Option (Option ℤ) := none
  status : Option (Option String) := none

namespace MemoryUpdateRequest

/-- A null for a column that takes none, which the flush refuses. -/
def hasNull (payload : MemoryUpdateRequest) : Bool :=
  payload.content = some none || payload.importance = some none ||
    payload.confidence = some none || payload.status = some none

/-- The fields that are set. -/
def applyTo (payload : MemoryUpdateRequest) (memory : MemoryChunk) : MemoryChunk :=
  { memory with
    content := payload.content.join.getD memory.content
    summary := payload.summary.getD memory.summary
    importance := payload.importance.join.getD memory.importance
    confidence := payload.confidence.join.getD memory.confidence
    status := payload.status.join.getD memory.status }

end MemoryUpdateRequest

/-- The memory is of the cocoon's lineage, or a global one of the cocoon's owner. -/
def memoryInReach (db : Db) (cocoon : Cocoon) (memory : MemoryChunk) : Bool :=
  let lineage := listCocoonLineageIds db cocoon.id
  let cocoonIds := if lineage.isEmpty then [cocoon.id] else lineage
  (memory.cocoonId.any fun id => id ∈ cocoonIds) ||
    (memory.ownerUserId = some cocoon.ownerUserId && memory.memoryPool = "user_global")

def MEMORY_NOT_FOUND : HttpError := ⟨404, "Memory not found"⟩

/-- The keys of the rows an update may insert. -/
structure MemoryUpdateDraws where
  tagIds : ℕ → RowId
  embeddingId : RowId

section Routes

variable (settings : Settings) (accounts : Accounts)

/-- The memory, if the caller may change it through this cocoon. -/
def requireMemory (db : Db) (user : User) (cocoonId memoryId : RowId) :
    Except HttpError (Cocoon × MemoryChunk) := do
  let cocoon ← requireCocoonAccess settings accounts db.cocoons user cocoonId true false
  match get db.memories memoryId with
  | none => .error MEMORY_NOT_FOUND
  | some memory =>
    if memoryInReach db cocoon memory then return (cocoon, memory) else .error MEMORY_NOT_FOUND

/-- `memory.tags_json = …` with its rows in `memory_tags`. -/
def retagMemory (db : Db) (cocoon : Cocoon) (memory : MemoryChunk) (tagRefs : List String)
    (draws : ℕ → RowId) : Db × MemoryChunk :=
  let owner := (memory.ownerUserId.filter (· ≠ "")).or (some cocoon.ownerUserId)
  let (db, tags) := resolveOrCreateMemoryTags db owner tagRefs draws
  let db := { db with memoryTags := db.memoryTags.filter fun t => t.memoryChunkId ≠ memory.id }
  (addMemoryTags db memory.id tags, { memory with tagsJson := tags })

/-- `memory.tags_json` is set where tags are given. -/
def applyTags (db : Db) (cocoon : Cocoon) (memory : MemoryChunk) (payload : MemoryUpdateRequest)
    (draws : ℕ → RowId) : Db × MemoryChunk :=
  match payload.tagsJson with
  | none => (db, memory)
  | some tagRefs => retagMemory db cocoon memory tagRefs draws

/-- The flush of the memory, and its new index entry. -/
def writeMemory (s : IndexedDb) (db : Db) (memory : MemoryChunk) (embeddingId : RowId) :
    IndexedDb :=
  indexMemoryChunk
    { s with toDb := { db with memories := update db.memories memory.id fun _ => memory } } memory
    ((memory.summary.filter (· ≠ "")).or (some memory.content)) embeddingId

/-- `PATCH /{cocoon_id}/{memory_id}`. -/
def updateMemory (s : IndexedDb) (user : User) (cocoonId memoryId : RowId)
    (payload : MemoryUpdateRequest) (draws : MemoryUpdateDraws) : Except HttpError IndexedDb := do
  let (cocoon, memory) ← requireMemory settings accounts s.toDb user cocoonId memoryId
  if payload.hasNull then .error ⟨500, "Internal Server Error"⟩
  else
    let (db, memory) := applyTags s.toDb cocoon (payload.applyTo memory) payload draws.tagIds
    return writeMemory s db memory draws.embeddingId

/-- `DELETE /{cocoon_id}/{memory_id}`. -/
def deleteMemory (s : IndexedDb) (user : User) (cocoonId memoryId : RowId) :
    Except HttpError IndexedDb := do
  let (_, memory) ← requireMemory settings accounts s.toDb user cocoonId memoryId
  return { s with
    memoryTags := s.memoryTags.filter fun t => t.memoryChunkId ≠ memoryId
    embeddings := s.embeddings.filter fun e => e.memoryChunkId ≠ memoryId
    memories := s.memories.filter fun m => m.id ≠ memory.id }

end Routes

/-! ## What a tag reference writes -/

/-- The registry after some turns of the loop: rows were created, and the owner's system tag may
have been brought back to its defaults. -/
structure TagsGrown (db₀ : Db) (owner : RowId) (draws : ℕ → RowId) (turn : ℕ) (db : Db) :
    Prop where
  nodup : (db.tags.map key).Nodup
  keys : ∀ k ∈ db.tags.map key, k ∈ db₀.tags.map key ∨ ∃ j < turn, k = draws j
  kept : ∀ t ∈ db₀.tags, t ∈ db.tags ∨ t.isSystem = true ∧ t.ownerUserId = owner
  frame : db = { db₀ with tags := db.tags }

/-- The keys that may be drawn are new and differ from each other. -/
structure FreshTagIds (db : Db) (draws : ℕ → RowId) : Prop where
  new : ∀ j, draws j ∉ db.tags.map key
  inj : Function.Injective draws

section Tags

variable {db₀ db : Db} {owner : RowId} {draws : ℕ → RowId} {turn : ℕ}

lemma TagsGrown.start (owner : RowId) (draws : ℕ → RowId) (hnodup : (db.tags.map key).Nodup) :
    TagsGrown db owner draws 0 db :=
  ⟨hnodup, fun _ hk => .inl hk, fun _ ht => .inl ht, rfl⟩

lemma TagsGrown.next (h : TagsGrown db₀ owner draws turn db) :
    TagsGrown db₀ owner draws (turn + 1) db :=
  ⟨h.nodup, fun k hk => (h.keys k hk).imp_right fun ⟨j, hj, hkj⟩ => ⟨j, by omega, hkj⟩, h.kept,
    h.frame⟩

lemma TagsGrown.append (h : TagsGrown db₀ owner draws turn db) (hfresh : FreshTagIds db₀ draws)
    {tag : TagRegistry} (htag : tag.id = draws turn) :
    TagsGrown db₀ owner draws (turn + 1) { db with tags := db.tags ++ [tag] } := by
  have hnew : draws turn ∉ db.tags.map key := by
    intro hmem
    rcases h.keys _ hmem with h₀ | ⟨j, hj, heq⟩
    · exact hfresh.new turn h₀
    · have := hfresh.inj heq
      omega
  refine ⟨?_, fun k hk => ?_, fun t ht => ?_, ?_⟩
  · show ((db.tags ++ [tag]).map key).Nodup
    rw [List.map_append, List.map_singleton, ← List.concat_eq_append]
    exact h.nodup.concat (by rwa [key_tagRegistry, htag])
  · simp only [List.map_append, List.map_singleton, List.mem_append, List.mem_singleton] at hk
    rcases hk with hk | rfl
    · exact (h.next.keys k hk)
    · exact .inr ⟨turn, Nat.lt_succ_self _, htag⟩
  · exact (h.kept t ht).imp_left fun hmem => List.mem_append_left _ hmem
  · rw [h.frame]

lemma TagsGrown.refresh (h : TagsGrown db₀ owner draws turn db) {tag : TagRegistry}
    (htag : tag ∈ db.tags) (hsystem : tag.isSystem = true) (howner : tag.ownerUserId = owner) :
    TagsGrown db₀ owner draws (turn + 1)
      { db with tags := update db.tags tag.id refreshSystemTag } := by
  have hkeys : (update db.tags tag.id refreshSystemTag).map key = db.tags.map key :=
    map_key_update fun _ => rfl
  refine ⟨by rw [hkeys]; exact h.nodup, by rw [hkeys]; exact h.next.keys, fun t ht => ?_, ?_⟩
  · rcases h.kept t ht with hmem | hsys
    · by_cases hid : key t = tag.id
      · -- keys are unique, so the row is the system tag itself
        have heq : t = tag := List.inj_on_of_nodup_map h.nodup hmem htag hid
        exact .inr ⟨heq ▸ hsystem, heq ▸ howner⟩
      · exact .inl (mem_update.mpr (.inr ⟨hmem, hid⟩))
    · exact .inr hsys
  · rw [h.frame]

lemma TagsGrown.findOrCreate (h : TagsGrown db₀ owner draws turn db)
    (hfresh : FreshTagIds db₀ draws) (tagRef : String) :
    TagsGrown db₀ owner draws (turn + 1)
      (findOrCreateMemoryTag db owner tagRef (draws turn)).1 := by
  unfold findOrCreateMemoryTag
  cases getTagByAnyRef db tagRef (some owner) with
  | some tag => exact h.next
  | none =>
    dsimp only
    split_ifs
    · -- the system tag is found or created
      unfold ensureUserSystemTag
      cases hfind : findSystemTag db owner with
      | none => exact h.append hfresh rfl
      | some tag =>
        have hspec := List.find?_some hfind
        simp only [decide_eq_true_eq] at hspec
        exact h.refresh (List.mem_of_find?_eq_some hfind) hspec.2 hspec.1
    · exact h.next
    · exact h.append hfresh rfl

lemma TagsGrown.loop (hfresh : FreshTagIds db₀ draws) (refs : List String) (turn : ℕ) (db : Db)
    (resolved : List RowId) (h : TagsGrown db₀ owner draws turn db) :
    ∃ turn', TagsGrown db₀ owner draws turn'
      (resolveTagLoop owner draws turn db resolved refs).1 := by
  induction refs generalizing turn db resolved with
  | nil => exact ⟨turn, h⟩
  | cons rawTag refs ih =>
    unfold resolveTagLoop
    dsimp only
    split_ifs
    · exact ih _ _ _ h.next
    · have hnext := h.findOrCreate hfresh (strip rawTag)
      split
      · exact ih _ _ _ hnext
      · split_ifs
        · exact ih _ _ _ hnext
        · exact ih _ _ _ hnext

end Tags

/-! ## What the routes write -/

/-- The rows that are changed or deleted are those of memories in reach of the cocoon, and of the
registry at most a system tag of the owner of one, or of the cocoon's. -/
structure TouchesInReach (s s' : IndexedDb) (cocoon : Cocoon) : Prop where
  memories : ∀ m ∈ s.memories, m ∉ s'.memories → memoryInReach s.toDb cocoon m = true
  memoryTags : ∀ t ∈ s.memoryTags, t ∉ s'.memoryTags →
    ∃ m ∈ s.memories, m.id = t.memoryChunkId ∧ memoryInReach s.toDb cocoon m = true
  embeddings : ∀ e ∈ s.embeddings, e ∉ s'.embeddings →
    ∃ m ∈ s.memories, m.id = e.memoryChunkId ∧ memoryInReach s.toDb cocoon m = true
  tags : ∀ t ∈ s.tags, t ∉ s'.tags → t.isSystem = true ∧
    (t.ownerUserId = cocoon.ownerUserId ∨ ∃ m ∈ s.memories,
      m.ownerUserId = some t.ownerUserId ∧ memoryInReach s.toDb cocoon m = true)
  rest : s'.toDb = { s.toDb with
    memories := s'.memories, memoryTags := s'.memoryTags, tags := s'.tags }

section Writes

variable {settings : Settings} {accounts : Accounts} {s s' : IndexedDb} {user : User}
  {cocoonId memoryId : RowId}

lemma requireMemory_eq_ok {db : Db} {cocoon : Cocoon} {memory : MemoryChunk}
    (h : requireMemory settings accounts db user cocoonId memoryId = .ok (cocoon, memory)) :
    (get db.cocoons cocoonId = some cocoon ∧
      canAccessCocoon settings accounts user cocoon true false = true) ∧
      get db.memories memoryId = some memory ∧ memoryInReach db cocoon memory = true := by
  unfold requireMemory at h
  obtain ⟨found, haccess, h⟩ := except_bind_eq_ok.mp h
  cases hget : get db.memories memoryId with
  | none =>
    rw [hget] at h
    cases h
  | some row =>
    rw [hget] at h
    by_cases hreach : memoryInReach db found row = true
    · simp only [hreach, if_true, pure, Except.pure, Except.ok.injEq, Prod.mk.injEq] at h
      obtain ⟨rfl, rfl⟩ := h
      exact ⟨requireCocoonAccess_eq_ok.mp haccess, rfl, hreach⟩
    · simp only [hreach, Bool.false_eq_true, if_false, reduceCtorEq] at h

/-- What retagging leaves of the tables: the registry grown, other memories' tag rows, and the rest
as it was. -/
structure Retagged (cocoon : Cocoon) (memory : MemoryChunk) (db db' : Db) : Prop where
  memoryTags : ∀ t ∈ db.memoryTags, t.memoryChunkId ≠ memory.id → t ∈ db'.memoryTags
  tags : ∀ t ∈ db.tags, t ∉ db'.tags → t.isSystem = true ∧
    (t.ownerUserId = cocoon.ownerUserId ∨ memory.ownerUserId = some t.ownerUserId)
  frame : db' = { db with memoryTags := db'.memoryTags, tags := db'.tags }

lemma retagged_retagMemory {db : Db} (cocoon : Cocoon) (memory : MemoryChunk)
    (tagRefs : List String) {draws : ℕ → RowId} (hnodup : (db.tags.map key).Nodup)
    (hfresh : FreshTagIds db draws) :
    Retagged cocoon memory db (retagMemory db cocoon memory tagRefs draws).1 := by
  unfold retagMemory addMemoryTags
  dsimp only
  unfold resolveOrCreateMemoryTags
  cases howner : ((memory.ownerUserId.filter (· ≠ "")).or (some cocoon.ownerUserId)).filter
      (· ≠ "") with
  | none =>
    refine ⟨fun t ht hne => ?_, fun t ht hnot => absurd ht hnot, rfl⟩
    exact List.mem_append_left _ (List.mem_filter.mpr ⟨ht, by simpa using hne⟩)
  | some owner =>
    obtain ⟨turn, hgrown⟩ := TagsGrown.loop hfresh tagRefs 0 db [] (.start owner draws hnodup)
    dsimp only
    -- the owner is the memory's, or else the cocoon's
    have howners : owner = cocoon.ownerUserId ∨ memory.ownerUserId = some owner := by
      obtain ⟨hor, -⟩ := Option.filter_eq_some_iff.mp howner
      rcases Option.or_eq_some_iff.mp hor with hmemory | ⟨-, hcocoon⟩
      · exact .inr (Option.filter_eq_some_iff.mp hmemory).1
      · exact .inl (Option.some.inj hcocoon).symm
    refine ⟨fun t ht hne => ?_, fun t ht hnot => ?_, ?_⟩
    · refine List.mem_append_left _ (List.mem_filter.mpr ⟨?_, by simpa using hne⟩)
      rw [hgrown.frame]
      exact ht
    · rcases hgrown.kept t ht with hkept | ⟨hsystem, ht'⟩
      · exact absurd hkept hnot
      · refine ⟨hsystem, ?_⟩
        rw [ht']
        exact howners
    · rw [hgrown.frame]

lemma indexMemoryChunk_spec (s : IndexedDb) (memory : MemoryChunk) (sourceText : Option String)
    (newId : RowId) : (indexMemoryChunk s memory sourceText newId).toDb = s.toDb ∧
      ∀ e ∈ s.embeddings, e.memoryChunkId ≠ memory.id →
        e ∈ (indexMemoryChunk s memory sourceText newId).embeddings := by
  unfold indexMemoryChunk
  dsimp only
  split_ifs
  · refine ⟨rfl, fun e he hne => List.mem_map.mpr ⟨e, he, ?_⟩⟩
    rw [if_neg hne]
  · exact ⟨rfl, fun e he _ => List.mem_append_left _ he⟩

lemma writeMemory_spec (s : IndexedDb) (db : Db) (memory : MemoryChunk) (embeddingId : RowId) :
    (writeMemory s db memory embeddingId).toDb =
        { db with memories := update db.memories memory.id fun _ => memory } ∧
      ∀ e ∈ s.embeddings, e.memoryChunkId ≠ memory.id →
        e ∈ (writeMemory s db memory embeddingId).embeddings :=
  indexMemoryChunk_spec _ memory _ embeddingId

lemma applyTags_spec {db : Db} (cocoon : Cocoon) (memory : MemoryChunk)
    (payload : MemoryUpdateRequest) {draws : ℕ → RowId} (hnodup : (db.tags.map key).Nodup)
    (hfresh : FreshTagIds db draws) :
    (applyTags db cocoon memory payload draws).2.id = memory.id ∧
      Retagged cocoon memory db (applyTags db cocoon memory payload draws).1 := by
  unfold applyTags
  cases payload.tagsJson with
  | none => exact ⟨rfl, fun t ht _ => ht, fun t ht hnot => absurd ht hnot, rfl⟩
  | some tagRefs => exact ⟨rfl, retagged_retagMemory cocoon memory tagRefs hnodup hfresh⟩

lemma updateMemory_eq_ok {payload : MemoryUpdateRequest} {draws : MemoryUpdateDraws}
    (h : updateMemory settings accounts s user cocoonId memoryId payload draws = .ok s') :
    ∃ cocoon memory,
      requireMemory settings accounts s.toDb user cocoonId memoryId = .ok (cocoon, memory) ∧
      writeMemory s (applyTags s.toDb cocoon (payload.applyTo memory) payload draws.tagIds).1
        (applyTags s.toDb cocoon (payload.applyTo memory) payload draws.tagIds).2
        draws.embeddingId = s' := by
  obtain ⟨⟨cocoon, memory⟩, hrequire, h⟩ := except_bind_eq_ok.mp h
  dsimp only at h
  by_cases hnull : payload.hasNull = true
  · simp only [hnull, if_true, reduceCtorEq] at h
  · rw [if_neg hnull] at h
    exact ⟨cocoon, memory, hrequire, Except.ok.inj h⟩

/-- An update writes the memory and what hangs on it. -/
theorem updateMemory_touches {payload : MemoryUpdateRequest} {draws : MemoryUpdateDraws}
    (hmemories : (s.memories.map key).Nodup) (htags : (s.tags.map key).Nodup)
    (hfresh : FreshTagIds s.toDb draws.tagIds)
    (h : updateMemory settings accounts s user cocoonId memoryId payload draws = .ok s') :
    ∃ cocoon, get s.cocoons cocoonId = some cocoon ∧
      canAccessCocoon settings accounts user cocoon true false = true ∧
        TouchesInReach s s' cocoon := by
  obtain ⟨cocoon, memory, hrequire, rfl⟩ := updateMemory_eq_ok h
  obtain ⟨⟨hcocoon, haccess⟩, hmemory, hreach⟩ := requireMemory_eq_ok hrequire
  obtain ⟨hid, hretagged⟩ := applyTags_spec cocoon (payload.applyTo memory) payload htags hfresh
  generalize applyTags s.toDb cocoon (payload.applyTo memory) payload draws.tagIds = written
    at hid hretagged ⊢
  obtain ⟨db, new⟩ := written
  have hid : new.id = memory.id := hid
  have hframe : db = { s.toDb with memoryTags := db.memoryTags, tags := db.tags } :=
    hretagged.frame
  have hmem : memory ∈ s.memories := mem_of_get hmemory
  obtain ⟨htoDb, hentries⟩ := writeMemory_spec s db new draws.embeddingId
  refine ⟨cocoon, hcocoon, haccess, ?_, ?_, ?_, ?_, ?_⟩
  · intro m hm hnot
    by_cases hkey : key m = new.id
    · have heq : m = memory := List.inj_on_of_nodup_map hmemories hm hmem (hkey.trans hid)
      rwa [heq]
    · refine absurd ?_ hnot
      rw [htoDb, hframe]
      exact mem_update.mpr (.inr ⟨hm, hkey⟩)
  · intro t ht hnot
    refine ⟨memory, hmem, ?_, hreach⟩
    by_contra hne
    refine hnot ?_
    rw [htoDb]
    exact hretagged.memoryTags t ht fun heq => hne heq.symm
  · intro e he hnot
    refine ⟨memory, hmem, ?_, hreach⟩
    by_contra hne
    exact hnot (hentries e he fun heq => hne (heq.trans hid).symm)
  · intro t ht hnot
    rw [htoDb] at hnot
    obtain ⟨hsystem, howner⟩ := hretagged.tags t ht hnot
    exact ⟨hsystem, howner.imp_right fun h => ⟨memory, hmem, h, hreach⟩⟩
  · rw [htoDb, hframe]

/-- A deletion deletes the memory and what hangs on it. -/
theorem deleteMemory_touches (hmemories : (s.memories.map key).Nodup)
    (h : deleteMemory settings accounts s user cocoonId memoryId = .ok s') :
    ∃ cocoon, get s.cocoons cocoonId = some cocoon ∧
      canAccessCocoon settings accounts user cocoon true false = true ∧
        TouchesInReach s s' cocoon := by
  obtain ⟨⟨cocoon, memory⟩, hrequire, h⟩ := except_bind_eq_ok.mp h
  obtain ⟨⟨hcocoon, haccess⟩, hmemory, hreach⟩ := requireMemory_eq_ok hrequire
  have hmem : memory ∈ s.memories := mem_of_get hmemory
  have hid : memory.id = memoryId := key_of_get hmemory
  rw [← Except.ok.inj h]
  refine ⟨cocoon, hcocoon, haccess, ?_, ?_, ?_, ?_, rfl⟩
  · intro m hm hnot
    by_cases hkey : key m = memory.id
    · have heq : m = memory := List.inj_on_of_nodup_map hmemories hm hmem hkey
      rwa [heq]
    · exact absurd (List.mem_filter.mpr ⟨hm, by simpa using hkey⟩) hnot
  · intro t ht hnot
    refine ⟨memory, hmem, ?_, hreach⟩
    by_contra hne
    exact hnot (List.mem_filter.mpr ⟨ht, by simpa using fun heq => hne (hid.trans heq.symm)⟩)
  · intro e he hnot
    refine ⟨memory, hmem, ?_, hreach⟩
    by_contra hne
    exact hnot (List.mem_filter.mpr ⟨he, by simpa using fun heq => hne (hid.trans heq.symm)⟩)
  · intro t ht hnot
    exact absurd ht hnot

end Writes

end CocoonSit
