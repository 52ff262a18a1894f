import CocoonSit.Memory.Summaries
import CocoonSit.Memory.Writes
import CocoonSit.Wakeup.Provenance

/-!
# Whether rounds see the memories made for their target

Memories come from the operations of a round and from the items of a compaction or a
reorganisation, at once or by way of a candidate.  Rounds look their target's memories up by pool,
target and owner, and filter them by tags.  The pool and the tags are the model's; a memory that is
left in the target's own pool is seen as far as its tags go, and a user's global memories are seen
by the rounds of rooms alone.
-/

namespace CocoonSit

open Table

namespace Retrieval

/-! ## What creates memories -/

inductive Creation where
  /-- An operation of a round. -/
  | memoryOp (text : TextFunctions) (ctx : MemoryContext) (op : MemoryOperation) (now : Timestamp)
  /-- An item of `long_term_memories`, of a compaction or a reorganisation. -/
  | summaryItem (source : SummarySource) (ctx : SummaryContext) (item : CompactionMemoryItem)

namespace Creation

def target : Creation → Target
  | memoryOp _ ctx _ _ => ctx.event.target
  | summaryItem _ ctx _ => .cocoon ctx.cocoon.id

def exec (db : Db) (keys : MemoryKeys) : Creation → Db
  | memoryOp text ctx op now => persistMemoryOp text ctx now db op keys
  | summaryItem source ctx item => (storeItem source ctx db item keys).1

/-- The tags of an item. -/
def summaryTags (db : Db) (ctx : SummaryContext) (item : CompactionMemoryItem) : Db × List RowId :=
  canonicalizeTagRefs db (ctx.defaultTagId :: item.resolvedTags ctx.catalog) true
    (some ctx.cocoon.ownerUserId) ctx.newTagId

/-- The memory that is inserted, where one is. -/
def chunk (db : Db) (keys : MemoryKeys) : Creation → MemoryChunk
  | memoryOp text ctx op now =>
    let owner := resolveMemoryOwnerUserId db ctx
    if op.op = .candidate ∨ op.importance < 3 then
      (upsertCandidate db ctx.event.target
        (op.toCandidate text ctx owner keys.candidateId now)).2.toMemory "candidate_promotion"
        keys.memoryId
    else op.sign ctx (op.toMemory text ctx owner keys.memoryId)
  | summaryItem source ctx item =>
    let (db, tagIds) := summaryTags db ctx item
    if item.importance < 3 then
      (upsertCandidate db (.cocoon ctx.cocoon.id)
        (item.toCandidate source ctx tagIds keys.candidateId)).2.toMemory source.promotionKind
        keys.memoryId
    else item.toMemory source ctx tagIds keys.memoryId

/-- The pool as the model has written it. -/
def poolText : Creation → String
  | memoryOp _ _ op _ => strip (op.memoryPool.getD "")
  | summaryItem _ _ item => item.memoryPool.getD ""

/-- The owner of the memory: of the candidate it comes from, if it has come up before. -/
def ownerUserId (db : Db) : Creation → Option RowId
  | memoryOp _ ctx op _ =>
    let found := if op.op = .candidate ∨ op.importance < 3 then
      findCandidate db ctx.event.target (strip op.content)
        (normalizeMemoryPool ctx.event.target op.memoryPool) else none
    found.elim (resolveMemoryOwnerUserId db ctx) MemoryCandidate.ownerUserId
  | summaryItem _ ctx _ => some ctx.cocoon.ownerUserId

end Creation

/-! ## What a round looks for -/

/-- The query of `_load_candidate_memories`, the limit apart. -/
def IsCandidate (db : Db) (target : Target) (ownerUserId : Option RowId) (activeTags : List RowId)
    (now : Timestamp) (memory : MemoryChunk) : Prop :=
  memory.status = "active" ∧ (∀ validUntil ∈ memory.validUntil, now ≤ validUntil) ∧
    VisibleTo db target ownerUserId activeTags memory

/-- A round with the same active tags as the one that creates the memory. -/
def SameTags (activeTags : List RowId) : Creation → Prop
  | .memoryOp _ ctx _ _ => ctx.activeTags = activeTags
  | .summaryItem .. => True

/-- The model leaves the memory to the pool of the target, or names it; in a room it may also name
the global memories of the round's owner. -/
def NamesOwnPool (db : Db) (ownerUserId : RowId) (e : Creation) : Prop :=
  match e with
  | .memoryOp _ ctx _ _ =>
    match ctx.event.target with
    | .cocoon _ => e.poolText ∉ ["user_global", "room_local", "public"]
    | .chatGroup _ => e.poolText ∉ ["tree_private", "user_global", "public"] ∨
        e.poolText ∈ ["user_global", "public"] ∧ ownerUserId ≠ "" ∧
          e.ownerUserId db = some ownerUserId
  | .summaryItem .. => e.poolText ∈ ["", "tree_private"]

/-- No tag is active, the model names none that is known, or it names an active one; items have the
owner's default tag as well. -/
def NamesActiveTag (db : Db) (activeTags : List RowId) : Creation → Prop
  | .memoryOp text ctx op _ => activeTags = [] ∨ resolveMemoryOpTags text ctx op = [] ∨
      ∃ t ∈ resolveMemoryOpTags text ctx op, t ∈ activeTags
  | .summaryItem _ ctx item => activeTags = [] ∨
      ∃ t ∈ (Creation.summaryTags db ctx item).2, t ∈ activeTags

def RoomSeesTags (db : Db) (target : Target) (tagIds : List RowId) : Prop :=
  match target with
  | .cocoon _ => True
  | .chatGroup _ => tagsVisibleInTarget db target tagIds = true

/-! ## What is created -/

section Created

variable {db later : Db} {keys : MemoryKeys} {e : Creation} {m : MemoryChunk}

/-- The same memory in another status. -/
def SameButStatus (m m' : MemoryChunk) : Prop := m' = { m with status := m'.status }

lemma sameButStatus_setMemoryStatus {status id : String}
    (hm : m ∈ (setMemoryStatus status db id).memories) :
    ∃ m₀ ∈ db.memories, SameButStatus m₀ m := by
  rcases mem_update.mp hm with ⟨m₀, hm₀, -, rfl⟩ | ⟨hm, -⟩
  · exact ⟨m₀, hm₀, rfl⟩
  · exact ⟨m, hm, rfl⟩

lemma sameButStatus_foldl {status : String} (ids : List String)
    (hm : m ∈ (ids.foldl (setMemoryStatus status) db).memories) :
    ∃ m₀ ∈ db.memories, SameButStatus m₀ m := by
  induction ids generalizing db with
  | nil => exact ⟨m, hm, rfl⟩
  | cons id ids ih =>
    obtain ⟨m₁, hm₁, h₁⟩ := ih hm
    obtain ⟨m₀, hm₀, h₀⟩ := sameButStatus_setMemoryStatus hm₁
    refine ⟨m₀, hm₀, ?_⟩
    rw [SameButStatus, h₁, h₀]

lemma SameButStatus.id {m m' : MemoryChunk} (h : SameButStatus m m') : m'.id = m.id := by
  rw [h]

lemma memories_upsertCandidate (db : Db) (target : Target) (new : MemoryCandidate) :
    (upsertCandidate db target new).1.memories = db.memories := by
  unfold upsertCandidate
  split <;> rfl

lemma created_of_append {new : MemoryChunk} (hfresh : keys.memoryId ∉ db.memories.map key)
    (hm : m ∈ db.memories ++ [new]) (hid : m.id = keys.memoryId) : m = new := by
  rcases List.mem_append.mp hm with hm | hm
  · exact absurd (hid ▸ List.mem_map_of_mem hm) hfresh
  · exact List.mem_singleton.mp hm

lemma created_of_candidate (target : Target) (new : MemoryCandidate) (hits : ℤ) (kind : String)
    (hfresh : keys.memoryId ∉ db.memories.map key) (hid : m.id = keys.memoryId)
    (hm : m ∈ (if hits ≤ (upsertCandidate db target new).2.hitCount then
      promoteCandidateToMemory (upsertCandidate db target new).1
        (upsertCandidate db target new).2 kind keys.memoryId
      else (upsertCandidate db target new).1).memories) :
    m = (upsertCandidate db target new).2.toMemory kind keys.memoryId := by
  split at hm
  · refine created_of_append hfresh ?_ hid
    simpa only [promoteCandidateToMemory, addMemoryTags, memories_upsertCandidate] using hm
  · rw [memories_upsertCandidate] at hm
    exact absurd (hid ▸ List.mem_map_of_mem hm) hfresh

lemma created_persistMemoryOp {text : TextFunctions} {ctx : MemoryContext} {op : MemoryOperation}
    {now : Timestamp} (hfresh : keys.memoryId ∉ db.memories.map key)
    (hm : m ∈ (persistMemoryOp text ctx now db op keys).memories) (hid : m.id = keys.memoryId) :
    SameButStatus ((Creation.memoryOp text ctx op now).chunk db keys) m := by
  have hold : ∀ m₀ ∈ db.memories, ¬ SameButStatus m₀ m := fun m₀ hm₀ h =>
    hfresh (hid ▸ h.id ▸ List.mem_map_of_mem hm₀)
  unfold persistMemoryOp at hm
  generalize strip op.content = content at hm
  by_cases harchive : op.op = .archive
  · rw [if_pos harchive] at hm
    obtain ⟨m₁, hm₁, h₁⟩ := sameButStatus_foldl _ hm
    cases htarget : op.target? with
    | none =>
      rw [htarget] at hm₁
      exact absurd h₁ (hold m₁ hm₁)
    | some memoryId =>
      rw [htarget] at hm₁
      obtain ⟨m₀, hm₀, h₀⟩ := sameButStatus_setMemoryStatus hm₁
      refine absurd ?_ (hold m₀ hm₀)
      rw [SameButStatus, h₁, h₀]
  rw [if_neg harchive] at hm
  by_cases hblank : content = ""
  · rw [if_pos hblank] at hm
    exact absurd rfl (hold m hm)
  rw [if_neg hblank] at hm
  simp only [Creation.chunk]
  by_cases hcandidate : op.op = .candidate ∨ op.importance < 3
  · rw [if_pos hcandidate] at hm ⊢
    rw [SameButStatus, created_of_candidate _ _ _ _ hfresh hid hm]
  · rw [if_neg hcandidate] at hm ⊢
    obtain ⟨m₀, hm₀, h₀⟩ := sameButStatus_foldl _ hm
    have hid₀ : m₀.id = keys.memoryId := h₀.id.symm.trans hid
    cases hupdated : updatedMemory db op with
    | some updated =>
      -- an update keeps the keys, among which the new one is not
      rw [memories_persistMemory_of_some hupdated] at hm₀
      have hkeys := map_key_update (t := db.memories) (k := updated.id)
        (f := fun m => op.sign ctx (op.update text ctx m)) fun m => by
          rw [key_memoryChunk, key_memoryChunk, MemoryOperation.sign_id,
            MemoryOperation.update_id]
      exact absurd (hkeys ▸ hid₀ ▸ List.mem_map_of_mem hm₀) hfresh
    | none =>
      simp only [persistMemory, hupdated, addMemoryTags] at hm₀
      rw [← created_of_append hfresh hm₀ hid₀]
      exact h₀

lemma created_storeItem {source : SummarySource} {ctx : SummaryContext}
    {item : CompactionMemoryItem} (hfresh : keys.memoryId ∉ db.memories.map key)
    (hm : m ∈ (storeItem source ctx db item keys).1.memories) (hid : m.id = keys.memoryId) :
    SameButStatus ((Creation.summaryItem source ctx item).chunk db keys) m := by
  unfold storeItem at hm
  generalize strip item.summary = summary at hm
  generalize strip item.content = content at hm
  by_cases hblank : summary = "" ∨ content = ""
  · rw [if_pos hblank] at hm
    exact absurd (hid ▸ List.mem_map_of_mem hm) hfresh
  rw [if_neg hblank] at hm
  have htags : (canonicalizeTagRefs db (ctx.defaultTagId :: item.resolvedTags ctx.catalog) true
      (some ctx.cocoon.ownerUserId) ctx.newTagId).1.memories = db.memories := by
    rw [(canonicalizeTagRefs_frame ..).frame]
  simp only [Creation.chunk, Creation.summaryTags]
  rcases hcanonical : canonicalizeTagRefs db (ctx.defaultTagId :: item.resolvedTags ctx.catalog)
    true
    (some ctx.cocoon.ownerUserId) ctx.newTagId with ⟨db₁, tagIds⟩
  rw [hcanonical] at hm htags
  dsimp only at hm htags ⊢
  have hfresh' : keys.memoryId ∉ db₁.memories.map key := by rwa [htags]
  by_cases hlow : item.importance < 3
  · rw [if_pos hlow] at hm ⊢
    generalize item.toCandidate source ctx tagIds keys.candidateId = new at hm ⊢
    have hcreated := fun hm => created_of_candidate (m := m) (.cocoon ctx.cocoon.id) new
      ctx.candidatePromoteHits source.promotionKind hfresh' hid hm
    rcases hupsert : upsertCandidate db₁ (.cocoon ctx.cocoon.id) new with ⟨db₂, candidate⟩
    rw [hupsert] at hm hcreated
    dsimp only at hm hcreated ⊢
    rw [SameButStatus, hcreated]
    split at hm
    · next hhits => rwa [if_pos hhits]
    · next hhits => rwa [if_neg hhits]
  · rw [if_neg hlow] at hm ⊢
    rw [SameButStatus, created_of_append hfresh' hm hid]

lemma created_spec (hfresh : keys.memoryId ∉ db.memories.map key)
    (hm : m ∈ (e.exec db keys).memories) (hid : m.id = keys.memoryId) :
    SameButStatus (e.chunk db keys) m := by
  cases e with
  | memoryOp text ctx op now => exact created_persistMemoryOp hfresh hm hid
  | summaryItem source ctx item => exact created_storeItem hfresh hm hid

end Created

/-! ## What it is created with -/

section Fields

variable {db later : Db} {keys : MemoryKeys} {e : Creation} {m : MemoryChunk}

/-- The memory is of the target. -/
def OfTarget (target : Target) (m : MemoryChunk) : Prop :=
  match target with
  | .cocoon id => m.cocoonId = some id
  | .chatGroup id => m.chatGroupId = some id

lemma findCandidate_spec {target : Target} {content pool : String} {c : MemoryCandidate}
    (h : findCandidate db target content pool = some c) : c.memoryPool = pool ∧
      match target with
      | .cocoon id => c.cocoonId = some id
      | .chatGroup id => c.chatGroupId = some id := by
  have hfound := List.find?_some h
  cases target <;> simp only [Bool.and_eq_true, decide_eq_true_eq] at hfound <;>
    exact ⟨hfound.1.2, hfound.2⟩

lemma toMemory_upsertCandidate (db : Db) (target : Target) (new : MemoryCandidate) (kind : String)
    (memoryId : RowId) (hcocoon : new.cocoonId = target.cocoonId?)
    (hroom : new.chatGroupId = target.chatGroupId?) :
    let memory := (upsertCandidate db target new).2.toMemory kind memoryId
    OfTarget target memory ∧ memory.memoryPool = new.memoryPool ∧
      memory.ownerUserId = (findCandidate db target new.content new.memoryPool).elim
        new.ownerUserId MemoryCandidate.ownerUserId ∧
      (new.tagsJson ≠ [] → memory.tagsJson = new.tagsJson) := by
  unfold upsertCandidate
  cases hfound : findCandidate db target new.content new.memoryPool with
  | none =>
    refine ⟨?_, rfl, rfl, fun _ => rfl⟩
    cases target with
    | cocoon id => exact hcocoon
    | chatGroup id => exact hroom
  | some c =>
    obtain ⟨hpool, htarget⟩ := findCandidate_spec hfound
    refine ⟨?_, hpool, rfl, fun hne => if_neg (by simpa using hne)⟩
    cases target with
    | cocoon id => exact htarget
    | chatGroup id => exact htarget

def Creation.memoryPool : Creation → String
  | memoryOp _ ctx op _ => normalizeMemoryPool ctx.event.target op.memoryPool
  | summaryItem _ _ item => textOr (item.memoryPool.getD "") "tree_private"

/-- The tags it is stored with, unless it has come up before as a candidate and has none now. -/
def Creation.tags (db : Db) : Creation → List RowId
  | memoryOp text ctx op _ => memoryOpTags text ctx op
  | summaryItem _ ctx item => (summaryTags db ctx item).2

lemma chunk_spec (db : Db) (keys : MemoryKeys) (e : Creation) :
    OfTarget e.target (e.chunk db keys) ∧ (e.chunk db keys).memoryPool = e.memoryPool ∧
      (∀ roomId, e.target = .chatGroup roomId →
        (e.chunk db keys).ownerUserId = e.ownerUserId db) ∧
      (e.tags db ≠ [] → (e.chunk db keys).tagsJson = e.tags db) := by
  cases e with
  | memoryOp text ctx op now =>
    simp only [Creation.chunk, Creation.target, Creation.memoryPool, Creation.tags]
    by_cases hcandidate : op.op = .candidate ∨ op.importance < 3
    · rw [if_pos hcandidate]
      obtain ⟨htarget, hpool, howner, htags⟩ := toMemory_upsertCandidate db ctx.event.target
        (op.toCandidate text ctx (resolveMemoryOwnerUserId db ctx) keys.candidateId now)
        "candidate_promotion" keys.memoryId rfl rfl
      rw [MemoryOperation.toCandidate_memoryPool] at hpool
      rw [MemoryOperation.toCandidate_tagsJson] at htags
      refine ⟨htarget, hpool, fun _ _ => ?_, htags⟩
      rw [howner, Creation.ownerUserId, if_pos hcandidate]
      rfl
    · rw [if_neg hcandidate]
      simp only [MemoryOperation.sign, MemoryOperation.toMemory]
      refine ⟨?_, trivial, fun _ _ => ?_, fun _ => trivial⟩
      · unfold OfTarget
        split
        · next id htarget => exact congrArg Target.cocoonId? htarget
        · next id htarget => exact congrArg Target.chatGroupId? htarget
      · simp only [Creation.ownerUserId, if_neg hcandidate]
        rfl
  | summaryItem source ctx item =>
    simp only [Creation.chunk, Creation.target, Creation.memoryPool, Creation.tags]
    generalize Creation.summaryTags db ctx item = r
    by_cases hlow : item.importance < 3
    · rw [if_pos hlow]
      obtain ⟨htarget, hpool, -, htags⟩ := toMemory_upsertCandidate r.1 (.cocoon ctx.cocoon.id)
        (item.toCandidate source ctx r.2 keys.candidateId) source.promotionKind keys.memoryId
        rfl rfl
      exact ⟨htarget, hpool, fun _ hroom => (by cases hroom), htags⟩
    · rw [if_neg hlow]
      exact ⟨rfl, rfl, fun _ hroom => (by cases hroom), fun _ => rfl⟩

lemma visible_room_iff {roomId owner : RowId} (hroom : m.chatGroupId = some roomId) :
    visibilityFilter later (.chatGroup roomId) (some owner) m = true ↔
      m.memoryPool = "room_local" ∨
        owner ≠ "" ∧ m.memoryPool = "user_global" ∧ m.ownerUserId = some owner := by
  simp [visibilityFilter, hroom, and_assoc]

lemma mem_lineage (db : Db) (cocoonId : RowId) :
    cocoonId ∈ (if (listCocoonLineageIds db cocoonId).isEmpty then [cocoonId]
      else listCocoonLineageIds db cocoonId) := by
  by_cases hfound : ∃ cocoon, get db.cocoons cocoonId = some cocoon ∧ cocoonId ≠ ""
  · obtain ⟨cocoon, hget, hne⟩ := hfound
    obtain ⟨ancestors, heq⟩ := listCocoonLineage_of_get hget hne
    have hid : cocoon.id = cocoonId := key_of_get hget
    have hmem : cocoonId ∈ listCocoonLineageIds db cocoonId := by
      rw [listCocoonLineageIds, heq]
      simp [hid]
    rw [if_neg (by simpa using List.ne_nil_of_mem hmem)]
    exact hmem
  · -- the walk stops at once
    have hnil : listCocoonLineageIds db cocoonId = [] := by
      rw [listCocoonLineageIds, listCocoonLineage, lineageFrom]
      by_cases hstop : cocoonId = "" ∨ cocoonId ∈ ([] : List RowId)
      · rw [if_pos hstop]
        rfl
      · rw [if_neg hstop]
        cases hget : get db.cocoons cocoonId with
        | none => rfl
        | some cocoon => exact absurd ⟨cocoon, hget, fun h => hstop (.inl h)⟩ hfound
    rw [hnil]
    exact List.mem_cons_self

lemma visible_cocoon_iff {cocoonId : RowId} (hcocoon : m.cocoonId = some cocoonId) :
    visibilityFilter later (.cocoon cocoonId) none m = true ↔ m.memoryPool = "tree_private" := by
  have hmem := mem_lineage later cocoonId
  simp only [visibilityFilter, hcocoon, Option.any_some, Option.any_none, Bool.or_false,
    Bool.and_eq_true, decide_eq_true_eq]
  exact ⟨And.left, fun h => ⟨h, hmem⟩⟩

lemma tagFiltered_iff {target : Target} {activeTags : List RowId} :
    tagFiltered later target activeTags m = true ↔
      (activeTags = [] ∨ m.tagsJson = [] ∨ ∃ t ∈ m.tagsJson, t ∈ activeTags) ∧
        RoomSeesTags later target m.tagsJson := by
  cases target with
  | cocoon id => simp [tagFiltered, RoomSeesTags, or_assoc]
  | chatGroup id =>
    simp only [tagFiltered, RoomSeesTags, tagsVisibleInTarget]
    simp [or_assoc, and_comm]

variable (later) in
lemma visible_of_namesOwnPool {ownerUserId : RowId} (hm : SameButStatus (e.chunk db keys) m)
    (h : NamesOwnPool db ownerUserId e) :
    visibilityFilter later e.target
      (ContextBuilder.memoryLookupOwner e.target ownerUserId) m = true := by
  obtain ⟨htarget, hpool, howner, -⟩ := chunk_spec db keys e
  have hpool' : m.memoryPool = e.memoryPool := by rw [hm, hpool]
  cases e with
  | memoryOp text ctx op now =>
    simp only [NamesOwnPool, Creation.poolText] at h
    simp only [Creation.memoryPool, normalizeMemoryPool] at hpool'
    generalize strip (op.memoryPool.getD "") = pool at h hpool'
    unfold OfTarget at htarget
    simp only [Creation.target] at howner htarget ⊢
    cases hevent : ctx.event.target with
    | cocoon id =>
      rw [hevent] at h hpool' htarget
      have hcocoon : m.cocoonId = some id := by rw [hm, htarget]
      refine (visible_cocoon_iff hcocoon).mpr ?_
      simp only [List.mem_cons, List.not_mem_nil, or_false, not_or] at h
      rw [hpool']
      split
      · next hthree => exact hthree.resolve_right fun h' => h'.elim h.1 h.2.1
      · rw [if_neg h.2.2]
    | chatGroup id =>
      rw [hevent] at h hpool' htarget
      have hroom : m.chatGroupId = some id := by rw [hm, htarget]
      refine (visible_room_iff hroom).mpr ?_
      simp only [List.mem_cons, List.not_mem_nil, or_false, not_or] at h
      rcases h with hown | ⟨hglobal, hne, howned⟩
      · refine .inl ?_
        rw [hpool']
        split
        · next hthree => exact (hthree.resolve_left hown.1).resolve_left hown.2.1
        · rw [if_neg hown.2.2]
      · refine .inr ⟨hne, ?_, by rw [hm, howner id hevent, howned]⟩
        rcases hglobal with rfl | rfl
        · simpa using hpool'
        · simpa using hpool'
  | summaryItem source ctx item =>
    have hcocoon : m.cocoonId = some ctx.cocoon.id := by
      rw [hm]
      exact htarget
    refine (visible_cocoon_iff hcocoon).mpr ?_
    simp only [NamesOwnPool, Creation.poolText, List.mem_cons, List.not_mem_nil, or_false] at h
    rw [hpool', Creation.memoryPool, textOr]
    rcases h with h | h <;> simp [h]

lemma namesActiveTag_iff {activeTags : List RowId} (hm : SameButStatus (e.chunk db keys) m)
    (hsame : SameTags activeTags e) :
    (activeTags = [] ∨ m.tagsJson = [] ∨ ∃ t ∈ m.tagsJson, t ∈ activeTags) ↔
      NamesActiveTag db activeTags e := by
  obtain ⟨-, -, -, htags⟩ := chunk_spec db keys e
  by_cases hempty : activeTags = []
  · cases e <;> simp [NamesActiveTag, hempty]
  cases e with
  | memoryOp text ctx op now =>
    simp only [SameTags] at hsame
    simp only [Creation.tags, memoryOpTags, hsame] at htags
    simp only [NamesActiveTag, hempty, false_or]
    cases hresolved : resolveMemoryOpTags text ctx op with
    | nil =>
      -- the memory has the active tags themselves
      simp only [hresolved, List.isEmpty_nil, if_true] at htags
      refine iff_of_true (.inr ?_) (.inl rfl)
      obtain ⟨t, ht⟩ := List.exists_mem_of_ne_nil _ hempty
      exact ⟨t, by rw [hm, htags hempty]; exact ht, ht⟩
    | cons t ts =>
      simp only [hresolved, List.isEmpty_cons, Bool.false_eq_true, if_false] at htags
      have hjson : m.tagsJson = t :: ts := by rw [hm, htags (List.cons_ne_nil _ _)]
      rw [hjson]
  | summaryItem source ctx item =>
    simp only [NamesActiveTag, hempty, false_or]
    have hne : (Creation.summaryTags db ctx item).2 ≠ [] := List.cons_ne_nil _ _
    have hjson : m.tagsJson = (Creation.summaryTags db ctx item).2 := by
      rw [hm]
      exact htags hne
    rw [hjson]
    simp [hne]

end Fields

/-- A memory that the model's answer creates while its target is worked on is a candidate of the
target's later rounds with the same active tags and memory owner, where it is left in a pool these
look up, exactly when one of its tags is active or none is and, in a room, its known tags are
visible; but a user's global memory is never one for the rounds of the cocoon it was created in. -/
theorem createdMemory_isCandidate_iff (db later : Db) (keys : MemoryKeys) (e : Creation)
    (ownerUserId : RowId) (activeTags : List RowId) (now : Timestamp)
    (hfresh : keys.memoryId ∉ db.memories.map key) (m : MemoryChunk)
    (hm : m ∈ (e.exec db keys).memories) (hid : m.id = keys.memoryId)
    (hactive : m.status = "active") (hunexpired : ∀ validUntil ∈ m.validUntil, now ≤ validUntil)
    (hsame : SameTags activeTags e) :
    (NamesOwnPool db ownerUserId e → (IsCandidate later e.target
        (ContextBuilder.memoryLookupOwner e.target ownerUserId) activeTags now m ↔
      NamesActiveTag db activeTags e ∧ RoomSeesTags later e.target m.tagsJson)) ∧
    ((∃ cocoonId, e.target = .cocoon cocoonId) → e.poolText = "user_global" →
      ¬ IsCandidate later e.target (ContextBuilder.memoryLookupOwner e.target ownerUserId)
        activeTags now m) := by
  have hchunk := created_spec hfresh hm hid
  constructor
  · intro hpool
    have hvisible := visible_of_namesOwnPool later hchunk hpool
    rw [← namesActiveTag_iff hchunk hsame, ← tagFiltered_iff]
    exact ⟨fun h => h.2.2.2, fun h => ⟨hactive, hunexpired, hvisible, h⟩⟩
  · rintro ⟨cocoonId, htarget⟩ hpool ⟨-, -, hvisible, -⟩
    obtain ⟨hof, hmpool, -, -⟩ := chunk_spec db keys e
    rw [htarget] at hof hvisible
    have hcocoon : m.cocoonId = some cocoonId := by rw [hchunk, hof]
    have hprivate := (visible_cocoon_iff hcocoon).mp hvisible
    rw [hchunk, hmpool] at hprivate
    cases e with
    | memoryOp text ctx op now =>
      simp only [Creation.poolText] at hpool
      simp [Creation.memoryPool, normalizeMemoryPool, hpool] at hprivate
    | summaryItem source ctx item =>
      simp only [Creation.poolText] at hpool
      simp [Creation.memoryPool, textOr, hpool] at hprivate

/-- A cocoon whose one active tag is `t1`. -/
def taggedCocoon : Db where
  users := ["u1"]
  cocoons := [{ id := "c1", ownerUserId := "u1", characterId := "ch1" }]

/-- An operation of a round of the cocoon that keeps a memory in this pool. -/
def keeps (pool : Option String) : Creation :=
  .memoryOp { casefold := id, fromisoformat := fun _ => none }
    { event := { eventType := .chat, target := .cocoon "c1", actionId := "a1" }
      characterId := "ch1"
      memoryOwnerUserId := some "u1"
      activeTags := ["t1"]
      tagCatalog := [] }
    { op := .upsert, content := "likes tea", memoryPool := pool } 5

/-- The memory it creates. -/
def kept (pool : Option String) : MemoryChunk := (keeps pool).chunk taggedCocoon ⟨"m1", "k1"⟩

/-- The model keeps a memory of a cocoon in the global pool: the cocoon's rounds do not see it. -/
theorem global_memory_unseen :
    kept (some "user_global") ∈ ((keeps (some "user_global")).exec taggedCocoon
        ⟨"m1", "k1"⟩).memories ∧
      (kept (some "user_global")).status = "active" ∧
      (kept (some "user_global")).validUntil = none ∧
      (kept (some "user_global")).ownerUserId = some "u1" ∧
      ¬ IsCandidate ((keeps (some "user_global")).exec taggedCocoon ⟨"m1", "k1"⟩) (.cocoon "c1")
        (ContextBuilder.memoryLookupOwner (.cocoon "c1") "u1") ["t1"] 6
        (kept (some "user_global")) := by
  refine ⟨List.mem_cons_self, rfl, rfl, by decide, fun h => ?_⟩
  exact absurd h.2.2.1 (by decide)

/-- It leaves the pool open: they see it. -/
theorem private_memory_seen :
    IsCandidate ((keeps none).exec taggedCocoon ⟨"m1", "k1"⟩) (.cocoon "c1")
      (ContextBuilder.memoryLookupOwner (.cocoon "c1") "u1") ["t1"] 6 (kept none) :=
  ((createdMemory_isCandidate_iff taggedCocoon ((keeps none).exec taggedCocoon ⟨"m1", "k1"⟩)
    ⟨"m1", "k1"⟩ (keeps none) "u1" ["t1"] 6 List.not_mem_nil (kept none) List.mem_cons_self rfl rfl
    (fun validUntil h => by cases h) rfl).1 (by simp [NamesOwnPool, keeps, Creation.poolText,
      strip])).mpr
    ⟨.inr (.inl rfl), trivial⟩

end Retrieval

end CocoonSit
