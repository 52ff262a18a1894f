import CocoonSit.Lib.Mirror
import CocoonSit.Tags.ActiveTagsPatch

/-!
# Tags stored twice

A message and a memory list their tags in a JSON array, and the rows of `message_tags` and
`memory_tags` pair them with tags once more.  `TagsAgree` is what is promised of the two copies, and
`InOrder` what the tables are like in every reachable database, whether the copies agree or not.

The helpers of the tag policy write neither copy.  In a database in order every owner has a default
tag, so they leave the registry as it reads and make registered tags active: `Settled` records this
once for all of them.
-/

namespace CocoonSit

open Table Mirror

namespace TagStorage

def messageLayout : Layout Message MessageTag RowId RowId :=
  ⟨Message.id, Message.tagsJson, MessageTag.messageId, MessageTag.tagId⟩

def memoryLayout : Layout MemoryChunk MemoryTag RowId String :=
  ⟨MemoryChunk.id, MemoryChunk.tagsJson, MemoryTag.memoryChunkId, MemoryTag.tagId⟩

/-- The rows of messages and memories name the tags of the arrays, and neither repeats any. -/
structure TagsAgree (db : Db) : Prop where
  messages : Mirrored messageLayout db.messages db.messageTags
  memories : Mirrored memoryLayout db.memories db.memoryTags
  messageArrays : ∀ m ∈ db.messages, m.tagsJson.Nodup
  memoryArrays : ∀ m ∈ db.memories, m.tagsJson.Nodup

/-- Messages and memories with one of the wanted tags are the same by their rows and by their
arrays. -/
def SelectsSame (db : Db) : Prop := ∀ wanted : List String,
  (db.messages.filter fun m => (rowsOf messageLayout db.messageTags m.id).any fun t => t ∈ wanted) =
      (db.messages.filter fun m => m.tagsJson.any fun t => t ∈ wanted) ∧
    (db.memories.filter fun m => (rowsOf memoryLayout db.memoryTags m.id).any fun t => t ∈ wanted) =
      db.memories.filter fun m => m.tagsJson.any fun t => t ∈ wanted

lemma TagsAgree.selectsSame {db : Db} (h : TagsAgree db) : SelectsSame db :=
  fun wanted => ⟨h.messages.filter_eq wanted, h.memories.filter_eq wanted⟩

/-! ## The registry -/

/-- The columns a tag is looked up by. -/
structure TagLabel where
  id : RowId
  ownerUserId : RowId
  tagId : String
  isSystem : Bool

def tagLabel (tag : TagRegistry) : TagLabel := ⟨tag.id, tag.ownerUserId, tag.tagId, tag.isSystem⟩

def tagLabels (db : Db) : List TagLabel := db.tags.map tagLabel

/-- Users, and the owners of cocoons and rooms. -/
def tagOwners (db : Db) : List RowId :=
  db.users ++ db.cocoons.map Cocoon.ownerUserId ++ db.rooms.map ChatGroupRoom.ownerUserId

/-- Keys are distinct, system tags have the default tag's name, and every owner has one. -/
structure Registered (labels : List TagLabel) (owners : List RowId) : Prop where
  keys : (labels.map TagLabel.id).Nodup
  named : ∀ t ∈ labels, t.isSystem → t.tagId = SYSTEM_TAG_SLUG
  default : ∀ owner ∈ owners, ∃ t ∈ labels, t.ownerUserId = owner ∧ t.isSystem

def RegistryInOrder (db : Db) : Prop := Registered (tagLabels db) (tagOwners db)

/-- The tag is in the registry. -/
def IsTag (db : Db) (id : RowId) : Prop := id ∈ (tagLabels db).map TagLabel.id

/-- A list of distinct tags of the registry. -/
structure TagList (db : Db) (tags : List RowId) : Prop where
  nodup : tags.Nodup
  isTag : ∀ id ∈ tags, IsTag db id

/-- What is so in every reachable database. -/
structure InOrder (db : Db) : Prop where
  messageKeys : (db.messages.map key).Nodup
  memoryKeys : (db.memories.map key).Nodup
  messageRows : Attached messageLayout db.messages db.messageTags
  memoryRows : Attached memoryLayout db.memories db.memoryTags
  messageArrays : ∀ m ∈ db.messages, m.tagsJson.Nodup
  memoryArrays : ∀ m ∈ db.memories, m.tagsJson.Nodup
  candidateArrays : ∀ c ∈ db.memoryCandidates, c.tagsJson.Nodup
  activeTags : ∀ s ∈ db.sessionStates, s.activeTagsJson.Nodup
  registry : RegistryInOrder db

/-- Neither copy is written, the registry reads as before, and what is active or bound was so before
or is a tag of the registry. -/
structure Settled (db db' : Db) : Prop where
  messages : db'.messages = db.messages
  messageTags : db'.messageTags = db.messageTags
  memories : db'.memories = db.memories
  memoryTags : db'.memoryTags = db.memoryTags
  candidates : db'.memoryCandidates = db.memoryCandidates
  owners : tagOwners db' = tagOwners db
  targetOwner : ∀ target,
    resolveTagOwnerUserIdForTarget db' target = resolveTagOwnerUserIdForTarget db target
  labels : tagLabels db' = tagLabels db
  active : ∀ s ∈ db'.sessionStates,
    (∃ s₀ ∈ db.sessionStates, s.activeTagsJson = s₀.activeTagsJson) ∨
      TagList db s.activeTagsJson
  bound : ∀ b ∈ db'.tagBindings, b ∈ db.tagBindings ∨ IsTag db b.tagId

variable {db db' : Db} {target : Target} {owner newTagId : RowId} {now : Timestamp}

lemma isTag_iff {id : RowId} : IsTag db id ↔ id ∈ db.tags.map key := by
  rw [IsTag, tagLabels, List.map_map]
  rfl

lemma isTag_of_mem {tag : TagRegistry} (h : tag ∈ db.tags) : IsTag db tag.id :=
  isTag_iff.mpr (List.mem_map_of_mem h)

lemma isTag_congr (h : tagLabels db' = tagLabels db) {id : RowId} : IsTag db' id ↔ IsTag db id := by
  rw [IsTag, h, IsTag]

lemma TagList.congr {tags : List RowId} (h : TagList db tags)
    (hlabels : tagLabels db' = tagLabels db) : TagList db' tags :=
  ⟨h.nodup, fun id hid => (isTag_congr hlabels).mpr (h.isTag id hid)⟩

lemma Settled.refl (db : Db) : Settled db db :=
  ⟨rfl, rfl, rfl, rfl, rfl, rfl, fun _ => rfl, rfl, fun s hs => .inl ⟨s, hs, rfl⟩,
    fun _ hb => .inl hb⟩

lemma Settled.trans {db₁ db₂ : Db} (h₁ : Settled db db₁) (h₂ : Settled db₁ db₂) :
    Settled db db₂ := by
  refine ⟨h₂.messages.trans h₁.messages, h₂.messageTags.trans h₁.messageTags,
    h₂.memories.trans h₁.memories, h₂.memoryTags.trans h₁.memoryTags,
    h₂.candidates.trans h₁.candidates, h₂.owners.trans h₁.owners,
    fun t => (h₂.targetOwner t).trans (h₁.targetOwner t), h₂.labels.trans h₁.labels,
    fun s hs => ?_, fun b hb => ?_⟩
  · rcases h₂.active s hs with ⟨s₁, hs₁, heq⟩ | hlist
    · rcases h₁.active s₁ hs₁ with ⟨s₀, hs₀, heq'⟩ | hlist
      · exact .inl ⟨s₀, hs₀, heq.trans heq'⟩
      · exact .inr (heq ▸ hlist)
    · exact .inr (hlist.congr h₁.labels.symm)
  · rcases h₂.bound b hb with hb | htag
    · exact h₁.bound b hb
    · exact .inr ((isTag_congr h₁.labels).mp htag)

lemma Settled.registry (h : Settled db db') (hreg : RegistryInOrder db) : RegistryInOrder db' := by
  rw [RegistryInOrder, h.labels, h.owners]
  exact hreg

lemma Settled.inOrder (h : Settled db db') (ho : InOrder db) : InOrder db' := by
  refine ⟨h.messages ▸ ho.messageKeys, h.memories ▸ ho.memoryKeys, ?_, ?_,
    h.messages ▸ ho.messageArrays, h.memories ▸ ho.memoryArrays,
    h.candidates ▸ ho.candidateArrays, fun s hs => ?_, h.registry ho.registry⟩
  · rw [h.messages, h.messageTags]
    exact ho.messageRows
  · rw [h.memories, h.memoryTags]
    exact ho.memoryRows
  · rcases h.active s hs with ⟨s₀, hs₀, heq⟩ | hlist
    · rw [heq]
      exact ho.activeTags s₀ hs₀
    · exact hlist.nodup

lemma Settled.tagsAgree_iff (h : Settled db db') : TagsAgree db' ↔ TagsAgree db := by
  constructor <;> rintro ⟨h₁, h₂, h₃, h₄⟩
  · rw [h.messages, h.messageTags] at h₁
    rw [h.memories, h.memoryTags] at h₂
    exact ⟨h₁, h₂, h.messages ▸ h₃, h.memories ▸ h₄⟩
  · refine ⟨?_, ?_, h.messages ▸ h₃, h.memories ▸ h₄⟩
    · rw [h.messages, h.messageTags]
      exact h₁
    · rw [h.memories, h.memoryTags]
      exact h₂

lemma settled_foldl {α : Type} {f : Db → α → Db} (items : List α) (hreg : RegistryInOrder db)
    (hf : ∀ db' x, x ∈ items → RegistryInOrder db' → tagOwners db' = tagOwners db →
      Settled db' (f db' x)) : Settled db (items.foldl f db) := by
  have hloop : ∀ (rest : List α) db₁, (∀ x ∈ rest, x ∈ items) → Settled db db₁ →
      Settled db (rest.foldl f db₁) := by
    intro rest
    induction rest with
    | nil => exact fun _ _ h => h
    | cons x rest ih =>
      intro db₁ hsub h
      have hx := hf db₁ x (hsub x List.mem_cons_self) (h.registry hreg) h.owners
      exact ih _ (fun y hy => hsub y (List.mem_cons_of_mem x hy)) (h.trans hx)
  exact hloop items db (fun _ hx => hx) (.refl db)

/-! ## The helpers of the tag policy -/

lemma tagOwners_of_tagsOnly (h : TagsOnly db db') : tagOwners db' = tagOwners db := by
  rw [h.frame, tagOwners, tagOwners]

lemma targetOwner_congr (hc : db'.cocoons = db.cocoons) (hr : db'.rooms = db.rooms)
    (target : Target) :
    resolveTagOwnerUserIdForTarget db' target = resolveTagOwnerUserIdForTarget db target := by
  cases target <;> simp only [resolveTagOwnerUserIdForTarget, hc, hr]

lemma settled_of_tagsOnly (h : TagsOnly db db') (hlabels : tagLabels db' = tagLabels db)
    (hactive : ∀ s ∈ db'.sessionStates,
      (∃ s₀ ∈ db.sessionStates, s.activeTagsJson = s₀.activeTagsJson) ∨
        TagList db s.activeTagsJson)
    (hbound : ∀ b ∈ db'.tagBindings, b ∈ db.tagBindings ∨ IsTag db b.tagId) : Settled db db' :=
  ⟨h.messages, by rw [h.frame], by rw [h.frame], by rw [h.frame], by rw [h.frame],
    tagOwners_of_tagsOnly h, targetOwner_congr h.cocoons h.rooms, hlabels, hactive, hbound⟩

lemma tagLabels_refresh (hreg : RegistryInOrder db) {tag : TagRegistry} (hmem : tag ∈ db.tags)
    (hsystem : tag.isSystem) :
    tagLabels { db with tags := update db.tags tag.id refreshSystemTag } = tagLabels db := by
  have hkeys : (db.tags.map key).Nodup := by
    have hnodup := hreg.keys
    rw [tagLabels, List.map_map] at hnodup
    exact hnodup
  unfold tagLabels
  rw [update, List.map_map]
  refine List.map_congr_left fun t ht => ?_
  by_cases hid : key t = tag.id
  · have heq : t = tag := List.inj_on_of_nodup_map hkeys ht hmem hid
    have hname := hreg.named (tagLabel tag) (List.mem_map_of_mem hmem) hsystem
    rw [Function.comp_apply, if_pos hid, heq]
    simp only [tagLabel, refreshSystemTag] at hname ⊢
    rw [hname]
  · rw [Function.comp_apply, if_neg hid]

lemma findSystemTag_of_owner (hreg : RegistryInOrder db) (ho : owner ∈ tagOwners db) :
    ∃ tag, findSystemTag db owner = some tag ∧ tag ∈ db.tags ∧ tag.isSystem := by
  obtain ⟨t, ht, hto, hsys⟩ := hreg.default owner ho
  obtain ⟨tag, htag, rfl⟩ := List.mem_map.mp ht
  have hsome : (findSystemTag db owner).isSome := by
    rw [findSystemTag, List.find?_isSome]
    exact ⟨tag, htag, by simpa using ⟨hto, hsys⟩⟩
  obtain ⟨found, hfound⟩ := Option.isSome_iff_exists.mp hsome
  have hspec := List.find?_some hfound
  simp only [decide_eq_true_eq] at hspec
  exact ⟨found, hfound, List.mem_of_find?_eq_some hfound, hspec.2⟩

lemma settled_ensureUserSystemTag (hreg : RegistryInOrder db) (ho : owner ∈ tagOwners db)
    (newTagId : RowId) : Settled db (ensureUserSystemTag db owner newTagId).1 ∧
      IsTag db (ensureUserSystemTag db owner newTagId).2 := by
  obtain ⟨tag, hfind, hmem, hsys⟩ := findSystemTag_of_owner hreg ho
  unfold ensureUserSystemTag
  rw [hfind]
  refine ⟨settled_of_tagsOnly ⟨rfl⟩ (tagLabels_refresh hreg hmem hsys) ?_ ?_, isTag_of_mem hmem⟩
  · exact fun s hs => .inl ⟨s, hs, rfl⟩
  · exact fun b hb => .inl hb

lemma tagList_resolveTagRefs (ownerUserId : Option RowId) (refs : List String) :
    TagList db (resolveTagRefs db ownerUserId refs) := by
  refine ⟨nodup_resolveTagRefs ownerUserId refs, fun id hid => ?_⟩
  obtain ⟨o, ⟨t, ht, rfl, -⟩, -⟩ := hasTag_of_mem_resolveTagRefs hid
  exact isTag_of_mem ht

lemma settled_canonicalizeTagRefs (hreg : RegistryInOrder db) {ownerUserId : Option RowId}
    (ho : ∀ owner ∈ ownerUserId, owner ∈ tagOwners db) (refs : List String)
    (includeDefault : Bool) (newTagId : RowId) :
    Settled db (canonicalizeTagRefs db refs includeDefault ownerUserId newTagId).1 ∧
      TagList db
        (canonicalizeTagRefs db refs includeDefault ownerUserId newTagId).2 := by
  have hlist : TagList db (resolveTagRefs db ownerUserId refs) :=
    tagList_resolveTagRefs ownerUserId refs
  unfold canonicalizeTagRefs
  split
  · next owner =>
    obtain ⟨hset, htag⟩ := settled_ensureUserSystemTag hreg (ho owner rfl) newTagId
    refine ⟨hset, List.nodup_cons.mpr ⟨by simp, hlist.nodup.filter _⟩, fun id hid => ?_⟩
    rcases List.mem_cons.mp hid with rfl | hid
    · exact htag
    · exact hlist.isTag id (List.mem_filter.mp hid).1
  · exact ⟨.refl db, hlist⟩

lemma owner_mem_tagOwners (howner : resolveTagOwnerUserIdForTarget db target = some owner) :
    owner ∈ tagOwners db := by
  unfold tagOwners
  rw [List.mem_append, List.mem_append]
  cases target with
  | cocoon id =>
    obtain ⟨cocoon, hget, rfl⟩ := Option.map_eq_some_iff.mp howner
    exact .inl (.inr (List.mem_map_of_mem (mem_of_get hget)))
  | chatGroup id =>
    obtain ⟨room, hget, rfl⟩ := Option.map_eq_some_iff.mp howner
    exact .inr (List.mem_map_of_mem (mem_of_get hget))

lemma settled_ensureTargetDefaultBinding (hreg : RegistryInOrder db) (target : Target)
    (newTagId : RowId) (now : Timestamp) :
    Settled db (ensureTargetDefaultBinding db target newTagId now).1 := by
  unfold ensureTargetDefaultBinding
  split
  · exact .refl db
  · next owner howner =>
    obtain ⟨hset, htag⟩ :=
      settled_ensureUserSystemTag hreg (owner_mem_tagOwners howner) newTagId
    dsimp only
    split
    · exact hset
    · refine ⟨hset.messages, hset.messageTags, hset.memories, hset.memoryTags, hset.candidates,
        hset.owners, hset.targetOwner, hset.labels, hset.active, fun b hb => ?_⟩
      rcases List.mem_append.mp hb with hb | hb
      · exact hset.bound b hb
      · rw [List.mem_singleton.mp hb]
        exact .inr htag

lemma settled_setActiveTags {tags : List RowId} (target : Target)
    (h : TagList db tags) : Settled db (setActiveTags db target tags) := by
  refine settled_of_tagsOnly ⟨rfl⟩ rfl (fun s hs => ?_) fun _ hb => .inl hb
  rcases mem_update.mp hs with ⟨s₀, -, -, rfl⟩ | ⟨hs, -⟩
  · exact .inr h
  · exact .inl ⟨s, hs, rfl⟩

lemma settled_setCanonicalTags (hreg : RegistryInOrder db) {ownerUserId : Option RowId}
    (ho : ∀ owner ∈ ownerUserId, owner ∈ tagOwners db) (target : Target) (refs : List String)
    (newTagId : RowId) : Settled db (setCanonicalTags db target refs ownerUserId newTagId) := by
  obtain ⟨hset, hlist⟩ := settled_canonicalizeTagRefs hreg ho refs true newTagId
  exact hset.trans (settled_setActiveTags target (hlist.congr hset.labels))

lemma settled_ensureStateDefaultTag (hreg : RegistryInOrder db) (state : SessionState)
    (newTagId : RowId) : Settled db (ensureStateDefaultTag db state newTagId).1 :=
  settled_setCanonicalTags hreg (fun _ ho => owner_mem_tagOwners ho) state.target
    state.activeTagsJson newTagId

lemma settled_ensureStateBoundTags (hreg : RegistryInOrder db) (state : SessionState)
    (newTagId : RowId) (now : Timestamp) :
    Settled db (ensureStateBoundTags db state newTagId now).1 := by
  have hbinding := settled_ensureTargetDefaultBinding hreg state.target newTagId now
  refine hbinding.trans (settled_setCanonicalTags (hbinding.registry hreg) (fun o ho => ?_)
    state.target (state.activeTagsJson ++ boundTagIds _ state.target) newTagId)
  rw [hbinding.owners]
  exact owner_mem_tagOwners ho

lemma settled_getSessionState (hreg : RegistryInOrder db) (target : Target) (newTagId : RowId)
    (now : Timestamp) : Settled db (getSessionState db target newTagId now).1 := by
  unfold getSessionState
  split
  · exact .refl db
  · exact settled_ensureStateBoundTags hreg _ newTagId now

lemma settled_newState (db : Db) (target : Target) :
    Settled db { db with sessionStates := db.sessionStates ++ [{ target := target }] } := by
  refine settled_of_tagsOnly ⟨rfl⟩ rfl (fun s hs => ?_) fun _ hb => .inl hb
  rcases List.mem_append.mp hs with hs | hs
  · exact .inl ⟨s, hs, rfl⟩
  · rw [List.mem_singleton.mp hs]
    exact .inr ⟨List.nodup_nil, fun _ hid => absurd hid List.not_mem_nil⟩

lemma settled_ensureSessionState (hreg : RegistryInOrder db) (target : Target) (newTagId : RowId)
    (now : Timestamp) : Settled db (ensureSessionState db target newTagId now).1 := by
  have hget := settled_getSessionState hreg target newTagId now
  unfold ensureSessionState
  split
  · next heq => rwa [heq] at hget
  · next db₁ heq =>
    rw [heq] at hget
    have hreg₁ := hget.registry hreg
    have hbinding := settled_ensureTargetDefaultBinding hreg₁ target newTagId now
    have hnew := hbinding.trans
      (settled_newState (ensureTargetDefaultBinding db₁ target newTagId now).1 target)
    exact hget.trans (hnew.trans
      (settled_ensureStateBoundTags (hnew.registry hreg₁) { target := target } newTagId now))

lemma settled_serializePromptTagCatalog (hreg : RegistryInOrder db) (target : Target)
    (newTagId : RowId) (now : Timestamp) :
    Settled db (serializePromptTagCatalog db target newTagId now).1 := by
  unfold serializePromptTagCatalog listVisibleBoundTags
  cases resolveTagOwnerUserIdForTarget db target with
  | none => exact .refl db
  | some owner => exact settled_ensureTargetDefaultBinding hreg target newTagId now

end TagStorage

end CocoonSit
