import CocoonSit.Tags.StorageServices

/-!
# Requests on the two copies of tags

Tag requests, state patches and the memory routes.  Binding and unbinding write neither copy; a
deleted tag goes from both; an edited memory gets its rows anew.
-/

namespace CocoonSit

open Table Mirror

namespace TagStorage

variable {db db' : Db} {target : Target} {owner newTagId : RowId} {now : Timestamp}

/-! ## Tag requests -/

lemma kept_appendTag (ho : InOrder db) {tag : TagRegistry} (hnew : tag.id ∉ db.tags.map key)
    (hnamed : tag.isSystem → tag.tagId = SYSTEM_TAG_SLUG) :
    Kept db { db with tags := db.tags ++ [tag] } := by
  have hlabels : tagLabels { db with tags := db.tags ++ [tag] } = tagLabels db ++ [tagLabel tag] :=
    List.map_append
  have hreg : RegistryInOrder { db with tags := db.tags ++ [tag] } := by
    rw [RegistryInOrder, hlabels]
    refine ⟨?_, fun t ht => ?_, fun o howner => ?_⟩
    · rw [List.map_append, List.map_singleton, ← List.concat_eq_append]
      exact ho.registry.keys.concat fun h => hnew (isTag_iff.mp h)
    · rcases List.mem_append.mp ht with ht | ht
      · exact ho.registry.named t ht
      · rw [List.mem_singleton.mp ht]
        exact hnamed
    · obtain ⟨t, ht, hspec⟩ := ho.registry.default o howner
      exact ⟨t, List.mem_append_left _ ht, hspec⟩
  exact ⟨⟨ho.messageKeys, ho.memoryKeys, ho.messageRows, ho.memoryRows, ho.messageArrays,
    ho.memoryArrays, ho.candidateArrays, ho.activeTags, hreg⟩,
    fun h => ⟨h.messages, h.memories, h.messageArrays, h.memoryArrays⟩⟩

lemma kept_createTag (ho : InOrder db) {userId : RowId} {payload : TagCreate}
    (hfresh : FreshTag db newTagId) {r : Db × TagRegistry}
    (h : createTag db userId payload newTagId = .ok r) : Kept db r.1 := by
  rw [ActiveTags.createTag_ok h]
  exact kept_appendTag ho hfresh.1 fun hsys => absurd hsys (by simp [TagCreate.toTag])

lemma settled_insertBinding {binding : TagBinding} (h : IsTag db binding.tagId) :
    Settled db (insertBinding db binding) := by
  refine settled_of_tagsOnly ⟨rfl⟩ rfl (fun s hs => .inl ⟨s, hs, rfl⟩) fun b hb => ?_
  rcases List.mem_append.mp hb with hb | hb
  · exact .inl hb
  · rw [List.mem_singleton.mp hb]
    exact .inr h

lemma settled_deleteBinding (binding : TagBinding) : Settled db (deleteBinding db binding) :=
  settled_of_tagsOnly ⟨rfl⟩ rfl (fun s hs => .inl ⟨s, hs, rfl⟩)
    fun _ hb => .inl (List.mem_of_mem_erase hb)

lemma settled_activateTag (hreg : RegistryInOrder db) {ownerUserId : Option RowId}
    (ho : ∀ owner ∈ ownerUserId, owner ∈ tagOwners db) (state : SessionState) (tagId : RowId)
    (newTagId : RowId) : Settled db (activateTag db state tagId ownerUserId newTagId) := by
  unfold activateTag
  split
  · exact .refl db
  · exact settled_setCanonicalTags hreg ho state.target _ newTagId

lemma requireCanonicalTag_isTag {tagRef : String} {ownerUserId : Option RowId} {tag : TagRegistry}
    (h : requireCanonicalTag db tagRef ownerUserId = .ok tag) : IsTag db tag.id := by
  unfold requireCanonicalTag at h
  split at h
  · next hget =>
    cases h
    exact isTag_of_mem (getTagByAnyRef_spec hget).1
  · cases h

lemma settled_bindTargetTag (hreg : RegistryInOrder db) {tagRef : String} {r : Db × TagBinding}
    (h : bindTargetTag db target tagRef newTagId now = .ok r) : Settled db r.1 := by
  have howner : ∀ o ∈ resolveTagOwnerUserIdForTarget db target, o ∈ tagOwners db :=
    fun _ ho => owner_mem_tagOwners ho
  unfold bindTargetTag at h
  dsimp only at h
  split at h
  · cases h
  · next tag htag =>
    have hbinding := settled_ensureTargetDefaultBinding hreg target newTagId now
    generalize ensureTargetDefaultBinding db target newTagId now = r₁ at h hbinding
    have hget := hbinding.trans
      (settled_getSessionState (hbinding.registry hreg) target newTagId now)
    generalize getSessionState r₁.1 target newTagId now = r₂ at h hget
    split at h
    · cases h
      exact hget
    · cases h
      have htag₂ := (isTag_congr hget.labels).mpr (requireCanonicalTag_isTag htag)
      have hnew : IsTag r₂.1 (TagBinding.mk target tag.id now).tagId := htag₂
      have hinsert := hget.trans (settled_insertBinding hnew)
      cases r₂.2 with
      | none => exact hinsert
      | some state =>
        exact hinsert.trans (settled_activateTag (hinsert.registry hreg)
          (hinsert.owners ▸ howner) state tag.id newTagId)

lemma settled_unbindTargetTag (hreg : RegistryInOrder db) {tagRef : String} {r : Db × TagBinding}
    (h : unbindTargetTag db target tagRef newTagId now = .ok r) : Settled db r.1 := by
  have howner : ∀ o ∈ resolveTagOwnerUserIdForTarget db target, o ∈ tagOwners db :=
    fun _ ho => owner_mem_tagOwners ho
  unfold unbindTargetTag at h
  dsimp only at h
  split at h
  · cases h
  · next tag _ =>
    split at h
    · cases h
    · split at h
      · cases h
      · next binding _ =>
        cases h
        have hget := settled_getSessionState hreg target newTagId now
        generalize getSessionState db target newTagId now = r₁ at hget ⊢
        refine Settled.trans ?_ (settled_deleteBinding binding)
        cases r₁.2 with
        | none => exact hget
        | some state =>
          exact hget.trans (settled_setCanonicalTags (hget.registry hreg)
            (hget.owners ▸ howner) state.target _ newTagId)

lemma settled_scrubState (hreg : RegistryInOrder db) (id : RowId) (state : SessionState)
    (newTagId : RowId) : Settled db (scrubState db id state newTagId) := by
  unfold scrubState
  split
  · exact settled_setCanonicalTags hreg (fun _ ho => owner_mem_tagOwners ho) state.target _ newTagId
  · exact .refl db

lemma kept_dropTag (ho : InOrder db) {id : RowId}
    (hnot : ∀ t ∈ tagLabels db, t.id = id → t.isSystem = false) :
    Kept db (dropTag (dropTagLinks db id) id) := by
  have hmessages : (dropTag (dropTagLinks db id) id).messages.map key = db.messages.map key := by
    show (db.messages.map _).map key = _
    rw [List.map_map]
    rfl
  have hmemories : (dropTag (dropTagLinks db id) id).memories.map key = db.memories.map key := by
    show (db.memories.map _).map key = _
    rw [List.map_map]
    rfl
  have hlabels : tagLabels (dropTag (dropTagLinks db id) id) =
      (tagLabels db).filter fun t => t.id ≠ id := by
    show (db.tags.filter _).map tagLabel = (db.tags.map tagLabel).filter _
    rw [List.filter_map]
    rfl
  have hmessageArrays : ∀ m ∈ (dropTag (dropTagLinks db id) id).messages, m.tagsJson.Nodup :=
    List.forall_mem_map.mpr fun m hm => (ho.messageArrays m hm).filter _
  have hmemoryArrays : ∀ m ∈ (dropTag (dropTagLinks db id) id).memories, m.tagsJson.Nodup :=
    List.forall_mem_map.mpr fun m hm => (ho.memoryArrays m hm).filter _
  have hreg : RegistryInOrder (dropTag (dropTagLinks db id) id) := by
    rw [RegistryInOrder, hlabels]
    refine ⟨ho.registry.keys.sublist (List.filter_sublist.map _),
      fun t ht => ho.registry.named t (List.mem_filter.mp ht).1, fun o howner => ?_⟩
    obtain ⟨t, ht, hto, hsys⟩ := ho.registry.default o howner
    refine ⟨t, List.mem_filter.mpr ⟨ht, ?_⟩, hto, hsys⟩
    -- a default tag is not the one that goes
    refine decide_eq_true fun hid => ?_
    rw [hnot t ht hid] at hsys
    cases hsys
  refine ⟨⟨hmessages ▸ ho.messageKeys, hmemories ▸ ho.memoryKeys,
    ho.messageRows.sublist hmessages List.filter_sublist,
    ho.memoryRows.sublist hmemories List.filter_sublist, hmessageArrays, hmemoryArrays,
    ho.candidateArrays, ho.activeTags, hreg⟩,
    fun h => ⟨h.messages.drop ?_, h.memories.drop ?_, hmessageArrays, hmemoryArrays⟩⟩
  · exact List.forall_mem_map.mpr fun m hm => ⟨m, hm, rfl, rfl⟩
  · exact List.forall_mem_map.mpr fun m hm => ⟨m, hm, rfl, rfl⟩

lemma kept_deleteTag (ho : InOrder db) {userId : RowId} {tagRef : String}
    {draws : Target → RowId} {r : Db × TagRegistry}
    (h : deleteTag db userId tagRef draws = .ok r) : Kept db r.1 := by
  unfold deleteTag at h
  split at h
  · cases h
  · next tag htag =>
    split at h
    · cases h
    · next hsys =>
      cases h
      have hscrub : Settled db (db.sessionStates.foldl
          (fun db s => scrubState db tag.id s (draws s.target)) db) :=
        settled_foldl db.sessionStates ho.registry fun _ s _ hreg _ =>
          settled_scrubState hreg tag.id s (draws s.target)
      rw [ActiveTags.foldl_scrubState_dropTagLinks]
      refine (hscrub.kept ho).trans (kept_dropTag (hscrub.inOrder ho) fun t ht hid => ?_)
      rw [hscrub.labels] at ht
      obtain ⟨t₀, ht₀, rfl⟩ := List.mem_map.mp ht
      have hmem : tag ∈ db.tags := (ActiveTags.requireCanonicalTag_ok htag).1
      have hkeys : (db.tags.map key).Nodup := by
        have hnodup := ho.registry.keys
        rw [tagLabels, List.map_map] at hnodup
        exact hnodup
      have heq : t₀ = tag := List.inj_on_of_nodup_map hkeys ht₀ hmem hid
      rw [heq]
      simpa [isSystemTag, tagLabel] using hsys

/-! ## State patches -/

lemma tagList_canonicalizeUnowned (refs : List RowId) : TagList db (canonicalizeUnowned db refs) :=
  tagList_resolveTagRefs none refs

lemma tagList_applyTagOp {catalog active : List RowId} (h : TagList db active)
    (op : TagOperation) : TagList db (applyTagOp db catalog active op) := by
  unfold applyTagOp
  dsimp only
  split
  · split
    · exact tagList_canonicalizeUnowned _
    · exact h
  · exact tagList_canonicalizeUnowned _

lemma tagList_mergeTag {active : List RowId} (h : TagList db active) (tag : RowId) :
    TagList db (mergeTag db active tag) := by
  unfold mergeTag
  split
  · exact tagList_canonicalizeUnowned _
  · exact h

lemma tagList_patchedState {ctx : PatchContext} {decision : MetaDecision} {state : SessionState}
    (h : TagList db state.activeTagsJson) :
    TagList db (patchedState db ctx decision state).activeTagsJson := by
  have hdecided : TagList db (decidedState db ctx decision state).activeTagsJson :=
    List.foldlRecOn decision.tagOps _ h fun _ hl op _ => tagList_applyTagOp hl op
  unfold patchedState
  dsimp only
  split
  · next source _ =>
    exact List.foldlRecOn source.activeTagsJson _ hdecided fun _ hl tag _ =>
      tagList_mergeTag hl tag
  · exact hdecided

lemma settled_buildSource (hreg : RegistryInOrder db) (event : RuntimeEvent) (newTagId : RowId)
    (now : Timestamp) : Settled db (buildSource db event newTagId now).1 := by
  unfold buildSource
  split
  · split
    · exact .refl db
    · split
      · exact settled_getSessionState hreg _ newTagId now
      · exact .refl db
  · exact .refl db

lemma settled_applyStatePatch (hreg : RegistryInOrder db) (ctx : PatchContext)
    (decision : MetaDecision) (newTagId : RowId) :
    Settled db (applyStatePatch db ctx decision newTagId) := by
  unfold applyStatePatch
  split
  · exact .refl db
  · next state _ =>
    have hset := settled_ensureStateDefaultTag hreg state newTagId
    have hactive : TagList db (ensureStateDefaultTag db state newTagId).2.activeTagsJson :=
      (settled_canonicalizeTagRefs hreg (fun _ ho => owner_mem_tagOwners ho)
        state.activeTagsJson true newTagId).2
    dsimp only
    generalize ensureStateDefaultTag db state newTagId = r at hset hactive
    refine hset.trans (settled_of_tagsOnly ⟨rfl⟩ rfl (fun s hs => ?_) fun _ hb => .inl hb)
    rcases mem_update.mp hs with ⟨s₀, -, -, rfl⟩ | ⟨hs, -⟩
    · exact .inr (tagList_patchedState (hactive.congr hset.labels))
    · exact .inl ⟨s, hs, rfl⟩

lemma settled_statePatch (hreg : RegistryInOrder db) {event : RuntimeEvent}
    {decision : MetaDecision} {keys : PatchKeys}
    (h : statePatch db event decision keys now = some db') : Settled db db' := by
  obtain ⟨⟨db₃, ctx⟩, hbuilt, rfl⟩ := Option.map_eq_some_iff.mp h
  simp only [buildPatchContext] at hbuilt
  obtain ⟨-, hbuilt⟩ := Option.ite_none_right_eq_some.mp hbuilt
  have hstate := settled_ensureSessionState hreg event.target keys.tagId now
  generalize ensureSessionState db event.target keys.tagId now = r₁ at hbuilt hstate
  have hsource := hstate.trans
    (settled_buildSource (hstate.registry hreg) event keys.sourceTagId now)
  generalize buildSource r₁.1 event keys.sourceTagId now = r₂ at hbuilt hsource
  have hcatalog := hsource.trans
    (settled_serializePromptTagCatalog (hsource.registry hreg) event.target keys.tagId now)
  generalize serializePromptTagCatalog r₂.1 event.target keys.tagId now = r₃ at hbuilt hcatalog
  cases hbuilt
  exact hcatalog.trans (settled_applyStatePatch (hcatalog.registry hreg) _ decision keys.tagId)

/-! ## The memory routes -/

/-- A step that writes the registry, and adds at most the tag with this key. -/
structure TagDrawn (db db' : Db) (newTagId : RowId) : Prop extends Kept db db' where
  keys : ∀ k ∈ db'.tags.map key, k ∈ db.tags.map key ∨ k = newTagId
  memories : db'.memories = db.memories

lemma TagDrawn.refl (ho : InOrder db) (newTagId : RowId) : TagDrawn db db newTagId :=
  ⟨.refl ho, fun _ hk => .inl hk, rfl⟩

lemma tagDrawn_append (ho : InOrder db) {tag : TagRegistry} (hnew : tag.id ∉ db.tags.map key)
    (hnamed : tag.isSystem → tag.tagId = SYSTEM_TAG_SLUG) :
    TagDrawn db { db with tags := db.tags ++ [tag] } tag.id := by
  refine ⟨kept_appendTag ho hnew hnamed, fun k hk => ?_, rfl⟩
  have hk : k ∈ (db.tags ++ [tag]).map key := hk
  simpa using hk

lemma tagDrawn_ensureUserSystemTag (ho : InOrder db) (userId : RowId)
    (hnew : newTagId ∉ db.tags.map key) :
    TagDrawn db (ensureUserSystemTag db userId newTagId).1 newTagId := by
  unfold ensureUserSystemTag
  split
  · next tag hfind =>
    have hspec := List.find?_some hfind
    simp only [decide_eq_true_eq] at hspec
    have hlabels := tagLabels_refresh ho.registry (List.mem_of_find?_eq_some hfind) hspec.2
    have hset : Settled db { db with tags := update db.tags tag.id refreshSystemTag } :=
      settled_of_tagsOnly ⟨rfl⟩ hlabels (fun s hs => .inl ⟨s, hs, rfl⟩) fun _ hb => .inl hb
    refine ⟨hset.kept ho, fun k hk => .inl ?_, rfl⟩
    rwa [← isTag_iff, ← isTag_congr hlabels, isTag_iff]
  · exact tagDrawn_append ho hnew fun _ => rfl

lemma tagDrawn_findOrCreateMemoryTag (ho : InOrder db) (owner : RowId) (tagRef : String)
    (hnew : newTagId ∉ db.tags.map key) :
    TagDrawn db (findOrCreateMemoryTag db owner tagRef newTagId).1 newTagId := by
  unfold findOrCreateMemoryTag
  split
  · exact .refl ho newTagId
  · split
    · exact tagDrawn_ensureUserSystemTag ho owner hnew
    · split
      · exact .refl ho newTagId
      · exact tagDrawn_append ho hnew fun hsys => absurd hsys Bool.false_ne_true

/-- The keys that the turns of the loop from this one on may draw. -/
def tagDraws (draws : ℕ → RowId) (turn : ℕ) (refs : List String) : List RowId :=
  (List.range' turn refs.length).map draws

lemma kept_resolveTagLoop {draws : ℕ → RowId} (refs : List String) (turn : ℕ) (db : Db)
    (resolved : List RowId) (ho : InOrder db) (hresolved : resolved.Nodup)
    (hfresh : FreshKeys (tagDraws draws turn refs) (db.tags.map key)) :
    Kept db (resolveTagLoop owner draws turn db resolved refs).1 ∧
      (resolveTagLoop owner draws turn db resolved refs).1.memories = db.memories ∧
      (resolveTagLoop owner draws turn db resolved refs).2.Nodup := by
  induction refs generalizing turn db resolved with
  | nil => exact ⟨.refl ho, rfl, hresolved⟩
  | cons rawTag refs ih =>
    obtain ⟨hturn, hnodup⟩ := List.nodup_cons.mp hfresh.1
    have hrest : FreshKeys (tagDraws draws (turn + 1) refs) (db.tags.map key) :=
      ⟨hnodup, fun k hk => hfresh.2 k (List.mem_cons_of_mem _ hk)⟩
    unfold resolveTagLoop
    dsimp only
    split
    · exact ih (turn + 1) db resolved ho hresolved hrest
    · have hdrawn := tagDrawn_findOrCreateMemoryTag ho owner (strip rawTag)
        (hfresh.2 (draws turn) List.mem_cons_self)
      generalize findOrCreateMemoryTag db owner (strip rawTag) (draws turn) = r at hdrawn ⊢
      have hnext : FreshKeys (tagDraws draws (turn + 1) refs) (r.1.tags.map key) := by
        refine ⟨hnodup, fun k hk htaken => ?_⟩
        rcases hdrawn.keys k htaken with hold | rfl
        · exact hrest.2 k hk hold
        · exact hturn hk
      have hloop : ∀ resolved' : List RowId, resolved'.Nodup →
          Kept db (resolveTagLoop owner draws (turn + 1) r.1 resolved' refs).1 ∧
            (resolveTagLoop owner draws (turn + 1) r.1 resolved' refs).1.memories =
              db.memories ∧
            (resolveTagLoop owner draws (turn + 1) r.1 resolved' refs).2.Nodup := by
        intro resolved' hresolved'
        obtain ⟨hkept, hmemories, htags⟩ :=
          ih (turn + 1) r.1 resolved' hdrawn.inOrder hresolved' hnext
        exact ⟨hdrawn.toKept.trans hkept, hmemories.trans hdrawn.memories, htags⟩
      split
      · exact hloop resolved hresolved
      · next tag _ =>
        split
        · exact hloop resolved hresolved
        · next hfound =>
          refine hloop (resolved ++ [tag.id]) ?_
          have hnot : tag.id ∉ resolved := by
            intro hmem
            simp [hmem] at hfound
          exact hresolved.append (List.nodup_singleton _) (by simpa using hnot)

lemma kept_resolveOrCreateMemoryTags (ho : InOrder db) (ownerUserId : Option RowId)
    {refs : List String} {draws : ℕ → RowId}
    (hfresh : FreshKeys (tagDraws draws 0 refs) (db.tags.map key)) :
    Kept db (resolveOrCreateMemoryTags db ownerUserId refs draws).1 ∧
      (resolveOrCreateMemoryTags db ownerUserId refs draws).1.memories = db.memories ∧
      (resolveOrCreateMemoryTags db ownerUserId refs draws).2.Nodup := by
  unfold resolveOrCreateMemoryTags
  split
  · exact ⟨.refl ho, rfl, List.nodup_nil⟩
  · exact kept_resolveTagLoop refs 0 db [] ho List.nodup_nil hfresh

/-- The keys an update may draw for tags. -/
def MemoryUpdateRequest.drawn (payload : MemoryUpdateRequest) (draws : MemoryUpdateDraws) :
    List RowId :=
  tagDraws draws.tagIds 0 (payload.tagsJson.getD [])

lemma kept_retagMemory (ho : InOrder db) (cocoon : Cocoon) {memory new : MemoryChunk}
    (hmem : memory ∈ db.memories) (hid : new.id = memory.id) {refs : List String}
    {draws : ℕ → RowId} (hfresh : FreshKeys (tagDraws draws 0 refs) (db.tags.map key)) :
    Kept db { (retagMemory db cocoon new refs draws).1 with
      memories := update (retagMemory db cocoon new refs draws).1.memories new.id fun _ =>
        (retagMemory db cocoon new refs draws).2 } := by
  obtain ⟨hkept, hmemories, hnodup⟩ := kept_resolveOrCreateMemoryTags ho
    ((new.ownerUserId.filter (· ≠ "")).or (some cocoon.ownerUserId)) hfresh
  unfold retagMemory
  dsimp only
  generalize resolveOrCreateMemoryTags db
    ((new.ownerUserId.filter (· ≠ "")).or (some cocoon.ownerUserId)) refs draws = r
    at hkept hmemories hnodup ⊢
  have hretag := memoryKept_retag hkept.inOrder (hmemories ▸ hmem)
    (f := fun _ => { new with tagsJson := r.2 }) (fun _ _ => hid) (fun _ _ => rfl) hnodup ""
  rw [← hid] at hretag
  exact hkept.trans hretag.toKept

section Routes

variable {settings : Settings} {accounts : Accounts} {s s' : IndexedDb} {user : User}
  {cocoonId memoryId : RowId}

lemma kept_updateMemory {payload : MemoryUpdateRequest} {draws : MemoryUpdateDraws}
    (ho : InOrder s.toDb)
    (hfresh : FreshKeys (MemoryUpdateRequest.drawn payload draws) (s.tags.map key))
    (h : updateMemory settings accounts s user cocoonId memoryId payload draws = .ok s') :
    Kept s.toDb s'.toDb := by
  obtain ⟨cocoon, memory, hrequire, rfl⟩ := updateMemory_eq_ok h
  obtain ⟨-, hmemory, -⟩ := requireMemory_eq_ok hrequire
  have hmem : memory ∈ s.memories := mem_of_get hmemory
  rw [(writeMemory_spec s _ _ draws.embeddingId).1]
  unfold applyTags
  unfold MemoryUpdateRequest.drawn at hfresh
  cases htags : payload.tagsJson with
  | none =>
    refine (memoryKept_same ho ?_ (fun m hm => ?_) "").toKept
    · exact map_key_update_of_key fun _ _ => rfl
    · rcases mem_update.mp hm with ⟨m₀, -, -, rfl⟩ | ⟨hm, -⟩
      · exact ⟨memory, hmem, rfl, rfl⟩
      · exact ⟨m, hm, rfl, rfl⟩
  | some tagRefs =>
    rw [htags] at hfresh
    have hid : (payload.applyTo memory).id = memory.id := rfl
    exact kept_retagMemory ho cocoon hmem hid hfresh

lemma kept_deleteMemory (ho : InOrder s.toDb)
    (h : deleteMemory settings accounts s user cocoonId memoryId = .ok s') :
    Kept s.toDb s'.toDb := by
  obtain ⟨⟨cocoon, memory⟩, hrequire, h⟩ := except_bind_eq_ok.mp h
  obtain ⟨-, hmemory, -⟩ := requireMemory_eq_ok hrequire
  have hid : memory.id = memoryId := key_of_get hmemory
  rw [← Except.ok.inj h]
  have hremoval := kept_removal ho (fun _ => true) (fun m => decide (m.id ≠ memoryId))
    (fun _ => true) (fun id => decide (id ≠ memoryId)) (fun _ _ => rfl) (fun _ _ => rfl)
  rw [List.filter_true, List.filter_true] at hremoval
  rw [hid]
  exact hremoval

end Routes

end TagStorage

end CocoonSit
