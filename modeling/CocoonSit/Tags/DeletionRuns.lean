import CocoonSit.Tags.Deletion

/-!
# Deleted tags over whole runs

A tag that is deleted cleanly stays gone as long as no memory operation names its id: lookups,
requests, patches, jobs and reconciliations write tags of the registry only, or ids that are
somewhere already.
-/

namespace CocoonSit

open Table TransitionSystem

namespace TagStorage

/-- No key is drawn that is this id, and no memory operation names it. -/
def EventAvoids (svc : Services) (id : RowId) (db : Db) : Event → Prop
  | .tags (.createTag _ _ newTagId) => newTagId ≠ id
  | .memoryOps ctx ops _ _ =>
    ∀ op ∈ ops,
      ¬ NamesTag svc.text { ctx with activeTags := activeTags db ctx.event.target } id op
  | .updateMemory _ _ _ _ payload draws => id ∉ MemoryUpdateRequest.drawn payload draws
  | _ => True

instance (svc : Services) (id : RowId) (db : Db) : ∀ e, Decidable (EventAvoids svc id db e)
  | .tags (.createTag _ _ newTagId) => inferInstanceAs (Decidable (newTagId ≠ id))
  | .memoryOps ctx ops _ _ =>
    inferInstanceAs (Decidable (∀ op ∈ ops,
      ¬ NamesTag svc.text { ctx with activeTags := activeTags db ctx.event.target } id op))
  | .updateMemory _ _ _ _ payload draws =>
    inferInstanceAs (Decidable (id ∉ MemoryUpdateRequest.drawn payload draws))
  | .tags (.lookup ..) | .tags (.deleteTag ..) | .tags (.bindTag ..) | .tags (.unbindTag ..)
  | .tags (.patch ..) | .userMessage .. | .roundMessage .. | .touch .. | .compaction ..
  | .reorganize .. | .rollback .. | .editCleanup .. | .retryCleanup .. | .deleteMemory ..
  | .reconcile .. => inferInstanceAs (Decidable True)

variable {svc : Services} {id : RowId} {db db' : Db} {target : Target} {now : Timestamp}

/-! ## Messages -/

lemma quiet_persistMessage {event : RuntimeEvent} {role : MessageRole} {content : String}
    {isThought : Bool} {retractionNote : Option String} {messageId : RowId} :
    Quiet id db (persistMessage db event role content isThought retractionNote messageId now) :=
  quiet_insertMessage fun h => activeTags_notMem h event.target

lemma quiet_enqueueChat (hreg : RegistryInOrder db) {chat : MessageDispatchService}
    {sub : ChatSubmission} {keys : NewKeys} {r : Db × ActionDispatch}
    (h : chat.enqueueChat db target sub keys now = .ok r) : Quiet id db r.1 := by
  have hcommit : ∀ pending, Quiet id db (chat.commitChat db target pending sub keys now).1 := by
    intro pending
    have hset := (settled_prepareTarget hreg target keys.tagId now).quiet id
    have hmessage : Quiet id _ (insertMessage (prepareTarget db target keys.tagId now)
        (chat.chatMessage db target pending sub keys now)) :=
      quiet_insertMessage fun h => activeTags_notMem h target
    obtain ⟨actions, hactions⟩ := commitChat_frame chat db target pending sub keys now
    rw [hactions]
    exact (hset.trans hmessage).trans ((settled_of_frame rfl).quiet id)
  unfold MessageDispatchService.enqueueChat at h
  split at h
  · cases h
  · cases h
    exact .refl id db
  · split at h
    · cases h
    · cases h
      exact hcommit _

/-! ## Tag requests -/

lemma gone_appendTag (h : Gone id db) {tag : TagRegistry} (hne : tag.id ≠ id) :
    Gone id { db with tags := db.tags ++ [tag] } := by
  refine ⟨fun hin => ?_, h.bindings, h.messageRows, h.memoryRows, h.messages, h.memories,
    h.candidates, h.active⟩
  obtain ⟨t, ht, hid⟩ := List.mem_map.mp (isTag_iff.mp hin)
  rcases List.mem_append.mp ht with ht | ht
  · exact h.registry (hid ▸ isTag_of_mem ht)
  · rw [List.mem_singleton.mp ht] at hid
    exact hne hid

lemma gone_dropTag (h : Gone id db) (other : RowId) :
    Gone id (dropTag (dropTagLinks db other) other) := by
  refine ⟨fun hin => ?_, fun b hb => h.bindings b (List.mem_filter.mp hb).1,
    fun r hr => h.messageRows r (List.mem_filter.mp hr).1,
    fun r hr => h.memoryRows r (List.mem_filter.mp hr).1, ?_, ?_, h.candidates, h.active⟩
  · obtain ⟨t, ht, hid⟩ := List.mem_map.mp (isTag_iff.mp hin)
    exact h.registry (hid ▸ isTag_of_mem (List.mem_filter.mp ht).1)
  · exact List.forall_mem_map.mpr fun m hm hin => h.messages m hm (List.mem_filter.mp hin).1
  · exact List.forall_mem_map.mpr fun m hm hin => h.memories m hm (List.mem_filter.mp hin).1

lemma gone_deleteOther (hreg : RegistryInOrder db) (h : Gone id db) {userId : RowId}
    {tagRef : String} {draws : Target → RowId} {r : Db × TagRegistry}
    (hr : deleteTag db userId tagRef draws = .ok r) : Gone id r.1 := by
  unfold deleteTag at hr
  split at hr
  · cases hr
  · next tag _ =>
    split at hr
    · cases hr
    · cases hr
      have hset : Settled db (db.sessionStates.foldl
          (fun db s => scrubState db tag.id s (draws s.target)) db) :=
        settled_foldl db.sessionStates hreg fun _ s _ hreg' _ =>
          settled_scrubState hreg' tag.id s (draws s.target)
      rw [ActiveTags.foldl_scrubState_dropTagLinks]
      exact gone_dropTag ((hset.quiet id).gone h) tag.id

lemma gone_answered {ε α : Type} (h : Gone id db) {answer : Except ε (Db × α)}
    (hanswer : ∀ r, answer = .ok r → Gone id r.1) : Gone id (ActiveTags.answered db answer) := by
  cases answer with
  | error e => exact h
  | ok r => exact hanswer r rfl

lemma gone_tags (ho : InOrder db) (h : Gone id db) {event : ActiveTags.Event}
    (havoids : EventAvoids svc id db (.tags event)) (hstep : ActiveTags.step db event = some db') :
    Gone id db' := by
  have hreg := ho.registry
  cases event with
  | lookup target newTagId now =>
    obtain ⟨-, heq⟩ := Option.ite_none_right_eq_some.mp hstep
    cases heq
    exact ((settled_ensureSessionState hreg target newTagId now).quiet id).gone h
  | createTag userId payload newTagId =>
    obtain ⟨-, heq⟩ := Option.ite_none_right_eq_some.mp hstep
    cases heq
    refine gone_answered h fun _ hr => ?_
    rw [ActiveTags.createTag_ok hr]
    exact gone_appendTag h havoids
  | deleteTag userId tagRef newTagId =>
    cases hstep
    exact gone_answered h fun _ hr => gone_deleteOther hreg h hr
  | bindTag target tagId newTagId now =>
    obtain ⟨-, heq⟩ := Option.ite_none_right_eq_some.mp hstep
    cases heq
    exact gone_answered h fun _ hr => ((settled_bindTargetTag hreg hr).quiet id).gone h
  | unbindTag target tagId newTagId now =>
    obtain ⟨-, heq⟩ := Option.ite_none_right_eq_some.mp hstep
    cases heq
    exact gone_answered h fun _ hr => ((settled_unbindTargetTag hreg hr).quiet id).gone h
  | patch event decision keys now =>
    obtain ⟨-, hpatch⟩ := Option.ite_none_right_eq_some.mp hstep
    exact ((settled_statePatch hreg hpatch).quiet id).gone h

/-! ## The memory routes -/

/-- A step over the registry that adds no tag of this id. -/
structure RegistryOnly (id : RowId) (db db' : Db) : Prop where
  frame : db' = { db with tags := db'.tags }
  isTag : IsTag db' id → IsTag db id

lemma RegistryOnly.refl (id : RowId) (db : Db) : RegistryOnly id db db := ⟨rfl, fun h => h⟩

lemma RegistryOnly.trans {db₁ db₂ : Db} (h₁ : RegistryOnly id db db₁)
    (h₂ : RegistryOnly id db₁ db₂) : RegistryOnly id db db₂ := by
  refine ⟨?_, fun h => h₁.isTag (h₂.isTag h)⟩
  rw [h₂.frame, h₁.frame]

lemma RegistryOnly.gone (h : RegistryOnly id db db') (hgone : Gone id db) : Gone id db' := by
  refine ⟨fun hin => hgone.registry (h.isTag hin), ?_, ?_, ?_, ?_, ?_, ?_, ?_⟩ <;> rw [h.frame]
  · exact hgone.bindings
  · exact hgone.messageRows
  · exact hgone.memoryRows
  · exact hgone.messages
  · exact hgone.memories
  · exact hgone.candidates
  · exact hgone.active

lemma registryOnly_append {tag : TagRegistry} (hne : tag.id ≠ id) :
    RegistryOnly id db { db with tags := db.tags ++ [tag] } := by
  refine ⟨rfl, fun hin => ?_⟩
  obtain ⟨t, ht, hid⟩ := List.mem_map.mp (isTag_iff.mp hin)
  rcases List.mem_append.mp ht with ht | ht
  · exact hid ▸ isTag_of_mem ht
  · rw [List.mem_singleton.mp ht] at hid
    exact absurd hid hne

lemma registryOnly_ensureUserSystemTag (userId : RowId) {newTagId : RowId} (hne : newTagId ≠ id) :
    RegistryOnly id db (ensureUserSystemTag db userId newTagId).1 := by
  unfold ensureUserSystemTag
  split
  · next tag _ =>
    have hkeys : (update db.tags tag.id refreshSystemTag).map key = db.tags.map key :=
      map_key_update fun _ => rfl
    exact ⟨rfl, fun hin => isTag_iff.mpr (hkeys ▸ isTag_iff.mp hin)⟩
  · exact registryOnly_append hne

variable (db) in
lemma registryOnly_findOrCreateMemoryTag (owner : RowId) (tagRef : String) {newTagId : RowId}
    (hne : newTagId ≠ id) :
    RegistryOnly id db (findOrCreateMemoryTag db owner tagRef newTagId).1 ∧
      ∀ tag, (findOrCreateMemoryTag db owner tagRef newTagId).2 = some tag →
        IsTag (findOrCreateMemoryTag db owner tagRef newTagId).1 tag.id := by
  unfold findOrCreateMemoryTag
  split
  · next tag hget =>
    refine ⟨.refl id db, fun t ht => ?_⟩
    cases ht
    exact isTag_of_mem (getTagByAnyRef_spec hget).1
  · split
    · exact ⟨registryOnly_ensureUserSystemTag owner hne, fun t ht => isTag_of_mem (mem_of_get ht)⟩
    · split
      · exact ⟨.refl id db, fun t ht => absurd ht (by simp)⟩
      · refine ⟨registryOnly_append hne, fun t ht => ?_⟩
        cases ht
        exact isTag_of_mem (List.mem_append_right _ List.mem_cons_self)

lemma registryOnly_resolveTagLoop (owner : RowId) {draws : ℕ → RowId} (refs : List String)
    (turn : ℕ) (db : Db) (resolved : List RowId) (hid : ¬ IsTag db id) (hresolved : id ∉ resolved)
    (hdraws : id ∉ tagDraws draws turn refs) :
    RegistryOnly id db (resolveTagLoop owner draws turn db resolved refs).1 ∧
      id ∉ (resolveTagLoop owner draws turn db resolved refs).2 := by
  induction refs generalizing turn db resolved with
  | nil => exact ⟨.refl id db, hresolved⟩
  | cons rawTag refs ih =>
    obtain ⟨hturn, hrest⟩ := not_or.mp (List.mem_cons.not.mp hdraws)
    unfold resolveTagLoop
    dsimp only
    split
    · exact ih (turn + 1) db resolved hid hresolved hrest
    · obtain ⟨hstep, hfound⟩ := registryOnly_findOrCreateMemoryTag db owner
        (strip rawTag) (Ne.symm hturn)
      generalize findOrCreateMemoryTag db owner (strip rawTag) (draws turn) = r at hstep hfound ⊢
      have hid₁ : ¬ IsTag r.1 id := fun h => hid (hstep.isTag h)
      have hloop : ∀ resolved', id ∉ resolved' →
          RegistryOnly id db (resolveTagLoop owner draws (turn + 1) r.1 resolved' refs).1 ∧
            id ∉ (resolveTagLoop owner draws (turn + 1) r.1 resolved' refs).2 := by
        intro resolved' hresolved'
        obtain ⟨hnext, htags⟩ := ih (turn + 1) r.1 resolved' hid₁ hresolved' hrest
        exact ⟨hstep.trans hnext, htags⟩
      split
      · exact hloop resolved hresolved
      · next tag htag =>
        split
        · exact hloop resolved hresolved
        · refine hloop (resolved ++ [tag.id]) ?_
          have hne : tag.id ≠ id := fun heq => hid₁ (heq ▸ hfound tag htag)
          simpa [hresolved] using Ne.symm hne

lemma registryOnly_resolveOrCreateMemoryTags (hid : ¬ IsTag db id) (ownerUserId : Option RowId)
    {refs : List String} {draws : ℕ → RowId} (hdraws : id ∉ tagDraws draws 0 refs) :
    RegistryOnly id db (resolveOrCreateMemoryTags db ownerUserId refs draws).1 ∧
      id ∉ (resolveOrCreateMemoryTags db ownerUserId refs draws).2 := by
  unfold resolveOrCreateMemoryTags
  split
  · exact ⟨.refl id db, List.not_mem_nil⟩
  · next owner _ =>
    exact registryOnly_resolveTagLoop owner refs 0 db [] hid List.not_mem_nil hdraws

lemma gone_writeMemories (h : Gone id db) {memory : MemoryChunk} (htags : id ∉ memory.tagsJson) :
    Gone id { db with memories := update db.memories memory.id fun _ => memory } := by
  refine ⟨h.registry, h.bindings, h.messageRows, h.memoryRows, h.messages, fun m hm => ?_,
    h.candidates, h.active⟩
  rcases mem_update.mp hm with ⟨-, -, -, rfl⟩ | ⟨hm, -⟩
  · exact htags
  · exact h.memories m hm

section Routes

variable {settings : Settings} {accounts : Accounts} {s s' : IndexedDb} {user : User}
  {cocoonId memoryId : RowId}

lemma gone_applyTags (h : Gone id db) (cocoon : Cocoon) {memory : MemoryChunk}
    (hmemory : id ∉ memory.tagsJson) {payload : MemoryUpdateRequest} {draws : ℕ → RowId}
    (hdraws : id ∉ tagDraws draws 0 (payload.tagsJson.getD [])) :
    Gone id (applyTags db cocoon memory payload draws).1 ∧
      id ∉ (applyTags db cocoon memory payload draws).2.tagsJson := by
  unfold applyTags
  cases htags : payload.tagsJson with
  | none => exact ⟨h, hmemory⟩
  | some tagRefs =>
    rw [htags, Option.getD_some] at hdraws
    obtain ⟨hregistry, hnot⟩ := registryOnly_resolveOrCreateMemoryTags h.registry
      ((memory.ownerUserId.filter (· ≠ "")).or (some cocoon.ownerUserId)) hdraws
    dsimp only
    unfold retagMemory
    dsimp only
    generalize resolveOrCreateMemoryTags db
      ((memory.ownerUserId.filter (· ≠ "")).or (some cocoon.ownerUserId)) tagRefs draws = r
      at hregistry hnot ⊢
    have hgone := hregistry.gone h
    refine ⟨⟨hgone.registry, hgone.bindings, hgone.messageRows, ?_, hgone.messages,
      hgone.memories, hgone.candidates, hgone.active⟩, hnot⟩
    exact memoryRows_append (fun t ht => hgone.memoryRows t (List.mem_filter.mp ht).1) hnot

lemma gone_updateMemory {payload : MemoryUpdateRequest} {draws : MemoryUpdateDraws}
    (hgone : Gone id s.toDb) (hdraws : id ∉ MemoryUpdateRequest.drawn payload draws)
    (h : updateMemory settings accounts s user cocoonId memoryId payload draws = .ok s') :
    Gone id s'.toDb := by
  obtain ⟨cocoon, memory, hrequire, rfl⟩ := updateMemory_eq_ok h
  obtain ⟨-, hmemory, -⟩ := requireMemory_eq_ok hrequire
  have hnot : id ∉ (payload.applyTo memory).tagsJson := hgone.memories memory (mem_of_get hmemory)
  obtain ⟨hgone', htags⟩ := gone_applyTags hgone cocoon hnot hdraws
  rw [(writeMemory_spec s _ _ draws.embeddingId).1]
  exact gone_writeMemories hgone' htags

lemma gone_deleteMemory (hgone : Gone id s.toDb)
    (h : deleteMemory settings accounts s user cocoonId memoryId = .ok s') :
    Gone id s'.toDb := by
  obtain ⟨⟨cocoon, memory⟩, -, h⟩ := except_bind_eq_ok.mp h
  rw [← Except.ok.inj h]
  exact ⟨hgone.registry, hgone.bindings, hgone.messageRows,
    fun t ht => hgone.memoryRows t (List.mem_filter.mp ht).1, hgone.messages,
    fun m hm => hgone.memories m (List.mem_filter.mp hm).1, hgone.candidates, hgone.active⟩

lemma gone_routed (hgone : Gone id db) {route : IndexedDb → Except HttpError IndexedDb}
    (h : ∀ s', route { toDb := db } = .ok s' → Gone id s'.toDb) : Gone id (routed db route) := by
  unfold routed
  cases hroute : route { toDb := db } with
  | error e => exact hgone
  | ok s' => exact h s' hroute

end Routes

/-! ## Reconciliation -/

lemma notMem_resolved (hid : ¬ IsTag db id) (refs : List String) (owner : Option RowId) :
    id ∉ (canonicalizeTagRefs db refs false owner "").2 :=
  (tagList_resolveTagRefs owner refs).notMem hid

lemma reconciledTagId_ne (hid : ¬ IsTag db id) {owner : Option RowId} {tagId : String}
    (hne : tagId ≠ id) : reconciledTagId db owner tagId ≠ id := by
  unfold reconciledTagId
  cases hget : getTagByAnyRef db tagId owner with
  | none => exact hne
  | some tag =>
    rintro rfl
    exact hid (isTag_of_mem (getTagByAnyRef_spec hget).1)

lemma quiet_reconcile (hreg : RegistryInOrder db) (draws : ReconcileDraws) (now : Timestamp) :
    Quiet id db (reconcileTagStorage db draws now) := by
  have hdefaults := (settled_withDefaults hreg draws now).quiet id
  rw [reconcileTagStorage_eq]
  generalize withDefaults db draws now = db₁ at hdefaults
  refine hdefaults.trans ⟨rfl, rfl, fun h => ?_⟩
  have hid : ¬ IsTag (reconcileArrays db₁) id := h.registry
  refine ⟨h.registry, h.bindings, ?_, ?_, ?_, ?_, h.candidates, h.active⟩
  · refine List.forall_mem_map.mpr fun r hr => ?_
    rw [reconcileMessageTag_tagId]
    exact reconciledTagId_ne hid (h.messageRows r hr)
  · refine List.forall_mem_map.mpr fun r hr => ?_
    rw [reconcileMemoryTag_tagId]
    exact reconciledTagId_ne hid (h.memoryRows r hr)
  · exact List.forall_mem_map.mpr fun m _ => notMem_resolved h.registry m.tagsJson _
  · exact List.forall_mem_map.mpr fun m _ => notMem_resolved h.registry m.tagsJson _

/-! ## One step -/

lemma step_gone (ho : InOrder db) (h : Gone id db) {e : Event} (havoids : EventAvoids svc id db e)
    (hstep : step svc db e = some db') : Gone id db' := by
  have hreg := ho.registry
  cases e with
  | tags event => exact gone_tags ho h havoids hstep
  | userMessage target sub keys now =>
    obtain ⟨-, heq⟩ := Option.ite_none_right_eq_some.mp hstep
    cases heq
    exact gone_answered h fun _ hr => (quiet_enqueueChat hreg hr).gone h
  | roundMessage event role content isThought retractionNote messageId now =>
    obtain ⟨-, heq⟩ := Option.ite_none_right_eq_some.mp hstep
    cases heq
    exact quiet_persistMessage.gone h
  | memoryOps ctx ops keys now =>
    obtain ⟨-, heq⟩ := Option.ite_none_right_eq_some.mp hstep
    cases heq
    exact (quiet_persistMemoryOps (activeTags_notMem h ctx.event.target) keys havoids).gone h
  | touch memoryIds boost now =>
    cases hstep
    refine (quiet_mapMemories fun m => ?_).gone h
    split <;> rfl
  | compaction cocoonId before output env =>
    obtain ⟨-, hexec⟩ := Option.ite_none_right_eq_some.mp hstep
    exact (quiet_executeCompaction hreg hexec).gone h
  | reorganize cocoonId memoryIds answer env =>
    obtain ⟨-, heq⟩ := Option.ite_none_right_eq_some.mp hstep
    cases heq
    exact (quiet_executeReorganize hreg cocoonId memoryIds none (fun _ _ _ => answer) env).gone h
  | rollback checkpointId env =>
    cases hstep
    exact (quiet_executeRollbackJob hreg checkpointId env).gone h
  | editCleanup target messageId =>
    cases hstep
    exact (quiet_deleteMessageRelatedRows _).gone h
  | retryCleanup target messageId =>
    cases hstep
    exact (quiet_deleteMessageRelatedRows _).gone h
  | updateMemory accounts user cocoonId memoryId payload draws =>
    obtain ⟨-, heq⟩ := Option.ite_none_right_eq_some.mp hstep
    cases heq
    exact gone_routed h fun _ hr => gone_updateMemory h havoids hr
  | deleteMemory accounts user cocoonId memoryId =>
    cases hstep
    exact gone_routed h fun _ hr => gone_deleteMemory h hr
  | reconcile draws now =>
    cases hstep
    exact (quiet_reconcile hreg draws now).gone h

/-! ## Runs -/

/-- In a run from tables in order a tag is deleted: when no candidate has its id, and no reference
active next to it is its name, then nothing names the tag after that, as long as no memory operation
does. -/
theorem gone_of_deletesCleanly {db₀ db db₁ : Db} (ho : InOrder db₀) {es₀ es : List Event}
    (hrun : run (step svc) db₀ es₀ = some db) {userId : RowId} {tagRef : String}
    {draws : Target → RowId} {tag : TagRegistry}
    (hdelete : deleteTag db userId tagRef draws = .ok (db₁, tag)) :
    DeletesCleanly db tag.id → StepsMeet (step svc) (EventAvoids svc tag.id) db₁ es →
      AllStates (step svc) (Gone tag.id) db₁ es := by
  intro hclean havoids
  have ho' : InOrder db :=
    invariant_run InOrder (fun _ _ _ h hs => (step_kept h hs).1) ho hrun
  have ho₁ : InOrder db₁ := (kept_deleteTag ho' hdelete).inOrder
  exact allStates_of_stepsMeet (fun db => InOrder db ∧ Gone tag.id db)
    (fun _ _ _ h hok hs => ⟨(step_kept h.1 hs).1, step_gone h.1 h.2 hok hs⟩) (fun _ h => h.2)
    ⟨ho₁, gone_deleteTag ho' hdelete hclean⟩ havoids

def roomRound : MemoryContext where
  event := { eventType := .chat, target := .chatGroup "r1", actionId := "a1" }
  characterId := "ch1"
  memoryOwnerUserId := some "u1"
  activeTags := []
  tagCatalog := []

/-- The room's owner makes a tag, and a round notes a candidate memory. -/
def noteCandidate (tags : List String) : List Event :=
  [.tags (.lookup (.chatGroup "r1") "d3" 0),
    .tags (.createTag "u1" { tagId := "work", brief := "" } "t1"),
    .memoryOps roomRound [{ op := .candidate, content := "likes tea", tags := tags }]
      (fun _ => ⟨"m1", "k1"⟩) 1]

/-- The candidate comes up again. -/
def noteAgain (tags : List String) : List Event :=
  [.memoryOps roomRound [{ op := .candidate, content := "likes tea", tags := tags }]
    (fun _ => ⟨"m2", "k2"⟩) 2]

/-- The database after these events, and the tag of the owner deleted from it. -/
def deletedAfter (es : List Event) : Option Db :=
  (run (step plainServices) roomOfTwo es).bind fun db =>
    (deleteTag db "u1" "t1" fun _ => "d4").toOption.map Prod.fst

theorem gone_untagged : ∃ db₁, deletedAfter (noteCandidate []) = some db₁ ∧
    AllStates (step plainServices) (Gone "t1") db₁ (noteAgain []) :=
  ⟨_, rfl, @gone_of_deletesCleanly plainServices _ _ _ inOrder_roomOfTwo (noteCandidate []) _ rfl
    "u1" "t1" (fun _ => "d4") _ rfl (by decide) (by decide)⟩

/-- A candidate keeps the tag; and a deleted tag that an operation names is on a memory again. -/
theorem deleted_tag_stays : InOrder roomOfTwo ∧
    (∃ db₁, deletedAfter (noteCandidate ["t1"]) = some db₁ ∧ ¬ Gone "t1" db₁) ∧
    ∃ db₁ db₂, deletedAfter (noteCandidate []) = some db₁ ∧ Gone "t1" db₁ ∧
      run (step plainServices) db₁ (noteAgain ["t1"]) = some db₂ ∧ ¬ Gone "t1" db₂ := by
  refine ⟨inOrder_roomOfTwo, ⟨_, rfl, fun h => ?_⟩, _, _, rfl, ?_, rfl, fun h => ?_⟩
  · exact absurd h.candidates (by decide)
  · exact ⟨mt isTag_iff.mp (by decide), by decide, by decide, by decide, by decide, by decide,
      by decide, by decide⟩
  · exact absurd h.memories (by decide)

end TagStorage

end CocoonSit
