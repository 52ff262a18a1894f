import CocoonSit.Removal.Subtree
import CocoonSit.Removal.Targets

/-!
# When a conversation can be taken out

Which rows have to be absent for the deletion of a subtree or a room to be in a right order and to
leave nothing behind.  Most references are within the conversation, and the statements are in a
right order for these, but for two: a cocoon goes after the message its context starts at, and a
room's session state after its current wakeup.  The others are references from outside.
-/

namespace CocoonSit

open Relational

/-! ## When nothing refers across the cut -/

section Cut

variable (db : Rows) (column : Column) (ids : List RowId)

/-- What both removals leave unsaid: no reference from another conversation, or from a cocoon, to
what goes, and no link of an audit run that goes without its ends. -/
structure ConversationCut : Prop where
  anchors : ∀ r ∈ db, r.table = .cocoons →
    refIn r .contextStartMessageId (ownedIds db column ids .messages) = false ∧
      refIn r .rollbackAnchorMsgId (ownedIds db column ids .messages) = false
  actions : ∀ r ∈ db, r.table = .messages ∨ r.table = .auditRuns →
    refIn r .actionId (ownedIds db column ids .actionDispatches) = true →
      refIn r column ids = true
  memories : ∀ r ∈ db, r.table = .memoryChunks →
    refIn r .sourceMessageId (ownedIds db column ids .messages) = true → refIn r column ids = true
  wakeups : ∀ r ∈ db, r.table = .wakeupTasks →
    refIn r .supersededByTaskId (ownedIds db column ids .wakeupTasks) = true →
      refIn r column ids = true
  artifacts : ∀ r ∈ db, r.table = .auditArtifacts →
    refIn r .stepId (ownedStepIds db column ids) = true →
      refIn r .runId (ownedIds db column ids .auditRuns) = true
  links : ∀ r ∈ db, r.table = .auditLinks →
    refIn r .runId (ownedIds db column ids .auditRuns) = true →
      (refIn r .sourceStepId (ownedStepIds db column ids) ||
        refIn r .targetStepId (ownedStepIds db column ids)) = true ∨
      (refIn r .sourceArtifactId (ownedArtifactIds db column ids) ||
        refIn r .targetArtifactId (ownedArtifactIds db column ids)) = true

/-- A cocoon's subtree can be taken out. -/
structure CocoonCut : Prop extends ConversationCut db .cocoonId ids where
  checkpoints : ∀ r ∈ db, r.table = .checkpoints →
    refIn r .anchorMessageId (ownedIds db .cocoonId ids .messages) = true →
      refIn r .cocoonId ids = true
  sessionStates : ∀ r ∈ db, r.table = .sessionStates →
    refIn r .currentWakeupTaskId (ownedIds db .cocoonId ids .wakeupTasks) = true →
      refIn r .cocoonId ids = true
  jobs : ∀ r ∈ db, r.table = .cocoonPullJobs ∨ r.table = .cocoonMergeJobs →
    refIn r .durableJobId (ownedIds db .cocoonId ids .durableJobs) = true →
      refIn r .sourceCocoonId ids = true ∨ refIn r .targetCocoonId ids = true
  dispatchRecords : ∀ r ∈ db, r.table = .pluginDispatchRecords →
    refIn r .targetIdOfCocoon ids = true →
      refIn r .wakeupTaskId (ownedIds db .cocoonId ids .wakeupTasks) = true
  plugins : ∀ r ∈ db, r.table = .pluginImTargetRoutes ∨ r.table = .pluginTargetBindings →
    refIn r .targetIdOfCocoon ids = false

/-- A chat-group room can be taken out. -/
structure RoomCut (roomId : RowId) : Prop extends ConversationCut db .chatGroupId [roomId] where
  checkpoints : ∀ r ∈ db, r.table = .checkpoints →
    refIn r .anchorMessageId (ownedIds db .chatGroupId [roomId] .messages) = false
  /-- The room has no current wakeup either. -/
  sessionStates : ∀ r ∈ db, r.table = .sessionStates →
    refIn r .currentWakeupTaskId (ownedIds db .chatGroupId [roomId] .wakeupTasks) = false
  jobs : ∀ r ∈ db, r.table = .cocoonPullJobs ∨ r.table = .cocoonMergeJobs →
    refIn r .durableJobId (ownedIds db .chatGroupId [roomId] .durableJobs) = false
  configs : ∀ r ∈ db, r.table = .pluginChatGroupConfigs → refIn r .chatGroupId [roomId] = false
  dispatchRecords : ∀ r ∈ db, r.table = .pluginDispatchRecords →
    refIn r .targetIdOfChatGroup [roomId] = true →
      refIn r .wakeupTaskId (ownedIds db .chatGroupId [roomId] .wakeupTasks) = true
  plugins : ∀ r ∈ db, r.table = .pluginImTargetRoutes ∨ r.table = .pluginTargetBindings →
    refIn r .targetIdOfChatGroup [roomId] = false

end Cut

section Proofs

variable {db : Rows} {column : Column} {ids : List RowId} {gone : DbRow → Bool}
  {late : List Column}

lemma CutClean.of_refIn (h : CutClean db gone late) (hdb : Holds dbSchema db) {r : DbRow}
    (c : Column) {keys : List RowId} (hr : r ∈ db) (henforced : c.enforced = true)
    (hhas : dbSchema.has r.table c = true)
    (hkeys : ∀ r' ∈ db, r'.table = c.target → r'.id ∈ keys → gone r' = true)
    (href : refIn r c keys = true) : gone r = true ∧ c ∉ late := by
  obtain ⟨r', hr', hrefers, htable, hid⟩ := exists_of_refIn hdb hr henforced hhas href
  exact h r hr r' hr' c hrefers (hkeys r' hr' htable hid)

lemma mem_ownedIds (hkeys : UniqueKeys db) {r : DbRow} {table : TableName} (hr : r ∈ db)
    (htable : r.table = table) : r.id ∈ ownedIds db column ids table ↔ refIn r column ids = true :=
  mem_selectIds_of_mem hkeys hr htable

lemma mem_ownedStepIds (hkeys : UniqueKeys db) {r : DbRow} (hr : r ∈ db)
    (htable : r.table = .auditSteps) : r.id ∈ ownedStepIds db column ids ↔
      refIn r .runId (ownedIds db column ids .auditRuns) = true :=
  mem_selectIds_of_mem hkeys hr htable

lemma mem_ownedArtifactIds (hkeys : UniqueKeys db) {r : DbRow} (hr : r ∈ db)
    (htable : r.table = .auditArtifacts) : r.id ∈ ownedArtifactIds db column ids ↔
      refIn r .runId (ownedIds db column ids .auditRuns) = true :=
  mem_selectIds_of_mem hkeys hr htable

/-- The tables that both removals delete from in the same way. -/
def conversationTables : List TableName :=
  [.pluginDispatchRecords, .wakeupTasks, .durableJobs, .memoryTags, .memoryEmbeddings,
    .memoryChunks, .pluginImDeliveryOutbox, .messageTags, .messages, .auditLinks, .auditArtifacts,
    .auditSteps, .auditRuns, .failedRounds, .actionDispatches]

/-- The tables whose keys the removals select by the conversation. -/
def ownedTables : List TableName :=
  [.messages, .actionDispatches, .wakeupTasks, .auditRuns, .durableJobs, .memoryChunks]

variable (hkeys : UniqueKeys db)
  (hshared : ∀ r, r.table ∈ conversationTables → gone r = conversationGoes db column ids r)
include hkeys hshared

lemma gone_iff_refIn {r : DbRow} (hr : r ∈ db) (htable : r.table ∈ ownedTables) :
    gone r = true ↔ refIn r column ids = true := by
  have hmem : ∀ t ∈ ownedTables, t ∈ conversationTables := by decide
  rw [hshared r (hmem _ htable)]
  simp only [ownedTables, List.mem_cons, List.not_mem_nil, or_false] at htable
  rcases htable with h | h | h | h | h | h <;>
    simp [conversationGoes, h, mem_ownedIds hkeys hr]

lemma gone_of_mem_ownedIds {t : TableName} (ht : t ∈ ownedTables) :
    ∀ r ∈ db, r.table = t → r.id ∈ ownedIds db column ids t → gone r = true := by
  intro r hr htable hid
  exact (gone_iff_refIn hkeys hshared hr (htable ▸ ht)).mpr ((mem_ownedIds hkeys hr htable).mp hid)

lemma gone_of_mem_ownedStepIds : ∀ r ∈ db, r.table = .auditSteps →
    r.id ∈ ownedStepIds db column ids → gone r = true := by
  intro r hr htable hid
  rw [hshared r (by rw [htable]; decide)]
  simpa [conversationGoes, htable] using (mem_ownedStepIds hkeys hr htable).mp hid

/-- The columns that refer to what both removals delete, and the table each refers to. -/
def conversationColumns : List Column :=
  [.contextStartMessageId, .rollbackAnchorMsgId, .actionId, .messageId, .sourceMessageId,
    .memoryChunkId, .runId, .stepId, .sourceArtifactId, .sourceStepId, .targetArtifactId,
    .targetStepId, .wakeupTaskId, .supersededByTaskId]

lemma refIn_of_gone {r r' : DbRow} {c : Column} {t : TableName} (hr' : r' ∈ db)
    (hrefers : RefersTo dbSchema r c r') (hgone' : gone r' = true) (htarget : c.target = t)
    (ht : t ∈ ownedTables) : refIn r c (ownedIds db column ids t) = true := by
  have htable : r'.table = t := hrefers.2.1.symm.trans htarget
  exact refIn_of_refersTo hrefers ((mem_ownedIds hkeys hr' htable).mpr
    ((gone_iff_refIn hkeys hshared hr' (htable ▸ ht)).mp hgone'))

lemma refIn_step_of_gone {r r' : DbRow} {c : Column} (hr' : r' ∈ db)
    (hrefers : RefersTo dbSchema r c r') (hgone' : gone r' = true)
    (htarget : c.target = .auditSteps) : refIn r c (ownedStepIds db column ids) = true := by
  have htable : r'.table = .auditSteps := hrefers.2.1.symm.trans htarget
  rw [hshared r' (by rw [htable]; decide)] at hgone'
  refine refIn_of_refersTo hrefers ((mem_ownedStepIds hkeys hr' htable).mpr ?_)
  simpa [conversationGoes, htable] using hgone'

omit hkeys in
lemma refIn_artifact_of_gone {r r' : DbRow} {c : Column}
    (hrefers : RefersTo dbSchema r c r') (hgone' : gone r' = true)
    (htarget : c.target = .auditArtifacts) :
    refIn r c (ownedArtifactIds db column ids) = true := by
  have htable : r'.table = .auditArtifacts := hrefers.2.1.symm.trans htarget
  rw [hshared r' (by rw [htable]; decide)] at hgone'
  refine refIn_of_refersTo hrefers ?_
  simpa [conversationGoes, htable] using hgone'

lemma gone_of_conversationCut (hcut : ConversationCut db column ids) {r r' : DbRow} {c : Column}
    (hr : r ∈ db) (hr' : r' ∈ db) (hrefers : RefersTo dbSchema r c r') (hgone' : gone r' = true)
    (hc : c ∈ conversationColumns) :
    gone r = true ∧ c ≠ .contextStartMessageId ∧ c ≠ .rollbackAnchorMsgId := by
  have hhas : dbSchema.has r.table c = true := hrefers.1
  have howned : ∀ t, c.target = t → t ∈ ownedTables →
      refIn r c (ownedIds db column ids t) = true := fun t htarget ht =>
    refIn_of_gone hkeys hshared hr' hrefers hgone' htarget ht
  have hstep := refIn_step_of_gone hkeys hshared hr' hrefers hgone'
  have hartifact := refIn_artifact_of_gone hshared hrefers hgone'
  have hgoes : r.table ∈ conversationTables → conversationGoes db column ids r = true →
      gone r = true := fun htable hgoes => by rwa [hshared r htable]
  have hrow : r.table ∈ ownedTables → refIn r column ids = true → gone r = true :=
    fun htable href => (gone_iff_refIn hkeys hshared hr htable).mpr href
  cases c with
  | contextStartMessageId =>
    have href := (hcut.anchors r hr (has_contextStart hhas)).1
    rw [howned .messages rfl (by decide)] at href
    cases href
  | rollbackAnchorMsgId =>
    have href := (hcut.anchors r hr (has_rollbackAnchor hhas)).2
    rw [howned .messages rfl (by decide)] at href
    cases href
  | actionId =>
    refine ⟨?_, by decide, by decide⟩
    have href := howned .actionDispatches rfl (by decide)
    rcases has_actionId hhas with h | h | h | h
    · exact hrow (by rw [h]; decide) (hcut.actions r hr (.inl h) href)
    · exact hgoes (by rw [h]; decide) (by simp [conversationGoes, h, href])
    · exact hrow (by rw [h]; decide) (hcut.actions r hr (.inr h) href)
    · exact hgoes (by rw [h]; decide) (by simp [conversationGoes, h, href])
  | messageId =>
    refine ⟨?_, by decide, by decide⟩
    have href := howned .messages rfl (by decide)
    rcases has_messageId hhas with h | h
    · exact hgoes (by rw [h]; decide) (by simp [conversationGoes, h, href])
    · exact hgoes (by rw [h]; decide) (by simp [conversationGoes, h, href])
  | sourceMessageId =>
    have h := has_sourceMessageId hhas
    exact ⟨hrow (by rw [h]; decide)
      (hcut.memories r hr h (howned .messages rfl (by decide))), by decide, by decide⟩
  | memoryChunkId =>
    refine ⟨?_, by decide, by decide⟩
    have href := howned .memoryChunks rfl (by decide)
    rcases has_memoryChunkId hhas with h | h
    · exact hgoes (by rw [h]; decide) (by simp [conversationGoes, h, href])
    · exact hgoes (by rw [h]; decide) (by simp [conversationGoes, h, href])
  | runId =>
    refine ⟨?_, by decide, by decide⟩
    have href := howned .auditRuns rfl (by decide)
    rcases has_runId hhas with h | h | h
    · exact hgoes (by rw [h]; decide) (by simp [conversationGoes, h, href])
    · have hid := (mem_ownedArtifactIds hkeys hr h).mpr href
      exact hgoes (by rw [h]; decide) (by simp [conversationGoes, h, hid])
    · exact hgoes (by rw [h]; decide) (by
        simpa [conversationGoes, h] using hcut.links r hr h href)
  | stepId =>
    have h := has_stepId hhas
    have hid := (mem_ownedArtifactIds hkeys hr h).mpr (hcut.artifacts r hr h (hstep rfl))
    exact ⟨hgoes (by rw [h]; decide) (by simp [conversationGoes, h, hid]), by decide, by decide⟩
  | sourceStepId | targetStepId =>
    have h := has_linkColumn (by simp) hhas
    exact ⟨hgoes (by rw [h]; decide) (by simp [conversationGoes, h, hstep rfl]), by decide,
      by decide⟩
  | sourceArtifactId | targetArtifactId =>
    have h := has_linkColumn (by simp) hhas
    exact ⟨hgoes (by rw [h]; decide) (by simp [conversationGoes, h, hartifact rfl]), by decide,
      by decide⟩
  | wakeupTaskId =>
    have h := has_wakeupTaskId hhas
    have href := howned .wakeupTasks rfl (by decide)
    exact ⟨hgoes (by rw [h]; decide) (by simp [conversationGoes, h, href]), by decide, by decide⟩
  | supersededByTaskId =>
    have h := has_supersededByTaskId hhas
    exact ⟨hrow (by rw [h]; decide)
      (hcut.wakeups r hr h (howned .wakeupTasks rfl (by decide))), by decide, by decide⟩
  | _ => exact absurd hc (by decide)

variable (hdb : Holds dbSchema db)
include hdb

lemma conversationCut_of_cutClean
    (hcocoons : ∀ r, r.table = .cocoons → gone r = true →
      Column.contextStartMessageId ∈ late ∧ Column.rollbackAnchorMsgId ∈ late)
    (h : CutClean db gone late) : ConversationCut db column ids := by
  have howned : ∀ t ∈ ownedTables, ∀ r ∈ db, r.table = t → r.id ∈ ownedIds db column ids t →
      gone r = true := fun t ht => gone_of_mem_ownedIds hkeys hshared ht
  refine ⟨fun r hr htable => ⟨?_, ?_⟩, fun r hr htable href => ?_, fun r hr htable href => ?_,
    fun r hr htable href => ?_, fun r hr htable href => ?_, fun r hr htable href => ?_⟩
  · -- the cocoon goes after the message, or not at all
    by_contra href
    rw [Bool.not_eq_false] at href
    obtain ⟨hgone, hlate⟩ := h.of_refIn hdb .contextStartMessageId hr rfl (by rw [htable]; rfl)
      (howned _ (by decide)) href
    exact hlate (hcocoons r htable hgone).1
  · by_contra href
    rw [Bool.not_eq_false] at href
    obtain ⟨hgone, hlate⟩ := h.of_refIn hdb .rollbackAnchorMsgId hr rfl (by rw [htable]; rfl)
      (howned _ (by decide)) href
    exact hlate (hcocoons r htable hgone).2
  · have hhas : dbSchema.has r.table .actionId = true ∧ r.table ∈ ownedTables := by
      rcases htable with htable | htable <;> rw [htable] <;> decide
    exact (gone_iff_refIn hkeys hshared hr hhas.2).mp
      (h.of_refIn hdb .actionId hr rfl hhas.1 (howned _ (by decide)) href).1
  · exact (gone_iff_refIn hkeys hshared hr (by rw [htable]; decide)).mp
      (h.of_refIn hdb .sourceMessageId hr rfl (by rw [htable]; rfl) (howned _ (by decide)) href).1
  · exact (gone_iff_refIn hkeys hshared hr (by rw [htable]; decide)).mp
      (h.of_refIn hdb .supersededByTaskId hr rfl (by rw [htable]; rfl) (howned _ (by decide))
        href).1
  · have hgone := (h.of_refIn hdb .stepId hr rfl (by rw [htable]; rfl)
      (gone_of_mem_ownedStepIds hkeys hshared) href).1
    rw [hshared r (by rw [htable]; decide)] at hgone
    refine (mem_ownedArtifactIds hkeys hr htable).mp ?_
    simpa [conversationGoes, htable] using hgone
  · have hgone := (h.of_refIn hdb .runId hr rfl (by rw [htable]; rfl) (howned _ (by decide)) href).1
    rw [hshared r (by rw [htable]; decide)] at hgone
    simpa [conversationGoes, htable] using hgone

end Proofs

/-! ## Subtrees -/

section Subtree

variable {db : Rows} {ids : List RowId}

lemma goes_cocoon {r : DbRow} (h : r.table ∈ conversationTables) :
    goes (deleteCocoonSubtree db ids) r = conversationGoes db .cocoonId ids r := by
  rw [goes_deleteCocoonSubtree]
  simp only [conversationTables, List.mem_cons, List.not_mem_nil, or_false] at h
  unfold cocoonGoes
  rcases h with h | h | h | h | h | h | h | h | h | h | h | h | h | h | h <;> simp [h]

lemma goes_of_cocoonId (hkeys : UniqueKeys db) {r : DbRow} (hr : r ∈ db)
    (hhas : dbSchema.has r.table .cocoonId = true) (href : refIn r .cocoonId ids = true) :
    goes (deleteCocoonSubtree db ids) r = true := by
  have htable := has_cocoonId hhas
  rw [goes_deleteCocoonSubtree]
  simp only [List.mem_cons, List.not_mem_nil, or_false] at htable
  rcases htable with h | h | h | h | h | h | h | h | h | h | h | h | h <;>
    simp [cocoonGoes, conversationGoes, h, href, mem_ownedIds hkeys hr h]

lemma cocoonCut_of_cutClean (hdb : Holds dbSchema db) (hkeys : UniqueKeys db)
    (hnamed : ∀ id ∈ ids, ∃ r ∈ db, r.table = .cocoons ∧ r.id = id)
    (h : CutClean db (goes (deleteCocoonSubtree db ids)) cocoonLate) : CocoonCut db ids := by
  have hshared : ∀ r, r.table ∈ conversationTables →
      goes (deleteCocoonSubtree db ids) r = conversationGoes db .cocoonId ids r :=
    fun r htable => goes_cocoon htable
  have howned : ∀ t ∈ ownedTables, ∀ r ∈ db, r.table = t → r.id ∈ ownedIds db .cocoonId ids t →
      goes (deleteCocoonSubtree db ids) r = true := fun t ht =>
    gone_of_mem_ownedIds hkeys hshared ht
  -- a plugin's row that names one of the cocoons goes
  have hplugin : ∀ r ∈ db, dbSchema.has r.table .targetIdOfCocoon = true →
      refIn r .targetIdOfCocoon ids = true → goes (deleteCocoonSubtree db ids) r = true := by
    intro r hr hhas href
    obtain ⟨id, hid, hrefs⟩ := refIn_eq_true.mp href
    obtain ⟨r', hr', htable, rfl⟩ := hnamed id hid
    refine (h r hr r' hr' .targetIdOfCocoon ⟨hhas, htable.symm, hrefs⟩ ?_).1
    rw [goes_deleteCocoonSubtree]
    simp [cocoonGoes, htable, hid]
  have hcut : ConversationCut db .cocoonId ids :=
    conversationCut_of_cutClean hkeys hshared hdb (fun _ _ _ => by decide) h
  refine { hcut with
    checkpoints := fun r hr htable href => ?_
    sessionStates := fun r hr htable href => ?_
    jobs := fun r hr htable href => ?_
    dispatchRecords := fun r hr htable href => ?_
    plugins := fun r hr htable => ?_ }
  · have hgone := (h.of_refIn hdb .anchorMessageId hr rfl (by rw [htable]; rfl)
      (howned _ (by decide)) href).1
    rw [goes_deleteCocoonSubtree] at hgone
    simpa [cocoonGoes, htable] using hgone
  · have hgone := (h.of_refIn hdb .currentWakeupTaskId hr rfl (by rw [htable]; rfl)
      (howned _ (by decide)) href).1
    rw [goes_deleteCocoonSubtree] at hgone
    simpa [cocoonGoes, htable] using hgone
  · have hhas : dbSchema.has r.table .durableJobId = true := by
      rcases htable with htable | htable <;> rw [htable] <;> rfl
    have hgone := (h.of_refIn hdb .durableJobId hr rfl hhas (howned _ (by decide)) href).1
    rw [goes_deleteCocoonSubtree] at hgone
    rcases htable with htable | htable <;> simpa [cocoonGoes, htable] using hgone
  · have hgone := hplugin r hr (by rw [htable]; rfl) href
    rw [goes_cocoon (by rw [htable]; decide)] at hgone
    simpa [conversationGoes, htable] using hgone
  · by_contra href
    rw [Bool.not_eq_false] at href
    have hgone := hplugin r hr (by rcases htable with h | h <;> rw [h] <;> rfl) href
    rw [goes_deleteCocoonSubtree] at hgone
    rcases htable with htable | htable <;> simp [cocoonGoes, conversationGoes, htable] at hgone

lemma cutClean_of_cocoonCut (hkeys : UniqueKeys db)
    (hclosed : ∀ r ∈ db, r.table = .cocoons → refIn r .parentId ids = true → r.id ∈ ids)
    (h : CocoonCut db ids) : CutClean db (goes (deleteCocoonSubtree db ids)) cocoonLate := by
  have hshared : ∀ r, r.table ∈ conversationTables →
      goes (deleteCocoonSubtree db ids) r = conversationGoes db .cocoonId ids r :=
    fun r htable => goes_cocoon htable
  intro r hr r' hr' c hrefers hgone'
  by_cases hc : c ∈ conversationColumns
  · obtain ⟨hgone, hstart, hanchor⟩ :=
      gone_of_conversationCut hkeys hshared h.toConversationCut hr hr' hrefers hgone' hc
    exact ⟨hgone, by simp [cocoonLate, hstart, hanchor]⟩
  have hhas : dbSchema.has r.table c = true := hrefers.1
  have htarget : c.target = r'.table := hrefers.2.1
  have howned : ∀ t, c.target = t → t ∈ ownedTables →
      refIn r c (ownedIds db .cocoonId ids t) = true := fun t ht hmem =>
    refIn_of_gone hkeys hshared hr' hrefers hgone' ht hmem
  have hcocoon : c.target = .cocoons → refIn r c ids = true := by
    intro ht
    rw [goes_deleteCocoonSubtree] at hgone'
    refine refIn_of_refersTo hrefers ?_
    simpa [cocoonGoes, htarget.symm.trans ht] using hgone'
  rw [goes_deleteCocoonSubtree db ids r]
  cases c with
  | parentId =>
    have htable := has_parentId hhas
    have hid := hclosed r hr htable (hcocoon rfl)
    exact ⟨by simp [cocoonGoes, htable, hid], by decide⟩
  | ownerUserId | characterId | chatGroupId | roomId | targetIdOfChatGroup =>
    -- users, characters and rooms stay
    rw [goes_deleteCocoonSubtree] at hgone'
    simp [cocoonGoes, conversationGoes, ← htarget, Column.target] at hgone'
  | cocoonId =>
    rw [← goes_deleteCocoonSubtree]
    exact ⟨goes_of_cocoonId hkeys hr hhas (hcocoon rfl), by decide⟩
  | anchorMessageId =>
    have htable := has_anchorMessageId hhas
    have href := h.checkpoints r hr htable (howned .messages rfl (by decide))
    exact ⟨by simp [cocoonGoes, htable, href], by decide⟩
  | currentWakeupTaskId =>
    have htable := has_currentWakeupTaskId hhas
    have href := h.sessionStates r hr htable (howned .wakeupTasks rfl (by decide))
    exact ⟨by simp [cocoonGoes, htable, href], by decide⟩
  | durableJobId =>
    have htable := has_jobColumn (.inl rfl) hhas
    have href := h.jobs r hr htable (howned .durableJobs rfl (by decide))
    refine ⟨?_, by decide⟩
    rcases htable with htable | htable <;> rcases href with href | href <;>
      simp [cocoonGoes, htable, href]
  | sourceCocoonId | targetCocoonId =>
    have htable := has_jobColumn (by simp) hhas
    refine ⟨?_, by decide⟩
    rcases htable with htable | htable <;> simp [cocoonGoes, htable, hcocoon rfl]
  | targetIdOfCocoon =>
    refine ⟨?_, by decide⟩
    rcases has_targetId (.inl rfl) hhas with htable | htable | htable
    · have href := h.dispatchRecords r hr htable (hcocoon rfl)
      simp [cocoonGoes, conversationGoes, htable, href]
    · have href := h.plugins r hr (.inl htable)
      rw [hcocoon rfl] at href
      cases href
    · have href := h.plugins r hr (.inr htable)
      rw [hcocoon rfl] at href
      cases href
  | _ => exact absurd (by decide) hc

end Subtree

/-! ## Rooms -/

section Room

variable {db : Rows} {roomId : RowId}

lemma goes_room {r : DbRow} (h : r.table ∈ conversationTables) :
    goes (deleteChatGroup db roomId) r = conversationGoes db .chatGroupId [roomId] r := by
  rw [goes_deleteChatGroup]
  simp only [conversationTables, List.mem_cons, List.not_mem_nil, or_false] at h
  unfold roomGoes
  rcases h with h | h | h | h | h | h | h | h | h | h | h | h | h | h | h <;> simp [h]

lemma goes_of_chatGroupId (hkeys : UniqueKeys db) {r : DbRow} (hr : r ∈ db)
    (hhas : dbSchema.has r.table .chatGroupId = true) (hconfig : r.table ≠ .pluginChatGroupConfigs)
    (href : refIn r .chatGroupId [roomId] = true) :
    goes (deleteChatGroup db roomId) r = true := by
  have htable := has_chatGroupId hhas
  rw [goes_deleteChatGroup]
  simp only [List.mem_cons, List.not_mem_nil, or_false] at htable
  rcases htable with h | h | h | h | h | h | h | h | h | h | h | h | h | h
  case inr.inr.inl => exact absurd h hconfig
  all_goals simp [roomGoes, conversationGoes, h, href, mem_ownedIds hkeys hr h]

lemma roomCut_of_cutClean (hdb : Holds dbSchema db) (hkeys : UniqueKeys db)
    (hroom : ∃ r ∈ db, r.table = .chatGroupRooms ∧ r.id = roomId)
    (h : CutClean db (goes (deleteChatGroup db roomId)) roomLate) : RoomCut db roomId := by
  have hshared : ∀ r, r.table ∈ conversationTables →
      goes (deleteChatGroup db roomId) r = conversationGoes db .chatGroupId [roomId] r :=
    fun r htable => goes_room htable
  have howned : ∀ t ∈ ownedTables, ∀ r ∈ db, r.table = t →
      r.id ∈ ownedIds db .chatGroupId [roomId] t → goes (deleteChatGroup db roomId) r = true :=
    fun t ht => gone_of_mem_ownedIds hkeys hshared ht
  -- a row that names the room goes
  have hnames : ∀ r ∈ db, ∀ c, c.target = .chatGroupRooms → dbSchema.has r.table c = true →
      refIn r c [roomId] = true → goes (deleteChatGroup db roomId) r = true := by
    intro r hr c htarget hhas href
    obtain ⟨id, hid, hrefs⟩ := refIn_eq_true.mp href
    obtain ⟨r', hr', htable, hid'⟩ := hroom
    rw [List.mem_singleton.mp hid, ← hid'] at hrefs
    refine (h r hr r' hr' c ⟨hhas, htarget.trans htable.symm, hrefs⟩ ?_).1
    rw [goes_deleteChatGroup]
    simp [roomGoes, htable, hid']
  have hcut : ConversationCut db .chatGroupId [roomId] := by
    refine conversationCut_of_cutClean hkeys hshared hdb (fun r htable hgone => ?_) h
    rw [goes_deleteChatGroup] at hgone
    simp [roomGoes, conversationGoes, htable] at hgone
  refine { hcut with
    checkpoints := fun r hr htable => ?_
    sessionStates := fun r hr htable => ?_
    jobs := fun r hr htable => ?_
    configs := fun r hr htable => ?_
    dispatchRecords := fun r hr htable href => ?_
    plugins := fun r hr htable => ?_ }
  · by_contra href
    rw [Bool.not_eq_false] at href
    have hgone := (h.of_refIn hdb .anchorMessageId hr rfl (by rw [htable]; rfl)
      (howned _ (by decide)) href).1
    rw [goes_deleteChatGroup] at hgone
    simp [roomGoes, conversationGoes, htable] at hgone
  · -- it goes, but late
    by_contra href
    rw [Bool.not_eq_false] at href
    exact (h.of_refIn hdb .currentWakeupTaskId hr rfl (by rw [htable]; rfl)
      (howned _ (by decide)) href).2 (by decide)
  · by_contra href
    rw [Bool.not_eq_false] at href
    have hhas : dbSchema.has r.table .durableJobId = true := by
      rcases htable with htable | htable <;> rw [htable] <;> rfl
    have hgone := (h.of_refIn hdb .durableJobId hr rfl hhas (howned _ (by decide)) href).1
    rw [goes_deleteChatGroup] at hgone
    rcases htable with htable | htable <;> simp [roomGoes, conversationGoes, htable] at hgone
  · by_contra href
    rw [Bool.not_eq_false] at href
    have hgone := hnames r hr .chatGroupId rfl (by rw [htable]; rfl) href
    rw [goes_deleteChatGroup] at hgone
    simp [roomGoes, conversationGoes, htable] at hgone
  · have hgone := hnames r hr .targetIdOfChatGroup rfl (by rw [htable]; rfl) href
    rw [goes_room (by rw [htable]; decide)] at hgone
    simpa [conversationGoes, htable] using hgone
  · by_contra href
    rw [Bool.not_eq_false] at href
    have hgone := hnames r hr .targetIdOfChatGroup rfl
      (by rcases htable with h | h <;> rw [h] <;> rfl) href
    rw [goes_deleteChatGroup] at hgone
    rcases htable with htable | htable <;> simp [roomGoes, conversationGoes, htable] at hgone

lemma cutClean_of_roomCut (hkeys : UniqueKeys db) (h : RoomCut db roomId) :
    CutClean db (goes (deleteChatGroup db roomId)) roomLate := by
  have hshared : ∀ r, r.table ∈ conversationTables →
      goes (deleteChatGroup db roomId) r = conversationGoes db .chatGroupId [roomId] r :=
    fun r htable => goes_room htable
  intro r hr r' hr' c hrefers hgone'
  by_cases hc : c ∈ conversationColumns
  · have hlate : ∀ c ∈ conversationColumns, c ∉ roomLate := by decide
    exact ⟨(gone_of_conversationCut hkeys hshared h.toConversationCut hr hr' hrefers hgone' hc).1,
      hlate c hc⟩
  have hhas : dbSchema.has r.table c = true := hrefers.1
  have htarget : c.target = r'.table := hrefers.2.1
  have howned : ∀ t, c.target = t → t ∈ ownedTables →
      refIn r c (ownedIds db .chatGroupId [roomId] t) = true := fun t ht hmem =>
    refIn_of_gone hkeys hshared hr' hrefers hgone' ht hmem
  have hroom : c.target = .chatGroupRooms → refIn r c [roomId] = true := by
    intro ht
    rw [goes_deleteChatGroup] at hgone'
    refine refIn_of_refersTo hrefers ?_
    simpa [roomGoes, htarget.symm.trans ht] using hgone'
  cases c with
  | parentId | ownerUserId | characterId | cocoonId | sourceCocoonId | targetCocoonId
  | targetIdOfCocoon =>
    -- users, characters and cocoons stay
    rw [goes_deleteChatGroup] at hgone'
    simp [roomGoes, conversationGoes, ← htarget, Column.target] at hgone'
  | chatGroupId =>
    by_cases hconfig : r.table = .pluginChatGroupConfigs
    · have href := h.configs r hr hconfig
      rw [hroom rfl] at href
      cases href
    · exact ⟨goes_of_chatGroupId hkeys hr hhas hconfig (hroom rfl), by decide⟩
  | roomId =>
    have htable := has_roomId hhas
    rw [goes_deleteChatGroup]
    exact ⟨by simp [roomGoes, htable, hroom rfl], by decide⟩
  | anchorMessageId =>
    have href := h.checkpoints r hr (has_anchorMessageId hhas)
    rw [howned .messages rfl (by decide)] at href
    cases href
  | currentWakeupTaskId =>
    have href := h.sessionStates r hr (has_currentWakeupTaskId hhas)
    rw [howned .wakeupTasks rfl (by decide)] at href
    cases href
  | durableJobId =>
    have href := h.jobs r hr (has_jobColumn (.inl rfl) hhas)
    rw [howned .durableJobs rfl (by decide)] at href
    cases href
  | targetIdOfChatGroup =>
    refine ⟨?_, by decide⟩
    rcases has_targetId (.inr rfl) hhas with htable | htable | htable
    · have href := h.dispatchRecords r hr htable (hroom rfl)
      rw [goes_deleteChatGroup]
      simp [roomGoes, conversationGoes, htable, href]
    · have href := h.plugins r hr (.inl htable)
      rw [hroom rfl] at href
      cases href
    · have href := h.plugins r hr (.inr htable)
      rw [hroom rfl] at href
      cases href
  | _ => exact absurd (by decide) hc

end Room

/-! ## Both -/

lemma subtree_spec {db : Rows} {fuel : ℕ} {rootId : RowId} {ids : List RowId}
    (hroot : ∃ r ∈ db, r.table = .cocoons ∧ r.id = rootId)
    (hids : collectCocoonSubtreeIds db fuel rootId = some ids) :
    (∀ id ∈ ids, ∃ r ∈ db, r.table = .cocoons ∧ r.id = id) ∧
      ∀ r ∈ db, r.table = .cocoons → refIn r .parentId ids = true → r.id ∈ ids := by
  have hmem := mem_collectCocoonSubtreeIds hids
  constructor
  · intro id hid
    cases (hmem id).mp hid with
    | root => exact hroot
    | child _ hchild =>
      obtain ⟨r, hr, htable, -, hrid⟩ := mem_selectIds.mp hchild
      exact ⟨r, hr, htable, hrid⟩
  · intro r hr htable href
    obtain ⟨parentId, hparent, hrefs⟩ := refIn_eq_true.mp href
    refine (hmem r.id).mpr (.child ((hmem parentId).mp hparent) ?_)
    exact mem_selectIds.mpr ⟨r, hr, htable, by simp [hrefs], rfl⟩

/-- The deletion of a subtree or a room is in a right order and leaves nothing behind exactly when
nothing refers across the cut, and neither cocoon's anchor nor session state's wakeup is in it. -/
theorem targets_takenDown_iff {db : Rows} (hdb : Holds dbSchema db) (hkeys : UniqueKeys db) :
    (∀ fuel rootId ids, (∃ r ∈ db, r.table = .cocoons ∧ r.id = rootId) →
      collectCocoonSubtreeIds db fuel rootId = some ids →
        (TakenDown db (deleteCocoonSubtree db ids) ↔ CocoonCut db ids)) ∧
    ∀ roomId, (∃ r ∈ db, r.table = .chatGroupRooms ∧ r.id = roomId) →
      (TakenDown db (deleteChatGroup db roomId) ↔ RoomCut db roomId) := by
  constructor
  · intro fuel rootId ids hroot hids
    obtain ⟨hnamed, hclosed⟩ := subtree_spec hroot hids
    rw [takenDown_iff_cutClean hdb hkeys (show _ = cocoonTables from rfl) separate_cocoonTables
      cocoonTables_order (by decide)]
    exact ⟨cocoonCut_of_cutClean hdb hkeys hnamed, cutClean_of_cocoonCut hkeys hclosed⟩
  · intro roomId hroom
    rw [takenDown_iff_cutClean hdb hkeys (show _ = roomTables from rfl) separate_roomTables
      roomTables_order (by decide)]
    exact ⟨roomCut_of_cutClean hdb hkeys hroom, cutClean_of_roomCut hkeys⟩

/-- A cocoon with a message, a fork of it, and a room. -/
def talkRows : Rows :=
  [{ table := .users, id := "ada", refs := fun _ => none, data := {} },
    { table := .characters, id := "bo", refs := fun _ => none, data := {} },
    { table := .cocoons, id := "c", data := {}
      refs := fun | .ownerUserId => some "ada" | .characterId => some "bo" | _ => none },
    { table := .cocoons, id := "fork", data := {}
      refs := fun
        | .ownerUserId => some "ada" | .characterId => some "bo" | .parentId => some "c"
        | _ => none },
    { table := .messages, id := "m", data := {}
      refs := fun | .cocoonId => some "c" | _ => none },
    { table := .chatGroupRooms, id := "g", refs := fun _ => none, data := {} },
    { table := .wakeupTasks, id := "w", data := {}
      refs := fun | .chatGroupId => some "g" | _ => none }]

/-- Both can be deleted. -/
theorem talkRows_takenDown : TakenDown talkRows (deleteCocoonSubtree talkRows ["c", "fork"]) ∧
    TakenDown talkRows (deleteChatGroup talkRows "g") := by
  have hdb : Holds dbSchema talkRows := by decide +kernel
  have h := targets_takenDown_iff hdb (by decide +kernel)
  refine ⟨(h.1 2 "c" ["c", "fork"] (by decide +kernel) (by decide +kernel)).mpr ?_,
    (h.2 "g" (by decide +kernel)).mpr ?_⟩
  · exact ⟨⟨by decide +kernel, by decide +kernel, by decide +kernel, by decide +kernel,
      by decide +kernel, by decide +kernel⟩, by decide +kernel, by decide +kernel,
      by decide +kernel, by decide +kernel, by decide +kernel⟩
  · exact ⟨⟨by decide +kernel, by decide +kernel, by decide +kernel, by decide +kernel,
      by decide +kernel, by decide +kernel⟩, by decide +kernel, by decide +kernel,
      by decide +kernel, by decide +kernel, by decide +kernel, by decide +kernel⟩

/-- The room's next wakeup. -/
def scheduledState : DbRow :=
  { table := .sessionStates, id := "g", data := {}
    refs := fun | .chatGroupId => some "g" | .currentWakeupTaskId => some "w" | _ => none }

/-- A cocoon whose context starts at one of its messages, as compaction leaves it. -/
def compactedCocoon : Rows :=
  [{ table := .users, id := "ada", refs := fun _ => none, data := {} },
    { table := .characters, id := "bo", refs := fun _ => none, data := {} },
    { table := .cocoons, id := "c", data := {}
      refs := fun
        | .ownerUserId => some "ada" | .characterId => some "bo"
        | .contextStartMessageId => some "m"
        | _ => none },
    { table := .messages, id := "m", data := {}
      refs := fun | .cocoonId => some "c" | _ => none }]

/-- Neither can be deleted: a foreign key fails on the way. -/
theorem deletions_not_takenDown :
    (∃ (db : Rows) (ids : List RowId), Holds dbSchema db ∧ UniqueKeys db ∧
      collectCocoonSubtreeIds db 1 "c" = some ids ∧ ¬ TakenDown db (deleteCocoonSubtree db ids)) ∧
    ∃ db : Rows, Holds dbSchema db ∧ UniqueKeys db ∧
      (∃ r ∈ db, r.table = .chatGroupRooms ∧ r.id = "g") ∧
        ¬ TakenDown db (deleteChatGroup db "g") := by
  constructor
  · refine ⟨compactedCocoon, ["c"], by decide +kernel, by decide +kernel, by decide +kernel,
      fun h => ?_⟩
    -- after the messages are deleted the cocoon still refers to one
    have hmessages := h.1 17 (by decide +kernel)
    revert hmessages
    decide +kernel
  · refine ⟨talkRows ++ [scheduledState], by decide +kernel, by decide +kernel,
      by decide +kernel, fun h => ?_⟩
    -- after the wakeups are deleted the session state still refers to one
    have hwakeups := h.1 2 (by decide +kernel)
    revert hwakeups
    decide +kernel

end CocoonSit
