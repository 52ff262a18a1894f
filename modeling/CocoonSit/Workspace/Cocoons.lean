import CocoonSit.Removal.Cuts
import CocoonSit.Workspace.Memory

/-!
# The cocoon routes, and what a caller reaches through them

A cocoon is updated and deleted by those who may write or manage it.  An update changes its own row.
A deletion takes the cocoons below it along, whoever owns them, and a memory of an ancestor is
edited through any of its descendants; so a caller reaches, beyond what the access check is made
for, memories up the lineage and cocoons down the tree.
-/

namespace CocoonSit

open Table Relational

/-! ## Updates -/

/-- `CocoonUpdate`; a null changes nothing. -/
structure CocoonUpdate where
  name : Option String := none
  characterId : Option RowId := none
  selectedModelId : Option RowId := none
  defaultTemperature : Option Rat := none
  maxContextMessages : Option ℤ := none
  autoCompactionEnabled : Option Bool := none
  memoryProfile : Option String := none

def CocoonUpdate.applyTo (payload : CocoonUpdate) (cocoon : Cocoon) : Cocoon :=
  { cocoon with
    name := payload.name.getD cocoon.name
    characterId := payload.characterId.getD cocoon.characterId
    selectedModelId := payload.selectedModelId.getD cocoon.selectedModelId
    defaultTemperature := payload.defaultTemperature.getD cocoon.defaultTemperature
    maxContextMessages := payload.maxContextMessages.getD cocoon.maxContextMessages
    autoCompactionEnabled := payload.autoCompactionEnabled.getD cocoon.autoCompactionEnabled
    memoryProfile := payload.memoryProfile.getD cocoon.memoryProfile }

/-- `require_model_allowed`: an empty list allows every model. -/
def requireModelAllowed (allowedModelIds : List RowId) (modelId : RowId) : Except HttpError Unit :=
  if !allowedModelIds.isEmpty && modelId ∉ allowedModelIds then
    .error ⟨400, "Selected model is not allowed by system settings"⟩
  else .ok ()

/-- The model is looked at where the update names one. -/
def CocoonUpdate.requireModel (payload : CocoonUpdate) (allowedModelIds : List RowId) :
    Except HttpError Unit :=
  payload.selectedModelId.elim (.ok ()) (requireModelAllowed allowedModelIds)

section Routes

variable (settings : Settings) (accounts : Accounts)

/-- `PATCH /{cocoon_id}`. -/
def updateCocoon (allowedModelIds : List RowId) (s : IndexedDb) (user : User) (cocoonId : RowId)
    (payload : CocoonUpdate) : Except HttpError IndexedDb := do
  let cocoon ← requireCocoonAccess settings accounts s.cocoons user cocoonId true true
  payload.requireModel allowedModelIds
  return { s with cocoons := update s.cocoons cocoonId fun _ => payload.applyTo cocoon }

/-! ## Deletions -/

/-- A row of `cocoons`, with the columns that the access checks read. -/
def toCocoon? (r : DbRow) : Option Cocoon :=
  if r.table = .cocoons then do
    let ownerUserId ← r.refs .ownerUserId
    let characterId ← r.refs .characterId
    return { id := r.id, parentId := r.refs .parentId, ownerUserId, characterId }
  else none

def cocoonsOf (rows : Rows) : List Cocoon := rows.filterMap toCocoon?

/-- `DELETE /{cocoon_id}`; `none` where the walk over the subtree is not done by then. -/
def deleteCocoon (fuel : ℕ) (rows : Rows) (user : User) (cocoonId : RowId) :
    Except HttpError (Option Rows) := do
  let cocoon ← requireCocoonAccess settings accounts (cocoonsOf rows) user cocoonId true true
  return (collectCocoonSubtreeIds rows fuel cocoon.id).map fun ids =>
    afterDeletes rows ((deleteCocoonSubtree rows ids).map tableDelete)

end Routes

/-- A cocoon of the subtree, or a row that refers to a row of it. -/
inductive InSubtree (rows : Rows) (rootId : RowId) : DbRow → Prop
  | cocoon {r : DbRow} (hr : r ∈ rows) (htable : r.table = .cocoons)
      (h : Descends rows rootId r.id) : InSubtree rows rootId r
  | refers {r r' : DbRow} {c : Column} (hr : r ∈ rows) (h : InSubtree rows rootId r')
      (hrefers : RefersTo dbSchema r c r') : InSubtree rows rootId r

section Subtree

variable {rows : Rows} {rootId : RowId} {ids : List RowId}

lemma InSubtree.of_refIn {r : DbRow} (c : Column) {keys : List RowId} (hr : r ∈ rows)
    (hhas : dbSchema.has r.table c = true)
    (hkeys : ∀ id ∈ keys, ∃ r', InSubtree rows rootId r' ∧ r'.table = c.target ∧ r'.id = id)
    (href : refIn r c keys = true) : InSubtree rows rootId r := by
  obtain ⟨id, hid, hrefs⟩ := refIn_eq_true.mp href
  obtain ⟨r', h, htable, rfl⟩ := hkeys id hid
  exact .refers hr h ⟨hhas, htable.symm, hrefs⟩

variable (hcocoons : ∀ id ∈ ids, ∃ r', InSubtree rows rootId r' ∧ r'.table = .cocoons ∧ r'.id = id)
include hcocoons

lemma inSubtree_of_mem_ownedIds {t : TableName} (ht : dbSchema.has t .cocoonId = true) :
    ∀ id ∈ ownedIds rows .cocoonId ids t,
      ∃ r', InSubtree rows rootId r' ∧ r'.table = t ∧ r'.id = id := by
  intro id hid
  obtain ⟨r, hr, htable, href, rfl⟩ := mem_selectIds.mp hid
  exact ⟨r, .of_refIn .cocoonId hr (htable ▸ ht) hcocoons href, htable, rfl⟩

lemma inSubtree_of_mem_ownedStepIds : ∀ id ∈ ownedStepIds rows .cocoonId ids,
    ∃ r', InSubtree rows rootId r' ∧ r'.table = .auditSteps ∧ r'.id = id := by
  intro id hid
  obtain ⟨r, hr, htable, href, rfl⟩ := mem_selectIds.mp hid
  exact ⟨r, .of_refIn .runId hr (by rw [htable]; rfl)
    (inSubtree_of_mem_ownedIds hcocoons (t := .auditRuns) rfl) href, htable, rfl⟩

lemma inSubtree_of_mem_ownedArtifactIds : ∀ id ∈ ownedArtifactIds rows .cocoonId ids,
    ∃ r', InSubtree rows rootId r' ∧ r'.table = .auditArtifacts ∧ r'.id = id := by
  intro id hid
  obtain ⟨r, hr, htable, href, rfl⟩ := mem_selectIds.mp hid
  exact ⟨r, .of_refIn .runId hr (by rw [htable]; rfl)
    (inSubtree_of_mem_ownedIds hcocoons (t := .auditRuns) rfl) href, htable, rfl⟩

lemma inSubtree_of_cocoonGoes (hkeys : UniqueKeys rows)
    (hdescends : ∀ id ∈ ids, Descends rows rootId id) {r : DbRow} (hr : r ∈ rows)
    (hgoes : cocoonGoes rows ids r = true) : InSubtree rows rootId r := by
  have howned : ∀ {t}, dbSchema.has t .cocoonId = true → ∀ id ∈ ownedIds rows .cocoonId ids t,
      ∃ r', InSubtree rows rootId r' ∧ r'.table = t ∧ r'.id = id :=
    fun ht => inSubtree_of_mem_ownedIds hcocoons ht
  have hsteps := inSubtree_of_mem_ownedStepIds hcocoons
  have hartifacts := inSubtree_of_mem_ownedArtifactIds hcocoons
  -- a row of a table that is selected by the cocoon
  have hrow : dbSchema.has r.table .cocoonId = true →
      r.id ∈ ownedIds rows .cocoonId ids r.table → InSubtree rows rootId r := fun hhas hid =>
    .of_refIn .cocoonId hr hhas hcocoons ((mem_ownedIds hkeys hr rfl).mp hid)
  unfold cocoonGoes conversationGoes at hgoes
  cases htable : r.table <;> rw [htable] at hgoes hrow <;>
    simp only [decide_eq_true_eq, Bool.or_eq_true, Bool.false_eq_true] at hgoes
  case cocoons => exact .cocoon hr htable (hdescends _ hgoes)
  case messages | memoryChunks | auditRuns | actionDispatches | durableJobs =>
      exact hrow rfl hgoes
  case cocoonTagBindings | sessionStates | memoryCandidates | factCacheEntries | targetTaskStates
      | wakeupTasks | checkpoints =>
      exact .of_refIn .cocoonId hr (by rw [htable]; rfl) hcocoons hgoes
  case messageTags => exact .of_refIn .messageId hr (by rw [htable]; rfl) (howned rfl) hgoes
  case memoryEmbeddings | memoryTags =>
      exact .of_refIn .memoryChunkId hr (by rw [htable]; rfl) (howned rfl) hgoes
  case auditSteps => exact .of_refIn .runId hr (by rw [htable]; rfl) (howned rfl) hgoes
  case auditArtifacts =>
      have href := (mem_ownedArtifactIds hkeys hr htable).mp hgoes
      exact .of_refIn .runId hr (by rw [htable]; rfl) (howned rfl) href
  case pluginDispatchRecords =>
      exact .of_refIn .wakeupTaskId hr (by rw [htable]; rfl) (howned rfl) hgoes
  case failedRounds =>
      rcases hgoes with hgoes | hgoes
      · exact .of_refIn .cocoonId hr (by rw [htable]; rfl) hcocoons hgoes
      · exact .of_refIn .actionId hr (by rw [htable]; rfl) (howned rfl) hgoes
  case cocoonPullJobs | cocoonMergeJobs =>
      rcases hgoes with hgoes | hgoes
      · exact .of_refIn .sourceCocoonId hr (by rw [htable]; rfl) hcocoons hgoes
      · exact .of_refIn .targetCocoonId hr (by rw [htable]; rfl) hcocoons hgoes
  case pluginImDeliveryOutbox =>
      rcases hgoes with hgoes | hgoes
      · exact .of_refIn .messageId hr (by rw [htable]; rfl) (howned rfl) hgoes
      · exact .of_refIn .actionId hr (by rw [htable]; rfl) (howned rfl) hgoes
  case auditLinks =>
      rcases hgoes with (hgoes | hgoes) | hgoes | hgoes
      · exact .of_refIn .sourceStepId hr (by rw [htable]; rfl) hsteps hgoes
      · exact .of_refIn .targetStepId hr (by rw [htable]; rfl) hsteps hgoes
      · exact .of_refIn .sourceArtifactId hr (by rw [htable]; rfl) hartifacts hgoes
      · exact .of_refIn .targetArtifactId hr (by rw [htable]; rfl) hartifacts hgoes

end Subtree

/-! ## What a caller reaches -/

section Reach

variable {settings : Settings} {accounts : Accounts} {user : User} {cocoonId : RowId}

lemma toCocoon?_eq_some {r : DbRow} {cocoon : Cocoon} (h : toCocoon? r = some cocoon) :
    r.table = .cocoons ∧ r.id = cocoon.id := by
  unfold toCocoon? at h
  split_ifs at h with htable
  obtain ⟨ownerUserId, -, h⟩ := Option.bind_eq_some_iff.mp h
  obtain ⟨characterId, -, h⟩ := Option.bind_eq_some_iff.mp h
  rw [← Option.some.inj h]
  exact ⟨htable, rfl⟩

lemma updateCocoon_touches {allowedModelIds : List RowId} {s s' : IndexedDb}
    {payload : CocoonUpdate} (hcocoons : (s.cocoons.map key).Nodup)
    (h : updateCocoon settings accounts allowedModelIds s user cocoonId payload = .ok s') :
    ∃ cocoon, get s.cocoons cocoonId = some cocoon ∧
      canAccessCocoon settings accounts user cocoon true true = true ∧
        (∀ c ∈ s.cocoons, c ∉ s'.cocoons → c = cocoon) ∧
          s' = { s with cocoons := s'.cocoons } := by
  obtain ⟨cocoon, haccess, h⟩ := except_bind_eq_ok.mp h
  obtain ⟨hget, haccess⟩ := requireCocoonAccess_eq_ok.mp haccess
  obtain ⟨-, -, h⟩ := except_bind_eq_ok.mp h
  refine ⟨cocoon, hget, haccess, fun c hc hnot => ?_, ?_⟩
  · rw [← Except.ok.inj h] at hnot
    by_contra hne
    refine hnot (mem_update.mpr (.inr ⟨hc, fun hkey => hne ?_⟩))
    exact List.inj_on_of_nodup_map hcocoons hc (mem_of_get hget) (hkey.trans (key_of_get hget).symm)
  · rw [← Except.ok.inj h]

lemma deleteCocoon_touches {fuel : ℕ} {rows rows' : Rows} (hkeys : UniqueKeys rows)
    (h : deleteCocoon settings accounts fuel rows user cocoonId = .ok (some rows')) :
    ∃ cocoon ∈ cocoonsOf rows, cocoon.id = cocoonId ∧
      canAccessCocoon settings accounts user cocoon true true = true ∧
        (∀ r ∈ rows', r ∈ rows) ∧ ∀ r ∈ rows, r ∉ rows' → InSubtree rows cocoonId r := by
  obtain ⟨cocoon, haccess, h⟩ := except_bind_eq_ok.mp h
  obtain ⟨hget, haccess⟩ := requireCocoonAccess_eq_ok.mp haccess
  have hid : cocoon.id = cocoonId := key_of_get hget
  obtain ⟨ids, hids, rfl⟩ := Option.map_eq_some_iff.mp (Except.ok.inj h)
  rw [hid] at hids
  have hmem := mem_collectCocoonSubtreeIds hids
  -- the keys of the subtree are cocoons of it
  obtain ⟨root, hroot, hrootRow⟩ := List.mem_filterMap.mp (mem_of_get hget)
  obtain ⟨hrootTable, hrootId⟩ := toCocoon?_eq_some hrootRow
  obtain ⟨hnamed, -⟩ := subtree_spec ⟨root, hroot, hrootTable, hrootId.trans hid⟩ hids
  have hcocoons : ∀ id ∈ ids, ∃ r', InSubtree rows cocoonId r' ∧ r'.table = .cocoons ∧
      r'.id = id := by
    intro id hmemId
    obtain ⟨r, hr, htable, rfl⟩ := hnamed id hmemId
    exact ⟨r, .cocoon hr htable ((hmem r.id).mp hmemId), htable, rfl⟩
  rw [afterDeletes_eq_filter]
  refine ⟨cocoon, mem_of_get hget, hid, haccess, fun r hr => (List.mem_filter.mp hr).1,
    fun r hr hnot => ?_⟩
  have hgoes : goes (deleteCocoonSubtree rows ids) r = true := by
    by_contra hstays
    refine hnot (List.mem_filter.mpr ⟨hr, ?_⟩)
    rw [Bool.not_eq_true] at hstays
    rw [List.any_map, Bool.not_eq_true']
    exact hstays
  rw [goes_deleteCocoonSubtree] at hgoes
  exact inSubtree_of_cocoonGoes hcocoons hkeys (fun id => (hmem id).mp) hr hgoes

end Reach

/-- What the four routes change or delete: memories in reach of a cocoon the caller may write, the
cocoon itself that the caller may write or manage, and rows of the subtree of such a cocoon. -/
theorem workspaceWrites_inReach (settings : Settings) (accounts : Accounts) (user : User)
    (cocoonId : RowId) :
    (∀ (s s' : IndexedDb) memoryId payload draws, (s.memories.map key).Nodup →
      (s.tags.map key).Nodup → FreshTagIds s.toDb draws.tagIds →
      updateMemory settings accounts s user cocoonId memoryId payload draws = .ok s' →
        ∃ cocoon, get s.cocoons cocoonId = some cocoon ∧
          canAccessCocoon settings accounts user cocoon true false = true ∧
            TouchesInReach s s' cocoon) ∧
    (∀ (s s' : IndexedDb) memoryId, (s.memories.map key).Nodup →
      deleteMemory settings accounts s user cocoonId memoryId = .ok s' →
        ∃ cocoon, get s.cocoons cocoonId = some cocoon ∧
          canAccessCocoon settings accounts user cocoon true false = true ∧
            TouchesInReach s s' cocoon) ∧
    (∀ (s s' : IndexedDb) allowedModelIds payload, (s.cocoons.map key).Nodup →
      updateCocoon settings accounts allowedModelIds s user cocoonId payload = .ok s' →
        ∃ cocoon, get s.cocoons cocoonId = some cocoon ∧
          canAccessCocoon settings accounts user cocoon true true = true ∧
            (∀ c ∈ s.cocoons, c ∉ s'.cocoons → c = cocoon) ∧
              s' = { s with cocoons := s'.cocoons }) ∧
    ∀ fuel (rows rows' : Rows), UniqueKeys rows →
      deleteCocoon settings accounts fuel rows user cocoonId = .ok (some rows') →
        ∃ cocoon ∈ cocoonsOf rows, cocoon.id = cocoonId ∧
          canAccessCocoon settings accounts user cocoon true true = true ∧
            (∀ r ∈ rows', r ∈ rows) ∧ ∀ r ∈ rows, r ∉ rows' → InSubtree rows cocoonId r :=
  ⟨fun _ _ _ _ _ hmemories htags hfresh h => updateMemory_touches hmemories htags hfresh h,
    fun _ _ _ hmemories h => deleteMemory_touches hmemories h,
    fun _ _ _ _ hcocoons h => updateCocoon_touches hcocoons h,
    fun _ _ _ hkeys h => deleteCocoon_touches hkeys h⟩

def bob : User := { id := "bob", username := "bob", passwordHash := "h" }

def ann : User := { id := "ann", username := "ann", passwordHash := "h" }

/-- Everyone may read with Bob's character, and only Bob write. -/
def forkAccounts : Accounts where
  users := [bob, ann]
  characters := [{ id := "his", createdByUserId := some "bob" },
    { id := "hers", createdByUserId := some "ann" }]
  characterAcls := [{ characterId := "his", subjectType := "AUTHENTICATED_ALL", subjectId := "*"
                      canUse := false }]

def trunk : Cocoon := { id := "trunk", ownerUserId := "bob", characterId := "his" }

/-- Ann's fork of Bob's cocoon. -/
def fork : Cocoon :=
  { id := "fork", parentId := some "trunk", ownerUserId := "ann", characterId := "hers" }

def trunkMemory : MemoryChunk :=
  { id := "m", cocoonId := some "trunk", ownerUserId := some "bob", scope := "dialogue"
    content := "Bob likes tea" }

def forkDb : IndexedDb := { toDb := { cocoons := [trunk, fork], memories := [trunkMemory] } }

def forkRows : Rows :=
  [{ table := .cocoons, id := "trunk", data := {}
     refs := fun | .ownerUserId => some "bob" | .characterId => some "his" | _ => none },
    { table := .cocoons, id := "fork", data := {}
      refs := fun
        | .parentId => some "trunk" | .ownerUserId => some "ann" | .characterId => some "hers"
        | _ => none }]

def rewrite : MemoryUpdateRequest := { content := some (some "Bob likes gin") }

def noDraws : MemoryUpdateDraws := ⟨fun n => String.ofList (List.replicate n 't'), "e"⟩

lemma fresh_noDraws : FreshTagIds forkDb.toDb noDraws.tagIds := by
  refine ⟨fun _ => by simp [forkDb], fun a b h => ?_⟩
  have hlists := congrArg (fun text : String => text.toList.length) h
  simpa [noDraws] using hlists

/-- Ann's edit of Bob's memory, and Bob's deletion of his cocoon with Ann's fork. -/
theorem forks_inReach :
    (∃ s' cocoon, updateMemory {} forkAccounts forkDb ann "fork" "m" rewrite noDraws = .ok s' ∧
      get forkDb.cocoons "fork" = some cocoon ∧
        canAccessCocoon {} forkAccounts ann cocoon true false = true ∧
          TouchesInReach forkDb s' cocoon) ∧
    ∃ rows', deleteCocoon {} forkAccounts 2 forkRows bob "trunk" = .ok (some rows') ∧
      ∀ r ∈ forkRows, r ∉ rows' → InSubtree forkRows "trunk" r := by
  constructor
  · obtain ⟨cocoon, hget, haccess, htouches⟩ :=
      (workspaceWrites_inReach {} forkAccounts ann "fork").1 forkDb _ "m" rewrite
        noDraws (by decide) (by decide) fresh_noDraws rfl
    exact ⟨_, cocoon, rfl, hget, haccess, htouches⟩
  · obtain ⟨_, -, -, -, -, hsubtree⟩ :=
      (workspaceWrites_inReach {} forkAccounts bob "trunk").2.2.2 2 forkRows _
        (by decide +kernel) rfl
    exact ⟨_, rfl, hsubtree⟩

/-- Ann may not write Bob's cocoon and Bob not Ann's, neither as its owner nor as who manages it. -/
theorem forks_reach_beyond :
    (isAdmin {} forkAccounts ann = false ∧
      canAccessCocoon {} forkAccounts ann trunk true true = false ∧
        ∃ s', updateMemory {} forkAccounts forkDb ann "fork" "m" rewrite noDraws = .ok s' ∧
          trunkMemory ∈ forkDb.memories ∧ trunkMemory ∉ s'.memories ∧
            trunkMemory.cocoonId = some trunk.id ∧ trunkMemory.memoryPool ≠ "user_global") ∧
    isAdmin {} forkAccounts bob = false ∧
      canAccessCocoon {} forkAccounts bob fork true true = false ∧
        ∃ rows', deleteCocoon {} forkAccounts 2 forkRows bob "trunk" = .ok (some rows') ∧
          "fork" ∈ forkRows.map Row.id ∧ "fork" ∉ rows'.map Row.id := by
  refine ⟨⟨by decide +kernel, by decide +kernel, _, rfl, by simp [forkDb], fun hmem => ?_, rfl,
    by decide⟩, by decide +kernel, by decide +kernel, _, rfl, by decide +kernel, by decide +kernel⟩
  -- the memory's text is another one
  have hcontents := List.mem_map_of_mem (f := MemoryChunk.content) hmem
  revert hcontents
  decide +kernel

end CocoonSit
