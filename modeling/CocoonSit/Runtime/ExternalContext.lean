import CocoonSit.Memory.Ranking
import CocoonSit.Messages.Window
import CocoonSit.Tags.ActiveTagsRuns
import CocoonSit.Workspace.Memory

/-!
# What pulls and merges see of another cocoon

`ExternalContextService.build` gathers the messages and memories of the source cocoon the way a
round of that cocoon would, with its window, its lineage and its active tags, and then leaves out
whatever carries a tag that is not bound to the target.  The bindings are read without their owners:
that a target's bindings name tags of its owner is what the writers of the registry and of the
bindings see to.
-/

namespace CocoonSit

open Ranking Table TransitionSystem

namespace ExternalContextService

/-! ## The service -/

structure MergeContext where
  sourceCocoonId : RowId
  sourceCocoonName : String
  relationScore : ℤ
  personaJson : JsonDict
  activeTagsJson : List RowId
  sourceMessages : List (MessageRole × String)
  sourceMemories : List (String × Option String × String)

/-- What a pull or merge takes from its source: a round's messages, the memories of a pull's prompt
and the context of a merge's are taken from here. -/
structure SourceContext where
  sourceCocoon : Cocoon
  sourceState : Option SessionState
  sourceMessages : List Message
  sourceMemories : List MemoryChunk
  mergeContext : Option MergeContext

structure ExternalContext where
  wakeupContext : Option JsonDict := none
  source : Option SourceContext := none

/-- `tag.id if tag else tag_ref`. -/
def canonicalRef (db : Db) (tagRef : String) : String :=
  (getTagByAnyRef db tagRef none).elim tagRef TagRegistry.id

/-- `visible_target_tags`: the bindings of `event.cocoon_id`, which a room's event has not. -/
def visibleTargetTags (db : Db) : Target → List String
  | .cocoon cocoonId => (boundTagIds db (.cocoon cocoonId)).map (canonicalRef db)
  | .chatGroup _ => []

def isVisible (db : Db) (target : Target) (itemsTags : List String) : Bool :=
  let normalized := itemsTags.map (canonicalRef db)
  normalized.isEmpty || normalized.all fun tag => tag ∈ visibleTargetTags db target

def mergeContextOf (sourceCocoon : Cocoon) (sourceState : Option SessionState)
    (sourceMessages : List Message) (sourceMemories : List MemoryChunk) : MergeContext :=
  { sourceCocoonId := sourceCocoon.id
    sourceCocoonName := sourceCocoon.name
    relationScore := sourceState.elim 0 SessionState.relationScore
    personaJson := sourceState.elim .empty SessionState.personaJson
    activeTagsJson := sourceState.elim [] SessionState.activeTagsJson
    sourceMessages := sourceMessages.map fun message => (message.role, message.content)
    sourceMemories := sourceMemories.map fun memory =>
      (memory.scope, memory.summary, memory.content) }

variable {φ : Type} [LinearOrder φ] [Zero φ] [One φ] [Add φ] [Sub φ] [Mul φ] [Div φ] [IntCast φ]

/-- The part of `build` for a source that is there. -/
def sourceContext (env : Environment φ) (db : Db) (event : RuntimeEvent) (sourceCocoon : Cocoon)
    (sourceCocoonId : RowId) (newTagId : RowId) (now : Timestamp) :
    Except String (Db × SourceContext) := do
  let (db, sourceState) := getSessionState db (.cocoon sourceCocoonId) newTagId now
  let sourceActiveTags := sourceState.elim [] SessionState.activeTagsJson
  let sourceMessages := listVisibleMessages db sourceCocoon.maxContextMessages sourceActiveTags
    (.cocoon sourceCocoonId) sourceCocoon.contextStartMessageId
  let hits ← retrieveVisibleMemories env
    { activeTags := sourceActiveTags
      target := .cocoon sourceCocoonId
      queryText := some sourceCocoonId
      limit := 5 } db
  let sourceMemories := hits.map MemoryRetrievalHit.memory
  let sourceMessages := sourceMessages.filter fun m => isVisible db event.target m.tagsJson
  let sourceMemories := sourceMemories.filter fun m => isVisible db event.target m.tagsJson
  return (db,
    { sourceCocoon := sourceCocoon
      sourceState := sourceState
      sourceMessages := sourceMessages
      sourceMemories := sourceMemories
      mergeContext :=
        if event.eventType = .merge then
          some (mergeContextOf sourceCocoon sourceState sourceMessages sourceMemories)
        else none })

def build (env : Environment φ) (db : Db) (event : RuntimeEvent) (newTagId : RowId)
    (now : Timestamp) : Except String (Db × ExternalContext) :=
  if event.eventType = .wakeup then .ok (db, { wakeupContext := some event.payload })
  else if event.eventType ≠ .pull ∧ event.eventType ≠ .merge then .ok (db, {})
  else
    match event.payload.text? "source_cocoon_id" with
    | none => .ok (db, {})
    | some sourceCocoonId =>
      match get db.cocoons sourceCocoonId with
      | none => .ok (db, {})
      | some sourceCocoon =>
        (sourceContext env db event sourceCocoon sourceCocoonId newTagId now).map fun r =>
          (r.1, { source := some r.2 })

/-! ## What may cross -/

/-- The reference is to a tag of the target's owner that is bound to the target. -/
def Crosses (db : Db) (target : Target) (tagRef : String) : Prop :=
  ∃ owner, Owns db owner target ∧ HasTag db (canonicalRef db tagRef) owner ∧
    Bound db target (canonicalRef db tagRef)

/-- All of an item's tags may cross. -/
def MayCross (db : Db) (target : Target) (tags : List String) : Prop :=
  ∀ tagRef ∈ tags, Crosses db target tagRef

/-- What is taken from a source may cross, and what is told of it in a merge is told of that. -/
structure Confined (db : Db) (target : Target) (ctx : SourceContext) : Prop where
  messages : ∀ m ∈ ctx.sourceMessages, MayCross db target m.tagsJson
  memories : ∀ m ∈ ctx.sourceMemories, MayCross db target m.tagsJson
  merge : ∀ merge ∈ ctx.mergeContext,
    merge.sourceMessages = ctx.sourceMessages.map (fun m => (m.role, m.content)) ∧
      merge.sourceMemories = ctx.sourceMemories.map fun m => (m.scope, m.summary, m.content)

/-! ## The writers of the registry -/

inductive Event where
  /-- A lookup of a session state, a tag request or a state patch. -/
  | tags (event : ActiveTags.Event)
  /-- A memory names tags, which are made where there are none. -/
  | memoryTags (ownerUserId : Option RowId) (tagRefs : List String) (draws : ℕ → RowId)
  /-- A user's default tag is made sure of. -/
  | systemTag (userId newTagId : RowId)

/-- Drawn keys are new. -/
def step (db : Db) : Event → Option Db
  | .tags event => ActiveTags.step db event
  | .memoryTags ownerUserId tagRefs draws =>
    if ((List.range tagRefs.length).map draws).Nodup ∧
        ∀ i < tagRefs.length, FreshTag db (draws i) then
      some (resolveOrCreateMemoryTags db ownerUserId tagRefs draws).1
    else none
  | .systemTag userId newTagId =>
    if FreshTag db newTagId then some (ensureUserSystemTag db userId newTagId).1 else none

/-- The registry, the bindings and the owners of targets are the same; the messages, the memories
and everything else may be any. -/
structure SameRegistry (db db' : Db) : Prop where
  tags : db'.tags = db.tags
  bindings : db'.tagBindings = db.tagBindings
  owners : ∀ target,
    resolveTagOwnerUserIdForTarget db' target = resolveTagOwnerUserIdForTarget db target

variable {db db' : Db} {target : Target} {owner newTagId : RowId}

/-! ## The registry stays in order -/

/-- New tags have been made, for one key at most. -/
structure Grown (db db' : Db) (newTagId : RowId) : Prop where
  rows : TagRows db'
  grow : TagsGrow db db'
  states : db'.sessionStates = db.sessionStates
  keys : ∀ id ∈ db'.tags.map key, id ∈ db.tags.map key ∨ id = newTagId

lemma Grown.refl (hrows : TagRows db) (newTagId : RowId) : Grown db db newTagId :=
  ⟨hrows, .refl db, rfl, fun _ hid => .inl hid⟩

lemma Grown.toRows (h : Grown db db' newTagId) (hstates : StateRows db) : ActiveTags.Rows db' := by
  refine ⟨h.rows, fun s hs => ?_⟩
  rw [h.states] at hs
  exact (hstates s hs).mono h.grow

lemma grown_systemTag (hrows : TagRows db) (hfresh : FreshTag db newTagId) (userId : RowId) :
    Grown db (ensureUserSystemTag db userId newTagId).1 newTagId := by
  have hspec : WithDefault db (ensureUserSystemTag db userId newTagId).1 userId
      (ensureUserSystemTag db userId newTagId).2 := ensureUserSystemTag_spec hrows (.inr hfresh)
  have hbindings : (ensureUserSystemTag db userId newTagId).1.tagBindings = db.tagBindings :=
    tagBindings_ensureUserSystemTag userId
  refine ⟨hspec.rows, ⟨hspec.owns, fun h => hspec.hasTag.mpr (.inl h),
    fun h => hspec.hasDefault.mpr (.inl h), fun ⟨b, hb, h⟩ => ⟨b, hbindings ▸ hb, h⟩⟩,
    sessionStates_ensureUserSystemTag .., fun id hid => ?_⟩
  unfold ensureUserSystemTag at hid
  split at hid
  · next tag _ =>
    have hkeys : (update db.tags tag.id refreshSystemTag).map key = db.tags.map key :=
      map_key_update fun _ => rfl
    exact .inl (hkeys ▸ hid)
  · rw [List.map_append] at hid
    exact (List.mem_append.mp hid).imp_right List.mem_singleton.mp

lemma grown_findOrCreate (hrows : TagRows db) (hfresh : FreshTag db newTagId) (owner : RowId)
    (tagRef : String) : Grown db (findOrCreateMemoryTag db owner tagRef newTagId).1 newTagId := by
  unfold findOrCreateMemoryTag
  cases getTagByAnyRef db tagRef (some owner) with
  | some tag => exact .refl hrows newTagId
  | none =>
    dsimp only
    split_ifs
    · exact grown_systemTag hrows hfresh owner
    · exact .refl hrows newTagId
    · refine ⟨hrows.append hfresh (fun h => absurd h Bool.false_ne_true) rfl rfl Iff.rfl,
        ⟨Iff.rfl, fun h => (hasTag_append rfl).mpr (.inl h),
          fun h => (hasDefault_append rfl).mpr (.inl h), id⟩, rfl, fun id hid => ?_⟩
      rw [List.map_append] at hid
      exact (List.mem_append.mp hid).imp_right List.mem_singleton.mp

lemma rows_resolveTagLoop {draws : ℕ → RowId} {refs : List String} {turn : ℕ}
    {resolved : List RowId} (h : ActiveTags.Rows db)
    (hnodup : ((List.range' turn refs.length).map draws).Nodup)
    (hfresh : ∀ i ∈ List.range' turn refs.length, FreshTag db (draws i)) :
    ActiveTags.Rows (resolveTagLoop owner draws turn db resolved refs).1 := by
  induction refs generalizing turn db resolved with
  | nil => exact h
  | cons rawTag refs ih =>
    rw [List.length_cons, List.range'_succ] at hnodup hfresh
    obtain ⟨hfirst, hrest⟩ := List.forall_mem_cons.mp hfresh
    obtain ⟨hother, hnodup⟩ := List.nodup_cons.mp hnodup
    unfold resolveTagLoop
    dsimp only
    split_ifs
    · exact ih h hnodup hrest
    · have hgrown := grown_findOrCreate h.tags hfirst owner (strip rawTag)
      generalize findOrCreateMemoryTag db owner (strip rawTag) (draws turn) = found at hgrown ⊢
      have hrest' : ∀ i ∈ List.range' (turn + 1) refs.length, FreshTag found.1 (draws i) := by
        intro i hi
        refine ⟨fun hmem => ?_, (hrest i hi).2⟩
        rcases hgrown.keys _ hmem with hold | heq
        · exact (hrest i hi).1 hold
        · exact hother (List.mem_map.mpr ⟨i, hi, heq⟩)
      have hrows := hgrown.toRows h.states
      cases found.2 with
      | none => exact ih hrows hnodup hrest'
      | some tag =>
        dsimp only
        split
        · exact ih hrows hnodup hrest'
        · exact ih hrows hnodup hrest'

lemma step_rows (h : ActiveTags.Rows db) {e : Event} (hstep : step db e = some db') :
    ActiveTags.Rows db' := by
  cases e with
  | tags event => exact (ActiveTags.step_kept h hstep).1
  | memoryTags ownerUserId tagRefs draws =>
    obtain ⟨⟨hnodup, hfresh⟩, heq⟩ := Option.ite_none_right_eq_some.mp hstep
    cases heq
    unfold resolveOrCreateMemoryTags
    cases ownerUserId.filter (· ≠ "") with
    | none => exact h
    | some owner =>
      rw [List.range_eq_range'] at hnodup
      refine rows_resolveTagLoop h hnodup fun i hi => hfresh i ?_
      simpa using (List.mem_range'_1.mp hi).2
  | systemTag userId newTagId =>
    obtain ⟨hfresh, heq⟩ := Option.ite_none_right_eq_some.mp hstep
    cases heq
    exact (grown_systemTag h.tags hfresh userId).toRows h.states

lemma SameRegistry.tagRows (h : SameRegistry db db') (hrows : TagRows db) : TagRows db' :=
  hrows.congr h.tags h.bindings fun {o t} => by rw [Owns, h.owners t, Owns]

/-! ## What is left of the source -/

lemma canonicalRef_of_hasTag (hrows : TagRows db) {id : RowId} (h : HasTag db id owner) :
    canonicalRef db id = id := by
  obtain ⟨hstrip, hne⟩ := h.clean hrows
  obtain ⟨t, ht, hid, -⟩ := h
  have hmem : id ∈ db.tags.map key := hid ▸ List.mem_map_of_mem ht
  obtain ⟨tag, htag⟩ := Option.isSome_iff_exists.mp (get_isSome_iff.mpr hmem)
  have hcanonical : getTagByCanonicalId db id none = some tag := by
    unfold getTagByCanonicalId
    rw [hstrip]
    dsimp only
    rw [if_neg hne, htag]
    rfl
  have hany : getTagByAnyRef db id none = some tag := by
    unfold getTagByAnyRef
    rw [hstrip]
    dsimp only
    rw [if_neg hne, hcanonical]
  rw [canonicalRef, hany]
  exact key_of_get htag

lemma of_mem_visibleTargetTags (hrows : TagRows db) {tag : String}
    (h : tag ∈ visibleTargetTags db target) :
    ∃ owner, Owns db owner target ∧ HasTag db tag owner ∧ Bound db target tag := by
  cases target with
  | chatGroup roomId => exact absurd h List.not_mem_nil
  | cocoon cocoonId =>
    obtain ⟨id, hid, rfl⟩ := List.mem_map.mp h
    have hbound := mem_boundTagIds.mp hid
    obtain ⟨owner, howner, htag⟩ := hrows.bindings hbound
    rw [canonicalRef_of_hasTag hrows htag]
    exact ⟨owner, howner, htag, hbound⟩

lemma mayCross_of_isVisible (hrows : TagRows db) {tags : List String}
    (h : isVisible db target tags = true) : MayCross db target tags := by
  intro tagRef htag
  have hmem : canonicalRef db tagRef ∈ tags.map (canonicalRef db) := List.mem_map_of_mem htag
  rcases Bool.or_eq_true_iff.mp h with hempty | hall
  · rw [List.isEmpty_iff.mp hempty] at hmem
    exact absurd hmem List.not_mem_nil
  · exact of_mem_visibleTargetTags hrows (of_decide_eq_true (List.all_eq_true.mp hall _ hmem))

lemma tagRows_getSessionState (hrows : TagRows db) (hfresh : FreshTag db newTagId) {id : RowId}
    {cocoon : Cocoon} (hcocoon : get db.cocoons id = some cocoon) (now : Timestamp) :
    TagRows (getSessionState db (.cocoon id) newTagId now).1 := by
  have howner : Owns db cocoon.ownerUserId (.cocoon id) := by
    rw [Owns, resolveTagOwnerUserIdForTarget, hcocoon]
    rfl
  cases hstate : get db.sessionStates (.cocoon id) with
  | none =>
    rw [getSessionState_none hstate]
    exact hrows
  | some state =>
    obtain ⟨d, active, hreal, -, -⟩ :=
      getSessionState_spec newTagId now hrows howner (.inr hfresh) hstate
    exact hreal.rows

lemma confined_sourceContext {env : Environment φ} {event : RuntimeEvent} {sourceCocoon : Cocoon}
    {sourceCocoonId : RowId} {now : Timestamp} {r : Db × SourceContext}
    (hrows : TagRows (getSessionState db (.cocoon sourceCocoonId) newTagId now).1)
    (h : sourceContext env db event sourceCocoon sourceCocoonId newTagId now = .ok r) :
    Confined r.1 event.target r.2 := by
  unfold sourceContext at h
  obtain ⟨hits, -, heq⟩ := except_bind_eq_ok.mp h
  cases heq
  refine ⟨fun m hm => ?_, fun m hm => ?_, fun merge hmerge => ?_⟩
  · exact mayCross_of_isVisible hrows (List.mem_filter.mp hm).2
  · exact mayCross_of_isVisible hrows (List.mem_filter.mp hm).2
  · obtain ⟨-, hmerge⟩ := Option.ite_none_right_eq_some.mp (Option.mem_def.mp hmerge)
    rw [← Option.some.inj hmerge]
    exact ⟨rfl, rfl⟩

/-- What a round takes from a source carries tags of the target's owner that are bound to the
target, and no others. -/
theorem source_confined (env : Environment φ) {db₀ db db' after : Db} (h₀ : ActiveTags.Initial db₀)
    {es : List Event} (hrun : run step db₀ es = some db) (hsame : SameRegistry db db')
    (event : RuntimeEvent) (hfresh : FreshTag db' newTagId) {now : Timestamp}
    {ctx : ExternalContext} (hbuild : build env db' event newTagId now = .ok (after, ctx)) :
    ∀ source ∈ ctx.source, Confined after event.target source := by
  have hrows : TagRows db' := hsame.tagRows
    (invariant_run ActiveTags.Rows (fun _ _ _ h hs => step_rows h hs) h₀.inv.1 hrun).tags
  intro source hsource
  unfold build at hbuild
  split at hbuild
  · cases hbuild
    cases hsource
  · split at hbuild
    · cases hbuild
      cases hsource
    · split at hbuild
      · cases hbuild
        cases hsource
      · split at hbuild
        · cases hbuild
          cases hsource
        · next hcocoon =>
          cases hctx : sourceContext env db' event _ _ newTagId now with
          | error e =>
            rw [hctx] at hbuild
            cases hbuild
          | ok r =>
            rw [hctx] at hbuild
            cases hbuild
            cases hsource
            exact confined_sourceContext (tagRows_getSessionState hrows hfresh hcocoon now) hctx

/-! ## A private tag -/

/-- Both cocoons have the tag of their work, the second has one of its own, too. -/
def privateTag : List Event :=
  [.tags (.lookup (.cocoon "c1") "d1" 0),
    .tags (.createTag "u1" { tagId := "work", brief := "work" } "t1"),
    .tags (.createTag "u1" { tagId := "diary", brief := "diary" } "t2"),
    .tags (.bindTag (.cocoon "c1") "t1" "d2" 1), .tags (.lookup (.cocoon "c2") "d3" 2),
    .tags (.bindTag (.cocoon "c2") "work" "d4" 3), .tags (.bindTag (.cocoon "c2") "diary" "d5" 4)]

def withPrivateTag : Db := (run step ActiveTags.twoCocoons privateTag).getD {}

/-- What has been said in the second cocoon. -/
def workAndDiary : Db :=
  { withPrivateTag with
    messages :=
      [{ id := "m1", target := .cocoon "c2", role := .user, content := "The draft is done"
         tagsJson := ["d1", "t1"], createdAt := 5 },
       { id := "m2", target := .cocoon "c2", role := .user, content := "I cannot sleep"
         tagsJson := ["d1", "t2"], createdAt := 6 }]
    memories :=
      [{ id := "k1", cocoonId := some "c2", scope := "dialogue", content := "writes a draft"
         tagsJson := ["t1"] },
       { id := "k2", cocoonId := some "c2", scope := "dialogue", content := "sleeps badly"
         tagsJson := ["t2"] }] }

/-- The first cocoon pulls from the second. -/
def pullEvent : RuntimeEvent :=
  { eventType := .pull, target := .cocoon "c1", actionId := "a"
    payload := .ofList [("source_cocoon_id", .str "c2")] }

def withoutVectors : Environment ℚ := { exampleEnvironment [] with dialect := .sqlite }

def pulled : Except String (Db × ExternalContext) :=
  build withoutVectors workAndDiary pullEvent "d6" 7

lemma run_privateTag : run step ActiveTags.twoCocoons privateTag = some withPrivateTag := by
  have hsome : (run step ActiveTags.twoCocoons privateTag).isSome = true := by decide +kernel
  obtain ⟨db, hdb⟩ := Option.isSome_iff_exists.mp hsome
  rw [withPrivateTag, hdb]
  rfl

lemma sameRegistry_workAndDiary : SameRegistry withPrivateTag workAndDiary :=
  ⟨rfl, rfl, fun target => by cases target <;> rfl⟩

lemma freshTag_workAndDiary : FreshTag workAndDiary "d6" := by decide +kernel

/-- The work crosses, the diary stays. -/
theorem diary_stays : ∃ after ctx, pulled = .ok (after, ctx) ∧
    (ctx.source.map fun source =>
      (source.sourceMessages.map Message.id, source.sourceMemories.map MemoryChunk.id)) =
        some (["m1"], ["k1"]) ∧
    ∀ source ∈ ctx.source, Confined after (.cocoon "c1") source := by
  have hids : ((pulled.toOption.bind fun r => r.2.source).map fun source =>
      (source.sourceMessages.map Message.id, source.sourceMemories.map MemoryChunk.id)) =
        some (["m1"], ["k1"]) := by decide +kernel
  cases hpulled : pulled with
  | error e =>
    rw [hpulled] at hids
    cases hids
  | ok r =>
    rw [hpulled] at hids
    exact ⟨r.1, r.2, rfl, hids, source_confined withoutVectors ActiveTags.initial_twoCocoons
      run_privateTag sameRegistry_workAndDiary pullEvent freshTag_workAndDiary hpulled⟩

end ExternalContextService

end CocoonSit
