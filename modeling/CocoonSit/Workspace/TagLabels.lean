import CocoonSit.Lib.Collect
import CocoonSit.Tags.Registry

/-!
# Labels of a memory's tags

The labels that are shown for a memory's tags, and what an edit of the memory makes of them again:
a label comes of the names in `meta_json`, and a tag is looked up by its key or its `tag_id`.
-/

namespace CocoonSit.TagLabels

open Table TransitionSystem TagNames

/-! ## Labels -/

/-- The fields of `meta_json` that a label is taken from, the first one first. -/
def LABEL_KEYS : List String := ["name", "title", "display_name", "label"]

/-- A field of `meta_json` that is a text and not blank. -/
def metaText (metaJson : JsonDict) (k : String) : Option String :=
  match metaJson k with
  | some (.str value) => stripOrNone value
  | _ => none

def tagDisplayName (tag : Option TagRegistry) (fallback : String) : String :=
  match tag with
  | none => strip fallback
  | some tag =>
    ((LABEL_KEYS.findSome? (metaText tag.metaJson)).or (stripOrNone tag.tagId)).getD
      (strip fallback)

/-- The label of one entry of `tags_json`, if one is shown. -/
def shownLabel (db : Db) (ownerUserId : Option RowId) (rawTag : String) : Option String :=
  let tagRef := strip rawTag
  let tag := getTagByAnyRef db tagRef ownerUserId
  let label := tagDisplayName tag tagRef
  if tagRef = "" || tag.any (fun tag => !shouldExposeTagLabel tag) || label = "" ||
      looksLikeInternalTagRef label then none
  else some label

/-- The owner under whom the labels are looked up. -/
def labelOwner (db : Db) (memory : MemoryChunk) : Option RowId :=
  (memory.ownerUserId.filter (· ≠ "")).or
    (match memory.cocoonId.filter (· ≠ ""), memory.chatGroupId.filter (· ≠ "") with
    | some id, _ => resolveTagOwnerUserIdForTarget db (.cocoon id)
    | none, some id => resolveTagOwnerUserIdForTarget db (.chatGroup id)
    | none, none => none)

def resolveMemoryTagLabels (db : Db) (memory : MemoryChunk) : List String :=
  Collect.collect (shownLabel db (labelOwner db memory)) memory.tagsJson

/-- The owner under whom an edit looks tags up. -/
def saveOwner (cocoon : Cocoon) (memory : MemoryChunk) : RowId :=
  (memory.ownerUserId.filter (· ≠ "")).getD cocoon.ownerUserId

/-- `tags_json` of the memory. -/
def savedTags (db : Db) (memoryId : RowId) : List RowId :=
  ((get db.memories memoryId).map MemoryChunk.tagsJson).getD []

section

variable {db : Db} {owner : RowId}

lemma strip_tagDisplayName (tag : Option TagRegistry) (fallback : String) :
    strip (tagDisplayName tag fallback) = tagDisplayName tag fallback := by
  unfold tagDisplayName
  split
  · exact strip_strip fallback
  · next tag =>
    cases hlabel : (LABEL_KEYS.findSome? (metaText tag.metaJson)).or (stripOrNone tag.tagId) with
    | none => exact strip_strip fallback
    | some label =>
      have hstripped : ∀ text, stripOrNone text = some label → strip label = label := by
        intro text htext
        rw [← (stripOrNone_eq_some_iff.mp htext).2, strip_strip]
      rw [Option.getD_some]
      rcases Option.or_eq_some_iff.mp hlabel with hmeta | ⟨-, hslug⟩
      · obtain ⟨k, -, hk⟩ := List.exists_of_findSome?_eq_some hmeta
        unfold metaText at hk
        split at hk
        · exact hstripped _ hk
        · cases hk
      · exact hstripped _ hslug

lemma tagDisplayName_of_named (h : Named db) {tag : TagRegistry} (htag : tag ∈ db.tags)
    (fallback fallback' : String) :
    tagDisplayName (some tag) fallback = tagDisplayName (some tag) fallback' := by
  have hslug : stripOrNone tag.tagId = some tag.tagId :=
    stripOrNone_eq_some_iff.mpr ⟨(h.slugs tag htag).1.symm ▸ (h.slugs tag htag).2,
      (h.slugs tag htag).1⟩
  simp only [tagDisplayName, hslug]
  cases LABEL_KEYS.findSome? (metaText tag.metaJson) with
  | none => rfl
  | some label => rfl

lemma labelText_of_shownLabel {ownerUserId : Option RowId} {rawTag label : String}
    (h : shownLabel db ownerUserId rawTag = some label) : LabelText label := by
  unfold shownLabel at h
  dsimp only at h
  split at h
  · cases h
  · next hshown =>
    obtain rfl := Option.some.inj h
    simp only [Bool.or_eq_true, decide_eq_true_eq, not_or, Bool.not_eq_true] at hshown
    exact ⟨strip_tagDisplayName _ _, hshown.1.2, hshown.2⟩

lemma mem_resolveMemoryTagLabels {memory : MemoryChunk} {label : String} :
    label ∈ resolveMemoryTagLabels db memory ↔
      ∃ ref ∈ memory.tagsJson, shownLabel db (labelOwner db memory) ref = some label :=
  Collect.mem_collect

/-! ## Whose label is a tag's name -/

/-- The tag whose label is shown for a tag: itself, if it is looked up under its owner or none, and
else the tag that has its key for a name. -/
def ShownFor (labelOwner : Option RowId) (tag shown : TagRegistry) : Prop :=
  (shown = tag ∧ ∀ user ∈ labelOwner, tag.ownerUserId = user) ∨
    (labelOwner = some shown.ownerUserId ∧ shown.ownerUserId ≠ tag.ownerUserId ∧
      shown.tagId = tag.id)

/-- The reference is the key of a tag of this owner, and what is shown for it is the tag's name. -/
def OwnLabel (db : Db) (labelOwner : Option RowId) (owner : RowId) (ref : RowId) : Prop :=
  ∃ tag ∈ db.tags, tag.id = ref ∧ tag.ownerUserId = owner ∧
    looksLikeInternalTagRef tag.tagId = false ∧
    ∃ shown ∈ db.tags, ShownFor labelOwner tag shown ∧ tagDisplayName (some shown) "" = tag.tagId

lemma getTagByAnyRef_other (h : Named db) {tag shown : TagRegistry} (htag : tag ∈ db.tags)
    {user : RowId} (hne : tag.ownerUserId ≠ user) :
    getTagByAnyRef db tag.id (some user) = some shown ↔
      shown ∈ db.tags ∧ shown.ownerUserId = user ∧ shown.tagId = tag.id := by
  have hblank := ne_empty_of_idText (h.ids tag htag)
  have hget : get db.tags tag.id = some tag := get_of_mem h.keys htag
  have hcanonical : getTagByCanonicalId db tag.id (some user) = none := by
    rw [getTagByCanonicalId, (h.ids tag htag).1, if_neg hblank, hget]
    simp [Option.filter, hne]
  have hfind : getTagByAnyRef db tag.id (some user) =
      db.tags.find? fun t => t.ownerUserId = user ∧ t.tagId = tag.id := by
    unfold getTagByAnyRef
    rw [(h.ids tag htag).1, if_neg hblank, hcanonical]
  rw [hfind]
  exact find?_name_eq_some_iff h

lemma getTagByAnyRef_id_iff (h : Named db) {tag shown : TagRegistry} (htag : tag ∈ db.tags)
    {labelOwner : Option RowId} :
    getTagByAnyRef db tag.id labelOwner = some shown ↔
      shown ∈ db.tags ∧ ShownFor labelOwner tag shown := by
  by_cases hown : ∀ user ∈ labelOwner, tag.ownerUserId = user
  · rw [getTagByAnyRef_id h htag hown]
    constructor
    · intro hsome
      obtain rfl := Option.some.inj hsome
      exact ⟨htag, .inl ⟨rfl, hown⟩⟩
    · rintro ⟨-, ⟨rfl, -⟩ | ⟨hlabel, hne, -⟩⟩
      · rfl
      · exact absurd (hown _ hlabel).symm hne
  · obtain ⟨user, huser, hne⟩ : ∃ user ∈ labelOwner, tag.ownerUserId ≠ user := by
      simpa using hown
    obtain rfl : labelOwner = some user := huser
    rw [getTagByAnyRef_other h htag hne]
    constructor
    · rintro ⟨hshown, rfl, hslug⟩
      exact ⟨hshown, .inr ⟨rfl, Ne.symm hne, hslug⟩⟩
    · rintro ⟨hshown, ⟨-, hall⟩ | ⟨huser, -, hslug⟩⟩
      · exact absurd hall hown
      · exact ⟨hshown, (Option.some.inj huser).symm, hslug⟩

lemma shownLabel_id (h : Named db) {tag : TagRegistry} (htag : tag ∈ db.tags)
    {labelOwner : Option RowId} {label : String} :
    shownLabel db labelOwner tag.id = some label ↔ label ≠ "" ∧
      looksLikeInternalTagRef label = false ∧ ∃ shown ∈ db.tags, ShownFor labelOwner tag shown ∧
        tagDisplayName (some shown) "" = label := by
  have hblank := ne_empty_of_idText (h.ids tag htag)
  obtain ⟨hstrip, hinternal⟩ := h.ids tag htag
  unfold shownLabel
  dsimp only
  rw [hstrip]
  cases hfound : getTagByAnyRef db tag.id labelOwner with
  | none =>
    have hnone : ¬ ∃ shown ∈ db.tags, ShownFor labelOwner tag shown ∧
        tagDisplayName (some shown) "" = label := by
      rintro ⟨shown, hshown, hfor, -⟩
      rw [(getTagByAnyRef_id_iff h htag).mpr ⟨hshown, hfor⟩] at hfound
      cases hfound
    have hlabel : tagDisplayName none tag.id = tag.id := hstrip
    rw [hlabel, hinternal, Bool.or_true, if_pos rfl]
    exact ⟨fun hsome => (Option.some_ne_none label hsome.symm).elim,
      fun hlabel => absurd hlabel.2.2 hnone⟩
  | some shown =>
    obtain ⟨hshown, hfor⟩ := (getTagByAnyRef_id_iff h htag).mp hfound
    have hunique : ∀ shown', shown' ∈ db.tags ∧ ShownFor labelOwner tag shown' →
        shown' = shown := by
      intro shown' hshown'
      rw [← getTagByAnyRef_id_iff h htag, hfound] at hshown'
      exact (Option.some.inj hshown').symm
    have hexists : (∃ shown ∈ db.tags, ShownFor labelOwner tag shown ∧
        tagDisplayName (some shown) "" = label) ↔ tagDisplayName (some shown) "" = label := by
      constructor
      · rintro ⟨shown', hmem, hfor', hlabel⟩
        rwa [hunique shown' ⟨hmem, hfor'⟩] at hlabel
      · exact fun hlabel => ⟨shown, hshown, hfor, hlabel⟩
    rw [hexists, tagDisplayName_of_named h hshown tag.id ""]
    simp only [hblank, Option.any_some, shouldExposeTagLabel_of_named h hshown]
    by_cases hlabel : tagDisplayName (some shown) "" = label
    · subst hlabel
      simp
    · simp [hlabel]

lemma ownLabel_iff (h : Named db) {labelOwner : Option RowId} {ref : RowId} :
    OwnLabel db labelOwner owner ref ↔ ∃ tag ∈ db.tags, tag.id = ref ∧ tag.ownerUserId = owner ∧
      shownLabel db labelOwner ref = some tag.tagId := by
  constructor
  · rintro ⟨tag, htag, rfl, howner, hinternal, hshown⟩
    exact ⟨tag, htag, rfl, howner,
      (shownLabel_id h htag).mpr ⟨(h.slugs tag htag).2, hinternal, hshown⟩⟩
  · rintro ⟨tag, htag, rfl, howner, hlabel⟩
    obtain ⟨-, hinternal, hshown⟩ := (shownLabel_id h htag).mp hlabel
    exact ⟨tag, htag, rfl, howner, hinternal, hshown⟩

/-! ## What labels are resolved to -/

/-- A registry and what it becomes when these labels are resolved: each has a tag of its name, and a
tag that was created has its name for a label. -/
structure Resolves (db db' : Db) (owner : RowId) (labels : List String) : Prop where
  named : Named db'
  kept : ∀ tag ∈ db.tags, tag ∈ db'.tags
  created : ∀ tag ∈ db'.tags, tag ∈ db.tags ∨
    tag.ownerUserId = owner ∧ tag.tagId ∈ labels ∧ tagDisplayName (some tag) "" = tag.tagId
  found : ∀ label ∈ labels, ∃ tag ∈ db'.tags, tag.ownerUserId = owner ∧ tag.tagId = label
  same : (∀ label ∈ labels, ∃ tag ∈ db.tags, tag.ownerUserId = owner ∧ tag.tagId = label) →
    db'.tags = db.tags

lemma Resolves.nil (h : Named db) : Resolves db db owner [] :=
  ⟨h, fun _ htag => htag, fun _ htag => .inl htag, fun _ hlabel => absurd hlabel List.not_mem_nil,
    fun _ => rfl⟩

lemma Resolves.of_tags {db' db'' : Db} {labels : List String} (h : Resolves db db' owner labels)
    (htags : db''.tags = db'.tags) : Resolves db db'' owner labels := by
  obtain ⟨⟨hkeys, hids, hslugs, hunique, hsystem, hhidden⟩, hkept, hcreated, hfound, hsame⟩ := h
  rw [← htags] at hkeys hids hslugs hunique hsystem hhidden hkept hcreated hfound hsame
  exact ⟨⟨hkeys, hids, hslugs, hunique, hsystem, hhidden⟩, hkept, hcreated, hfound, hsame⟩

lemma Resolves.cons {db₁ db₂ : Db} {label : String} {labels : List String}
    (h₁ : Resolves db db₁ owner [label]) (h₂ : Resolves db₁ db₂ owner labels) :
    Resolves db db₂ owner (label :: labels) := by
  refine ⟨h₂.named, fun tag htag => h₂.kept tag (h₁.kept tag htag), fun tag htag => ?_, ?_,
    fun hall => ?_⟩
  · rcases h₂.created tag htag with htag | ⟨howner, hslug, hname⟩
    · refine (h₁.created tag htag).imp_right fun ⟨howner, hslug, hname⟩ => ⟨howner, ?_, hname⟩
      exact List.mem_cons.mpr (.inl (List.mem_singleton.mp hslug))
    · exact .inr ⟨howner, List.mem_cons_of_mem _ hslug, hname⟩
  · intro label' hlabel'
    rcases List.mem_cons.mp hlabel' with rfl | hlabel'
    · obtain ⟨tag, htag, hspec⟩ := h₁.found _ (List.mem_singleton_self _)
      exact ⟨tag, h₂.kept tag htag, hspec⟩
    · exact h₂.found label' hlabel'
  · have hfirst : db₁.tags = db.tags := by
      refine h₁.same fun label' hlabel' => hall label' ?_
      exact List.mem_cons.mpr (.inl (List.mem_singleton.mp hlabel'))
    refine (h₂.same fun label' hlabel' => ?_).trans hfirst
    rw [hfirst]
    exact hall label' (List.mem_cons_of_mem _ hlabel')

lemma resolves_turn {db' : Db} {newTagId : RowId} {label : String} {found : Option TagRegistry}
    (h : Named db) (hlabel : LabelText label) (hfresh : Fresh db newTagId)
    (hturn : Turn db owner label newTagId db' found) :
    ∃ tag ∈ db'.tags, found = some tag ∧ tag.ownerUserId = owner ∧ tag.tagId = label ∧
      Resolves db db' owner [label] := by
  have hnamed := hturn.named h hfresh
  cases hturn with
  | @found tag hfound =>
    obtain ⟨htag, howner, hslug⟩ := (getTagByAnyRef_eq_some_iff h hlabel).mp hfound
    refine ⟨tag, htag, rfl, howner, hslug, h, fun _ htag => htag, fun _ htag => .inl htag, ?_,
      fun _ => rfl⟩
    intro label' hlabel'
    rw [List.mem_singleton.mp hlabel']
    exact ⟨tag, htag, howner, hslug⟩
  | dropped hinternal =>
    rw [hlabel.2.2] at hinternal
    cases hinternal
  | @created tag hlabel hnone hid howner hslug hmeta hsystem hhidden =>
    have hmem : tag ∈ db.tags ++ [tag] := List.mem_append_right _ (List.mem_singleton_self tag)
    have hname : tagDisplayName (some tag) "" = tag.tagId := by
      have hnone : LABEL_KEYS.findSome? (metaText tag.metaJson) = none := by
        rcases hmeta with hmeta | hmeta
        · rw [hmeta]
          rfl
        · rw [hmeta]
          rfl
      have hslug' : stripOrNone tag.tagId = some tag.tagId :=
        stripOrNone_eq_some_iff.mpr
          ⟨(hnamed.slugs tag hmem).1.symm ▸ (hnamed.slugs tag hmem).2, (hnamed.slugs tag hmem).1⟩
      rw [tagDisplayName, hnone, hslug']
      rfl
    refine ⟨tag, hmem, rfl, howner, hslug, hnamed, fun _ htag => List.mem_append_left _ htag, ?_,
      ?_, fun hall => ?_⟩
    · intro tag' htag'
      refine (List.mem_append.mp htag').imp_right fun htag' => ?_
      rw [List.mem_singleton.mp htag']
      exact ⟨howner, List.mem_singleton.mpr hslug, hname⟩
    · intro label' hlabel'
      rw [List.mem_singleton.mp hlabel']
      exact ⟨tag, hmem, howner, hslug⟩
    · obtain ⟨tag', htag', howner', hslug'⟩ := hall label (List.mem_singleton_self label)
      exact absurd hslug' ((getTagByAnyRef_eq_none_iff h hlabel).mp hnone tag' htag' howner')

lemma memories_findOrCreateMemoryTag (ref : String) (newTagId : RowId) :
    (findOrCreateMemoryTag db owner ref newTagId).1.memories = db.memories := by
  unfold findOrCreateMemoryTag
  split
  · rfl
  · split
    · unfold ensureUserSystemTag
      cases findSystemTag db owner with
      | none => rfl
      | some tag => rfl
    · split
      · rfl
      · rfl

lemma memories_resolveTagLoop {draws : ℕ → RowId} {refs : List String} {turn : ℕ}
    {resolved : List RowId} :
    (resolveTagLoop owner draws turn db resolved refs).1.memories = db.memories := by
  induction refs generalizing turn db resolved with
  | nil => rfl
  | cons rawTag refs ih =>
    have hturn := @memories_findOrCreateMemoryTag db owner (strip rawTag) (draws turn)
    unfold resolveTagLoop
    dsimp only
    split
    · exact ih
    · split
      · exact ih.trans hturn
      · split
        · exact ih.trans hturn
        · exact ih.trans hturn

lemma resolveTagLoop_labels {draws : ℕ → RowId} {labels : List String} {turn n : ℕ}
    {resolved : List RowId} (h : Named db) (hlabels : ∀ label ∈ labels, LabelText label)
    (hdraws : FreshDraws db draws turn n) (hn : turn + labels.length ≤ n) :
    Resolves db (resolveTagLoop owner draws turn db resolved labels).1 owner labels ∧
      ∀ id, id ∈ (resolveTagLoop owner draws turn db resolved labels).2 ↔ id ∈ resolved ∨
        ∃ tag ∈ (resolveTagLoop owner draws turn db resolved labels).1.tags, tag.id = id ∧
          tag.ownerUserId = owner ∧ tag.tagId ∈ labels := by
  induction labels generalizing turn db resolved with
  | nil => exact ⟨.nil h, fun id => by simp [resolveTagLoop]⟩
  | cons label labels ih =>
    obtain ⟨hlabel, hrest⟩ := List.forall_mem_cons.mp hlabels
    rw [List.length_cons] at hn
    have hlt : turn < n := by omega
    have hfresh := hdraws.fresh turn le_rfl hlt
    have hturn := @turn_findOrCreateMemoryTag db owner _ h _ hlabel.1 hlabel.2.1 hfresh.1
    generalize hresult : findOrCreateMemoryTag db owner label (draws turn) = result at hturn
    obtain ⟨db₁, found⟩ := result
    obtain ⟨tag, htag, rfl, howner, hslug, hfirst⟩ :=
      resolves_turn h hlabel hfresh hturn
    have hdraws' := hturn.fresh hdraws hlt
    -- whether the key is there already or not, it is afterwards
    obtain ⟨resolved', hloop, hresolved'⟩ : ∃ resolved',
        resolveTagLoop owner draws turn db resolved (label :: labels) =
          resolveTagLoop owner draws (turn + 1) db₁ resolved' labels ∧
        ∀ id, id ∈ resolved' ↔ id ∈ resolved ∨ id = tag.id := by
      rw [resolveTagLoop, hlabel.1, if_neg hlabel.2.1, hresult]
      dsimp only
      rw [shouldExposeTagLabel_of_named hfirst.named htag, Bool.not_true, Bool.false_or]
      by_cases hmem : tag.id ∈ resolved
      · rw [if_pos (decide_eq_true hmem)]
        refine ⟨resolved, rfl, fun id => ⟨.inl, ?_⟩⟩
        rintro (hid | rfl)
        · exact hid
        · exact hmem
      · rw [if_neg (by simpa using hmem)]
        exact ⟨_, rfl, fun id => by simp⟩
    rw [hloop]
    obtain ⟨hresolves, hids⟩ := @ih db₁ (turn + 1) resolved' hfirst.named hrest hdraws'
      (by omega)
    refine ⟨hfirst.cons hresolves, fun id => ?_⟩
    rw [hids, hresolved', or_assoc]
    refine or_congr_right ?_
    constructor
    · rintro (rfl | ⟨tag', htag', hid, howner', hslug'⟩)
      · exact ⟨tag, hresolves.kept tag htag, rfl, howner, List.mem_cons.mpr (.inl hslug)⟩
      · exact ⟨tag', htag', hid, howner', List.mem_cons_of_mem _ hslug'⟩
    · rintro ⟨tag', htag', hid, howner', hslug'⟩
      rcases List.mem_cons.mp hslug' with hslug' | hslug'
      · left
        rw [← hid, hresolves.named.unique tag' htag' tag (hresolves.kept tag htag)
          (howner'.trans howner.symm) (hslug'.trans hslug.symm)]
      · exact .inr ⟨tag', htag', hid, howner', hslug'⟩

end

/-! ## Edits -/

section

variable {settings : Settings} {accounts : Accounts} {s : IndexedDb} {user : User}
  {cocoonId memoryId : RowId} {cocoon : Cocoon} {memory : MemoryChunk}
  {payload : MemoryUpdateRequest} {draws : MemoryUpdateDraws}

lemma updateMemory_labels
    (hrequire : requireMemory settings accounts s.toDb user cocoonId memoryId =
      .ok (cocoon, memory))
    (hnull : payload.hasNull = false) (howner : cocoon.ownerUserId ≠ "") (h : Named s.toDb)
    {n : ℕ} (hdraws : FreshDraws s.toDb draws.tagIds 0 n) {labels : List String}
    (hlabels : ∀ label ∈ labels, LabelText label) (hn : labels.length ≤ n) :
    ∃ s', updateMemory settings accounts s user cocoonId memoryId
        { payload with tagsJson := some labels } draws = .ok s' ∧
      Resolves s.toDb s'.toDb (saveOwner cocoon memory) labels ∧
      ∀ id, id ∈ savedTags s'.toDb memory.id ↔ ∃ tag ∈ s'.tags, tag.id = id ∧
        tag.ownerUserId = saveOwner cocoon memory ∧ tag.tagId ∈ labels := by
  have hresolve : resolveOrCreateMemoryTags s.toDb
      (((payload.applyTo memory).ownerUserId.filter (· ≠ "")).or (some cocoon.ownerUserId)) labels
        draws.tagIds =
      resolveTagLoop (saveOwner cocoon memory) draws.tagIds 0 s.toDb [] labels := by
    have hsave : ((payload.applyTo memory).ownerUserId.filter (· ≠ "")).or
        (some cocoon.ownerUserId) = some (saveOwner cocoon memory) := Option.or_some
    have hne : saveOwner cocoon memory ≠ "" := by
      unfold saveOwner
      cases hfilter : memory.ownerUserId.filter (· ≠ "") with
      | none => exact howner
      | some user => exact of_decide_eq_true (Option.filter_eq_some_iff.mp hfilter).2
    rw [resolveOrCreateMemoryTags, hsave, Option.filter_some, if_pos (decide_eq_true hne)]
  obtain ⟨hresolves, hids⟩ := @resolveTagLoop_labels s.toDb (saveOwner cocoon memory) draws.tagIds
    labels 0 n [] h hlabels hdraws ((Nat.zero_add _).le.trans hn)
  obtain ⟨db', new, hretag, hnew, htags, hmemories, hjson⟩ : ∃ db' new,
      retagMemory s.toDb cocoon (payload.applyTo memory) labels draws.tagIds = (db', new) ∧
      new.id = memory.id ∧
      db'.tags = (resolveTagLoop (saveOwner cocoon memory) draws.tagIds 0 s.toDb [] labels).1.tags ∧
      db'.memories = s.memories ∧
      new.tagsJson =
        (resolveTagLoop (saveOwner cocoon memory) draws.tagIds 0 s.toDb [] labels).2 := by
    have hkept := @memories_resolveTagLoop s.toDb (saveOwner cocoon memory) draws.tagIds labels 0 []
    rw [← hresolve] at hkept ⊢
    exact ⟨_, _, rfl, rfl, rfl, hkept, rfl⟩
  have hok : updateMemory settings accounts s user cocoonId memoryId
      { payload with tagsJson := some labels } draws =
        .ok (writeMemory s db' new draws.embeddingId) := by
    have happly : applyTags s.toDb cocoon (payload.applyTo memory)
        { payload with tagsJson := some labels } draws.tagIds = (db', new) := hretag
    unfold updateMemory
    rw [hrequire]
    change (if payload.hasNull then _ else
      let tagged := applyTags s.toDb cocoon (payload.applyTo memory)
        { payload with tagsJson := some labels } draws.tagIds
      pure (writeMemory s tagged.1 tagged.2 draws.embeddingId)) = _
    rw [hnull, if_neg Bool.false_ne_true, happly]
    rfl
  have hwritten := (writeMemory_spec s db' new draws.embeddingId).1
  have hmemory : get s.memories new.id = some memory := by
    have hget := (requireMemory_eq_ok hrequire).2.1
    rwa [hnew, show memory.id = memoryId from key_of_get hget]
  have hsaved : savedTags (writeMemory s db' new draws.embeddingId).toDb memory.id =
      new.tagsJson := by
    rw [hwritten, savedTags]
    change ((get (update db'.memories new.id fun _ => new) memory.id).map
      MemoryChunk.tagsJson).getD [] = _
    rw [hmemories, get_update_const (show key new = new.id from rfl), if_pos hnew.symm, hmemory]
    rfl
  have htags' := congrArg Db.tags hwritten
  refine ⟨_, hok, hresolves.of_tags (htags'.trans htags), fun id => ?_⟩
  rw [hsaved, hjson, htags', htags, hids]
  simp only [List.not_mem_nil, false_or]

end

/-- What is asked of the edits of a memory: the labels that are shown keep its tags and create none;
without one of them, the tags shown as it go; and with one more, the tags of this label come. -/
structure EditsWork (save : List String → Except HttpError IndexedDb) (s : IndexedDb)
    (memory : MemoryChunk) (owner : RowId) (label : String) : Prop where
  same : ∃ s', save (resolveMemoryTagLabels s.toDb memory) = .ok s' ∧ s'.tags = s.tags ∧
    ∀ id, id ∈ savedTags s'.toDb memory.id ↔ id ∈ memory.tagsJson
  removed : ∀ gone ∈ resolveMemoryTagLabels s.toDb memory, ∃ s',
    save ((resolveMemoryTagLabels s.toDb memory).filter (· ≠ gone)) = .ok s' ∧
      ∀ id, id ∈ savedTags s'.toDb memory.id ↔
        id ∈ memory.tagsJson ∧ shownLabel s.toDb (labelOwner s.toDb memory) id ≠ some gone
  added : ∃ s', save (resolveMemoryTagLabels s.toDb memory ++ [label]) = .ok s' ∧
    ∀ id, id ∈ savedTags s'.toDb memory.id ↔ id ∈ memory.tagsJson ∨
      ∃ tag ∈ s'.tags, tag.id = id ∧ tag.ownerUserId = owner ∧
        tagDisplayName (some tag) "" = label

/-- The tags that the memory does not have have this label if they have this name. -/
def AddOk (s : IndexedDb) (memory : MemoryChunk) (owner : RowId) (label : String) : Prop :=
  ∀ tag ∈ s.tags, tag.ownerUserId = owner → tag.id ∉ memory.tagsJson →
    (tagDisplayName (some tag) "" = label ↔ tag.tagId = label)

section

variable {save : List String → Except HttpError IndexedDb} {s : IndexedDb} {memory : MemoryChunk}
  {owner : RowId} {label : String}

/-- An edit with these labels, at most one more than are shown, as it resolves them. -/
def Saves (save : List String → Except HttpError IndexedDb) (s : IndexedDb) (memory : MemoryChunk)
    (owner : RowId) : Prop :=
  ∀ labels : List String, (∀ label ∈ labels, LabelText label) →
    labels.length ≤ (resolveMemoryTagLabels s.toDb memory).length + 1 →
    ∃ s', save labels = .ok s' ∧ Resolves s.toDb s'.toDb owner labels ∧
      ∀ id, id ∈ savedTags s'.toDb memory.id ↔
        ∃ tag ∈ s'.tags, tag.id = id ∧ tag.ownerUserId = owner ∧ tag.tagId ∈ labels

/-- Every tag of the memory has its own label. -/
def OwnLabels (s : IndexedDb) (memory : MemoryChunk) (owner : RowId) : Prop :=
  ∀ ref ∈ memory.tagsJson, OwnLabel s.toDb (labelOwner s.toDb memory) owner ref

lemma labelText_of_mem_shown (hlabel : label ∈ resolveMemoryTagLabels s.toDb memory) :
    LabelText label := by
  obtain ⟨ref, -, href⟩ := mem_resolveMemoryTagLabels.mp hlabel
  exact labelText_of_shownLabel href

lemma length_shown_le (s : IndexedDb) (memory : MemoryChunk) :
    (resolveMemoryTagLabels s.toDb memory).length ≤ memory.tagsJson.length := by
  have hsub : resolveMemoryTagLabels s.toDb memory ⊆
      memory.tagsJson.filterMap (shownLabel s.toDb (labelOwner s.toDb memory)) := by
    intro label hlabel
    exact List.mem_filterMap.mpr (mem_resolveMemoryTagLabels.mp hlabel)
  exact ((Collect.nodup_collect _ _).subperm hsub).length_le.trans (List.length_filterMap_le _ _)

lemma Named.eq_of_id {db : Db} (h : Named db) {tag tag' : TagRegistry} (htag : tag ∈ db.tags)
    (htag' : tag' ∈ db.tags) (hid : tag.id = tag'.id) : tag = tag' :=
  List.inj_on_of_nodup_map h.keys htag htag' hid

lemma shown_of_ownLabels (h : Named s.toDb) (hown : OwnLabels s memory owner) {tag : TagRegistry}
    (htag : tag ∈ s.tags) (hmem : tag.id ∈ memory.tagsJson) :
    shownLabel s.toDb (labelOwner s.toDb memory) tag.id = some tag.tagId := by
  obtain ⟨tag', htag', hid, -, hlabel⟩ := (ownLabel_iff h).mp (hown tag.id hmem)
  rwa [Named.eq_of_id h htag' htag hid] at hlabel

lemma mem_shown_iff (h : Named s.toDb) (hown : OwnLabels s memory owner) {tag : TagRegistry}
    (htag : tag ∈ s.tags) (howner : tag.ownerUserId = owner) :
    tag.tagId ∈ resolveMemoryTagLabels s.toDb memory ↔ tag.id ∈ memory.tagsJson := by
  rw [mem_resolveMemoryTagLabels]
  constructor
  · rintro ⟨ref, href, hlabel⟩
    obtain ⟨tag', htag', rfl, howner', hlabel'⟩ := (ownLabel_iff h).mp (hown ref href)
    have hslug : tag'.tagId = tag.tagId := Option.some.inj (hlabel'.symm.trans hlabel)
    rwa [h.unique tag' htag' tag htag (howner'.trans howner.symm) hslug] at href
  · exact fun hmem => ⟨tag.id, hmem, shown_of_ownLabels h hown htag hmem⟩

lemma exists_tag_of_mem_shown (h : Named s.toDb) (hown : OwnLabels s memory owner)
    (hlabel : label ∈ resolveMemoryTagLabels s.toDb memory) :
    ∃ tag ∈ s.tags, tag.ownerUserId = owner ∧ tag.tagId = label := by
  obtain ⟨ref, href, hshown⟩ := mem_resolveMemoryTagLabels.mp hlabel
  obtain ⟨tag, htag, -, howner, hslug⟩ := (ownLabel_iff h).mp (hown ref href)
  exact ⟨tag, htag, howner, Option.some.inj (hslug.symm.trans hshown)⟩

lemma exists_tag_of_mem (hown : OwnLabels s memory owner) {id : RowId}
    (hid : id ∈ memory.tagsJson) : ∃ tag ∈ s.tags, tag.id = id ∧ tag.ownerUserId = owner := by
  obtain ⟨tag, htag, htagId, howner, -⟩ := hown id hid
  exact ⟨tag, htag, htagId, howner⟩

lemma saved_of_subset (h : Named s.toDb) (hsave : Saves save s memory owner)
    (hown : OwnLabels s memory owner) {labels : List String}
    (hsub : labels.Sublist (resolveMemoryTagLabels s.toDb memory)) :
    ∃ s', save labels = .ok s' ∧ s'.tags = s.tags ∧
      ∀ id, id ∈ savedTags s'.toDb memory.id ↔
        ∃ tag ∈ s.tags, tag.id = id ∧ tag.ownerUserId = owner ∧ tag.tagId ∈ labels := by
  obtain ⟨s', hok, hresolves, hids⟩ :=
    hsave labels (fun label hlabel => labelText_of_mem_shown (hsub.subset hlabel))
      (Nat.le_succ_of_le hsub.length_le)
  have htags : s'.tags = s.tags :=
    hresolves.same fun label hlabel => exists_tag_of_mem_shown h hown (hsub.subset hlabel)
  rw [htags] at hids
  exact ⟨s', hok, htags, hids⟩

lemma same_of_ownLabels (h : Named s.toDb) (hsave : Saves save s memory owner)
    (hown : OwnLabels s memory owner) :
    ∃ s', save (resolveMemoryTagLabels s.toDb memory) = .ok s' ∧ s'.tags = s.tags ∧
      ∀ id, id ∈ savedTags s'.toDb memory.id ↔ id ∈ memory.tagsJson := by
  obtain ⟨s', hok, htags, hids⟩ := saved_of_subset h hsave hown (List.Sublist.refl _)
  refine ⟨s', hok, htags, fun id => (hids id).trans ?_⟩
  constructor
  · rintro ⟨tag, htag, rfl, howner, hslug⟩
    exact (mem_shown_iff h hown htag howner).mp hslug
  · intro hid
    obtain ⟨tag, htag, rfl, howner⟩ := exists_tag_of_mem hown hid
    exact ⟨tag, htag, rfl, howner, (mem_shown_iff h hown htag howner).mpr hid⟩

lemma removed_of_ownLabels (h : Named s.toDb) (hsave : Saves save s memory owner)
    (hown : OwnLabels s memory owner) (gone : String) :
    ∃ s', save ((resolveMemoryTagLabels s.toDb memory).filter (· ≠ gone)) = .ok s' ∧
      ∀ id, id ∈ savedTags s'.toDb memory.id ↔
        id ∈ memory.tagsJson ∧ shownLabel s.toDb (labelOwner s.toDb memory) id ≠ some gone := by
  obtain ⟨s', hok, -, hids⟩ :=
    saved_of_subset h hsave hown List.filter_sublist
  refine ⟨s', hok, fun id => (hids id).trans ?_⟩
  constructor
  · rintro ⟨tag, htag, rfl, howner, hslug⟩
    obtain ⟨hslug, hne⟩ := List.mem_filter.mp hslug
    have hmem := (mem_shown_iff h hown htag howner).mp hslug
    rw [shown_of_ownLabels h hown htag hmem]
    exact ⟨hmem, fun heq => of_decide_eq_true hne (Option.some.inj heq)⟩
  · rintro ⟨hid, hne⟩
    obtain ⟨tag, htag, rfl, howner⟩ := exists_tag_of_mem hown hid
    rw [shown_of_ownLabels h hown htag hid] at hne
    refine ⟨tag, htag, rfl, howner, List.mem_filter.mpr
      ⟨(mem_shown_iff h hown htag howner).mpr hid, decide_eq_true ?_⟩⟩
    exact fun hslug => hne (congrArg some hslug)

lemma ownLabels_of_editsWork (h : Named s.toDb) (hsave : Saves save s memory owner)
    (hedits : EditsWork save s memory owner label) : OwnLabels s memory owner := by
  intro id hid
  obtain ⟨s', hok, htags, hsame⟩ := hedits.same
  obtain ⟨s'', hok', -, hids⟩ := hsave (resolveMemoryTagLabels s.toDb memory)
    (fun label hlabel => labelText_of_mem_shown hlabel) (Nat.le_succ _)
  obtain rfl : s' = s'' := Except.ok.inj (hok.symm.trans hok')
  obtain ⟨tag, htag, rfl, howner, hslug⟩ := (hids id).mp ((hsame id).mpr hid)
  rw [htags] at htag
  rw [ownLabel_iff h]
  refine ⟨tag, htag, rfl, howner, ?_⟩
  -- without the tag's name the tag is not saved, so it is the label that is shown for it
  obtain ⟨t, hokt, hgone⟩ := hedits.removed tag.tagId hslug
  obtain ⟨t', hokt', hresolves, hidst⟩ :=
    hsave ((resolveMemoryTagLabels s.toDb memory).filter (· ≠ tag.tagId))
      (fun label hlabel => labelText_of_mem_shown (List.mem_of_mem_filter hlabel))
      (Nat.le_succ_of_le (List.length_filter_le _ _))
  obtain rfl : t = t' := Except.ok.inj (hokt.symm.trans hokt')
  have hnot : tag.id ∉ savedTags t.toDb memory.id := by
    rw [hidst]
    rintro ⟨tag', htag', hid', -, hslug'⟩
    obtain rfl := Named.eq_of_id hresolves.named htag' (hresolves.kept tag htag) hid'
    exact absurd rfl (of_decide_eq_true (List.mem_filter.mp hslug').2)
  by_contra hshown
  exact hnot ((hgone tag.id).mpr ⟨hid, hshown⟩)

lemma added_iff (h : Named s.toDb) (hsave : Saves save s memory owner)
    (hown : OwnLabels s memory owner) (hlabel : LabelText label) :
    (∃ s', save (resolveMemoryTagLabels s.toDb memory ++ [label]) = .ok s' ∧
      ∀ id, id ∈ savedTags s'.toDb memory.id ↔ id ∈ memory.tagsJson ∨
        ∃ tag ∈ s'.tags, tag.id = id ∧ tag.ownerUserId = owner ∧
          tagDisplayName (some tag) "" = label) ↔ AddOk s memory owner label := by
  obtain ⟨s', hok, hresolves, hids⟩ := hsave (resolveMemoryTagLabels s.toDb memory ++ [label]) (by
    intro label' hlabel'
    rcases List.mem_append.mp hlabel' with hlabel' | hlabel'
    · exact labelText_of_mem_shown hlabel'
    · rwa [List.mem_singleton.mp hlabel']) (List.length_append ..).le
  have hsaved : ∀ id, id ∈ savedTags s'.toDb memory.id ↔ id ∈ memory.tagsJson ∨
      ∃ tag ∈ s'.tags, tag.id = id ∧ tag.ownerUserId = owner ∧ tag.tagId = label := by
    intro id
    rw [hids]
    constructor
    · rintro ⟨tag, htag, rfl, howner, hslug⟩
      rcases List.mem_append.mp hslug with hslug | hslug
      · obtain ⟨old, hold, holdOwner, holdSlug⟩ := exists_tag_of_mem_shown h hown hslug
        obtain rfl := hresolves.named.unique old (hresolves.kept old hold) tag htag
          (holdOwner.trans howner.symm) holdSlug
        exact .inl ((mem_shown_iff h hown hold howner).mp hslug)
      · exact .inr ⟨tag, htag, rfl, howner, List.mem_singleton.mp hslug⟩
    · rintro (hid | ⟨tag, htag, rfl, howner, hslug⟩)
      · obtain ⟨tag, htag, rfl, howner⟩ := exists_tag_of_mem hown hid
        exact ⟨tag, hresolves.kept tag htag, rfl, howner,
          List.mem_append_left _ ((mem_shown_iff h hown htag howner).mpr hid)⟩
      · exact ⟨tag, htag, rfl, howner, List.mem_append_right _ (List.mem_singleton.mpr hslug)⟩
  constructor
  · rintro ⟨t, hokt, hadded⟩ tag htag howner hnot
    obtain rfl : s' = t := Except.ok.inj (hok.symm.trans hokt)
    constructor
    · intro hname
      have hid := (hadded tag.id).mpr (.inr ⟨tag, hresolves.kept tag htag, rfl, howner, hname⟩)
      obtain ⟨tag', htag', hid', -, hslug⟩ := ((hsaved tag.id).mp hid).resolve_left hnot
      rwa [Named.eq_of_id hresolves.named htag' (hresolves.kept tag htag) hid'] at hslug
    · intro hslug
      have hid := (hsaved tag.id).mpr (.inr ⟨tag, hresolves.kept tag htag, rfl, howner, hslug⟩)
      obtain ⟨tag', htag', hid', -, hname⟩ := ((hadded tag.id).mp hid).resolve_left hnot
      rwa [Named.eq_of_id hresolves.named htag' (hresolves.kept tag htag) hid'] at hname
  · intro hadd
    refine ⟨s', hok, fun id => (hsaved id).trans ?_⟩
    -- a tag is the memory's, or one that the condition is about, or new
    have hiff : ∀ tag ∈ s'.tags, tag.ownerUserId = owner → tag.id ∉ memory.tagsJson →
        (tagDisplayName (some tag) "" = label ↔ tag.tagId = label) := by
      intro tag htag howner hnot
      rcases hresolves.created tag htag with hold | ⟨-, -, hname⟩
      · exact hadd tag hold howner hnot
      · rw [hname]
    by_cases hid : id ∈ memory.tagsJson
    · simp only [hid, true_or]
    · simp only [hid, false_or]
      constructor
      · rintro ⟨tag, htag, rfl, howner, hslug⟩
        exact ⟨tag, htag, rfl, howner, (hiff tag htag howner hid).mpr hslug⟩
      · rintro ⟨tag, htag, rfl, howner, hname⟩
        exact ⟨tag, htag, rfl, howner, (hiff tag htag howner hid).mp hname⟩

lemma editsWork_iff (h : Named s.toDb) (hsave : Saves save s memory owner)
    (hlabel : LabelText label) :
    EditsWork save s memory owner label ↔
      OwnLabels s memory owner ∧ AddOk s memory owner label := by
  constructor
  · intro hedits
    have hown := ownLabels_of_editsWork h hsave hedits
    exact ⟨hown, (added_iff h hsave hown hlabel).mp hedits.added⟩
  · rintro ⟨hown, hadd⟩
    exact ⟨same_of_ownLabels h hsave hown,
      fun gone _ => removed_of_ownLabels h hsave hown gone,
      (added_iff h hsave hown hlabel).mpr hadd⟩

end

/-- Through a registry that its calls reach, edits of a memory by labels work if each of its tags is
shown by its name, and the label that is added names the tag that has it. -/
theorem editsWork_iff_ownLabels (settings : Settings) (accounts : Accounts) {db₀ : Db}
    {calls : List Call} {s : IndexedDb} {user : User} {cocoonId memoryId : RowId} {cocoon : Cocoon}
    {memory : MemoryChunk} {payload : MemoryUpdateRequest} {draws : MemoryUpdateDraws}
    {label : String} (hempty : db₀.tags = [])
    (hdrawn : StepsMeet step (fun db call => call.Draws db) db₀ calls)
    (hrun : run step db₀ calls = some s.toDb)
    (hrequire : requireMemory settings accounts s.toDb user cocoonId memoryId =
      .ok (cocoon, memory))
    (hnull : payload.hasNull = false) (howner : cocoon.ownerUserId ≠ "")
    (hdraws : FreshDraws s.toDb draws.tagIds 0 (memory.tagsJson.length + 1))
    (hlabel : LabelText label) :
    EditsWork (fun labels => updateMemory settings accounts s user cocoonId memoryId
        { payload with tagsJson := some labels } draws) s memory (saveOwner cocoon memory) label ↔
      OwnLabels s memory (saveOwner cocoon memory) ∧
        AddOk s memory (saveOwner cocoon memory) label := by
  have hnamed := named_of_run hempty hdrawn hrun
  exact editsWork_iff hnamed (fun _ hlabels hn => updateMemory_labels hrequire hnull howner hnamed
    hdraws hlabels (hn.trans (Nat.succ_le_succ (length_shown_le s memory)))) hlabel

def mia : User := { id := "mia", username := "mia", passwordHash := "h" }

def den : Cocoon := { id := "den", ownerUserId := "mia", characterId := "c" }

def focusId : RowId := "0b7f0000-0000-4000-8000-000000000001"

/-- A memory of Mia's cocoon with one tag. -/
def note : MemoryChunk :=
  { id := "m", cocoonId := some "den", scope := "dialogue", content := "Mia paints"
    tagsJson := [focusId] }

def denDb : Db := { cocoons := [den], memories := [note] }

def focus : TagCreate := { tagId := "focus", brief := "What Mia works on" }

def niceName : TagUpdate := { metaJson := some (.ofList [("name", .str "Nice")]) }

/-- The registry with Mia's tag, and with the tag renamed. -/
def focusDb : IndexedDb := { toDb := { denDb with tags := [focus.toTag "mia" focusId] } }

def niceDb : IndexedDb :=
  { toDb := { denDb with tags := [niceName.applyTo (focus.toTag "mia" focusId)] } }

def spareDraws : MemoryUpdateDraws :=
  ⟨fun j => if j = 0 then "0b7f0000-0000-4000-8000-000000000002"
    else "0b7f0000-0000-4000-8000-000000000003", "e"⟩

lemma fresh_focusId : Fresh denDb focusId := by
  refine ⟨by decide, by decide, ?_⟩
  rw [looksLikeInternalTagRef_eq]
  decide

lemma run_focusDb : run step denDb [.createTag "mia" focus focusId] = some focusDb.toDb := rfl

lemma run_niceDb : run step denDb [.createTag "mia" focus focusId,
    .updateTag "mia" "focus" niceName] = some niceDb.toDb := rfl

lemma freshDraws_spareDraws {db : Db} (hkeys : db.tags.map key = [focusId]) :
    FreshDraws db spareDraws.tagIds 0 2 := by
  have htext : ∀ j, IdText (spareDraws.tagIds j) ∧ spareDraws.tagIds j ≠ focusId := by
    intro j
    unfold spareDraws
    dsimp only
    split
    · refine ⟨⟨by decide, ?_⟩, by decide⟩
      rw [looksLikeInternalTagRef_eq]
      decide
    · refine ⟨⟨by decide, ?_⟩, by decide⟩
      rw [looksLikeInternalTagRef_eq]
      decide
  refine ⟨fun j _ _ => ⟨?_, (htext j).1⟩, ?_⟩
  · rw [hkeys, List.mem_singleton]
    exact (htext j).2
  · intro i j hi hj heq
    obtain rfl | rfl : i = 0 ∨ i = 1 := by omega
    · obtain rfl | rfl : j = 0 ∨ j = 1 := by omega
      · rfl
      · exact absurd heq (by decide)
    · obtain rfl | rfl : j = 0 ∨ j = 1 := by omega
      · exact absurd heq (by decide)
      · rfl

/-- A tag with no other name is kept by its label, and a label of no tag adds one. -/
theorem focus_editsWork : EditsWork (fun labels => updateMemory {} {} focusDb mia "den" "m"
    { tagsJson := some labels } spareDraws) focusDb note "mia" "calm" := by
  have hcalm : LabelText "calm" := by
    refine ⟨by decide, by decide, ?_⟩
    rw [looksLikeInternalTagRef_eq]
    decide
  have hdrawn : StepsMeet step (fun db call => call.Draws db) denDb
      [.createTag "mia" focus focusId] := ⟨fresh_focusId, trivial⟩
  have hrequire : requireMemory {} {} focusDb.toDb mia "den" "m" = .ok (den, note) := rfl
  have hnull : MemoryUpdateRequest.hasNull {} = false := rfl
  have htag : focus.toTag "mia" focusId ∈ focusDb.tags := List.mem_singleton_self _
  refine (editsWork_iff_ownLabels {} {} rfl hdrawn run_focusDb hrequire hnull (by decide)
    (freshDraws_spareDraws rfl) hcalm).mpr ⟨?_, ?_⟩
  · intro ref href
    obtain rfl := List.mem_singleton.mp href
    refine ⟨_, htag, rfl, rfl, ?_, _, htag, .inl ⟨rfl, ?_⟩, by decide⟩
    · rw [looksLikeInternalTagRef_eq]
      decide
    · rintro _ ⟨⟩
      rfl
  · intro tag htag _ hnot
    rw [List.mem_singleton.mp htag] at hnot
    exact absurd (List.mem_singleton_self focusId) hnot

/-- A renamed tag is shown by a name that no lookup knows: saved unchanged, it is lost to a new
tag. -/
theorem niceLabel_not_kept : resolveMemoryTagLabels niceDb.toDb note = ["Nice"] ∧
    ∃ s', updateMemory {} {} niceDb mia "den" "m"
        { tagsJson := some (resolveMemoryTagLabels niceDb.toDb note) } spareDraws = .ok s' ∧
      focusId ∉ savedTags s'.toDb "m" ∧
        ∃ tag ∈ s'.tags, tag.tagId = "Nice" ∧ tag ∉ niceDb.tags := by
  have hnice : LabelText "Nice" := by
    refine ⟨by decide, by decide, ?_⟩
    rw [looksLikeInternalTagRef_eq]
    decide
  have hdrawn : StepsMeet step (fun db call => call.Draws db) denDb
      [.createTag "mia" focus focusId, .updateTag "mia" "focus" niceName] :=
    ⟨fresh_focusId, trivial, trivial⟩
  have hnamed := named_of_run rfl hdrawn run_niceDb
  have htag : niceName.applyTo (focus.toTag "mia" focusId) ∈ niceDb.tags :=
    List.mem_singleton_self _
  have hshown : shownLabel niceDb.toDb (some "mia") focusId = some "Nice" := by
    refine (shownLabel_id hnamed htag).mpr
      ⟨hnice.2.1, hnice.2.2, _, htag, .inl ⟨rfl, ?_⟩, by decide⟩
    rintro _ ⟨⟩
    rfl
  have hlabels : resolveMemoryTagLabels niceDb.toDb note = ["Nice"] := by
    change Collect.collect (shownLabel niceDb.toDb (some "mia")) [focusId] = ["Nice"]
    simp [Collect.collect, Collect.collectStep, hshown]
  have hrequire : requireMemory {} {} niceDb.toDb mia "den" "m" = .ok (den, note) := rfl
  have hnull : MemoryUpdateRequest.hasNull {} = false := rfl
  obtain ⟨s', hok, hresolves, hids⟩ := updateMemory_labels hrequire hnull (by decide) hnamed
    (freshDraws_spareDraws rfl) (List.forall_mem_singleton.mpr hnice) (by decide)
  refine ⟨hlabels, s', by rw [hlabels]; exact hok, fun hmem => ?_, ?_⟩
  · obtain ⟨tag, htag', hid, -, hslug⟩ := (hids focusId).mp hmem
    obtain rfl := Named.eq_of_id hresolves.named htag' (hresolves.kept _ htag) hid
    exact absurd hslug (by decide)
  · obtain ⟨tag, htag', -, hslug⟩ := hresolves.found "Nice" (List.mem_singleton_self _)
    refine ⟨tag, htag', hslug, fun hold => ?_⟩
    rw [List.mem_singleton.mp hold] at hslug
    exact absurd hslug (by decide)

end CocoonSit.TagLabels
