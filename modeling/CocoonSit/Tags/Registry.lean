import CocoonSit.Lib.Run
import CocoonSit.Lib.SplitText
import CocoonSit.Tags.Services
import CocoonSit.Workspace.Memory

/-!
# The tag registry by names

`create_tag`, `update_tag` and the two places that create a tag on the way, as calls on the
registry.  Every registry they reach has one tag for an owner and a name, no name that is blank or
padded, and no hidden tag but the owners' default ones.
-/

namespace CocoonSit

open Table TransitionSystem

def SYSTEM_TAG_MODIFY : HTTPException := ⟨400, "System tag cannot be modified"⟩

def TAGS_NOT_SHARED : HTTPException :=
  ⟨400, "Tags are private and cannot be shared with chat groups"⟩

/-- `TagUpdate`; `is_isolated` is not read. -/
structure TagUpdate where
  brief : Option String := none
  visibility : Option String := none
  metaJson : Option JsonDict := none
  visibleChatGroupIds : Option (List String) := none

/-- The fields that `update_tag` writes. -/
def TagUpdate.applyTo (payload : TagUpdate) (tag : TagRegistry) : TagRegistry :=
  { tag with
    brief := payload.brief.getD tag.brief
    visibility := "private"
    isIsolated := true
    metaJson := payload.metaJson.getD tag.metaJson }

def updateTag (db : Db) (userId : RowId) (tagRef : String) (payload : TagUpdate) :
    Except HTTPException (Db × TagRegistry) :=
  match requireCanonicalTag db tagRef (some userId) with
  | .error e => .error e
  | .ok tag =>
    if isSystemTag tag then .error SYSTEM_TAG_MODIFY
    else
      match payload.visibility.elim (.ok TAG_VISIBILITY_PRIVATE) requireValidVisibility with
      | .error e => .error e
      | .ok _ =>
        if (payload.visibleChatGroupIds.getD []).any fun id => strip id ≠ "" then
          .error TAGS_NOT_SHARED
        else
          .ok ({ db with tags := update db.tags tag.id payload.applyTo }, payload.applyTo tag)


lemma looksLikeInternalTagRef_eq (value : String) :
    looksLikeInternalTagRef value =
      (((strip value).toList.splitOnP (· == '-')).all (fun group => group.all isHexDigit) &&
        (((strip value).toList.splitOnP (· == '-')).map List.length = [32] ||
          ((strip value).toList.splitOnP (· == '-')).map List.length = [8, 4, 4, 4, 12])) := by
  have hsplit : (strip value).splitOn "-" =
      ((strip value).toList.splitOnP (· == '-')).map String.ofList :=
    SplitText.splitOn_singleton _ '-'
  have hlength : String.length ∘ String.ofList = List.length :=
    funext fun _ => String.length_ofList
  have hdigits : ((fun group : String => group.toList.all isHexDigit) ∘ String.ofList) =
      fun group => group.all isHexDigit := by
    funext group
    rw [Function.comp_apply, String.toList_ofList]
  unfold looksLikeInternalTagRef
  dsimp only
  rw [hsplit, List.all_map, List.map_map, hlength, hdigits]

namespace TagNames

/-! ## Calls -/

/-- A call that writes the registry, with the keys it may draw. -/
inductive Call
  | createTag (userId : RowId) (payload : TagCreate) (newTagId : RowId)
  | updateTag (userId : RowId) (tagRef : String) (payload : TagUpdate)
  | ensureUserSystemTag (userId newTagId : RowId)
  | resolveOrCreateMemoryTags (ownerUserId : Option RowId) (tagRefs : List String)
      (draws : ℕ → RowId)

/-- A request that is refused writes nothing. -/
def written (db : Db) : Except HTTPException (Db × TagRegistry) → Db
  | .error _ => db
  | .ok (db', _) => db'

def step (db : Db) : Call → Option Db
  | .createTag userId payload newTagId => some (written db (createTag db userId payload newTagId))
  | .updateTag userId tagRef payload =>
    some (written db (CocoonSit.updateTag db userId tagRef payload))
  | .ensureUserSystemTag userId newTagId => some (ensureUserSystemTag db userId newTagId).1
  | .resolveOrCreateMemoryTags ownerUserId tagRefs draws =>
    some (resolveOrCreateMemoryTags db ownerUserId tagRefs draws).1

/-- A text of the form that `new_id` draws. -/
def IdText (id : RowId) : Prop := strip id = id ∧ looksLikeInternalTagRef id = true

lemma ne_empty_of_idText {id : RowId} (h : IdText id) : id ≠ "" := by
  rintro rfl
  have hinternal := h.2
  rw [looksLikeInternalTagRef_eq] at hinternal
  exact absurd hinternal (by decide)

/-- A key that is drawn. -/
def Fresh (db : Db) (id : RowId) : Prop := id ∉ db.tags.map key ∧ IdText id

/-- The keys of the turns from `turn` on and before `n` are new, and differ from each other. -/
structure FreshDraws (db : Db) (draws : ℕ → RowId) (turn n : ℕ) : Prop where
  fresh : ∀ j, turn ≤ j → j < n → Fresh db (draws j)
  inj : ∀ i j, i < n → j < n → draws i = draws j → i = j

/-- The keys that a call draws are new. -/
def Call.Draws (db : Db) : Call → Prop
  | .createTag _ _ newTagId | .ensureUserSystemTag _ newTagId => Fresh db newTagId
  | .updateTag .. => True
  | .resolveOrCreateMemoryTags _ tagRefs draws => FreshDraws db draws 0 tagRefs.length

/-! ## The invariant -/

/-- What every registry is like. -/
structure Named (db : Db) : Prop where
  keys : (db.tags.map key).Nodup
  ids : ∀ tag ∈ db.tags, IdText tag.id
  slugs : ∀ tag ∈ db.tags, strip tag.tagId = tag.tagId ∧ tag.tagId ≠ ""
  unique : ∀ tag ∈ db.tags, ∀ tag' ∈ db.tags, tag.ownerUserId = tag'.ownerUserId →
    tag.tagId = tag'.tagId → tag = tag'
  system : ∀ tag ∈ db.tags, tag.isSystem = true ↔ tag.tagId = SYSTEM_TAG_SLUG
  hidden : ∀ tag ∈ db.tags, tag.isHidden = true → tag.isSystem = true

section

variable {db db' : Db} {owner newTagId : RowId}

lemma named_nil (h : db.tags = []) : Named db := by
  have hnone : ∀ tag, tag ∉ db.tags := by
    intro tag
    rw [h]
    exact List.not_mem_nil
  refine ⟨by rw [h]; exact List.nodup_nil, ?_, ?_, ?_, ?_, ?_⟩
  all_goals exact fun tag htag => absurd htag (hnone tag)

/-- No tag of the owner has this name. -/
def Unnamed (db : Db) (owner : RowId) (slug : String) : Prop :=
  ∀ tag ∈ db.tags, tag.ownerUserId = owner → tag.tagId ≠ slug

lemma Named.append (h : Named db) {tag : TagRegistry} (hfresh : Fresh db tag.id)
    (hslug : strip tag.tagId = tag.tagId ∧ tag.tagId ≠ "")
    (hunnamed : Unnamed db tag.ownerUserId tag.tagId)
    (hsystem : tag.isSystem = true ↔ tag.tagId = SYSTEM_TAG_SLUG)
    (hhidden : tag.isHidden = true → tag.isSystem = true) (hdb' : db'.tags = db.tags ++ [tag]) :
    Named db' := by
  have hmem : ∀ {t}, t ∈ db'.tags ↔ t ∈ db.tags ∨ t = tag := by
    intro t
    rw [hdb', List.mem_append, List.mem_singleton]
  refine ⟨?_, fun t ht => ?_, fun t ht => ?_, fun t ht t' ht' howner hname => ?_, fun t ht => ?_,
    fun t ht => ?_⟩
  · rw [hdb', List.map_append]
    exact h.keys.append (by simp) (by simpa using hfresh.1)
  · rcases hmem.mp ht with ht | rfl
    · exact h.ids t ht
    · exact hfresh.2
  · rcases hmem.mp ht with ht | rfl
    · exact h.slugs t ht
    · exact hslug
  · rcases hmem.mp ht with ht | rfl <;> rcases hmem.mp ht' with ht' | rfl
    · exact h.unique t ht t' ht' howner hname
    · exact absurd hname (hunnamed t ht howner)
    · exact absurd hname.symm (hunnamed t' ht' howner.symm)
    · rfl
  · rcases hmem.mp ht with ht | rfl
    · exact h.system t ht
    · exact hsystem
  · rcases hmem.mp ht with ht | rfl
    · exact h.hidden t ht
    · exact hhidden

lemma Named.update (h : Named db) {id : RowId} {f : TagRegistry → TagRegistry}
    (hf : ∀ tag ∈ db.tags, tag.id = id → (f tag).id = tag.id ∧
      (f tag).ownerUserId = tag.ownerUserId ∧ (f tag).tagId = tag.tagId ∧
        (f tag).isSystem = tag.isSystem ∧ ((f tag).isHidden = true → tag.isSystem = true))
    (hdb' : db'.tags = update db.tags id f) : Named db' := by
  let g (tag : TagRegistry) : TagRegistry := if key tag = id then f tag else tag
  have hg : ∀ tag ∈ db.tags, (g tag).id = tag.id ∧ (g tag).ownerUserId = tag.ownerUserId ∧
      (g tag).tagId = tag.tagId ∧ (g tag).isSystem = tag.isSystem ∧
        ((g tag).isHidden = true → tag.isSystem = true) := by
    intro tag htag
    by_cases hid : key tag = id
    · rw [show g tag = f tag from if_pos hid]
      exact hf tag htag hid
    · rw [show g tag = tag from if_neg hid]
      exact ⟨rfl, rfl, rfl, rfl, h.hidden tag htag⟩
  have hmem : ∀ t ∈ db'.tags, ∃ tag ∈ db.tags, g tag = t := by
    intro t ht
    rw [hdb'] at ht
    exact List.mem_map.mp ht
  refine ⟨?_, ?_, ?_, ?_, ?_, ?_⟩
  · have hkeys : db'.tags.map key = db.tags.map key := by
      rw [hdb', Table.update, List.map_map]
      exact List.map_congr_left fun tag htag => (hg tag htag).1
    rw [hkeys]
    exact h.keys
  · intro t ht
    obtain ⟨tag, htag, rfl⟩ := hmem t ht
    rw [(hg tag htag).1]
    exact h.ids tag htag
  · intro t ht
    obtain ⟨tag, htag, rfl⟩ := hmem t ht
    rw [(hg tag htag).2.2.1]
    exact h.slugs tag htag
  · intro t ht t' ht' howner hslug
    obtain ⟨tag, htag, rfl⟩ := hmem t ht
    obtain ⟨tag', htag', rfl⟩ := hmem t' ht'
    rw [(hg tag htag).2.1, (hg tag' htag').2.1] at howner
    rw [(hg tag htag).2.2.1, (hg tag' htag').2.2.1] at hslug
    rw [h.unique tag htag tag' htag' howner hslug]
  · intro t ht
    obtain ⟨tag, htag, rfl⟩ := hmem t ht
    rw [(hg tag htag).2.2.1, (hg tag htag).2.2.2.1]
    exact h.system tag htag
  · intro t ht hhidden
    obtain ⟨tag, htag, rfl⟩ := hmem t ht
    rw [(hg tag htag).2.2.2.1]
    exact (hg tag htag).2.2.2.2 hhidden

/-! ## Looking a name up -/

def LabelText (label : String) : Prop :=
  strip label = label ∧ label ≠ "" ∧ looksLikeInternalTagRef label = false

lemma find?_name_eq_some_iff (h : Named db) {slug : String} {tag : TagRegistry} :
    (db.tags.find? fun t => t.ownerUserId = owner ∧ t.tagId = slug) = some tag ↔
      tag ∈ db.tags ∧ tag.ownerUserId = owner ∧ tag.tagId = slug := by
  constructor
  · intro hsome
    have hspec := List.find?_some hsome
    rw [decide_eq_true_eq] at hspec
    exact ⟨List.mem_of_find?_eq_some hsome, hspec⟩
  · rintro ⟨htag, howner, hslug⟩
    obtain ⟨found, hfound⟩ : ∃ found, db.tags.find? (fun t => decide
        (t.ownerUserId = owner ∧ t.tagId = slug)) = some found := by
      rw [← Option.isSome_iff_exists, List.find?_isSome]
      exact ⟨tag, htag, decide_eq_true ⟨howner, hslug⟩⟩
    have hspec := List.find?_some hfound
    rw [decide_eq_true_eq] at hspec
    rw [hfound, h.unique found (List.mem_of_find?_eq_some hfound) tag htag
      (hspec.1.trans howner.symm) (hspec.2.trans hslug.symm)]

lemma getTagByAnyRef_eq_some_iff (h : Named db) {label : String} (hlabel : LabelText label)
    {tag : TagRegistry} :
    getTagByAnyRef db label (some owner) = some tag ↔
      tag ∈ db.tags ∧ tag.ownerUserId = owner ∧ tag.tagId = label := by
  obtain ⟨hstrip, hne, hinternal⟩ := hlabel
  have hcanonical : getTagByCanonicalId db label (some owner) = none := by
    have hget : get db.tags label = none := by
      refine get_eq_none_iff.mpr fun hmem => ?_
      obtain ⟨tag, htag, hid⟩ := List.mem_map.mp hmem
      have hid : tag.id = label := hid
      have htext := (h.ids tag htag).2
      rw [hid, hinternal] at htext
      cases htext
    rw [getTagByCanonicalId, hstrip, if_neg hne, hget]
    rfl
  have hfind : getTagByAnyRef db label (some owner) =
      db.tags.find? fun t => t.ownerUserId = owner ∧ t.tagId = label := by
    unfold getTagByAnyRef
    rw [hstrip, if_neg hne, hcanonical]
  rw [hfind]
  exact find?_name_eq_some_iff h

lemma getTagByAnyRef_eq_none_iff (h : Named db) {label : String} (hlabel : LabelText label) :
    getTagByAnyRef db label (some owner) = none ↔ Unnamed db owner label := by
  rw [Option.eq_none_iff_forall_ne_some]
  constructor
  · intro hnone tag htag howner hslug
    exact hnone tag ((getTagByAnyRef_eq_some_iff h hlabel).mpr ⟨htag, howner, hslug⟩)
  · intro hunnamed tag hsome
    obtain ⟨htag, howner, hslug⟩ := (getTagByAnyRef_eq_some_iff h hlabel).mp hsome
    exact hunnamed tag htag howner hslug

lemma getTagByAnyRef_id (h : Named db) {tag : TagRegistry} (htag : tag ∈ db.tags)
    {ownerUserId : Option RowId} (howner : ∀ owner ∈ ownerUserId, tag.ownerUserId = owner) :
    getTagByAnyRef db tag.id ownerUserId = some tag := by
  have hstrip := (h.ids tag htag).1
  have hne := ne_empty_of_idText (h.ids tag htag)
  have hscope : (ownerUserId.all fun owner => decide (tag.ownerUserId = owner)) = true := by
    rw [Option.all_eq_true]
    exact fun owner ho => decide_eq_true (howner owner ho)
  have hget : get db.tags tag.id = some tag := get_of_mem h.keys htag
  have hcanonical : getTagByCanonicalId db tag.id ownerUserId = some tag := by
    rw [getTagByCanonicalId, hstrip, if_neg hne, hget, Option.filter_some, if_pos hscope]
  unfold getTagByAnyRef
  rw [hstrip, if_neg hne, hcanonical]

lemma shouldExposeTagLabel_of_named (h : Named db) {tag : TagRegistry} (htag : tag ∈ db.tags) :
    shouldExposeTagLabel tag = true := by
  cases hhidden : tag.isHidden with
  | false => simp [shouldExposeTagLabel, hhidden]
  | true =>
    have hsystem := h.hidden tag htag hhidden
    have hslug := (h.system tag htag).mp hsystem
    have hstrip : strip tag.tagId = SYSTEM_TAG_SLUG := (h.slugs tag htag).1.trans hslug
    simp [shouldExposeTagLabel, hsystem, hstrip]

/-! ## What a call keeps -/

lemma createTag_eq_ok {userId : RowId} {payload : TagCreate} {tag : TagRegistry}
    (h : createTag db userId payload newTagId = .ok (db', tag)) :
    strip payload.tagId ≠ "" ∧ strip payload.tagId ≠ SYSTEM_TAG_SLUG ∧
      Unnamed db userId (strip payload.tagId) ∧
        db'.tags = db.tags ++ [payload.toTag userId newTagId] := by
  unfold createTag at h
  dsimp only at h
  by_cases hblank : strip payload.tagId = ""
  · rw [if_pos hblank] at h
    cases h
  · rw [if_neg hblank] at h
    by_cases hreserved : strip payload.tagId = "default"
    · rw [if_pos hreserved] at h
      cases h
    · rw [if_neg hreserved] at h
      cases hvisibility : requireValidVisibility payload.visibility with
      | error e =>
        rw [hvisibility] at h
        cases h
      | ok visibility =>
        rw [hvisibility] at h
        dsimp only at h
        split at h
        · cases h
        · next hexists =>
          cases h
          refine ⟨hblank, hreserved, fun tag htag howner hslug => ?_, rfl⟩
          exact hexists (List.any_eq_true.mpr ⟨tag, htag, decide_eq_true ⟨howner, hslug⟩⟩)

lemma updateTag_eq_ok {userId : RowId} {tagRef : String} {payload : TagUpdate}
    {tag : TagRegistry} (h : updateTag db userId tagRef payload = .ok (db', tag)) :
    ∃ found, isSystemTag found = false ∧ db'.tags = update db.tags found.id payload.applyTo := by
  unfold updateTag at h
  cases hfound : requireCanonicalTag db tagRef (some userId) with
  | error e =>
    rw [hfound] at h
    cases h
  | ok found =>
    rw [hfound] at h
    dsimp only at h
    cases hsystem : isSystemTag found with
    | true =>
      rw [hsystem, if_pos rfl] at h
      cases h
    | false =>
      rw [hsystem, if_neg Bool.false_ne_true] at h
      split at h
      · cases h
      · split at h
        · cases h
        · cases h
          exact ⟨found, hsystem, rfl⟩

lemma named_createTag {userId : RowId} {payload : TagCreate} (h : Named db)
    (hfresh : Fresh db newTagId) : Named (written db (createTag db userId payload newTagId)) := by
  cases hresult : createTag db userId payload newTagId with
  | error e => exact h
  | ok r =>
    obtain ⟨db', tag⟩ := r
    obtain ⟨hblank, hreserved, hunnamed, htags⟩ := createTag_eq_ok hresult
    have hslug : strip (payload.toTag userId newTagId).tagId =
        (payload.toTag userId newTagId).tagId := strip_strip _
    exact h.append hfresh ⟨hslug, hblank⟩ hunnamed
      ⟨fun hsystem => absurd hsystem Bool.false_ne_true, fun hslug => absurd hslug hreserved⟩
      (fun hhidden => absurd hhidden Bool.false_ne_true) htags

lemma named_updateTag {userId : RowId} {tagRef : String} {payload : TagUpdate} (h : Named db) :
    Named (written db (updateTag db userId tagRef payload)) := by
  cases hresult : updateTag db userId tagRef payload with
  | error e => exact h
  | ok r =>
    obtain ⟨db', tag⟩ := r
    obtain ⟨found, -, htags⟩ := updateTag_eq_ok hresult
    exact h.update (f := payload.applyTo)
      (fun tag htag _ => ⟨rfl, rfl, rfl, rfl, h.hidden tag htag⟩) htags

lemma named_ensureUserSystemTag {userId : RowId} (h : Named db) (hfresh : Fresh db newTagId) :
    Named (ensureUserSystemTag db userId newTagId).1 := by
  unfold ensureUserSystemTag
  cases hfind : findSystemTag db userId with
  | some found =>
    have hspec := List.find?_some hfind
    rw [decide_eq_true_eq] at hspec
    have hfound := List.mem_of_find?_eq_some hfind
    refine h.update (fun tag htag hid => ?_) rfl
    -- the keys are different, so it is the row that was found
    obtain rfl : tag = found := List.inj_on_of_nodup_map h.keys htag hfound hid
    exact ⟨rfl, rfl, ((h.system tag htag).mp hspec.2).symm, rfl, fun _ => hspec.2⟩
  | none =>
    have hslug : strip SYSTEM_TAG_SLUG = SYSTEM_TAG_SLUG ∧ SYSTEM_TAG_SLUG ≠ "" := by decide
    refine h.append ?_ ?_ ?_ ?_ ?_ rfl
    · exact hfresh
    · exact hslug
    · intro tag htag howner hslug
      exact List.find?_eq_none.mp hfind tag htag
        (decide_eq_true ⟨howner, (h.system tag htag).mpr hslug⟩)
    · exact ⟨fun _ => rfl, fun _ => rfl⟩
    · exact fun _ => rfl

/-- What a reference of a memory does: it finds a tag, or is dropped because it is a key of none, or
it creates a tag of its name. -/
inductive Turn (db : Db) (owner : RowId) (ref : String) (newTagId : RowId) :
    Db → Option TagRegistry → Prop
  | found {tag : TagRegistry} (h : getTagByAnyRef db ref (some owner) = some tag) :
      Turn db owner ref newTagId db (some tag)
  | dropped (h : looksLikeInternalTagRef ref = true) : Turn db owner ref newTagId db none
  | created {tag : TagRegistry} (hlabel : LabelText ref)
      (hnone : getTagByAnyRef db ref (some owner) = none) (hid : tag.id = newTagId)
      (howner : tag.ownerUserId = owner) (hslug : tag.tagId = ref)
      (hmeta : tag.metaJson = .empty ∨ tag.metaJson = .ofList [("system", .bool true)])
      (hsystem : tag.isSystem = true ↔ ref = SYSTEM_TAG_SLUG)
      (hhidden : tag.isHidden = true → tag.isSystem = true) :
      Turn db owner ref newTagId { db with tags := db.tags ++ [tag] } (some tag)

lemma labelText_default : LabelText SYSTEM_TAG_SLUG := by
  refine ⟨by decide, by decide, ?_⟩
  rw [looksLikeInternalTagRef_eq]
  decide

lemma turn_findOrCreateMemoryTag (h : Named db) {ref : String} (hstrip : strip ref = ref)
    (hne : ref ≠ "") (hnew : newTagId ∉ db.tags.map key) :
    Turn db owner ref newTagId (findOrCreateMemoryTag db owner ref newTagId).1
      (findOrCreateMemoryTag db owner ref newTagId).2 := by
  unfold findOrCreateMemoryTag
  cases hfound : getTagByAnyRef db ref (some owner) with
  | some tag => exact .found hfound
  | none =>
    dsimp only
    by_cases hdefault : ref = SYSTEM_TAG_SLUG
    · rw [if_pos hdefault]
      have hunnamed : Unnamed db owner SYSTEM_TAG_SLUG := by
        rw [← getTagByAnyRef_eq_none_iff h labelText_default, ← hdefault]
        exact hfound
      have hfind : findSystemTag db owner = none := by
        refine List.find?_eq_none.mpr fun tag htag hspec => ?_
        obtain ⟨howner, hsystem⟩ := of_decide_eq_true hspec
        exact hunnamed tag htag howner ((h.system tag htag).mp hsystem)
      unfold ensureUserSystemTag
      rw [hfind]
      dsimp only
      have hlast : get db.tags newTagId = none := get_eq_none_iff.mpr hnew
      rw [get_append, hlast, Option.none_or, Table.get, List.find?_cons_of_pos (by simp)]
      subst hdefault
      exact .created labelText_default hfound rfl rfl rfl (.inr rfl)
        ⟨fun _ => rfl, fun _ => rfl⟩ fun _ => rfl
    · rw [if_neg hdefault]
      cases hinternal : looksLikeInternalTagRef ref with
      | true => exact .dropped hinternal
      | false =>
        exact .created ⟨hstrip, hne, hinternal⟩ hfound rfl rfl rfl (.inl rfl)
          (by simp [hdefault]) (by simp)

lemma Turn.named {ref : String} {found : Option TagRegistry}
    (hturn : Turn db owner ref newTagId db' found) (h : Named db) (hfresh : Fresh db newTagId) :
    Named db' := by
  cases hturn with
  | found => exact h
  | dropped => exact h
  | created hlabel hnone hid howner hslug hmeta hsystem hhidden =>
    subst hslug howner
    exact h.append (hid ▸ hfresh) ⟨hlabel.1, hlabel.2.1⟩
      ((getTagByAnyRef_eq_none_iff h hlabel).mp hnone) hsystem hhidden rfl

lemma Turn.keys {ref : String} {found : Option TagRegistry}
    (hturn : Turn db owner ref newTagId db' found) {k : RowId} (hk : k ∈ db'.tags.map key) :
    k ∈ db.tags.map key ∨ k = newTagId := by
  cases hturn with
  | found => exact .inl hk
  | dropped => exact .inl hk
  | created hlabel hnone hid =>
    rw [List.map_append] at hk
    exact (List.mem_append.mp hk).imp_right fun hk => (List.mem_singleton.mp hk).trans hid

lemma FreshDraws.next {draws : ℕ → RowId} {turn n : ℕ} (h : FreshDraws db draws turn n) :
    FreshDraws db draws (turn + 1) n :=
  ⟨fun j hj hn => h.fresh j (Nat.le_of_succ_le hj) hn, h.inj⟩

lemma Turn.fresh {ref : String} {found : Option TagRegistry} {draws : ℕ → RowId} {turn n : ℕ}
    (hturn : Turn db owner ref (draws turn) db' found) (hdraws : FreshDraws db draws turn n)
    (hn : turn < n) : FreshDraws db' draws (turn + 1) n := by
  refine ⟨fun j hj hjn => ?_, hdraws.inj⟩
  obtain ⟨hnew, htext⟩ := hdraws.fresh j (Nat.le_of_succ_le hj) hjn
  refine ⟨fun hk => ?_, htext⟩
  rcases hturn.keys hk with hold | heq
  · exact hnew hold
  · exact absurd (hdraws.inj j turn hjn hn heq) (Nat.ne_of_gt hj)

lemma named_resolveTagLoop {draws : ℕ → RowId} {refs : List String} {turn n : ℕ}
    {resolved : List RowId} (h : Named db) (hdraws : FreshDraws db draws turn n)
    (hn : turn + refs.length ≤ n) :
    Named (resolveTagLoop owner draws turn db resolved refs).1 := by
  induction refs generalizing turn db resolved with
  | nil => exact h
  | cons rawTag refs ih =>
    rw [List.length_cons] at hn
    have hnext : turn + 1 + refs.length ≤ n := by omega
    have hlt : turn < n := by omega
    unfold resolveTagLoop
    dsimp only
    split
    · exact ih h hdraws.next hnext
    · next hne =>
      have hfresh := hdraws.fresh turn le_rfl hlt
      have hturn := @turn_findOrCreateMemoryTag db owner _ h _ (strip_strip rawTag) hne
        hfresh.1
      have hnamed := hturn.named h hfresh
      have hdraws' := hturn.fresh hdraws hlt
      split
      · exact ih hnamed hdraws' hnext
      · split
        · exact ih hnamed hdraws' hnext
        · exact ih hnamed hdraws' hnext

lemma named_step {call : Call} (h : Named db) (hdraws : call.Draws db)
    (hs : step db call = some db') : Named db' := by
  cases call with
  | createTag userId payload newTagId =>
    cases hs
    exact named_createTag h hdraws
  | updateTag userId tagRef payload =>
    cases hs
    exact named_updateTag h
  | ensureUserSystemTag userId newTagId =>
    cases hs
    exact named_ensureUserSystemTag h hdraws
  | resolveOrCreateMemoryTags ownerUserId tagRefs draws =>
    cases hs
    unfold resolveOrCreateMemoryTags
    split
    · exact h
    · exact named_resolveTagLoop h hdraws (Nat.zero_add _).le

/-- A registry that these calls reach from an empty one. -/
theorem named_of_run {calls : List Call} (hempty : db.tags = [])
    (hdraws : StepsMeet step (fun db call => call.Draws db) db calls)
    (hrun : run step db calls = some db') : Named db' :=
  invariant_of_stepsMeet Named (fun _ _ _ h hdraws hs => named_step h hdraws hs) (named_nil hempty)
    hdraws hrun

def firstTag : RowId := "0b7f0000-0000-4000-8000-000000000001"

def firstTagDb : Db := (ensureUserSystemTag {} "mia" firstTag).1

end

end TagNames

end CocoonSit
