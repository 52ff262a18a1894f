import CocoonSit.Lib.Collect
import CocoonSit.Tags.Services

/-!
# What the tag tables look like

Tags, bindings and session states refer to each other by plain texts.  `TagRows` and `StateRow` say
what the rows are like in every reachable database; the lemmas say what the tag policy's helpers
add to the tables and which tags they make active.  A helper adds at most the owner's default tag
and its binding.
-/

namespace CocoonSit

open Table

/-- There is a tag with this key, and it is this user's. -/
def HasTag (db : Db) (id owner : RowId) : Prop :=
  ∃ t ∈ db.tags, t.id = id ∧ t.ownerUserId = owner

/-- It is the user's default tag. -/
def HasDefault (db : Db) (id owner : RowId) : Prop :=
  ∃ t ∈ db.tags, t.id = id ∧ t.ownerUserId = owner ∧ t.isSystem

/-- The tag is bound to the target. -/
def Bound (db : Db) (target : Target) (id : RowId) : Prop :=
  ∃ b ∈ db.tagBindings, b.target = target ∧ b.tagId = id

/-- The user owns the target. -/
def Owns (db : Db) (owner : RowId) (target : Target) : Prop :=
  resolveTagOwnerUserIdForTarget db target = some owner

instance (db : Db) (id owner : RowId) : Decidable (HasTag db id owner) :=
  inferInstanceAs (Decidable (∃ t ∈ db.tags, _))

instance (db : Db) (id owner : RowId) : Decidable (HasDefault db id owner) :=
  inferInstanceAs (Decidable (∃ t ∈ db.tags, _))

instance (db : Db) (target : Target) (id : RowId) : Decidable (Bound db target id) :=
  inferInstanceAs (Decidable (∃ b ∈ db.tagBindings, _))

instance (db : Db) (owner : RowId) (target : Target) : Decidable (Owns db owner target) :=
  inferInstanceAs (Decidable (_ = _))

/-- Keys are distinct and survive `strip`, a user has one system tag, and a target's bindings name
tags of its owner. -/
structure TagRows (db : Db) : Prop where
  keys : (db.tags.map key).Nodup
  clean : ∀ t ∈ db.tags, strip t.id = t.id ∧ t.id ≠ ""
  system : ∀ {d d' owner}, HasDefault db d owner → HasDefault db d' owner → d = d'
  bindings : ∀ {target id}, Bound db target id → ∃ owner, Owns db owner target ∧ HasTag db id owner

/-- A session state is an owned target's, whose default tag is bound to it; its active tags are
distinct, and its score is in range. -/
structure StateRow (db : Db) (s : SessionState) : Prop where
  defaultBound : ∃ owner d, Owns db owner s.target ∧ HasDefault db d owner ∧ Bound db s.target d
  nodup : s.activeTagsJson.Nodup
  score : MIN_RELATION_SCORE ≤ s.relationScore ∧ s.relationScore ≤ MAX_RELATION_SCORE

def StateRows (db : Db) : Prop := ∀ s ∈ db.sessionStates, StateRow db s

/-- A key that a new tag may draw. -/
def FreshTag (db : Db) (id : RowId) : Prop := id ∉ db.tags.map key ∧ strip id = id ∧ id ≠ ""

instance (db : Db) (id : RowId) : Decidable (FreshTag db id) :=
  inferInstanceAs (Decidable (_ ∧ _ ∧ _))

variable {db db' : Db} {target : Target} {owner newTagId : RowId} {now : Timestamp}

lemma HasDefault.hasTag {id : RowId} (h : HasDefault db id owner) : HasTag db id owner := by
  obtain ⟨t, ht, hid, ho, -⟩ := h
  exact ⟨t, ht, hid, ho⟩

lemma TagRows.owner_unique (hrows : TagRows db) {id o o' : RowId} (h : HasTag db id o)
    (h' : HasTag db id o') : o = o' := by
  obtain ⟨t, ht, hid, rfl⟩ := h
  obtain ⟨t', ht', hid', rfl⟩ := h'
  rw [List.inj_on_of_nodup_map hrows.keys ht ht' (hid.trans hid'.symm)]

lemma Owns.unique {o o' : RowId} (h : Owns db o target) (h' : Owns db o' target) : o = o' :=
  Option.some.inj (h.symm.trans h')

lemma HasTag.clean (hrows : TagRows db) {id o : RowId} (h : HasTag db id o) :
    strip id = id ∧ id ≠ "" := by
  obtain ⟨t, ht, rfl, -⟩ := h
  exact hrows.clean t ht

/-! ## Tables that grow -/

/-- Owners are the same, and no tag and no binding is taken away. -/
structure TagsGrow (db db' : Db) : Prop where
  owns : ∀ {o t}, Owns db' o t ↔ Owns db o t
  hasTag : ∀ {id o}, HasTag db id o → HasTag db' id o
  hasDefault : ∀ {id o}, HasDefault db id o → HasDefault db' id o
  bound : ∀ {t id}, Bound db t id → Bound db' t id

lemma TagsGrow.refl (db : Db) : TagsGrow db db := ⟨Iff.rfl, id, id, id⟩

lemma TagsGrow.trans {db₁ db₂ : Db} (h₁ : TagsGrow db db₁) (h₂ : TagsGrow db₁ db₂) :
    TagsGrow db db₂ :=
  ⟨h₂.owns.trans h₁.owns, fun h => h₂.hasTag (h₁.hasTag h),
    fun h => h₂.hasDefault (h₁.hasDefault h), fun h => h₂.bound (h₁.bound h)⟩

lemma StateRow.mono (h : TagsGrow db db') {s : SessionState} (hs : StateRow db s) :
    StateRow db' s := by
  obtain ⟨o, d, ho, hd, hb⟩ := hs.defaultBound
  exact ⟨⟨o, d, h.owns.mpr ho, h.hasDefault hd, h.bound hb⟩, hs.nodup, hs.score⟩

lemma owns_congr (hc : db'.cocoons = db.cocoons) (hr : db'.rooms = db.rooms) {o : RowId}
    {t : Target} : Owns db' o t ↔ Owns db o t := by
  cases t <;> simp only [Owns, resolveTagOwnerUserIdForTarget, hc, hr]

lemma TagsOnly.owns (h : TagsOnly db db') {o : RowId} {t : Target} : Owns db' o t ↔ Owns db o t :=
  owns_congr h.cocoons h.rooms

/-- `db'` has the default tag `d` of the owner besides what `db` has. -/
structure WithDefault (db db' : Db) (owner d : RowId) : Prop where
  rows : TagRows db'
  hasTag : ∀ {id o}, HasTag db' id o ↔ HasTag db id o ∨ (id = d ∧ o = owner)
  hasDefault : ∀ {id o}, HasDefault db' id o ↔ HasDefault db id o ∨ (id = d ∧ o = owner)
  owns : ∀ {o t}, Owns db' o t ↔ Owns db o t

lemma WithDefault.default {d : RowId} (h : WithDefault db db' owner d) : HasDefault db' d owner :=
  h.hasDefault.mpr (.inr ⟨rfl, rfl⟩)

lemma WithDefault.trans {db₁ db₂ : Db} {d : RowId} (h₁ : WithDefault db db₁ owner d)
    (h₂ : WithDefault db₁ db₂ owner d) : WithDefault db db₂ owner d := by
  refine ⟨h₂.rows, ?_, ?_, h₂.owns.trans h₁.owns⟩
  · intro id o
    rw [h₂.hasTag, h₁.hasTag, or_assoc, or_self]
  · intro id o
    rw [h₂.hasDefault, h₁.hasDefault, or_assoc, or_self]

lemma TagRows.congr (hrows : TagRows db) (ht : db'.tags = db.tags)
    (hb : db'.tagBindings = db.tagBindings) (howns : ∀ {o t}, Owns db' o t ↔ Owns db o t) :
    TagRows db' := by
  refine ⟨ht ▸ hrows.keys, ht ▸ hrows.clean, fun {d d' o} => ?_, fun {t id} => ?_⟩
  · rw [HasDefault, HasDefault, ht]
    exact hrows.system
  · rw [Bound, hb]
    simp only [HasTag, ht, howns]
    exact hrows.bindings

lemma WithDefault.congr {db₁ : Db} {d : RowId} (h : WithDefault db db₁ owner d)
    (ht : db'.tags = db₁.tags) (hb : db'.tagBindings = db₁.tagBindings)
    (howns : ∀ {o t}, Owns db' o t ↔ Owns db₁ o t) : WithDefault db db' owner d := by
  refine ⟨h.rows.congr ht hb howns, ?_, ?_, howns.trans h.owns⟩
  · intro id o
    rw [← h.hasTag, HasTag, HasTag, ht]
  · intro id o
    rw [← h.hasDefault, HasDefault, HasDefault, ht]

lemma hasTag_map {f : TagRegistry → TagRegistry} (hid : ∀ t, (f t).id = t.id)
    (ho : ∀ t, (f t).ownerUserId = t.ownerUserId) (h : db'.tags = db.tags.map f) {id o : RowId} :
    HasTag db' id o ↔ HasTag db id o := by
  simp [HasTag, h, hid, ho]

lemma hasDefault_map {f : TagRegistry → TagRegistry} (hid : ∀ t, (f t).id = t.id)
    (ho : ∀ t, (f t).ownerUserId = t.ownerUserId) (hs : ∀ t, (f t).isSystem = t.isSystem)
    (h : db'.tags = db.tags.map f) {id o : RowId} :
    HasDefault db' id o ↔ HasDefault db id o := by
  simp [HasDefault, h, hid, ho, hs]

lemma hasTag_append {tag : TagRegistry} (h : db'.tags = db.tags ++ [tag]) {id o : RowId} :
    HasTag db' id o ↔ HasTag db id o ∨ (id = tag.id ∧ o = tag.ownerUserId) := by
  simp only [HasTag, h, List.mem_append, List.mem_singleton, or_and_right, exists_or,
    exists_eq_left]
  rw [eq_comm (a := tag.id), eq_comm (a := tag.ownerUserId)]

lemma hasDefault_append {tag : TagRegistry} (h : db'.tags = db.tags ++ [tag]) {id o : RowId} :
    HasDefault db' id o ↔
      HasDefault db id o ∨ (id = tag.id ∧ o = tag.ownerUserId ∧ tag.isSystem) := by
  simp only [HasDefault, h, List.mem_append, List.mem_singleton, or_and_right, exists_or,
    exists_eq_left]
  rw [eq_comm (a := tag.id), eq_comm (a := tag.ownerUserId)]

lemma TagRows.append (hrows : TagRows db) {tag : TagRegistry} (hfresh : FreshTag db tag.id)
    (hsys : tag.isSystem → ∀ d, ¬ HasDefault db d tag.ownerUserId)
    (h : db'.tags = db.tags ++ [tag]) (hb : db'.tagBindings = db.tagBindings)
    (howns : ∀ {o t}, Owns db' o t ↔ Owns db o t) : TagRows db' := by
  refine ⟨?_, fun t ht => ?_, fun {d d' o} hd hd' => ?_, fun {t id} hbound => ?_⟩
  · rw [h, List.map_append]
    exact hrows.keys.append (by simp) (by simpa using hfresh.1)
  · rw [h] at ht
    rcases List.mem_append.mp ht with ht | ht
    · exact hrows.clean t ht
    · rw [List.mem_singleton.mp ht]
      exact hfresh.2
  · rw [hasDefault_append h] at hd hd'
    rcases hd with hd | ⟨rfl, rfl, hs⟩ <;> rcases hd' with hd' | ⟨rfl, ho, hs'⟩
    · exact hrows.system hd hd'
    · exact absurd (ho ▸ hd) (hsys hs' d)
    · exact absurd hd' (hsys hs d')
    · rfl
  · have hold : Bound db t id := by
      rwa [Bound, hb] at hbound
    obtain ⟨o, ho, htag⟩ := hrows.bindings hold
    exact ⟨o, howns.mpr ho, (hasTag_append h).mpr (.inl htag)⟩

lemma TagRows.map (hrows : TagRows db) {f : TagRegistry → TagRegistry} (hid : ∀ t, (f t).id = t.id)
    (ho : ∀ t, (f t).ownerUserId = t.ownerUserId) (hs : ∀ t, (f t).isSystem = t.isSystem)
    (h : db'.tags = db.tags.map f) (hb : db'.tagBindings = db.tagBindings)
    (howns : ∀ {o t}, Owns db' o t ↔ Owns db o t) : TagRows db' := by
  refine ⟨?_, fun t ht => ?_, fun {d d' o} hd hd' => ?_, fun {t id} hbound => ?_⟩
  · have hkeys : (db.tags.map f).map key = db.tags.map key := by
      rw [List.map_map]
      exact List.map_congr_left fun t _ => hid t
    rw [h, hkeys]
    exact hrows.keys
  · rw [h] at ht
    obtain ⟨t', ht', rfl⟩ := List.mem_map.mp ht
    rw [hid]
    exact hrows.clean t' ht'
  · rw [hasDefault_map hid ho hs h] at hd hd'
    exact hrows.system hd hd'
  · have hold : Bound db t id := by
      rwa [Bound, hb] at hbound
    obtain ⟨o, howner, htag⟩ := hrows.bindings hold
    exact ⟨o, howns.mpr howner, (hasTag_map hid ho h).mpr htag⟩

/-! ## The default tag -/

lemma findSystemTag_eq_some {t : TagRegistry} (h : findSystemTag db owner = some t) :
    HasDefault db t.id owner := by
  have hp := List.find?_some h
  simp only [Bool.decide_and, Bool.and_eq_true, decide_eq_true_eq] at hp
  exact ⟨t, List.mem_of_find?_eq_some h, rfl, hp⟩

lemma findSystemTag_eq_none (h : findSystemTag db owner = none) (d : RowId) :
    ¬ HasDefault db d owner := by
  rintro ⟨t, ht, -, ho, hs⟩
  have hp := List.find?_eq_none.mp h t ht
  simp [ho, hs] at hp

@[simp] lemma tagBindings_ensureUserSystemTag (userId : RowId) :
    (ensureUserSystemTag db userId newTagId).1.tagBindings = db.tagBindings := by
  unfold ensureUserSystemTag
  split <;> rfl

@[simp] lemma tagBindings_canonicalizeTagRefs (refs : List String) (includeDefault : Bool)
    (ownerUserId : Option RowId) :
    (canonicalizeTagRefs db refs includeDefault ownerUserId newTagId).1.tagBindings =
      db.tagBindings := by
  unfold canonicalizeTagRefs
  split
  · exact tagBindings_ensureUserSystemTag _
  · rfl

lemma ensureUserSystemTag_spec (hrows : TagRows db)
    (hnew : (∃ d, HasDefault db d owner) ∨ FreshTag db newTagId) :
    WithDefault db (ensureUserSystemTag db owner newTagId).1 owner
      (ensureUserSystemTag db owner newTagId).2 := by
  have howns : ∀ {o t}, Owns (ensureUserSystemTag db owner newTagId).1 o t ↔ Owns db o t :=
    (ensureUserSystemTag_frame db owner newTagId).owns
  unfold ensureUserSystemTag at howns ⊢
  cases hfind : findSystemTag db owner with
  | some tag =>
    simp only [hfind] at howns
    have hdef := findSystemTag_eq_some hfind
    have hsame : ∀ t : TagRegistry, let t' := if key t = tag.id then refreshSystemTag t else t
        t'.id = t.id ∧ t'.ownerUserId = t.ownerUserId ∧ t'.isSystem = t.isSystem := by
      intro t
      dsimp only
      split <;> exact ⟨rfl, rfl, rfl⟩
    have hid := fun t => (hsame t).1
    have ho := fun t => (hsame t).2.1
    have hs := fun t => (hsame t).2.2
    refine ⟨hrows.map hid ho hs rfl rfl howns, ?_, ?_, howns⟩
    · intro id o
      rw [hasTag_map hid ho rfl]
      exact ⟨.inl, fun h => h.elim (fun h => h) fun h => by rw [h.1, h.2]; exact hdef.hasTag⟩
    · intro id o
      rw [hasDefault_map hid ho hs rfl]
      exact ⟨.inl, fun h => h.elim (fun h => h) fun h => by rw [h.1, h.2]; exact hdef⟩
  | none =>
    simp only [hfind] at howns
    have hnone := findSystemTag_eq_none hfind
    have hfresh : FreshTag db newTagId := hnew.resolve_left (not_exists.mpr hnone)
    refine ⟨hrows.append hfresh (fun _ => hnone) rfl rfl howns, ?_, ?_, howns⟩
    · intro id o
      rw [hasTag_append rfl]
    · intro id o
      rw [hasDefault_append rfl]
      simp

/-! ## References -/

/-- What a reference resolves to. -/
def resolvedRef (db : Db) (ownerUserId : Option RowId) (raw : String) : Option RowId :=
  ((getTagByAnyRef db raw ownerUserId).filter fun tag =>
    ownerUserId.all fun owner => tag.ownerUserId = owner).map TagRegistry.id

lemma resolveTagRefs_eq_collect (ownerUserId : Option RowId) (refs : List String) :
    resolveTagRefs db ownerUserId refs = Collect.collect (resolvedRef db ownerUserId) refs := by
  unfold resolveTagRefs Collect.collect
  congr 1
  funext kept raw
  unfold Collect.collectStep resolvedRef
  cases getTagByAnyRef db raw ownerUserId with
  | none => rfl
  | some tag =>
    cases ownerUserId with
    | none => rfl
    | some o => by_cases ho : tag.ownerUserId = o <;> simp [Option.filter, ho]

lemma getTagByCanonicalId_spec {tagId : String} {ownerUserId : Option RowId} {tag : TagRegistry}
    (h : getTagByCanonicalId db tagId ownerUserId = some tag) :
    tag ∈ db.tags ∧ ∀ owner ∈ ownerUserId, tag.ownerUserId = owner := by
  unfold getTagByCanonicalId at h
  generalize strip tagId = normalized at h
  by_cases hblank : normalized = ""
  · simp [hblank] at h
  · simp only [hblank, if_false] at h
    obtain ⟨hget, hscope⟩ := Option.filter_eq_some_iff.mp h
    refine ⟨mem_of_get hget, fun owner ho => ?_⟩
    rw [Option.mem_def.mp ho] at hscope
    simpa using hscope

lemma getTagByAnyRef_spec {raw : String} {ownerUserId : Option RowId} {tag : TagRegistry}
    (h : getTagByAnyRef db raw ownerUserId = some tag) :
    tag ∈ db.tags ∧ ∀ owner ∈ ownerUserId, tag.ownerUserId = owner := by
  unfold getTagByAnyRef at h
  generalize strip raw = normalized at h
  by_cases hblank : normalized = ""
  · simp [hblank] at h
  · simp only [hblank, if_false] at h
    cases hcanon : getTagByCanonicalId db normalized ownerUserId with
    | some tag' =>
      rw [hcanon] at h
      cases h
      exact getTagByCanonicalId_spec hcanon
    | none =>
      rw [hcanon] at h
      cases ownerUserId with
      | some owner =>
        have hp := List.find?_some h
        simp only [Bool.decide_and, Bool.and_eq_true, decide_eq_true_eq] at hp
        refine ⟨List.mem_of_find?_eq_some h, fun owner' ho => ?_⟩
        cases ho
        exact hp.1
      | none => cases h

lemma hasTag_of_resolved {ownerUserId : Option RowId} {raw : String} {id : RowId}
    (h : resolvedRef db ownerUserId raw = some id) :
    ∃ o, HasTag db id o ∧ ∀ owner ∈ ownerUserId, o = owner := by
  obtain ⟨tag, htag, rfl⟩ := Option.map_eq_some_iff.mp h
  obtain ⟨hmem, hscope⟩ := getTagByAnyRef_spec (Option.filter_eq_some_iff.mp htag).1
  exact ⟨tag.ownerUserId, ⟨tag, hmem, rfl, rfl⟩, hscope⟩

lemma resolvedRef_of_hasTag (hrows : TagRows db) {ownerUserId : Option RowId} {id o : RowId}
    (h : HasTag db id o) (ho : ∀ owner ∈ ownerUserId, o = owner) :
    resolvedRef db ownerUserId id = some id := by
  obtain ⟨hstrip, hne⟩ := h.clean hrows
  obtain ⟨t, ht, rfl, rfl⟩ := h
  have hscope : (ownerUserId.all fun owner => decide (t.ownerUserId = owner)) = true := by
    rw [Option.all_eq_true]
    exact fun owner howner => by simpa using ho owner howner
  have hget : get db.tags t.id = some t := get_of_mem hrows.keys ht
  have hcanon : getTagByCanonicalId db t.id ownerUserId = some t := by
    unfold getTagByCanonicalId
    rw [hstrip, if_neg hne, hget, Option.filter_some, if_pos hscope]
  have hany : getTagByAnyRef db t.id ownerUserId = some t := by
    unfold getTagByAnyRef
    rw [hstrip, if_neg hne, hcanon]
  rw [resolvedRef, hany, Option.filter_some, if_pos hscope, Option.map_some]

lemma hasTag_of_mem_resolveTagRefs {ownerUserId : Option RowId} {refs : List String} {id : RowId}
    (h : id ∈ resolveTagRefs db ownerUserId refs) :
    ∃ o, HasTag db id o ∧ ∀ owner ∈ ownerUserId, o = owner := by
  rw [resolveTagRefs_eq_collect] at h
  obtain ⟨raw, -, hraw⟩ := Collect.mem_collect.mp h
  exact hasTag_of_resolved hraw

lemma mem_resolveTagRefs (hrows : TagRows db) {ownerUserId : Option RowId} {refs : List String}
    (hrefs : ∀ r ∈ refs, ∃ o, HasTag db r o ∧ ∀ owner ∈ ownerUserId, o = owner) {id : RowId} :
    id ∈ resolveTagRefs db ownerUserId refs ↔ id ∈ refs := by
  have hself : ∀ r ∈ refs, resolvedRef db ownerUserId r = some r := by
    intro r hr
    obtain ⟨o, ho, hscope⟩ := hrefs r hr
    exact resolvedRef_of_hasTag hrows ho hscope
  rw [resolveTagRefs_eq_collect, Collect.mem_collect]
  constructor
  · rintro ⟨r, hr, hid⟩
    rw [hself r hr] at hid
    cases hid
    exact hr
  · intro hid
    exact ⟨id, hid, hself id hid⟩

lemma nodup_resolveTagRefs (ownerUserId : Option RowId) (refs : List String) :
    (resolveTagRefs db ownerUserId refs).Nodup := by
  rw [resolveTagRefs_eq_collect]
  exact Collect.nodup_collect _ _

lemma resolveTagRefs_congr (h : db'.tags = db.tags) (ownerUserId : Option RowId)
    (refs : List String) :
    resolveTagRefs db' ownerUserId refs = resolveTagRefs db ownerUserId refs := by
  have hcanon : ∀ tagId, getTagByCanonicalId db' tagId ownerUserId =
      getTagByCanonicalId db tagId ownerUserId := by
    intro tagId
    unfold getTagByCanonicalId
    generalize strip tagId = normalized
    dsimp only
    rw [h]
  have hany : ∀ raw, getTagByAnyRef db' raw ownerUserId = getTagByAnyRef db raw ownerUserId := by
    intro raw
    unfold getTagByAnyRef
    generalize strip raw = normalized
    dsimp only
    rw [hcanon, h]
  have hres : resolvedRef db' ownerUserId = resolvedRef db ownerUserId := by
    funext raw
    unfold resolvedRef
    rw [hany]
  rw [resolveTagRefs_eq_collect, resolveTagRefs_eq_collect, hres]

/-- What canonicalising for an owner makes active. -/
structure Canonical (db db' : Db) (refs : List String) (owner d : RowId) (active : List RowId) :
    Prop extends WithDefault db db' owner d where
  nodup : active.Nodup
  mem_default : d ∈ active
  owned : ∀ x ∈ active, HasTag db' x owner
  exact_of_owned : (∀ x ∈ refs, HasTag db x owner) → ∀ x, x ∈ active ↔ x = d ∨ x ∈ refs

lemma canonicalizeTagRefs_spec (newTagId : RowId) (hrows : TagRows db)
    (hnew : (∃ d, HasDefault db d owner) ∨ FreshTag db newTagId) (refs : List String) :
    ∃ d, Canonical db (canonicalizeTagRefs db refs true (some owner) newTagId).1 refs owner d
      (canonicalizeTagRefs db refs true (some owner) newTagId).2 := by
  have hdef := ensureUserSystemTag_spec hrows hnew
  have hres : ∀ x ∈ resolveTagRefs db (some owner) refs,
      ∃ o, HasTag db x o ∧ ∀ owner' ∈ some owner, o = owner' :=
    fun x => hasTag_of_mem_resolveTagRefs
  simp only [canonicalizeTagRefs]
  generalize ensureUserSystemTag db owner newTagId = r at hdef ⊢
  refine ⟨r.2, hdef, ?_, List.mem_cons_self, fun x hx => ?_, fun hrefs x => ?_⟩
  · refine List.nodup_cons.mpr ⟨by simp, (nodup_resolveTagRefs _ _).filter _⟩
  · rcases List.mem_cons.mp hx with rfl | hx
    · exact hdef.default.hasTag
    · obtain ⟨o, ho, hscope⟩ := hres x (List.mem_filter.mp hx).1
      rw [← hscope owner rfl]
      exact hdef.hasTag.mpr (.inl ho)
  · have hmem : x ∈ resolveTagRefs db (some owner) refs ↔ x ∈ refs :=
      mem_resolveTagRefs hrows fun r hr => ⟨owner, hrefs r hr, fun _ h => Option.some.inj h⟩
    rw [List.mem_cons, List.mem_filter, hmem]
    by_cases hx : x = r.2 <;> simp [hx]

/-! ## Lookups -/

lemma mem_boundTagIds {id : RowId} : id ∈ boundTagIds db target ↔ Bound db target id := by
  simp [boundTagIds, Bound, and_assoc]

/-- `db'` has the default tag of the target's owner, bound to the target, besides what `db` has. -/
structure WithBinding (db db' : Db) (target : Target) (owner d : RowId) : Prop
    extends WithDefault db db' owner d where
  bound : ∀ {t id}, Bound db' t id ↔ Bound db t id ∨ (t = target ∧ id = d)

lemma WithBinding.grow {d : RowId} (h : WithBinding db db' target owner d) : TagsGrow db db' :=
  ⟨h.owns, fun hold => h.hasTag.mpr (.inl hold), fun hold => h.hasDefault.mpr (.inl hold),
    fun hold => h.bound.mpr (.inl hold)⟩

lemma ensureTargetDefaultBinding_spec (newTagId : RowId) (now : Timestamp) (hrows : TagRows db)
    (howner : Owns db owner target)
    (hnew : (∃ d, HasDefault db d owner) ∨ FreshTag db newTagId) :
    WithBinding db (ensureTargetDefaultBinding db target newTagId now).1 target owner
      (ensureTargetDefaultBinding db target newTagId now).2 := by
  have hdef := ensureUserSystemTag_spec hrows hnew
  have hbind : (ensureUserSystemTag db owner newTagId).1.tagBindings = db.tagBindings :=
    tagBindings_ensureUserSystemTag owner
  have hresolve : resolveTagOwnerUserIdForTarget db target = some owner := howner
  simp only [ensureTargetDefaultBinding, hresolve]
  generalize ensureUserSystemTag db owner newTagId = r at hdef hbind ⊢
  have hsame : ∀ {t id}, Bound r.1 t id ↔ Bound db t id := by
    intro t id
    rw [Bound, hbind, Bound]
  split
  · next hany =>
    refine ⟨hdef, fun {t id} => ?_⟩
    rw [hsame]
    refine ⟨.inl, fun h => h.elim (fun h => h) ?_⟩
    rintro ⟨rfl, rfl⟩
    simpa [Bound, hbind] using hany
  · have hbound : ∀ {t id}, Bound { r.1 with tagBindings := r.1.tagBindings ++
          [{ target := target, tagId := r.2, createdAt := now }] } t id ↔
        Bound db t id ∨ (t = target ∧ id = r.2) := by
      intro t id
      rw [← hsame]
      simp only [Bound, List.mem_append, List.mem_singleton, or_and_right, exists_or,
        exists_eq_left]
      rw [eq_comm (a := target), eq_comm (a := r.2)]
    have howns : ∀ {o t}, Owns { r.1 with tagBindings := r.1.tagBindings ++
          [{ target := target, tagId := r.2, createdAt := now }] } o t ↔ Owns db o t :=
      (owns_congr rfl rfl).trans hdef.owns
    refine ⟨⟨⟨hdef.rows.keys, hdef.rows.clean, hdef.rows.system, fun {t id} h => ?_⟩,
      hdef.hasTag, hdef.hasDefault, howns⟩, hbound⟩
    rcases hbound.mp h with hold | ⟨rfl, rfl⟩
    · obtain ⟨o, ho, htag⟩ := hrows.bindings hold
      exact ⟨o, howns.mpr ho, hdef.hasTag.mpr (.inl htag)⟩
    · exact ⟨owner, howns.mpr howner, hdef.default.hasTag⟩

lemma WithBinding.trans {db₁ db₂ : Db} {d : RowId} (h₁ : WithBinding db db₁ target owner d)
    (h₂ : WithBinding db₁ db₂ target owner d) : WithBinding db db₂ target owner d := by
  refine ⟨h₁.toWithDefault.trans h₂.toWithDefault, ?_⟩
  intro t id
  rw [h₂.bound, h₁.bound, or_assoc, or_self]

/-- The lookup of a session state has bound the default tag, and `active` is what it makes
active. -/
structure Realigned (db db' : Db) (target : Target) (owner d : RowId) (old active : List RowId) :
    Prop extends WithBinding db db' target owner d where
  nodup : active.Nodup
  mem_default : d ∈ active
  owned : ∀ x ∈ active, HasTag db' x owner
  exact_of_bound : (∀ x ∈ old, Bound db target x) → ∀ x, x ∈ active ↔ Bound db' target x

/-- The target's session state, which may be a new one, has these active tags; the others are as
before. -/
def StatesAt (db db' : Db) (target : Target) (active : List RowId) : Prop :=
  ∀ s ∈ db'.sessionStates, (s ∈ db.sessionStates ∧ s.target ≠ target) ∨
    ∃ s₀, (s₀ ∈ db.sessionStates ∨ s₀ = { target := target }) ∧ s₀.target = target ∧
      s = { s₀ with activeTagsJson := active }

lemma ensureStateBoundTags_spec (newTagId : RowId) (now : Timestamp) (hrows : TagRows db)
    {state : SessionState}
    (howner : Owns db owner state.target)
    (hnew : (∃ d, HasDefault db d owner) ∨ FreshTag db newTagId) :
    ∃ d active, Realigned db (ensureStateBoundTags db state newTagId now).1 state.target owner d
        state.activeTagsJson active ∧
      (ensureStateBoundTags db state newTagId now).1.sessionStates =
        update db.sessionStates state.target (fun s => { s with activeTagsJson := active }) ∧
      (ensureStateBoundTags db state newTagId now).2 = { state with activeTagsJson := active } := by
  have hbinding := ensureTargetDefaultBinding_spec newTagId now hrows howner hnew
  have hstates := sessionStates_ensureTargetDefaultBinding db state.target newTagId now
  have hresolve : resolveTagOwnerUserIdForTarget db state.target = some owner := howner
  simp only [ensureStateBoundTags, listTargetBoundTagIds, hresolve]
  generalize ensureTargetDefaultBinding db state.target newTagId now = r at hbinding hstates ⊢
  obtain ⟨d, hcanon⟩ := canonicalizeTagRefs_spec newTagId hbinding.rows
    (.inl ⟨r.2, hbinding.default⟩) (state.activeTagsJson ++ boundTagIds r.1 state.target)
  have hd : d = r.2 := hcanon.rows.system hcanon.default
    (hcanon.hasDefault.mpr (.inl hbinding.default))
  have hcbind : (canonicalizeTagRefs r.1 (state.activeTagsJson ++ boundTagIds r.1 state.target) true
      (some owner) newTagId).1.tagBindings = r.1.tagBindings :=
    tagBindings_canonicalizeTagRefs _ true (some owner)
  have hcstates := sessionStates_canonicalizeTagRefs r.1 newTagId
    (state.activeTagsJson ++ boundTagIds r.1 state.target) true (some owner)
  generalize canonicalizeTagRefs r.1 (state.activeTagsJson ++ boundTagIds r.1 state.target) true
    (some owner) newTagId = c at hcanon hcbind hcstates ⊢
  subst hd
  have hbound : ∀ {t id}, Bound (setActiveTags c.1 state.target c.2) t id ↔
      Bound db t id ∨ (t = state.target ∧ id = r.2) := by
    intro t id
    rw [← hbinding.bound, Bound, Bound, ← hcbind]
    rfl
  refine ⟨r.2, c.2, ⟨⟨?_, hbound⟩, hcanon.nodup, hcanon.mem_default, hcanon.owned, ?_⟩, ?_, rfl⟩
  · exact (hbinding.toWithDefault.trans hcanon.toWithDefault).congr rfl rfl (owns_congr rfl rfl)
  · intro hold x
    -- active tags and bindings name tags of the owner
    have howned : ∀ y ∈ state.activeTagsJson ++ boundTagIds r.1 state.target,
        HasTag r.1 y owner := by
      intro y hy
      have hy' : Bound r.1 state.target y := by
        rcases List.mem_append.mp hy with hy | hy
        · exact hbinding.bound.mpr (.inl (hold y hy))
        · exact mem_boundTagIds.mp hy
      obtain ⟨o, ho, htag⟩ := hbinding.rows.bindings hy'
      rwa [ho.unique (hbinding.owns.mpr howner)] at htag
    rw [hcanon.exact_of_owned howned, hbound, List.mem_append, mem_boundTagIds, hbinding.bound]
    constructor
    · rintro (rfl | hx | hx | hx)
      · exact .inr ⟨rfl, rfl⟩
      · exact .inl (hold x hx)
      · exact .inl hx
      · exact .inr hx
    · rintro (hx | ⟨-, rfl⟩)
      · exact .inr (.inr (.inl hx))
      · exact .inl rfl
  · show update c.1.sessionStates state.target _ = _
    rw [hcstates, hstates]

lemma targets_setActive (states : List SessionState) (target : Target) (active : List RowId) :
    (update states target fun s => { s with activeTagsJson := active }).map key =
      states.map key := map_key_update fun _ => rfl

lemma statesAt_update {active : List RowId} (h : db'.sessionStates =
      update db.sessionStates target fun s => { s with activeTagsJson := active }) :
    StatesAt db db' target active := by
  intro s hs
  rw [h] at hs
  rcases mem_update.mp hs with ⟨s₀, hs₀, hk, rfl⟩ | ⟨hs, hk⟩
  · exact .inr ⟨s₀, .inl hs₀, hk, rfl⟩
  · exact .inl ⟨hs, hk⟩

lemma Realigned.stateRows {d : RowId} {old active : List RowId}
    (h : Realigned db db' target owner d old active) (howner : Owns db owner target)
    (hat : StatesAt db db' target active) (hstates : StateRows db) : StateRows db' := by
  intro s hs
  rcases hat s hs with ⟨hold, -⟩ | ⟨s₀, hs₀, ht, rfl⟩
  · exact (hstates s hold).mono h.grow
  · refine ⟨⟨owner, d, ?_, h.default, ?_⟩, h.nodup, ?_⟩
    · exact h.owns.mpr (ht ▸ howner)
    · exact h.bound.mpr (.inr ⟨ht, rfl⟩)
    · rcases hs₀ with hs₀ | rfl
      · exact (hstates s₀ hs₀).score
      · show MIN_RELATION_SCORE ≤ DEFAULT_RELATION_SCORE ∧
          DEFAULT_RELATION_SCORE ≤ MAX_RELATION_SCORE
        decide

lemma getSessionState_spec (newTagId : RowId) (now : Timestamp) (hrows : TagRows db)
    (howner : Owns db owner target)
    (hnew : (∃ d, HasDefault db d owner) ∨ FreshTag db newTagId) {state : SessionState}
    (hget : get db.sessionStates target = some state) :
    ∃ d active, Realigned db (getSessionState db target newTagId now).1 target owner d
        state.activeTagsJson active ∧
      (getSessionState db target newTagId now).1.sessionStates =
        update db.sessionStates target (fun s => { s with activeTagsJson := active }) ∧
      (getSessionState db target newTagId now).2 =
        some { state with activeTagsJson := active } := by
  have hkey : state.target = target := key_of_get hget
  subst hkey
  obtain ⟨d, active, hreal, hstates, hstate⟩ :=
    ensureStateBoundTags_spec newTagId now hrows howner hnew
  refine ⟨d, active, ?_⟩
  simp only [getSessionState, hget]
  exact ⟨hreal, hstates, by rw [hstate]⟩

lemma getSessionState_none (hget : get db.sessionStates target = none) :
    getSessionState db target newTagId now = (db, none) := by
  simp only [getSessionState, hget]

lemma ensureSessionState_spec (newTagId : RowId) (now : Timestamp) (hrows : TagRows db)
    (howner : Owns db owner target)
    (hnew : (∃ d, HasDefault db d owner) ∨ FreshTag db newTagId) :
    ∃ d old active, Realigned db (ensureSessionState db target newTagId now).1 target owner d old
        active ∧
      StatesAt db (ensureSessionState db target newTagId now).1 target active ∧
      (old = [] ∨ ∃ s ∈ db.sessionStates, s.target = target ∧ s.activeTagsJson = old) ∧
      ∀ t, t ∈ (ensureSessionState db target newTagId now).1.sessionStates.map key ↔
        t ∈ db.sessionStates.map key ∨ t = target := by
  cases hget : get db.sessionStates target with
  | some state =>
    obtain ⟨d, active, hreal, hstates, hstate⟩ :=
      getSessionState_spec newTagId now hrows howner hnew hget
    refine ⟨d, state.activeTagsJson, active, ?_⟩
    simp only [ensureSessionState]
    generalize getSessionState db target newTagId now = r at hreal hstates hstate ⊢
    obtain ⟨db₁, state₁⟩ := r
    cases hstate
    refine ⟨hreal, statesAt_update hstates,
      .inr ⟨state, mem_of_get hget, key_of_get hget, rfl⟩, fun t => ?_⟩
    have hmem : target ∈ db.sessionStates.map key := get_isSome_iff.mp (by rw [hget]; rfl)
    rw [hstates, targets_setActive]
    exact ⟨.inl, fun h => h.elim id fun h => h ▸ hmem⟩
  | none =>
    have hbinding := ensureTargetDefaultBinding_spec newTagId now hrows howner hnew
    have hstates := sessionStates_ensureTargetDefaultBinding db target newTagId now
    simp only [ensureSessionState, getSessionState_none hget]
    generalize ensureTargetDefaultBinding db target newTagId now = r at hbinding hstates ⊢
    have hb₁ : WithBinding db
        { r.1 with sessionStates := r.1.sessionStates ++ [{ target := target }] } target owner
        r.2 :=
      ⟨hbinding.toWithDefault.congr rfl rfl (owns_congr rfl rfl), hbinding.bound⟩
    have howner₁ : Owns { r.1 with sessionStates := r.1.sessionStates ++ [{ target := target }] }
        owner ({ target := target } : SessionState).target := hb₁.owns.mpr howner
    obtain ⟨d, active, hreal, hstates', -⟩ := ensureStateBoundTags_spec newTagId now
      hb₁.rows howner₁ (.inl ⟨r.2, hb₁.default⟩)
    have hd : d = r.2 :=
      hreal.rows.system hreal.default (hreal.hasDefault.mpr (.inl hb₁.default))
    subst hd
    refine ⟨r.2, [], active, ⟨hb₁.trans hreal.toWithBinding, hreal.nodup, hreal.mem_default,
      hreal.owned, fun _ => hreal.exact_of_bound (by simp)⟩, fun s hs => ?_, .inl rfl, ?_⟩
    · rw [hstates'] at hs
      rcases mem_update.mp hs with ⟨s₀, hs₀, hk, rfl⟩ | ⟨hs, hk⟩
      · refine .inr ⟨s₀, ?_, hk, rfl⟩
        simpa [hstates] using hs₀
      · left
        rw [hstates] at hs
        rcases List.mem_append.mp hs with hs | hs
        · exact ⟨hs, hk⟩
        · rw [List.mem_singleton.mp hs] at hk
          exact absurd rfl hk
    · intro t
      rw [hstates', targets_setActive, List.map_append, hstates, List.mem_append]
      exact Iff.or Iff.rfl List.mem_singleton

end CocoonSit
