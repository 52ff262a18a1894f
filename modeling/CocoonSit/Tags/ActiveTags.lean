import CocoonSit.Tags.Rows

/-!
# Active tags: lookups and requests

What is promised of a session state's `active_tags_json` and `relation_score`, and that lookups and
requests keep the promise: they tell the canonicalisation whose tags it works on, so the owner's
default tag stays in the list and everything else than bound tags of the owner stays out of it.
-/

namespace CocoonSit

open Table

namespace ActiveTags

/-- What is promised of a session state. -/
structure StateOk (db : Db) (s : SessionState) : Prop where
  nodup : s.activeTagsJson.Nodup
  default : ∃ owner d, Owns db owner s.target ∧ HasDefault db d owner ∧ d ∈ s.activeTagsJson
  owned : ∀ x ∈ s.activeTagsJson, ∃ owner, Owns db owner s.target ∧ HasTag db x owner
  bound : ∀ x ∈ s.activeTagsJson, Bound db s.target x
  score : MIN_RELATION_SCORE ≤ s.relationScore ∧ s.relationScore ≤ MAX_RELATION_SCORE

def ActiveTagsOk (db : Db) : Prop := ∀ s ∈ db.sessionStates, StateOk db s

/-- The rows in every reachable database. -/
structure Rows (db : Db) : Prop where
  tags : TagRows db
  states : StateRows db

variable {db db' : Db} {target : Target} {owner newTagId : RowId} {now : Timestamp}

/-! ## Session states -/

lemma StateOk.mono (h : TagsGrow db db') {s : SessionState} (hs : StateOk db s) :
    StateOk db' s := by
  obtain ⟨o, d, ho, hd, hmem⟩ := hs.default
  refine ⟨hs.nodup, ⟨o, d, h.owns.mpr ho, h.hasDefault hd, hmem⟩, fun x hx => ?_,
    fun x hx => h.bound (hs.bound x hx), hs.score⟩
  obtain ⟨o', ho', htag⟩ := hs.owned x hx
  exact ⟨o', h.owns.mpr ho', h.hasTag htag⟩

lemma stateOk_of_bound (hrows : TagRows db) {s : SessionState} (hrow : StateRow db s) {d : RowId}
    (howner : Owns db owner s.target) (hd : HasDefault db d owner) (hmem : d ∈ s.activeTagsJson)
    (hbound : ∀ x ∈ s.activeTagsJson, Bound db s.target x) : StateOk db s :=
  ⟨hrow.nodup, ⟨owner, d, howner, hd, hmem⟩, fun x hx => hrows.bindings (hbound x hx), hbound,
    hrow.score⟩

lemma StateOk.mem_default (hrows : TagRows db) {s : SessionState} (hs : StateOk db s) {d : RowId}
    (howner : Owns db owner s.target) (hd : HasDefault db d owner) : d ∈ s.activeTagsJson := by
  obtain ⟨o, d', ho, hd', hmem⟩ := hs.default
  rw [ho.unique howner] at hd'
  rwa [hrows.system hd hd']

lemma Rows.hasDefault (h : Rows db) {s : SessionState} (hs : s ∈ db.sessionStates)
    (howner : Owns db owner s.target) : ∃ d, HasDefault db d owner := by
  obtain ⟨o, d, ho, hd, -⟩ := (h.states s hs).defaultBound
  rw [ho.unique howner] at hd
  exact ⟨d, hd⟩

lemma rows_realigned (h : Rows db) (howner : Owns db owner target) {d : RowId}
    {old active : List RowId} (hreal : Realigned db db' target owner d old active)
    (hat : StatesAt db db' target active) : Rows db' :=
  ⟨hreal.rows, hreal.stateRows howner hat h.states⟩

lemma ok_realigned (h : Rows db) (howner : Owns db owner target) {d : RowId}
    {old active : List RowId} (hreal : Realigned db db' target owner d old active)
    (hat : StatesAt db db' target active)
    (hold : old = [] ∨ ∃ s ∈ db.sessionStates, s.target = target ∧ s.activeTagsJson = old)
    (hok : ActiveTagsOk db) : ActiveTagsOk db' := by
  have hrows' := rows_realigned h howner hreal hat
  have hexact := hreal.exact_of_bound <| by
    rcases hold with rfl | ⟨s, hs, rfl, rfl⟩
    · simp
    · exact (hok s hs).bound
  intro s hs
  rcases hat s hs with ⟨hs₀, -⟩ | ⟨s₀, -, ht, heq⟩
  · exact (hok s hs₀).mono hreal.grow
  · have htarget : s.target = target := by rw [heq, ht]
    have hactive : s.activeTagsJson = active := by rw [heq]
    have howns : Owns db' owner s.target := by
      rw [htarget]
      exact hreal.owns.mpr howner
    refine stateOk_of_bound hrows'.tags (hrows'.states s hs) howns hreal.default ?_ fun x hx => ?_
    · rw [hactive]
      exact hreal.mem_default
    · rw [htarget]
      exact (hexact x).mp (hactive ▸ hx)

/-! ## Rewriting the active tags -/

/-- What `state.active_tags_json = canonicalize_tag_refs(…)` does. -/
structure SetCanonical (db db' : Db) (target : Target) (refs : List String) (owner d : RowId)
    (active : List RowId) : Prop extends Canonical db db' refs owner d active where
  bindings : db'.tagBindings = db.tagBindings
  default_old : HasDefault db d owner
  states : db'.sessionStates =
    update db.sessionStates target fun s => { s with activeTagsJson := active }

lemma SetCanonical.bound {refs : List String} {d : RowId} {active : List RowId}
    (h : SetCanonical db db' target refs owner d active) {t : Target} {x : RowId} :
    Bound db' t x ↔ Bound db t x := by
  rw [Bound, h.bindings, Bound]

lemma SetCanonical.grow {refs : List String} {d : RowId} {active : List RowId}
    (h : SetCanonical db db' target refs owner d active) : TagsGrow db db' :=
  ⟨h.owns, fun hold => h.hasTag.mpr (.inl hold), fun hold => h.hasDefault.mpr (.inl hold),
    h.bound.mpr⟩

lemma setCanonicalTags_spec (hrows : TagRows db) (hd : ∃ d, HasDefault db d owner)
    (target : Target) (refs : List String) (newTagId : RowId) :
    ∃ d, SetCanonical db (setCanonicalTags db target refs (some owner) newTagId) target refs owner d
      (canonicalizeTagRefs db refs true (some owner) newTagId).2 := by
  obtain ⟨d, hcanon⟩ := canonicalizeTagRefs_spec newTagId hrows (.inl hd) refs
  have hbind : (canonicalizeTagRefs db refs true (some owner) newTagId).1.tagBindings =
      db.tagBindings := tagBindings_canonicalizeTagRefs refs true (some owner)
  have hstates := sessionStates_canonicalizeTagRefs db newTagId refs true (some owner)
  unfold setCanonicalTags
  generalize canonicalizeTagRefs db refs true (some owner) newTagId = c at hcanon hbind hstates ⊢
  have hdef : WithDefault db (setActiveTags c.1 target c.2) owner d :=
    hcanon.toWithDefault.congr rfl rfl (owns_congr rfl rfl)
  refine ⟨d, ⟨hdef, hcanon.nodup, hcanon.mem_default, hcanon.owned, hcanon.exact_of_owned⟩,
    hbind, ?_, ?_⟩
  · obtain ⟨d', hd'⟩ := hd
    rwa [hdef.rows.system hdef.default (hdef.hasDefault.mpr (.inl hd'))]
  · show update c.1.sessionStates target _ = _
    rw [hstates]

lemma rows_setCanonicalTags (h : Rows db) (hd : ∃ d, HasDefault db d owner) (target : Target)
    (refs : List String) (newTagId : RowId) :
    Rows (setCanonicalTags db target refs (some owner) newTagId) := by
  obtain ⟨d, hcanon⟩ := setCanonicalTags_spec h.tags hd target refs newTagId
  refine ⟨hcanon.rows, fun s hs => ?_⟩
  rw [hcanon.states] at hs
  rcases mem_update.mp hs with ⟨s₀, hs₀, -, rfl⟩ | ⟨hs, -⟩
  · have hrow := (h.states s₀ hs₀).mono hcanon.grow
    exact ⟨hrow.defaultBound, hcanon.nodup, hrow.score⟩
  · exact (h.states s hs).mono hcanon.grow

lemma ok_setCanonicalTags (h : Rows db) (howner : Owns db owner target)
    (hd : ∃ d, HasDefault db d owner) (refs : List String) (newTagId : RowId)
    (hrefs : ∀ x ∈ refs, Bound db target x) (hok : ActiveTagsOk db) :
    ActiveTagsOk (setCanonicalTags db target refs (some owner) newTagId) ∧
      ∀ s ∈ (setCanonicalTags db target refs (some owner) newTagId).sessionStates,
        s.target = target → ∀ x ∈ s.activeTagsJson, HasDefault db x owner ∨ x ∈ refs := by
  have hrows' := rows_setCanonicalTags h hd target refs newTagId
  obtain ⟨d, hcanon⟩ := setCanonicalTags_spec h.tags hd target refs newTagId
  have howned : ∀ x ∈ refs, HasTag db x owner := by
    intro x hx
    obtain ⟨o, ho, htag⟩ := h.tags.bindings (hrefs x hx)
    rwa [ho.unique howner] at htag
  have hmem := hcanon.exact_of_owned howned
  constructor
  · intro s hs
    have hs' := hs
    rw [hcanon.states] at hs'
    rcases mem_update.mp hs' with ⟨s₀, hs₀, rfl, rfl⟩ | ⟨hs₀, -⟩
    · refine stateOk_of_bound hrows'.tags (hrows'.states _ hs) (hcanon.grow.owns.mpr howner)
        hcanon.default hcanon.mem_default fun x hx => hcanon.grow.bound ?_
      rcases (hmem x).mp hx with rfl | hx
      · exact (hok s₀ hs₀).bound x ((hok s₀ hs₀).mem_default h.tags howner hcanon.default_old)
      · exact hrefs x hx
    · exact (hok s hs₀).mono hcanon.grow
  · intro s hs ht x hx
    rw [hcanon.states] at hs
    rcases mem_update.mp hs with ⟨s₀, -, -, rfl⟩ | ⟨-, hne⟩
    · rcases (hmem x).mp hx with rfl | hx
      · exact .inl hcanon.default_old
      · exact .inr hx
    · exact absurd ht hne

lemma hasDefault_setCanonicalTags (h : Rows db) (hd : ∃ d, HasDefault db d owner)
    {target : Target} {refs : List String} {newTagId x o : RowId}
    (hx : HasDefault (setCanonicalTags db target refs (some owner) newTagId) x o) :
    HasDefault db x o := by
  obtain ⟨d, hcanon⟩ := setCanonicalTags_spec h.tags hd target refs newTagId
  rcases hcanon.hasDefault.mp hx with hx | ⟨rfl, rfl⟩
  · exact hx
  · exact hcanon.default_old

/-! ## Requests -/

lemma requireCanonicalTag_ok {tagRef : String} {tag : TagRegistry}
    (h : requireCanonicalTag db tagRef (some owner) = .ok tag) :
    tag ∈ db.tags ∧ tag.ownerUserId = owner := by
  unfold requireCanonicalTag at h
  split at h
  · next hget =>
    cases h
    obtain ⟨hmem, hscope⟩ := getTagByAnyRef_spec hget
    exact ⟨hmem, hscope owner rfl⟩
  · cases h

lemma createTag_ok {userId : RowId} {payload : TagCreate} {r : Db × TagRegistry}
    (h : createTag db userId payload newTagId = .ok r) :
    r.1 = { db with tags := db.tags ++ [payload.toTag userId newTagId] } := by
  simp only [createTag] at h
  split at h
  · cases h
  · split at h
    · cases h
    · split at h
      · cases h
      · split at h
        · cases h
        · cases h
          rfl

lemma createTag_kept (h : Rows db) {userId : RowId} {payload : TagCreate}
    (hfresh : FreshTag db newTagId) {r : Db × TagRegistry}
    (hr : createTag db userId payload newTagId = .ok r) :
    Rows r.1 ∧ (ActiveTagsOk db → ActiveTagsOk r.1) := by
  rw [createTag_ok hr]
  have happend : ∀ {id o}, HasTag db id o →
      HasTag { db with tags := db.tags ++ [payload.toTag userId newTagId] } id o :=
    fun h => (hasTag_append rfl).mpr (.inl h)
  have hgrow : TagsGrow db { db with tags := db.tags ++ [payload.toTag userId newTagId] } :=
    ⟨owns_congr rfl rfl, happend, fun h => (hasDefault_append rfl).mpr (.inl h), fun h => h⟩
  refine ⟨⟨?_, fun s hs => (h.states s hs).mono hgrow⟩, fun hok s hs => (hok s hs).mono hgrow⟩
  exact h.tags.append hfresh (fun hsys => absurd hsys (by simp [TagCreate.toTag])) rfl rfl
    (owns_congr rfl rfl)

lemma bound_insertBinding {b : TagBinding} {t : Target} {x : RowId} :
    Bound (insertBinding db b) t x ↔ Bound db t x ∨ (b.target = t ∧ b.tagId = x) := by
  simp [Bound, insertBinding, or_and_right, exists_or]

lemma insertBinding_kept (h : Rows db) {b : TagBinding}
    (hb : ∃ owner, Owns db owner b.target ∧ HasTag db b.tagId owner) :
    Rows (insertBinding db b) ∧ (ActiveTagsOk db → ActiveTagsOk (insertBinding db b)) := by
  have howns : ∀ {o t}, Owns (insertBinding db b) o t ↔ Owns db o t := owns_congr rfl rfl
  have hgrow : TagsGrow db (insertBinding db b) :=
    ⟨howns, fun h => h, fun h => h, fun h => bound_insertBinding.mpr (.inl h)⟩
  refine ⟨⟨⟨h.tags.keys, h.tags.clean, h.tags.system, fun {t x} hbound => ?_⟩,
    fun s hs => (h.states s hs).mono hgrow⟩, fun hok s hs => (hok s hs).mono hgrow⟩
  rcases bound_insertBinding.mp hbound with hold | ⟨rfl, rfl⟩
  · obtain ⟨o, ho, htag⟩ := h.tags.bindings hold
    exact ⟨o, howns.mpr ho, htag⟩
  · obtain ⟨o, ho, htag⟩ := hb
    exact ⟨o, howns.mpr ho, htag⟩

lemma getSessionState_kept (h : Rows db) (howner : Owns db owner target)
    (newTagId : RowId) (now : Timestamp) :
    let r := getSessionState db target newTagId now
    Rows r.1 ∧ TagsGrow db r.1 ∧ (ActiveTagsOk db → ActiveTagsOk r.1) ∧
      (∀ state ∈ r.2, state.target = target ∧ state ∈ r.1.sessionStates) ∧
      (r.2 = none → ∀ s ∈ r.1.sessionStates, s.target ≠ target) ∧
      (∀ x o, HasDefault r.1 x o → HasDefault db x o) := by
  intro r
  cases hget : get db.sessionStates target with
  | none =>
    have hr : r = (db, none) := getSessionState_none hget
    rw [hr]
    refine ⟨h, .refl db, id, by simp, fun _ s hs ht => ?_, fun _ _ => id⟩
    exact get_eq_none_iff.mp hget (ht ▸ List.mem_map_of_mem hs)
  | some state =>
    have hmem := mem_of_get hget
    have hkey : state.target = target := key_of_get hget
    obtain ⟨d, active, hreal, hstates, hstate⟩ := getSessionState_spec newTagId now
      h.tags howner (.inl (h.hasDefault hmem (hkey ▸ howner))) hget
    have hat := statesAt_update hstates
    obtain ⟨d', hd'⟩ := h.hasDefault hmem (hkey ▸ howner)
    have hd : d = d' := hreal.rows.system hreal.default (hreal.grow.hasDefault hd')
    refine ⟨rows_realigned h howner hreal hat, hreal.grow,
      ok_realigned h howner hreal hat (.inr ⟨state, hmem, hkey, rfl⟩), ?_, ?_, ?_⟩
    · intro state' hs
      rw [hstate] at hs
      cases hs
      refine ⟨hkey, ?_⟩
      rw [hstates]
      exact mem_update.mpr (.inl ⟨state, hmem, hkey, rfl⟩)
    · intro hnone
      rw [hstate] at hnone
      cases hnone
    · intro x o hx
      rcases hreal.hasDefault.mp hx with hx | ⟨rfl, rfl⟩
      · exact hx
      · rwa [hd]

lemma bindTargetTag_kept (h : Rows db) (howner : Owns db owner target)
    (hfresh : FreshTag db newTagId) {tagRef : String} {r : Db × TagBinding}
    (hr : bindTargetTag db target tagRef newTagId now = .ok r) :
    Rows r.1 ∧ (ActiveTagsOk db → ActiveTagsOk r.1) := by
  have hresolve : resolveTagOwnerUserIdForTarget db target = some owner := howner
  have hbinding := ensureTargetDefaultBinding_spec newTagId now h.tags howner (.inr hfresh)
  have hstates := sessionStates_ensureTargetDefaultBinding db target newTagId now
  simp only [bindTargetTag, hresolve] at hr
  generalize ensureTargetDefaultBinding db target newTagId now = r₁ at hbinding hstates hr
  have h₁ : Rows r₁.1 := ⟨hbinding.rows, fun s hs => (h.states s (hstates ▸ hs)).mono hbinding.grow⟩
  have hok₁ : ActiveTagsOk db → ActiveTagsOk r₁.1 :=
    fun hok s hs => (hok s (hstates ▸ hs)).mono hbinding.grow
  have howner₁ : Owns r₁.1 owner target := hbinding.owns.mpr howner
  obtain ⟨h₂, hgrow₂, hok₂, hstate, -, -⟩ := getSessionState_kept h₁ howner₁ newTagId now
  generalize getSessionState r₁.1 target newTagId now = r₂ at hr h₂ hgrow₂ hok₂ hstate
  have howner₂ : Owns r₂.1 owner target := hgrow₂.owns.mpr howner₁
  split at hr
  · cases hr
  · next tag htag =>
    obtain ⟨hmem, ho⟩ := requireCanonicalTag_ok htag
    have htag₂ : HasTag r₂.1 tag.id owner :=
      hgrow₂.hasTag (hbinding.grow.hasTag ⟨tag, hmem, rfl, ho⟩)
    split at hr
    · cases hr
      exact ⟨h₂, fun hok => hok₂ (hok₁ hok)⟩
    · cases hr
      -- the new binding, and then perhaps a new active tag
      generalize hb : TagBinding.mk target tag.id now = b
      have htarget : b.target = target := by rw [← hb]
      have hid : b.tagId = tag.id := by rw [← hb]
      obtain ⟨h₃, hok₃⟩ :=
        insertBinding_kept h₂ ⟨owner, htarget ▸ howner₂, hid ▸ htag₂⟩
      cases hs : r₂.2 with
      | none => exact ⟨h₃, fun hok => hok₃ (hok₂ (hok₁ hok))⟩
      | some state =>
        obtain ⟨hkey, hstate⟩ := hstate state hs
        have howner₃ : Owns (insertBinding r₂.1 b) owner state.target :=
          (owns_congr rfl rfl).mpr (hkey ▸ howner₂)
        have hd : ∃ d, HasDefault (insertBinding r₂.1 b) d owner :=
          h₃.hasDefault hstate howner₃
        simp only [Option.elim_some, activateTag]
        split
        · exact ⟨h₃, fun hok => hok₃ (hok₂ (hok₁ hok))⟩
        · refine ⟨rows_setCanonicalTags h₃ hd _ _ _, fun hok => ?_⟩
          have hok' := hok₃ (hok₂ (hok₁ hok))
          refine (ok_setCanonicalTags h₃ howner₃ hd _ newTagId (fun x hx => ?_) hok').1
          rcases List.mem_append.mp hx with hx | hx
          · exact (hok' state hstate).bound x hx
          · rw [List.mem_singleton.mp hx]
            exact bound_insertBinding.mpr (.inr ⟨htarget.trans hkey.symm, hid⟩)

lemma not_hasDefault (hrows : TagRows db) {tag : TagRegistry} (hmem : tag ∈ db.tags)
    (hsys : isSystemTag tag = false) (o : RowId) : ¬ HasDefault db tag.id o := by
  rintro ⟨t, ht, hid, -, hs⟩
  rw [List.inj_on_of_nodup_map hrows.keys ht hmem hid] at hs
  rw [isSystemTag, hs] at hsys
  cases hsys

/-- Some bindings are gone, of one tag that is nobody's default; for the rest `db'` is as `db`. -/
structure BindingsGone (db db' : Db) (id : RowId) (gone : Target → Prop) : Prop where
  tags : db'.tags = db.tags
  states : db'.sessionStates = db.sessionStates
  owns : ∀ {o t}, Owns db' o t ↔ Owns db o t
  notDefault : ∀ o, ¬ HasDefault db id o
  bound : ∀ {t x}, Bound db' t x → Bound db t x
  kept : ∀ {t x}, Bound db t x → (x = id → ¬ gone t) → Bound db' t x

lemma rows_bindingsGone {id : RowId} {gone : Target → Prop} (h : Rows db)
    (hgone : BindingsGone db db' id gone) : Rows db' := by
  have hdef : ∀ {d o}, HasDefault db' d o ↔ HasDefault db d o := by
    intro d o
    rw [HasDefault, hgone.tags, HasDefault]
  refine ⟨⟨hgone.tags ▸ h.tags.keys, hgone.tags ▸ h.tags.clean, ?_, fun {t x} hb => ?_⟩,
    fun s hs => ?_⟩
  · intro d d' o hd hd'
    exact h.tags.system (hdef.mp hd) (hdef.mp hd')
  · obtain ⟨o, ho, ht⟩ := h.tags.bindings (hgone.bound hb)
    exact ⟨o, hgone.owns.mpr ho, by rwa [HasTag, hgone.tags]⟩
  · have hrow := h.states s (hgone.states ▸ hs)
    obtain ⟨o, d, ho, hd, hb⟩ := hrow.defaultBound
    refine ⟨⟨o, d, hgone.owns.mpr ho, hdef.mpr hd, hgone.kept hb ?_⟩, hrow.nodup,
      hrow.score⟩
    rintro rfl
    exact absurd hd (hgone.notDefault o)

lemma ok_bindingsGone {id : RowId} {gone : Target → Prop} (h : Rows db)
    (hgone : BindingsGone db db' id gone) (hok : ActiveTagsOk db)
    (hinactive : ∀ s ∈ db.sessionStates, gone s.target → id ∉ s.activeTagsJson) :
    ActiveTagsOk db' := by
  have hrows' := rows_bindingsGone h hgone
  intro s hs
  have hs₀ : s ∈ db.sessionStates := hgone.states ▸ hs
  obtain ⟨o, d, ho, hd, hmem⟩ := (hok s hs₀).default
  refine stateOk_of_bound hrows'.tags (hrows'.states s hs) (hgone.owns.mpr ho)
    (by rwa [HasDefault, hgone.tags]) hmem fun x hx => ?_
  refine hgone.kept ((hok s hs₀).bound x hx) ?_
  rintro rfl ht
  exact hinactive s hs₀ ht hx

lemma bindingsGone_deleteBinding {b : TagBinding} (hdef : ∀ o, ¬ HasDefault db b.tagId o) :
    BindingsGone db (deleteBinding db b) b.tagId (· = b.target) := by
  refine ⟨rfl, rfl, owns_congr rfl rfl, hdef, ?_, ?_⟩
  · rintro t x ⟨b', hb', h⟩
    exact ⟨b', List.mem_of_mem_erase hb', h⟩
  · rintro t x ⟨b', hb', rfl, rfl⟩ hne
    refine ⟨b', (List.mem_erase_of_ne ?_).mpr hb', rfl, rfl⟩
    rintro rfl
    exact hne rfl rfl

lemma bindingsGone_dropTagLinks {id : RowId} (hdef : ∀ o, ¬ HasDefault db id o) :
    BindingsGone db (dropTagLinks db id) id fun _ => True := by
  refine ⟨rfl, rfl, owns_congr rfl rfl, hdef, ?_, ?_⟩
  · rintro t x ⟨b, hb, h⟩
    exact ⟨b, (List.mem_filter.mp hb).1, h⟩
  · rintro t x ⟨b, hb, rfl, rfl⟩ hne
    exact ⟨b, List.mem_filter.mpr ⟨hb, by simpa using fun h => hne h trivial⟩, rfl, rfl⟩

lemma unbindTargetTag_kept (h : Rows db) (howner : Owns db owner target)
    {tagRef : String} {r : Db × TagBinding}
    (hr : unbindTargetTag db target tagRef newTagId now = .ok r) :
    Rows r.1 ∧ (ActiveTagsOk db → ActiveTagsOk r.1) := by
  have hresolve : resolveTagOwnerUserIdForTarget db target = some owner := howner
  simp only [unbindTargetTag, hresolve] at hr
  obtain ⟨h₁, hgrow, hok₁, hstate, hnone, hdef⟩ := getSessionState_kept h howner newTagId now
  generalize getSessionState db target newTagId now = r₁ at hr h₁ hgrow hok₁ hstate hnone hdef
  have howner₁ : Owns r₁.1 owner target := hgrow.owns.mpr howner
  split at hr
  · cases hr
  · next tag htag =>
    split at hr
    · cases hr
    · next hsys =>
      split at hr
      · cases hr
      · next b hfind =>
        cases hr
        obtain ⟨hbt, hbid⟩ : b.target = target ∧ b.tagId = tag.id := by
          have hp := List.find?_some hfind
          simpa using hp
        have hnot : ∀ o, ¬ HasDefault r₁.1 b.tagId o := by
          intro o hd
          rw [hbid] at hd
          exact not_hasDefault h.tags (requireCanonicalTag_ok htag).1 (by simpa using hsys) o
            (hdef _ _ hd)
        cases hs : r₁.2 with
        | none =>
          have hgone := bindingsGone_deleteBinding hnot
          refine ⟨rows_bindingsGone h₁ hgone, fun hok => ?_⟩
          refine ok_bindingsGone h₁ hgone (hok₁ hok) fun s hmem ht => ?_
          exact absurd (ht.trans hbt) (hnone hs s hmem)
        | some state =>
          obtain ⟨hkey, hstate⟩ := hstate state hs
          have hd : ∃ d, HasDefault r₁.1 d owner :=
            h₁.hasDefault hstate (hkey ▸ howner₁)
          simp only [Option.elim_some, deactivateTag]
          generalize hrefs : (state.activeTagsJson.filter fun item => item ≠ tag.id) = refs
          have h₂ := rows_setCanonicalTags h₁ hd state.target refs newTagId
          have hnot₂ : ∀ o, ¬ HasDefault (setCanonicalTags r₁.1 state.target refs
              (some owner) newTagId) b.tagId o :=
            fun o hd' => hnot o (hasDefault_setCanonicalTags h₁ hd hd')
          have hgone := bindingsGone_deleteBinding hnot₂
          refine ⟨rows_bindingsGone h₂ hgone, fun hok => ?_⟩
          have hok' := ok_setCanonicalTags h₁ (hkey ▸ howner₁) hd refs newTagId
            (fun x hx => (hok₁ hok state hstate).bound x
              (List.mem_filter.mp (hrefs ▸ hx)).1) (hok₁ hok)
          refine ok_bindingsGone h₂ hgone hok'.1 fun s hmem ht hx => ?_
          rcases hok'.2 s hmem (ht.trans (hbt.trans hkey.symm)) _ hx with hx | hx
          · exact hnot owner hx
          · rw [← hrefs] at hx
            simp [hbid] at hx

/-! ## Deleting a tag -/

lemma ensureUserSystemTag_dropTagLinks (id userId newTagId : RowId) :
    ensureUserSystemTag (dropTagLinks db id) userId newTagId =
      (dropTagLinks (ensureUserSystemTag db userId newTagId).1 id,
        (ensureUserSystemTag db userId newTagId).2) := by
  have hfind : findSystemTag (dropTagLinks db id) userId = findSystemTag db userId := rfl
  unfold ensureUserSystemTag
  rw [hfind]
  cases findSystemTag db userId <;> rfl

lemma canonicalizeTagRefs_dropTagLinks (id : RowId) (refs : List String) (includeDefault : Bool)
    (owner : Option RowId) :
    canonicalizeTagRefs (dropTagLinks db id) refs includeDefault owner newTagId =
      (dropTagLinks (canonicalizeTagRefs db refs includeDefault owner newTagId).1 id,
        (canonicalizeTagRefs db refs includeDefault owner newTagId).2) := by
  have htags : (dropTagLinks db id).tags = db.tags := rfl
  have hres := resolveTagRefs_congr htags owner refs
  unfold canonicalizeTagRefs
  rw [hres]
  split
  · rw [ensureUserSystemTag_dropTagLinks]
  · rfl

lemma scrubState_dropTagLinks (id : RowId) (state : SessionState) (newTagId : RowId) :
    scrubState (dropTagLinks db id) id state newTagId =
      dropTagLinks (scrubState db id state newTagId) id := by
  have howner : resolveTagOwnerUserIdForTarget (dropTagLinks db id) state.target =
      resolveTagOwnerUserIdForTarget db state.target := by
    cases state.target <;> rfl
  unfold scrubState
  split
  · simp only [deactivateTag, setCanonicalTags, howner, canonicalizeTagRefs_dropTagLinks]
    rfl
  · rfl

lemma foldl_scrubState_dropTagLinks (id : RowId) (states : List SessionState)
    (newTagId : Target → RowId) (db : Db) :
    states.foldl (fun db s => scrubState db id s (newTagId s.target)) (dropTagLinks db id) =
      dropTagLinks (states.foldl (fun db s => scrubState db id s (newTagId s.target)) db) id := by
  induction states generalizing db with
  | nil => rfl
  | cons s states ih =>
    rw [List.foldl_cons, List.foldl_cons, scrubState_dropTagLinks]
    exact ih _

/-- What the loop knows of a state it has read. -/
structure Scrubbable (db : Db) (s : SessionState) (owner : RowId) : Prop where
  owns : Owns db owner s.target
  hasDefault : ∃ d, HasDefault db d owner

lemma rows_scrubState (h : Rows db) {s : SessionState} (hs : Scrubbable db s owner) (id : RowId)
    (newTagId : RowId) :
    Rows (scrubState db id s newTagId) ∧ TagsGrow db (scrubState db id s newTagId) ∧
      ∀ x o, HasDefault (scrubState db id s newTagId) x o → HasDefault db x o := by
  have hresolve : resolveTagOwnerUserIdForTarget db s.target = some owner := hs.owns
  unfold scrubState
  split
  · rw [deactivateTag, hresolve]
    obtain ⟨d, hcanon⟩ := setCanonicalTags_spec h.tags hs.hasDefault s.target
      (s.activeTagsJson.filter fun item => item ≠ id) newTagId
    exact ⟨rows_setCanonicalTags h hs.hasDefault _ _ _, hcanon.grow,
      fun x o hx => hasDefault_setCanonicalTags h hs.hasDefault hx⟩
  · exact ⟨h, .refl db, fun _ _ hx => hx⟩

lemma ok_scrubState (h : Rows db) {s : SessionState} (hs : Scrubbable db s owner) {id : RowId}
    (newTagId : RowId) (hnot : ∀ o, ¬ HasDefault db id o)
    (hbound : ∀ x ∈ s.activeTagsJson, Bound db s.target x) (hok : ActiveTagsOk db) :
    ActiveTagsOk (scrubState db id s newTagId) ∧
      ∀ s' ∈ (scrubState db id s newTagId).sessionStates, id ∈ s'.activeTagsJson →
        s' ∈ db.sessionStates ∧ (s.target = s'.target → id ∉ s.activeTagsJson) := by
  have hresolve : resolveTagOwnerUserIdForTarget db s.target = some owner := hs.owns
  unfold scrubState
  split
  · rw [deactivateTag, hresolve]
    generalize hrefs : (s.activeTagsJson.filter fun item => item ≠ id) = refs
    have hok' := ok_setCanonicalTags h hs.owns hs.hasDefault refs newTagId (fun x hx => by
      rw [← hrefs] at hx
      exact hbound x (List.mem_filter.mp hx).1) hok
    have hoff : ∀ s' ∈ (setCanonicalTags db s.target refs (some owner) newTagId).sessionStates,
        s'.target = s.target → id ∉ s'.activeTagsJson := by
      intro s' hs' ht hid'
      rcases hok'.2 s' hs' ht id hid' with hd | hid'
      · exact hnot owner hd
      · rw [← hrefs] at hid'
        simp at hid'
    refine ⟨hok'.1, fun s' hs' hid' => ⟨?_, fun ht => absurd hid' (hoff s' hs' ht.symm)⟩⟩
    obtain ⟨d, hcanon⟩ := setCanonicalTags_spec h.tags hs.hasDefault s.target refs newTagId
    have hmem := hs'
    rw [hcanon.states] at hmem
    rcases mem_update.mp hmem with ⟨s₀, -, hk, heq⟩ | ⟨hmem, -⟩
    · refine absurd hid' (hoff s' hs' ?_)
      rw [← heq]
      exact hk
    · exact hmem
  · next hid => exact ⟨hok, fun s' hs' _ => ⟨hs', fun _ => hid⟩⟩

lemma Scrubbable.mono {s : SessionState} (hs : Scrubbable db s owner) (h : TagsGrow db db') :
    Scrubbable db' s owner := by
  obtain ⟨d, hd⟩ := hs.hasDefault
  exact ⟨h.owns.mpr hs.owns, d, h.hasDefault hd⟩

lemma foldl_scrubState_kept {id : RowId} (newTagId : Target → RowId) {states : List SessionState}
    (h : Rows db) (hs : ∀ s ∈ states, ∃ owner, Scrubbable db s owner)
    (hnot : ∀ o, ¬ HasDefault db id o) :
    let db' := states.foldl (fun db s => scrubState db id s (newTagId s.target)) db
    Rows db' ∧ (∀ o, ¬ HasDefault db' id o) ∧
      ((∀ s ∈ states, ∀ x ∈ s.activeTagsJson, Bound db s.target x) → ActiveTagsOk db →
        ActiveTagsOk db' ∧ ∀ s' ∈ db'.sessionStates, id ∈ s'.activeTagsJson →
          s' ∈ db.sessionStates ∧
            ∀ s ∈ states, s.target = s'.target → id ∉ s.activeTagsJson) := by
  induction states generalizing db with
  | nil => exact ⟨h, hnot, fun _ hok => ⟨hok, fun s' hs' _ => ⟨hs', by simp⟩⟩⟩
  | cons s states ih =>
    obtain ⟨owner, hscrub⟩ := hs s List.mem_cons_self
    obtain ⟨h₁, hgrow, hdef⟩ := rows_scrubState h hscrub id (newTagId s.target)
    have hs₁ : ∀ s' ∈ states, ∃ owner, Scrubbable (scrubState db id s (newTagId s.target)) s'
        owner := by
      intro s' hs'
      obtain ⟨o, ho⟩ := hs s' (List.mem_cons_of_mem _ hs')
      exact ⟨o, ho.mono hgrow⟩
    obtain ⟨hrows, hnot', hrest⟩ := ih h₁ hs₁ fun o hd => hnot o (hdef id o hd)
    refine ⟨hrows, hnot', fun hbound hok => ?_⟩
    obtain ⟨hok₁, hoff⟩ := ok_scrubState h hscrub (newTagId s.target) hnot
      (hbound s List.mem_cons_self) hok
    obtain ⟨hok', hmem⟩ := hrest (fun s' hs' x hx =>
      hgrow.bound (hbound s' (List.mem_cons_of_mem _ hs') x hx)) hok₁
    refine ⟨hok', fun s' hs' hid => ?_⟩
    obtain ⟨hs'₁, hall⟩ := hmem s' hs' hid
    obtain ⟨hs'₀, hhead⟩ := hoff s' hs'₁ hid
    exact ⟨hs'₀, List.forall_mem_cons.mpr ⟨hhead, hall⟩⟩

lemma dropTag_kept (h : Rows db) {id : RowId} (hnot : ∀ o, ¬ HasDefault db id o)
    (hunbound : ∀ t, ¬ Bound db t id) :
    Rows (dropTag db id) ∧ (ActiveTagsOk db → ActiveTagsOk (dropTag db id)) := by
  have howns : ∀ {o t}, Owns (dropTag db id) o t ↔ Owns db o t := owns_congr rfl rfl
  have htag : ∀ {x o}, HasTag db x o → x ≠ id → HasTag (dropTag db id) x o := by
    rintro x o ⟨t, ht, rfl, ho⟩ hne
    exact ⟨t, List.mem_filter.mpr ⟨ht, by simpa using hne⟩, rfl, ho⟩
  have hdef : ∀ {x o}, HasDefault db x o → HasDefault (dropTag db id) x o := by
    rintro x o ⟨t, ht, rfl, ho⟩
    have hne : t.id ≠ id := by
      rintro rfl
      exact hnot o ⟨t, ht, rfl, ho⟩
    exact ⟨t, List.mem_filter.mpr ⟨ht, by simpa using hne⟩, rfl, ho⟩
  have hdef' : ∀ {x o}, HasDefault (dropTag db id) x o → HasDefault db x o := by
    rintro x o ⟨t, ht, h⟩
    exact ⟨t, (List.mem_filter.mp ht).1, h⟩
  have hbound : ∀ {t x}, Bound (dropTag db id) t x ↔ Bound db t x := Iff.rfl
  have hbindings : ∀ {t x}, Bound (dropTag db id) t x →
      ∃ o, Owns (dropTag db id) o t ∧ HasTag (dropTag db id) x o := by
    intro t x hb
    obtain ⟨o, ho, ht⟩ := h.tags.bindings (hbound.mp hb)
    refine ⟨o, howns.mpr ho, htag ht ?_⟩
    rintro rfl
    exact hunbound t hb
  refine ⟨⟨⟨?_, fun t ht => h.tags.clean t (List.mem_filter.mp ht).1,
    fun hd hd' => h.tags.system (hdef' hd) (hdef' hd'), hbindings⟩, fun s hs => ?_⟩,
    fun hok s hs => ?_⟩
  · exact h.tags.keys.sublist ((List.filter_sublist).map key)
  · obtain ⟨o, d, ho, hd, hb⟩ := (h.states s hs).defaultBound
    exact ⟨⟨o, d, howns.mpr ho, hdef hd, hb⟩, (h.states s hs).nodup, (h.states s hs).score⟩
  · obtain ⟨o, d, ho, hd, hmem⟩ := (hok s hs).default
    exact ⟨(hok s hs).nodup, ⟨o, d, howns.mpr ho, hdef hd, hmem⟩,
      fun x hx => hbindings ((hok s hs).bound x hx), (hok s hs).bound, (hok s hs).score⟩

lemma deleteTag_kept (h : Rows db) {userId : RowId} {tagRef : String} {newTagId : Target → RowId}
    {r : Db × TagRegistry} (hr : deleteTag db userId tagRef newTagId = .ok r) :
    Rows r.1 ∧ (ActiveTagsOk db → ActiveTagsOk r.1) := by
  simp only [deleteTag] at hr
  split at hr
  · cases hr
  · next tag htag =>
    split at hr
    · cases hr
    · next hsys =>
      cases hr
      have hnot := not_hasDefault h.tags (requireCanonicalTag_ok htag).1 (by simpa using hsys)
      have hscrub : ∀ s ∈ db.sessionStates, ∃ owner, Scrubbable db s owner := by
        intro s hs
        obtain ⟨o, d, ho, hd, -⟩ := (h.states s hs).defaultBound
        exact ⟨o, ho, d, hd⟩
      obtain ⟨h₁, hnot₁, hok₁⟩ := foldl_scrubState_kept newTagId h hscrub hnot
      rw [foldl_scrubState_dropTagLinks]
      generalize db.sessionStates.foldl (fun db s => scrubState db tag.id s (newTagId s.target))
        db = db₁ at h₁ hnot₁ hok₁ ⊢
      have hgone := bindingsGone_dropTagLinks hnot₁
      have h₂ := rows_bindingsGone h₁ hgone
      have hunbound : ∀ t, ¬ Bound (dropTagLinks db₁ tag.id) t tag.id := by
        rintro t ⟨b, hb, -, hid⟩
        exact absurd hid (by simpa using (List.mem_filter.mp hb).2)
      obtain ⟨h₃, hok₃⟩ := dropTag_kept h₂ hnot₁ hunbound
      refine ⟨h₃, fun hok => hok₃ ?_⟩
      obtain ⟨hok', hoff⟩ := hok₁ (fun s hs => (hok s hs).bound) hok
      refine ok_bindingsGone h₁ hgone hok' fun s hs _ hid => ?_
      -- a state that still has the tag is one the loop has read
      obtain ⟨hs₀, hall⟩ := hoff s hs hid
      exact hall s hs₀ rfl hid

end ActiveTags

end CocoonSit
