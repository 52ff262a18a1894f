import CocoonSit.Lib.Earliest
import CocoonSit.Lib.LastWord
import CocoonSit.Runtime.StatePatch
import CocoonSit.Tags.ActiveTags

/-!
# Active tags: state patches

The state patch does not tell the canonicalisation whose tags it works on: a decision that takes the
default tag out leaves it out, and a merge brings in whatever the source has.  `patchFits_iff` says
which patches keep the promise.
-/

namespace CocoonSit

open Table LastWord

namespace ActiveTags

/-- The last operation on the default tag, whose index is 1, is not a removal. -/
def KeepsDefault (ops : List TagOperation) : Prop :=
  lastWord (fun op => op.tagIndex = 1) (fun op => op.action = .add) True ops

/-- The other target whose session state a round merges. -/
def mergeSource (db : Db) (event : RuntimeEvent) : Option Target :=
  if event.eventType = .merge then
    (event.payload.text? "source_cocoon_id").bind fun id =>
      if Target.cocoon id ≠ event.target ∧ (get db.cocoons id).isSome ∧
        (get db.sessionStates (.cocoon id)).isSome then some (.cocoon id) else none
  else none

/-- Every tag of the source is bound to the target or is the target owner's default tag. -/
def SourceBound (db : Db) (source target : Target) : Prop :=
  ∀ b ∈ db.tagBindings, b.target = source → Bound db target b.tagId ∨
    ∃ t ∈ db.tags, t.id = b.tagId ∧ t.isSystem ∧ Owns db t.ownerUserId target

/-- The patch keeps the default tag, and a merge from another target brings bound tags only. -/
def PatchFits (db : Db) (event : RuntimeEvent) (decision : MetaDecision) : Prop :=
  match mergeSource db event with
  | none => KeepsDefault decision.tagOps
  | some source => SourceBound db source event.target

instance (ops : List TagOperation) : Decidable (KeepsDefault ops) :=
  inferInstanceAs (Decidable (lastWord _ _ _ _))

instance (db : Db) (source target : Target) : Decidable (SourceBound db source target) :=
  inferInstanceAs (Decidable (∀ b ∈ db.tagBindings, _))

instance (db : Db) (event : RuntimeEvent) (decision : MetaDecision) :
    Decidable (PatchFits db event decision) :=
  match h : mergeSource db event with
  | none => decidable_of_iff (KeepsDefault decision.tagOps) (by rw [PatchFits, h])
  | some source => decidable_of_iff (SourceBound db source event.target) (by rw [PatchFits, h])

variable {db db' : Db} {target : Target} {owner newTagId : RowId} {now : Timestamp}

/-! ## The tag operations of a patch -/

/-- The catalog a context is built with: the default tag first, then other tags, all keys clean. -/
structure Catalog (catalog : List RowId) (d : RowId) : Prop where
  head : ∃ rest, catalog = d :: rest ∧ d ∉ rest
  clean : ∀ x ∈ catalog, strip x = x ∧ x ≠ ""

lemma resolveTagIndex_mem {catalog : List RowId} {d : RowId} (hcat : Catalog catalog d) (i : ℤ) :
    resolveTagIndex catalog i = "" ∨ resolveTagIndex catalog i ∈ catalog := by
  unfold resolveTagIndex
  split
  · cases hget : catalog[(i - 1).toNat]? with
    | none => exact .inl rfl
    | some x =>
      have hx := List.mem_of_getElem? hget
      rw [Option.getD_some, (hcat.clean x hx).1]
      exact .inr hx
  · exact .inl rfl

lemma resolveTagIndex_eq_default {catalog : List RowId} {d : RowId} (hcat : Catalog catalog d)
    (i : ℤ) : resolveTagIndex catalog i = d ↔ i = 1 := by
  obtain ⟨rest, rfl, hrest⟩ := hcat.head
  have hd := hcat.clean d List.mem_cons_self
  constructor
  · intro h
    unfold resolveTagIndex at h
    split at h
    · next hi =>
      by_contra hne
      obtain ⟨n, hn⟩ : ∃ n : ℕ, (i - 1).toNat = n + 1 := ⟨(i - 2).toNat, by omega⟩
      rw [hn, List.getElem?_cons_succ] at h
      cases hget : rest[n]? with
      | none =>
        rw [hget] at h
        exact hd.2 h.symm
      | some x =>
        have hx := List.mem_of_getElem? hget
        rw [hget, Option.getD_some, (hcat.clean x (List.mem_cons_of_mem _ hx)).1] at h
        exact hrest (h ▸ hx)
    · exact absurd h.symm hd.2
  · rintro rfl
    simp [resolveTagIndex, hd.1]

lemma mem_canonicalizeUnowned (hrows : TagRows db) {refs : List RowId}
    (hrefs : ∀ r ∈ refs, ∃ o, HasTag db r o) {x : RowId} :
    x ∈ canonicalizeUnowned db refs ↔ x ∈ refs :=
  mem_resolveTagRefs hrows fun r hr => by
    obtain ⟨o, ho⟩ := hrefs r hr
    exact ⟨o, ho, by simp⟩

lemma nodup_canonicalizeUnowned (db : Db) (refs : List RowId) :
    (canonicalizeUnowned db refs).Nodup := nodup_resolveTagRefs none refs

lemma nodup_applyTagOp {catalog active : List RowId} {op : TagOperation} (h : active.Nodup) :
    (applyTagOp db catalog active op).Nodup := by
  unfold applyTagOp
  dsimp only
  split
  · split
    · exact nodup_canonicalizeUnowned ..
    · exact h
  · exact nodup_canonicalizeUnowned ..

lemma nodup_mergeTag {active : List RowId} {tag : RowId} (h : active.Nodup) :
    (mergeTag db active tag).Nodup := by
  unfold mergeTag
  split
  · exact nodup_canonicalizeUnowned ..
  · exact h

lemma mem_applyTagOp (op : TagOperation) (hrows : TagRows db) {catalog active : List RowId}
    (hactive : ∀ x ∈ active, ∃ o, HasTag db x o) (hcat : ∀ x ∈ catalog, ∃ o, HasTag db x o)
    (htag : resolveTagIndex catalog op.tagIndex = "" ∨
      resolveTagIndex catalog op.tagIndex ∈ catalog) (x : RowId) :
    x ∈ applyTagOp db catalog active op ↔
      match op.action with
      | .add => x ∈ active ∨ (resolveTagIndex catalog op.tagIndex ≠ "" ∧
          x = resolveTagIndex catalog op.tagIndex)
      | .remove => x ∈ active ∧ x ≠ resolveTagIndex catalog op.tagIndex := by
  unfold applyTagOp
  generalize resolveTagIndex catalog op.tagIndex = tag at htag
  cases op.action with
  | add =>
    dsimp only
    by_cases hadd : tag ≠ "" ∧ tag ∉ active
    · rw [if_pos hadd, mem_canonicalizeUnowned hrows]
      · simp [hadd.1]
      · intro r hr
        rcases List.mem_append.mp hr with hr | hr
        · exact hactive r hr
        · rw [List.mem_singleton.mp hr]
          exact hcat tag (htag.resolve_left hadd.1)
    · rw [if_neg hadd]
      refine ⟨.inl, fun h => h.elim id ?_⟩
      rintro ⟨hne, rfl⟩
      by_contra hx
      exact hadd ⟨hne, hx⟩
  | remove =>
    dsimp only
    rw [mem_canonicalizeUnowned hrows fun r hr => hactive r (List.mem_filter.mp hr).1]
    simp

lemma mem_foldl_mergeTag (hrows : TagRows db) {active tags : List RowId}
    (hactive : ∀ x ∈ active, ∃ o, HasTag db x o) (htags : ∀ x ∈ tags, ∃ o, HasTag db x o)
    {x : RowId} : x ∈ tags.foldl (mergeTag db) active ↔ x ∈ active ∨ x ∈ tags := by
  induction tags generalizing active with
  | nil => simp
  | cons tag tags ih =>
    have hstep : ∀ y, y ∈ mergeTag db active tag ↔ y ∈ active ∨ y = tag := by
      intro y
      unfold mergeTag
      split
      · rw [mem_canonicalizeUnowned hrows]
        · simp
        · intro r hr
          rcases List.mem_append.mp hr with hr | hr
          · exact hactive r hr
          · rw [List.mem_singleton.mp hr]
            exact htags tag List.mem_cons_self
      · next h =>
        refine ⟨.inl, fun h' => h'.elim id ?_⟩
        rintro rfl
        simpa using h
    rw [List.foldl_cons, ih, hstep, List.mem_cons, or_assoc]
    · intro y hy
      rcases (hstep y).mp hy with hy | rfl
      · exact hactive y hy
      · exact htags y List.mem_cons_self
    · exact fun y hy => htags y (List.mem_cons_of_mem _ hy)

/-- After the operations on a list of bound tags there are bound tags only; and the default tag is
among them unless the last operation on it removed it. -/
lemma foldl_applyTagOp_spec (hrows : TagRows db) {catalog active : List RowId} {d : RowId}
    (hcat : Catalog catalog d) (hcatBound : ∀ x ∈ catalog, Bound db target x)
    (hactive : ∀ x ∈ active, Bound db target x) (hd : d ∈ active) (ops : List TagOperation) :
    (∀ x ∈ ops.foldl (applyTagOp db catalog) active, Bound db target x) ∧
      (d ∈ ops.foldl (applyTagOp db catalog) active ↔ KeepsDefault ops) := by
  have hasTag : ∀ {l : List RowId}, (∀ x ∈ l, Bound db target x) → ∀ x ∈ l, ∃ o, HasTag db x o := by
    intro l hl x hx
    obtain ⟨o, -, ho⟩ := hrows.bindings (hl x hx)
    exact ⟨o, ho⟩
  have hmem := fun (l : List RowId) (op : TagOperation) (hl : ∀ x ∈ l, Bound db target x)
      (x : RowId) =>
    mem_applyTagOp op hrows (hasTag hl) (hasTag hcatBound) (resolveTagIndex_mem hcat op.tagIndex) x
  have hinv : ∀ (l : List RowId) (op : TagOperation), (∀ x ∈ l, Bound db target x) →
      ∀ x ∈ applyTagOp db catalog l op, Bound db target x := by
    intro l op hl x hx
    rw [hmem l op hl x] at hx
    split at hx
    · rcases hx with hx | ⟨hne, rfl⟩
      · exact hl x hx
      · exact hcatBound _ ((resolveTagIndex_mem hcat op.tagIndex).resolve_left hne)
    · exact hl x hx.1
  have hdne : d ≠ "" := by
    obtain ⟨rest, rfl, -⟩ := hcat.head
    exact (hcat.clean d List.mem_cons_self).2
  constructor
  · induction ops using List.reverseRecOn with
    | nil => exact hactive
    | append_singleton ops op ih =>
      rw [List.foldl_append]
      exact hinv _ op ih
  · rw [foldl_iff_lastWord (fun l => d ∈ l) (fun l => ∀ x ∈ l, Bound db target x)
      (fun op => op.tagIndex = 1) (fun op => op.action = .add) (fun l op _ => hinv l op) ?_ ?_
      hactive]
    · simp [KeepsDefault, hd]
    · intro l op _ hl hindex
      have hself : resolveTagIndex catalog op.tagIndex = d :=
        (resolveTagIndex_eq_default hcat op.tagIndex).mpr (by simpa using hindex)
      rw [hmem l op hl d, hself]
      cases op.action <;> simp [hdne]
    · intro l op _ hl hindex
      have hother : resolveTagIndex catalog op.tagIndex ≠ d := fun h => by
        simp [(resolveTagIndex_eq_default hcat op.tagIndex).mp h] at hindex
      rw [hmem l op hl d]
      split
      · exact ⟨fun h => h.elim id fun h => absurd h.2.symm hother, .inl⟩
      · exact ⟨And.left, fun h => ⟨h, hother.symm⟩⟩

/-! ## The context of a patch -/

/-- The same tags and bindings, as far as they matter here. -/
structure SameTags (db db' : Db) : Prop where
  grow : TagsGrow db db'
  back : TagsGrow db' db

lemma SameTags.refl (db : Db) : SameTags db db := ⟨.refl db, .refl db⟩

lemma SameTags.trans {db₁ db₂ : Db} (h₁ : SameTags db db₁) (h₂ : SameTags db₁ db₂) :
    SameTags db db₂ := ⟨h₁.grow.trans h₂.grow, h₂.back.trans h₁.back⟩

lemma SameTags.bound {t : Target} {x : RowId} (h : SameTags db db') :
    Bound db' t x ↔ Bound db t x := ⟨h.back.bound, h.grow.bound⟩

lemma sameTags_of_binding {d d' : RowId} (h : WithBinding db db' target owner d)
    (hd : HasDefault db d' owner) (hb : Bound db target d') : SameTags db db' := by
  have heq : d = d' := h.rows.system h.default (h.grow.hasDefault hd)
  subst heq
  refine ⟨h.grow, h.owns.symm, fun hx => ?_, fun hx => ?_, fun hx => ?_⟩
  · rcases h.hasTag.mp hx with hx | ⟨rfl, rfl⟩
    · exact hx
    · exact hd.hasTag
  · rcases h.hasDefault.mp hx with hx | ⟨rfl, rfl⟩
    · exact hx
    · exact hd
  · rcases h.bound.mp hx with hx | ⟨rfl, rfl⟩
    · exact hx
    · exact hb

lemma mergeSource_eq_some {event : RuntimeEvent} {source : Target}
    (h : mergeSource db event = some source) :
    source ≠ event.target ∧ source ∈ db.sessionStates.map key := by
  unfold mergeSource at h
  split at h
  · obtain ⟨id, -, hid⟩ := Option.bind_eq_some_iff.mp h
    obtain ⟨⟨hne, -, hstate⟩, hid⟩ := Option.ite_none_right_eq_some.mp hid
    cases hid
    exact ⟨hne, get_isSome_iff.mp hstate⟩
  · cases h

/-- What the source of a round comes to. -/
structure SourceBuilt (db db' : Db) (event : RuntimeEvent) (source : Option Target) : Prop where
  rows : Rows db'
  same : SameTags db db'
  ok : ActiveTagsOk db → ActiveTagsOk db'
  keys : db'.sessionStates.map key = db.sessionStates.map key
  merge : event.eventType = .merge → source.filter (· ≠ event.target) = mergeSource db event
  /-- The source's active tags are what is bound to it. -/
  exact_of_ok : ActiveTagsOk db → ∀ s ∈ db'.sessionStates, source = some s.target →
    ∀ x, Bound db' s.target x → x ∈ s.activeTagsJson

lemma sourceBuilt_none (h : Rows db) {event : RuntimeEvent}
    (hmerge : event.eventType = .merge → mergeSource db event = none) :
    SourceBuilt db db event none :=
  ⟨h, .refl db, id, rfl, fun he => (hmerge he).symm, fun _ _ _ hs => by cases hs⟩

lemma buildSource_spec (h : Rows db) (event : RuntimeEvent) (newTagId : RowId) (now : Timestamp) :
    SourceBuilt db (buildSource db event newTagId now).1 event
      (buildSource db event newTagId now).2 := by
  unfold buildSource
  split
  · split
    · next hid => exact sourceBuilt_none h fun he => by simp [mergeSource, he, hid]
    · next id hid =>
      split
      · next hcocoon =>
        obtain ⟨cocoon, hcocoon⟩ := Option.isSome_iff_exists.mp hcocoon
        have howner : Owns db cocoon.ownerUserId (.cocoon id) := by
          simp [Owns, resolveTagOwnerUserIdForTarget, hcocoon]
        cases hget : get db.sessionStates (.cocoon id) with
        | none =>
          rw [getSessionState_none hget]
          exact sourceBuilt_none h fun he => by simp [mergeSource, he, hid, hcocoon, hget]
        | some state =>
          have hkey : state.target = .cocoon id := key_of_get hget
          have hmem := mem_of_get hget
          obtain ⟨o, d', ho, hd', hb⟩ := (h.states state hmem).defaultBound
          have hoo : o = cocoon.ownerUserId := ho.unique (hkey ▸ howner)
          subst hoo
          obtain ⟨d, active, hreal, hstates, hstate⟩ := getSessionState_spec
            newTagId now h.tags howner (.inl ⟨d', hd'⟩) hget
          have hat := statesAt_update hstates
          dsimp only
          rw [hstate]
          refine ⟨rows_realigned h howner hreal hat,
            sameTags_of_binding hreal.toWithBinding hd' (hkey ▸ hb),
            ok_realigned h howner hreal hat (.inr ⟨state, hmem, hkey, rfl⟩), ?_, ?_, ?_⟩
          · rw [hstates, targets_setActive]
          · intro he
            by_cases hself : Target.cocoon id = event.target <;>
              simp [mergeSource, he, hid, hcocoon, hget, hkey, hself]
          · intro hok s hs hsource x hx
            have hexact := hreal.exact_of_bound (hkey ▸ (hok state hmem).bound)
            rw [Option.map_some, Option.some.injEq] at hsource
            have ht : s.target = .cocoon id := hsource.symm.trans hkey
            rcases hat s hs with ⟨-, hne⟩ | ⟨s₀, -, -, rfl⟩
            · exact absurd ht hne
            · rw [ht] at hx
              exact (hexact x).mpr hx
      · next hcocoon =>
        have hnone : get db.cocoons id = none := by simpa using hcocoon
        exact sourceBuilt_none h fun he => by simp [mergeSource, he, hid, hnone]
  · next hne =>
    exact sourceBuilt_none h fun he => absurd (.inr he) hne

lemma mem_orderedBoundTags {t : TagRegistry} :
    t ∈ orderedBoundTags db (boundTagIds db target) owner ↔
      t ∈ db.tags ∧ Bound db target t.id ∧ t.ownerUserId = owner := by
  simp [orderedBoundTags, mem_boundTagIds]

lemma catalog_orderedBoundTags (h : Rows db) {d : RowId} (hd : HasDefault db d owner)
    (hb : Bound db target d) :
    Catalog ((orderedBoundTags db (boundTagIds db target) owner).map TagRegistry.id) d := by
  have hnodup : ((orderedBoundTags db (boundTagIds db target) owner).map TagRegistry.id).Nodup := by
    have hperm := List.perm_insertionSort
      (fun a b : TagRegistry => a.catalogKey ≤ b.catalogKey)
      (db.tags.filter fun t => t.id ∈ boundTagIds db target ∧ t.ownerUserId = owner)
    rw [orderedBoundTags, orderBy, (hperm.map TagRegistry.id).nodup_iff]
    exact h.tags.keys.sublist ((List.filter_sublist).map key)
  obtain ⟨td, htd, hid, hto, hsys⟩ := hd
  have htdv : td ∈ orderedBoundTags db (boundTagIds db target) owner :=
    mem_orderedBoundTags.mpr ⟨htd, hid ▸ hb, hto⟩
  constructor
  · cases hlist : orderedBoundTags db (boundTagIds db target) owner with
    | nil =>
      rw [hlist] at htdv
      cases htdv
    | cons t rest =>
      have hle := le_of_head?_orderBy (r := t) (by rw [← orderedBoundTags, hlist]; rfl)
        (mem_orderBy.mp htdv)
      have htv : t ∈ orderedBoundTags db (boundTagIds db target) owner :=
        hlist ▸ List.mem_cons_self
      obtain ⟨ht, -, hto'⟩ := mem_orderedBoundTags.mp htv
      have htsys : t.isSystem := by
        rcases Prod.Lex.le_iff.mp hle with hlt | ⟨heq, -⟩
        · -- nothing sorts before a system tag
          have hlt' : (!t.isSystem) < (!td.isSystem) := hlt
          rw [hsys] at hlt'
          exact absurd hlt' (by cases t.isSystem <;> decide)
        · simpa [TagRegistry.catalogKey, hsys] using heq
      have hdt : t.id = d := h.tags.system ⟨t, ht, rfl, hto', htsys⟩ ⟨td, htd, hid, hto, hsys⟩
      rw [hlist, List.map_cons, hdt] at hnodup
      rw [List.map_cons, hdt]
      exact ⟨_, rfl, (List.nodup_cons.mp hnodup).1⟩
  · intro x hx
    obtain ⟨t, ht, rfl⟩ := List.mem_map.mp hx
    exact h.tags.clean t (mem_orderedBoundTags.mp ht).1

lemma serializePromptTagCatalog_spec (h : Rows db) (howner : Owns db owner target) {d : RowId}
    (hd : HasDefault db d owner) (hb : Bound db target d) (newTagId : RowId) (now : Timestamp) :
    let r := serializePromptTagCatalog db target newTagId now
    Rows r.1 ∧ SameTags db r.1 ∧ r.1.sessionStates = db.sessionStates ∧ Catalog r.2 d ∧
      ∀ x ∈ r.2, Bound r.1 target x := by
  have hbinding := ensureTargetDefaultBinding_spec newTagId now h.tags howner
    (.inl ⟨d, hd⟩)
  have hstates := sessionStates_ensureTargetDefaultBinding db target newTagId now
  have hresolve : resolveTagOwnerUserIdForTarget db target = some owner := howner
  have hsame := sameTags_of_binding hbinding hd hb
  simp only [serializePromptTagCatalog, listVisibleBoundTags, hresolve, listTargetBoundTagIds]
  generalize ensureTargetDefaultBinding db target newTagId now = r at hbinding hstates hsame ⊢
  have hrows : Rows r.1 :=
    ⟨hbinding.rows, fun s hs => (h.states s (hstates ▸ hs)).mono hbinding.grow⟩
  refine ⟨hrows, hsame, hstates,
    catalog_orderedBoundTags hrows (hsame.grow.hasDefault hd) (hsame.grow.bound hb), ?_⟩
  intro x hx
  obtain ⟨t, ht, rfl⟩ := List.mem_map.mp hx
  exact (mem_orderedBoundTags.mp ht).2.1

/-! ## The patch -/

/-- What a lookup that may create the session state comes to. -/
structure LookedUp (db db' : Db) (target : Target) (owner d : RowId) : Prop where
  rows : Rows db'
  binding : WithBinding db db' target owner d
  ok : ActiveTagsOk db → ActiveTagsOk db'
  keys : ∀ t, t ∈ db'.sessionStates.map key ↔ t ∈ db.sessionStates.map key ∨ t = target

lemma ensureSessionState_kept (h : Rows db) (howner : Owns db owner target)
    (hfresh : FreshTag db newTagId) (now : Timestamp) :
    ∃ d, LookedUp db (ensureSessionState db target newTagId now).1 target owner d := by
  obtain ⟨d, old, active, hreal, hat, hold, hkeys⟩ :=
    ensureSessionState_spec newTagId now h.tags howner (.inr hfresh)
  exact ⟨d, rows_realigned h howner hreal hat, hreal.toWithBinding,
    ok_realigned h howner hreal hat hold, hkeys⟩

/-- Where the target's new state is computed from `state`; `db₁` is the database after the lookup
of the target. -/
structure Prepared (db₁ db' : Db) (ctx : PatchContext) (owner d : RowId) (state : SessionState) :
    Prop where
  rows : Rows db'
  same : SameTags db₁ db'
  keys : db'.sessionStates.map key = db₁.sessionStates.map key
  ok : ActiveTagsOk db₁ → ActiveTagsOk db'
  owns : Owns db' owner ctx.event.target
  default : HasDefault db' d owner
  bound : Bound db' ctx.event.target d
  mem : state ∈ db'.sessionStates
  target : state.target = ctx.event.target
  catalog : Catalog ctx.tagCatalog d
  catalogBound : ∀ x ∈ ctx.tagCatalog, Bound db' ctx.event.target x
  merge : ctx.event.eventType = .merge →
    ctx.source.filter (· ≠ ctx.event.target) = mergeSource db₁ ctx.event
  exact_of_ok : ActiveTagsOk db₁ → ∀ s ∈ db'.sessionStates, ctx.source = some s.target →
    s.target ≠ ctx.event.target → ∀ x, Bound db' s.target x → x ∈ s.activeTagsJson

lemma Prepared.ensureStateDefaultTag {db₁ : Db} {ctx : PatchContext} {d : RowId}
    {state : SessionState} (h : Prepared db₁ db ctx owner d state) (newTagId : RowId) :
    Prepared db₁ (ensureStateDefaultTag db state newTagId).1 ctx owner d
      (ensureStateDefaultTag db state newTagId).2 := by
  have howner : Owns db owner state.target := h.target ▸ h.owns
  have hd : ∃ d, HasDefault db d owner := ⟨d, h.default⟩
  have heq : CocoonSit.ensureStateDefaultTag db state newTagId =
      (setCanonicalTags db state.target state.activeTagsJson (some owner) newTagId,
        { state with activeTagsJson :=
            (canonicalizeTagRefs db state.activeTagsJson true (some owner) newTagId).2 }) := by
    have hresolve : resolveTagOwnerUserIdForTarget db state.target = some owner := howner
    simp only [CocoonSit.ensureStateDefaultTag, setCanonicalTags, hresolve]
  have hrows := rows_setCanonicalTags h.rows hd state.target state.activeTagsJson newTagId
  have hok := fun hok => (ok_setCanonicalTags h.rows howner hd state.activeTagsJson newTagId
    (hok state h.mem).bound hok).1
  have hdef : ∀ {x o}, HasDefault (setCanonicalTags db state.target state.activeTagsJson
    (some owner)
      newTagId) x o → HasDefault db x o := hasDefault_setCanonicalTags h.rows hd
  obtain ⟨d', hcanon⟩ :=
    setCanonicalTags_spec h.rows.tags hd state.target state.activeTagsJson newTagId
  rw [heq]
  have hback : TagsGrow (setCanonicalTags db state.target state.activeTagsJson (some owner)
      newTagId) db := by
    refine ⟨hcanon.owns.symm, fun hx => ?_, hdef, hcanon.bound.mp⟩
    rcases hcanon.hasTag.mp hx with hx | ⟨rfl, rfl⟩
    · exact hx
    · exact hcanon.default_old.hasTag
  refine ⟨hrows, h.same.trans ⟨hcanon.grow, hback⟩, ?_, fun hok₁ => hok (h.ok hok₁),
    hcanon.owns.mpr h.owns, hcanon.grow.hasDefault h.default, hcanon.bound.mpr h.bound, ?_,
    h.target, h.catalog, fun x hx => hcanon.bound.mpr (h.catalogBound x hx), h.merge, ?_⟩
  · rw [hcanon.states, targets_setActive, h.keys]
  · rw [hcanon.states]
    exact mem_update.mpr (.inl ⟨state, h.mem, rfl, rfl⟩)
  · intro hok₁ s hs hsource hne x hx
    rw [hcanon.states] at hs
    rcases mem_update.mp hs with ⟨s₀, -, hk, rfl⟩ | ⟨hs, -⟩
    · exact absurd (hk.trans h.target) hne
    · exact h.exact_of_ok hok₁ s hs hsource hne x (hcanon.bound.mp hx)

lemma statePatch_prepared (h : Rows db) {event : RuntimeEvent} {decision : MetaDecision}
    {keys : PatchKeys} (hfresh : FreshTag db keys.tagId)
    (hpatch : statePatch db event decision keys now = some db') :
    ∃ owner d db₁ db₂ ctx state, Owns db owner event.target ∧
      LookedUp db db₁ event.target owner d ∧ ctx.event = event ∧
      Prepared db₁ db₂ ctx owner d state ∧
      db' = { db₂ with
        sessionStates := update db₂.sessionStates event.target fun _ =>
          patchedState db₂ ctx decision state } := by
  obtain ⟨⟨db₃, ctx⟩, hbuilt, rfl⟩ := Option.map_eq_some_iff.mp hpatch
  simp only [buildPatchContext] at hbuilt
  split at hbuilt
  · next howner =>
    obtain ⟨owner, howner⟩ := Option.isSome_iff_exists.mp howner
    obtain ⟨d, hlook⟩ := ensureSessionState_kept h howner hfresh now
    generalize CocoonSit.ensureSessionState db event.target keys.tagId now = r₁
      at hbuilt hlook
    have hsource := buildSource_spec hlook.rows event keys.sourceTagId now
    generalize buildSource r₁.1 event keys.sourceTagId now = r₂ at hbuilt hsource
    have hgrow := hlook.binding.grow.trans hsource.same.grow
    have howner₂ : Owns r₂.1 owner event.target := hgrow.owns.mpr howner
    have hd₂ : HasDefault r₂.1 d owner := hsource.same.grow.hasDefault hlook.binding.default
    have hb₂ : Bound r₂.1 event.target d :=
      hsource.same.grow.bound (hlook.binding.bound.mpr (.inr ⟨rfl, rfl⟩))
    obtain ⟨hrows₃, hsame₃, hstates₃, hcat, hcatBound⟩ :=
      serializePromptTagCatalog_spec hsource.rows howner₂ hd₂ hb₂ keys.tagId now
    generalize serializePromptTagCatalog r₂.1 event.target keys.tagId now = r₃
      at hbuilt hrows₃ hsame₃ hstates₃ hcat hcatBound
    cases hbuilt
    have hkey : event.target ∈ r₃.1.sessionStates.map key := by
      rw [hstates₃, hsource.keys]
      exact (hlook.keys _).mpr (.inr rfl)
    obtain ⟨state, hget⟩ := Option.isSome_iff_exists.mp (get_isSome_iff.mpr hkey)
    have hprep : Prepared r₁.1 r₃.1 ⟨event, r₃.2, r₂.2⟩ owner d state := by
      refine ⟨hrows₃, hsource.same.trans hsame₃, ?_, fun hok s hs => ?_,
        hsame₃.grow.owns.mpr howner₂, hsame₃.grow.hasDefault hd₂, hsame₃.grow.bound hb₂,
        mem_of_get hget, key_of_get hget, hcat, hcatBound, hsource.merge, ?_⟩
      · rw [hstates₃, hsource.keys]
      · exact (hsource.ok hok s (hstates₃ ▸ hs)).mono hsame₃.grow
      · intro hok s hs hs' _ x hx
        exact hsource.exact_of_ok hok s (hstates₃ ▸ hs) hs' x (hsame₃.bound.mp hx)
    refine ⟨owner, d, r₁.1, _, _, _, howner, hlook, rfl,
      hprep.ensureStateDefaultTag keys.tagId, ?_⟩
    simp only [applyStatePatch, hget]
  · cases hbuilt

lemma clampScore_mem (score : ℤ) :
    MIN_RELATION_SCORE ≤ clampScore score ∧ clampScore score ≤ MAX_RELATION_SCORE := by
  unfold clampScore MIN_RELATION_SCORE MAX_RELATION_SCORE
  omega

section PatchedState

variable {db₁ : Db} {ctx : PatchContext} {decision : MetaDecision} {d : RowId}
  {state : SessionState}

lemma target_patchedState : (patchedState db ctx decision state).target = state.target := by
  unfold patchedState
  dsimp only
  split <;> rfl

lemma stateRow_patchedState (hrow : StateRow db state) :
    StateRow db (patchedState db ctx decision state) := by
  have hdefault : ∃ owner d, Owns db owner (patchedState db ctx decision state).target ∧
      HasDefault db d owner ∧ Bound db (patchedState db ctx decision state).target d := by
    rw [target_patchedState]
    exact hrow.defaultBound
  have hops : (decidedState db ctx decision state).activeTagsJson.Nodup :=
    List.foldlRecOn decision.tagOps _ hrow.nodup fun l hl op _ => nodup_applyTagOp hl
  refine ⟨hdefault, ?_, ?_⟩
  · unfold patchedState
    dsimp only
    split
    · next source _ =>
      exact List.foldlRecOn source.activeTagsJson _ hops fun l hl tag _ => nodup_mergeTag hl
    · exact hops
  · unfold patchedState
    dsimp only
    split <;> exact clampScore_mem _

lemma Prepared.mergeSourceState_spec (h : Prepared db₁ db ctx owner d state)
    (decided : SessionState) (ht : decided.target = ctx.event.target) :
    match mergeSource db₁ ctx.event with
    | none => ∀ s ∈ mergeSourceState db ctx decided, s = decided
    | some source => source ≠ ctx.event.target ∧ ctx.source = some source ∧
        ∃ s ∈ db.sessionStates, s.target = source ∧ mergeSourceState db ctx decided = some s := by
  unfold mergeSourceState
  by_cases hmerge : ctx.event.eventType = .merge
  · have hsource := h.merge hmerge
    rw [if_pos hmerge, ht]
    cases hctx : ctx.source with
    | none =>
      rw [hctx] at hsource
      rw [← hsource]
      simp
    | some source =>
      by_cases hself : source = ctx.event.target
      · rw [hctx, Option.filter_some, if_neg (by simpa using hself)] at hsource
        rw [← hsource]
        simp [hself]
      · rw [hctx, Option.filter_some, if_pos (by simpa using hself)] at hsource
        have hkey : source ∈ db.sessionStates.map key := by
          rw [h.keys]
          exact (mergeSource_eq_some hsource.symm).2
        obtain ⟨s, hs⟩ := Option.isSome_iff_exists.mp (get_isSome_iff.mpr hkey)
        rw [← hsource]
        refine ⟨hself, rfl, s, mem_of_get hs, key_of_get hs, ?_⟩
        rw [Option.bind_some, if_neg hself, hs]
  · have hnone : mergeSource db₁ ctx.event = none := by
      unfold mergeSource
      rw [if_neg hmerge]
    rw [hnone, if_neg hmerge]
    simp

lemma mem_activeTags_patchedState (hrows : TagRows db) {x : RowId}
    (hdecided : ∀ y ∈ (decidedState db ctx decision state).activeTagsJson, ∃ o, HasTag db y o)
    (hsource : ∀ s ∈ mergeSourceState db ctx (decidedState db ctx decision state),
      ∀ y ∈ s.activeTagsJson, ∃ o, HasTag db y o) :
    x ∈ (patchedState db ctx decision state).activeTagsJson ↔
      x ∈ (decidedState db ctx decision state).activeTagsJson ∨
        ∃ s ∈ mergeSourceState db ctx (decidedState db ctx decision state),
          x ∈ s.activeTagsJson := by
  unfold patchedState
  dsimp only
  cases hs : mergeSourceState db ctx (decidedState db ctx decision state) with
  | none => simp
  | some s =>
    rw [hs] at hsource
    simp only [mergeState, Option.mem_def, Option.some.injEq, exists_eq_left']
    exact mem_foldl_mergeTag hrows hdecided (hsource s rfl)

lemma Prepared.stateOk_patchedState_iff (h : Prepared db₁ db ctx owner d state)
    (hok : ActiveTagsOk db₁) : StateOk db (patchedState db ctx decision state) ↔
      match mergeSource db₁ ctx.event with
      | none => KeepsDefault decision.tagOps
      | some source => ∀ x, Bound db source x → Bound db ctx.event.target x := by
  have hstate := h.ok hok state h.mem
  have howner : Owns db owner state.target := h.target ▸ h.owns
  have hactive : ∀ x ∈ state.activeTagsJson, Bound db ctx.event.target x :=
    fun x hx => h.target ▸ hstate.bound x hx
  obtain ⟨hops, hkeeps⟩ := foldl_applyTagOp_spec h.rows.tags h.catalog h.catalogBound hactive
    (hstate.mem_default h.rows.tags howner h.default) decision.tagOps
  change (∀ x ∈ (decidedState db ctx decision state).activeTagsJson, _) at hops
  change d ∈ (decidedState db ctx decision state).activeTagsJson ↔ _ at hkeeps
  -- what has to be seen of the new state
  have hiff : StateOk db (patchedState db ctx decision state) ↔
      d ∈ (patchedState db ctx decision state).activeTagsJson ∧
        ∀ x ∈ (patchedState db ctx decision state).activeTagsJson,
          Bound db ctx.event.target x := by
    have ht : (patchedState db ctx decision state).target = ctx.event.target :=
      target_patchedState.trans h.target
    constructor
    · intro hs
      exact ⟨hs.mem_default h.rows.tags (ht ▸ h.owns) h.default, fun x hx => ht ▸ hs.bound x hx⟩
    · rintro ⟨hmem, hbound⟩
      exact stateOk_of_bound h.rows.tags (stateRow_patchedState (h.rows.states state h.mem))
        (ht ▸ h.owns) h.default hmem fun x hx => ht ▸ hbound x hx
  have hasTag : ∀ {t x}, Bound db t x → ∃ o, HasTag db x o := by
    intro t x hb
    obtain ⟨o, -, ho⟩ := h.rows.tags.bindings hb
    exact ⟨o, ho⟩
  have hspec := h.mergeSourceState_spec (decidedState db ctx decision state) h.target
  have hmem := fun hs x => mem_activeTags_patchedState (x := x) h.rows.tags
    (fun y hy => hasTag (hops y hy)) hs
  generalize patchedState db ctx decision state = patched at hiff hmem
  generalize decidedState db ctx decision state = decided at hops hkeeps hspec hmem
  cases hsource : mergeSource db₁ ctx.event with
  | none =>
    rw [hsource] at hspec
    have hself : ∀ x, x ∈ patched.activeTagsJson ↔ x ∈ decided.activeTagsJson := by
      intro x
      rw [hmem (fun s hs y hy => hasTag (hops y (hspec s hs ▸ hy))) x]
      exact ⟨fun hx => hx.elim id fun ⟨s, hs, hx⟩ => hspec s hs ▸ hx, .inl⟩
    rw [hiff, hself, hkeeps]
    exact ⟨And.left, fun hk => ⟨hk, fun x hx => hops x ((hself x).mp hx)⟩⟩
  | some source =>
    rw [hsource] at hspec
    obtain ⟨hne, hctx, s, hs, ht, heq⟩ := hspec
    subst ht
    have hsok := h.ok hok s hs
    have hexact : ∀ x, x ∈ s.activeTagsJson ↔ Bound db s.target x :=
      fun x => ⟨hsok.bound x, h.exact_of_ok hok s hs hctx hne x⟩
    have hmerged : ∀ x, x ∈ patched.activeTagsJson ↔
        x ∈ decided.activeTagsJson ∨ Bound db s.target x := by
      intro x
      rw [hmem, heq]
      · simp [hexact]
      · rw [heq]
        rintro _ ⟨⟩ y hy
        exact hasTag (hsok.bound y hy)
    rw [hiff]
    constructor
    · intro hall x hx
      exact hall.2 x ((hmerged x).mpr (.inr hx))
    · intro hbound
      refine ⟨(hmerged d).mpr (.inr ?_), fun x hx => ((hmerged x).mp hx).elim (hops x) (hbound x)⟩
      -- the source's own default tag is bound to the target, so its owner is the same
      obtain ⟨o, d', ho, hd', hb⟩ := (h.rows.states s hs).defaultBound
      obtain ⟨o', ho', htag⟩ := h.rows.tags.bindings (hbound d' hb)
      have hoo : o = owner := (h.rows.tags.owner_unique hd'.hasTag htag).trans (ho'.unique h.owns)
      subst hoo
      exact h.rows.tags.system hd' h.default ▸ hb

end PatchedState

end ActiveTags

end CocoonSit
