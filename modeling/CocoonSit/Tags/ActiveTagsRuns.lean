import CocoonSit.Lib.Run
import CocoonSit.Tags.ActiveTagsPatch

/-!
# Active tags over whole runs

Lookups, requests and state patches in any order.
-/

namespace CocoonSit

open Table TransitionSystem

namespace ActiveTags

inductive Event where
  /-- A service looks a session state up and creates it when missing. -/
  | lookup (target : Target) (newTagId : RowId) (now : Timestamp)
  | createTag (userId : RowId) (payload : TagCreate) (newTagId : RowId)
  | deleteTag (userId : RowId) (tagRef : String) (newTagId : Target → RowId)
  | bindTag (target : Target) (tagId : String) (newTagId : RowId) (now : Timestamp)
  | unbindTag (target : Target) (tagId : String) (newTagId : RowId) (now : Timestamp)
  /-- A round comes to the end of its state patch. -/
  | patch (event : RuntimeEvent) (decision : MetaDecision) (keys : PatchKeys) (now : Timestamp)

/-- The database after a request: unchanged when it was refused. -/
def answered {ε α : Type} (db : Db) (answer : Except ε (Db × α)) : Db :=
  answer.toOption.elim db Prod.fst

/-- Drawn keys are new; requests name targets that exist. -/
def step (db : Db) : Event → Option Db
  | .lookup target newTagId now =>
    if FreshTag db newTagId ∧ (resolveTagOwnerUserIdForTarget db target).isSome then
      some (ensureSessionState db target newTagId now).1
    else none
  | .createTag userId payload newTagId =>
    if FreshTag db newTagId then some (answered db (createTag db userId payload newTagId))
    else none
  | .deleteTag userId tagRef newTagId => some (answered db (deleteTag db userId tagRef newTagId))
  | .bindTag target tagId newTagId now =>
    if FreshTag db newTagId ∧ (resolveTagOwnerUserIdForTarget db target).isSome then
      some (answered db (bindTargetTag db target tagId newTagId now))
    else none
  | .unbindTag target tagId newTagId now =>
    if FreshTag db newTagId ∧ (resolveTagOwnerUserIdForTarget db target).isSome then
      some (answered db (unbindTargetTag db target tagId newTagId now))
    else none
  | .patch event decision keys now =>
    if FreshTag db keys.tagId ∧ FreshTag db keys.sourceTagId then
      statePatch db event decision keys now
    else none

/-- Tags and bindings in order, and no session state yet. -/
structure Initial (db : Db) : Prop where
  rows : TagRows db
  states : db.sessionStates = []

/-- Every state patch fits; nothing is asked of the other steps. -/
def EventFits (db : Db) : Event → Prop
  | .patch event decision _ _ => PatchFits db event decision
  | _ => True

instance (db : Db) : ∀ e, Decidable (EventFits db e)
  | .patch event decision _ _ => inferInstanceAs (Decidable (PatchFits db event decision))
  | .lookup .. | .createTag .. | .deleteTag .. | .bindTag .. | .unbindTag .. =>
    inferInstanceAs (Decidable True)

variable {db db' : Db} {target : Target} {owner newTagId : RowId} {now : Timestamp}

/-! ## One step -/

lemma cocoon_isSome_iff {id : RowId} :
    (get db.cocoons id).isSome ↔ ∃ owner, Owns db owner (.cocoon id) := by
  simp only [Owns, resolveTagOwnerUserIdForTarget]
  cases get db.cocoons id <;> simp

lemma mergeSource_lookedUp {event : RuntimeEvent} {d : RowId}
    (h : LookedUp db db' event.target owner d) : mergeSource db' event = mergeSource db event := by
  unfold mergeSource
  split
  · congr 1
    funext id
    refine if_congr (and_congr_right fun hne => and_congr ?_ ?_) rfl rfl
    · rw [cocoon_isSome_iff, cocoon_isSome_iff]
      exact exists_congr fun _ => h.binding.owns
    · rw [get_isSome_iff, get_isSome_iff, h.keys]
      exact or_iff_left hne
  · rfl

lemma sourceBound_iff (h : Rows db) {source : Target} {d : RowId}
    (hlook : LookedUp db db' target owner d) (howner : Owns db owner target) (hne : source ≠ target)
    (hstate : source ∈ db.sessionStates.map key) :
    SourceBound db source target ↔ ∀ x, Bound db' source x → Bound db' target x := by
  have hb := hlook.binding
  have hsource : ∀ x, Bound db' source x ↔ Bound db source x := by
    intro x
    rw [hb.bound]
    exact or_iff_left fun hx => hne hx.1
  constructor
  · intro hbound x hx
    obtain ⟨b, hmem, ht, rfl⟩ := (hsource x).mp hx
    rcases hbound b hmem ht with hx | ⟨t, htag, hid, hsys, ho⟩
    · exact hb.grow.bound hx
    · have hdef : HasDefault db b.tagId owner := ⟨t, htag, hid, ho.unique howner, hsys⟩
      exact hb.bound.mpr (.inr ⟨rfl, hb.rows.system (hb.grow.hasDefault hdef) hb.default⟩)
  · intro hbound b hmem ht
    rcases hb.bound.mp (hbound b.tagId ((hsource _).mpr ⟨b, hmem, ht, rfl⟩)) with hx | ⟨-, hd⟩
    · exact .inl hx
    · -- the owner's default tag is bound to the source, so the source is the owner's too
      obtain ⟨o, ho, htag⟩ := h.tags.bindings ⟨b, hmem, ht, rfl⟩
      have hoo : o = owner := by
        rw [hd] at htag
        exact hb.rows.owner_unique (hb.grow.hasTag htag) hb.default.hasTag
      obtain ⟨s, hs, rfl⟩ := List.mem_map.mp hstate
      obtain ⟨d', hd'⟩ := h.hasDefault hs ho
      rw [hoo] at hd'
      rw [← hb.rows.system (hb.grow.hasDefault hd') hb.default] at hd
      obtain ⟨t, htag', hid, hto, hsys⟩ := hd'
      exact .inr ⟨t, htag', hid.trans hd.symm, hsys, hto ▸ howner⟩

lemma statePatch_kept (h : Rows db) {event : RuntimeEvent} {decision : MetaDecision}
    {keys : PatchKeys} (hfresh : FreshTag db keys.tagId)
    (hpatch : statePatch db event decision keys now = some db') :
    Rows db' ∧ (ActiveTagsOk db →
      (ActiveTagsOk db' ↔ PatchFits db event decision)) := by
  obtain ⟨owner, d, db₁, db₂, ctx, state, howner, hlook, rfl, hprep, rfl⟩ :=
    statePatch_prepared h hfresh hpatch
  have hkey : key state = ctx.event.target := hprep.target
  have hrow : StateRow db₂ (patchedState db₂ ctx decision state) :=
    stateRow_patchedState (hprep.rows.states state hprep.mem)
  generalize hpatched : patchedState db₂ ctx decision state = patched at hrow
  have hsame : SameTags db₂ { db₂ with
      sessionStates := update db₂.sessionStates ctx.event.target fun _ => patched } :=
    ⟨⟨owns_congr rfl rfl, id, id, id⟩, ⟨owns_congr rfl rfl, id, id, id⟩⟩
  constructor
  · refine ⟨hprep.rows.tags.congr rfl rfl hsame.grow.owns, fun s hs => ?_⟩
    rcases mem_update.mp hs with ⟨s₀, -, -, rfl⟩ | ⟨hs, -⟩
    · exact hrow.mono hsame.grow
    · exact (hprep.rows.states s hs).mono hsame.grow
  · intro hok
    have hok₁ := hlook.ok hok
    have hiff : ActiveTagsOk { db₂ with
        sessionStates := update db₂.sessionStates ctx.event.target fun _ => patched } ↔
        StateOk db₂ patched := by
      constructor
      · intro hall
        exact (hall patched (mem_update.mpr (.inl ⟨state, hprep.mem, hkey, rfl⟩))).mono hsame.back
      · intro hs s hmem
        rcases mem_update.mp hmem with ⟨s₀, -, -, rfl⟩ | ⟨hmem, -⟩
        · exact hs.mono hsame.grow
        · exact (hprep.ok hok₁ s hmem).mono hsame.grow
    rw [hiff, ← hpatched, hprep.stateOk_patchedState_iff hok₁, mergeSource_lookedUp hlook,
      PatchFits]
    cases hsource : mergeSource db ctx.event with
    | none => exact Iff.rfl
    | some source =>
      simp only [hprep.same.bound]
      obtain ⟨hne, hkey⟩ := mergeSource_eq_some hsource
      exact (sourceBound_iff h hlook howner hne hkey).symm

lemma answered_kept {ε α : Type} {answer : Except ε (Db × α)} (h : Rows db)
    (hkept : ∀ {r}, answer = .ok r → Rows r.1 ∧ (ActiveTagsOk db → ActiveTagsOk r.1)) :
    Rows (answered db answer) ∧ (ActiveTagsOk db → ActiveTagsOk (answered db answer)) := by
  cases answer with
  | error e => exact ⟨h, id⟩
  | ok r => exact hkept rfl

lemma step_kept (h : Rows db) {e : Event} (hstep : step db e = some db') :
    Rows db' ∧ (ActiveTagsOk db → (ActiveTagsOk db' ↔ EventFits db e)) := by
  have hrequest : ∀ {db' : Db}, Rows db' ∧ (ActiveTagsOk db → ActiveTagsOk db') →
      Rows db' ∧ (ActiveTagsOk db → (ActiveTagsOk db' ↔ True)) :=
    fun hk => ⟨hk.1, fun hok => iff_of_true (hk.2 hok) trivial⟩
  cases e with
  | lookup target newTagId now =>
    obtain ⟨⟨hfresh, howner⟩, hdb⟩ := Option.ite_none_right_eq_some.mp hstep
    cases hdb
    obtain ⟨owner, howner⟩ := Option.isSome_iff_exists.mp howner
    obtain ⟨d, hlook⟩ := ensureSessionState_kept h howner hfresh now
    exact hrequest ⟨hlook.rows, hlook.ok⟩
  | createTag userId payload newTagId =>
    obtain ⟨hfresh, hdb⟩ := Option.ite_none_right_eq_some.mp hstep
    cases hdb
    exact hrequest (answered_kept h fun hr => createTag_kept h hfresh hr)
  | deleteTag userId tagRef newTagId =>
    cases hstep
    exact hrequest (answered_kept h fun hr => deleteTag_kept h hr)
  | bindTag target tagId newTagId now =>
    obtain ⟨⟨hfresh, howner⟩, hdb⟩ := Option.ite_none_right_eq_some.mp hstep
    cases hdb
    obtain ⟨owner, howner⟩ := Option.isSome_iff_exists.mp howner
    exact hrequest (answered_kept h fun hr => bindTargetTag_kept h howner hfresh hr)
  | unbindTag target tagId newTagId now =>
    obtain ⟨⟨-, howner⟩, hdb⟩ := Option.ite_none_right_eq_some.mp hstep
    cases hdb
    obtain ⟨owner, howner⟩ := Option.isSome_iff_exists.mp howner
    exact hrequest (answered_kept h fun hr => unbindTargetTag_kept h howner hr)
  | patch event decision keys now =>
    obtain ⟨⟨hfresh, -⟩, hpatch⟩ := Option.ite_none_right_eq_some.mp hstep
    exact statePatch_kept h hfresh hpatch

/-! ## Runs -/

lemma Initial.inv {db₀ : Db} (h : Initial db₀) : Rows db₀ ∧ ActiveTagsOk db₀ := by
  refine ⟨⟨h.rows, fun s hs => ?_⟩, fun s hs => ?_⟩ <;> rw [h.states] at hs <;> cases hs

/-- Whatever the patches are, active tags are distinct, and relation scores are in range. -/
theorem nodup_and_score_of_run {db₀ : Db} (h₀ : Initial db₀) {es : List Event} {db : Db}
    (hrun : run step db₀ es = some db) : ∀ s ∈ db.sessionStates,
      s.activeTagsJson.Nodup ∧
        MIN_RELATION_SCORE ≤ s.relationScore ∧ s.relationScore ≤ MAX_RELATION_SCORE := by
  have hrows := invariant_run Rows (fun _ _ _ h hs => (step_kept h hs).1) h₀.inv.1 hrun
  exact fun s hs => ⟨(hrows.states s hs).nodup, (hrows.states s hs).score⟩

lemma StateOk.activeTagsJson_ne_nil {s : SessionState} (h : StateOk db s) :
    s.activeTagsJson ≠ [] := by
  obtain ⟨o, d, -, -, hmem⟩ := h.default
  exact List.ne_nil_of_mem hmem

def twoCocoons : Db where
  cocoons :=
    [{ id := "c1", ownerUserId := "u1", characterId := "ch1" },
      { id := "c2", ownerUserId := "u1", characterId := "ch1" }]

lemma initial_twoCocoons : Initial twoCocoons := by
  refine ⟨⟨List.nodup_nil, ?_, ?_, ?_⟩, rfl⟩ <;> simp [twoCocoons, HasDefault, Bound]

/-- A chat round of the first cocoon. -/
def chatPatch (ops : List TagOperation) : Event :=
  .patch { eventType := .chat, target := .cocoon "c1", actionId := "a1" } { tagOps := ops }
    ⟨"d2", "d3"⟩ 5

/-- The second cocoon is merged into the first. -/
def mergePatch : Event :=
  .patch { eventType := .merge, target := .cocoon "c1", actionId := "a2"
           payload := .ofList [("source_cocoon_id", .str "c2")] } {} ⟨"d4", "d5"⟩ 6

/-- A tag is bound to both cocoons before the first takes the second's tags over. -/
def bindBoth : List Event :=
  [.lookup (.cocoon "c1") "d1" 0, .createTag "u1" { tagId := "work", brief := "work" } "t1",
    .bindTag (.cocoon "c1") "t1" "d6" 1, .lookup (.cocoon "c2") "d7" 2,
    .bindTag (.cocoon "c2") "work" "d8" 3, chatPatch [⟨.remove, 1⟩, ⟨.add, 1⟩, ⟨.remove, 2⟩],
    mergePatch]

theorem bindBoth_nodup_and_score : Initial twoCocoons ∧
    ∀ s ∈ ((run step twoCocoons bindBoth).get rfl).sessionStates, s.activeTagsJson.Nodup ∧
      MIN_RELATION_SCORE ≤ s.relationScore ∧ s.relationScore ≤ MAX_RELATION_SCORE :=
  ⟨initial_twoCocoons, nodup_and_score_of_run initial_twoCocoons (Option.some_get rfl).symm⟩

end ActiveTags

end CocoonSit
