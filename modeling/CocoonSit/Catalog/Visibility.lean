import CocoonSit.Catalog.Characters

/-!
# What a character's visibility is worth

A private character is to be open to nobody but admins, its creator and those whom the access list
names, and an update that leaves the visibility alone is to leave the access list alone.  Both are
read along runs of requests that start from an empty catalog.  The synchronisation looks at one of
the entries for everybody, and there may be several, added one by one; and it runs on every update.
-/

namespace CocoonSit

open Table TransitionSystem

/-! ## Properties -/

/-- A private character is closed to a user who is no admin, has not made it and is matched by no
entry but those for everybody. -/
def PrivateConfined (s : Catalog) : Prop :=
  ∀ character ∈ s.characters, isPublic character.settingsJson = false →
    ∀ (settings : Settings) (accounts : Accounts) (user : User),
      isAdmin settings (s.within accounts) user = false →
      character.createdByUserId ≠ some user.id →
      (∀ acl ∈ s.acls, acl.characterId = character.id →
        normalizeSubjectType acl.subjectType ≠ AUTHENTICATED_ALL →
          characterAclMatches (s.within accounts) user acl.toCharacterAcl true = false) →
      canReadCharacter settings (s.within accounts) user character.toCharacter = false ∧
        canUseCharacter settings (s.within accounts) user character.toCharacter = false

/-- The update says something about the visibility. -/
def CharacterUpdate.mentionsVisibility (payload : CharacterUpdate) : Bool :=
  payload.settingsJson.any fun settingsJson => (settingsJson "visibility").isSome

/-- An update that does not mention the visibility leaves the access lists as they are. -/
def KeepsAcls (s : Catalog) (e : CharacterEvent) (s' : Catalog) : Prop :=
  match e with
  | .update _ payload _ =>
    payload.mentionsVisibility = false → ∀ acl, acl ∈ s'.acls ↔ acl ∈ s.acls
  | _ => True

/-! ## Conditions -/

/-- No entry for everybody is given to a private character that grants anything, and where an update
leaves a character private, all its entries for everybody but the one that is looked at grant
nothing. -/
def LeavesNoneOpen (s : Catalog) : CharacterEvent → Prop
  | .update characterId payload choice => ∀ character ∈ s.characters, character.id = characterId →
      isPublic (payload.settingsJson.getD character.settingsJson) = false →
        ∀ acl ∈ publicAcls s.acls characterId,
          choice.pick (publicAcls s.acls characterId) ≠ some acl →
          acl.canRead = false ∧ acl.canUse = false
  | .createAcl characterId payload => ∀ character ∈ s.characters, character.id = characterId →
      isPublic character.settingsJson = false →
        normalizeSubjectType payload.subjectType = AUTHENTICATED_ALL →
          payload.canRead = false ∧ payload.canUse = false
  | _ => True

/-- The synchronisation finds the access list in line with the visibility. -/
def InLine (choice : RowChoice CharacterAclRow) (acls : List CharacterAclRow)
    (characterId : RowId) (settingsJson : JsonDict) : Prop :=
  if isPublic settingsJson then
    ∃ acl, choice.pick (publicAcls acls characterId) = some acl ∧ acl.canRead = true ∧
      acl.canUse = false
  else publicAcls acls characterId = []

/-- An update that does not mention the visibility finds it in line with the access list. -/
def FindsInLine (s : Catalog) : CharacterEvent → Prop
  | .update characterId payload choice => payload.mentionsVisibility = false →
      ∀ character ∈ s.characters, character.id = characterId →
        InLine choice s.acls characterId (payload.settingsJson.getD character.settingsJson)
  | _ => True

/-! ## What every request keeps -/

structure Catalog.Consistent (s : Catalog) : Prop where
  characterKeys : (s.characters.map key).Nodup
  aclKeys : (s.acls.map key).Nodup
  refers : ∀ acl ∈ s.acls, acl.characterId ∈ s.characters.map key
  normalized : ∀ acl ∈ s.acls, normalizeSubjectType acl.subjectType = acl.subjectType

/-- Private characters have no entry for everybody that grants anything. -/
def NoneOpen (s : Catalog) : Prop :=
  ∀ character ∈ s.characters, isPublic character.settingsJson = false →
    ∀ acl ∈ publicAcls s.acls character.id, acl.canRead = false ∧ acl.canUse = false

variable {newId : NewId} {choice : RowChoice CharacterAclRow} {s s' : Catalog}
  {acls : List CharacterAclRow} {acl : CharacterAclRow} {character : CharacterRow}
  {characterId : RowId}

lemma mem_publicAcls : acl ∈ publicAcls acls characterId ↔
    acl ∈ acls ∧ acl.characterId = characterId ∧ acl.subjectType = AUTHENTICATED_ALL := by
  simp [publicAcls]

/-! ## The synchronisation -/

lemma normalizeSubjectType_authenticatedAll :
    normalizeSubjectType AUTHENTICATED_ALL = AUTHENTICATED_ALL := by
  decide +kernel

/-- What an entry for everybody becomes when it is brought in line. -/
def broughtInLine (acl : CharacterAclRow) : CharacterAclRow :=
  { acl with canRead := true, canUse := false }

lemma broughtInLine_of_rights (hread : acl.canRead = true) (huse : acl.canUse = false) :
    broughtInLine acl = acl := by
  obtain ⟨⟨_, _, _, _, _⟩, _⟩ := acl
  cases hread
  cases huse
  rfl

variable (newId choice acls) in
lemma sync_public (hpublic : isPublic character.settingsJson = true) :
    (∃ existingAcl, choice.pick (publicAcls acls character.id) = some existingAcl ∧
        syncPublicVisibilityAcl newId choice acls character =
          update acls existingAcl.id broughtInLine) ∨
      (choice.pick (publicAcls acls character.id) = none ∧
        syncPublicVisibilityAcl newId choice acls character =
          acls ++ [publicAcl newId acls character.id]) := by
  unfold syncPublicVisibilityAcl
  rw [hpublic]
  cases choice.pick (publicAcls acls character.id) with
  | none => exact .inr ⟨rfl, rfl⟩
  | some existingAcl => exact .inl ⟨existingAcl, rfl, rfl⟩

lemma mem_sync_private (hpublic : isPublic character.settingsJson = false)
    (hkeys : (acls.map key).Nodup) :
    acl ∈ syncPublicVisibilityAcl newId choice acls character ↔
      acl ∈ acls ∧ choice.pick (publicAcls acls character.id) ≠ some acl := by
  unfold syncPublicVisibilityAcl
  rw [hpublic]
  cases hpick : choice.pick (publicAcls acls character.id) with
  | none => simp
  | some existingAcl =>
    have hmem := (mem_publicAcls.mp (choice.mem_of_pick hpick)).1
    simp only [List.mem_filter, ne_eq, decide_not, Bool.not_eq_true', decide_eq_false_iff_not,
      Option.some.injEq]
    refine and_congr_right fun hacl => not_congr ⟨fun hid => ?_, fun heq => heq ▸ rfl⟩
    exact (List.inj_on_of_nodup_map hkeys hacl hmem hid).symm

lemma of_mem_sync (hkeys : (acls.map key).Nodup)
    (hacl : acl ∈ syncPublicVisibilityAcl newId choice acls character) :
    acl ∈ acls ∨ acl = publicAcl newId acls character.id ∨
      ∃ existingAcl ∈ publicAcls acls character.id, acl = broughtInLine existingAcl := by
  cases hpublic : isPublic character.settingsJson with
  | false =>
    unfold syncPublicVisibilityAcl at hacl
    rw [hpublic] at hacl
    cases hpick : choice.pick (publicAcls acls character.id) with
    | none =>
      rw [hpick] at hacl
      exact .inl hacl
    | some existingAcl =>
      rw [hpick] at hacl
      exact .inl (List.mem_of_mem_filter hacl)
  | true =>
    rcases sync_public newId choice acls hpublic with
      ⟨existingAcl, hpick, heq⟩ | ⟨hpick, heq⟩
    · have hmem := choice.mem_of_pick hpick
      rw [heq, mem_update] at hacl
      rcases hacl with ⟨row, hrow, hkey, rfl⟩ | ⟨hacl, -⟩
      · have heq := List.inj_on_of_nodup_map hkeys hrow (mem_publicAcls.mp hmem).1 hkey
        exact .inr (.inr ⟨existingAcl, hmem, heq ▸ rfl⟩)
      · exact .inl hacl
    · rw [heq, List.mem_append, List.mem_singleton] at hacl
      exact hacl.imp_right .inl

lemma nodup_sync (hkeys : (acls.map key).Nodup) :
    ((syncPublicVisibilityAcl newId choice acls character).map key).Nodup := by
  cases hpublic : isPublic character.settingsJson with
  | false =>
    unfold syncPublicVisibilityAcl
    rw [hpublic]
    cases choice.pick (publicAcls acls character.id) with
    | none => exact hkeys
    | some existingAcl => exact hkeys.sublist (List.filter_sublist.map key)
  | true =>
    rcases sync_public newId choice acls hpublic with
      ⟨existingAcl, -, heq⟩ | ⟨-, heq⟩
    · rwa [heq, map_key_update (f := broughtInLine) fun _ => rfl]
    · rw [heq, List.map_append, List.map_singleton, ← List.concat_eq_append]
      exact hkeys.concat (newId.draw_notMem _)

lemma sync_same_iff (hkeys : (acls.map key).Nodup) :
    (∀ acl, acl ∈ syncPublicVisibilityAcl newId choice acls character ↔ acl ∈ acls) ↔
      InLine choice acls character.id character.settingsJson := by
  unfold InLine
  split
  · rename_i hpublic
    rcases sync_public newId choice acls hpublic with
      ⟨existingAcl, hpick, heq⟩ | ⟨hpick, heq⟩
    · have hmem := (mem_publicAcls.mp (choice.mem_of_pick hpick)).1
      rw [heq]
      simp only [hpick, Option.some.injEq, exists_eq_left']
      constructor
      · intro h
        rcases mem_update.mp ((h existingAcl).mpr hmem) with ⟨row, -, -, hrow⟩ | ⟨-, hne⟩
        · exact ⟨hrow ▸ rfl, hrow ▸ rfl⟩
        · exact absurd rfl hne
      · rintro ⟨hread, huse⟩ acl
        have hsame : update acls existingAcl.id broughtInLine = acls := by
          refine (List.map_congr_left fun row hrow => ?_).trans (List.map_id acls)
          split
          · rename_i hkey
            rw [List.inj_on_of_nodup_map hkeys hrow hmem hkey]
            exact broughtInLine_of_rights hread huse
          · rfl
        rw [hsame]
    · rw [heq]
      simp only [hpick, reduceCtorEq, false_and, exists_false, iff_false]
      intro h
      have hnew := (h (publicAcl newId acls character.id)).mp
        (List.mem_append_right _ (List.mem_singleton_self _))
      exact newId.draw_notMem _ (List.mem_map_of_mem (f := key) hnew)
  · rename_i hpublic
    rw [Bool.not_eq_true] at hpublic
    simp only [mem_sync_private hpublic hkeys, and_iff_left_iff_imp]
    constructor
    · intro h
      refine choice.pick_eq_none (Option.eq_none_iff_forall_ne_some.mpr fun acl hpick => ?_)
      exact h acl (mem_publicAcls.mp (choice.mem_of_pick hpick)).1 hpick
    · intro hnone acl _ hpick
      have hmem := choice.mem_of_pick hpick
      rw [hnone] at hmem
      cases hmem

/-! ## Steps -/

lemma catalogStep_cases {e : CharacterEvent} (h : catalogStep newId s e = some s') :
    s' = s ∨
      (∃ payload user choice, e = .create payload user choice ∧
        s' = createCharacter newId choice s payload user) ∨
      (∃ characterId payload choice character, e = .update characterId payload choice ∧
        get s.characters characterId = some character ∧
        s' = { characters := update s.characters characterId payload.applyTo
               acls := syncPublicVisibilityAcl newId choice s.acls (payload.applyTo character) }) ∨
      (∃ characterId, s' = { characters := s.characters.filter fun c => c.id ≠ characterId
                             acls := s.acls.filter fun acl => acl.characterId ≠ characterId }) ∨
      (∃ characterId payload, e = .createAcl characterId payload ∧
        characterId ∈ s.characters.map key ∧
        s' = { s with acls := s.acls ++ [newAcl newId s characterId payload] }) ∨
      ∃ aclId, s' = { s with acls := s.acls.filter fun acl => acl.id ≠ aclId } := by
  cases e with
  | create payload user choice =>
    exact .inr (.inl ⟨payload, user, choice, rfl, (Option.some.inj h).symm⟩)
  | update characterId payload choice =>
    simp only [catalogStep, updateCharacter, Option.some.injEq] at h
    cases hget : get s.characters characterId with
    | none =>
      rw [hget] at h
      exact .inl h.symm
    | some character =>
      rw [hget] at h
      exact .inr (.inr (.inl ⟨characterId, payload, choice, character, rfl, hget, h.symm⟩))
  | delete characterId linkedCocoon =>
    simp only [catalogStep, deleteCharacter, Option.some.injEq] at h
    cases hget : get s.characters characterId with
    | none =>
      rw [hget] at h
      exact .inl h.symm
    | some character =>
      rw [hget] at h
      cases linkedCocoon with
      | true => exact .inl h.symm
      | false => exact .inr (.inr (.inr (.inl ⟨characterId, h.symm⟩)))
  | createAcl characterId payload =>
    simp only [catalogStep, createAcl, Option.some.injEq] at h
    cases hget : get s.characters characterId with
    | none =>
      rw [hget] at h
      exact .inl h.symm
    | some character =>
      rw [hget] at h
      have hmem := get_isSome_iff.mp (Option.isSome_iff_exists.mpr ⟨character, hget⟩)
      exact .inr (.inr (.inr (.inr (.inl ⟨characterId, payload, rfl, hmem, h.symm⟩))))
  | deleteAcl characterId aclId =>
    simp only [catalogStep, deleteAcl, Option.some.injEq] at h
    cases hget : get s.acls aclId with
    | none =>
      rw [hget] at h
      exact .inl h.symm
    | some acl =>
      rw [hget] at h
      dsimp only at h
      by_cases hof : acl.characterId ≠ characterId
      · rw [if_pos hof] at h
        exact .inl h.symm
      · rw [if_neg hof] at h
        exact .inr (.inr (.inr (.inr (.inr ⟨aclId, h.symm⟩))))

lemma Catalog.Consistent.step {e : CharacterEvent} (hs : s.Consistent)
    (h : catalogStep newId s e = some s') : s'.Consistent := by
  rcases catalogStep_cases h with rfl | ⟨payload, user, choice, -, rfl⟩ |
    ⟨characterId, payload, choice, character, -, hget, rfl⟩ | ⟨characterId, rfl⟩ |
    ⟨characterId, payload, -, hmem, rfl⟩ | ⟨aclId, rfl⟩
  · exact hs
  · refine ⟨?_, nodup_sync hs.aclKeys, fun acl hacl => ?_, fun acl hacl => ?_⟩
    · simp only [createCharacter, List.map_append, List.map_singleton]
      rw [← List.concat_eq_append]
      exact hs.characterKeys.concat (newId.draw_notMem _)
    · rw [createCharacter, List.map_append, List.mem_append]
      rcases of_mem_sync hs.aclKeys hacl with hacl | rfl | ⟨existingAcl, hof, rfl⟩
      · exact .inl (hs.refers acl hacl)
      · exact .inr (List.mem_singleton_self _)
      · exact .inl (hs.refers existingAcl (mem_publicAcls.mp hof).1)
    · rcases of_mem_sync hs.aclKeys hacl with hacl | rfl | ⟨existingAcl, hof, rfl⟩
      · exact hs.normalized acl hacl
      · exact normalizeSubjectType_authenticatedAll
      · exact hs.normalized existingAcl (mem_publicAcls.mp hof).1
  · have hkeys : (update s.characters characterId payload.applyTo).map key =
        s.characters.map key := map_key_update fun _ => rfl
    refine ⟨hkeys ▸ hs.characterKeys, nodup_sync hs.aclKeys, fun acl hacl => ?_,
      fun acl hacl => ?_⟩
    · rw [hkeys]
      rcases of_mem_sync hs.aclKeys hacl with hacl | rfl | ⟨existingAcl, hof, rfl⟩
      · exact hs.refers acl hacl
      · exact List.mem_map.mpr ⟨character, mem_of_get hget, rfl⟩
      · exact hs.refers existingAcl (mem_publicAcls.mp hof).1
    · rcases of_mem_sync hs.aclKeys hacl with hacl | rfl | ⟨existingAcl, hof, rfl⟩
      · exact hs.normalized acl hacl
      · exact normalizeSubjectType_authenticatedAll
      · exact hs.normalized existingAcl (mem_publicAcls.mp hof).1
  · refine ⟨hs.characterKeys.sublist (List.filter_sublist.map key),
      hs.aclKeys.sublist (List.filter_sublist.map key), fun acl hacl => ?_,
      fun acl hacl => hs.normalized acl (List.mem_of_mem_filter hacl)⟩
    obtain ⟨hacl, hne⟩ := List.mem_filter.mp hacl
    obtain ⟨character, hmem, hid⟩ := List.mem_map.mp (hs.refers acl hacl)
    exact List.mem_map.mpr ⟨character, List.mem_filter.mpr ⟨hmem, by rwa [← hid] at hne⟩, hid⟩
  · refine ⟨hs.characterKeys, ?_, fun acl hacl => ?_, fun acl hacl => ?_⟩
    · rw [List.map_append, List.map_singleton, ← List.concat_eq_append]
      exact hs.aclKeys.concat (newId.draw_notMem _)
    · rcases List.mem_append.mp hacl with hacl | hacl
      · exact hs.refers acl hacl
      · rwa [List.mem_singleton.mp hacl]
    · rcases List.mem_append.mp hacl with hacl | hacl
      · exact hs.normalized acl hacl
      · rw [List.mem_singleton.mp hacl]
        exact normalizeSubjectType_normalizeSubjectType _
  · exact ⟨hs.characterKeys, hs.aclKeys.sublist (List.filter_sublist.map key),
      fun acl hacl => hs.refers acl (List.mem_of_mem_filter hacl),
      fun acl hacl => hs.normalized acl (List.mem_of_mem_filter hacl)⟩

lemma mem_of_mem_sync (hkeys : (acls.map key).Nodup) (hother : acl.characterId ≠ character.id)
    (hacl : acl ∈ syncPublicVisibilityAcl newId choice acls character) : acl ∈ acls := by
  rcases of_mem_sync hkeys hacl with hacl | rfl | ⟨existingAcl, hof, rfl⟩
  · exact hacl
  · exact absurd rfl hother
  · exact absurd (mem_publicAcls.mp hof).2.1 hother

lemma NoneOpen.of_subset (hnone : NoneOpen s)
    (hcharacters : ∀ character ∈ s'.characters, character ∈ s.characters)
    (hacls : ∀ acl ∈ s'.acls, acl ∈ s.acls) : NoneOpen s' := by
  intro character hmem hprivate acl hacl
  obtain ⟨hacl, hof⟩ := mem_publicAcls.mp hacl
  exact hnone character (hcharacters character hmem) hprivate acl
    (mem_publicAcls.mpr ⟨hacls acl hacl, hof⟩)

lemma noneOpen_createCharacter (hs : s.Consistent) (hnone : NoneOpen s)
    (payload : CharacterCreate) (user : User) :
    NoneOpen (createCharacter newId choice s payload user) := by
  intro character hmem hprivate acl hacl
  obtain ⟨hacl, hid, htype⟩ := mem_publicAcls.mp hacl
  have hfresh : (newCharacter newId s payload user).id ∉ s.characters.map key :=
    newId.draw_notMem _
  rcases List.mem_append.mp hmem with hmem | hmem
  · have hne : acl.characterId ≠ (newCharacter newId s payload user).id := by
      intro heq
      refine hfresh ?_
      rw [← heq, hid]
      exact List.mem_map_of_mem (f := key) hmem
    have hacl := mem_of_mem_sync hs.aclKeys hne hacl
    exact hnone character hmem hprivate acl (mem_publicAcls.mpr ⟨hacl, hid, htype⟩)
  · rw [List.mem_singleton.mp hmem] at hprivate hid
    have hacl := ((mem_sync_private hprivate hs.aclKeys).mp hacl).1
    exact absurd (hid ▸ hs.refers acl hacl) hfresh

lemma noneOpen_step_iff {e : CharacterEvent} (hs : s.Consistent) (hnone : NoneOpen s)
    (h : catalogStep newId s e = some s') : NoneOpen s' ↔ LeavesNoneOpen s e := by
  cases e with
  | create payload user choice =>
    cases h
    exact iff_of_true (noneOpen_createCharacter hs hnone payload user) trivial
  | update characterId payload choice =>
    simp only [catalogStep, updateCharacter, Option.some.injEq] at h
    cases hget : get s.characters characterId with
    | none =>
      rw [hget] at h
      subst h
      refine iff_of_true hnone fun character hmem hid => ?_
      exact absurd (List.mem_map.mpr ⟨character, hmem, hid⟩) (get_eq_none_iff.mp hget)
    | some character =>
      rw [hget] at h
      subst h
      have hid : character.id = characterId := key_of_get hget
      have hmem := mem_of_get hget
      constructor
      · intro hnone' character' hmem' hid' hprivate acl hacl hpick
        obtain rfl : character' = character :=
          List.inj_on_of_nodup_map hs.characterKeys hmem' hmem (hid'.trans hid.symm)
        obtain ⟨hacl, hof⟩ := mem_publicAcls.mp hacl
        refine hnone' (payload.applyTo character')
          (mem_update.mpr (.inl ⟨character', hmem, hid, rfl⟩)) hprivate acl
          (mem_publicAcls.mpr ⟨(mem_sync_private hprivate hs.aclKeys).mpr ⟨hacl, ?_⟩, ?_⟩)
        · exact hid ▸ hpick
        · exact hid ▸ hof
      · intro hok character' hmem' hprivate acl hacl
        obtain ⟨hsync, hof, htype⟩ := mem_publicAcls.mp hacl
        rcases mem_update.mp hmem' with ⟨old, hold, hkey, rfl⟩ | ⟨hold, hne⟩
        · obtain rfl : old = character :=
            List.inj_on_of_nodup_map hs.characterKeys hold hmem (hkey.trans hid.symm)
          obtain ⟨hacl, hpick⟩ := (mem_sync_private hprivate hs.aclKeys).mp hsync
          refine hok old hold hid hprivate acl (mem_publicAcls.mpr ⟨hacl, ?_, htype⟩) ?_
          · exact hof.trans hid
          · exact hid ▸ hpick
        · have hother : acl.characterId ≠ (payload.applyTo character).id := fun heq =>
            hne ((hof.symm.trans heq).trans hid)
          have hacl := mem_of_mem_sync hs.aclKeys hother hsync
          exact hnone character' hold hprivate acl (mem_publicAcls.mpr ⟨hacl, hof, htype⟩)
  | delete characterId linkedCocoon =>
    refine iff_of_true ?_ trivial
    rcases catalogStep_cases h with rfl | ⟨_, _, _, heq, -⟩ | ⟨_, _, _, _, heq, -⟩ |
      ⟨characterId', rfl⟩ | ⟨_, _, heq, -⟩ | ⟨aclId', rfl⟩
    · exact hnone
    · cases heq
    · cases heq
    · exact hnone.of_subset (fun _ => List.mem_of_mem_filter) fun _ => List.mem_of_mem_filter
    · cases heq
    · exact hnone.of_subset (fun _ => id) fun _ => List.mem_of_mem_filter
  | createAcl characterId payload =>
    simp only [catalogStep, createAcl, Option.some.injEq] at h
    cases hget : get s.characters characterId with
    | none =>
      rw [hget] at h
      subst h
      refine iff_of_true hnone fun character hmem hid => ?_
      exact absurd (List.mem_map.mpr ⟨character, hmem, hid⟩) (get_eq_none_iff.mp hget)
    | some character =>
      rw [hget] at h
      subst h
      constructor
      · intro hnone' character hmem hid hprivate htype
        refine hnone' character hmem hprivate (newAcl newId s characterId payload)
          (mem_publicAcls.mpr ⟨List.mem_append_right _ (List.mem_singleton_self _), ?_⟩)
        exact ⟨hid.symm, htype⟩
      · intro hok character hmem hprivate acl hacl
        obtain ⟨hacl, hof, htype⟩ := mem_publicAcls.mp hacl
        rcases List.mem_append.mp hacl with hacl | hacl
        · exact hnone character hmem hprivate acl (mem_publicAcls.mpr ⟨hacl, hof, htype⟩)
        · rw [List.mem_singleton.mp hacl] at hof htype ⊢
          exact hok character hmem hof.symm hprivate htype
  | deleteAcl characterId aclId =>
    refine iff_of_true ?_ trivial
    rcases catalogStep_cases h with rfl | ⟨_, _, _, heq, -⟩ | ⟨_, _, _, _, heq, -⟩ |
      ⟨characterId', rfl⟩ | ⟨_, _, heq, -⟩ | ⟨aclId', rfl⟩
    · exact hnone
    · cases heq
    · cases heq
    · exact hnone.of_subset (fun _ => List.mem_of_mem_filter) fun _ => List.mem_of_mem_filter
    · cases heq
    · exact hnone.of_subset (fun _ => id) fun _ => List.mem_of_mem_filter

lemma keepsAcls_iff {e : CharacterEvent} (hs : s.Consistent) :
    (∀ s', catalogStep newId s e = some s' → KeepsAcls s e s') ↔ FindsInLine s e := by
  cases e with
  | update characterId payload choice =>
    simp only [catalogStep, updateCharacter, Option.some.injEq, forall_eq', KeepsAcls,
      FindsInLine]
    refine forall_congr' fun hmentions => ?_
    cases hget : get s.characters characterId with
    | none =>
      refine iff_of_true (fun acl => Iff.rfl) fun character hmem hid => ?_
      exact absurd (List.mem_map.mpr ⟨character, hmem, hid⟩) (get_eq_none_iff.mp hget)
    | some character =>
      have hid : character.id = characterId := key_of_get hget
      have hmem := mem_of_get hget
      refine (sync_same_iff hs.aclKeys).trans ⟨fun hline character' hmem' hid' => ?_,
        fun hline => ?_⟩
      · obtain rfl : character' = character :=
          List.inj_on_of_nodup_map hs.characterKeys hmem' hmem (hid'.trans hid.symm)
        exact hid ▸ hline
      · exact (show (payload.applyTo character).id = characterId from hid) ▸
          hline character hmem hid
  | _ => exact iff_of_true (fun _ _ => trivial) trivial

/-! ## Access -/

/-- Somebody whom the access list does not know. -/
def outsider (s : Catalog) : User where
  id := longerId (s.acls.map (fun acl => acl.subjectId) ++
    s.characters.filterMap fun character => character.createdByUserId)
  username := "guest"
  passwordHash := ""
  primaryGroupId := none

lemma characterAclMatches_public (accounts : Accounts) (user : User)
    (htype : acl.subjectType = AUTHENTICATED_ALL) :
    characterAclMatches accounts user acl.toCharacterAcl true = true := by
  unfold characterAclMatches
  dsimp only
  rw [htype, normalizeSubjectType_authenticatedAll]
  exact if_pos rfl

lemma characterAclMatches_outsider (hacl : acl ∈ s.acls)
    (htype : normalizeSubjectType acl.subjectType ≠ AUTHENTICATED_ALL) :
    characterAclMatches (s.within {}) (outsider s) acl.toCharacterAcl true = false := by
  have hsubject : acl.subjectId ≠ (outsider s).id := by
    intro heq
    have hmem : (outsider s).id ∈ s.acls.map fun acl => acl.subjectId :=
      List.mem_map.mpr ⟨acl, hacl, heq⟩
    exact longerId_notMem _ (List.mem_append_left _ hmem)
  unfold characterAclMatches
  dsimp only
  rw [if_neg (show normalizeSubjectType acl.subjectType ≠ "AUTHENTICATED_ALL" from htype)]
  split
  · exact decide_eq_false hsubject
  split
  · rfl
  split
  · rfl
  split
  · have hnone : primaryGroupAncestorIds (s.within {}) (outsider s) = [] := by
      change ancestorsFrom [] (63 + 1) none = []
      rw [ancestorsFrom]
      rfl
    rw [hnone]
    rfl
  · rfl

lemma privateConfined_iff (hs : s.Consistent) : PrivateConfined s ↔ NoneOpen s := by
  constructor
  · intro h character hmem hprivate acl hacl
    obtain ⟨hacl, hof, htype⟩ := mem_publicAcls.mp hacl
    have hcreator : character.createdByUserId ≠ some (outsider s).id := by
      intro heq
      have hmem' : (outsider s).id ∈ s.characters.filterMap fun c => c.createdByUserId :=
        List.mem_filterMap.mpr ⟨character, hmem, heq⟩
      exact longerId_notMem _ (List.mem_append_right _ hmem')
    obtain ⟨hread, huse⟩ := h character hmem hprivate {} {} (outsider s) rfl hcreator
      fun other hother _ hnot => characterAclMatches_outsider hother hnot
    have hentry : ∀ grants : CharacterAcl → Bool,
        allowedByAcl {} (s.within {}) grants (outsider s) character.toCharacter true = false →
          grants acl.toCharacterAcl = false := by
      intro grants hclosed
      rw [allowedByAcl, Bool.or_eq_false_iff, List.any_eq_false] at hclosed
      have hnot := hclosed.2 acl.toCharacterAcl
        (List.mem_filter.mpr ⟨List.mem_map_of_mem hacl, decide_eq_true hof⟩)
      rwa [characterAclMatches_public _ _ htype, Bool.and_true, Bool.not_eq_true] at hnot
    exact ⟨hentry _ hread, hentry _ huse⟩
  · intro h character hmem hprivate settings accounts user hadmin hcreator hnamed
    have hclosed : ∀ grants : CharacterAcl → Bool,
        (∀ acl ∈ publicAcls s.acls character.id, grants acl.toCharacterAcl = false) →
          allowedByAcl settings (s.within accounts) grants user character.toCharacter true =
            false := by
      intro grants hgrants
      rw [allowedByAcl, hadmin, decide_eq_false hcreator, Bool.false_or, Bool.false_or,
        List.any_eq_false]
      intro entry hentry
      obtain ⟨hentry, hof⟩ := List.mem_filter.mp hentry
      obtain ⟨acl, hacl, rfl⟩ := List.mem_map.mp hentry
      rw [decide_eq_true_eq] at hof
      by_cases htype : acl.subjectType = AUTHENTICATED_ALL
      · rw [hgrants acl (mem_publicAcls.mpr ⟨hacl, hof, htype⟩), Bool.false_and]
        exact Bool.false_ne_true
      · rw [hnamed acl hacl hof (by rwa [hs.normalized acl hacl]), Bool.and_false]
        exact Bool.false_ne_true
    exact ⟨hclosed _ fun acl hacl => (h character hmem hprivate acl hacl).1,
      hclosed _ fun acl hacl => (h character hmem hprivate acl hacl).2⟩

/-! ## Runs -/

lemma catalogStep_isSome (newId : NewId) (s : Catalog) (e : CharacterEvent) :
    ∃ s', catalogStep newId s e = some s' := by
  cases e <;> exact ⟨_, rfl⟩

lemma catalogRun_isSome (newId : NewId) (s : Catalog) (events : List CharacterEvent) :
    ∃ s', run (catalogStep newId) s events = some s' := by
  induction events generalizing s with
  | nil => exact ⟨s, rfl⟩
  | cons e events ih =>
    obtain ⟨m, hm⟩ := catalogStep_isSome newId s e
    obtain ⟨s', hs'⟩ := ih m
    exact ⟨s', run_cons_eq_some.mpr ⟨m, hm, hs'⟩⟩

lemma consistent_empty : Catalog.Consistent {} where
  characterKeys := List.nodup_nil
  aclKeys := List.nodup_nil
  refers _ h := by cases h
  normalized _ h := by cases h

/-- Private characters stay closed, and updates that do not mention the visibility leave the access
lists alone, exactly in the runs in which no request leaves an entry for everybody on a private
character and no such update finds the access list out of line. -/
theorem characterVisibility_iff (newId : NewId) (events : List CharacterEvent) :
    (AllStates (catalogStep newId) PrivateConfined {} events ∧
        AllSteps (catalogStep newId) KeepsAcls {} events) ↔
      StepsMeet (catalogStep newId) LeavesNoneOpen {} events ∧
        StepsMeet (catalogStep newId) FindsInLine {} events := by
  have hstep : ∀ (s : Catalog) (e : CharacterEvent) (s' : Catalog), s.Consistent →
      catalogStep newId s e = some s' → s'.Consistent := fun s e s' hs h => hs.step h
  refine and_congr ⟨fun h => ?_, fun h => ?_⟩ ?_
  · obtain ⟨s', hrun⟩ := catalogRun_isSome newId {} events
    refine stepsMeet_of_allStates Catalog.Consistent hstep (fun s e s' hs hP h hP' => ?_)
      consistent_empty hrun h
    exact (noneOpen_step_iff hs ((privateConfined_iff hs).mp hP) h).mp
      ((privateConfined_iff (hs.step h)).mp hP')
  · refine allStates_of_stepsMeet (fun s => s.Consistent ∧ NoneOpen s)
      (fun s e s' hs hok h => ⟨hs.1.step h, (noneOpen_step_iff hs.1 hs.2 h).mpr hok⟩)
      (fun s hs => (privateConfined_iff hs.1).mpr hs.2)
      ⟨consistent_empty, fun _ hmem => by cases hmem⟩ h
  · exact allSteps_iff_stepsMeet Catalog.Consistent (fun s e hs => keepsAcls_iff hs)
      (fun s e s' hs _ h => hs.step h) consistent_empty

/-! ## Entries for everybody, added by hand -/

def maker : User := { id := "u", username := "maker", passwordHash := "" }

def visibility (value : String) : JsonDict := .ofList [("visibility", .str value)]

/-- A public character is shared with everybody for use as well, and then made private. -/
def sharedThenPrivate : List CharacterEvent :=
  [.create { name := "Ann", settingsJson := visibility "public" } maker .oldest,
    .createAcl "x" { subjectType := "authenticated_all", subjectId := "*" },
    .update "x" { settingsJson := some (visibility "private") } .oldest]

/-- A private character is shared with everybody, and then renamed. -/
def sharedThenRenamed : List CharacterEvent :=
  [.create { name := "Ann" } maker .oldest,
    .createAcl "x" { subjectType := "authenticated_all", subjectId := "*" },
    .update "x" { name := some "Anna" } .oldest]

/-- The entry added by hand keeps the private character open to everybody in the one run; in the
other the new name takes it away. -/
theorem sharing_by_hand :
    ¬ AllStates (catalogStep .longer) PrivateConfined {} sharedThenPrivate ∧
      ¬ AllSteps (catalogStep .longer) KeepsAcls {} sharedThenRenamed := by
  constructor
  · intro h
    obtain ⟨-, huse⟩ := h.2.2.2 _ (List.mem_singleton_self _) (by decide +kernel) {} {}
      { id := "v", username := "guest", passwordHash := "" } rfl (by decide +kernel)
      (by decide +kernel)
    exact absurd huse (by decide +kernel)
  · intro h
    have hgone :
        ((run (catalogStep .longer) {} sharedThenRenamed).getD {}).acls.isEmpty = true := by
      decide +kernel
    have hkept : _ ∈ ((run (catalogStep .longer) {} sharedThenRenamed).getD {}).acls :=
      (h.2.2.1 _ rfl rfl _).mpr (List.mem_singleton_self _)
    rw [List.isEmpty_iff.mp hgone] at hkept
    cases hkept

end CocoonSit
