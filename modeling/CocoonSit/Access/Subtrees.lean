import CocoonSit.Access.GroupTree
import CocoonSit.Security.Authorization

/-!
# The two walks through the groups

A character's access list reaches a subtree of groups by walking up from the user's primary group,
a management grant by collecting the groups below.  The way down is searched to the end, the way up
for 64 groups.
-/

namespace CocoonSit

open Table Ancestry

/-- The keys of the groups and their parents are ids. -/
structure GroupIds (groups : List UserGroup) : Prop where
  keys : (groups.map key).Nodup
  named : ∀ group ∈ groups, group.id ≠ ""
  parents : ∀ group ∈ groups, group.parentGroupId ≠ some ""

section Walks

variable {accounts : Accounts} {groups : List UserGroup} {g x : RowId}

lemma GroupIds.parentOf_ne (hids : GroupIds groups) : parentOf groups x ≠ some "" := by
  intro h
  obtain ⟨group, hgroup, -, hparent⟩ := exists_of_parentOf h
  exact hids.parents group hgroup hparent

/-! ## Up -/

lemma mem_ancestorsFrom (hids : GroupIds groups) (guard : ℕ) (hx : x ≠ "") :
    g ∈ ancestorsFrom groups guard (some x) ↔
      ∃ n < guard, climb (parentOf groups) n x = some g := by
  induction guard generalizing x with
  | zero => simp [ancestorsFrom]
  | succ guard ih =>
    have hsome : (some x).filter (fun id => decide (id ≠ "")) = some x := by simp [hx]
    rw [ancestorsFrom, hsome]
    dsimp only
    have hrest : (g ∈ (get groups x).elim [] fun group =>
        ancestorsFrom groups guard group.parentGroupId) ↔
        ∃ n < guard, climb (parentOf groups) (n + 1) x = some g := by
      cases hget : get groups x with
      | none => simp [climb_succ, parentOf, hget]
      | some group =>
        have hparent : parentOf groups x = group.parentGroupId := by
          rw [parentOf, hget, Option.bind_some]
        rw [Option.elim_some]
        cases hp : group.parentGroupId with
        | none => cases guard <;> simp [ancestorsFrom, climb_succ, hparent, hp]
        | some p =>
          have hpne : p ≠ "" := by
            rintro rfl
            exact hids.parentOf_ne (hparent.trans hp)
          rw [ih hpne]
          simp only [climb_succ_of_parent (hparent.trans hp)]
    rw [List.mem_cons, hrest]
    constructor
    · rintro (rfl | ⟨n, hn, hclimb⟩)
      · exact ⟨0, Nat.succ_pos _, rfl⟩
      · exact ⟨n + 1, Nat.succ_lt_succ hn, hclimb⟩
    · rintro ⟨n, hn, hclimb⟩
      cases n with
      | zero => exact .inl (Option.some.inj hclimb).symm
      | succ n => exact .inr ⟨n, Nat.lt_of_succ_lt_succ hn, hclimb⟩

/-! ## Down -/

lemma mem_childGroupIds (hkeys : (groups.map key).Nodup) :
    x ∈ childGroupIds groups g ↔ parentOf groups x = some g := by
  unfold childGroupIds
  rw [List.mem_map]
  constructor
  · rintro ⟨group, hgroup, rfl⟩
    obtain ⟨hgroup, hparent⟩ := List.mem_filter.mp hgroup
    exact (parentOf_of_mem hkeys hgroup).trans (of_decide_eq_true hparent)
  · intro h
    obtain ⟨group, hgroup, rfl, hparent⟩ := exists_of_parentOf h
    exact ⟨group, List.mem_filter.mpr ⟨hgroup, decide_eq_true hparent⟩, rfl⟩

/-- Every child of a group that has been seen has been seen, or queued. -/
def Expanded (groups : List UserGroup) (seen queue : List RowId) : Prop :=
  ∀ g ∈ seen, ∀ x ∈ childGroupIds groups g, x ∈ seen ∨ x ∈ queue

lemma expanded_skip {seen queue : List RowId} (hseen : g ∈ seen)
    (h : Expanded groups seen (g :: queue)) : Expanded groups seen queue := by
  intro y hy x hx
  rcases h y hy x hx with hmem | hmem
  · exact .inl hmem
  · rcases List.mem_cons.mp hmem with rfl | hmem
    · exact .inl hseen
    · exact .inr hmem

lemma expanded_visit {seen queue : List RowId} (h : Expanded groups seen (g :: queue)) :
    Expanded groups (g :: seen) (queue ++ childGroupIds groups g) := by
  intro y hy x hx
  rcases List.mem_cons.mp hy with rfl | hy
  · exact .inr (List.mem_append_right _ hx)
  · rcases h y hy x hx with hmem | hmem
    · exact .inl (List.mem_cons_of_mem _ hmem)
    · rcases List.mem_cons.mp hmem with rfl | hmem
      · exact .inl List.mem_cons_self
      · exact .inr (List.mem_append_left _ hmem)

lemma descendantsFrom_closed {seen queue : List RowId} (h : Expanded groups seen queue) :
    (∀ x, x ∈ seen ∨ x ∈ queue → x ∈ descendantsFrom groups seen queue) ∧
      ∀ g ∈ descendantsFrom groups seen queue, ∀ x ∈ childGroupIds groups g,
        x ∈ descendantsFrom groups seen queue := by
  induction seen, queue using descendantsFrom.induct groups with
  | case1 seen =>
    simp only [descendantsFrom, List.mem_reverse]
    refine ⟨fun x hx => hx.elim id fun hx => absurd hx (List.not_mem_nil), ?_⟩
    exact fun g hg x hx => (h g hg x hx).elim id fun hx => absurd hx (List.not_mem_nil)
  | case2 seen current queue hseen ih =>
    obtain ⟨hsub, hclosed⟩ := ih (expanded_skip hseen h)
    rw [descendantsFrom, if_pos hseen]
    refine ⟨fun x hx => hsub x ?_, hclosed⟩
    rcases hx with hx | hx
    · exact .inl hx
    · rcases List.mem_cons.mp hx with rfl | hx
      · exact .inl hseen
      · exact .inr hx
  | case3 seen current queue hseen ih =>
    obtain ⟨hsub, hclosed⟩ := ih (expanded_visit h)
    rw [descendantsFrom, if_neg hseen]
    refine ⟨fun x hx => hsub x ?_, hclosed⟩
    rcases hx with hx | hx
    · exact .inl (List.mem_cons_of_mem _ hx)
    · rcases List.mem_cons.mp hx with rfl | hx
      · exact .inl List.mem_cons_self
      · exact .inr (List.mem_append_left _ hx)

lemma descendantsFrom_below (hkeys : (groups.map key).Nodup) {seen queue : List RowId}
    (h : x ∈ descendantsFrom groups seen queue) :
    x ∈ seen ∨ ∃ g ∈ queue, Above (parentOf groups) x g := by
  induction seen, queue using descendantsFrom.induct groups with
  | case1 seen =>
    rw [descendantsFrom, List.mem_reverse] at h
    exact .inl h
  | case2 seen current queue hseen ih =>
    rw [descendantsFrom, if_pos hseen] at h
    refine (ih h).imp_right ?_
    rintro ⟨g, hg, habove⟩
    exact ⟨g, List.mem_cons_of_mem _ hg, habove⟩
  | case3 seen current queue hseen ih =>
    rw [descendantsFrom, if_neg hseen] at h
    rcases ih h with hx | ⟨g, hg, habove⟩
    · rcases List.mem_cons.mp hx with rfl | hx
      · exact .inr ⟨x, List.mem_cons_self, .refl x⟩
      · exact .inl hx
    · rcases List.mem_append.mp hg with hg | hg
      · exact .inr ⟨g, List.mem_cons_of_mem _ hg, habove⟩
      · -- the group is a child of the one just taken from the queue
        have hparent := (mem_childGroupIds hkeys).mp hg
        exact .inr ⟨current, List.mem_cons_self, habove.trans (.step hparent (.refl current))⟩

lemma mem_descendantsFrom (hkeys : (groups.map key).Nodup) {roots : List RowId} :
    x ∈ descendantsFrom groups [] roots ↔ ∃ g ∈ roots, Above (parentOf groups) x g := by
  constructor
  · intro h
    exact (descendantsFrom_below hkeys h).resolve_left List.not_mem_nil
  · rintro ⟨g, hg, n, hn⟩
    have hstart : Expanded groups [] roots := fun _ h => absurd h List.not_mem_nil
    obtain ⟨hsub, hclosed⟩ := descendantsFrom_closed hstart
    have hmem : g ∈ descendantsFrom groups [] roots := hsub g (.inr hg)
    clear hg hsub
    -- by induction on the distance, from the top down
    induction n generalizing g with
    | zero => exact Option.some.inj hn ▸ hmem
    | succ n ih =>
      rw [climb_add, Option.bind_eq_some_iff] at hn
      obtain ⟨z, hz, hlast⟩ := hn
      obtain ⟨p, hp, hpg⟩ := Option.bind_eq_some_iff.mp hlast
      cases hpg
      exact ih z hz (hclosed g hmem z ((mem_childGroupIds hkeys).mpr hp))

/-- The group is above the other, if at all, then within the first 64 groups on its way up. -/
def NearAbove (accounts : Accounts) (g x : RowId) : Prop :=
  Above (parentOf accounts.groups) x g → ∃ n < 64, climb (parentOf accounts.groups) n x = some g

lemma mem_listAncestorGroupIds (hids : GroupIds accounts.groups) :
    g ∈ listAncestorGroupIds accounts (some x) ↔
      x ≠ "" ∧ ∃ n < 64, climb (parentOf accounts.groups) n x = some g := by
  by_cases hx : x = ""
  · have hnone : listAncestorGroupIds accounts (some "") = [] := rfl
    rw [hx, hnone]
    exact iff_of_false List.not_mem_nil fun h => h.1 rfl
  · rw [listAncestorGroupIds, mem_ancestorsFrom hids 64 hx]
    exact (and_iff_right hx).symm

lemma mem_listDescendantGroupIds (hkeys : (accounts.groups.map key).Nodup) {roots : List RowId} :
    x ∈ listDescendantGroupIds accounts roots ↔
      ∃ g ∈ roots, g ≠ "" ∧ Above (parentOf accounts.groups) x g := by
  rw [listDescendantGroupIds, mem_descendantsFrom (keys_ensureRootGroup hkeys),
    parentOf_ensureRootGroup]
  simp only [List.mem_filter, decide_eq_true_eq, and_assoc]

lemma GroupIds.above_ne (hids : GroupIds accounts.groups)
    (h : Above (parentOf accounts.groups) x g) : x = "" ↔ g = "" := by
  constructor
  · rintro rfl
    rcases above_iff.mp h with heq | ⟨z, hz, -⟩
    · exact heq.symm
    · obtain ⟨group, hgroup, hid, -⟩ := exists_of_parentOf hz
      exact absurd hid (hids.named group hgroup)
  · rintro rfl
    obtain ⟨n, hn⟩ := h
    cases n with
    | zero => exact Option.some.inj hn
    | succ n =>
      rw [climb_add, Option.bind_eq_some_iff] at hn
      obtain ⟨z, -, hlast⟩ := hn
      obtain ⟨p, hp, heq⟩ := Option.bind_eq_some_iff.mp hlast
      cases heq
      exact absurd hp hids.parentOf_ne

lemma ancestor_iff_descendant (hids : GroupIds accounts.groups) :
    (g ∈ listAncestorGroupIds accounts (some x) ↔ x ∈ listDescendantGroupIds accounts [g]) ↔
      NearAbove accounts g x := by
  rw [mem_listAncestorGroupIds hids, mem_listDescendantGroupIds hids.keys]
  simp only [List.mem_singleton, exists_eq_left]
  constructor
  · intro h habove
    by_cases hg : g = ""
    · have hx := (hids.above_ne habove).mpr hg
      exact ⟨0, by decide, by rw [hx, hg, climb_zero]⟩
    · exact (h.mpr ⟨hg, habove⟩).2
  · rintro hnear
    constructor
    · rintro ⟨hx, n, -, hn⟩
      have habove : Above (parentOf accounts.groups) x g := ⟨n, hn⟩
      exact ⟨fun hg => hx ((hids.above_ne habove).mpr hg), habove⟩
    · rintro ⟨hg, habove⟩
      exact ⟨fun hx => hg ((hids.above_ne habove).mp hx), hnear habove⟩

/-! ## The two grants -/

lemma subtree_matches {user : User} {acl : CharacterAcl}
    (hsubtree : normalizeSubjectType acl.subjectType = "SUBTREE") :
    characterAclMatches accounts user acl true = true ↔
      acl.subjectId ∈ listAncestorGroupIds accounts user.primaryGroupId := by
  simp only [characterAclMatches, hsubtree, primaryGroupAncestorIds, String.reduceEq, if_false,
    Bool.and_true, decide_true, if_true]
  exact decide_eq_true_iff

lemma manageableGroupIds_of_grant {settings : Settings} {manager : User}
    (hadmin : isBootstrapAdmin settings manager = false)
    (hpermitted : hasManagementPermission settings accounts manager = true)
    (hgrants : managementGrantGroupIds accounts manager.id = [g]) :
    manageableGroupIds settings accounts manager = listDescendantGroupIds accounts [g] := by
  simp [manageableGroupIds, hadmin, hpermitted, hgrants]

end Walks

/-- A group is found on the way up from another one exactly when that one is found on the way down
from it, if and only if it is not only found from the 65th step up.  Under the same condition on
their primary group, users are covered by a subtree grant on a group exactly when they are covered
by a management grant on it. -/
theorem ancestor_iff_descendant_iff_near {accounts : Accounts} (hids : GroupIds accounts.groups) :
    (∀ g x, (g ∈ listAncestorGroupIds accounts (some x) ↔
        x ∈ listDescendantGroupIds accounts [g]) ↔ NearAbove accounts g x) ∧
      ∀ (settings : Settings) (manager user : User) (acl : CharacterAcl),
        isBootstrapAdmin settings manager = false →
        hasManagementPermission settings accounts manager = true →
        managementGrantGroupIds accounts manager.id = [acl.subjectId] →
        normalizeSubjectType acl.subjectType = "SUBTREE" →
        ((characterAclMatches accounts user acl true = true ↔
            ∃ x ∈ user.primaryGroupId, x ∈ manageableGroupIds settings accounts manager) ↔
          ∀ x ∈ user.primaryGroupId, NearAbove accounts acl.subjectId x) := by
  refine ⟨fun g x => ancestor_iff_descendant hids, ?_⟩
  intro settings manager user acl hadmin hpermitted hgrants hsubtree
  rw [subtree_matches hsubtree, manageableGroupIds_of_grant hadmin hpermitted hgrants]
  cases user.primaryGroupId with
  | none => simp [listAncestorGroupIds, ancestorsFrom]
  | some x =>
    simp only [Option.mem_some_iff, exists_eq_left', forall_eq']
    exact ancestor_iff_descendant hids

/-- A branch of the tree with a manager over it and a user in it. -/
def branchAccounts : Accounts where
  users := [
    { id := "manager", username := "manager", passwordHash := ""
      permissionsJson := Finmap.singleton "management:access" true },
    { id := "user", username := "user", passwordHash := "", primaryGroupId := some "night" }]
  groups := [
    { id := ROOT_GROUP_ID },
    { id := "staff", parentGroupId := some ROOT_GROUP_ID },
    { id := "night", parentGroupId := some "staff" }]
  managementGrants := [{ userId := "manager", groupId := "staff" }]

theorem branchAccounts_same :
    ("staff" ∈ listAncestorGroupIds branchAccounts (some "night") ↔
      "night" ∈ listDescendantGroupIds branchAccounts ["staff"]) ∧
    ((characterAclMatches branchAccounts
          { id := "user", username := "user", passwordHash := "", primaryGroupId := some "night" }
          { characterId := "c", subjectType := "subtree", subjectId := "staff" }
          true = true) ↔
      ∃ x ∈ some "night", x ∈ manageableGroupIds {} branchAccounts
        { id := "manager", username := "manager", passwordHash := ""
          permissionsJson := Finmap.singleton "management:access" true }) := by
  have hids : GroupIds branchAccounts.groups := ⟨by decide, by decide, by decide⟩
  have hnear : NearAbove branchAccounts "staff" "night" := fun _ => ⟨1, by decide, rfl⟩
  refine ⟨((ancestor_iff_descendant_iff_near hids).1 "staff" "night").mpr hnear, ?_⟩
  refine ((ancestor_iff_descendant_iff_near hids).2 {} _ _ _ ?_ ?_ rfl ?_).mpr ?_
  · decide
  · decide
  · exact String.toList_injective (by decide +kernel)
  · intro x hx
    cases hx
    exact hnear

/-- 66 groups, each under the one before, the first one at the root. -/
def chainAccounts : Accounts where
  groups := { id := ROOT_GROUP_ID } ::
    { id := levelId 0, parentGroupId := some ROOT_GROUP_ID } ::
    (List.range 64).map fun n => { id := levelId (n + 1), parentGroupId := some (levelId n) }

theorem chainAccounts_differ : ¬ ∀ accounts : Accounts, GroupIds accounts.groups → ∀ g x,
    g ∈ listAncestorGroupIds accounts (some x) ↔ x ∈ listDescendantGroupIds accounts [g] := by
  intro h
  have hids : GroupIds chainAccounts.groups :=
    ⟨by decide +kernel, by decide +kernel, by decide +kernel⟩
  have hbelow : Above (parentOf chainAccounts.groups) (levelId 64) (levelId 0) :=
    ⟨64, by decide +kernel⟩
  have hmem : levelId 0 ∈ listAncestorGroupIds chainAccounts (some (levelId 64)) := by
    refine (h chainAccounts hids (levelId 0) (levelId 64)).mpr ?_
    exact (mem_listDescendantGroupIds hids.keys).mpr ⟨levelId 0, by decide, by decide, hbelow⟩
  exact absurd hmem (by decide +kernel)

end CocoonSit
