import CocoonSit.Access.Subtrees

/-!
# The users in one's scope

The list of the users one may manage filters collections, the predicate guards single users.  They
part at the admins: the list asks for the bootstrap admin, the predicate for the role as well.
-/

namespace CocoonSit

open Table Ancestry

section UserScope

variable {settings : Settings} {accounts : Accounts} {user target : User}

/-- The list comes out, and holds the target if and only if the predicate does. -/
def ScopesAgree (settings : Settings) (accounts : Accounts) (user target : User) : Prop :=
  ∃ ids, listManageableUserIds settings accounts user = .ok ids ∧
    (target.id ∈ ids ↔ canManageUserScope settings accounts user target.id = true)

/-- The target's primary group is one the user has a management grant on, or below it. -/
def InGrantedSubtree (accounts : Accounts) (user target : User) : Prop :=
  hasPermission accounts user "management:access" = true ∧
    ∃ x ∈ target.primaryGroupId, ∃ g ∈ managementGrantGroupIds accounts user.id,
      g ≠ "" ∧ Above (parentOf accounts.groups) x g

lemma mem_manageableGroupIds (hgroups : (accounts.groups.map key).Nodup)
    (hadmin : isBootstrapAdmin settings user = false) :
    (∃ x ∈ target.primaryGroupId, x ∈ manageableGroupIds settings accounts user) ↔
      InGrantedSubtree accounts user target := by
  have hpermission : hasManagementPermission settings accounts user =
      hasPermission accounts user "management:access" := by
    rw [hasManagementPermission, hadmin, Bool.false_or]
  unfold manageableGroupIds InGrantedSubtree
  rw [hadmin, if_neg Bool.false_ne_true, hpermission]
  cases hasPermission accounts user "management:access" with
  | false => simp
  | true =>
    simp only [if_true, true_and]
    exact exists_congr fun x => and_congr_right fun _ => mem_listDescendantGroupIds hgroups

lemma hasManagementConsole_of_mem {x : RowId} (hadmin : isBootstrapAdmin settings user = false)
    (hx : x ∈ manageableGroupIds settings accounts user) :
    hasManagementConsole settings accounts user = true := by
  unfold manageableGroupIds at hx
  rw [hadmin, if_neg Bool.false_ne_true] at hx
  cases hpermission : hasManagementPermission settings accounts user with
  | false => simp [hpermission] at hx
  | true =>
    rw [hpermission, if_pos rfl] at hx
    cases hgrants : managementGrantGroupIds accounts user.id with
    | nil =>
      rw [hgrants] at hx
      simp [listDescendantGroupIds, descendantsFrom] at hx
    | cons g grants => simp [hasManagementConsole, hpermission, hgrants]

lemma listManageableUserIds_spec (husers : (accounts.users.map key).Nodup)
    (ht : get accounts.users target.id = some target)
    (hadmin : isBootstrapAdmin settings user = false) :
    ∃ ids, listManageableUserIds settings accounts user = .ok ids ∧
      (target.id ∈ ids ↔ target.id = user.id ∨
        ∃ x ∈ target.primaryGroupId, x ∈ manageableGroupIds settings accounts user) := by
  unfold listManageableUserIds
  rw [hadmin, if_neg Bool.false_ne_true]
  by_cases hnone : manageableGroupIds settings accounts user = []
  · refine ⟨_, if_pos hnone, ?_⟩
    simp [hnone]
  · refine ⟨_, if_neg hnone, ?_⟩
    generalize manageableGroupIds settings accounts user = groups
    have hmem : target.id ∈ (accounts.users.filter fun item =>
        item.primaryGroupId.any fun groupId => groupId ∈ groups).map User.id ↔
        ∃ x ∈ target.primaryGroupId, x ∈ groups := by
      rw [List.mem_map]
      constructor
      · rintro ⟨item, hitem, hid⟩
        obtain ⟨hitem, hgroup⟩ := List.mem_filter.mp hitem
        have hget : get accounts.users item.id = some item := get_of_mem husers hitem
        rw [hid, ht] at hget
        cases hget
        simpa [Option.any_eq_true] using hgroup
      · rintro ⟨x, hx, hgroup⟩
        refine ⟨target, List.mem_filter.mpr ⟨mem_of_get ht, ?_⟩, rfl⟩
        rw [Option.any_eq_true]
        exact ⟨x, hx, decide_eq_true hgroup⟩
    split
    · next hself =>
      rw [hmem]
      refine ⟨.inr, fun h => h.elim (fun heq => ?_) id⟩
      rw [← heq] at hself
      exact hmem.mp hself
    · rw [List.mem_append, hmem, List.mem_singleton, or_comm]

lemma canManageUserScope_iff (ht : get accounts.users target.id = some target)
    (hne : target.id ≠ "") (hadmin : isBootstrapAdmin settings user = false) :
    canManageUserScope settings accounts user target.id = true ↔
      isAdmin settings accounts user = true ∨ target.id = user.id ∨
        ∃ x ∈ target.primaryGroupId, x ∈ manageableGroupIds settings accounts user := by
  simp only [canManageUserScope, ht, Option.any_some, Bool.and_eq_true, Bool.or_eq_true,
    decide_eq_true_eq, hne, ne_eq, not_false_eq_true, true_and, Option.any_eq_true, or_assoc]
  refine or_congr_right (or_congr_right ⟨And.right, fun h => ⟨?_, h⟩⟩)
  obtain ⟨x, -, hx⟩ := h
  exact hasManagementConsole_of_mem hadmin hx

lemma listManageableUserIds_bootstrap (hu : get accounts.users user.id = some user)
    (hadmin : isBootstrapAdmin settings user = true) (ids : List RowId) :
    listManageableUserIds settings accounts user ≠ .ok ids := by
  unfold listManageableUserIds
  rw [hadmin, if_pos rfl]
  cases husers : accounts.users with
  | nil =>
    have hmem := mem_of_get hu
    rw [husers] at hmem
    cases hmem
  | cons first users =>
    rw [List.map_cons, List.mapM_cons]
    intro h
    cases h

end UserScope

/-- The list and the predicate agree on a user and a target exactly when the user is not the
bootstrap admin, for whom the list fails, and manages the target by right of a grant where the
predicate asks for no more than the role. -/
theorem scopesAgree_iff {settings : Settings} {accounts : Accounts} {user target : User}
    (husers : (accounts.users.map key).Nodup) (hgroups : (accounts.groups.map key).Nodup)
    (hu : get accounts.users user.id = some user)
    (ht : get accounts.users target.id = some target) (hne : target.id ≠ "") :
    ScopesAgree settings accounts user target ↔
      isBootstrapAdmin settings user = false ∧ (isAdmin settings accounts user = true →
        target.id = user.id ∨ InGrantedSubtree accounts user target) := by
  cases hadmin : isBootstrapAdmin settings user with
  | true =>
    simp only [reduceCtorEq, false_and, iff_false]
    rintro ⟨ids, hids, -⟩
    exact listManageableUserIds_bootstrap hu hadmin ids hids
  | false =>
    obtain ⟨ids, hids, hmem⟩ := listManageableUserIds_spec husers ht hadmin
    have hscope := canManageUserScope_iff ht hne hadmin
    rw [mem_manageableGroupIds hgroups hadmin] at hmem hscope
    simp only [true_and]
    constructor
    · rintro ⟨ids', hids', hagree⟩ hrole
      cases hids.symm.trans hids'
      exact hmem.mp (hagree.mpr (hscope.mpr (.inl hrole)))
    · intro h
      refine ⟨ids, hids, hmem.trans ((or_iff_right_of_imp h).symm.trans hscope.symm)⟩

theorem branchAccounts_scopesAgree :
    ScopesAgree {} branchAccounts
      { id := "manager", username := "manager", passwordHash := ""
        permissionsJson := Finmap.singleton "management:access" true }
      { id := "user", username := "user", passwordHash := "", primaryGroupId := some "night" } :=
  (scopesAgree_iff (by decide) (by decide) rfl rfl (by decide)).mpr
    ⟨by decide, fun h => absurd h (by decide)⟩

/-- A user with the role of the admins, and another one. -/
def roleAdminAccounts : Accounts where
  roles := [{ id := "role", name := "admin" }]
  users := [{ id := "ann", username := "ann", passwordHash := "", roleId := some "role" },
    { id := "bob", username := "bob", passwordHash := "" }]

theorem roleAdminAccounts_not_scopesAgree :
    ¬ ∀ (settings : Settings) (accounts : Accounts), ∀ user ∈ accounts.users,
      ∀ target ∈ accounts.users, ScopesAgree settings accounts user target := by
  intro h
  obtain ⟨ids, hids, hagree⟩ := h {} roleAdminAccounts
    { id := "ann", username := "ann", passwordHash := "", roleId := some "role" } (by decide)
    { id := "bob", username := "bob", passwordHash := "" } (by decide)
  have hlist : ids = ["ann"] := (Except.ok.inj hids).symm
  rw [hlist] at hagree
  exact absurd (hagree.mpr (by decide)) (by decide)

end CocoonSit
