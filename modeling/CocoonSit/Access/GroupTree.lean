import CocoonSit.Access.Groups
import CocoonSit.Lib.Ancestry
import CocoonSit.Lib.Owned
import CocoonSit.Lib.Run

/-!
# The tree of groups

The parent column of `user_groups` as parent pointers.  The four calls that write it keep the tree
rooted at the root group, except that the check for cycles gives up after 64 ancestors: a group can
be put under one of its descendants that is further down than that, and then neither reaches the
root any more.
-/

namespace CocoonSit

open Table Ancestry TransitionSystem

/-- The parent column. -/
def parentOf (groups : List UserGroup) (groupId : RowId) : Option RowId :=
  (get groups groupId).bind UserGroup.parentGroupId

/-- What the tables see to and no call changes. -/
structure GroupRows (groups : List UserGroup) : Prop where
  keys : (groups.map key).Nodup
  named : ∀ group ∈ groups, group.id ≠ ""
  root : parentOf groups ROOT_GROUP_ID = none

/-- The groups form a tree below the root group. -/
structure GroupTree (groups : List UserGroup) : Prop where
  noDangling : ∀ group ∈ groups, ∀ p, group.parentGroupId = some p → p ∈ groups.map key
  rooted : ∀ group ∈ groups, Above (parentOf groups) group.id ROOT_GROUP_ID
  noCycle : ∀ group ∈ groups, ∀ n, climb (parentOf groups) (n + 1) group.id ≠ some group.id

section Pointers

variable {groups : List UserGroup} {groupId x y p : RowId} {group : UserGroup}

lemma parentOf_of_mem (hkeys : (groups.map key).Nodup) (h : group ∈ groups) :
    parentOf groups group.id = group.parentGroupId := by
  have hget : get groups group.id = some group := get_of_mem hkeys h
  rw [parentOf, hget, Option.bind_some]

lemma exists_of_parentOf (h : parentOf groups x = some p) :
    ∃ group ∈ groups, group.id = x ∧ group.parentGroupId = some p := by
  obtain ⟨group, hget, hparent⟩ := Option.bind_eq_some_iff.mp h
  exact ⟨group, mem_of_get hget, key_of_get hget, hparent⟩

lemma parentOf_eq_none (h : x ∉ groups.map key) : parentOf groups x = none := by
  rw [parentOf, get_eq_none_iff.mpr h, Option.bind_none]

lemma groupTree_iff (hrows : GroupRows groups) : GroupTree groups ↔
    (∀ x p, parentOf groups x = some p → p ∈ groups.map key) ∧
      ∀ x ∈ groups.map key, Above (parentOf groups) x ROOT_GROUP_ID := by
  constructor
  · intro h
    refine ⟨fun x p hp => ?_, fun x hx => ?_⟩
    · obtain ⟨group, hgroup, -, hparent⟩ := exists_of_parentOf hp
      exact h.noDangling group hgroup p hparent
    · obtain ⟨group, hgroup, rfl⟩ := List.mem_map.mp hx
      exact h.rooted group hgroup
  · rintro ⟨hparents, hrooted⟩
    have hgroups : ∀ group ∈ groups, Above (parentOf groups) group.id ROOT_GROUP_ID :=
      fun group hgroup => hrooted group.id (List.mem_map_of_mem hgroup)
    refine ⟨fun group hgroup p hp => ?_, hgroups, fun group hgroup n => ?_⟩
    · exact hparents group.id p ((parentOf_of_mem hrows.keys hgroup).trans hp)
    · exact no_circle_of_above_root hrows.root (hgroups group hgroup) n

lemma GroupTree.mem_of_climb (hrows : GroupRows groups) (h : GroupTree groups)
    (hx : x ∈ groups.map key) {n : ℕ} (hn : climb (parentOf groups) n x = some y) :
    y ∈ groups.map key := by
  induction n generalizing x with
  | zero => exact Option.some.inj hn ▸ hx
  | succ n ih =>
    obtain ⟨z, hz, hn⟩ := Option.bind_eq_some_iff.mp hn
    exact ih (((groupTree_iff hrows).mp h).1 x z hz) hn

lemma GroupTree.root_mem (hrows : GroupRows groups) (h : GroupTree groups)
    (hx : x ∈ groups.map key) : ROOT_GROUP_ID ∈ groups.map key := by
  obtain ⟨n, hn⟩ := ((groupTree_iff hrows).mp h).2 x hx
  exact h.mem_of_climb hrows hx hn

/-! ## What a write does to the pointers -/

lemma parentOf_concat (hnew : group.id ∉ groups.map key) :
    parentOf (groups ++ [group]) =
      Function.update (parentOf groups) group.id group.parentGroupId := by
  funext x
  by_cases hx : x = group.id
  · subst hx
    have hget : get (groups ++ [group]) group.id = some group := by
      rw [get_append, get_eq_none_iff.mpr hnew, Option.none_or]
      simp [Table.get]
    rw [parentOf, hget, Function.update_self, Option.bind_some]
  · have hget : get (groups ++ [group]) x = get groups x := by
      rw [get_append]
      have hnone : get [group] x = none := by simp [Table.get, Ne.symm hx]
      rw [hnone, Option.or_none]
    rw [parentOf, hget, Function.update_of_ne hx, parentOf]

lemma parentOf_update_same {f : UserGroup → UserGroup} (hid : ∀ g, (f g).id = g.id)
    (hparent : ∀ g, (f g).parentGroupId = g.parentGroupId) :
    parentOf (update groups groupId f) = parentOf groups := by
  funext x
  have hget : get (update groups groupId f) x =
      (get groups x).map fun g => if key g = groupId then f g else g := get_update hid
  rw [parentOf, hget, parentOf]
  cases get groups x with
  | none => rfl
  | some g =>
    rw [Option.map_some, Option.bind_some, Option.bind_some]
    split
    · exact hparent g
    · rfl

lemma parentOf_setParent (h : groupId ∈ groups.map key) :
    parentOf (update groups groupId fun g => { g with parentGroupId := some p }) =
      Function.update (parentOf groups) groupId (some p) := by
  funext x
  have hget : get (update groups groupId fun g => { g with parentGroupId := some p }) x =
      (get groups x).map fun g =>
        if key g = groupId then { g with parentGroupId := some p } else g :=
    get_update fun _ => rfl
  rw [parentOf, hget]
  by_cases hx : x = groupId
  · subst hx
    obtain ⟨g, hg⟩ := Option.isSome_iff_exists.mp (get_isSome_iff.mpr h)
    rw [hg, Option.map_some, Option.bind_some, if_pos (key_of_get hg), Function.update_self]
  · rw [Function.update_of_ne hx, parentOf]
    cases hg : get groups x with
    | none => rfl
    | some g =>
      have hne : key g ≠ groupId := by rwa [key_of_get hg]
      rw [Option.map_some, Option.bind_some, Option.bind_some, if_neg hne]

lemma keys_liftChildren (groups : List UserGroup) (groupId : RowId) :
    (liftChildren groups groupId).map key = groups.map key := by
  rw [liftChildren, List.map_map]
  refine List.map_congr_left fun g _ => ?_
  show key (if _ then _ else _) = key g
  split <;> rfl

lemma keys_deleted (groups : List UserGroup) (groupId : RowId) :
    ((liftChildren groups groupId).filter fun g => g.id ≠ groupId).map key =
      (groups.map key).filter fun id => id ≠ groupId := by
  rw [← keys_liftChildren groups groupId, List.filter_map]
  rfl

lemma parentOf_deleted (hx : x ≠ groupId) :
    parentOf ((liftChildren groups groupId).filter fun g => g.id ≠ groupId) x =
      if parentOf groups x = some groupId then some ROOT_GROUP_ID else parentOf groups x := by
  have hget : get ((liftChildren groups groupId).filter fun g => g.id ≠ groupId) x =
      (get groups x).map fun g => if g.parentGroupId = some groupId then
        { g with parentGroupId := some ROOT_GROUP_ID } else g := by
    have hfilter : get ((liftChildren groups groupId).filter fun g => g.id ≠ groupId) x =
        get (liftChildren groups groupId) x := by
      refine Owned.find?_filter_eq fun g _ hg => decide_eq_true fun hid => hx ?_
      have hkey : key g = x := of_decide_eq_true hg
      exact hkey.symm.trans hid
    rw [hfilter, liftChildren]
    refine get_map fun g => ?_
    split <;> rfl
  rw [parentOf, hget, parentOf]
  cases get groups x with
  | none => rfl
  | some g =>
    rw [Option.map_some, Option.bind_some, Option.bind_some]
    split <;> rfl

end Pointers

/-! ## The check for cycles -/

section Walks

variable {groups : List UserGroup} (hnamed : ∀ x, parentOf groups x ≠ some "")

include hnamed

lemma findsGroup_iff (guard : ℕ) {groupId p : RowId} (hp : p ≠ "") :
    findsGroup groups groupId guard (some p) = true ↔
      ∃ n < guard, climb (parentOf groups) n p = some groupId := by
  induction guard generalizing p with
  | zero => simp [findsGroup]
  | succ guard ih =>
    have hsome : (some p).filter (fun id => decide (id ≠ "")) = some p := by simp [hp]
    rw [findsGroup, hsome]
    dsimp only
    by_cases heq : p = groupId
    · rw [if_pos heq]
      exact iff_of_true rfl ⟨0, Nat.succ_pos _, congrArg some heq⟩
    · rw [if_neg heq]
      have hrest : ((get groups p).elim false fun parent =>
          findsGroup groups groupId guard parent.parentGroupId) = true ↔
          ∃ n < guard, climb (parentOf groups) (n + 1) p = some groupId := by
        cases hget : get groups p with
        | none => simp [climb_succ, parentOf, hget]
        | some parent =>
          have hparent : parentOf groups p = parent.parentGroupId := by
            rw [parentOf, hget, Option.bind_some]
          rw [Option.elim_some]
          cases hq : parent.parentGroupId with
          | none => cases guard <;> simp [findsGroup, climb_succ, hparent, hq]
          | some q =>
            have hqne : q ≠ "" := fun hempty => hnamed p (by rw [hparent, hq, hempty])
            rw [ih hqne]
            have hclimb : ∀ n, climb (parentOf groups) (n + 1) p =
                climb (parentOf groups) n q :=
              fun n => climb_succ_of_parent (hparent.trans hq)
            simp only [hclimb]
      rw [hrest]
      constructor
      · rintro ⟨n, hn, hclimb⟩
        exact ⟨n + 1, Nat.succ_lt_succ hn, hclimb⟩
      · rintro ⟨n, hn, hclimb⟩
        cases n with
        | zero => exact absurd (Option.some.inj hclimb) heq
        | succ n => exact ⟨n, Nat.lt_of_succ_lt_succ hn, hclimb⟩

end Walks

/-! ## The calls -/

/-- A call of the group service; a new group draws its key. -/
inductive GroupEvent where
  | ensureRoot
  | create (payload : GroupCreate) (userId : Option RowId) (newId : RowId)
  | update (groupId : RowId) (payload : GroupUpdate)
  | delete (groupId : RowId)

/-- A call that raises is rolled back; the database may refuse a deletion besides, which then
changes nothing either. -/
def groupStep (accounts : Accounts) : GroupEvent → Option Accounts
  | .ensureRoot => some (ensureRootGroup accounts)
  | .create payload userId newId =>
    if newId = "" ∨ newId = ROOT_GROUP_ID ∨ newId ∈ accounts.groups.map key then none
    else some (((createGroup accounts payload userId newId).map Prod.fst).toOption.getD accounts)
  | .update groupId payload => some ((updateGroup accounts groupId payload).toOption.getD accounts)
  | .delete groupId => some ((deleteGroup accounts groupId).toOption.getD accounts)

/-- An update does not put a group under one that is 64 or more levels below it. -/
def ShallowMove (accounts : Accounts) : GroupEvent → Prop
  | .update groupId payload =>
    groupId ≠ ROOT_GROUP_ID → ∀ parentGroupId, payload.parentGroupId = some parentGroupId →
      ∀ n, climb (parentOf accounts.groups) n (parentOrRoot parentGroupId) = some groupId → n < 64
  | _ => True

section Calls

variable {accounts accounts' : Accounts} {groupId : RowId}

lemma parentOf_ensureRootGroup (accounts : Accounts) :
    parentOf (ensureRootGroup accounts).groups = parentOf accounts.groups := by
  unfold ensureRootGroup
  split
  · rfl
  · next hroot =>
    have hnew : ROOT_GROUP_ID ∉ accounts.groups.map key := fun hmem =>
      hroot (get_isSome_iff.mpr hmem)
    refine (parentOf_concat hnew).trans ?_
    show Function.update (parentOf accounts.groups) ROOT_GROUP_ID none = _
    rw [← parentOf_eq_none hnew, Function.update_eq_self]

lemma mem_ensureRootGroup {x : RowId} : x ∈ (ensureRootGroup accounts).groups.map key ↔
    x ∈ accounts.groups.map key ∨ x = ROOT_GROUP_ID := by
  unfold ensureRootGroup
  split
  · next hroot =>
    have hmem := get_isSome_iff.mp hroot
    exact ⟨.inl, fun h => h.elim id fun h => h ▸ hmem⟩
  · simp

lemma keys_ensureRootGroup (hkeys : (accounts.groups.map key).Nodup) :
    ((ensureRootGroup accounts).groups.map key).Nodup := by
  unfold ensureRootGroup
  split
  · exact hkeys
  · next hroot =>
    have hnew : ROOT_GROUP_ID ∉ accounts.groups.map key := fun hmem =>
      hroot (get_isSome_iff.mpr hmem)
    rw [List.map_append]
    exact hkeys.append (by simp) (by simpa using hnew)

lemma rows_ensureRootGroup (hrows : GroupRows accounts.groups) :
    GroupRows (ensureRootGroup accounts).groups := by
  refine ⟨keys_ensureRootGroup hrows.keys, fun group hgroup => ?_, ?_⟩
  · rcases mem_ensureRootGroup.mp (List.mem_map_of_mem hgroup) with h | h
    · obtain ⟨group', hgroup', hid⟩ := List.mem_map.mp h
      have hid : group'.id = group.id := hid
      exact hid ▸ hrows.named group' hgroup'
    · have hid : group.id = ROOT_GROUP_ID := h
      rw [hid]
      decide
  · rw [parentOf_ensureRootGroup]
    exact hrows.root

lemma tree_ensureRootGroup (hrows : GroupRows accounts.groups) (h : GroupTree accounts.groups) :
    GroupTree (ensureRootGroup accounts).groups := by
  obtain ⟨hparents, hrooted⟩ := (groupTree_iff hrows).mp h
  rw [groupTree_iff (rows_ensureRootGroup hrows), parentOf_ensureRootGroup]
  refine ⟨fun x p hp => mem_ensureRootGroup.mpr (.inl (hparents x p hp)), fun x hx => ?_⟩
  rcases mem_ensureRootGroup.mp hx with hx | rfl
  · exact hrooted x hx
  · exact .refl ROOT_GROUP_ID

/-! What the calls do when they do not raise. -/

lemma requireGroup_eq_ok {group : UserGroup} :
    requireGroup accounts groupId = .ok group ↔ get accounts.groups groupId = some group := by
  unfold requireGroup
  cases get accounts.groups groupId <;> simp

lemma createGroup_eq_ok {payload : GroupCreate} {userId : Option RowId} {newId : RowId}
    (h : (createGroup accounts payload userId newId).map Prod.fst = .ok accounts') :
    ∃ group : UserGroup, group.id = newId ∧
      group.parentGroupId = some (parentOrRoot payload.parentGroupId) ∧
      parentOrRoot payload.parentGroupId ∈ (ensureRootGroup accounts).groups.map key ∧
      accounts' = { ensureRootGroup accounts with
        groups := (ensureRootGroup accounts).groups ++ [group] } := by
  obtain ⟨created, hcreated, rfl⟩ := except_map_eq_ok.mp h
  unfold createGroup at hcreated
  by_cases hroot : parentOrRoot payload.parentGroupId = ROOT_GROUP_ID
  · rw [if_neg (not_not.mpr hroot)] at hcreated
    cases hcreated
    exact ⟨_, rfl, rfl, mem_ensureRootGroup.mpr (.inr hroot), rfl⟩
  · rw [if_pos hroot] at hcreated
    obtain ⟨parent, hparent, rfl⟩ := except_map_eq_ok.mp hcreated
    have hget := requireGroup_eq_ok.mp hparent
    exact ⟨_, rfl, rfl, get_isSome_iff.mp (by rw [hget]; rfl), rfl⟩

lemma checkNewParent_eq_ok {parentGroupId : Option RowId} {parentId : RowId} :
    checkNewParent accounts groupId parentGroupId = .ok parentId ↔
      groupId ≠ ROOT_GROUP_ID ∧ parentOrRoot parentGroupId ≠ groupId ∧
        parentOrRoot parentGroupId ∈ accounts.groups.map key ∧
        findsGroup accounts.groups groupId 64 (some (parentOrRoot parentGroupId)) = false ∧
        parentId = parentOrRoot parentGroupId := by
  unfold checkNewParent
  generalize parentOrRoot parentGroupId = p
  by_cases hroot : groupId = ROOT_GROUP_ID
  · simp [hroot]
  by_cases hself : p = groupId
  · simp [hroot, hself]
  dsimp only
  rw [if_neg hroot, if_neg hself]
  cases hget : get accounts.groups p with
  | none =>
    have hmem : p ∉ accounts.groups.map key := get_eq_none_iff.mp hget
    simp only [requireGroup, hget]
    exact iff_of_false (fun h => by cases h) fun h => hmem h.2.2.1
  | some parent =>
    have hid : parent.id = p := key_of_get hget
    have hmem : p ∈ accounts.groups.map key := get_isSome_iff.mp (by rw [hget]; rfl)
    simp only [requireGroup, hget, hroot, hself, hmem, ne_eq, not_false_eq_true, true_and]
    show (ensureNoCycle accounts groupId parent.id).bind (fun _ => .ok parent.id) =
      .ok parentId ↔ _
    rw [hid, except_bind_eq_ok, ensureNoCycle]
    cases findsGroup accounts.groups groupId 64 (some p) with
    | true => simp
    | false => simp [eq_comm]

/-- The groups with the name and description of an update. -/
def describedGroups (accounts : Accounts) (groupId : RowId) (payload : GroupUpdate) :
    List UserGroup :=
  update (ensureRootGroup accounts).groups groupId payload.describe

lemma keys_describedGroups {payload : GroupUpdate} :
    (describedGroups accounts groupId payload).map key =
      (ensureRootGroup accounts).groups.map key := map_key_update fun _ => rfl

lemma parentOf_describedGroups {payload : GroupUpdate} :
    parentOf (describedGroups accounts groupId payload) = parentOf accounts.groups := by
  have hsame : parentOf (update (ensureRootGroup accounts).groups groupId payload.describe) =
      parentOf (ensureRootGroup accounts).groups :=
    parentOf_update_same (fun _ => rfl) fun _ => rfl
  exact hsame.trans (parentOf_ensureRootGroup _)

lemma parentOrRoot_ne (parentGroupId : Option RowId) : parentOrRoot parentGroupId ≠ "" := by
  unfold parentOrRoot
  cases h : parentGroupId.filter (· ≠ "") with
  | none => decide
  | some p => exact of_decide_eq_true (Option.filter_eq_some_iff.mp h).2

lemma groupRows_congr {groups groups' : List UserGroup} (h : GroupRows groups)
    (hkeys : groups'.map key = groups.map key) (hroot : parentOf groups' ROOT_GROUP_ID = none) :
    GroupRows groups' := by
  refine ⟨hkeys ▸ h.keys, fun group hgroup => ?_, hroot⟩
  have hmem : group.id ∈ groups.map key := hkeys ▸ List.mem_map_of_mem hgroup
  obtain ⟨group', hgroup', hid⟩ := List.mem_map.mp hmem
  have hid : group'.id = group.id := hid
  exact hid ▸ h.named group' hgroup'

lemma rows_describedGroups (hrows : GroupRows accounts.groups) {payload : GroupUpdate} :
    GroupRows (describedGroups accounts groupId payload) := by
  refine groupRows_congr (rows_ensureRootGroup hrows) keys_describedGroups ?_
  rw [parentOf_describedGroups]
  exact hrows.root

lemma tree_describedGroups (hrows : GroupRows accounts.groups) (h : GroupTree accounts.groups)
    {payload : GroupUpdate} : GroupTree (describedGroups accounts groupId payload) := by
  have hroot := (groupTree_iff (rows_ensureRootGroup hrows)).mp (tree_ensureRootGroup hrows h)
  rw [parentOf_ensureRootGroup] at hroot
  rw [groupTree_iff (rows_describedGroups hrows), parentOf_describedGroups,
    keys_describedGroups]
  exact hroot

lemma updateGroup_eq_ok {payload : GroupUpdate}
    (h : updateGroup accounts groupId payload = .ok accounts') :
    groupId ∈ accounts.groups.map key ∧
      (payload.parentGroupId = none ∧
          accounts'.groups = describedGroups accounts groupId payload ∨
        ∃ parentGroupId parentId, payload.parentGroupId = some parentGroupId ∧
          checkNewParent { ensureRootGroup accounts with
            groups := describedGroups accounts groupId payload } groupId parentGroupId =
              .ok parentId ∧
          accounts'.groups = update (describedGroups accounts groupId payload) groupId fun group =>
            { group with parentGroupId := some parentId }) := by
  obtain ⟨group, hgroup, h⟩ := except_bind_eq_ok.mp h
  have hget := requireGroup_eq_ok.mp hgroup
  refine ⟨get_isSome_iff.mp (by rw [hget]; rfl), ?_⟩
  cases hparent : payload.parentGroupId with
  | none =>
    rw [hparent] at h
    exact .inl ⟨rfl, (congrArg Accounts.groups (Except.ok.inj h)).symm⟩
  | some parentGroupId =>
    rw [hparent] at h
    obtain ⟨parentId, hcheck, h⟩ := except_bind_eq_ok.mp h
    exact .inr ⟨parentGroupId, parentId, rfl, hcheck,
      (congrArg Accounts.groups (Except.ok.inj h)).symm⟩

lemma updateGroup_ok_of_check {payload : GroupUpdate} {parentGroupId : Option RowId}
    {parentId : RowId} (hmem : groupId ∈ accounts.groups.map key)
    (hparent : payload.parentGroupId = some parentGroupId)
    (hcheck : checkNewParent { ensureRootGroup accounts with
      groups := describedGroups accounts groupId payload } groupId parentGroupId = .ok parentId) :
    ∃ accounts', updateGroup accounts groupId payload = .ok accounts' ∧
      accounts'.groups = update (describedGroups accounts groupId payload) groupId fun group =>
        { group with parentGroupId := some parentId } := by
  obtain ⟨group, hget⟩ := Option.isSome_iff_exists.mp (get_isSome_iff.mpr hmem)
  refine ⟨{ ensureRootGroup accounts with
    groups := update (describedGroups accounts groupId payload) groupId fun group =>
      { group with parentGroupId := some parentId } }, ?_, rfl⟩
  refine except_bind_eq_ok.mpr ⟨group, requireGroup_eq_ok.mpr hget, ?_⟩
  rw [hparent]
  exact except_bind_eq_ok.mpr ⟨parentId, hcheck, rfl⟩

lemma deleteGroup_eq_ok (h : deleteGroup accounts groupId = .ok accounts') :
    groupId ≠ ROOT_GROUP_ID ∧
      accounts'.groups =
        (liftChildren (ensureRootGroup accounts).groups groupId).filter fun group =>
        group.id ≠ groupId := by
  obtain ⟨group, -, h⟩ := except_bind_eq_ok.mp h
  by_cases hroot : groupId = ROOT_GROUP_ID
  · rw [if_pos hroot] at h
    cases h
  · rw [if_neg hroot] at h
    exact ⟨hroot, (congrArg Accounts.groups (Except.ok.inj h)).symm⟩

/-! ## One call -/

lemma tree_concat {groups : List UserGroup} {group : UserGroup} {p : RowId}
    (hrows : GroupRows groups) (hnew : group.id ∉ groups.map key) (hne : group.id ≠ "")
    (hroot : group.id ≠ ROOT_GROUP_ID) (hparent : group.parentGroupId = some p)
    (hp : p ∈ groups.map key) :
    GroupRows (groups ++ [group]) ∧ (GroupTree groups → GroupTree (groups ++ [group])) := by
  have hpointers := parentOf_concat hnew
  rw [hparent] at hpointers
  have hold : ∀ x ∈ groups.map key, x ≠ group.id := fun x hx heq => hnew (heq ▸ hx)
  have hrows' : GroupRows (groups ++ [group]) := by
    refine ⟨?_, fun g hg => ?_, ?_⟩
    · rw [List.map_append]
      exact hrows.keys.append (by simp) (by simpa using hnew)
    · rcases List.mem_append.mp hg with hg | hg
      · exact hrows.named g hg
      · exact List.mem_singleton.mp hg ▸ hne
    · rw [hpointers, Function.update_of_ne hroot.symm]
      exact hrows.root
  refine ⟨hrows', fun h => ?_⟩
  obtain ⟨hparents, hrooted⟩ := (groupTree_iff hrows).mp h
  -- the old groups still have the root above them
  have hstill : ∀ x ∈ groups.map key, Above (parentOf (groups ++ [group])) x ROOT_GROUP_ID := by
    intro x hx
    refine above_of_step (fun y => y ∈ groups.map key) (fun y z hy hz => .inr ⟨?_, ?_⟩) hx
      (hrooted x hx)
    · rw [hpointers, Function.update_of_ne (hold y hy), hz]
    · exact hparents y z hz
  rw [groupTree_iff hrows']
  refine ⟨fun x q hq => ?_, fun x hx => ?_⟩
  · rw [List.map_append]
    by_cases hx : x = group.id
    · rw [hpointers, hx, Function.update_self] at hq
      exact List.mem_append_left _ (Option.some.inj hq ▸ hp)
    · rw [hpointers, Function.update_of_ne hx] at hq
      exact List.mem_append_left _ (hparents x q hq)
  · rw [List.map_append] at hx
    rcases List.mem_append.mp hx with hx | hx
    · exact hstill x hx
    · have hx : x = group.id := by simpa using hx
      subst hx
      refine .step ?_ (hstill p hp)
      rw [hpointers, Function.update_self]

lemma tree_deleted {groups : List UserGroup} (hrows : GroupRows groups)
    (hroot : groupId ≠ ROOT_GROUP_ID) :
    GroupRows ((liftChildren groups groupId).filter fun g => g.id ≠ groupId) ∧
      (GroupTree groups →
        GroupTree ((liftChildren groups groupId).filter fun g => g.id ≠ groupId)) := by
  have hkeys := keys_deleted groups groupId
  have hrows' : GroupRows ((liftChildren groups groupId).filter fun g => g.id ≠ groupId) := by
    refine ⟨hkeys ▸ hrows.keys.filter _, fun g hg => ?_, ?_⟩
    · have hmem := List.mem_map_of_mem (f := key) hg
      rw [hkeys] at hmem
      obtain ⟨g', hg', hid⟩ := List.mem_map.mp (List.mem_filter.mp hmem).1
      have hid : g'.id = g.id := hid
      exact hid ▸ hrows.named g' hg'
    · rw [parentOf_deleted hroot.symm, hrows.root]
      rfl
  refine ⟨hrows', fun h => ?_⟩
  obtain ⟨hparents, hrooted⟩ := (groupTree_iff hrows).mp h
  rw [groupTree_iff hrows', hkeys]
  refine ⟨fun x p hp => ?_, fun x hx => ?_⟩
  · have hx : x ≠ groupId := by
      rintro rfl
      rw [parentOf_eq_none (by rw [hkeys]; simp)] at hp
      cases hp
    have hrootMem : ∀ y ∈ groups.map key, ROOT_GROUP_ID ∈ groups.map key := fun y hy =>
      h.root_mem hrows hy
    rw [parentOf_deleted hx] at hp
    split at hp
    · next hchild =>
      cases hp
      have hmem := hrootMem groupId (hparents x groupId hchild)
      exact List.mem_filter.mpr ⟨hmem, decide_eq_true hroot.symm⟩
    · next hother =>
      refine List.mem_filter.mpr ⟨hparents x p hp, decide_eq_true fun heq => hother ?_⟩
      rw [← heq]
      exact hp
  · obtain ⟨hx, hne⟩ := List.mem_filter.mp hx
    have hne : x ≠ groupId := of_decide_eq_true hne
    refine above_of_step (fun y => y ≠ groupId) (fun y z hy hz => ?_) hne (hrooted x hx)
    rw [parentOf_deleted hy, hz]
    by_cases hchild : z = groupId
    · rw [if_pos (congrArg some hchild)]
      exact .inl (.step (by rw [parentOf_deleted hy, hz, if_pos (congrArg some hchild)]) (.refl _))
    · rw [if_neg fun heq => hchild (Option.some.inj heq)]
      exact .inr ⟨rfl, hchild⟩

lemma rows_moved {groups : List UserGroup} {p : RowId} (hrows : GroupRows groups)
    (hmem : groupId ∈ groups.map key) (hroot : groupId ≠ ROOT_GROUP_ID) :
    GroupRows (update groups groupId fun g => { g with parentGroupId := some p }) := by
  refine groupRows_congr hrows (map_key_update fun _ => rfl) ?_
  rw [parentOf_setParent hmem, Function.update_of_ne hroot.symm]
  exact hrows.root

lemma tree_moved {groups : List UserGroup} {p : RowId} (hrows : GroupRows groups)
    (hmem : groupId ∈ groups.map key) (hroot : groupId ≠ ROOT_GROUP_ID)
    (hp : p ∈ groups.map key) (h : GroupTree groups) :
    GroupTree (update groups groupId fun g => { g with parentGroupId := some p }) ↔
      ¬ Above (parentOf groups) p groupId := by
  have hkeys : (update groups groupId fun g => { g with parentGroupId := some p }).map key =
      groups.map key := map_key_update fun _ => rfl
  obtain ⟨hparents, hrooted⟩ := (groupTree_iff hrows).mp h
  rw [groupTree_iff (rows_moved hrows hmem hroot), hkeys, parentOf_setParent hmem]
  constructor
  · rintro ⟨-, hrooted'⟩ habove
    -- the group is on a circle now, and no root is above it
    obtain ⟨n, hn⟩ := circle_update habove
    refine no_circle_of_above_root ?_ (hrooted' groupId hmem) n hn
    rw [Function.update_of_ne hroot.symm]
    exact hrows.root
  · intro hnot
    refine ⟨fun x q hq => ?_, fun x hx => above_update hnot (hrooted p hp) (hrooted x hx)⟩
    by_cases hx : x = groupId
    · rw [hx, Function.update_self] at hq
      exact Option.some.inj hq ▸ hp
    · rw [Function.update_of_ne hx] at hq
      exact hparents x q hq

lemma findsGroup_described (hrows : GroupRows accounts.groups) (htree : GroupTree accounts.groups)
    (payload : GroupUpdate) (parentGroupId : Option RowId) :
    findsGroup (describedGroups accounts groupId payload) groupId 64
        (some (parentOrRoot parentGroupId)) = true ↔
      ∃ n < 64, climb (parentOf accounts.groups) n (parentOrRoot parentGroupId) = some groupId := by
  have hpointers : parentOf (describedGroups accounts groupId payload) =
      parentOf accounts.groups := parentOf_describedGroups
  have hnamed : ∀ x, parentOf (describedGroups accounts groupId payload) x ≠ some "" := by
    intro x hx
    rw [hpointers] at hx
    have hmem := ((groupTree_iff hrows).mp htree).1 x "" hx
    obtain ⟨group, hgroup, hid⟩ := List.mem_map.mp hmem
    exact hrows.named group hgroup hid
  rw [findsGroup_iff hnamed 64 (parentOrRoot_ne parentGroupId), hpointers]

/-- What an update of a tree does: nothing when it raises, and otherwise the pointers stay, or one
of them moves to a group whose first 64 ancestors the check has been through. -/
lemma updateGroup_cases (hrows : GroupRows accounts.groups) (htree : GroupTree accounts.groups)
    {payload : GroupUpdate} (h : updateGroup accounts groupId payload = .ok accounts') :
    payload.parentGroupId = none ∧
        accounts'.groups = describedGroups accounts groupId payload ∨
      ∃ parentGroupId, payload.parentGroupId = some parentGroupId ∧ groupId ≠ ROOT_GROUP_ID ∧
        groupId ∈ accounts.groups.map key ∧
        parentOrRoot parentGroupId ∈ (ensureRootGroup accounts).groups.map key ∧
        (∀ n < 64, climb (parentOf accounts.groups) n (parentOrRoot parentGroupId) ≠
          some groupId) ∧
        accounts'.groups = update (describedGroups accounts groupId payload) groupId fun group =>
          { group with parentGroupId := some (parentOrRoot parentGroupId) } := by
  obtain ⟨hmem, hsame | ⟨parentGroupId, parentId, hparent, hcheck, hmoved⟩⟩ := updateGroup_eq_ok h
  · exact .inl hsame
  · obtain ⟨hroot, -, hp, hfinds, rfl⟩ := checkNewParent_eq_ok.mp hcheck
    refine .inr ⟨parentGroupId, hparent, hroot, hmem, ?_, ?_, hmoved⟩
    · exact keys_describedGroups ▸ hp
    · intro n hn hclimb
      have hfound := (findsGroup_described hrows htree payload parentGroupId).mpr ⟨n, hn, hclimb⟩
      exact Bool.false_ne_true (hfinds.symm.trans hfound)

lemma rows_updateGroup (hrows : GroupRows accounts.groups) {payload : GroupUpdate}
    (h : updateGroup accounts groupId payload = .ok accounts') : GroupRows accounts'.groups := by
  have hdescribed : GroupRows (describedGroups accounts groupId payload) :=
    rows_describedGroups hrows
  obtain ⟨hmem, ⟨-, hsame⟩ | ⟨parentGroupId, parentId, -, hcheck, hmoved⟩⟩ := updateGroup_eq_ok h
  · exact hsame ▸ hdescribed
  · obtain ⟨hroot, -⟩ := checkNewParent_eq_ok.mp hcheck
    rw [hmoved]
    refine rows_moved hdescribed ?_ hroot
    exact keys_describedGroups ▸ mem_ensureRootGroup.mpr (.inl hmem)

lemma tree_updateGroup (hrows : GroupRows accounts.groups) (htree : GroupTree accounts.groups)
    {payload : GroupUpdate} (hok : ShallowMove accounts (.update groupId payload))
    (h : updateGroup accounts groupId payload = .ok accounts') : GroupTree accounts'.groups := by
  have hdescribed : GroupTree (describedGroups accounts groupId payload) :=
    tree_describedGroups hrows htree
  rcases updateGroup_cases hrows htree h with
    ⟨-, hsame⟩ | ⟨parentGroupId, hparent, hroot, hmem, hp, hfar, hmoved⟩
  · exact hsame ▸ hdescribed
  · rw [hmoved, tree_moved (rows_describedGroups hrows)
      (keys_describedGroups ▸ mem_ensureRootGroup.mpr (.inl hmem)) hroot
      (keys_describedGroups ▸ hp) hdescribed, parentOf_describedGroups]
    rintro ⟨n, hn⟩
    exact hfar n (hok hroot parentGroupId hparent n hn) hn

lemma updateGroup_of_deep (hrows : GroupRows accounts.groups) (htree : GroupTree accounts.groups)
    {payload : GroupUpdate} {parentGroupId : Option RowId} {n : ℕ}
    (hroot : groupId ≠ ROOT_GROUP_ID) (hparent : payload.parentGroupId = some parentGroupId)
    (hn : climb (parentOf accounts.groups) n (parentOrRoot parentGroupId) = some groupId)
    (hdeep : 64 ≤ n) :
    ∃ accounts', updateGroup accounts groupId payload = .ok accounts' ∧
      ¬ GroupTree accounts'.groups := by
  obtain ⟨hparents, hrooted⟩ := (groupTree_iff hrows).mp htree
  have hpos : n = (n - 1) + 1 := by omega
  obtain ⟨q, hq, hrest⟩ := Option.bind_eq_some_iff.mp (hpos ▸ hn)
  -- the new parent has a parent, so it is a group, and what is above it is one too
  have hp : parentOrRoot parentGroupId ∈ accounts.groups.map key := by
    obtain ⟨group, hgroup, hid, -⟩ := exists_of_parentOf hq
    exact hid ▸ List.mem_map_of_mem hgroup
  have hmem : groupId ∈ accounts.groups.map key := htree.mem_of_climb hrows hp hn
  have hnone := no_circle_of_above_root hrows.root (hrooted groupId hmem)
  have hself : parentOrRoot parentGroupId ≠ groupId := by
    intro heq
    rw [heq] at hn
    exact hnone (n - 1) (hpos ▸ hn)
  have hfinds : findsGroup (describedGroups accounts groupId payload) groupId 64
      (some (parentOrRoot parentGroupId)) = false := by
    refine Bool.eq_false_iff.mpr fun hfound => ?_
    obtain ⟨m, hm, hclimb⟩ := (findsGroup_described hrows htree payload parentGroupId).mp hfound
    -- the group would be above itself
    have hsplit : climb (parentOf accounts.groups) (m + (n - m)) (parentOrRoot parentGroupId) =
        some groupId := by
      rw [Nat.add_sub_cancel' (by omega), hn]
    rw [climb_add, hclimb, Option.bind_some] at hsplit
    have hstep : n - m = (n - m - 1) + 1 := by omega
    exact hnone (n - m - 1) (hstep ▸ hsplit)
  have hpmem : parentOrRoot parentGroupId ∈ (describedGroups accounts groupId payload).map key :=
    keys_describedGroups ▸ mem_ensureRootGroup.mpr (.inl hp)
  obtain ⟨accounts', hok, hmoved⟩ := updateGroup_ok_of_check hmem hparent
    (checkNewParent_eq_ok.mpr ⟨hroot, hself, hpmem, hfinds, rfl⟩)
  refine ⟨accounts', hok, ?_⟩
  rw [hmoved, tree_moved (rows_describedGroups hrows)
    (keys_describedGroups ▸ mem_ensureRootGroup.mpr (.inl hmem)) hroot hpmem
    (tree_describedGroups hrows htree), parentOf_describedGroups]
  exact fun hnot => hnot ⟨n, hn⟩

end Calls

section Steps

variable {accounts accounts' : Accounts} {event : GroupEvent}

lemma groupStep_cases (h : groupStep accounts event = some accounts') :
    accounts'.groups = accounts.groups ∨
    accounts'.groups = (ensureRootGroup accounts).groups ∨
    (∃ group p, group.id ∉ (ensureRootGroup accounts).groups.map key ∧ group.id ≠ "" ∧
      group.id ≠ ROOT_GROUP_ID ∧ group.parentGroupId = some p ∧
      p ∈ (ensureRootGroup accounts).groups.map key ∧
      accounts'.groups = (ensureRootGroup accounts).groups ++ [group]) ∨
    (∃ groupId payload, event = .update groupId payload ∧
      updateGroup accounts groupId payload = .ok accounts') ∨
    ∃ groupId, groupId ≠ ROOT_GROUP_ID ∧ accounts'.groups =
      (liftChildren (ensureRootGroup accounts).groups groupId).filter fun group =>
        group.id ≠ groupId := by
  cases event with
  | ensureRoot =>
    cases h
    exact .inr (.inl rfl)
  | create payload userId newId =>
    by_cases hfresh : newId = "" ∨ newId = ROOT_GROUP_ID ∨ newId ∈ accounts.groups.map key
    · rw [groupStep, if_pos hfresh] at h
      cases h
    rw [groupStep, if_neg hfresh] at h
    simp only [not_or] at hfresh
    obtain ⟨hne, hroot, hnew⟩ := hfresh
    cases hcreated : (createGroup accounts payload userId newId).map Prod.fst with
    | error error =>
      rw [hcreated] at h
      cases h
      exact .inl rfl
    | ok created =>
      rw [hcreated] at h
      cases h
      obtain ⟨group, rfl, hparent, hp, rfl⟩ := createGroup_eq_ok hcreated
      have habsent : group.id ∉ (ensureRootGroup accounts).groups.map key := fun hmem =>
        (mem_ensureRootGroup.mp hmem).elim hnew hroot
      exact .inr (.inr (.inl ⟨group, _, habsent, hne, hroot, hparent, hp, rfl⟩))
  | update groupId payload =>
    cases hupdated : updateGroup accounts groupId payload with
    | error error =>
      rw [groupStep, hupdated] at h
      cases h
      exact .inl rfl
    | ok updated =>
      rw [groupStep, hupdated] at h
      cases h
      exact .inr (.inr (.inr (.inl ⟨groupId, payload, rfl, hupdated⟩)))
  | delete groupId =>
    cases hdeleted : deleteGroup accounts groupId with
    | error error =>
      rw [groupStep, hdeleted] at h
      cases h
      exact .inl rfl
    | ok deleted =>
      rw [groupStep, hdeleted] at h
      cases h
      exact .inr (.inr (.inr (.inr ⟨groupId, deleteGroup_eq_ok hdeleted⟩)))

lemma rows_step (hrows : GroupRows accounts.groups)
    (h : groupStep accounts event = some accounts') : GroupRows accounts'.groups := by
  have hwithRoot := rows_ensureRootGroup hrows
  obtain hsame | hsame | ⟨group, p, hnew, hne, hroot, hparent, hp, hgroups⟩ |
    ⟨groupId, payload, rfl, hupdated⟩ | ⟨groupId, hroot, hgroups⟩ := groupStep_cases h
  · exact hsame ▸ hrows
  · exact hsame ▸ hwithRoot
  · exact hgroups ▸ (tree_concat hwithRoot hnew hne hroot hparent hp).1
  · exact rows_updateGroup hrows hupdated
  · exact hgroups ▸ (tree_deleted hwithRoot hroot).1

lemma tree_step (hrows : GroupRows accounts.groups) (htree : GroupTree accounts.groups)
    (hok : ShallowMove accounts event) (h : groupStep accounts event = some accounts') :
    GroupTree accounts'.groups := by
  have hwithRoot := rows_ensureRootGroup hrows
  have htreeRoot := tree_ensureRootGroup hrows htree
  obtain hsame | hsame | ⟨group, p, hnew, hne, hroot, hparent, hp, hgroups⟩ |
    ⟨groupId, payload, rfl, hupdated⟩ | ⟨groupId, hroot, hgroups⟩ := groupStep_cases h
  · exact hsame ▸ htree
  · exact hsame ▸ htreeRoot
  · exact hgroups ▸ (tree_concat hwithRoot hnew hne hroot hparent hp).2 htreeRoot
  · exact tree_updateGroup hrows htree hok hupdated
  · exact hgroups ▸ (tree_deleted hwithRoot hroot).2 htreeRoot

lemma shallowMove_of_tree (hrows : GroupRows accounts.groups) (htree : GroupTree accounts.groups)
    (h : groupStep accounts event = some accounts') (htree' : GroupTree accounts'.groups) :
    ShallowMove accounts event := by
  cases event with
  | update groupId payload =>
    intro hroot parentGroupId hparent n hn
    by_contra hdeep
    obtain ⟨updated, hupdated, hbroken⟩ :=
      updateGroup_of_deep hrows htree hroot hparent hn (not_lt.mp hdeep)
    rw [groupStep, hupdated] at h
    cases h
    exact hbroken htree'
  | _ => trivial

/-- An update that puts a group under one of its descendants, at any depth, is refused. -/
def RefusesDescendants (accounts : Accounts) : GroupEvent → Prop
  | .update groupId payload => ∀ parentGroupId, payload.parentGroupId = some parentGroupId →
      Above (parentOf accounts.groups) (parentOrRoot parentGroupId) groupId →
        ∃ error, updateGroup accounts groupId payload = .error error
  | _ => True

lemma refusesDescendants (hrows : GroupRows accounts.groups) (htree : GroupTree accounts.groups)
    (hok : ShallowMove accounts event) : RefusesDescendants accounts event := by
  cases event with
  | update groupId payload =>
    rintro parentGroupId hparent ⟨n, hn⟩
    cases hupdated : updateGroup accounts groupId payload with
    | error error => exact ⟨error, rfl⟩
    | ok updated =>
      rcases updateGroup_cases hrows htree hupdated with
        ⟨hnone, -⟩ | ⟨q, hq, hroot, -, -, hfar, -⟩
      · rw [hparent] at hnone
        cases hnone
      · cases hparent.symm.trans hq
        exact absurd hn (hfar n (hok hroot parentGroupId hparent n hn))
  | _ => trivial

end Steps

/-! ## Runs -/

/-- In a run of the service from a tree of groups, the groups are a tree in every state and no
group goes under a descendant of its own, if and only if no update puts a group under one that is
64 or more levels below it. -/
theorem groupTree_iff_shallowMoves {accounts accounts' : Accounts} {events : List GroupEvent}
    (hrows : GroupRows accounts.groups) (htree : GroupTree accounts.groups)
    (hrun : run groupStep accounts events = some accounts') :
    (AllStates groupStep (fun accounts => GroupTree accounts.groups) accounts events ∧
        StepsMeet groupStep RefusesDescendants accounts events) ↔
      StepsMeet groupStep ShallowMove accounts events := by
  constructor
  · rintro ⟨hall, -⟩
    refine stepsMeet_of_allStates (fun accounts => GroupRows accounts.groups)
      (fun s e s' hrows h => rows_step hrows h) ?_ hrows hrun hall
    intro s e s' hrows htree h htree'
    exact shallowMove_of_tree hrows htree h htree'
  · intro hok
    have hstep : ∀ s e s', GroupRows s.groups ∧ GroupTree s.groups → ShallowMove s e →
        groupStep s e = some s' → GroupRows s'.groups ∧ GroupTree s'.groups :=
      fun s e s' hinv hok h => ⟨rows_step hinv.1 h, tree_step hinv.1 hinv.2 hok h⟩
    refine ⟨allStates_of_stepsMeet _ hstep (fun _ hinv => hinv.2) ⟨hrows, htree⟩ hok, ?_⟩
    exact stepsMeet_of_stepsMeet _ hstep
      (fun _ _ hinv hok => refusesDescendants hinv.1 hinv.2 hok) ⟨hrows, htree⟩ hok

lemma tree_nil : GroupRows [] ∧ GroupTree [] :=
  ⟨⟨List.nodup_nil, by simp, rfl⟩, ⟨by simp, by simp, by simp⟩⟩

/-- Two groups, the lower of which cannot have the upper one under it. -/
def shallowRun : List GroupEvent :=
  [.ensureRoot, .create { name := "staff" } none "staff",
    .create { name := "night", parentGroupId := some "staff" } none "night",
    .update "staff" { parentGroupId := some (some "night") }, .delete "staff"]

theorem shallowRun_groupTree :
    AllStates groupStep (fun accounts => GroupTree accounts.groups) {} shallowRun ∧
      StepsMeet groupStep RefusesDescendants {} shallowRun := by
  obtain ⟨accounts', hrun⟩ : ∃ accounts', run groupStep {} shallowRun = some accounts' :=
    ⟨_, rfl⟩
  refine (groupTree_iff_shallowMoves tree_nil.1 tree_nil.2 hrun).mpr ?_
  refine ⟨trivial, trivial, trivial, ?_, trivial, trivial⟩
  intro _ parentGroupId hparent n hn
  cases hparent
  rcases Nat.lt_or_ge n 3 with hsmall | hlarge
  · omega
  · -- the root is two steps above, and has no parent
    rw [← Nat.add_sub_cancel' hlarge, climb_add] at hn
    cases hn

/-- The key of the group `n` levels below the first one. -/
def levelId (n : ℕ) : RowId := String.ofList (List.replicate (n + 1) 'g')

/-- 65 groups, each under the one before, and then the first comes under the last. -/
def deepRun : List GroupEvent :=
  (.create { name := "top" } none (levelId 0) ::
    (List.range 64).map fun n =>
      .create { name := "below", parentGroupId := some (levelId n) } none (levelId (n + 1))) ++
    [.update (levelId 0) { parentGroupId := some (some (levelId 64)) }]

theorem deepRun_not_groupTree : ¬ ∀ (events : List GroupEvent) (accounts' : Accounts),
    run groupStep {} events = some accounts' →
      AllStates groupStep (fun accounts => GroupTree accounts.groups) {} events ∧
        StepsMeet groupStep RefusesDescendants {} events := by
  intro h
  have hcircle : ((run groupStep {} deepRun).any fun accounts =>
      climb (parentOf accounts.groups) 65 (levelId 0) = some (levelId 0)) = true := by
    decide +kernel
  obtain ⟨accounts', hrun, hclimb⟩ := (Option.any_eq_true _ _).mp hcircle
  have htree := (h deepRun accounts' hrun).1.last hrun
  obtain ⟨group, hgroup, hid, -⟩ :=
    exists_of_parentOf (Option.bind_eq_some_iff.mp (of_decide_eq_true hclimb)).choose_spec.1
  exact htree.noCycle group hgroup 64 (hid ▸ of_decide_eq_true hclimb)

end CocoonSit
