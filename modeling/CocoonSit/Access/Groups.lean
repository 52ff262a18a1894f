import CocoonSit.Model.Accounts

/-!
# User groups

The group service: the tree of groups, its changes, and the walks through it that the access checks
use.  Descendants are collected breadth first with a record of the groups seen, so a cycle of
parents does no harm; ancestors are followed for at most 64 groups, by the check for cycles as well.
The walks are read as sets, so the order in which the service lists groups is not kept.
-/

namespace CocoonSit

open Table

/-- Create the root group on demand so registration can always fall back safely. -/
def ensureRootGroup (accounts : Accounts) : Accounts :=
  if (get accounts.groups ROOT_GROUP_ID).isSome then accounts
  else { accounts with groups := accounts.groups ++
      [{ id := ROOT_GROUP_ID, name := ROOT_GROUP_NAME
         description := some ROOT_GROUP_DESCRIPTION }] }

/-- The requested group when present, otherwise the guaranteed root group. -/
def resolveRegistrationGroup (accounts : Accounts) (requestedGroupId : Option RowId) : RowId :=
  ((requestedGroupId.filter (· ≠ "")).bind (get accounts.groups)).elim ROOT_GROUP_ID UserGroup.id

/-- `children_by_parent.get(current, [])`. -/
def childGroupIds (groups : List UserGroup) (groupId : RowId) : List RowId :=
  (groups.filter fun group => group.parentGroupId = some groupId).map UserGroup.id

/-- The groups whose children have not been queued yet. -/
def unqueued (groups : List UserGroup) (seen : List RowId) : List UserGroup :=
  groups.filter fun group => group.parentGroupId.all fun parent => parent ∉ seen

lemma length_unqueued_cons (groups : List UserGroup) {seen : List RowId} {groupId : RowId}
    (h : groupId ∉ seen) :
    (unqueued groups (groupId :: seen)).length + (childGroupIds groups groupId).length =
      (unqueued groups seen).length := by
  unfold unqueued childGroupIds
  simp only [List.length_map, ← List.countP_eq_length_filter, List.mem_cons]
  induction groups with
  | nil => rfl
  | cons group groups ih =>
    simp only [List.countP_cons]
    cases hparent : group.parentGroupId with
    | none =>
      simp only [Option.all_none, if_true, reduceCtorEq, decide_false, Bool.false_eq_true,
        if_false]
      omega
    | some parent =>
      by_cases hp : parent = groupId
      · subst hp
        simp only [Option.all_some, true_or, not_true_eq_false, decide_false,
          Bool.false_eq_true, if_false, decide_true, if_true, h, not_false_eq_true]
        omega
      · have hne : ¬ (some parent = some groupId) := by simpa using hp
        simp only [Option.all_some, hp, false_or, hne, decide_false,
          Bool.false_eq_true, if_false]
        omega

/-- The loop of `list_descendant_group_ids`; `ordered` and `seen` hold the same groups, the latest
first. -/
def descendantsFrom (groups : List UserGroup) (seen : List RowId) : List RowId → List RowId
  | [] => seen.reverse
  | current :: queue =>
    if current ∈ seen then descendantsFrom groups seen queue
    else descendantsFrom groups (current :: seen) (queue ++ childGroupIds groups current)
termination_by queue => queue.length + (unqueued groups seen).length
decreasing_by
  · simp
  · have := length_unqueued_cons groups ‹current ∉ seen›
    rw [List.length_append, List.length_cons]
    omega

def listDescendantGroupIds (accounts : Accounts) (rootGroupIds : List RowId) : List RowId :=
  descendantsFrom (ensureRootGroup accounts).groups [] (rootGroupIds.filter (· ≠ ""))

/-- The loop of `list_ancestor_group_ids`. -/
def ancestorsFrom (groups : List UserGroup) : ℕ → Option RowId → List RowId
  | 0, _ => []
  | guard + 1, currentGroupId =>
    match currentGroupId.filter (· ≠ "") with
    | none => []
    | some groupId => groupId ::
        (get groups groupId).elim [] fun group => ancestorsFrom groups guard group.parentGroupId

def listAncestorGroupIds (accounts : Accounts) (groupId : Option RowId) : List RowId :=
  ancestorsFrom accounts.groups 64 groupId

/-! ## Changing the tree -/

def requireGroup (accounts : Accounts) (groupId : RowId) : Except HttpError UserGroup :=
  match get accounts.groups groupId with
  | none => .error ⟨404, "Group not found"⟩
  | some group => .ok group

/-- The loop of `_ensure_no_cycle`: whether it comes upon the group and raises. -/
def findsGroup (groups : List UserGroup) (groupId : RowId) : ℕ → Option RowId → Bool
  | 0, _ => false
  | guard + 1, currentParentId =>
    match currentParentId.filter (· ≠ "") with
    | none => false
    | some current =>
      if current = groupId then true
      else (get groups current).elim false fun parent =>
        findsGroup groups groupId guard parent.parentGroupId

def ensureNoCycle (accounts : Accounts) (groupId parentGroupId : RowId) : Except HttpError Unit :=
  if findsGroup accounts.groups groupId 64 (some parentGroupId) then
    .error ⟨400, "Group parent would create a cycle"⟩
  else .ok ()

structure GroupCreate where
  name : String
  parentGroupId : Option RowId := none
  description : Option String := none

/-- A group as the request sends it; the fields it does not set are `none`. -/
structure GroupUpdate where
  name : Option (Option String) := none
  parentGroupId : Option (Option RowId) := none
  description : Option (Option String) := none

/-- `payload.parent_group_id or root_group.id`. -/
def parentOrRoot (parentGroupId : Option RowId) : RowId :=
  (parentGroupId.filter (· ≠ "")).getD ROOT_GROUP_ID

/-- Create a user group under the requested parent, defaulting to the root group. -/
def createGroup (accounts : Accounts) (payload : GroupCreate) (userId : Option RowId)
    (newId : RowId) : Except HttpError (Accounts × UserGroup) :=
  let accounts := ensureRootGroup accounts
  let parentGroupId := parentOrRoot payload.parentGroupId
  let group : UserGroup :=
    { id := newId, parentGroupId := some parentGroupId, name := payload.name, ownerUserId := userId
      description := payload.description }
  let created := ({ accounts with groups := accounts.groups ++ [group] }, group)
  if parentGroupId ≠ ROOT_GROUP_ID then
    (requireGroup accounts parentGroupId).map fun _ => created
  else .ok created

def GroupUpdate.describe (payload : GroupUpdate) (group : UserGroup) : UserGroup :=
  { group with
    name := (payload.name.bind id).getD group.name
    description := payload.description.getD group.description }

def checkNewParent (accounts : Accounts) (groupId : RowId) (parentGroupId : Option RowId) :
    Except HttpError RowId :=
  let nextParentId := parentOrRoot parentGroupId
  if groupId = ROOT_GROUP_ID then .error ⟨400, "Root group cannot have a parent"⟩
  else if nextParentId = groupId then .error ⟨400, "Group cannot be its own parent"⟩
  else do
    let parent ← requireGroup accounts nextParentId
    ensureNoCycle accounts groupId parent.id
    return parent.id

/-- Update a group's mutable fields. -/
def updateGroup (accounts : Accounts) (groupId : RowId) (payload : GroupUpdate) :
    Except HttpError Accounts := do
  let _ ← requireGroup accounts groupId
  let accounts := ensureRootGroup accounts
  let described := { accounts with groups := update accounts.groups groupId payload.describe }
  match payload.parentGroupId with
  | none => return described
  | some parentGroupId =>
    let parentId ← checkNewParent described groupId parentGroupId
    return { described with groups := update described.groups groupId fun group =>
      { group with parentGroupId := some parentId } }

/-- The group's children come under the root group. -/
def liftChildren (groups : List UserGroup) (groupId : RowId) : List UserGroup :=
  groups.map fun group =>
    if group.parentGroupId = some groupId then
      { group with parentGroupId := some ROOT_GROUP_ID }
    else group

/-- Delete a group, re-parenting child groups back to the root group. -/
def deleteGroup (accounts : Accounts) (groupId : RowId) : Except HttpError Accounts := do
  let _ ← requireGroup accounts groupId
  if groupId = ROOT_GROUP_ID then .error ⟨400, "Root group cannot be deleted"⟩
  else
    let accounts := ensureRootGroup accounts
    return { accounts with
      groups := (liftChildren accounts.groups groupId).filter fun group => group.id ≠ groupId
      groupMembers := accounts.groupMembers.filter fun member => member.groupId ≠ groupId }

end CocoonSit
