import CocoonSit.Access.Groups
import CocoonSit.Model.Python
import CocoonSit.Security.Permissions

/-!
# Object-level authorization

Who may read, use, write and manage characters, cocoons and chat-group rooms: admins everything,
owners their own, others what an access list, a management grant or a membership gives them.
-/

namespace CocoonSit

open Table

section Authorization

variable (settings : Settings) (accounts : Accounts)

/-! ## Characters -/

def groupIdsForUser (userId : RowId) : List RowId :=
  (accounts.groupMembers.filter fun item => item.userId = userId).map UserGroupMember.groupId

def primaryGroupAncestorIds (user : User) : List RowId :=
  listAncestorGroupIds accounts user.primaryGroupId

/-- `str.upper`, as far as a letter of the subject types can come of it. -/
def upperChar (c : Char) : Char :=
  if c = 'ı' then 'I' else if c = 'ſ' then 'S' else c.toUpper

def normalizeSubjectType (subjectType : String) : String :=
  (strip subjectType).map upperChar

def characterAclMatches (user : User) (acl : CharacterAcl) (inherited : Bool) : Bool :=
  let subjectType := normalizeSubjectType acl.subjectType
  if subjectType = "AUTHENTICATED_ALL" then true
  else if subjectType = "USER" then acl.subjectId = user.id
  else if subjectType = "ROLE" then
    (user.roleId.filter (· ≠ "")).any fun roleId => acl.subjectId = roleId
  else if subjectType = "GROUP" then acl.subjectId ∈ groupIdsForUser accounts user.id
  else if subjectType = "SUBTREE" && inherited then
    acl.subjectId ∈ primaryGroupAncestorIds accounts user
  else false

/-- Admins and the character's creator pass; others need an entry of the access list that grants
what is asked. -/
def allowedByAcl (grants : CharacterAcl → Bool) (user : User) (character : Character)
    (inherited : Bool) : Bool :=
  isAdmin settings accounts user || character.createdByUserId = some user.id ||
    (accounts.characterAcls.filter fun acl => acl.characterId = character.id).any fun acl =>
      grants acl && characterAclMatches accounts user acl inherited

def canReadCharacter (user : User) (character : Character) : Bool :=
  allowedByAcl settings accounts CharacterAcl.canRead user character true

def canUseCharacter (user : User) (character : Character) : Bool :=
  allowedByAcl settings accounts CharacterAcl.canUse user character true

def requireCharacterUse (user : User) (characterId : RowId) : Except HttpError Character :=
  match get accounts.characters characterId with
  | none => .error ⟨404, "Character not found"⟩
  | some character =>
    if canUseCharacter settings accounts user character then .ok character
    else .error ⟨403, "Character access denied"⟩

/-! ## Management of users -/

def hasManagementPermission (user : User) : Bool :=
  isBootstrapAdmin settings user || hasPermission accounts user "management:access"

/-- `management_grant_group_ids_for_user`. -/
def managementGrantGroupIds (userId : RowId) : List RowId :=
  (accounts.managementGrants.filter fun grant => grant.userId = userId).map
    UserGroupManagementGrant.groupId

def manageableGroupIds (user : User) : List RowId :=
  if isBootstrapAdmin settings user then accounts.groups.map UserGroup.id
  else if hasManagementPermission settings accounts user then
    listDescendantGroupIds accounts (managementGrantGroupIds accounts user.id)
  else []

def hasManagementConsole (user : User) : Bool :=
  isBootstrapAdmin settings user ||
    (hasManagementPermission settings accounts user &&
      !(managementGrantGroupIds accounts user.id).isEmpty)

def canManageUserScope (user : User) (targetUserId : RowId) : Bool :=
  targetUserId ≠ "" && (isAdmin settings accounts user || targetUserId = user.id ||
    (hasManagementConsole settings accounts user &&
      (get accounts.users targetUserId).any fun target =>
        target.primaryGroupId.any fun groupId =>
          groupId ∈ manageableGroupIds settings accounts user))

/-- The ids of the users one may manage.  For the bootstrap admin the query already selects ids, and
asking the first of them for its `id` raises. -/
def listManageableUserIds (user : User) : Except String (List RowId) :=
  if isBootstrapAdmin settings user then
    (accounts.users.map User.id).mapM fun _ => .error "'str' object has no attribute 'id'"
  else
    let manageableGroups := manageableGroupIds settings accounts user
    if manageableGroups = [] then .ok [user.id]
    else
      let userIds := (accounts.users.filter fun item =>
        item.primaryGroupId.any fun groupId => groupId ∈ manageableGroups).map User.id
      .ok (if user.id ∈ userIds then userIds else userIds ++ [user.id])

/-! ## Cocoons -/

def canManageCocoon (user : User) (cocoon : Cocoon) : Bool :=
  isAdmin settings accounts user || cocoon.ownerUserId = user.id ||
    canManageUserScope settings accounts user cocoon.ownerUserId

def canAccessCocoon (user : User) (cocoon : Cocoon) (write allowManage : Bool) : Bool :=
  isAdmin settings accounts user || cocoon.ownerUserId = user.id ||
    (allowManage && canManageCocoon settings accounts user cocoon) ||
    (get accounts.characters cocoon.characterId).any fun character =>
      if write then canUseCharacter settings accounts user character
      else canReadCharacter settings accounts user character

def requireCocoonAccess (cocoons : List Cocoon) (user : User) (cocoonId : RowId)
    (write allowManage : Bool) : Except HttpError Cocoon :=
  match get cocoons cocoonId with
  | none => .error ⟨404, "Cocoon not found"⟩
  | some cocoon =>
    if canAccessCocoon settings accounts user cocoon write allowManage then .ok cocoon
    else .error ⟨403, "Cocoon access denied"⟩

def filterVisibleCocoons (user : User) (cocoons : List Cocoon) (write : Bool) (scope : String) :
    List Cocoon :=
  if scope = "own" then cocoons.filter fun item => item.ownerUserId = user.id
  else if scope = "manageable" then
    cocoons.filter fun item => canManageCocoon settings accounts user item
  else cocoons.filter fun item => canAccessCocoon settings accounts user item write false

/-! ## Chat-group rooms -/

/-- The first of the user's rows in the room. -/
def getChatGroupMembership (members : List ChatGroupMember) (userId roomId : RowId) :
    Option ChatGroupMember :=
  members.find? fun member => member.roomId = roomId && member.userId = userId

def canReadChatGroup (members : List ChatGroupMember) (user : User) (room : ChatGroupRoom) : Bool :=
  isAdmin settings accounts user || room.ownerUserId = user.id ||
    (getChatGroupMembership members user.id room.id).isSome

def canChatInChatGroup (members : List ChatGroupMember) (user : User) (room : ChatGroupRoom) :
    Bool :=
  canReadChatGroup settings accounts members user room

def canManageChatGroup (members : List ChatGroupMember) (user : User) (room : ChatGroupRoom) :
    Bool :=
  isAdmin settings accounts user || room.ownerUserId = user.id ||
    (getChatGroupMembership members user.id room.id).any fun membership =>
      membership.memberRole = "admin"

def filterVisibleChatGroups (members : List ChatGroupMember) (user : User)
    (rooms : List ChatGroupRoom) : List ChatGroupRoom :=
  rooms.filter fun item => canReadChatGroup settings accounts members user item

/-- `require_chat_group_access`; the first flag that is set decides what is asked. -/
def requireChatGroupAccess (rooms : List ChatGroupRoom) (members : List ChatGroupMember)
    (user : User) (roomId : RowId) (write manage owner : Bool) : Except HttpError ChatGroupRoom :=
  match get rooms roomId with
  | none => .error ⟨404, "Chat group room not found"⟩
  | some room =>
    if owner then
      if isAdmin settings accounts user || room.ownerUserId = user.id then .ok room
      else .error ⟨403, "Chat group owner access denied"⟩
    else if manage then
      if canManageChatGroup settings accounts members user room then .ok room
      else .error ⟨403, "Chat group management denied"⟩
    else if write then
      if canChatInChatGroup settings accounts members user room then .ok room
      else .error ⟨403, "Chat group chat access denied"⟩
    else if canReadChatGroup settings accounts members user room then .ok room
    else .error ⟨403, "Chat group access denied"⟩

end Authorization

variable {settings : Settings} {accounts : Accounts}

lemma requireCharacterUse_eq_ok {user : User} {characterId : RowId} {character : Character} :
    requireCharacterUse settings accounts user characterId = .ok character ↔
      get accounts.characters characterId = some character ∧
        canUseCharacter settings accounts user character = true := by
  unfold requireCharacterUse
  cases get accounts.characters characterId with
  | none => simp
  | some found =>
    by_cases huse : canUseCharacter settings accounts user found = true
    · simp only [huse, if_true, Except.ok.injEq, Option.some.injEq]
      exact ⟨fun h => ⟨h, h ▸ huse⟩, And.left⟩
    · simp only [huse, Bool.false_eq_true, if_false, reduceCtorEq, Option.some.injEq, false_iff,
        not_and]
      rintro rfl
      exact huse

lemma requireCocoonAccess_eq_ok {cocoons : List Cocoon} {user : User} {cocoonId : RowId}
    {write allowManage : Bool} {cocoon : Cocoon} :
    requireCocoonAccess settings accounts cocoons user cocoonId write allowManage = .ok cocoon ↔
      get cocoons cocoonId = some cocoon ∧
        canAccessCocoon settings accounts user cocoon write allowManage = true := by
  unfold requireCocoonAccess
  cases hget : get cocoons cocoonId with
  | none => simp
  | some found =>
    by_cases haccess : canAccessCocoon settings accounts user found write allowManage = true
    · simp only [haccess, if_true, Except.ok.injEq, Option.some.injEq]
      constructor
      · rintro rfl
        exact ⟨rfl, haccess⟩
      · exact And.left
    · simp only [haccess, Bool.false_eq_true, if_false, reduceCtorEq, Option.some.injEq,
        false_iff,
        not_and]
      rintro rfl
      exact haccess

lemma no_access_of_no_membership {members : List ChatGroupMember} {user : User}
    {room : ChatGroupRoom} (hadmin : isAdmin settings accounts user = false)
    (howner : room.ownerUserId ≠ user.id)
    (hrow : (room.id, user.id) ∉ members.map fun member => (member.roomId, member.userId)) :
    canReadChatGroup settings accounts members user room = false ∧
      canChatInChatGroup settings accounts members user room = false ∧
      canManageChatGroup settings accounts members user room = false := by
  have hnone : getChatGroupMembership members user.id room.id = none := by
    refine List.find?_eq_none.mpr fun member hmember hfound => hrow ?_
    simp only [Bool.and_eq_true, decide_eq_true_eq] at hfound
    exact List.mem_map.mpr ⟨member, hmember, Prod.ext hfound.1 hfound.2⟩
  have hread : canReadChatGroup settings accounts members user room = false := by
    simp [canReadChatGroup, hadmin, howner, hnone]
  refine ⟨hread, hread, ?_⟩
  simp [canManageChatGroup, hadmin, howner, hnone]

end CocoonSit
