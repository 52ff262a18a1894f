import CocoonSit.Model.Entities
import Mathlib.Data.Finmap

/-!
# Accounts

The rows that say who may do what: users and their roles, the sessions and invite codes of the
sign-in flows, user groups and the grants over them, characters and their access lists, and the
members of chat-group rooms.  They stand next to the conversation tables of `Db` in a record of
their own, since the services of the two sides touch only their own half.

A permission map is a finite map from names to booleans, so that two maps are equal when they hold
the same entries, as Python's dicts are.
-/

namespace CocoonSit

open Table

/-- `dict[str, bool]`: what is allowed and what is denied by name. -/
abbrev PermissionMap := Finmap fun _ : String => Bool

/-- `roles`; `name` is unique. -/
structure Role where
  id : RowId
  name : String
  permissionsJson : PermissionMap := ∅
deriving DecidableEq

/-- The key of the group that always exists. -/
def ROOT_GROUP_ID : RowId := "root-group"

def ROOT_GROUP_NAME : String := "Root Group"

def ROOT_GROUP_DESCRIPTION : String :=
  "Fallback group for new registrations and orphaned memberships."

/-- `users`; `username` and, where it is set, `email` are unique. -/
structure User where
  id : RowId
  username : String
  email : Option String := none
  passwordHash : String
  roleId : Option RowId := none
  primaryGroupId : Option RowId := some ROOT_GROUP_ID
  permissionsJson : PermissionMap := ∅
  timezone : String := "UTC"
  isActive : Bool := true
deriving DecidableEq

/-- `auth_sessions`: the hash of the refresh token that continues it. -/
structure AuthSession where
  id : RowId
  userId : RowId
  refreshTokenHash : String
  expiresAt : Timestamp
  revokedAt : Option Timestamp := none

/-- `invite_codes`. -/
structure InviteCode where
  id : RowId
  code : String
  createdByUserId : Option RowId := none
  createdForUserId : Option RowId := none
  sourceType : String := "ADMIN_OVERRIDE"
  sourceId : Option RowId := none
  registrationGroupId : Option RowId := none
  quotaTotal : ℤ := 0
  quotaUsed : ℤ := 0
  expiresAt : Option Timestamp := none
  revokedAt : Option Timestamp := none

/-- `user_groups`: the groups form a tree below the root group. -/
structure UserGroup where
  id : RowId
  parentGroupId : Option RowId := none
  name : String := ""
  ownerUserId : Option RowId := none
  description : Option String := none

/-- `user_group_members`. -/
structure UserGroupMember where
  groupId : RowId
  userId : RowId
  memberRole : String := "member"
deriving DecidableEq

/-- `user_group_management_grants`: the user may manage the group and what is below it. -/
structure UserGroupManagementGrant where
  userId : RowId
  groupId : RowId

/-- `characters`. -/
structure Character where
  id : RowId
  createdByUserId : Option RowId := none

structure CharacterAcl where
  characterId : RowId
  subjectType : String
  subjectId : RowId
  canRead : Bool := true
  canUse : Bool := true

/-- `chat_group_members`.  No constraint keeps one user from having two rows in a room. -/
structure ChatGroupMember where
  id : RowId
  roomId : RowId
  userId : RowId
  memberRole : String := "member"
deriving DecidableEq

instance : Keyed Role RowId := ⟨Role.id⟩
instance : Keyed User RowId := ⟨User.id⟩
instance : Keyed AuthSession RowId := ⟨AuthSession.id⟩
instance : Keyed InviteCode RowId := ⟨InviteCode.id⟩
instance : Keyed UserGroup RowId := ⟨UserGroup.id⟩
instance : Keyed Character RowId := ⟨Character.id⟩
instance : Keyed ChatGroupMember RowId := ⟨ChatGroupMember.id⟩

@[simp] lemma key_role (r : Role) : key r = r.id := rfl

@[simp] lemma key_user (r : User) : key r = r.id := rfl

@[simp] lemma key_userGroup (r : UserGroup) : key r = r.id := rfl

@[simp] lemma key_chatGroupMember (r : ChatGroupMember) : key r = r.id := rfl

/-- The committed tables of this half, and the one system setting its services read. -/
structure Accounts where
  users : List User := []
  roles : List Role := []
  authSessions : List AuthSession := []
  inviteCodes : List InviteCode := []
  groups : List UserGroup := []
  groupMembers : List UserGroupMember := []
  managementGrants : List UserGroupManagementGrant := []
  characters : List Character := []
  characterAcls : List CharacterAcl := []
  allowRegistration : Bool := false

/-- The settings the modelled services read. -/
structure Settings where
  accessTokenExpireMinutes : ℕ := 60
  refreshTokenExpireMinutes : ℕ := 60 * 24 * 7
  defaultAdminUsername : String := "admin"

/-- `HTTPException`: the request fails and its transaction is rolled back. -/
structure HttpError where
  statusCode : ℕ
  detail : String
deriving DecidableEq, Repr

lemma except_bind_eq_ok {ε α β : Type*} {x : Except ε α} {f : α → Except ε β} {b : β} :
    x.bind f = .ok b ↔ ∃ a, x = .ok a ∧ f a = .ok b := by
  cases x <;> simp [Except.bind]

lemma except_map_eq_ok {ε α β : Type*} {x : Except ε α} {f : α → β} {b : β} :
    x.map f = .ok b ↔ ∃ a, x = .ok a ∧ f a = b := by
  cases x <;> simp [Except.map]

/-- What is to hold of a result, if there is one. -/
instance decidableForallOk {ε α : Type*} {x : Except ε α} {P : α → Prop} [∀ a, Decidable (P a)] :
    Decidable (∀ a, x = .ok a → P a) :=
  match x with
  | .error _ => .isTrue fun _ h => nomatch h
  | .ok a => decidable_of_iff (P a) ⟨fun h _ ha => Except.ok.inj ha ▸ h, fun h => h a rfl⟩

end CocoonSit
