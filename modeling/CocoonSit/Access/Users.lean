import CocoonSit.Access.Groups
import CocoonSit.Security.Permissions

/-!
# Users and roles

The administration of users and roles, as the services have it.  A flush that breaks a uniqueness
constraint raises, the handler does not catch it, and the transaction is rolled back: the request
fails with 500.

What `create_user` writes to the tag tables (the new user's system tag) is left out: nothing here
reads it.
-/

namespace CocoonSit

open Table

/-- `IntegrityError`, unhandled. -/
def integrityError : HttpError := ⟨500, "Internal Server Error"⟩

/-- The user's name and e-mail are no other user's. -/
def uniqueUser (users : List User) (user : User) : Bool :=
  users.all fun other => other.id = user.id ||
    (other.username ≠ user.username && (user.email.isNone || other.email ≠ user.email))

/-- The role's name is no other role's. -/
def uniqueRole (roles : List Role) (role : Role) : Bool :=
  roles.all fun other => other.id = role.id || other.name ≠ role.name

/-! ## Users -/

structure UserCreate where
  username : String
  email : Option String := none
  password : String
  roleId : Option RowId := none
  primaryGroupId : Option RowId := none
  permissionsJson : PermissionMap := ∅
  timezone : String := "UTC"
  isActive : Bool := true

structure UserUpdate where
  username : Option String := none
  email : Option String := none
  roleId : Option RowId := none
  primaryGroupId : Option RowId := none
  permissionsJson : Option PermissionMap := none
  timezone : Option String := none
  isActive : Option Bool := none
  password : Option String := none

section Users

variable (settings : Settings) (hashSecret : String → String)

/-- Create a user with a hashed password. -/
def createUser (accounts : Accounts) (payload : UserCreate) (newId : RowId) :
    Except HttpError (User × Accounts) :=
  let accounts := ensureRootGroup accounts
  let user : User :=
    { id := newId
      username := payload.username
      email := payload.email
      passwordHash := hashSecret payload.password
      roleId := payload.roleId
      primaryGroupId := some (resolveRegistrationGroup accounts payload.primaryGroupId)
      permissionsJson := payload.permissionsJson
      timezone := payload.timezone
      isActive := payload.isActive }
  if uniqueUser accounts.users user then
    .ok (user, { accounts with users := accounts.users ++ [user] })
  else .error integrityError

/-- The update would change the user's role, permissions or active status. -/
def changesPrivileges (user : User) (payload : UserUpdate) : Bool :=
  payload.roleId.any (fun roleId => some roleId ≠ user.roleId) ||
    payload.permissionsJson.any (fun permissions => permissions ≠ user.permissionsJson) ||
    payload.isActive.any (fun active => active ≠ user.isActive)

def validateUpdate (actor user : User) (payload : UserUpdate) : Except HttpError Unit :=
  if actor.id = user.id && changesPrivileges user payload then
    .error ⟨403, "Users cannot change their own role, permissions, or active status"⟩
  else if isBootstrapAdmin settings user && changesPrivileges user payload then
    .error ⟨403,
      "Bootstrap admin role, permissions, and active status are managed by configuration"⟩
  else .ok ()

/-- The row `update_user` leaves; `primaryGroupId` is the group already resolved. -/
def patchedUser (user : User) (payload : UserUpdate) (primaryGroupId : Option RowId) : User :=
  { user with
    username := payload.username.getD user.username
    email := payload.email <|> user.email
    roleId := payload.roleId <|> user.roleId
    primaryGroupId := primaryGroupId
    permissionsJson := payload.permissionsJson.getD user.permissionsJson
    timezone := payload.timezone.getD user.timezone
    isActive := payload.isActive.getD user.isActive
    passwordHash := (payload.password.map hashSecret).getD user.passwordHash }

/-- Patch an existing user. -/
def updateUser (accounts : Accounts) (actor : User) (userId : RowId) (payload : UserUpdate) :
    Except HttpError (User × Accounts) :=
  match get accounts.users userId with
  | none => .error ⟨404, "User not found"⟩
  | some user => do
      validateUpdate settings actor user payload
      if payload.primaryGroupId.isSome && !isBootstrapAdmin settings actor then
        throw ⟨403, "Only bootstrap admin can reassign primary groups"⟩
      let regrouped := payload.primaryGroupId.elim accounts fun _ => ensureRootGroup accounts
      let groupId := payload.primaryGroupId.elim user.primaryGroupId fun groupId =>
        some (resolveRegistrationGroup regrouped (some groupId))
      let patched := patchedUser hashSecret user payload groupId
      if uniqueUser regrouped.users patched then
        pure (patched, { regrouped with users := update regrouped.users userId fun _ => patched })
      else throw integrityError

end Users

/-! ## Roles -/

structure RoleCreate where
  name : String
  permissionsJson : PermissionMap := ∅

structure RoleUpdate where
  name : Option String := none
  permissionsJson : Option PermissionMap := none

def createRole (accounts : Accounts) (payload : RoleCreate) (newId : RowId) :
    Except HttpError (Role × Accounts) :=
  let role : Role :=
    { id := newId, name := payload.name, permissionsJson := payload.permissionsJson }
  if uniqueRole accounts.roles role then
    .ok (role, { accounts with roles := accounts.roles ++ [role] })
  else .error integrityError

/-- The row `update_role` leaves. -/
def patchedRole (role : Role) (payload : RoleUpdate) : Role :=
  { role with
    name := payload.name.getD role.name
    permissionsJson := payload.permissionsJson.getD role.permissionsJson }

/-- Patch a role record. -/
def updateRole (accounts : Accounts) (roleId : RowId) (payload : RoleUpdate) :
    Except HttpError (Role × Accounts) :=
  match get accounts.roles roleId with
  | none => .error ⟨404, "Role not found"⟩
  | some role =>
    let patched := patchedRole role payload
    if uniqueRole accounts.roles patched then
      .ok (patched, { accounts with roles := update accounts.roles roleId fun _ => patched })
    else .error integrityError

/-! ## What the operations do to the tables -/

variable {settings : Settings} {hashSecret : String → String} {accounts accounts' : Accounts}

@[simp] lemma ensureRootGroup_users : (ensureRootGroup accounts).users = accounts.users := by
  unfold ensureRootGroup
  split <;> rfl

@[simp] lemma ensureRootGroup_roles : (ensureRootGroup accounts).roles = accounts.roles := by
  unfold ensureRootGroup
  split <;> rfl

lemma createUser_spec {payload : UserCreate} {newId : RowId} {user : User}
    (h : createUser hashSecret accounts payload newId = .ok (user, accounts')) :
    user.id = newId ∧ uniqueUser accounts.users user ∧
      accounts'.users = accounts.users ++ [user] ∧ accounts'.roles = accounts.roles := by
  unfold createUser at h
  dsimp only at h
  split at h
  · rename_i hunique
    obtain ⟨rfl, rfl⟩ := Prod.mk.inj (Except.ok.inj h)
    rw [ensureRootGroup_users] at hunique
    exact ⟨rfl, hunique, by simp, by simp⟩
  · cases h

lemma updateUser_spec {actor patched : User} {userId : RowId} {payload : UserUpdate}
    (h : updateUser settings hashSecret accounts actor userId payload = .ok (patched, accounts')) :
    ∃ user groupId, get accounts.users userId = some user ∧
      validateUpdate settings actor user payload = .ok () ∧
      patched = patchedUser hashSecret user payload groupId ∧
      uniqueUser accounts.users patched ∧
      accounts'.users = update accounts.users userId (fun _ => patched) ∧
      accounts'.roles = accounts.roles := by
  unfold updateUser at h
  cases hget : get accounts.users userId with
  | none =>
    rw [hget] at h
    cases h
  | some user =>
    rw [hget] at h
    dsimp only at h
    cases hvalid : validateUpdate settings actor user payload with
    | error e =>
      rw [hvalid] at h
      cases h
    | ok _ =>
      rw [hvalid] at h
      generalize hregrouped : (payload.primaryGroupId.elim accounts fun _ =>
        ensureRootGroup accounts) = regrouped at h
      have husers : regrouped.users = accounts.users := by
        rw [← hregrouped]
        cases payload.primaryGroupId <;> simp
      have hroles : regrouped.roles = accounts.roles := by
        rw [← hregrouped]
        cases payload.primaryGroupId <;> simp
      generalize (payload.primaryGroupId.elim user.primaryGroupId fun groupId =>
        some (resolveRegistrationGroup regrouped (some groupId))) = groupId at h
      by_cases hgroup : (payload.primaryGroupId.isSome && !isBootstrapAdmin settings actor) =
        true
      · rw [if_pos hgroup] at h
        cases h
      · rw [if_neg hgroup] at h
        by_cases hunique : uniqueUser regrouped.users (patchedUser hashSecret user payload
          groupId) = true
        · rw [if_pos hunique] at h
          obtain ⟨rfl, rfl⟩ := Prod.mk.inj (Except.ok.inj h)
          refine ⟨user, groupId, rfl, hvalid, rfl, husers ▸ hunique, ?_, hroles⟩
          dsimp only
          rw [husers]
        · rw [if_neg hunique] at h
          cases h

lemma createRole_spec {payload : RoleCreate} {newId : RowId} {role : Role}
    (h : createRole accounts payload newId = .ok (role, accounts')) :
    role.id = newId ∧ accounts'.users = accounts.users ∧
      accounts'.roles = accounts.roles ++ [role] := by
  unfold createRole at h
  dsimp only at h
  split at h
  · obtain ⟨rfl, rfl⟩ := Prod.mk.inj (Except.ok.inj h)
    exact ⟨rfl, rfl, rfl⟩
  · cases h

lemma updateRole_spec {payload : RoleUpdate} {roleId : RowId} {patched : Role}
    (h : updateRole accounts roleId payload = .ok (patched, accounts')) :
    ∃ role, get accounts.roles roleId = some role ∧ patched = patchedRole role payload ∧
      accounts'.users = accounts.users ∧
      accounts'.roles = update accounts.roles roleId (fun _ => patched) := by
  unfold updateRole at h
  cases hget : get accounts.roles roleId with
  | none =>
    rw [hget] at h
    cases h
  | some role =>
    rw [hget] at h
    dsimp only at h
    split at h
    · obtain ⟨rfl, rfl⟩ := Prod.mk.inj (Except.ok.inj h)
      exact ⟨role, rfl, rfl, rfl, rfl⟩
    · cases h

end CocoonSit
