import CocoonSit.Model.Accounts

/-!
# Permissions by role and by user

A user is allowed what the role allows, with the user's own entries on top.  Above that stand two
privileges that are read off names: the bootstrap admin is whoever has the configured username, and
an admin is whoever has the role of the name `admin`.
-/

namespace CocoonSit

open Table

variable {accounts accounts' : Accounts} {user : User}

/-- `session.get(Role, user.role_id)`, for a nonempty role id. -/
def getRoleForUser (accounts : Accounts) (user : User) : Option Role :=
  (user.roleId.filter (· ≠ "")).bind (get accounts.roles)

/-- The role's entries, and over them the user's own. -/
def getEffectivePermissionMap (accounts : Accounts) (user : User) : PermissionMap :=
  match getRoleForUser accounts user with
  | some role => user.permissionsJson ∪ role.permissionsJson
  | none => user.permissionsJson

def hasPermission (accounts : Accounts) (user : User) (permission : String) : Bool :=
  (getEffectivePermissionMap accounts user).lookup permission = some true

/-- Raise 403 when the user lacks the requested permission. -/
def requirePermission (accounts : Accounts) (user : User) (permission : String) :
    Except HttpError Unit :=
  if hasPermission accounts user permission then .ok ()
  else .error ⟨403, "Missing permission: " ++ permission⟩

def isBootstrapAdmin (settings : Settings) (user : User) : Bool :=
  user.username = settings.defaultAdminUsername

def isAdmin (settings : Settings) (accounts : Accounts) (user : User) : Bool :=
  isBootstrapAdmin settings user ||
    (getRoleForUser accounts user).any fun role => role.name = "admin"

lemma getEffectivePermissionMap_congr {user' : User} (hrole :
    getRoleForUser accounts' user' = getRoleForUser accounts user)
    (hown : user'.permissionsJson = user.permissionsJson) :
    getEffectivePermissionMap accounts' user' = getEffectivePermissionMap accounts user := by
  rw [getEffectivePermissionMap, getEffectivePermissionMap, hrole, hown]

lemma isAdmin_congr {settings : Settings} {user' : User} (hrole :
    getRoleForUser accounts' user' = getRoleForUser accounts user)
    (hname : isBootstrapAdmin settings user' = isBootstrapAdmin settings user) :
    isAdmin settings accounts' user' = isAdmin settings accounts user := by
  rw [isAdmin, isAdmin, hrole, hname]

end CocoonSit
