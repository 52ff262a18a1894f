import CocoonSit.Access.Sessions
import CocoonSit.Lib.Run

/-!
# Who can raise whom

Every sequence of administrative requests by users other than the bootstrap admin, and of
registrations.  Two things are asked of it: the bootstrap admin stays who it was, with its role,
permissions, active flag and password; and no request changes what its own maker may do.
-/

namespace CocoonSit

open Table TransitionSystem

inductive AdminEvent where
  | createUser (actorId : RowId) (payload : UserCreate) (newId : RowId)
  | updateUser (actorId userId : RowId) (payload : UserUpdate)
  | createRole (actorId : RowId) (payload : RoleCreate) (newId : RowId)
  | updateRole (actorId roleId : RowId) (payload : RoleUpdate)
  | register (payload : RegisterRequest) (newId : RowId) (draws : TokenDraws)

/-- The user who makes the request. -/
def AdminEvent.actorId? : AdminEvent → Option RowId
  | .createUser actorId _ _ | .updateUser actorId _ _ => some actorId
  | .createRole actorId _ _ | .updateRole actorId _ _ => some actorId
  | .register _ _ _ => none

/-- The key the request draws. -/
def AdminEvent.newId? : AdminEvent → Option RowId
  | .createUser _ _ newId | .createRole _ _ newId | .register _ newId _ => some newId
  | _ => none

/-- A drawn key occurs nowhere. -/
def NewKey (accounts : Accounts) (newId : RowId) : Prop :=
  newId ∉ accounts.users.map key ∧ newId ∉ accounts.roles.map key ∧
    some newId ∉ accounts.users.map User.roleId

instance (accounts : Accounts) (newId : RowId) : Decidable (NewKey accounts newId) :=
  inferInstanceAs (Decidable (_ ∧ _))

section System

variable (jwt : Jwt) (hashSecret : String → String) (settings : Settings)

/-- The active user of the request, who has the permission the route requires. -/
def requestUser (accounts : Accounts) (actorId : RowId) (permission : String) :
    Except HttpError User :=
  match (get accounts.users actorId).filter fun user => user.isActive with
  | none => .error ⟨401, "Inactive user"⟩
  | some user => (requirePermission accounts user permission).map fun _ => user

/-- The routes. -/
def adminRequest (accounts : Accounts) : AdminEvent → Except HttpError Accounts
  | .createUser actorId payload newId =>
    (requestUser accounts actorId "users:write").bind fun _ =>
      (createUser hashSecret accounts payload newId).map Prod.snd
  | .updateUser actorId userId payload =>
    (requestUser accounts actorId "users:write").bind fun actor =>
      (updateUser settings hashSecret accounts actor userId payload).map Prod.snd
  | .createRole actorId payload newId =>
    (requestUser accounts actorId "roles:write").bind fun _ =>
      (createRole accounts payload newId).map Prod.snd
  | .updateRole actorId roleId payload =>
    (requestUser accounts actorId "roles:write").bind fun _ =>
      (updateRole accounts roleId payload).map Prod.snd
  | .register payload newId draws =>
    (register jwt hashSecret settings accounts payload newId draws).map Prod.snd

/-- Whoever makes the request is not the bootstrap admin. -/
def ByOther (accounts : Accounts) (e : AdminEvent) : Prop :=
  (e.actorId?.bind (get accounts.users)).all fun actor => !isBootstrapAdmin settings actor

instance (accounts : Accounts) (e : AdminEvent) : Decidable (ByOther settings accounts e) :=
  inferInstanceAs (Decidable (_ = true))

/-- A request that fails changes nothing. -/
def adminStep (accounts : Accounts) (e : AdminEvent) : Option Accounts :=
  if ByOther settings accounts e ∧ ∀ newId ∈ e.newId?, NewKey accounts newId then
    match adminRequest jwt hashSecret settings accounts e with
    | .ok accounts' => some accounts'
    | .error _ => some accounts
  else none

/-- At the start `admin` is the bootstrap admin; names are unique. -/
structure AdminInitial (s₀ : Accounts) (admin : User) : Prop where
  ids : (s₀.users.map key).Nodup
  usernames : (s₀.users.map User.username).Nodup
  admin : admin ∈ s₀.users ∧ isBootstrapAdmin settings admin = true

/-- The bootstrap admin is the account it was, and has what it had. -/
structure BootstrapAdminKept (s₀ : Accounts) (admin : User) (s : Accounts) : Prop where
  account : ∃ admin', get s.users admin.id = some admin' ∧ admin'.roleId = admin.roleId ∧
    admin'.permissionsJson = admin.permissionsJson ∧ admin'.isActive = admin.isActive ∧
    admin'.passwordHash = admin.passwordHash ∧
    getEffectivePermissionMap s admin' = getEffectivePermissionMap s₀ admin
  only : ∀ user ∈ s.users, isBootstrapAdmin settings user = true ↔ user.id = admin.id

/-- The request leaves its maker's effective permissions and admin status as they were. -/
def OwnPrivilegesUnchanged (s : Accounts) (e : AdminEvent) (s' : Accounts) : Prop :=
  ∀ actorId, e.actorId? = some actorId → ∀ actor, get s.users actorId = some actor →
    ∃ actor', get s'.users actorId = some actor' ∧
      getEffectivePermissionMap s' actor' = getEffectivePermissionMap s actor ∧
      isAdmin settings s' actor' = isAdmin settings s actor

/-- If the user has the role, the update leaves what the user is allowed. -/
def KeepsPermissions (accounts : Accounts) (user : User) (roleId : RowId) (payload : RoleUpdate) :
    Prop :=
  user.roleId = some roleId → ∀ role, get accounts.roles roleId = some role →
    user.permissionsJson ∪ (patchedRole role payload).permissionsJson =
      user.permissionsJson ∪ role.permissionsJson

/-- If the user has the role, the update neither makes it the admin role nor unmakes it. -/
def KeepsRoleName (accounts : Accounts) (user : User) (roleId : RowId) (payload : RoleUpdate) :
    Prop :=
  user.roleId = some roleId → ∀ role, get accounts.roles roleId = some role →
    ((patchedRole role payload).name = "admin" ↔ role.name = "admin")

/-- No new name and no new password for the bootstrap admin; no change of what the maker's own role
or the bootstrap admin's role allows. -/
def PrivilegesSafe (accounts : Accounts) : AdminEvent → Prop
  | .updateUser _ userId payload => ∀ user, get accounts.users userId = some user →
      isBootstrapAdmin settings user = true →
        (∀ username ∈ payload.username, username = user.username) ∧
        ∀ password ∈ payload.password, hashSecret password = user.passwordHash
  | .updateRole actorId roleId payload =>
    (∀ actor, get accounts.users actorId = some actor →
      KeepsPermissions accounts actor roleId payload ∧
      KeepsRoleName accounts actor roleId payload) ∧
    ∀ admin ∈ accounts.users, isBootstrapAdmin settings admin = true →
      KeepsPermissions accounts admin roleId payload
  | _ => True

end System

variable {jwt : Jwt} {hashSecret : String → String} {settings : Settings}
  {s s' s₀ : Accounts} {e : AdminEvent} {es : List AdminEvent} {user admin : User} {id : RowId}

/-! ## What a request can do -/

/-- What a request does to a user's row: nothing, or the patch of `update_user`. -/
def UserAfter (hashSecret : String → String) (settings : Settings) (s : Accounts)
    (e : AdminEvent) (user user' : User) : Prop :=
  user' = user ∨ ∃ actorId actor payload groupId, e = .updateUser actorId user.id payload ∧
    get s.users actorId = some actor ∧ validateUpdate settings actor user payload = .ok () ∧
    user' = patchedUser hashSecret user payload groupId ∧ uniqueUser s.users user' = true

/-- What a request does to the role of a row: nothing, or the patch of `update_role`. -/
def RoleAfter (s : Accounts) (e : AdminEvent) (s' : Accounts) (user : User) : Prop :=
  (∀ user', user'.roleId = user.roleId → getRoleForUser s' user' = getRoleForUser s user) ∨
  ∃ actorId roleId payload role, e = .updateRole actorId roleId payload ∧
    user.roleId = some roleId ∧ get s.roles roleId = some role ∧ getRoleForUser s user = some role ∧
    ∀ user', user'.roleId = user.roleId →
      getRoleForUser s' user' = some (patchedRole role payload)

lemma requestUser_eq_ok {permission : String}
    (h : requestUser s id permission = .ok user) : get s.users id = some user := by
  unfold requestUser at h
  cases hget : (get s.users id).filter fun user => user.isActive with
  | none =>
    rw [hget] at h
    cases h
  | some user' =>
    rw [hget] at h
    obtain ⟨hget, -⟩ := Option.filter_eq_some_iff.mp hget
    cases hperm : requirePermission s user' permission with
    | error e =>
      dsimp only at h
      rw [hperm] at h
      cases h
    | ok _ =>
      dsimp only at h
      rw [hperm] at h
      cases h
      exact hget

lemma getRoleForUser_congr {user user' : User} (hroles : s'.roles = s.roles)
    (hrole : user'.roleId = user.roleId) : getRoleForUser s' user' = getRoleForUser s user := by
  rw [getRoleForUser, getRoleForUser, hroles, hrole]

lemma adminRequest_cases (hnew : ∀ newId ∈ e.newId?, NewKey s newId)
    (h : adminRequest jwt hashSecret settings s e = .ok s') (hget : get s.users id = some user) :
    (∃ user', get s'.users id = some user' ∧ UserAfter hashSecret settings s e user user') ∧
      RoleAfter s e s' user := by
  have hmem : id ∈ s.users.map key := get_isSome_iff.mp (by rw [hget]; rfl)
  cases e with
  | createUser actorId payload newId =>
    obtain ⟨actor, -, h⟩ := except_bind_eq_ok.mp h
    obtain ⟨⟨new, accounts⟩, hcreate, rfl⟩ := except_map_eq_ok.mp h
    obtain ⟨-, -, husers, hroles⟩ := createUser_spec hcreate
    refine ⟨⟨user, ?_, .inl rfl⟩, .inl fun user' => getRoleForUser_congr hroles⟩
    dsimp only
    rw [husers, get_append_of_mem hmem, hget]
  | updateUser actorId userId payload =>
    obtain ⟨actor, hactor, h⟩ := except_bind_eq_ok.mp h
    obtain ⟨⟨patched, accounts⟩, hupdate, rfl⟩ := except_map_eq_ok.mp h
    obtain ⟨target, groupId, htarget, hvalid, rfl, hunique, husers, hroles⟩ :=
      updateUser_spec hupdate
    refine ⟨?_, .inl fun user' => getRoleForUser_congr hroles⟩
    have hkey : key (patchedUser hashSecret target payload groupId) = userId := by
      have htargetid : key target = userId := key_of_get htarget
      exact htargetid
    have hget' : get accounts.users id = if id = userId then
        (get s.users userId).map fun _ => patchedUser hashSecret target payload groupId
        else get s.users id := by
      rw [husers, get_update_const hkey]
    by_cases hid : id = userId
    · subst hid
      rw [hget] at htarget
      cases htarget
      rw [if_pos rfl, hget, Option.map_some] at hget'
      have huser : user.id = id := key_of_get hget
      exact ⟨_, hget', .inr ⟨actorId, actor, payload, groupId, by rw [huser],
        requestUser_eq_ok hactor, hvalid, rfl, hunique⟩⟩
    · rw [if_neg hid, hget] at hget'
      exact ⟨user, hget', .inl rfl⟩
  | createRole actorId payload newId =>
    obtain ⟨actor, -, h⟩ := except_bind_eq_ok.mp h
    obtain ⟨⟨new, accounts⟩, hcreate, rfl⟩ := except_map_eq_ok.mp h
    obtain ⟨hid, husers, hroles⟩ := createRole_spec hcreate
    refine ⟨⟨user, husers ▸ hget, .inl rfl⟩, .inl fun user' hrole => ?_⟩
    -- no row has the drawn key for its role
    have hne : user.roleId ≠ some newId := fun heq =>
      (hnew newId rfl).2.2 (heq ▸ List.mem_map_of_mem (mem_of_get hget))
    rw [getRoleForUser, getRoleForUser, hrole]
    cases hroleId : user.roleId.filter (· ≠ "") with
    | none => rfl
    | some roleId =>
      have hroleId' := (Option.filter_eq_some_iff.mp hroleId).1
      rw [Option.bind_some, Option.bind_some]
      dsimp only
      rw [hroles, get_append]
      have hnone : get [new] roleId = none := by
        refine get_eq_none_iff.mpr ?_
        rw [List.map_singleton, List.mem_singleton, key_role, hid]
        rintro rfl
        exact hne hroleId'
      rw [hnone, Option.or_none]
  | updateRole actorId roleId payload =>
    obtain ⟨actor, -, h⟩ := except_bind_eq_ok.mp h
    obtain ⟨⟨patched, accounts⟩, hupdate, rfl⟩ := except_map_eq_ok.mp h
    obtain ⟨role, hrole, rfl, husers, hroles⟩ := updateRole_spec hupdate
    refine ⟨⟨user, husers ▸ hget, .inl rfl⟩, ?_⟩
    have hkey : key (patchedRole role payload) = roleId := by
      have hroleid : key role = roleId := key_of_get hrole
      exact hroleid
    cases hfilter : user.roleId.filter (· ≠ "") with
    | none =>
      refine .inl fun user' hrole' => ?_
      rw [getRoleForUser, getRoleForUser, hrole', hfilter, Option.bind_none, Option.bind_none]
    | some userRoleId =>
      have hget' : get accounts.roles userRoleId = if userRoleId = roleId then
          (get s.roles roleId).map fun _ => patchedRole role payload
          else get s.roles userRoleId := by
        rw [hroles, get_update_const hkey]
      have hroleId := (Option.filter_eq_some_iff.mp hfilter).1
      by_cases heq : userRoleId = roleId
      · subst heq
        rw [if_pos rfl, hrole, Option.map_some] at hget'
        refine .inr ⟨actorId, userRoleId, payload, role, rfl, hroleId, hrole, ?_,
          fun user' hrole' => ?_⟩
        · rw [getRoleForUser, hfilter, Option.bind_some, hrole]
        · rw [getRoleForUser, hrole', hfilter, Option.bind_some, hget']
      · rw [if_neg heq] at hget'
        refine .inl fun user' hrole' => ?_
        rw [getRoleForUser, getRoleForUser, hrole', hfilter, Option.bind_some,
          Option.bind_some, hget']
  | register payload newId draws =>
    obtain ⟨⟨pair, accounts⟩, hregister, rfl⟩ := except_map_eq_ok.mp h
    obtain ⟨new, -, -, husers, hroles⟩ := register_users hregister
    refine ⟨⟨user, ?_, .inl rfl⟩, .inl fun user' => getRoleForUser_congr hroles⟩
    dsimp only
    rw [husers, get_append_of_mem hmem, hget]

/-! ## Names stay unique -/

structure UniqueNames (s : Accounts) : Prop where
  ids : (s.users.map key).Nodup
  names : ∀ u ∈ s.users, ∀ v ∈ s.users, u.username = v.username → u.id = v.id

lemma AdminInitial.uniqueNames (h : AdminInitial settings s₀ admin) : UniqueNames s₀ := by
  refine ⟨h.ids, fun u hu v hv huv => ?_⟩
  rw [List.inj_on_of_nodup_map h.usernames hu hv huv]

lemma uniqueUser_spec {users : List User} (h : uniqueUser users user = true) {other : User}
    (hother : other ∈ users) (hname : other.username = user.username) : other.id = user.id := by
  have hor := List.all_eq_true.mp h other hother
  simp only [Bool.or_eq_true, decide_eq_true_eq, Bool.and_eq_true] at hor
  exact hor.resolve_right fun hne => hne.1 hname

lemma UniqueNames.append (h : UniqueNames s) (hnew : user.id ∉ s.users.map key)
    (hname : ∀ other ∈ s.users, other.username ≠ user.username)
    (husers : s'.users = s.users ++ [user]) : UniqueNames s' := by
  refine ⟨?_, ?_⟩
  · rw [husers, List.map_append, List.nodup_append]
    refine ⟨h.ids, List.nodup_singleton _, ?_⟩
    rintro a ha b hb rfl
    rw [List.map_singleton, List.mem_singleton] at hb
    rw [hb] at ha
    exact hnew ha
  · rw [husers]
    intro u hu v hv huv
    rcases List.mem_append.mp hu with hold | hold <;>
      rcases List.mem_append.mp hv with hold' | hold'
    · exact h.names u hold v hold' huv
    · rw [List.mem_singleton.mp hold'] at huv
      exact absurd huv (hname u hold)
    · rw [List.mem_singleton.mp hold] at huv
      exact absurd huv.symm (hname v hold')
    · rw [List.mem_singleton.mp hold, List.mem_singleton.mp hold']

lemma UniqueNames.update (h : UniqueNames s) (hid : user.id = id)
    (hunique : uniqueUser s.users user = true)
    (husers : s'.users = Table.update s.users id fun _ => user) : UniqueNames s' := by
  -- a row is the patched one, or one of the others
  have hrows : ∀ u ∈ s'.users, u = user ∨ (u ∈ s.users ∧ u.id ≠ id) := by
    intro u hu
    rw [husers, mem_update] at hu
    exact hu.imp (fun ⟨_, _, _, heq⟩ => heq.symm) fun hother => hother
  refine ⟨?_, fun u hu v hv huv => ?_⟩
  · have hkeys : s'.users.map key = s.users.map key := by
      rw [husers, Table.update, List.map_map]
      refine List.map_congr_left fun r _ => ?_
      by_cases hr : key r = id
      · simp only [Function.comp_apply, hr, if_true]
        exact hid
      · simp only [Function.comp_apply, if_neg hr]
    rw [hkeys]
    exact h.ids
  · rcases hrows u hu with rfl | ⟨hu, hune⟩ <;> rcases hrows v hv with rfl | ⟨hv, hvne⟩
    · rfl
    · exact (uniqueUser_spec hunique hv huv.symm).symm
    · exact uniqueUser_spec hunique hu huv
    · exact h.names u hu v hv huv

lemma UniqueNames.congr (h : UniqueNames s) (husers : s'.users = s.users) : UniqueNames s' := by
  refine ⟨?_, ?_⟩ <;> rw [husers]
  · exact h.ids
  · exact h.names

lemma uniqueNames_request (h : UniqueNames s) (hnew : ∀ newId ∈ e.newId?, NewKey s newId)
    (hr : adminRequest jwt hashSecret settings s e = .ok s') : UniqueNames s' := by
  cases e with
  | createUser actorId payload newId =>
    obtain ⟨actor, -, hr⟩ := except_bind_eq_ok.mp hr
    obtain ⟨⟨new, accounts⟩, hcreate, rfl⟩ := except_map_eq_ok.mp hr
    obtain ⟨hid, hunique, husers, -⟩ := createUser_spec hcreate
    have hfresh : new.id ∉ s.users.map key := hid ▸ (hnew newId rfl).1
    refine h.append hfresh (fun other hother hname => hfresh ?_) husers
    exact uniqueUser_spec hunique hother hname ▸ List.mem_map_of_mem hother
  | updateUser actorId userId payload =>
    obtain ⟨actor, -, hr⟩ := except_bind_eq_ok.mp hr
    obtain ⟨⟨patched, accounts⟩, hupdate, rfl⟩ := except_map_eq_ok.mp hr
    obtain ⟨target, groupId, htarget, -, rfl, hunique, husers, -⟩ := updateUser_spec hupdate
    have hid : (patchedUser hashSecret target payload groupId).id = userId := by
      have htargetid : target.id = userId := key_of_get htarget
      exact htargetid
    exact h.update hid hunique husers
  | createRole actorId payload newId =>
    obtain ⟨actor, -, hr⟩ := except_bind_eq_ok.mp hr
    obtain ⟨⟨new, accounts⟩, hcreate, rfl⟩ := except_map_eq_ok.mp hr
    exact h.congr (createRole_spec hcreate).2.1
  | updateRole actorId roleId payload =>
    obtain ⟨actor, -, hr⟩ := except_bind_eq_ok.mp hr
    obtain ⟨⟨patched, accounts⟩, hupdate, rfl⟩ := except_map_eq_ok.mp hr
    obtain ⟨-, -, -, husers, -⟩ := updateRole_spec hupdate
    exact h.congr husers
  | register payload newId draws =>
    obtain ⟨⟨pair, accounts⟩, hregister, rfl⟩ := except_map_eq_ok.mp hr
    obtain ⟨new, rfl, hname, husers, -⟩ := register_users hregister
    exact h.append (hnew new.id rfl).1 hname husers

/-! ## What a safe request keeps -/

/-- The row's privileged columns; the password only of the bootstrap admin. -/
structure SameColumns (settings : Settings) (user user' : User) : Prop where
  roleId : user'.roleId = user.roleId
  permissionsJson : user'.permissionsJson = user.permissionsJson
  isActive : user'.isActive = user.isActive
  bootstrap : isBootstrapAdmin settings user' = isBootstrapAdmin settings user
  passwordHash : isBootstrapAdmin settings user = true → user'.passwordHash = user.passwordHash

lemma not_changesPrivileges (hashSecret : String → String) {payload : UserUpdate}
    (h : changesPrivileges user payload = false) (groupId : Option RowId) :
    (patchedUser hashSecret user payload groupId).roleId = user.roleId ∧
      (patchedUser hashSecret user payload groupId).permissionsJson = user.permissionsJson ∧
      (patchedUser hashSecret user payload groupId).isActive = user.isActive := by
  simp only [changesPrivileges, Bool.or_eq_false_iff] at h
  obtain ⟨⟨hrole, hpermissions⟩, hactive⟩ := h
  refine ⟨?_, ?_, ?_⟩
  · cases hpayload : payload.roleId with
    | none => simp [patchedUser, hpayload]
    | some roleId =>
      rw [hpayload] at hrole
      simpa [patchedUser, hpayload] using hrole
  · cases hpayload : payload.permissionsJson with
    | none => simp [patchedUser, hpayload]
    | some permissions =>
      rw [hpayload] at hpermissions
      simpa [patchedUser, hpayload] using hpermissions
  · cases hpayload : payload.isActive with
    | none => simp [patchedUser, hpayload]
    | some active =>
      rw [hpayload] at hactive
      simpa [patchedUser, hpayload] using hactive

lemma sameColumns_request (hunique : UniqueNames s) (hadmin : admin ∈ s.users)
    (hboot : isBootstrapAdmin settings admin = true) (hby : ByOther settings s e)
    (hsafe : PrivilegesSafe hashSecret settings s e) (hget : get s.users id = some user)
    (hwho : e.actorId? = some id ∨ isBootstrapAdmin settings user = true) {user' : User}
    (h : UserAfter hashSecret settings s e user user') : SameColumns settings user user' := by
  rcases h with rfl | ⟨actorId, actor, payload, groupId, rfl, hactor, hvalid, rfl, hpatched⟩
  · exact ⟨rfl, rfl, rfl, rfl, fun _ => rfl⟩
  · have hid : user.id = id := key_of_get hget
    -- the guard on the user's own row, or on the bootstrap admin's
    have hsame : changesPrivileges user payload = false := by
      unfold validateUpdate at hvalid
      by_contra hchanges
      rw [Bool.not_eq_false] at hchanges
      rcases hwho with hwho | hwho
      · have hactorid : actorId = id := Option.some.inj hwho
        rw [hactorid, hget] at hactor
        cases hactor
        simp [hchanges] at hvalid
      · by_cases hself : actor.id = user.id
        · simp [hchanges, hself] at hvalid
        · simp [hchanges, hself, hwho] at hvalid
    obtain ⟨hroleId, hpermissions, hactive⟩ := not_changesPrivileges hashSecret hsame groupId
    have hget' : get s.users user.id = some user := hid.symm ▸ hget
    by_cases huser : isBootstrapAdmin settings user = true
    · obtain ⟨hname, hpassword⟩ := hsafe user hget' huser
      refine ⟨hroleId, hpermissions, hactive, ?_, fun _ => ?_⟩
      · cases hpayload : payload.username with
        | none => simp [isBootstrapAdmin, patchedUser, hpayload]
        | some username =>
          have heq := hname username hpayload
          simp [isBootstrapAdmin, patchedUser, hpayload, heq]
      · cases hpayload : payload.password with
        | none => simp [patchedUser, hpayload]
        | some password =>
          have heq := hpassword password hpayload
          simp [patchedUser, hpayload, heq]
    · refine ⟨hroleId, hpermissions, hactive, ?_, fun hcontra => absurd hcontra huser⟩
      -- the name of the bootstrap admin is taken
      rw [Bool.not_eq_true] at huser
      rw [huser]
      by_contra htaken
      rw [Bool.not_eq_false] at htaken
      have hname : admin.username = (patchedUser hashSecret user payload groupId).username := by
        rw [of_decide_eq_true hboot, of_decide_eq_true htaken]
      have hadminid : admin.id = user.id := uniqueUser_spec hpatched hadmin hname
      have hsame : admin = user :=
        List.inj_on_of_nodup_map hunique.ids hadmin (mem_of_get hget) hadminid
      rw [hsame, huser] at hboot
      cases hboot

lemma samePermissions_request (hsafe : PrivilegesSafe hashSecret settings s e)
    (hget : get s.users id = some user)
    (hwho : e.actorId? = some id ∨ isBootstrapAdmin settings user = true) {user' : User}
    (hcolumns : SameColumns settings user user') (hrole : RoleAfter s e s' user) :
    getEffectivePermissionMap s' user' = getEffectivePermissionMap s user ∧
      isAdmin settings s' user' = isAdmin settings s user := by
  rcases hrole with hsame | ⟨actorId, roleId, payload, role, rfl, hroleId, hget', hbefore, hafter⟩
  · have hrole := hsame user' hcolumns.roleId
    exact ⟨getEffectivePermissionMap_congr hrole hcolumns.permissionsJson,
      isAdmin_congr hrole hcolumns.bootstrap⟩
  · have hafter := hafter user' hcolumns.roleId
    have hkeeps : KeepsPermissions s user roleId payload := by
      rcases hwho with hwho | hwho
      · have hactorid : actorId = id := Option.some.inj hwho
        exact (hsafe.1 user (hactorid ▸ hget)).1
      · exact hsafe.2 user (mem_of_get hget) hwho
    constructor
    · rw [getEffectivePermissionMap, getEffectivePermissionMap, hafter, hbefore,
        hcolumns.permissionsJson]
      exact hkeeps hroleId role hget'
    · rw [isAdmin, isAdmin, hcolumns.bootstrap, hafter, hbefore, Option.any_some, Option.any_some]
      rcases hwho with hwho | hwho
      · have hactorid : actorId = id := Option.some.inj hwho
        have hname := (hsafe.1 user (hactorid ▸ hget)).2 hroleId role hget'
        rw [decide_eq_decide.mpr hname]
      · rw [hwho, Bool.true_or, Bool.true_or]

/-! ## Runs -/

/-- What is kept along a safe run. -/
structure AdminInv (settings : Settings) (s₀ : Accounts) (admin : User) (s : Accounts) : Prop where
  unique : UniqueNames s
  account : ∃ admin', get s.users admin.id = some admin' ∧ SameColumns settings admin admin' ∧
    getEffectivePermissionMap s admin' = getEffectivePermissionMap s₀ admin
  boot : isBootstrapAdmin settings admin = true

lemma AdminInitial.inv (h : AdminInitial settings s₀ admin) : AdminInv settings s₀ admin s₀ :=
  ⟨h.uniqueNames, ⟨admin, get_of_mem h.ids h.admin.1, ⟨rfl, rfl, rfl, rfl, fun _ => rfl⟩, rfl⟩,
    h.admin.2⟩

lemma AdminInv.kept (h : AdminInv settings s₀ admin s) :
    BootstrapAdminKept settings s₀ admin s := by
  obtain ⟨admin', hget, hcolumns, heffective⟩ := h.account
  have hboot' : isBootstrapAdmin settings admin' = true := hcolumns.bootstrap ▸ h.boot
  have hid : admin'.id = admin.id := key_of_get hget
  refine ⟨⟨admin', hget, hcolumns.roleId, hcolumns.permissionsJson, hcolumns.isActive,
    hcolumns.passwordHash h.boot, heffective⟩, fun user huser => ⟨fun hname => ?_, fun heq => ?_⟩⟩
  · rw [← hid]
    refine h.unique.names user huser admin' (mem_of_get hget) ?_
    rw [of_decide_eq_true hname, of_decide_eq_true hboot']
  · have hsame : user = admin' :=
      List.inj_on_of_nodup_map h.unique.ids huser (mem_of_get hget) (heq.trans hid.symm)
    rw [hsame, hboot']

lemma inv_adminStep (h : AdminInv settings s₀ admin s)
    (hsafe : PrivilegesSafe hashSecret settings s e)
    (hs : adminStep jwt hashSecret settings s e = some s') :
    AdminInv settings s₀ admin s' ∧ OwnPrivilegesUnchanged settings s e s' := by
  obtain ⟨⟨hby, hnew⟩, hs⟩ := Option.ite_none_right_eq_some.mp hs
  cases hr : adminRequest jwt hashSecret settings s e with
  | error error =>
    rw [hr] at hs
    cases hs
    exact ⟨h, fun actorId _ actor hget => ⟨actor, hget, rfl, rfl⟩⟩
  | ok accounts =>
    rw [hr] at hs
    cases hs
    obtain ⟨admin', hget, hcolumns, heffective⟩ := h.account
    have hboot' : isBootstrapAdmin settings admin' = true := hcolumns.bootstrap ▸ h.boot
    -- the rows that matter, after the request
    have hkeep : ∀ {id user}, get s.users id = some user →
        e.actorId? = some id ∨ isBootstrapAdmin settings user = true →
          ∃ user', get s'.users id = some user' ∧ SameColumns settings user user' ∧
            getEffectivePermissionMap s' user' = getEffectivePermissionMap s user ∧
            isAdmin settings s' user' = isAdmin settings s user := by
      intro id user hget' hwho
      obtain ⟨⟨user', hafter, hrow⟩, hrole⟩ := adminRequest_cases hnew hr hget'
      have hsame := sameColumns_request h.unique (mem_of_get hget) hboot' hby hsafe hget' hwho
        hrow
      exact ⟨user', hafter, hsame, samePermissions_request hsafe hget' hwho hsame hrole⟩
    constructor
    · obtain ⟨admin'', hget', hcolumns', heffective', -⟩ := hkeep hget (.inr hboot')
      refine ⟨uniqueNames_request h.unique hnew hr, ⟨admin'', hget', ⟨?_, ?_, ?_, ?_, ?_⟩, ?_⟩,
        h.boot⟩
      · rw [hcolumns'.roleId, hcolumns.roleId]
      · rw [hcolumns'.permissionsJson, hcolumns.permissionsJson]
      · rw [hcolumns'.isActive, hcolumns.isActive]
      · rw [hcolumns'.bootstrap, hcolumns.bootstrap]
      · intro hboot
        rw [hcolumns'.passwordHash hboot', hcolumns.passwordHash hboot]
      · rw [heffective', heffective]
    · intro actorId hactor actor hget'
      obtain ⟨actor', hafter, -, heffective, hadmin⟩ := hkeep hget' (.inl hactor)
      exact ⟨actor', hafter, heffective, hadmin⟩

/-- In a run of safe requests the bootstrap admin stays who it was, with what it had, and nobody
changes what they may do themselves. -/
theorem privileges_kept (h₀ : AdminInitial settings s₀ admin)
    (hsafe : StepsMeet (adminStep jwt hashSecret settings) (PrivilegesSafe hashSecret settings)
      s₀ es) :
    AllStates (adminStep jwt hashSecret settings) (BootstrapAdminKept settings s₀ admin) s₀ es ∧
      AllSteps (adminStep jwt hashSecret settings) (OwnPrivilegesUnchanged settings) s₀ es := by
  have hstep : ∀ s e s', AdminInv settings s₀ admin s → PrivilegesSafe hashSecret settings s e →
      adminStep jwt hashSecret settings s e = some s' → AdminInv settings s₀ admin s' :=
    fun s e s' h hsafe hs => (inv_adminStep h hsafe hs).1
  constructor
  · exact allStates_of_stepsMeet (AdminInv settings s₀ admin) hstep (fun _ h => h.kept) h₀.inv hsafe
  · exact stepsMeet_of_stepsMeet (AdminInv settings s₀ admin) hstep
      (fun s e h hsafe s' hs => (inv_adminStep h hsafe hs).2) h₀.inv hsafe

/-! ## A user who may write users and roles -/

def officeAdmin : User :=
  { id := "u0", username := "admin", passwordHash := "old", roleId := some "r0" }

def clerkRole : Role :=
  { id := "r1", name := "clerk"
    permissionsJson := (Finmap.singleton "users:write" true).insert "roles:write" true }

/-- The bootstrap admin, and a clerk. -/
def office : Accounts where
  users := [officeAdmin,
    { id := "u1", username := "ann", passwordHash := "pw", roleId := some "r1" }]
  roles := [{ id := "r0", name := "admin" }, clerkRole]

/-- No request here reads or writes a token. -/
def noJwt : Jwt where
  encode _ := ""
  decode _ _ := none

def plainHash (secret : String) : String := secret

lemma initial_office : AdminInitial {} office officeAdmin := by
  refine ⟨by decide, by decide, List.mem_cons_self, by decide⟩

/-- The clerk moves to another time zone and creates a role. -/
theorem clerk_privileges_kept :
    AllStates (adminStep noJwt plainHash {}) (BootstrapAdminKept {} office officeAdmin) office
        [.updateUser "u1" "u1" { timezone := some "CET" }, .createRole "u1" ⟨"guest", ∅⟩ "r2"] ∧
      AllSteps (adminStep noJwt plainHash {}) (OwnPrivilegesUnchanged {}) office
        [.updateUser "u1" "u1" { timezone := some "CET" }, .createRole "u1" ⟨"guest", ∅⟩ "r2"] := by
  refine privileges_kept initial_office ⟨fun user hget hboot => ?_, ?_⟩
  · cases hget
    cases hboot
  · generalize adminStep noJwt plainHash {} office _ = next
    cases next with
    | none => trivial
    | some s =>
      refine ⟨trivial, ?_⟩
      generalize adminStep noJwt plainHash {} s _ = last
      cases last <;> trivial

/-- The clerk renames the bootstrap admin, who is none any more. -/
def renamed : Accounts :=
  { office with users := update office.users "u0" fun _ => { officeAdmin with username := "root" } }

/-- The clerk's role is to allow the audit as well. -/
def raise : RoleUpdate :=
  { permissionsJson := some (clerkRole.permissionsJson.insert "audits:read" true) }

def raised : Accounts :=
  { office with roles := update office.roles "r1" fun _ => patchedRole clerkRole raise }

/-- Both promises are broken by one request of the clerk. -/
theorem clerk_breaks_privileges :
    AdminInitial {} office officeAdmin ∧
      ¬ AllStates (adminStep noJwt plainHash {}) (BootstrapAdminKept {} office officeAdmin) office
        [.updateUser "u1" "u0" { username := some "root" }] ∧
      ¬ AllSteps (adminStep noJwt plainHash {}) (OwnPrivilegesUnchanged {}) office
        [.updateRole "u1" "r1" raise] := by
  refine ⟨initial_office, fun h => ?_, fun h => ?_⟩
  · have hstep : adminStep noJwt plainHash {} office (.updateUser "u1" "u0"
        { username := some "root" }) = some renamed := rfl
    have hkept := ((allStates_cons_of_step hstep).mp h).2.head
    have hadmin := (hkept.only { officeAdmin with username := "root" } List.mem_cons_self).mpr rfl
    cases hadmin
  · have hstep : adminStep noJwt plainHash {} office (.updateRole "u1" "r1" raise) =
        some raised := rfl
    obtain ⟨actor', hget, heffective, -⟩ := h.1 raised hstep "u1" rfl _ rfl
    cases hget
    revert heffective
    decide

end CocoonSit
