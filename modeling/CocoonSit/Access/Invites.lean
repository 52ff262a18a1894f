import CocoonSit.Access.Sessions
import CocoonSit.Security.Authorization

/-!
# Invite codes and invite quota

The invite service.  Users and groups have accounts of invite quota; grants and redeemed invites
fill them, invites created on their behalf draw on them.  An account is found by what it belongs
to, and opened on the first use.
-/

namespace CocoonSit

open Table

/-! ## The tables -/

/-- `target_type`, as the service writes it: `USER` or `GROUP`. -/
inductive QuotaKind where
  | user
  | group
deriving DecidableEq, Repr

/-- Whose account it is: `target_type` and `target_id`, which are unique together. -/
abbrev QuotaTarget := QuotaKind × RowId

/-- `invite_quota_accounts`. -/
structure InviteQuotaAccount where
  target : QuotaTarget
  remainingQuota : ℤ := 0
  isUnlimited : Bool := false

/-- `invite_quota_grants`. -/
structure InviteQuotaGrant where
  id : RowId
  inviteCodeId : Option RowId := none
  grantedByUserId : Option RowId := none
  sourceType : String := "ADMIN_OVERRIDE"
  sourceId : Option RowId := none
  target : QuotaTarget
  quota : ℤ := 1
  isUnlimited : Bool := false
  note : Option String := none
  revokedAt : Option Timestamp := none

instance : Keyed InviteQuotaAccount QuotaTarget := ⟨InviteQuotaAccount.target⟩
instance : Keyed InviteQuotaGrant RowId := ⟨InviteQuotaGrant.id⟩

@[simp] lemma key_quotaAccount (row : InviteQuotaAccount) : key row = row.target := rfl

@[simp] lemma key_quotaGrant (row : InviteQuotaGrant) : key row = row.id := rfl

@[simp] lemma key_inviteCode (row : InviteCode) : key row = row.id := rfl

/-- The tables of the invite service; the invite codes are with the accounts. -/
structure InviteTables where
  accounts : Accounts
  quotaAccounts : List InviteQuotaAccount := []
  quotaGrants : List InviteQuotaGrant := []

/-! ## Requests -/

structure InviteCreate where
  code : Option String := none
  quotaTotal : ℤ := 1
  expiresAt : Option Timestamp := none
  createdForUserId : Option RowId := none
  registrationGroupId : RowId
  sourceType : String := "ADMIN_OVERRIDE"
  sourceId : Option RowId := none
  quotaTotal_pos : 1 ≤ quotaTotal := by decide

structure InviteRedeemRequest where
  userId : RowId
  quota : ℤ := 1
  quota_pos : 1 ≤ quota := by decide

lemma defaultQuota_pos : (1 : ℤ) ≤ 1 := le_rfl

structure InviteGrantCreate where
  targetType : String
  targetId : RowId
  amount : ℤ := 1
  isUnlimited : Bool := false
  note : Option String := none
  amount_pos : 1 ≤ amount := by decide

/-! ## Accounts -/

/-- `str.upper`, as far as the names of targets and sources go. -/
def upper (s : String) : String := s.map upperChar

/-- The targets the service supports. -/
def quotaKind (targetType : String) : Option QuotaKind :=
  if upper targetType = "USER" then some .user
  else if upper targetType = "GROUP" then some .group
  else none

/-- `_ensure_user_exists` and `_ensure_group_exists`. -/
def ensureTargetExists (accounts : Accounts) : QuotaTarget → Except HttpError Unit
  | (.user, userId) =>
    if (get accounts.users userId).isSome then .ok () else .error ⟨404, "User not found"⟩
  | (.group, groupId) =>
    if (get accounts.groups groupId).isSome then .ok () else .error ⟨404, "Group not found"⟩

/-- `_is_admin`: the role alone, whatever the username. -/
def isInviteAdmin (accounts : Accounts) (user : User) : Bool :=
  (getRoleForUser accounts user).any fun role => role.name = "admin"

/-- `_get_or_create_account`, which leaves an account of the target. -/
def openAccount (tables : InviteTables) (target : QuotaTarget) : InviteTables :=
  if (get tables.quotaAccounts target).isSome then tables
  else { tables with quotaAccounts := tables.quotaAccounts ++ [{ target := target }] }

/-- `account.remaining_quota`, that of an account not opened being zero. -/
def remainingQuota (tables : InviteTables) (target : QuotaTarget) : ℤ :=
  (get tables.quotaAccounts target).elim 0 InviteQuotaAccount.remainingQuota

def isUnlimited (tables : InviteTables) (target : QuotaTarget) : Bool :=
  (get tables.quotaAccounts target).any InviteQuotaAccount.isUnlimited

/-- A write to the account, opened where it is not there yet. -/
def updateAccount (tables : InviteTables) (target : QuotaTarget)
    (f : InviteQuotaAccount → InviteQuotaAccount) : InviteTables :=
  { openAccount tables target with
    quotaAccounts := update (openAccount tables target).quotaAccounts target f }

/-- `account.remaining_quota += amount`. -/
def addQuota (tables : InviteTables) (target : QuotaTarget) (amount : ℤ) : InviteTables :=
  updateAccount tables target fun account =>
    { account with remainingQuota := account.remainingQuota + amount }

def consumeQuota (tables : InviteTables) (target : QuotaTarget) (amount : ℤ) :
    Except HttpError InviteTables :=
  if isUnlimited tables target then .ok (openAccount tables target)
  else if remainingQuota tables target < amount then .error ⟨400, "Invite quota exceeded"⟩
  else .ok (addQuota tables target (-amount))

/-! ## Invites -/

/-- The account an invite draws on, if any. -/
def inviteSource (payload : InviteCreate) (user : User) : Except HttpError (Option QuotaTarget) :=
  let sourceType := upper (if payload.sourceType = "" then "ADMIN_OVERRIDE" else payload.sourceType)
  let sourceId := payload.sourceId.filter (· ≠ "")
  if sourceType = "USER" then .ok (some (.user, sourceId.getD user.id))
  else if sourceType = "GROUP" then
    match sourceId with
    | none => .error ⟨400, "Group source_id is required"⟩
    | some groupId => .ok (some (.group, groupId))
  else if sourceType ≠ "ADMIN_OVERRIDE" then .error ⟨400, "Unsupported invite source"⟩
  else .ok none

/-- The summary of the source, which reads a negative balance as zero, has the quota. -/
def checkSummary (tables : InviteTables) (target : QuotaTarget) (amount : ℤ) :
    Except HttpError Unit :=
  if !isUnlimited tables target && max (remainingQuota tables target) 0 < amount then
    .error ⟨400, "Invite quota exceeded"⟩
  else .ok ()

/-- The source is there and has the quota, which is taken. -/
def drawQuota (tables : InviteTables) (target : QuotaTarget) (amount : ℤ) :
    Except HttpError InviteTables := do
  ensureTargetExists tables.accounts target
  checkSummary tables target amount
  consumeQuota tables target amount

def newInvite (payload : InviteCreate) (user : User) (source : Option QuotaTarget) (newId : RowId)
    (code : String) : InviteCode where
  id := newId
  code := code
  createdByUserId := some user.id
  createdForUserId := some ((payload.createdForUserId.filter (· ≠ "")).getD user.id)
  sourceType :=
    upper (if payload.sourceType = "" then "ADMIN_OVERRIDE" else payload.sourceType)
  sourceId := (source.map Prod.snd) <|> payload.sourceId
  registrationGroupId := some payload.registrationGroupId
  quotaTotal := payload.quotaTotal
  expiresAt := payload.expiresAt

/-- The code asked for, or one drawn; `generated` is `none` where none could be drawn. -/
def inviteCodeFor (payload : InviteCreate) (generated : Option String) : Except HttpError String :=
  match payload.code.filter (· ≠ "") <|> generated with
  | none => .error ⟨500, "Failed to generate unique invite code"⟩
  | some code => .ok code

/-- The registration group is there, and only admins ask for an invite that does not expire. -/
def checkInvite (tables : InviteTables) (payload : InviteCreate) (user : User) :
    Except HttpError Unit :=
  if (get tables.accounts.groups payload.registrationGroupId).isNone then
    .error ⟨404, "Registration group not found"⟩
  else if payload.expiresAt.isNone && !isInviteAdmin tables.accounts user then
    .error ⟨403, "Only administrators can create permanent invites"⟩
  else .ok ()

/-- The column `code` is unique. -/
def checkUniqueCode (tables : InviteTables) (code : String) : Except HttpError Unit :=
  if tables.accounts.inviteCodes.any fun invite => invite.code = code then .error integrityError
  else .ok ()

/-- Create an invite code attributed to the acting user. -/
def createInvite (tables : InviteTables) (payload : InviteCreate) (user : User) (newId : RowId)
    (generated : Option String) : Except HttpError InviteTables := do
  let code ← inviteCodeFor payload generated
  checkInvite tables payload user
  let source ← inviteSource payload user
  let drawn ← source.elim (.ok tables) fun target => drawQuota tables target payload.quotaTotal
  checkUniqueCode tables code
  return { drawn with
    accounts := { drawn.accounts with
      inviteCodes := drawn.accounts.inviteCodes ++ [newInvite payload user source newId code] } }

def getInviteByCode (tables : InviteTables) (code : String) : Except HttpError InviteCode :=
  match tables.accounts.inviteCodes.find? fun invite => invite.code = code with
  | none => .error ⟨404, "Invite not found"⟩
  | some invite => .ok invite

/-- Why an invite cannot be revoked. -/
def revokeError (invite : InviteCode) : Option HttpError :=
  if invite.revokedAt.isSome then some ⟨400, "Invite already revoked"⟩
  else if 0 < invite.quotaUsed then some ⟨400, "Used invites cannot be revoked"⟩
  else none

/-- Revoke an unused invite code so future registrations cannot consume it. -/
def revokeInvite (tables : InviteTables) (code : String) (now : Timestamp) :
    Except HttpError InviteTables := do
  let invite ← getInviteByCode tables code
  (revokeError invite).elim (.ok ()) .error
  return { tables with
    accounts := { tables.accounts with
      inviteCodes := update tables.accounts.inviteCodes invite.id fun invite =>
        { invite with revokedAt := some now } } }

/-- Why an invite cannot be redeemed. -/
def redeemError (invite : InviteCode) (quota : ℤ) (now : Timestamp) : Option HttpError :=
  if invite.revokedAt.isSome then some ⟨400, "Invite revoked"⟩
  else if invite.expiresAt.any (· < now) then some ⟨400, "Invite expired"⟩
  else if invite.quotaTotal < invite.quotaUsed + quota then some ⟨400, "Invite quota exceeded"⟩
  else none

/-- The invite that a redemption finds, after its checks. -/
def redeemableInvite (tables : InviteTables) (code : String) (payload : InviteRedeemRequest)
    (now : Timestamp) : Except HttpError InviteCode := do
  let invite ← getInviteByCode tables code
  (redeemError invite payload.quota now).elim (.ok ()) .error
  ensureTargetExists tables.accounts (.user, payload.userId)
  return invite

def redeemedGrant (invite : InviteCode) (payload : InviteRedeemRequest) (newId : RowId) :
    InviteQuotaGrant where
  id := newId
  inviteCodeId := some invite.id
  grantedByUserId := invite.createdByUserId
  sourceType := invite.sourceType
  sourceId := invite.sourceId
  target := (.user, payload.userId)
  quota := payload.quota
  note := some ("Redeemed from invite code " ++ invite.code)

/-- Redeem quota from an invite code into a user grant. -/
def redeemInvite (tables : InviteTables) (code : String) (payload : InviteRedeemRequest)
    (newId : RowId) (now : Timestamp) : Except HttpError InviteTables :=
  (redeemableInvite tables code payload now).map fun invite =>
    let used := { tables with
      accounts := { tables.accounts with
        inviteCodes := update tables.accounts.inviteCodes invite.id fun invite =>
          { invite with quotaUsed := invite.quotaUsed + payload.quota } }
      quotaGrants := tables.quotaGrants ++ [redeemedGrant invite payload newId] }
    addQuota used (.user, payload.userId) payload.quota

/-! ## Grants -/

def grantTarget (accounts : Accounts) (payload : InviteGrantCreate) :
    Except HttpError QuotaTarget :=
  match quotaKind payload.targetType with
  | none => .error ⟨400, "Unsupported grant target"⟩
  | some kind => (ensureTargetExists accounts (kind, payload.targetId)).map fun _ =>
    (kind, payload.targetId)

def newGrant (payload : InviteGrantCreate) (user : User) (newId : RowId) (target : QuotaTarget) :
    InviteQuotaGrant where
  id := newId
  grantedByUserId := some user.id
  target := target
  quota := payload.amount
  isUnlimited := payload.isUnlimited
  note := payload.note

/-- `account.is_unlimited = True`. -/
def unlimitAccount (tables : InviteTables) (target : QuotaTarget) : InviteTables :=
  updateAccount tables target fun account => { account with isUnlimited := true }

/-- Create a quota grant that can later back invite-code creation. -/
def createGrant (tables : InviteTables) (payload : InviteGrantCreate) (user : User)
    (newId : RowId) : Except HttpError InviteTables :=
  (grantTarget tables.accounts payload).map fun target =>
    let granted := { tables with
      quotaGrants := tables.quotaGrants ++ [newGrant payload user newId target] }
    if payload.isUnlimited then unlimitAccount granted target
    else addQuota granted target payload.amount

def revocableGrant (tables : InviteTables) (grantId : RowId) (user : User) :
    Except HttpError InviteQuotaGrant :=
  if !isInviteAdmin tables.accounts user then
    .error ⟨403, "Only administrators can revoke invite grants"⟩
  else
    match get tables.quotaGrants grantId with
    | none => .error ⟨404, "Invite grant not found"⟩
    | some grant =>
      if grant.revokedAt.isSome then .error ⟨400, "Invite grant already revoked"⟩
      else .ok grant

/-- Revoke an existing quota grant so it no longer contributes future invite capacity. -/
def revokeGrant (tables : InviteTables) (grantId : RowId) (user : User) (now : Timestamp) :
    Except HttpError InviteTables :=
  (revocableGrant tables grantId user).map fun _ =>
    { tables with quotaGrants := update tables.quotaGrants grantId fun grant =>
        { grant with revokedAt := some now } }

end CocoonSit
