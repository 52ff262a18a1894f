import CocoonSit.Access.Users

/-!
# Tokens and sign-in sessions

Access and refresh tokens are both JSON web tokens signed with the one key of the settings; a
refresh token carries the claim `typ`, an access token has none.  The library that encodes and
decodes them is a parameter, and so is the hash of secrets.  Times within a token are whole
seconds.
-/

namespace CocoonSit

open Table

/-- The payload of a token. -/
structure TokenClaims where
  sub : Option RowId
  typ : Option String := none
  exp : ℕ
  jti : String
deriving DecidableEq, Repr

/-- The JWT library with the settings' key; `decode` is `none` where the library raises. -/
structure Jwt where
  encode : TokenClaims → String
  decode : Timestamp → String → Option TokenClaims

/-- What is encoded can be read back until it expires. -/
structure Jwt.Sound (jwt : Jwt) : Prop where
  decode_encode : ∀ now claims, jwt.decode now (jwt.encode claims) =
    if now < claims.exp * 1000000 then some claims else none

/-- `datetime.now(UTC) + timedelta(minutes=…)`, in whole seconds. -/
def expiryAfter (now : Timestamp) (minutes : ℕ) : ℕ :=
  now / 1000000 + minutes * 60

structure TokenPair where
  accessToken : String
  refreshToken : String

/-- What a sign-in draws: the time, the `jti` of both tokens, and the key of a new session. -/
structure TokenDraws where
  now : Timestamp
  accessJti : String
  refreshJti : String
  sessionId : RowId

def accessClaims (settings : Settings) (userId : RowId) (draws : TokenDraws) : TokenClaims :=
  { sub := some userId
    exp := expiryAfter draws.now settings.accessTokenExpireMinutes
    jti := draws.accessJti }

def refreshClaims (settings : Settings) (userId : RowId) (draws : TokenDraws) : TokenClaims :=
  { sub := some userId
    typ := some "refresh"
    exp := expiryAfter draws.now settings.refreshTokenExpireMinutes
    jti := draws.refreshJti }

structure RegisterRequest where
  username : String
  password : String
  email : Option String := none
  inviteCode : String
  timezone : String

/-- `WebSocketException`. -/
structure WebSocketError where
  code : ℕ
  reason : String
deriving DecidableEq, Repr

section Services

variable (jwt : Jwt) (hashSecret : String → String) (settings : Settings)

/-! ## `TokenService` -/

/-- Create a short-lived access token for API and websocket access. -/
def createAccessToken (userId : RowId) (draws : TokenDraws) : String :=
  jwt.encode (accessClaims settings userId draws)

/-- Create a long-lived refresh token for session continuation. -/
def createRefreshToken (userId : RowId) (draws : TokenDraws) : String :=
  jwt.encode (refreshClaims settings userId draws)

/-! ## `TokenAuthenticationService` -/

/-- Return the active user bound to a validated token. -/
def resolveActiveUser (accounts : Accounts) (now : Timestamp) (token : String) :
    Except HttpError User :=
  match jwt.decode now token with
  | none => .error ⟨401, "Invalid token"⟩
  | some payload =>
    match payload.sub.filter (· ≠ "") with
    | none => .error ⟨401, "Invalid token"⟩
    | some userId =>
      match (get accounts.users userId).filter fun user => user.isActive with
      | none => .error ⟨401, "Inactive user"⟩
      | some user => .ok user

/-- Return the active user bound to a validated websocket token. -/
def resolveActiveWebsocketUser (accounts : Accounts) (now : Timestamp) (token : String) :
    Except WebSocketError User :=
  (resolveActiveUser jwt accounts now token).mapError fun error => ⟨1008, error.detail⟩

/-! ## `AuthSessionService` -/

def verifySecret (secret expectedHash : String) : Bool :=
  hashSecret secret = expectedHash

def issueTokenPair (accounts : Accounts) (userId : RowId) (draws : TokenDraws) :
    TokenPair × Accounts :=
  let refreshToken := createRefreshToken jwt settings userId draws
  let authSession : AuthSession :=
    { id := draws.sessionId
      userId := userId
      refreshTokenHash := hashSecret refreshToken
      expiresAt := draws.now + settings.refreshTokenExpireMinutes * 60 * 1000000 }
  (⟨createAccessToken jwt settings userId draws, refreshToken⟩,
    { accounts with authSessions := accounts.authSessions ++ [authSession] })

/-- Validate credentials and issue a fresh token pair. -/
def login (accounts : Accounts) (username password : String) (draws : TokenDraws) :
    Except HttpError (TokenPair × Accounts) :=
  match (accounts.users.find? fun user => user.username = username).filter fun user =>
      verifySecret hashSecret password user.passwordHash with
  | none => .error ⟨401, "Invalid credentials"⟩
  | some user =>
    if user.isActive then .ok (issueTokenPair jwt hashSecret settings accounts user.id draws)
    else .error ⟨403, "User account is inactive"⟩

/-- Why the invite code cannot be used. -/
def inviteCodeError (inviteCode : InviteCode) (now : Timestamp) : Option HttpError :=
  if inviteCode.revokedAt.isSome then some ⟨400, "Invite revoked"⟩
  else if inviteCode.expiresAt.any (· < now) then some ⟨400, "Invite expired"⟩
  else if inviteCode.quotaTotal ≤ inviteCode.quotaUsed then some ⟨400, "Invite quota exceeded"⟩
  else none

/-- The rows `register` writes once its checks have passed: the user with the role `user`, the
membership of the registration group, and the use of the invite code. -/
def registerUser (accounts : Accounts) (payload : RegisterRequest) (inviteCode : InviteCode)
    (userRole : Role) (newId : RowId) : Accounts :=
  let accounts := ensureRootGroup accounts
  let groupId := resolveRegistrationGroup accounts inviteCode.registrationGroupId
  let user : User :=
    { id := newId
      username := payload.username
      email := payload.email
      passwordHash := hashSecret payload.password
      roleId := some userRole.id
      primaryGroupId := some groupId
      timezone := payload.timezone
      isActive := true }
  let member : UserGroupMember := { groupId := groupId, userId := newId, memberRole := "member" }
  { accounts with
    users := accounts.users ++ [user]
    groupMembers :=
      if accounts.groupMembers.any fun m => m.groupId = groupId && m.userId = newId
      then accounts.groupMembers else accounts.groupMembers ++ [member]
    inviteCodes := update accounts.inviteCodes inviteCode.id fun code =>
      { code with quotaUsed := code.quotaUsed + 1 } }

/-- Create a new user from a valid invite code when self-registration is enabled. -/
def register (accounts : Accounts) (payload : RegisterRequest) (newId : RowId)
    (draws : TokenDraws) : Except HttpError (TokenPair × Accounts) := do
  if !accounts.allowRegistration then
    throw ⟨403, "Registration is disabled"⟩
  if accounts.users.any fun user => user.username = payload.username then
    throw ⟨400, "Username already exists"⟩
  if (payload.email.filter (· ≠ "")).any fun email =>
      accounts.users.any fun user => user.email = some email then
    throw ⟨400, "Email already exists"⟩
  match accounts.inviteCodes.find? fun code => code.code = payload.inviteCode with
  | none => throw ⟨404, "Invite not found"⟩
  | some inviteCode =>
    match inviteCodeError inviteCode draws.now with
    | some error => throw error
    | none =>
      match accounts.roles.find? fun role => role.name = "user" with
      | none => throw ⟨500, "Default user role is not configured"⟩
      | some userRole =>
        pure (issueTokenPair jwt hashSecret settings
          (registerUser hashSecret accounts payload inviteCode userRole newId) newId draws)

/-- Rotate a refresh token and issue a new access token.  A token that cannot be decoded raises
the library's own error, which no handler catches. -/
def refresh (accounts : Accounts) (refreshToken : String) (draws : TokenDraws) :
    Except HttpError (TokenPair × Accounts) :=
  match jwt.decode draws.now refreshToken with
  | none => .error ⟨500, "Internal Server Error"⟩
  | some decoded =>
    if decoded.typ = some "refresh" then
      match accounts.authSessions.find? fun authSession =>
          authSession.refreshTokenHash = hashSecret refreshToken &&
            authSession.revokedAt.isNone with
      | none => .error ⟨401, "Unknown refresh token"⟩
      | some authSession =>
        let nextRefreshToken := createRefreshToken jwt settings authSession.userId draws
        .ok (⟨createAccessToken jwt settings authSession.userId draws, nextRefreshToken⟩,
          { accounts with
            authSessions := update accounts.authSessions authSession.id fun row =>
              { row with refreshTokenHash := hashSecret nextRefreshToken } })
    else .error ⟨401, "Invalid refresh token"⟩

/-- Revoke the persisted auth session associated with a refresh token. -/
def logout (accounts : Accounts) (refreshToken : String) (now : Timestamp) : Accounts :=
  match accounts.authSessions.find? fun authSession =>
      authSession.refreshTokenHash = hashSecret refreshToken with
  | none => accounts
  | some authSession =>
    { accounts with
      authSessions := update accounts.authSessions authSession.id fun row =>
        { row with revokedAt := some now } }

end Services

/-! ## What the operations do to the users -/

variable {jwt : Jwt} {hashSecret : String → String} {settings : Settings}
  {accounts accounts' : Accounts} {pair : TokenPair}

lemma login_spec {username password : String} {draws : TokenDraws}
    (h : login jwt hashSecret settings accounts username password draws = .ok (pair, accounts')) :
    ∃ user ∈ accounts.users, user.isActive = true ∧
      (pair, accounts') = issueTokenPair jwt hashSecret settings accounts user.id draws := by
  unfold login at h
  cases hfind : (accounts.users.find? fun user => user.username = username).filter fun user =>
      verifySecret hashSecret password user.passwordHash with
  | none =>
    rw [hfind] at h
    cases h
  | some user =>
    rw [hfind] at h
    dsimp only at h
    split at h
    · rename_i hactive
      have hmem := List.mem_of_find?_eq_some (Option.filter_eq_some_iff.mp hfind).1
      exact ⟨user, hmem, hactive, (Except.ok.inj h).symm⟩
    · cases h

/-- A registration that goes through adds one user, of a name nobody had, with the role `user`,
and issues a pair to it. -/
lemma register_spec {payload : RegisterRequest} {newId : RowId} {draws : TokenDraws}
    (h : register jwt hashSecret settings accounts payload newId draws = .ok (pair, accounts')) :
    ∃ inviteCode userRole,
      (accounts.inviteCodes.find? fun code => code.code = payload.inviteCode) = some inviteCode ∧
      inviteCodeError inviteCode draws.now = none ∧ userRole ∈ accounts.roles ∧
      (∀ user ∈ accounts.users, user.username ≠ payload.username) ∧
      (pair, accounts') = issueTokenPair jwt hashSecret settings
        (registerUser hashSecret accounts payload inviteCode userRole newId) newId draws := by
  unfold register at h
  by_cases hallow : (!accounts.allowRegistration) = true
  · rw [if_pos hallow] at h
    cases h
  rw [if_neg hallow] at h
  by_cases hname : accounts.users.any (fun user => user.username = payload.username) = true
  · rw [if_pos hname] at h
    cases h
  rw [if_neg hname] at h
  by_cases hemail : (payload.email.filter (· ≠ "")).any (fun email =>
      accounts.users.any fun user => user.email = some email) = true
  · rw [if_pos hemail] at h
    cases h
  rw [if_neg hemail] at h
  cases hcode : accounts.inviteCodes.find? fun code => code.code = payload.inviteCode with
  | none =>
    rw [hcode] at h
    cases h
  | some inviteCode =>
    rw [hcode] at h
    cases hinvite : inviteCodeError inviteCode draws.now with
    | some error =>
      simp only [hinvite] at h
      cases h
    | none =>
      simp only [hinvite] at h
      cases hrole : accounts.roles.find? fun role => role.name = "user" with
      | none =>
        simp only [hrole] at h
        cases h
      | some userRole =>
        simp only [hrole] at h
        refine ⟨inviteCode, userRole, rfl, hinvite, List.mem_of_find?_eq_some hrole, ?_,
          (Except.ok.inj h).symm⟩
        intro user huser heq
        exact hname (List.any_eq_true.mpr ⟨user, huser, decide_eq_true heq⟩)

lemma register_users {payload : RegisterRequest} {newId : RowId} {draws : TokenDraws}
    (h : register jwt hashSecret settings accounts payload newId draws = .ok (pair, accounts')) :
    ∃ new : User, new.id = newId ∧ (∀ user ∈ accounts.users, user.username ≠ new.username) ∧
      accounts'.users = accounts.users ++ [new] ∧ accounts'.roles = accounts.roles := by
  obtain ⟨inviteCode, userRole, -, -, -, hname, heq⟩ := register_spec h
  have haccounts : accounts' = (issueTokenPair jwt hashSecret settings
    (registerUser hashSecret accounts payload inviteCode userRole newId) newId draws).2 :=
    congrArg Prod.snd heq
  subst haccounts
  refine ⟨{ id := newId
            username := payload.username
            email := payload.email
            passwordHash := hashSecret payload.password
            roleId := some userRole.id
            primaryGroupId := some (resolveRegistrationGroup (ensureRootGroup accounts)
              inviteCode.registrationGroupId)
            timezone := payload.timezone
            isActive := true }, rfl, hname, ?_, ?_⟩
  · simp only [issueTokenPair, registerUser, ensureRootGroup_users]
  · simp only [issueTokenPair, registerUser, ensureRootGroup_roles]

lemma refresh_spec {refreshToken : String} {draws : TokenDraws}
    (h : refresh jwt hashSecret settings accounts refreshToken draws = .ok (pair, accounts')) :
    ∃ decoded, jwt.decode draws.now refreshToken = some decoded ∧ decoded.typ = some "refresh" ∧
      (∃ authSession ∈ accounts.authSessions,
        authSession.refreshTokenHash = hashSecret refreshToken ∧
        pair = ⟨createAccessToken jwt settings authSession.userId draws,
          createRefreshToken jwt settings authSession.userId draws⟩) ∧
      accounts'.users = accounts.users := by
  unfold refresh at h
  cases hdecode : jwt.decode draws.now refreshToken with
  | none =>
    rw [hdecode] at h
    cases h
  | some decoded =>
    rw [hdecode] at h
    dsimp only at h
    by_cases htyp : decoded.typ = some "refresh"
    · rw [if_pos htyp] at h
      cases hfind : accounts.authSessions.find? fun authSession =>
          authSession.refreshTokenHash = hashSecret refreshToken &&
            authSession.revokedAt.isNone with
      | none =>
        rw [hfind] at h
        cases h
      | some authSession =>
        rw [hfind] at h
        obtain ⟨rfl, rfl⟩ := Prod.mk.inj (Except.ok.inj h)
        have hhash := List.find?_some hfind
        simp only [Bool.and_eq_true, decide_eq_true_eq] at hhash
        exact ⟨decoded, rfl, htyp,
          ⟨authSession, List.mem_of_find?_eq_some hfind, hhash.1, rfl⟩, rfl⟩
    · rw [if_neg htyp] at h
      cases h

lemma resolveActiveUser_eq_ok {now : Timestamp} {token : String} {user : User} :
    resolveActiveUser jwt accounts now token = .ok user ↔
      ∃ claims userId, jwt.decode now token = some claims ∧ claims.sub = some userId ∧
        userId ≠ "" ∧ get accounts.users userId = some user ∧ user.isActive = true := by
  unfold resolveActiveUser
  cases hdecode : jwt.decode now token with
  | none => simp
  | some claims =>
    dsimp only
    cases hsub : claims.sub.filter (· ≠ "") with
    | none =>
      simp only [reduceCtorEq, Option.some.injEq, false_iff, not_exists, not_and]
      rintro _ userId rfl hid hne
      rw [hid] at hsub
      simp [hne] at hsub
    | some userId =>
      obtain ⟨hid, hne⟩ := Option.filter_eq_some_iff.mp hsub
      dsimp only
      cases huser : (get accounts.users userId).filter fun user => user.isActive with
      | none =>
        simp only [reduceCtorEq, Option.some.injEq, false_iff, not_exists, not_and]
        rintro _ userId' rfl hid' - hget
        rw [hid] at hid'
        cases hid'
        rw [hget] at huser
        simpa using huser
      | some user' =>
        obtain ⟨hget, hactive⟩ := Option.filter_eq_some_iff.mp huser
        simp only [Except.ok.injEq, Option.some.injEq]
        constructor
        · rintro rfl
          exact ⟨claims, userId, rfl, hid, by simpa using hne, hget, hactive⟩
        · rintro ⟨_, userId', rfl, hid', -, hget', -⟩
          rw [hid] at hid'
          cases hid'
          rw [hget] at hget'
          exact Option.some.inj hget'

lemma resolveActiveWebsocketUser_eq_ok {now : Timestamp} {token : String} {user : User} :
    resolveActiveWebsocketUser jwt accounts now token = .ok user ↔
      resolveActiveUser jwt accounts now token = .ok user := by
  unfold resolveActiveWebsocketUser
  cases resolveActiveUser jwt accounts now token <;> simp [Except.mapError]

end CocoonSit
