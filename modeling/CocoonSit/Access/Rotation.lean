import CocoonSit.Access.Credentials

/-!
# Rotating refresh tokens

A session is continued with the refresh token it handed out last.  What the history of the sign-in
endpoints hands out is kept next to the tables, token by token with its session, and so are the
tokens that have been exchanged for new ones.  The endpoint reads the token's own time of expiry
and the row of the session, but neither the time of expiry there nor the user.
-/

namespace CocoonSit

open Table TransitionSystem

/-- The tables, the refresh tokens handed out with their sessions, the latest first, and the ones
that have been exchanged. -/
structure RotationState where
  accounts : Accounts
  tokens : List (RowId × String) := []
  spent : List String := []

/-- The most recently issued refresh token of a session. -/
def latestToken (s : RotationState) (sessionId : RowId) : Option String :=
  (s.tokens.find? fun issued => issued.1 = sessionId).map Prod.snd

section System

variable (jwt : Jwt) (hashSecret : String → String) (settings : Settings)

/-- Nobody finds a text with the hash of another's token. -/
def NoCollision (s : RotationState) (token : String) : Prop :=
  ∀ issued ∈ s.tokens, hashSecret issued.2 = hashSecret token → issued.2 = token

instance (s : RotationState) (token : String) : Decidable (NoCollision hashSecret s token) :=
  inferInstanceAs (Decidable (∀ issued ∈ s.tokens, _ → _))

/-- The row `refresh` finds. -/
def unrevokedSession (accounts : Accounts) (refreshToken : String) : Option AuthSession :=
  accounts.authSessions.find? fun authSession =>
    authSession.refreshTokenHash = hashSecret refreshToken && authSession.revokedAt.isNone

/-- The pair is handed out; a token is unlike all before, by its `jti`. -/
def RotationState.hand (s : RotationState) (sessionId : RowId) (pair : TokenPair)
    (accounts : Accounts) : Option RotationState :=
  if pair.refreshToken ∈ s.tokens.map Prod.snd then none
  else some { s with accounts := accounts, tokens := (sessionId, pair.refreshToken) :: s.tokens }

/-- A request that signs in; the key of a new session is new. -/
def RotationState.signIn (s : RotationState) (draws : TokenDraws) :
    Except HttpError (TokenPair × Accounts) → Option RotationState
  | .error _ => some s
  | .ok (pair, accounts) =>
    if draws.sessionId ∈ s.accounts.authSessions.map key then none
    else s.hand draws.sessionId pair accounts

def rotationStep (s : RotationState) : CredentialEvent → Option RotationState
  | .login username password draws =>
    s.signIn draws (login jwt hashSecret settings s.accounts username password draws)
  | .register payload newId draws =>
    s.signIn draws (register jwt hashSecret settings s.accounts payload newId draws)
  | .refresh refreshToken draws =>
    if NoCollision hashSecret s refreshToken then
      match refresh jwt hashSecret settings s.accounts refreshToken draws with
      | .error _ => some s
      | .ok (pair, accounts) =>
        (unrevokedSession hashSecret s.accounts refreshToken).bind fun authSession =>
          { s with spent := refreshToken :: s.spent }.hand authSession.id pair accounts
    else none
  | .logout refreshToken now =>
    some { s with accounts := logout hashSecret s.accounts refreshToken now }
  | .updateUser actor userId payload =>
    match updateUser settings hashSecret s.accounts actor userId payload with
    | .ok (_, accounts) => some { s with accounts := accounts }
    | .error _ => some s

/-- The session is not past its expiry and its user is active. -/
def Extendable (accounts : Accounts) (now : Timestamp) (authSession : AuthSession) : Prop :=
  now ≤ authSession.expiresAt ∧
    ∃ user, get accounts.users authSession.userId = some user ∧ user.isActive = true

/-- The token is the most recent one of a session that may go on. -/
def Current (s : RotationState) (now : Timestamp) (token : String) : Prop :=
  ∃ authSession ∈ s.accounts.authSessions, latestToken s authSession.id = some token ∧
    authSession.revokedAt = none ∧ Extendable s.accounts now authSession

/-- A refresh issues new tokens if and only if it is given a current token, and to no token a second
time. -/
def IssuesIffCurrent (s : RotationState) : CredentialEvent → Prop
  | .refresh refreshToken draws => NoCollision hashSecret s refreshToken →
      ((∃ r, refresh jwt hashSecret settings s.accounts refreshToken draws = .ok r) ↔
          Current s draws.now refreshToken) ∧
        ((∃ r, refresh jwt hashSecret settings s.accounts refreshToken draws = .ok r) →
          refreshToken ∉ s.spent)
  | _ => True

/-- The most recent token of an unrevoked session, when it is presented, expires with the session
and the user's active time. -/
def ExpiresWithSession (s : RotationState) : CredentialEvent → Prop
  | .refresh refreshToken draws => NoCollision hashSecret s refreshToken →
      ∀ authSession ∈ s.accounts.authSessions, latestToken s authSession.id = some refreshToken →
        authSession.revokedAt = none →
          ((jwt.decode draws.now refreshToken).isSome ↔
            Extendable s.accounts draws.now authSession)
  | _ => True

/-- What the history keeps. -/
structure RotationInv (s : RotationState) : Prop where
  keys : (s.accounts.authSessions.map key).Nodup
  distinct : (s.tokens.map Prod.snd).Nodup
  hashes : ∀ authSession ∈ s.accounts.authSessions, ∃ token,
    latestToken s authSession.id = some token ∧ authSession.refreshTokenHash = hashSecret token
  typed : ∀ issued ∈ s.tokens, ∃ claims,
    issued.2 = jwt.encode claims ∧ claims.typ = some "refresh"
  spentIssued : ∀ token ∈ s.spent, token ∈ s.tokens.map Prod.snd
  spentOld : ∀ token ∈ s.spent, ∀ sessionId, latestToken s sessionId ≠ some token

end System

variable {jwt : Jwt} {hashSecret : String → String} {settings : Settings}
  {s s' : RotationState} {sessionId : RowId} {token : String} {event : CredentialEvent}

@[simp] lemma key_authSession (row : AuthSession) : key row = row.id := rfl

/-! ## The tokens of the sessions -/

lemma mem_of_latestToken (h : latestToken s sessionId = some token) :
    (sessionId, token) ∈ s.tokens := by
  obtain ⟨issued, hfind, rfl⟩ := Option.map_eq_some_iff.mp h
  have howner : issued.1 = sessionId := by simpa using List.find?_some hfind
  exact howner ▸ List.mem_of_find?_eq_some hfind

lemma RotationInv.session_unique (h : RotationInv jwt hashSecret s) {sessionId' : RowId}
    (hmem : (sessionId, token) ∈ s.tokens) (hmem' : (sessionId', token) ∈ s.tokens) :
    sessionId = sessionId' :=
  congrArg Prod.fst (List.inj_on_of_nodup_map h.distinct hmem hmem' rfl)

lemma RotationInv.row_unique (h : RotationInv jwt hashSecret s) {row row' : AuthSession}
    (hrow : row ∈ s.accounts.authSessions) (hrow' : row' ∈ s.accounts.authSessions)
    (hlatest : latestToken s row.id = some token) (hlatest' : latestToken s row'.id = some token) :
    row = row' := by
  refine List.inj_on_of_nodup_map h.keys hrow hrow' ?_
  exact h.session_unique (mem_of_latestToken hlatest) (mem_of_latestToken hlatest')

lemma RotationInv.hash_iff (h : RotationInv jwt hashSecret s)
    (hcollision : NoCollision hashSecret s token) {row : AuthSession}
    (hrow : row ∈ s.accounts.authSessions) :
    row.refreshTokenHash = hashSecret token ↔ latestToken s row.id = some token := by
  obtain ⟨latest, hlatest, hhash⟩ := h.hashes row hrow
  rw [hhash, hlatest, Option.some.injEq]
  exact ⟨hcollision _ (mem_of_latestToken hlatest), congrArg hashSecret⟩

/-! ## What the endpoint reads -/

lemma refresh_eq_ok {accounts accounts' : Accounts} {pair : TokenPair} {draws : TokenDraws} :
    refresh jwt hashSecret settings accounts token draws = .ok (pair, accounts') ↔
      (∃ decoded, jwt.decode draws.now token = some decoded ∧ decoded.typ = some "refresh") ∧
        ∃ row, unrevokedSession hashSecret accounts token = some row ∧
          pair = ⟨createAccessToken jwt settings row.userId draws,
            createRefreshToken jwt settings row.userId draws⟩ ∧
          accounts' = { accounts with
            authSessions := update accounts.authSessions row.id fun session =>
              { session with
                refreshTokenHash :=
                  hashSecret (createRefreshToken jwt settings row.userId draws) } } := by
  unfold refresh unrevokedSession
  cases hdecode : jwt.decode draws.now token with
  | none => simp
  | some decoded =>
    by_cases htyp : decoded.typ = some "refresh"
    · dsimp only
      rw [if_pos htyp]
      cases accounts.authSessions.find? fun authSession =>
          authSession.refreshTokenHash = hashSecret token && authSession.revokedAt.isNone with
      | none => simp
      | some row => simp [htyp, eq_comm]
    · simp [htyp]

lemma RotationInv.unrevokedSession_iff (h : RotationInv jwt hashSecret s)
    (hcollision : NoCollision hashSecret s token) :
    (∃ row, unrevokedSession hashSecret s.accounts token = some row) ↔
      ∃ row ∈ s.accounts.authSessions, latestToken s row.id = some token ∧
        row.revokedAt = none := by
  rw [← Option.isSome_iff_exists, unrevokedSession, List.find?_isSome]
  refine exists_congr fun row => and_congr_right fun hrow => ?_
  rw [Bool.and_eq_true, decide_eq_true_eq, h.hash_iff hcollision hrow, Option.isNone_iff_eq_none]

lemma RotationInv.refresh_iff (h : RotationInv jwt hashSecret s) (hjwt : jwt.Sound)
    (hcollision : NoCollision hashSecret s token) {draws : TokenDraws} :
    (∃ r, refresh jwt hashSecret settings s.accounts token draws = .ok r) ↔
      (jwt.decode draws.now token).isSome ∧
        ∃ row ∈ s.accounts.authSessions, latestToken s row.id = some token ∧
          row.revokedAt = none := by
  rw [← h.unrevokedSession_iff hcollision]
  constructor
  · rintro ⟨⟨pair, accounts'⟩, hrefresh⟩
    obtain ⟨⟨decoded, hdecode, -⟩, row, hrow, -⟩ := refresh_eq_ok.mp hrefresh
    exact ⟨by rw [hdecode]; rfl, row, hrow⟩
  · rintro ⟨hdecode, row, hrow⟩
    obtain ⟨decoded, hdecode⟩ := Option.isSome_iff_exists.mp hdecode
    refine ⟨_, refresh_eq_ok.mpr ⟨⟨decoded, hdecode, ?_⟩, row, hrow, rfl, rfl⟩⟩
    -- the token is the row's, so it was issued as a refresh token
    obtain ⟨row', -, hlatest, -⟩ := (h.unrevokedSession_iff hcollision).mp ⟨row, hrow⟩
    obtain ⟨claims, rfl, htyp⟩ := h.typed _ (mem_of_latestToken hlatest)
    rw [hjwt.decode_encode] at hdecode
    obtain ⟨-, hclaims⟩ := Option.ite_none_right_eq_some.mp hdecode
    exact Option.some.inj hclaims ▸ htyp

lemma issuesIffCurrent_iff (hjwt : jwt.Sound) (h : RotationInv jwt hashSecret s) :
    IssuesIffCurrent jwt hashSecret settings s event ↔
      ExpiresWithSession jwt hashSecret s event := by
  cases event with
  | refresh refreshToken draws =>
    refine forall_congr' fun hcollision => ?_
    rw [h.refresh_iff hjwt hcollision]
    constructor
    · rintro ⟨hiff, -⟩ row hrow hlatest hrevoked
      constructor
      · intro hdecode
        obtain ⟨row', hrow', hlatest', -, hextend⟩ :=
          hiff.mp ⟨hdecode, row, hrow, hlatest, hrevoked⟩
        exact h.row_unique hrow hrow' hlatest hlatest' ▸ hextend
      · intro hextend
        exact (hiff.mpr ⟨row, hrow, hlatest, hrevoked, hextend⟩).1
    · intro hagrees
      refine ⟨⟨?_, ?_⟩, ?_⟩
      · rintro ⟨hdecode, row, hrow, hlatest, hrevoked⟩
        exact ⟨row, hrow, hlatest, hrevoked, (hagrees row hrow hlatest hrevoked).mp hdecode⟩
      · rintro ⟨row, hrow, hlatest, hrevoked, hextend⟩
        exact ⟨(hagrees row hrow hlatest hrevoked).mpr hextend, row, hrow, hlatest, hrevoked⟩
      · rintro ⟨-, row, -, hlatest, -⟩ hspent
        exact h.spentOld refreshToken hspent row.id hlatest
  | _ => exact iff_of_true trivial trivial

/-! ## What the requests keep -/

lemma latestToken_cons {accounts : Accounts} {spent : List String} (owner : RowId) :
    latestToken ⟨accounts, (owner, token) :: s.tokens, spent⟩ sessionId =
      if owner = sessionId then some token else latestToken s sessionId := by
  unfold latestToken
  by_cases howner : owner = sessionId
  · simp [howner]
  · simp [howner]

lemma hand_eq_some {pair : TokenPair} {accounts : Accounts}
    (h : s.hand sessionId pair accounts = some s') :
    pair.refreshToken ∉ s.tokens.map Prod.snd ∧
      s' = ⟨accounts, (sessionId, pair.refreshToken) :: s.tokens, s.spent⟩ := by
  unfold RotationState.hand at h
  by_cases hmem : pair.refreshToken ∈ s.tokens.map Prod.snd
  · rw [if_pos hmem] at h
    cases h
  · rw [if_neg hmem] at h
    exact ⟨hmem, (Option.some.inj h).symm⟩

/-- What a session is known by. -/
def AuthSession.handle (row : AuthSession) : RowId × String := (row.id, row.refreshTokenHash)

lemma RotationInv.congr (h : RotationInv jwt hashSecret s) {accounts : Accounts}
    (hsessions : accounts.authSessions.map AuthSession.handle =
      s.accounts.authSessions.map AuthSession.handle) :
    RotationInv jwt hashSecret { s with accounts := accounts } := by
  refine ⟨?_, h.distinct, ?_, h.typed, h.spentIssued, h.spentOld⟩
  · have hkeys : accounts.authSessions.map key = s.accounts.authSessions.map key := by
      have hfst := congrArg (List.map Prod.fst) hsessions
      rw [List.map_map, List.map_map] at hfst
      exact hfst
    rw [hkeys]
    exact h.keys
  · intro row hrow
    have hmem : row.handle ∈ s.accounts.authSessions.map AuthSession.handle :=
      hsessions ▸ List.mem_map_of_mem hrow
    obtain ⟨row', hrow', hhandle⟩ := List.mem_map.mp hmem
    obtain ⟨hid, hhash⟩ := Prod.mk.inj hhandle
    obtain ⟨latest, hlatest, hlatestHash⟩ := h.hashes row' hrow'
    exact ⟨latest, hid ▸ hlatest, hhash ▸ hlatestHash⟩

lemma RotationInv.opened (h : RotationInv jwt hashSecret s) {accounts : Accounts}
    (row : AuthSession) (hsessions : accounts.authSessions = s.accounts.authSessions ++ [row])
    (hnew : row.id ∉ s.accounts.authSessions.map key)
    (hhash : row.refreshTokenHash = hashSecret token)
    (hfresh : token ∉ s.tokens.map Prod.snd)
    (htyped : ∃ claims, token = jwt.encode claims ∧ claims.typ = some "refresh") :
    RotationInv jwt hashSecret ⟨accounts, (row.id, token) :: s.tokens, s.spent⟩ := by
  refine ⟨?_, ?_, ?_, ?_, ?_, ?_⟩
  · rw [hsessions, List.map_append]
    exact h.keys.append (List.nodup_singleton _) (by simpa using hnew)
  · exact List.nodup_cons.mpr ⟨hfresh, h.distinct⟩
  · rw [hsessions]
    intro old hold
    rcases List.mem_append.mp hold with hold | hold
    · have hne : row.id ≠ old.id := fun heq => hnew (heq ▸ List.mem_map_of_mem hold)
      rw [latestToken_cons, if_neg hne]
      exact h.hashes old hold
    · rw [List.mem_singleton.mp hold, latestToken_cons, if_pos rfl]
      exact ⟨token, rfl, hhash⟩
  · exact List.forall_mem_cons.mpr ⟨htyped, h.typed⟩
  · exact fun old hold => List.mem_cons_of_mem _ (h.spentIssued old hold)
  · intro old hold sessionId
    rw [latestToken_cons]
    split
    · rintro ⟨⟩
      exact hfresh (h.spentIssued _ hold)
    · exact h.spentOld old hold sessionId

lemma RotationInv.rotated (h : RotationInv jwt hashSecret s) {accounts : Accounts} {next : String}
    {row : AuthSession} (hrow : latestToken s row.id = some token)
    (hsessions : accounts.authSessions = update s.accounts.authSessions row.id fun session =>
      { session with refreshTokenHash := hashSecret next })
    (hfresh : next ∉ s.tokens.map Prod.snd)
    (htyped : ∃ claims, next = jwt.encode claims ∧ claims.typ = some "refresh") :
    RotationInv jwt hashSecret ⟨accounts, (row.id, next) :: s.tokens, token :: s.spent⟩ := by
  have hissued : token ∈ s.tokens.map Prod.snd :=
    List.mem_map_of_mem (mem_of_latestToken hrow)
  refine ⟨?_, ?_, ?_, ?_, ?_, ?_⟩
  · have hkeys : accounts.authSessions.map key = s.accounts.authSessions.map key := by
      rw [hsessions]
      exact map_key_update fun _ => rfl
    rw [hkeys]
    exact h.keys
  · exact List.nodup_cons.mpr ⟨hfresh, h.distinct⟩
  · rw [hsessions]
    intro session hsession
    rw [latestToken_cons]
    rcases mem_update.mp hsession with ⟨old, -, hid, rfl⟩ | ⟨hold, hne⟩
    · exact ⟨next, if_pos hid.symm, rfl⟩
    · have hne : ¬ row.id = session.id := Ne.symm hne
      rw [if_neg hne]
      exact h.hashes session hold
  · exact List.forall_mem_cons.mpr ⟨htyped, h.typed⟩
  · refine List.forall_mem_cons.mpr ⟨List.mem_cons_of_mem _ hissued, fun old hold => ?_⟩
    exact List.mem_cons_of_mem _ (h.spentIssued old hold)
  · refine List.forall_mem_cons.mpr ⟨fun sessionId => ?_, fun old hold sessionId => ?_⟩
    · rw [latestToken_cons]
      split
      · rintro ⟨⟩
        exact hfresh hissued
      · next hne =>
        -- the exchanged token was this session's, and no other's
        intro hlatest
        exact hne (h.session_unique (mem_of_latestToken hrow) (mem_of_latestToken hlatest))
    · rw [latestToken_cons]
      split
      · rintro ⟨⟩
        exact hfresh (h.spentIssued _ hold)
      · exact h.spentOld old hold sessionId

lemma ensureRootGroup_authSessions (accounts : Accounts) :
    (ensureRootGroup accounts).authSessions = accounts.authSessions := by
  unfold ensureRootGroup
  split <;> rfl

lemma updateUser_authSessions {accounts accounts' : Accounts} {actor user : User}
    {userId : RowId} {payload : UserUpdate}
    (h : updateUser settings hashSecret accounts actor userId payload = .ok (user, accounts')) :
    accounts'.authSessions = accounts.authSessions := by
  unfold updateUser at h
  cases hget : get accounts.users userId with
  | none =>
    rw [hget] at h
    cases h
  | some found =>
    rw [hget] at h
    obtain ⟨_, -, h⟩ := except_bind_eq_ok.mp h
    have hregrouped : (payload.primaryGroupId.elim accounts fun _ =>
        ensureRootGroup accounts).authSessions = accounts.authSessions := by
      cases payload.primaryGroupId with
      | none => rfl
      | some groupId => exact ensureRootGroup_authSessions accounts
    by_cases hgroup : (payload.primaryGroupId.isSome && !isBootstrapAdmin settings actor) = true
    · rw [if_pos hgroup] at h
      cases h
    rw [if_neg hgroup] at h
    dsimp only at h
    split at h
    · obtain ⟨-, haccounts⟩ := Prod.mk.inj (Except.ok.inj h)
      rw [← haccounts]
      exact hregrouped
    · cases h

lemma logout_handles (accounts : Accounts) (now : Timestamp) :
    (logout hashSecret accounts token now).authSessions.map AuthSession.handle =
      accounts.authSessions.map AuthSession.handle := by
  unfold logout
  split
  · rfl
  · dsimp only
    rw [update, List.map_map]
    refine List.map_congr_left fun row _ => ?_
    rw [Function.comp_apply]
    split <;> rfl

lemma RotationInv.signIn (settings : Settings) (h : RotationInv jwt hashSecret s)
    {draws : TokenDraws} {r : Except HttpError (TokenPair × Accounts)}
    (hr : ∀ result, r = .ok result → ∃ accounts userId,
      accounts.authSessions = s.accounts.authSessions ∧
      result = issueTokenPair jwt hashSecret settings accounts userId draws)
    (hs : s.signIn draws r = some s') : RotationInv jwt hashSecret s' := by
  cases r with
  | error error =>
    cases hs
    exact h
  | ok result =>
    obtain ⟨accounts, userId, hsessions, rfl⟩ := hr result rfl
    unfold RotationState.signIn issueTokenPair at hs
    dsimp only at hs
    by_cases hnew : draws.sessionId ∈ s.accounts.authSessions.map key
    · rw [if_pos hnew] at hs
      cases hs
    · rw [if_neg hnew] at hs
      obtain ⟨hfresh, rfl⟩ := hand_eq_some hs
      refine h.opened
        { id := draws.sessionId
          userId := userId
          refreshTokenHash := hashSecret (createRefreshToken jwt settings userId draws)
          expiresAt := draws.now + settings.refreshTokenExpireMinutes * 60 * 1000000 }
        ?_ hnew rfl hfresh ⟨refreshClaims settings userId draws, rfl, rfl⟩
      rw [hsessions]

lemma rotationInv_step (h : RotationInv jwt hashSecret s)
    (hs : rotationStep jwt hashSecret settings s event = some s') :
    RotationInv jwt hashSecret s' := by
  cases event with
  | login username password draws =>
    refine h.signIn settings (fun result hlogin => ?_) hs
    obtain ⟨user, -, -, heq⟩ := login_spec hlogin
    exact ⟨s.accounts, user.id, rfl, heq⟩
  | register payload newId draws =>
    refine h.signIn settings (fun result hregister => ?_) hs
    obtain ⟨inviteCode, userRole, -, -, -, -, heq⟩ := register_spec hregister
    exact ⟨registerUser hashSecret s.accounts payload inviteCode userRole newId, newId,
      ensureRootGroup_authSessions s.accounts, heq⟩
  | refresh refreshToken draws =>
    obtain ⟨hcollision, hs⟩ := Option.ite_none_right_eq_some.mp hs
    cases hrefresh : refresh jwt hashSecret settings s.accounts refreshToken draws with
    | error error =>
      rw [hrefresh] at hs
      cases hs
      exact h
    | ok result =>
      rw [hrefresh] at hs
      obtain ⟨row, hrow, hs⟩ := Option.bind_eq_some_iff.mp hs
      obtain ⟨hfresh, rfl⟩ := hand_eq_some hs
      obtain ⟨-, row', hrow', hpair, haccounts⟩ := refresh_eq_ok.mp hrefresh
      cases hrow.symm.trans hrow'
      have hmem := List.mem_of_find?_eq_some hrow
      have hhash := List.find?_some hrow
      rw [Bool.and_eq_true, decide_eq_true_eq] at hhash
      have hlatest := (h.hash_iff hcollision hmem).mp hhash.1
      refine h.rotated hlatest ?_ hfresh ⟨refreshClaims settings row.userId draws, ?_, rfl⟩
      · rw [haccounts, hpair]
      · rw [hpair]
        rfl
  | logout refreshToken now =>
    cases hs
    exact h.congr (logout_handles s.accounts now)
  | updateUser actor userId payload =>
    cases hupdate : updateUser settings hashSecret s.accounts actor userId payload with
    | error error =>
      rw [rotationStep, hupdate] at hs
      cases hs
      exact h
    | ok result =>
      rw [rotationStep, hupdate] at hs
      cases hs
      exact h.congr (congrArg (List.map _) (updateUser_authSessions hupdate))

lemma rotationInv_nil {accounts : Accounts} (h : accounts.authSessions = []) :
    RotationInv jwt hashSecret ⟨accounts, [], []⟩ := by
  refine ⟨?_, List.nodup_nil, ?_, by simp, by simp, by simp⟩
  · rw [h]
    exact List.nodup_nil
  · rw [h]
    simp

/-- In every history of the endpoints that starts without sessions, a refresh issues new tokens if
and only if it is given the current token of a session that may go on, and never to one token twice;
if and only if the most recent token of an unrevoked session is presented only while it and the
session with its user are both good, or both not. -/
theorem issuesIffCurrent_iff_expiresWithSession (hjwt : jwt.Sound) {accounts : Accounts}
    {events : List CredentialEvent} (hsessions : accounts.authSessions = []) :
    StepsMeet (rotationStep jwt hashSecret settings) (IssuesIffCurrent jwt hashSecret settings)
        ⟨accounts, [], []⟩ events ↔
      StepsMeet (rotationStep jwt hashSecret settings) (ExpiresWithSession jwt hashSecret)
        ⟨accounts, [], []⟩ events :=
  stepsMeet_congr (RotationInv jwt hashSecret) (fun _ _ _ h hs => rotationInv_step h hs)
    (fun _ _ h => issuesIffCurrent_iff hjwt h) (rotationInv_nil hsessions)

/-! ## A user who signs in -/

/-- The row the first login leaves. -/
def firstSession : AuthSession where
  id := "s1"
  userId := "u1"
  refreshTokenHash := createRefreshToken lengthJwt {} "u1" firstDraws
  expiresAt := 604800000000

def signedIn : RotationState where
  accounts := { oneUser.accounts with authSessions := [firstSession] }
  tokens := [("s1", createRefreshToken lengthJwt {} "u1" firstDraws)]

lemma step_signedIn : rotationStep lengthJwt id {} ⟨oneUser.accounts, [], []⟩
    (.login "ann" "secret" firstDraws) = some signedIn := rfl

/-- The draws of a refresh an hour later. -/
def laterDraws : TokenDraws :=
  { now := 3600000000, accessJti := "j3", refreshJti := "j4", sessionId := "" }

lemma decode_firstToken :
    (lengthJwt.decode laterDraws.now (createRefreshToken lengthJwt {} "u1" firstDraws)).isSome := by
  have hexp : laterDraws.now < (refreshClaims {} "u1" firstDraws).exp * 1000000 := by decide
  rw [createRefreshToken, lengthJwt_sound.decode_encode, if_pos hexp]
  rfl

theorem signedIn_issuesIffCurrent :
    StepsMeet (rotationStep lengthJwt id {}) (IssuesIffCurrent lengthJwt id {})
      ⟨oneUser.accounts, [], []⟩
      [.login "ann" "secret" firstDraws,
        .refresh (createRefreshToken lengthJwt {} "u1" firstDraws) laterDraws] := by
  refine (issuesIffCurrent_iff_expiresWithSession lengthJwt_sound rfl).mpr ?_
  refine ⟨trivial, ?_⟩
  rw [step_signedIn]
  refine ⟨fun _ row hrow _ _ => ?_, ?_⟩
  · cases List.mem_singleton.mp hrow
    have hextend : Extendable signedIn.accounts laterDraws.now firstSession :=
      ⟨by decide, { id := "u1", username := "ann", passwordHash := "secret" }, rfl, rfl⟩
    exact iff_of_true decode_firstToken hextend
  · cases rotationStep lengthJwt id {} signedIn _ <;> trivial

/-- The same user, deactivated. -/
def deactivated : RotationState where
  accounts := { users := [{ id := "u1", username := "ann", passwordHash := "secret"
                            isActive := false }]
                authSessions := [firstSession] }
  tokens := [("s1", createRefreshToken lengthJwt {} "u1" firstDraws)]

lemma step_deactivated : rotationStep lengthJwt id {} signedIn
    (.updateUser { id := "u0", username := "root", passwordHash := "" } "u1"
      { isActive := some false }) = some deactivated := rfl

/-- An hour after the login the deactivated user goes on with the token. -/
theorem deactivated_not_issuesIffCurrent :
    ¬ ∀ events, StepsMeet (rotationStep lengthJwt id {}) (IssuesIffCurrent lengthJwt id {})
      ⟨oneUser.accounts, [], []⟩ events := by
  intro h
  have hsteps := h [.login "ann" "secret" firstDraws,
    .updateUser { id := "u0", username := "root", passwordHash := "" } "u1"
      { isActive := some false },
    .refresh (createRefreshToken lengthJwt {} "u1" firstDraws) laterDraws]
  rw [stepsMeet_cons_of_step step_signedIn, stepsMeet_cons_of_step step_deactivated] at hsteps
  have hinv : RotationInv lengthJwt id deactivated :=
    rotationInv_step (rotationInv_step (rotationInv_nil rfl) step_signedIn) step_deactivated
  have hexpires := (issuesIffCurrent_iff lengthJwt_sound hinv).mp hsteps.2.2.1
  have hextend := (hexpires (fun _ _ => id) firstSession (List.mem_singleton.mpr rfl) rfl rfl).mp
    decode_firstToken
  obtain ⟨-, user, huser, hactive⟩ := hextend
  cases huser
  cases hactive

end CocoonSit
