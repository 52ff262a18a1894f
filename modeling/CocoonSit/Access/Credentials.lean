import CocoonSit.Access.Sessions
import CocoonSit.Lib.Run
import Mathlib.Logic.Equiv.List

/-!
# What a token opens

The history of the sign-in endpoints: logins, registrations, refreshes, logouts, and the updates
of users that (de)activate them.  Next to the tables the state remembers every token ever handed
out, and what it was handed out as.  Tokens are presented by whoever holds any text; the one
assumption on them is that a text that decodes was handed out by these endpoints, since nobody else
has the key.
-/

namespace CocoonSit

open Table TransitionSystem

inductive TokenKind where
  | access | refresh
deriving DecidableEq

/-- The tables, and the tokens handed out so far. -/
structure CredentialState where
  accounts : Accounts
  issued : List (TokenKind × String) := []

inductive CredentialEvent where
  | login (username password : String) (draws : TokenDraws)
  | register (payload : RegisterRequest) (newId : RowId) (draws : TokenDraws)
  | refresh (refreshToken : String) (draws : TokenDraws)
  | logout (refreshToken : String) (now : Timestamp)
  | updateUser (actor : User) (userId : RowId) (payload : UserUpdate)

section System

variable (jwt : Jwt) (hashSecret : String → String) (settings : Settings)

/-- A text that decodes is a token handed out before. -/
def Unforged (s : CredentialState) (now : Timestamp) (token : String) : Prop :=
  (jwt.decode now token).isSome → token ∈ s.issued.map Prod.snd

instance (s : CredentialState) (now : Timestamp) (token : String) :
    Decidable (Unforged jwt s now token) :=
  inferInstanceAs (Decidable (_ → _))

/-- The pair is handed out; a request that fails changes nothing. -/
def CredentialState.hand (s : CredentialState) :
    Except HttpError (TokenPair × Accounts) → CredentialState
  | .ok (pair, accounts) =>
    { accounts := accounts
      issued := s.issued ++ [(.access, pair.accessToken), (.refresh, pair.refreshToken)] }
  | .error _ => s

def credentialStep (s : CredentialState) : CredentialEvent → Option CredentialState
  | .login username password draws =>
    some (s.hand (login jwt hashSecret settings s.accounts username password draws))
  | .register payload newId draws =>
    some (s.hand (register jwt hashSecret settings s.accounts payload newId draws))
  | .refresh refreshToken draws =>
    if Unforged jwt s draws.now refreshToken then
      some (s.hand (refresh jwt hashSecret settings s.accounts refreshToken draws))
    else none
  | .logout refreshToken now =>
    some { s with accounts := logout hashSecret s.accounts refreshToken now }
  | .updateUser actor userId payload =>
    match updateUser settings hashSecret s.accounts actor userId payload with
    | .ok (_, accounts) => some { s with accounts := accounts }
    | .error _ => some s

/-- The token is an unexpired access token of the user, who is active. -/
structure AccessTokenOf (s : CredentialState) (now : Timestamp) (token : String) (user : User) :
    Prop where
  issued : (.access, token) ∈ s.issued
  unexpired : ∃ claims, jwt.decode now token = some claims ∧ claims.sub = some user.id
  active : user ∈ s.accounts.users ∧ user.isActive = true

/-- What the API promises of a token presented at a time. -/
structure CredentialSafe (s : CredentialState) (now : Timestamp) (token : String) : Prop where
  api : ∀ user, resolveActiveUser jwt s.accounts now token = .ok user →
    AccessTokenOf jwt s now token user
  websocket : ∀ user, resolveActiveWebsocketUser jwt s.accounts now token = .ok user →
    AccessTokenOf jwt s now token user
  /-- No refresh token is a credential, whatever became of its session. -/
  notRefresh : (.refresh, token) ∈ s.issued →
    ∀ user, resolveActiveUser jwt s.accounts now token ≠ .ok user ∧
      resolveActiveWebsocketUser jwt s.accounts now token ≠ .ok user
  /-- No token is accepted at both ends, be it at different times. -/
  notBoth : ∀ draws r, refresh jwt hashSecret settings s.accounts token draws = .ok r →
    ∀ user, resolveActiveUser jwt s.accounts now token ≠ .ok user

/-- An unexpired refresh token of an active user. -/
def LiveRefreshToken (s : CredentialState) (now : Timestamp) (token : String) : Prop :=
  ∃ claims userId user, jwt.decode now token = some claims ∧ claims.typ = some "refresh" ∧
    claims.sub = some userId ∧ userId ≠ "" ∧ get s.accounts.users userId = some user ∧
    user.isActive = true

end System

variable {jwt : Jwt} {hashSecret : String → String} {settings : Settings}
  {s s' s₀ : CredentialState} {now : Timestamp} {token : String} {e : CredentialEvent}
  {es : List CredentialEvent}

/-! ## Every token handed out carries the claim of its kind -/

/-- What `typ` holds in a token of the kind. -/
def TokenKind.typ : TokenKind → Option String
  | .access => none
  | .refresh => some "refresh"

def IssuedTyped (jwt : Jwt) (s : CredentialState) : Prop :=
  ∀ kind token, (kind, token) ∈ s.issued →
    ∃ claims, token = jwt.encode claims ∧ claims.typ = kind.typ

lemma IssuedTyped.hand (settings : Settings) (h : IssuedTyped jwt s)
    {r : Except HttpError (TokenPair × Accounts)}
    (hr : ∀ pair accounts, r = .ok (pair, accounts) → ∃ userId draws, pair =
      ⟨createAccessToken jwt settings userId draws, createRefreshToken jwt settings userId draws⟩) :
    IssuedTyped jwt (s.hand r) := by
  cases r with
  | error e => exact h
  | ok p =>
    obtain ⟨userId, draws, hpair⟩ := hr p.1 p.2 rfl
    intro kind token hmem
    rcases List.mem_append.mp hmem with hmem | hmem
    · exact h kind token hmem
    · rw [hpair] at hmem
      simp only [List.mem_cons, Prod.mk.injEq, List.not_mem_nil, or_false] at hmem
      rcases hmem with ⟨rfl, rfl⟩ | ⟨rfl, rfl⟩
      · exact ⟨accessClaims settings userId draws, rfl, rfl⟩
      · exact ⟨refreshClaims settings userId draws, rfl, rfl⟩

lemma issuedTyped_step (h : IssuedTyped jwt s)
    (hs : credentialStep jwt hashSecret settings s e = some s') : IssuedTyped jwt s' := by
  cases e with
  | login username password draws =>
    cases hs
    refine h.hand settings fun pair accounts hr => ?_
    obtain ⟨user, -, -, heq⟩ := login_spec hr
    exact ⟨user.id, draws, congrArg Prod.fst heq⟩
  | register payload newId draws =>
    cases hs
    refine h.hand settings fun pair accounts hr => ?_
    obtain ⟨_, _, -, -, -, -, heq⟩ := register_spec hr
    exact ⟨newId, draws, congrArg Prod.fst heq⟩
  | refresh refreshToken draws =>
    obtain ⟨-, hs⟩ := Option.ite_none_right_eq_some.mp hs
    cases hs
    refine h.hand settings fun pair accounts hr => ?_
    obtain ⟨_, -, -, ⟨authSession, -, -, hpair⟩, -⟩ := refresh_spec hr
    exact ⟨authSession.userId, draws, hpair⟩
  | logout refreshToken now =>
    cases hs
    exact h
  | updateUser actor userId payload =>
    unfold credentialStep at hs
    dsimp only at hs
    cases hupdate : updateUser settings hashSecret s.accounts actor userId payload with
    | error error =>
      rw [hupdate] at hs
      cases hs
      exact h
    | ok r =>
      rw [hupdate] at hs
      cases hs
      exact h

lemma issuedTyped_run (h₀ : s₀.issued = [])
    (hrun : run (credentialStep jwt hashSecret settings) s₀ es = some s) : IssuedTyped jwt s := by
  refine invariant_run (IssuedTyped jwt) (fun _ _ _ => issuedTyped_step) ?_ hrun
  intro kind token hmem
  rw [h₀] at hmem
  cases hmem

lemma decode_of_issued (hjwt : jwt.Sound) (h : IssuedTyped jwt s) {kind : TokenKind}
    (hmem : (kind, token) ∈ s.issued) {claims : TokenClaims}
    (hdecode : jwt.decode now token = some claims) : claims.typ = kind.typ := by
  obtain ⟨claims', rfl, htyp⟩ := h kind token hmem
  rw [hjwt.decode_encode] at hdecode
  obtain ⟨-, hclaims⟩ := Option.ite_none_right_eq_some.mp hdecode
  exact Option.some.inj hclaims ▸ htyp

/-! ## The property holds of every token but the live refresh tokens -/

lemma accessTokenOf_of_resolve (hjwt : jwt.Sound) (h : IssuedTyped jwt s)
    (hunforged : Unforged jwt s now token) (hlive : ¬ LiveRefreshToken jwt s now token)
    {user : User} (hresolve : resolveActiveUser jwt s.accounts now token = .ok user) :
    AccessTokenOf jwt s now token user := by
  obtain ⟨claims, userId, hdecode, hsub, hne, hget, hactive⟩ :=
    resolveActiveUser_eq_ok.mp hresolve
  obtain ⟨⟨kind, token'⟩, hmem, rfl⟩ := List.mem_map.mp (hunforged (by rw [hdecode]; rfl))
  have htyp := decode_of_issued hjwt h hmem hdecode
  cases kind with
  | refresh => exact absurd ⟨claims, userId, user, hdecode, htyp, hsub, hne, hget, hactive⟩ hlive
  | access =>
    refine ⟨hmem, ⟨claims, hdecode, ?_⟩, mem_of_get hget, hactive⟩
    have hkey : user.id = userId := key_of_get hget
    rw [hsub, hkey]

/-- In every history, and of every text presented at any time: the promises hold exactly when the
text is no unexpired refresh token of an active user. -/
theorem credentialSafe_iff (hjwt : jwt.Sound) (h₀ : s₀.issued = [])
    (hrun : run (credentialStep jwt hashSecret settings) s₀ es = some s)
    (hunforged : Unforged jwt s now token) :
    CredentialSafe jwt hashSecret settings s now token ↔ ¬ LiveRefreshToken jwt s now token := by
  have htyped := issuedTyped_run h₀ hrun
  constructor
  · rintro hsafe ⟨claims, userId, user, hdecode, htyp, hsub, hne, hget, hactive⟩
    have hresolve := resolveActiveUser_eq_ok.mpr ⟨claims, userId, hdecode, hsub, hne, hget, hactive⟩
    have haccess := decode_of_issued hjwt htyped (hsafe.api user hresolve).issued hdecode
    rw [htyp] at haccess
    cases haccess
  · intro hlive
    have hapi : ∀ user, resolveActiveUser jwt s.accounts now token = .ok user →
        AccessTokenOf jwt s now token user :=
      fun _ => accessTokenOf_of_resolve hjwt htyped hunforged hlive
    -- a token that one end takes for an access token decodes without the claim
    have hnot : ∀ user, resolveActiveUser jwt s.accounts now token = .ok user →
        ∀ now' claims, jwt.decode now' token = some claims → claims.typ ≠ some "refresh" := by
      intro user hresolve now' claims hdecode htyp
      rw [decode_of_issued hjwt htyped (hapi user hresolve).issued hdecode] at htyp
      cases htyp
    refine ⟨hapi, fun user hresolve => hapi user (resolveActiveWebsocketUser_eq_ok.mp hresolve),
      fun hmem user => ?_, fun draws r hrefresh user hresolve => ?_⟩
    · have hno : resolveActiveUser jwt s.accounts now token ≠ .ok user := by
        intro hresolve
        obtain ⟨claims, hdecode, -⟩ := (hapi user hresolve).unexpired
        exact hnot user hresolve now claims hdecode (decode_of_issued hjwt htyped hmem hdecode)
      exact ⟨hno, fun hresolve => hno (resolveActiveWebsocketUser_eq_ok.mp hresolve)⟩
    · obtain ⟨pair, accounts⟩ := r
      obtain ⟨claims, hdecode, htyp, -⟩ := refresh_spec hrefresh
      exact hnot user hresolve draws.now claims hdecode htyp

/-! ## A login -/

/-- Texts as codes of characters. -/
def textCode (text : String) : List ℕ := text.toList.map Char.toNat

/-- An encoding to stand in for the library's: a token is as long as the number of its claims. -/
def lengthJwt : Jwt where
  encode claims := String.ofList (List.replicate (Encodable.encode
    (claims.sub.map textCode, claims.typ.map textCode, claims.exp, textCode claims.jti)) 'x')
  decode now token :=
    ((Encodable.decode token.length :
      Option (Option (List ℕ) × Option (List ℕ) × ℕ × List ℕ)).map fun
        | (sub, typ, exp, jti) =>
          { sub := sub.map fun code => String.ofList (code.map Char.ofNat)
            typ := typ.map fun code => String.ofList (code.map Char.ofNat)
            exp := exp
            jti := String.ofList (jti.map Char.ofNat) }).filter
        fun claims : TokenClaims => now < claims.exp * 1000000

lemma ofList_textCode (text : String) :
    String.ofList ((textCode text).map Char.ofNat) = text := by
  simp [textCode, Function.comp_def]

lemma lengthJwt_sound : lengthJwt.Sound := by
  refine ⟨fun now claims => ?_⟩
  obtain ⟨sub, typ, exp, jti⟩ := claims
  simp only [lengthJwt, String.length_ofList, List.length_replicate, Encodable.encodek,
    Option.map_some, Option.map_map, Function.comp_def, ofList_textCode, Option.map_id']
  by_cases h : now < exp * 1000000 <;> simp [h, Option.filter]

/-- One user, with a hash that shows the secret. -/
def oneUser : CredentialState where
  accounts := { users := [{ id := "u1", username := "ann", passwordHash := "secret" }] }

def firstDraws : TokenDraws :=
  { now := 0, accessJti := "j1", refreshJti := "j2", sessionId := "s1" }

def loggedIn : CredentialState :=
  oneUser.hand (.ok (issueTokenPair lengthJwt id {} oneUser.accounts "u1" firstDraws))

lemma run_loggedIn : run (credentialStep lengthJwt id {}) oneUser
    [.login "ann" "secret" firstDraws] = some loggedIn := rfl

/-- After a login the access token is safe. -/
theorem accessToken_credentialSafe :
    CredentialSafe lengthJwt id {} loggedIn 0 (createAccessToken lengthJwt {} "u1" firstDraws) := by
  refine (credentialSafe_iff lengthJwt_sound rfl run_loggedIn fun _ => ?_).mpr ?_
  · exact List.mem_cons_self
  · rintro ⟨claims, userId, user, hdecode, htyp, -⟩
    rw [createAccessToken, lengthJwt_sound.decode_encode] at hdecode
    obtain ⟨-, hclaims⟩ := Option.ite_none_right_eq_some.mp hdecode
    rw [← Option.some.inj hclaims] at htyp
    cases htyp

/-- After a login the refresh token, presented to the API, resolves to the user. -/
theorem refreshToken_not_credentialSafe :
    run (credentialStep lengthJwt id {}) oneUser [.login "ann" "secret" firstDraws] =
        some loggedIn ∧
      Unforged lengthJwt loggedIn 0 (createRefreshToken lengthJwt {} "u1" firstDraws) ∧
      ¬ CredentialSafe lengthJwt id {} loggedIn 0
        (createRefreshToken lengthJwt {} "u1" firstDraws) := by
  refine ⟨run_loggedIn, fun _ => List.mem_cons_of_mem _ List.mem_cons_self, fun hsafe => ?_⟩
  have hmem : (.refresh, createRefreshToken lengthJwt {} "u1" firstDraws) ∈ loggedIn.issued :=
    List.mem_cons_of_mem _ List.mem_cons_self
  have hresolve : resolveActiveUser lengthJwt loggedIn.accounts 0
      (createRefreshToken lengthJwt {} "u1" firstDraws) =
      .ok { id := "u1", username := "ann", passwordHash := "secret" } := by
    refine resolveActiveUser_eq_ok.mpr ⟨refreshClaims {} "u1" firstDraws, "u1", ?_, rfl, by decide,
      rfl, rfl⟩
    rw [createRefreshToken, lengthJwt_sound.decode_encode]
    exact if_pos (by decide)
  exact (hsafe.notRefresh hmem _).1 hresolve

end CocoonSit
