import CocoonSit.Plugins.ImRpc
import CocoonSit.Plugins.ManagerIsolation

/-!
# When an RPC request is atomic

A request is to be answered once: with `ok` when its changes are in the database, without it when
the database is as it was.  Five of the seven methods check first and write afterwards, and what
they raise once they write comes of a refused flush.  The other two do not: `create_chat_group`
reads the initial members when the room is there, and `verify_user_binding` revokes what has lapsed
before it looks for the token.  The answer of every method stands before the commit.
-/

namespace CocoonSit

open Table PluginRuntimeManager SessionM

namespace ImRpc

section Spec

variable (out : RpcOutside)

/-- A request with this id, handled as one unit. -/
def Atomic (requestId : String) (t : ImTables) (handled : Handled) : Prop :=
  ∃ r, handled.responses = [r] ∧ r.requestId = requestId ∧
    (r.ok = true → handled.stored = handled.work) ∧ (r.ok = false → handled.stored = t)

/-- Someone asks, and can be answered. -/
structure Answerable (plugin : Option PluginDefinition) (version : Option PluginVersion)
    (handle : Option DaemonHandle) (message : JsonDict) : Prop where
  plugin : plugin.isSome
  version : version.isSome
  runState : out.refused .runState = false
  payload : (dictOf (message "payload")).isOk
  requestId : field out message "request_id" ≠ ""
  queue : handle.any DaemonHandle.hasInboundQueue

/-- A request for a new room passes its checks and the insert, and does not list its members. -/
def LosesMembers (t : ImTables) (method : String) (request : JsonDict) : Prop :=
  method = "create_chat_group" ∧ (newChatGroup out t request).isOk ∧
    out.refused .target = false ∧ (initialMemberIds out request).isOk = false

/-- A token is given for an active user and is none of theirs, and there are tokens to revoke. -/
def RejectsAfterPruning (t : ImTables) (method : String) (request : JsonDict) : Prop :=
  method = "verify_user_binding" ∧
    ∃ user, userToVerify out t request = .ok user ∧
      verifiedToken out t.bindTokens user.id request = none ∧
        ∃ row ∈ t.bindTokens, row.Lapsed out.now

/-- A request that gets through, and changes a row. -/
def Writes (t : ImTables) (pluginId : RowId) (method : String) (request : JsonDict) : Prop :=
  (method = "create_cocoon" ∧ (newCocoon out t request).isOk ∧ out.refused .target = false ∧
      out.refused .sessionState = false ∧ out.refused .last = false) ∨
    (method = "create_chat_group" ∧ (newChatGroup out t request).isOk ∧
      (initialMemberIds out request).isOk ∧ out.refused .target = false ∧
        out.refused .sessionState = false ∧ out.refused .last = false) ∨
    (method = "verify_user_binding" ∧ out.refused .last = false ∧
      ∃ user token, userToVerify out t request = .ok user ∧
        verifiedToken out t.bindTokens user.id request = some token ∧
          ∃ row ∈ t.bindTokens, row.Lapsed out.now ∨
            (row.id = token.id ∧ row.lastValidatedAt ≠ some out.now)) ∨
    (method = "upsert_im_target_route" ∧ out.refused .last = false ∧
      ∃ conversation target, routeToUpsert out t request = .ok (conversation, target) ∧
        ∀ route, findRoute t.imTargetRoutes pluginId conversation = some route →
          ∃ r ∈ t.imTargetRoutes, r.id = route.id ∧ r.retargeted target ≠ r) ∨
    (method = "delete_im_target_route" ∧ out.refused .last = false ∧
      ∃ conversation, requireConversation out request = .ok conversation ∧
        (findRoute t.imTargetRoutes pluginId conversation).isSome)

/-- Nothing comes between a request's changes and its answer. -/
def Undisturbed (t : ImTables) (pluginId : RowId) (method : String) (request : JsonDict) : Prop :=
  if out.commitRefused then ¬ Writes out t pluginId method request
  else ¬ LosesMembers out t method request ∧ ¬ RejectsAfterPruning out t method request

end Spec

/-! ## What the methods leave -/

variable {out : RpcOutside} {t : ImTables} {pluginId : RowId} {request : JsonDict}

lemma readOnly_list_targets : ReadOnly (rpcListAccessibleTargets out request) :=
  readOnly_work.bind fun _ => (readOnly_check _).bind fun _ => readOnly_pure _

lemma readOnly_list_characters : ReadOnly (rpcListAccessibleCharacters out request) :=
  readOnly_work.bind fun _ => (readOnly_check _).bind fun _ => readOnly_pure _

lemma tight_flushAt (point : FlushPoint) : Tight (flushAt out point) := tight_flush _ _

lemma sound_flushAt (point : FlushPoint) : Sound (flushAt out point) := sound_flush _ _

lemma clean_createCocoon : Clean (rpcCreateCocoon out request) := by
  refine readOnly_work.clean_bind fun t => (readOnly_check _).clean_bind fun ⟨owner, cocoon⟩ => ?_
  refine Tight.clean ((tight_change _).bind fun _ => ?_)
  refine (tight_flushAt _).bind fun _ => (tight_change _).bind fun _ => ?_
  exact (tight_flushAt _).bind fun _ => (tight_flushAt _).bind fun _ => tight_pure _

lemma clean_upsertRoute : Clean (rpcUpsertImTargetRoute out pluginId request) := by
  refine readOnly_work.clean_bind fun t => (readOnly_check _).clean_bind fun ⟨conv, target⟩ => ?_
  refine Tight.clean ((tight_change _).bind fun _ => ?_)
  exact (tight_flushAt _).bind fun _ => tight_pure _

lemma clean_deleteRoute : Clean (rpcDeleteImTargetRoute out pluginId request) := by
  refine readOnly_work.clean_bind fun t => (readOnly_check _).clean_bind fun conversation => ?_
  cases findRoute t.imTargetRoutes pluginId conversation with
  | none => exact (tight_pure _).clean
  | some route =>
    exact Tight.clean ((tight_change _).bind fun _ => (tight_flushAt _).bind fun _ =>
      tight_pure _)

lemma sound_rpcMethod (method : String) : Sound (rpcMethod out pluginId method request) := by
  have hflush : ∀ point, Sound (flushAt out point) := sound_flushAt
  unfold rpcMethod
  split_ifs
  · refine readOnly_work.sound.bind fun t => (readOnly_check _).sound.bind fun ⟨owner, cocoon⟩ => ?_
    refine (sound_change _).bind fun _ => (hflush _).bind fun _ => (sound_change _).bind fun _ => ?_
    exact (hflush _).bind fun _ => (hflush _).bind fun _ => sound_pure _
  · refine readOnly_work.sound.bind fun t => (readOnly_check _).sound.bind fun ⟨owner, room⟩ => ?_
    refine (sound_change _).bind fun _ => (hflush _).bind fun _ => (sound_change _).bind fun _ => ?_
    refine (readOnly_check _).sound.bind fun ids => (sound_change _).bind fun _ => ?_
    refine (sound_change _).bind fun _ => (hflush _).bind fun _ => ?_
    exact (hflush _).bind fun _ => sound_pure _
  · refine readOnly_work.sound.bind fun t => (readOnly_check _).sound.bind fun user => ?_
    refine (sound_change _).bind fun _ => ?_
    cases verifiedToken out t.bindTokens user.id request with
    | none => exact (readOnly_check _).sound
    | some token =>
      exact (sound_change _).bind fun _ => (hflush _).bind fun _ => sound_pure _
  · exact readOnly_list_targets.sound
  · exact readOnly_list_characters.sound
  · refine readOnly_work.sound.bind fun t => (readOnly_check _).sound.bind fun ⟨conv, target⟩ => ?_
    exact (sound_change _).bind fun _ => (hflush _).bind fun _ => sound_pure _
  · refine readOnly_work.sound.bind fun t => (readOnly_check _).sound.bind fun conversation => ?_
    cases findRoute t.imTargetRoutes pluginId conversation with
    | none => exact sound_pure _
    | some route => exact (sound_change _).bind fun _ => (hflush _).bind fun _ => sound_pure _
  · exact (readOnly_check _).sound

/-! ## Exceptions that leave something behind -/

lemma commit_accepted {stored work : ImTables} :
    committed stored false { work := work } = work := rfl

lemma commit_refused {stored : ImTables} (s : Session ImTables) :
    committed stored true s = stored := by
  simp [committed]

lemma commit_broken {stored work : ImTables} (refused : Bool) :
    committed stored refused { work := work, broken := true } = stored := rfl

lemma addRoom_ne (room : ChatGroupRoom) (rows : List ChatGroupMember) :
    (t.addRoom room).addMembers rows ≠ t := by
  intro h
  have hlength := congrArg (fun t : ImTables => t.db.rooms.length) h
  simp [ImTables.addRoom, ImTables.addMembers] at hlength

lemma pruneExpiredTokens_eq_iff {now : Timestamp} :
    t.pruneExpiredTokens now = t ↔ ∀ row ∈ t.bindTokens, ¬ row.Lapsed now := by
  have hmap : t.pruneExpiredTokens now = t ↔ (t.bindTokens.map fun row =>
      if row.Lapsed now then { row with revokedAt := some now } else row) = t.bindTokens :=
    ⟨fun h => congrArg ImTables.bindTokens h, fun h => by rw [ImTables.pruneExpiredTokens, h]⟩
  rw [hmap, map_eq_self_iff]
  refine forall₂_congr fun row _ => ⟨fun h hlapsed => ?_, fun h => if_neg h⟩
  rw [if_pos hlapsed] at h
  have hnone : row.revokedAt = none := hlapsed.1
  rw [← h] at hnone
  cases hnone

lemma createChatGroup_error_iff {e : PyError} {s' : Session ImTables}
    (h : run (rpcCreateChatGroup out request) { work := t } = (.error e, s')) :
    committed t out.commitRefused s' = t ↔
      (out.commitRefused = false → ¬ LosesMembers out t "create_chat_group" request) := by
  simp only [rpcCreateChatGroup, run_work_bind, flushAt] at h
  cases hnew : newChatGroup out t request with
  | error e' =>
    rw [hnew, run_check_error_bind] at h
    cases h
    refine iff_of_true ?_ fun _ ⟨_, hok, _⟩ => ?_
    · cases hrefused : out.commitRefused <;> rfl
    · rw [hnew] at hok
      cases hok
  | ok created =>
    obtain ⟨owner, room⟩ := created
    rw [hnew, run_check_ok_bind] at h
    simp only [run_change_bind] at h
    cases htarget : out.refused .target with
    | true =>
      rw [htarget, run_flush_refused_bind] at h
      cases h
      refine iff_of_true (commit_broken _) fun _ ⟨_, _, hflush, _⟩ => ?_
      rw [htarget] at hflush
      cases hflush
    | false =>
      rw [htarget, run_flush_accepted_bind, run_change_bind] at h
      cases hids : initialMemberIds out request with
      | error e' =>
        -- the room and its owner's row stay in the session
        rw [hids, run_check_error_bind] at h
        cases h
        have hlost : LosesMembers out t "create_chat_group" request :=
          ⟨rfl, by rw [hnew]; rfl, htarget, by rw [hids]; rfl⟩
        cases hrefused : out.commitRefused with
        | true => exact iff_of_true (commit_refused _) fun h => by cases h
        | false => exact iff_of_false (addRoom_ne room _) fun h => h rfl hlost
      | ok ids =>
        rw [hids, run_check_ok_bind] at h
        simp only [run_change_bind] at h
        refine iff_of_true ?_ fun _ ⟨_, _, _, hfail⟩ => ?_
        · cases hstate : out.refused .sessionState with
          | true =>
            rw [hstate, run_flush_refused_bind] at h
            cases h
            exact commit_broken _
          | false =>
            rw [hstate, run_flush_accepted_bind] at h
            cases hlast : out.refused .last with
            | true =>
              rw [hlast, run_flush_refused_bind] at h
              cases h
              exact commit_broken _
            | false =>
              rw [hlast, run_flush_accepted_bind] at h
              cases h
        · rw [hids] at hfail
          cases hfail

lemma verifyUserBinding_error_iff {e : PyError} {s' : Session ImTables}
    (h : run (rpcVerifyUserBinding out request) { work := t } = (.error e, s')) :
    committed t out.commitRefused s' = t ↔
      (out.commitRefused = false → ¬ RejectsAfterPruning out t "verify_user_binding" request) := by
  simp only [rpcVerifyUserBinding, run_work_bind, flushAt] at h
  cases huser : userToVerify out t request with
  | error e' =>
    rw [huser, run_check_error_bind] at h
    cases h
    refine iff_of_true ?_ fun _ ⟨_, user, hok, _⟩ => ?_
    · cases hrefused : out.commitRefused <;> rfl
    · rw [huser] at hok
      cases hok
  | ok user =>
    rw [huser, run_check_ok_bind, run_change_bind] at h
    cases htoken : verifiedToken out t.bindTokens user.id request with
    | some token =>
      simp only [htoken, run_change_bind] at h
      refine iff_of_true ?_ fun _ ⟨_, user', hok, hnone, _⟩ => ?_
      · cases hlast : out.refused .last with
        | true =>
          rw [hlast, run_flush_refused_bind] at h
          cases h
          exact commit_broken _
        | false =>
          rw [hlast, run_flush_accepted_bind] at h
          cases h
      · rw [huser] at hok
        cases hok
        rw [htoken] at hnone
        cases hnone
    | none =>
      -- what has lapsed is revoked by now
      simp only [htoken, run_check] at h
      cases h
      cases hrefused : out.commitRefused with
      | true => exact iff_of_true (commit_refused _) fun h => by cases h
      | false =>
        rw [commit_accepted, pruneExpiredTokens_eq_iff]
        refine ⟨fun hkept _ => ?_, fun h row hrow hlapsed => ?_⟩
        · rintro ⟨_, _, _, _, row, hrow, hlapsed⟩
          exact hkept row hrow hlapsed
        · exact h rfl ⟨rfl, user, huser, htoken, row, hrow, hlapsed⟩

lemma rpcMethod_error_iff {method : String} {e : PyError} {s' : Session ImTables}
    (h : run (rpcMethod out pluginId method request) { work := t } = (.error e, s')) :
    committed t out.commitRefused s' = t ↔ (out.commitRefused = false →
      ¬ LosesMembers out t method request ∧ ¬ RejectsAfterPruning out t method request) := by
  by_cases hroom : method = "create_chat_group"
  · subst hroom
    rw [createChatGroup_error_iff h]
    refine imp_congr_right fun _ => (and_iff_left ?_).symm
    rintro ⟨hmethod, _⟩
    exact absurd hmethod (by decide)
  by_cases hverify : method = "verify_user_binding"
  · subst hverify
    rw [verifyUserBinding_error_iff h]
    refine imp_congr_right fun _ => (and_iff_right ?_).symm
    rintro ⟨hmethod, _⟩
    exact absurd hmethod (by decide)
  have hclean : Clean (rpcMethod out pluginId method request) := by
    unfold rpcMethod
    rw [if_neg hroom, if_neg hverify]
    split_ifs
    · exact clean_createCocoon
    · exact readOnly_list_targets.clean
    · exact readOnly_list_characters.clean
    · exact clean_upsertRoute
    · exact clean_deleteRoute
    · exact (readOnly_check _).clean
  exact iff_of_true (hclean.committed_of_error h _)
    fun _ => ⟨fun hlost => hroom hlost.1, fun hrejects => hverify hrejects.1⟩

/-! ## Methods that return -/

lemma addCocoon_ne (cocoon : Cocoon) (target : Target) :
    t ≠ (t.addCocoon cocoon).withSessionState out target := by
  intro h
  have hcocoons := congrArg (fun t : ImTables => t.db.cocoons.length) h
  simp [ImTables.withSessionState, (ensureSessionState_frame ..).cocoons, ImTables.addCocoon]
    at hcocoons

lemma addRoom_withSessionState_ne (room : ChatGroupRoom) (rows rows' : List ChatGroupMember)
    (target : Target) :
    t ≠ (((t.addRoom room).addMembers rows).addMembers rows').withSessionState out target := by
  intro h
  have hrooms := congrArg (fun t : ImTables => t.db.rooms.length) h
  simp [ImTables.withSessionState, (ensureSessionState_frame ..).rooms, ImTables.addRoom,
    ImTables.addMembers] at hrooms

lemma validated_ne_iff {tokenId : RowId} {now : Timestamp} :
    t ≠ (t.pruneExpiredTokens now).validated tokenId now ↔
      ∃ row ∈ t.bindTokens,
        row.Lapsed now ∨ (row.id = tokenId ∧ row.lastValidatedAt ≠ some now) := by
  have htable : t = (t.pruneExpiredTokens now).validated tokenId now ↔
      (t.bindTokens.map ((fun row => if key row = tokenId then
          { row with lastValidatedAt := some now } else row) ∘ fun row =>
        if row.Lapsed now then { row with revokedAt := some now } else row)) = t.bindTokens := by
    rw [← List.map_map]
    refine ⟨fun h => (congrArg ImTables.bindTokens h).symm, fun h => ?_⟩
    simp only [ImTables.validated, ImTables.pruneExpiredTokens, update, h]
  rw [Ne, htable, map_eq_self_iff]
  simp only [not_forall, exists_prop]
  refine exists_congr fun row => and_congr_right fun _ => ?_
  simp only [Function.comp_apply, key_bindToken]
  by_cases hlapsed : row.Lapsed now
  · have hnone : row.revokedAt = none := hlapsed.1
    refine iff_of_true (fun h => ?_) (.inl hlapsed)
    have hrevoked := congrArg UserImBindToken.revokedAt h
    rw [if_pos hlapsed] at hrevoked
    split at hrevoked <;> simp [hnone] at hrevoked
  · rw [if_neg hlapsed]
    by_cases hid : row.id = tokenId
    · rw [if_pos hid]
      refine ⟨fun h => .inr ⟨hid, fun hsame => h ?_⟩, ?_⟩
      · rw [← hsame]
      · rintro (h | ⟨_, hother⟩) hsame
        · exact hlapsed h
        · exact hother (by rw [← hsame])
    · rw [if_neg hid]
      simp [hlapsed, hid]

lemma upsertRoute_ne_iff {conversation : ImConversation} {target : RouteTarget} :
    t ≠ t.upsertRoute out pluginId conversation target ↔
      ∀ route, findRoute t.imTargetRoutes pluginId conversation = some route →
        ∃ r ∈ t.imTargetRoutes, r.id = route.id ∧ r.retargeted target ≠ r := by
  cases hroute : findRoute t.imTargetRoutes pluginId conversation with
  | none =>
    refine iff_of_true (fun h => ?_) fun _ h => nomatch h
    have hlength := congrArg (fun t : ImTables => t.imTargetRoutes.length) h
    simp [ImTables.upsertRoute, hroute] at hlength
  | some route =>
    have htable : t = t.upsertRoute out pluginId conversation target ↔
        update t.imTargetRoutes route.id (fun r => r.retargeted target) = t.imTargetRoutes := by
      refine ⟨fun h => ?_, fun h => ?_⟩
      · have hroutes := congrArg ImTables.imTargetRoutes h
        simp only [ImTables.upsertRoute, hroute] at hroutes
        exact hroutes.symm
      · simp only [ImTables.upsertRoute, hroute, h]
    rw [Ne, htable, update, map_eq_self_iff]
    simp only [key_imTargetRoute, ite_eq_right_iff, not_forall, exists_prop, Option.some.injEq,
      forall_eq']

lemma deleteRoute_ne {conversation : ImConversation} {route : PluginImTargetRoute}
    (h : findRoute t.imTargetRoutes pluginId conversation = some route) :
    t ≠ t.deleteRoute route := by
  intro heq
  have hmem : route ∈ (t.deleteRoute route).imTargetRoutes := heq ▸ List.mem_of_find?_eq_some h
  simp [ImTables.deleteRoute] at hmem

lemma returns_createCocoon_iff :
    Returns (rpcCreateCocoon out request) { work := t } (fun s => t ≠ s.work) ↔
      (newCocoon out t request).isOk ∧ out.refused .target = false ∧
        out.refused .sessionState = false ∧ out.refused .last = false := by
  simp only [rpcCreateCocoon, flushAt, returns_work_bind, returns_check_bind, returns_change_bind,
    returns_flush_bind, returns_pure, isOk_iff, Prod.exists]
  constructor
  · rintro ⟨owner, cocoon, hnew, htarget, hstate, hlast, _⟩
    exact ⟨⟨owner, cocoon, hnew⟩, htarget, hstate, hlast⟩
  · rintro ⟨⟨owner, cocoon, hnew⟩, htarget, hstate, hlast⟩
    exact ⟨owner, cocoon, hnew, htarget, hstate, hlast, addCocoon_ne cocoon _⟩

lemma returns_createChatGroup_iff :
    Returns (rpcCreateChatGroup out request) { work := t } (fun s => t ≠ s.work) ↔
      (newChatGroup out t request).isOk ∧ (initialMemberIds out request).isOk ∧
        out.refused .target = false ∧ out.refused .sessionState = false ∧
          out.refused .last = false := by
  simp only [rpcCreateChatGroup, flushAt, returns_work_bind, returns_check_bind,
    returns_change_bind, returns_flush_bind, returns_pure, isOk_iff, Prod.exists]
  constructor
  · rintro ⟨owner, room, hnew, htarget, ids, hids, hstate, hlast, _⟩
    exact ⟨⟨owner, room, hnew⟩, ⟨ids, hids⟩, htarget, hstate, hlast⟩
  · rintro ⟨⟨owner, room, hnew⟩, ⟨ids, hids⟩, htarget, hstate, hlast⟩
    exact ⟨owner, room, hnew, htarget, ids, hids, hstate, hlast,
      addRoom_withSessionState_ne room _ _ _⟩

lemma returns_verifyUserBinding_iff :
    Returns (rpcVerifyUserBinding out request) { work := t } (fun s => t ≠ s.work) ↔
      out.refused .last = false ∧ ∃ user token, userToVerify out t request = .ok user ∧
        verifiedToken out t.bindTokens user.id request = some token ∧
          ∃ row ∈ t.bindTokens, row.Lapsed out.now ∨
            (row.id = token.id ∧ row.lastValidatedAt ≠ some out.now) := by
  simp only [rpcVerifyUserBinding, flushAt, returns_work_bind, returns_check_bind,
    returns_change_bind]
  constructor
  · rintro ⟨user, huser, h⟩
    cases htoken : verifiedToken out t.bindTokens user.id request with
    | none =>
      rw [htoken] at h
      exact absurd h (returns_raise _)
    | some token =>
      rw [htoken] at h
      simp only [returns_change_bind, returns_flush_bind, returns_pure] at h
      exact ⟨h.1, user, token, huser, htoken, validated_ne_iff.mp h.2⟩
  · rintro ⟨hlast, user, token, huser, htoken, hrow⟩
    refine ⟨user, huser, ?_⟩
    rw [htoken]
    simp only [returns_change_bind, returns_flush_bind, returns_pure]
    exact ⟨hlast, validated_ne_iff.mpr hrow⟩

lemma returns_upsertRoute_iff :
    Returns (rpcUpsertImTargetRoute out pluginId request) { work := t } (fun s => t ≠ s.work) ↔
      out.refused .last = false ∧
        ∃ conversation target, routeToUpsert out t request = .ok (conversation, target) ∧
          ∀ route, findRoute t.imTargetRoutes pluginId conversation = some route →
            ∃ r ∈ t.imTargetRoutes, r.id = route.id ∧ r.retargeted target ≠ r := by
  simp only [rpcUpsertImTargetRoute, flushAt, returns_work_bind, returns_check_bind,
    returns_change_bind, returns_flush_bind, returns_pure, Prod.exists, upsertRoute_ne_iff]
  constructor
  · rintro ⟨conversation, target, hroute, hlast, hne⟩
    exact ⟨hlast, conversation, target, hroute, hne⟩
  · rintro ⟨hlast, conversation, target, hroute, hne⟩
    exact ⟨conversation, target, hroute, hlast, hne⟩

lemma returns_deleteRoute_iff :
    Returns (rpcDeleteImTargetRoute out pluginId request) { work := t } (fun s => t ≠ s.work) ↔
      out.refused .last = false ∧ ∃ conversation, requireConversation out request =
        .ok conversation ∧
        (findRoute t.imTargetRoutes pluginId conversation).isSome := by
  simp only [rpcDeleteImTargetRoute, flushAt, returns_work_bind, returns_check_bind]
  constructor
  · rintro ⟨conversation, hconversation, h⟩
    cases hroute : findRoute t.imTargetRoutes pluginId conversation with
    | none =>
      rw [hroute, returns_pure] at h
      exact absurd rfl h
    | some route =>
      rw [hroute] at h
      simp only [returns_change_bind, returns_flush_bind] at h
      exact ⟨h.1, conversation, hconversation, by rw [hroute]; rfl⟩
  · rintro ⟨hlast, conversation, hconversation, hsome⟩
    obtain ⟨route, hroute⟩ := Option.isSome_iff_exists.mp hsome
    refine ⟨conversation, hconversation, ?_⟩
    rw [hroute]
    simp only [returns_change_bind, returns_flush_bind, returns_pure]
    exact ⟨hlast, deleteRoute_ne hroute⟩

lemma not_returns_of_readOnly {p : RpcM JsonDict} (h : ReadOnly p) :
    ¬ Returns p { work := t } fun s => t ≠ s.work := by
  rintro ⟨a, s', hrun, hne⟩
  have hs := h { work := t }
  rw [hrun] at hs
  exact hne (congrArg Session.work hs).symm

lemma returns_rpcMethod_iff (method : String) :
    Returns (rpcMethod out pluginId method request) { work := t } (fun s => t ≠ s.work) ↔
      Writes out t pluginId method request := by
  unfold rpcMethod Writes
  split_ifs with h₁ h₂ h₃ h₄ h₅ h₆ h₇
  · subst h₁
    simp [returns_createCocoon_iff]
  · subst h₂
    simp [returns_createChatGroup_iff]
  · subst h₃
    simp only [returns_verifyUserBinding_iff]
    simp
  · subst h₄
    simp [not_returns_of_readOnly readOnly_list_targets]
  · subst h₅
    simp [not_returns_of_readOnly readOnly_list_characters]
  · subst h₆
    simp only [returns_upsertRoute_iff]
    simp
  · subst h₇
    simp [returns_deleteRoute_iff]
  · simp [h₁, h₂, h₃, h₆, h₇]

lemma not_losesMembers_of_returns {P : Session ImTables → Prop} {method : String}
    (h : Returns (rpcMethod out pluginId method request) { work := t } P) :
    ¬ LosesMembers out t method request := by
  rintro ⟨rfl, _, _, hids⟩
  change Returns (rpcCreateChatGroup out request) _ _ at h
  simp only [rpcCreateChatGroup, flushAt, returns_work_bind, returns_check_bind,
    returns_change_bind, returns_flush_bind] at h
  obtain ⟨_, _, _, ids, hok, _⟩ := h
  rw [hok] at hids
  cases hids

lemma not_rejectsAfterPruning_of_returns {P : Session ImTables → Prop} {method : String}
    (h : Returns (rpcMethod out pluginId method request) { work := t } P) :
    ¬ RejectsAfterPruning out t method request := by
  rintro ⟨rfl, user, huser, htoken, _⟩
  change Returns (rpcVerifyUserBinding out request) _ _ at h
  simp only [rpcVerifyUserBinding, returns_work_bind, returns_check_bind, returns_change_bind,
    huser, Except.ok.injEq, exists_eq_left', htoken] at h
  exact returns_raise _ h

/-! ## The handler -/

lemma handleQueueMessage_of_answerable {plugin : PluginDefinition} {version : Option PluginVersion}
    {handle : Option DaemonHandle} {message : JsonDict} {request : JsonDict}
    (h : Answerable out (some plugin) version handle message)
    (hrequest : dictOf (message "payload") = .ok request) :
    handleQueueMessage out (some plugin) version handle message t =
      let result := run (rpcMethod out plugin.id (field out message "method") request) { work := t }
      ⟨[responseTo out (field out message "request_id") result.1], result.2.work,
        committed t out.commitRefused result.2⟩ := by
  obtain ⟨version, rfl⟩ := Option.isSome_iff_exists.mp h.version
  have hask : ¬ (field out message "request_id" = "" ∨
      ¬ handle.any DaemonHandle.hasInboundQueue = true) := by
    rintro (hid | hqueue)
    · exact h.requestId hid
    · exact hqueue h.queue
  simp only [handleQueueMessage, h.runState, Bool.false_eq_true, if_false, handleImRpcRequest,
    hrequest, if_neg hask]

lemma answerable_of_responses {plugin : Option PluginDefinition} {version : Option PluginVersion}
    {handle : Option DaemonHandle} {message : JsonDict}
    (h : (handleQueueMessage out plugin version handle message t).responses ≠ []) :
    Answerable out plugin version handle message := by
  cases plugin with
  | none => exact absurd rfl h
  | some plugin =>
    cases version with
    | none => exact absurd rfl h
    | some version =>
      simp only [handleQueueMessage] at h
      cases hstate : out.refused .runState with
      | true => simp [hstate] at h
      | false =>
        simp only [hstate, Bool.false_eq_true, if_false, handleImRpcRequest] at h
        cases hrequest : dictOf (message "payload") with
        | error e => simp [hrequest] at h
        | ok request =>
          simp only [hrequest] at h
          split_ifs at h with hask
          · exact absurd rfl h
          · rw [not_or, not_not] at hask
            exact ⟨rfl, rfl, hstate, by rw [hrequest]; rfl, hask.1, hask.2⟩

lemma atomic_result_iff {requestId method : String} :
    let result := run (rpcMethod out pluginId method request) { work := t }
    Atomic requestId t ⟨[responseTo out requestId result.1], result.2.work,
        committed t out.commitRefused result.2⟩ ↔
      Undisturbed out t pluginId method request := by
  intro result
  rcases hrun : result with ⟨e | payload, s'⟩
  · -- an exception: it has left nothing behind
    have hatomic : Atomic requestId t ⟨[responseTo out requestId (.error e)], s'.work,
        committed t out.commitRefused s'⟩ ↔ committed t out.commitRefused s' = t := by
      simp [Atomic, responseTo]
    rw [hatomic, rpcMethod_error_iff hrun, Undisturbed]
    cases hcommit : out.commitRefused with
    | false => simp
    | true =>
      refine iff_of_true (fun h => nomatch h) ?_
      rw [if_pos rfl, ← returns_rpcMethod_iff]
      rintro ⟨a, s, hok, _⟩
      change result = _ at hok
      rw [hrun] at hok
      cases hok
  · -- an answer: it is stored, or there is nothing to store
    have hatomic : Atomic requestId t ⟨[responseTo out requestId (.ok payload)], s'.work,
        committed t out.commitRefused s'⟩ ↔ committed t out.commitRefused s' = s'.work := by
      simp [Atomic, responseTo]
    have hreturns : Returns (rpcMethod out pluginId method request) { work := t } fun _ => True :=
      ⟨payload, s', hrun, trivial⟩
    rw [hatomic, (sound_rpcMethod method).committed_of_ok hrun, Undisturbed]
    cases hcommit : out.commitRefused with
    | false =>
      simp [not_losesMembers_of_returns hreturns, not_rejectsAfterPruning_of_returns hreturns]
    | true =>
      rw [if_pos rfl, ← returns_rpcMethod_iff]
      refine ⟨fun hsame => ?_, fun hnone _ => ?_⟩
      · rintro ⟨a, s, hok, hne⟩
        change result = _ at hok
        rw [hrun] at hok
        cases hok
        exact hne (hsame rfl)
      · by_contra hne
        exact hnone ⟨payload, s', hrun, hne⟩

/-- A request is handled as one unit exactly when it can be answered and nothing comes between its
changes and its answer. -/
theorem atomic_iff (plugin : Option PluginDefinition) (version : Option PluginVersion)
    (handle : Option DaemonHandle) (message : JsonDict) (t : ImTables) :
    Atomic (field out message "request_id") t
        (handleQueueMessage out plugin version handle message t) ↔
      Answerable out plugin version handle message ∧
        ∀ p ∈ plugin, ∀ request, dictOf (message "payload") = .ok request →
          Undisturbed out t p.id (field out message "method") request := by
  constructor
  · intro h
    have hanswerable : Answerable out plugin version handle message := by
      obtain ⟨r, hr, _⟩ := h
      exact answerable_of_responses (t := t) (by rw [hr]; exact List.cons_ne_nil _ _)
    refine ⟨hanswerable, fun p hp request hrequest => ?_⟩
    obtain rfl : plugin = some p := hp
    rw [handleQueueMessage_of_answerable hanswerable hrequest] at h
    exact atomic_result_iff.mp h
  · rintro ⟨hanswerable, h⟩
    obtain ⟨p, rfl⟩ := Option.isSome_iff_exists.mp hanswerable.plugin
    obtain ⟨request, hrequest⟩ := isOk_iff.mp hanswerable.payload
    rw [handleQueueMessage_of_answerable hanswerable hrequest]
    exact atomic_result_iff.mpr (h p rfl request hrequest)

/-- Everything is accepted. -/
def accepting : RpcOutside where
  toOutside := allWell
  refused _ := false
  commitRefused := false
  errorText _ := "'int' object is not iterable"
  newId := "room"
  memberKeys _ := "member"
  floatColumn _ := 0
  integerColumn _ := 0
  booleanColumn _ := false
  createdAt _ := 0
  nameOf _ := ""

/-- One user, one character and one model. -/
def imHost : ImTables where
  accounts :=
    { users := [{ id := "ann", username := "ann", passwordHash := "" }]
      characters := [{ id := "muse" }] }
  availableModels := ["gpt"]

/-- Members that are a number. -/
def asksForRoom : JsonDict := .ofList
  [("type", .str "rpc_request"), ("request_id", .str "r1"), ("method", .str "create_chat_group"),
   ("payload", .obj
      [("owner_user_id", .str "ann"), ("character_id", .str "muse"),
       ("selected_model_id", .str "gpt"), ("name", .str "Tea"), ("initial_member_ids", .num 7)])]

/-- The request is answered without `ok`, and the room is there. -/
theorem room_without_answer :
    ¬ Atomic (field accepting asksForRoom "request_id") imHost
      (handleQueueMessage accepting (some (imPlugin "bridge")) (some (imVersion "bridge"))
        (some { pluginId := "bridge", processType := "im", versionId := "bridge" }) asksForRoom
        imHost) := by
  rintro ⟨r, hr, _, _, hkept⟩
  have hok : r.ok = false := by
    have hoks := congrArg (List.map RpcResponse.ok) hr
    have hcomputed : (handleQueueMessage accepting (some (imPlugin "bridge"))
        (some (imVersion "bridge"))
        (some { pluginId := "bridge", processType := "im", versionId := "bridge" }) asksForRoom
        imHost).responses.map RpcResponse.ok = [false] := by decide +kernel
    rw [hcomputed] at hoks
    exact (List.cons.inj hoks).1.symm
  have hrooms := congrArg (fun t : ImTables => t.db.rooms.length) (hkept hok)
  revert hrooms
  decide +kernel

end ImRpc

end CocoonSit
