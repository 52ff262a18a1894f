import CocoonSit.Security.Authorization
import CocoonSit.Lib.Run

/-!
# Members of chat-group rooms

Rooms are created by the API and by the message plugins, members are added, given another role and
removed, and websockets are opened, by concurrent requests.  A request reads and writes in one
transaction; what it has read may be out of date when it commits, so an addition and a removal are
two steps each, and between the two anything may happen.  A websocket, too, is authorised first and
registered after.

Sessions do not flush on queries: the look-ups in the loop of `create_room` see the owner's row,
which was flushed before, and none of the rows the loop itself adds.

Next to the tables the state remembers who was removed from which room and not added since.
-/

namespace CocoonSit

open Table TransitionSystem

/-- A websocket on a room's channel: authorised, and then accepted. -/
structure RoomSocket where
  id : RowId
  roomId : RowId
  userId : RowId
  accepted : Bool := false
deriving DecidableEq

/-- `add_member` after its look-up. -/
structure PendingAdd where
  roomId : RowId
  userId : RowId
  memberRole : String
  existing : Bool
deriving DecidableEq

structure RoomState where
  rooms : List ChatGroupRoom := []
  members : List ChatGroupMember := []
  pendingAdds : List PendingAdd := []
  /-- The rows that `remove_member` has found and not yet deleted. -/
  pendingRemovals : List RowId := []
  sockets : List RoomSocket := []
  /-- Room and user of every removal since which the user was not added again. -/
  removed : List (RowId × RowId) := []

structure ChatGroupRoomCreate where
  characterId : RowId
  maxContextMessages : Option ℤ := none
  initialMemberIds : List RowId := []

inductive RoomEvent where
  /-- `create_room` of the API; `memberKeys` are the keys drawn for the rows, the owner's first. -/
  | createRoom (ownerId : RowId) (payload : ChatGroupRoomCreate) (roomId : RowId)
      (memberKeys : ℕ → RowId)
  /-- `create_chat_group` of the message plugins. -/
  | rpcCreateChatGroup (ownerId : RowId) (payload : ChatGroupRoomCreate) (roomId : RowId)
      (memberKeys : ℕ → RowId)
  | readAdd (roomId userId : RowId) (memberRole : String)
  | commitAdd (pending : PendingAdd) (newId : RowId)
  | updateMember (roomId userId : RowId) (memberRole : String)
  | readRemoval (roomId userId : RowId)
  | commitRemoval (memberId : RowId)
  | authorizeSocket (socketId roomId userId : RowId)
  | acceptSocket (socketId : RowId)
  | closeSocket (socketId : RowId)

/-- Room and user of a row. -/
def ChatGroupMember.pair (member : ChatGroupMember) : RowId × RowId :=
  (member.roomId, member.userId)

def RoomSocket.pair (socket : RoomSocket) : RowId × RowId :=
  (socket.roomId, socket.userId)

/-! ## The services -/

/-- The ids for which the loop of `create_room` adds a row; `flushed` is what its look-ups see. -/
def restMemberIds (flushed : List ChatGroupMember) (roomId ownerId : RowId) (ids : List RowId) :
    List RowId :=
  ids.filter fun memberId => memberId ≠ ownerId &&
    (getChatGroupMembership flushed memberId roomId).isNone

/-- The ids for which the loop of `_rpc_create_chat_group` adds a row. -/
def rpcMemberIds (accounts : Accounts) (ownerId : RowId) (ids : List RowId) : List RowId :=
  (ids.map strip).filter fun normalized =>
    normalized ≠ "" && normalized ≠ ownerId && (get accounts.users normalized).isSome

def ownerMember (ownerId roomId : RowId) (memberKeys : ℕ → RowId) : ChatGroupMember :=
  { id := memberKeys 0, roomId := roomId, userId := ownerId, memberRole := "admin" }

/-- The room's first rows: the owner's, and one for each of the ids. -/
def initialMembers (ownerId roomId : RowId) (memberKeys : ℕ → RowId) (ids : List RowId) :
    List ChatGroupMember :=
  ownerMember ownerId roomId memberKeys :: ids.mapIdx fun i memberId =>
    { id := memberKeys (i + 1), roomId := roomId, userId := memberId, memberRole := "member" }

/-- The defaults that a room takes from the system settings. -/
def newRoom (ownerId roomId : RowId) (payload : ChatGroupRoomCreate) : ChatGroupRoom :=
  { id := roomId
    ownerUserId := ownerId
    characterId := payload.characterId
    maxContextMessages := payload.maxContextMessages.getD 12 }

def RoomState.addRoom (s : RoomState) (room : ChatGroupRoom) (rows : List ChatGroupMember) :
    RoomState :=
  { s with rooms := s.rooms ++ [room], members := s.members ++ rows }

def createRoom (s : RoomState) (ownerId : RowId) (payload : ChatGroupRoomCreate) (roomId : RowId)
    (memberKeys : ℕ → RowId) : RoomState :=
  let flushed := s.members ++ [ownerMember ownerId roomId memberKeys]
  s.addRoom (newRoom ownerId roomId payload) (initialMembers ownerId roomId memberKeys
    (restMemberIds flushed roomId ownerId payload.initialMemberIds))

def rpcCreateChatGroup (accounts : Accounts) (s : RoomState) (ownerId : RowId)
    (payload : ChatGroupRoomCreate) (roomId : RowId) (memberKeys : ℕ → RowId) : RoomState :=
  s.addRoom (newRoom ownerId roomId payload) (initialMembers ownerId roomId memberKeys
    (rpcMemberIds accounts ownerId payload.initialMemberIds))

/-- The insert of `add_member`, unless its look-up had found a row. -/
def commitAdd (s : RoomState) (pending : PendingAdd) (newId : RowId) : RoomState :=
  if pending.existing then s
  else
    { s with
      members := s.members ++ [{ id := newId, roomId := pending.roomId, userId := pending.userId,
                                 memberRole := pending.memberRole }]
      removed := s.removed.filter fun pair => pair ≠ (pending.roomId, pending.userId) }

def updateMember (members : List ChatGroupMember) (room : ChatGroupRoom) (userId : RowId)
    (memberRole : String) : Except HttpError (List ChatGroupMember) :=
  if room.ownerUserId = userId then .error ⟨400, "Room owner role cannot be changed"⟩
  else
    match getChatGroupMembership members userId room.id with
    | none => .error ⟨404, "Chat group member not found"⟩
    | some member => .ok (update members member.id fun row => { row with memberRole := memberRole })

/-- The row that `remove_member` is going to delete. -/
def memberToRemove (members : List ChatGroupMember) (room : ChatGroupRoom) (userId : RowId) :
    Except HttpError ChatGroupMember :=
  if room.ownerUserId = userId then .error ⟨400, "Room owner cannot be removed"⟩
  else
    match getChatGroupMembership members userId room.id with
    | none => .error ⟨404, "Chat group member not found"⟩
    | some member => .ok member

/-- `DELETE … WHERE id = member_id`; a row that is gone makes the flush fail. -/
def commitRemoval (s : RoomState) (memberId : RowId) : RoomState :=
  match get s.members memberId with
  | none => s
  | some member =>
    { s with
      members := s.members.filter fun row => row.id ≠ memberId
      removed := s.removed ++ [member.pair] }

/-! ## The system -/

section System

variable (settings : Settings) (accounts : Accounts)

/-- A drawn key for a room occurs nowhere. -/
def NewRoomKey (s : RoomState) (roomId : RowId) : Prop :=
  roomId ∉ s.rooms.map key ∧ roomId ∉ s.members.map ChatGroupMember.roomId ∧
    roomId ∉ s.removed.map Prod.fst

instance (s : RoomState) (roomId : RowId) : Decidable (NewRoomKey s roomId) :=
  inferInstanceAs (Decidable (_ ∧ _))

/-- A request that raises changes nothing. -/
def roomStep (s : RoomState) : RoomEvent → Option RoomState
  | .createRoom ownerId payload roomId memberKeys =>
    if NewRoomKey s roomId then some (createRoom s ownerId payload roomId memberKeys) else none
  | .rpcCreateChatGroup ownerId payload roomId memberKeys =>
    if NewRoomKey s roomId then
      some (rpcCreateChatGroup accounts s ownerId payload roomId memberKeys)
    else none
  | .readAdd roomId userId memberRole =>
    (get s.rooms roomId).map fun room =>
      { s with
        pendingAdds := s.pendingAdds ++ [⟨roomId, userId, memberRole,
          (getChatGroupMembership s.members userId room.id).isSome⟩] }
  | .commitAdd pending newId =>
    if pending ∈ s.pendingAdds then
      some { commitAdd s pending newId with pendingAdds := s.pendingAdds.erase pending }
    else none
  | .updateMember roomId userId memberRole =>
    (get s.rooms roomId).map fun room =>
      match updateMember s.members room userId memberRole with
      | .ok members => { s with members := members }
      | .error _ => s
  | .readRemoval roomId userId =>
    (get s.rooms roomId).map fun room =>
      match memberToRemove s.members room userId with
      | .ok member => { s with pendingRemovals := s.pendingRemovals ++ [member.id] }
      | .error _ => s
  | .commitRemoval memberId =>
    if memberId ∈ s.pendingRemovals then
      some { commitRemoval s memberId with pendingRemovals := s.pendingRemovals.erase memberId }
    else none
  | .authorizeSocket socketId roomId userId =>
    (get s.rooms roomId).bind fun room =>
      (get accounts.users userId).bind fun user =>
        if canReadChatGroup settings accounts s.members user room then
          some { s with
            sockets := s.sockets ++ [{ id := socketId, roomId := roomId, userId := userId }] }
        else none
  | .acceptSocket socketId =>
    some { s with
      sockets := s.sockets.map fun socket =>
        if socket.id = socketId then { socket with accepted := true } else socket }
  | .closeSocket socketId =>
    some { s with sockets := s.sockets.filter fun socket => socket.id ≠ socketId }

/-- The users to whom a broadcast on the room's channel goes. -/
def receivers (s : RoomState) (roomId : RowId) : List RowId :=
  (s.sockets.filter fun socket => socket.roomId = roomId && socket.accepted).map RoomSocket.userId

/-- At most one row for a user in a room; and who was removed, is neither the room's owner nor an
admin and was not added since, has no access and receives no event. -/
structure RoomsSafe (s : RoomState) : Prop where
  unique : (s.members.map ChatGroupMember.pair).Nodup
  revoked : ∀ roomId userId, (roomId, userId) ∈ s.removed → ∀ room user,
    get s.rooms roomId = some room → get accounts.users userId = some user →
      room.ownerUserId ≠ userId → isAdmin settings accounts user = false →
        (canReadChatGroup settings accounts s.members user room = false ∧
          canChatInChatGroup settings accounts s.members user room = false ∧
          canManageChatGroup settings accounts s.members user room = false) ∧
        userId ∉ receivers s roomId

/-- The initial members are listed once; no row of the user was committed to the room between an
addition's look-up and its insert; and who is removed has no websocket on the room. -/
def RoomStepSafe (s : RoomState) : RoomEvent → Prop
  | .createRoom ownerId payload _ _ => (payload.initialMemberIds.filter (· ≠ ownerId)).Nodup
  | .rpcCreateChatGroup ownerId payload _ _ =>
    (rpcMemberIds accounts ownerId payload.initialMemberIds).Nodup
  | .commitAdd pending _ =>
    pending.existing ∨ (pending.roomId, pending.userId) ∉ s.members.map ChatGroupMember.pair
  | .commitRemoval memberId =>
    ∀ member ∈ get s.members memberId, member.pair ∉ s.sockets.map RoomSocket.pair
  | _ => True

instance : ∀ s e, Decidable (RoomStepSafe accounts s e)
  | _, .createRoom .. => inferInstanceAs (Decidable (List.Nodup _))
  | _, .rpcCreateChatGroup .. => inferInstanceAs (Decidable (List.Nodup _))
  | _, .commitAdd .. => inferInstanceAs (Decidable (_ ∨ _))
  | s, .commitRemoval memberId =>
    inferInstanceAs (Decidable (∀ member ∈ get s.members memberId, _))
  | _, .readAdd .. => isTrue trivial
  | _, .updateMember .. => isTrue trivial
  | _, .readRemoval .. => isTrue trivial
  | _, .authorizeSocket .. => isTrue trivial
  | _, .acceptSocket _ => isTrue trivial
  | _, .closeSocket _ => isTrue trivial

end System

variable {settings : Settings} {accounts : Accounts} {s s' s₀ : RoomState} {e : RoomEvent}
  {es : List RoomEvent}

/-! ## The invariant -/

/-- Rows are unique; who was removed has no row, and no websocket unless owner or admin. -/
structure RoomInv (settings : Settings) (accounts : Accounts) (s : RoomState) : Prop where
  unique : (s.members.map ChatGroupMember.pair).Nodup
  noRow : ∀ pair ∈ s.removed, pair ∉ s.members.map ChatGroupMember.pair
  noSocket : ∀ roomId userId, (roomId, userId) ∈ s.removed → ∀ room user,
    get s.rooms roomId = some room → get accounts.users userId = some user →
      room.ownerUserId ≠ userId → isAdmin settings accounts user = false →
        (roomId, userId) ∉ s.sockets.map RoomSocket.pair

lemma RoomInv.safe (h : RoomInv settings accounts s) : RoomsSafe settings accounts s := by
  refine ⟨h.unique, fun roomId userId hremoved room user hroom huser howner hadmin => ?_⟩
  have hroomid : room.id = roomId := key_of_get hroom
  have huserid : user.id = userId := key_of_get huser
  constructor
  · refine no_access_of_no_membership hadmin (huserid ▸ howner) ?_
    rw [hroomid, huserid]
    exact h.noRow _ hremoved
  · intro hreceives
    obtain ⟨socket, hsocket, hsocketuser⟩ := List.mem_map.mp hreceives
    obtain ⟨hmem, hon⟩ := List.mem_filter.mp hsocket
    simp only [Bool.and_eq_true, decide_eq_true_eq] at hon
    exact h.noSocket roomId userId hremoved room user hroom huser howner hadmin
      (List.mem_map.mpr ⟨socket, hmem, Prod.ext hon.1 hsocketuser⟩)

lemma map_pair_initialMembers (ownerId roomId : RowId) (memberKeys : ℕ → RowId)
    (ids : List RowId) :
    (initialMembers ownerId roomId memberKeys ids).map ChatGroupMember.pair =
      (roomId, ownerId) :: ids.map fun memberId => (roomId, memberId) := by
  unfold initialMembers
  rw [List.map_cons]
  refine congrArg _ (List.ext_getElem (by simp) fun i hi hi' => ?_)
  simp [ChatGroupMember.pair]

lemma RoomInv.addRoom (h : RoomInv settings accounts s) {ownerId roomId : RowId}
    {payload : ChatGroupRoomCreate} {memberKeys : ℕ → RowId} {ids : List RowId}
    (hnew : NewRoomKey s roomId) (howner : ownerId ∉ ids) (hids : ids.Nodup) :
    RoomInv settings accounts (s.addRoom (newRoom ownerId roomId payload)
      (initialMembers ownerId roomId memberKeys ids)) := by
  obtain ⟨hrooms, hmembers, hremoved⟩ := hnew
  have hrowroom : ∀ pair ∈ (initialMembers ownerId roomId memberKeys ids).map ChatGroupMember.pair,
      pair.1 = roomId := by
    intro pair hpair
    rw [map_pair_initialMembers] at hpair
    rcases List.mem_cons.mp hpair with rfl | hpair
    · rfl
    · obtain ⟨_, -, rfl⟩ := List.mem_map.mp hpair
      rfl
  refine ⟨?_, fun pair hpair hrow => ?_, ?_⟩
  · rw [RoomState.addRoom, List.map_append, List.nodup_append]
    refine ⟨h.unique, ?_, ?_⟩
    · rw [map_pair_initialMembers, List.nodup_cons]
      refine ⟨fun hmem => ?_, hids.map fun a b hab => congrArg Prod.snd hab⟩
      obtain ⟨memberId, hmemberId, heq⟩ := List.mem_map.mp hmem
      cases heq
      exact howner hmemberId
    · rintro a ha b hb rfl
      obtain ⟨member, hmember, rfl⟩ := List.mem_map.mp ha
      exact hmembers (List.mem_map.mpr ⟨member, hmember, hrowroom _ hb⟩)
  · rw [RoomState.addRoom, List.map_append] at hrow
    rcases List.mem_append.mp hrow with hrow | hrow
    · exact h.noRow pair hpair hrow
    · exact hremoved (List.mem_map.mpr ⟨pair, hpair, hrowroom pair hrow⟩)
  · intro roomId' userId hpair room user hroom
    have hne : roomId' ≠ roomId := by
      rintro rfl
      exact hremoved (List.mem_map.mpr ⟨_, hpair, rfl⟩)
    refine h.noSocket roomId' userId hpair room user ?_
    have hnone : get [newRoom ownerId roomId payload] roomId' = none := by
      refine get_eq_none_iff.mpr ?_
      rw [List.map_singleton, List.mem_singleton]
      exact hne
    rwa [RoomState.addRoom, get_append, hnone, Option.or_none] at hroom

lemma ownerId_not_mem_restMemberIds {flushed : List ChatGroupMember} {roomId ownerId : RowId}
    {ids : List RowId} : ownerId ∉ restMemberIds flushed roomId ownerId ids := by
  simp [restMemberIds]

/-- The look-ups of `create_room` pass over none but the owner, so each mention of an id counts. -/
lemma nodup_restMemberIds {flushed : List ChatGroupMember} {roomId ownerId : RowId}
    {ids : List RowId} (h : (ids.filter (· ≠ ownerId)).Nodup) :
    (restMemberIds flushed roomId ownerId ids).Nodup := by
  refine h.sublist ?_
  have hsub : restMemberIds flushed roomId ownerId ids =
      (ids.filter (· ≠ ownerId)).filter fun memberId =>
        (getChatGroupMembership flushed memberId roomId).isNone := by
    rw [restMemberIds, List.filter_filter]
    refine List.filter_congr fun memberId _ => ?_
    rw [Bool.and_comm]
  rw [hsub]
  exact List.filter_sublist

lemma ownerId_not_mem_rpcMemberIds {ownerId : RowId} {ids : List RowId} :
    ownerId ∉ rpcMemberIds accounts ownerId ids := by
  simp [rpcMemberIds]

lemma RoomInv.commitAdd (h : RoomInv settings accounts s) {pending : PendingAdd} {newId : RowId}
    (hsafe : RoomStepSafe accounts s (.commitAdd pending newId)) :
    RoomInv settings accounts (commitAdd s pending newId) := by
  unfold CocoonSit.commitAdd
  by_cases hexisting : pending.existing = true
  · rw [if_pos hexisting]
    exact h
  · rw [if_neg hexisting]
    have hnew := hsafe.resolve_left hexisting
    refine ⟨?_, fun pair hpair hrow => ?_, fun roomId userId hpair => ?_⟩
    · rw [List.map_append, List.nodup_append]
      refine ⟨h.unique, List.nodup_singleton _, ?_⟩
      rintro a ha b hb rfl
      rw [List.map_singleton, List.mem_singleton] at hb
      rw [hb] at ha
      exact hnew ha
    · obtain ⟨hpair, hne⟩ := List.mem_filter.mp hpair
      rw [List.map_append] at hrow
      rcases List.mem_append.mp hrow with hrow | hrow
      · exact h.noRow pair hpair hrow
      · rw [List.map_singleton, List.mem_singleton] at hrow
        exact of_decide_eq_true hne hrow
    · exact h.noSocket roomId userId (List.mem_filter.mp hpair).1

lemma RoomInv.commitRemoval (h : RoomInv settings accounts s) {memberId : RowId}
    (hsafe : RoomStepSafe accounts s (.commitRemoval memberId)) :
    RoomInv settings accounts (commitRemoval s memberId) := by
  unfold CocoonSit.commitRemoval
  cases hget : get s.members memberId with
  | none => exact h
  | some member =>
    have hmember : member ∈ s.members := mem_of_get hget
    have hid : member.id = memberId := key_of_get hget
    dsimp only
    refine ⟨h.unique.sublist (List.filter_sublist.map _), fun pair hpair hrow => ?_,
      fun roomId userId hpair room user hroom huser howner hadmin => ?_⟩
    · obtain ⟨row, hkept, rfl⟩ := List.mem_map.mp hrow
      obtain ⟨hmem, hne⟩ := List.mem_filter.mp hkept
      rcases List.mem_append.mp hpair with hpair | hpair
      · exact h.noRow _ hpair (List.mem_map_of_mem hmem)
      · have hpair := List.mem_singleton.mp hpair
        have hsame : row = member := List.inj_on_of_nodup_map h.unique hmem hmember hpair
        rw [hsame, hid] at hne
        simp at hne
    · rcases List.mem_append.mp hpair with hpair | hpair
      · exact h.noSocket roomId userId hpair room user hroom huser howner hadmin
      · rw [List.mem_singleton.mp hpair]
        exact hsafe member hget

lemma RoomInv.congr (h : RoomInv settings accounts s) (hrooms : s'.rooms = s.rooms)
    (hmembers : s'.members.map ChatGroupMember.pair = s.members.map ChatGroupMember.pair)
    (hremoved : s'.removed = s.removed)
    (hsockets : ∀ pair ∈ s'.sockets.map RoomSocket.pair, pair ∈ s.sockets.map RoomSocket.pair) :
    RoomInv settings accounts s' := by
  refine ⟨hmembers ▸ h.unique, fun pair hpair => ?_, fun roomId userId hpair room user hroom huser
    howner hadmin hsocket => ?_⟩
  · rw [hmembers]
    exact h.noRow pair (hremoved ▸ hpair)
  · exact h.noSocket roomId userId (hremoved ▸ hpair) room user (hrooms ▸ hroom) huser howner hadmin
      (hsockets _ hsocket)

lemma map_pair_updateMember {members members' : List ChatGroupMember} {room : ChatGroupRoom}
    {userId : RowId} {memberRole : String}
    (h : updateMember members room userId memberRole = .ok members') :
    members'.map ChatGroupMember.pair = members.map ChatGroupMember.pair := by
  unfold updateMember at h
  by_cases howner : room.ownerUserId = userId
  · rw [if_pos howner] at h
    cases h
  · rw [if_neg howner] at h
    cases hfind : getChatGroupMembership members userId room.id with
    | none =>
      rw [hfind] at h
      cases h
    | some member =>
      rw [hfind] at h
      cases h
      rw [update, List.map_map]
      refine List.map_congr_left fun row _ => ?_
      by_cases hrow : key row = member.id
      · simp only [Function.comp_apply, if_pos hrow]
        rfl
      · simp only [Function.comp_apply, if_neg hrow]

lemma RoomInv.authorizeSocket (h : RoomInv settings accounts s) {socketId roomId userId : RowId}
    {room : ChatGroupRoom} {user : User} (hroom : get s.rooms roomId = some room)
    (huser : get accounts.users userId = some user)
    (hread : canReadChatGroup settings accounts s.members user room = true) :
    RoomInv settings accounts { s with
      sockets := s.sockets ++ [{ id := socketId, roomId := roomId, userId := userId }] } := by
  refine ⟨h.unique, h.noRow, fun roomId' userId' hpair room' user' hroom' huser' howner hadmin
    hsocket => ?_⟩
  rw [List.map_append] at hsocket
  rcases List.mem_append.mp hsocket with hsocket | hsocket
  · exact h.noSocket roomId' userId' hpair room' user' hroom' huser' howner hadmin hsocket
  · rw [List.map_singleton, List.mem_singleton] at hsocket
    cases hsocket
    have hrooms : room' = room := Option.some.inj (hroom'.symm.trans hroom)
    have husers : user' = user := Option.some.inj (huser'.symm.trans huser)
    subst hrooms husers
    have hroomid : room'.id = roomId := key_of_get hroom
    have huserid : user'.id = userId := key_of_get huser
    have hrow := h.noRow _ hpair
    rw [← hroomid, ← huserid] at hrow
    rw [(no_access_of_no_membership hadmin (huserid ▸ howner) hrow).1] at hread
    cases hread

/-! ## Runs -/

lemma inv_roomStep (h : RoomInv settings accounts s) (hsafe : RoomStepSafe accounts s e)
    (hs : roomStep settings accounts s e = some s') : RoomInv settings accounts s' := by
  cases e with
  | createRoom ownerId payload roomId memberKeys =>
    obtain ⟨hnew, hs⟩ := Option.ite_none_right_eq_some.mp hs
    cases hs
    exact h.addRoom hnew ownerId_not_mem_restMemberIds (nodup_restMemberIds hsafe)
  | rpcCreateChatGroup ownerId payload roomId memberKeys =>
    obtain ⟨hnew, hs⟩ := Option.ite_none_right_eq_some.mp hs
    cases hs
    exact h.addRoom hnew ownerId_not_mem_rpcMemberIds hsafe
  | readAdd roomId userId memberRole =>
    obtain ⟨room, -, rfl⟩ := Option.map_eq_some_iff.mp hs
    exact h.congr rfl rfl rfl fun _ hpair => hpair
  | commitAdd pending newId =>
    obtain ⟨-, hs⟩ := Option.ite_none_right_eq_some.mp hs
    cases hs
    exact (h.commitAdd hsafe).congr rfl rfl rfl fun _ hpair => hpair
  | updateMember roomId userId memberRole =>
    obtain ⟨room, -, rfl⟩ := Option.map_eq_some_iff.mp hs
    cases hupdate : updateMember s.members room userId memberRole with
    | error error => exact h
    | ok members =>
      exact h.congr rfl (map_pair_updateMember hupdate) rfl fun _ hpair => hpair
  | readRemoval roomId userId =>
    obtain ⟨room, -, rfl⟩ := Option.map_eq_some_iff.mp hs
    cases memberToRemove s.members room userId with
    | error error => exact h
    | ok member => exact h.congr rfl rfl rfl fun _ hpair => hpair
  | commitRemoval memberId =>
    obtain ⟨-, hs⟩ := Option.ite_none_right_eq_some.mp hs
    cases hs
    exact (h.commitRemoval hsafe).congr rfl rfl rfl fun _ hpair => hpair
  | authorizeSocket socketId roomId userId =>
    obtain ⟨room, hroom, hs⟩ := Option.bind_eq_some_iff.mp hs
    obtain ⟨user, huser, hs⟩ := Option.bind_eq_some_iff.mp hs
    obtain ⟨hread, hs⟩ := Option.ite_none_right_eq_some.mp hs
    cases hs
    exact h.authorizeSocket hroom huser hread
  | acceptSocket socketId =>
    cases hs
    refine h.congr rfl rfl rfl fun pair hpair => ?_
    obtain ⟨_, hsocket, rfl⟩ := List.mem_map.mp hpair
    obtain ⟨socket, hmem, rfl⟩ := List.mem_map.mp hsocket
    refine List.mem_map.mpr ⟨socket, hmem, ?_⟩
    split <;> rfl
  | closeSocket socketId =>
    cases hs
    refine h.congr rfl rfl rfl fun pair hpair => ?_
    obtain ⟨socket, hsocket, rfl⟩ := List.mem_map.mp hpair
    exact List.mem_map_of_mem (List.mem_filter.mp hsocket).1

def roomUsers : Accounts where
  users := [{ id := "u1", username := "ann", passwordHash := "" },
    { id := "u2", username := "bob", passwordHash := "" }]

/-- Distinct keys for the first rows. -/
def firstKeys (i : ℕ) : RowId :=
  if i = 0 then "k0" else if i = 1 then "k1" else "k2"

/-- Ann lists Bob twice when a plugin makes the room, and then removes him. -/
def listedTwice : List RoomEvent :=
  [.rpcCreateChatGroup "u1" { characterId := "ch", initialMemberIds := ["u2", "u2"] } "r" firstKeys,
    .readRemoval "r" "u2", .commitRemoval "k1"]

/-- Bob keeps his websocket open when he is removed. -/
def keptOpen : List RoomEvent :=
  [.createRoom "u1" { characterId := "ch", initialMemberIds := ["u2"] } "r" firstKeys,
    .authorizeSocket "w" "r" "u2", .acceptSocket "w", .readRemoval "r" "u2", .commitRemoval "k1"]

/-- Who was removed, is neither owner nor admin, and still reads or receives. -/
def exposed (settings : Settings) (accounts : Accounts) (s : RoomState) : List (RowId × RowId) :=
  s.removed.filter fun pair => (get s.rooms pair.1).any fun room =>
    (get accounts.users pair.2).any fun user =>
      room.ownerUserId ≠ pair.2 && !isAdmin settings accounts user &&
        (canReadChatGroup settings accounts s.members user room ||
          pair.2 ∈ receivers s pair.1)

lemma exposed_eq_nil (h : RoomsSafe settings accounts s) : exposed settings accounts s = [] := by
  refine List.filter_eq_nil_iff.mpr fun pair hpair hexposed => ?_
  rw [Option.any_eq_true] at hexposed
  obtain ⟨room, hroom, hexposed⟩ := hexposed
  rw [Option.any_eq_true] at hexposed
  obtain ⟨user, huser, hexposed⟩ := hexposed
  simp only [ne_eq, decide_not, Bool.and_eq_true, Bool.not_eq_true', decide_eq_false_iff_not,
    Bool.or_eq_true, decide_eq_true_eq] at hexposed
  obtain ⟨⟨howner, hadmin⟩, hexposed⟩ := hexposed
  obtain ⟨⟨hread, -⟩, hreceive⟩ := h.revoked pair.1 pair.2 hpair room user hroom huser howner hadmin
  rcases hexposed with hexposed | hexposed
  · rw [hread] at hexposed
    cases hexposed
  · exact hreceive hexposed

end CocoonSit
