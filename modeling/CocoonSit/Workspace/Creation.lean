import CocoonSit.Rooms.Membership
import CocoonSit.Workspace.Cocoons

/-!
# Characters and root cocoons

Two rules about who talks to which character: a caller may use the character they give a cocoon or a
room, and an owner has at most one root cocoon a character.  The creating route checks both before
it inserts its row.  An update checks neither, a plugin's `create_cocoon` neither, and between the
check and the insert of one request another request may insert a cocoon, or the access list may
change.
-/

namespace CocoonSit

open Table Relational TransitionSystem

namespace Creation

/-- The system settings and the table of models, as far as the routes read them. -/
structure SystemSettings where
  allowedModelIds : List RowId := []
  availableModels : List RowId := []
  defaultCocoonTemperature : Rat := 7 / 10
  defaultMaxContextMessages : ℤ := 12
  defaultAutoCompactionEnabled : Bool := true
  defaultMemoryProfile : String := "meta_reply"

structure CocoonCreate where
  name : String
  characterId : Option RowId := none
  selectedModelId : Option RowId := none
  parentId : Option RowId := none
  defaultTemperature : Option Rat := none
  maxContextMessages : Option ℤ := none
  autoCompactionEnabled : Option Bool := none
  memoryProfile : Option String := none

/-- The payload of the plugins' `create_cocoon`, and the user its owner fields resolve to. -/
structure RpcCocoonCreate where
  owner : Option User
  name : Option String := none
  characterId : Option RowId := none
  selectedModelId : Option RowId := none
  parentId : Option RowId := none
  defaultTemperature : Option Rat := none
  maxContextMessages : Option ℤ := none
  autoCompactionEnabled : Option Bool := none

/-- `ChatGroupRoomUpdate`, as far as the model has rooms. -/
structure ChatGroupRoomUpdate where
  characterId : Option RowId := none
  selectedModelId : Option RowId := none
  maxContextMessages : Option ℤ := none

/-- A request of `create_cocoon` whose checks have passed; its cocoon has no key yet. -/
structure PendingCreate where
  callId : ℕ
  user : User
  cocoon : Cocoon

structure Workspace where
  accounts : Accounts := {}
  db : IndexedDb := {}
  members : List ChatGroupMember := []
  pendingCreates : List PendingCreate := []

section Services

variable (settings : Settings) (system : SystemSettings)

/-! ## The routes -/

/-- `a or b` of texts. -/
def orText (a b : Option String) : Option String := (a.filter (· ≠ "")).or (b.filter (· ≠ ""))

/-- There is a root cocoon of this owner and character. -/
def hasRoot (cocoons : List Cocoon) (ownerUserId characterId : RowId) : Bool :=
  cocoons.any fun c =>
    c.ownerUserId = ownerUserId && c.characterId = characterId && c.parentId.isNone

def CocoonCreate.toCocoon (payload : CocoonCreate) (user : User) (parent : Option Cocoon)
    (characterId selectedModelId : RowId) : Cocoon where
  id := ""
  parentId := parent.map Cocoon.id
  ownerUserId := user.id
  characterId := characterId
  selectedModelId := selectedModelId
  name := payload.name
  defaultTemperature := payload.defaultTemperature.getD system.defaultCocoonTemperature
  maxContextMessages := payload.maxContextMessages.getD system.defaultMaxContextMessages
  autoCompactionEnabled := payload.autoCompactionEnabled.getD system.defaultAutoCompactionEnabled
  memoryProfile := payload.memoryProfile.getD system.defaultMemoryProfile

/-- `parent`, if the payload names one. -/
def requireParent (s : Workspace) (user : User) (payload : CocoonCreate) :
    Except HttpError (Option Cocoon) :=
  payload.parentId.elim (.ok none) fun parentId =>
    (requireCocoonAccess settings s.accounts s.db.cocoons user parentId false false).map some

/-- `POST /cocoons` up to its insert. -/
def createCocoon (s : Workspace) (user : User) (payload : CocoonCreate) :
    Except HttpError Cocoon :=
  (requireParent settings s user payload).bind fun parent =>
    match orText payload.characterId (parent.map Cocoon.characterId),
        orText payload.selectedModelId (parent.map Cocoon.selectedModelId) with
    | some characterId, some selectedModelId =>
      (requireCharacterUse settings s.accounts user characterId).bind fun _ =>
        if selectedModelId ∉ system.availableModels then .error ⟨404, "Model not found"⟩
        else (requireModelAllowed system.allowedModelIds selectedModelId).bind fun _ =>
          if parent.isNone && hasRoot s.db.cocoons user.id characterId then
            .error ⟨400, "A root cocoon already exists for this user and character"⟩
          else .ok (payload.toCocoon system user parent characterId selectedModelId)
    | _, _ =>
      .error ⟨400, if parent.isNone then
          "character_id and selected_model_id are required for root cocoon"
        else "Child cocoon could not resolve character_id or selected_model_id"⟩

/-- The insert of a cocoon, with its session state. -/
def insertCocoon (db : IndexedDb) (cocoon : Cocoon) (newTagId : RowId) (now : Timestamp) :
    IndexedDb :=
  { db with
    toDb := (ensureSessionState { db.toDb with cocoons := db.cocoons ++ [cocoon] }
      (.cocoon cocoon.id) newTagId now).1 }

/-- `_rpc_create_cocoon`: the cocoon it inserts. -/
def rpcCreateCocoon (s : Workspace) (payload : RpcCocoonCreate) (newId : RowId) :
    Except String Cocoon :=
  match payload.owner with
  | none => .error "owner must reference an existing user"
  | some owner =>
    let characterId := strip (payload.characterId.getD "")
    let selectedModelId := strip (payload.selectedModelId.getD "")
    let name := strip (payload.name.getD "")
    if characterId = "" ∨ get s.accounts.characters characterId = none then
      .error "character_id must reference an existing character"
    else if selectedModelId = "" ∨ selectedModelId ∉ system.availableModels then
      .error "selected_model_id must reference an existing model"
    else if name = "" then .error "name is required"
    else .ok
      { id := newId
        parentId := payload.parentId.bind stripOrNone
        ownerUserId := owner.id
        characterId := characterId
        selectedModelId := selectedModelId
        name := name
        defaultTemperature := payload.defaultTemperature.getD (7 / 10)
        maxContextMessages := payload.maxContextMessages.getD 12
        autoCompactionEnabled := payload.autoCompactionEnabled.getD true }

/-- A cocoon as the walk over its subtree sees it. -/
def cocoonRow (cocoon : Cocoon) : DbRow where
  table := .cocoons
  id := cocoon.id
  refs column :=
    match column with
    | .parentId => cocoon.parentId
    | .ownerUserId => some cocoon.ownerUserId
    | .characterId => some cocoon.characterId
    | .contextStartMessageId => cocoon.contextStartMessageId
    | .rollbackAnchorMsgId => cocoon.rollbackAnchorMsgId
    | _ => none
  data := {}

/-- `DELETE /cocoons/{cocoon_id}`: the cocoons that go. -/
def deletedCocoonIds (fuel : ℕ) (s : Workspace) (user : User) (cocoonId : RowId) :
    Except HttpError (Option (List RowId)) :=
  (requireCocoonAccess settings s.accounts s.db.cocoons user cocoonId true true).map fun cocoon =>
    collectCocoonSubtreeIds (s.db.cocoons.map cocoonRow) fuel cocoon.id

/-- `POST /chat-groups`. -/
def createChatGroup (s : Workspace) (user : User) (payload : ChatGroupRoomCreate)
    (selectedModelId roomId : RowId) (memberKeys : ℕ → RowId) : Except HttpError Workspace :=
  (requireCharacterUse settings s.accounts user payload.characterId).bind fun _ =>
    (requireModelAllowed system.allowedModelIds selectedModelId).map fun _ =>
      let created := createRoom { rooms := s.db.rooms, members := s.members } user.id payload roomId
        memberKeys
      { s with db := { s.db with rooms := created.rooms }, members := created.members }

def ChatGroupRoomUpdate.applyTo (payload : ChatGroupRoomUpdate) (room : ChatGroupRoom) :
    ChatGroupRoom :=
  { room with
    characterId := payload.characterId.getD room.characterId
    maxContextMessages := payload.maxContextMessages.getD room.maxContextMessages }

/-- `PATCH /chat-groups/{room_id}`. -/
def updateChatGroup (s : Workspace) (user : User) (roomId : RowId)
    (payload : ChatGroupRoomUpdate) : Except HttpError Workspace :=
  (requireChatGroupAccess settings s.accounts s.db.rooms s.members user roomId false true
    false).bind
    fun room =>
      (payload.characterId.elim (.ok ()) fun characterId =>
        (requireCharacterUse settings s.accounts user characterId).map fun _ => ()).bind fun _ =>
        (payload.selectedModelId.elim (.ok ())
          (requireModelAllowed system.allowedModelIds)).map fun _ =>
          let rooms := update s.db.rooms roomId fun _ => payload.applyTo room
          { s with db := { s.db with rooms := rooms } }

/-! ## Requests, one after the other and interleaved -/

inductive Event where
  /-- A request of `create_cocoon` comes to its insert. -/
  | checkCreate (callId : ℕ) (user : User) (payload : CocoonCreate)
  /-- It inserts its cocoon. -/
  | insertCreate (callId : ℕ) (newId newTagId : RowId) (now : Timestamp)
  | updateCocoon (user : User) (cocoonId : RowId) (payload : CocoonUpdate)
  | deleteCocoon (fuel : ℕ) (user : User) (cocoonId : RowId)
  | createChatGroup (user : User) (payload : ChatGroupRoomCreate)
      (selectedModelId roomId : RowId) (memberKeys : ℕ → RowId)
  | updateChatGroup (user : User) (roomId : RowId) (payload : ChatGroupRoomUpdate)
  | rpcCreateCocoon (payload : RpcCocoonCreate) (newId newTagId : RowId) (now : Timestamp)
  /-- Users, characters or access lists are edited. -/
  | editAccounts (accounts : Accounts)

def pendingCreate (s : Workspace) (callId : ℕ) : Option PendingCreate :=
  s.pendingCreates.find? fun p => p.callId = callId

/-- A request that fails changes nothing. -/
def step (s : Workspace) : Event → Option Workspace
  | .checkCreate callId user payload =>
    match createCocoon settings system s user payload with
    | .error _ => some s
    | .ok cocoon => some { s with pendingCreates := s.pendingCreates ++ [⟨callId, user, cocoon⟩] }
  | .insertCreate callId newId newTagId now =>
    match pendingCreate s callId with
    | none => none
    | some pending =>
      if newId ∈ s.db.cocoons.map key then none
      else some
        { s with
          db := insertCocoon s.db { pending.cocoon with id := newId } newTagId now
          pendingCreates := s.pendingCreates.filter fun p => p.callId ≠ callId }
  | .updateCocoon user cocoonId payload =>
    match updateCocoon settings s.accounts system.allowedModelIds s.db user cocoonId payload with
    | .error _ => some s
    | .ok db => some { s with db := db }
  | .deleteCocoon fuel user cocoonId =>
    match deletedCocoonIds settings fuel s user cocoonId with
    | .error _ => some s
    | .ok none => none
    | .ok (some ids) => some
        { s with db := { s.db with cocoons := s.db.cocoons.filter fun c => c.id ∉ ids } }
  | .createChatGroup user payload selectedModelId roomId memberKeys =>
    match createChatGroup settings system s user payload selectedModelId roomId memberKeys with
    | .error _ => some s
    | .ok s' => some s'
  | .updateChatGroup user roomId payload =>
    match updateChatGroup settings system s user roomId payload with
    | .error _ => some s
    | .ok s' => some s'
  | .rpcCreateCocoon payload newId newTagId now =>
    match rpcCreateCocoon system s payload newId with
    | .error _ => some s
    | .ok cocoon =>
      if newId ∈ s.db.cocoons.map key then none
      else some { s with db := insertCocoon s.db cocoon newTagId now }
  | .editAccounts accounts => some { s with accounts := accounts }

/-! ## The rules -/

/-- The user may use the character. -/
def MayUse (accounts : Accounts) (user : User) (characterId : RowId) : Prop :=
  ∃ character ∈ get accounts.characters characterId,
    canUseCharacter settings accounts user character = true

/-- Who sets which character where the request succeeds; a plugin acts for the owner. -/
def setsCharacter (s : Workspace) : Event → Option (User × RowId)
  | .insertCreate callId _ _ _ =>
    (pendingCreate s callId).map fun pending => (pending.user, pending.cocoon.characterId)
  | .updateCocoon user cocoonId payload =>
    (updateCocoon settings s.accounts system.allowedModelIds s.db user cocoonId
      payload).toOption.bind fun _ => payload.characterId.map fun id => (user, id)
  | .createChatGroup user payload selectedModelId roomId memberKeys =>
    (createChatGroup settings system s user payload selectedModelId roomId
      memberKeys).toOption.map fun _ => (user, payload.characterId)
  | .updateChatGroup user roomId payload =>
    (updateChatGroup settings system s user roomId payload).toOption.bind fun _ =>
      payload.characterId.map fun id => (user, id)
  | .rpcCreateCocoon payload newId _ _ =>
    (rpcCreateCocoon system s payload newId).toOption.bind fun cocoon =>
      payload.owner.map fun owner => (owner, cocoon.characterId)
  | .checkCreate .. | .deleteCocoon .. | .editAccounts _ => none

/-- Who sets a character and is no admin may use it at that moment. -/
def SetsUsable (s : Workspace) (e : Event) : Prop :=
  ∀ call ∈ setsCharacter settings system s e,
    isAdmin settings s.accounts call.1 = false → MayUse settings s.accounts call.1 call.2

/-- At most one root cocoon for an owner and a character. -/
def RootsUnique (cocoons : List Cocoon) : Prop :=
  ∀ c ∈ cocoons, ∀ c' ∈ cocoons, c.parentId = none → c'.parentId = none →
    c.ownerUserId = c'.ownerUserId → c.characterId = c'.characterId → c = c'

/-- The requests that do not ask are made by those who may: the caller of an update and the owner
that a plugin acts for may use the character, and a creating caller still may. -/
def CallerMayUse (s : Workspace) : Event → Prop
  | .insertCreate callId _ _ _ => ∀ pending ∈ pendingCreate s callId,
      isAdmin settings s.accounts pending.user = false →
        MayUse settings s.accounts pending.user pending.cocoon.characterId
  | .updateCocoon user cocoonId payload => ∀ id ∈ payload.characterId,
      (updateCocoon settings s.accounts system.allowedModelIds s.db user cocoonId payload).isOk →
        isAdmin settings s.accounts user = false → MayUse settings s.accounts user id
  | .rpcCreateCocoon payload newId _ _ => ∀ owner ∈ payload.owner,
      ∀ cocoon ∈ (rpcCreateCocoon system s payload newId).toOption,
        isAdmin settings s.accounts owner = false →
          MayUse settings s.accounts owner cocoon.characterId
  | .checkCreate .. | .deleteCocoon .. | .createChatGroup .. | .updateChatGroup ..
  | .editAccounts _ => True

/-- The requests that do not look find no root cocoon in the way: another root of the owner with the
character the update sets, a root of the owner that a plugin acts for, or one that has been inserted
since the check. -/
def NoRootInTheWay (s : Workspace) : Event → Prop
  | .insertCreate callId _ _ _ => ∀ pending ∈ pendingCreate s callId,
      pending.cocoon.parentId = none →
        hasRoot s.db.cocoons pending.cocoon.ownerUserId pending.cocoon.characterId = false
  | .updateCocoon user cocoonId payload => ∀ id ∈ payload.characterId,
      (updateCocoon settings s.accounts system.allowedModelIds s.db user cocoonId payload).isOk →
        ∀ cocoon ∈ get s.db.cocoons cocoonId, cocoon.parentId = none →
          hasRoot (s.db.cocoons.filter fun c => c.id ≠ cocoonId) cocoon.ownerUserId id = false
  | .rpcCreateCocoon payload newId _ _ =>
    ∀ cocoon ∈ (rpcCreateCocoon system s payload newId).toOption, cocoon.parentId = none →
      hasRoot s.db.cocoons cocoon.ownerUserId cocoon.characterId = false
  | .checkCreate .. | .deleteCocoon .. | .createChatGroup .. | .updateChatGroup ..
  | .editAccounts _ => True

end Services

variable {settings : Settings} {system : SystemSettings} {s s' : Workspace}

/-! ## Characters -/

lemma mayUse_of_require {accounts : Accounts} {user : User} {characterId : RowId}
    {character : Character}
    (h : requireCharacterUse settings accounts user characterId = .ok character) :
    MayUse settings accounts user characterId :=
  ⟨character, requireCharacterUse_eq_ok.mp h⟩

lemma mayUse_of_createChatGroup {user : User} {payload : ChatGroupRoomCreate}
    {selectedModelId roomId : RowId} {memberKeys : ℕ → RowId}
    (h : createChatGroup settings system s user payload selectedModelId roomId memberKeys =
      .ok s') :
    MayUse settings s.accounts user payload.characterId ∧
      s'.accounts = s.accounts ∧ s'.db.cocoons = s.db.cocoons := by
  obtain ⟨character, hcharacter, h⟩ := except_bind_eq_ok.mp h
  obtain ⟨-, -, rfl⟩ := except_map_eq_ok.mp h
  exact ⟨mayUse_of_require hcharacter, rfl, rfl⟩

lemma mayUse_of_updateChatGroup {user : User} {roomId : RowId} {payload : ChatGroupRoomUpdate}
    (h : updateChatGroup settings system s user roomId payload = .ok s') :
    (∀ id ∈ payload.characterId, MayUse settings s.accounts user id) ∧
      s'.accounts = s.accounts ∧ s'.db.cocoons = s.db.cocoons := by
  obtain ⟨room, -, h⟩ := except_bind_eq_ok.mp h
  obtain ⟨_, hcharacter, h⟩ := except_bind_eq_ok.mp h
  obtain ⟨-, -, rfl⟩ := except_map_eq_ok.mp h
  refine ⟨fun id hid => ?_, rfl, rfl⟩
  rw [Option.mem_def.mp hid, Option.elim_some] at hcharacter
  obtain ⟨character, hcharacter, -⟩ := except_map_eq_ok.mp hcharacter
  exact mayUse_of_require hcharacter

lemma setsUsable_iff (s : Workspace) (e : Event) :
    SetsUsable settings system s e ↔ CallerMayUse settings system s e := by
  unfold SetsUsable
  cases e with
  | checkCreate | deleteCocoon | editAccounts =>
    exact iff_of_true (fun call hcall => by cases hcall) trivial
  | insertCreate callId newId newTagId now =>
    simp only [setsCharacter, CallerMayUse, Option.mem_def, Option.map_eq_some_iff,
      forall_exists_index, and_imp]
    constructor
    · exact fun h pending hpending hadmin => h _ pending hpending rfl hadmin
    · rintro h - pending hpending rfl hadmin
      exact h pending hpending hadmin
  | updateCocoon user cocoonId payload =>
    simp only [setsCharacter, CallerMayUse]
    cases updateCocoon settings s.accounts system.allowedModelIds s.db user cocoonId payload with
    | error e => simp [Except.toOption, Except.isOk, Except.toBool]
    | ok db => simp [Except.toOption, Except.isOk, Except.toBool]
  | createChatGroup user payload selectedModelId roomId memberKeys =>
    refine iff_of_true (fun call hcall hadmin => ?_) trivial
    simp only [setsCharacter] at hcall
    cases hcreate : createChatGroup settings system s user payload selectedModelId roomId
        memberKeys with
    | error e =>
      rw [hcreate] at hcall
      cases hcall
    | ok s' =>
      rw [hcreate] at hcall
      cases hcall
      exact (mayUse_of_createChatGroup hcreate).1
  | updateChatGroup user roomId payload =>
    refine iff_of_true (fun call hcall hadmin => ?_) trivial
    simp only [setsCharacter] at hcall
    cases hupdate : updateChatGroup settings system s user roomId payload with
    | error e =>
      rw [hupdate] at hcall
      cases hcall
    | ok s' =>
      rw [hupdate] at hcall
      obtain ⟨id, hid, rfl⟩ := Option.map_eq_some_iff.mp hcall
      exact (mayUse_of_updateChatGroup hupdate).1 id hid
  | rpcCreateCocoon payload newId newTagId now =>
    simp only [setsCharacter, CallerMayUse]
    cases rpcCreateCocoon system s payload newId with
    | error e => simp [Except.toOption]
    | ok cocoon => simp [Except.toOption]

/-! ## Root cocoons -/

variable {cocoons : List Cocoon}

lemma hasRoot_eq_false {ownerUserId characterId : RowId} :
    hasRoot cocoons ownerUserId characterId = false ↔ ∀ c ∈ cocoons, c.parentId = none →
      c.ownerUserId = ownerUserId → c.characterId ≠ characterId := by
  simp only [hasRoot, List.any_eq_false, Bool.and_eq_true, decide_eq_true_eq,
    Option.isNone_iff_eq_none, not_and]
  constructor
  · exact fun h c hc hroot howner hcharacter => h c hc ⟨howner, hcharacter⟩ hroot
  · exact fun h c hc hsame hroot => h c hc hroot hsame.1 hsame.2

lemma RootsUnique.sublist {cocoons' : List Cocoon} (h : RootsUnique cocoons)
    (hsub : ∀ c ∈ cocoons', c ∈ cocoons) : RootsUnique cocoons' :=
  fun c hc c' hc' => h c (hsub c hc) c' (hsub c' hc')

lemma RootsUnique.others {cocoon : Cocoon} (h : RootsUnique cocoons) (hmem : cocoon ∈ cocoons)
    (hparent : cocoon.parentId = none) :
    hasRoot (cocoons.filter fun c => c.id ≠ cocoon.id) cocoon.ownerUserId cocoon.characterId =
      false := by
  refine hasRoot_eq_false.mpr fun c hc hroot howner hcharacter => ?_
  obtain ⟨hc, hne⟩ := List.mem_filter.mp hc
  have heq := h c hc cocoon hmem hroot hparent howner hcharacter
  rw [heq] at hne
  simp at hne

lemma rootsUnique_append_iff {cocoon : Cocoon} (hroots : RootsUnique cocoons)
    (hnew : cocoon.id ∉ cocoons.map key) :
    RootsUnique (cocoons ++ [cocoon]) ↔ (cocoon.parentId = none →
      hasRoot cocoons cocoon.ownerUserId cocoon.characterId = false) := by
  have hne : ∀ c ∈ cocoons, c ≠ cocoon := fun c hc heq => hnew (heq ▸ List.mem_map_of_mem hc)
  constructor
  · intro h hparent
    refine hasRoot_eq_false.mpr fun c hc hroot howner hcharacter => hne c hc ?_
    exact h c (List.mem_append_left _ hc) cocoon (List.mem_append_right _ List.mem_cons_self) hroot
      hparent howner hcharacter
  · intro h c hc c' hc' hroot hroot' howner hcharacter
    simp only [List.mem_append, List.mem_singleton] at hc hc'
    rcases hc with hold | rfl <;> rcases hc' with hold' | rfl
    · exact hroots c hold c' hold' hroot hroot' howner hcharacter
    · exact absurd hcharacter (hasRoot_eq_false.mp (h hroot') c hold hroot howner)
    · exact absurd hcharacter.symm (hasRoot_eq_false.mp (h hroot) c' hold' hroot' howner.symm)
    · rfl

lemma rootsUnique_update_iff {cocoon new : Cocoon} (hroots : RootsUnique cocoons)
    (hget : get cocoons cocoon.id = some cocoon) (hid : new.id = cocoon.id) :
    RootsUnique (update cocoons cocoon.id fun _ => new) ↔ (new.parentId = none →
      hasRoot (cocoons.filter fun c => c.id ≠ cocoon.id) new.ownerUserId new.characterId =
        false) := by
  have hnew : new ∈ update cocoons cocoon.id fun _ => new :=
    mem_update.mpr (.inl ⟨cocoon, mem_of_get hget, rfl, rfl⟩)
  have hother : ∀ c, c ∈ cocoons.filter (fun c => c.id ≠ cocoon.id) ↔
      c ∈ cocoons ∧ c.id ≠ cocoon.id := fun c => by
    rw [List.mem_filter, decide_eq_true_eq]
  have hmem : ∀ c, c ∈ update cocoons cocoon.id (fun _ => new) →
      c = new ∨ c ∈ cocoons.filter fun c => c.id ≠ cocoon.id := by
    intro c hc
    rcases mem_update.mp hc with ⟨-, -, -, rfl⟩ | ⟨hc, hne⟩
    · exact .inl rfl
    · exact .inr ((hother c).mpr ⟨hc, hne⟩)
  constructor
  · intro h hparent
    refine hasRoot_eq_false.mpr fun c hc hroot howner hcharacter => ?_
    obtain ⟨hc, hne⟩ := (hother c).mp hc
    have heq := h c (mem_update.mpr (.inr ⟨hc, hne⟩)) new hnew hroot hparent howner hcharacter
    exact hne (heq ▸ hid)
  · intro h c hc c' hc' hroot hroot' howner hcharacter
    rcases hmem c hc with rfl | hold <;> rcases hmem c' hc' with rfl | hold'
    · rfl
    · exact absurd hcharacter.symm (hasRoot_eq_false.mp (h hroot) c' hold' hroot' howner.symm)
    · exact absurd hcharacter (hasRoot_eq_false.mp (h hroot') c hold hroot howner)
    · exact hroots c ((hother c).mp hold).1 c' ((hother c').mp hold').1 hroot hroot' howner
        hcharacter

lemma cocoons_insertCocoon (db : IndexedDb) (cocoon : Cocoon) (newTagId : RowId)
    (now : Timestamp) : (insertCocoon db cocoon newTagId now).cocoons = db.cocoons ++ [cocoon] :=
  (ensureSessionState_frame { db.toDb with cocoons := db.cocoons ++ [cocoon] }
    (.cocoon cocoon.id) newTagId now).cocoons

lemma updateCocoon_cocoons {accounts : Accounts} {allowedModelIds : List RowId}
    {db db' : IndexedDb} {user : User} {cocoonId : RowId} {payload : CocoonUpdate}
    (h : updateCocoon settings accounts allowedModelIds db user cocoonId payload = .ok db') :
    ∃ cocoon, get db.cocoons cocoonId = some cocoon ∧
      db'.cocoons = update db.cocoons cocoonId fun _ => payload.applyTo cocoon := by
  obtain ⟨cocoon, haccess, h⟩ := except_bind_eq_ok.mp h
  obtain ⟨-, -, h⟩ := except_bind_eq_ok.mp h
  exact ⟨cocoon, (requireCocoonAccess_eq_ok.mp haccess).1,
    congrArg (fun db : IndexedDb => db.cocoons) (Except.ok.inj h).symm⟩

lemma rpcCreateCocoon_id {payload : RpcCocoonCreate} {newId : RowId} {cocoon : Cocoon}
    (h : rpcCreateCocoon system s payload newId = .ok cocoon) : cocoon.id = newId := by
  unfold rpcCreateCocoon at h
  split at h
  · cases h
  · dsimp only at h
    split_ifs at h
    cases h
    rfl

def KeysDistinct (s : Workspace) : Prop := (s.db.cocoons.map key).Nodup

lemma keysDistinct_insert {db : IndexedDb} {cocoon : Cocoon} {newTagId : RowId} {now : Timestamp}
    (hkeys : (db.cocoons.map key).Nodup) (hnew : cocoon.id ∉ db.cocoons.map key) :
    ((insertCocoon db cocoon newTagId now).cocoons.map key).Nodup := by
  rw [cocoons_insertCocoon, List.map_append, List.map_singleton, ← List.concat_eq_append]
  exact hkeys.concat hnew

lemma step_spec {e : Event} (hkeys : KeysDistinct s) (h : step settings system s e = some s') :
    KeysDistinct s' ∧ (RootsUnique s.db.cocoons →
      (RootsUnique s'.db.cocoons ↔ NoRootInTheWay settings system s e)) := by
  cases e with
  | checkCreate callId user payload =>
    simp only [step] at h
    split at h <;> cases h <;> exact ⟨hkeys, fun hroots => iff_of_true hroots trivial⟩
  | insertCreate callId newId newTagId now =>
    simp only [step] at h
    cases hpending : pendingCreate s callId with
    | none => simp [hpending] at h
    | some pending =>
      simp only [hpending] at h
      split at h
      · cases h
      · next hnew =>
        cases h
        refine ⟨keysDistinct_insert hkeys hnew, fun hroots => ?_⟩
        rw [cocoons_insertCocoon, rootsUnique_append_iff hroots hnew]
        simp [NoRootInTheWay, hpending]
  | updateCocoon user cocoonId payload =>
    simp only [step] at h
    split at h
    · next e herror =>
      cases h
      refine ⟨hkeys, fun hroots => iff_of_true hroots fun id _ hok => ?_⟩
      rw [herror] at hok
      cases hok
    · next db hupdate =>
      cases h
      obtain ⟨cocoon, hget, hcocoons⟩ := updateCocoon_cocoons hupdate
      obtain rfl : cocoon.id = cocoonId := key_of_get hget
      refine ⟨?_, fun hroots => ?_⟩
      · show (db.cocoons.map key).Nodup
        have hsame : (update s.db.cocoons cocoon.id fun _ => payload.applyTo cocoon).map key =
            s.db.cocoons.map key := map_key_update_of_key fun _ _ => rfl
        rw [hcocoons, hsame]
        exact hkeys
      · show RootsUnique db.cocoons ↔ _
        rw [hcocoons, rootsUnique_update_iff hroots hget
          (show (payload.applyTo cocoon).id = cocoon.id from rfl)]
        simp only [NoRootInTheWay, hupdate, Except.isOk, Except.toBool, forall_const,
          hget, Option.mem_def, Option.some.injEq, forall_eq']
        cases hcharacter : payload.characterId with
        | some id => simp [CocoonUpdate.applyTo, hcharacter]
        | none =>
          -- without a character the update leaves the roots as they are
          refine iff_of_true (fun hparent => ?_) (by simp)
          have hothers := hroots.others (mem_of_get hget) hparent
          simpa [CocoonUpdate.applyTo, hcharacter] using hothers
  | deleteCocoon fuel user cocoonId =>
    simp only [step] at h
    split at h
    · cases h
      exact ⟨hkeys, fun hroots => iff_of_true hroots trivial⟩
    · cases h
    · cases h
      refine ⟨hkeys.sublist (List.filter_sublist.map key), fun hroots => ?_⟩
      exact iff_of_true (hroots.sublist fun c hc => List.mem_of_mem_filter hc) trivial
  | createChatGroup user payload selectedModelId roomId memberKeys =>
    simp only [step] at h
    split at h
    · cases h
      exact ⟨hkeys, fun hroots => iff_of_true hroots trivial⟩
    · next hcreate =>
      cases h
      have hcocoons := (mayUse_of_createChatGroup hcreate).2.2
      rw [KeysDistinct, hcocoons]
      exact ⟨hkeys, fun hroots => iff_of_true hroots trivial⟩
  | updateChatGroup user roomId payload =>
    simp only [step] at h
    split at h
    · cases h
      exact ⟨hkeys, fun hroots => iff_of_true hroots trivial⟩
    · next hupdate =>
      cases h
      have hcocoons := (mayUse_of_updateChatGroup hupdate).2.2
      rw [KeysDistinct, hcocoons]
      exact ⟨hkeys, fun hroots => iff_of_true hroots trivial⟩
  | rpcCreateCocoon payload newId newTagId now =>
    simp only [step] at h
    split at h
    · next e herror =>
      cases h
      refine ⟨hkeys, fun hroots => iff_of_true hroots fun cocoon hcocoon => ?_⟩
      rw [herror] at hcocoon
      cases hcocoon
    · next cocoon hcreate =>
      split at h
      · cases h
      · next hnew =>
        cases h
        have hid : cocoon.id = newId := rpcCreateCocoon_id hcreate
        rw [← hid] at hnew
        refine ⟨keysDistinct_insert hkeys hnew, fun hroots => ?_⟩
        rw [cocoons_insertCocoon, rootsUnique_append_iff hroots hnew]
        simp [NoRootInTheWay, hcreate, Except.toOption]
  | editAccounts accounts =>
    cases h
    exact ⟨hkeys, fun hroots => iff_of_true hroots trivial⟩

/-- In every run of the routes and the plugins' call, with requests interleaved and access lists
edited in between, whoever sets a character may use it and the root cocoons stay unique, exactly
when the requests that do not ask are made by those who may, and those that do not look find no root
cocoon in the way. -/
theorem rulesKept_iff (settings : Settings) (system : SystemSettings) (s₀ s : Workspace)
    (es : List Event) (hkeys : KeysDistinct s₀) (hroots : RootsUnique s₀.db.cocoons)
    (hrun : run (step settings system) s₀ es = some s) :
    (StepsMeet (step settings system) (SetsUsable settings system) s₀ es ∧
        AllStates (step settings system) (fun s => RootsUnique s.db.cocoons) s₀ es) ↔
      StepsMeet (step settings system) (fun s e =>
        CallerMayUse settings system s e ∧ NoRootInTheWay settings system s e) s₀ es := by
  rw [stepsMeet_and]
  refine and_congr ?_ ?_
  · exact stepsMeet_congr (fun _ => True) (fun _ _ _ _ _ => trivial)
      (fun s e _ => setsUsable_iff s e) trivial
  · exact allStates_iff_stepsMeet KeysDistinct (fun s e s' h hs => (step_spec h hs).1)
      (fun s e s' h hunique hs => (step_spec h hs).2 hunique) hkeys hroots hrun

/-- A user without a role. -/
def ann : User where
  id := "u1"
  username := "ann"
  passwordHash := "h1"

/-- Two characters: `ann`'s, and one that is somebody else's. -/
def twoCharacters : Workspace where
  accounts :=
    { users := [ann]
      characters := [{ id := "ch1", createdByUserId := some "u1" },
                     { id := "ch2", createdByUserId := some "u2" }] }

def oneModel : SystemSettings where
  availableModels := ["m1"]

/-- `ann` asks for a root cocoon with her character. -/
def asks (callId : ℕ) : Event :=
  .checkCreate callId ann
    { name := "home", characterId := some "ch1", selectedModelId := some "m1" }

/-- She creates a cocoon and gives it the other character. -/
def switches : List Event :=
  [asks 1, .insertCreate 1 "c1" "t1" 0, .updateCocoon ann "c1" { characterId := some "ch2" }]

/-- Two of her requests are checked before either inserts. -/
def asksTwice : List Event :=
  [asks 1, asks 2, .insertCreate 1 "c1" "t1" 0, .insertCreate 2 "c2" "t2" 1]

/-- An update sets a character its caller may not use, and two requests make two root cocoons. -/
theorem rules_broken :
    (∃ s, run (step {} oneModel) twoCharacters switches = some s ∧
      ¬ StepsMeet (step {} oneModel) (SetsUsable {} oneModel) twoCharacters switches) ∧
    ∃ s, run (step {} oneModel) twoCharacters asksTwice = some s ∧
      ¬ AllStates (step {} oneModel) (fun s => RootsUnique s.db.cocoons) twoCharacters
        asksTwice := by
  refine ⟨⟨_, rfl, fun h => ?_⟩, ⟨_, rfl, fun h => ?_⟩⟩
  · obtain ⟨character, hget, huse⟩ := h.2.2.1 (ann, "ch2") (by decide) (by decide)
    have hother : character = { id := "ch2", createdByUserId := some "u2" } :=
      (Option.some.inj hget).symm
    rw [hother] at huse
    exact absurd huse (by decide)
  · have hlast := h.last rfl
    have hsame := hlast _ (List.mem_cons_self) _ (List.mem_cons_of_mem _ List.mem_cons_self) rfl rfl
      rfl rfl
    exact absurd (congrArg Cocoon.id hsame) (by decide)

/-- One request after the other: the second finds the root cocoon of the first. -/
theorem asks_in_turn :
    StepsMeet (step {} oneModel) (SetsUsable {} oneModel) twoCharacters
        [asks 1, .insertCreate 1 "c1" "t1" 0, asks 2] ∧
      AllStates (step {} oneModel) (fun s => RootsUnique s.db.cocoons) twoCharacters
        [asks 1, .insertCreate 1 "c1" "t1" 0, asks 2] := by
  refine (rulesKept_iff {} oneModel twoCharacters _ _ List.nodup_nil (fun c hc => by cases hc)
    rfl).mpr ?_
  refine ⟨⟨trivial, trivial⟩, ⟨fun pending hpending _ => ?_, fun pending _ _ => rfl⟩,
    ⟨trivial, trivial⟩, trivial⟩
  obtain rfl := Option.some.inj hpending
  exact ⟨_, rfl, by decide⟩

end Creation

end CocoonSit
