import CocoonSit.Client.SessionStore
import CocoonSit.Lib.Run
import CocoonSit.Messages.Paging

/-!
# Loading older messages

The web client keeps the end of a conversation and loads what is before it in pages.  The cursor is
the first entry of its list that is visible; a page is cut from all the messages of the server, the
hidden ones included.  A call makes progress only if the cursor is a message of the server and the
page that ends before it begins before what has been loaded.
-/

namespace CocoonSit.Client

open Table TransitionSystem Paging

/-! ## Legacy ids -/

/-- A namespace of the id map: the client's numbers for the server's ids. -/
structure IdMap where
  actualToLegacy : RowId → Option ℕ
  legacyToActual : ℕ → Option RowId
  next : ℕ
  linked : ∀ a n, actualToLegacy a = some n ↔ legacyToActual n = some a
  inRange : ∀ a n, actualToLegacy a = some n → 0 < n ∧ n < next
  next_pos : 0 < next

/-- The map of a new browser session. -/
def IdMap.empty : IdMap where
  actualToLegacy := fun _ => none
  legacyToActual := fun _ => none
  next := 1
  linked := by simp
  inRange := by simp
  next_pos := Nat.one_pos

/-- `ids` with a number for an id that has none. -/
def IdMap.assign (ids : IdMap) (actualId : RowId) (h : ids.actualToLegacy actualId = none) :
    IdMap where
  actualToLegacy := Function.update ids.actualToLegacy actualId (some ids.next)
  legacyToActual := Function.update ids.legacyToActual ids.next (some actualId)
  next := ids.next + 1
  linked := by
    intro a n
    have hfree : ids.legacyToActual ids.next = none := by
      rw [Option.eq_none_iff_forall_ne_some]
      intro b hb
      exact absurd (ids.inRange b _ ((ids.linked b _).mpr hb)).2 (lt_irrefl _)
    by_cases ha : a = actualId <;> by_cases hn : n = ids.next
    · subst ha hn
      simp
    · subst ha
      have hlink := ids.linked a n
      rw [h] at hlink
      simpa [hn, Ne.symm hn] using hlink
    · subst hn
      have hlink := ids.linked a ids.next
      rw [hfree] at hlink
      simpa [ha, Ne.symm ha] using hlink
    · simpa [ha, hn] using ids.linked a n
  inRange := by
    intro a n han
    by_cases ha : a = actualId
    · subst ha
      obtain rfl : ids.next = n := by simpa using han
      exact ⟨ids.next_pos, Nat.lt_succ_self _⟩
    · obtain ⟨hpos, hlt⟩ := ids.inRange a n (by simpa [ha] using han)
      exact ⟨hpos, Nat.lt_succ_of_lt hlt⟩
  next_pos := Nat.succ_pos _

def rememberLegacyId (ids : IdMap) (actualId : RowId) : IdMap × ℕ :=
  match h : ids.actualToLegacy actualId with
  | some existing => (ids, existing)
  | none => (ids.assign actualId h, ids.next)

/-- `resolveActualId` of a number. -/
def resolveActualId (ids : IdMap) (legacyId : ℕ) : RowId :=
  (ids.legacyToActual legacyId).getD (toString legacyId)

/-! ## Requests -/

/-- `mapWorkspaceMessage`; the client's clock has milliseconds. -/
def mapWorkspaceMessage (ids : IdMap) (item : Message) : IdMap × MessageRead :=
  let (ids, id) := rememberLegacyId ids item.id
  (ids,
    { id := id
      messageUid := item.id
      createdAt := (item.createdAt / 1000 : ℕ)
      isThought := item.isThought
      isRetracted := item.isRetracted })

/-- `pageItems.map(mapWorkspaceMessage)`. -/
def mapWorkspaceMessages (ids : IdMap) : List Message → IdMap × List MessageRead
  | [] => (ids, [])
  | item :: items =>
    let (ids, message) := mapWorkspaceMessage ids item
    let (ids, messages) := mapWorkspaceMessages ids items
    (ids, message :: messages)

/-- The id of an optimistic entry. -/
def pendingUid (actionId : String) : RowId := "pending:" ++ actionId

/-- `createPendingUserMessage`, of a message sent `now`. -/
def createPendingUserMessage (ids : IdMap) (actionId : String) (now : ℤ) : IdMap × MessageRead :=
  let (ids, id) := rememberLegacyId ids (pendingUid actionId)
  (ids, { id := id, messageUid := pendingUid actionId, createdAt := now })

/-- What the client's message requests return. -/
structure ChatMessagePage where
  items : List MessageRead
  hasMore : Bool

/-- The items of a page.  One more than fits is asked for, to see whether there are more; it is the
oldest. -/
def pageItems (pageSize : ℕ) (rawItems : List Message) : List Message :=
  if pageSize < rawItems.length then rawItems.drop 1 else rawItems

/-- `getCocoonMessages`; `none` when the server answers 404. -/
def getCocoonMessages (db : Db) (ids : IdMap) (cocoonId : RowId) (beforeMessageId : Option ℕ)
    (pageSize : ℕ) : Option (IdMap × ChatMessagePage) :=
  let beforeActual := (beforeMessageId.filter (· ≠ 0)).map (resolveActualId ids)
  (listMessages db (.cocoon cocoonId) beforeActual (some (pageSize + 1))).map fun rawItems =>
    let (ids, items) := mapWorkspaceMessages ids (pageItems pageSize rawItems)
    (ids, ⟨items, decide (pageSize < rawItems.length)⟩)

/-! ## The workspace -/

/-- What the page of a cocoon keeps. -/
structure Workspace where
  ids : IdMap
  session : ChatSessionState
  hasMore : Bool

def visibleMessages (s : ChatSessionState) : List MessageRead :=
  s.messages.filter fun item => !item.isThought

def workspacePageSize : ℕ := 50

/-- What `loadWorkspace` does with the messages. -/
def reloadMessages (db : Db) (cocoonId : RowId) (w : Workspace) : Workspace :=
  match getCocoonMessages db w.ids cocoonId none workspacePageSize with
  | none => w
  | some (ids, page) =>
    { ids := ids
      session := setMessages (sortMessages page.items) w.session
      hasMore := page.hasMore }

def loadOlderMessages (db : Db) (cocoonId : RowId) (w : Workspace) : Workspace :=
  match visibleMessages w.session with
  | [] => w
  | oldest :: _ =>
    match getCocoonMessages db w.ids cocoonId (some oldest.id) workspacePageSize with
    | none => w
    | some (ids, page) =>
      { ids := ids
        session := prependMessages (sortMessages page.items) w.session
        hasMore := page.hasMore }

/-- The optimistic entry of `handleSendMessage`. -/
def addPendingMessage (actionId : String) (now : ℤ) (w : Workspace) : Workspace :=
  let (ids, message) := createPendingUserMessage w.ids actionId now
  { w with ids := ids, session := upsertMessage message w.session }

/-- What changes the list while the history of the server stands. -/
inductive WorkspaceEvent where
  | older
  | send (actionId : String) (now : ℤ)
deriving DecidableEq

/-- Older messages can be asked for while there are more. -/
def workspaceStep (db : Db) (cocoonId : RowId) (w : Workspace) : WorkspaceEvent → Option Workspace
  | .older => if w.hasMore then some (loadOlderMessages db cocoonId w) else none
  | .send actionId now => some (addPendingMessage actionId now w)

/-! ## What is loaded -/

/-- The history that the server lists. -/
abbrev history (db : Db) (cocoonId : RowId) : List Message := listCocoonLineageMessages db cocoonId

/-- There is an entry for the id. -/
def Loaded (w : Workspace) (uid : RowId) : Prop := ∃ e ∈ w.session.messages, e.messageUid = uid

instance (w : Workspace) (uid : RowId) : Decidable (Loaded w uid) :=
  inferInstanceAs (Decidable (∃ e ∈ w.session.messages, e.messageUid = uid))

/-- Everything is loaded, once. -/
def Complete (db : Db) (cocoonId : RowId) (w : Workspace) : Prop :=
  ∀ m ∈ history db cocoonId, (w.session.messages.map MessageRead.messageUid).count m.id = 1

/-- Ids that `new_id` draws are no ids of optimistic entries. -/
structure ServerIds (db : Db) : Prop extends MessageIds db where
  notPending : ∀ m ∈ db.messages, ∀ actionId, m.id ≠ pendingUid actionId

/-- The client's list is the end of the history, with optimistic entries in it, and `hasMore` tells
whether that is all. -/
structure ShowsEnd (db : Db) (cocoonId : RowId) (w : Workspace) : Prop where
  nodup : (w.session.messages.map key).Nodup
  mapped : ∀ e ∈ w.session.messages, w.ids.legacyToActual e.id = some e.messageUid
  entries : ∀ e ∈ w.session.messages,
    (∃ m ∈ history db cocoonId, m.id = e.messageUid) ∨
      ∃ actionId, e.messageUid = pendingUid actionId
  suffix : ∃ k, ∀ m ∈ history db cocoonId, Loaded w m.id ↔ m ∈ (history db cocoonId).rtake k
  hasMore : w.hasMore = true ↔ ∃ m ∈ history db cocoonId, ¬ Loaded w m.id

/-- The first visible entry is the message `m` of the history; what is missing is older, and less
than a page of what is loaded is. -/
structure Reaches (db : Db) (cocoonId : RowId) (w : Workspace) (m : Message) : Prop where
  shown : m ∈ history db cocoonId
  first : (visibleMessages w.session).head?.map MessageRead.messageUid = some m.id
  missing : ∀ r ∈ history db cocoonId, ¬ Loaded w r.id → r.stamp < m.stamp
  few : (before Message.stamp (history db cocoonId) m).countP (fun r => decide (Loaded w r.id)) <
    workspacePageSize

/-- The condition on a call. -/
def CursorReaches (db : Db) (cocoonId : RowId) (w : Workspace) (e : WorkspaceEvent) : Prop :=
  e = .older → w.hasMore = true → ∃ m, Reaches db cocoonId w m

/-- A call loads a message that was not there. -/
def LoadsNew (db : Db) (cocoonId : RowId) (w : Workspace) (e : WorkspaceEvent) (w' : Workspace) :
    Prop :=
  e = .older → ∃ m ∈ history db cocoonId, ¬ Loaded w m.id ∧ Loaded w' m.id

/-! ## The id map grows -/

/-- Numbers that are given keep their ids. -/
def IdMap.Extends (ids' ids : IdMap) : Prop :=
  ∀ n a, ids.legacyToActual n = some a → ids'.legacyToActual n = some a

lemma IdMap.extends_assign (ids : IdMap) {actualId : RowId}
    (h : ids.actualToLegacy actualId = none) : (ids.assign actualId h).Extends ids := by
  intro n a hna
  have hn : n ≠ ids.next := by
    rintro rfl
    exact absurd (ids.inRange a _ ((ids.linked a _).mpr hna)).2 (lt_irrefl _)
  simp [IdMap.assign, hn, hna]

lemma rememberLegacyId_of_some {ids : IdMap} {actualId : RowId} {existing : ℕ}
    (h : ids.actualToLegacy actualId = some existing) :
    rememberLegacyId ids actualId = (ids, existing) := by
  unfold rememberLegacyId
  split
  · next existing' h' => rw [Option.some.inj (h.symm.trans h')]
  · next h' => exact absurd (h.symm.trans h') (Option.some_ne_none _)

lemma rememberLegacyId_of_none {ids : IdMap} {actualId : RowId}
    (h : ids.actualToLegacy actualId = none) :
    rememberLegacyId ids actualId = (ids.assign actualId h, ids.next) := by
  unfold rememberLegacyId
  split
  · next existing h' => exact absurd (h'.symm.trans h) (Option.some_ne_none _)
  · rfl

lemma rememberLegacyId_spec (ids : IdMap) (actualId : RowId) :
    (rememberLegacyId ids actualId).1.legacyToActual (rememberLegacyId ids actualId).2 =
        some actualId ∧
      (rememberLegacyId ids actualId).1.Extends ids := by
  cases h : ids.actualToLegacy actualId with
  | some existing =>
    rw [rememberLegacyId_of_some h]
    exact ⟨(ids.linked _ _).mp h, fun _ _ hna => hna⟩
  | none =>
    rw [rememberLegacyId_of_none h]
    exact ⟨by simp [IdMap.assign], ids.extends_assign h⟩

lemma mapWorkspaceMessages_spec (ids : IdMap) (items : List Message) :
    (mapWorkspaceMessages ids items).1.Extends ids ∧
      (∀ e ∈ (mapWorkspaceMessages ids items).2,
        (mapWorkspaceMessages ids items).1.legacyToActual e.id = some e.messageUid) ∧
      (mapWorkspaceMessages ids items).2.map MessageRead.messageUid = items.map Message.id := by
  induction items generalizing ids with
  | nil => exact ⟨fun _ _ hna => hna, by simp [mapWorkspaceMessages], rfl⟩
  | cons item items ih =>
    obtain ⟨hgiven, hkeeps⟩ := rememberLegacyId_spec ids item.id
    obtain ⟨hextends, hmapped, huids⟩ := ih (rememberLegacyId ids item.id).1
    refine ⟨fun n a hna => hextends n a (hkeeps n a hna), ?_, ?_⟩
    · intro e he
      rcases List.mem_cons.mp he with rfl | he
      · exact hextends _ _ hgiven
      · exact hmapped e he
    · rw [List.map_cons, ← huids]
      rfl

/-! ## Merged lists -/

lemma nodup_foldl_put {items : List MessageRead} {acc : List MessageRead}
    (h : (acc.map key).Nodup) : ((items.foldl put acc).map key).Nodup := by
  induction items generalizing acc with
  | nil => exact h
  | cons item items ih => exact ih (nodup_put h)

lemma mem_of_mem_foldl_put {items : List MessageRead} {acc : List MessageRead} {e : MessageRead}
    (h : e ∈ items.foldl put acc) : e ∈ acc ∨ e ∈ items := by
  induction items generalizing acc with
  | nil => exact .inl h
  | cons item items ih =>
    rcases ih h with h | h
    · rcases mem_put h with rfl | h
      · exact .inr List.mem_cons_self
      · exact .inl h
    · exact .inr (List.mem_cons_of_mem _ h)

lemma key_mem_foldl_put {items : List MessageRead} {acc : List MessageRead} {k : ℕ} :
    k ∈ (items.foldl put acc).map key ↔ k ∈ acc.map key ∨ k ∈ items.map key := by
  induction items generalizing acc with
  | nil => simp
  | cons item items ih =>
    have hput : k ∈ (put acc item).map key ↔ k = key item ∨ k ∈ acc.map key := by
      rw [← get_isSome_iff, get_put, ← get_isSome_iff]
      split <;> simp_all
    rw [List.foldl_cons, ih, hput, List.map_cons, List.mem_cons]
    tauto

lemma mem_sortMessages {items : List MessageRead} {e : MessageRead} :
    e ∈ sortMessages items ↔ e ∈ items := mem_orderBy

lemma mem_of_mem_mergeMessages {existing nextItems : List MessageRead} {e : MessageRead}
    (h : e ∈ mergeMessages existing nextItems) : e ∈ existing ∨ e ∈ nextItems := by
  rcases mem_of_mem_foldl_put (mem_sortMessages.mp h) with h | h
  · cases h
  · exact List.mem_append.mp h

lemma nodup_mergeMessages (existing nextItems : List MessageRead) :
    ((mergeMessages existing nextItems).map key).Nodup := by
  have hperm := (perm_orderBy (fun m : MessageRead => toLex (m.createdAt, m.id))
    ((existing ++ nextItems).foldl put [])).map key
  exact hperm.nodup_iff.mpr (nodup_foldl_put (by simp))

lemma exists_mergeMessages_iff {ids : IdMap} {existing nextItems : List MessageRead}
    (hexisting : ∀ e ∈ existing, ids.legacyToActual e.id = some e.messageUid)
    (hnext : ∀ e ∈ nextItems, ids.legacyToActual e.id = some e.messageUid) {uid : RowId} :
    (∃ e ∈ mergeMessages existing nextItems, e.messageUid = uid) ↔
      (∃ e ∈ existing, e.messageUid = uid) ∨ ∃ e ∈ nextItems, e.messageUid = uid := by
  constructor
  · rintro ⟨e, he, rfl⟩
    exact (mem_of_mem_mergeMessages he).imp (fun h => ⟨e, h, rfl⟩) fun h => ⟨e, h, rfl⟩
  · intro h
    obtain ⟨e, he, rfl⟩ : ∃ e ∈ existing ++ nextItems, e.messageUid = uid := by
      rcases h with ⟨e, he, rfl⟩ | ⟨e, he, rfl⟩
      · exact ⟨e, List.mem_append_left _ he, rfl⟩
      · exact ⟨e, List.mem_append_right _ he, rfl⟩
    have hall : ∀ e ∈ existing ++ nextItems, ids.legacyToActual e.id = some e.messageUid :=
      fun e he => (List.mem_append.mp he).elim (hexisting e) (hnext e)
    have hkey : key e ∈ ((existing ++ nextItems).foldl put []).map key :=
      key_mem_foldl_put.mpr (.inr (List.mem_map_of_mem he))
    obtain ⟨e', he', hid⟩ := List.mem_map.mp hkey
    have hfrom := (mem_of_mem_foldl_put he').resolve_left List.not_mem_nil
    refine ⟨e', mem_sortMessages.mpr he', ?_⟩
    have hsame : e'.id = e.id := hid
    have huid := hall e' hfrom
    rw [hsame, hall e he] at huid
    exact (Option.some.inj huid).symm

/-! ## A page -/

variable {db : Db} {cocoonId : RowId} {w : Workspace} {m : Message}

lemma pageItems_rtake (l : List Message) (n : ℕ) : pageItems n (l.rtake (n + 1)) = l.rtake n := by
  unfold pageItems
  rw [length_rtake]
  split
  · next h =>
    rw [List.rtake, List.rtake, List.drop_drop]
    congr 1
    omega
  · next h =>
    rw [List.rtake, List.rtake]
    congr 1
    omega

lemma getCocoonMessages_eq {ids : IdMap} {before : Option ℕ} {n : ℕ} {rows : List Message}
    (h : listMessages db (.cocoon cocoonId)
      ((before.filter (· ≠ 0)).map (resolveActualId ids)) (some (n + 1)) =
        some (rows.rtake (n + 1))) :
    getCocoonMessages db ids cocoonId before n =
      some ((mapWorkspaceMessages ids (rows.rtake n)).1,
        ⟨(mapWorkspaceMessages ids (rows.rtake n)).2, decide (n < rows.length)⟩) := by
  have hmore : n < (rows.rtake (n + 1)).length ↔ n < rows.length := by
    rw [length_rtake]
    omega
  rw [getCocoonMessages, h, Option.map_some, pageItems_rtake]
  simp only [hmore]

lemma resolve_of_mapped {ids : IdMap} {n : ℕ} {uid : RowId}
    (h : ids.legacyToActual n = some uid) :
    ((some n).filter (· ≠ 0)).map (resolveActualId ids) = some uid := by
  have hpos := (ids.inRange uid n ((ids.linked uid n).mpr h)).1
  have hfilter : (some n).filter (fun n => decide (n ≠ 0)) = some n := by
    simp [Nat.pos_iff_ne_zero.mp hpos]
  rw [hfilter, Option.map_some, resolveActualId, h, Option.getD_some]

lemma loadOlderMessages_eq (h : MessageIds db) (hw : ShowsEnd db cocoonId w)
    (hm : m ∈ history db cocoonId)
    (hfirst : (visibleMessages w.session).head?.map MessageRead.messageUid = some m.id) :
    loadOlderMessages db cocoonId w =
      let page := (before Message.stamp (history db cocoonId) m).rtake workspacePageSize
      { ids := (mapWorkspaceMessages w.ids page).1
        session := prependMessages (sortMessages (mapWorkspaceMessages w.ids page).2) w.session
        hasMore := decide
          (workspacePageSize < (before Message.stamp (history db cocoonId) m).length) } := by
  cases hvisible : visibleMessages w.session with
  | nil =>
    rw [hvisible] at hfirst
    cases hfirst
  | cons e rest =>
    rw [hvisible] at hfirst
    have huid : e.messageUid = m.id := Option.some.inj hfirst
    have he : e ∈ w.session.messages :=
      List.mem_of_mem_filter (hvisible ▸ List.mem_cons_self : e ∈ visibleMessages w.session)
    have hmapped := hw.mapped e he
    rw [huid] at hmapped
    have hlist := (pages_listMessages h (Nat.succ_pos workspacePageSize)).before m hm
    rw [← resolve_of_mapped hmapped] at hlist
    simp only [loadOlderMessages, hvisible, getCocoonMessages_eq hlist]

lemma loaded_prepend {page : List Message} {hasMore : Bool} {uid : RowId}
    (hmapped : ∀ e ∈ w.session.messages, w.ids.legacyToActual e.id = some e.messageUid) :
    Loaded ⟨(mapWorkspaceMessages w.ids page).1,
        prependMessages (sortMessages (mapWorkspaceMessages w.ids page).2) w.session, hasMore⟩ uid ↔
      Loaded w uid ∨ ∃ r ∈ page, r.id = uid := by
  obtain ⟨hextends, hpage, huids⟩ := mapWorkspaceMessages_spec w.ids page
  have hmem : (∃ e ∈ (mapWorkspaceMessages w.ids page).2, e.messageUid = uid) ↔
      ∃ r ∈ page, r.id = uid := by
    rw [← List.mem_map, ← List.mem_map, huids]
  refine (exists_mergeMessages_iff (fun e he => hextends _ _ (hmapped e he))
    fun e he => hpage e (mem_sortMessages.mp he)).trans (or_congr_right ?_)
  simp only [mem_sortMessages, hmem]

lemma loaded_set {page : List Message} {hasMore : Bool} {uid : RowId} :
    Loaded ⟨(mapWorkspaceMessages w.ids page).1,
        setMessages (sortMessages (mapWorkspaceMessages w.ids page).2) w.session, hasMore⟩ uid ↔
      ∃ r ∈ page, r.id = uid := by
  obtain ⟨-, -, huids⟩ := mapWorkspaceMessages_spec w.ids page
  have hmem : (∃ e ∈ (mapWorkspaceMessages w.ids page).2, e.messageUid = uid) ↔
      ∃ r ∈ page, r.id = uid := by
    rw [← List.mem_map, ← List.mem_map, huids]
  simp only [Loaded, setMessages, mem_sortMessages, hmem]

/-! ## The end of the history -/

lemma id_injOn (h : MessageIds db) {a b : Message} (ha : a ∈ history db cocoonId)
    (hb : b ∈ history db cocoonId) (hid : a.id = b.id) : a = b :=
  List.inj_on_of_nodup_map h.unique ((mem_listCocoonLineageMessages h).mp ha).1
    ((mem_listCocoonLineageMessages h).mp hb).1 hid

lemma ShowsEnd.missing_iff (h : MessageIds db) {k : ℕ}
    (hk : ∀ m ∈ history db cocoonId, Loaded w m.id ↔ m ∈ (history db cocoonId).rtake k) :
    (m ∈ history db cocoonId ∧ ¬ Loaded w m.id) ↔ m ∈ (history db cocoonId).rdrop k := by
  constructor
  · rintro ⟨hm, hmissing⟩
    rw [hk m hm] at hmissing
    rw [← rdrop_append_rtake (history db cocoonId) k, List.mem_append] at hm
    exact hm.resolve_right hmissing
  · intro hm
    have hmem : m ∈ history db cocoonId := List.mem_of_mem_take hm
    refine ⟨hmem, fun hloaded => ?_⟩
    exact notMem_rtake_of_mem_rdrop (nodup_listCocoonLineageMessages h) hm ((hk m hmem).mp hloaded)

lemma before_eq (h : MessageIds db) {k : ℕ}
    (hk : ∀ m ∈ history db cocoonId, Loaded w m.id ↔ m ∈ (history db cocoonId).rtake k)
    (hmissing : ∀ r ∈ history db cocoonId, ¬ Loaded w r.id → r.stamp < m.stamp) :
    before Message.stamp (history db cocoonId) m =
        (history db cocoonId).rdrop k ++ before Message.stamp ((history db cocoonId).rtake k) m ∧
      (before Message.stamp (history db cocoonId) m).countP (fun r => decide (Loaded w r.id)) =
        (before Message.stamp ((history db cocoonId).rtake k) m).length := by
  have hold : before Message.stamp ((history db cocoonId).rdrop k) m =
      (history db cocoonId).rdrop k := by
    refine List.filter_eq_self.mpr fun r hrest => decide_eq_true ?_
    obtain ⟨hmem, hr⟩ := (ShowsEnd.missing_iff h hk).mpr hrest
    exact hmissing r hmem hr
  have heq : before Message.stamp (history db cocoonId) m =
      (history db cocoonId).rdrop k ++ before Message.stamp ((history db cocoonId).rtake k) m := by
    conv_lhs => rw [← rdrop_append_rtake (history db cocoonId) k]
    rw [before, List.filter_append]
    exact congrArg (· ++ _) hold
  have hnone : ((history db cocoonId).rdrop k).countP (fun r => decide (Loaded w r.id)) = 0 := by
    refine List.countP_eq_zero.mpr fun r hrest => ?_
    exact decide_eq_true_iff.not.mpr ((ShowsEnd.missing_iff h hk).mpr hrest).2
  have hall : (before Message.stamp ((history db cocoonId).rtake k) m).countP
      (fun r => decide (Loaded w r.id)) =
        (before Message.stamp ((history db cocoonId).rtake k) m).length := by
    refine List.countP_eq_length.mpr fun r hmem => decide_eq_true ?_
    have hin : r ∈ (history db cocoonId).rtake k := List.mem_of_mem_filter hmem
    exact (hk r (List.mem_of_mem_drop hin)).mpr hin
  refine ⟨heq, ?_⟩
  rw [heq, List.countP_append, hnone, hall, Nat.zero_add]

lemma exists_missing_iff (h : MessageIds db) {k : ℕ}
    (hk : ∀ m ∈ history db cocoonId, Loaded w m.id ↔ m ∈ (history db cocoonId).rtake k) :
    (∃ m ∈ history db cocoonId, ¬ Loaded w m.id) ↔ k < (history db cocoonId).length := by
  have hdrop : (∃ m, m ∈ (history db cocoonId).rdrop k) ↔ k < (history db cocoonId).length := by
    rw [← List.length_pos_iff_exists_mem, List.rdrop, List.length_take]
    omega
  rw [← hdrop]
  exact exists_congr fun m => ShowsEnd.missing_iff h hk

lemma Reaches.spec (h : MessageIds db) (hw : ShowsEnd db cocoonId w)
    (hr : Reaches db cocoonId w m) :
    ShowsEnd db cocoonId (loadOlderMessages db cocoonId w) ∧
      (w.hasMore = true → ∃ r ∈ history db cocoonId,
        ¬ Loaded w r.id ∧ Loaded (loadOlderMessages db cocoonId w) r.id) := by
  obtain ⟨k, hk⟩ := hw.suffix
  obtain ⟨hbefore, hcount⟩ := before_eq h hk hr.missing
  have hfew := hcount ▸ hr.few
  set newer := before Message.stamp ((history db cocoonId).rtake k) m with hnewer
  set page := (before Message.stamp (history db cocoonId) m).rtake workspacePageSize with hpage
  have hcut : page = ((history db cocoonId).rdrop k).rtake (workspacePageSize - newer.length) ++
      newer := by
    rw [hpage, hbefore, rtake_append_of_le _ _ hfew.le]
  have hsub : ∀ r ∈ page, r ∈ history db cocoonId := fun r hr =>
    List.mem_of_mem_filter (List.mem_of_mem_drop hr)
  have hload := loadOlderMessages_eq h hw hr.shown hr.first
  have hloaded : ∀ uid, Loaded (loadOlderMessages db cocoonId w) uid ↔
      Loaded w uid ∨ ∃ r ∈ page, r.id = uid := by
    intro uid
    rw [hload]
    exact loaded_prepend hw.mapped
  have hsuffix : ∀ r ∈ history db cocoonId, Loaded (loadOlderMessages db cocoonId w) r.id ↔
      r ∈ (history db cocoonId).rtake (workspacePageSize - newer.length + k) := by
    intro r hmem
    have hid : (∃ r' ∈ page, r'.id = r.id) ↔ r ∈ page := by
      refine ⟨fun ⟨r', hr', hid⟩ => ?_, fun hr => ⟨r, hr, rfl⟩⟩
      rwa [← id_injOn h (hsub r' hr') hmem hid]
    have hnewer_sub : r ∈ newer → r ∈ (history db cocoonId).rtake k := List.mem_of_mem_filter
    rw [hloaded, hid, hk r hmem, hcut, rtake_add, List.mem_append, List.mem_append]
    tauto
  refine ⟨⟨?_, ?_, ?_, ⟨_, hsuffix⟩, ?_⟩, fun hmore => ?_⟩
  · rw [hload]
    exact nodup_mergeMessages _ _
  · obtain ⟨hextends, hmapped, -⟩ := mapWorkspaceMessages_spec w.ids page
    rw [hload]
    intro e he
    rcases mem_of_mem_mergeMessages he with he | he
    · exact hextends _ _ (hw.mapped e he)
    · exact hmapped e (mem_sortMessages.mp he)
  · intro e he
    rcases (hloaded e.messageUid).mp ⟨e, he, rfl⟩ with ⟨e', he', huid⟩ | ⟨r, hr, hid⟩
    · rw [← huid]
      exact hw.entries e' he'
    · exact .inl ⟨r, hsub r hr, hid⟩
  · rw [exists_missing_iff h hsuffix, hload, decide_eq_true_eq, hbefore, List.length_append,
      List.rdrop, List.length_take]
    have hsize : workspacePageSize = 50 := rfl
    omega
  · have hk' := (exists_missing_iff h hk).mp (hw.hasMore.mp hmore)
    have hne : ((history db cocoonId).rdrop k).rtake (workspacePageSize - newer.length) ≠ [] := by
      rw [Ne, rtake_eq_nil (by omega), ← List.length_eq_zero_iff, List.rdrop, List.length_take]
      omega
    obtain ⟨r, hr⟩ := List.exists_mem_of_ne_nil _ hne
    obtain ⟨hmem, hmissing⟩ := (ShowsEnd.missing_iff h hk).mpr (List.mem_of_mem_drop hr)
    refine ⟨r, hmem, hmissing, (hloaded r.id).mpr (.inr ⟨r, ?_, rfl⟩)⟩
    rw [hcut]
    exact List.mem_append_left _ hr

lemma reaches_of_loadsNew (h : ServerIds db) (hfirst : AncestorsFirst db cocoonId)
    (hw : ShowsEnd db cocoonId w) {r : Message} (hmissing : ¬ Loaded w r.id)
    (hnew : Loaded (loadOlderMessages db cocoonId w) r.id) :
    ∃ m, Reaches db cocoonId w m := by
  have hids := h.toMessageIds
  obtain ⟨k, hk⟩ := hw.suffix
  -- without a visible entry, or with an optimistic one as the cursor, the call does nothing
  obtain ⟨m, hm, hvisible⟩ : ∃ m ∈ history db cocoonId,
      (visibleMessages w.session).head?.map MessageRead.messageUid = some m.id := by
    cases hvisible : visibleMessages w.session with
    | nil =>
      simp only [loadOlderMessages, hvisible] at hnew
      exact absurd hnew hmissing
    | cons e rest =>
      have he : e ∈ w.session.messages :=
        List.mem_of_mem_filter (hvisible ▸ List.mem_cons_self : e ∈ visibleMessages w.session)
      rcases hw.entries e he with ⟨m, hm, hid⟩ | ⟨actionId, hpending⟩
      · exact ⟨m, hm, congrArg some hid.symm⟩
      · have hmapped := hw.mapped e he
        rw [hpending] at hmapped
        have hnone : get db.messages (pendingUid actionId) = none := by
          refine get_eq_none_iff.mpr fun hmem => ?_
          obtain ⟨m, hm, hid⟩ := List.mem_map.mp hmem
          exact h.notPending m hm actionId hid
        have hne : pendingUid actionId ≠ "" := by
          intro hempty
          have hlist := congrArg String.toList hempty
          rw [pendingUid, String.toList_append] at hlist
          cases hlist
        have hlist : listMessages db (.cocoon cocoonId) (some (pendingUid actionId))
            (some (workspacePageSize + 1)) = none := by
          simp [listMessages, Option.filter, hne, hnone]
        have hget : getCocoonMessages db w.ids cocoonId (some e.id) workspacePageSize = none := by
          rw [getCocoonMessages, resolve_of_mapped hmapped, hlist, Option.map_none]
        simp only [loadOlderMessages, hvisible, hget] at hnew
        exact absurd hnew hmissing
  have hsorted := (pairwise_listCocoonLineageMessages_iff hids).mpr hfirst
  have hloaded : Loaded w m.id := by
    cases hhead : (visibleMessages w.session).head? with
    | none => simp [hhead] at hvisible
    | some e =>
      rw [hhead] at hvisible
      exact ⟨e, List.mem_of_mem_filter (List.mem_of_mem_head? hhead), Option.some.inj hvisible⟩
  have holder : ∀ r ∈ history db cocoonId, ¬ Loaded w r.id → r.stamp < m.stamp := by
    intro r hr hmissing
    have hrest := (ShowsEnd.missing_iff hids hk).mp ⟨hr, hmissing⟩
    rw [← rdrop_append_rtake (listCocoonLineageMessages db cocoonId) k, List.pairwise_append]
      at hsorted
    exact hsorted.2.2 r hrest m ((hk m hm).mp hloaded)
  refine ⟨m, hm, hvisible, holder, ?_⟩
  by_contra hmany
  -- a page of what is loaded: nothing is new
  rw [loadOlderMessages_eq hids hw hm hvisible] at hnew
  obtain ⟨r', hr', hid⟩ := ((loaded_prepend hw.mapped).mp hnew).resolve_left hmissing
  obtain ⟨hbefore, hcount⟩ := before_eq hids hk holder
  rw [hbefore, rtake_append_of_length_le _ _ (by omega)] at hr'
  have hin : r' ∈ (history db cocoonId).rtake k :=
    List.mem_of_mem_filter (List.mem_of_mem_drop hr')
  have hloaded' := (hk r' (List.mem_of_mem_drop hin)).mpr hin
  rw [hid] at hloaded'
  exact hmissing hloaded'

/-! ## Other changes of the list -/

lemma nodup_of_mapped {ids : IdMap} {items : List MessageRead}
    (hmapped : ∀ e ∈ items, ids.legacyToActual e.id = some e.messageUid)
    (huids : (items.map MessageRead.messageUid).Nodup) : (items.map key).Nodup := by
  have hmap : (items.map key).map ids.legacyToActual =
      (items.map MessageRead.messageUid).map some := by
    rw [List.map_map, List.map_map]
    exact List.map_congr_left hmapped
  refine List.Nodup.of_map ids.legacyToActual ?_
  rw [hmap]
  exact huids.map (Option.some_injective _)

lemma showsEnd_reloadMessages (h : MessageIds db) (w : Workspace) :
    ShowsEnd db cocoonId (reloadMessages db cocoonId w) := by
  have hpages := @pages_listMessages db cocoonId _ h (Nat.succ_pos workspacePageSize)
  have hget : getCocoonMessages db w.ids cocoonId none workspacePageSize = _ :=
    getCocoonMessages_eq hpages.first
  set page := (history db cocoonId).rtake workspacePageSize with hpage
  obtain ⟨-, hmapped, huids⟩ := mapWorkspaceMessages_spec w.ids page
  have hreload : reloadMessages db cocoonId w =
      ⟨(mapWorkspaceMessages w.ids page).1,
        setMessages (sortMessages (mapWorkspaceMessages w.ids page).2) w.session,
        decide (workspacePageSize < (history db cocoonId).length)⟩ := by
    simp only [reloadMessages, hget]
  have hsub : ∀ r ∈ page, r ∈ history db cocoonId := fun r hr => List.mem_of_mem_drop hr
  have hloaded : ∀ uid, Loaded (reloadMessages db cocoonId w) uid ↔ ∃ r ∈ page, r.id = uid := by
    intro uid
    rw [hreload]
    exact loaded_set
  have hsuffix : ∀ m ∈ history db cocoonId, Loaded (reloadMessages db cocoonId w) m.id ↔
      m ∈ (history db cocoonId).rtake workspacePageSize := by
    intro m hm
    rw [hloaded]
    refine ⟨fun ⟨r, hr, hid⟩ => ?_, fun hm => ⟨m, hm, rfl⟩⟩
    rwa [← id_injOn h (hsub r hr) hm hid]
  have huniq : (page.map Message.id).Nodup :=
    List.Nodup.map_on (fun a ha b hb => id_injOn h (hsub a ha) (hsub b hb))
      ((nodup_listCocoonLineageMessages h).sublist (List.drop_sublist _ _))
  refine ⟨?_, ?_, ?_, ⟨_, hsuffix⟩, ?_⟩
  · have hperm : ((reloadMessages db cocoonId w).session.messages.map key).Perm
        ((mapWorkspaceMessages w.ids page).2.map key) := by
      rw [hreload]
      exact ((perm_orderBy _ _).trans (perm_orderBy _ _)).map key
    exact hperm.nodup_iff.mpr (nodup_of_mapped hmapped (huids ▸ huniq))
  · rw [hreload]
    exact fun e he => hmapped e (mem_sortMessages.mp (mem_sortMessages.mp he))
  · intro e he
    obtain ⟨r, hr, hid⟩ := (hloaded e.messageUid).mp ⟨e, he, rfl⟩
    exact .inl ⟨r, hsub r hr, hid⟩
  · rw [exists_missing_iff h hsuffix, hreload, decide_eq_true_eq]

lemma showsEnd_addPendingMessage (h : ServerIds db) (hw : ShowsEnd db cocoonId w)
    (actionId : String) (now : ℤ) :
    ShowsEnd db cocoonId (addPendingMessage actionId now w) ∧ ∀ m ∈ history db cocoonId,
      (Loaded (addPendingMessage actionId now w) m.id ↔ Loaded w m.id) := by
  obtain ⟨hgiven, hextends⟩ := rememberLegacyId_spec w.ids (pendingUid actionId)
  have hexisting : ∀ e ∈ w.session.messages,
      (addPendingMessage actionId now w).ids.legacyToActual e.id = some e.messageUid :=
    fun e he => hextends _ _ (hw.mapped e he)
  have hnew : ∀ e ∈ [(createPendingUserMessage w.ids actionId now).2],
      (addPendingMessage actionId now w).ids.legacyToActual e.id = some e.messageUid := by
    intro e he
    obtain rfl := List.mem_singleton.mp he
    exact hgiven
  have hloaded : ∀ m ∈ history db cocoonId,
      (Loaded (addPendingMessage actionId now w) m.id ↔ Loaded w m.id) := by
    intro m hm
    refine (exists_mergeMessages_iff hexisting hnew).trans (or_iff_left ?_)
    rintro ⟨e, he, hid⟩
    obtain rfl := List.mem_singleton.mp he
    exact h.notPending m ((mem_listCocoonLineageMessages h.toMessageIds).mp hm).1 actionId hid.symm
  refine ⟨⟨nodup_mergeMessages _ _, ?_, ?_, ?_, ?_⟩, hloaded⟩
  · intro e he
    exact (mem_of_mem_mergeMessages he).elim (hexisting e) (hnew e)
  · intro e he
    rcases mem_of_mem_mergeMessages he with he | he
    · exact hw.entries e he
    · obtain rfl := List.mem_singleton.mp he
      exact .inr ⟨actionId, rfl⟩
  · obtain ⟨k, hk⟩ := hw.suffix
    exact ⟨k, fun m hm => (hloaded m hm).trans (hk m hm)⟩
  · refine hw.hasMore.trans (exists_congr fun m => and_congr_right fun hm => ?_)
    rw [hloaded m hm]

/-! ## Runs -/

lemma ShowsEnd.complete_iff (hw : ShowsEnd db cocoonId w) :
    w.hasMore = false ↔ Complete db cocoonId w := by
  have hnodup : (w.session.messages.map MessageRead.messageUid).Nodup := by
    refine List.Nodup.map_on (fun e he e' he' huid => ?_) (List.Nodup.of_map _ hw.nodup)
    have hid := (w.ids.linked _ _).mpr (hw.mapped e he)
    rw [huid, (w.ids.linked _ _).mpr (hw.mapped e' he')] at hid
    exact List.inj_on_of_nodup_map hw.nodup he he' (Option.some.inj hid).symm
  have hall : w.hasMore = false ↔ ∀ m ∈ history db cocoonId, Loaded w m.id := by
    rw [← Bool.not_eq_true, hw.hasMore]
    push Not
    rfl
  refine hall.trans (forall_congr' fun m => imp_congr_right fun _ => ?_)
  rw [hnodup.count, Loaded, ← List.mem_map]
  simp

/-- How many messages are missing. -/
def missing (db : Db) (cocoonId : RowId) (w : Workspace) : ℕ :=
  (history db cocoonId).countP fun m => decide (¬ Loaded w m.id)

lemma missing_lt {w' : Workspace} {r : Message} (hr : r ∈ history db cocoonId)
    (hmono : ∀ m ∈ history db cocoonId, Loaded w m.id → Loaded w' m.id)
    (hmissing : ¬ Loaded w r.id) (hnew : Loaded w' r.id) :
    missing db cocoonId w' < missing db cocoonId w := by
  have hfilter : (history db cocoonId).filter (fun m => decide (¬ Loaded w' m.id)) =
      ((history db cocoonId).filter fun m => decide (¬ Loaded w m.id)).filter
        fun m => decide (¬ Loaded w' m.id) := by
    rw [List.filter_filter]
    refine List.filter_congr fun m hm => ?_
    have := hmono m hm
    by_cases hold : Loaded w m.id <;> simp_all
  rw [missing, missing, List.countP_eq_length_filter, List.countP_eq_length_filter, hfilter]
  refine List.length_filter_lt_length_iff_exists.mpr ⟨r, ?_, by simp [hnew]⟩
  exact List.mem_filter.mpr ⟨hr, decide_eq_true hmissing⟩

lemma missing_eq {w' : Workspace}
    (h : ∀ m ∈ history db cocoonId, Loaded w' m.id ↔ Loaded w m.id) :
    missing db cocoonId w' = missing db cocoonId w := by
  refine List.countP_congr fun m hm => ?_
  simp only [h m hm]

lemma missing_le : missing db cocoonId w ≤ (history db cocoonId).length :=
  List.countP_le_length

lemma workspaceStep_older (hmore : w.hasMore = true) :
    workspaceStep db cocoonId w .older = some (loadOlderMessages db cocoonId w) :=
  if_pos hmore

lemma workspaceStep_spec (h : ServerIds db) {e : WorkspaceEvent} {w' : Workspace}
    (hw : ShowsEnd db cocoonId w) (hok : CursorReaches db cocoonId w e)
    (hstep : workspaceStep db cocoonId w e = some w') :
    ShowsEnd db cocoonId w' ∧ LoadsNew db cocoonId w e w' ∧
      missing db cocoonId w' + [e].count .older ≤ missing db cocoonId w := by
  cases e with
  | older =>
    simp only [workspaceStep] at hstep
    split at hstep
    · next hmore =>
      obtain rfl := Option.some.inj hstep
      obtain ⟨m, hr⟩ := hok rfl hmore
      obtain ⟨hshows, hnew⟩ := hr.spec h.toMessageIds hw
      obtain ⟨r, hmem, hmissing, hloaded⟩ := hnew hmore
      refine ⟨hshows, fun _ => ⟨r, hmem, hmissing, hloaded⟩, ?_⟩
      refine Nat.succ_le_of_lt (missing_lt hmem (fun m _ hm => ?_) hmissing hloaded)
      rw [loadOlderMessages_eq h.toMessageIds hw hr.shown hr.first]
      exact (loaded_prepend hw.mapped).mpr (.inl hm)
    · cases hstep
  | send actionId now =>
    obtain rfl := Option.some.inj hstep
    obtain ⟨hshows, hloaded⟩ := showsEnd_addPendingMessage h hw actionId now
    refine ⟨hshows, fun hne => ?_, (missing_eq hloaded).le⟩
    cases hne

lemma missing_run (h : ServerIds db) {events : List WorkspaceEvent} {w' : Workspace}
    (hw : ShowsEnd db cocoonId w)
    (hok : StepsMeet (workspaceStep db cocoonId) (CursorReaches db cocoonId) w events)
    (hrun : run (workspaceStep db cocoonId) w events = some w') :
    missing db cocoonId w' + events.count .older ≤ missing db cocoonId w := by
  induction events generalizing w with
  | nil =>
    cases hrun
    exact le_rfl
  | cons e events ih =>
    obtain ⟨w₁, hstep, hrest⟩ := run_cons_eq_some.mp hrun
    obtain ⟨hmeets, hok⟩ := (stepsMeet_cons_of_step hstep).mp hok
    obtain ⟨hshows, -, hle⟩ := workspaceStep_spec h hw hmeets hstep
    have hlater := ih hshows hok hrest
    rw [← List.singleton_append, List.count_append]
    omega

lemma exists_run_older (h : ServerIds db) (hw : ShowsEnd db cocoonId w)
    (hok : ∀ n, StepsMeet (workspaceStep db cocoonId) (CursorReaches db cocoonId) w
      (List.replicate n .older)) :
    ∃ n w', run (workspaceStep db cocoonId) w (List.replicate n .older) = some w' ∧
      w'.hasMore = false := by
  induction hcount : missing db cocoonId w using Nat.strong_induction_on generalizing w with
  | _ count ih =>
    cases hmore : w.hasMore with
    | false => exact ⟨0, w, rfl, hmore⟩
    | true =>
      have hstep := @workspaceStep_older db cocoonId w hmore
      have hmeets := ((stepsMeet_cons_of_step hstep).mp (hok 1)).1
      obtain ⟨hshows, -, hle⟩ := workspaceStep_spec h hw hmeets hstep
      have hlt : missing db cocoonId (loadOlderMessages db cocoonId w) < count := by
        rw [← hcount]
        exact hle
      obtain ⟨n, w', hrun, hdone⟩ := ih _ hlt hshows
        (fun n => ((stepsMeet_cons_of_step hstep).mp (hok (n + 1))).2) rfl
      exact ⟨n + 1, w', run_cons_eq_some.mpr ⟨_, hstep, hrun⟩, hdone⟩

/-- Loading older messages from a list that shows the end of the history, with optimistic entries in
it.  If the cursor of each call reaches, each call loads a message that was not there, there are at
most as many calls as messages, `hasMore` is false exactly when every message is loaded once, and
that comes about by calls alone.  With ancestors first, calls load something only then. -/
theorem loadOlder_complete_iff (h : ServerIds db) (hw : ShowsEnd db cocoonId w) :
    (∀ events, StepsMeet (workspaceStep db cocoonId) (CursorReaches db cocoonId) w events →
      AllSteps (workspaceStep db cocoonId) (LoadsNew db cocoonId) w events ∧
        ∀ w', run (workspaceStep db cocoonId) w events = some w' →
          events.count .older ≤ (history db cocoonId).length ∧
            (w'.hasMore = false ↔ Complete db cocoonId w')) ∧
      ((∀ n, StepsMeet (workspaceStep db cocoonId) (CursorReaches db cocoonId) w
          (List.replicate n .older)) →
        ∃ n w', run (workspaceStep db cocoonId) w (List.replicate n .older) = some w' ∧
          w'.hasMore = false ∧ Complete db cocoonId w') ∧
      (AncestorsFirst db cocoonId → ∀ events,
        (AllSteps (workspaceStep db cocoonId) (LoadsNew db cocoonId) w events ↔
          StepsMeet (workspaceStep db cocoonId) (CursorReaches db cocoonId) w events)) := by
  have hkeeps : ∀ w e w', ShowsEnd db cocoonId w → CursorReaches db cocoonId w e →
      workspaceStep db cocoonId w e = some w' → ShowsEnd db cocoonId w' :=
    fun w e w' hw hok hstep => (workspaceStep_spec h hw hok hstep).1
  refine ⟨fun events hok => ⟨?_, fun w' hrun => ⟨?_, ?_⟩⟩, fun hok => ?_, fun hfirst events => ?_⟩
  · exact stepsMeet_of_stepsMeet (ShowsEnd db cocoonId) hkeeps
      (fun w e hw hok w' hstep => (workspaceStep_spec h hw hok hstep).2.1) hw hok
  · exact (Nat.le_add_left _ _).trans ((missing_run h hw hok hrun).trans missing_le)
  · exact (invariant_of_stepsMeet (ShowsEnd db cocoonId) hkeeps hw hok hrun).complete_iff
  · obtain ⟨n, w', hrun, hdone⟩ := exists_run_older h hw hok
    have hshows := invariant_of_stepsMeet (ShowsEnd db cocoonId) hkeeps hw (hok n) hrun
    exact ⟨n, w', hrun, hdone, hshows.complete_iff.mp hdone⟩
  · refine allSteps_iff_stepsMeet (ShowsEnd db cocoonId) (fun w e hw => ⟨fun hnew => ?_, ?_⟩)
      hkeeps hw
    · rintro rfl hmore
      obtain ⟨r, -, hmissing, hloaded⟩ := hnew _ (if_pos hmore) rfl
      exact reaches_of_loadsNew h hfirst hw hmissing hloaded
    · exact fun hok w' hstep => (workspaceStep_spec h hw hok hstep).2.1

/-- A cocoon with `n` messages, a second apart; some are thoughts. -/
def conversation (n : ℕ) (isThought : ℕ → Bool) : Db where
  cocoons := [{ id := "c", ownerUserId := "u1", characterId := "ch1" }]
  messages := (List.range n).map fun i =>
    { id := String.ofList (List.replicate (i + 1) 'm'), target := .cocoon "c", role := .user,
      content := "", isThought := isThought i, createdAt := 1000000 * i }

lemma notPending_conversation {n : ℕ} {isThought : ℕ → Bool} {actionId : String}
    (hm : m ∈ (conversation n isThought).messages) : m.id ≠ pendingUid actionId := by
  obtain ⟨i, -, rfl⟩ := List.mem_map.mp hm
  intro h
  have hlist := congrArg String.toList h
  rw [String.toList_ofList, pendingUid, String.toList_append] at hlist
  injection hlist with hhead
  exact absurd hhead (by decide)

/-- The workspace before its first request. -/
def unloaded : Workspace := ⟨.empty, emptySession, false⟩

/-- One message more than fits on a page: one call loads it. -/
theorem loadOlder_complete_iff_conversation :
    LoadsNew (conversation 51 fun _ => false) "c"
      (reloadMessages (conversation 51 fun _ => false) "c" unloaded) .older
      (loadOlderMessages (conversation 51 fun _ => false) "c"
        (reloadMessages (conversation 51 fun _ => false) "c" unloaded)) := by
  have h : ServerIds (conversation 51 fun _ => false) :=
    ⟨⟨by decide +kernel, by decide +kernel⟩, fun m hm _ => notPending_conversation hm⟩
  have hw := @showsEnd_reloadMessages _ "c" h.toMessageIds unloaded
  have hmore : (reloadMessages (conversation 51 fun _ => false) "c" unloaded).hasMore = true := by
    decide +kernel
  have hstep := @workspaceStep_older (conversation 51 fun _ => false) "c" _ hmore
  obtain ⟨m, hm, hfirst, hmissing, hfew⟩ : ∃ m ∈ history (conversation 51 fun _ => false) "c",
      (visibleMessages (reloadMessages (conversation 51 fun _ => false) "c"
          unloaded).session).head?.map MessageRead.messageUid = some m.id ∧
        (∀ r ∈ history (conversation 51 fun _ => false) "c",
          ¬ Loaded (reloadMessages (conversation 51 fun _ => false) "c" unloaded) r.id →
            r.stamp < m.stamp) ∧
        (before Message.stamp (history (conversation 51 fun _ => false) "c") m).countP (fun r =>
            decide (Loaded (reloadMessages (conversation 51 fun _ => false) "c" unloaded) r.id)) <
          workspacePageSize := by
    decide +kernel
  have hok : StepsMeet (workspaceStep (conversation 51 fun _ => false) "c")
      (CursorReaches (conversation 51 fun _ => false) "c")
      (reloadMessages (conversation 51 fun _ => false) "c" unloaded) [.older] :=
    (stepsMeet_cons_of_step hstep).mpr ⟨fun _ _ => ⟨m, hm, hfirst, hmissing, hfew⟩, trivial⟩
  have hall := ((loadOlder_complete_iff h hw).1 _ hok).1
  exact ((stepsMeet_cons_of_step hstep).mp hall).1 _ hstep

/-- A page of thoughts: no entry is visible, and the call does nothing. -/
theorem thoughts_not_loadsNew :
    ¬ ∀ db cocoonId w, ServerIds db → ShowsEnd db cocoonId w → ∀ events,
      AllSteps (workspaceStep db cocoonId) (LoadsNew db cocoonId) w events := by
  intro hclaim
  have h : ServerIds (conversation 51 fun i => decide (0 < i)) :=
    ⟨⟨by decide +kernel, by decide +kernel⟩, fun m hm _ => notPending_conversation hm⟩
  have hw := @showsEnd_reloadMessages _ "c" h.toMessageIds unloaded
  have hmore : (reloadMessages (conversation 51 fun i => decide (0 < i)) "c" unloaded).hasMore =
      true := by decide +kernel
  have hvisible : visibleMessages
      (reloadMessages (conversation 51 fun i => decide (0 < i)) "c" unloaded).session = [] := by
    decide +kernel
  have hstep := @workspaceStep_older (conversation 51 fun i => decide (0 < i)) "c" _ hmore
  have hall := hclaim _ _ _ h hw [.older]
  obtain ⟨m, -, hmissing, hloaded⟩ := ((stepsMeet_cons_of_step hstep).mp hall).1 _ hstep rfl
  simp only [loadOlderMessages, hvisible] at hloaded
  exact hmissing hloaded

end CocoonSit.Client
