import CocoonSit.Jobs.Compaction
import CocoonSit.Lib.Run
import CocoonSit.Messages.Paging

/-!
# Compactions over whole runs

A cocoon is written to and compacted in any order.  Next to the database the state keeps the ids of
the messages that have been the input of a compaction.  Nothing is lost from context as long as
each of the cocoon's messages that lies before its context start is among them.
-/

namespace CocoonSit

open Table TransitionSystem

/-- A database, and the messages that were compacted so far. -/
structure CompactionState where
  db : Db
  compacted : List RowId := []

inductive CompactionEvent where
  /-- A message is stored, by whomever and in whatever conversation. -/
  | send (m : Message)
  /-- A compaction job of the cocoon runs; `output` is the model's answer. -/
  | compact (beforeMessageId : Option RowId) (output : CompactionOutput) (env : JobEnv)

/-- What a compaction of the cocoon has summarised. -/
def compactionInput (db : Db) (cocoonId : RowId) (beforeMessageId : Option RowId) : List Message :=
  (get db.cocoons cocoonId).elim [] fun cocoon =>
    (compactionSelection db cocoon beforeMessageId).1

/-- Messages draw new ids. -/
def compactionStep (cocoonId : RowId) (s : CompactionState) :
    CompactionEvent → Option CompactionState
  | .send m =>
    if m.id ∉ s.db.messages.map key ∧ m.id ≠ "" then
      some { s with db := { s.db with messages := s.db.messages ++ [m] } }
    else none
  | .compact beforeMessageId output env =>
    (executeCompaction s.db cocoonId beforeMessageId output env).map fun db =>
      { db := db
        compacted := s.compacted ++
          (compactionInput s.db cocoonId beforeMessageId).map Message.id }

/-- The cocoon is new: it has no messages and no context start. -/
structure CompactionInitial (cocoonId : RowId) (s : CompactionState) : Prop where
  ids : MessageIds s.db
  cocoon : ∃ cocoon, get s.db.cocoons cocoonId = some cocoon ∧ cocoon.contextStartMessageId = none
  empty : ∀ m ∈ s.db.messages, m.target ≠ .cocoon cocoonId

/-- Every own message that lies before the context start has been compacted. -/
def NothingForgotten (cocoonId : RowId) (s : CompactionState) : Prop :=
  ∀ cocoon, get s.db.cocoons cocoonId = some cocoon → ∀ m ∈ s.db.messages,
    m.target = .cocoon cocoonId → m ∉ shownBy s.db cocoon → m.id ∈ s.compacted

/-- The context start is where it was, or on a later one of the messages shown. -/
def StartMovesForward (cocoonId : RowId) (s s' : CompactionState) : Prop :=
  ∀ cocoon cocoon', get s.db.cocoons cocoonId = some cocoon →
    get s'.db.cocoons cocoonId = some cocoon' →
      cocoon'.contextStartMessageId = cocoon.contextStartMessageId ∨
      ∃ m ∈ shownBy s.db cocoon, ∃ start ∈ shownBy s.db cocoon, m.stamp < start.stamp ∧
        cocoon'.contextStartMessageId = some start.id

/-- The window shows all there is since the context start. -/
def WindowSuffices (db : Db) (cocoon : Cocoon) : Prop :=
  (shownBy db cocoon).length ≤ cocoon.maxContextMessages ∨ cocoon.maxContextMessages = 0

/-- A new message is newer than all own messages before it; a compaction that names no message
finds the window large enough. -/
def CompactionFits (cocoonId : RowId) (s : CompactionState) : CompactionEvent → Prop
  | .send m => m.target = .cocoon cocoonId →
      ∀ m' ∈ s.db.messages, m'.target = .cocoon cocoonId → m'.createdAt < m.createdAt
  | .compact beforeMessageId _ _ => (beforeMessageId.filter (· ≠ "")).isSome ∨
      ∀ cocoon, get s.db.cocoons cocoonId = some cocoon → WindowSuffices s.db cocoon

variable {db db' : Db} {cocoon : Cocoon} {cocoonId : RowId} {m : Message}
  {s s' : CompactionState}

/-! ## The history of a cocoon whose messages came one after the other -/

/-- The own messages, in the order they were stored. -/
def ownMessages (db : Db) (cocoonId : RowId) : List Message :=
  db.messages.filter fun m => m.target = .cocoon cocoonId

/-- Own messages came one after the other. -/
def InOrder (db : Db) (cocoonId : RowId) : Prop :=
  (ownMessages db cocoonId).Pairwise fun a b => a.createdAt < b.createdAt

lemma mem_ownMessages :
    m ∈ ownMessages db cocoonId ↔ m ∈ db.messages ∧ m.target = .cocoon cocoonId := by
  simp [ownMessages]

lemma stamp_lt_of_createdAt_lt {a b : Message} (h : a.createdAt < b.createdAt) :
    a.stamp < b.stamp := Prod.Lex.toLex_lt_toLex.mpr (.inl h)

lemma compactionHistory_eq (h : InOrder db cocoonId) :
    compactionHistory db cocoonId = ownMessages db cocoonId := by
  have hle : (ownMessages db cocoonId).Pairwise fun a b => a.createdAt ≤ b.createdAt :=
    h.imp le_of_lt
  exact hle.insertionSort_eq

lemma messagesOfCocoons_eq (hids : MessageIds db) (h : InOrder db cocoonId) :
    messagesOfCocoons db [cocoonId] = ownMessages db cocoonId := by
  refine eq_of_pairwise_lt (pairwise_messagesOfCocoons hids.unique _)
    (h.imp stamp_lt_of_createdAt_lt) fun m => ?_
  rw [mem_messagesOfCocoons, mem_ownMessages]
  simp

lemma trimToContextStart_eq_drop (messages : List Message) (start : Option RowId) :
    trimToContextStart messages start = messages.drop (resolveAnchorIndex messages start) := by
  cases start with
  | none =>
    simp [trimToContextStart, Message.isStart, resolveAnchorIndex, resolveMessageIndex]
  | some id =>
    by_cases hne : id = ""
    · subst hne
      have hzero : resolveAnchorIndex messages (some "") = 0 := rfl
      rw [hzero]
      simp [trimToContextStart, Message.isStart]
    · have hstart : Message.isStart (some id) = fun m => decide (m.id = id) := by
        funext m
        simp [Message.isStart, hne]
      have hfilter : Option.filter (fun id : RowId => decide (id ≠ "")) (some id) = some id := by
        simp [hne]
      rw [trimToContextStart, hstart, resolveAnchorIndex, resolveMessageIndex, hfilter,
        Option.bind_some]
      cases hidx : messages.findIdx? fun m => decide (m.id = id) with
      | none =>
        have hnone : ¬ messages.any (fun m => decide (m.id = id)) = true := by
          simpa using List.findIdx?_eq_none_iff.mp hidx
        rw [if_neg hnone]
        rfl
      | some i =>
        obtain ⟨hlt, hi⟩ := List.findIdx?_eq_some_iff_findIdx_eq.mp hidx
        have hany : messages.any (fun m => decide (m.id = id)) = true := by
          rw [← hi] at hlt
          obtain ⟨m, hm, hmid⟩ := List.findIdx_lt_length.mp hlt
          exact List.any_eq_true.mpr ⟨m, hm, hmid⟩
        rw [if_pos hany, List.dropWhile_eq_drop_findIdx_not]
        simp only [Bool.not_not, hi, Option.getD_some]

lemma shownBy_eq (hids : MessageIds db) (h : InOrder db cocoon.id) :
    shownBy db cocoon = (ownMessages db cocoon.id).drop
      (resolveAnchorIndex (ownMessages db cocoon.id) cocoon.contextStartMessageId) := by
  rw [shownBy, messagesOfCocoons_eq hids h, trimToContextStart_eq_drop]

lemma nodup_ownMessages (hids : MessageIds db) : ((ownMessages db cocoonId).map key).Nodup :=
  hids.unique.sublist (List.filter_sublist.map key)

/-! ## Selections without gaps -/

lemma sliceLast_eq_self {α : Type*} {xs : List α} {n : ℤ} (h : xs.length ≤ n ∨ n = 0) :
    sliceLast xs n = xs := by
  unfold sliceLast
  rcases h with h | rfl
  · by_cases hn : 0 < n
    · rw [if_pos hn, List.rtake, Nat.sub_eq_zero_of_le (by omega), List.drop_zero]
    · have hnil : xs = [] := List.length_eq_zero_iff.mp (by omega)
      rw [hnil]
      simp
  · simp

lemma selectMessagesForCompaction_spec {messages : List Message} {before : Option RowId}
    (h : (before.filter (· ≠ "")).isSome ∨
      ((messages.drop (resolveAnchorIndex messages cocoon.contextStartMessageId)).length ≤
        cocoon.maxContextMessages ∨ cocoon.maxContextMessages = 0)) :
    selectMessagesForCompaction cocoon messages before = ([], none) ∨
    ∃ e start, resolveAnchorIndex messages cocoon.contextStartMessageId < e ∧
      messages[e]? = some start ∧
      selectMessagesForCompaction cocoon messages before =
        ((messages.take e).drop (resolveAnchorIndex messages cocoon.contextStartMessageId),
          some start) := by
  unfold selectMessagesForCompaction
  generalize resolveAnchorIndex messages cocoon.contextStartMessageId = i at h ⊢
  dsimp only
  by_cases hbefore : (before.filter (· ≠ "")).isSome = true
  · rw [if_pos hbefore]
    cases hend : resolveMessageIndex messages before with
    | none => exact .inl rfl
    | some e =>
      dsimp only
      by_cases hle : e ≤ i
      · rw [if_pos hle]
        exact .inl rfl
      · rw [if_neg hle]
        cases before with
        | none => cases hbefore
        | some id =>
          obtain ⟨-, start, hstart, -⟩ := resolveMessageIndex_eq_some hend
          exact .inr ⟨e, start, not_le.mp hle, hstart, by rw [hstart]⟩
  · rw [if_neg hbefore]
    -- the window is all there is from the anchor on
    have hwindow := sliceLast_eq_self (h.resolve_left hbefore)
    unfold resolveDefaultCompactionSelection
    dsimp only
    rw [hwindow]
    by_cases hfew : (messages.drop i).length < 2 ∨ (messages.drop i).length < 2
    · rw [if_pos hfew]
      exact .inl rfl
    · have hcount : 0 < compressCount cocoon.maxContextMessages (messages.drop i) ∧ _ :=
        compressCount_lt _ (by omega)
      rw [if_neg hfew, if_neg (by omega)]
      have hlt : i + compressCount cocoon.maxContextMessages (messages.drop i) <
          messages.length := by
        have := hcount.2
        rw [List.length_drop] at this
        omega
      refine .inr ⟨i + compressCount cocoon.maxContextMessages (messages.drop i), _,
        by omega, List.getElem?_eq_getElem hlt, ?_⟩
      rw [List.drop_take, Nat.add_sub_cancel_left, List.getElem?_drop,
        List.getElem?_eq_getElem hlt]

/-! ## What a job does to the cocoon -/

lemma executeCompaction_spec (hget : get db.cocoons cocoonId = some cocoon)
    {before : Option RowId} {output : CompactionOutput} {env : JobEnv}
    (h : executeCompaction db cocoonId before output env = some db') :
    db'.messages = db.messages ∧ (db'.cocoons = db.cocoons ∨
      ∃ start, (compactionSelection db cocoon before).2 = some start ∧
        db'.cocoons = (setContextStart db cocoonId start.id).cocoons) := by
  rw [executeCompaction, hget, Option.map_some] at h
  injection h with h
  subst h
  have hselection : compactionSelection (startRun db (some (.cocoon cocoonId)) "compaction"
    env.runId) cocoon before = compactionSelection db cocoon before := rfl
  dsimp only
  rw [hselection]
  obtain ⟨selected, retainedStart⟩ := compactionSelection db cocoon before
  dsimp only
  by_cases hempty : selected.isEmpty = true
  · rw [if_pos hempty]
    exact ⟨rfl, .inl rfl⟩
  · rw [if_neg hempty]
    have hstore := memoriesOnly_storeCompaction
      (startRun db (some (.cocoon cocoonId)) "compaction" env.runId) cocoon selected output env
    generalize storeCompaction (startRun db (some (.cocoon cocoonId)) "compaction" env.runId) cocoon
      selected output env = r at hstore
    have hmessages : r.1.messages = db.messages := hstore.messages
    have hcocoons : r.1.cocoons = db.cocoons := hstore.cocoons
    cases retainedStart with
    | none => exact ⟨hmessages, .inl hcocoons⟩
    | some start =>
      dsimp only
      split
      · exact ⟨hmessages, .inl hcocoons⟩
      · refine ⟨hmessages, .inr ⟨start, rfl, ?_⟩⟩
        simp only [finishRun, setContextStart, hcocoons]

/-! ## The invariant -/

def Anchored (messages : List Message) (start : Option RowId) : Prop :=
  start = none ∨ (resolveMessageIndex messages start).isSome

/-- What is kept along a run whose steps all fit. -/
structure CompactionInv (cocoonId : RowId) (s : CompactionState) : Prop where
  ids : MessageIds s.db
  order : InOrder s.db cocoonId
  cocoon : ∃ cocoon, get s.db.cocoons cocoonId = some cocoon ∧
    Anchored (ownMessages s.db cocoonId) cocoon.contextStartMessageId ∧
    ∀ m ∈ (ownMessages s.db cocoonId).take
      (resolveAnchorIndex (ownMessages s.db cocoonId) cocoon.contextStartMessageId),
        m.id ∈ s.compacted

lemma CompactionInitial.inv (h : CompactionInitial cocoonId s) : CompactionInv cocoonId s := by
  have hempty : ownMessages s.db cocoonId = [] :=
    List.filter_eq_nil_iff.mpr fun m hm => by simpa using h.empty m hm
  obtain ⟨cocoon, hget, hstart⟩ := h.cocoon
  refine ⟨h.ids, ?_, cocoon, hget, .inl hstart, ?_⟩
  · rw [InOrder, hempty]
    exact List.Pairwise.nil
  · rw [hempty]
    simp

lemma Anchored.append {messages : List Message} {start : Option RowId}
    (h : Anchored messages start) (m : Message) :
    Anchored (messages ++ [m]) start ∧
      resolveAnchorIndex (messages ++ [m]) start = resolveAnchorIndex messages start ∧
      resolveAnchorIndex messages start ≤ messages.length := by
  rcases h with rfl | h
  · exact ⟨.inl rfl, rfl, Nat.zero_le _⟩
  · obtain ⟨i, hi⟩ := Option.isSome_iff_exists.mp h
    obtain ⟨id, hid, hidx⟩ := Option.bind_eq_some_iff.mp hi
    have happend : resolveMessageIndex (messages ++ [m]) start = some i := by
      rw [resolveMessageIndex, hid, Option.bind_some, List.findIdx?_append, hidx, Option.some_or]
    have hlt := (List.findIdx?_eq_some_iff_findIdx_eq.mp hidx).1
    refine ⟨.inr (by rw [happend]; rfl), ?_, ?_⟩
    · rw [resolveAnchorIndex, resolveAnchorIndex, happend, hi]
    · rw [resolveAnchorIndex, hi]
      exact hlt.le

lemma CompactionInv.nothingForgotten (h : CompactionInv cocoonId s) :
    NothingForgotten cocoonId s := by
  intro cocoon hget m hm hown hhidden
  obtain ⟨cocoon', hget', -, hall⟩ := h.cocoon
  rw [hget] at hget'
  cases hget'
  have hid : cocoon.id = cocoonId := key_of_get hget
  subst hid
  rw [shownBy_eq h.ids h.order] at hhidden
  have hmem := mem_ownMessages.mpr ⟨hm, hown⟩
  rw [← List.take_append_drop (resolveAnchorIndex (ownMessages s.db cocoon.id)
    cocoon.contextStartMessageId) (ownMessages s.db cocoon.id)] at hmem
  exact hall m ((List.mem_append.mp hmem).resolve_right hhidden)

lemma inv_send (h : CompactionInv cocoonId s) {m : Message}
    (hfits : CompactionFits cocoonId s (.send m))
    (hnew : m.id ∉ s.db.messages.map key) (hne : m.id ≠ "") :
    CompactionInv cocoonId { s with db := { s.db with messages := s.db.messages ++ [m] } } := by
  obtain ⟨cocoon, hget, hanchored, hall⟩ := h.cocoon
  have hids : MessageIds { s.db with messages := s.db.messages ++ [m] } := by
    refine ⟨?_, fun m' hm' => ?_⟩
    · rw [List.map_append, List.nodup_append]
      refine ⟨h.ids.unique, List.nodup_singleton _, ?_⟩
      rintro a ha b hb rfl
      rw [List.mem_singleton.mp hb] at ha
      exact hnew ha
    · rcases List.mem_append.mp hm' with hm' | hm'
      · exact h.ids.nonempty m' hm'
      · exact List.mem_singleton.mp hm' ▸ hne
  by_cases hown : m.target = .cocoon cocoonId
  · have hlist : ownMessages { s.db with messages := s.db.messages ++ [m] } cocoonId =
        ownMessages s.db cocoonId ++ [m] := by
      simp [ownMessages, hown]
    obtain ⟨hanchored', hindex, hle⟩ := hanchored.append m
    refine ⟨hids, ?_, cocoon, hget, ?_, ?_⟩
    · rw [InOrder, hlist, List.pairwise_append]
      refine ⟨h.order, List.pairwise_singleton _ _, fun a ha b hb => ?_⟩
      obtain rfl := List.mem_singleton.mp hb
      obtain ⟨ha, hat⟩ := mem_ownMessages.mp ha
      exact hfits hown a ha hat
    · rwa [hlist]
    · rw [hlist, hindex, List.take_append_of_le_length hle]
      exact hall
  · have hlist : ownMessages { s.db with messages := s.db.messages ++ [m] } cocoonId =
        ownMessages s.db cocoonId := by
      simp [ownMessages, hown]
    refine ⟨hids, ?_, cocoon, hget, ?_, ?_⟩
    · rw [InOrder, hlist]
      exact h.order
    · rwa [hlist]
    · rwa [hlist]

lemma compactionSelection_of_fits (h : CompactionInv cocoon.id s)
    (hget : get s.db.cocoons cocoon.id = some cocoon) {before : Option RowId}
    {output : CompactionOutput} {env : JobEnv}
    (hfits : CompactionFits cocoon.id s (.compact before output env)) :
    (compactionSelection s.db cocoon before).2 = none ∨
    ∃ e start, resolveAnchorIndex (ownMessages s.db cocoon.id) cocoon.contextStartMessageId < e ∧
      (ownMessages s.db cocoon.id)[e]? = some start ∧
      compactionSelection s.db cocoon before =
        (((ownMessages s.db cocoon.id).take e).drop
          (resolveAnchorIndex (ownMessages s.db cocoon.id) cocoon.contextStartMessageId),
          some start) := by
  have hwindow : (before.filter (· ≠ "")).isSome ∨
      (((ownMessages s.db cocoon.id).drop (resolveAnchorIndex (ownMessages s.db cocoon.id)
        cocoon.contextStartMessageId)).length ≤ cocoon.maxContextMessages ∨
        cocoon.maxContextMessages = 0) := by
    refine hfits.imp id fun hwindow => ?_
    have hsuffices := hwindow cocoon hget
    rwa [WindowSuffices, shownBy_eq h.ids h.order] at hsuffices
  unfold compactionSelection
  rw [compactionHistory_eq h.order]
  dsimp only
  by_cases hfew : (ownMessages s.db cocoon.id).length < 2
  · rw [if_pos hfew]
    exact .inl rfl
  · rw [if_neg hfew]
    rcases selectMessagesForCompaction_spec hwindow with hnone | hsome
    · rw [hnone]
      exact .inl rfl
    · exact .inr hsome

lemma inv_compact (h : CompactionInv cocoonId s) {before : Option RowId}
    {output : CompactionOutput} {env : JobEnv}
    (hfits : CompactionFits cocoonId s (.compact before output env))
    (hrun : executeCompaction s.db cocoonId before output env = some db') :
    CompactionInv cocoonId
      { db := db', compacted := s.compacted ++
          (compactionInput s.db cocoonId before).map Message.id } ∧
    StartMovesForward cocoonId s
      { db := db', compacted := s.compacted ++
          (compactionInput s.db cocoonId before).map Message.id } := by
  obtain ⟨cocoon, hget, hanchored, hall⟩ := h.cocoon
  have hid : cocoon.id = cocoonId := key_of_get hget
  subst hid
  obtain ⟨hmessages, hcocoons⟩ := executeCompaction_spec hget hrun
  have hinput : compactionInput s.db cocoon.id before =
      (compactionSelection s.db cocoon before).1 := by
    rw [compactionInput, hget, Option.elim_some]
  have hown : ownMessages db' cocoon.id = ownMessages s.db cocoon.id := by
    rw [ownMessages, hmessages, ownMessages]
  have hids : MessageIds db' := ⟨hmessages ▸ h.ids.unique, hmessages ▸ h.ids.nonempty⟩
  have horder : InOrder db' cocoon.id := by
    rw [InOrder, hown]
    exact h.order
  rw [hinput]
  rcases hcocoons with hcocoons | ⟨start, hstart, hcocoons⟩
  · -- the context start stays where it is
    refine ⟨⟨hids, horder, cocoon, hcocoons ▸ hget, hown.symm ▸ hanchored, ?_⟩, ?_⟩
    · dsimp only
      rw [hown]
      exact fun m hm => List.mem_append_left _ (hall m hm)
    · intro c c' hc hc'
      rw [hcocoons, hc] at hc'
      cases hc'
      exact .inl rfl
  · rcases compactionSelection_of_fits h hget hfits with hnone | ⟨e, start', he, hkept, hselection⟩
    · rw [hnone] at hstart
      cases hstart
    · have hsame : start = start' := by
        rw [hselection] at hstart
        injection hstart with hstart
        exact hstart.symm
      subst hsame
      have hmem : start ∈ s.db.messages := (mem_ownMessages.mp (List.mem_of_getElem? hkept)).1
      have hindex : resolveMessageIndex (ownMessages s.db cocoon.id) (some start.id) = some e :=
        resolveMessageIndex_of_getElem? (nodup_ownMessages h.ids) hkept (h.ids.nonempty start hmem)
      have hget' : get db'.cocoons cocoon.id =
          some { cocoon with contextStartMessageId := some start.id } := by
        have hupdate : get (setContextStart s.db cocoon.id start.id).cocoons cocoon.id =
          (get s.db.cocoons cocoon.id).map _ := get_update fun _ => rfl
        rw [hcocoons, hupdate, hget, Option.map_some, if_pos (key_of_get hget)]
      refine ⟨⟨hids, horder, _, hget', ?_, ?_⟩, ?_⟩
      · refine .inr ?_
        dsimp only
        rw [hown, hindex]
        rfl
      · dsimp only
        rw [hown, resolveAnchorIndex, hindex, Option.getD_some, hselection]
        intro m hm
        have hsplit : (ownMessages s.db cocoon.id).take e =
            ((ownMessages s.db cocoon.id).take e).take (resolveAnchorIndex
              (ownMessages s.db cocoon.id) cocoon.contextStartMessageId) ++
            ((ownMessages s.db cocoon.id).take e).drop (resolveAnchorIndex
              (ownMessages s.db cocoon.id) cocoon.contextStartMessageId) :=
          (List.take_append_drop _ _).symm
        rw [hsplit, List.take_take, Nat.min_eq_left he.le] at hm
        rcases List.mem_append.mp hm with hm | hm
        · exact List.mem_append_left _ (hall m hm)
        · exact List.mem_append_right _ (List.mem_map_of_mem hm)
      · intro c c' hc hc'
        rw [hget] at hc
        cases hc
        rw [hget'] at hc'
        cases hc'
        obtain ⟨helt, rfl⟩ := List.getElem?_eq_some_iff.mp hkept
        have hlt := he.trans helt
        rw [shownBy_eq h.ids h.order]
        have hfirst := List.getElem?_eq_getElem hlt
        generalize (ownMessages s.db cocoon.id)[resolveAnchorIndex (ownMessages s.db cocoon.id)
          cocoon.contextStartMessageId] = first at hfirst
        have hnewer : first.createdAt < ((ownMessages s.db cocoon.id)[e]).createdAt := by
          obtain ⟨_, rfl⟩ := List.getElem?_eq_some_iff.mp hfirst
          exact List.pairwise_iff_getElem.mp h.order _ _ hlt helt he
        refine .inr ⟨first, List.mem_iff_getElem?.mpr ⟨0, ?_⟩, (ownMessages s.db cocoon.id)[e],
          List.mem_iff_getElem?.mpr ⟨e - resolveAnchorIndex (ownMessages s.db cocoon.id)
            cocoon.contextStartMessageId, ?_⟩, stamp_lt_of_createdAt_lt hnewer, rfl⟩
        · rw [List.getElem?_drop, Nat.add_zero, hfirst]
        · rw [List.getElem?_drop, Nat.add_sub_cancel' he.le, hkept]

/-! ## Runs -/

lemma inv_compactionStep {e : CompactionEvent} (h : CompactionInv cocoonId s)
    (hfits : CompactionFits cocoonId s e) (hstep : compactionStep cocoonId s e = some s') :
    CompactionInv cocoonId s' ∧ StartMovesForward cocoonId s s' := by
  cases e with
  | send m =>
    obtain ⟨⟨hnew, hne⟩, hs'⟩ := Option.ite_none_right_eq_some.mp hstep
    cases hs'
    refine ⟨inv_send h hfits hnew hne, fun c c' hc hc' => ?_⟩
    have hsame : get s.db.cocoons cocoonId = some c' := hc'
    rw [hc] at hsame
    cases hsame
    exact .inl rfl
  | compact before output env =>
    obtain ⟨db', hrun, rfl⟩ := Option.map_eq_some_iff.mp hstep
    exact inv_compact h hfits hrun

/-- In a run whose steps all fit, nothing is lost from context, and the context start moves forward
only. -/
theorem nothingForgotten_of_fits {s₀ : CompactionState} (h₀ : CompactionInitial cocoonId s₀)
    {es : List CompactionEvent}
    (hfits : StepsMeet (compactionStep cocoonId) (CompactionFits cocoonId) s₀ es) :
    AllStates (compactionStep cocoonId) (NothingForgotten cocoonId) s₀ es ∧
      AllSteps (compactionStep cocoonId) (fun s _ s' => StartMovesForward cocoonId s s') s₀ es := by
  have hstep : ∀ s e s', CompactionInv cocoonId s → CompactionFits cocoonId s e →
      compactionStep cocoonId s e = some s' → CompactionInv cocoonId s' :=
    fun s e s' h hfits hs => (inv_compactionStep h hfits hs).1
  constructor
  · exact allStates_of_stepsMeet (CompactionInv cocoonId) hstep
      (fun _ h => h.nothingForgotten) h₀.inv hfits
  · exact stepsMeet_of_stepsMeet (CompactionInv cocoonId) hstep
      (fun s e h hfits s' hs => (inv_compactionStep h hfits hs).2) h₀.inv hfits

/-- A new cocoon with a window of two messages. -/
def newCocoon : CompactionState where
  db := { cocoons :=
    [{ id := "c1", ownerUserId := "u1", characterId := "ch1", maxContextMessages := 2 }] }

lemma initial_newCocoon : CompactionInitial "c1" newCocoon := by
  refine ⟨⟨List.nodup_nil, ?_⟩, ⟨_, rfl, rfl⟩, ?_⟩ <;> simp [newCocoon]

/-- A compaction whose answer is one memory. -/
def compactAll (before : Option RowId) : CompactionEvent :=
  .compact before { longTermMemories := [{ summary := "s", content := "c" }] }
    { runId := "run", newTagId := "tag", memoryKeys := fun _ => ⟨"mem", "cand"⟩, now := 9 }

def sendNth (id : RowId) (createdAt : Timestamp) : CompactionEvent :=
  .send (sent id (.cocoon "c1") createdAt)

/-- Two messages come, and are compacted at once. -/
theorem twoMessages_nothingForgotten :
    AllStates (compactionStep "c1") (NothingForgotten "c1") newCocoon
      [sendNth "m1" 1, sendNth "m2" 2, compactAll none] := by
  refine (nothingForgotten_of_fits initial_newCocoon ?_).1
  have hm1 : compactionStep "c1" newCocoon (sendNth "m1" 1) =
    some { newCocoon with db.messages := [sent "m1" (.cocoon "c1") 1] } := rfl
  have hm2 : compactionStep "c1" { newCocoon with db.messages := [sent "m1" (.cocoon "c1") 1] }
    (sendNth "m2" 2) = some { newCocoon with
      db.messages := [sent "m1" (.cocoon "c1") 1, sent "m2" (.cocoon "c1") 2] } := rfl
  rw [stepsMeet_cons_of_step hm1, stepsMeet_cons_of_step hm2]
  refine ⟨?_, ?_, .inr ?_, ?_⟩
  · simp [CompactionFits, sendNth, newCocoon]
  · intro _ m hm _
    obtain rfl := List.mem_singleton.mp hm
    decide
  · intro cocoon hget
    cases hget
    left
    decide
  · -- the job is the last step
    generalize compactionStep "c1" _ _ = last
    cases last <;> trivial

/-- The own messages that are neither in context nor compacted. -/
def forgotten (s : CompactionState) (cocoonId : RowId) : List RowId :=
  (get s.db.cocoons cocoonId).elim [] fun cocoon =>
    ((s.db.messages.filter fun m => m.target = .cocoon cocoonId ∧
      m.id ∉ (shownBy s.db cocoon).map Message.id ∧ m.id ∉ s.compacted).map Message.id)

lemma forgotten_eq_nil (h : NothingForgotten cocoonId s) : forgotten s cocoonId = [] := by
  unfold forgotten
  cases hget : get s.db.cocoons cocoonId with
  | none => rfl
  | some cocoon =>
    rw [Option.elim_some, List.map_eq_nil_iff, List.filter_eq_nil_iff]
    intro m hm hforgotten
    obtain ⟨hown, hhidden, hnot⟩ := of_decide_eq_true hforgotten
    exact hnot (h cocoon hget m hm hown fun hshown => hhidden (List.mem_map_of_mem hshown))

/-- Four messages come before the compaction; the first two are not compacted. -/
theorem fourMessages_forgotten :
    CompactionInitial "c1" newCocoon ∧ ¬ AllStates (compactionStep "c1") (NothingForgotten "c1")
      newCocoon [sendNth "m1" 1, sendNth "m2" 2, sendNth "m3" 3, sendNth "m4" 4,
        compactAll none] := by
  refine ⟨initial_newCocoon, fun h => ?_⟩
  have hrun : (run (compactionStep "c1") newCocoon [sendNth "m1" 1, sendNth "m2" 2,
      sendNth "m3" 3, sendNth "m4" 4, compactAll none]).map (forgotten · "c1") =
        some ["m1", "m2"] := by
    decide +kernel
  obtain ⟨s, hs, hforgotten⟩ := Option.map_eq_some_iff.mp hrun
  rw [forgotten_eq_nil (h.last hs)] at hforgotten
  cases hforgotten

end CocoonSit
