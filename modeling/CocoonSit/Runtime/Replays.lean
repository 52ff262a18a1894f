import CocoonSit.Jobs.CompactionWindow
import CocoonSit.Runtime.ReplyDelivery
import CocoonSit.Tags.StorageWrites

/-!
# What a replayed round leaves behind

Before a round is run again, for an edited message or as a retry, `RoundCleanupService` takes away
what it is to replace.  A round writes a thought, and a reply unless it is silent; a retry takes
away one message, the last of the assistant's.  So of a round that has replied one of the two
stays, and the next round sees it.
-/

namespace CocoonSit

open Table TransitionSystem

namespace Replays

/-! ## Rounds -/

structure Reply where
  text : String
  id : RowId
  createdAt : Timestamp

/-- A round, as far as it writes messages; one that fails before its reply has none. -/
structure Round where
  event : RuntimeEvent
  internalThought : String := ""
  eventSummary : String := ""
  thoughtId : RowId
  thoughtAt : Timestamp
  reply : Option Reply := none

/-- `persist_thought_message` and, later, `persist_generated_message`. -/
def Round.perform (r : Round) (db : Db) : Db :=
  let thoughtText := strip r.internalThought
  let eventSummary := strip r.eventSummary
  let db := persistMessage db r.event .assistant
    (if thoughtText = "" then "Structured meta decision completed." else thoughtText) true
    (if eventSummary = "" then none else some eventSummary) r.thoughtId r.thoughtAt
  match r.reply with
  | none => db
  | some reply =>
    persistMessage db r.event (ReplyDelivery.replyRole r.event.eventType) reply.text false none
      reply.id reply.createdAt

/-- The keys of its messages. -/
def Round.outputIds (r : Round) : List RowId := r.thoughtId :: r.reply.toList.map Reply.id

/-- The database, and the rounds that have been run. -/
structure Conversation where
  db : Db
  rounds : List Round := []

/-- The keys that have been drawn for messages. -/
def Conversation.usedIds (c : Conversation) : List RowId :=
  c.db.messages.map key ++ c.rounds.flatMap Round.outputIds

/-- The columns of a message that are never rewritten. -/
structure Sent where
  id : RowId
  target : Target
  role : MessageRole
  createdAt : Timestamp
deriving DecidableEq

def sentOf (m : Message) : Sent := ⟨m.id, m.target, m.role, m.createdAt⟩

inductive Event where
  | userMessage (m : Message)
  | round (r : Round)
  /-- Whatever else is written: messages are taken away, retracted or edited, none is added. -/
  | rest (db : Db)

/-- Drawn keys are new. -/
def step (c : Conversation) : Event → Option Conversation
  | .userMessage m =>
    if m.role = .user ∧ m.id ∉ c.usedIds then some { c with db := insertMessage c.db m } else none
  | .round r =>
    if r.outputIds.Nodup ∧ ∀ id ∈ r.outputIds, id ∉ c.usedIds then
      some { db := r.perform c.db, rounds := c.rounds ++ [r] }
    else none
  | .rest db =>
    if (db.messages.map sentOf).Sublist (c.db.messages.map sentOf) then some { c with db := db }
    else none

/-! ## What is asked of a cleanup -/

inductive Replay where
  | edit (editedMessageId : RowId)
  | retry (messageId : Option RowId)

/-- `RoundPreparationService.prepare`, up to the audit run. -/
def Replay.cleanup (target : Target) (db : Db) : Replay → Db
  | .edit editedMessageId => RoundCleanup.cleanupForEdit db target editedMessageId
  | .retry messageId => RoundCleanup.cleanupForRetry db target messageId

/-- What is left of a round's messages. -/
def outputs (db : Db) (r : Round) : List Message := db.messages.filter fun m => m.id ∈ r.outputIds

/-- The time of the anchor, when there is one. -/
def since (db : Db) (messageId : Option RowId) : Timestamp :=
  ((messageId.filter (· ≠ "")).bind (get db.messages)).elim 0 Message.createdAt

/-- The last round of the target with a message that is not before the anchor. -/
def latestRound (c : Conversation) (target : Target) (messageId : Option RowId) : Option Round :=
  c.rounds.reverse.find? fun r =>
    r.event.target = target && (outputs c.db r).any fun m => since c.db messageId ≤ m.createdAt

/-- The messages a replay is to replace. -/
def Replaced (c : Conversation) (target : Target) : Replay → Message → Prop
  | .edit editedMessageId, m =>
    ∃ edited ∈ get c.db.messages editedMessageId, m.target = target ∧ edited.stamp < m.stamp
  | .retry messageId, m => ∃ r ∈ latestRound c target messageId, m.id ∈ r.outputIds

/-- Exactly these are taken away, and the next round's window shows none of them. -/
structure Sound (c : Conversation) (target : Target) (replay : Replay) : Prop where
  exact : ∀ m ∈ c.db.messages,
    m ∈ (replay.cleanup target c.db).messages ↔ ¬ Replaced c target replay m
  unseen : ∀ maxContextMessages activeTags contextStartMessageId,
    ∀ m ∈ listVisibleMessages (replay.cleanup target c.db) maxContextMessages activeTags target
      contextStartMessageId, ¬ Replaced c target replay m

/-- No other message of the target is as late as the edited one with a greater key; and of the round
that is retried one message is left, the last of the assistant's by its time. -/
def Fits (c : Conversation) (target : Target) : Replay → Prop
  | .edit editedMessageId =>
    ∀ edited ∈ get c.db.messages editedMessageId, ∀ m ∈ c.db.messages, m.target = target →
      m.createdAt = edited.createdAt → m.id ≤ edited.id
  | .retry messageId =>
    ∀ r ∈ latestRound c target messageId, ∃ m, outputs c.db r = [m] ∧ m.role = .assistant ∧
      ∀ m' ∈ c.db.messages, m'.target = target → m'.role = .assistant →
        since c.db messageId ≤ m'.createdAt → m' ≠ m → m'.createdAt < m.createdAt

/-! ## Messages and rounds -/

/-- What a round writes. -/
def Round.sent (r : Round) : List Sent :=
  ⟨r.thoughtId, r.event.target, .assistant, r.thoughtAt⟩ :: r.reply.toList.map fun reply =>
    ⟨reply.id, r.event.target, ReplyDelivery.replyRole r.event.eventType, reply.createdAt⟩

lemma map_id_sent (r : Round) : r.sent.map Sent.id = r.outputIds := by
  unfold Round.sent Round.outputIds
  cases r.reply <;> rfl

lemma target_of_mem_sent {r : Round} {s : Sent} (h : s ∈ r.sent) : s.target = r.event.target := by
  rcases List.mem_cons.mp h with rfl | h
  · rfl
  · obtain ⟨reply, -, rfl⟩ := List.mem_map.mp h
    rfl

lemma map_sentOf_perform (r : Round) (db : Db) :
    (r.perform db).messages.map sentOf = db.messages.map sentOf ++ r.sent := by
  unfold Round.perform Round.sent
  cases r.reply with
  | none => simp [persistMessage, insertMessage, sentOf]
  | some reply => simp [persistMessage, insertMessage, sentOf]

/-- The messages that no user wrote. -/
def roundMessages (db : Db) : List Message := db.messages.filter fun m => m.role ≠ .user

/-- Keys are distinct, and what no user wrote is from the rounds, in their order. -/
structure Inv (c : Conversation) : Prop where
  keys : (c.db.messages.map key).Nodup
  ids : (c.rounds.flatMap Round.outputIds).Nodup
  written : ((roundMessages c.db).map sentOf).Sublist (c.rounds.flatMap Round.sent)

variable {c c' : Conversation} {target : Target}

lemma map_sentOf_roundMessages (db : Db) :
    (roundMessages db).map sentOf = (db.messages.map sentOf).filter fun s => s.role ≠ .user := by
  rw [List.filter_map]
  rfl

lemma key_eq_sentOf (ms : List Message) : ms.map key = (ms.map sentOf).map Sent.id := by
  rw [List.map_map]
  rfl

lemma step_inv (h : Inv c) {e : Event} (hstep : step c e = some c') : Inv c' := by
  cases e with
  | userMessage m =>
    obtain ⟨⟨hrole, hnew⟩, heq⟩ := Option.ite_none_right_eq_some.mp hstep
    cases heq
    refine ⟨?_, h.ids, ?_⟩
    · change ((c.db.messages ++ [m]).map key).Nodup
      rw [List.map_append]
      refine h.keys.append (List.nodup_singleton _) ?_
      exact List.disjoint_singleton.mpr fun hmem => hnew (List.mem_append_left _ hmem)
    · have hsame : roundMessages (insertMessage c.db m) = roundMessages c.db := by
        change (c.db.messages ++ [m]).filter _ = _
        rw [List.filter_append, List.filter_cons_of_neg (by simp [hrole]), List.filter_nil,
          List.append_nil]
        rfl
      rw [hsame]
      exact h.written
  | round r =>
    obtain ⟨⟨hnodup, hnew⟩, heq⟩ := Option.ite_none_right_eq_some.mp hstep
    cases heq
    refine ⟨?_, ?_, ?_⟩
    · rw [key_eq_sentOf, map_sentOf_perform, List.map_append, map_id_sent, ← key_eq_sentOf]
      refine h.keys.append hnodup fun id hmem hid => ?_
      exact hnew id hid (List.mem_append_left _ hmem)
    · rw [List.flatMap_append, List.flatMap_singleton]
      refine h.ids.append hnodup fun id hmem hid => ?_
      exact hnew id hid (List.mem_append_right _ hmem)
    · rw [map_sentOf_roundMessages, map_sentOf_perform, List.filter_append,
        ← map_sentOf_roundMessages, List.flatMap_append, List.flatMap_singleton]
      exact h.written.append List.filter_sublist
  | rest db =>
    obtain ⟨hsub, heq⟩ := Option.ite_none_right_eq_some.mp hstep
    cases heq
    refine ⟨?_, h.ids, ?_⟩
    · have hkeys := h.keys
      rw [key_eq_sentOf] at hkeys ⊢
      exact hkeys.sublist (hsub.map _)
    · have hwritten := h.written
      rw [map_sentOf_roundMessages] at hwritten ⊢
      exact (hsub.filter _).trans hwritten

lemma Inv.exists_round (h : Inv c) {m : Message} (hm : m ∈ c.db.messages) (hrole : m.role ≠ .user) :
    ∃ r ∈ c.rounds, m.id ∈ r.outputIds ∧ m.target = r.event.target := by
  have hmem : sentOf m ∈ (roundMessages c.db).map sentOf :=
    List.mem_map_of_mem (List.mem_filter.mpr ⟨hm, decide_eq_true hrole⟩)
  obtain ⟨r, hr, hsent⟩ := List.mem_flatMap.mp (h.written.subset hmem)
  refine ⟨r, hr, ?_, target_of_mem_sent hsent⟩
  rw [← map_id_sent]
  exact List.mem_map_of_mem (f := Sent.id) hsent

lemma Inv.target_of_mem_outputIds (h : Inv c) {m : Message} (hm : m ∈ c.db.messages)
    (hrole : m.role ≠ .user) {r : Round} (hr : r ∈ c.rounds) (hid : m.id ∈ r.outputIds) :
    m.target = r.event.target := by
  obtain ⟨r', hr', hid', htarget⟩ := h.exists_round hm hrole
  by_cases heq : r' = r
  · rw [htarget, heq]
  · have hsymm : Std.Symm (Function.onFun List.Disjoint Round.outputIds) :=
      ⟨fun _ _ hdisjoint => hdisjoint.symm⟩
    exact absurd hid ((List.nodup_flatMap.mp h.ids).2.forall hr' hr heq hid')

/-! ## What the cleanups take away -/

lemma mem_cleanup {db : Db} {replay : Replay} {m : Message} :
    m ∈ (replay.cleanup target db).messages ↔ m ∈ db.messages ∧ m.id ∉ (match replay with
      | .edit editedMessageId => RoundCleanup.editedMessageIds db target editedMessageId
      | .retry messageId => RoundCleanup.retriedMessageIds db target messageId) := by
  cases replay <;> simp [Replay.cleanup, RoundCleanup.cleanupForEdit, RoundCleanup.cleanupForRetry,
    RoundCleanup.deleteMessageRelatedRows]

lemma mem_of_mem_listVisibleMessages {db : Db} {maxContextMessages : ℤ} {activeTags : List RowId}
    {contextStartMessageId : Option RowId} {m : Message}
    (h : m ∈ listVisibleMessages db maxContextMessages activeTags target contextStartMessageId) :
    m ∈ db.messages := by
  have hfilter : ∀ visible, m ∈ filterByTags db activeTags visible → m ∈ visible := by
    intro visible hm
    unfold filterByTags at hm
    dsimp only at hm
    split_ifs at hm
    · exact hm
    · exact hm
    · exact (List.mem_filter.mp hm).1
  cases target with
  | cocoon cocoonId =>
    exact mem_of_mem_lineageMessages ((sliceLast_suffix _ _).subset (hfilter _ h))
  | chatGroup roomId =>
    have hm := (List.mem_filter.mp (hfilter _ h)).1
    have hm := List.mem_of_mem_take (List.mem_reverse.mp hm)
    exact (List.mem_filter.mp (mem_orderBy.mp hm)).1

lemma sound_of_exact {replay : Replay} (h : ∀ m ∈ c.db.messages,
    m ∈ (replay.cleanup target c.db).messages ↔ ¬ Replaced c target replay m) :
    Sound c target replay := by
  refine ⟨h, fun _ _ _ m hm => ?_⟩
  have hleft := mem_of_mem_listVisibleMessages hm
  exact (h m (mem_cleanup.mp hleft).1).mp hleft

/-! ## Edits -/

lemma stamp_lt_iff {m m' : Message} :
    m.stamp < m'.stamp ↔ m.createdAt < m'.createdAt ∨ m.createdAt = m'.createdAt ∧ m.id < m'.id :=
  Prod.Lex.lt_iff

lemma mem_editedMessageIds (hkeys : (c.db.messages.map key).Nodup) {editedMessageId : RowId}
    {m : Message} (hm : m ∈ c.db.messages) :
    m.id ∈ RoundCleanup.editedMessageIds c.db target editedMessageId ↔
      ∃ edited ∈ get c.db.messages editedMessageId,
        m.target = target ∧ edited.createdAt < m.createdAt := by
  unfold RoundCleanup.editedMessageIds
  cases get c.db.messages editedMessageId with
  | none => simp
  | some edited =>
    constructor
    · intro hid
      obtain ⟨m', hm', heq⟩ := List.mem_map.mp hid
      obtain ⟨hmem, hlater⟩ := List.mem_filter.mp hm'
      obtain rfl := List.inj_on_of_nodup_map hkeys hmem hm heq
      exact ⟨edited, rfl, by simpa using hlater⟩
    · rintro ⟨_, ⟨⟩, hlater⟩
      exact List.mem_map_of_mem (List.mem_filter.mpr ⟨hm, by simpa using hlater⟩)

lemma exact_edit_iff (h : Inv c) (editedMessageId : RowId) :
    (∀ m ∈ c.db.messages, m ∈ ((Replay.edit editedMessageId).cleanup target c.db).messages ↔
      ¬ Replaced c target (.edit editedMessageId) m) ↔ Fits c target (.edit editedMessageId) := by
  have hremoved : ∀ m ∈ c.db.messages,
      (m ∈ ((Replay.edit editedMessageId).cleanup target c.db).messages ↔
        ¬ ∃ edited ∈ get c.db.messages editedMessageId,
          m.target = target ∧ edited.createdAt < m.createdAt) := by
    intro m hm
    rw [mem_cleanup, and_iff_right hm, mem_editedMessageIds h.keys hm]
  constructor
  · intro hexact edited hedited m hm htarget htime
    by_contra hlt
    have hafter : Replaced c target (.edit editedMessageId) m :=
      ⟨edited, hedited, htarget, stamp_lt_iff.mpr (.inr ⟨htime.symm, not_le.mp hlt⟩)⟩
    have hgone := fun hleft => (hexact m hm).mp hleft hafter
    rw [hremoved m hm] at hgone
    obtain ⟨edited', hedited', -, hlater⟩ := not_not.mp hgone
    cases hedited.symm.trans hedited'
    exact absurd htime hlater.ne'
  · intro hfits m hm
    rw [hremoved m hm, not_iff_not]
    refine exists_congr fun edited => and_congr_right fun hedited => ?_
    refine and_congr_right fun htarget => ?_
    rw [stamp_lt_iff]
    refine ⟨.inl, fun hafter => hafter.resolve_right fun ⟨htime, hlt⟩ => ?_⟩
    exact absurd hlt (not_lt.mpr (hfits edited hedited m hm htarget htime.symm))

/-! ## Retries -/

/-- The assistant's messages of the target that are not before the anchor. -/
def candidates (db : Db) (target : Target) (messageId : Option RowId) : List Message :=
  db.messages.filter fun m =>
    m.target = target && m.role = .assistant && since db messageId ≤ m.createdAt

lemma mem_candidates {db : Db} {messageId : Option RowId} {m : Message} :
    m ∈ candidates db target messageId ↔ m ∈ db.messages ∧ m.target = target ∧
      m.role = .assistant ∧ since db messageId ≤ m.createdAt := by
  simp [candidates, and_assoc]

/-- The message a retry takes away. -/
def latestMessage (db : Db) (target : Target) (messageId : Option RowId) : Option Message :=
  (orderBy (fun m : Message => OrderDual.toDual m.createdAt)
    (candidates db target messageId)).head?

lemma retriedMessageIds_eq (db : Db) (target : Target) (messageId : Option RowId) :
    RoundCleanup.retriedMessageIds db target messageId =
      (latestMessage db target messageId).toList.map Message.id := by
  change ((orderBy (fun m : Message => OrderDual.toDual m.createdAt)
    (candidates db target messageId)).take 1).map Message.id = _
  unfold latestMessage
  cases orderBy (fun m : Message => OrderDual.toDual m.createdAt)
    (candidates db target messageId) <;> rfl

lemma le_latestMessage {db : Db} {messageId : Option RowId} {m m' : Message}
    (h : latestMessage db target messageId = some m) (hm' : m' ∈ candidates db target messageId) :
    m'.createdAt ≤ m.createdAt :=
  le_of_head?_orderBy (f := fun m : Message => OrderDual.toDual m.createdAt) h hm'

lemma latestMessage_mem {db : Db} {messageId : Option RowId} {m : Message}
    (h : latestMessage db target messageId = some m) : m ∈ candidates db target messageId :=
  mem_orderBy.mp (List.mem_of_mem_head? h)

lemma mem_outputs {db : Db} {r : Round} {m : Message} :
    m ∈ outputs db r ↔ m ∈ db.messages ∧ m.id ∈ r.outputIds := by
  simp [outputs]

lemma isSome_latestRound (h : Inv c) {messageId : Option RowId} {m : Message}
    (hm : m ∈ candidates c.db target messageId) : (latestRound c target messageId).isSome := by
  obtain ⟨hmem, htarget, hrole, hsince⟩ := mem_candidates.mp hm
  obtain ⟨r, hr, hid, hevent⟩ := h.exists_round hmem (by rw [hrole]; exact fun h => by cases h)
  refine List.find?_isSome.mpr ⟨r, List.mem_reverse.mpr hr, ?_⟩
  rw [Bool.and_eq_true_iff]
  exact ⟨decide_eq_true (hevent.symm.trans htarget),
    List.any_eq_true.mpr ⟨m, mem_outputs.mpr ⟨hmem, hid⟩, decide_eq_true hsince⟩⟩

lemma latestRound_spec {messageId : Option RowId} {r : Round}
    (hr : latestRound c target messageId = some r) :
    r.event.target = target ∧ (∃ m ∈ outputs c.db r, since c.db messageId ≤ m.createdAt) ∧
      ∃ before after, c.rounds = before ++ r :: after ∧ ∀ r' ∈ after, r'.event.target = target →
        ∀ m ∈ outputs c.db r', ¬ since c.db messageId ≤ m.createdAt := by
  obtain ⟨hspec, later, earlier, hrounds, hnone⟩ := List.find?_eq_some_iff_append.mp hr
  obtain ⟨htarget, hany⟩ := Bool.and_eq_true_iff.mp hspec
  obtain ⟨m, hm, hsince⟩ := List.any_eq_true.mp hany
  refine ⟨of_decide_eq_true htarget, ⟨m, hm, of_decide_eq_true hsince⟩, earlier.reverse,
    later.reverse, ?_, fun r' hr' htarget' m' hm' hsince' => ?_⟩
  · rw [← List.reverse_reverse c.rounds, hrounds]
    simp
  · have hno := hnone r' (List.mem_reverse.mp hr')
    rw [Bool.not_eq_true', Bool.and_eq_false_iff] at hno
    rcases hno with hno | hno
    · exact absurd htarget' (of_decide_eq_false hno)
    · exact absurd (List.any_eq_false.mp hno m' hm') (not_not.mpr (decide_eq_true hsince'))

lemma candidates_eq_append (h : Inv c) {messageId : Option RowId} {r : Round}
    (hr : latestRound c target messageId = some r) :
    ∃ earlier own, candidates c.db target messageId = earlier ++ own ∧
      (∀ m ∈ earlier, m.id ∉ r.outputIds) ∧ ∀ m ∈ own, m ∈ outputs c.db r := by
  obtain ⟨-, -, before, after, hrounds, hnone⟩ := latestRound_spec hr
  have hsub : ((candidates c.db target messageId).map sentOf).Sublist
      (before.flatMap Round.sent ++ (r :: after).flatMap Round.sent) := by
    have hcandidates : (candidates c.db target messageId).Sublist (roundMessages c.db) := by
      unfold candidates roundMessages
      refine List.monotone_filter_right _ fun m hm => ?_
      simp only [Bool.and_eq_true, decide_eq_true_eq] at hm
      exact decide_eq_true (by rw [hm.1.2]; exact fun h => by cases h)
    rw [← List.flatMap_append, ← hrounds]
    exact (hcandidates.map sentOf).trans h.written
  obtain ⟨sent₁, sent₂, hsent, h₁, h₂⟩ := List.sublist_append_iff.mp hsub
  obtain ⟨earlier, own, heq, rfl, rfl⟩ := List.map_eq_append_iff.mp hsent
  have hround : ∀ m r', sentOf m ∈ Round.sent r' → m.id ∈ r'.outputIds := by
    intro m r' hmem
    rw [← map_id_sent]
    exact List.mem_map_of_mem (f := Sent.id) hmem
  have hids := h.ids
  rw [hrounds, List.flatMap_append] at hids
  refine ⟨earlier, own, heq, fun m hm hid => ?_, fun m hm => ?_⟩
  · obtain ⟨r', hr', hmem⟩ := List.mem_flatMap.mp (h₁.subset (List.mem_map_of_mem hm))
    refine List.disjoint_of_nodup_append hids
      (List.mem_flatMap.mpr ⟨r', hr', hround m r' hmem⟩) ?_
    exact List.mem_flatMap.mpr ⟨r, List.mem_cons_self, hid⟩
  · have hcandidate : m ∈ candidates c.db target messageId := heq ▸ List.mem_append_right _ hm
    obtain ⟨hmem, htarget, -, hsince⟩ := mem_candidates.mp hcandidate
    obtain ⟨r', hr', hsent'⟩ := List.mem_flatMap.mp (h₂.subset (List.mem_map_of_mem hm))
    have hout : m ∈ outputs c.db r' := mem_outputs.mpr ⟨hmem, hround m r' hsent'⟩
    rcases List.mem_cons.mp hr' with rfl | hr'
    · exact hout
    · have htarget' := (target_of_mem_sent hsent').symm.trans htarget
      exact absurd hsince (hnone r' hr' htarget' m hout)

lemma latestMessage_eq_some_iff (h : Inv c) {messageId : Option RowId} {r : Round} {m : Message}
    (hr : latestRound c target messageId = some r) (hm : outputs c.db r = [m]) :
    latestMessage c.db target messageId = some m ↔ m.role = .assistant ∧
      ∀ m' ∈ c.db.messages, m'.target = target → m'.role = .assistant →
        since c.db messageId ≤ m'.createdAt → m' ≠ m → m'.createdAt < m.createdAt := by
  constructor
  · intro hlatest
    have hmem := latestMessage_mem hlatest
    refine ⟨(mem_candidates.mp hmem).2.2.1, fun m' hm' htarget hrole hsince hne => ?_⟩
    have hm' : m' ∈ candidates c.db target messageId :=
      mem_candidates.mpr ⟨hm', htarget, hrole, hsince⟩
    obtain ⟨earlier, own, heq, hearlier, hown⟩ := candidates_eq_append h hr
    rw [hm] at hown
    have hfirst : m ∉ earlier := by
      intro hin
      have hout : m ∈ outputs c.db r := by rw [hm]; exact List.mem_singleton.mpr rfl
      exact hearlier m hin (mem_outputs.mp hout).2
    rw [heq] at hmem hm'
    have hmown := (List.mem_append.mp hmem).resolve_left hfirst
    cases own with
    | nil => exact absurd hmown List.not_mem_nil
    | cons a own =>
      obtain rfl := List.mem_singleton.mp (hown a List.mem_cons_self)
      unfold latestMessage at hlatest
      rw [heq] at hlatest
      rcases List.mem_append.mp hm' with hearly | hlate
      · exact lt_of_head?_orderBy_append (f := fun m : Message => OrderDual.toDual m.createdAt)
          hfirst hlatest m' hearly
      · exact absurd (List.mem_singleton.mp (hown m' hlate)) hne
  · rintro ⟨hrole, hothers⟩
    obtain ⟨hevent, ⟨m₀, hm₀, hsince⟩, before, after, hrounds, -⟩ := latestRound_spec hr
    rw [hm] at hm₀
    obtain rfl := List.mem_singleton.mp hm₀
    obtain ⟨hmem, hid⟩ : m₀ ∈ c.db.messages ∧ m₀.id ∈ r.outputIds :=
      mem_outputs.mp (by rw [hm]; exact hm₀)
    have hmemr : r ∈ c.rounds := by
      rw [hrounds]
      exact List.mem_append_right _ List.mem_cons_self
    have hcandidate : m₀ ∈ candidates c.db target messageId := by
      refine mem_candidates.mpr ⟨hmem, ?_, hrole, hsince⟩
      rw [← hevent]
      exact h.target_of_mem_outputIds hmem (by rw [hrole]; exact fun h => by cases h) hmemr hid
    cases hlatest : latestMessage c.db target messageId with
    | none =>
      have hnil := orderBy_eq_nil.mp (List.head?_eq_none_iff.mp hlatest)
      rw [hnil] at hcandidate
      exact absurd hcandidate List.not_mem_nil
    | some m₁ =>
      obtain ⟨hmem₁, htarget₁, hrole₁, hsince₁⟩ := mem_candidates.mp (latestMessage_mem hlatest)
      by_cases heq : m₁ = m₀
      · rw [heq]
      · exact absurd (le_latestMessage hlatest hcandidate)
          (not_le.mpr (hothers m₁ hmem₁ htarget₁ hrole₁ hsince₁ heq))

lemma exact_retry_iff (h : Inv c) (messageId : Option RowId) :
    (∀ m ∈ c.db.messages, m ∈ ((Replay.retry messageId).cleanup target c.db).messages ↔
      ¬ Replaced c target (.retry messageId) m) ↔ Fits c target (.retry messageId) := by
  have hremoved : ∀ m ∈ c.db.messages,
      (m ∈ ((Replay.retry messageId).cleanup target c.db).messages ↔
        latestMessage c.db target messageId ≠ some m) := by
    intro m hm
    rw [mem_cleanup, and_iff_right hm]
    dsimp only
    rw [retriedMessageIds_eq, not_iff_not]
    cases hlatest : latestMessage c.db target messageId with
    | none => simp
    | some m₁ =>
      have hm₁ := (mem_candidates.mp (latestMessage_mem hlatest)).1
      constructor
      · intro hid
        rw [List.inj_on_of_nodup_map h.keys hm₁ hm (List.mem_singleton.mp hid).symm]
      · intro heq
        rw [Option.some.inj heq]
        exact List.mem_singleton.mpr rfl
  cases hr : latestRound c target messageId with
  | none =>
    refine iff_of_true (fun m hm => ?_) fun r hround => ?_
    · rw [hremoved m hm]
      refine iff_of_true (fun hlatest => ?_) fun ⟨r, hround, _⟩ => ?_
      · have hsome := isSome_latestRound h (latestMessage_mem hlatest)
        rw [hr] at hsome
        cases hsome
      · rw [hr] at hround
        cases hround
    · rw [hr] at hround
      cases hround
  | some r =>
    have hreplaced : ∀ m ∈ c.db.messages,
        (Replaced c target (.retry messageId) m ↔ m ∈ outputs c.db r) := by
      intro m hm
      rw [mem_outputs, and_iff_right hm, Replaced, hr]
      simp
    have hfits : Fits c target (.retry messageId) ↔
        ∃ m, outputs c.db r = [m] ∧ latestMessage c.db target messageId = some m := by
      rw [Fits, hr]
      simp only [Option.mem_def, Option.some.injEq, forall_eq']
      exact exists_congr fun m => and_congr_right fun hm =>
        (latestMessage_eq_some_iff h hr hm).symm
    rw [hfits]
    constructor
    · intro hexact
      have hgone : ∀ m ∈ outputs c.db r, latestMessage c.db target messageId = some m := by
        intro m hm
        have hmem := (mem_outputs.mp hm).1
        by_contra hother
        exact (hexact m hmem).mp ((hremoved m hmem).mpr hother) ((hreplaced m hmem).mpr hm)
      obtain ⟨-, ⟨m₀, hm₀, -⟩, -⟩ := latestRound_spec hr
      refine ⟨m₀, ?_, hgone m₀ hm₀⟩
      have hnodup : (outputs c.db r).Nodup := h.keys.of_map.filter _
      have hperm := List.perm_ext_iff_of_nodup hnodup (List.nodup_singleton m₀)
      refine List.perm_singleton.mp (hperm.mpr fun m => ?_)
      rw [List.mem_singleton]
      constructor
      · exact fun hm => Option.some.inj ((hgone m hm).symm.trans (hgone m₀ hm₀))
      · rintro rfl
        exact hm₀
    · rintro ⟨m₀, hm₀, hlatest⟩ m hm
      rw [hremoved m hm, hreplaced m hm, hm₀, hlatest, List.mem_singleton, not_iff_not]
      exact ⟨fun heq => (Option.some.inj heq).symm, fun heq => by rw [heq]⟩

/-- In every conversation, a replay replaces what it is to replace if and only if it fits. -/
theorem replay_sound_iff {es : List Event} {c : Conversation}
    (hrun : run step { db := {} } es = some c)
    (target : Target) (replay : Replay) : Sound c target replay ↔ Fits c target replay := by
  have hinit : Inv { db := {} } := ⟨List.nodup_nil, List.nodup_nil, List.Sublist.refl _⟩
  have h : Inv c := invariant_run Inv (fun _ _ _ h hs => step_inv h hs) hinit hrun
  have hexact : Sound c target replay ↔ ∀ m ∈ c.db.messages,
      m ∈ (replay.cleanup target c.db).messages ↔ ¬ Replaced c target replay m :=
    ⟨Sound.exact, sound_of_exact⟩
  rw [hexact]
  cases replay with
  | edit editedMessageId => exact exact_edit_iff h editedMessageId
  | retry messageId => exact exact_retry_iff h messageId

/-! ## A question and its answer -/

def question : Message :=
  { id := "m1", target := .cocoon "c", role := .user, content := "How are you?", createdAt := 1 }

def answer (reply : Option Reply) : Round :=
  { event := { eventType := .chat, target := .cocoon "c", actionId := "a" }
    thoughtId := "m2"
    thoughtAt := 2
    reply := reply }

/-- A user's message and its round. -/
def asked (reply : Option Reply) : Conversation :=
  { db := (answer reply).perform (insertMessage {} question)
    rounds := [answer reply] }

lemma run_asked : ∀ reply ∈ [none, some { text := "Fine", id := "m3", createdAt := 3 }],
    run step { db := {} } [.userMessage question, .round (answer reply)] = some (asked reply) := by
  intro reply hreply
  rcases List.mem_pair.mp hreply with rfl | rfl <;> rfl

/-- A silent round is retried. -/
theorem silence_replaced : Sound (asked none) (.cocoon "c") (.retry none) := by
  refine (replay_sound_iff (run_asked none List.mem_cons_self) _ _).mpr fun r hr => ?_
  cases hr
  refine ⟨_, rfl, rfl, fun m' hm' _ hrole _ hne => ?_⟩
  rcases List.mem_pair.mp hm' with rfl | rfl
  · cases hrole
  · exact absurd rfl hne

/-- A round that has replied is retried: its reply is taken away, its thought stays. -/
theorem thought_stays :
    let reply : Reply := { text := "Fine", id := "m3", createdAt := 3 }
    run step { db := {} } [.userMessage question, .round (answer (some reply))] =
        some (asked (some reply)) ∧
      ¬ Sound (asked (some reply)) (.cocoon "c") (.retry none) := by
  intro reply
  refine ⟨run_asked _ (List.mem_cons_of_mem _ List.mem_cons_self), fun h => ?_⟩
  obtain ⟨thought, hmem, hid⟩ : ∃ m ∈ (asked (some reply)).db.messages, m.id = "m2" :=
    ⟨_, List.mem_cons_of_mem _ List.mem_cons_self, rfl⟩
  have hreplaced : Replaced (asked (some reply)) (.cocoon "c") (.retry none) thought :=
    ⟨answer (some reply), rfl, by rw [hid]; exact List.mem_cons_self⟩
  have hlatest :
      RoundCleanup.retriedMessageIds (asked (some reply)).db (.cocoon "c") none = ["m3"] := rfl
  refine (h.exact thought hmem).mp (mem_cleanup.mpr ⟨hmem, ?_⟩) hreplaced
  dsimp only
  rw [hlatest, hid]
  decide

end Replays

end CocoonSit
