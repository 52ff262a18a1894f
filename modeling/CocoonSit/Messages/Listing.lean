import CocoonSit.Model.Lineage
import CocoonSit.Model.Python
import Mathlib.Data.String.Basic

/-!
# Listing messages

A cocoon shows the messages of its lineage, one cocoon after the other from the root on and each
from its own context start; a room shows its own.  `MessageService.list_messages` hands them out in
pages, and the runtime's window is cut from the same list.
-/

namespace CocoonSit

open Table

/-- `ORDER BY created_at, id`. -/
def Message.stamp (m : Message) : ℕ ×ₗ String := toLex (m.createdAt, m.id)

/-- The test of `_trim_to_context_start`: there is such a text, and it is the message's id. -/
def Message.isStart (contextStartMessageId : Option RowId) (m : Message) : Bool :=
  contextStartMessageId.any fun id => id ≠ "" && m.id = id

def trimToContextStart (messages : List Message) (contextStartMessageId : Option RowId) :
    List Message :=
  if messages.any (Message.isStart contextStartMessageId) then
    messages.dropWhile fun m => !m.isStart contextStartMessageId
  else messages

/-- `SELECT … WHERE cocoon_id IN ids ORDER BY created_at, id`. -/
def messagesOfCocoons (db : Db) (ids : List RowId) : List Message :=
  orderBy Message.stamp (db.messages.filter fun m => m.target.cocoonId?.any fun id => id ∈ ids)

/-- `messages_by_cocoon`. -/
def ofCocoon (messages : List Message) (cocoonId : RowId) : List Message :=
  messages.filter fun m => m.target = .cocoon cocoonId

/-- `MessageWindowService._list_cocoon_lineage_messages`. -/
def lineageMessages (db : Db) (cocoonId : RowId) (contextStartMessageId : Option RowId) :
    List Message :=
  let lineage := listCocoonLineage db cocoonId
  if lineage.isEmpty then
    trimToContextStart (messagesOfCocoons db [cocoonId]) contextStartMessageId
  else
    let allMessages := messagesOfCocoons db (lineage.map Cocoon.id)
    lineage.flatMap fun cocoon =>
      let anchor := if cocoon.id = cocoonId ∧ contextStartMessageId.isSome then
        contextStartMessageId else cocoon.contextStartMessageId
      trimToContextStart (ofCocoon allMessages cocoon.id) anchor

/-- `MessageService._list_cocoon_lineage_messages`: the messages a cocoon shows. -/
def listCocoonLineageMessages (db : Db) (cocoonId : RowId) : List Message :=
  let lineage := listCocoonLineage db cocoonId
  if lineage.isEmpty then messagesOfCocoons db [cocoonId]
  else
    let allMessages := messagesOfCocoons db (lineage.map Cocoon.id)
    lineage.flatMap fun cocoon =>
      trimToContextStart (ofCocoon allMessages cocoon.id) cocoon.contextStartMessageId

/-- `messages[-limit:]`, if there is a limit. -/
def limited (messages : List Message) (limit : Option ℕ) : List Message :=
  limit.elim messages fun n => sliceLast messages n

/-- `MessageService.list_messages`; `none` is the answer 404. -/
def listMessages (db : Db) (target : Target) (beforeMessageId : Option RowId)
    (limit : Option ℕ) : Option (List Message) :=
  let before := beforeMessageId.filter (· ≠ "")
  match target with
  | .cocoon cocoonId =>
    let messages := listCocoonLineageMessages db cocoonId
    match before with
    | none => some (limited messages limit)
    | some id => (get db.messages id).bind fun anchor =>
      if anchor.target.cocoonId? ∈ messages.map fun m => m.target.cocoonId? then
        some (limited (messages.filter fun m => m.stamp < anchor.stamp) limit)
      else none
  | .chatGroup _ =>
    let query := db.messages.filter fun m => m.target = target
    let page := fun rows : List Message =>
      limit.elim (orderBy Message.stamp rows) fun n =>
        ((orderBy (fun m => OrderDual.toDual m.stamp) rows).take n).reverse
    match before with
    | none => some (page query)
    | some id => (get db.messages id).bind fun anchor =>
      if anchor.target = target then some (page (query.filter fun m => m.stamp < anchor.stamp))
      else none

/-! ## What is on the list -/

variable {db : Db} {cocoonId : RowId} {start : Option RowId} {messages : List Message} {m : Message}

lemma trimToContextStart_suffix : trimToContextStart messages start <:+ messages := by
  unfold trimToContextStart
  split
  · exact List.dropWhile_suffix _
  · exact List.suffix_refl _

lemma mem_messagesOfCocoons {ids : List RowId} :
    m ∈ messagesOfCocoons db ids ↔ m ∈ db.messages ∧ ∃ id ∈ ids, m.target = .cocoon id := by
  rw [messagesOfCocoons, mem_orderBy, List.mem_filter]
  refine and_congr_right fun _ => ?_
  cases ht : m.target <;> simp [Target.cocoonId?]

lemma mem_ofCocoon :
    m ∈ ofCocoon messages cocoonId ↔ m ∈ messages ∧ m.target = .cocoon cocoonId := by
  simp [ofCocoon]

lemma stamp_injOn (hids : (db.messages.map key).Nodup) {a b : Message} (ha : a ∈ db.messages)
    (hb : b ∈ db.messages) (h : a.stamp = b.stamp) : a = b := by
  refine List.inj_on_of_nodup_map hids ha hb ?_
  have hid : (ofLex a.stamp).2 = (ofLex b.stamp).2 := by rw [h]
  exact hid

lemma pairwise_messagesOfCocoons (hids : (db.messages.map key).Nodup) (ids : List RowId) :
    (messagesOfCocoons db ids).Pairwise fun a b => a.stamp < b.stamp := by
  refine pairwise_lt_orderBy (List.Nodup.map_on ?_ ((List.Nodup.of_map _ hids).filter _))
  intro a ha b hb h
  exact stamp_injOn hids (List.mem_of_mem_filter ha) (List.mem_of_mem_filter hb) h

lemma ofCocoon_messagesOfCocoons {ids : List RowId} (hids : (db.messages.map key).Nodup)
    (hid : cocoonId ∈ ids) :
    ofCocoon (messagesOfCocoons db ids) cocoonId = messagesOfCocoons db [cocoonId] := by
  refine eq_of_pairwise_lt ((pairwise_messagesOfCocoons hids ids).filter _)
    (pairwise_messagesOfCocoons hids _) fun m => ?_
  have hleft : m ∈ ofCocoon (messagesOfCocoons db ids) cocoonId ↔ _ := mem_ofCocoon
  refine hleft.trans ?_
  rw [mem_messagesOfCocoons, mem_messagesOfCocoons]
  constructor
  · rintro ⟨⟨hm, -⟩, ht⟩
    exact ⟨hm, cocoonId, List.mem_singleton_self _, ht⟩
  · rintro ⟨hm, id, hmem, ht⟩
    obtain rfl := List.mem_singleton.mp hmem
    exact ⟨⟨hm, id, hid, ht⟩, ht⟩

/-- The messages one cocoon adds to the list. -/
def shownBy (db : Db) (cocoon : Cocoon) : List Message :=
  trimToContextStart (messagesOfCocoons db [cocoon.id]) cocoon.contextStartMessageId

lemma isStart_unique (hids : (db.messages.map key).Nodup) {a b : Message} (ha : a ∈ db.messages)
    (hb : b ∈ db.messages) (hstart : a.isStart start = true) (hstart' : b.isStart start = true) :
    a = b := by
  refine List.inj_on_of_nodup_map hids ha hb ?_
  obtain ⟨id, hid, h⟩ := (Option.any_eq_true _ _).mp hstart
  obtain ⟨id', hid', h'⟩ := (Option.any_eq_true _ _).mp hstart'
  rw [hid] at hid'
  cases hid'
  simp only [Bool.and_eq_true, decide_eq_true_eq] at h h'
  exact h.2.trans h'.2.symm

lemma mem_trimToContextStart (hids : (db.messages.map key).Nodup) {ids : List RowId} :
    m ∈ trimToContextStart (messagesOfCocoons db ids) start ↔ m ∈ messagesOfCocoons db ids ∧
      ∀ s ∈ messagesOfCocoons db ids, s.isStart start = true → s.stamp ≤ m.stamp := by
  unfold trimToContextStart
  by_cases hany : (messagesOfCocoons db ids).any (Message.isStart start) = true
  · obtain ⟨s, hs, hstart⟩ := List.any_eq_true.mp hany
    rw [if_pos hany, mem_dropWhile_not (pairwise_messagesOfCocoons hids ids)]
    refine and_congr_right fun _ => ⟨?_, fun h => ⟨s, hs, hstart, h s hs hstart⟩⟩
    rintro ⟨s', hs', hstart', hle⟩ t ht htstart
    rwa [isStart_unique hids (mem_messagesOfCocoons.mp ht).1 (mem_messagesOfCocoons.mp hs').1
      htstart hstart']
  · rw [if_neg hany]
    refine ⟨fun hm => ⟨hm, fun s hs hstart => ?_⟩, And.left⟩
    exact absurd (List.any_eq_true.mpr ⟨s, hs, hstart⟩) hany

lemma lineageMessages_eq (hids : (db.messages.map key).Nodup) :
    listCocoonLineageMessages db cocoonId = if (listCocoonLineage db cocoonId).isEmpty then
      messagesOfCocoons db [cocoonId]
      else (listCocoonLineage db cocoonId).flatMap (shownBy db) := by
  unfold listCocoonLineageMessages
  dsimp only
  by_cases hempty : (listCocoonLineage db cocoonId).isEmpty = true
  · rw [if_pos hempty, if_pos hempty]
  · rw [if_neg hempty, if_neg hempty]
    refine List.flatMap_congr fun cocoon hc => ?_
    rw [ofCocoon_messagesOfCocoons hids (List.mem_map_of_mem hc), shownBy]

end CocoonSit
