import CocoonSit.Lib.Paging
import CocoonSit.Messages.Listing

/-!
# Reading a conversation backwards

A client shows the newest page of a cocoon's messages and asks for older ones with
`before_message_id`, the oldest message it has.  The list goes cocoon by cocoon along the lineage,
but the cursor compares creation times: the two orders agree only as long as no ancestor has a
message from after the fork.
-/

namespace CocoonSit

open Table Paging

/-- Primary keys as `new_id` draws them. -/
structure MessageIds (db : Db) : Prop where
  unique : (db.messages.map key).Nodup
  nonempty : ∀ m ∈ db.messages, m.id ≠ ""

/-- A message the cocoon shows: one of its lineage's, not before the context start of its own
cocoon. -/
def Shown (db : Db) (cocoonId : RowId) (m : Message) : Prop :=
  m ∈ db.messages ∧
    if (listCocoonLineage db cocoonId).isEmpty then m.target = .cocoon cocoonId
    else ∃ c ∈ listCocoonLineage db cocoonId, m.target = .cocoon c.id ∧
      ∀ s ∈ db.messages, s.target = .cocoon c.id → s.isStart c.contextStartMessageId = true →
        s.stamp ≤ m.stamp

/-- The pages of `limit` messages a client walks through: each request is for what is before the
oldest message of the page returned last. -/
def walkBack (db : Db) (cocoonId : RowId) (limit fetches : ℕ) : Option (List Message) :=
  walk (fun before => listMessages db (.cocoon cocoonId) before (some limit))
    (oldest Message.stamp Message.id) fetches none

/-- Walking backwards shows every message once and comes to an end. -/
def EnumeratesOnce (db : Db) (cocoonId : RowId) (limit : ℕ) : Prop :=
  ∃ fetches ms, walkBack db cocoonId limit fetches = some ms ∧ ms.Nodup ∧
    ∀ m, m ∈ ms ↔ Shown db cocoonId m

/-- What an ancestor shows is older than what any of its descendants in the lineage shows. -/
def AncestorsFirst (db : Db) (cocoonId : RowId) : Prop :=
  (listCocoonLineage db cocoonId).Pairwise fun ancestor descendant =>
    ∀ a ∈ shownBy db ancestor, ∀ b ∈ shownBy db descendant, a.stamp < b.stamp

instance (db : Db) (cocoonId : RowId) : Decidable (AncestorsFirst db cocoonId) :=
  inferInstanceAs (Decidable (List.Pairwise _ _))

variable {db : Db} {cocoonId : RowId} {m : Message} {limit : ℕ}

lemma mem_shownBy (h : MessageIds db) {c : Cocoon} :
    m ∈ shownBy db c ↔ m ∈ db.messages ∧ m.target = .cocoon c.id ∧
      ∀ s ∈ db.messages, s.target = .cocoon c.id → s.isStart c.contextStartMessageId = true →
        s.stamp ≤ m.stamp := by
  rw [shownBy, mem_trimToContextStart h.unique, mem_messagesOfCocoons]
  simp only [List.mem_singleton, exists_eq_left, and_assoc]
  refine and_congr_right fun _ => and_congr_right fun _ => forall_congr' fun s => ?_
  rw [mem_messagesOfCocoons]
  simp only [List.mem_singleton, exists_eq_left, and_imp]

lemma mem_listCocoonLineageMessages (h : MessageIds db) :
    m ∈ listCocoonLineageMessages db cocoonId ↔ Shown db cocoonId m := by
  rw [lineageMessages_eq h.unique, Shown]
  by_cases hempty : (listCocoonLineage db cocoonId).isEmpty = true
  · rw [if_pos hempty, if_pos hempty, mem_messagesOfCocoons]
    simp
  · rw [if_neg hempty, if_neg hempty, List.mem_flatMap]
    constructor
    · rintro ⟨c, hc, hm⟩
      obtain ⟨hm, hrest⟩ := (mem_shownBy h).mp hm
      exact ⟨hm, c, hc, hrest⟩
    · rintro ⟨hm, c, hc, hrest⟩
      exact ⟨c, hc, (mem_shownBy h).mpr ⟨hm, hrest⟩⟩

lemma pairwise_listCocoonLineageMessages_iff (h : MessageIds db) :
    (listCocoonLineageMessages db cocoonId).Pairwise (fun a b => a.stamp < b.stamp) ↔
      AncestorsFirst db cocoonId := by
  rw [lineageMessages_eq h.unique, AncestorsFirst]
  by_cases hempty : (listCocoonLineage db cocoonId).isEmpty = true
  · rw [if_pos hempty, List.isEmpty_iff.mp hempty]
    exact iff_of_true (pairwise_messagesOfCocoons h.unique _) List.Pairwise.nil
  · rw [if_neg hempty, List.pairwise_flatMap]
    refine and_iff_right fun c _ => ?_
    exact (pairwise_messagesOfCocoons h.unique _).sublist trimToContextStart_suffix.sublist

lemma nodup_of_pairwise_stamp {l : List Message} (h : l.Pairwise fun a b => a.stamp < b.stamp) :
    l.Nodup := by
  refine h.imp fun hlt heq => ?_
  rw [heq] at hlt
  exact lt_irrefl _ hlt

lemma nodup_listCocoonLineageMessages (h : MessageIds db) :
    (listCocoonLineageMessages db cocoonId).Nodup := by
  rw [lineageMessages_eq h.unique]
  by_cases hempty : (listCocoonLineage db cocoonId).isEmpty = true
  · rw [if_pos hempty]
    exact nodup_of_pairwise_stamp (pairwise_messagesOfCocoons h.unique _)
  · rw [if_neg hempty, List.nodup_flatMap]
    constructor
    · intro c _
      exact nodup_of_pairwise_stamp ((pairwise_messagesOfCocoons h.unique [c.id]).sublist
        trimToContextStart_suffix.sublist)
    · -- a message has one target, and no cocoon is in the lineage twice
      have hids : (listCocoonLineage db cocoonId).Pairwise fun c c' => c.id ≠ c'.id :=
        List.pairwise_map.mp nodup_listCocoonLineageIds
      refine hids.imp fun hne m hm hm' => hne ?_
      have ht := ((mem_shownBy h).mp hm).2.1
      rw [((mem_shownBy h).mp hm').2.1] at ht
      injection ht with ht
      exact ht.symm

lemma pages_listMessages (h : MessageIds db) (hlimit : 0 < limit) :
    Pages Message.stamp (listCocoonLineageMessages db cocoonId) limit Message.id
      fun before => listMessages db (.cocoon cocoonId) before (some limit) where
  first := by
    simp only [listMessages, Option.filter_none, limited, Option.elim_some, sliceLast_of_pos hlimit]
  before := by
    intro r hr
    have hmem := ((mem_listCocoonLineageMessages h).mp hr).1
    have hget : get db.messages r.id = some r := get_of_mem h.unique hmem
    have hid : Option.filter (fun id : RowId => decide (id ≠ "")) (some r.id) = some r.id := by
      simp [h.nonempty r hmem]
    have htarget : r.target.cocoonId? ∈
        (listCocoonLineageMessages db cocoonId).map fun m => m.target.cocoonId? :=
      List.mem_map_of_mem hr
    simp only [listMessages, hid, hget, Option.bind_some, if_pos htarget, limited, Option.elim_some,
      sliceLast_of_pos hlimit, before]

lemma enumeratesOnce_iff_cleanCuts (h : MessageIds db) (hlimit : 0 < limit) :
    EnumeratesOnce db cocoonId limit ↔
      CleanCuts Message.stamp limit (listCocoonLineageMessages db cocoonId) := by
  rw [← walk_perm_iff hlimit (pages_listMessages h hlimit)]
  refine exists_congr fun fetches => exists_congr fun ms => and_congr_right fun _ => ?_
  constructor
  · rintro ⟨hnodup, hmem⟩
    rw [List.perm_ext_iff_of_nodup hnodup (nodup_listCocoonLineageMessages h)]
    exact fun m => (hmem m).trans (mem_listCocoonLineageMessages h).symm
  · intro hperm
    refine ⟨hperm.nodup_iff.mpr (nodup_listCocoonLineageMessages h), fun m => ?_⟩
    rw [hperm.mem_iff, mem_listCocoonLineageMessages h]

lemma ancestorsFirst_of_enumeratesOnce (h : MessageIds db)
    (hone : EnumeratesOnce db cocoonId 1) : AncestorsFirst db cocoonId :=
  (pairwise_listCocoonLineageMessages_iff h).mp
    (cleanCuts_one_iff.mp ((enumeratesOnce_iff_cleanCuts h Nat.one_pos).mp hone))

/-- Walking back in pages of one size shows every message once exactly when each page begins where
everything listed before is older; it does so in pages of every size exactly when ancestors come
first. -/
theorem enumeratesOnce_iff (h : MessageIds db) (cocoonId : RowId) :
    (∀ limit, 0 < limit → (EnumeratesOnce db cocoonId limit ↔
      CleanCuts Message.stamp limit (listCocoonLineageMessages db cocoonId))) ∧
    ((∀ limit, 0 < limit → EnumeratesOnce db cocoonId limit) ↔ AncestorsFirst db cocoonId) := by
  refine ⟨fun limit hlimit => enumeratesOnce_iff_cleanCuts h hlimit, ?_⟩
  constructor
  · exact fun hall => ancestorsFirst_of_enumeratesOnce h (hall 1 Nat.one_pos)
  · intro hfirst limit hlimit
    have hsorted := (pairwise_listCocoonLineageMessages_iff h).mpr hfirst
    exact (enumeratesOnce_iff_cleanCuts h hlimit).mpr (cleanCuts_of_pairwise hsorted limit)

/-- A cocoon with a fork. -/
def forked (messages : List Message) : Db where
  messages := messages
  cocoons :=
    [{ id := "root", ownerUserId := "u1", characterId := "ch1" },
      { id := "fork", parentId := some "root", ownerUserId := "u1", characterId := "ch1" }]

/-- A message of the user. -/
def sent (id : RowId) (target : Target) (createdAt : Timestamp) : Message :=
  { id := id, target := target, role := .user, content := id, createdAt := createdAt }

/-- The root goes quiet before it is forked. -/
def quietRoot : Db :=
  forked [sent "m1" (.cocoon "root") 1, sent "m2" (.cocoon "root") 2, sent "m3" (.cocoon "fork") 3]

theorem quietRoot_enumeratesOnce : AncestorsFirst quietRoot "fork" ∧
    ∀ limit, 0 < limit → EnumeratesOnce quietRoot "fork" limit := by
  have hfirst : AncestorsFirst quietRoot "fork" := by decide
  exact ⟨hfirst, (enumeratesOnce_iff ⟨by decide, by decide⟩ "fork").2.mpr hfirst⟩

/-- The root goes on after it has been forked. -/
def busyRoot : Db :=
  forked [sent "m1" (.cocoon "root") 1, sent "m2" (.cocoon "fork") 2, sent "m3" (.cocoon "root") 3]

/-- In pages of one message, the root's last message is not shown. -/
theorem busyRoot_not_enumeratesOnce : MessageIds busyRoot ∧ ¬ EnumeratesOnce busyRoot "fork" 1 := by
  have hids : MessageIds busyRoot := ⟨by decide, by decide⟩
  have hlate : ¬ AncestorsFirst busyRoot "fork" := by decide
  exact ⟨hids, fun h => hlate (ancestorsFirst_of_enumeratesOnce hids h)⟩

end CocoonSit
