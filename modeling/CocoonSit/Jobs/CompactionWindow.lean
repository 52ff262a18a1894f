import CocoonSit.Jobs.Compaction
import CocoonSit.Messages.Paging

/-!
# Automatic compactions

The scheduler looks at the window to say where a compaction ends, the job at the cocoon's own
history.  As long as the message named is the cocoon's own, the job finds it and compacts the whole
history from the context start up to it.  That is more than the window shows, when the limit cuts
the window or the active tags hide some of it.
-/

namespace CocoonSit

open Table

/-- The message is the cocoon's own. -/
def Own (db : Db) (cocoon : Cocoon) (m : Message) : Prop :=
  m ∈ db.messages ∧ m.target = .cocoon cocoon.id

/-- The message was not created before the cocoon's context start. -/
def FromStart (db : Db) (cocoon : Cocoon) (m : Message) : Prop :=
  ∀ s, Own db cocoon s → s.isStart cocoon.contextStartMessageId = true →
    s.createdAt ≤ m.createdAt

/-- The message is the context start, or was created after it. -/
def PastStart (db : Db) (cocoon : Cocoon) (m : Message) : Prop :=
  ∀ s, Own db cocoon s → s.isStart cocoon.contextStartMessageId = true →
    s = m ∨ s.createdAt < m.createdAt

/-- The part of the window ahead of a message. -/
def aheadOf (window : List Message) (messageId : RowId) : List Message :=
  window.takeWhile fun m => m.id ≠ messageId

/-- The scheduler and the job agree on what is compacted: the job finds the message, and selects
the own messages that the window has ahead of it, of which there are some. -/
def ViewsAgree (db : Db) (cocoon : Cocoon) (activeTags : List RowId) (messageId : RowId) : Prop :=
  (resolveMessageIndex (compactionHistory db cocoon.id) (some messageId)).isSome ∧
    (compactionSelection db cocoon (some messageId)).1 ≠ [] ∧
    ∀ m, m ∈ (compactionSelection db cocoon (some messageId)).1 ↔
      m ∈ aheadOf (cocoonWindow db cocoon activeTags) messageId ∧ m.target = .cocoon cocoon.id

variable {db : Db} {cocoon : Cocoon} {activeTags : List RowId} {m chosen : Message}

/-! ## The job -/

lemma resolveAnchorIndex_le (h : MessageIds db) {i : ℕ}
    (hi : (compactionHistory db cocoon.id)[i]? = some m) (hpast : PastStart db cocoon m) :
    resolveAnchorIndex (compactionHistory db cocoon.id) cocoon.contextStartMessageId ≤ i := by
  unfold resolveAnchorIndex
  cases hstart : resolveMessageIndex (compactionHistory db cocoon.id)
    cocoon.contextStartMessageId with
  | none => exact Nat.zero_le i
  | some j =>
    cases hid : cocoon.contextStartMessageId with
    | none => rw [hid] at hstart; cases hstart
    | some id =>
      rw [hid] at hstart
      obtain ⟨hne, s, hs, rfl⟩ := resolveMessageIndex_eq_some hstart
      have hown : Own db cocoon s := mem_compactionHistory.mp (List.mem_of_getElem? hs)
      have hisStart : s.isStart cocoon.contextStartMessageId = true := by
        simp [Message.isStart, hid, hne]
      rcases hpast s hown hisStart with rfl | hlt
      · have hi' := resolveMessageIndex_of_getElem? (nodup_compactionHistory h.unique _) hi hne
        rw [hstart] at hi'
        cases hi'
        exact le_rfl
      · exact (index_lt_of_createdAt_lt hs hi hlt).le

lemma fromStart_of_index_le (h : MessageIds db) {i : ℕ}
    (hi : (compactionHistory db cocoon.id)[i]? = some m)
    (hle : resolveAnchorIndex (compactionHistory db cocoon.id) cocoon.contextStartMessageId ≤ i) :
    FromStart db cocoon m := by
  intro s hs hstart
  obtain ⟨id, hid, hsid⟩ := (Option.any_eq_true _ _).mp hstart
  obtain ⟨j, hj⟩ := List.mem_iff_getElem?.mp (mem_compactionHistory.mpr hs)
  obtain ⟨hne, rfl⟩ : id ≠ "" ∧ s.id = id := by simpa using hsid
  rw [hid, resolveAnchorIndex,
    resolveMessageIndex_of_getElem? (nodup_compactionHistory h.unique _) hj hne] at hle
  by_contra hlt
  have hij := index_lt_of_createdAt_lt hi hj (not_le.mp hlt)
  have hji : j ≤ i := hle
  omega

lemma compactionSelection_spec (h : MessageIds db) (hchosen : Own db cocoon chosen) :
    (resolveMessageIndex (compactionHistory db cocoon.id) (some chosen.id)).isSome ∧
    (∀ m ∈ (compactionSelection db cocoon (some chosen.id)).1, Own db cocoon m ∧ m ≠ chosen ∧
      FromStart db cocoon m ∧ m.createdAt ≤ chosen.createdAt) ∧
    (∀ m, Own db cocoon m → PastStart db cocoon m → m.createdAt < chosen.createdAt →
      m ∈ (compactionSelection db cocoon (some chosen.id)).1) := by
  have hids := nodup_compactionHistory h.unique cocoon.id
  have hne := h.nonempty chosen hchosen.1
  obtain ⟨e, he⟩ := List.mem_iff_getElem?.mp (mem_compactionHistory.mpr hchosen)
  have hend := resolveMessageIndex_of_getElem? hids he hne
  have hfilter : (Option.filter (fun id : RowId => decide (id ≠ "")) (some chosen.id)).isSome := by
    simp [hne]
  refine ⟨by simp [hend], ?_, ?_⟩
  · intro m hm
    unfold compactionSelection selectMessagesForCompaction at hm
    dsimp only at hm
    rw [if_pos hfilter, hend] at hm
    by_cases hlen : (compactionHistory db cocoon.id).length < 2
    · simp [hlen] at hm
    · rw [if_neg hlen] at hm
      dsimp only at hm
      by_cases hle : e ≤ resolveAnchorIndex (compactionHistory db cocoon.id)
        cocoon.contextStartMessageId
      · simp [hle] at hm
      · rw [if_neg hle] at hm
        obtain ⟨k, hsk, hke, hk⟩ := mem_drop_take.mp hm
        refine ⟨mem_compactionHistory.mp (List.mem_of_getElem? hk), ?_,
          fromStart_of_index_le h hk hsk, ?_⟩
        · rintro rfl
          have hk' := resolveMessageIndex_of_getElem? hids hk hne
          rw [hend] at hk'
          cases hk'
          exact lt_irrefl _ hke
        · by_contra hlt
          have := index_lt_of_createdAt_lt he hk (not_le.mp hlt)
          omega
  · intro m hm hpast hlt
    obtain ⟨k, hk⟩ := List.mem_iff_getElem?.mp (mem_compactionHistory.mpr hm)
    have hke := index_lt_of_createdAt_lt hk he hlt
    have hsk := resolveAnchorIndex_le h hk hpast
    have helt := (List.getElem?_eq_some_iff.mp he).1
    unfold compactionSelection selectMessagesForCompaction
    dsimp only
    rw [if_neg (by omega), if_pos hfilter, hend]
    dsimp only
    rw [if_neg (by omega)]
    exact mem_drop_take.mpr ⟨k, hsk, hke, hk⟩

/-! ## The window -/

lemma mem_trim_of_mem_lineageMessages (h : MessageIds db)
    (hget : get db.cocoons cocoon.id = some cocoon)
    (hm : m ∈ lineageMessages db cocoon.id cocoon.contextStartMessageId)
    (hown : m.target = .cocoon cocoon.id) :
    m ∈ trimToContextStart (messagesOfCocoons db [cocoon.id]) cocoon.contextStartMessageId := by
  unfold lineageMessages at hm
  dsimp only at hm
  by_cases hempty : (listCocoonLineage db cocoon.id).isEmpty = true
  · rwa [if_pos hempty] at hm
  · rw [if_neg hempty] at hm
    obtain ⟨c, hc, hm⟩ := List.mem_flatMap.mp hm
    have htarget := (mem_ofCocoon.mp (trimToContextStart_suffix.subset hm)).2
    have hid : c.id = cocoon.id := by
      rw [hown] at htarget
      injection htarget with hid
      exact hid.symm
    have hsame : c = cocoon := by
      have hgetc := get_of_mem_listCocoonLineage hc
      rw [hid, hget] at hgetc
      injection hgetc with hgetc
      exact hgetc.symm
    subst hsame
    rw [ofCocoon_messagesOfCocoons h.unique (List.mem_map_of_mem hc)] at hm
    simpa using hm

lemma mem_of_mem_lineageMessages {cocoonId : RowId} {start : Option RowId}
    (hm : m ∈ lineageMessages db cocoonId start) : m ∈ db.messages := by
  unfold lineageMessages at hm
  dsimp only at hm
  split at hm
  · exact (mem_messagesOfCocoons.mp (trimToContextStart_suffix.subset hm)).1
  · obtain ⟨c, -, hm⟩ := List.mem_flatMap.mp hm
    have hall := (mem_ofCocoon.mp (trimToContextStart_suffix.subset hm)).1
    exact (mem_messagesOfCocoons.mp hall).1

lemma pairwise_own_lineageMessages (h : MessageIds db) :
    (lineageMessages db cocoon.id cocoon.contextStartMessageId).Pairwise fun a b =>
      a.target = .cocoon cocoon.id → b.target = .cocoon cocoon.id → a.stamp < b.stamp := by
  unfold lineageMessages
  dsimp only
  by_cases hempty : (listCocoonLineage db cocoon.id).isEmpty = true
  · rw [if_pos hempty]
    exact ((pairwise_messagesOfCocoons h.unique _).sublist trimToContextStart_suffix.sublist).imp
      fun hlt _ _ => hlt
  · rw [if_neg hempty, List.pairwise_flatMap]
    refine ⟨fun c _ => ?_, ?_⟩
    · have hsorted := (pairwise_messagesOfCocoons h.unique
        ((listCocoonLineage db cocoon.id).map Cocoon.id)).filter fun m => m.target = .cocoon c.id
      exact (hsorted.sublist trimToContextStart_suffix.sublist).imp fun hlt _ _ => hlt
    · -- only one cocoon of the lineage has own messages
      have hids : (listCocoonLineage db cocoon.id).Pairwise fun c c' => c.id ≠ c'.id :=
        List.pairwise_map.mp nodup_listCocoonLineageIds
      refine hids.imp fun hne a ha b hb hat hbt => absurd ?_ hne
      have hac := (mem_ofCocoon.mp (trimToContextStart_suffix.subset ha)).2
      have hbc := (mem_ofCocoon.mp (trimToContextStart_suffix.subset hb)).2
      rw [hat] at hac
      rw [hbt, hac] at hbc
      injection hbc

lemma cocoonWindow_sublist : (cocoonWindow db cocoon activeTags).Sublist
    (lineageMessages db cocoon.id cocoon.contextStartMessageId) := by
  have hslice : (sliceLast (lineageMessages db cocoon.id cocoon.contextStartMessageId)
      cocoon.maxContextMessages).Sublist _ := (sliceLast_suffix _ _).sublist
  unfold cocoonWindow listVisibleMessages filterByTags
  dsimp only
  split
  · exact hslice
  · split
    · exact hslice
    · exact List.filter_sublist.trans hslice

lemma own_of_mem_cocoonWindow (h : MessageIds db) (hget : get db.cocoons cocoon.id = some cocoon)
    (hm : m ∈ cocoonWindow db cocoon activeTags) (hown : m.target = .cocoon cocoon.id) :
    Own db cocoon m ∧ FromStart db cocoon m := by
  have htrim := mem_trim_of_mem_lineageMessages h hget (cocoonWindow_sublist.subset hm) hown
  obtain ⟨hmem, hstart⟩ := (mem_trimToContextStart h.unique).mp htrim
  refine ⟨⟨(mem_messagesOfCocoons.mp hmem).1, hown⟩, fun s hs hisStart => ?_⟩
  have hsmem : s ∈ messagesOfCocoons db [cocoon.id] :=
    mem_messagesOfCocoons.mpr ⟨hs.1, cocoon.id, List.mem_singleton_self _, hs.2⟩
  exact Prod.Lex.monotone_fst _ _ (hstart s hsmem hisStart)

lemma createdAt_le_of_mem_aheadOf (h : MessageIds db)
    (hchosen : chosen ∈ cocoonWindow db cocoon activeTags)
    (hown : chosen.target = .cocoon cocoon.id)
    (hm : m ∈ aheadOf (cocoonWindow db cocoon activeTags) chosen.id)
    (hmown : m.target = .cocoon cocoon.id) : m.createdAt ≤ chosen.createdAt := by
  have hsplit : aheadOf (cocoonWindow db cocoon activeTags) chosen.id ++
      (cocoonWindow db cocoon activeTags).dropWhile (fun m => m.id ≠ chosen.id) =
      cocoonWindow db cocoon activeTags := List.takeWhile_append_dropWhile
  have hsub : (cocoonWindow db cocoon activeTags).Sublist _ := cocoonWindow_sublist
  have hsorted := (pairwise_own_lineageMessages h).sublist hsub
  rw [← hsplit] at hsorted hchosen
  have hdrop := (List.mem_append.mp hchosen).resolve_left fun hin => by
    simpa using List.mem_takeWhile_imp hin
  have hlt := (List.pairwise_append.mp hsorted).2.2 m hm chosen hdrop hmown hown
  exact Prod.Lex.monotone_fst _ _ hlt.le

lemma mem_of_scheduledRetainFrom {window : List Message} {id : RowId}
    (h : scheduledRetainFrom cocoon window = some id) : ∃ m ∈ window, m.id = id := by
  unfold scheduledRetainFrom at h
  obtain ⟨-, h⟩ := Option.ite_none_right_eq_some.mp h
  have hid := (Option.filter_eq_some_iff.mp h).1
  unfold resolveCompactionRetainFromMessageId at hid
  dsimp only at hid
  obtain ⟨-, hid⟩ := Option.ite_none_left_eq_some.mp hid
  obtain ⟨-, hid⟩ := Option.ite_none_left_eq_some.mp hid
  obtain ⟨m, hm, rfl⟩ := Option.map_eq_some_iff.mp hid
  exact ⟨m, List.mem_of_getElem? hm, rfl⟩

/-! ## Scheduled compactions -/

/-- A compaction scheduled up to one of the cocoon's own messages: the job finds the message and
selects what the cocoon's history has from the context start up to it, in the order of creation.
That is in particular every such message that the window has ahead of it. -/
theorem scheduledCompaction_selects (h : MessageIds db)
    (hget : get db.cocoons cocoon.id = some cocoon)
    (hsched : scheduledRetainFrom cocoon (cocoonWindow db cocoon activeTags) = some chosen.id)
    (hown : Own db cocoon chosen) :
    (resolveMessageIndex (compactionHistory db cocoon.id) (some chosen.id)).isSome ∧
    (∀ m ∈ (compactionSelection db cocoon (some chosen.id)).1, Own db cocoon m ∧ m ≠ chosen ∧
      FromStart db cocoon m ∧ m.createdAt ≤ chosen.createdAt) ∧
    (∀ m, Own db cocoon m → PastStart db cocoon m → m.createdAt < chosen.createdAt →
      m ∈ (compactionSelection db cocoon (some chosen.id)).1) ∧
    (∀ m ∈ aheadOf (cocoonWindow db cocoon activeTags) chosen.id,
      m.target = .cocoon cocoon.id → PastStart db cocoon m → m.createdAt ≠ chosen.createdAt →
        m ∈ (compactionSelection db cocoon (some chosen.id)).1) := by
  obtain ⟨hfound, hsound, hcomplete⟩ := compactionSelection_spec h hown
  have hchosen : chosen ∈ cocoonWindow db cocoon activeTags := by
    obtain ⟨m, hm, hid⟩ := mem_of_scheduledRetainFrom hsched
    have hmem : m ∈ db.messages := by
      have hlist := cocoonWindow_sublist.subset hm
      exact mem_of_mem_lineageMessages hlist
    rwa [List.inj_on_of_nodup_map h.unique hmem hown.1 hid] at hm
  refine ⟨hfound, hsound, hcomplete, fun m hm hmown hpast hne => ?_⟩
  have hmwindow := (List.takeWhile_sublist _).subset hm
  have hle := createdAt_le_of_mem_aheadOf h hchosen hown.2 hm hmown
  exact hcomplete m (own_of_mem_cocoonWindow h hget hmwindow hmown).1 hpast (lt_of_le_of_ne hle hne)

/-- A cocoon with a window of five messages, and a history of seven. -/
def sevenMessages : Db where
  messages :=
    [sent "m1" (.cocoon "c1") 1, sent "m2" (.cocoon "c1") 2, sent "m3" (.cocoon "c1") 3,
      sent "m4" (.cocoon "c1") 4, sent "m5" (.cocoon "c1") 5, sent "m6" (.cocoon "c1") 6,
      sent "m7" (.cocoon "c1") 7]
  cocoons := [{ id := "c1", ownerUserId := "u1", characterId := "ch1", maxContextMessages := 5 }]

def fiveMessageCocoon : Cocoon :=
  { id := "c1", ownerUserId := "u1", characterId := "ch1", maxContextMessages := 5 }

/-- All but the last message are compacted. -/
theorem sevenMessages_selects :
    scheduledRetainFrom fiveMessageCocoon (cocoonWindow sevenMessages fiveMessageCocoon []) =
        some "m7" ∧
      ∀ m, Own sevenMessages fiveMessageCocoon m → m.createdAt < 7 →
        m ∈ (compactionSelection sevenMessages fiveMessageCocoon (some "m7")).1 := by
  have hlast : Own sevenMessages fiveMessageCocoon (sent "m7" (.cocoon "c1") 7) :=
    ⟨by simp [sevenMessages], rfl⟩
  have hsched : scheduledRetainFrom fiveMessageCocoon
      (cocoonWindow sevenMessages fiveMessageCocoon []) = some "m7" := by decide
  have hselects := scheduledCompaction_selects ⟨by decide, by decide⟩ rfl hsched hlast
  refine ⟨hsched, fun m hm hlt => hselects.2.2.1 m hm ?_ hlt⟩
  intro s _ hstart
  cases hstart

/-- A fork with a window of ten messages, nine of them inherited. -/
def nineInherited : Db where
  messages :=
    [sent "m1" (.cocoon "root") 1, sent "m2" (.cocoon "root") 2, sent "m3" (.cocoon "root") 3,
      sent "m4" (.cocoon "root") 4, sent "m5" (.cocoon "root") 5, sent "m6" (.cocoon "root") 6,
      sent "m7" (.cocoon "root") 7, sent "m8" (.cocoon "root") 8, sent "m9" (.cocoon "root") 9,
      sent "m10" (.cocoon "fork") 10]
  cocoons :=
    [{ id := "root", ownerUserId := "u1", characterId := "ch1" },
      { id := "fork", parentId := some "root", ownerUserId := "u1", characterId := "ch1"
        maxContextMessages := 10 }]

def tenMessageFork : Cocoon :=
  { id := "fork", parentId := some "root", ownerUserId := "u1", characterId := "ch1"
    maxContextMessages := 10 }

/-- The window of the cocoon with seven messages has two of them cut off that the job compacts, and
the window of the fork is to be compacted up to an inherited message, which the job does not
find. -/
theorem views_disagree :
    (scheduledRetainFrom fiveMessageCocoon (cocoonWindow sevenMessages fiveMessageCocoon []) =
      some "m7" ∧ ¬ ViewsAgree sevenMessages fiveMessageCocoon [] "m7") ∧
    (scheduledRetainFrom tenMessageFork (cocoonWindow nineInherited tenMessageFork []) =
      some "m9" ∧ ¬ ViewsAgree nineInherited tenMessageFork [] "m9") := by
  refine ⟨⟨by decide, fun h => ?_⟩, by decide, fun h => ?_⟩
  · have hselected : ∃ m ∈ (compactionSelection sevenMessages fiveMessageCocoon (some "m7")).1,
        m.id = "m1" := by decide
    have hwindow : ∀ m ∈ aheadOf (cocoonWindow sevenMessages fiveMessageCocoon []) "m7",
        m.id ≠ "m1" := by decide
    obtain ⟨m, hm, hid⟩ := hselected
    exact hwindow m ((h.2.2 m).mp hm).1 hid
  · have hmissing : (resolveMessageIndex (compactionHistory nineInherited tenMessageFork.id)
        (some "m9")).isSome = false := by decide
    rw [h.1] at hmissing
    cases hmissing

end CocoonSit
