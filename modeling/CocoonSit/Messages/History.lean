import CocoonSit.Messages.Window

/-!
# The history of a cocoon

`MessageService` and `MessageWindowService` each walk the lineage of a cocoon: the first for what
its users are shown, the second for what the model is given.  The second walk takes the context
start of the cocoon from its caller, who has it from the cocoon's row.

The window is cut from the end of the list, and filtered by tags after it is cut; where the filter
leaves nothing, the window is left as it is.
-/

namespace CocoonSit

open Table

variable {db : Db} {cocoonId : RowId} {start : Option RowId} {activeTags : List RowId}

/-! ## Two walks along a lineage -/

/-- The context start is that of the cocoon's row, if the caller has one. -/
def OwnStart (db : Db) (cocoonId : RowId) (start : Option RowId) : Prop :=
  ∀ id ∈ start, ∃ cocoon, get db.cocoons cocoonId = some cocoon ∧
    cocoon.contextStartMessageId = some id

lemma lineageMessages_of_ownStart (hne : cocoonId ≠ "") (hstart : OwnStart db cocoonId start) :
    lineageMessages db cocoonId start = listCocoonLineageMessages db cocoonId := by
  unfold lineageMessages listCocoonLineageMessages
  dsimp only
  by_cases hempty : (listCocoonLineage db cocoonId).isEmpty = true
  · rw [if_pos hempty, if_pos hempty]
    cases start with
    | none => simp [trimToContextStart, Message.isStart]
    | some id =>
      -- a cocoon with a row is in its own lineage
      obtain ⟨cocoon, hget, -⟩ := hstart id rfl
      obtain ⟨ancestors, hlineage⟩ := listCocoonLineage_of_get hget hne
      rw [hlineage] at hempty
      simp at hempty
  · rw [if_neg hempty, if_neg hempty]
    refine List.flatMap_congr fun cocoon hc => ?_
    congr 1
    split
    · next hown =>
      obtain ⟨id, hid⟩ := Option.isSome_iff_exists.mp hown.2
      obtain ⟨cocoon', hget, hcontext⟩ := hstart id hid
      have hself := get_of_mem_listCocoonLineage hc
      rw [hown.1, hget] at hself
      rw [hid, ← hcontext, Option.some.inj hself]
    · rfl

/-- What the model is given of an untagged conversation is the end of what its users are shown. -/
theorem window_eq_end_of_history (hne : cocoonId ≠ "") (hstart : OwnStart db cocoonId start)
    {n : ℕ} (hn : 0 < n) {limit : Option ℕ}
    (hlimit : ∀ l ∈ limit, (listCocoonLineageMessages db cocoonId).length ≤ l) :
    (listMessages db (.cocoon cocoonId) none limit).map (fun messages => messages.rtake n) =
      some (listVisibleMessages db n [] (.cocoon cocoonId) start) := by
  have hpage : limited (listCocoonLineageMessages db cocoonId) limit =
      listCocoonLineageMessages db cocoonId := by
    cases limit with
    | none => rfl
    | some l =>
      have hl := hlimit l rfl
      rw [limited, Option.elim_some, sliceLast]
      split
      · rw [Int.toNat_natCast, List.rtake, Nat.sub_eq_zero_of_le hl, List.drop_zero]
      · next hzero =>
        have hzero' : (-(l : ℤ)).toNat = 0 := by omega
        rw [hzero', List.drop_zero]
  rw [listMessages, Option.filter_none]
  dsimp only
  rw [hpage, Option.map_some, listVisibleMessages, lineageMessages_of_ownStart hne hstart,
    sliceLast_of_pos hn]
  rfl

/-- A cocoon with messages from before and after its context start, and a fork whose context start
is gone. -/
def forkedHistory : Db where
  cocoons := [
    { id := "root", name := "root", characterId := "ch", selectedModelId := "mod",
      ownerUserId := "u", contextStartMessageId := some "m2" },
    { id := "fork", name := "fork", characterId := "ch", selectedModelId := "mod",
      ownerUserId := "u", parentId := some "root", contextStartMessageId := some "gone" }]
  messages := [
    { id := "m1", target := .cocoon "root", role := .user, content := "first", createdAt := 1 },
    { id := "m2", target := .cocoon "root", role := .user, content := "second", createdAt := 2 },
    { id := "m3", target := .cocoon "fork", role := .user, content := "third", createdAt := 3,
      tagsJson := ["other"] },
    { id := "m4", target := .cocoon "root", role := .user, content := "fourth", createdAt := 4 }]

theorem forkedHistory_window :
    (listMessages forkedHistory (.cocoon "fork") none (some 50)).map
        (fun messages => messages.rtake 2) =
      some (listVisibleMessages forkedHistory (2 : ℕ) [] (.cocoon "fork") (some "gone")) := by
  have hstart : OwnStart forkedHistory "fork" (some "gone") := by
    rintro id ⟨⟩
    exact ⟨_, rfl, rfl⟩
  have hlimit : (listCocoonLineageMessages forkedHistory "fork").length ≤ 50 := by decide
  exact window_eq_end_of_history (by decide) hstart (by decide) (by rintro l ⟨⟩; exact hlimit)

/-! ## The window -/

/-- The tag filter lets the message through. -/
def Admitted (db : Db) (activeTags : List RowId) (m : Message) : Prop :=
  activeTags = [] ∨ keptByTags db activeTags m = true

/-- What would be asked of a window of `n` messages of a list: the newest of the list is in it, and
no message of another tag. -/
structure TagWindow (db : Db) (activeTags : List RowId) (n : ℤ) (messages window : List Message) :
    Prop where
  length_le : (window.length : ℤ) ≤ n
  sublist : window.Sublist messages
  newest : ∀ m ∈ messages, (∀ m' ∈ messages, m'.createdAt ≤ m.createdAt) →
    Admitted db activeTags m → m ∈ window
  admitted : ∀ m ∈ window, Admitted db activeTags m

/-- What a window is: with the list's last message, whenever that was made, and unfiltered where the
filter leaves nothing. -/
structure RecentWindow (db : Db) (activeTags : List RowId) (n : ℤ)
    (messages window : List Message) : Prop where
  length_le : (window.length : ℤ) ≤ n
  sublist : window.Sublist messages
  last : ∀ m ∈ messages.getLast?, Admitted db activeTags m → m ∈ window
  admitted : (∀ m ∈ window, Admitted db activeTags m) ∨
    window = messages.rtake n.toNat ∧ ∀ m ∈ window, ¬ Admitted db activeTags m

instance (m : Message) : Decidable (Admitted db activeTags m) := inferInstanceAs (Decidable (_ ∨ _))

lemma filterByTags_cases (db : Db) (activeTags : List RowId) (visible : List Message) :
    (∀ m, m ∈ filterByTags db activeTags visible ↔ m ∈ visible ∧ Admitted db activeTags m) ∨
      filterByTags db activeTags visible = visible ∧ ∀ m ∈ visible, ¬ Admitted db activeTags m := by
  unfold filterByTags Admitted
  split
  · next hnone =>
    rw [List.isEmpty_iff] at hnone
    exact .inl fun m => by simp [hnone]
  · next hactive =>
    rw [List.isEmpty_iff] at hactive
    dsimp only
    split
    · next hempty =>
      refine .inr ⟨rfl, fun m hm hadmitted => ?_⟩
      rw [List.isEmpty_iff, List.filter_eq_nil_iff] at hempty
      exact hempty m hm (hadmitted.resolve_left hactive)
    · refine .inl fun m => ?_
      rw [List.mem_filter, or_iff_right hactive]

lemma filterByTags_sublist (db : Db) (activeTags : List RowId) (visible : List Message) :
    (filterByTags db activeTags visible).Sublist visible := by
  unfold filterByTags
  dsimp only
  split
  · exact List.Sublist.refl _
  · split
    · exact List.Sublist.refl _
    · exact List.filter_sublist

/-- The window of at least one message, of any cocoon and any context start. -/
theorem listVisibleMessages_recentWindow (db : Db) (cocoonId : RowId) (start : Option RowId)
    (activeTags : List RowId) {maxContextMessages : ℤ} (hmax : 1 ≤ maxContextMessages) :
    RecentWindow db activeTags maxContextMessages (lineageMessages db cocoonId start)
      (listVisibleMessages db maxContextMessages activeTags (.cocoon cocoonId) start) := by
  have hslice : sliceLast (lineageMessages db cocoonId start) maxContextMessages =
      (lineageMessages db cocoonId start).rtake maxContextMessages.toNat := by
    rw [sliceLast, if_pos (by omega)]
  rw [listVisibleMessages, hslice]
  generalize lineageMessages db cocoonId start = messages
  have hsub := filterByTags_sublist db activeTags (messages.rtake maxContextMessages.toNat)
  have hcases := filterByTags_cases db activeTags (messages.rtake maxContextMessages.toNat)
  constructor
  · have hlength := hsub.length_le
    have hrtake : (messages.rtake maxContextMessages.toNat).length ≤ maxContextMessages.toNat := by
      rw [List.rtake, List.length_drop]
      omega
    omega
  · exact hsub.trans (List.drop_sublist _ _)
  · intro m hm hadmitted
    have hmem : m ∈ messages.rtake maxContextMessages.toNat := by
      have hpos : 0 < messages.length := List.length_pos_of_mem (List.mem_of_getLast? hm)
      refine List.mem_of_getLast? ?_
      rw [List.rtake, List.getLast?_drop, if_neg (by omega)]
      exact hm
    rcases hcases with h | ⟨h, -⟩
    · exact (h m).mpr ⟨hmem, hadmitted⟩
    · rwa [h]
  · rcases hcases with h | ⟨h, hnone⟩
    · exact .inl fun m hm => ((h m).mp hm).2
    · refine .inr ⟨h, ?_⟩
      rwa [h]

theorem oneMessage_recentWindow :
    RecentWindow forkedHistory ["t"] 1 (lineageMessages forkedHistory "fork" none)
      (listVisibleMessages forkedHistory 1 ["t"] (.cocoon "fork") none) :=
  listVisibleMessages_recentWindow forkedHistory "fork" none ["t"] (by decide)

/-- With an active tag the fork's last message, of another tag, is all of the window; without one
the window is the same, although the root has a newer message. -/
theorem last_of_fork_in_window :
    ¬ TagWindow forkedHistory ["t"] 1 (lineageMessages forkedHistory "fork" none)
        (listVisibleMessages forkedHistory 1 ["t"] (.cocoon "fork") none) ∧
      ¬ TagWindow forkedHistory [] 1 (lineageMessages forkedHistory "fork" none)
        (listVisibleMessages forkedHistory 1 [] (.cocoon "fork") none) := by
  refine ⟨fun h => absurd h.admitted (by decide), fun h => ?_⟩
  have hnewest : ∃ m ∈ lineageMessages forkedHistory "fork" none, m.id = "m4" ∧
      ∀ m' ∈ lineageMessages forkedHistory "fork" none, m'.createdAt ≤ m.createdAt := by decide
  obtain ⟨m, hm, hid, hle⟩ := hnewest
  have hids : (listVisibleMessages forkedHistory 1 [] (.cocoon "fork") none).map Message.id =
      ["m3"] := by decide
  have hmem :
      m.id ∈ (listVisibleMessages forkedHistory 1 [] (.cocoon "fork") none).map Message.id :=
    List.mem_map_of_mem (h.newest m hm hle (.inl rfl))
  rw [hids, hid] at hmem
  exact absurd hmem (by decide)

end CocoonSit
