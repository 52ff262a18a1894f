import CocoonSit.Model.Entities

/-!
# Lineages

A cocoon that was forked off another one has it as its parent.  The lineage of a cocoon is the way
up to the root, as far as the guard against long or cyclic chains lets the walk go.
-/

namespace CocoonSit

open Table

/-- The loop of `list_cocoon_lineage`: at most `guard` cocoons, none of them twice. -/
def lineageFrom (cocoons : List Cocoon) : ℕ → List RowId → Option RowId → List Cocoon
  | 0, _, _ => []
  | _, _, none => []
  | guard + 1, seenIds, some currentId =>
    if currentId = "" ∨ currentId ∈ seenIds then []
    else match get cocoons currentId with
      | none => []
      | some cocoon => cocoon :: lineageFrom cocoons guard (cocoon.id :: seenIds) cocoon.parentId

/-- `list_cocoon_lineage`, from the root on. -/
def listCocoonLineage (db : Db) (cocoonId : RowId) : List Cocoon :=
  (lineageFrom db.cocoons 128 [] (some cocoonId)).reverse

def listCocoonLineageIds (db : Db) (cocoonId : RowId) : List RowId :=
  (listCocoonLineage db cocoonId).map Cocoon.id

variable {cocoons : List Cocoon} {db : Db} {cocoonId : RowId}

lemma lineageFrom_spec (guard : ℕ) (seenIds : List RowId) (currentId : Option RowId) :
    ((lineageFrom cocoons guard seenIds currentId).map Cocoon.id).Nodup ∧
      ∀ c ∈ lineageFrom cocoons guard seenIds currentId,
        c.id ∉ seenIds ∧ get cocoons c.id = some c := by
  induction guard generalizing seenIds currentId with
  | zero => simp [lineageFrom]
  | succ guard ih =>
    cases currentId with
    | none => simp [lineageFrom]
    | some currentId =>
      unfold lineageFrom
      by_cases hstop : currentId = "" ∨ currentId ∈ seenIds
      · simp [hstop]
      · rw [if_neg hstop]
        cases hget : get cocoons currentId with
        | none => simp
        | some cocoon =>
          obtain ⟨hnodup, hmem⟩ := ih (cocoon.id :: seenIds) cocoon.parentId
          have hid : cocoon.id = currentId := key_of_get hget
          refine ⟨?_, ?_⟩
          · rw [List.map_cons, List.nodup_cons]
            refine ⟨fun hin => ?_, hnodup⟩
            obtain ⟨c, hc, hcid⟩ := List.mem_map.mp hin
            exact (hmem c hc).1 (hcid ▸ List.mem_cons_self)
          · intro c hc
            rcases List.mem_cons.mp hc with rfl | hc
            · rw [hid]
              exact ⟨fun hin => hstop (.inr hin), hget⟩
            · exact ⟨fun hin => (hmem c hc).1 (List.mem_cons_of_mem _ hin), (hmem c hc).2⟩

lemma nodup_listCocoonLineageIds : (listCocoonLineageIds db cocoonId).Nodup := by
  rw [listCocoonLineageIds, listCocoonLineage, List.map_reverse, List.nodup_reverse]
  exact (lineageFrom_spec _ _ _).1

lemma get_of_mem_listCocoonLineage {c : Cocoon} (hc : c ∈ listCocoonLineage db cocoonId) :
    get db.cocoons c.id = some c :=
  ((lineageFrom_spec _ _ _).2 c (List.mem_reverse.mp hc)).2

lemma listCocoonLineage_of_get {cocoon : Cocoon} (hget : get db.cocoons cocoonId = some cocoon)
    (hne : cocoonId ≠ "") : ∃ ancestors, listCocoonLineage db cocoonId = ancestors ++ [cocoon] := by
  have hstop : ¬ (cocoonId = "" ∨ cocoonId ∈ ([] : List RowId)) := by simp [hne]
  rw [listCocoonLineage, lineageFrom, if_neg hstop, hget]
  exact ⟨_, List.reverse_cons⟩

end CocoonSit
