import CocoonSit.Lib.Ancestry
import CocoonSit.Lib.Traverse
import CocoonSit.Security.Authorization

/-!
# The tree of cocoons

The tree endpoint nests the cocoons of one user below their parents, from the ones without a parent
on.  A cocoon may be forked off somebody else's; its parent is then no node of the tree, and the
walk down from the roots comes neither to it nor to anything below it.
-/

namespace CocoonSit

open Table Ancestry Traverse

/-! ## The walk -/

inductive CocoonTreeNode where
  | node (id : RowId) (name : String) (parentId : Option RowId) (children : List CocoonTreeNode)

/-- `CocoonTreeService.build_tree`; `none` where the recursion is deeper than `fuel`. -/
def buildTree : ℕ → List Cocoon → Option RowId → Option (List CocoonTreeNode)
  | 0, _, _ => none
  | fuel + 1, nodes, parentId =>
    (nodes.filter fun item => item.parentId = parentId).mapM fun cocoon =>
      (buildTree fuel nodes (some cocoon.id)).map fun children =>
        .node cocoon.id cocoon.name cocoon.parentId children

def cocoonTree (settings : Settings) (accounts : Accounts) (fuel : ℕ) (cocoons : List Cocoon)
    (user : User) : Option (List CocoonTreeNode) :=
  buildTree fuel (filterVisibleCocoons settings accounts user cocoons false "own") none

/-- The user's own cocoons. -/
def ownCocoons (cocoons : List Cocoon) (user : User) : List Cocoon :=
  cocoons.filter fun item => item.ownerUserId = user.id

lemma cocoonTree_eq (settings : Settings) (accounts : Accounts) (fuel : ℕ) (cocoons : List Cocoon)
    (user : User) :
    cocoonTree settings accounts fuel cocoons user =
      buildTree fuel (ownCocoons cocoons user) none := by
  rw [cocoonTree, filterVisibleCocoons, if_pos rfl, ownCocoons]

/-! ## What the tree should be -/

mutual

/-- The nodes of a tree, each with the one it is directly below. -/
def CocoonTreeNode.placements (above : Option RowId) : CocoonTreeNode → List (RowId × Option RowId)
  | .node id _ _ children => (id, above) :: placements (some id) children

def placements (above : Option RowId) : List CocoonTreeNode → List (RowId × Option RowId)
  | [] => []
  | tree :: trees => tree.placements above ++ placements above trees

end

/-- Every cocoon of the scope is in the tree once, and nothing else is: under its parent where the
parent is in the scope, and as a root otherwise. -/
def IsTreeOf (scope : List Cocoon) (tree : List CocoonTreeNode) : Prop :=
  (placements none tree).Perm
    (scope.map fun c => (c.id, c.parentId.filter fun p => p ∈ scope.map Cocoon.id))

/-- Where `parent_id` points. -/
def parentOfCocoon (cocoons : List Cocoon) (id : RowId) : Option RowId :=
  (get cocoons id).bind Cocoon.parentId

/-- Keys are unique, and every cocoon has one without a parent above it. -/
structure CocoonForest (cocoons : List Cocoon) : Prop where
  nodup : (cocoons.map key).Nodup
  rooted : ∀ c ∈ cocoons, ∃ root ∈ cocoons, root.parentId = none ∧
    Above (parentOfCocoon cocoons) c.id root.id

/-- Nobody else owns the parent of one of the user's cocoons. -/
def ParentsOwned (cocoons : List Cocoon) (user : User) : Prop :=
  ∀ c ∈ ownCocoons cocoons user, ∀ p ∈ c.parentId, p ∈ (ownCocoons cocoons user).map Cocoon.id

/-! ## Depth -/

section Depth

variable {cocoons nodes : List Cocoon} {fuel : ℕ} {p : Option RowId} {branch : List CocoonTreeNode}

lemma CocoonForest.parentOf (h : CocoonForest cocoons) {c : Cocoon} (hc : c ∈ cocoons) :
    parentOfCocoon cocoons c.id = c.parentId := by
  have hget : get cocoons c.id = some c := get_of_mem h.nodup hc
  rw [parentOfCocoon, hget, Option.bind_some]

/-- How far below the roots the children of a node are. -/
def level (depth : RowId → ℕ) (p : Option RowId) : ℕ := p.elim 0 fun id => depth id + 1

/-- The cocoons have depths. -/
def Layered (depth : RowId → ℕ) (nodes : List Cocoon) : Prop :=
  ∀ c ∈ nodes, depth c.id = level depth c.parentId

lemma CocoonForest.layered (h : CocoonForest cocoons) : ∃ depth, Layered depth cocoons := by
  obtain ⟨depth, hroot, hstep⟩ := exists_depth (parentOfCocoon cocoons)
  refine ⟨depth, fun c hc => ?_⟩
  obtain ⟨root, hmem, hnone, habove⟩ := h.rooted c hc
  have hparent := h.parentOf hc
  have hend : parentOfCocoon cocoons root.id = none := (h.parentOf hmem).trans hnone
  cases hp : c.parentId with
  | none => exact hroot c.id (hparent.trans hp)
  | some p => exact hstep c.id root.id p hend habove (hparent.trans hp)

/-- A cocoon that the walk from `p` comes to. -/
inductive Below (nodes : List Cocoon) : Option RowId → Cocoon → Prop
  | child {p : Option RowId} {c : Cocoon} (hc : c ∈ nodes) (hp : c.parentId = p) : Below nodes p c
  | deeper {p : Option RowId} {c y : Cocoon} (hc : c ∈ nodes) (hp : c.parentId = p)
      (h : Below nodes (some c.id) y) : Below nodes p y

lemma Below.mem {c : Cocoon} (h : Below nodes p c) : c ∈ nodes := by
  induction h with
  | child hc _ => exact hc
  | deeper _ _ _ ih => exact ih

lemma Below.climb {depth : RowId → ℕ} (hforest : CocoonForest cocoons)
    (hdepth : Layered depth cocoons) (hsub : nodes ⊆ cocoons) {x : RowId} {y : Cocoon}
    (h : Below nodes (some x) y) : depth x < depth y.id ∧
      climb (parentOfCocoon cocoons) (depth y.id - depth x) y.id = some x := by
  have hstep : ∀ {c x}, c ∈ nodes → c.parentId = some x →
      depth c.id = depth x + 1 ∧ parentOfCocoon cocoons c.id = some x := by
    intro c x hc hp
    refine ⟨?_, (hforest.parentOf (hsub hc)).trans hp⟩
    rw [hdepth c (hsub hc), hp]
    rfl
  generalize hx : some x = p at h
  induction h generalizing x with
  | @child p c hc hp =>
    subst hx
    obtain ⟨hone, hparent⟩ := hstep hc hp
    refine ⟨by omega, ?_⟩
    have hdiff : depth c.id - depth x = 0 + 1 := by omega
    rw [hdiff, climb_succ_of_parent hparent, climb_zero]
  | @deeper p c y hc hp _ ih =>
    subst hx
    obtain ⟨hone, hparent⟩ := hstep hc hp
    obtain ⟨hlt, hclimb⟩ := ih rfl
    refine ⟨by omega, ?_⟩
    have hdiff : depth y.id - depth x = (depth y.id - depth c.id) + (0 + 1) := by omega
    rw [hdiff, climb_add, hclimb, Option.bind_some, climb_succ_of_parent hparent, climb_zero]

end Depth

/-! ## The nodes of the tree -/

section Tree

variable {cocoons nodes : List Cocoon} {fuel fuel' : ℕ} {p : Option RowId}
  {branch : List CocoonTreeNode}

lemma buildTree_mono (hle : fuel ≤ fuel') (h : buildTree fuel nodes p = some branch) :
    buildTree fuel' nodes p = some branch := by
  induction fuel generalizing fuel' p branch with
  | zero => cases h
  | succ fuel ih =>
    obtain ⟨fuel', rfl⟩ : ∃ n, fuel' = n + 1 := ⟨fuel' - 1, by omega⟩
    unfold buildTree at h ⊢
    rw [mapM_eq_some_iff] at h ⊢
    refine h.imp fun c tree htree => ?_
    obtain ⟨children, hchildren, htree⟩ := Option.map_eq_some_iff.mp htree
    rw [ih (by omega) hchildren, Option.map_some, htree]

lemma placements_buildTree (h : buildTree (fuel + 1) nodes p = some branch) :
    (∀ c ∈ nodes, c.parentId = p → (buildTree fuel nodes (some c.id)).isSome) ∧
      placements p branch = (nodes.filter fun item => item.parentId = p).flatMap fun c =>
        (c.id, p) :: placements (some c.id) ((buildTree fuel nodes (some c.id)).getD []) := by
  unfold buildTree at h
  rw [mapM_eq_some_iff] at h
  have hall : ∀ l, List.Forall₂ (fun (a : Cocoon) b => (buildTree fuel nodes (some a.id)).map
      (fun children => CocoonTreeNode.node a.id a.name a.parentId children) = some b) l branch →
      (∀ c ∈ l, (buildTree fuel nodes (some c.id)).isSome) ∧
        placements p branch = l.flatMap fun c =>
          (c.id, p) :: placements (some c.id) ((buildTree fuel nodes (some c.id)).getD []) := by
    intro l hl
    clear h
    induction hl with
    | nil => exact ⟨fun c hc => absurd hc List.not_mem_nil, rfl⟩
    | cons htree _ ih =>
      obtain ⟨children, hchildren, rfl⟩ := Option.map_eq_some_iff.mp htree
      refine ⟨List.forall_mem_cons.mpr ⟨by rw [hchildren]; rfl, ih.1⟩, ?_⟩
      rw [placements, CocoonTreeNode.placements, List.flatMap_cons, ih.2, hchildren,
        Option.getD_some]
  obtain ⟨hsome, hplaces⟩ := hall _ h
  exact ⟨fun c hc hp => hsome c (List.mem_filter.mpr ⟨hc, by simpa using hp⟩), hplaces⟩

lemma mem_placements (h : buildTree fuel nodes p = some branch) {e : RowId × Option RowId} :
    e ∈ placements p branch ↔ ∃ c, Below nodes p c ∧ (c.id, c.parentId) = e := by
  induction fuel generalizing p branch with
  | zero => cases h
  | succ fuel ih =>
    obtain ⟨hsome, hplaces⟩ := placements_buildTree h
    have hbelow : ∀ c ∈ nodes, c.parentId = p →
        (e ∈ placements (some c.id) ((buildTree fuel nodes (some c.id)).getD []) ↔
          ∃ y, Below nodes (some c.id) y ∧ (y.id, y.parentId) = e) := by
      intro c hc hp
      obtain ⟨children, hchildren⟩ := Option.isSome_iff_exists.mp (hsome c hc hp)
      rw [hchildren, Option.getD_some]
      exact ih hchildren
    rw [hplaces, List.mem_flatMap]
    constructor
    · rintro ⟨c, hc, he⟩
      obtain ⟨hc, hp⟩ := List.mem_filter.mp hc
      rw [decide_eq_true_eq] at hp
      rcases List.mem_cons.mp he with rfl | he
      · exact ⟨c, .child hc hp, by rw [hp]⟩
      · obtain ⟨y, hy, hye⟩ := (hbelow c hc hp).mp he
        exact ⟨y, .deeper hc hp hy, hye⟩
    · rintro ⟨y, hy, rfl⟩
      cases hy with
      | child hc hp =>
        refine ⟨y, List.mem_filter.mpr ⟨hc, by simpa using hp⟩, ?_⟩
        rw [hp]
        exact List.mem_cons_self
      | @deeper _ c _ hc hp hy =>
        refine ⟨c, List.mem_filter.mpr ⟨hc, by simpa using hp⟩, List.mem_cons_of_mem _ ?_⟩
        exact (hbelow c hc hp).mpr ⟨y, hy, rfl⟩

lemma nodup_placements {depth : RowId → ℕ} (hforest : CocoonForest cocoons)
    (hdepth : Layered depth cocoons) (hsub : nodes.Sublist cocoons)
    (h : buildTree fuel nodes p = some branch) : ((placements p branch).map Prod.fst).Nodup := by
  have hnodup : (nodes.map Cocoon.id).Nodup := hforest.nodup.sublist (hsub.map Cocoon.id)
  induction fuel generalizing p branch with
  | zero => cases h
  | succ fuel ih =>
    obtain ⟨hsome, hplaces⟩ := placements_buildTree h
    -- what is below a node has its id or is further down
    have hmem : ∀ c ∈ nodes, c.parentId = p → ∀ id,
        id ∈ (((c.id, p) :: placements (some c.id)
          ((buildTree fuel nodes (some c.id)).getD [])).map Prod.fst) →
        climb (parentOfCocoon cocoons) (depth id - depth c.id) id = some c.id ∧
          (id = c.id ∨ depth c.id < depth id) := by
      intro c hc hp id hid
      rw [List.map_cons] at hid
      rcases List.mem_cons.mp hid with rfl | hid
      · exact ⟨by rw [Nat.sub_self, climb_zero], .inl rfl⟩
      · obtain ⟨children, hchildren⟩ := Option.isSome_iff_exists.mp (hsome c hc hp)
        rw [hchildren, Option.getD_some] at hid
        obtain ⟨e, he, rfl⟩ := List.mem_map.mp hid
        obtain ⟨y, hy, rfl⟩ := (mem_placements hchildren).mp he
        obtain ⟨hlt, hclimb⟩ := hy.climb hforest hdepth hsub.subset
        exact ⟨hclimb, .inr hlt⟩
    rw [hplaces, List.map_flatMap, List.nodup_flatMap]
    constructor
    · intro c hc
      obtain ⟨hc, hp⟩ := List.mem_filter.mp hc
      rw [decide_eq_true_eq] at hp
      obtain ⟨children, hchildren⟩ := Option.isSome_iff_exists.mp (hsome c hc hp)
      rw [hchildren, Option.getD_some, List.map_cons, List.nodup_cons]
      refine ⟨fun hin => ?_, ih hchildren⟩
      obtain ⟨e, he, heq⟩ := List.mem_map.mp hin
      obtain ⟨y, hy, rfl⟩ := (mem_placements hchildren).mp he
      have hlt := (hy.climb hforest hdepth hsub.subset).1
      rw [show y.id = c.id from heq] at hlt
      exact lt_irrefl _ hlt
    · have hpair : (nodes.filter fun item => item.parentId = p).Pairwise
          fun c c' => c.id ≠ c'.id :=
        List.pairwise_map.mp (hnodup.sublist (List.filter_sublist.map Cocoon.id))
      refine hpair.imp_of_mem fun {c c'} hc hc' hne id hid hid' => hne ?_
      obtain ⟨hc, hp⟩ := List.mem_filter.mp hc
      obtain ⟨hc', hp'⟩ := List.mem_filter.mp hc'
      rw [decide_eq_true_eq] at hp hp'
      -- both are as many steps up, so they are the same
      have hlevel : depth c.id = depth c'.id := by
        rw [hdepth c (hsub.subset hc), hdepth c' (hsub.subset hc'), hp, hp']
      have hup := (hmem c hc hp id hid).1
      have hup' := (hmem c' hc' hp' id hid').1
      rw [hlevel, hup'] at hup
      exact (Option.some.inj hup).symm

lemma isSome_buildTree {depth : RowId → ℕ} {deepest : ℕ} (hdepth : Layered depth nodes)
    (hdeepest : ∀ c ∈ nodes, depth c.id ≤ deepest) (hpos : 0 < fuel)
    (hfuel : deepest + 1 < fuel + level depth p) : (buildTree fuel nodes p).isSome := by
  induction fuel generalizing p with
  | zero => exact absurd hpos (lt_irrefl 0)
  | succ fuel ih =>
    unfold buildTree
    refine isSome_mapM_iff.mpr fun c hc => ?_
    obtain ⟨hc, hp⟩ := List.mem_filter.mp hc
    rw [decide_eq_true_eq] at hp
    have hlevel := hdepth c hc
    have hle := hdeepest c hc
    rw [hp] at hlevel
    have hnext : level depth (some c.id) = depth c.id + 1 := rfl
    rw [Option.isSome_map]
    exact ih (by omega) (by omega)

lemma Below.parent {c : Cocoon} (h : Below nodes p c) :
    c.parentId = p ∨ ∃ q ∈ nodes, c.parentId = some q.id := by
  induction h with
  | child _ hp => exact .inl hp
  | @deeper p c y hc _ _ ih =>
    rcases ih with hparent | hmem
    · exact .inr ⟨c, hc, hparent⟩
    · exact .inr hmem

lemma Below.extend {q c : Cocoon} (h : Below nodes p q) (hc : c ∈ nodes)
    (hparent : c.parentId = some q.id) : Below nodes p c := by
  induction h with
  | child hq hp => exact .deeper hq hp (.child hc hparent)
  | deeper hx hp _ ih => exact .deeper hx hp (ih hparent)

lemma below_roots {depth : RowId → ℕ} (hdepth : Layered depth nodes)
    (hparents : ∀ c ∈ nodes, ∀ p ∈ c.parentId, p ∈ nodes.map Cocoon.id) :
    ∀ c ∈ nodes, Below nodes none c := by
  intro c
  induction hn : depth c.id using Nat.strong_induction_on generalizing c with
  | _ n ih =>
    intro hc
    cases hp : c.parentId with
    | none => exact .child hc hp
    | some p =>
      obtain ⟨q, hq, rfl⟩ := List.mem_map.mp (hparents c hc p hp)
      have hlevel : depth c.id = depth q.id + 1 := by
        rw [hdepth c hc, hp]
        rfl
      exact Below.extend (ih (depth q.id) (by omega) q rfl hq) hc hp

end Tree

/-! ## The tree of a user's cocoons -/

section Scope

variable {cocoons : List Cocoon} {user : User} {fuel : ℕ} {tree : List CocoonTreeNode}

lemma ownCocoons_sublist (cocoons : List Cocoon) (user : User) :
    (ownCocoons cocoons user).Sublist cocoons :=
  List.filter_sublist

lemma parentsOwned_of_isTreeOf (hforest : CocoonForest cocoons)
    (htree : buildTree fuel (ownCocoons cocoons user) none = some tree)
    (h : IsTreeOf (ownCocoons cocoons user) tree) : ParentsOwned cocoons user := by
  intro c hc p hp
  have hplace := h.mem_iff.mpr (List.mem_map_of_mem hc)
  obtain ⟨y, hy, heq⟩ := (mem_placements htree).mp hplace
  have hid : y.id = c.id := congrArg Prod.fst heq
  obtain rfl : y = c := List.inj_on_of_nodup_map hforest.nodup
    ((ownCocoons_sublist ..).subset hy.mem) ((ownCocoons_sublist ..).subset hc) hid
  rw [Option.mem_def] at hp
  rcases hy.parent with hroot | ⟨q, hq, hparent⟩
  · rw [hp] at hroot
    cases hroot
  · rw [hp] at hparent
    rw [Option.some.inj hparent]
    exact List.mem_map_of_mem hq

lemma isTreeOf_of_parentsOwned (hforest : CocoonForest cocoons)
    (htree : buildTree fuel (ownCocoons cocoons user) none = some tree)
    (h : ParentsOwned cocoons user) : IsTreeOf (ownCocoons cocoons user) tree := by
  obtain ⟨depth, hdepth⟩ := hforest.layered
  have hsub := ownCocoons_sublist cocoons user
  have hscope : ((ownCocoons cocoons user).map fun c => (c.id, c.parentId.filter fun p =>
      p ∈ (ownCocoons cocoons user).map Cocoon.id)) =
      (ownCocoons cocoons user).map fun c => (c.id, c.parentId) := by
    refine List.map_congr_left fun c hc => ?_
    cases hp : c.parentId with
    | none => rfl
    | some p => rw [Option.filter_some, if_pos (by simpa using h c hc p hp)]
  rw [IsTreeOf, hscope]
  refine (List.perm_ext_iff_of_nodup ?_ ?_).mpr fun e => ?_
  · exact (nodup_placements hforest hdepth hsub htree).of_map Prod.fst
  · refine List.Nodup.of_map Prod.fst ?_
    rw [List.map_map]
    exact hforest.nodup.sublist (hsub.map key)
  · rw [mem_placements htree, List.mem_map]
    refine exists_congr fun c => and_congr_left fun _ => ⟨Below.mem, ?_⟩
    exact below_roots (fun c hc => hdepth c (hsub.subset hc)) h c

/-- The tree of a user's cocoons is built, and it is the tree of all of them if and only if nobody
else owns the parent of one. -/
theorem cocoonTree_spec (settings : Settings) (accounts : Accounts) (hforest : CocoonForest cocoons)
    (user : User) : ∃ tree,
      (∃ bound, ∀ fuel ≥ bound, cocoonTree settings accounts fuel cocoons user = some tree) ∧
      (IsTreeOf (ownCocoons cocoons user) tree ↔ ParentsOwned cocoons user) := by
  obtain ⟨depth, hdepth⟩ := hforest.layered
  have hown : Layered depth (ownCocoons cocoons user) :=
    fun c hc => hdepth c ((ownCocoons_sublist ..).subset hc)
  obtain ⟨deepest, hdeepest⟩ := Finset.exists_nat_subset_range
    ((ownCocoons cocoons user).map fun c => depth c.id).toFinset
  have hle : ∀ c ∈ ownCocoons cocoons user, depth c.id ≤ deepest := fun c hc =>
    le_of_lt (Finset.mem_range.mp (hdeepest (List.mem_toFinset.mpr (List.mem_map_of_mem hc))))
  have hsome : (buildTree (deepest + 2) (ownCocoons cocoons user) none).isSome :=
    isSome_buildTree hown hle (by omega) (by omega)
  obtain ⟨tree, htree⟩ := Option.isSome_iff_exists.mp hsome
  refine ⟨tree, ⟨deepest + 2, fun fuel hfuel => ?_⟩, parentsOwned_of_isTreeOf hforest htree,
    isTreeOf_of_parentsOwned hforest htree⟩
  rw [cocoonTree_eq]
  exact buildTree_mono hfuel htree

end Scope

/-! ## A fork of somebody else's cocoon -/

/-- `bob`, who is no admin. -/
def bobOfTree : User where
  id := "bob"
  username := "bob"
  passwordHash := "h"

/-- A cocoon of `ann`'s, and a fork that `bob` has made of it. -/
def forkedCocoons : List Cocoon :=
  [{ id := "trunk", ownerUserId := "ann", characterId := "ch1" },
   { id := "fork", parentId := some "trunk", ownerUserId := "bob", characterId := "ch1" }]

lemma forkedCocoons_forest : CocoonForest forkedCocoons where
  nodup := by decide
  rooted := by
    intro c hc
    refine ⟨_, List.mem_cons_self, rfl, ?_⟩
    rcases List.mem_cons.mp hc with rfl | hc
    · exact ⟨0, rfl⟩
    · obtain rfl := List.mem_singleton.mp hc
      exact ⟨1, rfl⟩

/-- `bob`'s fork is nowhere in his tree. -/
theorem fork_missing : CocoonForest forkedCocoons ∧
    ∃ tree, cocoonTree {} {} 3 forkedCocoons bobOfTree = some tree ∧
      ¬ IsTreeOf (ownCocoons forkedCocoons bobOfTree) tree := by
  refine ⟨forkedCocoons_forest, [], rfl, fun h => ?_⟩
  exact absurd h.length_eq (by decide)

/-- `ann`'s tree has all of hers. -/
theorem fork_of_own : ∃ tree,
    (∃ bound, ∀ fuel ≥ bound, cocoonTree {} {} fuel forkedCocoons { bobOfTree with id := "ann" } =
      some tree) ∧
    (IsTreeOf (ownCocoons forkedCocoons { bobOfTree with id := "ann" }) tree ↔
      ParentsOwned forkedCocoons { bobOfTree with id := "ann" }) :=
  cocoonTree_spec {} {} forkedCocoons_forest _

end CocoonSit
