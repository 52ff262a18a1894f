import CocoonSit.Model.Python
import Mathlib.Data.List.Flatten

/-!
# Assembling the prompt

The system prompt and the event prompt both describe the character and the session, so the service
cuts that out of the system prompt before it joins the two.  It cuts from the first context heading
to the first heading of the global rules, wherever these two are.  The prompt is read here with a
mark on each character: does it come from a context section of the template or not?
-/

namespace CocoonSit

namespace PromptAssembly

def contextHeadings : List String := ["角色专属设定：", "当前会话状态："]

def globalRulesHeading : String := "全局规则："

/-- `s.find(sub)`, if it is there. -/
def find (s sub : String) : Option ℕ :=
  (List.range (s.toList.length + 1)).find? fun i => sub.toList.isPrefixOf (s.toList.drop i)

/-- `context_index` and `rules_index`, if the system prompt is trimmed. -/
def trimIndices (systemPrompt eventPrompt : String) : Option (ℕ × ℕ) :=
  if ¬ contextHeadings.all fun heading => (find eventPrompt heading).isSome then none
  else if ¬ contextHeadings.all fun heading => (find systemPrompt heading).isSome then none
  else (find systemPrompt globalRulesHeading).bind fun rulesIndex =>
    (contextHeadings.filterMap (find systemPrompt)).min?.map fun contextIndex =>
      (contextIndex, rulesIndex)

def trimOverlappingSystemContext (systemPrompt eventPrompt : String) : String :=
  match trimIndices systemPrompt eventPrompt with
  | none => systemPrompt
  | some (contextIndex, rulesIndex) =>
    let pre := strip (String.ofList (systemPrompt.toList.take contextIndex))
    let rules := strip (String.ofList (systemPrompt.toList.drop rulesIndex))
    strip (pre ++ "\n\n" ++ rules)

def combinePrompts (systemPrompt eventPrompt : String) : String :=
  strip (trimOverlappingSystemContext systemPrompt eventPrompt ++ "\n\n" ++ eventPrompt)

/-! ## Marked prompts -/

/-- A part of a rendered system prompt: a section on the character or the session, which begins with
its heading, or anything else.  Both have arbitrary texts in them. -/
inductive PromptPart where
  | context (heading : String) (hheading : heading ∈ contextHeadings) (body : String)
  | other (text : String)

def PromptPart.text : PromptPart → String
  | context heading _ body => heading ++ body
  | other text => text

def PromptPart.isContext : PromptPart → Bool
  | context .. => true
  | other _ => false

/-- The characters of a prompt, each with the mark of its part. -/
def marks (parts : List PromptPart) : List (Char × Bool) :=
  parts.flatMap fun p => p.text.toList.map fun c => (c, p.isContext)

def promptText (parts : List PromptPart) : String := String.ofList ((marks parts).map Prod.fst)

/-- What a text has besides white space. -/
def solid (cs : List Char) : List Char := cs.filter fun c => !isSpace c

/-- What the parts that are no context have besides white space. -/
def others (ms : List (Char × Bool)) : List (Char × Bool) :=
  ms.filter fun m => !m.2 && !isSpace m.1

/-- What is kept of the system prompt, in the order in which it is put out. -/
def keptMarks (parts : List PromptPart) (eventPrompt : String) : List (Char × Bool) :=
  match trimIndices (promptText parts) eventPrompt with
  | none => marks parts
  | some (contextIndex, rulesIndex) =>
    (marks parts).take contextIndex ++ (marks parts).drop rulesIndex

/-- Every part that is no context is kept, once and in order, and the event prompt follows. -/
structure KeepsOthers (parts : List PromptPart) (eventPrompt : String) : Prop where
  once : others (keptMarks parts eventPrompt) = others (marks parts)
  combined : solid (combinePrompts (promptText parts) eventPrompt).toList =
    solid ((keptMarks parts eventPrompt).map Prod.fst) ++ solid eventPrompt.toList

/-- Where something is cut out, it begins before the global rules and is nothing but context. -/
def CutsContext (parts : List PromptPart) (eventPrompt : String) : Prop :=
  ∀ contextIndex rulesIndex,
    trimIndices (promptText parts) eventPrompt = some (contextIndex, rulesIndex) →
      contextIndex ≤ rulesIndex ∧
        others (((marks parts).take rulesIndex).drop contextIndex) = []

/-! ## White space -/

lemma solid_append (a b : List Char) : solid (a ++ b) = solid a ++ solid b := List.filter_append ..

lemma solid_dropWhile (cs : List Char) : solid (cs.dropWhile isSpace) = solid cs := by
  induction cs with
  | nil => rfl
  | cons c cs ih =>
    cases hc : isSpace c with
    | true =>
      rw [List.dropWhile_cons_of_pos hc, ih, solid, solid,
        List.filter_cons_of_neg (by simp [hc])]
    | false => rw [List.dropWhile_cons_of_neg (by simp [hc])]

lemma solid_strip (s : String) : solid (strip s).toList = solid s.toList := by
  have hreverse : ∀ cs : List Char, solid cs.reverse = (solid cs).reverse := fun cs =>
    List.filter_reverse
  rw [strip, String.toList_ofList, hreverse, solid_dropWhile, hreverse, List.reverse_reverse,
    solid_dropWhile]

lemma solid_join (a b : String) :
    solid (strip (a ++ "\n\n" ++ b)).toList = solid a.toList ++ solid b.toList := by
  have hbreak : solid ("\n\n" : String).toList = [] := by decide
  rw [solid_strip, String.toList_append, String.toList_append, solid_append, solid_append, hbreak,
    List.append_nil]

lemma solid_combinePrompts (parts : List PromptPart) (eventPrompt : String) :
    solid (combinePrompts (promptText parts) eventPrompt).toList =
      solid ((keptMarks parts eventPrompt).map Prod.fst) ++ solid eventPrompt.toList := by
  rw [combinePrompts, solid_join]
  congr 1
  unfold trimOverlappingSystemContext keptMarks
  cases htrim : trimIndices (promptText parts) eventPrompt with
  | none => rw [promptText, String.toList_ofList]
  | some indices =>
    dsimp only
    rw [solid_join, solid_strip, solid_strip, String.toList_ofList, String.toList_ofList,
      promptText, String.toList_ofList, List.map_append, solid_append, List.map_take,
      List.map_drop]

/-! ## Where the headings are -/

lemma find_eq_some {s sub : String} {i : ℕ} (h : find s sub = some i) :
    sub.toList <+: s.toList.drop i := by
  have hpre := List.find?_some h
  rwa [List.isPrefixOf_iff_prefix] at hpre

lemma find_le {s sub : String} {i j : ℕ} (h : find s sub = some i)
    (hj : sub.toList <+: s.toList.drop j) : i ≤ j := by
  by_contra hlt
  have hfirst := (List.find?_range_eq_some.mp h).2.2 j (by omega)
  rw [← List.isPrefixOf_iff_prefix] at hj
  simp [hj] at hfirst

lemma trimIndices_eq_some {systemPrompt eventPrompt : String} {contextIndex rulesIndex : ℕ}
    (h : trimIndices systemPrompt eventPrompt = some (contextIndex, rulesIndex)) :
    find systemPrompt globalRulesHeading = some rulesIndex ∧
      ∀ heading ∈ contextHeadings, ∀ j, heading.toList <+: systemPrompt.toList.drop j →
        contextIndex ≤ j := by
  unfold trimIndices at h
  split at h
  · cases h
  split at h
  · cases h
  next hheadings =>
  obtain ⟨r, hr, h⟩ := Option.bind_eq_some_iff.mp h
  obtain ⟨c, hc, h⟩ := Option.map_eq_some_iff.mp h
  obtain ⟨rfl, rfl⟩ := Prod.mk.inj h
  refine ⟨hr, fun heading hheading j hj => ?_⟩
  rw [not_not, List.all_eq_true] at hheadings
  obtain ⟨i, hi⟩ := Option.isSome_iff_exists.mp (hheadings heading hheading)
  have hle : c ≤ i := (List.min?_eq_some_iff.mp hc).2 i (List.mem_filterMap.mpr ⟨_, hheading, hi⟩)
  exact hle.trans (find_le hi hj)

lemma heading_of_context {parts : List PromptPart} {i : ℕ} {m : Char × Bool}
    (hm : (marks parts)[i]? = some m) (hcontext : m.2 = true) :
    ∃ heading ∈ contextHeadings, ∃ j ≤ i,
      heading.toList <+: ((marks parts).map Prod.fst).drop j := by
  induction parts generalizing i with
  | nil => simp [marks] at hm
  | cons p parts ih =>
    have hmarks : marks (p :: parts) =
        p.text.toList.map (fun c => (c, p.isContext)) ++ marks parts := rfl
    rw [hmarks] at hm ⊢
    have hlen : (p.text.toList.map fun c => (c, p.isContext)).length = p.text.toList.length :=
      List.length_map ..
    by_cases hi : i < p.text.toList.length
    · rw [List.getElem?_append_left (by omega), List.getElem?_map] at hm
      obtain ⟨c, -, rfl⟩ := Option.map_eq_some_iff.mp hm
      cases p with
      | other text => cases hcontext
      | context heading hheading body =>
        refine ⟨heading, hheading, 0, Nat.zero_le _, ?_⟩
        rw [List.drop_zero, List.map_append, List.map_map]
        have hfst : (Prod.fst ∘ fun c : Char => (c, (PromptPart.context heading hheading
            body).isContext)) = id := rfl
        rw [hfst, List.map_id, PromptPart.text, String.toList_append, List.append_assoc]
        exact List.prefix_append _ _
    · rw [List.getElem?_append_right (by omega)] at hm
      obtain ⟨heading, hheading, j, hj, hpre⟩ := ih hm
      refine ⟨heading, hheading, p.text.toList.length + j, by omega, ?_⟩
      have htext : ((p.text.toList.map fun c => (c, p.isContext)).map Prod.fst).length =
          p.text.toList.length := by rw [List.length_map, hlen]
      rwa [List.map_append, ← htext, List.drop_length_add_append]

/-! ## What is cut out -/

lemma others_append (a b : List (Char × Bool)) : others (a ++ b) = others a ++ others b :=
  List.filter_append ..

lemma others_cut (ms : List (Char × Bool)) {c r : ℕ} (h : c ≤ r) :
    others (ms.take c ++ ms.drop r) = others ms ↔ others ((ms.take r).drop c) = [] := by
  have hms : ms = ms.take c ++ ((ms.take r).drop c ++ ms.drop r) := by
    have htake : (ms.take r).take c = ms.take c := by rw [List.take_take, min_eq_left h]
    rw [← List.append_assoc, ← htake, List.take_append_drop, List.take_append_drop]
  conv_lhs => rhs; rw [hms]
  rw [others_append, others_append, others_append, List.append_cancel_left_eq]
  constructor
  · intro heq
    have hlen := congrArg List.length heq
    rw [List.length_append] at hlen
    exact List.length_eq_zero_iff.mp (by omega)
  · intro hnil
    rw [hnil, List.nil_append]

lemma others_repeat (ms : List (Char × Bool)) {c r : ℕ} (h : r ≤ c) :
    others (ms.take c ++ ms.drop r) = others ms ↔ others ((ms.take c).drop r) = [] := by
  have htake : (ms.take c).take r = ms.take r := by rw [List.take_take, min_eq_left h]
  have hms : others ms = others (ms.take r) ++ others (ms.drop r) := by
    rw [← others_append, List.take_append_drop]
  have hc : others (ms.take c) = others (ms.take r) ++ others ((ms.take c).drop r) := by
    rw [← others_append, ← htake, List.take_append_drop]
  rw [others_append, hms, hc, List.append_assoc, List.append_cancel_left_eq]
  constructor
  · intro heq
    have hlen := congrArg List.length heq
    rw [List.length_append] at hlen
    exact List.length_eq_zero_iff.mp (by omega)
  · intro hnil
    rw [hnil, List.nil_append]

lemma others_ne_nil_of_rules_first {parts : List PromptPart} {eventPrompt : String} {c r : ℕ}
    (h : trimIndices (promptText parts) eventPrompt = some (c, r)) (hlt : r < c) :
    others (((marks parts).take c).drop r) ≠ [] := by
  obtain ⟨hrules, hcontext⟩ := trimIndices_eq_some h
  have hpre := find_eq_some hrules
  rw [promptText, String.toList_ofList] at hpre hcontext
  obtain ⟨rest, hrest⟩ := hpre
  have hmem : '全' ∈ (((marks parts).take c).drop r).map Prod.fst := by
    rw [List.map_drop, List.map_take, List.drop_take, ← hrest]
    obtain ⟨k, hk⟩ : ∃ k, c - r = k + 1 := ⟨c - r - 1, by omega⟩
    rw [hk]
    exact List.mem_cons_self
  obtain ⟨⟨_, context⟩, hm, rfl⟩ := List.mem_map.mp hmem
  refine List.ne_nil_of_mem (a := ('全', context)) (List.mem_filter.mpr ⟨hm, ?_⟩)
  cases context with
  | false => decide
  | true =>
    obtain ⟨i, hi⟩ := List.getElem?_of_mem (List.mem_of_mem_drop hm)
    rw [List.getElem?_take] at hi
    split at hi
    · next hic =>
      obtain ⟨heading, hheading, j, hj, hpre⟩ := heading_of_context hi rfl
      have := hcontext heading hheading j hpre
      omega
    · cases hi

/-- Every part that is no context is kept once, in order and before the whole event prompt, exactly
when what the trimming cuts out is nothing but context. -/
theorem keepsOthers_iff_cutsContext (parts : List PromptPart) (eventPrompt : String) :
    KeepsOthers parts eventPrompt ↔ CutsContext parts eventPrompt := by
  have hiff : KeepsOthers parts eventPrompt ↔
      others (keptMarks parts eventPrompt) = others (marks parts) :=
    ⟨fun h => h.once, fun h => ⟨h, solid_combinePrompts parts eventPrompt⟩⟩
  rw [hiff, keptMarks, CutsContext]
  cases htrim : trimIndices (promptText parts) eventPrompt with
  | none => simp
  | some indices =>
    obtain ⟨c, r⟩ := indices
    have hcut : (∀ contextIndex rulesIndex, some (c, r) = some (contextIndex, rulesIndex) →
        contextIndex ≤ rulesIndex ∧
          others (((marks parts).take rulesIndex).drop contextIndex) = []) ↔
        c ≤ r ∧ others (((marks parts).take r).drop c) = [] := by
      refine ⟨fun h => h c r rfl, fun h contextIndex rulesIndex heq => ?_⟩
      obtain ⟨rfl, rfl⟩ := Prod.mk.inj (Option.some.inj heq)
      exact h
    rw [hcut]
    dsimp only
    rcases le_or_gt c r with hle | hlt
    · rw [others_cut _ hle, and_iff_right hle]
    · rw [others_repeat _ hlt.le]
      exact iff_of_false (others_ne_nil_of_rules_first htrim hlt) fun h => by omega

/-- A system prompt like the default one, with what the provider can do between the session's state
and the rules. -/
def defaultParts : List PromptPart :=
  [.other "你正在扮演当前角色。\n\n",
    .context "角色专属设定：" (by decide) "\n林夏\n\n",
    .context "当前会话状态：" (by decide) "\n平静\n\n",
    .other "当前模型与提供方能力：\n流式\n\n",
    .other "全局规则：\n1. 保持角色。"]

/-- What the provider can do is lost. -/
theorem defaultParts_not_keepsOthers :
    combinePrompts (promptText defaultParts) "角色专属设定：\n林夏\n\n当前会话状态：\n平静" =
        "你正在扮演当前角色。\n\n全局规则：\n1. 保持角色。\n\n角色专属设定：\n林夏\n\n当前会话状态：\n平静" ∧
      ¬ ∀ parts eventPrompt, KeepsOthers parts eventPrompt := by
  refine ⟨by decide +kernel, fun h => ?_⟩
  have honce := (h defaultParts "角色专属设定：\n林夏\n\n当前会话状态：\n平静").once
  revert honce
  decide +kernel

end PromptAssembly

end CocoonSit
